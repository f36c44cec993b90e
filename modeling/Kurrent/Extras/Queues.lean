import Kurrent.Extras.StatsOrder

/-!
# The queues of the statistics

The key of a queue's metric is `es-queue-`, the name of the queue, a hyphen and the metric.
Names may hold hyphens themselves; metrics hold none, so that the last hyphen is the one
behind the name. What is stated here is that a parsed record has the queues its keys name,
and in each of them what the queue's own keys say.
-/

namespace Kurrent.Extras

open Lib

variable {N : Numerals}

def queueKey (q prop : String) : String := "es-queue-" ++ (q ++ String.singleton '-' ++ prop)

/-! ## The key of a queue -/

/-- The bytes of a key, on which a table of keys is quick to check. -/
def keyBytes (key : String) : List UInt8 := key.toByteArray.data.toList

theorem keyBytes_append (s t : String) : keyBytes s <+: keyBytes (s ++ t) := by
  unfold keyBytes
  rw [String.toByteArray_append, ByteArray.data_append, Array.toList_append]
  exact List.prefix_append _ _

/-- No metric with a key of its own has the prefix of the drives or of the queues. -/
theorem lookup_readers_prefixed {key rest : String}
    (h : key = "sys-drive-" ++ rest ∨ key = "es-queue-" ++ rest) :
    (Metric.readers N).lookup key = none := by
  have hkeys : (Metric.readers N).map Prod.fst = (Metric.readers noNumerals).map Prod.fst := rfl
  have hall : ((Metric.readers noNumerals).map Prod.fst).all (fun k =>
      !(keyBytes "sys-drive-").isPrefixOf (keyBytes k) &&
        !(keyBytes "es-queue-").isPrefixOf (keyBytes k)) = true := by decide +kernel
  cases hr : (Metric.readers N).lookup key with
  | none => rfl
  | some read =>
    have hmem : key ∈ (Metric.readers noNumerals).map Prod.fst := by
      rw [← hkeys]
      exact List.mem_map.mpr ⟨_, mem_of_lookup hr, rfl⟩
    have hkey := List.all_eq_true.mp hall key hmem
    rw [Bool.and_eq_true, Bool.not_eq_true', Bool.not_eq_true'] at hkey
    rcases h with rfl | rfl
    · have hprefix := List.isPrefixOf_iff_prefix.mpr (keyBytes_append "sys-drive-" rest)
      rw [hkey.1] at hprefix
      cases hprefix
    · have hprefix := List.isPrefixOf_iff_prefix.mpr (keyBytes_append "es-queue-" rest)
      rw [hkey.2] at hprefix
      cases hprefix

theorem stripPrefix_drive_queue (rest : String) :
    stripPrefix "sys-drive-" ("es-queue-" ++ rest) = none := by
  cases hs : stripPrefix "sys-drive-" ("es-queue-" ++ rest) with
  | none => rfl
  | some r =>
    have heq := congrArg String.toList (stripPrefix_eq hs)
    simp at heq

/-- What an entry does to the queue it names. -/
def metricEffect (N : Numerals) (q prop value : String) : StatEffect N :=
  match (QueueMetric.readers N).lookup prop with
  | none => .queue q none
  | some read =>
    match read value with
    | .ok m => .queue q m
    | .error _ => .unreadable

theorem effect_queueKey {q prop : String} (h : '-' ∉ prop.toList) (value : String) :
    effect N (queueKey q prop) value = metricEffect N q prop value := by
  unfold effect queueKey
  rw [lookup_readers_prefixed (.inr rfl)]
  simp only
  rw [stripPrefix_drive_queue, stripPrefix_append]
  simp only [queueEffect, rsplitOnce_append h]
  rfl

/-- An entry of a queue has a key that names it. -/
theorem queueKey_of_effect {key value q : String} {m : Option (QueueMetric N)}
    (h : effect N key value = .queue q m) : ∃ prop, '-' ∉ prop.toList ∧ key = queueKey q prop := by
  unfold effect at h
  split at h
  next => split at h <;> cases h
  next =>
    split at h
    next rest _ =>
      rcases driveEffect_cases (N := N) key rest value with hd | ⟨d, hd⟩
      · rw [hd] at h; cases h
      · rw [hd] at h; cases h
    next =>
      split at h
      next rest hrest =>
        unfold queueEffect at h
        rcases rsplitOnce_cases '-' rest with ⟨-, hnone⟩ | ⟨name, prop, hprop, hs, heq⟩
        · rw [hnone] at h; cases h
        · have hname : name = q := by
            rw [heq] at h
            simp only at h
            split at h
            next => cases h; rfl
            next => split at h <;> cases h; rfl
          subst hname
          exact ⟨prop, hprop, by rw [stripPrefix_eq hrest, hs, queueKey]⟩
      next => cases h

/-! ## What an entry does to a queue -/

/-- An entry sets a metric of the queue, or leaves the queue as it is. -/
theorem apply_queue {a : StatEffect N} {s t : Statistics N} (h : a.apply s = some t) (q : String) :
    (∃ m, a = .queue q m ∧ t.es.queues.lookup q = some ((s.queue q).puts m)) ∨
      (∀ m, a ≠ .queue q m) ∧ t.es.queues.lookup q = s.es.queues.lookup q := by
  cases a with
  | unreadable => cases h
  | put m =>
    cases h
    refine .inr ⟨fun m h => (by cases h), ?_⟩
    cases m with
    | proc m => rfl
    | sys m => rfl
    | es m => cases m <;> rfl
  | drive path m =>
    obtain ⟨d, -, rfl⟩ := Option.map_eq_some_iff.mp h
    exact .inr ⟨fun m h => (by cases h), rfl⟩
  | nothing => cases h; exact .inr ⟨fun m h => (by cases h), rfl⟩
  | queue name m =>
    cases h
    by_cases hname : name = q
    · subst hname
      exact .inl ⟨m, rfl, Finmap.lookup_insert _⟩
    · refine .inr ⟨fun m h => ?_, Finmap.lookup_insert_of_ne _ (Ne.symm hname)⟩
      cases h
      exact hname rfl

theorem metricEffect_cases (q prop value : String) :
    metricEffect N q prop value = .unreadable ∨ ∃ m, metricEffect N q prop value = .queue q m := by
  unfold metricEffect
  cases (QueueMetric.readers N).lookup prop with
  | none => exact .inr ⟨none, rfl⟩
  | some read =>
    simp only
    cases read value with
    | ok m => exact .inr ⟨m, rfl⟩
    | error e => exact .inl rfl

theorem metricEffect_of_apply {q prop value : String} {s t : Statistics N}
    (h : (metricEffect N q prop value).apply s = some t) :
    ∃ m, metricEffect N q prop value = .queue q m := by
  rcases metricEffect_cases (N := N) q prop value with hu | hm
  · rw [hu] at h; cases h
  · exact hm

/-! ## The fields -/

/-- A field of a queue that one metric is read into. -/
structure QueueField (N : Numerals) (A : Type) where
  prop : String
  read : Reading A
  get : Queue N → A
  hyphenless : '-' ∉ prop.toList
  /-- an entry of the metric, when the field has not been set, sets it to what is read -/
  sets : ∀ {q value m}, metricEffect N q prop value = .queue q m → ∀ {queue : Queue N},
    get queue = get {} → read value = .ok (get (queue.puts m))
  keeps : ∀ (queue : Queue N) (m : QueueMetric N), m.prop ≠ prop → get (queue.put m) = get queue

/-- A field whose text is parsed. -/
def QueueField.plain {A : Type} (prop : String) (read : Reading A) (get : Queue N → A)
    (mk : A → QueueMetric N) (hyphenless : '-' ∉ prop.toList := by simp)
    (known : (QueueMetric.readers N).lookup prop =
      some (read.into fun v => some (mk v)) := by rfl)
    (gets : ∀ (queue : Queue N) (v : A), get (queue.put (mk v)) = v := by intros; rfl)
    (keeps : ∀ (queue : Queue N) (m : QueueMetric N), m.prop ≠ prop →
      get (queue.put m) = get queue := by
        intro queue m hm
        cases m <;> first | rfl | exact absurd rfl hm) : QueueField N A where
  prop
  read
  get
  hyphenless
  keeps
  sets := by
    intro q value m h queue _
    unfold metricEffect at h
    rw [known] at h
    simp only [Reading.into] at h
    cases hr : read value with
    | error e => rw [hr] at h; cases h
    | ok v =>
      rw [hr] at h
      cases h
      exact congrArg Except.ok (gets queue v).symm

/-- The text of an optional time; `null` stands for none. -/
def readTime : Reading (Option String) := fun value =>
  .ok (if value = "null" then none else some value)

def QueueField.time (prop : String) (get : Queue N → Option String) (mk : String → QueueMetric N)
    (hyphenless : '-' ∉ prop.toList := by simp)
    (known : (QueueMetric.readers N).lookup prop =
      some (Reading.unlessNull Reading.raw mk) := by rfl)
    (unset : get {} = none := by rfl)
    (gets : ∀ (queue : Queue N) (v : String), get (queue.put (mk v)) = some v := by intros; rfl)
    (keeps : ∀ (queue : Queue N) (m : QueueMetric N), m.prop ≠ prop →
      get (queue.put m) = get queue := by
        intro queue m hm
        cases m <;> first | rfl | exact absurd rfl hm) : QueueField N (Option String) where
  prop
  read := readTime
  get
  hyphenless
  keeps
  sets := by
    intro q value m h queue hqueue
    unfold metricEffect at h
    rw [known] at h
    simp only [Reading.unlessNull, Reading.raw] at h
    unfold readTime
    by_cases hnull : value = "null"
    · rw [if_pos hnull] at h ⊢
      cases h
      exact congrArg Except.ok (hqueue.trans unset).symm
    · rw [if_neg hnull] at h ⊢
      cases h
      exact congrArg Except.ok (gets queue value).symm

/-- The field is read from its key's text, or has the default where there is no such key. -/
def FieldRead {A : Type} (raw : RawStatistics) (q prop : String) (read : Reading A)
    (default value : A) : Prop :=
  match raw.lookup (queueKey q prop) with
  | none => value = default
  | some text => read text = .ok value

section

variable {raw : RawStatistics} {order : Visit raw} {stats : Statistics N}

/-- **Which queues there are**: those a key names. -/
theorem mem_queues_iff (h : applyAll N order.entries {} = some stats) (q : String) :
    q ∈ stats.es.queues ↔ ∃ prop, '-' ∉ prop.toList ∧ queueKey q prop ∈ raw := by
  constructor
  · intro hq
    by_contra hnone
    push Not at hnone
    have hkeep := foldlM_keeps (I := fun s : Statistics N => s.es.queues.lookup q = none)
      (fun e he s t ht hs => by
        rcases apply_queue ht q with ⟨m, hm, -⟩ | ⟨-, hsame⟩
        · obtain ⟨prop, hprop, hkey⟩ := queueKey_of_effect hm
          exact absurd (order.mem_of_entry he) (hkey ▸ hnone prop hprop)
        · rw [hsame, hs]) h rfl
    exact Finmap.lookup_eq_none.mp hkeep hq
  · rintro ⟨prop, hprop, hkey⟩
    obtain ⟨value, hvalue⟩ := Finmap.mem_iff.mp hkey
    have hset := foldlM_once (f := applyEntry) (I := fun _ : Statistics N => True)
      (J := fun s => s.es.queues.lookup q ≠ none) (order.mem_iff.mpr hvalue) order.nodup
      (fun _ _ _ _ _ _ h => h)
      (fun e _ _ s t ht hs => by
        rcases apply_queue ht q with ⟨m, -, hnew⟩ | ⟨-, hsame⟩
        · rw [hnew]; simp
        · rwa [hsame])
      (fun s t ht _ => by
        rw [applyEntry, effect_queueKey hprop] at ht
        obtain ⟨m, hm⟩ := metricEffect_of_apply ht
        rcases apply_queue ht q with ⟨m', -, hnew⟩ | ⟨hnot, -⟩
        · rw [hnew]; simp
        · exact absurd hm (hnot m)) h trivial
    by_contra hq
    exact hset (Finmap.lookup_eq_none.mpr hq)

/-- **What a queue's field is**: the value of its own key, or the default. -/
theorem QueueField.get_run {A : Type} (F : QueueField N A)
    (h : applyAll N order.entries {} = some stats) (q : String) :
    FieldRead raw q F.prop F.read (F.get {}) (F.get (stats.queue q)) := by
  -- another key leaves the field as it is
  have hother : ∀ e : String × String, e.1 ≠ queueKey q F.prop → ∀ s t : Statistics N,
      applyEntry s e = some t → F.get (t.queue q) = F.get (s.queue q) := by
    intro e he s t ht
    rcases apply_queue ht q with ⟨m, hm, hnew⟩ | ⟨-, hsame⟩
    · have hqueue : t.queue q = (s.queue q).puts m := by rw [Statistics.queue, hnew]; rfl
      rw [hqueue]
      cases m with
      | none => rfl
      | some x =>
        refine F.keeps _ _ fun hprop => he ?_
        have hof := effect_of (N := N) e.1 e.2
        rw [hm] at hof
        cases hof with
        | queue hkey => rw [hkey x rfl, hprop, queueKey]
    · rw [Statistics.queue, hsame, Statistics.queue]
  have hown : ∀ value (s t : Statistics N), applyEntry s (queueKey q F.prop, value) = some t →
      F.get (s.queue q) = F.get {} → F.read value = .ok (F.get (t.queue q)) := by
    intro value s t ht hs
    rw [applyEntry, effect_queueKey F.hyphenless] at ht
    obtain ⟨m, hm⟩ := metricEffect_of_apply ht
    rw [hm] at ht
    cases ht
    have hqueue : (s.setQueue q ((s.queue q).puts m)).queue q = (s.queue q).puts m := by
      rw [Statistics.queue, Statistics.setQueue, Finmap.lookup_insert]
      rfl
    rw [hqueue]
    exact F.sets hm hs
  have hrun := get_of_run (fun s => F.get (s.queue q)) F.read (queueKey q F.prop)
    (fun e _ he => hother e he) hown h
  unfold FieldRead
  cases hv : raw.lookup (queueKey q F.prop) with
  | none => exact hrun.1 hv
  | some value => exact hrun.2 value hv

/-- What the keys of a queue say of it, field by field. -/
structure QueueRead (raw : RawStatistics) (q : String) (queue : Queue N) : Prop where
  name : FieldRead raw q "queueName" .raw "" queue.name
  groupName : FieldRead raw q "groupName" .raw "" queue.groupName
  avgItemsPerSecond : FieldRead raw q "avgItemsPerSecond" parseU64 0 queue.avgItemsPerSecond
  currentIdleTime : FieldRead raw q "currentIdleTime" readTime none queue.currentIdleTime
  currentItemProcessingTime : FieldRead raw q "currentItemProcessingTime" readTime none
    queue.currentItemProcessingTime
  idleTimePercent : FieldRead raw q "idleTimePercent" N.parseF32 N.zeroF32 queue.idleTimePercent
  lengthCurrentTryPeak : FieldRead raw q "lengthCurrentTryPeak" parseI64 0
    queue.lengthCurrentTryPeak
  lengthLifetimePeak : FieldRead raw q "lengthLifetimePeak" parseI64 0 queue.lengthLifetimePeak
  length : FieldRead raw q "length" parseI64 0 queue.length
  avgProcessingTime : FieldRead raw q "avgProcessingTime" N.parseF64 N.zeroF64
    queue.avgProcessingTime
  totalItemsProcessed : FieldRead raw q "totalItemsProcessed" parseI64 0
    queue.totalItemsProcessed
  inProgressMessage : FieldRead raw q "inProgressMessage" .raw "" queue.inProgressMessage
  lastProcessedMessage : FieldRead raw q "lastProcessedMessage" .raw ""
    queue.lastProcessedMessage

theorem queueRead_of_run (h : applyAll N order.entries {} = some stats) (q : String) :
    QueueRead raw q (stats.queue q) where
  name := (QueueField.plain "queueName" .raw Queue.name .queueName).get_run h q
  groupName := (QueueField.plain "groupName" .raw Queue.groupName .groupName).get_run h q
  avgItemsPerSecond := (QueueField.plain "avgItemsPerSecond" parseU64 Queue.avgItemsPerSecond
    .avgItemsPerSecond).get_run h q
  currentIdleTime := (QueueField.time "currentIdleTime" Queue.currentIdleTime
    .currentIdleTime).get_run h q
  currentItemProcessingTime := (QueueField.time "currentItemProcessingTime"
    Queue.currentItemProcessingTime .currentItemProcessingTime).get_run h q
  idleTimePercent := (QueueField.plain "idleTimePercent" N.parseF32 Queue.idleTimePercent
    .idleTimePercent).get_run h q
  lengthCurrentTryPeak := (QueueField.plain "lengthCurrentTryPeak" parseI64
    Queue.lengthCurrentTryPeak .lengthCurrentTryPeak).get_run h q
  lengthLifetimePeak := (QueueField.plain "lengthLifetimePeak" parseI64 Queue.lengthLifetimePeak
    .lengthLifetimePeak).get_run h q
  length := (QueueField.plain "length" parseI64 Queue.length .length).get_run h q
  avgProcessingTime := (QueueField.plain "avgProcessingTime" N.parseF64 Queue.avgProcessingTime
    .avgProcessingTime).get_run h q
  totalItemsProcessed := (QueueField.plain "totalItemsProcessed" parseI64
    Queue.totalItemsProcessed .totalItemsProcessed).get_run h q
  inProgressMessage := (QueueField.plain "inProgressMessage" .raw Queue.inProgressMessage
    .inProgressMessage).get_run h q
  lastProcessedMessage := (QueueField.plain "lastProcessedMessage" .raw
    Queue.lastProcessedMessage .lastProcessedMessage).get_run h q

end

/-! ## Apart from all other keys -/

section

variable {raw raw' : RawStatistics} {q : String}

theorem FieldRead.unique {A : Type} {prop : String} {read : Reading A} {default a b : A}
    (h : FieldRead raw q prop read default a) (h' : FieldRead raw' q prop read default b)
    (hsame : raw'.lookup (queueKey q prop) = raw.lookup (queueKey q prop)) : a = b := by
  unfold FieldRead at h h'
  rw [hsame] at h'
  cases hv : raw.lookup (queueKey q prop) with
  | none =>
    rw [hv] at h h'
    exact h.trans h'.symm
  | some text =>
    rw [hv] at h h'
    exact Except.ok.inj (h.symm.trans h')

/-- The keys of a queue say all there is to say of it. -/
theorem QueueRead.unique {a b : Queue N} (h : QueueRead raw q a) (h' : QueueRead raw' q b)
    (hsame : ∀ prop, '-' ∉ prop.toList →
      raw'.lookup (queueKey q prop) = raw.lookup (queueKey q prop)) : a = b := by
  cases a
  cases b
  congr
  · exact h.name.unique h'.name (hsame _ (by simp))
  · exact h.groupName.unique h'.groupName (hsame _ (by simp))
  · exact h.avgItemsPerSecond.unique h'.avgItemsPerSecond (hsame _ (by simp))
  · exact h.currentIdleTime.unique h'.currentIdleTime (hsame _ (by simp))
  · exact h.currentItemProcessingTime.unique h'.currentItemProcessingTime (hsame _ (by simp))
  · exact h.idleTimePercent.unique h'.idleTimePercent (hsame _ (by simp))
  · exact h.lengthCurrentTryPeak.unique h'.lengthCurrentTryPeak (hsame _ (by simp))
  · exact h.lengthLifetimePeak.unique h'.lengthLifetimePeak (hsame _ (by simp))
  · exact h.length.unique h'.length (hsame _ (by simp))
  · exact h.avgProcessingTime.unique h'.avgProcessingTime (hsame _ (by simp))
  · exact h.totalItemsProcessed.unique h'.totalItemsProcessed (hsame _ (by simp))
  · exact h.inProgressMessage.unique h'.inProgressMessage (hsame _ (by simp))
  · exact h.lastProcessedMessage.unique h'.lastProcessedMessage (hsame _ (by simp))

theorem queue_of_lookup {stats : Statistics N} {queue : Queue N}
    (h : stats.es.queues.lookup q = some queue) : stats.queue q = queue := by
  rw [Statistics.queue, h]
  rfl

/-- A queue is the same for two maps that have the same keys of it. -/
theorem lookup_queue_eq {order : Visit raw} {order' : Visit raw'} {stats stats' : Statistics N}
    (h : applyAll N order.entries {} = some stats) (h' : applyAll N order'.entries {} = some stats')
    (hsame : ∀ prop, '-' ∉ prop.toList →
      raw'.lookup (queueKey q prop) = raw.lookup (queueKey q prop)) :
    stats'.es.queues.lookup q = stats.es.queues.lookup q := by
  have hread := (queueRead_of_run h q).unique (queueRead_of_run h' q) hsame
  have hmem : q ∈ stats'.es.queues ↔ q ∈ stats.es.queues := by
    rw [mem_queues_iff h, mem_queues_iff h']
    refine exists_congr fun prop => and_congr_right fun hprop => ?_
    rw [← Finmap.lookup_isSome, ← Finmap.lookup_isSome, hsame prop hprop]
  cases hq : stats.es.queues.lookup q with
  | none =>
    have hnot := Finmap.lookup_eq_none.mp hq
    exact Finmap.lookup_eq_none.mpr fun hin => hnot (hmem.mp hin)
  | some queue =>
    obtain ⟨queue', hq'⟩ := Finmap.mem_iff.mp (hmem.mpr (Finmap.mem_iff.mpr ⟨queue, hq⟩))
    rw [queue_of_lookup hq, queue_of_lookup hq'] at hread
    rw [hq', hread]

end

/-- **The queues of a parsed record are those of its keys, each read from its own keys
alone**: a record has the queues that some key names, a field is the value of the queue's own
key or the default, and whatever else two maps hold, they give a queue of the same keys the
same fields. -/
theorem queues_read_apart {raw : RawStatistics} {order : Visit raw} {stats : Statistics N}
    (h : parseStatistics N order = .ret (.ok stats)) (q : String) :
    (q ∈ stats.es.queues ↔ ∃ prop, '-' ∉ prop.toList ∧ queueKey q prop ∈ raw) ∧
    (∀ queue, stats.es.queues.lookup q = some queue → QueueRead raw q queue) ∧
    ∀ {raw' : RawStatistics} {order' : Visit raw'} {stats' : Statistics N},
      parseStatistics N order' = .ret (.ok stats') →
      (∀ prop, '-' ∉ prop.toList → raw'.lookup (queueKey q prop) = raw.lookup (queueKey q prop)) →
      stats'.es.queues.lookup q = stats.es.queues.lookup q := by
  have hrun := applyAll_of_parse h
  refine ⟨mem_queues_iff hrun q, fun queue hq => ?_, fun h' hsame => ?_⟩
  · rw [← queue_of_lookup hq]
    exact queueRead_of_run hrun q
  · exact lookup_queue_eq hrun (applyAll_of_parse h') hsame

/-- A server with a queue `a` that is idle and a queue `a-b` of five. -/
def twoQueues : AList fun _ : String => String :=
  (AList.singleton "es-queue-a-b-length" "5").insert "es-queue-a-currentIdleTime" "null"

def twoQueuesOrder : Visit twoQueues.toFinmap := ⟨twoQueues, rfl⟩

/-- The queue whose name goes on behind a hyphen is another queue. -/
theorem queues_read_apart_prefix : ∃ stats : Statistics noNumerals,
    parseStatistics noNumerals twoQueuesOrder = .ret (.ok stats) ∧
      "a" ∈ stats.es.queues ∧ "a-b" ∈ stats.es.queues ∧
      ∀ queue, stats.es.queues.lookup "a" = some queue → queue.length = 0 := by
  have hsome : (outcome (parseStatistics noNumerals twoQueuesOrder)).isSome = true := by
    decide +kernel
  obtain ⟨stats, hstats⟩ := Option.isSome_iff_exists.mp hsome
  have h := outcome_eq_some.mp hstats
  have hkey : queueKey "a" "currentIdleTime" ∈ twoQueues.toFinmap := by decide +kernel
  have hkey' : queueKey "a-b" "length" ∈ twoQueues.toFinmap := by decide +kernel
  have hnone : twoQueues.toFinmap.lookup (queueKey "a" "length") = none := by decide +kernel
  refine ⟨stats, h, (queues_read_apart h "a").1.mpr ⟨_, by simp, hkey⟩,
    (queues_read_apart h "a-b").1.mpr ⟨_, by simp, hkey'⟩, fun queue hq => ?_⟩
  have hlength := ((queues_read_apart h "a").2.1 queue hq).length
  unfold FieldRead at hlength
  rw [hnone] at hlength
  exact hlength

end Kurrent.Extras
