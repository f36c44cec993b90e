import Kurrent.Extras.Stats
import Kurrent.Lib.Orders

/-!
# Statistics and the order of the map

What an entry does to the record is its `StatEffect`: it depends on the key and the text alone,
and applying it depends on the record only through the drive. Two entries of a map can be
taken in either order unless both are of drives, so that the drives decide alone whether
`parse_statistics` has one result for all the orders of a map.
-/

namespace Kurrent.Extras

open Lib

variable {N : Numerals}

/-! ## What an entry does -/

inductive StatEffect (N : Numerals) where
  /-- it fails, whatever came before it -/
  | unreadable
  | put (m : Metric N)
  /-- a metric of the drive; `path` is the drive the key names, if it names one -/
  | drive (path : Option String) (m : Option DriveMetric)
  | queue (name : String) (m : Option (QueueMetric N))
  /-- a key nobody knows -/
  | nothing

def driveEffect (key rest value : String) : StatEffect N :=
  let path := (splitOnce '-' rest).map Prod.fst
  match rsplitOnce '-' key with
  -- not reached: the prefix of a drive ends in this character
  | none => .unreadable
  | some (_, prop) =>
    match DriveMetric.readers.lookup prop with
    | none => .drive path none
    | some read =>
      match read value with
      | .ok m => .drive path (some m)
      | .error _ => .unreadable

def queueEffect (rest value : String) : StatEffect N :=
  match rsplitOnce '-' rest with
  | none => .unreadable
  | some (name, prop) =>
    match (QueueMetric.readers N).lookup prop with
    | none => .queue name none
    | some read =>
      match read value with
      | .ok m => .queue name m
      | .error _ => .unreadable

/-- What the entry with this key and text does. -/
def effect (N : Numerals) (key value : String) : StatEffect N :=
  match (Metric.readers N).lookup key with
  | some read =>
    match read value with
    | .ok m => .put m
    | .error _ => .unreadable
  | none =>
    match stripPrefix "sys-drive-" key with
    | some rest => driveEffect key rest value
    | none =>
      match stripPrefix "es-queue-" key with
      | some rest => queueEffect rest value
      | none => .nothing

def Drive.puts (drive : Drive) (m : Option DriveMetric) : Drive :=
  m.elim drive fun m => { drive with stats := drive.stats.put m }

def Queue.puts (queue : Queue N) (m : Option (QueueMetric N)) : Queue N := m.elim queue queue.put

/-- The record after the entry, if it does not fail. -/
def StatEffect.apply (s : Statistics N) : StatEffect N → Option (Statistics N)
  | .unreadable => none
  | .put m => some (s.put m)
  | .drive path m =>
    (s.sys.drive.or (path.map fun p => { path := p })).map fun d => s.setDrive (d.puts m)
  | .queue name m => some (s.setQueue name ((s.queue name).puts m))
  | .nothing => some s

/-- The record, if there is one: an error and a panic are both failures. -/
def outcome : ParsedStats N → Option (Statistics N)
  | .ret (.ok s) => some s
  | .ret (.error _) => none
  | .panic _ => none

/-- What `driveEffect` does to a drive that is there. -/
def putOnDrive (s : Statistics N) (drive : Drive) : StatEffect N → Option (Statistics N)
  | .drive _ m => some (s.setDrive (drive.puts m))
  | _ => none

theorem outcome_parseDriveMetric (s : Statistics N) (d : Drive) (key rest value : String) :
    outcome (parseDriveMetric s d key value) = putOnDrive s d (driveEffect key rest value) := by
  unfold parseDriveMetric driveEffect
  cases rsplitOnce '-' key with
  | none => rfl
  | some p =>
    simp only [Call.expect, Call.ret_bind]
    cases DriveMetric.readers.lookup p.2 with
    | none => rfl
    | some read =>
      simp only
      cases read value <;> rfl

theorem driveEffect_cases (key rest value : String) :
    (driveEffect key rest value : StatEffect N) = .unreadable ∨
      ∃ m, (driveEffect key rest value : StatEffect N) = .drive ((splitOnce '-' rest).map Prod.fst) m := by
  unfold driveEffect
  cases rsplitOnce '-' key with
  | none => exact .inl rfl
  | some p =>
    simp only
    cases DriveMetric.readers.lookup p.2 with
    | none => exact .inr ⟨none, rfl⟩
    | some read =>
      simp only
      cases read value with
      | error e => exact .inl rfl
      | ok m => exact .inr ⟨some m, rfl⟩

theorem outcome_parseDrive (s : Statistics N) (key rest value : String) :
    outcome (parseDrive s key rest value) = (driveEffect key rest value).apply s := by
  unfold parseDrive
  have hmetric := fun d => outcome_parseDriveMetric s d key rest value
  rcases driveEffect_cases (N := N) key rest value with h | ⟨m, h⟩
  all_goals
    simp only [h, putOnDrive] at hmetric
    rw [h]
    unfold StatEffect.apply
    cases s.sys.drive with
    | some d => exact hmetric d
    | none =>
      cases splitOnce '-' rest with
      | none => rfl
      | some p => exact hmetric _

theorem outcome_parseQueue (s : Statistics N) (key rest value : String) :
    outcome (parseQueue s key rest value) = (queueEffect rest value).apply s := by
  unfold parseQueue queueEffect
  cases rsplitOnce '-' rest with
  | none => rfl
  | some p =>
    simp only [Call.expect, Call.ret_bind]
    cases (QueueMetric.readers N).lookup p.2 with
    | none => rfl
    | some read =>
      simp only
      cases read value with
      | error e => rfl
      | ok m => cases m <;> rfl

/-- **An entry does what its effect says**, or fails where that does. -/
theorem outcome_parseEntry (s : Statistics N) (key value : String) :
    outcome (parseEntry s key value) = (effect N key value).apply s := by
  unfold parseEntry effect
  cases (Metric.readers N).lookup key with
  | some read =>
    simp only
    cases read value <;> rfl
  | none =>
    simp only
    cases stripPrefix "sys-drive-" key with
    | some rest => exact outcome_parseDrive s key rest value
    | none =>
      simp only
      cases stripPrefix "es-queue-" key with
      | some rest => exact outcome_parseQueue s key rest value
      | none => rfl

def applyEntry (s : Statistics N) (e : String × String) : Option (Statistics N) :=
  (effect N e.1 e.2).apply s

/-- The effects of a list of entries, one after the other. -/
def applyAll (N : Numerals) (es : List (String × String)) (s : Statistics N) :
    Option (Statistics N) :=
  es.foldlM applyEntry s

theorem outcome_parseEntries (es : List (String × String)) (s : Statistics N) :
    outcome (parseEntries s es) = applyAll N es s := by
  induction es generalizing s with
  | nil => rfl
  | cons e es ih =>
    obtain ⟨key, value⟩ := e
    have h := outcome_parseEntry s key value
    unfold parseEntries applyAll
    rw [List.foldlM_cons]
    unfold applyEntry
    rw [← h]
    cases parseEntry s key value with
    | panic m => rfl
    | ret r =>
      cases r with
      | error e => rfl
      | ok t => exact ih t

/-! ## Distinct keys set distinct fields -/

theorem Reading.into_ok {A B : Type} {read : Reading A} {mk : A → B} {value : String} {b : B}
    (h : read.into mk value = .ok b) : ∃ a, b = mk a := by
  unfold Reading.into at h
  cases hr : read value with
  | error e => rw [hr] at h; cases h
  | ok a => rw [hr] at h; cases h; exact ⟨a, rfl⟩

/-- What all the values of `mk` have for a key, what is read has. -/
theorem Reading.into_key {A B : Type} {read : Reading A} {mk : A → B} {f : B → String}
    {key : String} (hk : ∀ a, f (mk a) = key) : ∀ value b, read.into mk value = .ok b → f b = key := by
  intro value b h
  obtain ⟨a, rfl⟩ := Reading.into_ok h
  exact hk a

theorem Reading.unlessNull_ok {A B : Type} {read : Reading A} {mk : A → B} {value : String}
    {b : B} (h : read.unlessNull mk value = .ok (some b)) : ∃ a, b = mk a := by
  unfold Reading.unlessNull at h
  by_cases hn : value = "null"
  · rw [if_pos hn] at h; cases h
  · rw [if_neg hn] at h
    cases hr : read value with
    | error e => rw [hr] at h; cases h
    | ok a => rw [hr] at h; cases h; exact ⟨a, rfl⟩

/-- A metric is read from its own key. -/
theorem Metric.key_of_mem :
    ∀ p ∈ Metric.readers N, ∀ value m, p.2 value = .ok m → m.key = p.1 := by
  unfold Metric.readers
  simp only [List.forall_mem_cons]
  and_intros
  all_goals first
    | exact Reading.into_key fun _ => rfl
    | exact fun p hp => nomatch hp

theorem QueueMetric.prop_of_mem :
    ∀ p ∈ QueueMetric.readers N, ∀ value m, p.2 value = .ok (some m) → m.prop = p.1 := by
  have into {A : Type} {read : Reading A} {mk : A → QueueMetric N} {prop : String}
      (hk : ∀ a, (mk a).prop = prop) :
      ∀ value m, read.into (fun v => some (mk v)) value = .ok (some m) → m.prop = prop := by
    intro value m h
    obtain ⟨a, ha⟩ := Reading.into_ok h
    cases ha
    exact hk a
  have unlessNull {A : Type} {read : Reading A} {mk : A → QueueMetric N} {prop : String}
      (hk : ∀ a, (mk a).prop = prop) :
      ∀ value m, read.unlessNull mk value = .ok (some m) → m.prop = prop := by
    intro value m h
    obtain ⟨a, rfl⟩ := Reading.unlessNull_ok h
    exact hk a
  unfold QueueMetric.readers
  simp only [List.forall_mem_cons]
  and_intros
  all_goals first
    | exact into fun _ => rfl
    | exact unlessNull fun _ => rfl
    | exact fun p hp => nomatch hp

theorem mem_of_lookup {A : Type} {l : List (String × A)} {key : String} {a : A}
    (h : l.lookup key = some a) : (key, a) ∈ l := by
  induction l with
  | nil => cases h
  | cons p l ih =>
    obtain ⟨k, b⟩ := p
    rw [List.lookup_cons] at h
    by_cases hk : key = k
    · subst hk
      rw [beq_self_eq_true] at h
      cases h
      exact List.mem_cons_self
    · rw [beq_false_of_ne hk] at h
      exact List.mem_cons_of_mem _ (ih h)

/-- What the effects of a key have in common: a field that is set is the key's own. -/
inductive StatEffect.Of (key : String) : StatEffect N → Prop where
  | unreadable : Of key .unreadable
  | put {m : Metric N} (h : m.key = key) : Of key (.put m)
  | drive {path : Option String} {m : Option DriveMetric} : Of key (.drive path m)
  | queue {name : String} {m : Option (QueueMetric N)}
    (h : ∀ a, m = some a → key = "es-queue-" ++ (name ++ String.singleton '-' ++ a.prop)) :
    Of key (.queue name m)
  | nothing : Of key .nothing

theorem queueEffect_of {key rest value : String} (hrest : stripPrefix "es-queue-" key = some rest) :
    (queueEffect rest value : StatEffect N).Of key := by
  unfold queueEffect
  cases hs : rsplitOnce '-' rest with
  | none => exact .unreadable
  | some p =>
    simp only
    cases hr : (QueueMetric.readers N).lookup p.2 with
    | none => exact .queue fun a ha => by cases ha
    | some read =>
      simp only
      cases hm : read value with
      | error e => exact .unreadable
      | ok m =>
        refine .queue fun a ha => ?_
        subst ha
        rw [stripPrefix_eq hrest, rsplitOnce_eq hs,
          QueueMetric.prop_of_mem _ (mem_of_lookup hr) value a hm]

theorem effect_of (key value : String) : (effect N key value).Of key := by
  unfold effect
  cases hr : (Metric.readers N).lookup key with
  | some read =>
    simp only
    cases hm : read value with
    | error e => exact .unreadable
    | ok m => exact .put (Metric.key_of_mem _ (mem_of_lookup hr) value m hm)
  | none =>
    simp only
    cases stripPrefix "sys-drive-" key with
    | some rest =>
      rcases driveEffect_cases (N := N) key rest value with hc | ⟨m, hc⟩
      · simp only [hc]; exact .unreadable
      · simp only [hc]; exact .drive
    | none =>
      simp only
      cases hrest : stripPrefix "es-queue-" key with
      | some rest => exact queueEffect_of hrest
      | none => exact .nothing

/-! ## Entries in either order -/

section

variable (s : Statistics N)

theorem putGc_comm {a b : GcMetric N} (gc : Gc N)
    (h : Metric.key N (.proc (.gc a)) ≠ Metric.key N (.proc (.gc b))) :
    Statistics.putGc a (Statistics.putGc b gc) = Statistics.putGc b (Statistics.putGc a gc) := by
  cases a <;> cases b <;> first | rfl | exact absurd rfl h

theorem putTcp_comm {a b : TcpMetric N} (tcp : Tcp N)
    (h : Metric.key N (.proc (.tcp a)) ≠ Metric.key N (.proc (.tcp b))) :
    Statistics.putTcp a (Statistics.putTcp b tcp) = Statistics.putTcp b (Statistics.putTcp a tcp) := by
  cases a <;> cases b <;> first | rfl | exact absurd rfl h

theorem putDiskIo_comm {a b : DiskIoMetric} (diskIo : DiskIo)
    (h : Metric.key N (.proc (.diskIo a)) ≠ Metric.key N (.proc (.diskIo b))) :
    Statistics.putDiskIo a (Statistics.putDiskIo b diskIo) =
      Statistics.putDiskIo b (Statistics.putDiskIo a diskIo) := by
  cases a <;> cases b <;> first | rfl | exact absurd rfl h

theorem putProc_comm {a b : ProcMetric N} (proc : Proc N)
    (h : Metric.key N (.proc a) ≠ Metric.key N (.proc b)) :
    Statistics.putProc a (Statistics.putProc b proc) =
      Statistics.putProc b (Statistics.putProc a proc) := by
  cases a <;> cases b <;> first
    | rfl
    | exact absurd rfl h
    | simp only [Statistics.putProc, putGc_comm _ h]
    | simp only [Statistics.putProc, putTcp_comm _ h]
    | simp only [Statistics.putProc, putDiskIo_comm _ h]

theorem putSys_comm {a b : SysMetric N} (sys : Sys N)
    (h : Metric.key N (.sys a) ≠ Metric.key N (.sys b)) :
    Statistics.putSys a (Statistics.putSys b sys) = Statistics.putSys b (Statistics.putSys a sys) := by
  cases a <;> cases b <;> first | rfl | exact absurd rfl h

theorem putWriter_comm {a b : WriterMetric N} (writer : Writer N)
    (h : Metric.key N (.es (.writer a)) ≠ Metric.key N (.es (.writer b))) :
    Statistics.putWriter a (Statistics.putWriter b writer) =
      Statistics.putWriter b (Statistics.putWriter a writer) := by
  cases a <;> cases b <;> first | rfl | exact absurd rfl h

theorem putReadIndex_comm {a b : ReadIndexMetric} (readIndex : ReadIndex)
    (h : Metric.key N (.es (.readIndex a)) ≠ Metric.key N (.es (.readIndex b))) :
    Statistics.putReadIndex a (Statistics.putReadIndex b readIndex) =
      Statistics.putReadIndex b (Statistics.putReadIndex a readIndex) := by
  cases a <;> cases b <;> first | rfl | exact absurd rfl h

theorem putEs_comm {a b : EsMetric N} (es : Es N)
    (h : Metric.key N (.es a) ≠ Metric.key N (.es b)) :
    Statistics.putEs a (Statistics.putEs b es) = Statistics.putEs b (Statistics.putEs a es) := by
  cases a <;> cases b <;> first
    | rfl
    | exact absurd rfl h
    | simp only [Statistics.putEs, putWriter_comm _ h]
    | simp only [Statistics.putEs, putReadIndex_comm _ h]

/-- Two metrics with keys of their own. -/
theorem put_comm {a b : Metric N} (h : a.key ≠ b.key) : (s.put a).put b = (s.put b).put a := by
  cases a <;> cases b <;> first
    | rfl
    | simp only [Statistics.put, putProc_comm _ h]
    | simp only [Statistics.put, putSys_comm _ h]
    | simp only [Statistics.put, putEs_comm _ h]

theorem put_setQueue (m : Metric N) (name : String) (queue : Queue N) :
    (s.setQueue name queue).put m = (s.put m).setQueue name queue := by
  cases m with
  | proc m => rfl
  | sys m => rfl
  | es m => cases m <;> rfl

theorem put_queue (m : Metric N) (name : String) : (s.put m).queue name = s.queue name := by
  cases m with
  | proc m => rfl
  | sys m => rfl
  | es m => cases m <;> rfl

theorem put_setDrive (m : Metric N) (drive : Drive) :
    (s.setDrive drive).put m = (s.put m).setDrive drive := by
  cases m with
  | proc m => rfl
  | sys m => cases m <;> rfl
  | es m => rfl

theorem put_drive (m : Metric N) : (s.put m).sys.drive = s.sys.drive := by
  cases m with
  | proc m => rfl
  | sys m => cases m <;> rfl
  | es m => rfl

theorem queue_put_comm {a b : QueueMetric N} (queue : Queue N) (h : a.prop ≠ b.prop) :
    (queue.put a).put b = (queue.put b).put a := by
  cases a <;> cases b <;> first | rfl | exact absurd rfl h

/-- Two metrics of one queue. -/
theorem queue_puts_comm {a b : Option (QueueMetric N)} (queue : Queue N)
    (h : ∀ x y, a = some x → b = some y → x.prop ≠ y.prop) :
    (queue.puts a).puts b = (queue.puts b).puts a := by
  cases a with
  | none => rfl
  | some x =>
    cases b with
    | none => rfl
    | some y => exact queue_put_comm queue (h x y rfl rfl)

theorem driveStats_put_comm {a b : DriveMetric} (stats : DriveStats) (h : a.prop = b.prop → a = b) :
    (stats.put a).put b = (stats.put b).put a := by
  by_cases hp : a.prop = b.prop
  · rw [h hp]
  · cases a <;> cases b <;> first | rfl | exact absurd rfl hp

/-- Two metrics of one drive: those of one field have to agree. -/
theorem drive_puts_comm {a b : Option DriveMetric} (drive : Drive)
    (h : ∀ x y, a = some x → b = some y → x.prop = y.prop → x = y) :
    (drive.puts a).puts b = (drive.puts b).puts a := by
  cases a with
  | none => rfl
  | some x =>
    cases b with
    | none => rfl
    | some y =>
      have hstats := driveStats_put_comm drive.stats (h x y rfl rfl)
      simp only [Drive.puts, Option.elim_some, hstats]

/-- Queues of different names are apart. -/
theorem setQueue_comm {n k : String} (h : n ≠ k) (a b : Option (QueueMetric N)) :
    ((s.setQueue n ((s.queue n).puts a)).setQueue k
        (((s.setQueue n ((s.queue n).puts a)).queue k).puts b)) =
      ((s.setQueue k ((s.queue k).puts b)).setQueue n
        (((s.setQueue k ((s.queue k).puts b)).queue n).puts a)) := by
  have hk : (s.setQueue n ((s.queue n).puts a)).queue k = s.queue k := by
    simp only [Statistics.queue, Statistics.setQueue, Finmap.lookup_insert_of_ne _ h.symm]
  have hn : (s.setQueue k ((s.queue k).puts b)).queue n = s.queue n := by
    simp only [Statistics.queue, Statistics.setQueue, Finmap.lookup_insert_of_ne _ h]
  rw [hk, hn]
  simp only [Statistics.setQueue, Finmap.insert_insert_of_ne _ h]

theorem setQueue_same {n : String} {a b : Option (QueueMetric N)}
    (h : ∀ x y, a = some x → b = some y → x.prop ≠ y.prop) :
    ((s.setQueue n ((s.queue n).puts a)).setQueue n
        (((s.setQueue n ((s.queue n).puts a)).queue n).puts b)) =
      ((s.setQueue n ((s.queue n).puts b)).setQueue n
        (((s.setQueue n ((s.queue n).puts b)).queue n).puts a)) := by
  have hq : ∀ q : Queue N, (s.setQueue n q).queue n = q := by
    intro q
    simp only [Statistics.queue, Statistics.setQueue, Finmap.lookup_insert, Option.getD_some]
  rw [hq, hq, queue_puts_comm (s.queue n) h]
  simp only [Statistics.setQueue, Finmap.insert_insert]

end

/-- The two effects can be taken in either order. -/
def StatEffect.Commute (a b : StatEffect N) : Prop :=
  ∀ s, (a.apply s).bind (b.apply ·) = (b.apply s).bind (a.apply ·)

/-- Both are of drives. -/
def StatEffect.BothDrives : StatEffect N → StatEffect N → Prop
  | .drive _ _, .drive _ _ => True
  | _, _ => False

theorem StatEffect.Commute.symm {a b : StatEffect N} (h : a.Commute b) : b.Commute a :=
  fun s => (h s).symm

theorem commute_unreadable (a : StatEffect N) : (StatEffect.unreadable : StatEffect N).Commute a := by
  intro s
  cases a.apply s <;> rfl

theorem commute_nothing (a : StatEffect N) : (StatEffect.nothing : StatEffect N).Commute a := by
  intro s
  show a.apply s = (a.apply s).bind some
  cases a.apply s <;> rfl

theorem commute_put_queue (m : Metric N) (name : String) (q : Option (QueueMetric N)) :
    (StatEffect.put m).Commute (.queue name q) := by
  intro s
  simp only [StatEffect.apply, Option.bind_some, put_queue, put_setQueue]

theorem commute_drive_put (path : Option String) (d : Option DriveMetric) (m : Metric N) :
    (StatEffect.drive path d).Commute (.put m) := by
  intro s
  simp only [StatEffect.apply, Option.bind_some, put_drive]
  cases s.sys.drive.or (path.map fun p => { path := p }) with
  | none => rfl
  | some drive => simp only [Option.map_some, Option.bind_some, put_setDrive]

theorem commute_drive_queue (path : Option String) (d : Option DriveMetric) (name : String)
    (q : Option (QueueMetric N)) : (StatEffect.drive path d : StatEffect N).Commute (.queue name q) := by
  intro s
  simp only [StatEffect.apply, Option.bind_some]
  show _ = (s.sys.drive.or (path.map fun p => { path := p })).map _
  cases s.sys.drive.or (path.map fun p => { path := p }) with
  | none => rfl
  | some drive => rfl

/-- **Entries of different keys**, not both of drives, can be taken in either order. -/
theorem commute_of_key_ne {k₁ k₂ : String} {a b : StatEffect N} (h₁ : a.Of k₁) (h₂ : b.Of k₂)
    (hk : k₁ ≠ k₂) (hd : ¬ a.BothDrives b) : a.Commute b := by
  cases h₁ with
  | unreadable => exact commute_unreadable b
  | nothing => exact commute_nothing b
  | @put m hm =>
    cases h₂ with
    | unreadable => exact (commute_unreadable _).symm
    | nothing => exact (commute_nothing _).symm
    | @put m' hm' =>
      intro s
      simp only [StatEffect.apply, Option.bind_some]
      rw [put_comm s (by rw [hm, hm']; exact hk)]
    | drive => exact (commute_drive_put _ _ m).symm
    | queue => exact commute_put_queue m _ _
  | drive =>
    cases h₂ with
    | unreadable => exact (commute_unreadable _).symm
    | nothing => exact (commute_nothing _).symm
    | @put m => exact commute_drive_put _ _ m
    | drive => exact absurd trivial hd
    | queue => exact commute_drive_queue _ _ _ _
  | @queue n q hq =>
    cases h₂ with
    | unreadable => exact (commute_unreadable _).symm
    | nothing => exact (commute_nothing _).symm
    | @put m => exact (commute_put_queue m n q).symm
    | drive => exact (commute_drive_queue _ _ n q).symm
    | @queue n' q' hq' =>
      intro s
      simp only [StatEffect.apply, Option.bind_some]
      by_cases hn : n = n'
      · -- one queue: the last parts of the keys differ
        subst hn
        rw [setQueue_same s]
        intro x y hx hy hp
        apply hk
        rw [hq x hx, hq' y hy, hp]
      · rw [setQueue_comm s hn]

/-- Entries of one drive can be taken in either order when they agree on its fields. -/
theorem commute_drives {p : String} {a b : Option DriveMetric}
    (h : ∀ x y, a = some x → b = some y → x.prop = y.prop → x = y) :
    (StatEffect.drive (some p) a : StatEffect N).Commute (.drive (some p) b) := by
  intro s
  simp only [StatEffect.apply]
  cases s.sys.drive with
  | none => exact congrArg (fun d => some (s.setDrive d)) (drive_puts_comm _ h)
  | some d => exact congrArg (fun d => some (s.setDrive d)) (drive_puts_comm _ h)

/-! ## Every order of a map -/

/-- Both parse to one record, or both fail. -/
def SameResult (r r' : ParsedStats N) : Prop :=
  (∃ s, r = .ret (.ok s) ∧ r' = .ret (.ok s)) ∨
    (∀ s, r ≠ .ret (.ok s)) ∧ ∀ s, r' ≠ .ret (.ok s)

/-- What the map has to be for its order not to matter: an entry fails wherever it comes; or
no entry of a drive names one; or they all name the same, and those that set the same field
set it to the same. -/
def OrderFree (N : Numerals) (raw : RawStatistics) : Prop :=
  (∃ k v, raw.lookup k = some v ∧ effect N k v = .unreadable) ∨
  (∀ k v path m, raw.lookup k = some v → effect N k v = .drive path m → path = none) ∨
  (∃ p, ∀ k v path m, raw.lookup k = some v → effect N k v = .drive path m → path = some p) ∧
    ∀ k v path x k' v' path' y, raw.lookup k = some v → raw.lookup k' = some v' →
      effect N k v = .drive path (some x) → effect N k' v' = .drive path' (some y) →
      x.prop = y.prop → x = y

theorem outcome_eq_some {r : ParsedStats N} {s : Statistics N} :
    outcome r = some s ↔ r = .ret (.ok s) := by
  cases r with
  | panic m => simp [outcome]
  | ret e => cases e <;> simp [outcome]

theorem sameResult_iff {r r' : ParsedStats N} : SameResult r r' ↔ outcome r = outcome r' := by
  unfold SameResult
  simp only [ne_eq, ← outcome_eq_some]
  constructor
  · rintro (⟨s, h, h'⟩ | ⟨h, h'⟩)
    · rw [h, h']
    · cases hr : outcome r with
      | some s => exact absurd hr (h s)
      | none =>
        cases hr' : outcome r' with
        | some s => exact absurd hr' (h' s)
        | none => rfl
  · intro h
    rw [← h]
    cases outcome r with
    | some s => exact .inl ⟨s, rfl, rfl⟩
    | none => exact .inr ⟨by simp, by simp⟩

/-- Only an entry of a drive changes the drive. -/
theorem apply_drive_eq {a : StatEffect N} {s t : Statistics N} (h : a.apply s = some t)
    (ha : ∀ path m, a ≠ .drive path m) : t.sys.drive = s.sys.drive := by
  cases a with
  | unreadable => cases h
  | put m => cases h; exact put_drive s m
  | drive path m => exact absurd rfl (ha path m)
  | queue name m => cases h; rfl
  | nothing => cases h; rfl

/-- The drive keeps the path it has. -/
theorem apply_path {a : StatEffect N} {s : Statistics N} {d : Drive} (ha : a ≠ .unreadable)
    (hs : s.sys.drive = some d) :
    ∃ t, a.apply s = some t ∧ ∃ d', t.sys.drive = some d' ∧ d'.path = d.path := by
  cases a with
  | unreadable => exact absurd rfl ha
  | put m => exact ⟨_, rfl, d, by rw [put_drive, hs], rfl⟩
  | drive path m =>
    refine ⟨s.setDrive (d.puts m), ?_, d.puts m, rfl, ?_⟩
    · simp only [StatEffect.apply, hs, Option.some_or, Option.map_some]
    · cases m <;> rfl
  | queue name m => exact ⟨_, rfl, d, hs, rfl⟩
  | nothing => exact ⟨s, rfl, d, hs, rfl⟩

section

variable {raw : RawStatistics}

theorem outcome_parseStatistics (order : Visit raw) :
    outcome (parseStatistics N order) = applyAll N order.entries {} :=
  outcome_parseEntries order.entries {}

theorem applyAll_of_parse {raw : RawStatistics} {order : Visit raw} {stats : Statistics N}
    (h : parseStatistics N order = .ret (.ok stats)) :
    applyAll N order.entries {} = some stats := by
  rw [← outcome_parseStatistics, h]
  rfl

/-- A part of the record that the entry of one key alone touches is what is read of that entry, or
what it was at first. -/
theorem get_of_run {A : Type} (get : Statistics N → A) (read : Reading A) (key : String)
    {raw : RawStatistics} {order : Visit raw} {stats : Statistics N}
    (hother : ∀ e ∈ order.entries, e.1 ≠ key → ∀ s t, applyEntry s e = some t → get t = get s)
    (hown : ∀ value s t, applyEntry s (key, value) = some t → get s = get {} →
      read value = .ok (get t)) (h : applyAll N order.entries {} = some stats) :
    (raw.lookup key = none → get stats = get {}) ∧
      ∀ value, raw.lookup key = some value → read value = .ok (get stats) := by
  have hrun := order.run_key (f := applyEntry) (I := fun s : Statistics N => get s = get {})
    (J := fun value s => read value = .ok (get s)) key
    (fun e he hne s t ht hs => (hother e he hne s t ht).trans hs)
    (fun value e he hne s t ht hs => by rw [hother e he hne s t ht, hs]) hown h rfl
  refine ⟨fun hv => ?_, fun value hv => ?_⟩
  · rw [hv] at hrun
    exact hrun
  · rw [hv] at hrun
    exact hrun

/-- Entries of drives that name none fail, as there is none when the first of them comes. -/
theorem applyAll_unnamed (order : Visit raw)
    (hnone : ∀ k v path m, raw.lookup k = some v → effect N k v = .drive path m → path = none)
    {k v : String} {path : Option String} {m : Option DriveMetric} (hk : raw.lookup k = some v)
    (he : effect N k v = .drive path m) : applyAll N order.entries {} = none := by
  have hnot : ∀ e ∈ order.entries, ∀ s t : Statistics N, applyEntry s e = some t →
      s.sys.drive = none → ∀ path m, effect N e.1 e.2 ≠ .drive path m := by
    intro e hmem s t ht hs path m hdrive
    have hpath := hnone e.1 e.2 path m (order.mem_iff.mp hmem) hdrive
    rw [applyEntry, hdrive, hpath] at ht
    simp [StatEffect.apply, hs] at ht
  have hmem := order.mem_iff.mpr hk
  cases ht : applyAll N order.entries {} with
  | none => rfl
  | some t =>
    exact (foldlM_once (I := fun s : Statistics N => s.sys.drive = none) (J := fun _ => False)
      hmem order.nodup
      (fun e he' _ s t hst hs => (apply_drive_eq hst (hnot e he' s t hst hs)).trans hs)
      (fun _ _ _ _ _ _ h => h)
      (fun s t hst hs => hnot (k, v) hmem s t hst hs path m he) ht rfl).elim

/-- Entries whose drives agree can be taken in either order. -/
theorem applyEntry_comm {p : String}
    (hp : ∀ k v path m, raw.lookup k = some v → effect N k v = .drive path m → path = some p)
    (hm : ∀ k v path x k' v' path' y, raw.lookup k = some v → raw.lookup k' = some v' →
      effect N k v = .drive path (some x) → effect N k' v' = .drive path' (some y) →
      x.prop = y.prop → x = y) (order : Visit raw) :
    ∀ e ∈ order.entries, ∀ e' ∈ order.entries, ∀ s : Statistics N,
      (applyEntry s e).bind (applyEntry · e') = (applyEntry s e').bind (applyEntry · e) := by
  rintro ⟨k₁, v₁⟩ h₁ ⟨k₂, v₂⟩ h₂
  by_cases hk : k₁ = k₂
  · subst hk
    rw [order.eq_of_key_eq h₁ h₂]
    exact fun s => rfl
  · rw [order.mem_iff] at h₁ h₂
    by_cases hd : (effect N k₁ v₁).BothDrives (effect N k₂ v₂)
    · cases he₁ : effect N k₁ v₁ with
      | drive path₁ x =>
        cases he₂ : effect N k₂ v₂ with
        | drive path₂ y =>
          show (effect N k₁ v₁).Commute (effect N k₂ v₂)
          rw [he₁, he₂, hp _ _ _ _ h₁ he₁, hp _ _ _ _ h₂ he₂]
          refine commute_drives fun a b ha hb => ?_
          subst ha hb
          exact hm _ _ _ _ _ _ _ _ h₁ h₂ he₁ he₂
        | unreadable | put | queue | nothing => rw [he₁, he₂] at hd; exact hd.elim
      | unreadable | put | queue | nothing => rw [he₁] at hd; exact hd.elim
    · exact commute_of_key_ne (effect_of k₁ v₁) (effect_of k₂ v₂) hk hd

/-- The condition is enough. -/
theorem applyAll_eq_of_orderFree (h : OrderFree N raw) (v w : Visit raw) :
    applyAll N v.entries {} = applyAll N w.entries {} := by
  rcases h with ⟨k, x, hk, he⟩ | hnone | ⟨⟨p, hp⟩, hm⟩
  · -- the same entry fails in both orders
    have hfail : ∀ order : Visit raw, applyAll N order.entries {} = none := fun order =>
      foldlM_none_of_mem (f := applyEntry) (order.mem_iff.mpr hk)
        (fun s => by simp only [applyEntry, he]; rfl) _
    rw [hfail v, hfail w]
  · by_cases hdrive : ∃ k x path m, raw.lookup k = some x ∧ effect N k x = .drive path m
    · obtain ⟨k, x, path, m, hk, he⟩ := hdrive
      rw [applyAll_unnamed v hnone hk he, applyAll_unnamed w hnone hk he]
    · refine foldlM_perm (v.perm w) (applyEntry_comm (p := "") ?_ ?_ v) _
      · exact fun k x path m hk he => absurd ⟨k, x, path, m, hk, he⟩ hdrive
      · exact fun k x path a _ _ _ _ hk _ he => absurd ⟨k, x, path, some a, hk, he⟩ hdrive
  · exact foldlM_perm (v.perm w) (applyEntry_comm hp hm v) _

section

variable (hread : ∀ k v, raw.lookup k = some v → effect N k v ≠ .unreadable)

include hread

theorem ne_unreadable {order : Visit raw} {es : List (String × String)}
    (hes : es.Sublist order.entries) : ∀ e ∈ es, effect N e.1 e.2 ≠ .unreadable :=
  fun e he => hread e.1 e.2 (order.mem_iff.mp (hes.subset he))

/-- Some order starts with an entry that names its drive, and the record has that drive. -/
theorem exists_order_named (order : Visit raw) {k v p : String} {m : Option DriveMetric}
    (hk : raw.lookup k = some v) (he : effect N k v = .drive (some p) m) :
    ∃ (w : Visit raw) (t : Statistics N) (d : Drive), applyAll N w.entries {} = some t ∧
      t.sys.drive = some d ∧ d.path = p := by
  obtain ⟨w, hw⟩ := order.exists_first hk
  have hrest := foldlM_some (f := applyEntry)
    (l := order.entries.erase (k, v))
    (I := fun s : Statistics N => ∃ d, s.sys.drive = some d ∧ d.path = p)
    (fun e he s ⟨d, hd, hp⟩ => by
      have hne := ne_unreadable hread List.erase_sublist e he
      obtain ⟨t, ht, d', hd', hp'⟩ := apply_path hne hd
      exact ⟨t, ht, d', hd', hp'.trans hp⟩)
    (s := ({} : Statistics N).setDrive (({ path := p } : Drive).puts m))
    ⟨_, rfl, by cases m <;> rfl⟩
  obtain ⟨t, ht, d, hd, hp⟩ := hrest
  refine ⟨w, t, d, ?_, hd, hp⟩
  unfold applyAll
  rw [hw, List.foldlM_cons]
  simp only [applyEntry, he]
  exact ht

end

/-- Some order starts with an entry that names no drive, and fails. -/
theorem exists_order_unnamed (order : Visit raw) {k v : String} {m : Option DriveMetric}
    (hk : raw.lookup k = some v) (he : effect N k v = .drive none m) :
    ∃ w : Visit raw, applyAll N w.entries {} = none := by
  obtain ⟨w, hw⟩ := order.exists_first hk
  refine ⟨w, ?_⟩
  unfold applyAll
  rw [hw, List.foldlM_cons]
  simp only [applyEntry, he]
  rfl

/-- Some order ends with an entry of a drive: its field is what that entry says. -/
theorem exists_order_last (order : Visit raw) {k v : String} {path : Option String}
    {x : DriveMetric} (hk : raw.lookup k = some v) (he : effect N k v = .drive path (some x)) :
    ∃ w : Visit raw, ∀ t, applyAll N w.entries {} = some t →
      ∃ d, t.sys.drive = some d ∧ d.stats.put x = d.stats := by
  obtain ⟨w, hw⟩ := order.exists_last hk
  refine ⟨w, fun t ht => ?_⟩
  unfold applyAll at ht
  rw [hw, List.foldlM_append] at ht
  obtain ⟨s, -, ht⟩ := Option.bind_eq_some_iff.mp ht
  simp only [List.foldlM_cons, List.foldlM_nil, applyEntry, he, StatEffect.apply] at ht
  cases hd : s.sys.drive.or (path.map fun p => { path := p }) with
  | none => rw [hd] at ht; cases ht
  | some d =>
    rw [hd] at ht
    cases ht
    refine ⟨_, rfl, ?_⟩
    cases x <;> rfl

/-- A field has one value. -/
theorem eq_of_put_eq {stats : DriveStats} {x y : DriveMetric} (hx : stats.put x = stats)
    (hy : stats.put y = stats) (hp : x.prop = y.prop) : x = y := by
  have h := hx.trans hy.symm
  clear hx hy
  cases x <;> cases y <;> simp_all [DriveMetric.prop, DriveStats.put]

/-- The condition is needed. -/
theorem orderFree_of_applyAll_eq
    (h : ∀ v w : Visit raw, applyAll N v.entries {} = applyAll N w.entries {})
    (order : Visit raw) : OrderFree N raw := by
  by_cases hread : ∀ k v, raw.lookup k = some v → effect N k v ≠ .unreadable
  · refine .inr ?_
    by_cases hnone : ∀ k v path m, raw.lookup k = some v → effect N k v = .drive path m → path = none
    · exact .inl hnone
    · refine .inr ?_
      push Not at hnone
      obtain ⟨k, v, path, m, hk, he, hpath⟩ := hnone
      obtain ⟨p, rfl⟩ := Option.ne_none_iff_exists'.mp hpath
      -- the order that starts with this entry has its drive, so all the orders have
      obtain ⟨w, t, d, hw, hd, hp⟩ := exists_order_named hread order hk he
      have hall : ∀ k v path m, raw.lookup k = some v → effect N k v = .drive path m →
          path = some p := by
        intro k' v' path' m' hk' he'
        cases path' with
        | none =>
          obtain ⟨w', hw'⟩ := exists_order_unnamed order hk' he'
          rw [h w' w, hw] at hw'
          cases hw'
        | some p' =>
          obtain ⟨w', t', d', hw', hd', hp'⟩ := exists_order_named hread order hk' he'
          rw [h w' w, hw] at hw'
          cases hw'
          rw [hd] at hd'
          cases hd'
          rw [← hp, ← hp']
      refine ⟨⟨p, hall⟩, ?_⟩
      intro k₁ v₁ path₁ x k₂ v₂ path₂ y hk₁ hk₂ he₁ he₂ hprop
      obtain ⟨w₁, h₁⟩ := exists_order_last order hk₁ he₁
      obtain ⟨w₂, h₂⟩ := exists_order_last order hk₂ he₂
      obtain ⟨d₁, hd₁, hx⟩ := h₁ t (by rw [h w₁ w, hw])
      obtain ⟨d₂, hd₂, hy⟩ := h₂ t (by rw [h w₂ w, hw])
      rw [hd₁] at hd₂
      cases hd₂
      exact eq_of_put_eq hx hy hprop
  · push Not at hread
    exact .inl hread

end

/-- **When the order of the map does not matter**: exactly when an entry fails wherever it
comes, or no entry of a drive names one, or they all name the same drive and agree on its
fields. -/
theorem statistics_order_free_iff (N : Numerals) (raw : RawStatistics) :
    (∀ v w : Visit raw, SameResult (parseStatistics N v) (parseStatistics N w)) ↔
      OrderFree N raw := by
  simp only [sameResult_iff, outcome_parseStatistics]
  constructor
  · intro h
    obtain ⟨order⟩ := Visit.nonempty raw
    exact orderFree_of_applyAll_eq h order
  · exact applyAll_eq_of_orderFree

/-- Numbers nobody can read, for maps without any. -/
def noNumerals : Numerals where
  F64 := Unit
  F32 := Unit
  DateTime := Unit
  parseF64 _ := .error "invalid float literal"
  parseF32 _ := .error "invalid float literal"
  parseDateTime _ := .error "input contains invalid characters"
  zeroF64 := ()
  zeroF32 := ()
  unixEpoch := ()

/-- A server with two drives. -/
def twoDrives : AList fun _ : String => String :=
  (AList.singleton "sys-drive-D:-usedBytes" "2").insert "sys-drive-C:-usedBytes" "1"

/-- The drive the statistics report, with its bytes in use. -/
def usedOn (r : ParsedStats noNumerals) : Option (String × Nat) :=
  (outcome r).bind fun s => s.sys.drive.map fun d => (d.path, d.stats.usedBytes)

/-- Seen in one order the drive is `C:` with the bytes of `D:`, in the other it is `D:` with
those of `C:`. -/
theorem two_drives_mixed :
    ¬ ∀ v w : Visit twoDrives.toFinmap,
      SameResult (parseStatistics noNumerals v) (parseStatistics noNumerals w) := by
  intro h
  let order : Visit twoDrives.toFinmap := ⟨twoDrives, rfl⟩
  have hentries : order.entries =
      [("sys-drive-C:-usedBytes", "1"), ("sys-drive-D:-usedBytes", "2")] := by decide +kernel
  have hswap : [("sys-drive-D:-usedBytes", "2"), ("sys-drive-C:-usedBytes", "1")].Perm
      order.entries := by
    rw [hentries]
    exact List.Perm.swap _ _ []
  obtain ⟨w, hw⟩ := order.of_perm hswap
  have hc : usedOn (parseStatistics noNumerals order) = some ("C:", 2) := by decide +kernel
  have hd : usedOn (parseStatistics noNumerals w) = some ("D:", 1) := by
    unfold parseStatistics
    rw [hw]
    decide +kernel
  have heq := sameResult_iff.mp (h order w)
  unfold usedOn at hc hd
  rw [heq, hd] at hc
  exact absurd hc (by decide)

end Kurrent.Extras
