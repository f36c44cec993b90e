import Kurrent.Streams.Delivery

/-!
# Subscriptions from the end

A subscription from `End` has no starting point of its own: each read that still asks for
`End` starts behind what the server has at that moment, and only an event handed out fixes
the place. A confirmation or a checkpoint does not. `NoGap` is what the caller expects from
the first confirmation on; `end_subscription_gapless` names the runs that give it.
-/

namespace Kurrent

open Lib

/-- The number of records when this confirmation was returned. -/
def Returned.confirmation (r : Returned) : Option Nat :=
  match r.result with
  | .ok (.confirmed _) => some r.records
  | _ => none

/-- The number of records at the first confirmation. -/
def confirmedAt (rs : List Returned) : Option Nat := (rs.filterMap Returned.confirmation).head?

/-- An event's place in the order of the topic. -/
def Topic.keyOf (t : Topic) (e : ResolvedEvent) : Key :=
  match e.getOriginalEvent with
  | .panic _ => toLex (0, 0)
  | .ret o =>
    match t.target with
    | .stream _ => revisionKey o.revision
    | .all => positionKey o.position

namespace CatchUp

/-- Before each event handed out after the first confirmation, the caller got every record
between the last one at that confirmation and the event. -/
def NoGap (crates : Crates) (t : Topic) (w : CatchUp) : Prop :=
  ∀ pre r post ev n, w.returned = pre ++ r :: post → r.event = some ev →
    confirmedAt pre = some n →
    ∀ e ∈ w.records t,
      (∀ r₀, ((w.records t).take n).getLast? = some r₀ → t.key r₀ < t.key e) →
      t.key e < t.keyOf ev → ∃ ev', ResolvedEvent.from crates e = .ret ev' ∧ ev' ∈ events pre

/-- A read that still asks for the end after a confirmation finds no record that was not
there at the first one. -/
def MissesNothing (w : CatchUp) : Label → Prop
  | .accept => w.sub.options.atEnd → ∀ n, confirmedAt w.returned = some n →
      (w.records w.sub.options.topic).length = n
  | _ => True

/-- The latest place from which nothing is missed. -/
def bound (t : Topic) (w : CatchUp) : Nat := (confirmedAt w.returned).getD (w.records t).length

/-- No event yet, and every reader starts early enough. -/
structure Waits (t : Topic) (w : CatchUp) : Prop where
  none : events w.returned = []
  atEnd : w.sub.options.atEnd
  readers : ∀ r ∈ w.readers, ∃ m, r = ⟨.tail m, 0⟩ ∧ m ≤ bound t w

structure EndInv (crates : Crates) (t : Topic) (w : CatchUp) : Prop where
  topic : w.sub.options.topic = t
  phase : Waits t w ∨ ∃ m d, m ≤ bound t w ∧ Tracks crates t (.tail m) d w

section

variable {crates : Crates} {w w' : CatchUp} {l : Label} {t : Topic}

theorem keyOf_from {e : Proto.ReadEvent} {ev : ResolvedEvent}
    (h : ResolvedEvent.from crates e = .ret ev) : t.keyOf ev = t.key e := by
  unfold Topic.keyOf Topic.key
  cases ho : ev.getOriginalEvent with
  | ret o =>
    obtain ⟨r, hr, hfrom⟩ := getOriginalEvent_from h ho
    obtain ⟨hrev, hpos⟩ := recordedEvent_place hfrom
    rw [hr]
    cases t.target <;> simp [hrev, hpos]
  | panic m => rw [original_eq_none h ho]

theorem confirmedAt_append {rs rs' : List Returned} {n : Nat} (h : confirmedAt rs = some n) :
    confirmedAt (rs ++ rs') = some n := by
  unfold confirmedAt at h ⊢
  rw [List.filterMap_append, List.head?_append, h]
  rfl

theorem confirmedAt_stamped {rs rs' : List Returned} {n : Nat} (h : confirmedAt rs = none)
    (hn : ∀ r ∈ rs', r.records = n) :
    confirmedAt (rs ++ rs') = none ∨ confirmedAt (rs ++ rs') = some n := by
  have hrs : rs.filterMap Returned.confirmation = [] := List.head?_eq_none_iff.mp h
  unfold confirmedAt
  rw [List.filterMap_append, hrs, List.nil_append]
  cases hc : (rs'.filterMap Returned.confirmation).head? with
  | none => exact .inl rfl
  | some k =>
    right
    obtain ⟨r, hr, hk⟩ := List.mem_filterMap.mp (List.mem_of_mem_head? hc)
    unfold Returned.confirmation at hk
    split at hk
    · cases hk; rw [hn r hr]
    · cases hk

/-- What a step returns does not move the bound. -/
theorem bound_returned {rs : List Returned} (hserver : w'.server = w.server)
    (hret : w'.returned = w.returned ++ rs) (hn : ∀ r ∈ rs, r.records = (w.records t).length) :
    bound t w' = bound t w := by
  have hrec : w'.records t = w.records t := by rw [records, hserver, records]
  unfold bound
  rw [hret, hrec]
  cases hc : confirmedAt w.returned with
  | some n => rw [confirmedAt_append hc]
  | none =>
    rcases confirmedAt_stamped hc hn with h | h
    · rw [h]
    · rw [h]; rfl

theorem bound_step (ht : w.sub.options.topic = t) (h : w.step crates l = some w') :
    bound t w ≤ bound t w' := by
  cases step_change h with
  | grow happ heq =>
    subst heq
    unfold bound
    cases hc : confirmedAt w.returned with
    | some n => simp
    | none => simpa using (records_grow happ).length_le
  | quiet rs server options readers returned plain =>
    rw [ht] at plain
    exact le_of_eq (bound_returned server returned fun r hr => (plain r hr).2).symm
  | opens s hs readers heq => subst heq; exact le_refl _
  | event hs next conv orig server options readers returned =>
    rw [ht] at returned
    exact le_of_eq (bound_returned server returned (by simp)).symm

theorem origin_atEnd {o : ReadOptions} (h : o.atEnd) (n : Nat) : o.origin n = .tail n := by
  unfold ReadOptions.atEnd at h
  split at h
  · next heq => simp [ReadOptions.origin, heq]
  · next heq => simp [ReadOptions.origin, heq]
  · exact h.elim

theorem waits_step (ht : w.sub.options.topic = t) (hw : Waits t w) (hc : MissesNothing w l)
    (h : w.step crates l = some w') :
    Waits t w' ∨ ∃ m d, m ≤ bound t w' ∧ Tracks crates t (.tail m) d w' := by
  have hb := bound_step ht h
  have early : ∀ r ∈ w.readers, ∃ m, r = ⟨.tail m, 0⟩ ∧ m ≤ bound t w' := by
    intro r hr
    obtain ⟨m, rfl, hm⟩ := hw.readers r hr
    exact ⟨m, rfl, hm.trans hb⟩
  cases step_change h with
  | grow happ heq => subst heq; exact .inl ⟨hw.none, hw.atEnd, early⟩
  | quiet rs server options readers returned plain =>
    refine .inl ⟨?_, by rw [options]; exact hw.atEnd, fun r hr => early r (readers hr)⟩
    rw [returned, events_append, events_plain plain, List.append_nil, hw.none]
  | opens s hs readers heq =>
    subst heq
    refine .inl ⟨hw.none, hw.atEnd, fun r hr => ?_⟩
    rcases List.mem_cons.mp (readers hr) with rfl | hr
    · rw [hs, origin_atEnd hw.atEnd, ht]
      refine ⟨_, rfl, ?_⟩
      -- the read starts at the latest place from which nothing is missed
      show (w.records t).length ≤ bound t w
      have hlen := hc hw.atEnd
      rw [ht] at hlen
      unfold bound
      cases hconf : confirmedAt w.returned with
      | none => exact le_refl _
      | some n => exact le_of_eq (hlen n hconf)
    · exact early r hr
  | event hs next conv orig server options readers returned =>
    obtain ⟨m, rfl, hm⟩ := early _ hs
    rw [ht] at next
    refine .inr ⟨m, _, hm, tracks_event ht List.nil_prefix ?_ (OnTrack.fresh _ []) next conv orig
      server options readers returned⟩
    rw [hw.none]; rfl

theorem endInv_step (hw : EndInv crates t w) (hc : MissesNothing w l)
    (h : w.step crates l = some w') : EndInv crates t w' := by
  have hphase : Waits t w' ∨ ∃ m d, m ≤ bound t w' ∧ Tracks crates t (.tail m) d w' := by
    rcases hw.phase with hwait | ⟨m, d, hm, htr⟩
    · exact waits_step hw.topic hwait hc h
    · have hm' := hm.trans (bound_step hw.topic h)
      rcases tracks_step htr h with htr' | ⟨e, htr'⟩
      · exact .inr ⟨m, d, hm', htr'⟩
      · exact .inr ⟨m, d ++ [e], hm', htr'⟩
  refine ⟨?_, hphase⟩
  cases step_change h with
  | grow happ heq => subst heq; exact hw.topic
  | quiet rs server options readers returned plain => rw [options, hw.topic]
  | opens s hs readers heq => subst heq; exact hw.topic
  | event hs next conv orig server options readers returned => rw [options, track_topic, hw.topic]

/-- The events returned up to some point, as a part of the records handed out. -/
theorem handed_split {d : List Proto.ReadEvent} {pre post : List Returned} {r : Returned}
    {ev : ResolvedEvent}
    (h : d.map (ResolvedEvent.from crates) = (events (pre ++ r :: post)).map .ret)
    (hr : r.event = some ev) :
    ∃ d₁ e d₂, d = d₁ ++ e :: d₂ ∧ d₁.map (ResolvedEvent.from crates) = (events pre).map .ret ∧
      ResolvedEvent.from crates e = .ret ev := by
  have hevents : events (pre ++ r :: post) = events pre ++ ev :: events post := by
    rw [events_append]
    simp [events, hr]
  rw [hevents, List.map_append, List.map_cons] at h
  obtain ⟨d₁, rest, rfl, h₁, hrest⟩ := List.map_eq_append_iff.mp h
  obtain ⟨e, d₂, rfl, he, -⟩ := List.map_eq_cons_iff.mp hrest
  exact ⟨d₁, e, d₂, rfl, h₁, he⟩

theorem noGap_of_tracks {m : Nat} {d : List Proto.ReadEvent} (hm : m ≤ bound t w)
    (hw : Tracks crates t (.tail m) d w) : NoGap crates t w := by
  intro pre r post ev n hret hr hconf e he hafter hbefore
  have hsorted : (w.records t).Pairwise fun a b => t.key a < t.key b := (w.server t).sorted
  have hmn : m ≤ n := by
    have := hm
    unfold bound at this
    rw [hret, confirmedAt_append hconf] at this
    exact this
  have hhanded := hw.handed
  rw [hret] at hhanded
  obtain ⟨d₁, e₁, d₂, rfl, hd₁, he₁⟩ := handed_split hhanded hr
  obtain ⟨rest, hrest⟩ := hw.pending
  have hdrop : (w.records t).drop m = d₁ ++ e₁ :: (d₂ ++ rest) := by
    have : (d₁ ++ e₁ :: d₂) ++ rest = (w.records t).drop m := hrest
    rw [← this, List.append_assoc, List.cons_append]
  -- `e` is behind the records of the confirmation, hence pending from `m`
  have hlate : e ∈ (w.records t).drop n := by
    rw [← List.take_append_drop n (w.records t), List.mem_append] at he
    refine he.resolve_left fun htake => ?_
    obtain ⟨r₀, hr₀, hle⟩ := le_getLast (hsorted.sublist (List.take_sublist n _)) htake
    exact absurd (hafter r₀ hr₀) (not_lt_of_ge hle)
  have hmem : e ∈ d₁ ++ e₁ :: (d₂ ++ rest) := by
    rw [← hdrop]
    exact (List.drop_subset_drop_left _ hmn) hlate
  have hlt : t.key e < t.key e₁ := by rw [← keyOf_from he₁]; exact hbefore
  have hin : e ∈ d₁ := by
    refine mem_of_key_lt ?_ hmem hlt
    rw [← hdrop]
    exact hsorted.sublist (List.drop_sublist m _)
  have hconv : ResolvedEvent.from crates e ∈ (events pre).map .ret := by
    rw [← hd₁]
    exact List.mem_map_of_mem hin
  obtain ⟨ev', hev', heq⟩ := List.mem_map.mp hconv
  exact ⟨ev', heq.symm, hev'⟩

theorem EndInv.noGap (hw : EndInv crates t w) : NoGap crates t w := by
  rcases hw.phase with hwait | ⟨m, d, hm, htr⟩
  · intro pre r post ev n hret hr
    have hnone := hwait.none
    rw [hret, events_append] at hnone
    simp [events, hr] at hnone
  · exact noGap_of_tracks hm htr

end

/-- The subscriptions that start behind what is there. -/
inductive StartsAtEnd : Subscription → Prop where
  | stream {name : Bytes} {o : SubscribeToStreamOptions} (h : o.position = .end) :
    StartsAtEnd (subscribeToStream name o)
  | all {o : SubscribeToAllOptions} (h : o.position = .end) : StartsAtEnd (subscribeToAll o)

theorem init_endInv {crates : Crates} {sub : Subscription} {server : (t : Topic) → Log t.key}
    (h : StartsAtEnd sub) : EndInv crates sub.options.topic (init sub server) := by
  refine ⟨rfl, .inl ⟨rfl, ?_, ?_⟩⟩
  · cases h with
    | stream h => simp [init, subscribeToStream, Subscription.new, ReadOptions.atEnd, h]
    | all h => simp [init, subscribeToAll, Subscription.new, ReadOptions.atEnd, h]
  · have hs : sub.stream = none := by cases h <;> rfl
    simp [readers, init, hs, heldBy]

end CatchUp

open CatchUp in
/-- **From the first confirmation on the caller misses nothing**, in every run where a read
that still asks for the end finds nothing new. -/
theorem end_subscription_gapless {crates : Crates} {sub : Subscription}
    {server : (t : Topic) → Log t.key} {ls : List CatchUp.Label} {w : CatchUp}
    (hsub : StartsAtEnd sub)
    (hreads : Along (CatchUp.step crates) MissesNothing (CatchUp.init sub server) ls)
    (hrun : exec (CatchUp.step crates) (CatchUp.init sub server) ls = some w) :
    NoGap crates sub.options.topic w :=
  (exec_along (P := EndInv crates sub.options.topic) (fun _ _ _ hw hc hst => endInv_step hw hc hst)
    (init_endInv hsub) hreads hrun).noGap

def confirms : CatchUp.Label := .item (.ok (some ⟨some (.confirmation "")⟩))

/-- The stream is lost after the confirmation, and nothing is appended until the next one is
there. -/
def quietDrop : List CatchUp.Label :=
  .call :: connects ++ [confirms, .call, drops] ++ connects ++
    [.append sampleTopic (sampleEvent 1), sendsEvent 1]

theorem end_subscription_gapless_quietDrop :
    ∃ w, exec (CatchUp.step soloCrates)
        (CatchUp.init (sampleSubscription .end) sampleServer) quietDrop = some w ∧
      (events w.returned).length = 1 ∧ CatchUp.NoGap soloCrates sampleTopic w := by
  have hrun : (exec (CatchUp.step soloCrates)
      (CatchUp.init (sampleSubscription .end) sampleServer) quietDrop).isSome := rfl
  obtain ⟨w, hw⟩ := Option.isSome_iff_exists.mp hrun
  have hlen : (events w.returned).length = 1 := by cases hw; rfl
  refine ⟨w, hw, hlen, end_subscription_gapless (.stream rfl) ?_ hw⟩
  -- the first read comes before any confirmation, the second finds the same record
  refine .cons trivial rfl (.cons trivial rfl (.cons ?_ rfl (.cons trivial rfl ?_)))
  · intro _ n hn
    cases hn
  · refine .cons trivial rfl (.cons trivial rfl (.cons trivial rfl (.cons trivial rfl ?_)))
    refine .cons ?_ rfl (.cons trivial rfl (.cons trivial rfl (.cons trivial rfl trivial)))
    intro _ n hn
    cases hn
    rfl

/-- As above, with a record appended before the next read. -/
def unluckyDrop : List CatchUp.Label :=
  .call :: connects ++ [confirms, .call, drops, .append sampleTopic (sampleEvent 1)] ++ connects ++
    [.append sampleTopic (sampleEvent 2), sendsEvent 2]

/-- The record appended while the client reconnects is never handed out. -/
theorem end_subscription_skips_event :
    ∃ w, exec (CatchUp.step soloCrates)
        (CatchUp.init (sampleSubscription .end) sampleServer) unluckyDrop = some w ∧
      ¬ CatchUp.NoGap soloCrates sampleTopic w := by
  have hrun : (exec (CatchUp.step soloCrates)
      (CatchUp.init (sampleSubscription .end) sampleServer) unluckyDrop).isSome := rfl
  obtain ⟨w, hw⟩ := Option.isSome_iff_exists.mp hrun
  refine ⟨w, hw, fun h => ?_⟩
  cases hw
  obtain ⟨ev', -, hev'⟩ := h [⟨.ok (.confirmed ""), 1⟩] _ [] _ 1 rfl rfl rfl (sampleEvent 1)
    (by decide) (by intro r₀ hr₀; cases hr₀; decide) (by decide)
  cases hev'

end Kurrent
