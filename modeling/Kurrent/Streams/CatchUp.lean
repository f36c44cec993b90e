import Kurrent.Lib.Run
import Kurrent.Streams.Subscription

/-!
# A subscription and its server

`CatchUp` is a subscription, the server's logs, and what the caller has got so far. The
caller starts calls and may drop one at any await; the server grows its logs, accepts or
refuses reads, sends the next pending event or any other message, and fails a stream at any
time. `Change` says once what a step can do to the parts the results are about.
-/

namespace Kurrent

open Lib

/-- What a call returned, and how many records the server had by then. -/
structure Returned where
  result : Except Error SubscriptionEvent
  records : Nat

def Returned.event (r : Returned) : Option ResolvedEvent :=
  match r.result with
  | .ok (.eventAppeared e) => some e
  | _ => none

/-- The events handed to the caller, in order. -/
def events (rs : List Returned) : List ResolvedEvent := rs.filterMap Returned.event

structure CatchUp where
  sub : Subscription
  pc : Pc
  server : (t : Topic) → Log t.key
  returned : List Returned
  /-- the reports sent to the connection task -/
  reports : List Msg

namespace CatchUp

inductive Label where
  | append (t : Topic) (e : Proto.ReadEvent)
  | call
  /-- the caller drops the call in progress -/
  | cancel
  | item (r : Except Status (Option ReadResp))
  | node (r : Except Error Handle)
  /-- the server accepts the read request -/
  | accept
  | opened
  | refused (status : Status)
  | woke

def init (sub : Subscription) (server : (t : Topic) → Log t.key) : CatchUp :=
  ⟨sub, .idle, server, [], []⟩

def records (w : CatchUp) (t : Topic) : List Proto.ReadEvent := (w.server t).entries

/-- The reader after the server sent `r`: an event is the next one pending. -/
def serve (w : CatchUp) (s : Reader Key) : Except Status (Option ReadResp) → Option (Reader Key)
  | .ok (some ⟨some (.event e)⟩) =>
    let t := w.sub.options.topic
    if s.next t.key (w.records t) = some e then some { s with sent := s.sent + 1 } else none
  | _ => some s

def goOn (w : CatchUp) (sub : Subscription) : CatchUp :=
  { w with sub := sub.head.1, pc := sub.head.2 }

def apply (w : CatchUp) (o : Outcome) : CatchUp :=
  let w := { w with reports := w.reports ++ o.report.toList }
  match o.turn with
  | .again => w.goOn o.sub
  | .sleep => { w with sub := o.sub, pc := .sleeping }
  | .ret r =>
    let n := (w.records o.sub.options.topic).length
    { w with sub := o.sub, pc := .idle, returned := w.returned ++ [⟨r, n⟩] }
  | .panic m => { w with sub := o.sub, pc := .panicked m }

def step (crates : Crates) (w : CatchUp) : Label → Option CatchUp
  | .append t e =>
    ((w.server t).append e).map fun l => { w with server := Function.update w.server t l }
  | .call =>
    match w.pc with
    | .idle => some (w.goOn w.sub)
    | _ => none
  | .cancel =>
    -- a stream that is out of the subscription goes with the call
    match w.pc with
    | .idle | .panicked _ => none
    | _ => some { w with pc := .idle }
  | .item r =>
    match w.pc with
    | .receiving s => (w.serve s r).map fun s' => w.apply (w.sub.onItem crates s' r)
    | _ => none
  | .node r =>
    match w.pc, r with
    | .selecting, .ok h =>
      some { w with sub := { w.sub with channelId := h.id }, pc := .reading none }
    | .selecting, .error e => some (w.apply { sub := w.sub, turn := .ret (.error e) })
    | _, _ => none
  | .accept =>
    match w.pc with
    | .reading none =>
      let n := (w.records w.sub.options.topic).length
      some { w with pc := .reading (some ⟨w.sub.options.origin n, 0⟩) }
    | _ => none
  | .opened =>
    match w.pc with
    | .reading (some s) => some (w.apply (w.sub.onRead (.ok s)))
    | _ => none
  | .refused status =>
    match w.pc with
    | .reading _ => some (w.apply (w.sub.onRead (.error status)))
    | _ => none
  | .woke =>
    match w.pc with
    | .sleeping => some (w.goOn w.sub)
    | _ => none

/-! ## What a step can do -/

def heldBy : Pc → List (Reader Key)
  | .receiving s => [s]
  | .reading o => o.toList
  | _ => []

/-- The readers the subscription can still hear from. -/
def readers (w : CatchUp) : List (Reader Key) :=
  match w.pc with
  | .panicked _ => []
  | pc => w.sub.stream.toList ++ heldBy pc

inductive Change (crates : Crates) (w w' : CatchUp) : Label → Prop where
  /-- a log grows -/
  | grow {t e l} (happ : (w.server t).append e = some l)
      (h : w' = { w with server := Function.update w.server t l }) : Change crates w w' (.append t e)
  /-- nothing about the offset; what is returned, if anything, is no event -/
  | quiet {l} (rs : List Returned) (server : w'.server = w.server)
      (options : w'.sub.options = w.sub.options) (readers : w'.readers ⊆ w.readers)
      (returned : w'.returned = w.returned ++ rs)
      (plain : ∀ r ∈ rs, r.event = none ∧ r.records = (w.records w.sub.options.topic).length) :
      Change crates w w' l
  /-- the server starts a reader for the request -/
  | opens (s : Reader Key)
      (hs : s = ⟨w.sub.options.origin (w.records w.sub.options.topic).length, 0⟩)
      (readers : w'.readers ⊆ s :: w.readers) (h : w' = { w with pc := .reading (some s) }) :
      Change crates w w' .accept
  /-- an event is handed out and its place noted -/
  | event {s e ev o r} (hs : s ∈ w.readers)
      (next : s.next w.sub.options.topic.key (w.records w.sub.options.topic) = some e)
      (conv : ResolvedEvent.from crates e = .ret ev) (orig : ev.getOriginalEvent = .ret o)
      (server : w'.server = w.server) (options : w'.sub.options = w.sub.options.track o)
      (readers : w'.readers = [{ s with sent := s.sent + 1 }])
      (returned : w'.returned = w.returned ++
        [⟨.ok (.eventAppeared ev), (w.records w.sub.options.topic).length⟩]) :
      Change crates w w' (.item r)

section

variable {crates : Crates} {w w' : CatchUp} {l : Label}

theorem goOn_readers (w : CatchUp) (sub : Subscription) :
    (w.goOn sub).readers = sub.stream.toList := by
  cases h : sub.stream <;> simp [goOn, readers, Subscription.head, h, heldBy]

theorem goOn_options (w : CatchUp) (sub : Subscription) :
    (w.goOn sub).sub.options = sub.options := by
  cases h : sub.stream <;> simp [goOn, Subscription.head, h]

theorem stream_subset_readers (h : ∀ m, w.pc ≠ .panicked m) : w.sub.stream.toList ⊆ w.readers := by
  unfold readers
  split
  · next m hm => exact absurd hm (h m)
  · exact List.subset_append_left _ _

theorem goOn_quiet (h : ∀ m, w.pc ≠ .panicked m) : Change crates w (w.goOn w.sub) l := by
  refine .quiet [] rfl (goOn_options _ _) ?_ (List.append_nil _).symm (by simp)
  rw [goOn_readers]
  exact stream_subset_readers h

/-- An outcome that keeps the offset and hands out no event changes nothing else. -/
theorem apply_quiet {o : Outcome} (hopt : o.sub.options = w.sub.options)
    (hstream : o.sub.stream.toList ⊆ w.readers)
    (hplain : ∀ r, o.turn = .ret r → ∀ e, r ≠ .ok (.eventAppeared e)) :
    Change crates w (w.apply o) l := by
  have hreaders : ∀ w' : CatchUp, w'.sub = o.sub → heldBy w'.pc = [] → w'.readers ⊆ w.readers := by
    intro w' hsub hpc
    unfold readers
    split
    · exact List.nil_subset _
    · rw [hsub, hpc, List.append_nil]; exact hstream
  unfold apply
  split
  · refine .quiet [] rfl (by rw [goOn_options, hopt]) ?_ (List.append_nil _).symm (by simp)
    rw [goOn_readers]; exact hstream
  · exact .quiet [] rfl hopt (hreaders _ rfl rfl) (List.append_nil _).symm (by simp)
  · next r hr =>
    refine .quiet _ rfl hopt (hreaders _ rfl rfl) rfl ?_
    intro x hx
    rw [List.mem_singleton.mp hx]
    refine ⟨?_, by rw [hopt]; rfl⟩
    unfold Returned.event
    split
    · next e he => exact absurd he (hplain r hr e)
    · rfl
  · exact .quiet [] rfl hopt (hreaders _ rfl rfl) (List.append_nil _).symm (by simp)

theorem onContent_plain {sub sub' : Subscription} {c : Content} {ev : SubscriptionEvent}
    (h : sub.onContent crates c = .ret (sub', ev)) :
    (sub' = sub ∧ (∀ e, ev ≠ .eventAppeared e) ∧ ∀ e, c ≠ .event e) ∨
    ∃ e event o, c = .event e ∧ ResolvedEvent.from crates e = .ret event ∧
      event.getOriginalEvent = .ret o ∧ ev = .eventAppeared event ∧
      sub' = { sub with options := sub.options.track o } := by
  cases c with
  | event e =>
    obtain ⟨event, hev, h⟩ := Call.bind_eq_ret h
    obtain ⟨o, ho, h⟩ := Call.bind_eq_ret h
    cases h
    exact .inr ⟨e, event, o, rfl, hev, ho, rfl, rfl⟩
  | streamNotFound => cases h
  | confirmation id => cases h; simp
  | checkpoint p => cases h; simp
  | firstStreamPosition n => cases h; simp
  | lastStreamPosition n => cases h; simp
  | lastAllStreamPosition p => cases h; simp
  | caughtUp => cases h; simp
  | fellBehind => cases h; simp

theorem serve_event {s s' : Reader Key} {e : Proto.ReadEvent}
    (h : w.serve s (.ok (some ⟨some (.event e)⟩)) = some s') :
    s.next w.sub.options.topic.key (w.records w.sub.options.topic) = some e ∧
      s' = { s with sent := s.sent + 1 } := by
  simp only [serve] at h
  split at h
  · next hn => cases h; exact ⟨hn, rfl⟩
  · cases h

theorem serve_other {s s' : Reader Key} {r : Except Status (Option ReadResp)}
    (h : w.serve s r = some s') (hr : ∀ e, r ≠ .ok (some ⟨some (.event e)⟩)) : s' = s := by
  unfold serve at h
  split at h
  · next e => exact absurd rfl (hr e)
  · cases h; rfl

theorem item_change {s s' : Reader Key} {r : Except Status (Option ReadResp)}
    (hpc : w.pc = .receiving s) (hserve : w.serve s r = some s') :
    Change crates w (w.apply (w.sub.onItem crates s' r)) (.item r) := by
  have hmem : s ∈ w.readers := by simp [readers, hpc, heldBy]
  have hsub : w.sub.stream.toList ⊆ w.readers := stream_subset_readers (by simp [hpc])
  have hback : ∀ r', s' = s → (some s' : Option (Reader Key)) = r' → r'.toList ⊆ w.readers := by
    rintro _ rfl rfl
    simpa using hmem
  cases r with
  | error status =>
    refine apply_quiet rfl hsub fun r' hr' e => ?_
    simp only [Subscription.onItem] at hr'
    split at hr' <;> cases hr'
    exact nofun
  | ok resp =>
    cases hc : resp.bind ReadResp.content with
    | none =>
      have hs : s' = s := serve_other hserve fun e he => by
        cases he; cases hc
      have ho : w.sub.onItem crates s' (.ok resp) =
          { sub := { w.sub with stream := some s' }, turn := .again } := by
        simp only [Subscription.onItem, hc]
      rw [ho]
      exact apply_quiet rfl (hback _ hs rfl) fun _ hr => by cases hr
    | some content =>
      cases hcall : Subscription.onContent crates { w.sub with stream := some s' } content with
      | panic m =>
        have ho : w.sub.onItem crates s' (.ok resp) =
            { sub := { w.sub with stream := some s' }, turn := .panic m } := by
          simp only [Subscription.onItem, hc, hcall]
        rw [ho]
        -- the call and its reader are gone
        exact .quiet [] rfl rfl (List.nil_subset _) (List.append_nil _).symm (by simp)
      | ret res =>
        obtain ⟨sub', ev⟩ := res
        have ho : w.sub.onItem crates s' (.ok resp) = { sub := sub', turn := .ret (.ok ev) } := by
          simp only [Subscription.onItem, hc, hcall]
        rw [ho]
        rcases onContent_plain hcall with ⟨rfl, hev, hne⟩ | ⟨e, event, o, rfl, hfrom, horig, rfl, rfl⟩
        · have hs : s' = s := serve_other hserve fun e he => by
            cases he; cases hc; exact hne e rfl
          refine apply_quiet rfl (hback _ hs rfl) fun r' hr' e => ?_
          cases hr'
          exact fun he => hev e (Except.ok.inj he)
        · have hresp : resp = some ⟨some (.event e)⟩ := by
            cases resp with
            | none => cases hc
            | some resp =>
              obtain ⟨content⟩ := resp
              have : content = some (.event e) := hc
              rw [this]
          subst hresp
          obtain ⟨hnext, rfl⟩ := serve_event hserve
          refine .event hmem hnext hfrom horig rfl rfl rfl ?_
          rw [← track_topic w.sub.options o]
          rfl

/-- **What a step can do.** -/
theorem step_change (h : w.step crates l = some w') : Change crates w w' l := by
  cases l with
  | append t e =>
    obtain ⟨log, hlog, rfl⟩ := Option.map_eq_some_iff.mp h
    exact .grow hlog rfl
  | call =>
    simp only [step] at h
    split at h
    · next hpc => cases h; exact goOn_quiet (by simp [hpc])
    · cases h
  | cancel =>
    simp only [step] at h
    split at h
    · cases h
    · cases h
    · next hidle hpanic =>
      cases h
      refine .quiet [] rfl rfl ?_ (List.append_nil _).symm (by simp)
      show w.sub.stream.toList ++ [] ⊆ w.readers
      rw [List.append_nil]
      exact stream_subset_readers fun m hm => hpanic m hm
  | item r =>
    simp only [step] at h
    split at h
    · next s hpc =>
      obtain ⟨s', hs', rfl⟩ := Option.map_eq_some_iff.mp h
      exact item_change hpc hs'
    · cases h
  | node r =>
    simp only [step] at h
    split at h
    · next hd hpc =>
      cases h
      refine .quiet [] rfl rfl ?_ (List.append_nil _).symm (by simp)
      show w.sub.stream.toList ++ [] ⊆ w.readers
      rw [List.append_nil]
      exact stream_subset_readers (by simp [hpc])
    · next e hpc =>
      cases h
      refine apply_quiet rfl (stream_subset_readers (by simp [hpc])) fun r hr => ?_
      cases hr
      exact nofun
    · cases h
  | accept =>
    simp only [step] at h
    split at h
    · next hpc =>
      cases h
      refine .opens _ rfl ?_ rfl
      intro r hr
      simpa [readers, hpc, heldBy, or_comm] using hr
    · cases h
  | opened =>
    simp only [step] at h
    split at h
    · next s hpc =>
      cases h
      refine apply_quiet rfl ?_ fun _ hr => by cases hr
      simp [Subscription.onRead, readers, hpc, heldBy]
    · cases h
  | refused status =>
    simp only [step] at h
    split at h
    · next o hpc =>
      cases h
      have hsub : w.sub.stream.toList ⊆ w.readers := stream_subset_readers (by simp [hpc])
      unfold Subscription.onRead
      dsimp only
      split
      · exact apply_quiet rfl hsub fun _ hr => by cases hr
      · refine apply_quiet rfl hsub fun r hr => ?_
        cases hr
        exact nofun
    · cases h
  | woke =>
    simp only [step] at h
    split at h
    · next hpc => cases h; exact goOn_quiet (by simp [hpc])
    · cases h

end

end CatchUp

end Kurrent
