import Kurrent.Streams.Resubscribe

/-!
# What a subscription asks for

A subscription over all its calls, those that returned and those that were dropped: what it
asked of which node, what it handed out and what it reported to the connection task, in the
order in which it did. Nothing is assumed of the servers: they may send what they like.
-/

namespace Kurrent

open Lib

inductive Deed where
  /-- a read request to the node of the handle -/
  | asked (node : Uuid) (options : ReadOptions)
  | handed (e : ResolvedEvent)
  | reported (m : Msg)

/-- The node that was asked last. -/
def Deed.node : Deed → Option Uuid
  | .asked node _ => some node
  | _ => none

def Deed.event : Deed → Option ResolvedEvent
  | .handed e => some e
  | _ => none

def lastNode (deeds : List Deed) : Option Uuid := (deeds.filterMap Deed.node).getLast?

def lastEvent (deeds : List Deed) : Option ResolvedEvent := (deeds.filterMap Deed.event).getLast?

/-- The options of a subscription that has handed out the event last, if any. -/
def ReadOptions.after (o : ReadOptions) : Option ResolvedEvent → ReadOptions
  | none => o
  | some e =>
    match e.getOriginalEvent with
    | .ret original => o.track original
    | .panic _ => o

structure Following where
  progress : Progress
  deeds : List Deed := []

namespace Following

inductive Label where
  /-- the caller calls, or drops the call it has made and calls again -/
  | call
  | reply (r : AwaitReply)

/-- The report that goes with an answer. -/
def reportOf (crates : Crates) : Progress → AwaitReply → Option Msg
  | .awaiting sub (.receiving stream), .item r => (sub.onItem crates stream r).report
  | .awaiting sub (.reading _), .read r => (sub.onRead r).report
  | _, _ => none

def askedOf : Progress → AwaitReply → Option Deed
  | .awaiting sub .selecting, .node (.ok h) => some (.asked h.id sub.options)
  | _, _ => none

def handedOf : Progress → Option Deed
  | .returned _ (.ok (.eventAppeared e)) => some (.handed e)
  | _ => none

/-- What the subscription does over an answer that brings it from `p` to `p'`. -/
def deed (crates : Crates) (p : Progress) (r : AwaitReply) (p' : Progress) : Option Deed :=
  (handedOf p').or ((askedOf p r).or ((reportOf crates p r).map .reported))

def step (crates : Crates) (s : Following) : Label → Option Following
  | .call => some { s with progress := s.progress.sub.goRound }
  | .reply r => (Subscription.resume crates s.progress r).map fun p' =>
    { progress := p', deeds := s.deeds ++ (deed crates s.progress r p').toList }

/-- What holds of a deed, after those before it: a request goes on behind the event that was
handed out last, a report is about the node that was asked last. -/
def Fits (options : ReadOptions) (before : List Deed) : Deed → Prop
  | .asked _ o => o = options.after (lastEvent before)
  | .handed _ => True
  | .reported m => ∃ node seed, lastNode before = some node ∧ m = .createChannel node seed

/-- The subscription holds a stream or waits for one. -/
def Busy : Progress → Prop
  | .awaiting sub pc => sub.stream.isSome ∨ (∃ s, pc = .receiving s) ∨ ∃ o, pc = .reading o
  | .returned sub _ | .panicked sub _ => sub.stream.isSome

structure Follows (options : ReadOptions) (deeds : List Deed) (p : Progress) : Prop where
  fits : EachAfter (Fits options) deeds
  options : p.sub.options = options.after (lastEvent deeds)
  node : Busy p → lastNode deeds = some p.sub.channelId

section

variable {crates : Crates} {options : ReadOptions} {deeds : List Deed} {sub : Subscription}

@[simp] theorem lastNode_reported (m : Msg) : lastNode (deeds ++ [.reported m]) = lastNode deeds := by
  simp [lastNode, Deed.node]

@[simp] theorem lastEvent_reported (m : Msg) :
    lastEvent (deeds ++ [.reported m]) = lastEvent deeds := by
  simp [lastEvent, Deed.event]

@[simp] theorem lastNode_asked (node : Uuid) (o : ReadOptions) :
    lastNode (deeds ++ [.asked node o]) = some node := by
  simp [lastNode, Deed.node]

@[simp] theorem lastEvent_asked (node : Uuid) (o : ReadOptions) :
    lastEvent (deeds ++ [.asked node o]) = lastEvent deeds := by
  simp [lastEvent, Deed.event]

@[simp] theorem lastNode_handed (e : ResolvedEvent) :
    lastNode (deeds ++ [.handed e]) = lastNode deeds := by
  simp [lastNode, Deed.node]

@[simp] theorem lastEvent_handed (e : ResolvedEvent) :
    lastEvent (deeds ++ [.handed e]) = some e := by
  simp [lastEvent, Deed.event]

/-- Tracking a later event forgets the one before. -/
theorem track_track (o : ReadOptions) (a b : RecordedEvent) : (o.track a).track b = o.track b := by
  cases h : o.streamOption <;> simp [ReadOptions.track, h]

theorem after_track (o : ReadOptions) (last : Option ResolvedEvent) {e : ResolvedEvent}
    {original : RecordedEvent} (h : e.getOriginalEvent = .ret original) :
    (o.after last).track original = o.after (some e) := by
  have he : o.after (some e) = o.track original := by simp only [ReadOptions.after, h]
  rw [he]
  cases last with
  | none => rfl
  | some e' =>
    unfold ReadOptions.after
    dsimp only
    split
    · exact track_track _ _ _
    · rfl

theorem follows_goRound (hfits : EachAfter (Fits options) deeds)
    (ho : sub.options = options.after (lastEvent deeds))
    (hnode : sub.stream.isSome → lastNode deeds = some sub.channelId) :
    Follows options deeds sub.goRound := by
  unfold Subscription.goRound Subscription.head
  cases hs : sub.stream with
  | none =>
    refine ⟨hfits, ho, fun hb => ?_⟩
    rcases hb with hb | ⟨_, hb⟩ | ⟨_, hb⟩
    · rw [hs] at hb; cases hb
    · cases hb
    · cases hb
  | some stream => exact ⟨hfits, ho, fun _ => hnode (by rw [hs]; rfl)⟩

/-- How a call goes on after an await changes neither the options nor the node. -/
theorem follows_proceed {o : Outcome} (hfits : EachAfter (Fits options) deeds)
    (ho : o.sub.options = options.after (lastEvent deeds))
    (hnode : o.sub.stream.isSome → lastNode deeds = some o.sub.channelId) :
    Follows options deeds (Subscription.proceed o) := by
  unfold Subscription.proceed
  split
  · exact follows_goRound hfits ho hnode
  · refine ⟨hfits, ho, fun hb => ?_⟩
    rcases hb with hb | ⟨_, hb⟩ | ⟨_, hb⟩
    · exact hnode hb
    · cases hb
    · cases hb
  · exact ⟨hfits, ho, hnode⟩
  · exact ⟨hfits, ho, hnode⟩

/-- A report names the node that was asked last. -/
theorem reported_fits {e : Error} {m : Msg} (hnode : lastNode deeds = some sub.channelId)
    (h : handleError sub.channelId e = some m) : Fits options deeds (.reported m) := by
  unfold handleError at h
  split at h
  · cases h; exact ⟨_, _, hnode, rfl⟩
  · cases h; exact ⟨_, _, hnode, rfl⟩
  · cases h

/-- A report, if there is one, changes neither the last event nor the last node. -/
theorem report_kept (e : Error) (hfits : EachAfter (Fits options) deeds)
    (hnode : lastNode deeds = some sub.channelId) :
    EachAfter (Fits options)
        (deeds ++ ((handleError sub.channelId e).map Deed.reported).toList) ∧
      lastEvent (deeds ++ ((handleError sub.channelId e).map Deed.reported).toList) =
        lastEvent deeds ∧
      lastNode (deeds ++ ((handleError sub.channelId e).map Deed.reported).toList) =
        lastNode deeds := by
  cases h : handleError sub.channelId e with
  | none => simpa using hfits
  | some m => exact ⟨hfits.concat (reported_fits hnode h), lastEvent_reported m, lastNode_reported m⟩

/-- A message that is handed out; if it is an event, the options go on behind it. -/
theorem follows_content {sub' : Subscription} {c : Content} {ev : SubscriptionEvent}
    (h : sub.onContent crates c = .ret (sub', ev)) (hfits : EachAfter (Fits options) deeds)
    (ho : sub.options = options.after (lastEvent deeds))
    (hnode : lastNode deeds = some sub.channelId) :
    Follows options (deeds ++ (handedOf (.returned sub' (.ok ev))).toList)
      (.returned sub' (.ok ev)) := by
  have hquiet (hsub : sub' = sub) (hev : handedOf (.returned sub' (.ok ev)) = none) :
      Follows options (deeds ++ (handedOf (.returned sub' (.ok ev))).toList)
        (.returned sub' (.ok ev)) := by
    subst hsub
    rw [hev, Option.toList_none, List.append_nil]
    exact ⟨hfits, ho, fun _ => hnode⟩
  cases c with
  | event e =>
    obtain ⟨event, -, h⟩ := Call.bind_eq_ret h
    obtain ⟨original, horiginal, h⟩ := Call.bind_eq_ret h
    cases h
    refine ⟨hfits.concat trivial, ?_, fun _ => (lastNode_handed event).trans hnode⟩
    show sub.options.track original = options.after (lastEvent (deeds ++ [.handed event]))
    rw [lastEvent_handed, ho, after_track _ _ horiginal]
  | streamNotFound => cases h
  | confirmation | checkpoint | firstStreamPosition | lastStreamPosition | lastAllStreamPosition
  | caughtUp | fellBehind => cases h; exact hquiet rfl rfl

theorem follows_item {stream : Reader Key} {r : Except Status (Option ReadResp)}
    (h : Follows options deeds (.awaiting sub (.receiving stream))) :
    Follows options
      (deeds ++ (deed crates (.awaiting sub (.receiving stream)) (.item r)
        (Subscription.proceed (sub.onItem crates stream r))).toList)
      (Subscription.proceed (sub.onItem crates stream r)) := by
  have hnode : lastNode deeds = some sub.channelId := h.node (.inr (.inl ⟨stream, rfl⟩))
  have ho : sub.options = options.after (lastEvent deeds) := h.options
  cases r with
  | error status =>
    obtain ⟨hfits, hevent, hlast⟩ := report_kept (Error.fromGrpc status) h.fits hnode
    have hdeed : deed crates (.awaiting sub (.receiving stream)) (.item (.error status))
        (Subscription.proceed (sub.onItem crates stream (.error status))) =
          (handleError sub.channelId (Error.fromGrpc status)).map .reported := by
      unfold Subscription.proceed Subscription.onItem
      dsimp only
      cases (Error.fromGrpc status).isAccessDenied || !sub.retryEnabled <;> rfl
    rw [hdeed]
    exact follows_proceed hfits (ho.trans (by rw [hevent])) fun _ => by rw [hlast, hnode]; rfl
  | ok resp =>
    have hreport : (sub.onItem crates stream (.ok resp)).report = none := by
      unfold Subscription.onItem
      dsimp only
      split
      · rfl
      · split <;> rfl
    have hdeed (p' : Progress) :
        deed crates (.awaiting sub (.receiving stream)) (.item (.ok resp)) p' = handedOf p' := by
      simp only [deed, askedOf, reportOf, hreport, Option.map_none, Option.or_none]
    rw [hdeed]
    unfold Subscription.onItem
    dsimp only
    cases resp.bind ReadResp.content with
    | none =>
      have hnone : handedOf (Subscription.proceed
          { sub := { sub with stream := some stream }, turn := .again }) = none := rfl
      dsimp only
      rw [hnone, Option.toList_none, List.append_nil]
      exact follows_goRound h.fits ho fun _ => hnode
    | some content =>
      dsimp only
      cases hc : ({ sub with stream := some stream } : Subscription).onContent crates content with
      | panic m =>
        dsimp only [Subscription.proceed, handedOf]
        rw [Option.toList_none, List.append_nil]
        exact ⟨h.fits, ho, fun _ => hnode⟩
      | ret out =>
        obtain ⟨sub', ev⟩ := out
        exact follows_content hc h.fits ho hnode

theorem follows_read {opened : Option (Reader Key)} {r : Except Status (Reader Key)}
    (h : Follows options deeds (.awaiting sub (.reading opened))) :
    Follows options
      (deeds ++ (deed crates (.awaiting sub (.reading opened)) (.read r)
        (Subscription.proceed (sub.onRead r))).toList)
      (Subscription.proceed (sub.onRead r)) := by
  have hnode : lastNode deeds = some sub.channelId := h.node (.inr (.inr ⟨opened, rfl⟩))
  have ho : sub.options = options.after (lastEvent deeds) := h.options
  have hdeed : deed crates (.awaiting sub (.reading opened)) (.read r)
      (Subscription.proceed (sub.onRead r)) = ((sub.onRead r).report).map .reported := by
    have hhanded : handedOf (Subscription.proceed (sub.onRead r)) = none := by
      cases r with
      | ok stream => rfl
      | error status =>
        unfold Subscription.onRead
        dsimp only
        split <;> rfl
    simp only [deed, hhanded, askedOf, reportOf, Option.none_or]
  rw [hdeed]
  cases r with
  | ok stream =>
    show Follows options (deeds ++ []) _
    rw [List.append_nil]
    exact follows_goRound h.fits ho fun _ => hnode
  | error status =>
    obtain ⟨hfits, hevent, hlast⟩ := report_kept (Error.fromGrpc status) h.fits hnode
    have hreport : (sub.onRead (.error status)).report =
        handleError sub.channelId (Error.fromGrpc status) := by
      unfold Subscription.onRead
      dsimp only
      split <;> rfl
    have hsub : (sub.onRead (.error status)).sub.options = sub.options ∧
        (sub.onRead (.error status)).sub.channelId = sub.channelId := by
      unfold Subscription.onRead
      dsimp only
      split <;> exact ⟨rfl, rfl⟩
    rw [hreport]
    refine follows_proceed hfits ?_ fun _ => ?_
    · rw [hsub.1, hevent, ho]
    · rw [hsub.2, hlast, hnode]

/-- **One answer**: whatever it is, the subscription follows its record. -/
theorem follows_reply {p p' : Progress} {r : AwaitReply} (h : Follows options deeds p)
    (hr : Subscription.resume crates p r = some p') :
    Follows options (deeds ++ (deed crates p r p').toList) p' := by
  cases p with
  | returned sub res => cases hr
  | panicked sub m => cases hr
  | awaiting sub pc =>
    cases pc with
    | idle => cases hr
    | panicked m => cases hr
    | receiving stream =>
      cases r with
      | item r => cases hr; exact follows_item h
      | node | read | woke => cases hr
    | selecting =>
      cases r with
      | node r =>
        cases r with
        | ok handle =>
          cases hr
          refine ⟨h.fits.concat h.options, ?_, fun _ => lastNode_asked _ _⟩
          exact h.options.trans (by rw [← lastEvent_asked handle.id sub.options]; rfl)
        | error e =>
          cases hr
          show Follows options (deeds ++ []) _
          rw [List.append_nil]
          exact ⟨h.fits, h.options, fun hb => h.node (.inl hb)⟩
      | item | read | woke => cases hr
    | reading opened =>
      cases r with
      | read r => cases hr; exact follows_read h
      | item | node | woke => cases hr
    | sleeping =>
      cases r with
      | woke =>
        cases hr
        have hdeed : deed crates (.awaiting sub .sleeping) .woke sub.goRound = none := rfl
        rw [hdeed, Option.toList_none, List.append_nil]
        exact follows_goRound h.fits h.options fun hb => h.node (.inl hb)
      | item | node | read => cases hr

/-- A new call begins with what the last one left. -/
theorem follows_call {p : Progress} (h : Follows options deeds p) :
    Follows options deeds p.sub.goRound := by
  refine follows_goRound h.fits h.options fun hb => h.node ?_
  cases p with
  | awaiting sub pc => exact .inl hb
  | returned sub r => exact hb
  | panicked sub m => exact hb

end

end Following

open Following in
/-- **What a subscription asks for**: over any calls and whatever the servers send, each read
request has the options the subscription was made with, at the place these say as long as no
event was handed out, and behind the last one that was handed out from then on; and each report
to the connection task is about the node that was asked last. -/
theorem subscription_follows_record {crates : Crates} {retry : Option RetryOptions}
    {options : ReadOptions} {ls : List Label} {s : Following}
    (hrun : exec (step crates) ⟨(Subscription.new retry options).goRound, []⟩ ls = some s) :
    EachAfter (Fits options) s.deeds := by
  have hstart : Follows options [] (Subscription.new retry options).goRound := by
    refine follows_goRound eachAfter_nil rfl fun hb => ?_
    cases retry <;> cases hb
  have hstep : ∀ s l s', Follows options s.deeds s.progress → step crates s l = some s' →
      Follows options s'.deeds s'.progress := by
    intro s l s' h hst
    cases l with
    | call => cases hst; exact follows_call h
    | reply r =>
      obtain ⟨p', hp', rfl⟩ := Option.map_eq_some_iff.mp hst
      exact follows_reply h hp'
  exact (exec_inv (P := fun s => Follows options s.deeds s.progress) hstep hstart hrun).fits

/-- A node is asked, sends an event and is lost; another is asked. -/
def askedTwice : List Following.Label :=
  let node := AwaitReply.node (.ok (Handle.ofInfo (soloInfo 1 2113)))
  let event := ⟨some ⟨some ⟨some (.structured 0 7)⟩, some [], 4, 4, 4, [], [], []⟩, none, none⟩
  [.reply node, .reply (.read (.ok ⟨.start, 0⟩)),
    .reply (.item (.ok (some ⟨some (.event event)⟩))), .call,
    .reply (.item (.error Subscription.unavailable)), .reply node]

theorem subscription_follows_record_twice :
    ∃ s, exec (Following.step soloCrates)
        ⟨(Subscription.new (some {}) ⟨.stream [] .start, false, none⟩).goRound, []⟩ askedTwice =
          some s ∧
      s.deeds.length = 4 ∧ EachAfter (Following.Fits ⟨.stream [] .start, false, none⟩) s.deeds := by
  have hrun : (exec (Following.step soloCrates)
      ⟨(Subscription.new (some {}) ⟨.stream [] .start, false, none⟩).goRound, []⟩
      askedTwice).isSome := rfl
  obtain ⟨s, hs⟩ := Option.isSome_iff_exists.mp hrun
  have hlen : s.deeds.length = 4 := by cases hs; rfl
  exact ⟨s, hs, hlen, subscription_follows_record hs⟩

end Kurrent
