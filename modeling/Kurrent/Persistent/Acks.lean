import Kurrent.Lib.Channel
import Kurrent.Lib.Run
import Kurrent.Persistent.Wire
import Kurrent.Streams.Proposed
import Kurrent.Streams.Readers

/-!
# Settling the events of a persistent subscription

`subscribe_to_persistent_subscription` opens a call with two streams (`commands.rs`): the
server's events come down one, and up the other go the options of the subscription and then
whatever the caller settles. The upper stream is a channel with room for 500 requests.
`Consumer.step` is the subscription, its caller and the server's end of that channel, in any
order of steps; a caller that panics may catch that and go on.

What a caller means by its calls is a `Ledger`: which events it was sent, and its verdicts
on them. The consumer refines it, and what the server reads are the verdicts of the ledger.
-/

namespace Kurrent

open Lib

inductive NakAction where
  | unknown
  | park
  | retry
  | skip
  | stop
  deriving DecidableEq, Repr

/-! ## Requests -/

namespace Proto

/-- `read_req::Ack` -/
structure Ack where
  id : Bytes
  ids : List Uuid
  deriving DecidableEq, Repr

/-- `read_req::Nack` -/
structure Nack where
  id : Bytes
  ids : List Uuid
  action : Int32
  reason : String
  deriving DecidableEq, Repr

/-- `read_req::Content` -/
inductive PersistentReadReqContent where
  | options (o : ReadReqOptions)
  | ack (a : Ack)
  | nack (n : Nack)
  deriving DecidableEq, Repr

structure PersistentReadReq where
  content : Option PersistentReadReqContent
  deriving DecidableEq, Repr

end Proto

namespace PersistentSubscription

def ackIds (eventIds : List Uuid) : Proto.PersistentReadReq :=
  let ids := eventIds.map Proto.Uuid.from
  ⟨some (.ack ⟨[], ids⟩)⟩

def ack (event : ResolvedEvent) : Call Proto.PersistentReadReq := do
  return ackIds [(← event.getOriginalEvent).id]

def nackIds (eventIds : List Uuid) (action : NakAction) (reason : String) :
    Proto.PersistentReadReq :=
  let ids := eventIds.map Proto.Uuid.from
  let action := match action with
    | .unknown => 0
    | .park => 1
    | .retry => 2
    | .skip => 3
    | .stop => 4
  ⟨some (.nack ⟨[], ids, action, reason⟩)⟩

def nack (event : ResolvedEvent) (action : NakAction) (reason : String) :
    Call Proto.PersistentReadReq := do
  return nackIds [(← event.getOriginalEvent).id] action reason

end PersistentSubscription

/-- A call by which events are settled. -/
inductive Settle where
  | ack (event : ResolvedEvent)
  | ackIds (eventIds : List Uuid)
  | nack (event : ResolvedEvent) (action : NakAction) (reason : String)
  | nackIds (eventIds : List Uuid) (action : NakAction) (reason : String)
  deriving DecidableEq, Repr

def Settle.request : Settle → Call Proto.PersistentReadReq
  | ack event => PersistentSubscription.ack event
  | ackIds eventIds => .ret (PersistentSubscription.ackIds eventIds)
  | nack event action reason => PersistentSubscription.nack event action reason
  | nackIds eventIds action reason => .ret (PersistentSubscription.nackIds eventIds action reason)

/-- The room of the channel. -/
def requestsCap : Nat := 500

def ackIgnored : Error :=
  .illegalStateError "Ack was ignored as the transaction no longer exists"

/-! ## The consumer -/

namespace Consumer

inductive Stage where
  | idle
  /-- the call waits for room in the channel -/
  | sending (call : Settle) (req : Proto.PersistentReadReq)
  | dropped
  deriving DecidableEq, Repr

end Consumer

/-- A call that has returned. -/
structure Settled where
  call : Settle
  request : Proto.PersistentReadReq
  result : Except Error Unit

/-- A subscription with its caller and what the server sees of it. -/
structure Consumer where
  channelId : Uuid
  ackSender : Chan Proto.PersistentReadReq
  stage : Consumer.Stage
  /-- what the server has sent so far, and the events the caller got of it -/
  received : List Proto.PersistentReadResp
  handed : List ResolvedEvent
  returned : List Settled
  reports : List Msg

namespace Consumer

/-- The subscription as it is returned: the options are in the channel. -/
def start (channelId : Uuid) (options : Proto.ReadReqOptions) : Consumer where
  channelId
  ackSender := { Chan.empty with queue := [⟨some (.options options)⟩] }
  stage := .idle
  received := []
  handed := []
  returned := []
  reports := []

/-- The message that came off the server's stream. -/
def heard : Except Status (Option Proto.PersistentReadResp) → List Proto.PersistentReadResp
  | .ok (some resp) => [resp]
  | _ => []

def onNext (crates : Crates) (s : Consumer)
    (r : Except Status (Option Proto.PersistentReadResp)) : Consumer :=
  let s := { s with received := s.received ++ heard r }
  match PersistentSubscription.onItem crates s.channelId () r with
  | .ret ⟨.ok (.eventAppeared _ event), report⟩ _ =>
    { s with handed := s.handed ++ [event], reports := s.reports ++ report.toList }
  | .ret ⟨_, report⟩ _ => { s with reports := s.reports ++ report.toList }
  | _ => s

/-- One poll of `ack_sender.send(read_req)`. -/
def send (s : Consumer) (call : Settle) (req : Proto.PersistentReadReq) : Consumer :=
  match s.ackSender.send requestsCap req with
  | .ok ackSender =>
    { s with ackSender, stage := .idle, returned := s.returned ++ [⟨call, req, .ok ()⟩] }
  | .full => { s with stage := .sending call req }
  | .closed =>
    { s with stage := .idle, returned := s.returned ++ [⟨call, req, .error ackIgnored⟩] }

inductive Move where
  /-- the outcome of a `try_next` on the server's events -/
  | next (r : Except Status (Option Proto.PersistentReadResp))
  | settle (call : Settle)
  | poll
  /-- the waiting call is dropped -/
  | abandon
  | drop
  /-- the server's end takes a request -/
  | take
  /-- the server's end of the channel goes -/
  | close

def step (crates : Crates) (s : Consumer) : Move → Option Consumer
  | .next r => if s.stage = .idle then some (s.onNext crates r) else none
  | .settle call =>
    if s.stage = .idle then
      match call.request with
      | .ret req => some (s.send call req)
      | .panic _ => some s
    else none
  | .poll =>
    match s.stage with
    | .sending call req => some (s.send call req)
    | _ => none
  | .abandon =>
    match s.stage with
    | .sending _ _ => some { s with stage := .idle }
    | _ => none
  | .drop => some { s with stage := .dropped }
  | .take => s.ackSender.take.map fun ackSender => { s with ackSender }
  | .close => some { s with ackSender := s.ackSender.close }

/-- The calls that returned `Ok`, in order. -/
def accepted (s : Consumer) : List Settled := s.returned.filter fun r => r.result matches .ok _

/-- What was sent: the options, then a request for each accepted call. -/
def requests (options : Proto.ReadReqOptions) (s : Consumer) : List Proto.PersistentReadReq :=
  ⟨some (.options options)⟩ :: s.accepted.map Settled.request

end Consumer

/-- `subscribe_to_persistent_subscription`, once the node is selected; `resp` is the server's
answer to the call. -/
def subscribeToPersistentSubscription (node : Except Error Handle) (streamId groupName : String)
    (bufferSize : UInt64) (toAll : Bool) (resp : Except Status Unit) : Returns Consumer :=
  match node with
  | .error e => ⟨.error e, none⟩
  | .ok handle =>
    if toAll && !handle.serverInfo.containsFeatures .persistentSubscriptionToAll then
      ⟨.error .unsupportedFeature, none⟩
    else
      let options := readReqOptions streamId groupName toAll bufferSize
      match resp with
      | .error status =>
        let e := Error.fromGrpc status
        ⟨.error e, handleError handle.id e⟩
      | .ok () => ⟨.ok (.start handle.id options), none⟩

namespace Consumer

section

variable {crates : Crates} {options : Proto.ReadReqOptions} {s s' : Consumer} {m : Move}
  {call : Settle} {req : Proto.PersistentReadReq}

/-! ## What a step does -/

theorem send_cases (s : Consumer) (call : Settle) (req : Proto.PersistentReadReq) :
    (∃ c, s.ackSender.send requestsCap req = .ok c ∧ s.send call req =
      { s with ackSender := c, stage := .idle, returned := s.returned ++ [⟨call, req, .ok ()⟩] }) ∨
    (s.ackSender.send requestsCap req = .full ∧
      s.send call req = { s with stage := .sending call req }) ∨
    (s.ackSender.send requestsCap req = .closed ∧ s.send call req =
      { s with stage := .idle, returned := s.returned ++ [⟨call, req, .error ackIgnored⟩] }) := by
  unfold send
  cases s.ackSender.send requestsCap req with
  | ok c => exact .inl ⟨c, rfl, rfl⟩
  | full => exact .inr (.inl ⟨rfl, rfl⟩)
  | closed => exact .inr (.inr ⟨rfl, rfl⟩)

/-- The event that is handed out is the one the server has just sent. -/
theorem onItem_event {channelId : Uuid} {r : Except Status (Option Proto.PersistentReadResp)}
    {n : UInt64} {event : ResolvedEvent} {report : Option Msg} {u : Unit}
    (h : PersistentSubscription.onItem crates channelId () r =
      .ret ⟨.ok (.eventAppeared n event), report⟩ u) :
    ∃ resp v, r = .ok (some resp) ∧ resp.content = some (.event v) ∧
      ResolvedEvent.from crates v.into = .ret event := by
  cases r with
  | error status =>
    simp only [PersistentSubscription.onItem] at h
    split at h <;> cases h
  | ok resp =>
    unfold PersistentSubscription.onItem at h
    cases resp with
    | none => cases h
    | some resp =>
      simp only [Option.bind_some] at h
      cases hc : resp.content with
      | none => rw [hc] at h; cases h
      | some content =>
        rw [hc] at h
        cases content with
        | subscriptionConfirmation id => cases h
        | event v =>
          cases he : ResolvedEvent.from crates v.into with
          | panic msg =>
            simp only [PersistentSubscriptionEvent.from, he, Call.panic_bind] at h
            cases h
          | ret ev =>
            simp only [PersistentSubscriptionEvent.from, he, Call.ret_bind, Call.pure_eq] at h
            cases h
            exact ⟨resp, v, rfl, hc, he⟩

/-- Reading touches neither the channel nor what has been settled. -/
theorem onNext_cases (crates : Crates) (s : Consumer)
    (r : Except Status (Option Proto.PersistentReadResp)) :
    ∃ reports,
      (∃ resp v event, s.onNext crates r =
          { s with received := s.received ++ [resp], handed := s.handed ++ [event], reports } ∧
        resp.content = some (.event v) ∧ ResolvedEvent.from crates v.into = .ret event) ∨
      s.onNext crates r = { s with received := s.received ++ heard r, reports } := by
  unfold onNext
  dsimp only
  split
  · next n event report u hp =>
    obtain ⟨resp, v, rfl, hc, hv⟩ := onItem_event hp
    exact ⟨_, .inl ⟨resp, v, event, rfl, hc, hv⟩⟩
  · exact ⟨_, .inr rfl⟩
  · exact ⟨_, .inr rfl⟩

/-- A step sends a request for a call, moves the channel's other end, or leaves both alone. -/
theorem step_cases (h : s.step crates m = some s') :
    (∃ call req, s' = s.send call req ∧
      ((m = .settle call ∧ s.stage = .idle ∧ call.request = .ret req) ∨
        (m = .poll ∧ s.stage = .sending call req))) ∨
    (∃ r, m = .next r ∧ s.stage = .idle ∧ s' = s.onNext crates r) ∨
    (m = .take ∧ ∃ c, s.ackSender.take = some c ∧ s' = { s with ackSender := c }) ∨
    (m = .close ∧ s' = { s with ackSender := s.ackSender.close }) ∨
    (∃ stage, s' = { s with stage } ∧
      (stage = s.stage ∨ stage = .idle ∨ stage = .dropped)) := by
  cases m with
  | next r =>
    simp only [step] at h
    split at h
    · next hi => cases h; exact .inr (.inl ⟨r, rfl, hi, rfl⟩)
    · cases h
  | settle call =>
    simp only [step] at h
    split at h
    · next hi =>
      cases hr : call.request with
      | ret req =>
        rw [hr] at h
        cases h
        exact .inl ⟨call, req, rfl, .inl ⟨rfl, hi, hr⟩⟩
      | panic msg =>
        rw [hr] at h
        cases h
        exact .inr (.inr (.inr (.inr ⟨s.stage, rfl, .inl rfl⟩)))
    · cases h
  | poll =>
    simp only [step] at h
    split at h
    · next call req hs => cases h; exact .inl ⟨call, req, rfl, .inr ⟨rfl, hs⟩⟩
    · cases h
  | abandon =>
    simp only [step] at h
    split at h
    · cases h; exact .inr (.inr (.inr (.inr ⟨.idle, rfl, .inr (.inl rfl)⟩)))
    · cases h
  | drop => cases h; exact .inr (.inr (.inr (.inr ⟨.dropped, rfl, .inr (.inr rfl)⟩)))
  | take =>
    obtain ⟨c, hc, rfl⟩ := Option.map_eq_some_iff.mp h
    exact .inr (.inr (.inl ⟨rfl, c, hc, rfl⟩))
  | close => cases h; exact .inr (.inr (.inr (.inl ⟨rfl, rfl⟩)))

@[simp] theorem accepted_ok (c : Chan Proto.PersistentReadReq) (stage : Stage) :
    accepted { s with ackSender := c, stage, returned := s.returned ++ [⟨call, req, .ok ()⟩] } =
      s.accepted ++ [⟨call, req, .ok ()⟩] := by
  simp [accepted]

@[simp] theorem accepted_error (stage : Stage) (e : Error) :
    accepted { s with stage, returned := s.returned ++ [⟨call, req, .error e⟩] } = s.accepted := by
  simp [accepted]

theorem requests_snoc (h : s'.accepted = s.accepted ++ [⟨call, req, .ok ()⟩]) :
    s'.requests options = s.requests options ++ [req] := by
  simp [requests, h]

theorem requests_same (h : s'.accepted = s.accepted) :
    s'.requests options = s.requests options := by
  simp only [requests, h]

/-! ## What is sent -/

/-- The channel carries the requests of the accepted calls, each what its call asks for. -/
structure Sends (options : Proto.ReadReqOptions) (s : Consumer) : Prop where
  carries : s.ackSender.Carries requestsCap (s.requests options)
  waiting : ∀ call req, s.stage = .sending call req → call.request = .ret req
  made : ∀ r ∈ s.returned, r.call.request = .ret r.request

theorem Sends.start (channelId : Uuid) (options : Proto.ReadReqOptions) :
    Sends options (start channelId options) where
  carries := by
    have h : (Chan.empty : Chan Proto.PersistentReadReq).send requestsCap
        ⟨some (.options options)⟩ = .ok (Consumer.start channelId options).ackSender :=
      Chan.send_room _ rfl (show 0 < requestsCap from Nat.succ_pos 499)
    exact Chan.Carries.empty.send h
  waiting := by
    intro call req h
    cases h
  made := by
    intro r h
    cases h

theorem Sends.send (h : Sends options s) (hreq : call.request = .ret req) :
    Sends options (s.send call req) := by
  have hmade : ∀ result, ∀ r ∈ s.returned ++ [⟨call, req, result⟩],
      r.call.request = .ret r.request := by
    intro result r hr
    rcases List.mem_append.mp hr with hr | hr
    · exact h.made r hr
    · rw [List.mem_singleton.mp hr]
      exact hreq
  rcases send_cases s call req with ⟨c, hc, hs⟩ | ⟨-, hs⟩ | ⟨-, hs⟩
  · rw [hs]
    refine ⟨?_, fun _ _ hs => (by cases hs), hmade _⟩
    rw [requests_snoc (accepted_ok c .idle)]
    exact h.carries.send hc
  · rw [hs]
    refine ⟨h.carries, fun call' req' hstage => ?_, h.made⟩
    cases hstage
    exact hreq
  · rw [hs]
    refine ⟨?_, fun _ _ hs => (by cases hs), hmade _⟩
    rw [requests_same (accepted_error .idle ackIgnored)]
    exact h.carries

theorem Sends.step (h : Sends options s) (hst : s.step crates m = some s') :
    Sends options s' := by
  rcases step_cases hst with ⟨call, req, rfl, hcall⟩ | ⟨r, -, -, rfl⟩ | ⟨-, c, hc, rfl⟩ | ⟨-, rfl⟩ |
    ⟨stage, rfl, hstage⟩
  · -- a waiting call still asks for what it asked for first
    refine h.send ?_
    rcases hcall with ⟨-, -, hreq⟩ | ⟨-, hs⟩
    · exact hreq
    · exact h.waiting call req hs
  · obtain ⟨reports, ⟨resp, v, event, hr, -⟩ | hr⟩ := onNext_cases crates s r
    · rw [hr]; exact ⟨h.carries, h.waiting, h.made⟩
    · rw [hr]; exact ⟨h.carries, h.waiting, h.made⟩
  · exact ⟨h.carries.took hc, h.waiting, h.made⟩
  · exact ⟨h.carries.close, h.waiting, h.made⟩
  · refine ⟨h.carries, fun call req hs => ?_, h.made⟩
    rcases hstage with rfl | rfl | rfl
    · exact h.waiting call req hs
    · cases hs
    · cases hs

/-- Once the server's end is gone nothing is sent. -/
theorem step_closed (ho : s.ackSender.isOpen = false) (hst : s.step crates m = some s') :
    s'.ackSender.isOpen = false ∧ s'.accepted = s.accepted ∧
      s'.ackSender.taken = s.ackSender.taken := by
  rcases step_cases hst with ⟨call, req, rfl, -⟩ | ⟨r, -, -, rfl⟩ | ⟨-, c, hc, -⟩ | ⟨-, rfl⟩ |
    ⟨stage, rfl, -⟩
  · have hc := Chan.send_closed requestsCap req ho
    rcases send_cases s call req with ⟨c, hc', -⟩ | ⟨hc', -⟩ | ⟨-, hs⟩
    · rw [hc] at hc'; cases hc'
    · rw [hc] at hc'; cases hc'
    · rw [hs]
      exact ⟨ho, accepted_error .idle ackIgnored, rfl⟩
  · obtain ⟨reports, ⟨resp, v, event, hr, -⟩ | hr⟩ := onNext_cases crates s r
    · rw [hr]; exact ⟨ho, rfl, rfl⟩
    · rw [hr]; exact ⟨ho, rfl, rfl⟩
  · obtain ⟨a, hopen, -⟩ := Chan.take_some hc
    rw [hopen] at ho
    cases ho
  · exact ⟨rfl, rfl, rfl⟩
  · exact ⟨ho, rfl, rfl⟩

theorem exec_closed {is : List Move} (ho : s.ackSender.isOpen = false)
    (hrun : exec (step crates) s is = some s') :
    s'.accepted = s.accepted ∧ s'.ackSender.taken = s.ackSender.taken := by
  have h := exec_inv (P := fun t : Consumer => t.ackSender.isOpen = false ∧
    t.accepted = s.accepted ∧ t.ackSender.taken = s.ackSender.taken)
    (fun t i t' ht hst => ?_) ⟨ho, rfl, rfl⟩ hrun
  · exact h.2
  · obtain ⟨h1, h2, h3⟩ := step_closed ht.1 hst
    exact ⟨h1, h2.trans ht.2.1, h3.trans ht.2.2⟩

/-- A call that waits is through once the server's end has taken one request. -/
theorem waiting_goes (crates : Crates) (hs : s.stage = .sending call req)
    (ho : s.ackSender.isOpen = true) (hlen : s.ackSender.queue.length ≤ requestsCap) :
    ∃ ms s', (ms = [.poll] ∨ ms = [.take, .poll]) ∧ exec (step crates) s ms = some s' ∧
      s'.accepted = s.accepted ++ [⟨call, req, .ok ()⟩] := by
  have goes : ∀ t : Consumer, t.stage = .sending call req → t.ackSender.isOpen = true →
      t.ackSender.queue.length < requestsCap → ∃ t', t.step crates .poll = some t' ∧
        t'.accepted = t.accepted ++ [⟨call, req, .ok ()⟩] := by
    intro t ht hopen hroom
    refine ⟨t.send call req, by simp only [step, ht], ?_⟩
    have hc := Chan.send_room req hopen hroom
    rcases send_cases t call req with ⟨c, -, hs⟩ | ⟨hc', -⟩ | ⟨hc', -⟩
    · rw [hs]
      exact accepted_ok c .idle
    · rw [hc] at hc'; cases hc'
    · rw [hc] at hc'; cases hc'
  by_cases hroom : s.ackSender.queue.length < requestsCap
  · obtain ⟨s', hst, hreq⟩ := goes s hs ho hroom
    exact ⟨[.poll], s', .inl rfl, exec_cons.mpr ⟨s', hst, rfl⟩, hreq⟩
  · have hne : s.ackSender.queue ≠ [] := by
      intro hnil
      rw [hnil] at hroom
      exact hroom (by decide)
    obtain ⟨c, hc⟩ := Chan.take_isSome ho hne
    obtain ⟨a, -, hq, hopen, -⟩ := Chan.take_some hc
    have htake : s.step crates .take = some { s with ackSender := c } := by
      simp only [step, hc, Option.map_some]
    obtain ⟨s', hst, hreq⟩ := goes { s with ackSender := c } hs hopen (by
      show c.queue.length < requestsCap
      rw [hq, List.length_cons] at hlen
      omega)
    exact ⟨[.take, .poll], s', .inr rfl,
      exec_cons.mpr ⟨_, htake, exec_cons.mpr ⟨s', hst, rfl⟩⟩, hreq⟩

end

end Consumer

theorem subscribe_ok {node : Except Error Handle} {streamId groupName : String}
    {bufferSize : UInt64} {toAll : Bool} {resp : Except Status Unit} {s : Consumer}
    (h : (subscribeToPersistentSubscription node streamId groupName bufferSize toAll resp).result =
      .ok s) :
    ∃ channelId, s = .start channelId (readReqOptions streamId groupName toAll bufferSize) := by
  unfold subscribeToPersistentSubscription at h
  cases node with
  | error e => cases h
  | ok handle =>
    dsimp only at h
    split at h
    · cases h
    · cases resp with
      | error status => cases h
      | ok u => cases h; exact ⟨handle.id, rfl⟩

/-- **Requests in order**: the server reads the options and then what the accepted calls ask
for, in the order of the calls; nothing is lost or sent again while its end is there, nothing
is sent once that is gone, and a call that waits for room gets it with the next request that
is taken. -/
theorem persistent_requests_in_order {crates : Crates} {node : Except Error Handle}
    {streamId groupName : String} {bufferSize : UInt64} {toAll : Bool} {resp : Except Status Unit}
    {s₀ s : Consumer} {is : List Consumer.Move}
    (hsub : (subscribeToPersistentSubscription node streamId groupName bufferSize toAll
      resp).result = .ok s₀)
    (hrun : exec (Consumer.step crates) s₀ is = some s) :
    let sent := s.requests (readReqOptions streamId groupName toAll bufferSize)
    s.ackSender.taken <+: sent ∧
      (s.ackSender.isOpen = true → s.ackSender.taken ++ s.ackSender.queue = sent) ∧
      s.ackSender.queue.length ≤ requestsCap ∧
      (∀ r ∈ s.accepted, r.call.request = .ret r.request) ∧
      (s.ackSender.isOpen = false → ∀ js s', exec (Consumer.step crates) s js = some s' →
        s'.accepted = s.accepted ∧ s'.ackSender.taken = s.ackSender.taken) ∧
      ∀ call req, s.stage = .sending call req → s.ackSender.isOpen = true →
        ∃ ms s', (ms = [.poll] ∨ ms = [.take, .poll]) ∧
          exec (Consumer.step crates) s ms = some s' ∧
          s'.accepted = s.accepted ++ [⟨call, req, .ok ()⟩] := by
  intro sent
  obtain ⟨channelId, rfl⟩ := subscribe_ok hsub
  have h := exec_inv (fun _ _ _ h hst => Consumer.Sends.step h hst)
    (Consumer.Sends.start channelId (readReqOptions streamId groupName toAll bufferSize)) hrun
  exact ⟨h.carries.taken_prefix, h.carries.open_eq, h.carries.room,
    fun r hr => h.made r (List.mem_of_mem_filter hr),
    fun ho js s' hjs => Consumer.exec_closed ho hjs,
    fun call req hs ho => Consumer.waiting_goes crates hs ho h.carries.room⟩

/-- A node that lists no features. -/
def plainHandle : Handle :=
  ⟨1, ⟨"http://localhost:2113"⟩, ⟨"localhost", 2113⟩, false, {}⟩

def groupStart : Consumer := .start 1 (readReqOptions "orders" "billing" false 10)

/-- A link to an event of another stream, as the server sends it. -/
def sentLink : Proto.PersistentReadResp :=
  ⟨some (.event ⟨some ⟨some (.from 7), some [], 0, 0, 0, [], [], []⟩,
    some ⟨some (.from 8), some [], 3, 9, 9, [], [], []⟩, none, none⟩)⟩

/-- It is parked, and the server takes the options and the request. -/
def parksLink : List Consumer.Move :=
  [.next (.ok (some sentLink)), .settle (.nackIds [8] .park "bad"), .take, .take]

theorem subscribe_groupStart :
    (subscribeToPersistentSubscription (.ok plainHandle) "orders" "billing" 10 false
      (.ok ())).result = .ok groupStart := rfl

theorem persistent_requests_in_order_link :
    ∃ s, exec (Consumer.step soloCrates) groupStart parksLink = some s ∧
      s.ackSender.taken <+: s.requests (readReqOptions "orders" "billing" false 10) := by
  obtain ⟨s, hs⟩ : ∃ s, exec (Consumer.step soloCrates) groupStart parksLink = some s := ⟨_, rfl⟩
  exact ⟨s, hs, (persistent_requests_in_order subscribe_groupStart hs).1⟩

/-! ## What a caller means -/

inductive Verdict where
  | ack
  | nack (action : NakAction) (reason : String)
  deriving DecidableEq, Repr

/-- The books of a group: the events it was sent, and the verdicts on them. -/
structure Ledger where
  delivered : List Uuid
  verdicts : List (Uuid × Verdict)
  deriving DecidableEq, Repr

namespace Ledger

inductive Entry where
  | deliver (id : Uuid)
  | judge (id : Uuid) (v : Verdict)

/-- A verdict is on an event that was delivered. -/
def step (l : Ledger) : Entry → Option Ledger
  | .deliver id => some { l with delivered := l.delivered ++ [id] }
  | .judge id v =>
    if l.delivered.contains id then some { l with verdicts := l.verdicts ++ [(id, v)] } else none

def empty : Ledger := ⟨[], []⟩

theorem exec_deliver (l : Ledger) (ids : List Uuid) :
    exec step l (ids.map .deliver) = some { l with delivered := l.delivered ++ ids } := by
  induction ids generalizing l with
  | nil => simp
  | cons id ids ih =>
    refine exec_cons.mpr ⟨_, rfl, ?_⟩
    rw [ih]
    simp

theorem exec_judge {l : Ledger} {vs : List (Uuid × Verdict)} (h : ∀ v ∈ vs, v.1 ∈ l.delivered) :
    exec step l (vs.map fun v => .judge v.1 v.2) =
      some { l with verdicts := l.verdicts ++ vs } := by
  induction vs generalizing l with
  | nil => simp
  | cons v vs ih =>
    obtain ⟨hv, hvs⟩ := List.forall_mem_cons.mp h
    refine exec_cons.mpr ⟨{ l with verdicts := l.verdicts ++ [v] }, ?_, ?_⟩
    · exact if_pos (List.contains_iff_mem.mpr hv)
    · rw [ih (l := { l with verdicts := l.verdicts ++ [v] }) hvs]
      simp

/-- Every verdict of a ledger is on a delivered event. -/
theorem exec_delivered {es : List Entry} {l : Ledger} (hrun : exec step empty es = some l) :
    ∀ v ∈ l.verdicts, v.1 ∈ l.delivered := by
  refine exec_inv (P := fun l : Ledger => ∀ v ∈ l.verdicts, v.1 ∈ l.delivered)
    (fun l e l' h hst => ?_) (by intro v hv; cases hv) hrun
  cases e with
  | deliver id =>
    cases hst
    exact fun v hv => List.mem_append_left _ (h v hv)
  | judge id v =>
    simp only [step] at hst
    split at hst
    · next hid =>
      cases hst
      intro w hw
      rcases List.mem_append.mp hw with hw | hw
      · exact h w hw
      · rw [List.mem_singleton.mp hw]
        exact List.contains_iff_mem.mp hid
    · cases hst

end Ledger

/-- The events a call is about, by their ids; a call that panics is about none. -/
def Settle.ids : Settle → List Uuid
  | ack event | nack event _ _ =>
    match event.getOriginalEvent with
    | .ret original => [original.id]
    | .panic _ => []
  | ackIds eventIds | nackIds eventIds _ _ => eventIds

def Settle.verdict : Settle → Verdict
  | ack _ | ackIds _ => .ack
  | nack _ action reason | nackIds _ action reason => .nack action reason

def Settle.verdicts (call : Settle) : List (Uuid × Verdict) :=
  call.ids.map fun id => (id, call.verdict)

/-! ## What the server reads -/

/-- The actions of the protocol, by their numbers. -/
def Proto.nakActionOf (n : Int32) : Option NakAction :=
  if n = 0 then some .unknown
  else if n = 1 then some .park
  else if n = 2 then some .retry
  else if n = 3 then some .skip
  else if n = 4 then some .stop
  else none

def Proto.PersistentReadReq.verdicts (crates : Crates) (req : Proto.PersistentReadReq) :
    List (Kurrent.Uuid × Verdict) :=
  match req.content with
  | some (.ack a) => a.ids.filterMap fun id => (id.tryInto crates).map fun id => (id, .ack)
  | some (.nack n) => n.ids.filterMap fun id => do
    let id ← id.tryInto crates
    let action ← Proto.nakActionOf n.action
    return (id, .nack action n.reason)
  | _ => []

/-- The id of the record that the server read for the group. -/
def Proto.PersistentReadResp.originalId (crates : Crates) (resp : Proto.PersistentReadResp) :
    Option Kurrent.Uuid :=
  match resp.content with
  | some (.event v) => do
    let record ← v.into.original
    let id ← record.id
    id.tryInto crates
  | _ => none

section

variable {crates : Crates} {options : Proto.ReadReqOptions} {s s' : Consumer}
  {m : Consumer.Move} {call : Settle} {req : Proto.PersistentReadReq}

theorem ackIds_verdicts (crates : Crates) (ids : List Uuid) :
    (PersistentSubscription.ackIds ids).verdicts crates = ids.map fun id => (id, Verdict.ack) := by
  simp only [PersistentSubscription.ackIds, Proto.PersistentReadReq.verdicts, List.filterMap_map]
  rw [← List.filterMap_eq_map]
  refine List.filterMap_congr fun id _ => ?_
  simp [tryInto_from]

theorem nackIds_verdicts (crates : Crates) (ids : List Uuid) (action : NakAction)
    (reason : String) : (PersistentSubscription.nackIds ids action reason).verdicts crates =
      ids.map fun id => (id, Verdict.nack action reason) := by
  simp only [PersistentSubscription.nackIds, Proto.PersistentReadReq.verdicts, List.filterMap_map]
  rw [← List.filterMap_eq_map]
  refine List.filterMap_congr fun id _ => ?_
  cases action <;> simp [tryInto_from] <;> rfl

/-- A request says what its call means. -/
theorem request_verdicts (h : call.request = .ret req) : req.verdicts crates = call.verdicts := by
  cases call with
  | ack event =>
    obtain ⟨original, ho, h⟩ := Call.bind_eq_ret h
    cases h
    simp [ackIds_verdicts, Settle.verdicts, Settle.ids, Settle.verdict, ho]
  | ackIds ids => cases h; exact ackIds_verdicts crates ids
  | nack event action reason =>
    obtain ⟨original, ho, h⟩ := Call.bind_eq_ret h
    cases h
    simp [nackIds_verdicts, Settle.verdicts, Settle.ids, Settle.verdict, ho]
  | nackIds ids action reason => cases h; exact nackIds_verdicts crates ids action reason

/-- The event the caller gets has the id of the record the server read. -/
theorem originalId_of_event {resp : Proto.PersistentReadResp} {v : Proto.PersistentReadEvent}
    {event : ResolvedEvent} {original : RecordedEvent} (hc : resp.content = some (.event v))
    (he : ResolvedEvent.from crates v.into = .ret event)
    (ho : event.getOriginalEvent = .ret original) :
    resp.originalId crates = some original.id := by
  obtain ⟨w, hw, hfrom⟩ := getOriginalEvent_from he ho
  obtain ⟨id, hid, hinto⟩ := recordedEvent_id hfrom
  simp [Proto.PersistentReadResp.originalId, hc, hw, hid, hinto]

namespace Consumer

/-- The books as the two ends have them: what the server sent, what the caller settled. -/
def ledger (crates : Crates) (s : Consumer) : Ledger :=
  ⟨s.received.filterMap (·.originalId crates), s.accepted.flatMap (·.call.verdicts)⟩

/-- A call is about events that were handed out. -/
def About (s : Consumer) (call : Settle) : Prop :=
  ∀ id ∈ call.ids, ∃ event ∈ s.handed, ∃ original, event.getOriginalEvent = .ret original ∧
    original.id = id

/-- The caller settles what it was given. -/
def Honest (s : Consumer) : Move → Prop
  | .settle call => s.About call
  | _ => True

/-- The books are those of the consumer; what was handed out and what waits to be settled was
delivered. -/
structure Books (crates : Crates) (s : Consumer) (l : Ledger) : Prop where
  eq : l = s.ledger crates
  handed : ∀ event ∈ s.handed, ∀ original, event.getOriginalEvent = .ret original →
    original.id ∈ l.delivered
  waiting : ∀ call req, s.stage = .sending call req → ∀ v ∈ call.verdicts, v.1 ∈ l.delivered

theorem Books.start (channelId : Uuid) : Books crates (start channelId options) .empty where
  eq := rfl
  handed := by
    intro event h
    cases h
  waiting := by
    intro call req h
    cases h

/-- An accepted call enters its verdicts. -/
theorem Books.send {l : Ledger} (h : Books crates s l)
    (hcall : ∀ v ∈ call.verdicts, v.1 ∈ l.delivered) :
    ∃ es l', exec Ledger.step l es = some l' ∧ Books crates (s.send call req) l' := by
  obtain ⟨rfl, hhanded, hwaiting⟩ := h
  rcases send_cases s call req with ⟨c, -, hs⟩ | ⟨-, hs⟩ | ⟨-, hs⟩
  · refine ⟨_, _, Ledger.exec_judge hcall, ?_⟩
    rw [hs]
    refine ⟨?_, hhanded, fun _ _ hw => (by cases hw)⟩
    simp [ledger, accepted]
  · refine ⟨[], _, rfl, ?_⟩
    rw [hs]
    refine ⟨rfl, hhanded, fun call' req' hw => ?_⟩
    cases hw
    exact hcall
  · refine ⟨[], _, rfl, ?_⟩
    rw [hs]
    refine ⟨?_, hhanded, fun _ _ hw => (by cases hw)⟩
    simp [ledger, accepted]

/-- What the server sent is entered as delivered. -/
theorem Books.onNext {l : Ledger} (h : Books crates s l)
    (r : Except Status (Option Proto.PersistentReadResp)) :
    ∃ es l', exec Ledger.step l es = some l' ∧ Books crates (s.onNext crates r) l' := by
  obtain ⟨rfl, hhanded, hwaiting⟩ := h
  obtain ⟨reports, ⟨resp, v, event, hr, hc, hv⟩ | hr⟩ := onNext_cases crates s r
  · refine ⟨_, _, Ledger.exec_deliver _ (List.filterMap (·.originalId crates) [resp]), ?_⟩
    rw [hr]
    refine ⟨?_, fun e he original ho => ?_, fun call req hw v hv => ?_⟩
    · simp [ledger, accepted]
    · rcases List.mem_append.mp he with he | he
      · exact List.mem_append_left _ (hhanded e he original ho)
      · rw [List.mem_singleton.mp he] at ho
        have hid := originalId_of_event hc hv ho
        exact List.mem_append_right _ (by simp [hid])
    · exact List.mem_append_left _ (hwaiting call req hw v hv)
  · refine ⟨_, _, Ledger.exec_deliver _ (List.filterMap (·.originalId crates) (heard r)), ?_⟩
    rw [hr]
    refine ⟨?_, fun e he original ho => ?_, fun call req hw v hv => ?_⟩
    · simp [ledger, accepted]
    · exact List.mem_append_left _ (hhanded e he original ho)
    · exact List.mem_append_left _ (hwaiting call req hw v hv)

theorem Books.step {l : Ledger} (h : Books crates s l) (hm : s.Honest m)
    (hst : s.step crates m = some s') :
    ∃ es l', exec Ledger.step l es = some l' ∧ Books crates s' l' := by
  rcases step_cases hst with ⟨call, req, rfl, hcall⟩ | ⟨r, -, -, rfl⟩ | ⟨-, c, -, rfl⟩ | ⟨-, rfl⟩ |
    ⟨stage, rfl, hstage⟩
  · refine h.send fun v hv => ?_
    rcases hcall with ⟨rfl, -, -⟩ | ⟨-, hw⟩
    · obtain ⟨id, hid, rfl⟩ := List.mem_map.mp hv
      obtain ⟨event, he, original, ho, rfl⟩ := hm id hid
      exact h.handed event he original ho
    · exact h.waiting call req hw v hv
  · exact h.onNext r
  · exact ⟨[], l, rfl, h.eq, h.handed, h.waiting⟩
  · exact ⟨[], l, rfl, h.eq, h.handed, h.waiting⟩
  · refine ⟨[], l, rfl, h.eq, h.handed, fun call req hw => ?_⟩
    rcases hstage with rfl | rfl | rfl
    · exact h.waiting call req hw
    · cases hw
    · cases hw

/-- What is read from the requests are the verdicts of the ledger. -/
theorem Sends.verdicts (h : Sends options s) :
    (s.requests options).flatMap (·.verdicts crates) = (s.ledger crates).verdicts := by
  have hmap : ∀ rs : List Settled, (∀ r ∈ rs, r.call.request = .ret r.request) →
      (rs.map Settled.request).flatMap (·.verdicts crates) = rs.flatMap (·.call.verdicts) := by
    intro rs hrs
    rw [List.flatMap_map]
    exact List.flatMap_congr fun r hr => request_verdicts (hrs r hr)
  simp only [requests, List.flatMap_cons, Proto.PersistentReadReq.verdicts, List.nil_append, ledger]
  exact hmap s.accepted fun r hr => h.made r (List.mem_of_mem_filter hr)

end Consumer

end

/-- **Verdicts**: whatever order events come in, calls are made, wait and are given up, and the
server's end takes and goes, a caller that settles what it was given keeps a ledger of the
events that were delivered and its verdicts on them. The verdicts the server reads are those of
the ledger, in order, all of them while its end is there, and each is on the id of a record
that the server itself had sent. -/
theorem verdicts_refine_ledger {crates : Crates} {node : Except Error Handle}
    {streamId groupName : String} {bufferSize : UInt64} {toAll : Bool} {resp : Except Status Unit}
    {s₀ s : Consumer} {is : List Consumer.Move}
    (hsub : (subscribeToPersistentSubscription node streamId groupName bufferSize toAll
      resp).result = .ok s₀)
    (hhonest : Along (Consumer.step crates) Consumer.Honest s₀ is)
    (hrun : exec (Consumer.step crates) s₀ is = some s) :
    (∃ es, exec Ledger.step .empty es = some (s.ledger crates)) ∧
      s.ackSender.taken.flatMap (·.verdicts crates) <+: (s.ledger crates).verdicts ∧
      (s.ackSender.isOpen = true →
        (s.ackSender.taken ++ s.ackSender.queue).flatMap (·.verdicts crates) =
          (s.ledger crates).verdicts) ∧
      ∀ v ∈ s.ackSender.taken.flatMap (·.verdicts crates),
        ∃ resp ∈ s.received, resp.originalId crates = some v.1 := by
  obtain ⟨channelId, rfl⟩ := subscribe_ok hsub
  have hsends := exec_inv (fun _ _ _ h hst => Consumer.Sends.step h hst)
    (Consumer.Sends.start channelId (readReqOptions streamId groupName toAll bufferSize)) hrun
  obtain ⟨es, l, hes, hbooks⟩ := exec_simulates (R := Consumer.Books crates)
    (fun _ _ _ _ h hm hst => h.step hm hst) (Consumer.Books.start channelId) hhonest hrun
  obtain rfl := hbooks.eq
  have hsub : s.ackSender.taken.flatMap (·.verdicts crates) <+: (s.ledger crates).verdicts := by
    obtain ⟨rest, hrest⟩ := hsends.carries.taken_prefix
    rw [← hsends.verdicts, ← hrest, List.flatMap_append]
    exact List.prefix_append _ _
  refine ⟨⟨es, hes⟩, hsub, fun ho => ?_, fun v hv => ?_⟩
  · rw [hsends.carries.open_eq ho, hsends.verdicts]
  · have hd := Ledger.exec_delivered hes v (hsub.subset hv)
    exact List.mem_filterMap.mp hd

theorem verdicts_refine_ledger_link :
    ∃ s, exec (Consumer.step soloCrates) groupStart parksLink = some s ∧
      s.ackSender.taken.flatMap (·.verdicts soloCrates) <+: (s.ledger soloCrates).verdicts := by
  obtain ⟨s, hs⟩ : ∃ s, exec (Consumer.step soloCrates) groupStart parksLink = some s := ⟨_, rfl⟩
  refine ⟨s, hs, (verdicts_refine_ledger subscribe_groupStart ?_ hs).2.1⟩
  refine .cons trivial rfl (.cons ?_ rfl (.cons trivial rfl (.cons trivial rfl trivial)))
  intro id hid
  exact ⟨_, List.mem_singleton_self _, _, rfl, (List.mem_singleton.mp hid).symm⟩

end Kurrent
