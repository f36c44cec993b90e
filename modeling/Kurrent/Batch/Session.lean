import Kurrent.Grpc.StateMachine
import Kurrent.Batch.Answers

/-!
# The batch-append session

The rest of `batch_append` (`commands.rs`): the RPC, the reader of its responses, and the
request stream, around the task of `Calls`. The reader turns each response into an `Out`
message. When the server fails the stream it reports the error to the connection task and
to the batch-append task; when the server ends the stream it stops without a word. Whether
a call can be left waiting for ever hangs on that.
-/

namespace Kurrent

open Lib

/-! ## Responses -/

namespace Proto

inductive CurrentRevisionOption where
  | currentRevision (rev : UInt64)
  | noStream
  deriving DecidableEq, Repr

inductive PositionOption where
  | position (p : Position)
  | noPosition
  deriving DecidableEq, Repr

inductive ExpectedStreamPosition where
  | streamPosition (rev : UInt64)
  | noStream
  | any
  | streamExists
  deriving DecidableEq, Repr

inductive BatchAppendResult where
  | success (currentRevisionOption : Option CurrentRevisionOption)
      (positionOption : Option PositionOption)
  | error (code : Int) (message : String)
  deriving DecidableEq, Repr

structure BatchAppendResp where
  correlationId : Option Uuid
  streamIdentifier : Option Bytes
  result : Option BatchAppendResult
  expectedStreamPosition : Option ExpectedStreamPosition
  deriving DecidableEq, Repr

end Proto

/-- `tonic::Code::from`: a number without a code is `Unknown`. -/
def Code.from (n : Int) : Code :=
  let codes := [Code.ok, .cancelled, .unknown, .invalidArgument, .deadlineExceeded, .notFound,
    .alreadyExists, .permissionDenied, .resourceExhausted, .failedPrecondition, .aborted,
    .outOfRange, .unimplemented, .internal, .unavailable, .dataLoss, .unauthenticated]
  if n < 0 then .unknown else codes[n.toNat]?.getD .unknown

def Proto.ExpectedStreamPosition.state : Proto.ExpectedStreamPosition → StreamState
  | .any => .any
  | .noStream => .noStream
  | .streamExists => .streamExists
  | .streamPosition rev => .streamRevision rev

def appendResult (streamName : String) (expected : Option Proto.ExpectedStreamPosition) :
    Proto.BatchAppendResult → AppendResult
  | .success revision position =>
    let currentRevision := match revision with
      | some (.currentRevision rev) => some rev
      | _ => none
    let currentPosition := match position with
      | some (.position p) => some p
      | _ => none
    .ok ⟨streamName, currentRevision, currentPosition,
      expected.map Proto.ExpectedStreamPosition.state⟩
  | .error code message => .error (.grpc (Code.from code) message)

/-- The message made of a response; the fields it cannot do without are unwrapped. -/
def Out.from (crates : Crates) (resp : Proto.BatchAppendResp) : Call Out := do
  let name ← Call.expect "called `Option::unwrap()` on a `None` value" resp.streamIdentifier
  let id ← Call.expect "called `Option::unwrap()` on a `None` value" resp.correlationId
  let correlationId ← Call.expect "called `Result::unwrap()` on an `Err` value" (id.tryInto crates)
  let result ← Call.expect "called `Option::unwrap()` on a `None` value" resp.result
  return ⟨correlationId, appendResult (crates.utf8Lossy name) resp.expectedStreamPosition result⟩

/-! ## The session -/

inductive ResponseReader where
  /-- the RPC has not returned -/
  | calling
  | reading
  /-- the RPC or its stream gave an error -/
  | failed
  /-- the server ended the stream -/
  | ended
  /-- the batch-append task is gone, or a response could not be read -/
  | gone
  deriving DecidableEq, Repr

def ResponseReader.stopped : ResponseReader → Bool
  | .calling | .reading => false
  | _ => true

structure Session where
  calls : Calls
  /-- the transport still reads the request stream -/
  isOpen : Bool
  reader : ResponseReader
  /-- the user still has the client -/
  client : Bool
  handleId : Uuid
  reports : List Msg

namespace Session

inductive Label where
  | call (req : Req) (sender : Nat)
  | dropClient
  | recv
  | turn
  /-- the task finds its channel empty and everyone who sends to it gone -/
  | disconnect
  | closeRequests
  | rpc (r : Except Status Unit)
  | item (r : Except Status (Option Proto.BatchAppendResp))

/-- `batch_append` with the selected node. -/
def start (handle : Handle) : Except Error Session :=
  if handle.serverInfo.containsFeatures .batchAppend then
    .ok ⟨Calls.init, true, .calling, true, handle.id, []⟩
  else .error .unsupportedFeature

def deliver (s : Session) (m : BatchMsg) : Option Session :=
  (s.calls.step (.send m)).map fun calls => { s with calls }

def step (crates : Crates) (s : Session) : Label → Option Session
  | .call req sender => if s.client then s.deliver (.input req sender) else none
  | .dropClient => if s.client then some { s with client := false } else none
  | .recv => (s.calls.step .recv).map fun calls => { s with calls }
  | .turn => (s.calls.step (.work (.turn s.isOpen))).map fun calls => { s with calls }
  | .disconnect =>
    if !s.client && s.reader.stopped && s.calls.queue.isEmpty then
      (s.calls.step (.work .disconnected)).map fun calls => { s with calls }
    else none
  | .closeRequests => some { s with isOpen := false }
  | .rpc r =>
    match s.reader, r with
    | .calling, .ok () => some { s with reader := .reading }
    | .calling, .error status =>
      { s with reader := .failed }.deliver (.error (Error.fromGrpc status))
    | _, _ => none
  | .item r =>
    match s.reader, r with
    | .reading, .error status =>
      let e := Error.fromGrpc status
      let reports := s.reports ++ (handleError s.handleId e).toList
      { s with reader := .failed, reports }.deliver (.error e)
    | .reading, .ok none => some { s with reader := .ended }
    | .reading, .ok (some resp) =>
      match Out.from crates resp, s.calls.task with
      | .ret out, some _ => s.deliver (.output out)
      | _, _ => some { s with reader := .gone }
    | _, _ => none

/-! ## What is on its way to the task -/

/-- The message in hand, then those queued. -/
def inbox (x : Calls) : List BatchMsg :=
  (match x.task with
    | some (.busy _ m) => [m]
    | _ => []) ++ x.queue

/-- The task has stopped, or is about to be told of an error. -/
def Errored (x : Calls) : Prop := x.task = none ∨ ∃ e, .error e ∈ inbox x

/-- The response to every forwarded call has arrived. -/
def Promised (x : Calls) : Prop :=
  ∀ t c k, x.task = some t → Calls.Registered t c k → ∃ r, .output ⟨c, r⟩ ∈ inbox x

section

open Calls (Worked worked)

variable {x y : Calls} {m : BatchMsg} {i : BatchInput}

theorem inbox_send (h : x.step (.send m) = some y) :
    y.task = x.task ∧ (x.task = none ∨ inbox y = inbox x ++ [m]) := by
  obtain ⟨-, htask, ⟨ht, -, -⟩ | ⟨-, hq, -⟩⟩ := Sys.send_cases h
  · exact ⟨htask, .inl ht⟩
  · refine ⟨htask, .inr ?_⟩
    unfold inbox
    rw [htask, hq, List.append_assoc]

theorem inbox_recv (h : x.step .recv = some y) :
    inbox y = inbox x ∧ ∃ reg m, x.task = some (.idle reg) ∧ y.task = some (.busy reg m) := by
  obtain ⟨reg, m, ht, hq, hty, -⟩ := Calls.recv_idle h
  exact ⟨by simp [inbox, ht, hty, hq], reg, m, ht, hty⟩

theorem send_errored (h : Errored x) (hst : x.step (.send m) = some y) : Errored y := by
  obtain ⟨htask, hbox⟩ := inbox_send hst
  rcases h with ht | ⟨e, he⟩
  · exact .inl (by rw [htask, ht])
  · rcases hbox with ht | hbox
    · exact .inl (by rw [htask, ht])
    · exact .inr ⟨e, by rw [hbox]; exact List.mem_append_left _ he⟩

theorem recv_errored (h : Errored x) (hst : x.step .recv = some y) : Errored y := by
  obtain ⟨hbox, reg, m, ht, -⟩ := inbox_recv hst
  rcases h with hn | ⟨e, he⟩
  · rw [ht] at hn; cases hn
  · exact .inr ⟨e, by rw [hbox]; exact he⟩

/-- The task does not get past an error. -/
theorem worked_errored (h : Errored x) (hst : x.step (.work i) = some y) : Errored y := by
  cases worked hst with
  | disconnected task stops | refused task stops | failed task known result stops
  | broken task stops => exact .inl stops.task
  | forwarded task next queue slots | registered task next queue slots
  | answered task known result next queue slots | unknown task unknown next queue slots =>
    rcases h with hn | ⟨e, he⟩
    · rw [task] at hn; cases hn
    · refine .inr ⟨e, ?_⟩
      simp only [inbox, task, next, queue, List.mem_append, List.mem_singleton, reduceCtorEq,
        false_or, List.nil_append] at he ⊢
      exact he

theorem send_promised (h : Promised x) (hst : x.step (.send m) = some y) : Promised y := by
  obtain ⟨htask, hbox⟩ := inbox_send hst
  intro t c k ht hr
  rw [htask] at ht
  rcases hbox with hn | hbox
  · rw [ht] at hn; cases hn
  · obtain ⟨r, hmem⟩ := h t c k ht hr
    exact ⟨r, by rw [hbox]; exact List.mem_append_left _ hmem⟩

theorem recv_promised (h : Promised x) (hst : x.step .recv = some y) : Promised y := by
  obtain ⟨hbox, reg, m, ht, hty⟩ := inbox_recv hst
  intro t c k ht' hr
  rw [hty] at ht'
  cases ht'
  rw [hbox]
  exact h _ c k ht hr

/-- A task that forwards nothing keeps what is promised. -/
theorem worked_promised (h : Promised x) (hst : x.step (.work i) = some y)
    (hno : ∀ reg req k, x.task = some (.busy reg (.input req k)) → i ≠ .turn true) :
    Promised y := by
  intro t c k ht hr
  cases worked hst with
  | disconnected task stops | refused task stops | failed task known result stops
  | broken task stops => rw [stops.task] at ht; cases ht
  | forwarded task next queue slots => exact absurd rfl (hno _ _ _ task)
  | registered task next queue slots =>
    rw [next] at ht
    cases ht
    obtain ⟨r, hmem⟩ := h _ c k task (Calls.lookup_of_insert hr)
    exact ⟨r, by simpa [inbox, task, next, queue] using hmem⟩
  | @answered reg resp sender r isOpen task known result next queue slots =>
    rw [next] at ht
    cases ht
    obtain ⟨r', hmem⟩ := h _ c k task (Calls.lookup_of_erase hr)
    have hc : c ≠ resp.correlationId := by
      rintro rfl
      have hl : AList.lookup resp.correlationId (reg.erase resp.correlationId) = some k := hr
      rw [AList.lookup_erase] at hl
      cases hl
    have hne : resp ≠ ⟨c, r'⟩ := fun heq => hc (by rw [heq])
    refine ⟨r', ?_⟩
    simpa [inbox, task, next, queue, hne.symm] using hmem
  | @unknown reg resp isOpen task unknown next queue slots =>
    rw [next] at ht
    cases ht
    obtain ⟨r', hmem⟩ := h _ c k task hr
    have hne : resp ≠ ⟨c, r'⟩ := by
      rintro rfl
      have hl : reg.lookup c = some k := hr
      rw [unknown] at hl
      cases hl
    refine ⟨r', ?_⟩
    simpa [inbox, task, next, queue, hne.symm] using hmem

end

/-! ## Runs of the session -/

structure SessionInv (s : Session) : Prop where
  calls : Sys.Inv batchActor s.calls
  failed : s.reader = .failed → Errored s.calls
  ended : s.reader = .ended → Promised s.calls

/-- The server ends the response stream only when it has answered every request that was
forwarded, and nothing is forwarded after that. -/
def EndsAnswered (s : Session) : Label → Prop
  | .item (.ok none) => Promised s.calls
  | .turn => s.reader = .ended →
      ∀ reg req k, s.calls.task = some (.busy reg (.input req k)) → s.isOpen = false
  | _ => True

/-- Nothing is in hand and nothing is queued. -/
def Quiet (x : Calls) : Prop := x.queue = [] ∧ ∀ t, x.task = some t → ∃ reg, t = .idle reg

/-- **What a step can do**, with what it asks of the session before it. -/
inductive Stepped (crates : Crates) (s : Session) : Label → Session → Prop where
  | call {req sender calls} (client : s.client = true)
      (sent : s.calls.step (.send (.input req sender)) = some calls) :
      Stepped crates s (.call req sender) { s with calls }
  | dropClient (client : s.client = true) : Stepped crates s .dropClient { s with client := false }
  | recv {calls} (taken : s.calls.step .recv = some calls) : Stepped crates s .recv { s with calls }
  | turn {calls} (worked : s.calls.step (.work (.turn s.isOpen)) = some calls) :
      Stepped crates s .turn { s with calls }
  | disconnect {calls} (client : s.client = false) (reader : s.reader.stopped = true)
      (queue : s.calls.queue = [])
      (worked : s.calls.step (.work .disconnected) = some calls) :
      Stepped crates s .disconnect { s with calls }
  | closeRequests : Stepped crates s .closeRequests { s with isOpen := false }
  | accepted (reader : s.reader = .calling) :
      Stepped crates s (.rpc (.ok ())) { s with reader := .reading }
  | refused {status calls} (reader : s.reader = .calling)
      (sent : s.calls.step (.send (.error (Error.fromGrpc status))) = some calls) :
      Stepped crates s (.rpc (.error status)) { s with reader := .failed, calls }
  | failed {status calls} (reader : s.reader = .reading)
      (sent : s.calls.step (.send (.error (Error.fromGrpc status))) = some calls) :
      Stepped crates s (.item (.error status))
        { s with
          reader := .failed
          reports := s.reports ++ (handleError s.handleId (Error.fromGrpc status)).toList
          calls }
  | ended (reader : s.reader = .reading) :
      Stepped crates s (.item (.ok none)) { s with reader := .ended }
  | response {resp out t calls} (reader : s.reader = .reading)
      (output : Out.from crates resp = .ret out) (task : s.calls.task = some t)
      (sent : s.calls.step (.send (.output out)) = some calls) :
      Stepped crates s (.item (.ok (some resp))) { s with calls }
  | lost {resp} (reader : s.reader = .reading)
      (unread : ∀ out t, Out.from crates resp = .ret out → s.calls.task = some t → False) :
      Stepped crates s (.item (.ok (some resp))) { s with reader := .gone }

inductive Moved (s s' : Session) : Label → Prop where
  /-- the task is left alone; the reader may start, or go away -/
  | apart {l} (calls : s'.calls = s.calls)
      (reader : s'.reader = s.reader ∨ s'.reader = .reading ∨ s'.reader = .gone) : Moved s s' l
  | ended (calls : s'.calls = s.calls) (reader : s'.reader = .ended) :
      Moved s s' (.item (.ok none))
  | delivered {l m} (sent : s.calls.step (.send m) = some s'.calls)
      (reader : s'.reader = s.reader) : Moved s s' l
  | failed {l e} (sent : s.calls.step (.send (.error e)) = some s'.calls)
      (reader : s'.reader = .failed) : Moved s s' l
  | received (taken : s.calls.step .recv = some s'.calls) (reader : s'.reader = s.reader) :
      Moved s s' .recv
  | turned (worked : s.calls.step (.work (.turn s.isOpen)) = some s'.calls)
      (reader : s'.reader = s.reader) : Moved s s' .turn
  | disconnected (worked : s.calls.step (.work .disconnected) = some s'.calls)
      (reader : s'.reader = s.reader) : Moved s s' .disconnect

section

variable {crates : Crates} {s s' : Session} {l : Label}

theorem stepped (h : s.step crates l = some s') : Stepped crates s l s' := by
  have delivered : ∀ {s₀ : Session} {m}, s₀.deliver m = some s' →
      ∃ calls, s₀.calls.step (.send m) = some calls ∧ s' = { s₀ with calls } := by
    intro s₀ m hd
    obtain ⟨calls, hst, rfl⟩ := Option.map_eq_some_iff.mp hd
    exact ⟨calls, hst, rfl⟩
  cases l with
  | call req sender =>
    simp only [step] at h
    split at h
    · next hc =>
      obtain ⟨calls, hst, rfl⟩ := delivered h
      exact .call hc hst
    · cases h
  | dropClient =>
    simp only [step] at h
    split at h
    · next hc => cases h; exact .dropClient hc
    · cases h
  | recv =>
    obtain ⟨calls, hst, rfl⟩ := Option.map_eq_some_iff.mp h
    exact .recv hst
  | turn =>
    obtain ⟨calls, hst, rfl⟩ := Option.map_eq_some_iff.mp h
    exact .turn hst
  | disconnect =>
    simp only [step] at h
    split at h
    · next hgone =>
      obtain ⟨calls, hst, rfl⟩ := Option.map_eq_some_iff.mp h
      simp only [Bool.and_eq_true, Bool.not_eq_true', List.isEmpty_iff] at hgone
      obtain ⟨⟨hc, hr⟩, hq⟩ := hgone
      exact .disconnect hc hr hq hst
    · cases h
  | closeRequests => cases h; exact .closeRequests
  | rpc r =>
    simp only [step] at h
    split at h
    · next hr => cases h; exact .accepted hr
    · next hr =>
      obtain ⟨calls, hst, rfl⟩ := delivered h
      exact .refused hr hst
    · cases h
  | item r =>
    simp only [step] at h
    split at h
    · next hr =>
      obtain ⟨calls, hst, rfl⟩ := delivered h
      exact .failed hr hst
    · next hr => cases h; exact .ended hr
    · next hr =>
      split at h
      · next hout ht =>
        obtain ⟨calls, hst, rfl⟩ := delivered h
        exact .response hr hout ht hst
      · next hno => cases h; exact .lost hr hno
    · cases h

/-- What a step does to the task and the reader. -/
theorem moved (h : s.step crates l = some s') : Moved s s' l := by
  cases stepped h with
  | call hc hst | response hr hout ht hst => exact .delivered hst rfl
  | dropClient | closeRequests => exact .apart rfl (.inl rfl)
  | recv hst => exact .received hst rfl
  | turn hst => exact .turned hst rfl
  | disconnect hc hr hq hst => exact .disconnected hst rfl
  | accepted hr => exact .apart rfl (.inr (.inl rfl))
  | refused hr hst | failed hr hst => exact .failed hst rfl
  | ended hr => exact .ended rfl rfl
  | lost hr hno => exact .apart rfl (.inr (.inr rfl))

/-- A turn keeps the invariant when the server has promised all it will be asked for. -/
theorem work_inv {i : BatchInput} (hs : SessionInv s) (hst : s.calls.step (.work i) = some s'.calls)
    (hr : s'.reader = s.reader)
    (hno : s.reader = .ended →
      ∀ reg req k, s.calls.task = some (.busy reg (.input req k)) → i ≠ .turn true) :
    SessionInv s' :=
  ⟨Sys.step_inv batchActor_lawful hs.calls hst,
    fun hf => worked_errored (hs.failed (hr ▸ hf)) hst,
    fun he => worked_promised (hs.ended (hr ▸ he)) hst (hno (hr ▸ he))⟩

theorem session_step (hs : SessionInv s) (hc : EndsAnswered s l) (h : s.step crates l = some s') :
    SessionInv s' := by
  cases moved h with
  | apart calls reader =>
    rcases reader with hr | hr | hr
    · exact ⟨calls ▸ hs.calls, by rw [calls, hr]; exact hs.failed, by rw [calls, hr]; exact hs.ended⟩
    · exact ⟨calls ▸ hs.calls, by rw [hr]; exact nofun, by rw [hr]; exact nofun⟩
    · exact ⟨calls ▸ hs.calls, by rw [hr]; exact nofun, by rw [hr]; exact nofun⟩
  | ended calls reader =>
    exact ⟨calls ▸ hs.calls, by rw [reader]; exact nofun, fun _ => calls ▸ hc⟩
  | delivered sent reader =>
    exact ⟨Sys.step_inv batchActor_lawful hs.calls sent,
      fun hf => send_errored (hs.failed (reader ▸ hf)) sent,
      fun he => send_promised (hs.ended (reader ▸ he)) sent⟩
  | @failed _ e sent reader =>
    refine ⟨Sys.step_inv batchActor_lawful hs.calls sent, fun _ => ?_, by rw [reader]; exact nofun⟩
    obtain ⟨htask, ht | hbox⟩ := inbox_send sent
    · exact .inl (htask.trans ht)
    · exact .inr ⟨e, by rw [hbox]; simp⟩
  | received taken reader =>
    exact ⟨Sys.step_inv batchActor_lawful hs.calls taken,
      fun hf => recv_errored (hs.failed (reader ▸ hf)) taken,
      fun he => recv_promised (hs.ended (reader ▸ he)) taken⟩
  | turned worked reader =>
    refine work_inv hs worked reader fun he reg req k ht heq => ?_
    rw [hc he reg req k ht] at heq
    cases heq
  | disconnected worked reader => exact work_inv hs worked reader fun _ _ _ _ _ => nofun

theorem calls_step (h : s.step crates l = some s') :
    s'.calls = s.calls ∨ ∃ l', s.calls.step l' = some s'.calls := by
  cases moved h with
  | apart calls | ended calls => exact .inl calls
  | delivered sent | failed sent => exact .inr ⟨_, sent⟩
  | received taken => exact .inr ⟨_, taken⟩
  | turned worked | disconnected worked => exact .inr ⟨_, worked⟩

/-- **The task of a session takes part in a run of `Calls`**, so that what holds of those
runs holds in every session. -/
theorem calls_exec {ls : List Label} (h : exec (step crates) s ls = some s') :
    Reachable Calls.step s.calls s'.calls := by
  refine exec_inv (P := fun z : Session => Reachable Calls.step s.calls z.calls) ?_
    (Reachable.refl _) h
  intro z l z' hz hst
  rcases calls_step hst with heq | ⟨l', hl'⟩
  · rw [heq]; exact hz
  · exact hz.trans ⟨[l'], exec_cons.mpr ⟨_, hl', rfl⟩⟩

theorem start_inv {handle : Handle} (h : start handle = .ok s) : SessionInv s := by
  unfold start at h
  split at h
  · cases h
    exact ⟨Sys.init_inv _ rfl, nofun, nofun⟩
  · cases h

/-- With nothing on its way, a session whose reader has stopped keeps nobody waiting. -/
theorem SessionInv.none_waits (hs : SessionInv s) (hq : Quiet s.calls)
    (hr : s.reader = .failed ∨ s.reader = .ended) (k : Nat) : s.calls.slots k ≠ .waiting := by
  cases ht : s.calls.task with
  | none => exact hs.calls.not_waiting ht k
  | some t =>
    obtain ⟨reg, rfl⟩ := hq.2 t ht
    have hbox : inbox s.calls = [] := by simp [inbox, ht, hq.1]
    rcases hr with hf | he
    · rcases hs.failed hf with hn | ⟨e, hmem⟩
      · rw [ht] at hn; cases hn
      · rw [hbox] at hmem; cases hmem
    · rw [Ne, hs.calls.waiting, Sys.held_of_task ht, hq.1]
      intro hmem
      rcases List.mem_append.mp hmem with hmem | hmem
      · obtain ⟨c, hc⟩ := Registry.exists_of_mem_senders hmem
        obtain ⟨r, hmem'⟩ := hs.ended he _ c k ht hc
        rw [hbox] at hmem'
        cases hmem'
      · cases hmem

end

end Session

open Session in
/-- **No call is left waiting** when the reader has stopped and nothing is on its way, in
every run where the server ends the responses only after it has answered the requests. -/
theorem batch_session_leaves_none_waiting {crates : Crates} {handle : Handle} {s₀ s : Session}
    {ls : List Session.Label} (hstart : Session.start handle = .ok s₀)
    (hends : Along (Session.step crates) EndsAnswered s₀ ls)
    (hrun : exec (Session.step crates) s₀ ls = some s)
    (hreader : s.reader = .failed ∨ s.reader = .ended) (hquiet : Quiet s.calls) (k : Nat) :
    s.calls.slots k ≠ .waiting :=
  (exec_along (P := SessionInv) (fun _ _ _ hs hc hst => session_step hs hc hst) (start_inv hstart)
    hends hrun).none_waits hquiet hreader k

def batchHandle : Handle :=
  ⟨1, ⟨"http://localhost:2113"⟩, ⟨"localhost", 2113⟩, false, { features := .batchAppend }⟩

def batchStart : Session := ⟨Calls.init, true, .calling, true, 1, []⟩

/-- A response to the request with the nil id. -/
def sampleResp : Proto.BatchAppendResp := ⟨some ⟨none⟩, some [], some (.success none none), none⟩

/-- A call is forwarded and registered. -/
def forwardsOne : List Session.Label :=
  [.rpc (.ok ()), .call (sampleReq Uuid.nil) 0, .recv, .turn, .turn]

def endsAfterAnswer : List Session.Label :=
  forwardsOne ++ [.item (.ok (some sampleResp)), .recv, .turn, .item (.ok none)]

theorem batch_session_none_waiting_after_answer :
    ∃ s, exec (Session.step soloCrates) batchStart endsAfterAnswer = some s ∧
      ∀ k, s.calls.slots k ≠ .waiting := by
  have hrun : (exec (Session.step soloCrates) batchStart endsAfterAnswer).isSome := rfl
  obtain ⟨s, hs⟩ := Option.isSome_iff_exists.mp hrun
  have hfinal : s.reader = .ended ∧ Session.Quiet s.calls := by
    cases hs
    exact ⟨rfl, rfl, fun t ht => ⟨_, (Option.some.inj ht).symm⟩⟩
  refine ⟨s, hs, batch_session_leaves_none_waiting (rfl : Session.start batchHandle = .ok batchStart)
    ?_ hs (.inr hfinal.1) hfinal.2⟩
  refine .cons trivial rfl (.cons trivial rfl (.cons trivial rfl (.cons ?_ rfl (.cons ?_ rfl ?_))))
  · intro he; cases he
  · intro he; cases he
  · refine .cons trivial rfl (.cons trivial rfl (.cons ?_ rfl (.cons ?_ rfl trivial)))
    · intro he; cases he
    · -- the registry is empty again
      intro t c k ht hr
      cases ht
      cases hr

/-- The server ends the stream before it has answered. -/
theorem batch_session_strands_call :
    ∃ s, exec (Session.step soloCrates) batchStart (forwardsOne ++ [.item (.ok none)]) = some s ∧
      s.reader = .ended ∧ Session.Quiet s.calls ∧ s.calls.slots 0 = .waiting := by
  have hrun : (exec (Session.step soloCrates) batchStart
      (forwardsOne ++ [.item (.ok none)])).isSome := rfl
  obtain ⟨s, hs⟩ := Option.isSome_iff_exists.mp hrun
  refine ⟨s, hs, ?_⟩
  cases hs
  exact ⟨rfl, ⟨rfl, fun t ht => ⟨_, (Option.some.inj ht).symm⟩⟩, rfl⟩

end Kurrent
