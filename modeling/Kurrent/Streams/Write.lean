import Kurrent.Batch.Wire
import Kurrent.Lib.Percent
import Kurrent.Lib.Versioned
import Kurrent.Streams.Names
import Kurrent.Streams.Readers

/-!
# Writing to a stream

`append_to_stream` sends the options and then the events, a batch append sends all of them in
one message, and a delete or a tombstone sends the options alone (`commands.rs`); each says
what it expects of the stream. What comes back is a `WriteResult`, whose
`next_expected_version` is meant for the next write.

`Store` is a server that does what the requests ask: streams that only grow, writes that are
taken if the expectation is met. Over it the two ways to append are compared, and chains of
writes.
-/

namespace Kurrent

open Lib

/-! ## Requests -/

def StreamState.toExpected : StreamState → ExpectedStreamRevision
  | .any => .any
  | .streamExists => .streamExists
  | .noStream => .noStream
  | .streamRevision version => .revision version

/-- `AppendToStreamOptions::stream_state` -/
def AppendToStreamOptions.streamState (_ : AppendToStreamOptions) (version : StreamState) :
    AppendToStreamOptions :=
  { version := version.toExpected }

/-- The two requests that are options and nothing else. -/
def removeStreamCall (stream : NameArg) (version : StreamState) : Proto.AppendOptions where
  streamIdentifier := some stream.intoStreamName
  expectedStreamRevision := some version.toExpected

def deleteStreamCall := removeStreamCall

def tombstoneStreamCall := removeStreamCall

/-! ## Responses -/

namespace Proto

/-- `append_resp::Success` -/
structure AppendSuccess where
  currentRevisionOption : Option CurrentRevisionOption
  positionOption : Option PositionOption
  deriving DecidableEq, Repr

/-- `append_resp::WrongExpectedVersion` -/
structure WrongExpectedVersion where
  currentRevisionOption : Option CurrentRevisionOption
  expectedRevisionOption : Option ExpectedStreamRevision
  deriving DecidableEq, Repr

inductive AppendResult where
  | success (s : AppendSuccess)
  | wrongExpectedVersion (e : WrongExpectedVersion)
  deriving DecidableEq, Repr

structure AppendResp where
  result : Option AppendResult
  deriving DecidableEq, Repr

end Proto

structure WriteResult where
  nextExpectedVersion : UInt64
  position : Position
  deriving DecidableEq, Repr

/-- `Position::start` -/
def Position.start : Position := ⟨0, 0⟩

def WriteResult.from (value : Proto.AppendSuccess) : Call WriteResult := do
  let nextExpectedVersion := match ←
      Call.expect "called `Option::unwrap()` on a `None` value" value.currentRevisionOption with
    | .currentRevision rev => rev
    | .noStream => 0
  let position := match ←
      Call.expect "called `Option::unwrap()` on a `None` value" value.positionOption with
    | .position pos => pos
    | .noPosition => .start
  return ⟨nextExpectedVersion, position⟩

def Proto.CurrentRevisionOption.current : Proto.CurrentRevisionOption → CurrentRevision
  | .currentRevision rev => .current rev
  | .noStream => .noStream

def ExpectedStreamRevision.state : ExpectedStreamRevision → StreamState
  | .revision rev => .streamRevision rev
  | .any => .any
  | .streamExists => .streamExists
  | .noStream => .noStream

def Error.fromWrongExpectedVersion (value : Proto.WrongExpectedVersion) : Call Error := do
  let current ← Call.expect "called `Option::unwrap()` on a `None` value"
    value.currentRevisionOption
  let expected ← Call.expect "called `Option::unwrap()` on a `None` value"
    value.expectedRevisionOption
  return .wrongExpectedVersion expected.state current.current

/-- `append_to_stream`, once the node is selected and the server has answered. -/
def appendToStreamResult (node : Except Error Handle) (resp : Except Status Proto.AppendResp) :
    Call (Returns WriteResult) :=
  match node with
  | .error e => .ret ⟨.error e, none⟩
  | .ok handle =>
    match resp with
    | .error status =>
      let e := Error.fromGrpc status
      .ret ⟨.error e, handleError handle.id e⟩
    | .ok resp => do
      match ← Call.expect "called `Option::unwrap()` on a `None` value" resp.result with
      | .success success => return ⟨.ok (← WriteResult.from success), none⟩
      | .wrongExpectedVersion error =>
        return ⟨.error (← Error.fromWrongExpectedVersion error), none⟩

/-- The same for a removal, whose response is a position at most. -/
def removeStreamResult (node : Except Error Handle)
    (resp : Except Status (Option Proto.PositionOption)) : Returns (Option Position) :=
  match node with
  | .error e => ⟨.error e, none⟩
  | .ok handle =>
    match resp with
    | .error status =>
      let e := Error.fromGrpc status
      ⟨.error e, handleError handle.id e⟩
    | .ok (some (.position pos)) => ⟨.ok (some pos), none⟩
    | .ok (some .noPosition) => ⟨.ok none, none⟩
    | .ok none => ⟨.ok none, none⟩

def deleteStreamResult := removeStreamResult

def tombstoneStreamResult := removeStreamResult

/-! ## A server -/

/-- What a state says about the events of a stream. -/
def StreamState.expect : StreamState → Expect
  | .any => .any
  | .streamExists => .present
  | .noStream => .absent
  | .streamRevision rev => .last rev.toNat

/-- The last event of a stream, as a response says it. -/
def currentRevision (stream : List Proto.ProposedMessage) : Proto.CurrentRevisionOption :=
  if stream.isEmpty then .noStream else .currentRevision (UInt64.ofNat (stream.length - 1))

/-- What a request to append asks for. -/
structure WriteReq where
  stream : Bytes
  state : StreamState
  events : List Proto.ProposedMessage
  deriving DecidableEq, Repr

def Proto.AppendCall.write (call : Proto.AppendCall) : Option WriteReq := do
  let stream ← call.header.streamIdentifier
  let expected ← call.header.expectedStreamRevision
  return ⟨stream, expected.state, call.events.filterMap (·.message)⟩

/-- A message of a batch as a message of an append. -/
def Proto.BatchProposedMessage.into (m : Proto.BatchProposedMessage) : Proto.ProposedMessage :=
  ⟨m.id, m.metadata, m.customMetadata, m.data⟩

def Proto.BatchAppendReq.write (req : Proto.BatchAppendReq) : Option WriteReq := do
  let options ← req.options
  let stream ← options.streamIdentifier
  let expected ← options.expectedStreamPosition
  return ⟨stream, expected.state, req.proposedMessages.map (·.into)⟩

namespace Stored

/-- The streams after a write, which is passed over if it is not taken. -/
def serve (stored : Stored) (req : WriteReq) : Stored :=
  writeAt req.stream req.state.expect req.events stored

/-- The server takes the write. -/
def takes (stored : Stored) (req : WriteReq) : Bool := req.state.expect.met (stored req.stream)

/-- The response to an append; `position` is where the server put it. -/
def appendResp (stored : Stored) (position : Proto.PositionOption) (req : WriteReq) :
    Proto.AppendResp :=
  if stored.takes req then
    ⟨some (.success ⟨some (currentRevision (stored.serve req req.stream)), some position⟩)⟩
  else
    ⟨some (.wrongExpectedVersion
      ⟨some (currentRevision (stored req.stream)), some req.state.toExpected⟩)⟩

/-- The outcome of a batch append; `refusal` is how the server words an error. -/
def batchResult (stored : Stored) (position : Proto.PositionOption) (refusal : Int × String)
    (req : WriteReq) : Proto.BatchAppendResult :=
  if stored.takes req then
    .success (some (currentRevision (stored.serve req req.stream))) (some position)
  else .error refusal.1 refusal.2

/-- The response to it. -/
def batchResp (stored : Stored) (position : Proto.PositionOption) (refusal : Int × String)
    (correlationId : Option Proto.Uuid) (expected : Option Proto.ExpectedStreamPosition)
    (req : WriteReq) : Proto.BatchAppendResp where
  correlationId
  streamIdentifier := some req.stream
  result := some (stored.batchResult position refusal req)
  expectedStreamPosition := expected

end Stored

/-! ## What a caller means -/

/-- The message of an event; `newV4` is the id drawn for one that has none. -/
def EventData.message (newV4 : Uuid) (e : EventData) : Proto.ProposedMessage :=
  ⟨some (.from (e.idOpt.getD newV4)), e.metadata, e.customMetadata.getD [], e.payload⟩

def writeOf (newV4 : Nat → Uuid) (stream : Bytes) (state : StreamState) (events : List EventData) :
    WriteReq :=
  ⟨stream, state, events.mapIdx fun i e => e.message (newV4 i)⟩

section

variable {newV4 : Nat → Uuid} {stored : Stored} {position : Proto.PositionOption}

@[simp] theorem toExpected_state (state : StreamState) : state.toExpected.state = state := by
  cases state <;> rfl

@[simp] theorem expectedStreamPosition_state (state : StreamState) :
    (expectedStreamPosition state).state = state := by
  cases state <;> rfl

/-- A removal expects of the stream what its caller does. -/
theorem removeStreamCall_state (stream : NameArg) (state : StreamState) :
    (removeStreamCall stream state).expectedStreamRevision.map (·.state) = some state := by
  simp [removeStreamCall]

theorem appendToStreamCall_write (newV4 : Nat → Uuid) (stream : NameArg)
    (options : AppendToStreamOptions) (state : StreamState) (events : List EventData) :
    (appendToStreamCall newV4 stream (options.streamState state) events).write =
      some (writeOf newV4 stream.intoStreamName state events) := by
  have hmessages : (events.mapIdx fun i e => Proto.AppendReq.from (newV4 i) e).filterMap
      (·.message) = events.mapIdx fun i e => e.message (newV4 i) := by
    simp only [List.mapIdx_eq_zipIdx_map, List.filterMap_map]
    exact congrFun List.filterMap_eq_map' _
  simp [Proto.AppendCall.write, appendToStreamCall, AppendToStreamOptions.streamState, writeOf,
    hmessages]

theorem batchAppendReq_ret {options : CommonOperationOptions} {now : SystemTime} {req : Req}
    {m : Proto.BatchAppendReq} (h : batchAppendReq options now newV4 req = .ret m) :
    m.correlationId = some (.from req.id) ∧
      m.options.bind (·.expectedStreamPosition) =
        some (expectedStreamPosition req.expectedRevision) ∧
      m.write =
        some (writeOf newV4 (Kurrent.utf8 req.streamName) req.expectedRevision req.events) := by
  obtain ⟨deadline, -, h⟩ := Call.bind_eq_ret h
  obtain ⟨since, -, h⟩ := Call.bind_eq_ret h
  cases h
  have hname : req.streamName.toUTF8.toList = Kurrent.utf8 req.streamName := byteArray_toList _
  have hmessages : (req.events.mapIdx fun i e =>
      convertEventDataToBatchProposedMessage (newV4 i) e).map (·.into) =
        req.events.mapIdx fun i e => e.message (newV4 i) := by
    simp only [List.mapIdx_eq_zipIdx_map, List.map_map]
    rfl
  refine ⟨rfl, rfl, ?_⟩
  show some (WriteReq.mk _ (expectedStreamPosition req.expectedRevision).state _) = _
  rw [hname, hmessages, expectedStreamPosition_state]
  rfl

/-! ## The server's answers -/

/-- Whatever is asked of the server, no stream loses an event. -/
theorem serve_all_grows (reqs : List WriteReq) (stored : Stored) (stream : Bytes) :
    stored stream <+: reqs.foldl Stored.serve stored stream := by
  induction reqs generalizing stored with
  | nil => exact List.prefix_rfl
  | cons req reqs ih => exact (writeAt_grows stream).trans (ih _)

/-- What `append_to_stream` returns is what the server did. -/
theorem appendToStreamResult_ret (handle : Handle) (stored : Stored)
    (position : Proto.PositionOption) (req : WriteReq) :
    appendToStreamResult (.ok handle) (.ok (stored.appendResp position req)) = .ret
      ⟨if stored.takes req then
        .ok ⟨match currentRevision (stored.serve req req.stream) with
          | .currentRevision rev => rev
          | .noStream => 0,
          match position with
          | .position pos => pos
          | .noPosition => .start⟩
      else .error (.wrongExpectedVersion req.state (currentRevision (stored req.stream)).current),
      none⟩ := by
  unfold Stored.appendResp
  split
  · rfl
  · simp only [appendToStreamResult, Error.fromWrongExpectedVersion, Call.expect, Call.ret_bind,
      Call.pure_eq, toExpected_state]

/-- The version of a result is that of the stream's last event, and zero if it has none. -/
theorem nextExpectedVersion_eq {handle : Handle} {req : WriteReq} {result : WriteResult}
    (h : appendToStreamResult (.ok handle) (.ok (stored.appendResp position req)) =
      .ret ⟨.ok result, none⟩) :
    result.nextExpectedVersion = UInt64.ofNat ((stored.serve req req.stream).length - 1) := by
  rw [appendToStreamResult_ret] at h
  split at h
  · cases h
    unfold currentRevision
    cases stored.serve req req.stream with
    | nil => rfl
    | cons m ms => rfl
  · cases h

end

/-- **Two ways to append**: the same events, under the same expectation, are the same write
whether they are appended alone or by a batch. The server takes both or neither, and the
results say the same of the stream and of the write, as far as each says it. -/
theorem append_paths_agree {crates : Crates} {options : CommonOperationOptions} {now : SystemTime}
    {newV4 : Nat → Uuid} {req : Req} {m : Proto.BatchAppendReq}
    (hm : batchAppendReq options now newV4 req = .ret m)
    (hlossy : crates.utf8Lossy (Kurrent.utf8 req.streamName) = req.streamName) :
    ∃ w, (appendToStreamCall newV4 (.string req.streamName)
        (AppendToStreamOptions.streamState {} req.expectedRevision) req.events).write = some w ∧
      m.write = some w ∧
      ∀ (stored : Stored) position refusal handle, ∃ r out,
        appendToStreamResult (.ok handle) (.ok (stored.appendResp position w)) = .ret ⟨r, none⟩ ∧
        Out.from crates (stored.batchResp position refusal m.correlationId
          (m.options.bind (·.expectedStreamPosition)) w) = .ret out ∧
        out.correlationId = req.id ∧
        if stored.takes w then
          ∃ a b, r = .ok a ∧ out.result = .ok b ∧
            a.nextExpectedVersion = b.currentRevision.getD 0 ∧
            a.position = b.currentPosition.getD .start ∧ b.streamName = req.streamName ∧
            b.streamState = some req.expectedRevision
        else
          r = .error (.wrongExpectedVersion req.expectedRevision
            (currentRevision (stored w.stream)).current) ∧
          ∃ e, out.result = .error e := by
  obtain ⟨hid, hexpected, hwrite⟩ := batchAppendReq_ret hm
  have hplain : (appendToStreamCall newV4 (.string req.streamName)
      (AppendToStreamOptions.streamState {} req.expectedRevision) req.events).write =
        some (writeOf newV4 (Kurrent.utf8 req.streamName) req.expectedRevision req.events) :=
    appendToStreamCall_write newV4 (.string req.streamName) {} req.expectedRevision req.events
  refine ⟨_, hplain, hwrite, fun stored position refusal handle => ?_⟩
  have hout : Out.from crates (stored.batchResp position refusal m.correlationId
      (m.options.bind (·.expectedStreamPosition))
      (writeOf newV4 (Kurrent.utf8 req.streamName) req.expectedRevision req.events)) =
    .ret ⟨req.id, appendResult req.streamName (some (expectedStreamPosition req.expectedRevision))
      (stored.batchResult position refusal
        (writeOf newV4 (Kurrent.utf8 req.streamName) req.expectedRevision req.events))⟩ := by
    simp only [Out.from, Stored.batchResp, hid, hexpected, Call.expect, Call.ret_bind,
      tryInto_from, hlossy, Call.pure_eq, writeOf]
  refine ⟨_, _, appendToStreamResult_ret handle stored position _, hout, rfl, ?_⟩
  split
  · next htakes =>
    refine ⟨_, _, rfl, by rw [Stored.batchResult, if_pos htakes]; rfl, ?_, ?_, rfl, ?_⟩
    · cases currentRevision _ <;> rfl
    · cases position <;> rfl
    · simp
  · next htakes =>
    refine ⟨rfl, .grpc (Code.from refusal.1) refusal.2, ?_⟩
    rw [Stored.batchResult, if_neg htakes]
    rfl

/-- Bytes are read back as the text they are of. -/
def textCrates : Crates := { soloCrates with utf8Lossy := ofUtf8 }

def ordersReq : Req := ⟨7, "orders", [⟨[1], some 9, [], none⟩], .noStream⟩

theorem append_paths_agree_orders :
    ∃ m w, batchAppendReq {} .unixEpoch (fun _ => 0) ordersReq = .ret m ∧ m.write = some w ∧
      (appendToStreamCall (fun _ => 0) (.string "orders")
        (AppendToStreamOptions.streamState {} .noStream) ordersReq.events).write = some w := by
  obtain ⟨m, hm⟩ : ∃ m, batchAppendReq {} .unixEpoch (fun _ => 0) ordersReq = .ret m := ⟨_, rfl⟩
  have hlossy :
      textCrates.utf8Lossy (Kurrent.utf8 ordersReq.streamName) = ordersReq.streamName := by
    rw [show Kurrent.utf8 ordersReq.streamName = Lib.utf8 ordersReq.streamName from
      (byteArray_toList _).symm.trans (toUTF8_toList _)]
    show Lib.ofUtf8 (Lib.utf8 "orders") = "orders"
    exact ofUtf8_utf8 _
  obtain ⟨w, hplain, hbatch, -⟩ := append_paths_agree hm hlossy
  exact ⟨m, w, hm, hbatch, hplain⟩

/-- **The version of a result.** Whatever others append to whatever streams after an append was
taken, the next append that expects its `next_expected_version` is taken exactly if the stream
has not changed since; but if the append left the stream without an event, the version is that
of a first event, and the next append is taken exactly if somebody else has written just one. -/
theorem next_expected_version_iff {newV4 newV4' : Nat → Uuid} {stream : NameArg}
    {options options' : AppendToStreamOptions} {state : StreamState} {events more : List EventData}
    {stored : Stored} {position : Proto.PositionOption} {handle : Handle} {w w' : WriteReq}
    {result : WriteResult} (others : List WriteReq)
    (hw : (appendToStreamCall newV4 stream (options.streamState state) events).write = some w)
    (hresult : appendToStreamResult (.ok handle) (.ok (stored.appendResp position w)) =
      .ret ⟨.ok result, none⟩)
    (hw' : (appendToStreamCall newV4' stream
      (options'.streamState (.streamRevision result.nextExpectedVersion)) more).write = some w')
    (hlen : (stored.serve w w.stream).length ≤ 2 ^ 64) :
    let after := others.foldl Stored.serve (stored.serve w)
    (stored.serve w w.stream ≠ [] →
      (after.takes w' = true ↔ after w.stream = stored.serve w w.stream)) ∧
    (stored.serve w w.stream = [] → (after.takes w' = true ↔ ∃ m, after w.stream = [m])) := by
  intro after
  rw [appendToStreamCall_write] at hw hw'
  cases hw
  cases hw'
  have hversion : result.nextExpectedVersion.toNat =
      (stored.serve (writeOf newV4 stream.intoStreamName state events)
        stream.intoStreamName).length - 1 := by
    rw [nextExpectedVersion_eq hresult]
    refine UInt64.toNat_ofNat_of_lt' (show _ - 1 < 2 ^ 64 from ?_)
    have hlen : (stored.serve _ stream.intoStreamName).length ≤ 2 ^ 64 := hlen
    show (stored.serve _ stream.intoStreamName).length - 1 < 2 ^ 64
    omega
  have htakes : after.takes (writeOf newV4' stream.intoStreamName
      (.streamRevision result.nextExpectedVersion) more) = (Expect.last _).met
        (after stream.intoStreamName) := congrArg (fun n => (Expect.last n).met _) hversion
  rw [htakes]
  refine ⟨fun hne => ?_, fun hnil => ?_⟩
  · exact Expect.met_last_iff_same (serve_all_grows others _ _) hne
  · have hnil : stored.serve _ stream.intoStreamName = [] := hnil
    rw [hnil]
    exact Expect.met_last_zero

/-- An append of nothing to a stream that is not there, and one event of somebody else. -/
theorem next_expected_version_orders :
    (([writeOf (fun _ => 0) (Kurrent.utf8 "orders") .any ordersReq.events].foldl Stored.serve
      (Stored.serve (fun _ => []) (writeOf (fun _ => 0) (Kurrent.utf8 "orders") .any []))).takes
        (writeOf (fun _ => 0) (Kurrent.utf8 "orders") (.streamRevision 0) [])) = true :=
  ((@next_expected_version_iff (fun _ => 0) (fun _ => 0) (.string "orders") {} {} .any [] []
    (fun _ => []) .noPosition batchHandle _ _ _
    [writeOf (fun _ => 0) (Kurrent.utf8 "orders") .any ordersReq.events] rfl rfl rfl
    (Nat.zero_le _)).2 rfl).mpr ⟨_, rfl⟩

end Kurrent
