import Kurrent.Streams.Proposed

/-!
# Names of streams

A stream is named by a text or by bytes, and the metadata of a stream is in the stream whose name
has `$$` in front. The two traits that make a name of an argument (`types.rs`) have one
implementation for each type of argument; the calls of the client (`client.rs`, `commands.rs`) are
here up to the request they send, for the stream it is addressed to.
-/

namespace Kurrent

open Lib

def utf8 (s : String) : Bytes := s.toUTF8.data.toList

/-- What a caller names a stream with. -/
inductive NameArg where
  | bytes (name : Bytes)
  | str (name : String)
  | string (name : String)
  deriving DecidableEq

namespace NameArg

/-- The bytes the caller gave. -/
def content : NameArg → Bytes
  | bytes name => name
  | str name => utf8 name
  | string name => utf8 name

/-- `StreamName` -/
def intoStreamName : NameArg → Bytes
  | bytes name => name
  | str name => utf8 name
  | string name => utf8 name

/-- `MetadataStreamName`. The implementation for bytes returns them as they are. -/
def intoMetadataStreamName : NameArg → Bytes
  | bytes name => name
  | str name => utf8 ("$$" ++ name)
  | string name => utf8 ("$$" ++ name)

end NameArg

/-! ## The requests -/

inductive ExpectedStreamRevision where
  | revision (rev : UInt64)
  | noStream
  | any
  | streamExists
  deriving DecidableEq, Repr

structure AppendToStreamOptions where
  version : ExpectedStreamRevision := .any
  deriving DecidableEq, Repr

inductive ReadDirection where
  | forward
  | backward
  deriving DecidableEq, Repr

structure ReadStreamOptions where
  direction : ReadDirection := .forward
  position : StreamPosition UInt64 := .start
  resolveLinkTos : Bool := false
  maxCount : UInt64 := 18446744073709551615
  deriving DecidableEq, Repr

namespace Proto

/-- `append_req::Options` -/
structure AppendOptions where
  streamIdentifier : Option Bytes
  expectedStreamRevision : Option ExpectedStreamRevision
  deriving DecidableEq, Repr

/-- The messages of one append: the options first, then one for each event. -/
structure AppendCall where
  header : AppendOptions
  events : List AppendReq
  deriving DecidableEq, Repr

/-- A read request, less the options that are the same for every read. -/
structure ReadReq where
  options : ReadOptions
  count : UInt64
  readDirection : Nat
  deriving DecidableEq, Repr

end Proto

/-- `append_to_stream`, up to the call; `newV4` are the ids drawn for events that have none. -/
def appendToStreamCall (newV4 : Nat → Uuid) (stream : NameArg) (options : AppendToStreamOptions)
    (events : List EventData) : Proto.AppendCall where
  header :=
    { streamIdentifier := some stream.intoStreamName
      expectedStreamRevision := some options.version }
  events := events.mapIdx fun i event => .from (newV4 i) event

/-- `read_stream`, up to the call. -/
def readStreamCall (options : ReadStreamOptions) (stream : NameArg) (count : UInt64) :
    Proto.ReadReq :=
  let readDirection := match options.direction with
    | .forward => 0
    | .backward => 1
  let revisionOption := match options.position with
    | .position rev => RevisionOption.revision rev
    | .start => .start
    | .end => .end
  { options :=
      { streamOption := .stream stream.intoStreamName revisionOption
        resolveLinks := options.resolveLinkTos
        filterOption := none }
    count
    readDirection }

/-- `set_stream_metadata`, up to the call; `toVec` is the serializer. -/
def setStreamMetadataCall (toVec : StreamMetadata → Except String Bytes) (newV4 : Nat → Uuid)
    (name : NameArg) (options : AppendToStreamOptions) (metadata : StreamMetadata) :
    Except Error Proto.AppendCall :=
  match EventData.json toVec "$metadata" metadata with
  | .error e => .error (.internalParsingError e)
  | .ok event =>
    .ok (appendToStreamCall newV4 (.bytes name.intoMetadataStreamName) options [event])

/-- `get_stream_metadata`, up to the call. -/
def getStreamMetadataCall (name : NameArg) (options : ReadStreamOptions) : Proto.ReadReq :=
  readStreamCall options (.bytes name.intoMetadataStreamName) options.maxCount

/-! ## Where a request goes -/

/-- The streams of a server, each with the messages that were appended to it. -/
abbrev Stored := Bytes → List Proto.ProposedMessage

def Proto.AppendReq.message (req : Proto.AppendReq) : Option Proto.ProposedMessage :=
  match req.content with
  | some (.proposedMessage msg) => some msg
  | _ => none

/-- The streams once the server has taken the call. -/
def Proto.AppendCall.store (call : Proto.AppendCall) (stored : Stored) : Stored :=
  match call.header.streamIdentifier with
  | some id => Function.update stored id (stored id ++ call.events.filterMap (·.message))
  | none => stored

/-- Another stream is as it was. -/
theorem Proto.AppendCall.store_of_ne {call : Proto.AppendCall} {id name : Bytes}
    (h : call.header.streamIdentifier = some id) (hne : name ≠ id) (stored : Stored) :
    call.store stored name = stored name := by
  unfold Proto.AppendCall.store
  rw [h]
  exact Function.update_of_ne hne _ _

theorem utf8_append (s t : String) : utf8 (s ++ t) = utf8 s ++ utf8 t := by
  simp [utf8, String.toUTF8]

/-- The stream of the metadata is another stream. -/
theorem utf8_metadata_ne (name : String) : utf8 name ≠ utf8 ("$$" ++ name) := by
  intro h
  have hlen := congrArg List.length h
  rw [utf8_append, List.length_append] at hlen
  have htwo : (utf8 "$$").length = 2 := by decide
  omega

theorem setStreamMetadataCall_target {toVec : StreamMetadata → Except String Bytes}
    {newV4 : Nat → Uuid} {name : NameArg} {options : AppendToStreamOptions}
    {metadata : StreamMetadata} {call : Proto.AppendCall}
    (h : setStreamMetadataCall toVec newV4 name options metadata = .ok call) :
    call.header.streamIdentifier = some name.intoMetadataStreamName := by
  unfold setStreamMetadataCall at h
  split at h
  next => cases h
  next => cases h; rfl

/-- The four calls address the streams of this name, whatever else they are given. -/
structure Addressed (name : String) (arg : NameArg) : Prop where
  append : ∀ newV4 options events,
    (appendToStreamCall newV4 arg options events).header.streamIdentifier = some (utf8 name)
  read : ∀ options count,
    (readStreamCall options arg count).options.streamOption.target = .stream (utf8 name)
  setMetadata : ∀ toVec newV4 options metadata call,
    setStreamMetadataCall toVec newV4 arg options metadata = .ok call →
      call.header.streamIdentifier = some (utf8 ("$$" ++ name))
  getMetadata : ∀ options,
    (getStreamMetadataCall arg options).options.streamOption.target =
      .stream (utf8 ("$$" ++ name))
  /-- nothing is appended to the stream the metadata are of -/
  kept : ∀ toVec newV4 options metadata call,
    setStreamMetadataCall toVec newV4 arg options metadata = .ok call →
      ∀ stored : Stored, call.store stored (utf8 name) = stored (utf8 name)

/-- **A stream's metadata are where they belong if the name is a text**, and in the stream
itself if it is bytes. -/
theorem addressed_iff {name : String} {arg : NameArg} (harg : arg.content = utf8 name) :
    Addressed name arg ↔ ∀ b, arg ≠ .bytes b := by
  refine ⟨?_, fun hbytes => ?_⟩
  · rintro h b rfl
    have htarget := h.getMetadata {}
    simp only [getStreamMetadataCall, readStreamCall, StreamOption.target,
      NameArg.intoMetadataStreamName, NameArg.intoStreamName, Target.stream.injEq] at htarget
    exact utf8_metadata_ne name (harg.symm.trans htarget)
  · have hname : arg.intoStreamName = utf8 name := by cases arg <;> exact harg
    have hmeta : arg.intoMetadataStreamName = utf8 ("$$" ++ name) := by
      have htext : ∀ text, utf8 text = utf8 name → utf8 ("$$" ++ text) = utf8 ("$$" ++ name) := by
        intro text heq
        rw [utf8_append, heq, ← utf8_append]
      cases arg with
      | bytes b => exact absurd rfl (hbytes b)
      | str text => exact htext text harg
      | string text => exact htext text harg
    have hset : ∀ toVec newV4 options metadata call,
        setStreamMetadataCall toVec newV4 arg options metadata = .ok call →
          call.header.streamIdentifier = some (utf8 ("$$" ++ name)) := fun _ _ _ _ _ hcall => by
      rw [setStreamMetadataCall_target hcall, hmeta]
    refine ⟨fun _ _ _ => ?_, fun _ _ => ?_, hset, fun _ => ?_, fun _ _ _ _ _ hcall stored => ?_⟩
    · exact congrArg some hname
    · exact congrArg Target.stream hname
    · exact congrArg Target.stream hmeta
    · exact Proto.AppendCall.store_of_ne (hset _ _ _ _ _ hcall) (utf8_metadata_ne name) stored

theorem addressed_text : Addressed "orders" (.string "orders") :=
  (addressed_iff rfl).mpr fun b h => by cases h

/-- The metadata of a stream named by its bytes are appended to the stream. -/
theorem metadata_of_bytes_misplaced :
    NameArg.content (.bytes (utf8 "orders")) = utf8 "orders" ∧
      (getStreamMetadataCall (.bytes (utf8 "orders")) {}).options.streamOption.target =
        .stream (utf8 "orders") ∧
      ∃ call, setStreamMetadataCall (fun _ => .ok []) (fun _ => Uuid.nil)
          (.bytes (utf8 "orders")) {} {} = .ok call ∧
        call.header.streamIdentifier = some (utf8 "orders") ∧
        call.header.streamIdentifier ≠ some (utf8 ("$$" ++ "orders")) ∧
        call.store (fun _ => []) (utf8 "orders") ≠ [] := by
  refine ⟨rfl, rfl, _, rfl, rfl, ?_, ?_⟩
  · exact fun h => utf8_metadata_ne "orders" (Option.some.inj h)
  · simp [Proto.AppendCall.store, appendToStreamCall, NameArg.intoStreamName,
      NameArg.intoMetadataStreamName, Proto.AppendReq.from, Proto.AppendReq.message]

end Kurrent
