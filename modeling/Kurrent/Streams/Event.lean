import Kurrent.Grpc.Settings

/-!
# Events on the wire and in the client

The messages a server sends for an event (`streams.proto`) and the values the client makes
of them (`event_store/generated.rs`). A conversion panics where the source unwraps a field
the server left out. What it keeps is the record's place: its revision in the stream and
its position in the transaction file.
-/

namespace Kurrent

open Lib

abbrev Bytes := List UInt8

namespace Proto

inductive UuidValue where
  | structured (mostSignificantBits leastSignificantBits : Int64)
  | string (text : String)
  deriving DecidableEq, Repr

structure Uuid where
  value : Option UuidValue
  deriving DecidableEq, Repr

structure RecordedEvent where
  id : Option Uuid
  streamIdentifier : Option Bytes
  streamRevision : UInt64
  preparePosition : UInt64
  commitPosition : UInt64
  metadata : List (String × String) := []
  customMetadata : Bytes := []
  data : Bytes := []
  deriving DecidableEq, Repr

inductive EventPosition where
  | commitPosition (pos : UInt64)
  | noPosition
  deriving DecidableEq, Repr

structure ReadEvent where
  event : Option RecordedEvent
  link : Option RecordedEvent
  position : Option EventPosition
  deriving DecidableEq, Repr

/-- The record the server read: the link if there is one. -/
def ReadEvent.original (e : ReadEvent) : Option RecordedEvent := e.link.or e.event

end Proto

def Proto.Uuid.tryInto (crates : Crates) (u : Proto.Uuid) : Option Kurrent.Uuid :=
  match u.value with
  | some (.structured most least) => some (most.toBitVec ++ least.toBitVec)
  | some (.string s) => crates.parseUuid s
  | none => some Kurrent.Uuid.nil

structure RecordedEvent where
  streamIdRaw : Bytes
  id : Uuid
  revision : UInt64
  eventType : String
  data : Bytes
  metadata : List (String × String)
  customMetadata : Bytes
  isJson : Bool
  position : Position
  /-- seconds since the Unix epoch -/
  created : Nat
  deriving DecidableEq, Repr

structure ResolvedEvent where
  event : Option RecordedEvent
  link : Option RecordedEvent
  commitPosition : Option UInt64
  deriving DecidableEq, Repr

/-- An event about to be sent to the server. -/
structure EventData where
  payload : Bytes
  idOpt : Option Uuid
  metadata : List (String × String)
  customMetadata : Option Bytes
  deriving DecidableEq, Repr

/-- `HashMap::remove`, for the value and the map that is left. -/
def removeKey (metadata : List (String × String)) (key : String) :
    Option String × List (String × String) :=
  (metadata.lookup key, metadata.filter fun p => p.1 ≠ key)

/-- The creation time is given in ticks of 100 nanoseconds. -/
def createdFrom (metadata : List (String × String)) : Nat :=
  match metadata.lookup "created" with
  | some ticks => (parseUnsigned (2 ^ 64 - 1) ticks).toOption.getD 0 / 10000000
  | none => 0

/-- The last second of the year 262142, where `chrono` ends. -/
def maxTimestamp : Nat := 8210266876799

/-- `SystemTime::UNIX_EPOCH.add(Duration::from_secs(secs)).into()`, as seconds: the clock of
the system counts in an `i64`, `chrono` up to its last year. -/
def dateTimeFrom (secs : Nat) : Call Nat :=
  if 2 ^ 63 ≤ secs then .panic "overflow when adding duration to instant"
  else if maxTimestamp < secs then .panic "No such local time"
  else .ret secs

def RecordedEvent.from (crates : Crates) (value : Proto.RecordedEvent) : Call RecordedEvent := do
  let id ← Call.expect "called `Option::unwrap()` on a `None` value" value.id
  let id ← Call.expect "called `Result::unwrap()` on an `Err` value" (id.tryInto crates)
  let position : Position := ⟨value.commitPosition, value.preparePosition⟩
  let (eventType, metadata) := removeKey value.metadata "type"
  let created ← dateTimeFrom (createdFrom metadata)
  let streamIdRaw ← Call.expect "stream_identifier is always defined" value.streamIdentifier
  return {
    streamIdRaw, id, position, metadata, created
    revision := value.streamRevision
    eventType := eventType.getD ""
    isJson := metadata.lookup "content-type" = some "application/json"
    customMetadata := value.customMetadata
    data := value.data }

def recordedOpt (crates : Crates) : Option Proto.RecordedEvent → Call (Option RecordedEvent)
  | none => .ret none
  | some e => do return some (← RecordedEvent.from crates e)

def ResolvedEvent.from (crates : Crates) (value : Proto.ReadEvent) : Call ResolvedEvent := do
  let commitPosition := match value.position with
    | some (.commitPosition pos) => some pos
    | some .noPosition => none
    | none => none
  let event ← recordedOpt crates value.event
  let link ← recordedOpt crates value.link
  return ⟨event, link, commitPosition⟩

/-- The event that was read or that triggered the subscription. -/
def ResolvedEvent.getOriginalEvent (e : ResolvedEvent) : Call RecordedEvent :=
  match e.link with
  | some link => .ret link
  | none => Call.expect "[get_original_event] Not supposed to happen!" e.event

/-! ## The creation time -/

theorem createdFrom_le (metadata : List (String × String)) :
    createdFrom metadata ≤ (2 ^ 64 - 1) / 10000000 := by
  unfold createdFrom
  cases metadata.lookup "created" with
  | none => exact Nat.zero_le _
  | some ticks =>
    refine Nat.div_le_div_right ?_
    cases h : parseUnsigned (2 ^ 64 - 1) ticks with
    | error e => exact Nat.zero_le _
    | ok n => exact parseUnsigned_le h

/-- Every number of ticks that fits in an `u64` is a time `chrono` knows. -/
@[simp] theorem dateTimeFrom_created (metadata : List (String × String)) :
    dateTimeFrom (createdFrom metadata) = .ret (createdFrom metadata) := by
  have h := createdFrom_le metadata
  unfold dateTimeFrom maxTimestamp
  rw [if_neg (by omega), if_neg (by omega)]

/-! ## A conversion keeps the record's place -/

section

variable {crates : Crates}

theorem recordedEvent_place {v : Proto.RecordedEvent} {e : RecordedEvent}
    (h : RecordedEvent.from crates v = .ret e) :
    e.revision = v.streamRevision ∧ e.position = ⟨v.commitPosition, v.preparePosition⟩ := by
  obtain ⟨id, -, h⟩ := Call.bind_eq_ret h
  obtain ⟨id', -, h⟩ := Call.bind_eq_ret h
  obtain ⟨secs, -, h⟩ := Call.bind_eq_ret h
  obtain ⟨raw, -, h⟩ := Call.bind_eq_ret h
  cases h
  exact ⟨rfl, rfl⟩

theorem recordedEvent_id {v : Proto.RecordedEvent} {e : RecordedEvent}
    (h : RecordedEvent.from crates v = .ret e) :
    ∃ id, v.id = some id ∧ id.tryInto crates = some e.id := by
  obtain ⟨id, hid, h⟩ := Call.bind_eq_ret h
  obtain ⟨id', hid', h⟩ := Call.bind_eq_ret h
  obtain ⟨secs, -, h⟩ := Call.bind_eq_ret h
  obtain ⟨raw, -, h⟩ := Call.bind_eq_ret h
  cases h
  exact ⟨id, Call.expect_eq_ret hid, Call.expect_eq_ret hid'⟩

theorem recordedOpt_ret {v : Option Proto.RecordedEvent} {o : Option RecordedEvent}
    (h : recordedOpt crates v = .ret o) :
    (v = none ∧ o = none) ∨
      ∃ w e, v = some w ∧ o = some e ∧ RecordedEvent.from crates w = .ret e := by
  cases v with
  | none => cases h; exact .inl ⟨rfl, rfl⟩
  | some w =>
    obtain ⟨e, he, h⟩ := Call.bind_eq_ret h
    cases h
    exact .inr ⟨w, e, rfl, rfl, he⟩

theorem resolvedEvent_ret {v : Proto.ReadEvent} {e : ResolvedEvent}
    (h : ResolvedEvent.from crates v = .ret e) :
    recordedOpt crates v.event = .ret e.event ∧ recordedOpt crates v.link = .ret e.link := by
  obtain ⟨event, hevent, h⟩ := Call.bind_eq_ret h
  obtain ⟨link, hlink, h⟩ := Call.bind_eq_ret h
  cases h
  exact ⟨hevent, hlink⟩

/-- The original event of the client's value stands for the server's record. -/
theorem getOriginalEvent_from {v : Proto.ReadEvent} {e : ResolvedEvent} {o : RecordedEvent}
    (h : ResolvedEvent.from crates v = .ret e) (ho : e.getOriginalEvent = .ret o) :
    ∃ w, v.original = some w ∧ RecordedEvent.from crates w = .ret o := by
  obtain ⟨hevent, hlink⟩ := resolvedEvent_ret h
  unfold ResolvedEvent.getOriginalEvent at ho
  rcases recordedOpt_ret hlink with ⟨hv, hl⟩ | ⟨w, l, hv, hl, hw⟩
  · rw [hl] at ho
    have hev := Call.expect_eq_ret ho
    rcases recordedOpt_ret hevent with ⟨-, hn⟩ | ⟨w, o', hv', ho', hw⟩
    · rw [hev] at hn; cases hn
    · rw [hev] at ho'
      cases ho'
      exact ⟨w, by simp [Proto.ReadEvent.original, hv, hv'], hw⟩
  · rw [hl] at ho
    cases ho
    exact ⟨w, by simp [Proto.ReadEvent.original, hv], hw⟩

/-- An event without an original comes from a message without a record. -/
theorem original_eq_none {v : Proto.ReadEvent} {e : ResolvedEvent} {m : String}
    (h : ResolvedEvent.from crates v = .ret e) (ho : e.getOriginalEvent = .panic m) :
    v.original = none := by
  obtain ⟨hevent, hlink⟩ := resolvedEvent_ret h
  unfold ResolvedEvent.getOriginalEvent at ho
  rcases recordedOpt_ret hlink with ⟨hv, hl⟩ | ⟨w, l, -, hl, -⟩
  · rcases recordedOpt_ret hevent with ⟨hv', -⟩ | ⟨w, o', -, ho', -⟩
    · simp [Proto.ReadEvent.original, hv, hv']
    · rw [hl, ho'] at ho; cases ho
  · rw [hl] at ho; cases ho

end

end Kurrent
