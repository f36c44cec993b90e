import Kurrent.Batch.Session
import Kurrent.Grpc.Settings
import Kurrent.Streams.Proposed

/-!
# The requests of the batch stream

The request stream of `batch_append` (`commands.rs`) turns every `Req` of the client task
into one `BatchAppendReq`. The protocol has two fields for a deadline, a timestamp and a
duration, of which at most one is set. The stream adds the deadline of the options to the
clock, takes the time since the epoch, and puts that into the duration.
-/

namespace Kurrent

open Lib

/-! ## The clock -/

/-- A reading of the system clock: nanoseconds since the epoch, with the seconds in an
`i64`. -/
structure SystemTime where
  nanos : Int
  lower : -(2 ^ 63 * 1000000000) ≤ nanos
  upper : nanos < 2 ^ 63 * 1000000000

namespace SystemTime

def unixEpoch : SystemTime := ⟨0, by omega, by omega⟩

def ofSecs (secs : Nat) (h : secs < 2 ^ 63) : SystemTime :=
  ⟨secs * 1000000000, by omega, by omega⟩

theorem eq_unixEpoch_iff {t : SystemTime} : t = unixEpoch ↔ t.nanos = 0 := by
  cases t
  simp [unixEpoch]

theorem eq_iff {t t' : SystemTime} : t = t' ↔ t.nanos = t'.nanos := by
  cases t
  cases t'
  simp

/-- `checked_add`; the operator panics where it has no answer. -/
def checkedAdd (t : SystemTime) (d : Duration) : Option SystemTime :=
  if h : t.nanos + d.nanos < 2 ^ 63 * 1000000000 then
    some ⟨t.nanos + d.nanos, by have := t.lower; omega, h⟩
  else none

/-- `duration_since`, for an earlier time. -/
def durationSince (t earlier : SystemTime) : Option Duration :=
  if earlier.nanos ≤ t.nanos then some ⟨(t.nanos - earlier.nanos).toNat⟩ else none

end SystemTime

def Duration.asSecs (d : Duration) : Nat := d.nanos / 1000000000

def Duration.subsecNanos (d : Duration) : Nat := d.nanos % 1000000000

/-! ## Messages -/

namespace Proto

/-- `google.protobuf.Duration` -/
structure Duration where
  seconds : Int64
  nanos : Int32
  deriving DecidableEq, Repr

/-- `google.protobuf.Timestamp` -/
structure Timestamp where
  seconds : Int64
  nanos : Int32
  deriving DecidableEq, Repr

/-- The two fields of the `oneof`, tags 6 and 7. -/
inductive DeadlineOption where
  | deadline21100 (t : Timestamp)
  | deadline (d : Duration)
  deriving DecidableEq, Repr

structure BatchAppendOptions where
  streamIdentifier : Option Bytes
  expectedStreamPosition : Option ExpectedStreamPosition
  deadlineOption : Option DeadlineOption
  deriving DecidableEq, Repr

structure BatchAppendReq where
  correlationId : Option Uuid
  options : Option BatchAppendOptions
  proposedMessages : List BatchProposedMessage
  isFinal : Bool
  deriving DecidableEq, Repr

/-- The nanoseconds a duration message stands for. -/
def Duration.value (d : Duration) : Int := d.seconds.toInt * 1000000000 + d.nanos.toInt

/-- The nanoseconds of the relative deadline, where it is the field that is set. -/
def BatchAppendReq.relativeDeadline (m : BatchAppendReq) : Option Int :=
  match m.options.bind BatchAppendOptions.deadlineOption with
  | some (.deadline d) => some d.value
  | _ => none

end Proto

/-! ## The request stream -/

def expectedStreamPosition : StreamState → Proto.ExpectedStreamPosition
  | .streamRevision rev => .streamPosition rev
  | .noStream => .noStream
  | .streamExists => .streamExists
  | .any => .any

/-- One turn of the stream, at the clock reading `now`; `newV4 i` is the id drawn for the
event at `i`. -/
def batchAppendReq (options : CommonOperationOptions) (now : SystemTime) (newV4 : Nat → Uuid)
    (req : Req) : Call Proto.BatchAppendReq := do
  let correlationId := some (Proto.Uuid.from req.id)
  let streamIdentifier := some req.streamName.toUTF8.toList
  let expected := some (expectedStreamPosition req.expectedRevision)
  let proposedMessages := req.events.mapIdx fun i event =>
    convertEventDataToBatchProposedMessage (newV4 i) event
  let deadline := options.deadline.getD (.fromSecs 10)
  let deadline ← Call.expect "overflow when adding duration to instant" (now.checkedAdd deadline)
  let deadline ← Call.expect "called `Result::unwrap()` on an `Err` value"
    (deadline.durationSince .unixEpoch)
  let deadlineOption := Proto.DeadlineOption.deadline
    ⟨Int64.ofNat deadline.asSecs, Int32.ofNat deadline.subsecNanos⟩
  pure ⟨correlationId, some ⟨streamIdentifier, expected, some deadlineOption⟩,
    proposedMessages, true⟩

/-! ## The deadline of a request -/

/-- The deadline of the options, ten seconds where there is none. -/
def batchDeadline (options : CommonOperationOptions) : Duration :=
  options.deadline.getD (.fromSecs 10)

/-- A duration whose seconds fit an `i64` is written as it is. -/
theorem duration_value {d : Duration} (h : d.nanos < 2 ^ 63 * 1000000000) :
    Proto.Duration.value ⟨Int64.ofNat d.asSecs, Int32.ofNat d.subsecNanos⟩ = d.nanos := by
  have hsecs : (Int64.ofNat d.asSecs).toInt = d.asSecs := by
    apply Int64.toInt_ofNat_of_lt
    unfold Duration.asSecs
    omega
  have hnanos : (Int32.ofNat d.subsecNanos).toInt = d.subsecNanos := by
    apply Int32.toInt_ofNat_of_lt
    unfold Duration.subsecNanos
    omega
  unfold Proto.Duration.value
  simp only [hsecs, hnanos]
  unfold Duration.asSecs Duration.subsecNanos
  omega

section

variable {options : CommonOperationOptions} {now : SystemTime} {newV4 : Nat → Uuid} {req : Req}

/-- What the two checks on the way let through: the end of the deadline, as a time since the
epoch that an `i64` of seconds holds. -/
theorem endOfDeadline {d e : Duration} {t : SystemTime} (ht : now.checkedAdd d = some t)
    (he : t.durationSince .unixEpoch = some e) :
    (e.nanos : Int) = now.nanos + d.nanos ∧ now.nanos + d.nanos < 2 ^ 63 * 1000000000 := by
  unfold SystemTime.checkedAdd at ht
  split at ht
  next hlt =>
    cases ht
    unfold SystemTime.durationSince at he
    split at he
    next hle =>
      cases he
      have hz : SystemTime.unixEpoch.nanos = 0 := rfl
      rw [hz] at hle ⊢
      dsimp only at hle ⊢
      exact ⟨by omega, hlt⟩
    next => cases he
  next => cases ht

/-- The field that is named relative carries the point in time at which the deadline ends. -/
theorem batchAppendReq_eq_ret {m : Proto.BatchAppendReq}
    (h : batchAppendReq options now newV4 req = .ret m) :
    m.relativeDeadline = some (now.nanos + (batchDeadline options).nanos) ∧
      0 ≤ now.nanos + (batchDeadline options).nanos ∧
      now.nanos + (batchDeadline options).nanos < 2 ^ 63 * 1000000000 := by
  unfold batchAppendReq at h
  obtain ⟨t, ht, h⟩ := Call.bind_eq_ret h
  obtain ⟨e, he, h⟩ := Call.bind_eq_ret h
  obtain ⟨hval, hlt⟩ := endOfDeadline (Call.expect_eq_ret ht) (Call.expect_eq_ret he)
  cases h
  refine ⟨?_, ?_, hlt⟩
  · show some (Proto.Duration.value _) = _
    rw [duration_value (by omega), hval]
    rfl
  · unfold batchDeadline
    omega

/-- The stream goes on exactly when the end of the deadline is a time it can write. -/
theorem batchAppendReq_returns_iff :
    (∃ m, batchAppendReq options now newV4 req = .ret m) ↔
      0 ≤ now.nanos + (batchDeadline options).nanos ∧
      now.nanos + (batchDeadline options).nanos < 2 ^ 63 * 1000000000 := by
  constructor
  · rintro ⟨m, h⟩
    exact (batchAppendReq_eq_ret h).2
  · rintro ⟨hle, hlt⟩
    have ht : now.checkedAdd (batchDeadline options) =
        some ⟨_, by have := now.lower; omega, hlt⟩ := dif_pos hlt
    unfold batchDeadline at hle ht
    unfold batchAppendReq
    simp only [ht, Call.expect, Call.ret_bind]
    rw [SystemTime.durationSince, if_pos (by exact hle)]
    exact ⟨_, rfl⟩

end

/-- The same append, sent at two times, carries the deadline of the options both times. -/
def DeadlineAsConfigured (options : CommonOperationOptions) (req : Req)
    (newV4 newV4' : Nat → Uuid) (t t' : SystemTime) : Prop :=
  ∃ m m', batchAppendReq options t newV4 req = .ret m ∧
    batchAppendReq options t' newV4' req = .ret m' ∧
    m.relativeDeadline = some ((batchDeadline options).nanos : Int) ∧
    m'.relativeDeadline = some ((batchDeadline options).nanos : Int)

/-- **A batch deadline moves with the clock**: the request carries the configured deadline
only where the clock stands at the epoch and the deadline fits, and two requests carry the
same one only where the clock stood still. -/
theorem batch_deadline_as_configured_iff (options : CommonOperationOptions) (req : Req)
    (newV4 newV4' : Nat → Uuid) (t t' : SystemTime) :
    (DeadlineAsConfigured options req newV4 newV4' t t' ↔
      t = .unixEpoch ∧ t' = .unixEpoch ∧
      (batchDeadline options).nanos < 2 ^ 63 * 1000000000) ∧
    ∀ m m', batchAppendReq options t newV4 req = .ret m →
      batchAppendReq options t' newV4' req = .ret m' →
      (m.relativeDeadline = m'.relativeDeadline ↔ t = t') := by
  refine ⟨⟨?_, ?_⟩, ?_⟩
  · rintro ⟨m, m', hm, hm', hd, hd'⟩
    obtain ⟨hval, -, hlt⟩ := batchAppendReq_eq_ret hm
    rw [hval] at hd
    rw [(batchAppendReq_eq_ret hm').1] at hd'
    have h := Option.some.inj hd
    have h' := Option.some.inj hd'
    have ht : t.nanos = 0 := by omega
    have ht' : t'.nanos = 0 := by omega
    exact ⟨SystemTime.eq_unixEpoch_iff.mpr ht, SystemTime.eq_unixEpoch_iff.mpr ht', by omega⟩
  · rintro ⟨rfl, rfl, hlt⟩
    have hz : SystemTime.unixEpoch.nanos = 0 := rfl
    have hret (newV4 : Nat → Uuid) :
        ∃ m, batchAppendReq options .unixEpoch newV4 req = .ret m :=
      batchAppendReq_returns_iff.mpr (by rw [hz]; omega)
    obtain ⟨m, hm⟩ := hret newV4
    obtain ⟨m', hm'⟩ := hret newV4'
    refine ⟨m, m', hm, hm', ?_, ?_⟩
    · rw [(batchAppendReq_eq_ret hm).1, hz, Int.zero_add]
    · rw [(batchAppendReq_eq_ret hm').1, hz, Int.zero_add]
  · intro m m' hm hm'
    rw [(batchAppendReq_eq_ret hm).1, (batchAppendReq_eq_ret hm').1, SystemTime.eq_iff]
    constructor
    · intro h
      have h := Option.some.inj h
      omega
    · intro h
      rw [h]

/-- The summer of 2025, some seconds on. -/
def summer2025 (secs : Nat) (h : secs < 1000) : SystemTime :=
  .ofSecs (1750000000 + secs) (by omega)

/-- A deadline left at ten seconds is sent as one of fifty-five years, and as another one a
second later. -/
theorem batch_deadline_in_2025 :
    (∃ m m',
      batchAppendReq {} (summer2025 0 (by omega)) (fun _ => 0) ⟨7, "orders", [], .any⟩ = .ret m ∧
      batchAppendReq {} (summer2025 1 (by omega)) (fun _ => 0) ⟨7, "orders", [], .any⟩ = .ret m' ∧
      m.relativeDeadline = some 1750000010000000000 ∧
      m'.relativeDeadline = some 1750000011000000000) ∧
    ¬ DeadlineAsConfigured {} ⟨7, "orders", [], .any⟩ (fun _ => 0) (fun _ => 0)
      (summer2025 0 (by omega)) (summer2025 1 (by omega)) := by
  have hret (secs : Nat) (h : secs < 1000) : ∃ m,
      batchAppendReq {} (summer2025 secs h) (fun _ => 0) ⟨7, "orders", [], .any⟩ = .ret m := by
    apply batchAppendReq_returns_iff.mpr
    show (0 : Int) ≤ (1750000000 + secs : Nat) * 1000000000 + 10000000000 ∧
      (1750000000 + secs : Nat) * 1000000000 + 10000000000 < (2 ^ 63 * 1000000000 : Int)
    omega
  constructor
  · obtain ⟨m, hm⟩ := hret 0 (by omega)
    obtain ⟨m', hm'⟩ := hret 1 (by omega)
    exact ⟨m, m', hm, hm', (batchAppendReq_eq_ret hm).1, (batchAppendReq_eq_ret hm').1⟩
  · rintro ⟨m, m', hm, hm', hd, -⟩
    rw [(batchAppendReq_eq_ret hm).1] at hd
    cases hd

end Kurrent
