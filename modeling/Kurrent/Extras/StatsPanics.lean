import Kurrent.Extras.Queues

/-!
# Keys the statistics parser panics at

The arms for drives and queues are chosen by a prefix, and split what stands behind it at a
hyphen with an `unwrap`. A key without one ends the parser in a panic; of all the others it
makes a record or an `InternalParsingError`, and a key that no arm is for it passes by.
-/

namespace Kurrent.Extras

open Lib

variable {N : Numerals}

/-- A record, or an `InternalParsingError`. -/
def Returns (r : ParsedStats N) : Prop :=
  (∃ stats, r = .ret (.ok stats)) ∨
    ∃ message, r = .ret (.error (.internalParsingError message))

/-- A key that one of the arms is for. -/
def knownKey (N : Numerals) (key : String) : Bool :=
  ((Metric.readers N).lookup key).isSome || (stripPrefix "sys-drive-" key).isSome ||
    (stripPrefix "es-queue-" key).isSome

/-- In every order of the map the parser returns, and does so as if the keys nobody knows
were not there. -/
structure ParsesSafely (N : Numerals) (raw : RawStatistics) : Prop where
  returns : ∀ order : Visit raw, Returns (parseStatistics N order)
  ignores : ∀ order : Visit raw,
    parseEntries {} (order.entries.filter fun e => knownKey N e.1) = parseStatistics N order

/-- Behind the prefix of a drive or a queue there is a hyphen. -/
def KeySplits (key : String) : Prop :=
  ∀ rest, key = "sys-drive-" ++ rest ∨ key = "es-queue-" ++ rest → '-' ∈ rest.toList

section

variable {s : Statistics N} {key value : String}

/-! ## One entry -/

theorem statError_returns (key value err : String) :
    Returns (.ret (.error (statError key value err)) : ParsedStats N) := .inr ⟨_, rfl⟩

theorem rsplitOnce_isSome {c : Char} {text : String} (h : c ∈ text.toList) :
    ∃ p, rsplitOnce c text = some p := by
  rcases rsplitOnce_cases c text with ⟨hnot, -⟩ | ⟨a, b, -, -, heq⟩
  · exact absurd h hnot
  · exact ⟨_, heq⟩

theorem parseDriveMetric_returns (drive : Drive) (h : '-' ∈ key.toList) :
    Returns (parseDriveMetric s drive key value) := by
  obtain ⟨p, hp⟩ := rsplitOnce_isSome h
  unfold parseDriveMetric
  rw [hp]
  simp only [Call.expect, Call.ret_bind]
  cases DriveMetric.readers.lookup p.2 with
  | none => exact .inl ⟨_, rfl⟩
  | some read =>
    simp only
    cases read value with
    | ok m => exact .inl ⟨_, rfl⟩
    | error err => exact statError_returns key value err

theorem parseDrive_returns {rest : String} (hkey : '-' ∈ key.toList) (hrest : '-' ∈ rest.toList) :
    Returns (parseDrive s key rest value) := by
  unfold parseDrive
  cases s.sys.drive with
  | some drive => exact parseDriveMetric_returns drive hkey
  | none =>
    cases hs : splitOnce '-' rest with
    | none => exact absurd hrest (splitOnce_eq_none.mp hs)
    | some p => exact parseDriveMetric_returns { path := p.1 } hkey

theorem parseQueue_returns {rest : String} (hrest : '-' ∈ rest.toList) :
    Returns (parseQueue s key rest value) := by
  obtain ⟨p, hp⟩ := rsplitOnce_isSome hrest
  unfold parseQueue
  rw [hp]
  simp only [Call.expect, Call.ret_bind]
  cases (QueueMetric.readers N).lookup p.2 with
  | none => exact .inl ⟨_, rfl⟩
  | some read =>
    simp only
    cases read value with
    | error err => exact statError_returns key value err
    | ok m =>
      cases m with
      | none => exact .inl ⟨_, rfl⟩
      | some m => exact .inl ⟨_, rfl⟩

/-- An entry whose key can be split is read or refused. -/
theorem parseEntry_returns (h : KeySplits key) (s : Statistics N) (value : String) :
    Returns (parseEntry s key value) := by
  unfold parseEntry
  cases (Metric.readers N).lookup key with
  | some read =>
    simp only
    cases read value with
    | ok m => exact .inl ⟨_, rfl⟩
    | error err => exact statError_returns key value err
  | none =>
    simp only
    cases hdrive : stripPrefix "sys-drive-" key with
    | some rest =>
      have hkey : '-' ∈ key.toList := by rw [stripPrefix_eq hdrive]; simp
      exact parseDrive_returns hkey (h rest (.inl (stripPrefix_eq hdrive)))
    | none =>
      simp only
      cases hqueue : stripPrefix "es-queue-" key with
      | some rest => exact parseQueue_returns (h rest (.inr (stripPrefix_eq hqueue)))
      | none => exact .inl ⟨_, rfl⟩

/-- At a key that cannot be split the empty record panics. -/
theorem parseEntry_panics (h : ¬ KeySplits key) :
    parseEntry ({} : Statistics N) key value =
      .panic "called `Option::unwrap()` on a `None` value" := by
  unfold KeySplits at h
  push Not at h
  obtain ⟨rest, hkey, hrest⟩ := h
  unfold parseEntry
  rw [lookup_readers_prefixed hkey]
  simp only
  rcases hkey with rfl | rfl
  · rw [stripPrefix_append]
    simp only [parseDrive]
    rw [splitOnce_eq_none.mpr hrest]
    rfl
  · rw [stripPrefix_drive_queue, stripPrefix_append]
    simp only [parseQueue]
    rcases rsplitOnce_cases '-' rest with ⟨-, hnone⟩ | ⟨a, b, -, hs, -⟩
    · rw [hnone]; rfl
    · exact absurd (by rw [hs]; simp) hrest

/-- A key nobody knows changes nothing. -/
theorem parseEntry_unknown (h : knownKey N key = false) :
    parseEntry s key value = .ret (.ok s) := by
  unfold knownKey at h
  simp only [Bool.or_eq_false_iff, Option.isSome_eq_false_iff, Option.isNone_iff_eq_none] at h
  unfold parseEntry
  rw [h.1.1, h.1.2, h.2]

end

/-! ## The whole map -/

theorem parseEntries_returns {es : List (String × String)} (h : ∀ e ∈ es, KeySplits e.1) :
    ∀ s : Statistics N, Returns (parseEntries s es) := by
  induction es with
  | nil => exact fun s => .inl ⟨s, rfl⟩
  | cons e es ih =>
    obtain ⟨key, value⟩ := e
    intro s
    unfold parseEntries
    rcases parseEntry_returns (h (key, value) (by simp)) s value with ⟨t, ht⟩ | ⟨message, he⟩
    · rw [ht]
      exact ih (fun e he => h e (by simp [he])) t
    · rw [he]
      exact .inr ⟨message, rfl⟩

theorem parseEntries_filter (es : List (String × String)) :
    ∀ s : Statistics N, parseEntries s (es.filter fun e => knownKey N e.1) = parseEntries s es := by
  induction es with
  | nil => exact fun _ => rfl
  | cons e es ih =>
    obtain ⟨key, value⟩ := e
    intro s
    rw [List.filter_cons]
    cases hknown : knownKey N key with
    | true =>
      simp only [if_true, parseEntries]
      cases parseEntry s key value with
      | panic m => rfl
      | ret r =>
        cases r with
        | error e => rfl
        | ok t => exact ih t
    | false =>
      simp only [parseEntries, parseEntry_unknown hknown]
      exact ih s

/-- **The statistics parser panics at a key it cannot split, and nowhere else**: it returns
a record or an `InternalParsingError` in every order of the map, keys nobody knows passed by,
exactly when every key of a drive or a queue has a hyphen behind its prefix. -/
theorem parses_safely_iff (N : Numerals) (raw : RawStatistics) :
    ParsesSafely N raw ↔ ∀ key ∈ raw, KeySplits key := by
  constructor
  · intro h key hkey
    by_contra hsplit
    obtain ⟨value, hvalue⟩ := Finmap.mem_iff.mp hkey
    obtain ⟨order⟩ := Visit.nonempty raw
    -- the order that comes to the key first
    obtain ⟨w, hw⟩ := order.exists_first hvalue
    have hpanic : parseStatistics N w = .panic "called `Option::unwrap()` on a `None` value" := by
      unfold parseStatistics
      rw [hw, parseEntries, parseEntry_panics hsplit]
    rcases h.returns w with ⟨stats, hret⟩ | ⟨message, hret⟩
    · rw [hpanic] at hret; cases hret
    · rw [hpanic] at hret; cases hret
  · intro h
    refine ⟨fun order => ?_, fun order => parseEntries_filter order.entries {}⟩
    exact parseEntries_returns (fun e he => h e.1 (order.mem_of_entry he)) {}

/-- A server that counts a queue as such. -/
def plainQueue : AList fun _ : String => String := AList.singleton "es-queue-length" "5"

def plainQueueOrder : Visit plainQueue.toFinmap := ⟨plainQueue, rfl⟩

/-- Without a name between the prefix and the metric there is no hyphen to split at. -/
theorem plain_queue_panics :
    parseStatistics noNumerals plainQueueOrder =
      .panic "called `Option::unwrap()` on a `None` value" ∧
    ¬ ParsesSafely noNumerals plainQueue.toFinmap := by
  have hpanic : parseStatistics noNumerals plainQueueOrder =
      .panic "called `Option::unwrap()` on a `None` value" := by rfl
  refine ⟨hpanic, fun h => ?_⟩
  rcases h.returns plainQueueOrder with ⟨stats, hret⟩ | ⟨message, hret⟩
  · rw [hpanic] at hret; cases hret
  · rw [hpanic] at hret; cases hret

end Kurrent.Extras
