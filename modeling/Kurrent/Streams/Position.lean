import Kurrent.Lib.Json
import Kurrent.Types

/-!
# Positions as text and as JSON

A place in a stream or in the transaction file crosses the wire in three forms: a JSON
number, a position text `C:<commit>/P:<prepare>`, and the plain text of the gRPC messages.
The parsers of `event_store/generated.rs` read the texts, the visitors of `types.rs` the
JSON. `-1` and `C:-1/P:-1` stand for the end, `0` and `C:0/P:0` for the start.
-/

namespace Kurrent

open Lib

/-- `Display` for `Position`. -/
def Position.text (p : Position) : String :=
  "C:" ++ p.commit.toNat.repr ++ "/P:" ++ p.prepare.toNat.repr

inductive RevisionOrPosition where
  | revision (rev : UInt64)
  | position (pos : Position)
  deriving DecidableEq, Repr

/-! ## Text parsers -/

/-- `nom::bytes::complete::tag`, for the input after the tag. -/
def tag : List Char → List Char → Option (List Char)
  | [], input => some input
  | _ :: _, [] => none
  | t :: ts, c :: cs => if t = c then tag ts cs else none

/-- The digits at the head of the input; a value past `u64::MAX` is an error. -/
def takeDigits : Nat → List Char → Option (Nat × List Char)
  | value, [] => some (value, [])
  | value, c :: cs =>
    if c.isDigit then
      let value' := 10 * value + (c.toNat - '0'.toNat)
      if 2 ^ 64 ≤ value' then none else takeDigits value' cs
    else some (value, c :: cs)

/-- `nom::character::complete::u64`: one digit at least, then as many as there are. -/
def nomU64 : List Char → Option (UInt64 × List Char)
  | [] => none
  | c :: cs =>
    if c.isDigit then (takeDigits 0 (c :: cs)).map fun r => (UInt64.ofNat r.1, r.2)
    else none

def parsePositionStartFrom (input : List Char) : Option (List Char × Position) := do
  let input ← tag "C:".toList input
  let (commit, input) ← nomU64 input
  let input ← tag "/P:".toList input
  let (prepare, input) ← nomU64 input
  return (input, ⟨commit, prepare⟩)

/-- What follows the position in the text is left unread. -/
def parsePosition (input : String) : Except Error Position :=
  match parsePositionStartFrom input.toList with
  | some (_, pos) => .ok pos
  | none => .error (.internalParsingError
      s!"Failed to parse a transaction log position: '{input}'")

def parseRevisionOrPosition (input : String) : Except Error RevisionOrPosition :=
  match parseUnsigned (2 ^ 64 - 1) input with
  | .ok v => .ok (.revision (UInt64.ofNat v))
  | .error _ =>
    match parsePosition input with
    | .ok pos => .ok (.position pos)
    | .error _ => .error (.internalParsingError
        s!"Failed to parse either a stream revision or a transaction log position: '{input}'")

def parseStreamPosition (input : String) : Except Error (StreamPosition RevisionOrPosition) :=
  if input = "-1" ∨ input = "C:-1/P:-1" then .ok .end
  else if input = "0" ∨ input = "C:0/P:0" then .ok .start
  else (parseRevisionOrPosition input).map .position

/-! ## JSON -/

namespace StreamPosition

def serialize : StreamPosition RevisionOrPosition → Json
  | .start => Json.ofInt64 0
  | .position (.revision rev) => Json.ofUInt64 rev
  | .position (.position p) => .string p.text
  | .end => Json.ofInt64 (-1)

/-- A negative number other than `-1` is cast to `u64`. -/
def visitI64 (v : Int) : StreamPosition RevisionOrPosition :=
  if v = -1 then .end
  else if v = 0 then .start
  else .position (.revision (UInt64.ofInt v))

def visitU64 (v : UInt64) : StreamPosition RevisionOrPosition :=
  if v = 0 then .start else .position (.revision v)

def visitStr (v : String) : Except DeError (StreamPosition RevisionOrPosition) :=
  match parseStreamPosition v with
  | .ok v => .ok v
  | .error _ => .error (.custom s!"can't parse a revision or a position out of this: '{v}'")

def deserialize : Json.Decoder (StreamPosition RevisionOrPosition)
  | .number (.posInt n) => .ok (visitU64 n)
  | .number (.negSucc n) => .ok (visitI64 (Int.negSucc n))
  | .string s => visitStr s
  | _ => .error (.invalidType "Expecting a revision number or a transaction log position")

end StreamPosition

/-! ## Reading back what was written -/

theorem tag_append (t rest : List Char) : tag t (t ++ rest) = some rest := by
  induction t with
  | nil => rfl
  | cons c t ih => simpa [tag] using ih

theorem takeDigits_append {ds rest : List Char} (hd : ∀ c ∈ ds, c.isDigit = true)
    (hr : ∀ c ∈ rest.head?, c.isDigit = false) :
    ∀ {acc : Nat}, Nat.ofDigitChars 10 ds acc < 2 ^ 64 →
      takeDigits acc (ds ++ rest) = some (Nat.ofDigitChars 10 ds acc, rest) := by
  induction ds with
  | nil =>
    intro acc _
    cases rest with
    | nil => rfl
    | cons c cs => simp [takeDigits, hr c (by simp)]
  | cons c ds ih =>
    intro acc hv
    rw [Nat.ofDigitChars_cons] at hv ⊢
    have hle := le_ofDigitChars ds (10 * acc + (c.toNat - '0'.toNat))
    have hlt : ¬ 2 ^ 64 ≤ 10 * acc + (c.toNat - '0'.toNat) := by omega
    simp only [List.cons_append, takeDigits, hd c (by simp), if_true]
    rw [if_neg hlt]
    exact ih (fun c' hc' => hd c' (by simp [hc'])) hv

/-- The decimal text of a `u64` is read to its end. -/
theorem nomU64_repr (n : UInt64) {rest : List Char} (hr : ∀ c ∈ rest.head?, c.isDigit = false) :
    nomU64 (n.toNat.repr.toList ++ rest) = some (n, rest) := by
  have hd : ∀ c ∈ n.toNat.repr.toList, c.isDigit = true := by
    rw [Nat.toList_repr]
    exact fun c => Nat.isDigit_of_mem_toDigits (by decide) (by decide)
  have hv : Nat.ofDigitChars 10 n.toNat.repr.toList 0 = n.toNat := by
    rw [Nat.toList_repr, Nat.ofDigitChars_ten_toDigits]
  have hlt : Nat.ofDigitChars 10 n.toNat.repr.toList 0 < 2 ^ 64 := by
    rw [hv]; exact n.toNat_lt
  have ht := takeDigits_append hd hr hlt
  rw [hv] at ht
  cases hl : n.toNat.repr.toList with
  | nil => exact absurd hl (by rw [Nat.toList_repr]; exact Nat.toDigits_ne_nil)
  | cons c cs =>
    rw [hl] at ht hd
    rw [List.cons_append, nomU64, if_pos (hd c (by simp)), ← List.cons_append, ht]
    simp

theorem Position.toList_text (p : Position) :
    p.text.toList = "C:".toList ++ (p.commit.toNat.repr.toList ++
      ("/P:".toList ++ (p.prepare.toNat.repr.toList ++ []))) := by
  simp [Position.text]

theorem parsePositionStartFrom_text (p : Position) :
    parsePositionStartFrom p.text.toList = some ([], p) := by
  rw [p.toList_text]
  unfold parsePositionStartFrom
  rw [tag_append]
  simp only [Option.bind_eq_bind, Option.bind_some]
  rw [nomU64_repr p.commit (by simp)]
  simp only [Option.bind_some]
  rw [tag_append]
  simp only [Option.bind_some]
  rw [nomU64_repr p.prepare (by simp)]
  rfl

theorem parsePosition_text (p : Position) : parsePosition p.text = .ok p := by
  unfold parsePosition
  rw [parsePositionStartFrom_text]

theorem Position.text_inj {p q : Position} (h : p.text = q.text) : p = q := by
  have hp := parsePosition_text p
  rw [h, parsePosition_text q] at hp
  cases hp
  rfl

theorem Position.notMem_text {p : Position} {c : Char} (hd : c.isDigit = false)
    (ht : c ∉ "C:/P:".toList) : c ∉ p.text.toList := by
  have h1 : c ∉ p.commit.toNat.repr.toList := notMem_repr hd
  have h2 : c ∉ p.prepare.toNat.repr.toList := notMem_repr hd
  rw [p.toList_text]
  simp only [List.mem_append, h1, h2, List.not_mem_nil, or_false, false_or, not_or]
  simp at ht
  simp [ht]

theorem parseRevisionOrPosition_repr (n : UInt64) :
    parseRevisionOrPosition n.toNat.repr = .ok (.revision n) := by
  have hle : n.toNat ≤ 2 ^ 64 - 1 := by have := n.toNat_lt; omega
  unfold parseRevisionOrPosition
  rw [parseUnsigned_repr hle]
  simp

/-- A position text is not a number, so the second parser reads it. -/
theorem parseRevisionOrPosition_text (p : Position) :
    parseRevisionOrPosition p.text = .ok (.position p) := by
  have hu : parseUnsigned (2 ^ 64 - 1) p.text = .error .invalidDigit := by
    unfold parseUnsigned
    rw [p.toList_text]
    simp [parseDigits]
  unfold parseRevisionOrPosition
  rw [hu, parsePosition_text]

/-! ## The codec -/

namespace StreamPosition

/-- The place a reader is left with: revision and position zero are the start. -/
def place (s : StreamPosition RevisionOrPosition) : StreamPosition RevisionOrPosition :=
  if s = .position (.revision 0) ∨ s = .position (.position ⟨0, 0⟩) then .start else s

/-- The decimal and position texts that stand for a place. -/
def texts : StreamPosition RevisionOrPosition → List String
  | .start => ["0", "C:0/P:0"]
  | .end => ["-1", "C:-1/P:-1"]
  | .position (.revision rev) => [rev.toNat.repr]
  | .position (.position p) => [p.text]

theorem parseStreamPosition_repr (rev : UInt64) :
    parseStreamPosition rev.toNat.repr = .ok (place (.position (.revision rev))) := by
  have hminus : '-' ∉ rev.toNat.repr.toList := notMem_repr (by decide)
  have hC : 'C' ∉ rev.toNat.repr.toList := notMem_repr (by decide)
  have hend : ¬ (rev.toNat.repr = "-1" ∨ rev.toNat.repr = "C:-1/P:-1") := by
    rintro (h | h) <;> simp [h] at hminus
  unfold parseStreamPosition
  rw [if_neg hend]
  by_cases h0 : rev = 0
  · subst h0; rfl
  · have hstart : ¬ (rev.toNat.repr = "0" ∨ rev.toNat.repr = "C:0/P:0") := by
      rintro (h | h)
      · have hr := parseRevisionOrPosition_repr rev
        rw [h] at hr
        exact h0 (by cases hr; rfl)
      · simp [h] at hC
    rw [if_neg hstart, parseRevisionOrPosition_repr]
    simp [place, h0, Except.map]

theorem parseStreamPosition_text (p : Position) :
    parseStreamPosition p.text = .ok (place (.position (.position p))) := by
  have hminus : '-' ∉ p.text.toList := Position.notMem_text (by decide) (by decide)
  have hC : 'C' ∈ p.text.toList := by simp [Position.text]
  have hend : ¬ (p.text = "-1" ∨ p.text = "C:-1/P:-1") := by
    rintro (h | h) <;> simp [h] at hminus
  unfold parseStreamPosition
  rw [if_neg hend]
  by_cases h0 : p = ⟨0, 0⟩
  · subst h0; rfl
  · have hstart : ¬ (p.text = "0" ∨ p.text = "C:0/P:0") := by
      rintro (h | h)
      · simp [h] at hC
      · exact h0 (Position.text_inj (h.trans rfl))
    rw [if_neg hstart, parseRevisionOrPosition_text]
    simp [place, h0, Except.map]

theorem parseStreamPosition_texts {s : StreamPosition RevisionOrPosition} {t : String}
    (ht : t ∈ s.texts) : parseStreamPosition t = .ok s.place := by
  match s with
  | .start | .end =>
    simp only [texts, List.mem_cons, List.not_mem_nil, or_false] at ht
    rcases ht with rfl | rfl <;> rfl
  | .position (.revision rev) =>
    rw [List.mem_singleton.mp ht]
    exact parseStreamPosition_repr rev
  | .position (.position p) =>
    rw [List.mem_singleton.mp ht]
    exact parseStreamPosition_text p

theorem deserialize_serialize (s : StreamPosition RevisionOrPosition) :
    deserialize s.serialize = .ok s.place := by
  match s with
  | .start | .end => rfl
  | .position (.revision rev) => simp [serialize, Json.ofUInt64, deserialize, visitU64, place]
  | .position (.position p) =>
    simp only [serialize, deserialize, visitStr]
    rw [parseStreamPosition_text]

/-- **Positions survive every form they are written in**: the text of a position reads
back, a place reads back from JSON up to the names of the start, and the text parser gives
what the JSON decoder gives; `-1` and `C:-1/P:-1` are the end for both. -/
theorem position_codec :
    (∀ p : Position, parsePosition p.text = .ok p) ∧
    (∀ s : StreamPosition RevisionOrPosition,
      deserialize s.serialize = .ok s.place ∧
      ∀ t ∈ s.texts, parseStreamPosition t = .ok s.place) ∧
    (∀ t ∈ ["-1", "C:-1/P:-1"],
      parseStreamPosition t = .ok .end ∧ deserialize (.string t) = .ok .end) ∧
    deserialize (Json.ofInt64 (-1)) = .ok .end := by
  refine ⟨parsePosition_text, fun s => ⟨deserialize_serialize s, ?_⟩, ?_, rfl⟩
  · exact fun t ht => parseStreamPosition_texts ht
  · intro t ht
    simp only [List.mem_cons, List.not_mem_nil, or_false] at ht
    rcases ht with rfl | rfl <;> exact ⟨rfl, rfl⟩

end StreamPosition

end Kurrent
