import Kurrent.Lib.Loop
import Kurrent.Streams.Position

/-!
# What the position parsers accept

A position text is `C:` and `/P:`, each before a decimal numeral below `2^64`. The parser
reads the longest one at the head of its input and leaves the rest unread, so that it
accepts more than the position texts: every one of them with text behind it that no digit
starts. The parsers that fall back on it inherit that.
-/

namespace Kurrent

open Lib

/-- Decimal digits, one at least, that denote `n`; leading zeros count for nothing. -/
structure NumeralOf (ds : List Char) (n : UInt64) : Prop where
  ne_nil : ds ≠ []
  digits : ∀ c ∈ ds, c.isDigit = true
  value : Nat.ofDigitChars 10 ds 0 = n.toNat

def PositionText (s : List Char) (p : Position) : Prop :=
  ∃ commit prepare, NumeralOf commit p.commit ∧ NumeralOf prepare p.prepare ∧
    s = "C:".toList ++ (commit ++ ("/P:".toList ++ prepare))

/-- What a numeral before it does not run into. -/
def NoDigitFirst (rest : List Char) : Prop := ∀ c ∈ rest.head?, c.isDigit = false

/-- A position text with more behind it. -/
def TrailingText (s : String) : Prop :=
  ∃ t p rest, PositionText t p ∧ NoDigitFirst rest ∧ rest ≠ [] ∧ s.toList = t ++ rest

/-! ## What one combinator reads -/

theorem tag_eq_some {t input rest : List Char} (h : tag t input = some rest) :
    input = t ++ rest := by
  induction t generalizing input with
  | nil => cases h; rfl
  | cons c t ih =>
    cases input with
    | nil => cases h
    | cons d input =>
      rw [tag] at h
      split at h
      next hc => rw [hc, ih h]; rfl
      next => cases h

theorem takeDigits_eq_some {input rest : List Char} {n : Nat} :
    ∀ {acc : Nat}, acc < 2 ^ 64 → takeDigits acc input = some (n, rest) →
      ∃ ds, (∀ c ∈ ds, c.isDigit = true) ∧ Nat.ofDigitChars 10 ds acc = n ∧ n < 2 ^ 64 ∧
        input = ds ++ rest ∧ NoDigitFirst rest := by
  induction input with
  | nil =>
    intro acc hacc h
    cases h
    exact ⟨[], by simp, rfl, hacc, rfl, by simp [NoDigitFirst]⟩
  | cons c input ih =>
    intro acc hacc h
    rw [takeDigits] at h
    split at h
    next hc =>
      dsimp only at h
      split at h
      next => cases h
      next hlt =>
        obtain ⟨ds, hds, hn, hlt', hin, hrest⟩ := ih (by omega) h
        refine ⟨c :: ds, ?_, ?_, hlt', by rw [hin]; rfl, hrest⟩
        · intro d hd
          rcases List.mem_cons.mp hd with rfl | hd
          · exact hc
          · exact hds d hd
        · rw [Nat.ofDigitChars_cons, hn]
    next hc =>
      cases h
      refine ⟨[], by simp, rfl, hacc, rfl, ?_⟩
      intro d hd
      cases hd
      exact Bool.eq_false_iff.mpr hc

/-- The number parser reads the longest numeral at the head of its input. -/
theorem nomU64_eq_some {input rest : List Char} {n : UInt64} :
    nomU64 input = some (n, rest) ↔
      ∃ ds, NumeralOf ds n ∧ input = ds ++ rest ∧ NoDigitFirst rest := by
  constructor
  · intro h
    cases input with
    | nil => cases h
    | cons c input =>
      rw [nomU64] at h
      split at h
      next hc =>
        obtain ⟨⟨v, r⟩, hv, heq⟩ := Option.map_eq_some_iff.mp h
        cases heq
        obtain ⟨ds, hds, hval, hlt, hin, hrest⟩ := takeDigits_eq_some (by omega) hv
        refine ⟨ds, ⟨?_, hds, ?_⟩, hin, hrest⟩
        · rintro rfl
          -- the first character is a digit, so it is not what the reader stopped at
          have hstop := hrest c (by rw [← List.nil_append r, ← hin]; rfl)
          rw [hstop] at hc
          cases hc
        · rw [hval, UInt64.toNat_ofNat_of_lt' hlt]
      next => cases h
  · rintro ⟨ds, ⟨hne, hds, hval⟩, rfl, hrest⟩
    have hlt : Nat.ofDigitChars 10 ds 0 < 2 ^ 64 := by rw [hval]; exact n.toNat_lt
    have ht := takeDigits_append hds hrest hlt
    cases ds with
    | nil => exact absurd rfl hne
    | cons c ds =>
      rw [List.cons_append, nomU64, if_pos (hds c (by simp)), ← List.cons_append, ht, hval]
      simp

/-! ## The position parser -/

theorem noDigitFirst_slash (rest : List Char) : NoDigitFirst ("/P:".toList ++ rest) := by
  intro c hc
  cases hc
  rfl

theorem parsePositionStartFrom_eq_some {input rest : List Char} {p : Position} :
    parsePositionStartFrom input = some (rest, p) ↔
      ∃ t, PositionText t p ∧ input = t ++ rest ∧ NoDigitFirst rest := by
  constructor
  · intro h
    unfold parsePositionStartFrom at h
    obtain ⟨in₁, h₁, h⟩ := Option.bind_eq_some_iff.mp h
    obtain ⟨⟨commit, in₂⟩, h₂, h⟩ := Option.bind_eq_some_iff.mp h
    obtain ⟨in₃, h₃, h⟩ := Option.bind_eq_some_iff.mp h
    obtain ⟨⟨prepare, in₄⟩, h₄, h⟩ := Option.bind_eq_some_iff.mp h
    cases h
    obtain ⟨d₁, hd₁, rfl, -⟩ := nomU64_eq_some.mp h₂
    obtain ⟨d₂, hd₂, rfl, hrest⟩ := nomU64_eq_some.mp h₄
    refine ⟨_, ⟨d₁, d₂, hd₁, hd₂, rfl⟩, ?_, hrest⟩
    rw [tag_eq_some h₁, tag_eq_some h₃]
    simp only [List.append_assoc]
  · rintro ⟨t, ⟨d₁, d₂, hd₁, hd₂, rfl⟩, rfl, hrest⟩
    have h₁ := nomU64_eq_some.mpr ⟨d₁, hd₁, rfl, noDigitFirst_slash (d₂ ++ rest)⟩
    have h₂ := nomU64_eq_some.mpr ⟨d₂, hd₂, rfl, hrest⟩
    unfold parsePositionStartFrom
    simp only [List.append_assoc]
    rw [tag_append]
    simp only [Option.bind_eq_bind, Option.bind_some]
    rw [h₁]
    simp only [Option.bind_some]
    rw [tag_append]
    simp only [Option.bind_some]
    rw [h₂]
    rfl

theorem parsePosition_eq_ok {s : String} {p : Position} :
    parsePosition s = .ok p ↔
      ∃ t rest, PositionText t p ∧ s.toList = t ++ rest ∧ NoDigitFirst rest := by
  unfold parsePosition
  constructor
  · intro h
    split at h
    next rest pos hp =>
      cases h
      obtain ⟨t, ht, hs, hrest⟩ := parsePositionStartFrom_eq_some.mp hp
      exact ⟨t, rest, ht, hs, hrest⟩
    next => cases h
  · rintro ⟨t, rest, ht, hs, hrest⟩
    rw [parsePositionStartFrom_eq_some.mpr ⟨t, ht, hs, hrest⟩]

/-- The reading of a text is one: the same input has no second split. -/
theorem PositionText.rest_unique {t t' rest rest' : List Char} {p p' : Position}
    (h : PositionText t p) (hr : NoDigitFirst rest) (h' : PositionText t' p')
    (hr' : NoDigitFirst rest') (heq : t ++ rest = t' ++ rest') : rest = rest' ∧ p = p' := by
  have hp := parsePositionStartFrom_eq_some.mpr ⟨t, h, rfl, hr⟩
  rw [heq, parsePositionStartFrom_eq_some.mpr ⟨t', h', rfl, hr'⟩] at hp
  cases hp
  exact ⟨rfl, rfl⟩

/-! ## The parsers that fall back on it -/

/-- `PositionVisitor::visit_str`. -/
def Position.visitStr (v : String) : Except DeError Position :=
  match parsePosition v with
  | .ok v => .ok v
  | .error _ => .error (.custom s!"can't parse a transaction log position out of this: '{v}'")

theorem visitStr_eq_ok {s : String} {p : Position} :
    Position.visitStr s = .ok p ↔ parsePosition s = .ok p := by
  unfold Position.visitStr
  cases parsePosition s with
  | ok q => simp
  | error e => simp

def IsU64Text (s : String) : Prop := ∃ n, parseUnsigned (2 ^ 64 - 1) s = .ok n

theorem parseRevisionOrPosition_eq_ok {s : String} {v : RevisionOrPosition}
    (h : parseRevisionOrPosition s = .ok v) : IsU64Text s ∨ ∃ p, parsePosition s = .ok p := by
  unfold parseRevisionOrPosition at h
  split at h
  next n hn => exact .inl ⟨n, hn⟩
  next =>
    split at h
    next p hp => exact .inr ⟨p, hp⟩
    next => cases h

theorem parseStreamPosition_eq_ok {s : String} {v : StreamPosition RevisionOrPosition}
    (h : parseStreamPosition s = .ok v) :
    s ∈ ["-1", "C:-1/P:-1", "0", "C:0/P:0"] ∨ IsU64Text s ∨ ∃ p, parsePosition s = .ok p := by
  unfold parseStreamPosition at h
  split at h
  next hend =>
    rcases hend with rfl | rfl <;> simp
  next =>
    split at h
    next hstart =>
      rcases hstart with rfl | rfl <;> simp
    next =>
      obtain ⟨v', hv', -⟩ := map_eq_ok h
      exact .inr (parseRevisionOrPosition_eq_ok hv')

/-- A text is read for what it is: as a position exactly when it is one, and otherwise only
as a `u64` or as one of the names of the end and of the start. -/
structure ReadExactly (s : String) : Prop where
  position : ∀ p, parsePosition s = .ok p ↔ PositionText s.toList p
  visitor : ∀ p, Position.visitStr s = .ok p ↔ PositionText s.toList p
  revisionOrPosition : ∀ v, parseRevisionOrPosition s = .ok v →
    IsU64Text s ∨ ∃ p, PositionText s.toList p
  streamPosition : ∀ v, parseStreamPosition s = .ok v →
    s ∈ ["-1", "C:-1/P:-1", "0", "C:0/P:0"] ∨ IsU64Text s ∨ ∃ p, PositionText s.toList p

theorem parsePosition_of_not_trailing {s : String} (h : ¬ TrailingText s) (p : Position) :
    parsePosition s = .ok p ↔ PositionText s.toList p := by
  rw [parsePosition_eq_ok]
  constructor
  · rintro ⟨t, rest, ht, hs, hrest⟩
    cases rest with
    | nil =>
      rw [List.append_nil] at hs
      rw [hs]
      exact ht
    | cons c rest => exact absurd ⟨t, p, c :: rest, ht, hrest, by simp, hs⟩ h
  · intro ht
    exact ⟨s.toList, [], ht, by simp, by simp [NoDigitFirst]⟩

/-- A text with a position at its head is taken for that position. -/
theorem not_readExactly {s : String} {p : Position} {t rest : List Char}
    (ht : PositionText t p) (hrest : NoDigitFirst rest) (hne : rest ≠ [])
    (hs : s.toList = t ++ rest) : ¬ ReadExactly s := by
  intro h
  have hp := (h.position p).mp (parsePosition_eq_ok.mpr ⟨t, rest, ht, hs, hrest⟩)
  -- the whole text and its head would both be position texts
  have huniq : rest = [] ∧ p = p :=
    ht.rest_unique hrest hp (by simp [NoDigitFirst]) (by simp [hs])
  exact hne huniq.1

/-- **When a position is read exactly**: the text of a position is accepted, and nothing
else is, unless the input is a position text with text behind it that no digit starts. Such
an input is always taken for the position at its head. -/
theorem positions_read_exactly (s : String) : ReadExactly s ↔ ¬ TrailingText s := by
  constructor
  · rintro h ⟨t, p, rest, ht, hrest, hne, hs⟩
    exact not_readExactly ht hrest hne hs h
  · intro h
    have hpos := parsePosition_of_not_trailing h
    refine ⟨hpos, fun p => visitStr_eq_ok.trans (hpos p), fun v hv => ?_, fun v hv => ?_⟩
    · rcases parseRevisionOrPosition_eq_ok hv with hu | ⟨p, hp⟩
      · exact .inl hu
      · exact .inr ⟨p, (hpos p).mp hp⟩
    · rcases parseStreamPosition_eq_ok hv with hk | hu | ⟨p, hp⟩
      · exact .inl hk
      · exact .inr (.inl hu)
      · exact .inr (.inr ⟨p, (hpos p).mp hp⟩)

/-- The text behind the second number is dropped without a word. -/
theorem positions_read_exactly_trailing :
    parsePosition "C:1/P:2xyz" = .ok ⟨1, 2⟩ ∧
      parseStreamPosition "C:1/P:2xyz" = .ok (.position (.position ⟨1, 2⟩)) ∧
      ¬ ReadExactly "C:1/P:2xyz" := by
  have ht : PositionText "C:1/P:2".toList ⟨1, 2⟩ :=
    ⟨['1'], ['2'], ⟨by simp, by simp, by rfl⟩, ⟨by simp, by simp, by rfl⟩, by rfl⟩
  have hrest : NoDigitFirst "xyz".toList := by simp [NoDigitFirst]
  exact ⟨by rfl, by rfl, not_readExactly ht hrest (by simp) (by rfl)⟩

end Kurrent
