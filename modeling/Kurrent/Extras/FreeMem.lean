import Kurrent.Extras.StatsOrder

/-!
# The free memory of the statistics

`sys-freeMem` is an unsigned amount that a server may report below zero. It is read as an
`i64` first, and as an `usize` where it is too large for that, so that what is made of a text
changes at the ends of both types. The text is a decimal integer of any length here.
-/

namespace Kurrent.Extras

open Lib

variable {N : Numerals}

/-- **The amount is read as it is**, but for one below zero, which is none. -/
theorem readFreeMem_text (t : IntText) :
    readFreeMem t.text =
      if t.value < 2 ^ 64 then .ok t.value.toNat else .error (intErrorText .posOverflow) := by
  have hval : t.sign ≠ some .minus → t.value = t.abs := IntText.value_of_not_minus
  unfold readFreeMem
  rw [parseSigned_text]
  by_cases hpos : ((2 ^ 63 - 1 : Nat) : Int) < t.value
  · -- beyond an `i64`: there is no minus, and the same digits are read again
    have hsign : t.sign ≠ some .minus := by
      intro h
      have := IntText.value_of_minus h
      omega
    rw [if_pos hpos]
    simp only [parseU64]
    rw [parseUnsigned_text hsign]
    have := hval hsign
    by_cases h : t.value < 2 ^ 64
    · rw [if_pos h, if_pos (by omega), this]; rfl
    · rw [if_neg h, if_neg (by omega)]; rfl
  · have hlt : t.value < 2 ^ 64 := by omega
    rw [if_neg hpos, if_pos hlt]
    by_cases hneg : t.value < -((2 ^ 63 - 1 : Nat) : Int) - 1
    · rw [if_pos hneg, Int.toNat_of_nonpos (by omega)]
    · rw [if_neg hneg]

theorem lookup_freeMem : (Metric.readers N).lookup "sys-freeMem" =
    some (Reading.into readFreeMem fun v => .sys (.freeMem v)) := rfl

/-- The entry of another key leaves the amount as it is. -/
theorem freeMem_of_other {e : String × String} (he : e.1 ≠ "sys-freeMem") {s t : Statistics N}
    (h : applyEntry s e = some t) : t.sys.freeMem = s.sys.freeMem := by
  have hof := effect_of (N := N) e.1 e.2
  unfold applyEntry at h
  generalize effect N e.1 e.2 = a at h hof
  cases hof with
  | unreadable => cases h
  | put hkey =>
    cases h
    rename_i m
    cases m with
    | proc m => rfl
    | es m => rfl
    | sys m =>
      cases m with
      | freeMem v => exact absurd hkey.symm he
      | oneM v => rfl
      | fiveM v => rfl
      | fifteenM v => rfl
  | drive =>
    obtain ⟨d, -, rfl⟩ := Option.map_eq_some_iff.mp h
    rfl
  | queue => cases h; rfl
  | nothing => cases h; rfl

theorem parseEntries_append {before after : List (String × String)} {s t : Statistics N}
    (h : parseEntries s before = .ret (.ok t)) :
    parseEntries s (before ++ after) = parseEntries t after := by
  induction before generalizing s with
  | nil => cases h; rfl
  | cons e before ih =>
    obtain ⟨key, value⟩ := e
    simp only [List.cons_append, parseEntries] at h ⊢
    cases hr : parseEntry s key value with
    | panic m => rw [hr] at h; cases h
    | ret r =>
      rw [hr] at h
      cases r with
      | error e => cases h
      | ok u => exact ih h

/-- What is parsed of the amount is the amount of the key's text. -/
theorem freeMem_of_run {raw : RawStatistics} {order : Visit raw} {stats : Statistics N}
    {text : String} (h : parseStatistics N order = .ret (.ok stats))
    (htext : raw.lookup "sys-freeMem" = some text) : readFreeMem text = .ok stats.sys.freeMem := by
  refine (get_of_run (fun s : Statistics N => s.sys.freeMem) readFreeMem "sys-freeMem"
    (fun e _ he s t ht => freeMem_of_other he ht) ?_ (applyAll_of_parse h)).2 text htext
  intro value s t ht _
  unfold applyEntry effect at ht
  rw [lookup_freeMem] at ht
  simp only [Reading.into] at ht
  cases hr : readFreeMem value with
  | error e => rw [hr] at ht; cases ht
  | ok v => rw [hr] at ht; cases ht; rfl

/-- **What the free memory is parsed to**: the amount of the text where that is below `2 ^ 64`,
and none for an amount below zero; a greater one is an error of its entry and of the whole, which
has no result then in any order. -/
theorem freeMem_parsed (t : IntText) :
    (t.value < 2 ^ 64 → ∀ stats : Statistics N, parseEntry stats "sys-freeMem" t.text =
      .ret (.ok (stats.put (.sys (.freeMem (max 0 t.value).toNat))))) ∧
    (2 ^ 64 ≤ t.value → ∀ stats : Statistics N, parseEntry stats "sys-freeMem" t.text =
      .ret (.error (.internalParsingError
        s!"sys-freeMem: number too large to fit in target type = '{t.text}'"))) ∧
    ∀ {raw : RawStatistics} (order : Visit raw), raw.lookup "sys-freeMem" = some t.text →
      (∀ stats : Statistics N, parseStatistics N order = .ret (.ok stats) →
        t.value < 2 ^ 64 ∧ (stats.sys.freeMem : Int) = max 0 t.value) ∧
      (2 ^ 64 ≤ t.value → ∀ before after (stats : Statistics N),
        order.entries = before ++ ("sys-freeMem", t.text) :: after →
        parseEntries {} before = .ret (.ok stats) → parseStatistics N order =
          .ret (.error (.internalParsingError
            s!"sys-freeMem: number too large to fit in target type = '{t.text}'"))) := by
  have hread := readFreeMem_text t
  have hok : t.value < 2 ^ 64 → ∀ stats : Statistics N, parseEntry stats "sys-freeMem" t.text =
      .ret (.ok (stats.put (.sys (.freeMem (max 0 t.value).toNat)))) := by
    intro hlt stats
    have hmax : (max 0 t.value).toNat = t.value.toNat := by omega
    rw [if_pos hlt] at hread
    unfold parseEntry
    rw [lookup_freeMem, hmax]
    simp only [Reading.into, hread]
    rfl
  have hlarge : 2 ^ 64 ≤ t.value → ∀ stats : Statistics N, parseEntry stats "sys-freeMem" t.text =
      .ret (.error (.internalParsingError
        s!"sys-freeMem: number too large to fit in target type = '{t.text}'")) := by
    intro hle stats
    rw [if_neg (by omega)] at hread
    unfold parseEntry
    rw [lookup_freeMem]
    simp only [Reading.into, hread]
    rfl
  refine ⟨hok, hlarge, fun order htext =>
    ⟨fun stats h => ?_, fun hle before after stats he hb => ?_⟩⟩
  · have hstats := freeMem_of_run h htext
    rw [hread] at hstats
    by_cases hlt : t.value < 2 ^ 64
    · rw [if_pos hlt] at hstats
      refine ⟨hlt, ?_⟩
      rw [← Except.ok.inj hstats]
      omega
    · rw [if_neg hlt] at hstats
      cases hstats
  · unfold parseStatistics
    rw [he, parseEntries_append hb]
    unfold parseEntries
    rw [hlarge hle stats]

/-- `2 ^ 64` with a zero in front. -/
def beyondUsize : IntText :=
  ⟨none, ['0', '1', '8', '4', '4', '6', '7', '4', '4', '0', '7', '3', '7', '0', '9', '5', '5', '1',
    '6', '1', '6'], by simp, List.all_eq_true.mp rfl⟩

/-- `-2 ^ 63 - 1` -/
def belowI64 : IntText :=
  ⟨some .minus, ['9', '2', '2', '3', '3', '7', '2', '0', '3', '6', '8', '5', '4', '7', '7', '5',
    '8', '0', '9'], by simp, List.all_eq_true.mp rfl⟩

/-- One past either end. -/
theorem freeMem_parsed_ends :
    parseEntry ({} : Statistics noNumerals) "sys-freeMem" belowI64.text =
      .ret (.ok (Statistics.put {} (.sys (.freeMem 0)))) ∧
    parseEntry ({} : Statistics noNumerals) "sys-freeMem" beyondUsize.text =
      .ret (.error (.internalParsingError
        s!"sys-freeMem: number too large to fit in target type = '{beyondUsize.text}'")) :=
  ⟨(freeMem_parsed belowI64).1 (by decide) {},
    (freeMem_parsed beyondUsize).2.1 (by decide) {}⟩

end Kurrent.Extras
