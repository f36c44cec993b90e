import Mathlib.Data.List.TakeWhile
import Mathlib.Tactic.Common

/-!
# Text: splitting, joining, decimal numbers

Strings are handled through their character lists. `split`, `join` and `replaceChar`
are the library operations of the same name on a one-character separator;
`parseUnsigned max` is the decimal parser of an unsigned machine integer whose
largest value is `max`, with the four ways it can fail.
-/

namespace Kurrent.Lib

/-- The pieces of `s` between occurrences of `c`, empty ones included. -/
def split (c : Char) (s : String) : List String := (s.toList.splitOn c).map String.ofList

/-- The pieces with `c` between them. -/
def join (c : Char) (ps : List String) : String :=
  String.ofList ([c].intercalate (ps.map String.toList))

/-- Every `a` of `s` becomes `b`. -/
def replaceChar (a b : Char) (s : String) : String :=
  String.ofList (s.toList.map fun c => if c = a then b else c)

/-- `s` up to the first `c`, and what follows that `c` if there is one. -/
def splitFirst (c : Char) (s : String) : String × Option String :=
  match s.toList.dropWhile (· ≠ c) with
  | [] => (s, none)
  | _ :: rest => (String.ofList (s.toList.takeWhile (· ≠ c)), some (String.ofList rest))

/-- The same as a pair, when there is a `c`. -/
def splitOnce (c : Char) (s : String) : Option (String × String) :=
  match splitFirst c s with
  | (a, some b) => some (a, b)
  | (_, none) => none

/-- What stands before and behind the last `c` of `s`. -/
def rsplitOnce (c : Char) (s : String) : Option (String × String) :=
  match s.toList.reverse.dropWhile (· ≠ c) with
  | [] => none
  | _ :: front =>
    some (String.ofList front.reverse,
      String.ofList (s.toList.reverse.takeWhile (· ≠ c)).reverse)

/-- What follows the text `p` when `s` starts with it. -/
def stripPrefix (p s : String) : Option String :=
  if p.toList.isPrefixOf s.toList then some (String.ofList (s.toList.drop p.toList.length))
  else none

@[simp] theorem toList_join (c : Char) (ps : List String) :
    (join c ps).toList = [c].intercalate (ps.map String.toList) := String.toList_ofList

@[simp] theorem join_singleton (c : Char) (p : String) : join c [p] = p := by
  simp [join, List.intercalate]

theorem join_cons (c : Char) (p : String) {ps : List String} (h : ps ≠ []) :
    join c (p :: ps) = p ++ String.singleton c ++ join c ps := by
  obtain ⟨q, qs, rfl⟩ := List.exists_cons_of_ne_nil h
  apply String.toList_inj.mp
  simp [List.intercalate]

theorem join_append (c : Char) {ps qs : List String} (hp : ps ≠ []) (hq : qs ≠ []) :
    join c (ps ++ qs) = join c ps ++ String.singleton c ++ join c qs := by
  induction ps with
  | nil => exact absurd rfl hp
  | cons p ps ih =>
    by_cases h : ps = []
    · subst h
      simpa using join_cons c p hq
    · rw [List.cons_append, join_cons c p (by simp [h]), ih h, join_cons c p h]
      simp only [String.append_assoc]

/-- What is appended to the last piece is appended to the join. -/
theorem join_concat_append (c : Char) (ps : List String) (p q : String) :
    join c (ps ++ [p ++ q]) = join c (ps ++ [p]) ++ q := by
  by_cases h : ps = []
  · subst h; simp
  · rw [join_append c h (by simp), join_append c h (by simp), join_singleton, join_singleton]
    simp only [String.append_assoc]

theorem mem_join {c d : Char} {ps : List String} (h : c ∈ (join d ps).toList) :
    c = d ∨ ∃ p ∈ ps, c ∈ p.toList := by
  induction ps with
  | nil => simp [join, List.intercalate] at h
  | cons p ps ih =>
    by_cases hps : ps = []
    · subst hps
      exact .inr ⟨p, by simp, by simpa using h⟩
    · rw [join_cons d p hps] at h
      simp only [String.toList_append, String.toList_singleton, List.mem_append,
        List.mem_singleton] at h
      rcases h with (h | h) | h
      · exact .inr ⟨p, by simp, h⟩
      · exact .inl h
      · rcases ih h with h | ⟨q, hq, h⟩
        · exact .inl h
        · exact .inr ⟨q, by simp [hq], h⟩

/-- Splitting a join gives the pieces back when none of them holds the separator. -/
theorem split_join {c : Char} {ps : List String} (hne : ps ≠ []) (h : ∀ p ∈ ps, c ∉ p.toList) :
    split c (join c ps) = ps := by
  have hs : ([c].intercalate (ps.map String.toList)).splitOn c = ps.map String.toList :=
    List.splitOn_intercalate c (by simpa using h) (by simpa using hne)
  simp [split, hs, Function.comp_def]

theorem split_of_notMem {c : Char} {s : String} (h : c ∉ s.toList) : split c s = [s] := by
  have hp : ∀ p ∈ [s], c ∉ p.toList := by simpa using h
  simpa using split_join (by simp) hp

/-- The first piece is empty when there is nothing in front of a separator. -/
theorem split_head_empty {c : Char} {s p : String} {ps : List String} (h : split c s = p :: ps) :
    p = "" ↔ ∀ x ∈ s.toList.head?, x = c := by
  unfold split at h
  cases hs : s.toList with
  | nil =>
    rw [hs] at h
    cases h
    simp
  | cons x l =>
    rw [hs, List.splitOn_cons_eq_if_modifyHead] at h
    by_cases hx : x = c
    · rw [if_pos (by simpa using hx)] at h
      cases h
      simp [hx]
    · rw [if_neg (by simpa using hx)] at h
      cases hl : l.splitOn c with
      | nil => rw [hl] at h; cases h
      | cons y ys =>
        rw [hl] at h
        cases h
        simp [hx]

/-- The first piece reaches up to the first separator. -/
theorem split_eq_cons (c : Char) (s : String) :
    ∃ ps, split c s = String.ofList (s.toList.takeWhile (· ≠ c)) :: ps := by
  have hl : ∀ l : List Char, ∃ ps, l.splitOn c = l.takeWhile (· ≠ c) :: ps := by
    intro l
    induction l with
    | nil => exact ⟨[], by simp⟩
    | cons x l ih =>
      obtain ⟨ps, hps⟩ := ih
      rw [List.splitOn_cons_eq_if_modifyHead, hps]
      by_cases hx : x = c
      · exact ⟨l.takeWhile (· ≠ c) :: ps, by simp [hx]⟩
      · exact ⟨ps, by simp [hx]⟩
  obtain ⟨ps, hps⟩ := hl s.toList
  exact ⟨ps.map String.ofList, by rw [split, hps, List.map_cons]⟩

theorem splitFirst_of_notMem {c : Char} {s : String} (h : c ∉ s.toList) :
    splitFirst c s = (s, none) := by
  have hd : s.toList.dropWhile (· ≠ c) = [] := by
    rw [List.dropWhile_eq_nil_iff]
    intro x hx
    simpa using fun e : x = c => h (e ▸ hx)
  unfold splitFirst
  rw [hd]

/-- The first separator of `a ++ c ++ b` is that `c` when `a` holds none. -/
theorem splitFirst_append {c : Char} {a b : String} (h : c ∉ a.toList) :
    splitFirst c (a ++ String.singleton c ++ b) = (a, some b) := by
  have hall : ∀ x ∈ a.toList, decide (x ≠ c) = true := by
    intro x hx
    simpa using fun e : x = c => h (e ▸ hx)
  have hl : (a ++ String.singleton c ++ b).toList = a.toList ++ c :: b.toList := by simp
  unfold splitFirst
  rw [hl, List.dropWhile_append_of_pos hall, List.takeWhile_append_of_pos hall]
  simp

/-- Either there is no `c` in the text, or it is cut at the first one. -/
theorem splitFirst_cases (c : Char) (s : String) :
    (c ∉ s.toList ∧ splitFirst c s = (s, none)) ∨
      ∃ a b, c ∉ a.toList ∧ s = a ++ String.singleton c ++ b ∧ splitFirst c s = (a, some b) := by
  by_cases h : c ∈ s.toList
  · obtain ⟨as, bs, hs, ha⟩ := List.eq_append_cons_of_mem h
    have heq : s = String.ofList as ++ String.singleton c ++ String.ofList bs := by
      apply String.toList_inj.mp
      simp [hs]
    have hnot : c ∉ (String.ofList as).toList := by simpa using ha
    refine .inr ⟨_, _, hnot, heq, ?_⟩
    rw [heq]
    exact splitFirst_append hnot
  · exact .inl ⟨h, splitFirst_of_notMem h⟩

theorem split_append (c : Char) (s t : String) :
    split c (s ++ String.singleton c ++ t) = split c s ++ split c t := by
  simp [split, List.splitOn_append_cons_self]

theorem splitOnce_eq_none {c : Char} {s : String} : splitOnce c s = none ↔ c ∉ s.toList := by
  unfold splitOnce
  rcases splitFirst_cases c s with ⟨h, heq⟩ | ⟨a, b, -, hs, heq⟩
  · simp [heq, h]
  · have hmem : c ∈ s.toList := by rw [hs]; simp
    simp [heq, hmem]

/-- What stands before the first `c` of `a ++ c ++ b` is what stands before it in `a`. -/
theorem splitOnce_append_fst (c : Char) (a b : String) :
    (splitOnce c (a ++ String.singleton c ++ b)).map Prod.fst = some (splitFirst c a).1 := by
  unfold splitOnce
  rcases splitFirst_cases c a with ⟨h, heq⟩ | ⟨front, back, h, hs, heq⟩
  · rw [splitFirst_append h, heq]
    rfl
  · have hassoc : a ++ String.singleton c ++ b =
        front ++ String.singleton c ++ (back ++ String.singleton c ++ b) := by
      rw [hs]
      apply String.toList_inj.mp
      simp
    rw [hassoc, splitFirst_append h, heq]
    rfl

/-- The text before the first `c` is the whole only where there is no `c`. -/
theorem splitFirst_fst_eq {c : Char} {s : String} : (splitFirst c s).1 = s ↔ c ∉ s.toList := by
  rcases splitFirst_cases c s with ⟨h, heq⟩ | ⟨front, back, h, hs, heq⟩
  · simp [heq, h]
  · have hmem : c ∈ s.toList := by rw [hs]; simp
    rw [heq]
    refine ⟨fun hfront => ?_, fun hnot => absurd hmem hnot⟩
    rw [← hfront]
    exact h

/-- The last separator of `a ++ c ++ b` is that `c` when `b` holds none. -/
theorem rsplitOnce_append {c : Char} {a b : String} (h : c ∉ b.toList) :
    rsplitOnce c (a ++ String.singleton c ++ b) = some (a, b) := by
  have hall : ∀ x ∈ b.toList.reverse, decide (x ≠ c) = true := by
    intro x hx
    simpa using fun e : x = c => h (e ▸ List.mem_reverse.mp hx)
  have hl : (a ++ String.singleton c ++ b).toList.reverse =
      b.toList.reverse ++ c :: a.toList.reverse := by simp
  unfold rsplitOnce
  rw [hl, List.dropWhile_append_of_pos hall, List.takeWhile_append_of_pos hall]
  simp

/-- Either there is no `c` in the text, or it is cut at the last one. -/
theorem rsplitOnce_cases (c : Char) (s : String) :
    (c ∉ s.toList ∧ rsplitOnce c s = none) ∨
      ∃ a b, c ∉ b.toList ∧ s = a ++ String.singleton c ++ b ∧ rsplitOnce c s = some (a, b) := by
  by_cases h : c ∈ s.toList
  · obtain ⟨as, bs, hs, ha⟩ := List.eq_append_cons_of_mem (List.mem_reverse.mpr h)
    have heq : s = String.ofList bs.reverse ++ String.singleton c ++ String.ofList as.reverse := by
      apply String.toList_inj.mp
      rw [← List.reverse_reverse s.toList, hs]
      simp
    have hnot : c ∉ (String.ofList as.reverse).toList := by simpa using ha
    refine .inr ⟨_, _, hnot, heq, ?_⟩
    rw [heq]
    exact rsplitOnce_append hnot
  · refine .inl ⟨h, ?_⟩
    have hd : s.toList.reverse.dropWhile (· ≠ c) = [] := by
      rw [List.dropWhile_eq_nil_iff]
      intro x hx
      simpa using fun e : x = c => h (e ▸ List.mem_reverse.mp hx)
    unfold rsplitOnce
    rw [hd]

theorem rsplitOnce_eq {c : Char} {s a b : String} (h : rsplitOnce c s = some (a, b)) :
    s = a ++ String.singleton c ++ b := by
  rcases rsplitOnce_cases c s with ⟨-, hnone⟩ | ⟨a', b', -, hs, heq⟩
  · rw [hnone] at h; cases h
  · rw [heq] at h; cases h; exact hs

theorem stripPrefix_append (p r : String) : stripPrefix p (p ++ r) = some r := by
  have hp : p.toList.isPrefixOf (p ++ r).toList = true := by
    rw [List.isPrefixOf_iff_prefix, String.toList_append]
    exact List.prefix_append _ _
  unfold stripPrefix
  rw [if_pos hp]
  simp

theorem stripPrefix_eq {p s r : String} (h : stripPrefix p s = some r) : s = p ++ r := by
  unfold stripPrefix at h
  by_cases hp : p.toList.isPrefixOf s.toList = true
  · rw [if_pos hp] at h
    cases h
    obtain ⟨t, ht⟩ := List.isPrefixOf_iff_prefix.mp hp
    apply String.toList_inj.mp
    simp [← ht]
  · rw [if_neg hp] at h
    cases h

theorem replaceChar_append (a b : Char) (s t : String) :
    replaceChar a b (s ++ t) = replaceChar a b s ++ replaceChar a b t := by
  apply String.toList_inj.mp
  simp [replaceChar]

theorem replaceChar_of_notMem {a b : Char} {s : String} (h : a ∉ s.toList) :
    replaceChar a b s = s := by
  have : s.toList.map (fun c => if c = a then b else c) = s.toList := by
    conv_rhs => rw [← List.map_id s.toList]
    refine List.map_congr_left fun c hc => ?_
    have hne : c ≠ a := fun e => h (e ▸ hc)
    rw [if_neg hne]; rfl
  simp [replaceChar, this]

/-- Replacing the separator of a join changes the separator. -/
theorem replaceChar_join {a b : Char} {ps : List String} (h : ∀ p ∈ ps, a ∉ p.toList) :
    replaceChar a b (join a ps) = join b ps := by
  induction ps with
  | nil => simp [join, replaceChar, List.intercalate]
  | cons p ps ih =>
    by_cases hps : ps = []
    · subst hps
      simpa using replaceChar_of_notMem (h p (by simp))
    · rw [join_cons a p hps, join_cons b p hps, replaceChar_append, replaceChar_append,
        replaceChar_of_notMem (h p (by simp)), ih fun q hq => h q (by simp [hq])]
      simp [replaceChar]

section

variable {a b c : Char}

theorem mem_replaceChar_of_mem {s : String} (h : a ∈ s.toList) :
    b ∈ (replaceChar a b s).toList := by
  simp only [replaceChar, String.toList_ofList, List.mem_map]
  exact ⟨a, h, if_pos rfl⟩

theorem notMem_replaceChar_of_ne (hb : c ≠ b) {s : String} (h : c ∉ s.toList) :
    c ∉ (replaceChar a b s).toList := by
  simp only [replaceChar, String.toList_ofList, List.mem_map, not_exists, not_and]
  intro x hx
  split
  · exact hb.symm
  · rintro rfl; exact h hx

/-- The replacement leaves a separator that takes no part in it where it is. -/
theorem split_replaceChar (ha : c ≠ a) (hb : c ≠ b) (s : String) :
    split c (replaceChar a b s) = (split c s).map (replaceChar a b) := by
  have hsep : ∀ x, ((if x = a then b else x) == c) = (x == c) := by
    intro x
    by_cases hx : x = a
    · subst hx
      rw [if_pos rfl, beq_eq_false_iff_ne.mpr hb.symm, beq_eq_false_iff_ne.mpr ha.symm]
    · rw [if_neg hx]
  have hl : ∀ l : List Char, (l.map fun x => if x = a then b else x).splitOn c =
      (l.splitOn c).map (List.map fun x => if x = a then b else x) := by
    intro l
    induction l with
    | nil => simp
    | cons x l ih =>
      rw [List.map_cons, List.splitOn_cons_eq_if_modifyHead, List.splitOn_cons_eq_if_modifyHead,
        hsep, ih]
      split
      · rfl
      · cases l.splitOn c <;> rfl
  simp [split, replaceChar, hl, Function.comp_def]

/-- The pieces are cut at the new separator instead. -/
theorem split_replaced {s : String} (h : b ∉ s.toList) :
    split b (replaceChar a b s) = split a s := by
  have hl : ∀ l : List Char, b ∉ l →
      (l.map fun x => if x = a then b else x).splitOn b = l.splitOn a := by
    intro l hb
    induction l with
    | nil => rfl
    | cons x l ih =>
      rw [List.mem_cons, not_or] at hb
      rw [List.map_cons, List.splitOn_cons_eq_if_modifyHead, List.splitOn_cons_eq_if_modifyHead,
        ih hb.2]
      by_cases hx : x = a
      · simp [hx]
      · simp [hx, Ne.symm hb.1]
  simp [split, replaceChar, hl s.toList h]

theorem splitFirst_replaceChar (ha : c ≠ a) (hb : c ≠ b) (s : String) :
    splitFirst c (replaceChar a b s) =
      (replaceChar a b (splitFirst c s).1, (splitFirst c s).2.map (replaceChar a b)) := by
  have hne : ∀ x, decide ((if x = a then b else x) ≠ c) = decide (x ≠ c) := by
    intro x
    by_cases hx : x = a
    · subst hx; simp [ha.symm, hb.symm]
    · rw [if_neg hx]
  have hp : (fun x => decide (x ≠ c)) ∘ (fun x => if x = a then b else x) =
      fun x => decide (x ≠ c) := funext hne
  have hlist : (replaceChar a b s).toList = s.toList.map fun x => if x = a then b else x := by
    simp [replaceChar]
  unfold splitFirst
  rw [hlist, List.dropWhile_map, List.takeWhile_map, hp]
  cases s.toList.dropWhile (· ≠ c) with
  | nil => rfl
  | cons x rest => simp [replaceChar]

end

/-! ## Decimal numbers -/

/-- Why a text is not an integer of the wanted type. -/
inductive IntErrorKind where
  | empty
  | invalidDigit
  | posOverflow
  | negOverflow
  deriving DecidableEq, Repr

def parseDigits (max : Nat) : Nat → List Char → Except IntErrorKind Nat
  | acc, [] => .ok acc
  | acc, c :: cs =>
    if c.isDigit then
      let acc' := 10 * acc + (c.toNat - '0'.toNat)
      if max < acc' then .error .posOverflow else parseDigits max acc' cs
    else .error .invalidDigit

/-- An unsigned integer up to `max`: digits, with an optional leading `+`. A sign alone is
an invalid digit, and so is any `-`. -/
def parseUnsigned (max : Nat) (s : String) : Except IntErrorKind Nat :=
  match s.toList with
  | [] => .error .empty
  | ['+'] | ['-'] => .error .invalidDigit
  | '+' :: cs => parseDigits max 0 cs
  | cs => parseDigits max 0 cs

/-- A signed integer from `-max - 1` to `max`. -/
def parseSigned (max : Nat) (s : String) : Except IntErrorKind Int :=
  match s.toList with
  | [] => .error .empty
  | ['+'] | ['-'] => .error .invalidDigit
  | '-' :: cs =>
    match parseDigits (max + 1) 0 cs with
    | .ok n => .ok (-n)
    | .error .posOverflow => .error .negOverflow
    | .error e => .error e
  | '+' :: cs => (parseDigits max 0 cs).map Int.ofNat
  | cs => (parseDigits max 0 cs).map Int.ofNat

theorem le_ofDigitChars (cs : List Char) (a : Nat) : a ≤ Nat.ofDigitChars 10 cs a := by
  rw [Nat.ofDigitChars_eq_ofDigitChars_zero]
  have : 0 < 10 ^ cs.length := Nat.pow_pos (by decide)
  have : 1 * a ≤ 10 ^ cs.length * a := Nat.mul_le_mul_right a this
  omega

/-- What is read is the value of digits that fits, and nothing else. -/
theorem parseDigits_eq_ok {max : Nat} {cs : List Char} :
    ∀ {acc n : Nat}, acc ≤ max → (parseDigits max acc cs = .ok n ↔
      (∀ c ∈ cs, c.isDigit = true) ∧ Nat.ofDigitChars 10 cs acc = n ∧ n ≤ max) := by
  induction cs with
  | nil =>
    intro acc n ha
    constructor
    · intro h; cases h; exact ⟨by simp, rfl, ha⟩
    · rintro ⟨-, rfl, -⟩; rfl
  | cons c cs ih =>
    intro acc n ha
    have hle := le_ofDigitChars cs (10 * acc + (c.toNat - '0'.toNat))
    rw [Nat.ofDigitChars_cons, List.forall_mem_cons]
    unfold parseDigits
    by_cases hc : c.isDigit = true
    · rw [if_pos hc]
      by_cases hm : max < 10 * acc + (c.toNat - '0'.toNat)
      · simp only [hm, if_true]
        constructor
        · intro h; cases h
        · rintro ⟨-, hn, hmax⟩; omega
      · simp only [hm, if_false]
        rw [ih (by omega), and_iff_right hc]
    · rw [if_neg hc]
      constructor
      · intro h; cases h
      · rintro ⟨⟨hdigit, -⟩, -⟩; exact absurd hdigit hc

theorem parseDigits_ok {max acc : Nat} {cs : List Char} (hd : ∀ c ∈ cs, c.isDigit = true)
    (hv : Nat.ofDigitChars 10 cs acc ≤ max) :
    parseDigits max acc cs = .ok (Nat.ofDigitChars 10 cs acc) :=
  (parseDigits_eq_ok ((le_ofDigitChars cs acc).trans hv)).mpr ⟨hd, rfl, hv⟩

/-- A value that does not fit is found out at one of its digits, however many follow. -/
theorem parseDigits_too_large {max acc : Nat} {cs : List Char}
    (hd : ∀ c ∈ cs, c.isDigit = true) (hv : max < Nat.ofDigitChars 10 cs acc)
    (ha : acc ≤ max := by exact Nat.zero_le _) :
    parseDigits max acc cs = .error .posOverflow := by
  induction cs generalizing acc with
  | nil =>
    rw [Nat.ofDigitChars_nil] at hv
    omega
  | cons c cs ih =>
    rw [List.forall_mem_cons] at hd
    rw [Nat.ofDigitChars_cons] at hv
    unfold parseDigits
    rw [if_pos hd.1]
    by_cases hm : max < 10 * acc + (c.toNat - '0'.toNat)
    · simp only [hm, if_true]
    · simp only [hm, if_false]
      exact ih hd.2 hv (by omega)

/-- The value of the digits if it fits, and an overflow if it does not. -/
theorem parseDigits_of_digits {max : Nat} {cs : List Char} (hd : ∀ c ∈ cs, c.isDigit = true) :
    parseDigits max 0 cs = if Nat.ofDigitChars 10 cs 0 ≤ max then
      .ok (Nat.ofDigitChars 10 cs 0) else .error .posOverflow := by
  by_cases hv : Nat.ofDigitChars 10 cs 0 ≤ max
  · rw [if_pos hv, parseDigits_ok hd hv]
  · rw [if_neg hv, parseDigits_too_large hd (Nat.lt_of_not_le hv)]

/-- Digits of value zero are all `0`. -/
theorem eq_zero_of_ofDigitChars {cs : List Char} (hd : ∀ c ∈ cs, c.isDigit = true)
    (h : Nat.ofDigitChars 10 cs 0 = 0) : ∀ c ∈ cs, c = '0' := by
  induction cs with
  | nil => simp
  | cons c cs ih =>
    rw [Nat.ofDigitChars_cons] at h
    have hle := le_ofDigitChars cs (10 * 0 + (c.toNat - '0'.toNat))
    have hc : c = '0' := by
      have hdig := hd c (by simp)
      simp only [Char.isDigit, Bool.and_eq_true, decide_eq_true_eq] at hdig
      have hge : '0'.toNat ≤ c.toNat := hdig.1
      apply Char.ext
      apply UInt32.toNat_inj.mp
      show c.toNat = '0'.toNat
      omega
    subst hc
    intro d hd'
    rcases List.mem_cons.mp hd' with rfl | hd'
    · rfl
    · exact ih (fun c hc => hd c (by simp [hc])) h d hd'

theorem parseUnsigned_le {max n : Nat} {s : String} (h : parseUnsigned max s = .ok n) :
    n ≤ max := by
  unfold parseUnsigned at h
  split at h
  · cases h
  · cases h
  · cases h
  · exact ((parseDigits_eq_ok (Nat.zero_le _)).mp h).2.2
  · exact ((parseDigits_eq_ok (Nat.zero_le _)).mp h).2.2

theorem parseUnsigned_of_digits {max : Nat} {s : String} (hne : s.toList ≠ [])
    (hd : ∀ c ∈ s.toList, c.isDigit = true) :
    parseUnsigned max s = parseDigits max 0 s.toList := by
  unfold parseUnsigned
  split
  · next h => exact absurd h hne
  · next h => exact absurd (hd '+' (by simp [h])) (by decide)
  · next h => exact absurd (hd '-' (by simp [h])) (by decide)
  · next cs _ h => exact absurd (hd '+' (by simp [h])) (by decide)
  · rfl

/-- The decimal text of a number in range reads back. -/
theorem parseUnsigned_repr {n max : Nat} (h : n ≤ max) : parseUnsigned max n.repr = .ok n := by
  have hd : ∀ c ∈ n.repr.toList, c.isDigit = true := by
    rw [Nat.toList_repr]
    exact fun c => Nat.isDigit_of_mem_toDigits (by decide) (by decide)
  rw [parseUnsigned_of_digits (by rw [Nat.toList_repr]; exact Nat.toDigits_ne_nil) hd,
    parseDigits_ok hd]
  · rw [Nat.toList_repr, Nat.ofDigitChars_ten_toDigits]
  · rwa [Nat.toList_repr, Nat.ofDigitChars_ten_toDigits]

/-- A character that is no digit makes digits unreadable. -/
theorem parseDigits_error {c : Char} {cs : List Char} (hc : c ∈ cs) (hd : c.isDigit = false)
    (max : Nat) : ∃ e, parseDigits max 0 cs = .error e := by
  cases h : parseDigits max 0 cs with
  | error e => exact ⟨e, rfl⟩
  | ok n =>
    have hdigit := ((parseDigits_eq_ok (Nat.zero_le _)).mp h).1 c hc
    rw [hdigit] at hd
    cases hd

theorem parseUnsigned_error {max : Nat} {c : Char} {s : String} (hc : c ∈ s.toList)
    (hd : c.isDigit = false) (hp : c ≠ '+') : ∃ e, parseUnsigned max s = .error e := by
  unfold parseUnsigned
  split
  · exact ⟨_, rfl⟩
  · exact ⟨_, rfl⟩
  · exact ⟨_, rfl⟩
  · next cs _ h =>
    rw [h] at hc
    exact parseDigits_error ((List.mem_cons.mp hc).resolve_left hp) hd max
  · exact parseDigits_error hc hd max

theorem parseSigned_error {max : Nat} {c : Char} {s : String} (hc : c ∈ s.toList)
    (hd : c.isDigit = false) (hp : c ≠ '+') (hm : c ≠ '-') : ∃ e, parseSigned max s = .error e := by
  unfold parseSigned
  split
  · exact ⟨_, rfl⟩
  · exact ⟨_, rfl⟩
  · exact ⟨_, rfl⟩
  · next cs _ h =>
    rw [h] at hc
    obtain ⟨e, he⟩ := parseDigits_error ((List.mem_cons.mp hc).resolve_left hm) hd (max + 1)
    rw [he]
    cases e <;> exact ⟨_, rfl⟩
  · next cs _ h =>
    rw [h] at hc
    obtain ⟨e, he⟩ := parseDigits_error ((List.mem_cons.mp hc).resolve_left hp) hd max
    exact ⟨e, by rw [he]; rfl⟩
  · obtain ⟨e, he⟩ := parseDigits_error hc hd max
    exact ⟨e, by rw [he]; rfl⟩

theorem notMem_repr {n : Nat} {c : Char} (hc : c.isDigit = false) : c ∉ n.repr.toList := by
  rw [Nat.toList_repr]
  intro h
  rw [Nat.isDigit_of_mem_toDigits (by decide) (by decide) h] at hc
  cases hc

/-! ## Texts of integers -/

inductive Sign where
  | plus
  | minus
  deriving DecidableEq, Repr

def Sign.char : Sign → Char
  | .plus => '+'
  | .minus => '-'

/-- A decimal integer as it is written: a sign, perhaps, and digits, the first of which may be
zeros. -/
structure IntText where
  sign : Option Sign
  digits : List Char
  nonempty : digits ≠ []
  isDigit : ∀ c ∈ digits, c.isDigit = true

namespace IntText

def text (t : IntText) : String := String.ofList (t.sign.toList.map Sign.char ++ t.digits)

def abs (t : IntText) : Nat := Nat.ofDigitChars 10 t.digits 0

def value (t : IntText) : Int := if t.sign = some .minus then -t.abs else t.abs

theorem toList_text (t : IntText) :
    t.text.toList = t.sign.toList.map Sign.char ++ t.digits := String.toList_ofList

theorem toList_unsigned {t : IntText} (h : t.sign = none) : t.text.toList = t.digits := by
  rw [toList_text, h]
  rfl

/-- Behind a sign there is a digit. -/
theorem toList_signed {t : IntText} {sign : Sign} (h : t.sign = some sign) :
    ∃ c cs, t.digits = c :: cs ∧ t.text.toList = sign.char :: c :: cs := by
  obtain ⟨c, cs, hcs⟩ := List.exists_cons_of_ne_nil t.nonempty
  refine ⟨c, cs, hcs, ?_⟩
  rw [toList_text, h, hcs]
  rfl

theorem value_of_not_minus {t : IntText} (h : t.sign ≠ some .minus) : t.value = t.abs := by
  rw [value, if_neg h]

theorem value_of_minus {t : IntText} (h : t.sign = some .minus) : t.value = -t.abs := by
  rw [value, if_pos h]

end IntText

theorem parseUnsigned_text {max : Nat} {t : IntText} (hs : t.sign ≠ some .minus) :
    parseUnsigned max t.text = if t.abs ≤ max then .ok t.abs else .error .posOverflow := by
  have hread := @parseDigits_of_digits max t.digits t.isDigit
  cases hsign : t.sign with
  | none =>
    have htext := IntText.toList_unsigned hsign
    rw [parseUnsigned_of_digits (by rw [htext]; exact t.nonempty) (by rw [htext]; exact t.isDigit),
      htext, hread, IntText.abs]
  | some sign =>
    cases sign with
    | minus => exact absurd hsign hs
    | plus =>
      obtain ⟨c, cs, hcs, htext⟩ := IntText.toList_signed hsign
      unfold parseUnsigned
      rw [htext]
      simp only [Sign.char]
      rw [← hcs, hread, IntText.abs]

theorem parseSigned_of_digits {max : Nat} {s : String} (hne : s.toList ≠ [])
    (hd : ∀ c ∈ s.toList, c.isDigit = true) :
    parseSigned max s = (parseDigits max 0 s.toList).map Int.ofNat := by
  unfold parseSigned
  split
  · next h => exact absurd h hne
  · next h => exact absurd (hd '+' (by simp [h])) (by decide)
  · next h => exact absurd (hd '-' (by simp [h])) (by decide)
  · next cs _ h => exact absurd (hd '-' (by simp [h])) (by decide)
  · next cs _ h => exact absurd (hd '+' (by simp [h])) (by decide)
  · rfl

theorem parseSigned_le {max : Nat} {n : Int} {s : String} (h : parseSigned max s = .ok n) :
    n ≤ max := by
  have hread {cs : List Char} (hcs : (parseDigits max 0 cs).map Int.ofNat = .ok n) : n ≤ max := by
    cases hp : parseDigits max 0 cs with
    | error e => rw [hp] at hcs; cases hcs
    | ok m =>
      rw [hp] at hcs
      cases hcs
      exact Int.ofNat_le.mpr ((parseDigits_eq_ok (Nat.zero_le _)).mp hp).2.2
  unfold parseSigned at h
  split at h
  · cases h
  · cases h
  · cases h
  · split at h
    · next m hm =>
      cases h
      show -(m : Int) ≤ max
      omega
    · cases h
    · cases h
  · exact hread h
  · exact hread h

/-- **A signed integer is read as what it is**, and where it is out of range the overflow tells
on which side. -/
theorem parseSigned_text (max : Nat) (t : IntText) :
    parseSigned max t.text =
      if (max : Int) < t.value then .error .posOverflow
      else if t.value < -(max : Int) - 1 then .error .negOverflow
      else .ok t.value := by
  have hpos : (parseDigits max 0 t.digits).map Int.ofNat =
      if (max : Int) < t.abs then .error .posOverflow else .ok (t.abs : Int) := by
    rw [parseDigits_of_digits t.isDigit, ← IntText.abs]
    by_cases h : t.abs ≤ max
    · rw [if_pos h, if_neg (by omega)]; rfl
    · rw [if_neg h, if_pos (by omega)]; rfl
  cases hsign : t.sign with
  | none =>
    have htext := IntText.toList_unsigned hsign
    rw [parseSigned_of_digits (by rw [htext]; exact t.nonempty) (by rw [htext]; exact t.isDigit),
      htext, hpos, IntText.value_of_not_minus (by simp [hsign]),
      if_neg (c := (t.abs : Int) < -(max : Int) - 1) (by omega)]
  | some sign =>
    obtain ⟨c, cs, hcs, htext⟩ := IntText.toList_signed hsign
    unfold parseSigned
    rw [htext]
    cases sign with
    | plus =>
      simp only [Sign.char]
      rw [← hcs, hpos, IntText.value_of_not_minus (by simp [hsign]),
        if_neg (c := (t.abs : Int) < -(max : Int) - 1) (by omega)]
    | minus =>
      simp only [Sign.char]
      rw [← hcs, parseDigits_of_digits t.isDigit, ← IntText.abs, IntText.value_of_minus hsign,
        if_neg (c := (max : Int) < -(t.abs : Int)) (by omega)]
      by_cases h : t.abs ≤ max + 1
      · rw [if_pos h, if_neg (by omega)]
      · rw [if_neg h, if_pos (by omega)]

end Kurrent.Lib
