import Kurrent.Lib.Text

/-!
# Percent-encoding and form-urlencoded pairs

`percentEncode keep` writes a text byte by byte, keeping the bytes it is told to keep and
writing `%XX` for the others. `percentDecode` is its inverse on bytes; a `%` that two hex
digits do not follow stands for itself. `formPairs` reads a query: pairs separated by `&`,
name and value by the first `=`, `+` for a space, the bytes turned into text by `lossy`.
-/

namespace Kurrent.Lib

/-! ## Bytes of a text -/

def utf8 (s : String) : List UInt8 := s.toList.flatMap String.utf8EncodeChar

theorem byteArray_toList_loop (bs : ByteArray) (n : Nat) :
    ∀ i r, bs.size - i = n →
      ByteArray.toList.loop bs i r = r.reverse ++ bs.data.toList.drop i := by
  induction n with
  | zero =>
    intro i r hi
    have hlen : bs.data.toList.length ≤ i := by
      show bs.size ≤ i
      omega
    rw [ByteArray.toList.loop, if_neg (by omega), List.drop_eq_nil_of_le hlen, List.append_nil]
  | succ n ih =>
    intro i r hi
    have hlt : i < bs.size := by omega
    have hl : i < bs.data.toList.length := hlt
    rw [ByteArray.toList.loop, if_pos hlt, ih (i + 1) _ (by omega), List.drop_eq_getElem_cons hl]
    simp [ByteArray.get!, getElem!_pos, hlt]

theorem byteArray_toList (bs : ByteArray) : bs.toList = bs.data.toList := by
  unfold ByteArray.toList
  rw [byteArray_toList_loop bs _ 0 [] rfl]
  simp

theorem toUTF8_toList (s : String) : s.toUTF8.toList = utf8 s := by
  rw [byteArray_toList, String.toUTF8_eq_toByteArray, ← String.utf8Encode_toList]
  simp [List.utf8Encode, utf8]

/-- The text bytes stand for; nothing where they stand for none. -/
def ofUtf8 (bs : List UInt8) : String := (String.fromUTF8? ⟨bs.toArray⟩).getD ""

theorem ofUtf8_utf8 (s : String) : ofUtf8 (utf8 s) = s := by
  have hbytes : (⟨(utf8 s).toArray⟩ : ByteArray) = s.toByteArray := by
    rw [← toUTF8_toList, byteArray_toList]
    rfl
  have hread : String.fromUTF8? s.toByteArray = some s := by
    unfold String.fromUTF8?
    rw [dif_pos s.isValidUTF8]
    rfl
  rw [ofUtf8, hbytes, hread]
  rfl

theorem utf8_append (s t : String) : utf8 (s ++ t) = utf8 s ++ utf8 t := by
  simp [utf8]

theorem utf8EncodeChar_ascii {c : Char} (h : c.toNat ≤ 127) :
    String.utf8EncodeChar c = [UInt8.ofNat c.toNat] := by
  unfold String.utf8EncodeChar
  exact if_pos h

theorem utf8_ascii {s : String} (h : ∀ c ∈ s.toList, c.toNat ≤ 127) :
    utf8 s = s.toList.map fun c => UInt8.ofNat c.toNat := by
  unfold utf8
  generalize s.toList = l at h ⊢
  induction l with
  | nil => rfl
  | cons c l ih =>
    rw [List.flatMap_cons, utf8EncodeChar_ascii (h c (by simp)), ih fun d hd => h d (by simp [hd])]
    rfl

/-! ## Percent-encoding -/

def hexDigit (n : Nat) : Char := if n < 10 then Char.ofNat (48 + n) else Char.ofNat (55 + n)

def hexValue (b : UInt8) : Option UInt8 :=
  if 48 ≤ b ∧ b ≤ 57 then some (b - 48)
  else if 65 ≤ b ∧ b ≤ 70 then some (b - 55)
  else if 97 ≤ b ∧ b ≤ 102 then some (b - 87)
  else none

/-- Letters, digits, `-`, `.`, `_` and `~`. -/
def isUnreserved (b : UInt8) : Bool :=
  (48 ≤ b && b ≤ 57) || (65 ≤ b && b ≤ 90) || (97 ≤ b && b ≤ 122) ||
    b == 45 || b == 46 || b == 95 || b == 126

def encodeByte (keep : UInt8 → Bool) (b : UInt8) : List Char :=
  if keep b then [Char.ofNat b.toNat] else ['%', hexDigit (b.toNat / 16), hexDigit (b.toNat % 16)]

def percentEncode (keep : UInt8 → Bool) (s : String) : String :=
  String.ofList ((utf8 s).flatMap (encodeByte keep))

def percentDecode : List UInt8 → List UInt8
  | [] => []
  | [b] => [b]
  | [b, h] => [b, h]
  | b :: h :: l :: rest =>
    if b = 37 then
      match hexValue h, hexValue l with
      | some x, some y => (16 * x + y) :: percentDecode rest
      | _, _ => b :: percentDecode (h :: l :: rest)
    else b :: percentDecode (h :: l :: rest)

/-! ## Form-urlencoded pairs -/

section

variable (lossy : List UInt8 → String)

/-- A name or a value. -/
def formDecode (s : String) : String :=
  lossy (percentDecode ((utf8 s).map fun b => if b = 43 then 32 else b))

/-- The pairs of a query as they are written. -/
def rawPairs (q : String) : List (String × String) :=
  ((split '&' q).filter (· ≠ "")).map fun piece =>
    ((splitFirst '=' piece).1, (splitFirst '=' piece).2.getD "")

def formPairs (q : String) : List (String × String) :=
  (rawPairs q).map fun p => (formDecode lossy p.1, formDecode lossy p.2)

end

theorem percentDecode_cons {b : UInt8} (hb : b ≠ 37) (ys : List UInt8) :
    percentDecode (b :: ys) = b :: percentDecode ys := by
  match ys with
  | [] => rfl
  | [_] => rfl
  | _ :: _ :: _ => rw [percentDecode, if_neg hb]

/-- A `%` that two hex digits do not follow stands for itself. -/
theorem percentDecode_percent {h l : UInt8} (hx : hexValue h = none ∨ hexValue l = none)
    (ys : List UInt8) :
    percentDecode (37 :: h :: l :: ys) = 37 :: percentDecode (h :: l :: ys) := by
  rw [percentDecode, if_pos rfl]
  split
  · next x y hh hl =>
    rw [hh, hl] at hx
    rcases hx with hx | hx <;> cases hx
  · rfl

/-- A byte that is neither `%` nor a hex digit is left alone, and so is what surrounds it. -/
theorem percentDecode_append {b : UInt8} (hb : b ≠ 37) (hx : hexValue b = none)
    (xs ys : List UInt8) :
    percentDecode (xs ++ b :: ys) = percentDecode xs ++ b :: percentDecode ys := by
  have hhead : ∀ a, percentDecode (a :: b :: ys) = a :: b :: percentDecode ys := by
    intro a
    by_cases ha : a = 37
    · subst ha
      cases ys with
      | nil => rfl
      | cons y ys => rw [percentDecode_percent (.inl hx), percentDecode_cons hb]
    · rw [percentDecode_cons ha, percentDecode_cons hb]
  induction xs using percentDecode.induct with
  | case1 => exact percentDecode_cons hb ys
  | case2 a => exact hhead a
  | case3 a h =>
    by_cases ha : a = 37
    · subst ha
      show percentDecode (37 :: h :: b :: ys) = 37 :: h :: b :: percentDecode ys
      rw [percentDecode_percent (.inr hx), hhead]
    · show percentDecode (a :: h :: b :: ys) = a :: h :: b :: percentDecode ys
      rw [percentDecode_cons ha, hhead]
  | case4 h l rest x y hh hl ih =>
    simp only [List.cons_append, percentDecode, if_true, hh, hl, ih]
  | case5 h l rest hn ih =>
    have hnone : hexValue h = none ∨ hexValue l = none := by
      cases hh : hexValue h with
      | none => exact .inl rfl
      | some x =>
        cases hl : hexValue l with
        | none => exact .inr rfl
        | some y => exact absurd hl (hn x y hh)
    simp only [List.cons_append] at ih ⊢
    rw [percentDecode_percent hnone, percentDecode_percent hnone, ih, List.cons_append]
  | case6 a h l rest ha ih =>
    simp only [List.cons_append] at ih ⊢
    rw [percentDecode_cons ha, percentDecode_cons ha, ih, List.cons_append]

/-- Replacing a character that separates nothing replaces it in the names and values. -/
theorem rawPairs_replaceChar {a b : Char} (ha : '&' ≠ a ∧ '=' ≠ a) (hb : '&' ≠ b ∧ '=' ≠ b)
    (q : String) :
    rawPairs (replaceChar a b q) =
      (rawPairs q).map fun p => (replaceChar a b p.1, replaceChar a b p.2) := by
  have hempty : ∀ piece, (replaceChar a b piece ≠ "") ↔ piece ≠ "" := by
    intro piece
    rw [not_iff_not, ← String.toList_inj, ← String.toList_inj]
    simp [replaceChar]
  have hnone : replaceChar a b "" = "" := rfl
  unfold rawPairs
  rw [split_replaceChar ha.1 hb.1, List.filter_map, List.map_map, List.map_map]
  have hfilter : ((fun x => decide (x ≠ "")) ∘ replaceChar a b) = fun x => decide (x ≠ "") :=
    funext fun piece => decide_eq_decide.mpr (hempty piece)
  rw [hfilter]
  refine List.map_congr_left fun piece _ => ?_
  simp only [Function.comp_apply, splitFirst_replaceChar ha.2 hb.2]
  cases (splitFirst '=' piece).2 <;> simp [hnone]

/-! ## Texts an encoder leaves alone -/

section

variable {keep : UInt8 → Bool}

end

/-! ## A separator inside a form value -/

/-- An ASCII byte is a character of its own, whatever stands around it. -/
def SplitsAscii (lossy : List UInt8 → String) : Prop :=
  ∀ xs b ys, b.toNat < 128 →
    lossy (xs ++ b :: ys) = lossy xs ++ String.singleton (Char.ofNat b.toNat) ++ lossy ys

/-- A character that means nothing to the decoder. -/
structure Inert (c : Char) : Prop where
  ascii : c.toNat ≤ 127
  percent : UInt8.ofNat c.toNat ≠ 37
  plus : UInt8.ofNat c.toNat ≠ 43
  hex : hexValue (UInt8.ofNat c.toNat) = none

theorem formDecode_append {lossy : List UInt8 → String} (hl : SplitsAscii lossy) {c : Char}
    (hc : Inert c) (s t : String) :
    formDecode lossy (s ++ String.singleton c ++ t) =
      formDecode lossy s ++ String.singleton c ++ formDecode lossy t := by
  have hbyte : (UInt8.ofNat c.toNat).toNat = c.toNat := by
    have := hc.ascii
    simp
    omega
  have hlt : (UInt8.ofNat c.toNat).toNat < 128 := by
    have := hc.ascii
    omega
  have hone : utf8 (String.singleton c) = [UInt8.ofNat c.toNat] := by
    simp [utf8, utf8EncodeChar_ascii hc.ascii]
  unfold formDecode
  rw [utf8_append, utf8_append, hone, List.append_assoc, List.map_append, List.singleton_append,
    List.map_cons, if_neg hc.plus, percentDecode_append hc.percent hc.hex, hl _ _ _ hlt, hbyte,
    Char.ofNat_toNat]

theorem exists_append_of_mem {c : Char} {s : String} (h : c ∈ s.toList) :
    ∃ a b, s = a ++ String.singleton c ++ b ∧ c ∉ a.toList := by
  obtain ⟨l, r, hs, hl⟩ := List.eq_append_cons_of_mem h
  refine ⟨String.ofList l, String.ofList r, ?_, by simpa using hl⟩
  apply String.toList_inj.mp
  simp [hs]

/-- A character that means nothing to the decoder comes through it. -/
theorem mem_formDecode {lossy : List UInt8 → String} (hl : SplitsAscii lossy) {c : Char}
    (hc : Inert c) {s : String} (h : c ∈ s.toList) : c ∈ (formDecode lossy s).toList := by
  obtain ⟨a, b, rfl, -⟩ := exists_append_of_mem h
  rw [formDecode_append hl hc]
  simp

/-! ## Reading back what was written -/

section

variable {keep : UInt8 → Bool} {lossy : List UInt8 → String}

end

end Kurrent.Lib
