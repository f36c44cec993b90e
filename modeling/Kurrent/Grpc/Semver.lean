import Kurrent.Grpc.ServerFeatures

/-!
# The server's version

`supportedMethods` reads a version after it has thrown away every character that is neither
a digit nor a dot. Of a version with tags, the digits that stand in the tags in front of
their first dot then join the patch number; what follows that dot is not looked at.
-/

namespace Kurrent

open Lib

/-- A decimal number below `2^64`, as it is written. -/
structure VersionNumber where
  digits : List Char
  ne_nil : digits ≠ []
  isDigit : ∀ c ∈ digits, c.isDigit = true
  fits : Nat.ofDigitChars 10 digits 0 < 2 ^ 64

def VersionNumber.value (n : VersionNumber) : Nat := Nat.ofDigitChars 10 n.digits 0

/-- `MAJOR.MINOR.PATCH`, with a tag behind a `-`, behind a `+`, both or none. -/
structure Semver where
  major : VersionNumber
  minor : VersionNumber
  patch : VersionNumber
  preRelease : Option (List Char)
  build : Option (List Char)

namespace Semver

def tags (v : Semver) : List Char :=
  v.preRelease.elim [] ('-' :: ·) ++ v.build.elim [] ('+' :: ·)

def text (v : Semver) : String :=
  String.ofList (v.major.digits ++ '.' :: (v.minor.digits ++ '.' :: (v.patch.digits ++ v.tags)))

def version (v : Semver) : ServerVersion := ⟨v.major.value, v.minor.value, v.patch.value⟩

/-- The digits of the tags in front of their first dot. -/
def tagDigits (v : Semver) : List Char := (v.tags.takeWhile (· ≠ '.')).filter Char.isDigit

end Semver

/-- The characters that are kept. -/
def semverChar (c : Char) : Bool := c.isDigit || c == '.'

section

variable (crates : Crates)

theorem supportedMethods_version (methods : SupportedMethods) :
    (supportedMethods crates methods).map ServerInfo.version =
      parseSemver crates 0 {} (split '.'
        (String.ofList (methods.eventStoreServerVersion.toList.filter semverChar))) := by
  unfold supportedMethods
  show Except.map _ (Except.bind (parseSemver crates 0 {} (split '.'
    (String.ofList (methods.eventStoreServerVersion.toList.filter semverChar)))) _) = _
  cases parseSemver crates 0 {} (split '.'
    (String.ofList (methods.eventStoreServerVersion.toList.filter semverChar))) with
  | error e => rfl
  | ok version => rfl

theorem parseSemver_three {a b c : String} {major minor : Nat} (rest : List String)
    (ha : parseUnsigned (2 ^ 64 - 1) a = .ok major)
    (hb : parseUnsigned (2 ^ 64 - 1) b = .ok minor) (patch : Nat) :
    parseSemver crates 0 {} (a :: b :: c :: rest) = .ok ⟨major, minor, patch⟩ ↔
      parseUnsigned (2 ^ 64 - 1) c = .ok patch := by
  have hrest : ∀ version, parseSemver crates 3 version rest = .ok version := by
    intro version
    cases rest with
    | nil => rfl
    | cons d rest => simp [parseSemver]
  simp only [parseSemver, ha, hb]
  cases hc : parseUnsigned (2 ^ 64 - 1) c with
  | error e => simp
  | ok v => simp [hrest]

end

namespace VersionNumber

variable (n : VersionNumber)

theorem notMem_dot : '.' ∉ n.digits := by
  intro h
  have := n.isDigit '.' h
  revert this
  decide

theorem filter_digits : n.digits.filter semverChar = n.digits := by
  refine List.filter_eq_self.mpr fun c hc => ?_
  rw [semverChar, n.isDigit c hc, Bool.true_or]

theorem parse : parseUnsigned (2 ^ 64 - 1) (String.ofList n.digits) = .ok n.value := by
  have hfits := n.fits
  rw [parseUnsigned_of_digits (by simpa using n.ne_nil) (by simpa using n.isDigit)]
  rw [String.toList_ofList]
  exact parseDigits_ok n.isDigit (by omega)

/-- More digits behind a number leave its value only where all of them are zero. -/
theorem parse_append {ds : List Char} (hds : ∀ c ∈ ds, c.isDigit = true) :
    parseUnsigned (2 ^ 64 - 1) (String.ofList (n.digits ++ ds)) = .ok n.value ↔
      ds = [] ∨ n.value = 0 ∧ ∀ c ∈ ds, c = '0' := by
  have hall : ∀ c ∈ n.digits ++ ds, c.isDigit = true := by
    intro c hc
    rcases List.mem_append.mp hc with hc | hc
    · exact n.isDigit c hc
    · exact hds c hc
  have hval : Nat.ofDigitChars 10 (n.digits ++ ds) 0 =
      10 ^ ds.length * n.value + Nat.ofDigitChars 10 ds 0 := by
    rw [Nat.ofDigitChars_append, Nat.ofDigitChars_eq_ofDigitChars_zero]
    rfl
  rw [parseUnsigned_of_digits (by simp [n.ne_nil]) (by simpa using hall), String.toList_ofList]
  constructor
  · intro h
    have heq := ((parseDigits_eq_ok (Nat.zero_le _)).mp h).2.1
    rw [hval] at heq
    by_cases hnil : ds = []
    · exact .inl hnil
    · -- ten times the number and more is the number, so it is zero
      have hpow : 10 ≤ 10 ^ ds.length :=
        Nat.le_self_pow (List.length_pos_iff.mpr hnil).ne' 10
      have hmul := Nat.mul_le_mul_right n.value hpow
      refine .inr ⟨by omega, eq_zero_of_ofDigitChars hds (by omega)⟩
  · intro h
    have hsame : Nat.ofDigitChars 10 (n.digits ++ ds) 0 = n.value := by
      rcases h with rfl | ⟨hzero, hall0⟩
      · simp [value]
      · have hrep : ds = List.replicate ds.length '0' := List.eq_replicate_iff.mpr ⟨rfl, hall0⟩
        rw [hval, hzero, hrep, Nat.ofDigitChars_replicate_zero]
        simp
    have hfits := n.fits
    rw [← hsame]
    exact parseDigits_ok hall (by rw [hsame, value]; omega)

end VersionNumber

namespace Semver

variable (v : Semver)

/-- What is kept of a version's text. -/
theorem filter_text : String.ofList (v.text.toList.filter semverChar) =
    String.ofList v.major.digits ++ String.singleton '.' ++
      (String.ofList v.minor.digits ++ String.singleton '.' ++
        String.ofList (v.patch.digits ++ v.tags.filter semverChar)) := by
  have hdot : semverChar '.' = true := by decide
  apply String.toList_inj.mp
  simp [text, VersionNumber.filter_digits, hdot]

/-- The part of the kept tags in front of their first dot. -/
theorem takeWhile_tags :
    (v.patch.digits ++ v.tags.filter semverChar).takeWhile (· ≠ '.') =
      v.patch.digits ++ v.tagDigits := by
  have hdigits : ∀ c ∈ v.patch.digits, decide (c ≠ '.') = true := by
    intro c hc
    exact decide_eq_true fun e => v.patch.notMem_dot (e ▸ hc)
  have hstop : ∀ c : Char, (!semverChar c || decide (c ≠ '.')) = decide (c ≠ '.') := by
    intro c
    by_cases hc : c = '.'
    · subst hc; rfl
    · simp [hc]
  have hkept : (v.tags.takeWhile (· ≠ '.')).filter semverChar = v.tagDigits := by
    refine List.filter_congr fun c hc => ?_
    have hne : c ≠ '.' := by simpa using List.mem_takeWhile_imp hc
    simp [semverChar, hne]
  rw [List.takeWhile_append_of_pos hdigits, List.takeWhile_filter, funext hstop, hkept]

/-- The pieces between the dots: the patch number takes digits of the tags along. -/
theorem split_text : ∃ rest, split '.' (String.ofList (v.text.toList.filter semverChar)) =
    String.ofList v.major.digits :: String.ofList v.minor.digits ::
      String.ofList (v.patch.digits ++ v.tagDigits) :: rest := by
  obtain ⟨rest, hrest⟩ :=
    split_eq_cons '.' (String.ofList (v.patch.digits ++ v.tags.filter semverChar))
  rw [String.toList_ofList, takeWhile_tags] at hrest
  have hmajor := v.major.notMem_dot
  have hminor := v.minor.notMem_dot
  refine ⟨rest, ?_⟩
  rw [filter_text, split_append, split_append, split_of_notMem (by simpa using hmajor),
    split_of_notMem (by simpa using hminor), hrest]
  rfl

theorem isDigit_tagDigits : ∀ c ∈ v.tagDigits, c.isDigit = true := fun _ hc =>
  (List.mem_filter.mp hc).2

end Semver

/-- **When a tagged version is read as it stands**: exactly when the tags hold no digit in
front of their first dot, or nothing but zeros there behind a patch number of zero. -/
theorem version_read_iff (crates : Crates) (methods : List SupportedMethod) (v : Semver) :
    (supportedMethods crates ⟨methods, v.text⟩).map ServerInfo.version = .ok v.version ↔
      v.tagDigits = [] ∨ v.patch.value = 0 ∧ ∀ c ∈ v.tagDigits, c = '0' := by
  obtain ⟨rest, hrest⟩ := v.split_text
  have hread := parseSemver_three crates rest v.major.parse v.minor.parse
    (c := String.ofList (v.patch.digits ++ v.tagDigits)) v.patch.value
  rw [← v.patch.parse_append v.isDigit_tagDigits, ← hread, ← hrest]
  rw [supportedMethods_version]
  rfl

/-- A release candidate's own number is taken into the patch number. -/
theorem version_read_tagged : ∃ v : Semver,
    v.text = "23.10.1-rc2" ∧ v.version = ⟨23, 10, 1⟩ ∧
      ∀ crates, (supportedMethods crates ⟨[], "23.10.1-rc2"⟩).map ServerInfo.version =
        .ok ⟨23, 10, 12⟩ := by
  refine ⟨⟨⟨['2', '3'], by simp, by simp, by decide⟩, ⟨['1', '0'], by simp, by simp, by decide⟩,
    ⟨['1'], by simp, by simp, by decide⟩, some "rc2".toList, none⟩, by rfl, by rfl, fun _ => ?_⟩
  rfl

end Kurrent
