import Mathlib.Data.List.Infix
import Mathlib.Logic.Function.Basic

/-!
# Writing under an expected version

A list that only grows, and writes that say what they expect of it: anything, that it has
entries, that it has none, or which one is its last. A write whose expectation is met adds
its entries, any other leaves the list alone. Whoever has seen a list that is not empty and
expects its last entry is refused exactly if somebody else has added to it since. `writeAt` is
a write to one of many lists.
-/

namespace Kurrent.Lib

variable {α β κ : Type}

inductive Expect where
  | any
  | present
  | absent
  /-- the last entry is at `n` -/
  | last (n : Nat)
  deriving DecidableEq, Repr

namespace Expect

def met : Expect → List α → Bool
  | any, _ => true
  | present, l => !l.isEmpty
  | absent, l => l.isEmpty
  | last n, l => l.length == n + 1

theorem met_last {l : List α} {n : Nat} : (last n).met l = true ↔ l.length = n + 1 := by
  simp [met]

/-- The entry that `last` names, of a list that has one. -/
theorem met_last_pred {l : List α} (h : l ≠ []) : (last (l.length - 1)).met l = true := by
  have := List.length_pos_iff.mpr h
  rw [met_last]
  omega

variable {l l' : List α}

/-- **Seen and still so**: of a list that has grown from one with entries, the last entry is
the one that was seen exactly if nothing was added. -/
theorem met_last_iff_same (hp : l <+: l') (hne : l ≠ []) :
    (last (l.length - 1)).met l' = true ↔ l' = l := by
  have hpos := List.length_pos_iff.mpr hne
  constructor
  · intro h
    rw [met_last] at h
    exact (hp.eq_of_length (by omega)).symm
  · rintro rfl
    exact met_last_pred hne

/-- The first entry is the last of a list that has just that one. -/
theorem met_last_zero : (last 0).met l = true ↔ ∃ a, l = [a] :=
  met_last.trans List.length_eq_one_iff

end Expect

/-- A list after a write, if it is taken. -/
def write (e : Expect) (more l : List α) : Option (List α) :=
  if e.met l then some (l ++ more) else none

theorem write_prefix {e : Expect} {more l l' : List α} (h : write e more l = some l') :
    l <+: l' := by
  unfold write at h
  split at h
  · cases h; exact List.prefix_append _ _
  · cases h

/-- Many lists after a write to one of them; a write that is not taken is passed over. -/
def writeAt [DecidableEq κ] (k : κ) (e : Expect) (more : List α) (f : κ → List α) : κ → List α :=
  match write e more (f k) with
  | some l => Function.update f k l
  | none => f

section

variable [DecidableEq κ] {k : κ} {e : Expect} {more : List α} {f : κ → List α}

/-- No list loses an entry. -/
theorem writeAt_grows (k' : κ) : f k' <+: writeAt k e more f k' := by
  unfold writeAt
  cases h : write e more (f k) with
  | none => exact List.prefix_rfl
  | some l =>
    show f k' <+: Function.update f k l k'
    by_cases hk : k' = k
    · subst hk
      rw [Function.update_self]
      exact write_prefix h
    · rw [Function.update_of_ne hk]

/-- Another list is as it was. -/
theorem writeAt_of_ne {k' : κ} (h : k' ≠ k) : writeAt k e more f k' = f k' := by
  unfold writeAt
  cases write e more (f k) with
  | none => rfl
  | some l => exact Function.update_of_ne h l f

theorem writeAt_self : writeAt k e more f k = (write e more (f k)).getD (f k) := by
  unfold writeAt
  cases write e more (f k) with
  | none => rfl
  | some l => exact Function.update_self k l f

theorem met_of_length {l : List α} {l' : List β} (h : l.length = l'.length) :
    e.met l = e.met l' := by
  cases e with
  | any => rfl
  | present | absent =>
    cases l with
    | nil => rw [List.length_nil, eq_comm, List.length_eq_zero_iff] at h; rw [h]; rfl
    | cons a l =>
      cases l' with
      | nil => cases h
      | cons b l' => rfl
  | last n => simp only [Expect.met, h]

/-- Writing does not look at the entries. -/
theorem writeAt_map (t : α → β) (k' : κ) :
    writeAt k e (more.map t) (fun k => (f k).map t) k' = (writeAt k e more f k').map t := by
  have hmet : e.met ((f k).map t) = e.met (f k) := met_of_length (List.length_map t)
  simp only [writeAt, write, hmet]
  by_cases h : e.met (f k) = true
  · simp only [if_pos h]
    by_cases hk : k' = k
    · subst hk
      rw [Function.update_self, Function.update_self, List.map_append]
    · rw [Function.update_of_ne hk, Function.update_of_ne hk]
  · simp only [if_neg h]

end

end Kurrent.Lib
