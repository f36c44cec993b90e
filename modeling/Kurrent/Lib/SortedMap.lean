import Mathlib.Data.String.Basic

/-!
# Sorted maps

A sorted map as the list of its entries in ascending order of their keys. `insertEntry`
puts an entry in its place or writes over the one of its key; entries inserted in ascending
order are the map itself.
-/

namespace Kurrent.Lib

variable {κ A : Type} [LinearOrder κ]

def insertEntry (k : κ) (v : A) : List (κ × A) → List (κ × A)
  | [] => [(k, v)]
  | e :: m =>
    if k < e.1 then (k, v) :: e :: m
    else if k = e.1 then (k, v) :: m
    else e :: insertEntry k v m

/-- Each key is below the ones that follow. -/
def Ascending (m : List (κ × A)) : Prop := m.Pairwise fun a b => a.1 < b.1

/-- The entry of the greatest key comes last. -/
theorem insertEntry_of_lt {k : κ} {v : A} {m : List (κ × A)} (h : ∀ e ∈ m, e.1 < k) :
    insertEntry k v m = m ++ [(k, v)] := by
  induction m with
  | nil => rfl
  | cons e m ih =>
    have he := h e (by simp)
    unfold insertEntry
    rw [if_neg he.asymm, if_neg he.ne', ih fun e' he' => h e' (by simp [he'])]
    rfl

theorem foldl_insertEntry {es m : List (κ × A)} (h : Ascending (m ++ es)) :
    es.foldl (fun m e => insertEntry e.1 e.2 m) m = m ++ es := by
  induction es generalizing m with
  | nil => simp
  | cons e es ih =>
    have hlast : ∀ e' ∈ m, e'.1 < e.1 := fun e' he' =>
      (List.pairwise_append.mp h).2.2 e' he' e (by simp)
    rw [List.foldl_cons, insertEntry_of_lt hlast, ih (by rwa [List.append_assoc])]
    rw [List.append_assoc]
    rfl

end Kurrent.Lib
