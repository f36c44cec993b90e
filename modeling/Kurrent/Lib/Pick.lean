import Mathlib.Tactic.Common

/-!
# Shuffling and picking with random draws

`shuffle draw l` is the Fisher-Yates shuffle driven by the draws: from the last position
down, each element is swapped with one at or below it; it gives a permutation, and every
permutation for some draws (`shuffle_onto`). `minBy cmp` is the left fold that
keeps the smaller of two elements, where the comparison may consume draws; for one that
prefers some elements and draws among them, `minBy_preferring_iff` says what it can return.
-/

namespace Kurrent.Lib

open scoped List

variable {α : Type}

/-- Positions `i` down to `1`, each swapped with a drawn position at or below it. -/
def shuffleFrom (draw : Nat → Nat) : Nat → Array α → Array α
  | 0, a => a
  | i + 1, a => shuffleFrom draw i (a.swapIfInBounds (i + 1) (draw (i + 1) % (i + 2)))

def shuffle (draw : Nat → Nat) (l : List α) : List α :=
  (shuffleFrom draw (l.length - 1) l.toArray).toList

theorem swapIfInBounds_perm (a : Array α) (i j : Nat) : (a.swapIfInBounds i j).Perm a := by
  rw [Array.swapIfInBounds_def]
  split
  · split
    · exact Array.swap_perm _ _
    · exact .rfl
  · exact .rfl

theorem shuffleFrom_perm (draw : Nat → Nat) :
    ∀ (i : Nat) (a : Array α), (shuffleFrom draw i a).Perm a
  | 0, _ => .rfl
  | i + 1, a => (shuffleFrom_perm draw i _).trans (swapIfInBounds_perm a _ _)

theorem shuffle_perm (draw : Nat → Nat) (l : List α) : (shuffle draw l).Perm l :=
  (shuffleFrom_perm draw _ _).toList

/-! ## Arrangements -/

/-- Only the draws for the positions down from `i` count. -/
theorem shuffleFrom_congr {draw draw' : Nat → Nat} :
    ∀ {i : Nat} {a : Array α}, (∀ k ≤ i, draw k = draw' k) →
      shuffleFrom draw i a = shuffleFrom draw' i a
  | 0, _, _ => rfl
  | i + 1, a, h => by
    unfold shuffleFrom
    rw [h (i + 1) (Nat.le_refl _)]
    exact shuffleFrom_congr fun k hk => h k (by omega)

theorem swapIfInBounds_split (p₁ p₂ tail : List α) (x y : α) :
    (p₁ ++ x :: (p₂ ++ y :: tail)).toArray.swapIfInBounds (p₁.length + p₂.length + 1) p₁.length =
      (p₁ ++ y :: (p₂ ++ x :: tail)).toArray := by
  have hlen : (p₁ ++ x :: p₂).length = p₁.length + p₂.length + 1 := by simp; omega
  have hassoc : ∀ z, p₁ ++ x :: (p₂ ++ z :: tail) = (p₁ ++ x :: p₂) ++ z :: tail := by simp
  rw [Array.swapIfInBounds_def, dif_pos (by simp; omega), dif_pos (by simp), List.swap_toArray,
    List.getElem_of_append rfl rfl, List.getElem_of_append (hassoc y) hlen, hassoc y, ← hlen]
  simp

theorem swapIfInBounds_self (a : Array α) (i : Nat) : a.swapIfInBounds i i = a := by
  rw [Array.swapIfInBounds_def]
  split
  · simp [Array.swap]
  · rfl

/-- Two elements, one of each list, change places. -/
theorem exchange_perm (x y : α) (xs ys : List α) :
    ((y :: xs) ++ (x :: ys)).Perm ((x :: xs) ++ (y :: ys)) := by
  calc (y :: xs) ++ (x :: ys)
    _ ~ y :: x :: (xs ++ ys) := List.perm_middle.cons y
    _ ~ x :: y :: (xs ++ ys) := .swap x y _
    _ ~ (x :: xs) ++ (y :: ys) := (List.perm_middle.cons x).symm

/-- Every arrangement of the first `i + 1` elements is reached by some draws. -/
theorem shuffleFrom_onto : ∀ (i : Nat) (l l' tail : List α), l.length = i + 1 → l'.Perm l →
    ∃ draw, shuffleFrom draw i (l ++ tail).toArray = (l' ++ tail).toArray := by
  intro i
  induction i with
  | zero =>
    intro l l' tail hl hp
    obtain ⟨x, rfl⟩ := List.length_eq_one_iff.mp hl
    exact ⟨fun _ => 0, by rw [List.perm_singleton.mp hp]; rfl⟩
  | succ i ih =>
    intro l l' tail hl hp
    have hl' : l'.length = i + 2 := by rw [hp.length_eq, hl]
    obtain ⟨q, x, rfl⟩ := (List.eq_nil_or_concat l').resolve_left (by rintro rfl; cases hl')
    obtain ⟨p, y, rfl⟩ := (List.eq_nil_or_concat l).resolve_left (by rintro rfl; cases hl)
    have hlp : p.length = i + 1 := by simpa using hl
    simp only [List.concat_eq_append] at hp ⊢
    -- the last element is swapped into its place, and the rest is left to the draws below
    have place : ∀ (j : Nat) (r : List α), j < i + 2 → r.length = i + 1 → q.Perm r →
        (p ++ [y] ++ tail).toArray.swapIfInBounds (i + 1) j = (r ++ [x] ++ tail).toArray →
        ∃ draw, shuffleFrom draw (i + 1) (p ++ [y] ++ tail).toArray = (q ++ [x] ++ tail).toArray := by
      intro j r hj hr hq hswap
      obtain ⟨draw, hd⟩ := ih r q (x :: tail) hr hq
      refine ⟨fun k => if k = i + 1 then j else draw k, ?_⟩
      unfold shuffleFrom
      simp only [if_true, Nat.mod_eq_of_lt hj, hswap]
      rw [shuffleFrom_congr fun k hk => (if_neg (by omega) : _ = draw k)]
      simpa using hd
    have hx : x ∈ p ++ [y] := hp.mem_iff.mp (by simp)
    rcases List.mem_append.mp hx with hx | hx
    · obtain ⟨p₁, p₂, rfl⟩ := List.append_of_mem hx
      have hlen : p₁.length + p₂.length = i := by simp at hlp; omega
      refine place p₁.length (p₁ ++ y :: p₂) (by omega) (by simpa using hlp) ?_ ?_
      · refine (List.perm_append_right_iff [x]).mp (hp.trans ?_)
        simpa using (exchange_perm y x p₂ []).append_left p₁
      · have := swapIfInBounds_split p₁ p₂ tail x y
        rw [hlen] at this
        simpa using this
    · obtain rfl := List.mem_singleton.mp hx
      refine place (i + 1) p (by omega) hlp ?_ (swapIfInBounds_self _ _)
      exact (List.perm_append_right_iff [x]).mp hp

/-- **Every arrangement can be drawn.** -/
theorem shuffle_onto {l l' : List α} (h : l'.Perm l) : ∃ draw, shuffle draw l = l' := by
  cases l with
  | nil => exact ⟨fun _ => 0, by rw [List.perm_nil.mp h]; rfl⟩
  | cons x xs =>
    obtain ⟨draw, hd⟩ := shuffleFrom_onto xs.length (x :: xs) l' [] rfl h
    refine ⟨draw, ?_⟩
    simp only [List.append_nil] at hd
    unfold shuffle
    simp [hd]

theorem perm_cons_of_mem {x : α} {l : List α} (h : x ∈ l) : ∃ l', l.Perm (x :: l') := by
  obtain ⟨l₁, l₂, rfl⟩ := List.append_of_mem h
  exact ⟨l₁ ++ l₂, List.perm_middle⟩

/-- Every arrangement of `l` is one of `xs` followed by one of `ys` exactly when `l` consists of
the two and they cannot be told apart. -/
theorem arrangements_split_iff {l xs ys : List α} :
    (∀ l' : List α, l'.Perm l → ∃ us vs : List α, l' = us ++ vs ∧ us.Perm xs ∧ vs.Perm ys) ↔
      l.Perm (xs ++ ys) ∧ ∀ x ∈ xs, ∀ y ∈ ys, x = y := by
  constructor
  · intro h
    have hl : l.Perm (xs ++ ys) := by
      obtain ⟨us, vs, rfl, hu, hv⟩ := h l .rfl
      exact hu.append hv
    refine ⟨hl, ?_⟩
    intro x hx y hy
    obtain ⟨xs', hxs⟩ := perm_cons_of_mem hx
    obtain ⟨ys', hys⟩ := perm_cons_of_mem hy
    -- the arrangement in which the two have changed places
    have hex : ((y :: xs') ++ (x :: ys')).Perm l :=
      (exchange_perm x y xs' ys').trans ((hxs.append hys).symm.trans hl.symm)
    obtain ⟨us, vs, heq, hu, -⟩ := h _ hex
    have hlen : (y :: xs').length = us.length := by rw [hu.length_eq, hxs.length_eq]; rfl
    obtain ⟨rfl, -⟩ := List.append_inj heq hlen
    have hone : [y].Perm [x] := (List.perm_append_right_iff xs').mp (hu.trans hxs)
    exact (List.singleton_perm_singleton.mp hone).symm
  · rintro ⟨hl, hxy⟩ l' hl'
    have hp := hl'.trans hl
    cases xs with
    | nil => exact ⟨[], l', rfl, .rfl, hp⟩
    | cons x xs =>
      cases ys with
      | nil => exact ⟨l', [], by simp, by simpa using hp, .rfl⟩
      | cons y ys =>
        -- all elements are the same one
        have hx : ∀ a ∈ x :: xs, a = y := fun a ha => hxy a ha y (by simp)
        have hy : ∀ b ∈ y :: ys, b = y := by
          intro b hb
          rw [← hxy x (by simp) b hb]
          exact hx x (by simp)
        rw [List.eq_replicate_of_mem hx, List.eq_replicate_of_mem hy] at hp ⊢
        rw [List.replicate_append_replicate, List.perm_replicate] at hp
        exact ⟨_, _, hp.trans List.replicate_append_replicate.symm, .rfl, .rfl⟩

/-! ## The smallest element -/

/-- Fold the rest of the list into the best element so far; the comparison is given the
number of draws already made and returns the new one. -/
def minByFrom (cmp : Nat → α → α → Ordering × Nat) : Nat → α → List α → α × Nat
  | k, x, [] => (x, k)
  | k, x, y :: ys =>
    match cmp k x y with
    | (.gt, k') => minByFrom cmp k' y ys
    | (_, k') => minByFrom cmp k' x ys

def minBy (cmp : Nat → α → α → Ordering × Nat) (k : Nat) : List α → Option α × Nat
  | [] => (none, k)
  | x :: xs => let (m, k') := minByFrom cmp k x xs; (some m, k')

theorem minByFrom_mem (cmp : Nat → α → α → Ordering × Nat) :
    ∀ (xs : List α) (k : Nat) (x : α), (minByFrom cmp k x xs).1 ∈ x :: xs
  | [], _, _ => by simp [minByFrom]
  | y :: ys, k, x => by
    unfold minByFrom
    split
    · exact List.mem_cons_of_mem _ (minByFrom_mem cmp ys _ y)
    · next k' _ _ =>
      rcases List.mem_cons.mp (minByFrom_mem cmp ys k' x) with h | h
      · rw [h]; exact List.mem_cons_self
      · exact List.mem_cons_of_mem _ (List.mem_cons_of_mem _ h)

theorem minBy_eq_none {cmp : Nat → α → α → Ordering × Nat} {k : Nat} {l : List α} :
    (minBy cmp k l).1 = none ↔ l = [] := by
  cases l <;> simp [minBy]

theorem minBy_mem {cmp : Nat → α → α → Ordering × Nat} {k : Nat} {l : List α} {m : α}
    (h : (minBy cmp k l).1 = some m) : m ∈ l := by
  cases l with
  | nil => cases h
  | cons x xs => cases h; exact minByFrom_mem cmp xs k x

/-! ## Preferred elements and drawn ties -/

section

variable {β : Type} {p : α → Bool} {keep : β → Bool} {draw : Nat → β}

/-- A comparison that is no order: a preferred element comes first, two preferred ones are
told apart by a draw, and of two others the second wins. -/
def preferring (p : α → Bool) (keep : β → Bool) (draw : Nat → β) (k : Nat) (x y : α) :
    Ordering × Nat :=
  match p x, p y with
  | true, true => (if keep (draw k) then .lt else .gt, k + 1)
  | true, false => (.lt, k)
  | false, _ => (.gt, k)

/-- Only the draws from `k` on count. -/
theorem minByFrom_preferring_congr {draw' : Nat → β} :
    ∀ {xs : List α} {k : Nat} {x : α}, (∀ n, k ≤ n → draw n = draw' n) →
      minByFrom (preferring p keep draw) k x xs = minByFrom (preferring p keep draw') k x xs := by
  intro xs
  induction xs with
  | nil => intros; rfl
  | cons y ys ih =>
    intro k x h
    have hnext : ∀ z, minByFrom (preferring p keep draw) (k + 1) z ys =
        minByFrom (preferring p keep draw') (k + 1) z ys := fun z => ih fun n hn => h n (by omega)
    simp only [minByFrom, preferring, h k (Nat.le_refl k)]
    cases p x <;> cases p y <;> simp only [ih h]
    cases keep (draw' k) <;> simp [hnext]

/-- A preferred element is returned if there is one. -/
theorem minByFrom_preferred :
    ∀ {xs : List α} {k : Nat} {x : α}, (∃ z ∈ x :: xs, p z = true) →
      p (minByFrom (preferring p keep draw) k x xs).1 = true := by
  intro xs
  induction xs with
  | nil =>
    intro k x h
    simpa [minByFrom] using h
  | cons y ys ih =>
    intro k x h
    simp only [minByFrom, preferring]
    cases hx : p x <;> cases hy : p y
    · exact ih (by simpa [hx, hy] using h)
    · exact ih ⟨y, by simp, hy⟩
    · exact ih ⟨x, by simp, hx⟩
    · cases keep (draw k)
      · exact ih ⟨y, by simp, hy⟩
      · exact ih ⟨x, by simp, hx⟩

/-- Without preferred elements each one gives way to the next. -/
theorem minByFrom_none_preferred :
    ∀ {xs : List α} {k : Nat} {x : α}, (∀ z ∈ x :: xs, p z = false) →
      (minByFrom (preferring p keep draw) k x xs).1 = (x :: xs).getLast (by simp) := by
  intro xs
  induction xs with
  | nil => intros; rfl
  | cons y ys ih =>
    intro k x h
    simp only [minByFrom, preferring, h x (by simp)]
    rw [ih fun z hz => h z (by simp [hz])]
    exact (List.getLast_cons (by simp)).symm

/-- Every preferred element is returned for some draws, when a draw can go either way. -/
theorem minByFrom_onto {yes no : β} (hyes : keep yes = true) (hno : keep no = false) :
    ∀ {xs : List α} {k : Nat} {x m : α}, m ∈ x :: xs → p m = true →
      ∃ draw, (minByFrom (preferring p keep draw) k x xs).1 = m := by
  intro xs
  induction xs with
  | nil =>
    intro k x m hm _
    exact ⟨fun _ => yes, (List.mem_singleton.mp hm).symm⟩
  | cons y ys ih =>
    intro k x m hm hp
    cases hx : p x with
    | false =>
      -- `y` is taken without a draw
      have hm' : m ∈ y :: ys := by
        rcases List.mem_cons.mp hm with rfl | hm
        · rw [hx] at hp; cases hp
        · exact hm
      obtain ⟨draw, hd⟩ := ih hm' hp
      exact ⟨draw, by simpa only [minByFrom, preferring, hx] using hd⟩
    | true =>
      cases hy : p y with
      | false =>
        -- `x` stays without a draw
        have hm' : m ∈ x :: ys := by
          rcases List.mem_cons.mp hm with rfl | hm
          · simp
          · rcases List.mem_cons.mp hm with rfl | hm
            · rw [hy] at hp; cases hp
            · simp [hm]
        obtain ⟨draw, hd⟩ := ih hm' hp
        exact ⟨draw, by simpa only [minByFrom, preferring, hx, hy] using hd⟩
      | true =>
        -- the draw decides: `x` if it is the one, else `y` or one that follows
        have drawn : ∀ b z, (if keep b then x else y) = z → m ∈ z :: ys →
            ∃ draw, (minByFrom (preferring p keep draw) k x (y :: ys)).1 = m := by
          intro b z hz hmz
          obtain ⟨draw, hd⟩ := ih (k := k + 1) hmz hp
          refine ⟨fun n => if n = k then b else draw n, ?_⟩
          have hrest : ∀ n, k + 1 ≤ n → (if n = k then b else draw n) = draw n :=
            fun n hn => if_neg (by omega)
          simp only [minByFrom, preferring, hx, hy, if_true]
          cases hb : keep b <;> simp only [hb, if_true, Bool.false_eq_true, if_false] at hz ⊢ <;>
            rw [minByFrom_preferring_congr hrest, hz, hd]
        by_cases hmx : m = x
        · exact drawn yes x (if_pos hyes) (by simp [hmx])
        · refine drawn no y (if_neg (by simp [hno])) ?_
          exact (List.mem_cons.mp hm).resolve_left hmx

/-- **What a drawn choice can return**: any preferred element; the last one if there is none. -/
theorem minBy_preferring_iff {yes no : β} (hyes : keep yes = true) (hno : keep no = false)
    {k : Nat} {l : List α} {m : α} :
    (∃ draw, (minBy (preferring p keep draw) k l).1 = some m) ↔
      if ∃ z ∈ l, p z = true then m ∈ l ∧ p m = true else l.getLast? = some m := by
  cases l with
  | nil => simp [minBy]
  | cons x xs =>
    simp only [minBy, Option.some.injEq]
    split
    · next h =>
      constructor
      · rintro ⟨draw, rfl⟩
        exact ⟨minByFrom_mem _ _ _ _, minByFrom_preferred h⟩
      · rintro ⟨hm, hp⟩
        exact minByFrom_onto hyes hno hm hp
    · next h =>
      have hnone : ∀ z ∈ x :: xs, p z = false := fun z hz => by
        rw [← Bool.not_eq_true]
        exact fun hp => h ⟨z, hz, hp⟩
      rw [List.getLast?_eq_some_getLast (by simp), Option.some.injEq]
      constructor
      · rintro ⟨draw, rfl⟩
        exact (minByFrom_none_preferred hnone).symm
      · rintro rfl
        exact ⟨fun _ => yes, minByFrom_none_preferred hnone⟩

end

end Kurrent.Lib
