import Mathlib.Tactic.Common

/-!
# Runs of a partial step function

A system of communicating parties is a function `step : σ → ι → Option σ`: the label `ι`
says which party moves and what it sees, `none` that the move is not enabled. `exec` runs
a list of labels, `Along` says that every step of a run meets a condition on the state
before it and its label, `Occurs` that some step does, and `exec_inv`, `exec_along` and
`exec_occurs` are the invariant rules.
-/

namespace Kurrent.Lib

variable {σ ι : Type} {step : σ → ι → Option σ}

/-- The state after the labels, if each of them is enabled in turn. -/
def exec (step : σ → ι → Option σ) : σ → List ι → Option σ
  | s, [] => some s
  | s, i :: is => (step s i).bind fun s' => exec step s' is

/-- Every step of the run from `s` meets `C`. -/
def Along (step : σ → ι → Option σ) (C : σ → ι → Prop) : σ → List ι → Prop
  | _, [] => True
  | s, i :: is => C s i ∧ ∀ s', step s i = some s' → Along step C s' is

/-- `s` is the state after some run from `s₀`. -/
def Reachable (step : σ → ι → Option σ) (s₀ s : σ) : Prop := ∃ is, exec step s₀ is = some s

@[simp] theorem exec_nil (s : σ) : exec step s [] = some s := rfl

theorem exec_cons {s s' : σ} {i : ι} {is : List ι} :
    exec step s (i :: is) = some s' ↔ ∃ t, step s i = some t ∧ exec step t is = some s' := by
  simp only [exec, Option.bind_eq_some_iff]

theorem exec_append {s s' : σ} {is js : List ι} :
    exec step s (is ++ js) = some s' ↔ ∃ t, exec step s is = some t ∧ exec step t js = some s' := by
  induction is generalizing s with
  | nil => simp
  | cons i is ih =>
    simp only [List.cons_append, exec_cons, ih]
    constructor
    · rintro ⟨t, ht, u, hu, hs⟩; exact ⟨u, ⟨t, ht, hu⟩, hs⟩
    · rintro ⟨u, ⟨t, ht, hu⟩, hs⟩; exact ⟨t, ht, u, hu, hs⟩

/-- **The invariant rule**: what every step keeps, every run keeps. -/
theorem exec_inv {P : σ → Prop} (hstep : ∀ s i s', P s → step s i = some s' → P s')
    {is : List ι} {s s' : σ} (h : P s) (hrun : exec step s is = some s') : P s' := by
  induction is generalizing s with
  | nil => cases hrun; exact h
  | cons i is ih =>
    obtain ⟨t, ht, hrest⟩ := exec_cons.mp hrun
    exact ih (hstep s i t h ht) hrest

/-- A property that is false before a run and true after it becomes true at one of its
steps. -/
theorem exec_turns {P : σ → Prop} {is : List ι} {s s' : σ} (hrun : exec step s is = some s')
    (hs : ¬ P s) (hs' : P s') :
    ∃ js i ks t t', is = js ++ i :: ks ∧ exec step s js = some t ∧ step t i = some t' ∧
      exec step t' ks = some s' ∧ ¬ P t ∧ P t' := by
  induction is generalizing s with
  | nil => cases hrun; exact absurd hs' hs
  | cons i is ih =>
    obtain ⟨t, ht, hrest⟩ := exec_cons.mp hrun
    by_cases hp : P t
    · exact ⟨[], i, is, s, t, rfl, rfl, ht, hrest, hs, hp⟩
    · obtain ⟨js, j, ks, u, u', rfl, hjs, hst, hks, hu, hu'⟩ := ih hrest hp
      exact ⟨i :: js, j, ks, u, u', rfl, exec_cons.mpr ⟨t, ht, hjs⟩, hst, hks, hu, hu'⟩

theorem Along.cons {C : σ → ι → Prop} {s t : σ} {i : ι} {is : List ι} (hc : C s i)
    (hst : step s i = some t) (h : Along step C t is) : Along step C s (i :: is) := by
  refine ⟨hc, fun s' hs' => ?_⟩
  rw [hst] at hs'
  cases hs'
  exact h

/-- The invariant rule for runs whose steps all meet `C`. -/
theorem exec_along {P : σ → Prop} {C : σ → ι → Prop}
    (hstep : ∀ s i s', P s → C s i → step s i = some s' → P s') {is : List ι} {s s' : σ}
    (h : P s) (hc : Along step C s is) (hrun : exec step s is = some s') : P s' := by
  induction is generalizing s with
  | nil => cases hrun; exact h
  | cons i is ih =>
    obtain ⟨t, ht, hrest⟩ := exec_cons.mp hrun
    exact ih (hstep s i t h hc.1 ht) (hc.2 t ht) hrest

/-- **The simulation rule**: where every step that meets `C` is matched by a run of another
system, so is every run whose steps all do. -/
theorem exec_simulates {τ κ : Type} {astep : τ → κ → Option τ} {R : σ → τ → Prop}
    {C : σ → ι → Prop}
    (hstep : ∀ s a i s', R s a → C s i → step s i = some s' →
      ∃ js a', exec astep a js = some a' ∧ R s' a')
    {is : List ι} {s s' : σ} {a : τ} (h : R s a) (hc : Along step C s is)
    (hrun : exec step s is = some s') : ∃ js a', exec astep a js = some a' ∧ R s' a' := by
  induction is generalizing s a with
  | nil => cases hrun; exact ⟨[], a, rfl, h⟩
  | cons i is ih =>
    obtain ⟨t, ht, hrest⟩ := exec_cons.mp hrun
    obtain ⟨js, b, hjs, hb⟩ := hstep s a i t h hc.1 ht
    obtain ⟨ks, a', hks, ha'⟩ := ih hb (hc.2 t ht) hrest
    exact ⟨js ++ ks, a', exec_append.mpr ⟨b, hjs, hks⟩, ha'⟩

/-- Some step of the run from `s` meets `C`. -/
def Occurs (step : σ → ι → Option σ) (C : σ → ι → Prop) (s : σ) (is : List ι) : Prop :=
  ∃ js i ks t, is = js ++ i :: ks ∧ exec step s js = some t ∧ C t i

theorem Occurs.later {C : σ → ι → Prop} {s t : σ} {i : ι} {is : List ι} (hst : step s i = some t)
    (h : Occurs step C t is) : Occurs step C s (i :: is) := by
  obtain ⟨js, j, ks, u, rfl, hu, hc⟩ := h
  exact ⟨i :: js, j, ks, u, rfl, exec_cons.mpr ⟨t, hst, hu⟩, hc⟩

/-- What every step keeps that does not meet `C` is kept, or `C` occurs. -/
theorem exec_occurs {P : σ → Prop} {C : σ → ι → Prop}
    (hstep : ∀ s i s', P s → step s i = some s' → C s i ∨ P s') {is : List ι} {s s' : σ}
    (h : P s) (hrun : exec step s is = some s') : Occurs step C s is ∨ P s' := by
  induction is generalizing s with
  | nil => cases hrun; exact .inr h
  | cons i is ih =>
    obtain ⟨t, ht, hrest⟩ := exec_cons.mp hrun
    rcases hstep s i t h ht with hc | hp
    · exact .inl ⟨[], i, is, s, rfl, rfl, hc⟩
    · exact (ih hp hrest).imp (Occurs.later ht) id

/-- What a step that meets `C` brings about and every step keeps, holds after it. -/
theorem Occurs.exec {P : σ → Prop} {C : σ → ι → Prop} {is : List ι} {s s' : σ}
    (h : Occurs step C s is) (hrun : exec step s is = some s')
    (hmeets : ∀ s i s', C s i → step s i = some s' → P s')
    (hkeeps : ∀ s i s', P s → step s i = some s' → P s') : P s' := by
  obtain ⟨js, i, ks, t, rfl, ht, hc⟩ := h
  obtain ⟨t', ht', hrest⟩ := exec_append.mp hrun
  rw [ht] at ht'
  cases ht'
  obtain ⟨u, hu, hrest⟩ := exec_cons.mp hrest
  exact exec_inv hkeeps (hmeets t i u hc hu) hrest

/-! ## What a run records -/

/-- Every entry of a record meets `C` with what was recorded before it. -/
def EachAfter {α : Type} (C : List α → α → Prop) (t : List α) : Prop :=
  ∀ before a after, t = before ++ a :: after → C before a

theorem eachAfter_nil {α : Type} {C : List α → α → Prop} : EachAfter C [] :=
  fun _ _ _ h => absurd h (by simp)

theorem EachAfter.concat {α : Type} {C : List α → α → Prop} {t : List α} {a : α}
    (h : EachAfter C t) (ha : C t a) : EachAfter C (t ++ [a]) := by
  intro before b after heq
  rcases List.eq_nil_or_concat after with rfl | ⟨after', c, rfl⟩
  · obtain ⟨rfl, hb⟩ := List.append_inj' heq rfl
    cases hb
    exact ha
  · rw [List.concat_eq_append, ← List.cons_append, ← List.append_assoc] at heq
    exact h before b after' (List.append_inj' heq rfl).1

theorem Reachable.refl (s : σ) : Reachable step s s := ⟨[], rfl⟩

theorem Reachable.trans {s t u : σ} (h : Reachable step s t) (h' : Reachable step t u) :
    Reachable step s u := by
  obtain ⟨is, his⟩ := h
  obtain ⟨js, hjs⟩ := h'
  exact ⟨is ++ js, exec_append.mpr ⟨t, his, hjs⟩⟩

end Kurrent.Lib
