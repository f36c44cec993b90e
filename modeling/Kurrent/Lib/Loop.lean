import Mathlib.Data.List.Forall2
import Mathlib.Tactic.Common

/-!
# Loops that return a value, and calls that may panic

`Flow σ ρ` is what one pass of a loop body does: go round `again` with a new state or be
`done` with a result. `Loop` packs a body with a measure that every further pass lowers,
so that `Loop.run` is total and computes by structural recursion. `run_rule` is the one
induction the users need: what holds at the end of a pass and is carried back through a
pass holds of the whole run.

`Call α` is the outcome of a call that either returns or panics; `readEach` reads a list by
calls that may also fail.
-/

namespace Kurrent.Lib

variable {σ ρ α β : Type}

inductive Flow (σ ρ : Type) where
  | again (s : σ)
  | done (r : ρ)
  deriving DecidableEq, Repr

/-- A loop body with a measure that bounds the passes left. -/
structure Loop (σ ρ : Type) where
  body : σ → Flow σ ρ
  measure : σ → Nat
  decreases : ∀ s s', body s = .again s' → measure s' < measure s

namespace Loop

def go (L : Loop σ ρ) : (n : Nat) → (s : σ) → L.measure s < n → ρ
  | 0, _, h => absurd h (Nat.not_lt_zero _)
  | n + 1, s, h =>
    match hb : L.body s with
    | .done r => r
    | .again s' => L.go n s' (Nat.lt_of_lt_of_le (L.decreases s s' hb) (Nat.le_of_lt_succ h))

/-- The value the loop returns when entered with `s`. -/
def run (L : Loop σ ρ) (s : σ) : ρ := L.go (L.measure s + 1) s (Nat.lt_succ_self _)

theorem go_rule (L : Loop σ ρ) {P : σ → ρ → Prop}
    (hdone : ∀ s r, L.body s = .done r → P s r)
    (hagain : ∀ s s' r, L.body s = .again s' → P s' r → P s r) :
    ∀ (n : Nat) (s : σ) (h : L.measure s < n), P s (L.go n s h) := by
  intro n
  induction n with
  | zero => intro s h; exact absurd h (Nat.not_lt_zero _)
  | succ n ih =>
    intro s h
    unfold go
    split
    · next r hb => exact hdone s r hb
    · next s' hb => exact hagain s s' _ hb (ih s' _)

/-- **The loop rule**: a relation between entry state and result that holds when the body
returns and is carried back through a pass holds of the loop. -/
theorem run_rule (L : Loop σ ρ) {P : σ → ρ → Prop}
    (hdone : ∀ s r, L.body s = .done r → P s r)
    (hagain : ∀ s s' r, L.body s = .again s' → P s' r → P s r) (s : σ) : P s (L.run s) :=
  L.go_rule hdone hagain _ s _

/-- The loop rule with an invariant of the states at the head of the loop. -/
theorem run_inv (L : Loop σ ρ) {I : σ → Prop} {Q : ρ → Prop}
    (hdone : ∀ s r, I s → L.body s = .done r → Q r)
    (hagain : ∀ s s', I s → L.body s = .again s' → I s') {s : σ} (h : I s) : Q (L.run s) :=
  L.run_rule (P := fun s r => I s → Q r) (fun s r hb hi => hdone s r hi hb)
    (fun s s' _ hb ih hi => ih (hagain s s' hi hb)) s h

theorem go_irrel (L : Loop σ ρ) : ∀ (m n : Nat) (s : σ) (h : L.measure s < m) (k : L.measure s < n),
    L.go m s h = L.go n s k
  | 0, _, _, h, _ => absurd h (Nat.not_lt_zero _)
  | _, 0, _, _, k => absurd k (Nat.not_lt_zero _)
  | m + 1, n + 1, s, h, k => by
    unfold go
    split
    · rfl
    · next s' _ => exact go_irrel L m n s' _ _

theorem run_of_done {L : Loop σ ρ} {s : σ} {r : ρ} (h : L.body s = .done r) : L.run s = r := by
  unfold run go
  split
  · next r' hb => rw [h] at hb; cases hb; rfl
  · next s' hb => rw [h] at hb; cases hb

theorem run_of_again {L : Loop σ ρ} {s s' : σ} (h : L.body s = .again s') :
    L.run s = L.run s' := by
  conv_lhs => unfold run go
  split
  · next r' hb => rw [h] at hb; cases hb
  · next s'' hb => rw [h] at hb; cases hb; exact go_irrel L _ _ _ _ _

def headsGo (L : Loop σ ρ) : (n : Nat) → (s : σ) → L.measure s < n → List σ
  | 0, _, h => absurd h (Nat.not_lt_zero _)
  | n + 1, s, h =>
    match hb : L.body s with
    | .done _ => [s]
    | .again s' =>
      s :: L.headsGo n s' (Nat.lt_of_lt_of_le (L.decreases s s' hb) (Nat.le_of_lt_succ h))

/-- The states at the head of the loop, one for each pass, the entry first. -/
def heads (L : Loop σ ρ) (s : σ) : List σ := L.headsGo (L.measure s + 1) s (Nat.lt_succ_self _)

theorem headsGo_rule (L : Loop σ ρ) {P : σ → List σ → ρ → Prop}
    (hdone : ∀ s r, L.body s = .done r → P s [s] r)
    (hagain : ∀ s s' l r, L.body s = .again s' → P s' l r → P s (s :: l) r) :
    ∀ (n : Nat) (s : σ) (h : L.measure s < n), P s (L.headsGo n s h) (L.go n s h) := by
  intro n
  induction n with
  | zero => intro s h; exact absurd h (Nat.not_lt_zero _)
  | succ n ih =>
    intro s h
    unfold headsGo go
    split
    · next r hb => exact hdone s r hb
    · next s' hb => exact hagain s s' _ _ hb (ih s' _)

/-- The loop rule for the passes and the result together. -/
theorem heads_rule (L : Loop σ ρ) {P : σ → List σ → ρ → Prop}
    (hdone : ∀ s r, L.body s = .done r → P s [s] r)
    (hagain : ∀ s s' l r, L.body s = .again s' → P s' l r → P s (s :: l) r) (s : σ) :
    P s (L.heads s) (L.run s) :=
  L.headsGo_rule hdone hagain _ s _

/-- The loop entered with `s` comes by the state at its head. -/
inductive Visits (L : Loop σ ρ) (s : σ) : σ → Prop where
  | entry : Visits L s s
  | pass {t u : σ} : Visits L s t → L.body t = .again u → Visits L s u

/-- What every pass keeps holds at every head the loop comes by. -/
theorem Visits.inv {L : Loop σ ρ} {s t : σ} {I : σ → Prop} (hv : L.Visits s t)
    (hagain : ∀ s s', I s → L.body s = .again s' → I s') (h : I s) : I t := by
  induction hv with
  | entry => exact h
  | pass _ hb ih => exact hagain _ _ ih hb

end Loop

/-! ## Calls that may panic -/

inductive Call (α : Type) where
  | ret (a : α)
  | panic (message : String)
  deriving DecidableEq, Repr

namespace Call

def bind : Call α → (α → Call β) → Call β
  | ret a, f => f a
  | panic m, _ => panic m

instance : Monad Call where
  pure := ret
  bind := bind

@[simp] theorem pure_eq (a : α) : (pure a : Call α) = ret a := rfl

@[simp] theorem ret_bind (a : α) (f : α → Call β) : (ret a >>= f) = f a := rfl

@[simp] theorem panic_bind (m : String) (f : α → Call β) : (panic m >>= f) = panic m := rfl

/-- What a sequence of two calls returned comes from what each of them returned. -/
theorem bind_eq_ret {x : Call α} {f : α → Call β} {b : β} (h : (x >>= f) = ret b) :
    ∃ a, x = ret a ∧ f a = ret b := by
  cases x with
  | ret a => exact ⟨a, rfl, h⟩
  | panic m => cases h

/-- `unwrap` and `expect`. -/
def expect (message : String) : Option α → Call α
  | some a => ret a
  | none => panic message

theorem expect_eq_ret {m : String} {o : Option α} {a : α} (h : expect m o = ret a) :
    o = some a := by
  cases o with
  | none => cases h
  | some b => cases h; rfl

end Call

/-- A computation that succeeds does so step by step. -/
theorem bind_eq_ok {E A B : Type} {x : Except E A} {f : A → Except E B} {b : B}
    (h : x >>= f = .ok b) : ∃ a, x = .ok a ∧ f a = .ok b := by
  cases x with
  | error e => cases h
  | ok a => exact ⟨a, rfl, h⟩

theorem map_eq_ok {E A B : Type} {x : Except E A} {f : A → B} {b : B} (h : x.map f = .ok b) :
    ∃ a, x = .ok a ∧ f a = b := by
  cases x with
  | error e => cases h
  | ok a => exact ⟨a, rfl, Except.ok.inj h⟩

/-- What one step keeps, a loop that goes through keeps. -/
theorem foldlM_inv {E A B : Type} {f : B → A → Except E B} {I : B → Prop}
    (hstep : ∀ b a b', f b a = .ok b' → I b → I b') {l : List A} :
    ∀ {b b' : B}, l.foldlM f b = .ok b' → I b → I b' := by
  induction l with
  | nil => intro b b' h hb; cases h; exact hb
  | cons a l ih =>
    intro b b' h hb
    rw [List.foldlM_cons] at h
    obtain ⟨c, hc, h⟩ := bind_eq_ok h
    exact ih h (hstep b a c hc hb)

theorem toOption_bind {E A B : Type} (x : Except E A) (f : A → Except E B) :
    (x >>= f).toOption = x.toOption.bind fun a => (f a).toOption := by
  cases x with
  | error e => rfl
  | ok a => rfl

/-- A loop that may fail, without its errors. -/
theorem toOption_foldlM {E A B : Type} {f : B → A → Except E B} (l : List A) (b : B) :
    (l.foldlM f b).toOption = l.foldlM (fun b a => (f b a).toOption) b := by
  induction l generalizing b with
  | nil => rfl
  | cons a l ih =>
    simp only [List.foldlM_cons]
    rw [toOption_bind]
    exact congrArg _ (funext ih)

theorem exists_ok {E A : Type} {x : Except E A} (h : x.toOption.isSome = true) :
    ∃ a, x = .ok a := by
  cases x with
  | error e => cases h
  | ok a => exact ⟨a, rfl⟩

/-- A list is decoded when every item is. -/
theorem mapM_eq_ok {E A B : Type} {f : A → Except E B} {as : List A} {bs : List B} :
    as.mapM f = .ok bs ↔ List.Forall₂ (fun a b => f a = .ok b) as bs := by
  induction as generalizing bs with
  | nil =>
    rw [List.forall₂_nil_left_iff]
    exact ⟨fun h => by cases h; rfl, fun h => by rw [h]; rfl⟩
  | cons a as ih =>
    rw [List.forall₂_cons_left_iff, List.mapM_cons]
    constructor
    · intro h
      obtain ⟨b, hb, h⟩ := bind_eq_ok h
      obtain ⟨bs, hbs, h⟩ := bind_eq_ok h
      cases h
      exact ⟨b, bs, hb, ih.mp hbs, rfl⟩
    · rintro ⟨b, bs, hb, hbs, rfl⟩
      rw [hb, ih.mpr hbs]
      rfl

/-! ## Reading a list -/

/-- Two relations item by item are the two relations one after the other. -/
theorem forall₂_comp {A B C : Type} {R : A → B → Prop} {S : B → C → Prop} {as : List A}
    {cs : List C} : List.Forall₂ (fun a c => ∃ b, R a b ∧ S b c) as cs ↔
      ∃ bs, List.Forall₂ R as bs ∧ List.Forall₂ S bs cs := by
  constructor
  · intro h
    induction h with
    | nil => exact ⟨[], .nil, .nil⟩
    | cons hac _ ih =>
      obtain ⟨b, hr, hs⟩ := hac
      obtain ⟨bs, hrs, hss⟩ := ih
      exact ⟨b :: bs, .cons hr hrs, .cons hs hss⟩
  · rintro ⟨bs, hrs, hss⟩
    induction hrs generalizing cs with
    | nil =>
      cases hss
      exact .nil
    | cons hr _ ih =>
      cases hss with
      | cons hs hss => exact .cons ⟨_, hr, hs⟩ (ih hss)

theorem exists_of_mem_right {R : α → β → Prop} {as : List α} {bs : List β}
    (h : List.Forall₂ R as bs) {b : β} (hb : b ∈ bs) : ∃ a ∈ as, R a b := by
  induction h with
  | nil => cases hb
  | cons hr _ ih =>
    rcases List.mem_cons.mp hb with rfl | hb
    · exact ⟨_, List.mem_cons_self, hr⟩
    · obtain ⟨a, ha, hr⟩ := ih hb
      exact ⟨a, List.mem_cons_of_mem _ ha, hr⟩

section

variable {E : Type} {read : α → Call (Except E β)}

/-- A loop that reads one item after the other; the first error ends it. -/
def readEach (read : α → Call (Except E β)) : List α → Call (Except E (List β))
  | [] => .ret (.ok [])
  | a :: rest => do
    match ← read a with
    | .error e => return .error e
    | .ok b =>
      match ← readEach read rest with
      | .error e => return .error e
      | .ok bs => return .ok (b :: bs)

theorem readEach_eq_ok {as : List α} {bs : List β} :
    readEach read as = .ret (.ok bs) ↔ List.Forall₂ (fun a b => read a = .ret (.ok b)) as bs := by
  induction as generalizing bs with
  | nil =>
    rw [List.forall₂_nil_left_iff, readEach]
    exact ⟨fun h => by cases h; rfl, fun h => by rw [h]⟩
  | cons a as ih =>
    rw [List.forall₂_cons_left_iff, readEach]
    constructor
    · intro h
      obtain ⟨r, hr, h⟩ := Call.bind_eq_ret h
      cases r with
      | error e => cases h
      | ok b =>
        obtain ⟨rs, hrs, h⟩ := Call.bind_eq_ret h
        cases rs with
        | error e => cases h
        | ok bs =>
          cases h
          exact ⟨b, bs, hr, ih.mp hrs, rfl⟩
    · rintro ⟨b, bs, hr, hrs, rfl⟩
      rw [hr, Call.ret_bind]
      simp only [ih.mpr hrs, Call.ret_bind]
      rfl

/-- A loop returns when every read does. -/
theorem readEach_returns {as : List α} (h : ∀ a ∈ as, ∃ r, read a = .ret r) :
    ∃ r, readEach read as = .ret r := by
  induction as with
  | nil => exact ⟨_, rfl⟩
  | cons a as ih =>
    obtain ⟨⟨r, hr⟩, hrest⟩ := List.forall_mem_cons.mp h
    obtain ⟨rs, hrs⟩ := ih hrest
    rw [readEach, hr, Call.ret_bind]
    cases r with
    | error e => exact ⟨_, rfl⟩
    | ok b =>
      simp only [hrs, Call.ret_bind]
      cases rs with
      | error e => exact ⟨_, rfl⟩
      | ok bs => exact ⟨_, rfl⟩

end

end Kurrent.Lib
