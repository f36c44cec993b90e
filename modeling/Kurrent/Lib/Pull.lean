import Mathlib.Tactic.Common

/-!
# Readers of a response stream

`Incoming` is a response stream as its reader will find it: the messages, and after them
nothing more so far, the end, or a failure. A reader is given by the body of its loop, which
says what it does with the outcome of one `try_next`; `pull` is one call of the reader. A
call that goes round at the end of the stream does so without ever waiting, since an
exhausted stream answers at once: it `spins`.

`Safe` says that no call, however many are made, panics or spins. `safe_iff` reduces it to
what the body does with each message and with the end.
-/

namespace Kurrent.Lib

variable {σ ε α ρ : Type}

inductive Incoming (ε α : Type) where
  | wait
  | close
  | fail (e : ε)
  | msg (a : α) (rest : Incoming ε α)
  deriving DecidableEq, Repr

namespace Incoming

def size : Incoming ε α → Nat
  | msg _ rest => rest.size + 1
  | _ => 0

def All (P : α → Prop) : Incoming ε α → Prop
  | msg a rest => P a ∧ rest.All P
  | _ => True

/-- What comes after the messages. -/
def last : Incoming ε α → Incoming ε α
  | msg _ rest => rest.last
  | i => i

end Incoming

/-- What a reader does with the outcome of one `try_next`. -/
inductive Pass (σ ρ : Type) where
  | again (s : σ)
  | ret (r : ρ) (s : σ)
  /-- the reader gives the stream up -/
  | leave (s : σ)
  | panic (message : String)

/-- The reader goes on exactly when the message is good. -/
def Pass.Reads (good : Prop) : Pass σ ρ → Prop
  | again _ | ret _ _ => good
  | leave _ => False
  | panic _ => ¬ good

abbrev Body (σ ε α ρ : Type) := σ → Except ε (Option α) → Pass σ ρ

/-- What a call comes to. -/
inductive Got (σ ε α ρ : Type) where
  | waits
  | ret (r : ρ) (s : σ) (rest : Incoming ε α)
  | left (s : σ)
  | spins
  | panic (message : String)

/-- It returns, waits, or goes to look for another stream. -/
def Got.Fine : Got σ ε α ρ → Prop
  | waits | ret _ _ _ | left _ => True
  | spins | panic _ => False

def atEnd (body : Body σ ε α ρ) (s : σ) : Got σ ε α ρ :=
  match body s (.ok none) with
  | .again _ => .spins
  | .ret r s' => .ret r s' .close
  | .leave s' => .left s'
  | .panic m => .panic m

/-- A stream that has failed is exhausted. -/
def pull (body : Body σ ε α ρ) : σ → Incoming ε α → Got σ ε α ρ
  | _, .wait => .waits
  | s, .close => atEnd body s
  | s, .fail e =>
    match body s (.error e) with
    | .again s' => atEnd body s'
    | .ret r s' => .ret r s' .close
    | .leave s' => .left s'
    | .panic m => .panic m
  | s, .msg a rest =>
    match body s (.ok (some a)) with
    | .again s' => pull body s' rest
    | .ret r s' => .ret r s' rest
    | .leave s' => .left s'
    | .panic m => .panic m

/-- None of the next `n` calls panics or spins. -/
def Answers (body : Body σ ε α ρ) : Nat → σ → Incoming ε α → Prop
  | 0, _, _ => True
  | n + 1, s, i =>
    match pull body s i with
    | .waits | .left _ => True
    | .ret _ s' rest => Answers body n s' rest
    | .spins | .panic _ => False

def Safe (body : Body σ ε α ρ) (s : σ) (i : Incoming ε α) : Prop := ∀ n, Answers body n s i

section

variable {body : Body σ ε α ρ} {s s' : σ} {i rest : Incoming ε α} {a : α} {e : ε} {r : ρ}
  {m : String}

theorem safe_of_pull_ret (h : pull body s i = .ret r s' rest) :
    Safe body s i ↔ Safe body s' rest := by
  constructor
  · intro hs n
    have := hs (n + 1)
    simpa only [Answers, h] using this
  · intro hs n
    cases n with
    | zero => trivial
    | succ n =>
      simp only [Answers, h]
      exact hs n

theorem safe_of_pull_eq {j : Incoming ε α} (h : pull body s i = pull body s' j) :
    Safe body s i ↔ Safe body s' j := by
  have step : ∀ n, Answers body n s i ↔ Answers body n s' j := by
    intro n
    cases n with
    | zero => exact Iff.rfl
    | succ n => simp only [Answers, h]
  exact forall_congr' step

/-- A call that neither returns nor goes wrong is the last one on the stream. -/
theorem safe_of_fine (h : (pull body s i).Fine) (hr : ∀ r s' rest, pull body s i ≠ .ret r s' rest) :
    Safe body s i := by
  intro n
  cases n with
  | zero => trivial
  | succ n =>
    unfold Answers
    split
    · trivial
    · trivial
    · next h' => exact absurd h' (hr _ _ _)
    · next h' => rw [h'] at h; exact h
    · next h' => rw [h'] at h; exact h

theorem not_safe_of_pull (h : ¬ (pull body s i).Fine) : ¬ Safe body s i := by
  intro hs
  have h1 := hs 1
  unfold Answers at h1
  split at h1
  · next h' => rw [h'] at h; exact h trivial
  · next h' => rw [h'] at h; exact h trivial
  · next h' => rw [h'] at h; exact h trivial
  · exact h1
  · exact h1

theorem safe_wait : Safe body s .wait :=
  safe_of_fine trivial (fun _ _ _ => nofun)

/-- **What a reader survives**: every message is one its body can read, and the stream ends
in a way it can take. -/
theorem safe_iff {G : α → Prop} {E : Incoming ε α → Prop}
    (hmsg : ∀ s a, (body s (.ok (some a))).Reads (G a)) (hwait : E .wait)
    (hclose : ∀ s, Safe body s .close ↔ E .close)
    (hfail : ∀ s e, Safe body s (.fail e) ↔ E (.fail e)) (s : σ) (i : Incoming ε α) :
    Safe body s i ↔ i.All G ∧ E i.last := by
  induction i generalizing s with
  | wait => exact ⟨fun _ => ⟨trivial, hwait⟩, fun _ => safe_wait⟩
  | close => rw [hclose s]; exact ⟨fun h => ⟨trivial, h⟩, And.right⟩
  | fail e => rw [hfail s e]; exact ⟨fun h => ⟨trivial, h⟩, And.right⟩
  | msg a rest ih =>
    have hm := hmsg s a
    cases hb : body s (.ok (some a)) with
    | again s' =>
      rw [hb] at hm
      change G a at hm
      have hp : pull body s (.msg a rest) = pull body s' rest := by simp only [pull, hb]
      rw [safe_of_pull_eq hp, ih s']
      simp [Incoming.All, Incoming.last, hm]
    | ret r s' =>
      rw [hb] at hm
      change G a at hm
      have hp : pull body s (.msg a rest) = .ret r s' rest := by simp only [pull, hb]
      rw [safe_of_pull_ret hp, ih s']
      simp [Incoming.All, Incoming.last, hm]
    | leave s' => rw [hb] at hm; exact hm.elim
    | panic m =>
      rw [hb] at hm
      have hp : pull body s (.msg a rest) = .panic m := by simp only [pull, hb]
      refine iff_of_false (not_safe_of_pull (by rw [hp]; exact id)) ?_
      rintro ⟨⟨hgood, -⟩, -⟩
      exact hm hgood

end

end Kurrent.Lib
