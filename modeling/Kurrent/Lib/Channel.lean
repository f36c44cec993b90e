import Mathlib.Data.List.Infix

/-!
# Bounded channels

A queue between a sender and a receiver, with room for `cap` messages. A send finds room, or
has to wait for it, or learns that the receiver is gone; what is queued then goes with the
receiver. `Carries` is the account of a channel whose sends are known: what was taken out,
what is queued and what was lost are together what was sent, in that order, and nothing is
lost while the receiver is there.
-/

namespace Kurrent.Lib

variable {α : Type}

structure Chan (α : Type) where
  queue : List α
  /-- what the receiver has taken out, the latest last -/
  taken : List α
  /-- the receiver is there -/
  isOpen : Bool
  deriving DecidableEq, Repr

inductive Sending (α : Type) where
  | ok (c : Chan α)
  | full
  | closed
  deriving DecidableEq, Repr

namespace Chan

def empty : Chan α := ⟨[], [], true⟩

def send (cap : Nat) (c : Chan α) (a : α) : Sending α :=
  if c.isOpen then
    if c.queue.length < cap then .ok { c with queue := c.queue ++ [a] } else .full
  else .closed

def take (c : Chan α) : Option (Chan α) :=
  match c.isOpen, c.queue with
  | true, a :: queue => some { c with queue, taken := c.taken ++ [a] }
  | _, _ => none

/-- The receiver goes. -/
def close (c : Chan α) : Chan α := { c with queue := [], isOpen := false }

structure Carries (cap : Nat) (c : Chan α) (sent : List α) : Prop where
  room : c.queue.length ≤ cap
  closed : c.isOpen = false → c.queue = []
  order : ∃ lost, c.taken ++ c.queue ++ lost = sent ∧ (c.isOpen = true → lost = [])

section

variable {cap : Nat} {c c' : Chan α} {a : α} {sent : List α}

/-! ## Sending -/

theorem send_cases (cap : Nat) (c : Chan α) (a : α) :
    (c.isOpen = true ∧ c.queue.length < cap ∧
      c.send cap a = .ok { c with queue := c.queue ++ [a] }) ∨
    (c.isOpen = true ∧ cap ≤ c.queue.length ∧ c.send cap a = .full) ∨
    (c.isOpen = false ∧ c.send cap a = .closed) := by
  unfold send
  cases ho : c.isOpen with
  | false => exact .inr (.inr ⟨rfl, rfl⟩)
  | true =>
    by_cases h : c.queue.length < cap
    · exact .inl ⟨rfl, h, by simp [h]⟩
    · exact .inr (.inl ⟨rfl, by omega, by simp [h]⟩)

theorem send_room (a : α) (ho : c.isOpen = true) (hlt : c.queue.length < cap) :
    c.send cap a = .ok { c with queue := c.queue ++ [a] } := by
  unfold send
  rw [if_pos ho, if_pos hlt]

theorem send_closed (cap : Nat) (a : α) (ho : c.isOpen = false) : c.send cap a = .closed := by
  unfold send
  rw [ho]
  rfl

theorem send_ok (h : c.send cap a = .ok c') :
    c.isOpen = true ∧ c.queue.length < cap ∧ c' = { c with queue := c.queue ++ [a] } := by
  rcases send_cases cap c a with ⟨ho, hlt, hs⟩ | ⟨-, -, hs⟩ | ⟨-, hs⟩
  · rw [hs] at h
    cases h
    exact ⟨ho, hlt, rfl⟩
  · rw [hs] at h; cases h
  · rw [hs] at h; cases h

theorem take_some (h : c.take = some c') :
    ∃ a, c.isOpen = true ∧ c.queue = a :: c'.queue ∧ c'.isOpen = true ∧
      c'.taken = c.taken ++ [a] := by
  unfold take at h
  split at h
  · next a queue ho hq =>
    cases h
    exact ⟨a, ho, hq, ho, rfl⟩
  · cases h

/-- A message that waits can be taken. -/
theorem take_isSome (ho : c.isOpen = true) (hq : c.queue ≠ []) : ∃ c', c.take = some c' := by
  unfold take
  cases hc : c.queue with
  | nil => exact absurd hc hq
  | cons a queue => exact ⟨_, by rw [ho]⟩

/-! ## The account -/

theorem Carries.empty : Carries cap (empty : Chan α) [] :=
  ⟨Nat.zero_le _, fun h => (by cases h), [], rfl, fun _ => rfl⟩

theorem Carries.send (h : Carries cap c sent) (hs : c.send cap a = .ok c') :
    Carries cap c' (sent ++ [a]) := by
  obtain ⟨ho, hlt, rfl⟩ := send_ok hs
  obtain ⟨lost, hlost, hnone⟩ := h.order
  have hnil := hnone ho
  subst hnil
  refine ⟨?_, fun hc => ?_, [], ?_, fun _ => rfl⟩
  · simp only [List.length_append, List.length_singleton]
    omega
  · rw [show c.isOpen = false from hc] at ho
    cases ho
  · rw [← hlost]
    simp

theorem Carries.took (h : Carries cap c sent) (ht : c.take = some c') : Carries cap c' sent := by
  obtain ⟨a, ho, hq, ho', htaken⟩ := take_some ht
  obtain ⟨lost, hlost, hnone⟩ := h.order
  refine ⟨?_, fun hc => ?_, lost, ?_, fun _ => hnone ho⟩
  · have hroom := h.room
    rw [hq, List.length_cons] at hroom
    omega
  · rw [ho'] at hc
    cases hc
  · rw [← hlost, htaken, hq]
    simp

theorem Carries.close (h : Carries cap c sent) : Carries cap c.close sent := by
  obtain ⟨lost, hlost, -⟩ := h.order
  refine ⟨Nat.zero_le _, fun _ => rfl, c.queue ++ lost, ?_, fun ho => (by cases ho)⟩
  rw [← hlost]
  simp [Chan.close]

/-- **First in, first out**: the receiver has a prefix of what was sent. -/
theorem Carries.taken_prefix (h : Carries cap c sent) : c.taken <+: sent := by
  obtain ⟨lost, hlost, -⟩ := h.order
  exact ⟨c.queue ++ lost, by rw [← hlost, List.append_assoc]⟩

/-- While the receiver is there, what it has not taken is queued. -/
theorem Carries.open_eq (h : Carries cap c sent) (ho : c.isOpen = true) :
    c.taken ++ c.queue = sent := by
  obtain ⟨lost, hlost, hnone⟩ := h.order
  rw [← hlost, hnone ho, List.append_nil]

end

end Chan

end Kurrent.Lib
