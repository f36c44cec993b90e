import Mathlib.Data.List.Nodup
import Mathlib.Data.List.Perm.Subperm
import Kurrent.Lib.Run

/-!
# Tasks with a mailbox and one-shot replies

An actor owns its state and takes messages from a queue, one at a time and in the order
they were sent. A message may carry the sending half of a one-shot channel; the actor
answers it, keeps it for later, or drops it. `Slot` is what the receiving half sees: a
sender that is dropped without an answer closes the slot, and so does sending to an actor
that has stopped.

Between two messages the actor may work in several steps (`work`), each with its own input
from outside. `owns s` lists the one-shots held in state `s`; `Lawful` says that work only
passes them on. Under it `Sys.Inv` holds of every run: the slots that wait are exactly
those whose sender is in the actor's state or in the queue, each once. Hence nothing waits
for an actor that has stopped, and no slot is settled twice.
-/

namespace Kurrent.Lib

/-- The receiving half of a one-shot channel. -/
inductive Slot (α : Type) where
  | unused
  | waiting
  | answered (a : α)
  | closed
  deriving DecidableEq, Repr

def Slot.settled {α : Type} : Slot α → Prop
  | .answered _ | .closed => True
  | _ => False

theorem Slot.settled_of {α : Type} {s : Slot α} (hu : s ≠ .unused) (hw : s ≠ .waiting) :
    s.settled := by
  cases s with
  | unused => exact absurd rfl hu
  | waiting => exact absurd rfl hw
  | answered a => trivial
  | closed => trivial

structure Actor (σ μ ι α : Type) where
  /-- takes a message in hand; `none` when the actor is not waiting for one -/
  recv : σ → μ → Option σ
  /-- one piece of work: the answers sent and the state after it, `none` if the actor stops -/
  work : σ → ι → Option (List (Nat × α) × Option σ)
  /-- the one-shot a message carries -/
  carries : μ → Option Nat
  /-- the one-shots the state holds -/
  owns : σ → List Nat

variable {σ μ ι α : Type}

/-- One-shots are passed on, never copied or made up. -/
structure Actor.Lawful (A : Actor σ μ ι α) : Prop where
  recv : ∀ {s m s'}, A.recv s m = some s' → (A.owns s').Perm ((A.carries m).toList ++ A.owns s)
  work : ∀ {s i rs o}, A.work s i = some (rs, o) →
    (rs.map Prod.fst ++ o.elim [] A.owns).Subperm (A.owns s)

/-- An actor, its queue, and the slots of everyone who sent it a one-shot. -/
structure Sys (σ μ α : Type) where
  task : Option σ
  queue : List μ
  slots : Nat → Slot α

inductive Label (μ ι : Type) where
  | send (m : μ)
  | recv
  | work (i : ι)

/-- The slots after work: those answered, then those dropped, the rest as before. -/
def settle (slots : Nat → Slot α) (held : List Nat) (rs : List (Nat × α))
    (kept : List Nat) (r : Nat) : Slot α :=
  match rs.lookup r with
  | some a => .answered a
  | none => if r ∈ held ∧ r ∉ kept then .closed else slots r

namespace Sys

def init (s : σ) : Sys σ μ α := ⟨some s, [], fun _ => .unused⟩

/-- The one-shots whose sender is still alive. -/
def held (A : Actor σ μ ι α) (x : Sys σ μ α) : List Nat :=
  x.task.elim [] A.owns ++ x.queue.filterMap A.carries

def send (A : Actor σ μ ι α) (x : Sys σ μ α) (m : μ) : Option (Sys σ μ α) :=
  match A.carries m, x.task with
  | none, none => some x
  | none, some _ => some { x with queue := x.queue ++ [m] }
  | some r, none =>
    match x.slots r with
    | .unused => some { x with slots := Function.update x.slots r .closed }
    | _ => none
  | some r, some _ =>
    match x.slots r with
    | .unused => some { x with queue := x.queue ++ [m], slots := Function.update x.slots r .waiting }
    | _ => none

def step (A : Actor σ μ ι α) (x : Sys σ μ α) : Label μ ι → Option (Sys σ μ α)
  | .send m => x.send A m
  | .recv =>
    match x.task, x.queue with
    | some s, m :: queue => (A.recv s m).map fun s' => { x with task := some s', queue := queue }
    | _, _ => none
  | .work i =>
    match x.task with
    | none => none
    | some s =>
      match A.work s i with
      | none => none
      | some (rs, some s') =>
        some { x with task := some s', slots := settle x.slots (A.owns s) rs (A.owns s') }
      | some (rs, none) =>
        -- the receiver goes with the task, and the messages still queued with it
        some ⟨none, [], settle x.slots (x.held A) rs []⟩

/-- What waits is what is held, each once. -/
structure Inv (A : Actor σ μ ι α) (x : Sys σ μ α) : Prop where
  nodup : (x.held A).Nodup
  waiting : ∀ r, x.slots r = .waiting ↔ r ∈ x.held A
  stopped : x.task = none → x.queue = []

theorem init_inv (A : Actor σ μ ι α) {s : σ} (h : A.owns s = []) :
    Inv A (init s : Sys σ μ α) where
  nodup := by simp [held, init, h]
  waiting := by simp [held, init, h]
  stopped h := by cases h

end Sys

theorem lookup_isSome {rs : List (Nat × α)} {r : Nat} :
    (rs.lookup r).isSome = true ↔ r ∈ rs.map Prod.fst := by
  rw [List.lookup_isSome_iff, List.mem_map]
  simp only [beq_iff_eq, @eq_comm _ r]

theorem settle_waiting {slots : Nat → Slot α} {held kept : List Nat}
    {rs : List (Nat × α)} {r : Nat} (hd : (rs.map Prod.fst ++ kept).Nodup) (hk : kept ⊆ held)
    (hw : slots r = .waiting ↔ r ∈ held) :
    settle slots held rs kept r = .waiting ↔ r ∈ kept := by
  unfold settle
  split
  · next a ha =>
    have hr : r ∈ rs.map Prod.fst := lookup_isSome.mp (by rw [ha]; rfl)
    constructor
    · intro h; cases h
    · intro hmem
      exact absurd hmem (List.disjoint_of_nodup_append hd hr)
  · split
    · next hc =>
      constructor
      · intro h; cases h
      · intro hmem; exact absurd hmem hc.2
    · next hc =>
      rw [hw]
      constructor
      · intro hmem
        by_contra hn
        exact hc ⟨hmem, hn⟩
      · exact fun hmem => hk hmem

/-- Work leaves the slots that are not held alone. -/
theorem settle_of_notMem {slots : Nat → Slot α} {held kept : List Nat}
    {rs : List (Nat × α)} {r : Nat} (hr : r ∉ held) (hrs : rs.map Prod.fst ⊆ held) :
    settle slots held rs kept r = slots r := by
  unfold settle
  have : rs.lookup r = none := by
    rw [← Option.not_isSome_iff_eq_none, lookup_isSome]
    exact fun h => hr (hrs h)
  rw [this]
  exact if_neg fun h => hr h.1

namespace Sys

variable {A : Actor σ μ ι α} {x y : Sys σ μ α}

theorem held_of_task {s : σ} (h : x.task = some s) :
    x.held A = A.owns s ++ x.queue.filterMap A.carries := by
  simp [held, h]

theorem filterMap_snoc (f : μ → Option Nat) (l : List μ) (m : μ) :
    (l ++ [m]).filterMap f = l.filterMap f ++ (f m).toList := by
  rw [List.filterMap_append]
  cases h : f m <;> simp [h]

/-- **What a send can do.** -/
theorem send_cases {m : μ} (h : x.send A m = some y) :
    (∀ r, A.carries m = some r → x.slots r = .unused) ∧ y.task = x.task ∧
    ((x.task = none ∧ y.queue = x.queue ∧
      ∀ r, y.slots r = if A.carries m = some r then .closed else x.slots r) ∨
    (x.task ≠ none ∧ y.queue = x.queue ++ [m] ∧
      ∀ r, y.slots r = if A.carries m = some r then .waiting else x.slots r)) := by
  have updated : ∀ {r₀ : Nat} {v : Slot α} (r : Nat), A.carries m = some r₀ →
      Function.update x.slots r₀ v r = if A.carries m = some r then v else x.slots r := by
    intro r₀ v r hm
    by_cases hr : r = r₀
    · subst hr; simp [hm]
    · rw [hm, if_neg (by simpa using Ne.symm hr)]; exact Function.update_of_ne hr _ _
  unfold send at h
  split at h
  · next hm ht =>
    cases h
    exact ⟨by simp [hm], rfl, .inl ⟨ht, rfl, fun r => by simp [hm]⟩⟩
  · next s hm ht =>
    cases h
    exact ⟨by simp [hm], rfl, .inr ⟨by simp [ht], rfl, fun r => by simp [hm]⟩⟩
  · next r₀ hm ht =>
    split at h
    · next hu =>
      cases h
      exact ⟨fun r hr => by rw [hm] at hr; cases hr; exact hu, rfl,
        .inl ⟨ht, rfl, fun r => updated r hm⟩⟩
    · cases h
  · next r₀ s hm ht =>
    split at h
    · next hu =>
      cases h
      exact ⟨fun r hr => by rw [hm] at hr; cases hr; exact hu, rfl,
        .inr ⟨by simp [ht], rfl, fun r => updated r hm⟩⟩
    · cases h

/-- **What taking a message can do.** -/
theorem recv_cases (h : x.step A .recv = some y) :
    ∃ s m s', x.task = some s ∧ x.queue = m :: y.queue ∧ A.recv s m = some s' ∧
      y.task = some s' ∧ y.slots = x.slots := by
  simp only [step] at h
  split at h
  · next s m queue ht hq =>
    obtain ⟨s', hs', rfl⟩ := Option.map_eq_some_iff.mp h
    exact ⟨s, m, s', ht, hq, hs', rfl, rfl⟩
  · cases h

/-- **What work can do.** -/
theorem work_cases {i : ι} (h : x.step A (.work i) = some y) :
    ∃ s rs o, x.task = some s ∧ A.work s i = some (rs, o) ∧ y.task = o ∧
      ((∃ s', o = some s' ∧ y.queue = x.queue ∧
        y.slots = settle x.slots (A.owns s) rs (A.owns s')) ∨
      (o = none ∧ y.queue = [] ∧ y.slots = settle x.slots (x.held A) rs [])) := by
  simp only [step] at h
  split at h
  · cases h
  · next s ht =>
    split at h
    · cases h
    · next rs s' hw => cases h; exact ⟨s, rs, some s', ht, hw, rfl, .inl ⟨s', rfl, rfl, rfl⟩⟩
    · next rs hw => cases h; exact ⟨s, rs, none, ht, hw, rfl, .inr ⟨rfl, rfl, rfl⟩⟩

/-- An actor that has stopped takes no message, works no more, and stays stopped. -/
theorem stopped_step {l : Label μ ι} (ht : x.task = none) (h : x.step A l = some y) :
    y.task = none ∧ ∃ m, l = .send m := by
  cases l with
  | send m =>
    obtain ⟨-, htask, -⟩ := send_cases h
    exact ⟨by rw [htask, ht], m, rfl⟩
  | recv =>
    obtain ⟨s, m, s', hs, -⟩ := recv_cases h
    rw [ht] at hs; cases hs
  | work i =>
    obtain ⟨s, rs, o, hs, -⟩ := work_cases h
    rw [ht] at hs; cases hs

theorem stopped_exec {ls : List (Label μ ι)} (ht : x.task = none)
    (h : exec (step A) x ls = some y) : y.task = none :=
  Lib.exec_inv (P := fun z => z.task = none) (fun _ _ _ hz hst => (stopped_step hz hst).1) ht h

theorem stopped_send {m : μ} {r : Nat} (ht : x.task = none) (hm : A.carries m = some r)
    (h : x.step A (.send m) = some y) : y.slots r = .closed := by
  obtain ⟨-, -, ⟨-, -, hslots⟩ | ⟨hne, -⟩⟩ := send_cases h
  · rw [hslots]; exact if_pos hm
  · exact absurd ht hne

/-! ## The invariant -/

theorem held_of_stopped (hi : Inv A x) (h : x.task = none) : x.held A = [] := by
  simp [held, h, hi.stopped h]

theorem Lawful.nodup {s : σ} {i : ι} {rs : List (Nat × α)} {o : Option σ} (hA : A.Lawful)
    (hn : (A.owns s).Nodup) (hw : A.work s i = some (rs, o)) :
    (rs.map Prod.fst ++ o.elim [] A.owns).Nodup := by
  obtain ⟨l, hperm, hsub⟩ := hA.work hw
  exact hperm.nodup_iff.mp (hn.sublist hsub)

theorem Lawful.answers_subset {s : σ} {i : ι} {rs : List (Nat × α)} {o : Option σ}
    (hA : A.Lawful) (hw : A.work s i = some (rs, o)) : rs.map Prod.fst ⊆ A.owns s :=
  fun _ hr => List.Subperm.subset (hA.work hw) (List.mem_append_left _ hr)

theorem send_inv {m : μ} (hi : Inv A x) (h : x.send A m = some y) : Inv A y := by
  obtain ⟨hun, htask, ⟨ht, hq, hslots⟩ | ⟨ht, hq, hslots⟩⟩ := send_cases h
  · have hx := held_of_stopped hi ht
    have hy : y.held A = [] := by simp [held, htask, ht, hq, hi.stopped ht]
    refine ⟨by rw [hy]; exact List.nodup_nil, fun r => ?_, fun _ => by rw [hq, hi.stopped ht]⟩
    rw [hy, hslots]
    split
    · simp
    · rw [hi.waiting, hx]
  · have hy : y.held A = x.held A ++ (A.carries m).toList := by
      simp only [held, htask, hq, filterMap_snoc, List.append_assoc]
    have hnew : ∀ r, A.carries m = some r → r ∉ x.held A := by
      intro r hr hmem
      rw [← hi.waiting, hun r hr] at hmem
      cases hmem
    refine ⟨?_, fun r => ?_, fun hn => absurd (htask ▸ hn) ht⟩
    · rw [hy, List.nodup_append]
      refine ⟨hi.nodup, by cases A.carries m <;> simp, ?_⟩
      rintro a ha b hb rfl
      exact hnew a (Option.mem_toList.mp hb) ha
    · rw [hy, hslots, List.mem_append, Option.mem_toList]
      split
      · next hr => simp [hr]
      · next hr => rw [hi.waiting]; simp [hr]

theorem recv_inv (hA : A.Lawful) (hi : Inv A x) (h : x.step A .recv = some y) : Inv A y := by
  obtain ⟨s, m, s', ht, hq, hr, hty, hslots⟩ := recv_cases h
  have hperm : (y.held A).Perm (x.held A) := by
    rw [held_of_task hty, held_of_task ht, hq]
    have h1 := (hA.recv hr).append_right (y.queue.filterMap A.carries)
    have h2 : ((A.carries m).toList ++ A.owns s).Perm (A.owns s ++ (A.carries m).toList) :=
      List.perm_append_comm
    have h3 : (m :: y.queue).filterMap A.carries =
        (A.carries m).toList ++ y.queue.filterMap A.carries := by
      cases hc : A.carries m <;> simp [hc]
    rw [h3, ← List.append_assoc]
    exact h1.trans (h2.append_right _)
  refine ⟨hperm.nodup_iff.mpr hi.nodup, fun r => ?_, fun hn => ?_⟩
  · rw [hslots, hi.waiting, hperm.mem_iff]
  · rw [hty] at hn; cases hn

theorem work_inv {i : ι} (hA : A.Lawful) (hi : Inv A x) (h : x.step A (.work i) = some y) :
    Inv A y := by
  obtain ⟨s, rs, o, ht, hw, hty, ⟨s', rfl, hq, hslots⟩ | ⟨rfl, hq, hslots⟩⟩ := work_cases h
  · have hx := @held_of_task _ _ _ _ A x s ht
    have hy := @held_of_task _ _ _ _ A y s' hty
    have hnx := hi.nodup
    rw [hx] at hnx
    have hnd : (rs.map Prod.fst ++ A.owns s').Nodup :=
      Lawful.nodup hA (List.Nodup.of_append_left hnx) hw
    have hkept : A.owns s' ⊆ A.owns s :=
      fun r hr => List.Subperm.subset (hA.work hw) (List.mem_append_right _ hr)
    refine ⟨?_, fun r => ?_, fun hn => by rw [hty] at hn; cases hn⟩
    · rw [hy, hq, List.nodup_append]
      rw [List.nodup_append] at hnx
      exact ⟨List.Nodup.of_append_right hnd, hnx.2.1, fun a ha b hb => hnx.2.2 a (hkept ha) b hb⟩
    · rw [hslots, hy, hq]
      by_cases hmem : r ∈ x.queue.filterMap A.carries
      · have hr : r ∉ A.owns s := fun hr => List.disjoint_of_nodup_append hnx hr hmem
        rw [settle_of_notMem hr (Lawful.answers_subset hA hw), hi.waiting, hx]
        simp [hmem]
      · have hwait : x.slots r = .waiting ↔ r ∈ A.owns s := by
          rw [hi.waiting, hx, List.mem_append]
          simp [hmem]
        rw [settle_waiting hnd hkept hwait, List.mem_append]
        simp [hmem]
  · have hy : y.held A = [] := by simp [held, hty, hq]
    refine ⟨by rw [hy]; exact List.nodup_nil, fun r => ?_, fun _ => hq⟩
    have hns : (A.owns s).Nodup := by
      have := hi.nodup
      rw [held_of_task ht] at this
      exact List.Nodup.of_append_left this
    rw [hslots, hy]
    exact settle_waiting (Lawful.nodup hA hns hw) (List.nil_subset _) (hi.waiting r)

theorem step_inv {l : Label μ ι} (hA : A.Lawful) (hi : Inv A x) (h : x.step A l = some y) :
    Inv A y := by
  cases l with
  | send m => exact send_inv hi h
  | recv => exact recv_inv hA hi h
  | work i => exact work_inv hA hi h

theorem exec_inv {ls : List (Label μ ι)} (hA : A.Lawful) (hi : Inv A x)
    (h : exec (step A) x ls = some y) : Inv A y :=
  Lib.exec_inv (P := Inv A) (fun _ _ _ hs hst => step_inv hA hs hst) hi h

/-! ## Settled slots -/

theorem Inv.notMem_of_settled {r : Nat} (hi : Inv A x) (h : (x.slots r).settled) :
    r ∉ x.held A := by
  rw [← hi.waiting]
  intro hw
  rw [hw] at h
  exact h

/-- **A settled slot stays as it is.** -/
theorem settled_step {l : Label μ ι} {r : Nat} (hA : A.Lawful) (hi : Inv A x)
    (h : x.step A l = some y) (hr : (x.slots r).settled) : y.slots r = x.slots r := by
  have hmem := hi.notMem_of_settled hr
  cases l with
  | send m =>
    obtain ⟨hun, -, hcase⟩ := send_cases h
    have hne : ¬ A.carries m = some r := by
      intro hm
      rw [hun r hm] at hr
      exact hr
    rcases hcase with ⟨-, -, hslots⟩ | ⟨-, -, hslots⟩ <;> rw [hslots, if_neg hne]
  | recv =>
    obtain ⟨s, m, s', -, -, -, -, hslots⟩ := recv_cases h
    rw [hslots]
  | work i =>
    obtain ⟨s, rs, o, ht, hw, -, ⟨s', rfl, -, hslots⟩ | ⟨rfl, -, hslots⟩⟩ := work_cases h
    · rw [hslots]
      rw [held_of_task ht, List.mem_append, not_or] at hmem
      exact settle_of_notMem hmem.1 (Lawful.answers_subset hA hw)
    · rw [hslots]
      refine settle_of_notMem hmem fun r hr => ?_
      rw [held_of_task ht]
      exact List.mem_append_left _ (Lawful.answers_subset hA hw hr)

theorem settled_exec {ls : List (Label μ ι)} {r : Nat} (hA : A.Lawful) (hi : Inv A x)
    (hr : (x.slots r).settled) (h : exec (step A) x ls = some y) : y.slots r = x.slots r := by
  refine (Lib.exec_inv (P := fun z => Inv A z ∧ z.slots r = x.slots r) ?_ ⟨hi, rfl⟩ h).2
  rintro z l z' ⟨hz, hzr⟩ hst
  refine ⟨step_inv hA hz hst, ?_⟩
  rw [settled_step hA hz hst (by rw [hzr]; exact hr), hzr]

theorem used_step {l : Label μ ι} {r : Nat} (h : x.step A l = some y) (hr : x.slots r ≠ .unused) :
    y.slots r ≠ .unused := by
  have settled : ∀ held rs kept, settle x.slots held rs kept r ≠ .unused := by
    intro held rs kept
    unfold settle
    split
    · exact nofun
    · split
      · exact nofun
      · exact hr
  cases l with
  | send m =>
    obtain ⟨-, -, ⟨-, -, hslots⟩ | ⟨-, -, hslots⟩⟩ := send_cases h <;> rw [hslots] <;> split
    · exact nofun
    · exact hr
    · exact nofun
    · exact hr
  | recv =>
    obtain ⟨s, m, s', -, -, -, -, hslots⟩ := recv_cases h
    rw [hslots]; exact hr
  | work i =>
    obtain ⟨s, rs, o, -, -, -, ⟨s', -, -, hslots⟩ | ⟨-, -, hslots⟩⟩ := work_cases h
    · rw [hslots]; exact settled _ _ _
    · rw [hslots]; exact settled _ _ _

/-- A slot that waits at the end of a run and was in use at its start waited all along. -/
theorem waiting_of_exec {ls : List (Label μ ι)} {r : Nat} (hA : A.Lawful) (hi : Inv A x)
    (hr : x.slots r ≠ .unused) (h : exec (step A) x ls = some y) (hy : y.slots r = .waiting) :
    x.slots r = .waiting := by
  by_contra hw
  have hs := Slot.settled_of hr hw
  have heq := settled_exec hA hi hs h
  rw [hy] at heq
  exact hw heq.symm

/-- **Nothing waits for an actor that has stopped.** -/
theorem Inv.not_waiting (hi : Inv A x) (ht : x.task = none) (r : Nat) : x.slots r ≠ .waiting := by
  rw [Ne, hi.waiting, held_of_stopped hi ht]
  exact List.not_mem_nil

end Sys

end Kurrent.Lib
