import Kurrent.Grpc.Clients
import Kurrent.Grpc.Failover

/-!
# Who keeps the connection task alive

The task of `connection_state_machine` stops when its channel is empty and no sender of it
is left. `Channel` follows the number of live senders through every clone and drop: those
of the clients, handles, streams and subscriptions outside, the one the task has captured
and the one inside the handle it caches. The task's own never goes away before the task
does, so `recv` never finds the channel closed.
-/

namespace Kurrent

open Lib

structure Channel where
  /-- `none` once the task has ended and its receiver with it -/
  task : Option Phase
  queue : List Msg
  /-- the channel's count of live senders -/
  senders : Nat
  /-- those among them that are held outside the task -/
  outside : Nat

namespace Channel

inductive Move where
  /-- someone outside clones a client or a handle, or opens a stream with it -/
  | clone
  | drop
  | send (m : Msg)
  /-- the task calls `recv` -/
  | recv
  /-- the task is done with a message; `kept` says whether the caller still waits for the answer -/
  | work (ans : Answers) (kept : Bool)

/-- The senders in the handle the task caches. -/
def cached (t : Task) : Nat := if t.handleOpt.isSome then 1 else 0

/-- `GrpcClient::create`: the channel's first sender goes into the task, its clone into the
client. -/
def create (conn : NodeConnection) : Channel := ⟨some (.idle ⟨conn, none⟩), [], 2, 1⟩

/-- The task ends and drops its sender, its handle and the receiver. -/
def stop (x : Channel) (t : Task) : Channel :=
  { x with task := none, queue := [], senders := x.senders - (1 + cached t) }

/-- An answer with a handle goes to the caller, or is dropped with the one-shot. -/
def hand (kept : Bool) : Option (Except GrpcConnectionError Handle) → Nat
  | some (.ok _) => if kept then 1 else 0
  | _ => 0

def step (crates : Crates) (x : Channel) : Move → Option Channel
  | .clone =>
    if 0 < x.outside then some { x with senders := x.senders + 1, outside := x.outside + 1 }
    else none
  | .drop =>
    if 0 < x.outside then some { x with senders := x.senders - 1, outside := x.outside - 1 }
    else none
  | .send m =>
    if 0 < x.outside then
      match x.task with
      | some _ => some { x with queue := x.queue ++ [m] }
      | none => some x
    else none
  | .recv =>
    match x.task, x.queue with
    | some (.idle t), m :: queue => some { x with task := some (.busy t m), queue := queue }
    | some (.idle t), [] => if x.senders = 0 then some (x.stop t) else none
    | _, _ => none
  | .work ans kept =>
    match x.task with
    | some (.busy t m) =>
      let e := t.onMsg crates ans m
      match e.task with
      | none => some (x.stop t)
      | some t' =>
        -- the new handle replaces the cached one
        some { x with
          task := some (.idle t')
          senders := x.senders + cached t' - cached t + hand kept e.reply
          outside := x.outside + hand kept e.reply }
    | _ => none

/-! ## Counting the senders -/

/-- The senders the task holds itself. -/
def own (x : Channel) : Nat :=
  match x.task with
  | some (.idle t) | some (.busy t _) => 1 + cached t
  | none => 0

/-- Every live sender is outside or the task's own. -/
def Counted (x : Channel) : Prop := x.senders = x.outside + x.own

section

variable {crates : Crates} {x y : Channel} {l : Move}

/-- **What a move can do**, with what it asks of the channel before it. -/
inductive Moved (crates : Crates) (x : Channel) : Move → Channel → Prop where
  | clone (outside : 0 < x.outside) :
      Moved crates x .clone { x with senders := x.senders + 1, outside := x.outside + 1 }
  | drop (outside : 0 < x.outside) :
      Moved crates x .drop { x with senders := x.senders - 1, outside := x.outside - 1 }
  | sent {m p} (outside : 0 < x.outside) (task : x.task = some p) :
      Moved crates x (.send m) { x with queue := x.queue ++ [m] }
  | lost {m} (outside : 0 < x.outside) (task : x.task = none) : Moved crates x (.send m) x
  | taken {t m queue} (task : x.task = some (.idle t)) (first : x.queue = m :: queue) :
      Moved crates x .recv { x with task := some (.busy t m), queue := queue }
  | closed {t} (task : x.task = some (.idle t)) (empty : x.queue = []) (unheld : x.senders = 0) :
      Moved crates x .recv (x.stop t)
  | failed {t m ans kept} (task : x.task = some (.busy t m))
      (stops : (t.onMsg crates ans m).task = none) : Moved crates x (.work ans kept) (x.stop t)
  | worked {t m t' ans kept} (task : x.task = some (.busy t m))
      (goes : (t.onMsg crates ans m).task = some t') :
      Moved crates x (.work ans kept)
        { x with
          task := some (.idle t')
          senders := x.senders + cached t' - cached t +
            hand kept (t.onMsg crates ans m).reply
          outside := x.outside + hand kept (t.onMsg crates ans m).reply }

theorem moved (h : x.step crates l = some y) : Moved crates x l y := by
  cases l with
  | clone =>
    simp only [step] at h
    split at h
    · next ho => cases h; exact .clone ho
    · cases h
  | drop =>
    simp only [step] at h
    split at h
    · next ho => cases h; exact .drop ho
    · cases h
  | send m =>
    simp only [step] at h
    split at h
    · next ho =>
      split at h
      · next ht => cases h; exact .sent ho ht
      · next ht => cases h; exact .lost ho ht
    · cases h
  | recv =>
    simp only [step] at h
    split at h
    · next ht hq => cases h; exact .taken ht hq
    · next ht hq =>
      split at h
      · next hz => cases h; exact .closed ht hq hz
      · cases h
    · cases h
  | work ans kept =>
    simp only [step] at h
    split at h
    · next ht =>
      split at h
      · next hn => cases h; exact .failed ht hn
      · next hs => cases h; exact .worked ht hs
    · cases h

theorem step_counted (hx : x.Counted) (h : x.step crates l = some y) : y.Counted := by
  unfold Counted at hx ⊢
  cases moved h with
  | clone | drop =>
    simp only [own] at hx ⊢
    omega
  | sent | lost => exact hx
  | taken ht hq =>
    simp only [own, ht] at hx ⊢
    exact hx
  | closed ht | failed ht =>
    simp only [own, ht, stop] at hx ⊢
    omega
  | worked ht =>
    simp only [own, ht] at hx ⊢
    omega

theorem create_counted (conn : NodeConnection) : (create conn).Counted := by
  simp [Counted, create, own, cached]

theorem exec_counted {conn : NodeConnection} {ls : List Move}
    (h : exec (step crates) (create conn) ls = some x) : x.Counted :=
  exec_inv (P := Counted) (fun _ _ _ hs hst => step_counted hs hst) (create_counted conn) h

/-! ## How the task ends -/

/-- The step in which a connection attempt fails, or panics, and takes the task with it. -/
def Fails (crates : Crates) (x : Channel) : Move → Prop
  | .work ans _ => ∃ t m, x.task = some (.busy t m) ∧ (t.onMsg crates ans m).task = none
  | _ => False

theorem stopped_step (ht : x.task = none) (h : x.step crates l = some y) : y.task = none := by
  cases moved h with
  | clone | drop | sent | lost => exact ht
  | taken htask | closed htask | failed htask | worked htask => rw [ht] at htask; cases htask

/-- A task whose senders are counted ends only on a failed attempt. -/
theorem fails_of_stops (hx : x.Counted) (ht : x.task ≠ none) (h : x.step crates l = some y)
    (hy : y.task = none) : Fails crates x l := by
  cases moved h with
  | clone | drop | sent | lost => exact absurd hy ht
  | taken | worked => cases hy
  | closed htask hq hz =>
    unfold Counted at hx
    simp only [hz, own, htask] at hx
    omega
  | failed htask hn => exact ⟨_, _, htask, hn⟩

theorem stops_of_fails (hf : Fails crates x l) (h : x.step crates l = some y) : y.task = none := by
  cases l with
  | work ans kept =>
    obtain ⟨t, m, htask, hn⟩ := hf
    simp only [step, htask, hn] at h
    cases h
    rfl
  | clone | drop | send m | recv => exact hf.elim

/-- A connection attempt failed somewhere in the run. -/
def FailedIn (crates : Crates) (conn : NodeConnection) (ls : List Move) : Prop :=
  Occurs (step crates) (Fails crates) (create conn) ls

/-- In every run the task has ended exactly when an attempt to connect failed. -/
theorem stopped_iff {conn : NodeConnection} {ls : List Move}
    (h : exec (step crates) (create conn) ls = some x) :
    x.task = none ↔ FailedIn crates conn ls := by
  constructor
  · intro ht
    have hstep : ∀ (x : Channel) l y, x.Counted ∧ x.task ≠ none → x.step crates l = some y →
        Fails crates x l ∨ y.Counted ∧ y.task ≠ none := by
      rintro x l y ⟨hx, hrun⟩ hst
      by_cases hy : y.task = none
      · exact .inl (fails_of_stops hx hrun hst hy)
      · exact .inr ⟨step_counted hx hst, hy⟩
    rcases exec_occurs hstep ⟨create_counted conn, nofun⟩ h with hf | ⟨-, hrun⟩
    · exact hf
    · exact absurd ht hrun
  · intro hf
    exact hf.exec (P := fun x => x.task = none) h (fun _ _ _ hc hst => stops_of_fails hc hst)
      (fun _ _ _ ht hst => stopped_step ht hst)

end

/-- **The connection task outlives its users**: once nothing outside holds a sender and no
message is left, the task has stopped, or `recv` stops it, exactly when an attempt to
connect has failed before. Otherwise, with the task back at its `recv`, no step is possible
any more: it waits for ever, with its connection. -/
theorem task_stops_iff {crates : Crates} {conn : NodeConnection} {ls : List Move} {x : Channel}
    (h : exec (step crates) (create conn) ls = some x) (ho : x.outside = 0) (hq : x.queue = []) :
    ((x.task = none ∨ ∃ y, x.step crates .recv = some y ∧ y.task = none) ↔
      FailedIn crates conn ls) ∧
    (¬ FailedIn crates conn ls → (∀ t m, x.task ≠ some (.busy t m)) →
      ∀ l, x.step crates l = none) := by
  have hcount := exec_counted h
  -- a task that runs holds a sender of its own
  have hrecv : x.task ≠ none → x.step crates .recv = none := by
    intro ht
    cases hx : x.task with
    | none => exact absurd hx ht
    | some p =>
      cases p with
      | busy t m => simp [step, hx]
      | idle t =>
        have hne : x.senders ≠ 0 := by
          unfold Counted at hcount
          rw [hcount, ho]
          simp only [own, hx]
          omega
        simp [step, hx, hq, hne]
  rw [← stopped_iff h]
  refine ⟨⟨?_, .inl⟩, ?_⟩
  · rintro (ht | ⟨y, hy, -⟩)
    · exact ht
    · by_contra ht
      rw [hrecv ht] at hy
      cases hy
  · intro ht hw l
    cases l with
    | clone | drop | send m => simp [step, ho]
    | recv => exact hrecv ht
    | work ans kept =>
      cases hx : x.task with
      | none => exact absurd hx ht
      | some p =>
        cases p with
        | idle t => simp [step, hx]
        | busy t m => exact absurd hx (hw t m)

/-- One request is answered, and both the client and its answer are dropped. -/
def soloMoves : List Move :=
  [.send (.getChannel 0), .recv, .work (soloAnswers 1) true, .drop, .drop]

theorem task_waits_solo :
    (∃ x, exec (step soloCrates) (create soloConnection) soloMoves = some x ∧ x.outside = 0 ∧
      x.queue = [] ∧ ¬ FailedIn soloCrates soloConnection soloMoves) := by
  refine ⟨_, rfl, rfl, rfl, fun hf => ?_⟩
  obtain ht | ⟨y, hy, -⟩ :=
    (@task_stops_iff soloCrates soloConnection soloMoves _ rfl rfl rfl).1.mpr hf
  · cases ht
  · cases hy

/-- Nothing holds a sender any more but the task itself, twice, and `recv` does not return. -/
theorem task_keeps_itself :
    ∃ x, exec (step soloCrates) (create soloConnection) soloMoves = some x ∧ x.outside = 0 ∧
      x.queue = [] ∧ x.task.isSome ∧ x.senders = 2 ∧ (x.step soloCrates .recv).isNone :=
  ⟨_, rfl, rfl, rfl, rfl, rfl, rfl⟩

end Channel

end Kurrent
