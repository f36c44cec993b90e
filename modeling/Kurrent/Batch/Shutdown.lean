import Kurrent.Batch.Session

/-!
# Dropping the batch-append client

The task of the session stops when the last sender of its channel is gone: the client has
one and the reader of the responses the other. The reader stops when the server ends the
responses, and the server does so once the requests have ended. The requests end when their
sender is dropped, and that one the task holds. So a client that is dropped leaves the three
waiting for each other, unless the session is closed from outside.
-/

namespace Kurrent

open Lib

namespace Session

/-- The sender of the request stream went with the task, or the transport has let go of the
stream. -/
def requestsEnded (s : Session) : Bool := s.calls.task.isNone || !s.isOpen

/-- What the parties do among themselves. -/
inductive Settling where
  | recv
  | turn
  | disconnect
  /-- the server takes the call -/
  | accept
  /-- the server ends the responses -/
  | finish

/-- The parties with a server that ends the responses once the requests have ended. -/
def settleStep (crates : Crates) (s : Session) : Settling → Option Session
  | .recv => s.step crates .recv
  | .turn => s.step crates .turn
  | .disconnect => s.step crates .disconnect
  | .accept => s.step crates (.rpc (.ok ()))
  | .finish => if s.requestsEnded then s.step crates (.item (.ok none)) else none

/-- Every party waits for another. -/
def AllWait (crates : Crates) (s : Session) : Prop := ∀ l, s.settleStep crates l = none

/-- The task has stopped, its sender of the request stream with it, and so has the reader. -/
def Ended (s : Session) : Prop := s.calls.task = none ∧ s.reader.stopped = true

/-- One party has stopped, or the transport has let go of the requests. -/
def Closing (s : Session) : Prop :=
  s.calls.task = none ∨ s.reader.stopped = true ∨ s.isOpen = false

/-- The session is closed from outside: the server refuses the call, fails the responses,
ends them before the requests have ended or sends one that cannot be read, or the transport
lets go of the requests. -/
def ClosedBy (crates : Crates) (s : Session) : Label → Prop
  | .rpc (.error _) | .item (.error _) | .closeRequests => True
  | .item (.ok none) => s.requestsEnded = false
  | .item (.ok (some resp)) => ∀ out, Out.from crates resp ≠ .ret out
  | _ => False

section

variable {crates : Crates} {s s' : Session} {l : Label}

/-- What is given up is not taken back. -/
theorem step_flags (h : s.step crates l = some s') :
    (s.client = false → s'.client = false) ∧ (s.isOpen = false → s'.isOpen = false) ∧
      (s.reader.stopped = true → s'.reader.stopped = true) := by
  cases stepped h with
  | call | recv | turn | disconnect | response => exact ⟨id, id, id⟩
  | dropClient => exact ⟨fun _ => rfl, id, id⟩
  | closeRequests => exact ⟨id, fun _ => rfl, id⟩
  | accepted hr => exact ⟨id, id, by simp [hr, ResponseReader.stopped]⟩
  | refused | failed | ended | lost => exact ⟨id, id, fun _ => rfl⟩

theorem stopped_step (ht : s.calls.task = none) (h : s.step crates l = some s') :
    s'.calls.task = none := by
  rcases calls_step h with heq | ⟨l', hl'⟩
  · rw [heq, ht]
  · exact (Sys.stopped_step ht hl').1

theorem closing_step (hs : s.Closing) (h : s.step crates l = some s') : s'.Closing := by
  obtain ⟨-, hopen, hreader⟩ := step_flags h
  rcases hs with ht | hr | ho
  · exact .inl (stopped_step ht h)
  · exact .inr (.inl (hreader hr))
  · exact .inr (.inr (hopen ho))

theorem closing_of_closedBy (hs : ClosedBy crates s l) (h : s.step crates l = some s') :
    s'.Closing := by
  cases stepped h with
  | closeRequests => exact .inr (.inr rfl)
  | refused | failed | ended | lost => exact .inr (.inl rfl)
  | response hr hout => exact absurd hout (hs _)
  | call | dropClient | recv | turn | disconnect | accepted => exact hs.elim

/-! ## No error without a reader that failed -/

/-- Only a reader that has failed sends an error. -/
structure Unfailed (s : Session) : Prop where
  calls : Sys.Inv batchActor s.calls
  errors : s.reader.stopped = false → ∀ e, .error e ∉ inbox s.calls

theorem inbox_worked {x y : Calls} {i : BatchInput} (h : x.step (.work i) = some y) :
    inbox y ⊆ inbox x := by
  cases Calls.worked h with
  | disconnected task stops | refused task stops | failed task known result stops
  | broken task stops =>
    obtain ⟨t, rs, o, -, -, hty, ⟨t', rfl, -⟩ | ⟨rfl, hq, -⟩⟩ := Sys.work_cases h
    · rw [stops.task] at hty; cases hty
    · simp [inbox, hty, hq]
  | forwarded task next queue slots | registered task next queue slots
  | answered task known result next queue slots | unknown task unknown next queue slots =>
    simp [inbox, task, next, queue]

theorem notMem_inbox_send {x y : Calls} {m : BatchMsg} {e : Error} (h : x.step (.send m) = some y)
    (hm : m ≠ .error e) (hi : Sys.Inv batchActor x) (hx : .error e ∉ inbox x) :
    .error e ∉ inbox y := by
  obtain ⟨htask, ht | hbox⟩ := inbox_send h
  · have hy := (Sys.step_inv batchActor_lawful hi h).stopped (htask.trans ht)
    simp [inbox, htask, ht, hy]
  · rw [hbox]
    simp [hx, hm.symm]

theorem unfailed_step (hs : s.Unfailed) (h : s.step crates l = some s') : s'.Unfailed := by
  have hcalls : Sys.Inv batchActor s'.calls := by
    rcases calls_step h with heq | ⟨l', hl'⟩
    · rw [heq]; exact hs.calls
    · exact Sys.step_inv batchActor_lawful hs.calls hl'
  refine ⟨hcalls, fun hr e => ?_⟩
  have hbefore : s.reader.stopped = false := by
    by_contra hstop
    rw [(step_flags h).2.2 (by simpa using hstop)] at hr
    cases hr
  have hno := hs.errors hbefore e
  cases stepped h with
  | call hc hst | response _ hout ht hst => exact notMem_inbox_send hst (by simp) hs.calls hno
  | recv hst => rw [(inbox_recv hst).1]; exact hno
  | turn hst | disconnect _ _ _ hst => exact fun hmem => hno (inbox_worked hst hmem)
  | dropClient | closeRequests | accepted => exact hno
  | refused | failed | ended | lost => cases hr

theorem start_unfailed {handle : Handle} (h : start handle = .ok s) : s.Unfailed := by
  unfold start at h
  split at h
  · cases h
    exact ⟨Sys.init_inv _ rfl, fun _ _ => nofun⟩
  · cases h

/-! ## A session nobody closes -/

/-- The client is gone, no call is pending, and nothing has stopped. -/
structure LeftOpen (s : Session) : Prop extends Unfailed s where
  client : s.client = false
  waiting : ∀ k, s.calls.slots k ≠ .waiting
  running : ¬ s.Closing

/-- Without a pending call and without an error the task has only responses to nobody. -/
theorem LeftOpen.turn {x : Calls} {b : Bool} (hs : s.LeftOpen)
    (h : s.calls.step (.work (.turn b)) = some x) :
    (∃ reg, x.task = some (.idle reg)) ∧ x.slots = s.calls.slots := by
  have none_held : ∀ k, k ∉ s.calls.held batchActor := by
    intro k hk
    exact hs.waiting k ((hs.calls.waiting k).mpr hk)
  have hstop : s.reader.stopped = false := by
    by_contra hstop
    exact hs.running (.inr (.inl (by simpa using hstop)))
  cases Calls.worked h with
  | @forwarded reg req sender task | @refused reg req sender task
  | @registered reg id sender _ task =>
    refine absurd ?_ (none_held sender)
    rw [Sys.held_of_task task]
    exact List.mem_append_left _ List.mem_cons_self
  | @answered reg resp sender r _ task known | @failed reg resp sender e _ task known =>
    exact absurd (Calls.held_of_slotsOf task (Registry.mem_senders known)) (none_held sender)
  | @broken reg e _ task =>
    refine absurd ?_ (hs.errors hstop e)
    simp [inbox, task]
  | @unknown reg resp _ task unknown next queue slots => exact ⟨⟨reg, next⟩, slots⟩

theorem LeftOpen.up (hs : s.LeftOpen) :
    s.calls.task ≠ none ∧ s.reader.stopped = false ∧ s.isOpen = true := by
  have h := hs.running
  unfold Closing at h
  push Not at h
  simpa using h

/-- Such a session stays as it is until it is closed from outside. -/
theorem leftOpen_step (hs : s.LeftOpen) (h : s.step crates l = some s') :
    ClosedBy crates s l ∨ s'.LeftOpen := by
  obtain ⟨htask, hreader, hopen⟩ := hs.up
  by_cases hl : ClosedBy crates s l
  · exact .inl hl
  right
  -- the rest of the invariant is kept by every step
  suffices hnew : s'.calls.slots = s.calls.slots ∧ s'.calls.task ≠ none ∧
      s'.reader.stopped = false ∧ s'.isOpen = true by
    obtain ⟨hslots, ht, hr, ho⟩ := hnew
    refine ⟨unfailed_step hs.toUnfailed h, (step_flags h).1 hs.client, ?_, ?_⟩
    · rw [hslots]; exact hs.waiting
    · simp [Closing, ht, hr, ho]
  cases stepped h with
  | call hc | dropClient hc => rw [hs.client] at hc; cases hc
  | recv hst =>
    obtain ⟨reg, m, -, -, hty, hslots⟩ := Calls.recv_idle hst
    exact ⟨hslots, by simp [hty], hreader, hopen⟩
  | turn hst =>
    obtain ⟨⟨reg, hty⟩, hslots⟩ := hs.turn hst
    exact ⟨hslots, by simp [hty], hreader, hopen⟩
  | disconnect hc hr => rw [hreader] at hr; cases hr
  | closeRequests | refused | failed => exact absurd trivial hl
  | accepted => exact ⟨rfl, htask, rfl, hopen⟩
  | ended =>
    refine absurd ?_ hl
    simpa [ClosedBy, requestsEnded, hopen, Option.isSome_iff_ne_none] using htask
  | response hr hout ht hst =>
    obtain ⟨-, hty, ⟨hn, -⟩ | ⟨-, -, hslots⟩⟩ := Sys.send_cases hst
    · exact absurd hn htask
    · exact ⟨funext hslots, by rw [hty]; exact htask, hreader, hopen⟩
  | lost hr hno =>
    refine absurd (fun out hout => ?_) hl
    obtain ⟨t, ht⟩ := Option.ne_none_iff_exists'.mp htask
    exact hno out t hout ht

/-! ## Where a session comes to rest -/

/-- A task with something to do can do it. -/
theorem task_moves (hr : s.settleStep crates .recv = none) (ht : s.settleStep crates .turn = none) :
    s.calls.task = none ∨ ∃ reg, s.calls.task = some (.idle reg) ∧ s.calls.queue = [] := by
  cases htask : s.calls.task with
  | none => exact .inl rfl
  | some t =>
    right
    cases t with
    | idle reg =>
      refine ⟨reg, rfl, ?_⟩
      cases hq : s.calls.queue with
      | nil => rfl
      | cons m queue => simp [settleStep, step, Sys.step, htask, hq, batchActor] at hr
    | busy reg m =>
      simp only [settleStep, step, Sys.step, htask, batchActor, BatchTask.work,
        Option.map_eq_none_iff] at ht
      split at ht
      · next hw => cases hw
      · cases ht
      · cases ht
    | registering reg id sender =>
      simp [settleStep, step, Sys.step, htask, batchActor, BatchTask.work] at ht

/-- **Where all wait** the session has ended, or nobody has closed it. -/
theorem allWait_ended_iff (hw : s.AllWait crates) (hc : s.client = false) :
    s.Ended ↔ s.Closing := by
  refine ⟨fun h => .inl h.1, fun h => ?_⟩
  have hstop : s.reader.stopped = true := by
    cases hr : s.reader with
    | calling =>
      have := hw .accept
      simp [settleStep, step, hr] at this
    | reading =>
      have hfin : s.requestsEnded = true := by
        rcases h with ht | hstop | ho
        · simp [requestsEnded, ht]
        · rw [hr] at hstop; cases hstop
        · simp [requestsEnded, ho]
      have := hw .finish
      simp [settleStep, step, hr, hfin] at this
    | failed | ended | gone => rfl
  refine ⟨?_, hstop⟩
  rcases task_moves (hw .recv) (hw .turn) with ht | ⟨reg, ht, hq⟩
  · exact ht
  · have := hw .disconnect
    simp [settleStep, step, Sys.step, hc, hstop, hq, ht, batchActor, BatchTask.work] at this

/-- What is left to do for the task. -/
def toDo (x : Calls) : Nat :=
  3 * x.queue.length +
    match x.task with
    | none => 0
    | some (.idle _) => 1
    | some (.registering _ _ _) => 2
    | some (.busy _ _) => 3

def ResponseReader.toDo : ResponseReader → Nat
  | .calling => 2
  | .reading => 1
  | _ => 0

/-- What is left to do before all wait. -/
def effort (s : Session) : Nat := toDo s.calls + ResponseReader.toDo s.reader

theorem toDo_work {x y : Calls} {i : BatchInput} (h : x.step (.work i) = some y) :
    toDo y < toDo x := by
  have stopped : ∀ {t rs}, x.task = some t → Calls.Stops x y rs → toDo y < toDo x := by
    intro t rs ht stops
    obtain ⟨t', rs', o, -, -, hty, ⟨t'', rfl, -⟩ | ⟨rfl, hq, -⟩⟩ := Sys.work_cases h
    · rw [stops.task] at hty; cases hty
    · cases t <;> simp [toDo, ht, hty, hq]
  cases Calls.worked h with
  | disconnected task stops | refused task stops | failed task known result stops
  | broken task stops => exact stopped task stops
  | forwarded task next queue slots | registered task next queue slots
  | answered task known result next queue slots | unknown task unknown next queue slots =>
    simp [toDo, task, next, queue]

theorem settleStep_effort {k : Settling} (h : s.settleStep crates k = some s') :
    s'.effort < s.effort := by
  cases k with
  | recv =>
    obtain ⟨calls, hst, rfl⟩ := Option.map_eq_some_iff.mp h
    obtain ⟨reg, m, ht, hq, hty, -⟩ := Calls.recv_idle hst
    simp only [effort, toDo, ht, hq, hty, List.length_cons]
    omega
  | turn =>
    obtain ⟨calls, hst, rfl⟩ := Option.map_eq_some_iff.mp h
    exact Nat.add_lt_add_right (toDo_work hst) _
  | disconnect =>
    simp only [settleStep, step] at h
    split at h
    · obtain ⟨calls, hst, rfl⟩ := Option.map_eq_some_iff.mp h
      exact Nat.add_lt_add_right (toDo_work hst) _
    · cases h
  | accept =>
    simp only [settleStep, step] at h
    split at h
    · next hr _ => cases h; simp [effort, hr, ResponseReader.toDo]
    · next hr => cases hr
    · cases h
  | finish =>
    simp only [settleStep] at h
    split at h
    · cases hr : s.reader with
      | reading =>
        simp only [step, hr] at h
        cases h
        simp [effort, hr, ResponseReader.toDo]
      | calling | failed | ended | gone =>
        simp only [step, hr] at h
        cases h
    · cases h

/-- The parties come to rest. -/
theorem settle_bounded {ks : List Settling} (h : exec (settleStep crates) s ks = some s') :
    ks.length ≤ s.effort := by
  induction ks generalizing s with
  | nil => exact Nat.zero_le _
  | cons k ks ih =>
    obtain ⟨t, hst, hrest⟩ := exec_cons.mp h
    have := settleStep_effort hst
    have := ih hrest
    rw [List.length_cons]
    omega

end

end Session

open Session in
/-- **Dropping the client ends the session exactly when someone else closes it.** The client
is dropped in any state without a pending call and anything may happen after that. From
there the parties can take only so many steps among themselves, and where all of them wait,
the task and the reader have stopped if and only if a party had stopped, or the transport
had let go of the requests, when the client was dropped, or the session was closed from
outside since then. -/
theorem dropped_client_ends_iff {crates : Crates} {handle : Handle} {s₀ s s₁ s₂ : Session}
    {ls ls' : List Session.Label} (hstart : Session.start handle = .ok s₀)
    (hrun : exec (Session.step crates) s₀ ls = some s)
    (hpending : ∀ k, s.calls.slots k ≠ .waiting)
    (hdrop : s.step crates .dropClient = some s₁)
    (hafter : exec (Session.step crates) s₁ ls' = some s₂) :
    (∀ ks t, exec (settleStep crates) s₂ ks = some t → ks.length ≤ s₂.effort) ∧
    (s₂.AllWait crates →
      (s₂.Ended ↔ s.Closing ∨ Occurs (Session.step crates) (ClosedBy crates) s₁ ls')) := by
  refine ⟨fun ks t h => settle_bounded h, fun hw => ?_⟩
  have hfail : s.Unfailed :=
    exec_inv (P := Unfailed) (fun _ _ _ hs hst => unfailed_step hs hst) (start_unfailed hstart) hrun
  obtain rfl : { s with client := false } = s₁ := by
    simp only [Session.step] at hdrop
    split at hdrop
    · exact Option.some.inj hdrop
    · cases hdrop
  have hclient : s₂.client = false :=
    exec_inv (P := fun z => z.client = false) (fun _ _ _ hc hst => (step_flags hst).1 hc) rfl hafter
  rw [allWait_ended_iff hw hclient]
  have hkeeps : ∀ z l z', Closing z → z.step crates l = some z' → Closing z' :=
    fun _ _ _ hc hst => closing_step hc hst
  constructor
  · intro hclosing
    by_cases hc : s.Closing
    · exact .inl hc
    · have hopen : LeftOpen { s with client := false } := ⟨⟨hfail.calls, hfail.errors⟩, rfl, hpending, hc⟩
      rcases exec_occurs (P := LeftOpen) (fun _ _ _ hs hst => leftOpen_step hs hst) hopen hafter with
        hocc | hleft
      · exact .inr hocc
      · exact absurd hclosing hleft.running
  · rintro (hc | hocc)
    · exact exec_inv (P := Closing) hkeeps (show Closing { s with client := false } from hc) hafter
    · exact hocc.exec hafter (fun _ _ _ hc hst => closing_of_closedBy hc hst) hkeeps

/-- The server ends the responses first, and then the client is dropped. -/
theorem dropped_client_ends_after_server :
    ∃ s, exec (Session.step soloCrates) batchStart
        [.rpc (.ok ()), .item (.ok none), .dropClient, .disconnect] = some s ∧ s.Ended := by
  have hend : ∀ s s₁ s₂, exec (Session.step soloCrates) batchStart
      [.rpc (.ok ()), .item (.ok none)] = some s → s.step soloCrates .dropClient = some s₁ →
      exec (Session.step soloCrates) s₁ [.disconnect] = some s₂ → s₂.AllWait soloCrates →
      (∀ k, s.calls.slots k ≠ .waiting) → s.reader.stopped = true → s₂.Ended := by
    intro s s₁ s₂ hs hs₁ hs₂ hw hslots hr
    exact ((dropped_client_ends_iff (rfl : Session.start batchHandle = .ok batchStart) hs hslots hs₁
      hs₂).2 hw).mpr (.inl (.inr (.inl hr)))
  refine ⟨_, rfl, hend _ _ _ rfl rfl rfl (fun k => ?_) (fun k => nofun) rfl⟩
  cases k <;> rfl

/-- Only the user drops the client; now all wait, and nothing has ended. -/
theorem dropped_client_leaves_all_waiting :
    ∃ s, exec (Session.step soloCrates) batchStart [.rpc (.ok ()), .dropClient] = some s ∧
      s.AllWait soloCrates ∧ s.calls.task.isSome ∧ s.reader = .reading := by
  refine ⟨_, rfl, fun k => ?_, rfl, rfl⟩
  cases k <;> rfl

end Kurrent
