import Kurrent.Lib.Actor
import Kurrent.Grpc.Failover

/-!
# Clients of the connection task

The task of `StateMachine` behind its channel: any number of clients send requests and
reports at any time, also while the task is busy with a message. `connectionActor` is the
task as an `Actor`; `currentSelectedNode` is what a call of that name returns once its slot
is settled. `exec_serves` ties these runs to the runs over message lists.
-/

namespace Kurrent

open Lib

/-- The task waits for a message, or works on one. -/
inductive Phase where
  | idle (t : Task)
  | busy (t : Task) (m : Msg)

abbrev Answer := Except GrpcConnectionError Handle

def Msg.resp : Msg → Option Nat
  | .getChannel resp => some resp
  | .createChannel _ _ => none

/-- The answer a turn of the loop sends, addressed to the message's one-shot. -/
def Effect.replies (e : Effect) (m : Msg) : List (Nat × Answer) :=
  match m.resp, e.reply with
  | some resp, some a => [(resp, a)]
  | _, _ => []

def connectionActor (crates : Crates) : Actor Phase Msg Answers Answer where
  recv
    | .idle t, m => some (.busy t m)
    | .busy _ _, _ => none
  work
    | .idle _, _ => none
    | .busy t m, ans =>
      let e := t.onMsg crates ans m
      some (e.replies m, e.task.map .idle)
  carries := Msg.resp
  owns
    | .idle _ => []
    | .busy _ m => m.resp.toList

abbrev Clients := Sys Phase Msg Answer

/-- The task before its first message. -/
def Clients.init (conn : NodeConnection) : Clients := Sys.init (.idle ⟨conn, none⟩)

abbrev Clients.step (crates : Crates) : Clients → Label Msg Answers → Option Clients :=
  Sys.step (connectionActor crates)

/-- What `current_selected_node` returns; `none` while it waits. -/
def currentSelectedNode : Slot Answer → Option (Except Error Handle)
  | .unused | .waiting => none
  | .answered (.ok h) => some (.ok h)
  | .answered (.error e) => some (.error (.grpcConnectionError e))
  | .closed => some (.error .connectionClosed)

section

variable {crates : Crates} {x y : Clients}

theorem connectionActor_lawful (crates : Crates) : (connectionActor crates).Lawful where
  recv := by
    intro s m s' h
    cases s with
    | idle t => cases h; simp [connectionActor]
    | busy t m' => cases h
  work := by
    intro s ans rs o h
    cases s with
    | idle t => cases h
    | busy t m =>
      cases h
      have ho : ∀ o : Option Task, (o.map Phase.idle).elim [] (connectionActor crates).owns = [] := by
        intro o; cases o <;> rfl
      rw [ho, List.append_nil]
      apply List.Sublist.subperm
      show (((t.onMsg crates ans m).replies m).map Prod.fst).Sublist m.resp.toList
      unfold Effect.replies
      split
      · next resp a hr _ => simp [hr]
      · simp

theorem clients_inv {conn : NodeConnection} {ls : List (Label Msg Answers)}
    (h : exec (Clients.step crates) (Clients.init conn) ls = some x) :
    Sys.Inv (connectionActor crates) x :=
  Sys.exec_inv (connectionActor_lawful crates) (Sys.init_inv _ rfl) h

/-! ## Waiting is bounded -/

/-- The messages not yet handled, in the order in which they will be. -/
def ahead (x : Clients) : List Msg :=
  match x.task with
  | some (.idle _) => x.queue
  | some (.busy _ m) => m :: x.queue
  | none => []

def isWork : Label Msg Answers → Bool
  | .work _ => true
  | _ => false

theorem held_eq_ahead (hi : Sys.Inv (connectionActor crates) x) :
    x.held (connectionActor crates) = (ahead x).filterMap Msg.resp := by
  unfold Sys.held ahead
  split
  · next t ht => rw [ht]; rfl
  · next t m ht =>
    rw [ht]
    show m.resp.toList ++ x.queue.filterMap Msg.resp = _
    cases h : m.resp <;> simp [h]
  · next ht => rw [ht, hi.stopped ht]; rfl

theorem resp_eq_some {m : Msg} {r : Nat} : m.resp = some r ↔ m = .getChannel r := by
  cases m <;> simp [Msg.resp]

theorem waiting_iff_ahead {r : Nat} (hi : Sys.Inv (connectionActor crates) x) :
    x.slots r = .waiting ↔ .getChannel r ∈ ahead x := by
  rw [hi.waiting, held_eq_ahead hi, List.mem_filterMap]
  constructor
  · rintro ⟨m, hm, hr⟩
    rw [resp_eq_some] at hr
    exact hr ▸ hm
  · exact fun hm => ⟨_, hm, rfl⟩

/-- Work takes the first of the messages ahead, a send adds one behind them. -/
theorem ahead_step {l : Label Msg Answers} (h : x.step crates l = some y) :
    y.task = none ∨
    (isWork l = false ∧ ∃ more, ahead y = ahead x ++ more) ∨
    (isWork l = true ∧ ∃ m, ahead x = m :: ahead y) := by
  cases l with
  | send m =>
    obtain ⟨-, htask, ⟨ht, -, -⟩ | ⟨ht, hq, -⟩⟩ := Sys.send_cases h
    · exact .inl (by rw [htask, ht])
    · refine .inr (.inl ⟨rfl, [m], ?_⟩)
      unfold ahead
      rw [htask, hq]
      cases hx : x.task with
      | none => exact absurd hx ht
      | some s => cases s <;> simp
  | recv =>
    obtain ⟨s, m, s', ht, hq, hr, hty, -⟩ := Sys.recv_cases h
    cases s with
    | busy t m' => cases hr
    | idle t =>
      cases hr
      refine .inr (.inl ⟨rfl, [], ?_⟩)
      simp [ahead, ht, hty, hq]
  | work ans =>
    obtain ⟨s, rs, o, ht, hw, hty, ⟨s', rfl, hq, -⟩ | ⟨rfl, -, -⟩⟩ := Sys.work_cases h
    · cases s with
      | idle t => cases hw
      | busy t m =>
        refine .inr (.inr ⟨rfl, m, ?_⟩)
        simp only [connectionActor, Option.some.injEq, Prod.mk.injEq] at hw
        obtain ⟨t', -, rfl⟩ := Option.map_eq_some_iff.mp hw.2
        simp [ahead, ht, hty, hq]
    · exact .inl hty

/-- While `r` waits, every piece of work brings it one message closer. -/
theorem wait_exec {ls : List (Label Msg Answers)} {r : Nat}
    (hi : Sys.Inv (connectionActor crates) x) (h : exec (Clients.step crates) x ls = some y)
    (hy : y.slots r = .waiting) (hx : x.slots r = .waiting) :
    (ahead y).idxOf (.getChannel r) + ls.countP isWork = (ahead x).idxOf (.getChannel r) := by
  induction ls generalizing x with
  | nil => cases h; simp
  | cons l ls ih =>
    obtain ⟨z, hst, hrest⟩ := exec_cons.mp h
    have hA := connectionActor_lawful crates
    have hz := Sys.step_inv hA hi hst
    have hzw : z.slots r = .waiting :=
      Sys.waiting_of_exec hA hz (Sys.used_step hst (by simp [hx])) hrest hy
    have hind := ih hz hrest hzw
    rw [List.countP_cons]
    rcases ahead_step hst with ht | ⟨hl, more, hmore⟩ | ⟨hl, m, hm⟩
    · exact absurd hzw (hz.not_waiting ht r)
    · rw [hmore, List.idxOf_append_of_mem ((waiting_iff_ahead hi).mp hx)] at hind
      simpa [hl] using hind
    · have hne : m ≠ .getChannel r := by
        rintro rfl
        have hnd := hi.nodup
        rw [held_eq_ahead hi, hm] at hnd
        refine (List.nodup_cons.mp hnd).1 (List.mem_filterMap.mpr ⟨.getChannel r, ?_, rfl⟩)
        exact (waiting_iff_ahead hz).mp hzw
      rw [hm, List.idxOf_cons_ne _ hne, ← hind, hl]
      simp [Nat.add_assoc]

/-! ## One piece of work -/

theorem work_eq {t : Task} {m : Msg} {ans : Answers} (ht : x.task = some (.busy t m))
    (h : x.step crates (.work ans) = some y) :
    (∃ t', (t.onMsg crates ans m).task = some t' ∧ y.task = some (.idle t') ∧
      y.queue = x.queue ∧
      y.slots = settle x.slots m.resp.toList ((t.onMsg crates ans m).replies m) []) ∨
    ((t.onMsg crates ans m).task = none ∧ y.task = none ∧
      y.slots = settle x.slots (x.held (connectionActor crates))
        ((t.onMsg crates ans m).replies m) []) := by
  obtain ⟨s, rs, o, hs, hw, hty, hcase⟩ := Sys.work_cases h
  rw [ht] at hs
  cases hs
  simp only [connectionActor, Option.some.injEq, Prod.mk.injEq] at hw
  obtain ⟨rfl, rfl⟩ := hw
  rcases hcase with ⟨s', ho, hq, hslots⟩ | ⟨ho, -, hslots⟩
  · obtain ⟨t', ht', rfl⟩ := Option.map_eq_some_iff.mp ho
    exact .inl ⟨t', ht', by rw [hty, ho], hq, hslots⟩
  · exact .inr ⟨Option.map_eq_none_iff.mp ho, by rw [hty, ho], hslots⟩

/-- The sender of `r` is told what the turn replied. -/
theorem settle_reply {slots : Nat → Slot Answer} {held : List Nat} {e : Effect} {r : Nat}
    {a : Answer} (h : e.reply = some a) :
    settle slots held (e.replies (.getChannel r)) [] r = .answered a := by
  simp [settle, Effect.replies, Msg.resp, h]

/-- A turn replies to nobody but the sender of its message. -/
theorem settle_others {slots : Nat → Slot Answer} {held : List Nat} {e : Effect} {m : Msg}
    {r : Nat} (hm : m ≠ .getChannel r) (hr : r ∈ held) :
    settle slots held (e.replies m) [] r = .closed := by
  have hl : (e.replies m).lookup r = none := by
    unfold Effect.replies
    split
    · next resp a hresp _ =>
      have : r ≠ resp := fun he => hm (by rw [he]; exact resp_eq_some.mp hresp)
      have hb : (r == resp) = false := by simpa using this
      rw [List.lookup_cons, hb]; rfl
    · rfl
  simp [settle, hl, hr]

/-- The task goes out to the connection for this message. -/
def Task.callsNext (t : Task) : Msg → Prop
  | .getChannel _ => t.handleOpt = none
  | .createChannel _ _ => True

theorem onMsg_error {t : Task} {m : Msg} {ans : Answers} {conn : NodeConnection} {io : Io}
    {e : GrpcConnectionError} (hc : t.callsNext m)
    (h : t.connection.next crates ans m.request = .ret ⟨conn, io, .error e⟩) :
    (t.onMsg crates ans m).task = none ∧
      ∀ r, m = .getChannel r → (t.onMsg crates ans m).reply = some (.error e) := by
  cases m with
  | getChannel resp =>
    have hn : t.handleOpt = none := hc
    have h' : t.connection.next crates ans none = .ret ⟨conn, io, .error e⟩ := h
    simp [Task.onMsg, hn, h', Task.afterNext]
  | createChannel id seed => simp [Task.onMsg, h, Task.afterNext]

/-- A running task that answers a request holds the handle it answered with. -/
theorem onMsg_reply {t t' : Task} {ans : Answers} {r : Nat}
    (h : (t.onMsg crates ans (.getChannel r)).task = some t') :
    ∃ handle, (t.onMsg crates ans (.getChannel r)).reply = some (.ok handle) ∧
      t'.handleOpt = some handle := by
  simp only [Task.onMsg] at h ⊢
  split
  · next handle hh =>
    simp only [hh] at h
    cases h
    exact ⟨handle, rfl, hh⟩
  · next hn =>
    simp only [hn] at h
    split at h
    · cases h
    · cases h
    · next handle t'' ha =>
      cases h
      obtain ⟨conn, io, info, -, rfl, rfl⟩ := afterNext_ok ha
      exact ⟨_, rfl, rfl⟩

/-! ## Requests for a channel -/

theorem currentSelectedNode_isSome {s : Slot Answer} :
    (currentSelectedNode s).isSome = true ↔ s.settled := by
  cases s with
  | unused => simp [currentSelectedNode, Slot.settled]
  | waiting => simp [currentSelectedNode, Slot.settled]
  | answered a => cases a <;> simp [currentSelectedNode, Slot.settled]
  | closed => simp [currentSelectedNode, Slot.settled]

/-- With a request waiting, the task can move. -/
theorem waiting_moves {r : Nat} (hi : Sys.Inv (connectionActor crates) x)
    (hr : x.slots r = .waiting) :
    (x.step crates .recv).isSome = true ∨ ∀ ans, (x.step crates (.work ans)).isSome = true := by
  have hmem := (waiting_iff_ahead hi).mp hr
  unfold ahead at hmem
  split at hmem
  · next t ht =>
    left
    cases hq : x.queue with
    | nil => rw [hq] at hmem; cases hmem
    | cons m queue => simp [Clients.step, Sys.step, ht, hq, connectionActor]
  · next t m ht =>
    right
    intro ans
    cases h : (t.onMsg crates ans m).task <;>
      simp [Clients.step, Sys.step, ht, connectionActor, h]
  · cases hmem

end

/-! ## Messages are handled in the order in which they were sent -/

/-- A turn of the loop without its answer. -/
def Task.step (crates : Crates) (t : Task) (input : Msg × Answers) : Option Task :=
  (t.onMsg crates input.2 input.1).task

def Phase.task : Phase → Task
  | .idle t => t
  | .busy t _ => t

/-- The message a label sends. -/
def sent : Label Msg Answers → Option Msg
  | .send m => some m
  | _ => none

section

variable {crates : Crates} {x y : Clients} {p q : Phase}

theorem step_serves {l : Label Msg Answers} (h : x.step crates l = some y)
    (hx : x.task = some p) (hy : y.task = some q) :
    ∃ handled : List (Msg × Answers),
      ahead x ++ (sent l).toList = handled.map Prod.fst ++ ahead y ∧
      exec (Task.step crates) p.task handled = some q.task := by
  cases l with
  | send m =>
    obtain ⟨-, htask, ⟨ht, -, -⟩ | ⟨-, hq, -⟩⟩ := Sys.send_cases h
    · rw [hx] at ht; cases ht
    · have hpq : p = q := by rw [htask, hx] at hy; exact Option.some.inj hy
      subst hpq
      refine ⟨[], ?_, rfl⟩
      cases p <;> simp [ahead, hx, hy, hq, sent]
  | recv =>
    obtain ⟨s, m, s', ht, hq, hr, hty, -⟩ := Sys.recv_cases h
    rw [hx] at ht
    cases ht
    cases p with
    | busy t m' => cases hr
    | idle t =>
      cases hr
      rw [hy] at hty
      cases hty
      exact ⟨[], by simp [ahead, hx, hy, hq, sent], rfl⟩
  | work ans =>
    cases p with
    | idle t =>
      obtain ⟨s, rs, o, ht, hw, -⟩ := Sys.work_cases h
      rw [hx] at ht
      cases ht
      cases hw
    | busy t m =>
      obtain ⟨t', ht', hty, hq, -⟩ | ⟨-, hty, -⟩ := work_eq hx h
      · rw [hy] at hty
        cases hty
        refine ⟨[(m, ans)], by simp [ahead, hx, hy, hq, sent], ?_⟩
        exact exec_cons.mpr ⟨t', ht', rfl⟩
      · rw [hy] at hty; cases hty

/-- **A run behind the channel is a run over the messages in the order of sending**: those
handled so far have led the task to where it is, the rest is ahead of it. -/
theorem exec_serves {ls : List (Label Msg Answers)} (h : exec (Clients.step crates) x ls = some y)
    (hx : x.task = some p) (hy : y.task = some q) :
    ∃ handled : List (Msg × Answers),
      ahead x ++ ls.filterMap sent = handled.map Prod.fst ++ ahead y ∧
      exec (Task.step crates) p.task handled = some q.task := by
  induction ls generalizing x p with
  | nil =>
    cases h
    rw [hx] at hy
    cases hy
    exact ⟨[], by simp, rfl⟩
  | cons l ls ih =>
    obtain ⟨z, hst, hrest⟩ := exec_cons.mp h
    -- a task that stops does not come back
    have hz : z.task ≠ none := by
      intro hn
      have := Sys.stopped_exec hn hrest
      rw [hy] at this
      cases this
    obtain ⟨o, ho⟩ := Option.ne_none_iff_exists'.mp hz
    obtain ⟨first, hfirst, hrun⟩ := step_serves hst hx ho
    obtain ⟨rest, hrest', hrun'⟩ := ih hrest ho
    refine ⟨first ++ rest, ?_, exec_append.mpr ⟨_, hrun, hrun'⟩⟩
    have hl : (l :: ls).filterMap sent = (sent l).toList ++ ls.filterMap sent := by
      cases hs : sent l <;> simp [hs]
    rw [hl, ← List.append_assoc, hfirst, List.append_assoc, hrest', List.map_append,
      List.append_assoc]

/-- The runs of `Conf` are the runs of the task in which every new id is fresh. -/
theorem exec_conf {c : Conf} {ins : List (Msg × Answers)}
    (hfresh : Along (Conf.step crates) (fun c i => i.2.newId ∉ i.1.ids ++ c.seen) c ins) :
    (exec (Conf.step crates) c ins).map Conf.task = exec (Task.step crates) c.task ins := by
  induction ins generalizing c with
  | nil => rfl
  | cons i ins ih =>
    have hst : c.step crates i = ((c.task.onMsg crates i.2 i.1).task).map fun t =>
        ⟨t, t.connection.id :: (i.1.ids ++ c.seen)⟩ := by
      unfold Conf.step
      rw [if_neg hfresh.1]
    cases ht : (c.task.onMsg crates i.2 i.1).task with
    | none => simp [exec, hst, Task.step, ht]
    | some t =>
      rw [ht] at hst
      simp only [exec, hst, Task.step, ht, Option.map_some, Option.bind_some]
      exact ih (hfresh.2 _ hst)

end

/-- **Every request for a channel is answered exactly once.** Nobody waits for a task that
has stopped; a result never changes; a request that waits is settled once the task has
worked on the messages ahead of it and on its own, and until then the task can move. While
the task runs the answer is the handle that is current after the request. An error of
`next` stops the task for good, goes to the request it was made for, and closes every
other. -/
theorem channel_requests_answered_once {crates : Crates} {conn : NodeConnection}
    {ls : List (Label Msg Answers)} {x : Clients}
    (hrun : exec (Clients.step crates) (Clients.init conn) ls = some x) :
    (x.task = none → ∀ r, x.slots r ≠ .waiting) ∧
    (∀ r res ls' y, currentSelectedNode (x.slots r) = some res →
      exec (Clients.step crates) x ls' = some y → currentSelectedNode (y.slots r) = some res) ∧
    (∀ r, x.slots r = .waiting →
      ((x.step crates .recv).isSome = true ∨
        ∀ ans, (x.step crates (.work ans)).isSome = true) ∧
      ∀ ls' y, exec (Clients.step crates) x ls' = some y →
        (ahead x).idxOf (.getChannel r) < ls'.countP isWork →
        (currentSelectedNode (y.slots r)).isSome = true) ∧
    (∀ r t t' ans y, x.task = some (.busy t (.getChannel r)) →
      x.step crates (.work ans) = some y → y.task = some (.idle t') →
      ∃ h, currentSelectedNode (y.slots r) = some (.ok h) ∧ t'.handleOpt = some h) ∧
    (∀ t m ans y conn' io e, x.task = some (.busy t m) → t.callsNext m →
      t.connection.next crates ans m.request = .ret ⟨conn', io, .error e⟩ →
      x.step crates (.work ans) = some y →
      y.task = none ∧
      (∀ r, m = .getChannel r →
        currentSelectedNode (y.slots r) = some (.error (.grpcConnectionError e))) ∧
      (∀ r, x.slots r = .waiting → m ≠ .getChannel r →
        currentSelectedNode (y.slots r) = some (.error .connectionClosed))) ∧
    (x.task = none → ∀ l y, x.step crates l = some y →
      y.task = none ∧ (∃ m, l = .send m) ∧
      ∀ r, l = .send (.getChannel r) →
        currentSelectedNode (y.slots r) = some (.error .connectionClosed)) := by
  have hA := connectionActor_lawful crates
  have hi := clients_inv hrun
  refine ⟨hi.not_waiting, ?_, ?_, ?_, ?_, ?_⟩
  · intro r res ls' y hres hrun'
    have hs : (x.slots r).settled := currentSelectedNode_isSome.mp (by rw [hres]; rfl)
    rw [Sys.settled_exec hA hi hs hrun']
    exact hres
  · intro r hr
    refine ⟨waiting_moves hi hr, fun ls' y hrun' hlt => ?_⟩
    rw [currentSelectedNode_isSome]
    have hu : y.slots r ≠ .unused :=
      Lib.exec_inv (P := fun z : Clients => z.slots r ≠ .unused)
        (fun _ _ _ hz hst => Sys.used_step hst hz) (by simp [hr]) hrun'
    refine Slot.settled_of hu fun hw => ?_
    have := wait_exec hi hrun' hw hr
    omega
  · intro r t t' ans y ht hst hty
    obtain ⟨t'', ht'', hty', -, hslots⟩ | ⟨-, hty', -⟩ := work_eq ht hst
    · rw [hty] at hty'
      cases hty'
      obtain ⟨h, hrep, hopt⟩ := onMsg_reply ht''
      exact ⟨h, by rw [hslots, settle_reply hrep]; rfl, hopt⟩
    · rw [hty] at hty'; cases hty'
  · intro t m ans y conn' io e ht hc hnext hst
    obtain ⟨htask, hrep⟩ := onMsg_error hc hnext
    obtain ⟨t', ht', -⟩ | ⟨-, hty, hslots⟩ := work_eq ht hst
    · rw [htask] at ht'; cases ht'
    · refine ⟨hty, fun r hm => ?_, fun r hr hm => ?_⟩
      · subst hm
        rw [hslots, settle_reply (hrep r rfl)]; rfl
      · rw [hslots, settle_others hm ((hi.waiting r).mp hr)]; rfl
  · intro ht l y hst
    obtain ⟨hty, hl⟩ := Sys.stopped_step ht hst
    refine ⟨hty, hl, fun r hlr => ?_⟩
    subst hlr
    rw [Sys.stopped_send ht rfl hst]; rfl

def soloRun : List (Label Msg Answers) :=
  [.send (.getChannel 0), .recv, .work (soloAnswers 1)]

theorem channel_request_answered_solo :
    ∃ h x, exec (Clients.step soloCrates) (Clients.init soloConnection) soloRun = some x ∧
      currentSelectedNode (x.slots 0) = some (.ok h) ∧
      ∀ ls y, exec (Clients.step soloCrates) x ls = some y →
        currentSelectedNode (y.slots 0) = some (.ok h) := by
  have hrun : (exec (Clients.step soloCrates) (Clients.init soloConnection) soloRun).isSome :=
    rfl
  obtain ⟨x, hx⟩ := Option.isSome_iff_exists.mp hrun
  have hans : ∃ h, currentSelectedNode (x.slots 0) = some (.ok h) := by
    cases hx
    exact ⟨_, rfl⟩
  obtain ⟨h, hh⟩ := hans
  exact ⟨h, x, hx, hh, fun ls y => (channel_requests_answered_once hx).2.1 0 _ ls y hh⟩

end Kurrent
