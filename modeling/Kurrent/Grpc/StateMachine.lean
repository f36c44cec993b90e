import Kurrent.Lib.Run
import Kurrent.Grpc.NodeConnection

/-!
# The connection task

`connection_state_machine` owns the connection and answers the messages of every client
one after the other. It keeps the current handle twice: in the `NodeConnection` and in its
own `handle_opt`. `Task.onMsg` is one turn of its loop. A message either finds a handle it
says nothing about and leaves everything as it is (`onMsg_keeps`), or makes the task connect
anew (`onMsg_reconnects`); every result about runs is an induction over these two.

`Conf` pairs the task with the ids in use. A step of the run is only possible when
`Uuid::new_v4` gave an id that is not among them.
-/

namespace Kurrent

open Lib
open NodeConnection (Next Made Redirects next_current next_connects)

/-- A handle as clients hold it. Its sender is the one of the task's own channel and its
HTTP client is the connection's, both the same for every handle. -/
structure Handle where
  id : Uuid
  uri : Uri
  endpoint : Endpoint
  secure : Bool
  serverInfo : ServerInfo
  deriving DecidableEq, Repr

def Handle.ofInfo (info : HandleInfo) : Handle :=
  ⟨info.id, info.uri, info.endpoint, info.secure, info.serverInfo⟩

/-- The messages of the task; `resp` names the one-shot channel the answer goes to. -/
inductive Msg where
  | getChannel (resp : Nat)
  | createChannel (id : Uuid) (seedOpt : Option Endpoint)
  deriving DecidableEq, Repr

/-- What `handle_error` sends to the task after an operation failed. -/
def handleError (connectionId : Uuid) : Error → Option Msg
  | .serverError _ => some (.createChannel connectionId none)
  | .notLeaderException leader => some (.createChannel connectionId (some leader))
  | _ => none

structure Task where
  connection : NodeConnection
  handleOpt : Option Handle
  deriving DecidableEq, Repr

/-- One turn of the loop: the answer sent to the message's one-shot, and the task if the
loop goes on. -/
structure Effect where
  reply : Option (Except GrpcConnectionError Handle)
  task : Option Task
  deriving DecidableEq

/-- The handle and the task after `connection.next`; a panic ends the task without a word. -/
def Task.afterNext : Call Next → Option (Except GrpcConnectionError (Handle × Task))
  | .panic _ => none
  | .ret ⟨_, _, .error e⟩ => some (.error e)
  | .ret ⟨conn, _, .ok info⟩ =>
    let handle := Handle.ofInfo info
    some (.ok (handle, ⟨conn, some handle⟩))

/-- The request the task passes to `next`. -/
def Msg.request : Msg → Option NodeRequest
  | .getChannel _ => none
  | .createChannel id seedOpt => seedOpt.map fun endpoint => ⟨id, endpoint⟩

def Task.onMsg (crates : Crates) (ans : Answers) (t : Task) (msg : Msg) : Effect :=
  match msg with
  | .getChannel _ =>
    match t.handleOpt with
    | some handle => ⟨some (.ok handle), some t⟩
    | none =>
      match afterNext (t.connection.next crates ans none) with
      | none => ⟨none, none⟩
      | some (.error e) => ⟨some (.error e), none⟩
      | some (.ok (handle, t')) => ⟨some (.ok handle), some t'⟩
  | .createChannel _ _ =>
    match afterNext (t.connection.next crates ans msg.request) with
    | none => ⟨none, none⟩
    | some (.error _) => ⟨none, none⟩
    | some (.ok (_, t')) => ⟨none, some t'⟩

/-! ## The two caches agree -/

/-- The task's handle is a copy of the connection's, under the connection's id. -/
structure Synced (t : Task) : Prop where
  handles : t.handleOpt = t.connection.handle.map Handle.ofInfo
  id : ∀ h, t.connection.handle = some h → t.connection.id = h.id
  previous : t.connection.previousCandidates = none

/-- The message makes the task connect: there is no handle, or the message redirects it. -/
def Reconnects (t : Task) (m : Msg) : Prop :=
  t.connection.handle = none ∨ ∃ r, m.request = some r ∧ t.connection.id = r.correlation

theorem request_id {m : Msg} {r : NodeRequest} (h : m.request = some r) :
    m = .createChannel r.correlation (some r.endpoint) := by
  cases m with
  | getChannel resp => cases h
  | createChannel id seedOpt =>
    cases seedOpt with
    | none => cases h
    | some e => cases h; rfl

section

variable {crates : Crates} {ans : Answers} {t t' : Task} {m : Msg}

theorem Synced.handle_none (hs : Synced t) : t.connection.handle = none ↔ t.handleOpt = none := by
  rw [hs.handles, Option.map_eq_none_iff]

theorem afterNext_current {h : HandleInfo} (hs : Synced t) (hh : t.connection.handle = some h) :
    Task.afterNext (.ret ⟨t.connection, {}, .ok h⟩) = some (.ok (Handle.ofInfo h, t)) := by
  have : t = ⟨t.connection, some (Handle.ofInfo h)⟩ := by
    obtain ⟨conn, opt⟩ := t
    have := hs.handles
    simp only at this hh
    rw [this, hh]
    rfl
  conv_rhs => rw [this]
  rfl

/-- A message that is not about the current handle changes nothing; a request for a channel
is answered with the handle. -/
theorem onMsg_keeps (hs : Synced t) (hr : ¬ Reconnects t m) :
    ∃ h, t.connection.handle = some h ∧ (t.onMsg crates ans m).task = some t ∧
      ∀ resp, m = .getChannel resp → (t.onMsg crates ans m).reply = some (.ok (Handle.ofInfo h)) := by
  obtain ⟨h, hh⟩ := Option.ne_none_iff_exists'.mp fun e => hr (.inl e)
  have hopt : t.handleOpt = some (Handle.ofInfo h) := by rw [hs.handles, hh]; rfl
  refine ⟨h, hh, ?_⟩
  cases m with
  | getChannel resp => simp [Task.onMsg, hopt]
  | createChannel id seedOpt =>
    have hne : ∀ r, (Msg.createChannel id seedOpt).request = some r →
        t.connection.id ≠ r.correlation := fun r hreq e => hr (.inr ⟨r, hreq, e⟩)
    simp only [Task.onMsg, next_current hh hne, afterNext_current hs hh]
    simp

/-- A call of `next` that returns a handle, as the task sees it. -/
theorem afterNext_ok {r : Call Next} {h : Handle} (ha : Task.afterNext r = some (.ok (h, t'))) :
    ∃ conn io info, r = .ret ⟨conn, io, .ok info⟩ ∧ h = Handle.ofInfo info ∧
      t' = ⟨conn, some (Handle.ofInfo info)⟩ := by
  unfold Task.afterNext at ha
  split at ha
  · cases ha
  · cases ha
  · next conn io info => cases ha; exact ⟨conn, io, info, rfl, rfl, rfl⟩

/-- The new connection a message made the task establish. -/
structure Established (crates : Crates) (ans : Answers) (t : Task) (m : Msg) (info : HandleInfo) :
    Prop where
  call : ∃ io, t.connection.next crates ans m.request =
      .ret ⟨{ t.connection with id := ans.newId, handle := some info }, io, .ok info⟩ ∧
    Made crates ans t.connection m.request io.reads info
  redirects : ∀ r, m.request = some r → Redirects t.connection r

theorem next_established {conn : NodeConnection} {io : Io} {info : HandleInfo} (hs : Synced t)
    (hr : Reconnects t m)
    (h : t.connection.next crates ans m.request = .ret ⟨conn, io, .ok info⟩) :
    conn = { t.connection with id := ans.newId, handle := some info } ∧
      Established crates ans t m info := by
  have hred : ∀ r, m.request = some r → Redirects t.connection r := by
    intro r hreq
    rcases hr with hn | ⟨r', hreq', hid⟩
    · exact .inl hn
    · rw [hreq] at hreq'; cases hreq'; exact .inr hid
  have hnone : m.request = none → t.connection.handle = none := by
    intro hreq
    rcases hr with hn | ⟨r', hreq', -⟩
    · exact hn
    · rw [hreq] at hreq'; cases hreq'
  have hc := next_connects hs.previous hred hnone h
  cases hc with
  | made hm => exact ⟨rfl, ⟨io, h, hm⟩, hred⟩

/-- A message that makes the task connect leaves it, if it still runs, with the new handle;
a request for a channel is answered with that handle. -/
theorem onMsg_reconnects (hs : Synced t) (hr : Reconnects t m)
    (ht : (t.onMsg crates ans m).task = some t') :
    ∃ info, Established crates ans t m info ∧
      t' = ⟨{ t.connection with id := ans.newId, handle := some info }, some (Handle.ofInfo info)⟩ ∧
      ∀ resp, m = .getChannel resp →
        (t.onMsg crates ans m).reply = some (.ok (Handle.ofInfo info)) := by
  cases m with
  | getChannel resp =>
    have hn : t.handleOpt = none := by
      rcases hr with hn | ⟨r, hreq, -⟩
      · exact hs.handle_none.mp hn
      · cases hreq
    simp only [Task.onMsg, hn] at ht ⊢
    split at ht
    · cases ht
    · cases ht
    · next handle t'' ha =>
      obtain ⟨conn, io, info, hnext, rfl, rfl⟩ := afterNext_ok ha
      obtain ⟨rfl, he⟩ := next_established hs hr hnext
      cases ht
      exact ⟨info, he, rfl, fun _ _ => rfl⟩
  | createChannel id seedOpt =>
    simp only [Task.onMsg] at ht
    split at ht
    · cases ht
    · cases ht
    · next handle t'' ha =>
      obtain ⟨conn, io, info, hnext, rfl, rfl⟩ := afterNext_ok ha
      obtain ⟨rfl, he⟩ := next_established hs hr hnext
      cases ht
      exact ⟨info, he, rfl, fun _ h => by cases h⟩

theorem onMsg_synced (hs : Synced t) (ht : (t.onMsg crates ans m).task = some t') : Synced t' := by
  by_cases hr : Reconnects t m
  · obtain ⟨info, he, rfl, -⟩ := onMsg_reconnects hs hr ht
    obtain ⟨io, -, hm⟩ := he.call
    refine ⟨rfl, ?_, hs.previous⟩
    intro h hh
    cases hh
    exact hm.id.symm
  · obtain ⟨h, -, htask, -⟩ := @onMsg_keeps crates ans t m hs hr
    rw [htask] at ht
    cases ht
    exact hs

end

/-! ## Runs -/

/-- The ids a message carries. -/
def Msg.ids : Msg → List Uuid
  | .getChannel _ => []
  | .createChannel id _ => [id]

/-- The running task and every id that has been generated or reported so far. -/
structure Conf where
  task : Task
  seen : List Uuid

def Conf.init (conn : NodeConnection) : Conf := ⟨⟨conn, none⟩, [Uuid.nil]⟩

/-- The task handles one message while the world gives the answers; not possible if the
new id is in use, and no step at all if the message ends the task. -/
def Conf.step (crates : Crates) (c : Conf) (input : Msg × Answers) : Option Conf :=
  if input.2.newId ∈ input.1.ids ++ c.seen then none
  else (c.task.onMsg crates input.2 input.1).task.map fun t =>
    ⟨t, t.connection.id :: (input.1.ids ++ c.seen)⟩

structure ConfInv (c : Conf) : Prop where
  synced : Synced c.task
  seen : c.task.connection.id ∈ c.seen

section

variable {crates : Crates} {ans : Answers} {c c' : Conf} {m : Msg}

theorem step_eq_some (h : c.step crates (m, ans) = some c') :
    ans.newId ∉ m.ids ++ c.seen ∧ (c.task.onMsg crates ans m).task = some c'.task ∧
      c'.seen = c'.task.connection.id :: (m.ids ++ c.seen) := by
  unfold Conf.step at h
  split at h
  · cases h
  · next hfresh =>
    obtain ⟨t, ht, rfl⟩ := Option.map_eq_some_iff.mp h
    exact ⟨hfresh, ht, rfl⟩

/-- **What a step can do**: nothing to the task, or a new connection under a new id. -/
theorem step_cases (hc : ConfInv c) (h : c.step crates (m, ans) = some c') :
    (¬ Reconnects c.task m ∧ c'.task = c.task) ∨
    (Reconnects c.task m ∧ ans.newId ∉ m.ids ++ c.seen ∧
      ∃ info, Established crates ans c.task m info ∧
        c'.task = ⟨{ c.task.connection with id := ans.newId, handle := some info },
          some (Handle.ofInfo info)⟩) := by
  obtain ⟨hfresh, ht, -⟩ := step_eq_some h
  by_cases hr : Reconnects c.task m
  · obtain ⟨info, he, ht', -⟩ := onMsg_reconnects hc.synced hr ht
    exact .inr ⟨hr, hfresh, info, he, ht'⟩
  · obtain ⟨-, -, htask, -⟩ := @onMsg_keeps crates ans c.task m hc.synced hr
    rw [htask] at ht
    exact .inl ⟨hr, (Option.some.inj ht).symm⟩

theorem step_inv (hc : ConfInv c) (h : c.step crates (m, ans) = some c') : ConfInv c' := by
  obtain ⟨-, ht, hseen⟩ := step_eq_some h
  exact ⟨onMsg_synced hc.synced ht, by rw [hseen]; exact List.mem_cons_self⟩

theorem seen_step (h : c.step crates (m, ans) = some c') : m.ids ++ c.seen ⊆ c'.seen := by
  obtain ⟨-, -, hseen⟩ := step_eq_some h
  rw [hseen]
  exact List.subset_cons_self _ _

theorem new_conn {settings : ClientSettings} {conn : NodeConnection}
    (h : NodeConnection.new settings = .ret conn) :
    conn.id = Uuid.nil ∧ conn.handle = none ∧ conn.settings = settings ∧
      conn.previousCandidates = none ∧
      NodeConnection.chooseClusterMode settings = .ret conn.clusterMode := by
  obtain ⟨mode, hm, h⟩ := Call.bind_eq_ret h
  cases h
  exact ⟨rfl, rfl, rfl, rfl, hm⟩

theorem init_inv {settings : ClientSettings} {conn : NodeConnection}
    (h : NodeConnection.new settings = .ret conn) : ConfInv (Conf.init conn) := by
  obtain ⟨hid, hh, -, hp, -⟩ := new_conn h
  refine ⟨⟨?_, ?_, hp⟩, ?_⟩
  · show none = conn.handle.map Handle.ofInfo
    rw [hh]; rfl
  · intro k hk
    rw [show (Conf.init conn).task.connection.handle = none from hh] at hk
    cases hk
  · show conn.id ∈ [Uuid.nil]
    rw [hid]; exact List.mem_singleton_self _

theorem exec_confInv {ins : List (Msg × Answers)} (hc : ConfInv c)
    (h : exec (Conf.step crates) c ins = some c') : ConfInv c' :=
  exec_inv (P := ConfInv) (fun _ ⟨_, _⟩ _ hs hst => step_inv hs hst) hc h

end

end Kurrent
