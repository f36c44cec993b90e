import Kurrent.Grpc.Clients
import Kurrent.Grpc.Provenance

/-!
# Operations and the connection

The clients of the task with what they do with a handle: an operation asks for one, runs on
it and may fail, any number of times if it reads a stream. What it then tells the task
depends on where it is written: `execute` and the readers call `handle_error`, the statistics
of a projection `report_error`, and the operations client says nothing. Every redirect the
task works on comes from such a failure, so the connection moves only where a server sends it.
-/

namespace Kurrent

open Lib

/-- `Handle::report_error` -/
def Handle.reportError (self : Handle) : Msg := .createChannel self.id none

/-- What becomes of the failure of an operation. -/
inductive Report where
  /-- `handle_error` -/
  | handled
  /-- `report_error` -/
  | reported
  /-- `operations::Client` returns the error and is done. -/
  | returned
  deriving DecidableEq, Repr

def Report.msg (how : Report) (handle : Handle) (status : Status) : Option Msg :=
  match how with
  | handled => handleError handle.id (Error.fromGrpc status)
  | reported => some handle.reportError
  | returned => none

/-- A status with which a server ended an operation that ran on a handle. -/
structure Failure where
  handle : Handle
  how : Report
  status : Status

structure Operations where
  clients : Clients
  failures : List Failure
  /-- what the world has answered to the task -/
  answers : List Answers

namespace Operations

inductive Move where
  /-- an operation asks for a handle -/
  | ask (r : Nat)
  | recv
  | work (ans : Answers)
  /-- the operation that was answered under `r` fails -/
  | fail (r : Nat) (how : Report) (status : Status)

def init (conn : NodeConnection) : Operations := ⟨.init conn, [], []⟩

def step (crates : Crates) (s : Operations) : Move → Option Operations
  | .ask r => (s.clients.step crates (.send (.getChannel r))).map fun clients => { s with clients }
  | .recv => (s.clients.step crates .recv).map fun clients => { s with clients }
  | .work ans => (s.clients.step crates (.work ans)).map fun clients =>
      { s with clients, answers := s.answers ++ [ans] }
  | .fail r how status =>
    match s.clients.slots r with
    | .answered (.ok handle) =>
      let failures := s.failures ++ [⟨handle, how, status⟩]
      match how.msg handle status with
      | none => some { s with failures }
      | some msg => (s.clients.step crates (.send msg)).map fun clients =>
          { s with clients, failures }
    | _ => none

/-- The handle the task would answer with now. -/
def current (s : Operations) : Option Handle := s.clients.task.bind fun p => p.task.handleOpt

/-- Some operation on the handle with this id was told that the leader is at `e`. -/
def Redirected (failures : List Failure) (id : Uuid) (e : Endpoint) : Prop :=
  ∃ f ∈ failures, f.how = .handled ∧ f.handle.id = id ∧
    Error.fromGrpc f.status = .notLeaderException e

/-- Where an endpoint may be known from: the first configured host outside a cluster, an
eligible member in the gossip of a configured endpoint, or a server that names its leader. -/
def Known (crates : Crates) (start : NodeConnection) (s : Operations) (e : Endpoint) : Prop :=
  (start.clusterMode = none ∧ start.settings.hosts.head? = some e) ∨
  (∃ cluster, start.clusterMode = some cluster ∧ ∃ ans ∈ s.answers, ∃ r : GossipRead,
    r.candidate ∈ cluster.configured ∧ r.Genuine crates start.settings ans ∧ r.Offers e) ∨
  (∃ id, Redirected s.failures id e)

/-- The handle is on a known endpoint, as the settings say how. -/
structure Sound (crates : Crates) (start : NodeConnection) (s : Operations) (h : Handle) :
    Prop where
  known : Known crates start s h.endpoint
  uri : start.settings.toHyperUri crates h.endpoint = .ret h.uri
  secure : h.secure = start.settings.secure

structure Inv (crates : Crates) (start : NodeConnection) (s : Operations) : Prop where
  synced : ∀ p, s.clients.task = some p → Synced p.task
  settings : ∀ p, s.clients.task = some p → p.task.connection.settings = start.settings ∧
    p.task.connection.clusterMode = start.clusterMode
  ahead : ∀ id e, .createChannel id (some e) ∈ ahead s.clients → Redirected s.failures id e
  current : ∀ p h, s.clients.task = some p → p.task.handleOpt = some h → Sound crates start s h
  answered : ∀ r h, s.clients.slots r = .answered (.ok h) → Sound crates start s h

end Operations

/-! ## What a step of the clients does -/

section

variable {crates : Crates} {x y : Clients} {ans : Answers}

/-- Between two pieces of work the task stays what it is, and nobody is answered. -/
theorem clients_kept {l : Label Msg Answers} (h : x.step crates l = some y)
    (hl : isWork l = false) :
    y.task.map Phase.task = x.task.map Phase.task ∧
      (∀ m ∈ ahead y, m ∈ ahead x ∨ l = .send m) ∧
      ∀ r a, y.slots r = .answered a → x.slots r = .answered a := by
  cases l with
  | send m =>
    obtain ⟨-, htask, ⟨ht, hq, hslots⟩ | ⟨ht, hq, hslots⟩⟩ := Sys.send_cases h
    · refine ⟨by rw [htask], fun m' hm' => ?_, fun r a hr => ?_⟩
      · simp [ahead, htask, ht] at hm'
      · rw [hslots] at hr
        split at hr
        · cases hr
        · exact hr
    · refine ⟨by rw [htask], fun m' hm' => ?_, fun r a hr => ?_⟩
      · unfold ahead at hm' ⊢
        rw [htask, hq] at hm'
        cases hx : x.task with
        | none => exact absurd hx ht
        | some p =>
          rw [hx] at hm'
          have hmem : m' ∈ x.queue ++ [m] ∨ ∃ t m₀, p = .busy t m₀ ∧ m' = m₀ := by
            cases p with
            | idle t => exact .inl hm'
            | busy t m₀ => exact (List.mem_cons.mp hm').elim (fun e => .inr ⟨t, m₀, rfl, e⟩) .inl
          rcases hmem with hmem | ⟨t, m₀, rfl, rfl⟩
          · rcases List.mem_append.mp hmem with hmem | hmem
            · left
              cases p with
              | idle t => exact hmem
              | busy t m₀ => exact List.mem_cons_of_mem _ hmem
            · exact .inr (by rw [List.mem_singleton.mp hmem])
          · exact .inl List.mem_cons_self
      · rw [hslots] at hr
        split at hr
        · cases hr
        · exact hr
  | recv =>
    obtain ⟨p, m, p', ht, hq, hr, hty, hslots⟩ := Sys.recv_cases h
    cases p with
    | busy t m' => cases hr
    | idle t =>
      cases hr
      refine ⟨by rw [ht, hty]; rfl, fun m' hm' => .inl ?_, fun r a hr => by rw [← hslots]; exact hr⟩
      simpa [ahead, ht, hty, hq] using hm'
  | work ans => cases hl

theorem settle_answered {α : Type} {slots : Nat → Slot α} {held kept : List Nat}
    {rs : List (Nat × α)} {r : Nat} {a : α} (h : settle slots held rs kept r = .answered a) :
    rs.lookup r = some a ∨ slots r = .answered a := by
  unfold settle at h
  split at h
  · next b hb => cases h; exact .inl hb
  · split at h
    · cases h
    · exact .inr h

/-- A reply with a handle is made by a task that goes on with it. -/
theorem replies_ok {t : Task} {m : Msg} {r : Nat} {h : Handle}
    (hr : ((t.onMsg crates ans m).replies m).lookup r = some (.ok h)) :
    ∃ t', (t.onMsg crates ans m).task = some t' ∧ t'.handleOpt = some h := by
  unfold Effect.replies at hr
  cases m with
  | createChannel id seedOpt => cases hr
  | getChannel resp =>
    simp only [Msg.resp] at hr
    cases hrep : (t.onMsg crates ans (.getChannel resp)).reply with
    | none => rw [hrep] at hr; cases hr
    | some a =>
      rw [hrep] at hr
      have ha : a = .ok h := by
        rw [List.lookup_cons] at hr
        split at hr
        · exact Option.some.inj hr
        · cases hr
      subst ha
      obtain ⟨t', ht'⟩ := reply_task hrep
      obtain ⟨handle, hrep', hopt⟩ := onMsg_reply ht'
      rw [hrep] at hrep'
      cases hrep'
      exact ⟨t', ht', hopt⟩

/-- Work is one turn of the loop; whom it answers gets the handle the task has after it. -/
theorem clients_work (h : x.step crates (.work ans) = some y) :
    ∃ t m, x.task = some (.busy t m) ∧ (∀ m' ∈ ahead y, m' ∈ ahead x) ∧
      ((t.onMsg crates ans m).task = none ∧ y.task = none ∨
        ∃ t', (t.onMsg crates ans m).task = some t' ∧ y.task = some (.idle t')) ∧
      ∀ r k, y.slots r = .answered (.ok k) → x.slots r = .answered (.ok k) ∨
        ∃ t', y.task = some (.idle t') ∧ t'.handleOpt = some k := by
  obtain ⟨p, rs, o, ht, hw, -⟩ := Sys.work_cases h
  cases p with
  | idle t => cases hw
  | busy t m =>
    refine ⟨t, m, ht, ?_⟩
    rcases work_eq ht h with ⟨t', ht', hty, hq, hslots⟩ | ⟨hnone, hty, hslots⟩
    · refine ⟨fun m' hm' => ?_, .inr ⟨t', ht', hty⟩, fun r k hr => ?_⟩
      · simp only [ahead, hty, hq, ht] at hm' ⊢
        exact List.mem_cons_of_mem _ hm'
      · rw [hslots] at hr
        rcases settle_answered hr with hl | hold
        · obtain ⟨t'', ht'', hk⟩ := replies_ok hl
          rw [ht'] at ht''
          cases ht''
          exact .inr ⟨t', hty, hk⟩
        · exact .inl hold
    · refine ⟨fun m' hm' => ?_, .inl ⟨hnone, hty⟩, fun r k hr => ?_⟩
      · simp [ahead, hty] at hm'
      · rw [hslots] at hr
        rcases settle_answered hr with hl | hold
        · obtain ⟨t'', ht'', -⟩ := replies_ok hl
          rw [hnone] at ht''
          cases ht''
        · exact .inl hold

end

namespace Operations

section

variable {crates : Crates} {start : NodeConnection} {s s' : Operations} {m : Move}

theorem handleError_redirect {id id' : Uuid} {err : Error} {e : Endpoint}
    (h : handleError id err = some (.createChannel id' (some e))) :
    id' = id ∧ err = .notLeaderException e := by
  cases err with
  | notLeaderException leader => cases h; exact ⟨rfl, rfl⟩
  | serverError message => cases h
  | _ => cases h

/-- A redirect is sent only for a status that names a leader. -/
theorem msg_redirect {how : Report} {handle : Handle} {status : Status} {id : Uuid} {e : Endpoint}
    (h : how.msg handle status = some (.createChannel id (some e))) :
    how = .handled ∧ id = handle.id ∧ Error.fromGrpc status = .notLeaderException e := by
  cases how with
  | handled => exact ⟨rfl, handleError_redirect h⟩
  | reported => cases h
  | returned => cases h

/-! ## What is known stays known -/

/-- Nothing that was learnt is forgotten. -/
structure Learns (s s' : Operations) : Prop where
  failures : s.failures ⊆ s'.failures
  answers : s.answers ⊆ s'.answers

theorem Redirected.mono {fs fs' : List Failure} {id : Uuid} {e : Endpoint} (hs : fs ⊆ fs')
    (h : Redirected fs id e) : Redirected fs' id e := by
  obtain ⟨f, hf, hrest⟩ := h
  exact ⟨f, hs hf, hrest⟩

theorem Sound.mono {h : Handle} (hs : Learns s s') (hk : Sound crates start s h) :
    Sound crates start s' h := by
  refine ⟨?_, hk.uri, hk.secure⟩
  rcases hk.known with hk | ⟨cluster, hmode, ans, ha, r, hr⟩ | ⟨id, hr⟩
  · exact .inl hk
  · exact .inr (.inl ⟨cluster, hmode, ans, hs.answers ha, r, hr⟩)
  · exact .inr (.inr ⟨id, hr.mono hs.failures⟩)

/-! ## The steps -/

/-- A step that is not work leaves the invariant, given where its redirects come from. -/
theorem Inv.kept {l : Label Msg Answers} {clients : Clients} (hi : Inv crates start s)
    (h : s.clients.step crates l = some clients) (hl : isWork l = false) (hs : Learns s s')
    (hc : s'.clients = clients)
    (hsend : ∀ id e, l = .send (.createChannel id (some e)) → Redirected s'.failures id e) :
    Inv crates start s' := by
  subst hc
  obtain ⟨htask, hahead, hslots⟩ := clients_kept h hl
  have old : ∀ p, s'.clients.task = some p → ∃ q, s.clients.task = some q ∧ q.task = p.task := by
    intro p hp
    rw [hp] at htask
    exact Option.map_eq_some_iff.mp htask.symm
  refine ⟨fun p hp => ?_, fun p hp => ?_, fun id e hm => ?_, fun p k hp hk => ?_, fun r k hr => ?_⟩
  · obtain ⟨q, hq, hqp⟩ := old p hp
    rw [← hqp]
    exact hi.synced q hq
  · obtain ⟨q, hq, hqp⟩ := old p hp
    rw [← hqp]
    exact hi.settings q hq
  · rcases hahead _ hm with hm | rfl
    · exact (hi.ahead id e hm).mono hs.failures
    · exact hsend id e rfl
  · obtain ⟨q, hq, hqp⟩ := old p hp
    rw [← hqp] at hk
    exact (hi.current q k hq hk).mono hs
  · exact (hi.answered r k (hslots r _ hr)).mono hs

/-- The handle of a new connection is on a known endpoint. -/
theorem sound_of_established {t : Task} {msg : Msg} {ans : Answers} {info : HandleInfo}
    (hi : Inv crates start s) (ht : s.clients.task = some (.busy t msg)) (hs : Learns s s')
    (hans : ans ∈ s'.answers) (he : Established crates ans t msg info) :
    Sound crates start s' (Handle.ofInfo info) := by
  obtain ⟨hsettings, hmode⟩ := hi.settings _ ht
  simp only [Phase.task] at hsettings hmode
  obtain ⟨io, -, hm⟩ := he.call
  refine ⟨?_, by rw [← hsettings]; exact hm.uri, by rw [← hsettings]; exact hm.secure⟩
  rcases hm.origin with ⟨hnone, hhost⟩ | ⟨cluster, hc, r, -, hr, hg, ho⟩ | ⟨r, hreq, hend⟩
  · exact .inl ⟨by rw [← hmode]; exact hnone, by rw [← hsettings]; exact hhost⟩
  · rw [hsettings] at hg
    exact .inr (.inl ⟨cluster, by rw [← hmode]; exact hc, ans, hans, r, hr, hg, ho⟩)
  · refine .inr (.inr ⟨r.correlation, ?_⟩)
    have hin : .createChannel r.correlation (some r.endpoint) ∈ Kurrent.ahead s.clients := by
      rw [← request_id hreq]
      simp [Kurrent.ahead, ht]
    rw [show (Handle.ofInfo info).endpoint = r.endpoint from hend.symm]
    exact (hi.ahead _ _ hin).mono hs.failures

/-- Work keeps the invariant: the task is as before, or on a new connection. -/
theorem Inv.work {ans : Answers} {clients : Clients} (hi : Inv crates start s)
    (h : s.clients.step crates (.work ans) = some clients) :
    Inv crates start { s with clients, answers := s.answers ++ [ans] } := by
  obtain ⟨t, msg, ht, hahead, htask, hslots⟩ := clients_work h
  have hs : Learns s { s with clients, answers := s.answers ++ [ans] } :=
    ⟨List.Subset.refl _, List.subset_append_left _ _⟩
  have hsync : Synced t := hi.synced _ ht
  have after : ∀ t', clients.task = some (.idle t') →
      (t' = t ∨ ∃ info, Established crates ans t msg info ∧
        t' = ⟨{ t.connection with id := ans.newId, handle := some info },
          some (Handle.ofInfo info)⟩) ∧ (t.onMsg crates ans msg).task = some t' := by
    intro t' hy
    rcases htask with ⟨-, hnone⟩ | ⟨t'', ht'', hy'⟩
    · rw [hnone] at hy; cases hy
    · rw [hy] at hy'
      cases hy'
      refine ⟨?_, ht''⟩
      by_cases hr : Reconnects t msg
      · obtain ⟨info, he, hto, -⟩ := onMsg_reconnects hsync hr ht''
        exact .inr ⟨info, he, hto⟩
      · obtain ⟨-, -, hkeep, -⟩ := @onMsg_keeps crates ans t msg hsync hr
        rw [hkeep] at ht''
        cases ht''
        exact .inl rfl
  have idle : ∀ p, clients.task = some p → ∃ t', p = .idle t' := by
    intro p hp
    rcases htask with ⟨-, hnone⟩ | ⟨t', -, hy⟩
    · rw [hnone] at hp; cases hp
    · rw [hy] at hp; cases hp; exact ⟨t', rfl⟩
  have current : ∀ t' k, clients.task = some (.idle t') → t'.handleOpt = some k →
      Sound crates start { s with clients, answers := s.answers ++ [ans] } k := by
    intro t' k hy hk
    rcases (after t' hy).1 with rfl | ⟨info, he, rfl⟩
    · exact (hi.current _ k ht hk).mono hs
    · cases hk
      exact sound_of_established hi ht hs (List.mem_append_right _ (List.mem_singleton_self _)) he
  refine ⟨fun p hp => ?_, fun p hp => ?_, fun id e hm => ?_, fun p k hp hk => ?_, fun r k hr => ?_⟩
  · obtain ⟨t', rfl⟩ := idle p hp
    exact onMsg_synced hsync (after t' hp).2
  · obtain ⟨t', rfl⟩ := idle p hp
    have hsame := hi.settings _ ht
    rcases (after t' hp).1 with rfl | ⟨info, -, rfl⟩
    · exact hsame
    · exact hsame
  · exact hi.ahead id e (hahead _ hm)
  · obtain ⟨t', rfl⟩ := idle p hp
    exact current t' k hp hk
  · rcases hslots r k hr with hold | ⟨t', hy, hk⟩
    · exact (hi.answered r k hold).mono hs
    · exact current t' k hy hk

/-- What a step is, seen from the clients. -/
theorem step_cases (h : s.step crates m = some s') :
    Learns s s' ∧
    ((∃ ans clients, s.clients.step crates (.work ans) = some clients ∧
        s' = { s with clients, answers := s.answers ++ [ans] }) ∨
      (∃ l, s.clients.step crates l = some s'.clients ∧ isWork l = false ∧
        ∀ id e, l = .send (.createChannel id (some e)) → Redirected s'.failures id e) ∨
      s'.clients = s.clients) := by
  cases m with
  | ask r =>
    obtain ⟨clients, hc, rfl⟩ := Option.map_eq_some_iff.mp h
    exact ⟨⟨List.Subset.refl _, List.Subset.refl _⟩, .inr (.inl ⟨_, hc, rfl, nofun⟩)⟩
  | recv =>
    obtain ⟨clients, hc, rfl⟩ := Option.map_eq_some_iff.mp h
    exact ⟨⟨List.Subset.refl _, List.Subset.refl _⟩, .inr (.inl ⟨_, hc, rfl, nofun⟩)⟩
  | work ans =>
    obtain ⟨clients, hc, rfl⟩ := Option.map_eq_some_iff.mp h
    exact ⟨⟨List.Subset.refl _, List.subset_append_left _ _⟩, .inl ⟨ans, clients, hc, rfl⟩⟩
  | fail r how status =>
    simp only [step] at h
    split at h
    · next handle hslot =>
      split at h
      · cases h
        exact ⟨⟨List.subset_append_left _ _, List.Subset.refl _⟩, .inr (.inr rfl)⟩
      · next msg hmsg =>
        obtain ⟨clients, hc, rfl⟩ := Option.map_eq_some_iff.mp h
        refine ⟨⟨List.subset_append_left _ _, List.Subset.refl _⟩,
          .inr (.inl ⟨_, hc, rfl, fun id e he => ?_⟩)⟩
        cases he
        obtain ⟨hhow, hid, hstatus⟩ := msg_redirect hmsg
        exact ⟨⟨handle, how, status⟩, List.mem_append_right _ (List.mem_singleton_self _), hhow,
          hid.symm, hstatus⟩
    · cases h

theorem Inv.step (hi : Inv crates start s) (h : s.step crates m = some s') :
    Inv crates start s' := by
  obtain ⟨hs, ⟨ans, clients, hc, rfl⟩ | ⟨l, hc, hl, hsend⟩ | hsame⟩ := step_cases h
  · exact hi.work hc
  · exact hi.kept hc hl hs rfl hsend
  · refine ⟨by rw [hsame]; exact hi.synced, by rw [hsame]; exact hi.settings, ?_, ?_, ?_⟩
    · rw [hsame]
      exact fun id e hm => (hi.ahead id e hm).mono hs.failures
    · rw [hsame]
      exact fun p k hp hk => (hi.current p k hp hk).mono hs
    · rw [hsame]
      exact fun r k hr => (hi.answered r k hr).mono hs

theorem Inv.init {settings : ClientSettings} (hnew : NodeConnection.new settings = .ret start) :
    Inv crates start (init start) := by
  have hc := init_inv hnew
  refine ⟨fun p hp => ?_, fun p hp => ?_, nofun, fun p k hp hk => ?_, nofun⟩
  · cases hp; exact hc.synced
  · cases hp; exact ⟨rfl, rfl⟩
  · cases hp; cases hk

/-- A handle that is given up was one an operation had been redirected from. -/
theorem current_step {h : Handle} (hi : Inv crates start s) (hcur : s.current = some h)
    (hst : s.step crates m = some s') :
    s'.current = some h ∨ ∃ e, Redirected s'.failures h.id e := by
  obtain ⟨hs, ⟨ans, clients, hc, rfl⟩ | ⟨l, hc, hl, -⟩ | hsame⟩ := step_cases hst
  · obtain ⟨t, msg, ht, -, htask, -⟩ := clients_work hc
    have hopt : t.handleOpt = some h := by simpa [current, ht, Phase.task] using hcur
    have hsync : Synced t := hi.synced _ ht
    obtain ⟨hne, hid⟩ := hsync.current hopt
    by_cases hr : Reconnects t msg
    · right
      obtain ⟨r, hreq, hr⟩ := hr.resolve_left hne
      have hin : .createChannel r.correlation (some r.endpoint) ∈ Kurrent.ahead s.clients := by
        rw [← request_id hreq]
        simp [Kurrent.ahead, ht]
      exact ⟨r.endpoint, by rw [hid, hr]; exact hi.ahead _ _ hin⟩
    · left
      obtain ⟨-, -, hkeep, -⟩ := @onMsg_keeps crates ans t msg hsync hr
      rcases htask with ⟨hnone, -⟩ | ⟨t', ht', hy⟩
      · rw [hkeep] at hnone; cases hnone
      · rw [hkeep] at ht'
        cases ht'
        simp [current, hy, Phase.task, hopt]
  · left
    obtain ⟨htask, -⟩ := clients_kept hc hl
    obtain ⟨p, hp, hk⟩ := Option.bind_eq_some_iff.mp hcur
    rw [hp] at htask
    obtain ⟨q, hq, hqp⟩ := Option.map_eq_some_iff.mp htask
    exact Option.bind_eq_some_iff.mpr ⟨q, hq, by rw [hqp]; exact hk⟩
  · left
    unfold current
    rw [hsame]
    exact hcur

theorem exec_inv_of_new {settings : ClientSettings} {ms : List Move}
    (hnew : NodeConnection.new settings = .ret start)
    (hrun : exec (step crates) (init start) ms = some s) : Inv crates start s :=
  exec_inv (fun _ _ _ hi hst => hi.step hst) (Inv.init hnew) hrun

end

end Operations

/-- **The connection stays.** Whatever operations run on its handles, however they fail and in
whatever order the task hears of it, the task keeps the handle it has, and is there to answer
with it, until an operation that was given a handle with its id is told by a server where the
leader is. -/
theorem connection_stays_unless_redirected {crates : Crates} {settings : ClientSettings}
    {start : NodeConnection} {ms ms' : List Operations.Move} {s s' : Operations} {h : Handle}
    (hnew : NodeConnection.new settings = .ret start)
    (hrun : exec (Operations.step crates) (.init start) ms = some s) (hcur : s.current = some h)
    (hrun' : exec (Operations.step crates) s ms' = some s')
    (hfail : ∀ f ∈ s'.failures, f.handle.id = h.id → f.how = .handled →
      ∀ leader, Error.fromGrpc f.status ≠ .notLeaderException leader) :
    s'.current = some h := by
  have hi := Operations.exec_inv_of_new hnew hrun
  have hkept := exec_inv (P := fun t => Operations.Inv crates start t ∧
    (t.current = some h ∨ ∃ e, Operations.Redirected t.failures h.id e)) ?_ ⟨hi, .inl hcur⟩ hrun'
  · rcases hkept.2 with hcur' | ⟨e, f, hf, hhow, hid, he⟩
    · exact hcur'
    · exact absurd he (hfail f hf hid hhow e)
  · rintro t m t' ⟨ht, hcur | ⟨e, he⟩⟩ hst
    · exact ⟨ht.step hst, Operations.current_step ht hcur hst⟩
    · exact ⟨ht.step hst, .inr ⟨e, he.mono (Operations.step_cases hst).1.failures⟩⟩

/-- An operation is given the handle with this id. -/
def soloConnects (id : Uuid) : List Operations.Move := [.ask 0, .recv, .work (soloAnswers id)]

def unavailable : Status := ⟨.unavailable, "gone", [], ""⟩

/-- The server's failure is reported, and the task hears of it. -/
def soloReports : List Operations.Move :=
  [.fail 0 .handled unavailable, .fail 0 .reported unavailable, .recv, .work (soloAnswers 2)]

theorem connection_stays_solo :
    ∃ s s', exec (Operations.step soloCrates) (.init soloConnection) (soloConnects 1) = some s ∧
      exec (Operations.step soloCrates) s soloReports = some s' ∧
      s'.current = some (Handle.ofInfo (soloInfo 1 2113)) := by
  refine ⟨_, _, rfl, rfl, @connection_stays_unless_redirected soloCrates soloSettings soloConnection
    (soloConnects 1) soloReports _ _ _ rfl rfl rfl rfl fun f hf _ hhow leader => ?_⟩
  rcases List.mem_cons.mp hf with rfl | hf
  · exact nofun
  · rw [List.mem_singleton.mp hf] at hhow
    cases hhow

end Kurrent
