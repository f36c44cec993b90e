import Kurrent.Grpc.NodeSelection

/-!
# The node connection

`NodeConnection::next` returns the current handle, or connects: to the endpoint of the
request if there is one and then to whatever discovery finds. The source's two nested loops
are two `Loop`s. One pass of the outer loop takes the request; one pass of the inner loop
either contacts the selected node or makes a discovery round. `next_spec` says what a call
that returns has done.
-/

namespace Kurrent

open Lib

structure HandleInfo where
  id : Uuid
  uri : Uri
  endpoint : Endpoint
  secure : Bool
  serverInfo : ServerInfo
  deriving DecidableEq, Repr

structure NodeRequest where
  correlation : Uuid
  endpoint : Endpoint
  deriving DecidableEq, Repr

structure NodeConnection where
  id : Uuid
  handle : Option HandleInfo
  settings : ClientSettings
  clusterMode : Option ClusterMode
  previousCandidates : Option (List Member)
  deriving DecidableEq, Repr

namespace NodeConnection

def chooseClusterMode (settings : ClientSettings) : Call (Option ClusterMode) :=
  if settings.dnsDiscover || 1 < settings.hosts.length then
    if settings.dnsDiscover then do
      let endpoint ← Call.expect "index out of bounds" settings.hosts.head?
      pure (some (.dns endpoint))
    else pure (some (.seeds settings.hosts))
  else pure none

def new (settings : ClientSettings) : Call NodeConnection := do
  let clusterMode ← chooseClusterMode settings
  pure ⟨Uuid.nil, none, settings, clusterMode, none⟩

/-- What a call of `next` that returns leaves behind. -/
structure Next where
  conn : NodeConnection
  io : Io
  result : Except GrpcConnectionError HandleInfo

/-- The state at the head of the inner loop. -/
structure Discovery where
  conn : NodeConnection
  io : Io
  attempts : Nat
  selectedNode : Option Endpoint

/-- The server-features call under its timeout; `none` is an elapsed timeout. -/
def callServerFeatures (crates : Crates) (ans : Answers) (io : Io) : Option (Except Status ServerInfo) :=
  match ans.features io.contacted with
  | .timeout => none
  | .answer r => some (r.bind (supportedMethods crates))

/-- A node that answered becomes the current handle, under a new id. -/
def connected (ans : Answers) (conn : NodeConnection) (io : Io) (node : Endpoint) (uri : Uri)
    (info : ServerInfo) : Next :=
  let handle : HandleInfo := ⟨ans.newId, uri, node, conn.settings.secure, info⟩
  ⟨{ conn with id := ans.newId, handle := some handle }, io, .ok handle⟩

def contactNode (crates : Crates) (ans : Answers) (s : Discovery) (node : Endpoint) :
    Flow Discovery (Call Next) :=
  match s.conn.settings.toHyperUri crates node with
  | .panic m => .done (.panic m)
  | .ret uri =>
    let io := { s.io with contacted := s.io.contacted + 1 }
    match callServerFeatures crates ans s.io with
    | some (.ok info) => .done (.ret (connected ans s.conn io node uri info))
    | some (.error status) =>
      if status.code = .notFound ∨ status.code = .unimplemented then
        .done (.ret (connected ans s.conn io node uri {}))
      else .done (.ret ⟨s.conn, io, .error (.grpc status.display)⟩)
    | none => .again { s with io := io, selectedNode := none }

/-- One round of discovery: node selection in a cluster, else the first configured host. -/
def discover (crates : Crates) (ans : Answers) (failedEndpoint : Option Endpoint)
    (conn : NodeConnection) (io : Io) : Call (Option Endpoint × NodeConnection × Io) :=
  match conn.clusterMode with
  | some mode => do
    let sel ← nodeSelection crates conn.settings mode failedEndpoint ans conn.previousCandidates io
    pure (sel.node, { conn with previousCandidates := sel.previousCandidates }, sel.io)
  | none => pure (conn.settings.hosts.head?, conn, io)

def discoveryRound (crates : Crates) (ans : Answers) (failedEndpoint : Option Endpoint)
    (s : Discovery) : Flow Discovery (Call Next) :=
  match discover crates ans failedEndpoint s.conn s.io with
  | .panic m => .done (.panic m)
  | .ret (node, conn, io) =>
    -- the counter is a machine word
    if s.attempts + 1 = 2 ^ 64 then .done (.panic "attempt to add with overflow")
    else if s.attempts + 1 ≤ conn.settings.maxDiscoverAttempts then
      .again ⟨conn, io, s.attempts + 1, node⟩
    else
      .done (.ret ⟨conn, io,
        .error (.maxDiscoveryAttemptReached conn.settings.maxDiscoverAttempts)⟩)

def discoveryBody (crates : Crates) (ans : Answers) (failedEndpoint : Option Endpoint)
    (s : Discovery) : Flow Discovery (Call Next) :=
  match s.selectedNode with
  | some node => contactNode crates ans s node
  | none => discoveryRound crates ans failedEndpoint s

/-- Two passes for every round left, and one for a node already selected. -/
def Discovery.measure (s : Discovery) : Nat :=
  2 * (s.conn.settings.maxDiscoverAttempts + 1 - s.attempts) +
    (if s.selectedNode.isSome then 1 else 0)

/-- Discovery never touches the settings, and forgets the earlier candidates. -/
theorem discover_conn {crates : Crates} {ans : Answers} {failed : Option Endpoint}
    {conn conn' : NodeConnection} {io io' : Io} {node : Option Endpoint}
    (h : discover crates ans failed conn io = .ret (node, conn', io')) :
    ∃ previous, conn' = { conn with previousCandidates := previous } ∧
      (conn.previousCandidates = none → previous = none) := by
  unfold discover at h
  split at h
  · next mode _ =>
    obtain ⟨sel, hsel, h⟩ := Call.bind_eq_ret h
    cases h
    exact ⟨_, rfl, fun _ => (nodeSelection_spec hsel).1⟩
  · cases h
    exact ⟨conn.previousCandidates, rfl, fun h => h⟩

theorem contactNode_again {crates : Crates} {ans : Answers} {s s' : Discovery} {node : Endpoint}
    (h : contactNode crates ans s node = .again s') :
    s'.conn = s.conn ∧ s'.attempts = s.attempts ∧ s'.selectedNode = none ∧
      s'.io.reads = s.io.reads := by
  unfold contactNode at h
  split at h
  · cases h
  · simp only at h
    split at h
    · cases h
    · split at h <;> cases h
    · cases h; exact ⟨rfl, rfl, rfl, rfl⟩

theorem discoveryRound_again {crates : Crates} {ans : Answers} {failed : Option Endpoint}
    {s s' : Discovery} (h : discoveryRound crates ans failed s = .again s') :
    discover crates ans failed s.conn s.io = .ret (s'.selectedNode, s'.conn, s'.io) ∧
      s'.attempts = s.attempts + 1 ∧ s'.attempts ≤ s'.conn.settings.maxDiscoverAttempts := by
  unfold discoveryRound at h
  split at h
  · cases h
  · next node conn io hd =>
    split at h
    · cases h
    · split at h
      · next hle => cases h; exact ⟨hd, rfl, hle⟩
      · cases h

theorem discoveryBody_decreases (crates : Crates) (ans : Answers) (failed : Option Endpoint)
    (s s' : Discovery) (h : discoveryBody crates ans failed s = .again s') :
    s'.measure < s.measure := by
  unfold discoveryBody at h
  split at h
  · next node hsel =>
    obtain ⟨hc, ha, hn, -⟩ := contactNode_again h
    simp [Discovery.measure, hc, ha, hn, hsel]
  · next hsel =>
    obtain ⟨hd, ha, hle⟩ := discoveryRound_again h
    obtain ⟨previous, hconn, -⟩ := discover_conn hd
    have hmax : s'.conn.settings = s.conn.settings := by rw [hconn]
    rw [hmax] at hle
    simp only [Discovery.measure, hmax, hsel, Option.isSome_none, Bool.false_eq_true, if_false]
    split <;> omega

/-- The inner loop. -/
def discovery (crates : Crates) (ans : Answers) (failedEndpoint : Option Endpoint) :
    Loop Discovery (Call Next) where
  body := discoveryBody crates ans failedEndpoint
  measure := Discovery.measure
  decreases := discoveryBody_decreases crates ans failedEndpoint

/-- The state at the head of the outer loop. -/
structure Outer where
  conn : NodeConnection
  request : Option NodeRequest
  selectedNode : Option Endpoint
  failedEndpoint : Option Endpoint

def nextBody (crates : Crates) (ans : Answers) (s : Outer) : Flow Outer (Call Next) :=
  match s.request, s.conn.handle with
  | some request, some handle =>
    -- a report about an earlier connection
    if s.conn.id ≠ request.correlation then .done (.ret ⟨s.conn, {}, .ok handle⟩)
    else .again ⟨{ s.conn with handle := none }, none, some request.endpoint, some handle.endpoint⟩
  | some request, none => .again ⟨s.conn, none, some request.endpoint, none⟩
  | none, some handle => .done (.ret ⟨s.conn, {}, .ok handle⟩)
  | none, none =>
    .done ((discovery crates ans s.failedEndpoint).run ⟨s.conn, {}, 1, s.selectedNode⟩)

theorem nextBody_decreases (crates : Crates) (ans : Answers) (s s' : Outer)
    (h : nextBody crates ans s = .again s') :
    (if s'.request.isSome then 1 else 0) < (if s.request.isSome then 1 else 0) := by
  unfold nextBody at h
  split at h
  · next hr _ =>
    split at h
    · cases h
    · cases h; simp [hr]
  · next hr _ => cases h; simp [hr]
  · cases h
  · cases h

/-- The outer loop. -/
def nextLoop (crates : Crates) (ans : Answers) : Loop Outer (Call Next) where
  body := nextBody crates ans
  measure s := if s.request.isSome then 1 else 0
  decreases := nextBody_decreases crates ans

def next (crates : Crates) (ans : Answers) (conn : NodeConnection) (request : Option NodeRequest) :
    Call Next :=
  (nextLoop crates ans).run ⟨conn, request, none, none⟩

/-! ## What a call of `next` does -/

/-- Where the endpoint of a new connection comes from: the first configured host, a member
offered by the gossip of a configured endpoint, or the request. -/
def Origin (crates : Crates) (ans : Answers) (conn : NodeConnection)
    (request : Option NodeRequest) (reads : List GossipRead) (e : Endpoint) : Prop :=
  (conn.clusterMode = none ∧ conn.settings.hosts.head? = some e) ∨
  (∃ mode, conn.clusterMode = some mode ∧
    ∃ r ∈ reads, r.candidate ∈ mode.configured ∧ r.Genuine crates conn.settings ans ∧
      r.Offers e) ∨
  (∃ r, request = some r ∧ r.endpoint = e)

/-- The handle a call of `next` made for a new connection. -/
structure Made (crates : Crates) (ans : Answers) (conn : NodeConnection)
    (request : Option NodeRequest) (reads : List GossipRead) (h : HandleInfo) : Prop where
  id : h.id = ans.newId
  secure : h.secure = conn.settings.secure
  uri : conn.settings.toHyperUri crates h.endpoint = .ret h.uri
  origin : Origin crates ans conn request reads h.endpoint

/-- What is left after a call that went out to connect. -/
inductive Connects (crates : Crates) (ans : Answers) (conn : NodeConnection)
    (request : Option NodeRequest) : Next → Prop where
  | made {h : HandleInfo} {io : Io} : Made crates ans conn request io.reads h →
      Connects crates ans conn request
        ⟨{ conn with id := ans.newId, handle := some h }, io, .ok h⟩
  | failed {e : GrpcConnectionError} {io : Io} :
      Connects crates ans conn request ⟨{ conn with handle := none }, io, .error e⟩

section

variable {crates : Crates} {ans : Answers} {conn : NodeConnection} {request : Option NodeRequest}

/-- The endpoint of the discovery round, given that no earlier gossip is remembered. -/
theorem discover_origin {failed node : Option Endpoint} {conn' : NodeConnection} {io io' : Io}
    (hp : conn.previousCandidates = none)
    (h : discover crates ans failed conn io = .ret (node, conn', io')) {e : Endpoint}
    (he : node = some e) : Origin crates ans conn request io'.reads e := by
  unfold discover at h
  split at h
  · next mode hmode =>
    obtain ⟨sel, hsel, h⟩ := Call.bind_eq_ret h
    cases h
    obtain ⟨-, new, hreads, hasked⟩ := nodeSelection_spec hsel
    obtain ⟨r, hr, hoff⟩ := hasked.offered e he
    have hmem : r.candidate ∈ (selectCandidates conn.settings mode failed ans
        conn.previousCandidates io).1 := by
      exact hasked.inOrder.subset (List.mem_map_of_mem hr)
    rw [hp] at hmem
    refine .inr (.inl ⟨mode, hmode, r, ?_, ?_, hasked.genuine r hr, hoff⟩)
    · rw [hreads]; exact List.mem_append_right _ hr
    · exact (selectCandidates_perm _ _ _ _ _).mem_iff.mp hmem
  · next hmode =>
    cases h
    exact .inl ⟨hmode, he⟩

/-- The states at the head of the inner loop: the handle is taken, the earlier candidates
are forgotten, and a selected node has an origin. -/
structure AtHead (crates : Crates) (ans : Answers) (conn : NodeConnection)
    (request : Option NodeRequest) (s : Discovery) : Prop where
  conn_eq : s.conn = { conn with handle := none }
  origin : ∀ e, s.selectedNode = some e → Origin crates ans conn request s.io.reads e

theorem contactNode_done {s : Discovery} {node : Endpoint} {out : Next}
    (hs : AtHead crates ans conn request s) (hn : s.selectedNode = some node)
    (h : contactNode crates ans s node = .done (.ret out)) :
    Connects crates ans conn request out := by
  have ho := hs.origin node hn
  obtain ⟨c, io, attempts, selected⟩ := s
  obtain rfl : c = { conn with handle := none } := hs.conn_eq
  unfold contactNode at h
  split at h
  · cases h
  · next uri huri =>
    simp only at h
    split at h
    · cases h; exact .made ⟨rfl, rfl, huri, ho⟩
    · split at h
      · cases h; exact .made ⟨rfl, rfl, huri, ho⟩
      · cases h; exact .failed
    · cases h

/-- A discovery round leaves the connection as it was, and what it selects has an origin. -/
theorem discover_atHead {s : Discovery} {failed node : Option Endpoint} {conn' : NodeConnection}
    {io' : Io} (hp : conn.previousCandidates = none) (hs : AtHead crates ans conn request s)
    (h : discover crates ans failed s.conn s.io = .ret (node, conn', io')) :
    conn' = { conn with handle := none } ∧
      ∀ e, node = some e → Origin crates ans conn request io'.reads e := by
  obtain ⟨previous, hconn, hprev⟩ := discover_conn h
  have hp' : s.conn.previousCandidates = none := by rw [hs.conn_eq]; exact hp
  constructor
  · rw [hconn, hprev hp', hs.conn_eq, ← hp]
  · intro e he
    have ho : Origin crates ans s.conn request io'.reads e := discover_origin hp' h he
    rw [hs.conn_eq] at ho
    exact ho

theorem discoveryRound_done {s : Discovery} {failed : Option Endpoint} {out : Next}
    (hp : conn.previousCandidates = none) (hs : AtHead crates ans conn request s)
    (h : discoveryRound crates ans failed s = .done (.ret out)) :
    Connects crates ans conn request out := by
  unfold discoveryRound at h
  split at h
  · cases h
  · next node conn' io' hd =>
    obtain ⟨rfl, -⟩ := discover_atHead hp hs hd
    split at h
    · cases h
    · split at h
      · cases h
      · cases h; exact .failed

theorem discovery_spec {failed : Option Endpoint} {s : Discovery} {out : Next}
    (hp : conn.previousCandidates = none) (hs : AtHead crates ans conn request s)
    (h : (discovery crates ans failed).run s = .ret out) : Connects crates ans conn request out := by
  refine (discovery crates ans failed).run_inv (I := AtHead crates ans conn request)
    (Q := fun r => ∀ out, r = .ret out → Connects crates ans conn request out) ?_ ?_ hs out h
  · rintro s _ hs hb out rfl
    change discoveryBody crates ans failed s = _ at hb
    unfold discoveryBody at hb
    split at hb
    · next node hn => exact contactNode_done hs hn hb
    · exact discoveryRound_done hp hs hb
  · intro s s' hs hb
    change discoveryBody crates ans failed s = _ at hb
    unfold discoveryBody at hb
    split at hb
    · obtain ⟨hc, -, hn, hr⟩ := contactNode_again hb
      exact ⟨hc.trans hs.conn_eq, fun e he => by rw [hn] at he; cases he⟩
    · obtain ⟨hd, -, -⟩ := discoveryRound_again hb
      obtain ⟨hconn, ho⟩ := discover_atHead hp hs hd
      exact ⟨hconn, ho⟩

/-- The request is about the current connection, or there is none: a call with it connects. -/
def Redirects (conn : NodeConnection) (r : NodeRequest) : Prop :=
  conn.handle = none ∨ conn.id = r.correlation

/-- With a handle and no request about it, `next` returns the handle. -/
theorem next_current {h : HandleInfo} (hh : conn.handle = some h)
    (hr : ∀ r, request = some r → conn.id ≠ r.correlation) :
    next crates ans conn request = .ret ⟨conn, {}, .ok h⟩ := by
  unfold next
  apply Loop.run_of_done
  change nextBody crates ans _ = _
  unfold nextBody
  cases request with
  | none => simp [hh]
  | some r => simp [hh, hr r rfl]

/-- Without a handle, or with a request about it, `next` goes out to connect. -/
theorem next_connects {out : Next} (hp : conn.previousCandidates = none)
    (hr : ∀ r, request = some r → Redirects conn r) (hn : request = none → conn.handle = none)
    (h : next crates ans conn request = .ret out) : Connects crates ans conn request out := by
  have inner : ∀ {selected failed : Option Endpoint},
      (∀ e, selected = some e → Origin crates ans conn request [] e) →
      (nextLoop crates ans).run ⟨{ conn with handle := none }, none, selected, failed⟩ = .ret out →
      Connects crates ans conn request out := by
    intro selected failed hsel hrun
    rw [Loop.run_of_done (r := (discovery crates ans failed).run
      ⟨{ conn with handle := none }, {}, 1, selected⟩) rfl] at hrun
    exact discovery_spec hp ⟨rfl, hsel⟩ hrun
  have taken : ∀ r, request = some r → ∀ e, some r.endpoint = some e → Origin crates ans conn request [] e := by
    rintro r hreq e he
    cases he
    exact .inr (.inr ⟨r, hreq, rfl⟩)
  unfold next at h
  cases request with
  | none =>
    have hc : conn = { conn with handle := none } := by rw [← hn rfl]
    rw [hc] at h
    exact inner (by simp) h
  | some r =>
    cases hh : conn.handle with
    | none =>
      have hc : conn = { conn with handle := none } := by rw [← hh]
      have hb : nextBody crates ans ⟨conn, some r, none, none⟩ =
          .again ⟨{ conn with handle := none }, none, some r.endpoint, none⟩ := by
        rw [← hc]; simp [nextBody, hh]
      rw [Loop.run_of_again hb] at h
      exact inner (taken r rfl) h
    | some handle =>
      have hid : conn.id = r.correlation := (hr r rfl).resolve_left (by simp [hh])
      have hb : nextBody crates ans ⟨conn, some r, none, none⟩ =
          .again ⟨{ conn with handle := none }, none, some r.endpoint, some handle.endpoint⟩ := by
        simp [nextBody, hh, hid]
      rw [Loop.run_of_again hb] at h
      exact inner (taken r rfl) h

end

end NodeConnection

end Kurrent
