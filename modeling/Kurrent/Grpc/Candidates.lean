import Kurrent.Grpc.Provenance

/-!
# Whom a failover asks

`node_selection` is written to turn to the members of an earlier gossip after a failover,
without the node that failed and with the managers last, and to fall back on the configured
hosts when there are none. `selectCandidates_remembered` says that it does so when it is
given the members. It never is: it takes them out of the connection and nothing puts any
there (`Selects.forgetful`), so that a failover asks the configured endpoints whatever the
cluster has reported, the node that failed with them. `failover_asks_others_iff` says when
these happen to be the right ones.
-/

namespace Kurrent

open Lib
open NodeConnection (Discovery Outer discovery nextLoop chooseClusterMode)

/-! ## The members of an earlier gossip, arranged -/

/-- The members a failover can turn to. -/
def othersThan (failed : Endpoint) (members : List Member) : List Member :=
  members.filter fun member => member.endpoint ≠ failed

def nodesOf (members : List Member) : List Endpoint :=
  (members.filter fun member => member.state ≠ .manager).map Member.endpoint

def managersOf (members : List Member) : List Endpoint :=
  (members.filter fun member => member.state = .manager).map Member.endpoint

/-- The endpoints of the members in some order, with the managers after all others. -/
def ManagersLast (members : List Member) (candidates : List Endpoint) : Prop :=
  ∃ nodes managers, candidates = nodes ++ managers ∧ nodes.Perm (nodesOf members) ∧
    managers.Perm (managersOf members)

/-- What a failover is meant to ask: the other members of the cluster, or the configured
hosts when there are none. -/
def AsksOthers (hosts : List Endpoint) (failed : Endpoint) (members : List Member)
    (candidates : List Endpoint) : Prop :=
  if othersThan failed members = [] then candidates.Perm hosts
  else ManagersLast (othersThan failed members) candidates

theorem nodesOf_append_managersOf (members : List Member) :
    (nodesOf members ++ managersOf members).Perm (members.map Member.endpoint) := by
  unfold nodesOf managersOf
  rw [← List.map_append]
  refine List.Perm.map _ (List.Perm.trans ?_ (List.filter_append_perm (·.state ≠ .manager) members))
  simp

theorem ManagersLast.perm {members : List Member} {candidates : List Endpoint}
    (h : ManagersLast members candidates) : candidates.Perm (members.map Member.endpoint) := by
  obtain ⟨nodes, managers, rfl, hn, hm⟩ := h
  exact (hn.append hm).trans (nodesOf_append_managersOf members)

theorem foldl_push (members : List Member) :
    ∀ c : Candidates, members.foldl Candidates.push c =
      ⟨c.nodes ++ members.filter fun member => member.state ≠ .manager,
        c.managers ++ members.filter fun member => member.state = .manager⟩ := by
  induction members with
  | nil => intro c; simp
  | cons member rest ih =>
    intro c
    rw [List.foldl_cons, ih]
    by_cases hm : member.state = .manager
    · simp [Candidates.push, hm]
    · simp [Candidates.push, hm]

theorem arrangeGossipCandidates_managersLast (ans : Answers) (n : Nat) (members : List Member) :
    ManagersLast members (arrangeGossipCandidates ans n members) := by
  unfold arrangeGossipCandidates
  rw [foldl_push]
  simp only [Candidates.shuffle, Candidates.endpoints, List.map_append, List.nil_append]
  exact ⟨_, _, rfl, (shuffle_perm _ _).map _, (shuffle_perm _ _).map _⟩

theorem selectCandidates_some (setts : ClientSettings) (mode : ClusterMode) (failed : Endpoint)
    (ans : Answers) (members : List Member) (io : Io) :
    (selectCandidates setts mode (some failed) ans (some members) io).1 =
      if arrangeGossipCandidates ans io.shuffled (othersThan failed members) = [] then setts.hosts
      else arrangeGossipCandidates ans io.shuffled (othersThan failed members) := rfl

/-- **The arrangement is right**: given the members of an earlier gossip, a failover asks
the others of them. -/
theorem selectCandidates_remembered (setts : ClientSettings) (mode : ClusterMode)
    (failed : Endpoint) (ans : Answers) (members : List Member) (io : Io) :
    AsksOthers setts.hosts failed members
      (selectCandidates setts mode (some failed) ans (some members) io).1 := by
  have harr := arrangeGossipCandidates_managersLast ans io.shuffled (othersThan failed members)
  have hnil : arrangeGossipCandidates ans io.shuffled (othersThan failed members) = [] ↔
      othersThan failed members = [] := by
    rw [← List.length_eq_zero_iff, harr.perm.length_eq, List.length_map, List.length_eq_zero_iff]
  rw [selectCandidates_some]
  unfold AsksOthers
  split
  · next h => rw [if_pos (hnil.mpr h)]
  · next h => rw [if_neg (fun e => h (hnil.mp e))]; exact harr

/-! ## The configured endpoints, shuffled -/

/-- The configured endpoints are those of the other members, and managers and nodes among
these cannot be told apart; or there are no other members, and gossip goes to all hosts. -/
def ConfiguredAreOthers (settings : ClientSettings) (mode : ClusterMode) (failed : Endpoint)
    (members : List Member) : Prop :=
  if othersThan failed members = [] then settings.dnsDiscover = true → settings.hosts.length = 1
  else
    mode.configured.Perm ((othersThan failed members).map Member.endpoint) ∧
      ∀ node ∈ othersThan failed members, ∀ manager ∈ othersThan failed members,
        node.state ≠ .manager → manager.state = .manager → node.endpoint = manager.endpoint

/-- DNS discovery asks the first host only. -/
theorem configured_perm_hosts {settings : ClientSettings} {mode : ClusterMode}
    (h : chooseClusterMode settings = .ret (some mode)) :
    mode.configured.Perm settings.hosts ↔
      (settings.dnsDiscover = true → settings.hosts.length = 1) := by
  unfold chooseClusterMode at h
  split at h
  · split at h
    · next hdns =>
      obtain ⟨endpoint, hhead, h⟩ := Call.bind_eq_ret h
      cases h
      obtain ⟨rest, hrest⟩ := List.head?_eq_some_iff.mp (Call.expect_eq_ret hhead)
      simp only [ClusterMode.configured, hdns, true_implies, hrest]
      constructor
      · intro hp; rw [← hp.length_eq]; rfl
      · intro hl
        obtain rfl : rest = [] := by simpa using hl
        exact .rfl
    · next hdns =>
      cases h
      exact ⟨fun _ hd => absurd hd hdns, fun _ => .rfl⟩
  · cases h

/-- Every order of the configured endpoints puts the managers last exactly when these are the
members' and no manager can be told from a node. -/
theorem managersLast_all_orders {configured : List Endpoint} {members : List Member} :
    (∀ draw, ManagersLast members (Lib.shuffle draw configured)) ↔
      configured.Perm (members.map Member.endpoint) ∧
        ∀ node ∈ members, ∀ manager ∈ members, node.state ≠ .manager → manager.state = .manager →
          node.endpoint = manager.endpoint := by
  have horders : (∀ draw, ManagersLast members (Lib.shuffle draw configured)) ↔
      ∀ l, l.Perm configured → ManagersLast members l := by
    constructor
    · intro h l hl
      obtain ⟨draw, rfl⟩ := shuffle_onto hl
      exact h draw
    · intro h draw
      exact h _ (shuffle_perm _ _)
  have hsame : (∀ x ∈ nodesOf members, ∀ y ∈ managersOf members, x = y) ↔
      ∀ node ∈ members, ∀ manager ∈ members, node.state ≠ .manager → manager.state = .manager →
        node.endpoint = manager.endpoint := by
    simp only [nodesOf, managersOf, List.forall_mem_map, List.mem_filter, decide_eq_true_eq]
    constructor
    · intro h node hn manager hm hns hms; exact h node ⟨hn, hns⟩ manager ⟨hm, hms⟩
    · intro h node hn manager hm; exact h node hn.1 manager hm.1 hn.2 hm.2
  rw [horders, ← hsame]
  unfold ManagersLast
  rw [arrangements_split_iff]
  refine and_congr_left fun _ => ?_
  exact ⟨fun h => h.trans (nodesOf_append_managersOf members),
    fun h => h.trans (nodesOf_append_managersOf members).symm⟩

/-! ## Failover in a run -/

/-- The gossip reads made while the task handles a message. -/
def Task.gossipReads (crates : Crates) (ans : Answers) (t : Task) (m : Msg) : List GossipRead :=
  match m, t.handleOpt with
  | .getChannel _, some _ => []
  | _, _ =>
    match t.connection.next crates ans m.request with
    | .ret out => out.io.reads
    | .panic _ => []

/-- The gossip reads of a run, in order. -/
def gossipReads (crates : Crates) : Conf → List (Msg × Answers) → List GossipRead
  | _, [] => []
  | c, input :: rest =>
    c.task.gossipReads crates input.2 input.1 ++
      match c.step crates input with
      | none => []
      | some c' => gossipReads crates c' rest

/-- A call of `next` enters `node_selection` with this failed endpoint, from the state `s` at
the head of the inner loop. -/
structure Selects (crates : Crates) (ans : Answers) (conn : NodeConnection)
    (request : Option NodeRequest) (failed : Option Endpoint) (mode : ClusterMode)
    (s : Discovery) : Prop where
  calls : ∃ o, (nextLoop crates ans).Visits ⟨conn, request, none, none⟩ o ∧
    o.request = none ∧ o.conn.handle = none ∧ o.failedEndpoint = failed ∧
    (discovery crates ans failed).Visits ⟨o.conn, {}, 1, o.selectedNode⟩ s
  unselected : s.selectedNode = none
  cluster : s.conn.clusterMode = some mode

/-- The candidates of the `node_selection` entered from this state. -/
def candidatesAt (s : Discovery) (mode : ClusterMode) (failed : Option Endpoint) (ans : Answers) :
    List Endpoint :=
  (selectCandidates s.conn.settings mode failed ans s.conn.previousCandidates s.io).1

/-- After the run of `inputs`, while the task handles `m`, `node_selection` is entered with
`failed` as the endpoint that failed, and an earlier gossip read of the connection gave
these members. -/
structure FailsOver (crates : Crates) (start : NodeConnection) (inputs : List (Msg × Answers))
    (m : Msg) (ans : Answers) (mode : ClusterMode) (failed : Endpoint) (members : List MemberInfo)
    (s : Discovery) : Prop where
  reached : ∃ c, exec (Conf.step crates) (Conf.init start) inputs = some c ∧
    Selects crates ans c.task.connection m.request (some failed) mode s
  known : ∃ r ∈ gossipReads crates (Conf.init start) inputs ++ s.io.reads,
    r.outcome = some (.ok members)

def MemberInfo.member (info : MemberInfo) : Member := ⟨info.httpEndPoint, info.state⟩

/-- The same settings and mode, and no members kept. -/
structure Forgetful (conn conn' : NodeConnection) : Prop where
  settings : conn'.settings = conn.settings
  clusterMode : conn'.clusterMode = conn.clusterMode
  previous : conn'.previousCandidates = none

section

variable {crates : Crates} {ans : Answers} {conn : NodeConnection} {request : Option NodeRequest}
  {failed : Option Endpoint} {mode : ClusterMode} {s : Discovery}

theorem nextBody_forgetful {o o' : Outer} (ho : Forgetful conn o.conn)
    (h : NodeConnection.nextBody crates ans o = .again o') : Forgetful conn o'.conn := by
  unfold NodeConnection.nextBody at h
  split at h
  · split at h
    · cases h
    · cases h; exact ⟨ho.settings, ho.clusterMode, ho.previous⟩
  · cases h; exact ho
  · cases h
  · cases h

theorem discoveryBody_forgetful {s s' : Discovery} (hs : Forgetful conn s.conn)
    (h : NodeConnection.discoveryBody crates ans failed s = .again s') :
    Forgetful conn s'.conn := by
  unfold NodeConnection.discoveryBody at h
  split at h
  · obtain ⟨hconn, -⟩ := NodeConnection.contactNode_again h
    rw [hconn]; exact hs
  · obtain ⟨hd, -⟩ := NodeConnection.discoveryRound_again h
    obtain ⟨previous, hconn, hprev⟩ := NodeConnection.discover_conn hd
    rw [hconn]
    exact ⟨hs.settings, hs.clusterMode, hprev hs.previous⟩

/-- Nothing is remembered when `node_selection` is entered. -/
theorem Selects.forgetful (h : Selects crates ans conn request failed mode s)
    (hp : conn.previousCandidates = none) : Forgetful conn s.conn := by
  obtain ⟨o, hvisits, -, -, -, hinner⟩ := h.calls
  have ho : Forgetful conn o.conn :=
    hvisits.inv (I := fun o => Forgetful conn o.conn) (fun _ _ => nextBody_forgetful)
      ⟨rfl, rfl, hp⟩
  exact hinner.inv (I := fun s => Forgetful conn s.conn) (fun _ _ => discoveryBody_forgetful) ho

/-! The draws of a shuffle have no effect before it. -/

/-- The same answers with other draws for the `n`-th shuffle. -/
def Answers.redraw (ans : Answers) (n : Nat) (draw : Nat → Nat) : Answers :=
  { ans with draws := fun k => if k = n then draw else ans.draws k }

theorem redraw_self (n : Nat) (draw : Nat → Nat) : (ans.redraw n draw).draws n = draw :=
  if_pos rfl

theorem redraw_of_ne {n k : Nat} {draw : Nat → Nat} (h : k ≠ n) :
    (ans.redraw n draw).draws k = ans.draws k := if_neg h

theorem askCandidates_redraw {setts : ClientSettings} {n : Nat} {draw : Nat → Nat}
    (cs : List Endpoint) : ∀ io, askCandidates crates setts (ans.redraw n draw) cs io =
      askCandidates crates setts ans cs io := by
  induction cs with
  | nil => intro io; rfl
  | cons c cs ih =>
    intro io
    unfold askCandidates
    simp only [ih]
    rfl

/-- Asking shuffles nothing. -/
theorem askCandidates_shuffled {setts : ClientSettings} :
    ∀ {cs : List Endpoint} {io io' : Io} {node : Option Endpoint},
      askCandidates crates setts ans cs io = .ret (node, io') → io'.shuffled = io.shuffled := by
  intro cs
  induction cs with
  | nil => intro io io' node h; cases h; rfl
  | cons c cs ih =>
    intro io io' node h
    unfold askCandidates at h
    obtain ⟨uri, -, h⟩ := Call.bind_eq_ret h
    obtain ⟨outcome, -, h⟩ := Call.bind_eq_ret h
    simp only at h
    split at h
    · split at h
      · cases h; rfl
      · rw [ih h]
    · rw [ih h]

theorem discover_redraw {io : Io} {n : Nat} {draw : Nat → Nat}
    (hp : conn.previousCandidates = none) (hn : io.shuffled ≠ n) :
    NodeConnection.discover crates (ans.redraw n draw) failed conn io =
      NodeConnection.discover crates ans failed conn io := by
  unfold NodeConnection.discover
  split
  · simp only [nodeSelection, selectCandidates, hp, askCandidates_redraw, redraw_of_ne hn]
  · rfl

/-- A selection without earlier candidates shuffles once. -/
theorem discover_shuffled {node : Option Endpoint} {conn' : NodeConnection} {io io' : Io}
    (hm : conn.clusterMode = some mode) (hp : conn.previousCandidates = none)
    (h : NodeConnection.discover crates ans failed conn io = .ret (node, conn', io')) :
    io'.shuffled = io.shuffled + 1 := by
  unfold NodeConnection.discover at h
  simp only [hm, nodeSelection, selectCandidates, hp] at h
  obtain ⟨sel, hsel, h⟩ := Call.bind_eq_ret h
  cases h
  obtain ⟨⟨node, io'⟩, hask, h⟩ := Call.bind_eq_ret hsel
  cases h
  exact askCandidates_shuffled hask

theorem contactNode_shuffled {s s' : Discovery} {node : Endpoint}
    (h : NodeConnection.contactNode crates ans s node = .again s') :
    s'.io.shuffled = s.io.shuffled := by
  unfold NodeConnection.contactNode at h
  split at h
  · cases h
  · simp only at h
    split at h
    · cases h
    · split at h <;> cases h
    · cases h; rfl

/-- A pass of the inner loop that has the `n`-th shuffle still before it. -/
theorem discoveryBody_redraw {s s' : Discovery} {n : Nat} {draw : Nat → Nat}
    (hm : conn.clusterMode = some mode) (hs : Forgetful conn s.conn)
    (h : NodeConnection.discoveryBody crates ans failed s = .again s') :
    s.io.shuffled ≤ s'.io.shuffled ∧ (s'.io.shuffled ≤ n →
      NodeConnection.discoveryBody crates (ans.redraw n draw) failed s = .again s') := by
  unfold NodeConnection.discoveryBody at h ⊢
  split at h
  · have hsame := contactNode_shuffled h
    exact ⟨by omega, fun _ => h⟩
  · obtain ⟨hd, -⟩ := NodeConnection.discoveryRound_again h
    have hnext := discover_shuffled (hs.clusterMode.trans hm) hs.previous hd
    refine ⟨by omega, fun hle => ?_⟩
    unfold NodeConnection.discoveryRound at h ⊢
    rw [discover_redraw hs.previous (by omega)]
    exact h

theorem nextBody_redraw {o o' : Outer} {n : Nat} {draw : Nat → Nat}
    (h : NodeConnection.nextBody crates ans o = .again o') :
    NodeConnection.nextBody crates (ans.redraw n draw) o = .again o' := by
  unfold NodeConnection.nextBody at h ⊢
  split at h
  · exact h
  · exact h
  · exact h
  · cases h

/-- Whatever is drawn for the shuffle to come, the call comes to the same selection. -/
theorem Selects.redraw (h : Selects crates ans conn request failed mode s)
    (hp : conn.previousCandidates = none) (draw : Nat → Nat) :
    Selects crates (ans.redraw s.io.shuffled draw) conn request failed mode s := by
  obtain ⟨o, hvisits, hreq, hhandle, hfailed, hinner⟩ := h.calls
  have hmode : conn.clusterMode = some mode := by
    rw [← (h.forgetful hp).clusterMode]; exact h.cluster
  have ho : Forgetful conn o.conn :=
    hvisits.inv (I := fun o => Forgetful conn o.conn) (fun _ _ => nextBody_forgetful)
      ⟨rfl, rfl, hp⟩
  have outer : (nextLoop crates (ans.redraw s.io.shuffled draw)).Visits
      ⟨conn, request, none, none⟩ o := by
    clear hinner hreq hhandle hfailed ho
    induction hvisits with
    | entry => exact .entry
    | pass _ hb ih => exact ih.pass (nextBody_redraw hb)
  have inner : ∀ {t n}, (discovery crates ans failed).Visits ⟨o.conn, {}, 1, o.selectedNode⟩ t →
      t.io.shuffled ≤ n →
      (discovery crates (ans.redraw n draw) failed).Visits ⟨o.conn, {}, 1, o.selectedNode⟩ t := by
    intro t n hv hle
    induction hv with
    | entry => exact .entry
    | pass hv hb ih =>
      have ht := hv.inv (I := fun s => Forgetful conn s.conn) (fun _ _ => discoveryBody_forgetful) ho
      obtain ⟨hmono, hsame⟩ := discoveryBody_redraw hmode ht hb
      exact (ih (by omega)).pass (hsame hle)
  exact ⟨⟨o, outer, hreq, hhandle, hfailed, inner hinner (Nat.le_refl _)⟩, h.unselected, h.cluster⟩

end

section

variable {crates : Crates} {settings : ClientSettings} {start : NodeConnection}
  {inputs : List (Msg × Answers)} {m : Msg} {ans : Answers} {mode : ClusterMode}
  {failed : Endpoint} {members : List MemberInfo} {s : Discovery}

theorem FailsOver.forgetful (hnew : NodeConnection.new settings = .ret start)
    (h : FailsOver crates start inputs m ans mode failed members s) : Forgetful start s.conn := by
  obtain ⟨c, hrun, hsel⟩ := h.reached
  obtain ⟨hsame, -⟩ := exec_source (init_inv hnew) hrun
  have hf := hsel.forgetful (exec_confInv (init_inv hnew) hrun).synced.previous
  exact ⟨hf.settings.trans hsame.settings, hf.clusterMode.trans hsame.clusterMode, hf.previous⟩

/-- In every run a failover asks the configured endpoints in the order drawn. -/
theorem FailsOver.candidates_eq (hnew : NodeConnection.new settings = .ret start)
    (h : FailsOver crates start inputs m ans mode failed members s) :
    candidatesAt s mode (some failed) ans =
      Lib.shuffle (ans.draws s.io.shuffled) mode.configured := by
  unfold candidatesAt
  rw [(h.forgetful hnew).previous]
  rfl

theorem FailsOver.mode_eq (hnew : NodeConnection.new settings = .ret start)
    (h : FailsOver crates start inputs m ans mode failed members s) :
    chooseClusterMode settings = .ret (some mode) := by
  obtain ⟨-, -, -, -, hmode⟩ := new_conn hnew
  obtain ⟨c, -, hsel⟩ := h.reached
  rw [hmode, ← (h.forgetful hnew).clusterMode, hsel.cluster]

theorem FailsOver.redraw (hnew : NodeConnection.new settings = .ret start)
    (h : FailsOver crates start inputs m ans mode failed members s) (draw : Nat → Nat) :
    FailsOver crates start inputs m (ans.redraw s.io.shuffled draw) mode failed members s := by
  obtain ⟨c, hrun, hsel⟩ := h.reached
  have hc := exec_confInv (init_inv hnew) hrun
  exact ⟨⟨c, hrun, hsel.redraw hc.synced.previous draw⟩, h.known⟩

/-- **Whom a failover asks.** In every run, whatever an earlier gossip said of the cluster,
the failover that comes next is sure to ask the other members exactly where the configured
endpoints are these. -/
theorem failover_asks_others_iff (hnew : NodeConnection.new settings = .ret start)
    (h : FailsOver crates start inputs m ans mode failed members s) :
    (∀ ans', FailsOver crates start inputs m ans' mode failed members s →
      AsksOthers settings.hosts failed (members.map MemberInfo.member)
        (candidatesAt s mode (some failed) ans')) ↔
      ConfiguredAreOthers settings mode failed (members.map MemberInfo.member) := by
  have hdraws : (∀ ans', FailsOver crates start inputs m ans' mode failed members s →
      AsksOthers settings.hosts failed (members.map MemberInfo.member)
        (candidatesAt s mode (some failed) ans')) ↔
      ∀ draw, AsksOthers settings.hosts failed (members.map MemberInfo.member)
        (Lib.shuffle draw mode.configured) := by
    constructor
    · intro hall draw
      have hdraw := hall _ (h.redraw hnew draw)
      rwa [(h.redraw hnew draw).candidates_eq hnew, redraw_self] at hdraw
    · intro hall ans' h'
      rw [h'.candidates_eq hnew]
      exact hall _
  rw [hdraws]
  unfold AsksOthers ConfiguredAreOthers
  split
  · rw [← configured_perm_hosts (h.mode_eq hnew)]
    constructor
    · intro hall; exact (shuffle_perm _ _).symm.trans (hall fun _ => 0)
    · intro hp draw; exact (shuffle_perm _ _).trans hp
  · exact managersLast_all_orders

end

/-! ## A leader that goes away -/

/-- Every seed reports these members. -/
def clusterAnswers (id : Uuid) (members : List WireMember) : Answers :=
  { soloAnswers id with gossip := fun _ => .answer (.ok members) }

/-- A node that does not answer. -/
def silentAnswers (id : Uuid) : Answers := { soloAnswers id with features := fun _ => .timeout }

/-- The connection after a redirect to a node that does not answer. -/
def givenUp : Discovery := ⟨{ pairStart with id := 1 }, { contacted := 1 }, 1, none⟩

/-- A task on two seeds that connected to a node of the cluster they report and is then sent
to `node1`, in vain, is about to select a node. -/
theorem failsOver_pair (wire : List WireMember) (handle : HandleInfo) {members : List MemberInfo}
    {c : Conf} {r : GossipRead}
    (hstep : (Conf.init pairStart).step soloCrates (.getChannel 0, clusterAnswers 1 wire) = some c)
    (hconn : c.task.connection = { pairStart with id := 1, handle := some handle })
    (hread : r ∈ (Conf.init pairStart).task.gossipReads soloCrates (clusterAnswers 1 wire)
      (.getChannel 0)) (hr : r.outcome = some (.ok members)) :
    FailsOver soloCrates pairStart [(.getChannel 0, clusterAnswers 1 wire)]
      (.createChannel 1 (some ⟨"node1", 2113⟩)) (silentAnswers 2) (.seeds pairSettings.hosts)
      handle.endpoint members givenUp where
  reached := by
    refine ⟨c, exec_cons.mpr ⟨c, hstep, rfl⟩, ⟨⟨⟨{ pairStart with id := 1 }, none,
      some ⟨"node1", 2113⟩, some handle.endpoint⟩, ?_, rfl, rfl, rfl, ?_⟩, rfl, rfl⟩⟩
    · rw [hconn]
      exact .pass .entry rfl
    · exact .pass .entry rfl
  known := ⟨r, List.mem_append_left _ (List.mem_append_left _ hread), hr⟩

/-- The leader `node2` fails, and is asked for gossip all the same, since it is a seed. -/
theorem failover_asks_failed_node :
    FailsOver soloCrates pairStart
        [(.getChannel 0, clusterAnswers 1 [⟨none, 0, 8, true, some ⟨"node2", 2113⟩⟩,
          ⟨none, 0, 6, true, some ⟨"node1", 2113⟩⟩])]
        (.createChannel 1 (some ⟨"node1", 2113⟩)) (silentAnswers 2) (.seeds pairSettings.hosts)
        ⟨"node2", 2113⟩ [⟨Uuid.nil, 0, .leader, true, ⟨"node2", 2113⟩⟩,
          ⟨Uuid.nil, 0, .follower, true, ⟨"node1", 2113⟩⟩] givenUp ∧
      candidatesAt givenUp (.seeds pairSettings.hosts) (some ⟨"node2", 2113⟩) (silentAnswers 2) =
        [⟨"node2", 2113⟩, ⟨"node1", 2113⟩] ∧
      ¬ AsksOthers pairSettings.hosts ⟨"node2", 2113⟩
        [⟨⟨"node2", 2113⟩, .leader⟩, ⟨⟨"node1", 2113⟩, .follower⟩]
        (candidatesAt givenUp (.seeds pairSettings.hosts) (some ⟨"node2", 2113⟩)
          (silentAnswers 2)) := by
  refine ⟨failsOver_pair _ ⟨1, _, ⟨"node2", 2113⟩, _, _⟩ rfl rfl List.mem_cons_self rfl, rfl, ?_⟩
  intro h
  have hlast : ManagersLast [⟨⟨"node1", 2113⟩, .follower⟩]
      [⟨"node2", 2113⟩, ⟨"node1", 2113⟩] := h
  have hlen := hlast.perm.length_eq
  cases hlen

/-- A leader that is not among the seeds, with followers that are. -/
theorem failover_asks_others_pair :
    FailsOver soloCrates pairStart
        [(.getChannel 0, clusterAnswers 1 [⟨none, 0, 8, true, some ⟨"node3", 2113⟩⟩,
          ⟨none, 0, 6, true, some ⟨"node1", 2113⟩⟩, ⟨none, 0, 6, true, some ⟨"node2", 2113⟩⟩])]
        (.createChannel 1 (some ⟨"node1", 2113⟩)) (silentAnswers 2) (.seeds pairSettings.hosts)
        ⟨"node3", 2113⟩ [⟨Uuid.nil, 0, .leader, true, ⟨"node3", 2113⟩⟩,
          ⟨Uuid.nil, 0, .follower, true, ⟨"node1", 2113⟩⟩,
          ⟨Uuid.nil, 0, .follower, true, ⟨"node2", 2113⟩⟩] givenUp ∧
      AsksOthers pairSettings.hosts ⟨"node3", 2113⟩
        [⟨⟨"node3", 2113⟩, .leader⟩, ⟨⟨"node1", 2113⟩, .follower⟩, ⟨⟨"node2", 2113⟩, .follower⟩]
        (candidatesAt givenUp (.seeds pairSettings.hosts) (some ⟨"node3", 2113⟩)
          (silentAnswers 2)) := by
  have h : FailsOver soloCrates pairStart _ _ (silentAnswers 2) (.seeds pairSettings.hosts)
      ⟨"node3", 2113⟩ _ givenUp :=
    failsOver_pair [⟨none, 0, 8, true, some ⟨"node3", 2113⟩⟩,
      ⟨none, 0, 6, true, some ⟨"node1", 2113⟩⟩, ⟨none, 0, 6, true, some ⟨"node2", 2113⟩⟩]
      ⟨1, _, ⟨"node3", 2113⟩, _, _⟩ rfl rfl List.mem_cons_self rfl
  refine ⟨h, (@failover_asks_others_iff _ pairSettings _ _ _ _ _ _ _ _ rfl h).mpr ?_ _ h⟩
  exact (if_neg (by decide)).mpr ⟨.rfl, by decide⟩

end Kurrent
