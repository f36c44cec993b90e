import Mathlib.Data.List.Induction
import Kurrent.Grpc.Failover

/-!
# Where handles come from

Every handle a client is given was made by one call of `next`, in the message that is being
handled or in an earlier one of the run. `Source` names that call and says where the
endpoint came from during it.
-/

namespace Kurrent

open Lib
open NodeConnection (Made Origin Redirects)

/-- The endpoint `e` of the connection made while the task in state `t` handled `m`: the
first configured host outside a cluster; in a cluster an eligible member in the answer of a
configured endpoint to a gossip call made during that very call of `next`; or the endpoint
of a redirect, handled when its id was the current one or there was no handle. -/
def EndpointSource (crates : Crates) (settings : ClientSettings) (mode : Option ClusterMode)
    (t : Task) (m : Msg) (a : Answers) (reads : List GossipRead) (e : Endpoint) : Prop :=
  (mode = none ∧ settings.hosts.head? = some e) ∨
  (∃ cluster, mode = some cluster ∧ ∃ r ∈ reads, r.candidate ∈ cluster.configured ∧
    r.Genuine crates settings a ∧ r.Offers e) ∨
  (∃ i, m = .createChannel i (some e) ∧
    (t.handleOpt = none ∨ ∃ h, t.handleOpt = some h ∧ h.id = i))

/-- The call of `next` in the run of `inputs` from `start` that made the handle. -/
def Source (crates : Crates) (settings : ClientSettings) (start : NodeConnection)
    (inputs : List (Msg × Answers)) (h : Handle) : Prop :=
  ∃ before m a after c info conn io, inputs = before ++ (m, a) :: after ∧
    exec (Conf.step crates) (Conf.init start) before = some c ∧
    c.task.connection.next crates a m.request = .ret ⟨conn, io, .ok info⟩ ∧
    h = Handle.ofInfo info ∧
    EndpointSource crates settings start.clusterMode c.task m a io.reads h.endpoint ∧
    settings.toHyperUri crates h.endpoint = .ret h.uri ∧ h.secure = settings.secure

section

variable {crates : Crates} {settings : ClientSettings} {start : NodeConnection}
  {inputs : List (Msg × Answers)} {c : Conf} {h : Handle}

theorem Source.append (hs : Source crates settings start inputs h) (more : List (Msg × Answers)) :
    Source crates settings start (inputs ++ more) h := by
  obtain ⟨before, m, a, after, c, info, conn, io, rfl, hrest⟩ := hs
  exact ⟨before, m, a, after ++ more, c, info, conn, io, by simp, hrest⟩

/-- The settings and the cluster mode never change. -/
structure SameSettings (start : NodeConnection) (c : Conf) : Prop where
  settings : c.task.connection.settings = start.settings
  clusterMode : c.task.connection.clusterMode = start.clusterMode

theorem step_sameSettings {m : Msg} {a : Answers} {c' : Conf} (hc : ConfInv c)
    (hs : SameSettings start c) (h : c.step crates (m, a) = some c') : SameSettings start c' := by
  rcases step_cases hc h with ⟨-, ht⟩ | ⟨-, -, info, -, ht⟩
  · exact ⟨by rw [ht]; exact hs.settings, by rw [ht]; exact hs.clusterMode⟩
  · exact ⟨by rw [ht]; exact hs.settings, by rw [ht]; exact hs.clusterMode⟩

/-- A connection made at the end of a run has its source there. -/
theorem Established.source {m : Msg} {a : Answers} {info : HandleInfo} (hc : ConfInv c)
    (hs : SameSettings start c)
    (hrun : exec (Conf.step crates) (Conf.init start) inputs = some c)
    (he : Established crates a c.task m info) :
    Source crates start.settings start (inputs ++ [(m, a)]) (Handle.ofInfo info) := by
  obtain ⟨io, hnext, hm⟩ := he.call
  refine ⟨inputs, m, a, [], c, info, _, io, rfl, hrun, hnext, rfl, ?_, ?_, ?_⟩
  · rcases hm.origin with ⟨hmode, hhost⟩ | ⟨mode, hmode, r, hr, hrest⟩ | ⟨r, hreq, hend⟩
    · exact .inl ⟨by rw [← hs.clusterMode]; exact hmode, by rw [← hs.settings]; exact hhost⟩
    · rw [hs.settings] at hrest
      exact .inr (.inl ⟨mode, by rw [← hs.clusterMode]; exact hmode, r, hr, hrest⟩)
    · refine .inr (.inr ⟨r.correlation, ?_, ?_⟩)
      · rw [request_id hreq, hend]; rfl
      · rcases he.redirects r hreq with hn | hid
        · exact .inl (hc.synced.handle_none.mp hn)
        · cases hk : c.task.connection.handle with
          | none => exact .inl (hc.synced.handle_none.mp hk)
          | some k =>
            refine .inr ⟨Handle.ofInfo k, by rw [hc.synced.handles, hk]; rfl, ?_⟩
            exact (hc.synced.id k hk).symm.trans hid
  · rw [← hs.settings]; exact hm.uri
  · rw [← hs.settings]; exact hm.secure

/-- The current handle of a run has its source in the run. -/
theorem exec_source (hi : ConfInv (Conf.init start))
    (hrun : exec (Conf.step crates) (Conf.init start) inputs = some c) :
    SameSettings start c ∧
      ∀ h, c.task.handleOpt = some h → Source crates start.settings start inputs h := by
  induction inputs using List.reverseRecOn generalizing c with
  | nil =>
    cases hrun
    exact ⟨⟨rfl, rfl⟩, fun h hh => by cases hh⟩
  | append_singleton inputs input ih =>
    obtain ⟨m, a⟩ := input
    obtain ⟨c₁, hrun₁, hst⟩ := exec_append.mp hrun
    obtain ⟨c₂, hst, hc₂⟩ := exec_cons.mp hst
    cases hc₂
    obtain ⟨hsame, hsrc⟩ := ih hrun₁
    have hc₁ := exec_confInv hi hrun₁
    refine ⟨step_sameSettings hc₁ hsame hst, fun h hh => ?_⟩
    rcases step_cases hc₁ hst with ⟨-, ht⟩ | ⟨-, -, info, he, ht⟩
    · rw [ht] at hh
      exact (hsrc h hh).append _
    · rw [ht] at hh
      cases hh
      exact he.source hc₁ hsame hrun₁

theorem reply_task {t : Task} {a : Answers} {resp : Nat}
    (h : (t.onMsg crates a (.getChannel resp)).reply = some (.ok h)) :
    ∃ t', (t.onMsg crates a (.getChannel resp)).task = some t' := by
  simp only [Task.onMsg] at h ⊢
  split
  · exact ⟨_, rfl⟩
  · next hn =>
    simp only [hn] at h
    split at h
    · cases h
    · cases h
    · exact ⟨_, rfl⟩

end

/-- **Provenance of handles.** Every answer of the task is a handle with a source in the run,
and node selection fails exactly when every candidate was asked in vain. -/
theorem handles_have_sources {crates : Crates} {settings : ClientSettings} {start : NodeConnection}
    {inputs : List (Msg × Answers)} {c : Conf} (hnew : NodeConnection.new settings = .ret start)
    (hrun : exec (Conf.step crates) (Conf.init start) inputs = some c) :
    (∀ resp a h, (c.task.onMsg crates a (.getChannel resp)).reply = some (.ok h) →
      Source crates settings start (inputs ++ [(.getChannel resp, a)]) h) ∧
    (∀ mode failed a previous io sel,
      nodeSelection crates settings mode failed a previous io = .ret sel →
      ∃ reads, sel.io.reads = io.reads ++ reads ∧
        (∀ r ∈ reads, r.Genuine crates settings a) ∧
        (sel.node = none ↔
          reads.map GossipRead.candidate =
            (selectCandidates settings mode failed a previous io).1 ∧ ∀ r ∈ reads, r.Vain)) := by
  obtain ⟨-, -, rfl, -, -⟩ := new_conn hnew
  constructor
  · intro resp a h hrep
    obtain ⟨hsame, hsrc⟩ := exec_source (init_inv hnew) hrun
    have hc := exec_confInv (init_inv hnew) hrun
    by_cases hr : Reconnects c.task (.getChannel resp)
    · obtain ⟨t', ht'⟩ := reply_task hrep
      obtain ⟨info, he, -, hrep'⟩ := onMsg_reconnects hc.synced hr ht'
      rw [hrep' resp rfl] at hrep
      cases hrep
      exact he.source hc hsame hrun
    · obtain ⟨k, hk, -, hrep'⟩ := @onMsg_keeps crates a c.task _ hc.synced hr
      rw [hrep' resp rfl] at hrep
      cases hrep
      refine (hsrc _ ?_).append _
      rw [hc.synced.handles, hk]; rfl
  · intro mode failed a previous io sel hsel
    obtain ⟨-, reads, hreads, hasked⟩ := nodeSelection_spec hsel
    exact ⟨reads, hreads, hasked.genuine, hasked.none_iff⟩

/-- A cluster of two seeds. -/
def pairSettings : ClientSettings :=
  { hosts := [⟨"node1", 2113⟩, ⟨"node2", 2113⟩], secure := false }

def pairStart : NodeConnection :=
  ⟨Uuid.nil, none, pairSettings, some (.seeds pairSettings.hosts), none⟩

/-- The leader `node2` is the only member any seed reports. -/
def pairAnswers (id : Uuid) : Answers :=
  { soloAnswers id with
    gossip := fun _ => .answer (.ok [⟨none, 0, 8, true, some ⟨"node2", 2113⟩⟩]) }

theorem handles_have_sources_pair :
    Source soloCrates pairSettings pairStart [(.getChannel 0, pairAnswers 1)]
      ⟨1, ⟨pairSettings.uriText ⟨"node2", 2113⟩⟩, ⟨"node2", 2113⟩, false, {}⟩ :=
  (@handles_have_sources soloCrates pairSettings pairStart [] (Conf.init pairStart) rfl rfl).1
    0 (pairAnswers 1) _ rfl

end Kurrent
