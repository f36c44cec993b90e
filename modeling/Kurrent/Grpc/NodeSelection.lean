import Kurrent.Lib.Pick
import Kurrent.Grpc.Gossip
import Kurrent.Grpc.ServerFeatures

/-!
# Node selection

Which node of a cluster to connect to: `nodeSelection` asks the candidates in turn for
gossip and `determineBestNode` picks a member of the first answer that has an eligible
one. Everything the network and the random generators decide during one call of
`NodeConnection::next` is an `Answers`; `Io` counts what has been consumed of it and keeps
the gossip reads that were made.
-/

namespace Kurrent

open Lib

inductive ClusterMode where
  | dns (endpoint : Endpoint)
  | seeds (hosts : List Endpoint)
  deriving DecidableEq, Repr

/-- The endpoints the settings name for gossip. -/
def ClusterMode.configured : ClusterMode → List Endpoint
  | .dns endpoint => [endpoint]
  | .seeds hosts => hosts

/-- What happens outside the client during one call of `next`: the reply to the `n`-th
gossip and server-features call, the `n`-th random number, the draws of the `n`-th
shuffle, and the value of `Uuid::new_v4` (a call asks for at most one). -/
structure Answers where
  gossip : Nat → Reply (List WireMember)
  features : Nat → Reply SupportedMethods
  random : Nat → UInt32
  draws : Nat → Nat → Nat
  newId : Uuid

structure GossipRead where
  candidate : Endpoint
  outcome : Option (Except Status (List MemberInfo))

structure Io where
  contacted : Nat := 0
  drawn : Nat := 0
  shuffled : Nat := 0
  reads : List GossipRead := []

/-! ## Choosing a member -/

def allowedStates : VNodeState → Bool
  | .manager | .shuttingDown | .shutdown => false
  | _ => true

/-- The members `determine_best_node` chooses from. -/
def eligible (m : MemberInfo) : Bool := m.isAlive && allowedStates m.state

/-- The comparison of two members, which draws a random number when both are as good. -/
def compareMembers (preference : NodePreference) (random : Nat → UInt32) (k : Nat)
    (a b : MemberInfo) : Ordering × Nat :=
  if preference = .random then
    (if random k % 2 = 0 then .gt else .lt, k + 1)
  else
    match preference.matchPreference a.state, preference.matchPreference b.state with
    | true, true => (if random k % 2 = 0 then .lt else .gt, k + 1)
    | true, false => (.lt, k)
    | false, true => (.gt, k)
    | false, false => (.gt, k)

def determineBestNode (random : Nat → UInt32) (k : Nat) (preference : NodePreference)
    (members : List MemberInfo) : Option Endpoint × Nat :=
  let (member, k) :=
    minBy (compareMembers preference random) k
      ((members.filter fun m => m.isAlive).filter fun m => allowedStates m.state)
  (member.map fun m => m.httpEndPoint, k)

theorem mem_choices {members : List MemberInfo} {m : MemberInfo} :
    m ∈ (members.filter fun m => m.isAlive).filter (fun m => allowedStates m.state) ↔
      m ∈ members ∧ eligible m = true := by
  simp only [List.mem_filter, eligible, Bool.and_eq_true, and_assoc]

theorem determineBestNode_eq_none {random : Nat → UInt32} {k : Nat} {pref : NodePreference}
    {members : List MemberInfo} :
    (determineBestNode random k pref members).1 = none ↔ ∀ m ∈ members, eligible m = false := by
  simp only [determineBestNode, Option.map_eq_none_iff, minBy_eq_none]
  rw [List.eq_nil_iff_forall_not_mem]
  constructor
  · intro h m hm
    by_contra he
    exact h m (mem_choices.mpr ⟨hm, by simpa using he⟩)
  · intro h m hm
    obtain ⟨hm, he⟩ := mem_choices.mp hm
    rw [h m hm] at he
    cases he

theorem determineBestNode_mem {random : Nat → UInt32} {k : Nat} {pref : NodePreference}
    {members : List MemberInfo} {e : Endpoint}
    (h : (determineBestNode random k pref members).1 = some e) :
    ∃ m ∈ members, eligible m = true ∧ m.httpEndPoint = e := by
  simp only [determineBestNode, Option.map_eq_some_iff] at h
  obtain ⟨m, hm, rfl⟩ := h
  obtain ⟨hmem, he⟩ := mem_choices.mp (minBy_mem hm)
  exact ⟨m, hmem, he, rfl⟩

/-! ## What the draws can lead to -/

/-- The member whose endpoint is returned. -/
def bestMember (random : Nat → UInt32) (k : Nat) (preference : NodePreference)
    (members : List MemberInfo) : Option MemberInfo :=
  (minBy (compareMembers preference random) k
    ((members.filter fun m => m.isAlive).filter fun m => allowedStates m.state)).1

theorem determineBestNode_eq_bestMember (random : Nat → UInt32) (k : Nat)
    (preference : NodePreference) (members : List MemberInfo) :
    (determineBestNode random k preference members).1 =
      (bestMember random k preference members).map fun m => m.httpEndPoint := rfl

/-- The members that are told apart by a draw: for `Random`, all of them. -/
def preferred (preference : NodePreference) (m : MemberInfo) : Bool :=
  preference = .random || preference.matchPreference m.state

/-- The draws that leave the first of two preferred members in place. -/
def keepsFirst (preference : NodePreference) (r : UInt32) : Bool :=
  if preference = .random then r % 2 ≠ 0 else r % 2 = 0

theorem compareMembers_eq_preferring (preference : NodePreference) (random : Nat → UInt32) :
    compareMembers preference random =
      preferring (preferred preference) (keepsFirst preference) random := by
  funext k a b
  unfold compareMembers preferring preferred keepsFirst
  by_cases hr : preference = .random
  · simp only [hr, if_true, decide_true, Bool.true_or, decide_not, Bool.not_eq_true',
      decide_eq_false_iff_not]
    by_cases hd : random k % 2 = 0 <;> simp [hd]
  · simp only [hr, if_false, decide_false, Bool.false_or, decide_eq_true_eq]
    cases preference.matchPreference a.state <;> cases preference.matchPreference b.state <;> rfl

theorem bestMember_onto {preference : NodePreference} {members : List MemberInfo} {k : Nat}
    {m : MemberInfo} :
    (∃ random, bestMember random k preference members = some m) ↔
      if ∃ z ∈ members.filter eligible, preferred preference z = true then
        m ∈ members.filter eligible ∧ preferred preference m = true
      else (members.filter eligible).getLast? = some m := by
  have hfilter : (members.filter fun m => m.isAlive).filter (fun m => allowedStates m.state) =
      members.filter eligible := by
    rw [List.filter_filter]
    exact List.filter_congr fun m _ => Bool.and_comm _ _
  have hyes : ∃ r, keepsFirst preference r = true := by
    by_cases hr : preference = .random
    · exact ⟨1, by simp [keepsFirst, hr]⟩
    · exact ⟨0, by simp [keepsFirst, hr]⟩
  have hno : ∃ r, keepsFirst preference r = false := by
    by_cases hr : preference = .random
    · exact ⟨0, by simp [keepsFirst, hr]⟩
    · exact ⟨1, by simp [keepsFirst, hr]⟩
  obtain ⟨yes, hyes⟩ := hyes
  obtain ⟨no, hno⟩ := hno
  simp only [bestMember, compareMembers_eq_preferring, hfilter]
  exact minBy_preferring_iff hyes hno

/-- **The best node**: there is none exactly when no member is eligible, and it matches the
preference whenever an eligible member does. Over all draws, the members it can be are the
eligible ones for `Random`, the matching ones if there are any, and else only the last one. -/
theorem best_node_over_draws (preference : NodePreference) (members : List MemberInfo) (k : Nat) :
    (∀ random, (determineBestNode random k preference members).1 =
      (bestMember random k preference members).map fun m => m.httpEndPoint) ∧
    (∀ random, (determineBestNode random k preference members).1 = none ↔
      ∀ m ∈ members, eligible m = false) ∧
    (∀ random e, (determineBestNode random k preference members).1 = some e →
      ∃ m ∈ members, eligible m = true ∧ m.httpEndPoint = e ∧
        (preference ≠ .random →
          (∃ z ∈ members, eligible z = true ∧ preference.matchPreference z.state = true) →
          preference.matchPreference m.state = true)) ∧
    ∀ m, (∃ random, bestMember random k preference members = some m) ↔
      if preference = .random then m ∈ members ∧ eligible m = true
      else if ∃ z ∈ members, eligible z = true ∧ preference.matchPreference z.state = true then
        m ∈ members ∧ eligible m = true ∧ preference.matchPreference m.state = true
      else (members.filter eligible).getLast? = some m := by
  have hset : ∀ m, (∃ random, bestMember random k preference members = some m) ↔
      if preference = .random then m ∈ members ∧ eligible m = true
      else if ∃ z ∈ members, eligible z = true ∧ preference.matchPreference z.state = true then
        m ∈ members ∧ eligible m = true ∧ preference.matchPreference m.state = true
      else (members.filter eligible).getLast? = some m := by
    intro m
    rw [bestMember_onto]
    by_cases hr : preference = .random
    · have hall : ∀ z, preferred preference z = true := fun z => by simp [preferred, hr]
      have hmem : m ∈ members ∧ eligible m = true ↔ m ∈ members.filter eligible :=
        List.mem_filter.symm
      rw [if_pos hr, hmem]
      split
      · exact ⟨And.left, fun h => ⟨h, hall m⟩⟩
      · next hnone =>
        -- nobody is eligible, so there is no last one either
        have hnil : members.filter eligible = [] :=
          List.eq_nil_iff_forall_not_mem.mpr fun z hz => hnone ⟨z, hz, hall z⟩
        simp [hnil]
    · simp only [preferred, hr, decide_false, Bool.false_or, List.mem_filter, and_assoc, if_false]
  refine ⟨fun random => rfl, fun random => determineBestNode_eq_none, ?_, hset⟩
  intro random e h
  rw [determineBestNode_eq_bestMember, Option.map_eq_some_iff] at h
  obtain ⟨m, hm, rfl⟩ := h
  obtain ⟨hmem, hel⟩ := mem_choices.mp (minBy_mem hm)
  refine ⟨m, hmem, hel, rfl, ?_⟩
  intro hr hz
  have := (hset m).mp ⟨random, hm⟩
  rw [if_neg hr, if_pos hz] at this
  exact this.2.2

/-! ## Candidates -/

structure Member where
  endpoint : Endpoint
  state : VNodeState
  deriving DecidableEq, Repr

structure Candidates where
  nodes : List Member := []
  managers : List Member := []

namespace Candidates

def push (c : Candidates) (member : Member) : Candidates :=
  if member.state = .manager then { c with managers := c.managers ++ [member] }
  else { c with nodes := c.nodes ++ [member] }

def shuffle (ans : Answers) (n : Nat) (c : Candidates) : Candidates :=
  ⟨Lib.shuffle (ans.draws n) c.nodes, Lib.shuffle (ans.draws (n + 1)) c.managers⟩

def endpoints (c : Candidates) : List Endpoint := (c.nodes ++ c.managers).map Member.endpoint

end Candidates

def arrangeGossipCandidates (ans : Answers) (n : Nat) (candidates : List Member) : List Endpoint :=
  ((candidates.foldl Candidates.push {}).shuffle ans n).endpoints

def candidatesFromOldGossip (ans : Answers) (n : Nat) (failedEndpoint : Option Endpoint)
    (oldCandidates : List Member) : List Endpoint :=
  arrangeGossipCandidates ans n
    (match failedEndpoint with
    | some endpoint => oldCandidates.filter fun member => member.endpoint ≠ endpoint
    | none => oldCandidates)

/-- The candidates to ask, in order: the members of an earlier gossip if there is one, else
the configured endpoints in random order. -/
def selectCandidates (setts : ClientSettings) (mode : ClusterMode) (failedEndpoint : Option Endpoint)
    (ans : Answers) (previousCandidates : Option (List Member)) (io : Io) : List Endpoint × Io :=
  match previousCandidates with
  | some old =>
    let new := candidatesFromOldGossip ans io.shuffled failedEndpoint old
    -- a cluster of one node that failed: fall back on the configured hosts
    (if new = [] then setts.hosts else new, { io with shuffled := io.shuffled + 2 })
  | none =>
    (Lib.shuffle (ans.draws io.shuffled) mode.configured, { io with shuffled := io.shuffled + 1 })

/-- Ask each candidate in turn until one of them leads to a node. -/
def askCandidates (crates : Crates) (setts : ClientSettings) (ans : Answers) :
    List Endpoint → Io → Call (Option Endpoint × Io)
  | [], io => .ret (none, io)
  | candidate :: rest, io => do
    let _uri ← setts.toHyperUri crates candidate
    let outcome ← Gossip.read crates setts (ans.gossip io.reads.length)
    let io := { io with reads := io.reads ++ [⟨candidate, outcome⟩] }
    match outcome with
    | some (.ok members) =>
      match determineBestNode ans.random io.drawn setts.preference members with
      | (some node, k) => pure (some node, { io with drawn := k })
      | (none, k) => askCandidates crates setts ans rest { io with drawn := k }
    | _ => askCandidates crates setts ans rest io

/-- What `node_selection` leaves behind: the node, the candidates kept for the next time
(taken and not put back), and the world. -/
structure Selection where
  node : Option Endpoint
  previousCandidates : Option (List Member)
  io : Io

def nodeSelection (crates : Crates) (setts : ClientSettings) (mode : ClusterMode)
    (failedEndpoint : Option Endpoint) (ans : Answers) (previousCandidates : Option (List Member))
    (io : Io) : Call Selection := do
  let (candidates, io) := selectCandidates setts mode failedEndpoint ans previousCandidates io
  let (node, io) ← askCandidates crates setts ans candidates io
  pure ⟨node, none, io⟩

/-! ## What a selection returns -/

/-- The read gave members and one of them is eligible and has this endpoint. -/
def GossipRead.Offers (r : GossipRead) (e : Endpoint) : Prop :=
  ∃ members, r.outcome = some (.ok members) ∧ ∃ m ∈ members, eligible m = true ∧ m.httpEndPoint = e

/-- The read failed, timed out, or gave no eligible member. -/
def GossipRead.Vain (r : GossipRead) : Prop :=
  r.outcome = none ∨ (∃ status, r.outcome = some (.error status)) ∨
    ∃ members, r.outcome = some (.ok members) ∧ ∀ m ∈ members, eligible m = false

/-- The outcome is the network's answer to a gossip call, decoded. -/
def GossipRead.Genuine (crates : Crates) (setts : ClientSettings) (ans : Answers)
    (r : GossipRead) : Prop :=
  ∃ n, Gossip.read crates setts (ans.gossip n) = .ret r.outcome

theorem GossipRead.Vain.not_offers {r : GossipRead} (h : r.Vain) (e : Endpoint) : ¬ r.Offers e := by
  rintro ⟨members, hms, m, hm, hel, -⟩
  rcases h with hn | ⟨status, hs⟩ | ⟨members', hms', hno⟩
  · rw [hms] at hn; cases hn
  · rw [hms] at hs; cases hs
  · rw [hms] at hms'
    cases hms'
    rw [hno m hm] at hel
    cases hel

/-- What the gossip reads mean for the node that was chosen. -/
structure Asked (crates : Crates) (setts : ClientSettings) (ans : Answers)
    (candidates : List Endpoint) (node : Option Endpoint) (reads : List GossipRead) : Prop where
  inOrder : reads.map GossipRead.candidate <+: candidates
  genuine : ∀ r ∈ reads, r.Genuine crates setts ans
  offered : ∀ e, node = some e → ∃ r ∈ reads, r.Offers e
  none_iff : node = none ↔ reads.map GossipRead.candidate = candidates ∧ ∀ r ∈ reads, r.Vain

section

variable {crates : Crates} {setts : ClientSettings} {ans : Answers} {c e : Endpoint}
  {cs : List Endpoint} {node : Option Endpoint} {r : GossipRead} {reads : List GossipRead}

/-- A read in vain, before the reads of the remaining candidates. -/
theorem Asked.cons (h : Asked crates setts ans cs node reads) (hc : r.candidate = c)
    (hg : r.Genuine crates setts ans) (hv : r.Vain) :
    Asked crates setts ans (c :: cs) node (r :: reads) where
  inOrder := by
    rw [List.map_cons, hc, List.prefix_cons_inj]
    exact h.inOrder
  genuine := List.forall_mem_cons.mpr ⟨hg, h.genuine⟩
  offered e he := by
    obtain ⟨r', hr', ho⟩ := h.offered e he
    exact ⟨r', List.mem_cons_of_mem _ hr', ho⟩
  none_iff := by
    rw [h.none_iff, List.map_cons, hc, List.cons.injEq]
    simp only [true_and, List.forall_mem_cons]
    exact and_congr_right fun _ => ⟨fun h => ⟨hv, h⟩, fun h => h.2⟩

/-- The read that ends the search. -/
theorem Asked.found (hc : r.candidate = c) (hg : r.Genuine crates setts ans) (ho : r.Offers e) :
    Asked crates setts ans (c :: cs) (some e) [r] where
  inOrder := by simp [hc]
  genuine := List.forall_mem_singleton.mpr hg
  offered e' he := by
    cases he
    exact ⟨r, List.mem_singleton_self r, ho⟩
  none_iff := by
    constructor
    · intro h; cases h
    · intro h; exact absurd ho ((h.2 r (List.mem_singleton_self r)).not_offers e)

end

theorem askCandidates_spec {crates : Crates} {setts : ClientSettings} {ans : Answers} :
    ∀ {cs : List Endpoint} {io io' : Io} {node : Option Endpoint},
      askCandidates crates setts ans cs io = .ret (node, io') →
      ∃ new, io'.reads = io.reads ++ new ∧ Asked crates setts ans cs node new := by
  intro cs
  induction cs with
  | nil =>
    intro io io' node h
    cases h
    exact ⟨[], by simp, ⟨by simp, by simp, by simp, by simp⟩⟩
  | cons c cs ih =>
    intro io io' node h
    unfold askCandidates at h
    obtain ⟨uri, -, h⟩ := Call.bind_eq_ret h
    obtain ⟨outcome, hread, h⟩ := Call.bind_eq_ret h
    have hg : GossipRead.Genuine crates setts ans ⟨c, outcome⟩ := ⟨_, hread⟩
    -- a read in vain, whatever the reason: the search goes on with the rest
    have goOn : ∀ k, GossipRead.Vain ⟨c, outcome⟩ →
        askCandidates crates setts ans cs
          { io with reads := io.reads ++ [⟨c, outcome⟩], drawn := k } = .ret (node, io') →
        ∃ new, io'.reads = io.reads ++ new ∧ Asked crates setts ans (c :: cs) node new := by
      intro k hv hrest
      obtain ⟨new, hreads, hasked⟩ := ih hrest
      exact ⟨⟨c, outcome⟩ :: new, by simpa using hreads, hasked.cons rfl hg hv⟩
    match outcome, hg, goOn, h with
    | none, _, goOn, h => exact goOn io.drawn (.inl rfl) h
    | some (.error status), _, goOn, h => exact goOn io.drawn (.inr (.inl ⟨status, rfl⟩)) h
    | some (.ok members), hg, goOn, h =>
      simp only at h
      split at h
      · next e k hbest =>
        cases h
        obtain ⟨m, hm, hel, he⟩ := determineBestNode_mem (congrArg Prod.fst hbest)
        exact ⟨_, rfl, Asked.found rfl hg ⟨members, rfl, m, hm, hel, he⟩⟩
      · next k hbest =>
        have hno := determineBestNode_eq_none.mp (congrArg Prod.fst hbest)
        exact goOn k (.inr (.inr ⟨members, rfl, hno⟩)) h

/-- **Node selection**: the candidates are asked in order, the node comes from the answer of
one of them, and there is none exactly when all were asked in vain. -/
theorem nodeSelection_spec {crates : Crates} {setts : ClientSettings} {mode : ClusterMode}
    {failed : Option Endpoint} {ans : Answers} {previous : Option (List Member)} {io : Io}
    {sel : Selection}
    (h : nodeSelection crates setts mode failed ans previous io = .ret sel) :
    sel.previousCandidates = none ∧
      ∃ new, sel.io.reads = io.reads ++ new ∧
        Asked crates setts ans (selectCandidates setts mode failed ans previous io).1 sel.node new := by
  unfold nodeSelection at h
  obtain ⟨⟨node, io'⟩, hask, h⟩ := Call.bind_eq_ret h
  cases h
  obtain ⟨new, hreads, hasked⟩ := askCandidates_spec hask
  refine ⟨rfl, new, ?_, hasked⟩
  rw [hreads]
  cases previous <;> rfl

/-- Without earlier gossip the candidates are the configured endpoints in some order. -/
theorem selectCandidates_perm (setts : ClientSettings) (mode : ClusterMode)
    (failed : Option Endpoint) (ans : Answers) (io : Io) :
    (selectCandidates setts mode failed ans none io).1.Perm mode.configured :=
  shuffle_perm _ _

end Kurrent
