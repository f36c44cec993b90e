import Kurrent.Grpc.Failover

/-!
# Discovery attempts

How often `next` goes round. A pass of the inner loop without a selected node makes a
discovery round, one with a selected node contacts it, so that the passes count the rounds
and the server-features calls. The counter of the rounds is bumped and compared between
choosing a node and contacting it: the node that the last round chooses is never contacted.
-/

namespace Kurrent

open Lib

namespace NodeConnection

/-! ## The passes of the two loops -/

/-- The rounds of discovery among the passes of the inner loop. -/
def rounds (passes : List Discovery) : Nat := passes.countP fun s => s.selectedNode.isNone

/-- The passes that contact a node. -/
def contacts (passes : List Discovery) : Nat := passes.countP fun s => s.selectedNode.isSome

/-- The outer loop's pass enters the inner loop. -/
def Outer.Enters (s : Outer) : Prop := s.request = none ∧ s.conn.handle = none

/-- The state the inner loop is entered with. -/
def Outer.entry (s : Outer) : Discovery := ⟨s.conn, {}, 1, s.selectedNode⟩

/-- What the passes of an inner loop add up to, counted from the state it is entered with:
the counter never overflows; the rounds fit in what is left of the limit, and are all of it
when the limit is reported; every contact follows a round or is that of the node the loop
was entered with. -/
structure Bounded (limit : Nat) (s : Discovery) (passes : List Discovery) (r : Call Next) :
    Prop where
  no_overflow : ∀ t ∈ passes, t.attempts + 1 < 2 ^ 64
  rounds_le : rounds passes ≤ limit + 1 - s.attempts
  contacts_le : contacts passes ≤ rounds passes + if s.selectedNode.isSome then 1 else 0
  reported : ∀ out n, r = .ret out → out.result = .error (.maxDiscoveryAttemptReached n) →
    rounds passes = limit + 1 - s.attempts

section

variable {crates : Crates} {ans : Answers} {failed : Option Endpoint}

theorem contactNode_not_reported {s : Discovery} {node : Endpoint} {out : Next} {n : Nat}
    (h : contactNode crates ans s node = .done (.ret out)) :
    out.result ≠ .error (.maxDiscoveryAttemptReached n) := by
  unfold contactNode at h
  split at h
  · cases h
  · simp only at h
    split at h
    · cases h; simp [connected]
    · split at h
      · cases h; simp [connected]
      · cases h; simp
    · cases h

/-- A round returns when it takes the counter above the limit. -/
theorem limit_le_of_done {s : Discovery} {out : Next}
    (h : discoveryRound crates ans failed s = .done (.ret out)) :
    s.conn.settings.maxDiscoverAttempts ≤ s.attempts := by
  unfold discoveryRound at h
  split at h
  · cases h
  · next node conn io hd =>
    obtain ⟨previous, hconn, -⟩ := discover_conn hd
    split at h
    · cases h
    · split at h
      · cases h
      · next hle => rw [hconn] at hle; simp only at hle; omega

/-- **The passes of the inner loop**, from any state within the limit. -/
theorem discovery_bounded {limit : Nat} (hlimit : limit + 1 < 2 ^ 64) (s : Discovery)
    (hs : max 1 s.conn.settings.maxDiscoverAttempts = limit) (ha : 1 ≤ s.attempts)
    (hle : s.attempts ≤ limit) :
    Bounded limit s ((discovery crates ans failed).heads s) ((discovery crates ans failed).run s) := by
  revert hs ha hle
  refine (discovery crates ans failed).heads_rule (P := fun s passes r =>
    max 1 s.conn.settings.maxDiscoverAttempts = limit → 1 ≤ s.attempts → s.attempts ≤ limit →
      Bounded limit s passes r) ?_ ?_ s
  · intro s r hb hs ha hle
    change discoveryBody crates ans failed s = _ at hb
    unfold discoveryBody at hb
    have hword : ∀ t ∈ [s], t.attempts + 1 < 2 ^ 64 := by
      intro t ht
      rw [List.mem_singleton.mp ht]
      omega
    cases hn : s.selectedNode with
    | some node =>
      rw [hn] at hb
      refine ⟨hword, by simp [rounds, hn], by simp [contacts, hn], ?_⟩
      rintro out n rfl hr
      exact absurd hr (contactNode_not_reported hb)
    | none =>
      rw [hn] at hb
      have hone : rounds [s] = 1 := by simp [rounds, hn]
      refine ⟨hword, by omega, by simp [contacts, hn], ?_⟩
      rintro out n rfl -
      have hge := limit_le_of_done hb
      omega
  · intro s s' passes r hb ih hs ha hle
    change discoveryBody crates ans failed s = _ at hb
    unfold discoveryBody at hb
    cases hn : s.selectedNode with
    | some node =>
      -- a timeout: no round, and the counter stays
      rw [hn] at hb
      obtain ⟨hc, hat, hnone, -⟩ := contactNode_again hb
      have h := ih (by rw [hc, hs]) (by omega) (by omega)
      have hr : rounds (s :: passes) = rounds passes := by simp [rounds, hn]
      have hk : contacts (s :: passes) = contacts passes + 1 := by simp [contacts, hn]
      have hk' := h.contacts_le
      rw [hnone] at hk'
      refine ⟨?_, ?_, ?_, ?_⟩
      · intro t ht
        rcases List.mem_cons.mp ht with rfl | ht
        · omega
        · exact h.no_overflow t ht
      · rw [hr, ← hat]; exact h.rounds_le
      · rw [hr, hk, hn]
        simpa using hk'
      · intro out n hout hres
        rw [hr, ← hat]
        exact h.reported out n hout hres
    | none =>
      rw [hn] at hb
      obtain ⟨hd, hat, hmax⟩ := discoveryRound_again hb
      obtain ⟨previous, hconn, -⟩ := discover_conn hd
      have hs' : max 1 s'.conn.settings.maxDiscoverAttempts = limit := by rw [hconn]; exact hs
      have h := ih hs' (by omega) (by omega)
      have hr : rounds (s :: passes) = rounds passes + 1 := by simp [rounds, hn]
      have hk : contacts (s :: passes) = contacts passes := by simp [contacts, hn]
      have hr' := h.rounds_le
      have hk' := h.contacts_le
      refine ⟨?_, ?_, ?_, ?_⟩
      · intro t ht
        rcases List.mem_cons.mp ht with rfl | ht
        · omega
        · exact h.no_overflow t ht
      · omega
      · rw [hr, hk, hn]
        simp only [Option.isSome_none, Bool.false_eq_true, if_false]
        split at hk' <;> omega
      · intro out n hout hres
        have := h.reported out n hout hres
        omega

theorem not_enters {s : Outer} {r : NodeRequest} (h : s.request = some r) : ¬ s.Enters := by
  rintro ⟨hnone, -⟩
  rw [hnone] at h
  cases h

theorem nextBody_again {s s' : Outer} (h : nextBody crates ans s = .again s') :
    (∃ r, s.request = some r ∧ s'.selectedNode = some r.endpoint) ∧ s'.request = none ∧
      s'.conn = { s.conn with handle := none } := by
  unfold nextBody at h
  split at h
  · next r handle hr hh =>
    split at h
    · cases h
    · cases h; exact ⟨⟨r, hr, rfl⟩, rfl, rfl⟩
  · next r hr hh => cases h; exact ⟨⟨r, hr, rfl⟩, rfl, by rw [← hh]⟩
  · cases h
  · cases h

/-- What a pass of the outer loop that returns has done. -/
theorem nextBody_done {s : Outer} {r : Call Next} (h : nextBody crates ans s = .done r) :
    (s.Enters ∧ r = (discovery crates ans s.failedEndpoint).run s.entry) ∨
      ¬ s.Enters ∧ ∃ handle, r = .ret ⟨s.conn, {}, .ok handle⟩ := by
  unfold nextBody at h
  split at h
  · next request handle hr hh =>
    split at h
    · cases h
      exact .inr ⟨not_enters hr, handle, rfl⟩
    · cases h
  · cases h
  · next handle hr hh =>
    cases h
    refine .inr ⟨fun he => ?_, handle, rfl⟩
    rw [he.2] at hh
    cases hh
  · next hr hh => cases h; exact .inl ⟨⟨hr, hh⟩, rfl⟩

/-- What the passes of the outer loop have in common, and what they return. -/
structure Passes (crates : Crates) (ans : Answers) (s : Outer) (passes : List Outer)
    (r : Call Next) : Prop where
  length_le : passes.length ≤ if s.request.isSome then 2 else 1
  settings : ∀ t ∈ passes, t.conn.settings = s.conn.settings
  selected : ∀ t ∈ passes, t.selectedNode.isSome → s.selectedNode.isSome ∨ s.request.isSome
  result : ∀ t ∈ passes, t.Enters → r = (discovery crates ans t.failedEndpoint).run t.entry
  failed : ∀ out e, r = .ret out → out.result = .error e → ∃ t ∈ passes, t.Enters
  last : ∀ pre t post, passes = pre ++ t :: post → t.Enters → post = []

theorem nextLoop_passes (s : Outer) :
    Passes crates ans s ((nextLoop crates ans).heads s) ((nextLoop crates ans).run s) := by
  refine (nextLoop crates ans).heads_rule (P := Passes crates ans) ?_ ?_ s
  · intro s r hb
    have hdone := nextBody_done hb
    refine ⟨?_, ?_, ?_, ?_, ?_, ?_⟩
    · rw [List.length_singleton]
      split <;> omega
    · intro t ht; rw [List.mem_singleton.mp ht]
    · intro t ht hsel; rw [List.mem_singleton.mp ht] at hsel; exact .inl hsel
    · intro t ht he
      rw [List.mem_singleton.mp ht] at he ⊢
      rcases hdone with ⟨-, hr⟩ | ⟨hnot, -⟩
      · exact hr
      · exact absurd he hnot
    · rintro out e rfl hout
      rcases hdone with ⟨he, -⟩ | ⟨-, handle, hr⟩
      · exact ⟨s, by simp, he⟩
      · cases hr; cases hout
    · intro pre t post heq _
      have hlen := congrArg List.length heq
      simp only [List.length_append, List.length_cons, List.length_nil] at hlen
      exact List.length_eq_zero_iff.mp (by omega)
  · intro s s' passes r hb ih
    obtain ⟨⟨req, hreq, -⟩, hnone, hconn⟩ := nextBody_again hb
    have hlen := ih.length_le
    rw [hnone] at hlen
    refine ⟨?_, ?_, ?_, ?_, ?_, ?_⟩
    · rw [hreq]
      simpa using hlen
    · intro t ht
      rcases List.mem_cons.mp ht with rfl | ht
      · rfl
      · rw [ih.settings t ht, hconn]
    · intro t _ _
      exact .inr (by rw [hreq]; rfl)
    · intro t ht he
      rcases List.mem_cons.mp ht with rfl | ht
      · exact absurd he (not_enters hreq)
      · exact ih.result t ht he
    · intro out e hr hout
      obtain ⟨t, ht, he⟩ := ih.failed out e hr hout
      exact ⟨t, by simp [ht], he⟩
    · intro pre t post heq he
      cases pre with
      | nil =>
        cases heq
        exact absurd he (not_enters hreq)
      | cons a pre =>
        rw [List.cons_append, List.cons.injEq] at heq
        exact ih.last pre t post heq.2 he

end

/-- **How often `next` goes round.** Whatever the settings, the connection, the request and
the answers, the outer loop makes at most two passes, and only the last of them can enter
the inner loop. That makes at most as many rounds as the settings allow, and one if they
allow none; it contacts at most one node for each round, and the one of the request; its
counter does not overflow. The limit is only reported after all the rounds. -/
theorem next_bounded (crates : Crates) (ans : Answers) (conn : NodeConnection)
    (request : Option NodeRequest) (hN : conn.settings.maxDiscoverAttempts < 2 ^ 64 - 1) :
    ((nextLoop crates ans).heads ⟨conn, request, none, none⟩).length ≤ 2 ∧
    (∀ pre s post, (nextLoop crates ans).heads ⟨conn, request, none, none⟩ = pre ++ s :: post →
      s.Enters → post = [] ∧
      next crates ans conn request = (discovery crates ans s.failedEndpoint).run s.entry ∧
      rounds ((discovery crates ans s.failedEndpoint).heads s.entry) ≤
        max 1 conn.settings.maxDiscoverAttempts ∧
      contacts ((discovery crates ans s.failedEndpoint).heads s.entry) ≤
        rounds ((discovery crates ans s.failedEndpoint).heads s.entry) +
          (if request.isSome then 1 else 0) ∧
      ∀ t ∈ (discovery crates ans s.failedEndpoint).heads s.entry, t.attempts + 1 < 2 ^ 64) ∧
    ∀ out n, next crates ans conn request = .ret out →
      out.result = .error (.maxDiscoveryAttemptReached n) →
      ∃ s ∈ (nextLoop crates ans).heads ⟨conn, request, none, none⟩, s.Enters ∧
        rounds ((discovery crates ans s.failedEndpoint).heads s.entry) =
          max 1 conn.settings.maxDiscoverAttempts := by
  have hp : Passes crates ans _ _ (next crates ans conn request) :=
    nextLoop_passes ⟨conn, request, none, none⟩
  have hinner : ∀ s ∈ (nextLoop crates ans).heads ⟨conn, request, none, none⟩,
      Bounded (max 1 conn.settings.maxDiscoverAttempts) s.entry
        ((discovery crates ans s.failedEndpoint).heads s.entry)
        ((discovery crates ans s.failedEndpoint).run s.entry) := by
    intro s hs
    have hset := hp.settings s hs
    refine discovery_bounded (by omega) s.entry ?_ ?_ ?_
    · rw [Outer.entry, hset]
    · exact Nat.le_refl 1
    · exact Nat.le_max_left 1 _
  refine ⟨?_, ?_, ?_⟩
  · have := hp.length_le
    split at this <;> omega
  · intro pre s post heq he
    have hs : s ∈ (nextLoop crates ans).heads ⟨conn, request, none, none⟩ := by rw [heq]; simp
    have hb := hinner s hs
    have hsel : (if s.entry.selectedNode.isSome then 1 else 0) ≤
        if request.isSome then 1 else 0 := by
      split
      · next h => rw [if_pos ((hp.selected s hs h).resolve_left (by simp))]
      · omega
    refine ⟨hp.last pre s post heq he, hp.result s hs he, hb.rounds_le, ?_, hb.no_overflow⟩
    exact hb.contacts_le.trans (Nat.add_le_add_left hsel _)
  · intro out n hout hres
    obtain ⟨s, hs, he⟩ := hp.failed out _ hout hres
    have hr := hp.result s hs he
    refine ⟨s, hs, he, ?_⟩
    rw [(hinner s hs).reported out n (hr ▸ hout) hres]
    simp [Outer.entry]

/-- A host that never answers in time. -/
def silentAnswers : Answers := { soloAnswers 1 with features := fun _ => .timeout }

theorem silent_host_bounded :
    ∃ s ∈ (nextLoop soloCrates silentAnswers).heads ⟨soloConnection, none, none, none⟩, s.Enters ∧
      rounds ((discovery soloCrates silentAnswers s.failedEndpoint).heads s.entry) = 3 :=
  (next_bounded soloCrates silentAnswers soloConnection none (by decide)).2.2 _ _ rfl rfl

/-! ## The last round -/

/-- What comes of contacting a node. -/
inductive Contact where
  | connects
  | refuses
  | timesOut
  deriving DecidableEq, Repr

def contact (crates : Crates) (ans : Answers) (settings : ClientSettings) (io : Io)
    (node : Endpoint) : Contact :=
  match settings.toHyperUri crates node with
  | .panic _ => .refuses
  | .ret _ =>
    match callServerFeatures crates ans io with
    | some (.ok _) => .connects
    | some (.error status) =>
      -- an old server does not know the endpoint
      if status.code = .notFound ∨ status.code = .unimplemented then .connects else .refuses
    | none => .timesOut

/-- The node that the first of `n` rounds to find one finds, if every node of the rounds
before it times out; the rounds are those of a call without a request. -/
def firstConnectable (crates : Crates) (ans : Answers) : Nat → NodeConnection → Io → Option Endpoint
  | 0, _, _ => none
  | n + 1, conn, io =>
    match discover crates ans none conn io with
    | .panic _ => none
    | .ret (none, conn, io) => firstConnectable crates ans n conn io
    | .ret (some node, conn, io) =>
      match contact crates ans conn.settings io node with
      | .connects => some node
      | .refuses => none
      | .timesOut => firstConnectable crates ans n conn { io with contacted := io.contacted + 1 }

/-- The call returns a handle on this node. -/
def ConnectsTo (r : Call Next) (e : Endpoint) : Prop :=
  ∃ out handle, r = .ret out ∧ out.result = .ok handle ∧ handle.endpoint = e

/-- The call connects to the first node the allowed rounds find, and reports the limit only
if they find none. -/
def UsesAllRounds (crates : Crates) (ans : Answers) (conn : NodeConnection) : Prop :=
  (∀ e, firstConnectable crates ans conn.settings.maxDiscoverAttempts conn {} = some e →
    ConnectsTo (next crates ans conn none) e) ∧
  ∀ out n, next crates ans conn none = .ret out →
    out.result = .error (.maxDiscoveryAttemptReached n) →
    firstConnectable crates ans conn.settings.maxDiscoverAttempts conn {} = none

section

variable {crates : Crates} {ans : Answers}

theorem not_connectsTo_panic (m : String) (e : Endpoint) : ¬ ConnectsTo (.panic m) e := by
  rintro ⟨out, handle, h, -⟩
  cases h

theorem not_connectsTo_error {conn : NodeConnection} {io : Io} {err : GrpcConnectionError}
    (e : Endpoint) : ¬ ConnectsTo (.ret ⟨conn, io, .error err⟩) e := by
  rintro ⟨out, handle, h, hr, -⟩
  cases h
  cases hr

theorem ConnectsTo.unique {r : Call Next} {e e' : Endpoint} (h : ConnectsTo r e)
    (h' : ConnectsTo r e') : e = e' := by
  obtain ⟨out, handle, rfl, hr, rfl⟩ := h
  obtain ⟨out', handle', hout, hr', rfl⟩ := h'
  cases hout
  rw [hr] at hr'
  cases hr'
  rfl

/-- The pass with a selected node, by what comes of contacting it. -/
theorem contactNode_contact (s : Discovery) (node : Endpoint) :
    match contact crates ans s.conn.settings s.io node with
    | .connects => ∃ out, contactNode crates ans s node = .done (.ret out) ∧
        ConnectsTo (.ret out) node
    | .refuses => ∃ r, contactNode crates ans s node = .done r ∧ ∀ e, ¬ ConnectsTo r e
    | .timesOut => contactNode crates ans s node =
        .again { s with io := { s.io with contacted := s.io.contacted + 1 }, selectedNode := none } := by
  unfold contact contactNode
  cases s.conn.settings.toHyperUri crates node with
  | panic m => exact ⟨_, rfl, not_connectsTo_panic m⟩
  | ret uri =>
    simp only
    cases callServerFeatures crates ans s.io with
    | none => rfl
    | some answer =>
      cases answer with
      | ok info => exact ⟨_, rfl, _, _, rfl, rfl, rfl⟩
      | error status =>
        simp only
        by_cases hc : status.code = .notFound ∨ status.code = .unimplemented
        · rw [if_pos hc, if_pos hc]
          exact ⟨_, rfl, _, _, rfl, rfl, rfl⟩
        · rw [if_neg hc, if_neg hc]
          exact ⟨_, rfl, not_connectsTo_error⟩

/-- The last round ends the loop, whatever it selects. -/
theorem discoveryRound_last {s : Discovery} (h : s.conn.settings.maxDiscoverAttempts ≤ s.attempts) :
    ∃ r, discoveryRound crates ans none s = .done r ∧ ∀ e, ¬ ConnectsTo r e := by
  unfold discoveryRound
  cases hd : discover crates ans none s.conn s.io with
  | panic m => exact ⟨_, rfl, not_connectsTo_panic m⟩
  | ret found =>
    obtain ⟨node, conn, io⟩ := found
    obtain ⟨previous, hconn, -⟩ := discover_conn hd
    have hmax : conn.settings = s.conn.settings := by rw [hconn]
    simp only
    by_cases hw : s.attempts + 1 = 2 ^ 64
    · rw [if_pos hw]
      exact ⟨_, rfl, not_connectsTo_panic _⟩
    · rw [if_neg hw, hmax, if_neg (by omega)]
      exact ⟨_, rfl, not_connectsTo_error⟩

/-- An earlier round goes on with what it selects. -/
theorem discoveryRound_earlier {s : Discovery} {node : Option Endpoint} {conn : NodeConnection}
    {io : Io} (hd : discover crates ans none s.conn s.io = .ret (node, conn, io))
    (h : s.attempts < s.conn.settings.maxDiscoverAttempts)
    (hw : s.conn.settings.maxDiscoverAttempts < 2 ^ 64) :
    discoveryRound crates ans none s = .again ⟨conn, io, s.attempts + 1, node⟩ := by
  obtain ⟨previous, hconn, -⟩ := discover_conn hd
  have hmax : conn.settings = s.conn.settings := by rw [hconn]
  unfold discoveryRound
  rw [hd]
  simp only [hmax]
  rw [if_neg (by omega), if_pos (by omega)]

/-- **The inner loop connects to what the rounds before the last one find.** -/
theorem discovery_connectsTo_iff {n : Nat} (hn : n < 2 ^ 64) (e : Endpoint) :
    ∀ (k : Nat) (conn : NodeConnection) (io : Io) (attempts : Nat),
      conn.settings.maxDiscoverAttempts = n → attempts + k = n →
      (ConnectsTo ((discovery crates ans none).run ⟨conn, io, attempts, none⟩) e ↔
        firstConnectable crates ans k conn io = some e) := by
  intro k
  induction k with
  | zero =>
    intro conn io attempts hmax hk
    obtain ⟨r, hr, hnot⟩ := @discoveryRound_last crates ans ⟨conn, io, attempts, none⟩
      (by simp only [hmax]; omega)
    have hb : (discovery crates ans none).body ⟨conn, io, attempts, none⟩ = .done r := hr
    rw [Loop.run_of_done hb]
    exact iff_of_false (hnot e) (by simp [firstConnectable])
  | succ k ih =>
    intro conn io attempts hmax hk
    cases hd : discover crates ans none conn io with
    | panic m =>
      have hb : (discovery crates ans none).body ⟨conn, io, attempts, none⟩ = .done (.panic m) := by
        show discoveryRound crates ans none _ = _
        unfold discoveryRound
        rw [hd]
      rw [Loop.run_of_done hb]
      exact iff_of_false (not_connectsTo_panic m e) (by simp [firstConnectable, hd])
    | ret found =>
      obtain ⟨node, conn', io'⟩ := found
      obtain ⟨previous, hconn, -⟩ := discover_conn hd
      have hmax' : conn'.settings.maxDiscoverAttempts = n := by rw [hconn]; exact hmax
      have hb : (discovery crates ans none).body ⟨conn, io, attempts, none⟩ =
          .again ⟨conn', io', attempts + 1, node⟩ :=
        discoveryRound_earlier hd (by simp only [hmax]; omega) (by rw [hmax]; exact hn)
      rw [Loop.run_of_again hb]
      cases node with
      | none =>
        rw [ih conn' io' (attempts + 1) hmax' (by omega)]
        simp only [firstConnectable, hd]
      | some node =>
        have hc := @contactNode_contact crates ans ⟨conn', io', attempts + 1, some node⟩ node
        cases hcontact : contact crates ans conn'.settings io' node with
        | connects =>
          simp only [hcontact] at hc
          obtain ⟨out, hout, hto⟩ := hc
          have hb : (discovery crates ans none).body ⟨conn', io', attempts + 1, some node⟩ =
              .done (.ret out) := hout
          rw [Loop.run_of_done hb]
          simp only [firstConnectable, hd, hcontact, Option.some.injEq]
          exact ⟨hto.unique, fun h => h ▸ hto⟩
        | refuses =>
          simp only [hcontact] at hc
          obtain ⟨r, hr, hnot⟩ := hc
          have hb : (discovery crates ans none).body ⟨conn', io', attempts + 1, some node⟩ =
              .done r := hr
          rw [Loop.run_of_done hb]
          exact iff_of_false (hnot e) (by simp [firstConnectable, hd, hcontact])
        | timesOut =>
          simp only [hcontact] at hc
          have hb : (discovery crates ans none).body ⟨conn', io', attempts + 1, some node⟩ =
              .again ⟨conn', { io' with contacted := io'.contacted + 1 }, attempts + 1, none⟩ := hc
          rw [Loop.run_of_again hb, ih conn' _ (attempts + 1) hmax' (by omega)]
          simp only [firstConnectable, hd, hcontact]

/-- More rounds find what fewer found. -/
theorem firstConnectable_succ {e : Endpoint} :
    ∀ {n : Nat} {conn : NodeConnection} {io : Io}, firstConnectable crates ans n conn io = some e →
      firstConnectable crates ans (n + 1) conn io = some e := by
  intro n
  induction n with
  | zero => intro conn io h; cases h
  | succ n ih =>
    intro conn io h
    unfold firstConnectable at h ⊢
    cases hd : discover crates ans none conn io with
    | panic m => rw [hd] at h; cases h
    | ret found =>
      obtain ⟨node, conn', io'⟩ := found
      rw [hd] at h
      cases node with
      | none => exact ih h
      | some node =>
        simp only at h ⊢
        cases hc : contact crates ans conn'.settings io' node with
        | connects => rw [hc] at h; exact h
        | refuses => rw [hc] at h; cases h
        | timesOut => rw [hc] at h; exact ih h

end

/-- **When `next` uses all its rounds**: exactly when the last of them finds nothing that
the earlier ones did not. The node of the last round is never contacted. -/
theorem uses_all_rounds_iff (crates : Crates) (ans : Answers) (conn : NodeConnection)
    (hhandle : conn.handle = none) (hN : 1 ≤ conn.settings.maxDiscoverAttempts)
    (hword : conn.settings.maxDiscoverAttempts < 2 ^ 64) :
    UsesAllRounds crates ans conn ↔
      firstConnectable crates ans conn.settings.maxDiscoverAttempts conn {} =
        firstConnectable crates ans (conn.settings.maxDiscoverAttempts - 1) conn {} := by
  have hnext : next crates ans conn none = (discovery crates ans none).run ⟨conn, {}, 1, none⟩ := by
    unfold next
    apply Loop.run_of_done
    show nextBody crates ans _ = _
    simp [nextBody, hhandle]
  have hto : ∀ e, ConnectsTo (next crates ans conn none) e ↔
      firstConnectable crates ans (conn.settings.maxDiscoverAttempts - 1) conn {} = some e := by
    intro e
    rw [hnext]
    exact discovery_connectsTo_iff hword e _ conn {} 1 rfl (by omega)
  obtain ⟨n, hn⟩ : ∃ n, conn.settings.maxDiscoverAttempts = n + 1 :=
    ⟨conn.settings.maxDiscoverAttempts - 1, by omega⟩
  unfold UsesAllRounds
  simp only [hn, Nat.add_sub_cancel] at hto ⊢
  constructor
  · rintro ⟨hfinds, -⟩
    cases hlast : firstConnectable crates ans (n + 1) conn {} with
    | some e => exact ((hto e).mp (hfinds e hlast)).symm
    | none =>
      cases hearlier : firstConnectable crates ans n conn {} with
      | none => rfl
      | some e => rw [firstConnectable_succ hearlier] at hlast; cases hlast
  · intro heq
    refine ⟨fun e he => (hto e).mpr (heq ▸ he), ?_⟩
    intro out k hout hres
    cases hlast : firstConnectable crates ans (n + 1) conn {} with
    | none => rfl
    | some e =>
      obtain ⟨out', handle, hout', hok, -⟩ := (hto e).mpr (heq ▸ hlast)
      rw [hout] at hout'
      cases hout'
      rw [hres] at hok
      cases hok

/-- A host that answers at once. -/
def promptAnswers : Answers :=
  { soloAnswers 1 with features := fun _ => .answer (.ok ⟨[], "24.2.0"⟩) }

theorem prompt_host_connected : UsesAllRounds soloCrates promptAnswers soloConnection :=
  (uses_all_rounds_iff soloCrates promptAnswers soloConnection rfl (by decide) (by decide)).mpr
    (by decide +kernel)

/-- With one attempt allowed the host is found and never asked. -/
theorem one_attempt_never_connects :
    ¬ UsesAllRounds soloCrates promptAnswers
      { soloConnection with settings := { soloSettings with maxDiscoverAttempts := 1 } } := by
  intro h
  have hfound := h.2 _ _ rfl rfl
  revert hfound
  decide +kernel

end NodeConnection

end Kurrent
