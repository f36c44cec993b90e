import Kurrent.Grpc.StateMachine

/-!
# Reports, redirects and failover

What clients can rely on when they report a connection to the task. `Past ids c` says that
the current connection is none of `ids`; once it holds it holds for the rest of the run,
because every later connection has a new id. A redirect (`CreateChannel(i, Some(e))`) puts
the run past `i`. A report without an endpoint does not: with a handle at hand, `next`
returns it.
-/

namespace Kurrent

open Lib

/-- There is a connection and it is none of those the ids stand for. -/
structure Past (ids : List Uuid) (c : Conf) : Prop where
  seen : ids ⊆ c.seen
  current : c.task.connection.id ∉ ids
  connected : c.task.connection.handle ≠ none

/-- The two copies of the handle are both absent or agree, under the connection's id. -/
def CachesAgree (t : Task) : Prop :=
  (t.handleOpt = none ∧ t.connection.handle = none) ∨
  ∃ h k, t.handleOpt = some h ∧ t.connection.handle = some k ∧
    h.id = k.id ∧ h.endpoint = k.endpoint ∧ h.uri = k.uri ∧ t.connection.id = h.id

/-- A report about connection `i`, with or without an endpoint. -/
def Msg.reports (i : Uuid) : Msg → Bool
  | .getChannel _ => false
  | .createChannel id _ => id = i

/-- How many of the messages reporting `i` made the task establish a connection. -/
def established (crates : Crates) (i : Uuid) : Conf → List (Msg × Answers) → Nat
  | _, [] => 0
  | c, input :: rest =>
    match c.step crates input with
    | none => 0
    | some c' =>
      (if input.1.reports i ∧ c'.task.connection.id ≠ c.task.connection.id then 1 else 0) +
        established crates i c' rest

section

variable {crates : Crates} {ans : Answers} {c c' : Conf} {m : Msg} {ids : List Uuid}

theorem Synced.cachesAgree {t : Task} (hs : Synced t) : CachesAgree t := by
  cases hh : t.connection.handle with
  | none => exact .inl ⟨hs.handle_none.mp hh, hh⟩
  | some k =>
    refine .inr ⟨Handle.ofInfo k, k, by rw [hs.handles, hh]; rfl, hh, rfl, rfl, rfl, ?_⟩
    exact hs.id k hh

/-- The task's handle carries the connection's id. -/
theorem Synced.current {t : Task} {h : Handle} (hs : Synced t) (hh : t.handleOpt = some h) :
    t.connection.handle ≠ none ∧ h.id = t.connection.id := by
  rw [hs.handles, Option.map_eq_some_iff] at hh
  obtain ⟨k, hk, rfl⟩ := hh
  exact ⟨by simp [hk], (hs.id k hk).symm⟩

/-- A message is about the current connection only if it redirects it. -/
theorem not_reconnects {t : Task} (hh : t.connection.handle ≠ none)
    (hm : ∀ e, m ≠ .createChannel t.connection.id (some e)) : ¬ Reconnects t m := by
  rintro (hn | ⟨r, hreq, hid⟩)
  · exact hh hn
  · exact hm r.endpoint (by rw [hid]; exact request_id hreq)

/-- A new connection is past everything seen before it. -/
theorem reconnect_past (hc : ConfInv c) (hr : Reconnects c.task m)
    (h : c.step crates (m, ans) = some c') : Past (m.ids ++ c.seen) c' := by
  rcases step_cases hc h with ⟨hnr, -⟩ | ⟨-, hfresh, info, -, ht⟩
  · exact absurd hr hnr
  · refine ⟨seen_step h, ?_, ?_⟩ <;> rw [ht]
    · exact hfresh
    · exact nofun

theorem Past.mono {ids' : List Uuid} (h : Past ids c) (hs : ids' ⊆ ids) : Past ids' c :=
  ⟨fun _ hx => h.seen (hs hx), fun hx => h.current (hs hx), h.connected⟩

theorem Past.step (hc : ConfInv c) (hp : Past ids c) (h : c.step crates (m, ans) = some c') :
    Past ids c' := by
  have hsub : ids ⊆ m.ids ++ c.seen := fun x hx => List.mem_append_right _ (hp.seen hx)
  by_cases hr : Reconnects c.task m
  · exact (reconnect_past hc hr h).mono hsub
  · obtain ⟨-, ht⟩ := (step_cases hc h).resolve_right fun hx => hr hx.1
    refine ⟨fun x hx => seen_step h (hsub hx), ?_, ?_⟩ <;> rw [ht]
    · exact hp.current
    · exact hp.connected

theorem Past.exec {ins : List (Msg × Answers)} (hc : ConfInv c) (hp : Past ids c)
    (h : exec (Conf.step crates) c ins = some c') : Past ids c' :=
  (exec_inv (P := fun c => ConfInv c ∧ Past ids c)
    (fun _ ⟨_, _⟩ _ hs hst => ⟨step_inv hs.1 hst, Past.step hs.1 hs.2 hst⟩) ⟨hc, hp⟩ h).2

/-- The answer to a request for a channel is the current handle. -/
theorem reply_current {resp : Nat} (hc : ConfInv c) (hh : c.task.connection.handle ≠ none) :
    ∃ h, (c.task.onMsg crates ans (.getChannel resp)).reply = some (.ok h) ∧
      c.task.handleOpt = some h ∧ h.id = c.task.connection.id := by
  obtain ⟨k, hk, -, hrep⟩ :=
    @onMsg_keeps crates ans c.task (.getChannel resp) hc.synced (not_reconnects hh (by simp))
  refine ⟨Handle.ofInfo k, hrep resp rfl, ?_, (hc.synced.id k hk).symm⟩
  rw [hc.synced.handles, hk]; rfl

theorem Past.reply {resp : Nat} {h : Handle} (hc : ConfInv c) (hp : Past ids c)
    (hrep : (c.task.onMsg crates ans (.getChannel resp)).reply = some (.ok h)) : h.id ∉ ids := by
  obtain ⟨k, hk, -, hid⟩ := @reply_current crates ans c resp hc hp.connected
  rw [hrep] at hk
  cases hk
  rw [hid]
  exact hp.current

/-- After a redirect of `i` the run is past `i`, whether it was about the current connection
or not. -/
theorem redirect_past {i : Uuid} {e : Endpoint} (hc : ConfInv c)
    (h : c.step crates (.createChannel i (some e), ans) = some c') : Past [i] c' := by
  by_cases hr : Reconnects c.task (.createChannel i (some e))
  · exact (reconnect_past hc hr h).mono (by simp [Msg.ids])
  · obtain ⟨-, ht⟩ := (step_cases hc h).resolve_right fun hx => hr hx.1
    refine ⟨fun x hx => seen_step h (by simp_all [Msg.ids]), ?_, ?_⟩ <;> rw [ht]
    · intro hi
      exact hr (.inr ⟨⟨i, e⟩, rfl, List.mem_singleton.mp hi⟩)
    · exact fun hn => hr (.inl hn)

/-- Past `i`, reports of `i` establish nothing. -/
theorem established_past {i : Uuid} {ins : List (Msg × Answers)} (hc : ConfInv c)
    (hp : Past [i] c) : established crates i c ins = 0 := by
  induction ins generalizing c with
  | nil => rfl
  | cons input ins ih =>
    obtain ⟨m, ans⟩ := input
    unfold established
    split
    · rfl
    · next c' hst =>
      rw [ih (step_inv hc hst) (hp.step hc hst), if_neg]
      rintro ⟨hrep, hne⟩
      rcases step_cases hc hst with ⟨-, ht⟩ | ⟨hr, -, -⟩
      · exact hne (by rw [ht])
      · refine not_reconnects hp.connected (fun e he => hp.current ?_) hr
        rw [he] at hrep
        simpa [Msg.reports] using hrep

theorem established_le_one {i : Uuid} {ins : List (Msg × Answers)} (hc : ConfInv c) :
    established crates i c ins ≤ 1 := by
  induction ins generalizing c with
  | nil => exact Nat.zero_le _
  | cons input ins ih =>
    obtain ⟨m, ans⟩ := input
    unfold established
    split
    · exact Nat.zero_le _
    · next c' hst =>
      split
      · next hest =>
        have hr : Reconnects c.task m := by
          rcases step_cases hc hst with ⟨-, ht⟩ | ⟨hr, -, -⟩
          · exact absurd (by rw [ht]) hest.2
          · exact hr
        have hi : i ∈ m.ids := by
          cases m with
          | getChannel resp => exact absurd hest.1 (by simp [Msg.reports])
          | createChannel id seed =>
            have : id = i := by simpa [Msg.reports] using hest.1
            simp [Msg.ids, this]
        have hp : Past [i] c' := (reconnect_past hc hr hst).mono (by simp [hi])
        rw [established_past (step_inv hc hst) hp]
      · rw [Nat.zero_add]
        exact ih (step_inv hc hst)

/-- **The caches of the connection task.** At the head of the loop they agree. A report of
another connection changes nothing; reports of one connection establish at most one; and
after a redirect of `i` no answer carries the id `i`. -/
theorem caches_agree_and_reports_idempotent {settings : ClientSettings} {conn : NodeConnection}
    {ins : List (Msg × Answers)} (hnew : NodeConnection.new settings = .ret conn)
    (hrun : exec (Conf.step crates) (Conf.init conn) ins = some c) :
    CachesAgree c.task ∧
    (∀ h i seed ans, c.task.handleOpt = some h → i ≠ h.id →
      (c.task.onMsg crates ans (.createChannel i seed)).task = some c.task) ∧
    (∀ i, established crates i (Conf.init conn) ins ≤ 1) ∧
    (∀ i e ans ins' c' resp ans' h,
      exec (Conf.step crates) c ((.createChannel i (some e), ans) :: ins') = some c' →
      (c'.task.onMsg crates ans' (.getChannel resp)).reply = some (.ok h) → h.id ≠ i) := by
  have hc := exec_confInv (init_inv hnew) hrun
  refine ⟨hc.synced.cachesAgree, ?_, fun i => established_le_one (init_inv hnew), ?_⟩
  · intro h i seed ans hopt hne
    obtain ⟨hh, hid⟩ := hc.synced.current hopt
    have hr : ¬ Reconnects c.task (.createChannel i seed) := by
      refine not_reconnects hh fun e he => hne ?_
      cases he
      exact hid.symm
    obtain ⟨-, -, ht, -⟩ := @onMsg_keeps crates ans c.task _ hc.synced hr
    exact ht
  · intro i e ans ins' c' resp ans' h hrest hrep
    obtain ⟨c₁, hst, hrest⟩ := exec_cons.mp hrest
    have hp := (redirect_past hc hst).exec (step_inv hc hst) hrest
    have hid := hp.reply (exec_confInv (step_inv hc hst) hrest) hrep
    simpa using hid

/-- A single node without TLS. -/
def soloSettings : ClientSettings := { hosts := [⟨"localhost", 2113⟩], secure := false }

def soloConnection : NodeConnection := ⟨Uuid.nil, none, soloSettings, none, none⟩

/-- Every text is a URI; no metadata is refused. -/
def soloCrates : Crates where
  hyperUri text := some ⟨text⟩
  parseUuid _ := none
  metadataValue _ := true
  base64 _ := ""
  utf8Lossy _ := ""
  statusText _ message := message

/-- A node that does not know the server-features endpoint, and the next new id. -/
def soloAnswers (id : Uuid) : Answers where
  gossip _ := .timeout
  features _ := .answer (.error ⟨.unimplemented, "", [], ""⟩)
  random _ := 0
  draws _ _ := 0
  newId := id

/-- The handle on the node at this port. -/
def soloInfo (id : Uuid) (port : Nat) : HandleInfo :=
  ⟨id, ⟨soloSettings.uriText ⟨"localhost", port⟩⟩, ⟨"localhost", port⟩, false, {}⟩

/-- The task connected to the node at this port. -/
def soloConf (id : Uuid) (port : Nat) (seen : List Uuid) : Conf :=
  ⟨⟨{ soloConnection with id := id, handle := some (soloInfo id port) },
    some (Handle.ofInfo (soloInfo id port))⟩, seen⟩

theorem caches_agree_solo :
    CachesAgree (soloConf 1 2113 [1, Uuid.nil]).task ∧
      established soloCrates 7 (Conf.init soloConnection) [(.getChannel 0, soloAnswers 1)] ≤ 1 :=
  have h := @caches_agree_and_reports_idempotent soloCrates (soloConf 1 2113 [1, Uuid.nil])
    soloSettings soloConnection [(.getChannel 0, soloAnswers 1)] rfl rfl
  ⟨h.1, h.2.2.1 7⟩

/-! ## Reports without an endpoint -/

/-- Without a redirect of the current connection the task stays as it is. -/
theorem exec_keeps {ins : List (Msg × Answers)} (hc : ConfInv c)
    (hh : c.task.connection.handle ≠ none)
    (hm : ∀ input ∈ ins, ∀ e, input.1 ≠ .createChannel c.task.connection.id (some e))
    (h : exec (Conf.step crates) c ins = some c') : c'.task = c.task := by
  induction ins generalizing c with
  | nil => cases h; rfl
  | cons input ins ih =>
    obtain ⟨m, ans⟩ := input
    obtain ⟨c₁, hst, hrest⟩ := exec_cons.mp h
    have hr := not_reconnects hh (hm (m, ans) List.mem_cons_self)
    obtain ⟨-, ht⟩ := (step_cases hc hst).resolve_right fun hx => hr hx.1
    rw [← ht]
    refine ih (step_inv hc hst) (by rwa [ht]) ?_ hrest
    rw [ht]
    exact fun input hi => hm input (List.mem_cons_of_mem _ hi)

/-- The first redirect of the current connection, and the run before it. -/
theorem exec_first_redirect {ins : List (Msg × Answers)} {e : Endpoint} {a : Answers}
    (hc : ConfInv c) (hh : c.task.connection.handle ≠ none)
    (hm : (.createChannel c.task.connection.id (some e), a) ∈ ins)
    (h : exec (Conf.step crates) c ins = some c') : Past c.seen c' := by
  induction ins generalizing c with
  | nil => cases hm
  | cons input ins ih =>
    obtain ⟨m, ans⟩ := input
    obtain ⟨c₁, hst, hrest⟩ := exec_cons.mp h
    have hc₁ := step_inv hc hst
    by_cases hr : Reconnects c.task m
    · exact ((reconnect_past hc hr hst).mono (List.subset_append_right _ _)).exec hc₁ hrest
    · obtain ⟨-, ht⟩ := (step_cases hc hst).resolve_right fun hx => hr hx.1
      have hne : (m, ans) ≠ (.createChannel c.task.connection.id (some e), a) := by
        intro he
        cases he
        exact hr (.inr ⟨⟨c.task.connection.id, e⟩, rfl, rfl⟩)
      have hm₁ : (.createChannel c₁.task.connection.id (some e), a) ∈ ins := by
        rw [ht]
        exact (List.mem_cons.mp hm).resolve_left hne.symm
      have hp := ih hc₁ (by rwa [ht]) hm₁ hrest
      exact hp.mono fun x hx => seen_step hst (List.mem_append_right _ hx)

/-- The run has left connection `i` behind: the current handle is one made since `seen`, and
no request for a channel is answered with `i`. -/
def LeftBehind (crates : Crates) (seen : List Uuid) (i : Uuid) (c : Conf) : Prop :=
  (∃ h, c.task.handleOpt = some h ∧ h.id ∉ seen) ∧
  ∀ resp ans h, (c.task.onMsg crates ans (.getChannel resp)).reply = some (.ok h) → h.id ≠ i

/-- **Failover after a server error.** The report that `handle_error` sends leaves connection
`h.id` behind, in a state the task reaches after it, exactly when a redirect of `h.id` was
handled in between. -/
theorem server_error_fails_over_iff {settings : ClientSettings} {conn : NodeConnection}
    {ins later : List (Msg × Answers)} {h : Handle} {message : String} {report : Msg} {a : Answers}
    (hnew : NodeConnection.new settings = .ret conn)
    (hrun : exec (Conf.step crates) (Conf.init conn) ins = some c)
    (hcur : c.task.handleOpt = some h)
    (hrep : handleError h.id (.serverError message) = some report)
    (hlater : exec (Conf.step crates) c ((report, a) :: later) = some c') :
    LeftBehind crates c.seen h.id c' ↔ ∃ e b, (.createChannel h.id (some e), b) ∈ later := by
  have hc := exec_confInv (init_inv hnew) hrun
  have hc' := exec_confInv hc hlater
  obtain ⟨hh, hid⟩ := hc.synced.current hcur
  cases hrep
  constructor
  · rintro ⟨-, hleft⟩
    by_contra hno
    have hkeep : c'.task = c.task := by
      refine exec_keeps hc hh ?_ hlater
      rintro ⟨m, b⟩ hi e rfl
      rcases List.mem_cons.mp hi with hi | hi
      · exact absurd hi (by simp)
      · exact hno ⟨e, b, by rwa [hid]⟩
    obtain ⟨k, hk, hopt, -⟩ := @reply_current crates a c' 0 hc' (by rwa [hkeep])
    rw [hkeep, hcur] at hopt
    cases hopt
    exact hleft 0 a h hk rfl
  · rintro ⟨e, b, hi⟩
    rw [hid] at hi
    have hp := exec_first_redirect hc hh (List.mem_cons_of_mem _ hi) hlater
    obtain ⟨k, -, hopt, hkid⟩ := @reply_current crates a c' 0 hc' hp.connected
    refine ⟨⟨k, hopt, by rw [hkid]; exact hp.current⟩, fun resp ans h' hr' => ?_⟩
    have hmem : h.id ∈ c.seen := by rw [hid]; exact hc.seen
    exact fun he => hp.reply hc' hr' (he ▸ hmem)

/-- After a redirect to the node at port 2114 the first connection is left behind. -/
theorem server_error_fails_over_solo :
    LeftBehind soloCrates [1, Uuid.nil] 1 (soloConf 3 2114 [3, 1, 1, 1, 1, Uuid.nil]) :=
  (@server_error_fails_over_iff soloCrates (soloConf 1 2113 [1, Uuid.nil])
    (soloConf 3 2114 [3, 1, 1, 1, 1, Uuid.nil]) soloSettings soloConnection
    [(.getChannel 0, soloAnswers 1)]
    [(.createChannel 1 (some ⟨"localhost", 2114⟩), soloAnswers 3)]
    (Handle.ofInfo (soloInfo 1 2113)) "unavailable" (.createChannel 1 none) (soloAnswers 2)
    rfl rfl rfl rfl rfl).mpr ⟨_, _, List.mem_singleton_self _⟩

/-- The report alone changes nothing: the next request for a channel gets the failed handle. -/
theorem server_error_report_keeps_handle :
    ∃ h c c', NodeConnection.new soloSettings = .ret soloConnection ∧
      exec (Conf.step soloCrates) (Conf.init soloConnection) [(.getChannel 0, soloAnswers 1)] =
        some c ∧
      c.task.handleOpt = some h ∧
      handleError h.id (.serverError "unavailable") = some (.createChannel h.id none) ∧
      exec (Conf.step soloCrates) c [(.createChannel h.id none, soloAnswers 2)] = some c' ∧
      (c'.task.onMsg soloCrates (soloAnswers 3) (.getChannel 1)).reply = some (.ok h) :=
  ⟨Handle.ofInfo (soloInfo 1 2113), soloConf 1 2113 [1, Uuid.nil],
    soloConf 1 2113 [1, 1, 1, Uuid.nil], rfl, rfl, rfl, rfl, rfl, rfl⟩

end

end Kurrent
