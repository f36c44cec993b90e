import Kurrent.Lib.Run
import Kurrent.Grpc.Failover
import Kurrent.Streams.Subscription

/-!
# One call of a subscription

A call of `next_subscription_event` as a run over the answers to its awaits, in whatever
order they come: `resume` is what the call does with the next one. `Resumed` says once what
that can be, and the results on the retry budget follow from it. For the question whether
the loop goes round on a finished stream the answers are a script, and a stream that has
completed answers at once, without one.
-/

namespace Kurrent

open Lib

/-- The answer to an await of the call. -/
inductive AwaitReply where
  | item (r : Except Status (Option ReadResp))
  | node (r : Except Error Handle)
  | read (r : Except Status (Reader Key))
  | woke

/-- How far a call has come. -/
inductive Progress where
  | awaiting (sub : Subscription) (pc : Pc)
  | returned (sub : Subscription) (r : Except Error SubscriptionEvent)
  | panicked (sub : Subscription) (message : String)

/-- The subscription as the caller has it when the call is over or dropped. -/
def Progress.sub : Progress → Subscription
  | .awaiting sub _ => sub
  | .returned sub _ => sub
  | .panicked sub _ => sub

namespace Subscription

/-- The call from the head of the loop to its next await. -/
def goRound (sub : Subscription) : Progress := .awaiting sub.head.1 sub.head.2

def proceed (o : Outcome) : Progress :=
  match o.turn with
  | .again => o.sub.goRound
  | .sleep => .awaiting o.sub .sleeping
  | .ret r => .returned o.sub r
  | .panic m => .panicked o.sub m

def resume (crates : Crates) : Progress → AwaitReply → Option Progress
  | .awaiting sub (.receiving stream), .item r => some (proceed (sub.onItem crates stream r))
  | .awaiting sub .selecting, .node (.ok h) =>
    some (.awaiting { sub with channelId := h.id } (.reading none))
  | .awaiting sub .selecting, .node (.error e) => some (.returned sub (.error e))
  | .awaiting sub (.reading _), .read r => some (proceed (sub.onRead r))
  | .awaiting sub .sleeping, .woke => some sub.goRound
  | _, _ => none

/-- The subscriptions a caller may hold: a new one, and what any call leaves, whether it has
returned, has panicked or was dropped at one of its awaits. -/
inductive Held (crates : Crates) (retry : Option RetryOptions) (options : ReadOptions) :
    Subscription → Prop where
  | new : Held crates retry options (Subscription.new retry options)
  | call {sub : Subscription} {rs : List AwaitReply} {p : Progress} :
    Held crates retry options sub → exec (resume crates) sub.goRound rs = some p →
      Held crates retry options p.sub

/-! ## What an answer can do -/

/-- The call after an answer, one case for each thing it can do. -/
inductive Resumed (crates : Crates) : Progress → AwaitReply → Progress → Prop where
  /-- the stream has answered, with nothing this client knows or with its end -/
  | unknown {sub stream resp} :
    Resumed crates (.awaiting sub (.receiving stream)) (.item (.ok resp))
      (goRound { sub with stream := some stream })
  /-- the call hands a message out, or panics over it -/
  | message {sub stream resp p} (attempts : p.sub.attempts = sub.attempts)
    (limit : p.sub.limit = sub.limit) (ended : ∀ sub' pc, p ≠ .awaiting sub' pc)
    (ok : ∀ sub' e, p ≠ .returned sub' (.error e)) :
    Resumed crates (.awaiting sub (.receiving stream)) (.item (.ok resp)) p
  /-- the stream has dropped -/
  | dropped {sub stream status p} (denied : (Error.fromGrpc status).isAccessDenied = true →
      p = .returned { sub with attempts := 1 } (.error (Error.fromGrpc status)))
    (h : p = .returned { sub with attempts := 1 } (.error (Error.fromGrpc status)) ∨
      p = goRound { sub with attempts := 1 }) :
    Resumed crates (.awaiting sub (.receiving stream)) (.item (.error status)) p
  | selected {sub} {h : Handle} : Resumed crates (.awaiting sub .selecting) (.node (.ok h))
      (.awaiting { sub with channelId := h.id } (.reading none))
  | unselected {sub e} : Resumed crates (.awaiting sub .selecting) (.node (.error e))
      (.returned sub (.error e))
  | opened {sub o stream} : Resumed crates (.awaiting sub (.reading o)) (.read (.ok stream))
      (goRound { sub with stream := some stream })
  | retries {sub o status} (denied : (Error.fromGrpc status).isAccessDenied = false)
    (h : sub.attempts < sub.limit) :
    Resumed crates (.awaiting sub (.reading o)) (.read (.error status))
      (.awaiting { sub with attempts := sub.attempts + 1 } .sleeping)
  | givesUp {sub o status}
    (h : (Error.fromGrpc status).isAccessDenied = true ∨ sub.limit ≤ sub.attempts) :
    Resumed crates (.awaiting sub (.reading o)) (.read (.error status))
      (.returned sub (.error (Error.fromGrpc status)))
  | wakes {sub} : Resumed crates (.awaiting sub .sleeping) .woke sub.goRound

section

variable {crates : Crates}

theorem onContent_counters {sub sub' : Subscription} {c : Content} {ev : SubscriptionEvent}
    (h : sub.onContent crates c = .ret (sub', ev)) :
    sub'.attempts = sub.attempts ∧ sub'.limit = sub.limit := by
  cases c with
  | event e =>
    obtain ⟨event, -, h⟩ := Call.bind_eq_ret h
    obtain ⟨original, -, h⟩ := Call.bind_eq_ret h
    cases h
    exact ⟨rfl, rfl⟩
  | streamNotFound => cases h
  | confirmation | checkpoint | firstStreamPosition | lastStreamPosition | lastAllStreamPosition
  | caughtUp | fellBehind => cases h; exact ⟨rfl, rfl⟩

theorem resumed_item {sub : Subscription} {stream : Reader Key}
    (r : Except Status (Option ReadResp)) :
    Resumed crates (.awaiting sub (.receiving stream)) (.item r)
      (proceed (sub.onItem crates stream r)) := by
  cases r with
  | error status =>
    unfold onItem proceed
    simp only
    refine .dropped (fun hd => ?_) ?_
    · rw [hd]; rfl
    · cases (Error.fromGrpc status).isAccessDenied || !sub.retryEnabled with
      | true => exact .inl rfl
      | false => exact .inr rfl
  | ok resp =>
    unfold onItem
    simp only
    cases resp.bind ReadResp.content with
    | none => exact .unknown
    | some content =>
      simp only
      cases hc : ({ sub with stream := some stream } : Subscription).onContent crates content with
      | panic m => exact .message rfl rfl (by simp [proceed]) (by simp [proceed])
      | ret out =>
        obtain ⟨sub', ev⟩ := out
        obtain ⟨ha, hl⟩ := onContent_counters hc
        exact .message ha hl (by simp [proceed]) (by simp [proceed])

theorem resumed_read {sub : Subscription} {o : Option (Reader Key)}
    (r : Except Status (Reader Key)) :
    Resumed crates (.awaiting sub (.reading o)) (.read r) (proceed (sub.onRead r)) := by
  cases r with
  | ok stream => exact .opened
  | error status =>
    unfold onRead
    simp only
    by_cases h : (!(Error.fromGrpc status).isAccessDenied && decide (sub.attempts < sub.limit)) = true
    · rw [if_pos h]
      simp only [Bool.and_eq_true, Bool.not_eq_true', decide_eq_true_eq] at h
      exact .retries h.1 h.2
    · rw [if_neg h]
      refine .givesUp ?_
      cases hd : (Error.fromGrpc status).isAccessDenied with
      | true => exact .inl rfl
      | false => exact .inr (by simpa [hd] using h)

/-- **Every answer does one of these.** -/
theorem resumed {p p' : Progress} {r : AwaitReply} (h : resume crates p r = some p') :
    Resumed crates p r p' := by
  cases p with
  | returned sub res => cases h
  | panicked sub m => cases h
  | awaiting sub pc =>
    cases pc with
    | idle => cases h
    | panicked m => cases h
    | receiving stream =>
      cases r with
      | item r => cases h; exact resumed_item r
      | node | read | woke => cases h
    | selecting =>
      cases r with
      | node r =>
        cases r with
        | ok handle => cases h; exact .selected
        | error e => cases h; exact .unselected
      | item | read | woke => cases h
    | reading o =>
      cases r with
      | read r => cases h; exact resumed_read r
      | item | node | woke => cases h
    | sleeping =>
      cases r with
      | woke => cases h; exact .wakes
      | item | node | read => cases h

end

/-! ## The retry budget -/

/-- The read calls in a row that may fail. -/
def budget : Option RetryOptions → Nat
  | some retry => max retry.limit 1
  | none => 1

/-- The counters are those of the retry options, and the attempts within the budget. -/
structure InBudget (retry : Option RetryOptions) (sub : Subscription) : Prop where
  pos : 1 ≤ sub.attempts
  le : sub.attempts ≤ budget retry
  limit : sub.limit ≤ budget retry

/-- The failed reads since the last one that succeeded, after one more answer. -/
def failing (n : Nat) : AwaitReply → Nat
  | .read (.error _) => n + 1
  | .read (.ok _) => 0
  | _ => n

/-- What holds of a call in which `n` reads in a row have failed. -/
inductive Within (retry : Option RetryOptions) (n : Nat) : Progress → Prop where
  | awaiting {sub pc} (h : InBudget retry sub) (hstream : sub.stream = none)
    (hn : n < sub.attempts) (hrec : ∀ s, pc = .receiving s → n = 0) :
    Within retry n (.awaiting sub pc)
  | ended {p} (h : InBudget retry p.sub) (hn : n ≤ budget retry)
    (hover : ∀ sub pc, p ≠ .awaiting sub pc) : Within retry n p

section

variable {crates : Crates} {retry : Option RetryOptions} {options : ReadOptions}
  {sub : Subscription} {n : Nat} {p p' : Progress} {r : AwaitReply} {rs : List AwaitReply}

theorem inBudget_new : InBudget retry (Subscription.new retry options) := by
  cases retry with
  | none => exact ⟨Nat.le_refl 1, Nat.le_refl 1, Nat.le_refl 1⟩
  | some o => exact ⟨Nat.le_refl 1, Nat.le_max_right _ 1, Nat.le_max_left _ 1⟩

theorem Within.inBudget (h : Within retry n p) : InBudget retry p.sub := by
  cases h with
  | awaiting h => exact h
  | ended h => exact h

theorem Within.le (h : Within retry n p) : n ≤ budget retry := by
  cases h with
  | awaiting h _ hn _ =>
    have := h.le
    omega
  | ended _ hn => exact hn

/-- The head of the loop takes the stream out; with a stream no read has failed since. -/
theorem within_goRound (h : InBudget retry sub) (hn : n < sub.attempts)
    (hstream : sub.stream ≠ none → n = 0) : Within retry n sub.goRound := by
  unfold goRound head
  cases hs : sub.stream with
  | none =>
    refine .awaiting h hs hn fun s hpc => ?_
    cases hpc
  | some stream =>
    have h0 : n = 0 := hstream (by rw [hs]; simp)
    exact .awaiting ⟨h.pos, h.le, h.limit⟩ rfl hn fun _ _ => h0

/-- **An answer keeps the call within the budget.** -/
theorem within_resume (h : Within retry n p) (hr : resume crates p r = some p') :
    Within retry (failing n r) p' := by
  have hs := resumed hr
  cases h with
  | ended h hn hover =>
    cases p with
    | awaiting sub pc => exact absurd rfl (hover sub pc)
    | returned | panicked => cases hr
  | @awaiting sub pc h hstream hn hrec =>
    cases hs with
    | @unknown _ stream =>
      exact within_goRound ⟨h.pos, h.le, h.limit⟩ hn fun _ => hrec stream rfl
    | message ha hl hover =>
      exact .ended ⟨by rw [ha]; exact h.pos, by rw [ha]; exact h.le, by rw [hl]; exact h.limit⟩
        (by have := h.le; show n ≤ _; omega) hover
    | @dropped _ stream _ _ _ hp =>
      have h0 := hrec stream rfl
      have hone : InBudget retry { sub with attempts := 1 } :=
        ⟨Nat.le_refl 1, h.pos.trans h.le, h.limit⟩
      rcases hp with rfl | rfl
      · refine .ended hone ?_ (by simp)
        show n ≤ _
        omega
      · refine within_goRound hone ?_ fun hne => absurd hstream hne
        show n < 1
        omega
    | selected =>
      exact .awaiting ⟨h.pos, h.le, h.limit⟩ hstream hn fun s hpc => by cases hpc
    | unselected =>
      refine .ended h ?_ (by simp)
      have := h.le
      show n ≤ _
      omega
    | opened => exact within_goRound ⟨h.pos, h.le, h.limit⟩ h.pos fun _ => rfl
    | retries _ hlt =>
      have hl := h.limit
      exact .awaiting ⟨by show 1 ≤ sub.attempts + 1; omega, by show sub.attempts + 1 ≤ _; omega, hl⟩
        hstream (Nat.succ_lt_succ hn) fun s hpc => by cases hpc
    | givesUp =>
      refine .ended h ?_ (by simp)
      have := h.le
      show n + 1 ≤ _
      omega
    | wakes => exact within_goRound h hn fun hne => absurd hstream hne

theorem within_exec (h : Within retry n p) (hrun : exec (resume crates) p rs = some p') :
    Within retry (rs.foldl failing n) p' := by
  induction rs generalizing n p with
  | nil => cases hrun; exact h
  | cons r rs ih =>
    obtain ⟨q, hq, hrun⟩ := exec_cons.mp hrun
    exact ih (within_resume h hq) hrun

theorem Held.inBudget (h : Held crates retry options sub) : InBudget retry sub := by
  induction h with
  | new => exact inBudget_new
  | call _ hrun ih => exact (within_exec (within_goRound ih ih.pos fun _ => rfl) hrun).inBudget

end

def failedRead : AwaitReply → Bool
  | .read (.error _) => true
  | _ => false

/-- Access is denied, by the stream, by the read or by the choice of a node. -/
def Denies : AwaitReply → Prop
  | .item (.error status) | .read (.error status) =>
    (Error.fromGrpc status).isAccessDenied = true
  | .node (.error e) => e.isAccessDenied = true
  | _ => False

section

variable {crates : Crates} {p p' : Progress} {r : AwaitReply} {rs : List AwaitReply}

/-- Without a read that succeeds, the failed ones add up. -/
theorem foldl_failing {n : Nat} (h : ∀ s, AwaitReply.read (.ok s) ∉ rs) :
    rs.foldl failing n = n + rs.countP failedRead := by
  induction rs generalizing n with
  | nil => rfl
  | cons r rs ih =>
    have hrest : ∀ s, AwaitReply.read (.ok s) ∉ rs := fun s hs => h s (by simp [hs])
    rw [List.foldl_cons, ih hrest, List.countP_cons]
    cases r with
    | read res =>
      cases res with
      | ok s => exact absurd List.mem_cons_self (h s)
      | error status => simp only [failing, failedRead, if_true]; omega
    | item | node | woke => rfl

theorem exec_over (h : ∀ sub pc, p ≠ .awaiting sub pc)
    (hrun : exec (resume crates) p rs = some p') : rs = [] := by
  cases rs with
  | nil => rfl
  | cons r rs =>
    obtain ⟨q, hq, -⟩ := exec_cons.mp hrun
    cases p with
    | awaiting sub pc => exact absurd rfl (h sub pc)
    | returned | panicked => cases hq

theorem over_of_denies (h : Denies r) (hr : resume crates p r = some p') :
    ∀ sub pc, p' ≠ .awaiting sub pc := by
  cases resumed hr with
  | unknown | message | selected | opened | wakes => exact h.elim
  | dropped hd _ => rw [hd h]; simp
  | unselected | givesUp => simp
  | retries hd _ => rw [Denies, hd] at h; cases h

end

/-- **The retry budget.** Whatever retry options the subscription was made with, whatever
calls came before and whatever the answers: the reads that fail in a row are within the
budget; nothing is awaited after a denial; a call that ends with a failed read returns the
error of that read; a stream that drops restores the full budget; and the attempts stay
between one and the budget, so that they never overflow. -/
theorem retry_budget (crates : Crates) (retry : Option RetryOptions) (options : ReadOptions)
    {sub : Subscription} (h : Held crates retry options sub) {rs : List AwaitReply} {p : Progress}
    (hrun : exec (resume crates) sub.goRound rs = some p) :
    (∀ pre mid post, rs = pre ++ mid ++ post → (∀ s, AwaitReply.read (.ok s) ∉ mid) →
      mid.countP failedRead ≤ budget retry) ∧
    (∀ pre r post, rs = pre ++ r :: post → Denies r → post = []) ∧
    (∀ pre status sub' res, rs = pre ++ [.read (.error status)] → p = .returned sub' res →
      res = .error (Error.fromGrpc status)) ∧
    (∀ pre status, rs = pre ++ [.item (.error status)] → p.sub.attempts = 1) ∧
    1 ≤ p.sub.attempts ∧ p.sub.attempts ≤ budget retry ∧
    ((∀ o ∈ retry, o.limit < 2 ^ 64) → p.sub.attempts < 2 ^ 64) := by
  have hstart : Within retry 0 sub.goRound := within_goRound h.inBudget h.inBudget.pos fun _ => rfl
  have hin := (within_exec hstart hrun).inBudget
  refine ⟨?_, ?_, ?_, ?_, hin.pos, hin.le, ?_⟩
  · rintro pre mid post rfl hmid
    obtain ⟨q, hq, -⟩ := exec_append.mp hrun
    have hle := (within_exec hstart hq).le
    rw [List.foldl_append, foldl_failing hmid] at hle
    omega
  · rintro pre r post rfl hd
    obtain ⟨q, -, hrest⟩ := exec_append.mp hrun
    obtain ⟨q', hq', hrest⟩ := exec_cons.mp hrest
    exact exec_over (over_of_denies hd hq') hrest
  · rintro pre status sub' res rfl rfl
    obtain ⟨q, -, hlast⟩ := exec_append.mp hrun
    obtain ⟨q', hq', hlast⟩ := exec_cons.mp hlast
    cases hlast
    cases resumed hq' with
    | givesUp => rfl
  · rintro pre status rfl
    obtain ⟨q, -, hlast⟩ := exec_append.mp hrun
    obtain ⟨q', hq', hlast⟩ := exec_cons.mp hlast
    cases hlast
    cases resumed hq' with
    | dropped _ hp =>
      rcases hp with rfl | rfl
      · rfl
      · unfold goRound head
        cases hs : Subscription.stream _ <;> rfl
  · intro hlimit
    have hbudget : budget retry < 2 ^ 64 := by
      cases retry with
      | none => decide
      | some o =>
        have := hlimit o rfl
        show max o.limit 1 < 2 ^ 64
        omega
    exact Nat.lt_of_le_of_lt hin.le hbudget

def unavailable : Status := ⟨.unavailable, "", [], ""⟩

/-- A node is there, the read fails, and again. -/
def twoFailures : List AwaitReply :=
  [.node (.ok (Handle.ofInfo (soloInfo 1 2113))), .read (.error unavailable), .woke,
    .node (.ok (Handle.ofInfo (soloInfo 1 2113))), .read (.error unavailable)]

theorem two_failures_in_budget :
    (Error.serverError "" : Error) = Error.fromGrpc unavailable ∧
      twoFailures.countP failedRead ≤ budget (some { limit := 2 }) :=
  ⟨rfl, (@retry_budget soloCrates (some { limit := 2 }) ⟨.all .start, false, none⟩ _ .new
    twoFailures _ rfl).1 [] twoFailures [] rfl (by simp [twoFailures])⟩

/-! ## Finished streams -/

/-- The answers the awaits of a call get, in turn; nothing comes behind the last one. -/
abbrev Script := Nat → Option AwaitReply

/-- A call under a script. -/
structure Polling where
  progress : Progress
  /-- the stream last polled has completed -/
  finished : Bool
  /-- how many answers have been used -/
  used : Nat

/-- The server has completed the response. -/
def ends : AwaitReply → Bool
  | .item (.ok none) => true
  | _ => false

/-- The call is about to poll a stream that has completed. -/
def Polling.onFinished (c : Polling) : Bool :=
  c.finished && match c.progress with
    | .awaiting _ (.receiving _) => true
    | _ => false

/-- One iteration: a finished stream answers that it has ended, at once and for ever; any
other await takes its answer from the script. -/
def Polling.step (crates : Crates) (script : Script) (c : Polling) : Option Polling :=
  if c.onFinished then
    (resume crates c.progress (.item (.ok none))).map fun p => ⟨p, true, c.used⟩
  else
    (script c.used).bind fun r =>
      (resume crates c.progress r).map fun p => ⟨p, ends r, c.used + 1⟩

/-- The call after `n` iterations; none if it is over, or waits for an answer, before. -/
def Polling.after (crates : Crates) (script : Script) : Nat → Polling → Option Polling
  | 0, c => some c
  | n + 1, c => (c.step crates script).bind (Polling.after crates script n)

def Polling.start (sub : Subscription) : Polling := ⟨sub.goRound, false, 0⟩

/-- No iteration of the call polls a finished stream. -/
def LeavesFinished (crates : Crates) (script : Script) (sub : Subscription) : Prop :=
  ∀ n c, (Polling.start sub).after crates script n = some c → c.onFinished = false

/-- From every iteration on, the call is over, waits, or uses another answer after finitely
many more. -/
def Progresses (crates : Crates) (script : Script) (sub : Subscription) : Prop :=
  ∀ n c, (Polling.start sub).after crates script n = some c →
    ∃ k, ∀ c', c.after crates script k = some c' → c.used < c'.used

/-- No stream that the call polls is completed by the server. -/
def NeverCompletes (crates : Crates) (script : Script) (sub : Subscription) : Prop :=
  ∀ n c, (Polling.start sub).after crates script n = some c → ∀ s stream,
    c.progress = .awaiting s (.receiving stream) → script c.used ≠ some (.item (.ok none))

section

variable {crates : Crates} {script : Script} {sub : Subscription} {c c' : Polling}

theorem after_succ {n : Nat} (h : c.after crates script n = some c') :
    c.after crates script (n + 1) = c'.step crates script := by
  induction n generalizing c with
  | zero =>
    cases h
    unfold Polling.after
    cases Polling.step crates script c' <;> rfl
  | succ n ih =>
    unfold Polling.after at h ⊢
    cases hs : c.step crates script with
    | none => rw [hs] at h; cases h
    | some d =>
      rw [hs] at h
      exact ih h

theorem after_pred {n : Nat} (h : c.after crates script (n + 1) = some c') :
    ∃ d, c.after crates script n = some d ∧ d.step crates script = some c' := by
  induction n generalizing c with
  | zero =>
    obtain ⟨d, hd, hc⟩ := Option.bind_eq_some_iff.mp h
    cases hc
    exact ⟨c, rfl, hd⟩
  | succ n ih =>
    obtain ⟨d, hd, hc⟩ := Option.bind_eq_some_iff.mp h
    obtain ⟨e, he, hs⟩ := ih hc
    exact ⟨e, by unfold Polling.after; rw [hd]; exact he, hs⟩

theorem onFinished_iff : c.onFinished = true ↔
    c.finished = true ∧ ∃ s stream, c.progress = .awaiting s (.receiving stream) := by
  obtain ⟨progress, finished, used⟩ := c
  unfold Polling.onFinished
  simp only [Bool.and_eq_true, and_congr_right_iff]
  intro _
  cases progress with
  | returned | panicked => simp
  | awaiting s pc => cases pc <;> simp

/-- The end of the stream sends the loop round with the same stream. -/
theorem resume_end (s : Subscription) (stream : Reader Key) :
    resume crates (.awaiting s (.receiving stream)) (.item (.ok none)) =
      some (.awaiting { s with stream := none } (.receiving stream)) := rfl

theorem step_onFinished (h : c.onFinished = true) :
    ∃ c', c.step crates script = some c' ∧ c'.onFinished = true ∧ c'.used = c.used := by
  obtain ⟨hf, s, stream, hp⟩ := onFinished_iff.mp h
  refine ⟨⟨.awaiting { s with stream := none } (.receiving stream), true, c.used⟩, ?_, rfl, rfl⟩
  unfold Polling.step
  rw [if_pos h, hp, resume_end]
  rfl

/-- **The spin**: on a finished stream every iteration is followed by one like it. -/
theorem after_onFinished (h : c.onFinished = true) (k : Nat) :
    ∃ c', c.after crates script k = some c' ∧ c'.onFinished = true ∧ c'.used = c.used := by
  induction k with
  | zero => exact ⟨c, rfl, h, rfl⟩
  | succ k ih =>
    obtain ⟨d, hd, hf, hu⟩ := ih
    obtain ⟨e, he, hf', hu'⟩ := @step_onFinished crates script d hf
    exact ⟨e, by rw [after_succ hd, he], hf', hu'.trans hu⟩

/-- A stream that completes while it is polled is polled again. -/
theorem exists_onFinished (h : ¬ NeverCompletes crates script sub) :
    ∃ n c, (Polling.start sub).after crates script n = some c ∧ c.onFinished = true := by
  unfold NeverCompletes at h
  push Not at h
  obtain ⟨n, c, hc, s, stream, hp, hend⟩ := h
  by_cases hf : c.onFinished = true
  · exact ⟨n, c, hc, hf⟩
  · refine ⟨n + 1, ⟨.awaiting { s with stream := none } (.receiving stream), true, c.used + 1⟩,
      ?_, rfl⟩
    rw [after_succ hc]
    unfold Polling.step
    rw [if_neg hf, hend, hp, Option.bind_some, resume_end]
    rfl

/-- An iteration on anything but a finished stream uses an answer. -/
theorem step_used (hf : c.onFinished = false) (h : c.step crates script = some c') :
    ∃ r, script c.used = some r ∧ resume crates c.progress r = some c'.progress ∧
      c'.finished = ends r ∧ c'.used = c.used + 1 := by
  unfold Polling.step at h
  rw [if_neg (by rw [hf]; simp)] at h
  obtain ⟨r, hr, h⟩ := Option.bind_eq_some_iff.mp h
  obtain ⟨p, hp, rfl⟩ := Option.map_eq_some_iff.mp h
  exact ⟨r, hr, hp, rfl, rfl⟩

/-- Only a stream that is polled can end. -/
theorem receiving_of_ends {p p' : Progress} {r : AwaitReply} (hr : ends r = true)
    (h : resume crates p r = some p') :
    r = .item (.ok none) ∧ ∃ s stream, p = .awaiting s (.receiving stream) := by
  cases resumed h with
  | @unknown s stream resp =>
    cases resp with
    | none => exact ⟨rfl, s, stream, rfl⟩
    | some resp => cases hr
  | @message s stream resp =>
    cases resp with
    | none => exact ⟨rfl, s, stream, rfl⟩
    | some resp => cases hr
  | dropped | selected | unselected | opened | retries | givesUp | wakes => cases hr

/-- Where no stream completes, none is ever finished. -/
theorem not_finished (h : NeverCompletes crates script sub) {n : Nat}
    (hc : (Polling.start sub).after crates script n = some c) : c.onFinished = false := by
  have hfin : ∀ n c, (Polling.start sub).after crates script n = some c → c.finished = false := by
    intro n
    induction n with
    | zero => intro c hc; cases hc; rfl
    | succ n ih =>
      intro c hc
      obtain ⟨d, hd, hs⟩ := after_pred hc
      have hnot : d.onFinished = false := by
        unfold Polling.onFinished
        rw [ih d hd, Bool.false_and]
      obtain ⟨r, hr, hres, hf, -⟩ := step_used hnot hs
      rw [hf]
      cases hend : ends r with
      | false => rfl
      | true =>
        obtain ⟨rfl, s, stream, hp⟩ := receiving_of_ends hend hres
        exact absurd hr (h n d hd s stream hp)
  unfold Polling.onFinished
  rw [hfin n c hc, Bool.false_and]

end

/-- **When a call leaves finished streams alone**: it never polls one, and goes on using
answers, exactly when the server completes none of the streams it polls. -/
theorem finished_streams_left_iff (crates : Crates) (script : Script) (sub : Subscription) :
    (LeavesFinished crates script sub ↔ NeverCompletes crates script sub) ∧
      (Progresses crates script sub ↔ NeverCompletes crates script sub) := by
  constructor
  · constructor
    · intro h
      by_contra hnot
      obtain ⟨n, c, hc, hf⟩ := exists_onFinished hnot
      rw [h n c hc] at hf
      cases hf
    · exact fun h n c hc => not_finished h hc
  · constructor
    · intro h
      by_contra hnot
      obtain ⟨n, c, hc, hf⟩ := exists_onFinished hnot
      obtain ⟨k, hk⟩ := h n c hc
      obtain ⟨c', hc', -, hu⟩ := after_onFinished hf k
      have := hk c' hc'
      omega
    · intro h n c hc
      refine ⟨1, fun c' hc' => ?_⟩
      obtain ⟨d, hd, hs⟩ := after_pred hc'
      cases hd
      obtain ⟨r, -, -, -, hu⟩ := step_used (not_finished h hc) hs
      omega

/-- A subscription to all events from the start. -/
def freshSub : Subscription := Subscription.new none ⟨.all .start, false, none⟩

/-- A node is there, the read succeeds, and the server completes the response. -/
def completed : Script
  | 0 => some (.node (.ok (Handle.ofInfo (soloInfo 1 2113))))
  | 1 => some (.read (.ok ⟨.start, 0⟩))
  | 2 => some (.item (.ok none))
  | _ => none

/-- The call goes round on the completed stream for ever. -/
theorem completed_stream_polled :
    ¬ (LeavesFinished soloCrates completed freshSub ∧ Progresses soloCrates completed freshSub) := by
  rintro ⟨h, -⟩
  have hfinished := h 3 _ rfl
  exact absurd hfinished (by decide)

end Subscription

end Kurrent
