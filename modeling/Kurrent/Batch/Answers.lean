import Kurrent.Grpc.Failover
import Kurrent.Batch.Calls

/-!
# Who answers a call

A call is answered at most once, an `Ok` only by its own response, and never after the task
has stopped. The calls of one session are not independent, though: a response that reports
a failure answers its own call and then ends the task, and with it every other call that is
not answered by then.
-/

namespace Kurrent

open Lib

namespace Calls

section

variable {crates : Crates} {x y : Calls} {l : Label} {ls : List Label} {c : Uuid} {s : Nat}

theorem appendToStream_ok {a : Slot AppendResult} {r : BatchWriteResult}
    (h : appendToStream crates a = some (.ok r)) : a = .answered (.ok r) := by
  cases a with
  | unused => cases h
  | waiting => cases h
  | answered r' => cases h; rfl
  | closed => cases h

theorem settled_of_result {a : Slot AppendResult} {r : AppendResult}
    (h : appendToStream crates a = some r) : a.settled := by
  cases a with
  | unused => cases h
  | waiting => cases h
  | answered r' => trivial
  | closed => trivial

theorem call_of_pending (h : exec step init ls = some x) (hp : Pending x c s) : (c, s) ∈ calls ls :=
  (pending_exec h hp).resolve_left init_not_pending

theorem calls_append (ls ls' : List Label) : calls (ls ++ ls') = calls ls ++ calls ls' :=
  List.filterMap_append

theorem Forwarded.call (h : Forwarded ls c s) : (c, s) ∈ calls ls := by
  obtain ⟨ls₁, ls₂, z, reg, req, rfl, hz, ht, rfl⟩ := h
  rw [calls_append]
  exact List.mem_append_left _ (call_of_pending hz (.inHand ht rfl))

/-- A stopping task that sends nothing but errors closes or fails the slots it held, and
leaves the others as they are. -/
theorem stops_slot {rs : List (Nat × AppendResult)} (h : Stops x y rs)
    (hrs : ∀ p ∈ rs, ∃ e, p.2 = .error e) (s : Nat) :
    y.slots s = .closed ∨ (∃ e, y.slots s = .answered (.error e)) ∨
      (s ∉ x.held batchActor ∧ y.slots s = x.slots s) := by
  rw [h.slots]
  unfold settle
  split
  · next a ha =>
    obtain ⟨l₁, l₂, heq, -⟩ := List.lookup_eq_some_iff.mp ha
    obtain ⟨e, he⟩ := hrs (s, a) (by rw [heq]; simp)
    exact .inr (.inl ⟨e, congrArg Slot.answered he⟩)
  · by_cases hs : s ∈ x.held batchActor
    · exact .inl (if_pos ⟨hs, List.not_mem_nil⟩)
    · exact .inr (.inr ⟨hs, if_neg fun hc => hs hc.1⟩)

theorem stops_error {rs : List (Nat × AppendResult)} (h : Stops x y rs)
    (hrs : ∀ p ∈ rs, ∃ e, p.2 = .error e) (hs : s ∈ x.held batchActor) :
    ∃ e, appendToStream crates (y.slots s) = some (.error e) := by
  rcases stops_slot h hrs s with hc | ⟨e, he⟩ | ⟨hn, -⟩
  · exact ⟨batchClosed crates, by rw [hc]; rfl⟩
  · exact ⟨e, by rw [he]; rfl⟩
  · exact absurd hs hn

theorem stops_not_ok {rs : List (Nat × AppendResult)} {r : BatchWriteResult} (h : Stops x y rs)
    (hrs : ∀ p ∈ rs, ∃ e, p.2 = .error e) (hx : x.slots s ≠ .answered (.ok r)) :
    y.slots s ≠ .answered (.ok r) := by
  rcases stops_slot h hrs s with hc | ⟨e, he⟩ | ⟨-, heq⟩
  · rw [hc]; exact nofun
  · rw [he]; exact nofun
  · rw [heq]; exact hx

/-- A step that ends the task leaves an error to everyone who waits. -/
theorem step_stops (hi : Sys.Inv batchActor x) (h : x.step l = some y) (hx : x.task ≠ none)
    (hy : y.task = none) (hs : x.slots s = .waiting) :
    ∃ e, appendToStream crates (y.slots s) = some (.error e) := by
  have hheld := (hi.waiting s).mp hs
  cases l with
  | send m =>
    obtain ⟨-, htask, -⟩ := Sys.send_cases h
    exact absurd (htask.symm.trans hy) hx
  | recv =>
    obtain ⟨t, m, t', -, -, -, hty, -⟩ := Sys.recv_cases h
    rw [hy] at hty
    cases hty
  | work i =>
    cases worked h with
    | disconnected task stops | refused task stops => exact stops_error stops (by simp) hheld
    | failed task known result stops => exact stops_error stops (by simp) hheld
    | broken task stops => exact stops_error stops (by simp) hheld
    | forwarded task next | registered task next | answered task known result next
    | unknown task unknown next => rw [next] at hy; cases hy

/-- **An `Ok` comes from a response** that finds the call in the registry. -/
theorem ok_step {r : BatchWriteResult} (h : x.step l = some y) (hx : x.slots s ≠ .answered (.ok r))
    (hy : y.slots s = .answered (.ok r)) :
    ∃ i reg resp, l = .work i ∧ x.task = some (.busy reg (.output resp)) ∧ resp.result = .ok r ∧
      reg.lookup resp.correlationId = some s := by
  cases l with
  | send m =>
    obtain ⟨-, -, ⟨-, -, hslots⟩ | ⟨-, -, hslots⟩⟩ := Sys.send_cases h <;>
    · rw [hslots] at hy
      split at hy
      · cases hy
      · exact absurd hy hx
  | recv =>
    obtain ⟨t, m, t', -, -, -, -, hslots⟩ := Sys.recv_cases h
    rw [hslots] at hy
    exact absurd hy hx
  | work i =>
    cases worked h with
    | disconnected task stops | refused task stops =>
      exact absurd hy (stops_not_ok stops (by simp) hx)
    | failed task known result stops => exact absurd hy (stops_not_ok stops (by simp) hx)
    | broken task stops => exact absurd hy (stops_not_ok stops (by simp) hx)
    | forwarded task next queue slots | unknown task unknown next queue slots =>
      rw [slots] at hy; exact absurd hy hx
    | registered task next queue slots =>
      rw [slots] at hy
      simp only [settle, List.lookup_nil] at hy
      split at hy
      · cases hy
      · exact absurd hy hx
    | @answered reg resp sender r' isOpen task known result next queue slots =>
      rw [slots] at hy
      by_cases hs : s = sender
      · subst hs
        rw [Function.update_self] at hy
        cases hy
        exact ⟨_, reg, resp, rfl, task, result, known⟩
      · rw [Function.update_of_ne hs] at hy
        exact absurd hy hx

theorem ok_handled {r : BatchWriteResult} (h : exec step init ls = some x) (hc : (c, s) ∈ calls ls)
    (hok : x.slots s = .answered (.ok r)) : HandledAfterForward ls c s (.ok r) := by
  have h₀ : init.slots s ≠ .answered (.ok r) := nofun
  obtain ⟨js, l, ks, z, z', rfl, hz, hst, -, hnot, hyes⟩ :=
    exec_turns (P := fun z : Calls => z.slots s = .answered (.ok r)) h h₀ hok
  obtain ⟨i, reg, resp, rfl, ht, hresult, hlookup⟩ := ok_step hst hnot hyes
  have hmem : (resp.correlationId, s) ∈ calls (js ++ .work i :: ks) := by
    rw [calls_append]
    exact List.mem_append_left _ (call_of_pending hz (.registered ht hlookup))
  have hid := call_unique h hmem hc
  subst hid
  refine ⟨js, i, ks, z, reg, rfl, hz, ?_, forwarded_of_registered hz ht hlookup⟩
  rw [ht, ← hresult]

/-- What the response in hand does: nothing, an answer, or an answer and the end. -/
theorem output_cases {reg : Registry} {resp : Out} {i : BatchInput}
    (ht : x.task = some (.busy reg (.output resp))) (h : x.step (.work i) = some y) :
    (reg.lookup resp.correlationId = none ∧ y.task = some (.idle reg) ∧ y.slots = x.slots) ∨
    (∃ s r, reg.lookup resp.correlationId = some s ∧ resp.result = .ok r ∧ y.task ≠ none ∧
      y.slots = Function.update x.slots s (.answered (.ok r))) ∨
    (∃ s e, reg.lookup resp.correlationId = some s ∧ resp.result = .error e ∧
      Stops x y [(s, .error e)]) := by
  cases worked h with
  | unknown task unknown next queue slots =>
    rw [ht] at task
    cases task
    exact .inl ⟨unknown, next, slots⟩
  | answered task known result next queue slots =>
    rw [ht] at task
    cases task
    exact .inr (.inl ⟨_, _, known, result, by rw [next]; exact nofun, slots⟩)
  | failed task known result stops =>
    rw [ht] at task
    cases task
    exact .inr (.inr ⟨_, _, known, result, stops⟩)
  | disconnected task | forwarded task | refused task | registered task | broken task =>
    rw [ht] at task; cases task

theorem forward_step {reg : Registry} {req : Req} (ht : x.task = some (.busy reg (.input req s)))
    (h : x.step (.work (.turn true)) = some y) :
    y.task = some (.registering reg req.id s) ∧ y.slots = x.slots := by
  cases worked h with
  | forwarded task next queue slots =>
    rw [ht] at task
    cases task
    exact ⟨next, slots⟩
  | registered task | answered task | failed task | unknown task | broken task =>
    rw [ht] at task; cases task

/-- The task keeps a forwarded call until it is settled. -/
theorem forwarded_kept (h : exec step init ls = some x) (hf : Forwarded ls c s) :
    (∃ t, x.task = some t ∧ s ∈ slotsOf t) ∨ (x.slots s).settled := by
  obtain ⟨ls₁, ls₂, z, reg₀, req, rfl, hz, htz, rfl⟩ := hf
  obtain ⟨z₀, hz₀, hrest⟩ := exec_append.mp h
  rw [hz] at hz₀
  cases hz₀
  obtain ⟨z', hst, hrest⟩ := exec_cons.mp hrest
  have hz' : (∃ t, z'.task = some t ∧ s ∈ slotsOf t) ∨ (z'.slots s).settled :=
    .inl ⟨_, (forward_step htz hst).1, List.mem_cons_self⟩
  have hinv := Sys.step_inv batchActor_lawful (calls_inv hz) hst
  refine (exec_inv (P := fun z : Calls => Sys.Inv batchActor z ∧
    ((∃ t, z.task = some t ∧ s ∈ slotsOf t) ∨ (z.slots s).settled)) ?_ ⟨hinv, hz'⟩ hrest).2
  rintro a l b ⟨hi, ha⟩ hab
  refine ⟨Sys.step_inv batchActor_lawful hi hab, ?_⟩
  rcases ha with ⟨t, hta, hsa⟩ | hset
  · exact slotsOf_step hab hta hsa
  · right
    rw [Sys.settled_step batchActor_lawful hi hab hset]
    exact hset

/-- A forwarded call that is not settled is registered under its own id. -/
theorem forwarded_registered (h : exec step init ls = some x) (hf : Forwarded ls c s)
    (hs : ¬ (x.slots s).settled) : ∃ t, x.task = some t ∧ Registered t c s := by
  rcases forwarded_kept h hf with ⟨t, ht, hmem⟩ | hset
  · obtain ⟨c', hc'⟩ := mem_slotsOf.mp hmem
    have hcall := call_of_pending h (.registered ht hc')
    rw [call_unique h hf.call hcall]
    exact ⟨t, ht, hc'⟩
  · exact absurd hset hs

/-! ## One step of a registered call -/

theorem waiting_of_registered (hi : Sys.Inv batchActor x) {t : BatchTask} (ht : x.task = some t)
    (hr : Registered t c s) : x.slots s = .waiting :=
  (hi.waiting s).mpr (held_of_slotsOf ht (mem_slotsOf.mpr ⟨c, hr⟩))

/-- A registered call is settled by its own response, or by the end of the task. -/
theorem settling_step {t : BatchTask} (hids : ((calls ls).map Prod.fst).Nodup)
    (h : exec step init ls = some x) (ht : x.task = some t) (hr : Registered t c s)
    (hst : x.step l = some y) (hset : (y.slots s).settled) :
    (∃ i reg r, l = .work i ∧ x.task = some (.busy reg (.output ⟨c, r⟩)) ∧
      y.slots s = .answered r) ∨
    (y.task = none ∧ ∃ e, appendToStream crates (y.slots s) = some (.error e)) := by
  have hi := calls_inv h
  have hwait := waiting_of_registered hi ht hr
  have same : y.slots s = x.slots s → False := by
    intro heq
    rw [heq, hwait] at hset
    exact hset
  have own : ∀ {reg m c'}, x.task = some (.busy reg m) → reg.lookup c' = some s → c' = c :=
    fun ht' hl => call_unique h (call_of_pending h (.registered ht' hl))
      (call_of_pending h (.registered ht hr))
  have stopped : y.task = none → y.task = none ∧
      ∃ e, appendToStream crates (y.slots s) = some (.error e) :=
    fun hy => ⟨hy, step_stops hi hst (by rw [ht]; exact nofun) hy hwait⟩
  cases l with
  | send m =>
    obtain ⟨hun, -, hcase⟩ := Sys.send_cases hst
    have hne : ¬ batchActor.carries m = some s := by
      intro hm
      rw [hun s hm] at hwait
      cases hwait
    rcases hcase with ⟨-, -, hslots⟩ | ⟨-, -, hslots⟩
    · exact (same (by rw [hslots, if_neg hne])).elim
    · exact (same (by rw [hslots, if_neg hne])).elim
  | recv =>
    obtain ⟨t', m, t'', -, -, -, -, hslots⟩ := Sys.recv_cases hst
    exact (same (by rw [hslots])).elim
  | work i =>
    cases worked hst with
    | disconnected task stops | refused task stops | broken task stops =>
      exact .inr (stopped stops.task)
    | forwarded task next queue slots | unknown task unknown next queue slots =>
      exact (same (by rw [slots])).elim
    | @failed reg resp sender e isOpen task known result stops =>
      by_cases hs : s = sender
      · subst hs
        have hid := own task known
        subst hid
        refine .inl ⟨_, reg, .error e, rfl, by rw [task, ← result], ?_⟩
        rw [stops.slots]
        simp [settle]
      · exact .inr (stopped stops.task)
    | @answered reg resp sender r isOpen task known result next queue slots =>
      by_cases hs : s = sender
      · subst hs
        have hid := own task known
        subst hid
        refine .inl ⟨_, reg, .ok r, rfl, by rw [task, ← result], ?_⟩
        rw [slots, Function.update_self]
      · exact (same (by rw [slots, Function.update_of_ne hs])).elim
    | @registered reg id sender isOpen task next queue slots =>
      -- no other call has the id under which the new one is entered
      have hkept : s ∈ Registry.senders (reg.insert id sender) := by
        rw [ht] at task
        cases task
        rcases hr with ⟨-, rfl⟩ | hl
        · exact List.mem_cons_self
        · by_cases hc : c = id
          · subst hc
            have hnew := call_of_pending h (.registered ht (.inl ⟨rfl, rfl⟩))
            have hold := call_of_pending h (.registered ht (.inr hl))
            rw [sender_unique hids hold hnew]
            exact List.mem_cons_self
          · exact Registry.mem_senders (by rw [AList.lookup_insert_ne hc]; exact hl)
      refine (same ?_).elim
      rw [slots]
      simp [settle, hkept]

/-- **What becomes of a forwarded call**: it waits with a running task, it got its own
response, or the task ended before that and it got an error. -/
theorem forwarded_outcome (crates : Crates) (hids : ((calls ls).map Prod.fst).Nodup)
    (h : exec step init ls = some x) (hf : Forwarded ls c s) :
    (x.slots s = .waiting ∧ x.task ≠ none) ∨
    (∃ r, x.slots s = .answered r ∧ HandledAfterForward ls c s r) ∨
    (x.task = none ∧ ∃ e, appendToStream crates (x.slots s) = some (.error e)) := by
  by_cases hset : (x.slots s).settled
  · right
    obtain ⟨ls₁, ls₂, z, reg, req, rfl, hz, ht, rfl⟩ := hf
    obtain ⟨z₀, hz₀, hrest⟩ := exec_append.mp h
    rw [hz] at hz₀
    cases hz₀
    obtain ⟨z', hst, hrest⟩ := exec_cons.mp hrest
    have hz' : ¬ (z'.slots s).settled := by
      obtain ⟨htask, -⟩ := forward_step ht hst
      rw [waiting_of_registered (Sys.step_inv batchActor_lawful (calls_inv hz) hst) htask
        (.inl ⟨rfl, rfl⟩)]
      exact id
    -- the step at which the call is settled comes after the forwarding
    obtain ⟨js, l, ks, a, b, rfl, ha, hab, hb, hna, hsb⟩ :=
      exec_turns (P := fun z : Calls => (z.slots s).settled) hrest hz' hset
    have hrun : exec step init (ls₁ ++ .work (.turn true) :: js) = some a :=
      exec_append.mpr ⟨z, hz, exec_cons.mpr ⟨z', hst, ha⟩⟩
    have hfwd : Forwarded (ls₁ ++ .work (.turn true) :: js) req.id s :=
      ⟨ls₁, js, z, reg, req, rfl, hz, ht, rfl⟩
    have hsplit : ls₁ ++ .work (.turn true) :: (js ++ l :: ks) =
        (ls₁ ++ .work (.turn true) :: js) ++ l :: ks := by simp
    have hids' : ((calls (ls₁ ++ .work (.turn true) :: js)).map Prod.fst).Nodup := by
      rw [hsplit, calls_append, List.map_append] at hids
      exact List.Nodup.of_append_left hids
    obtain ⟨t, hta, hra⟩ := forwarded_registered hrun hfwd hna
    have hib := Sys.step_inv batchActor_lawful (calls_inv hrun) hab
    rw [Sys.settled_exec batchActor_lawful hib hsb hb]
    rcases settling_step hids' hrun hta hra hab hsb with ⟨i, reg', r, rfl, hta', hans⟩ | ⟨hnone, he⟩
    · exact .inl ⟨r, hans, _, i, ks, a, reg', hsplit, hrun, hta', hfwd⟩
    · exact .inr ⟨Sys.stopped_exec hnone hb, he⟩
  · left
    have hw : x.slots s = .waiting := by
      obtain ⟨t, htx, hr⟩ := forwarded_registered h hf hset
      exact waiting_of_registered (calls_inv h) htx hr
    exact ⟨hw, fun hn => (calls_inv h).not_waiting hn s hw⟩

end

end Calls

open Calls

/-- **Answers of a batch-append session.** A result never changes; an `Ok` is the result of
the call's own response, handled after the request was forwarded; a response nobody waits
for changes nothing; one that somebody waits for finds its call; and a task that stops
leaves an error to every call that waits, in the registry or in the queue, or comes later. -/
theorem batch_answers_match {crates : Crates} {ls : List Calls.Label} {x : Calls}
    (hids : ((calls ls).map Prod.fst).Nodup) (hrun : exec Calls.step Calls.init ls = some x) :
    (∀ s r ls' y, appendToStream crates (x.slots s) = some r →
      exec Calls.step x ls' = some y → appendToStream crates (y.slots s) = some r) ∧
    (∀ c s r, (c, s) ∈ calls ls → appendToStream crates (x.slots s) = some (.ok r) →
      HandledAfterForward ls c s (.ok r)) ∧
    (∀ reg resp i y, x.task = some (.busy reg (.output resp)) → x.step (.work i) = some y →
      (reg.lookup resp.correlationId = none ∨
        ∃ s, (resp.correlationId, s) ∈ calls ls ∧ (x.slots s).settled) →
      y.task = some (.idle reg) ∧ y.slots = x.slots) ∧
    (∀ reg resp s, x.task = some (.busy reg (.output resp)) →
      Forwarded ls resp.correlationId s → x.slots s = .waiting →
      reg.lookup resp.correlationId = some s) ∧
    (∀ l y, x.task ≠ none → x.step l = some y → y.task = none →
      ∀ s, x.slots s = .waiting → ∃ e, appendToStream crates (y.slots s) = some (.error e)) ∧
    (x.task = none → ∀ s, x.slots s ≠ .waiting ∧
      ∀ req y, x.step (.send (.input req s)) = some y →
        ∃ e, appendToStream crates (y.slots s) = some (.error e)) := by
  have hi := calls_inv hrun
  refine ⟨?_, ?_, ?_, ?_, ?_, ?_⟩
  · intro s r ls' y hr hrun'
    rw [Sys.settled_exec batchActor_lawful hi (settled_of_result hr) hrun']
    exact hr
  · intro c s r hc hr
    exact ok_handled hrun hc (appendToStream_ok hr)
  · intro reg resp i y ht hst hor
    have hnone : reg.lookup resp.correlationId = none := by
      rcases hor with hnone | ⟨s, hcall, hset⟩
      · exact hnone
      · cases hl : reg.lookup resp.correlationId with
        | none => rfl
        | some s' =>
          have hcall' := call_of_pending hrun (.registered ht hl)
          rw [sender_unique hids hcall hcall',
            waiting_of_registered hi ht hl] at hset
          exact hset.elim
    rcases output_cases ht hst with ⟨-, hidle⟩ | ⟨s, r, hl, -⟩ | ⟨s, e, hl, -⟩
    · exact hidle
    · rw [hnone] at hl; cases hl
    · rw [hnone] at hl; cases hl
  · intro reg resp s ht hf hs
    obtain ⟨t, ht', hr⟩ := forwarded_registered hrun hf (by rw [hs]; exact id)
    rw [ht] at ht'
    cases ht'
    exact hr
  · intro l y hx hst hy s hs
    exact step_stops hi hst hx hy hs
  · intro ht s
    refine ⟨hi.not_waiting ht s, fun req y hst => ⟨batchClosed crates, ?_⟩⟩
    rw [Sys.stopped_send ht rfl hst]
    rfl

def sampleReq (id : Uuid) : Req := ⟨id, "stream", [], .any⟩

def sampleResult : BatchWriteResult := ⟨"stream", some 0, none, none⟩

/-- A call comes in and is forwarded and registered. -/
def comesIn (id : Uuid) (sender : Nat) : List Calls.Label :=
  [.send (.input (sampleReq id) sender), .recv, .work (.turn true), .work (.turn true)]

def servedRun : List Calls.Label :=
  comesIn 1 0 ++ [.send (.output ⟨1, .ok sampleResult⟩), .recv, .work (.turn true)]

theorem batch_answer_handled : HandledAfterForward servedRun 1 0 (.ok sampleResult) := by
  have hrun : (exec Calls.step Calls.init servedRun).isSome := rfl
  obtain ⟨x, hx⟩ := Option.isSome_iff_exists.mp hrun
  have hans : appendToStream soloCrates (x.slots 0) = some (.ok sampleResult) := by
    cases hx; rfl
  exact (batch_answers_match (by decide) hx).2.1 1 0 _ (by decide) hans

/-- **What one response does to the calls of a session.** Its own call gets its result. A
success leaves every other call as it is; a failure ends the session, and every other call
that waits gets the error of a closed stream. A forwarded call waits while the session
runs, or got its own response; only the end of the session gives it another result, and
that is an error. -/
theorem batch_calls_share_session {crates : Crates} {ls : List Calls.Label} {x : Calls}
    (hids : ((calls ls).map Prod.fst).Nodup) (hrun : exec Calls.step Calls.init ls = some x) :
    (∀ reg resp s i y, x.task = some (.busy reg (.output resp)) →
      reg.lookup resp.correlationId = some s → x.step (.work i) = some y →
      appendToStream crates (y.slots s) = some resp.result ∧
      (∀ r, resp.result = .ok r → y.task ≠ none ∧ ∀ k, k ≠ s → y.slots k = x.slots k) ∧
      (∀ e, resp.result = .error e → y.task = none ∧ ∀ k, k ≠ s → x.slots k = .waiting →
        appendToStream crates (y.slots k) = some (.error (batchClosed crates)))) ∧
    (∀ c s, Forwarded ls c s →
      (x.slots s = .waiting ∧ x.task ≠ none) ∨
      (∃ r, appendToStream crates (x.slots s) = some r ∧ HandledAfterForward ls c s r) ∨
      (x.task = none ∧ ∃ e, appendToStream crates (x.slots s) = some (.error e))) := by
  have hi := calls_inv hrun
  refine ⟨?_, ?_⟩
  · intro reg resp s i y ht hl hst
    rcases output_cases ht hst with ⟨hnone, -⟩ | ⟨s', r, hl', hr, hrun', hslots⟩ | ⟨s', e, hl', he, hstops⟩
    · rw [hl] at hnone; cases hnone
    · rw [hl] at hl'
      cases hl'
      refine ⟨by rw [hslots, Function.update_self, hr]; rfl, fun _ _ => ?_, fun e he => ?_⟩
      · exact ⟨hrun', fun k hk => by rw [hslots, Function.update_of_ne hk]⟩
      · rw [hr] at he; cases he
    · rw [hl] at hl'
      cases hl'
      refine ⟨?_, fun r hr => ?_, fun _ _ => ⟨hstops.task, fun k hk hw => ?_⟩⟩
      · rw [hstops.slots, he]
        simp [settle, appendToStream]
      · rw [he] at hr; cases hr
      · have hb : (k == s) = false := by simpa using hk
        have hheld := (hi.waiting k).mp hw
        rw [hstops.slots]
        simp [settle, List.lookup_cons, hb, hheld, appendToStream]
  · intro c s hf
    rcases forwarded_outcome crates hids hrun hf with hw | ⟨r, hr, hh⟩ | hstop
    · exact .inl hw
    · exact .inr (.inl ⟨r, by rw [hr]; rfl, hh⟩)
    · exact .inr (.inr hstop)

/-- Two calls wait, the responses to both arrive, the first of them a failure. -/
def sharedRun : List Calls.Label :=
  comesIn 1 0 ++ comesIn 2 1 ++
    [.send (.output ⟨1, .error .deadlineExceeded⟩), .send (.output ⟨2, .ok sampleResult⟩), .recv]

theorem batch_failure_ends_session :
    ∃ x y, exec Calls.step Calls.init sharedRun = some x ∧
      x.step (.work (.turn true)) = some y ∧
      appendToStream soloCrates (y.slots 0) = some (.error .deadlineExceeded) ∧
      appendToStream soloCrates (y.slots 1) = some (.error (batchClosed soloCrates)) := by
  have hrun : (exec Calls.step Calls.init sharedRun).isSome := rfl
  obtain ⟨x, hx⟩ := Option.isSome_iff_exists.mp hrun
  have hstep : (x.step (.work (.turn true))).isSome := by cases hx; rfl
  obtain ⟨y, hy⟩ := Option.isSome_iff_exists.mp hstep
  have htask : ∃ reg, x.task = some (.busy reg (.output ⟨1, .error .deadlineExceeded⟩)) ∧
      reg.lookup 1 = some 0 ∧ x.slots 1 = .waiting := by
    cases hx
    exact ⟨_, rfl, rfl, rfl⟩
  obtain ⟨reg, ht, hl, hw⟩ := htask
  obtain ⟨hown, -, hothers⟩ :=
    (@batch_calls_share_session soloCrates _ _ (by decide) hx).1 reg _ 0 _ y ht hl hy
  exact ⟨x, y, hx, hy, hown, (hothers _ rfl).2 1 (by decide) hw⟩

/-- The second call was forwarded, the server accepted it and its response was on the way;
the failure of the first makes it an error. -/
theorem batch_failure_spreads :
    ∃ x, exec Calls.step Calls.init (sharedRun ++ [.work (.turn true)]) = some x ∧
      ((calls sharedRun).map Prod.fst).Nodup ∧ Forwarded sharedRun 2 1 ∧
      .send (.output ⟨2, .ok sampleResult⟩) ∈ sharedRun ∧
      appendToStream soloCrates (x.slots 1) = some (.error (batchClosed soloCrates)) := by
  have hrun : (exec Calls.step Calls.init (sharedRun ++ [.work (.turn true)])).isSome := rfl
  obtain ⟨x, hx⟩ := Option.isSome_iff_exists.mp hrun
  refine ⟨x, hx, by decide, ?_, by simp [sharedRun], ?_⟩
  · exact ⟨comesIn 1 0 ++ [.send (.input (sampleReq 2) 1), .recv], _, _, _, _, rfl, rfl, rfl, rfl⟩
  · cases hx; rfl

end Kurrent
