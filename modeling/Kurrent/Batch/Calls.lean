import Kurrent.Lib.Run
import Kurrent.Batch.Client

/-!
# Calls and their answers

The batch-append task with its callers: any number of requests, responses and session
errors reach it in any order. `Worked` says once what a turn of the task does to the
registry and to the callers. A call is a request with its one-shot; `calls` lists those a
run has made.
-/

namespace Kurrent

open Lib

abbrev Calls := Sys BatchTask BatchMsg AppendResult

namespace Calls

abbrev Label := Lib.Label BatchMsg BatchInput

def init : Calls := Sys.init (.idle ∅)

abbrev step : Calls → Label → Option Calls := Sys.step batchActor

/-- The task ends: its callers get the answers it sent, and whoever it held, or was still
queued, is dropped. -/
structure Stops (x y : Calls) (rs : List (Nat × AppendResult)) : Prop where
  task : y.task = none
  slots : y.slots = settle x.slots (x.held batchActor) rs []

/-- **What a turn can do.** -/
inductive Worked (x y : Calls) : BatchInput → Prop where
  | disconnected {reg} (task : x.task = some (.idle reg)) (stops : Stops x y []) :
    Worked x y .disconnected
  | forwarded {reg req sender} (task : x.task = some (.busy reg (.input req sender)))
    (next : y.task = some (.registering reg req.id sender)) (queue : y.queue = x.queue)
    (slots : y.slots = x.slots) : Worked x y (.turn true)
  | refused {reg req sender} (task : x.task = some (.busy reg (.input req sender)))
    (stops : Stops x y []) : Worked x y (.turn false)
  | registered {reg id sender isOpen} (task : x.task = some (.registering reg id sender))
    (next : y.task = some (.idle (reg.insert id sender))) (queue : y.queue = x.queue)
    (slots : y.slots = settle x.slots (sender :: reg.senders) []
      (Registry.senders (reg.insert id sender))) : Worked x y (.turn isOpen)
  | answered {reg resp sender r isOpen} (task : x.task = some (.busy reg (.output resp)))
    (known : reg.lookup resp.correlationId = some sender) (result : resp.result = .ok r)
    (next : y.task = some (.idle (reg.erase resp.correlationId))) (queue : y.queue = x.queue)
    (slots : y.slots = Function.update x.slots sender (.answered (.ok r))) :
    Worked x y (.turn isOpen)
  | failed {reg resp sender e isOpen} (task : x.task = some (.busy reg (.output resp)))
    (known : reg.lookup resp.correlationId = some sender) (result : resp.result = .error e)
    (stops : Stops x y [(sender, .error e)]) : Worked x y (.turn isOpen)
  | unknown {reg resp isOpen} (task : x.task = some (.busy reg (.output resp)))
    (unknown : reg.lookup resp.correlationId = none) (next : y.task = some (.idle reg))
    (queue : y.queue = x.queue) (slots : y.slots = x.slots) : Worked x y (.turn isOpen)
  | broken {reg e isOpen} (task : x.task = some (.busy reg (.error e)))
    (stops : Stops x y (reg.senders.map fun sender => (sender, .error e))) :
    Worked x y (.turn isOpen)

section

variable {x y : Calls} {i : BatchInput}

/-- The task takes a message only when it has none in hand. -/
theorem recv_idle (h : x.step .recv = some y) :
    ∃ reg m, x.task = some (.idle reg) ∧ x.queue = m :: y.queue ∧
      y.task = some (.busy reg m) ∧ y.slots = x.slots := by
  obtain ⟨t, m, t', ht, hq, hr, hty, hslots⟩ := Sys.recv_cases h
  cases t with
  | idle reg => cases hr; exact ⟨reg, m, ht, hq, hty, hslots⟩
  | busy reg m' => cases hr
  | registering reg id sender => cases hr

theorem settle_kept {α : Type} {slots : Nat → Slot α} {held : List Nat} :
    settle slots held [] held = slots := by
  funext r
  have : ¬ (r ∈ held ∧ r ∉ held) := fun h => h.2 h.1
  simp [settle, this]

theorem settle_one {slots : Nat → Slot AppendResult} {held kept : List Nat} {sender : Nat}
    {a : AppendResult} (hp : held.Perm (sender :: kept)) :
    settle slots held [(sender, a)] kept = Function.update slots sender (.answered a) := by
  funext r
  by_cases hr : r = sender
  · subst hr; simp [settle]
  · have hb : (r == sender) = false := by simpa using hr
    have hin : ¬ (r ∈ held ∧ r ∉ kept) := by
      rintro ⟨hmem, hnot⟩
      rcases List.mem_cons.mp (hp.mem_iff.mp hmem) with h | h
      · exact hr h
      · exact hnot h
    rw [Function.update_of_ne hr]
    simp [settle, List.lookup_cons, hb, hin]

theorem worked (h : x.step (.work i) = some y) : Worked x y i := by
  obtain ⟨t, rs, o, ht, hw, hty, hcase⟩ := Sys.work_cases h
  have stops : ∀ {rs'}, rs = rs' → o = none → Stops x y rs' := by
    rintro _ rfl rfl
    rcases hcase with ⟨s', ho, -⟩ | ⟨-, -, hslots⟩
    · cases ho
    · exact ⟨hty, hslots⟩
  have goes : ∀ {s'}, o = some s' →
      y.task = some s' ∧ y.queue = x.queue ∧
        y.slots = settle x.slots (batchActor.owns t) rs (batchActor.owns s') := by
    rintro s' rfl
    rcases hcase with ⟨s'', ho, hq, hslots⟩ | ⟨ho, -⟩
    · cases ho; exact ⟨hty, hq, hslots⟩
    · cases ho
  cases t with
  | idle reg =>
    cases i with
    | turn isOpen => cases hw
    | disconnected => cases hw; exact .disconnected ht (stops rfl rfl)
  | registering reg id sender =>
    cases i with
    | disconnected => cases hw
    | turn isOpen =>
      cases hw
      obtain ⟨hnext, hq, hslots⟩ := goes rfl
      exact .registered ht hnext hq hslots
  | busy reg m =>
    cases i with
    | disconnected => cases hw
    | turn isOpen =>
      have hm : BatchTask.onMsg reg isOpen m = (rs, o) := Option.some.inj hw
      cases m with
      | input req sender =>
        cases isOpen
        · cases hm; exact .refused ht (stops rfl rfl)
        · cases hm
          obtain ⟨hnext, hq, hslots⟩ := goes rfl
          exact .forwarded ht hnext hq (hslots.trans settle_kept)
      | output resp =>
        cases hl : reg.lookup resp.correlationId with
        | none =>
          rw [onMsg_unknown hl] at hm
          cases hm
          obtain ⟨hnext, hq, hslots⟩ := goes rfl
          exact .unknown ht hl hnext hq (hslots.trans settle_kept)
        | some sender =>
          cases hr : resp.result with
          | error e =>
            rw [onMsg_failed hl hr] at hm
            cases hm
            exact .failed ht hl hr (stops rfl rfl)
          | ok r =>
            rw [onMsg_ok hl hr] at hm
            cases hm
            obtain ⟨hnext, hq, hslots⟩ := goes rfl
            exact .answered ht hl hr hnext hq (hslots.trans (settle_one (Registry.senders_erase hl)))
      | error e => cases hm; exact .broken ht (stops rfl rfl)

end

/-! ## Pending calls -/

def callOf : BatchMsg → Option (Uuid × Nat)
  | .input req sender => some (req.id, sender)
  | _ => none

def callMade : Label → Option (Uuid × Nat)
  | .send m => callOf m
  | _ => none

/-- The calls a run has made: the id of each request and its one-shot. -/
def calls (ls : List Label) : List (Uuid × Nat) := ls.filterMap callMade

/-- The task has forwarded the call and not answered it. -/
def Registered : BatchTask → Uuid → Nat → Prop
  | .idle reg, c, s | .busy reg _, c, s => reg.lookup c = some s
  | .registering reg id sender, c, s => (c = id ∧ s = sender) ∨ reg.lookup c = some s

/-- The one-shots of the calls the task has forwarded. -/
def slotsOf : BatchTask → List Nat
  | .idle reg | .busy reg _ => reg.senders
  | .registering reg _ sender => sender :: reg.senders

inductive Pending (x : Calls) (c : Uuid) (s : Nat) : Prop where
  | registered {t} (task : x.task = some t) (h : Registered t c s)
  | inHand {reg m} (task : x.task = some (.busy reg m)) (h : callOf m = some (c, s))
  | queued {m} (mem : m ∈ x.queue) (h : callOf m = some (c, s))

section

variable {x y : Calls} {l : Label} {t : BatchTask} {reg : Registry} {id c : Uuid} {sender s : Nat}

theorem mem_slotsOf : s ∈ slotsOf t ↔ ∃ c, Registered t c s := by
  cases t with
  | idle reg | busy reg m =>
    exact ⟨Registry.exists_of_mem_senders, fun ⟨c, hc⟩ => Registry.mem_senders hc⟩
  | registering reg id sender =>
    simp only [slotsOf, List.mem_cons, Registered]
    constructor
    · rintro (rfl | h)
      · exact ⟨id, .inl ⟨rfl, rfl⟩⟩
      · obtain ⟨c, hc⟩ := Registry.exists_of_mem_senders h
        exact ⟨c, .inr hc⟩
    · rintro ⟨c, ⟨-, rfl⟩ | hc⟩
      · exact .inl rfl
      · exact .inr (Registry.mem_senders hc)

theorem lookup_of_erase (h : AList.lookup c (reg.erase id) = some s) : reg.lookup c = some s := by
  by_cases hc : c = id
  · subst hc; rw [AList.lookup_erase] at h; cases h
  · rwa [AList.lookup_erase_ne hc] at h

theorem lookup_of_insert (h : AList.lookup c (reg.insert id sender) = some s) :
    (c = id ∧ s = sender) ∨ reg.lookup c = some s := by
  by_cases hc : c = id
  · subst hc; rw [AList.lookup_insert] at h; exact .inl ⟨rfl, (Option.some.inj h).symm⟩
  · rw [AList.lookup_insert_ne hc] at h; exact .inr h

/-- The calls a turn leaves registered were registered before, or it forwards them. -/
theorem registered_worked {i : BatchInput} (h : Worked x y i) (ht : y.task = some t)
    (hr : Registered t c s) :
    (∃ t', x.task = some t' ∧ Registered t' c s) ∨
    (i = .turn true ∧ ∃ reg req, x.task = some (.busy reg (.input req s)) ∧ req.id = c) := by
  cases h with
  | disconnected task stops | refused task stops | failed task known result stops
  | broken task stops => rw [stops.task] at ht; cases ht
  | forwarded task next queue slots =>
    rw [next] at ht
    cases ht
    rcases hr with ⟨rfl, rfl⟩ | hr
    · exact .inr ⟨rfl, _, _, task, rfl⟩
    · exact .inl ⟨_, task, hr⟩
  | registered task next queue slots =>
    rw [next] at ht
    cases ht
    exact .inl ⟨_, task, lookup_of_insert hr⟩
  | answered task known result next queue slots =>
    rw [next] at ht
    cases ht
    exact .inl ⟨_, task, lookup_of_erase hr⟩
  | unknown task unknown next queue slots =>
    rw [next] at ht
    cases ht
    exact .inl ⟨_, task, hr⟩

/-- A registered call was registered before the step, or the step forwards it. -/
theorem registered_step (h : x.step l = some y) (ht : y.task = some t) (hr : Registered t c s) :
    (∃ t', x.task = some t' ∧ Registered t' c s) ∨
    (l = .work (.turn true) ∧ ∃ reg req, x.task = some (.busy reg (.input req s)) ∧ req.id = c) := by
  cases l with
  | send m =>
    obtain ⟨-, htask, -⟩ := Sys.send_cases h
    exact .inl ⟨t, by rw [← htask]; exact ht, hr⟩
  | recv =>
    obtain ⟨reg, m, ht', -, hty, -⟩ := recv_idle h
    rw [ht] at hty
    cases hty
    exact .inl ⟨_, ht', hr⟩
  | work i =>
    rcases registered_worked (worked h) ht hr with hold | ⟨rfl, hnew⟩
    · exact .inl hold
    · exact .inr ⟨rfl, hnew⟩

/-- A pending call was pending before the step, or the step makes it. -/
theorem pending_step (h : x.step l = some y) (hp : Pending y c s) :
    Pending x c s ∨ callMade l = some (c, s) := by
  cases hp with
  | registered task hr =>
    rcases registered_step h task hr with ⟨t', ht', hr'⟩ | ⟨-, reg, req, ht', rfl⟩
    · exact .inl (.registered ht' hr')
    · exact .inl (.inHand ht' rfl)
  | inHand task hm =>
    cases l with
    | send m =>
      obtain ⟨-, htask, -⟩ := Sys.send_cases h
      exact .inl (.inHand (by rw [← htask]; exact task) hm)
    | recv =>
      obtain ⟨reg, m, -, hq, hty, -⟩ := recv_idle h
      rw [task] at hty
      cases hty
      exact .inl (.queued (by rw [hq]; exact List.mem_cons_self) hm)
    | work i =>
      cases worked h with
      | disconnected _ stops | refused _ stops | failed _ _ _ stops | broken _ stops =>
        rw [stops.task] at task; cases task
      | forwarded _ next | registered _ next | answered _ _ _ next | unknown _ _ next =>
        rw [next] at task; cases task
  | @queued m hmem hm =>
    cases l with
    | send m' =>
      obtain ⟨-, -, ⟨-, hq, -⟩ | ⟨-, hq, -⟩⟩ := Sys.send_cases h
      · exact .inl (.queued (by rw [← hq]; exact hmem) hm)
      · rw [hq] at hmem
        rcases List.mem_append.mp hmem with hmem | hmem
        · exact .inl (.queued hmem hm)
        · rw [List.mem_singleton.mp hmem] at hm
          exact .inr hm
    | recv =>
      obtain ⟨t', m', t'', -, hq, -⟩ := Sys.recv_cases h
      exact .inl (.queued (by rw [hq]; exact List.mem_cons_of_mem _ hmem) hm)
    | work i =>
      obtain ⟨t', rs, o, -, -, -, ⟨s', -, hq, -⟩ | ⟨-, hq, -⟩⟩ := Sys.work_cases h
      · exact .inl (.queued (by rw [← hq]; exact hmem) hm)
      · rw [hq] at hmem; cases hmem

theorem pending_exec {ls : List Label} (h : exec step x ls = some y) (hp : Pending y c s) :
    Pending x c s ∨ (c, s) ∈ calls ls := by
  induction ls generalizing x with
  | nil => cases h; exact .inl hp
  | cons l ls ih =>
    obtain ⟨z, hst, hrest⟩ := exec_cons.mp h
    have hcons : callMade l = some (c, s) → (c, s) ∈ calls (l :: ls) :=
      fun hl => List.mem_filterMap.mpr ⟨l, List.mem_cons_self, hl⟩
    rcases ih hrest with hz | hmem
    · rcases pending_step hst hz with hx | hl
      · exact .inl hx
      · exact .inr (hcons hl)
    · obtain ⟨l', hl', hcall⟩ := List.mem_filterMap.mp hmem
      exact .inr (List.mem_filterMap.mpr ⟨l', List.mem_cons_of_mem _ hl', hcall⟩)

theorem init_not_pending : ¬ Pending init c s := by
  intro h
  cases h with
  | registered task h => cases task; cases h
  | inHand task h => cases task
  | queued mem h => cases mem

theorem carries_of_callOf {m : BatchMsg} (h : callOf m = some (c, s)) :
    batchActor.carries m = some s := by
  cases m with
  | input req sender => cases h; rfl
  | output out => cases h
  | error e => cases h

/-- A call uses a new one-shot, and uses it up. -/
theorem call_step (h : x.step l = some y) (hl : callMade l = some (c, s)) :
    x.slots s = .unused ∧ y.slots s ≠ .unused := by
  cases l with
  | send m =>
    have hm := carries_of_callOf hl
    obtain ⟨hun, -, ⟨-, -, hslots⟩ | ⟨-, -, hslots⟩⟩ := Sys.send_cases h <;>
      exact ⟨hun s hm, by rw [hslots, if_pos hm]; exact nofun⟩
  | recv => cases hl
  | work i => cases hl

theorem unused_of_call {ls : List Label} (h : exec step x ls = some y) (hc : (c, s) ∈ calls ls) :
    x.slots s = .unused := by
  induction ls generalizing x with
  | nil => cases hc
  | cons l ls ih =>
    obtain ⟨z, hst, hrest⟩ := exec_cons.mp h
    obtain ⟨l', hl', hcall⟩ := List.mem_filterMap.mp hc
    rcases List.mem_cons.mp hl' with rfl | hl'
    · exact (call_step hst hcall).1
    · by_contra hx
      exact Sys.used_step hst hx (ih hrest (List.mem_filterMap.mpr ⟨l', hl', hcall⟩))

/-- A one-shot belongs to one call. -/
theorem call_unique {ls : List Label} {c' : Uuid} (h : exec step x ls = some y)
    (hc : (c, s) ∈ calls ls) (hc' : (c', s) ∈ calls ls) : c = c' := by
  induction ls generalizing x with
  | nil => cases hc
  | cons l ls ih =>
    obtain ⟨z, hst, hrest⟩ := exec_cons.mp h
    obtain ⟨k, hk, hcall⟩ := List.mem_filterMap.mp hc
    obtain ⟨k', hk', hcall'⟩ := List.mem_filterMap.mp hc'
    have later : ∀ {c₁ c₂}, callMade l = some (c₁, s) → (c₂, s) ∈ calls ls → False :=
      fun hl hmem => (call_step hst hl).2 (unused_of_call hrest hmem)
    rcases List.mem_cons.mp hk with rfl | hin <;> rcases List.mem_cons.mp hk' with rfl | hin'
    · rw [hcall] at hcall'; cases hcall'; rfl
    · exact (later hcall (List.mem_filterMap.mpr ⟨k', hin', hcall'⟩)).elim
    · exact (later hcall' (List.mem_filterMap.mpr ⟨k, hin, hcall⟩)).elim
    · exact ih hrest (List.mem_filterMap.mpr ⟨k, hin, hcall⟩)
        (List.mem_filterMap.mpr ⟨k', hin', hcall'⟩)

/-- A call under an id is the only one when ids are distinct. -/
theorem sender_unique {ls : List Label} {s' : Nat} (hids : ((calls ls).map Prod.fst).Nodup)
    (hc : (c, s) ∈ calls ls) (hc' : (c, s') ∈ calls ls) : s = s' := by
  have := List.inj_on_of_nodup_map hids hc hc' rfl
  exact congrArg Prod.snd this

/-! ## Runs -/

theorem calls_inv {ls : List Label} (h : exec step init ls = some x) : Sys.Inv batchActor x :=
  Sys.exec_inv batchActor_lawful (Sys.init_inv _ rfl) h

/-- In the run the task took the request from its queue and forwarded it. -/
def Forwarded (ls : List Label) (c : Uuid) (s : Nat) : Prop :=
  ∃ ls₁ ls₂ z reg req, ls = ls₁ ++ .work (.turn true) :: ls₂ ∧ exec step init ls₁ = some z ∧
    z.task = some (.busy reg (.input req s)) ∧ req.id = c

/-- In the run the task handled this response after it had forwarded the request. -/
def HandledAfterForward (ls : List Label) (c : Uuid) (s : Nat) (r : AppendResult) : Prop :=
  ∃ ls₁ i ls₂ z reg, ls = ls₁ ++ .work i :: ls₂ ∧ exec step init ls₁ = some z ∧
    z.task = some (.busy reg (.output ⟨c, r⟩)) ∧ Forwarded ls₁ c s

theorem forwarded_of_registered {ls : List Label} (h : exec step init ls = some x)
    (ht : x.task = some t) (hr : Registered t c s) : Forwarded ls c s := by
  have h₀ : ¬ ∃ t, init.task = some t ∧ Registered t c s := by
    rintro ⟨t, ht, hr⟩
    exact init_not_pending (.registered ht hr)
  obtain ⟨ls₁, l, ls₂, z, z', rfl, hz, hst, -, hnot, t', ht', hr'⟩ :=
    exec_turns (P := fun z : Calls => ∃ t, z.task = some t ∧ Registered t c s) h h₀ ⟨t, ht, hr⟩
  rcases registered_step hst ht' hr' with hold | ⟨rfl, reg, req, htask, hid⟩
  · exact absurd hold hnot
  · exact ⟨ls₁, ls₂, z, reg, req, rfl, hz, htask, hid⟩

theorem settled_of_stops {rs : List (Nat × AppendResult)} (h : Stops x y rs)
    (hs : s ∈ x.held batchActor) : (y.slots s).settled := by
  rw [h.slots]
  unfold settle
  split
  · trivial
  · rw [if_pos ⟨hs, List.not_mem_nil⟩]; trivial

theorem held_of_slotsOf (ht : x.task = some t) (hs : s ∈ slotsOf t) : s ∈ x.held batchActor := by
  rw [Sys.held_of_task ht]
  refine List.mem_append_left _ ?_
  cases t with
  | idle reg => exact hs
  | busy reg m => exact List.mem_append_right _ hs
  | registering reg id sender => exact hs

/-- A forwarded call stays with the task until it is settled. -/
theorem slotsOf_step (h : x.step l = some y) (ht : x.task = some t) (hs : s ∈ slotsOf t) :
    (∃ t', y.task = some t' ∧ s ∈ slotsOf t') ∨ (y.slots s).settled := by
  have hheld := held_of_slotsOf ht hs
  cases l with
  | send m =>
    obtain ⟨-, htask, -⟩ := Sys.send_cases h
    exact .inl ⟨t, by rw [htask, ht], hs⟩
  | recv =>
    obtain ⟨reg, m, ht', -, hty, -⟩ := recv_idle h
    rw [ht] at ht'
    cases ht'
    exact .inl ⟨_, hty, hs⟩
  | work i =>
    cases worked h with
    | disconnected task stops | refused task stops | failed task known result stops
    | broken task stops => exact .inr (settled_of_stops stops hheld)
    | forwarded task next queue slots =>
      rw [ht] at task
      cases task
      exact .inl ⟨_, next, List.mem_cons_of_mem _ hs⟩
    | @registered reg id sender _ task next queue slots =>
      rw [ht] at task
      cases task
      by_cases hk : s ∈ Registry.senders (reg.insert id sender)
      · exact .inl ⟨_, next, hk⟩
      · right
        have hs' : s ∈ sender :: reg.senders := hs
        have hclosed : y.slots s = .closed := by
          rw [slots]
          exact if_pos ⟨hs', hk⟩
        rw [hclosed]
        trivial
    | @answered reg resp sender r _ task known result next queue slots =>
      rw [ht] at task
      cases task
      rcases List.mem_cons.mp ((Registry.senders_erase known).mem_iff.mp hs) with rfl | hs
      · right
        rw [slots, Function.update_self]
        trivial
      · exact .inl ⟨_, next, hs⟩
    | unknown task unknown next queue slots =>
      rw [ht] at task
      cases task
      exact .inl ⟨_, next, hs⟩

end

end Calls

end Kurrent
