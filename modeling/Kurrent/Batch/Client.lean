import Mathlib.Data.List.AList
import Kurrent.Lib.Actor
import Kurrent.Streams.Event

/-!
# The batch-append client

The task of `BatchAppendClient::new` (`batch.rs`). It forwards the requests of callers to
the request stream and keeps their one-shots in a registry under the correlation id until
the response comes. A request is forwarded before it is registered, and between the two the
rest of the system moves on: `BatchTask.registering` is that moment. A failed response, an
error of the session and a closed request stream each end the task.
-/

namespace Kurrent

open Lib

structure Req where
  id : Uuid
  streamName : String
  events : List EventData
  expectedRevision : StreamState
  deriving DecidableEq, Repr

structure BatchWriteResult where
  streamName : String
  currentRevision : Option UInt64
  currentPosition : Option Position
  streamState : Option StreamState
  deriving DecidableEq, Repr

abbrev AppendResult := Except Error BatchWriteResult

structure Out where
  correlationId : Uuid
  result : AppendResult
  deriving DecidableEq

/-- `In`, `Out` and `Error`; the sender of a request names its one-shot. -/
inductive BatchMsg where
  | input (req : Req) (sender : Nat)
  | output (out : Out)
  | error (e : Error)
  deriving DecidableEq

/-! ## The registry -/

/-- The one-shots of the requests without a response, each id once. -/
abbrev Registry := AList fun _ : Uuid => Nat

namespace Registry

def senders (reg : Registry) : List Nat := reg.entries.map Sigma.snd

variable {reg : Registry} {id : Uuid} {s : Nat}

theorem mem_senders (h : reg.lookup id = some s) : s ∈ reg.senders :=
  List.mem_map.mpr ⟨⟨id, s⟩, AList.mem_lookup_iff.mp h, rfl⟩

theorem exists_of_mem_senders (h : s ∈ reg.senders) : ∃ id, reg.lookup id = some s := by
  obtain ⟨⟨id, s'⟩, hmem, rfl⟩ := List.mem_map.mp h
  exact ⟨id, AList.mem_lookup_iff.mpr hmem⟩

theorem senders_erase_sublist (reg : Registry) (id : Uuid) :
    (senders (reg.erase id)).Sublist reg.senders := by
  show ((reg.entries.kerase id).map Sigma.snd).Sublist (reg.entries.map Sigma.snd)
  exact (List.kerase_sublist id reg.entries).map _

/-- Taking an entry out leaves the others. -/
theorem senders_erase (h : reg.lookup id = some s) :
    reg.senders.Perm (s :: senders (reg.erase id)) := by
  have hmem : id ∈ reg.entries.keys := AList.lookup_isSome.mp (by rw [h]; rfl)
  obtain ⟨s', l₁, l₂, -, hl, hk⟩ := List.exists_of_kerase hmem
  have hs : reg.lookup id = some s' := AList.mem_lookup_iff.mpr (by rw [hl]; simp)
  rw [h] at hs
  cases hs
  show (reg.entries.map Sigma.snd).Perm (s :: (reg.entries.kerase id).map Sigma.snd)
  rw [hk, hl, List.map_append, List.map_append, List.map_cons]
  exact List.perm_middle

theorem senders_insert (reg : Registry) (id : Uuid) (s : Nat) :
    senders (reg.insert id s) = s :: senders (reg.erase id) := rfl

end Registry

/-! ## The task -/

inductive BatchTask where
  | idle (reg : Registry)
  | busy (reg : Registry) (m : BatchMsg)
  /-- the request has been forwarded and is not registered yet -/
  | registering (reg : Registry) (correlationId : Uuid) (sender : Nat)

/-- What the task finds: whether the request stream takes a request, or that its channel is
empty and everyone who could send to it is gone. -/
inductive BatchInput where
  | turn (isOpen : Bool)
  | disconnected

namespace BatchTask

def onMsg (reg : Registry) (isOpen : Bool) :
    BatchMsg → List (Nat × AppendResult) × Option BatchTask
  | .input req sender => ([], if isOpen then some (.registering reg req.id sender) else none)
  | .output resp =>
    match reg.lookup resp.correlationId with
    | some entry =>
      match resp.result with
      | .error _ => ([(entry, resp.result)], none)
      | .ok _ => ([(entry, resp.result)], some (.idle (reg.erase resp.correlationId)))
    | none => ([], some (.idle reg))
  | .error e => (reg.senders.map fun sender => (sender, .error e), none)

def work : BatchTask → BatchInput → Option (List (Nat × AppendResult) × Option BatchTask)
  | .idle _, .turn _ => none
  | .idle _, .disconnected => some ([], none)
  | .busy reg m, .turn isOpen => some (onMsg reg isOpen m)
  | .registering reg id sender, .turn _ => some ([], some (.idle (reg.insert id sender)))
  | _, .disconnected => none

end BatchTask

def BatchMsg.sender : BatchMsg → Option Nat
  | .input _ sender => some sender
  | _ => none

def batchActor : Actor BatchTask BatchMsg BatchInput AppendResult where
  recv
    | .idle reg, m => some (.busy reg m)
    | _, _ => none
  work := BatchTask.work
  carries := BatchMsg.sender
  owns
    | .idle reg => reg.senders
    | .busy reg m => m.sender.toList ++ reg.senders
    | .registering reg _ sender => sender :: reg.senders

section

variable {reg : Registry} {isOpen : Bool} {resp : Out}

theorem onMsg_unknown (h : reg.lookup resp.correlationId = none) :
    BatchTask.onMsg reg isOpen (.output resp) = ([], some (.idle reg)) := by
  simp only [BatchTask.onMsg, h]

theorem onMsg_ok {entry : Nat} {r : BatchWriteResult}
    (h : reg.lookup resp.correlationId = some entry) (hr : resp.result = .ok r) :
    BatchTask.onMsg reg isOpen (.output resp) =
      ([(entry, .ok r)], some (.idle (reg.erase resp.correlationId))) := by
  simp only [BatchTask.onMsg, h, hr]

theorem onMsg_failed {entry : Nat} {e : Error} (h : reg.lookup resp.correlationId = some entry)
    (hr : resp.result = .error e) :
    BatchTask.onMsg reg isOpen (.output resp) = ([(entry, .error e)], none) := by
  simp only [BatchTask.onMsg, h, hr]

theorem onMsg_lawful (m : BatchMsg) :
    ((BatchTask.onMsg reg isOpen m).1.map Prod.fst ++
      (BatchTask.onMsg reg isOpen m).2.elim [] batchActor.owns).Subperm
      (m.sender.toList ++ reg.senders) := by
  cases m with
  | input req sender =>
    cases isOpen
    · exact List.nil_subperm
    · exact List.Subperm.refl _
  | output resp =>
    cases h : reg.lookup resp.correlationId with
    | none => rw [onMsg_unknown h]; exact List.Subperm.refl _
    | some entry =>
      cases hr : resp.result with
      | error e =>
        rw [onMsg_failed h hr]
        exact List.Sublist.subperm (List.singleton_sublist.mpr (Registry.mem_senders h))
      | ok r =>
        rw [onMsg_ok h hr]
        exact (Registry.senders_erase h).symm.subperm
  | error e =>
    have hs : ((BatchTask.onMsg reg isOpen (.error e)).1).map Prod.fst = reg.senders := by
      simp only [BatchTask.onMsg, List.map_map]
      exact List.map_id _
    rw [hs]
    exact (List.append_nil _).symm ▸ List.Subperm.refl _

end

theorem batchActor_lawful : batchActor.Lawful where
  recv := by
    intro t m t' h
    cases t with
    | idle reg => cases h; exact List.Perm.refl _
    | busy reg m' => cases h
    | registering reg id sender => cases h
  work := by
    intro t i rs o h
    cases t with
    | idle reg =>
      cases i with
      | turn isOpen => cases h
      | disconnected => cases h; exact List.nil_subperm
    | busy reg m =>
      cases i with
      | turn isOpen =>
        have hm : BatchTask.onMsg reg isOpen m = (rs, o) := Option.some.inj h
        have hl := @onMsg_lawful reg isOpen m
        rw [hm] at hl
        exact hl
      | disconnected => cases h
    | registering reg id sender =>
      cases i with
      | turn isOpen =>
        cases h
        show (Registry.senders (reg.insert id sender)).Subperm (sender :: reg.senders)
        rw [Registry.senders_insert]
        exact ((Registry.senders_erase_sublist reg id).cons_cons sender).subperm
      | disconnected => cases h

/-- What a caller whose one-shot was dropped makes of it. -/
def batchClosed (crates : Crates) : Error :=
  .serverError (crates.statusText .cancelled "Batch-append stream has been closed")

/-- What `append_to_stream` returns; `none` while it waits. -/
def appendToStream (crates : Crates) : Slot AppendResult → Option AppendResult
  | .unused | .waiting => none
  | .answered r => some r
  | .closed => some (.error (batchClosed crates))

end Kurrent
