import Kurrent.Grpc.Settings

/-!
# Gossip

The members of a cluster as a node reports them (`operations/gossip.rs`). `Gossip.read`
decodes the answer of a gossip call: a status, or the members, each with a known state
and an endpoint; one member that has neither fails the whole read.
-/

namespace Kurrent

open Lib

inductive VNodeState where
  | initializing
  | discoverLeader
  | unknown
  | preReplica
  | catchingUp
  | clone
  | follower
  | preLeader
  | leader
  | manager
  | shuttingDown
  | shutdown
  | readOnlyLeaderLess
  | preReadOnlyReplica
  | readOnlyReplica
  | resigningLeader
  deriving DecidableEq, Repr

def VNodeState.fromI32 (crates : Crates) (value : Int) : Except Status VNodeState :=
  match value with
  | 0 => .ok .initializing
  | 1 => .ok .discoverLeader
  | 2 => .ok .unknown
  | 3 => .ok .preReplica
  | 4 => .ok .catchingUp
  | 5 => .ok .clone
  | 6 => .ok .follower
  | 7 => .ok .preLeader
  | 8 => .ok .leader
  | 9 => .ok .manager
  | 10 => .ok .shuttingDown
  | 11 => .ok .shutdown
  | 12 => .ok .readOnlyLeaderLess
  | 13 => .ok .preReadOnlyReplica
  | 14 => .ok .readOnlyReplica
  | 15 => .ok .resigningLeader
  | _ => .error (crates.status .outOfRange s!"Unknown VNodeState value: {value}")

def NodePreference.matchPreference : NodePreference → VNodeState → Bool
  | .leader, .leader => true
  | .follower, .follower => true
  | .readOnlyReplica, .readOnlyReplica => true
  | .readOnlyReplica, .readOnlyLeaderLess => true
  | .readOnlyReplica, .preReadOnlyReplica => true
  | _, _ => false

/-- A UUID on the wire: absent, two 64-bit words, or text. -/
inductive WireUuid where
  | none
  | structured (mostSignificantBits leastSignificantBits : BitVec 64)
  | string (text : String)
  deriving DecidableEq, Repr

/-- `BigEndian::write_i64` -/
def beBytes (w : BitVec 64) : List (BitVec 8) :=
  (List.range 8).map fun i => w.extractLsb' (56 - 8 * i) 8

def Uuid.fromBytes (bs : List (BitVec 8)) : Uuid :=
  bs.foldl (fun acc b => acc <<< 8 ||| b.setWidth 128) 0

def WireUuid.tryInto (crates : Crates) : WireUuid → Option Uuid
  | .none => some Uuid.nil
  | .structured most least => some (Uuid.fromBytes (beBytes most ++ beBytes least))
  | .string text => crates.parseUuid text

structure WireMember where
  instanceId : Option WireUuid
  timeStamp : Int
  state : Int
  isAlive : Bool
  httpEndPoint : Option Endpoint
  deriving DecidableEq, Repr

structure MemberInfo where
  instanceId : Uuid
  timeStamp : Int
  state : VNodeState
  isAlive : Bool
  httpEndPoint : Endpoint
  deriving DecidableEq, Repr

namespace Gossip

def readMember (crates : Crates) (wire : WireMember) : Call (Except Status MemberInfo) :=
  match VNodeState.fromI32 crates wire.state with
  | .error status => .ret (.error status)
  | .ok state => do
    let instanceId ←
      match wire.instanceId with
      | some uuid =>
        Call.expect "called `Result::unwrap()` on an `Err` value" (uuid.tryInto crates)
      | none => pure Uuid.nil
    match wire.httpEndPoint with
    | none =>
      pure (.error (crates.status .failedPrecondition "MemberInfo endpoint must be defined"))
    | some endpoint => pure (.ok ⟨instanceId, wire.timeStamp, state, wire.isAlive, endpoint⟩)

def readMembers (crates : Crates) : List WireMember → Call (Except Status (List MemberInfo))
  | [] => .ret (.ok [])
  | wire :: rest => do
    match ← readMember crates wire with
    | .error status => pure (.error status)
    | .ok member =>
      match ← readMembers crates rest with
      | .error status => pure (.error status)
      | .ok members => pure (.ok (member :: members))

end Gossip

/-- What a remote call under a timeout gives. -/
inductive Reply (α : Type) where
  | timeout
  | answer (r : Except Status α)

/-- A gossip call under its timeout; the request's metadata is built before anything is
awaited. `none` is an elapsed timeout. -/
def Gossip.read (crates : Crates) (settings : ClientSettings) (reply : Reply (List WireMember)) :
    Call (Option (Except Status (List MemberInfo))) := do
  let _ ← buildRequestMetadata crates settings {}
  match reply with
  | .timeout => pure none
  | .answer (.error status) => pure (some (.error status))
  | .answer (.ok wireMembers) => do
    let members ← Gossip.readMembers crates wireMembers
    pure (some members)

end Kurrent
