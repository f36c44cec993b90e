import Kurrent.Grpc.Settings

/-!
# Server features

`supportedMethods` turns the answer of the server-features endpoint into a `ServerInfo`:
the version from the digits and dots of the server's version text, and one flag for every
method the client can only use when the server lists it.
-/

namespace Kurrent

open Lib

/-- The feature flags, one bit each. -/
abbrev Features := BitVec 32

namespace Features

def nothing : Features := 0
def batchAppend : Features := 1
def persistentSubscriptionList : Features := 2
def persistentSubscriptionReplay : Features := 4
def persistentSubscriptionRestartSubsystem : Features := 8
def persistentSubscriptionGetInfo : Features := 16
def persistentSubscriptionToAll : Features := 32

def contains (fs f : Features) : Bool := fs &&& f == f

end Features

structure ServerVersion where
  major : Nat := 0
  minor : Nat := 0
  patch : Nat := 0
  deriving DecidableEq, Repr

structure ServerInfo where
  version : ServerVersion := {}
  features : Features := .nothing
  deriving DecidableEq, Repr

def ServerInfo.containsFeatures (info : ServerInfo) (feats : Features) : Bool :=
  info.features.contains feats

structure SupportedMethod where
  methodName : String
  serviceName : String
  features : List String
  deriving DecidableEq, Repr

/-- The answer of the endpoint. -/
structure SupportedMethods where
  methods : List SupportedMethod
  eventStoreServerVersion : String
  deriving DecidableEq, Repr

/-- The version's parts in turn: the first three set a field each, the rest is not looked at. -/
def parseSemver (crates : Crates) : Nat → ServerVersion → List String → Except Status ServerVersion
  | _, version, [] => .ok version
  | idx, version, ver :: rest =>
    if 2 < idx then .ok version
    else match parseUnsigned (2 ^ 64 - 1) ver with
      | .error _ => .error (crates.status .invalidArgument "invalid semver format")
      | .ok v =>
        let version := match idx with
          | 0 => { version with major := v }
          | 1 => { version with minor := v }
          | _ => { version with patch := v }
        parseSemver crates (idx + 1) version rest

def streamsService : String := "event_store.client.streams.streams"

def persistentService : String :=
  "event_store.client.persistent_subscriptions.persistentsubscriptions"

def methodFeatures (m : SupportedMethod) : Features :=
  if m.methodName = "batchappend" ∧ m.serviceName = streamsService then .batchAppend
  else if m.serviceName = persistentService then
    match m.methodName with
    | "create" => if "all" ∈ m.features then .persistentSubscriptionToAll else .nothing
    | "getinfo" => .persistentSubscriptionGetInfo
    | "replayparked" => .persistentSubscriptionReplay
    | "list" => .persistentSubscriptionList
    | "restartsubsystem" => .persistentSubscriptionRestartSubsystem
    | _ => .nothing
  else .nothing

def supportedMethods (crates : Crates) (methods : SupportedMethods) : Except Status ServerInfo := do
  let semver := String.ofList
    (methods.eventStoreServerVersion.toList.filter fun c => c.isDigit || c == '.')
  let version ← parseSemver crates 0 {} (split '.' semver)
  return ⟨version, methods.methods.foldl (fun fs m => fs ||| methodFeatures m) .nothing⟩

end Kurrent
