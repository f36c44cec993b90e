import Kurrent.Grpc.Failover
import Kurrent.Lib.Percent
import Kurrent.Persistent.Wire
import Kurrent.Streams.Subscription

/-!
# Managing persistent subscriptions

The five management calls (`commands.rs`). A server that lists all the methods they need is
asked over gRPC; of any other the client asks the HTTP endpoint
(`http/persistent_subscriptions.rs`), but for `$all` only where the server knows groups on
it. `Demand` is what is asked of a server, whichever way. Over HTTP the names are segments
of a path, percent-encoded; a URL parser takes dot segments out of a path, encoded or not.
-/

namespace Kurrent

open Lib

def Features.persistentSubscriptionManagement : Features :=
  .persistentSubscriptionList ||| .persistentSubscriptionReplay |||
    .persistentSubscriptionRestartSubsystem ||| .persistentSubscriptionGetInfo

/-! ## The calls -/

/-- The stream a call is about. -/
inductive StreamKind where
  | regularStream (name : String)
  | allStream
  deriving DecidableEq, Repr

namespace StreamKind

def isAll : StreamKind → Bool
  | regularStream _ => false
  | allStream => true

def name : StreamKind → String
  | regularStream name => name
  | allStream => "$all"

end StreamKind

inductive Manage where
  | listAllPersistentSubscriptions
  | listPersistentSubscriptionsForStream (streamName : StreamKind)
  | replayParkedMessages (streamName : StreamKind) (groupName : String) (stopAt : Option UInt64)
  | getPersistentSubscriptionInfo (streamName : StreamKind) (groupName : String)
  | restartPersistentSubscriptionSubsystem
  deriving DecidableEq, Repr

/-- Whether the call is about `$all` itself. -/
def Manage.isAll : Manage → Bool
  | listPersistentSubscriptionsForStream stream | replayParkedMessages stream _ _
  | getPersistentSubscriptionInfo stream _ => stream.isAll
  | _ => false

/-! ### Over gRPC -/

namespace Proto

/-- `list_req::options::ListOption` -/
inductive ListOption where
  | listAllSubscriptions
  | listForStream (streamOption : Option StreamOption)
  deriving DecidableEq, Repr

/-- `get_info_req::Options` -/
structure GetInfoOptions where
  groupName : String
  streamOption : Option StreamOption
  deriving DecidableEq, Repr

end Proto

inductive GrpcCall where
  | list (listOption : Option Proto.ListOption)
  | replayParked (options : Proto.ReplayParkedOptions)
  | getInfo (options : Proto.GetInfoOptions)
  | restartSubsystem
  deriving DecidableEq, Repr

def StreamKind.streamOption (stream : StreamKind) : Proto.StreamOption :=
  if stream.isAll then .all else .streamIdentifier stream.name.toUTF8.toList

def Manage.grpcCall : Manage → GrpcCall
  | listAllPersistentSubscriptions => .list (some .listAllSubscriptions)
  | listPersistentSubscriptionsForStream stream =>
    .list (some (.listForStream (some stream.streamOption)))
  | replayParkedMessages stream groupName stopAt =>
    .replayParked (replayParkedOptions stream.name groupName stream.isAll stopAt)
  | getPersistentSubscriptionInfo stream groupName =>
    .getInfo ⟨groupName, some stream.streamOption⟩
  | restartPersistentSubscriptionSubsystem => .restartSubsystem

/-! ### Over HTTP -/

def Handle.url (self : Handle) : String :=
  let protocol := if self.secure then "https" else "http"
  s!"{protocol}://{self.endpoint.host}:{self.endpoint.port}"

inductive HttpMethod where
  | get
  | post
  deriving DecidableEq, Repr

structure HttpRequest where
  method : HttpMethod
  url : String
  query : List (String × String) := []
  headers : List (String × String)
  deriving DecidableEq, Repr

/-- `urlencoding::encode` -/
def urlencode (s : String) : String := percentEncode isUnreserved s

/-- The header of `basic_auth`, of the bytes as they are. -/
def basicAuth (crates : Crates) (creds : Credentials) : String :=
  "Basic " ++ crates.base64 (creds.login ++ 58 :: creds.password)

def httpConfigureAuth (crates : Crates) (builder : HttpRequest) (credsOpt : Option Credentials) :
    HttpRequest :=
  match credsOpt with
  | some creds =>
    { builder with headers := builder.headers ++
        [("authorization", basicAuth crates creds)] }
  | none => builder

section

variable (crates : Crates) (settings : ClientSettings) (options : CommonOperationOptions)
  (handle : Handle)

/-- A `GET` of a path of the node. -/
def httpGet (path : String) : HttpRequest :=
  httpConfigureAuth crates
    { method := .get, url := handle.url ++ path, headers := [("content-type", "application/json")] }
    (options.credentials.or settings.defaultUserName)

/-- A `POST` without a body. -/
def httpPost (path : String) (query : List (String × String)) : HttpRequest :=
  httpConfigureAuth crates
    { method := .post, url := handle.url ++ path, query
      headers := [("content-type", "application/json"), ("content-length", "0")] }
    (options.credentials.or settings.defaultUserName)

def Manage.path : Manage → String
  | listAllPersistentSubscriptions => "/subscriptions"
  | listPersistentSubscriptionsForStream stream => "/subscriptions/" ++ urlencode stream.name
  | replayParkedMessages stream groupName _ =>
    "/subscriptions/" ++ urlencode stream.name ++ "/" ++ urlencode groupName ++ "/replayParked"
  | getPersistentSubscriptionInfo stream groupName =>
    "/subscriptions/" ++ urlencode stream.name ++ "/" ++ urlencode groupName ++ "/info"
  | restartPersistentSubscriptionSubsystem => "/subscriptions/restart"

def Manage.http (op : Manage) : HttpRequest :=
  match op with
  | listAllPersistentSubscriptions | listPersistentSubscriptionsForStream _
  | getPersistentSubscriptionInfo _ _ => httpGet crates settings options handle op.path
  | replayParkedMessages _ _ (some stopAt) =>
    httpPost crates settings options handle op.path [("stopAt", stopAt.toNat.repr)]
  | replayParkedMessages _ _ none | restartPersistentSubscriptionSubsystem =>
    httpPost crates settings options handle op.path []

/-! ### Either way -/

/-- What leaves the client. -/
inductive Outgoing where
  | grpc (call : GrpcCall) (metadata : MetadataMap)
  | http (request : HttpRequest)
  deriving DecidableEq, Repr

/-- A management call, once the node is selected. -/
def Manage.send (op : Manage) : Call (Except Error Outgoing) :=
  if !handle.serverInfo.containsFeatures .persistentSubscriptionManagement then
    if op.isAll && !handle.serverInfo.containsFeatures .persistentSubscriptionToAll then
      .ret (.error .unsupportedFeature)
    else .ret (.ok (.http (op.http crates settings options handle)))
  else do
    let metadata ← buildRequestMetadata crates settings options
    return .ok (.grpc op.grpcCall metadata)

end

/-! ## What is asked of a server -/

def StreamKind.target : StreamKind → Target
  | regularStream name => .stream (Lib.utf8 name)
  | allStream => .all

def Proto.StreamOption.target : Proto.StreamOption → Target
  | streamIdentifier name => .stream name
  | all => .all

def Proto.StopAtOption.limit : Proto.StopAtOption → Option Int
  | stopAt limit => some limit.toInt
  | noLimit => none

namespace Features

end Features

/-- A name that is not taken for a dot segment. -/
def NoDots (name : String) : Prop := name ≠ "." ∧ name ≠ ".."

def StreamKind.Plain : StreamKind → Prop
  | regularStream name => NoDots name ∧ name ≠ "$all"
  | allStream => True

/-- The names stand in a path as what they are. -/
def Manage.Plain : Manage → Prop
  | listPersistentSubscriptionsForStream stream => stream.Plain
  | replayParkedMessages stream groupName _ | getPersistentSubscriptionInfo stream groupName =>
    stream.Plain ∧ NoDots groupName
  | _ => True

def Manage.method : Manage → HttpMethod
  | replayParkedMessages _ _ _ | restartPersistentSubscriptionSubsystem => .post
  | _ => .get

/-- The path, name by name. -/
def Manage.names : Manage → List String
  | listAllPersistentSubscriptions => ["subscriptions"]
  | listPersistentSubscriptionsForStream stream => ["subscriptions", stream.name]
  | replayParkedMessages stream groupName _ =>
    ["subscriptions", stream.name, groupName, "replayParked"]
  | getPersistentSubscriptionInfo stream groupName =>
    ["subscriptions", stream.name, groupName, "info"]
  | restartPersistentSubscriptionSubsystem => ["subscriptions", "restart"]

def Manage.query : Manage → List (String × String)
  | replayParkedMessages _ _ (some stopAt) => [("stopAt", stopAt.toNat.repr)]
  | _ => []

section

variable {crates : Crates} {settings : ClientSettings} {options : CommonOperationOptions}
  {handle : Handle}

end

/-! ### Dot segments -/

section

variable {crates : Crates} {settings : ClientSettings} {options : CommonOperationOptions}
  {handle : Handle}

end

end Kurrent
