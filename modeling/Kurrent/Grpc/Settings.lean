import Kurrent.Types

/-!
# Client settings and request metadata

`ClientSettings` with its defaults, the URIs built from it and the metadata attached to
every request (`request.rs`). What the client takes from other packages is collected in
`Crates`: the URI and UUID parsers, the check on metadata values and base64.
-/

namespace Kurrent

open Lib

structure Duration where
  nanos : Nat
  deriving DecidableEq, Repr

def Duration.fromMillis (ms : Nat) : Duration := ⟨ms * 1000000⟩

def Duration.fromSecs (s : Nat) : Duration := ⟨s * 1000000000⟩

/-- A parsed `hyper::Uri`, as the text it prints. -/
structure Uri where
  text : String
  deriving DecidableEq, Repr

/-- The functions of other packages the client calls. -/
structure Crates where
  /-- `hyper::Uri::from_maybe_shared` -/
  hyperUri : String → Option Uri
  /-- `uuid::Uuid::from_str` -/
  parseUuid : String → Option Uuid
  /-- whether `MetadataValue::try_from` accepts the text -/
  metadataValue : String → Bool
  /-- the standard base64 engine -/
  base64 : List UInt8 → String
  /-- `String::from_utf8_lossy` -/
  utf8Lossy : List UInt8 → String
  /-- what a `tonic::Status` with this code and message, and nothing else, prints -/
  statusText : Code → String → String

/-- `Status::new` -/
def Crates.status (crates : Crates) (code : Code) (message : String) : Status :=
  ⟨code, message, [], crates.statusText code message⟩

namespace Defaults

def keepAliveIntervalInMs : Nat := 10000

def keepAliveTimeoutInMs : Nat := 10000

end Defaults

structure ClientSettings where
  dnsDiscover : Bool := false
  hosts : List Endpoint := []
  maxDiscoverAttempts : Nat := 3
  discoveryInterval : Duration := .fromMillis 500
  gossipTimeout : Duration := .fromSecs 3
  preference : NodePreference := .leader
  secure : Bool := true
  tlsVerifyCert : Bool := true
  defaultUserName : Option Credentials := none
  keepAliveInterval : Duration := .fromMillis Defaults.keepAliveIntervalInMs
  keepAliveTimeout : Duration := .fromMillis Defaults.keepAliveTimeoutInMs
  defaultDeadline : Option Duration := none
  connectionName : Option String := none
  tlsCaFile : Option String := none
  userCertFile : Option String := none
  userKeyFile : Option String := none
  deriving DecidableEq, Repr

namespace ClientSettings

def scheme (setts : ClientSettings) : String := if setts.secure then "https" else "http"

/-- The text a node's URI is parsed from. -/
def uriText (setts : ClientSettings) (endpoint : Endpoint) : String :=
  s!"{setts.scheme}://{endpoint.host}:{endpoint.port}"

def toHyperUri (crates : Crates) (setts : ClientSettings) (endpoint : Endpoint) : Call Uri :=
  Call.expect "called `Result::unwrap()` on an `Err` value"
    (crates.hyperUri (setts.uriText endpoint))

end ClientSettings

/-! ## Request metadata -/

structure CommonOperationOptions where
  credentials : Option Credentials := none
  requiresLeader : Bool := false
  deadline : Option Duration := none
  deriving DecidableEq, Repr

abbrev MetadataMap := List (String × String)

/-- A header value, or the panic of the `expect` around it. -/
def metadataEntry (crates : Crates) (key value expected : String) : Call MetadataMap :=
  if crates.metadataValue value then .ret [(key, value)] else .panic expected

def buildRequestMetadata (crates : Crates) (settings : ClientSettings)
    (options : CommonOperationOptions) : Call MetadataMap := do
  let authorization ←
    match options.credentials.or settings.defaultUserName with
    | some creds =>
      let login := crates.utf8Lossy creds.login
      let password := crates.utf8Lossy creds.password
      let basic := crates.base64 (login ++ ":" ++ password).toUTF8.toList
      metadataEntry crates "authorization" ("Basic " ++ basic)
        "Auth header value should be valid metadata header value"
    | none => pure []
  let requiresLeader ←
    if options.requiresLeader || settings.preference = .leader then
      metadataEntry crates "requires-leader" "true" "valid metadata header value"
    else pure []
  let connectionName ←
    match settings.connectionName with
    | some name => metadataEntry crates "connection-name" name "valid metadata header value"
    | none => pure []
  pure (authorization ++ requiresLeader ++ connectionName)

end Kurrent
