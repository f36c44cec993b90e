import Mathlib.Data.List.Infix
import Kurrent.Grpc.Settings

/-!
# Connection strings

`ClientSettings::from_str`, `parse_from_url` and `parse_gossip_seed` (`grpc.rs`). The URL
parser is not part of the client: every function here takes what it gives, a `Url` or a
`UrlError`. A list of seeds reaches the settings on one of two ways: as a host with commas
in it, or, when the parser refuses the port behind the first colon, as the path of the same
string with every comma turned into a slash.
-/

namespace Kurrent

open Lib

/-- `url::ParseError` -/
inductive UrlError where
  | emptyHost
  | idnaError
  | invalidPort
  | invalidIpv4Address
  | invalidIpv6Address
  | invalidDomainCharacter
  | relativeUrlWithoutBase
  | relativeUrlWithCannotBeABaseBase
  | setHostOnCannotBeABaseUrl
  | overflow
  deriving DecidableEq, Repr

/-- A parsed URL, as its accessors show it. -/
structure Url where
  scheme : String
  username : String := ""
  password : Option String := none
  /-- `host_str`; `has_host` says whether there is one -/
  host : Option String
  port : Option Nat
  path : String
  pathSegments : Option (List String)
  queryPairs : List (String × String) := []
  deriving DecidableEq, Repr

structure ClientSettingsParseError where
  message : String
  error : Option UrlError := none
  deriving DecidableEq, Repr

abbrev Parsed := Except ClientSettingsParseError ClientSettings

/-! ## Parameters -/

/-- What a `ParseIntError` prints. -/
def intErrorText : IntErrorKind → String
  | .empty => "cannot parse integer from empty string"
  | .invalidDigit => "invalid digit found in string"
  | .posOverflow => "number too large to fit in target type"
  | .negOverflow => "number too small to fit in target type"

/-- `bool::from_str` -/
def parseBool (s : String) : Except String Bool :=
  if s = "true" then .ok true
  else if s = "false" then .ok false
  else .error "provided string was not `true` or `false`"

def parseU64 (s : String) : Except String Nat :=
  (parseUnsigned (2 ^ 64 - 1) s).mapError intErrorText

def parseI64 (s : String) : Except String Int :=
  (parseSigned (2 ^ 63 - 1) s).mapError intErrorText

def parseParam {A : Type} (parse : String → Except String A) (name value : String) :
    Except ClientSettingsParseError A :=
  (parse value).mapError fun e =>
    ⟨s!"Invalid format for param '{name}'. value = '{value}': {e}", none⟩

/-- `to_lowercase`. Beyond ASCII only the two letters are mapped whose lower case has an
ASCII letter in it; no other can make a name or a value known. -/
def toLowercase (s : String) : String :=
  String.ofList (s.toList.flatMap fun c =>
    if c = Char.ofNat 0x212A then ['k']
    else if c = Char.ofNat 0x130 then ['i', Char.ofNat 0x307]
    else [c.toLower])

def parsePreference (value : String) : Except ClientSettingsParseError NodePreference :=
  match toLowercase value with
  | "follower" => .ok .follower
  | "random" => .ok .random
  | "leader" => .ok .leader
  | "readonlyreplica" => .ok .readOnlyReplica
  | unknown => .error ⟨s!"Unknown node preference value '{unknown}'", none⟩

/-- A time in milliseconds where `-1` stands for the longest one. -/
def parseMillis (label : String) (value : Int) : Except ClientSettingsParseError Duration :=
  if value = -1 then .ok (.fromMillis (2 ^ 64 - 1))
  else if value < -1 then
    .error ⟨s!"Invalid {label} of {value}. Please provide a positive integer, or -1 to disable", none⟩
  else .ok (.fromMillis value.toNat)

/-- The keep-alive parameters: a value below the recommended one is left out. -/
def parseKeepAlive (label : String) (recommended : Nat) (value : Int) :
    Except ClientSettingsParseError (Option Duration) :=
  if 0 ≤ value ∧ value < recommended then .ok none
  else (parseMillis label value).map some

def applyParam (result : ClientSettings) (param : String × String) : Parsed :=
  let name := toLowercase param.1
  let value := param.2
  match name with
  | "maxdiscoverattempts" => do
    return { result with maxDiscoverAttempts := ← parseParam parseU64 name value }
  | "discoveryinterval" => do
    return { result with discoveryInterval := .fromMillis (← parseParam parseU64 name value) }
  | "gossiptimeout" => do
    return { result with gossipTimeout := .fromMillis (← parseParam parseU64 name value) }
  | "tls" => do return { result with secure := ← parseParam parseBool name value }
  | "tlsverifycert" => do return { result with tlsVerifyCert := ← parseParam parseBool name value }
  | "nodepreference" => do return { result with preference := ← parsePreference value }
  | "keepaliveinterval" => do
    let value ← parseParam parseI64 name value
    match ← parseKeepAlive "keepAliveInterval" Defaults.keepAliveIntervalInMs value with
    | some d => return { result with keepAliveInterval := d }
    | none => return result
  | "keepalivetimeout" => do
    let value ← parseParam parseI64 name value
    match ← parseKeepAlive "keepAliveTimeout" Defaults.keepAliveTimeoutInMs value with
    | some d => return { result with keepAliveTimeout := d }
    | none => return result
  | "defaultdeadline" => do
    let value ← parseParam parseI64 name value
    return { result with defaultDeadline := some (← parseMillis "defaultDeadline" value) }
  | "connectionname" => .ok { result with connectionName := some value }
  | "usercertfile" => .ok { result with userCertFile := some value }
  | "userkeyfile" => .ok { result with userKeyFile := some value }
  | "tlscafile" => .ok { result with tlsCaFile := some value }
  | _ => .ok result

/-! ## Hosts -/

def supportedProtocols : List String :=
  ["esdb", "esdb+discover", "kurrentdb", "kurrentdb+discover", "kurrent", "kurrent+discover",
    "kdb", "kdb+discover"]

def pushHost (result : ClientSettings) (host : String) (port : Nat) : ClientSettings :=
  { result with hosts := result.hosts ++ [⟨host, port⟩] }

def parseGossipSeed (result : ClientSettings) (host : String) : Parsed :=
  match split ':' host with
  | [_] => .ok (pushHost result host 2113)
  | [name, port] =>
    match parseUnsigned (2 ^ 16 - 1) port with
    | .ok port => .ok (pushHost result name port)
    | .error _ => .error ⟨s!"Invalid port number: {port}", none⟩
  | _ => .error ⟨s!"Invalid host part: '{host}'", none⟩

/-- The hosts of a URL: one with its port, or several separated by commas. -/
def hostsFromUrl (result : ClientSettings) (url : Url) : Parsed :=
  let host := url.host.getD ""
  if ',' ∉ host.toList then .ok (pushHost result host (url.port.getD 2113))
  else (split ',' host).foldlM parseGossipSeed result

def credentialsFromUrl (result : ClientSettings) (url : Url) : ClientSettings :=
  if url.username ≠ "" then
    { result with defaultUserName := some (Credentials.new url.username (url.password.getD "")) }
  else result

def checkCertificates (result : ClientSettings) : Parsed :=
  if result.userKeyFile.isNone ^^ result.userCertFile.isNone then
    .error ⟨"Invalid user certificate settings. Both userCertFile and userKeyFile must be provided",
      none⟩
  else .ok result

def parseFromUrl (result : ClientSettings) (url : Url) : Parsed := do
  if url.scheme ∉ supportedProtocols then
    throw ⟨s!"Unknown URL scheme: {url.scheme}", none⟩
  let result := { result with dnsDiscover := "+discover".toList <:+: url.scheme.toList }
  let result := credentialsFromUrl result url
  if result.hosts = [] ∧ url.path ≠ "" ∧ url.path ≠ "/" then
    throw ⟨s!"Unsupported URL path: {url.path}", none⟩
  if result.hosts = [] ∧ url.host = none then
    throw ⟨"Connection string doesn't have an host", none⟩
  let result ← if result.hosts = [] then hostsFromUrl result url else pure result
  let result ← url.queryPairs.foldlM applyParam result
  checkCertificates result

def ClientSettings.fromStr (parse : String → Except UrlError Url) (s : String) : Parsed :=
  match parse s with
  | .ok url => parseFromUrl {} url
  | .error e =>
    if e = .invalidPort ∧ ',' ∈ s.toList then
      match parse (replaceChar ',' '/' s) with
      | .error _ => .error ⟨s, some e⟩
      | .ok url =>
        match url.host with
        | none => .error ⟨s, some e⟩
        | some host => do
          let setts := pushHost {} host (url.port.getD 2113)
          let setts ← (url.pathSegments.getD []).foldlM parseGossipSeed setts
          parseFromUrl setts url
    else .error ⟨s, some e⟩

end Kurrent
