import Kurrent.Grpc.AcceptedSettings
import Kurrent.Persistent.Info

/-!
# Client settings as JSON

`ClientSettings` has derived codecs, with hand-written ones for its durations and for the two
halves of the credentials (`grpc.rs`, `types.rs`). A duration is written as an unsigned number of
milliseconds, and the credentials as numbers, one for each byte. The visitors that read them have
a case for signed numbers and for texts only. What is read is what `serde_json` shows a visitor:
a number that is not negative is an unsigned one.
-/

namespace Kurrent

open Lib

/-! ## Durations -/

namespace ClientSettings

/-- The `u128` of milliseconds is cut down to a `u64`. -/
def serializeDuration (value : Duration) : Json := Json.ofUInt64 (UInt64.ofNat value.asMillis)

def serializeOptionalDuration : Option Duration → Json
  | some value => serializeDuration value
  | none => .null

/-- The one case of `DurationVisitor`; `-1` is the longest there is. -/
def visitI64 (v : Int64) : Duration :=
  if v.toInt = -1 then .fromMillis (2 ^ 64 - 1) else .fromMillis v.toUInt64.toNat

/-- A number of either kind is shown to the visitor as what it is, whichever was asked for. -/
def deserializeDuration : Json.Decoder Duration
  | .number (.negSucc n) => .ok (visitI64 (Int64.ofInt (Int.negSucc n)))
  | _ => .error (.invalidType "duration in milliseconds")

def deserializeOptionalDuration : Json.Decoder (Option Duration) :=
  deserializeOption deserializeDuration

end ClientSettings

/-! ## Credentials, endpoints and preferences -/

/-- `serialize_bytes` -/
def serializeCredsBytes (value : List UInt8) : Json :=
  .array (value.map fun b => Json.ofUInt64 b.toUInt64)

def deserializeCredsBytes : Json.Decoder (List UInt8)
  | .string s => .ok s.toUTF8.toList
  | _ => .error (.invalidType "ASCII string")

def Credentials.serialize (creds : Credentials) : Json :=
  .object [("login", serializeCredsBytes creds.login),
    ("password", serializeCredsBytes creds.password)]

def Credentials.deserialize : Json.Decoder Credentials :=
  deserializeStruct "struct Credentials" fun es => do
    return {
      login := ← Json.field deserializeCredsBytes "login" es
      password := ← Json.field deserializeCredsBytes "password" es }

def deserializeU32 : Json.Decoder Nat
  | .number (.posInt n) => if n.toNat < 2 ^ 32 then .ok n.toNat else .error (.outOfRange "u32")
  | .number (.negSucc _) => .error (.outOfRange "u32")
  | _ => .error (.invalidType "u32")

def Endpoint.serialize (e : Endpoint) : Json :=
  .object [("host", .string e.host), ("port", Json.ofUInt64 (UInt64.ofNat e.port))]

def Endpoint.deserialize : Json.Decoder Endpoint :=
  deserializeStruct "struct Endpoint" fun es => do
    return {
      host := ← Json.field deserializeString "host" es
      port := ← Json.field deserializeU32 "port" es }

def NodePreference.serialize : NodePreference → Json
  | .leader => .string "Leader"
  | .follower => .string "Follower"
  | .random => .string "Random"
  | .readOnlyReplica => .string "ReadOnlyReplica"

def NodePreference.deserialize : Json.Decoder NodePreference
  | .string "Leader" => .ok .leader
  | .string "Follower" => .ok .follower
  | .string "Random" => .ok .random
  | .string "ReadOnlyReplica" => .ok .readOnlyReplica
  | .string variant => .error (.unknownVariant variant)
  | .object [("Leader", .null)] => .ok .leader
  | .object [("Follower", .null)] => .ok .follower
  | .object [("Random", .null)] => .ok .random
  | .object [("ReadOnlyReplica", .null)] => .ok .readOnlyReplica
  | _ => .error (.invalidType "enum NodePreference")

/-! ## The settings -/

namespace ClientSettings

/-- An option without a codec of its own. -/
def serializeOption {A : Type} (encode : A → Json) : Option A → Json
  | some a => encode a
  | none => .null

def entries (setts : ClientSettings) : List (String × Json) :=
  [("dns_discover", .bool setts.dnsDiscover),
    ("hosts", .array (setts.hosts.map Endpoint.serialize)),
    ("max_discover_attempts", Json.ofUInt64 (UInt64.ofNat setts.maxDiscoverAttempts)),
    ("discovery_interval", serializeDuration setts.discoveryInterval),
    ("gossip_timeout", serializeDuration setts.gossipTimeout),
    ("preference", setts.preference.serialize),
    ("secure", .bool setts.secure),
    ("tls_verify_cert", .bool setts.tlsVerifyCert),
    ("default_user_name", serializeOption Credentials.serialize setts.defaultUserName),
    ("keep_alive_interval", serializeDuration setts.keepAliveInterval),
    ("keep_alive_timeout", serializeDuration setts.keepAliveTimeout),
    ("default_deadline", serializeOptionalDuration setts.defaultDeadline),
    ("connection_name", serializeOption Json.string setts.connectionName),
    ("tls_ca_file", serializeOption Json.string setts.tlsCaFile),
    ("user_cert_file", serializeOption Json.string setts.userCertFile),
    ("user_key_file", serializeOption Json.string setts.userKeyFile)]

def serialize (setts : ClientSettings) : Json := .object setts.entries

/-- The defaults are those of `ClientSettings::default`. -/
def deserialize : Json.Decoder ClientSettings :=
  deserializeStruct "struct ClientSettings" fun es => do
    let default : ClientSettings := {}
    return {
      dnsDiscover := ← Json.fieldOr false deserializeBool "dns_discover" es
      hosts := ← Json.fieldOr [] (deserializeSeq Endpoint.deserialize "a sequence") "hosts" es
      maxDiscoverAttempts := (← Json.fieldOr (UInt64.ofNat default.maxDiscoverAttempts)
        deserializeU64 "max_discover_attempts" es).toNat
      discoveryInterval := ←
        Json.fieldOr default.discoveryInterval deserializeDuration "discovery_interval" es
      gossipTimeout := ← Json.fieldOr default.gossipTimeout deserializeDuration "gossip_timeout" es
      preference := ←
        Json.fieldOr default.preference NodePreference.deserialize "preference" es
      secure := ← Json.fieldOr default.secure deserializeBool "secure" es
      tlsVerifyCert := ← Json.fieldOr default.tlsVerifyCert deserializeBool "tls_verify_cert" es
      defaultUserName := ←
        defaultField (deserializeOption Credentials.deserialize) "default_user_name" es
      keepAliveInterval := ←
        Json.fieldOr default.keepAliveInterval deserializeDuration "keep_alive_interval" es
      keepAliveTimeout := ←
        Json.fieldOr default.keepAliveTimeout deserializeDuration "keep_alive_timeout" es
      defaultDeadline := ← defaultField deserializeOptionalDuration "default_deadline" es
      connectionName := ← defaultField (deserializeOption deserializeString) "connection_name" es
      tlsCaFile := ← defaultField (deserializeOption deserializeString) "tls_ca_file" es
      userCertFile := ← defaultField (deserializeOption deserializeString) "user_cert_file" es
      userKeyFile := ← defaultField (deserializeOption deserializeString) "user_key_file" es }

/-! ## What is read of what was written -/

/-- A duration is read of a number below zero, and of nothing else. -/
theorem deserializeDuration_ok_iff {j : Json} {d : Duration} :
    deserializeDuration j = .ok d ↔
      ∃ n, j = .number (.negSucc n) ∧ d = visitI64 (Int64.ofInt (Int.negSucc n)) := by
  refine ⟨fun h => ?_, ?_⟩
  · unfold deserializeDuration at h
    split at h
    next n => exact ⟨n, rfl, (Except.ok.inj h).symm⟩
    next => cases h
  · rintro ⟨n, hj, hd⟩
    rw [hj, hd, deserializeDuration]

theorem deserializeDuration_serialize (d : Duration) : deserializeDuration (serializeDuration d) =
    .error (.invalidType "duration in milliseconds") := rfl

theorem deserializeOptionalDuration_serialize_iff {o : Option Duration} :
    deserializeOptionalDuration (serializeOptionalDuration o) = .ok o ↔ o = none := by
  cases o with
  | none => exact ⟨fun _ => rfl, fun _ => rfl⟩
  | some d => exact ⟨fun h => (by cases h), fun h => (by cases h)⟩

theorem credentials_serialize (creds : Credentials) :
    Credentials.deserialize creds.serialize = .error (.invalidType "ASCII string") := by
  have hlogin : Json.values "login" [("login", serializeCredsBytes creds.login),
      ("password", serializeCredsBytes creds.password)] = [serializeCredsBytes creds.login] := by
    simp [Json.values]
  unfold Credentials.serialize Credentials.deserialize deserializeStruct Json.field
  simp only
  rw [Json.optField_some hlogin]
  rfl

theorem defaultUserName_serialize_iff {o : Option Credentials} :
    deserializeOption Credentials.deserialize (serializeOption Credentials.serialize o) = .ok o ↔
      o = none := by
  cases o with
  | none => exact ⟨fun _ => rfl, fun _ => rfl⟩
  | some creds =>
    refine ⟨fun h => ?_, fun h => (by cases h)⟩
    have hread : deserializeOption Credentials.deserialize creds.serialize =
      (Credentials.deserialize creds.serialize).map some := rfl
    rw [serializeOption, hread, credentials_serialize] at h
    cases h

theorem discoveryInterval_refused (setts : ClientSettings) (default : Duration) :
    Json.fieldOr default deserializeDuration "discovery_interval" setts.entries =
      .error (.invalidType "duration in milliseconds") := by
  have hvalues : Json.values "discovery_interval" setts.entries =
      [serializeDuration setts.discoveryInterval] := by
    simp [Json.values, entries]
  unfold Json.fieldOr
  rw [Json.optField_some hvalues, deserializeDuration_serialize]
  rfl

/-- **No settings are read back**, and what stops it is in the codecs written by hand: no duration
is read back, an optional one only if it is none, and credentials only if there are none. -/
theorem settings_json_refused (setts : ClientSettings) :
    (∀ setts', deserialize setts.serialize ≠ .ok setts') ∧
    (∀ d d' : Duration, deserializeDuration (serializeDuration d) ≠ .ok d') ∧
    (∀ o, deserializeOptionalDuration (serializeOptionalDuration o) = .ok o ↔ o = none) ∧
    ∀ o, deserializeOption Credentials.deserialize (serializeOption Credentials.serialize o) =
      .ok o ↔ o = none := by
  refine ⟨fun setts' h => ?_, fun d d' h => ?_, fun _ => deserializeOptionalDuration_serialize_iff,
    fun _ => defaultUserName_serialize_iff⟩
  · unfold deserialize serialize deserializeStruct at h
    simp only at h
    obtain ⟨_, -, h⟩ := bind_eq_ok h
    obtain ⟨_, -, h⟩ := bind_eq_ok h
    obtain ⟨_, -, h⟩ := bind_eq_ok h
    obtain ⟨_, hinterval, -⟩ := bind_eq_ok h
    rw [discoveryInterval_refused] at hinterval
    cases hinterval
  · obtain ⟨n, hj, -⟩ := deserializeDuration_ok_iff.mp h
    cases hj

end ClientSettings

/-! ## Where reading stops -/

theorem endpoint_serialize {e : Endpoint} (h : e.port < 2 ^ 32) :
    Endpoint.deserialize e.serialize = .ok e := by
  have hhost : Json.values "host" [("host", .string e.host),
      ("port", Json.ofUInt64 (UInt64.ofNat e.port))] = [.string e.host] := by
    simp [Json.values]
  have hport : Json.values "port" [("host", .string e.host),
      ("port", Json.ofUInt64 (UInt64.ofNat e.port))] = [Json.ofUInt64 (UInt64.ofNat e.port)] := by
    simp [Json.values]
  have hread : deserializeU32 (Json.ofUInt64 (UInt64.ofNat e.port)) = .ok e.port := by
    have hnat : (UInt64.ofNat e.port).toNat = e.port := by
      rw [UInt64.toNat_ofNat']
      omega
    simp only [deserializeU32, Json.ofUInt64, hnat]
    rw [if_pos h]
  unfold Endpoint.serialize Endpoint.deserialize deserializeStruct Json.field
  simp only
  rw [Json.optField_some hhost, Json.optField_some hport, hread]
  rfl

theorem endpoints_serialize {hosts : List Endpoint} (h : ∀ e ∈ hosts, e.port < 2 ^ 32) :
    (hosts.map Endpoint.serialize).mapM Endpoint.deserialize = .ok hosts := by
  induction hosts with
  | nil => rfl
  | cons e hosts ih =>
    rw [List.forall_mem_cons] at h
    simp only [List.map_cons, List.mapM_cons, endpoint_serialize h.1, ih h.2]
    rfl

namespace ClientSettings

/-- Settings that were accepted are read as far as the first of their durations. -/
theorem accepted_json_error {parse : String → Except UrlError Url} {s : String}
    {setts : ClientSettings} (hp : PortsFit parse) (h : fromStr parse s = .ok setts) :
    deserialize setts.serialize = .error (.invalidType "duration in milliseconds") := by
  obtain ⟨url, -, haccepted, -⟩ := accepted_settings hp h
  have hports : ∀ e ∈ setts.hosts, e.port < 2 ^ 32 := fun e he => by
    have := haccepted.ports e he
    omega
  have hdns : Json.values "dns_discover" setts.entries = [.bool setts.dnsDiscover] := by
    simp [Json.values, entries]
  have hhosts : Json.values "hosts" setts.entries =
      [.array (setts.hosts.map Endpoint.serialize)] := by
    simp [Json.values, entries]
  have hattempts : Json.values "max_discover_attempts" setts.entries =
      [Json.ofUInt64 (UInt64.ofNat setts.maxDiscoverAttempts)] := by
    simp [Json.values, entries]
  have hread : deserializeSeq Endpoint.deserialize "a sequence"
      (.array (setts.hosts.map Endpoint.serialize)) = .ok setts.hosts := endpoints_serialize hports
  unfold deserialize serialize deserializeStruct
  simp only
  rw [discoveryInterval_refused]
  unfold Json.fieldOr
  rw [Json.optField_some hdns, Json.optField_some hhosts, Json.optField_some hattempts, hread]
  rfl

/-- A single node, without a limit on its calls. -/
theorem localhost_json_refused : ∃ setts,
    fromStr listUrl "esdb://localhost:2113?defaultDeadline=-1" = .ok setts ∧
      deserialize setts.serialize = .error (.invalidType "duration in milliseconds") := by
  obtain ⟨setts, hs⟩ := exists_ok (show (fromStr listUrl
    "esdb://localhost:2113?defaultDeadline=-1").toOption.isSome = true by decide +kernel)
  exact ⟨setts, hs, accepted_json_error listUrl_ports hs⟩

end ClientSettings

end Kurrent
