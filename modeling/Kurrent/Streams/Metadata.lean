import Kurrent.Grpc.Settings
import Kurrent.Lib.Json

/-!
# Stream metadata as JSON

`StreamMetadata`, its access control list and their codec (`types.rs`). Five named fields,
left out of the text when they are `none`, share one object with the user's own
properties: on the way back a property is whatever has none of the five names.
-/

namespace Kurrent

open Lib

/-- Whole milliseconds, the rest cut off. -/
def Duration.asMillis (d : Duration) : Nat := d.nanos / 1000000

structure StreamAcl where
  readRoles : Option (List String) := none
  writeRoles : Option (List String) := none
  deleteRoles : Option (List String) := none
  metaReadRoles : Option (List String) := none
  metaWriteRoles : Option (List String) := none
  deriving DecidableEq, Repr

inductive Acl where
  | userStream
  | systemStream
  | stream (acl : StreamAcl)
  deriving DecidableEq, Repr

structure StreamMetadata where
  maxCount : Option UInt64 := none
  maxAge : Option Duration := none
  truncateBefore : Option UInt64 := none
  cacheControl : Option Duration := none
  acl : Option Acl := none
  customProperties : Finmap fun _ : String => Json := ∅

/-! ## Writing -/

/-- The `u128` of milliseconds is cut down to a `u64`. -/
def serializeDuration (d : Duration) : Json := Json.ofUInt64 (UInt64.ofNat d.asMillis)

/-- A single role is written as a bare string. -/
def serializeRoles (roles : List String) : Json :=
  match roles with
  | [role] => .string role
  | roles => .array (roles.map .string)

def StreamAcl.serialize (acl : StreamAcl) : Json :=
  .object (Json.optEntry "$r" serializeRoles acl.readRoles ++
    Json.optEntry "$w" serializeRoles acl.writeRoles ++
    Json.optEntry "$d" serializeRoles acl.deleteRoles ++
    Json.optEntry "$mr" serializeRoles acl.metaReadRoles ++
    Json.optEntry "$mw" serializeRoles acl.metaWriteRoles)

def serializeAcl : Acl → Json
  | .userStream => .string "$userStreamAcl"
  | .systemStream => .string "$systemStreamAcl"
  | .stream acl => acl.serialize

/-- The named fields of the text, in their order. -/
def StreamMetadata.namedEntries (m : StreamMetadata) : List (String × Json) :=
  Json.optEntry "$maxCount" Json.ofUInt64 m.maxCount ++
    Json.optEntry "$maxAge" serializeDuration m.maxAge ++
    Json.optEntry "$tb" Json.ofUInt64 m.truncateBefore ++
    Json.optEntry "$cacheControl" serializeDuration m.cacheControl ++
    Json.optEntry "$acl" serializeAcl m.acl

/-- The properties follow the named fields, in whatever order their map is visited. -/
def StreamMetadata.serialize (m : StreamMetadata) (order : Visit m.customProperties) : Json :=
  .object (m.namedEntries ++ order.entries)

/-! ## Reading -/

def deserializeU64 : Json.Decoder UInt64
  | .number (.posInt n) => .ok n
  | .number (.negSucc _) => .error (.outOfRange "u64")
  | _ => .error (.invalidType "u64")

def deserializeString : Json.Decoder String
  | .string s => .ok s
  | _ => .error (.invalidType "a string")

/-- `Option`: `null` is `none`. -/
def deserializeOption {A : Type} (decode : Json.Decoder A) : Json.Decoder (Option A)
  | .null => .ok none
  | j => (decode j).map some

/-- The visitor has no case for `null`. -/
def deserializeDuration : Json.Decoder (Option Duration)
  | .number (.posInt n) => .ok (some (.fromMillis n.toNat))
  | _ => .error (.invalidType "a time duration in milliseconds")

def deserializeRoles : Json.Decoder (Option (List String))
  | .string role => .ok (some [role])
  | .array items => (items.mapM deserializeString).map some
  | _ => .error (.invalidType "a KurrentDB role or role list")

/-- A field with a default and a decoder of its own. -/
def defaultField {A : Type} (decode : Json.Decoder (Option A)) (name : String)
    (entries : List (String × Json)) : Except DeError (Option A) :=
  Json.fieldOr none decode name entries

def StreamAcl.deserialize (entries : List (String × Json)) : Except DeError StreamAcl := do
  return {
    readRoles := ← defaultField deserializeRoles "$r" entries
    writeRoles := ← defaultField deserializeRoles "$w" entries
    deleteRoles := ← defaultField deserializeRoles "$d" entries
    metaReadRoles := ← defaultField deserializeRoles "$mr" entries
    metaWriteRoles := ← defaultField deserializeRoles "$mw" entries }

def deserializeAcl : Json.Decoder (Option Acl)
  | .string "$userStreamAcl" => .ok (some .userStream)
  | .string "$systemStreamAcl" => .ok (some .systemStream)
  | .string unknown => .error (.invalidValue unknown "a KurrentDB ACL")
  | .object entries => (StreamAcl.deserialize entries).map fun acl => some (.stream acl)
  | _ => .error (.invalidType "a KurrentDB ACL")

def metadataFields : List String := ["$maxCount", "$maxAge", "$tb", "$cacheControl", "$acl"]

def StreamMetadata.deserialize : Json.Decoder StreamMetadata
  | .object entries => do
    return {
      maxCount := ← defaultField (deserializeOption deserializeU64) "$maxCount" entries
      maxAge := ← defaultField deserializeDuration "$maxAge" entries
      truncateBefore := ← defaultField (deserializeOption deserializeU64) "$tb" entries
      cacheControl := ← defaultField deserializeDuration "$cacheControl" entries
      acl := ← defaultField deserializeAcl "$acl" entries
      customProperties := collect (entries.filter fun e => e.1 ∉ metadataFields) }
  | _ => .error (.invalidType "struct StreamMetadata")

/-! ## One field at a time -/

/-- A field written once, or left out, reads back as its decoder reads its text. -/
theorem defaultField_eq {A : Type} {decode : Json.Decoder (Option A)} {name : String}
    {es : List (String × Json)} {encode : A → Json} {o : Option A} {f : A → A}
    (h : Json.values name es = (o.map encode).toList)
    (hd : ∀ a, decode (encode a) = .ok (some (f a))) :
    defaultField decode name es = .ok (o.map f) := by
  unfold defaultField Json.fieldOr
  cases o with
  | none => rw [Json.optField_none h]; rfl
  | some a => rw [Json.optField_some h, hd a]; rfl

theorem deserializeU64_ofUInt64 (n : UInt64) :
    deserializeOption deserializeU64 (Json.ofUInt64 n) = .ok (some n) := rfl

/-- What a duration is after a round trip. -/
def Duration.cut (d : Duration) : Duration := .fromMillis (d.asMillis % 2 ^ 64)

theorem deserializeDuration_serialize (d : Duration) :
    deserializeDuration (serializeDuration d) = .ok (some d.cut) := by
  simp [serializeDuration, Json.ofUInt64, deserializeDuration, Duration.cut]

theorem mapM_deserializeString (roles : List String) :
    (roles.map Json.string).mapM deserializeString = .ok roles := by
  induction roles with
  | nil => rfl
  | cons role roles ih => simp [ih, deserializeString]; rfl

theorem deserializeRoles_serialize (roles : List String) :
    deserializeRoles (serializeRoles roles) = .ok (some roles) := by
  match roles with
  | [] => rfl
  | [role] => rfl
  | r :: s :: rest =>
    unfold serializeRoles deserializeRoles
    simp only [mapM_deserializeString]
    rfl

theorem deserialize_streamAcl (acl : StreamAcl) :
    deserializeAcl acl.serialize = .ok (some (.stream acl)) := by
  have hr {name : String} {es : List (String × Json)} {o : Option (List String)}
      (h : Json.values name es = (o.map serializeRoles).toList) :
      defaultField deserializeRoles name es = .ok o := by
    rw [defaultField_eq h deserializeRoles_serialize]
    simp
  unfold StreamAcl.serialize deserializeAcl StreamAcl.deserialize
  simp only
  rw [@hr "$r" _ acl.readRoles, @hr "$w" _ acl.writeRoles, @hr "$d" _ acl.deleteRoles,
    @hr "$mr" _ acl.metaReadRoles, @hr "$mw" _ acl.metaWriteRoles]
  · rfl
  all_goals
    simp only [Json.values_append]
    simp [Json.values_optEntry_self, Json.values_optEntry_ne]

theorem deserializeAcl_serialize (acl : Acl) :
    deserializeAcl (serializeAcl acl) = .ok (some acl) := by
  cases acl with
  | userStream => rfl
  | systemStream => rfl
  | stream acl => exact deserialize_streamAcl acl

/-! ## The whole object -/

section

variable {m : StreamMetadata}

/-- A named field stands where it was written when no property has its name. -/
theorem values_serialized {order : Visit m.customProperties} {name : String}
    (h : name ∉ m.customProperties) :
    Json.values name (m.namedEntries ++ order.entries) = Json.values name m.namedEntries := by
  have hnil : Json.values name order.entries = [] := by
    refine Json.values_eq_nil fun e he hn => ?_
    exact h ((mem_entries order).mp (List.mem_map.mpr ⟨e, he, hn⟩))
  rw [Json.values_append, hnil, List.append_nil]

theorem namedEntries_fields {e : String × Json} (he : e ∈ m.namedEntries) :
    e.1 ∈ metadataFields := by
  have hopt {A : Type} {name : String} {encode : A → Json} {o : Option A}
      (h : e ∈ Json.optEntry name encode o) : e.1 = name := by
    cases o with
    | none => cases h
    | some a => rw [List.mem_singleton.mp h]
  simp only [StreamMetadata.namedEntries, List.mem_append] at he
  rcases he with (((he | he) | he) | he) | he <;> simp [hopt he, metadataFields]

theorem custom_serialized {order : Visit m.customProperties}
    (h : ∀ k ∈ m.customProperties, k ∉ metadataFields) :
    collect ((m.namedEntries ++ order.entries).filter fun e => e.1 ∉ metadataFields) =
      m.customProperties := by
  have hnamed : (m.namedEntries.filter fun e => e.1 ∉ metadataFields) = [] := by
    rw [List.filter_eq_nil_iff]
    intro e he
    simpa using namedEntries_fields he
  have hcustom : (order.entries.filter fun e => e.1 ∉ metadataFields) = order.entries := by
    rw [List.filter_eq_self]
    intro e he
    have hk : e.1 ∈ m.customProperties :=
      (mem_entries order).mp (List.mem_map.mpr ⟨e, he, rfl⟩)
    simpa using h e.1 hk
  rw [List.filter_append, hnamed, hcustom, List.nil_append, collect_entries]

/-- What is read back: everything but the parts of a duration the text does not hold. -/
theorem deserialize_serialized (order : Visit m.customProperties)
    (h : ∀ k ∈ m.customProperties, k ∉ metadataFields) :
    StreamMetadata.deserialize (m.serialize order) = .ok { m with
      maxAge := m.maxAge.map Duration.cut
      cacheControl := m.cacheControl.map Duration.cut } := by
  have hk {name : String} (hn : name ∈ metadataFields) : name ∉ m.customProperties :=
    fun hm => h name hm hn
  unfold StreamMetadata.serialize StreamMetadata.deserialize
  simp only
  rw [custom_serialized h,
    @defaultField_eq _ _ "$maxCount" _ Json.ofUInt64 m.maxCount id _ deserializeU64_ofUInt64,
    @defaultField_eq _ _ "$maxAge" _ _ m.maxAge _ _ deserializeDuration_serialize,
    @defaultField_eq _ _ "$tb" _ Json.ofUInt64 m.truncateBefore id _ deserializeU64_ofUInt64,
    @defaultField_eq _ _ "$cacheControl" _ _ m.cacheControl _ _ deserializeDuration_serialize,
    @defaultField_eq _ _ "$acl" _ _ m.acl id _ deserializeAcl_serialize]
  · simp; rfl
  all_goals
    rw [values_serialized (hk (by simp [metadataFields]))]
    simp only [StreamMetadata.namedEntries, Json.values_append]
    simp [Json.values_optEntry_self, Json.values_optEntry_ne]

/-- A property read from the text has none of the five names. -/
theorem custom_deserialized {j : Json} (h : StreamMetadata.deserialize j = .ok m) :
    ∀ k ∈ m.customProperties, k ∉ metadataFields := by
  unfold StreamMetadata.deserialize at h
  split at h
  · next entries =>
    obtain ⟨_, -, h⟩ := bind_eq_ok h
    obtain ⟨_, -, h⟩ := bind_eq_ok h
    obtain ⟨_, -, h⟩ := bind_eq_ok h
    obtain ⟨_, -, h⟩ := bind_eq_ok h
    obtain ⟨_, -, h⟩ := bind_eq_ok h
    cases h
    intro k hk
    obtain ⟨e, he, rfl⟩ := List.mem_map.mp (mem_collect.mp hk)
    simpa using (List.mem_filter.mp he).2
  · cases h

end

theorem Duration.cut_eq_self {d : Duration} :
    d.cut = d ↔ ∃ ms < 2 ^ 64, d = .fromMillis ms := by
  constructor
  · intro h
    exact ⟨d.asMillis % 2 ^ 64, Nat.mod_lt _ (by decide), h.symm⟩
  · rintro ⟨ms, hms, rfl⟩
    have : (Duration.fromMillis ms).asMillis = ms := by
      simp [Duration.fromMillis, Duration.asMillis]
    rw [Duration.cut, this, Nat.mod_eq_of_lt hms]

theorem map_cut_eq_self {o : Option Duration} :
    o.map Duration.cut = o ↔ ∀ d ∈ o, ∃ ms < 2 ^ 64, d = .fromMillis ms := by
  cases o with
  | none => simp
  | some d => simp [Duration.cut_eq_self]

/-- **Metadata survives its text exactly when the text can hold it**: the durations are
whole milliseconds below `2^64`, and no property has the name of a field. -/
theorem metadata_codec (m : StreamMetadata) (order : Visit m.customProperties) :
    StreamMetadata.deserialize (m.serialize order) = .ok m ↔
      (∀ d ∈ m.maxAge, ∃ ms < 2 ^ 64, d = .fromMillis ms) ∧
      (∀ d ∈ m.cacheControl, ∃ ms < 2 ^ 64, d = .fromMillis ms) ∧
      ∀ k ∈ m.customProperties,
        k ∉ ["$maxCount", "$maxAge", "$tb", "$cacheControl", "$acl"] := by
  constructor
  · intro h
    have hk := custom_deserialized h
    rw [deserialize_serialized order hk] at h
    have hm := Except.ok.inj h
    have hage : m.maxAge.map Duration.cut = m.maxAge := congrArg StreamMetadata.maxAge hm
    have hcache : m.cacheControl.map Duration.cut = m.cacheControl :=
      congrArg StreamMetadata.cacheControl hm
    exact ⟨map_cut_eq_self.mp hage, map_cut_eq_self.mp hcache, hk⟩
  · rintro ⟨hage, hcache, hk⟩
    rw [deserialize_serialized order hk, map_cut_eq_self.mpr hage, map_cut_eq_self.mpr hcache]

end Kurrent
