import Kurrent.Lib.BigEndian
import Kurrent.Streams.Proposed
import Kurrent.Grpc.Gossip

/-!
# Uuids on the wire

A uuid is sent as two signed words and read back through a buffer of sixteen bytes
(`event_store/generated.rs`). The conversions here go byte by byte as the source does; the
shorter ones that the events and the gossip are read with are the same.
-/

namespace Kurrent

open Lib

/-- `BigEndian::write_i64`, into the first eight bytes -/
def writeI64 (buf : Bytes) (n : Int64) : Bytes :=
  BigEndian.toBytes 8 n.toBitVec.toNat ++ buf.drop 8

/-- `uuid::Uuid::from_bytes` -/
def Uuid.ofBuffer (buf : Bytes) : Uuid := BitVec.ofNat 128 (BigEndian.ofBytes buf)

/-- `uuid::Uuid::as_bytes` -/
def Uuid.asBytes (u : Uuid) : Bytes := BigEndian.toBytes 16 u.toNat

/-- The buffer of the two words. -/
def Proto.structuredBuffer (mostSignificantBits leastSignificantBits : Int64) : Bytes :=
  let buf := List.replicate 16 0
  let buf := writeI64 buf mostSignificantBits
  buf.take 8 ++ writeI64 (buf.drop 8) leastSignificantBits

/-- `TryFrom<common::Uuid> for uuid::Uuid` -/
def Proto.Uuid.tryFrom (crates : Crates) (value : Proto.Uuid) : Option Kurrent.Uuid :=
  match value.value with
  | some (.structured most least) =>
    some (Kurrent.Uuid.ofBuffer (Proto.structuredBuffer most least))
  | some (.string s) => crates.parseUuid s
  | none => some Kurrent.Uuid.nil

namespace Proto

variable (most least : Int64)

theorem structuredBuffer_eq : structuredBuffer most least =
    BigEndian.toBytes 8 most.toBitVec.toNat ++ BigEndian.toBytes 8 least.toBitVec.toNat := by
  unfold structuredBuffer writeI64
  simp

theorem ofBytes_structuredBuffer : BigEndian.ofBytes (structuredBuffer most least) =
    (most.toBitVec ++ least.toBitVec).toNat := by
  rw [structuredBuffer_eq, BigEndian.ofBytes_append, BigEndian.ofBytes_toBytes,
    BigEndian.ofBytes_toBytes, BigEndian.length_toBytes, BitVec.toNat_append,
    ← Nat.shiftLeft_add_eq_or_of_lt least.toBitVec.isLt, Nat.shiftLeft_eq]
  have hm := most.toBitVec.isLt
  have hl := least.toBitVec.isLt
  omega

/-- The uuid of a buffer is its two words, one behind the other. -/
theorem ofBuffer_structuredBuffer :
    Kurrent.Uuid.ofBuffer (structuredBuffer most least) = most.toBitVec ++ least.toBitVec := by
  rw [Kurrent.Uuid.ofBuffer, ofBytes_structuredBuffer, BitVec.ofNat_toNat, BitVec.setWidth_eq]

/-- The words are what the halves of the uuid are. -/
theorem Uuid.from_append : Uuid.from (most.toBitVec ++ least.toBitVec) =
    ⟨some (.structured most least)⟩ := by
  have hnat : (most.toBitVec ++ least.toBitVec).toNat =
      2 ^ 64 * most.toBitVec.toNat + least.toBitVec.toNat := by
    rw [BitVec.toNat_append, ← Nat.shiftLeft_add_eq_or_of_lt least.toBitVec.isLt,
      Nat.shiftLeft_eq, Nat.mul_comm]
  have hm := most.toBitVec.isLt
  have hl := least.toBitVec.isLt
  have hhigh : ((most.toBitVec ++ least.toBitVec) >>> 64).setWidth 64 = most.toBitVec := by
    apply BitVec.eq_of_toNat_eq
    rw [BitVec.toNat_setWidth, BitVec.toNat_ushiftRight, hnat, Nat.shiftRight_eq_div_pow]
    omega
  have hlow : (most.toBitVec ++ least.toBitVec).setWidth 64 = least.toBitVec := by
    apply BitVec.eq_of_toNat_eq
    rw [BitVec.toNat_setWidth, hnat]
    omega
  simp only [Uuid.from, hhigh, hlow, Int64.ofBitVec_toBitVec]

/-- The shorter conversion of the events. -/
theorem Uuid.tryFrom_eq_tryInto (crates : Crates) (u : Uuid) :
    u.tryFrom crates = u.tryInto crates := by
  obtain ⟨value⟩ := u
  match value with
  | none => rfl
  | some (.string s) => rfl
  | some (.structured most least) =>
    exact congrArg some (ofBuffer_structuredBuffer most least)

end Proto

/-! ## The bytes of a uuid -/

theorem asBytes_append (most least : Int64) :
    Uuid.asBytes (most.toBitVec ++ least.toBitVec) = Proto.structuredBuffer most least := by
  have hlen : (Proto.structuredBuffer most least).length = 16 := by
    rw [Proto.structuredBuffer_eq]
    simp
  rw [Uuid.asBytes, ← Proto.ofBytes_structuredBuffer, ← hlen, BigEndian.toBytes_ofBytes]

/-- A word's bytes, as the gossip writes them. -/
theorem toBytes_word (w : BitVec 64) :
    BigEndian.toBytes 8 w.toNat = (beBytes w).map UInt8.ofBitVec := by
  rw [BigEndian.toBytes_eq_map, beBytes, List.map_map]
  refine List.map_congr_left fun i hi => ?_
  have hi := List.mem_range.mp hi
  have hpow : 256 ^ (8 - 1 - i) = 2 ^ (56 - 8 * i) := by
    rw [show 256 = 2 ^ 8 from rfl, ← Nat.pow_mul]
    congr 1
    omega
  apply UInt8.toNat_inj.mp
  simp only [Function.comp, UInt8.toNat_ofBitVec, BitVec.extractLsb'_toNat,
    Nat.shiftRight_eq_div_pow, hpow, UInt8.toNat_ofNat']

/-- The shorter conversion of the gossip's members. -/
def WireUuid.proto : WireUuid → Proto.Uuid
  | .none => ⟨Option.none⟩
  | .structured most least => ⟨some (.structured (Int64.ofBitVec most) (Int64.ofBitVec least))⟩
  | .string text => ⟨some (.string text)⟩

theorem fromBytes_eq_ofBuffer (bs : List (BitVec 8)) :
    Uuid.fromBytes bs = Uuid.ofBuffer (bs.map UInt8.ofBitVec) := by
  induction bs using List.reverseRecOn with
  | nil => rfl
  | append_singleton bs b ih =>
    have hb := b.isLt
    rw [Uuid.fromBytes, List.foldl_append, List.foldl_cons, List.foldl_nil, ← Uuid.fromBytes, ih,
      List.map_append, List.map_singleton, Uuid.ofBuffer, Uuid.ofBuffer, BigEndian.ofBytes_concat]
    generalize BigEndian.ofBytes (bs.map UInt8.ofBitVec) = n
    apply BitVec.eq_of_toNat_eq
    -- the shift leaves room for the byte
    have hroom : (n % 2 ^ 128) <<< 8 % 2 ^ 128 = (n % 2 ^ 120) <<< 8 := by
      rw [Nat.shiftLeft_eq, Nat.shiftLeft_eq]
      omega
    have hbyte : b.toNat % 2 ^ 128 = b.toNat := by omega
    rw [BitVec.toNat_or, BitVec.toNat_shiftLeft, BitVec.toNat_ofNat, BitVec.toNat_setWidth,
      BitVec.toNat_ofNat, hroom, hbyte, ← Nat.shiftLeft_add_eq_or_of_lt hb, Nat.shiftLeft_eq,
      UInt8.toNat_ofBitVec]
    omega

theorem WireUuid.tryInto_eq_tryFrom (crates : Crates) (w : WireUuid) :
    w.tryInto crates = w.proto.tryFrom crates := by
  cases w with
  | none => rfl
  | string text => rfl
  | structured most least =>
    unfold WireUuid.tryInto WireUuid.proto Proto.Uuid.tryFrom
    simp only
    rw [fromBytes_eq_ofBuffer, List.map_append, Proto.structuredBuffer_eq, toBytes_word,
      toBytes_word]
    rfl

/-- **The conversion is a bijection**: every uuid comes back, every pair of words comes back,
and the bytes of the uuid are those of the two words, the most significant first. -/
theorem uuid_wire_bijection (crates : Crates) :
    (∀ u : Uuid, (Proto.Uuid.from u).tryFrom crates = some u) ∧
    ∀ most least : Int64, ∃ u : Uuid,
      Proto.Uuid.tryFrom crates ⟨some (.structured most least)⟩ = some u ∧
      Proto.Uuid.from u = ⟨some (.structured most least)⟩ ∧
      u.asBytes = (beBytes most.toBitVec ++ beBytes least.toBitVec).map UInt8.ofBitVec := by
  refine ⟨fun u => ?_, fun most least => ⟨most.toBitVec ++ least.toBitVec, ?_, ?_, ?_⟩⟩
  · rw [Proto.Uuid.tryFrom_eq_tryInto, tryInto_from]
  · rw [Proto.Uuid.tryFrom_eq_tryInto]
    rfl
  · exact Proto.Uuid.from_append most least
  · rw [asBytes_append, Proto.structuredBuffer_eq, toBytes_word, toBytes_word, List.map_append]

end Kurrent
