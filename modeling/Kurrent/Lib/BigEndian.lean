import Mathlib.Data.List.Induction
import Mathlib.Tactic.Ring

/-!
# Big-endian bytes

`toBytes w n` are the lowest `w` bytes of a number, the most significant one first, and
`ofBytes` is the number of such bytes. Taking bytes off the low end or appending a number's
bytes behind another's are divisions by powers of 256, which is what the lemmas say.
-/

namespace Kurrent.Lib.BigEndian

def toBytes : Nat → Nat → List UInt8
  | 0, _ => []
  | w + 1, n => toBytes w (n / 256) ++ [UInt8.ofNat n]

def ofBytes (bs : List UInt8) : Nat := bs.foldl (fun n b => 256 * n + b.toNat) 0

@[simp] theorem length_toBytes (w n : Nat) : (toBytes w n).length = w := by
  induction w generalizing n with
  | zero => rfl
  | succ w ih => rw [toBytes, List.length_append, ih, List.length_singleton]

theorem ofBytes_concat (bs : List UInt8) (b : UInt8) :
    ofBytes (bs ++ [b]) = 256 * ofBytes bs + b.toNat := by
  rw [ofBytes, List.foldl_append]
  rfl

theorem ofBytes_append (bs cs : List UInt8) :
    ofBytes (bs ++ cs) = 256 ^ cs.length * ofBytes bs + ofBytes cs := by
  induction cs using List.reverseRecOn with
  | nil => simp [ofBytes]
  | append_singleton cs c ih =>
    rw [← List.append_assoc, ofBytes_concat, ofBytes_concat, ih, List.length_append,
      List.length_singleton, pow_succ]
    ring

/-- The bytes keep what fits into them. -/
theorem ofBytes_toBytes (w n : Nat) : ofBytes (toBytes w n) = n % 256 ^ w := by
  induction w generalizing n with
  | zero => simp [toBytes, ofBytes, Nat.mod_one]
  | succ w ih =>
    have hbyte : (UInt8.ofNat n).toNat = n % 256 := UInt8.toNat_ofNat'
    rw [toBytes, ofBytes_concat, ih, hbyte, pow_succ', Nat.mod_mul]
    omega

/-- Bytes are those of their number. -/
theorem toBytes_ofBytes (bs : List UInt8) : toBytes bs.length (ofBytes bs) = bs := by
  induction bs using List.reverseRecOn with
  | nil => rfl
  | append_singleton bs b ih =>
    have hb := b.toNat_lt
    have hhigh : (256 * ofBytes bs + b.toNat) / 256 = ofBytes bs := by omega
    have hlow : UInt8.ofNat (256 * ofBytes bs + b.toNat) = b := by
      apply UInt8.toNat_inj.mp
      rw [UInt8.toNat_ofNat']
      omega
    rw [List.length_append, List.length_singleton, ofBytes_concat, toBytes, hhigh, ih, hlow]

/-- The byte at each place. -/
theorem toBytes_eq_map (w n : Nat) :
    toBytes w n = (List.range w).map fun i => UInt8.ofNat (n / 256 ^ (w - 1 - i)) := by
  induction w generalizing n with
  | zero => rfl
  | succ w ih =>
    rw [toBytes, ih, List.range_succ, List.map_append]
    congr 1
    · refine List.map_congr_left fun i hi => ?_
      have hi := List.mem_range.mp hi
      have he : w + 1 - 1 - i = w - 1 - i + 1 := by omega
      rw [Nat.div_div_eq_div_mul, he, pow_succ']
    · simp

end Kurrent.Lib.BigEndian
