import Mathlib.Algebra.Group.Nat.Defs
import Mathlib.Data.List.GetD

/-!
# Lib/LittleEndian — natural numbers as bytes, least significant first

A number is written in a fixed number of bytes, its higher digits dropped; reading the bytes back
gives the number modulo `256 ^ width`, and every string of `width` bytes is some number's.
-/

namespace LittleEndian

/-- The `width` lowest bytes of a number. -/
def toBytes : (width n : ℕ) → List UInt8
  | 0, _ => []
  | width + 1, n => UInt8.ofNat n :: toBytes width (n / 256)

/-- The number whose bytes these are. -/
def ofBytes : List UInt8 → ℕ
  | [] => 0
  | b :: bytes => b.toNat + 256 * ofBytes bytes

@[simp] theorem length_toBytes (width n : ℕ) : (toBytes width n).length = width := by
  induction width generalizing n with
  | zero => rfl
  | succ width ih => simp [toBytes, ih]

/-- A byte is a digit in base 256. -/
theorem toNat_getD_toBytes {width i : ℕ} (n : ℕ) (hi : i < width) :
    ((toBytes width n).getD i 0).toNat = n / 256 ^ i % 256 := by
  induction width generalizing n i with
  | zero => simp at hi
  | succ width ih =>
    cases i with
    | zero => simp [toBytes]
    | succ i =>
      rw [toBytes, List.getD_cons_succ, ih _ (Nat.lt_of_succ_lt_succ hi), Nat.div_div_eq_div_mul,
        pow_succ']

theorem ofBytes_toBytes (width n : ℕ) : ofBytes (toBytes width n) = n % 256 ^ width := by
  induction width generalizing n with
  | zero => simp [toBytes, ofBytes, Nat.mod_one]
  | succ width ih =>
    have hbyte : (UInt8.ofNat n).toNat = n % 256 := UInt8.toNat_ofNat'
    rw [toBytes, ofBytes, ih, hbyte, pow_succ', Nat.mod_mul]

theorem ofBytes_toBytes_of_lt {width n : ℕ} (h : n < 256 ^ width) :
    ofBytes (toBytes width n) = n := by
  rw [ofBytes_toBytes, Nat.mod_eq_of_lt h]

theorem toBytes_ofBytes (bytes : List UInt8) : toBytes bytes.length (ofBytes bytes) = bytes := by
  induction bytes with
  | nil => rfl
  | cons b bytes ih =>
    have hlow : UInt8.ofNat (b.toNat + 256 * ofBytes bytes) = b := by
      apply UInt8.toNat_inj.mp
      rw [UInt8.toNat_ofNat', Nat.add_mul_mod_self_left, Nat.mod_eq_of_lt b.toNat_lt]
    have hhigh : (b.toNat + 256 * ofBytes bytes) / 256 = ofBytes bytes := by
      have := b.toNat_lt
      omega
    rw [List.length_cons, ofBytes, toBytes, hlow, hhigh, ih]

end LittleEndian
