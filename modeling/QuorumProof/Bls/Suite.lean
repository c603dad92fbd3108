import QuorumProof.Contract.Types
import QuorumProof.Lib.Bilinear
import QuorumProof.Lib.LittleEndian
import Mathlib.Algebra.Field.ZMod

/-!
# Bls/Suite — what the BLS12-381 and SHA-256 crates supply

The contracts compute with the `bls12_381` and `sha2` crates, which are not part of the repository.
A `Suite` is what they rely on: two source groups and a target group of one prime order `r` with a
pairing, compressed encodings of 48 and 96 bytes that `from_compressed` accepts exactly when they
encode a point, hashing to the curve, and SHA-256.  Scalars are the integers modulo `r`, in the
crate's 32-byte little-endian encoding.
-/

namespace QuorumProof.Bls

open LittleEndian

/-- A byte string literal, `b"..."`. -/
def byteString (s : String) : Bytes := s.toUTF8.toList

/-! ## Scalars -/

section Scalars

variable {r : ℕ}

/-- The residue modulo `r` in `width` little-endian bytes. -/
def encode (width : ℕ) (a : ZMod r) : Bytes := toBytes width a.val

/-- The residue such bytes encode, if they are its canonical encoding. -/
def decode (width : ℕ) (bytes : Bytes) : Option (ZMod r) :=
  if bytes.length = width ∧ ofBytes bytes < r then some (ofBytes bytes) else none

def scalarToBytes (a : ZMod r) : Bytes := encode 32 a

def scalarFromBytes (bytes : Bytes) : Option (ZMod r) := decode 32 bytes

/-- `Scalar::from_bytes_wide`: the little-endian integer, reduced. -/
def scalarFromBytesWide (bytes : Bytes) : ZMod r := (ofBytes bytes : ZMod r)

theorem length_scalarToBytes (a : ZMod r) : (scalarToBytes a).length = 32 := length_toBytes _ _

theorem decode_eq_some [NeZero r] {width : ℕ} (hr : r ≤ 256 ^ width) {bytes : Bytes} {a : ZMod r} :
    decode width bytes = some a ↔ encode width a = bytes := by
  unfold decode encode
  constructor
  · intro h
    obtain ⟨⟨hlen, hlt⟩, ha⟩ := Option.ite_none_right_eq_some.mp h
    rw [← Option.some.inj ha, ZMod.val_natCast_of_lt hlt, ← hlen, toBytes_ofBytes]
  · rintro rfl
    rw [ofBytes_toBytes_of_lt (a.val_lt.trans_le hr), length_toBytes, ZMod.natCast_zmod_val,
      if_pos ⟨rfl, a.val_lt⟩]

end Scalars

/-! ## Points -/

/-- The groups, the encodings and the hash functions of the crates. -/
structure Suite (r : ℕ) [Fact r.Prime] (G₁ G₂ Gt : Type) [AddCommGroup G₁] [Module (ZMod r) G₁]
    [AddCommGroup G₂] [Module (ZMod r) G₂] [AddCommGroup Gt] [Module (ZMod r) Gt]
    extends Bilinear.Pairing (ZMod r) G₁ G₂ Gt where
  toCompressed₁ : G₁ → Bytes
  fromCompressed₁ : Bytes → Option G₁
  toCompressed₂ : G₂ → Bytes
  fromCompressed₂ : Bytes → Option G₂
  hashToCurve : (msg dst : Bytes) → G₁
  sha256 : Bytes → Bytes
  length_toCompressed₁ : ∀ P, (toCompressed₁ P).length = 48
  length_toCompressed₂ : ∀ Q, (toCompressed₂ Q).length = 96
  fromCompressed₁_eq_some : ∀ {bytes P}, fromCompressed₁ bytes = some P ↔ toCompressed₁ P = bytes
  fromCompressed₂_eq_some : ∀ {bytes Q}, fromCompressed₂ bytes = some Q ↔ toCompressed₂ Q = bytes
  length_sha256 : ∀ bytes, (sha256 bytes).length = 32
  order_le : r ≤ 256 ^ 32

namespace Suite

variable {r : ℕ} [Fact r.Prime] {G₁ G₂ Gt : Type} [AddCommGroup G₁] [Module (ZMod r) G₁]
  [AddCommGroup G₂] [Module (ZMod r) G₂] [AddCommGroup Gt] [Module (ZMod r) Gt]
  (suite : Suite r G₁ G₂ Gt)

@[simp] theorem fromCompressed₁_toCompressed₁ (P : G₁) :
    suite.fromCompressed₁ (suite.toCompressed₁ P) = some P :=
  suite.fromCompressed₁_eq_some.mpr rfl

@[simp] theorem fromCompressed₂_toCompressed₂ (Q : G₂) :
    suite.fromCompressed₂ (suite.toCompressed₂ Q) = some Q :=
  suite.fromCompressed₂_eq_some.mpr rfl

include suite in
theorem scalarFromBytes_scalarToBytes (a : ZMod r) : scalarFromBytes (scalarToBytes a) = some a :=
  (decode_eq_some suite.order_le).mpr rfl

end Suite

/-! ## A suite to compute with -/

namespace Sample

instance fact_prime_seventeen : Fact (Nat.Prime 17) := ⟨by decide +kernel⟩

/-- An element of the sample groups, by its exponent. -/
abbrev element (n : ℕ) : ZMod 17 := n

/-- The integers modulo 17 paired by multiplication, hashing by adding the bytes up. -/
def suite : Suite 17 (ZMod 17) (ZMod 17) (ZMod 17) where
  g₁ := 1
  g₂ := 1
  pair := (· * ·)
  pair_add_left := add_mul
  pair_add_right := mul_add
  pair_smul_left := smul_mul_assoc
  pair_smul_right := mul_smul_comm
  generates₁ P := ⟨P, mul_one P⟩
  generates₂ Q := ⟨Q, mul_one Q⟩
  generatesT T := ⟨T, by simp⟩
  nondegenerate := by decide
  toCompressed₁ := encode 48
  fromCompressed₁ := decode 48
  toCompressed₂ := encode 96
  fromCompressed₂ := decode 96
  hashToCurve msg dst := ((msg ++ dst).map UInt8.toNat).sum
  sha256 bytes := toBytes 32 (bytes.map UInt8.toNat).sum
  length_toCompressed₁ _ := length_toBytes _ _
  length_toCompressed₂ _ := length_toBytes _ _
  fromCompressed₁_eq_some := decode_eq_some (by decide)
  fromCompressed₂_eq_some := decode_eq_some (by decide)
  length_sha256 _ := length_toBytes _ _
  order_le := by decide

end Sample

end QuorumProof.Bls
