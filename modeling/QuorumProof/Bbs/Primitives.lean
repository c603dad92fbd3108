import QuorumProof.Bls.Suite
import QuorumProof.Lib.Accumulate

/-!
# Bbs/Primitives — errors, field inversion and multi-scalar multiplication

`contracts/bbs_plus_v1/src/errors.rs` and the parts of `primitives.rs` that are more than a wrapper
around the curve crate: scalars are `ZMod r`, points are elements of the suite's groups, and `add`,
`sub`, `mul` and `negate` are the operations of those.
-/

namespace QuorumProof.Bbs

open Guarded

inductive BbsError
  | invalidMessageCount | invalidProofStructure | invalidSignature | invalidPresentation
  | transcriptError | serializationError | deserializationError | invalidG1Point | invalidG2Point
  | invalidScalar | verificationFailed | invalidAccumulator | invalidNonMembershipProof
  | predicateVerificationFailed | invalidChallenge | nonceMismatch | revocationCheckFailed
  | curveArithmeticError | proofCompositionError
  deriving DecidableEq, Repr

/-- How a function of the library ends without a value. -/
inductive Fault
  /-- An `Err`. -/
  | err (error : BbsError)
  /-- A panic, with its message. -/
  | panic (message : String)
  deriving DecidableEq, Repr

abbrev BbsResult := Except Fault

section Field

variable {r : ℕ} [Fact r.Prime]

def invert (a : ZMod r) : BbsResult (ZMod r) := do
  require (a ≠ 0) (.err .invalidScalar)
  return a⁻¹

theorem invert_eq_ok {a b : ZMod r} : invert a = .ok b ↔ a ≠ 0 ∧ a⁻¹ = b := by
  simp only [invert, bind_eq_ok, require_eq_ok, pure_eq_ok, exists_const]

def frToBytes (a : ZMod r) : Bytes := Bls.scalarToBytes a

def frFromBytes (bytes : Bytes) : BbsResult (ZMod r) :=
  expect (Bls.scalarFromBytes bytes) (.err .invalidScalar)

/-- A scalar is read back from its bytes, once 32 of them are enough for the field. -/
theorem frFromBytes_frToBytes (hr : r ≤ 256 ^ 32) (a : ZMod r) :
    frFromBytes (frToBytes a) = .ok a :=
  expect_eq_ok.mpr ((Bls.decode_eq_some hr).mpr rfl)

end Field

section Points

variable {r : ℕ} {G : Type} [AddCommGroup G] [Module (ZMod r) G]

/-- `msm_g1`: `sum_i scalars[i] * generators[i]`. -/
def msmG1 (generators : List G) (scalars : List (ZMod r)) : BbsResult G := do
  require (generators.length = scalars.length) (.err .invalidMessageCount)
  return (generators.zip scalars).foldl (fun acc (g, s) => acc + s • g) 0

theorem msmG1_eq_ok {generators : List G} {scalars : List (ZMod r)} {b : G} :
    msmG1 generators scalars = .ok b ↔ generators.length = scalars.length ∧
      ((generators.zip scalars).map fun p => p.2 • p.1).sum = b := by
  simp only [msmG1, bind_eq_ok, require_eq_ok, pure_eq_ok, exists_const]
  rw [Accumulate.foldl_add (fun p : G × ZMod r => p.2 • p.1), zero_add]

end Points

end QuorumProof.Bbs
