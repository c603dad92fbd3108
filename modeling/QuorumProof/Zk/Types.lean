import QuorumProof.Zk.Groth16
import QuorumProof.Zk.Plonk

/-!
# Zk/Types — the records of the verifier contract

The record types of `contracts/zk_verifier/src/lib.rs` under their own names, the ways a call can
fail, and what a call sees of the ledger.  Credential ids and nonces, which are hashed and used in
keys by their bytes, are machine words; ledger times, counters and thresholds are `Nat`, with the
width of the source's type stated where an addition can leave it.
-/

namespace QuorumProof.Zk

open Guarded Bls

/-! ## Failures -/

/-- Why a call aborts.  An aborted call leaves no trace in storage. -/
inductive Fault
  /-- `assert!`, `panic!` and `expect`, with their message. -/
  | panic (message : String)
  /-- `require_auth` on an address that did not authorize the call. -/
  | unauthorized (address : Address)
  /-- A plain `+` out of range: the release profile sets `overflow-checks`. -/
  | overflow
  /-- `get` finds a value of another type than the one it is asked for. -/
  | conversion
  deriving DecidableEq, Repr

/-- `a + b` on integers below `bound`. -/
def checkedAdd (bound a b : Nat) : Except Fault Nat := do
  require (a + b < bound) .overflow
  return a + b

@[simp] theorem ensures_checkedAdd {bound a b : Nat} {Q : Nat → Prop} :
    Ensures (checkedAdd bound a b) Q ↔ (a + b < bound → Q (a + b)) := by
  simp [checkedAdd]

/-! ## The call environment -/

/-- What the Soroban host supplies: SHA-256, and the XDR encoding of an address. -/
structure Host where
  sha256 : Bytes → Bytes
  toXdr : Address → Bytes

/-- What a call sees of the ledger: the time, the ledger's sequence number, and who authorized the
call. -/
structure Env extends Host where
  now : Nat
  sequence : Nat
  auths : List Address

/-- The host and the crates the contract is compiled with. -/
structure Platform (r : ℕ) [Fact r.Prime] (G₁ G₂ Gt : Type) [AddCommGroup G₁] [Module (ZMod r) G₁]
    [AddCommGroup G₂] [Module (ZMod r) G₂] [AddCommGroup Gt] [Module (ZMod r) Gt]
    extends Host where
  suite : Suite r G₁ G₂ Gt
  roots : Plonk.TwoAdic r

/-- `address.require_auth()`. -/
def requireAuth (env : Env) (address : Address) : Except Fault Unit :=
  require (address ∈ env.auths) (.unauthorized address)

@[simp] theorem requireAuth_eq_ok {env : Env} {a : Address} {u : Unit} :
    requireAuth env a = .ok u ↔ a ∈ env.auths := require_eq_ok

/-! ## Claims and requests -/

inductive ClaimType
  | hasDegree | hasLicense | hasEmploymentHistory | hasCertification | hasResearchPublication
  deriving DecidableEq, Repr

/-- The discriminant, from 1. -/
def ClaimType.discriminant : ClaimType → Nat
  | hasDegree => 1
  | hasLicense => 2
  | hasEmploymentHistory => 3
  | hasCertification => 4
  | hasResearchPublication => 5

/-- The byte the contract hashes for a claim type, from 0. -/
def ClaimType.byte : ClaimType → UInt8
  | hasDegree => 0
  | hasLicense => 1
  | hasEmploymentHistory => 2
  | hasCertification => 3
  | hasResearchPublication => 4

structure ProofRequest where
  credentialId : UInt64
  claimType : ClaimType
  nonce : Nat
  deriving DecidableEq

structure AnonymousProofRequest where
  credentialId : UInt64
  claimType : ClaimType
  nonce : Nat
  holderCommitment : Bytes
  deriving DecidableEq

structure ProofMetadata where
  credentialId : UInt64
  claimType : ClaimType
  proofHash : Bytes
  description : Bytes
  encrypted : Bool
  compressed : Bool
  deriving DecidableEq

structure CircuitParameters where
  maxConstraints : Nat
  fieldModulus : Bytes
  securityLevel : Nat
  deriving DecidableEq

structure ProtocolConfig where
  proofTtlSeconds : Nat
  deriving DecidableEq

structure ConstraintSystem where
  id : Nat
  descriptorHash : Bytes
  registeredAtLedger : Nat
  registeredBy : Address
  deriving DecidableEq

/-! ## Keys -/

/-- `Groth16VerifyingKey`: the four fixed elements and the `ic` points. -/
structure Groth16VerifyingKey extends Groth16.VerifyingKey where
  ic : List Bytes
  deriving DecidableEq

/-- `KeyRotationEntry`, `PlonkSrsRotationEntry`, `PlonkKeyRotationEntry` and
`Groth16KeyRotationEntry`: what was replaced by what, when and by whom. -/
structure RotationEntry where
  old : Bytes
  new : Bytes
  rotatedAtLedger : Nat
  rotatedBy : Address
  deriving DecidableEq

/-! ## Proofs -/

structure AggregateProof where
  proofBytes : Bytes
  aggNonce : Bytes
  batchSize : Nat
  deriving DecidableEq

structure CacheEntry where
  result : Bool
  cachedAtLedger : Nat
  ttl : Nat
  deriving DecidableEq

structure SchnorrProof where
  commitment : Bytes
  response : Bytes
  nonce : UInt64
  deriving DecidableEq

structure BulletproofRangeProof where
  proofBytes : Bytes
  commitment : Bytes
  minValue : Nat
  maxValue : Nat
  bitLength : Nat
  deriving DecidableEq

inductive RangeProofType
  | salary | gpa | experience | age
  deriving DecidableEq

structure RangeProofResult where
  verified : Bool
  inRange : Bool
  proofType : RangeProofType
  deriving DecidableEq

structure TimeBoundProof where
  proof : Bytes
  submittedAt : Nat
  proofHash : Bytes
  deriving DecidableEq

/-! ## Revocations -/

structure RevocationEntry where
  credentialId : UInt64
  revokedAtLedger : Nat
  reason : Bytes
  deriving DecidableEq

structure ProofRevocationRecord where
  proofHash : Bytes
  reason : Bytes
  revokedAtLedger : Nat
  revokedBy : Address
  deriving DecidableEq

/-! ## Multi-party sessions -/

inductive MpcSessionStatus
  | pending | approved | cancelled
  deriving DecidableEq, Repr

structure MpcSession where
  sessionId : Bytes
  threshold : Nat
  totalVerifiers : Nat
  status : MpcSessionStatus
  createdAtLedger : Nat
  deriving DecidableEq

structure MpcContribution where
  verifier : Address
  approved : Bool
  submittedAtLedger : Nat
  deriving DecidableEq

/-- What is stored under a key `MpcContribution(session, hash)`: a verifier's contribution, or the
session's running tally of approvals. -/
inductive MpcSlot
  | contribution (contribution : MpcContribution)
  | tally (approvals : Nat)
  deriving DecidableEq

end QuorumProof.Zk
