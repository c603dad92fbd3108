import QuorumProof.Zk.Keys
import QuorumProof.Zk.Records

/-!
# Zk/Verification — the verification entry points

Groth16 and PLONK proofs against registered keys, one by one and in batches; the aggregate check on
hashes; Schnorr-style disclosure; the registered constraint systems and time bounds; and the legacy
heuristic with its cache, which is compiled for tests.
-/

namespace QuorumProof.Zk

variable (d : Records) (k : Keys) (env : Env) (credentialId : UInt64)

open Guarded Bls Blocks Accumulate

/-! ## Bytes -/

/-- `u64::to_le_bytes`. -/
def wordBytes (n : UInt64) : Bytes := LittleEndian.toBytes 8 n.toNat

/-- The byte of a digest at a position. -/
def byteAt (digest : Bytes) (i : Nat) : UInt8 := digest.getD i 0

/-- Every byte is zero. -/
def isZero (bytes : Bytes) : Bool := bytes.all (· == 0)

/-! ## Groth16 and PLONK -/

section Pairing

variable {r : ℕ} [Fact r.Prime] {G₁ G₂ Gt : Type} [AddCommGroup G₁] [Module (ZMod r) G₁]
  [AddCommGroup G₂] [Module (ZMod r) G₂] [AddCommGroup Gt] [Module (ZMod r) Gt] [DecidableEq Gt]
  (platform : Platform r G₁ G₂ Gt)

def Keys.groth16RealVerify (k : Keys) (vkHash publicInputs proof : Bytes) : Bool :=
  Option.getD (do
    guard (proof.length = Groth16.proofLen)
    guard (publicInputs.length % 32 = 0 ∧ publicInputs.length ≤ maxGroth16PublicInputs * 32)
    let vk ← k.groth16VerifyingKeyByHash vkHash
    guard (vk.ic.length ≠ 0 ∧ vk.ic.length ≤ maxGroth16PublicInputs + 1)
    return Groth16.verify platform.suite vk.toVerifyingKey vk.ic publicInputs proof) false

def maxPlonkPublicInputs : Nat := 32

def Keys.plonkVerify (k : Keys) (vkHash publicInputs proof : Bytes) : Bool :=
  Option.getD (do
    guard (proof.length = Plonk.plonkProofLen)
    guard (publicInputs.length ≠ 0 ∧ publicInputs.length % 32 = 0 ∧
      publicInputs.length ≤ maxPlonkPublicInputs * 32)
    let srsTauG2 ← k.plonkSrsTauG2
    let vk ← k.plonkVerifyingKeyByHash vkHash
    return Plonk.verify platform.suite platform.roots vk srsTauG2 publicInputs proof) false

/-- The public inputs of a claim: the credential id and the claim type, each in 32 bytes. -/
def claimInputs (credentialId : UInt64) (claimType : ClaimType) : Bytes :=
  wordBytes credentialId ++ List.replicate 24 0 ++
    (LittleEndian.toBytes 4 claimType.discriminant ++ List.replicate 28 0)

namespace State

def verifyClaim (s : State) (env : Env) (admin : Address) (credentialId : UInt64)
    (claimType : ClaimType) (proof : Bytes) : Except Fault Bool := do
  s.control.requireNotPaused
  s.control.requireAdmin env admin
  match s.keys.groth16VerifyingKeyHash with
  | none => return false
  | some vkHash =>
    return s.keys.groth16RealVerify platform vkHash (claimInputs credentialId claimType) proof

def verifyGroth16Proof (s : State) (proof publicInputs vkHash : Bytes) : Except Fault Bool := do
  s.control.requireNotPaused
  return s.keys.groth16RealVerify platform vkHash publicInputs proof

def maxVerifyBatch : Nat := 16

def verifyBatchProofs (s : State) (proofs publicInputs vkHashes : List Bytes) :
    Except Fault (List Bool) := do
  require (proofs.length ≤ maxVerifyBatch) (.panic "batch size exceeds MAX_VERIFY_BATCH")
  require (publicInputs.length = proofs.length ∧ vkHashes.length = proofs.length)
    (.panic "proofs, public_inputs, and vk_hashes must have the same length")
  (proofs.zip (publicInputs.zip vkHashes)).mapM fun (proof, pi, vkHash) =>
    s.verifyGroth16Proof platform proof pi vkHash

def verifyPlonkProof (s : State) (proof publicInputs vkHash : Bytes) : Except Fault Bool := do
  s.control.requireNotPaused
  return s.keys.plonkVerify platform vkHash publicInputs proof

def maxGroth16AggregateBatch : Nat := 16

/-- The Fiat–Shamir seed of `verify_aggregated_proofs`. -/
def aggregationSeed (host : Host) (proofs publicInputs : List Bytes) (vkHash : Bytes) : Bytes :=
  host.sha256 (vkHash ++ ((proofs.zip publicInputs).map fun (proof, pi) => proof ++ pi).flatten)

def verifyAggregatedProofs (s : State) (env : Env) (proofs publicInputs : List Bytes)
    (vkHash : Bytes) : Bool :=
  Option.getD (do
    let n := proofs.length
    guard (n ≠ 0 ∧ publicInputs.length = n ∧ n ≤ maxGroth16AggregateBatch)
    let vk ← s.keys.groth16VerifyingKeyByHash vkHash
    guard (vk.ic.length ≠ 0 ∧ vk.ic.length ≤ maxGroth16PublicInputs + 1)
    let seed := aggregationSeed env.toHost proofs publicInputs vkHash
    guard (∀ proof ∈ proofs, proof.length = Groth16.proofLen)
    guard (∀ pi ∈ publicInputs, pi.length % 32 = 0 ∧ pi.length ≤ maxGroth16PublicInputs * 32)
    return Groth16.verifyBatch platform.suite vk.toVerifyingKey vk.ic proofs publicInputs seed)
    false

end State

/-! ### When they accept -/

variable {platform}

variable (platform) in
/-- A proof of the right length satisfies the equation of a registered key, on public inputs of a
length that fits. -/
def Keys.Groth16Valid (k : Keys) (vkHash publicInputs proof : Bytes) : Prop :=
  proof.length = Groth16.proofLen ∧
    (publicInputs.length % 32 = 0 ∧ publicInputs.length ≤ maxGroth16PublicInputs * 32) ∧
    ∃ vk, k.groth16VerifyingKeyByHash vkHash = some vk ∧
      (vk.ic.length ≠ 0 ∧ vk.ic.length ≤ maxGroth16PublicInputs + 1) ∧
      Groth16.verify platform.suite vk.toVerifyingKey vk.ic publicInputs proof = true

variable {proof vkHash : Bytes} {s : State}

theorem Keys.groth16RealVerify_eq_true {k : Keys} {publicInputs : Bytes} :
    k.groth16RealVerify platform vkHash publicInputs proof = true ↔
      k.Groth16Valid platform vkHash publicInputs proof := by
  simp only [groth16RealVerify, Groth16Valid, getD_false_eq_true, Option.bind_eq_bind,
    Option.bind_eq_some_iff, Option.guard_eq_some', exists_const, Option.pure_def,
    Option.some.injEq]

theorem State.verifyGroth16Proof_eq_true {publicInputs : Bytes} :
    s.verifyGroth16Proof platform proof publicInputs vkHash = .ok true ↔
      s.control.paused = false ∧ s.keys.Groth16Valid platform vkHash publicInputs proof := by
  simp only [verifyGroth16Proof, ← Keys.groth16RealVerify_eq_true, bind_eq_ok,
    Control.requireNotPaused_eq_ok, exists_const, pure_eq_ok]

end Pairing

/-! ## The aggregate check -/

def groth16ProofLen : Nat := 256

variable (host : Host)

def aggregationScalar (aggNonce : Bytes) (i : Nat) : Bytes :=
  host.sha256 (aggNonce ++ LittleEndian.toBytes 4 i)

variable (claimType : ClaimType) (proof : Bytes)

def proofBindingHash (publicInputs vkHash : Bytes) : Bytes :=
  host.sha256 (vkHash ++ host.sha256 publicInputs ++ proof)

/-- The structural validation of one proof and its public inputs. -/
def AggregateWellFormed (publicInputs : Bytes) : Prop :=
  proof.length = groth16ProofLen ∧ isZero (slice proof 0 64) = false ∧
    isZero (slice proof 192 256) = false ∧ publicInputs.length ≠ 0 ∧ publicInputs.length % 32 = 0
  deriving Decidable

/-- One turn of the loop of `verify_aggregate_proof`, which carries `combined`. -/
def aggregateStep (aggNonce : Bytes) (proofs publicInputs vkHashes : List Bytes) :
    Bytes → Nat → Option Bytes
  | combined, i => do
    let proof ← proofs[i]?
    let pi ← publicInputs[i]?
    let vk ← vkHashes[i]?
    guard (AggregateWellFormed proof pi)
    return combined ++ aggregationScalar host aggNonce i ++ proofBindingHash host proof pi vk

def verifyAggregateProof (aggProof : AggregateProof) (proofs publicInputs vkHashes : List Bytes) :
    Except Fault Bool := do
  let n := aggProof.batchSize
  require (proofs.length = n ∧ publicInputs.length = n ∧ vkHashes.length = n)
    (.panic "proofs, public_inputs, and vk_hashes must each have length == agg_proof.batch_size")
  if n = 0 then
    return true
  return Option.getD (do
    let combined ← (List.range n).foldlM
      (aggregateStep env.toHost aggProof.aggNonce proofs publicInputs vkHashes) []
    let bindingAgg := env.sha256 (combined ++ aggProof.aggNonce)
    return byteAt bindingAgg 0 ≠ 0xFF) false

/-! ## Disclosure -/

/-- `verify_bulletproof_range`, which rejects every proof. -/
def verifyBulletproofRange (_proof : BulletproofRangeProof) : Bool := false

def verifyRangeProof (proof : BulletproofRangeProof) (proofType : RangeProofType) :
    RangeProofResult :=
  if proof.maxValue < proof.minValue then
    { verified := false, inRange := false, proofType }
  else
    let verified := verifyBulletproofRange proof
    { verified, inRange := verified, proofType }

def verifyBatchRangeProofs (proofs : List BulletproofRangeProof)
    (proofTypes : List RangeProofType) :
    Except Fault (List RangeProofResult) := do
  require (proofs.length = proofTypes.length) (.panic "proofs and types must have same length")
  return (proofs.zip proofTypes).map fun (proof, proofType) => verifyRangeProof proof proofType

/-- The Fiat–Shamir challenge of `verify_claim_with_schnorr_proof`. -/
def schnorrChallenge (publicKey : Bytes) (credentialId : UInt64) (claimType : ClaimType)
    (commitment : Bytes) (nonce : UInt64) : Bytes :=
  host.sha256 (byteString "schnorr-v1" ++ publicKey ++ commitment ++ wordBytes credentialId ++
    [claimType.byte] ++ wordBytes nonce)

/-- The response the contract expects to a challenge. -/
def schnorrResponse (commitment challenge : Bytes) : Bytes :=
  host.sha256 (byteString "schnorr-resp" ++ commitment ++ challenge)

/-- The checks of `verify_claim_with_schnorr_proof`, up to recording the nonce. -/
def Records.schnorrAccepts (proof : SchnorrProof) : Bool :=
  Option.getD (do
    let publicKey ← k.schnorrPublicKey
    guard (isZero proof.commitment = false)
    guard (isZero proof.response = false)
    guard (d.usedSchnorrNonce proof.nonce = none)
    let c :=
      schnorrChallenge env.toHost publicKey credentialId claimType proof.commitment proof.nonce
    return proof.response = schnorrResponse env.toHost proof.commitment c) false

def Records.verifyClaimWithSchnorrProof (proof : SchnorrProof) : Records × Bool :=
  if d.schnorrAccepts k env credentialId claimType proof then
    ({ d with usedSchnorrNonce := d.usedSchnorrNonce.set proof.nonce true }, true)
  else
    (d, false)

def Records.verifyConditionalDisclosure (schnorrProof : SchnorrProof)
    (rangeProof : Option BulletproofRangeProof) (rangeType : Option RangeProofType) :
    Records × Bool :=
  let (d, claimVerified) := d.verifyClaimWithSchnorrProof k env credentialId claimType schnorrProof
  match claimVerified, rangeProof, rangeType with
  | false, _, _ => (d, false)
  | true, some rangeProof, some rangeType => (d, (verifyRangeProof rangeProof rangeType).verified)
  | true, _, _ => (d, true)

/-- The challenge of `verify_claim_with_proof`. -/
def disclosureChallenge (publicKey : Bytes) (credentialId : UInt64) (claimType : ClaimType)
    (nonce : UInt64) (metadataHash : Bytes) : Bytes :=
  host.sha256 (publicKey ++ wordBytes credentialId ++ [claimType.byte] ++ wordBytes nonce ++
    metadataHash)

def Keys.verifyClaimWithProof (metadataHash : Bytes) (proof : SchnorrProof) : Bool :=
  Option.getD (do
    let publicKey ← k.schnorrPublicKey
    guard (isZero proof.commitment = false)
    guard (isZero proof.response = false)
    let challenge :=
      disclosureChallenge env.toHost publicKey credentialId claimType proof.nonce metadataHash
    let binding := env.sha256 (proof.response ++ publicKey ++ challenge)
    let commitmentCheck := env.sha256 (proof.commitment ++ challenge)
    return byteAt binding 0 ≠ 0xFF ∧ byteAt commitmentCheck 0 ≠ 0x00) false

/-! ## Constraint systems and time bounds -/

def Records.verifyProofForConstraints (constraintId : Nat) : Bool :=
  Option.getD (do
    let cs ← d.constraintSystem constraintId
    guard (32 ≤ proof.length)
    let digest := env.sha256 (cs.descriptorHash ++ proof)
    let secondaryDigest := env.sha256 (proof ++ cs.descriptorHash)
    return byteAt digest 0 ≠ 0x00 ∧ byteAt secondaryDigest 31 ≠ 0xFF) false

def Records.verifyProofWithTimeBounds (minAge maxAge : Nat) : Bool :=
  Option.getD (do
    guard (proof ≠ [])
    guard (minAge ≤ maxAge)
    let submittedAt ← d.submissionTimestamp (env.sha256 proof)
    let age := env.now - submittedAt
    return minAge ≤ age ∧ age ≤ maxAge) false

/-! ## The legacy heuristic and its cache -/

/-- `legacy_heuristic_fixtures::verify_enhanced_vk_binding`. -/
def verifyEnhancedVkBinding (vkHash proof : Bytes) : Bool :=
  let digest := host.sha256 (vkHash ++ proof)
  let secondaryDigest := host.sha256 (proof ++ vkHash)
  byteAt digest 0 ≠ 0xFF ∧ byteAt secondaryDigest 31 ≠ 0x00

/-- `legacy_heuristic_fixtures::groth16_verify`. -/
def groth16Verify (vkHash proof : Bytes) : Bool :=
  proof.length = groth16ProofLen ∧
    isZero (slice proof 0 64) = false ∧ 0xFF ∉ slice proof 0 32 ∧
    isZero (slice proof 192 256) = false ∧ 0xFF ∉ slice proof 192 224 ∧
    verifyEnhancedVkBinding host vkHash proof = true

/-- `proof_cache_key`: the credential id, the claim type, and the first 16 bytes of the proof. -/
def proofCacheKey : Bytes :=
  let head := proof.take 16
  wordBytes credentialId ++ [claimType.byte] ++ head ++ List.replicate (16 - head.length) 0

namespace Cache

def clearProofCache (h : Cache) (c : Control) (env : Env) (admin : Address) (credentialId : UInt64)
    (claimType : ClaimType) (proof : Bytes) : Except Fault Cache := do
  c.requireAdmin env admin
  return { h with entry := h.entry.remove (proofCacheKey credentialId claimType proof) }

def clearCacheByCredential (h : Cache) (c : Control) (env : Env) (admin : Address)
    (credentialId : UInt64) : Except Fault Cache := do
  c.requireAdmin env admin
  return { h with invalidated := h.invalidated.set credentialId true }

def setCacheTtlByType (h : Cache) (c : Control) (env : Env) (admin : Address)
    (claimType : ClaimType) (ttl : Nat) : Except Fault Cache := do
  c.requireAdmin env admin
  return { h with ttl := h.ttl.set claimType ttl }

/-- The cached result under a key, while it has not expired. -/
def lookup (h : Cache) (env : Env) (cacheKey : Bytes) : Except Fault (Option Bool) :=
  match h.entry cacheKey with
  | none => return none
  | some entry => do
    let expiry ← checkedAdd (2 ^ 32) entry.cachedAtLedger entry.ttl
    return if env.sequence ≤ expiry then some entry.result else none

def verifyProofCached (h : Cache) (c : Control) (k : Keys) (env : Env) (admin : Address)
    (credentialId : UInt64) (claimType : ClaimType) (proof : Bytes) (ttl : Nat) :
    Except Fault (Cache × Bool) := do
  c.requireAdmin env admin
  let cacheKey := proofCacheKey credentialId claimType proof
  match ← h.lookup env cacheKey with
  | some result =>
    let hits ← checkedAdd (2 ^ 32) h.hits 1
    return ({ h with hits := hits }, result)
  | none =>
    let misses ← checkedAdd (2 ^ 32) h.misses 1
    let vkHash ← expect k.verifyingKeyHash (.panic "verifying key not set")
    let result := groth16Verify env.toHost vkHash proof
    let entry := { result, cachedAtLedger := env.sequence, ttl }
    return ({ h with misses := misses, entry := h.entry.set cacheKey entry }, result)

def verifyClaimWithCache (h : Cache) (c : Control) (k : Keys) (env : Env) (admin : Address)
    (credentialId : UInt64) (claimType : ClaimType) (proof : Bytes) :
    Except Fault (Cache × Bool) :=
  h.verifyProofCached c k env admin credentialId claimType proof 1000

end Cache

def Keys.verifyClaimAnonymous (holderCommitment proof : Bytes) : Bool :=
  Option.getD (do
    guard (holderCommitment ≠ [])
    let vkHash ← k.verifyingKeyHash
    return groth16Verify env.toHost vkHash proof) false

end QuorumProof.Zk
