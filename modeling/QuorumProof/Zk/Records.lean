import QuorumProof.Zk.State

/-!
# Zk/Records — requests, metadata, revocations and registries

What the contract records about credentials and their proofs, apart from keys and verification:
proof requests with their nonces, metadata, submission times, constraint systems, the revocation of
a credential's proof, and the registry of proof hashes with its own revocations.
-/

namespace QuorumProof.Zk

open Guarded

namespace Records

variable (d : Records) (c : Control) (env : Env) (credentialId : UInt64) (claimType : ClaimType)

/-! ## Requests -/

def nextProofNonce : Except Fault (Records × Nat) := do
  let nonce := d.requestNonceCounter + 1
  require (nonce < 2 ^ 64) (.panic "proof request nonce space exhausted")
  return ({ d with
    requestNonceCounter := nonce
    issuedProofRequest := d.issuedProofRequest.set nonce { credentialId, claimType, nonce } },
    nonce)

/-- `generate_proof_request`, that is `issue_proof_request`. -/
def generateProofRequest : Except Fault (Records × ProofRequest) := do
  let (d, nonce) ← d.nextProofNonce credentialId claimType
  return (d, { credentialId, claimType, nonce })

def generateAnonymousProofRequest (holderCommitment : Bytes) :
    Except Fault (Records × AnonymousProofRequest) := do
  require (holderCommitment ≠ []) (.panic "holder_commitment cannot be empty")
  let (d, nonce) ← d.nextProofNonce credentialId claimType
  return (d, { credentialId, claimType, nonce, holderCommitment })

/-! ## Metadata and times -/

def storeProofMetadata (caller : Address) (credentialId : UInt64) (claimType : ClaimType)
    (proofHash description : Bytes) : Except Fault Records := do
  c.requireRegistrar env caller
  let key := (credentialId, claimType)
  require (d.metadata key = none ∨ c.admin = some caller ∨ d.metadataWriter key = some caller)
    (.panic "unauthorized overwrite")
  return { d with
    metadata := d.metadata.set key
      { credentialId, claimType, proofHash, description, encrypted := false, compressed := false }
    metadataWriter := d.metadataWriter.set key caller }

/-- `store_proof_timestamp`: whether this call recorded the time. -/
def storeProofTimestamp (admin : Address) (credentialId : UInt64) (claimType : ClaimType) :
    Except Fault (Records × Bool) := do
  c.requireAdmin env admin
  match d.proofTimestamp (credentialId, claimType) with
  | some _ => return (d, false)
  | none =>
    return ({ d with
      proofTimestamp := d.proofTimestamp.set (credentialId, claimType) env.now }, true)

def submitTimeBoundProof (proof : Bytes) : Except Fault (Records × TimeBoundProof) := do
  require (proof ≠ []) (.panic "proof cannot be empty")
  let proofHash := env.sha256 proof
  match d.submissionTimestamp proofHash with
  | some submittedAt => return (d, { proof, submittedAt, proofHash })
  | none =>
    return ({ d with submissionTimestamp := d.submissionTimestamp.set proofHash env.now },
      { proof, submittedAt := env.now, proofHash })

def registerConstraintSystem (admin : Address) (descriptorHash : Bytes) :
    Except Fault (Records × Nat) := do
  c.requireAdmin env admin
  let nextId ← checkedAdd (2 ^ 64) d.constraintSystemCounter 1
  return ({ d with
    constraintSystem := d.constraintSystem.set nextId
      { id := nextId, descriptorHash, registeredAtLedger := env.sequence, registeredBy := admin }
    constraintSystemCounter := nextId }, nextId)

/-! ## Revocation of a credential's proof -/

def revokeProof (admin : Address) (credentialId : UInt64) (reason : Bytes) :
    Except Fault Records := do
  c.requireAdmin env admin
  return { d with
    revocation := d.revocation.set credentialId
      { credentialId, revokedAtLedger := env.sequence, reason } }

def isProofRevoked : Bool :=
  (d.revocation credentialId).isSome

end Records

/-! ## The registry of proof hashes -/

namespace HashRegistry

def registerProofHash (h : HashRegistry) (c : Control) (env : Env) (caller : Address)
    (proofHash : Bytes) : Except Fault HashRegistry := do
  c.requireRegistrar env caller
  require (h.revocationStatus proofHash = none) (.panic "proof hash already registered")
  let count ← checkedAdd (2 ^ 32) h.count 1
  return { h with
    revocationStatus := h.revocationStatus.set proofHash false
    hashAt := h.hashAt.set h.count proofHash
    count := count }

def revokeProofByHash (h : HashRegistry) (c : Control) (env : Env) (admin : Address)
    (proofHash reason : Bytes) : Except Fault HashRegistry := do
  c.requireAdmin env admin
  require (reason ≠ []) (.panic "revocation reason cannot be empty")
  require ((h.revocationStatus proofHash).isSome) (.panic "proof hash not registered")
  require ((h.revocationStatus proofHash).getD false = false) (.panic "proof already revoked")
  let record := { proofHash, reason, revokedAtLedger := env.sequence, revokedBy := admin }
  return { h with
    revocationStatus := h.revocationStatus.set proofHash true
    revocationRecord := h.revocationRecord.set proofHash record
    revocationHistory := h.revocationHistory ++ [record] }

def checkProofRevocation (h : HashRegistry) (proofHash : Bytes) : Bool :=
  (h.revocationStatus proofHash).getD false

end HashRegistry

end QuorumProof.Zk
