import QuorumProof.Sbt.Tokens

/-!
# Sbt/Annex — administration, and what is attached to tokens

The administrator's switches, and the entry points that write beside the tokens: access logs,
appeals, clawbacks, possession proofs and commitments, attributes, marketplace listings.

Source: `initialize` to `update_quorum_proof_id`, `pause`, `unpause`, the blacklist,
`set_reputation_config`, `track_credential_access`, `appeal_sbt_revocation`,
`record_revocation_reason`, `initiate_sbt_clawback`, `cancel_sbt_clawback`, and what writes from
`generate_sbt_possession_proof` to `get_commitment_nonce` but the attestor transfer.
-/

namespace QuorumProof.Sbt

open Guarded

/-! ## Administration -/

namespace Control

variable (env : Env) (c : Control) (admin : Address)

/-- `initialize`. -/
def initializeContract (quorumProofId : Address) : Except Fault Control := do
  require (c.admin = none) (.panic "already initialized")
  requireAuth env admin
  return { c with admin := some admin, quorumProofId := some quorumProofId }

/-- What every entry point of the administrator begins with. -/
def authorizeAdmin : Except Fault Unit := do
  requireAuth env admin
  c.requireAdmin admin

def updateAdmin (newAdmin : Address) : Except Fault Control := do
  c.authorizeAdmin env admin
  return { c with admin := some newAdmin }

def setCredentialCacheTtl (ttlLedgers : Nat) : Except Fault Control := do
  c.authorizeAdmin env admin
  return { c with governanceCacheTtl := some ttlLedgers }

def updateQuorumProofId (newAddress : Address) : Except Fault Control := do
  c.authorizeAdmin env admin
  require (c.quorumProofId ≠ none) (.panic "quorum_proof_id not set")
  return { c with quorumProofId := some newAddress }

/-- `pause` and `unpause`. -/
def setPaused (paused : Bool) : Except Fault Control := do
  c.authorizeAdmin env admin
  return { c with paused := paused }

def pause : Except Fault Control :=
  c.setPaused env admin true

def unpause : Except Fault Control :=
  c.setPaused env admin false

def addHolderToBlacklist (holder : Address) : Except Fault Control := do
  c.authorizeAdmin env admin
  return { c with blacklist := c.blacklist.set holder true }

def removeHolderFromBlacklist (holder : Address) : Except Fault Control := do
  c.authorizeAdmin env admin
  return { c with blacklist := c.blacklist.remove holder }

def setReputationConfig (tokenWeight activityWeight : Nat) : Except Fault Control := do
  c.authorizeAdmin env admin
  return { c with reputationConfig := some ⟨tokenWeight, activityWeight⟩ }

end Control

namespace State

variable (env : Env) (s : State)

/-! ## Access log -/

/-- `track_credential_access`; the micropayment is a constant. -/
def trackCredentialAccess (credentialId : Nat) (accessor : Address) : Except Fault State := do
  requireAuth env accessor
  let qpId ← s.expectQuorumProofId
  let revoked ← invokeIsRevoked env qpId credentialId
  require (revoked = false) (.panic "credential is revoked")
  return { s with journal := { s.journal with
    credentialAccessLog := Index.push s.journal.credentialAccessLog credentialId
      { accessor := accessor, timestamp := env.now, payment := 100 } } }

/-! ## Appeals -/

def recordRevocationReason (admin : Address) (sbtId : Nat) (reason : Bytes) :
    Except Fault State := do
  s.control.authorizeAdmin env admin
  return { s with annex := { s.annex with
    revocationReason := s.annex.revocationReason.set sbtId
      { sbtId := sbtId, reason := reason, revokedBy := admin, revokedAt := env.now } } }

/-- `appeal_sbt_revocation`: anybody may appeal, and the appeal is known by the token's id. -/
def appealSbtRevocation (holder : Address) (sbtId : Nat) (appealEvidence : Bytes) :
    Except Fault (State × Nat) := do
  requireAuth env holder
  let _ ← s.getToken sbtId
  let _ ← expect (s.annex.revocationReason sbtId) (.contract .appealNotFound)
  let appeal : AppealRecord :=
    { sbtId := sbtId, appealEvidence := appealEvidence, appealedBy := holder
      appealedAt := env.now, status := .pend }
  return ({ s with annex := { s.annex with
    sbtAppeal := s.annex.sbtAppeal.set sbtId appeal
    appealHistory := Index.push s.annex.appealHistory sbtId appeal } }, sbtId)

/-! ## Clawbacks -/

/-- `initiate_sbt_clawback`: any address may be the issuer. -/
def initiateSbtClawback (issuer : Address) (sbtId : Nat) (reason : Bytes) (timelockSeconds : Nat) :
    Except Fault (State × Nat) := do
  requireAuth env issuer
  let _ ← s.getToken sbtId
  require (s.annex.pendingClawbackBySbt sbtId = none) (.contract .clawbackAlreadyExists)
  let id ← checkedSucc (2 ^ 64) s.annex.clawbackRequestCount
  let request : ClawbackRequest :=
    { id := id, sbtId := sbtId, issuer := issuer, reason := reason, initiatedAt := env.now
      expiresAt := saturatingAdd u64Max env.now timelockSeconds, status := .pending }
  return ({ s with annex := { s.annex with
    clawbackRequest := s.annex.clawbackRequest.set id request
    clawbackRequestCount := id
    pendingClawbackBySbt := s.annex.pendingClawbackBySbt.set sbtId id
    pendingClawbacks :=
      if id ∈ s.annex.pendingClawbacks then s.annex.pendingClawbacks
      else s.annex.pendingClawbacks ++ [id] } }, id)

/-- `cancel_sbt_clawback`: the request may be cancelled already. -/
def cancelSbtClawback (issuer : Address) (clawbackId : Nat) : Except Fault State := do
  requireAuth env issuer
  let request ← expect (s.annex.clawbackRequest clawbackId) (.contract .clawbackNotFound)
  require (request.issuer = issuer) (.contract .unauthorizedClawback)
  return { s with annex := { s.annex with
    clawbackRequest := s.annex.clawbackRequest.set clawbackId { request with status := .cancelled }
    pendingClawbackBySbt := s.annex.pendingClawbackBySbt.remove request.sbtId
    pendingClawbacks := s.annex.pendingClawbacks.erase clawbackId } }

/-! ## Possession -/

/-- `to_le_bytes` of a `u64`. -/
def leBytes (n : Nat) : Bytes := (List.range 8).map fun i => UInt8.ofNat (n / 256 ^ i)

/-- `to_be_bytes` of a `u64`. -/
def beBytes (n : Nat) : Bytes := (leBytes n).reverse

def generateSbtPossessionProof (holder : Address) (sbtId : Nat) : Except Fault (State × Bytes) := do
  requireAuth env holder
  let token ← s.getToken sbtId
  require (token.owner = holder) (.panic "not the owner")
  let proofData := leBytes sbtId ++ env.toXdr holder
  return ({ s with annex := { s.annex with
    sbtProofOfPossession := s.annex.sbtProofOfPossession.set sbtId
      { sbtId := sbtId, proofData := proofData, generatedAt := env.now } } }, proofData)

def updateSbtMetadataCommitment (owner : Address) (sbtId : Nat)
    (newMetadataHash signature : Bytes) : Except Fault State := do
  requireAuth env owner
  let token ← s.getToken sbtId
  require (token.owner = owner) (.panic "not the owner")
  return { s with annex := { s.annex with
    metadataCommitment := s.annex.metadataCommitment.set sbtId
      { sbtId := sbtId, metadataHash := newMetadataHash, signature := signature
        committedAt := env.now } } }

variable (sbtId : Nat) (key : Bytes)

/-- The stored owner of a token. -/
def expectOwner : Except Fault Address :=
  expect (s.ledger.owners sbtId) (.contract .tokenNotFound)

def createSbtPossessionCommitment (holder : Address) (sbtId : Nat) :
    Except Fault (State × Bytes) := do
  requireAuth env holder
  let tokenOwner ← s.expectOwner sbtId
  require (holder = tokenOwner) (.panic "unauthorized: caller does not own this SBT")
  let nonce ← checkedSucc (2 ^ 64) ((s.annex.commitmentNonce sbtId).getD 0)
  let commitment := env.sha256 (beBytes sbtId ++ beBytes nonce)
  return ({ s with annex := { s.annex with
    commitmentNonce := s.annex.commitmentNonce.set sbtId nonce
    possessionCommitment := s.annex.possessionCommitment.set commitment
      { sbtId := sbtId, commitment := commitment, createdAt := env.now } } }, commitment)

/-! ## Attributes -/

def removeFromAttributeIndex (value : Bytes) (sbtId : Nat) : State :=
  match s.annex.attributeIndex (key, value) with
  | some ids =>
    if sbtId ∈ ids then
      { s with annex := { s.annex with
        attributeIndex := s.annex.attributeIndex.set (key, value) (ids.erase sbtId) } }
    else s
  | none => s

def addToAttributeIndex (value : Bytes) (sbtId : Nat) : State :=
  if sbtId ∈ (s.annex.attributeIndex (key, value)).getD [] then s
  else { s with annex := { s.annex with
    attributeIndex := Index.push s.annex.attributeIndex (key, value) sbtId } }

/-- An attribute that is about to be overwritten leaves the index, if it was in it. -/
def dropIndexedAttribute : State :=
  match s.annex.sbtAttribute (sbtId, key) with
  | some existing =>
    if existing.isPrivate then s else s.removeFromAttributeIndex existing.key existing.value sbtId
  | none => s

/-- The issuer of attributes is the administrator. -/
def authorizeAttributeIssuer (issuer : Address) : Except Fault Unit := do
  requireAuth env issuer
  let stored ← expect s.control.admin (.panic "not initialized")
  require (issuer = stored) (.contract .unauthorizedAttributeIssuer)

/-- Store an attribute, and its key if it is a new one. -/
def putAttribute (record : SbtAttributeRecord) : State :=
  { s with annex := { s.annex with
    sbtAttribute := s.annex.sbtAttribute.set (sbtId, key) record
    sbtAttributeKeys :=
      if key ∈ (s.annex.sbtAttributeKeys sbtId).getD [] then s.annex.sbtAttributeKeys
      else Index.push s.annex.sbtAttributeKeys sbtId key } }

def addSbtAttribute (issuer : Address) (sbtId : Nat) (key value : Bytes) (isPrivate : Bool) :
    Except Fault State := do
  s.authorizeAttributeIssuer env issuer
  let _ ← s.getToken sbtId
  let s := (s.dropIndexedAttribute sbtId key).putAttribute sbtId key
    { sbtId := sbtId, key := key, value := value, isPrivate := isPrivate, setAt := env.now }
  return if isPrivate then s else s.addToAttributeIndex key value sbtId

/-- `remove_sbt_attribute`: the token may be gone. -/
def removeSbtAttribute (issuer : Address) (sbtId : Nat) (key : Bytes) : Except Fault State := do
  s.authorizeAttributeIssuer env issuer
  let record ← expect (s.annex.sbtAttribute (sbtId, key)) (.contract .attributeNotFound)
  let s := if record.isPrivate then s
    else s.removeFromAttributeIndex record.key record.value sbtId
  let keys := (s.annex.sbtAttributeKeys sbtId).getD []
  return { s with annex := { s.annex with
    sbtAttribute := s.annex.sbtAttribute.remove (sbtId, key)
    sbtAttributeKeys :=
      if key ∈ keys then s.annex.sbtAttributeKeys.set sbtId (keys.erase key)
      else s.annex.sbtAttributeKeys } }

/-! ## Marketplaces -/

/-- The owner of a token, for the marketplace. -/
def authorizeMarketplace (owner : Address) (sbtId : Nat) : Except Fault Unit := do
  requireAuth env owner
  let tokenOwner ← s.expectOwner sbtId
  require (owner = tokenOwner) (.contract .unauthorizedMarketplaceAction)

def registerSbtInMarketplace (owner : Address) (sbtId : Nat) (marketplaceId metadata : Bytes) :
    Except Fault State := do
  s.authorizeMarketplace env owner sbtId
  let a := s.annex
  return { s with annex := { a with
    marketplaceListing := a.marketplaceListing.set (sbtId, marketplaceId)
      { sbtId := sbtId, marketplaceId := marketplaceId, metadata := metadata
        listedAt := env.now, active := true }
    marketplaceIndex :=
      if sbtId ∈ (a.marketplaceIndex marketplaceId).getD [] then a.marketplaceIndex
      else Index.push a.marketplaceIndex marketplaceId sbtId
    sbtMarketplaces :=
      if marketplaceId ∈ (a.sbtMarketplaces sbtId).getD [] then a.sbtMarketplaces
      else Index.push a.sbtMarketplaces sbtId marketplaceId
    globalMarketplaceRegistry :=
      if sbtId ∈ a.globalMarketplaceRegistry then a.globalMarketplaceRegistry
      else a.globalMarketplaceRegistry ++ [sbtId] } }

/-- Remove a value from a stored list, writing only when it is there. -/
def eraseStored {κ ν : Type} [DecidableEq κ] [DecidableEq ν] (m : Store κ (List ν)) (k : κ)
    (v : ν) : Store κ (List ν) :=
  match m k with
  | some vs => if v ∈ vs then m.set k (vs.erase v) else m
  | none => m

/-- `deregister_sbt_from_marketplace`: the listing stays, inactive. -/
def deregisterSbtFromMarketplace (owner : Address) (sbtId : Nat) (marketplaceId : Bytes) :
    Except Fault State := do
  s.authorizeMarketplace env owner sbtId
  let listing ← expect (s.annex.marketplaceListing (sbtId, marketplaceId))
    (.contract .marketplaceListingNotFound)
  return { s with annex := { s.annex with
    marketplaceListing :=
      s.annex.marketplaceListing.set (sbtId, marketplaceId) { listing with active := false }
    marketplaceIndex := eraseStored s.annex.marketplaceIndex marketplaceId sbtId
    sbtMarketplaces := eraseStored s.annex.sbtMarketplaces sbtId marketplaceId } }

end State

end QuorumProof.Sbt
