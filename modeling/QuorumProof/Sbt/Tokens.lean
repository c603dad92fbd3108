import QuorumProof.Sbt.State

/-!
# Sbt/Tokens — minting, burning and moving tokens

A token is stored four times over: `Token` and `Owner` under its id, its id in the list
`OwnerTokens` of its owner, and its id under `OwnerCredential`.  Every entry point below rewrites
all four by hand; the rewrites they share are the functions on `Ledger`.

Source: `mint`, `batch_mint`, `burn`, `burn_sbt`, `batch_burn`, `recover_sbt`,
`admin_transfer_sbt`, `transfer_ownership_dual`, `batch_transfer`, `transfer_sbt_via_attestor`.
-/

namespace QuorumProof.Sbt

open Guarded

/-! ## Rewriting the ledger -/

namespace Ledger

variable (l : Ledger) (tokenId : Nat) (owner : Address) (credentialId : Nat)

/-- Remove a token from its owner's list: the first occurrence, if there is one. -/
def unlist (tokenId : Nat) : Ledger :=
  { l with ownerTokens := l.ownerTokens.set owner (((l.ownerTokens owner).getD []).erase tokenId) }

/-- Append a token to an owner's list. -/
def enlist (tokenId : Nat) : Ledger :=
  { l with ownerTokens := Index.push l.ownerTokens owner tokenId }

/-- Store a token with its owner. -/
def putToken (token : SoulboundToken) : Ledger :=
  { l with
    tokens := l.tokens.set tokenId token
    owners := l.owners.set tokenId token.owner }

/-- Write the uniqueness mapping. -/
def setOwnerCredential (tokenId : Nat) : Ledger :=
  { l with ownerCredential := l.ownerCredential.set (owner, credentialId) tokenId }

/-- Remove the uniqueness mapping. -/
def removeOwnerCredential : Ledger :=
  { l with ownerCredential := l.ownerCredential.remove (owner, credentialId) }

/-- What minting writes, the token count apart. -/
def mintToken : Ledger :=
  let token : SoulboundToken :=
    { id := tokenId, owner := owner, credentialId := credentialId, metadataUri := [], version := 1
      upgradedTo := none, coOwner := none }
  ((l.putToken tokenId token).enlist owner tokenId).setOwnerCredential owner credentialId tokenId

/-- What burning removes. -/
def burnToken : Ledger :=
  let l := { l with tokens := l.tokens.remove tokenId, owners := l.owners.remove tokenId }
  (l.removeOwnerCredential owner credentialId).unlist owner tokenId

/-- Move a token: out of the old owner's list and mapping, then into the new owner's. -/
def moveToken (token : SoulboundToken) (newOwner : Address) : Ledger :=
  let l := (l.unlist token.owner tokenId).removeOwnerCredential token.owner token.credentialId
  let l := (l.putToken tokenId { token with owner := newOwner }).enlist newOwner tokenId
  l.setOwnerCredential newOwner token.credentialId tokenId

/-- Move a token as `transfer_sbt_via_attestor` does: the old owner's mapping is removed last. -/
def handToken (token : SoulboundToken) (newHolder : Address) : Ledger :=
  let l := (l.unlist token.owner tokenId).putToken tokenId { token with owner := newHolder }
  let l := (l.enlist newHolder tokenId).setOwnerCredential newHolder token.credentialId tokenId
  l.removeOwnerCredential token.owner token.credentialId

/-- Move a token as `finalize_recovery` does, which rewrites the lists by itself. -/
def recoverToken (initiator newOwner : Address) (tokenId : Nat) (token : SoulboundToken) : Ledger :=
  let l := l.putToken tokenId { token with owner := newOwner }
  (l.removeOwnerCredential initiator token.credentialId).setOwnerCredential newOwner
    token.credentialId tokenId

/-- Clear the initiator's list and append it to the new owner's. -/
def recoverList (initiator newOwner : Address) (tokenIds : List Nat) : Ledger :=
  let cleared := l.ownerTokens.remove initiator
  { l with ownerTokens := cleared.set newOwner ((cleared newOwner).getD [] ++ tokenIds) }

end Ledger

namespace State

variable (env : Env) (s : State) (tokenId : Nat) (owner : Address) (credentialId : Nat)

/-- Remove the rights delegation of a token. -/
def removeDelegation : State :=
  { s with delegations := { s.delegations with
    delegation := s.delegations.delegation.remove tokenId } }

/-! ## Minting -/

/-- Does `haystack` start with `needle`, up to the case of ASCII letters in `haystack`? -/
def startsWithIgnoreAsciiCase (haystack needle : Bytes) : Bool :=
  let lower (b : UInt8) : UInt8 := if 65 ≤ b ∧ b ≤ 90 then b + 32 else b
  needle.length ≤ haystack.length && (haystack.take needle.length).map lower == needle

/-- `validate_metadata_uri`: at most 256 bytes, starting with `https://` or `ipfs://`. -/
def validateMetadataUri (uri : Bytes) : Except Fault Unit := do
  require (uri.length ≤ 256) (.panic "metadata_uri exceeds 256 characters")
  require (startsWithIgnoreAsciiCase uri [104, 116, 116, 112, 115, 58, 47, 47] = true ∨
      startsWithIgnoreAsciiCase uri [105, 112, 102, 115, 58, 47, 47] = true)
    (.panic "metadata_uri must be HTTPS or IPFS")

/-- Ask `quorum_proof`, and cache the answer. -/
def refreshCredentialCache (qpId : Address) (credentialId : Nat) : Except Fault (State × Bool) := do
  let revoked ← invokeIsRevoked env qpId credentialId
  return ({ s with annex := { s.annex with
    credentialCache := s.annex.credentialCache.set credentialId
      { revoked := revoked, cachedAt := env.sequence } } }, revoked)

/-- Is a credential revoked, by a cached answer that is recent enough or by asking? -/
def checkCredentialCache (qpId : Address) (credentialId : Nat) : Except Fault (State × Bool) :=
  match s.annex.credentialCache credentialId with
  | some entry =>
    if env.sequence - entry.cachedAt < s.control.getCredentialCacheTtl then .ok (s, entry.revoked)
    else s.refreshCredentialCache env qpId credentialId
  | none => s.refreshCredentialCache env qpId credentialId

/-- The whitelist of a credential, if it has one, names the owner. -/
def checkWhitelist : Except Fault Unit :=
  match s.annex.sbtWhitelist credentialId with
  | some whitelist => require (owner ∈ whitelist) (.contract .notWhitelisted)
  | none => .ok ()

/-- No token of this owner for this credential yet. -/
def requireUnminted : Except Fault Unit :=
  require (s.ledger.ownerCredential (owner, credentialId) = none)
    (.contract .soulboundNonTransferable)

/-- What one mint writes, the token count apart. -/
def writeMint (metadataUri : Bytes) : State :=
  let s := { s with
    ledger := s.ledger.mintToken tokenId owner credentialId
    annex := { s.annex with
      compressedMetadata := s.annex.compressedMetadata.set tokenId metadataUri } }
  ((s.recordNotification env owner tokenId .mint).logSbtActivity env tokenId .mint owner)
    |>.recordOwnershipHistory env tokenId owner none .mint

/-- `TokenCount := tokenCount`. -/
def setTokenCount (tokenCount : Nat) : State :=
  { s with ledger := { s.ledger with tokenCount := tokenCount } }

def mint (metadataUri : Bytes) : Except Fault (State × Nat) := do
  requireAuth env owner
  s.control.requireNotPaused
  s.control.requireNotBlacklisted owner
  validateMetadataUri metadataUri
  let qpId ← s.expectQuorumProofId
  let (s, revoked) ← s.checkCredentialCache env qpId credentialId
  require (revoked = false) (.panic "credential is revoked")
  s.checkWhitelist owner credentialId
  s.requireUnminted owner credentialId
  let tokenId ← checkedSucc (2 ^ 64) s.ledger.tokenCount
  return ((s.writeMint env tokenId owner credentialId metadataUri).setTokenCount tokenId, tokenId)

def isValidBatchSize (batchSize : Nat) : Prop := 0 < batchSize ∧ batchSize ≤ 1000
  deriving Decidable

/-- The checks of one entry of a batch: `quorum_proof` is asked, the cache is not. -/
def validateMintEntry (qpId : Address) (entry : BatchMintEntry) : Except Fault Unit := do
  s.control.requireNotBlacklisted entry.owner
  let revoked ← invokeIsRevoked env qpId entry.credentialId
  require (revoked = false) (.panic "credential is revoked")
  s.requireUnminted entry.owner entry.credentialId

/-- One turn of the minting loop: the storage, the running count and the ids so far. -/
def mintEntry (acc : State × Nat × List Nat) (entry : BatchMintEntry) :
    Except Fault (State × Nat × List Nat) := do
  let (s, tokenCount, ids) := acc
  let tokenId ← checkedSucc (2 ^ 64) tokenCount
  return (s.writeMint env tokenId entry.owner entry.credentialId entry.metadataUri, tokenId,
    ids ++ [tokenId])

/-- `batch_mint`.  Every check is made before anything is written. -/
def batchMint (entries : List BatchMintEntry) : Except Fault (State × List Nat) := do
  require (isValidBatchSize entries.length) (.contract .batchTooLarge)
  entries.forM fun entry => requireAuth env entry.owner
  let qpId ← s.expectQuorumProofId
  entries.forM (s.validateMintEntry env qpId)
  require (entries.map fun entry => (entry.owner, entry.credentialId)).Nodup
    (.contract .soulboundNonTransferable)
  let (s, tokenCount, ids) ← entries.foldlM (mintEntry env) (s, s.ledger.tokenCount, [])
  return (s.setTokenCount tokenCount, ids)

/-! ## Burning -/

/-- What one burn writes. -/
def writeBurn : State :=
  let s := { s.removeDelegation tokenId with
    ledger := s.ledger.burnToken tokenId owner credentialId }
  (s.recordNotification env owner tokenId .burn).logSbtActivity env tokenId .burn owner

/-- `burn`, which insists on finding the token in the owner's list. -/
def burn (tokenId : Nat) : Except Fault (State × Nat) := do
  requireAuth env owner
  let token ← s.getToken tokenId
  require (token.owner = owner) (.panic "not the owner")
  let ownerTokens ← expect (s.ledger.ownerTokens owner) (.panic "owner has no tokens")
  require (tokenId ∈ ownerTokens) (.panic "token not in owner list")
  return (s.writeBurn env tokenId owner token.credentialId, token.credentialId)

def burnSbt (holder : Address) (sbtId : Nat) (proofOfResidency : Bytes) : Except Fault State := do
  requireAuth env holder
  s.control.requireNotPaused
  require (proofOfResidency ≠ []) (.contract .invalidProof)
  let token ← s.getToken sbtId
  require (token.owner = holder) (.contract .unauthorizedBurn)
  return s.writeBurn env sbtId holder token.credentialId

/-- One turn of the burning loop: the storage and the credentials so far. -/
def burnEntry (acc : State × List Nat) (entry : BatchBurnEntry) :
    Except Fault (State × List Nat) := do
  let (s, credentialIds) := acc
  let token ← s.getToken entry.tokenId
  require (token.owner = entry.caller) (.panic "not the owner")
  return (s.writeBurn env entry.tokenId entry.caller token.credentialId,
    credentialIds ++ [token.credentialId])

def batchBurn (entries : List BatchBurnEntry) : Except Fault (State × List Nat) := do
  require (isValidBatchSize entries.length) (.contract .batchTooLarge)
  entries.forM fun entry => requireAuth env entry.caller
  entries.foldlM (burnEntry env) (s, [])

/-! ## Moving -/

/-- What an administrative move writes: the rights delegation goes, the new owner is notified. -/
def writeMove (token : SoulboundToken) (newOwner : Address) (event : NotificationEvent) : State :=
  let s := { s.removeDelegation tokenId with
    ledger := s.ledger.moveToken tokenId token newOwner }
  s.recordNotification env newOwner tokenId event

def recoverSbt (caller : Address) (tokenId : Nat) (newOwner : Address) : Except Fault State := do
  requireAuth env caller
  let qpId ← s.expectQuorumProofId
  let admin ← expect s.control.admin (.panic "not initialized")
  require (caller = qpId ∨ caller = admin) (.panic "unauthorized")
  s.control.requireNotBlacklisted newOwner
  let token ← s.expectToken tokenId
  return s.writeMove env tokenId token newOwner .recover

def adminTransferSbt (admin : Address) (tokenId : Nat) (newOwner : Address) :
    Except Fault State := do
  requireAuth env admin
  s.control.requireAdmin admin
  s.control.requireNotBlacklisted newOwner
  let token ← s.expectToken tokenId
  return s.writeMove env tokenId token newOwner .transfer

/-- The co-owner of a token, if it has one, authorizes the call. -/
def requireCoOwnerAuth (token : SoulboundToken) : Except Fault Unit :=
  match token.coOwner with
  | some coOwner => requireAuth env coOwner
  | none => .ok ()

/-- `transfer_ownership_dual`: no blacklist, and the rights delegation stays. -/
def transferOwnershipDual (newOwner : Address) : Except Fault State := do
  s.control.requireNotPaused
  let token ← s.expectToken tokenId
  requireAuth env token.owner
  requireCoOwnerAuth env token
  let s := { s with ledger := s.ledger.moveToken tokenId token newOwner }
  return (s.recordNotification env newOwner tokenId .dualXfer)
    |>.recordOwnershipHistory env tokenId newOwner token.coOwner .dualXfer

/-- One turn of the transfer loop: the storage and the ids so far. -/
def transferEntry (acc : State × List Nat) (entry : BatchTransferEntry) :
    Except Fault (State × List Nat) := do
  let (s, ids) := acc
  let token ← s.getToken entry.tokenId
  return (s.writeMove env entry.tokenId token entry.newOwner .transfer, ids ++ [entry.tokenId])

/-- `batch_transfer`: no blacklist. -/
def batchTransfer (admin : Address) (entries : List BatchTransferEntry) :
    Except Fault (State × List Nat) := do
  requireAuth env admin
  s.control.requireAdmin admin
  require (isValidBatchSize entries.length) (.contract .batchTooLarge)
  entries.foldlM (transferEntry env) (s, [])

/-- Mark an attestor delegation as executed. -/
def executeAttestorDelegation (sbtId : Nat) (record : AttestorDelegationRecord) : State :=
  { s with delegations := { s.delegations with
    attestorDelegation :=
      s.delegations.attestorDelegation.set sbtId { record with executed := true } } }

def transferSbtViaAttestor (attestor : Address) (sbtId : Nat) (proof : Bytes) :
    Except Fault State := do
  s.control.requireNotPaused
  requireAuth env attestor
  let record ← expect (s.delegations.attestorDelegation sbtId) (.contract .unauthorizedAttestor)
  require (record.attestor = attestor) (.panic "not authorized attestor")
  require (record.executed = false) (.panic "delegation already executed")
  require (proof ≠ []) (.panic "proof required")
  s.control.requireNotBlacklisted record.newHolder
  let token ← s.getToken sbtId
  let s := { s with ledger := s.ledger.handToken sbtId token record.newHolder }
  let s := (s.executeAttestorDelegation sbtId record).removeDelegation sbtId
  let s := s.recordNotification env record.newHolder sbtId .transfer
  let s := s.logSbtActivity env sbtId .transfer attestor
  return s.recordOwnershipHistory env sbtId record.newHolder token.coOwner .attestor

end State

end QuorumProof.Sbt
