import QuorumProof.Sbt.Tokens

/-!
# Sbt/Holder — what a holder does with a token

Delegations of three kinds, co-owners, and metadata.  None of these changes who owns what.

Source: `delegate_sbt_rights`, `revoke_sbt_delegation`, `is_delegate_active`, `delegate_sbt_usage`,
`active_usage_scope` and the three `verify_delegated_*`, `delegate_sbt_transfer`,
`propose_co_owner`, `accept_co_owner`, `set_co_owner`, `remove_co_owner`, `get_token`,
`update_metadata`, `set_sbt_metadata_uri`, `upgrade_sbt`.
-/

namespace QuorumProof.Sbt

open Guarded

namespace State

variable (env : Env) (s : State)

/-! ## Rights -/

variable (owner : Address) (tokenId : Nat)

def delegateSbtRights (delegatee : Address) (expiresAt : Nat) : Except Fault State := do
  requireAuth env owner
  let token ← s.expectToken tokenId
  require (token.owner = owner) (.panic "not the owner")
  require (env.now < expiresAt) (.panic "expiry must be in the future")
  return { s with delegations := { s.delegations with
    delegation := s.delegations.delegation.set tokenId
      { tokenId := tokenId, delegatee := delegatee, expiresAt := expiresAt } } }

def revokeSbtDelegation : Except Fault State := do
  requireAuth env owner
  let token ← s.expectToken tokenId
  require (token.owner = owner) (.panic "not the owner")
  return s.removeDelegation tokenId

def isDelegateActive (now : Nat) (s : State) (tokenId : Nat) (delegatee : Address) : Bool :=
  match s.delegations.delegation tokenId with
  | some delegation => delegation.delegatee = delegatee ∧ now < delegation.expiresAt
  | none => false

/-! ## Usage -/

def delegateSbtUsage (sbtId : Nat) (delegatee : Address) (scope : UsageScope) :
    Except Fault State := do
  let token ← s.expectToken sbtId
  requireAuth env token.owner
  require (token.owner ≠ delegatee) (.panic "cannot delegate to self")
  require (env.now < scope.expiresAt) (.panic "expiry must be in the future")
  return { s with delegations := { s.delegations with
    usageDelegation := s.delegations.usageDelegation.set (sbtId, delegatee)
      { tokenId := sbtId, delegatee := delegatee, scope := scope } } }

/-- `active_usage_scope`: the scope of an unexpired delegation of an existing token. -/
def activeUsageScope (now : Nat) (s : State) (sbtId : Nat) (delegatee : Address) :
    Option UsageScope := do
  guard (s.ledger.tokens sbtId).isSome
  let delegation ← s.delegations.usageDelegation (sbtId, delegatee)
  guard (now < delegation.scope.expiresAt)
  return delegation.scope

def verifyDelegatedSbt (now : Nat) (s : State) (sbtId : Nat) (delegatee : Address) : Bool :=
  match s.activeUsageScope now sbtId delegatee with
  | some (.deFiCollateral _) => true
  | _ => false

def verifyDelegatedIdentity (now : Nat) (s : State) (sbtId : Nat) (delegatee : Address) : Bool :=
  match s.activeUsageScope now sbtId delegatee with
  | some (.identityVerification _) => true
  | _ => false

def verifyDelegatedGovernance (now : Nat) (s : State) (sbtId : Nat) (delegatee : Address) : Bool :=
  match s.activeUsageScope now sbtId delegatee with
  | some (.governanceVoting _) => true
  | _ => false

/-! ## Transfer by an attestor -/

/-- `delegate_sbt_transfer`: the owner's or the administrator's. -/
def delegateSbtTransfer (caller : Address) (sbtId : Nat) (attestor newHolder : Address)
    (transferReason : Bytes) : Except Fault State := do
  requireAuth env caller
  let token ← s.getToken sbtId
  require (token.owner = caller ∨ s.control.admin = some caller) (.panic "unauthorized")
  return { s with delegations := { s.delegations with
    attestorDelegation := s.delegations.attestorDelegation.set sbtId
      { sbtId := sbtId, attestor := attestor, newHolder := newHolder
        transferReason := transferReason, executed := false, createdAt := env.now } } }

/-! ## Co-owners -/

/-- Store a token under its id, the owner unchanged. -/
def putToken (token : SoulboundToken) : State :=
  { s with ledger := { s.ledger with tokens := s.ledger.tokens.set tokenId token } }

def proposeCoOwner (candidate : Address) : Except Fault State := do
  requireAuth env owner
  let token ← s.expectToken tokenId
  require (token.owner = owner) (.panic "not the owner")
  require (candidate ≠ owner) (.contract .invalidCoOwner)
  return { s with annex := { s.annex with
    coOwnerProposal := s.annex.coOwnerProposal.set tokenId candidate } }

def assignCoOwner (token : SoulboundToken) (coOwner : Address) : Except Fault State := do
  require (coOwner ≠ token.owner) (.contract .invalidCoOwner)
  return (s.putToken tokenId { token with coOwner := some coOwner })
    |>.recordOwnershipHistory env tokenId token.owner (some coOwner) .setCo

def acceptCoOwner (candidate : Address) (tokenId : Nat) : Except Fault State := do
  requireAuth env candidate
  let proposed ← expect (s.annex.coOwnerProposal tokenId) (.contract .coOwnerProposalNotFound)
  require (proposed = candidate) (.contract .coOwnerProposalNotFound)
  let token ← s.expectToken tokenId
  let s := { s with annex := { s.annex with
    coOwnerProposal := s.annex.coOwnerProposal.remove tokenId } }
  s.assignCoOwner env tokenId token candidate

def setCoOwner (coOwner : Address) : Except Fault State := do
  requireAuth env owner
  requireAuth env coOwner
  let token ← s.expectToken tokenId
  require (token.owner = owner) (.panic "not the owner")
  s.assignCoOwner env tokenId token coOwner

def removeCoOwner (coOwner : Address) (tokenId : Nat) : Except Fault State := do
  requireAuth env owner
  requireAuth env coOwner
  let token ← s.expectToken tokenId
  require (token.owner = owner) (.panic "not the owner")
  let stored ← expect token.coOwner (.contract .coOwnerNotSet)
  require (stored = coOwner) (.panic "co-owner mismatch")
  return (s.putToken tokenId { token with coOwner := none })
    |>.recordOwnershipHistory env tokenId owner none .rmCo

/-! ## Metadata -/

/-- `update_metadata`: the URI is not validated. -/
def updateMetadata (newMetadataUri : Bytes) : Except Fault State := do
  requireAuth env owner
  let token ← s.getToken tokenId
  require (token.owner = owner) (.panic "not the owner")
  let version ← checkedSucc (2 ^ 32) token.version
  let s := { s with annex := { s.annex with
    compressedMetadata := s.annex.compressedMetadata.set tokenId newMetadataUri } }
  return (s.putToken tokenId { token with version := version })
    |>.logSbtActivity env tokenId .updMeta owner

/-- The stored credential of a token is not revoked. -/
def requireCredential (credentialId : Nat) : Except Fault Unit := do
  let qpId ← s.expectQuorumProofId
  let revoked ← invokeIsRevoked env qpId credentialId
  require (revoked = false) (.panic "credential is revoked or does not exist")

/-- `set_sbt_metadata_uri`: any address may be the issuer. -/
def setSbtMetadataUri (issuer : Address) (sbtId : Nat) (metadataUri : Bytes) :
    Except Fault State := do
  requireAuth env issuer
  validateMetadataUri metadataUri
  let sbt ← s.getToken sbtId
  s.requireCredential env sbt.credentialId
  let s := { s with annex := { s.annex with
    sbtMetadataUri := s.annex.sbtMetadataUri.set sbtId metadataUri } }
  return s.logSbtActivity env sbtId .uri issuer

/-- `upgrade_sbt`: any address may be the issuer, and the two tokens are not compared. -/
def upgradeSbt (issuer : Address) (oldSbtId newSbtId : Nat) : Except Fault State := do
  requireAuth env issuer
  let oldSbt ← s.getToken oldSbtId
  let _ ← s.getToken newSbtId
  s.requireCredential env oldSbt.credentialId
  let s := s.putToken oldSbtId { oldSbt with upgradedTo := some newSbtId }
  return (s.logSbtActivity env oldSbtId .upgrade issuer).logSbtActivity env newSbtId .new issuer

def getSbtUpgradePath (sbtId : Nat) : Except Fault (Option Nat) := do
  let sbt ← s.getToken sbtId
  return sbt.upgradedTo

end State

end QuorumProof.Sbt
