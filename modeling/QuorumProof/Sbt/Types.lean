import QuorumProof.Contract.Types

/-!
# Sbt/Types — the records of the soulbound-token registry

The record types of `contracts/sbt_registry/src/lib.rs` under their own names, the ways a call can
fail, and what a call sees of the ledger.  Addresses, bytes and integers are those of
`Contract/Types`.
-/

namespace QuorumProof.Sbt

open Guarded

/-! ## Failures -/

/-- `ContractError`, the numbered errors of the registry. -/
inductive ContractError
  | soulboundNonTransferable | tokenNotFound | recoveryNotFound | recoveryAlreadyExists
  | unauthorizedRecovery | insufficientApprovals | invalidGuardian | notWhitelisted
  | holderBlacklisted | unauthorizedBurn | invalidProof | unauthorizedAttestor | appealNotFound
  | invalidPossessionProof | metadataCommitmentMismatch | attributeNotFound
  | unauthorizedAttributeIssuer | privateAttributeAccessDenied | marketplaceListingNotFound
  | unauthorizedMarketplaceAction | commitmentNotFound | invalidCommitmentProof | invalidCoOwner
  | coOwnerNotSet | clawbackAlreadyExists | clawbackNotFound | unauthorizedClawback | batchTooLarge
  | coOwnerProposalNotFound
  deriving DecidableEq, Repr

/-- Why a call aborts.  An aborted call leaves no trace in storage. -/
inductive Fault
  /-- `panic_with_error!` -/
  | contract (error : ContractError)
  /-- `assert!`, `panic!` and `expect`, with their message. -/
  | panic (message : String)
  /-- `require_auth` on an address that did not authorize the call. -/
  | unauthorized (address : Address)
  /-- A plain `+` or `*` out of range. -/
  | overflow
  /-- A call of another contract that aborts. -/
  | invocation (contract : Address)
  deriving DecidableEq, Repr

/-- `n + 1` on integers below `bound`. -/
def checkedSucc (bound n : Nat) : Except Fault Nat := do
  require (n + 1 < bound) .overflow
  return n + 1

@[simp] theorem ensures_checkedSucc {bound n : Nat} {Q : Nat → Prop} :
    Ensures (checkedSucc bound n) Q ↔ (n + 1 < bound → Q (n + 1)) := by
  simp [checkedSucc]

/-! ## The call environment -/

/-- What the host fixes: SHA-256, and the XDR encoding of an address. -/
structure Host where
  sha256 : Bytes → Bytes
  toXdr : Address → Bytes

/-- What a call sees of the ledger: the time, the ledger's sequence number, who authorized the call,
and what a contract answers to `is_revoked` during it, if it answers at all. -/
structure Env extends Host where
  now : Nat
  sequence : Nat
  auths : List Address
  isRevoked : Address → Nat → Option Bool

/-- `address.require_auth()`. -/
def requireAuth (env : Env) (address : Address) : Except Fault Unit :=
  require (address ∈ env.auths) (.unauthorized address)

@[simp] theorem requireAuth_eq_ok {env : Env} {a : Address} {u : Unit} :
    requireAuth env a = .ok u ↔ a ∈ env.auths := require_eq_ok

/-- The cross-contract call `is_revoked` of the `quorum_proof` contract. -/
def invokeIsRevoked (env : Env) (qpId : Address) (credentialId : Nat) : Except Fault Bool :=
  expect (env.isRevoked qpId credentialId) (.invocation qpId)

/-! ## Tokens -/

structure SoulboundToken where
  id : Nat
  owner : Address
  credentialId : Nat
  metadataUri : Bytes
  version : Nat
  upgradedTo : Option Nat
  coOwner : Option Address
  deriving DecidableEq, Repr

structure CredentialCacheEntry where
  revoked : Bool
  cachedAt : Nat
  deriving DecidableEq, Repr

structure ReputationConfig where
  tokenWeight : Nat
  activityWeight : Nat
  deriving DecidableEq, Repr

structure BatchMintEntry where
  owner : Address
  credentialId : Nat
  metadataUri : Bytes
  deriving DecidableEq, Repr

structure BatchBurnEntry where
  caller : Address
  tokenId : Nat
  deriving DecidableEq, Repr

structure BatchTransferEntry where
  tokenId : Nat
  newOwner : Address
  deriving DecidableEq, Repr

/-! ## Delegations -/

/-- `Delegation`, of a token's rights. -/
structure Delegation where
  tokenId : Nat
  delegatee : Address
  expiresAt : Nat
  deriving DecidableEq, Repr

/-- `UsageScope`, with the time the scope expires. -/
inductive UsageScope
  | deFiCollateral (expiresAt : Nat)
  | identityVerification (expiresAt : Nat)
  | governanceVoting (expiresAt : Nat)
  deriving DecidableEq, Repr

/-- The expiry a scope carries. -/
def UsageScope.expiresAt : UsageScope → Nat
  | deFiCollateral expiresAt | identityVerification expiresAt | governanceVoting expiresAt =>
    expiresAt

structure ScopedDelegation where
  tokenId : Nat
  delegatee : Address
  scope : UsageScope
  deriving DecidableEq, Repr

structure AttestorDelegationRecord where
  sbtId : Nat
  attestor : Address
  newHolder : Address
  transferReason : Bytes
  executed : Bool
  createdAt : Nat
  deriving DecidableEq, Repr

/-! ## Recovery -/

structure RecoveryRequest where
  id : Nat
  initiator : Address
  newOwner : Address
  initiatedAt : Nat
  completed : Bool
  approvalsCount : Nat
  deriving DecidableEq, Repr

structure RecoveryApproval where
  guardian : Address
  approvedAt : Nat
  deriving DecidableEq, Repr

/-- The `action` of an audit trail entry. -/
inductive AuditAction
  | init | approv | final
  deriving DecidableEq, Repr

structure AuditTrailEntry where
  id : Nat
  recoveryRequestId : Nat
  action : AuditAction
  actor : Address
  timestamp : Nat
  details : String
  deriving DecidableEq, Repr

/-! ## Journals -/

/-- The `event` of a notification. -/
inductive NotificationEvent
  | mint | burn | recover | transfer | dualXfer
  deriving DecidableEq, Repr

structure NotificationEntry where
  tokenId : Nat
  event : NotificationEvent
  timestamp : Nat
  deriving DecidableEq, Repr

/-- The `event` of an ownership change. -/
inductive OwnershipEvent
  | mint | dualXfer | setCo | rmCo | attestor
  deriving DecidableEq, Repr

structure OwnershipHistoryEntry where
  owner : Address
  coOwner : Option Address
  changedAt : Nat
  event : OwnershipEvent
  deriving DecidableEq, Repr

/-- The `action` of an activity log entry. -/
inductive ActivityAction
  | mint | burn | updMeta | uri | upgrade | new | transfer
  deriving DecidableEq, Repr

structure SbtActivityEntry where
  action : ActivityAction
  actor : Address
  timestamp : Nat
  deriving DecidableEq, Repr

structure CredentialAccessEntry where
  accessor : Address
  timestamp : Nat
  payment : Int
  deriving DecidableEq, Repr

/-! ## What is attached to a token -/

/-- The `status` of a clawback request. -/
inductive ClawbackStatus
  | pending | cancelled
  deriving DecidableEq, Repr

structure ClawbackRequest where
  id : Nat
  sbtId : Nat
  issuer : Address
  reason : Bytes
  initiatedAt : Nat
  expiresAt : Nat
  status : ClawbackStatus
  deriving DecidableEq, Repr

structure RevocationRecord where
  sbtId : Nat
  reason : Bytes
  revokedBy : Address
  revokedAt : Nat
  deriving DecidableEq, Repr

/-- The `status` of an appeal. -/
inductive AppealStatus
  | pend
  deriving DecidableEq, Repr

structure AppealRecord where
  sbtId : Nat
  appealEvidence : Bytes
  appealedBy : Address
  appealedAt : Nat
  status : AppealStatus
  deriving DecidableEq, Repr

structure PossessionProof where
  sbtId : Nat
  proofData : Bytes
  generatedAt : Nat
  deriving DecidableEq, Repr

structure MetadataCommitmentRecord where
  sbtId : Nat
  metadataHash : Bytes
  signature : Bytes
  committedAt : Nat
  deriving DecidableEq, Repr

structure SbtAttributeRecord where
  sbtId : Nat
  key : Bytes
  value : Bytes
  isPrivate : Bool
  setAt : Nat
  deriving DecidableEq, Repr

structure MarketplaceListingRecord where
  sbtId : Nat
  marketplaceId : Bytes
  metadata : Bytes
  listedAt : Nat
  active : Bool
  deriving DecidableEq, Repr

structure PossessionCommitmentRecord where
  sbtId : Nat
  commitment : Bytes
  createdAt : Nat
  deriving DecidableEq, Repr

end QuorumProof.Sbt
