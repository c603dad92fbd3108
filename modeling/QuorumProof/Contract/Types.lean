import QuorumProof.Lib.Guarded
import QuorumProof.Lib.Saturating

/-!
# Contract/Types — the records the contract stores

The record types of `contracts/quorum_proof/src/lib.rs` under their own names, and the ways a call
can fail.  Identifiers, ledger times, counters and weights are `Nat`; the width of the source's
integer type is stated where it matters, in the checked and saturating additions below.
-/

namespace QuorumProof

open Guarded

/-! ## Failures -/

/-- `ContractError`, the numbered errors of the contract. -/
inductive ContractError
  | credentialNotFound | sliceNotFound | contractPaused | duplicateCredential | duplicateAttestor
  | attestationExpired | invalidInput | invalidAddress | onboardingNotFound | disputeNotFound
  | unauthorizedAction | invalidApprovalWorkflow | alreadyChallenged | challengeNotFound
  | challengeResolved | notAttested | notInSlice | accusedCannotVote | alreadyVoted
  | attestationWindowOutside | recoveryNotFound | recoveryAlreadyExists | recoveryNotPending
  | recoveryAlreadyApproved | recoveryThresholdNotMet | notRecoveryApprover
  | duplicateRecoveryApproval | invalidParentType | circularHierarchy | credentialTypeNotFound
  | holderBlacklisted | alreadyBlacklisted | notBlacklisted | forkDetected | forkAlreadyResolved
  | noForkExists | transactionSizeExceeded | invalidTimestamp | transferNotAllowed
  | unauthorizedTransfer | rateLimitExceeded | numericOverflow | invalidEnumValue
  | permissionDenied | revocationRequestNotFound | revocationNotPending
  | credentialVersionNotFound | decryptionKeyNotFound | issuancePolicyNotFound
  | notIssuanceSigner | issuanceRequestNotFound | alreadyApprovedIssuance
  | issuancePolicyRequired | quotaExceeded | quotaNotFound | proofRequestNotFound
  | proofRequestExpired | invalidStatusTransition | notRequestVerifier | invalidRevocationState
  | revocationTimeLockActive | circuitBreakerDegradedLimitReached | attestationPolicyNotFound
  | notAttestationSigner | alreadySignedAttestation | attestationRequestNotFound
  | attestationRequestExpired | attestationRequestFinalized | invalidSliceModification
  | delegationNotFound | cannotDelegateToSelf | invalidThresholdConfig
  | thresholdExceedsTotalWeight | maxAttestorsExceeded | invalidCapacityLimit
  | credentialTypeAlreadyExists | credentialTypeVersionMismatch | credentialTypeVersionNotFound
  | migrationJobNotFound | roleNotFound | roleDelegationNotFound | maxDepthExceeded
  | cycleDetected | quorumIntersectionFailed | snapshotNotFound | snapshotCorrupted
  | invalidEscrowConfig | escrowAlreadyExists | escrowNotFound | escrowAlreadyRecovered
  | duplicateShareSubmission | insufficientShares | schemaNotFound | grantNotExpired
  | subjectIsAttestor | issuerIsAttestor | invalidEscrow
  deriving DecidableEq, Repr

/-- A Stellar account or contract. -/
structure Address where
  key : Nat
  deriving DecidableEq, Repr

/-- Why a call aborts.  An aborted call leaves no trace in storage. -/
inductive Fault
  /-- `panic_with_error!` -/
  | contract (error : ContractError)
  /-- `assert!`, `panic!` and `expect`, with their message. -/
  | panic (message : String)
  /-- `require_auth` on an address that did not authorize the call. -/
  | unauthorized (address : Address)
  /-- A plain `+`, `-` or cast out of range: the release profile sets `overflow-checks`. -/
  | overflow
  deriving DecidableEq, Repr

/-- Raw bytes. -/
abbrev Bytes := List UInt8

/-! ## Integers of the source

`+` on `u64` and `u32` aborts past the last value, `saturating_add` stops there. -/

/-- `a + b` on integers below `bound`. -/
def checkedAdd (bound a b : Nat) : Except Fault Nat :=
  if a + b < bound then .ok (a + b) else .error .overflow

/-- `a - b` on unsigned integers. -/
def checkedSub (a b : Nat) : Except Fault Nat :=
  if b ≤ a then .ok (a - b) else .error .overflow

def u64Max : Nat := 2 ^ 64 - 1

def u32Max : Nat := 2 ^ 32 - 1

@[simp] theorem checkedAdd_eq_ok {bound a b c : Nat} :
    checkedAdd bound a b = .ok c ↔ a + b < bound ∧ a + b = c := by
  unfold checkedAdd
  split <;> simp <;> omega

@[simp] theorem ensures_checkedAdd {bound a b : Nat} {Q : Nat → Prop} :
    Ensures (checkedAdd bound a b) Q ↔ (a + b < bound → Q (a + b)) := by
  simp [Ensures]

/-! ## The call environment -/

/-- What the host fixes for the lifetime of the contract: its own address, and SHA-256. -/
structure Host where
  self : Address
  sha256 : Bytes → Bytes

/-- What a call sees of the ledger: the host, the time, and who authorized the call. -/
structure Env extends Host where
  now : Nat
  auths : List Address

/-- `address.require_auth()`. -/
def requireAuth (env : Env) (address : Address) : Except Fault Unit :=
  require (address ∈ env.auths) (.unauthorized address)

@[simp] theorem requireAuth_eq_ok {env : Env} {a : Address} {u : Unit} :
    requireAuth env a = .ok u ↔ a ∈ env.auths := require_eq_ok

/-! ## Credentials -/

inductive CredentialStatus
  | active | expiringSoon | expired
  deriving DecidableEq, Repr

inductive RenewalStatus
  | active | renewed | expired
  deriving DecidableEq, Repr

structure Credential where
  id : Nat
  subject : Address
  issuer : Address
  credentialType : Nat
  metadataHash : Bytes
  revoked : Bool
  suspended : Bool
  status : CredentialStatus
  expiresAt : Option Nat
  version : Nat
  renewalStatus : RenewalStatus
  requiredAttestations : Nat
  metadataSchemaVersion : Nat
  autoRenew : Bool
  deriving DecidableEq, Repr

/-- `CredentialInput`, one entry of a batch. -/
structure CredentialInput where
  subject : Address
  credentialType : Nat
  metadataHash : Bytes
  expiresAt : Option Nat

structure BatchError where
  failingIndex : Nat
  reason : String
  deriving DecidableEq, Repr

/-- `BatchResult`: a rejected batch is an ordinary return value, not an abort. -/
inductive BatchResult
  | ok (ids : List Nat)
  | err (error : BatchError)
  deriving DecidableEq, Repr

/-- `CredentialIssuedEventData`, published by every issuance. -/
structure CredentialIssued where
  id : Nat
  subject : Address
  credentialType : Nat
  deriving DecidableEq, Repr

/-! ## Workflows around a credential -/

/-- `IssuancePolicy`: who approves the issuance of a credential type, and how many must. -/
structure IssuancePolicy where
  signers : List Address
  threshold : Nat
  deriving DecidableEq, Repr

structure PendingIssuanceRequest where
  id : Nat
  issuer : Address
  subject : Address
  credentialType : Nat
  metadataHash : Bytes
  expiresAt : Option Nat
  nonce : Nat
  approvals : List Address
  executed : Bool
  deriving DecidableEq, Repr

structure ConsentRequest where
  id : Nat
  issuer : Address
  subject : Address
  credentialType : Nat
  metadataHash : Bytes
  expiresAtTs : Nat
  approved : Bool
  deriving DecidableEq, Repr

structure TransferRequest where
  credentialId : Nat
  fromAddress : Address
  toAddress : Address
  deriving DecidableEq, Repr

inductive RecoveryStatus
  | pending | approved | executed | rejected
  deriving DecidableEq, Repr

structure RecoveryRequest where
  id : Nat
  credentialId : Nat
  issuer : Address
  newSubject : Address
  status : RecoveryStatus
  createdAt : Nat
  executedAt : Option Nat
  approvers : List Address
  threshold : Nat
  deriving DecidableEq, Repr

inductive RevocationStatus
  | pending | approved | denied
  deriving DecidableEq, Repr

structure HolderRevocationRequest where
  credentialId : Nat
  holder : Address
  requestedAt : Nat
  status : RevocationStatus
  deriving DecidableEq, Repr

/-- `IssuerRevocationRequest`, a scheduled revocation. -/
structure IssuerRevocationRequest where
  credentialId : Nat
  issuer : Address
  initiatedAt : Nat
  finalizeAt : Nat
  agent : Option Address
  cancelled : Bool
  deriving DecidableEq, Repr

inductive RegistryRevocationStatus
  | pending | finalized | active | cancelled
  deriving DecidableEq, Repr

/-- `RevocationRequest`, an entry of the revocation registry. -/
structure RevocationRequest where
  id : Nat
  credentialId : Nat
  issuer : Address
  requestedBy : Address
  timestamp : Nat
  unlocksAt : Nat
  status : RegistryRevocationStatus
  finalizedAt : Option Nat
  activatedAt : Option Nat
  deriving DecidableEq, Repr

structure BatchAmendmentRequest where
  id : Nat
  issuer : Address
  credentialIds : List Nat
  newMetadataHashes : List Bytes
  createdAt : Nat
  executedAt : Option Nat
  executed : Bool
  deriving DecidableEq, Repr

/-- `DidDocument`, as far as issuance reads it. -/
structure DidDocument where
  address : Address
  active : Bool
  deriving DecidableEq, Repr

structure StateSnapshot where
  id : Nat
  stateVersion : Nat
  credentialsHash : Bytes
  slicesHash : Bytes
  disputesHash : Bytes
  credentialCount : Nat
  sliceCount : Nat
  disputeCount : Nat
  deriving DecidableEq, Repr

/-! ## Slices -/

inductive ThresholdType
  | absolute | percentage
  deriving DecidableEq, Repr

/-- `QuorumSlice`: a trust group, its members' weights and its threshold. -/
structure QuorumSlice where
  id : Nat
  creator : Address
  attestors : List Address
  weights : List Nat
  threshold : Nat
  reputationWeightingEnabled : Bool
  deriving DecidableEq, Repr

/-- `QuorumSliceNode`, a nested slice. -/
structure QuorumSliceNode where
  id : Nat
  creator : Address
  attestors : List Address
  weights : List Nat
  threshold : Nat
  isNested : Bool
  childSliceIds : List Nat
  depth : Nat
  deriving DecidableEq, Repr

structure SliceTemplate where
  id : Nat
  creator : Address
  attestors : List Address
  weights : List Nat
  threshold : Nat
  version : Nat
  deriving DecidableEq, Repr

structure SliceDelegation where
  delegator : Address
  delegate : Address
  sliceId : Nat
  delegatedAt : Nat
  expiresAt : Option Nat
  deriving DecidableEq, Repr

/-! ## Attestations -/

structure AttestationRecord where
  attestor : Address
  attestedAt : Nat
  expiresAt : Option Nat
  attestationValue : Bool
  metadata : Option Bytes
  deriving DecidableEq, Repr

structure AttestationTimeWindow where
  start : Nat
  stop : Nat
  deriving DecidableEq, Repr

/-- `AttestationPolicy`, as far as a request reads it. -/
structure AttestationPolicy where
  threshold : Nat
  windowSeconds : Nat
  deriving DecidableEq, Repr

/-- `AttestationRequest`, a multi-signature attestation. -/
structure AttestationRequest where
  id : Nat
  credentialId : Nat
  sliceId : Nat
  initiator : Address
  requiredSigners : List Address
  signatures : List Address
  threshold : Nat
  attestationValue : Bool
  createdAt : Nat
  expiresAt : Nat
  executed : Bool
  rolledBack : Bool
  deriving DecidableEq, Repr

/-- `AttestationVerificationCache`, a cached answer. -/
structure AttestationVerificationCache where
  isAttested : Bool
  cachedAt : Nat
  expiresAt : Nat
  deriving DecidableEq, Repr

inductive AttestationPriority
  | low | normal | high | critical
  deriving DecidableEq, Repr

inductive PendingAttestationStatus
  | queued | processing | completed | failed | cancelled
  deriving DecidableEq, Repr

structure AttestationQueueEntry where
  id : Nat
  credentialId : Nat
  sliceId : Nat
  attestor : Address
  attestationValue : Bool
  priority : AttestationPriority
  status : PendingAttestationStatus
  createdAt : Nat
  expiresAt : Option Nat
  metadata : Option Bytes
  deriving DecidableEq, Repr

structure ForkInfo where
  credentialId : Nat
  sliceId : Nat
  conflictingAttestors : List Address
  attestedValues : List Bool
  detectedAt : Nat
  deriving DecidableEq, Repr

/-! ## Challenges, reputation and BBS+ records -/

inductive ChallengeStatus
  | opened | upheld | dismissed
  deriving DecidableEq, Repr

structure Challenge where
  id : Nat
  credentialId : Nat
  sliceId : Nat
  accused : Address
  challenger : Address
  status : ChallengeStatus
  upholdVotes : List Address
  dismissVotes : List Address
  deriving DecidableEq, Repr

structure ChallengeEvidence where
  submitter : Address
  evidenceHash : Bytes
  supportsUphold : Bool
  submittedAt : Nat
  deriving DecidableEq, Repr

/-- `ChallengeExtended`, the voting rounds of a challenge. -/
structure ChallengeExtended where
  challengeId : Nat
  round : Nat
  maxRounds : Nat
  evidence : List ChallengeEvidence
  roundExpiresAt : Nat
  roundDurationSeconds : Nat
  advanced : Bool
  deriving DecidableEq, Repr

structure AttestorReputationRecord where
  attestor : Address
  score : Nat
  totalAttestations : Nat
  confirmedMalicious : Nat
  slashCount : Nat
  stake : Nat
  pendingSlashAmount : Nat
  lastUpdatedAt : Nat
  deriving DecidableEq, Repr

structure AttestorReputationConfig where
  penaltyPerSlash : Nat
  rewardPerAttestation : Nat
  stakingEnabled : Bool
  slashFractionBps : Nat
  suspensionThreshold : Nat
  deriving DecidableEq, Repr

structure BbsRevocationAccumulator where
  epoch : Nat
  accumulatorBytes : Bytes
  updatedAt : Nat
  deriving DecidableEq, Repr

structure BbsNonRevocationProofRecord where
  credentialId : Nat
  proofBytes : Bytes
  epoch : Nat
  createdAt : Nat
  deriving DecidableEq, Repr

end QuorumProof
