import QuorumProof.Contract.Revocation

/-!
# Contract/Lifecycle — a credential's record between issuance and revocation

Metadata updates and amendments, suspension, renewal, and the moves to another subject: transfer,
key rotation and recovery.  Snapshots of the counters are at the end.

Source: `update_metadata`, `amend_credential`, `batch_amend_credentials`,
`execute_batch_amendment`, `update_metadata_schema_version`, `suspend_credential`,
`resume_credential`, `renew_credential`, `trigger_auto_renewal`, `renew_credential_with_grace`,
`set_grace_period`, `set_credential_auto_renew`, `initiate_transfer`, `accept_transfer`,
`rotate_credential_holder_key`, `initiate_recovery`, `approve_recovery`, `execute_recovery`,
`cancel_recovery`, `create_state_snapshot`, `restore_from_snapshot`, `migrate_state`.
-/

namespace QuorumProof

open Guarded

namespace State

variable (env : Env) (s : State) (issuer : Address) (id : Nat)

/-- Store a credential's record. -/
def putCredential (c : Credential) : State :=
  { s with registry := s.registry.putCredential id c }

/-! ## Metadata -/

def updateMetadata (hash : Bytes) : Except Fault (State × Unit) := do
  requireAuth env issuer
  let s ← s.requireNotPaused env
  require (hash ≠ []) (.panic "metadata_hash cannot be empty")
  let c ← s.getCredential id
  require (c.issuer = issuer) (.panic "only the issuer may update metadata")
  let version ← checkedAdd (2 ^ 32) c.version 1
  return (s.putCredential id { c with metadataHash := hash, version := version }, ())

def amendCredential (hash : Bytes) : Except Fault (State × Unit) := do
  requireAuth env issuer
  let s ← s.requireNotPaused env
  require (hash ≠ []) (.panic "metadata_hash cannot be empty")
  let c ← s.getCredential id
  require (c.issuer = issuer) (.panic "only the issuer may amend credential")
  require (c.revoked = false) (.panic "cannot amend a revoked credential")
  let version ← checkedAdd (2 ^ 32) c.version 1
  return ((s.putCredential id
    { c with metadataHash := hash, version := version }).invalidateCredential id, ())

/-- Store a batch amendment. -/
def setBatchAmendment (request : BatchAmendmentRequest) : State :=
  { s with workflow := { s.workflow with
    batchAmendmentRequest := s.workflow.batchAmendmentRequest.set id request } }

def batchAmendCredentials (ids : List Nat) (hashes : List Bytes) : Except Fault (State × Nat) := do
  requireAuth env issuer
  let s ← s.requireNotPaused env
  require (ids.length = hashes.length)
    (.panic "credential_ids and new_metadata_hashes lengths must match")
  require (ids ≠ []) (.panic "must provide at least one credential")
  require (ids.length ≤ maxBatchSize) (.panic "batch size exceeds maximum")
  let batchId ← checkedAdd (2 ^ 64) s.workflow.batchAmendmentCount 1
  let s := s.setBatchAmendment batchId
    { id := batchId, issuer := issuer, credentialIds := ids, newMetadataHashes := hashes
      createdAt := env.now, executedAt := none, executed := false }
  return ({ s with workflow := { s.workflow with batchAmendmentCount := batchId } }, batchId)

/-- One iteration of `execute_batch_amendment`: an entry that is missing, revoked or not the
issuer's is skipped. -/
def amendEntry (s : State) (entry : Nat × Bytes) : Except Fault State :=
  match s.registry.credentials entry.1 with
  | none => .ok s
  | some c =>
    if c.issuer = issuer ∧ c.revoked = false then do
      let version ← checkedAdd (2 ^ 32) c.version 1
      return (s.putCredential entry.1
        { c with metadataHash := entry.2, version := version }).invalidateCredential entry.1
    else .ok s

def executeBatchAmendment (batchId : Nat) : Except Fault (State × Unit) := do
  requireAuth env issuer
  let s ← s.requireNotPaused env
  let batch ← expect (s.workflow.batchAmendmentRequest batchId) (.panic "NotFound")
  require (batch.issuer = issuer) (.panic "only the batch issuer can execute the amendment")
  require (batch.executed = false) (.panic "batch has already been executed")
  let s ← (batch.credentialIds.zip batch.newMetadataHashes).foldlM (amendEntry issuer) s
  return (s.setBatchAmendment batchId
    { batch with executed := true, executedAt := some env.now }, ())

def updateMetadataSchemaVersion (version : Nat) : Except Fault (State × Unit) := do
  requireAuth env issuer
  let s ← s.requireNotPaused env
  let c ← s.getCredential id
  require (c.issuer = issuer)
    (.panic "only the credential issuer can update metadata schema version")
  return (s.putCredential id { c with metadataSchemaVersion := version }, ())

/-! ## Suspension -/

def suspendCredential : Except Fault (State × Unit) := do
  requireAuth env issuer
  let s ← s.requireNotPaused env
  let c ← s.getCredential id
  require (issuer = c.issuer) (.panic "only the original issuer can suspend")
  require (c.revoked = false) (.panic "credential already revoked")
  require (c.suspended = false) (.panic "credential already suspended")
  requireUnexpired env c
  return ((s.putCredential id { c with suspended := true }).invalidateCredential id, ())

def resumeCredential : Except Fault (State × Unit) := do
  requireAuth env issuer
  let s ← s.requireNotPaused env
  let c ← s.getCredential id
  require (issuer = c.issuer) (.panic "only the original issuer can resume")
  require (c.revoked = false) (.panic "credential already revoked")
  require (c.suspended = true) (.panic "credential is not suspended")
  requireUnexpired env c
  return ((s.putCredential id { c with suspended := false }).invalidateCredential id, ())

/-! ## Renewal -/

def renewCredential (newExpiresAt : Nat) : Except Fault (State × Unit) := do
  requireAuth env issuer
  let s ← s.requireNotPaused env
  validateTimestamp env newExpiresAt
  let c ← s.getCredential id
  require (c.issuer = issuer) (.panic "only the original issuer can renew")
  require (c.revoked = false) (.panic "cannot renew a revoked credential")
  require (c.suspended = false) (.panic "cannot renew a suspended credential")
  require (env.now < newExpiresAt) (.panic "new_expires_at must be in the future")
  return ((s.putCredential id
    { c with expiresAt := some newExpiresAt, renewalStatus := .renewed }).invalidateCredential id,
    ())

def triggerAutoRenewal (newExpiresAt : Nat) : Except Fault (State × Unit) := do
  requireAuth env issuer
  let s ← s.requireNotPaused env
  validateTimestamp env newExpiresAt
  let c ← s.getCredential id
  require (c.issuer = issuer) (.panic "only the original issuer can trigger auto-renewal")
  require (c.autoRenew = true) (.panic "auto-renewal is not enabled for this credential")
  require (c.revoked = false) (.panic "cannot renew a revoked credential")
  require (c.suspended = false) (.panic "cannot renew a suspended credential")
  require (env.now < newExpiresAt) (.panic "new_expires_at must be in the future")
  s.renewCredential env issuer id newExpiresAt

/-- An expired credential is renewed within the grace period of its type. -/
def requireInGrace (c : Credential) : Except Fault Unit :=
  match c.expiresAt with
  | none => .ok ()
  | some expiresAt => do
    require (expiresAt ≤ env.now) (.panic "credential not yet expired")
    let graceEnd ← checkedAdd (2 ^ 64) expiresAt ((s.workflow.gracePeriod c.credentialType).getD 0)
    require (env.now < graceEnd) (.panic "grace period has ended, cannot renew")

def renewCredentialWithGrace (newExpiresAt : Nat) : Except Fault (State × Unit) := do
  requireAuth env issuer
  let s ← s.requireNotPaused env
  let c ← s.getCredential id
  require (c.issuer = issuer) (.panic "only issuer can renew credential")
  require (c.revoked = false) (.panic "cannot renew revoked credential")
  require (c.suspended = false) (.panic "cannot renew suspended credential")
  s.requireInGrace env c
  let version ← checkedAdd (2 ^ 32) c.version 1
  return ((s.putCredential id
    { c with expiresAt := some newExpiresAt, version := version }).invalidateCredential id, ())

def setGracePeriod (admin : Address) (credentialType seconds : Nat) :
    Except Fault (State × Unit) := do
  requireAuth env admin
  let stored ← expect s.control.admin (.contract .invalidInput)
  require (admin = stored) (.panic "only admin can set grace period")
  return ({ s with workflow := { s.workflow with
    gracePeriod := s.workflow.gracePeriod.set credentialType seconds } }, ())

def setCredentialAutoRenew (subject : Address) (id : Nat) (autoRenew : Bool) :
    Except Fault (State × Unit) := do
  requireAuth env subject
  let s ← s.requireNotPaused env
  let c ← s.getCredential id
  require (c.subject = subject)
    (.panic "only the credential holder can change auto-renewal preference")
  require (c.revoked = false) (.panic "cannot set auto-renew on a revoked credential")
  require (c.suspended = false) (.panic "cannot set auto-renew on a suspended credential")
  return (s.putCredential id { c with autoRenew := autoRenew }, ())

/-! ## Transfer and key rotation -/

def initiateTransfer (holder : Address) (id : Nat) (recipient : Address) :
    Except Fault (State × Unit) := do
  requireAuth env holder
  let s ← s.requireNotPaused env
  let c ← s.getCredential id
  require (c.subject = holder) (.contract .unauthorizedTransfer)
  return ({ s with workflow := { s.workflow with
    transferRequest := s.workflow.transferRequest.set id
      { credentialId := id, fromAddress := holder, toAddress := recipient } } }, ())

def acceptTransfer (recipient : Address) (id : Nat) : Except Fault (State × Unit) := do
  requireAuth env recipient
  let s ← s.requireNotPaused env
  let request ← expect (s.workflow.transferRequest id) (.contract .unauthorizedTransfer)
  require (request.toAddress = recipient) (.contract .unauthorizedTransfer)
  let c ← s.getCredential id
  return ({ s with
    registry := s.registry.transfer id c recipient
    workflow := { s.workflow with transferRequest := s.workflow.transferRequest.remove id } }, ())

def rotateCredentialHolderKey (holder : Address) (id : Nat) (newHolder : Address) :
    Except Fault (State × Unit) := do
  requireAuth env holder
  let s ← s.requireNotPaused env
  let c ← s.getCredential id
  require (c.subject = holder) (.panic "only the current credential holder can rotate keys")
  require (holder ≠ newHolder) (.panic "cannot rotate to the same address")
  return ({ s with registry := s.registry.rotate id c newHolder }, ())

/-! ## Recovery -/

/-- Store a recovery request. -/
def setRecoveryRequest (request : RecoveryRequest) : State :=
  { s with workflow := { s.workflow with
    recoveryRequest := s.workflow.recoveryRequest.set id request } }

def initiateRecovery (newSubject : Address) (approvers : List Address) (threshold : Nat) :
    Except Fault (State × Nat) := do
  requireAuth env issuer
  let s ← s.requireNotPaused env
  require (0 < id) (.contract .invalidInput)
  require (0 < threshold) (.contract .invalidInput)
  validateArrayBounds approvers.length 1 maxMultisigSigners "approvers"
  let c ← s.getCredential id
  require (c.issuer = issuer) (.panic "only the original issuer can initiate recovery")
  require (c.revoked = false) (.panic "cannot recover a revoked credential")
  require (c.suspended = false) (.panic "cannot recover a suspended credential")
  require (s.workflow.credentialRecovery id = none) (.contract .recoveryAlreadyExists)
  let recoveryId ← checkedAdd (2 ^ 64) s.workflow.recoveryRequestCount 1
  let s := s.setRecoveryRequest recoveryId
    { id := recoveryId, credentialId := id, issuer := issuer, newSubject := newSubject
      status := .pending, createdAt := env.now, executedAt := none, approvers := approvers
      threshold := threshold }
  return ({ s with workflow := { s.workflow with
    credentialRecovery := s.workflow.credentialRecovery.set id recoveryId
    recoveryRequestCount := recoveryId } }, recoveryId)

def approveRecovery (approver : Address) (recoveryId : Nat) : Except Fault (State × Unit) := do
  requireAuth env approver
  let s ← s.requireNotPaused env
  let request ← expect (s.workflow.recoveryRequest recoveryId) (.contract .recoveryNotFound)
  require (request.status = .pending) (.contract .recoveryNotPending)
  require (approver ∈ request.approvers) (.contract .notRecoveryApprover)
  let approvals := (s.workflow.recoveryApprovals recoveryId).getD []
  require (approver ∉ approvals) (.contract .duplicateRecoveryApproval)
  let approvals := approvals ++ [approver]
  let s := { s with workflow := { s.workflow with
    recoveryApprovals := s.workflow.recoveryApprovals.set recoveryId approvals } }
  return (if request.threshold ≤ approvals.length then
      s.setRecoveryRequest recoveryId { request with status := .approved }
    else s, ())

/-- `execute_recovery`.  `sbtCalls` is how the calls into the SBT registry end, when one is named:
they touch no storage of this contract, and abort the call when they fail. -/
def executeRecovery (recoveryId : Nat) (sbtCalls : Except Fault Unit) :
    Except Fault (State × Unit) := do
  requireAuth env issuer
  let s ← s.requireNotPaused env
  let request ← expect (s.workflow.recoveryRequest recoveryId) (.contract .recoveryNotFound)
  require (request.issuer = issuer) (.panic "only the original issuer can execute recovery")
  require (request.status = .approved) (.contract .recoveryThresholdNotMet)
  let c ← s.getCredential request.credentialId
  let s := { s with registry := s.registry.recover request.credentialId c request.newSubject }
  let s := s.setRecoveryRequest recoveryId
    { request with status := .executed, executedAt := some env.now }
  sbtCalls
  return ({ s with workflow := { s.workflow with
    credentialRecovery := s.workflow.credentialRecovery.remove request.credentialId } }, ())

def cancelRecovery (recoveryId : Nat) : Except Fault (State × Unit) := do
  requireAuth env issuer
  let s ← s.requireNotPaused env
  let request ← expect (s.workflow.recoveryRequest recoveryId) (.contract .recoveryNotFound)
  require (request.issuer = issuer) (.panic "only the issuer can cancel recovery")
  require (request.status = .pending ∨ request.status = .approved) (.contract .recoveryNotPending)
  let s := s.setRecoveryRequest recoveryId { request with status := .rejected }
  return ({ s with workflow := { s.workflow with
    credentialRecovery := s.workflow.credentialRecovery.remove request.credentialId } }, ())

/-! ## Snapshots

A snapshot records the counters, and restoring one writes them back; no record is removed. -/

def u64ToHashBytes (value : Nat) : Bytes := Control.toBeBytes 8 value

/-- `create_state_snapshot`; `descriptionBytes` is the length of the description. -/
def createStateSnapshot (admin : Address) (descriptionBytes : Nat) :
    Except Fault (State × Nat) := do
  requireAuth env admin
  s.control.requireAdmin admin
  let s ← s.requireNotPaused env
  require (descriptionBytes ≤ 256) (.panic "description must be <= 256 bytes")
  let id ← checkedAdd (2 ^ 64) s.workflow.snapshotCount 1
  let snapshot : StateSnapshot :=
    { id := id
      stateVersion := s.workflow.stateVersion.getD 1
      credentialsHash := u64ToHashBytes s.registry.credentialCount
      slicesHash := u64ToHashBytes s.slices.sliceCount
      disputesHash := u64ToHashBytes s.workflow.disputeCount
      credentialCount := s.registry.credentialCount
      sliceCount := s.slices.sliceCount
      disputeCount := s.workflow.disputeCount }
  return ({ s with workflow := { s.workflow with
    stateSnapshot := s.workflow.stateSnapshot.set id snapshot
    snapshotCount := id } }, id)

def restoreFromSnapshot (admin : Address) (snapshotId : Nat) : Except Fault (State × Unit) := do
  requireAuth env admin
  s.control.requireAdmin admin
  let s ← s.requireNotPaused env
  let snapshot ← expect (s.workflow.stateSnapshot snapshotId) (.contract .snapshotNotFound)
  require (snapshot.stateVersion = s.workflow.stateVersion.getD 1)
    (.panic "snapshot state version mismatch")
  require (u64ToHashBytes snapshot.credentialCount = snapshot.credentialsHash ∧
      u64ToHashBytes snapshot.sliceCount = snapshot.slicesHash ∧
      u64ToHashBytes snapshot.disputeCount = snapshot.disputesHash)
    (.contract .snapshotCorrupted)
  return ({ s with
    registry := s.registry.restoreCount snapshot.credentialCount
    slices := { s.slices with sliceCount := snapshot.sliceCount }
    workflow := { s.workflow with disputeCount := snapshot.disputeCount } }, ())

/-- `migrate_state`: the one migration the contract defines is from version 0 to 1. -/
def migrateState (admin : Address) (fromVersion toVersion : Nat) : Except Fault (State × Unit) := do
  requireAuth env admin
  s.control.assertAdmin admin
  let next ← checkedAdd (2 ^ 32) fromVersion 1
  require (toVersion = next) (.panic "versions must be sequential")
  require (s.workflow.stateVersion.getD 0 = fromVersion) (.panic "current version mismatch")
  require (fromVersion = 0) (.panic "no migration defined for this version")
  return ({ s with workflow := { s.workflow with stateVersion := some toVersion } }, ())

/-- `initiate_dispute`, as far as the snapshots see it: the dispute counter. -/
def initiateDispute (initiator : Address) (sliceId : Nat) (accused : Address) :
    Except Fault (State × Nat) := do
  requireAuth env initiator
  let s ← s.requireNotPaused env
  let slice ← s.getSlice sliceId
  require (initiator ∈ slice.attestors) (.panic "only slice members can initiate disputes")
  require (accused ∈ slice.attestors) (.panic "accused must be a member of the slice")
  require (initiator ≠ accused) (.panic "initiator and accused must be different")
  let id ← checkedAdd (2 ^ 64) s.workflow.disputeCount 1
  return ({ s with workflow := { s.workflow with disputeCount := id } }, id)

end State

end QuorumProof
