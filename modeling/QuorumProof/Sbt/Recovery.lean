import QuorumProof.Sbt.Tokens

/-!
# Sbt/Recovery — recovery of a holder's tokens by guardians

The administrator names guardians and a threshold; a holder asks for recovery to another address,
guardians approve, and the holder finalizes.

Source: `setup_recovery_guardians`, `initiate_recovery`, `approve_recovery`, `finalize_recovery`,
`record_audit_trail`.
-/

namespace QuorumProof.Sbt

open Guarded

namespace RecoveryBook

variable (env : Env) (r : RecoveryBook)

def getRecoveryGuardians : List Address := r.guardians.getD []

def getRecoveryThreshold : Nat := r.threshold.getD 0

variable (initiator : Address) (requestId : Nat)

def getRecoveryApprovals : List RecoveryApproval :=
  (r.approvals requestId).getD []

/-- Who has approved a request. -/
def approvers : List Address :=
  (r.getRecoveryApprovals requestId).map RecoveryApproval.guardian

def recordAuditTrail (action : AuditAction) (actor : Address) (details : String) :
    Except Fault RecoveryBook := do
  let id ← checkedSucc (2 ^ 64) r.auditTrailCount
  return { r with
    auditTrail := r.auditTrail.set id
      { id := id, recoveryRequestId := requestId, action := action, actor := actor
        timestamp := env.now, details := details }
    auditTrailCount := id }

/-- `initiate_recovery`, on the storage it touches. -/
def initiateRecovery (newOwner : Address) : Except Fault (RecoveryBook × Nat) := do
  requireAuth env initiator
  require (r.getRecoveryGuardians ≠ []) (.panic "recovery guardians not configured")
  require (initiator ≠ newOwner) (.panic "new owner must be different from initiator")
  require (r.pendingByHolder initiator = none) (.contract .recoveryAlreadyExists)
  let id ← checkedSucc (2 ^ 64) r.requestCount
  let r : RecoveryBook := { r with
    request := r.request.set id
      { id := id, initiator := initiator, newOwner := newOwner, initiatedAt := env.now
        completed := false, approvalsCount := 0 }
    requestCount := id
    pendingByHolder := r.pendingByHolder.set initiator id
    approvals := r.approvals.set id [] }
  return (← r.recordAuditTrail env id .init initiator "Recovery initiated", id)

/-- `approve_recovery`, on the storage it touches. -/
def approveRecovery (guardian : Address) (requestId : Nat) : Except Fault RecoveryBook := do
  requireAuth env guardian
  require (guardian ∈ r.getRecoveryGuardians)
    (.panic "only configured guardians can approve recoveries")
  let request ← expect (r.request requestId) (.contract .recoveryNotFound)
  require (request.completed = false) (.panic "recovery already completed")
  require (guardian ∉ r.approvers requestId)
    (.panic "guardian has already approved this recovery")
  let count ← checkedSucc (2 ^ 32) request.approvalsCount
  let r : RecoveryBook := { r with
    approvals := r.approvals.set requestId (r.getRecoveryApprovals requestId ++
      [⟨guardian, env.now⟩])
    request := r.request.set requestId { request with approvalsCount := count } }
  r.recordAuditTrail env requestId .approv guardian "Recovery approved by guardian"

/-- The request `finalize_recovery` is about, with enough approvals. -/
def approvedRequest : Except Fault RecoveryRequest := do
  let request ← expect (r.request requestId) (.contract .recoveryNotFound)
  require (request.initiator = initiator) (.panic "only recovery initiator can finalize")
  require (request.completed = false) (.panic "recovery already completed")
  let threshold := r.getRecoveryThreshold
  let count := request.approvalsCount
  require (threshold ≤ count)
    (.panic s!"insufficient approvals: need {threshold} but have {count}")
  return request

/-- Mark a request as completed. -/
def completeRequest (request : RecoveryRequest) : Except Fault RecoveryBook :=
  { r with
    request := r.request.set requestId { request with completed := true }
    pendingByHolder := r.pendingByHolder.remove initiator }.recordAuditTrail env requestId .final
      initiator "Recovery finalized and SBTs transferred"

end RecoveryBook

namespace State

variable (env : Env) (s : State)

/-- `setup_recovery_guardians`: duplicates in the list are not looked for. -/
def setupRecoveryGuardians (admin : Address) (guardians : List Address) (threshold : Nat) :
    Except Fault State := do
  requireAuth env admin
  s.control.requireAdmin admin
  require (guardians ≠ []) (.panic "guardians list cannot be empty")
  require (guardians.length ≤ 10) (.panic "too many guardians (max 10)")
  require (0 < threshold) (.panic "threshold must be greater than 0")
  require (threshold ≤ guardians.length) (.panic "threshold cannot exceed number of guardians")
  return { s with recovery := { s.recovery with
    guardians := some guardians
    threshold := some threshold } }

def initiateRecovery (initiator newOwner : Address) : Except Fault (State × Nat) := do
  let (recovery, id) ← s.recovery.initiateRecovery env initiator newOwner
  return ({ s with recovery := recovery }, id)

def approveRecovery (guardian : Address) (requestId : Nat) : Except Fault State := do
  return { s with recovery := ← s.recovery.approveRecovery env guardian requestId }

/-- One turn of the recovery loop. -/
def recoverEntry (initiator newOwner : Address) (l : Ledger) (tokenId : Nat) :
    Except Fault Ledger := do
  let token ← expect (l.tokens tokenId) (.contract .tokenNotFound)
  return l.recoverToken initiator newOwner tokenId token

/-- `finalize_recovery`: every token of the initiator goes to the new owner. -/
def finalizeRecovery (initiator : Address) (requestId : Nat) : Except Fault State := do
  requireAuth env initiator
  let request ← s.recovery.approvedRequest initiator requestId
  let tokenIds := (s.ledger.ownerTokens initiator).getD []
  let ledger ← tokenIds.foldlM (recoverEntry initiator request.newOwner) s.ledger
  let recovery ← s.recovery.completeRequest env initiator requestId request
  return { s with
    ledger := ledger.recoverList initiator request.newOwner tokenIds
    recovery := recovery }

end State

end QuorumProof.Sbt
