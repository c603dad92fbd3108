import QuorumProof.Contract.Registry
import QuorumProof.Contract.Cache

/-!
# Contract/Revocation — the ways a credential is revoked

By its issuer, on request of its holder, on a schedule, in a batch, through the revocation registry,
or by the holder withdrawing consent.  All but the last go through `mark_credential_revoked`.

Source: `revoke_credential`, `request_revocation`, `approve_revocation`, `deny_revocation`,
`schedule_revocation`, `finalize_scheduled_revocation`, `cancel_scheduled_revocation`,
`add_revocation_agent`, `remove_revocation_agent`, `batch_revoke`, `revoke_consent`,
`create_revocation_registry_request`, `activate_revocation_request`, `is_revoked`.
-/

namespace QuorumProof

open Guarded

namespace State

variable (env : Env) (s : State) (caller issuer : Address) (id : Nat)

def markCredentialRevoked (c : Credential) : State :=
  { s with registry := s.registry.markRevoked id c }.invalidateCredential id

/-- Revoke unless the credential is revoked already. -/
def revokeUnlessRevoked (c : Credential) : State :=
  if c.revoked then s else s.markCredentialRevoked id c

def requireIssuer : Except Fault Unit := do
  let c ← s.getCredential id
  require (c.issuer = caller) (.contract .permissionDenied)

def requireSubject : Except Fault Unit := do
  let c ← s.getCredential id
  require (c.subject = caller) (.contract .permissionDenied)

/-- The revocation agents of an issuer. -/
def revocationAgents : List Address :=
  (s.workflow.issuerRevocationAgents issuer).getD []

def requireIssuerOrAgent : Except Fault Unit := do
  let c ← s.getCredential id
  require (c.issuer = caller ∨ caller ∈ s.revocationAgents c.issuer) (.contract .permissionDenied)

/-- The credential has not passed its expiry. -/
def requireUnexpired (c : Credential) : Except Fault Unit :=
  require (∀ expiresAt ∈ c.expiresAt, env.now < expiresAt) (.panic "credential has expired")

/-! ## By the issuer -/

def revokeCredential : Except Fault (State × Unit) := do
  requireAuth env issuer
  let s ← s.requireNotPaused env
  let s ← s.requireRateLimit env issuer
  let c ← s.getCredential id
  require (issuer = c.issuer) (.panic "only the original issuer can revoke")
  require (c.revoked = false) (.panic "credential already revoked")
  requireUnexpired env c
  return (s.markCredentialRevoked id c, ())

/-- One iteration of `batch_revoke`. -/
def batchRevokeEntry (s : State) (id : Nat) : Except Fault State := do
  let c ← s.getCredential id
  require (issuer = c.issuer) (.panic "only issuer can revoke")
  return s.revokeUnlessRevoked id c

def batchRevoke (ids : List Nat) : Except Fault (State × Unit) := do
  requireAuth env issuer
  let s ← s.requireNotPaused env
  require (ids.length ≤ maxBatchSize) (.panic "batch too large")
  let s ← ids.foldlM (batchRevokeEntry issuer) s
  return (s, ())

/-! ## On request of the holder -/

/-- Store a holder's revocation request. -/
def setRevocationRequest (request : HolderRevocationRequest) : State :=
  { s with workflow := { s.workflow with
    revocationRequest := s.workflow.revocationRequest.set id request } }

def requestRevocation (holder : Address) (id : Nat) : Except Fault (State × Unit) := do
  requireAuth env holder
  let s ← s.requireNotPaused env
  s.requireSubject holder id
  let c ← s.getCredential id
  require (c.revoked = false) (.panic "credential already revoked")
  require (∀ existing ∈ s.workflow.revocationRequest id, existing.status ≠ .pending)
    (.panic "revocation request already pending")
  return (s.setRevocationRequest id
    { credentialId := id, holder := holder, requestedAt := env.now, status := .pending }, ())

/-- The pending request `approve_revocation` and `deny_revocation` settle. -/
def pendingRevocationRequest : Except Fault HolderRevocationRequest := do
  let request ← expect (s.workflow.revocationRequest id) (.contract .revocationRequestNotFound)
  require (request.status = .pending) (.contract .revocationNotPending)
  return request

def approveRevocation : Except Fault (State × Unit) := do
  requireAuth env issuer
  let s ← s.requireNotPaused env
  s.requireIssuer issuer id
  let request ← s.pendingRevocationRequest id
  let s := s.setRevocationRequest id { request with status := .approved }
  let c ← s.getCredential id
  return (s.revokeUnlessRevoked id c, ())

def denyRevocation : Except Fault (State × Unit) := do
  requireAuth env issuer
  let s ← s.requireNotPaused env
  s.requireIssuer issuer id
  let request ← s.pendingRevocationRequest id
  return (s.setRevocationRequest id { request with status := .denied }, ())

/-! ## On a schedule -/

/-- Store a scheduled revocation. -/
def setIssuerRevocationRequest (request : IssuerRevocationRequest) : State :=
  { s with workflow := { s.workflow with
    issuerRevocationRequest := s.workflow.issuerRevocationRequest.set id request } }

/-- The scheduled revocation of a credential that has not been cancelled. -/
def scheduledRevocation : Except Fault IssuerRevocationRequest := do
  let request ← expect (s.workflow.issuerRevocationRequest id)
    (.contract .revocationRequestNotFound)
  require (request.cancelled = false) (.contract .revocationNotPending)
  return request

/-- `schedule_revocation`, 48 hours ahead unless a time lock is given. -/
def scheduleRevocation (timelockSeconds : Option Nat) : Except Fault (State × Unit) := do
  requireAuth env caller
  let s ← s.requireNotPaused env
  s.requireIssuerOrAgent caller id
  let c ← s.getCredential id
  require (c.revoked = false) (.panic "credential already revoked")
  let finalizeAt ← checkedAdd (2 ^ 64) env.now (timelockSeconds.getD (48 * 3600))
  return (s.setIssuerRevocationRequest id
    { credentialId := id, issuer := c.issuer, initiatedAt := env.now, finalizeAt := finalizeAt
      agent := if c.issuer = caller then none else some caller, cancelled := false }, ())

/-- `finalize_scheduled_revocation`: the issuer may finalize early, anyone once the time has
come. -/
def finalizeScheduledRevocation : Except Fault (State × Unit) := do
  requireAuth env caller
  let s ← s.requireNotPaused env
  let request ← s.scheduledRevocation id
  require (caller = request.issuer ∨ request.finalizeAt ≤ env.now)
    (.contract .revocationNotPending)
  let c ← s.getCredential id
  return ((s.revokeUnlessRevoked id c).setIssuerRevocationRequest id request, ())

def cancelScheduledRevocation : Except Fault (State × Unit) := do
  requireAuth env caller
  let s ← s.requireNotPaused env
  let request ← s.scheduledRevocation id
  require (caller = request.issuer ∨ caller ∈ s.revocationAgents request.issuer)
    (.contract .permissionDenied)
  return (s.setIssuerRevocationRequest id { request with cancelled := true }, ())

/-- Store the revocation agents of an issuer. -/
def setRevocationAgents (agents : List Address) : State :=
  { s with workflow := { s.workflow with
    issuerRevocationAgents := s.workflow.issuerRevocationAgents.set issuer agents } }

def addRevocationAgent (agent : Address) : Except Fault (State × Unit) := do
  requireAuth env issuer
  let s ← s.requireNotPaused env
  let agents := s.revocationAgents issuer
  return (if agent ∈ agents then s else s.setRevocationAgents issuer (agents ++ [agent]), ())

def removeRevocationAgent (agent : Address) : Except Fault (State × Unit) := do
  requireAuth env issuer
  let s ← s.requireNotPaused env
  return (s.setRevocationAgents issuer ((s.revocationAgents issuer).filter (· ≠ agent)), ())

/-! ## Through the revocation registry

The contract keeps both functions private and no entry point calls them yet; they are the
registry's whole path to a revoked credential. -/

def requireRevocationActor (actor : Address) (c : Credential) : Except Fault Unit :=
  require (actor = c.issuer ∨ s.workflow.revocationAgent (c.issuer, actor) = some true)
    (.contract .unauthorizedAction)

/-- Store a registry request. -/
def setRegistryRequest (request : RevocationRequest) : State :=
  { s with workflow := { s.workflow with
    revocationRegistryRequest := s.workflow.revocationRegistryRequest.set request.id request } }

/-- No request is pending for the credential. -/
def requireNoPendingRegistryRequest : Except Fault Unit :=
  match s.workflow.credRevRegistryRequest id with
  | none => .ok ()
  | some existingId => do
    let existing ← expect (s.workflow.revocationRegistryRequest existingId)
      (.contract .revocationRequestNotFound)
    require (existing.status ≠ .pending) (.contract .revocationNotPending)

def createRevocationRegistryRequest (actor : Address) (id timeLockSeconds : Nat) :
    Except Fault (State × Nat) := do
  let c ← s.getCredential id
  require (c.revoked = false) (.panic "credential already revoked")
  s.requireRevocationActor actor c
  s.requireNoPendingRegistryRequest id
  let lock :=
    if timeLockSeconds = 0 then s.workflow.revocationTimeLockSeconds.getD 172800
    else timeLockSeconds
  let requestId := saturatingAdd u64Max s.workflow.revocationRegistryRequestCount 1
  let s := s.setRegistryRequest
    { id := requestId, credentialId := id, issuer := c.issuer, requestedBy := actor
      timestamp := env.now, unlocksAt := saturatingAdd u64Max env.now lock, status := .pending
      finalizedAt := none, activatedAt := none }
  return ({ s with workflow := { s.workflow with
    revocationRegistryRequestCount := requestId
    credRevRegistryRequest := s.workflow.credRevRegistryRequest.set id requestId } }, requestId)

def activateRevocationRequest (actor : Address) (requestId : Nat) :
    Except Fault (State × Unit) := do
  let request ← expect (s.workflow.revocationRegistryRequest requestId)
    (.contract .revocationRequestNotFound)
  require (request.status = .pending) (.contract .invalidRevocationState)
  require (request.unlocksAt ≤ env.now) (.contract .revocationTimeLockActive)
  let c ← s.getCredential request.credentialId
  s.requireRevocationActor actor c
  let s := s.revokeUnlessRevoked request.credentialId c
  return (s.setRegistryRequest
    { request with
      status := .active, finalizedAt := some env.now, activatedAt := some env.now }, ())

/-! ## By the holder -/

def revokeConsent (holder : Address) (id : Nat) : Except Fault (State × Unit) := do
  requireAuth env holder
  let s ← s.requireNotPaused env
  let s ← s.requireRateLimit env holder
  let c ← s.getCredential id
  require (holder = c.subject) (.panic "only the credential holder can revoke consent")
  require (c.revoked = false) (.panic "credential already revoked")
  return ({ s with registry := s.registry.revokeConsent id c }.invalidateCredential id, ())

/-! ## Reading the answer -/

/-- `is_revoked`: a cached answer is returned as it is, a computed one is kept. -/
def isRevoked : Except Fault (State × Bool) :=
  match s.registry.revocationCache id with
  | some cached => .ok (s, cached)
  | none => do
    let c ← s.getCredential id
    return ({ s with registry := s.registry.cacheRevocation id c.revoked }, c.revoked)

end State

end QuorumProof
