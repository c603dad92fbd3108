import QuorumProof.Contract.Reputation

/-!
# Contract/Attestation — attesting to a credential

Attestation records are kept per credential; the weight an attestor had when attesting is kept per
credential, slice and attestor.  `attest`, `batch_attest` and `sign_attestation_request` append
records, each with its own checks and its own part of the other writes.

Source: `attest`, `batch_attest`, `detect_fork_inner`, `resolve_fork`, `record_credential_slice`,
`require_attestor_independence`, `renew_attestation`, the multi-signature requests, the attestation
queue, the time limits of attestations and the BBS+ accumulator.
-/

namespace QuorumProof

open Guarded

/-- The weight of an attestor in a slice, by position. -/
def QuorumSlice.weightOf (slice : QuorumSlice) (attestor : Address) : Option Nat :=
  if attestor ∈ slice.attestors then slice.weights[slice.attestors.idxOf attestor]? else none

/-- A record counts until it expires. -/
def AttestationRecord.unexpired (now : Nat) (record : AttestationRecord) : Bool :=
  match record.expiresAt with
  | none => true
  | some expiresAt => decide (now < expiresAt)

namespace AttestationBook

variable (b : AttestationBook) (credentialId : Nat)

/-- The attestation records of a credential. -/
def records : List AttestationRecord :=
  (b.attestors credentialId).getD []

/-- Store the attestation records of a credential. -/
def setRecords (records : List AttestationRecord) : AttestationBook :=
  { b with attestors := b.attestors.set credentialId records }

/-- Append one record to a credential's. -/
def appendRecord (record : AttestationRecord) : AttestationBook :=
  b.setRecords credentialId (b.records credentialId ++ [record])

def getCredentialSlices : List Nat :=
  (b.credentialSlices credentialId).getD []

def recordCredentialSlice (sliceId : Nat) : AttestationBook :=
  let slices := b.getCredentialSlices credentialId
  if sliceId ∈ slices then b
  else { b with credentialSlices := b.credentialSlices.set credentialId (slices ++ [sliceId]) }

/-- Capture the weight an attestor attests with. -/
def captureWeight (sliceId : Nat) (attestor : Address) (weight : Nat) : AttestationBook :=
  { b with attestationWeight :=
    b.attestationWeight.set (credentialId, sliceId, attestor) weight }

/-- Count one more attestation of an attestor. -/
def countAttestor (attestor : Address) : Except Fault AttestationBook := do
  let count ← checkedAdd (2 ^ 64) ((b.attestorCount attestor).getD 0) 1
  return { b with attestorCount := b.attestorCount.set attestor count }

/-- Count one more attestation of a credential. -/
def countCredential : Except Fault AttestationBook := do
  let count ← checkedAdd (2 ^ 32) ((b.credentialAttestationCount credentialId).getD 0) 1
  return { b with
    credentialAttestationCount := b.credentialAttestationCount.set credentialId count }

/-- Count one more attestation of a holder. -/
def countHolder (holder : Address) : Except Fault AttestationBook := do
  let count ← checkedAdd (2 ^ 64) ((b.holderAttestationCount holder).getD 0) 1
  return { b with holderAttestationCount := b.holderAttestationCount.set holder count }

end AttestationBook

namespace State

variable (env : Env) (s : State) (attestor : Address) (id : Nat)

def requireAttestorIndependence (c : Credential) : Except Fault Unit :=
  if s.slices.attestorIndependenceEnabled = true then do
    require (attestor ≠ c.subject) (.contract .subjectIsAttestor)
    require (attestor ≠ c.issuer) (.contract .issuerIsAttestor)
  else .ok ()

/-- An attestation falls into the credential's attestation window, when it has one. -/
def requireInWindow : Except Fault Unit :=
  match s.attestations.attestationWindow id with
  | none => .ok ()
  | some window =>
    require (window.start ≤ env.now ∧ env.now < window.stop)
      (.contract .attestationWindowOutside)

/-- `detect_fork_inner`: a member of the slice has attested the other value. -/
def detectForkInner (sliceId : Nat) (newAttestor : Address) (newValue : Bool) :
    Except Fault Bool := do
  let slice ← s.getSlice sliceId
  return decide (newAttestor ∈ slice.attestors) &&
    (s.attestations.records id).any fun record =>
      decide (record.attestor ∈ slice.attestors) && record.attestationValue != newValue

/-- A fork aborts the attestation; what `attest` stores about it before is rolled back. -/
def requireNoFork (sliceId : Nat) (attestor : Address) (value : Bool) : Except Fault Unit := do
  let forked ← s.detectForkInner id sliceId attestor value
  require (forked = false) (.contract .forkDetected)

/-! ## Attesting -/

def attest (sliceId : Nat) (value : Bool) (expiresAt : Option Nat) :
    Except Fault (State × Unit) := do
  requireAuth env attestor
  let s ← s.requireNotPaused env
  let s ← s.requireRateLimit env attestor
  require (0 < id) (.contract .invalidInput)
  require (0 < sliceId) (.contract .invalidInput)
  validateOptionalTimestamp env expiresAt
  let c ← s.getCredential id
  require (c.revoked = false) (.panic "credential is revoked")
  require (c.suspended = false) (.panic "credential is suspended")
  s.requireAttestorIndependence attestor c
  s.requireInWindow env id
  let slice ← s.getSlice sliceId
  let resolved ← s.resolveAttestor env attestor sliceId slice
  require (s.discipline.isAttestorSuspended sliceId resolved = false)
    (.panic "attestor is suspended")
  s.requireNoFork id sliceId resolved value
  require (s.attestations.attestationWeight (id, sliceId, resolved) = none)
    (.panic "attestor has already attested for this credential")
  let record : AttestationRecord :=
    { attestor := resolved, attestedAt := env.now, expiresAt := expiresAt
      attestationValue := value, metadata := none }
  let b := (s.attestations.appendRecord id record).recordCredentialSlice id sliceId
  let weight ← expect (slice.weightOf resolved) (.panic "attestor weight missing")
  let b := b.captureWeight id sliceId resolved weight
  let b ← b.countAttestor resolved
  let b ← b.countCredential id
  let b ← b.countHolder c.subject
  return ({ s with
    attestations := b
    discipline := s.discipline.rewardAttestorReputation env resolved
    cache := s.cache.invalidate id sliceId }, ())

/-- One iteration of `batch_attest`: a hand-written variant of `attest` that captures no weight,
records no slice, counts nothing for the credential and rewards nobody. -/
def batchAttestEntry (sliceId : Nat) (resolved : Address) (value : Bool) (expiresAt : Option Nat)
    (s : State) (id : Nat) : Except Fault State := do
  require (0 < id) (.contract .invalidInput)
  let c ← s.getCredential id
  require (c.revoked = false) (.panic "credential is revoked")
  require (c.suspended = false) (.panic "credential is suspended")
  s.requireInWindow env id
  s.requireNoFork id sliceId resolved value
  require (∀ record ∈ s.attestations.records id, record.attestor ≠ resolved)
    (.panic "attestor has already attested for this credential")
  let record : AttestationRecord :=
    { attestor := resolved, attestedAt := env.now, expiresAt := expiresAt
      attestationValue := value, metadata := none }
  let b ← (s.attestations.appendRecord id record).countAttestor resolved
  let b ← b.countHolder c.subject
  return { s with attestations := b, cache := s.cache.invalidate id sliceId }

def batchAttest (ids : List Nat) (sliceId : Nat) (value : Bool) (expiresAt : Option Nat) :
    Except Fault (State × Unit) := do
  requireAuth env attestor
  let s ← s.requireNotPaused env
  let s ← s.requireRateLimit env attestor
  validateArrayBounds ids.length 1 maxBatchSize "credential_ids"
  require (0 < sliceId) (.contract .invalidInput)
  validateOptionalTimestamp env expiresAt
  let slice ← s.getSlice sliceId
  let resolved ← s.resolveAttestor env attestor sliceId slice
  require (s.discipline.isAttestorSuspended sliceId resolved = false)
    (.panic "attestor is suspended")
  let s ← ids.foldlM (batchAttestEntry env sliceId resolved value expiresAt) s
  return (s, ())

def renewAttestation (newExpiresAt : Nat) : Except Fault (State × Unit) := do
  requireAuth env attestor
  let s ← s.requireNotPaused env
  let c ← s.getCredential id
  require (c.revoked = false) (.panic "credential is revoked")
  require (c.suspended = false) (.panic "credential is suspended")
  require (env.now < newExpiresAt) (.panic "new_expires_at must be in the future")
  let records := s.attestations.records id
  require (∃ record ∈ records, record.attestor = attestor) (.panic "attestation not found")
  let renewed := records.map fun record =>
    if record.attestor = attestor then { record with expiresAt := some newExpiresAt } else record
  return ({ s with attestations := s.attestations.setRecords id renewed }.invalidateCredential id,
    ())

/-! ## Forks -/

/-- The weight `resolve_fork` gives the unexpired votes of a slice's members for a value. -/
def forkWeight (sliceId : Nat) (slice : QuorumSlice) (value : Bool) : Nat :=
  (((s.attestations.records id).filter fun record =>
      decide (record.attestor ∈ slice.attestors) && record.unexpired env.now &&
        record.attestationValue == value).map fun record =>
    (s.attestations.attestationWeight (id, sliceId, record.attestor)).getD 1).foldl
      (saturatingAdd u32Max) 0

/-- `resolve_fork`.  It asks for the record of a fork, which `attest` writes only in a call that
then aborts. -/
def resolveFork (resolver : Address) (id sliceId : Nat) : Except Fault (State × Bool) := do
  requireAuth env resolver
  let s ← s.requireNotPaused env
  let _ ← expect (s.attestations.forkInfo (id, sliceId)) (.contract .noForkExists)
  let slice ← s.getSlice sliceId
  let weightTrue := s.forkWeight env id sliceId slice true
  let weightFalse := s.forkWeight env id sliceId slice false
  let canonical :=
    if slice.threshold ≤ weightTrue then true
    else if slice.threshold ≤ weightFalse then false
    else decide (weightFalse ≤ weightTrue)
  let resolved := (s.attestations.records id).map fun record =>
    if record.attestor ∈ slice.attestors then { record with attestationValue := canonical }
    else record
  return ({ s with attestations := s.attestations.setRecords id resolved }, canonical)

/-! ## Time limits -/

def setAttestationExpiry (issuer : Address) (id expiresAt : Nat) : Except Fault (State × Unit) := do
  requireAuth env issuer
  let s ← s.requireNotPaused env
  validateTimestamp env expiresAt
  let c ← s.getCredential id
  require (c.issuer = issuer) (.panic "only the credential issuer can set attestation expiry")
  require (env.now < expiresAt) (.contract .invalidInput)
  return ({ s with attestations := { s.attestations with
    attestationExpiry := s.attestations.attestationExpiry.set id expiresAt } }, ())

def setAttestationWindow (issuer : Address) (id start stop : Nat) :
    Except Fault (State × Unit) := do
  requireAuth env issuer
  let s ← s.requireNotPaused env
  validateTimestamp env start
  validateTimestamp env stop
  let c ← s.getCredential id
  require (c.issuer = issuer) (.panic "only the credential issuer can set attestation window")
  require (start < stop) (.contract .invalidInput)
  return ({ s with attestations := { s.attestations with
    attestationWindow := s.attestations.attestationWindow.set id
      { start := start, stop := stop } } }, ())

/-- `set_attestation_time_lock`; `reasonBytes` is the length of the reason. -/
def setAttestationTimeLock (issuer : Address) (id releaseAt reasonBytes : Nat) :
    Except Fault (State × Unit) := do
  requireAuth env issuer
  let s ← s.requireNotPaused env
  let c ← s.getCredential id
  require (c.issuer = issuer) (.panic "unauthorized: caller is not the credential issuer")
  require (env.now < releaseAt) (.panic "release_at must be strictly in the future")
  require (reasonBytes ≤ 128) (.panic "reason must be at most 128 bytes")
  return ({ s with attestations := { s.attestations with
    timeLock := s.attestations.timeLock.set id releaseAt } }, ())

def clearAttestationTimeLock (issuer : Address) (id : Nat) : Except Fault (State × Unit) := do
  requireAuth env issuer
  let s ← s.requireNotPaused env
  let c ← s.getCredential id
  require (c.issuer = issuer) (.panic "unauthorized: caller is not the credential issuer")
  return ({ s with attestations := { s.attestations with
    timeLock := s.attestations.timeLock.remove id } }, ())

/-! ## Multi-signature attestations -/

def setAttestationPolicy (admin : Address) (credentialType threshold windowSeconds : Nat) :
    Except Fault (State × Unit) := do
  requireAuth env admin
  let s ← s.requireNotPaused env
  s.control.assertAdmin admin
  require (0 < threshold) (.panic "threshold must be > 0")
  require (threshold ≤ maxMultisigSigners) (.panic "threshold exceeds maximum")
  require (0 < windowSeconds) (.panic "window_seconds must be > 0")
  return ({ s with attestations := { s.attestations with
    attestationPolicy := s.attestations.attestationPolicy.set credentialType
      { threshold := threshold, windowSeconds := windowSeconds } } }, ())

/-- Store a multi-signature attestation request. -/
def setAttestationRequest (requestId : Nat) (request : AttestationRequest) : State :=
  { s with attestations := { s.attestations with
    attestationRequest := s.attestations.attestationRequest.set requestId request } }

def requestMultisigAttestation (initiator : Address) (id sliceId : Nat)
    (requiredSigners : List Address) (value : Bool) : Except Fault (State × Nat) := do
  requireAuth env initiator
  let s ← s.requireNotPaused env
  let s ← s.requireRateLimit env initiator
  require (0 < id) (.contract .invalidInput)
  require (0 < sliceId) (.contract .invalidInput)
  let c ← s.getCredential id
  require (c.revoked = false) (.panic "credential is revoked")
  let policy ← expect (s.attestations.attestationPolicy c.credentialType)
    (.contract .attestationPolicyNotFound)
  require (policy.threshold ≤ requiredSigners.length)
    (.panic "not enough required signers for policy threshold")
  let slice ← s.getSlice sliceId
  require (s.slices.inSlice sliceId slice initiator = true) (.panic "initiator not in slice")
  let requestId ← checkedAdd (2 ^ 64) s.attestations.attestationRequestCount 1
  let s := s.setAttestationRequest requestId
    { id := requestId, credentialId := id, sliceId := sliceId, initiator := initiator
      requiredSigners := requiredSigners, signatures := [initiator]
      threshold := policy.threshold, attestationValue := value, createdAt := env.now
      expiresAt := saturatingAdd u64Max env.now policy.windowSeconds, executed := false
      rolledBack := false }
  return ({ s with attestations :=
    { s.attestations with attestationRequestCount := requestId } }, requestId)

/-- The attestation a request ends in: a record of the initiator, without expiry, and the approval
of the credential when the value is positive.  No weight is captured, no slice recorded, and no
cached answer removed. -/
def executeAttestationRequest (request : AttestationRequest) : State :=
  let record : AttestationRecord :=
    { attestor := request.initiator, attestedAt := env.now, expiresAt := none
      attestationValue := request.attestationValue, metadata := none }
  let b := s.attestations.appendRecord request.credentialId record
  { s with attestations :=
    if request.attestationValue = true then
      { b with multisigAttestationApproved :=
        b.multisigAttestationApproved.set request.credentialId true }
    else b }

def signAttestationRequest (signer : Address) (requestId : Nat) : Except Fault (State × Bool) := do
  requireAuth env signer
  let s ← s.requireNotPaused env
  let s ← s.requireRateLimit env signer
  let request ← expect (s.attestations.attestationRequest requestId)
    (.contract .attestationRequestNotFound)
  require (request.executed = false ∧ request.rolledBack = false)
    (.contract .attestationRequestFinalized)
  require (env.now ≤ request.expiresAt) (.contract .attestationRequestExpired)
  require (signer ∈ request.requiredSigners) (.contract .notAttestationSigner)
  require (signer ∉ request.signatures) (.contract .alreadySignedAttestation)
  let request := { request with signatures := request.signatures ++ [signer] }
  if request.threshold ≤ request.signatures.length then do
    let s := s.setAttestationRequest requestId { request with executed := true }
    let _ ← s.getCredential request.credentialId
    return (s.executeAttestationRequest env request, true)
  else return (s.setAttestationRequest requestId request, false)

def rollbackAttestationRequest (requestId : Nat) : Except Fault (State × Unit) := do
  let s ← s.enforceWriteLimit env
  let request ← expect (s.attestations.attestationRequest requestId)
    (.contract .attestationRequestNotFound)
  require (request.executed = false ∧ request.rolledBack = false)
    (.contract .attestationRequestFinalized)
  require (request.expiresAt < env.now) (.panic "attestation window still active")
  return (s.setAttestationRequest requestId { request with rolledBack := true }, ())

def checkAndRollbackAttestation (requestId : Nat) : Except Fault (State × Bool) := do
  let s ← s.enforceWriteLimit env
  let request ← expect (s.attestations.attestationRequest requestId)
    (.contract .attestationRequestNotFound)
  if request.executed = false ∧ request.rolledBack = false ∧ request.expiresAt < env.now then
    return (s.setAttestationRequest requestId { request with rolledBack := true }, true)
  else return (s, false)

/-! ## The attestation queue -/

/-- Store a queue entry. -/
def setQueueEntry (entryId : Nat) (entry : AttestationQueueEntry) : State :=
  { s with attestations := { s.attestations with
    attestationQueueEntry := s.attestations.attestationQueueEntry.set entryId entry } }

def addToAttestationQueue (sliceId : Nat) (value : Bool) (priority : AttestationPriority)
    (expiresAt : Option Nat) (metadata : Option Bytes) : Except Fault (State × Nat) := do
  requireAuth env attestor
  let s ← s.requireNotPaused env
  let entryId := (s.attestations.attestationQueueCount + 1) % 2 ^ 64
  let s := { s with attestations :=
    { s.attestations with attestationQueueCount := entryId } }
  return (s.setQueueEntry entryId
    { id := entryId, credentialId := id, sliceId := sliceId, attestor := attestor
      attestationValue := value, priority := priority, status := .queued, createdAt := env.now
      expiresAt := expiresAt, metadata := metadata }, entryId)

/-- An entry is changed by its attestor or the administrator. -/
def requireQueueActor (entry : AttestationQueueEntry) (caller : Address) (message : String) :
    Except Fault Unit := do
  let admin ← expect s.control.admin (.panic "not initialized")
  require (caller = entry.attestor ∨ caller = admin) (.panic message)

def setAttestationPriority (caller : Address) (entryId : Nat) (priority : AttestationPriority) :
    Except Fault (State × Unit) := do
  requireAuth env caller
  let s ← s.enforceWriteLimit env
  let entry ← expect (s.attestations.attestationQueueEntry entryId)
    (.panic "queue entry not found")
  s.requireQueueActor entry caller "only attestor or admin may change priority"
  require (entry.status = .queued) (.panic "only queued entries may have priority changed")
  return (s.setQueueEntry entryId { entry with priority := priority }, ())

def removeFromAttestationQueue (caller : Address) (entryId : Nat) :
    Except Fault (State × Unit) := do
  requireAuth env caller
  let s ← s.enforceWriteLimit env
  let entry ← expect (s.attestations.attestationQueueEntry entryId)
    (.panic "queue entry not found")
  s.requireQueueActor entry caller "only attestor or admin may remove from queue"
  return (s.setQueueEntry entryId { entry with status := .cancelled }, ())

/-- The rank of a priority in the source's enumeration. -/
def priorityRank : AttestationPriority → Nat
  | .low => 0
  | .normal => 1
  | .high => 2
  | .critical => 3

/-- A queued entry as the sort sees it: priority, time of creation and id. -/
abbrev QueueItem := AttestationPriority × Nat × Nat

/-- Whether two neighbours of the queue are swapped. -/
def shouldSwap (a b : QueueItem) : Bool :=
  decide (priorityRank a.1 < priorityRank b.1) ||
    (decide (priorityRank a.1 = priorityRank b.1) && decide (b.2.1 < a.2.1))

/-- Compare the entries at `j` and `j + 1`. -/
def swapStep (queue : List QueueItem) (j : Nat) : List QueueItem :=
  match queue[j]?, queue[j + 1]? with
  | some a, some b => if shouldSwap a b = true then (queue.set j b).set (j + 1) a else queue
  | _, _ => queue

/-- The bubble sort of `process_attestation_queue`. -/
def sortQueue (queue : List QueueItem) : List QueueItem :=
  (List.range queue.length).foldl
    (fun q i => (List.range (queue.length - 1 - i)).foldl swapStep q) queue

/-- The queued entries, in order of their ids. -/
def queuedEntries : List QueueItem :=
  (List.range' 1 s.attestations.attestationQueueCount).filterMap fun id =>
    match s.attestations.attestationQueueEntry id with
    | some entry =>
      if entry.status = .queued then some (entry.priority, entry.createdAt, id) else none
    | none => none

/-- One iteration of `process_attestation_queue`. -/
def processQueueEntry (entryId : Nat) : Except Fault State := do
  let entry ← expect (s.attestations.attestationQueueEntry entryId) (.panic "unwrap on None")
  let s := s.setQueueEntry entryId { entry with status := .processing }
  let (s, _) ← s.attest env entry.attestor entry.credentialId entry.sliceId entry.attestationValue
    entry.expiresAt
  return s.setQueueEntry entryId { entry with status := .completed }

def processAttestationQueue (caller : Address) (maxEntries : Nat) : Except Fault (State × Nat) := do
  requireAuth env caller
  let s ← s.enforceWriteLimit env
  let entries := (sortQueue s.queuedEntries).take (min maxEntries 50)
  let s ← (entries.map (·.2.2)).foldlM (processQueueEntry env) s
  return (s, entries.length)

/-! ## BBS+ accumulator -/

def addToRevocationAccumulator (caller : Address) (id : Nat) (value : Bytes) :
    Except Fault (State × Unit) := do
  requireAuth env caller
  let current := (s.attestations.bbsAccumulator.map (·.epoch)).getD 0
  let epoch ← checkedAdd (2 ^ 64) current 1
  return ({ s with attestations := { s.attestations with
    bbsAccumulator := some { epoch := epoch, accumulatorBytes := value, updatedAt := env.now }
    bbsAccumulatorMember := s.attestations.bbsAccumulatorMember.set id epoch } }, ())

def createNonRevocationProof (holder : Address) (id : Nat) (proofBytes : Bytes) :
    Except Fault (State × Unit) := do
  requireAuth env holder
  let accumulator ← expect s.attestations.bbsAccumulator
    (.panic "revocation accumulator not initialised")
  return ({ s with attestations := { s.attestations with
    bbsNonRevocationProof := s.attestations.bbsNonRevocationProof.set id
      { credentialId := id, proofBytes := proofBytes, epoch := accumulator.epoch
        createdAt := env.now } } }, ())

end State

end QuorumProof
