import QuorumProof.Contract.Registry

/-!
# Contract/Issuance — every way a credential comes into being

Direct issuance, issuance to a DID, batches, issuance with the subject's consent, and
multi-signature issuance under an `IssuancePolicy`.

Source: `issue_credential`, `issue`, `issue_credential_to_did`, `issue_bbs_credential`,
`request_credential`, `approve_credential_request`, `issue_with_consent`,
`batch_issue_credentials`, `issue_batch`, `issue_batch_by_did`, `batch_issue_credentials_by_did`,
`create_issuance_multisig`, `request_issuance`, `approve_issuance`, the blacklist, and `did.rs`.
-/

namespace QuorumProof

open Guarded

namespace State

variable (env : Env) (s : State)

/-! ## The inner issuer -/

variable (issuer subject : Address)

def issueInner (credentialType : Nat) (metadataHash : Bytes) (expiresAt : Option Nat) :
    Except Fault (State × Nat) := do
  require (metadataHash ≠ []) (.panic "metadata_hash cannot be empty")
  let id ← checkedAdd (2 ^ 64) s.registry.credentialCount 1
  return ({ s with
    registry := s.registry.issue issuer subject credentialType metadataHash expiresAt }, id)

/-- Store the duplicate-prevention key of an issued credential. -/
def setDuplicateKey (subject issuer : Address) (credentialType id : Nat) : State :=
  { s with registry := s.registry.setDuplicateKey subject issuer credentialType id }

/-- The duplicate and blacklist checks of a single issuance. -/
def checkIssuable (credentialType : Nat) : Except Fault Unit := do
  require (s.registry.subjectIssuerType (subject, issuer, credentialType) = none)
    (.contract .duplicateCredential)
  require (s.workflow.blacklistEntry (issuer, subject) = none) (.contract .holderBlacklisted)

/-! ## Direct issuance -/

def issueCredential (credentialType : Nat) (metadataHash : Bytes) (expiresAt : Option Nat)
    (nonce : Nat) : Except Fault (State × Nat) := do
  requireAuth env issuer
  let s ← s.requireNotPaused env
  require (s.workflow.issuancePolicy credentialType = none) (.contract .invalidApprovalWorkflow)
  let s ← s.requireRateLimit env issuer
  let control ← s.control.enforceQuota env issuer
  let s := { s with control := control }
  s.control.verifyPow env credentialType nonce
  require (0 < credentialType) (.panic "credential_type must be greater than 0")
  require (metadataHash ≠ []) (.panic "metadata_hash cannot be empty")
  require (metadataHash.length ≤ 256) (.contract .invalidInput)
  validateOptionalTimestamp env expiresAt
  s.checkIssuable issuer subject credentialType
  let (s, id) ← s.issueInner issuer subject credentialType metadataHash expiresAt
  return (s.setDuplicateKey subject issuer credentialType id, id)

/-- `issue`: the metadata is the bytes of `default`, the nonce 0. -/
def issueDefault (credentialType : Nat) (expiresAt : Option Nat) : Except Fault (State × Nat) :=
  s.issueCredential env issuer subject credentialType [100, 101, 102, 97, 117, 108, 116] expiresAt 0

def issueBbsCredential (credentialType : Nat) (metadataHash : Bytes) (attributes : List Bytes)
    (expiresAt : Option Nat) (nonce : Nat) : Except Fault (State × Nat) := do
  requireAuth env issuer
  let s ← s.requireNotPaused env
  require (attributes ≠ []) (.panic "attributes cannot be empty")
  require (attributes.length ≤ 255) (.panic "too many attributes (max 255)")
  let (s, id) ← s.issueCredential env issuer subject credentialType metadataHash expiresAt nonce
  return ({ s with attestations := { s.attestations with
    bbsCredentialFlag := s.attestations.bbsCredentialFlag.set id () } }, id)

/-! ## Decentralized identifiers -/

/-- A DID is copied into a 256-byte buffer before it is looked up. -/
def didKey (did : Bytes) : Except Fault Bytes := do
  require (did.length ≤ 256) (.panic "range end index out of range")
  return did

def registerDid (address : Address) (did : Bytes) : Except Fault (State × Unit) := do
  let s ← s.enforceWriteLimit env
  requireAuth env address
  require (did ≠ []) (.panic "DID string cannot be empty")
  require (s.workflow.didByAddress address = none)
    (.panic "DID already registered for this address")
  let did ← didKey did
  require (s.workflow.didDocument did = none) (.panic "DID string already registered")
  return ({ s with workflow := { s.workflow with
    didDocument := s.workflow.didDocument.set did { address := address, active := true }
    didByAddress := s.workflow.didByAddress.set address did } }, ())

def deactivateDid (address : Address) : Except Fault (State × Unit) := do
  let s ← s.enforceWriteLimit env
  requireAuth env address
  let did ← expect (s.workflow.didByAddress address)
    (.panic "no DID registered for this address")
  let doc ← expect (s.workflow.didDocument did) (.panic "DID document not found")
  return ({ s with workflow := { s.workflow with
    didDocument := s.workflow.didDocument.set did { doc with active := false } } }, ())

def requireActiveDid (did : Bytes) : Except Fault DidDocument := do
  let did ← didKey did
  let doc ← expect (s.workflow.didDocument did) (.panic "DID not found")
  require (doc.active = true) (.panic "DID is deactivated")
  return doc

def issueCredentialToDid (subjectDid : Bytes) (credentialType : Nat) (metadataHash : Bytes)
    (expiresAt : Option Nat) (nonce : Nat) : Except Fault (State × Nat) := do
  requireAuth env issuer
  let doc ← s.requireActiveDid subjectDid
  s.issueCredential env issuer doc.address credentialType metadataHash expiresAt nonce

/-! ## Consent -/

def requestCredential (credentialType : Nat) (metadataHash : Bytes) :
    Except Fault (State × Nat) := do
  requireAuth env issuer
  let s ← s.requireNotPaused env
  require (s.workflow.pendingConsent (issuer, subject, credentialType) = none)
    (.contract .invalidApprovalWorkflow)
  let id ← checkedAdd (2 ^ 64) s.workflow.consentRequestCount 1
  let expiresAtTs ← checkedAdd (2 ^ 64) env.now (7 * 24 * 3600)
  let request : ConsentRequest :=
    { id := id, issuer := issuer, subject := subject, credentialType := credentialType
      metadataHash := metadataHash, expiresAtTs := expiresAtTs, approved := false }
  return ({ s with workflow := { s.workflow with
    consentRequest := s.workflow.consentRequest.set id request
    consentRequestCount := id
    pendingConsent := s.workflow.pendingConsent.set (issuer, subject, credentialType) id } }, id)

def approveCredentialRequest (requestId : Nat) : Except Fault (State × Unit) := do
  requireAuth env subject
  let s ← s.enforceWriteLimit env
  let request ← expect (s.workflow.consentRequest requestId) (.contract .invalidApprovalWorkflow)
  require (request.subject = subject) (.panic "unauthorized")
  require (env.now ≤ request.expiresAtTs) (.contract .attestationExpired)
  return ({ s with workflow := { s.workflow with
    consentRequest := s.workflow.consentRequest.set requestId { request with approved := true } } },
    ())

def issueWithConsent (requestId nonce : Nat) : Except Fault (State × Nat) := do
  requireAuth env issuer
  let s ← s.enforceWriteLimit env
  let request ← expect (s.workflow.consentRequest requestId) (.contract .invalidApprovalWorkflow)
  require (request.issuer = issuer) (.panic "unauthorized")
  require (request.approved = true) (.contract .permissionDenied)
  require (env.now ≤ request.expiresAtTs) (.contract .attestationExpired)
  let s := { s with workflow := { s.workflow with
    pendingConsent :=
      s.workflow.pendingConsent.remove (request.issuer, request.subject, request.credentialType)
    consentRequest := s.workflow.consentRequest.remove requestId } }
  s.issueCredential env request.issuer request.subject request.credentialType request.metadataHash
    none nonce

/-! ## Blacklist -/

def addHolderToBlacklist (holder : Address) (reason : String) : Except Fault (State × Unit) := do
  requireAuth env issuer
  let s ← s.requireNotPaused env
  require (s.workflow.blacklistEntry (issuer, holder) = none) (.contract .alreadyBlacklisted)
  return ({ s with workflow := { s.workflow with
    blacklistEntry := s.workflow.blacklistEntry.set (issuer, holder) reason } }, ())

def removeHolderFromBlacklist (holder : Address) : Except Fault (State × Unit) := do
  requireAuth env issuer
  let s ← s.requireNotPaused env
  require (s.workflow.blacklistEntry (issuer, holder) ≠ none) (.contract .notBlacklisted)
  return ({ s with workflow := { s.workflow with
    blacklistEntry := s.workflow.blacklistEntry.remove (issuer, holder) } }, ())

/-! ## Batches -/

/-- Issue one entry of a batch and store its duplicate key. -/
def issueEntry (s : State) (input : CredentialInput) : Except Fault (State × Nat) := do
  let (s, id) ← s.issueInner issuer input.subject input.credentialType input.metadataHash
    input.expiresAt
  return (s.setDuplicateKey input.subject issuer input.credentialType id, id)

/-- Run a guarded issuance over the entries of a batch, collecting the ids. -/
def issueEach (f : State → CredentialInput → Except Fault (State × Nat)) (s : State)
    (inputs : List CredentialInput) : Except Fault (State × List Nat) :=
  inputs.foldlM (fun acc input => do
    let (s, id) ← f acc.1 input
    return (s, acc.2 ++ [id])) (s, [])

/-- The entries of a batch given as parallel vectors. -/
def batchInputs (subjects : List Address) (credentialTypes : List Nat)
    (metadataHashes : List Bytes) (expiresAt : Option Nat) : List CredentialInput :=
  (subjects.zip (credentialTypes.zip metadataHashes)).map fun x =>
    { subject := x.1, credentialType := x.2.1, metadataHash := x.2.2, expiresAt := expiresAt }

/-- One iteration of `batch_issue_credentials`. -/
def batchIssueEntry (s : State) (input : CredentialInput) : Except Fault (State × Nat) := do
  require (0 < input.credentialType) (.panic "credential_type must be greater than 0")
  s.checkIssuable issuer input.subject input.credentialType
  s.issueEntry issuer input

def batchIssueCredentials (subjects : List Address) (credentialTypes : List Nat)
    (metadataHashes : List Bytes) (expiresAt : Option Nat) : Except Fault (State × List Nat) := do
  requireAuth env issuer
  let s ← s.requireNotPaused env
  validateArrayBounds subjects.length 1 maxBatchSize "subjects"
  require (credentialTypes.length = subjects.length ∧ metadataHashes.length = subjects.length)
    (.panic "input lengths must match")
  issueEach (batchIssueEntry issuer) s
    (batchInputs subjects credentialTypes metadataHashes expiresAt)

/-- What is wrong with entry `i` of a batch, if anything: the checks `issue_batch` and
`issue_batch_with_credentials` share, in their order.  `tooLong` is the one text they word
differently, `outOfRange` the timestamp check only the first makes. -/
def entryProblem (inputs : List CredentialInput) (i : Nat) (input : CredentialInput)
    (tooLong : String) (outOfRange : Bool) : Option String :=
  if input.credentialType = 0 then some "credential_type must be greater than 0"
  else if input.metadataHash = [] then some "metadata_hash cannot be empty"
  else if 256 < input.metadataHash.length then some tooLong
  else if outOfRange then some "expires_at timestamp out of valid range"
  else if s.registry.subjectIssuerType (input.subject, issuer, input.credentialType) ≠ none then
    some "duplicate credential type for this subject"
  else if s.workflow.blacklistEntry (issuer, input.subject) ≠ none then
    some "subject is blacklisted by this issuer"
  else if (inputs.take i).any fun other =>
      input.subject = other.subject ∧ input.credentialType = other.credentialType then
    some "duplicate within batch"
  else none

/-- The timestamp check of `issue_batch`, with its unchecked `+` and `-`.  Reached only by an entry
whose type and hash passed. -/
def expiryOutOfRange (input : CredentialInput) : Except Fault Bool :=
  if input.credentialType = 0 ∨ input.metadataHash = [] ∨ 256 < input.metadataHash.length then
    .ok false
  else
    match input.expiresAt with
    | none => .ok false
    | some expires => do
      let upper ← checkedAdd (2 ^ 64) env.now 315360000
      if upper < expires then return true
      let lower ← checkedSub env.now 315360000
      return expires < lower

/-- The validation loop over a batch: the first entry with a problem is reported, with its index. -/
def firstProblem (problem : Nat → CredentialInput → Except Fault (Option String)) :
    Nat → List CredentialInput → Except Fault (Option BatchError)
  | _, [] => .ok none
  | i, input :: rest => do
    match ← problem i input with
    | some reason => return some { failingIndex := i, reason := reason }
    | none => firstProblem problem (i + 1) rest

/-- Issue a batch once `error` has been looked for: nothing is issued when there is one. -/
def issueValidated (inputs : List CredentialInput) :
    Option BatchError → Except Fault (State × BatchResult)
  | some error => .ok (s, .err error)
  | none => do
    let (s, ids) ← issueEach (issueEntry issuer) s inputs
    return (s, .ok ids)

def issueBatch (inputs : List CredentialInput) : Except Fault (State × BatchResult) := do
  requireAuth env issuer
  let s ← s.requireNotPaused env
  if inputs = [] then return (s, .ok [])
  validateArrayBounds inputs.length 1 maxBatchSize "credentials"
  let error ← firstProblem (fun i input => do
    let outOfRange ← expiryOutOfRange env input
    return s.entryProblem issuer inputs i input "metadata_hash exceeds 256 bytes" outOfRange)
    0 inputs
  s.issueValidated issuer inputs error

def issueBatchWithCredentials (inputs : List CredentialInput) :
    Except Fault (State × BatchResult) := do
  let error ← firstProblem (fun i input =>
    .ok (s.entryProblem issuer inputs i input "metadata_hash exceeds max size" false)) 0 inputs
  s.issueValidated issuer inputs error

/-- The DID resolution loop of `issue_batch_by_did`. -/
def resolveDids (s : State) : Nat → List Bytes → Except Fault (Except BatchError (List Address))
  | _, [] => .ok (.ok [])
  | i, did :: rest => do
    let did ← didKey did
    match s.workflow.didDocument did with
    | none => return .error { failingIndex := i, reason := "DID not found" }
    | some doc =>
      if doc.active = false then
        return .error { failingIndex := i, reason := "DID is deactivated" }
      else
        match ← s.resolveDids (i + 1) rest with
        | .error e => return .error e
        | .ok addresses => return .ok (doc.address :: addresses)

def issueBatchByDid (subjectDids : List Bytes) (credentialTypes : List Nat)
    (metadataHashes : List Bytes) (expiresAt : Option Nat) :
    Except Fault (State × BatchResult) := do
  requireAuth env issuer
  let s ← s.requireNotPaused env
  if subjectDids = [] then return (s, .ok [])
  validateArrayBounds subjectDids.length 1 maxBatchSize "subject_dids"
  require (credentialTypes.length = subjectDids.length ∧ metadataHashes.length = subjectDids.length)
    (.panic "input lengths must match")
  match ← s.resolveDids 0 subjectDids with
  | .error e => return (s, .err e)
  | .ok resolved =>
    s.issueBatchWithCredentials issuer
      (batchInputs resolved credentialTypes metadataHashes expiresAt)

/-- `batch_issue_credentials_by_did`: the same, with a rejected batch turned into an abort. -/
def batchIssueCredentialsByDid (subjectDids : List Bytes) (credentialTypes : List Nat)
    (metadataHashes : List Bytes) (expiresAt : Option Nat) : Except Fault (State × List Nat) := do
  match ← s.issueBatchByDid env issuer subjectDids credentialTypes metadataHashes expiresAt with
  | (s, .ok ids) => return (s, ids)
  | (_, .err _) => .error (.contract .invalidInput)

/-! ## Multi-signature issuance -/

def createIssuanceMultisig (admin : Address) (credentialType : Nat) (signers : List Address)
    (threshold : Nat) : Except Fault (State × Unit) := do
  requireAuth env admin
  let s ← s.enforceWriteLimit env
  s.control.assertAdmin admin
  require (0 < credentialType) (.panic "credential_type must be greater than 0")
  require (signers ≠ []) (.panic "signers cannot be empty")
  require (0 < threshold) (.panic "threshold must be greater than 0")
  require (threshold ≤ signers.length) (.panic "threshold cannot exceed signer count")
  require (signers.length ≤ maxMultisigSigners) (.panic "too many signers")
  return ({ s with workflow := { s.workflow with
    issuancePolicy := s.workflow.issuancePolicy.set credentialType
      { signers := signers, threshold := threshold } } }, ())

/-- `request_issuance`: the requesting signer approves with the request. -/
def requestIssuance (credentialType : Nat) (metadataHash : Bytes) (expiresAt : Option Nat)
    (nonce : Nat) : Except Fault (State × Nat) := do
  requireAuth env issuer
  let s ← s.requireNotPaused env
  let policy ← expect (s.workflow.issuancePolicy credentialType) (.contract .issuancePolicyNotFound)
  require (issuer ∈ policy.signers) (.contract .notIssuanceSigner)
  let id ← checkedAdd (2 ^ 64) s.workflow.pendingIssuanceCount 1
  let request : PendingIssuanceRequest :=
    { id := id, issuer := issuer, subject := subject, credentialType := credentialType
      metadataHash := metadataHash, expiresAt := expiresAt, nonce := nonce, approvals := [issuer]
      executed := false }
  return ({ s with workflow := { s.workflow with
    pendingIssuance := s.workflow.pendingIssuance.set id request
    pendingIssuanceCount := id } }, id)

/-- `approve_issuance`: the approval that reaches the threshold issues the credential. -/
def approveIssuance (signer : Address) (requestId : Nat) : Except Fault (State × Option Nat) := do
  requireAuth env signer
  let s ← s.requireNotPaused env
  let request ← expect (s.workflow.pendingIssuance requestId) (.contract .invalidApprovalWorkflow)
  require (request.executed = false) (.panic "request already executed")
  let policy ← expect (s.workflow.issuancePolicy request.credentialType)
    (.contract .issuancePolicyNotFound)
  require (signer ∈ policy.signers) (.contract .notIssuanceSigner)
  require (signer ∉ request.approvals) (.contract .invalidApprovalWorkflow)
  let request := { request with
    approvals := request.approvals ++ [signer]
    executed := decide (policy.threshold ≤ request.approvals.length + 1) }
  let s := { s with workflow := { s.workflow with
    pendingIssuance := s.workflow.pendingIssuance.set requestId request } }
  if request.executed then
    let (s, id) ← s.issueInner request.issuer request.subject request.credentialType
      request.metadataHash request.expiresAt
    return (s, some id)
  else return (s, none)

end State

end QuorumProof
