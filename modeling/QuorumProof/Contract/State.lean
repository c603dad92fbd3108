import QuorumProof.Contract.Control
import Mathlib.Data.Finset.Insert

/-!
# Contract/State — the contract's storage

Instance storage, grouped by the part of the contract that owns it.  One `DataKey` variant of the
source is one field; a key that takes arguments is a `Store` over them, a key that is read with
`unwrap_or` is the value itself.
-/

namespace QuorumProof

/-! ## Storage by owner -/

/-- Credentials, their indices, and the issuance events published so far. -/
structure Registry where
  credentials : Store Nat Credential
  credentialCount : Nat
  subjectCredentials : Store Address (List Nat)
  subjectCredentialIndex : Store Address (List Nat)
  subjectIssuerType : Store (Address × Address × Nat) Nat
  revocationCache : Store Nat Bool
  issued : List CredentialIssued
  deriving Inhabited

/-- Pending requests and the policies around credentials. -/
structure Workflow where
  issuancePolicy : Store Nat IssuancePolicy
  pendingIssuance : Store Nat PendingIssuanceRequest
  pendingIssuanceCount : Nat
  consentRequest : Store Nat ConsentRequest
  consentRequestCount : Nat
  pendingConsent : Store (Address × Address × Nat) Nat
  blacklistEntry : Store (Address × Address) String
  didDocument : Store Bytes DidDocument
  didByAddress : Store Address Bytes
  transferRequest : Store Nat TransferRequest
  recoveryRequest : Store Nat RecoveryRequest
  recoveryRequestCount : Nat
  credentialRecovery : Store Nat Nat
  recoveryApprovals : Store Nat (List Address)
  revocationRequest : Store Nat HolderRevocationRequest
  issuerRevocationRequest : Store Nat IssuerRevocationRequest
  issuerRevocationAgents : Store Address (List Address)
  revocationRegistryRequest : Store Nat RevocationRequest
  revocationRegistryRequestCount : Nat
  credRevRegistryRequest : Store Nat Nat
  revocationAgent : Store (Address × Address) Bool
  revocationTimeLockSeconds : Option Nat
  batchAmendmentRequest : Store Nat BatchAmendmentRequest
  batchAmendmentCount : Nat
  gracePeriod : Store Nat Nat
  stateSnapshot : Store Nat StateSnapshot
  snapshotCount : Nat
  stateVersion : Option Nat
  disputeCount : Nat
  deriving Inhabited

/-- Slices and what is kept beside them: membership set, total weight and threshold kind. -/
structure SliceBook where
  slices : Store Nat QuorumSlice
  sliceCount : Nat
  sliceThresholdType : Store Nat ThresholdType
  attestorSet : Store Nat (Finset Address)
  sliceTotalWeight : Store Nat Nat
  maxAttestorsPerSlice : Option Nat
  attestorIndependenceEnabled : Bool
  sliceTemplate : Store Nat SliceTemplate
  sliceTemplateCounter : Nat
  sliceDelegation : Store (Nat × Address) SliceDelegation
  delegateOf : Store (Nat × Address) Address
  nestedSliceNode : Store Nat QuorumSliceNode
  deriving Inhabited

/-- Attestation records, the weights captured with them, and what else decides whether a credential
counts as attested. -/
structure AttestationBook where
  attestors : Store Nat (List AttestationRecord)
  attestationWeight : Store (Nat × Nat × Address) Nat
  credentialSlices : Store Nat (List Nat)
  credentialAttestationCount : Store Nat Nat
  attestorCount : Store Address Nat
  holderAttestationCount : Store Address Nat
  attestationExpiry : Store Nat Nat
  attestationWindow : Store Nat AttestationTimeWindow
  timeLock : Store Nat Nat
  attestationPolicy : Store Nat AttestationPolicy
  attestationRequest : Store Nat AttestationRequest
  attestationRequestCount : Nat
  multisigAttestationApproved : Store Nat Bool
  bbsCredentialFlag : Store Nat Unit
  bbsAccumulator : Option BbsRevocationAccumulator
  bbsAccumulatorMember : Store Nat Nat
  bbsNonRevocationProof : Store Nat BbsNonRevocationProofRecord
  attestationQueueEntry : Store Nat AttestationQueueEntry
  attestationQueueCount : Nat
  forkInfo : Store (Nat × Nat) ForkInfo
  deriving Inhabited

/-- Suspensions, slashes, reputation and challenges. -/
structure Discipline where
  suspendedAttestor : Store (Nat × Address) Bool
  slashCount : Store Address Nat
  attestorReputation : Store Address AttestorReputationRecord
  attestorReputationConfig : Option AttestorReputationConfig
  challenge : Store Nat Challenge
  challengeCount : Nat
  activeChallenge : Store (Nat × Address) Nat
  challengeExtended : Store Nat ChallengeExtended
  deriving Inhabited

/-- The cached answers of `is_attested`. -/
structure VerificationCache where
  attestVerifyCache : Store (Nat × Nat) AttestationVerificationCache
  verificationCacheTtl : Option Nat
  deriving Inhabited

/-- The contract's storage. -/
structure State where
  control : Control
  registry : Registry
  workflow : Workflow
  slices : SliceBook
  attestations : AttestationBook
  discipline : Discipline
  cache : VerificationCache
  deriving Inhabited

/-! ## Storage at deployment -/

namespace State

/-- The storage of a freshly deployed contract. -/
def empty : State := default

end State

/-! ## Guards on the whole storage

The control guards, at the state that carries them. -/

namespace State

def requireNotPaused (env : Env) (s : State) : Except Fault State := do
  return { s with control := ← s.control.requireNotPaused env }

def enforceWriteLimit (env : Env) (s : State) : Except Fault State := do
  return { s with control := ← s.control.enforceWriteLimit env }

def requireRateLimit (env : Env) (s : State) (address : Address) : Except Fault State := do
  return { s with control := ← s.control.requireRateLimit env address }

end State

/-! ## Input checks -/

open Guarded

/-- `validate_timestamp`: within ten years of now, either way. -/
def validateTimestamp (env : Env) (timestamp : Nat) : Except Fault Unit :=
  require (env.now - 315360000 ≤ timestamp ∧
    timestamp ≤ saturatingAdd u64Max env.now 315360000) (.contract .invalidTimestamp)

def validateOptionalTimestamp (env : Env) : Option Nat → Except Fault Unit
  | none => .ok ()
  | some timestamp => validateTimestamp env timestamp

def validateArrayBounds (len min max : Nat) (name : String) : Except Fault Unit := do
  require (min ≤ len)
    (.panic (name ++ " must have at least " ++ toString min ++ " element(s)"))
  require (len ≤ max)
    (.panic (name ++ " must have at most " ++ toString max ++ " element(s)"))

def maxBatchSize : Nat := 50

def maxMultisigSigners : Nat := 10

namespace State

/-- The credential stored under an id, or `CredentialNotFound`. -/
def getCredential (s : State) (id : Nat) : Except Fault Credential :=
  expect (s.registry.credentials id) (.contract .credentialNotFound)

/-- The slice stored under an id, or `SliceNotFound`. -/
def getSlice (s : State) (id : Nat) : Except Fault QuorumSlice :=
  expect (s.slices.slices id) (.contract .sliceNotFound)

@[simp] theorem getCredential_eq_ok {s : State} {id : Nat} {c : Credential} :
    s.getCredential id = .ok c ↔ s.registry.credentials id = some c := expect_eq_ok

@[simp] theorem getSlice_eq_ok {s : State} {id : Nat} {sl : QuorumSlice} :
    s.getSlice id = .ok sl ↔ s.slices.slices id = some sl := expect_eq_ok

/-! ## Postconditions of the guards

A guard on the whole storage changes the control record and nothing else. -/

/-- **The rules for the guards**, beside `ensures_steps`. -/
@[simp] theorem ensures_guards :
    (∀ {s : State} {id : Nat} {Q : Credential → Prop},
      Ensures (s.getCredential id) Q ↔ ∀ c, s.registry.credentials id = some c → Q c) ∧
    (∀ {s : State} {id : Nat} {Q : QuorumSlice → Prop},
      Ensures (s.getSlice id) Q ↔ ∀ slice, s.slices.slices id = some slice → Q slice) ∧
    (∀ {env : Env} {s : State} {Q : State → Prop}, Ensures (s.requireNotPaused env) Q ↔
      ∀ c, s.control.requireNotPaused env = .ok c → Q { s with control := c }) ∧
    (∀ {env : Env} {s : State} {Q : State → Prop}, Ensures (s.enforceWriteLimit env) Q ↔
      ∀ c, s.control.enforceWriteLimit env = .ok c → Q { s with control := c }) ∧
    (∀ {env : Env} {s : State} {a : Address} {Q : State → Prop},
      Ensures (s.requireRateLimit env a) Q ↔
        ∀ c, s.control.requireRateLimit env a = .ok c → Q { s with control := c }) ∧
    ∀ {bound a b : Nat} {Q : Nat → Prop},
      Ensures (checkedAdd bound a b) Q ↔ (a + b < bound → Q (a + b)) := by
  have hguard : ∀ {x : Except Fault Control} {s : State} {Q : State → Prop},
      Ensures (do let c ← x; return { s with control := c }) Q ↔
        ∀ c, x = .ok c → Q { s with control := c } := by
    intro x s Q
    simp only [ensures_bind, ensures_pure]
    exact ensures_iff
  exact ⟨ensures_expect, ensures_expect, hguard, hguard, hguard, ensures_checkedAdd⟩

end State

end QuorumProof
