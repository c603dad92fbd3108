import QuorumProof.Lib.Machine
import QuorumProof.Contract.Administration
import QuorumProof.Contract.Issuance
import QuorumProof.Contract.Decision

/-!
# Contract/Entry — entry points, calls and runs

An operation is an entry point with its arguments, grouped by the part of the storage the entry
point is about.  A call is made some time after the previous one, with some addresses' signatures;
it runs to completion or aborts, and an aborted call leaves the storage as it was.  A run is a list
of calls from deployment on.
-/

namespace QuorumProof

/-! ## Operations -/

/-- Issuing credentials, and the records issuance consults. -/
inductive IssuanceOp
  | issueCredential (issuer subject : Address) (credentialType : Nat) (metadataHash : Bytes)
      (expiresAt : Option Nat) (nonce : Nat)
  | issueDefault (issuer subject : Address) (credentialType : Nat) (expiresAt : Option Nat)
  | issueBbsCredential (issuer subject : Address) (credentialType : Nat) (metadataHash : Bytes)
      (attributes : List Bytes) (expiresAt : Option Nat) (nonce : Nat)
  | issueCredentialToDid (issuer : Address) (subjectDid : Bytes) (credentialType : Nat)
      (metadataHash : Bytes) (expiresAt : Option Nat) (nonce : Nat)
  | issueWithConsent (issuer : Address) (requestId nonce : Nat)
  | batchIssueCredentials (issuer : Address) (subjects : List Address)
      (credentialTypes : List Nat) (metadataHashes : List Bytes) (expiresAt : Option Nat)
  | issueBatch (issuer : Address) (inputs : List CredentialInput)
  | issueBatchByDid (issuer : Address) (subjectDids : List Bytes) (credentialTypes : List Nat)
      (metadataHashes : List Bytes) (expiresAt : Option Nat)
  | batchIssueCredentialsByDid (issuer : Address) (subjectDids : List Bytes)
      (credentialTypes : List Nat) (metadataHashes : List Bytes) (expiresAt : Option Nat)
  | registerDid (address : Address) (did : Bytes)
  | deactivateDid (address : Address)
  | requestCredential (issuer subject : Address) (credentialType : Nat) (metadataHash : Bytes)
  | approveCredentialRequest (subject : Address) (requestId : Nat)
  | addHolderToBlacklist (issuer holder : Address) (reason : String)
  | removeHolderFromBlacklist (issuer holder : Address)

/-- Run one of these entry points, dropping what it returns. -/
def IssuanceOp.apply (env : Env) (s : State) : IssuanceOp → Except Fault State
  | .issueCredential issuer subject credentialType metadataHash expiresAt nonce =>
    Prod.fst <$> s.issueCredential env issuer subject credentialType metadataHash expiresAt nonce
  | .issueDefault issuer subject credentialType expiresAt =>
    Prod.fst <$> s.issueDefault env issuer subject credentialType expiresAt
  | .issueBbsCredential issuer subject credentialType metadataHash attributes expiresAt nonce =>
    Prod.fst <$> s.issueBbsCredential env issuer subject credentialType metadataHash attributes
      expiresAt nonce
  | .issueCredentialToDid issuer subjectDid credentialType metadataHash expiresAt nonce =>
    Prod.fst <$> s.issueCredentialToDid env issuer subjectDid credentialType metadataHash
      expiresAt nonce
  | .issueWithConsent issuer requestId nonce =>
    Prod.fst <$> s.issueWithConsent env issuer requestId nonce
  | .batchIssueCredentials issuer subjects credentialTypes metadataHashes expiresAt =>
    Prod.fst <$> s.batchIssueCredentials env issuer subjects credentialTypes metadataHashes
      expiresAt
  | .issueBatch issuer inputs => Prod.fst <$> s.issueBatch env issuer inputs
  | .issueBatchByDid issuer subjectDids credentialTypes metadataHashes expiresAt =>
    Prod.fst <$> s.issueBatchByDid env issuer subjectDids credentialTypes metadataHashes expiresAt
  | .batchIssueCredentialsByDid issuer subjectDids credentialTypes metadataHashes expiresAt =>
    Prod.fst <$> s.batchIssueCredentialsByDid env issuer subjectDids credentialTypes
      metadataHashes expiresAt
  | .registerDid address did => Prod.fst <$> s.registerDid env address did
  | .deactivateDid address => Prod.fst <$> s.deactivateDid env address
  | .requestCredential issuer subject credentialType metadataHash =>
    Prod.fst <$> s.requestCredential env issuer subject credentialType metadataHash
  | .approveCredentialRequest subject requestId =>
    Prod.fst <$> s.approveCredentialRequest env subject requestId
  | .addHolderToBlacklist issuer holder reason =>
    Prod.fst <$> s.addHolderToBlacklist env issuer holder reason
  | .removeHolderFromBlacklist issuer holder =>
    Prod.fst <$> s.removeHolderFromBlacklist env issuer holder

/-- Multi-signature issuance. -/
inductive MultisigOp
  | createIssuanceMultisig (admin : Address) (credentialType : Nat) (signers : List Address)
      (threshold : Nat)
  | requestIssuance (issuer subject : Address) (credentialType : Nat) (metadataHash : Bytes)
      (expiresAt : Option Nat) (nonce : Nat)
  | approveIssuance (signer : Address) (requestId : Nat)

def MultisigOp.apply (env : Env) (s : State) : MultisigOp → Except Fault State
  | .createIssuanceMultisig admin credentialType signers threshold =>
    Prod.fst <$> s.createIssuanceMultisig env admin credentialType signers threshold
  | .requestIssuance issuer subject credentialType metadataHash expiresAt nonce =>
    Prod.fst <$> s.requestIssuance env issuer subject credentialType metadataHash expiresAt nonce
  | .approveIssuance signer requestId => Prod.fst <$> s.approveIssuance env signer requestId

/-- Revoking credentials, and the query for the answer, which writes a cache. -/
inductive RevocationOp
  | revokeCredential (issuer : Address) (id : Nat)
  | batchRevoke (issuer : Address) (ids : List Nat)
  | requestRevocation (holder : Address) (id : Nat)
  | approveRevocation (issuer : Address) (id : Nat)
  | denyRevocation (issuer : Address) (id : Nat)
  | scheduleRevocation (caller : Address) (id : Nat) (timelockSeconds : Option Nat)
  | finalizeScheduledRevocation (caller : Address) (id : Nat)
  | cancelScheduledRevocation (caller : Address) (id : Nat)
  | addRevocationAgent (issuer agent : Address)
  | removeRevocationAgent (issuer agent : Address)
  | createRevocationRegistryRequest (actor : Address) (id timeLockSeconds : Nat)
  | activateRevocationRequest (actor : Address) (requestId : Nat)
  | revokeConsent (holder : Address) (id : Nat)
  | isRevoked (id : Nat)

def RevocationOp.apply (env : Env) (s : State) : RevocationOp → Except Fault State
  | .revokeCredential issuer id => Prod.fst <$> s.revokeCredential env issuer id
  | .batchRevoke issuer ids => Prod.fst <$> s.batchRevoke env issuer ids
  | .requestRevocation holder id => Prod.fst <$> s.requestRevocation env holder id
  | .approveRevocation issuer id => Prod.fst <$> s.approveRevocation env issuer id
  | .denyRevocation issuer id => Prod.fst <$> s.denyRevocation env issuer id
  | .scheduleRevocation caller id timelockSeconds =>
    Prod.fst <$> s.scheduleRevocation env caller id timelockSeconds
  | .finalizeScheduledRevocation caller id =>
    Prod.fst <$> s.finalizeScheduledRevocation env caller id
  | .cancelScheduledRevocation caller id => Prod.fst <$> s.cancelScheduledRevocation env caller id
  | .addRevocationAgent issuer agent => Prod.fst <$> s.addRevocationAgent env issuer agent
  | .removeRevocationAgent issuer agent => Prod.fst <$> s.removeRevocationAgent env issuer agent
  | .createRevocationRegistryRequest actor id timeLockSeconds =>
    Prod.fst <$> s.createRevocationRegistryRequest env actor id timeLockSeconds
  | .activateRevocationRequest actor requestId =>
    Prod.fst <$> s.activateRevocationRequest env actor requestId
  | .revokeConsent holder id => Prod.fst <$> s.revokeConsent env holder id
  | .isRevoked id => Prod.fst <$> s.isRevoked id

/-- Changing a credential's record, moving it to another subject, and the workflow records. -/
inductive LifecycleOp
  | updateMetadata (issuer : Address) (id : Nat) (hash : Bytes)
  | amendCredential (issuer : Address) (id : Nat) (hash : Bytes)
  | batchAmendCredentials (issuer : Address) (ids : List Nat) (hashes : List Bytes)
  | executeBatchAmendment (issuer : Address) (batchId : Nat)
  | updateMetadataSchemaVersion (issuer : Address) (id version : Nat)
  | suspendCredential (issuer : Address) (id : Nat)
  | resumeCredential (issuer : Address) (id : Nat)
  | renewCredential (issuer : Address) (id newExpiresAt : Nat)
  | triggerAutoRenewal (issuer : Address) (id newExpiresAt : Nat)
  | renewCredentialWithGrace (issuer : Address) (id newExpiresAt : Nat)
  | setGracePeriod (admin : Address) (credentialType seconds : Nat)
  | setCredentialAutoRenew (subject : Address) (id : Nat) (autoRenew : Bool)
  | initiateTransfer (holder : Address) (id : Nat) (recipient : Address)
  | acceptTransfer (recipient : Address) (id : Nat)
  | rotateCredentialHolderKey (holder : Address) (id : Nat) (newHolder : Address)
  | initiateRecovery (issuer : Address) (id : Nat) (newSubject : Address)
      (approvers : List Address) (threshold : Nat)
  | approveRecovery (approver : Address) (recoveryId : Nat)
  | executeRecovery (issuer : Address) (recoveryId : Nat) (sbtCalls : Except Fault Unit)
  | cancelRecovery (issuer : Address) (recoveryId : Nat)
  | createStateSnapshot (admin : Address) (descriptionBytes : Nat)
  | migrateState (admin : Address) (fromVersion toVersion : Nat)
  | initiateDispute (initiator : Address) (sliceId : Nat) (accused : Address)

def LifecycleOp.apply (env : Env) (s : State) : LifecycleOp → Except Fault State
  | .updateMetadata issuer id hash => Prod.fst <$> s.updateMetadata env issuer id hash
  | .amendCredential issuer id hash => Prod.fst <$> s.amendCredential env issuer id hash
  | .batchAmendCredentials issuer ids hashes =>
    Prod.fst <$> s.batchAmendCredentials env issuer ids hashes
  | .executeBatchAmendment issuer batchId =>
    Prod.fst <$> s.executeBatchAmendment env issuer batchId
  | .updateMetadataSchemaVersion issuer id version =>
    Prod.fst <$> s.updateMetadataSchemaVersion env issuer id version
  | .suspendCredential issuer id => Prod.fst <$> s.suspendCredential env issuer id
  | .resumeCredential issuer id => Prod.fst <$> s.resumeCredential env issuer id
  | .renewCredential issuer id newExpiresAt =>
    Prod.fst <$> s.renewCredential env issuer id newExpiresAt
  | .triggerAutoRenewal issuer id newExpiresAt =>
    Prod.fst <$> s.triggerAutoRenewal env issuer id newExpiresAt
  | .renewCredentialWithGrace issuer id newExpiresAt =>
    Prod.fst <$> s.renewCredentialWithGrace env issuer id newExpiresAt
  | .setGracePeriod admin credentialType seconds =>
    Prod.fst <$> s.setGracePeriod env admin credentialType seconds
  | .setCredentialAutoRenew subject id autoRenew =>
    Prod.fst <$> s.setCredentialAutoRenew env subject id autoRenew
  | .initiateTransfer holder id recipient =>
    Prod.fst <$> s.initiateTransfer env holder id recipient
  | .acceptTransfer recipient id => Prod.fst <$> s.acceptTransfer env recipient id
  | .rotateCredentialHolderKey holder id newHolder =>
    Prod.fst <$> s.rotateCredentialHolderKey env holder id newHolder
  | .initiateRecovery issuer id newSubject approvers threshold =>
    Prod.fst <$> s.initiateRecovery env issuer id newSubject approvers threshold
  | .approveRecovery approver recoveryId => Prod.fst <$> s.approveRecovery env approver recoveryId
  | .executeRecovery issuer recoveryId sbtCalls =>
    Prod.fst <$> s.executeRecovery env issuer recoveryId sbtCalls
  | .cancelRecovery issuer recoveryId => Prod.fst <$> s.cancelRecovery env issuer recoveryId
  | .createStateSnapshot admin descriptionBytes =>
    Prod.fst <$> s.createStateSnapshot env admin descriptionBytes
  | .migrateState admin fromVersion toVersion =>
    Prod.fst <$> s.migrateState env admin fromVersion toVersion
  | .initiateDispute initiator sliceId accused =>
    Prod.fst <$> s.initiateDispute env initiator sliceId accused

/-- Creating and changing slices. -/
inductive SliceOp
  | createSlice (creator : Address) (attestors : List Address) (weights : List Nat)
      (threshold : Nat)
  | createSlicePercentage (creator : Address) (attestors : List Address) (weights : List Nat)
      (percentage : Nat)
  | createSliceFromTemplate (creator : Address) (templateId : Nat)
  | setReputationWeightingEnabled (creator : Address) (sliceId : Nat) (enabled : Bool)
  | removeAttestor (creator : Address) (sliceId : Nat) (attestor : Address)
  | addAttestor (creator : Address) (sliceId : Nat) (attestor : Address) (weight : Nat)
  | updateAttestorWeight (creator : Address) (sliceId : Nat) (attestor : Address)
      (newWeight : Nat)
  | updateSliceThreshold (creator : Address) (sliceId newThreshold : Nat)
  | updatePercentageThreshold (creator : Address) (sliceId percentage : Nat)
  | rebalanceSlice (creator : Address) (sliceId : Nat) (newWeights : List Nat)
      (newThreshold : Nat)
  | reweightSlice (creator : Address) (sliceId : Nat) (newWeights : List Nat)
  | replaceAttestor (owner : Address) (sliceId : Nat) (oldAttestor newAttestor : Address)
  | setMaxAttestorsPerSlice (admin : Address) (newMax : Nat)
  | enableAttestorIndependence (admin : Address)
  | disableAttestorIndependence (admin : Address)
  | delegateSliceVote (delegator : Address) (sliceId : Nat) (delegate : Address)
      (expiresAt : Option Nat)
  | revokeSliceDelegation (delegator : Address) (sliceId : Nat)
  | createSliceTemplate (creator : Address) (attestors : List Address) (weights : List Nat)
      (threshold : Nat)
  | updateTemplateDefaults (creator : Address) (templateId : Nat) (attestors : List Address)
      (weights : List Nat) (threshold : Nat)

def SliceOp.apply (env : Env) (s : State) : SliceOp → Except Fault State
  | .createSlice creator attestors weights threshold =>
    Prod.fst <$> s.createSlice env creator attestors weights threshold
  | .createSlicePercentage creator attestors weights percentage =>
    Prod.fst <$> s.createSlicePercentage env creator attestors weights percentage
  | .createSliceFromTemplate creator templateId =>
    Prod.fst <$> s.createSliceFromTemplate env creator templateId
  | .setReputationWeightingEnabled creator sliceId enabled =>
    Prod.fst <$> s.setReputationWeightingEnabled env creator sliceId enabled
  | .removeAttestor creator sliceId attestor =>
    Prod.fst <$> s.removeAttestor env creator sliceId attestor
  | .addAttestor creator sliceId attestor weight =>
    Prod.fst <$> s.addAttestor env creator sliceId attestor weight
  | .updateAttestorWeight creator sliceId attestor newWeight =>
    Prod.fst <$> s.updateAttestorWeight env creator sliceId attestor newWeight
  | .updateSliceThreshold creator sliceId newThreshold =>
    Prod.fst <$> s.updateSliceThreshold env creator sliceId newThreshold
  | .updatePercentageThreshold creator sliceId percentage =>
    Prod.fst <$> s.updatePercentageThreshold env creator sliceId percentage
  | .rebalanceSlice creator sliceId newWeights newThreshold =>
    Prod.fst <$> s.rebalanceSlice env creator sliceId newWeights newThreshold
  | .reweightSlice creator sliceId newWeights =>
    Prod.fst <$> s.reweightSlice env creator sliceId newWeights
  | .replaceAttestor owner sliceId oldAttestor newAttestor =>
    Prod.fst <$> s.replaceAttestor env owner sliceId oldAttestor newAttestor
  | .setMaxAttestorsPerSlice admin newMax =>
    Prod.fst <$> s.setMaxAttestorsPerSlice env admin newMax
  | .enableAttestorIndependence admin => Prod.fst <$> s.enableAttestorIndependence env admin
  | .disableAttestorIndependence admin => Prod.fst <$> s.disableAttestorIndependence env admin
  | .delegateSliceVote delegator sliceId delegate expiresAt =>
    Prod.fst <$> s.delegateSliceVote env delegator sliceId delegate expiresAt
  | .revokeSliceDelegation delegator sliceId =>
    Prod.fst <$> s.revokeSliceDelegation env delegator sliceId
  | .createSliceTemplate creator attestors weights threshold =>
    Prod.fst <$> s.createSliceTemplate env creator attestors weights threshold
  | .updateTemplateDefaults creator templateId attestors weights threshold =>
    Prod.fst <$> s.updateTemplateDefaults env creator templateId attestors weights threshold

/-- Attesting, and the limits and requests around it. -/
inductive AttestationOp
  | attest (attestor : Address) (id sliceId : Nat) (value : Bool) (expiresAt : Option Nat)
  | batchAttest (attestor : Address) (ids : List Nat) (sliceId : Nat) (value : Bool)
      (expiresAt : Option Nat)
  | renewAttestation (attestor : Address) (id newExpiresAt : Nat)
  | resolveFork (resolver : Address) (id sliceId : Nat)
  | setAttestationExpiry (issuer : Address) (id expiresAt : Nat)
  | setAttestationWindow (issuer : Address) (id start stop : Nat)
  | setAttestationTimeLock (issuer : Address) (id releaseAt reasonBytes : Nat)
  | clearAttestationTimeLock (issuer : Address) (id : Nat)
  | setAttestationPolicy (admin : Address) (credentialType threshold windowSeconds : Nat)
  | requestMultisigAttestation (initiator : Address) (id sliceId : Nat)
      (requiredSigners : List Address) (value : Bool)
  | signAttestationRequest (signer : Address) (requestId : Nat)
  | rollbackAttestationRequest (requestId : Nat)
  | checkAndRollbackAttestation (requestId : Nat)
  | addToAttestationQueue (attestor : Address) (id sliceId : Nat) (value : Bool)
      (priority : AttestationPriority) (expiresAt : Option Nat) (metadata : Option Bytes)
  | setAttestationPriority (caller : Address) (entryId : Nat) (priority : AttestationPriority)
  | removeFromAttestationQueue (caller : Address) (entryId : Nat)
  | processAttestationQueue (caller : Address) (maxEntries : Nat)
  | addToRevocationAccumulator (caller : Address) (id : Nat) (value : Bytes)
  | createNonRevocationProof (holder : Address) (id : Nat) (proofBytes : Bytes)

def AttestationOp.apply (env : Env) (s : State) : AttestationOp → Except Fault State
  | .attest attestor id sliceId value expiresAt =>
    Prod.fst <$> s.attest env attestor id sliceId value expiresAt
  | .batchAttest attestor ids sliceId value expiresAt =>
    Prod.fst <$> s.batchAttest env attestor ids sliceId value expiresAt
  | .renewAttestation attestor id newExpiresAt =>
    Prod.fst <$> s.renewAttestation env attestor id newExpiresAt
  | .resolveFork resolver id sliceId => Prod.fst <$> s.resolveFork env resolver id sliceId
  | .setAttestationExpiry issuer id expiresAt =>
    Prod.fst <$> s.setAttestationExpiry env issuer id expiresAt
  | .setAttestationWindow issuer id start stop =>
    Prod.fst <$> s.setAttestationWindow env issuer id start stop
  | .setAttestationTimeLock issuer id releaseAt reasonBytes =>
    Prod.fst <$> s.setAttestationTimeLock env issuer id releaseAt reasonBytes
  | .clearAttestationTimeLock issuer id => Prod.fst <$> s.clearAttestationTimeLock env issuer id
  | .setAttestationPolicy admin credentialType threshold windowSeconds =>
    Prod.fst <$> s.setAttestationPolicy env admin credentialType threshold windowSeconds
  | .requestMultisigAttestation initiator id sliceId requiredSigners value =>
    Prod.fst <$> s.requestMultisigAttestation env initiator id sliceId requiredSigners value
  | .signAttestationRequest signer requestId =>
    Prod.fst <$> s.signAttestationRequest env signer requestId
  | .rollbackAttestationRequest requestId =>
    Prod.fst <$> s.rollbackAttestationRequest env requestId
  | .checkAndRollbackAttestation requestId =>
    Prod.fst <$> s.checkAndRollbackAttestation env requestId
  | .addToAttestationQueue attestor id sliceId value priority expiresAt metadata =>
    Prod.fst <$> s.addToAttestationQueue env attestor id sliceId value priority expiresAt metadata
  | .setAttestationPriority caller entryId priority =>
    Prod.fst <$> s.setAttestationPriority env caller entryId priority
  | .removeFromAttestationQueue caller entryId =>
    Prod.fst <$> s.removeFromAttestationQueue env caller entryId
  | .processAttestationQueue caller maxEntries =>
    Prod.fst <$> s.processAttestationQueue env caller maxEntries
  | .addToRevocationAccumulator caller id value =>
    Prod.fst <$> s.addToRevocationAccumulator env caller id value
  | .createNonRevocationProof holder id proofBytes =>
    Prod.fst <$> s.createNonRevocationProof env holder id proofBytes

/-- Suspending, slashing, challenging, and reputation. -/
inductive DisciplineOp
  | suspendAttestor (creator : Address) (sliceId : Nat) (attestor : Address)
  | resumeAttestor (creator : Address) (sliceId : Nat) (attestor : Address)
  | slashAttestor (caller : Address) (sliceId : Nat) (attestor : Address)
  | setAttestorReputationConfig (admin : Address) (config : AttestorReputationConfig)
  | depositAttestorStake (attestor : Address) (amount : Nat)
  | withdrawAttestorStake (attestor : Address) (amount : Nat)
  | collectSlashedStake (admin attestor : Address)
  | challengeAttestation (challenger : Address) (id sliceId : Nat) (accused : Address)
  | voteOnChallenge (voter : Address) (challengeId : Nat) (uphold : Bool)
  | submitChallengeEvidence (submitter : Address) (challengeId : Nat) (evidenceHash : Bytes)
      (supportsUphold : Bool)
  | advanceChallengeRound (caller : Address) (challengeId : Nat)

def DisciplineOp.apply (env : Env) (s : State) : DisciplineOp → Except Fault State
  | .suspendAttestor creator sliceId attestor =>
    Prod.fst <$> s.suspendAttestor env creator sliceId attestor
  | .resumeAttestor creator sliceId attestor =>
    Prod.fst <$> s.resumeAttestor env creator sliceId attestor
  | .slashAttestor caller sliceId attestor =>
    Prod.fst <$> s.slashAttestor env caller sliceId attestor
  | .setAttestorReputationConfig admin config =>
    Prod.fst <$> s.setAttestorReputationConfig env admin config
  | .depositAttestorStake attestor amount =>
    Prod.fst <$> s.depositAttestorStake env attestor amount
  | .withdrawAttestorStake attestor amount =>
    Prod.fst <$> s.withdrawAttestorStake env attestor amount
  | .collectSlashedStake admin attestor => Prod.fst <$> s.collectSlashedStake env admin attestor
  | .challengeAttestation challenger id sliceId accused =>
    Prod.fst <$> s.challengeAttestation env challenger id sliceId accused
  | .voteOnChallenge voter challengeId uphold =>
    Prod.fst <$> s.voteOnChallenge env voter challengeId uphold
  | .submitChallengeEvidence submitter challengeId evidenceHash supportsUphold =>
    Prod.fst <$> s.submitChallengeEvidence env submitter challengeId evidenceHash supportsUphold
  | .advanceChallengeRound caller challengeId =>
    Prod.fst <$> s.advanceChallengeRound env caller challengeId

/-- Queries for the attestation decision, which write its cache, and the cache's time to live. -/
inductive QueryOp
  | isAttested (id sliceId : Nat)
  | verifyCredential (verifier : Address) (id sliceId : Nat)
  | batchVerifyProofs (ids sliceIds proofExpiresAt : List Nat)
  | warmVerificationCache (pairs : List (Nat × Nat))
  | setVerificationCacheTtl (admin : Address) (ttl : Nat)

def QueryOp.apply (env : Env) (s : State) : QueryOp → Except Fault State
  | .isAttested id sliceId => Prod.fst <$> s.isAttested env id sliceId
  | .verifyCredential verifier id sliceId =>
    Prod.fst <$> s.verifyCredential env verifier id sliceId
  | .batchVerifyProofs ids sliceIds proofExpiresAt =>
    Prod.fst <$> s.batchVerifyProofs env ids sliceIds proofExpiresAt
  | .warmVerificationCache pairs => Prod.fst <$> s.warmVerificationCache env pairs
  | .setVerificationCacheTtl admin ttl => Prod.fst <$> s.setVerificationCacheTtl env admin ttl

/-- An operation. -/
inductive Op
  | control (op : ControlOp)
  | issuance (op : IssuanceOp)
  | multisig (op : MultisigOp)
  | revocation (op : RevocationOp)
  | lifecycle (op : LifecycleOp)
  | slice (op : SliceOp)
  | attestation (op : AttestationOp)
  | discipline (op : DisciplineOp)
  | query (op : QueryOp)
  | restoreFromSnapshot (admin : Address) (snapshotId : Nat)

/-- Run an operation on the storage. -/
def Op.apply (env : Env) (s : State) : Op → Except Fault State
  | .control op => (fun c => { s with control := c }) <$> op.apply env s.control
  | .issuance op => op.apply env s
  | .multisig op => op.apply env s
  | .revocation op => op.apply env s
  | .lifecycle op => op.apply env s
  | .slice op => op.apply env s
  | .attestation op => op.apply env s
  | .discipline op => op.apply env s
  | .query op => op.apply env s
  | .restoreFromSnapshot admin snapshotId =>
    Prod.fst <$> s.restoreFromSnapshot env admin snapshotId

/-! ## Calls and runs -/

/-- A call: how long after the previous one it is made, who signed it, and what it does. -/
structure Call where
  elapsed : Nat
  auths : List Address
  op : Op

/-- The ledger time and the contract's storage. -/
structure World where
  time : Nat
  state : State

namespace World

/-- The world a contract is deployed into. -/
def deployed : World := { time := 0, state := .empty }

/-- What a call sees of the ledger. -/
def env (host : Host) (w : World) (call : Call) : Env :=
  { host with now := w.time + call.elapsed, auths := call.auths }

/-- Make a call. -/
def next (host : Host) (w : World) (call : Call) : World where
  time := w.time + call.elapsed
  state :=
    match call.op.apply (w.env host call) w.state with
    | .ok s => s
    | .error _ => w.state

/-- The storage after a run of calls from deployment. -/
def after (host : Host) (calls : List Call) : World := Machine.run (next host) deployed calls

theorem after_append (host : Host) (pre : List Call) (call : Call) :
    after host (pre ++ [call]) = (after host pre).next host call := by
  rw [after, Machine.run_append]
  rfl

/-- An operation meets `C` in the storage it is called on. -/
def Meets (C : State → Op → Prop) (w : World) (call : Call) : Prop := C w.state call.op

instance (C : State → Op → Prop) [∀ s op, Decidable (C s op)] (w : World) (call : Call) :
    Decidable (Meets C w call) :=
  inferInstanceAs (Decidable (C w.state call.op))

variable {host : Host} {w : World} {call : Call}

theorem next_state_of_ok {s : State} (h : call.op.apply (w.env host call) w.state = .ok s) :
    (w.next host call).state = s := by
  simp only [next, h]

theorem next_state_of_error {fault : Fault}
    (h : call.op.apply (w.env host call) w.state = .error fault) :
    (w.next host call).state = w.state := by
  simp only [next, h]

/-- A call runs to completion. -/
def Completes (host : Host) (w : World) (call : Call) : Prop :=
  ∃ s, call.op.apply (w.env host call) w.state = .ok s
  deriving Decidable

/-- A call that aborts leaves the storage. -/
theorem next_state_of_not_completes (h : ¬ w.Completes host call) :
    (w.next host call).state = w.state := by
  cases hcall : call.op.apply (w.env host call) w.state with
  | ok s => exact absurd ⟨s, hcall⟩ h
  | error fault => exact next_state_of_error hcall

/-- **A call either aborts and leaves the storage, or is what its operation ensures.** -/
theorem next_of_ensures {Q : State → Prop}
    (h : Guarded.Ensures (call.op.apply (w.env host call) w.state) Q) (hstay : Q w.state) :
    Q (w.next host call).state := by
  cases hcall : call.op.apply (w.env host call) w.state with
  | ok s =>
    rw [next_state_of_ok hcall]
    exact h s hcall
  | error fault =>
    rw [next_state_of_error hcall]
    exact hstay

end World

/-! ## Sample runs

A host, a few addresses and a way to write a call down, for the concrete runs that show a result
applies, or that an unguarded version of it fails. -/

namespace Sample

/-- A host; proof of work is off by default, so nothing in a sample run hashes. -/
def host : Host := { self := ⟨99⟩, sha256 := fun _ => [] }

def admin : Address := ⟨0⟩

def issuer : Address := ⟨1⟩

def alice : Address := ⟨2⟩

def bob : Address := ⟨3⟩

/-- A call signed by one address, at the time of the previous one. -/
def call (signer : Address) (op : Op) : Call := { elapsed := 0, auths := [signer], op := op }

/-- The admin initializes the contract. -/
def initialized : Call := call admin (.control (.initializeContract admin))

/-- The issuer issues a credential of a type to a subject. -/
def issue (subject : Address) (credentialType : Nat) : Call :=
  call issuer (.issuance (.issueCredential issuer subject credentialType [1] none 0))

/-- The admin sets the issuance policy of a type. -/
def policy (credentialType : Nat) (signers : List Address) (threshold : Nat) : Call :=
  call admin (.multisig (.createIssuanceMultisig admin credentialType signers threshold))

/-- The issuer revokes a credential. -/
def revoke (id : Nat) : Call := call issuer (.revocation (.revokeCredential issuer id))

/-- A holder withdraws consent from a credential. -/
def revokeConsent (holder : Address) (id : Nat) : Call :=
  call holder (.revocation (.revokeConsent holder id))

/-- A holder moves a credential to another key. -/
def rotate (holder : Address) (id : Nat) (newHolder : Address) : Call :=
  call holder (.lifecycle (.rotateCredentialHolderKey holder id newHolder))

/-- Somebody asks whether a credential is revoked. -/
def isRevoked (id : Nat) : Call := call bob (.revocation (.isRevoked id))

/-- The admin takes a snapshot of the counters. -/
def snapshot : Call := call admin (.lifecycle (.createStateSnapshot admin 0))

/-- The admin restores a snapshot. -/
def restore (snapshotId : Nat) : Call := call admin (.restoreFromSnapshot admin snapshotId)

/-- The admin creates a slice. -/
def createSlice (attestors : List Address) (weights : List Nat) (threshold : Nat) : Call :=
  call admin (.slice (.createSlice admin attestors weights threshold))

/-- An attestor attests a credential through a slice. -/
def attest (attestor : Address) (id sliceId : Nat) : Call :=
  call attestor (.attestation (.attest attestor id sliceId true none))

/-- Somebody asks whether a credential is attested through a slice. -/
def isAttested (id sliceId : Nat) : Call := call bob (.query (.isAttested id sliceId))

end Sample

end QuorumProof
