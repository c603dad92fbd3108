import QuorumProof.Lib.Machine
import QuorumProof.Sbt.Annex
import QuorumProof.Sbt.Holder
import QuorumProof.Sbt.Recovery

/-!
# Sbt/Entry — calls of the registry, and runs of calls

Every entry point of the registry that writes storage is one `Op`; the ones that only read are the
functions of the same name.  A call carries who authorized it, how much time and how many ledgers
have passed since the previous one, and what `quorum_proof` answers while it runs: the results that
do not depend on the answers hold for all of them.
-/

namespace QuorumProof.Sbt

open Guarded

/-! ## Operations -/

/-- The entry points that write the administrator's storage only. -/
inductive ControlOp
  | initializeContract (admin quorumProofId : Address)
  | updateAdmin (admin newAdmin : Address)
  | setCredentialCacheTtl (admin : Address) (ttlLedgers : Nat)
  | updateQuorumProofId (admin newAddress : Address)
  | pause (admin : Address)
  | unpause (admin : Address)
  | addHolderToBlacklist (admin holder : Address)
  | removeHolderFromBlacklist (admin holder : Address)
  | setReputationConfig (admin : Address) (tokenWeight activityWeight : Nat)

/-- The entry points that mint, burn and move tokens, recovery apart. -/
inductive TokenOp
  | mint (owner : Address) (credentialId : Nat) (metadataUri : Bytes)
  | batchMint (entries : List BatchMintEntry)
  | burn (owner : Address) (tokenId : Nat)
  | burnSbt (holder : Address) (sbtId : Nat) (proofOfResidency : Bytes)
  | batchBurn (entries : List BatchBurnEntry)
  | recoverSbt (caller : Address) (tokenId : Nat) (newOwner : Address)
  | adminTransferSbt (admin : Address) (tokenId : Nat) (newOwner : Address)
  | transferOwnershipDual (tokenId : Nat) (newOwner : Address)
  | batchTransfer (admin : Address) (entries : List BatchTransferEntry)
  | transferSbtViaAttestor (attestor : Address) (sbtId : Nat) (proof : Bytes)

/-- Recovery by guardians. -/
inductive RecoveryOp
  | setupRecoveryGuardians (admin : Address) (guardians : List Address) (threshold : Nat)
  | initiateRecovery (initiator newOwner : Address)
  | approveRecovery (guardian : Address) (requestId : Nat)
  | finalizeRecovery (initiator : Address) (requestId : Nat)

/-- What a holder does with a token. -/
inductive HolderOp
  | delegateSbtRights (owner : Address) (tokenId : Nat) (delegatee : Address) (expiresAt : Nat)
  | revokeSbtDelegation (owner : Address) (tokenId : Nat)
  | delegateSbtUsage (sbtId : Nat) (delegatee : Address) (scope : UsageScope)
  | delegateSbtTransfer (caller : Address) (sbtId : Nat) (attestor newHolder : Address)
      (transferReason : Bytes)
  | proposeCoOwner (owner : Address) (tokenId : Nat) (candidate : Address)
  | acceptCoOwner (candidate : Address) (tokenId : Nat)
  | setCoOwner (owner : Address) (tokenId : Nat) (coOwner : Address)
  | removeCoOwner (owner coOwner : Address) (tokenId : Nat)
  | updateMetadata (owner : Address) (tokenId : Nat) (newMetadataUri : Bytes)
  | setSbtMetadataUri (issuer : Address) (sbtId : Nat) (metadataUri : Bytes)
  | upgradeSbt (issuer : Address) (oldSbtId newSbtId : Nat)

/-- What is written beside the tokens. -/
inductive AnnexOp
  | trackCredentialAccess (credentialId : Nat) (accessor : Address)
  | recordRevocationReason (admin : Address) (sbtId : Nat) (reason : Bytes)
  | appealSbtRevocation (holder : Address) (sbtId : Nat) (appealEvidence : Bytes)
  | initiateSbtClawback (issuer : Address) (sbtId : Nat) (reason : Bytes) (timelockSeconds : Nat)
  | cancelSbtClawback (issuer : Address) (clawbackId : Nat)
  | generateSbtPossessionProof (holder : Address) (sbtId : Nat)
  | updateSbtMetadataCommitment (owner : Address) (sbtId : Nat) (newMetadataHash signature : Bytes)
  | createSbtPossessionCommitment (holder : Address) (sbtId : Nat)
  | addSbtAttribute (issuer : Address) (sbtId : Nat) (key value : Bytes) (isPrivate : Bool)
  | removeSbtAttribute (issuer : Address) (sbtId : Nat) (key : Bytes)
  | registerSbtInMarketplace (owner : Address) (sbtId : Nat) (marketplaceId metadata : Bytes)
  | deregisterSbtFromMarketplace (owner : Address) (sbtId : Nat) (marketplaceId : Bytes)

/-- An entry point of the registry, with its arguments. -/
inductive Op
  | control (op : ControlOp)
  | token (op : TokenOp)
  | recovery (op : RecoveryOp)
  | holder (op : HolderOp)
  | annex (op : AnnexOp)
  /-- `transfer` is always rejected. -/
  | transfer (source target : Address) (tokenId : Nat)

def ControlOp.apply (env : Env) (c : Control) : ControlOp → Except Fault Control
  | initializeContract admin quorumProofId => c.initializeContract env admin quorumProofId
  | updateAdmin admin newAdmin => c.updateAdmin env admin newAdmin
  | setCredentialCacheTtl admin ttlLedgers => c.setCredentialCacheTtl env admin ttlLedgers
  | updateQuorumProofId admin newAddress => c.updateQuorumProofId env admin newAddress
  | pause admin => c.pause env admin
  | unpause admin => c.unpause env admin
  | addHolderToBlacklist admin holder => c.addHolderToBlacklist env admin holder
  | removeHolderFromBlacklist admin holder => c.removeHolderFromBlacklist env admin holder
  | setReputationConfig admin tokenWeight activityWeight =>
    c.setReputationConfig env admin tokenWeight activityWeight

def TokenOp.apply (env : Env) (s : State) : TokenOp → Except Fault State
  | mint owner credentialId metadataUri =>
    Prod.fst <$> s.mint env owner credentialId metadataUri
  | batchMint entries => Prod.fst <$> s.batchMint env entries
  | burn owner tokenId => Prod.fst <$> s.burn env owner tokenId
  | burnSbt holder sbtId proofOfResidency => s.burnSbt env holder sbtId proofOfResidency
  | batchBurn entries => Prod.fst <$> s.batchBurn env entries
  | recoverSbt caller tokenId newOwner => s.recoverSbt env caller tokenId newOwner
  | adminTransferSbt admin tokenId newOwner => s.adminTransferSbt env admin tokenId newOwner
  | transferOwnershipDual tokenId newOwner => s.transferOwnershipDual env tokenId newOwner
  | batchTransfer admin entries => Prod.fst <$> s.batchTransfer env admin entries
  | transferSbtViaAttestor attestor sbtId proof =>
    s.transferSbtViaAttestor env attestor sbtId proof

def RecoveryOp.apply (env : Env) (s : State) : RecoveryOp → Except Fault State
  | setupRecoveryGuardians admin guardians threshold =>
    s.setupRecoveryGuardians env admin guardians threshold
  | initiateRecovery initiator newOwner => Prod.fst <$> s.initiateRecovery env initiator newOwner
  | approveRecovery guardian requestId => s.approveRecovery env guardian requestId
  | finalizeRecovery initiator requestId => s.finalizeRecovery env initiator requestId

def HolderOp.apply (env : Env) (s : State) : HolderOp → Except Fault State
  | delegateSbtRights owner tokenId delegatee expiresAt =>
    s.delegateSbtRights env owner tokenId delegatee expiresAt
  | revokeSbtDelegation owner tokenId => s.revokeSbtDelegation env owner tokenId
  | delegateSbtUsage sbtId delegatee scope => s.delegateSbtUsage env sbtId delegatee scope
  | delegateSbtTransfer caller sbtId attestor newHolder transferReason =>
    s.delegateSbtTransfer env caller sbtId attestor newHolder transferReason
  | proposeCoOwner owner tokenId candidate => s.proposeCoOwner env owner tokenId candidate
  | acceptCoOwner candidate tokenId => s.acceptCoOwner env candidate tokenId
  | setCoOwner owner tokenId coOwner => s.setCoOwner env owner tokenId coOwner
  | removeCoOwner owner coOwner tokenId => s.removeCoOwner env owner coOwner tokenId
  | updateMetadata owner tokenId newMetadataUri =>
    s.updateMetadata env owner tokenId newMetadataUri
  | setSbtMetadataUri issuer sbtId metadataUri => s.setSbtMetadataUri env issuer sbtId metadataUri
  | upgradeSbt issuer oldSbtId newSbtId => s.upgradeSbt env issuer oldSbtId newSbtId

def AnnexOp.apply (env : Env) (s : State) : AnnexOp → Except Fault State
  | trackCredentialAccess credentialId accessor =>
    s.trackCredentialAccess env credentialId accessor
  | recordRevocationReason admin sbtId reason => s.recordRevocationReason env admin sbtId reason
  | appealSbtRevocation holder sbtId appealEvidence =>
    Prod.fst <$> s.appealSbtRevocation env holder sbtId appealEvidence
  | initiateSbtClawback issuer sbtId reason timelockSeconds =>
    Prod.fst <$> s.initiateSbtClawback env issuer sbtId reason timelockSeconds
  | cancelSbtClawback issuer clawbackId => s.cancelSbtClawback env issuer clawbackId
  | generateSbtPossessionProof holder sbtId =>
    Prod.fst <$> s.generateSbtPossessionProof env holder sbtId
  | updateSbtMetadataCommitment owner sbtId newMetadataHash signature =>
    s.updateSbtMetadataCommitment env owner sbtId newMetadataHash signature
  | createSbtPossessionCommitment holder sbtId =>
    Prod.fst <$> s.createSbtPossessionCommitment env holder sbtId
  | addSbtAttribute issuer sbtId key value isPrivate =>
    s.addSbtAttribute env issuer sbtId key value isPrivate
  | removeSbtAttribute issuer sbtId key => s.removeSbtAttribute env issuer sbtId key
  | registerSbtInMarketplace owner sbtId marketplaceId metadata =>
    s.registerSbtInMarketplace env owner sbtId marketplaceId metadata
  | deregisterSbtFromMarketplace owner sbtId marketplaceId =>
    s.deregisterSbtFromMarketplace env owner sbtId marketplaceId

/-- Run an entry point. -/
def Op.apply (env : Env) (s : State) : Op → Except Fault State
  | control op => (fun c => { s with control := c }) <$> op.apply env s.control
  | token op => op.apply env s
  | recovery op => op.apply env s
  | holder op => op.apply env s
  | annex op => op.apply env s
  | transfer .. => .error (.contract .soulboundNonTransferable)

/-! ## Runs -/

/-- A call of the registry. -/
structure Call where
  elapsed : Nat
  ledgers : Nat
  auths : List Address
  isRevoked : Address → Nat → Option Bool
  op : Op

/-- The registry on the ledger. -/
structure World where
  time : Nat
  sequence : Nat
  state : State

namespace World

variable {host : Host} {w : World} {call : Call}

/-- The world the registry is deployed into. -/
def deployed : World := { time := 0, sequence := 0, state := .empty }

/-- What a call sees of the ledger. -/
def env (host : Host) (w : World) (call : Call) : Env :=
  { host with
    now := w.time + call.elapsed
    sequence := w.sequence + call.ledgers
    auths := call.auths
    isRevoked := call.isRevoked }

/-- Make a call: one that aborts leaves the storage. -/
def next (host : Host) (w : World) (call : Call) : World where
  time := w.time + call.elapsed
  sequence := w.sequence + call.ledgers
  state :=
    match call.op.apply (w.env host call) w.state with
    | .ok s => s
    | .error _ => w.state

/-- The registry after a run of calls from deployment. -/
def after (host : Host) (calls : List Call) : World := Machine.run (next host) deployed calls

/-- A call runs to completion. -/
def Completes (host : Host) (w : World) (call : Call) : Prop :=
  ∃ s, call.op.apply (w.env host call) w.state = .ok s
  deriving Decidable

theorem next_state_of_ok {s : State} (h : call.op.apply (w.env host call) w.state = .ok s) :
    (w.next host call).state = s := by
  simp only [next, h]

theorem next_state_of_error {fault : Fault}
    (h : call.op.apply (w.env host call) w.state = .error fault) :
    (w.next host call).state = w.state := by
  simp only [next, h]

/-- **A call either aborts and leaves the storage, or is what its operation ensures.** -/
theorem next_of_ensures {Q : State → Prop}
    (h : Ensures (call.op.apply (w.env host call) w.state) Q) (hstay : Q w.state) :
    Q (w.next host call).state := by
  cases hcall : call.op.apply (w.env host call) w.state with
  | ok s =>
    rw [next_state_of_ok hcall]
    exact h s hcall
  | error fault =>
    rw [next_state_of_error hcall]
    exact hstay

end World

/-! ## Sample runs -/

namespace Sample

/-- A host that hashes to nothing. -/
def host : Host := { sha256 := fun _ => [], toXdr := fun _ => [] }

def admin : Address := ⟨0⟩

def quorumProof : Address := ⟨1⟩

def alice : Address := ⟨2⟩

def bob : Address := ⟨3⟩

def carol : Address := ⟨4⟩

/-- A call at the time of the previous one, while no credential is revoked. -/
def callBy (signers : List Address) (op : Op) : Call :=
  { elapsed := 0, ledgers := 0, auths := signers, isRevoked := fun _ _ => some false, op := op }

/-- The admin initializes the registry. -/
def initialized : Call := callBy [admin] (.control (.initializeContract admin quorumProof))

/-- A holder mints a token for a credential, with the URI `ipfs://`. -/
def mint (holder : Address) (credentialId : Nat) : Call :=
  callBy [holder] (.token (.mint holder credentialId [105, 112, 102, 115, 58, 47, 47]))

/-- The admin moves a token. -/
def adminTransfer (tokenId : Nat) (newOwner : Address) : Call :=
  callBy [admin] (.token (.adminTransferSbt admin tokenId newOwner))

end Sample

end QuorumProof.Sbt
