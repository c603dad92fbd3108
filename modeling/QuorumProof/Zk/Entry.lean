import QuorumProof.Lib.Machine
import QuorumProof.Zk.Mpc
import QuorumProof.Zk.Verification

/-!
# Zk/Entry — calls of the verifier, and runs of calls

Every entry point of the verifier that writes storage is one `Op`, by the part of the storage it
writes; the ones that only read are the functions of the same name.  A call carries who authorized
it, and how much time and how many ledgers have passed since the previous one.
-/

namespace QuorumProof.Zk

open Guarded

variable {r : ℕ} [Fact r.Prime] {G₁ G₂ Gt : Type} [AddCommGroup G₁] [Module (ZMod r) G₁]
  [AddCommGroup G₂] [Module (ZMod r) G₂] [AddCommGroup Gt] [Module (ZMod r) Gt]

/-! ## Operations -/

/-- The administrator's settings. -/
inductive ControlOp
  | initializeContract (admin : Address)
  | updateAdmin (admin newAdmin : Address)
  | pause (admin : Address)
  | unpause (admin : Address)
  | setRegistrar (admin registrar : Address) (enabled : Bool)
  | setCircuitParameters (admin : Address) (maxConstraints : Nat) (fieldModulus : Bytes)
      (securityLevel : Nat)
  | setProtocolConfig (admin : Address) (config : ProtocolConfig)

/-- The key registry. -/
inductive KeyOp
  | setVerifyingKey (admin : Address) (vkHash : Bytes)
  | rotateVerifyingKey (admin : Address) (newVkHash : Bytes)
  | setSchnorrPublicKey (admin : Address) (publicKey : Bytes)
  | setPlonkSrs (admin : Address) (tauG2 : Bytes)
  | rotatePlonkSrs (admin : Address) (newTauG2 : Bytes)
  | setPlonkVerifyingKey (admin : Address) (vkHash : Bytes) (vk : Plonk.VerifyingKey)
  | rotatePlonkVerifyingKey (admin : Address) (newVkHash : Bytes) (newVk : Plonk.VerifyingKey)
  | setGroth16VerifyingKey (admin : Address) (vkHash : Bytes) (vk : Groth16VerifyingKey)
  | rotateGroth16VerifyingKey (admin : Address) (newVkHash : Bytes) (newVk : Groth16VerifyingKey)

/-- The cache of verification results. -/
inductive CacheOp
  | clearProofCache (admin : Address) (credentialId : UInt64) (claimType : ClaimType)
      (proof : Bytes)
  | clearCacheByCredential (admin : Address) (credentialId : UInt64)
  | setCacheTtlByType (admin : Address) (claimType : ClaimType) (ttl : Nat)
  | verifyProofCached (admin : Address) (credentialId : UInt64) (claimType : ClaimType)
      (proof : Bytes) (ttl : Nat)
  | verifyClaimWithCache (admin : Address) (credentialId : UInt64) (claimType : ClaimType)
      (proof : Bytes)

/-- What is recorded about credentials and their proofs. -/
inductive RecordOp
  | generateProofRequest (credentialId : UInt64) (claimType : ClaimType)
  | generateAnonymousProofRequest (credentialId : UInt64) (claimType : ClaimType)
      (holderCommitment : Bytes)
  | storeProofMetadata (caller : Address) (credentialId : UInt64) (claimType : ClaimType)
      (proofHash description : Bytes)
  | storeProofTimestamp (admin : Address) (credentialId : UInt64) (claimType : ClaimType)
  | submitTimeBoundProof (proof : Bytes)
  | registerConstraintSystem (admin : Address) (descriptorHash : Bytes)
  | revokeProof (admin : Address) (credentialId : UInt64) (reason : Bytes)
  | verifyConditionalDisclosure (credentialId : UInt64) (claimType : ClaimType)
      (schnorrProof : SchnorrProof) (rangeProof : Option BulletproofRangeProof)
      (rangeType : Option RangeProofType)

/-- The registry of proof hashes. -/
inductive RegistryOp
  | registerProofHash (caller : Address) (proofHash : Bytes)
  | revokeProofByHash (admin : Address) (proofHash reason : Bytes)

/-- Multi-party sessions. -/
inductive MpcOp
  | registerMpcVerifier (admin verifier : Address)
  | createMpcSession (admin : Address) (sessionId : Bytes) (threshold totalVerifiers : Nat)
  | submitMpcContribution (verifier : Address) (sessionId : Bytes) (approved : Bool)

/-- An entry point of the verifier, with its arguments. -/
inductive Op
  | control (op : ControlOp)
  | key (op : KeyOp)
  | cache (op : CacheOp)
  | record (op : RecordOp)
  | registry (op : RegistryOp)
  | mpc (op : MpcOp)

def ControlOp.apply (env : Env) (c : Control) : ControlOp → Except Fault Control
  | initializeContract admin => c.initializeContract env admin
  | updateAdmin admin newAdmin => c.updateAdmin env admin newAdmin
  | pause admin => c.pause env admin
  | unpause admin => c.unpause env admin
  | setRegistrar admin registrar enabled => c.setRegistrar env admin registrar enabled
  | setCircuitParameters admin maxConstraints fieldModulus securityLevel =>
    c.setCircuitParameters env admin maxConstraints fieldModulus securityLevel
  | setProtocolConfig admin config => c.setProtocolConfig env admin config

def CacheOp.apply (env : Env) (c : Control) (k : Keys) (h : Cache) : CacheOp → Except Fault Cache
  | clearProofCache admin credentialId claimType proof =>
    h.clearProofCache c env admin credentialId claimType proof
  | clearCacheByCredential admin credentialId => h.clearCacheByCredential c env admin credentialId
  | setCacheTtlByType admin claimType ttl => h.setCacheTtlByType c env admin claimType ttl
  | verifyProofCached admin credentialId claimType proof ttl =>
    Prod.fst <$> h.verifyProofCached c k env admin credentialId claimType proof ttl
  | verifyClaimWithCache admin credentialId claimType proof =>
    Prod.fst <$> h.verifyClaimWithCache c k env admin credentialId claimType proof

def RecordOp.apply (env : Env) (c : Control) (k : Keys) (d : Records) :
    RecordOp → Except Fault Records
  | generateProofRequest credentialId claimType =>
    Prod.fst <$> d.generateProofRequest credentialId claimType
  | generateAnonymousProofRequest credentialId claimType holderCommitment =>
    Prod.fst <$> d.generateAnonymousProofRequest credentialId claimType holderCommitment
  | storeProofMetadata caller credentialId claimType proofHash description =>
    d.storeProofMetadata c env caller credentialId claimType proofHash description
  | storeProofTimestamp admin credentialId claimType =>
    Prod.fst <$> d.storeProofTimestamp c env admin credentialId claimType
  | submitTimeBoundProof proof => Prod.fst <$> d.submitTimeBoundProof env proof
  | registerConstraintSystem admin descriptorHash =>
    Prod.fst <$> d.registerConstraintSystem c env admin descriptorHash
  | revokeProof admin credentialId reason => d.revokeProof c env admin credentialId reason
  | verifyConditionalDisclosure credentialId claimType schnorrProof rangeProof rangeType =>
    .ok (d.verifyConditionalDisclosure k env credentialId claimType schnorrProof rangeProof
      rangeType).1

def RegistryOp.apply (env : Env) (c : Control) (h : HashRegistry) :
    RegistryOp → Except Fault HashRegistry
  | registerProofHash caller proofHash => h.registerProofHash c env caller proofHash
  | revokeProofByHash admin proofHash reason => h.revokeProofByHash c env admin proofHash reason

def MpcOp.apply (env : Env) (c : Control) (m : Mpc) : MpcOp → Except Fault Mpc
  | registerMpcVerifier admin verifier => m.registerMpcVerifier c env admin verifier
  | createMpcSession admin sessionId threshold totalVerifiers =>
    Prod.fst <$> m.createMpcSession c env admin sessionId threshold totalVerifiers
  | submitMpcContribution verifier sessionId approved =>
    Prod.fst <$> m.submitMpcContribution env verifier sessionId approved

section Apply

variable (platform : Platform r G₁ G₂ Gt)

def KeyOp.apply (env : Env) (c : Control) (k : Keys) : KeyOp → Except Fault Keys
  | setVerifyingKey admin vkHash => k.setVerifyingKey c env admin vkHash
  | rotateVerifyingKey admin newVkHash => k.rotateVerifyingKey c env admin newVkHash
  | setSchnorrPublicKey admin publicKey => k.setSchnorrPublicKey c env admin publicKey
  | setPlonkSrs admin tauG2 => k.setPlonkSrs platform.suite c env admin tauG2
  | rotatePlonkSrs admin newTauG2 => k.rotatePlonkSrs platform.suite c env admin newTauG2
  | setPlonkVerifyingKey admin vkHash vk =>
    k.setPlonkVerifyingKey platform.suite c env admin vkHash vk
  | rotatePlonkVerifyingKey admin newVkHash newVk =>
    k.rotatePlonkVerifyingKey platform.suite c env admin newVkHash newVk
  | setGroth16VerifyingKey admin vkHash vk =>
    k.setGroth16VerifyingKey platform.suite c env admin vkHash vk
  | rotateGroth16VerifyingKey admin newVkHash newVk =>
    k.rotateGroth16VerifyingKey platform.suite c env admin newVkHash newVk

/-- Run an entry point: it writes one part of the storage. -/
def Op.apply (env : Env) (s : State) : Op → Except Fault State
  | control op => (fun c => { s with control := c }) <$> op.apply env s.control
  | key op => (fun k => { s with keys := k }) <$> op.apply platform env s.control s.keys
  | cache op => (fun h => { s with cache := h }) <$> op.apply env s.control s.keys s.cache
  | record op => (fun d => { s with records := d }) <$> op.apply env s.control s.keys s.records
  | registry op => (fun h => { s with registry := h }) <$> op.apply env s.control s.registry
  | mpc op => (fun m => { s with mpc := m }) <$> op.apply env s.control s.mpc

end Apply

/-! ## Runs -/

/-- A call of the verifier. -/
structure Call where
  elapsed : Nat
  ledgers : Nat
  auths : List Address
  op : Op

/-- The verifier on the ledger. -/
structure World where
  time : Nat
  sequence : Nat
  state : State

namespace World

/-- The world the verifier is deployed into. -/
def deployed : World := { time := 0, sequence := 0, state := .empty }

/-- What a call sees of the ledger, made after some time and by some signers. -/
def env (host : Host) (w : World) (elapsed ledgers : Nat) (auths : List Address) : Env :=
  { host with now := w.time + elapsed, sequence := w.sequence + ledgers, auths := auths }

variable (platform : Platform r G₁ G₂ Gt)

/-- What a call does to the storage, if it does not abort. -/
def perform (w : World) (call : Call) : Except Fault State :=
  call.op.apply platform (w.env platform.toHost call.elapsed call.ledgers call.auths) w.state

/-- Make a call: one that aborts leaves the storage. -/
def next (w : World) (call : Call) : World where
  time := w.time + call.elapsed
  sequence := w.sequence + call.ledgers
  state :=
    match w.perform platform call with
    | .ok s => s
    | .error _ => w.state

/-- The verifier after a run of calls from deployment. -/
def after (calls : List Call) : World := Machine.run (next platform) deployed calls

/-- A call runs to completion. -/
def Completes (w : World) (call : Call) : Prop := ∃ s, w.perform platform call = .ok s
  deriving Decidable

/-- **A call aborts and leaves the storage, or completes and is what its entry point does.** -/
theorem next_cases (w : World) (call : Call) :
    (¬ w.Completes platform call ∧ (w.next platform call).state = w.state) ∨
      w.Completes platform call ∧ w.perform platform call = .ok (w.next platform call).state := by
  cases hperform : w.perform platform call with
  | error fault =>
    refine .inl ⟨?_, by simp only [next, hperform]⟩
    rintro ⟨s, hs⟩
    rw [hperform] at hs
    contradiction
  | ok s => exact .inr ⟨⟨s, hperform⟩, by simp only [next, hperform]⟩

/-- **A flag of the storage that entry points can only raise** is up after a run exactly when a call
that raises it has completed. -/
theorem flag_after {P : State → Prop} {Q : Op → Prop} (hempty : ¬ P .empty)
    (hop : ∀ env s op, Ensures (op.apply platform env s) fun s' => P s' ↔ P s ∨ Q op)
    (calls : List Call) :
    P (after platform calls).state ↔ Machine.Occurs (next platform) (fun w call =>
      w.Completes platform call ∧ Q call.op) deployed calls := by
  refine (Machine.flag_iff_occurs (I := fun _ => True) (P := fun w : World => P w.state)
    (fun _ _ h => h) (fun w call _ => ?_) trivial calls).trans (or_iff_right hempty)
  rcases w.next_cases platform call with ⟨hnot, hstate⟩ | ⟨hcompletes, hperform⟩
  · rw [hstate, iff_self_or]
    exact fun h => absurd h.1 hnot
  · rw [and_iff_right hcompletes]
    exact hop _ _ _ _ hperform

end World

/-! ## Sample runs -/

namespace Sample

/-- A host without collisions: the identity for SHA-256, and zeros for XDR. -/
def host : Host := { sha256 := id, toXdr := fun a => List.replicate (a.key + 2) 0 }

def platform : Platform 17 (ZMod 17) (ZMod 17) (ZMod 17) :=
  { host with suite := Bls.Sample.suite, roots := Plonk.Sample.roots }

def admin : Address := ⟨0⟩

def alice : Address := ⟨1⟩

def bob : Address := ⟨2⟩

def carol : Address := ⟨3⟩

/-- A call at the time of the previous one. -/
def callBy (signer : Address) (op : Op) : Call :=
  { elapsed := 0, ledgers := 0, auths := [signer], op := op }

/-- The admin initializes the contract. -/
def initialized : Call := callBy admin (.control (.initializeContract admin))

/-- The key of a circuit with two public inputs. -/
def groth16Key : Groth16VerifyingKey where
  alphaG1 := Bls.encode 48 (Bls.Sample.element 7)
  betaG2 := Bls.encode 96 (Bls.Sample.element 11)
  gammaG2 := Bls.encode 96 (Bls.Sample.element 13)
  deltaG2 := Bls.encode 96 (Bls.Sample.element 4)
  ic := [Bls.encode 48 (Bls.Sample.element 2), Bls.encode 48 (Bls.Sample.element 3),
    Bls.encode 48 (Bls.Sample.element 5)]

def vkHash : Bytes := groth16VkHash host groth16Key

/-- The admin registers it. -/
def keyRegistered : Call := callBy admin (.key (.setGroth16VerifyingKey admin vkHash groth16Key))

end Sample

end QuorumProof.Zk
