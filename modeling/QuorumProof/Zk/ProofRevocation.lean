import QuorumProof.Zk.Entry

/-!
# Zk/ProofRevocation — what a revocation does, and what it does not

`revoke_proof` flags a credential and `revoke_proof_by_hash` a proof hash.  A flag is raised by
these calls alone and never lowered, so it says that the revocation has happened.  No verification
entry point reads either flag: a call that names what is revoked is refused only if it would have
been refused anyway.
-/

namespace QuorumProof.Zk

open Guarded Machine

variable {r : ℕ} [Fact r.Prime] {G₁ G₂ Gt : Type} [AddCommGroup G₁] [Module (ZMod r) G₁]
  [AddCommGroup G₂] [Module (ZMod r) G₂] [AddCommGroup Gt] [Module (ZMod r) Gt]

/-! ## The flags -/

/-- The credential an entry point revokes. -/
def Op.revokes : Op → Option UInt64
  | .record (.revokeProof _ credentialId _) => some credentialId
  | _ => none

/-- The proof hash an entry point revokes. -/
def Op.revokesHash : Op → Option Bytes
  | .registry (.revokeProofByHash _ proofHash _) => some proofHash
  | _ => none

/-- Only `revoke_proof` writes the credentials' revocations. -/
theorem RecordOp.ensures_revocation (env : Env) (c : Control) (k : Keys) (d : Records)
    (op : RecordOp) :
    Ensures (op.apply env c k d) fun d' => ∀ credentialId, d'.isProofRevoked credentialId = true ↔
      d.isProofRevoked credentialId = true ∨ (Op.record op).revokes = some credentialId := by
  cases op with
  | revokeProof admin credentialId reason =>
    simp only [apply, Records.revokeProof, ensures_steps]
    intro _ credentialId'
    rcases eq_or_ne credentialId' credentialId with rfl | hne
    · simp [Records.isProofRevoked, Op.revokes]
    · simp [Records.isProofRevoked, Op.revokes, Store.set_apply, hne, hne.symm]
  | verifyConditionalDisclosure credentialId claimType schnorrProof rangeProof rangeType =>
    simp only [apply, Records.verifyConditionalDisclosure, Records.verifyClaimWithSchnorrProof]
    split <;> split <;> simp [Op.revokes, Records.isProofRevoked]
  | storeProofTimestamp admin credentialId claimType =>
    simp only [apply, Records.storeProofTimestamp, ensures_steps]
    intro _
    split <;> simp [Op.revokes, Records.isProofRevoked]
  | submitTimeBoundProof proof =>
    simp only [apply, Records.submitTimeBoundProof, ensures_steps]
    intro _
    split <;> simp [Op.revokes, Records.isProofRevoked]
  | _ =>
    simp [apply, Op.revokes, Records.isProofRevoked, Records.generateProofRequest,
      Records.generateAnonymousProofRequest, Records.nextProofNonce, Records.storeProofMetadata,
      Records.registerConstraintSystem]

/-- Only `revoke_proof_by_hash` raises the flag of a hash; registering one leaves it down. -/
theorem RegistryOp.ensures_revocation (env : Env) (c : Control) (h : HashRegistry)
    (op : RegistryOp) :
    Ensures (op.apply env c h) fun h' => ∀ hash, h'.checkProofRevocation hash = true ↔
      h.checkProofRevocation hash = true ∨ (Op.registry op).revokesHash = some hash := by
  cases op with
  | registerProofHash caller proofHash =>
    simp only [apply, HashRegistry.registerProofHash, ensures_steps, ensures_checkedAdd,
      require_eq_ok]
    intro _ hnone _ hash
    rcases eq_or_ne hash proofHash with rfl | hne
    · simp [HashRegistry.checkProofRevocation, Op.revokesHash, hnone]
    · simp [HashRegistry.checkProofRevocation, Op.revokesHash, Store.set_apply, hne]
  | revokeProofByHash admin proofHash reason =>
    simp only [apply, HashRegistry.revokeProofByHash, ensures_steps, require_eq_ok]
    intro _ _ _ _ hash
    rcases eq_or_ne hash proofHash with rfl | hne
    · simp [HashRegistry.checkProofRevocation, Op.revokesHash]
    · simp [HashRegistry.checkProofRevocation, Op.revokesHash, Store.set_apply, hne, hne.symm]

/-! ## Runs -/

namespace World

variable (platform : Platform r G₁ G₂ Gt)

/-- The run has revoked the credential's proof: some `revoke_proof` of it has succeeded. -/
def Revoked (calls : List Call) (credentialId : UInt64) : Prop :=
  Occurs (next platform) (fun w call =>
    w.Completes platform call ∧ call.op.revokes = some credentialId) deployed calls

/-- The run has revoked the hash: some `revoke_proof_by_hash` of it has succeeded. -/
def HashRevoked (calls : List Call) (hash : Bytes) : Prop :=
  Occurs (next platform) (fun w call =>
    w.Completes platform call ∧ call.op.revokesHash = some hash) deployed calls

/-- **A credential is flagged exactly when the run has revoked its proof.** -/
theorem isProofRevoked_after (calls : List Call) (credentialId : UInt64) :
    (after platform calls).state.records.isProofRevoked credentialId = true ↔
      Revoked platform calls credentialId := by
  refine flag_after platform (P := fun s => s.records.isProofRevoked credentialId = true)
    (Q := fun op => op.revokes = some credentialId)
    nofun (fun env s op => ?_) calls
  cases op with
  | record op =>
    exact ensures_map.mpr ((op.ensures_revocation env _ _ _).mono fun _ h => h credentialId)
  | _ => exact ensures_map.mpr fun _ _ => by simp [Op.revokes]

/-- **A hash is flagged exactly when the run has revoked it.** -/
theorem checkProofRevocation_after (calls : List Call) (hash : Bytes) :
    (after platform calls).state.registry.checkProofRevocation hash = true ↔
      HashRevoked platform calls hash := by
  refine flag_after platform (P := fun s => s.registry.checkProofRevocation hash = true)
    (Q := fun op => op.revokesHash = some hash)
    nofun (fun env s op => ?_) calls
  cases op with
  | registry op => exact ensures_map.mpr ((op.ensures_revocation env _ _).mono fun _ h => h hash)
  | _ => exact ensures_map.mpr fun _ _ => by simp [Op.revokesHash]

end World

/-! ## Verification -/

/-- A verification entry point, with its arguments. -/
inductive Verification
  | verifyClaim (admin : Address) (credentialId : UInt64) (claimType : ClaimType) (proof : Bytes)
  | verifyClaimWithProof (credentialId : UInt64) (claimType : ClaimType) (metadataHash : Bytes)
      (proof : SchnorrProof)
  | verifyProofCached (admin : Address) (credentialId : UInt64) (claimType : ClaimType)
      (proof : Bytes) (ttl : Nat)
  | verifyGroth16Proof (proof publicInputs vkHash : Bytes)
  | verifyAggregatedProofs (proofs publicInputs : List Bytes) (vkHash : Bytes)

namespace Verification

/-- The credential a verification names. -/
def credential : Verification → Option UInt64
  | verifyClaim _ credentialId _ _ | verifyClaimWithProof credentialId _ _ _
  | verifyProofCached _ credentialId _ _ _ => some credentialId
  | verifyGroth16Proof .. | verifyAggregatedProofs .. => none

/-- The Groth16 proofs a verification is given. -/
def proofs : Verification → List Bytes
  | verifyClaim _ _ _ proof | verifyGroth16Proof proof _ _ => [proof]
  | verifyAggregatedProofs proofs _ _ => proofs
  | verifyClaimWithProof .. | verifyProofCached .. => []

variable [DecidableEq Gt] (platform : Platform r G₁ G₂ Gt)

/-- What a verification returns. -/
def result (v : Verification) (env : Env) (s : State) : Except Fault Bool :=
  match v with
  | verifyClaim admin credentialId claimType proof =>
    s.verifyClaim platform env admin credentialId claimType proof
  | verifyClaimWithProof credentialId claimType metadataHash proof =>
    .ok (s.keys.verifyClaimWithProof env credentialId claimType metadataHash proof)
  | verifyProofCached admin credentialId claimType proof ttl =>
    Prod.snd <$>
      s.cache.verifyProofCached s.control s.keys env admin credentialId claimType proof ttl
  | verifyGroth16Proof proof publicInputs vkHash =>
    s.verifyGroth16Proof platform proof publicInputs vkHash
  | verifyAggregatedProofs proofs publicInputs vkHash =>
    .ok (s.verifyAggregatedProofs platform env proofs publicInputs vkHash)

/-- The run has revoked what a verification names. -/
def NamesRevoked (v : Verification) (calls : List Call) : Prop :=
  (∃ credentialId ∈ v.credential, World.Revoked platform calls credentialId) ∨
    ∃ proof ∈ v.proofs, World.HashRevoked platform calls (platform.sha256 proof)

end Verification

/-! ## Runs in which nothing is revoked -/

/-- An entry point that revokes. -/
def Op.isRevocation (op : Op) : Bool := op.revokes.isSome || op.revokesHash.isSome

/-- The call without its signatures, if it revokes. -/
def Call.withheld (call : Call) : Call :=
  if call.op.isRevocation then { call with auths := [] } else call

theorem Call.withheld_of_not {call : Call} (h : call.op.isRevocation = false) :
    call.withheld = call := if_neg (by rw [h]; decide)

theorem Call.op_withheld (call : Call) : call.withheld.op = call.op := by
  unfold Call.withheld
  split <;> rfl

namespace World

variable (platform : Platform r G₁ G₂ Gt)

/-- A revocation without signatures fails. -/
theorem not_completes_withheld (w : World) {call : Call} (h : call.op.isRevocation = true) :
    ¬ w.Completes platform call.withheld := by
  rw [Call.withheld, if_pos h]
  rintro ⟨s, hs⟩
  obtain ⟨elapsed, ledgers, auths, op⟩ := call
  cases op with
  | record op =>
    cases op with
    | revokeProof =>
      simp [perform, Op.apply, RecordOp.apply, Records.revokeProof, map_eq_ok,
        Control.requireAdmin_eq_ok, env] at hs
    | _ => cases h
  | registry op =>
    cases op with
    | revokeProofByHash =>
      simp [perform, Op.apply, RegistryOp.apply, HashRegistry.revokeProofByHash, bind_eq_ok,
        Control.requireAdmin_eq_ok, env] at hs
    | _ => cases h
  | _ => cases h

theorem not_occurs_withheld (calls : List Call) :
    ¬ Occurs (next platform) (fun w call =>
      w.Completes platform call ∧ call.op.isRevocation = true) deployed
        (calls.map Call.withheld) := by
  have hwithheld : ∀ call ∈ calls.map Call.withheld, ∃ call', Call.withheld call' = call :=
    fun call hcall => (List.mem_map.mp hcall).imp fun _ h => h.2
  rw [not_occurs_iff]
  refine (along_of_mem _ hwithheld).mono ?_
  rintro w _ ⟨call, rfl⟩ ⟨hcompletes, hop⟩
  rw [call.op_withheld] at hop
  exact w.not_completes_withheld platform hop hcompletes

/-- Two worlds agree on what verifications read: the time, and the parts of the storage that hold
the administrator, the keys and the cache. -/
structure Agrees (w w' : World) : Prop where
  time : w.time = w'.time
  sequence : w.sequence = w'.sequence
  control : w.state.control = w'.state.control
  keys : w.state.keys = w'.state.keys
  cache : w.state.cache = w'.state.cache

variable {w w' : World}

/-- **What a call does to these parts does not depend on the others**, and a revocation does nothing
to them. -/
theorem Agrees.next (h : w.Agrees w') (call : Call) :
    (w.next platform call).Agrees (w'.next platform call.withheld) := by
  obtain ⟨time, sequence, control, keys, cache, _⟩ := w
  obtain ⟨time', sequence', control', keys', cache', _⟩ := w'
  obtain ⟨rfl, rfl, rfl, rfl, rfl⟩ := h
  obtain ⟨elapsed, ledgers, auths, op⟩ := call
  cases op with
  | control op =>
    rw [Call.withheld_of_not rfl]
    simp only [World.next, perform, Op.apply, env]
    cases op.apply _ control <;> exact ⟨rfl, rfl, rfl, rfl, rfl⟩
  | key op =>
    rw [Call.withheld_of_not rfl]
    simp only [World.next, perform, Op.apply, env]
    cases op.apply platform _ control keys <;> exact ⟨rfl, rfl, rfl, rfl, rfl⟩
  | cache op =>
    rw [Call.withheld_of_not rfl]
    simp only [World.next, perform, Op.apply, env]
    cases op.apply _ control keys cache <;> exact ⟨rfl, rfl, rfl, rfl, rfl⟩
  | record op =>
    unfold Call.withheld
    split <;> simp only [World.next, perform, Op.apply] <;> cases op.apply _ control keys _ <;>
      cases op.apply _ control keys _ <;> exact ⟨rfl, rfl, rfl, rfl, rfl⟩
  | registry op | mpc op =>
    unfold Call.withheld
    split <;> simp only [World.next, perform, Op.apply] <;> cases op.apply _ control _ <;>
      cases op.apply _ control _ <;> exact ⟨rfl, rfl, rfl, rfl, rfl⟩

theorem agrees_after (calls : List Call) :
    (after platform calls).Agrees (after platform (calls.map Call.withheld)) := by
  rw [after, after, run, run, List.foldl_map]
  exact List.foldl_rel ⟨rfl, rfl, rfl, rfl, rfl⟩ fun call _ _ _ h => h.next platform call

variable [DecidableEq Gt]

/-- **A verification reads nothing else.** -/
theorem Agrees.result (h : w.Agrees w') (v : Verification) (elapsed ledgers : Nat)
    (auths : List Address) :
    v.result platform (w.env platform.toHost elapsed ledgers auths) w.state =
      v.result platform (w'.env platform.toHost elapsed ledgers auths) w'.state := by
  obtain ⟨time, sequence, control, keys, cache, _⟩ := w
  obtain ⟨time', sequence', control', keys', cache', _⟩ := w'
  obtain ⟨rfl, rfl, rfl, rfl, rfl⟩ := h
  cases v <;> rfl

/-- **A revocation is never honoured**: after every run each verification answers what it answers
after the same run with the revocations refused, when nothing has been revoked.  It is permanent,
though: the flags it raises stay up. -/
theorem revocation_void (calls : List Call) :
    let w := after platform calls
    let refused := calls.map Call.withheld
    let w' := after platform refused
    (∀ v : Verification, ¬ v.NamesRevoked platform refused ∧
      ∀ (elapsed ledgers : Nat) (auths : List Address),
        v.result platform (w.env platform.toHost elapsed ledgers auths) w.state =
          v.result platform (w'.env platform.toHost elapsed ledgers auths) w'.state) ∧
    ∀ later,
      let s := (after platform (calls ++ later)).state
      (∀ credentialId, Revoked platform calls credentialId →
        s.records.isProofRevoked credentialId = true) ∧
      ∀ hash, HashRevoked platform calls hash → s.registry.checkProofRevocation hash = true := by
  intro w refused w'
  refine ⟨fun v => ⟨fun hnames => ?_, (agrees_after platform calls).result platform v⟩,
    fun later => ⟨fun credentialId h => ?_, fun hash h => ?_⟩⟩
  · refine not_occurs_withheld platform calls ?_
    rcases hnames with ⟨_, -, h⟩ | ⟨_, -, h⟩ <;>
      exact Occurs.mono _ (fun _ _ h => ⟨h.1, by simp [Op.isRevocation, h.2]⟩) h
  · exact (isProofRevoked_after platform _ _).mpr ((occurs_append _).mpr (.inl h))
  · exact (checkProofRevocation_after platform _ _).mpr ((occurs_append _).mpr (.inl h))

end World

namespace Sample

/-- A proof for credential 3 having a degree. -/
def groth16Proof : Bytes :=
  Bls.encode 48 (Bls.Sample.element 3) ++ Bls.encode 96 (Bls.Sample.element 5) ++
    Bls.encode 48 (Bls.Sample.element 9)

/-- The admin revokes the credential's proof, and the hash of the proof itself. -/
def revoked : List Call :=
  [initialized, keyRegistered, callBy admin (.record (.revokeProof admin 3 [])),
    callBy admin (.registry (.registerProofHash admin (host.sha256 groth16Proof))),
    callBy admin (.registry (.revokeProofByHash admin (host.sha256 groth16Proof) [1]))]

end Sample

open Zk.Sample

/-- The credential stays flagged, and its claim is verified as if it were not. -/
theorem revocation_void_claim :
    let v : Verification := .verifyClaim admin 3 .hasDegree groth16Proof
    let w := World.after platform revoked
    let w' := World.after platform (revoked.map Call.withheld)
    v.result platform (w.env platform.toHost 0 0 [admin]) w.state =
        v.result platform (w'.env platform.toHost 0 0 [admin]) w'.state ∧
      (World.after platform (revoked ++ [keyRegistered])).state.records.isProofRevoked 3
        = true := by
  obtain ⟨hanswers, hflags⟩ := World.revocation_void platform revoked
  exact ⟨(hanswers _).2 0 0 [admin], (hflags [keyRegistered]).1 3
    ((World.isProofRevoked_after _ _ _).mp (by decide +kernel))⟩

/-- Both are revoked, and both are accepted. -/
theorem not_revocation_honoured :
    let w := World.after platform revoked
    let env := w.env platform.toHost 0 0 [admin]
    World.Revoked platform revoked 3 ∧
      World.HashRevoked platform revoked (host.sha256 groth16Proof) ∧
      w.state.verifyClaim platform env admin 3 .hasDegree groth16Proof
        = .ok true ∧
      w.state.verifyGroth16Proof platform groth16Proof (claimInputs 3 .hasDegree)
        vkHash = .ok true :=
  ⟨(World.isProofRevoked_after _ _ _).mp (by decide +kernel),
    (World.checkProofRevocation_after _ _ _).mp (by decide +kernel), by decide +kernel,
    by decide +kernel⟩

end QuorumProof.Zk
