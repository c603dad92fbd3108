import Mathlib.Logic.Relation
import Mathlib.Tactic.MkIffOfInductiveProp
import QuorumProof.Contract.ControlFrames

/-!
# Contract/Frames — what an operation leaves alone

The entry points fall into families by the part of the storage they write.  Each family has one
frame: a reflexive and transitive relation that says what its operations leave as it was, so a loop
over entries of a batch keeps the frame its body keeps.
-/

namespace QuorumProof

open Guarded

/-- The pairs a query warms the cache for. -/
def QueryOp.warmed : QueryOp → List (Nat × Nat)
  | warmVerificationCache pairs => pairs
  | _ => []

namespace State

variable (env : Env) (s : State)

/-! ## The frames -/

/-- The issuance policies, and the requests under them. -/
def policies (s : State) : Store Nat IssuancePolicy × Store Nat PendingIssuanceRequest × Nat :=
  (s.workflow.issuancePolicy, s.workflow.pendingIssuance, s.workflow.pendingIssuanceCount)

/-- What the operations on credentials leave: slices, attestations but for the BBS+ flag of a new
credential, and discipline. -/
structure CredentialFrame (s s' : State) : Prop where
  slices : s'.slices = s.slices
  attestations : s'.attestations =
    { s.attestations with bbsCredentialFlag := s'.attestations.bbsCredentialFlag }
  discipline : s'.discipline = s.discipline

/-- What those leave that give no credential such a flag, with the guards they pass. -/
structure RecordFrame (env : Env) (guarded : Bool) (s s' : State) : Prop where
  guards : GuardChain env guarded s.control s'.control
  slices : s'.slices = s.slices
  attestations : s'.attestations = s.attestations
  discipline : s'.discipline = s.discipline

/-- What the operations on slices leave. -/
@[mk_iff] structure SliceFrame (env : Env) (guarded : Bool) (s s' : State) : Prop where
  guards : GuardChain env guarded s.control s'.control
  registry : s'.registry = s.registry
  workflow : s'.workflow = s.workflow
  attestations : s'.attestations = s.attestations
  discipline : s'.discipline = s.discipline

/-- What the operations on attestations and attestors leave. -/
structure AttestationFrame (s s' : State) : Prop where
  registry : s'.registry = s.registry
  workflow : s'.workflow = s.workflow
  slices : s'.slices = s.slices

/-- What the queries leave: everything but the verification cache. -/
def QueryFrame (s s' : State) : Prop := ∃ cache, s' = { s with cache := cache }

/-- What passes no guard afterwards does not matter to the guards. -/
theorem RecordFrame.trans {env : Env} {guarded : Bool} {s₁ s₂ s₃ : State}
    (h : RecordFrame env guarded s₁ s₂) (h' : RecordFrame env false s₂ s₃) :
    RecordFrame env guarded s₁ s₃ where
  guards := Bool.or_false guarded ▸ h.guards.trans h'.guards
  slices := h'.slices.trans h.slices
  attestations := h'.attestations.trans h.attestations
  discipline := h'.discipline.trans h.discipline

theorem AttestationFrame.refl : AttestationFrame s s := ⟨rfl, rfl, rfl⟩

theorem AttestationFrame.trans {s₁ s₂ s₃ : State} (h : AttestationFrame s₁ s₂)
    (h' : AttestationFrame s₂ s₃) : AttestationFrame s₁ s₃ where
  registry := h'.registry.trans h.registry
  workflow := h'.workflow.trans h.workflow
  slices := h'.slices.trans h.slices

/-! ## Slices -/

theorem sliceOp_frame (op : SliceOp) :
    Ensures (op.apply env s) (SliceFrame env op.guarded s) := by
  cases op <;>
    simp [SliceOp.apply, SliceOp.guarded, sliceFrame_iff, ensures_unit, createSlice,
      createSlicePercentage, createSliceFromTemplate, createWeightedSlice,
      setReputationWeightingEnabled, removeAttestor, addAttestor, updateAttestorWeight,
      updateSliceThreshold, updatePercentageThreshold, rebalanceSlice, reweightSlice,
      replaceAttestor, setMaxAttestorsPerSlice, enableAttestorIndependence,
      disableAttestorIndependence, setAttestorIndependence, delegateSliceVote,
      revokeSliceDelegation, createSliceTemplate, updateTemplateDefaults, invalidateSlice] <;>
    grind

/-! ## Queries -/

/-- **A query writes the cache alone**: an answer it has computed, about a slice that exists or a
pair it warms, or the time to live. -/
inductive CacheStep (env : Env) (warmed : List (Nat × Nat)) (s : State) : State → Prop
  | answered {id sliceId : Nat} {answer : Bool}
      (hanswer : s.isAttestedUncached env id sliceId = .ok answer)
      (hknown : (s.slices.slices sliceId).isSome = true ∨ (id, sliceId) ∈ warmed) :
      CacheStep env warmed s (s.cacheAnswer env id sliceId answer)
  | limited (ttl : Nat) :
      CacheStep env warmed s { s with cache := { s.cache with verificationCacheTtl := some ttl } }

/-- Answers are stored, one after another. -/
def Refreshes (env : Env) (warmed : List (Nat × Nat)) : State → State → Prop :=
  Relation.ReflTransGen (CacheStep env warmed)

variable {env s} in
/-- `is_attested` leaves the storage, or stores the answer it gives for a pair without one. -/
theorem isAttested_effect {id sliceId : Nat} (hlive : s.cache.live env.now id sliceId = none) :
    Ensures (s.isAttested env id sliceId) fun r =>
      s.isAttestedUncached env id sliceId = .ok r.2 ∧ (r.1 = s ∨
        (s.slices.slices sliceId).isSome = true ∧ r.1 = s.cacheAnswer env id sliceId r.2) := by
  intro r hr
  refine ⟨by rw [← snd_isAttested_eq hlive, hr]; rfl, ?_⟩
  revert r
  change Ensures _ _
  simp only [isAttested, hlive, ensures_bind, ensures_guards, ensures_ite, ensures_pure]
  intro c _
  exact ⟨fun _ => .inl trivial, fun _ slice hslice answer _ => .inr ⟨by rw [hslice]; rfl, trivial⟩⟩

theorem isAttested_refreshes (warmed : List (Nat × Nat)) (id sliceId : Nat) :
    Ensures (s.isAttested env id sliceId) fun r => Refreshes env warmed s r.1 := by
  intro r hr
  cases hlive : s.cache.live env.now id sliceId with
  | some answer =>
    rw [isAttested, hlive] at hr
    rw [← Except.ok.inj hr]
    exact .refl
  | none =>
    obtain ⟨hanswer, heq | ⟨hslice, heq⟩⟩ := isAttested_effect hlive r hr
    · exact heq ▸ .refl
    · exact heq ▸ .single (.answered hanswer (.inl hslice))

theorem verifyProofEntry_refreshes (acc : State × List (Nat × Bool × Bool))
    (entry : Nat × Nat × Nat) :
    Ensures (verifyProofEntry env acc entry) fun r => Refreshes env [] acc.1 r.1 := by
  unfold verifyProofEntry
  split
  · simp only [ensures_bind, ensures_pure]
    exact isAttested_refreshes env acc.1 [] entry.1 entry.2.1
  · exact ensures_ok.mpr .refl

theorem warmEntry_refreshes {warmed : List (Nat × Nat)} (acc : State × Nat) {pair : Nat × Nat}
    (hpair : pair ∈ warmed) :
    Ensures (warmEntry env acc pair) fun r => Refreshes env warmed acc.1 r.1 := by
  unfold warmEntry
  split
  next => exact ensures_ok.mpr .refl
  next hlive =>
    simp only [ensures_bind, ensures_guards, ensures_pure]
    intro r hr _
    obtain ⟨hanswer, heq⟩ := isAttested_effect hlive r hr
    -- an answer that is stored already is stored again
    have hstored : r.1.cacheAnswer env pair.1 pair.2 r.2 =
        acc.1.cacheAnswer env pair.1 pair.2 r.2 := by
      obtain heq | ⟨-, heq⟩ := heq <;> rw [heq]
      simp only [cacheAnswer, VerificationCache.put, Store.set_eq_self (Store.set_self _ _ _)]
    exact hstored ▸ .single (.answered hanswer (.inr hpair))

theorem queryOp_refreshes (op : QueryOp) :
    Ensures (op.apply env s) (Refreshes env op.warmed s) := by
  cases op
  case isAttested id sliceId => exact ensures_map.mpr (isAttested_refreshes env s [] id sliceId)
  case verifyCredential verifier id sliceId =>
    simp only [QueryOp.apply, ensures_steps, verifyCredential, ensures_guards]
    intro _ c _
    exact isAttested_refreshes env s [] id sliceId
  case batchVerifyProofs ids sliceIds proofExpiresAt =>
    simp only [QueryOp.apply, ensures_steps, batchVerifyProofs]
    intro _ _
    exact ensures_foldlM
      (fun _ => .refl) .trans (fun entry _ acc => verifyProofEntry_refreshes env acc entry) _
  case warmVerificationCache pairs =>
    exact ensures_map.mpr (ensures_foldlM
      (fun _ => .refl) .trans (fun pair hpair acc => warmEntry_refreshes env acc hpair) _)
  case setVerificationCacheTtl admin ttl =>
    simp only [QueryOp.apply, ensures_steps, setVerificationCacheTtl]
    exact fun _ _ => .single (.limited ttl)

theorem Refreshes.frame {env : Env} {warmed : List (Nat × Nat)} {s s' : State}
    (h : Refreshes env warmed s s') : QueryFrame s s' := by
  induction h with
  | refl => exact ⟨s.cache, rfl⟩
  | tail _ hstep ih =>
    obtain ⟨cache, rfl⟩ := ih
    cases hstep <;> exact ⟨_, rfl⟩

theorem queryOp_frame (op : QueryOp) : Ensures (op.apply env s) (QueryFrame s) :=
  (queryOp_refreshes env s op).mono fun _ => Refreshes.frame

/-! ## Snapshots -/

/-- A restored snapshot rewrites the three counters. -/
theorem restoreFromSnapshot_effect (admin : Address) (snapshotId : Nat) :
    Ensures (s.restoreFromSnapshot env admin snapshotId) fun r =>
      ∃ control snapshot, GuardChain env true s.control control ∧
        s.workflow.stateSnapshot snapshotId = some snapshot ∧ r.1 =
          { s with
            control := control
            registry := s.registry.restoreCount snapshot.credentialCount
            slices := { s.slices with sliceCount := snapshot.sliceCount }
            workflow := { s.workflow with disputeCount := snapshot.disputeCount } } := by
  simp only [restoreFromSnapshot, ensures_steps, ensures_guards]
  intro _ _ control hguard snapshot hsnapshot _ _
  exact ⟨control, snapshot, .requireNotPaused hguard, hsnapshot, rfl⟩

end State

end QuorumProof
