import QuorumProof.Contract.SliceEffects

/-!
# Contract/DecisionInputs — what the attestation decision depends on

`is_attested` computes its answer from a dozen storage keys and the clock.  `Dossier` holds what it
reads of a credential's attestations, and `SameInputs` lists the rest, for one credential and one
slice: states with the same inputs give the same answer (`isAttestedUncached_congr`).  `deadlines`
lists the times at which the clock matters: between two of them the answer does not change
(`isAttestedUncached_time`).
-/

namespace QuorumProof

open Guarded

namespace State

/-! ## The inputs -/

/-- The slices a decision reads: its own, and every slice of the credential when there are
several. -/
def Reads (s : State) (id sliceId k : Nat) : Prop :=
  k = sliceId ∨ 1 < (s.attestations.getCredentialSlices id).length ∧
    k ∈ s.attestations.getCredentialSlices id
  deriving Decidable

/-- The slice scales weights by reputation. -/
def ScalesWeights (s : State) (sliceId : Nat) : Prop :=
  ∃ slice ∈ s.slices.slices sliceId, slice.reputationWeightingEnabled = true
  deriving Decidable

/-- What the decision reads of a credential's attestations: its records with the captured weights,
the slices it is attested through, whether its BBS+ proof is missing, what locks and ends it, and
whether the multi-signature policy of its type is met. -/
structure Dossier where
  records : List AttestationRecord
  weights : Nat → Address → Option Nat
  recorded : List Nat
  unproved : Bool
  timeLock : Option Nat
  expiry : Option Nat
  approved : Bool

/-- The dossier of a credential. -/
def dossier (s : State) (id : Nat) : Dossier where
  records := s.attestations.records id
  weights sliceId a := s.attestations.attestationWeight (id, sliceId, a)
  recorded := s.attestations.getCredentialSlices id
  unproved := (s.attestations.bbsCredentialFlag id).isSome && !s.verifyNonRevocation id
  timeLock := s.attestations.timeLock id
  expiry := s.attestations.attestationExpiry id
  approved := s.isMultisigApproved id

/-- The attestors of the slices a decision reads are in the same standing. -/
structure SameAttestors (s s' : State) (id sliceId : Nat) : Prop where
  suspended : ∀ k, s.Reads id sliceId k → ∀ a,
    s'.discipline.isAttestorSuspended k a = s.discipline.isAttestorSuspended k a
  scores : s.ScalesWeights sliceId → ∀ a,
    (s'.discipline.loadOrInitReputation a).score = (s.discipline.loadOrInitReputation a).score

/-- **Two states agree on everything the decision about a pair reads.** -/
structure SameInputs (s s' : State) (id sliceId : Nat) : Prop where
  standing : (s'.registry.credentials id).map Credential.standing =
    (s.registry.credentials id).map Credential.standing
  dossier : s'.dossier id = s.dossier id
  slices : ∀ k, s.Reads id sliceId k → s'.slices.slices k = s.slices.slices k
  types : ∀ k, s.Reads id sliceId k →
    s'.slices.sliceThresholdType k = s.slices.sliceThresholdType k
  nested : s'.slices.nestedSliceNode = s.slices.nestedSliceNode
  attestors : s.SameAttestors s' id sliceId

theorem SameAttestors.of_eq {s s' : State} (h : s'.discipline = s.discipline) (id sliceId : Nat) :
    s.SameAttestors s' id sliceId where
  suspended _ _ _ := by rw [h]
  scores _ _ := by rw [h]

/-- The policy is asked for by the credential's type. -/
theorem isMultisigApproved_eq (s : State) (id : Nat) :
    s.isMultisigApproved id =
      ((s.registry.credentials id).map Credential.standing).elim false fun standing =>
        if (s.attestations.attestationPolicy standing.2.2.2).isSome = true then
          (s.attestations.multisigAttestationApproved id).getD false
        else true := by
  unfold isMultisigApproved
  cases s.registry.credentials id <;> rfl

namespace SameInputs

variable {s s' s'' : State} {id sliceId : Nat} (h : s.SameInputs s' id sliceId)

include h

theorem recorded : s'.attestations.getCredentialSlices id = s.attestations.getCredentialSlices id :=
  congrArg Dossier.recorded h.dossier

theorem reads_iff (k : Nat) : s'.Reads id sliceId k ↔ s.Reads id sliceId k := by
  rw [Reads, Reads, h.recorded]

theorem scalesWeights_iff : s'.ScalesWeights sliceId ↔ s.ScalesWeights sliceId := by
  rw [ScalesWeights, ScalesWeights, h.slices sliceId (.inl rfl)]

theorem trans (h' : s'.SameInputs s'' id sliceId) : s.SameInputs s'' id sliceId where
  standing := h'.standing.trans h.standing
  dossier := h'.dossier.trans h.dossier
  slices k hk := (h'.slices k ((h.reads_iff k).mpr hk)).trans (h.slices k hk)
  types k hk := (h'.types k ((h.reads_iff k).mpr hk)).trans (h.types k hk)
  nested := h'.nested.trans h.nested
  attestors := ⟨fun k hk a => (h'.attestors.suspended k ((h.reads_iff k).mpr hk) a).trans
      (h.attestors.suspended k hk a),
    fun hscales a => (h'.attestors.scores (h.scalesWeights_iff.mpr hscales) a).trans
      (h.attestors.scores hscales a)⟩

/-! ## Same inputs, same answer -/

theorem blocked_eq (env : Env) {c c' : Credential} (hstanding : c'.standing = c.standing) :
    s'.blocked env id c' = s.blocked env id c := by
  simp only [Credential.standing, Prod.mk.injEq] at hstanding
  obtain ⟨hrevoked, hsuspended, hexpires, -⟩ := hstanding
  have hunproved := congrArg Dossier.unproved h.dossier
  have hlock : s'.attestations.timeLock id = s.attestations.timeLock id :=
    congrArg Dossier.timeLock h.dossier
  have hexpiry : s'.attestations.attestationExpiry id = s.attestations.attestationExpiry id :=
    congrArg Dossier.expiry h.dossier
  dsimp only [State.dossier] at hunproved
  unfold blocked isTimeLocked
  rw [hrevoked, hsuspended, hexpires, hunproved, hlock, hexpiry]

theorem contribution_eq (env : Env) {slice : QuorumSlice}
    (hslice : s.slices.slices sliceId = some slice) (record : AttestationRecord) :
    s'.contribution env id sliceId slice record = s.contribution env id sliceId slice record := by
  have hweight : ∀ a weight,
      s'.effectiveWeight slice a weight = s.effectiveWeight slice a weight := by
    intro a weight
    unfold effectiveWeight
    split
    next hscales => rw [h.attestors.scores ⟨slice, hslice, hscales⟩ a]
    next => rfl
  have hcaptured : ∀ a, s'.attestations.attestationWeight (id, sliceId, a) =
      s.attestations.attestationWeight (id, sliceId, a) :=
    fun a => congrFun (congrFun (congrArg Dossier.weights h.dossier) sliceId) a
  simp only [contribution, recordWeight, hcaptured, h.types sliceId (.inl rfl),
    h.attestors.suspended sliceId (.inl rfl), hweight]

theorem records : s'.attestations.records id = s.attestations.records id :=
  congrArg Dossier.records h.dossier

theorem attestedWeight_eq (env : Env) {slice : QuorumSlice}
    (hslice : s.slices.slices sliceId = some slice) :
    s'.attestedWeight env id sliceId slice = s.attestedWeight env id sliceId slice := by
  simp only [attestedWeight, h.records, h.contribution_eq env hslice]

theorem requiredWeight_eq (hregistered : s.slices.Registered) {k : Nat} (hk : s.Reads id sliceId k)
    {slice : QuorumSlice} (hslice : s.slices.slices k = some slice) :
    s'.slices.requiredWeight slice = s.slices.requiredWeight slice := by
  simp only [SliceBook.requiredWeight, SliceBook.thresholdType, hregistered.id_eq hslice,
    h.types k hk]

theorem candidateWeight_eq {k : Nat} (hk : s.Reads id sliceId k)
    (candidates attestors : List Address) (weights : List Nat) :
    s'.candidateWeight k candidates attestors weights =
      s.candidateWeight k candidates attestors weights := by
  unfold candidateWeight
  congr 1
  funext total entry
  exact if_congr (by rw [h.attestors.suspended k hk entry.1]) rfl rfl

theorem isQuorumImpl_eq (hregistered : s.slices.Registered)
    (hnested : ∀ k, s.slices.nestedSliceNode k = none) {k : Nat} (hk : s.Reads id sliceId k)
    (candidates : List Address) (fuel : Nat) :
    s'.isQuorumImpl candidates (fuel + 1) k = s.isQuorumImpl candidates (fuel + 1) k := by
  unfold isQuorumImpl
  rw [h.nested, hnested k]
  simp only [getSlice, h.slices k hk]
  cases hslice : s.slices.slices k with
  | none => rfl
  | some slice =>
    simp only [expect, bind, Except.bind, h.requiredWeight_eq hregistered hk hslice,
      h.candidateWeight_eq hk]

theorem intersectionSatisfied_eq (hregistered : s.slices.Registered)
    (hnested : ∀ k, s.slices.nestedSliceNode k = none) (env : Env) :
    s'.intersectionSatisfied env id = s.intersectionSatisfied env id := by
  have hpositive : s'.positiveAttestors env id = s.positiveAttestors env id := by
    simp only [positiveAttestors, h.records]
  unfold intersectionSatisfied requiresIntersectionVerification verifyCredentialIntersection
  dsimp only
  rw [h.recorded, h.nested, hpositive]
  split
  next =>
    split
    next => rfl
    next hseveral =>
      -- with several slices recorded, the decision reads each of them
      refine allM_congr fun k hk => ?_
      exact h.isQuorumImpl_eq hregistered hnested (.inr ⟨Nat.lt_of_not_le hseveral, hk⟩) _ _
  next => rfl

end SameInputs

/-- **The decision depends on its inputs alone.** -/
theorem isAttestedUncached_congr {s s' : State} {id sliceId : Nat}
    (h : s.SameInputs s' id sliceId) (hregistered : s.slices.Registered)
    (hnested : ∀ k, s.slices.nestedSliceNode k = none) (env : Env) :
    s'.isAttestedUncached env id sliceId = s.isAttestedUncached env id sliceId := by
  unfold isAttestedUncached getCredential
  cases hc : s.registry.credentials id with
  | none =>
    have hstanding := h.standing
    rw [hc, Option.map_none, Option.map_eq_none_iff] at hstanding
    rw [hstanding]
    rfl
  | some c =>
    have happroved : s'.isMultisigApproved id = s.isMultisigApproved id :=
      congrArg Dossier.approved h.dossier
    have hstanding := h.standing
    rw [hc, Option.map_some, Option.map_eq_some_iff] at hstanding
    obtain ⟨c', hc', hstanding⟩ := hstanding
    simp only [hc', expect, bind, Except.bind, h.blocked_eq env hstanding, getSlice,
      h.slices sliceId (.inl rfl)]
    split
    next => rfl
    next =>
      cases hslice : s.slices.slices sliceId with
      | none => rfl
      | some slice =>
        simp only [quorumDecision_eq, h.requiredWeight_eq hregistered (.inl rfl) hslice,
          h.attestedWeight_eq env hslice, happroved,
          h.intersectionSatisfied_eq hregistered hnested env]

/-! ## The clock -/

/-- The times at which the decision about a credential may change by itself. -/
def deadlines (s : State) (id : Nat) : List Nat :=
  ((s.registry.credentials id).bind (·.expiresAt)).toList ++
    (s.attestations.attestationExpiry id).toList ++ (s.attestations.timeLock id).toList ++
    (s.attestations.records id).filterMap (·.expiresAt)

section

variable {env env' : Env} {s : State} {id : Nat}
  (h : ∀ deadline ∈ s.deadlines id, deadline ≤ env.now ↔ deadline ≤ env'.now)

include h

theorem reached_time {o : Option Nat} (ho : ∀ d, o = some d → d ∈ s.deadlines id) :
    reached env.now o = reached env'.now o := by
  cases o with
  | none => rfl
  | some d => exact decide_eq_decide.mpr (h d (ho d rfl))

theorem unexpired_time {record : AttestationRecord}
    (hrecord : record ∈ s.attestations.records id) :
    record.unexpired env.now = record.unexpired env'.now := by
  unfold AttestationRecord.unexpired
  cases hexpires : record.expiresAt with
  | none => rfl
  | some d =>
    have hd : d ∈ s.deadlines id := by
      simp only [deadlines, List.mem_append, List.mem_filterMap]
      exact .inr ⟨record, hrecord, hexpires⟩
    have := h d hd
    exact decide_eq_decide.mpr (by omega)

theorem blocked_time {c : Credential} (hc : s.registry.credentials id = some c) :
    s.blocked env id c = s.blocked env' id c := by
  have hexpires : reached env.now c.expiresAt = reached env'.now c.expiresAt :=
    reached_time h fun d hd => by simp [deadlines, hc, hd]
  have hattestation : reached env.now (s.attestations.attestationExpiry id) =
      reached env'.now (s.attestations.attestationExpiry id) :=
    reached_time h fun d hd => by simp [deadlines, hd]
  have hlock : s.isTimeLocked env id = s.isTimeLocked env' id := by
    unfold isTimeLocked
    cases hlocked : s.attestations.timeLock id with
    | none => rfl
    | some d =>
      have := h d (by simp [deadlines, hlocked])
      exact decide_eq_decide.mpr (by omega)
  rw [blocked, blocked, hexpires, hattestation, hlock]

theorem attestedWeight_time (sliceId : Nat) (slice : QuorumSlice) :
    s.attestedWeight env id sliceId slice = s.attestedWeight env' id sliceId slice := by
  rw [attestedWeight_eq, attestedWeight_eq]
  refine congrArg (fun l => min (List.sum l) u32Max) (List.map_congr_left fun record hrecord => ?_)
  rw [contribution, contribution, unexpired_time h hrecord]

theorem positiveAttestors_time : s.positiveAttestors env id = s.positiveAttestors env' id := by
  unfold positiveAttestors
  refine congrArg (List.map _) (List.filter_congr fun record hrecord => ?_)
  rw [unexpired_time h hrecord]

/-- **Between two deadlines the decision does not change.** -/
theorem isAttestedUncached_time (sliceId : Nat) :
    s.isAttestedUncached env id sliceId = s.isAttestedUncached env' id sliceId := by
  unfold isAttestedUncached getCredential
  cases hc : s.registry.credentials id with
  | none => rfl
  | some c =>
    simp only [expect, bind, Except.bind, blocked_time h hc, quorumDecision_eq,
      attestedWeight_time h, intersectionSatisfied, verifyCredentialIntersection,
      positiveAttestors_time h]

end

end State

end QuorumProof
