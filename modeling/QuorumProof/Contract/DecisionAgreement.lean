import QuorumProof.Contract.SliceEffects

/-!
# Contract/DecisionAgreement — three decisions about one credential

`is_attested`, `batch_is_attested` and `verify_attestations_batch` decide one question with three
sums and three sets of gates.  They differ on negative votes, on weights that changed after the
vote, on suspended and penalised attestors, on percentage thresholds, time locks, attestation
expiry, multi-signature approval, several slices and BBS+ credentials.  A pair on which none of
these is in play is `Plain`, and on plain pairs the three agree (`decisions_agree`).
-/

namespace QuorumProof

open Guarded

namespace State

/-! ## Plain pairs -/

/-- A vote that the three sums weigh alike: positive, by an attestor in good standing, with the
weight the attestor still has. -/
@[mk_iff] structure PlainVote (s : State) (id sliceId : Nat) (slice : QuorumSlice)
    (record : AttestationRecord) : Prop where
  positive : record.attestationValue = true
  captured : s.attestations.attestationWeight (id, sliceId, record.attestor) =
    slice.weightOf record.attestor
  unsuspended : s.discipline.isAttestorSuspended sliceId record.attestor = false
  reputation : slice.reputationWeightingEnabled = false

instance (s : State) (id sliceId : Nat) (slice : QuorumSlice) (record : AttestationRecord) :
    Decidable (s.PlainVote id sliceId slice record) :=
  decidable_of_iff' _ (plainVote_iff ..)

/-- The gates `is_attested` alone looks at are open, the threshold is the required weight, and every
vote that has a weight anywhere is plain. -/
@[mk_iff] structure Plain (env : Env) (s : State) (id sliceId : Nat) (slice : QuorumSlice) :
    Prop where
  nonRevoked : s.attestations.bbsCredentialFlag id = none ∨ s.verifyNonRevocation id = true
  unlocked : s.isTimeLocked env id = false
  unexpired : reached env.now (s.attestations.attestationExpiry id) = false
  approved : s.isMultisigApproved id = true
  single : (s.attestations.getCredentialSlices id).length ≤ 1
  absolute : s.slices.thresholdType sliceId = .absolute
  votes : ∀ record ∈ s.attestations.records id, record.unexpired env.now = true →
    (s.attestations.attestationWeight (id, sliceId, record.attestor) ≠ none ∨
      record.attestor ∈ slice.attestors) → s.PlainVote id sliceId slice record

instance (env : Env) (s : State) (id sliceId : Nat) (slice : QuorumSlice) :
    Decidable (s.Plain env id sliceId slice) :=
  decidable_of_iff' _ (plain_iff ..)

/-- The credential is out of standing, so that every decision is negative, or the pair is plain. -/
def PlainPair (env : Env) (s : State) (pair : Nat × Nat) : Prop :=
  ∀ c ∈ s.registry.credentials pair.1, ∀ slice ∈ s.slices.slices pair.2,
    (c.revoked || c.suspended || reached env.now c.expiresAt) = true ∨
      s.Plain env pair.1 pair.2 slice
  deriving Decidable

/-- **The three decisions agree on a list of pairs.** -/
structure DecisionsAgree (env : Env) (s : State) (pairs : List (Nat × Nat)) : Prop where
  batch : pairs.mapM (fun pair => Prod.snd <$> s.isAttested env pair.1 pair.2) =
    .ok (s.batchIsAttested env pairs)
  verify : s.verifyAttestationsBatch env (pairs.map (·.1)) (pairs.map (·.2)) =
    pairs.mapM fun pair => Prod.snd <$> s.isAttested env pair.1 pair.2

/-! ## One sum -/

/-- What a record weighs in a plain pair, in all three sums. -/
def plainWeight (env : Env) (slice : QuorumSlice) (record : AttestationRecord) : Nat :=
  if record.unexpired env.now = true then (slice.weightOf record.attestor).getD 0 else 0

theorem weightOf_eq_none {slice : QuorumSlice} {a : Address} (h : a ∉ slice.attestors) :
    slice.weightOf a = none := if_neg h

section

variable {env : Env} {s : State} {id sliceId : Nat} {slice : QuorumSlice}
  (h : s.Plain env id sliceId slice)

include h

section

variable {record : AttestationRecord} (hrecord : record ∈ s.attestations.records id)

include record hrecord

/-- A record without a weight in any sum, or a plain vote. -/
theorem Plain.vote_cases (hunexpired : record.unexpired env.now = true) :
    (s.attestations.attestationWeight (id, sliceId, record.attestor) = none ∧
      slice.weightOf record.attestor = none) ∨ s.PlainVote id sliceId slice record := by
  by_cases hmember : record.attestor ∈ slice.attestors
  · exact .inr (h.votes record hrecord hunexpired (.inr hmember))
  · cases hcaptured : s.attestations.attestationWeight (id, sliceId, record.attestor) with
    | none => exact .inl ⟨rfl, weightOf_eq_none hmember⟩
    | some weight =>
      exact .inr (h.votes record hrecord hunexpired (.inl (by rw [hcaptured]; simp)))

theorem Plain.contribution :
    (s.contribution env id sliceId slice record).getD 0 = plainWeight env slice record := by
  unfold State.contribution plainWeight
  cases hunexpired : record.unexpired env.now with
  | false => rw [Bool.and_false]; rfl
  | true =>
    obtain ⟨hcaptured, hweight⟩ | hvote := h.vote_cases hrecord hunexpired
    · have hnone : s.recordWeight id sliceId slice record.attestor = none := by
        simp only [recordWeight, hcaptured, hweight, ite_self]
      rw [hnone, hweight]
      split <;> rfl
    · rw [hvote.positive, Bool.and_true, if_pos rfl, if_pos rfl]
      have hrecordWeight : s.recordWeight id sliceId slice record.attestor =
          slice.weightOf record.attestor := by
        rw [recordWeight, hvote.captured]
        cases slice.weightOf record.attestor with
        | none => exact ite_self _
        | some weight => rfl
      rw [hrecordWeight, hvote.unsuspended]
      cases slice.weightOf record.attestor with
      | none => rfl
      | some weight =>
        have hscaled : s.effectiveWeight slice record.attestor weight = weight := by
          rw [effectiveWeight, hvote.reputation, if_neg Bool.false_ne_true]
        exact hscaled

theorem Plain.batchContribution :
    (s.batchContribution env id sliceId record).getD 0 = plainWeight env slice record := by
  unfold State.batchContribution plainWeight
  cases hunexpired : record.unexpired env.now with
  | false => rw [Bool.and_false]; rfl
  | true =>
    obtain ⟨hcaptured, hweight⟩ | hvote := h.vote_cases hrecord hunexpired
    · rw [hcaptured, hweight]
      split <;> rfl
    · rw [hvote.positive, Bool.and_true, if_pos rfl, if_pos rfl, hvote.captured]
      rfl

end

/-- The weight `is_attested` finds. -/
theorem Plain.attestedWeight :
    s.attestedWeight env id sliceId slice =
      min ((s.attestations.records id).map (plainWeight env slice)).sum u32Max := by
  rw [attestedWeight_eq, List.map_congr_left fun record hrecord => h.contribution hrecord]

/-- The weight `batch_is_attested` finds. -/
theorem Plain.batchAttestedWeight :
    s.batchAttestedWeight env id sliceId =
      min ((s.attestations.records id).map (plainWeight env slice)).sum u32Max := by
  rw [← Nat.zero_add (List.sum _)]
  refine foldl_eq_min_sum u32Max (fun total htotal record hrecord => ?_) (Nat.zero_le _)
  rw [← h.batchContribution hrecord]
  cases s.batchContribution env id sliceId record with
  | some weight => rfl
  | none => exact (saturatingAdd_zero htotal).symm

end

/-- The weight `verify_attestations_batch` finds, whatever the pair. -/
theorem verifiedWeight_eq (env : Env) (s : State) (id : Nat) (slice : QuorumSlice) :
    s.verifiedWeight env id slice =
      min ((s.attestations.records id).map (plainWeight env slice)).sum u32Max := by
  rw [← Nat.zero_add (List.sum _)]
  refine foldl_eq_min_sum u32Max (fun total htotal record _ => ?_) (Nat.zero_le _)
  unfold plainWeight
  cases record.unexpired env.now with
  | false => exact (saturatingAdd_zero htotal).symm
  | true =>
    by_cases hmember : record.attestor ∈ slice.attestors
    · rw [decide_eq_true hmember]
      rfl
    · rw [decide_eq_false hmember, weightOf_eq_none hmember]
      exact (saturatingAdd_zero htotal).symm

/-! ## One decision -/

section

variable {env : Env} {s : State} {pair : Nat × Nat} {c : Credential} {slice : QuorumSlice}
  (hc : s.registry.credentials pair.1 = some c) (hslice : s.slices.slices pair.2 = some slice)

include hc

/-- A credential out of standing is attested by no decision. -/
theorem decisions_of_outOfStanding
    (hout : (c.revoked || c.suspended || reached env.now c.expiresAt) = true) :
    s.isAttestedUncached env pair.1 pair.2 = .ok false ∧
      s.batchIsAttestedEntry env pair = false ∧ s.verifyAttestationsEntry env pair = false := by
  have hblocked : s.blocked env pair.1 c = true := by
    unfold blocked
    simp only [Bool.or_eq_true] at hout ⊢
    tauto
  refine ⟨?_, ?_, ?_⟩
  · simp only [isAttestedUncached, bind_eq_ok, getCredential_eq_ok]
    exact ⟨c, hc, by rw [if_pos hblocked]; rfl⟩
  · simp only [batchIsAttestedEntry, hc, hout, if_true]
  · simp only [verifyAttestationsEntry, hc, hout, Bool.true_or, if_true]

include hslice

/-- **In a plain pair each decision compares the one sum with the threshold.** -/
theorem decisions_of_plain (hid : slice.id = pair.2)
    (hnested : ∀ k, s.slices.nestedSliceNode k = none)
    (hin : (c.revoked || c.suspended || reached env.now c.expiresAt) = false)
    (h : s.Plain env pair.1 pair.2 slice) :
    let enough := decide (slice.threshold ≤
      min ((s.attestations.records pair.1).map (plainWeight env slice)).sum u32Max)
    s.isAttestedUncached env pair.1 pair.2 = .ok enough ∧
      s.batchIsAttestedEntry env pair = enough ∧ s.verifyAttestationsEntry env pair = enough := by
  have hrequired : s.slices.requiredWeight slice = slice.threshold := by
    rw [SliceBook.requiredWeight, hid, h.absolute]
  obtain ⟨⟨hrevoked, hsuspended⟩, hexpired⟩ :
      (c.revoked = false ∧ c.suspended = false) ∧ reached env.now c.expiresAt = false := by
    simpa only [Bool.or_eq_false_iff] using hin
  have hunblocked : ¬ s.blocked env pair.1 c = true := by
    rw [Bool.not_eq_true, blocked, hrevoked, hsuspended, h.unlocked, hexpired, h.unexpired]
    obtain hflag | hproof := h.nonRevoked
    · rw [hflag]; rfl
    · rw [hproof, Bool.not_true, Bool.and_false]; rfl
  have hintersection : s.intersectionSatisfied env pair.1 = .ok true := by
    have hnone : s.requiresIntersectionVerification pair.1 = false := by
      simp only [requiresIntersectionVerification, hnested, Option.isSome_none,
        Bool.or_eq_false_iff, decide_eq_false_iff_not, not_lt, List.any_eq_false]
      exact ⟨h.single, fun _ _ => Bool.false_ne_true⟩
    rw [intersectionSatisfied, hnone, if_neg Bool.false_ne_true]
  refine ⟨?_, ?_, ?_⟩
  · simp only [isAttestedUncached, bind_eq_ok, getCredential_eq_ok]
    refine ⟨c, hc, ?_⟩
    rw [if_neg hunblocked, bind_eq_ok]
    refine ⟨slice, getSlice_eq_ok.mpr hslice, ?_⟩
    rw [quorumDecision_eq, hintersection, h.attestedWeight, hrequired, h.approved]
    refine congrArg Except.ok ?_
    dsimp only
    rw [Bool.and_true, Bool.and_true]
  · simp only [batchIsAttestedEntry, hc, hin, hslice, Bool.false_eq_true, if_false]
    rw [h.batchAttestedWeight]
  · simp only [verifyAttestationsEntry, hc, hin, hslice, h.unexpired, Bool.or_false,
      Bool.false_eq_true, if_false]
    rw [verifiedWeight_eq, hrequired]

end

/-- A list of 1 to 50 pairs passes the checks of `verify_attestations_batch`. -/
theorem verifyAttestationsBatch_eq {env : Env} {s : State} {pairs : List (Nat × Nat)}
    (hlength : 1 ≤ pairs.length ∧ pairs.length ≤ maxBatchSize) :
    s.verifyAttestationsBatch env (pairs.map (·.1)) (pairs.map (·.2)) =
      .ok (pairs.map (s.verifyAttestationsEntry env)) := by
  have hzip : (pairs.map (·.1)).zip (pairs.map (·.2)) = pairs := by
    rw [List.zip_map', List.map_id']
  simp only [verifyAttestationsBatch, validateArrayBounds, bind_eq_ok, require_eq_ok,
    List.length_map, hzip]
  exact ⟨(), ⟨(), hlength.1, hlength.2⟩, (), trivial, rfl⟩

theorem decisions_of_plainPair {env : Env} {s : State} {pair : Nat × Nat}
    (hregistered : s.slices.Registered) (hnested : ∀ k, s.slices.nestedSliceNode k = none)
    (hcredential : (s.registry.credentials pair.1).isSome = true)
    (hslice : (s.slices.slices pair.2).isSome = true)
    (hcache : s.cache.attestVerifyCache pair = none) (hplain : s.PlainPair env pair) :
    Prod.snd <$> s.isAttested env pair.1 pair.2 = .ok (s.batchIsAttestedEntry env pair) ∧
      s.verifyAttestationsEntry env pair = s.batchIsAttestedEntry env pair := by
  obtain ⟨c, hc⟩ := Option.isSome_iff_exists.mp hcredential
  obtain ⟨slice, hslice⟩ := Option.isSome_iff_exists.mp hslice
  have hlive : s.cache.live env.now pair.1 pair.2 = none := by
    rw [VerificationCache.live, hcache]
  rw [snd_isAttested_eq hlive]
  cases hout : (c.revoked || c.suspended || reached env.now c.expiresAt) with
  | true =>
    obtain ⟨hdecision, hbatch, hverify⟩ := decisions_of_outOfStanding hc hout
    exact ⟨by rw [hdecision, hbatch], by rw [hverify, hbatch]⟩
  | false =>
    have h : s.Plain env pair.1 pair.2 slice :=
      (hplain c hc slice hslice).resolve_left (by rw [hout]; exact Bool.false_ne_true)
    obtain ⟨hdecision, hbatch, hverify⟩ :=
      decisions_of_plain hc hslice (hregistered.id_eq hslice) hnested hout h
    exact ⟨by rw [hdecision, hbatch], by rw [hverify, hbatch]⟩

end State

namespace World

open Sample

/-- **The three decisions agree**, in every state a run reaches, on every list of 1 to 50 plain
pairs of existing credentials and slices without a cached answer. -/
theorem decisions_agree (host : Host) (calls : List Call) (env : Env) (pairs : List (Nat × Nat))
    (hexists : ∀ pair ∈ pairs,
      ((after host calls).state.registry.credentials pair.1).isSome = true ∧
        ((after host calls).state.slices.slices pair.2).isSome = true)
    (hcache : ∀ pair ∈ pairs, (after host calls).state.cache.attestVerifyCache pair = none)
    (hlength : 1 ≤ pairs.length ∧ pairs.length ≤ maxBatchSize)
    (hplain : ∀ pair ∈ pairs, (after host calls).state.PlainPair env pair) :
    (after host calls).state.DecisionsAgree env pairs := by
  obtain ⟨hregistered, hnested⟩ := registered host calls
  have hpair := fun pair (hp : pair ∈ pairs) =>
    State.decisions_of_plainPair hregistered hnested (hexists pair hp).1 (hexists pair hp).2
      (hcache pair hp) (hplain pair hp)
  have hbatch := mapM_eq_ok fun pair hp => (hpair pair hp).1
  have hverify : pairs.map ((after host calls).state.verifyAttestationsEntry env) =
      (after host calls).state.batchIsAttested env pairs :=
    List.map_congr_left fun pair hp => (hpair pair hp).2
  exact ⟨hbatch, by rw [State.verifyAttestationsBatch_eq hlength, hverify, hbatch]; rfl⟩

/-- A credential two members attested, and one that is revoked. -/
theorem decisions_agree_plain :
    ∃ calls env, (after host calls).state.batchIsAttested env [(1, 1), (2, 1)] =
        [true, false] ∧ (after host calls).state.DecisionsAgree env [(1, 1), (2, 1)] :=
  ⟨[initialized, issue admin 1, issue admin 2,
      createSlice [alice, bob] [10, 10] 20,
      attest alice 1 1, attest bob 1 1, revoke 2],
    { host with now := 0, auths := [] }, by decide +kernel,
    decisions_agree _ _ _ _ (by decide +kernel) (by decide +kernel) (by decide)
      (by decide +kernel)⟩

/-- **The decisions disagree on a negative vote**: `verify_attestations_batch` counts it. -/
theorem not_decisions_agree :
    ¬ ∀ (host : Host) (calls : List Call) (env : Env) (pairs : List (Nat × Nat)),
      (∀ pair ∈ pairs, ((after host calls).state.registry.credentials pair.1).isSome = true ∧
        ((after host calls).state.slices.slices pair.2).isSome = true) →
      (∀ pair ∈ pairs, (after host calls).state.cache.attestVerifyCache pair = none) →
      (after host calls).state.DecisionsAgree env pairs := by
  intro h
  let calls := [initialized, issue admin 1,
    createSlice [alice] [10] 10,
    call alice (.attestation (.attest alice 1 1 false none))]
  let env : Env := { host with now := 0, auths := [] }
  have hagree := h host calls env [(1, 1)] (by decide +kernel) (by decide +kernel)
  have hverify := hagree.verify.trans hagree.batch
  exact absurd hverify (by decide +kernel)

end World

end QuorumProof
