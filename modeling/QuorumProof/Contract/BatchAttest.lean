import QuorumProof.Contract.Footprint

/-!
# Contract/BatchAttest — a batch of attestations against single ones

`batch_attest` is `attest` written out a second time, but captures no weight: no list of credentials
leaves the same attestation storage either way.
-/

namespace QuorumProof

open Guarded

namespace State

variable (env : Env) (s : State) (attestor : Address) (ids : List Nat) (sliceId : Nat)
  (value : Bool)

/-- One `attest` for every credential of a list, at one ledger time. -/
def attestEach (expiresAt : Option Nat) : Except Fault State :=
  ids.foldlM (fun s id => Prod.fst <$> s.attest env attestor id sliceId value expiresAt) s

/-- The attestation storage of two states is the same, and so are the decisions made from it. -/
structure SameAttestations (s s' : State) : Prop where
  attestors : s.attestations.attestors = s'.attestations.attestors
  attestationWeight : s.attestations.attestationWeight = s'.attestations.attestationWeight
  credentialSlices : s.attestations.credentialSlices = s'.attestations.credentialSlices
  credentialAttestationCount :
    s.attestations.credentialAttestationCount = s'.attestations.credentialAttestationCount
  attestorReputation : s.discipline.attestorReputation = s'.discipline.attestorReputation
  decision : ∀ env id sliceId,
    Prod.snd <$> s.isAttested env id sliceId = Prod.snd <$> s'.isAttested env id sliceId

/-- **A batch does what single attestations do**: it succeeds only where each of them would, and
leaves the same attestation storage. -/
def BatchIsEach (expiresAt : Option Nat) : Prop :=
  ∀ s₁, s.batchAttest env attestor ids sliceId value expiresAt = .ok (s₁, ()) →
    ∃ s₂, s.attestEach env attestor ids sliceId value expiresAt = .ok s₂ ∧ SameAttestations s₁ s₂

theorem attestStep_attests (id sliceId : Nat) (value : Bool) (expiresAt : Option Nat) :
    Ensures (Prod.fst <$> s.attest env attestor id sliceId value expiresAt) fun s' =>
      ∃ resolved weight, Attests env s attestor id sliceId value expiresAt resolved weight s' :=
  ensures_map.mpr (attest_attests env s attestor id sliceId value expiresAt)

/-! ## Where they part

The captured weights tell them apart: `attest` captures one and a batch captures none. -/

/-- A batch captures no weight. -/
theorem batchAttest_attestationWeight (expiresAt : Option Nat) :
    Ensures (s.batchAttest env attestor ids sliceId value expiresAt) fun r =>
      r.1.attestations.attestationWeight = s.attestations.attestationWeight := by
  intro r hr
  obtain ⟨-, control, resolved, -, hbatch⟩ :=
    batchAttest_effect env s attestor ids sliceId value expiresAt r hr
  have hloop := ensures_foldlM (l := ids)
    (R := fun u v : State => v.attestations.attestationWeight = u.attestations.attestationWeight)
    (fun _ => rfl) (fun h h' => h'.trans h)
    (fun id _ u => (batchAttestEntry_attests env sliceId resolved value expiresAt u id).mono
      fun _ hentry => hentry.attestationWeight)
    { s with control := control }
  exact hloop r.1 hbatch

/-- A captured weight stays captured. -/
theorem attestEach_captured (expiresAt : Option Nat) (key : Nat × Nat × Address) :
    Ensures (s.attestEach env attestor ids sliceId value expiresAt) fun s' =>
      (s.attestations.attestationWeight key).isSome = true →
        (s'.attestations.attestationWeight key).isSome = true := by
  refine ensures_foldlM
    (R := fun u v : State => (u.attestations.attestationWeight key).isSome = true →
      (v.attestations.attestationWeight key).isSome = true)
    (fun _ h => h) (fun h h' hcaptured => h' (h hcaptured)) (fun id _ u => ?_) s
  refine (attestStep_attests env u attestor id sliceId value expiresAt).mono ?_
  rintro v ⟨resolved, weight, hattested⟩ hcaptured
  rw [hattested.attestationWeight, Store.set_apply]
  split
  · rfl
  · exact hcaptured

/-- **A batch that succeeds never does what single attestations do**: either one of them fails, or
they capture a weight for the first credential that the batch does not. -/
theorem batchAttest_ne_attestEach {env : Env} {s : State} {attestor : Address} {ids : List Nat}
    {sliceId : Nat} {value : Bool} {expiresAt : Option Nat}
    (h : (s.batchAttest env attestor ids sliceId value expiresAt).isOk = true) :
    ¬ s.BatchIsEach env attestor ids sliceId value expiresAt := by
  intro hsame
  obtain ⟨⟨s₁, u⟩, h₁⟩ : ∃ r, s.batchAttest env attestor ids sliceId value expiresAt = .ok r := by
    cases hbatch : s.batchAttest env attestor ids sliceId value expiresAt with
    | ok r => exact ⟨r, rfl⟩
    | error fault =>
      rw [hbatch] at h
      exact absurd h Bool.false_ne_true
  obtain ⟨s₂, h₂, hstorage⟩ := hsame s₁ h₁
  obtain ⟨hids, -⟩ := batchAttest_effect env s attestor ids sliceId value expiresAt _ h₁
  obtain ⟨id, rest, rfl⟩ := List.exists_cons_of_ne_nil hids
  have hweights := batchAttest_attestationWeight env s attestor _ sliceId value expiresAt _ h₁
  rw [attestEach, List.foldlM_cons, bind_eq_ok] at h₂
  obtain ⟨s', hfirst, hrest⟩ := h₂
  obtain ⟨resolved, weight, hattested⟩ :=
    attestStep_attests env s attestor id sliceId value expiresAt s' hfirst
  have hcaptured : (s₂.attestations.attestationWeight (id, sliceId, resolved)).isSome = true := by
    refine attestEach_captured env s' attestor rest sliceId value expiresAt _ s₂ hrest ?_
    rw [hattested.attestationWeight, Store.set_self]
    rfl
  rw [← hstorage.attestationWeight, hweights, hattested.uncaptured] at hcaptured
  exact absurd hcaptured Bool.false_ne_true

/-! ## Batches of two and of one -/

/-- Two credentials and a slice of one attestor, who has not attested yet. -/
def batchSample : State :=
  (World.after Sample.host
    [Sample.initialized, Sample.issue Sample.bob 1, Sample.issue Sample.bob 2,
      Sample.createSlice [Sample.alice] [10] 10]).state

theorem batchAttest_ne_attestEach_two :
    ¬ batchSample.BatchIsEach { Sample.host with now := 0, auths := [Sample.alice] } Sample.alice
      [1, 2] 1 true none :=
  batchAttest_ne_attestEach (by decide)

/-- **A batch of distinct credentials does not do what single attestations do**: a batch of one
succeeds, and `is_attested` then answers false where it answers true after the single one. -/
theorem not_batchIsEach :
    ¬ ∀ (host : Host) (calls : List Call) (env : Env) (attestor : Address) (ids : List Nat)
      (sliceId : Nat) (value : Bool) (expiresAt : Option Nat),
      (World.after host calls).time ≤ env.now → ids.Nodup →
        (World.after host calls).state.BatchIsEach env attestor ids sliceId value expiresAt := by
  intro h
  let env : Env := { Sample.host with now := 0, auths := [Sample.alice] }
  have hbatch := h Sample.host
    [Sample.initialized, Sample.issue Sample.bob 1, Sample.createSlice [Sample.alice] [10] 10]
    env Sample.alice [1] 1 true none (by decide) (by decide)
  obtain ⟨s₂, hsingle, hsame⟩ := hbatch _ rfl
  obtain rfl := Except.ok.inj hsingle
  have hdecision := hsame.decision env 1 1
  exact absurd (Except.ok.inj hdecision) (by decide)

end State

end QuorumProof
