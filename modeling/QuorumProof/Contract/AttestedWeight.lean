import Mathlib.Algebra.Order.BigOperators.Group.Finset
import QuorumProof.Lib.Ballot
import QuorumProof.Contract.SliceEffects

/-!
# Contract/AttestedWeight — whose weight makes a credential attested

`is_attested` adds up weights record by record.  An attestor can hold several positive records on a
credential, one for each slice they attested it through and one for each multi-signature request
they initiated, and their weight then counts once for each.  As long as nobody gets a second
positive record, the attested weight is the weight of the distinct attestors
(`attestedWeight_le_distinctWeight`), so a true answer has the required weight behind it.
-/

namespace QuorumProof

open Guarded

namespace State

variable (env : Env)

/-! ## The weight of the distinct attestors -/

variable (s : State) (id sliceId : Nat) (slice : QuorumSlice)

/-- The attestors whose weight counts for a slice: those with a positive record that has not
expired, a captured weight, and no suspension in the slice. -/
def countedAttestors : Finset Address :=
  (s.positiveAttestors env id).toFinset.filter fun a =>
    (s.attestations.attestationWeight (id, sliceId, a)).isSome = true ∧
      s.discipline.isAttestorSuspended sliceId a = false

/-- The captured weight of an attestor, scaled by their reputation where the slice asks for it. -/
def scaledWeight (a : Address) : Nat :=
  let weight := (s.attestations.attestationWeight (id, sliceId, a)).getD 0
  if slice.reputationWeightingEnabled = true then
    weight * (s.discipline.loadOrInitReputation a).score / 100
  else weight

/-- The weight behind a credential, every attestor counted once. -/
def distinctWeight : Nat :=
  ∑ a ∈ s.countedAttestors env id sliceId, s.scaledWeight id sliceId slice a

/-- **A true answer has the required weight of distinct attestors behind it.** -/
def AttestedByDistinct : Prop :=
  s.isAttestedUncached env id sliceId = .ok true →
    ∃ slice, s.slices.slices sliceId = some slice ∧
      s.slices.requiredWeight slice ≤ s.distinctWeight env id sliceId slice

/-! ## Counting records is counting attestors -/

/-- Nobody holds two positive records on one credential. -/
def VotesOnce : Prop :=
  ∀ id, Ballot.Once AttestationRecord.attestor AttestationRecord.attestationValue
    (s.attestations.records id)

/-- What an attestor adds when one of their records counts. -/
def voterWeight (a : Address) : Option Nat :=
  match s.recordWeight id sliceId slice a with
  | some weight =>
    if s.discipline.isAttestorSuspended sliceId a = true then none
    else some (s.effectiveWeight slice a weight)
  | none => none

theorem attestedWeight_le_sum :
    s.attestedWeight env id sliceId slice ≤
      ((s.attestations.records id).map fun record =>
        if record.attestationValue && record.unexpired env.now then
          (s.voterWeight id sliceId slice record.attestor).getD 0
        else 0).sum := by
  rw [attestedWeight_eq]
  refine (Nat.min_le_left _ _).trans (le_of_eq (congrArg List.sum (List.map_congr_left ?_)))
  intro record _
  unfold contribution
  split <;> rfl

/-- In a slice with a threshold type only a captured weight counts, and scaling in `u32` loses at
most what the scaled weight has beyond `u32`. -/
theorem voterWeight_le {s : State} {id sliceId : Nat} {slice : QuorumSlice}
    (htyped : (s.slices.sliceThresholdType sliceId).isSome = true) (a : Address) :
    (s.voterWeight id sliceId slice a).getD 0 ≤
      if (s.attestations.attestationWeight (id, sliceId, a)).isSome = true ∧
          s.discipline.isAttestorSuspended sliceId a = false then
        s.scaledWeight id sliceId slice a
      else 0 := by
  have hnotnone : (s.slices.sliceThresholdType sliceId).isNone = false := by
    rw [← Option.not_isSome, htyped]
    rfl
  unfold voterWeight recordWeight scaledWeight effectiveWeight
  rw [hnotnone]
  cases hweight : s.attestations.attestationWeight (id, sliceId, a) with
  | none => simp
  | some weight =>
    cases hsuspended : s.discipline.isAttestorSuspended sliceId a with
    | true => simp
    | false =>
      simp only [Bool.false_eq_true, if_false, Option.isSome_some, and_self, if_true,
        Option.getD_some]
      split
      · exact Nat.mod_le _ _
      · exact le_rfl

/-- **Where nobody holds two positive records, the attested weight is at most the weight of the
distinct attestors.** -/
theorem attestedWeight_le_distinctWeight {s : State} {id sliceId : Nat} {slice : QuorumSlice}
    (honce : s.VotesOnce) (htyped : (s.slices.sliceThresholdType sliceId).isSome = true) :
    s.attestedWeight env id sliceId slice ≤ s.distinctWeight env id sliceId slice := by
  have hsum := (honce id).sum_eq (fun record => record.attestationValue && record.unexpired env.now)
    (fun _ h => (Bool.and_eq_true_iff.mp h).1) fun a => (s.voterWeight id sliceId slice a).getD 0
  calc s.attestedWeight env id sliceId slice
      ≤ _ := attestedWeight_le_sum env s id sliceId slice
    _ = ∑ a ∈ (s.positiveAttestors env id).toFinset, (s.voterWeight id sliceId slice a).getD 0 :=
      hsum
    _ ≤ _ := Finset.sum_le_sum fun a _ => voterWeight_le htyped a
    _ = s.distinctWeight env id sliceId slice := (Finset.sum_filter _ _).symm

theorem attestedByDistinct_of_votesOnce {s : State} (honce : s.VotesOnce)
    (hregistered : s.slices.Registered) (id sliceId : Nat) :
    s.AttestedByDistinct env id sliceId := by
  intro htrue
  simp only [isAttestedUncached, bind_eq_ok, getCredential_eq_ok] at htrue
  obtain ⟨c, -, hdecision⟩ := htrue
  split at hdecision
  next => exact absurd (pure_eq_ok.mp hdecision) Bool.false_ne_true
  next =>
    obtain ⟨slice, hslice, hquorum⟩ := bind_eq_ok.mp hdecision
    rw [getSlice_eq_ok] at hslice
    rw [quorumDecision_eq, map_eq_ok] at hquorum
    obtain ⟨satisfied, -, hanswer⟩ := hquorum
    rw [Bool.and_eq_true_iff, Bool.and_eq_true_iff, decide_eq_true_eq] at hanswer
    exact ⟨slice, hslice, hanswer.1.1.trans
      (attestedWeight_le_distinctWeight env honce (hregistered.typed hslice))⟩

/-! ## Who gets a second record -/

/-- An attestor holds a positive record on a credential. -/
def HasVoted (a : Address) : Prop :=
  ∃ record ∈ s.attestations.records id, record.attestor = a ∧ record.attestationValue = true
  deriving Decidable

/-- A positive attestation is made for a member without a positive record on the credential. -/
def FirstVote (attestor : Address) (id sliceId : Nat) (value : Bool) : Prop :=
  value = true → ∀ a ∈ s.voter env attestor sliceId, ¬ s.HasVoted id a
  deriving Decidable

/-- Every queue entry that is processed is a first vote when its turn comes. -/
def FirstVotes (env : Env) : State → List Nat → Prop
  | _, [] => True
  | s, entryId :: rest =>
    (∀ entry ∈ s.attestations.attestationQueueEntry entryId,
      s.FirstVote env entry.attestor entry.credentialId entry.sliceId entry.attestationValue) ∧
    match s.processQueueEntry env entryId with
    | .ok s' => FirstVotes env s' rest
    | .error _ => True

instance FirstVotes.decidable (env : Env) :
    ∀ (s : State) (entryIds : List Nat), Decidable (s.FirstVotes env entryIds)
  | _, [] => .isTrue trivial
  | s, entryId :: rest =>
    @instDecidableAnd _ _ inferInstance
      (match s.processQueueEntry env entryId with
      | .ok s' => FirstVotes.decidable env s' rest
      | .error _ => .isTrue trivial)

variable {s s' : State}

/-- Records other than the credential's are not touched by storing the credential's. -/
theorem VotesOnce.setRecords (h : s.VotesOnce) {id : Nat} {records : List AttestationRecord}
    (hattestors : s'.attestations.attestors = (s.attestations.setRecords id records).attestors)
    (hrecords : Ballot.Once AttestationRecord.attestor AttestationRecord.attestationValue
      records) : s'.VotesOnce := by
  intro id'
  rw [AttestationBook.records_congr hattestors, AttestationBook.records_setRecords]
  split
  · exact hrecords
  · exact h id'

theorem VotesOnce.append (h : s.VotesOnce) {id : Nat} {record : AttestationRecord}
    (hattestors : s'.attestations.attestors = (s.attestations.appendRecord id record).attestors)
    (hnew : record.attestationValue = true → ¬ s.HasVoted id record.attestor) :
    s'.VotesOnce :=
  h.setRecords hattestors ((h id).append fun hvalue other hother hpositive heq =>
    hnew hvalue ⟨other, hother, heq, hpositive⟩)

theorem VotesOnce.congr (h : s.VotesOnce)
    (hattestors : s'.attestations.attestors = s.attestations.attestors) : s'.VotesOnce := by
  rw [VotesOnce, AttestationBook.records_congr hattestors]
  exact h

/-- **A first vote keeps everybody at one.** -/
theorem Attests.votesOnce {env : Env} {attestor resolved : Address} {id sliceId weight : Nat}
    {value : Bool} {expiresAt : Option Nat}
    (h : Attests env s attestor id sliceId value expiresAt resolved weight s')
    (hfirst : s.FirstVote env attestor id sliceId value) (honce : s.VotesOnce) : s'.VotesOnce :=
  honce.append h.attestors fun hvalue => hfirst hvalue resolved h.voter

theorem processQueue_votesOnce (entryIds : List Nat) (s : State)
    (hfirst : s.FirstVotes env entryIds) (honce : s.VotesOnce) :
    Ensures (entryIds.foldlM (processQueueEntry env) s) VotesOnce := by
  induction entryIds generalizing s with
  | nil => exact ensures_pure.mpr honce
  | cons entryId rest ih =>
    rw [List.foldlM_cons, ensures_bind]
    intro s' hs'
    obtain ⟨entry, resolved, weight, hentry, hattested⟩ :=
      processQueueEntry_attests env s entryId s' hs'
    obtain ⟨hvote, hrest⟩ := hfirst
    rw [hs'] at hrest
    exact ih s' hrest (hattested.votesOnce (hvote entry hentry) honce)

end State

/-! ## Whole runs -/

open State in
/-- The operations that give nobody a second positive record on a credential: `attest` and every
processed queue entry vote for a member without one, and a request that the signature executes was
initiated by somebody without one. -/
def Op.VotesFirst (env : Env) (s : State) : Op → Prop
  | attestation (.attest attestor id sliceId value _) => s.FirstVote env attestor id sliceId value
  | attestation (.signAttestationRequest _ requestId) =>
    ∀ request ∈ s.attestations.attestationRequest requestId, completes request →
      request.attestationValue = true → ¬ s.HasVoted request.credentialId request.initiator
  | attestation (.processAttestationQueue _ maxEntries) =>
    ∀ s₁ ∈ (s.enforceWriteLimit env).toOption,
      s₁.FirstVotes env (((sortQueue s.queuedEntries).take (min maxEntries 50)).map (·.2.2))
  | _ => True

instance (env : Env) (s : State) (op : Op) : Decidable (op.VotesFirst env s) := by
  unfold Op.VotesFirst
  split <;> infer_instance

namespace State

/-- Nobody holds two positive records, and no fork is on record. -/
structure Tallied (s : State) : Prop where
  votesOnce : s.VotesOnce
  unforked : ∀ k, s.attestations.forkInfo k = none

theorem Thins.votesOnce {s s' : State} (hthins : Thins s s') (h : s.Tallied) : s'.VotesOnce := by
  intro id
  obtain ⟨keeps, f, heq, hattestor, hvalue⟩ := hthins id
  rw [heq]
  exact ((h.votesOnce id).sublist List.filter_sublist).map hattestor (hvalue h.unforked)

theorem empty_tallied : empty.Tallied := ⟨fun _ => Ballot.once_nil, fun _ => rfl⟩

/-- Attesting gives nobody a second vote. -/
theorem attestationOp_votesOnce (env : Env) {s : State} {op : AttestationOp}
    (hattests : op.attests = true) (hop : Op.VotesFirst env s (.attestation op))
    (honce : s.VotesOnce) : Ensures (op.apply env s) VotesOnce := by
  cases op
  case attest attestor id sliceId value expiresAt =>
    refine ensures_map.mpr ((attest_attests env s attestor id sliceId value expiresAt).mono ?_)
    rintro _ ⟨resolved, weight, h⟩
    exact h.votesOnce hop honce
  case batchAttest attestor ids sliceId value expiresAt =>
    refine ensures_map.mpr fun r hr => ?_
    obtain ⟨-, control, resolved, -, hloop⟩ :=
      batchAttest_effect env s attestor ids sliceId value expiresAt r hr
    refine ensures_foldlM_invariant (I := VotesOnce) (fun id _ u hu => ?_)
      (honce.congr (by rfl)) _ hloop
    refine (batchAttestEntry_attests env sliceId resolved value expiresAt u id).mono fun _ h => ?_
    refine hu.append h.attestors fun _ hvoted => ?_
    obtain ⟨record, hrecord, hattestor, -⟩ := hvoted
    exact h.unattested record hrecord hattestor
  case signAttestationRequest signer requestId =>
    refine ensures_map.mpr ((signAttestationRequest_effect env s signer requestId).mono ?_)
    rintro r ⟨control, request, signed, hrequest, rfl, heffect⟩
    split at heffect
    next hcompletes =>
      have hattestors : r.1.attestations.attestors = (s.attestations.appendRecord
          request.credentialId
          (.made env request.initiator request.attestationValue none)).attestors := by
        rw [heffect, executeAttestationRequest_attestations]
        rfl
      exact honce.append hattestors (hop request hrequest hcompletes)
    next =>
      rw [heffect]
      exact honce.congr rfl
  case processAttestationQueue caller maxEntries =>
    simp only [AttestationOp.apply, ensures_steps, processAttestationQueue]
    intro _ s₁ hs₁
    have hguard : Ensures (s.enforceWriteLimit env) fun u => u.attestations = s.attestations := by
      simp
    have hsame : s₁.attestations = s.attestations := hguard s₁ hs₁
    have hqueued : s₁.queuedEntries = s.queuedEntries := by
      rw [queuedEntries, hsame]
      rfl
    rw [hqueued]
    exact processQueue_votesOnce env _ s₁ (hop s₁ (by rw [hs₁]; rfl))
      (honce.congr (congrArg AttestationBook.attestors hsame))
  all_goals cases hattests

end State

open State in
/-- **The tally stays right**, one operation at a time. -/
theorem Op.tallied (env : Env) {s : State} {op : Op} (hop : op.VotesFirst env s)
    (h : s.Tallied) : Ensures (op.apply env s) Tallied := by
  have hvotes : Ensures (op.apply env s) VotesOnce := by
    cases hattests : op.attests with
    | false => exact (op.thins env s hattests).mono fun _ hthins => hthins.votesOnce h
    | true =>
      cases op with
      | attestation op => exact attestationOp_votesOnce env hattests hop h.votesOnce
      | _ => cases hattests
  intro s' hs'
  exact ⟨hvotes s' hs', fun k =>
    (congrFun (Op.forkInfo env s op s' hs') k).trans (h.unforked k)⟩

namespace World

open Sample

/-- **A true answer has the required weight of distinct attestors behind it**, in every run whose
operations give nobody a second positive record on a credential. -/
theorem attested_by_distinct (host : Host) (calls : List Call)
    (h : Machine.Along (next host) (fun w call => call.op.VotesFirst (w.env host call) w.state)
      deployed calls) :
    ∀ env id sliceId, (after host calls).state.AttestedByDistinct env id sliceId := by
  have htallied : (after host calls).state.Tallied :=
    h.invariant (I := fun w : World => w.state.Tallied)
      (fun w call hw hop => next_of_ensures (Op.tallied (w.env host call) hop hw) hw)
      State.empty_tallied
  intro env id sliceId
  exact State.attestedByDistinct_of_votesOnce env htallied.votesOnce
    (registered host calls).1 id sliceId

/-- Two members of a slice attest a credential, which is then attested by both their weights. -/
theorem attested_by_distinct_two :
    ∃ calls env, (after host calls).state.isAttestedUncached env 1 1 = .ok true ∧
      (after host calls).state.AttestedByDistinct env 1 1 :=
  ⟨[initialized, issue admin 1,
      createSlice [alice, bob] [10, 10] 20,
      attest alice 1 1, attest bob 1 1],
    { host with now := 0, auths := [] }, by decide +kernel,
    attested_by_distinct _ _ (by decide) _ 1 1⟩

/-- **An attestor of two slices counts twice**: attesting through both, they reach a threshold of 20
in the first with a captured weight of 10.  The intersection looks at current weights, so a raised
weight satisfies it. -/
theorem not_attested_by_distinct :
    ¬ ∀ (host : Host) (calls : List Call) (env : Env) (id sliceId : Nat),
      (after host calls).state.AttestedByDistinct env id sliceId := by
  intro h
  let calls := [initialized, issue admin 1,
    createSlice [alice, bob] [10, 10] 20,
    createSlice [alice] [10] 10,
    attest alice 1 1, attest alice 1 2,
    call admin (.slice (.updateAttestorWeight admin 1 alice 20))]
  let env : Env := { host with now := 0, auths := [] }
  have htrue : (after host calls).state.isAttestedUncached env 1 1 = .ok true := by
    decide +kernel
  have hrequired : ∀ slice ∈ (after host calls).state.slices.slices 1,
      (after host calls).state.distinctWeight env 1 1 slice <
        (after host calls).state.slices.requiredWeight slice := by decide +kernel
  obtain ⟨slice, hslice, hreached⟩ := h host calls env 1 1 htrue
  exact absurd hreached (Nat.not_le.mpr (hrequired slice hslice))

end World

end QuorumProof
