import QuorumProof.Contract.DecisionInputs

/-!
# Contract/CacheGuards — which operations outdate a cached answer

An operation that changes an input of the attestation decision is meant to remove the cached answers
that depend on it.  `Guards P s s'` says that it did, for the pairs of a credential and a slice that
`P` holds of.  The operations on credentials guard every pair.  Those on slices, attestations and
attestors do not: `Op.Spares` says of which pairs they do.
-/

namespace QuorumProof

open Guarded

namespace State

/-! ## Guards -/

/-- **An operation guards the pairs `P` holds of**: a cached answer about one is removed, or stays
with the inputs it was computed from.  The counters are not put back. -/
structure Guards (P : Nat → Nat → Prop) (s s' : State) : Prop where
  credentialCount_le : s.registry.credentialCount ≤ s'.registry.credentialCount
  sliceCount_le : s.slices.sliceCount ≤ s'.slices.sliceCount
  answers : s.KeepsAnswers s' fun id sliceId => P id sliceId → s.SameInputs s' id sliceId

variable {s s' s'' : State} {id sliceId : Nat}

/-- The attestations stay. -/
theorem dossier_eq (hregistry : s'.registry = s.registry) (h : s'.attestations = s.attestations)
    (id : Nat) : s'.dossier id = s.dossier id := by
  simp only [dossier, verifyNonRevocation, isMultisigApproved, hregistry, h]

/-- The records of another credential are rewritten. -/
theorem dossier_eq_of_setRecords (hregistry : s'.registry = s.registry) {id₀ : Nat}
    {records : List AttestationRecord} (hid : id ≠ id₀)
    (h : s'.attestations = s.attestations.setRecords id₀ records) :
    s'.dossier id = s.dossier id := by
  simp only [dossier, verifyNonRevocation, isMultisigApproved, hregistry, h,
    AttestationBook.records_setRecords, if_neg hid]
  rfl

variable {P : Nat → Nat → Prop}

theorem Guards.mono {P' : Nat → Nat → Prop} (h : Guards P s s')
    (hP : ∀ id sliceId, P' id sliceId → P id sliceId) : Guards P' s s' :=
  ⟨h.credentialCount_le, h.sliceCount_le,
    h.answers.mono fun id sliceId _ hsame hpair => hsame (hP id sliceId hpair)⟩

/-- The inputs of a decision, when the credentials and the slices stay. -/
theorem SameInputs.of_attestations (hframe : AttestationFrame s s')
    (h : s'.dossier id = s.dossier id) (hattestors : s.SameAttestors s' id sliceId) :
    s.SameInputs s' id sliceId where
  standing := by rw [hframe.registry]
  dossier := h
  slices _ _ := by rw [hframe.slices]
  types _ _ := by rw [hframe.slices]
  nested := by rw [hframe.slices]
  attestors := hattestors

/-- The inputs of a decision, when the slices and the attestors stay. -/
theorem SameInputs.of_standing (hslices : s'.slices = s.slices)
    (hattestations : s'.attestations =
      { s.attestations with bbsCredentialFlag := s'.attestations.bbsCredentialFlag })
    (hdiscipline : s'.discipline = s.discipline) (h : s.SameStanding s' id) :
    s.SameInputs s' id sliceId where
  standing := h.1
  dossier := by
    simp only [State.dossier, verifyNonRevocation, isMultisigApproved_eq, h.1, h.2]
    rw [hattestations]
    rfl
  slices _ _ := by rw [hslices]
  types _ _ := by rw [hslices]
  nested := by rw [hslices]
  attestors := .of_eq hdiscipline id sliceId

/-- **The operations on credentials guard every pair.** -/
theorem StandingFrame.guards_all (h : StandingFrame s s') (hslices : s'.slices = s.slices)
    (hattestations : s'.attestations =
      { s.attestations with bbsCredentialFlag := s'.attestations.bbsCredentialFlag })
    (hdiscipline : s'.discipline = s.discipline) (P : Nat → Nat → Prop) : Guards P s s' where
  credentialCount_le := h.count_le
  sliceCount_le := h.sliceCount.ge
  answers := h.guards.mono fun _ _ _ hstanding _ =>
    .of_standing hslices hattestations hdiscipline hstanding

/-- The control record is no input. -/
theorem Guards.of_control {control : Control} (h : Guards P { s with control := control } s') :
    Guards P s s' where
  credentialCount_le := h.credentialCount_le
  sliceCount_le := h.sliceCount_le
  answers := by
    intro id sliceId
    have hsame : s.SameInputs { s with control := control } id sliceId :=
      .of_attestations ⟨rfl, rfl, rfl⟩ rfl (.of_eq (by rfl) id sliceId)
    exact (h.answers id sliceId).imp_right fun hkept =>
      ⟨hkept.1, fun hcounted hpair => hsame.trans (hkept.2 hcounted hpair)⟩

/-- An operation on attestations or attestors that leaves the cache. -/
theorem Guards.of_cache (hframe : AttestationFrame s s') (hcache : s'.cache = s.cache)
    (h : ∀ id sliceId, P id sliceId →
      s'.dossier id = s.dossier id ∧ s.SameAttestors s' id sliceId) : Guards P s s' where
  credentialCount_le := by rw [hframe.registry]
  sliceCount_le := by rw [hframe.slices]
  answers := .of_cache hcache fun id sliceId _ hP =>
    .of_attestations hframe (h id sliceId hP).1 (h id sliceId hP).2

/-- An operation that removes the answers about the credential it writes. -/
theorem Guards.of_invalidateCredential {id₀ : Nat} (hframe : AttestationFrame s s')
    (hcache : s'.cache = s.cache.invalidateCredential s.slices.sliceCount id₀)
    (h : ∀ id sliceId, id ≠ id₀ → P id sliceId →
      s'.dossier id = s.dossier id ∧ s.SameAttestors s' id sliceId) : Guards P s s' where
  credentialCount_le := by rw [hframe.registry]
  sliceCount_le := by rw [hframe.slices]
  answers := .of_invalidateCredential hcache fun id sliceId hne hP =>
    .of_attestations hframe (h id sliceId hne hP).1 (h id sliceId hne hP).2

/-! ## Attestors -/

/-- What is known of attestors is written, and nothing else. -/
theorem Guards.of_discipline {control : Control} {d : Discipline} (h : ∀ id sliceId, P id sliceId →
      s.SameAttestors { s with control := control, discipline := d } id sliceId) :
    Guards P s { s with control := control, discipline := d } :=
  .of_cache ⟨rfl, rfl, rfl⟩ rfl fun id sliceId hP => ⟨rfl, h id sliceId hP⟩

/-- Suspensions change in a slice that the decision does not read. -/
theorem SameAttestors.of_suspension {k : Nat} (hreads : ¬ s.Reads id sliceId k)
    (hsuspended : ∀ k' ≠ k, ∀ a,
      s'.discipline.suspendedAttestor (k', a) = s.discipline.suspendedAttestor (k', a))
    (hreputation : s'.discipline.attestorReputation = s.discipline.attestorReputation) :
    s.SameAttestors s' id sliceId := by
  refine ⟨fun k' hk' a => ?_, fun _ a => ?_⟩
  · have hne : k' ≠ k := fun heq => hreads (heq ▸ hk')
    rw [Discipline.isAttestorSuspended, hsuspended k' hne]
    rfl
  · rw [Discipline.loadOrInitReputation, hreputation]
    rfl

theorem LeavesAttestors.guards (h : LeavesAttestors s s') (hframe : AttestationFrame s s')
    (P : Nat → Nat → Prop) : Guards P s s' := by
  refine .of_cache hframe h.cache fun id sliceId _ =>
    ⟨dossier_eq hframe.registry h.attestations id, fun _ _ _ => ?_, fun _ _ => ?_⟩
  · rw [Discipline.isAttestorSuspended, h.punishments.1]
    rfl
  · rw [Discipline.loadOrInitReputation, h.attestorReputation]
    rfl

/-- An upheld challenge removes the answers about its credential, and otherwise matters where the
slice of the challenge is read, or reputations are. -/
def SparedByUpholding (s : State) (id sliceId : Nat) (challenge : Challenge) : Prop :=
  id = challenge.credentialId ∨ ¬ s.Reads id sliceId challenge.sliceId ∧ ¬ s.ScalesWeights sliceId
  deriving Decidable

variable {env : Env}

theorem Upholds.guards {challenge : Challenge} (h : Upholds env s challenge s')
    (hframe : AttestationFrame s s') :
    Guards (fun id sliceId => s.SparedByUpholding id sliceId challenge) s s' := by
  refine .of_invalidateCredential hframe h.cache fun id sliceId hid hspared =>
    ⟨dossier_eq_of_setRecords hframe.registry hid h.attestations, ?_⟩
  obtain ⟨hreads, hscales⟩ := hspared.resolve_left hid
  refine ⟨fun k hk a => ?_, fun h => absurd h hscales⟩
  have hne : (k, a) ≠ (challenge.sliceId, challenge.accused) := by
    rintro heq
    obtain ⟨rfl, -⟩ := Prod.mk.inj heq
    exact hreads hk
  rw [Discipline.isAttestorSuspended, h.punishes.suspendedAttestor _ hne]
  rfl

/-- The vote that is cast completes the weight that upholds the challenge. -/
def voteUpholds (s : State) (voter : Address) (challenge : Challenge) (uphold : Bool) : Prop :=
  ∃ slice, s.slices.slices challenge.sliceId = some slice ∧
    s.slices.requiredWeight slice ≤ slice.weightedSum
      (if uphold = true then challenge.upholdVotes ++ [voter] else challenge.upholdVotes)
  deriving Decidable

/-- Resolving the challenge in its last round upholds it. -/
def roundUpholds (s : State) (challenge : Challenge) : Prop :=
  ∃ slice, s.slices.slices challenge.sliceId = some slice ∧
    slice.weightedSum challenge.dismissVotes ≤ slice.weightedSum challenge.upholdVotes
  deriving Decidable

end State

open State in
/-- The pairs an operation on attestors guards. -/
def DisciplineOp.Spares (s : State) (id sliceId : Nat) : DisciplineOp → Prop
  | suspendAttestor _ k _ | resumeAttestor _ k _ | slashAttestor _ k _ => ¬ s.Reads id sliceId k
  | voteOnChallenge voter challengeId uphold =>
    ∀ challenge ∈ s.discipline.challenge challengeId,
      s.voteUpholds voter challenge uphold → s.SparedByUpholding id sliceId challenge
  | advanceChallengeRound _ challengeId =>
    ∀ challenge ∈ s.discipline.challenge challengeId,
      s.roundUpholds challenge → s.SparedByUpholding id sliceId challenge
  | _ => True

instance (s : State) (id sliceId : Nat) (op : DisciplineOp) :
    Decidable (op.Spares s id sliceId) := by
  unfold DisciplineOp.Spares
  split <;> infer_instance

namespace State

variable {s s' : State}

/-- What an operation spares when it upholds a challenge. -/
theorem ChallengeStep.spared {op : DisciplineOp} {write : ChallengeWrite}
    (h : ChallengeStep env s op write) (hupheld : write.challenge.status = .upheld)
    {id sliceId : Nat} (hspares : op.Spares s id sliceId) :
    s.SparedByUpholding id sliceId write.challenge := by
  cases h with
  | opens hopened _ => exact absurd (hopened.symm.trans hupheld) (by decide)
  | @votes voter challengeId uphold c slice hopen hmay =>
    have hreached := SliceBook.outcome_eq_upheld_iff.mp hupheld
    rw [Challenge.cast_upholdVotes] at hreached
    have hspared := hspares c hopen.stored ⟨slice, hopen.slice, hreached⟩
    simpa only [SparedByUpholding, Challenge.cast_credentialId, Challenge.cast_sliceId]
      using hspared
  | documents hopen | advances hopen _ _ =>
    exact absurd (hopen.opened.symm.trans hupheld) (by decide)
  | @concludes caller challengeId c slice hopen _ _ =>
    exact hspares c hopen.stored ⟨slice, hopen.slice, QuorumSlice.verdict_eq_upheld_iff.mp hupheld⟩

theorem DisciplineStep.guards {op : DisciplineOp} (h : DisciplineStep env s s' op) :
    Guards (fun id sliceId => op.Spares s id sliceId) s s' := by
  cases h with
  | suspended _ _ _ h | slashed _ _ h =>
    subst h
    exact .of_discipline fun _ _ hreads => .of_suspension hreads
      (fun k hk a => Store.set_of_ne fun heq => hk (congrArg Prod.fst heq)) rfl
  | resumed h =>
    subst h
    exact .of_discipline fun _ _ hreads => .of_suspension hreads
      (fun k hk a => Store.remove_of_ne fun heq => hk (congrArg Prod.fst heq)) rfl
  | configured _ h =>
    subst h
    exact .of_discipline fun _ _ _ => ⟨fun _ _ _ => rfl, fun _ _ => rfl⟩
  | deposited h | withdrawn _ h | collected h =>
    subst h
    refine .of_discipline fun _ _ _ => ⟨fun _ _ _ => rfl, fun _ a => ?_⟩
    simp only [Discipline.loadOrInitReputation, Discipline.setReputation, Store.set_apply]
    split
    next heq => rw [heq]; rfl
    next => rfl
  | @challenged _ write hstep hrecords =>
    by_cases hupheld : write.challenge.status = .upheld
    · exact ((hrecords.upheld hupheld).guards hrecords.frame).mono fun _ _ =>
        hstep.spared hupheld
    · exact (hrecords.kept hupheld).guards hrecords.frame _

end State

/-! ## Slices -/

/-- The pairs an operation on slices guards: those of the slice it removes the answers about, and
those whose decision does not read the slice it writes. -/
def SliceOp.Spares (s : State) (id sliceId : Nat) (op : SliceOp) : Prop :=
  op.invalidated = some sliceId ∨ ∀ k ∈ op.written s, ¬ s.Reads id sliceId k
  deriving Decidable

namespace State

theorem SliceStep.sameInputs {guarded : Bool} {s s' : State} {op : SliceOp} (h : SliceStep op s s')
    (hframe : SliceFrame env guarded s s') {id sliceId : Nat}
    (hwritten : ∀ k ∈ op.written s, ¬ s.Reads id sliceId k) : s.SameInputs s' id sliceId where
  standing := by rw [hframe.registry]
  dossier := dossier_eq hframe.registry hframe.attestations id
  slices k hk := h.book.slices_of_ne fun heq => hwritten k heq hk
  types k hk := h.book.thresholdType_of_ne fun heq => hwritten k heq hk
  nested := h.nestedSliceNode
  attestors := .of_eq hframe.discipline id sliceId

theorem sliceOp_guards (env : Env) (s : State) (op : SliceOp) :
    Ensures (op.apply env s) (Guards (fun id sliceId => op.Spares s id sliceId) s) := by
  intro s' hs'
  have hstep := sliceOp_step env s op s' hs'
  have hframe := sliceOp_frame env s op s' hs'
  refine ⟨by rw [hframe.registry], hstep.book.count_le, ?_⟩
  have hcache := hstep.cache
  cases hinvalidated : op.invalidated with
  | none =>
    rw [hinvalidated] at hcache
    refine .of_cache hcache fun id sliceId _ hspares => hstep.sameInputs hframe ?_
    exact hspares.resolve_left (by simp [hinvalidated])
  | some k =>
    rw [hinvalidated] at hcache
    refine .of_invalidateSlice hcache fun id sliceId hne hspares => hstep.sameInputs hframe ?_
    refine hspares.resolve_left fun heq => hne ?_
    exact (Option.mem_unique hinvalidated heq).symm

end State

end QuorumProof
