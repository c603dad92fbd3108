import QuorumProof.Contract.CredentialSteps

/-!
# Contract/NonRevocation — revocation through the BBS+ accumulator

Adding to the accumulator starts a new epoch, which makes every stored proof stale; a proof is
current again when somebody stores one.  `create_non_revocation_proof` asks neither who they are nor
whether the credential has been added.  As long as proofs are stored by the subjects of credentials
that have not been, what has been added stays stale (`AttestationBook.Current`), and `is_attested`
answers false.

Source: `bbs_plus_features.rs`, `is_attested`.
-/

namespace QuorumProof

open Guarded

/-! ## One operation -/

/-- **What an operation does to the accumulator and to the proofs against it.** -/
inductive AccumulatorStep (env : Env) (s s' : State) : Op → Prop
  | stayed {op : Op} (haccumulator : s'.attestations.bbsAccumulator = s.attestations.bbsAccumulator)
      (hmember : s'.attestations.bbsAccumulatorMember = s.attestations.bbsAccumulatorMember)
      (hproof : s'.attestations.bbsNonRevocationProof = s.attestations.bbsNonRevocationProof) :
      AccumulatorStep env s s' op
  | added {caller : Address} {id : Nat} {value : Bytes} {accumulator : BbsRevocationAccumulator}
      (haccumulator : s'.attestations.bbsAccumulator = some accumulator)
      (hepoch : accumulator.epoch = (s.attestations.bbsAccumulator.map (·.epoch)).getD 0 + 1)
      (hmember : s'.attestations.bbsAccumulatorMember =
        s.attestations.bbsAccumulatorMember.set id accumulator.epoch)
      (hproof : s'.attestations.bbsNonRevocationProof = s.attestations.bbsNonRevocationProof) :
      AccumulatorStep env s s' (.attestation (.addToRevocationAccumulator caller id value))
  | proved {holder : Address} {id : Nat} {bytes : Bytes} {accumulator : BbsRevocationAccumulator}
      {proof : BbsNonRevocationProofRecord} (hauth : holder ∈ env.auths)
      (hold : s.attestations.bbsAccumulator = some accumulator)
      (haccumulator : s'.attestations.bbsAccumulator = s.attestations.bbsAccumulator)
      (hmember : s'.attestations.bbsAccumulatorMember = s.attestations.bbsAccumulatorMember)
      (hproof : s'.attestations.bbsNonRevocationProof =
        s.attestations.bbsNonRevocationProof.set id proof)
      (hepoch : proof.epoch = accumulator.epoch) :
      AccumulatorStep env s s' (.attestation (.createNonRevocationProof holder id bytes))

variable {env : Env} {s s' : State}

theorem AccumulatorStep.of_bbs {op : Op} (h : s'.attestations.bbs = s.attestations.bbs) :
    AccumulatorStep env s s' op := by
  simp only [AttestationBook.bbs, Prod.mk.injEq] at h
  exact .stayed h.2.1 h.2.2.1 h.2.2.2

theorem Op.accumulatorStep (env : Env) (s : State) (op : Op) :
    Ensures (op.apply env s) fun s' => AccumulatorStep env s s' op := by
  obtain ⟨op, rfl⟩ | hop := exists_or_forall_not (op = .attestation ·)
  · cases haccumulates : op.accumulates with
    | false =>
      exact (State.attestationOp_effect env s op).mono fun _ h => .of_bbs (h.bbs haccumulates)
    | true =>
      cases op <;> cases haccumulates
      case addToRevocationAccumulator.refl caller id value =>
        simp only [Op.apply, AttestationOp.apply, State.addToRevocationAccumulator, ensures_steps]
        intro _ epoch hepoch
        obtain ⟨-, rfl⟩ := checkedAdd_eq_ok.mp hepoch
        exact .added rfl rfl rfl rfl
      case createNonRevocationProof.refl holder id bytes =>
        simp only [Op.apply, AttestationOp.apply, State.createNonRevocationProof, ensures_steps,
          requireAuth_eq_ok]
        exact fun hauth accumulator hold => .proved hauth hold rfl rfl rfl rfl
  · refine (Op.leaves_attestations env s hop).mono ?_
    rintro s' (h | ⟨challenge, h⟩)
    · exact .stayed (by rw [h]) (by rw [h]) (by rw [h])
    · exact .stayed (by rw [h.attestations]; rfl) (by rw [h.attestations]; rfl)
        (by rw [h.attestations]; rfl)

/-! ## BBS+ credentials stay so -/

namespace State

/-- The credentials of one state with a BBS+ flag have it in another. -/
def Flags (s s' : State) : Prop :=
  ∀ id, s.attestations.bbsCredentialFlag id = some () →
    s'.attestations.bbsCredentialFlag id = some ()

theorem Flags.of_eq (h : s'.attestations = s.attestations) : Flags s s' :=
  fun _ hflag => by rw [h, hflag]

theorem IssuanceStep.flags {op : IssuanceOp} (h : IssuanceStep env op s s') : Flags s s' := by
  cases h with
  | noted h => exact .of_eq h.attestations
  | one hflags h =>
    intro id hflag
    rw [h.attestations]
    rcases hflags id with heq | ⟨-, hsome⟩
    · exact heq.trans hflag
    · exact hsome
  | batch _ _ h =>
    rw [h.rest]
    exact .of_eq rfl

end State

open State in
theorem Op.flags (env : Env) (s : State) (op : Op) : Ensures (op.apply env s) (Flags s) := by
  cases op with
  | control op => exact ensures_map.mpr fun _ _ => .of_eq rfl
  | issuance op => exact (issuanceOp_step env s op).mono fun _ h => h.flags
  | revocation op =>
    exact (revocationOp_effect env s op).mono fun _ h => .of_eq h.frame.attestations
  | lifecycle op => exact (lifecycleOp_effect env s op).mono fun _ h => .of_eq h.frame.attestations
  | multisig op => exact (multisigOp_effect env s op).mono fun _ h => .of_eq h.frame.attestations
  | slice op => exact (sliceOp_frame env s op).mono fun _ h => .of_eq h.attestations
  | query op => exact (queryOp_frame env s op).mono (by rintro _ ⟨cache, rfl⟩; exact .of_eq rfl)
  | attestation op =>
    cases haccumulates : op.accumulates with
    | false =>
      refine (attestationOp_effect env s op).mono fun s' h id hflag => ?_
      rw [show s'.attestations.bbsCredentialFlag = _ from congrArg Prod.fst (h.bbs haccumulates)]
      exact hflag
    | true =>
      cases op <;> cases haccumulates <;>
        simp [Op.apply, AttestationOp.apply, addToRevocationAccumulator, createNonRevocationProof,
          Flags]
  | discipline op =>
    refine (disciplineOp_step env s op).mono fun s' h => ?_
    obtain h | ⟨challenge, h⟩ := h.attestations
    · exact .of_eq h
    · intro id hflag
      rw [h.attestations]
      exact hflag
  | restoreFromSnapshot admin snapshotId =>
    refine ensures_map.mpr ((restoreFromSnapshot_effect env s admin snapshotId).mono ?_)
    rintro _ ⟨_, _, -, -, heq⟩
    rw [heq]
    exact .of_eq rfl

/-! ## Stale proofs -/

/-- **A proof is as old as the accumulator or older, and older if its credential has been
added.** -/
structure AttestationBook.Current (b : AttestationBook) : Prop where
  bounded : ∀ id proof, b.bbsNonRevocationProof id = some proof →
    ∃ accumulator ∈ b.bbsAccumulator, proof.epoch ≤ accumulator.epoch
  stale : ∀ id proof accumulator, b.bbsAccumulatorMember id ≠ none →
    b.bbsNonRevocationProof id = some proof → b.bbsAccumulator = some accumulator →
    proof.epoch < accumulator.epoch

/-- **A proof is stored by the subject of a credential that has not been added.** -/
def Op.Sincere (s : State) : Op → Prop
  | .attestation (.createNonRevocationProof holder id _) =>
    s.attestations.bbsAccumulatorMember id = none ∧
      ∃ c ∈ s.registry.credentials id, c.subject = holder
  | _ => True

instance (s : State) (op : Op) : Decidable (op.Sincere s) := by
  unfold Op.Sincere
  split <;> infer_instance

theorem AccumulatorStep.current {op : Op} (h : AccumulatorStep env s s' op)
    (hsincere : op.Sincere s) (hs : s.attestations.Current) : s'.attestations.Current := by
  cases h with
  | stayed haccumulator hmember hproof =>
    exact ⟨by rw [haccumulator, hproof]; exact hs.bounded,
      by rw [haccumulator, hproof, hmember]; exact hs.stale⟩
  | @added _ _ _ new haccumulator hepoch hmember hproof =>
    -- a new epoch is beyond all proofs there are
    have hbeyond : ∀ id proof, s'.attestations.bbsNonRevocationProof id = some proof →
        proof.epoch < new.epoch := by
      intro id proof hid
      obtain ⟨accumulator, hold, hle⟩ := hs.bounded id proof (hproof ▸ hid)
      rw [Option.mem_def.mp hold] at hepoch
      exact (Nat.lt_succ_of_le hle).trans_eq hepoch.symm
    refine ⟨fun id proof hid => ⟨_, haccumulator, (hbeyond id proof hid).le⟩, ?_⟩
    intro id proof accumulator _ hid hnew
    cases haccumulator.symm.trans hnew
    exact hbeyond id proof hid
  | @proved holder id bytes accumulator proof _ hold haccumulator hmember hproof hepoch =>
    constructor
    · intro k other hk
      rw [haccumulator]
      rcases Store.set_eq_some.mp (hproof ▸ hk) with ⟨-, rfl⟩ | ⟨-, hk⟩
      · exact ⟨accumulator, hold, hepoch.le⟩
      · exact hs.bounded k other hk
    · intro k other accumulator' hadded hk hnew
      rw [hmember] at hadded
      rw [haccumulator] at hnew
      rcases Store.set_eq_some.mp (hproof ▸ hk) with ⟨rfl, -⟩ | ⟨-, hk⟩
      · exact absurd hsincere.1 hadded
      · exact hs.stale k other accumulator' hadded hk hnew

/-- What has been added has no current proof. -/
theorem AttestationBook.Current.not_verified {id : Nat} (h : s.attestations.Current)
    (hadded : s.attestations.bbsAccumulatorMember id ≠ none) :
    s.verifyNonRevocation id = false := by
  unfold State.verifyNonRevocation
  split
  next proof accumulator hproof haccumulator =>
    have hlt := h.stale id proof accumulator hadded hproof haccumulator
    simp [hlt.ne]
  next => rfl

/-! ## Whole runs -/

namespace State

/-- A BBS+ credential that has been added to the accumulator. -/
structure Added (s : State) (id : Nat) : Prop where
  credential : ∃ c, s.registry.credentials id = some c
  flag : s.attestations.bbsCredentialFlag id = some ()
  member : s.attestations.bbsAccumulatorMember id ≠ none

theorem Added.isAttestedUncached {id : Nat} (h : s.Added id) (hcurrent : s.attestations.Current)
    (env : Env) (sliceId : Nat) : s.isAttestedUncached env id sliceId = .ok false := by
  obtain ⟨c, hc⟩ := h.credential
  have hblocked : s.blocked env id c = true := by
    simp [blocked, h.flag, hcurrent.not_verified h.member]
  simp only [State.isAttestedUncached, getCredential, hc, expect, bind, Except.bind, hblocked]
  rfl

end State

namespace World

/-- A call adds a BBS+ credential to the accumulator. -/
def AddsBbs (host : Host) (id : Nat) (w : World) (call : Call) : Prop :=
  (∃ c, w.state.registry.credentials id = some c) ∧
    w.state.attestations.bbsCredentialFlag id = some () ∧ w.Completes host call ∧
    ∃ caller value, call.op = .attestation (.addToRevocationAccumulator caller id value)

/-- **What the accumulator is to guarantee over a run**: no credential it has been given is
attested, and a proof is written only for the subject of its credential. -/
structure RevokesBbs (host : Host) (calls : List Call) : Prop where
  revoked : ∀ id, Machine.Occurs (next host) (AddsBbs host id) deployed calls →
    ∀ env sliceId, (after host calls).state.isAttestedUncached env id sliceId = .ok false
  written : ∀ pre call post id, calls = pre ++ call :: post →
    (after host (pre ++ [call])).state.attestations.bbsNonRevocationProof id ≠
      (after host pre).state.attestations.bbsNonRevocationProof id →
    ∃ c ∈ (after host pre).state.registry.credentials id, c.subject ∈ call.auths

variable {host : Host} {w : World} {call : Call} {id : Nat}

theorem accumulatorStep_next (host : Host) (w : World) (call : Call) :
    AccumulatorStep (w.env host call) w.state (w.next host call).state call.op :=
  next_of_ensures (Q := fun s => AccumulatorStep _ w.state s call.op)
    (call.op.accumulatorStep _ _) (.of_bbs rfl)

/-- A call leaves a BBS+ credential one. -/
theorem bbs_next (host : Host) (call : Call)
    (hcredential : ∃ c, w.state.registry.credentials id = some c)
    (hflag : w.state.attestations.bbsCredentialFlag id = some ()) :
    (∃ c, (w.next host call).state.registry.credentials id = some c) ∧
      (w.next host call).state.attestations.bbsCredentialFlag id = some () := by
  obtain ⟨c, hc⟩ := hcredential
  refine ⟨(next_writes host w call).stored hc, ?_⟩
  exact next_of_ensures (Q := w.state.Flags) (call.op.flags _ _) (.of_eq rfl) id hflag

theorem added_next (h : w.state.Added id) : (w.next host call).state.Added id := by
  obtain ⟨hcredential, hflag⟩ := bbs_next host call h.credential h.flag
  refine ⟨hcredential, hflag, ?_⟩
  have hstep := accumulatorStep_next host w call
  obtain ⟨elapsed, auths, op⟩ := call
  cases hstep with
  | stayed _ hmember _ => exact hmember ▸ h.member
  | proved _ _ _ hmember _ _ => exact hmember ▸ h.member
  | added _ _ hmember _ =>
    rw [hmember, Store.set_apply]
    split
    · simp
    · exact h.member

theorem AddsBbs.added (h : AddsBbs host id w call) : (w.next host call).state.Added id := by
  obtain ⟨hcredential, hflag, ⟨s, hs⟩, caller, value, hop⟩ := h
  obtain ⟨hcredential, hflag⟩ := bbs_next host call hcredential hflag
  refine ⟨hcredential, hflag, ?_⟩
  rw [next_state_of_ok hs]
  rw [hop] at hs
  simp only [Op.apply, AttestationOp.apply, State.addToRevocationAccumulator, map_eq_ok,
    bind_eq_ok, pure_eq_ok] at hs
  obtain ⟨_, ⟨-, -, epoch, -, rfl⟩, rfl⟩ := hs
  simp

/-- **While proofs are stored by the subjects of credentials that have not been added**, the
accumulator revokes. -/
theorem revokesBbs (host : Host) (calls : List Call)
    (h : Machine.Along (next host) (Meets fun s op => op.Sincere s) deployed calls) :
    RevokesBbs host calls where
  revoked id hadds env sliceId := by
    have hcurrent : (after host calls).state.attestations.Current :=
      h.invariant (I := fun w => w.state.attestations.Current)
        (fun w call hs hsincere => (accumulatorStep_next host w call).current hsincere hs)
        ⟨nofun, nofun⟩
    have hadded : (after host calls).state.Added id :=
      Machine.flag_of_occurs (I := fun _ => True) (P := fun w : World => w.state.Added id)
        (fun _ _ _ => trivial) (fun _ _ _ hadds => hadds.added) (fun _ _ _ => added_next) trivial
        hadds
    exact hadded.isAttestedUncached hcurrent env sliceId
  written := by
    rintro pre ⟨elapsed, auths, op⟩ post id rfl hwritten
    obtain ⟨-, hsincere, -⟩ := (Machine.along_append _).mp h
    rw [after_append] at hwritten
    cases accumulatorStep_next host (after host pre) ⟨elapsed, auths, op⟩ with
    | stayed _ _ hproof => exact absurd (congrFun hproof id) hwritten
    | added _ _ _ hproof => exact absurd (congrFun hproof id) hwritten
    | @proved holder k bytes _ _ hauth _ _ _ hproof _ =>
      by_cases hid : id = k
      · obtain ⟨c, hc, hsubject⟩ := hsincere.2
        exact ⟨c, hid ▸ hc, hsubject ▸ hauth⟩
      · exact absurd ((congrFun hproof id).trans (Store.set_of_ne hid)) hwritten

end World

/-! ## A proof by anybody -/

namespace Sample

/-- A BBS+ credential is issued and attested, and added to the accumulator. -/
def accumulated : List Call :=
  [initialized,
    call issuer (.issuance (.issueBbsCredential issuer alice 1 [1] [[1]] none 0)),
    createSlice [bob] [1] 1, attest bob 1 1,
    call issuer (.attestation (.addToRevocationAccumulator issuer 1 []))]

/-- Somebody stores a proof. -/
def proof (holder : Address) (id : Nat) : Call :=
  call holder (.attestation (.createNonRevocationProof holder id [1]))

end Sample

namespace World

open Sample

/-- Another credential's subject refreshes their proof. -/
theorem revokesBbs_other : RevokesBbs host (accumulated ++
    [issue bob 2, proof bob 2]) :=
  revokesBbs host _ (by decide)

/-- **With a proof of anybody's a credential that has been added is attested.** -/
theorem not_revokesBbs : ¬ RevokesBbs host (accumulated ++ [proof bob 1]) := by
  intro h
  have hadds : Machine.Occurs (next host) (AddsBbs host 1) deployed
      (accumulated ++ [proof bob 1]) := by
    refine .inr (.inr (.inr (.inr (.inl ⟨?_, by decide, by decide, issuer, [], rfl⟩))))
    exact Option.isSome_iff_exists.mp (by decide)
  have hfalse := h.revoked 1 hadds { host with now := 0, auths := [] } 1
  have htrue : (after host (accumulated ++ [proof bob 1])).state.isAttestedUncached
      { host with now := 0, auths := [] } 1 1 = .ok true := by
    decide
  cases hfalse.symm.trans htrue

end World

end QuorumProof
