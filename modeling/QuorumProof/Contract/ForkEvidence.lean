import QuorumProof.Contract.Footprint

/-!
# Contract/ForkEvidence — what is left of a detected fork

When `attest` detects a fork it records those in conflict and suspends them, and then aborts with
`ForkDetected`; the abort takes both back.  No other entry point writes a record of a fork, so there
is none in any reachable storage, and `resolve_fork` always fails for want of one.

Source: `attest`, `resolve_fork`.
-/

namespace QuorumProof

namespace State

/-- Those in conflict: the members of the slice with a record on the credential, and who attests. -/
def conflictingAttestors (s : State) (id : Nat) (slice : QuorumSlice) (attestor : Address) :
    List Address :=
  ((s.attestations.records id).filter fun record => record.attestor ∈ slice.attestors).map
    (·.attestor) ++ [attestor]

/-- **The evidence of a fork**: a record that names those in conflict, who are suspended, and that
`resolve_fork` does not miss. -/
structure ForkEvidence (s : State) (id sliceId : Nat) (conflicting : List Address) : Prop where
  recorded : ∃ info ∈ s.attestations.forkInfo (id, sliceId),
    info.conflictingAttestors = conflicting
  suspended : ∀ attestor ∈ conflicting, s.discipline.isAttestorSuspended sliceId attestor = true
  resolvable : ∀ env resolver,
    s.resolveFork env resolver id sliceId ≠ .error (.contract .noForkExists)

end State

namespace World

/-- **No reachable storage has a record of a fork.** -/
theorem unforked (host : Host) (calls : List Call) (k : Nat × Nat) :
    (after host calls).state.attestations.forkInfo k = none := by
  refine Machine.run_invariant (I := fun w : World => w.state.attestations.forkInfo k = none)
    (fun w call hw => ?_) (by rfl) calls
  exact next_of_ensures ((Op.forkInfo _ _ _).mono fun _ h => (congrFun h k).trans hw) hw

/-- **The evidence of a detected fork is always lost**: after every attestation that is rejected
with `ForkDetected` the storage is as before it, and no fork is on record. -/
theorem forkEvidence_lost (host : Host) (calls : List Call) (elapsed : Nat) (auths : List Address)
    (attestor : Address) (id sliceId : Nat) (value : Bool) (expiresAt : Option Nat) :
    let w := after host calls
    let call : Call :=
      ⟨elapsed, auths, .attestation (.attest attestor id sliceId value expiresAt)⟩
    let s := (w.next host call).state
    w.state.attest (w.env host call) attestor id sliceId value expiresAt =
        .error (.contract .forkDetected) →
      s = w.state ∧ s.attestations.forkInfo (id, sliceId) = none ∧
        ¬ ∃ slice resolved, w.state.slices.slices sliceId = some slice ∧
          w.state.voter (w.env host call) attestor sliceId = some resolved ∧
          s.ForkEvidence id sliceId (w.state.conflictingAttestors id slice resolved) := by
  intro w call s hrejected
  have hcall : call.op.apply (w.env host call) w.state = .error (.contract .forkDetected) := by
    simp only [call, Op.apply, AttestationOp.apply, hrejected]
    rfl
  have hsame : s = w.state := next_state_of_error hcall
  have hinfo : s.attestations.forkInfo (id, sliceId) = none := by
    rw [hsame]
    exact unforked host calls _
  refine ⟨hsame, hinfo, ?_⟩
  rintro ⟨slice, resolved, -, -, hevidence⟩
  obtain ⟨info, hmem, -⟩ := hevidence.recorded
  rw [hinfo] at hmem
  cases hmem

end World

/-! ## Two members of a slice disagree -/

namespace Sample

/-- Two members of a slice, of whom the first has attested a credential. -/
def agreed : List Call :=
  [initialized, issue alice 1, createSlice [bob, issuer] [1, 1] 1, attest bob 1 1]

/-- The second attests the other value. -/
def disagrees : Call := call issuer (.attestation (.attest issuer 1 1 false none))

end Sample

namespace World

open Sample

theorem forkEvidence_lost_disagreement :
    let w := after host agreed
    ¬ (w.next host disagrees).state.ForkEvidence 1 1 [bob, issuer] := fun hevidence =>
  (forkEvidence_lost host agreed 0 [issuer] issuer 1 1 false none rfl).2.2
    ⟨_, issuer, rfl, rfl, hevidence⟩

/-- **The call is rejected**, and afterwards no fork is on record, neither of the two is suspended,
and `resolve_fork` fails. -/
theorem not_forkEvidence :
    let w := after host agreed
    (w.state.attest (w.env host disagrees) issuer 1 1 false none).map (fun _ => ()) =
        .error (.contract .forkDetected) ∧
      (w.next host disagrees).state.attestations.forkInfo (1, 1) = none ∧
      (∀ attestor ∈ [bob, issuer],
        (w.next host disagrees).state.discipline.isAttestorSuspended 1 attestor = false) ∧
      ((w.next host disagrees).state.resolveFork (w.env host disagrees) issuer 1 1).map
        (fun _ => ()) = .error (.contract .noForkExists) := by
  decide

end World

end QuorumProof
