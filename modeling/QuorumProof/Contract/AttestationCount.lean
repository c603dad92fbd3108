import QuorumProof.Contract.Footprint

/-!
# Contract/AttestationCount — the counter beside the attestation records

`attest` appends a record and counts it.  An entry of `batch_attest` and an executed
multi-signature request append one and do not count, and an upheld challenge takes records off and
leaves the counter.  In a run without these, the counter of a credential is the number of its
records.

Source: `is_attested_by_count`, and the entry points that add or remove records.
-/

namespace QuorumProof

open Guarded

def State.isAttestedByCount (s : State) (id : Nat) : Except Fault Bool := do
  let c ← s.getCredential id
  return !c.revoked && !c.suspended && decide (c.requiredAttestations ≤ s.attestationCount id)

/-- The operation counts the records it makes, and takes none off. -/
def Op.counts : Op → Bool
  | attestation op => op.counts
  | discipline (.voteOnChallenge ..) | discipline (.advanceChallengeRound ..) => false
  | _ => true

namespace State

variable {s s' : State}

/-- **The counter of every credential is the number of its records.** -/
def RecordsCounted (s : State) : Prop :=
  ∀ id, s.attestationCount id = (s.attestations.records id).length

theorem CountsRecords.recordsCounted (hcounts : CountsRecords s s') (h : s.RecordsCounted) :
    s'.RecordsCounted := by
  intro id
  have hid := hcounts id
  rw [h id, Nat.add_comm] at hid
  exact Nat.add_left_cancel hid

/-- A count that is the number of records decides by it. -/
theorem RecordsCounted.isAttestedByCount (h : s.RecordsCounted) (id : Nat) :
    s.isAttestedByCount id = .ok true ↔ ∃ c, s.registry.credentials id = some c ∧
      c.revoked = false ∧ c.suspended = false ∧
      c.requiredAttestations ≤ (s.attestations.records id).length := by
  simp only [State.isAttestedByCount, getCredential, bind_eq_ok, expect_eq_ok, pure_eq_ok, h id,
    Bool.and_eq_true, Bool.not_eq_true', decide_eq_true_eq, and_assoc]

/-- A challenge is upheld by a vote or at the end of a round. -/
theorem DisciplineStep.attestations_of_counts {env : Env} {op : DisciplineOp}
    (h : DisciplineStep env s s' op) (hop : (Op.discipline op).counts = true) :
    s'.attestations = s.attestations := by
  cases h with
  | challenged hstep hrecords =>
    refine (hrecords.kept ?_).attestations
    cases hstep with
    | opens hopened _ => simp [hopened]
    | documents hopen => simp [hopen.opened]
    | _ => cases hop
  | _ =>
    subst_vars
    rfl

end State

open State in
theorem Op.countsRecords (env : Env) (s : State) {op : Op} (hop : op.counts = true) :
    Ensures (op.apply env s) (CountsRecords s) := by
  cases op with
  | attestation op => exact (attestationOp_effect env s op).mono fun _ h => h.counted hop
  | discipline op =>
    refine (disciplineOp_step env s op).mono fun _ h => ?_
    have hsame := h.attestations_of_counts hop
    exact .of_length (by rw [hsame]) fun id => by rw [hsame]
  | _ =>
    refine (Op.footprint env s _).mono fun _ h => ?_
    have hsame := (h.attestors rfl).2
    exact .of_length (by rw [hsame]) fun id => by rw [hsame]; rfl

namespace World

/-- **Where every record is counted, the counter is the number of records and decides by it.** -/
theorem counted_of_counts (host : Host) (calls : List Call)
    (h : ∀ call ∈ calls, call.op.counts = true) (id : Nat) :
    let s := (after host calls).state
    s.attestationCount id = (s.attestations.records id).length ∧
      (s.isAttestedByCount id = .ok true ↔ ∃ c, s.registry.credentials id = some c ∧
        c.revoked = false ∧ c.suspended = false ∧
        c.requiredAttestations ≤ (s.attestations.records id).length) := by
  have hcounted : (after host calls).state.RecordsCounted :=
    (Machine.along_of_mem (next host) h).invariant (I := fun w : World => w.state.RecordsCounted)
      (fun w call hw hop => next_of_ensures
        ((Op.countsRecords _ _ hop).mono fun _ hcounts => hcounts.recordsCounted hw) hw)
      fun _ => rfl
  exact ⟨hcounted id, hcounted.isAttestedByCount id⟩

end World

/-! ## A batch of one -/

namespace Sample

/-- A credential, and a slice with one member. -/
def countable : List Call := [initialized, issue alice 1, createSlice [bob] [1] 1]

/-- The member attests the credential in a batch. -/
def attestInBatch : Call := call bob (.attestation (.batchAttest bob [1] 1 true none))

end Sample

namespace World

open Sample

theorem counted_of_counts_attest :
    (after host (countable ++ [attest bob 1 1])).state.attestationCount 1 = 1 ∧
      ((after host (countable ++ [attest bob 1 1])).state.attestations.records 1).length = 1 :=
  have hcount := by decide
  ⟨hcount, (counted_of_counts host (countable ++ [attest bob 1 1]) (by decide) 1).1 ▸ hcount⟩

/-- **A record is made, and not counted.** -/
theorem not_counted :
    (after host (countable ++ [attestInBatch])).state.attestationCount 1 = 0 ∧
      ((after host (countable ++ [attestInBatch])).state.attestations.records 1).length = 1 := by
  decide

end World

end QuorumProof
