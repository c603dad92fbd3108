import QuorumProof.Zk.Aggregate
import QuorumProof.Zk.ProofRevocation

/-!
# Zk/Pause — what a paused verifier still accepts

Three of the verification entry points look at the pause, and the batch of Groth16 proofs asks one
of them for every proof; a range proof is never accepted.  The nine others answer in a paused
contract what they answer in a running one (`VerifyCall.accepts_iff_of_paused`).

Source: `pause`, and the `verify_*` entry points.
-/

namespace QuorumProof.Zk

open Guarded

variable {r : ℕ} [Fact r.Prime] {G₁ G₂ Gt : Type} [AddCommGroup G₁] [Module (ZMod r) G₁]
  [AddCommGroup G₂] [Module (ZMod r) G₂] [AddCommGroup Gt] [Module (ZMod r) Gt]

/-- The `verify_*` entry points, with their arguments. -/
inductive VerifyCall
  | verification (v : Verification)
  | verifyBatchProofs (proofs publicInputs vkHashes : List Bytes)
  | verifyAggregateProof (aggProof : AggregateProof) (proofs publicInputs vkHashes : List Bytes)
  | verifyPlonkProof (proof publicInputs vkHash : Bytes)
  | verifyRangeProof (proof : BulletproofRangeProof) (proofType : RangeProofType)
  | verifyBatchRangeProofs (proofs : List BulletproofRangeProof) (proofTypes : List RangeProofType)
  | verifyConditionalDisclosure (credentialId : UInt64) (claimType : ClaimType)
      (schnorrProof : SchnorrProof) (rangeProof : Option BulletproofRangeProof)
      (rangeType : Option RangeProofType)
  | verifyProofForConstraints (proof : Bytes) (constraintId : Nat)
  | verifyProofWithTimeBounds (proof : Bytes) (minAge maxAge : Nat)
  | verifyClaimWithCache (admin : Address) (credentialId : UInt64) (claimType : ClaimType)
      (proof : Bytes)
  | verifyClaimAnonymous (credentialId : UInt64) (claimType : ClaimType)
      (holderCommitment proof : Bytes)

/-- What a range proof's result says of it. -/
def RangeProofResult.verdicts (result : RangeProofResult) : List Bool :=
  [result.verified, result.inRange]

theorem verifyRangeProof_verdicts (proof : BulletproofRangeProof) (proofType : RangeProofType) :
    true ∉ (verifyRangeProof proof proofType).verdicts := by
  unfold verifyRangeProof
  split <;> simp [RangeProofResult.verdicts, verifyBulletproofRange]

namespace VerifyCall

variable [DecidableEq Gt] (platform : Platform r G₁ G₂ Gt)

/-- The verdicts an entry point returns: one, or those of a batch. -/
def verdicts (v : VerifyCall) (env : Env) (s : State) : Except Fault (List Bool) :=
  match v with
  | verification v => ([·]) <$> v.result platform env s
  | verifyBatchProofs proofs publicInputs vkHashes =>
    s.verifyBatchProofs platform proofs publicInputs vkHashes
  | verifyAggregateProof aggProof proofs publicInputs vkHashes =>
    ([·]) <$> Zk.verifyAggregateProof env aggProof proofs publicInputs vkHashes
  | verifyPlonkProof proof publicInputs vkHash =>
    ([·]) <$> s.verifyPlonkProof platform proof publicInputs vkHash
  | verifyRangeProof proof proofType => .ok (Zk.verifyRangeProof proof proofType).verdicts
  | verifyBatchRangeProofs proofs proofTypes =>
    (·.flatMap RangeProofResult.verdicts) <$> Zk.verifyBatchRangeProofs proofs proofTypes
  | verifyConditionalDisclosure credentialId claimType schnorrProof rangeProof rangeType =>
    .ok [(s.records.verifyConditionalDisclosure s.keys env credentialId claimType schnorrProof
      rangeProof rangeType).2]
  | verifyProofForConstraints proof constraintId =>
    .ok [s.records.verifyProofForConstraints env proof constraintId]
  | verifyProofWithTimeBounds proof minAge maxAge =>
    .ok [s.records.verifyProofWithTimeBounds env proof minAge maxAge]
  | verifyClaimWithCache admin credentialId claimType proof =>
    (fun p => [p.2]) <$>
      s.cache.verifyClaimWithCache s.control s.keys env admin credentialId claimType proof
  | verifyClaimAnonymous _ _ holderCommitment proof =>
    .ok [s.keys.verifyClaimAnonymous env holderCommitment proof]

/-- **The entry point returns true**, for some proof it is given. -/
def Accepts (v : VerifyCall) (env : Env) (s : State) : Prop :=
  ∃ verdicts, v.verdicts platform env s = .ok verdicts ∧ true ∈ verdicts

/-- The entry points that never look at the pause and may return true. -/
def ignoresPause : VerifyCall → Bool
  | verification (.verifyClaim ..) | verification (.verifyGroth16Proof ..) | verifyBatchProofs ..
  | verifyPlonkProof .. | verifyRangeProof .. | verifyBatchRangeProofs .. => false
  | _ => true

variable {platform} {env : Env} {s : State} {v : VerifyCall}

omit [DecidableEq Gt] in
/-- A single verdict is true when the entry point returns true. -/
theorem exists_singleton_iff {x : Except Fault Bool} :
    (∃ verdicts, ([·]) <$> x = .ok verdicts ∧ true ∈ verdicts) ↔ x = .ok true := by
  constructor
  · rintro ⟨verdicts, h, hmem⟩
    obtain ⟨b, hb, rfl⟩ := map_eq_ok.mp h
    rw [hb, List.mem_singleton.mp hmem]
  · rintro rfl
    exact ⟨[true], rfl, List.mem_singleton.mpr rfl⟩

/-- **A batch of Groth16 proofs stops at the first** while the contract is paused. -/
theorem verifyBatchProofs_of_paused (hpaused : s.control.paused = true)
    {proofs publicInputs vkHashes : List Bytes} {verdicts : List Bool}
    (h : s.verifyBatchProofs platform proofs publicInputs vkHashes = .ok verdicts) :
    verdicts = [] := by
  simp only [State.verifyBatchProofs, bind_eq_ok, require_eq_ok] at h
  obtain ⟨-, -, -, -, h⟩ := h
  cases hzip : proofs.zip (publicInputs.zip vkHashes) with
  | nil => rw [hzip] at h; exact (Except.ok.inj h).symm
  | cons p ps =>
    rw [hzip, List.mapM_cons, bind_eq_ok] at h
    obtain ⟨b, hb, -⟩ := h
    simp [State.verifyGroth16Proof, Control.requireNotPaused, hpaused, require] at hb

/-- The entry points that look at the pause accept nothing. -/
theorem not_accepts_of_paused (hpaused : s.control.paused = true)
    (hv : v.ignoresPause = false) : ¬ v.Accepts platform env s := by
  have hrunning : s.control.paused ≠ false := by simp [hpaused]
  cases v with
  | verification v =>
    rw [Accepts, verdicts, exists_singleton_iff]
    cases v with
    | verifyClaim | verifyGroth16Proof =>
      refine fun h => hrunning ?_
      obtain ⟨_, h, -⟩ := bind_eq_ok.mp h
      exact Control.requireNotPaused_eq_ok.mp h
    | _ => cases hv
  | verifyBatchProofs =>
    rintro ⟨verdicts, h, hmem⟩
    rw [verifyBatchProofs_of_paused hpaused h] at hmem
    cases hmem
  | verifyPlonkProof =>
    rw [Accepts, verdicts, exists_singleton_iff, State.verifyPlonkProof, bind_eq_ok]
    exact fun ⟨_, h, _⟩ => hrunning (Control.requireNotPaused_eq_ok.mp h)
  | verifyRangeProof proof proofType =>
    rintro ⟨verdicts, h, hmem⟩
    exact verifyRangeProof_verdicts proof proofType (Except.ok.inj h ▸ hmem)
  | verifyBatchRangeProofs =>
    rintro ⟨verdicts, h, hmem⟩
    obtain ⟨results, hresults, rfl⟩ := map_eq_ok.mp h
    obtain ⟨_, -, hresults⟩ := bind_eq_ok.mp hresults
    obtain rfl := Except.ok.inj hresults
    simp only [List.mem_flatMap, List.mem_map] at hmem
    obtain ⟨_, ⟨p, -, rfl⟩, hmem⟩ := hmem
    exact verifyRangeProof_verdicts p.1 p.2 hmem
  | _ => cases hv

/-- The others answer what they answer in a running contract. -/
theorem verdicts_of_ignoresPause (hv : v.ignoresPause = true) (paused : Bool) :
    v.verdicts platform env { s with control := { s.control with paused := paused } }
      = v.verdicts platform env s := by
  cases v with
  | verification v => cases v <;> first | rfl | cases hv
  | _ => first | rfl | cases hv

/-- **A paused contract accepts what a running one does, by the entry points that do not look.** -/
theorem accepts_iff_of_paused (hpaused : s.control.paused = true) :
    v.Accepts platform env s ↔ v.ignoresPause = true ∧
      v.Accepts platform env { s with control := { s.control with paused := false } } := by
  cases hv : v.ignoresPause with
  | false => simpa using not_accepts_of_paused hpaused hv
  | true => simp [Accepts, verdicts_of_ignoresPause hv]

end VerifyCall

/-- **In no reachable paused state does an entry point that looks at the pause return true.** -/
theorem verification_halts [DecidableEq Gt] (platform : Platform r G₁ G₂ Gt) (calls : List Call)
    (hpaused : (World.after platform calls).state.control.paused = true) (v : VerifyCall)
    (hv : v.ignoresPause = false) (elapsed ledgers : Nat) (auths : List Address) :
    let w := World.after platform calls
    ¬ v.Accepts platform (w.env platform.toHost elapsed ledgers auths) w.state :=
  fun haccepts => by
    have hignores := ((VerifyCall.accepts_iff_of_paused hpaused).mp haccepts).1
    rw [hv] at hignores
    cases hignores

namespace Sample

/-- The admin registers a key and pauses the contract. -/
def halted : List Call :=
  [initialized, keyRegistered, callBy admin (.control (.pause admin))]

end Sample

open Zk.Sample

/-- The proof of a claim is not accepted. -/
theorem verification_halts_claim :
    let w := World.after platform halted
    ¬ (VerifyCall.verification (.verifyClaim admin 3 .hasDegree groth16Proof)).Accepts
      platform (w.env platform.toHost 0 0 [admin]) w.state :=
  verification_halts platform halted (by decide +kernel) _ rfl 0 0 [admin]

/-- The same proof is accepted in a batch of one. -/
theorem not_verification_halts :
    let w := World.after platform halted
    w.state.control.paused = true ∧
      (VerifyCall.verification (.verifyAggregatedProofs [groth16Proof]
          [claimInputs 3 .hasDegree] vkHash)).Accepts
        platform (w.env platform.toHost 0 0 []) w.state :=
  ⟨by decide +kernel, [true], by decide +kernel, List.mem_singleton.mpr rfl⟩

end QuorumProof.Zk
