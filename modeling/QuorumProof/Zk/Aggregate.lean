import QuorumProof.Zk.Entry

/-!
# Zk/Aggregate — the aggregate check and the pairing check share no proof

`verify_aggregate_proof` takes proofs of 256 bytes, in the layout of the legacy heuristic, and looks
at one byte of a hash over the batch; `verify_groth16_proof` takes proofs of 192 bytes and checks
the pairing equation.  So whatever the one accepts the other rejects.
-/

namespace QuorumProof.Zk

open Guarded Accumulate

variable {env : Env} {aggProof : AggregateProof} {proofs publicInputs vkHashes : List Bytes}

/-- **A batch is accepted only if each of its proofs is well formed.** -/
theorem wellFormed_of_verifyAggregateProof (hne : proofs ≠ [])
    (haccepted : verifyAggregateProof env aggProof proofs publicInputs vkHashes = .ok true)
    {i : Nat} (hi : i < proofs.length) :
    AggregateWellFormed (proofs.getD i []) (publicInputs.getD i []) := by
  simp only [verifyAggregateProof, bind_eq_ok, require_eq_ok, exists_const] at haccepted
  obtain ⟨⟨hproofs, hinputs, hkeys⟩, hloop⟩ := haccepted
  have hn : aggProof.batchSize ≠ 0 := by rwa [← hproofs, Ne, List.length_eq_zero_iff]
  rw [if_neg hn, pure_eq_ok, getD_false_eq_true] at hloop
  by_contra hmalformed
  rw [foldlM_eq_none (List.mem_range.mpr (hproofs ▸ hi))] at hloop
  · cases hloop
  -- The turn of the malformed proof ends the loop, whatever has been hashed before it.
  intro combined
  have h₁ : proofs[i]? = some (proofs.getD i []) := by simp [hi]
  have h₂ : publicInputs[i]? = some (publicInputs.getD i []) := by simp [hinputs, ← hproofs, hi]
  obtain ⟨vk, h₃⟩ : ∃ vk, vkHashes[i]? = some vk := ⟨_, List.getElem?_eq_getElem (by omega)⟩
  rw [aggregateStep, h₁, h₂, h₃]
  simp only [guard, Option.bind_eq_bind, Option.bind_some, if_neg hmalformed]
  rfl

variable {r : ℕ} [Fact r.Prime] {G₁ G₂ Gt : Type} [AddCommGroup G₁] [Module (ZMod r) G₁]
  [AddCommGroup G₂] [Module (ZMod r) G₂] [AddCommGroup Gt] [Module (ZMod r) Gt] [DecidableEq Gt]
  (platform : Platform r G₁ G₂ Gt)

/-- **A proof fit for a batch is not one of 192 bytes.** -/
theorem verifyGroth16Proof_of_wellFormed (s : State) {proof pi : Bytes}
    (h : AggregateWellFormed proof pi) (publicInputs vkHash : Bytes) :
    s.verifyGroth16Proof platform proof publicInputs vkHash ≠ .ok true := by
  have hlen : proof.length ≠ Groth16.proofLen := by
    rw [h.1]
    decide
  rw [Ne, State.verifyGroth16Proof_eq_true]
  exact fun haccept => hlen haccept.2.1

/-- **An accepted batch is never sound for the pairing check**: in every reachable state, none of
its proofs is accepted alone, with its own public inputs and key or with any others. -/
theorem aggregate_unsound (calls : List Call) (elapsed ledgers : Nat) (auths : List Address)
    (aggProof : AggregateProof) (proofs publicInputs vkHashes : List Bytes) (hne : proofs ≠ [])
    (haccepted : verifyAggregateProof
      ((World.after platform calls).env platform.toHost elapsed ledgers auths) aggProof proofs
      publicInputs vkHashes = .ok true) :
    let s := (World.after platform calls).state
    (¬ ∀ i < proofs.length, s.verifyGroth16Proof platform (proofs.getD i [])
        (publicInputs.getD i []) (vkHashes.getD i []) = .ok true) ∧
      ∀ i < proofs.length, ∀ pi vkHash,
        s.verifyGroth16Proof platform (proofs.getD i []) pi vkHash ≠ .ok true := by
  intro s
  have hnone : ∀ i < proofs.length, ∀ pi vkHash,
      s.verifyGroth16Proof platform (proofs.getD i []) pi vkHash ≠ .ok true := fun i hi =>
    verifyGroth16Proof_of_wellFormed platform s
      (wellFormed_of_verifyAggregateProof hne haccepted hi)
  have hpos : 0 < proofs.length := List.length_pos_iff.mpr hne
  exact ⟨fun hsound => hnone 0 hpos _ _ (hsound 0 hpos), hnone⟩

namespace Sample

/-- A proof in the legacy layout, of ones. -/
def legacyProof : Bytes := List.replicate 256 1

def aggregate : AggregateProof := { proofBytes := [], aggNonce := [1], batchSize := 2 }

/-- Public inputs of two field elements. -/
def legacyInputs : Bytes := List.replicate 64 0

end Sample

/-- Two proofs in the legacy layout are accepted as a batch, and neither alone. -/
theorem aggregate_unsound_ones :
    let s := (World.after Sample.platform [Sample.initialized, Sample.keyRegistered]).state
    ∀ i < 2, ∀ pi vkHash,
      s.verifyGroth16Proof Sample.platform ([Sample.legacyProof, Sample.legacyProof].getD i [])
        pi vkHash ≠ .ok true :=
  (aggregate_unsound Sample.platform [Sample.initialized, Sample.keyRegistered] 0 0 []
    Sample.aggregate [Sample.legacyProof, Sample.legacyProof]
    [Sample.legacyInputs, Sample.legacyInputs] [Sample.vkHash, Sample.vkHash] (by decide)
    (by decide +kernel)).2

/-- A batch of two proofs in the legacy layout is accepted, and the proof is not. -/
theorem not_aggregate_sound :
    let w := World.after Sample.platform [Sample.initialized, Sample.keyRegistered]
    verifyAggregateProof (w.env Sample.platform.toHost 0 0 []) Sample.aggregate
        [Sample.legacyProof, Sample.legacyProof] [Sample.legacyInputs, Sample.legacyInputs]
        [Sample.vkHash, Sample.vkHash] = .ok true ∧
      w.state.verifyGroth16Proof Sample.platform Sample.legacyProof Sample.legacyInputs
        Sample.vkHash = .ok false :=
  ⟨by decide +kernel, by decide +kernel⟩

end QuorumProof.Zk
