import QuorumProof.Zk.Verification

/-!
# Zk/Disclosure — who can make a disclosure proof

The response `verify_claim_with_schnorr_proof` expects is the hash of the commitment and of a
challenge that is itself a hash of public data; nothing only the holder knows enters it.  Whoever
can evaluate the hash commits to anything and answers the challenge (`Strategy.forge_forges`).

Source: `verify_claim_with_schnorr_proof`, `verify_conditional_disclosure`.
-/

namespace QuorumProof.Zk

/-- A way to make a proof from public data: the stored key, the credential, the claim, a nonce. -/
abbrev Strategy := Bytes → UInt64 → ClaimType → UInt64 → SchnorrProof

/-- The hash is never all zero. -/
def Host.NeverZero (host : Host) : Prop := ∀ bytes, isZero (host.sha256 bytes) = false

/-- **A disclosure is accepted when its response is the hash the contract expects.** -/
theorem Records.verifyConditionalDisclosure_eq_true {d : Records} {k : Keys} {env : Env}
    {credentialId : UInt64} {claimType : ClaimType} {proof : SchnorrProof} :
    (d.verifyConditionalDisclosure k env credentialId claimType proof none none).2 = true ↔
      ∃ publicKey, k.schnorrPublicKey = some publicKey ∧ isZero proof.commitment = false ∧
        isZero proof.response = false ∧ d.usedSchnorrNonce proof.nonce = none ∧
        proof.response = schnorrResponse env.toHost proof.commitment
          (schnorrChallenge env.toHost publicKey credentialId claimType proof.commitment
            proof.nonce) := by
  have hverdict : (d.verifyConditionalDisclosure k env credentialId claimType proof none none).2 =
      d.schnorrAccepts k env credentialId claimType proof := by
    unfold verifyConditionalDisclosure verifyClaimWithSchnorrProof
    cases d.schnorrAccepts k env credentialId claimType proof <;> rfl
  simp only [hverdict, schnorrAccepts, Accumulate.getD_false_eq_true, Option.bind_eq_bind,
    Option.bind_eq_some_iff, Option.guard_eq_some', exists_const, Option.pure_def,
    Option.some.injEq, decide_eq_true_eq]

namespace Strategy

/-- **A strategy forges**: whatever is stored, its proof for an unused nonce is accepted. -/
def Forges (F : Strategy) (host : Host) : Prop :=
  ∀ (d : Records) (k : Keys) (env : Env) (publicKey : Bytes) (credentialId : UInt64)
    (claimType : ClaimType) (nonce : UInt64), env.toHost = host →
    k.schnorrPublicKey = some publicKey → d.usedSchnorrNonce nonce = none →
    (d.verifyConditionalDisclosure k env credentialId claimType
      (F publicKey credentialId claimType nonce) none none).2 = true

/-- Commit to ones, and answer the challenge as the contract does. -/
def forge (host : Host) : Strategy := fun publicKey credentialId claimType nonce =>
  let commitment := List.replicate 32 1
  let challenge := schnorrChallenge host publicKey credentialId claimType commitment nonce
  { commitment, response := schnorrResponse host commitment challenge, nonce }

/-- **Whoever evaluates the hash forges.** -/
theorem forge_forges {host : Host} (h : host.NeverZero) : (forge host).Forges host := by
  rintro d k env publicKey credentialId claimType nonce rfl hkey hnonce
  exact Records.verifyConditionalDisclosure_eq_true.mpr
    ⟨publicKey, hkey, rfl, h _, hnonce, rfl⟩

/-- **Proofs are forged against every hash.** -/
theorem exists_forges (host : Host) (h : host.NeverZero) : ∃ F : Strategy, F.Forges host :=
  ⟨forge host, forge_forges h⟩

/-- A host whose hash ends each input with a one. -/
def endingHost : Host := { sha256 := fun bytes => bytes ++ [1], toXdr := fun _ => [] }

theorem neverZero_endingHost : endingHost.NeverZero := by
  intro bytes
  simp [endingHost, isZero]

theorem exists_forges_endingHost : endingHost.NeverZero ∧ ∃ F : Strategy, F.Forges endingHost :=
  ⟨neverZero_endingHost, exists_forges endingHost neverZero_endingHost⟩

/-- **There is no such hash against which no strategy forges**, and what the strategy makes for a
stored key is accepted. -/
theorem not_unforgeable :
    (¬ ∃ host : Host, host.NeverZero ∧ ¬ ∃ F : Strategy, F.Forges host) ∧
    let publicKey := List.replicate 32 7
    let env : Env := { endingHost with now := 0, sequence := 0, auths := [] }
    (State.empty.records.verifyConditionalDisclosure
      { State.empty.keys with schnorrPublicKey := some publicKey } env 3 .hasDegree
      (forge endingHost publicKey 3 .hasDegree 5) none none).2 = true := by
  refine ⟨?_, by decide +kernel⟩
  rintro ⟨host, hhost, hforges⟩
  exact hforges ⟨forge host, forge_forges hhost⟩

end Strategy

end QuorumProof.Zk
