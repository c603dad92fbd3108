import QuorumProof.Lib.Machine
import QuorumProof.Zk.Disclosure

/-!
# Zk/SingleUse — disclosure proofs that are presented again

Two entry points accept a Schnorr proof.  `verify_conditional_disclosure` refuses a nonce that is
recorded and records the nonce of a proof that checks, before it looks at the range part;
`verify_claim_with_proof` neither looks at the nonces nor records one.  So a proof is accepted once,
and one that is refused can be presented again, where all calls are of the first kind and have no
range part (`Presentation.singleUse_of_whole`).

Source: `verify_conditional_disclosure`, `verify_claim_with_proof`.
-/

namespace QuorumProof.Zk

/-- A call that presents a Schnorr proof. -/
inductive Presentation
  | conditionalDisclosure (env : Env) (credentialId : UInt64) (claimType : ClaimType)
      (proof : SchnorrProof) (rangeProof : Option BulletproofRangeProof)
      (rangeType : Option RangeProofType)
  | claimWithProof (env : Env) (credentialId : UInt64) (claimType : ClaimType)
      (metadataHash : Bytes) (proof : SchnorrProof)

namespace Presentation

/-- The proof that is presented. -/
def proof : Presentation → SchnorrProof
  | conditionalDisclosure _ _ _ proof _ _ | claimWithProof _ _ _ _ proof => proof

/-- What a call leaves, and what it answers. -/
def perform (k : Keys) (d : Records) : Presentation → Records × Bool
  | conditionalDisclosure env credentialId claimType proof rangeProof rangeType =>
    d.verifyConditionalDisclosure k env credentialId claimType proof rangeProof rangeType
  | claimWithProof env credentialId claimType metadataHash proof =>
    (d, k.verifyClaimWithProof env credentialId claimType metadataHash proof)

/-- The proofs that are accepted in a run of calls. -/
def accepted (k : Keys) : Records → List Presentation → List SchnorrProof
  | _, [] => []
  | d, c :: calls =>
    let (d', answer) := c.perform k d
    if answer then c.proof :: accepted k d' calls else accepted k d' calls

/-- **Proofs are used once**: none is accepted twice, and a call that refuses one leaves the nonces
as they were. -/
structure SingleUse (k : Keys) (d : Records) (calls : List Presentation) : Prop where
  once : (accepted k d calls).Nodup
  refused : Machine.Along (fun d c => (perform k d c).1) (fun d c => (c.perform k d).2 = false →
    (c.perform k d).1.usedSchnorrNonce = d.usedSchnorrNonce) d calls

/-- A conditional disclosure with no range part. -/
def Whole : Presentation → Prop
  | conditionalDisclosure _ _ _ _ rangeProof rangeType => rangeProof = none ∨ rangeType = none
  | claimWithProof .. => False

variable {k : Keys} {d : Records} {c : Presentation} {calls : List Presentation}

/-- **Such a call refuses and leaves the records, or accepts and uses up the nonce.** -/
theorem perform_of_whole (h : c.Whole) : c.perform k d = (d, false) ∨
    d.usedSchnorrNonce c.proof.nonce = none ∧ c.perform k d =
      ({ d with usedSchnorrNonce := d.usedSchnorrNonce.set c.proof.nonce true }, true) := by
  cases c with
  | claimWithProof => exact h.elim
  | conditionalDisclosure env credentialId claimType proof rangeProof rangeType =>
    simp only [perform, Records.verifyConditionalDisclosure, Records.verifyClaimWithSchnorrProof]
    cases haccepts : d.schnorrAccepts k env credentialId claimType proof with
    | false => exact .inl rfl
    | true =>
      have hunused : d.usedSchnorrNonce proof.nonce = none := by
        by_contra hused
        simp [Records.schnorrAccepts, hused, guard] at haccepts
      refine .inr ⟨hunused, ?_⟩
      rcases h with rfl | rfl
      · rfl
      · cases rangeProof <;> rfl

/-- What is accepted has a nonce that was not used. -/
theorem unused_of_accepted (h : ∀ c ∈ calls, c.Whole) {proof : SchnorrProof}
    (hproof : proof ∈ accepted k d calls) : d.usedSchnorrNonce proof.nonce = none := by
  induction calls generalizing d with
  | nil => cases hproof
  | cons c calls ih =>
    obtain ⟨hc, hcalls⟩ := List.forall_mem_cons.mp h
    rcases perform_of_whole (k := k) (d := d) hc with hrefused | ⟨hunused, haccepted⟩
    · simp only [accepted, hrefused, Bool.false_eq_true, if_false] at hproof
      exact ih hcalls hproof
    · simp only [accepted, haccepted, if_true] at hproof
      rcases List.mem_cons.mp hproof with rfl | hrest
      · exact hunused
      · have hrest := ih hcalls hrest
        grind [Store.set_apply]

/-- **Whole disclosures use a proof once.** -/
theorem singleUse_of_whole (k : Keys) (d : Records) (calls : List Presentation)
    (h : ∀ c ∈ calls, c.Whole) : SingleUse k d calls := by
  induction calls generalizing d with
  | nil => exact ⟨List.nodup_nil, trivial⟩
  | cons c calls ih =>
    obtain ⟨hc, hcalls⟩ := List.forall_mem_cons.mp h
    have hrest := ih (c.perform k d).1 hcalls
    rcases perform_of_whole (k := k) (d := d) hc with hrefused | ⟨hunused, haccepted⟩
    · refine ⟨?_, fun _ => by rw [hrefused], hrest.refused⟩
      simpa [accepted, hrefused] using hrest.once
    · refine ⟨?_, fun hfalse => by simp [haccepted] at hfalse, hrest.refused⟩
      rw [haccepted] at hrest
      simp only [accepted, haccepted, if_true, List.nodup_cons]
      refine ⟨fun hagain => ?_, hrest.once⟩
      have := unused_of_accepted hcalls hagain
      simp at this

end Presentation

namespace Sample

/-- The Schnorr key is set. -/
def schnorrKeys : Keys := { State.empty.keys with schnorrPublicKey := some [] }

/-- What a call sees of a host whose hash is one digest. -/
def digestEnv : Env :=
  { sha256 := fun _ => List.replicate 32 1, toXdr := fun _ => [], now := 0, sequence := 0
    auths := [] }

/-- The proof that answers with the digest. -/
def answer (nonce : UInt64) : SchnorrProof := ⟨List.replicate 32 1, List.replicate 32 1, nonce⟩

/-- A disclosure of that proof. -/
def disclose (nonce : UInt64) (rangeProof : Option BulletproofRangeProof) : Presentation :=
  .conditionalDisclosure digestEnv 1 .hasDegree (answer nonce) rangeProof (some .salary)

end Sample

open Zk.Sample Presentation

/-- Of three disclosures the one that repeats a nonce is refused. -/
theorem singleUse_three :
    SingleUse schnorrKeys State.empty.records [disclose 0 none, disclose 0 none, disclose 1 none] ∧
      accepted schnorrKeys State.empty.records
        [disclose 0 none, disclose 0 none, disclose 1 none] = [answer 0, answer 1] :=
  ⟨singleUse_of_whole _ _ _ (by simp [disclose, Whole]), by decide⟩

/-- **Neither half holds of all calls**: `verify_claim_with_proof` accepts a proof again, and a
range part that fails uses up the nonce. -/
theorem not_singleUse :
    (¬ ∀ (k : Keys) (d : Records) (calls : List Presentation), (accepted k d calls).Nodup) ∧
      ¬ ∀ (k : Keys) (d : Records) (c : Presentation), (c.perform k d).2 = false →
        (c.perform k d).1.usedSchnorrNonce = d.usedSchnorrNonce := by
  refine ⟨fun h => ?_, fun h => ?_⟩
  · let again : Presentation := .claimWithProof digestEnv 1 .hasDegree [] (answer 0)
    exact absurd (h schnorrKeys State.empty.records [again, again]) (by decide)
  · have hnonce := congrFun (h schnorrKeys State.empty.records (disclose 0 (some ⟨[], [], 0, 1, 8⟩))
      (by decide)) 0
    exact absurd hnonce (by decide)

end QuorumProof.Zk
