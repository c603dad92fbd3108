import QuorumProof.Bbs.Presentation

/-!
# Bbs/Extraction — a signature from two presentations

`verify_presentation` with the challenge treated as a free value, the way a forked random oracle
supplies it.  Two proofs that agree on the blinded points, the revealed messages and the recomputed
commitments but not on the challenge give up what they are proofs of: a signature on messages that
extend the revealed ones, unless one of the two blinding exponents vanishes.

Nothing but the `A_bar` check keeps the last step from being void: the extracted `A` is a multiple
of `A_bar`, and `verify` refuses the identity.
-/

namespace QuorumProof.Bbs

open Bls Tabulate

/-! ## One relation, two challenges -/

/-- **Two answers to one commitment give up the statement.** -/
theorem smul_fork {F G : Type*} [Field F] [AddCommGroup G] [Module F G] {c c' : F} (hc : c ≠ c')
    {Y X X' : G} (h : c • Y + X = c' • Y + X') : Y = (c - c')⁻¹ • (X' - X) := by
  have hdiff : (c - c') • Y = X' - X := by
    rw [sub_smul, sub_eq_sub_iff_add_eq_add, h, add_comm]
  rw [← hdiff, inv_smul_smul₀ (sub_ne_zero.mpr hc)]

/-! ## The indices of a structured proof -/

namespace PresentationProof.Structured

variable {r : ℕ} {G₁ G₂ : Type} {vk : VerifyingKey G₁ G₂} {proof : PresentationProof r G₁}

theorem disjoint_keys (h : proof.Structured vk) :
    Disjoint proof.revealedMessages.keys.toFinset proof.hiddenMessageHats.keys.toFinset := by
  rw [List.disjoint_toFinset_iff_disjoint]
  exact fun idx hr hh => h.disjoint idx hr (Std.TreeMap.mem_keys.mp hh)

/-- **Every index is in exactly one of the two maps**: the count, which the verifier takes modulo
`2 ^ 32`, is that of a set of indices below the number of generators. -/
theorem union_keys (h : proof.Structured vk) :
    proof.revealedMessages.keys.toFinset ∪ proof.hiddenMessageHats.keys.toFinset
      = (hiddenIndices vk.messageGenerators.length []).toFinset := by
  have hsubset : proof.revealedMessages.keys.toFinset ∪ proof.hiddenMessageHats.keys.toFinset
      ⊆ (hiddenIndices vk.messageGenerators.length []).toFinset := by
    intro idx hidx
    rw [List.mem_toFinset, mem_hiddenIndices vk.count_lt]
    rw [Finset.mem_union, List.mem_toFinset, List.mem_toFinset] at hidx
    exact ⟨hidx.elim (h.revealed_lt idx) (h.hidden_lt idx), List.not_mem_nil⟩
  have hall : (hiddenIndices vk.messageGenerators.length []).toFinset.card
      = vk.messageGenerators.length := by
    rw [List.toFinset_card_of_nodup (nodup_hiddenIndices vk.count_lt),
      hiddenIndices_nil vk.count_lt, List.length_map, List.length_range]
  have hcard : (proof.revealedMessages.keys.toFinset
      ∪ proof.hiddenMessageHats.keys.toFinset).card
        = proof.revealedMessages.size + proof.hiddenMessageHats.size := by
    rw [Finset.card_union_of_disjoint h.disjoint_keys,
      List.toFinset_card_of_nodup Std.TreeMap.nodup_keys,
      List.toFinset_card_of_nodup Std.TreeMap.nodup_keys, Std.TreeMap.length_keys,
      Std.TreeMap.length_keys]
  have hle := Finset.card_le_card hsubset
  have hsize := h.size_add
  rw [hcard, hall] at hle
  rw [Nat.mod_eq_of_lt (hle.trans_lt vk.count_lt)] at hsize
  exact Finset.eq_of_subset_of_card_le hsubset (by rw [hcard, hall, hsize])

/-- The hidden indices are those not revealed. -/
theorem hidden_keys (h : proof.Structured vk) :
    proof.hiddenMessageHats.keys.toFinset
      = (hiddenIndices vk.messageGenerators.length []).toFinset
        \ proof.revealedMessages.keys.toFinset := by
  rw [← h.union_keys, Finset.union_sdiff_cancel_left h.disjoint_keys]

end PresentationProof.Structured

/-! ## The extractor -/

section Extractor

variable {r : ℕ} [Fact r.Prime] {G₁ G₂ : Type} (vk : VerifyingKey G₁ G₂)
  (proof proof' : PresentationProof r G₁)

/-- `e = (e_hat - e_hat') / (c - c')`. -/
def extractedE : ZMod r := (proof.eHat - proof'.eHat) / (proof.challenge - proof'.challenge)

/-- `r1 = -(r1_hat - r1_hat') / (c - c')`; the prover subtracts `r1 c`. -/
def extractedR1 : ZMod r := -(proof.r1Hat - proof'.r1Hat) / (proof.challenge - proof'.challenge)

/-- `r3 = -(r3_hat - r3_hat') / (c - c')`. -/
def extractedR3 : ZMod r := -(proof.r3Hat - proof'.r3Hat) / (proof.challenge - proof'.challenge)

/-- `s = (s_hat - s_hat') / (c - c')`. -/
def extractedS : ZMod r := (proof.sHat - proof'.sHat) / (proof.challenge - proof'.challenge)

/-- The revealed message at an index, and `(m_hat - m_hat') / (c - c')` at a hidden one. -/
def extractedMessage (idx : UInt32) : ZMod r :=
  match proof.revealedMessages[idx]? with
  | some message => message
  | none => (proof.hiddenMessageHats.getD idx 0 - proof'.hiddenMessageHats.getD idx 0) /
      (proof.challenge - proof'.challenge)

/-- The extracted messages, in the order of the generators. -/
def extractedMessages : List (ZMod r) :=
  (List.range vk.messageGenerators.length).map fun i =>
    extractedMessage proof proof' (UInt32.ofNat i)

variable {vk proof proof'}

theorem length_extractedMessages :
    (extractedMessages vk proof proof').length = vk.messageGenerators.length := by
  rw [extractedMessages, List.length_map, List.length_range]

theorem getD_extractedMessages {idx : UInt32} (h : idx.toNat < vk.messageGenerators.length) :
    (extractedMessages vk proof proof').getD idx.toNat 0 = extractedMessage proof proof' idx := by
  rw [List.getD_eq_getElem _ _ (by rwa [length_extractedMessages])]
  simp only [extractedMessages, List.getElem_map, List.getElem_range, UInt32.ofNat_toNat]

theorem extractedMessage_of_revealed {idx : UInt32} {message : ZMod r}
    (h : proof.revealedMessages[idx]? = some message) :
    extractedMessage proof proof' idx = message := by
  rw [extractedMessage, h]

end Extractor

variable {r : ℕ} [Fact r.Prime] {G₁ G₂ Gt : Type} [AddCommGroup G₁] [Module (ZMod r) G₁]
  [AddCommGroup G₂] [Module (ZMod r) G₂] [AddCommGroup Gt] [Module (ZMod r) Gt]

/-- Two proofs with one first message: the same blinded points and revealed messages, and the same
recomputed commitments. -/
structure PresentationProof.Forked (suite : Suite r G₁ G₂ Gt) (vk : VerifyingKey G₁ G₂)
    (proof proof' : PresentationProof r G₁) : Prop where
  revealed : ∀ idx : UInt32, proof.revealedMessages[idx]? = proof'.revealedMessages[idx]?
  aBar : proof.aBar = proof'.aBar
  bBar : proof.bBar = proof'.bBar
  d : proof.d = proof'.d
  t1 : proof.t1 = proof'.t1
  t2 : proof.t2 suite vk = proof'.t2 suite vk
  challenge_ne : proof.challenge ≠ proof'.challenge

/-- `(A_bar * (r3/r1), e, s)`. -/
def extractedSignature (proof proof' : PresentationProof r G₁) : Signature r G₁ where
  a := (extractedR3 proof proof' / extractedR1 proof proof') • proof.aBar
  e := extractedE proof proof'
  s := extractedS proof proof'

section Extraction

variable {suite : Suite r G₁ G₂ Gt} {vk : VerifyingKey G₁ G₂}
  {proof proof' : PresentationProof r G₁}

theorem PresentationProof.Forked.revealed_keys (h : proof.Forked suite vk proof') :
    proof.revealedMessages.keys.toFinset = proof'.revealedMessages.keys.toFinset := by
  ext idx
  rw [List.mem_toFinset, List.mem_toFinset, Std.TreeMap.mem_keys, Std.TreeMap.mem_keys,
    Std.TreeMap.mem_iff_isSome_getElem?, Std.TreeMap.mem_iff_isSome_getElem?, h.revealed idx]

/-! ## What the two relations say -/

/-- The first relation gives up `(sk + e) A_bar = r1 D`. -/
theorem smul_aBar_eq {sk : ZMod r} (hw : vk.w = sk • suite.g₂)
    (hpair : suite.pair proof.aBar vk.w = suite.pair proof.bBar suite.g₂)
    (hfork : proof.Forked suite vk proof') :
    (sk + extractedE proof proof') • proof.aBar = extractedR1 proof proof' • proof.d := by
  have hbBar : proof.bBar = sk • proof.aBar := by
    rwa [hw, suite.pair_smul_g₂, suite.pair_g₂_inj, eq_comm] at hpair
  have ht1 := hfork.t1
  rw [PresentationProof.t1, PresentationProof.t1, ← hfork.aBar, ← hfork.bBar, ← hfork.d, add_assoc,
    add_assoc] at ht1
  have hfork := smul_fork hfork.challenge_ne ht1
  rw [extractedE, extractedR1, add_smul, ← hbBar, hfork]
  module

omit [AddCommGroup G₂] [Module (ZMod r) G₂] in
/-- The entries of a map of messages against the generators, as a sum over the keys. -/
theorem sum_messages {map : Std.TreeMap UInt32 (ZMod r)} {f : UInt32 → ZMod r}
    (hf : ∀ idx val, map[idx]? = some val → f idx = val) :
    (map.toList.map fun p => p.2 • vk.messageGenerators.getD p.1.toNat 0).sum
      = ∑ idx ∈ map.keys.toFinset, f idx • vk.messageGenerators.getD idx.toNat 0 :=
  sum_toList hf fun idx val => val • vk.messageGenerators.getD idx.toNat 0

/-- The commitment to the extracted messages, split into the revealed and the hidden ones. -/
theorem commitment_extractedMessages (hchecked : proof.Structured vk) (s : ZMod r) :
    commitment suite vk (extractedMessages vk proof proof') s
      = baseGenerator suite + s • vk.q1 +
        (∑ idx ∈ proof.revealedMessages.keys.toFinset,
            extractedMessage proof proof' idx • vk.messageGenerators.getD idx.toNat 0 +
          ∑ idx ∈ proof.hiddenMessageHats.keys.toFinset,
            extractedMessage proof proof' idx • vk.messageGenerators.getD idx.toNat 0) := by
  have hlen : (extractedMessages vk proof proof').length = vk.messageGenerators.length :=
    length_extractedMessages
  rw [commitment, sum_allIndices hlen.symm (hlen ▸ vk.count_lt), hlen,
    ← Finset.sum_union hchecked.disjoint_keys, hchecked.union_keys]
  congr 1
  refine Finset.sum_congr rfl fun idx hidx => ?_
  rw [List.mem_toFinset, mem_hiddenIndices vk.count_lt] at hidx
  rw [getD_extractedMessages hidx.1]

/-- The second relation gives up `compute_b(s, m) = r3 D`. -/
theorem commitment_eq_smul_d (hchecked : proof.Structured vk) (hchecked' : proof'.Structured vk)
    (hfork : proof.Forked suite vk proof') :
    commitment suite vk (extractedMessages vk proof proof') (extractedS proof proof')
      = extractedR3 proof proof' • proof.d := by
  have hhidden : proof'.hiddenMessageHats.keys.toFinset
      = proof.hiddenMessageHats.keys.toFinset := by
    rw [hchecked.hidden_keys, hchecked'.hidden_keys, hfork.revealed_keys]
  have hread : ∀ {map : Std.TreeMap UInt32 (ZMod r)} idx val, map[idx]? = some val →
      map.getD idx 0 = val := fun idx val h => by
    rw [Std.TreeMap.getD_eq_getD_getElem?, h, Option.getD_some]
  have ht2 := hfork.t2
  simp only [PresentationProof.t2] at ht2
  rw [sum_messages (f := extractedMessage proof proof') fun _ _ => extractedMessage_of_revealed,
    sum_messages (f := extractedMessage proof proof') fun idx _ h =>
      extractedMessage_of_revealed ((hfork.revealed idx).trans h),
    ← hfork.revealed_keys, sum_messages hread, sum_messages hread, hhidden, ← hfork.d, add_assoc,
    add_assoc, add_assoc, add_assoc] at ht2
  have hstatement := smul_fork hfork.challenge_ne ht2
  have hmessages : ∑ idx ∈ proof.hiddenMessageHats.keys.toFinset,
      extractedMessage proof proof' idx • vk.messageGenerators.getD idx.toNat 0
        = (proof.challenge - proof'.challenge)⁻¹ •
          (∑ idx ∈ proof.hiddenMessageHats.keys.toFinset,
              proof.hiddenMessageHats.getD idx 0 • vk.messageGenerators.getD idx.toNat 0 -
            ∑ idx ∈ proof.hiddenMessageHats.keys.toFinset,
              proof'.hiddenMessageHats.getD idx 0 • vk.messageGenerators.getD idx.toNat 0) := by
    rw [← Finset.sum_sub_distrib, Finset.smul_sum]
    refine Finset.sum_congr rfl fun idx hidx => ?_
    have hnot : idx ∉ proof.revealedMessages := fun hmem => hchecked.disjoint idx
      (Std.TreeMap.mem_keys.mpr hmem) (Std.TreeMap.mem_keys.mp (List.mem_toFinset.mp hidx))
    rw [extractedMessage, Std.TreeMap.getElem?_eq_none hnot, div_eq_inv_mul, ← sub_smul, mul_smul]
  rw [commitment_extractedMessages hchecked, hmessages, add_assoc, add_left_comm (_ • vk.q1),
    ← add_assoc, hstatement, extractedR3, extractedS]
  module

/-- **Presentations are special-sound**: two proofs with one first message and different challenges,
accepted by `verify_presentation` with the challenges it expects left free, give up a signature on
the revealed messages and the extracted hidden ones, or the secret key, or messages whose
commitment is the identity. -/
theorem forked_presentations_extract [DecidableEq G₁] [DecidableEq Gt] (suite : Suite r G₁ G₂ Gt)
    (sk : ZMod r) (vk : VerifyingKey G₁ G₂) (hw : vk.w = sk • suite.g₂)
    (proof proof' : PresentationProof r G₁) (challengeOf challengeOf' : G₁ → G₁ → ZMod r)
    (haccepted : verifyPresentationWith suite vk proof challengeOf = .ok true)
    (haccepted' : verifyPresentationWith suite vk proof' challengeOf' = .ok true)
    (hfork : proof.Forked suite vk proof') :
    (extractedR1 proof proof' ≠ 0 → extractedR3 proof proof' ≠ 0 →
      verify suite vk (extractedMessages vk proof proof') (extractedSignature proof proof')
        = .ok true) ∧
    (extractedR1 proof proof' = 0 → sk + extractedE proof proof' = 0) ∧
    (extractedR3 proof proof' = 0 →
      computeB suite vk (extractedMessages vk proof proof') (extractedS proof proof') = .ok 0) := by
  obtain ⟨hstructured, haBar, -, hpair⟩ := verifyPresentationWith_eq_true.mp haccepted
  obtain ⟨hstructured', -⟩ := verifyPresentationWith_eq_true.mp haccepted'
  have hfirst := smul_aBar_eq hw hpair hfork
  have hsecond := commitment_eq_smul_d hstructured hstructured' hfork
  refine ⟨fun hr1 hr3 => (verify_eq_true hw).mpr ⟨length_extractedMessages, ?_, ?_⟩,
    fun hr1 => ?_, fun hr3 => computeB_eq_ok.mpr ⟨length_extractedMessages, ?_⟩⟩
  · exact smul_ne_zero (div_ne_zero hr3 hr1) haBar
  · rw [extractedSignature, hsecond, smul_comm, hfirst, smul_smul, div_mul_cancel₀ _ hr1]
  · rw [hr1, zero_smul] at hfirst
    exact (smul_eq_zero.mp hfirst).resolve_right haBar
  · rw [hsecond, hr3, zero_smul]

end Extraction

namespace Sample

/-- The answer of the holder of `⟨14, 1, 1⟩` on `[1, 2]`, blinded by `rng`, to a challenge, with the
second message revealed. -/
def answer (challenge : ZMod 17) : PresentationProof 17 (ZMod 17) where
  aBar := Bls.Sample.element 4
  bBar := Bls.Sample.element 12
  d := Bls.Sample.element 8
  eHat := rng.eTilde + challenge
  r1Hat := rng.r1Tilde - rng.r1 * challenge
  r3Hat := rng.r3Tilde - rng.r2⁻¹ * challenge
  sHat := rng.sTilde + challenge
  hiddenMessageHats := tabulate (fun _ => challenge) [0]
  revealedMessages := tabulate (fun _ => Bls.Sample.element 2) [1]
  challenge := challenge

end Sample

open Bbs.Sample

/-- The holder of a signature, asked twice, gives it up. -/
theorem forked_presentations_extract_sample :
    verify Bls.Sample.suite verifyingKey
      (extractedMessages verifyingKey (answer 1) (answer 3))
      (extractedSignature (answer 1) (answer 3)) = .ok true :=
  (forked_presentations_extract Bls.Sample.suite (Bls.Sample.element 3) verifyingKey
    (by decide) (answer 1) (answer 3) (fun _ _ => 1) (fun _ _ => 3) (by decide +kernel)
    (by decide +kernel)
    ⟨fun _ => rfl, rfl, rfl, rfl, by decide, by decide +kernel, by decide⟩).1
    (by decide +kernel) (by decide +kernel)

end QuorumProof.Bbs
