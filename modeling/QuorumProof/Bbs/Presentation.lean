import QuorumProof.Bbs.Signature
import QuorumProof.Lib.Tabulate
import Mathlib.Tactic.Module

/-!
# Bbs/Presentation — selective disclosure of signed messages

`contracts/bbs_plus_v1/src/transcript.rs` and `presentation.rs`.  A presentation re-randomizes the
signature and proves two Schnorr relations about it, one response per hidden message.  The verifier
recomputes the two commitments from the responses; for an honest prover they are the ones the
challenge was derived from, whatever the split of the indices into hidden and revealed.
-/

namespace QuorumProof.Bbs

open Guarded Bls Tabulate

variable {r : ℕ} [Fact r.Prime] {G₁ G₂ Gt : Type} [AddCommGroup G₁] [Module (ZMod r) G₁]
  [AddCommGroup G₂] [Module (ZMod r) G₂] [AddCommGroup Gt] [Module (ZMod r) Gt]

/-! ## The transcript -/

/-- `Transcript`: the bytes the running SHA-256 state has absorbed. -/
structure Transcript where
  hashState : Bytes

namespace Transcript

def new (domain : Bytes) : Transcript := ⟨byteString "QuorumProof-Transcript-v1" ++ domain⟩

/-- `Transcript::append`, with both lengths in front. -/
def append (transcript : Transcript) (label data : Bytes) : Transcript :=
  ⟨transcript.hashState ++ LittleEndian.toBytes 4 label.length ++ label ++
    LittleEndian.toBytes 4 data.length ++ data⟩

/-- The loop of `squeeze_bytes`: every digest is output and absorbed. -/
def squeezeBlocks (sha256 : Bytes → Bytes) : ℕ → Bytes → Bytes
  | 0, _ => []
  | blocks + 1, absorbed =>
    let hash := sha256 absorbed
    hash ++ squeezeBlocks sha256 blocks (absorbed ++ hash)

def squeezeBytes (sha256 : Bytes → Bytes) (transcript : Transcript) (length : ℕ) : Bytes :=
  (squeezeBlocks sha256 ((length + 31) / 32) (sha256 transcript.hashState)).take length

def squeezeChallenge (sha256 : Bytes → Bytes) (transcript : Transcript) : ZMod r :=
  scalarFromBytesWide (transcript.squeezeBytes sha256 64)

end Transcript

/-! ## Presentations -/

abbrev RevealedSet (r : ℕ) := Std.TreeMap UInt32 (ZMod r)

structure PresentationProof (r : ℕ) (G₁ : Type) where
  aBar : G₁
  bBar : G₁
  d : G₁
  eHat : ZMod r
  r1Hat : ZMod r
  r3Hat : ZMod r
  sHat : ZMod r
  hiddenMessageHats : Std.TreeMap UInt32 (ZMod r)
  revealedMessages : RevealedSet r
  challenge : ZMod r

/-- What the random number generator supplies to one proof.  `nonzero` draws again until `r1` and
`r2` are not zero. -/
structure Rng (r : ℕ) where
  r1 : ZMod r
  r2 : ZMod r
  eTilde : ZMod r
  r1Tilde : ZMod r
  r3Tilde : ZMod r
  sTilde : ZMod r
  hiddenTilde : UInt32 → ZMod r
  r1_ne_zero : r1 ≠ 0
  r2_ne_zero : r2 ≠ 0

/-- The `hidden_tildes` of `sample_randomness`. -/
def sampleHiddenTildes (rng : Rng r) (hiddenIndices : List UInt32) : Std.TreeMap UInt32 (ZMod r) :=
  hiddenIndices.foldl (fun hiddenTildes idx => hiddenTildes.insert idx (rng.hiddenTilde idx)) ∅

variable (suite : Suite r G₁ G₂ Gt)

def computeChallenge (vk : VerifyingKey G₁ G₂) (revealed : RevealedSet r) (aBar bBar d t1 t2 : G₁)
    (presentationContext : Bytes) : ZMod r :=
  let transcript := Transcript.new (byteString "QuorumProof-BBS-v1")
  let transcript := transcript.append (byteString "vk_w") (suite.toCompressed₂ vk.w)
  let transcript := transcript.append (byteString "a_bar") (suite.toCompressed₁ aBar)
  let transcript := transcript.append (byteString "b_bar") (suite.toCompressed₁ bBar)
  let transcript := transcript.append (byteString "d") (suite.toCompressed₁ d)
  let transcript := transcript.append (byteString "t1") (suite.toCompressed₁ t1)
  let transcript := transcript.append (byteString "t2") (suite.toCompressed₁ t2)
  let transcript := revealed.toList.foldl (fun transcript (idx, val) =>
    (transcript.append (byteString "rev_idx") (LittleEndian.toBytes 4 idx.toNat)).append
      (byteString "rev_val") (scalarToBytes val)) transcript
  let transcript := transcript.append (byteString "ctx") presentationContext
  transcript.squeezeChallenge suite.sha256

/-- `(0..l).filter(|i| !revealed_indices.contains(i))` for `l = len as u32`. -/
def hiddenIndices (len : ℕ) (revealedIndices : List UInt32) : List UInt32 :=
  ((List.range (len % 2 ^ 32)).map UInt32.ofNat).filter (· ∉ revealedIndices)

/-- `values[idx as usize]`. -/
def entryAt {α : Type} (values : List α) (idx : UInt32) : BbsResult α :=
  expect values[idx.toNat]? (.panic "index out of bounds")

/-- A loop over the entries of a map, adding to `acc` the generator of each times its value. -/
def addEntries (generators : List G₁) (entries : List (UInt32 × ZMod r)) (acc : G₁) :
    BbsResult G₁ :=
  entries.foldlM (fun acc (idx, val) => do
    let h ← entryAt generators idx
    return acc + val • h) acc

/-- The loop over the hidden indices that completes `t2`. -/
def addHiddenTildes (generators : List G₁) (hiddenTildes : Std.TreeMap UInt32 (ZMod r))
    (hiddenIndices : List UInt32) (t2 : G₁) : BbsResult G₁ :=
  hiddenIndices.foldlM (fun t2 idx => do
    let hj ← entryAt generators idx
    let mTildeJ ← expect hiddenTildes[idx]? (.panic "sampled above")
    return t2 + mTildeJ • hj) t2

/-- The loop that fills `revealed_messages`. -/
def revealMessages (messages : List (ZMod r)) (revealedIndices : List UInt32) :
    BbsResult (RevealedSet r) :=
  revealedIndices.foldlM (fun revealedMessages idx => do
    let message ← entryAt messages idx
    return revealedMessages.insert idx message) ∅

/-- The loop that fills `hidden_message_hats`. -/
def respondHidden (messages : List (ZMod r)) (hiddenTildes : Std.TreeMap UInt32 (ZMod r))
    (challenge : ZMod r) (hiddenIndices : List UInt32) :
    BbsResult (Std.TreeMap UInt32 (ZMod r)) :=
  hiddenIndices.foldlM (fun hats idx => do
    let mTildeJ ← expect hiddenTildes[idx]? (.panic "sampled above")
    let message ← entryAt messages idx
    return hats.insert idx (mTildeJ + message * challenge)) ∅

def createPresentation (rng : Rng r) (signature : Signature r G₁) (vk : VerifyingKey G₁ G₂)
    (messages : List (ZMod r)) (revealedIndices : List UInt32) (presentationContext : Bytes) :
    BbsResult (PresentationProof r G₁) := do
  require (messages.length = vk.messageGenerators.length) (.err .invalidMessageCount)
  revealedIndices.forM fun idx =>
    require (idx.toNat < messages.length) (.err .invalidProofStructure)
  let hiddenIndices := hiddenIndices messages.length revealedIndices
  let hiddenTildes := sampleHiddenTildes rng hiddenIndices
  let b ← computeB suite vk messages signature.s
  let r3 ← invert rng.r2
  let d := rng.r2 • b
  let aBar := (rng.r1 * rng.r2) • signature.a
  let bBar := rng.r1 • d - signature.e • aBar
  let t1 := rng.eTilde • aBar + rng.r1Tilde • d
  let t2 ← addHiddenTildes vk.messageGenerators hiddenTildes hiddenIndices
    (rng.r3Tilde • d + rng.sTilde • vk.q1)
  let revealedMessages ← revealMessages messages revealedIndices
  let challenge := computeChallenge suite vk revealedMessages aBar bBar d t1 t2 presentationContext
  let hiddenMessageHats ← respondHidden messages hiddenTildes challenge hiddenIndices
  return {
    aBar, bBar, d
    eHat := rng.eTilde + signature.e * challenge
    r1Hat := rng.r1Tilde - rng.r1 * challenge
    r3Hat := rng.r3Tilde - r3 * challenge
    sHat := rng.sTilde + signature.s * challenge
    hiddenMessageHats, revealedMessages, challenge }

/-- `verify_presentation`, with the challenge of the recomputed commitments given. -/
def verifyPresentationWith [DecidableEq G₁] [DecidableEq Gt] (vk : VerifyingKey G₁ G₂)
    (proof : PresentationProof r G₁) (challengeOf : G₁ → G₁ → ZMod r) : BbsResult Bool := do
  let l := vk.messageGenerators.length % 2 ^ 32
  proof.revealedMessages.keys.forM fun idx =>
    require (idx.toNat < l) (.err .invalidProofStructure)
  proof.hiddenMessageHats.keys.forM fun idx =>
    require (idx.toNat < l) (.err .invalidProofStructure)
  require ((proof.revealedMessages.size + proof.hiddenMessageHats.size) % 2 ^ 32 = l)
    (.err .invalidProofStructure)
  proof.revealedMessages.keys.forM fun idx =>
    require (idx ∉ proof.hiddenMessageHats) (.err .invalidProofStructure)
  if proof.aBar = 0 then return false
  let t1 := proof.challenge • proof.bBar + proof.eHat • proof.aBar + proof.r1Hat • proof.d
  let bv ← addEntries vk.messageGenerators proof.revealedMessages.toList (baseGenerator suite)
  let t2 ← addEntries vk.messageGenerators proof.hiddenMessageHats.toList
    (proof.challenge • bv + proof.r3Hat • proof.d + proof.sHat • vk.q1)
  let expectedChallenge := challengeOf t1 t2
  if proof.challenge ≠ expectedChallenge then return false
  let lhs := suite.pair proof.aBar vk.w
  let rhs := suite.pair proof.bBar suite.g₂
  return lhs = rhs

def verifyPresentation [DecidableEq G₁] [DecidableEq Gt] (vk : VerifyingKey G₁ G₂)
    (proof : PresentationProof r G₁) (presentationContext : Bytes) : BbsResult Bool :=
  verifyPresentationWith suite vk proof fun t1 t2 =>
    computeChallenge suite vk proof.revealedMessages proof.aBar proof.bBar proof.d t1 t2
      presentationContext

/-! ## The two sides of an honest proof -/

section Indices

variable {len : ℕ} {revealedIndices : List UInt32} (hlen : len < 2 ^ 32)

include hlen

theorem mem_hiddenIndices {idx : UInt32} :
    idx ∈ hiddenIndices len revealedIndices ↔ idx.toNat < len ∧ idx ∉ revealedIndices := by
  rw [hiddenIndices, List.mem_filter, List.mem_map, Nat.mod_eq_of_lt hlen, decide_eq_true_iff]
  refine and_congr_left fun _ => ⟨?_, fun h => ⟨idx.toNat, List.mem_range.mpr h, ?_⟩⟩
  · rintro ⟨i, hi, rfl⟩
    have hi' : i < len := List.mem_range.mp hi
    rwa [UInt32.toNat_ofNat_of_lt' (hi'.trans hlen)]
  · exact UInt32.ofNat_toNat

theorem nodup_hiddenIndices : (hiddenIndices len revealedIndices).Nodup := by
  rw [hiddenIndices, Nat.mod_eq_of_lt hlen]
  refine List.Nodup.filter _ (List.Nodup.map_on (fun i hi j hj h => ?_) List.nodup_range)
  have h' := congrArg UInt32.toNat h
  rwa [UInt32.toNat_ofNat_of_lt' ((List.mem_range.mp hi).trans hlen),
    UInt32.toNat_ofNat_of_lt' ((List.mem_range.mp hj).trans hlen)] at h'

theorem hiddenIndices_nil : hiddenIndices len [] = (List.range len).map UInt32.ofNat := by
  rw [hiddenIndices, Nat.mod_eq_of_lt hlen]
  exact List.filter_eq_self.mpr fun _ _ => by simp

theorem disjoint_hiddenIndices :
    Disjoint revealedIndices.toFinset (hiddenIndices len revealedIndices).toFinset := by
  rw [List.disjoint_toFinset_iff_disjoint]
  exact fun idx h h' => ((mem_hiddenIndices hlen).mp h').2 h

/-- Every index is revealed or hidden. -/
theorem union_hiddenIndices (hrange : ∀ idx ∈ revealedIndices, idx.toNat < len) :
    revealedIndices.toFinset ∪ (hiddenIndices len revealedIndices).toFinset
      = (hiddenIndices len []).toFinset := by
  ext idx
  simp only [Finset.mem_union, List.mem_toFinset, mem_hiddenIndices hlen, List.not_mem_nil,
    not_false_eq_true, and_true]
  exact ⟨fun h => h.elim (hrange idx) And.left, fun h => (em _).imp_right fun h' => ⟨h, h'⟩⟩

theorem card_hiddenIndices (hrange : ∀ idx ∈ revealedIndices, idx.toNat < len) :
    revealedIndices.toFinset.card + (hiddenIndices len revealedIndices).toFinset.card = len := by
  rw [← Finset.card_union_of_disjoint (disjoint_hiddenIndices hlen),
    union_hiddenIndices hlen hrange, List.toFinset_card_of_nodup (nodup_hiddenIndices hlen),
    hiddenIndices_nil hlen, List.length_map, List.length_range]

end Indices

theorem entryAt_of_lt {α : Type} [Zero α] {values : List α} {idx : UInt32}
    (h : idx.toNat < values.length) : entryAt values idx = .ok (values.getD idx.toNat 0) := by
  rw [entryAt, expect_eq_ok, List.getD_eq_getElem _ _ h, List.getElem?_eq_getElem h]

theorem addEntries_eq {generators : List G₁} {entries : List (UInt32 × ZMod r)}
    (hentries : ∀ p ∈ entries, p.1.toNat < generators.length) (acc : G₁) :
    addEntries generators entries acc
      = .ok (acc + (entries.map fun p => p.2 • generators.getD p.1.toNat 0).sum) := by
  rw [← Accumulate.foldl_add fun p : UInt32 × ZMod r => p.2 • generators.getD p.1.toNat 0]
  refine foldlM_eq_ok (fun p hp acc => ?_) acc
  exact bind_eq_ok.mpr ⟨_, entryAt_of_lt (hentries p hp), rfl⟩

omit [Fact r.Prime] in
theorem entries_lt {map : Std.TreeMap UInt32 (ZMod r)} {len : ℕ}
    (h : ∀ idx ∈ map.keys, idx.toNat < len) : ∀ p ∈ map.toList, p.1.toNat < len := fun p hp =>
  h p.1 (Std.TreeMap.map_fst_toList_eq_keys ▸ List.mem_map_of_mem hp)

/-! ## What the verifier checks -/

section Verifier

/-- Every message index is in exactly one of the two maps. -/
structure PresentationProof.Structured (vk : VerifyingKey G₁ G₂) (proof : PresentationProof r G₁) :
    Prop where
  revealed_lt : ∀ idx ∈ proof.revealedMessages.keys, idx.toNat < vk.messageGenerators.length
  hidden_lt : ∀ idx ∈ proof.hiddenMessageHats.keys, idx.toNat < vk.messageGenerators.length
  size_add : (proof.revealedMessages.size + proof.hiddenMessageHats.size) % 2 ^ 32
    = vk.messageGenerators.length
  disjoint : ∀ idx ∈ proof.revealedMessages.keys, idx ∉ proof.hiddenMessageHats

/-- `T1' = Bbar*c + Abar*e^ + D*r1^`. -/
def PresentationProof.t1 (proof : PresentationProof r G₁) : G₁ :=
  proof.challenge • proof.bBar + proof.eHat • proof.aBar + proof.r1Hat • proof.d

/-- `T2' = Bv*c + D*r3^ + Q1*s^ + sum(H_j * m^_j)`. -/
def PresentationProof.t2 (vk : VerifyingKey G₁ G₂) (proof : PresentationProof r G₁) : G₁ :=
  let term := fun p : UInt32 × ZMod r => p.2 • vk.messageGenerators.getD p.1.toNat 0
  proof.challenge • (baseGenerator suite + (proof.revealedMessages.toList.map term).sum) +
    proof.r3Hat • proof.d + proof.sHat • vk.q1 + (proof.hiddenMessageHats.toList.map term).sum

variable [DecidableEq G₁] [DecidableEq Gt] {suite} {vk : VerifyingKey G₁ G₂}
  {proof : PresentationProof r G₁}

/-- **`verify_presentation` accepts exactly the proofs with the right structure whose challenge is
that of the recomputed commitments and whose blinded points pass the pairing check.** -/
theorem verifyPresentationWith_eq_true {challengeOf : G₁ → G₁ → ZMod r} :
    verifyPresentationWith suite vk proof challengeOf = .ok true ↔
      proof.Structured vk ∧ proof.aBar ≠ 0 ∧
        proof.challenge = challengeOf proof.t1 (proof.t2 suite vk) ∧
        suite.pair proof.aBar vk.w = suite.pair proof.bBar suite.g₂ := by
  have hmod : vk.messageGenerators.length % 2 ^ 32 = vk.messageGenerators.length :=
    Nat.mod_eq_of_lt vk.count_lt
  simp only [verifyPresentationWith, bind_eq_ok, forM_eq_ok, require_eq_ok, exists_const, hmod]
  constructor
  · rintro ⟨hrevealed, hhidden, hsize, hdisjoint, haccept⟩
    rw [addEntries_eq (entries_lt hrevealed)] at haccept
    by_cases ha : proof.aBar = 0
    · simp [ha] at haccept
    · simp only [ha, if_false, bind_eq_ok, Except.ok.injEq, exists_eq_left',
        addEntries_eq (entries_lt hhidden)] at haccept
      refine ⟨⟨hrevealed, hhidden, hsize, hdisjoint⟩, ha, ?_⟩
      split at haccept
      · simp at haccept
      · rename_i hchallenge
        exact ⟨not_ne_iff.mp hchallenge, by simpa using haccept⟩
  · rintro ⟨⟨hrevealed, hhidden, hsize, hdisjoint⟩, ha, hchallenge, hpair⟩
    refine ⟨hrevealed, hhidden, hsize, hdisjoint, ?_⟩
    rw [if_neg ha, addEntries_eq (entries_lt hrevealed)]
    refine bind_eq_ok.mpr ⟨_, rfl, bind_eq_ok.mpr ⟨_, addEntries_eq (entries_lt hhidden) _, ?_⟩⟩
    refine (if_neg (not_not.mpr hchallenge)).trans ?_
    rw [decide_eq_true hpair]
    rfl

end Verifier

section Prover

variable {keys : List UInt32} (rng : Rng r)

omit [Fact r.Prime] in
theorem getElem?_sampleHiddenTildes {idx : UInt32} (h : idx ∈ keys) :
    (sampleHiddenTildes rng keys)[idx]? = some (rng.hiddenTilde idx) :=
  (getElem?_tabulate rng.hiddenTilde keys idx).trans (if_pos h)

theorem addHiddenTildes_eq {generators : List G₁} (hnodup : keys.Nodup)
    (hkeys : ∀ idx ∈ keys, idx.toNat < generators.length) (t2 : G₁) :
    addHiddenTildes generators (sampleHiddenTildes rng keys) keys t2
      = .ok (t2 + ∑ idx ∈ keys.toFinset, rng.hiddenTilde idx • generators.getD idx.toNat 0) := by
  rw [List.sum_toFinset _ hnodup,
    ← Accumulate.foldl_add fun idx => rng.hiddenTilde idx • generators.getD idx.toNat 0]
  refine foldlM_eq_ok (fun idx h t2 => bind_eq_ok.mpr ⟨_, entryAt_of_lt (hkeys idx h), ?_⟩) t2
  exact bind_eq_ok.mpr ⟨_, expect_eq_ok.mpr (getElem?_sampleHiddenTildes rng h), rfl⟩

theorem revealMessages_eq {messages : List (ZMod r)}
    (hkeys : ∀ idx ∈ keys, idx.toNat < messages.length) :
    revealMessages messages keys = .ok (tabulate (fun idx => messages.getD idx.toNat 0) keys) := by
  refine foldlM_eq_ok (fun idx h map => ?_) ∅
  exact bind_eq_ok.mpr ⟨_, entryAt_of_lt (hkeys idx h), rfl⟩

theorem respondHidden_eq {messages : List (ZMod r)} (challenge : ZMod r)
    (hkeys : ∀ idx ∈ keys, idx.toNat < messages.length) :
    respondHidden messages (sampleHiddenTildes rng keys) challenge keys = .ok (tabulate
      (fun idx => rng.hiddenTilde idx + messages.getD idx.toNat 0 * challenge) keys) := by
  refine foldlM_eq_ok (fun idx h hats => ?_) ∅
  exact bind_eq_ok.mpr ⟨_, expect_eq_ok.mpr (getElem?_sampleHiddenTildes rng h),
    bind_eq_ok.mpr ⟨_, entryAt_of_lt (hkeys idx h), rfl⟩⟩

end Prover

section Completeness

variable (rng : Rng r) (signature : Signature r G₁) (vk : VerifyingKey G₁ G₂)
  (messages : List (ZMod r)) (revealedIndices : List UInt32) (presentationContext : Bytes)

/-- The proof an honest prover sends, its maps and sums written out over the sets of indices. -/
def honestProof : PresentationProof r G₁ :=
  let hidden := hiddenIndices messages.length revealedIndices
  let message := fun idx : UInt32 => messages.getD idx.toNat 0
  let d := rng.r2 • commitment suite vk messages signature.s
  let aBar := (rng.r1 * rng.r2) • signature.a
  let bBar := rng.r1 • d - signature.e • aBar
  let t2 := rng.r3Tilde • d + rng.sTilde • vk.q1 +
    ∑ idx ∈ hidden.toFinset, rng.hiddenTilde idx • vk.messageGenerators.getD idx.toNat 0
  let challenge := computeChallenge suite vk (tabulate message revealedIndices) aBar bBar d
    (rng.eTilde • aBar + rng.r1Tilde • d) t2 presentationContext
  { aBar, bBar, d
    eHat := rng.eTilde + signature.e * challenge
    r1Hat := rng.r1Tilde - rng.r1 * challenge
    r3Hat := rng.r3Tilde - rng.r2⁻¹ * challenge
    sHat := rng.sTilde + signature.s * challenge
    hiddenMessageHats := tabulate (fun idx => rng.hiddenTilde idx + message idx * challenge) hidden
    revealedMessages := tabulate message revealedIndices
    challenge }

variable {suite rng signature vk messages revealedIndices presentationContext}

theorem createPresentation_eq (hlen : messages.length = vk.messageGenerators.length)
    (hrange : ∀ idx ∈ revealedIndices, idx.toNat < messages.length) :
    createPresentation suite rng signature vk messages revealedIndices presentationContext
      = .ok (honestProof suite rng signature vk messages revealedIndices presentationContext) := by
  have hlt : messages.length < 2 ^ 32 := hlen ▸ vk.count_lt
  have hhidden : ∀ idx ∈ hiddenIndices messages.length revealedIndices,
      idx.toNat < messages.length := fun idx h => ((mem_hiddenIndices hlt).mp h).1
  rw [createPresentation, bind_eq_ok]
  refine ⟨(), require_eq_ok.mpr hlen, bind_eq_ok.mpr ⟨(), ?_, ?_⟩⟩
  · exact forM_eq_ok.mpr fun idx h => require_eq_ok.mpr (hrange idx h)
  refine bind_eq_ok.mpr ⟨_, computeB_eq_ok.mpr ⟨hlen, rfl⟩,
    bind_eq_ok.mpr ⟨_, invert_eq_ok.mpr ⟨rng.r2_ne_zero, rfl⟩, ?_⟩⟩
  refine bind_eq_ok.mpr ⟨_, addHiddenTildes_eq rng (nodup_hiddenIndices hlt) (hlen ▸ hhidden) _, ?_⟩
  exact bind_eq_ok.mpr ⟨_, revealMessages_eq hrange,
    bind_eq_ok.mpr ⟨_, respondHidden_eq rng _ hhidden, rfl⟩⟩

/-- The sum over two lists side by side, as a sum over their indices. -/
theorem sum_allIndices {generators : List G₁} (hlen : generators.length = messages.length)
    (hlt : messages.length < 2 ^ 32) :
    ((generators.zip messages).map fun p => p.2 • p.1).sum
      = ∑ idx ∈ (hiddenIndices messages.length []).toFinset,
          messages.getD idx.toNat 0 • generators.getD idx.toNat 0 := by
  rw [List.sum_toFinset _ (nodup_hiddenIndices hlt), hiddenIndices_nil hlt, List.map_map]
  congr 1
  refine List.ext_getElem (by simp [hlen]) fun i hi hi' => ?_
  have hi'' : i < messages.length := by simpa using hi'
  have hindex : (UInt32.ofNat i).toNat = i := UInt32.toNat_ofNat_of_lt' (hi''.trans hlt)
  simp only [List.getElem_map, List.getElem_zip, List.getElem_range, Function.comp_apply, hindex]
  rw [List.getD_eq_getElem _ _ hi'', List.getD_eq_getElem _ _ (hlen ▸ hi'')]

theorem structured_honestProof (hlen : messages.length = vk.messageGenerators.length)
    (hrange : ∀ idx ∈ revealedIndices, idx.toNat < messages.length) :
    (honestProof suite rng signature vk messages revealedIndices presentationContext).Structured
      vk := by
  have hlt : messages.length < 2 ^ 32 := hlen ▸ vk.count_lt
  have hkeys : ∀ {f : UInt32 → ZMod r} {keys : List UInt32} {idx : UInt32},
      idx ∈ (tabulate f keys).keys → idx ∈ keys := fun h =>
    mem_tabulate.mp (Std.TreeMap.mem_keys.mp h)
  refine ⟨fun idx h => ?_, fun idx h => ?_, ?_, fun idx h h' => ?_⟩
  · exact hlen ▸ hrange idx (hkeys h)
  · exact hlen ▸ ((mem_hiddenIndices hlt).mp (hkeys h)).1
  · rw [honestProof, size_tabulate, size_tabulate, card_hiddenIndices hlt hrange,
      Nat.mod_eq_of_lt hlt, hlen]
  · exact ((mem_hiddenIndices hlt).mp (mem_tabulate.mp h')).2 (hkeys h)

/-- **The verifier recomputes the commitments the prover hashed.** -/
theorem t1_honestProof :
    (honestProof suite rng signature vk messages revealedIndices presentationContext).t1
      = rng.eTilde • (rng.r1 * rng.r2) • signature.a
        + rng.r1Tilde • rng.r2 • commitment suite vk messages signature.s := by
  simp only [PresentationProof.t1, honestProof]
  module

theorem t2_honestProof (hlen : messages.length = vk.messageGenerators.length)
    (hrange : ∀ idx ∈ revealedIndices, idx.toNat < messages.length) :
    (honestProof suite rng signature vk messages revealedIndices presentationContext).t2 suite vk
      = rng.r3Tilde • rng.r2 • commitment suite vk messages signature.s + rng.sTilde • vk.q1 +
        ∑ idx ∈ (hiddenIndices messages.length revealedIndices).toFinset,
          rng.hiddenTilde idx • vk.messageGenerators.getD idx.toNat 0 := by
  let h := fun idx : UInt32 => vk.messageGenerators.getD idx.toNat 0
  -- the messages of the commitment are the revealed and the hidden ones
  have hsplit : commitment suite vk messages signature.s = baseGenerator suite +
      signature.s • vk.q1 + (∑ idx ∈ revealedIndices.toFinset, messages.getD idx.toNat 0 • h idx +
        ∑ idx ∈ (hiddenIndices messages.length revealedIndices).toFinset,
          messages.getD idx.toNat 0 • h idx) := by
    have hlt : messages.length < 2 ^ 32 := hlen ▸ vk.count_lt
    rw [commitment, ← Finset.sum_union (disjoint_hiddenIndices hlt),
      union_hiddenIndices hlt hrange, sum_allIndices hlen.symm hlt]
  simp only [PresentationProof.t2, honestProof]
  generalize commitment suite vk messages signature.s = b at hsplit ⊢
  generalize computeChallenge suite vk _ _ _ _ _ _ presentationContext = c
  have hinv : (rng.r2⁻¹ * c) • rng.r2 • b = c • b := by
    rw [smul_smul, mul_right_comm, inv_mul_cancel₀ rng.r2_ne_zero, one_mul]
  rw [sum_toList_tabulate _ (fun idx val => val • h idx),
    sum_toList_tabulate _ (fun idx val => val • h idx), sub_smul, hinv, hsplit]
  simp only [add_smul, mul_comm _ c, mul_smul, Finset.sum_add_distrib, ← Finset.smul_sum]
  module

theorem pair_honestProof {sk : ZMod r} (hw : vk.w = sk • suite.g₂)
    (hsigned : (sk + signature.e) • signature.a = commitment suite vk messages signature.s) :
    let proof := honestProof suite rng signature vk messages revealedIndices presentationContext
    suite.pair proof.aBar vk.w = suite.pair proof.bBar suite.g₂ := by
  simp only [honestProof]
  rw [hw, suite.pair_smul_g₂, suite.pair_g₂_inj, ← hsigned]
  module

/-- **Selective disclosure is complete**: whatever is revealed of a valid signature's messages, the
proof made from it is accepted in the same context and discloses exactly what was asked. -/
theorem verifyPresentation_createPresentation [DecidableEq G₁] [DecidableEq Gt]
    (suite : Suite r G₁ G₂ Gt) (rng : Rng r) (signature : Signature r G₁) (vk : VerifyingKey G₁ G₂)
    (messages : List (ZMod r)) (hvalid : verify suite vk messages signature = .ok true)
    (revealedIndices : List UInt32) (hrange : ∀ idx ∈ revealedIndices, idx.toNat < messages.length)
    (presentationContext : Bytes) :
    ∃ proof, createPresentation suite rng signature vk messages revealedIndices presentationContext
        = .ok proof ∧
      verifyPresentation suite vk proof presentationContext = .ok true ∧
      ∀ idx : UInt32, proof.revealedMessages[idx]?
        = if idx ∈ revealedIndices then messages[idx.toNat]? else none := by
  obtain ⟨sk, hw⟩ := suite.generates₂ vk.w
  obtain ⟨hlen, ha, hsigned⟩ := (verify_eq_true hw.symm).mp hvalid
  refine ⟨_, createPresentation_eq hlen hrange, verifyPresentationWith_eq_true.mpr ?_,
    fun idx => ?_⟩
  · refine ⟨structured_honestProof hlen hrange, ?_, ?_, pair_honestProof hw.symm hsigned⟩
    · exact smul_ne_zero (mul_ne_zero rng.r1_ne_zero rng.r2_ne_zero) ha
    · rw [t1_honestProof, t2_honestProof hlen hrange]
      rfl
  · rw [honestProof, getElem?_tabulate]
    by_cases h : idx ∈ revealedIndices
    · rw [if_pos h, if_pos h, List.getD_eq_getElem _ _ (hrange idx h),
        List.getElem?_eq_getElem (hrange idx h)]
    · rw [if_neg h, if_neg h]

end Completeness

namespace Sample

def rng : Rng 17 where
  r1 := Bls.Sample.element 2
  r2 := Bls.Sample.element 5
  eTilde := Bls.Sample.element 4
  r1Tilde := Bls.Sample.element 5
  r3Tilde := Bls.Sample.element 6
  sTilde := Bls.Sample.element 7
  hiddenTilde idx := idx.toNat
  r1_ne_zero := by decide
  r2_ne_zero := by decide

end Sample

open Bbs.Sample

/-- The second of two messages revealed, asked for twice. -/
theorem verifyPresentation_sample :
    ∃ proof, createPresentation Bls.Sample.suite rng ⟨14, 1, 1⟩ verifyingKey [1, 2]
        [1, 1] [7] = .ok proof ∧
      verifyPresentation Bls.Sample.suite verifyingKey proof [7] = .ok true ∧
      ∀ idx : UInt32, proof.revealedMessages[idx]?
        = if idx ∈ [(1 : UInt32), 1] then [(1 : ZMod 17), 2][idx.toNat]? else none :=
  verifyPresentation_createPresentation Bls.Sample.suite rng ⟨14, 1, 1⟩ verifyingKey
    [1, 2] (by decide +kernel) [1, 1] (by simp) [7]

end QuorumProof.Bbs
