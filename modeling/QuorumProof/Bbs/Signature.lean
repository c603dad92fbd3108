import QuorumProof.Bbs.Primitives

/-!
# Bbs/Signature — BBS+ signatures

`contracts/bbs_plus_v1/src/signature.rs`.  Signing divides the commitment `B` to the messages by
`sk + e`; verifying checks the quotient by a pairing.  The pairing equation is the discrete-log
relation `(sk + e) A = B` (`verify_eq`), so a signature verifies for exactly the message vectors
with the commitment it was made for, unless that commitment is the identity.
-/

namespace QuorumProof.Bbs

open Guarded Bls

/-! ## Keys and signatures -/

/-- `SigningKey`: a non-zero scalar, as `from_scalar` and `generate` make it. -/
structure SigningKey (r : ℕ) where
  sk : ZMod r
  sk_ne_zero : sk ≠ 0

/-- `VerifyingKey`.  The generators are a vector of the 32-bit contract target, so there are fewer
than `2 ^ 32` of them. -/
structure VerifyingKey (G₁ G₂ : Type) where
  w : G₂
  q1 : G₁
  messageGenerators : List G₁
  count_lt : messageGenerators.length < 2 ^ 32
  deriving DecidableEq

structure Signature (r : ℕ) (G₁ : Type) where
  a : G₁
  e : ZMod r
  s : ZMod r
  deriving DecidableEq

variable {r : ℕ} [Fact r.Prime] {G₁ G₂ Gt : Type} [AddCommGroup G₁] [Module (ZMod r) G₁]
  [AddCommGroup G₂] [Module (ZMod r) G₂] [AddCommGroup Gt] [Module (ZMod r) Gt]
  (suite : Suite r G₁ G₂ Gt)

def SigningKey.fromScalar (scalar : ZMod r) : BbsResult (SigningKey r) :=
  if h : scalar ≠ 0 then .ok ⟨scalar, h⟩ else .error (.err .invalidScalar)

def SigningKey.publicKey (signingKey : SigningKey r) : G₂ := signingKey.sk • suite.g₂

def baseGenerator : G₁ :=
  suite.hashToCurve (byteString "P1") (byteString "QUORUMPROOF-BBS-BASE_XMD:SHA-256_SSWU_RO_P1_")

def maxMessagesPerCredential : ℕ := 255

def VerifyingKey.derive (publicKey : G₂) (contextId : Bytes) (messageCount : ℕ) :
    BbsResult (VerifyingKey G₁ G₂) :=
  if h : messageCount ≤ maxMessagesPerCredential then
    .ok {
      w := publicKey
      q1 := suite.hashToCurve contextId
        (byteString "QUORUMPROOF-BBS-BASE_XMD:SHA-256_SSWU_RO_Q1_")
      messageGenerators := (List.range messageCount).map fun i =>
        suite.hashToCurve (contextId ++ LittleEndian.toBytes 4 i)
          (byteString "QUORUMPROOF-BBS-BASE_XMD:SHA-256_SSWU_RO_H_")
      count_lt := by
        rw [List.length_map, List.length_range]
        exact h.trans_lt (by decide) }
  else .error (.err .invalidMessageCount)

/-! ## Signing and verifying -/

/-- `compute_b`: `P1 + Q1*s + sum(H_i * m_i)`. -/
def computeB (vk : VerifyingKey G₁ G₂) (messages : List (ZMod r)) (s : ZMod r) : BbsResult G₁ := do
  require (messages.length = vk.messageGenerators.length) (.err .invalidMessageCount)
  let msgTerm ← if messages.isEmpty then pure 0 else msmG1 vk.messageGenerators messages
  return baseGenerator suite + s • vk.q1 + msgTerm

def signWithExponent (signingKey : SigningKey r) (vk : VerifyingKey G₁ G₂)
    (messages : List (ZMod r)) (e s : ZMod r) : BbsResult (Signature r G₁) := do
  let b ← computeB suite vk messages s
  let denom := e + signingKey.sk
  let inv ← invert denom
  return ⟨inv • b, e, s⟩

def verify [DecidableEq G₁] [DecidableEq Gt] (vk : VerifyingKey G₁ G₂) (messages : List (ZMod r))
    (signature : Signature r G₁) : BbsResult Bool := do
  require (messages.length = vk.messageGenerators.length) (.err .invalidMessageCount)
  if signature.a = 0 then return false
  let b ← computeB suite vk messages signature.s
  let wPlusEBp2 := vk.w + signature.e • suite.g₂
  let lhs := suite.pair signature.a wPlusEBp2
  let rhs := suite.pair b suite.g₂
  return lhs = rhs

/-! ## The commitment -/

/-- What `compute_b` returns on as many messages as there are generators. -/
def commitment (vk : VerifyingKey G₁ G₂) (messages : List (ZMod r)) (s : ZMod r) : G₁ :=
  baseGenerator suite + s • vk.q1 +
    ((vk.messageGenerators.zip messages).map fun p => p.2 • p.1).sum

variable {suite} {vk : VerifyingKey G₁ G₂} {messages : List (ZMod r)} {e s : ZMod r}

theorem computeB_eq_ok {b : G₁} : computeB suite vk messages s = .ok b ↔
    messages.length = vk.messageGenerators.length ∧ commitment suite vk messages s = b := by
  simp only [computeB, bind_eq_ok, require_eq_ok, exists_const]
  refine and_congr_right fun hlen => ?_
  cases messages with
  | nil => simp [commitment]
  | cons m messages =>
    simp only [List.isEmpty_cons, Bool.false_eq_true, if_false, bind_eq_ok, msmG1_eq_ok, pure_eq_ok]
    constructor
    · rintro ⟨_, ⟨-, hsum⟩, hb⟩
      rw [commitment, hsum, hb]
    · exact fun hb => ⟨_, ⟨hlen.symm, rfl⟩, hb⟩

theorem signWithExponent_eq_ok {signingKey : SigningKey r} {signature : Signature r G₁} :
    signWithExponent suite signingKey vk messages e s = .ok signature ↔
      messages.length = vk.messageGenerators.length ∧ e + signingKey.sk ≠ 0 ∧
        ⟨(e + signingKey.sk)⁻¹ • commitment suite vk messages s, e, s⟩ = signature := by
  simp only [signWithExponent, bind_eq_ok, computeB_eq_ok, invert_eq_ok, pure_eq_ok]
  constructor
  · rintro ⟨_, ⟨hlen, hb⟩, _, ⟨hne, hinv⟩, h⟩
    exact ⟨hlen, hne, by rw [hb, hinv, h]⟩
  · rintro ⟨hlen, hne, h⟩
    exact ⟨_, ⟨hlen, rfl⟩, _, ⟨hne, rfl⟩, h⟩

/-! ## The pairing equation -/

section Verify

variable [DecidableEq G₁] [DecidableEq Gt]

/-- **`verify` checks the discrete-log relation between `A` and the commitment.** -/
theorem verify_eq_true {sk : ZMod r} (hw : vk.w = sk • suite.g₂) {signature : Signature r G₁} :
    verify suite vk messages signature = .ok true ↔
      messages.length = vk.messageGenerators.length ∧ signature.a ≠ 0 ∧
        (sk + signature.e) • signature.a = commitment suite vk messages signature.s := by
  have hpair : suite.pair signature.a (vk.w + signature.e • suite.g₂)
      = suite.pair ((sk + signature.e) • signature.a) suite.g₂ := by
    rw [hw, ← add_smul, suite.pair_smul_g₂]
  simp only [verify, bind_eq_ok, require_eq_ok, exists_const]
  refine and_congr_right fun hlen => ?_
  by_cases ha : signature.a = 0
  · simp [ha]
  · simp only [ha, if_false, bind_eq_ok, computeB_eq_ok, pure_eq_ok, decide_eq_true_eq, hpair,
      suite.pair_g₂_inj, ne_eq, not_false_eq_true, true_and]
    constructor
    · rintro ⟨_, ⟨-, hb⟩, h⟩
      exact h.trans hb.symm
    · exact fun h => ⟨_, ⟨hlen, rfl⟩, h⟩

/-- **BBS+ signatures are correct**: verifying is the discrete-log relation, and a signature on a
commitment that is not the identity verifies for exactly the messages with that commitment. -/
theorem signature_correct (suite : Suite r G₁ G₂ Gt) (signingKey : SigningKey r)
    (vk : VerifyingKey G₁ G₂) (hw : vk.w = signingKey.publicKey suite) (messages : List (ZMod r))
    (hlen : messages.length = vk.messageGenerators.length) :
    (∀ signature : Signature r G₁, ∃ b, computeB suite vk messages signature.s = .ok b ∧
      (verify suite vk messages signature = .ok true ↔
        signature.a ≠ 0 ∧ (signingKey.sk + signature.e) • signature.a = b)) ∧
    ∀ e s : ZMod r, signingKey.sk + e ≠ 0 →
      ∃ signature b, signWithExponent suite signingKey vk messages e s = .ok signature ∧
        computeB suite vk messages s = .ok b ∧
        (b ≠ 0 → ∀ messages' : List (ZMod r), messages'.length = vk.messageGenerators.length →
          (verify suite vk messages' signature = .ok true ↔
            computeB suite vk messages' s = .ok b)) := by
  refine ⟨fun signature => ⟨_, computeB_eq_ok.mpr ⟨hlen, rfl⟩, ?_⟩, fun e s hne => ?_⟩
  · rw [verify_eq_true hw, and_iff_right hlen]
  · rw [add_comm] at hne
    refine ⟨_, _, signWithExponent_eq_ok.mpr ⟨hlen, hne, rfl⟩, computeB_eq_ok.mpr ⟨hlen, rfl⟩, ?_⟩
    intro hb messages' hlen'
    have hsigned : (signingKey.sk + e) • (e + signingKey.sk)⁻¹ • commitment suite vk messages s
        = commitment suite vk messages s := by
      rw [add_comm, smul_inv_smul₀ hne]
    have ha : (e + signingKey.sk)⁻¹ • commitment suite vk messages s ≠ 0 :=
      smul_ne_zero (inv_ne_zero hne) hb
    rw [verify_eq_true hw, computeB_eq_ok, and_iff_right hlen', and_iff_right ha, hsigned,
      and_iff_right hlen', eq_comm]

end Verify

namespace Sample

def signingKey : SigningKey 17 := ⟨Bls.Sample.element 3, by decide⟩

/-- The key derived from `signingKey` for two messages in the empty context. -/
def verifyingKey : VerifyingKey (ZMod 17) (ZMod 17) where
  w := Bls.Sample.element 3
  q1 := Bls.Sample.element 3
  messageGenerators := [Bls.Sample.element 13, Bls.Sample.element 14]
  count_lt := by decide

theorem derive_verifyingKey :
    VerifyingKey.derive Bls.Sample.suite (signingKey.publicKey Bls.Sample.suite) [] 2
      = .ok verifyingKey := by
  decide +kernel

end Sample

open Bbs.Sample

theorem signature_correct_sample :
    ∃ signature, signWithExponent Bls.Sample.suite signingKey verifyingKey [1, 2] 1 1
        = .ok signature ∧
      verify Bls.Sample.suite verifyingKey [1, 2] signature = .ok true := by
  obtain ⟨signature, b, hsign, hb, hverify⟩ := (signature_correct Bls.Sample.suite
    signingKey verifyingKey rfl [1, 2] rfl).2 1 1 (by decide)
  have hb' : computeB Bls.Sample.suite verifyingKey [1, 2] 1 = .ok 5 := by decide +kernel
  obtain rfl := Except.ok.inj (hb'.symm.trans hb)
  exact ⟨signature, hsign, (hverify (by decide) [1, 2] rfl).mpr hb⟩

/-- **A signature on the identity does not verify**: `verify` refuses the identity as `A`. -/
theorem not_verify_signWithExponent :
    ¬ ∀ (signingKey : SigningKey 17) (contextId : Bytes) (vk : VerifyingKey (ZMod 17) (ZMod 17))
      (messages : List (ZMod 17)) (e s : ZMod 17) (signature : Signature 17 (ZMod 17)),
      VerifyingKey.derive Bls.Sample.suite (signingKey.publicKey Bls.Sample.suite) contextId
          messages.length = .ok vk →
        signWithExponent Bls.Sample.suite signingKey vk messages e s = .ok signature →
          verify Bls.Sample.suite vk messages signature = .ok true := by
  intro h
  have hverify := h signingKey [] verifyingKey [0, 0] 1 13 ⟨0, 1, 13⟩
    derive_verifyingKey (by decide +kernel)
  exact absurd hverify (by decide +kernel)

end QuorumProof.Bbs
