import QuorumProof.Bls.Suite
import QuorumProof.Lib.Accumulate
import QuorumProof.Lib.Blocks
import Mathlib.Algebra.BigOperators.Pi
import Mathlib.Algebra.Module.BigOperators
import Mathlib.LinearAlgebra.DFinsupp

/-!
# Zk/Groth16 — one proof, and many under random weights

`contracts/zk_verifier/src/groth16.rs`.  A proof is checked by one equation in the target group; its
*defect* is the left side minus the right side.  `verify_batch` weighs the equations by scalars and
adds them up before pairing, so that it accepts exactly when the weighted defects cancel.
-/

namespace QuorumProof.Zk.Groth16

open Bls Accumulate Blocks

/-! ## Encodings -/

/-- `VerifyingKey`: the four fixed elements, compressed. -/
structure VerifyingKey where
  alphaG1 : Bytes
  betaG2 : Bytes
  gammaG2 : Bytes
  deltaG2 : Bytes
  deriving DecidableEq

/-- The points of a verifying key. -/
structure Key (G₁ G₂ : Type) where
  alpha : G₁
  beta : G₂
  gamma : G₂
  delta : G₂

/-- The points of a proof. -/
structure Proof (G₁ G₂ : Type) where
  a : G₁
  b : G₂
  c : G₁

def proofLen : ℕ := 192

variable {r : ℕ} [Fact r.Prime] {G₁ G₂ Gt : Type} [AddCommGroup G₁] [Module (ZMod r) G₁]
  [AddCommGroup G₂] [Module (ZMod r) G₂] [AddCommGroup Gt] [Module (ZMod r) Gt]
  (suite : Suite r G₁ G₂ Gt)

/-- The points of a verifying key, if they all decode. -/
def decodeKey (vk : VerifyingKey) : Option (Key G₁ G₂) := do
  let alpha ← suite.fromCompressed₁ vk.alphaG1
  let beta ← suite.fromCompressed₂ vk.betaG2
  let gamma ← suite.fromCompressed₂ vk.gammaG2
  let delta ← suite.fromCompressed₂ vk.deltaG2
  return { alpha, beta, gamma, delta }

/-- The points of a proof of the right length, if they all decode. -/
def decodeProof (proof : Bytes) : Option (Proof G₁ G₂) := do
  guard (proof.length = proofLen)
  let a ← suite.fromCompressed₁ (slice proof 0 48)
  let b ← suite.fromCompressed₂ (slice proof 48 144)
  let c ← suite.fromCompressed₁ (slice proof 144 192)
  return { a, b, c }

/-- `compute_vk_x`: `IC[0] + sum_i public_input_i * IC[i+1]`. -/
def computeVkX (ic : List Bytes) (publicInputs : Bytes) : Option G₁ := do
  let l := publicInputs.length / 32
  guard (ic ≠ [] ∧ l + 1 = ic.length)
  let acc ← ic[0]? >>= suite.fromCompressed₁
  (List.range l).foldlM (fun acc i => do
    let s : ZMod r ← scalarFromBytes (slice publicInputs (i * 32) ((i + 1) * 32))
    let p ← ic[i + 1]? >>= suite.fromCompressed₁
    return acc + s • p) acc

/-! ## Verification -/

def verify [DecidableEq Gt] (vk : VerifyingKey) (ic : List Bytes) (publicInputs proof : Bytes) :
    Bool :=
  Option.getD (do
    guard (publicInputs.length % 32 = 0)
    let p ← decodeProof suite proof
    let key ← decodeKey suite vk
    let vkX ← computeVkX suite ic publicInputs
    let lhs := suite.pair p.a p.b
    let rhs := suite.pair key.alpha key.beta + suite.pair vkX key.gamma + suite.pair p.c key.delta
    return lhs = rhs) false

def batchScalar (seed : Bytes) (i : ℕ) : ZMod r :=
  let d0 := suite.sha256 (seed ++ LittleEndian.toBytes 4 i ++ [0])
  let d1 := suite.sha256 (seed ++ LittleEndian.toBytes 4 i ++ [1])
  scalarFromBytesWide (d0 ++ d1)

/-- One turn of the loop of `verify_batch`, which carries `lhs`, `agg_alpha_scalar`, `agg_vk_x` and
`agg_c`. -/
def batchStep (ic : List Bytes) (proofs publicInputs : List Bytes) (rho : ℕ → ZMod r) :
    Gt × ZMod r × G₁ × G₁ → ℕ → Option (Gt × ZMod r × G₁ × G₁)
  | (lhs, aggAlphaScalar, aggVkX, aggC), i => do
    let proof ← proofs[i]?
    let pi ← publicInputs[i]?
    let p ← decodeProof suite proof
    let vkX ← computeVkX suite ic pi
    return (lhs + suite.pair (rho i • p.a) p.b, aggAlphaScalar + rho i, aggVkX + rho i • vkX,
      aggC + rho i • p.c)

/-- `verify_batch`, for the weights `rho` in place of the ones derived from a seed. -/
def verifyBatchWith [DecidableEq Gt] (vk : VerifyingKey) (ic : List Bytes)
    (proofs publicInputs : List Bytes) (rho : ℕ → ZMod r) : Bool :=
  Option.getD (do
    let n := proofs.length
    guard (n ≠ 0 ∧ n = publicInputs.length)
    let key ← decodeKey suite vk
    let (lhs, aggAlphaScalar, aggVkX, aggC) ←
      (List.range n).foldlM (batchStep suite ic proofs publicInputs rho) (0, 0, 0, 0)
    let rhs := suite.pair (aggAlphaScalar • key.alpha) key.beta + suite.pair aggVkX key.gamma +
      suite.pair aggC key.delta
    return lhs = rhs) false

def verifyBatch [DecidableEq Gt] (vk : VerifyingKey) (ic : List Bytes)
    (proofs publicInputs : List Bytes) (seed : Bytes) : Bool :=
  verifyBatchWith suite vk ic proofs publicInputs (batchScalar suite seed)

/-! ## Defects -/

/-- The two sides of a proof's own equation, left minus right, if everything decodes. -/
def defect (vk : VerifyingKey) (ic : List Bytes) (publicInputs proof : Bytes) : Option Gt := do
  let p ← decodeProof suite proof
  let key ← decodeKey suite vk
  let vkX ← computeVkX suite ic publicInputs
  return suite.pair p.a p.b -
    (suite.pair key.alpha key.beta + suite.pair vkX key.gamma + suite.pair p.c key.delta)

variable {suite} {vk : VerifyingKey} {ic : List Bytes}

theorem defect_eq_some {publicInputs proof : Bytes} {d : Gt} :
    defect suite vk ic publicInputs proof = some d ↔
      ∃ p key vkX, decodeProof suite proof = some p ∧ decodeKey suite vk = some key ∧
        computeVkX suite ic publicInputs = some vkX ∧ suite.pair p.a p.b -
          (suite.pair key.alpha key.beta + suite.pair vkX key.gamma + suite.pair p.c key.delta)
            = d := by
  simp [defect, Option.bind_eq_some_iff]

/-- **`verify` accepts exactly the proofs without a defect.** -/
theorem verify_eq_true [DecidableEq Gt] {publicInputs proof : Bytes}
    (hinputs : publicInputs.length % 32 = 0) :
    verify suite vk ic publicInputs proof = true ↔
      defect suite vk ic publicInputs proof = some 0 := by
  simp only [verify, defect_eq_some, getD_false_eq_true, Option.bind_eq_bind,
    Option.bind_eq_some_iff, Option.guard_eq_some', hinputs, true_and, exists_const,
    Option.pure_def, Option.some.injEq, decide_eq_true_eq, sub_eq_zero]
  exact ⟨fun ⟨p, hp, key, hkey, vkX, hvkX, h⟩ => ⟨p, key, vkX, hp, hkey, hvkX, h⟩,
    fun ⟨p, key, vkX, hp, hkey, hvkX, h⟩ => ⟨p, hp, key, hkey, vkX, hvkX, h⟩⟩

section Batch

variable {n : ℕ} {proofs publicInputs : Fin n → Bytes} {rho : ℕ → ZMod r}

/-- The turns of the loop, once everything decodes, add up to four sums. -/
theorem batchLoop_eq_some {P : Fin n → Proof G₁ G₂} {X : Fin n → G₁}
    (hP : ∀ i, decodeProof suite (proofs i) = some (P i))
    (hX : ∀ i, computeVkX suite ic (publicInputs i) = some (X i)) :
    (List.range n).foldlM
        (batchStep suite ic (List.ofFn proofs) (List.ofFn publicInputs) rho) (0, 0, 0, 0)
      = some (∑ i : Fin n, suite.pair (rho i • (P i).a) (P i).b, ∑ i : Fin n, rho i,
          ∑ i : Fin n, rho i • X i, ∑ i : Fin n, rho i • (P i).c) := by
  let term : ℕ → Gt × ZMod r × G₁ × G₁ := fun i =>
    if h : i < n then (suite.pair (rho i • (P ⟨i, h⟩).a) (P ⟨i, h⟩).b, rho i,
      rho i • X ⟨i, h⟩, rho i • (P ⟨i, h⟩).c) else 0
  have hstep : ∀ i ∈ List.range n, ∀ acc,
      batchStep suite ic (List.ofFn proofs) (List.ofFn publicInputs) rho acc i
        = some (acc + term i) := by
    rintro i hi ⟨lhs, aggAlphaScalar, aggVkX, aggC⟩
    have hi : i < n := List.mem_range.mp hi
    simp [batchStep, term, hi, hP, hX]
  have hterm : ∀ i : Fin n, term i = (suite.pair (rho i • (P i).a) (P i).b, rho i,
      rho i • X i, rho i • (P i).c) := fun i => dif_pos i.isLt
  rw [foldlM_eq_some hstep, foldl_add_range]
  simp only [hterm]
  refine congrArg some (Prod.ext ?_ (Prod.ext ?_ (Prod.ext ?_ ?_))) <;>
    simp [Prod.fst_sum, Prod.snd_sum]

/-- A turn that does not decode ends the loop. -/
theorem batchLoop_eq_none {i : Fin n} (hi : decodeProof suite (proofs i) = none ∨
      computeVkX suite ic (publicInputs i) = none) :
    (List.range n).foldlM
      (batchStep suite ic (List.ofFn proofs) (List.ofFn publicInputs) rho) (0, 0, 0, 0) = none := by
  refine foldlM_eq_none (List.mem_range.mpr i.isLt) ?_ _
  rintro ⟨lhs, aggAlphaScalar, aggVkX, aggC⟩
  rcases hi with hi | hi
  · simp [batchStep, hi]
  · simp [batchStep, hi]

/-- The weighted defects, one pairing at a time and as the batch adds them up. -/
theorem sum_smul_defect (key : Key G₁ G₂) (P : Fin n → Proof G₁ G₂) (X : Fin n → G₁) :
    ∑ i : Fin n, rho i • (suite.pair (P i).a (P i).b - (suite.pair key.alpha key.beta +
        suite.pair (X i) key.gamma + suite.pair (P i).c key.delta))
      = ∑ i : Fin n, suite.pair (rho i • (P i).a) (P i).b -
        (suite.pair ((∑ i : Fin n, rho i) • key.alpha) key.beta +
          suite.pair (∑ i : Fin n, rho i • X i) key.gamma +
          suite.pair (∑ i : Fin n, rho i • (P i).c) key.delta) := by
  simp only [suite.pair_sum_left, suite.pair_smul_left, Finset.sum_smul, smul_sub, smul_add,
    Finset.sum_sub_distrib, Finset.sum_add_distrib]

/-- **A batch is accepted exactly when everything decodes and the weighted defects cancel.** -/
theorem verifyBatchWith_eq_true [DecidableEq Gt] (hn : 1 ≤ n) :
    verifyBatchWith suite vk ic (List.ofFn proofs) (List.ofFn publicInputs) rho = true ↔
      ∃ D : Fin n → Gt, (∀ i, defect suite vk ic (publicInputs i) (proofs i) = some (D i)) ∧
        ∑ i : Fin n, rho i • D i = 0 := by
  have hlen : (List.ofFn proofs).length ≠ 0 ∧
      (List.ofFn proofs).length = (List.ofFn publicInputs).length := by simp; omega
  simp only [verifyBatchWith, getD_false_eq_true, Option.bind_eq_bind, Option.bind_eq_some_iff,
    Option.guard_eq_some', hlen, List.length_ofFn, exists_const, Option.pure_def, Option.some.injEq,
    decide_eq_true_eq]
  constructor
  · rintro ⟨-, key, hkey, acc, hloop, haccept⟩
    -- the loop ended, so everything decodes
    have hdecode : ∀ i, (∃ p, decodeProof suite (proofs i) = some p) ∧
        ∃ vkX, computeVkX suite ic (publicInputs i) = some vkX := by
      intro i
      by_contra h
      rw [not_and_or, ← Option.isSome_iff_exists, ← Option.isSome_iff_exists,
        Option.not_isSome_iff_eq_none, Option.not_isSome_iff_eq_none] at h
      rw [batchLoop_eq_none h] at hloop
      cases hloop
    choose P hP using fun i => (hdecode i).1
    choose X hX using fun i => (hdecode i).2
    refine ⟨_, fun i => defect_eq_some.mpr ⟨_, key, _, hP i, hkey, hX i, rfl⟩, ?_⟩
    rw [batchLoop_eq_some hP hX] at hloop
    obtain rfl := Option.some.inj hloop
    rw [sum_smul_defect]
    exact sub_eq_zero.mpr haccept
  · rintro ⟨D, hD, hsum⟩
    choose P K X hP hK hX hd using fun i => defect_eq_some.mp (hD i)
    have hkey : ∀ i, K i = K ⟨0, hn⟩ := fun i => Option.some.inj ((hK i).symm.trans (hK _))
    refine ⟨⟨by omega, trivial⟩, K ⟨0, hn⟩, hK _, _, batchLoop_eq_some hP hX, ?_⟩
    simp only [← hd, hkey] at hsum
    rwa [sum_smul_defect, sub_eq_zero] at hsum

/-- One defect that is not weighed down to zero has nothing to cancel against. -/
theorem verifyBatchWith_of_not_verify [DecidableEq Gt]
    (hinputs : ∀ i, (publicInputs i).length % 32 = 0) {j : Fin n}
    (haccept : ∀ i, i ≠ j → verify suite vk ic (publicInputs i) (proofs i) = true)
    (hreject : verify suite vk ic (publicInputs j) (proofs j) = false) (hrho : rho j ≠ 0) :
    verifyBatchWith suite vk ic (List.ofFn proofs) (List.ofFn publicInputs) rho = false := by
  rw [← Bool.not_eq_true, verifyBatchWith_eq_true (by have := j.isLt; omega)]
  rintro ⟨D, hD, hsum⟩
  have hzero : ∀ i, i ≠ j → D i = 0 := fun i hi =>
    Option.some.inj ((hD i).symm.trans ((verify_eq_true (hinputs i)).mp (haccept i hi)))
  rw [Finset.sum_eq_single j (fun i _ hi => by rw [hzero i hi, smul_zero]) (by simp),
    smul_eq_zero_iff_right hrho] at hsum
  have hverify := (verify_eq_true (hinputs j)).mpr ((hD j).trans (congrArg some hsum))
  rw [hreject] at hverify
  cases hverify

/-- **Batch verification is the weighted sum of the proofs' own equations**: it accepts exactly when
the weighted exponents of the defects cancel, so a batch of accepted proofs is accepted under every
seed, and a batch with one rejected proof of non-zero weight is not. -/
theorem verifyBatch_correct [DecidableEq Gt] (suite : Suite r G₁ G₂ Gt) (vk : VerifyingKey)
    (ic : List Bytes) (n : ℕ) (hn : 1 ≤ n) (proofs publicInputs : Fin n → Bytes)
    (hinputs : ∀ i, (publicInputs i).length = 32 * (ic.length - 1)) :
    (∀ rho : ℕ → ZMod r,
      verifyBatchWith suite vk ic (List.ofFn proofs) (List.ofFn publicInputs) rho = true ↔
        ∃ D : Fin n → Gt, (∀ i, defect suite vk ic (publicInputs i) (proofs i) = some (D i)) ∧
          ∑ i : Fin n, rho i * suite.log (D i) = 0) ∧
    (∀ i, verify suite vk ic (publicInputs i) (proofs i) = true ↔
      defect suite vk ic (publicInputs i) (proofs i) = some 0) ∧
    (∀ seed : Bytes, (∀ i, verify suite vk ic (publicInputs i) (proofs i) = true) →
      verifyBatch suite vk ic (List.ofFn proofs) (List.ofFn publicInputs) seed = true) ∧
    ∀ (seed : Bytes) (j : Fin n),
      (∀ i, i ≠ j → verify suite vk ic (publicInputs i) (proofs i) = true) →
      verify suite vk ic (publicInputs j) (proofs j) = false → batchScalar suite seed j ≠ 0 →
        verifyBatch suite vk ic (List.ofFn proofs) (List.ofFn publicInputs) seed = false := by
  have haligned : ∀ i, (publicInputs i).length % 32 = 0 := fun i => by
    rw [hinputs i, Nat.mul_mod_right]
  refine ⟨fun rho => ?_, fun i => verify_eq_true (haligned i),
    fun seed haccept => (verifyBatchWith_eq_true hn).mpr
      ⟨0, fun i => (verify_eq_true (haligned i)).mp (haccept i), by simp⟩,
    fun seed j => verifyBatchWith_of_not_verify haligned⟩
  rw [verifyBatchWith_eq_true hn]
  have hlog : ∀ D : Fin n → Gt, ∑ i : Fin n, rho i * suite.log (D i)
      = suite.log (∑ i : Fin n, rho i • D i) := fun D => by simp [map_sum]
  simp only [hlog, map_eq_zero_iff _ suite.log.injective]

end Batch

namespace Sample

/-- A circuit with one public input, over the sample suite. -/
def verifyingKey : VerifyingKey where
  alphaG1 := encode 48 (Bls.Sample.element 7)
  betaG2 := encode 96 (Bls.Sample.element 11)
  gammaG2 := encode 96 (Bls.Sample.element 13)
  deltaG2 := encode 96 (Bls.Sample.element 4)

def inputCommitments : List Bytes :=
  [encode 48 (Bls.Sample.element 2), encode 48 (Bls.Sample.element 3)]

def input : Bytes := scalarToBytes (Bls.Sample.element 4)

/-- The equation holds for `c = 7` alone. -/
def proof (c : ZMod 17) : Bytes :=
  encode 48 (Bls.Sample.element 3) ++ encode 96 (Bls.Sample.element 5) ++ encode 48 c

end Sample

open Groth16.Sample

theorem verifyBatch_sample :
    verifyBatch Bls.Sample.suite verifyingKey inputCommitments
      (List.ofFn ![proof 7, proof 8]) (List.ofFn ![input, input]) [1]
        = false :=
  (verifyBatch_correct Bls.Sample.suite verifyingKey inputCommitments 2 (by decide)
    ![proof 7, proof 8] ![input, input] (by decide +kernel)).2.2.2
      [1] 1 (by decide +kernel) (by decide +kernel) (by decide +kernel)

end QuorumProof.Zk.Groth16
