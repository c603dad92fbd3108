import QuorumProof.Zk.Plonk
import QuorumProof.Lib.EvaluationDomain
import Mathlib.Tactic.Module
import Mathlib.Tactic.LinearCombination

/-!
# Zk/PlonkCompleteness — an honest PLONK proof is accepted

The prover's side, in polynomials: a circuit's selectors and permutations, the wire, permutation and
quotient polynomials, and the proof that commits to them by their value at `tau`, evaluates them at
`zeta` and `zeta * omega`, and opens them by two quotients.  When the polynomials satisfy the
quotient identity for the challenges their own commitments give, the linearisation takes the value
`-r0` at `zeta`, both openings are exact, and the verifier's two pairings agree.
-/

namespace QuorumProof.Zk.Plonk

open Bls Blocks Polynomial EvaluationDomain

/-! ## The prover -/

/-- The selector and permutation polynomials of a circuit. -/
structure Circuit (r : ℕ) where
  domainSize : UInt32
  numPublicInputs : UInt32
  qM : (ZMod r)[X]
  qL : (ZMod r)[X]
  qR : (ZMod r)[X]
  qO : (ZMod r)[X]
  qC : (ZMod r)[X]
  s1 : (ZMod r)[X]
  s2 : (ZMod r)[X]
  s3 : (ZMod r)[X]

/-- The polynomials a prover commits to. -/
structure ProverPolynomials (r : ℕ) where
  a : (ZMod r)[X]
  b : (ZMod r)[X]
  c : (ZMod r)[X]
  z : (ZMod r)[X]
  tLo : (ZMod r)[X]
  tMid : (ZMod r)[X]
  tHi : (ZMod r)[X]

variable {r : ℕ} [Fact r.Prime] {G₁ G₂ Gt : Type} [AddCommGroup G₁] [Module (ZMod r) G₁]
  [AddCommGroup G₂] [Module (ZMod r) G₂] [AddCommGroup Gt] [Module (ZMod r) Gt]

/-- The generator of the domain of size `2 ^ k`. -/
def TwoAdic.generator (roots : TwoAdic r) (k : ℕ) : ZMod r :=
  roots.rootOfUnity ^ 2 ^ (roots.s - k)

/-- The `i`-th Lagrange basis polynomial of the domain. -/
noncomputable def lagrange (omega : ZMod r) (n i : ℕ) : (ZMod r)[X] :=
  Lagrange.basis (Finset.range n) (fun j => omega ^ j) i

/-- `PI(X)`: minus the public inputs on the first rows. -/
noncomputable def publicInputPoly (omega : ZMod r) (n : ℕ) (inputs : List (ZMod r)) : (ZMod r)[X] :=
  -∑ i : Fin inputs.length, C inputs[i] * lagrange omega n i

/-- The gate and permutation constraints, divided by the vanishing polynomial of the domain. -/
def QuotientIdentity (circuit : Circuit r) (omega : ZMod r) (inputs : List (ZMod r))
    (P : ProverPolynomials r) (ch : Challenges r) : Prop :=
  let n := circuit.domainSize.toNat
  P.a * P.b * circuit.qM + P.a * circuit.qL + P.b * circuit.qR + P.c * circuit.qO + circuit.qC +
      publicInputPoly omega n inputs +
    C ch.alpha *
      ((P.a + C ch.beta * X + C ch.gamma) * (P.b + C (ch.beta * cosetK1) * X + C ch.gamma) *
          (P.c + C (ch.beta * cosetK2) * X + C ch.gamma) * P.z -
        (P.a + C ch.beta * circuit.s1 + C ch.gamma) * (P.b + C ch.beta * circuit.s2 + C ch.gamma) *
          (P.c + C ch.beta * circuit.s3 + C ch.gamma) * P.z.comp (C omega * X)) +
    C (ch.alpha ^ 2) * (P.z - 1) * lagrange omega n 0
  = (X ^ n - 1) * (P.tLo + X ^ n * P.tMid + X ^ (2 * n) * P.tHi)

section Prover

variable (suite : Suite r G₁ G₂ Gt) (tau : ZMod r)

/-- The KZG commitment of a polynomial. -/
noncomputable def commit (p : (ZMod r)[X]) : G₁ := p.eval tau • suite.g₁

/-- The points of the circuit's key. -/
noncomputable def Circuit.key (circuit : Circuit r) : Key G₁ where
  qM := commit suite tau circuit.qM
  qL := commit suite tau circuit.qL
  qR := commit suite tau circuit.qR
  qO := commit suite tau circuit.qO
  qC := commit suite tau circuit.qC
  s1 := commit suite tau circuit.s1
  s2 := commit suite tau circuit.s2
  s3 := commit suite tau circuit.s3

/-- The key whose commitments are those of the circuit's polynomials. -/
noncomputable def Circuit.verifyingKey (circuit : Circuit r) : VerifyingKey where
  domainSize := circuit.domainSize
  numPublicInputs := circuit.numPublicInputs
  qM := suite.toCompressed₁ (circuit.key suite tau).qM
  qL := suite.toCompressed₁ (circuit.key suite tau).qL
  qR := suite.toCompressed₁ (circuit.key suite tau).qR
  qO := suite.toCompressed₁ (circuit.key suite tau).qO
  qC := suite.toCompressed₁ (circuit.key suite tau).qC
  s1 := suite.toCompressed₁ (circuit.key suite tau).s1
  s2 := suite.toCompressed₁ (circuit.key suite tau).s2
  s3 := suite.toCompressed₁ (circuit.key suite tau).s3

@[simp] theorem Circuit.verifyingKey_domainSize (circuit : Circuit r) :
    (circuit.verifyingKey suite tau).domainSize = circuit.domainSize := rfl

@[simp] theorem Circuit.verifyingKey_numPublicInputs (circuit : Circuit r) :
    (circuit.verifyingKey suite tau).numPublicInputs = circuit.numPublicInputs := rfl

/-- Public inputs as the verifier takes them. -/
def encodeInputs (inputs : List (ZMod r)) : Bytes := (inputs.map scalarToBytes).flatten

/-- The bytes of a proof. -/
def encodeProof (p : Proof r G₁) : Bytes :=
  ([p.a, p.b, p.c, p.z, p.tLo, p.tMid, p.tHi, p.wZeta, p.wZetaOmega].map
      suite.toCompressed₁).flatten ++
    ([p.aBar, p.bBar, p.cBar, p.s1Bar, p.s2Bar, p.zwBar].map scalarToBytes).flatten

/-- The polynomial `[D]` commits to. -/
noncomputable def linearisationPoly (circuit : Circuit r) (P : ProverPolynomials r)
    (p : Proof r G₁) (ch : Challenges r) (l1Zeta zetaPowN zHZeta : ZMod r) : (ZMod r)[X] :=
  C (p.aBar * p.bBar) * circuit.qM + C p.aBar * circuit.qL + C p.bBar * circuit.qR +
    C p.cBar * circuit.qO + circuit.qC + C (coeffZ p ch l1Zeta) * P.z +
    C (coeffS3 p ch) * circuit.s3 -
    C zHZeta * (P.tLo + C zetaPowN * P.tMid + C (zetaPowN ^ 2) * P.tHi)

/-- The polynomial opened at `zeta`: the linearisation and, weighted by powers of `v`, the
polynomials whose evaluations the proof carries. -/
noncomputable def batchedPoly (circuit : Circuit r) (P : ProverPolynomials r) (p : Proof r G₁)
    (ch : Challenges r) (omega : ZMod r) : (ZMod r)[X] :=
  let n := circuit.domainSize.toNat
  linearisationPoly circuit P p ch ((lagrange omega n 0).eval ch.zeta) (ch.zeta ^ n)
      (ch.zeta ^ n - 1) +
    C ch.v * P.a + C (ch.v ^ 2) * P.b + C (ch.v ^ 3) * P.c + C (ch.v ^ 4) * circuit.s1 +
    C (ch.v ^ 5) * circuit.s2

variable (circuit : Circuit r) (omega : ZMod r) (inputs : List (ZMod r)) (P : ProverPolynomials r)

/-- The proof after the commitments, its evaluations and openings still open. -/
noncomputable def committedProof : Proof r G₁ where
  a := commit suite tau P.a
  b := commit suite tau P.b
  c := commit suite tau P.c
  z := commit suite tau P.z
  tLo := commit suite tau P.tLo
  tMid := commit suite tau P.tMid
  tHi := commit suite tau P.tHi
  wZeta := 0
  wZetaOmega := 0
  aBar := 0
  bBar := 0
  cBar := 0
  s1Bar := 0
  s2Bar := 0
  zwBar := 0

/-- The challenges the transcript derives from a proof for this circuit. -/
noncomputable def challengesOf (p : Proof r G₁) : Challenges r :=
  challenges suite (circuit.verifyingKey suite tau) (encodeInputs inputs) p

/-- The proof with the evaluations at the transcript's `zeta` filled in. -/
noncomputable def evaluatedProof : Proof r G₁ :=
  let p := committedProof suite tau P
  let zeta := (challengesOf suite tau circuit inputs p).zeta
  { p with
    aBar := P.a.eval zeta
    bBar := P.b.eval zeta
    cBar := P.c.eval zeta
    s1Bar := circuit.s1.eval zeta
    s2Bar := circuit.s2.eval zeta
    zwBar := P.z.eval (zeta * omega) }

/-- The honest proof: the commitments, the evaluations, and the two opening quotients. -/
noncomputable def honestProof : Proof r G₁ :=
  let p := evaluatedProof suite tau circuit omega inputs P
  let ch := challengesOf suite tau circuit inputs p
  { p with
    wZeta := commit suite tau (openingQuotient (batchedPoly circuit P p ch omega) ch.zeta)
    wZetaOmega := commit suite tau (openingQuotient P.z (ch.zeta * omega)) }

end Prover

/-! ## Decoding what was encoded -/

section Decode

variable (suite : Suite r G₁ G₂ Gt)

theorem g1At_flatten (points : List G₁) (rest : Bytes) {i : ℕ} (hi : i < points.length) :
    g1At suite ((points.map suite.toCompressed₁).flatten ++ rest) i = some points[i] := by
  have hwidth : ∀ b ∈ points.map suite.toCompressed₁, b.length = 48 :=
    List.forall_mem_map.mpr fun P _ => suite.length_toCompressed₁ P
  rw [g1At, slice_flatten hwidth rest (by simpa using hi), List.getElem_map,
    suite.fromCompressed₁_toCompressed₁]

include suite in
theorem scalarFromBytes_slice (scalars : List (ZMod r)) (rest : Bytes) {i : ℕ}
    (hi : i < scalars.length) :
    scalarFromBytes (slice ((scalars.map scalarToBytes).flatten ++ rest) (i * 32) ((i + 1) * 32))
      = some scalars[i] := by
  have hwidth : ∀ b ∈ scalars.map scalarToBytes, b.length = 32 :=
    List.forall_mem_map.mpr fun a _ => length_scalarToBytes a
  rw [slice_flatten hwidth rest (by simpa using hi), List.getElem_map,
    suite.scalarFromBytes_scalarToBytes]

include suite in
theorem scAt_flatten {points : Bytes} (hpoints : points.length = 9 * 48) (scalars : List (ZMod r))
    {i : ℕ} (hi : i < scalars.length) :
    scAt (points ++ (scalars.map scalarToBytes).flatten) i = some scalars[i] := by
  have hslice := scalarFromBytes_slice suite scalars [] hi
  rwa [List.append_nil, ← slice_append points, hpoints] at hslice

theorem decodeProof_encodeProof (p : Proof r G₁) :
    decodeProof suite (encodeProof suite p) = some p := by
  have hpoints : (([p.a, p.b, p.c, p.z, p.tLo, p.tMid, p.tHi, p.wZeta, p.wZetaOmega].map
      suite.toCompressed₁).flatten).length = 9 * 48 := by
    simp [suite.length_toCompressed₁]
  have hlen : (encodeProof suite p).length = plonkProofLen := by
    rw [encodeProof, List.length_append, hpoints]
    simp [length_scalarToBytes, plonkProofLen]
  have hg := fun i hi => g1At_flatten suite
    [p.a, p.b, p.c, p.z, p.tLo, p.tMid, p.tHi, p.wZeta, p.wZetaOmega]
    ([p.aBar, p.bBar, p.cBar, p.s1Bar, p.s2Bar, p.zwBar].map scalarToBytes).flatten (i := i) hi
  have hs := fun i hi => scAt_flatten suite hpoints
    [p.aBar, p.bBar, p.cBar, p.s1Bar, p.s2Bar, p.zwBar] (i := i) hi
  simp only [decodeProof, hlen, guard, if_true]
  simp only [encodeProof, hg 0 (by simp), hg 1 (by simp), hg 2 (by simp), hg 3 (by simp),
    hg 4 (by simp), hg 5 (by simp), hg 6 (by simp), hg 7 (by simp), hg 8 (by simp),
    hs 0 (by simp), hs 1 (by simp), hs 2 (by simp), hs 3 (by simp), hs 4 (by simp), hs 5 (by simp)]
  rfl

variable (tau : ZMod r) (circuit : Circuit r)

theorem decodeKey_verifyingKey :
    decodeKey suite (circuit.verifyingKey suite tau) = some (circuit.key suite tau) := by
  simp [decodeKey, Circuit.verifyingKey, Circuit.key]

end Decode

/-! ## The domain -/

section Domain

variable (suite : Suite r G₁ G₂ Gt) {roots : TwoAdic r} {k : ℕ} {domainSize : UInt32}

theorem domainGenerator_eq (hk : k ≤ roots.s) (hn : domainSize.toNat = 2 ^ k) :
    domainGenerator roots domainSize = some (roots.generator k) := by
  simp [domainGenerator, hn, hk, guard, TwoAdic.generator]

theorem generator_isPrimitiveRoot (hk : k ≤ roots.s) :
    IsPrimitiveRoot (roots.generator k) (2 ^ k) :=
  roots.primitive.pow (by positivity) (by rw [← pow_add, Nat.sub_add_cancel hk])

variable {omega zeta : ZMod r} {n : ℕ}

/-- Off the domain the denominators of the Lagrange basis are not zero. -/
theorem denom_ne_zero (homega : IsPrimitiveRoot omega n) (hn : 0 < n) (hzeta : zeta ^ n ≠ 1)
    (i : ℕ) : (n : ZMod r) * (zeta - omega ^ i) ≠ 0 := by
  have : NeZero n := ⟨hn.ne'⟩
  refine mul_ne_zero (homega.neZero').out (sub_ne_zero.mpr ?_)
  rintro rfl
  exact hzeta (by rw [← pow_mul, mul_comm, pow_mul, homega.pow_eq_one, one_pow])

theorem invert_of_ne_zero {a : ZMod r} (h : a ≠ 0) : invert a = some a⁻¹ := if_neg h

include suite in
/-- What the loop of `pi_zeta` carries after `m` turns. -/
theorem publicInputLoop_eq (homega : IsPrimitiveRoot omega n) (hzeta : zeta ^ n ≠ 1)
    (inputs : List (ZMod r)) (hl : inputs.length ≤ n) {m : ℕ} (hm : m ≤ inputs.length) :
    (List.range m).foldlM
        (publicInputStep omega zeta (zeta ^ n - 1) n (encodeInputs inputs)) (0, 1)
      = some (-∑ i ∈ Finset.range m, inputs.getD i 0 * (lagrange omega n i).eval zeta,
          omega ^ m) := by
  induction m with
  | zero => simp
  | succ m ih =>
    have hlt : m < n := by omega
    have hinput := scalarFromBytes_slice suite inputs [] (i := m) hm
    rw [List.append_nil] at hinput
    have hdenom := invert_of_ne_zero (denom_ne_zero homega (by omega) hzeta m)
    have hstep : publicInputStep omega zeta (zeta ^ n - 1) n (encodeInputs inputs)
        (-∑ i ∈ Finset.range m, inputs.getD i 0 * (lagrange omega n i).eval zeta, omega ^ m) m
        = some (-∑ i ∈ Finset.range (m + 1), inputs.getD i 0 * (lagrange omega n i).eval zeta,
            omega ^ (m + 1)) := by
      simp only [publicInputStep, encodeInputs, hinput, hdenom, Option.bind_eq_bind,
        Option.bind_some, Option.pure_def, Option.some.injEq, Prod.mk.injEq]
      rw [Finset.sum_range_succ, lagrange, eval_basis homega hlt hzeta, pow_succ,
        List.getD_eq_getElem _ _ hm]
      exact ⟨by ring, rfl⟩
    rw [List.range_succ, List.foldlM_append, ih (by omega), Option.bind_eq_bind, Option.bind_some,
      List.foldlM_cons, hstep]
    rfl

include suite in
/-- **The verifier evaluates the public-input polynomial.** -/
theorem publicInputEval_eq (homega : IsPrimitiveRoot omega n) (hzeta : zeta ^ n ≠ 1)
    (inputs : List (ZMod r)) (hl : inputs.length ≤ n) :
    publicInputEval omega zeta (zeta ^ n - 1) n (encodeInputs inputs) inputs.length
      = some ((publicInputPoly omega n inputs).eval zeta) := by
  rw [publicInputEval, publicInputLoop_eq suite homega hzeta inputs hl le_rfl]
  simp [publicInputPoly, eval_finsetSum, Finset.sum_range]

end Domain

/-! ## The linearisation and the openings -/

section Algebra

variable {circuit : Circuit r} {omega : ZMod r} {inputs : List (ZMod r)} {P : ProverPolynomials r}
  {p : Proof r G₁} {ch : Challenges r}

/-- The proof carries the values of the polynomials at `zeta` and `zeta * omega`. -/
structure Evaluates (circuit : Circuit r) (omega : ZMod r) (P : ProverPolynomials r)
    (p : Proof r G₁) (zeta : ZMod r) : Prop where
  aBar : p.aBar = P.a.eval zeta
  bBar : p.bBar = P.b.eval zeta
  cBar : p.cBar = P.c.eval zeta
  s1Bar : p.s1Bar = circuit.s1.eval zeta
  s2Bar : p.s2Bar = circuit.s2.eval zeta
  zwBar : p.zwBar = P.z.eval (zeta * omega)

omit [AddCommGroup G₁] [Module (ZMod r) G₁] in
/-- **The linearisation takes the value `-r0` at `zeta`**: the quotient identity there. -/
theorem eval_linearisationPoly (hp : Evaluates circuit omega P p ch.zeta)
    (hidentity : QuotientIdentity circuit omega inputs P ch) :
    let n := circuit.domainSize.toNat
    let l1Zeta := (lagrange omega n 0).eval ch.zeta
    (linearisationPoly circuit P p ch l1Zeta (ch.zeta ^ n) (ch.zeta ^ n - 1)).eval ch.zeta
      = -constantTerm p ch ((publicInputPoly omega n inputs).eval ch.zeta) l1Zeta := by
  have hzeta := congrArg (eval ch.zeta) hidentity
  simp only [eval_add, eval_sub, eval_mul, eval_pow, eval_comp, eval_C, eval_X, eval_one,
    mul_comm omega] at hzeta
  simp only [linearisationPoly, coeffZ, coeffS3, constantTerm, hp.aBar, hp.bBar, hp.cBar, hp.s1Bar,
    hp.s2Bar, hp.zwBar, eval_add, eval_sub, eval_mul, eval_C]
  linear_combination hzeta

omit [AddCommGroup G₁] [Module (ZMod r) G₁] in
theorem eval_batchedPoly (x : ZMod r) :
    let n := circuit.domainSize.toNat
    (batchedPoly circuit P p ch omega).eval x
      = (linearisationPoly circuit P p ch ((lagrange omega n 0).eval ch.zeta) (ch.zeta ^ n)
            (ch.zeta ^ n - 1)).eval x +
          ch.v * P.a.eval x + ch.v ^ 2 * P.b.eval x + ch.v ^ 3 * P.c.eval x +
          ch.v ^ 4 * circuit.s1.eval x + ch.v ^ 5 * circuit.s2.eval x := by
  simp only [batchedPoly, eval_add, eval_mul, eval_C]

variable (suite : Suite r G₁ G₂ Gt) (tau : ZMod r)

/-- The proof carries the commitments of the polynomials and of the two opening quotients. -/
structure Commits (circuit : Circuit r) (omega : ZMod r) (P : ProverPolynomials r)
    (p : Proof r G₁) (ch : Challenges r) : Prop where
  a : p.a = commit suite tau P.a
  b : p.b = commit suite tau P.b
  c : p.c = commit suite tau P.c
  z : p.z = commit suite tau P.z
  tLo : p.tLo = commit suite tau P.tLo
  tMid : p.tMid = commit suite tau P.tMid
  tHi : p.tHi = commit suite tau P.tHi
  wZeta : p.wZeta
    = commit suite tau (openingQuotient (batchedPoly circuit P p ch omega) ch.zeta)
  wZetaOmega : p.wZetaOmega = commit suite tau (openingQuotient P.z (ch.zeta * omega))

variable {suite tau}

/-- `[D]` commits to the linearisation polynomial. -/
theorem linearisation_eq_commit (hp : Commits suite tau circuit omega P p ch)
    (l1Zeta zetaPowN zHZeta : ZMod r) :
    linearisation (circuit.key suite tau) p ch l1Zeta zetaPowN zHZeta
      = commit suite tau (linearisationPoly circuit P p ch l1Zeta zetaPowN zHZeta) := by
  simp only [linearisation, linearisationPoly, Circuit.key, hp.z, hp.tLo, hp.tMid, hp.tHi, commit,
    eval_add, eval_sub, eval_mul, eval_C]
  module

/-- **The two pairings agree**: both openings are exact at `tau`. -/
theorem pairingCheck_eq_true [DecidableEq Gt] (hcommits : Commits suite tau circuit omega P p ch)
    (hevaluates : Evaluates circuit omega P p ch.zeta)
    (hidentity : QuotientIdentity circuit omega inputs P ch) :
    let n := circuit.domainSize.toNat
    let l1Zeta := (lagrange omega n 0).eval ch.zeta
    pairingCheck suite (circuit.key suite tau) (tau • suite.g₂) p ch omega
      (linearisation (circuit.key suite tau) p ch l1Zeta (ch.zeta ^ n) (ch.zeta ^ n - 1))
      (constantTerm p ch ((publicInputPoly omega n inputs).eval ch.zeta) l1Zeta) = true := by
  intro n l1Zeta
  have hconst := eval_linearisationPoly hevaluates hidentity
  have hzeta := sub_mul_eval_openingQuotient (batchedPoly circuit P p ch omega) ch.zeta tau
  have hzetaOmega := sub_mul_eval_openingQuotient P.z (ch.zeta * omega) tau
  rw [eval_batchedPoly, eval_batchedPoly] at hzeta
  rw [linearisation_eq_commit hcommits]
  rw [pairingCheck, decide_eq_true_iff, suite.pair_smul_g₂, suite.pair_g₂_inj]
  simp only [hcommits.a, hcommits.b, hcommits.c, hcommits.z, hcommits.wZeta, hcommits.wZetaOmega,
    commit, Circuit.key, hevaluates.aBar, hevaluates.bBar, hevaluates.cBar, hevaluates.s1Bar,
    hevaluates.s2Bar, hevaluates.zwBar]
  match_scalars
  linear_combination hzeta + ch.u * hzetaOmega - hconst

end Algebra

/-! ## Completeness -/

section Completeness

variable (suite : Suite r G₁ G₂ Gt) (roots : TwoAdic r) (tau : ZMod r) (circuit : Circuit r)
  (inputs : List (ZMod r)) (P : ProverPolynomials r)

omit [Fact r.Prime] in
theorem length_encodeInputs : (encodeInputs inputs).length = inputs.length * 32 := by
  rw [encodeInputs, length_flatten (List.forall_mem_map.mpr fun a _ => length_scalarToBytes a),
    List.length_map]

variable (omega : ZMod r)

/-- Evaluations and openings are absorbed after `zeta`, so filling them in leaves it alone. -/
theorem evaluates_honestProof :
    Evaluates circuit omega P (honestProof suite tau circuit omega inputs P)
      (challengesOf suite tau circuit inputs (honestProof suite tau circuit omega inputs P)).zeta :=
  ⟨rfl, rfl, rfl, rfl, rfl, rfl⟩

theorem commits_honestProof :
    Commits suite tau circuit omega P (honestProof suite tau circuit omega inputs P)
      (challengesOf suite tau circuit inputs (honestProof suite tau circuit omega inputs P)) :=
  ⟨rfl, rfl, rfl, rfl, rfl, rfl, rfl, rfl, rfl⟩

variable {roots circuit inputs P} [DecidableEq Gt]

/-- **Completeness.**  A proof that carries the commitments, evaluations and openings of polynomials
satisfying the quotient identity is accepted whenever `zeta` is off the domain. -/
theorem verify_encodeProof {k : ℕ} (hk : k ≤ roots.s) (hn : circuit.domainSize.toNat = 2 ^ k)
    (hne : inputs ≠ []) (hlen : inputs.length = circuit.numPublicInputs.toNat)
    (hle : inputs.length ≤ circuit.domainSize.toNat) {p : Proof r G₁}
    (hcommits : Commits suite tau circuit (roots.generator k) P p
      (challengesOf suite tau circuit inputs p))
    (hevaluates : Evaluates circuit (roots.generator k) P p
      (challengesOf suite tau circuit inputs p).zeta)
    (hidentity : QuotientIdentity circuit (roots.generator k) inputs P
      (challengesOf suite tau circuit inputs p))
    (hzeta : (challengesOf suite tau circuit inputs p).zeta ^ circuit.domainSize.toNat ≠ 1) :
    verify suite roots (circuit.verifyingKey suite tau) (suite.toCompressed₂ (tau • suite.g₂))
      (encodeInputs inputs) (encodeProof suite p) = true := by
  have homega : IsPrimitiveRoot (roots.generator k) circuit.domainSize.toNat :=
    hn ▸ generator_isPrimitiveRoot hk
  have hpos : 0 < circuit.domainSize.toNat := (List.length_pos_iff.mpr hne).trans_le hle
  have hshape : encodeInputs inputs ≠ [] ∧ (encodeInputs inputs).length % 32 = 0 := by
    have := List.length_pos_iff.mpr hne
    rw [← List.length_pos_iff, length_encodeInputs]
    omega
  have hcount : UInt32.ofNat ((encodeInputs inputs).length / 32) = circuit.numPublicInputs := by
    rw [length_encodeInputs, Nat.mul_div_cancel _ (by decide), hlen, UInt32.ofNat_toNat]
  have hdenom := invert_of_ne_zero (denom_ne_zero homega hpos hzeta 0)
  have hl1 : (lagrange (roots.generator k) circuit.domainSize.toNat 0).eval
      (challengesOf suite tau circuit inputs p).zeta = _ := eval_basis homega hpos hzeta
  have hpi := publicInputEval_eq suite homega hzeta inputs hle
  have hpairing := pairingCheck_eq_true hcommits hevaluates hidentity
  rw [pow_zero] at hdenom
  simp only [hl1] at hpairing
  have hchallenges : challenges suite (circuit.verifyingKey suite tau) (encodeInputs inputs) p
    = challengesOf suite tau circuit inputs p := rfl
  rw [verify, decodeKey_verifyingKey, suite.fromCompressed₂_toCompressed₂, decodeProof_encodeProof,
    Circuit.verifyingKey_domainSize, Circuit.verifyingKey_numPublicInputs, domainGenerator_eq hk hn,
    hcount]
  simpa [guard, hshape, ← hlen, hle, hchallenges, hdenom, hpi] using hpairing

end Completeness

namespace Sample

variable (numPublicInputs : UInt32) (inputs : List (ZMod 17)) (a : ZMod 17)

/-- One gate on a domain of two rows: the first wire of row 0 is the public input. -/
noncomputable def circuit : Circuit 17 where
  domainSize := 2
  numPublicInputs := numPublicInputs
  qM := 0
  qL := C 9 * X + C 9
  qR := 0
  qO := 0
  qC := 0
  s1 := X
  s2 := C (cosetK1 : ZMod 17) * X
  s3 := C (cosetK2 : ZMod 17) * X

noncomputable def polynomials : ProverPolynomials 17 where
  a := C a
  b := 1
  c := 0
  z := 1
  tLo := 0
  tMid := 0
  tHi := 0

theorem generator_one : roots.generator 1 = -1 := by decide

theorem lagrange_zero : lagrange (-1 : ZMod 17) 2 0 = C 9 * X + C 9 := by
  have herase : (Finset.range 2).erase 0 = {1} := by decide
  have hinv : (1 + 1 : ZMod 17)⁻¹ = 9 := by decide +kernel
  simp [lagrange, Lagrange.basis, Lagrange.basisDivisor, herase, hinv, mul_add]

theorem quotientIdentity {numPublicInputs : UInt32} {inputs : List (ZMod 17)} {a : ZMod 17}
    (hpi : publicInputPoly (-1) 2 inputs = -(C a * (C 9 * X + C 9))) (ch : Challenges 17) :
    QuotientIdentity (circuit numPublicInputs) (roots.generator 1) inputs (polynomials a) ch := by
  have hsize : (circuit numPublicInputs).domainSize.toNat = 2 := rfl
  rw [QuotientIdentity, generator_one, hsize, hpi]
  simp only [circuit, polynomials, one_comp, map_mul]
  ring

/-- The key at `tau = 5`, its commitments evaluated. -/
def verifyingKey : VerifyingKey where
  domainSize := 2
  numPublicInputs := numPublicInputs
  qM := encode 48 (0 : ZMod 17)
  qL := encode 48 (Bls.Sample.element 3)
  qR := encode 48 (0 : ZMod 17)
  qO := encode 48 (0 : ZMod 17)
  qC := encode 48 (0 : ZMod 17)
  s1 := encode 48 (Bls.Sample.element 5)
  s2 := encode 48 (Bls.Sample.element 10)
  s3 := encode 48 (Bls.Sample.element 15)

theorem commit_eq (tau : ZMod 17) (p : (ZMod 17)[X]) :
    commit Bls.Sample.suite tau p = p.eval tau := mul_one _

theorem verifyingKey_circuit :
    (circuit numPublicInputs).verifyingKey Bls.Sample.suite 5 = verifyingKey numPublicInputs := by
  have hq : (9 * 5 + 9 : ZMod 17) = 3 := by decide
  have h2 : (cosetK1 * 5 : ZMod 17) = 10 := by decide
  have h3 : (cosetK2 * 5 : ZMod 17) = 15 := by decide
  simp [Circuit.verifyingKey, Circuit.key, commit_eq, circuit, verifyingKey, hq, h2, h3,
    Bls.Sample.element]
  simp [Bls.Sample.suite]

/-- The transcript's `zeta` for the sample's commitments. -/
def zeta : ZMod 17 :=
  let (_, _, ts) := wiresRound Bls.Sample.suite (verifyingKey numPublicInputs) (encodeInputs inputs)
    a 1 0
  let (_, ts) := permutationRound (r := 17) Bls.Sample.suite ts 1
  (quotientRound Bls.Sample.suite ts 0 0 0).1

noncomputable def proof : Proof 17 (ZMod 17) :=
  honestProof Bls.Sample.suite (Bls.Sample.element 5) (circuit numPublicInputs) (roots.generator 1)
    inputs (polynomials a)

theorem zeta_proof : (challengesOf Bls.Sample.suite 5 (circuit numPublicInputs) inputs
      (proof numPublicInputs inputs a)).zeta = zeta numPublicInputs inputs a := by
  simp only [challengesOf, challenges, proof, honestProof, evaluatedProof, committedProof,
    verifyingKey_circuit, commit_eq, polynomials, eval_C, eval_zero, eval_one, zeta]

end Sample

open Plonk.Sample

theorem verify_encodeProof_sample :
    verify Bls.Sample.suite roots ((circuit 1).verifyingKey Bls.Sample.suite 5)
      (Bls.Sample.suite.toCompressed₂ ((5 : ZMod 17) • Bls.Sample.suite.g₂))
      (encodeInputs [(5 : ZMod 17)]) (encodeProof Bls.Sample.suite (proof 1 [5] 5)) = true :=
  verify_encodeProof Bls.Sample.suite 5 (by decide) rfl (by decide) rfl (by decide)
    (commits_honestProof _ _ _ _ _ _) (evaluates_honestProof _ _ _ _ _ _)
    (quotientIdentity (by simp [publicInputPoly, lagrange_zero]) _)
    (by
      have hzeta : zeta 1 [5] 5 ^ 2 ≠ 1 := by decide +kernel
      rwa [← zeta_proof] at hzeta)

/-- A circuit without public inputs: the honest proof meets every condition and is rejected. -/
theorem not_verify_encodeProof :
    let ch := challengesOf Bls.Sample.suite 5 (circuit 0) [] (proof 0 [] 0)
    Commits Bls.Sample.suite 5 (circuit 0) (roots.generator 1) (polynomials 0)
        (proof 0 [] 0) ch ∧
      Evaluates (circuit 0) (roots.generator 1) (polynomials 0)
        (proof 0 [] 0) ch.zeta ∧
      QuotientIdentity (circuit 0) (roots.generator 1) [] (polynomials 0) ch ∧
      ch.zeta ^ (circuit 0).domainSize.toNat ≠ 1 ∧
      verify Bls.Sample.suite roots ((circuit 0).verifyingKey Bls.Sample.suite 5)
        (Bls.Sample.suite.toCompressed₂ ((5 : ZMod 17) • Bls.Sample.suite.g₂))
        (encodeInputs ([] : List (ZMod 17)))
        (encodeProof Bls.Sample.suite (proof 0 [] 0)) = false := by
  refine ⟨commits_honestProof _ _ _ _ _ _, evaluates_honestProof _ _ _ _ _ _,
    quotientIdentity (by simp [publicInputPoly]) _, ?_, rfl⟩
  have hzeta : zeta 0 [] 0 ^ 2 ≠ 1 := by decide +kernel
  rwa [← zeta_proof] at hzeta

end QuorumProof.Zk.Plonk
