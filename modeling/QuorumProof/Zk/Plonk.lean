import QuorumProof.Bls.Suite
import QuorumProof.Lib.Accumulate
import QuorumProof.Lib.Blocks
import Mathlib.RingTheory.RootsOfUnity.PrimitiveRoots

/-!
# Zk/Plonk — the PLONK verifier

`contracts/zk_verifier/src/plonk.rs`: the domain generator, the Fiat–Shamir transcript, and `verify`
with its linearisation, batched commitment and two-pairing check.  Every way to reject is the same
`false`, so the checks are computed in `Option`.
-/

namespace QuorumProof.Zk.Plonk

open Bls Blocks

/-! ## Keys and proofs -/

/-- `VerifyingKey`: the compressed commitments of a circuit. -/
structure VerifyingKey where
  domainSize : UInt32
  numPublicInputs : UInt32
  qM : Bytes
  qL : Bytes
  qR : Bytes
  qO : Bytes
  qC : Bytes
  s1 : Bytes
  s2 : Bytes
  s3 : Bytes
  deriving DecidableEq

def VerifyingKey.canonicalBytes (vk : VerifyingKey) : Bytes :=
  LittleEndian.toBytes 4 vk.domainSize.toNat ++ LittleEndian.toBytes 4 vk.numPublicInputs.toNat ++
    vk.qM ++ vk.qL ++ vk.qR ++ vk.qO ++ vk.qC ++ vk.s1 ++ vk.s2 ++ vk.s3

/-- The points of a verifying key. -/
structure Key (G₁ : Type) where
  qM : G₁
  qL : G₁
  qR : G₁
  qO : G₁
  qC : G₁
  s1 : G₁
  s2 : G₁
  s3 : G₁

/-- The commitments and evaluations of a proof. -/
structure Proof (r : ℕ) (G₁ : Type) where
  a : G₁
  b : G₁
  c : G₁
  z : G₁
  tLo : G₁
  tMid : G₁
  tHi : G₁
  wZeta : G₁
  wZetaOmega : G₁
  aBar : ZMod r
  bBar : ZMod r
  cBar : ZMod r
  s1Bar : ZMod r
  s2Bar : ZMod r
  zwBar : ZMod r

def plonkProofLen : ℕ := 9 * 48 + 6 * 32

variable {r : ℕ} [Fact r.Prime] {G₁ G₂ Gt : Type} [AddCommGroup G₁] [Module (ZMod r) G₁]
  [AddCommGroup G₂] [Module (ZMod r) G₂] [AddCommGroup Gt] [Module (ZMod r) Gt]
  (suite : Suite r G₁ G₂ Gt)

/-- The points of a verifying key, if they all decode. -/
def decodeKey (vk : VerifyingKey) : Option (Key G₁) := do
  let qM ← suite.fromCompressed₁ vk.qM
  let qL ← suite.fromCompressed₁ vk.qL
  let qR ← suite.fromCompressed₁ vk.qR
  let qO ← suite.fromCompressed₁ vk.qO
  let qC ← suite.fromCompressed₁ vk.qC
  let s1 ← suite.fromCompressed₁ vk.s1
  let s2 ← suite.fromCompressed₁ vk.s2
  let s3 ← suite.fromCompressed₁ vk.s3
  return { qM, qL, qR, qO, qC, s1, s2, s3 }

def g1At (proof : Bytes) (i : ℕ) : Option G₁ :=
  suite.fromCompressed₁ (slice proof (i * 48) ((i + 1) * 48))

def scAt (proof : Bytes) (i : ℕ) : Option (ZMod r) :=
  scalarFromBytes (slice proof (9 * 48 + i * 32) (9 * 48 + (i + 1) * 32))

/-- The commitments and evaluations of a proof of the right length, if they all decode. -/
def decodeProof (proof : Bytes) : Option (Proof r G₁) := do
  guard (proof.length = plonkProofLen)
  let a ← g1At suite proof 0
  let b ← g1At suite proof 1
  let c ← g1At suite proof 2
  let z ← g1At suite proof 3
  let tLo ← g1At suite proof 4
  let tMid ← g1At suite proof 5
  let tHi ← g1At suite proof 6
  let wZeta ← g1At suite proof 7
  let wZetaOmega ← g1At suite proof 8
  let aBar ← scAt proof 0
  let bBar ← scAt proof 1
  let cBar ← scAt proof 2
  let s1Bar ← scAt proof 3
  let s2Bar ← scAt proof 4
  let zwBar ← scAt proof 5
  return { a, b, c, z, tLo, tMid, tHi, wZeta, wZetaOmega, aBar, bBar, cBar, s1Bar, s2Bar, zwBar }

/-! ## The domain -/

/-- The scalar field's `S` and `ROOT_OF_UNITY`: a primitive root of unity of order `2 ^ S`. -/
structure TwoAdic (r : ℕ) where
  s : ℕ
  rootOfUnity : ZMod r
  primitive : IsPrimitiveRoot rootOfUnity (2 ^ s)

/-- `domain_generator`.  A power of two has as many trailing zeros as its logarithm. -/
def domainGenerator (roots : TwoAdic r) (domainSize : UInt32) : Option (ZMod r) := do
  let k := domainSize.toNat.log2
  guard (domainSize.toNat = 2 ^ k)
  guard (k ≤ roots.s)
  return roots.rootOfUnity ^ 2 ^ (roots.s - k)

/-! ## The transcript -/

structure Transcript where
  state : Bytes

namespace Transcript

variable (sha256 : Bytes → Bytes)

def new (domainSep : Bytes) : Transcript := ⟨sha256 domainSep⟩

def absorb (ts : Transcript) (label : String) (data : Bytes) : Transcript :=
  ⟨sha256 (ts.state ++ byteString label ++ LittleEndian.toBytes 8 data.length ++ data)⟩

/-- `Transcript::challenge`: the scalar and the ratcheted transcript. -/
def challenge (ts : Transcript) (label : String) : ZMod r × Transcript :=
  let d0 := sha256 (ts.state ++ byteString label ++ [0])
  let d1 := sha256 (ts.state ++ byteString label ++ [1])
  (scalarFromBytesWide (d0 ++ d1), ⟨sha256 (ts.state ++ byteString label ++ [2])⟩)

end Transcript

open Transcript

/-- The transcript up to `beta` and `gamma`. -/
def wiresRound (vk : VerifyingKey) (publicInputs : Bytes) (a b c : G₁) :
    ZMod r × ZMod r × Transcript :=
  let ts := new suite.sha256 (byteString "QuorumProof-PLONK-v1")
  let ts := ts.absorb suite.sha256 "vk" vk.canonicalBytes
  let ts := ts.absorb suite.sha256 "public_inputs" publicInputs
  let ts := ts.absorb suite.sha256 "a" (suite.toCompressed₁ a)
  let ts := ts.absorb suite.sha256 "b" (suite.toCompressed₁ b)
  let ts := ts.absorb suite.sha256 "c" (suite.toCompressed₁ c)
  let (beta, ts) := ts.challenge suite.sha256 "beta"
  let (gamma, ts) := ts.challenge suite.sha256 "gamma"
  (beta, gamma, ts)

/-- The transcript from there to `alpha`. -/
def permutationRound (ts : Transcript) (z : G₁) : ZMod r × Transcript :=
  (ts.absorb suite.sha256 "z" (suite.toCompressed₁ z)).challenge suite.sha256 "alpha"

/-- The transcript from there to `zeta`. -/
def quotientRound (ts : Transcript) (tLo tMid tHi : G₁) : ZMod r × Transcript :=
  let ts := ts.absorb suite.sha256 "t_lo" (suite.toCompressed₁ tLo)
  let ts := ts.absorb suite.sha256 "t_mid" (suite.toCompressed₁ tMid)
  let ts := ts.absorb suite.sha256 "t_hi" (suite.toCompressed₁ tHi)
  ts.challenge suite.sha256 "zeta"

/-- The transcript from there to `v`. -/
def evaluationRound (ts : Transcript) (aBar bBar cBar s1Bar s2Bar zwBar : ZMod r) :
    ZMod r × Transcript :=
  let ts := ts.absorb suite.sha256 "a_bar" (scalarToBytes aBar)
  let ts := ts.absorb suite.sha256 "b_bar" (scalarToBytes bBar)
  let ts := ts.absorb suite.sha256 "c_bar" (scalarToBytes cBar)
  let ts := ts.absorb suite.sha256 "s1_bar" (scalarToBytes s1Bar)
  let ts := ts.absorb suite.sha256 "s2_bar" (scalarToBytes s2Bar)
  let ts := ts.absorb suite.sha256 "zw_bar" (scalarToBytes zwBar)
  ts.challenge suite.sha256 "v"

/-- The transcript from there to `u`. -/
def openingRound (ts : Transcript) (wZeta wZetaOmega : G₁) : ZMod r :=
  let ts := ts.absorb suite.sha256 "w_zeta" (suite.toCompressed₁ wZeta)
  let ts := ts.absorb suite.sha256 "w_zeta_omega" (suite.toCompressed₁ wZetaOmega)
  (ts.challenge suite.sha256 "u").1

/-- The challenges of a proof. -/
structure Challenges (r : ℕ) where
  beta : ZMod r
  gamma : ZMod r
  alpha : ZMod r
  zeta : ZMod r
  v : ZMod r
  u : ZMod r

/-- The Fiat–Shamir transcript of `verify`. -/
def challenges (vk : VerifyingKey) (publicInputs : Bytes) (p : Proof r G₁) : Challenges r :=
  let (beta, gamma, ts) := wiresRound suite vk publicInputs p.a p.b p.c
  let (alpha, ts) := permutationRound suite ts p.z
  let (zeta, ts) := quotientRound suite ts p.tLo p.tMid p.tHi
  let (v, ts) := evaluationRound suite ts p.aBar p.bBar p.cBar p.s1Bar p.s2Bar p.zwBar
  let u := openingRound suite ts p.wZeta p.wZetaOmega
  { beta, gamma, alpha, zeta, v, u }

/-! ## Verification -/

def invert (a : ZMod r) : Option (ZMod r) := if a = 0 then none else some a⁻¹

/-- One turn of the loop that computes `pi_zeta`, which carries it and `omega_pow`. -/
def publicInputStep (omega zeta zHZeta nScalar : ZMod r) (publicInputs : Bytes) :
    ZMod r × ZMod r → ℕ → Option (ZMod r × ZMod r)
  | (piZeta, omegaPow), i => do
    let s ← scalarFromBytes (slice publicInputs (i * 32) ((i + 1) * 32))
    let invDenom ← invert (nScalar * (zeta - omegaPow))
    let lI := omegaPow * zHZeta * invDenom
    return (piZeta + -s * lI, omegaPow * omega)

/-- `pi_zeta`. -/
def publicInputEval (omega zeta zHZeta nScalar : ZMod r) (publicInputs : Bytes) (l : ℕ) :
    Option (ZMod r) := do
  let (piZeta, _) ← (List.range l).foldlM
    (publicInputStep omega zeta zHZeta nScalar publicInputs) (0, 1)
  return piZeta

/-- `r0`. -/
def constantTerm (p : Proof r G₁) (ch : Challenges r) (piZeta l1Zeta : ZMod r) : ZMod r :=
  piZeta - l1Zeta * ch.alpha ^ 2 -
    ch.alpha * (p.aBar + ch.beta * p.s1Bar + ch.gamma) * (p.bBar + ch.beta * p.s2Bar + ch.gamma) *
      (p.cBar + ch.gamma) * p.zwBar

def cosetK1 : ℕ := 2

def cosetK2 : ℕ := 3

def coeffZ (p : Proof r G₁) (ch : Challenges r) (l1Zeta : ZMod r) : ZMod r :=
  ch.alpha * (p.aBar + ch.beta * ch.zeta + ch.gamma) *
    (p.bBar + ch.beta * cosetK1 * ch.zeta + ch.gamma) *
    (p.cBar + ch.beta * cosetK2 * ch.zeta + ch.gamma) + l1Zeta * ch.alpha ^ 2

def coeffS3 (p : Proof r G₁) (ch : Challenges r) : ZMod r :=
  -(ch.alpha * (p.aBar + ch.beta * p.s1Bar + ch.gamma) * (p.bBar + ch.beta * p.s2Bar + ch.gamma) *
    ch.beta * p.zwBar)

/-- `[D]`, the linearisation commitment. -/
def linearisation (key : Key G₁) (p : Proof r G₁) (ch : Challenges r)
    (l1Zeta zetaPowN zHZeta : ZMod r) : G₁ :=
  let d := (p.aBar * p.bBar) • key.qM
  let d := d + p.aBar • key.qL
  let d := d + p.bBar • key.qR
  let d := d + p.cBar • key.qO
  let d := d + key.qC
  let d := d + coeffZ p ch l1Zeta • p.z
  let d := d + coeffS3 p ch • key.s3
  let tCombined := p.tLo
  let tCombined := tCombined + zetaPowN • p.tMid
  let tCombined := tCombined + zetaPowN ^ 2 • p.tHi
  d - zHZeta • tCombined

/-- The batched pairing check on `[D]` and `r0`. -/
def pairingCheck [DecidableEq Gt] (key : Key G₁) (x2 : G₂) (p : Proof r G₁) (ch : Challenges r)
    (omega : ZMod r) (d : G₁) (r0 : ZMod r) : Bool :=
  let v := ch.v
  let f := d
  let f := f + v • p.a
  let f := f + v ^ 2 • p.b
  let f := f + v ^ 3 • p.c
  let f := f + v ^ 4 • key.s1
  let f := f + v ^ 5 • key.s2
  let f := f + ch.u • p.z
  let e := -r0 + v * p.aBar + v ^ 2 * p.bBar + v ^ 3 * p.cBar + v ^ 4 * p.s1Bar +
    v ^ 5 * p.s2Bar + ch.u * p.zwBar
  let zetaOmega := ch.zeta * omega
  let lhs := p.wZeta + ch.u • p.wZetaOmega
  let rhs := ch.zeta • p.wZeta
  let rhs := rhs + (ch.u * zetaOmega) • p.wZetaOmega
  let rhs := rhs + f
  let rhs := rhs - e • suite.g₁
  suite.pair lhs x2 = suite.pair rhs suite.g₂

def verify [DecidableEq Gt] (roots : TwoAdic r) (vk : VerifyingKey)
    (srsTauG2 publicInputs proof : Bytes) : Bool :=
  Option.getD (do
    guard (publicInputs ≠ [] ∧ publicInputs.length % 32 = 0)
    let l := UInt32.ofNat (publicInputs.length / 32)
    guard (l = vk.numPublicInputs ∧ l.toNat ≤ vk.domainSize.toNat)
    let omega ← domainGenerator roots vk.domainSize
    let key ← decodeKey suite vk
    let x2 ← suite.fromCompressed₂ srsTauG2
    let p ← decodeProof suite proof
    let ch := challenges suite vk publicInputs p
    let zetaPowN := ch.zeta ^ vk.domainSize.toNat
    let zHZeta := zetaPowN - 1
    let nScalar : ZMod r := vk.domainSize.toNat
    let invDenomL1 ← invert (nScalar * (ch.zeta - 1))
    let l1Zeta := zHZeta * invDenomL1
    let piZeta ← publicInputEval omega ch.zeta zHZeta nScalar publicInputs l.toNat
    let r0 := constantTerm p ch piZeta l1Zeta
    let d := linearisation key p ch l1Zeta zetaPowN zHZeta
    return pairingCheck suite key x2 p ch omega d r0) false

namespace Sample

/-- The field of 17 elements has roots of unity of order 16. -/
def roots : TwoAdic 17 where
  s := 4
  rootOfUnity := Bls.Sample.element 3
  primitive :=
    have hne : ∀ l < 2 ^ 4, 0 < l → Bls.Sample.element 3 ^ l ≠ 1 := by decide +kernel
    .mk_of_lt _ (by decide) (by decide +kernel) fun l hpos hlt => hne l hlt hpos

end Sample

end QuorumProof.Zk.Plonk
