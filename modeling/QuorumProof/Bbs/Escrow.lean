import QuorumProof.Bbs.Primitives
import QuorumProof.Lib.Interpolation

/-!
# Bbs/Escrow — Shamir shares of a signing key

`contracts/bbs_plus_v1/src/escrow.rs`.  `split_secret` evaluates the polynomial with the secret as
its constant term at `1..=n`; `reconstruct_secret` interpolates it at zero.  The two loops are read
as a polynomial (`shareValue_eq_eval`) and as the Lagrange weights (`lagrangeFactors_eq`), and the
rest is interpolation: any `t` shares give the secret back, and any `t - 1` fit every secret in
exactly one way.
-/

namespace QuorumProof.Bbs

open Guarded Interpolation Polynomial

/-- `KeyShare`: an evaluation point and the value there. -/
structure KeyShare (r : ℕ) where
  index : UInt32
  value : ZMod r
  deriving DecidableEq

variable {r : ℕ}

/-- `Fr::from_u64(share.index as u64)`. -/
def KeyShare.point (share : KeyShare r) : ZMod r := (share.index.toNat : ZMod r)

/-! ## Splitting -/

/-- The inner loop of `split_secret`, carrying the accumulator and the power of `x`. -/
def shareValue (secret : ZMod r) (coefficients : List (ZMod r)) (x : ZMod r) : ZMod r :=
  (coefficients.foldl (fun (acc, xPow) coeff => (acc + coeff * xPow, xPow * x)) (secret, x)).1

/-- The share with index `i`. -/
def shareAt (secret : ZMod r) (coefficients : List (ZMod r)) (i : UInt32) : KeyShare r :=
  ⟨i, shareValue secret coefficients (i.toNat : ZMod r)⟩

def splitSecret (secret : ZMod r) (coefficients : List (ZMod r)) (totalShares : UInt32) :
    BbsResult (List (KeyShare r)) := do
  -- `coefficients.len() as u32 + 1`: the cast truncates, the addition is checked
  let count := coefficients.length % 2 ^ 32
  require (count + 1 < 2 ^ 32) (.panic "attempt to add with overflow")
  let threshold := count + 1
  require (¬ (threshold < 2 ∨ threshold > totalShares.toNat)) (.err .invalidScalar)
  return (List.range' 1 totalShares.toNat).map fun i => shareAt secret coefficients (UInt32.ofNat i)

variable {secret : ZMod r} {coefficients : List (ZMod r)} {totalShares : UInt32}
  {shares : List (KeyShare r)}

theorem splitSecret_eq_ok : splitSecret secret coefficients totalShares = .ok shares ↔
    (coefficients.length % 2 ^ 32 + 1 < 2 ^ 32 ∧ 0 < coefficients.length % 2 ^ 32 ∧
      coefficients.length % 2 ^ 32 < totalShares.toNat) ∧
    (List.range' 1 totalShares.toNat).map
      (fun i => shareAt secret coefficients (UInt32.ofNat i)) = shares := by
  simp only [splitSecret, bind_eq_ok, require_eq_ok, pure_eq_ok, exists_const]
  constructor
  · rintro ⟨hlt, hthreshold, hshares⟩
    exact ⟨by omega, hshares⟩
  · rintro ⟨⟨hlt, hpos, hle⟩, hshares⟩
    exact ⟨hlt, by omega, hshares⟩

theorem length_of_splitSecret (h : splitSecret secret coefficients totalShares = .ok shares) :
    shares.length = totalShares.toNat := by
  rw [← (splitSecret_eq_ok.mp h).2, List.length_map, List.length_range']

/-! ## Reconstruction -/

/-- The inner loop of `reconstruct_secret`: the products of the other points and of their distances
from the `i`-th. -/
def lagrangeFactors (shares : List (KeyShare r)) (i : Fin shares.length) : ZMod r × ZMod r :=
  (List.finRange shares.length).foldl (fun (numerator, denominator) j =>
    if i = j then (numerator, denominator)
    else
      let xj := shares[j].point
      (numerator * xj, denominator * (xj - shares[i].point))) (1, 1)

def reconstructSecret [Fact r.Prime] (shares : List (KeyShare r)) : BbsResult (ZMod r) := do
  require (2 ≤ shares.length) (.err .invalidScalar)
  -- the two nested loops compare every pair of positions once
  require (shares.Pairwise (·.index ≠ ·.index)) (.err .invalidScalar)
  (List.finRange shares.length).foldlM (fun secret i => do
    let (numerator, denominator) := lagrangeFactors shares i
    let inverse ← invert denominator
    let lagrangeCoefficient := numerator * inverse
    return secret + shares[i].value * lagrangeCoefficient) 0

/-! ## The loops as polynomials -/

theorem foldl_powers (coefficients : List (ZMod r)) [Fact r.Prime] (acc xPow x : ZMod r) :
    (coefficients.foldl (fun (acc, xPow) coeff => (acc + coeff * xPow, xPow * x)) (acc, xPow)).1
      = acc + xPow * (ofCoeffs coefficients).eval x := by
  induction coefficients generalizing acc xPow with
  | nil => simp
  | cons coeff coefficients ih =>
    rw [List.foldl_cons, ih, ofCoeffs_cons, eval_add, eval_C, eval_mul, eval_X]
    ring

variable [Fact r.Prime]

/-- **A share is a point of the polynomial whose constant term is the secret.** -/
theorem shareValue_eq_eval (secret : ZMod r) (coefficients : List (ZMod r)) (x : ZMod r) :
    shareValue secret coefficients x = (ofCoeffs (secret :: coefficients)).eval x := by
  rw [shareValue, foldl_powers, ofCoeffs_cons, eval_add, eval_C, eval_mul, eval_X]

/-- The inner loop skips position `i` and multiplies the rest up. -/
theorem foldl_skip {n : ℕ} (i : Fin n) (f g : Fin n → ZMod r) (l : List (Fin n)) (a b : ZMod r) :
    l.foldl (fun (a, b) j => if i = j then (a, b) else (a * f j, b * g j)) (a, b)
      = (a * (l.map fun j => if i = j then 1 else f j).prod,
          b * (l.map fun j => if i = j then 1 else g j).prod) := by
  induction l generalizing a b with
  | nil => simp
  | cons j l ih =>
    by_cases hij : i = j
    · subst hij
      simp [ih]
    · simp [hij, ih, mul_assoc]

theorem prod_skip {n : ℕ} (i : Fin n) (f : Fin n → ZMod r) :
    ((List.finRange n).map fun j => if i = j then 1 else f j).prod
      = ∏ j ∈ Finset.univ.erase i, f j := by
  rw [← Fin.prod_univ_def, ← Finset.prod_erase (a := i) Finset.univ (by simp)]
  exact Finset.prod_congr rfl fun j hj => if_neg (Finset.ne_of_mem_erase hj).symm

theorem lagrangeFactors_eq (shares : List (KeyShare r)) (i : Fin shares.length) :
    lagrangeFactors shares i = (∏ j ∈ Finset.univ.erase i, shares[j].point,
      ∏ j ∈ Finset.univ.erase i, (shares[j].point - shares[i].point)) := by
  rw [lagrangeFactors, foldl_skip, prod_skip, prod_skip, one_mul, one_mul]

/-! ## Shares of a split -/

/-- **The shares of a split are the points of its polynomial at `1..=n`.** -/
theorem mem_of_splitSecret (h : splitSecret secret coefficients totalShares = .ok shares)
    {share : KeyShare r} : share ∈ shares ↔
      (1 ≤ share.index.toNat ∧ share.index.toNat ≤ totalShares.toNat) ∧
        share.value = (ofCoeffs (secret :: coefficients)).eval share.point := by
  rw [← (splitSecret_eq_ok.mp h).2, List.mem_map]
  constructor
  · rintro ⟨i, hi, rfl⟩
    have hi' : 1 ≤ i ∧ i < 1 + totalShares.toNat := List.mem_range'_1.mp hi
    have hlt : i < 2 ^ 32 := by have := totalShares.toNat_lt; omega
    have hindex : (UInt32.ofNat i).toNat = i := UInt32.toNat_ofNat_of_lt' hlt
    refine ⟨?_, shareValue_eq_eval _ _ _⟩
    simp only [shareAt, hindex]
    omega
  · rintro ⟨hindex, hvalue⟩
    refine ⟨share.index.toNat, List.mem_range'_1.mpr (by omega), ?_⟩
    rw [shareAt, UInt32.ofNat_toNat, shareValue_eq_eval]
    exact congrArg (KeyShare.mk share.index) hvalue.symm

/-- Distinct shares of a split sit at distinct points, none of them zero, once the field has more
elements than there are shares. -/
theorem point_injOn (hr : totalShares.toNat < r)
    (h : splitSecret secret coefficients totalShares = .ok shares) {a b : KeyShare r}
    (ha : a ∈ shares) (hb : b ∈ shares) (hab : a.point = b.point) : a.index = b.index := by
  obtain ⟨⟨-, ha'⟩, -⟩ := (mem_of_splitSecret h).mp ha
  obtain ⟨⟨-, hb'⟩, -⟩ := (mem_of_splitSecret h).mp hb
  have hval := congrArg ZMod.val hab
  rw [KeyShare.point, KeyShare.point, ZMod.val_natCast_of_lt (by omega),
    ZMod.val_natCast_of_lt (by omega)] at hval
  exact UInt32.toNat_inj.mp hval

theorem point_ne_zero (hr : totalShares.toNat < r)
    (h : splitSecret secret coefficients totalShares = .ok shares) {a : KeyShare r}
    (ha : a ∈ shares) : a.point ≠ 0 := by
  obtain ⟨⟨hpos, hle⟩, -⟩ := (mem_of_splitSecret h).mp ha
  rw [KeyShare.point, Ne, ZMod.natCast_eq_zero_iff]
  exact fun hdvd => absurd (Nat.le_of_dvd hpos hdvd) (by omega)

/-! ## Any `t` shares give the secret back -/

/-- **`reconstruct_secret` interpolates at zero**: on shares at distinct points of a polynomial of
degree below their number, it returns the polynomial's constant term. -/
theorem reconstructSecret_eq_eval {p : (ZMod r)[X]} {shares : List (KeyShare r)}
    (hlen : 2 ≤ shares.length) (hindex : shares.Pairwise (·.index ≠ ·.index))
    (hpoint : shares.Pairwise (·.point ≠ ·.point)) (hdeg : p.degree < shares.length)
    (hvalue : ∀ share ∈ shares, share.value = p.eval share.point) :
    reconstructSecret shares = .ok (p.eval 0) := by
  have hinj : Function.Injective fun i : Fin shares.length => shares[i].point :=
    fun i j hij => by
      rcases lt_trichotomy i j with hlt | heq | hgt
      · exact absurd hij (List.pairwise_iff_get.mp hpoint i j hlt)
      · exact heq
      · exact absurd hij.symm (List.pairwise_iff_get.mp hpoint j i hgt)
  have hstep : ∀ i ∈ List.finRange shares.length, ∀ secret : ZMod r,
      (do
        let (numerator, denominator) := lagrangeFactors shares i
        let inverse ← invert denominator
        let lagrangeCoefficient := numerator * inverse
        return secret + shares[i].value * lagrangeCoefficient : BbsResult (ZMod r))
      = .ok (secret + p.eval shares[i].point * ((∏ j ∈ Finset.univ.erase i, shares[j].point) *
          (∏ j ∈ Finset.univ.erase i, (shares[j].point - shares[i].point))⁻¹)) := by
    intro i _ secret
    have hne : ∏ j ∈ Finset.univ.erase i, (shares[j].point - shares[i].point) ≠ 0 :=
      Finset.prod_ne_zero_iff.mpr fun j hj =>
        sub_ne_zero.mpr fun h => Finset.ne_of_mem_erase hj (hinj h)
    have hi : shares[i].value = p.eval shares[i].point := hvalue _ (List.getElem_mem _)
    rw [lagrangeFactors_eq, bind_eq_ok]
    exact ⟨_, invert_eq_ok.mpr ⟨hne, rfl⟩, by rw [hi]; rfl⟩
  rw [reconstructSecret, bind_eq_ok]
  refine ⟨(), require_eq_ok.mpr hlen, bind_eq_ok.mpr ⟨(), require_eq_ok.mpr hindex, ?_⟩⟩
  rw [foldlM_eq_ok hstep, Accumulate.foldl_add_finRange, zero_add, eval_zero_eq_sum hinj]
  simpa using hdeg

/-- Distinct shares of a split give the secret back, once there are more than coefficients. -/
theorem reconstructSecret_of_subset (hr : totalShares.toNat < r)
    (hsplit : splitSecret secret coefficients totalShares = .ok shares)
    {subset : List (KeyShare r)} (hsub : subset ⊆ shares)
    (hindex : subset.Pairwise (·.index ≠ ·.index)) (hcount : coefficients.length < subset.length) :
    reconstructSecret subset = .ok secret := by
  have hpoint : subset.Pairwise (·.point ≠ ·.point) :=
    hindex.imp_of_mem fun ha hb hne h => hne (point_injOn hr hsplit (hsub ha) (hsub hb) h)
  have hdeg : (ofCoeffs (secret :: coefficients)).degree < subset.length :=
    (degree_ofCoeffs_lt _).trans_le (by exact_mod_cast hcount)
  have hlen : 2 ≤ subset.length := by
    have hpos := (splitSecret_eq_ok.mp hsplit).1.2.1
    omega
  rw [reconstructSecret_eq_eval hlen hindex hpoint hdeg fun share hshare =>
    ((mem_of_splitSecret hsplit).mp (hsub hshare)).2]
  simp

/-- **Any `t` or more distinct shares of a `t`-of-`n` split, in any order, give the secret
back.** -/
theorem reconstructSecret_splitSecret (secret : ZMod r) (coefficients : List (ZMod r))
    (t : ℕ) (totalShares : UInt32) (ht : 1 < t) (htn : t ≤ totalShares.toNat)
    (hr : totalShares.toNat < r) (hcoeff : coefficients.length + 1 = t) :
    ∃ shares, splitSecret secret coefficients totalShares = .ok shares ∧
      shares.length = totalShares.toNat ∧
      ∀ subset : List (KeyShare r), subset ⊆ shares → (subset.map KeyShare.index).Nodup →
        t ≤ subset.length → reconstructSecret subset = .ok secret := by
  have hlt := totalShares.toNat_lt
  have hsplit : splitSecret secret coefficients totalShares = .ok _ :=
    splitSecret_eq_ok.mpr ⟨by omega, rfl⟩
  exact ⟨_, hsplit, length_of_splitSecret hsplit, fun subset hsub hnodup hcount =>
    reconstructSecret_of_subset hr hsplit hsub (List.pairwise_map.mp hnodup) (by omega)⟩

/-- Three of the five shares of 5, out of order. -/
theorem reconstructSecret_three_of_five :
    ∃ shares, splitSecret (5 : ZMod 17) [3, 7] 5 = .ok shares ∧ shares.length = 5 ∧
      [4, 1, 5].map (shareAt 5 [3, 7]) ⊆ shares ∧
      reconstructSecret ([4, 1, 5].map (shareAt (5 : ZMod 17) [3, 7])) = .ok 5 := by
  obtain ⟨shares, hsplit, hlength, hsubsets⟩ :=
    reconstructSecret_splitSecret (5 : ZMod 17) [3, 7] 3 5 (by decide) (by decide) (by decide) rfl
  have hshares : splitSecret (5 : ZMod 17) [3, 7] 5
      = .ok ([1, 2, 3, 4, 5].map (shareAt 5 [3, 7])) := by decide +kernel
  obtain rfl := Except.ok.inj (hshares.symm.trans hsplit)
  have hsub := List.map_subset (shareAt (5 : ZMod 17) [3, 7])
    (show [4, 1, 5] ⊆ [1, 2, 3, 4, 5] by decide)
  exact ⟨_, hsplit, hlength, hsub, hsubsets _ hsub (by decide) (by decide)⟩

/-! ## Any `t - 1` shares fit every secret -/

/-- The polynomials of two splits agree at the known shares exactly when the second split produces
those shares too. -/
theorem known_subset_iff {known : List (KeyShare r)} (hknown : known ⊆ shares)
    (hsplit : splitSecret secret coefficients totalShares = .ok shares) {secret' : ZMod r}
    {coefficients' : List (ZMod r)} (hlen : coefficients'.length = coefficients.length) :
    (∃ shares', splitSecret secret' coefficients' totalShares = .ok shares' ∧ known ⊆ shares') ↔
      ∀ share ∈ known, (ofCoeffs (secret' :: coefficients')).eval share.point
        = (ofCoeffs (secret :: coefficients)).eval share.point := by
  constructor
  · rintro ⟨shares', hsplit', hknown'⟩ share hshare
    rw [← ((mem_of_splitSecret hsplit).mp (hknown hshare)).2,
      ((mem_of_splitSecret hsplit').mp (hknown' hshare)).2]
  · intro hagree
    have hsplit' : splitSecret secret' coefficients' totalShares = .ok _ :=
      splitSecret_eq_ok.mpr ⟨hlen ▸ (splitSecret_eq_ok.mp hsplit).1, rfl⟩
    refine ⟨_, hsplit', fun share hshare => (mem_of_splitSecret hsplit').mpr ?_⟩
    obtain ⟨hindex, hvalue⟩ := (mem_of_splitSecret hsplit).mp (hknown hshare)
    exact ⟨hindex, hvalue.trans (hagree share hshare).symm⟩

/-- **`t - 1` shares of a `t`-of-`n` split are shares of every secret, each by exactly one choice of
coefficients.** -/
theorem existsUnique_coefficients {t : ℕ} (hr : totalShares.toNat < r)
    (hcoeff : coefficients.length + 1 = t)
    (hsplit : splitSecret secret coefficients totalShares = .ok shares)
    {known : List (KeyShare r)} (hknown : known ⊆ shares)
    (hnodup : (known.map KeyShare.index).Nodup) (hcount : known.length + 1 = t)
    (secret' : ZMod r) :
    ∃! coefficients' : List (ZMod r), coefficients'.length + 1 = t ∧
      ∃ shares', splitSecret secret' coefficients' totalShares = .ok shares' ∧ known ⊆ shares' := by
  have hpoints : (known.map KeyShare.point).Nodup :=
    List.pairwise_map.mpr ((List.pairwise_map.mp hnodup).imp_of_mem fun ha hb hne h =>
      hne (point_injOn hr hsplit (hknown ha) (hknown hb) h))
  have hzero : (0 : ZMod r) ∉ (known.map KeyShare.point).toFinset := by
    rw [List.mem_toFinset, List.mem_map]
    rintro ⟨share, hshare, hpoint⟩
    exact point_ne_zero hr hsplit (hknown hshare) hpoint
  have hcard : (known.map KeyShare.point).toFinset.card + 1 = t := by
    rw [List.toFinset_card_of_nodup hpoints, List.length_map, hcount]
  -- the new secret at zero and the known values at their points
  have hunique := existsUnique_ofCoeffs_cons hzero secret' fun x =>
    (ofCoeffs (secret :: coefficients)).eval x
  refine (existsUnique_congr fun coefficients' => ?_).mp hunique
  rw [← hcard, Nat.add_right_cancel_iff]
  refine and_congr_right fun hlen => ?_
  rw [known_subset_iff hknown hsplit (by omega)]
  simp only [List.mem_toFinset, List.forall_mem_map]

/-- Two shares of a 3-of-5 split of 5 are shares of 9. -/
theorem existsUnique_coefficients_nine :
    ∃! coefficients' : List (ZMod 17), coefficients'.length + 1 = 3 ∧
      ∃ shares', splitSecret 9 coefficients' 5 = .ok shares' ∧
        [shareAt (5 : ZMod 17) [3, 7] 4, shareAt 5 [3, 7] 1] ⊆ shares' := by
  have hsplit : splitSecret (5 : ZMod 17) [3, 7] 5
      = .ok ([1, 2, 3, 4, 5].map (shareAt 5 [3, 7])) := by decide +kernel
  exact existsUnique_coefficients (by decide) rfl hsplit (by decide +kernel) (by decide) rfl 9

end QuorumProof.Bbs
