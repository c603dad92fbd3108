import Mathlib.LinearAlgebra.Lagrange
import Mathlib.Data.List.GetD

/-!
# Lib/Interpolation — coefficient lists, and the value at zero from enough points

A polynomial is handled by the list of its coefficients, constant term first.  Lists of one length
`n` are exactly the polynomials of degree below `n`, so the two facts about interpolation read off
lists: enough points determine the value at zero (`eval_zero_eq_sum`), and every choice of `n`
values at `n` points is met by exactly one list of length `n` (`existsUnique_ofCoeffs`), also when
the constant term is one of the values.
-/

namespace Interpolation

open Polynomial Finset

variable {F : Type*} [Field F]

/-! ## Coefficient lists -/

/-- The polynomial of a list of coefficients, constant term first. -/
noncomputable def ofCoeffs : List F → F[X]
  | [] => 0
  | a :: as => C a + X * ofCoeffs as

@[simp] theorem ofCoeffs_nil : ofCoeffs ([] : List F) = 0 := rfl

@[simp] theorem ofCoeffs_cons (a : F) (as : List F) : ofCoeffs (a :: as) = C a + X * ofCoeffs as :=
  rfl

theorem coeff_ofCoeffs (as : List F) (i : ℕ) : (ofCoeffs as).coeff i = as.getD i 0 := by
  induction as generalizing i with
  | nil => simp
  | cons a as ih =>
    cases i with
    | zero => simp
    | succ i => simp [ih]

theorem degree_ofCoeffs_lt (as : List F) : (ofCoeffs as).degree < as.length := by
  rw [degree_lt_iff_coeff_zero]
  intro i hi
  rw [coeff_ofCoeffs, List.getD_eq_default _ _ (by exact_mod_cast hi)]

/-- A list is pinned by its polynomial and its length. -/
theorem ofCoeffs_injective {as bs : List F} (hlen : as.length = bs.length)
    (h : ofCoeffs as = ofCoeffs bs) : as = bs := by
  refine List.ext_getElem hlen fun i ha hb => ?_
  have hi : as.getD i 0 = bs.getD i 0 := by rw [← coeff_ofCoeffs, ← coeff_ofCoeffs, h]
  rwa [List.getD_eq_getElem _ _ ha, List.getD_eq_getElem _ _ hb] at hi

/-- Every polynomial of degree below `n` has a list of length `n`. -/
theorem exists_ofCoeffs {p : F[X]} {n : ℕ} (hp : p.degree < n) :
    ∃ as : List F, as.length = n ∧ ofCoeffs as = p := by
  refine ⟨(List.range n).map p.coeff, by simp, ?_⟩
  ext i
  rw [coeff_ofCoeffs]
  by_cases hi : i < n
  · simp [hi]
  · rw [List.getD_eq_default _ _ (by simpa using hi)]
    exact ((degree_lt_iff_coeff_zero p n).mp hp i (by exact_mod_cast not_lt.mp hi)).symm

/-! ## Interpolation -/

/-- **The value at zero of a polynomial is a fixed combination of its values at enough points.** -/
theorem eval_zero_eq_sum {ι : Type*} [Fintype ι] [DecidableEq ι] {p : F[X]} {x : ι → F}
    (hx : Function.Injective x) (hp : p.degree < Fintype.card ι) :
    p.eval 0 = ∑ i, p.eval (x i) *
      ((∏ j ∈ univ.erase i, x j) * (∏ j ∈ univ.erase i, (x j - x i))⁻¹) := by
  have hp' : p = Lagrange.interpolate univ x fun i => p.eval (x i) :=
    Lagrange.eq_interpolate hx.injOn (by simpa using hp)
  conv_lhs => rw [hp', Lagrange.interpolate_apply, eval_finsetSum]
  refine sum_congr rfl fun i _ => ?_
  rw [eval_mul, eval_C, Lagrange.basis, eval_prod, ← prod_inv_distrib, ← prod_mul_distrib]
  congr 1
  refine prod_congr rfl fun j _ => ?_
  rw [Lagrange.basisDivisor, eval_mul, eval_C, eval_sub, eval_X, eval_C, zero_sub, ← neg_sub (x j),
    inv_neg, neg_mul_neg, mul_comm]

/-- **Every choice of values at `n` points is met by exactly one list of `n` coefficients.** -/
theorem existsUnique_ofCoeffs [DecidableEq F] (nodes : Finset F) (v : F → F) :
    ∃! as : List F, as.length = nodes.card ∧ ∀ x ∈ nodes, (ofCoeffs as).eval x = v x := by
  have hinj : Set.InjOn id (nodes : Set F) := Function.injective_id.injOn
  obtain ⟨as, hlen, has⟩ := exists_ofCoeffs (Lagrange.degree_interpolate_lt v hinj)
  refine ⟨as, ⟨hlen, fun x hx => ?_⟩, ?_⟩
  · rw [has]
    exact Lagrange.eval_interpolate_at_node v hinj hx
  · rintro bs ⟨hbs, hval⟩
    refine ofCoeffs_injective (hbs.trans hlen.symm) ?_
    rw [has]
    exact Lagrange.eq_interpolate_of_eval_eq v hinj (hbs ▸ degree_ofCoeffs_lt bs) hval

/-- The same with the constant term prescribed: the other coefficients are determined by as many
values away from zero. -/
theorem existsUnique_ofCoeffs_cons [DecidableEq F] {points : Finset F} (hzero : 0 ∉ points) (a : F)
    (v : F → F) : ∃! as : List F, as.length = points.card ∧
      ∀ x ∈ points, (ofCoeffs (a :: as)).eval x = v x := by
  have hcons : ∀ as : List F,
      (as.length = points.card ∧ ∀ x ∈ points, (ofCoeffs (a :: as)).eval x = v x) ↔
        (a :: as).length = (insert 0 points).card ∧
          ∀ x ∈ insert 0 points, (ofCoeffs (a :: as)).eval x = Function.update v 0 a x := by
    intro as
    have hupdate : ∀ x ∈ points, Function.update v 0 a x = v x := fun x hx =>
      Function.update_of_ne (ne_of_mem_of_not_mem hx hzero) _ _
    rw [card_insert_of_notMem hzero, List.length_cons, Nat.add_right_cancel_iff, forall_mem_insert]
    refine and_congr_right fun _ => ⟨fun h => ⟨by simp, fun x hx => ?_⟩, fun h x hx => ?_⟩
    · rw [hupdate x hx, h x hx]
    · rw [h.2 x hx, hupdate x hx]
  obtain ⟨as, ⟨hlen, hval⟩, huniq⟩ :=
    existsUnique_ofCoeffs (insert 0 points) (Function.update v 0 a)
  cases as with
  | nil => exact absurd hlen.symm (card_ne_zero_of_mem (mem_insert_self _ _))
  | cons a' as =>
    obtain rfl : a' = a := by simpa using hval 0 (mem_insert_self _ _)
    refine ⟨as, (hcons as).mpr ⟨hlen, hval⟩, fun bs hbs => ?_⟩
    exact (List.cons.inj (huniq _ ((hcons bs).mp hbs))).2

end Interpolation
