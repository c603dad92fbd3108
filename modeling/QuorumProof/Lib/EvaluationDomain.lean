import Mathlib.LinearAlgebra.Lagrange
import Mathlib.RingTheory.RootsOfUnity.PrimitiveRoots
import Mathlib.RingTheory.Polynomial.Cyclotomic.Basic

/-!
# Lib/EvaluationDomain — Lagrange bases on roots of unity, and opening quotients

On the powers of a primitive `n`-th root of unity the vanishing polynomial is `X ^ n - 1`, and the
`i`-th Lagrange basis polynomial has the closed form `ω ^ i (x ^ n - 1) / (n (x - ω ^ i))` off the
domain.  The quotient of a polynomial by `X - x`, its value at `x` taken off first, is exact.
-/

namespace EvaluationDomain

open Polynomial Finset

variable {F : Type*} [Field F] {ω : F} {n : ℕ}

/-- The vanishing polynomial of the domain. -/
theorem nodal_eq (hω : IsPrimitiveRoot ω n) (hn : 0 < n) :
    Lagrange.nodal (range n) (fun i => ω ^ i) = X ^ n - 1 := by
  classical
  have hinj : Set.InjOn (fun i => ω ^ i) (range n : Set ℕ) := fun i hi j hj h =>
    hω.pow_inj (mem_range.mp hi) (mem_range.mp hj) h
  have himage : (range n).image (fun i => ω ^ i) = nthRootsFinset n (1 : F) := by
    refine eq_of_subset_of_card_le (fun x hx => ?_) ?_
    · obtain ⟨i, -, rfl⟩ := mem_image.mp hx
      rw [mem_nthRootsFinset hn, ← pow_mul, mul_comm, pow_mul, hω.pow_eq_one, one_pow]
    · rw [card_image_of_injOn hinj, card_range, hω.card_nthRootsFinset]
  rw [X_pow_sub_one_eq_prod hn hω, ← himage, prod_image hinj, Lagrange.nodal]

/-- **The closed form of a Lagrange basis polynomial off the domain.** -/
theorem eval_basis (hω : IsPrimitiveRoot ω n) {i : ℕ} (hi : i < n) {x : F} (hx : x ^ n ≠ 1) :
    (Lagrange.basis (range n) (fun i => ω ^ i) i).eval x
      = ω ^ i * (x ^ n - 1) * (n * (x - ω ^ i))⁻¹ := by
  have hn : 0 < n := by omega
  have hunit : ω ^ i * (ω ^ i) ^ (n - 1) = 1 := by
    rw [← pow_succ', Nat.sub_add_cancel hn, ← pow_mul, mul_comm, pow_mul, hω.pow_eq_one, one_pow]
  have hne : x ≠ ω ^ i := by
    rintro rfl
    exact hx (by rw [← pow_mul, mul_comm, pow_mul, hω.pow_eq_one, one_pow])
  rw [Lagrange.eval_basis_not_at_node (mem_range.mpr hi) hne,
    Lagrange.nodalWeight_eq_eval_derivative_nodal (mem_range.mpr hi), nodal_eq hω hn]
  simp only [derivative_sub, derivative_X_pow, derivative_one, sub_zero, eval_sub, eval_mul,
    eval_pow, eval_X, eval_one, map_natCast, eval_natCast]
  rw [mul_inv, mul_inv, ← eq_inv_of_mul_eq_one_left hunit]
  ring

/-! ## Opening quotients -/

/-- The quotient that opens `p` at `x`. -/
noncomputable def openingQuotient (p : F[X]) (x : F) : F[X] := (p - C (p.eval x)) /ₘ (X - C x)

theorem sub_mul_eval_openingQuotient (p : F[X]) (x τ : F) :
    (τ - x) * (openingQuotient p x).eval τ = p.eval τ - p.eval x := by
  have hroot : (p - C (p.eval x)).IsRoot x := by simp
  have hmul : (X - C x) * openingQuotient p x = p - C (p.eval x) :=
    mul_divByMonic_eq_iff_isRoot.mpr hroot
  simpa using congrArg (eval τ) hmul

end EvaluationDomain
