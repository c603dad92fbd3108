import Mathlib.LinearAlgebra.Span.Basic
import Mathlib.Algebra.Field.Basic
import Mathlib.Algebra.Module.Equiv.Basic

/-!
# Lib/Bilinear — groups of one prime order with a pairing

Three groups, written additively, each generated by one element over the same field of exponents,
and a bilinear map that does not vanish on the generators.  Everything a pairing equation says is
then said in the field: pairing against a generator loses nothing (`pair_g₂_inj`), and the target
group has exponents of its own (`log`).
-/

namespace Bilinear

/-- Groups `G₁`, `G₂` and `Gt` with generators and a non-degenerate pairing, over the field `F` of
exponents. -/
structure Pairing (F G₁ G₂ Gt : Type*) [Field F] [AddCommGroup G₁] [Module F G₁]
    [AddCommGroup G₂] [Module F G₂] [AddCommGroup Gt] [Module F Gt] where
  g₁ : G₁
  g₂ : G₂
  pair : G₁ → G₂ → Gt
  pair_add_left : ∀ P P' Q, pair (P + P') Q = pair P Q + pair P' Q
  pair_add_right : ∀ P Q Q', pair P (Q + Q') = pair P Q + pair P Q'
  pair_smul_left : ∀ (a : F) P Q, pair (a • P) Q = a • pair P Q
  pair_smul_right : ∀ (a : F) P Q, pair P (a • Q) = a • pair P Q
  generates₁ : ∀ P, ∃ a : F, a • g₁ = P
  generates₂ : ∀ Q, ∃ a : F, a • g₂ = Q
  generatesT : ∀ T, ∃ a : F, a • pair g₁ g₂ = T
  nondegenerate : pair g₁ g₂ ≠ 0

namespace Pairing

variable {F G₁ G₂ Gt : Type*} [Field F] [AddCommGroup G₁] [Module F G₁] [AddCommGroup G₂]
  [Module F G₂] [AddCommGroup Gt] [Module F Gt] (e : Pairing F G₁ G₂ Gt)

attribute [simp] pair_add_left pair_add_right pair_smul_left pair_smul_right

@[simp] theorem pair_zero_left (Q : G₂) : e.pair 0 Q = 0 := by
  simpa using e.pair_smul_left 0 0 Q

theorem pair_neg_left (P : G₁) (Q : G₂) : e.pair (-P) Q = -e.pair P Q := by
  simpa using e.pair_smul_left (-1) P Q

theorem pair_sub_left (P P' : G₁) (Q : G₂) : e.pair (P - P') Q = e.pair P Q - e.pair P' Q := by
  rw [sub_eq_add_neg, pair_add_left, pair_neg_left, sub_eq_add_neg]

theorem pair_sum_left {ι : Type*} (s : Finset ι) (P : ι → G₁) (Q : G₂) :
    e.pair (∑ i ∈ s, P i) Q = ∑ i ∈ s, e.pair (P i) Q :=
  map_sum (AddMonoidHom.mk' (fun P => e.pair P Q) fun P P' => e.pair_add_left P P' Q) P s

theorem pair_g₂_eq_zero {P : G₁} : e.pair P e.g₂ = 0 ↔ P = 0 := by
  constructor
  · intro h
    obtain ⟨a, rfl⟩ := e.generates₁ P
    rw [pair_smul_left, smul_eq_zero_iff_left e.nondegenerate] at h
    rw [h, zero_smul]
  · rintro rfl
    exact e.pair_zero_left _

/-- **Pairing against the second generator loses nothing.** -/
theorem pair_g₂_inj {P P' : G₁} : e.pair P e.g₂ = e.pair P' e.g₂ ↔ P = P' := by
  rw [← sub_eq_zero, ← pair_sub_left, pair_g₂_eq_zero, sub_eq_zero]

/-- A multiple of the second generator moves to the other side of the pairing. -/
theorem pair_smul_g₂ (a : F) (P : G₁) : e.pair P (a • e.g₂) = e.pair (a • P) e.g₂ := by
  rw [pair_smul_right, pair_smul_left]

/-! ## Exponents of the target group -/

theorem smul_pair_bijective :
    Function.Bijective (LinearMap.toSpanSingleton F Gt (e.pair e.g₁ e.g₂)) := by
  refine ⟨fun a b h => ?_, fun T => e.generatesT T⟩
  exact smul_left_injective F e.nondegenerate h

/-- The exponent of a target group element over `e(g₁, g₂)`. -/
noncomputable def log : Gt ≃ₗ[F] F := (LinearEquiv.ofBijective _ e.smul_pair_bijective).symm

end Pairing

end Bilinear
