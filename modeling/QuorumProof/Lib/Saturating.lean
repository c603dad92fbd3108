import Mathlib.Algebra.BigOperators.Group.List.Basic
import Mathlib.Algebra.GroupWithZero.Nat

/-!
# Lib/Saturating — sums that stop at a bound

A saturating sum is the true sum cut off at the bound, so it equals the sum as long as the sum stays
within it, and never exceeds it.
-/

/-- `a.saturating_add(b)` on integers up to `max`. -/
def saturatingAdd (max a b : Nat) : Nat := min (a + b) max

/-- Adding nothing changes nothing. -/
theorem saturatingAdd_zero {max a : Nat} (h : a ≤ max) : saturatingAdd max a 0 = a :=
  Nat.min_eq_left h

/-- **A loop whose body adds a weight, saturating, is the sum of the weights, cut off at the
bound.**  The body may use that the total has not left the bound. -/
theorem foldl_eq_min_sum {α : Type*} (max : Nat) {f : Nat → α → Nat} {w : α → Nat}
    {l : List α} (hf : ∀ total ≤ max, ∀ x ∈ l, f total x = saturatingAdd max total (w x))
    {a : Nat} (ha : a ≤ max) : l.foldl f a = min (a + (l.map w).sum) max := by
  induction l generalizing a with
  | nil => simp [ha]
  | cons x l ih =>
    have hcut : saturatingAdd max a (w x) ≤ max := Nat.min_le_right _ _
    rw [List.foldl_cons, hf a ha x (by simp),
      ih (fun total ht y hy => hf total ht y (by simp [hy])) hcut, List.map_cons,
      List.sum_cons, saturatingAdd]
    omega

theorem foldl_saturatingAdd (max : Nat) (l : List Nat) :
    l.foldl (saturatingAdd max) 0 = min l.sum max := by
  rw [foldl_eq_min_sum max (w := fun n => n) (fun _ _ _ _ => rfl) (Nat.zero_le max), List.map_id',
    Nat.zero_add]

theorem foldl_saturatingAdd_eq_sum {max : Nat} {l : List Nat} (h : l.sum ≤ max) :
    l.foldl (saturatingAdd max) 0 = l.sum := by
  rw [foldl_saturatingAdd, Nat.min_eq_left h]
