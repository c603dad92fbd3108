import Mathlib.Algebra.BigOperators.Fin
import Mathlib.Data.List.FinRange

/-!
# Lib/Accumulate — loops that add up

A loop that adds a term per element leaves the sum of the terms, and a loop over the positions of a
list leaves a sum over `Fin`.  A loop whose turns can give up ends when all of them end.
-/

namespace Accumulate

variable {α M : Type*} [AddCommMonoid M]

theorem foldl_add (f : α → M) (acc : M) (l : List α) :
    l.foldl (fun acc a => acc + f a) acc = acc + (l.map f).sum := by
  induction l generalizing acc with
  | nil => simp
  | cons a l ih => rw [List.foldl_cons, ih, List.map_cons, List.sum_cons, add_assoc]

theorem foldl_add_finRange {n : ℕ} (f : Fin n → M) (acc : M) :
    (List.finRange n).foldl (fun acc i => acc + f i) acc = acc + ∑ i, f i := by
  rw [foldl_add, Fin.sum_univ_def]

theorem foldl_add_range (f : ℕ → M) (n : ℕ) (acc : M) :
    (List.range n).foldl (fun acc i => acc + f i) acc = acc + ∑ i : Fin n, f i := by
  rw [← Finset.sum_range, ← List.toFinset_range, List.sum_toFinset _ List.nodup_range, foldl_add]

/-! ## Loops that can give up -/

section Option

variable {σ : Type*}

/-- A check that gives up does not pass. -/
theorem getD_false_eq_true {o : Option Bool} : o.getD false = true ↔ o = some true := by
  cases o <;> simp

theorem foldlM_eq_some {f : σ → α → Option σ} {g : σ → α → σ} {l : List α}
    (h : ∀ a ∈ l, ∀ s, f s a = some (g s a)) (s : σ) : l.foldlM f s = some (l.foldl g s) := by
  induction l generalizing s with
  | nil => rfl
  | cons a l ih =>
    rw [List.foldlM_cons, h a (by simp) s]
    exact ih (fun b hb => h b (by simp [hb])) (g s a)

theorem foldlM_eq_none {f : σ → α → Option σ} {l : List α} {a : α} (ha : a ∈ l)
    (h : ∀ s, f s a = none) (s : σ) : l.foldlM f s = none := by
  induction l generalizing s with
  | nil => exact absurd ha List.not_mem_nil
  | cons b l ih =>
    rw [List.foldlM_cons]
    rcases List.mem_cons.mp ha with rfl | ha
    · rw [h s]
      rfl
    · exact Option.bind_eq_none_iff.mpr fun s' _ => ih ha s'

end Option

end Accumulate
