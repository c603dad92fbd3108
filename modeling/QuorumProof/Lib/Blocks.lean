import Mathlib.Data.List.Basic
import Mathlib.Tactic.Ring

/-!
# Lib/Blocks — fields of equal width in a row

Encodings that put fields of one width one after the other are read back by slicing: the `i`-th
slice of the row is the `i`-th field, whatever follows.
-/

namespace Blocks

variable {α : Type*} {width : ℕ} {blocks : List (List α)}

/-- The elements from position `start` up to `stop`. -/
def slice (l : List α) (start stop : ℕ) : List α := (l.drop start).take (stop - start)

theorem length_flatten (h : ∀ b ∈ blocks, b.length = width) :
    blocks.flatten.length = blocks.length * width := by
  induction blocks with
  | nil => simp
  | cons b blocks ih =>
    rw [List.flatten_cons, List.length_append, h b (by simp), ih fun b hb => h b (by simp [hb]),
      List.length_cons]
    ring

/-- **The `i`-th slice of a row is its `i`-th field.** -/
theorem slice_flatten (h : ∀ b ∈ blocks, b.length = width) (rest : List α) {i : ℕ}
    (hi : i < blocks.length) :
    slice (blocks.flatten ++ rest) (i * width) ((i + 1) * width) = blocks[i] := by
  have hwidth : (i + 1) * width - i * width = width := by rw [Nat.succ_mul, Nat.add_sub_cancel_left]
  rw [slice, hwidth]
  induction blocks generalizing i with
  | nil => simp at hi
  | cons b blocks ih =>
    have hb : b.length = width := h b (by simp)
    cases i with
    | zero => simp [← hb]
    | succ i =>
      have hstep := ih (fun b hb => h b (by simp [hb])) (Nat.lt_of_succ_lt_succ hi)
        (by rw [Nat.succ_mul, Nat.add_sub_cancel_left])
      rw [List.getElem_cons_succ, ← hstep, List.flatten_cons, List.append_assoc,
        show (i + 1) * width = b.length + i * width by rw [hb]; ring, ← List.drop_drop,
        List.drop_left]

/-- A slice past a part of the row is a slice of the rest. -/
theorem slice_append (l rest : List α) (start stop : ℕ) :
    slice (l ++ rest) (l.length + start) (l.length + stop) = slice rest start stop := by
  rw [slice, slice, ← List.drop_drop, List.drop_left, Nat.add_sub_add_left]

end Blocks
