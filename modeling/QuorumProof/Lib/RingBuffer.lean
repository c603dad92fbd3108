import Mathlib.Data.List.Basic

/-!
# Lib/RingBuffer — what a ring of slots holds

A ring buffer is a list of slots with a head and a count.  `contents` reads it from the head on,
around the end of the list: dropping from the front moves the head, and writing the slot after the
last appends.  While a buffer still grows, appending a slot does the same, as long as the contents
reach up to the end of the list.
-/

namespace RingBuffer

variable {α : Type*} (d : α) (slots : List α) (head count : Nat)

/-- The values of `count` slots from `head` on, around the end. -/
def contents : List α :=
  (List.range count).map fun i => slots.getD ((head + i) % slots.length) d

@[simp] theorem length_contents : (contents d slots head count).length = count := by
  simp [contents]

/-- Only the head's place in the ring matters. -/
@[simp] theorem contents_mod :
    contents d slots (head % slots.length) count = contents d slots head count := by
  simp only [contents, Nat.mod_add_mod]

theorem contents_cons : contents d slots head (count + 1) =
    slots.getD (head % slots.length) d :: contents d slots (head + 1) count := by
  simp only [contents, List.range_succ_eq_map, List.map_cons, List.map_map, Nat.add_zero]
  congr 1
  refine List.map_congr_left fun i _ => ?_
  simp only [Function.comp_apply, Nat.succ_eq_add_one]
  rw [show head + (i + 1) = head + 1 + i by omega]

theorem contents_snoc : contents d slots head (count + 1) =
    contents d slots head count ++ [slots.getD ((head + count) % slots.length) d] := by
  simp [contents, List.range_succ]

/-- Moving the head on drops from the front. -/
theorem contents_drop (n : Nat) :
    contents d slots (head + n) (count - n) = (contents d slots head count).drop n := by
  induction n generalizing head count with
  | zero => rfl
  | succ n ih =>
    cases count with
    | zero => simp [contents]
    | succ count =>
      rw [contents_cons, List.drop_succ_cons, ← ih]
      congr 1 <;> omega

variable {slots head count}

/-- Writing the slot after the last appends, unless the ring is full. -/
theorem contents_set (a : α) (h : count < slots.length) :
    contents d (slots.set ((head + count) % slots.length) a) head (count + 1) =
      contents d slots head count ++ [a] := by
  have hslot : (head + count) % slots.length < slots.length := Nat.mod_lt _ (by omega)
  rw [contents_snoc, List.length_set]
  congr 1
  · simp only [contents, List.length_set]
    refine List.map_congr_left fun i hi => ?_
    have hi' : i < count := List.mem_range.mp hi
    have hne : (head + count) % slots.length ≠ (head + i) % slots.length := by
      intro heq
      have hmod : (count - i) % slots.length = 0 := by
        have hsub := Nat.sub_mod_eq_zero_of_mod_eq heq
        rwa [Nat.add_sub_add_left] at hsub
      rw [Nat.mod_eq_of_lt (by omega)] at hmod
      omega
    simp [List.getD_eq_getElem?_getD, List.getElem?_set_ne hne]
  · simp [List.getD_eq_getElem?_getD, List.getElem?_set_self hslot]

/-- Appending a slot appends, if the contents reach the end of the list. -/
theorem contents_append (a : α) (h : head + count = slots.length) :
    contents d (slots ++ [a]) head (count + 1) = contents d slots head count ++ [a] := by
  rw [contents_snoc, List.length_append, List.length_singleton, h]
  congr 1
  · simp only [contents, List.length_append, List.length_singleton]
    refine List.map_congr_left fun i hi => ?_
    have hi' : head + i < slots.length := by
      have := List.mem_range.mp hi
      omega
    rw [Nat.mod_eq_of_lt hi', Nat.mod_eq_of_lt (by omega)]
    simp [List.getD_eq_getElem?_getD, List.getElem?_append_left hi']
  · rw [Nat.mod_eq_of_lt (by omega)]
    simp [List.getD_eq_getElem?_getD]

end RingBuffer
