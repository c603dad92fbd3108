import Mathlib.Data.List.Infix

/-!
# Lib/Lines — records written as lines of a file

A file is read by splitting it at a separator and decoding each piece; a piece that does not decode
is skipped.  What is appended to a file that ends a line is read on its own.
-/

namespace Lines

/-- How records are written and read. -/
structure Codec (β ρ : Type*) where
  separator : β
  encode : ρ → List β
  decode : List β → Option ρ

namespace Codec

variable {β ρ : Type*}

/-- A record and the end of its line. -/
def line (c : Codec β ρ) (r : ρ) : List β := c.encode r ++ [c.separator]

/-- The last line of a file is ended. -/
def Ended (c : Codec β ρ) (file : List β) : Prop :=
  file = [] ∨ file.getLast? = some c.separator

instance [DecidableEq β] (c : Codec β ρ) (file : List β) : Decidable (c.Ended file) :=
  inferInstanceAs (Decidable (_ ∨ _))

theorem ended_line (c : Codec β ρ) (r : ρ) : c.Ended (c.line r) := by simp [Ended, line]

variable [DecidableEq β]

/-- The records of a file. -/
def read (c : Codec β ρ) (file : List β) : List ρ := (file.splitOn c.separator).filterMap c.decode

variable {c : Codec β ρ} (hnil : c.decode [] = none)

include hnil

theorem read_nil : c.read [] = [] := by
  simp [read, hnil]

theorem read_append_separator (bytes : List β) :
    c.read (bytes ++ [c.separator]) = c.read bytes := by
  rw [read, List.splitOn_append_cons_self, List.filterMap_append]
  simp [read, hnil]

/-- **What follows an ended line is read on its own.** -/
theorem read_append {file : List β} (hended : c.Ended file) (bytes : List β) :
    c.read (file ++ bytes) = c.read file ++ c.read bytes := by
  rcases hended with rfl | hlast
  · rw [read_nil hnil, List.nil_append, List.nil_append]
  · obtain ⟨before, rfl⟩ := List.getLast?_eq_some_iff.mp hlast
    rw [read_append_separator hnil, List.append_assoc, List.singleton_append, read,
      List.splitOn_append_cons_self, List.filterMap_append, read, read]

/-- **Lines are read back** if each of them is. -/
theorem read_flatMap_line {rs : List ρ} (h : ∀ r ∈ rs, c.read (c.line r) = [r]) :
    c.read (rs.flatMap c.line) = rs := by
  induction rs with
  | nil => exact read_nil hnil
  | cons r rs ih =>
    obtain ⟨hr, h⟩ := List.forall_mem_cons.mp h
    rw [List.flatMap_cons, read_append hnil (c.ended_line r), hr, ih h, List.singleton_append]

end Codec

end Lines
