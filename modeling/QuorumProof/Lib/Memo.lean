import QuorumProof.Lib.Guarded

/-!
# Lib/Memo — kept answers

A memo keeps answers of a computation whose inputs change under it.  It is coherent when every kept
answer is the one the computation would give now; a step that drops, leaves or refreshes each kept
answer keeps it so.
-/

namespace Memo

variable {κ ν : Type*}

/-- Every kept answer is what the computation gives. -/
def Coherent (kept answer : Store κ ν) : Prop := ∀ k v, kept k = some v → answer k = some v

theorem Coherent.empty (answer : Store κ ν) : Coherent (fun _ => none) answer :=
  fun _ _ h => absurd h (by simp)

/-- What a coherent memo has nothing to say about is all it can have kept. -/
theorem Coherent.eq_none {kept answer : Store κ ν} (h : Coherent kept answer) {k : κ}
    (hk : answer k = none) : kept k = none := by
  by_contra hne
  obtain ⟨v, hv⟩ := Option.ne_none_iff_exists'.mp hne
  simp [h k v hv] at hk

/-- **A step keeps a memo coherent** when every slot it keeps filled is either refreshed, or left as
it was while the answer stays the same. -/
theorem Coherent.step {kept answer kept' answer' : Store κ ν} (h : Coherent kept answer)
    (hstep : ∀ k v, kept' k = some v →
      answer' k = some v ∨ (kept k = some v ∧ answer' k = answer k)) : Coherent kept' answer' := by
  intro k v hv
  rcases hstep k v hv with hfresh | ⟨hold, hsame⟩
  · exact hfresh
  · rw [hsame]
    exact h k v hold

end Memo
