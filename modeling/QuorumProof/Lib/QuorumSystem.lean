import Mathlib.Data.List.Sublists

/-!
# Lib/QuorumSystem — quorums over a finite membership

A quorum predicate is *supported* on a list of members when it is monotone and looks at nobody else.
Whether the quorums of two such predicates always meet is a question about all pairs of candidate
sets; it is decided by the splits of the members into two sides.
-/

namespace QuorumSystem

variable {α : Type*}

/-- What is a quorum stays one when more of the members join, whoever else comes or goes. -/
def Supported (members : List α) (quorum : List α → Prop) : Prop :=
  ∀ Q Q' : List α, (∀ a ∈ members, a ∈ Q → a ∈ Q') → quorum Q → quorum Q'

theorem Supported.mono {members members' : List α} {quorum : List α → Prop}
    (h : Supported members quorum) (hsubset : ∀ a ∈ members, a ∈ members') :
    Supported members' quorum :=
  fun Q Q' hQ => h Q Q' fun a ha => hQ a (hsubset a ha)

/-- Every quorum of the one meets every quorum of the other. -/
def Intersects (P P' : List α → Prop) : Prop :=
  ∀ Q Q' : List α, P Q → P' Q' → ∃ a ∈ Q, a ∈ Q'

variable [DecidableEq α]

/-- The members not on a side. -/
def otherSide (members side : List α) : List α := members.filter (· ∉ side)

/-- **Quorums always meet exactly when no split of the members has one on each side.** -/
theorem intersects_iff_forall_split {members : List α} {P P' : List α → Prop}
    (hP : Supported members P) (hP' : Supported members P') :
    Intersects P P' ↔
      ∀ side ∈ members.sublists, P side → ¬ P' (otherSide members side) := by
  constructor
  · intro h side _ hside hother
    obtain ⟨a, ha, ha'⟩ := h _ _ hside hother
    exact absurd ha (by simpa using (List.mem_filter.mp ha').2)
  · intro h Q Q' hQ hQ'
    by_contra hdisjoint
    push Not at hdisjoint
    -- the split along `Q`: the members in it on one side, `Q'` among those on the other
    refine h (members.filter (· ∈ Q)) (List.mem_sublists.mpr List.filter_sublist)
      (hP Q _ (fun a ha haQ => List.mem_filter.mpr ⟨ha, by simpa using haQ⟩) hQ)
      (hP' Q' _ (fun a ha haQ' => List.mem_filter.mpr ⟨ha, ?_⟩) hQ')
    simp only [List.mem_filter, decide_eq_true_eq, not_and]
    exact fun _ haQ => hdisjoint a haQ haQ'

end QuorumSystem
