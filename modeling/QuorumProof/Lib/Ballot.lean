import Mathlib.Algebra.BigOperators.Group.List.Basic
import Mathlib.Algebra.BigOperators.Group.Finset.Basic
import Mathlib.Algebra.GroupWithZero.Nat

/-!
# Lib/Ballot — a box of ballots in which nobody accepts twice

A box is a list of ballots, each of some voter and accepting or not.  Counting ballots by their
voter's weight counts every voter once exactly when no voter has two ballots that count, which is
what `Once` keeps track of.
-/

namespace Ballot

variable {β ν : Type*} {voter : β → ν} {accepts : β → Bool} {box : List β}

/-- Nobody accepts twice. -/
def Once (voter : β → ν) (accepts : β → Bool) (box : List β) : Prop :=
  ((box.filter accepts).map voter).Nodup

theorem once_nil : Once voter accepts [] := List.nodup_nil

/-- **A ballot that accepts may be added for a voter who has not accepted.** -/
theorem Once.append (h : Once voter accepts box) {ballot : β}
    (hnew : accepts ballot = true → ∀ b ∈ box, accepts b = true → voter b ≠ voter ballot) :
    Once voter accepts (box ++ [ballot]) := by
  unfold Once
  rw [List.filter_append, List.map_append]
  cases hballot : accepts ballot with
  | false =>
    have hnone : [ballot].filter accepts = [] := by simp [hballot]
    rw [hnone, List.map_nil, List.append_nil]
    exact h
  | true =>
    have hone : [ballot].filter accepts = [ballot] := by simp [hballot]
    rw [hone, List.map_singleton, List.nodup_append]
    refine ⟨h, List.nodup_singleton _, ?_⟩
    intro v hv w hw
    obtain ⟨b, hb, rfl⟩ := List.mem_map.mp hv
    obtain ⟨hmem, haccepts⟩ := List.mem_filter.mp hb
    rw [List.mem_singleton.mp hw]
    exact hnew hballot b hmem haccepts

theorem Once.sublist {box' : List β} (h : Once voter accepts box) (hsub : box'.Sublist box) :
    Once voter accepts box' :=
  List.Nodup.sublist ((hsub.filter accepts).map voter) h

/-- Changing ballots without changing who cast them or how changes nothing. -/
theorem Once.map (h : Once voter accepts box) {f : β → β} (hvoter : ∀ b, voter (f b) = voter b)
    (haccepts : ∀ b, accepts (f b) = accepts b) : Once voter accepts (box.map f) := by
  unfold Once
  rw [List.filter_map, List.map_map]
  have hf : accepts ∘ f = accepts := funext haccepts
  have hv : voter ∘ f = voter := funext hvoter
  rw [hf, hv]
  exact h

/-! ## Counting -/

theorem sum_map_ite (counts : β → Bool) (weight : β → Nat) (box : List β) :
    (box.map fun b => if counts b then weight b else 0).sum =
      ((box.filter counts).map weight).sum := by
  rw [List.sum_map_ite]
  simp

/-- **Where nobody accepts twice, counting ballots is counting voters**, whichever of the accepting
ballots count. -/
theorem Once.sum_eq [DecidableEq ν] (h : Once voter accepts box) (counts : β → Bool)
    (hcounts : ∀ b, counts b = true → accepts b = true) (weight : ν → Nat) :
    (box.map fun b => if counts b then weight (voter b) else 0).sum =
      ∑ v ∈ ((box.filter counts).map voter).toFinset, weight v := by
  have hcounted : (box.filter counts).Sublist (box.filter accepts) :=
    List.monotone_filter_right box hcounts
  have hnodup : ((box.filter counts).map voter).Nodup := List.Nodup.sublist (hcounted.map voter) h
  rw [sum_map_ite, List.sum_toFinset _ hnodup, List.map_map]
  rfl

end Ballot
