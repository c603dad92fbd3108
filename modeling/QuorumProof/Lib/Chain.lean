import Mathlib.Logic.Relation

/-!
# Lib/Chain — chains that end where they should

`Reaches R P a`: a chain of `R`-steps leads from `a` to something with `P`.  A change of the
relation that spares every chain's inner nodes spares the chains.
-/

namespace Chain

variable {α : Type*} {R R' : α → α → Prop} {P P' : α → Prop} {a b : α}

/-- A chain of `R`-steps leads from `a` to something with `P`. -/
def Reaches (R : α → α → Prop) (P : α → Prop) (a : α) : Prop :=
  ∃ b, Relation.ReflTransGen R a b ∧ P b

theorem Reaches.here (h : P a) : Reaches R P a := ⟨a, .refl, h⟩

theorem Reaches.step (h : R a b) (hb : Reaches R P b) : Reaches R P a := by
  obtain ⟨c, hchain, hc⟩ := hb
  exact ⟨c, .head h hchain, hc⟩

theorem reaches_iff : Reaches R P a ↔ P a ∨ ∃ b, R a b ∧ Reaches R P b := by
  constructor
  · rintro ⟨c, hchain, hc⟩
    rcases hchain.cases_head with rfl | ⟨b, hstep, hrest⟩
    · exact .inl hc
    · exact .inr ⟨b, hstep, c, hrest, hc⟩
  · rintro (h | ⟨b, hstep, hb⟩)
    · exact .here h
    · exact hb.step hstep

/-- **Chains survive a change that spares everything they lead through**: what is changed, `U`, is
led to by no step. -/
theorem Reaches.transport {U : α → Prop} (h : Reaches R P a) (ha : ¬ U a)
    (hU : ∀ a b, R a b → ¬ U b) (hR : ∀ a b, ¬ U a → R a b → R' a b)
    (hP : ∀ a, ¬ U a → P a → P' a) : Reaches R' P' a := by
  obtain ⟨c, hchain, hc⟩ := h
  induction hchain using Relation.ReflTransGen.head_induction_on with
  | refl => exact .here (hP c ha hc)
  | @head a b hstep _ ih => exact (ih (hU a b hstep)).step (hR a b ha hstep)

/-- Chains survive what only adds to the relation and to the ends. -/
theorem Reaches.mono (h : Reaches R P a) (hR : ∀ a b, R a b → R' a b) (hP : ∀ a, P a → P' a) :
    Reaches R' P' a :=
  h.transport (U := fun _ => False) not_false (fun _ _ _ => not_false) (fun a b _ => hR a b)
    fun a _ => hP a

end Chain
