import QuorumProof.Lib.Machine

/-!
# Lib/Refinement — a machine whose steps are runs of a simpler one

A concrete machine is read through a view; each of its steps is, in the view, a run of the abstract
machine.  What the abstract actions keep is then kept by every run of the concrete machine.
-/

namespace Machine

section Runs

variable {σ τ α β : Type*} {next : σ → α → σ} {act : τ → β → τ} {view : σ → τ}
  {actions : σ → α → List β}

/-- **An invariant of the abstract actions is one of the concrete machine**, along every run whose
steps are in the view admissible runs of it. -/
theorem Along.invariant_of_view {C : σ → α → Prop} {D : τ → β → Prop} {J : τ → Prop}
    (hact : ∀ t b, J t → D t b → J (act t b))
    (hview : ∀ s a, J (view s) → C s a → view (next s a) = run act (view s) (actions s a) ∧
      Along act D (view s) (actions s a))
    {s : σ} {as : List α} (h : Along next C s as) (hs : J (view s)) :
    J (view (run next s as)) := by
  refine h.invariant (I := fun s => J (view s)) (fun s a hJ hC => ?_) hs
  obtain ⟨hrun, halong⟩ := hview s a hJ hC
  rw [hrun]
  exact halong.invariant hact hJ

end Runs

end Machine
