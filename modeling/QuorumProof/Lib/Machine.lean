import Mathlib.Data.List.Basic
import Mathlib.Data.List.Induction

/-!
# Lib/Machine — runs of a deterministic machine, and what holds along them

A machine is a total transition function `next : σ → α → σ`; a run folds a list of actions.
`Along next C s as` says that every action of the run meets `C` in the state it is taken in, so a
property that `C`-steps keep holds at the end of every such run.
-/

namespace Machine

variable {σ α : Type*} (next : σ → α → σ)

/-- The state a list of actions leads to. -/
def run (s : σ) (as : List α) : σ := as.foldl next s

@[simp] theorem run_nil (s : σ) : run next s [] = s := rfl

@[simp] theorem run_cons (s : σ) (a : α) (as : List α) :
    run next s (a :: as) = run next (next s a) as := rfl

theorem run_append (s : σ) (as bs : List α) :
    run next s (as ++ bs) = run next (run next s as) bs := List.foldl_append

/-- Every action meets `C` in the state it is taken in. -/
def Along (C : σ → α → Prop) : σ → List α → Prop
  | _, [] => True
  | s, a :: as => C s a ∧ Along C (next s a) as

variable {C E : σ → α → Prop} {s : σ} {as : List α} {I P : σ → Prop}

@[simp] theorem along_nil : Along next C s [] := trivial

@[simp] theorem along_cons {a : α} :
    Along next C s (a :: as) ↔ C s a ∧ Along next C (next s a) as := Iff.rfl

instance Along.decidable (C : σ → α → Prop) [∀ s a, Decidable (C s a)] :
    ∀ (s : σ) (as : List α), Decidable (Along next C s as)
  | _, [] => .isTrue trivial
  | s, a :: as => @instDecidableAnd _ _ _ (Along.decidable C (next s a) as)

theorem along_append {bs : List α} :
    Along next C s (as ++ bs) ↔ Along next C s as ∧ Along next C (run next s as) bs := by
  induction as generalizing s with
  | nil => simp
  | cons a as ih => simp [ih, and_assoc]

theorem along_true (s : σ) (as : List α) : Along next (fun _ _ => True) s as := by
  induction as generalizing s with
  | nil => trivial
  | cons a as ih => exact ⟨trivial, ih (next s a)⟩

theorem along_of_mem {C : α → Prop} (h : ∀ a ∈ as, C a) : Along next (fun _ => C) s as := by
  induction as generalizing s with
  | nil => trivial
  | cons a as ih => exact ⟨h a (by simp), ih fun b hb => h b (by simp [hb])⟩

/-- Some action meets `E` in the state it is taken in. -/
def Occurs (E : σ → α → Prop) : σ → List α → Prop
  | _, [] => False
  | s, a :: as => E s a ∨ Occurs E (next s a) as

theorem occurs_append {bs : List α} :
    Occurs next E s (as ++ bs) ↔ Occurs next E s as ∨ Occurs next E (run next s as) bs := by
  induction as generalizing s with
  | nil => simp [Occurs]
  | cons a as ih => simp [Occurs, ih, or_assoc]

theorem Occurs.mono {E' : σ → α → Prop} (hE : ∀ s a, E s a → E' s a) (h : Occurs next E s as) :
    Occurs next E' s as := by
  induction as generalizing s with
  | nil => exact h
  | cons a as ih => exact h.imp (hE s a) ih

theorem not_occurs_iff : ¬ Occurs next E s as ↔ Along next (fun s a => ¬ E s a) s as := by
  induction as generalizing s with
  | nil => simp [Occurs]
  | cons a as ih => simp [Occurs, ih, not_or]

/-- Some action meets `E`, and none after it meets `R`. -/
def Since (E R : σ → α → Prop) : σ → List α → Prop
  | _, [] => False
  | s, a :: as => E s a ∧ ¬ Occurs next R (next s a) as ∨ Since E R (next s a) as

theorem since_append_singleton {R : σ → α → Prop} {a : α} :
    Since next E R s (as ++ [a]) ↔
      E (run next s as) a ∨ Since next E R s as ∧ ¬ R (run next s as) a := by
  induction as generalizing s with
  | nil => simp [Since, Occurs]
  | cons b as ih =>
    rw [List.cons_append, Since, ih, occurs_append, Since, run_cons]
    simp only [Occurs, or_false]
    tauto

/-- What the actions of a run add up to, each in the state it is taken in. -/
def tally (f : σ → α → Nat) : σ → List α → Nat
  | _, [] => 0
  | s, a :: as => f s a + tally f (next s a) as

@[simp] theorem tally_nil (f : σ → α → Nat) (s : σ) : tally next f s [] = 0 := rfl

theorem tally_append (f : σ → α → Nat) (s : σ) (as bs : List α) :
    tally next f s (as ++ bs) = tally next f s as + tally next f (run next s as) bs := by
  induction as generalizing s with
  | nil => simp
  | cons a as ih => simp [tally, ih, Nat.add_assoc]

theorem tally_append_singleton (f : σ → α → Nat) (s : σ) (as : List α) (a : α) :
    tally next f s (as ++ [a]) = tally next f s as + f (run next s as) a :=
  tally_append next f s as [a]

variable {next}

/-- **A flag that only ever goes up, and goes up with `E`, says that `E` has occurred.** -/
theorem flag_iff_occurs (hinv : ∀ s a, I s → I (next s a))
    (hstep : ∀ s a, I s → (P (next s a) ↔ P s ∨ E s a)) (hI : I s) (as : List α) :
    P (run next s as) ↔ P s ∨ Occurs next E s as := by
  induction as generalizing s with
  | nil => simp [Occurs]
  | cons a as ih => rw [run_cons, ih (hinv s a hI), hstep s a hI, Occurs, or_assoc]

theorem Along.mono {D : σ → α → Prop} (hD : ∀ s a, C s a → D s a) (h : Along next C s as) :
    Along next D s as := by
  induction as generalizing s with
  | nil => trivial
  | cons a as ih => exact ⟨hD s a h.1, ih h.2⟩

theorem Along.and {D : σ → α → Prop} (h : Along next C s as) (h' : Along next D s as) :
    Along next (fun s a => C s a ∧ D s a) s as := by
  induction as generalizing s with
  | nil => trivial
  | cons a as ih => exact ⟨⟨h.1, h'.1⟩, ih h.2 h'.2⟩

/-- **A property every step keeps holds at the end of every run.** -/
theorem run_invariant (hstep : ∀ s a, I s → I (next s a)) (hs : I s) (as : List α) :
    I (run next s as) := by
  induction as generalizing s with
  | nil => exact hs
  | cons a as ih => exact ih (hstep s a hs)

/-- **A flag that goes up with `E`, and stays up, is up once `E` has occurred.** -/
theorem flag_of_occurs (hinv : ∀ s a, I s → I (next s a)) (hup : ∀ s a, I s → E s a → P (next s a))
    (hstay : ∀ s a, I s → P s → P (next s a)) (hI : I s) (h : Occurs next E s as) :
    P (run next s as) := by
  induction as generalizing s with
  | nil => exact h.elim
  | cons a as ih =>
    rcases h with hnow | hlater
    · exact (run_invariant (I := fun s => I s ∧ P s)
        (fun s a hs => ⟨hinv s a hs.1, hstay s a hs.1 hs.2⟩) ⟨hinv s a hI, hup s a hI hnow⟩ as).2
    · exact ih (hinv s a hI) hlater

/-- **A flag that goes up only with `E`, and is up, says that `E` has occurred.** -/
theorem occurs_of_flag (hstep : ∀ s a, P (next s a) → P s ∨ E s a) (hP : ¬ P s)
    (h : P (run next s as)) : Occurs next E s as := by
  induction as using List.reverseRecOn with
  | nil => exact absurd h hP
  | append_singleton as a ih =>
    rw [run_append] at h
    rw [occurs_append]
    exact (hstep _ a h).imp ih .inl

/-- **A flag that goes up with `E` and down with `R` says that `E` has occurred and `R` has not
since.** -/
theorem flag_iff_since {R : σ → α → Prop} (hinv : ∀ s a, I s → I (next s a))
    (hstep : ∀ s a, I s → (P (next s a) ↔ E s a ∨ P s ∧ ¬ R s a)) (hI : I s) (hP : ¬ P s)
    (as : List α) : P (run next s as) ↔ Since next E R s as := by
  induction as using List.reverseRecOn with
  | nil => simpa [Since] using hP
  | append_singleton as a ih =>
    rw [run_append, since_append_singleton, ← ih]
    exact hstep _ a (run_invariant hinv hI as)

/-- **A property every admissible step keeps holds at the end of every admissible run.** -/
theorem Along.invariant {C : σ → α → Prop} {I : σ → Prop}
    (hstep : ∀ s a, I s → C s a → I (next s a)) {s : σ} {as : List α}
    (h : Along next C s as) (hs : I s) : I (run next s as) := by
  induction as generalizing s with
  | nil => exact hs
  | cons a as ih => exact ih h.2 (hstep s a hs h.1)

/-- A property every admissible step keeps may be assumed at every step. -/
theorem Along.and_invariant (hstep : ∀ s a, I s → C s a → I (next s a)) (h : Along next C s as)
    (hs : I s) : Along next (fun s a => I s ∧ C s a) s as := by
  induction as generalizing s with
  | nil => trivial
  | cons a as ih => exact ⟨⟨hs, h.1⟩, ih h.2 (hstep s a hs h.1)⟩

/-- What holds of every step out of an invariant state holds along every run from one. -/
theorem along_of_invariant (hstep : ∀ s a, I s → C s a ∧ I (next s a)) (hs : I s) (as : List α) :
    Along next C s as := by
  induction as generalizing s with
  | nil => trivial
  | cons a as ih => exact ⟨(hstep s a hs).1, ih (hstep s a hs).2⟩

/-- **A property that a run ends is ended by one of its steps.** -/
theorem exists_step_of_run (hinv : ∀ s a, I s → I (next s a)) (hI : I s) (hP : P s)
    (hnot : ¬ P (run next s as)) : ∃ s' a, a ∈ as ∧ I s' ∧ P s' ∧ ¬ P (next s' a) := by
  induction as generalizing s with
  | nil => exact absurd hP hnot
  | cons a as ih =>
    by_cases hnext : P (next s a)
    · obtain ⟨s', a', ha', hstep⟩ := ih (hinv s a hI) hnext hnot
      exact ⟨s', a', List.mem_cons_of_mem a ha', hstep⟩
    · exact ⟨s, a, List.mem_cons_self, hI, hP, hnext⟩

/-- **A property of a run and the state it leads to**, kept by every admissible step at its end,
holds of every admissible run. -/
theorem Along.history {C : σ → α → Prop} {I : List α → σ → Prop} {s : σ} (hs : I [] s)
    (hstep : ∀ as a, I as (run next s as) → C (run next s as) a →
      I (as ++ [a]) (next (run next s as) a)) {as : List α} (h : Along next C s as) :
    I as (run next s as) := by
  induction as using List.reverseRecOn with
  | nil => exact hs
  | append_singleton as a ih =>
    obtain ⟨has, ha, -⟩ := (along_append next).mp h
    rw [run_append]
    exact hstep as a (ih has) ha

/-! ## Ghost state -/

section Ghost

variable {τ : Type*} {next' : τ → α → τ} {proj : τ → σ}

/-- A machine that carries more along runs as the one it carries it for. -/
theorem run_proj (hproj : ∀ t a, proj (next' t a) = next (proj t) a) (t : τ) (as : List α) :
    proj (run next' t as) = run next (proj t) as := by
  induction as generalizing t with
  | nil => rfl
  | cons a as ih => rw [run_cons, run_cons, ih, hproj]

/-- What is admissible for a machine is so for one that carries more. -/
theorem Along.of_proj (hproj : ∀ t a, proj (next' t a) = next (proj t) a) {t : τ}
    (h : Along next C (proj t) as) : Along next' (fun t a => C (proj t) a) t as := by
  induction as generalizing t with
  | nil => trivial
  | cons a as ih => exact ⟨h.1, ih (hproj t a ▸ h.2)⟩

end Ghost

/-- **A relation every admissible step out of an invariant state puts between its two ends holds
between the ends of every admissible run**, for a reflexive and transitive relation. -/
theorem Along.relation {R : σ → σ → Prop} (hrefl : ∀ s, R s s)
    (htrans : ∀ {s₁ s₂ s₃}, R s₁ s₂ → R s₂ s₃ → R s₁ s₃) (hinv : ∀ s a, I s → C s a → I (next s a))
    (hrel : ∀ s a, I s → C s a → R s (next s a)) (h : Along next C s as) (hs : I s) :
    R s (run next s as) := by
  induction as generalizing s with
  | nil => exact hrefl s
  | cons a as ih => exact htrans (hrel s a hs h.1) (ih h.2 (hinv s a hs h.1))

end Machine
