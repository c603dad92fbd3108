import Mathlib.Logic.Function.Basic
import Mathlib.Data.List.Basic

/-!
# Lib/Guarded — guarded computations and keyed storage

A transaction is a chain of guards followed by writes, in `Except ε`: a guard that fails aborts the
whole chain, and nothing of it is kept.  What such a chain did is read off its success by peeling
the guards one at a time, so every step of it has one `_eq_ok` equivalence here.

Storage is a total function from keys to optional values, written with `Function.update`.
-/

namespace Guarded

universe u v

variable {ε : Type v} {α β σ : Type u}

/-! ## Guards -/

/-- Abort with `e` unless `p` holds. -/
def require (p : Prop) [Decidable p] (e : ε) : Except ε Unit := if p then .ok () else .error e

/-- The value of a storage slot, aborting with `e` when it is empty. -/
def expect (o : Option α) (e : ε) : Except ε α :=
  match o with
  | some a => .ok a
  | none => .error e

variable {p : Prop} {e : ε} {a : α} {x : Except ε α} {f : α → Except ε β} {l : List α}
  {Q : α → Prop}

@[simp] theorem require_eq_ok [Decidable p] {u : Unit} : require p e = .ok u ↔ p := by
  unfold require
  split <;> simp_all

theorem require_eq_error [Decidable p] {e' : ε} : require p e = .error e' ↔ ¬ p ∧ e = e' := by
  unfold require
  split <;> simp_all

@[simp] theorem expect_eq_ok {o : Option α} : expect o e = .ok a ↔ o = some a := by
  cases o <;> simp [expect]

/-- **A chain succeeds exactly when its first link does and the rest succeeds on its value.** -/
@[simp] theorem bind_eq_ok {b : β} : (x >>= f) = .ok b ↔ ∃ a, x = .ok a ∧ f a = .ok b := by
  cases x with
  | error e => simp [bind, Except.bind]
  | ok a => simp [bind, Except.bind]

/-- It fails as its first link does, or as the rest does on its value. -/
theorem bind_eq_error : (x >>= f) = .error e ↔ x = .error e ∨ ∃ a, x = .ok a ∧ f a = .error e := by
  cases x with
  | error e => simp [bind, Except.bind]
  | ok a => simp [bind, Except.bind]

/-- Whether a chain succeeds is seen by running it. -/
instance decidableSucceeds (x : Except ε α) : Decidable (∃ a, x = .ok a) :=
  match x with
  | .ok a => .isTrue ⟨a, rfl⟩
  | .error _ => .isFalse (by simp)

theorem map_eq_ok {f : α → β} {b : β} : f <$> x = .ok b ↔ ∃ a, x = .ok a ∧ f a = b := by
  cases x with
  | error e => simp [Functor.map, Except.map]
  | ok a => simp [Functor.map, Except.map]

theorem map_eq_error {f : α → β} : f <$> x = .error e ↔ x = .error e := by
  cases x with
  | error e => simp [Functor.map, Except.map]
  | ok a => simp [Functor.map, Except.map]

@[simp] theorem pure_eq_ok {b : α} : (pure a : Except ε α) = .ok b ↔ a = b := by
  simp [pure, Except.pure]

@[simp] theorem mapError_eq_ok {ε' : Type*} {f : ε → ε'} : x.mapError f = .ok a ↔ x = .ok a := by
  cases x <;> simp [Except.mapError]

@[simp] theorem error_eq_ok : (Except.error e : Except ε α) = .ok a ↔ False := by
  simp

/-- A check made for every element of a list passes exactly when it passes for each. -/
theorem forM_eq_ok {f : α → Except ε PUnit} {u : PUnit} :
    l.forM f = .ok u ↔ ∀ a ∈ l, f a = .ok u := by
  rw [List.forM_eq_forM]
  induction l with
  | nil => simp
  | cons a l ih =>
    rw [List.forM_cons, bind_eq_ok, List.forall_mem_cons, ih]
    constructor
    · rintro ⟨⟨⟩, ha, hl⟩
      exact ⟨ha, hl⟩
    · rintro ⟨ha, hl⟩
      exact ⟨u, ha, hl⟩

/-- A conjunction over a list depends on the list's elements alone. -/
theorem allM_congr {f g : α → Except ε Bool} (h : ∀ a ∈ l, f a = g a) : l.allM f = l.allM g := by
  induction l with
  | nil => rfl
  | cons a l ih =>
    rw [List.allM, List.allM, h a (by simp), ih fun b hb => h b (by simp [hb])]

/-- A conjunction over a list is true exactly when each of its elements is. -/
theorem allM_eq_ok_true {f : α → Except ε Bool} :
    l.allM f = .ok true ↔ ∀ a ∈ l, f a = .ok true := by
  induction l with
  | nil => simp [List.allM, pure, Except.pure]
  | cons a l ih =>
    rw [List.allM, bind_eq_ok, List.forall_mem_cons]
    constructor
    · rintro ⟨b, hb, hrest⟩
      cases b with
      | false => simp [pure, Except.pure] at hrest
      | true => exact ⟨hb, ih.mp hrest⟩
    · exact fun ⟨ha, hl⟩ => ⟨true, ha, ih.mpr hl⟩

/-- A list mapped by computations that all succeed. -/
theorem mapM_eq_ok {g : α → β} (h : ∀ a ∈ l, f a = .ok (g a)) : l.mapM f = .ok (l.map g) := by
  induction l with
  | nil => rfl
  | cons a l ih =>
    rw [List.mapM_cons, bind_eq_ok]
    refine ⟨g a, h a (by simp), bind_eq_ok.mpr ⟨l.map g, ?_, rfl⟩⟩
    exact ih fun b hb => h b (by simp [hb])

/-- A loop whose turns all succeed. -/
theorem foldlM_eq_ok {f : σ → α → Except ε σ} {g : σ → α → σ}
    (h : ∀ a ∈ l, ∀ s, f s a = .ok (g s a)) (s : σ) : l.foldlM f s = .ok (l.foldl g s) := by
  induction l generalizing s with
  | nil => rfl
  | cons a l ih =>
    rw [List.foldlM_cons, bind_eq_ok]
    exact ⟨g s a, h a (by simp) s, ih (fun b hb => h b (by simp [hb])) (g s a)⟩

/-! ## Postconditions

`Ensures x Q` is partial correctness of a chain: a chain that aborts ensures everything, since
nothing of it is kept.  The rules below push it through a chain from the front, a guard turning into
a hypothesis about the rest. -/

/-- Whatever `x` returns satisfies `Q`. -/
def Ensures (x : Except ε α) (Q : α → Prop) : Prop := ∀ a, x = .ok a → Q a

theorem ensures_iff : Ensures x Q ↔ ∀ a, x = .ok a → Q a := Iff.rfl

@[simp] theorem ensures_bind {Q : β → Prop} :
    Ensures (x >>= f) Q ↔ Ensures x fun a => Ensures (f a) Q := by
  constructor
  · intro h a ha b hb
    exact h b (bind_eq_ok.mpr ⟨a, ha, hb⟩)
  · intro h b hb
    obtain ⟨a, ha, hfa⟩ := bind_eq_ok.mp hb
    exact h a ha b hfa

@[simp] theorem ensures_map {f : α → β} {Q : β → Prop} :
    Ensures (f <$> x) Q ↔ Ensures x fun a => Q (f a) := by
  cases x with
  | error e => simp [Ensures, Functor.map, Except.map]
  | ok a => simp [Ensures, Functor.map, Except.map]

@[simp] theorem ensures_pure : Ensures (pure a : Except ε α) Q ↔ Q a := by
  simp [Ensures]

@[simp] theorem ensures_ok : Ensures (Except.ok a : Except ε α) Q ↔ Q a := by
  simp [Ensures]

@[simp] theorem ensures_error : Ensures (Except.error e : Except ε α) Q ↔ True := by
  simp [Ensures]

@[simp] theorem ensures_require [Decidable p] {Q : Unit → Prop} :
    Ensures (require p e) Q ↔ (p → Q ()) := by
  simp only [Ensures, require_eq_ok]
  exact ⟨fun h hp => h () hp, fun h _ hp => h hp⟩

@[simp] theorem ensures_expect {o : Option α} : Ensures (expect o e) Q ↔ ∀ a, o = some a → Q a := by
  simp [Ensures]

@[simp] theorem ensures_ite {c : Prop} [Decidable c] {y : Except ε α} :
    Ensures (if c then x else y) Q ↔ (c → Ensures x Q) ∧ (¬ c → Ensures y Q) := by
  split <;> simp_all

@[simp] theorem ensures_true : Ensures x (fun _ => True) ↔ True :=
  iff_true_intro fun _ _ => trivial

/-- A check returns nothing: what follows may assume that it passed. -/
theorem ensures_unit {x : Except ε Unit} {Q : Unit → Prop} :
    Ensures x Q ↔ (x = .ok () → Q ()) :=
  ⟨fun h hx => h () hx, fun h _ hx => h hx⟩

/-- **The rules for the steps of a chain**, for a `simp only` that turns all of them into
hypotheses. -/
theorem ensures_steps :
    (∀ {α β : Type} {x : Except ε α} {f : α → Except ε β} {Q : β → Prop},
      Ensures (x >>= f) Q ↔ Ensures x fun a => Ensures (f a) Q) ∧
    (∀ {α β : Type} {x : Except ε α} {f : α → β} {Q : β → Prop},
      Ensures (f <$> x) Q ↔ Ensures x fun a => Q (f a)) ∧
    (∀ {α : Type} {a : α} {Q : α → Prop}, Ensures (pure a : Except ε α) Q ↔ Q a) ∧
    (∀ {α : Type} {o : Option α} {e : ε} {Q : α → Prop},
      Ensures (expect o e) Q ↔ ∀ a, o = some a → Q a) ∧
    ∀ {x : Except ε Unit} {Q : Unit → Prop}, Ensures x Q ↔ (x = .ok () → Q ()) :=
  ⟨ensures_bind, ensures_map, ensures_pure, ensures_expect, ensures_unit⟩

/-- A stronger postcondition gives a weaker one. -/
theorem Ensures.mono {P : α → Prop} (h : Ensures x P) (hPQ : ∀ a, P a → Q a) : Ensures x Q :=
  fun a ha => hPQ a (h a ha)

/-! ## Loops

A loop over a list threads the state through one guarded body per element. -/

/-- **A loop whose body keeps `R` keeps `R`**, for `R` reflexive and transitive. -/
theorem ensures_foldlM {R : σ → σ → Prop} (hrefl : ∀ s, R s s)
    (htrans : ∀ {s₁ s₂ s₃}, R s₁ s₂ → R s₂ s₃ → R s₁ s₃) {f : σ → α → Except ε σ}
    (hf : ∀ a ∈ l, ∀ s, Ensures (f s a) (R s)) (s : σ) : Ensures (l.foldlM f s) (R s) := by
  induction l generalizing s with
  | nil => simpa using hrefl s
  | cons a l ih =>
    rw [List.foldlM_cons, ensures_bind]
    intro s₁ h₁
    have hhead : R s s₁ := hf a (by simp) s s₁ h₁
    have htail : Ensures (l.foldlM f s₁) (R s₁) := ih (fun b hb => hf b (by simp [hb])) s₁
    exact htail.mono fun _ h => htrans hhead h

/-- **A loop keeps an invariant its body keeps.** -/
theorem ensures_foldlM_invariant {I : σ → Prop} {f : σ → α → Except ε σ}
    (hf : ∀ a ∈ l, ∀ s, I s → Ensures (f s a) I) {s : σ} (hs : I s) : Ensures (l.foldlM f s) I := by
  have hrel := ensures_foldlM (R := fun s s' => I s → I s') (fun _ h => h)
    (fun h₁ h₂ h => h₂ (h₁ h)) (fun a ha s s' hs' h => hf a ha s h s' hs') s
  exact hrel.mono fun _ h => h hs

end Guarded

/-! ## Keyed storage -/

/-- Storage: a value, or nothing, under every key. -/
abbrev Store (κ ν : Type*) := κ → Option ν

namespace Store

/-- Storage with nothing in it. -/
instance (priority := 2000) instInhabited {κ ν : Type*} : Inhabited (Store κ ν) := ⟨fun _ => none⟩

variable {κ ν : Type*} [DecidableEq κ]

/-- Write `v` under `k`. -/
def set (m : Store κ ν) (k : κ) (v : ν) : Store κ ν := Function.update m k (some v)

/-- Empty the slot of `k`. -/
def remove (m : Store κ ν) (k : κ) : Store κ ν := Function.update m k none

@[simp] theorem set_self (m : Store κ ν) (k : κ) (v : ν) : m.set k v k = some v := by
  simp only [set, Function.update_self]

@[simp] theorem remove_self (m : Store κ ν) (k : κ) : m.remove k k = none := by
  simp only [remove, Function.update_self]

variable {m : Store κ ν} {k : κ}

theorem set_of_ne {k' : κ} {v : ν} (h : k' ≠ k) : m.set k v k' = m k' := by
  simp only [set, Function.update_of_ne h]

theorem remove_of_ne {k' : κ} (h : k' ≠ k) : m.remove k k' = m k' := by
  simp only [remove, Function.update_of_ne h]

theorem set_apply (m : Store κ ν) (k k' : κ) (v : ν) :
    m.set k v k' = if k' = k then some v else m k' := by
  simp only [set, Function.update_apply]

theorem set_eq_self {v : ν} (h : m k = some v) : m.set k v = m := by
  simp only [set, ← h, Function.update_eq_self]

theorem remove_apply (m : Store κ ν) (k k' : κ) :
    m.remove k k' = if k' = k then none else m k' := by
  simp only [remove, Function.update_apply]

/-- What is under a key after a write has been written, or was there before. -/
theorem set_eq_some {k' : κ} {v w : ν} :
    m.set k v k' = some w ↔ k' = k ∧ v = w ∨ k' ≠ k ∧ m k' = some w := by
  rw [set_apply]
  split <;> simp [*]

theorem map_set {ω : Type*} (f : ν → ω) (m : Store κ ν) (k : κ) (v : ν) :
    (fun k' => (m.set k v k').map f) = set (fun k' => (m k').map f) k (f v) := by
  funext k'
  rw [set_apply, set_apply]
  split <;> rfl

theorem map_remove {ω : Type*} (f : ν → ω) (m : Store κ ν) (k : κ) :
    (fun k' => (m.remove k k').map f) = remove (fun k' => (m k').map f) k := by
  funext k'
  rw [remove_apply, remove_apply]
  split <;> rfl

end Store
