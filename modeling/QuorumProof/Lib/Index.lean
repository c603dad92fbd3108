import Mathlib.Data.List.Nodup
import Mathlib.Data.Set.Card
import QuorumProof.Lib.Guarded

/-!
# Lib/Index — lists of values under a key

An index keeps, under each key, the list of the values related to it.  `Enumerates f R` says that it
does so for the relation `R`, each value once; appending and erasing one value change the relation
by one pair.  `Lists m R` says it of storage, where a key without a list has the empty one.

A unique key is the index of a partial function: `Tracks keys keyOf` says that `keys` finds, for
every key, the one item that has it.
-/

namespace Index

variable {κ ν : Type*}

/-- `f` lists exactly the values `R` relates to each key, each of them once. -/
structure Enumerates (f : κ → List ν) (R : κ → ν → Prop) : Prop where
  nodup : ∀ k, (f k).Nodup
  mem : ∀ k v, v ∈ f k ↔ R k v

namespace Enumerates

variable {f : κ → List ν} {R R' : κ → ν → Prop}

variable (h : Enumerates f R)

include h

theorem congr (hR : ∀ k v, R k v ↔ R' k v) : Enumerates f R' :=
  ⟨h.nodup, fun k v => (h.mem k v).trans (hR k v)⟩

/-- The list of a key has as many entries as there are values. -/
theorem length_eq (k : κ) : (f k).length = Set.ncard {v | R k v} := by
  classical
  have hset : {v | R k v} = ((f k).toFinset : Set ν) := by
    ext v
    simp [h.mem]
  rw [hset, Set.ncard_coe_finset, List.toFinset_card_of_nodup (h.nodup k)]

variable [DecidableEq κ]

/-- Replacing the list of one key replaces the values of that key. -/
theorem update {k : κ} {l : List ν} {P : ν → Prop} (hl : l.Nodup) (hP : ∀ v, v ∈ l ↔ P v) :
    Enumerates (Function.update f k l) fun k' v => if k' = k then P v else R k' v where
  nodup k' := by
    rw [Function.update_apply]
    split
    · exact hl
    · exact h.nodup k'
  mem k' v := by
    rw [Function.update_apply]
    split
    · exact hP v
    · exact h.mem k' v

/-- Appending a value the key does not have yet adds one pair. -/
theorem append {k : κ} {v : ν} (hnew : ¬ R k v) :
    Enumerates (Function.update f k (f k ++ [v])) fun k' v' => R k' v' ∨ k' = k ∧ v' = v := by
  have hnotmem : v ∉ f k := fun hmem => hnew ((h.mem k v).mp hmem)
  have hnodup : (f k ++ [v]).Nodup :=
    (h.nodup k).append (List.nodup_singleton v) (by simpa using hnotmem)
  refine (h.update hnodup (P := fun v' => R k v' ∨ v' = v) fun v' => ?_).congr fun k' v' => ?_
  · simp [h.mem]
  · by_cases hk : k' = k <;> simp [hk]

/-- Erasing a value removes one pair. -/
theorem erase [DecidableEq ν] {k : κ} {v : ν} :
    Enumerates (Function.update f k ((f k).erase v)) fun k' v' =>
      R k' v' ∧ ¬ (k' = k ∧ v' = v) := by
  refine (h.update ((h.nodup k).erase v) (P := fun v' => R k v' ∧ v' ≠ v) fun v' => ?_).congr
    fun k' v' => ?_
  · rw [(h.nodup k).mem_erase_iff, h.mem, and_comm]
  · by_cases hk : k' = k <;> simp [hk]

end Enumerates

/-! ## Stored lists -/

/-- The index `m` lists exactly the values `R` relates to each key, each of them once. -/
structure Lists (m : Store κ (List ν)) (R : κ → ν → Prop) : Prop where
  nodup : ∀ k, ((m k).getD []).Nodup
  mem : ∀ k v, v ∈ (m k).getD [] ↔ R k v

section Writes

variable [DecidableEq κ]

/-- Append `v` to the list under `k`. -/
def push (m : Store κ (List ν)) (k : κ) (v : ν) : Store κ (List ν) :=
  m.set k ((m k).getD [] ++ [v])

/-- A list written under a key is the list found there. -/
theorem getD_set (m : Store κ (List ν)) (k : κ) (l : List ν) :
    (fun k' => (m.set k l k').getD []) = Function.update (fun k' => (m k').getD []) k l := by
  funext k'
  rw [Store.set_apply, Function.update_apply]
  split <;> rfl

/-- An emptied slot has the empty list. -/
theorem getD_remove (m : Store κ (List ν)) (k : κ) :
    (fun k' => (m.remove k k').getD []) = Function.update (fun k' => (m k').getD []) k [] := by
  funext k'
  rw [Store.remove_apply, Function.update_apply]
  split <;> rfl

variable [DecidableEq ν]

/-- Remove `v` from the list under `k`. -/
def drop (m : Store κ (List ν)) (k : κ) (v : ν) : Store κ (List ν) :=
  m.set k (((m k).getD []).filter (· ≠ v))

/-- Remove `v` from the list under `k`, writing only when that changes its length. -/
def dropPresent (m : Store κ (List ν)) (k : κ) (v : ν) : Store κ (List ν) :=
  let retained := ((m k).getD []).filter (· ≠ v)
  if retained.length ≠ ((m k).getD []).length then m.set k retained else m

end Writes

namespace Lists

variable {m : Store κ (List ν)} {R R' : κ → ν → Prop}

theorem iff_enumerates : Lists m R ↔ Enumerates (fun k => (m k).getD []) R :=
  ⟨fun h => ⟨h.nodup, h.mem⟩, fun h => ⟨h.nodup, h.mem⟩⟩

theorem congr (h : Lists m R) (hR : ∀ k v, R k v ↔ R' k v) : Lists m R' :=
  ⟨h.nodup, fun k v => (h.mem k v).trans (hR k v)⟩

variable [DecidableEq κ]

/-- Pushing a value the key does not have yet adds one pair. -/
theorem push {k : κ} {v : ν} (h : Lists m R) (hnew : ¬ R k v) :
    Lists (Index.push m k v) fun k' v' => R k' v' ∨ k' = k ∧ v' = v := by
  rw [iff_enumerates, Index.push, getD_set]
  exact (iff_enumerates.mp h).append hnew

/-- Dropping a value removes one pair. -/
theorem drop [DecidableEq ν] {k : κ} {v : ν} (h : Lists m R) :
    Lists (Index.drop m k v) fun k' v' => R k' v' ∧ ¬ (k' = k ∧ v' = v) := by
  have hfilter : ((m k).getD []).filter (· ≠ v) = ((m k).getD []).erase v := by
    rw [(h.nodup k).erase_eq_filter]
    exact List.filter_congr fun v' _ => by simp [bne, beq_eq_decide]
  rw [iff_enumerates, Index.drop, hfilter, getD_set]
  exact (iff_enumerates.mp h).erase

end Lists

/-! ## Unique keys -/

section Unique

variable {κ ι : Type*}

/-- `keys` holds an item under a key exactly when the item has that key. -/
def Tracks (keys : Store κ ι) (keyOf : Store ι κ) : Prop :=
  ∀ k i, keys k = some i ↔ keyOf i = some k

namespace Tracks

variable {keys : Store κ ι} {keyOf : Store ι κ} {k : κ} {i : ι}

variable (h : Tracks keys keyOf)

include h

/-- No two items have the same key. -/
theorem injective {j : ι} (hi : keyOf i = some k) (hj : keyOf j = some k) : i = j :=
  Option.some.inj (((h k i).mpr hi).symm.trans ((h k j).mpr hj))

theorem ne_of_eq_none (hk : keys k = none) (j : ι) : keyOf j ≠ some k := by
  intro hj
  simp [(h k j).mpr hj] at hk

variable [DecidableEq κ] [DecidableEq ι]

/-- An item without a key takes a free one. -/
theorem set (hk : keys k = none) (hi : keyOf i = none) : Tracks (keys.set k i) (keyOf.set i k) := by
  intro k' i'
  rw [Store.set_apply, Store.set_apply]
  by_cases hk' : k' = k <;> by_cases hi' : i' = i
  · simp [hk', hi']
  · subst hk'
    simp [hi', Ne.symm hi', h.ne_of_eq_none hk i']
  · subst hi'
    simp only [hk', ↓reduceIte, h k' i', hi, reduceCtorEq, Option.some.injEq, false_iff]
    exact Ne.symm hk'
  · simp [hk', hi', h k' i']

/-- An item takes a key that is free or its own, and has no other. -/
theorem assign (hk : ∀ j ∈ keys k, j = i) (hi : ∀ k' ∈ keyOf i, k' = k) :
    Tracks (keys.set k i) (keyOf.set i k) := by
  cases hkey : keyOf i with
  | none =>
    refine h.set (Option.eq_none_iff_forall_not_mem.mpr fun j hj => ?_) hkey
    have hown : keyOf j = some k := (h k j).mp hj
    rw [hk j hj, hkey] at hown
    exact absurd hown (by simp)
  | some k' =>
    obtain rfl := hi k' hkey
    have hkeys : keys.set k' i = keys :=
      Function.update_eq_self_iff.mpr ((h k' i).mpr hkey).symm
    have hkeyOf : keyOf.set i k' = keyOf := Function.update_eq_self_iff.mpr hkey.symm
    rwa [hkeys, hkeyOf]

/-- An item gives its key up. -/
theorem remove (hi : keyOf i = some k) : Tracks (keys.remove k) (keyOf.remove i) := by
  intro k' i'
  rw [Store.remove_apply, Store.remove_apply]
  by_cases hk' : k' = k <;> by_cases hi' : i' = i
  · simp [hk', hi']
  · subst hk'
    simp only [↓reduceIte, reduceCtorEq, hi', false_iff]
    exact fun hj => hi' (h.injective hj hi)
  · subst hi'
    simp only [hk', ↓reduceIte, h k' i', hi, reduceCtorEq, Option.some.injEq, iff_false]
    exact Ne.symm hk'
  · simp [hk', hi', h k' i']

/-- An item gives its key up for another, which is free or its own. -/
theorem move {k' : κ} (hi : keyOf i = some k) (hk' : ∀ j ∈ keys k', j = i) :
    Tracks ((keys.remove k).set k' i) (keyOf.set i k') := by
  have hfree : keys.remove k k' = none := by
    by_contra hne
    obtain ⟨j, hj⟩ := Option.ne_none_iff_exists'.mp hne
    rw [Store.remove_apply] at hj
    split at hj
    next => simp at hj
    next hkk' =>
      obtain rfl := hk' j hj
      exact hkk' (Option.some.inj (((h k' j).mp hj).symm.trans hi))
  have hset := (h.remove hi).set hfree (Store.remove_self _ _)
  intro k'' i''
  rw [hset k'' i'', Store.set_apply, Store.set_apply]
  split
  next => rfl
  next hne => rw [Store.remove_of_ne hne]

end Tracks

end Unique

end Index
