import Mathlib.Data.List.Nodup
import QuorumProof.Lib.Guarded

/-!
# Lib/OrderedMap — maps that list their keys in the order of insertion

A key keeps its place when its value is replaced, and goes to the end when it is inserted again
after a removal.  What is found under a key is a function; the list of keys goes along with it.
-/

/-- A finite map with its keys in the order of insertion. -/
structure OrderedMap (κ ν : Type*) where
  keys : List κ
  get : Store κ ν
  nodup : keys.Nodup
  mem_keys : ∀ k, k ∈ keys ↔ (get k).isSome

namespace OrderedMap

variable {κ ν : Type*}

def empty : OrderedMap κ ν where
  keys := []
  get := fun _ => none
  nodup := List.nodup_nil
  mem_keys k := by simp

@[simp] theorem get_empty (k : κ) : (empty : OrderedMap κ ν).get k = none := rfl

def size (m : OrderedMap κ ν) : Nat := m.keys.length

/-- The pairs of the map, in order. -/
def entries (m : OrderedMap κ ν) : List (κ × ν) :=
  m.keys.filterMap fun k => (m.get k).map (Prod.mk k)

theorem mem_entries {m : OrderedMap κ ν} {k : κ} {v : ν} :
    (k, v) ∈ m.entries ↔ m.get k = some v := by
  simp only [entries, List.mem_filterMap, m.mem_keys, Option.map_eq_some_iff, Prod.mk.injEq]
  constructor
  · rintro ⟨_, -, _, hget, rfl, rfl⟩
    exact hget
  · exact fun hget => ⟨k, by rw [hget]; rfl, v, hget, rfl, rfl⟩

variable [DecidableEq κ]

variable (m : OrderedMap κ ν) (k : κ)

def set (v : ν) : OrderedMap κ ν where
  keys := if k ∈ m.keys then m.keys else m.keys ++ [k]
  get := m.get.set k v
  nodup := by
    split
    next => exact m.nodup
    next hk => exact m.nodup.append (List.nodup_singleton k) (by simpa using hk)
  mem_keys k' := by
    rw [Store.set_apply]
    by_cases hkk' : k' = k
    · subst hkk'
      split <;> simp_all
    · rw [if_neg hkk', ← m.mem_keys]
      split <;> simp [hkk']

def remove : OrderedMap κ ν where
  keys := m.keys.filter (· ≠ k)
  get := m.get.remove k
  nodup := m.nodup.filter _
  mem_keys k' := by
    rw [Store.remove_apply, List.mem_filter, m.mem_keys]
    by_cases hkk' : k' = k <;> simp [hkk']

theorem get_set (k' : κ) (v : ν) :
    (m.set k v).get k' = if k' = k then some v else m.get k' := Store.set_apply _ _ _ _

@[simp] theorem get_set_self (v : ν) : (m.set k v).get k = some v :=
  Store.set_self _ _ _

theorem get_set_of_ne {k k' : κ} (h : k' ≠ k) (v : ν) :
    (m.set k v).get k' = m.get k' := Store.set_of_ne h

theorem get_remove (k' : κ) :
    (m.remove k).get k' = if k' = k then none else m.get k' := Store.remove_apply _ _ _

/-- Removing other keys. -/
theorem get_foldl_remove (entries : List (κ × ν)) (m : OrderedMap κ ν) {k : κ}
    (h : ∀ e ∈ entries, e.1 ≠ k) : (entries.foldl (fun n e => n.remove e.1) m).get k = m.get k := by
  induction entries generalizing m with
  | nil => rfl
  | cons e entries ih =>
    rw [List.foldl_cons, ih _ fun e' he' => h e' (List.mem_cons_of_mem e he'), get_remove,
      if_neg (h e List.mem_cons_self).symm]

/-- Setting the keys of a list to what `m` has under them. -/
theorem get_foldl_set (keys : List κ) (start : OrderedMap κ ν) (k : κ) :
    ((keys.filterMap fun k => (m.get k).map (Prod.mk k)).foldl
      (fun n e => n.set e.1 e.2) start).get k =
      if k ∈ keys ∧ (m.get k).isSome then m.get k else start.get k := by
  induction keys generalizing start with
  | nil => simp
  | cons k₀ keys ih =>
    cases hk₀ : m.get k₀ with
    | none =>
      rw [List.filterMap_cons_none (by simp [hk₀]), ih]
      by_cases hk : k = k₀ <;> simp [hk, hk₀]
    | some v =>
      rw [List.filterMap_cons_some (b := (k₀, v)) (by simp [hk₀]), List.foldl_cons, ih, get_set]
      by_cases hk : k = k₀ <;> simp [hk, hk₀]

/-- **A map is rebuilt from its entries.** -/
theorem get_foldl_entries : (m.entries.foldl (fun n e => n.set e.1 e.2) empty).get k = m.get k := by
  rw [entries, get_foldl_set, get_empty]
  split
  next => rfl
  next h =>
    have hnone : ¬ (m.get k).isSome := fun hsome => h ⟨(m.mem_keys k).mpr hsome, hsome⟩
    exact (Option.not_isSome_iff_eq_none.mp hnone).symm

end OrderedMap
