import Mathlib.Algebra.BigOperators.Group.Finset.Basic
import Mathlib.Data.Finset.Card

/-!
# Lib/Tabulate — ordered maps filled key by key

A map filled by inserting `f k` under every key `k` of a list holds the graph of `f` on the keys of
the list, whatever their order and however often they repeat; a sum over its entries is a sum over
the set of keys.
-/

namespace Tabulate

open Std

variable {κ α : Type*} [Ord κ] [DecidableEq κ] [TransOrd κ] [LawfulEqOrd κ] (f : κ → α)
  (keys : List κ)

/-- The map with `f k` under every key `k` of the list, inserted in the list's order. -/
def tabulate : TreeMap κ α :=
  keys.foldl (fun map k => map.insert k (f k)) ∅

theorem getElem?_foldl_insert (map : TreeMap κ α) (k : κ) :
    (keys.foldl (fun map k => map.insert k (f k)) map)[k]?
      = if k ∈ keys then some (f k) else map[k]? := by
  induction keys generalizing map with
  | nil => simp
  | cons k' keys ih =>
    rw [List.foldl_cons, ih, TreeMap.getElem?_insert]
    by_cases hk : k' = k
    · simp [hk]
    · simp [hk, Ne.symm hk]

@[simp] theorem getElem?_tabulate (k : κ) :
    (tabulate f keys)[k]? = if k ∈ keys then some (f k) else none := by
  rw [tabulate, getElem?_foldl_insert, TreeMap.getElem?_emptyc]

@[simp] theorem mem_tabulate {f : κ → α} {keys : List κ} {k : κ} :
    k ∈ tabulate f keys ↔ k ∈ keys := by
  rw [TreeMap.mem_iff_isSome_getElem?, getElem?_tabulate]
  split <;> simp_all

theorem toFinset_keys_tabulate : (tabulate f keys).keys.toFinset = keys.toFinset := by
  ext k
  rw [List.mem_toFinset, List.mem_toFinset, TreeMap.mem_keys, mem_tabulate]

theorem size_tabulate : (tabulate f keys).size = keys.toFinset.card := by
  rw [← toFinset_keys_tabulate f, List.toFinset_card_of_nodup TreeMap.nodup_keys,
    TreeMap.length_keys]

/-- **A sum over the entries of a map is a sum over the set of its keys**, read off by any function
that agrees with the map on them. -/
theorem sum_toList {M : Type*} [AddCommMonoid M] {map : TreeMap κ α} {f : κ → α}
    (hf : ∀ k a, map[k]? = some a → f k = a) (g : κ → α → M) :
    (map.toList.map fun p => g p.1 p.2).sum = ∑ k ∈ map.keys.toFinset, g k (f k) := by
  have hentries : map.toList.map (fun p => g p.1 p.2) = map.keys.map fun k => g k (f k) := by
    rw [← TreeMap.map_fst_toList_eq_keys, List.map_map]
    refine List.map_congr_left fun p hp => ?_
    rw [Function.comp_apply, hf p.1 p.2 (TreeMap.mem_toList_iff_getElem?_eq_some.mp hp)]
  rw [hentries, ← List.sum_toFinset _ TreeMap.nodup_keys]

theorem sum_toList_tabulate {M : Type*} [AddCommMonoid M] (f : κ → α) (g : κ → α → M)
    (keys : List κ) :
    ((tabulate f keys).toList.map fun p => g p.1 p.2).sum = ∑ k ∈ keys.toFinset, g k (f k) := by
  rw [sum_toList (f := f) fun k a h => ?_, toFinset_keys_tabulate]
  rw [getElem?_tabulate, Option.ite_none_right_eq_some] at h
  exact Option.some.inj h.2

end Tabulate
