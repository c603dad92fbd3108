import Mathlib.Algebra.Group.Nat.Defs
import Mathlib.Data.List.GetD
import Mathlib.Data.Set.Function

/-!
# Lib/Merkle — roots of padded binary trees, and what they bind

A row of nodes is merged in neighbouring pairs, level by level, until one node is left; where the
row is too short, the root of an empty subtree of the right depth stands in.  The tree is over any
type with a binary hash.  No hash into finitely many digests is injective, so what a root binds is
said relative to the pairs that were `hashed` on the way: without a collision among them, equal
roots have equal leaves (`root_injOn`), and the siblings of a leaf lead from it to the root
(`climb_branch`) and from no other leaf (`eq_of_climb_eq_root`).
-/

namespace Merkle

variable {D : Type*} (hash : D → D → D) (zero : D)

/-- The root of an empty subtree of a depth. -/
def zeroHash : ℕ → D
  | 0 => zero
  | depth + 1 => hash (zeroHash depth) (zeroHash depth)

/-- The first `n` pairs of neighbours in a row, padded on the right. -/
def pairs (pad : D) : ℕ → List D → List (D × D)
  | 0, _ => []
  | n + 1, nodes => (nodes.headD pad, nodes.tail.headD pad) :: pairs pad n nodes.tail.tail

/-- The row above. -/
def merge (pad : D) (n : ℕ) (nodes : List D) : List D :=
  (pairs pad n nodes).map fun p => hash p.1 p.2

/-- The row `depth` levels above one at `level`. -/
def ascend : (depth level : ℕ) → List D → List D
  | 0, _, nodes => nodes
  | depth + 1, level, nodes =>
    ascend depth (level + 1) (merge hash (zeroHash hash zero level) (2 ^ depth) nodes)

/-- The root above a row at `level`. -/
def root (depth level : ℕ) (nodes : List D) : D :=
  (ascend hash zero depth level nodes).headD (zeroHash hash zero (level + depth))

/-- The pairs that are hashed on the way up. -/
def hashed : (depth level : ℕ) → List D → List (D × D)
  | 0, _, _ => []
  | depth + 1, level, nodes =>
    pairs (zeroHash hash zero level) (2 ^ depth) nodes ++
      hashed depth (level + 1) (merge hash (zeroHash hash zero level) (2 ^ depth) nodes)

/-- The root a branch leads to from a node: the bits of the index say on which side the node is. -/
def climb : (index : ℕ) → D → List D → D
  | _, node, [] => node
  | index, node, sibling :: branch =>
    climb (index / 2) (if index % 2 = 1 then hash sibling node else hash node sibling) branch

/-- The siblings on the way up from the node at `i`. -/
def branch : (depth level i : ℕ) → List D → List D
  | 0, _, _, _ => []
  | depth + 1, level, i, nodes =>
    nodes.getD (if i % 2 = 1 then i - 1 else i + 1) (zeroHash hash zero level) ::
      branch depth (level + 1) (i / 2) (merge hash (zeroHash hash zero level) (2 ^ depth) nodes)

/-- The pairs that are hashed along a branch. -/
def climbed : (index : ℕ) → D → List D → List (D × D)
  | _, _, [] => []
  | index, node, sibling :: branch =>
    let pair := if index % 2 = 1 then (sibling, node) else (node, sibling)
    pair :: climbed (index / 2) (hash pair.1 pair.2) branch

variable {hash zero} {pad : D} {n depth level : ℕ} {nodes nodes' : List D}

@[simp] theorem length_pairs (pad : D) (n : ℕ) (nodes : List D) :
    (pairs pad n nodes).length = n := by
  induction n generalizing nodes with
  | zero => rfl
  | succ n ih => rw [pairs, List.length_cons, ih]

theorem getElem_pairs {i : ℕ} (hi : i < (pairs pad n nodes).length) :
    (pairs pad n nodes)[i] = (nodes.getD (2 * i) pad, nodes.getD (2 * i + 1) pad) := by
  induction n generalizing nodes i with
  | zero => simp at hi
  | succ n ih =>
    cases i with
    | zero =>
      simp [pairs, List.headD_eq_head?_getD, List.head?_eq_getElem?, List.getD_eq_getElem?_getD]
    | succ i =>
      simp only [pairs, List.getElem_cons_succ]
      rw [ih]
      simp [List.getD_eq_getElem?_getD, Nat.mul_succ, Nat.add_right_comm _ 2 1]

theorem getD_merge {i : ℕ} (hi : i < n) (d : D) :
    (merge hash pad n nodes).getD i d =
      hash (nodes.getD (2 * i) pad) (nodes.getD (2 * i + 1) pad) := by
  have hlength : i < (merge hash pad n nodes).length := by simpa [merge] using hi
  rw [List.getD_eq_getElem _ _ hlength]
  simp only [merge, List.getElem_map, getElem_pairs]

theorem mem_pairs {i : ℕ} (hi : i < n) :
    (nodes.getD (2 * i) pad, nodes.getD (2 * i + 1) pad) ∈ pairs pad n nodes := by
  have hlength : i < (pairs pad n nodes).length := by rwa [length_pairs]
  rw [← getElem_pairs hlength]
  exact List.getElem_mem hlength

section Forall

variable {P : D → Prop} (hzero : P zero) (hhash : ∀ l r, P (hash l r))

include hzero hhash in
theorem forall_zeroHash (depth : ℕ) :
    P (zeroHash hash zero depth) := by
  cases depth with
  | zero => exact hzero
  | succ depth => exact hhash _ _

theorem forall_getD (hpad : P pad) (hnodes : ∀ node ∈ nodes, P node) (i : ℕ) :
    P (nodes.getD i pad) := by
  rw [List.getD_eq_getElem?_getD]
  cases h : nodes[i]? with
  | none => exact hpad
  | some node => exact hnodes node (List.mem_of_getElem? h)

theorem forall_pairs (hpad : P pad) (hnodes : ∀ node ∈ nodes, P node) :
    ∀ p ∈ pairs pad n nodes, P p.1 ∧ P p.2 := by
  intro p hp
  obtain ⟨i, hi, rfl⟩ := List.getElem_of_mem hp
  rw [getElem_pairs]
  exact ⟨forall_getD hpad hnodes _, forall_getD hpad hnodes _⟩

include hhash

theorem forall_merge : ∀ node ∈ merge hash pad n nodes, P node := by
  intro node hnode
  obtain ⟨_, -, rfl⟩ := List.mem_map.mp hnode
  exact hhash _ _

include hzero in
/-- The nodes that are hashed keep what the leaves and the digests have in common. -/
theorem forall_hashed (hnodes : ∀ node ∈ nodes, P node) :
    ∀ p ∈ hashed hash zero depth level nodes, P p.1 ∧ P p.2 := by
  induction depth generalizing level nodes with
  | zero => simp [hashed]
  | succ depth ih =>
    intro p hp
    rcases List.mem_append.mp hp with hpair | habove
    · exact forall_pairs (forall_zeroHash hzero hhash level) hnodes p hpair
    · exact ih (forall_merge hhash) p habove

include hzero in
theorem forall_branch (hnodes : ∀ node ∈ nodes, P node) (i : ℕ) :
    ∀ sibling ∈ branch hash zero depth level i nodes, P sibling := by
  induction depth generalizing level i nodes with
  | zero => simp [branch]
  | succ depth ih =>
    exact List.forall_mem_cons.mpr ⟨forall_getD (forall_zeroHash hzero hhash level) hnodes _,
      ih (forall_merge hhash) _⟩

theorem forall_climbed {node : D} {siblings : List D} (hnode : P node)
    (hsiblings : ∀ sibling ∈ siblings, P sibling) (index : ℕ) :
    ∀ p ∈ climbed hash index node siblings, P p.1 ∧ P p.2 := by
  induction siblings generalizing index node with
  | nil => simp [climbed]
  | cons sibling siblings ih =>
    obtain ⟨hsibling, hrest⟩ := List.forall_mem_cons.mp hsiblings
    refine List.forall_mem_cons.mpr ⟨?_, ih (hhash _ _) hrest _⟩
    split
    · exact ⟨hsibling, hnode⟩
    · exact ⟨hnode, hsibling⟩

end Forall

theorem root_zero (level : ℕ) (nodes : List D) :
    root hash zero 0 level nodes = nodes.getD 0 (zeroHash hash zero level) := by
  simp [root, ascend, List.headD_eq_head?_getD, List.head?_eq_getElem?,
    List.getD_eq_getElem?_getD]

theorem root_succ (depth level : ℕ) (nodes : List D) :
    root hash zero (depth + 1) level nodes =
      root hash zero depth (level + 1)
        (merge hash (zeroHash hash zero level) (2 ^ depth) nodes) := by
  rw [root, root, ascend, Nat.add_right_comm level 1 depth, Nat.add_assoc]

/-- **Without a collision, equal roots have equal leaves.** -/
theorem root_injOn {S : Set (D × D)} (hinj : S.InjOn fun p => hash p.1 p.2)
    (hS : ∀ p ∈ hashed hash zero depth level nodes, p ∈ S)
    (hS' : ∀ p ∈ hashed hash zero depth level nodes', p ∈ S)
    (heq : root hash zero depth level nodes = root hash zero depth level nodes') {i : ℕ}
    (hi : i < 2 ^ depth) :
    nodes.getD i (zeroHash hash zero level) = nodes'.getD i (zeroHash hash zero level) := by
  induction depth generalizing level nodes nodes' i with
  | zero =>
    obtain rfl : i = 0 := by simpa using hi
    rwa [root_zero, root_zero] at heq
  | succ depth ih =>
    have hhalf : i / 2 < 2 ^ depth := Nat.div_lt_of_lt_mul (by rwa [← Nat.pow_succ'])
    -- the parents of `i` are equal, so their children are
    have hparents := ih (fun p hp => hS p (List.mem_append_right _ hp))
      (fun p hp => hS' p (List.mem_append_right _ hp)) (by rwa [root_succ, root_succ] at heq) hhalf
    rw [getD_merge hhalf, getD_merge hhalf] at hparents
    have hchildren := hinj (hS _ (List.mem_append_left _ (mem_pairs hhalf)))
      (hS' _ (List.mem_append_left _ (mem_pairs hhalf))) hparents
    obtain ⟨hleft, hright⟩ := Prod.mk.inj hchildren
    rcases Nat.mod_two_eq_zero_or_one i with heven | hodd
    · rwa [show 2 * (i / 2) = i by omega] at hleft
    · rwa [show 2 * (i / 2) + 1 = i by omega] at hright

theorem climb_cons (index : ℕ) (node sibling : D) (siblings : List D) :
    climb hash index node (sibling :: siblings) =
      let pair := if index % 2 = 1 then (sibling, node) else (node, sibling)
      climb hash (index / 2) (hash pair.1 pair.2) siblings := by
  rw [climb]
  split <;> rfl

theorem two_pow_succ_add (depth i : ℕ) :
    (2 ^ (depth + 1) + i) % 2 = i % 2 ∧ (2 ^ (depth + 1) + i) / 2 = 2 ^ depth + i / 2 := by
  rw [Nat.pow_succ]
  omega

@[simp] theorem length_branch (depth level i : ℕ) (nodes : List D) :
    (branch hash zero depth level i nodes).length = depth := by
  induction depth generalizing level i nodes with
  | zero => rfl
  | succ depth ih => rw [branch, List.length_cons, ih]

/-- **The branch of a node leads to the root.** -/
theorem climb_branch (level : ℕ) {i : ℕ} (hi : i < 2 ^ depth) :
    climb hash (2 ^ depth + i) (nodes.getD i (zeroHash hash zero level))
      (branch hash zero depth level i nodes) = root hash zero depth level nodes := by
  induction depth generalizing level nodes i with
  | zero =>
    obtain rfl : i = 0 := by simpa using hi
    exact (root_zero level nodes).symm
  | succ depth ih =>
    have hhalf : i / 2 < 2 ^ depth := Nat.div_lt_of_lt_mul (by rwa [← Nat.pow_succ'])
    obtain ⟨hmod, hdiv⟩ := two_pow_succ_add depth i
    rw [branch, climb_cons, root_succ, ← ih (level + 1) hhalf, getD_merge hhalf, hmod, hdiv]
    rcases Nat.mod_two_eq_zero_or_one i with heven | hodd
    · simp only [heven, Nat.zero_ne_one, if_false, show 2 * (i / 2) = i by omega]
    · simp only [hodd, if_true, show 2 * (i / 2) = i - 1 by omega, show i - 1 + 1 = i by omega]

/-- **Without a collision, no other node leads there.** -/
theorem eq_of_climb_eq_root {S : Set (D × D)} (hinj : S.InjOn fun p => hash p.1 p.2) {i : ℕ}
    {node : D} {siblings : List D} (hlength : siblings.length = depth) (hi : i < 2 ^ depth)
    (hS : ∀ p ∈ hashed hash zero depth level nodes, p ∈ S)
    (hS' : ∀ p ∈ climbed hash (2 ^ depth + i) node siblings, p ∈ S)
    (heq : climb hash (2 ^ depth + i) node siblings = root hash zero depth level nodes) :
    node = nodes.getD i (zeroHash hash zero level) := by
  induction siblings generalizing depth level nodes i node with
  | nil =>
    obtain rfl : depth = 0 := hlength.symm
    obtain rfl : i = 0 := by simpa using hi
    exact heq.trans (root_zero level nodes)
  | cons sibling siblings ih =>
    obtain ⟨depth, rfl⟩ : ∃ d, depth = d + 1 := ⟨_, hlength.symm⟩
    have hhalf : i / 2 < 2 ^ depth := Nat.div_lt_of_lt_mul (by rwa [← Nat.pow_succ'])
    obtain ⟨hmod, hdiv⟩ := two_pow_succ_add depth i
    rw [climb_cons, root_succ, hdiv] at heq
    rw [climbed, hdiv] at hS'
    obtain ⟨hpair, habove⟩ := List.forall_mem_cons.mp hS'
    -- the parents are equal, so their children are
    have hparents := ih (Nat.succ.inj hlength) hhalf
      (fun p hp => hS p (List.mem_append_right _ hp)) habove heq
    rw [getD_merge hhalf] at hparents
    have hchildren := hinj hpair (hS _ (List.mem_append_left _ (mem_pairs hhalf))) hparents
    rcases Nat.mod_two_eq_zero_or_one i with heven | hodd
    · rw [hmod, if_neg (by omega)] at hchildren
      rw [(Prod.mk.inj hchildren).1, show 2 * (i / 2) = i by omega]
    · rw [hmod, if_pos hodd] at hchildren
      rw [(Prod.mk.inj hchildren).2, show 2 * (i / 2) + 1 = i by omega]

end Merkle
