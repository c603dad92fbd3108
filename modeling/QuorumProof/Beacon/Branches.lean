import QuorumProof.Beacon.ChainOfTrust
import Mathlib.Order.Bounds.Basic

/-!
# Beacon/Branches — what a Merkle branch proves

A root is folded from rows of chunks, a branch is folded along the bits of a generalized index.
The two meet at every leaf of the padded tree: `Crypto.verifyMerkleBranch` accepts the chunk that
stands there with the siblings on its way, and nothing else with any siblings.
-/

namespace QuorumProof.Beacon

/-- **`nextPowerOfTwo` is the least power of two that is not less.** -/
theorem isLeast_nextPowerOfTwo (n : Nat) :
    IsLeast {w | n ≤ w ∧ ∃ d, w = 2 ^ d} (nextPowerOfTwo n) := by
  unfold nextPowerOfTwo
  split
  next hn => exact ⟨⟨hn, 0, rfl⟩, by rintro _ ⟨-, d, rfl⟩; exact Nat.one_le_two_pow⟩
  next hn =>
    refine ⟨⟨?_, _, rfl⟩, ?_⟩
    · have := Nat.lt_log2_self (n := n - 1)
      omega
    · rintro _ ⟨hle, d, rfl⟩
      refine Nat.pow_le_pow_right (by decide) ((Nat.log2_lt (by omega)).mpr ?_)
      omega

namespace Crypto

variable {crypto : Crypto}

/-- What is hashed along a branch. -/
def branchInputs (crypto : Crypto) (leaf : Bytes) (branch : List Bytes) (gindex : Nat) :
    List Bytes :=
  (Merkle.climbed crypto.node gindex leaf branch).map fun p => p.1 ++ p.2

/-- **A branch proves the chunk at its place, and no other**: every chunk of the padded tree has a
branch under its generalized index, and what a branch of 32-byte siblings is accepted for there is
that chunk, where no two inputs that were hashed have the same digest. -/
theorem verifyMerkleBranch_merkleize (crypto : Crypto) (chunks : List Bytes) (w : Nat)
    (hchunks : ∀ chunk ∈ chunks, chunk.length = 32) (hpos : 1 ≤ chunks.length)
    (hw : IsLeast {w | chunks.length ≤ w ∧ ∃ d, w = 2 ^ d} w) :
    ∃ root, crypto.merkleize chunks = .ok root ∧ ∀ i < w,
      (∃ branch : List Bytes, branch.length = w.log2 ∧
        (∀ sibling ∈ branch, sibling.length = 32) ∧
        crypto.verifyMerkleBranch (chunks.getD i zeroChunk) branch (w + i) root = true) ∧
      ∀ leaf branch, leaf.length = 32 → (∀ sibling ∈ branch, sibling.length = 32) →
        {x | x ∈ crypto.hashedInputs chunks ∨
          x ∈ crypto.branchInputs leaf branch (w + i)}.InjOn crypto.sha256 →
        crypto.verifyMerkleBranch leaf branch (w + i) root = true →
        leaf = chunks.getD i zeroChunk := by
  obtain rfl := hw.unique (isLeast_nextPowerOfTwo chunks.length)
  have hne : chunks ≠ [] := List.ne_nil_of_length_pos hpos
  refine ⟨_, (merkleize_eq_ok hne).mpr ⟨hchunks, rfl⟩, fun i hi => ?_⟩
  obtain ⟨-, d, hd⟩ := hw.1
  simp only [hashedInputs, floorLog2, hd, Nat.log2_two_pow] at hi ⊢
  have hlog : (2 ^ d + i).log2 = d := by
    rw [Nat.log2_eq_iff (by omega), Nat.pow_succ]
    omega
  have hdigest : ∀ l r, (crypto.node l r).length = 32 := fun _ _ => crypto.length_sha256 _
  constructor
  · refine ⟨Merkle.branch crypto.node zeroChunk d 0 i chunks, Merkle.length_branch _ _ _ _,
      Merkle.forall_branch (P := fun node : Bytes => node.length = 32) rfl hdigest hchunks i, ?_⟩
    simp only [verifyMerkleBranch, decide_eq_true_eq, hlog, Merkle.length_branch, true_and]
    exact Merkle.climb_branch 0 hi
  · intro leaf branch hleaf hsiblings hinj haccepted
    simp only [verifyMerkleBranch, decide_eq_true_eq, hlog] at haccepted
    have hclimbed := Merkle.forall_climbed (P := fun node : Bytes => node.length = 32) hdigest
      hleaf hsiblings (2 ^ d + i)
    exact Merkle.eq_of_climb_eq_root (node_injOn hinj) haccepted.1 hi
      (fun p hp => ⟨length_of_mem_hashed hchunks hp, .inl (List.mem_map_of_mem hp)⟩)
      (fun p hp => ⟨(hclimbed p hp).1, .inr (List.mem_map_of_mem hp)⟩) haccepted.2

end Crypto

namespace Sample

def chunk (byte : UInt8) : Bytes := List.replicate 32 byte

/-- A hash that weighs every byte of its input. -/
def mixing : Crypto where
  sha256 input := List.replicate 31 0 ++ [input.foldl (5 * · + ·) 1]
  length_sha256 _ := rfl
  verifyAggregate _ _ _ := true

end Sample

open Beacon.Sample in
/-- Three chunks are padded with a fourth, which has a branch of its own; the branch of the second
does not prove the third in its place. -/
theorem Crypto.verifyMerkleBranch_padding :
    ∃ root, mixing.merkleize [chunk 1, chunk 2, chunk 4] = .ok root ∧
      (∃ branch, branch.length = 2 ∧ mixing.verifyMerkleBranch zeroChunk branch 7 root = true) ∧
      ¬ mixing.verifyMerkleBranch (chunk 4) [chunk 1, mixing.node (chunk 4) zeroChunk] 5 root
        = true := by
  obtain ⟨root, hroot, hplaces⟩ := Crypto.verifyMerkleBranch_merkleize mixing
    [chunk 1, chunk 2, chunk 4] 4 (by decide) (by decide) (isLeast_nextPowerOfTwo 3)
  obtain ⟨⟨branch, hlength, -, haccepted⟩, -⟩ := hplaces 3 (by decide)
  refine ⟨root, hroot, ⟨branch, hlength, haccepted⟩, fun hforged => ?_⟩
  have hdigests : ∀ x ∈ mixing.hashedInputs [chunk 1, chunk 2, chunk 4] ++
      mixing.branchInputs (chunk 4) [chunk 1, mixing.node (chunk 4) zeroChunk] 5,
      ∀ y ∈ mixing.hashedInputs [chunk 1, chunk 2, chunk 4] ++
        mixing.branchInputs (chunk 4) [chunk 1, mixing.node (chunk 4) zeroChunk] 5,
      mixing.sha256 x = mixing.sha256 y → x = y := by
    decide +kernel
  have hleaf := (hplaces 1 (by decide)).2 (chunk 4) _ rfl (by decide)
    (fun x hx y hy => hdigests x (List.mem_append.mpr hx) y (List.mem_append.mpr hy)) hforged
  exact absurd hleaf (by decide)

end QuorumProof.Beacon
