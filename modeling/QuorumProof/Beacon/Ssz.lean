import QuorumProof.Contract.Types
import QuorumProof.Lib.LittleEndian
import QuorumProof.Lib.Merkle

/-!
# Beacon/Ssz — hash tree roots and Merkle branches

The merkleization of fixed-shape containers: 32-byte chunks are the leaves of a binary tree, padded
with zero chunks to a power of two, under SHA-256 of two nodes in a row.  A chunk of another length
is refused, so what is hashed is always a pair of 32-byte nodes; that is what makes a root bind its
chunks (`Crypto.merkleize_injOn`).

Source: `ssz.ts`.
-/

namespace QuorumProof.Beacon

open Guarded

/-- What the light client throws: an error of its own, or any other. -/
inductive Thrown
  | lightClient (message : String)
  | error (message : String)
  deriving DecidableEq, Repr

/-- The primitives that come from outside: SHA-256, and the verification of a BLS signature under
the aggregate of some keys, which is false where the library throws. -/
structure Crypto where
  sha256 : Bytes → Bytes
  length_sha256 : ∀ input, (sha256 input).length = 32
  verifyAggregate : (pubkeys : List Bytes) → (message signature : Bytes) → Bool

def zeroChunk : Bytes := List.replicate 32 0

def floorLog2 (n : Nat) : Nat := n.log2

def nextPowerOfTwo (n : Nat) : Nat := if n ≤ 1 then 1 else 2 ^ ((n - 1).log2 + 1)

/-- `packUint64`: what does not fit into 64 bits is dropped. -/
def packUint64 (value : Nat) : Bytes := LittleEndian.toBytes 8 value ++ List.replicate 24 0

/-- `packBytes`, for at most 32 bytes. -/
def packBytes (bytes : Bytes) : Bytes := bytes ++ List.replicate (32 - bytes.length) 0

/-- The 32-byte chunks of a byte string, the last one padded. -/
def chunksOf (bytes : Bytes) : List Bytes :=
  (List.range ((bytes.length + 31) / 32)).map fun i => packBytes ((bytes.drop (32 * i)).take 32)

namespace Crypto

variable (crypto : Crypto)

/-- A node above two others. -/
def node (left right : Bytes) : Bytes := crypto.sha256 (left ++ right)

def merkleize (chunks : List Bytes) : Except Thrown Bytes :=
  if chunks = [] then .ok (Merkle.zeroHash crypto.node zeroChunk 0)
  else do
    chunks.forM fun chunk => require (chunk.length = 32)
      (.error s!"merkleize: every chunk must be 32 bytes, got {chunk.length}")
    let width := nextPowerOfTwo chunks.length
    return Merkle.root crypto.node zeroChunk (floorLog2 width) 0 chunks

def hashTreeRootBytes (bytes : Bytes) : Except Thrown Bytes := crypto.merkleize (chunksOf bytes)

def verifyMerkleBranch (leaf : Bytes) (branch : List Bytes) (gindex : Nat) (root : Bytes) : Bool :=
  decide (branch.length = gindex.log2 ∧ Merkle.climb crypto.node gindex leaf branch = root)

/-- What is hashed for the root of some chunks. -/
def hashedInputs (chunks : List Bytes) : List Bytes :=
  (Merkle.hashed crypto.node zeroChunk (floorLog2 (nextPowerOfTwo chunks.length)) 0 chunks).map
    fun p => p.1 ++ p.2

variable {crypto}

theorem merkleize_eq_ok {chunks : List Bytes} {root : Bytes} (hchunks : chunks ≠ []) :
    crypto.merkleize chunks = .ok root ↔ (∀ chunk ∈ chunks, chunk.length = 32) ∧
      Merkle.root crypto.node zeroChunk (floorLog2 (nextPowerOfTwo chunks.length)) 0 chunks =
        root := by
  simp only [merkleize, if_neg hchunks, bind_eq_ok, forM_eq_ok, require_eq_ok, pure_eq_ok,
    exists_const]

/-- Both nodes of a pair are 32 bytes long, so the pair is read off what is hashed. -/
theorem node_injOn {S : Set Bytes} (hinj : S.InjOn crypto.sha256) :
    Set.InjOn (fun p : Bytes × Bytes => crypto.node p.1 p.2)
      {p | p.1.length = 32 ∧ p.1 ++ p.2 ∈ S} := by
  rintro ⟨l, r⟩ ⟨hl, hlr⟩ ⟨l', r'⟩ ⟨hl', hlr'⟩ hnode
  obtain ⟨rfl, rfl⟩ := List.append_inj (hinj hlr hlr' hnode) (hl.trans hl'.symm)
  rfl

theorem length_of_mem_hashed {chunks : List Bytes} {depth : Nat} {p : Bytes × Bytes}
    (hchunks : ∀ chunk ∈ chunks, chunk.length = 32)
    (hp : p ∈ Merkle.hashed crypto.node zeroChunk depth 0 chunks) : p.1.length = 32 :=
  (Merkle.forall_hashed (P := fun node => node.length = 32) rfl
    (fun _ _ => crypto.length_sha256 _) hchunks p hp).1

/-- **A root binds its chunks**, where no two inputs that were hashed have the same digest. -/
theorem merkleize_injOn {chunks chunks' : List Bytes} {root : Bytes} {S : Set Bytes}
    (hinj : S.InjOn crypto.sha256) (hS : ∀ x ∈ crypto.hashedInputs chunks, x ∈ S)
    (hS' : ∀ x ∈ crypto.hashedInputs chunks', x ∈ S) (hlength : chunks.length = chunks'.length)
    (hroot : crypto.merkleize chunks = .ok root) (hroot' : crypto.merkleize chunks' = .ok root)
    {i : Nat} (hi : i < 2 ^ floorLog2 (nextPowerOfTwo chunks.length)) :
    chunks.getD i zeroChunk = chunks'.getD i zeroChunk := by
  rcases eq_or_ne chunks [] with rfl | hne
  · obtain rfl := List.eq_nil_of_length_eq_zero hlength.symm
    rfl
  have hne' : chunks' ≠ [] := fun heq =>
    hne (List.eq_nil_of_length_eq_zero (by simp [hlength, heq]))
  obtain ⟨hchunks, heq⟩ := (merkleize_eq_ok hne).mp hroot
  obtain ⟨hchunks', heq'⟩ := (merkleize_eq_ok hne').mp hroot'
  rw [← hlength] at heq'
  refine Merkle.root_injOn (node_injOn hinj)
    (fun p hp => ⟨length_of_mem_hashed hchunks hp, hS _ ?_⟩)
    (fun p hp => ⟨length_of_mem_hashed hchunks' hp, hS' _ ?_⟩) (heq.trans heq'.symm) hi
  · exact List.mem_map_of_mem hp
  · rw [hashedInputs, ← hlength]
    exact List.mem_map_of_mem hp

end Crypto

theorem packUint64_inj {m n : Nat} (h : packUint64 m = packUint64 n) : m % 2 ^ 64 = n % 2 ^ 64 := by
  have hbytes := List.append_cancel_right h
  simpa [LittleEndian.ofBytes_toBytes] using congrArg LittleEndian.ofBytes hbytes

end QuorumProof.Beacon
