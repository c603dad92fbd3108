import QuorumProof.Lib.QuorumSystem
import QuorumProof.Contract.Entry
import Mathlib.Algebra.Order.BigOperators.Group.List

/-!
# Contract/Intersection — what an intersection certificate shows

`check_quorum_intersection` is given a set of nodes and checks that it is a quorum of every listed
slice: a common quorum exists.  That is weaker than any two quorums having a common member; the
second holds exactly when no split of the listed slices' attestors satisfies a slice on each side
(`intersects_iff_splitFree`), which the contract does not look for.

Source: `is_quorum`, `check_quorum_intersection`.
-/

namespace QuorumProof

open Guarded QuorumSystem

/-! ## The check -/

structure QuorumIntersectionCertificate where
  sliceIds : List Nat
  safeNodes : List Address
  proofHash : Bytes
  signature : Option Bytes
  deriving DecidableEq, Repr

structure IntersectionReport where
  isSafe : Bool
  commonNodes : List Address
  partitionCount : Nat
  proofHash : Bytes
  certificateVersion : Nat
  deriving DecidableEq, Repr

def maxSlicesPerIntersectionCheck : Nat := 100

namespace State

variable (s : State)

/-- `is_quorum`, without the count of verifications it keeps. -/
def isQuorum (sliceId : Nat) (candidates : List Address) : Except Fault Bool :=
  s.isQuorumImpl candidates (maxSliceDepth + 1) sliceId

variable (sliceIds : List Nat)

/-- `check_quorum_intersection`; the report it also stores is read by nobody. -/
def checkQuorumIntersection (certificate : QuorumIntersectionCertificate) :
    Except Fault IntersectionReport := do
  require (sliceIds.length ≤ maxSlicesPerIntersectionCheck ∧
    certificate.sliceIds.length = sliceIds.length) (.contract .invalidInput)
  sliceIds.zipIdx.forM fun entry =>
    require (certificate.sliceIds[entry.2]? = some entry.1) (.contract .invalidInput)
  sliceIds.forM fun sliceId => do
    let quorum ← s.isQuorum sliceId certificate.safeNodes
    require (quorum = true) (.contract .quorumIntersectionFailed)
  return {
    isSafe := true
    commonNodes := certificate.safeNodes
    partitionCount := 0
    proofHash := certificate.proofHash
    certificateVersion := 1 }

/-! ## Who a quorum can be made of -/

/-- The attestors `is_quorum_impl` looks at: of the slice, or of the leaves under a nested one. -/
def quorumMembers (s : State) : Nat → Nat → List Address
  | 0, _ => []
  | fuel + 1, sliceId =>
    match s.slices.nestedSliceNode sliceId with
    | some node =>
      if node.isNested = false then node.attestors
      else node.childSliceIds.flatMap (s.quorumMembers fuel)
    | none =>
      match s.slices.slices sliceId with
      | some slice => slice.attestors
      | none => []

/-- What an attestor adds to the weight of the candidates. -/
def candidateShare (sliceId : Nat) (candidates : List Address) (weights : List Nat)
    (entry : Address × Nat) : Nat :=
  if entry.1 ∈ candidates ∧ s.discipline.isAttestorSuspended sliceId entry.1 = false then
    weights[entry.2]?.getD 0
  else 0

theorem candidateWeight_eq_min (sliceId : Nat) (candidates attestors : List Address)
    (weights : List Nat) :
    s.candidateWeight sliceId candidates attestors weights
      = min (attestors.zipIdx.map (s.candidateShare sliceId candidates weights)).sum u32Max := by
  rw [candidateWeight, foldl_eq_min_sum u32Max (w := s.candidateShare sliceId candidates weights)
    (fun total htotal entry _ => ?_) (Nat.zero_le _), Nat.zero_add]
  rw [candidateShare]
  split
  · rfl
  · rw [saturatingAdd_zero htotal]

theorem candidateWeight_mono {s : State} {sliceId : Nat} {Q Q' attestors : List Address}
    {weights : List Nat} (h : ∀ a ∈ attestors, a ∈ Q → a ∈ Q') :
    s.candidateWeight sliceId Q attestors weights
      ≤ s.candidateWeight sliceId Q' attestors weights := by
  rw [candidateWeight_eq_min, candidateWeight_eq_min]
  refine min_le_min_right _ (List.sum_le_sum fun entry hentry => ?_)
  have hmember : entry.1 ∈ attestors := by
    obtain ⟨-, hget⟩ := List.mem_zipIdx' hentry
    exact hget ▸ List.getElem_mem _
  unfold candidateShare
  split
  next hcounted => rw [if_pos ⟨h _ hmember hcounted.1, hcounted.2⟩]
  next => exact Nat.zero_le _

/-- **A quorum is made of its slice's attestors**: `is_quorum_impl` looks at nobody else, and more
of them do not hurt. -/
theorem supported_isQuorumImpl (fuel sliceId : Nat) :
    Supported (s.quorumMembers fuel sliceId)
      fun Q => s.isQuorumImpl Q fuel sliceId = .ok true := by
  induction fuel generalizing sliceId with
  | zero => exact fun _ _ _ h => absurd h (by simp [isQuorumImpl])
  | succ fuel ih =>
    intro Q Q' hQ hquorum
    rw [isQuorumImpl] at hquorum ⊢
    rw [quorumMembers] at hQ
    cases hnode : s.slices.nestedSliceNode sliceId with
    | none =>
      simp only [hnode, bind_eq_ok, getSlice_eq_ok, pure_eq_ok, decide_eq_true_eq] at hquorum ⊢
      obtain ⟨slice, hslice, hreached⟩ := hquorum
      rw [hnode, hslice] at hQ
      exact ⟨slice, hslice, hreached.trans (candidateWeight_mono hQ)⟩
    | some node =>
      simp only [hnode, bind_eq_ok, require_eq_ok] at hquorum ⊢ hQ
      obtain ⟨⟨⟩, hdepth, hquorum⟩ := hquorum
      refine ⟨(), hdepth, ?_⟩
      by_cases hflat : node.isNested = false
      · rw [if_pos hflat, pure_eq_ok, decide_eq_true_eq] at hquorum ⊢
        rw [if_pos hflat] at hQ
        exact hquorum.trans (candidateWeight_mono hQ)
      · rw [if_neg hflat, allM_eq_ok_true] at hquorum ⊢
        rw [if_neg hflat] at hQ
        intro child hchild
        refine ih child Q Q' (fun a ha => hQ a ?_) (hquorum child hchild)
        exact List.mem_flatMap.mpr ⟨child, hchild, ha⟩

/-! ## Splits -/

/-- The attestors of the listed slices. -/
def listedMembers : List Address :=
  sliceIds.flatMap (s.quorumMembers (maxSliceDepth + 1))

/-- No split of the listed slices' attestors has a quorum of a listed slice on each side. -/
def SplitFree : Prop :=
  ∀ side ∈ (s.listedMembers sliceIds).sublists, ∀ i ∈ sliceIds, ∀ j ∈ sliceIds,
    s.isQuorum i side = .ok true →
      s.isQuorum j (otherSide (s.listedMembers sliceIds) side) ≠ .ok true
  deriving Decidable

/-- Any two quorums of two listed slices have a common member. -/
def QuorumsIntersect : Prop :=
  ∀ i ∈ sliceIds, ∀ j ∈ sliceIds,
    Intersects (fun Q => s.isQuorum i Q = .ok true) fun Q => s.isQuorum j Q = .ok true

theorem supported_isQuorum {sliceIds : List Nat} {i : Nat} (hi : i ∈ sliceIds) :
    Supported (s.listedMembers sliceIds) fun Q => s.isQuorum i Q = .ok true :=
  (s.supported_isQuorumImpl (maxSliceDepth + 1) i).mono fun _ ha =>
    List.mem_flatMap.mpr ⟨i, hi, ha⟩

theorem intersects_iff_splitFree : s.QuorumsIntersect sliceIds ↔ s.SplitFree sliceIds := by
  constructor
  · intro h side hside i hi j hj
    have hsplit := intersects_iff_forall_split (s.supported_isQuorum hi) (s.supported_isQuorum hj)
    exact hsplit.mp (h i hi j hj) side hside
  · intro h i hi j hj
    refine (intersects_iff_forall_split (s.supported_isQuorum hi) (s.supported_isQuorum hj)).mpr ?_
    exact fun side hside => h side hside i hi j hj

end State

/-! ## Certificates in every reachable state -/

/-- **An accepted certificate shows a common quorum of the listed slices**, and whether any two of
their quorums have a common member is a question of the splits of their attestors. -/
theorem World.certificate_common_quorum (host : Host) (calls : List Call) (sliceIds : List Nat)
    (certificate : QuorumIntersectionCertificate) (report : IntersectionReport)
    (h : (after host calls).state.checkQuorumIntersection sliceIds certificate = .ok report) :
    report.isSafe = true ∧ report.commonNodes = certificate.safeNodes ∧
      (∀ i ∈ sliceIds, (after host calls).state.isQuorum i report.commonNodes = .ok true) ∧
      ((after host calls).state.QuorumsIntersect sliceIds ↔
        (after host calls).state.SplitFree sliceIds) := by
  simp only [State.checkQuorumIntersection, bind_eq_ok, forM_eq_ok, require_eq_ok, pure_eq_ok] at h
  obtain ⟨-, -, -, -, -, hquorums, rfl⟩ := h
  refine ⟨rfl, rfl, fun i hi => ?_, State.intersects_iff_splitFree _ sliceIds⟩
  obtain ⟨quorum, hquorum, htrue⟩ := hquorums i hi
  rw [hquorum, htrue]

namespace Sample

/-- A slice of one attestor and a slice of two, each satisfied by one of its attestors. -/
def twoSlices : List Call :=
  [initialized, createSlice [alice] [1] 1, createSlice [alice, bob] [1, 1] 1]

/-- The certificate of their common attestor. -/
def certificate : QuorumIntersectionCertificate :=
  { sliceIds := [1, 2], safeNodes := [alice], proofHash := [], signature := none }

end Sample

open Sample

theorem World.certificate_common_quorum_two :
    (after host twoSlices).state.isQuorum 2 [alice] = .ok true ∧
      ¬ (after host twoSlices).state.QuorumsIntersect [1, 2] := by
  obtain ⟨-, -, hquorums, hsplit⟩ := certificate_common_quorum host twoSlices [1, 2]
    certificate ⟨true, [alice], 0, [], 1⟩ (by decide +kernel)
  exact ⟨hquorums 2 (by decide), fun h => absurd (hsplit.mp h) (by decide +kernel)⟩

/-- **A report says safe of slices with disjoint quorums.** -/
theorem World.not_quorumsIntersect_of_isSafe :
    ¬ ∀ (host : Host) (calls : List Call) (sliceIds : List Nat)
      (certificate : QuorumIntersectionCertificate) (report : IntersectionReport),
      (after host calls).state.checkQuorumIntersection sliceIds certificate = .ok report →
        report.isSafe = true → (after host calls).state.QuorumsIntersect sliceIds := by
  intro h
  have hmeet := h host twoSlices [1, 2] certificate
    ⟨true, [alice], 0, [], 1⟩ (by decide +kernel) rfl
  obtain ⟨a, ha, ha'⟩ := hmeet 1 (by decide) 2 (by decide) [alice] [bob]
    (by decide +kernel) (by decide +kernel)
  rw [List.mem_singleton] at ha ha'
  exact absurd (ha.symm.trans ha') (by decide)

end QuorumProof
