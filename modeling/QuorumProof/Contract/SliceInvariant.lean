import Mathlib.Algebra.Order.BigOperators.Group.List
import Mathlib.Algebra.Order.Ring.Nat
import QuorumProof.Contract.SliceEffects

/-!
# Contract/SliceInvariant — the representation of a slice

A slice is stored four times over: two parallel vectors, the set of its attestors, its total weight,
and a threshold with two meanings.  Nine of the eleven mutators keep the four in step.
`reweight_slice` checks no single weight and leaves the stored total, and `replace_attestor` leaves
the stored set and may put an attestor in twice.
-/

namespace QuorumProof

open Guarded

/-! ## Weights -/

/-- The longest slice whose total weight is sure to fit a `u32`. -/
def maxSliceLength : Nat := 42949672

/-- The vectors of a slice: parallel, not empty, without duplicates, with weights in `1..=100`. -/
structure Balanced (attestors : List Address) (weights : List Nat) : Prop where
  length_eq : weights.length = attestors.length
  nonempty : attestors ≠ []
  length_le : attestors.length ≤ maxSliceLength
  nodup : attestors.Nodup
  weights : ∀ w ∈ weights, 1 ≤ w ∧ w ≤ 100

namespace Balanced

variable {attestors : List Address} {weights : List Nat}

variable (h : Balanced attestors weights)

include h

theorem sum_le : weights.sum ≤ u32Max := by
  have hsum : weights.sum ≤ weights.length * 100 := by
    simpa using List.sum_le_card_nsmul weights 100 fun w hw => (h.weights w hw).2
  have hlength : weights.length ≤ 42949672 := h.length_eq ▸ h.length_le
  have hmax : u32Max = 4294967295 := rfl
  omega

/-- The saturating total is the sum. -/
theorem total_eq : totalSliceWeight weights = weights.sum :=
  foldl_saturatingAdd_eq_sum h.sum_le

theorem sum_pos : 1 ≤ weights.sum := by
  have hlength : weights.length ≤ weights.sum :=
    List.length_le_sum_of_one_le _ fun w hw => (h.weights w hw).1
  have hpos : 0 < attestors.length := List.length_pos_iff.mpr h.nonempty
  rw [h.length_eq] at hlength
  omega

/-- An attestor leaves with their weight, unless they are the last. -/
theorem erase {pos : Nat} (hne : attestors.eraseIdx pos ≠ []) :
    Balanced (attestors.eraseIdx pos) (weights.eraseIdx pos) where
  length_eq := by simp only [List.length_eraseIdx, h.length_eq]
  nonempty := hne
  length_le := (List.eraseIdx_sublist _ _).length_le.trans h.length_le
  nodup := h.nodup.sublist (List.eraseIdx_sublist _ _)
  weights := fun w hw => h.weights w ((List.eraseIdx_sublist _ _).subset hw)

/-- A new attestor joins with a weight. -/
theorem append {a : Address} {w : Nat} (hnew : a ∉ attestors) (hw : 1 ≤ w ∧ w ≤ 100)
    (hroom : attestors.length < maxSliceLength) : Balanced (attestors ++ [a]) (weights ++ [w]) where
  length_eq := by simp [h.length_eq]
  nonempty := by simp
  length_le := by
    rw [List.length_append]
    exact hroom
  nodup := by
    simpa [List.nodup_append, h.nodup] using fun b hb => ne_of_mem_of_not_mem hb hnew
  weights := by
    intro v hv
    rcases List.mem_append.mp hv with hold | hlast
    · exact h.weights v hold
    · exact List.mem_singleton.mp hlast ▸ hw

/-- Other weights of the same number, each in range. -/
theorem reweigh {weights' : List Nat} (hlength : weights'.length = attestors.length)
    (hrange : ∀ w ∈ weights', 1 ≤ w ∧ w ≤ 100) : Balanced attestors weights' :=
  ⟨hlength, h.nonempty, h.length_le, h.nodup, hrange⟩

end Balanced

/-! ## What is stored about a slice -/

variable {type : ThresholdType} {total total' threshold : Nat}

/-- An absolute threshold depends on the total only as an upper bound, a percentage not at all. -/
theorem ThresholdType.Admits.of_reach (h : type.Admits threshold total)
    (hreach : type = .percentage ∨ threshold ≤ total') : type.Admits threshold total' := by
  cases type with
  | absolute => exact ⟨h.1, hreach.resolve_left (by simp)⟩
  | percentage => exact h

theorem ThresholdType.Admits.of_total_le (h : type.Admits threshold total) (hle : total ≤ total') :
    type.Admits threshold total' := by
  cases type with
  | absolute => exact ⟨h.1, h.2.trans hle⟩
  | percentage => exact h

/-- Everything stored about a slice agrees. -/
structure SliceEntry.WellFormed (e : SliceEntry) (id : Nat) (slice : QuorumSlice) : Prop where
  id_eq : slice.id = id
  balanced : Balanced slice.attestors slice.weights
  set_eq : e.set = some slice.attestors.toFinset
  total_eq : e.total = some slice.weights.sum
  admits : e.thresholdType.Admits slice.threshold slice.weights.sum

/-- Everything stored about every slice agrees, and no longer slice can be made. -/
structure SliceBook.Sound (b : SliceBook) : Prop where
  max_le : b.getMaxAttestorsPerSlice ≤ maxSliceLength
  wellFormed : ∀ {id slice}, b.slices id = some slice → (b.entry id).WellFormed id slice

/-- **The required weight of a well-formed slice is positive and within its total**, for either kind
of threshold. -/
theorem SliceEntry.WellFormed.requiredWeight_bounds {b : SliceBook} {id : Nat} {slice : QuorumSlice}
    (h : (b.entry id).WellFormed id slice) :
    1 ≤ b.requiredWeight slice ∧ b.requiredWeight slice ≤ slice.weights.sum := by
  have hadmits : (b.thresholdType id).Admits slice.threshold slice.weights.sum := h.admits
  unfold SliceBook.requiredWeight
  rw [h.id_eq]
  split
  next htype =>
    rw [htype] at hadmits
    exact hadmits
  next htype =>
    rw [htype] at hadmits
    obtain ⟨hlow, hhigh⟩ := hadmits
    rw [h.balanced.total_eq]
    have hpos := h.balanced.sum_pos
    have hmax : slice.weights.sum ≤ 4294967295 := h.balanced.sum_le
    have hprod : slice.weights.sum ≤ slice.weights.sum * slice.threshold :=
      Nat.le_mul_of_pos_right _ hlow
    have hprod' : slice.weights.sum * slice.threshold ≤ slice.weights.sum * 100 :=
      Nat.mul_le_mul_left _ hhigh
    omega

/-! ## The mutators -/

/-- The slice an operation gives new weights by `reweight_slice`, and the weights. -/
def Op.reweighted : Op → Option (Nat × List Nat)
  | slice (.reweightSlice _ sliceId newWeights) => some (sliceId, newWeights)
  | _ => none

/-- The attestor an operation replaces, and the new one. -/
def Op.replaced : Op → Option (Address × Address)
  | slice (.replaceAttestor _ _ oldAttestor newAttestor) => some (oldAttestor, newAttestor)
  | _ => none

/-- The operations that keep the slices in step: a reweighted slice has weights in range and its
stored total, nobody is replaced by somebody else, and no slice is allowed to outgrow `u32`. -/
def Op.KeepsSlices (s : State) (op : Op) : Prop :=
  (∀ change ∈ op.reweighted, (∀ w ∈ change.2, 1 ≤ w ∧ w ≤ 100) ∧
    ∀ slice ∈ s.slices.slices change.1, change.2.sum = slice.weights.sum) ∧
  (∀ change ∈ op.replaced, change.2 = change.1) ∧
  (∀ newMax ∈ op.newMax, newMax ≤ maxSliceLength)
  deriving Decidable

/-- A clamped threshold is admitted by the smaller total. -/
theorem State.clampThreshold_admits (h : type.Admits threshold total) (hpos : 1 ≤ total') :
    type.Admits (clampThreshold type threshold total') total' := by
  cases type with
  | absolute =>
    obtain ⟨hlow, -⟩ := h
    simp only [clampThreshold, true_and, ThresholdType.Admits]
    split <;> omega
  | percentage => exact h

/-- An attestor who takes their own place leaves the list as it is. -/
theorem set_idxOf_self {attestors : List Address} {attestor : Address} (h : attestor ∈ attestors) :
    attestors.set (attestors.idxOf attestor) attestor = attestors := by
  have hpos : attestors.idxOf attestor < attestors.length := List.idxOf_lt_length_iff.mpr h
  conv_rhs => rw [← List.set_getElem_self hpos]
  rw [List.getElem_idxOf hpos]

section Edits

variable {op : SliceOp} {max id : Nat} {slice : QuorumSlice} {e e' : SliceEntry}

/-- Who leaves or joins does so in the record and in the set, unless somebody else takes a place. -/
theorem SliceOp.Edits.enrolled (h : op.Edits max id slice e e')
    (hop : ∀ change ∈ (Op.slice op).replaced, change.2 = change.1)
    (hnodup : slice.attestors.Nodup) (hset : e.set = some slice.attestors.toFinset) :
    ∀ slice' ∈ e'.slice, slice'.attestors.Nodup ∧ e'.set = some slice'.attestors.toFinset := by
  rintro slice' hslice'
  cases h with
  | removed hattestors =>
    cases hslice'
    subst hattestors
    simp only [hset, Option.getD_some, List.eraseIdx_idxOf_eq_erase]
    refine ⟨hnodup.erase _, congrArg some ?_⟩
    ext a
    simp [hnodup.mem_erase_iff]
  | added _ _ hnew =>
    cases hslice'
    simp only [hset, Option.getD_some]
    refine ⟨by simpa using hnodup.concat hnew, congrArg some ?_⟩
    ext a
    simp
  | @replaced _ oldAttestor newAttestor _ hmem =>
    cases hslice'
    obtain rfl : newAttestor = oldAttestor := hop _ rfl
    simp only [set_idxOf_self hmem]
    exact ⟨hnodup, hset⟩
  | _ => exact Option.some.inj hslice' ▸ ⟨hnodup, hset⟩

/-- **An edit keeps what is stored in agreement.**  `reweight_slice` does when every weight is in
range and the total stays, and `replace_attestor` when it changes nothing. -/
theorem SliceEntry.WellFormed.edit {s : State} (h : e.WellFormed id slice)
    (hmax : max ≤ maxSliceLength) (hedits : op.Edits max id slice e e')
    (hop : Op.KeepsSlices s (.slice op)) (hslice : s.slices.slices id = some slice) :
    ∀ slice' ∈ e'.slice, e'.WellFormed id slice' := by
  intro slice' hslice'
  obtain ⟨hid, hbalanced, hset, htotal, hadmits⟩ := h
  obtain ⟨-, hset'⟩ := hedits.enrolled hop.2.1 hbalanced.nodup hset slice' hslice'
  cases hedits with
  | enabled => exact Option.some.inj hslice' ▸ ⟨hid, hbalanced, hset, htotal, hadmits⟩
  | removed hattestors hweights hne =>
    cases hslice'
    subst hattestors hweights
    have hbalanced' := hbalanced.erase hne
    rw [hbalanced'.total_eq]
    exact ⟨hid, hbalanced', hset', congrArg some hbalanced'.total_eq,
      State.clampThreshold_admits hadmits hbalanced'.sum_pos⟩
  | added hroom hweight hnew =>
    cases hslice'
    have hbalanced' := hbalanced.append hnew hweight (hroom.trans_le hmax)
    refine ⟨hid, hbalanced', hset', congrArg some hbalanced'.total_eq, hadmits.of_total_le ?_⟩
    rw [List.sum_append]
    exact Nat.le_add_right _ _
  | @weighed _ _ _ weights hweight hweights hreach =>
    cases hslice'
    have hbalanced' : Balanced slice.attestors weights :=
      hbalanced.reweigh (by rw [← hweights, List.length_set, hbalanced.length_eq]) fun w hw =>
        (List.mem_or_eq_of_mem_set (hweights ▸ hw)).elim (hbalanced.weights w) (· ▸ hweight)
    rw [hbalanced'.total_eq] at hreach
    exact ⟨hid, hbalanced', hset, congrArg some hbalanced'.total_eq, hadmits.of_reach hreach⟩
  | absolute hpos hle =>
    cases hslice'
    exact ⟨hid, hbalanced, hset, htotal, hpos, hle.trans_eq hbalanced.total_eq⟩
  | percentage hrange =>
    cases hslice'
    exact ⟨hid, hbalanced, hset, htotal, hrange⟩
  | rebalanced hlength hweights hadmits' =>
    cases hslice'
    have hbalanced' := hbalanced.reweigh hlength hweights
    rw [hbalanced'.total_eq] at hadmits'
    exact ⟨hid, hbalanced', hset, congrArg some hbalanced'.total_eq, hadmits'⟩
  | reweighed hlength =>
    cases hslice'
    obtain ⟨hrange, hsum⟩ := hop.1 _ rfl
    have hsame := hsum slice hslice
    exact ⟨hid, hbalanced.reweigh hlength hrange, hset, htotal.trans (congrArg some hsame.symm),
      hadmits.of_total_le hsame.ge⟩
  | @replaced _ oldAttestor newAttestor weight hmem hweight =>
    cases hslice'
    obtain rfl : newAttestor = oldAttestor := hop.2.1 _ rfl
    have hweights : (slice.weights.take slice.attestors.length).set
        (slice.attestors.idxOf newAttestor) weight = slice.weights := by
      obtain ⟨hlt, heq⟩ := List.getElem?_eq_some_iff.mp hweight
      rw [List.take_of_length_le hbalanced.length_eq.le, ← heq, List.set_getElem_self hlt]
    rw [set_idxOf_self hmem, hweights]
    exact ⟨hid, hbalanced, hset, htotal, hadmits⟩

end Edits

/-! ## Whole runs -/

/-- **Slices stay in step**, one operation at a time. -/
theorem Op.slices_sound (env : Env) {s : State} {op : Op} (hop : op.KeepsSlices s)
    (h : s.slices.Sound) : Ensures (op.apply env s) fun s' => s'.slices.Sound := by
  refine op.keeps_book (P := SliceBook.Sound) env (fun _ h => ⟨h.max_le, h.wellFormed⟩) ?_ h
  rintro op rfl s' hstep
  constructor
  · rw [SliceBook.getMaxAttestorsPerSlice, hstep.max]
    cases hmax : (Op.slice op).newMax with
    | none => exact h.max_le
    | some newMax => exact hop.2.2 newMax hmax
  · have hall := hstep.book.forall_entry
      (P := fun id e => ∀ slice ∈ e.slice, e.WellFormed id slice) (fun _ _ => h.wellFormed) ?_
      fun _ _ _ hslice hedits => (h.wellFormed hslice).edit h.max_le hedits hop hslice
    · exact @fun _ _ hk => hall _ _ hk
    · rintro slice type haccepts - _ ⟨⟩
      have hbalanced : Balanced slice.attestors slice.weights := ⟨haccepts.length_eq,
        haccepts.nonempty, haccepts.length_le.trans h.max_le, haccepts.nodup, haccepts.weights⟩
      exact ⟨haccepts.id_eq, hbalanced, rfl, congrArg some hbalanced.total_eq,
        hbalanced.total_eq ▸ haccepts.admits⟩

theorem State.empty_slices_sound : State.empty.slices.Sound :=
  ⟨by decide, nofun⟩

/-- The representation invariant of a slice: parallel vectors without duplicates, weights in range,
and the stored set, the stored total and the required weight as the vectors have it. -/
structure SliceBook.Represents (b : SliceBook) (id : Nat) (slice : QuorumSlice) : Prop where
  length_eq : slice.attestors.length = slice.weights.length
  length_ne_zero : slice.attestors.length ≠ 0
  nodup : slice.attestors.Nodup
  weights : ∀ w ∈ slice.weights, 1 ≤ w ∧ w ≤ 100
  set_eq : b.attestorSet id = some slice.attestors.toFinset
  total_eq : b.sliceTotalWeight id = some slice.weights.sum
  requiredWeight_pos : 1 ≤ b.requiredWeight slice
  requiredWeight_le : b.requiredWeight slice ≤ slice.weights.sum

theorem SliceEntry.WellFormed.represents {b : SliceBook} {id : Nat} {slice : QuorumSlice}
    (h : (b.entry id).WellFormed id slice) : b.Represents id slice where
  length_eq := h.balanced.length_eq.symm
  length_ne_zero := fun h0 => h.balanced.nonempty (List.length_eq_zero_iff.mp h0)
  nodup := h.balanced.nodup
  weights := h.balanced.weights
  set_eq := h.set_eq
  total_eq := h.total_eq
  requiredWeight_pos := h.requiredWeight_bounds.1
  requiredWeight_le := h.requiredWeight_bounds.2

namespace World

open Sample

/-- **Every slice is stored consistently** in every run in which `reweight_slice` gives weights in
range with the stored total, `replace_attestor` replaces nobody by somebody else, and the maximum
number of attestors stays within what a `u32` total can hold. -/
theorem slice_representation (host : Host) (calls : List Call)
    (h : Machine.Along (next host) (Meets fun s op => op.KeepsSlices s) deployed calls) :
    ∀ id slice, (after host calls).state.slices.slices id = some slice →
      (after host calls).state.slices.Represents id slice := by
  have hsound : (after host calls).state.slices.Sound :=
    h.invariant (I := fun w : World => w.state.slices.Sound)
      (fun w call hw hop => next_of_ensures (Op.slices_sound (w.env host call) hop hw) hw)
      State.empty_slices_sound
  exact fun id slice hslice => (hsound.wellFormed hslice).represents

/-- A slice that gains an attestor, is reweighted within its total, and loses an attestor. -/
theorem slice_representation_mutated :
    ∃ calls slice, (after host calls).state.slices.slices 1 = some slice ∧
      slice.attestors = [bob] ∧
      (after host calls).state.slices.Represents 1 slice :=
  ⟨[createSlice [alice] [10] 10,
      call admin (.slice (.addAttestor admin 1 bob 20)),
      call admin (.slice (.reweightSlice admin 1 [15, 15])),
      call admin (.slice (.removeAttestor admin 1 alice))],
    _, rfl, by decide, slice_representation _ _ (by decide) 1 _ rfl⟩

/-- **A replaced attestor is missing from the stored set.** -/
theorem not_slice_representation :
    ¬ ∀ (host : Host) (calls : List Call) (id : Nat) (slice : QuorumSlice),
      (after host calls).state.slices.slices id = some slice →
      (after host calls).state.slices.Represents id slice := by
  intro h
  have hrun := h host [createSlice [alice] [10] 10,
    call admin
      (.slice (.replaceAttestor admin 1 alice bob))] 1 _ rfl
  exact absurd hrun.set_eq (by decide)

end World

end QuorumProof
