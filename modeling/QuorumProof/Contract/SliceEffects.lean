import QuorumProof.Contract.Footprint

/-!
# Contract/SliceEffects — what an operation writes about a slice

An operation on slices writes at most one slice, which it creates or finds, and removes the cached
answers of at most one.  The two are listed side by side here: where an operation writes a slice
and removes no answer, the answers about it stay.
-/

namespace QuorumProof

open Guarded

/-- The slice an operation writes. -/
def SliceOp.written (s : State) : SliceOp → Option Nat
  | createSlice .. | createSlicePercentage .. | createSliceFromTemplate .. =>
    some (s.slices.sliceCount + 1)
  | setReputationWeightingEnabled _ sliceId _ | removeAttestor _ sliceId _
  | addAttestor _ sliceId _ _ | updateAttestorWeight _ sliceId _ _
  | updateSliceThreshold _ sliceId _ | updatePercentageThreshold _ sliceId _
  | rebalanceSlice _ sliceId _ _ | reweightSlice _ sliceId _ | replaceAttestor _ sliceId _ _ =>
    some sliceId
  | setMaxAttestorsPerSlice .. | enableAttestorIndependence .. | disableAttestorIndependence ..
  | delegateSliceVote .. | revokeSliceDelegation .. | createSliceTemplate ..
  | updateTemplateDefaults .. => none

/-- The slice an operation removes the cached answers of. -/
def SliceOp.invalidated : SliceOp → Option Nat
  | removeAttestor _ sliceId _ | updateSliceThreshold _ sliceId _
  | updatePercentageThreshold _ sliceId _ | rebalanceSlice _ sliceId _ _ => some sliceId
  | _ => none

/-- The number of attestors an operation allows in a slice. -/
def Op.newMax : Op → Option Nat
  | slice (.setMaxAttestorsPerSlice _ newMax) => some newMax
  | _ => none

/-- The thresholds of a type that a total weight admits. -/
def ThresholdType.Admits (type : ThresholdType) (threshold total : Nat) : Prop :=
  match type with
  | .absolute => 1 ≤ threshold ∧ threshold ≤ total
  | .percentage => 1 ≤ threshold ∧ threshold ≤ 100

variable {type : ThresholdType} {total threshold : Nat} {s : State}

theorem ThresholdType.Admits.le (h : type.Admits threshold total) (htotal : total ≤ u32Max) :
    threshold ≤ u32Max := by
  cases type with
  | absolute => exact h.2.trans htotal
  | percentage => exact h.2.trans (by decide)

theorem totalSliceWeight_le (weights : List Nat) : totalSliceWeight weights ≤ u32Max := by
  rw [totalSliceWeight, foldl_saturatingAdd]
  exact Nat.min_le_right _ _

/-! ## What is stored about a slice -/

/-- What is stored about a slice: its record, and beside it the type of its threshold, the set of
its attestors and its total weight. -/
structure SliceEntry where
  slice : Option QuorumSlice
  type : Option ThresholdType
  set : Option (Finset Address)
  total : Option Nat

namespace SliceEntry

/-- What is stored about a new slice. -/
def new (slice : QuorumSlice) (type : ThresholdType) : SliceEntry where
  slice := some slice
  type := some type
  set := some slice.attestors.toFinset
  total := some (totalSliceWeight slice.weights)

/-- Another record, and its total weight. -/
def weigh (e : SliceEntry) (slice : QuorumSlice) : SliceEntry :=
  { e with slice := some slice, total := some (totalSliceWeight slice.weights) }

def thresholdType (e : SliceEntry) : ThresholdType := e.type.getD .absolute

end SliceEntry

namespace SliceBook

def entry (b : SliceBook) (id : Nat) : SliceEntry where
  slice := b.slices id
  type := b.sliceThresholdType id
  set := b.attestorSet id
  total := b.sliceTotalWeight id

section Setters

variable (b : SliceBook) (id : Nat)

theorem entry_eq_update {b b' : SliceBook} {id : Nat} {e : SliceEntry} (hself : b'.entry id = e)
    (hother : ∀ k ≠ id, b'.entry k = b.entry k) : b'.entry = Function.update b.entry id e :=
  Function.eq_update_iff.mpr ⟨hself, hother⟩

@[simp] theorem entry_putSlice (slice : QuorumSlice) :
    (b.putSlice id slice).entry =
      Function.update b.entry id { b.entry id with slice := some slice } :=
  entry_eq_update (by simp [entry, putSlice]) fun k hk => by
    simp [entry, putSlice, Store.set_of_ne hk]

@[simp] theorem entry_setSliceWeightCache (total : Nat) :
    (b.setSliceWeightCache id total).entry =
      Function.update b.entry id { b.entry id with total := some total } :=
  entry_eq_update (by simp [entry, setSliceWeightCache]) fun k hk => by
    simp [entry, setSliceWeightCache, Store.set_of_ne hk]

@[simp] theorem entry_setThresholdType (type : ThresholdType) :
    (b.setThresholdType id type).entry =
      Function.update b.entry id { b.entry id with type := some type } :=
  entry_eq_update (by simp [entry, setThresholdType]) fun k hk => by
    simp [entry, setThresholdType, Store.set_of_ne hk]

@[simp] theorem entry_setAttestorSet (set : Finset Address) :
    (b.setAttestorSet id set).entry =
      Function.update b.entry id { b.entry id with set := some set } :=
  entry_eq_update (by simp [entry, setAttestorSet]) fun k hk => by
    simp [entry, setAttestorSet, Store.set_of_ne hk]

@[simp] theorem entry_setCount (count : Nat) : { b with sliceCount := count }.entry = b.entry := rfl

end Setters

/-- Every slice is stored under its own id, with a threshold type. -/
structure Registered (b : SliceBook) : Prop where
  id_eq : ∀ {id slice}, b.slices id = some slice → slice.id = id
  typed : ∀ {id slice}, b.slices id = some slice → (b.sliceThresholdType id).isSome = true

/-- Every slice has a number the counter has handed out. -/
def Numbered (b : SliceBook) : Prop :=
  ∀ {id slice}, b.slices id = some slice → 1 ≤ id ∧ id ≤ b.sliceCount

/-- Every threshold is a `u32`. -/
def ThresholdsFit (b : SliceBook) : Prop :=
  ∀ {id slice}, b.slices id = some slice → slice.threshold ≤ u32Max

/-- The required weight is a `u32`, since a percentage is cast to one. -/
theorem ThresholdsFit.requiredWeight_le {b : SliceBook} (h : b.ThresholdsFit) {id : Nat}
    {slice : QuorumSlice} (hslice : b.slices id = some slice) :
    b.requiredWeight slice ≤ u32Max := by
  unfold requiredWeight
  split
  next => exact h hslice
  next => exact Nat.le_pred_of_lt (Nat.mod_lt _ (by decide))

/-- What is checked of a new slice. -/
structure Accepts (b : SliceBook) (slice : QuorumSlice) (type : ThresholdType) : Prop where
  id_eq : slice.id = b.sliceCount + 1
  nonempty : slice.attestors ≠ []
  length_le : slice.attestors.length ≤ b.getMaxAttestorsPerSlice
  length_eq : slice.weights.length = slice.attestors.length
  nodup : slice.attestors.Nodup
  weights : ∀ w ∈ slice.weights, 1 ≤ w ∧ w ≤ 100
  admits : type.Admits slice.threshold (totalSliceWeight slice.weights)

end SliceBook

/-! ## One step -/

/-- **What an operation writes about a slice whose record it finds**, and what it checks of it. -/
inductive SliceOp.Edits (max id : Nat) (slice : QuorumSlice) (e : SliceEntry) :
    SliceOp → SliceEntry → Prop
  | enabled {creator : Address} {enabled : Bool} :
      Edits max id slice e (.setReputationWeightingEnabled creator id enabled)
        { e with slice := some { slice with reputationWeightingEnabled := enabled } }
  | removed {creator attestor : Address} {attestors : List Address} {weights : List Nat}
      (hattestors : slice.attestors.eraseIdx (slice.attestors.idxOf attestor) = attestors)
      (hweights : slice.weights.eraseIdx (slice.attestors.idxOf attestor) = weights)
      (hne : attestors ≠ []) :
      Edits max id slice e (.removeAttestor creator id attestor)
        { e.weigh { slice with
            attestors := attestors
            weights := weights
            threshold := State.clampThreshold e.thresholdType slice.threshold
              (totalSliceWeight weights) } with
          set := some ((e.set.getD ∅).erase attestor) }
  | added {creator attestor : Address} {weight : Nat} (hroom : slice.attestors.length < max)
      (hweight : 1 ≤ weight ∧ weight ≤ 100) (hnew : attestor ∉ slice.attestors) :
      Edits max id slice e (.addAttestor creator id attestor weight)
        { e.weigh { slice with
            attestors := slice.attestors ++ [attestor]
            weights := slice.weights ++ [weight] } with
          set := some (insert attestor (e.set.getD ∅)) }
  | weighed {creator attestor : Address} {weight : Nat} {weights : List Nat}
      (hweight : 1 ≤ weight ∧ weight ≤ 100)
      (hweights : slice.weights.set (slice.attestors.idxOf attestor) weight = weights)
      (hreach : e.thresholdType = .percentage ∨ slice.threshold ≤ totalSliceWeight weights) :
      Edits max id slice e (.updateAttestorWeight creator id attestor weight)
        (e.weigh { slice with weights := weights })
  | absolute {creator : Address} {threshold : Nat} (hpos : 1 ≤ threshold)
      (hle : threshold ≤ totalSliceWeight slice.weights) :
      Edits max id slice e (.updateSliceThreshold creator id threshold)
        { e with slice := some { slice with threshold := threshold }, type := some .absolute }
  | percentage {creator : Address} {threshold : Nat} (hrange : 1 ≤ threshold ∧ threshold ≤ 100) :
      Edits max id slice e (.updatePercentageThreshold creator id threshold)
        { e with slice := some { slice with threshold := threshold }, type := some .percentage }
  | rebalanced {creator : Address} {weights : List Nat} {threshold : Nat}
      (hlength : weights.length = slice.attestors.length)
      (hweights : ∀ w ∈ weights, 1 ≤ w ∧ w ≤ 100)
      (hadmits : e.thresholdType.Admits threshold (totalSliceWeight weights)) :
      Edits max id slice e (.rebalanceSlice creator id weights threshold)
        (e.weigh { slice with weights := weights, threshold := threshold })
  | reweighed {creator : Address} {weights : List Nat}
      (hlength : weights.length = slice.attestors.length) :
      Edits max id slice e (.reweightSlice creator id weights)
        { e with slice := some { slice with weights := weights } }
  | replaced {owner oldAttestor newAttestor : Address} {weight : Nat}
      (hmem : oldAttestor ∈ slice.attestors)
      (hweight : slice.weights[slice.attestors.idxOf oldAttestor]? = some weight) :
      Edits max id slice e (.replaceAttestor owner id oldAttestor newAttestor)
        { e with slice := some { slice with
          attestors := slice.attestors.set (slice.attestors.idxOf oldAttestor) newAttestor
          weights := (slice.weights.take slice.attestors.length).set
            (slice.attestors.idxOf oldAttestor) weight } }

/-- **What an operation does to the slices**: nothing, a new slice, or an edit. -/
inductive SliceOp.BookStep (op : SliceOp) (b b' : SliceBook) : Option Nat → Prop
  | keeps (hcount : b'.sliceCount = b.sliceCount) (hentry : b'.entry = b.entry) :
      BookStep op b b' none
  | creates {slice : QuorumSlice} {type : ThresholdType} (haccepts : b.Accepts slice type)
      (hcount : b'.sliceCount = b.sliceCount + 1)
      (hentry : b'.entry = Function.update b.entry (b.sliceCount + 1) (.new slice type)) :
      BookStep op b b' (some (b.sliceCount + 1))
  | edits {id : Nat} {slice : QuorumSlice} {e : SliceEntry} (hslice : b.slices id = some slice)
      (hedits : op.Edits b.getMaxAttestorsPerSlice id slice (b.entry id) e)
      (hcount : b'.sliceCount = b.sliceCount) (hentry : b'.entry = Function.update b.entry id e) :
      BookStep op b b' (some id)

/-- What an operation does to the delegations. -/
inductive SliceOp.DelegationStep (b b' : SliceBook) : SliceOp → Prop
  | kept {op : SliceOp} (hdelegation : b'.sliceDelegation = b.sliceDelegation)
      (hdelegateOf : b'.delegateOf = b.delegateOf) : DelegationStep b b' op
  | delegated {delegation : SliceDelegation} {delegator delegate : Address} {sliceId : Nat}
      {expiresAt : Option Nat} (hdelegate : delegation.delegate = delegate)
      (hdelegation : b'.sliceDelegation = b.sliceDelegation.set (sliceId, delegator) delegation)
      (hdelegateOf : b'.delegateOf = b.delegateOf.set (sliceId, delegate) delegator) :
      DelegationStep b b' (.delegateSliceVote delegator sliceId delegate expiresAt)
  | revoked {delegation : SliceDelegation} {delegator : Address} {sliceId : Nat}
      (hstored : b.sliceDelegation (sliceId, delegator) = some delegation)
      (hdelegation : b'.sliceDelegation = b.sliceDelegation.remove (sliceId, delegator))
      (hdelegateOf : b'.delegateOf = b.delegateOf.remove (sliceId, delegation.delegate)) :
      DelegationStep b b' (.revokeSliceDelegation delegator sliceId)

namespace State

/-- **What an operation on slices does to the book and to the cached answers.** -/
structure SliceStep (op : SliceOp) (s s' : State) : Prop where
  book : op.BookStep s.slices s'.slices (op.written s)
  nestedSliceNode : s'.slices.nestedSliceNode = s.slices.nestedSliceNode
  max : s'.slices.maxAttestorsPerSlice =
    ((Op.slice op).newMax).or s.slices.maxAttestorsPerSlice
  delegations : op.DelegationStep s.slices s'.slices
  cache : s'.cache =
    match op.invalidated with
    | some sliceId => s.cache.invalidateSlice s.registry.credentialCount sliceId
    | none => s.cache

variable {u : Unit}

@[simp] theorem validateWeight_eq_ok {weight : Nat} :
    validateWeight weight = .ok u ↔ 1 ≤ weight ∧ weight ≤ 100 := require_eq_ok

/-- The check of a new slice's threshold, by its type. -/
theorem requireThreshold_eq_ok :
    requireThreshold type threshold total = .ok u ↔ type.Admits threshold total := by
  cases type with
  | absolute =>
    simp only [requireThreshold, bind_eq_ok, require_eq_ok, exists_and_left, exists_const]
    exact Iff.rfl
  | percentage => exact require_eq_ok

theorem requireRebalanced_admits (h : requireRebalanced type threshold total = .ok u)
    (hpos : 1 ≤ threshold) : type.Admits threshold total := by
  cases type with
  | absolute => exact ⟨hpos, require_eq_ok.mp h⟩
  | percentage => exact ⟨hpos, require_eq_ok.mp h⟩

theorem createWeightedSlice_step {op : SliceOp}
    (hwritten : op.written s = some (s.slices.sliceCount + 1)) (hcached : op.invalidated = none)
    (hmax : (Op.slice op).newMax = none) (creator : Address) (attestors : List Address)
    (weights : List Nat) (threshold : Nat) (type : ThresholdType) :
    Ensures (s.createWeightedSlice creator attestors weights threshold type)
      fun r => SliceStep op s r.1 := by
  simp only [createWeightedSlice, ensures_steps, ensures_guards, require_eq_ok, forM_eq_ok,
    validateWeight_eq_ok, requireThreshold_eq_ok]
  intro hne hlength_le hlength hnodup hweights hadmits _
  have haccepts : s.slices.Accepts ⟨_, creator, attestors, weights, threshold, false⟩ type :=
    ⟨rfl, hne, hlength_le, hlength, hnodup, hweights, hadmits⟩
  refine ⟨?_, rfl, by rw [hmax]; rfl, .kept rfl rfl, by rw [hcached]⟩
  rw [hwritten]
  exact .creates haccepts rfl (by simp [SliceEntry.new])

/-- **Every operation on slices is a step.** -/
theorem sliceOp_step (env : Env) (s : State) (op : SliceOp) :
    Ensures (op.apply env s) (SliceStep op s) := by
  cases op
  case createSlice creator attestors weights threshold =>
    simp only [SliceOp.apply, ensures_steps, createSlice]
    exact fun _ => createWeightedSlice_step rfl rfl rfl creator attestors weights threshold _
  case createSlicePercentage creator attestors weights percentage =>
    simp only [SliceOp.apply, ensures_steps, createSlicePercentage]
    exact fun _ => createWeightedSlice_step rfl rfl rfl creator attestors weights percentage _
  case createSliceFromTemplate creator templateId =>
    simp only [SliceOp.apply, ensures_steps, createSliceFromTemplate, createSlice]
    exact fun _ template _ _ => createWeightedSlice_step rfl rfl rfl creator _ _ _ _
  case setReputationWeightingEnabled creator sliceId enabled =>
    simp only [SliceOp.apply, ensures_steps, setReputationWeightingEnabled, ensures_guards]
    intro _ slice hslice _
    exact ⟨.edits hslice .enabled rfl (by simp), rfl, rfl, .kept rfl rfl, rfl⟩
  case removeAttestor creator sliceId attestor =>
    simp only [SliceOp.apply, ensures_steps, removeAttestor, ensures_guards, require_eq_ok]
    intro _ _ _ slice hslice _ _ hne
    exact ⟨.edits hslice (.removed rfl rfl hne) rfl (by simp [invalidateSlice]; rfl), rfl, rfl,
      .kept rfl rfl, rfl⟩
  case addAttestor creator sliceId attestor weight =>
    simp only [SliceOp.apply, ensures_steps, addAttestor, ensures_guards, require_eq_ok,
      validateWeight_eq_ok]
    intro _ _ _ slice hslice _ hroom hweight hnew
    exact ⟨.edits hslice (.added hroom hweight hnew) rfl (by simp; rfl), rfl, rfl, .kept rfl rfl,
      rfl⟩
  case updateAttestorWeight creator sliceId attestor newWeight =>
    simp only [SliceOp.apply, ensures_steps, updateAttestorWeight, ensures_guards, require_eq_ok,
      validateWeight_eq_ok]
    intro _ _ _ hweight slice hslice _ _ _ _ hreach
    exact ⟨.edits hslice (.weighed hweight rfl hreach) rfl (by simp; rfl), rfl, rfl, .kept rfl rfl,
      rfl⟩
  case updateSliceThreshold creator sliceId newThreshold =>
    simp only [SliceOp.apply, ensures_steps, updateSliceThreshold, ensures_guards, require_eq_ok]
    intro _ _ _ slice hslice _ hpos hle
    exact ⟨.edits hslice (.absolute hpos hle) rfl (by simp [invalidateSlice]), rfl, rfl,
      .kept rfl rfl, rfl⟩
  case updatePercentageThreshold creator sliceId percentage =>
    simp only [SliceOp.apply, ensures_steps, updatePercentageThreshold, ensures_guards,
      require_eq_ok]
    intro _ _ _ hrange slice hslice _
    exact ⟨.edits hslice (.percentage hrange) rfl (by simp [invalidateSlice]), rfl, rfl,
      .kept rfl rfl, rfl⟩
  case rebalanceSlice creator sliceId newWeights newThreshold =>
    simp only [SliceOp.apply, ensures_steps, rebalanceSlice, ensures_guards, require_eq_ok,
      forM_eq_ok, validateWeight_eq_ok]
    intro _ _ _ slice hslice _ hlength hpos hweights hrebalanced
    exact ⟨.edits hslice (.rebalanced hlength hweights (requireRebalanced_admits hrebalanced hpos))
      rfl (by simp [invalidateSlice]; rfl), rfl, rfl, .kept rfl rfl, rfl⟩
  case reweightSlice creator sliceId newWeights =>
    simp only [SliceOp.apply, ensures_steps, reweightSlice, ensures_guards, require_eq_ok]
    intro _ _ _ slice hslice _ hlength _
    exact ⟨.edits hslice (.reweighed hlength) rfl (by simp), rfl, rfl, .kept rfl rfl, rfl⟩
  case replaceAttestor owner sliceId oldAttestor newAttestor =>
    simp only [SliceOp.apply, ensures_steps, replaceAttestor, ensures_guards, require_eq_ok]
    intro _ _ _ slice hslice _ hmem weight hweight _
    exact ⟨.edits hslice (.replaced hmem hweight) rfl (by simp), rfl, rfl, .kept rfl rfl, rfl⟩
  case delegateSliceVote delegator sliceId delegate expiresAt =>
    simp only [SliceOp.apply, ensures_steps, delegateSliceVote, ensures_guards]
    intro _ _ _ slice _ _ _ _
    exact ⟨.keeps rfl rfl, rfl, rfl, .delegated rfl rfl rfl, rfl⟩
  case revokeSliceDelegation delegator sliceId =>
    simp only [SliceOp.apply, ensures_steps, revokeSliceDelegation, ensures_guards]
    intro _ _ _ delegation hstored
    exact ⟨.keeps rfl rfl, rfl, rfl, .revoked hstored rfl rfl, rfl⟩
  all_goals
    simp only [SliceOp.apply, ensures_steps, ensures_guards, setMaxAttestorsPerSlice,
      enableAttestorIndependence, disableAttestorIndependence, setAttestorIndependence,
      createSliceTemplate, updateTemplateDefaults]
    intros
    exact ⟨.keeps rfl rfl, rfl, rfl, .kept rfl rfl, rfl⟩

end State

/-! ## What every step keeps -/

namespace SliceOp.BookStep

variable {op : SliceOp} {b b' : SliceBook} {written : Option Nat} (h : op.BookStep b b' written)

include h

theorem count_le : b.sliceCount ≤ b'.sliceCount := by
  cases h with
  | keeps hcount | edits _ _ hcount => exact hcount.ge
  | creates _ hcount => omega

variable {k : Nat}

theorem entry_of_ne (hk : written ≠ some k) : b'.entry k = b.entry k := by
  cases h with
  | keeps _ hentry => rw [hentry]
  | creates _ _ hentry | edits _ _ _ hentry =>
    rw [hentry]
    exact Function.update_of_ne (fun heq => hk (congrArg some heq.symm)) _ _

theorem slices_of_ne (hk : written ≠ some k) : b'.slices k = b.slices k :=
  congrArg SliceEntry.slice (h.entry_of_ne hk)

theorem thresholdType_of_ne (hk : written ≠ some k) :
    b'.sliceThresholdType k = b.sliceThresholdType k := congrArg SliceEntry.type (h.entry_of_ne hk)

/-- **What holds of every entry still does**, if it holds of a new slice and edits keep it. -/
theorem forall_entry {P : Nat → SliceEntry → Prop} (hb : ∀ k, P k (b.entry k))
    (hnew : ∀ slice type, b.Accepts slice type → b'.sliceCount = b.sliceCount + 1 →
      P (b.sliceCount + 1) (.new slice type))
    (hedit : ∀ id slice e, b.slices id = some slice →
      op.Edits b.getMaxAttestorsPerSlice id slice (b.entry id) e → P id e) :
    ∀ k, P k (b'.entry k) := by
  cases h with
  | keeps _ hentry => rwa [hentry]
  | creates haccepts hcount hentry =>
    rw [hentry]
    exact (Function.forall_update_iff _ _).mpr ⟨hnew _ _ haccepts hcount, fun k _ => hb k⟩
  | edits hslice hedits _ hentry =>
    rw [hentry]
    exact (Function.forall_update_iff _ _).mpr ⟨hedit _ _ _ hslice hedits, fun k _ => hb k⟩

theorem registered (hb : b.Registered) : b'.Registered := by
  have hall := h.forall_entry
    (P := fun k e => ∀ slice ∈ e.slice, slice.id = k ∧ e.type.isSome = true)
    (fun k slice hk => ⟨hb.id_eq hk, hb.typed hk⟩) ?_ ?_
  · exact ⟨fun hk => (hall _ _ hk).1, fun hk => (hall _ _ hk).2⟩
  · rintro slice type haccepts - _ ⟨⟩
    exact ⟨haccepts.id_eq, rfl⟩
  · intro id slice e hslice hedits slice' hslice'
    have hid := hb.id_eq hslice
    have htyped : (b.entry id).type.isSome = true := hb.typed hslice
    cases hedits <;> cases hslice' <;> simp [SliceEntry.weigh, hid, htyped]

theorem numbered (hb : b.Numbered) : b'.Numbered := by
  have hle := h.count_le
  have hall := h.forall_entry (P := fun k e => ∀ slice ∈ e.slice, 1 ≤ k ∧ k ≤ b'.sliceCount)
    (fun k slice hk => ⟨(hb hk).1, (hb hk).2.trans hle⟩) (fun _ _ _ hcount _ _ => by omega)
    fun id slice e hslice _ _ _ => ⟨(hb hslice).1, (hb hslice).2.trans hle⟩
  exact @fun _ _ hk => hall _ _ hk

/-- The thresholds the mutators accept are within the total weight, or percentages. -/
theorem thresholdsFit (hb : b.ThresholdsFit) : b'.ThresholdsFit := by
  have hall := h.forall_entry (P := fun _ e => ∀ slice ∈ e.slice, slice.threshold ≤ u32Max)
    (fun k slice hk => hb hk) ?_ ?_
  · exact @fun _ _ hk => hall _ _ hk
  · rintro slice type haccepts - _ ⟨⟩
    exact haccepts.admits.le (totalSliceWeight_le _)
  · intro id slice e hslice hedits slice' hslice'
    have hfits := hb hslice
    cases hedits with
    | removed =>
      cases hslice'
      simp only [State.clampThreshold]
      split
      exacts [totalSliceWeight_le _, hfits]
    | absolute _ hle => exact Option.some.inj hslice' ▸ hle.trans (totalSliceWeight_le _)
    | percentage hrange => exact Option.some.inj hslice' ▸ hrange.2.trans (by decide)
    | rebalanced _ _ hadmits =>
      exact Option.some.inj hslice' ▸ hadmits.le (totalSliceWeight_le _)
    | _ => exact Option.some.inj hslice' ▸ hfits

end SliceOp.BookStep

/-! ## Every run -/

open State in
/-- **What the operations on slices keep, every operation keeps**, if it does not depend on the
count. -/
theorem Op.keeps_book {P : SliceBook → Prop} (env : Env) (op : Op)
    (hcount : ∀ count, P s.slices → P { s.slices with sliceCount := count })
    (hslice : ∀ op', op = .slice op' → ∀ s', SliceStep op' s s' → P s'.slices) (h : P s.slices) :
    Ensures (op.apply env s) fun s' => P s'.slices := by
  obtain ⟨op, rfl⟩ | hother := exists_or_forall_not (op = .slice ·)
  · exact (sliceOp_step env s op).mono (hslice op rfl)
  · refine (Op.leaves_slices env s hother).mono fun _ heq => ?_
    rw [heq]
    exact hcount _ h

theorem Op.registered (env : Env) (op : Op) (h : s.slices.Registered) :
    Ensures (op.apply env s) fun s' => s'.slices.Registered :=
  op.keeps_book (P := SliceBook.Registered) env (fun _ h => ⟨h.id_eq, h.typed⟩)
    (fun _ _ _ hstep => hstep.book.registered h) h

theorem Op.unnested (env : Env) (op : Op) (h : ∀ k, s.slices.nestedSliceNode k = none) :
    Ensures (op.apply env s) fun s' => ∀ k, s'.slices.nestedSliceNode k = none :=
  op.keeps_book (P := fun b => ∀ k, b.nestedSliceNode k = none) env (fun _ h => h)
    (fun _ _ _ hstep k => hstep.nestedSliceNode ▸ h k) h

/-- **In every run every slice is registered and none is nested.** -/
theorem World.registered (host : Host) (calls : List Call) :
    (after host calls).state.slices.Registered ∧
      ∀ k, (after host calls).state.slices.nestedSliceNode k = none := by
  refine Machine.run_invariant
    (I := fun w : World => w.state.slices.Registered ∧ ∀ k, w.state.slices.nestedSliceNode k = none)
    (fun w call h => ⟨next_of_ensures (Op.registered _ call.op h.1) h.1,
      next_of_ensures (Op.unnested _ call.op h.2) h.2⟩) ?_ calls
  exact ⟨⟨nofun, nofun⟩, fun _ => rfl⟩

/-- No operation lets a threshold leave what a `u32` holds. -/
theorem Op.thresholdsFit (env : Env) (h : s.slices.ThresholdsFit) (op : Op) :
    Ensures (op.apply env s) fun s' => s'.slices.ThresholdsFit :=
  op.keeps_book (P := SliceBook.ThresholdsFit) env (fun _ h => h)
    (fun _ _ _ hstep => hstep.book.thresholdsFit h) h

end QuorumProof
