import Mathlib.Data.Finset.Basic
import QuorumProof.Contract.Lifecycle

/-!
# Contract/Slice — quorum slices

A quorum slice lists attestors with a weight each and a threshold, absolute or a percentage of the
total weight.  Beside the slice's record the contract keeps the set of its attestors and its total
weight, and the mutators below differ in which of the three they write.

Source: `create_weighted_slice` and its callers, `set_reputation_weighting_enabled`,
`remove_attestor`, `add_attestor`, `update_attestor_weight`, `update_slice_threshold`,
`update_percentage_threshold`, `rebalance_slice`, `reweight_slice`, `replace_attestor`,
`delegate_slice_vote`, `revoke_slice_delegation`, `resolve_attestor`, the slice templates and the
slice settings of the administrator.
-/

namespace QuorumProof

open Guarded

def totalSliceWeight (weights : List Nat) : Nat :=
  weights.foldl (saturatingAdd u32Max) 0

def validateWeight (weight : Nat) : Except Fault Unit :=
  require (1 ≤ weight ∧ weight ≤ 100) (.panic "weight must be between 1 and 100")

namespace SliceBook

variable (b : SliceBook) (sliceId : Nat) (slice : QuorumSlice)

def thresholdType : ThresholdType :=
  (b.sliceThresholdType sliceId).getD .absolute

def requiredWeight : Nat :=
  match b.thresholdType slice.id with
  | .absolute => slice.threshold
  | .percentage => (totalSliceWeight slice.weights * slice.threshold + 99) / 100 % 2 ^ 32

def getMaxAttestorsPerSlice : Nat :=
  b.maxAttestorsPerSlice.getD 20

/-- Store a slice's record. -/
def putSlice : SliceBook :=
  { b with slices := b.slices.set sliceId slice }

def setSliceWeightCache (total : Nat) : SliceBook :=
  { b with sliceTotalWeight := b.sliceTotalWeight.set sliceId total }

/-- Store a slice's threshold type. -/
def setThresholdType (type : ThresholdType) : SliceBook :=
  { b with sliceThresholdType := b.sliceThresholdType.set sliceId type }

/-- Store the set of a slice's attestors. -/
def setAttestorSet (set : Finset Address) : SliceBook :=
  { b with attestorSet := b.attestorSet.set sliceId set }

/-- Whether an address is in the slice: by the stored set, and by the slice's list when there is
none. -/
def inSlice (a : Address) : Bool :=
  match b.attestorSet sliceId with
  | some set => decide (a ∈ set)
  | none => decide (a ∈ slice.attestors)

end SliceBook

namespace State

variable (env : Env) (s : State)

/-- The threshold a new slice of the given type may have. -/
def requireThreshold (type : ThresholdType) (threshold total : Nat) : Except Fault Unit :=
  match type with
  | .absolute => do
    require (0 < threshold) (.panic "threshold must be greater than 0")
    require (threshold ≤ total) (.panic "threshold cannot exceed total weight sum")
  | .percentage =>
    require (1 ≤ threshold ∧ threshold ≤ 100)
      (.panic "percentage threshold must be between 1 and 100")

variable (creator : Address) (sliceId : Nat) (attestors : List Address) (weights : List Nat)

def createWeightedSlice (threshold : Nat) (type : ThresholdType) : Except Fault (State × Nat) := do
  require (attestors ≠ []) (.panic "attestors cannot be empty")
  require (attestors.length ≤ s.slices.getMaxAttestorsPerSlice)
    (.panic "attestors exceed maximum allowed per slice")
  require (weights.length = attestors.length)
    (.panic "weights length must match attestors length")
  require attestors.Nodup (.panic "duplicate attestor")
  weights.forM validateWeight
  requireThreshold type threshold (totalSliceWeight weights)
  let id ← checkedAdd (2 ^ 64) s.slices.sliceCount 1
  let slice : QuorumSlice :=
    { id := id, creator := creator, attestors := attestors, weights := weights
      threshold := threshold, reputationWeightingEnabled := false }
  let b := { s.slices.putSlice id slice with sliceCount := id }
  let b := (b.setThresholdType id type).setAttestorSet id attestors.toFinset
  return ({ s with slices := b.setSliceWeightCache id (totalSliceWeight weights) }, id)

def createSlice (threshold : Nat) : Except Fault (State × Nat) := do
  requireAuth env creator
  s.createWeightedSlice creator attestors weights threshold .absolute

def createSlicePercentage (percentage : Nat) : Except Fault (State × Nat) := do
  requireAuth env creator
  s.createWeightedSlice creator attestors weights percentage .percentage

/-- A slice's mutators are its creator's. -/
def requireCreator (slice : QuorumSlice) (creator : Address) (message : String) :
    Except Fault Unit :=
  require (slice.creator = creator) (.panic message)

def setReputationWeightingEnabled (enabled : Bool) : Except Fault (State × Unit) := do
  requireAuth env creator
  let slice ← s.getSlice sliceId
  requireCreator slice creator "only the slice creator can modify slice settings"
  return ({ s with slices :=
    s.slices.putSlice sliceId { slice with reputationWeightingEnabled := enabled } }, ())

/-- The threshold `remove_attestor` leaves: an absolute one is clamped to the new total. -/
def clampThreshold (type : ThresholdType) (threshold total : Nat) : Nat :=
  if type = .absolute ∧ total < threshold then total else threshold

def removeAttestor (attestor : Address) : Except Fault (State × Unit) := do
  requireAuth env creator
  let s ← s.enforceWriteLimit env
  let slice ← s.getSlice sliceId
  requireCreator slice creator "only the slice creator can remove attestors"
  require (attestor ∈ slice.attestors) (.panic "attestor not in slice")
  let pos := slice.attestors.idxOf attestor
  let attestors := slice.attestors.eraseIdx pos
  let weights := slice.weights.eraseIdx pos
  require (attestors ≠ []) (.panic "cannot remove the last attestor")
  let total := totalSliceWeight weights
  let threshold := clampThreshold (s.slices.thresholdType sliceId) slice.threshold total
  let b := s.slices.putSlice sliceId
    { slice with attestors := attestors, weights := weights, threshold := threshold }
  let b := b.setSliceWeightCache sliceId total
  let b := b.setAttestorSet sliceId (((s.slices.attestorSet sliceId).getD ∅).erase attestor)
  return ({ s with slices := b }.invalidateSlice sliceId, ())

def addAttestor (attestor : Address) (weight : Nat) : Except Fault (State × Unit) := do
  requireAuth env creator
  let s ← s.enforceWriteLimit env
  let slice ← s.getSlice sliceId
  requireCreator slice creator "only the slice creator can add attestors"
  require (slice.attestors.length < s.slices.getMaxAttestorsPerSlice)
    (.panic "attestors exceed maximum allowed per slice")
  validateWeight weight
  require (attestor ∉ slice.attestors) (.contract .duplicateAttestor)
  let weights := slice.weights ++ [weight]
  let b := s.slices.putSlice sliceId
    { slice with attestors := slice.attestors ++ [attestor], weights := weights }
  let b := b.setSliceWeightCache sliceId (totalSliceWeight weights)
  let b := b.setAttestorSet sliceId (insert attestor ((s.slices.attestorSet sliceId).getD ∅))
  return ({ s with slices := b }, ())

def updateAttestorWeight (attestor : Address) (newWeight : Nat) : Except Fault (State × Unit) := do
  requireAuth env creator
  let s ← s.enforceWriteLimit env
  validateWeight newWeight
  let slice ← s.getSlice sliceId
  requireCreator slice creator "only the slice creator can update weights"
  require (attestor ∈ slice.attestors) (.panic "attestor not in slice")
  let pos := slice.attestors.idxOf attestor
  let _ ← expect slice.weights[pos]? (.contract .notInSlice)
  let weights := slice.weights.set pos newWeight
  let total := totalSliceWeight weights
  require (s.slices.thresholdType sliceId = .percentage ∨ slice.threshold ≤ total)
    (.panic "weight change would make threshold unreachable")
  let b := s.slices.putSlice sliceId { slice with weights := weights }
  return ({ s with slices := b.setSliceWeightCache sliceId total }, ())

def updateSliceThreshold (newThreshold : Nat) : Except Fault (State × Unit) := do
  requireAuth env creator
  let s ← s.enforceWriteLimit env
  let slice ← s.getSlice sliceId
  requireCreator slice creator "only the slice creator can update threshold"
  require (0 < newThreshold) (.panic "threshold must be greater than 0")
  require (newThreshold ≤ totalSliceWeight slice.weights)
    (.panic "threshold cannot exceed total weight sum")
  let b := s.slices.putSlice sliceId { slice with threshold := newThreshold }
  return ({ s with slices := b.setThresholdType sliceId .absolute }.invalidateSlice sliceId, ())

def updatePercentageThreshold (percentage : Nat) : Except Fault (State × Unit) := do
  requireAuth env creator
  let s ← s.enforceWriteLimit env
  require (1 ≤ percentage ∧ percentage ≤ 100)
    (.panic "percentage threshold must be between 1 and 100")
  let slice ← s.getSlice sliceId
  requireCreator slice creator "only the slice creator can update threshold"
  let b := s.slices.putSlice sliceId { slice with threshold := percentage }
  return ({ s with slices := b.setThresholdType sliceId .percentage }.invalidateSlice sliceId, ())

/-- The threshold `rebalance_slice` accepts. -/
def requireRebalanced (type : ThresholdType) (threshold total : Nat) : Except Fault Unit :=
  match type with
  | .absolute => require (threshold ≤ total) (.panic "threshold exceeds total weight")
  | .percentage => require (threshold ≤ 100) (.panic "percentage threshold must be 1-100")

def rebalanceSlice (newWeights : List Nat) (newThreshold : Nat) : Except Fault (State × Unit) := do
  requireAuth env creator
  let s ← s.requireNotPaused env
  let slice ← s.getSlice sliceId
  requireCreator slice creator "only the slice creator can rebalance"
  require (newWeights.length = slice.attestors.length)
    (.panic "weights length must match attestor count")
  require (1 ≤ newThreshold) (.panic "threshold must be at least 1")
  newWeights.forM validateWeight
  let total := totalSliceWeight newWeights
  requireRebalanced (s.slices.thresholdType sliceId) newThreshold total
  let b := s.slices.putSlice sliceId
    { slice with weights := newWeights, threshold := newThreshold }
  return ({ s with slices := b.setSliceWeightCache sliceId total }.invalidateSlice sliceId, ())

/-- `reweight_slice`: unlike `rebalance_slice` it checks no single weight, compares the threshold
with the total whatever its type, and leaves the stored total and the cached results as they
are. -/
def reweightSlice (newWeights : List Nat) : Except Fault (State × Unit) := do
  requireAuth env creator
  let s ← s.requireNotPaused env
  let slice ← s.getSlice sliceId
  requireCreator slice creator "only slice creator can reweight"
  require (newWeights.length = slice.attestors.length)
    (.panic "weights length must match attestors")
  require (slice.threshold ≤ totalSliceWeight newWeights)
    (.panic "new total weight must be >= threshold")
  return ({ s with slices := s.slices.putSlice sliceId { slice with weights := newWeights } }, ())

/-- `replace_attestor`: the new attestor takes the old one's place and weight.  Neither the stored
set of attestors nor the presence of the new attestor in the slice is looked at. -/
def replaceAttestor (owner : Address) (sliceId : Nat) (oldAttestor newAttestor : Address) :
    Except Fault (State × Unit) := do
  requireAuth env owner
  let s ← s.enforceWriteLimit env
  let slice ← expect (s.slices.slices sliceId) (.panic "slice not found")
  requireCreator slice owner "only slice creator can replace attestors"
  require (oldAttestor ∈ slice.attestors) (.panic "old attestor not in slice")
  let pos := slice.attestors.idxOf oldAttestor
  let weight ← expect slice.weights[pos]? (.contract .notInSlice)
  -- The loop reads a weight for every attestor and unwraps it.
  require (slice.attestors.length ≤ slice.weights.length) (.panic "unwrap on None")
  let weights := (slice.weights.take slice.attestors.length).set pos weight
  let b := s.slices.putSlice sliceId
    { slice with attestors := slice.attestors.set pos newAttestor, weights := weights }
  return ({ s with slices := b }, ())

/-! ## Settings -/

def isAdmin (caller : Address) : Bool := decide (s.control.admin = some caller)

def setMaxAttestorsPerSlice (admin : Address) (newMax : Nat) : Except Fault (State × Unit) := do
  requireAuth env admin
  require (s.isAdmin admin = true) (.panic "only admin can set max attestors")
  require (0 < newMax) (.panic "max attestors must be greater than 0")
  return ({ s with slices := { s.slices with maxAttestorsPerSlice := some newMax } }, ())

/-- Set the attestor-independence rule; the two entry points differ in the value and message. -/
def setAttestorIndependence (admin : Address) (enabled : Bool) (message : String) :
    Except Fault (State × Unit) := do
  requireAuth env admin
  require (s.isAdmin admin = true) (.panic message)
  return ({ s with slices := { s.slices with attestorIndependenceEnabled := enabled } }, ())

def enableAttestorIndependence (admin : Address) : Except Fault (State × Unit) :=
  s.setAttestorIndependence env admin true "only admin can enable attestor independence"

def disableAttestorIndependence (admin : Address) : Except Fault (State × Unit) :=
  s.setAttestorIndependence env admin false "only admin can disable attestor independence"

/-! ## Delegation -/

/-- A delegation's expiry, when given, is in the future. -/
def requireFutureExpiry (expiresAt : Option Nat) : Except Fault Unit :=
  match expiresAt with
  | none => .ok ()
  | some expiry => require (env.now < expiry) (.panic "delegation expiry must be in the future")

def delegateSliceVote (delegator : Address) (sliceId : Nat) (delegate : Address)
    (expiresAt : Option Nat) : Except Fault (State × Unit) := do
  requireAuth env delegator
  let s ← s.enforceWriteLimit env
  let slice ← s.getSlice sliceId
  require (delegator ∈ slice.attestors) (.panic "delegator must be a member of the slice")
  require (delegator ≠ delegate) (.panic "cannot delegate to self")
  requireFutureExpiry env expiresAt
  let delegation : SliceDelegation :=
    { delegator := delegator, delegate := delegate, sliceId := sliceId, delegatedAt := env.now
      expiresAt := expiresAt }
  return ({ s with slices := { s.slices with
    sliceDelegation := s.slices.sliceDelegation.set (sliceId, delegator) delegation
    delegateOf := s.slices.delegateOf.set (sliceId, delegate) delegator } }, ())

def revokeSliceDelegation (delegator : Address) (sliceId : Nat) : Except Fault (State × Unit) := do
  requireAuth env delegator
  let s ← s.enforceWriteLimit env
  let delegation ← expect (s.slices.sliceDelegation (sliceId, delegator))
    (.contract .delegationNotFound)
  return ({ s with slices := { s.slices with
    sliceDelegation := s.slices.sliceDelegation.remove (sliceId, delegator)
    delegateOf := s.slices.delegateOf.remove (sliceId, delegation.delegate) } }, ())

/-- A delegation is good until its expiry. -/
def requireDelegationLive (delegation : SliceDelegation) : Except Fault Unit :=
  match delegation.expiresAt with
  | none => .ok ()
  | some expiry => require (env.now < expiry) (.panic "delegation has expired")

/-- `resolve_attestor`: the member the caller votes for, themselves or their delegator. -/
def resolveAttestor (caller : Address) (sliceId : Nat) (slice : QuorumSlice) :
    Except Fault Address :=
  if s.slices.inSlice sliceId slice caller = true then .ok caller
  else do
    let delegator ← expect (s.slices.delegateOf (sliceId, caller))
      (.panic "attestor not in slice and no valid delegation found")
    require (s.slices.inSlice sliceId slice delegator = true) (.panic "delegator not in slice")
    let delegation ← expect (s.slices.sliceDelegation (sliceId, delegator))
      (.contract .delegationNotFound)
    requireDelegationLive env delegation
    return delegator

/-! ## Templates -/

/-- What a template's attestors, weights and threshold are checked for. -/
def requireTemplate (threshold : Nat) : Except Fault Unit := do
  require (attestors ≠ []) (.panic "attestors cannot be empty")
  require (attestors.length = weights.length)
    (.panic "attestors and weights must have equal length")
  require (threshold ≤ totalSliceWeight weights) (.panic "threshold cannot exceed total weight")
  require (0 < threshold) (.panic "threshold must be positive")

def createSliceTemplate (threshold : Nat) : Except Fault (State × Nat) := do
  requireAuth env creator
  let s ← s.enforceWriteLimit env
  requireTemplate attestors weights threshold
  let id := saturatingAdd u64Max s.slices.sliceTemplateCounter 1
  let template : SliceTemplate :=
    { id := id, creator := creator, attestors := attestors, weights := weights
      threshold := threshold, version := 1 }
  return ({ s with slices := { s.slices with
    sliceTemplate := s.slices.sliceTemplate.set id template
    sliceTemplateCounter := id } }, id)

/-- `create_slice_from_template`; it also takes a credential id, which it does not use. -/
def createSliceFromTemplate (templateId : Nat) : Except Fault (State × Nat) := do
  requireAuth env creator
  let template ← expect (s.slices.sliceTemplate templateId) (.panic "template not found")
  s.createSlice env creator template.attestors template.weights template.threshold

def updateTemplateDefaults (templateId : Nat) (attestors : List Address) (weights : List Nat)
    (threshold : Nat) : Except Fault (State × Unit) := do
  requireAuth env creator
  let s ← s.enforceWriteLimit env
  let template ← expect (s.slices.sliceTemplate templateId) (.panic "template not found")
  require (template.creator = creator) (.panic "only creator can update template")
  requireTemplate attestors weights threshold
  let template :=
    { template with
      attestors := attestors, weights := weights, threshold := threshold
      version := saturatingAdd u32Max template.version 1 }
  return ({ s with slices := { s.slices with
    sliceTemplate := s.slices.sliceTemplate.set templateId template } }, ())

end State

end QuorumProof
