import QuorumProof.Contract.Challenge

/-!
# Contract/Decision — whether a credential is attested

`is_attested` sums the weights captured with the unexpired positive records of a credential and
compares the sum with the slice's required weight; a credential attested through several slices must
moreover have a quorum in each.  Its answers are cached.  `batch_is_attested` and
`verify_attestations_batch` decide the same question with code of their own.

Source: `is_attested`, `is_quorum_impl`, `required_weight_nested`,
`requires_intersection_verification`, `verify_credential_intersection`, `is_multisig_approved`,
`verify_non_revocation`, `is_time_locked`, `verify_credential`, `batch_verify_proofs`,
`warm_verification_cache`, `set_verification_cache_ttl`, `batch_is_attested`,
`verify_attestations_batch`.
-/

namespace QuorumProof

open Guarded

/-- A deadline has passed. -/
def reached (now : Nat) : Option Nat → Bool
  | none => false
  | some deadline => decide (deadline ≤ now)

namespace VerificationCache

/-- The cached answer for a pair, while it is good. -/
def live (v : VerificationCache) (now credentialId sliceId : Nat) : Option Bool :=
  match v.attestVerifyCache (credentialId, sliceId) with
  | some entry => if now < entry.expiresAt then some entry.isAttested else none
  | none => none

end VerificationCache

namespace State

variable (env : Env) (s : State)

/-! ## What keeps a credential from being attested -/

variable (id sliceId : Nat) (slice : QuorumSlice)

def verifyNonRevocation : Bool :=
  match s.attestations.bbsNonRevocationProof id, s.attestations.bbsAccumulator with
  | some proof, some accumulator =>
    decide (proof.epoch = accumulator.epoch) && decide (proof.proofBytes ≠ [])
  | _, _ => false

def isTimeLocked : Bool :=
  match s.attestations.timeLock id with
  | some releaseAt => decide (env.now < releaseAt)
  | none => false

/-- `is_attested` answers false before it looks at any slice. -/
def blocked (c : Credential) : Bool :=
  c.revoked || c.suspended ||
    ((s.attestations.bbsCredentialFlag id).isSome && !s.verifyNonRevocation id) ||
    s.isTimeLocked env id || reached env.now c.expiresAt ||
    reached env.now (s.attestations.attestationExpiry id)

def isMultisigApproved : Bool :=
  match s.registry.credentials id with
  | none => false
  | some c =>
    if (s.attestations.attestationPolicy c.credentialType).isSome = true then
      (s.attestations.multisigAttestationApproved id).getD false
    else true

/-! ## Quorum of a slice -/

def maxSliceDepth : Nat := 4

/-- The weight of the candidates among a list of attestors, weighted by position, without those
suspended in the slice. -/
def candidateWeight (candidates attestors : List Address) (weights : List Nat) : Nat :=
  attestors.zipIdx.foldl
    (fun total entry =>
      if entry.1 ∈ candidates ∧ s.discipline.isAttestorSuspended sliceId entry.1 = false then
        saturatingAdd u32Max total (weights[entry.2]?.getD 0)
      else total) 0

def requiredWeightNested (node : QuorumSliceNode) : Nat :=
  match s.slices.sliceThresholdType sliceId with
  | some .percentage => (node.weights.sum * node.threshold + 99) / 100 % 2 ^ 32
  | _ => node.threshold

/-- `is_quorum_impl`.  The source recurses into the children of a nested slice and aborts on a node
deeper than `MAX_SLICE_DEPTH`; the first argument bounds the recursion, and running out of it is
running out of the host's budget. -/
def isQuorumImpl (s : State) (candidates : List Address) : Nat → Nat → Except Fault Bool
  | 0, _ => .error (.panic "budget exceeded")
  | fuel + 1, sliceId =>
    match s.slices.nestedSliceNode sliceId with
    | some node => do
      require (node.depth ≤ maxSliceDepth) (.contract .maxDepthExceeded)
      if node.isNested = false then
        return decide (s.requiredWeightNested sliceId node ≤
          s.candidateWeight sliceId candidates node.attestors node.weights)
      else node.childSliceIds.allM (s.isQuorumImpl candidates fuel)
    | none => do
      let slice ← s.getSlice sliceId
      return decide (s.slices.requiredWeight slice ≤
        s.candidateWeight sliceId candidates slice.attestors slice.weights)

def requiresIntersectionVerification : Bool :=
  let slices := s.attestations.getCredentialSlices id
  decide (1 < slices.length) || slices.any fun sliceId => (s.slices.nestedSliceNode sliceId).isSome

/-- The attestors with a positive record that has not expired. -/
def positiveAttestors : List Address :=
  ((s.attestations.records id).filter fun record =>
    record.attestationValue && record.unexpired env.now).map (·.attestor)

def verifyCredentialIntersection : Except Fault Bool :=
  let slices := s.attestations.getCredentialSlices id
  if slices.length ≤ 1 then .ok true
  else slices.allM (s.isQuorumImpl (s.positiveAttestors env id) (maxSliceDepth + 1))

/-! ## `is_attested` -/

/-- The weight `is_attested` finds for an attestor: the captured one, and for a slice without a
threshold type the attestor's current weight. -/
def recordWeight (attestor : Address) : Option Nat :=
  match s.attestations.attestationWeight (id, sliceId, attestor) with
  | some weight => some weight
  | none =>
    if (s.slices.sliceThresholdType sliceId).isNone = true then slice.weightOf attestor else none

/-- A weight, scaled by the attestor's reputation where the slice asks for it. -/
def effectiveWeight (attestor : Address) (weight : Nat) : Nat :=
  if slice.reputationWeightingEnabled = true then
    weight * (s.discipline.loadOrInitReputation attestor).score / 100 % 2 ^ 32
  else weight

/-- What one record adds to the attested weight. -/
def contribution (record : AttestationRecord) : Option Nat :=
  if record.attestationValue && record.unexpired env.now then
    match s.recordWeight id sliceId slice record.attestor with
    | some weight =>
      if s.discipline.isAttestorSuspended sliceId record.attestor = true then none
      else some (s.effectiveWeight slice record.attestor weight)
    | none => none
  else none

/-- The attested weight: every record counts, also when one attestor has several. -/
def attestedWeight : Nat :=
  (s.attestations.records id).foldl
    (fun total record =>
      match s.contribution env id sliceId slice record with
      | some weight => saturatingAdd u32Max total weight
      | none => total) 0

theorem attestedWeight_eq :
    s.attestedWeight env id sliceId slice =
      min ((s.attestations.records id).map fun record =>
        (s.contribution env id sliceId slice record).getD 0).sum u32Max := by
  rw [← Nat.zero_add (List.sum _)]
  refine foldl_eq_min_sum u32Max (fun total htotal record _ => ?_) (Nat.zero_le _)
  cases s.contribution env id sliceId slice record with
  | some weight => rfl
  | none => exact (saturatingAdd_zero htotal).symm

/-- `intersection_satisfied`: the slices of a credential intersect, where it is asked for. -/
def intersectionSatisfied : Except Fault Bool :=
  if s.requiresIntersectionVerification id = true then s.verifyCredentialIntersection env id
  else .ok true

/-- The decision of `is_attested` once the slice is known. -/
def quorumDecision : Except Fault Bool := do
  let isSufficient := decide (s.slices.requiredWeight slice ≤ s.attestedWeight env id sliceId slice)
  let intersectionSatisfied ← s.intersectionSatisfied env id
  return isSufficient && s.isMultisigApproved id && intersectionSatisfied

theorem quorumDecision_eq :
    s.quorumDecision env id sliceId slice =
      (fun satisfied =>
        decide (s.slices.requiredWeight slice ≤ s.attestedWeight env id sliceId slice) &&
          s.isMultisigApproved id && satisfied) <$> s.intersectionSatisfied env id := by
  unfold quorumDecision
  cases s.intersectionSatisfied env id <;> rfl

/-- `is_attested` without its cache. -/
def isAttestedUncached : Except Fault Bool := do
  let c ← s.getCredential id
  if s.blocked env id c = true then return false
  else
    let slice ← s.getSlice sliceId
    s.quorumDecision env id sliceId slice

/-- Store an answer in the verification cache. -/
def cacheAnswer (answer : Bool) : State :=
  { s with cache := s.cache.put env id sliceId answer }

/-- `is_attested`: only an answer that took a slice is cached. -/
def isAttested : Except Fault (State × Bool) :=
  match s.cache.live env.now id sliceId with
  | some answer => .ok (s, answer)
  | none => do
    let c ← s.getCredential id
    if s.blocked env id c = true then return (s, false)
    else
      let slice ← s.getSlice sliceId
      let answer ← s.quorumDecision env id sliceId slice
      return (s.cacheAnswer env id sliceId answer, answer)

/-- Without a cached answer, `is_attested` answers what it computes. -/
theorem snd_isAttested_eq {env : Env} {s : State} {id sliceId : Nat}
    (hlive : s.cache.live env.now id sliceId = none) :
    Prod.snd <$> s.isAttested env id sliceId = s.isAttestedUncached env id sliceId := by
  unfold isAttested isAttestedUncached
  rw [hlive]
  cases s.getCredential id with
  | error fault => rfl
  | ok c =>
    by_cases hblocked : s.blocked env id c = true
    · simp only [hblocked, if_true, bind, Except.bind]
      rfl
    · simp only [hblocked, bind, Except.bind]
      cases s.getSlice sliceId with
      | error fault => rfl
      | ok slice =>
        dsimp only
        cases s.quorumDecision env id sliceId slice <;> rfl

/-! ## Entry points that ask `is_attested` -/

def verifyCredential (verifier : Address) (id sliceId : Nat) : Except Fault (State × Bool) := do
  requireAuth env verifier
  let _ ← s.getCredential id
  s.isAttested env id sliceId

/-- One iteration of `batch_verify_proofs`. -/
def verifyProofEntry (acc : State × List (Nat × Bool × Bool)) (entry : Nat × Nat × Nat) :
    Except Fault (State × List (Nat × Bool × Bool)) :=
  match acc.1.registry.credentials entry.1 with
  | some _ => do
    let (s, valid) ← acc.1.isAttested env entry.1 entry.2.1
    return (s, acc.2 ++ [(entry.1, valid, decide (entry.2.2 ≤ env.now))])
  | none => .ok (acc.1, acc.2 ++ [(entry.1, false, true)])

def batchVerifyProofs (ids sliceIds proofExpiresAt : List Nat) :
    Except Fault (State × List (Nat × Bool × Bool)) := do
  validateArrayBounds ids.length 1 maxBatchSize "credential_ids"
  require (ids.length = sliceIds.length ∧ ids.length = proofExpiresAt.length)
    (.panic "input lengths must match")
  (ids.zip (sliceIds.zip proofExpiresAt)).foldlM (verifyProofEntry env) (s, [])

/-- One iteration of `warm_verification_cache`: unlike `is_attested`, it caches whatever the answer
is. -/
def warmEntry (acc : State × Nat) (pair : Nat × Nat) : Except Fault (State × Nat) :=
  match acc.1.cache.live env.now pair.1 pair.2 with
  | some _ => .ok acc
  | none => do
    let (s, answer) ← acc.1.isAttested env pair.1 pair.2
    let warmed ← checkedAdd (2 ^ 32) acc.2 1
    return (s.cacheAnswer env pair.1 pair.2 answer, warmed)

def warmVerificationCache (pairs : List (Nat × Nat)) : Except Fault (State × Nat) :=
  pairs.foldlM (warmEntry env) (s, 0)

def setVerificationCacheTtl (admin : Address) (ttl : Nat) : Except Fault (State × Unit) := do
  requireAuth env admin
  s.control.assertAdmin admin
  return ({ s with cache := { s.cache with verificationCacheTtl := some ttl } }, ())

/-! ## The two other decisions -/

/-- The weight `batch_is_attested` counts for a record. -/
def batchContribution (record : AttestationRecord) : Option Nat :=
  if record.attestationValue && record.unexpired env.now then
    some ((s.attestations.attestationWeight (id, sliceId, record.attestor)).getD 0)
  else none

/-- The weight `batch_is_attested` finds. -/
def batchAttestedWeight : Nat :=
  (s.attestations.records id).foldl
    (fun total record =>
      match s.batchContribution env id sliceId record with
      | some weight => saturatingAdd u32Max total weight
      | none => total) 0

/-- `batch_is_attested` on one pair. -/
def batchIsAttestedEntry (pair : Nat × Nat) : Bool :=
  match s.registry.credentials pair.1 with
  | none => false
  | some c =>
    if c.revoked || c.suspended || reached env.now c.expiresAt then false
    else
      match s.slices.slices pair.2 with
      | none => false
      | some slice =>
        decide (slice.threshold ≤ s.batchAttestedWeight env pair.1 pair.2)

def batchIsAttested (pairs : List (Nat × Nat)) : List Bool :=
  pairs.map (s.batchIsAttestedEntry env)

/-- The weight `verify_attestations_batch` finds: every unexpired record of a member counts,
whatever its value. -/
def verifiedWeight : Nat :=
  (s.attestations.records id).foldl
    (fun total record =>
      if record.unexpired env.now && decide (record.attestor ∈ slice.attestors) then
        saturatingAdd u32Max total ((slice.weightOf record.attestor).getD 0)
      else total) 0

/-- `verify_attestations_batch` on one pair. -/
def verifyAttestationsEntry (pair : Nat × Nat) : Bool :=
  match s.registry.credentials pair.1 with
  | none => false
  | some c =>
    if c.revoked || c.suspended || reached env.now c.expiresAt ||
        reached env.now (s.attestations.attestationExpiry pair.1) then false
    else
      match s.slices.slices pair.2 with
      | none => false
      | some slice =>
        decide (s.slices.requiredWeight slice ≤ s.verifiedWeight env pair.1 slice)

def verifyAttestationsBatch (ids sliceIds : List Nat) : Except Fault (List Bool) := do
  validateArrayBounds ids.length 1 maxBatchSize "credential_ids"
  require (ids.length = sliceIds.length)
    (.panic "credential_ids and slice_ids lengths must match")
  return (ids.zip sliceIds).map (s.verifyAttestationsEntry env)

end State

end QuorumProof
