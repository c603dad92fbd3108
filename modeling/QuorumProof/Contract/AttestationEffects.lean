import QuorumProof.Contract.Frames

/-!
# Contract/AttestationEffects — what an attestation writes

`attest`, an iteration of `batch_attest` and an executed multi-signature request each append a
record.  What a successful one found and wrote is stated here once: `Attests` for `attest`, which
is also what a processed queue entry does, and `AttestsInBatch` for the iteration of the batch.
`AttestationEffect` is what an operation of the family does to everything beside them.
-/

namespace QuorumProof

open Guarded

/-- The record an attestation appends. -/
def AttestationRecord.made (env : Env) (attestor : Address) (value : Bool)
    (expiresAt : Option Nat) : AttestationRecord :=
  { attestor := attestor, attestedAt := env.now, expiresAt := expiresAt
    attestationValue := value, metadata := none }

namespace AttestationBook

variable (b : AttestationBook)

theorem records_congr {b b' : AttestationBook} (h : b'.attestors = b.attestors) :
    b'.records = b.records := by
  funext id
  simp only [records, h]

@[simp] theorem records_setRecords (id id' : Nat) (l : List AttestationRecord) :
    (b.setRecords id l).records id' = if id' = id then l else b.records id' := by
  simp only [records, setRecords, Store.set_apply]
  split <;> rfl

@[simp] theorem records_appendRecord (id id' : Nat) (record : AttestationRecord) :
    (b.appendRecord id record).records id' =
      if id' = id then b.records id ++ [record] else b.records id' :=
  records_setRecords b id id' _

theorem recordCredentialSlice_eq (id sliceId : Nat) : b.recordCredentialSlice id sliceId =
      { b with credentialSlices := (b.recordCredentialSlice id sliceId).credentialSlices } := by
  unfold recordCredentialSlice
  dsimp only
  split <;> rfl

/-- The slices a credential is attested through, with one more. -/
def recordedSlices (slices : Store Nat (List Nat)) (id sliceId : Nat) : Store Nat (List Nat) :=
  if sliceId ∈ (slices id).getD [] then slices
  else slices.set id ((slices id).getD [] ++ [sliceId])

theorem recordCredentialSlice_credentialSlices (id sliceId : Nat) :
    (b.recordCredentialSlice id sliceId).credentialSlices =
      recordedSlices b.credentialSlices id sliceId := by
  unfold recordCredentialSlice recordedSlices getCredentialSlices
  dsimp only
  split <;> rfl

/-- The recorded forks, and the multi-signature requests with their counter. -/
def aside :=
  (b.forkInfo, b.attestationRequest, b.attestationRequestCount)

/-- The BBS+ flags, the accumulator with its members, and the proofs stored against it. -/
def bbs :=
  (b.bbsCredentialFlag, b.bbsAccumulator, b.bbsAccumulatorMember, b.bbsNonRevocationProof)

/-- Both. -/
def apart := (b.aside, b.bbs)

end AttestationBook

/-- The operation opens, signs or closes a multi-signature request. -/
def AttestationOp.handlesRequest : AttestationOp → Bool
  | requestMultisigAttestation .. => true
  | signAttestationRequest .. => true
  | rollbackAttestationRequest .. => true
  | checkAndRollbackAttestation .. => true
  | _ => false

/-- The operation writes the accumulator, or a proof against it. -/
def AttestationOp.accumulates : AttestationOp → Bool
  | addToRevocationAccumulator .. | createNonRevocationProof .. => true
  | _ => false

/-- The entry points that give somebody an attestation record. -/
def AttestationOp.attests : AttestationOp → Bool
  | attest .. | batchAttest .. | signAttestationRequest .. | processAttestationQueue .. => true
  | _ => false

/-- The operation counts the records it makes. -/
def AttestationOp.counts : AttestationOp → Bool
  | batchAttest .. | signAttestationRequest .. => false
  | _ => true

/-- The entry points that give somebody an attestation record. -/
def Op.attests : Op → Bool
  | attestation op => op.attests
  | _ => false

namespace State

variable (env : Env) (s : State)

/-- The member of a slice a caller attests for: themselves or their delegator. -/
def voter (env : Env) (s : State) (attestor : Address) (sliceId : Nat) : Option Address :=
  (s.slices.slices sliceId).bind fun slice =>
    (s.resolveAttestor env attestor sliceId slice).toOption

variable {attestor : Address}

theorem voter_eq_some {env : Env} {s : State} {resolved : Address} {sliceId : Nat}
    {slice : QuorumSlice} (hslice : s.slices.slices sliceId = some slice)
    (hresolved : s.resolveAttestor env attestor sliceId slice = .ok resolved) :
    s.voter env attestor sliceId = some resolved := by
  simp only [voter, hslice, Option.bind_some, hresolved, Except.toOption]

/-- How many attestations of a credential are counted. -/
def attestationCount (s : State) (id : Nat) : Nat :=
  (s.attestations.credentialAttestationCount id).getD 0

/-! ## One attestation -/

/-- **A successful `attest`**, made for the member `resolved` with the weight `weight`.  The entries
of the attestation queue are left open, since the queue marks the entry it attests for. -/
structure Attests (env : Env) (s : State) (attestor : Address) (id sliceId : Nat) (value : Bool)
    (expiresAt : Option Nat) (resolved : Address) (weight : Nat) (s' : State) : Prop where
  credential : ∃ c, s.registry.credentials id = some c
  voter : s.voter env attestor sliceId = some resolved
  uncaptured : s.attestations.attestationWeight (id, sliceId, resolved) = none
  attestors : s'.attestations.attestors =
    (s.attestations.appendRecord id (.made env resolved value expiresAt)).attestors
  attestationWeight : s'.attestations.attestationWeight =
    s.attestations.attestationWeight.set (id, sliceId, resolved) weight
  credentialSlices : s'.attestations.credentialSlices =
    AttestationBook.recordedSlices s.attestations.credentialSlices id sliceId
  counted : s'.attestations.credentialAttestationCount =
    s.attestations.credentialAttestationCount.set id (s.attestationCount id + 1)
  rest : s'.attestations =
    { s.attestations with
      attestors := s'.attestations.attestors
      attestationWeight := s'.attestations.attestationWeight
      credentialSlices := s'.attestations.credentialSlices
      credentialAttestationCount := s'.attestations.credentialAttestationCount
      attestorCount := s'.attestations.attestorCount
      holderAttestationCount := s'.attestations.holderAttestationCount
      attestationQueueEntry := s'.attestations.attestationQueueEntry }
  discipline : s'.discipline = s.discipline.rewardAttestorReputation env resolved
  cache : s'.cache = s.cache.invalidate id sliceId
  frame : AttestationFrame s s'

theorem attest_attests (attestor : Address) (id sliceId : Nat)
    (value : Bool) (expiresAt : Option Nat) :
    Ensures (s.attest env attestor id sliceId value expiresAt) fun r =>
      ∃ resolved weight,
        Attests env s attestor id sliceId value expiresAt resolved weight r.1 := by
  simp only [attest, ensures_steps, ensures_guards, AttestationBook.countAttestor,
    AttestationBook.countCredential, AttestationBook.countHolder, require_eq_ok]
  intro _ control _ control' _ _ _ _ c hc _ _ _ _ slice hslice resolved hresolved _ _ huncaptured
    weight _ _ _ _
  refine ⟨resolved, weight,
    { credential := ⟨c, hc⟩
      voter := voter_eq_some hslice hresolved
      uncaptured := huncaptured
      attestors := ?_
      attestationWeight := ?_
      credentialSlices := AttestationBook.recordCredentialSlice_credentialSlices _ _ _
      counted := ?_
      rest := ?_
      discipline := rfl
      cache := rfl
      frame := ⟨rfl, rfl, rfl⟩ }⟩
  all_goals
    rw [AttestationBook.recordCredentialSlice_eq]
    rfl

/-- **A processed queue entry is attested.** -/
theorem processQueueEntry_attests (entryId : Nat) :
    Ensures (s.processQueueEntry env entryId) fun s' =>
      ∃ entry resolved weight, s.attestations.attestationQueueEntry entryId = some entry ∧
        Attests env s entry.attestor entry.credentialId entry.sliceId entry.attestationValue
          entry.expiresAt resolved weight s' := by
  simp only [processQueueEntry, ensures_bind, ensures_expect, ensures_pure]
  intro entry hentry
  refine (attest_attests env _ _ _ _ _ _).mono ?_
  rintro ⟨s', _⟩ ⟨resolved, weight, h⟩
  refine ⟨entry, resolved, weight, hentry, { h with
    rest := ?_
    frame := ⟨h.frame.registry, h.frame.workflow, h.frame.slices⟩ }⟩
  simp only [setQueueEntry]
  rw [h.rest]
  rfl

/-! ## One iteration of a batch -/

/-- **A successful iteration of `batch_attest`**: it is made for an attestor without any record on
the credential, and writes the record, two counters and nothing else. -/
structure AttestsInBatch (env : Env) (s : State) (id sliceId : Nat) (resolved : Address)
    (value : Bool) (expiresAt : Option Nat) (s' : State) : Prop where
  unattested : ∀ record ∈ s.attestations.records id, record.attestor ≠ resolved
  attestors : s'.attestations.attestors =
    (s.attestations.appendRecord id (.made env resolved value expiresAt)).attestors
  rest : s'.attestations =
    { s.attestations with
      attestors := s'.attestations.attestors
      attestorCount := s'.attestations.attestorCount
      holderAttestationCount := s'.attestations.holderAttestationCount }
  discipline : s'.discipline = s.discipline
  cache : s'.cache = s.cache.invalidate id sliceId
  frame : AttestationFrame s s'

/-- It captures no weight. -/
theorem AttestsInBatch.attestationWeight {env : Env} {s s' : State} {id sliceId : Nat}
    {resolved : Address} {value : Bool} {expiresAt : Option Nat}
    (h : AttestsInBatch env s id sliceId resolved value expiresAt s') :
    s'.attestations.attestationWeight = s.attestations.attestationWeight := by
  rw [h.rest]

theorem batchAttestEntry_attests (sliceId : Nat) (resolved : Address) (value : Bool)
    (expiresAt : Option Nat) (s : State) (id : Nat) :
    Ensures (batchAttestEntry env sliceId resolved value expiresAt s id)
      (AttestsInBatch env s id sliceId resolved value expiresAt) := by
  simp only [batchAttestEntry, ensures_steps, ensures_guards, AttestationBook.countAttestor,
    AttestationBook.countHolder, require_eq_ok]
  intro _ c _ _ _ _ _ hunattested _ _
  exact ⟨hunattested, rfl, rfl, rfl, rfl, ⟨rfl, rfl, rfl⟩⟩

/-- A batch resolves its caller once and then iterates. -/
theorem batchAttest_effect (attestor : Address) (ids : List Nat)
    (sliceId : Nat) (value : Bool) (expiresAt : Option Nat) :
    Ensures (s.batchAttest env attestor ids sliceId value expiresAt) fun r =>
      ids ≠ [] ∧ ∃ control resolved, s.voter env attestor sliceId = some resolved ∧
        ids.foldlM (batchAttestEntry env sliceId resolved value expiresAt)
          { s with control := control } = .ok r.1 := by
  simp only [batchAttest, ensures_steps, ensures_guards, validateArrayBounds, require_eq_ok]
  intro _ control _ control' _ hnonempty _ _ _ slice hslice resolved hresolved _ s' hs'
  refine ⟨?_, control', resolved, voter_eq_some hslice hresolved, hs'⟩
  rintro rfl
  exact absurd hnonempty (by decide)

/-! ## A multi-signature request -/

/-- One more signature executes the request. -/
def completes (request : AttestationRequest) : Prop :=
  request.threshold ≤ request.signatures.length + 1
  deriving Decidable

/-- **A signature either executes the request or is added to it.** -/
theorem signAttestationRequest_effect (signer : Address) (requestId : Nat) :
    Ensures (s.signAttestationRequest env signer requestId) fun r =>
      ∃ control request signed, s.attestations.attestationRequest requestId = some request ∧
        signed = { request with signatures := request.signatures ++ [signer] } ∧
        if completes request then
          r.1 = ({ s with control := control }.setAttestationRequest requestId
            { signed with executed := true }).executeAttestationRequest env signed
        else r.1 = { s with control := control }.setAttestationRequest requestId signed := by
  simp only [signAttestationRequest, ensures_steps, ensures_guards, ensures_ite, List.length_append,
    List.length_singleton]
  intro _ _ _ control _ request hrequest _ _ _ _
  refine ⟨fun hcompletes _ _ => ⟨control, request, _, hrequest, rfl, ?_⟩,
    fun hcompletes => ⟨control, request, _, hrequest, rfl, ?_⟩⟩
  · exact (if_pos hcompletes).symm ▸ rfl
  · exact (if_neg hcompletes).symm ▸ rfl

/-- An executed request appends a record and may approve its credential; it writes nothing else. -/
theorem executeAttestationRequest_attestations (request : AttestationRequest) :
    (s.executeAttestationRequest env request).attestations =
      { s.attestations.appendRecord request.credentialId
          (.made env request.initiator request.attestationValue none) with
        multisigAttestationApproved :=
          if request.attestationValue = true then
            s.attestations.multisigAttestationApproved.set request.credentialId true
          else s.attestations.multisigAttestationApproved } := by
  unfold executeAttestationRequest
  split <;> rfl

end State

/-! ## Records -/

namespace State

variable {s s' : State}

/-- **Nobody gets a record**: some may be gone, and every other keeps its attestor, and its value
where no fork is on record. -/
def Thins (s s' : State) : Prop :=
  ∀ id, ∃ (keeps : AttestationRecord → Bool) (f : AttestationRecord → AttestationRecord),
    s'.attestations.records id = ((s.attestations.records id).filter keeps).map f ∧
    (∀ record, (f record).attestor = record.attestor) ∧
    ((∀ k, s.attestations.forkInfo k = none) →
      ∀ record, (f record).attestationValue = record.attestationValue)

theorem Thins.of_attestors (h : s'.attestations.attestors = s.attestations.attestors) :
    Thins s s' := by
  refine fun id => ⟨fun _ => true, fun record => record, ?_, fun _ => rfl, fun _ _ => rfl⟩
  simp [AttestationBook.records_congr h]

variable {id sliceId : Nat} {env : Env} {resolved : Address} {value : Bool} {expiresAt : Option Nat}

/-- One credential's records are rewritten. -/
theorem Thins.of_setRecords {p : AttestationRecord → Bool}
    {f : AttestationRecord → AttestationRecord}
    (h : s'.attestations.attestors = (s.attestations.setRecords id
      (((s.attestations.records id).filter p).map f)).attestors)
    (hattestor : ∀ record, (f record).attestor = record.attestor)
    (hvalue : (∀ k, s.attestations.forkInfo k = none) →
      ∀ record, (f record).attestationValue = record.attestationValue) : Thins s s' := by
  intro id'
  rw [AttestationBook.records_congr h, AttestationBook.records_setRecords]
  by_cases hid : id' = id
  · subst hid
    exact ⟨p, f, if_pos rfl, hattestor, hvalue⟩
  · refine ⟨fun _ => true, fun record => record, ?_, fun _ => rfl, fun _ _ => rfl⟩
    simp [hid]

/-- **As many attestations are counted as there are more records**, of every credential. -/
def CountsRecords (s s' : State) : Prop :=
  ∀ id, s'.attestationCount id + (s.attestations.records id).length =
    s.attestationCount id + (s'.attestations.records id).length

theorem CountsRecords.of_length
    (hcount : s'.attestations.credentialAttestationCount =
      s.attestations.credentialAttestationCount)
    (hlength : ∀ id, (s'.attestations.records id).length = (s.attestations.records id).length) :
    CountsRecords s s' := by
  intro id
  rw [attestationCount, hcount, hlength]
  rfl

/-- A credential's records are rewritten, one for one. -/
theorem length_records_setRecords {b b' : AttestationBook}
    {f : AttestationRecord → AttestationRecord}
    (h : b'.attestors = (b.setRecords id ((b.records id).map f)).attestors) (id' : Nat) :
    (b'.records id').length = (b.records id').length := by
  rw [AttestationBook.records_congr h, AttestationBook.records_setRecords]
  split
  next hid => rw [List.length_map, hid]
  next => rfl

theorem Attests.countsRecords {weight : Nat}
    (h : Attests env s attestor id sliceId value expiresAt resolved weight s') :
    CountsRecords s s' := by
  intro id'
  rw [AttestationBook.records_congr h.attestors, AttestationBook.records_appendRecord,
    attestationCount, h.counted, Store.set_apply]
  split
  next hid =>
    rw [hid, List.length_append, Option.getD_some, Nat.add_right_comm, Nat.add_assoc]
    rfl
  next => rfl

/-! ## The operations on attestations -/

/-- Attestors are rewarded, one after another. -/
def Rewards (env : Env) : Discipline → Discipline → Prop :=
  Relation.ReflTransGen fun d d' => ∃ attestor, d' = d.rewardAttestorReputation env attestor

/-- Rewards leave the rest of the disciplinary record. -/
theorem Rewards.rest {d d' : Discipline} (h : Rewards env d d') :
    d' = { d with attestorReputation := d'.attestorReputation } := by
  induction h with
  | refl => rfl
  | tail _ hstep ih =>
    obtain ⟨attestor, rfl⟩ := hstep
    rw [ih]
    rfl

/-- **What attesting leaves**: requests, forks and the keys of BBS+ credentials.  It earns
reputation. -/
structure Attesting (env : Env) (counts : Bool) (s s' : State) : Prop where
  frame : AttestationFrame s s'
  rewards : Rewards env s.discipline s'.discipline
  apart : s'.attestations.apart = s.attestations.apart
  counted : counts = true → CountsRecords s s'

theorem Attesting.refl (env : Env) (counts : Bool) (s : State) : Attesting env counts s s :=
  ⟨.refl s, .refl, rfl, fun _ _ => rfl⟩

theorem Attesting.trans {counts : Bool} {s'' : State} (h : Attesting env counts s s')
    (h' : Attesting env counts s' s'') : Attesting env counts s s'' where
  frame := h.frame.trans h'.frame
  rewards := h.rewards.trans h'.rewards
  apart := h'.apart.trans h.apart
  counted hcounts id := by
    have := h.counted hcounts id
    have := h'.counted hcounts id
    omega

theorem Attesting.of_control {counts : Bool} {control : Control}
    (h : Attesting env counts { s with control := control } s') : Attesting env counts s s' :=
  ⟨⟨h.frame.registry, h.frame.workflow, h.frame.slices⟩, h.rewards, h.apart, h.counted⟩

theorem Attests.attesting {weight : Nat}
    (h : Attests env s attestor id sliceId value expiresAt resolved weight s') :
    Attesting env true s s' :=
  ⟨h.frame, .single ⟨resolved, h.discipline⟩, by rw [h.rest]; rfl, fun _ => h.countsRecords⟩

theorem AttestsInBatch.attesting (h : AttestsInBatch env s id sliceId resolved value expiresAt s') :
    Attesting env false s s' :=
  ⟨h.frame, h.discipline ▸ .refl, by rw [h.rest]; rfl, by rintro ⟨⟩⟩

/-- **What an operation on attestations does** beside attesting. -/
structure AttestationEffect (env : Env) (op : AttestationOp) (s s' : State) : Prop where
  frame : AttestationFrame s s'
  rewards : Rewards env s.discipline s'.discipline
  forkInfo : s'.attestations.forkInfo = s.attestations.forkInfo
  aside : op.handlesRequest = false → s'.attestations.aside = s.attestations.aside
  bbs : op.accumulates = false → s'.attestations.bbs = s.attestations.bbs
  thins : op.attests = false → Thins s s'
  counted : op.counts = true → CountsRecords s s'

theorem Attesting.effect {op : AttestationOp} (h : Attesting env op.counts s s')
    (hop : op.attests = true) : AttestationEffect env op s s' where
  frame := h.frame
  rewards := h.rewards
  forkInfo := congrArg (·.1.1) h.apart
  aside _ := congrArg Prod.fst h.apart
  bbs _ := congrArg Prod.snd h.apart
  thins hnot := absurd (hop.symm.trans hnot) (by simp)
  counted := h.counted

theorem signAttestationRequest_attestationEffect (env : Env) (s : State) (signer : Address)
    (requestId : Nat) :
    Ensures (s.signAttestationRequest env signer requestId) fun r =>
      AttestationEffect env (.signAttestationRequest signer requestId) s r.1 := by
  refine (signAttestationRequest_effect env s signer requestId).mono ?_
  rintro r ⟨control, request, signed, -, rfl, heffect⟩
  split at heffect
  next =>
    have hattestations := executeAttestationRequest_attestations env
      ({ s with control := control }.setAttestationRequest requestId
        { request with signatures := request.signatures ++ [signer], executed := true })
      { request with signatures := request.signatures ++ [signer] }
    rw [heffect]
    refine ⟨⟨rfl, rfl, rfl⟩, .refl, ?_, by rintro ⟨⟩, fun _ => ?_, by rintro ⟨⟩, by rintro ⟨⟩⟩
    all_goals
      rw [hattestations]
      rfl
  next =>
    rw [heffect]
    exact ⟨⟨rfl, rfl, rfl⟩, .refl, rfl, by rintro ⟨⟩, fun _ => rfl, by rintro ⟨⟩, by rintro ⟨⟩⟩

theorem attestationOp_effect (env : Env) (s : State) (op : AttestationOp) :
    Ensures (op.apply env s) (AttestationEffect env op s) := by
  cases op
  case attest attestor id sliceId value expiresAt =>
    refine ensures_map.mpr ((attest_attests env s attestor id sliceId value expiresAt).mono ?_)
    rintro _ ⟨resolved, weight, h⟩
    exact h.attesting.effect rfl
  case batchAttest attestor ids sliceId value expiresAt =>
    refine ensures_map.mpr fun r hr => ?_
    obtain ⟨-, control, resolved, -, hloop⟩ :=
      batchAttest_effect env s attestor ids sliceId value expiresAt r hr
    have hattesting := ensures_foldlM (Attesting.refl env false) Attesting.trans (fun id _ u =>
      (batchAttestEntry_attests env sliceId resolved value expiresAt u id).mono
        fun _ h => h.attesting) _ r.1 hloop
    exact hattesting.of_control.effect rfl
  case processAttestationQueue caller maxEntries =>
    simp only [AttestationOp.apply, ensures_steps, processAttestationQueue, ensures_guards]
    intro _ control _
    refine (ensures_foldlM (Attesting.refl env true) Attesting.trans (fun id _ u =>
      (processQueueEntry_attests env u id).mono ?_) _).mono fun _ h => h.of_control.effect rfl
    rintro _ ⟨entry, resolved, weight, -, h⟩
    exact h.attesting
  case signAttestationRequest signer requestId =>
    exact ensures_map.mpr (signAttestationRequest_attestationEffect env s signer requestId)
  case renewAttestation attestor id newExpiresAt =>
    simp only [AttestationOp.apply, ensures_steps, renewAttestation, ensures_guards]
    intro _ _ _ c _ _ _ _ _
    refine ⟨⟨rfl, rfl, rfl⟩, .refl, rfl, fun _ => rfl, fun _ => rfl, fun _ =>
      .of_setRecords (p := fun _ => true) (by rw [List.filter_true]; rfl)
        (fun record => ?_) fun _ record => ?_,
      fun _ => .of_length rfl (length_records_setRecords (by rfl))⟩
    · split <;> rfl
    · split <;> rfl
  case resolveFork resolver id sliceId =>
    simp only [AttestationOp.apply, ensures_steps, resolveFork, ensures_guards]
    intro _ _ _ fork hrecorded slice _
    refine ⟨⟨rfl, rfl, rfl⟩, .refl, rfl, fun _ => rfl, fun _ => rfl, fun _ =>
      .of_setRecords (p := fun _ => true) (by rw [List.filter_true])
        (fun record => ?_) fun hnone => ?_,
      fun _ => .of_length rfl (length_records_setRecords (by rfl))⟩
    · split <;> rfl
    · -- the fork it asks for is on record
      exact absurd ((hnone (id, sliceId)).symm.trans hrecorded) (by simp)
  case checkAndRollbackAttestation requestId =>
    simp only [AttestationOp.apply, ensures_steps, checkAndRollbackAttestation, ensures_guards,
      ensures_ite]
    intro _ _ request _
    constructor
    all_goals
      intro _
      exact ⟨⟨rfl, rfl, rfl⟩, .refl, rfl, by rintro ⟨⟩, fun _ => rfl, fun _ => .of_attestors rfl,
        fun _ => .of_length rfl fun _ => rfl⟩
  all_goals
    simp only [AttestationOp.apply, ensures_steps, setAttestationExpiry, setAttestationWindow,
      setAttestationTimeLock, clearAttestationTimeLock, setAttestationPolicy,
      requestMultisigAttestation, rollbackAttestationRequest, addToAttestationQueue,
      setAttestationPriority, removeFromAttestationQueue, addToRevocationAccumulator,
      createNonRevocationProof, ensures_guards]
    intros
    refine ⟨⟨rfl, rfl, rfl⟩, .refl, rfl, fun hop => ?_, fun hop => ?_, fun _ => .of_attestors rfl,
      fun _ => .of_length rfl fun _ => rfl⟩
    all_goals first | rfl | cases hop

end State

end QuorumProof
