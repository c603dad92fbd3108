import QuorumProof.Contract.CacheGuards

/-!
# Contract/AttestationGuards — what attesting does to cached answers

An attestation is made for a pair of a credential and a slice, and removes the answer about that
pair.  It changes the records of the credential, which every slice's decision reads, and may change
the attestor's reputation, which every slice that scales weights reads.
-/

namespace QuorumProof

open Guarded

namespace State

variable {s s' s'' : State} {id sliceId : Nat}

/-! ## Attesting -/

/-- **Attestations are made for the targets**: the answers about them are removed, and what is
written belongs to their credentials — or is somebody's reputation. -/
structure AttestsFor (targets : List (Nat × Nat)) (s s' : State) : Prop where
  frame : AttestationFrame s s'
  attestations : ∀ id, (∀ target ∈ targets, target.1 ≠ id) → s'.dossier id = s.dossier id
  suspendedAttestor : s'.discipline.suspendedAttestor = s.discipline.suspendedAttestor
  rewards : targets = [] → s'.discipline = s.discipline
  slots : ∀ k, s'.cache.attestVerifyCache k =
    if k ∈ targets then none else s.cache.attestVerifyCache k

theorem AttestsFor.refl (s : State) : AttestsFor [] s s where
  frame := .refl s
  attestations _ _ := rfl
  suspendedAttestor := rfl
  rewards _ := rfl
  slots k := (if_neg (by simp)).symm

theorem AttestsFor.trans {first second : List (Nat × Nat)} (h : AttestsFor first s s')
    (h' : AttestsFor second s' s'') : AttestsFor (first ++ second) s s'' where
  frame := h.frame.trans h'.frame
  attestations id htargets := by
    have hfirst := h.attestations id fun t ht => htargets t (List.mem_append_left _ ht)
    have hsecond := h'.attestations id fun t ht => htargets t (List.mem_append_right _ ht)
    exact hsecond.trans hfirst
  suspendedAttestor := h'.suspendedAttestor.trans h.suspendedAttestor
  rewards hnil := by
    obtain ⟨hfirst, hsecond⟩ := List.append_eq_nil_iff.mp hnil
    exact (h'.rewards hsecond).trans (h.rewards hfirst)
  slots k := by
    rw [h'.slots, h.slots]
    by_cases hsecond : k ∈ second
    · simp [hsecond]
    · simp [hsecond]

theorem records_append_of_ne {id₀ : Nat} {record : AttestationRecord} (hid : id ≠ id₀)
    (h : s'.attestations.attestors = (s.attestations.appendRecord id₀ record).attestors) :
    s'.attestations.records id = s.attestations.records id := by
  rw [AttestationBook.records_congr h, AttestationBook.records_appendRecord, if_neg hid]

/-- What an attestation for one credential leaves of the others. -/
theorem dossier_eq_of_append {id₀ : Nat} {record : AttestationRecord} (hid : id ≠ id₀)
    (hregistry : s'.registry = s.registry)
    (hattestors : s'.attestations.attestors = (s.attestations.appendRecord id₀ record).attestors)
    (hweights : ∀ sliceId a, s'.attestations.attestationWeight (id, sliceId, a) =
      s.attestations.attestationWeight (id, sliceId, a))
    (hrecorded : s'.attestations.getCredentialSlices id = s.attestations.getCredentialSlices id)
    (hrest : s'.attestations =
      { s.attestations with
        attestors := s'.attestations.attestors
        attestationWeight := s'.attestations.attestationWeight
        credentialSlices := s'.attestations.credentialSlices
        credentialAttestationCount := s'.attestations.credentialAttestationCount
        attestorCount := s'.attestations.attestorCount
        holderAttestationCount := s'.attestations.holderAttestationCount
        attestationQueueEntry := s'.attestations.attestationQueueEntry }) :
    s'.dossier id = s.dossier id := by
  simp only [dossier, records_append_of_ne hid hattestors, hweights, hrecorded,
    verifyNonRevocation, isMultisigApproved, hregistry]
  rw [hrest]

theorem AttestsFor.single (hframe : AttestationFrame s s')
    (hattestations : ∀ id' ≠ id, s'.dossier id' = s.dossier id')
    (hsuspended : s'.discipline.suspendedAttestor = s.discipline.suspendedAttestor)
    (hcache : s'.cache = s.cache.invalidate id sliceId) : AttestsFor [(id, sliceId)] s s' where
  frame := hframe
  attestations id' htargets :=
    hattestations id' fun heq => htargets _ (List.mem_singleton.mpr rfl) heq.symm
  suspendedAttestor := hsuspended
  rewards hnil := absurd hnil (List.cons_ne_nil _ _)
  slots k := by
    rw [hcache, VerificationCache.invalidate_apply]
    exact if_congr List.mem_singleton.symm rfl rfl

theorem Attests.attestsFor {env : Env} {attestor resolved : Address} {weight : Nat} {value : Bool}
    {expiresAt : Option Nat}
    (h : Attests env s attestor id sliceId value expiresAt resolved weight s') :
    AttestsFor [(id, sliceId)] s s' := by
  refine .single h.frame (fun id' hne => ?_) (by rw [h.discipline]; rfl) h.cache
  refine dossier_eq_of_append hne h.frame.registry h.attestors (fun sl a => ?_) ?_ h.rest
  · rw [h.attestationWeight]
    exact Store.set_of_ne fun heq => hne (congrArg Prod.fst heq)
  · unfold AttestationBook.getCredentialSlices
    rw [h.credentialSlices, AttestationBook.recordedSlices]
    split
    · rfl
    · rw [Store.set_of_ne hne]

theorem AttestsInBatch.attestsFor {env : Env} {resolved : Address} {value : Bool}
    {expiresAt : Option Nat} (h : AttestsInBatch env s id sliceId resolved value expiresAt s') :
    AttestsFor [(id, sliceId)] s s' := by
  refine .single h.frame (fun id' hne => ?_) (by rw [h.discipline]) h.cache
  refine dossier_eq_of_append hne h.frame.registry h.attestors (fun sl a => ?_) ?_ ?_
  · rw [h.attestationWeight]
  · rw [h.rest]
    rfl
  · rw [h.rest]

/-- **Attestations guard the pairs they are made for**, and the pairs of other credentials whose
weights no reputation moves. -/
theorem AttestsFor.guards {targets : List (Nat × Nat)} (h : AttestsFor targets s s')
    {P : Nat → Nat → Prop}
    (hP : ∀ id sliceId, P id sliceId → (id, sliceId) ∉ targets →
      (∀ target ∈ targets, target.1 ≠ id) ∧
        (s.ScalesWeights sliceId → s'.discipline = s.discipline)) : Guards P s s' where
  credentialCount_le := by rw [h.frame.registry]
  sliceCount_le := by rw [h.frame.slices]
  answers id sliceId := by
    rw [h.slots]
    by_cases htarget : (id, sliceId) ∈ targets
    · exact .inl (if_pos htarget)
    refine .inr ⟨if_neg htarget, fun _ hpair => ?_⟩
    obtain ⟨hother, hdiscipline⟩ := hP id sliceId hpair htarget
    refine .of_attestations h.frame (h.attestations id hother)
      ⟨fun k _ a => ?_, fun hscales a => ?_⟩
    · rw [Discipline.isAttestorSuspended, h.suspendedAttestor]
      rfl
    · rw [hdiscipline hscales]

/-- The pair a queue entry is about. -/
def queueTarget (s : State) (entryId : Nat) : Option (Nat × Nat) :=
  (s.attestations.attestationQueueEntry entryId).map fun entry =>
    (entry.credentialId, entry.sliceId)

/-- The pairs `process_attestation_queue` attests for. -/
def queueTargets (s : State) (maxEntries : Nat) : List (Nat × Nat) :=
  (((sortQueue s.queuedEntries).take (min maxEntries 50)).map (·.2.2)).filterMap s.queueTarget

theorem queueTarget_setQueueEntry {entryId : Nat} {entry entry' : AttestationQueueEntry}
    (hentry : s.attestations.attestationQueueEntry entryId = some entry)
    (hid : entry'.credentialId = entry.credentialId) (hslice : entry'.sliceId = entry.sliceId) :
    (s.setQueueEntry entryId entry').queueTarget = s.queueTarget := by
  funext k
  simp only [queueTarget, setQueueEntry, Store.set_apply]
  split
  next heq => rw [heq, hentry, Option.map_some, Option.map_some, hid, hslice]
  next => rfl

/-- Attesting leaves the queue. -/
theorem attest_queueEntry (env : Env) (s : State) (attestor : Address) (id sliceId : Nat)
    (value : Bool) (expiresAt : Option Nat) :
    Ensures (s.attest env attestor id sliceId value expiresAt) fun r =>
      r.1.attestations.attestationQueueEntry = s.attestations.attestationQueueEntry := by
  simp only [attest, ensures_steps, ensures_guards, AttestationBook.countAttestor,
    AttestationBook.countCredential, AttestationBook.countHolder]
  intro _ _ _ _ _ _ _ _ c _ _ _ _ _ slice _ resolved _ _ _ _ weight _ _ _ _
  rw [AttestationBook.recordCredentialSlice_eq]
  rfl

/-- A processed entry keeps the pair it is about, and so do the others. -/
theorem processQueueEntry_queueTarget (env : Env) (s : State) (entryId : Nat) :
    Ensures (s.processQueueEntry env entryId) fun s' => s'.queueTarget = s.queueTarget := by
  simp only [processQueueEntry, ensures_bind, ensures_expect, ensures_pure]
  intro entry hentry
  refine (attest_queueEntry env _ _ _ _ _ _).mono fun r hqueue => ?_
  -- the entry is marked twice, the second time over the first
  have hprocessing : (s.setQueueEntry entryId { entry with status := .processing }).queueTarget =
      s.queueTarget := queueTarget_setQueueEntry hentry rfl rfl
  have hattested : r.1.queueTarget =
      (s.setQueueEntry entryId { entry with status := .processing }).queueTarget := by
    funext k
    rw [queueTarget, hqueue]
    rfl
  have hmarked : r.1.attestations.attestationQueueEntry entryId =
      some { entry with status := .processing } := by
    rw [hqueue]
    exact Store.set_self _ _ _
  rw [queueTarget_setQueueEntry hmarked, hattested, hprocessing] <;> rfl

theorem processQueue_attestsFor (env : Env) (entryIds : List Nat) (s : State) :
    Ensures (entryIds.foldlM (processQueueEntry env) s)
      (AttestsFor (entryIds.filterMap s.queueTarget) s) := by
  induction entryIds generalizing s with
  | nil => exact ensures_pure.mpr (.refl s)
  | cons entryId rest ih =>
    rw [List.foldlM_cons, ensures_bind]
    intro s' hs'
    obtain ⟨entry, resolved, weight, hentry, hattested⟩ :=
      processQueueEntry_attests env s entryId s' hs'
    have htarget : s.queueTarget entryId = some (entry.credentialId, entry.sliceId) := by
      rw [queueTarget, hentry]
      rfl
    have hrest := ih s'
    rw [processQueueEntry_queueTarget env s entryId s' hs'] at hrest
    rw [List.filterMap_cons, htarget]
    exact hrest.mono fun _ h => hattested.attestsFor.trans h

theorem batchAttest_attestsFor (env : Env) (resolved : Address) (value : Bool)
    (expiresAt : Option Nat) (ids : List Nat) (s : State) :
    Ensures (ids.foldlM (batchAttestEntry env sliceId resolved value expiresAt) s) fun s' =>
      AttestsFor (ids.map fun id => (id, sliceId)) s s' ∧ s'.discipline = s.discipline := by
  induction ids generalizing s with
  | nil => exact ensures_pure.mpr ⟨.refl s, rfl⟩
  | cons id rest ih =>
    rw [List.foldlM_cons, ensures_bind]
    intro s' hs'
    have hattested := batchAttestEntry_attests env sliceId resolved value expiresAt s id s' hs'
    exact (ih s').mono fun _ h =>
      ⟨hattested.attestsFor.trans h.1, h.2.trans hattested.discipline⟩

/-- Attesting for the targets removes the answer about the pair, or is about other credentials and
moves no weight of the slice. -/
def SparedByAttesting (s : State) (id sliceId : Nat) (targets : List (Nat × Nat)) : Prop :=
  (id, sliceId) ∈ targets ∨ ∀ target ∈ targets, target.1 ≠ id ∧ ¬ s.ScalesWeights sliceId
  deriving Decidable

theorem AttestsFor.guards_spared {targets : List (Nat × Nat)} (h : AttestsFor targets s s') :
    Guards (fun id sliceId => s.SparedByAttesting id sliceId targets) s s' := by
  refine h.guards fun id sliceId hspared htarget => ?_
  have hother := hspared.resolve_left htarget
  refine ⟨fun target ht => (hother target ht).1, fun hscales => h.rewards ?_⟩
  exact List.eq_nil_iff_forall_not_mem.mpr fun target ht => (hother target ht).2 hscales

end State

/-! ## The operations on attestations -/

open State in
/-- The pairs an operation on attestations guards. -/
def AttestationOp.Spares (s : State) (id sliceId : Nat) : AttestationOp → Prop
  | attest _ id' sliceId' _ _ => s.SparedByAttesting id sliceId [(id', sliceId')]
  | processAttestationQueue _ maxEntries =>
    s.SparedByAttesting id sliceId (s.queueTargets maxEntries)
  | batchAttest _ ids sliceId' _ _ => sliceId = sliceId' ∨ id ∉ ids
  | setAttestationExpiry _ id' _ | setAttestationTimeLock _ id' _ _
  | clearAttestationTimeLock _ id' => id ≠ id'
  | setAttestationPolicy _ credentialType _ _ =>
    ∀ c ∈ s.registry.credentials id, c.credentialType ≠ credentialType
  | signAttestationRequest _ requestId =>
    ∀ request ∈ s.attestations.attestationRequest requestId,
      completes request → id ≠ request.credentialId
  | addToRevocationAccumulator _ _ _ => s.attestations.bbsCredentialFlag id = none
  | createNonRevocationProof _ id' _ => id ≠ id' ∨ s.attestations.bbsCredentialFlag id = none
  | _ => True

instance (s : State) (id sliceId : Nat) (op : AttestationOp) :
    Decidable (op.Spares s id sliceId) := by
  unfold AttestationOp.Spares
  split <;> infer_instance

namespace State

variable {s s' : State}

/-- Of the keys the decision reads, those of some credentials are written. -/
theorem Guards.of_attestations {P : Nat → Nat → Prop} (hframe : AttestationFrame s s')
    (hdiscipline : s'.discipline = s.discipline) (hcache : s'.cache = s.cache)
    (h : ∀ id sliceId, P id sliceId → s'.dossier id = s.dossier id) : Guards P s s' :=
  .of_cache hframe hcache fun id sliceId hpair =>
    ⟨h id sliceId hpair, .of_eq hdiscipline id sliceId⟩

/-- An executed request writes nothing for the other credentials. -/
theorem executeAttestationRequest_dossier (env : Env) (s : State)
    (request : AttestationRequest) {id : Nat} (hid : id ≠ request.credentialId) :
    (s.executeAttestationRequest env request).dossier id = s.dossier id := by
  have h := executeAttestationRequest_attestations env s request
  have hset : (s.executeAttestationRequest env request).attestations.multisigAttestationApproved
      id = s.attestations.multisigAttestationApproved id := by
    rw [h]
    split
    · exact Store.set_of_ne hid
    · rfl
  have happroved : (s.executeAttestationRequest env request).isMultisigApproved id =
      s.isMultisigApproved id := by
    rw [isMultisigApproved, hset, h]
    rfl
  have hrecords : (s.executeAttestationRequest env request).attestations.records id =
      s.attestations.records id := records_append_of_ne hid (by rw [h])
  simp only [dossier, hrecords, happroved, verifyNonRevocation]
  rw [h]
  rfl

theorem signAttestationRequest_guards (env : Env) (s : State) (signer : Address)
    (requestId : Nat) :
    Ensures (s.signAttestationRequest env signer requestId) fun r =>
      Guards ((AttestationOp.signAttestationRequest signer requestId).Spares s · ·) s r.1 := by
  refine (signAttestationRequest_effect env s signer requestId).mono ?_
  rintro r ⟨control, request, signed, hrequest, rfl, heffect⟩
  split at heffect
  next hcompletes =>
    rw [heffect]
    refine .of_attestations ⟨rfl, rfl, rfl⟩ rfl rfl fun id _ hspares => ?_
    exact executeAttestationRequest_dossier env
      ({ s with control := control }.setAttestationRequest requestId
        { request with signatures := request.signatures ++ [signer], executed := true })
      { request with signatures := request.signatures ++ [signer] }
      (hspares request hrequest hcompletes)
  next =>
    rw [heffect]
    exact .of_attestations ⟨rfl, rfl, rfl⟩ rfl rfl fun _ _ _ => rfl

theorem attestationOp_guards (env : Env) (op : AttestationOp)
    (hfork : ∀ k, s.attestations.forkInfo k = none) :
    Ensures (op.apply env s) (Guards (fun id sliceId => op.Spares s id sliceId) s) := by
  cases op
  case attest attestor id sliceId value expiresAt =>
    refine ensures_map.mpr ((attest_attests env s attestor id sliceId value expiresAt).mono ?_)
    rintro r ⟨resolved, weight, h⟩
    exact h.attestsFor.guards_spared
  case batchAttest attestor ids sliceId value expiresAt =>
    refine ensures_map.mpr fun r hr => ?_
    obtain ⟨-, control, resolved, -, hloop⟩ :=
      batchAttest_effect env s attestor ids sliceId value expiresAt r hr
    obtain ⟨hattested, hdiscipline⟩ :=
      batchAttest_attestsFor env resolved value expiresAt ids _ r.1 hloop
    refine .of_control (hattested.guards fun id sliceId' hspared htarget =>
      ⟨?_, fun _ => hdiscipline⟩)
    -- a pair of the batch's slice that is no target belongs to a credential outside the batch
    have hnotin : id ∉ ids := by
      obtain rfl | hnotin := hspared
      · exact fun hid => htarget (List.mem_map_of_mem hid)
      · exact hnotin
    simp only [List.mem_map]
    rintro _ ⟨id', hid', rfl⟩ rfl
    exact hnotin hid'
  case processAttestationQueue caller maxEntries =>
    simp only [AttestationOp.apply, ensures_steps, processAttestationQueue, ensures_guards]
    intro _ control _
    exact (processQueue_attestsFor env _ _).mono fun _ h => h.guards_spared.of_control
  case resolveFork resolver id sliceId =>
    -- the fork it asks for is never on record
    simp only [AttestationOp.apply, ensures_steps, resolveFork, ensures_guards]
    intro _ _ _ fork hrecorded
    exact absurd ((hfork (id, sliceId)).symm.trans hrecorded) (by simp)
  case renewAttestation attestor id newExpiresAt =>
    simp only [AttestationOp.apply, ensures_steps, renewAttestation, ensures_guards]
    intro _ _ _ c _ _ _ _ _
    exact .of_invalidateCredential ⟨rfl, rfl, rfl⟩ rfl fun k sliceId hk _ =>
      ⟨dossier_eq_of_setRecords rfl hk rfl, .of_eq (by rfl) k sliceId⟩
  case setAttestationExpiry issuer id expiresAt =>
    simp only [AttestationOp.apply, ensures_steps, setAttestationExpiry, ensures_guards]
    intro _ _ _ _ c _ _ _
    exact .of_attestations ⟨rfl, rfl, rfl⟩ rfl rfl fun k _ hspares =>
      congrArg (fun expiry => { s.dossier k with expiry := expiry }) (Store.set_of_ne hspares)
  case setAttestationTimeLock issuer id releaseAt reasonBytes =>
    simp only [AttestationOp.apply, ensures_steps, setAttestationTimeLock, ensures_guards]
    intro _ _ _ c _ _ _ _
    exact .of_attestations ⟨rfl, rfl, rfl⟩ rfl rfl fun k _ hspares =>
      congrArg (fun lock => { s.dossier k with timeLock := lock }) (Store.set_of_ne hspares)
  case clearAttestationTimeLock issuer id =>
    simp only [AttestationOp.apply, ensures_steps, clearAttestationTimeLock, ensures_guards]
    intro _ _ _ c _ _
    exact .of_attestations ⟨rfl, rfl, rfl⟩ rfl rfl fun k _ hspares =>
      congrArg (fun lock => { s.dossier k with timeLock := lock }) (Store.remove_of_ne hspares)
  case setAttestationPolicy admin credentialType threshold windowSeconds =>
    simp only [AttestationOp.apply, ensures_steps, setAttestationPolicy, ensures_guards]
    intro _ _ _ _ _ _ _
    refine .of_attestations ⟨rfl, rfl, rfl⟩ rfl rfl fun k _ hspares =>
      congrArg (fun approved => { s.dossier k with approved := approved }) ?_
    unfold isMultisigApproved
    cases hc : s.registry.credentials k with
    | none => rfl
    | some c => simp only [Store.set_of_ne (hspares c hc)]
  case signAttestationRequest signer requestId =>
    exact ensures_map.mpr (signAttestationRequest_guards env s signer requestId)
  case addToRevocationAccumulator caller id value =>
    simp only [AttestationOp.apply, ensures_steps, addToRevocationAccumulator, ensures_guards]
    intro _ _
    refine .of_attestations ⟨rfl, rfl, rfl⟩ rfl rfl fun k _ hspares =>
      congrArg (fun unproved => { s.dossier k with unproved := unproved }) ?_
    have hflag : s.attestations.bbsCredentialFlag k = none := hspares
    simp [hflag]
  case createNonRevocationProof holder id proofBytes =>
    simp only [AttestationOp.apply, ensures_steps, createNonRevocationProof]
    intro _ accumulator _
    refine .of_attestations ⟨rfl, rfl, rfl⟩ rfl rfl fun k _ hspares =>
      congrArg (fun unproved => { s.dossier k with unproved := unproved }) ?_
    obtain hk | hflag := hspares
    · simp only [verifyNonRevocation, Store.set_of_ne hk]
    · simp [hflag]
  case checkAndRollbackAttestation requestId =>
    simp only [AttestationOp.apply, ensures_steps, checkAndRollbackAttestation, ensures_guards,
      ensures_ite]
    intro _ _ request _
    constructor
    all_goals
      intro _
      exact .of_attestations ⟨rfl, rfl, rfl⟩ rfl rfl fun _ _ _ => rfl
  all_goals
    simp only [AttestationOp.apply, ensures_steps, setAttestationWindow, requestMultisigAttestation,
      rollbackAttestationRequest, addToAttestationQueue, setAttestationPriority,
      removeFromAttestationQueue, ensures_guards]
    intros
    exact .of_attestations ⟨rfl, rfl, rfl⟩ rfl rfl fun _ _ _ => rfl

end State

end QuorumProof
