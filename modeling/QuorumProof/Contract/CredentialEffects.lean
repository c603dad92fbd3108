import QuorumProof.Contract.RegistryEffects

/-!
# Contract/CredentialEffects — what the operations on credentials do

Issuance, multi-signature issuance, revocation and the life of a credential leave slices, attestors
and attestations, and change the registry by effects.  An effect on a record either leaves what the
attestation decision reads of it, or the cached answers about the credential are removed — for the
slices up to the slice counter.  What waits in storage, a transfer, a recovery, a consent or an
issuance under a policy, is the business of a few entry points each.  `CredentialEffect` says all
this of an operation at once.
-/

namespace QuorumProof

open Guarded

/-- What of a credential's record the decision reads. -/
def Credential.standing (c : Credential) : Bool × Bool × Option Nat × Nat :=
  (c.revoked, c.suspended, c.expiresAt, c.credentialType)

/-- The recovery requests, how many there are, the one in progress for a credential, and the
approvals of each. -/
@[ext] structure Recoveries where
  request : Store Nat RecoveryRequest
  count : Nat
  current : Store Nat Nat
  approvals : Store Nat (List Address)

/-- The requests for a subject's consent, how many there are, and the one that waits for an issuer,
a subject and a type. -/
structure Consents where
  request : Store Nat ConsentRequest
  count : Nat
  pending : Store (Address × Address × Nat) Nat

namespace State

variable (s : State)

/-- The recoveries in storage. -/
def recoveries : Recoveries where
  request := s.workflow.recoveryRequest
  count := s.workflow.recoveryRequestCount
  current := s.workflow.credentialRecovery
  approvals := s.workflow.recoveryApprovals

/-- The consents in storage. -/
def consents : Consents where
  request := s.workflow.consentRequest
  count := s.workflow.consentRequestCount
  pending := s.workflow.pendingConsent

end State

namespace Op

/-- The operation issues under a policy, or sets one. -/
def handlesPolicy : Op → Bool
  | multisig _ => true
  | _ => false

/-- The operation asks for a transfer, or carries it out. -/
def handlesTransfer : Op → Bool
  | lifecycle (.initiateTransfer ..) => true
  | lifecycle (.acceptTransfer ..) => true
  | _ => false

/-- The operation asks for a recovery, or carries one on. -/
def handlesRecovery : Op → Bool
  | lifecycle (.initiateRecovery ..) => true
  | lifecycle (.approveRecovery ..) => true
  | lifecycle (.executeRecovery ..) => true
  | lifecycle (.cancelRecovery ..) => true
  | _ => false

/-- The operation asks for a subject's consent, gives it or uses it. -/
def handlesConsent : Op → Bool
  | issuance (.requestCredential ..) => true
  | issuance (.approveCredentialRequest ..) => true
  | issuance (.issueWithConsent ..) => true
  | _ => false

/-- What waits in storage to be carried out, of each kind that the operation does not handle. -/
def kept (op : Op) (s : State) :=
  (cond op.handlesPolicy none (some s.policies),
    cond op.handlesTransfer none (some s.workflow.transferRequest),
    cond op.handlesRecovery none (some s.recoveries),
    cond op.handlesConsent none (some s.consents))

end Op

namespace State

/-! ## Standing -/

/-- The record of a credential gives the decision the same inputs. -/
def SameStanding (s s' : State) (id : Nat) : Prop :=
  (s'.registry.credentials id).map Credential.standing =
      (s.registry.credentials id).map Credential.standing ∧
    s'.attestations.bbsCredentialFlag id = s.attestations.bbsCredentialFlag id

/-- **A cached answer is gone, or its credential is in the standing it was cached in.** -/
structure StandingFrame (s s' : State) : Prop where
  count_le : s.registry.credentialCount ≤ s'.registry.credentialCount
  sliceCount : s'.slices.sliceCount = s.slices.sliceCount
  guards : s.KeepsAnswers s' fun id _ => s.SameStanding s' id

namespace StandingFrame

variable {s s' s'' : State}

/-- The cache is left alone, and so is the standing of every credential issued so far. -/
theorem of_standing (hcount : s.registry.credentialCount ≤ s'.registry.credentialCount)
    (hslices : s'.slices.sliceCount = s.slices.sliceCount) (hcache : s'.cache = s.cache)
    (hstanding : ∀ id ≤ s.registry.credentialCount, s.SameStanding s' id) :
    StandingFrame s s' :=
  ⟨hcount, hslices, .of_cache hcache fun id _ hcounted => hstanding id hcounted.1.2⟩

theorem refl (s : State) : StandingFrame s s :=
  of_standing le_rfl rfl rfl fun _ _ => ⟨rfl, rfl⟩

theorem trans (h : StandingFrame s s') (h' : StandingFrame s' s'') : StandingFrame s s'' where
  count_le := h.count_le.trans h'.count_le
  sliceCount := h'.sliceCount.trans h.sliceCount
  guards id sliceId := by
    obtain hnone' | ⟨hsame', hstanding'⟩ := h'.guards id sliceId
    · exact .inl hnone'
    obtain hnone | ⟨hsame, hstanding⟩ := h.guards id sliceId
    · exact .inl (hsame'.trans hnone)
    refine .inr ⟨hsame'.trans hsame, fun hcounted => ?_⟩
    have hfirst := hstanding hcounted
    have hsecond := hstanding' (hcounted.mono h.count_le h.sliceCount.ge)
    exact ⟨hsecond.1.trans hfirst.1, hsecond.2.trans hfirst.2⟩

end StandingFrame

/-- **A record is written**: the cached answers about it are removed, or it is in the standing it
was in. -/
theorem StandingFrame.of_write {s s' : State} {id : Nat} {c c' : Credential}
    (hc : s.registry.credentials id = some c)
    (hcredentials : s'.registry.credentials = s.registry.credentials.set id c')
    (hcount : s'.registry.credentialCount = s.registry.credentialCount)
    (hslices : s'.slices = s.slices) (hattestations : s'.attestations = s.attestations)
    (hcache : s'.cache = s.cache.invalidateCredential s.slices.sliceCount id ∨
      s'.cache = s.cache ∧ c'.standing = c.standing) : StandingFrame s s' := by
  have hother : ∀ k ≠ id, s.SameStanding s' k := fun k hk =>
    ⟨by rw [hcredentials, Store.set_of_ne hk], by rw [hattestations]⟩
  rcases hcache with hcache | ⟨hcache, hstanding⟩
  · exact ⟨hcount.ge, by rw [hslices], .of_invalidateCredential hcache fun k _ hk => hother k hk⟩
  · refine .of_standing hcount.ge (by rw [hslices]) hcache fun k _ => ?_
    by_cases hk : k = id
    · subst hk
      refine ⟨?_, by rw [hattestations]⟩
      rw [hcredentials, Store.set_self, hc, Option.map_some, Option.map_some, hstanding]
    · exact hother k hk

/-- A credential is stored under a number that has not been handed out, and may get a flag. -/
theorem StandingFrame.of_issue {s s' : State} {c : Credential}
    (hcredentials :
      s'.registry.credentials = s.registry.credentials.set (s.registry.credentialCount + 1) c)
    (hcount : s'.registry.credentialCount = s.registry.credentialCount + 1)
    (hslices : s'.slices = s.slices)
    (hflags : ∀ id ≤ s.registry.credentialCount,
      s'.attestations.bbsCredentialFlag id = s.attestations.bbsCredentialFlag id)
    (hcache : s'.cache = s.cache) : StandingFrame s s' :=
  .of_standing (by omega) (by rw [hslices]) hcache fun id hid =>
    ⟨by rw [hcredentials, Store.set_of_ne (by omega)], hflags id hid⟩

/-! ## Effects -/

/-- What is left when no credential is written. -/
@[mk_iff] structure Beside (env : Env) (guarded : Bool) (op : Op) (s s' : State) : Prop where
  guards : GuardChain env guarded s.control s'.control
  registry : s'.registry = s.registry
  kept : op.kept s' = op.kept s
  slices : s'.slices = s.slices
  attestations : s'.attestations = s.attestations
  discipline : s'.discipline = s.discipline
  cache : s'.cache = s.cache

theorem Beside.standing {env : Env} {guarded : Bool} {op : Op} {s s' : State}
    (h : Beside env guarded op s s') : StandingFrame s s' :=
  .of_standing (by rw [h.registry]) (by rw [h.slices]) h.cache fun _ _ =>
    ⟨by rw [h.registry], by rw [h.attestations]⟩

/-- **What an operation on credentials does**, called on `s₀`: it leaves what `F` relates, changes
the registry by the effects it makes, the answers it leaves in the cache are still about the same
standing, and it leaves what it does not handle. -/
structure CredentialEffect (F : State → State → Prop) (op : Op) (s₀ s s' : State) : Prop where
  frame : F s s'
  writes : Writes (op.Makes s₀) s.registry s'.registry
  standing : StandingFrame s s'
  kept : op.kept s' = op.kept s

/-- The effect of an operation that issues nothing. -/
abbrev RecordEffect (env : Env) (guarded : Bool) := CredentialEffect (RecordFrame env guarded)

namespace RecordEffect

variable {env : Env} {guarded : Bool} {op : Op} {s₀ s s' s'' : State}

theorem of_beside (h : Beside env guarded op s s') : RecordEffect env guarded op s₀ s s' where
  frame := ⟨h.guards, h.slices, h.attestations, h.discipline⟩
  writes := h.registry ▸ .refl
  standing := h.standing
  kept := h.kept

theorem refl (s : State) : RecordEffect env false op s₀ s s :=
  of_beside ⟨.refl _, rfl, rfl, rfl, rfl, rfl, rfl⟩

theorem trans (h : RecordEffect env guarded op s₀ s s') (h' : RecordEffect env false op s₀ s' s'') :
    RecordEffect env guarded op s₀ s s'' where
  frame := h.frame.trans h'.frame
  writes := h.writes.trans h'.writes
  standing := h.standing.trans h'.standing
  kept := h'.kept.trans h.kept

/-- What is written beside the credentials before does not matter. -/
theorem after (h' : RecordEffect env false op s₀ s' s'') (h : Beside env guarded op s s') :
    RecordEffect env guarded op s₀ s s'' :=
  (of_beside h).trans h'

/-- Nor does what is written beside them afterwards. -/
theorem before (h : RecordEffect env guarded op s₀ s s') (h' : Beside env false op s' s'') :
    RecordEffect env guarded op s₀ s s'' :=
  h.trans (of_beside h')

/-- **An effect writes a record**, and the cached answers about it go unless its standing stays. -/
theorem of_write (e : Effect) {id : Nat} {c c' : Credential}
    (hwritten : e.written = some (id, c, c')) (hregistry : s'.registry = e.apply s.registry)
    (he : e.Enabled s.registry)
    (hmakes : op.Makes s₀ s.registry e) (hframe : RecordFrame env guarded s s')
    (hcache : s'.cache = s.cache.invalidateCredential s.slices.sliceCount id ∨
      s'.cache = s.cache ∧ c'.standing = c.standing)
    (hkept : op.kept s' = op.kept s) : RecordEffect env guarded op s₀ s s' where
  frame := hframe
  writes := hregistry ▸ .single e hmakes he
  standing := .of_write (he.found hwritten) (by rw [hregistry, e.credentials_apply hwritten])
    (by rw [hregistry, e.credentialCount_apply hwritten]) hframe.slices hframe.attestations hcache
  kept := hkept

/-- It is an effect that gives no credential a flag. -/
theorem credentialEffect (h : RecordEffect env guarded op s₀ s s') :
    CredentialEffect CredentialFrame op s₀ s s' :=
  { h with frame := ⟨h.frame.slices, by rw [h.frame.attestations], h.frame.discipline⟩ }

end RecordEffect

/-! ## Revocation -/

variable (env : Env) (s : State)

theorem revokeUnlessRevoked_effect {op : Op} {s₀ s : State} {id : Nat} {c : Credential}
    (hmakes : ∀ r, op.Makes s₀ r (.revoke id c)) (hc : s.registry.credentials id = some c) :
    RecordEffect env false op s₀ s (s.revokeUnlessRevoked id c) := by
  unfold revokeUnlessRevoked
  split
  · exact .refl s
  next hlive =>
    exact .of_write (.revoke id c) rfl rfl ⟨hc, by simpa using hlive⟩ (hmakes _)
      ⟨.refl _, rfl, rfl, rfl⟩ (.inl rfl) rfl

theorem revocationOp_effect (op : RevocationOp) :
    Ensures (op.apply env s) (RecordEffect env op.guarded (.revocation op) s s) := by
  cases op
  case revokeCredential issuer id =>
    simp only [RevocationOp.apply, ensures_steps, revokeCredential, ensures_guards, require_eq_ok]
    intro _ _ hguard _ hlimit c hc _ hlive _
    exact .of_write (.revoke id c) rfl rfl ⟨hc, hlive⟩ ⟨id, List.mem_cons_self, c, rfl⟩
      ⟨.requireNotPausedRateLimited hguard hlimit, rfl, rfl, rfl⟩ (.inl rfl) rfl
  case batchRevoke issuer ids =>
    simp only [RevocationOp.apply, ensures_steps, batchRevoke, ensures_guards]
    intro _ control hguard _
    refine (ensures_foldlM RecordEffect.refl RecordEffect.trans (fun id hid u => ?_) _).mono
      fun _ h => h.after ⟨.requireNotPaused hguard, rfl, rfl, rfl, rfl, rfl, rfl⟩
    simp only [batchRevokeEntry, ensures_steps, ensures_guards]
    intro c hc _
    exact revokeUnlessRevoked_effect env (fun _ => ⟨id, hid, c, rfl⟩) hc
  case approveRevocation issuer id =>
    simp only [RevocationOp.apply, ensures_steps, approveRevocation, ensures_guards]
    intro _ control hguard _ request _ c hc
    refine .after (revokeUnlessRevoked_effect env (fun _ => ?_) hc)
      ⟨.requireNotPaused hguard, rfl, rfl, rfl, rfl, rfl, rfl⟩
    exact ⟨id, List.mem_cons_self, c, rfl⟩
  case finalizeScheduledRevocation caller id =>
    simp only [RevocationOp.apply, ensures_steps, finalizeScheduledRevocation, ensures_guards]
    intro _ control hguard request _ _ c hc
    refine .before (.after (revokeUnlessRevoked_effect env (s := { s with control := control })
      (fun _ => ?_) hc) ⟨.requireNotPaused hguard, rfl, rfl, rfl, rfl, rfl, rfl⟩)
      ⟨.refl _, rfl, rfl, rfl, rfl, rfl, rfl⟩
    exact ⟨id, List.mem_cons_self, c, rfl⟩
  case activateRevocationRequest actor requestId =>
    simp only [RevocationOp.apply, ensures_steps, activateRevocationRequest, ensures_guards]
    intro request hrequest _ _ c hc _
    refine .before (revokeUnlessRevoked_effect env (fun _ => ?_) hc)
      ⟨.refl _, rfl, rfl, rfl, rfl, rfl, rfl⟩
    exact ⟨request.credentialId, by simp [Op.revoking, hrequest], c, rfl⟩
  case revokeConsent holder id =>
    simp only [RevocationOp.apply, ensures_steps, revokeConsent, ensures_guards, require_eq_ok]
    intro _ _ hguard _ hlimit c hc _ hlive
    exact .of_write (.consent id c) rfl rfl ⟨hc, hlive⟩ ⟨rfl, c, rfl⟩
      ⟨.requireNotPausedRateLimited hguard hlimit, rfl, rfl, rfl⟩ (.inl rfl) rfl
  case isRevoked id =>
    simp only [RevocationOp.apply, ensures_map]
    unfold isRevoked
    split
    · exact ensures_ok.mpr (.refl s)
    next hnone =>
      simp only [ensures_bind, ensures_guards, ensures_pure]
      intro c hc
      exact ⟨⟨.refl _, rfl, rfl, rfl⟩,
        .single (.cache id c.revoked) ⟨id, c.revoked, rfl⟩ ⟨hnone, c, hc, rfl⟩,
        .of_standing le_rfl rfl rfl fun _ _ => ⟨rfl, rfl⟩, rfl⟩
  case addRevocationAgent issuer agent =>
    simp only [RevocationOp.apply, ensures_steps, addRevocationAgent, ensures_guards]
    intro _ c hguard
    split <;> exact .of_beside
      ⟨.requireNotPaused hguard, rfl, rfl, rfl, rfl, rfl, rfl⟩
  all_goals
    refine Ensures.mono ?_ fun _ => RecordEffect.of_beside
    simp [RevocationOp.apply, RevocationOp.guarded, beside_iff, Op.kept, Op.handlesPolicy,
      Op.handlesTransfer, Op.handlesRecovery, Op.handlesConsent, policies, recoveries, consents,
      ensures_unit, requestRevocation, denyRevocation, scheduleRevocation,
      cancelScheduledRevocation, removeRevocationAgent, createRevocationRegistryRequest,
      setRevocationRequest, pendingRevocationRequest, setIssuerRevocationRequest,
      scheduledRevocation, setRevocationAgents, setRegistryRequest]
    grind

/-! ## The life of a credential -/

theorem amendEntry_effect {op : Op} {s₀ : State}
    (hmakes : ∀ r id c c', c'.suspended = c.suspended → op.Makes s₀ r (.amend id c c'))
    (issuer : Address) (entry : Nat × Bytes) (s : State) :
    Ensures (s.amendEntry issuer entry) (RecordEffect env false op s₀ s) := by
  unfold amendEntry
  split
  · exact ensures_ok.mpr (.refl s)
  next c hc =>
    simp only [ensures_ite, ensures_bind, ensures_guards, ensures_pure, ensures_ok]
    refine ⟨fun _ _ => ?_, fun _ => .refl s⟩
    exact .of_write (.amend _ c _) rfl rfl ⟨hc, rfl, rfl, rfl, rfl, rfl⟩ (hmakes _ _ _ _ rfl)
      ⟨.refl _, rfl, rfl, rfl⟩ (.inl rfl) rfl

theorem lifecycleOp_effect (op : LifecycleOp) :
    Ensures (op.apply env s) (RecordEffect env op.guarded (.lifecycle op) s s) := by
  cases op
  case executeBatchAmendment issuer batchId =>
    simp only [LifecycleOp.apply, ensures_steps, executeBatchAmendment, ensures_guards]
    intro _ control hguard batch _ _ _
    refine (ensures_foldlM RecordEffect.refl RecordEffect.trans (fun entry _ u =>
      amendEntry_effect env (fun _ id c c' heq => ?_) issuer entry u) _).mono fun _ h =>
        .before (h.after ⟨.requireNotPaused hguard, rfl, rfl, rfl, rfl, rfl, rfl⟩)
          ⟨.refl _, rfl, rfl, rfl, rfl, rfl, rfl⟩
    exact ⟨id, c, c', rfl, fun h => .inl (heq ▸ h)⟩
  case updateMetadata | amendCredential | updateMetadataSchemaVersion | renewCredentialWithGrace |
      setCredentialAutoRenew =>
    simp only [LifecycleOp.apply, ensures_steps, updateMetadata, amendCredential,
      updateMetadataSchemaVersion, renewCredentialWithGrace, setCredentialAutoRenew,
      ensures_guards]
    intros
    have hc := ‹s.registry.credentials _ = some _›
    have hguard := ‹s.control.requireNotPaused env = .ok _›
    refine .of_write (.amend _ _ _) rfl rfl ⟨hc, rfl, rfl, rfl, rfl, rfl⟩ ⟨_, _, _, rfl, .inl⟩
      ⟨.requireNotPaused hguard, rfl, rfl, rfl⟩ ?_ rfl
    -- some of them leave the standing and with it the cache
    first | exact .inl rfl | exact .inr ⟨rfl, rfl⟩
  case suspendCredential issuer id =>
    simp only [LifecycleOp.apply, ensures_steps, suspendCredential, ensures_guards]
    intro _ _ hguard c hc _ _ _ _
    exact .of_write (.amend id c _) rfl rfl ⟨hc, rfl, rfl, rfl, rfl, rfl⟩
      ⟨id, c, _, rfl, fun _ => .inr List.mem_cons_self⟩ ⟨.requireNotPaused hguard, rfl, rfl, rfl⟩
      (.inl rfl) rfl
  case resumeCredential issuer id =>
    simp only [LifecycleOp.apply, ensures_steps, resumeCredential, ensures_guards]
    intro _ _ hguard c hc _ _ _ _
    exact .of_write (.amend id c _) rfl rfl ⟨hc, rfl, rfl, rfl, rfl, rfl⟩
      ⟨id, c, _, rfl, fun h => by simp at h⟩ ⟨.requireNotPaused hguard, rfl, rfl, rfl⟩ (.inl rfl)
      rfl
  case renewCredential issuer id newExpiresAt =>
    simp only [LifecycleOp.apply, ensures_steps, renewCredential, ensures_guards]
    intro _ _ hguard _ c hc _ _ _ _
    exact .of_write (.amend id c _) rfl rfl ⟨hc, rfl, rfl, rfl, rfl, rfl⟩ ⟨id, c, _, rfl, .inl⟩
      ⟨.requireNotPaused hguard, rfl, rfl, rfl⟩ (.inl rfl) rfl
  case triggerAutoRenewal issuer id newExpiresAt =>
    simp only [LifecycleOp.apply, ensures_steps, triggerAutoRenewal, renewCredential,
      ensures_guards]
    intro _ _ hguard _ _ _ _ _ _ _ _ _ _ hguard' _ c hc _ _ _ _
    exact .of_write (.amend id c _) rfl rfl ⟨hc, rfl, rfl, rfl, rfl, rfl⟩ ⟨id, c, _, rfl, .inl⟩
      ⟨.trans (.requireNotPaused hguard) (.requireNotPaused hguard'), rfl, rfl, rfl⟩
      (.inl rfl) rfl
  case acceptTransfer recipient id =>
    simp only [LifecycleOp.apply, ensures_steps, acceptTransfer, ensures_guards]
    intro _ _ hguard request _ _ c hc
    exact .of_write (.transfer id c recipient) rfl rfl hc ⟨rfl, c, rfl⟩
      ⟨.requireNotPaused hguard, rfl, rfl, rfl⟩ (.inr ⟨rfl, rfl⟩) rfl
  case rotateCredentialHolderKey holder id newHolder =>
    simp only [LifecycleOp.apply, ensures_steps, rotateCredentialHolderKey, ensures_guards,
      require_eq_ok]
    intro _ _ hguard c hc hholder hne
    exact .of_write (.rotate id c newHolder) rfl rfl ⟨hc, hholder ▸ hne⟩ ⟨rfl, c, rfl⟩
      ⟨.requireNotPaused hguard, rfl, rfl, rfl⟩ (.inr ⟨rfl, rfl⟩) rfl
  case executeRecovery issuer recoveryId sbtCalls =>
    simp only [LifecycleOp.apply, ensures_steps, executeRecovery, ensures_guards]
    intro _ _ hguard request hrequest _ _ c hc _
    exact .of_write (.recover request.credentialId c request.newSubject) rfl rfl
      hc ⟨rfl, request, c, hrequest, rfl⟩ ⟨.requireNotPaused hguard, rfl, rfl, rfl⟩
      (.inr ⟨rfl, rfl⟩) rfl
  all_goals
    refine Ensures.mono ?_ fun _ => RecordEffect.of_beside
    simp [LifecycleOp.apply, LifecycleOp.guarded, beside_iff, Op.kept, Op.handlesPolicy,
      Op.handlesTransfer, Op.handlesRecovery, Op.handlesConsent, policies, recoveries, consents,
      ensures_unit, batchAmendCredentials, setGracePeriod, initiateTransfer,
      initiateRecovery, approveRecovery, cancelRecovery, createStateSnapshot, migrateState,
      initiateDispute, setBatchAmendment, setRecoveryRequest, apply_ite]
    grind

/-! ## Issuance -/

/-- **One credential is issued**: the guards pass, the quota of its issuer is charged, and its type
has no policy; the flags of the BBS+ credentials may change with it. -/
structure IssuesOne (env : Env) (op : Op) (issuer : Address) (input : CredentialInput)
    (flags : Store Nat Unit) (s s' : State) : Prop where
  charged : ∃ control, GuardChain env true s.control control ∧
    control.enforceQuota env issuer = .ok s'.control
  policy : s.workflow.issuancePolicy input.credentialType = none
  free : s.registry.subjectIssuerType (input.subject, issuer, input.credentialType) = none
  registry : s'.registry = (Effect.issue true issuer input).apply s.registry
  slices : s'.slices = s.slices
  attestations : s'.attestations = { s.attestations with bbsCredentialFlag := flags }
  discipline : s'.discipline = s.discipline
  kept : op.kept s' = op.kept s
  cache : s'.cache = s.cache

/-- **What an issuing entry point does.** -/
inductive IssuanceStep (env : Env) (op : IssuanceOp) (s s' : State) : Prop
  /-- It issues nothing, and writes beside the credentials. -/
  | noted (h : Beside env op.guarded (.issuance op) s s')
  | one {issuer : Address} {input : CredentialInput} {flags : Store Nat Unit}
      (hflags : ∀ id, flags id = s.attestations.bbsCredentialFlag id ∨
        id = s.registry.credentialCount + 1 ∧ flags id = some ())
      (h : IssuesOne env (.issuance op) issuer input flags s s')
  | batch {issuer : Address} {control : Control} (hissuer : op.batchIssuer = some issuer)
      (hguard : s.control.requireNotPaused env = .ok control)
      (h : IssuesEntries issuer op.batchTypes { s with control := control } s')

/-- What is written beside the credentials before does not matter. -/
theorem IssuesOne.after {env : Env} {guarded : Bool} {op : IssuanceOp} {issuer : Address}
    {input : CredentialInput} {flags : Store Nat Unit} {s s' s'' : State}
    (h : IssuesOne env (.issuance op) issuer input flags s' s'')
    (h₀ : Beside env guarded (.issuance op) s s') :
    IssuesOne env (.issuance op) issuer input flags s s'' where
  charged := by
    obtain ⟨control, hguards, hcharge⟩ := h.charged
    exact ⟨control, Bool.or_true guarded ▸ h₀.guards.trans hguards, hcharge⟩
  policy := by
    have hpolicies : s'.policies = s.policies := Option.some.inj (congrArg Prod.fst h₀.kept)
    exact (congrFun (congrArg Prod.fst hpolicies) _).symm.trans h.policy
  free := h₀.registry ▸ h.free
  registry := h₀.registry ▸ h.registry
  slices := h.slices.trans h₀.slices
  attestations := h₀.attestations ▸ h.attestations
  discipline := h.discipline.trans h₀.discipline
  kept := h.kept.trans h₀.kept
  cache := h.cache.trans h₀.cache

theorem issueCredential_issues (issuer subject : Address) (credentialType : Nat)
    (metadataHash : Bytes) (expiresAt : Option Nat) (nonce : Nat) :
    Ensures (s.issueCredential env issuer subject credentialType metadataHash expiresAt nonce)
      fun r => r.2 = s.registry.credentialCount + 1 ∧ ∀ op,
        IssuesOne env op issuer ⟨subject, credentialType, metadataHash, expiresAt⟩
          s.attestations.bbsCredentialFlag s r.1 := by
  simp only [issueCredential, issueInner, checkIssuable, ensures_steps, ensures_guards,
    require_eq_ok]
  intro _ c hguard hpolicy c' hlimit c'' hcharge _ _ _ _ _ hkey _ _ _
  exact ⟨trivial, fun _ => ⟨⟨c', .requireNotPausedRateLimited hguard hlimit, hcharge⟩, hpolicy,
    hkey, rfl, rfl, rfl, rfl, rfl, rfl⟩⟩

/-- **Every issuing entry point is a step.** -/
theorem issuanceOp_step (op : IssuanceOp) : Ensures (op.apply env s) (IssuanceStep env op s) := by
  cases op
  case issueCredential issuer subject type hash expiresAt nonce =>
    exact ensures_map.mpr ((issueCredential_issues env s issuer subject type hash expiresAt
      nonce).mono fun _ h => .one (fun _ => .inl rfl) (h.2 _))
  case issueDefault issuer subject type expiresAt =>
    exact ensures_map.mpr ((issueCredential_issues env s issuer subject type _ expiresAt
      0).mono fun _ h => .one (fun _ => .inl rfl) (h.2 _))
  case issueBbsCredential issuer subject type hash attributes expiresAt nonce =>
    simp only [IssuanceOp.apply, ensures_steps, issueBbsCredential, ensures_guards]
    intro _ control hguard _ _
    refine (issueCredential_issues env _ issuer subject type hash expiresAt nonce).mono ?_
    rintro ⟨s', _⟩ ⟨rfl, h⟩
    have hone := (h (.issuance (.issueBbsCredential issuer subject type hash attributes expiresAt
      nonce))).after (s := s) ⟨.requireNotPaused hguard, rfl, rfl, rfl, rfl, rfl, rfl⟩
    refine .one (fun id => ?_) { hone with attestations := by rw [hone.attestations] }
    rw [Store.set_apply]
    split
    next heq => exact .inr ⟨heq, rfl⟩
    next => exact .inl rfl
  case issueCredentialToDid issuer did type hash expiresAt nonce =>
    simp only [IssuanceOp.apply, ensures_steps, issueCredentialToDid]
    intro _ doc _
    exact (issueCredential_issues env s issuer doc.address type hash expiresAt nonce).mono
      fun _ h => .one (fun _ => .inl rfl) (h.2 _)
  case issueWithConsent issuer requestId nonce =>
    simp only [IssuanceOp.apply, ensures_steps, issueWithConsent, ensures_guards]
    intro _ control hguard request _ _ _ _
    exact (issueCredential_issues env _ _ _ _ _ none nonce).mono fun _ h =>
      .one (fun _ => .inl rfl) ((h.2 _).after
        ⟨.enforceWriteLimit hguard, rfl, rfl, rfl, rfl, rfl, rfl⟩)
  case batchIssueCredentials issuer subjects types hashes expiresAt =>
    simp only [IssuanceOp.apply, ensures_steps, batchIssueCredentials, ensures_guards]
    intro _ control hguard _ _
    exact (issueEach_batchIssueEntry _ (fun _ => mem_types_of_mem_batchInputs) _).mono fun _ h =>
      .batch rfl hguard h
  case issueBatch issuer inputs =>
    refine ensures_map.mpr ((issueBatch_issues env s issuer inputs).mono ?_)
    rintro _ ⟨control, hguard, h⟩
    exact .batch rfl hguard h
  case issueBatchByDid issuer dids types hashes expiresAt =>
    refine ensures_map.mpr ((issueBatchByDid_issues env s issuer dids types hashes expiresAt).mono
      ?_)
    rintro _ ⟨control, hguard, h⟩
    exact .batch rfl hguard h
  case batchIssueCredentialsByDid issuer dids types hashes expiresAt =>
    simp only [IssuanceOp.apply, ensures_map, batchIssueCredentialsByDid, ensures_bind]
    refine (issueBatchByDid_issues env s issuer dids types hashes expiresAt).mono ?_
    rintro _ ⟨control, hguard, h⟩
    split
    next => exact ensures_pure.mpr (.batch rfl hguard h)
    next => exact ensures_error.mpr trivial
  all_goals
    refine Ensures.mono ?_ fun _ => IssuanceStep.noted
    simp [IssuanceOp.apply, IssuanceOp.guarded, beside_iff, Op.kept, Op.handlesPolicy,
      Op.handlesTransfer, Op.handlesRecovery, Op.handlesConsent, policies, recoveries, consents,
      ensures_unit, registerDid, deactivateDid, requestCredential, approveCredentialRequest,
      addHolderToBlacklist, removeHolderFromBlacklist, didKey]
    grind

theorem IssuesEntries.standing {issuer : Address} {types : List Nat} {s s' : State}
    (h : IssuesEntries issuer types s s') : StandingFrame s s' := by
  induction h with
  | refl => exact .refl s
  | tail _ hlast ih =>
    obtain ⟨input, -, -, rfl⟩ := hlast
    exact ih.trans (.of_issue rfl rfl rfl (fun _ _ => rfl) rfl)

theorem issuanceOp_effect (op : IssuanceOp) :
    Ensures (op.apply env s) (CredentialEffect CredentialFrame (.issuance op) s s) := by
  refine (issuanceOp_step env s op).mono fun s' h => ?_
  cases h with
  | noted h =>
    exact ⟨⟨h.slices, by rw [h.attestations], h.discipline⟩, h.registry ▸ .refl, h.standing, h.kept⟩
  | @one issuer input flags hflags h =>
    refine ⟨⟨h.slices, by rw [h.attestations], h.discipline⟩, ?_, ?_, h.kept⟩
    · rw [h.registry]
      exact .single _ ⟨issuer, input, rfl, .inl h.policy⟩ fun _ => h.free
    · refine .of_issue (by rw [h.registry]; rfl) (by rw [h.registry]; rfl) h.slices
        (fun id hid => ?_) h.cache
      rw [h.attestations]
      exact (hflags id).resolve_right fun hnew => absurd hid (by omega)
  | @batch issuer control _ hguard h =>
    have hbeside : Beside env true (.issuance op) s { s with control := control } :=
      ⟨.requireNotPaused hguard, rfl, rfl, rfl, rfl, rfl, rfl⟩
    refine ⟨?_, h.writes fun _ input htype => ⟨issuer, input, rfl, .inr htype⟩,
      hbeside.standing.trans h.standing, ?_⟩
    · rw [h.rest]
      exact ⟨rfl, rfl, rfl⟩
    · rw [h.rest]
      rfl

theorem multisigOp_effect (op : MultisigOp) :
    Ensures (op.apply env s) (RecordEffect env op.guarded (.multisig op) s s) := by
  cases op with
  | approveIssuance signer requestId =>
    simp only [MultisigOp.apply, ensures_steps, approveIssuance, issueInner, ensures_guards,
      ensures_ite, require_eq_ok, decide_eq_true_eq]
    intro _ c hguard request hrequest _ policy hpolicy _ _
    have hguards := GuardChain.requireNotPaused hguard
    refine ⟨fun hreached _ _ => ⟨⟨hguards, rfl, rfl, rfl⟩, ?_,
        .of_issue rfl rfl rfl (fun _ _ => rfl) rfl, rfl⟩,
      fun _ => ⟨⟨hguards, rfl, rfl, rfl⟩, .refl, .of_standing le_rfl rfl rfl fun _ _ => ⟨rfl, rfl⟩,
        rfl⟩⟩
    exact .single (.issue false request.issuer
        { subject := request.subject, credentialType := request.credentialType
          metadataHash := request.metadataHash, expiresAt := request.expiresAt })
      ⟨request, hrequest, policy, hpolicy, hreached, rfl⟩ fun hkeyed => by simp at hkeyed
  | _ =>
    simp only [MultisigOp.apply, ensures_steps, createIssuanceMultisig, requestIssuance,
      ensures_guards]
    intros
    exact ⟨⟨by grind [MultisigOp.guarded], rfl, rfl, rfl⟩, .refl,
      .of_standing le_rfl rfl rfl fun _ _ => ⟨rfl, rfl⟩, rfl⟩

end State

end QuorumProof
