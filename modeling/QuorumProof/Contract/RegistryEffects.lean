import QuorumProof.Contract.Frames

/-!
# Contract/RegistryEffects — what an operation does to the registry

Every entry point changes the registry by a sequence of the writes of `Contract/Registry`, each made
under the guards its entry point checks.  `Effect` names a write, `Enabled` is what the guards give,
and `Op.Makes` says which effects an operation makes.  Nothing else ever happens to the registry
(`Op.writes`), so an invariant of the registry is a statement about nine effects.
-/

namespace QuorumProof

open Guarded

/-! ## Effects -/

/-- A write on the registry. -/
inductive Effect
  /-- `issue_inner`; a `keyed` issuance stores the duplicate key with it. -/
  | issue (keyed : Bool) (issuer : Address) (input : CredentialInput)
  | revoke (id : Nat) (c : Credential)
  | consent (id : Nat) (c : Credential)
  | transfer (id : Nat) (c : Credential) (subject : Address)
  | rotate (id : Nat) (c : Credential) (subject : Address)
  | recover (id : Nat) (c : Credential) (subject : Address)
  | amend (id : Nat) (c c' : Credential)
  | cache (id : Nat) (revoked : Bool)
  | restore (count : Nat)

/-- An amended record is still the same credential: only what no index depends on has changed. -/
structure Credential.Amends (c c' : Credential) : Prop where
  id : c'.id = c.id
  subject : c'.subject = c.subject
  issuer : c'.issuer = c.issuer
  credentialType : c'.credentialType = c.credentialType
  revoked : c'.revoked = c.revoked

namespace Effect

/-- Make a write. -/
def apply (r : Registry) : Effect → Registry
  | issue keyed issuer input =>
    let issued := r.issue issuer input.subject input.credentialType input.metadataHash
      input.expiresAt
    if keyed then
      issued.setDuplicateKey input.subject issuer input.credentialType (r.credentialCount + 1)
    else issued
  | revoke id c => r.markRevoked id c
  | consent id c => r.revokeConsent id c
  | transfer id c subject => r.transfer id c subject
  | rotate id c subject => r.rotate id c subject
  | recover id c subject => r.recover id c subject
  | amend id _ c' => r.putCredential id c'
  | cache id revoked => r.cacheRevocation id revoked
  | restore count => r.restoreCount count

/-- What the entry points check before they make a write. -/
def Enabled (r : Registry) : Effect → Prop
  | issue keyed issuer input =>
    keyed = true → r.subjectIssuerType (input.subject, issuer, input.credentialType) = none
  | revoke id c => r.credentials id = some c ∧ c.revoked = false
  | consent id c => r.credentials id = some c ∧ c.revoked = false
  | transfer id c _ => r.credentials id = some c
  | rotate id c subject => r.credentials id = some c ∧ c.subject ≠ subject
  | recover id c _ => r.credentials id = some c
  | amend id c c' => r.credentials id = some c ∧ c.Amends c'
  | cache id revoked =>
    r.revocationCache id = none ∧ ∃ c, r.credentials id = some c ∧ c.revoked = revoked
  | restore _ => True

/-- The record an effect writes: its number, what it finds there, and what it leaves. -/
def written : Effect → Option (Nat × Credential × Credential)
  | revoke id c | consent id c => some (id, c, { c with revoked := true, suspended := false })
  | transfer id c subject | rotate id c subject | recover id c subject =>
    some (id, c, { c with subject := subject })
  | amend id c c' => some (id, c, c')
  | issue .. | cache .. | restore _ => none

section Written

variable {e : Effect} {r : Registry} {id : Nat} {c c' : Credential}

theorem credentials_apply (h : e.written = some (id, c, c')) :
    (e.apply r).credentials = r.credentials.set id c' := by
  cases e <;> cases h <;> rfl

theorem credentialCount_apply (h : e.written = some (id, c, c')) :
    (e.apply r).credentialCount = r.credentialCount := by
  cases e <;> cases h <;> rfl

theorem Enabled.found (he : e.Enabled r) (h : e.written = some (id, c, c')) :
    r.credentials id = some c := by
  cases e <;> cases h
  case transfer | recover => exact he
  all_goals exact he.1

end Written

end Effect

/-- `r'` comes from `r` by enabled effects, each of which `A` allows in the registry it is made
in. -/
def Writes (A : Registry → Effect → Prop) : Registry → Registry → Prop :=
  Relation.ReflTransGen fun r r' => ∃ e : Effect, A r e ∧ e.Enabled r ∧ r' = e.apply r

namespace Writes

variable {A : Registry → Effect → Prop} {r r' : Registry}

@[simp] theorem refl : Writes A r r := Relation.ReflTransGen.refl

theorem single (e : Effect) (hA : A r e) (he : e.Enabled r) : Writes A r (e.apply r) :=
  Relation.ReflTransGen.single ⟨e, hA, he, rfl⟩

theorem trans {r₁ r₂ r₃ : Registry} (h : Writes A r₁ r₂) (h' : Writes A r₂ r₃) : Writes A r₁ r₃ :=
  Relation.ReflTransGen.trans h h'

/-- **An invariant every allowed effect keeps is kept by all of them together.** -/
theorem invariant {I : Registry → Prop}
    (hstep : ∀ r e, A r e → e.Enabled r → I r → I (e.apply r)) (h : Writes A r r') (hr : I r) :
    I r' := by
  induction h with
  | refl => exact hr
  | tail _ hlast ih =>
    obtain ⟨e, hA, he, rfl⟩ := hlast
    exact hstep _ e hA he ih

/-- **A relation every allowed effect out of an invariant registry keeps** is kept by all of them
together. -/
theorem relation {I : Registry → Prop} {R : Registry → Registry → Prop} (hrefl : ∀ r, R r r)
    (htrans : ∀ {r₁ r₂ r₃}, R r₁ r₂ → R r₂ r₃ → R r₁ r₃)
    (hstep : ∀ r e, A r e → e.Enabled r → I r → I (e.apply r))
    (hrel : ∀ r e, A r e → e.Enabled r → I r → R r (e.apply r)) (h : Writes A r r') (hr : I r) :
    R r r' := by
  have hboth : I r' ∧ R r r' := by
    induction h with
    | refl => exact ⟨hr, hrefl r⟩
    | tail _ hlast ih =>
      obtain ⟨e, hA, he, rfl⟩ := hlast
      exact ⟨hstep _ e hA he ih.1, htrans ih.2 (hrel _ e hA he ih.1)⟩
  exact hboth.2

end Writes

/-! ## The effects of an operation -/

/-- The credential types a batch names. -/
def IssuanceOp.batchTypes : IssuanceOp → List Nat
  | batchIssueCredentials _ _ credentialTypes _ _ => credentialTypes
  | issueBatch _ inputs => inputs.map (·.credentialType)
  | issueBatchByDid _ _ credentialTypes _ _ => credentialTypes
  | batchIssueCredentialsByDid _ _ credentialTypes _ _ => credentialTypes
  | _ => []

/-- The issuer of a batch. -/
def IssuanceOp.batchIssuer : IssuanceOp → Option Address
  | batchIssueCredentials issuer .. | issueBatch issuer .. | issueBatchByDid issuer ..
  | batchIssueCredentialsByDid issuer .. => some issuer
  | _ => none

/-- The effects an issuance makes: keyed credentials, of a type without a policy or of the types of
a batch. -/
def IssuanceOp.Makes (s : State) (op : IssuanceOp) (e : Effect) : Prop :=
  ∃ issuer input, e = .issue true issuer input ∧
    (s.workflow.issuancePolicy input.credentialType = none ∨
      input.credentialType ∈ op.batchTypes)

/-- The request an operation approves. -/
def Op.approving (s : State) : Op → Option PendingIssuanceRequest
  | multisig (.approveIssuance _ requestId) => s.workflow.pendingIssuance requestId
  | _ => none

/-- The unkeyed credential of a request whose threshold the approval of an operation reaches. -/
def MultisigOp.Makes (s : State) (op : MultisigOp) (e : Effect) : Prop :=
  ∃ request ∈ (Op.multisig op).approving s,
    ∃ policy ∈ s.workflow.issuancePolicy request.credentialType,
      policy.threshold ≤ request.approvals.length + 1 ∧
      e = .issue false request.issuer
        { subject := request.subject, credentialType := request.credentialType
          metadataHash := request.metadataHash, expiresAt := request.expiresAt }

namespace Op

/-- The credentials an operation may revoke. -/
def revoking (s : State) : Op → List Nat
  | revocation (.revokeCredential _ id) => [id]
  | revocation (.batchRevoke _ ids) => ids
  | revocation (.approveRevocation _ id) => [id]
  | revocation (.finalizeScheduledRevocation _ id) => [id]
  | revocation (.activateRevocationRequest _ requestId) =>
    (s.workflow.revocationRegistryRequest requestId).toList.map (·.credentialId)
  | revocation (.revokeConsent _ id) => [id]
  | _ => []

/-- The credentials an operation suspends. -/
def suspending : Op → List Nat
  | lifecycle (.suspendCredential _ id) => [id]
  | _ => []

/-- The credentials an operation gives to another subject. -/
def moving (s : State) : Op → List Nat
  | lifecycle (.acceptTransfer _ id) => [id]
  | lifecycle (.rotateCredentialHolderKey _ id _) => [id]
  | lifecycle (.executeRecovery _ recoveryId _) =>
    (s.workflow.recoveryRequest recoveryId).toList.map (·.credentialId)
  | _ => []

end Op

/-- The effects an operation makes, in the registry each is made in. -/
def Op.Makes (s : State) (op : Op) (r : Registry) (e : Effect) : Prop :=
  match op with
  | issuance op => op.Makes s e
  | multisig op => op.Makes s e
  | revocation (.revokeConsent _ id) => r = s.registry ∧ ∃ c, e = .consent id c
  | revocation (.isRevoked _) => ∃ id revoked, e = .cache id revoked
  | revocation op => ∃ id ∈ (Op.revocation op).revoking s, ∃ c, e = .revoke id c
  | lifecycle (.acceptTransfer recipient id) =>
    r = s.registry ∧ ∃ c, e = .transfer id c recipient
  | lifecycle (.rotateCredentialHolderKey _ id newHolder) =>
    r = s.registry ∧ ∃ c, e = .rotate id c newHolder
  | lifecycle (.executeRecovery _ recoveryId _) =>
    r = s.registry ∧ ∃ request c, s.workflow.recoveryRequest recoveryId = some request ∧
      e = .recover request.credentialId c request.newSubject
  | lifecycle op => ∃ id c c', e = .amend id c c' ∧
    (c'.suspended = true → c.suspended = true ∨ id ∈ (Op.lifecycle op).suspending)
  | restoreFromSnapshot _ snapshotId =>
    r = s.registry ∧ ∃ snapshot, s.workflow.stateSnapshot snapshotId = some snapshot ∧
      e = .restore snapshot.credentialCount
  | _ => False

/-! ### Which operation makes an effect

The effects the invariants have trouble with are made by one entry point each, in the registry the
call finds. -/

/-- The credential an operation withdraws the holder's consent from. -/
def Op.consented : Op → Option Nat
  | revocation (.revokeConsent _ id) => some id
  | _ => none

/-- The credential an operation transfers, and to whom. -/
def Op.transferred : Op → Option (Nat × Address)
  | lifecycle (.acceptTransfer recipient id) => some (id, recipient)
  | _ => none

/-- The credential whose holder key an operation rotates, and to what. -/
def Op.rotated : Op → Option (Nat × Address)
  | lifecycle (.rotateCredentialHolderKey _ id newHolder) => some (id, newHolder)
  | _ => none

/-- The recovery an operation executes. -/
def Op.recovered (s : State) : Op → Option RecoveryRequest
  | lifecycle (.executeRecovery _ recoveryId _) => s.workflow.recoveryRequest recoveryId
  | _ => none

/-- The snapshot an operation restores. -/
def Op.restored (s : State) : Op → Option StateSnapshot
  | restoreFromSnapshot _ snapshotId => s.workflow.stateSnapshot snapshotId
  | _ => none

section Inversion

variable {s : State} {op : Op} {r : Registry}

theorem Op.makes_unkeyed {issuer : Address} {input : CredentialInput}
    (h : op.Makes s r (.issue false issuer input)) :
    ∃ request ∈ op.approving s, ∃ policy ∈ s.workflow.issuancePolicy request.credentialType,
      policy.threshold ≤ request.approvals.length + 1 := by
  unfold Op.Makes at h
  split at h
  case h_2 op =>
    obtain ⟨request, hrequest, policy, hpolicy, hreached, -⟩ := h
    exact ⟨request, hrequest, policy, hpolicy, hreached⟩
  all_goals simp_all [IssuanceOp.Makes]

/-- What an effect that one entry point makes says of the operation and the registry. -/
def Effect.MadeBy (s : State) (op : Op) (r : Registry) : Effect → Prop
  | consent id _ => r = s.registry ∧ id ∈ op.consented
  | transfer id _ subject => r = s.registry ∧ (id, subject) ∈ op.transferred
  | rotate id _ subject => r = s.registry ∧ (id, subject) ∈ op.rotated
  | recover id _ subject => r = s.registry ∧ ∃ request ∈ op.recovered s,
    id = request.credentialId ∧ subject = request.newSubject
  | restore count => r = s.registry ∧ ∃ snapshot ∈ op.restored s, count = snapshot.credentialCount
  | _ => True

theorem Op.Makes.madeBy {e : Effect} (h : op.Makes s r e) : e.MadeBy s op r := by
  unfold Op.Makes at h
  split at h
  all_goals
    cases e <;> simp_all [IssuanceOp.Makes, MultisigOp.Makes, Effect.MadeBy, Op.consented,
      Op.transferred, Op.rotated, Op.recovered, Op.restored]

end Inversion

namespace State

/-! ### Batches -/

/-- An entry of a batch is issued, under a duplicate key that is free. -/
def IssuesEntry (issuer : Address) (types : List Nat) (s s' : State) : Prop :=
  ∃ input : CredentialInput, input.credentialType ∈ types ∧
    s.registry.subjectIssuerType (input.subject, issuer, input.credentialType) = none ∧
    s' = { s with registry := (Effect.issue true issuer input).apply s.registry }

/-- Entries of a batch are issued, one after another. -/
def IssuesEntries (issuer : Address) (types : List Nat) : State → State → Prop :=
  Relation.ReflTransGen (IssuesEntry issuer types)

section IssuesEntries

variable {issuer : Address} {types : List Nat} {s s' : State}

/-- Nothing is written but the registry. -/
theorem IssuesEntries.rest (h : IssuesEntries issuer types s s') :
    s' = { s with registry := s'.registry } := by
  induction h with
  | refl => rfl
  | tail _ hlast ih =>
    obtain ⟨input, -, -, rfl⟩ := hlast
    rw [ih]

theorem IssuesEntries.writes {A : Registry → Effect → Prop} (h : IssuesEntries issuer types s s')
    (hA : ∀ r input, input.credentialType ∈ types → A r (.issue true issuer input)) :
    Writes A s.registry s'.registry := by
  refine h.lift State.registry ?_
  rintro _ _ ⟨input, htype, hfree, rfl⟩
  exact ⟨.issue true issuer input, hA _ input htype, fun _ => hfree, rfl⟩

variable {input : CredentialInput}

/-- An issuance with its duplicate key. -/
theorem ensures_issueKeyed {Q : State × Nat → Prop}
    (h : Q ({ s with registry := (Effect.issue true issuer input).apply s.registry },
      s.registry.credentialCount + 1)) : Ensures (s.issueEntry issuer input) Q := by
  simp only [issueEntry, issueInner, ensures_steps, ensures_guards]
  intro _ _
  exact h

/-- `batch_issue_credentials` checks each entry as it issues it. -/
theorem issueEach_batchIssueEntry (inputs : List CredentialInput)
    (htypes : ∀ input ∈ inputs, input.credentialType ∈ types) (s : State) :
    Ensures (issueEach (batchIssueEntry issuer) s inputs)
      fun r => IssuesEntries issuer types s r.1 := by
  refine ensures_foldlM (R := fun acc acc' : State × List Nat =>
    IssuesEntries issuer types acc.1 acc'.1) (fun _ => .refl) .trans (fun input hinput acc => ?_)
    (s, [])
  simp only [batchIssueEntry, checkIssuable, ensures_steps, require_eq_ok]
  intro _ hkey _
  exact ensures_issueKeyed (.single ⟨input, htypes input hinput, hkey, rfl⟩)

/-- The other batches check all entries first: no duplicate key is stored for any of them, and no
two of them have the same one, so each is still free when its turn comes. -/
theorem issueEach_issueEntry (inputs : List CredentialInput) (acc : State × List Nat)
    (htypes : ∀ input ∈ inputs, input.credentialType ∈ types)
    (hfree : ∀ input ∈ inputs,
      acc.1.registry.subjectIssuerType (input.subject, issuer, input.credentialType) = none)
    (hdistinct : inputs.Pairwise fun a b =>
      (a.subject, a.credentialType) ≠ (b.subject, b.credentialType)) :
    Ensures (inputs.foldlM (fun acc input => do
        let (s, id) ← issueEntry issuer acc.1 input
        return (s, acc.2 ++ [id])) acc)
      fun r => IssuesEntries issuer types acc.1 r.1 := by
  induction inputs generalizing acc with
  | nil => exact ensures_ok.mpr .refl
  | cons input inputs ih =>
    obtain ⟨hne, hdistinct⟩ := List.pairwise_cons.mp hdistinct
    rw [List.foldlM_cons, ensures_bind, ensures_bind]
    refine ensures_issueKeyed ?_
    rw [ensures_pure]
    refine (ih _ (fun other hother => htypes other (by simp [hother])) ?_ hdistinct).mono
      fun _ => .head ⟨input, htypes input (by simp), hfree input (by simp), rfl⟩
    -- the key just stored is not the key of a later entry
    intro other hother
    have hkey : (other.subject, issuer, other.credentialType) ≠
        (input.subject, issuer, input.credentialType) := by
      intro heq
      simp only [Prod.mk.injEq, true_and] at heq
      exact hne other hother (by rw [heq.1, heq.2])
    have hold := hfree other (by simp [hother])
    simpa [Effect.apply, Registry.setDuplicateKey, Registry.issue, Store.set_of_ne hkey] using hold

/-- A batch that passes the validation loop has no entry with a problem. -/
theorem firstProblem_eq_none {problem : Nat → CredentialInput → Except Fault (Option String)}
    {i : Nat} {inputs : List CredentialInput} (h : firstProblem problem i inputs = .ok none) :
    ∀ k (hk : k < inputs.length), problem (i + k) inputs[k] = .ok none := by
  induction inputs generalizing i with
  | nil => simp
  | cons input inputs ih =>
    simp only [firstProblem, bind_eq_ok] at h
    obtain ⟨found, hfound, hrest⟩ := h
    cases found with
    | some reason => simp at hrest
    | none =>
      intro k hk
      cases k with
      | zero => simpa using hfound
      | succ k =>
        have := ih hrest k (by simpa using hk)
        simpa [Nat.add_assoc, Nat.add_comm 1 k] using this

/-- An entry without a problem has a free duplicate key, and no earlier entry has the same one. -/
theorem entryProblem_eq_none {inputs : List CredentialInput} {i : Nat} {tooLong : String}
    {outOfRange : Bool} (h : s.entryProblem issuer inputs i input tooLong outOfRange = none) :
    s.registry.subjectIssuerType (input.subject, issuer, input.credentialType) = none ∧
      ∀ other ∈ inputs.take i,
        (other.subject, other.credentialType) ≠ (input.subject, input.credentialType) := by
  unfold entryProblem at h
  split_ifs at h with _ _ _ _ hkey _ hdup
  refine ⟨not_not.mp hkey, fun other hother heq => hdup ?_⟩
  simp only [Prod.mk.injEq] at heq
  exact List.any_eq_true.mpr ⟨other, hother, by simp [heq.1, heq.2]⟩

theorem mem_types_of_mem_batchInputs {subjects : List Address} {hashes : List Bytes}
    {expiresAt : Option Nat} (h : input ∈ batchInputs subjects types hashes expiresAt) :
    input.credentialType ∈ types := by
  simp only [batchInputs, List.mem_map] at h
  obtain ⟨x, hx, rfl⟩ := h
  exact (List.of_mem_zip (List.of_mem_zip hx).2).1

theorem issueValidated_issues (inputs : List CredentialInput) (error : Option BatchError)
    (htypes : ∀ input ∈ inputs, input.credentialType ∈ types)
    (hvalid : error = none → ∀ k (hk : k < inputs.length), ∃ tooLong outOfRange,
      s.entryProblem issuer inputs k inputs[k] tooLong outOfRange = none) :
    Ensures (s.issueValidated issuer inputs error) fun r => IssuesEntries issuer types s r.1 := by
  cases error with
  | some error => exact ensures_ok.mpr .refl
  | none =>
    have hfree : ∀ input ∈ inputs,
        s.registry.subjectIssuerType (input.subject, issuer, input.credentialType) = none := by
      intro input hinput
      obtain ⟨k, hk, rfl⟩ := List.getElem_of_mem hinput
      obtain ⟨_, _, hnone⟩ := hvalid rfl k hk
      exact (entryProblem_eq_none hnone).1
    have hdistinct : inputs.Pairwise fun a b =>
        (a.subject, a.credentialType) ≠ (b.subject, b.credentialType) := by
      rw [List.pairwise_iff_getElem]
      intro j k hj hk hjk
      obtain ⟨_, _, hnone⟩ := hvalid rfl k hk
      refine (entryProblem_eq_none hnone).2 inputs[j] ?_
      exact List.mem_take_iff_getElem.mpr ⟨j, by omega, rfl⟩
    simp only [issueValidated, issueEach, ensures_bind, ensures_pure]
    exact issueEach_issueEntry inputs (s, []) htypes hfree hdistinct

theorem issueBatch_issues (env : Env) (s : State) (issuer : Address)
    (inputs : List CredentialInput) :
    Ensures (s.issueBatch env issuer inputs) fun r => ∃ control,
      s.control.requireNotPaused env = .ok control ∧
        IssuesEntries issuer (inputs.map (·.credentialType)) { s with control := control } r.1 := by
  simp only [issueBatch, ensures_steps, ensures_guards, ensures_ite]
  intro _ c hguard
  refine ⟨fun _ => ⟨c, hguard, .refl⟩, fun _ _ error herror => ?_⟩
  refine (issueValidated_issues inputs error (fun input => List.mem_map_of_mem)
    fun hnone k hk => ?_).mono fun _ h => ⟨c, hguard, h⟩
  subst hnone
  have hk' := firstProblem_eq_none herror k hk
  simp only [bind_eq_ok, pure_eq_ok, Nat.zero_add] at hk'
  obtain ⟨outOfRange, _, hproblem⟩ := hk'
  exact ⟨_, _, hproblem⟩

theorem issueBatchByDid_issues (env : Env) (s : State) (issuer : Address) (dids : List Bytes)
    (types : List Nat) (hashes : List Bytes) (expiresAt : Option Nat) :
    Ensures (s.issueBatchByDid env issuer dids types hashes expiresAt) fun r => ∃ control,
      s.control.requireNotPaused env = .ok control ∧
        IssuesEntries issuer types { s with control := control } r.1 := by
  simp only [issueBatchByDid, issueBatchWithCredentials, ensures_steps, ensures_ite, ensures_guards]
  intro _ c hguard
  refine ⟨fun _ => ⟨c, hguard, .refl⟩, fun _ _ _ resolved _ => ?_⟩
  cases resolved with
  | error e => exact ensures_pure.mpr ⟨c, hguard, .refl⟩
  | ok addresses =>
    simp only [ensures_bind]
    intro error herror
    refine (issueValidated_issues _ error (fun _ => mem_types_of_mem_batchInputs)
      fun hnone k hk => ?_).mono fun _ h => ⟨c, hguard, h⟩
    subst hnone
    have hk' := firstProblem_eq_none herror k hk
    simp only [Except.ok.injEq, Nat.zero_add] at hk'
    exact ⟨_, _, hk'⟩

end IssuesEntries

end State

end QuorumProof
