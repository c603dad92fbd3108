import Mathlib.Data.Finset.Card
import QuorumProof.Contract.Footprint

/-!
# Contract/Multisig — issuance under a policy

A credential type with an `IssuancePolicy` is to be issued by `approve_issuance` alone, once enough
signers of the policy have approved.  The single issuing entry points refuse such a type and the
approvals are checked one by one; the batches never look at the policy, and a policy replaced while
a request is pending leaves the approvals of the old signers on it.
-/

namespace QuorumProof

open Guarded

/-! ## What was issued -/

/-- Every issuance among some effects is one of them. -/
theorem Writes.issued {A : Registry → Effect → Prop} {r r' : Registry} (h : Writes A r r') :
    ∃ new, r'.issued = r.issued ++ new ∧ ∀ ev ∈ new, ∃ r₁ keyed issuer input,
      A r₁ (.issue keyed issuer input) ∧ ev.credentialType = input.credentialType := by
  induction h with
  | refl => exact ⟨[], by simp, by simp⟩
  | @tail r₁ _ _ hlast ih =>
    obtain ⟨new, hissued, hnew⟩ := ih
    obtain ⟨e, hA, -, rfl⟩ := hlast
    cases e with
    | issue keyed issuer input =>
      refine ⟨new ++ [⟨r₁.credentialCount + 1, input.subject, input.credentialType⟩], ?_, ?_⟩
      · rw [← List.append_assoc, ← hissued]
        cases keyed <;> rfl
      · intro ev hev
        rcases List.mem_append.mp hev with hold | hlast
        · exact hnew ev hold
        · rw [List.mem_singleton.mp hlast]
          exact ⟨_, keyed, issuer, input, hA, rfl⟩
    | _ => exact ⟨new, hissued, hnew⟩

/-! ## The policies and the requests under them -/

namespace State

/-- The approvals on a request are from distinct signers of the policy in force. -/
structure ApprovalsSound (s : State) : Prop where
  id_le : ∀ {id request}, s.workflow.pendingIssuance id = some request →
    id ≤ s.workflow.pendingIssuanceCount
  nodup : ∀ {id request}, s.workflow.pendingIssuance id = some request → request.approvals.Nodup
  signers : ∀ {id request policy}, s.workflow.pendingIssuance id = some request →
    request.executed = false → s.workflow.issuancePolicy request.credentialType = some policy →
    ∀ a ∈ request.approvals, a ∈ policy.signers

theorem ApprovalsSound.of_policies_eq {s s' : State} (h : s.ApprovalsSound)
    (heq : s'.policies = s.policies) : s'.ApprovalsSound := by
  simp only [policies, Prod.mk.injEq] at heq
  obtain ⟨hpolicy, hpending, hcount⟩ := heq
  exact ⟨by rw [hpending, hcount]; exact h.id_le, by rw [hpending]; exact h.nodup,
    by rw [hpending, hpolicy]; exact h.signers⟩

/-- Storing a request whose approvals are sound. -/
theorem ApprovalsSound.put {s s' : State} (h : s.ApprovalsSound) {id : Nat}
    {request : PendingIssuanceRequest}
    (hpolicy : s'.workflow.issuancePolicy = s.workflow.issuancePolicy)
    (hpending : s'.workflow.pendingIssuance = s.workflow.pendingIssuance.set id request)
    (hcount : s.workflow.pendingIssuanceCount ≤ s'.workflow.pendingIssuanceCount)
    (hid : id ≤ s'.workflow.pendingIssuanceCount) (hnodup : request.approvals.Nodup)
    (hsigners : ∀ policy, s.workflow.issuancePolicy request.credentialType = some policy →
      ∀ a ∈ request.approvals, a ∈ policy.signers) : s'.ApprovalsSound where
  id_le := by
    intro k other hother
    rcases Store.set_eq_some.mp (hpending ▸ hother) with ⟨rfl, -⟩ | ⟨-, hother⟩
    · exact hid
    · exact (h.id_le hother).trans hcount
  nodup := by
    intro k other hother
    rcases Store.set_eq_some.mp (hpending ▸ hother) with ⟨-, rfl⟩ | ⟨-, hother⟩
    · exact hnodup
    · exact h.nodup hother
  signers := by
    intro k other policy hother hexecuted hstored
    rw [hpolicy] at hstored
    rcases Store.set_eq_some.mp (hpending ▸ hother) with ⟨-, rfl⟩ | ⟨-, hother⟩
    · exact hsigners policy hstored
    · exact h.signers hother hexecuted hstored

theorem approveIssuance_policies (env : Env) (s : State) (signer : Address) (requestId : Nat) :
    Ensures ((MultisigOp.approveIssuance signer requestId).apply env s) fun s' =>
      ∃ request ∈ s.workflow.pendingIssuance requestId,
        ∃ policy ∈ s.workflow.issuancePolicy request.credentialType,
          request.executed = false ∧ signer ∈ policy.signers ∧ signer ∉ request.approvals ∧
          ∃ executed, s'.policies = (s.workflow.issuancePolicy,
            s.workflow.pendingIssuance.set requestId
              { request with approvals := request.approvals ++ [signer], executed := executed },
            s.workflow.pendingIssuanceCount) := by
  simp only [MultisigOp.apply, ensures_steps, approveIssuance, issueInner, ensures_guards,
    ensures_ite, require_eq_ok]
  intro _ _ _ request hrequest hexecuted policy hpolicy hsigner hfresh
  exact ⟨fun _ _ _ => ⟨request, hrequest, policy, hpolicy, hexecuted, hsigner, hfresh, _, rfl⟩,
    fun _ => ⟨request, hrequest, policy, hpolicy, hexecuted, hsigner, hfresh, _, rfl⟩⟩

end State

/-! ## Operations that respect the policies -/

/-- The credential types the batch of an operation names. -/
def Op.batchTypes : Op → List Nat
  | issuance op => op.batchTypes
  | _ => []

/-- The credential type an operation sets a policy for, and the policy's signers. -/
def Op.resigned : Op → Option (Nat × List Address)
  | multisig (.createIssuanceMultisig _ credentialType signers _) => some (credentialType, signers)
  | _ => none

/-- No batch names a type with a policy, and a policy is set only for signers who include everyone
who has approved a pending request of its type. -/
def Op.RespectsPolicy (s : State) (op : Op) : Prop :=
  (∀ credentialType ∈ op.batchTypes, s.workflow.issuancePolicy credentialType = none) ∧
  (∀ policy ∈ op.resigned, ∀ id ≤ s.workflow.pendingIssuanceCount,
    ∀ request ∈ s.workflow.pendingIssuance id, request.executed = false →
      request.credentialType = policy.1 → ∀ a ∈ request.approvals, a ∈ policy.2)
  deriving Decidable

open State in
/-- Only multi-signature issuance touches the policies. -/
theorem Op.policies_eq (env : Env) (s : State) (op : Op) (h : ∀ mop, op ≠ .multisig mop) :
    Ensures (op.apply env s) fun s' => s'.policies = s.policies := by
  refine (op.keeps env s).mono fun s' hkept => ?_
  cases op with
  | multisig mop => exact absurd rfl (h mop)
  | _ => exact Option.some.inj (congrArg Prod.fst hkept)

/-- An operation that respects the policies issues a type with a policy only by approving a request
of that type whose threshold the approval reaches. -/
theorem Op.RespectsPolicy.approval {s : State} {op : Op} {r : Registry} {keyed : Bool}
    {issuer : Address} {input : CredentialInput} {policy : IssuancePolicy}
    (hop : op.RespectsPolicy s) (hmakes : op.Makes s r (.issue keyed issuer input))
    (hpolicy : s.workflow.issuancePolicy input.credentialType = some policy) :
    ∃ signer requestId, op = .multisig (.approveIssuance signer requestId) ∧
      ∃ request, s.workflow.pendingIssuance requestId = some request ∧
        request.credentialType = input.credentialType ∧
        policy.threshold ≤ request.approvals.length + 1 := by
  cases op with
  | issuance op =>
    obtain ⟨_, _, heq, hfree⟩ := hmakes
    obtain ⟨-, -, rfl⟩ := Effect.issue.inj heq
    rcases hfree with hnone | hbatch
    · simp [hnone] at hpolicy
    · simp [hop.1 _ hbatch] at hpolicy
  | multisig op =>
    obtain ⟨request, hrequest, policy', hpolicy', hreached, heq⟩ := hmakes
    obtain ⟨-, -, rfl⟩ := Effect.issue.inj heq
    obtain rfl := Option.mem_unique hpolicy hpolicy'
    cases op with
    | approveIssuance signer requestId =>
      exact ⟨signer, requestId, rfl, request, hrequest, rfl, hreached⟩
    | createIssuanceMultisig => simp [Op.approving] at hrequest
    | requestIssuance => simp [Op.approving] at hrequest
  | revocation op => cases op <;> simp [Op.Makes] at hmakes
  | lifecycle op => cases op <;> simp [Op.Makes] at hmakes
  | restoreFromSnapshot admin snapshotId => simp [Op.Makes] at hmakes
  | _ => exact hmakes.elim

theorem State.empty_approvalsSound : State.empty.ApprovalsSound :=
  ⟨nofun, nofun, nofun⟩

/-- **Approvals stay sound**, one operation at a time. -/
theorem Op.approvalsSound (env : Env) {s : State} {op : Op} (hop : op.RespectsPolicy s)
    (h : s.ApprovalsSound) : Ensures (op.apply env s) State.ApprovalsSound := by
  by_cases hmulti : ∃ mop, op = .multisig mop
  · obtain ⟨mop, rfl⟩ := hmulti
    cases mop with
    | createIssuanceMultisig admin credentialType signers threshold =>
      simp only [apply, MultisigOp.apply, ensures_steps, State.createIssuanceMultisig,
        State.ensures_guards]
      intros
      refine ⟨h.id_le, h.nodup, fun {id request policy} hrequest hexecuted hstored => ?_⟩
      rcases Store.set_eq_some.mp hstored with ⟨htype, rfl⟩ | ⟨-, hstored⟩
      · exact hop.2 (credentialType, signers) rfl id (h.id_le hrequest) request hrequest hexecuted
          htype
      · exact h.signers hrequest hexecuted hstored
    | requestIssuance issuer subject credentialType metadataHash expiresAt nonce =>
      simp only [apply, MultisigOp.apply, ensures_steps, State.requestIssuance,
        State.ensures_guards, require_eq_ok]
      intro _ _ _ policy hpolicy hissuer _
      refine h.put rfl rfl (Nat.le_succ _) le_rfl (List.nodup_singleton _) ?_
      intro policy' hpolicy' a ha
      obtain rfl := Option.mem_unique hpolicy hpolicy'
      exact List.mem_singleton.mp ha ▸ hissuer
    | approveIssuance signer requestId =>
      refine (State.approveIssuance_policies env s signer requestId).mono fun s' hr => ?_
      obtain ⟨request, hrequest, policy, hpolicy, hexecuted, hsigner, hfresh, executed, heq⟩ := hr
      simp only [State.policies, Prod.mk.injEq] at heq
      refine h.put heq.1 heq.2.1 (by omega) (by have := h.id_le hrequest; omega) ?_ ?_
      · simpa [List.nodup_append, h.nodup hrequest] using fun a ha => ne_of_mem_of_not_mem ha hfresh
      · intro policy' hpolicy' a ha
        obtain rfl := Option.mem_unique hpolicy hpolicy'
        rcases List.mem_append.mp ha with hold | hlast
        · exact h.signers hrequest hexecuted hpolicy a hold
        · exact List.mem_singleton.mp hlast ▸ hsigner
  · exact (Op.policies_eq env s op fun mop heq => hmulti ⟨mop, heq⟩).mono
      fun _ heq => h.of_policies_eq heq

/-- Enough distinct signers of the policy have approved once the threshold is reached. -/
theorem threshold_le_card_signers {policy : IssuancePolicy} {approvals : List Address}
    (hnodup : approvals.Nodup) (hsigners : ∀ a ∈ approvals, a ∈ policy.signers)
    (hreached : policy.threshold ≤ approvals.length) :
    policy.threshold ≤ (approvals.toFinset ∩ policy.signers.toFinset).card := by
  have hinter : approvals.toFinset ∩ policy.signers.toFinset = approvals.toFinset := by
    rw [Finset.inter_eq_left]
    intro a ha
    exact List.mem_toFinset.mpr (hsigners a (List.mem_toFinset.mp ha))
  rw [hinter, List.toFinset_card_of_nodup hnodup]
  exact hreached

namespace World

open Sample

/-- A call creates a credential of a type with a policy only as the approval of a request of that
type, which then carries the approvals of at least `threshold` distinct signers of the policy. -/
def PolicyRespected (host : Host) (w : World) (call : Call) : Prop :=
  ∃ new, (w.next host call).state.registry.issued = w.state.registry.issued ++ new ∧
    ∀ ev ∈ new, ∀ policy, w.state.workflow.issuancePolicy ev.credentialType = some policy →
      ∃ signer requestId request, call.op = .multisig (.approveIssuance signer requestId) ∧
        (w.next host call).state.workflow.pendingIssuance requestId = some request ∧
        request.credentialType = ev.credentialType ∧
        policy.threshold ≤ (request.approvals.toFinset ∩ policy.signers.toFinset).card

/-- **A call that respects the policies creates a credential under one only by an approval that
completes it.** -/
theorem policyRespected_of_sound {host : Host} {w : World} {call : Call}
    (hop : call.op.RespectsPolicy w.state) (h : w.state.ApprovalsSound) :
    w.PolicyRespected host call := by
  cases hcall : call.op.apply (w.env host call) w.state with
  | error fault => exact ⟨[], by rw [next_state_of_error hcall, List.append_nil], by simp⟩
  | ok s =>
    unfold PolicyRespected
    rw [next_state_of_ok hcall]
    obtain ⟨new, hissued, hnew⟩ := (call.op.writes _ _ s hcall).issued
    refine ⟨new, hissued, fun ev hev policy hpolicy => ?_⟩
    obtain ⟨r₁, keyed, issuer, input, hmakes, htype⟩ := hnew ev hev
    rw [htype] at hpolicy
    obtain ⟨signer, requestId, hcalled, request, hrequest, hsame, hreached⟩ :=
      hop.approval hmakes hpolicy
    rw [hcalled] at hcall
    obtain ⟨request', hrequest', policy', hpolicy', hexecuted, hsigner, hfresh, executed, heq⟩ :=
      State.approveIssuance_policies _ _ signer requestId s hcall
    obtain rfl := Option.mem_unique hrequest' hrequest
    rw [hsame, Option.mem_def, hpolicy] at hpolicy'
    obtain rfl := Option.some.inj hpolicy'
    simp only [State.policies, Prod.mk.injEq] at heq
    have hstored : s.workflow.pendingIssuance requestId = some
        { request' with approvals := request'.approvals ++ [signer], executed := executed } := by
      rw [heq.2.1, Store.set_self]
    refine ⟨signer, requestId, _, hcalled, hstored, hsame.trans htype.symm,
      threshold_le_card_signers ?_ ?_ (by simpa using hreached)⟩
    · simpa [List.nodup_append, h.nodup hrequest] using fun a ha => ne_of_mem_of_not_mem ha hfresh
    · intro a ha
      rcases List.mem_append.mp ha with hold | hlast
      · exact h.signers hrequest hexecuted (hsame ▸ hpolicy) a hold
      · exact List.mem_singleton.mp hlast ▸ hsigner

/-- **A credential of a type with a policy is created only by `approve_issuance`, with the approvals
of enough distinct signers**, at every point of a run whose batches name no type with a policy and
whose policies are set for signers who include everyone who has approved a pending request. -/
theorem issuance_policy_respected (host : Host) (pre : List Call) (call : Call)
    (h : Machine.Along (next host) (Meets fun s op => op.RespectsPolicy s) deployed
      (pre ++ [call])) :
    (after host pre).PolicyRespected host call := by
  obtain ⟨hpre, hcall, -⟩ := (Machine.along_append (next host)).mp h
  have hsound : (after host pre).state.ApprovalsSound :=
    hpre.invariant (I := fun w : World => w.state.ApprovalsSound)
      (fun w c hw hc => next_of_ensures (Op.approvalsSound (w.env host c) hc hw) hw)
      State.empty_approvalsSound
  exact policyRespected_of_sound hcall hsound

/-- Two signers approve a request, and the second approval issues the credential. -/
theorem issuance_policy_respected_approval :
    ∃ pre call, (after host (pre ++ [call])).state.registry.issued.length = 1 ∧
      (after host pre).PolicyRespected host call :=
  ⟨[initialized, policy 1 [issuer, bob] 2,
      call issuer
        (.multisig (.requestIssuance issuer alice 1 [1] none 0))],
    call bob (.multisig (.approveIssuance bob 1)), by decide,
    issuance_policy_respected _ _ _ (by decide)⟩

/-- **A batch issues a type that has a policy**, with nobody's approval. -/
theorem not_issuance_policy_respected :
    ¬ ∀ (host : Host) (pre : List Call) (call : Call),
      (after host pre).PolicyRespected host call := by
  intro h
  obtain ⟨new, hissued, hnew⟩ := h host
    [initialized, policy 1 [bob] 1]
    (call issuer (.issuance
      (.batchIssueCredentials issuer [alice] [1] [[1]] none)))
  have hone : [{ id := 1, subject := alice, credentialType := 1 }] = new := hissued
  subst hone
  obtain ⟨_, _, _, hcall, -⟩ := hnew _ (List.mem_singleton_self _) _ rfl
  cases hcall

end World

end QuorumProof
