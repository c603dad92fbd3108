import QuorumProof.Contract.Footprint

/-!
# Contract/IssuanceConsent — a consent is used once, and blocks the next one until it is

`request_credential` stores a request and marks its issuer, subject and type; `issue_with_consent`
removes both.  Nothing else removes the mark: a request that nobody has used in time can neither be
approved nor used any more, and no other can be made for the three.

Source: `request_credential`, `approve_credential_request`, `issue_with_consent`.
-/

namespace QuorumProof

open Guarded

namespace ConsentRequest

/-- The request that `request_credential` makes. -/
def made (now id : Nat) (issuer subject : Address) (credentialType : Nat) (metadataHash : Bytes) :
    ConsentRequest :=
  { id := id, issuer := issuer, subject := subject, credentialType := credentialType
    metadataHash := metadataHash, expiresAtTs := now + 7 * 24 * 3600, approved := false }

/-- Between whom a request is, and for which type. -/
def triple (request : ConsentRequest) : Address × Address × Nat :=
  (request.issuer, request.subject, request.credentialType)

end ConsentRequest

namespace Op

/-- The request an operation uses. -/
def usesConsent : Op → Option Nat
  | issuance (.issueWithConsent _ requestId _) => some requestId
  | _ => none

/-- Between whom, and for which type, an operation asks for consent. -/
def asksConsent : Op → Option (Address × Address × Nat)
  | issuance (.requestCredential issuer subject credentialType _) =>
    some (issuer, subject, credentialType)
  | _ => none

end Op

/-! ## One operation -/

/-- **What an operation does to the consents.** -/
inductive ConsentStep (now : Nat) (c : Consents) : Op → Consents → Prop
  | kept {op : Op} (hop : op.usesConsent = none) : ConsentStep now c op c
  | asked {issuer subject : Address} {credentialType : Nat} {metadataHash : Bytes} :
      ConsentStep now c (.issuance (.requestCredential issuer subject credentialType metadataHash))
        { request := c.request.set (c.count + 1)
            (.made now (c.count + 1) issuer subject credentialType metadataHash)
          count := c.count + 1
          pending := c.pending.set (issuer, subject, credentialType) (c.count + 1) }
  | approved {requestId : Nat} {request : ConsentRequest}
      (hrequest : c.request requestId = some request) :
      ConsentStep now c (.issuance (.approveCredentialRequest request.subject requestId))
        { c with request := c.request.set requestId { request with approved := true } }
  | used {requestId nonce : Nat} {request : ConsentRequest}
      (hrequest : c.request requestId = some request) :
      ConsentStep now c (.issuance (.issueWithConsent request.issuer requestId nonce))
        { c with
          request := c.request.remove requestId
          pending := c.pending.remove request.triple }

/-- What the stored requests and marks keep to: a request is numbered, and every mark is that of a
request between the three. -/
structure Consents.Marked (c : Consents) : Prop where
  id_eq : ∀ {id request}, c.request id = some request → request.id = id ∧ id ≤ c.count
  marked : ∀ {triple id}, c.pending triple = some id →
    (c.request id).map ConsentRequest.triple = some triple

/-- A request that is no longer there. -/
def Consents.Gone (c : Consents) (id : Nat) : Prop := id ≤ c.count ∧ c.request id = none

namespace ConsentStep

variable {now : Nat} {c c' : Consents} {op : Op} {id : Nat}

variable (h : ConsentStep now c op c')

include h

theorem marked (hc : c.Marked) : c'.Marked := by
  obtain ⟨hid, hmark⟩ := hc
  cases h <;> constructor <;>
    grind [Store.set_apply, Store.remove_apply, ConsentRequest.made, ConsentRequest.triple,
      Option.map_eq_some_iff]

/-- **A request that is gone stays so**, and one is gone once it has been used. -/
theorem gone (hid : c.Gone id) : c'.Gone id := by
  obtain ⟨hle, hnone⟩ := hid
  cases h <;> constructor <;> grind [Store.set_apply, Store.remove_apply]

theorem gone_of_uses (hc : c.Marked) (hop : op.usesConsent = some id) : c'.Gone id := by
  cases h with
  | kept hnone => exact absurd (hnone.symm.trans hop) (by simp)
  | asked | approved => cases hop
  | used hrequest =>
    cases hop
    exact ⟨(hc.id_eq hrequest).2, Store.remove_self _ _⟩

/-- A stored request has been there before, or is made; if it is approved, it was so before or its
subject approves it. -/
theorem request {request : ConsentRequest} (hrequest : c'.request id = some request) :
    (∃ old, c.request id = some old ∧
        { old with approved := false } = { request with approved := false } ∧
        (request.approved = true → old.approved = true ∨
          op = .issuance (.approveCredentialRequest request.subject id))) ∨
      ∃ issuer subject credentialType metadataHash,
        op = .issuance (.requestCredential issuer subject credentialType metadataHash) ∧
        request = .made now (c.count + 1) issuer subject credentialType metadataHash := by
  cases h <;> grind [Store.set_apply, Store.remove_apply]

end ConsentStep

namespace State

variable (env : Env) (s : State)

/-- The credential that a request is for. -/
def issuedFor (request : ConsentRequest) : Effect :=
  .issue true request.issuer
    ⟨request.subject, request.credentialType, request.metadataHash, none⟩

/-- A used request leaves, and its credential is issued. -/
theorem issueWithConsent_issues (issuer : Address) (requestId nonce : Nat) :
    Ensures (s.issueWithConsent env issuer requestId nonce) fun r =>
      ∃ request, s.consents.request requestId = some request ∧ request.approved = true ∧
        env.now ≤ request.expiresAtTs ∧ r.1.registry = (issuedFor request).apply s.registry ∧
        ConsentStep env.now s.consents (.issuance (.issueWithConsent issuer requestId nonce))
          r.1.consents := by
  simp only [issueWithConsent, ensures_steps, ensures_guards, require_eq_ok]
  intro _ control _ request hrequest hissuer happroved hintime
  subst hissuer
  refine (issueCredential_issues env _ _ _ _ _ none nonce).mono fun r h => ?_
  -- of all that waits in storage, the issuance itself handles nothing
  have hissues := h.2 (.control .getCircuitBreakerState)
  have hkept : r.1.consents = _ := Option.some.inj (congrArg (·.2.2.2) hissues.kept)
  refine ⟨request, hrequest, happroved, hintime, hissues.registry, ?_⟩
  rw [hkept]
  exact .used hrequest

end State

open State in
/-- **Every operation is one of these steps.** -/
theorem Op.consentStep (env : Env) (s : State) (op : Op) :
    Ensures (op.apply env s) fun s' => ConsentStep env.now s.consents op s'.consents := by
  cases hop : op.handlesConsent with
  | true =>
    unfold handlesConsent at hop
    split at hop
    next issuer subject credentialType metadataHash =>
      simp only [Op.apply, IssuanceOp.apply, ensures_steps, requestCredential, ensures_guards]
      exact fun _ _ _ _ _ _ => .asked
    next subject requestId =>
      simp only [Op.apply, IssuanceOp.apply, ensures_steps, approveCredentialRequest,
        ensures_guards, require_eq_ok]
      intro _ _ _ request hrequest hsubject _
      subst hsubject
      exact .approved hrequest
    next issuer requestId nonce =>
      refine ensures_map.mpr ((issueWithConsent_issues env s issuer requestId nonce).mono ?_)
      rintro _ ⟨_, -, -, -, -, hstep⟩
      exact hstep
    next => cases hop
  | false =>
    refine (op.keeps env s).mono fun s' h => ?_
    have hsame : s'.consents = s.consents := by
      simpa [kept, hop] using congrArg (·.2.2.2) h
    rw [hsame]
    refine .kept ?_
    unfold usesConsent
    split
    next => cases hop
    next => rfl

/-- A request is refused as a duplicate only where the three are marked. -/
theorem State.requestCredential_duplicate {env : Env} {s : State} {issuer subject : Address}
    {credentialType : Nat} {metadataHash : Bytes}
    (h : s.requestCredential env issuer subject credentialType metadataHash =
      .error (.contract .invalidApprovalWorkflow)) :
    s.workflow.pendingConsent (issuer, subject, credentialType) ≠ none := by
  intro hfree
  have hguard : s.control.requireNotPaused env ≠ .error (.contract .invalidApprovalWorkflow) := by
    unfold Control.requireNotPaused Control.enforceDegradedWriteLimit
    grind
  have hadd : ∀ n a b, checkedAdd n a b ≠ .error (.contract .invalidApprovalWorkflow) := by
    unfold checkedAdd
    grind
  simp [-bind_pure_comp, requestCredential, requireNotPaused, requireAuth, bind_eq_error,
    require_eq_error, pure, Except.pure, hguard, hadd, hfree] at h

/-! ## Whole runs -/

namespace World

variable (host : Host)

/-- A completed `request_credential` makes the request. -/
def Requests (request : ConsentRequest) (w : World) (call : Call) : Prop :=
  w.Completes host call ∧ ∃ issuer subject credentialType metadataHash,
    call.op = .issuance (.requestCredential issuer subject credentialType metadataHash) ∧
      request = .made (w.env host call).now (w.state.workflow.consentRequestCount + 1) issuer
        subject credentialType metadataHash

/-- The subject of a request approves it. -/
def ApprovesConsent (request : ConsentRequest) (w : World) (call : Call) : Prop :=
  w.Completes host call ∧
    call.op = .issuance (.approveCredentialRequest request.subject request.id)

/-- A credential is issued with a request. -/
def UsesConsent (requestId : Nat) (w : World) (call : Call) : Prop :=
  w.Completes host call ∧ call.op.usesConsent = some requestId

/-- A request has been made, and not been used. -/
structure Waits (calls : List Call) (request : ConsentRequest) : Prop where
  requested : Machine.Occurs (next host) (Requests host request) deployed calls
  unused : ¬ Machine.Occurs (next host) (UsesConsent host request.id) deployed calls

/-- **A credential is issued by consent**: its request waits and its subject has approved it, it is
not too late, and the credential is the one that was asked for. -/
structure IssuesByConsent (calls : List Call) (call : Call) (request : ConsentRequest) : Prop where
  waits : Waits host calls request
  approved : Machine.Occurs (next host) (ApprovesConsent host request) deployed calls
  inTime : ((after host calls).env host call).now ≤ request.expiresAtTs
  issued : ((after host calls).next host call).state.registry =
    (State.issuedFor request).apply (after host calls).state.registry

/-- A call is refused as a duplicate request. -/
def RefusedAsDuplicate (w : World) (call : Call) (triple : Address × Address × Nat) : Prop :=
  call.op.asksConsent = some triple ∧
    call.op.apply (w.env host call) w.state = .error (.contract .invalidApprovalWorkflow)

/-- **A duplicate is refused while the request before it can still be used.** -/
def RefusesDuplicates (calls : List Call) (call : Call) : Prop :=
  ∀ triple, RefusedAsDuplicate host (after host calls) call triple →
    ∃ request, Waits host calls request ∧ request.triple = triple ∧
      ((after host calls).env host call).now ≤ request.expiresAtTs

variable {host} {w : World} {calls : List Call} {call : Call} {id : Nat} {request : ConsentRequest}

theorem consents_next (w : World) (call : Call) :
    (w.next host call).state.consents = w.state.consents ∧ ¬ w.Completes host call ∨
      w.Completes host call ∧ ConsentStep (w.env host call).now w.state.consents call.op
        (w.next host call).state.consents := by
  by_cases hcompletes : w.Completes host call
  · obtain ⟨s', hs'⟩ := hcompletes
    rw [next_state_of_ok hs']
    exact .inr ⟨⟨s', hs'⟩, call.op.consentStep _ _ s' hs'⟩
  · exact .inl ⟨by rw [next_state_of_not_completes hcompletes], hcompletes⟩

theorem marked_next (h : w.state.consents.Marked) : (w.next host call).state.consents.Marked := by
  rcases w.consents_next call with ⟨hsame, -⟩ | ⟨-, hstep⟩
  · exact hsame ▸ h
  · exact hstep.marked h

theorem marked_deployed : deployed.state.consents.Marked :=
  ⟨by rintro _ _ ⟨⟩, by rintro _ _ ⟨⟩⟩

theorem marked_after (host : Host) (calls : List Call) :
    (after host calls).state.consents.Marked :=
  Machine.run_invariant (I := fun w : World => w.state.consents.Marked)
    (fun _ _ => marked_next) marked_deployed calls

/-- **A stored request has been made, and not been used.** -/
theorem waits_of_stored (h : (after host calls).state.consents.request id = some request) :
    Waits host calls { request with approved := false } := by
  constructor
  · refine Machine.occurs_of_flag (P := fun w : World => ∃ stored, w.state.consents.request id =
        some stored ∧ { stored with approved := false } = { request with approved := false })
      (fun w call => ?_) (by rintro ⟨_, ⟨⟩, _⟩) ⟨request, h, rfl⟩
    rintro ⟨stored, hstored, heq⟩
    rcases w.consents_next call with ⟨hsame, -⟩ | ⟨hcompletes, hstep⟩
    · exact .inl ⟨stored, hsame ▸ hstored, heq⟩
    rcases hstep.request hstored with ⟨old, hold, hfields, -⟩ | ⟨_, _, _, _, hop, rfl⟩
    · exact .inl ⟨old, hold, hfields.trans heq⟩
    · exact .inr ⟨hcompletes, _, _, _, _, hop, heq.symm⟩
  · intro hused
    have hgone := Machine.flag_of_occurs (I := fun w : World => w.state.consents.Marked)
      (P := fun w : World => w.state.consents.Gone request.id) (fun _ _ => marked_next)
      (fun w call hmarked huses => ?_) (fun w call _ hgone => ?_) marked_deployed hused
    · rw [((marked_after host calls).id_eq h).1] at hgone
      exact absurd (hgone.2.symm.trans h) (by simp)
    · rcases w.consents_next call with ⟨-, hnot⟩ | ⟨-, hstep⟩
      · exact absurd huses.1 hnot
      · exact hstep.gone_of_uses hmarked huses.2
    · rcases w.consents_next call with ⟨hsame, -⟩ | ⟨-, hstep⟩
      · exact hsame ▸ hgone
      · exact hstep.gone hgone

/-- **A request that is stored as approved has been approved by its subject.** -/
theorem approved_of_stored (h : (after host calls).state.consents.request id = some request)
    (happroved : request.approved = true) :
    Machine.Occurs (next host) (ApprovesConsent host request) deployed calls := by
  refine Machine.occurs_of_flag (P := fun w : World => ∃ stored, w.state.consents.request id =
      some stored ∧ stored.approved = true ∧ stored.subject = request.subject)
    (fun w call => ?_) (by rintro ⟨_, ⟨⟩, _⟩) ⟨request, h, happroved, rfl⟩
  rintro ⟨stored, hstored, happroved, hsubject⟩
  rcases w.consents_next call with ⟨hsame, -⟩ | ⟨hcompletes, hstep⟩
  · exact .inl ⟨stored, hsame ▸ hstored, happroved, hsubject⟩
  rcases hstep.request hstored with ⟨old, hold, hfields, hnew⟩ | ⟨_, _, _, _, -, rfl⟩
  · rcases hnew happroved with hbefore | hop
    · exact .inl ⟨old, hold, hbefore, (congrArg ConsentRequest.subject hfields).trans hsubject⟩
    · rw [hsubject, ← ((marked_after host calls).id_eq h).1] at hop
      exact .inr ⟨hcompletes, hop⟩
  · cases happroved

/-- **A consent is used once**, for what was asked for and approved, and in time; and a request is
refused as a duplicate only if another waits, which can still be used if no request between the
three has been left to expire. -/
theorem consents_respected (host : Host) (calls : List Call) (call : Call) :
    (∀ id, UsesConsent host id (after host calls) call →
      ∃ request, request.id = id ∧ IssuesByConsent host calls call request) ∧
    ((∀ request, Waits host calls request → call.op.asksConsent = some request.triple →
      ((after host calls).env host call).now ≤ request.expiresAtTs) →
      RefusesDuplicates host calls call) := by
  constructor
  · rintro id ⟨⟨s', hs'⟩, huses⟩
    have hnext := next_state_of_ok hs'
    unfold Op.usesConsent at huses
    split at huses
    next issuer requestId nonce hop =>
      cases huses
      rw [hop] at hs'
      obtain ⟨r, hr, rfl⟩ := map_eq_ok.mp hs'
      obtain ⟨request, hrequest, happroved, hintime, hregistry, -⟩ :=
        State.issueWithConsent_issues _ _ issuer id nonce r hr
      have happroves := approved_of_stored hrequest happroved
      exact ⟨{ request with approved := false }, ((marked_after host calls).id_eq hrequest).1,
        waits_of_stored hrequest, happroves, hintime, hnext ▸ hregistry⟩
    next => cases huses
  · rintro hexpiry triple ⟨hasks, herror⟩
    have hmarked : (after host calls).state.consents.pending triple ≠ none := by
      unfold Op.asksConsent at hasks
      split at hasks
      next hop =>
        cases hasks
        rw [hop] at herror
        exact State.requestCredential_duplicate (map_eq_error.mp herror)
      next => cases hasks
    obtain ⟨id, hmark⟩ := Option.ne_none_iff_exists'.mp hmarked
    obtain ⟨request, hrequest, rfl⟩ :=
      Option.map_eq_some_iff.mp ((marked_after host calls).marked hmark)
    have hwaits := waits_of_stored hrequest
    exact ⟨_, hwaits, rfl, hexpiry _ hwaits hasks⟩

end World

namespace Sample

/-- The issuer asks for alice's consent, a while after the call before. -/
def asked (elapsed : Nat) : Call :=
  { elapsed := elapsed, auths := [issuer], op := .issuance (.requestCredential issuer alice 1 [1]) }

/-- Alice approves the first request. -/
def approved : Call :=
  { elapsed := 1, auths := [alice], op := .issuance (.approveCredentialRequest alice 1) }

/-- The issuer uses it. -/
def used : Call :=
  { elapsed := 1, auths := [issuer], op := .issuance (.issueWithConsent issuer 1 0) }

end Sample

open Sample in
/-- The first request is used once it is approved; while it waits, another is a duplicate. -/
theorem World.consents_respected_asked :
    (∃ request, request.id = 1 ∧ IssuesByConsent host [asked 0, approved] used request) ∧
      RefusesDuplicates host [asked 0] (asked 86400) := by
  refine ⟨(consents_respected host [asked 0, approved] used).1 1 ⟨⟨_, rfl⟩, rfl⟩,
    (consents_respected host [asked 0] (asked 86400)).2 fun request hwaits _ => ?_⟩
  obtain ⟨-, _, _, _, _, -, rfl⟩ | hno := hwaits.requested
  · exact show 86400 ≤ 604800 by decide
  · exact hno.elim

open Sample in
/-- **A request that has expired blocks the next one**: the issuer asks again after eight days. -/
theorem World.not_refusesDuplicates :
    ¬ ∀ (host : Host) (calls : List Call) (call : Call), RefusesDuplicates host calls call := by
  intro h
  obtain ⟨request, hwaits, -, hintime⟩ := h host [asked 0] (asked 691200) (issuer, alice, 1)
    ⟨rfl, rfl⟩
  obtain ⟨-, _, _, _, _, -, rfl⟩ | hno := hwaits.requested
  · have hlate : 691200 ≤ 604800 := hintime
    exact absurd hlate (by decide)
  · exact hno

end QuorumProof
