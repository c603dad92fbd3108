import Mathlib.Data.Finset.Card
import QuorumProof.Contract.CredentialSteps

/-!
# Contract/AttestationRequests — attestations under several signatures

A request names the signers it asks for, opens with the signature of its initiator, and is executed
by the signature that reaches the threshold.  Who signed when is a fact about the run: the
signatures in storage are those of the calls made so far (`World.mem_signaturesOn`).

The initiator is counted whether or not they are asked for, nothing is executed without a second
signature, and the credential is not looked at again after the request was opened.  What has to be
asked of the calls for a request to be executed exactly when it should is `Op.RequestsFairly`.
-/

namespace QuorumProof

open Guarded

/-- The request is neither executed nor rolled back. -/
def AttestationRequest.Open (request : AttestationRequest) : Prop :=
  request.executed = false ∧ request.rolledBack = false
  deriving Decidable

/-- The request `request_multisig_attestation` stores. -/
def AttestationRequest.opened (env : Env) (requestId : Nat) (initiator : Address) (id sliceId : Nat)
    (requiredSigners : List Address) (value : Bool) (policy : AttestationPolicy) :
    AttestationRequest where
  id := requestId
  credentialId := id
  sliceId := sliceId
  initiator := initiator
  requiredSigners := requiredSigners
  signatures := [initiator]
  threshold := policy.threshold
  attestationValue := value
  createdAt := env.now
  expiresAt := saturatingAdd u64Max env.now policy.windowSeconds
  executed := false
  rolledBack := false

/-- The signature an operation puts on a request. -/
def Op.signing (s : State) : Op → Option (Nat × Address)
  | attestation (.requestMultisigAttestation initiator ..) =>
    some (s.attestations.attestationRequestCount + 1, initiator)
  | attestation (.signAttestationRequest signer requestId) => some (requestId, signer)
  | _ => none

namespace State

/-! ## One operation -/

/-- **What an operation does to the request of an id.** -/
inductive RequestStep (env : Env) (s : State) (op : Op) (requestId : Nat) :
    Option AttestationRequest → Option AttestationRequest → Prop
  | kept {stored : Option AttestationRequest} (hop : ∀ a, op.signing s ≠ some (requestId, a)) :
    RequestStep env s op requestId stored stored
  | opened {initiator : Address} {id sliceId : Nat} {signers : List Address} {value : Bool}
      {c : Credential} {policy : AttestationPolicy}
      (hop : op = .attestation (.requestMultisigAttestation initiator id sliceId signers value))
      (hid : requestId = s.attestations.attestationRequestCount + 1)
      (hc : s.registry.credentials id = some c) (hlive : c.revoked = false)
      (hpolicy : s.attestations.attestationPolicy c.credentialType = some policy) :
    RequestStep env s op requestId none
      (some (.opened env requestId initiator id sliceId signers value policy))
  | signed {signer : Address} {request : AttestationRequest}
      (hop : op = .attestation (.signAttestationRequest signer requestId))
      (hopen : request.Open) (hwindow : env.now ≤ request.expiresAt)
      (hsigner : signer ∈ request.requiredSigners) (hfresh : signer ∉ request.signatures) :
    RequestStep env s op requestId (some request) (some { request with
      signatures := request.signatures ++ [signer]
      executed := decide (completes request) })
  | rolledBack {request : AttestationRequest} (hop : op.signing s = none) (hopen : request.Open) :
    RequestStep env s op requestId (some request) (some { request with rolledBack := true })

/-- No request has an id beyond the counter. -/
def RequestsCounted (s : State) : Prop :=
  ∀ requestId, s.attestations.attestationRequestCount < requestId →
    s.attestations.attestationRequest requestId = none

theorem empty_requestsCounted : State.empty.RequestsCounted := fun _ _ => rfl

theorem RequestsCounted.le {s : State} (hs : s.RequestsCounted) {requestId : Nat}
    {request : AttestationRequest}
    (h : s.attestations.attestationRequest requestId = some request) :
    requestId ≤ s.attestations.attestationRequestCount := by
  by_contra hlt
  simp [hs requestId (by omega)] at h

/-- **What an operation does to the requests.** -/
structure RequestsStep (env : Env) (s : State) (op : Op) (s' : State) : Prop where
  counted : s'.RequestsCounted
  step : ∀ requestId, RequestStep env s op requestId
    (s.attestations.attestationRequest requestId) (s'.attestations.attestationRequest requestId)

section

variable {env : Env} {s s' : State} {op : Op} (hs : s.RequestsCounted)
include hs

theorem RequestsStep.of_aside (hop : op.signing s = none)
    (h : s'.attestations.aside = s.attestations.aside) : RequestsStep env s op s' := by
  have hrequests : s'.attestations.attestationRequest = s.attestations.attestationRequest :=
    congrArg (·.2.1) h
  have hcount : s'.attestations.attestationRequestCount = s.attestations.attestationRequestCount :=
    congrArg (·.2.2) h
  constructor
  · rw [RequestsCounted, hrequests, hcount]
    exact hs
  · rw [hrequests]
    exact fun _ => .kept (by simp [hop])

/-- One request is written, and the others are kept. -/
theorem RequestsStep.put {key : Nat} {old : Option AttestationRequest} {new : AttestationRequest}
    (hold : s.attestations.attestationRequest key = old)
    (hset : s'.attestations.attestationRequest = s.attestations.attestationRequest.set key new)
    (hcount : s.attestations.attestationRequestCount ≤ s'.attestations.attestationRequestCount)
    (hkey : key ≤ s'.attestations.attestationRequestCount)
    (hsigning : ∀ requestId a, op.signing s = some (requestId, a) → requestId = key)
    (hstep : RequestStep env s op key old (some new)) :
    RequestsStep env s op s' where
  counted requestId hlt := by
    rw [hset, Store.set_of_ne (by omega)]
    exact hs requestId (by omega)
  step requestId := by
    rw [hset, Store.set_apply]
    split
    next heq =>
      subst heq
      exact hold ▸ hstep
    next hne => exact .kept fun a ha => hne (hsigning requestId a ha)

theorem signAttestationRequest_step (signer : Address) (requestId : Nat) :
    Ensures (s.signAttestationRequest env signer requestId) fun r =>
      RequestsStep env s (.attestation (.signAttestationRequest signer requestId)) r.1 := by
  simp only [signAttestationRequest, ensures_steps, ensures_guards, ensures_ite, List.length_append,
    List.length_singleton, require_eq_ok]
  intro _ _ _ control _ request hrequest hopen hwindow hsigner hfresh
  have hstep : RequestStep env s (.attestation (.signAttestationRequest signer requestId)) requestId
      (some request) _ := .signed rfl hopen hwindow hsigner hfresh
  refine ⟨fun hcompletes _ _ => ?_, fun hcompletes => ?_⟩
  · refine .put hs hrequest ?_ ?_ ?_ (by simp [Op.signing]) hstep
    · rw [executeAttestationRequest_attestations, decide_eq_true (p := completes request)
        hcompletes]
      rfl
    · rw [executeAttestationRequest_attestations]
      exact le_rfl
    · rw [executeAttestationRequest_attestations]
      exact hs.le hrequest
  · refine .put hs hrequest ?_ le_rfl (hs.le hrequest) (by simp [Op.signing]) hstep
    rw [decide_eq_false (p := completes request) hcompletes, ← hopen.1]
    rfl

theorem attestationOp_requestsStep (op : AttestationOp) :
    Ensures (op.apply env s) (RequestsStep env s (.attestation op)) := by
  cases hop : op.handlesRequest with
  | false =>
    refine (attestationOp_effect env s op).mono fun _ h => .of_aside hs ?_ (h.aside hop)
    cases op <;> first | rfl | cases hop
  | true =>
    cases op <;> cases hop
    case true.requestMultisigAttestation.refl initiator id sliceId signers value =>
      simp only [AttestationOp.apply, requestMultisigAttestation, ensures_steps, ensures_guards,
        require_eq_ok]
      intro _ _ _ _ _ _ _ c hc hlive policy hpolicy _ _ _ _ _
      exact .put hs (hs _ (Nat.lt_succ_self _)) rfl (Nat.le_succ _) le_rfl (by simp [Op.signing])
        (.opened rfl rfl hc hlive hpolicy)
    case true.signAttestationRequest.refl signer requestId =>
      exact ensures_map.mpr (signAttestationRequest_step hs signer requestId)
    case true.rollbackAttestationRequest.refl requestId =>
      simp only [AttestationOp.apply, rollbackAttestationRequest, ensures_steps, ensures_guards,
        require_eq_ok]
      intro _ _ request hrequest hopen _
      exact .put hs hrequest rfl le_rfl (hs.le hrequest) (by simp [Op.signing])
        (.rolledBack rfl hopen)
    case true.checkAndRollbackAttestation.refl requestId =>
      simp only [AttestationOp.apply, checkAndRollbackAttestation, ensures_steps, ensures_guards,
        ensures_ite]
      intro _ _ request hrequest
      exact ⟨fun h => .put hs hrequest rfl le_rfl (hs.le hrequest) (by simp [Op.signing])
        (.rolledBack rfl ⟨h.1, h.2.1⟩), fun _ => .of_aside hs rfl rfl⟩

end

end State

/-- **Every operation takes a step of each request.** -/
theorem Op.requestsStep (env : Env) {s : State} (hs : s.RequestsCounted) (op : Op) :
    Ensures (op.apply env s) (State.RequestsStep env s op) := by
  obtain ⟨op', rfl⟩ | hnot := exists_or_forall_not (op = .attestation ·)
  · exact State.attestationOp_requestsStep hs op'
  · refine (Op.leaves_aside env s hnot).mono fun _ h => .of_aside hs ?_ h
    cases op with
    | attestation op => exact absurd rfl (hnot op)
    | _ => rfl

/-! ## Signatures -/

namespace State

/-- The signatures on a request. -/
def signaturesOn (s : State) (requestId : Nat) : List Address :=
  ((s.attestations.attestationRequest requestId).map (·.signatures)).getD []

theorem signaturesOn_eq {s : State} {requestId : Nat} {request : AttestationRequest}
    (h : s.attestations.attestationRequest requestId = some request) :
    s.signaturesOn requestId = request.signatures := by
  simp only [signaturesOn, h, Option.map_some, Option.getD_some]

variable {env : Env} {s s' : State} {op : Op} {requestId : Nat}

/-- **The signatures on a request are those that were there, and the one the operation puts.** -/
theorem RequestStep.mem_signatures {old new : Option AttestationRequest}
    (h : RequestStep env s op requestId old new) (a : Address) :
    a ∈ (new.map (·.signatures)).getD [] ↔
      a ∈ (old.map (·.signatures)).getD [] ∨ op.signing s = some (requestId, a) := by
  cases h with
  | kept hop => simp [hop a]
  | opened hop hid => simp [hop, hid, Op.signing, AttestationRequest.opened, eq_comm]
  | signed hop => simp [hop, Op.signing, eq_comm]
  | rolledBack hop => simp [hop]

/-- A request stays, and its flags are not cleared. -/
theorem RequestStep.flags {request : AttestationRequest} {new : Option AttestationRequest}
    (h : RequestStep env s op requestId (some request) new) :
    ∃ request', new = some request' ∧ (request.executed = true → request'.executed = true) ∧
      (request.rolledBack = true → request'.rolledBack = true) := by
  cases h with
  | kept => exact ⟨request, rfl, fun h => h, fun h => h⟩
  | signed _ hopen | rolledBack _ hopen => exact ⟨_, rfl, by simp [hopen.1], by simp [hopen.2]⟩

end State

/-! ## Requests that can be carried out -/

/-- What an operation asks of the requests: initiator, credential, and required signers. -/
def Op.requesting : Op → Option (Address × Nat × List Address)
  | attestation (.requestMultisigAttestation initiator id _ signers _) =>
    some (initiator, id, signers)
  | _ => none

/-- **A request asks for its initiator, for somebody else, and for as many different signers as the
policy of the credential's type wants; and no credential is revoked while a request for it is
open.** -/
def Op.RequestsFairly (s : State) (op : Op) : Prop :=
  (∀ asked ∈ op.requesting, asked.1 ∈ asked.2.2 ∧ (∃ a ∈ asked.2.2, a ≠ asked.1) ∧
    ∀ c ∈ s.registry.credentials asked.2.1,
      ∀ policy ∈ s.attestations.attestationPolicy c.credentialType,
        policy.threshold ≤ asked.2.2.toFinset.card) ∧
  ∀ id ∈ op.revoking s, ∀ requestId ≤ s.attestations.attestationRequestCount,
    ∀ request ∈ s.attestations.attestationRequest requestId, request.Open →
      request.credentialId ≠ id
  deriving Decidable

namespace State

/-- What fair requests keep true of every request in storage. -/
structure FairRequest (s : State) (request : AttestationRequest) : Prop where
  exclusive : ¬ (request.executed = true ∧ request.rolledBack = true)
  nodup : request.signatures.Nodup
  required : ∀ a ∈ request.signatures, a ∈ request.requiredSigners
  attainable : request.threshold ≤ request.requiredSigners.toFinset.card
  cosigner : ∃ a ∈ request.requiredSigners, a ≠ request.initiator
  pending : request.executed = false →
    request.signatures = [request.initiator] ∨ request.signatures.length < request.threshold
  live : request.Open → s.Live request.credentialId

/-- Every request is fair, and has an id the counter has reached. -/
structure FairRequests (s : State) : Prop where
  counted : s.RequestsCounted
  fair : ∀ {requestId request}, s.attestations.attestationRequest requestId = some request →
    s.FairRequest request

theorem empty_fairRequests : State.empty.FairRequests :=
  ⟨empty_requestsCounted, nofun⟩

/-- A request that all required signers have signed is executed. -/
theorem FairRequest.executed {s : State} {request : AttestationRequest} (h : s.FairRequest request)
    (hall : ∀ a ∈ request.requiredSigners, a ∈ request.signatures) : request.executed = true := by
  rw [← Bool.not_eq_false]
  intro hpending
  rcases h.pending hpending with hfirst | hfew
  · obtain ⟨a, ha, hne⟩ := h.cosigner
    have hsigned := hall a ha
    rw [hfirst, List.mem_singleton] at hsigned
    exact hne hsigned
  · -- the signatures are all the required signers, and these are enough
    have hle : request.requiredSigners.toFinset.card ≤ request.signatures.toFinset.card :=
      Finset.card_le_card fun a ha => List.mem_toFinset.mpr (hall a (List.mem_toFinset.mp ha))
    rw [List.toFinset_card_of_nodup h.nodup] at hle
    have := h.attainable
    omega

/-- Signing a fair request leaves a fair request. -/
theorem FairRequest.sign {s s' : State} {request : AttestationRequest} {signer : Address}
    (h : s.FairRequest request) (hopen : request.Open) (hsigner : signer ∈ request.requiredSigners)
    (hfresh : signer ∉ request.signatures) (hlive : s'.Live request.credentialId) :
    s'.FairRequest
      { request with
        signatures := request.signatures ++ [signer]
        executed := decide (completes request) } where
  exclusive := by simp [hopen.2]
  nodup := by simpa [List.nodup_append, h.nodup] using fun a ha => ne_of_mem_of_not_mem ha hfresh
  required := by
    intro a ha
    rcases List.mem_append.mp ha with hold | hlast
    · exact h.required a hold
    · exact List.mem_singleton.mp hlast ▸ hsigner
  attainable := h.attainable
  cosigner := h.cosigner
  pending := by
    intro hpending
    have hnot : ¬ completes request := of_decide_eq_false hpending
    exact .inr (by simpa [completes] using hnot)
  live _ := hlive

theorem FairRequest.mono {s s' : State} {request : AttestationRequest} (h : s.FairRequest request)
    (hlive : s.Live request.credentialId → request.Open → s'.Live request.credentialId) :
    s'.FairRequest request :=
  { h with live := fun hopen => hlive (h.live hopen) hopen }

end State

/-- **Requests stay fair**, one operation at a time. -/
theorem Op.fairRequests (env : Env) {s : State} {op : Op} (hop : op.RequestsFairly s)
    (h : s.FairRequests) : Ensures (op.apply env s) State.FairRequests := by
  intro s' hs'
  obtain ⟨hcounted, hstep⟩ := op.requestsStep env h.counted s' hs'
  refine ⟨hcounted, fun {requestId request} hrequest => ?_⟩
  have hstep := hstep requestId
  rw [hrequest] at hstep
  -- what is still stored as it was
  have hold : ∀ old, s.attestations.attestationRequest requestId = some old →
      s'.FairRequest old := fun old hstored =>
    (h.fair hstored).mono fun hlive hopen => Op.keeps_live env (fun hid =>
      hop.2 _ hid requestId (h.counted.le hstored) old hstored hopen rfl) hlive s' hs'
  generalize hstored : s.attestations.attestationRequest requestId = old at hstep hold
  cases hstep with
  | kept => exact hold request rfl
  | @opened initiator id sliceId signers value c policy heq _ hc hlive hpolicy =>
    subst heq
    obtain ⟨hself, hother, hpolicies⟩ := hop.1 (initiator, id, signers) rfl
    exact
      { exclusive := by simp [AttestationRequest.opened]
        nodup := by simp [AttestationRequest.opened]
        required := by simpa [AttestationRequest.opened] using hself
        attainable := hpolicies c hc policy hpolicy
        cosigner := hother
        pending := fun _ => .inl rfl
        live := fun _ => Op.keeps_live env (by simp [Op.revoking]) ⟨c, hc, hlive⟩ s' hs' }
  | signed _ hopen _ hsigner hfresh =>
    exact (h.fair hstored).sign hopen hsigner hfresh ((hold _ rfl).live hopen)
  | rolledBack _ hopen =>
    exact
      { hold _ rfl with
        exclusive := by simp [hopen.1]
        live := fun hclosed => by simp [AttestationRequest.Open] at hclosed }

/-! ## Whole runs -/

namespace World

/-- The call puts the signature of `a` on the request. -/
def Signs (host : Host) (requestId : Nat) (a : Address) (w : World) (call : Call) : Prop :=
  w.Completes host call ∧ call.op.signing w.state = some (requestId, a)

/-- In the course of some calls, `a` has signed the request by the deadline. -/
def SignedBy (host : Host) (calls : List Call) (requestId : Nat) (a : Address) (deadline : Nat) :
    Prop :=
  Machine.Occurs (next host)
    (fun w call => w.Signs host requestId a call ∧ w.time + call.elapsed ≤ deadline) deployed calls

/-- Whoever has signed has done so by now. -/
theorem signed_by_now {host : Host} {requestId : Nat} {a : Address} {w : World} {calls : List Call}
    (h : Machine.Occurs (next host) (Signs host requestId a) w calls) {deadline : Nat}
    (hdeadline : (Machine.run (next host) w calls).time ≤ deadline) :
    Machine.Occurs (next host)
      (fun w call => w.Signs host requestId a call ∧ w.time + call.elapsed ≤ deadline) w calls := by
  induction calls generalizing w with
  | nil => exact h
  | cons call calls ih =>
    refine h.imp (fun hsigns => ⟨hsigns, le_trans ?_ hdeadline⟩) fun hlater => ih hlater hdeadline
    exact Machine.run_invariant (I := fun w' : World => w.time + call.elapsed ≤ w'.time)
      (fun _ _ hle => hle.trans (Nat.le_add_right _ _)) le_rfl calls

theorem requestsCounted_next {host : Host} (w : World) (call : Call)
    (h : w.state.RequestsCounted) : (w.next host call).state.RequestsCounted :=
  next_of_ensures ((call.op.requestsStep _ h).mono fun _ hstep => hstep.counted) h

/-- **The signatures in storage are those that were given.** -/
theorem mem_signaturesOn (host : Host) (calls : List Call) (requestId : Nat) (a : Address) :
    a ∈ (after host calls).state.signaturesOn requestId ↔
      Machine.Occurs (next host) (Signs host requestId a) deployed calls := by
  refine (Machine.flag_iff_occurs (P := fun w : World => a ∈ w.state.signaturesOn requestId)
    (E := Signs host requestId a) requestsCounted_next (fun w call hs => ?_)
    State.empty_requestsCounted calls).trans ?_
  · cases hcall : call.op.apply (w.env host call) w.state with
    | error fault => simp [next_state_of_error hcall, Signs, Completes, hcall]
    | ok s =>
      rw [next_state_of_ok hcall]
      refine ((call.op.requestsStep _ hs s hcall).step requestId).mem_signatures a |>.trans ?_
      exact or_congr_right (iff_and_self.mpr fun _ => ⟨s, hcall⟩)
  · exact or_iff_right List.not_mem_nil

theorem fairRequests {host : Host} {calls : List Call}
    (h : Machine.Along (next host) (Meets fun s op => op.RequestsFairly s) deployed calls) :
    (after host calls).state.FairRequests :=
  h.invariant (I := fun w : World => w.state.FairRequests)
    (fun w call hw hcall => next_of_ensures (Op.fairRequests (w.env host call) hcall hw) hw)
    State.empty_fairRequests

/-- The call leaves the request executed, and did not find it so. -/
def Executes (host : Host) (w : World) (call : Call) (requestId : Nat)
    (request : AttestationRequest) : Prop :=
  (w.next host call).state.attestations.attestationRequest requestId = some request ∧
    request.executed = true ∧
    ∀ old ∈ w.state.attestations.attestationRequest requestId, old.executed = false

/-- **A call that executes a request signs it**, within the window, and finds it open. -/
theorem Executes.signs {host : Host} {w : World} {call : Call} {requestId : Nat}
    {request : AttestationRequest} (hs : w.state.RequestsCounted)
    (h : w.Executes host call requestId request) :
    w.time + call.elapsed ≤ request.expiresAt ∧ ∃ signer old,
      w.Completes host call ∧ call.op = .attestation (.signAttestationRequest signer requestId) ∧
      w.state.attestations.attestationRequest requestId = some old ∧ old.Open ∧
      State.completes old ∧
      request = { old with signatures := old.signatures ++ [signer], executed := true } := by
  obtain ⟨hrequest, hexecuted, hold⟩ := h
  cases hcall : call.op.apply (w.env host call) w.state with
  | error fault =>
    rw [next_state_of_error hcall] at hrequest
    exact absurd hexecuted (by simp [hold request hrequest])
  | ok s =>
    rw [next_state_of_ok hcall] at hrequest
    have hstep := (call.op.requestsStep _ hs s hcall).step requestId
    rw [hrequest] at hstep
    generalize w.state.attestations.attestationRequest requestId = stored at hstep hold ⊢
    cases hstep with
    | kept => exact absurd hexecuted (by simp [hold request rfl])
    | opened => cases hexecuted
    | @signed signer old hop hopen hwindow =>
      have hreached : State.completes old := of_decide_eq_true hexecuted
      refine ⟨hwindow, signer, old, ⟨s, hcall⟩, hop, rfl, hopen, hreached, ?_⟩
      rw [decide_eq_true hreached]
    | rolledBack _ hopen => exact absurd hexecuted (by simp [hopen.1])

/-- What is asked of the multi-signature requests when `call` is made after `pre`. -/
structure RequestsSound (host : Host) (pre : List Call) (call : Call) : Prop where
  /-- Enough different required signers have signed in time, and the credential is not revoked. -/
  executes : ∀ requestId request, (after host pre).Executes host call requestId request →
    (∃ signers : Finset Address, request.threshold ≤ signers.card ∧
      ∀ a ∈ signers, a ∈ request.requiredSigners ∧
        SignedBy host (pre ++ [call]) requestId a request.expiresAt) ∧
    (after host (pre ++ [call])).state.Live request.credentialId
  exclusive : ∀ requestId request,
    (after host (pre ++ [call])).state.attestations.attestationRequest requestId = some request →
      ¬ (request.executed = true ∧ request.rolledBack = true)
  kept : ∀ requestId request,
    (after host pre).state.attestations.attestationRequest requestId = some request →
      ∃ request', (after host (pre ++ [call])).state.attestations.attestationRequest requestId =
          some request' ∧
        (request.executed = true → request'.executed = true) ∧
        (request.rolledBack = true → request'.rolledBack = true)
  /-- A request all required signers have signed in time is executed. -/
  executed : ∀ requestId request,
    (after host (pre ++ [call])).state.attestations.attestationRequest requestId = some request →
      (∀ a ∈ request.requiredSigners,
        SignedBy host (pre ++ [call]) requestId a request.expiresAt) → request.executed = true

/-- **A multi-signature request is executed exactly when enough of the signers it asks for have
signed in time, for a credential that is not revoked**, in every run whose requests are fair. -/
theorem multisig_attestation_sound (host : Host) (pre : List Call) (call : Call)
    (h : Machine.Along (next host) (Meets fun s op => op.RequestsFairly s) deployed
      (pre ++ [call])) :
    RequestsSound host pre call where
  executes := by
    intro requestId request hexecutes
    have hpre := fairRequests ((Machine.along_append (next host)).mp h).1
    obtain ⟨hwindow, signer, old, ⟨s, hs⟩, hop, hold, hopen, hreached, heq⟩ :=
      hexecutes.signs hpre.counted
    have hstored := hexecutes.1
    rw [← after_append] at hstored
    have hfair := (fairRequests h).fair hstored
    refine ⟨⟨request.signatures.toFinset, ?_, fun a ha => ?_⟩, ?_⟩
    · rw [List.toFinset_card_of_nodup hfair.nodup, heq, List.length_append]
      exact hreached
    · have hsigned := List.mem_toFinset.mp ha
      refine ⟨hfair.required a hsigned,
        signed_by_now ((mem_signaturesOn host _ requestId a).mp ?_) ?_⟩
      · rwa [State.signaturesOn_eq hstored]
      · rw [← after, after_append]
        exact hwindow
    · rw [after_append, next_state_of_ok hs, heq]
      exact Op.keeps_live _ (by simp [hop, Op.revoking]) ((hpre.fair hold).live hopen) s hs
  exclusive := fun requestId request hrequest => ((fairRequests h).fair hrequest).exclusive
  kept := by
    intro requestId request hrequest
    have hcounted := (fairRequests ((Machine.along_append (next host)).mp h).1).counted
    have hflags := (call.op.requestsStep ((after host pre).env host call) hcounted).mono
      fun _ hstep => (hrequest ▸ hstep.step requestId).flags
    rw [after_append]
    exact next_of_ensures hflags ⟨request, hrequest, fun h => h, fun h => h⟩
  executed := by
    intro requestId request hrequest hall
    refine ((fairRequests h).fair hrequest).executed fun a ha => ?_
    rw [← State.signaturesOn_eq hrequest]
    exact (mem_signaturesOn host _ requestId a).mpr
      (Machine.Occurs.mono _ (fun _ _ hsigns => hsigns.1) (hall a ha))

end World

namespace Sample

/-- A credential of alice's, of a type that wants two signatures, and a slice with bob in it. -/
def underPolicy : List Call :=
  [initialized, issue alice 1, call admin (.attestation (.setAttestationPolicy admin 1 2 100)),
    createSlice [bob] [1] 1]

/-- Bob asks for the signatures of some addresses. -/
def requestSignatures (signers : List Address) : Call :=
  call bob (.attestation (.requestMultisigAttestation bob 1 1 signers true))

/-- An address signs a request. -/
def sign (signer : Address) (requestId : Nat) : Call :=
  call signer (.attestation (.signAttestationRequest signer requestId))

end Sample

namespace World

open Sample

/-- Bob asks for their own signature and alice's, and alice's executes the request. -/
theorem multisig_attestation_sound_two :
    ∃ pre call, ((after host (pre ++ [call])).state.attestations.attestationRequest 1).map
        (·.executed) = some true ∧ RequestsSound host pre call :=
  ⟨underPolicy ++ [requestSignatures [bob, alice]],
    sign alice 1, by decide, multisig_attestation_sound _ _ _ (by decide)⟩

/-- **A request is executed although the credential has been revoked meanwhile.** -/
theorem not_multisig_attestation_sound :
    ¬ ∀ (host : Host) (pre : List Call) (call : Call), RequestsSound host pre call := by
  intro h
  have hsound := h host
    (underPolicy ++ [requestSignatures [bob, alice], revoke 1])
    (sign alice 1)
  obtain ⟨-, c, hc, hlive⟩ := hsound.executes 1 _ ⟨rfl, rfl, by decide⟩
  obtain rfl := Option.some.inj hc
  exact absurd hlive (by decide)

end World

end QuorumProof
