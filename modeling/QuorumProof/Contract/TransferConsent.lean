import QuorumProof.Contract.Annex
import QuorumProof.Contract.CredentialSteps
import QuorumProof.Contract.Permanence

/-!
# Contract/TransferConsent — whose consent a transfer carries out

`initiate_transfer` writes down who the subject is and whom the credential is to go to;
`accept_transfer` reads the second of these and not the first.  So a request is as good as what has
happened to the credential since: it must not have changed hands, nor been revoked, nor its type
been restricted.  No entry point looks at the pending requests before it does one of these.

Source: `initiate_transfer`, `accept_transfer`, `set_transfer_restriction`.
-/

namespace QuorumProof

open Guarded

/-! ## What one operation does to the requests -/

/-- The credential an operation asks to transfer. -/
def Op.asksTransfer : Op → Option Nat
  | lifecycle (.initiateTransfer _ id _) => some id
  | _ => none

/-- The credentials an operation gives to another subject without a transfer request. -/
def Op.displacing (s : State) : Op → List Nat
  | lifecycle (.acceptTransfer ..) => []
  | op => op.moving s

namespace State

/-- **What an operation does to the transfer requests.** -/
inductive TransferStep (s s' : State) : Op → Prop
  | kept {op : Op} (hop : op.displacing s = op.moving s)
      (hrequests : s'.workflow.transferRequest = s.workflow.transferRequest) : TransferStep s s' op
  | asked {holder recipient : Address} {id : Nat} {c : Credential}
      (hc : s.registry.credentials id = some c) (hholder : c.subject = holder)
      (hregistry : s'.registry = s.registry)
      (hrequests : s'.workflow.transferRequest = s.workflow.transferRequest.set id
        { credentialId := id, fromAddress := holder, toAddress := recipient }) :
      TransferStep s s' (.lifecycle (.initiateTransfer holder id recipient))
  | accepted {recipient : Address} {id : Nat}
      (hrequests : s'.workflow.transferRequest = s.workflow.transferRequest.remove id) :
      TransferStep s s' (.lifecycle (.acceptTransfer recipient id))

end State

open State

theorem Op.transferStep (env : Env) (s : State) (op : Op) :
    Ensures (op.apply env s) fun s' => TransferStep s s' op := by
  cases hop : op.handlesTransfer with
  | true =>
    unfold handlesTransfer at hop
    split at hop
    next holder id recipient =>
      simp only [Op.apply, LifecycleOp.apply, ensures_steps, initiateTransfer, ensures_guards,
        require_eq_ok]
      intro _ _ _ c hc hholder
      exact .asked hc hholder rfl rfl
    next recipient id =>
      simp only [Op.apply, LifecycleOp.apply, ensures_steps, acceptTransfer, ensures_guards]
      intro _ _ _ _ _ _ _ _
      exact .accepted rfl
    next => cases hop
  | false =>
    refine (op.keeps env s).mono fun s' h => .kept ?_ ?_
    · unfold displacing
      split
      next => cases hop
      next => rfl
    · simpa [kept, hop] using congrArg (·.2.1) h

/-! ## Requests that still stand -/

namespace State

variable (s : State) (restrictions : Store Nat TransferRestriction)

/-- The address that asked for a transfer is still the subject, and the credential may move. -/
def Consented (id : Nat) (request : TransferRequest) : Prop :=
  ∃ c, s.registry.credentials id = some c ∧ c.subject = request.fromAddress ∧ c.revoked = false ∧
    isCredentialTypeTransferable restrictions c.credentialType = true

/-- Every pending request still stands. -/
def TransfersConsented : Prop :=
  ∀ id request, s.workflow.transferRequest id = some request → s.Consented restrictions id request

/-- A credential that may be asked for: live, and of a transferable type. -/
def Movable (id : Nat) : Prop :=
  ∃ c ∈ s.registry.credentials id, c.revoked = false ∧
    isCredentialTypeTransferable restrictions c.credentialType = true
  deriving Decidable

/-- No transfer of a credential of this type is pending. -/
def NothingPending (credentialType : Nat) : Prop :=
  ∀ id ≤ s.registry.credentialCount, ∀ c ∈ s.registry.credentials id,
    c.credentialType = credentialType → s.workflow.transferRequest id = none
  deriving Decidable

end State

/-- **What an operation of the contract must keep to** for the pending requests to stand: ask only
for what may move, and leave alone what has been asked for. -/
@[mk_iff] structure Op.TransfersFairly (s : State) (restrictions : Store Nat TransferRestriction)
    (op : Op) : Prop where
  keepsCount : op.KeepsCount s
  asks : ∀ id ∈ op.asksTransfer, s.Movable restrictions id
  leaves : ∀ id ∈ op.revoking s ++ op.displacing s, s.workflow.transferRequest id = none

instance (s : State) (restrictions : Store Nat TransferRestriction) (op : Op) :
    Decidable (op.TransfersFairly s restrictions) :=
  decidable_of_iff' _ (Op.transfersFairly_iff ..)

section Contract

variable {env : Env} {s s' : State} {op : Op} {restrictions : Store Nat TransferRestriction}

/-- A request stands as long as nobody touches its credential. -/
theorem State.Consented.step (hs' : op.apply env s = .ok s') (hnumbered : s.registry.Numbered)
    {id : Nat} {request : TransferRequest} (h : s.Consented restrictions id request)
    (hrevoking : id ∉ op.revoking s) (hmoving : id ∉ op.moving s) :
    s'.Consented restrictions id request := by
  obtain ⟨c, hc, hsubject, hlive, htype⟩ := h
  obtain ⟨c', hc', halters | ⟨hnew, -⟩⟩ := Op.credential_step hs' hc
  · exact ⟨c', hc', (halters.subject.resolve_right hmoving).trans hsubject,
      halters.live hrevoking hlive, halters.credentialType ▸ htype⟩
  · exact absurd (hnumbered.id_le hc) (not_le.mpr hnew)

theorem Op.TransfersFairly.consented (hfair : op.TransfersFairly s restrictions)
    (hs' : op.apply env s = .ok s') (hnumbered : s.registry.Numbered)
    (h : s.TransfersConsented restrictions) : s'.TransfersConsented restrictions := by
  have hleaves : ∀ {id request}, s.workflow.transferRequest id = some request →
      id ∉ op.revoking s ∧ id ∉ op.displacing s := by
    intro id request hrequest
    rw [← not_or, ← List.mem_append]
    intro hid
    simp [hfair.leaves id hid] at hrequest
  have hstep := op.transferStep env s s' hs'
  intro id request hrequest'
  cases hstep with
  | kept hop hrequests =>
    have hrequest : s.workflow.transferRequest id = some request := hrequests ▸ hrequest'
    obtain ⟨hrevoking, hdisplacing⟩ := hleaves hrequest
    exact (h id request hrequest).step hs' hnumbered hrevoking (hop ▸ hdisplacing)
  | @asked holder recipient k c hc hholder hregistry hrequests =>
    rw [hrequests, Store.set_eq_some] at hrequest'
    rw [Consented, hregistry]
    rcases hrequest' with ⟨rfl, rfl⟩ | ⟨-, hrequest⟩
    · obtain ⟨c', hc', hlive, htype⟩ := hfair.asks id rfl
      obtain rfl := Option.mem_unique hc hc'
      exact ⟨c, hc, hholder, hlive, htype⟩
    · exact h id request hrequest
  | @accepted recipient k hrequests =>
    rw [hrequests, Store.remove_apply] at hrequest'
    split at hrequest'
    next => cases hrequest'
    next hne =>
      refine (h id request hrequest').step hs' hnumbered (hleaves hrequest').1 ?_
      simpa [Op.moving] using hne

end Contract

/-! ## Whole runs -/

namespace AnnexedOp

/-- **What a call must keep to** for the pending requests to stand. -/
def TransfersFairly (w : AnnexedWorld) : AnnexedOp → Prop
  | contract op => op.TransfersFairly w.world.state w.annex.transferRestriction
  | annex (.setTransferRestriction _ credentialType false) =>
    w.world.state.NothingPending credentialType
  | annex _ => True

instance (w : AnnexedWorld) (op : AnnexedOp) : Decidable (op.TransfersFairly w) := by
  unfold TransfersFairly
  split <;> infer_instance

/-- A call of the annex leaves the requests standing. -/
theorem TransfersFairly.annex_consented {env : Env} {w : AnnexedWorld} {op : AnnexOp}
    (hfair : (annex op).TransfersFairly w) (hnumbered : w.world.state.registry.Numbered)
    (h : w.world.state.TransfersConsented w.annex.transferRestriction) (c : Control) :
    Ensures (op.write env c w.annex) fun a =>
      w.world.state.TransfersConsented a.transferRestriction := by
  cases op with
  | setTransferRestriction admin type transferable =>
    simp only [AnnexOp.write, setTransferRestriction, ensures_steps]
    intro _ id request hrequest
    obtain ⟨c, hc, hsubject, hlive, htype⟩ := h id request hrequest
    refine ⟨c, hc, hsubject, hlive, ?_⟩
    rw [isCredentialTypeTransferable, Store.set_apply]
    split
    next heq =>
      cases transferable with
      | true => rfl
      | false =>
        have hnone := hfair id (hnumbered.id_le hc) c hc heq
        exact absurd (hnone.symm.trans hrequest) (by simp)
    next => exact htype
  | _ => exact ensures_map.mpr fun _ _ => h

end AnnexedOp

namespace AnnexedWorld

/-- **Along every run of fair calls the pending requests stand.** -/
theorem transfersConsented {host : Host} {calls : List AnnexedCall}
    (h : Machine.Along (next host) (Meets fun w op => op.TransfersFairly w) deployed calls) :
    (after host calls).world.state.registry.Numbered ∧
      (after host calls).world.state.TransfersConsented
        (after host calls).annex.transferRestriction := by
  refine h.invariant (I := fun w => w.world.state.registry.Numbered ∧
      w.world.state.TransfersConsented w.annex.transferRestriction) ?_
    ⟨State.empty_numbered, nofun⟩
  rintro w ⟨elapsed, auths, op⟩ ⟨hnumbered, hconsented⟩ hfair
  cases op with
  | contract op =>
    have hensures : Ensures (op.apply (w.env host ⟨elapsed, auths, .contract op⟩) w.world.state)
        fun s' => s'.registry.Numbered ∧ s'.TransfersConsented w.annex.transferRestriction := by
      intro s' hs'
      exact ⟨hfair.keepsCount.numbered hs' hnumbered, hfair.consented hs' hnumbered hconsented⟩
    obtain ⟨hnext, hannex⟩ := next_of_contract host w _ rfl hensures ⟨hnumbered, hconsented⟩
    rw [hannex]
    exact hnext
  | annex op =>
    obtain ⟨⟨control, -, hstate⟩, hconsented'⟩ := next_of_annex host w ⟨elapsed, auths, .annex op⟩
      rfl (fun c _ => AnnexedOp.TransfersFairly.annex_consented hfair hnumbered hconsented c)
      hconsented
    rw [hstate]
    exact ⟨hnumbered, hconsented'⟩

/-- **What the consent to a transfer means**: when it is accepted, the address that asked for it is
still the subject, and the credential is neither revoked nor forbidden to move. -/
def TransferSound (host : Host) (pre : List AnnexedCall) (call : AnnexedCall) : Prop :=
  ∀ recipient id, call.op = .contract (.lifecycle (.acceptTransfer recipient id)) →
    (after host pre).Completes host call →
    ∃ request, (after host pre).world.state.workflow.transferRequest id = some request ∧
      request.toAddress = recipient ∧
      (after host pre).world.state.Consented (after host pre).annex.transferRestriction id request

/-- **A transfer carries out the present subject's consent**, in every run in which what has been
asked for is left alone. -/
theorem transfer_consent_sound (host : Host) (pre : List AnnexedCall) (call : AnnexedCall)
    (h : Machine.Along (next host) (Meets fun w op => op.TransfersFairly w) deployed pre) :
    TransferSound host pre call := by
  intro recipient id hop hcompletes
  obtain ⟨s, hs⟩ := hcompletes.contract hop
  simp only [Op.apply, LifecycleOp.apply, State.acceptTransfer, State.requireNotPaused, map_eq_ok,
    bind_eq_ok, expect_eq_ok, require_eq_ok, pure_eq_ok] at hs
  obtain ⟨_, ⟨_, _, _, ⟨_, _, rfl⟩, request, hrequest, _, hto, _⟩, _⟩ := hs
  exact ⟨request, hrequest, hto, (transfersConsented h).2 id request hrequest⟩

end AnnexedWorld

namespace Sample

/-- A credential of alice's, which they ask to give to bob. -/
def transferring : List AnnexedCall :=
  [proper initialized, proper (issue alice 1),
    proper (call alice (.lifecycle (.initiateTransfer alice 1 bob)))]

/-- Bob accepts. -/
def acceptTransfer : AnnexedCall := proper (call bob (.lifecycle (.acceptTransfer bob 1)))

end Sample

namespace AnnexedWorld

/-- Nothing happens to the credential in between, and bob has it. -/
theorem transfer_consent_sound_two :
    ((after Sample.host (Sample.transferring ++
        [Sample.acceptTransfer])).world.state.registry.credentials 1).map (·.subject) =
          some Sample.bob ∧
      TransferSound Sample.host Sample.transferring Sample.acceptTransfer :=
  ⟨by decide, transfer_consent_sound _ _ _ (by decide)⟩

/-- **A request of a former subject's takes the credential from the present one**: the subject has
rotated their key in between. -/
theorem not_transfer_consent_sound :
    ¬ ∀ (host : Host) (pre : List AnnexedCall) (call : AnnexedCall),
      TransferSound host pre call := by
  intro h
  obtain ⟨request, hrequest, -, c, hc, hsubject, -⟩ := h Sample.host
    (Sample.transferring ++ [Sample.proper (Sample.rotate Sample.alice 1 Sample.admin)])
    Sample.acceptTransfer Sample.bob 1 rfl (by decide)
  obtain rfl := Option.some.inj hrequest
  obtain rfl := Option.some.inj hc
  exact absurd hsubject (by decide)

end AnnexedWorld

end QuorumProof
