import QuorumProof.Sbt.Guardians
import QuorumProof.Sbt.Ownership

/-!
# Sbt/Soulbound — by whose authority a token changes hands

A token that has another owner after a call was moved by one of the call's actions, so the call is
one of the six that move tokens.  Four of them answer to the administrator, to `quorum_proof` or to
the guardians.  `transfer_ownership_dual` answers to the owner alone and `transfer_sbt_via_attestor`
to an attestor the owner named: in a run where these two change no owner without the administrator,
tokens are soulbound.
-/

namespace QuorumProof.Sbt

open Machine

/-- The administrator authorized the call. -/
def State.AdminSigned (s : State) (auths : List Address) : Prop :=
  ∃ admin ∈ auths, s.control.admin = some admin
  deriving Decidable

/-- **The two transfers an owner can bring about change no owner without the administrator.** -/
def Op.StaysBound (auths : List Address) (s : State) : Op → Prop
  | token (.transferOwnershipDual t newOwner) =>
    s.AdminSigned auths ∨ ∀ token ∈ s.ledger.tokens t, newOwner = token.owner
  | token (.transferSbtViaAttestor _ t _) =>
    s.AdminSigned auths ∨ ∀ record ∈ s.delegations.attestorDelegation t,
      ∀ token ∈ s.ledger.tokens t, record.newHolder = token.owner
  | _ => True

instance (auths : List Address) (s : State) (op : Op) : Decidable (op.StaysBound auths s) := by
  rcases op with _ | op | _ | _ | _ | _
  on_goal 2 => rcases op with _ | _ | _ | _ | _ | _ | _ | _ | _ | _
  all_goals first | exact .isTrue trivial | exact inferInstanceAs (Decidable (_ ∨ _))

/-- **On whose word an entry point moves a token.** -/
inductive Op.Mover (auths : List Address) (s : State) (t : Nat) : Op → Prop
  | admin {op : Op} (h : s.AdminSigned auths) : Mover auths s t op
  | quorumProof {qpId newOwner : Address} (hauth : qpId ∈ auths)
      (hqp : s.control.quorumProofId = some qpId) :
      Mover auths s t (.token (.recoverSbt qpId t newOwner))
  | guardians {initiator : Address} {q : Nat} {request : RecoveryRequest}
      (hrequest : s.recovery.request q = some request)
      (henough : s.recovery.getRecoveryThreshold ≤ request.approvalsCount) :
      Mover auths s t (.recovery (.finalizeRecovery initiator q))
  | owner {op : Op} {newOwner : Address}
      (hactions : op.actions s = [.move t newOwner] ∨ op.actions s = [.hand t newOwner])
      (hsame : ∀ token ∈ s.ledger.tokens t, newOwner = token.owner) : Mover auths s t op

section Mover

variable {auths : List Address} {s : State} {t : Nat} {n : Address} {a : Action}

theorem TokenOp.mover {op : TokenOp} (hsigned : Op.Signed auths s (.token op))
    (hbound : Op.StaysBound auths s (.token op)) (ha : a ∈ op.actions s)
    (hmoves : a.receiver t = some n) : Op.Mover auths s t (.token op) := by
  cases op <;> simp only [TokenOp.actions, List.mem_map, List.mem_singleton] at ha
  case mint | burn | burnSbt =>
    subst ha
    simp [Action.receiver] at hmoves
  case batchMint | batchBurn =>
    obtain ⟨_, -, rfl⟩ := ha
    simp [Action.receiver] at hmoves
  case adminTransferSbt admin _ _ | batchTransfer admin _ => exact .admin ⟨admin, hsigned⟩
  case recoverSbt caller t' newOwner =>
    subst ha
    obtain ⟨rfl, -⟩ := Option.ite_none_right_eq_some.mp hmoves
    obtain ⟨hauth, hqp | hadmin⟩ := hsigned
    · exact .quorumProof hauth hqp
    · exact .admin ⟨caller, hauth, hadmin⟩
  case transferOwnershipDual t' newOwner =>
    subst ha
    obtain ⟨rfl, -⟩ := Option.ite_none_right_eq_some.mp hmoves
    rcases hbound with hadmin | hsame
    · exact .admin hadmin
    · exact .owner (.inl rfl) hsame
  case transferSbtViaAttestor attestor t' proof =>
    rcases hrecord : s.delegations.attestorDelegation t' with _ | record <;>
      simp only [hrecord, List.not_mem_nil, List.mem_singleton] at ha
    subst ha
    obtain ⟨rfl, -⟩ := Option.ite_none_right_eq_some.mp hmoves
    rcases hbound with hadmin | hsame
    · exact .admin hadmin
    · exact .owner (.inr (by rw [Op.actions, TokenOp.actions, hrecord])) (hsame record hrecord)

theorem RecoveryOp.mover {op : RecoveryOp} (hsigned : Op.Signed auths s (.recovery op))
    (ha : a ∈ op.actions s) : Op.Mover auths s t (.recovery op) := by
  cases op <;> simp only [RecoveryOp.actions, List.not_mem_nil] at ha
  case finalizeRecovery initiator q =>
    rcases hrequest : s.recovery.request q with _ | request
    · simp [hrequest] at ha
    · exact .guardians hrequest (hsigned.2 request hrequest).2.2

/-- **A signed entry point moves a token on somebody's word.** -/
theorem Op.mover {op : Op} (hsigned : op.Signed auths s) (hbound : op.StaysBound auths s)
    (ha : a ∈ op.actions s) (hmoves : a.receiver t = some n) : op.Mover auths s t := by
  rcases op with _ | op | op | _ | _ | _
  case token => exact op.mover hsigned hbound ha hmoves
  case recovery => exact op.mover hsigned ha
  all_goals exact absurd ha (by simp [Op.actions])

end Mover

namespace World

/-- **The authority of a call**: the administrator's, `quorum_proof`'s for a recovery, or that of as
many guardians as the threshold says for a request they all approved. -/
def Authorized (host : Host) (before : List Call) (call : Call) : Prop :=
  (after host before).state.AdminSigned call.auths ∨
  (∃ qpId t newOwner, call.op = .token (.recoverSbt qpId t newOwner) ∧ qpId ∈ call.auths ∧
    (after host before).state.control.quorumProofId = some qpId) ∨
  ∃ initiator q, call.op = .recovery (.finalizeRecovery initiator q) ∧
    ∃ approvers : Finset Address,
      0 < (after host before).state.recovery.getRecoveryThreshold ∧
      (after host before).state.recovery.getRecoveryThreshold ≤ approvers.card ∧
      ∀ g ∈ approvers, ApprovedIn host before g q

/-- **Tokens are soulbound in a run**: a call that changes the stored owner of a token has the
authority for it. -/
def Soulbound (host : Host) (calls : List Call) : Prop :=
  ∀ before call rest t o n, calls = before ++ call :: rest →
    (after host before).state.ledger.owners t = some o →
    ((after host before).next host call).state.ledger.owners t = some n → n ≠ o →
    Authorized host before call

/-- A signed call changes no owner by the owner's will alone. -/
def StaysBound (w : World) (call : Call) : Prop :=
  w.Signed call → call.op.StaysBound call.auths w.state
  deriving Decidable

/-- A request that is finalized has the approval of as many guardians as the threshold says. -/
theorem approved_of_finalizes {host : Host} {before : List Call} {q : Nat}
    {request : RecoveryRequest}
    (hrequest : (after host before).state.recovery.request q = some request)
    (henough : (after host before).state.recovery.getRecoveryThreshold ≤ request.approvalsCount) :
    ∃ approvers : Finset Address,
      0 < (after host before).state.recovery.getRecoveryThreshold ∧
      (after host before).state.recovery.getRecoveryThreshold ≤ approvers.card ∧
      ∀ g ∈ approvers, ApprovedIn host before g q := by
  have hsound := sound_after host before
  refine ⟨((after host before).state.recovery.approvers q).toFinset,
    hsound.configured (hsound.requested q request hrequest), ?_, fun g hg => ?_⟩
  · rw [(hsound.each q).counted request hrequest] at henough
    exact henough.trans_eq (List.toFinset_card_of_nodup (hsound.each q).nodup).symm
  · exact approvedIn_after host before (List.mem_toFinset.mp hg)

/-- The one token a call moves has the new owner after it. -/
theorem owners_of_actions {host : Host} {w : World} {call : Call} {t : Nat} {newOwner : Address}
    (hw : w.holdings.Consistent) (hcall : w.Completes host call)
    (hactions : call.op.actions w.state = [.move t newOwner] ∨
      call.op.actions w.state = [.hand t newOwner]) :
    (w.next host call).state.ledger.owners t = some newOwner := by
  obtain ⟨hrun, henabled⟩ := next_refines host hw call
  rw [actions, if_pos hcall] at hrun henabled
  have howner : (w.next host call).state.holdings.ownerOf t = some newOwner := by
    rw [hrun]
    rcases hactions with heq | heq <;> rw [heq] at henabled ⊢ <;>
      obtain ⟨k, hk⟩ := Option.ne_none_iff_exists'.mp henabled.1
    · rw [run_cons, run_nil, Holdings.act_move hk]
      exact Store.set_self _ _ _
    · rw [run_cons, run_nil, Holdings.act_hand hk]
      exact Store.set_self _ _ _
  exact howner

/-- **Tokens are soulbound** in every run in which no owner gives a token away. -/
theorem soulbound (host : Host) (calls : List Call)
    (hcalls : Along (next host) StaysBound deployed calls) : Soulbound host calls := by
  rintro before call rest t o n rfl ho hn hne
  obtain ⟨-, hbound, -⟩ := (along_append _).mp hcalls
  have hw : (after host before).holdings.Consistent := consistent_after host before
  obtain ⟨a, ha, _, hmoves, -⟩ := exists_receiver_of_next hw ho hn hne
  obtain ⟨hcall, ha⟩ := mem_actions.mp ha
  have hmover := Op.mover hcall.signed (hbound hcall.signed) ha hmoves
  generalize hop : call.op = op at hmover
  cases hmover with
  | admin h => exact .inl h
  | quorumProof hauth hqp => exact .inr (.inl ⟨_, _, _, hop, hauth, hqp⟩)
  | guardians hrequest henough =>
    exact .inr (.inr ⟨_, _, hop, approved_of_finalizes hrequest henough⟩)
  | owner hactions hsame =>
    -- the only token it moves goes to its owner
    obtain ⟨token, htoken, rfl⟩ := (State.ownerOf_eq_some hw).mp ho
    rw [owners_of_actions hw hcall (hop ▸ hactions)] at hn
    exact absurd ((Option.some.inj hn).symm.trans (hsame token htoken)) hne

end World

/-! ## Sample runs -/

namespace Sample

/-- The owner gives a token away. -/
def give (owner : Address) (t : Nat) (newOwner : Address) : Call :=
  callBy [owner] (.token (.transferOwnershipDual t newOwner))

/-- A guardian approves the recovery of a holder's only token. -/
def recoveredToken : List Call :=
  [initialized, mint carol 1, guardians [alice] 1, askRecovery carol bob, approve alice 1]

end Sample

namespace World

open Sbt.Sample in
/-- The guardian moves the token. -/
theorem soulbound_recovered : Authorized host recoveredToken (finalize carol 1) :=
  soulbound host (recoveredToken ++ [finalize carol 1]) (by decide +kernel) recoveredToken
    (finalize carol 1) [] 1 carol bob rfl (by decide +kernel) (by decide +kernel) (by decide)

open Sbt.Sample in
/-- **An owner moves a token by themselves.** -/
theorem not_soulbound : ¬ ∀ host calls, Soulbound host calls := by
  intro h
  have hgiven := h host [initialized, mint alice 1, give alice 1 bob] [initialized, mint alice 1]
    (give alice 1 bob) [] 1 alice bob rfl (by decide +kernel) (by decide +kernel) (by decide)
  rcases hgiven with hadmin | ⟨_, _, _, hop, -⟩ | ⟨_, _, hop, -⟩
  · exact absurd hadmin (by decide +kernel)
  · simp [give, callBy] at hop
  · simp [give, callBy] at hop

end World

end QuorumProof.Sbt
