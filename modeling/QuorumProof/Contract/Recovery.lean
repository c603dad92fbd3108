import Mathlib.Data.Finset.Card
import QuorumProof.Contract.CredentialSteps

/-!
# Contract/Recovery — credentials that move by the approval of others

An issuer asks for a recovery, the approvers it names approve one by one, and once the threshold is
reached the issuer executes it.  The credential is looked at when the recovery is asked for and
never again, and the threshold is compared with nothing: `Op.RecoversFairly` is what the calls have
to do about it.
-/

namespace QuorumProof

open Guarded

/-- The request waits for approvals or for its execution. -/
def RecoveryRequest.Active (request : RecoveryRequest) : Prop :=
  request.status = .pending ∨ request.status = .approved

/-- The request `initiate_recovery` stores. -/
def RecoveryRequest.initiated (env : Env) (recoveryId : Nat) (issuer : Address) (id : Nat)
    (newSubject : Address) (approvers : List Address) (threshold : Nat) : RecoveryRequest where
  id := recoveryId
  credentialId := id
  issuer := issuer
  newSubject := newSubject
  status := .pending
  createdAt := env.now
  executedAt := none
  approvers := approvers
  threshold := threshold

/-- The request once `given` approvals have been given. -/
def RecoveryRequest.approve (request : RecoveryRequest) (given : Nat) : RecoveryRequest :=
  { request with status := if request.threshold ≤ given then .approved else .pending }

namespace Recoveries

/-- The approvals of a recovery. -/
def approvalsOn (r : Recoveries) (recoveryId : Nat) : List Address :=
  (r.approvals recoveryId).getD []

variable (r : Recoveries) (recoveryId : Nat) (request : RecoveryRequest)

/-- A recovery is asked for. -/
def initiate (env : Env) (issuer : Address) (id : Nat) (newSubject : Address)
    (approvers : List Address) (threshold : Nat) : Recoveries :=
  { r with
    request := r.request.set (r.count + 1)
      (.initiated env (r.count + 1) issuer id newSubject approvers threshold)
    count := r.count + 1
    current := r.current.set id (r.count + 1) }

/-- A recovery is approved once more. -/
def approve (approver : Address) : Recoveries :=
  { r with
    request := r.request.set recoveryId (request.approve ((r.approvalsOn recoveryId).length + 1))
    approvals := r.approvals.set recoveryId (r.approvalsOn recoveryId ++ [approver]) }

/-- A recovery in progress is closed. -/
def close (closed : RecoveryRequest) : Recoveries :=
  { r with
    request := r.request.set recoveryId closed
    current := r.current.remove request.credentialId }

/-- An approval is added to those of its recovery. -/
theorem approvalsOn_approve (approver : Address) (k : Nat) :
    (r.approve recoveryId request approver).approvalsOn k =
      if k = recoveryId then r.approvalsOn recoveryId ++ [approver] else r.approvalsOn k := by
  simp only [approvalsOn, approve, Store.set_apply]
  split <;> rfl

/-! ## The recoveries in storage -/

/-- What fair recoveries keep true of a request, when `P` says which credentials are in force. -/
structure FairRequest (r : Recoveries) (P : Nat → Prop) (recoveryId : Nat)
    (request : RecoveryRequest) : Prop where
  id_le : recoveryId ≤ r.count
  current : request.Active → r.current request.credentialId = some recoveryId
  standing : request.Active → P request.credentialId
  approvers : ∀ a ∈ r.approvalsOn recoveryId, a ∈ request.approvers
  enough : request.status = .approved → request.threshold ≤ (r.approvalsOn recoveryId).length
  attainable : request.threshold ≤ request.approvers.toFinset.card

/-- Every request is fair, nobody has approved twice, and nothing that is not there yet. -/
structure Fair (r : Recoveries) (P : Nat → Prop) : Prop where
  request : ∀ {recoveryId request}, r.request recoveryId = some request →
    r.FairRequest P recoveryId request
  nodup : ∀ recoveryId, (r.approvalsOn recoveryId).Nodup
  fresh : ∀ recoveryId, r.count < recoveryId → r.approvalsOn recoveryId = []

variable {r : Recoveries} {P Q : Nat → Prop} {recoveryId : Nat} {request : RecoveryRequest}

/-- What is in force may change where no recovery is in progress. -/
theorem Fair.mono (h : r.Fair P) (hPQ : ∀ id, r.current id ≠ none → P id → Q id) : r.Fair Q where
  request hrequest :=
    { h.request hrequest with
      standing := fun hactive => hPQ _
        (by simp [(h.request hrequest).current hactive]) ((h.request hrequest).standing hactive) }
  nodup := h.nodup
  fresh := h.fresh

theorem Fair.initiate (h : r.Fair P) {env : Env} {issuer newSubject : Address} {id threshold : Nat}
    {approvers : List Address} (hid : P id) (hfree : r.current id = none)
    (hattainable : threshold ≤ approvers.toFinset.card) :
    (r.initiate env issuer id newSubject approvers threshold).Fair P where
  request := by
    intro k other hother
    rcases Store.set_eq_some.mp hother with ⟨rfl, rfl⟩ | ⟨-, hother⟩
    · have hnone : r.approvalsOn (r.count + 1) = [] := h.fresh _ (Nat.lt_succ_self _)
      exact
        { id_le := le_rfl
          current := fun _ => Store.set_self _ _ _
          standing := fun _ => hid
          approvers := fun a (ha : a ∈ r.approvalsOn _) => by simp [hnone] at ha
          enough := fun hstatus => by cases hstatus
          attainable := hattainable }
    · have hold := h.request hother
      refine { hold with id_le := hold.id_le.trans (Nat.le_succ _), current := fun hactive => ?_ }
      -- no recovery of this credential was in progress
      have hne : other.credentialId ≠ id := by
        rintro rfl
        simp [hold.current hactive] at hfree
      exact (Store.set_of_ne hne).trans (hold.current hactive)
  nodup := h.nodup
  fresh k hk := h.fresh k (Nat.lt_of_succ_lt hk)

theorem Fair.approve (h : r.Fair P) {approver : Address}
    (hrequest : r.request recoveryId = some request) (hpending : request.status = .pending)
    (happrover : approver ∈ request.approvers) (hfresh : approver ∉ r.approvalsOn recoveryId) :
    (r.approve recoveryId request approver).Fair P := by
  have hfair := h.request hrequest
  refine ⟨fun {k other} hother => ?_, fun k => ?_, fun k hk => ?_⟩
  · rcases Store.set_eq_some.mp hother with ⟨rfl, rfl⟩ | ⟨hk, hother⟩
    · exact
        { id_le := hfair.id_le
          current := fun _ => hfair.current (.inl hpending)
          standing := fun _ => hfair.standing (.inl hpending)
          approvers := fun a ha => by
            rw [approvalsOn_approve, if_pos rfl] at ha
            rcases List.mem_append.mp ha with hold | hlast
            · exact hfair.approvers a hold
            · exact List.mem_singleton.mp hlast ▸ happrover
          enough := fun hstatus => by
            rw [approvalsOn_approve, if_pos rfl, List.length_append, List.length_singleton]
            simpa [RecoveryRequest.approve] using hstatus
          attainable := hfair.attainable }
    · have hold := h.request hother
      exact
        { hold with
          approvers := by rw [approvalsOn_approve, if_neg hk]; exact hold.approvers
          enough := by rw [approvalsOn_approve, if_neg hk]; exact hold.enough }
  · rw [approvalsOn_approve]
    split
    · simpa [List.nodup_append, h.nodup recoveryId] using fun a ha =>
        ne_of_mem_of_not_mem ha hfresh
    · exact h.nodup k
  · change r.count < k at hk
    rw [approvalsOn_approve, if_neg (by have := hfair.id_le; omega)]
    exact h.fresh k hk

/-- A request in progress is closed. -/
theorem Fair.close (h : r.Fair P) {closed : RecoveryRequest}
    (hrequest : r.request recoveryId = some request) (hactive : request.Active)
    (hclosed : ¬ closed.Active) (happrovers : closed.approvers = request.approvers)
    (hthreshold : closed.threshold = request.threshold) :
    (r.close recoveryId request closed).Fair P where
  request := by
    intro k other hother
    have hfair := h.request hrequest
    rcases Store.set_eq_some.mp hother with ⟨rfl, rfl⟩ | ⟨hk, hother⟩
    · exact
        { id_le := hfair.id_le
          current := fun hactive => absurd hactive hclosed
          standing := fun hactive => absurd hactive hclosed
          approvers := happrovers ▸ hfair.approvers
          enough := fun hstatus => absurd (.inr hstatus) hclosed
          attainable := by rw [happrovers, hthreshold]; exact hfair.attainable }
    · have hold := h.request hother
      refine { hold with current := fun hother => ?_ }
      -- one recovery of a credential is in progress at a time
      have hne : other.credentialId ≠ request.credentialId := by
        intro heq
        have hsame := hold.current hother
        rw [heq, hfair.current hactive] at hsame
        exact hk (Option.some.inj hsame).symm
      exact (Store.remove_of_ne hne).trans (hold.current hother)
  nodup := h.nodup
  fresh := h.fresh

end Recoveries

/-! ## One operation -/

namespace State

variable (env : Env) (s : State)

/-- **What an operation does to the recoveries.** -/
inductive RecoveryStep (env : Env) (s : State) : Op → Recoveries → Prop
  | kept {op : Op} (hop : op.handlesRecovery = false) : RecoveryStep env s op s.recoveries
  | initiated {issuer newSubject : Address} {id threshold : Nat} {approvers : List Address}
      (hid : s.InForce id) (hfree : s.recoveries.current id = none) :
    RecoveryStep env s
      (.lifecycle (.initiateRecovery issuer id newSubject approvers threshold))
      (s.recoveries.initiate env issuer id newSubject approvers threshold)
  | approved {approver : Address} {recoveryId : Nat} {request : RecoveryRequest}
      (hrequest : s.recoveries.request recoveryId = some request)
      (hpending : request.status = .pending) (happrover : approver ∈ request.approvers)
      (hfresh : approver ∉ s.recoveries.approvalsOn recoveryId) :
    RecoveryStep env s (.lifecycle (.approveRecovery approver recoveryId))
      (s.recoveries.approve recoveryId request approver)
  | executed {issuer : Address} {recoveryId : Nat} {sbtCalls : Except Fault Unit}
      {request : RecoveryRequest} (hrequest : s.recoveries.request recoveryId = some request)
      (happroved : request.status = .approved) :
    RecoveryStep env s (.lifecycle (.executeRecovery issuer recoveryId sbtCalls))
      (s.recoveries.close recoveryId request
        { request with status := .executed, executedAt := some env.now })
  | cancelled {issuer : Address} {recoveryId : Nat} {request : RecoveryRequest}
      (hrequest : s.recoveries.request recoveryId = some request) (hactive : request.Active) :
    RecoveryStep env s (.lifecycle (.cancelRecovery issuer recoveryId))
      (s.recoveries.close recoveryId request { request with status := .rejected })

/-- An operation is one of these steps. -/
def Recovers (op : Op) : Prop :=
  Ensures (op.apply env s) fun s' => s.RecoveryStep env op s'.recoveries

theorem approveRecovery_recovers (approver : Address) (recoveryId : Nat) :
    s.Recovers env (.lifecycle (.approveRecovery approver recoveryId)) := by
  simp only [Recovers, Op.apply, LifecycleOp.apply, approveRecovery, ensures_steps, ensures_guards,
    require_eq_ok]
  intro _ control _ request hrequest hpending happrover hfresh
  have hstep : RecoveryStep env s (.lifecycle (.approveRecovery approver recoveryId)) _ :=
    .approved hrequest hpending happrover hfresh
  rw [List.length_append, List.length_singleton]
  unfold Recoveries.approve at hstep
  split
  next hreached =>
    have happroved : request.approve ((s.recoveries.approvalsOn recoveryId).length + 1) =
        { request with status := .approved } := by
      rw [RecoveryRequest.approve, if_pos (by exact hreached)]
    rw [happroved] at hstep
    exact hstep
  next hfew =>
    -- below the threshold the request is not rewritten
    have hsame : request.approve ((s.recoveries.approvalsOn recoveryId).length + 1) = request := by
      rw [RecoveryRequest.approve, if_neg (by exact hfew), ← hpending]
    rw [hsame, Store.set_eq_self (by exact hrequest)] at hstep
    exact hstep

end State

/-- **Every operation is one of these steps.** -/
theorem Op.recoveryStep (env : Env) (s : State) (op : Op) : s.Recovers env op := by
  cases hop : op.handlesRecovery with
  | true =>
    unfold handlesRecovery at hop
    split at hop
    next =>
      simp only [State.Recovers, apply, LifecycleOp.apply, State.initiateRecovery, ensures_steps,
        State.ensures_guards, require_eq_ok]
      intro _ _ _ _ _ _ c hc _ hlive hactive hfree _
      exact .initiated ⟨c, hc, hlive, hactive⟩ hfree
    next => exact State.approveRecovery_recovers env s _ _
    next =>
      simp only [State.Recovers, apply, LifecycleOp.apply, State.executeRecovery, ensures_steps,
        State.ensures_guards, require_eq_ok]
      exact fun _ _ _ request hrequest _ happroved _ _ _ => .executed hrequest happroved
    next =>
      simp only [State.Recovers, apply, LifecycleOp.apply, State.cancelRecovery, ensures_steps,
        State.ensures_guards, require_eq_ok]
      exact fun _ _ _ request hrequest _ hactive => .cancelled hrequest hactive
    next => cases hop
  | false =>
    refine (op.keeps env s).mono fun s' h => ?_
    have hsame : s'.recoveries = s.recoveries := by
      simpa [kept, hop] using congrArg (·.2.2.1) h
    rw [hsame]
    exact .kept hop

/-- The recovery an operation approves, and for whom. -/
def Op.approvesRecovery : Op → Option (Nat × Address)
  | lifecycle (.approveRecovery approver recoveryId) => some (recoveryId, approver)
  | _ => none

theorem Op.eq_of_approvesRecovery {op : Op} {recoveryId : Nat} {a : Address}
    (h : op.approvesRecovery = some (recoveryId, a)) :
    op = .lifecycle (.approveRecovery a recoveryId) := by
  unfold Op.approvesRecovery at h
  split at h
  next =>
    obtain ⟨rfl, rfl⟩ := Prod.mk.inj (Option.some.inj h)
    rfl
  next => cases h

/-- **The approvals of a recovery are those that were there, and the one the operation gives.** -/
theorem State.RecoveryStep.mem_approvalsOn {env : Env} {s : State} {op : Op} {r : Recoveries}
    (h : s.RecoveryStep env op r) (recoveryId : Nat) (a : Address) :
    a ∈ r.approvalsOn recoveryId ↔
      a ∈ s.recoveries.approvalsOn recoveryId ∨ op.approvesRecovery = some (recoveryId, a) := by
  cases h with
  | kept hop =>
    have hnone : op.approvesRecovery = none := by
      unfold Op.approvesRecovery
      split
      next => cases hop
      next => rfl
    simp [hnone]
  | @approved approver key request _ _ _ _ =>
    rw [Recoveries.approvalsOn_approve]
    by_cases hkey : recoveryId = key
    · subst hkey
      simp [Op.approvesRecovery, eq_comm]
    · simp [Op.approvesRecovery, hkey, Ne.symm hkey]
  | _ => simp [Recoveries.approvalsOn, Recoveries.initiate, Recoveries.close, Op.approvesRecovery]

/-! ## Recoveries that can be carried out -/

/-- The approvers and the threshold of the recovery an operation asks for. -/
def Op.asksRecovery : Op → Option (List Address × Nat)
  | lifecycle (.initiateRecovery _ _ _ approvers threshold) => some (approvers, threshold)
  | _ => none

/-- **A recovery asks for no more approvals than it names different approvers, and no credential is
revoked or suspended while a recovery of it is in progress.** -/
def Op.RecoversFairly (s : State) (op : Op) : Prop :=
  (∀ asked ∈ op.asksRecovery, asked.2 ≤ asked.1.toFinset.card) ∧
  ∀ id ∈ op.revoking s ++ op.suspending, s.workflow.credentialRecovery id = none
  deriving Decidable

/-- **Recoveries stay fair**, one operation at a time. -/
theorem Op.recoveriesFair (env : Env) {s : State} {op : Op} (hop : op.RecoversFairly s)
    (h : s.recoveries.Fair s.InForce) :
    Ensures (op.apply env s) fun s' => s'.recoveries.Fair s'.InForce := by
  intro s' hs'
  have hkeeps : ∀ id, id ∉ op.revoking s ++ op.suspending → s.InForce id → s'.InForce id :=
    fun id hid hforce => Op.keeps_inForce env (fun hin => hid (List.mem_append_left _ hin))
      (fun hin => hid (List.mem_append_right _ hin)) hforce s' hs'
  have hfair : s.recoveries.Fair s'.InForce :=
    h.mono fun id hcurrent => hkeeps id fun hin => hcurrent (hop.2 id hin)
  have hstep : s.RecoveryStep env op s'.recoveries := op.recoveryStep env s s' hs'
  generalize s'.recoveries = r at hstep ⊢
  cases hstep with
  | kept => exact hfair
  | initiated hid hfree =>
    exact hfair.initiate (hkeeps _ (by simp [Op.revoking, Op.suspending]) hid) hfree (hop.1 _ rfl)
  | approved hrequest hpending happrover hfresh =>
    exact hfair.approve hrequest hpending happrover hfresh
  | executed hrequest happroved =>
    exact hfair.close hrequest (.inr happroved) (by simp [RecoveryRequest.Active]) rfl rfl
  | cancelled hrequest hactive =>
    exact hfair.close hrequest hactive (by simp [RecoveryRequest.Active]) rfl rfl

theorem State.empty_recoveriesFair : State.empty.recoveries.Fair State.empty.InForce :=
  ⟨nofun, fun _ => List.nodup_nil, fun _ _ => rfl⟩

/-! ## Whole runs -/

namespace World

/-- In the course of some calls, `a` has approved the recovery. -/
def ApprovedRecovery (host : Host) (calls : List Call) (recoveryId : Nat) (a : Address) : Prop :=
  Machine.Occurs (next host)
    (fun w call => w.Completes host call ∧ call.op.approvesRecovery = some (recoveryId, a))
    deployed calls

/-- **The approvals in storage are those that were given.** -/
theorem mem_approvalsOn (host : Host) (calls : List Call) (recoveryId : Nat) (a : Address) :
    a ∈ (after host calls).state.recoveries.approvalsOn recoveryId ↔
      ApprovedRecovery host calls recoveryId a := by
  refine (Machine.flag_iff_occurs (I := fun _ => True)
    (P := fun w : World => a ∈ w.state.recoveries.approvalsOn recoveryId)
    (fun _ _ h => h) (fun w call _ => ?_) trivial calls).trans (or_iff_right ?_)
  · cases hcall : call.op.apply (w.env host call) w.state with
    | error fault =>
      rw [next_state_of_error hcall]
      simp [Completes, hcall]
    | ok s =>
      rw [next_state_of_ok hcall, (call.op.recoveryStep _ _ s hcall).mem_approvalsOn]
      simp [Completes, hcall]
  · exact List.not_mem_nil

theorem recoveriesFair {host : Host} {calls : List Call}
    (h : Machine.Along (next host) (Meets fun s op => op.RecoversFairly s) deployed calls) :
    (after host calls).state.recoveries.Fair (after host calls).state.InForce :=
  h.invariant (I := fun w : World => w.state.recoveries.Fair w.state.InForce)
    (fun w call hw hcall => next_of_ensures (Op.recoveriesFair (w.env host call) hcall hw) hw)
    State.empty_recoveriesFair

/-- What is asked of the recoveries when `call` is made after `pre`. -/
structure RecoverySound (host : Host) (pre : List Call) (call : Call) : Prop where
  /-- A recovery that is executed is the one in progress for its credential, which is in force, and
  enough different approvers have approved it. -/
  executes : ∀ issuer recoveryId sbtCalls,
    call.op = .lifecycle (.executeRecovery issuer recoveryId sbtCalls) →
    (after host pre).Completes host call →
    ∃ request, (after host pre).state.workflow.recoveryRequest recoveryId = some request ∧
      (after host pre).state.InForce request.credentialId ∧
      (∃ approvers : Finset Address, request.threshold ≤ approvers.card ∧
        ∀ a ∈ approvers, a ∈ request.approvers ∧ ApprovedRecovery host pre recoveryId a) ∧
      (after host pre).state.workflow.credentialRecovery request.credentialId = some recoveryId
  /-- The approval that completes the approvers' makes the request an approved one. -/
  approved : ∀ recoveryId request,
    (after host (pre ++ [call])).state.workflow.recoveryRequest recoveryId = some request →
    (∀ a ∈ request.approvers, ApprovedRecovery host (pre ++ [call]) recoveryId a) →
    (¬ ∀ a ∈ request.approvers, ApprovedRecovery host pre recoveryId a) →
    request.status = .approved

/-- **A recovery is executed only for a credential in force, with the approvals it asks for, and the
approvals of all approvers are enough**, in every run whose recoveries are fair. -/
theorem credential_recovery_sound (host : Host) (pre : List Call) (call : Call)
    (h : Machine.Along (next host) (Meets fun s op => op.RecoversFairly s) deployed
      (pre ++ [call])) :
    RecoverySound host pre call where
  executes := by
    rintro issuer recoveryId sbtCalls hop ⟨s', hs'⟩
    have hfair := recoveriesFair ((Machine.along_append (next host)).mp h).1
    have hstep := call.op.recoveryStep _ _ s' hs'
    rw [hop] at hstep
    generalize s'.recoveries = r at hstep
    cases hstep with
    | kept hnot => cases hnot
    | @executed _ _ _ request hrequest happroved =>
      have hsound := hfair.request hrequest
      refine ⟨request, hrequest, hsound.standing (.inr happroved),
        ⟨((after host pre).state.recoveries.approvalsOn recoveryId).toFinset, ?_, fun a ha => ?_⟩,
        hsound.current (.inr happroved)⟩
      · rw [List.toFinset_card_of_nodup (hfair.nodup recoveryId)]
        exact hsound.enough happroved
      · have hin := List.mem_toFinset.mp ha
        exact ⟨hsound.approvers a hin, (mem_approvalsOn host pre recoveryId a).mp hin⟩
  approved := by
    intro recoveryId request hrequest hall hnot
    have hfair := recoveriesFair h
    -- somebody's approval is new, so this call gave it
    simp only [not_forall] at hnot
    obtain ⟨a, ha, hnew⟩ := hnot
    obtain ⟨⟨s', hs'⟩, happroves⟩ : (after host pre).Completes host call ∧
        call.op.approvesRecovery = some (recoveryId, a) := by
      have hgiven := hall a ha
      rw [ApprovedRecovery, Machine.occurs_append] at hgiven
      simpa [Machine.Occurs, after] using hgiven.resolve_left hnew
    have hlength : request.threshold ≤
        ((after host (pre ++ [call])).state.recoveries.approvalsOn recoveryId).length := by
      calc request.threshold
          ≤ request.approvers.toFinset.card := (hfair.request hrequest).attainable
        _ ≤ ((after host (pre ++ [call])).state.recoveries.approvalsOn recoveryId).toFinset.card :=
          Finset.card_le_card fun b hb => List.mem_toFinset.mpr
            ((mem_approvalsOn ..).mpr (hall b (List.mem_toFinset.mp hb)))
        _ = _ := List.toFinset_card_of_nodup (hfair.nodup recoveryId)
    have hstate : (after host (pre ++ [call])).state = s' := by
      rw [after_append, next_state_of_ok hs']
    rw [hstate] at hrequest hlength
    have hstep := call.op.recoveryStep _ _ s' hs'
    rw [Op.eq_of_approvesRecovery happroves] at hstep
    change s'.recoveries.request recoveryId = some request at hrequest
    generalize s'.recoveries = r at hstep hrequest hlength
    cases hstep with
    | kept hkept => cases hkept
    | approved _ _ _ _ =>
      simp only [Recoveries.approve, Store.set_self, Option.some.injEq] at hrequest
      subst hrequest
      rw [Recoveries.approvalsOn_approve, if_pos rfl, List.length_append] at hlength
      exact if_pos hlength

end World

namespace Sample

/-- A credential of alice's, whose recovery to bob the issuer asks for. -/
def recovering (approvers : List Address) (threshold : Nat) : List Call :=
  [initialized, issue alice 1,
    call issuer (.lifecycle (.initiateRecovery issuer 1 bob approvers threshold))]

/-- An approver approves the first recovery. -/
def approveRecovery (approver : Address) : Call :=
  call approver (.lifecycle (.approveRecovery approver 1))

/-- The issuer executes the first recovery. -/
def executeRecovery : Call :=
  call issuer (.lifecycle (.executeRecovery issuer 1 (.ok ())))

end Sample

namespace World

open Sample

/-- Two approvers approve, and bob has the credential. -/
theorem credential_recovery_sound_two :
    ∃ pre call, ((after host (pre ++ [call])).state.registry.credentials 1).map
        (·.subject) = some bob ∧ RecoverySound host pre call :=
  ⟨recovering [admin, bob] 2 ++
      [approveRecovery admin, approveRecovery bob],
    executeRecovery, by decide, credential_recovery_sound _ _ _ (by decide)⟩

/-- **A recovery is executed although the credential has been revoked meanwhile.** -/
theorem not_credential_recovery_sound :
    ¬ ∀ (host : Host) (pre : List Call) (call : Call), RecoverySound host pre call := by
  intro h
  have hsound := h host
    (recovering [admin] 1 ++
      [approveRecovery admin, revoke 1]) executeRecovery
  obtain ⟨request, hrequest, ⟨c, hc, hlive, -⟩, -⟩ :=
    hsound.executes issuer 1 (.ok ()) rfl (by decide)
  obtain rfl := Option.some.inj hrequest
  obtain rfl := Option.some.inj hc
  exact absurd hlive (by decide)

end World

end QuorumProof
