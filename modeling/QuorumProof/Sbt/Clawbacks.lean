import QuorumProof.Sbt.Frames

/-!
# Sbt/Clawbacks — the three records of a clawback

A clawback is recorded three times: as a request under its id, as the pending one of its token, and
in the list of all pending ones.  `initiate_sbt_clawback` writes the three together.
`cancel_sbt_clawback` goes by the request's id and does not look at its status: a request that is
cancelled again takes the pending entry of its token with it, whichever request that is.  In a run
that cancels only what is pending, or what leaves no pending entry to take, the three agree.
-/

namespace QuorumProof.Sbt

open Guarded Machine Sbt.Annex

namespace ClawbackBook

variable (b : ClawbackBook)

/-- A request for a token is pending. -/
def Pending (id t : Nat) : Prop :=
  ∃ request, b.request id = some request ∧ request.sbtId = t ∧ request.status = .pending

/-- **The three records agree**: a token has at most one pending request, its entry names that
request, and the list names the pending requests, once each. -/
structure Agree (b : ClawbackBook) : Prop where
  one_pending : ∀ t id id', b.Pending id t → b.Pending id' t → id = id'
  pendingBySbt_iff : ∀ t id, b.pendingBySbt t = some id ↔ b.Pending id t
  mem_pending_iff : ∀ id, id ∈ b.pending ↔ ∃ t, b.Pending id t
  nodup : b.pending.Nodup

/-- Later requests are new. -/
def Fresh : Prop := ∀ id, b.requestCount < id → b.request id = none

def initiate (request : ClawbackRequest) : ClawbackBook where
  request := b.request.set request.id request
  requestCount := request.id
  pendingBySbt := b.pendingBySbt.set request.sbtId request.id
  pending := if request.id ∈ b.pending then b.pending else b.pending ++ [request.id]

def cancel (id : Nat) (request : ClawbackRequest) : ClawbackBook where
  request := b.request.set id { request with status := .cancelled }
  requestCount := b.requestCount
  pendingBySbt := b.pendingBySbt.remove request.sbtId
  pending := b.pending.erase id

/-- **What an entry point does to the records.** -/
inductive Step (b b' : ClawbackBook) : Op → Prop
  | kept {op : Op} (h : b' = b) : Step b b' op
  | initiated {issuer : Address} {t timelock : Nat} {reason : Bytes} (request : ClawbackRequest)
      (hid : request.id = b.requestCount + 1) (hpending : request.status = .pending)
      (hfree : b.pendingBySbt request.sbtId = none) (h : b' = b.initiate request) :
      Step b b' (.annex (.initiateSbtClawback issuer t reason timelock))
  | cancelled {issuer : Address} {id : Nat} (request : ClawbackRequest)
      (hrequest : b.request id = some request) (h : b' = b.cancel id request) :
      Step b b' (.annex (.cancelSbtClawback issuer id))

/-- A cancelled request is pending, or its token has no pending entry. -/
def CancelsOpen : Op → Prop
  | .annex (.cancelSbtClawback _ id) => ∀ request ∈ b.request id,
    request.status = .pending ∨ b.pendingBySbt request.sbtId = none
  | _ => True

instance (b : ClawbackBook) (op : Op) : Decidable (b.CancelsOpen op) := by
  unfold CancelsOpen
  split <;> infer_instance

section Steps

variable {b : ClawbackBook} {id t : Nat} {request : ClawbackRequest}

theorem Agree.pendingBySbt_eq_some (hb : Agree b) (hrequest : b.request id = some request)
    (hpending : request.status = .pending) : b.pendingBySbt request.sbtId = some id :=
  (hb.pendingBySbt_iff _ _).mpr ⟨request, hrequest, rfl, hpending⟩

theorem Agree.mk' (hbySbt : ∀ t id, b.pendingBySbt t = some id ↔ b.Pending id t)
    (hmem : ∀ id, id ∈ b.pending ↔ ∃ t, b.Pending id t) (hnodup : b.pending.Nodup) :
    Agree b where
  one_pending t id id' h h' :=
    Option.some.inj (((hbySbt t id).mpr h).symm.trans ((hbySbt t id').mpr h'))
  pendingBySbt_iff := hbySbt
  mem_pending_iff := hmem
  nodup := hnodup

/-! ### Opening a request -/

theorem pending_initiate (hfresh : b.request request.id = none)
    (hpending : request.status = .pending) :
    (b.initiate request).Pending id t ↔
      b.Pending id t ∨ id = request.id ∧ t = request.sbtId := by
  simp only [Pending, initiate, Store.set_apply]
  split
  next heq => simp [heq, hfresh, hpending, eq_comm]
  next hne => simp [hne]

theorem Agree.initiate (hb : Agree b) (hfresh : b.request request.id = none)
    (hpending : request.status = .pending) (hfree : b.pendingBySbt request.sbtId = none) :
    Agree (b.initiate request) := by
  have hnew : request.id ∉ b.pending := by
    rw [hb.mem_pending_iff]
    rintro ⟨t, r, hr, -⟩
    simp [hfresh] at hr
  have hlist : (b.initiate request).pending = b.pending ++ [request.id] := if_neg hnew
  refine .mk' (fun t id => ?_) (fun id => ?_) ?_
  · rw [pending_initiate hfresh hpending, ← hb.pendingBySbt_iff]
    simp only [ClawbackBook.initiate, Store.set_apply]
    split
    next heq => simp [heq, hfree, eq_comm]
    next hne => simp [hne]
  · rw [hlist, List.mem_append, List.mem_singleton, hb.mem_pending_iff]
    simp only [pending_initiate hfresh hpending, exists_or, exists_and_left, exists_eq, and_true]
  · rw [hlist]
    exact hb.nodup.append (List.nodup_singleton _) (by simpa using hnew)

/-! ### Cancelling a request -/

theorem pending_cancel {id' : Nat} :
    (b.cancel id request).Pending id' t ↔ b.Pending id' t ∧ id' ≠ id := by
  simp only [Pending, cancel, Store.set_apply]
  split
  next heq => simp [heq]
  next hne => simp [hne]

theorem Agree.cancel (hb : Agree b) (hrequest : b.request id = some request)
    (hopen : request.status = .pending ∨ b.pendingBySbt request.sbtId = none) :
    Agree (b.cancel id request) := by
  -- Whatever is pending for the token is the request that is cancelled.
  have honly : ∀ id', b.pendingBySbt request.sbtId = some id' → id' = id := by
    rintro id' hid'
    rcases hopen with hpending | hnone
    · exact Option.some.inj (hid'.symm.trans (hb.pendingBySbt_eq_some hrequest hpending))
    · simp [hnone] at hid'
  have htoken : ∀ t, b.Pending id t → t = request.sbtId := by
    rintro t ⟨r, hr, rfl, -⟩
    rw [Option.mem_unique hr hrequest]
  refine .mk' (fun t id' => ?_) (fun id' => ?_) (hb.nodup.erase id)
  · rw [pending_cancel, ← hb.pendingBySbt_iff]
    simp only [ClawbackBook.cancel, Store.remove_apply]
    split
    next heq =>
      subst heq
      simpa using honly id'
    next hne =>
      refine ⟨fun h => ⟨h, ?_⟩, And.left⟩
      rintro rfl
      exact hne (htoken t ((hb.pendingBySbt_iff _ _).mp h))
  · simp only [pending_cancel, exists_and_right, ← hb.mem_pending_iff]
    exact hb.nodup.mem_erase_iff.trans and_comm

/-- **Cancelling a cancelled request changes nothing**, if nothing is pending for its token. -/
theorem Agree.cancel_eq_self (hb : Agree b) (hrequest : b.request id = some request)
    (hcancelled : request.status = .cancelled) (hnone : b.pendingBySbt request.sbtId = none) :
    b.cancel id request = b := by
  have hsame : { request with status := .cancelled } = request := by rw [← hcancelled]
  have hlisted : id ∉ b.pending := by
    rw [hb.mem_pending_iff]
    rintro ⟨t, r, hr, -, hpending⟩
    rw [Option.mem_unique hr hrequest, hcancelled] at hpending
    exact absurd hpending (by decide)
  ext1
  · exact (congrArg (b.request.set id) hsame).trans (Store.set_eq_self hrequest)
  · rfl
  · funext t
    simp only [ClawbackBook.cancel, Store.remove_apply]
    split
    next heq => rw [heq, hnone]
    next => rfl
  · exact List.erase_of_not_mem hlisted

/-- **Every step that cancels what is open keeps the records in agreement.** -/
theorem Agree.step {b' : ClawbackBook} {op : Op} (hb : Agree b) (hfresh : Fresh b)
    (hopen : b.CancelsOpen op) (hstep : Step b b' op) : Agree b' := by
  cases hstep with
  | kept h => exact h ▸ hb
  | initiated request hid hpending hfree h =>
    subst h
    exact hb.initiate (hfresh _ (by omega)) hpending hfree
  | cancelled request hrequest h =>
    subst h
    exact hb.cancel hrequest (hopen request hrequest)

theorem Fresh.step {b' : ClawbackBook} {op : Op} (hb : Fresh b) (hstep : Step b b' op) :
    Fresh b' := by
  cases hstep with
  | kept h => exact h ▸ hb
  | initiated request hid hpending hfree h =>
    subst h
    intro id hlt
    simp only [initiate] at hlt ⊢
    rw [Store.set_of_ne (by omega)]
    exact hb id (by omega)
  | cancelled request hrequest h =>
    subst h
    intro id' hlt
    refine (Store.set_of_ne ?_).trans (hb id' hlt)
    rintro rfl
    exact absurd (hrequest.symm.trans (hb id' hlt)) (by simp)

end Steps

end ClawbackBook

open ClawbackBook

/-! ## The entry points -/

/-- **Every entry point takes one of the steps.** -/
theorem Op.clawback_step (env : Env) (s : State) (op : Op) :
    Ensures (op.apply env s) fun s' => Step s.annex.clawbacks s'.annex.clawbacks op := by
  by_cases hop : op.writesClawbacks = false
  · exact (Op.keeps env s op).mono fun s' h => .kept (h.clawbacks hop)
  cases op with
  | annex op =>
    cases op with
    | initiateSbtClawback issuer t reason timelock =>
      simp only [Op.apply, AnnexOp.apply, ensures_map, State.initiateSbtClawback, ensures_bind,
        ensures_unit, require_eq_ok, ensures_checkedSucc, ensures_pure]
      intro _ _ _ hfree _
      exact .initiated ⟨_, t, _, _, _, _, _⟩ rfl rfl hfree rfl
    | cancelSbtClawback issuer id =>
      simp only [Op.apply, AnnexOp.apply, State.cancelSbtClawback, ensures_bind, ensures_unit,
        ensures_expect, ensures_pure]
      intro _ request hrequest _
      exact .cancelled request hrequest rfl
    | _ => exact absurd rfl hop
  | _ => exact absurd rfl hop

namespace World

variable (host : Host) (w : World) (call : Call)

/-- A call cancels a pending request, or one that leaves no pending entry to take. -/
def CancelsOpen : Prop :=
  w.state.annex.clawbacks.CancelsOpen call.op
  deriving Decidable

theorem clawback_step_next :
    Step w.state.annex.clawbacks (w.next host call).state.annex.clawbacks call.op :=
  next_of_ensures (Q := fun s => Step w.state.annex.clawbacks s.annex.clawbacks call.op)
    (Op.clawback_step _ _ _) (.kept rfl)

theorem agree_after (calls : List Call) (hcalls : Along (next host) CancelsOpen deployed calls) :
    (after host calls).state.annex.clawbacks.Agree := by
  have hnone : ∀ id t, ¬ deployed.state.annex.clawbacks.Pending id t := by
    rintro id t ⟨request, hrequest, -⟩
    cases hrequest
  have hdeployed : deployed.state.annex.clawbacks.Agree :=
    .mk' (fun t id => iff_of_false nofun (hnone id t))
      (fun id => iff_of_false List.not_mem_nil (not_exists.mpr (hnone id))) List.nodup_nil
  exact (hcalls.invariant
    (I := fun w => w.state.annex.clawbacks.Agree ∧ w.state.annex.clawbacks.Fresh)
    (fun w call hw hopen => ⟨hw.1.step hw.2 hopen (clawback_step_next host w call),
      hw.2.step (clawback_step_next host w call)⟩) ⟨hdeployed, fun _ _ => rfl⟩).1

/-- Cancelling a request a second time changes nothing at all. -/
def RecancelsIdly : Prop :=
  ∀ issuer id request, call.op = .annex (.cancelSbtClawback issuer id) →
    w.state.annex.clawbackRequest id = some request → request.status = .cancelled →
    (w.next host call).state = w.state

theorem recancelsIdly {host : Host} {w : World} {call : Call}
    (hw : w.state.annex.clawbacks.Agree) (hopen : w.CancelsOpen call) :
    w.RecancelsIdly host call := by
  intro issuer id request hop hrequest hcancelled
  have hnone : w.state.annex.pendingClawbackBySbt request.sbtId = none := by
    rw [CancelsOpen, hop] at hopen
    exact (hopen request hrequest).resolve_left (by simp [hcancelled])
  cases hcall : call.op.apply (w.env host call) w.state with
  | error fault => exact next_state_of_error hcall
  | ok s =>
    rw [next_state_of_ok hcall]
    simp only [hop, Op.apply, AnnexOp.apply, State.cancelSbtClawback, hrequest, bind_eq_ok,
      expect_eq_ok, pure_eq_ok, Option.some.injEq] at hcall
    obtain ⟨_, _, _, rfl, _, _, rfl⟩ := hcall
    have hsame := hw.cancel_eq_self hrequest hcancelled hnone
    simp only [cancel, clawbacks, ClawbackBook.mk.injEq] at hsame
    obtain ⟨hreq, -, hbySbt, hlist⟩ := hsame
    rw [hreq, hbySbt, hlist]

/-- **Clawbacks are recorded consistently** in every run that cancels only what is open: the three
records agree after it, and cancelling a cancelled request again changes nothing. -/
theorem clawbacks_agree (host : Host) (calls : List Call)
    (hcalls : Along (next host) CancelsOpen deployed calls) :
    (after host calls).state.annex.clawbacks.Agree ∧
      ∀ call, (after host calls).CancelsOpen call → (after host calls).RecancelsIdly host call :=
  ⟨agree_after host calls hcalls, fun _ => recancelsIdly (agree_after host calls hcalls)⟩

end World

/-! ## Sample runs -/

namespace Sample

/-- Somebody claws a token back, in a day. -/
def clawBack (issuer : Address) (t : Nat) : Call :=
  callBy [issuer] (.annex (.initiateSbtClawback issuer t [] 86400))

/-- The issuer cancels a clawback. -/
def cancelClawback (issuer : Address) (id : Nat) : Call :=
  callBy [issuer] (.annex (.cancelSbtClawback issuer id))

/-- A clawback is cancelled, and the token is clawed back again. -/
def clawedBackAgain : List Call :=
  [initialized, mint alice 1, clawBack bob 1, cancelClawback bob 1, clawBack bob 1]

end Sample

namespace World

open Sbt.Sample in
/-- After the second clawback only that one is pending. -/
theorem clawbacks_agree_again :
    (after host clawedBackAgain).state.annex.clawbacks.Agree ∧
      (after host clawedBackAgain).state.annex.pendingClawbacks = [2] :=
  ⟨(clawbacks_agree host clawedBackAgain (by decide +kernel)).1, by decide +kernel⟩

open Sbt.Sample in
/-- **A cancelled request can be cancelled again**, and takes the pending entry of a later request
for the token with it. -/
theorem not_clawbacks_agree : ¬ ∀ host calls,
    (after host calls).state.annex.clawbacks.Agree ∧
      ∀ call, (after host calls).RecancelsIdly host call := by
  intro h
  have hagree := (h host (clawedBackAgain ++ [cancelClawback bob 1])).1
  have hentry := (hagree.pendingBySbt_iff 1 2).mpr
    ⟨⟨2, 1, bob, [], 0, 86400, .pending⟩, by decide +kernel, rfl, rfl⟩
  exact absurd hentry (by decide +kernel)

end World

end QuorumProof.Sbt
