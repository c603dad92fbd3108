import Mathlib.Data.Finset.Card
import QuorumProof.Sbt.Frames

/-!
# Sbt/Guardians — recovery by guardians

A recovery request carries a bare count of approvals, checked against the threshold in force when it
is finalized.  `Ballots.Step` says what an entry point does to the ballots.  In every run the
count of a request is the number of its distinct approvers (`Sound`), each of whom approved it as a
guardian; that they are still guardians, and that a configuration can reach its own threshold, holds
as long as the administrator names distinct guardians and keeps the ones who have voted (`Seated`).
-/

namespace QuorumProof.Sbt

open Guarded Machine

/-! ## Ballots -/

/-- The guardians and their threshold, and each request with those who have approved it. -/
structure Ballots where
  guardians : List Address
  threshold : Nat
  count : Nat
  ballot : Nat → Option RecoveryRequest × List Address

def RecoveryBook.ballots (r : RecoveryBook) : Ballots where
  guardians := r.getRecoveryGuardians
  threshold := r.getRecoveryThreshold
  count := r.requestCount
  ballot q := (r.request q, r.approvers q)

namespace Ballots

/-- **What an entry point does to the ballots.** -/
inductive Step (b : Ballots) : Op → Ballots → Prop
  | keeps {op : Op} (hop : ∀ op', op ≠ .recovery op') : Step b op b
  | configures {admin : Address} {guardians : List Address} {threshold : Nat}
      (hsome : guardians ≠ []) (hpos : 0 < threshold) :
      Step b (.recovery (.setupRecoveryGuardians admin guardians threshold))
        { b with guardians := guardians, threshold := threshold }
  | requests {initiator newOwner : Address} {request : RecoveryRequest}
      (hguardians : b.guardians ≠ []) (hcount : request.approvalsCount = 0) :
      Step b (.recovery (.initiateRecovery initiator newOwner))
        { b with
          count := b.count + 1
          ballot := Function.update b.ballot (b.count + 1) (some request, []) }
  | approves {guardian : Address} {q : Nat} {request : RecoveryRequest}
      (hguardian : guardian ∈ b.guardians) (hrequest : (b.ballot q).1 = some request)
      (hopen : request.completed = false) (hnew : guardian ∉ (b.ballot q).2) :
      Step b (.recovery (.approveRecovery guardian q))
        { b with
          ballot := Function.update b.ballot q
            (some { request with approvalsCount := request.approvalsCount + 1 },
              (b.ballot q).2 ++ [guardian]) }
  | finalizes {initiator : Address} {q : Nat} {request : RecoveryRequest}
      (hrequest : (b.ballot q).1 = some request) (hopen : request.completed = false)
      (henough : b.threshold ≤ request.approvalsCount) :
      Step b (.recovery (.finalizeRecovery initiator q))
        { b with
          ballot := Function.update b.ballot q
            (some { request with completed := true }, (b.ballot q).2) }

end Ballots

open RecoveryBook Ballots

namespace RecoveryBook

theorem recordAuditTrail_ballots (env : Env) (r : RecoveryBook) (q : Nat) (action : AuditAction)
    (actor : Address) (details : String) :
    Ensures (r.recordAuditTrail env q action actor details) fun r' => r'.ballots = r.ballots := by
  simp only [recordAuditTrail, ensures_bind, ensures_checkedSucc, ensures_pure]
  exact fun _ => rfl

section Write

variable {r r' : RecoveryBook} {q : Nat}

theorem approvers_set {approvals : List RecoveryApproval}
    (h : r'.approvals = r.approvals.set q approvals) :
    r'.approvers = Function.update r.approvers q (approvals.map RecoveryApproval.guardian) := by
  funext q'
  simp only [approvers, getRecoveryApprovals, h, Store.set_apply, Function.update_apply]
  split <;> rfl

/-- A request and its approvals are written. -/
theorem ballots_set {request : RecoveryRequest} {approvers : List Address}
    (hguardians : r'.guardians = r.guardians) (hthreshold : r'.threshold = r.threshold)
    (hrequest : r'.request = r.request.set q request)
    (happrovers : r'.approvers = Function.update r.approvers q approvers) :
    r'.ballots = { r.ballots with
      count := r'.requestCount
      ballot := Function.update r.ballots.ballot q (some request, approvers) } := by
  have hballot : r'.ballots.ballot =
      Function.update r.ballots.ballot q (some request, approvers) := by
    funext q'
    simp only [ballots, hrequest, happrovers, Store.set_apply, Function.update_apply]
    split <;> rfl
  rw [← hballot]
  simp only [ballots, getRecoveryGuardians, getRecoveryThreshold, hguardians, hthreshold]

end Write

end RecoveryBook

/-! ## One step -/

theorem State.recoveryOp_step (env : Env) (s : State) (op : RecoveryOp) :
    Ensures (op.apply env s) fun s' =>
      Step s.recovery.ballots (.recovery op) s'.recovery.ballots := by
  cases op
  case setupRecoveryGuardians admin guardians threshold =>
    simp only [RecoveryOp.apply, setupRecoveryGuardians, ensures_steps, require_eq_ok]
    exact fun _ _ hsome _ hpos _ => .configures hsome hpos
  case initiateRecovery initiator newOwner =>
    simp only [RecoveryOp.apply, ensures_steps, initiateRecovery, RecoveryBook.initiateRecovery,
      ensures_guards, require_eq_ok]
    intro _ hguardians _ _ _ r hr
    rw [(recordAuditTrail_ballots env _ _ _ _ _ r hr).trans
      (ballots_set (r := s.recovery) rfl rfl rfl (approvers_set rfl))]
    exact .requests hguardians rfl
  case approveRecovery guardian q =>
    simp only [RecoveryOp.apply, approveRecovery, RecoveryBook.approveRecovery, ensures_steps,
      ensures_guards, require_eq_ok]
    intro _ hguardian request hrequest hopen hnew _ r hr
    rw [(recordAuditTrail_ballots env _ _ _ _ _ r hr).trans
      (ballots_set (r := s.recovery) rfl rfl rfl (approvers_set rfl)), List.map_append]
    exact .approves (b := s.recovery.ballots) hguardian hrequest hopen hnew
  case finalizeRecovery initiator q =>
    simp only [RecoveryOp.apply, finalizeRecovery, approvedRequest, completeRequest, ensures_steps,
      require_eq_ok]
    intro _ request hrequest _ hopen henough _ _ r hr
    rw [(recordAuditTrail_ballots env _ _ _ _ _ r hr).trans
      (ballots_set (r := s.recovery) rfl rfl rfl (Function.update_eq_self q _).symm)]
    exact .finalizes (b := s.recovery.ballots) hrequest hopen henough

theorem Op.recovery_step (env : Env) (s : State) (op : Op) :
    Ensures (op.apply env s) fun s' => Step s.recovery.ballots op s'.recovery.ballots := by
  have hkeeps := Op.keeps env s op
  rcases op with op | op | op | op | op | op
  case recovery => exact State.recoveryOp_step env s op
  all_goals exact hkeeps.mono fun _ h => h.recovery rfl ▸ .keeps (by simp)

namespace Ballots

/-! ## What every run keeps -/

/-- A request counts its distinct approvers, and is not there before it is made. -/
structure SoundAt (count q : Nat) (ballot : Option RecoveryRequest × List Address) : Prop where
  fresh : count < q → ballot = (none, [])
  counted : ∀ request ∈ ballot.1, request.approvalsCount = ballot.2.length
  nodup : ballot.2.Nodup

/-- **Every request counts its distinct approvers**, and is made under a configuration. -/
structure Sound (b : Ballots) : Prop where
  each : ∀ q, SoundAt b.count q (b.ballot q)
  configured : b.guardians ≠ [] → 0 < b.threshold
  requested : ∀ q, ∀ request ∈ (b.ballot q).1, b.guardians ≠ []

/-- The approvers of an open request are guardians. -/
def SeatedAt (guardians : List Address) (ballot : Option RecoveryRequest × List Address) : Prop :=
  ∀ request ∈ ballot.1, request.completed = false → ∀ g ∈ ballot.2, g ∈ guardians

/-- **The guardians reach the threshold, and the approvers of an open request are guardians.** -/
structure Seated (b : Ballots) : Prop where
  reach : b.threshold ≤ b.guardians.toFinset.card
  each : ∀ q, SeatedAt b.guardians (b.ballot q)

variable {b b' : Ballots} {op : Op} {q : Nat} {request : RecoveryRequest}

theorem SoundAt.le_count {count : Nat} {ballot : Option RecoveryRequest × List Address}
    (h : SoundAt count q ballot) (hrequest : ballot.1 = some request) : q ≤ count := by
  by_contra hlt
  rw [h.fresh (Nat.lt_of_not_le hlt)] at hrequest
  cases hrequest

/-- **Every entry point keeps the count of a request right.** -/
theorem Sound.step (h : Sound b) (hstep : Step b op b') : Sound b' := by
  cases hstep with
  | keeps => exact h
  | configures hsome hpos => exact ⟨h.each, fun _ => hpos, fun _ _ _ => hsome⟩
  | requests hguardians hcount =>
    refine ⟨(Function.forall_update_iff _ _).mpr ⟨?_, fun q _ => ?_⟩, h.configured,
      fun _ _ _ => hguardians⟩
    · exact ⟨fun hlt => absurd hlt (Nat.lt_irrefl _), by simpa using hcount, List.nodup_nil⟩
    · exact { h.each q with fresh := fun hlt => (h.each q).fresh (Nat.lt_of_succ_lt hlt) }
  | @approves guardian q request _ hrequest _ hnew =>
    refine ⟨(Function.forall_update_iff _ _).mpr ⟨?_, fun q' _ => h.each q'⟩, h.configured,
      fun _ _ _ => h.requested q request hrequest⟩
    refine ⟨fun hlt => absurd ((h.each q).le_count hrequest) (Nat.not_le.mpr hlt), ?_, ?_⟩
    · simp [(h.each q).counted request hrequest]
    · exact (h.each q).nodup.append (List.nodup_singleton _) (by simpa using hnew)
  | @finalizes _ q request hrequest _ _ =>
    refine ⟨(Function.forall_update_iff _ _).mpr ⟨?_, fun q' _ => h.each q'⟩, h.configured,
      fun _ _ _ => h.requested q request hrequest⟩
    refine ⟨fun hlt => absurd ((h.each q).le_count hrequest) (Nat.not_le.mpr hlt), ?_,
      (h.each q).nodup⟩
    simpa using (h.each q).counted request hrequest

end Ballots

/-! ## What the administrator has to keep -/

/-- **A configuration names enough distinct guardians, and keeps those who have approved an open
request.** -/
def RecoveryBook.KeepsGuardians (r : RecoveryBook) : Op → Prop
  | .recovery (.setupRecoveryGuardians _ guardians threshold) =>
    threshold ≤ guardians.toFinset.card ∧ ∀ q ≤ r.requestCount, ∀ request ∈ r.request q,
      request.completed = false → ∀ g ∈ r.approvers q, g ∈ guardians
  | _ => True

instance (r : RecoveryBook) (op : Op) : Decidable (r.KeepsGuardians op) := by
  rcases op with _ | _ | op | _ | _ | _ <;> try cases op
  all_goals first | exact .isTrue trivial | exact inferInstanceAs (Decidable (_ ∧ _))

namespace Ballots

variable {b b' : Ballots} {r : RecoveryBook} {op : Op} {q : Nat} {request : RecoveryRequest}

/-- **As long as the guardians are kept, who approves an open request is a guardian.** -/
theorem Seated.step (hseated : Seated r.ballots) (h : Sound r.ballots) (hop : r.KeepsGuardians op)
    (hstep : Step r.ballots op b') : Seated b' := by
  cases hstep with
  | keeps => exact hseated
  | configures =>
    exact ⟨hop.1, fun q request hrequest => hop.2 q ((h.each q).le_count hrequest) request hrequest⟩
  | requests =>
    refine ⟨hseated.reach, (Function.forall_update_iff _ _).mpr ⟨?_, fun q _ => hseated.each q⟩⟩
    exact fun _ _ _ _ hg => absurd hg List.not_mem_nil
  | @approves guardian q request hguardian hrequest hopen _ =>
    refine ⟨hseated.reach, (Function.forall_update_iff _ _).mpr ⟨?_, fun q _ => hseated.each q⟩⟩
    intro _ _ _ g hg
    rcases List.mem_append.mp hg with hold | hlast
    · exact hseated.each q request hrequest hopen g hold
    · exact List.mem_singleton.mp hlast ▸ hguardian
  | finalizes =>
    refine ⟨hseated.reach, (Function.forall_update_iff _ _).mpr ⟨?_, fun q _ => hseated.each q⟩⟩
    rintro _ ⟨⟩ ⟨⟩

/-! ## What follows -/

/-- **Enough current guardians have approved a request that is finalized.** -/
theorem Seated.card_le (hseated : Seated b) (h : Sound b) {initiator : Address}
    (hstep : Step b (.recovery (.finalizeRecovery initiator q)) b') :
    b.threshold ≤ ((b.ballot q).2.toFinset ∩ b.guardians.toFinset).card := by
  cases hstep with
  | keeps hop => exact absurd rfl (hop _)
  | @finalizes _ _ request hrequest hopen henough =>
    have hsubset : (b.ballot q).2.toFinset ⊆ b.guardians.toFinset := by
      intro g hg
      rw [List.mem_toFinset] at hg ⊢
      exact hseated.each q request hrequest hopen g hg
    rw [Finset.inter_eq_left.mpr hsubset, List.toFinset_card_of_nodup (h.each q).nodup,
      ← (h.each q).counted request hrequest]
    exact henough

/-- **The approvals of all guardians reach the threshold.** -/
theorem Seated.reaches (hseated : Seated b) (h : Sound b)
    (hrequest : (b.ballot q).1 = some request) (hall : ∀ g ∈ b.guardians, g ∈ (b.ballot q).2) :
    b.threshold ≤ request.approvalsCount := by
  have hsubset : b.guardians.toFinset ⊆ (b.ballot q).2.toFinset := by
    intro g hg
    rw [List.mem_toFinset] at hg ⊢
    exact hall g hg
  calc b.threshold
      ≤ b.guardians.toFinset.card := hseated.reach
    _ ≤ (b.ballot q).2.toFinset.card := Finset.card_le_card hsubset
    _ = request.approvalsCount := by
      rw [List.toFinset_card_of_nodup (h.each q).nodup, (h.each q).counted request hrequest]

end Ballots

/-! ## Runs -/

namespace World

variable (host : Host)

theorem step_next (w : World) (call : Call) (hcall : w.Completes host call) :
    Step w.state.recovery.ballots call.op (w.next host call).state.recovery.ballots := by
  obtain ⟨s, hs⟩ := hcall
  rw [next_state_of_ok hs]
  exact Op.recovery_step _ _ _ s hs

theorem sound_next {w : World} (hw : Sound w.state.recovery.ballots) (call : Call) :
    Sound (w.next host call).state.recovery.ballots :=
  next_of_ensures ((Op.recovery_step _ _ _).mono fun _ => hw.step) hw

theorem sound_deployed : Sound deployed.state.recovery.ballots where
  each q := ⟨fun _ => rfl, by rintro request ⟨⟩, List.nodup_nil⟩
  configured h := absurd rfl h
  requested := by
    rintro q request ⟨⟩

/-- **The count of a request is the number of its approvers, in every reachable state.** -/
theorem sound_after (calls : List Call) : Sound (after host calls).state.recovery.ballots :=
  run_invariant (I := fun w : World => Sound w.state.recovery.ballots)
    (fun _ call hw => sound_next host hw call) sound_deployed calls

/-- A guardian of the time approved a request in a run. -/
def ApprovedIn (calls : List Call) (guardian : Address) (q : Nat) : Prop :=
  ∃ before approving rest, calls = before ++ approving :: rest ∧
    approving.op = .recovery (.approveRecovery guardian q) ∧
    (after host before).Completes host approving ∧
    guardian ∈ (after host before).state.recovery.getRecoveryGuardians

theorem ApprovedIn.append {host : Host} {calls : List Call} {g : Address} {q : Nat}
    (h : ApprovedIn host calls g q) (call : Call) : ApprovedIn host (calls ++ [call]) g q := by
  obtain ⟨before, approving, rest, rfl, happroves⟩ := h
  exact ⟨before, approving, rest ++ [call], by simp, happroves⟩

/-- An approver of a request after a step was one before, or has just approved it. -/
theorem mem_approvers_step {b b' : Ballots} {op : Op} (hstep : Step b op b') {g : Address} {q : Nat}
    (hg : g ∈ (b'.ballot q).2) : g ∈ (b.ballot q).2 ∨
      op = .recovery (.approveRecovery g q) ∧ g ∈ b.guardians := by
  cases hstep with
  | keeps | configures => exact .inl hg
  | requests | finalizes =>
    simp only [Function.update_apply] at hg
    split at hg
    next heq => simp_all
    next => exact .inl hg
  | approves hguardian =>
    simp only [Function.update_apply] at hg
    split at hg
    next heq =>
      rcases List.mem_append.mp hg with hold | hlast
      · exact .inl (heq ▸ hold)
      · obtain rfl := List.mem_singleton.mp hlast
        exact .inr ⟨by rw [heq], hguardian⟩
    next => exact .inl hg

/-- **Whoever a request records as an approver approved it as a guardian.** -/
theorem approvedIn_after (calls : List Call) {g : Address} {q : Nat}
    (hg : g ∈ (after host calls).state.recovery.approvers q) : ApprovedIn host calls g q := by
  have halways : Along (next host) (fun _ _ => True) deployed calls :=
    along_true (next host) deployed calls
  refine halways.history (I := fun calls w => ∀ g q, g ∈ w.state.recovery.approvers q →
    ApprovedIn host calls g q) (fun _ _ hg => absurd hg List.not_mem_nil)
    (fun calls call ih _ g q hg => ?_) g q hg
  by_cases hcall : (after host calls).Completes host call
  · rcases mem_approvers_step (step_next host _ call hcall) hg with hg | ⟨hop, hguardian⟩
    · exact (ih g q hg).append call
    · exact ⟨calls, call, [], rfl, hop, hcall, hguardian⟩
  · change g ∈ ((after host calls).next host call).state.recovery.approvers q at hg
    rw [next_state_of_not_completes hcall] at hg
    exact (ih g q hg).append call

/-- **A recovery request counts its distinct approvers**, each of whom has approved it as a guardian
of the time, whatever becomes of the guardians. -/
theorem recovery_counted (host : Host) (calls : List Call) (q : Nat) :
    (∀ request ∈ (after host calls).state.recovery.request q, request.approvalsCount =
        ((after host calls).state.recovery.approvers q).toFinset.card) ∧
      ∀ g ∈ (after host calls).state.recovery.approvers q, ApprovedIn host calls g q := by
  have hsound := (sound_after host calls).each q
  refine ⟨fun request hrequest => ?_, fun g hg => approvedIn_after host calls hg⟩
  exact (hsound.counted request hrequest).trans (List.toFinset_card_of_nodup hsound.nodup).symm

/-- The administrator keeps the guardians in a call. -/
def KeepsGuardians (w : World) (call : Call) : Prop :=
  w.Signed call → w.state.recovery.KeepsGuardians call.op
  deriving Decidable

/-- **Recovery is in the guardians' hands**: whoever finalizes a request has the approval of as many
current guardians as the threshold says; whoever has the approval of all of them has enough; and an
approval on record was made by a guardian of the time. -/
structure GuardianSafe (host : Host) (calls : List Call) : Prop where
  finalizes : ∀ before finalizing rest initiator q, calls = before ++ finalizing :: rest →
    finalizing.op = .recovery (.finalizeRecovery initiator q) →
    (after host before).Completes host finalizing →
    (after host before).state.recovery.getRecoveryThreshold ≤
      (((after host before).state.recovery.approvers q).toFinset ∩
        (after host before).state.recovery.getRecoveryGuardians.toFinset).card
  suffices_all : ∀ q request, (after host calls).state.recovery.request q = some request →
    (∀ g ∈ (after host calls).state.recovery.getRecoveryGuardians,
      g ∈ (after host calls).state.recovery.approvers q) →
    (after host calls).state.recovery.getRecoveryThreshold ≤ request.approvalsCount
  approved : ∀ q g, g ∈ (after host calls).state.recovery.approvers q →
    ApprovedIn host calls g q

theorem seated_after (calls : List Call) (hcalls : Along (next host) KeepsGuardians deployed calls)
    :
    Seated (after host calls).state.recovery.ballots := by
  have hboth := hcalls.invariant
    (I := fun w : World => Sound w.state.recovery.ballots ∧ Seated w.state.recovery.ballots)
    (fun w call hw hkeeps => ⟨sound_next host hw.1 call, ?_⟩)
    ⟨sound_deployed, Nat.zero_le _, by rintro q request ⟨⟩⟩
  · exact hboth.2
  · by_cases hcall : w.Completes host call
    · exact hw.2.step hw.1 (hkeeps hcall.signed) (step_next host w call hcall)
    · rw [next_state_of_not_completes hcall]
      exact hw.2

/-- **Guardian recovery is safe in every run in which the administrator keeps the guardians.** -/
theorem guardian_safe (host : Host) (calls : List Call)
    (hcalls : Along (next host) KeepsGuardians deployed calls) : GuardianSafe host calls where
  finalizes := by
    rintro before finalizing rest initiator q rfl hop hcompletes
    have hbefore := ((along_append _).mp hcalls).1
    have hstep := step_next host (after host before) finalizing hcompletes
    rw [hop] at hstep
    exact (seated_after host before hbefore).card_le (sound_after host before) hstep
  suffices_all _ _ hrequest hall :=
    (seated_after host calls hcalls).reaches (sound_after host calls) hrequest hall
  approved _ _ hg := approvedIn_after host calls hg

end World

/-! ## Sample runs -/

namespace Sample

/-- The admin names guardians and a threshold. -/
def guardians (guardians : List Address) (threshold : Nat) : Call :=
  callBy [admin] (.recovery (.setupRecoveryGuardians admin guardians threshold))

/-- A holder asks for recovery to another address. -/
def askRecovery (holder newOwner : Address) : Call :=
  callBy [holder] (.recovery (.initiateRecovery holder newOwner))

/-- A guardian approves a request. -/
def approve (guardian : Address) (q : Nat) : Call :=
  callBy [guardian] (.recovery (.approveRecovery guardian q))

/-- The holder finalizes a request. -/
def finalize (holder : Address) (q : Nat) : Call :=
  callBy [holder] (.recovery (.finalizeRecovery holder q))

/-- Two guardians approve a recovery, and one of them is named again with a new one in between. -/
def keptGuardian : List Call :=
  [initialized, guardians [alice, admin] 2, askRecovery carol bob, approve alice 1,
    guardians [alice, quorumProof] 2, approve quorumProof 1]

/-- The only guardian approves a recovery, and is replaced. -/
def replacedGuardian : List Call :=
  [initialized, guardians [alice] 1, askRecovery carol bob, approve alice 1, guardians [bob] 1]

end Sample

namespace World

open Sbt.Sample in
theorem guardian_safe_kept :
    (after host keptGuardian).state.recovery.getRecoveryThreshold ≤
      (((after host keptGuardian).state.recovery.approvers 1).toFinset ∩
        (after host keptGuardian).state.recovery.getRecoveryGuardians.toFinset).card :=
  (guardian_safe host (keptGuardian ++ [finalize carol 1]) (by decide +kernel)).finalizes
    keptGuardian (finalize carol 1) [] carol 1 rfl rfl (by decide +kernel)

open Sbt.Sample in
/-- **A recovery is finalized on the approval of a guardian who no longer is one.** -/
theorem not_guardian_safe : ¬ ∀ host calls, GuardianSafe host calls := by
  intro h
  have henough := (h host (replacedGuardian ++ [finalize carol 1])).finalizes replacedGuardian
    (finalize carol 1) [] carol 1 rfl rfl (by decide +kernel)
  exact absurd henough (by decide +kernel)

end World

end QuorumProof.Sbt
