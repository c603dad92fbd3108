import QuorumProof.Contract.Annex

/-!
# Contract/Vetoes — what an executed veto leaves standing

A veto is meant to take an attestation back: its authority asks for it, waits, and executes it.  The
execution marks the request and appends to the log, and that is all it does: the attestation lies in
the contract proper, which the vetoes never write.  `VetoStep` says what each of their entry points
does; the log follows the requests as long as these have numbers of their own (`Vetoes.Logged`).

Source: `attestation_veto.rs`, and `is_attested`.
-/

namespace QuorumProof

open Guarded

/-- An attestor has no record on a credential. -/
def State.Silent (s : State) (id : Nat) (a : Address) : Prop :=
  ∀ record ∈ s.attestations.records id, record.attestor ≠ a
  deriving Decidable

/-! ## What one operation does to the vetoes -/

/-- A request waits for its execution. -/
def VetoStatus.Waiting (status : VetoStatus) : Prop := status = .pending ∨ status = .ready
  deriving Decidable

namespace Vetoes

/-- **What an operation does to the vetoes.** -/
inductive VetoStep (v : Vetoes) : VetoOp → Vetoes → Prop
  | appointed {admin : Address} {authorities : List Address} :
      VetoStep v (.initVetoAuthorities admin authorities) (v.initVetoAuthorities authorities)
  | requested {authority attestor : Address} {id sliceId : Nat} {reason evidence : Option Bytes}
      {number : Nat} {request : VetoRequest} {list : Store Nat (List Nat)}
      (hnumber : number = saturatingAdd u64Max v.vetoCount 1) (hid : request.vetoId = number)
      (hauthority : request.vetoAuthority ∈ v.vetoAuthorities)
      (hpending : request.status = .pending) :
      VetoStep v (.requestVeto authority id sliceId attestor reason evidence)
        { v with
          vetoCount := number
          vetoRequest := v.vetoRequest.set number request
          vetoList := list }
  | moved {op : VetoOp} {vetoId : Nat} {request : VetoRequest} {status : VetoStatus}
      (hold : v.vetoRequest vetoId = some request) (hopen : request.status.Waiting) :
      VetoStep v op { v with
        vetoRequest := v.vetoRequest.set vetoId { request with status := status }
        vetoExecutionLog := v.vetoExecutionLog ++ if status = .executed then
          [(request.vetoId, request.credentialId, request.vetoAuthority)] else [] }
  | retimed {op : VetoOp} {seconds : Nat} : VetoStep v op { v with vetoTimeLock := seconds }

/-- A request moves without being executed. -/
theorem VetoStep.unlogged {v : Vetoes} {op : VetoOp} {vetoId : Nat} {request : VetoRequest}
    {status : VetoStatus} (hold : v.vetoRequest vetoId = some request)
    (hopen : request.status.Waiting) (hstatus : status ≠ .executed) :
    v.VetoStep op
      { v with vetoRequest := v.vetoRequest.set vetoId { request with status := status } } := by
  have h := @VetoStep.moved v op vetoId request status hold hopen
  rwa [if_neg hstatus, List.append_nil] at h

end Vetoes

open Vetoes

theorem VetoOp.vetoStep (env : Env) (v : Vetoes) (op : VetoOp) :
    Ensures (op.write env v) (v.VetoStep op) := by
  cases op with
  | initVetoAuthorities admin authorities => exact ensures_ok.mpr .appointed
  | requestVeto authority id sliceId attestor reason evidence =>
    simp only [write, Vetoes.requestVeto, ensures_steps, require_eq_ok]
    exact fun hauthority => .requested rfl rfl hauthority rfl
  | cancelVeto canceller vetoId =>
    simp only [write, Vetoes.cancelVeto, ensures_steps, require_eq_ok]
    intro request hold _ hstatus
    refine .unlogged hold ?_ (by decide)
    revert hstatus
    cases request.status <;> simp [VetoStatus.Waiting]
  | executeVeto executor vetoId =>
    simp only [write, Vetoes.executeVeto, ensures_steps, ensures_ite, require_eq_ok]
    exact fun request hold _ hopen =>
      ⟨fun _ => .unlogged hold hopen (by decide), fun _ => .moved hold hopen⟩
  | setVetoTimelock admin seconds => exact ensures_ok.mpr .retimed

/-- **What an operation must keep to** for the log to follow the requests: an authority that has
asked stays one while the request waits, and there is a number left for a new request. -/
def VetoOp.Fair (v : Vetoes) : VetoOp → Prop
  | initVetoAuthorities _ authorities => ∀ id ≤ v.vetoCount, ∀ request ∈ v.vetoRequest id,
      request.status.Waiting → request.vetoAuthority ∈ authorities
  | requestVeto .. => v.vetoCount < u64Max
  | _ => True

instance (v : Vetoes) (op : VetoOp) : Decidable (op.Fair v) := by
  unfold VetoOp.Fair
  split <;> infer_instance

namespace Vetoes

/-- **A number is in order**: its request is stored under it, by an authority while it waits, and
the log holds it once if it was executed, and else not. -/
structure Logged (v : Vetoes) (id : Nat) : Prop where
  numbered : ∀ request, v.vetoRequest id = some request →
    request.vetoId = id ∧ id ≤ v.vetoCount
  authorities : ∀ request, v.vetoRequest id = some request → request.status.Waiting →
    request.vetoAuthority ∈ v.vetoAuthorities
  count : (v.vetoExecutionLog.map (·.1)).count id =
    ((v.vetoRequest id).any (·.status = .executed)).toNat

variable {v v' : Vetoes} {op : VetoOp}

theorem empty_logged (id : Nat) : empty.Logged id := by
  constructor <;> simp [empty]

/-- **A request that is executed or cancelled stays as it is.** -/
theorem VetoStep.settled (h : v.VetoStep op v') (hfair : op.Fair v) {id : Nat} (hv : v.Logged id)
    {request : VetoRequest} (hrequest : v.vetoRequest id = some request)
    (hsettled : ¬ request.status.Waiting) : v'.vetoRequest id = some request := by
  cases h with
  | appointed => exact hrequest
  | requested hnumber =>
    refine (Store.set_of_ne ?_).trans hrequest
    have hle := (hv.numbered request hrequest).2
    rw [hnumber, saturatingAdd]
    simp only [VetoOp.Fair] at hfair
    omega
  | moved hold hopen =>
    refine (Store.set_of_ne ?_).trans hrequest
    rintro rfl
    exact hsettled (Option.mem_unique hold hrequest ▸ hopen)
  | retimed => exact hrequest

/-- **A fair operation keeps the numbers in order.** -/
theorem VetoStep.logged (h : v.VetoStep op v') (hfair : op.Fair v) (hv : ∀ id, v.Logged id)
    (id : Nat) : v'.Logged id := by
  obtain ⟨hnumbered, hauthorities, hcount⟩ := hv id
  cases h with
  | appointed =>
    exact ⟨hnumbered, fun request h => hfair id (hnumbered request h).2 request h, hcount⟩
  | @requested _ _ _ _ _ _ number request _ hnumber hid hauthority hpending =>
    -- The number is a new one: nothing lies under it yet.
    have hnew : number = v.vetoCount + 1 := hnumber.trans (Nat.min_eq_left hfair)
    rcases eq_or_ne id number with rfl | hne
    · have hnone : v.vetoRequest id = none := by
        refine Option.eq_none_iff_forall_ne_some.mpr fun other h => ?_
        have hle := (hnumbered other h).2
        omega
      rw [hnone] at hcount
      constructor <;> simp [hcount, hid, hauthority, hpending]
    · constructor <;> simp only [Store.set_of_ne hne]
      · exact fun other h => ⟨(hnumbered other h).1, by have := (hnumbered other h).2; omega⟩
      · exact hauthorities
      · exact hcount
  | @moved _ vetoId request status hold hopen =>
    have hnumber := ((hv vetoId).numbered request hold).1
    rcases eq_or_ne id vetoId with rfl | hne
    · have hunlogged : ¬ request.status = .executed := by
        intro h
        simp [VetoStatus.Waiting, h] at hopen
      rw [hold] at hcount
      constructor
      · simpa using hnumbered request hold
      · simpa using fun _ => hauthorities request hold hopen
      · by_cases hstatus : status = .executed <;> simp [hcount, hunlogged, hstatus, hnumber]
    · constructor <;> simp only [Store.set_of_ne hne]
      · exact hnumbered
      · exact hauthorities
      · by_cases hstatus : status = .executed <;> simp [hcount, hstatus, hnumber, hne.symm]
  | retimed => exact ⟨hnumbered, hauthorities, hcount⟩

end Vetoes

/-! ## Whole runs -/

/-- The operation on the vetoes a call makes. -/
def AnnexedOp.veto : AnnexedOp → Option VetoOp
  | annex (.veto op) => some op
  | _ => none

namespace AnnexedWorld

/-- A call whose operation on the vetoes, if it makes one, is fair. -/
def VetoesFairly (w : AnnexedWorld) (call : AnnexedCall) : Prop :=
  ∀ op ∈ call.op.veto, op.Fair w.annex.vetoes
  deriving Decidable

variable {host : Host} {w : AnnexedWorld} {call : AnnexedCall} {calls : List AnnexedCall}

/-- A call leaves the vetoes or does one operation on them. -/
theorem vetoes_next (host : Host) (w : AnnexedWorld) (call : AnnexedCall) :
    (w.next host call).annex.vetoes = w.annex.vetoes ∨
      ∃ op ∈ call.op.veto, w.annex.vetoes.VetoStep op (w.next host call).annex.vetoes := by
  rcases w.next_annex host call with ⟨-, hannex⟩ | ⟨op, hop, -, control, -, hwrite⟩
  · exact .inl (congrArg Annex.vetoes hannex)
  · cases op with
    | veto op =>
      obtain ⟨v', hv', heq⟩ := map_eq_ok.mp hwrite
      have hstep := op.vetoStep _ w.annex.vetoes v' hv'
      rw [← heq]
      exact .inr ⟨op, by rw [hop]; rfl, hstep⟩
    | _ =>
      obtain ⟨_, -, heq⟩ := map_eq_ok.mp hwrite
      exact .inl (by rw [← heq])

theorem vetoes_logged_next (h : ∀ id, w.annex.vetoes.Logged id)
    (hfair : VetoesFairly w call) (id : Nat) : (w.next host call).annex.vetoes.Logged id := by
  rcases w.vetoes_next host call with heq | ⟨op, hop, hstep⟩
  · exact heq ▸ h id
  · exact hstep.logged (hfair op hop) h id

theorem vetoes_logged (h : Machine.Along (next host) VetoesFairly deployed calls) :
    ∀ id, (after host calls).annex.vetoes.Logged id :=
  h.invariant (I := fun w : AnnexedWorld => ∀ id, w.annex.vetoes.Logged id)
    (fun _ _ => vetoes_logged_next) empty_logged

/-- **What is executed or cancelled stays so** through every fair run. -/
theorem vetoes_settled {pre post : List AnnexedCall}
    (h : Machine.Along (next host) VetoesFairly deployed (pre ++ post)) {id : Nat}
    {request : VetoRequest} (hrequest : (after host pre).annex.vetoes.vetoRequest id = some request)
    (hsettled : ¬ request.status.Waiting) :
    (after host (pre ++ post)).annex.vetoes.vetoRequest id = some request := by
  obtain ⟨hpre, hpost⟩ := (Machine.along_append (next host)).mp h
  rw [after, Machine.run_append]
  refine (hpost.invariant (I := fun w : AnnexedWorld =>
    (∀ id, w.annex.vetoes.Logged id) ∧ w.annex.vetoes.vetoRequest id = some request)
    (fun w call hw hfair => ⟨vetoes_logged_next hw.1 hfair, ?_⟩) ⟨vetoes_logged hpre, hrequest⟩).2
  rcases w.vetoes_next host call with heq | ⟨op, hop, hstep⟩
  · exact heq ▸ hw.2
  · exact hstep.settled (hfair op hop) (hw.1 id) hw.2 hsettled

/-- **The vetoes never write the contract proper.** -/
theorem veto_next_state {op : VetoOp} (hop : call.op = .annex (.veto op)) :
    (w.next host call).world.state = w.world.state := by
  cases hcall : w.apply (w.env host call) call.op with
  | error fault => rw [next_of_error hcall]
  | ok r =>
    rw [next_of_ok hcall]
    simp only [hop, apply, AnnexOp.apply, AnnexOp.guard, Control.passGuard, bind_eq_ok,
      pure_eq_ok] at hcall
    obtain ⟨-, -, control, hguard, -, -, rfl⟩ := hcall
    rw [← Except.ok.inj hguard]

/-! ## What a veto is worth -/

/-- What `execute_veto` returns when a call makes it. -/
def execution (host : Host) (w : AnnexedWorld) (call : AnnexedCall) (executor : Address)
    (vetoId : Nat) : Except Fault Bool := do
  requireAuth (w.env host call) executor
  let _ ← w.world.state.control.passGuard (w.env host call)
    (AnnexOp.veto (.executeVeto executor vetoId)).guard
  Prod.snd <$> w.annex.vetoes.executeVeto (w.env host call) executor vetoId

/-- `execute_veto` returns true for a request that waits, of the executor's own, whose time has
come. -/
theorem execution_eq_true {executor : Address} {vetoId : Nat}
    (h : w.execution host call executor vetoId = .ok true) :
    ∃ request, w.annex.vetoes.vetoRequest vetoId = some request ∧
      request.vetoAuthority = executor ∧ request.status.Waiting ∧
      request.unlocksAt ≤ w.world.time + call.elapsed := by
  simp only [execution, executeVeto, bind_eq_ok, map_eq_ok, expect_eq_ok, require_eq_ok] at h
  obtain ⟨-, -, -, -, r, ⟨request, hrequest, -, hexecutor, -, hopen, hreturn⟩, hr⟩ := h
  refine ⟨request, hrequest, hexecutor, hopen, not_lt.mp fun hlocked => ?_⟩
  rw [env_now, if_pos hlocked, pure_eq_ok] at hreturn
  rw [← hreturn] at hr
  cases hr

/-- **What an executed veto promises**: its time has come, its executor is an authority, and the
attestor's record is gone. -/
structure VetoEffective (host : Host) (w : AnnexedWorld) (call : AnnexedCall) (executor : Address)
    (request : VetoRequest) : Prop where
  unlocked : request.unlocksAt ≤ w.world.time + call.elapsed
  authority : executor ∈ w.annex.vetoes.vetoAuthorities
  gone : (w.next host call).world.state.Silent request.credentialId request.attestor

/-- **What the log of a run promises**: it holds the executed requests, each once, and what is
executed or cancelled stays so. -/
structure VetoLogSound (host : Host) (calls : List AnnexedCall) : Prop where
  once : ((after host calls).annex.vetoes.vetoExecutionLog.map (·.1)).Nodup
  logged : ∀ id, id ∈ (after host calls).annex.vetoes.vetoExecutionLog.map (·.1) ↔
    ∃ request, (after host calls).annex.vetoes.vetoRequest id = some request ∧
      request.status = .executed
  settled : ∀ pre post, calls = pre ++ post → ∀ id request,
    (after host pre).annex.vetoes.vetoRequest id = some request →
    (request.status = .executed ∨ request.status = .cancelled) →
    ∃ request', (after host calls).annex.vetoes.vetoRequest id = some request' ∧
      request'.status = request.status

/-- The log is sound in every run in which authorities with a request stay and the numbers of the
requests suffice. -/
theorem vetoLogSound (h : Machine.Along (next host) VetoesFairly deployed calls) :
    VetoLogSound host calls where
  once := by
    refine List.nodup_iff_count_le_one.mpr fun id => ?_
    rw [(vetoes_logged h id).count]
    exact Bool.toNat_le _
  logged id := by
    rw [← List.count_pos_iff, (vetoes_logged h id).count, Nat.pos_iff_ne_zero]
    simp [Option.any_eq_true]
  settled := by
    rintro pre post rfl id request hrequest hstatus
    refine ⟨request, vetoes_settled h hrequest ?_, rfl⟩
    rcases hstatus with hstatus | hstatus <;> simp [VetoStatus.Waiting, hstatus]

/-- **An executed veto never removes an attestation**: in every run, when `execute_veto` returns
true for an attestor with a record on the credential, its time has come, but the storage of the
contract proper is as before, so the record is still there and counts as it did.  The log is sound
all the same, and a fair run has the executor among the authorities. -/
theorem veto_removes_nothing (host : Host) (calls : List AnnexedCall) (call : AnnexedCall)
    (executor : Address) (vetoId : Nat) (request : VetoRequest) :
    let w := after host calls
    call.op = .annex (.veto (.executeVeto executor vetoId)) →
    w.execution host call executor vetoId = .ok true →
    w.annex.vetoes.vetoRequest vetoId = some request →
    ¬ w.world.state.Silent request.credentialId request.attestor →
      (w.next host call).world.state = w.world.state ∧
      ¬ VetoEffective host w call executor request ∧
      request.unlocksAt ≤ w.world.time + call.elapsed ∧
      (Machine.Along (next host) VetoesFairly deployed (calls ++ [call]) →
        executor ∈ w.annex.vetoes.vetoAuthorities ∧ VetoLogSound host (calls ++ [call])) := by
  intro w hop htrue hrequest hrecord
  have hstate : (w.next host call).world.state = w.world.state := veto_next_state hop
  obtain ⟨request', hrequest', rfl, hopen, hunlocked⟩ := execution_eq_true htrue
  obtain rfl := Option.mem_unique hrequest hrequest'
  refine ⟨hstate, fun heffective => hrecord (hstate ▸ heffective.gone), hunlocked, fun hfair => ?_⟩
  obtain ⟨hcalls, -⟩ := (Machine.along_append (next host)).mp hfair
  exact ⟨(vetoes_logged hcalls vetoId).authorities request hrequest hopen, vetoLogSound hfair⟩

end AnnexedWorld

namespace Sample

/-- Bob attests a credential of alice's; the administrator becomes an authority, and asks for a veto
of the attestation. -/
def vetoing : List AnnexedCall :=
  [proper initialized, proper (issue alice 1), proper (createSlice [bob] [10] 10),
    proper (attest bob 1 1), annexed (.veto (.initVetoAuthorities admin [admin])),
    annexed (.veto (.requestVeto admin 1 1 bob none none))]

/-- Two days later the administrator executes it. -/
def executeVeto : AnnexedCall :=
  { annexed (.veto (.executeVeto admin 1)) with elapsed := 172800 }

end Sample

namespace AnnexedWorld

/-- The veto of bob's attestation is executed, and their record is still there. -/
theorem veto_removes_nothing_bob :
    let w := after Sample.host Sample.vetoing
    ¬ (w.next Sample.host Sample.executeVeto).world.state.Silent 1 Sample.bob ∧
      VetoLogSound Sample.host (Sample.vetoing ++ [Sample.executeVeto]) := by
  have h := veto_removes_nothing Sample.host Sample.vetoing Sample.executeVeto Sample.admin 1 _ rfl
    (by decide) rfl (by decide)
  exact ⟨h.1 ▸ by decide, (h.2.2.2 (by decide)).2⟩

/-- **A vetoed attestation still counts.** -/
theorem not_veto_sound :
    let w := after Sample.host Sample.vetoing
    let s := (w.next Sample.host Sample.executeVeto).world.state
    w.execution Sample.host Sample.executeVeto Sample.admin 1 = .ok true ∧
      ¬ s.Silent 1 Sample.bob ∧
      Prod.snd <$> s.isAttested (w.env Sample.host Sample.executeVeto) 1 1 = .ok true := by
  decide

end AnnexedWorld

end QuorumProof
