import QuorumProof.Contract.ChallengeRounds

/-!
# Contract/Stakes — where an attestor's stake goes

What an attestor deposits is staked until it is withdrawn or slashed, and what is slashed is pending
until it is collected.  The entry points compute with saturating `u64` arithmetic, in which a sum
that does not fit loses what is over.  Nothing is ever over: the stake and what is pending are parts
of what was deposited, so as long as that fits, every sum does (`World.stake_conserved`).
-/

namespace QuorumProof

open Guarded Machine

namespace Discipline

/-- An attestor's stake, and what is slashed of it and not collected. -/
structure StakeAccount where
  stake : Nat
  pending : Nat
  deriving DecidableEq, Repr

/-- The account of an attestor. -/
def account (d : Discipline) (attestor : Address) : StakeAccount :=
  ⟨(d.loadOrInitReputation attestor).stake, (d.loadOrInitReputation attestor).pendingSlashAmount⟩

/-- What a penalty takes of an attestor's stake. -/
def penalty (d : Discipline) (attestor : Address) : Nat :=
  slashAmount d.getAttestorReputationConfig (d.account attestor).stake

section Account

variable (env : Env) (d : Discipline) (attestor a : Address) (sliceId : Nat)

theorem account_setReputation (record : AttestorReputationRecord) :
    (d.setReputation attestor record).account a =
      if a = attestor then ⟨record.stake, record.pendingSlashAmount⟩ else d.account a := by
  simp only [account, loadOrInitReputation, setReputation, Store.set_apply]
  split <;> rfl

@[simp] theorem account_reward :
    (d.rewardAttestorReputation env attestor).account a = d.account a := by
  rw [rewardAttestorReputation, account_setReputation]
  split
  next heq => rw [heq]; rfl
  next => rfl

theorem account_penalise :
    (d.penaliseAttestorReputation env attestor sliceId).account a =
      if a = attestor then
        ⟨(d.account a).stake - d.penalty a,
          saturatingAdd u64Max (d.account a).pending (d.penalty a)⟩
      else d.account a := by
  have hset : (d.penaliseAttestorReputation env attestor sliceId).account a =
      (d.setReputation attestor
        { d.loadOrInitReputation attestor with
          stake := (d.account attestor).stake - d.penalty attestor
          pendingSlashAmount :=
            saturatingAdd u64Max (d.account attestor).pending
              (d.penalty attestor) }).account a := by
    rw [account_setReputation]
    unfold penaliseAttestorReputation
    dsimp only
    split <;> exact account_setReputation d attestor a _
  rw [hset, account_setReputation]
  split
  next heq => rw [heq]
  next => rfl

end Account

/-- **A penalty takes no more than there is**, if at most all of it is to be slashed. -/
theorem slashAmount_le {config : AttestorReputationConfig}
    (hconfig : config.slashFractionBps ≤ 10000) (stake : Nat) :
    slashAmount config stake ≤ stake := by
  unfold slashAmount
  split
  · calc min (stake * config.slashFractionBps) u64Max / 10000
        ≤ stake * 10000 / 10000 :=
          Nat.div_le_div_right ((Nat.min_le_left _ _).trans (Nat.mul_le_mul_left stake hconfig))
      _ = stake := Nat.mul_div_cancel stake (by decide)
  · exact Nat.zero_le stake

/-! ## What a call does to an account -/

/-- The settings allow for no more to be slashed than there is. -/
def SoundConfig (d : Discipline) : Prop := d.getAttestorReputationConfig.slashFractionBps ≤ 10000

end Discipline

/-! What an entry point pays in for an attestor, pays out to them, and collects of theirs. -/

/-- What is deposited for an attestor. -/
def Op.deposit (attestor : Address) : Op → Nat
  | discipline (.depositAttestorStake a amount) => if a = attestor then amount else 0
  | _ => 0

/-- What an attestor withdraws. -/
def Op.withdrawal (attestor : Address) : Op → Nat
  | discipline (.withdrawAttestorStake a amount) => if a = attestor then amount else 0
  | _ => 0

/-- What a collection takes off an attestor's account: all that is pending. -/
def Op.owed (attestor : Address) (d : Discipline) : Op → Nat
  | discipline (.collectSlashedStake _ a) =>
    if a = attestor then (d.account attestor).pending else 0
  | _ => 0

/-- What is collected of an attestor's: the amount `collect_slashed_stake` returns. -/
def Op.collection (env : Env) (s : State) (attestor : Address) : Op → Nat
  | discipline (.collectSlashedStake admin a) =>
    match s.collectSlashedStake env admin a with
    | .ok (_, amount) => if a = attestor then amount else 0
    | .error _ => 0
  | _ => 0

/-- What an entry point takes and gives, in an attestor's account. -/
def Op.payments (attestor : Address) (d : Discipline) (op : Op) : Nat × Nat × Nat :=
  (op.deposit attestor, op.withdrawal attestor, op.owed attestor d)

namespace Discipline

/-- **What an entry point does to the account of an attestor**, by the saturating arithmetic of the
source, and what it pays with that. -/
inductive AccountStep (d : Discipline) (attestor : Address) :
    StakeAccount → Nat × Nat × Nat → Prop
  | kept : AccountStep d attestor (d.account attestor) (0, 0, 0)
  | deposited (amount : Nat) : AccountStep d attestor
      ⟨saturatingAdd u64Max (d.account attestor).stake amount, (d.account attestor).pending⟩
      (amount, 0, 0)
  | withdrawn {amount : Nat} (hle : amount ≤ (d.account attestor).stake) : AccountStep d attestor
      ⟨(d.account attestor).stake - amount, (d.account attestor).pending⟩ (0, amount, 0)
  | collected : AccountStep d attestor
      ⟨(d.account attestor).stake, 0⟩ (0, 0, (d.account attestor).pending)
  | slashed : AccountStep d attestor
      ⟨(d.account attestor).stake - d.penalty attestor,
        saturatingAdd u64Max (d.account attestor).pending (d.penalty attestor)⟩ (0, 0, 0)

/-- **Where what is paid in fits, nothing is lost**, and no more is withdrawn than there is. -/
theorem AccountStep.balance {d : Discipline} {attestor : Address} {account : StakeAccount}
    {paid : Nat × Nat × Nat} (h : AccountStep d attestor account paid) (hconfig : d.SoundConfig)
    (hfits : (d.account attestor).stake + (d.account attestor).pending + paid.1 ≤ u64Max) :
    account.stake + account.pending + paid.2.1 + paid.2.2 =
        (d.account attestor).stake + (d.account attestor).pending + paid.1 ∧
      paid.2.1 ≤ (d.account attestor).stake := by
  have hpenalty : d.penalty attestor ≤ (d.account attestor).stake := slashAmount_le hconfig _
  cases h <;> simp [saturatingAdd] at hfits ⊢ <;> omega

/-- What an entry point does to the accounts; it leaves the settings sound. -/
structure StakeStep (op : Op) (d d' : Discipline) : Prop where
  account : ∀ attestor, AccountStep d attestor (d'.account attestor) (op.payments attestor d)
  config : d.SoundConfig → d'.SoundConfig

theorem SoundConfig.congr {d d' : Discipline} (h : d.SoundConfig)
    (hconfig : d'.attestorReputationConfig = d.attestorReputationConfig) : d'.SoundConfig := by
  rwa [SoundConfig, getAttestorReputationConfig, hconfig]

theorem StakeStep.kept {op : Op} {d d' : Discipline}
    (hop : ∀ attestor, op.payments attestor d = (0, 0, 0))
    (haccount : ∀ attestor, d'.account attestor = d.account attestor)
    (hconfig : d'.attestorReputationConfig = d.attestorReputationConfig) : StakeStep op d d' where
  account attestor := by
    rw [hop, haccount]
    exact .kept
  config h := h.congr hconfig

/-- The record of one attestor is rewritten. -/
theorem StakeStep.put {op : Op} {d : Discipline} {a : Address} {record : AttestorReputationRecord}
    (hself : AccountStep d a ⟨record.stake, record.pendingSlashAmount⟩ (op.payments a d))
    (hother : ∀ attestor, attestor ≠ a → op.payments attestor d = (0, 0, 0)) :
    StakeStep op d (d.setReputation a record) where
  account attestor := by
    rw [account_setReputation]
    split
    next heq => exact heq ▸ hself
    next hne => exact hother attestor hne ▸ .kept
  config h := h

end Discipline

open Discipline

namespace State

variable {env : Env} {s s' : State}

/-- Rewards leave the accounts. -/
theorem Rewards.account {d d' : Discipline} (h : Rewards env d d') (attestor : Address) :
    d'.account attestor = d.account attestor := by
  induction h with
  | refl => rfl
  | tail _ hstep ih =>
    obtain ⟨rewarded, rfl⟩ := hstep
    rw [account_reward, ih]

/-- Accounts are kept in the reputation records. -/
theorem account_congr {d d' : Discipline} (h : d'.attestorReputation = d.attestorReputation)
    (attestor : Address) : d'.account attestor = d.account attestor := by
  rw [account, loadOrInitReputation, h]
  rfl

theorem ChallengeStep.payments {op : DisciplineOp} {write : ChallengeWrite}
    (h : ChallengeStep env s op write) (attestor : Address) (d : Discipline) :
    (Op.discipline op).payments attestor d = (0, 0, 0) := by
  cases h with
  | _ => rfl

theorem DisciplineStep.stakes {op : DisciplineOp} (h : DisciplineStep env s s' op) :
    StakeStep (.discipline op) s.discipline s'.discipline := by
  cases h with
  | configured hbps h =>
    subst h
    exact ⟨fun _ => .kept, fun _ => hbps⟩
  | @deposited a amount _ h =>
    subst h
    refine .put ?_ fun attestor hne => by simp [Op.payments, Op.deposit, Op.withdrawal,
      Op.owed, Ne.symm hne]
    simpa [Op.payments, Op.deposit, Op.withdrawal, Op.owed] using .deposited amount
  | @withdrawn a amount _ hle h =>
    subst h
    refine .put ?_ fun attestor hne => by simp [Op.payments, Op.deposit, Op.withdrawal,
      Op.owed, Ne.symm hne]
    simpa [Op.payments, Op.deposit, Op.withdrawal, Op.owed] using .withdrawn hle
  | @collected admin a _ h =>
    subst h
    refine .put ?_ fun attestor hne => by simp [Op.payments, Op.deposit, Op.withdrawal,
      Op.owed, Ne.symm hne]
    simpa [Op.payments, Op.deposit, Op.withdrawal, Op.owed] using .collected
  | @challenged _ write hstep hrecords =>
    by_cases hupheld : write.challenge.status = .upheld
    · refine ⟨fun attestor => ?_, fun h => h.congr hrecords.config⟩
      rw [hstep.payments, account_congr (hrecords.upheld hupheld).attestorReputation,
        account_penalise]
      split
      next => exact .slashed
      next => exact .kept
    · exact .kept (fun attestor => hstep.payments attestor _)
        (account_congr (hrecords.kept hupheld).attestorReputation) hrecords.config
  | _ =>
    subst_vars
    exact .kept (fun _ => rfl) (fun _ => rfl) rfl

/-- **What is returned is what was pending.** -/
theorem ensures_collectSlashedStake (env : Env) (s : State) (admin attestor : Address) :
    Ensures (s.collectSlashedStake env admin attestor) fun r =>
      r.2 = (s.discipline.account attestor).pending := by
  simp only [collectSlashedStake, ensures_steps, ensures_guards]
  intros
  rfl

end State

open State in
/-- **Every entry point takes one of the steps.** -/
theorem Op.stake_step (env : Env) (s : State) (op : Op) :
    Ensures (op.apply env s) fun s' => StakeStep op s.discipline s'.discipline := by
  cases op with
  | discipline op => exact (disciplineOp_step env s op).mono fun _ h => h.stakes
  | attestation op =>
    refine (attestationOp_effect env s op).mono fun _ h => .kept (fun _ => rfl) h.rewards.account ?_
    rw [h.rewards.rest]
  | _ =>
    refine (Op.footprint env s _).mono fun s' h => ?_
    rw [(h.attestors rfl).1]
    exact .kept (fun _ => rfl) (fun _ => rfl) rfl

/-! ## Conservation -/

namespace World

variable (host : Host) (attestor : Address)

/-- What a call that goes through pays, by one of the three measures. -/
def paid (measure : State → Op → Nat) (w : World) (call : Call) : Nat :=
  if w.Completes host call then measure w.state call.op else 0

/-- All that an attestor deposited in a run. -/
def deposits (calls : List Call) : Nat :=
  tally (next host) (paid host fun _ op => op.deposit attestor) deployed calls

/-- All that an attestor withdrew. -/
def withdrawals (calls : List Call) : Nat :=
  tally (next host) (paid host fun _ op => op.withdrawal attestor) deployed calls

/-- What a call collects of an attestor's. -/
def collected (w : World) (call : Call) : Nat :=
  call.op.collection (w.env host call) w.state attestor

/-- All that was collected of an attestor's: the sum of what is returned. -/
def collections (calls : List Call) : Nat :=
  tally (next host) (collected host attestor) deployed calls

/-- The account of an attestor. -/
def account (w : World) : StakeAccount := w.state.discipline.account attestor

/-- **The saturating arithmetic of a call is exact**: what it deposits fits, what it withdraws is
there, and a penalty takes what is there and fits in what is pending. -/
structure StakeExact (w : World) (call : Call) : Prop where
  deposit : (w.account attestor).stake +
    paid host (fun _ op => op.deposit attestor) w call ≤ u64Max
  withdrawal : paid host (fun _ op => op.withdrawal attestor) w call ≤ (w.account attestor).stake
  penalty_le : w.state.discipline.penalty attestor ≤ (w.account attestor).stake
  pending : (w.account attestor).pending + w.state.discipline.penalty attestor ≤ u64Max

/-- What was deposited is staked, pending, withdrawn or collected. -/
def StakeConserved (calls : List Call) : Prop :=
  deposits host attestor calls =
    ((after host calls).account attestor).stake + ((after host calls).account attestor).pending +
      withdrawals host attestor calls + collections host attestor calls

/-- **What a call collects has left the account.** -/
theorem collected_eq (w : World) (call : Call) :
    collected host attestor w call =
      paid host (fun s op => op.owed attestor s.discipline) w call := by
  obtain ⟨elapsed, auths, op⟩ := call
  cases op with
  | discipline op =>
    cases op with
    | collectSlashedStake admin a =>
      let call : Call := ⟨elapsed, auths, .discipline (.collectSlashedStake admin a)⟩
      change collected host attestor w call = paid host _ w call
      cases hcollect : w.state.collectSlashedStake (w.env host call) admin a with
      | error fault =>
        have hfails : ¬ w.Completes host call := by
          simp [call, Completes, Op.apply, DisciplineOp.apply, hcollect]
        rw [paid, if_neg hfails, collected, Op.collection, hcollect]
      | ok r =>
        have hcompletes : w.Completes host call :=
          ⟨r.1, by simp [call, Op.apply, DisciplineOp.apply, hcollect]⟩
        have hreturn := State.ensures_collectSlashedStake _ _ _ _ r hcollect
        rw [paid, if_pos hcompletes, collected, Op.collection, hcollect]
        dsimp only [call, Op.owed]
        split
        next heq => rw [hreturn, heq]
        next => rfl
    | _ => exact (ite_self 0).symm
  | _ => exact (ite_self 0).symm

/-- What a call does to an account whose deposits fit. -/
theorem account_next (w : World) (call : Call) (hconfig : w.state.discipline.SoundConfig)
    (hfits : (w.account attestor).stake + (w.account attestor).pending +
      paid host (fun _ op => op.deposit attestor) w call ≤ u64Max) :
    ((w.next host call).account attestor).stake + ((w.next host call).account attestor).pending +
        paid host (fun _ op => op.withdrawal attestor) w call +
        collected host attestor w call =
      (w.account attestor).stake + (w.account attestor).pending +
        paid host (fun _ op => op.deposit attestor) w call ∧
    (w.next host call).state.discipline.SoundConfig ∧
    paid host (fun _ op => op.withdrawal attestor) w call ≤ (w.account attestor).stake := by
  rw [collected_eq]
  by_cases hcall : w.Completes host call
  case neg =>
    simp only [paid, if_neg hcall, account, next_state_of_not_completes hcall]
    exact ⟨trivial, hconfig, Nat.zero_le _⟩
  simp only [paid, if_pos hcall, account] at hfits ⊢
  obtain ⟨s, hs⟩ := hcall
  rw [next_state_of_ok hs]
  have hstep := Op.stake_step _ _ _ s hs
  obtain ⟨hbalance, hle⟩ := (hstep.account attestor).balance hconfig hfits
  exact ⟨hbalance, hstep.config hconfig, hle⟩

/-- What is deposited in a longer run is no less. -/
theorem deposits_append (calls : List Call) (call : Call) :
    deposits host attestor (calls ++ [call]) = deposits host attestor calls +
      paid host (fun _ op => op.deposit attestor) (after host calls) call :=
  tally_append_singleton _ _ _ _ _

theorem deposits_le (calls rest : List Call) :
    deposits host attestor calls ≤ deposits host attestor (calls ++ rest) := by
  rw [deposits, deposits, tally_append]
  exact Nat.le_add_right _ _

theorem conserved_after (calls : List Call) (hfits : deposits host attestor calls < 2 ^ 64) :
    StakeConserved host attestor calls ∧ (after host calls).state.discipline.SoundConfig := by
  induction calls using List.reverseRecOn with
  | nil =>
    refine ⟨rfl, ?_⟩
    show (1000 : Nat) ≤ 10000
    decide
  | append_singleton calls call ih =>
    rw [deposits_append] at hfits
    obtain ⟨hconserved, hconfig⟩ := ih (by omega)
    rw [StakeConserved] at hconserved
    obtain ⟨hnext, hconfig', -⟩ := account_next host attestor (after host calls) call hconfig
      (by unfold u64Max; omega)
    rw [StakeConserved, deposits_append, after_append, withdrawals, collections,
      tally_append_singleton, tally_append_singleton, ← withdrawals, ← collections]
    exact ⟨by rw [← after]; omega, hconfig'⟩

/-- **Stake is conserved**: as long as all that an attestor deposits fits in 64 bits, it is staked,
pending, withdrawn or collected after every run, and no call of it loses anything to saturation. -/
theorem stake_conserved (host : Host) (attestor : Address) (calls : List Call)
    (hfits : deposits host attestor calls < 2 ^ 64) :
    StakeConserved host attestor calls ∧
      ∀ before call rest, calls = before ++ call :: rest →
        (after host before).StakeExact host attestor call := by
  refine ⟨(conserved_after host attestor calls hfits).1, ?_⟩
  rintro before call rest rfl
  have hupto : deposits host attestor (before ++ [call]) < 2 ^ 64 := by
    refine (deposits_le host attestor (before ++ [call]) rest).trans_lt ?_
    rwa [List.append_assoc, List.singleton_append]
  rw [deposits_append] at hupto
  obtain ⟨hconserved, hconfig⟩ := conserved_after host attestor before (by omega)
  rw [StakeConserved] at hconserved
  obtain ⟨-, -, hwithdrawal⟩ := account_next host attestor (after host before) call hconfig
    (by unfold u64Max; omega)
  have hpenalty : (after host before).state.discipline.penalty attestor ≤
    ((after host before).account attestor).stake := slashAmount_le hconfig _
  exact ⟨by unfold u64Max; omega, hwithdrawal, hpenalty, by unfold u64Max; omega⟩

end World

/-! ## Sample runs -/

namespace Sample

/-- Staking is on, and a penalty takes a tenth. -/
def stakingOn : Call :=
  call admin (.discipline (.setAttestorReputationConfig admin
    { penaltyPerSlash := 20, rewardPerAttestation := 1, stakingEnabled := true
      slashFractionBps := 1000, suspensionThreshold := 20 }))

/-- An attestor under challenge deposits, is slashed, has the slash collected, and withdraws. -/
def slashedStake : List Call :=
  challenged ++ [stakingOn, call alice (.discipline (.depositAttestorStake alice 100)),
    upheldBy bob, upheldBy issuer, call admin (.discipline (.collectSlashedStake admin alice)),
    call alice (.discipline (.withdrawAttestorStake alice 30))]

end Sample

namespace World

open QuorumProof.Sample in
/-- Of a hundred that are deposited, ten are slashed and collected, and thirty withdrawn. -/
theorem stake_conserved_slashed :
    StakeConserved host alice slashedStake ∧ deposits host alice slashedStake = 100 ∧
      (after host slashedStake).account alice = ⟨60, 0⟩ ∧
      withdrawals host alice slashedStake = 30 ∧ collections host alice slashedStake = 10 :=
  ⟨(stake_conserved host alice slashedStake (by decide +kernel)).1, by decide +kernel,
    by decide +kernel, by decide +kernel, by decide +kernel⟩

end World

end QuorumProof
