import QuorumProof.Sbt.Ownership

/-!
# Sbt/Delegations — delegations and the owners that made them

A delegation is stored under its token, and for usage its delegatee.  It is live as long as it is
neither expired nor executed and the token it needs is there.  No entry point revives a delegation
that it does not record (`Op.open_of_ok`), so one that is not live when its owner loses the token
stays that way.

Burning leaves no delegation live.  Moving a token removes the rights delegation, unless it is
`transfer_ownership_dual` or `finalize_recovery` that moves it; `transfer_sbt_via_attestor` uses up
the delegation it acts on; nothing else about delegations changes with the owner.  So a former
owner's delegation is gone in every run that moves a token only when what its mover leaves in place
is spent.
-/

namespace QuorumProof.Sbt

variable (env : Env) (s : State)

open Guarded Machine

/-! ## Keys -/

/-- Where a delegation is stored. -/
inductive DelegationKey
  | delegation (tokenId : Nat)
  | usageDelegation (sbtId : Nat) (delegatee : Address)
  | attestorDelegation (sbtId : Nat)
  deriving DecidableEq, Repr

/-- The token a delegation is about. -/
def DelegationKey.token : DelegationKey → Nat
  | delegation t | usageDelegation t _ | attestorDelegation t => t

/-- Where an entry point records a delegation. -/
def Op.records : Op → Option DelegationKey
  | holder (.delegateSbtRights _ t _ _) => some (.delegation t)
  | holder (.delegateSbtUsage t delegatee _) => some (.usageDelegation t delegatee)
  | holder (.delegateSbtTransfer _ t _ _ _) => some (.attestorDelegation t)
  | _ => none

/-- It is the owner who records a delegation; a transfer may be delegated by the administrator. -/
def Op.RecordedBy (owner : Address) : Op → Prop
  | holder (.delegateSbtTransfer caller ..) => caller = owner
  | _ => True

theorem Op.actions_of_records {s : State} {op : Op} {key : DelegationKey}
    (h : op.records = some key) : op.actions s = [] := by
  cases op with
  | holder => rfl
  | _ => simp [Op.records] at h

namespace DelegationBook

/-- A delegation is neither expired nor executed. -/
def Open (now : Nat) (b : DelegationBook) : DelegationKey → Prop
  | .delegation t => ∃ record ∈ b.delegation t, now < record.expiresAt
  | .usageDelegation t delegatee =>
    ∃ record ∈ b.usageDelegation (t, delegatee), now < record.scope.expiresAt
  | .attestorDelegation t => ∃ record ∈ b.attestorDelegation t, record.executed = false

instance (now : Nat) (b : DelegationBook) (key : DelegationKey) : Decidable (b.Open now key) := by
  unfold Open
  split <;> infer_instance

/-- What is open at a time was open before. -/
theorem Open.earlier {now now' : Nat} {b : DelegationBook} {key : DelegationKey}
    (h : b.Open now' key) (hnow : now ≤ now') : b.Open now key := by
  cases key with
  | delegation | usageDelegation =>
    obtain ⟨record, hrecord, hlt⟩ := h
    exact ⟨record, hrecord, hnow.trans_lt hlt⟩
  | attestorDelegation => exact h

/-- **Delegations are only removed or executed.** -/
def Narrows (b b' : DelegationBook) : Prop := ∀ now key, b'.Open now key → b.Open now key

theorem Narrows.remove (b : DelegationBook) (t : Nat) :
    b.Narrows { b with delegation := b.delegation.remove t } := by
  intro now key
  cases key <;> grind [Open, Store.remove_apply]

theorem Narrows.execute (b : DelegationBook) (t : Nat) (record : AttestorDelegationRecord) :
    b.Narrows { b with
      attestorDelegation := b.attestorDelegation.set t { record with executed := true } } := by
  intro now key
  cases key <;> grind [Open, Store.set_apply]

end DelegationBook

open DelegationBook

/-! ## What entry points do to delegations -/

namespace State

theorem TokenWrites.narrows {env : Env} {dual : Bool} {s s' : State} {as : List Action}
    (h : TokenWrites env dual s as s') : s.delegations.Narrows s'.delegations := by
  refine h.relation (R := fun s s' => s.delegations.Narrows s'.delegations) (fun _ _ _ h => h)
    (fun h h' now key hopen => h now key (h' now key hopen)) fun hwrite now key hopen => ?_
  cases hwrite with
  | mint | dual => exact hopen
  | burn | move => exact Narrows.remove _ _ now key hopen
  | hand => exact Narrows.execute _ _ _ now key (Narrows.remove _ _ now key hopen)

end State

/-- **No entry point opens a delegation that it does not record.** -/
theorem Op.open_of_ok {op : Op} {key : DelegationKey} (hop : op.records ≠ some key) :
    Ensures (op.apply env s) fun s' =>
      ∀ now, s'.delegations.Open now key → s.delegations.Open now key := by
  have hkeeps := Op.keeps env s op
  rcases op with _ | op | _ | op | _ | _
  case token =>
    refine (s.tokenOp_writes env op).mono ?_
    rintro s' ⟨-, cache, -, h⟩ now
    exact h.narrows now key
  case holder =>
    cases op
    case delegateSbtRights | delegateSbtUsage | delegateSbtTransfer =>
      simp only [Op.apply, HolderOp.apply, State.delegateSbtRights, State.delegateSbtUsage,
        State.delegateSbtTransfer, ensures_steps, State.ensures_guards]
      repeat intro _
      cases key <;> grind [Open, Op.records, Store.set_apply]
    case revokeSbtDelegation =>
      simp only [Op.apply, HolderOp.apply, State.revokeSbtDelegation, ensures_steps,
        State.ensures_guards]
      exact fun _ _ _ _ now => Narrows.remove _ _ now key
    all_goals exact hkeeps.mono fun _ h now hopen => h.delegations rfl ▸ hopen
  all_goals exact hkeeps.mono fun _ h now hopen => h.delegations rfl ▸ hopen

/-! ## What a move takes away -/

/-- The action burns or moves a token. -/
def Action.Touches (t : Nat) : Action → Prop
  | mint .. => False
  | burn t' | move t' _ | hand t' _ => t' = t

theorem Action.touches_of_receiver {t : Nat} {n : Address} {a : Action}
    (h : a.receiver t = some n) : a.Touches t := by
  cases a with
  | mint | burn => simp [receiver] at h
  | move | hand => exact (Option.ite_none_right_eq_some.mp h).1

/-- What an entry point takes away of the tokens it moves. -/
def Op.Clears : DelegationKey → Op → Prop
  | .delegation _, token (.transferOwnershipDual ..) => False
  | .delegation _, token _ => True
  | .attestorDelegation _, token (.transferSbtViaAttestor ..) => True
  | _, _ => False

instance (key : DelegationKey) (op : Op) : Decidable (op.Clears key) := by
  rcases key with _ | _ | _ <;> rcases op with _ | op | _ | _ | _ | _ <;> try cases op
  all_goals first | exact .isTrue trivial | exact .isFalse id

namespace State

theorem TokenWrite.not_open {env : Env} {s s' : State} {a : Action} {t now : Nat}
    (h : TokenWrite env false s a s') (ht : a.Touches t) :
    ¬ s'.delegations.Open now (.delegation t) := by
  rintro ⟨record, hrecord, -⟩
  cases h with
  | mint => exact ht.elim
  | burn | move | hand =>
    obtain rfl := ht
    cases (Store.remove_self _ _).symm.trans hrecord

theorem TokenWrites.not_open {env : Env} {s s' : State} {as : List Action} {a : Action}
    {t now : Nat} (h : TokenWrites env false s as s') (ha : a ∈ as) (ht : a.Touches t) :
    ¬ s'.delegations.Open now (.delegation t) := by
  induction h with
  | nil => cases ha
  | cons hwrite hrest ih =>
    rcases List.mem_cons.mp ha with rfl | ha
    · exact fun hopen => hwrite.not_open ht (hrest.narrows now _ hopen)
    · exact ih ha

/-- **A token that is burned or moved loses its rights delegation**, unless its owner moves it. -/
theorem tokenOp_not_open (env : Env) (s : State) {op : TokenOp} {a : Action} {t : Nat}
    (hop : op.isDual = false) (ha : a ∈ op.actions s) (ht : a.Touches t) :
    Ensures (op.apply env s) fun s' => ∀ now, ¬ s'.delegations.Open now (.delegation t) := by
  refine (s.tokenOp_writes env op).mono ?_
  rintro s' ⟨-, cache, -, h⟩ now
  rw [hop] at h
  exact h.not_open ha ht

/-- **An attestor's delegation is used up.** -/
theorem TokenWrite.executes {env : Env} {s s' : State} {newHolder : Address} {t now : Nat}
    (h : TokenWrite env false s (.hand t newHolder) s') :
    ¬ s'.delegations.Open now (.attestorDelegation t) := by
  rintro ⟨record, hrecord, hopen⟩
  cases h with
  | hand =>
    cases (Store.set_self _ _ _).symm.trans hrecord
    cases hopen

end State

/-- **What an entry point clears is not open after it moved the token.** -/
theorem Op.not_open_of_clears {op : Op} {key : DelegationKey} {a : Action} {n : Address}
    (hop : op.Clears key) (ha : a ∈ op.actions s) (hn : a.receiver key.token = some n) :
    Ensures (op.apply env s) fun s' => ¬ s'.delegations.Open env.now key := by
  have ht := Action.touches_of_receiver hn
  rcases key with t | _ | t <;> rcases op with _ | op | _ | _ | _ | _ <;> try exact hop.elim
  case delegation.token =>
    have hnotdual : op.isDual = false := by
      cases op <;> first | rfl | exact hop.elim
    exact (s.tokenOp_not_open env hnotdual ha ht).mono fun _ h => h env.now
  case attestorDelegation.token =>
    cases op <;> try exact hop.elim
    case transferSbtViaAttestor attestor t' proof =>
      refine (s.tokenOp_writes env (.transferSbtViaAttestor attestor t' proof)).mono ?_
      rintro s' ⟨⟨-, -, record, hrecord, -⟩, cache, -, hwrites⟩
      simp only [Op.actions, TokenOp.actions, hrecord, List.mem_singleton] at ha hwrites
      subst ha
      obtain rfl : t' = t := ht
      obtain _ | ⟨hwrite, _ | _⟩ := hwrites
      exact hwrite.executes

/-! ## Live delegations -/

namespace State

/-- The token of a delegation is there, if it is looked for: for rights it is not. -/
def Backs (s : State) : DelegationKey → Prop
  | .delegation _ => True
  | .usageDelegation t _ | .attestorDelegation t => s.ledger.tokens t ≠ none

instance (s : State) (key : DelegationKey) : Decidable (s.Backs key) := by
  unfold Backs
  split <;> infer_instance

/-- **A delegation still authorizes something.** -/
def Live (now : Nat) (s : State) (key : DelegationKey) : Prop :=
  s.delegations.Open now key ∧ s.Backs key
  deriving Decidable

variable {now : Nat} {s : State} {t : Nat}

theorem Live.earlier {now' : Nat} {key : DelegationKey} (h : s.Live now' key) (hnow : now ≤ now') :
    s.Live now key :=
  ⟨h.1.earlier hnow, h.2⟩

theorem live_of_isDelegateActive {delegatee : Address}
    (h : s.isDelegateActive now t delegatee = true) : s.Live now (.delegation t) := by
  rcases hrecord : s.delegations.delegation t with _ | record <;>
    simp only [isDelegateActive, hrecord, decide_eq_true_eq, Bool.false_eq_true] at h
  exact ⟨⟨record, hrecord, h.2⟩, trivial⟩

theorem live_of_activeUsageScope {delegatee : Address} {scope : UsageScope}
    (h : s.activeUsageScope now t delegatee = some scope) :
    s.Live now (.usageDelegation t delegatee) := by
  simp only [activeUsageScope, Option.bind_eq_bind, Option.bind_eq_some_iff,
    Option.guard_eq_some'] at h
  obtain ⟨-, hsome, record, hrecord, -, hlt, -⟩ := h
  exact ⟨⟨record, hrecord, hlt⟩, Option.isSome_iff_ne_none.mp hsome⟩

/-- **An attestor moves a token on the strength of a live delegation.** -/
theorem live_of_transferSbtViaAttestor (env : Env) (s : State) (attestor : Address) (t : Nat)
    (proof : Bytes) :
    Ensures (s.transferSbtViaAttestor env attestor t proof) fun _ =>
      s.Live now (.attestorDelegation t) := by
  simp only [transferSbtViaAttestor, ensures_steps, ensures_guards, require_eq_ok]
  intro _ _ record hrecord _ hopen _ _ token htoken
  exact ⟨⟨record, hrecord, hopen⟩, by simp [Backs, htoken]⟩

end State

/-- **What a move leaves in place is spent**: an entry point that moves the token of a delegation to
somebody else takes the delegation away or finds it no longer live. -/
def Op.Retires (now : Nat) (s : State) (key : DelegationKey) (op : Op) : Prop :=
  ∀ o ∈ s.ledger.owners key.token, ∀ a ∈ op.actions s, ∀ n ∈ a.receiver key.token, n ≠ o →
    op.Clears key ∨ ¬ s.Live now key
  deriving Decidable

/-! ## Runs -/

namespace World

/-- A delegation is live now. -/
def Live (w : World) (key : DelegationKey) : Prop := w.state.Live w.time key

/-- **A delegation authorizes nothing**: it is not reported as active from now on, and no attestor
moves a token on the strength of it. -/
def Inactive (host : Host) (w : World) : DelegationKey → Prop
  | .delegation t => ∀ now, w.time ≤ now → ∀ delegatee,
    w.state.isDelegateActive now t delegatee = false
  | .usageDelegation t delegatee => ∀ now, w.time ≤ now →
    w.state.verifyDelegatedSbt now t delegatee = false ∧
    w.state.verifyDelegatedIdentity now t delegatee = false ∧
    w.state.verifyDelegatedGovernance now t delegatee = false
  | .attestorDelegation t => ∀ call attestor proof,
    call.op = .token (.transferSbtViaAttestor attestor t proof) → ¬ w.Completes host call

theorem inactive_of_not_live {host : Host} {w : World} {key : DelegationKey} (h : ¬ w.Live key) :
    w.Inactive host key := by
  cases key with
  | delegation t =>
    intro now hnow delegatee
    by_contra hactive
    exact h ((State.live_of_isDelegateActive (by simpa using hactive)).earlier hnow)
  | usageDelegation t delegatee =>
    intro now hnow
    have hnone : w.state.activeUsageScope now t delegatee = none := by
      by_contra hsome
      obtain ⟨scope, hscope⟩ := Option.ne_none_iff_exists'.mp hsome
      exact h ((State.live_of_activeUsageScope hscope).earlier hnow)
    simp only [State.verifyDelegatedSbt, State.verifyDelegatedIdentity,
      State.verifyDelegatedGovernance, hnone, and_self]
  | attestorDelegation t =>
    rintro call attestor proof hop ⟨s, hs⟩
    rw [hop] at hs
    exact h (State.live_of_transferSbtViaAttestor _ _ attestor t proof s hs)

/-- Moves in a signed call leave no live delegation behind. -/
def Retires (key : DelegationKey) (w : World) (call : Call) : Prop :=
  w.Signed call → call.op.Retires (w.time + call.elapsed) w.state key
  deriving Decidable

/-- A call does not record a delegation anew. -/
def Unrecorded (host : Host) (key : DelegationKey) (w : World) (call : Call) : Prop :=
  call.op.records = some key → ¬ w.Completes host call
  deriving Decidable

/-- A token has been minted, and the ledger is consistent. -/
def Minted (t : Nat) (w : World) : Prop := w.holdings.Consistent ∧ t ≤ w.holdings.count

section Steps

variable {host : Host} {w : World} {call : Call} {key : DelegationKey}

theorem Minted.next {t : Nat} (hw : w.Minted t) (host : Host) (call : Call) :
    (w.next host call).Minted t := by
  refine ⟨consistent_next host hw.1 call, ?_⟩
  rw [holdings_next host hw.1 call]
  exact run_invariant (I := fun h : Holdings => t ≤ h.count)
    (fun h a ht => ht.trans (Holdings.count_le_act h a)) hw.2 _

/-- A call brings no burned token back. -/
theorem tokens_next_eq_none {t : Nat} (hw : w.Minted t) (hnone : w.state.ledger.tokens t = none) :
    (w.next host call).state.ledger.tokens t = none := by
  have hheld : w.holdings.held t = none := Option.map_eq_none_iff.mpr hnone
  have hkeeps := run_invariant (I := fun h : Holdings => t ≤ h.count ∧ h.held t = none)
    (fun h a hI => ⟨hI.1.trans (Holdings.count_le_act h a), h.act_held_eq_none hI.1 hI.2 a⟩)
    ⟨hw.2, hheld⟩ (w.actions host call)
  rw [← holdings_next host hw.1 call] at hkeeps
  exact Option.map_eq_none_iff.mp hkeeps.2

theorem backs_of_next (hw : w.Minted key.token) (h : (w.next host call).state.Backs key) :
    w.state.Backs key := by
  cases key with
  | delegation => trivial
  | usageDelegation | attestorDelegation => exact fun hnone => h (tokens_next_eq_none hw hnone)

/-- **A call makes no delegation live that it does not record.** -/
theorem live_of_next (hw : w.Minted key.token) (hunrecorded : w.Unrecorded host key call)
    (h : (w.next host call).Live key) : w.state.Live (w.time + call.elapsed) key := by
  refine ⟨?_, backs_of_next hw h.2⟩
  by_cases hcall : w.Completes host call
  · have hne : call.op.records ≠ some key := fun hrecords => hunrecorded hrecords hcall
    obtain ⟨s, hs⟩ := hcall
    have hopen := h.1
    rw [next_state_of_ok hs] at hopen
    exact Op.open_of_ok _ _ hne s hs _ hopen
  · have hopen := h.1
    rwa [next_state_of_not_completes hcall] at hopen

/-- An entry point that burns tokens is none of those that leave the rights delegation. -/
theorem token_of_burn_mem {s : State} {op : Op} {t : Nat} (h : .burn t ∈ op.actions s) :
    ∃ op', op = .token op' ∧ op'.isDual = false := by
  rcases op with _ | op | op | _ | _ | _ <;> try exact absurd h List.not_mem_nil
  case token =>
    refine ⟨op, rfl, ?_⟩
    cases op <;> first | rfl | simp [Op.actions, TokenOp.actions] at h
  case recovery =>
    cases op <;> try exact absurd h List.not_mem_nil
    case finalizeRecovery initiator q =>
      rcases hrequest : s.recovery.request q <;>
        simp [Op.actions, RecoveryOp.actions, hrequest] at h

/-- **A burned token leaves no delegation live.** -/
theorem not_live_of_burn (hw : w.holdings.Consistent)
    (hburn : .burn key.token ∈ w.actions host call)
    (hn : (w.next host call).state.ledger.owners key.token = none) :
    ¬ (w.next host call).Live key := by
  rintro ⟨hopen, hbacks⟩
  have hgone : (w.next host call).state.ledger.tokens key.token = none := by
    have howner := (consistent_next host hw call).owner key.token
    exact Option.map_eq_none_iff.mp (Option.map_eq_none_iff.mp (howner.symm.trans hn))
  cases key with
  | delegation t =>
    obtain ⟨⟨s, hs⟩, hmem⟩ := mem_actions.mp hburn
    obtain ⟨op, hop, hnotdual⟩ := token_of_burn_mem hmem
    rw [hop] at hs hmem
    rw [next_state_of_ok (hop ▸ hs)] at hopen
    exact w.state.tokenOp_not_open _ hnotdual hmem (t := t) rfl s hs _ hopen
  | usageDelegation | attestorDelegation => exact hbacks hgone

/-- **An owner who loses a token leaves no delegation live**, if moves leave none. -/
theorem not_live_of_owners_ne (hw : w.holdings.Consistent) {o : Address}
    (ho : w.state.ledger.owners key.token = some o)
    (hne : (w.next host call).state.ledger.owners key.token ≠ some o)
    (hretires : w.Retires key call) : ¬ (w.next host call).Live key := by
  rcases hn : (w.next host call).state.ledger.owners key.token with _ | n
  · exact not_live_of_burn hw (burn_mem_of_next hw ho hn) hn
  · obtain ⟨a, ha, n', hn', hne'⟩ :=
      exists_receiver_of_next hw ho hn fun heq => hne (by rw [hn, heq])
    obtain ⟨hcall, ha⟩ := mem_actions.mp ha
    rcases hretires hcall.signed o ho a ha n' hn' hne' with hclears | hnot
    · obtain ⟨s, hs⟩ := hcall
      intro hlive
      refine Op.not_open_of_clears _ _ hclears ha hn' s hs ?_
      rw [← next_state_of_ok hs]
      exact hlive.1
    · intro hlive
      refine hnot (live_of_next ⟨hw, hw.le_count ho⟩ (fun hrecords => ?_) hlive)
      simp [Op.actions_of_records hrecords] at ha

end Steps

/-- **A delegation does not outlive its owner's hold on the token**: recorded by the owner and not
recorded anew since, it is inactive once somebody else or nobody has owned the token. -/
def NoStaleDelegation (host : Host) (calls : List Call) (key : DelegationKey) : Prop :=
  ∀ before recording middle later owner, calls = before ++ recording :: (middle ++ later) →
    recording.op.records = some key → recording.op.RecordedBy owner →
    (after host before).Completes host recording →
    (after host before).state.ledger.owners key.token = some owner →
    (after host (before ++ recording :: middle)).state.ledger.owners key.token ≠ some owner →
    Along (next host) (Unrecorded host key) ((after host before).next host recording)
      (middle ++ later) →
    (after host calls).Inactive host key

section Lost

variable {host : Host} {w : World} {key : DelegationKey} {calls : List Call}

/-- What is not live stays so, unless it is recorded anew. -/
theorem not_live_run (hw : w.Minted key.token) (hnot : ¬ w.Live key)
    (hcalls : Along (next host) (Unrecorded host key) w calls) :
    ¬ (run (next host) w calls).Live key := by
  have hkeeps := hcalls.invariant (I := fun w : World => w.Minted key.token ∧ ¬ w.Live key)
    (fun w call hI hunrecorded => ⟨hI.1.next host call, fun hlive =>
      hI.2 ((live_of_next hI.1 hunrecorded hlive).earlier (by simp))⟩) ⟨hw, hnot⟩
  exact hkeeps.2

/-- What the owner delegated is live only as long as the owner has the token. -/
theorem owner_or_not_live_run {owner : Address} (hw : w.Minted key.token)
    (ho : w.state.ledger.owners key.token = some owner)
    (hcalls : Along (next host) (fun w call => w.Retires key call ∧ w.Unrecorded host key call) w
      calls) :
    (run (next host) w calls).Minted key.token ∧
      ((run (next host) w calls).state.ledger.owners key.token = some owner ∨
        ¬ (run (next host) w calls).Live key) := by
  refine hcalls.invariant (I := fun w : World => w.Minted key.token ∧
    (w.state.ledger.owners key.token = some owner ∨ ¬ w.Live key))
    (fun w call hI hcall => ⟨hI.1.next host call, ?_⟩) ⟨hw, .inl ho⟩
  obtain ⟨hw, ho | hnot⟩ := hI
  · by_cases hsame : (w.next host call).state.ledger.owners key.token = some owner
    · exact .inl hsame
    · exact .inr (not_live_of_owners_ne hw.1 ho hsame hcall.1)
  · exact .inr fun hlive => hnot ((live_of_next hw hcall.2 hlive).earlier (by simp))

/-- Recording a delegation leaves who holds what. -/
theorem holdings_of_records {call : Call} (hw : w.holdings.Consistent)
    (hrecords : call.op.records = some key) : (w.next host call).holdings = w.holdings := by
  have hactions : w.actions host call = [] := by
    rw [actions, Op.actions_of_records hrecords, ite_self]
  rw [holdings_next host hw call, hactions, run_nil]

end Lost

/-- **No delegation is stale** in every run whose moves leave none live behind. -/
theorem no_stale_delegation (host : Host) (calls : List Call) (key : DelegationKey)
    (hcalls : Along (next host) (Retires key) deployed calls) :
    NoStaleDelegation host calls key := by
  rintro before recording middle later owner rfl hrecords - - ho hlost hunrecorded
  obtain ⟨-, -, hretires⟩ := (along_append _).mp hcalls
  obtain ⟨hretires, -⟩ := (along_append _).mp hretires
  obtain ⟨hunrecorded, hunrecorded'⟩ := (along_append _).mp hunrecorded
  have hw : (after host before).holdings.Consistent := consistent_after host before
  set w := (after host before).next host recording
  have hsame : w.holdings = (after host before).holdings := holdings_of_records hw hrecords
  have ho' : w.holdings.ownerOf key.token = some owner := hsame ▸ ho
  have hw' : w.Minted key.token := ⟨hsame ▸ hw, (hsame ▸ hw).le_count ho'⟩
  have hmiddle : after host (before ++ recording :: middle) = run (next host) w middle :=
    run_append ..
  have hlast : after host (before ++ recording :: (middle ++ later)) =
      run (next host) (run (next host) w middle) later := by
    rw [after, run_append, run_cons, run_append]
    rfl
  obtain ⟨hminted, howner⟩ := owner_or_not_live_run hw' ho' (hretires.and hunrecorded)
  rw [hlast]
  exact inactive_of_not_live
    (not_live_run hminted (howner.resolve_left (hmiddle ▸ hlost)) hunrecorded')

end World

/-! ## Sample runs -/

namespace Sample

/-- The owner delegates the rights of a token until time 100. -/
def delegateRights (owner : Address) (t : Nat) (delegatee : Address) : Call :=
  callBy [owner] (.holder (.delegateSbtRights owner t delegatee 100))

/-- The owner delegates the transfer of a token to an attestor. -/
def delegateTransfer (owner : Address) (t : Nat) (attestor newHolder : Address) : Call :=
  callBy [owner] (.holder (.delegateSbtTransfer owner t attestor newHolder []))

/-- An attestor moves a token, with a proof of one byte. -/
def attestorTransfer (attestor : Address) (t : Nat) : Call :=
  callBy [attestor] (.token (.transferSbtViaAttestor attestor t [0]))

end Sample

namespace World

open Sbt.Sample in
/-- A rights delegation is gone when the administrator has moved the token. -/
theorem no_stale_delegation_moved : (after host
    [initialized, mint alice 1, delegateRights alice 1 bob, adminTransfer 1 carol]
    ).Inactive host (.delegation 1) :=
  no_stale_delegation host _ (.delegation 1) (by decide +kernel) [initialized, mint alice 1]
    (delegateRights alice 1 bob) [adminTransfer 1 carol] [] alice rfl rfl trivial
    (by decide +kernel) (by decide +kernel) (by decide +kernel) (by decide +kernel)

open Sbt.Sample in
/-- **An attestor of the former owner moves the new owner's token.** -/
theorem not_no_stale_delegation : ¬ ∀ host calls key, NoStaleDelegation host calls key := by
  intro h
  have hinactive := h host
    [initialized, mint alice 1, delegateTransfer alice 1 bob bob, adminTransfer 1 carol]
    (.attestorDelegation 1) [initialized, mint alice 1] (delegateTransfer alice 1 bob bob)
    [adminTransfer 1 carol] [] alice rfl rfl rfl (by decide +kernel) (by decide +kernel)
    (by decide +kernel) (by decide +kernel)
  exact hinactive (attestorTransfer bob 1) bob [0] rfl (by decide +kernel)

end World

end QuorumProof.Sbt
