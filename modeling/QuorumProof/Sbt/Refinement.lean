import QuorumProof.Sbt.Frames

/-!
# Sbt/Refinement — every entry point is a run of holding actions

The ledger is read as `Holdings`, and each entry point as the list of actions it stands for, which
its arguments and the storage before it determine.  `Op.holdings_run` says that an entry point that
succeeds does exactly those, each of them enabled: from here on who holds what is a matter of four
actions.

`finalize_recovery` rewrites the token lists in one go after its loop; it is still the moves one by
one, since the initiator's list is emptied from the front while the new owner's grows at the end.
-/

namespace QuorumProof.Sbt

open Guarded Machine

/-! ## The ledger as holdings -/

/-- A stored token, as far as holding it goes. -/
def SoulboundToken.holding (token : SoulboundToken) : Holding := ⟨token.owner, token.credentialId⟩

/-- The ledger as holdings. -/
def Ledger.holdings (l : Ledger) : Holdings where
  count := l.tokenCount
  held t := (l.tokens t).map SoulboundToken.holding
  ownerOf := l.owners
  listed a := (l.ownerTokens a).getD []
  mapped := l.ownerCredential

namespace Ledger

variable {l : Ledger} {t : Nat} {token : SoulboundToken}

theorem held_eq (ht : l.tokens t = some token) : l.holdings.held t = some token.holding := by
  simp only [holdings, ht, Option.map_some]

@[simp] theorem unlist_holdings (owner : Address) :
    (l.unlist owner t).holdings = l.holdings.unlist owner t := by
  simp only [unlist, holdings, Holdings.unlist, Index.getD_set]

@[simp] theorem enlist_holdings (owner : Address) :
    (l.enlist owner t).holdings = l.holdings.enlist owner t := by
  simp only [enlist, holdings, Holdings.enlist, Index.push, Index.getD_set]

@[simp] theorem putToken_holdings :
    (l.putToken t token).holdings = l.holdings.give t token.holding := by
  simp only [putToken, holdings, Holdings.give, Store.map_set]
  rfl

@[simp] theorem setOwnerCredential_holdings (owner : Address) (c : Nat) :
    (l.setOwnerCredential owner c t).holdings =
      { l.holdings with mapped := l.holdings.mapped.set (owner, c) t } := rfl

@[simp] theorem removeOwnerCredential_holdings (owner : Address) (c : Nat) :
    (l.removeOwnerCredential owner c).holdings =
      { l.holdings with mapped := l.holdings.mapped.remove (owner, c) } := rfl

/-- A token rewritten with its owner and its credential is held as before. -/
theorem holdings_set_tokens {token' : SoulboundToken} (ht : l.tokens t = some token)
    (hsame : token'.holding = token.holding) :
    Ledger.holdings { l with tokens := l.tokens.set t token' } = l.holdings := by
  have hheld : Store.set (fun t' => (l.tokens t').map SoulboundToken.holding) t token'.holding =
      fun t' => (l.tokens t').map SoulboundToken.holding := by
    refine Function.update_eq_self_iff.mpr ?_
    rw [ht, hsame, Option.map_some]
  simp only [holdings, Store.map_set, hheld]

/-! ## The four actions -/

theorem mintToken_holdings (owner : Address) (c : Nat) :
    Ledger.holdings { l.mintToken (l.tokenCount + 1) owner c with tokenCount := l.tokenCount + 1 } =
      l.holdings.act (.mint owner c) := by
  have hwrites := congrArg (fun h : Holdings => { h with count := l.tokenCount + 1 })
    (setOwnerCredential_holdings (t := l.tokenCount + 1) (l := (l.putToken (l.tokenCount + 1)
      ⟨l.tokenCount + 1, owner, c, [], 1, none, none⟩).enlist owner (l.tokenCount + 1)) owner c)
  rw [enlist_holdings, putToken_holdings] at hwrites
  exact hwrites

theorem burnToken_holdings (ht : l.tokens t = some token) :
    (l.burnToken t token.owner token.credentialId).holdings = l.holdings.act (.burn t) := by
  rw [Holdings.act_burn (held_eq ht), burnToken, unlist_holdings, removeOwnerCredential_holdings]
  simp only [holdings, Store.map_remove]
  rfl

theorem moveToken_holdings (ht : l.tokens t = some token) (newOwner : Address) :
    (l.moveToken t token newOwner).holdings = l.holdings.act (.move t newOwner) := by
  rw [Holdings.act_move (held_eq ht)]
  simp only [moveToken, setOwnerCredential_holdings, enlist_holdings, putToken_holdings,
    removeOwnerCredential_holdings, unlist_holdings]
  rfl

theorem handToken_holdings (ht : l.tokens t = some token) (newHolder : Address) :
    (l.handToken t token newHolder).holdings = l.holdings.act (.hand t newHolder) := by
  rw [Holdings.act_hand (held_eq ht)]
  simp only [handToken, setOwnerCredential_holdings, enlist_holdings, putToken_holdings,
    removeOwnerCredential_holdings, unlist_holdings]
  rfl

end Ledger

/-! ## The token operations -/

namespace State

variable (env : Env) (s : State)

/-- Who holds what. -/
def holdings (s : State) : Holdings := s.ledger.holdings

/-- The storage after an entry point is that of its actions, each of them enabled. -/
def Refines (s : State) (actions : List Action) (s' : State) : Prop :=
  s'.holdings = run Holdings.act s.holdings actions ∧
    Along Holdings.act Holdings.Enabled s.holdings actions

/-- An entry point that leaves the holdings stands for nothing. -/
theorem Refines.of_eq {s s' : State} (h : s'.holdings = s.holdings) : Refines s [] s' :=
  ⟨h, trivial⟩

theorem held_ne_none {s : State} {t : Nat} {token : SoulboundToken}
    (ht : s.ledger.tokens t = some token) : s.holdings.held t ≠ none := by
  rw [holdings, Ledger.held_eq ht]
  exact Option.some_ne_none _

/-- **A write on tokens is its action**, which is enabled. -/
theorem TokenWrite.act {env : Env} {dual : Bool} {s s' : State} {a : Action}
    (h : TokenWrite env dual s a s') :
    s'.holdings = s.holdings.act a ∧ s.holdings.Enabled a := by
  cases h with
  | mint uri hfree => exact ⟨Ledger.mintToken_holdings _ _, hfree⟩
  | burn ht => exact ⟨Ledger.burnToken_holdings ht, held_ne_none ht⟩
  | move ht newOwner | dual ht newOwner =>
    exact ⟨Ledger.moveToken_holdings ht newOwner, held_ne_none ht⟩
  | hand ht => exact ⟨Ledger.handToken_holdings ht _, held_ne_none ht⟩

theorem TokenWrites.refines {env : Env} {dual : Bool} {s s' : State} {as : List Action}
    (h : TokenWrites env dual s as s') : Refines s as s' := by
  induction h with
  | nil => exact .of_eq rfl
  | cons hwrite _ ih =>
    obtain ⟨hact, henabled⟩ := hwrite.act
    rw [Refines, hact] at ih
    exact ⟨ih.1, henabled, ih.2⟩

/-! ## Recovery -/

variable (base : Address → List Nat) (initiator newOwner : Address)

/-- The lists halfway through a recovery: `rest` is still the initiator's, `done` has arrived. -/
def recoveredLists (done rest : List Nat) : Address → List Nat :=
  let cleared := Function.update base initiator rest
  Function.update cleared newOwner (cleared newOwner ++ done)

theorem recoveredLists_start :
    recoveredLists base initiator newOwner [] (base initiator) = base := by
  simp only [recoveredLists, Function.update_eq_self, List.append_nil]

/-- One token goes from the front of the one list to the end of the other. -/
theorem recoveredLists_step (done rest : List Nat) (t : Nat) :
    let lists := recoveredLists base initiator newOwner done (t :: rest)
    let erased := Function.update lists initiator ((lists initiator).erase t)
    Function.update erased newOwner (erased newOwner ++ [t]) =
      recoveredLists base initiator newOwner (done ++ [t]) rest := by
  funext a
  by_cases hsame : initiator = newOwner <;> by_cases ha : a = newOwner <;>
    by_cases ha' : a = initiator <;>
    simp_all [recoveredLists, Function.update_apply, eq_comm]

/-- One turn of the recovery loop is one move. -/
theorem recoverToken_holdings {l : Ledger} {t : Nat} {token : SoulboundToken}
    (ht : l.tokens t = some token) {initiator : Address} (howner : token.owner = initiator)
    (newOwner : Address) (base : Address → List Nat) (done rest : List Nat) :
    let lists := recoveredLists base initiator newOwner
    { (l.recoverToken initiator newOwner t token).holdings with
        listed := lists (done ++ [t]) rest } =
      Holdings.act { l.holdings with listed := lists done (t :: rest) } (.move t newOwner) := by
  intro lists
  have hheld : Holdings.held { l.holdings with listed := lists done (t :: rest) } t =
    some token.holding := Ledger.held_eq ht
  subst howner
  rw [Holdings.act_move hheld]
  simp only [Ledger.recoverToken, Ledger.setOwnerCredential_holdings, Ledger.putToken_holdings,
    Ledger.removeOwnerCredential_holdings]
  simp only [lists, ← recoveredLists_step]
  rfl

theorem recoverEntries_holdings (base : Address → List Nat) (rest : List Nat) :
    ∀ (done : List Nat) (l : Ledger), rest.Nodup →
    (∀ t ∈ rest, ∀ token ∈ l.tokens t, token.owner = initiator) →
    let lists := recoveredLists base initiator newOwner
    Ensures (rest.foldlM (recoverEntry initiator newOwner) l) fun l' =>
      { l'.holdings with listed := lists (done ++ rest) [] } =
        run Holdings.act { l.holdings with listed := lists done rest }
          (rest.map fun t => .move t newOwner) ∧
      Along Holdings.act Holdings.Enabled { l.holdings with listed := lists done rest }
        (rest.map fun t => .move t newOwner) := by
  induction rest with
  | nil =>
    intro done l _ _ lists
    simp only [List.foldlM_nil, ensures_pure, List.append_nil, List.map_nil, run_nil, along_nil,
      and_self]
  | cons t rest ih =>
    intro done l hnodup howned lists
    obtain ⟨hfirst, hnodup⟩ := List.nodup_cons.mp hnodup
    simp only [List.foldlM_cons, recoverEntry, ensures_bind, ensures_expect, ensures_pure]
    intro token ht
    have hstep := recoverToken_holdings ht (howned t (by simp) token ht) newOwner base done rest
    -- the tokens still to come are not the one that moved
    have hrest : ∀ t' ∈ rest, ∀ token' ∈ (l.recoverToken initiator newOwner t token).tokens t',
        token'.owner = initiator := by
      intro t' ht' token' htoken'
      have hne : t' ≠ t := fun heq => hfirst (heq ▸ ht')
      refine howned t' (by simp [ht']) token' ?_
      rwa [← Store.set_of_ne (m := l.tokens) hne]
    refine (ih (done ++ [t]) _ hnodup hrest).mono fun l' h => ?_
    rw [List.append_assoc, List.singleton_append, hstep] at h
    refine ⟨h.1, ?_, h.2⟩
    exact held_ne_none (s := { State.empty with ledger := l }) ht

/-- The recovery loop leaves the token lists alone. -/
theorem recoverEntries_ownerTokens (ts : List Nat) (l : Ledger) :
    Ensures (ts.foldlM (recoverEntry initiator newOwner) l) fun l' =>
      l'.ownerTokens = l.ownerTokens := by
  refine ensures_foldlM (R := fun l l' : Ledger => l'.ownerTokens = l.ownerTokens) (fun _ => rfl)
    (fun h h' => h'.trans h) (fun t _ l => ?_) l
  simp only [recoverEntry, ensures_bind, ensures_expect, ensures_pure]
  exact fun _ _ => rfl

theorem recoverList_holdings (l : Ledger) (initiator newOwner : Address) (ts : List Nat) :
    (l.recoverList initiator newOwner ts).holdings =
      { l.holdings with listed := recoveredLists l.holdings.listed initiator newOwner ts [] } := by
  simp only [Ledger.recoverList, Ledger.holdings, Index.getD_set, Index.getD_remove,
    recoveredLists]
  rw [← Index.getD_remove]

theorem finalizeRecovery_refines {s : State} (hs : s.holdings.Consistent)
    (initiator : Address) (requestId : Nat) :
    Ensures (s.finalizeRecovery env initiator requestId)
      (Refines s ((RecoveryOp.finalizeRecovery initiator requestId).actions s)) := by
  simp only [finalizeRecovery, RecoveryBook.approvedRequest, ensures_steps]
  intro _ request hrequest _ _ _ l hl recovery _
  set ts := (s.ledger.ownerTokens initiator).getD [] with hts
  have hstart : recoveredLists s.holdings.listed initiator request.newOwner [] ts =
      s.holdings.listed := recoveredLists_start _ _ _
  have howned : ∀ t ∈ ts, ∀ token ∈ s.ledger.tokens t, token.owner = initiator := by
    intro t ht token htoken
    have howner := (hs.listed.mem initiator t).mp ht
    rw [hs.ownerOf_eq (Ledger.held_eq htoken)] at howner
    exact Option.some.inj howner
  have hloop := recoverEntries_holdings initiator request.newOwner s.holdings.listed ts [] s.ledger
    (hs.listed.nodup initiator) howned l hl
  have hbase : l.holdings.listed = s.holdings.listed := by
    have hlists := recoverEntries_ownerTokens initiator request.newOwner ts s.ledger l hl
    simp only [holdings, Ledger.holdings, hlists]
  rw [List.nil_append, hstart] at hloop
  rw [RecoveryOp.actions, hrequest]
  refine ⟨Eq.trans ?_ hloop.1, hloop.2⟩
  rw [← hbase]
  exact recoverList_holdings l initiator request.newOwner ts

/-! ## The rest -/

theorem holderOp_holdings (op : HolderOp) :
    Ensures (op.apply env s) fun s' => s'.holdings = s.holdings := by
  refine (holderOp_edits env s op).mono ?_
  rintro s' (hsame | ⟨t, token, token', ht, hedits, hledger⟩)
  · exact congrArg Ledger.holdings hsame
  · rw [holdings, hledger]
    refine Ledger.holdings_set_tokens ht ?_
    cases hedits <;> rfl

end State

open Sbt.State

/-- **An entry point that succeeds does its actions**, each of them enabled. -/
theorem Op.holdings_run (env : Env) {s : State} (hs : s.holdings.Consistent) (op : Op) :
    Ensures (op.apply env s) (Refines s (op.actions s)) := by
  have hkeeps := Op.keeps env s op
  rcases op with _ | op | (_ | _ | _ | ⟨initiator, requestId⟩) | op | _ | _
  case token =>
    refine (tokenOp_writes env s op).mono ?_
    rintro s' ⟨-, cache, -, h⟩
    exact h.refines
  case recovery.finalizeRecovery => exact finalizeRecovery_refines env hs initiator requestId
  case holder => exact (holderOp_holdings env s op).mono fun _ h => .of_eq h
  all_goals exact hkeeps.mono fun _ h => .of_eq (congrArg Ledger.holdings (h.ledger rfl))

namespace World

/-- Who holds what. -/
def holdings (w : World) : Holdings := w.state.holdings

/-- The actions a call stands for: none, if it aborts. -/
def actions (host : Host) (w : World) (call : Call) : List Action :=
  if w.Completes host call then call.op.actions w.state else []

/-- **A call is, in who holds what, its actions.** -/
theorem next_refines (host : Host) {w : World} (hw : w.holdings.Consistent) (call : Call) :
    State.Refines w.state (w.actions host call) (w.next host call).state := by
  by_cases hcall : w.Completes host call
  · rw [actions, if_pos hcall]
    obtain ⟨s, hs⟩ := hcall
    rw [next_state_of_ok hs]
    exact Op.holdings_run _ hw call.op s hs
  · rw [actions, if_neg hcall, next_state_of_not_completes hcall]
    exact .of_eq rfl

theorem holdings_next (host : Host) {w : World} (hw : w.holdings.Consistent) (call : Call) :
    (w.next host call).holdings = run Holdings.act w.holdings (w.actions host call) :=
  (next_refines host hw call).1

end World

end QuorumProof.Sbt
