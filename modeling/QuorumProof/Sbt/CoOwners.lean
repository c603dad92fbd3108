import QuorumProof.Sbt.Ownership

/-!
# Sbt/CoOwners — who consents to a co-owner

A co-owner is named by the owner and agrees to it, in one call or in two, and is dismissed with both
signatures.  Three things are not looked at: naming a new co-owner does not ask the old one; a
proposal stays when the token changes hands, so that the candidate may accept what a former owner
proposed; and moving a token does not compare the new owner with the co-owner.

The registry does not store who made a proposal.  `Noted` carries it along, and the results are
about runs in which the three things do not happen.
-/

namespace QuorumProof.Sbt

open Guarded Machine

/-! ## What a call does to co-owners -/

/-- What a token is tied to: its co-owner, and the token it is upgraded to. -/
def SoulboundToken.ties (token : SoulboundToken) : Option Address × Option Nat :=
  (token.coOwner, token.upgradedTo)

namespace Ledger

/-- A token has the ties it had, or is a new one without. -/
def KeepsTies (l : Ledger) (t : Nat) (token' : SoulboundToken) : Prop :=
  (∃ token, l.tokens t = some token ∧ token'.ties = token.ties) ∨
    l.tokenCount < t ∧ token'.ties = (none, none)

/-- Every token has the ties it had, or is a new one without. -/
structure TiesKept (l l' : Ledger) : Prop where
  tokens : ∀ t token', l'.tokens t = some token' → l.KeepsTies t token'
  count : l.tokenCount ≤ l'.tokenCount

namespace TiesKept

variable {l l' l'' : Ledger} {t : Nat} {token' : SoulboundToken}

theorem refl (l : Ledger) : TiesKept l l := ⟨fun _ token ht => .inl ⟨token, ht, rfl⟩, le_rfl⟩

theorem trans (h : TiesKept l l') (h' : TiesKept l' l'') : TiesKept l l'' where
  tokens t token'' ht'' := by
    rcases h'.tokens t token'' ht'' with ⟨token', ht', heq⟩ | ⟨hlt, hnone⟩
    · rw [KeepsTies, heq]
      exact h.tokens t token' ht'
    · exact .inr ⟨h.count.trans_lt hlt, hnone⟩
  count := h.count.trans h'.count

/-- A token is written. -/
theorem set (hcount : l.tokenCount ≤ l'.tokenCount) (htokens : l'.tokens = l.tokens.set t token')
    (h : l.KeepsTies t token') : TiesKept l l' where
  tokens t' r hr := by
    rcases Store.set_eq_some.mp (htokens ▸ hr) with ⟨rfl, rfl⟩ | ⟨-, hr⟩
    · exact h
    · exact .inl ⟨r, hr, rfl⟩
  count := hcount

/-- A token goes. -/
theorem remove (htokens : l'.tokens = l.tokens.remove t) (hcount : l'.tokenCount = l.tokenCount) :
    TiesKept l l' where
  tokens t' r hr := by
    rw [htokens, Store.remove_apply] at hr
    split at hr
    next => simp at hr
    next => exact .inl ⟨r, hr, rfl⟩
  count := hcount.ge

end TiesKept

end Ledger

open Sbt.Ledger

namespace State

theorem TokenWrites.ties {env : Env} {dual : Bool} {s s' : State} {as : List Action}
    (h : TokenWrites env dual s as s') : s.ledger.TiesKept s'.ledger := by
  refine h.relation (R := fun s s' => s.ledger.TiesKept s'.ledger) (fun _ => .refl _) .trans
    fun hwrite => ?_
  cases hwrite with
  | mint => exact .set (Nat.le_succ _) rfl (.inr ⟨Nat.lt_succ_self _, rfl⟩)
  | burn => exact .remove rfl rfl
  | move ht | dual ht | hand ht => exact .set le_rfl rfl (.inl ⟨_, ht, rfl⟩)

theorem finalizeRecovery_ties (env : Env) (s : State) (initiator : Address) (q : Nat) :
    Ensures (s.finalizeRecovery env initiator q) fun s' =>
      s.ledger.TiesKept s'.ledger := by
  simp only [finalizeRecovery, ensures_steps]
  intro _ request _ l hl _ _
  have hloop : s.ledger.TiesKept l := by
    refine ensures_foldlM (R := TiesKept) .refl .trans (fun t _ l => ?_) _ l hl
    simp only [recoverEntry, ensures_bind, ensures_expect, ensures_pure]
    exact fun token ht => .set le_rfl rfl (.inl ⟨token, ht, rfl⟩)
  exact ⟨hloop.tokens, hloop.count⟩

end State

open Sbt.State

/-- **What an entry point does to the ties of tokens**: it keeps them, or is a holder's and rewrites
a token. -/
theorem Op.ties_step (env : Env) (s : State) (op : Op) :
    Ensures (op.apply env s) fun s' => ∀ t token', s'.ledger.tokens t = some token' →
      s.ledger.KeepsTies t token' ∨ ∃ op' token, op = .holder op' ∧
        s.ledger.tokens t = some token ∧ op'.Edits env.auths s t token token' := by
  have hkeeps := Op.keeps env s op
  rcases op with _ | op | (_ | _ | _ | ⟨initiator, q⟩) | op | _ | _
  case token =>
    refine (s.tokenOp_writes env op).mono ?_
    rintro s' ⟨-, cache, -, h⟩ t token' ht'
    exact .inl (h.ties.tokens t token' ht')
  case recovery.finalizeRecovery =>
    exact (s.finalizeRecovery_ties env initiator q).mono fun _ h t token' ht' =>
      .inl (h.tokens t token' ht')
  case holder =>
    refine (s.holderOp_edits env op).mono ?_
    rintro s' (hsame | ⟨t₀, token, token₀, ht, hedits, hledger⟩) t token' ht'
    · exact .inl (.inl ⟨token', hsame ▸ ht', rfl⟩)
    rcases Store.set_eq_some.mp (hledger ▸ ht') with ⟨rfl, rfl⟩ | ⟨-, ht'⟩
    · exact .inr ⟨op, token, rfl, ht, hedits⟩
    · exact .inl (.inl ⟨token', ht', rfl⟩)
  all_goals exact hkeeps.mono fun _ h t token' ht' => .inl (.inl ⟨token', h.ledger rfl ▸ ht', rfl⟩)

/-- The step of a call; one that aborts keeps the ties. -/
theorem World.ties_next {host : Host} {w : World} {call : Call} {t : Nat}
    {token' : SoulboundToken} (ht' : (w.next host call).state.ledger.tokens t = some token') :
    w.state.ledger.KeepsTies t token' ∨ w.Completes host call ∧ ∃ op token,
      call.op = .holder op ∧ w.state.ledger.tokens t = some token ∧
        op.Edits call.auths w.state t token token' := by
  by_cases hcall : w.Completes host call
  · have hcompletes := hcall
    obtain ⟨s, hs⟩ := hcall
    rw [next_state_of_ok hs] at ht'
    exact (Op.ties_step _ _ _ s hs t token' ht').imp_right fun h => ⟨hcompletes, h⟩
  · rw [next_state_of_not_completes hcall] at ht'
    exact .inl (.inl ⟨token', ht', rfl⟩)

/-! ## Consent -/

namespace World

/-- An owner proposed a co-owner for a token, or set one, in a call that went through. -/
def Proposed (host : Host) (calls : List Call) (t : Nat) (owner coOwner : Address) : Prop :=
  ∃ before call rest, calls = before ++ call :: rest ∧ (after host before).Completes host call ∧
    owner ∈ call.auths ∧ (call.op = .holder (.proposeCoOwner owner t coOwner) ∨
      call.op = .holder (.setCoOwner owner t coOwner))

/-- **No co-owner goes unasked**: a call after which a token has another co-owner, or none, is
authorized by the one it had. -/
def DismissedByConsent (host : Host) (calls : List Call) : Prop :=
  ∀ before call rest t token token' x, calls = before ++ call :: rest →
    (after host before).state.ledger.tokens t = some token →
    ((after host before).next host call).state.ledger.tokens t = some token' →
    token.coOwner = some x → token'.coOwner ≠ some x → x ∈ call.auths

/-- **No co-owner comes unasked**: a call that names a co-owner is authorized by them, and by then
the owner of the token has proposed them. -/
def NamedByConsent (host : Host) (calls : List Call) : Prop :=
  ∀ before call rest t token' y, calls = before ++ call :: rest →
    ((after host before).next host call).state.ledger.tokens t = some token' →
    token'.coOwner = some y →
    (∀ token, (after host before).state.ledger.tokens t = some token → token.coOwner ≠ some y) →
    y ∈ call.auths ∧ Proposed host (before ++ [call]) t token'.owner y

/-- **Owner and co-owner are two.** -/
def Apart (w : World) : Prop :=
  ∀ t token, w.state.ledger.tokens t = some token → token.coOwner ≠ some token.owner

theorem Proposed.append {host : Host} {calls : List Call} {t : Nat} {owner coOwner : Address}
    (h : Proposed host calls t owner coOwner) (more : List Call) :
    Proposed host (calls ++ more) t owner coOwner := by
  obtain ⟨before, call, rest, rfl, h⟩ := h
  exact ⟨before, call, rest ++ more, by simp, h⟩

end World

/-! ## Who made a proposal -/

/-- The registry, with who made the last proposal for each token. -/
structure Noted where
  world : World
  proposer : Store Nat Address

/-- Note who makes a proposal. -/
def Op.note (proposer : Store Nat Address) : Op → Store Nat Address
  | holder (.proposeCoOwner owner t _) => proposer.set t owner
  | _ => proposer

theorem Op.note_eq_self {op : Op} (hop : op.writesProposals = false) (p : Store Nat Address) :
    op.note p = p := by
  unfold Op.note
  split
  next => simp [Op.writesProposals] at hop
  next => rfl

/-- A proposal was there before the call, by the same proposer, or is made by it. -/
theorem World.proposal_next {host : Host} {w : World} {call : Call} {t : Nat} {y : Address}
    (hy : (w.next host call).state.annex.coOwnerProposal t = some y) :
    (w.state.annex.coOwnerProposal t = some y ∧
      (w.Completes host call → ∀ p, call.op.note p t = p t)) ∨
    w.Completes host call ∧ ∃ owner ∈ call.auths,
      call.op = .holder (.proposeCoOwner owner t y) := by
  by_cases hop : call.op.writesProposals = false
  · rw [(next_keeps host w call).proposals hop] at hy
    exact .inl ⟨hy, fun _ p => by rw [Op.note_eq_self hop]⟩
  by_cases hcall : w.Completes host call
  case neg =>
    rw [next_state_of_not_completes hcall] at hy
    exact .inl ⟨hy, fun h => absurd h hcall⟩
  have hcompletes := hcall
  obtain ⟨s, hs⟩ := hcall
  rw [next_state_of_ok hs] at hy
  unfold Op.writesProposals at hop
  split at hop
  next owner t' candidate heq =>
    rw [heq, Op.apply, HolderOp.apply] at hs
    simp only [proposeCoOwner, bind_eq_ok, pure_eq_ok, requireAuth_eq_ok] at hs
    obtain ⟨_, hauth, _, _, _, _, _, _, rfl⟩ := hs
    rcases Store.set_eq_some.mp hy with ⟨rfl, rfl⟩ | ⟨hne, hy⟩
    · exact .inr ⟨hcompletes, owner, hauth, heq⟩
    · exact .inl ⟨hy, fun _ p => by rw [heq]; exact Store.set_of_ne hne⟩
  next candidate t' heq =>
    rw [heq, Op.apply, HolderOp.apply] at hs
    simp only [acceptCoOwner, assignCoOwner, bind_eq_ok, pure_eq_ok] at hs
    obtain ⟨_, _, _, _, _, _, _, _, _, _, rfl⟩ := hs
    refine .inl ⟨?_, fun _ p => by rw [heq]; rfl⟩
    change w.state.annex.coOwnerProposal.remove t' t = some y at hy
    rw [Store.remove_apply] at hy
    split at hy
    · simp at hy
    · exact hy
  next => exact absurd rfl hop

namespace Noted

variable (host : Host)

/-- Nothing has been proposed. -/
def deployed : Noted := ⟨World.deployed, fun _ => none⟩

/-- Make a call, and note who proposes. -/
def next (n : Noted) (call : Call) : Noted where
  world := n.world.next host call
  proposer := if n.world.Completes host call then call.op.note n.proposer else n.proposer

/-- The registry after a run, with its proposers. -/
def after (calls : List Call) : Noted := run (next host) deployed calls

theorem after_world (calls : List Call) : (after host calls).world = World.after host calls :=
  run_proj (fun _ _ => rfl) _ calls

/-- **Whoever is noted for a proposal made it.** -/
theorem proposed_after (calls : List Call) {t : Nat} {y : Address}
    (hy : (after host calls).world.state.annex.coOwnerProposal t = some y) :
    ∃ o, (after host calls).proposer t = some o ∧ World.Proposed host calls t o y := by
  induction calls using List.reverseRecOn generalizing t y with
  | nil => cases hy
  | append_singleton calls call ih =>
    have hnext : after host (calls ++ [call]) = (after host calls).next host call :=
      run_append _ _ _ _
    rw [hnext] at hy ⊢
    rcases World.proposal_next hy with ⟨hold, hsame⟩ | ⟨hcall, owner, hauth, hop⟩
    · obtain ⟨o, ho, hproposed⟩ := ih hold
      refine ⟨o, ?_, hproposed.append [call]⟩
      simp only [next]
      split
      next hcall => rw [hsame hcall, ho]
      next => exact ho
    · refine ⟨owner, ?_, calls, call, [], rfl, after_world host calls ▸ hcall, hauth, .inl hop⟩
      simp only [next, if_pos hcall, hop]
      exact Store.set_self _ _ _

/-! ## Runs with consent -/

/-- The co-owner of a token, if somebody else, agrees to another one. -/
def Yields (n : Noted) (auths : List Address) (t : Nat) (coOwner : Address) : Prop :=
  ∀ token ∈ n.world.state.ledger.tokens t, ∀ x ∈ token.coOwner, x = coOwner ∨ x ∈ auths
  deriving Decidable

/-- An action moves a token to its co-owner. -/
def Merges (s : State) : Action → Prop
  | .move t newOwner | .hand t newOwner =>
    ∃ token ∈ s.ledger.tokens t, token.coOwner = some newOwner
  | .mint .. | .burn _ => False

instance (s : State) (a : Action) : Decidable (Merges s a) := by
  rcases a with _ | _ | _ | _ <;> unfold Merges <;> infer_instance

/-- **What the registry does not look at**: a co-owner yields to a new one, what is accepted was
proposed by the owner, and no token is moved to its co-owner. -/
def Agreed (n : Noted) (auths : List Address) : Op → Prop
  | .holder (.setCoOwner _ t coOwner) => n.Yields auths t coOwner
  | .holder (.acceptCoOwner candidate t) => n.Yields auths t candidate ∧
    ∀ token ∈ n.world.state.ledger.tokens t, n.proposer t = some token.owner
  | op => ∀ a ∈ op.actions n.world.state, ¬ Merges n.world.state a

instance (n : Noted) (auths : List Address) (op : Op) : Decidable (n.Agreed auths op) := by
  unfold Agreed
  split <;> infer_instance

/-- A call that goes through is agreed to. -/
def Consents (n : Noted) (call : Call) : Prop :=
  n.world.Completes host call → n.Agreed call.auths call.op
  deriving Decidable

section Agreed

variable {n : Noted} {auths : List Address} {t : Nat} {token : SoulboundToken} {coOwner : Address}

/-- A new co-owner is named with the consent of the old one. -/
theorem Agreed.yields {op : HolderOp} (h : n.Agreed auths (.holder op)) {owner : Address}
    (hop : op = .setCoOwner owner t coOwner ∨ op = .acceptCoOwner coOwner t) :
    n.Yields auths t coOwner := by
  rcases hop with rfl | rfl
  · exact h
  · exact h.1

/-- A token that has another owner after the actions of an agreed call is not moved to its
co-owner. -/
theorem Agreed.not_merged {op : Op} (h : n.Agreed auths op) {a : Action} {newOwner : Address}
    (ha : a ∈ op.actions n.world.state) (hmoves : a.receiver t = some newOwner)
    (ht : n.world.state.ledger.tokens t = some token) : token.coOwner ≠ some newOwner := by
  have hmerges : ¬ Merges n.world.state a := by
    unfold Agreed at h
    split at h
    · exact absurd ha List.not_mem_nil
    · exact absurd ha List.not_mem_nil
    · exact h a ha
  intro hco
  cases a with
  | mint | burn => simp [Action.receiver] at hmoves
  | move t' newOwner' | hand t' newOwner' =>
    obtain ⟨rfl, hreceiver⟩ := Option.ite_none_right_eq_some.mp hmoves
    exact hmerges ⟨token, ht, hco.trans hreceiver.symm⟩

end Agreed

end Noted

namespace World

theorem tokens_eq_none {w : World} (hw : w.holdings.Consistent) {t : Nat}
    (ht : w.state.ledger.tokenCount < t) : w.state.ledger.tokens t = none :=
  Option.map_eq_none_iff.mp (hw.fresh t ht)

/-- An existing token whose co-owner changes is given one or loses one. -/
theorem dismissed_next {host : Host} {n : Noted} {call : Call} {t : Nat}
    {token token' : SoulboundToken} {x : Address} (hw : n.world.holdings.Consistent)
    (hconsents : n.Consents host call) (ht : n.world.state.ledger.tokens t = some token)
    (ht' : (n.world.next host call).state.ledger.tokens t = some token')
    (hx : token.coOwner = some x) (hne : token'.coOwner ≠ some x) : x ∈ call.auths := by
  rcases ties_next ht' with (⟨r, hr, heq⟩ | ⟨hlt, -⟩) | ⟨hcall, op, r, hop, hr, hedits⟩
  · obtain rfl := Option.mem_unique ht hr
    exact absurd ((congrArg Prod.fst heq).trans hx) hne
  · cases ht.symm.trans (tokens_eq_none hw hlt)
  obtain rfl := Option.mem_unique ht hr
  have hagreed := hop ▸ hconsents hcall
  cases hedits with
  | version | upgradedTo => exact absurd hx hne
  | named coOwner _ _ hnamed =>
    refine (hagreed.yields (hnamed.imp And.left And.left) token ht x hx).resolve_left ?_
    rintro rfl
    exact hne rfl
  | dismissed coOwner hco hauth =>
    cases hx.symm.trans hco
    exact hauth

/-- A co-owner that was not there before the call authorized it, and was proposed by the owner. -/
theorem named_next {host : Host} {before : List Call} {call : Call} {t : Nat}
    {token' : SoulboundToken} {y : Address}
    (hconsents : (Noted.after host before).Consents host call)
    (ht' : ((Noted.after host before).world.next host call).state.ledger.tokens t = some token')
    (hy : token'.coOwner = some y)
    (hnew : ∀ token, (Noted.after host before).world.state.ledger.tokens t = some token →
      token.coOwner ≠ some y) :
    y ∈ call.auths ∧ Proposed host (before ++ [call]) t token'.owner y := by
  rcases ties_next ht' with (⟨token, ht, heq⟩ | ⟨-, hnone⟩) |
    ⟨hcall, op, token, hop, ht, hedits⟩
  · exact absurd ((congrArg Prod.fst heq).symm.trans hy) (hnew token ht)
  · cases hy.symm.trans (congrArg Prod.fst hnone)
  have hagreed := hop ▸ hconsents hcall
  cases hedits with
  | version | upgradedTo => exact absurd hy (hnew token ht)
  | named coOwner _ hauth hnamed =>
    cases hy
    refine ⟨hauth, ?_⟩
    rcases hnamed with ⟨rfl, howner⟩ | ⟨rfl, hproposal⟩
    · rw [Noted.after_world] at hcall
      exact ⟨before, call, [], rfl, hcall, howner, .inr hop⟩
    · -- What is accepted was proposed by whoever is noted, and that is the owner.
      obtain ⟨o, ho, hproposed⟩ := Noted.proposed_after host before hproposal
      obtain rfl := Option.mem_unique (hagreed.2 token ht) ho
      exact hproposed.append [call]
  | dismissed => cases hy

/-- A call that is agreed to keeps owner and co-owner apart. -/
theorem apart_next {host : Host} {n : Noted} {call : Call} (hw : n.world.holdings.Consistent)
    (hapart : n.world.Apart) (hconsents : n.Consents host call) :
    (n.world.next host call).Apart := by
  intro t token' ht' hco'
  rcases ties_next ht' with (⟨token, ht, heq⟩ | ⟨-, hnone⟩) | ⟨-, op, token, -, ht, hedits⟩
  · replace hco' := (congrArg Prod.fst heq).symm.trans hco'
    have howner : n.world.state.ledger.owners t = some token.owner :=
      (State.ownerOf_eq_some hw).mpr ⟨token, ht, rfl⟩
    have howner' : (n.world.next host call).state.ledger.owners t = some token'.owner :=
      (State.ownerOf_eq_some (consistent_next host hw call)).mpr ⟨token', ht', rfl⟩
    have hmoved : n.world.holdings.ownerOf t ≠ some token'.owner := by
      intro hsame
      have hsame' : token.owner = token'.owner := Option.mem_unique howner hsame
      exact hapart t token ht (hsame' ▸ hco')
    obtain ⟨a, ha, hreceiver⟩ := Holdings.exists_receiver_eq (hw.le_count howner) hmoved
      (by rw [← holdings_next host hw call]; exact howner')
    obtain ⟨hcall, ha⟩ := mem_actions.mp ha
    exact (hconsents hcall).not_merged ha hreceiver ht hco'
  · cases hco'.symm.trans (congrArg Prod.fst hnone)
  cases hedits with
  | version | upgradedTo => exact hapart t token ht hco'
  | named coOwner hne => exact hne (Option.some.inj hco')
  | dismissed => cases hco'

/-- **Co-owners come and go by consent, and no owner is their own co-owner**, in every run in which
a co-owner yields to a new one, only the owner's proposals are accepted, and no token is moved to
its co-owner. -/
theorem co_owners_consent (host : Host) (calls : List Call)
    (hcalls : Along (Noted.next host) (Noted.Consents host) .deployed calls) :
    DismissedByConsent host calls ∧ NamedByConsent host calls ∧ (after host calls).Apart := by
  refine ⟨?_, ?_, ?_⟩
  · rintro before call rest t token token' x rfl ht ht' hx hne
    obtain ⟨-, hconsents, -⟩ := (along_append _).mp hcalls
    rw [← Noted.after_world] at ht ht'
    have hw : (Noted.after host before).world.holdings.Consistent := by
      rw [Noted.after_world]
      exact consistent_after host before
    exact dismissed_next hw hconsents ht ht' hx hne
  · rintro before call rest t token' y rfl ht' hy hnew
    obtain ⟨-, hconsents, -⟩ := (along_append _).mp hcalls
    rw [← Noted.after_world] at ht' hnew
    exact named_next hconsents ht' hy hnew
  · have hboth := hcalls.invariant
      (I := fun n => n.world.holdings.Consistent ∧ n.world.Apart)
      (fun n call hn hconsents => ⟨consistent_next host hn.1 call,
        apart_next hn.1 hn.2 hconsents⟩)
      ⟨consistent_deployed, fun _ _ ht => by cases ht⟩
    rw [← Noted.after_world]
    exact hboth.2

end World

/-! ## Sample runs -/

namespace Sample

/-- The owner proposes a co-owner. -/
def propose (owner : Address) (t : Nat) (candidate : Address) : Call :=
  callBy [owner] (.holder (.proposeCoOwner owner t candidate))

/-- The candidate accepts. -/
def accept (candidate : Address) (t : Nat) : Call :=
  callBy [candidate] (.holder (.acceptCoOwner candidate t))

/-- Owner and co-owner agree on the co-owner. -/
def nameCoOwner (owner : Address) (t : Nat) (coOwner : Address) : Call :=
  callBy [owner, coOwner] (.holder (.setCoOwner owner t coOwner))

/-- Owner and co-owner agree to part. -/
def dismiss (owner coOwner : Address) (t : Nat) : Call :=
  callBy [owner, coOwner] (.holder (.removeCoOwner owner coOwner t))

/-- A co-owner is proposed, accepts, and is dismissed for another one. -/
def changedCoOwner : List Call :=
  [initialized, mint alice 1, propose alice 1 bob, accept bob 1, dismiss alice bob 1,
    nameCoOwner alice 1 carol]

end Sample

namespace World

open Sbt.Sample in
theorem co_owners_consent_changed :
    DismissedByConsent host changedCoOwner ∧ NamedByConsent host changedCoOwner ∧
      (after host changedCoOwner).Apart :=
  co_owners_consent host changedCoOwner (by decide +kernel)

open Sbt.Sample in
/-- **None of the three holds of every run**: a co-owner is replaced without being asked, a former
owner's proposal is accepted, and a token is moved to its co-owner. -/
theorem not_co_owners_consent :
    (¬ ∀ host calls, DismissedByConsent host calls) ∧ (¬ ∀ host calls, NamedByConsent host calls) ∧
      ¬ ∀ host calls, (after host calls).Apart := by
  refine ⟨fun h => ?_, fun h => ?_, fun h => ?_⟩
  · have hasked := h host _ [initialized, mint alice 1, nameCoOwner alice 1 bob]
      (nameCoOwner alice 1 carol) [] 1 ⟨1, alice, 1, [], 1, none, some bob⟩
      ⟨1, alice, 1, [], 1, none, some carol⟩ bob rfl (by decide +kernel) (by decide +kernel) rfl
      (by decide)
    exact absurd hasked (by decide)
  · obtain ⟨-, before, call, rest, hrun, -, -, hop⟩ := h host _
      [initialized, mint alice 1, propose alice 1 carol, adminTransfer 1 bob] (accept carol 1) [] 1
      ⟨1, bob, 1, [], 1, none, some carol⟩ carol rfl (by decide +kernel) rfl
      (fun token ht hco => absurd (congrArg (Option.map (·.coOwner)) ht) (by
        rw [Option.map_some, hco]
        decide +kernel))
    have hmem : call ∈ before ++ call :: rest := List.mem_append_right _ List.mem_cons_self
    simp only [← hrun, List.cons_append, List.nil_append, List.mem_cons, List.not_mem_nil,
      or_false] at hmem
    rcases hmem with rfl | rfl | rfl | rfl | rfl <;>
      simp [initialized, Sample.mint, propose, adminTransfer, accept, callBy, alice, bob] at hop
  · exact h host [initialized, mint alice 1, nameCoOwner alice 1 bob, adminTransfer 1 bob] 1
      ⟨1, bob, 1, [], 1, none, some bob⟩ (by decide +kernel) rfl

end World

end QuorumProof.Sbt
