import QuorumProof.Sbt.Refinement

/-!
# Sbt/Ownership — the ledger's redundant structures agree

`World.ownership_consistent`: after any run of calls `Token`, `Owner` and `OwnerTokens` say the
same.

`World.one_token_per_credential`: so does `OwnerCredential`, after any run whose moves find their
targets vacant; minting looks for a token of the same owner and credential, moving does not.
-/

namespace QuorumProof.Sbt

open Machine

namespace State

def getTokensByOwner (s : State) (owner : Address) : List Nat :=
  (s.ledger.ownerTokens owner).getD []

/-- **Ownership is consistent**: a token is stored iff its owner is, they name the same owner, the
token is once in that owner's list and in no other, and a list is as long as there are tokens of its
owner. -/
structure OwnershipConsistent (s : State) : Prop where
  stored_iff : ∀ t, (s.ledger.tokens t).isSome = true ↔ (s.ledger.owners t).isSome = true
  owner_eq : ∀ t token, s.ledger.tokens t = some token → s.ledger.owners t = some token.owner
  count_eq_one : ∀ t token, s.ledger.tokens t = some token →
    (s.getTokensByOwner token.owner).count t = 1
  not_mem : ∀ t token, s.ledger.tokens t = some token →
    ∀ a, a ≠ token.owner → t ∉ s.getTokensByOwner a
  length_eq : ∀ a, (s.getTokensByOwner a).length =
    Set.ncard {t | ∃ token, s.ledger.tokens t = some token ∧ token.owner = a}

/-- **One token for an owner and a credential**: no two tokens have both in common, and
`OwnerCredential` finds the one that has them. -/
structure OneTokenPerCredential (s : State) : Prop where
  injective : ∀ t t' token token', s.ledger.tokens t = some token →
    s.ledger.tokens t' = some token' → token.owner = token'.owner →
    token.credentialId = token'.credentialId → t = t'
  mapped_iff : ∀ o c t, s.ledger.ownerCredential (o, c) = some t ↔
    ∃ token, s.ledger.tokens t = some token ∧ token.owner = o ∧ token.credentialId = c

theorem ownerOf_eq_some {s : State} (hs : s.holdings.Consistent) {t : Nat} {a : Address} :
    s.ledger.owners t = some a ↔ ∃ token, s.ledger.tokens t = some token ∧ token.owner = a := by
  have howner : s.ledger.owners t = ((s.ledger.tokens t).map SoulboundToken.holding).map
    Holding.owner := hs.owner t
  rw [howner, Option.map_map, Option.map_eq_some_iff]
  rfl

theorem OwnershipConsistent.of_holdings {s : State} (hs : s.holdings.Consistent) :
    OwnershipConsistent s := by
  have hmem : ∀ a t, t ∈ s.getTokensByOwner a ↔
      ∃ token, s.ledger.tokens t = some token ∧ token.owner = a :=
    fun a t => (hs.listed.mem a t).trans (ownerOf_eq_some hs)
  have howned : ∀ {t token}, s.ledger.tokens t = some token →
      t ∈ s.getTokensByOwner token.owner :=
    fun ht => (hmem _ _).mpr ⟨_, ht, rfl⟩
  constructor
  · intro t
    rw [Option.isSome_iff_exists, Option.isSome_iff_exists]
    constructor
    · rintro ⟨token, ht⟩
      exact ⟨token.owner, (ownerOf_eq_some hs).mpr ⟨token, ht, rfl⟩⟩
    · rintro ⟨a, ha⟩
      obtain ⟨token, ht, -⟩ := (ownerOf_eq_some hs).mp ha
      exact ⟨token, ht⟩
  · exact fun t token ht => (ownerOf_eq_some hs).mpr ⟨token, ht, rfl⟩
  · exact fun t token ht => List.count_eq_one_of_mem (hs.listed.nodup token.owner) (howned ht)
  · intro t token ht a ha hlisted
    obtain ⟨token', ht', rfl⟩ := (hmem a t).mp hlisted
    exact ha (by rw [Option.mem_unique ht' ht])
  · intro a
    have hset : {t | s.ledger.owners t = some a} =
        {t | ∃ token, s.ledger.tokens t = some token ∧ token.owner = a} :=
      Set.ext fun t => ownerOf_eq_some hs
    rw [← hset]
    exact hs.listed.length_eq a

theorem OneTokenPerCredential.of_holdings {s : State} (hs : s.holdings.Unique) :
    OneTokenPerCredential s := by
  have hkey : ∀ {t o c}, (s.holdings.held t).map Holding.key = some (o, c) ↔
      ∃ token, s.ledger.tokens t = some token ∧ token.owner = o ∧ token.credentialId = c := by
    intro t o c
    simp [holdings, Ledger.holdings, Holding.key, SoulboundToken.holding]
  constructor
  · intro t t' token token' ht ht' howner hcredential
    exact Index.Tracks.injective hs (hkey.mpr ⟨token, ht, rfl, rfl⟩)
      (hkey.mpr ⟨token', ht', howner.symm, hcredential.symm⟩)
  · exact fun o c t => (hs (o, c) t).trans hkey

end State

namespace World

theorem consistent_deployed : deployed.holdings.Consistent where
  owner _ := rfl
  listed := ⟨fun _ => List.nodup_nil, fun _ _ => ⟨nofun, nofun⟩⟩
  fresh _ _ := rfl

theorem consistent_next (host : Host) {w : World} (hw : w.holdings.Consistent) (call : Call) :
    (w.next host call).holdings.Consistent := by
  rw [holdings_next host hw call]
  exact run_invariant (fun _ a h => h.act a) hw _

/-- **The owner index and the token lists agree with the tokens after every run.** -/
theorem consistent_after (host : Host) (calls : List Call) :
    (after host calls).holdings.Consistent :=
  run_invariant (I := fun w : World => w.holdings.Consistent)
    (fun _ call hw => consistent_next host hw call) consistent_deployed calls

/-- **The registry refines the ownership machine**: what it stores about owners after a run is what
enabled actions make of nothing. -/
theorem exists_actions_after (host : Host) (calls : List Call) :
    ∃ actions, Along Holdings.act Holdings.Enabled deployed.holdings actions ∧
      (after host calls).holdings = run Holdings.act deployed.holdings actions := by
  induction calls using List.reverseRecOn with
  | nil => exact ⟨[], trivial, rfl⟩
  | append_singleton calls call ih =>
    obtain ⟨actions, henabled, heq⟩ := ih
    obtain ⟨hrun, halong⟩ := next_refines host (consistent_after host calls) call
    refine ⟨actions ++ (after host calls).actions host call,
      (along_append _).mpr ⟨henabled, heq ▸ halong⟩, ?_⟩
    rw [run_append, ← heq, after, run_append]
    exact hrun

/-- **A number is one token's for good**: after more calls none has been taken back, and the token
under it is for the credential that it was for, or gone. -/
theorem tokens_continue (host : Host) (calls later : List Call) :
    (after host calls).holdings.Continues (after host (calls ++ later)).holdings := by
  have hkept := (along_true (next host) (after host calls) later).invariant_of_view
    (J := fun h => h.Consistent ∧ (after host calls).holdings.Continues h)
    (fun h a hJ _ => ⟨hJ.1.act a, hJ.2.trans (h.continues_act a)⟩)
    (fun w call hJ _ => ⟨holdings_next host hJ.1 call, along_true ..⟩)
    ⟨consistent_after host calls, le_rfl, fun _ _ => .inr rfl⟩
  rw [after, ← run_append] at hkept
  exact hkept.2

/-- **Ownership is consistent in every reachable state.** -/
theorem ownership_consistent (host : Host) (calls : List Call) :
    (after host calls).state.OwnershipConsistent :=
  .of_holdings (consistent_after host calls)

/-! ## A change of owner -/

section Change

variable {host : Host} {w : World} {call : Call} {t : Nat}

theorem mem_actions {a : Action} :
    a ∈ w.actions host call ↔ w.Completes host call ∧ a ∈ call.op.actions w.state := by
  unfold actions
  split
  next hcall => simp [hcall]
  next hcall => simp [hcall]

/-- **A call that changes the owner of a token moves it to somebody else.** -/
theorem exists_receiver_of_next (hw : w.holdings.Consistent) {o n : Address}
    (ho : w.state.ledger.owners t = some o)
    (hn : (w.next host call).state.ledger.owners t = some n) (hne : n ≠ o) :
    ∃ a ∈ w.actions host call, ∃ n, a.receiver t = some n ∧ n ≠ o := by
  have hlast : (run Holdings.act w.holdings (w.actions host call)).ownerOf t = some n := by
    rw [← holdings_next host hw call]
    exact hn
  obtain ⟨a, ha, hreceiver⟩ := Holdings.exists_receiver_eq (hw.le_count ho)
    (fun hsame => hne (Option.mem_unique hsame ho)) hlast
  exact ⟨a, ha, n, hreceiver, hne⟩

/-- **A call after which nobody owns a token any more burns it.** -/
theorem burn_mem_of_next (hw : w.holdings.Consistent) {o : Address}
    (ho : w.state.ledger.owners t = some o)
    (hn : (w.next host call).state.ledger.owners t = none) : .burn t ∈ w.actions host call := by
  have hlast : (run Holdings.act w.holdings (w.actions host call)).ownerOf t = none := by
    rw [← holdings_next host hw call]
    exact hn
  have hsome : w.holdings.ownerOf t ≠ none := fun hnone => absurd (ho.symm.trans hnone) (by simp)
  exact Holdings.burn_mem (hw.le_count ho) hsome hlast

end Change

/-! ## One token for an owner and a credential -/

/-- Every move of a signed call finds its target vacant, at its turn. -/
def FindsVacant (w : World) (call : Call) : Prop :=
  w.Signed call → Along Holdings.act Holdings.Vacant w.holdings (call.op.actions w.state)
  deriving Decidable

/-- The actions of a call are enabled and find their targets vacant. -/
theorem along_actions {host : Host} {w : World} {call : Call} (hw : w.holdings.Consistent)
    (hvacant : w.FindsVacant call) :
    Along Holdings.act (fun h a => h.Enabled a ∧ h.Vacant a) w.holdings (w.actions host call) := by
  refine (next_refines host hw call).2.and ?_
  unfold actions
  split
  next hcall => exact hvacant hcall.signed
  next => trivial

/-- **No two tokens of one owner for one credential**, in every state reached by a run whose moves
find their targets vacant. -/
theorem one_token_per_credential (host : Host) (calls : List Call)
    (hcalls : Along (next host) FindsVacant deployed calls) :
    (after host calls).state.OneTokenPerCredential := by
  have hunique := hcalls.invariant_of_view (J := fun h => h.Consistent ∧ h.Unique)
    (fun h a hJ ha => ⟨hJ.1.act a, hJ.2.act hJ.1 ha.1 ha.2⟩)
    (fun w call hJ hvacant => ⟨holdings_next host hJ.1 call, along_actions hJ.1 hvacant⟩)
    ⟨consistent_deployed, fun _ _ => ⟨nofun, nofun⟩⟩
  exact .of_holdings hunique.2

open Sbt.Sample in
/-- A token moved to somebody without one for the credential, and back. -/
theorem one_token_per_credential_moved : (after host
    [initialized, mint alice 1, adminTransfer 1 bob, adminTransfer 1 alice, adminTransfer 1 alice]
    ).state.OneTokenPerCredential :=
  one_token_per_credential host _ (by decide +kernel)

open Sbt.Sample in
/-- **Moving a token does not look at what the new owner has**: the two end up with one owner and
one credential. -/
theorem not_one_token_per_credential :
    ¬ ∀ host calls, (after host calls).state.OneTokenPerCredential := by
  intro h
  have hboth := (h host [initialized, mint alice 1, mint bob 1, adminTransfer 1 bob]).injective 1 2
    ⟨1, bob, 1, [], 1, none, none⟩ ⟨2, bob, 1, [], 1, none, none⟩ (by decide +kernel)
    (by decide +kernel) rfl rfl
  exact absurd hboth (by decide)

end World

end QuorumProof.Sbt
