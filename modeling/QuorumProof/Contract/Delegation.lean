import QuorumProof.Contract.SliceInvariant

/-!
# Contract/Delegation — who votes for a member of a slice

A member names a delegate, and the delegate is looked up by a second record that leads back to the
member.  The two undo each other as long as a member revokes a delegation before naming somebody
else, and two members do not share a delegate: `delegate_slice_vote` overwrites the record of the
second kind, and leaves the one of the delegate it replaces.
-/

namespace QuorumProof

open Guarded

/-- A delegation that has not expired. -/
def SliceDelegation.Unexpired (now : Nat) (delegation : SliceDelegation) : Prop :=
  ∀ expiry ∈ delegation.expiresAt, now < expiry
  deriving Decidable

namespace SliceBook

variable {b b' : SliceBook}

/-! ## Members -/

/-- The list of a slice's attestors and the stored set of them agree. -/
def Enrolled (b : SliceBook) : Prop :=
  ∀ id slice, b.slices id = some slice →
    slice.attestors.Nodup ∧ b.attestorSet id = some slice.attestors.toFinset

variable {sliceId : Nat} {delegator : Address}

/-- The check of `resolve_attestor` is membership in the list. -/
theorem Enrolled.inSlice_iff (h : b.Enrolled) {slice : QuorumSlice}
    (hslice : b.slices sliceId = some slice) (a : Address) :
    b.inSlice sliceId slice a = true ↔ a ∈ slice.attestors := by
  rw [inSlice, (h _ _ hslice).2]
  simp

/-! ## Delegates -/

/-- Whom a member names, with the slice. -/
def named (b : SliceBook) : Store (Nat × Address) (Nat × Address) :=
  fun k => (b.sliceDelegation k).map fun delegation => (k.1, delegation.delegate)

/-- Whom a delegate is led back to, with the slice. -/
def served (b : SliceBook) : Store (Nat × Address) (Nat × Address) :=
  fun k => (b.delegateOf k).map fun delegator => (k.1, delegator)

/-- **A delegate is led back to a member exactly when the member names them.** -/
def Paired (b : SliceBook) : Prop := Index.Tracks b.served b.named

theorem Paired.delegateOf_iff (h : b.Paired) {delegate : Address} :
    b.delegateOf (sliceId, delegate) = some delegator ↔
      ∃ delegation, b.sliceDelegation (sliceId, delegator) = some delegation ∧
        delegation.delegate = delegate := by
  have hpair := h (sliceId, delegate) (sliceId, delegator)
  simpa [served, named] using hpair

variable {delegation : SliceDelegation}

/-- A member names a delegate, or names them again. -/
theorem Paired.delegate (h : b.Paired)
    (hdelegator : ∀ d ∈ b.sliceDelegation (sliceId, delegator), d.delegate = delegation.delegate)
    (hdelegate : ∀ d ∈ b.delegateOf (sliceId, delegation.delegate), d = delegator)
    (hdelegation : b'.sliceDelegation = b.sliceDelegation.set (sliceId, delegator) delegation)
    (hdelegateOf : b'.delegateOf =
      b.delegateOf.set (sliceId, delegation.delegate) delegator) : b'.Paired := by
  have hserved : b'.served = b.served.set (sliceId, delegation.delegate) (sliceId, delegator) := by
    funext k
    simp only [served, hdelegateOf, Store.set_apply]
    split
    next heq => rw [heq]; rfl
    next => rfl
  have hnamed : b'.named = b.named.set (sliceId, delegator) (sliceId, delegation.delegate) := by
    funext k
    simp only [named, hdelegation, Store.set_apply]
    split
    next heq => rw [heq]; rfl
    next => rfl
  rw [Paired, hserved, hnamed]
  refine h.assign ?_ ?_
  · simpa [served] using hdelegate
  · simpa [named] using hdelegator

/-- A member revokes a delegation. -/
theorem Paired.revoke (h : b.Paired)
    (hstored : b.sliceDelegation (sliceId, delegator) = some delegation)
    (hdelegation : b'.sliceDelegation = b.sliceDelegation.remove (sliceId, delegator))
    (hdelegateOf : b'.delegateOf = b.delegateOf.remove (sliceId, delegation.delegate)) :
    b'.Paired := by
  have hserved : b'.served = b.served.remove (sliceId, delegation.delegate) := by
    funext k
    simp only [served, hdelegateOf, Store.remove_apply]
    split <;> rfl
  have hnamed : b'.named = b.named.remove (sliceId, delegator) := by
    funext k
    simp only [named, hdelegation, Store.remove_apply]
    split <;> rfl
  rw [Paired, hserved, hnamed]
  exact h.remove (by simp [named, hstored])

end SliceBook

namespace State

variable {s : State}

/-! ## Resolving a caller -/

theorem requireDelegationLive_eq_ok {env : Env} {u : Unit} :
    requireDelegationLive env delegation = .ok u ↔ delegation.Unexpired env.now := by
  unfold requireDelegationLive SliceDelegation.Unexpired
  split
  next heq => simp [heq]
  next expiry heq => simp [heq, require_eq_ok]

/-- A member names somebody, and the delegation has not expired. -/
structure Delegates (env : Env) (s : State) (sliceId : Nat) (slice : QuorumSlice)
    (delegator delegate : Address) : Prop where
  member : delegator ∈ slice.attestors
  named : ∃ delegation, s.slices.sliceDelegation (sliceId, delegator) = some delegation ∧
    delegation.delegate = delegate ∧ delegation.Unexpired env.now

/-- **Whom a caller from outside the slice votes for.** -/
theorem resolveAttestor_eq_ok {env : Env} {sliceId : Nat} {slice : QuorumSlice}
    {caller delegator : Address} (hslice : s.slices.slices sliceId = some slice)
    (henrolled : s.slices.Enrolled) (hpaired : s.slices.Paired)
    (hcaller : caller ∉ slice.attestors) :
    s.resolveAttestor env caller sliceId slice = .ok delegator ↔
      s.Delegates env sliceId slice delegator caller := by
  have hin := henrolled.inSlice_iff hslice
  have hout : ¬ s.slices.inSlice sliceId slice caller = true := fun h => hcaller ((hin caller).mp h)
  rw [resolveAttestor, if_neg hout]
  simp only [bind_eq_ok, expect_eq_ok, require_eq_ok, pure_eq_ok, requireDelegationLive_eq_ok, hin]
  constructor
  · rintro ⟨d, hserved, -, hmember, delegation, hstored, -, hlive, rfl⟩
    obtain ⟨delegation', hstored', hnames⟩ := hpaired.delegateOf_iff.mp hserved
    obtain rfl := Option.mem_unique hstored hstored'
    exact ⟨hmember, delegation, hstored, hnames, hlive⟩
  · rintro ⟨hmember, delegation, hstored, hnames, hlive⟩
    exact ⟨delegator, hpaired.delegateOf_iff.mpr ⟨delegation, hstored, hnames⟩, (), hmember,
      delegation, hstored, (), hlive, rfl⟩

end State

/-! ## Every operation -/

/-- The delegation an operation makes: its slice, the delegator and the delegate. -/
def Op.delegation : Op → Option (Nat × Address × Address)
  | slice (.delegateSliceVote delegator sliceId delegate _) => some (sliceId, delegator, delegate)
  | _ => none

/-- The operations that keep the two records of a delegation together: a delegator who has a
delegate names the same one, a delegate serves nobody else, and nobody is replaced by somebody
else. -/
def Op.KeepsDelegations (s : State) (op : Op) : Prop :=
  (∀ change ∈ op.replaced, change.2 = change.1) ∧
  ∀ d ∈ op.delegation,
    (∀ delegation ∈ s.slices.sliceDelegation (d.1, d.2.1), delegation.delegate = d.2.2) ∧
    ∀ delegator ∈ s.slices.delegateOf (d.1, d.2.2), delegator = d.2.1
  deriving Decidable

theorem SliceOp.DelegationStep.paired {op : SliceOp} {s : State} {b : SliceBook}
    (h : op.DelegationStep s.slices b) (hop : Op.KeepsDelegations s (.slice op))
    (hs : s.slices.Paired) : b.Paired := by
  cases h with
  | kept hdelegation hdelegateOf =>
    unfold SliceBook.Paired SliceBook.served SliceBook.named
    rw [hdelegation, hdelegateOf]
    exact hs
  | delegated hdelegate hdelegation hdelegateOf =>
    subst hdelegate
    obtain ⟨hdelegator, hdelegate⟩ := hop.2 _ rfl
    exact hs.delegate hdelegator hdelegate hdelegation hdelegateOf
  | revoked hstored hdelegation hdelegateOf => exact hs.revoke hstored hdelegation hdelegateOf

/-- **Members stay enrolled and delegations paired**, one operation at a time. -/
theorem Op.delegations (env : Env) {s : State} {op : Op} (hop : op.KeepsDelegations s)
    (h : s.slices.Enrolled ∧ s.slices.Paired) :
    Ensures (op.apply env s) fun s' => s'.slices.Enrolled ∧ s'.slices.Paired := by
  refine op.keeps_book (P := fun b => b.Enrolled ∧ b.Paired) env (fun _ h => h) ?_ h
  rintro op rfl s' hstep
  refine ⟨?_, hstep.delegations.paired hop h.2⟩
  refine hstep.book.forall_entry (P := fun _ e => ∀ slice ∈ e.slice,
    slice.attestors.Nodup ∧ e.set = some slice.attestors.toFinset) h.1 ?_ ?_
  · rintro slice type haccepts - _ ⟨⟩
    exact ⟨haccepts.nodup, rfl⟩
  · intro id slice e hslice hedits
    exact hedits.enrolled hop.1 (h.1 id slice hslice).1 (h.1 id slice hslice).2

/-- **Delegated votes are the members' own**: a caller from outside a slice votes for a member who
names them by an unexpired delegation, and whoever is so named can vote. -/
def State.VotesAsDelegated (s : State) : Prop :=
  ∀ (env : Env) (sliceId : Nat) (slice : QuorumSlice), s.slices.slices sliceId = some slice →
    ∀ caller ∉ slice.attestors,
      (∀ delegator, s.resolveAttestor env caller sliceId slice = .ok delegator →
        s.Delegates env sliceId slice delegator caller) ∧
      ∀ delegator, s.Delegates env sliceId slice delegator caller →
        ∃ voter, s.resolveAttestor env caller sliceId slice = .ok voter

namespace World

/-- **Delegated votes are the members' own** in every state of every run in which no delegator is
given a second delegate, no delegate a second delegator, and nobody is replaced. -/
theorem votes_as_delegated (host : Host) (calls : List Call)
    (h : Machine.Along (next host) (Meets fun s op => op.KeepsDelegations s) deployed calls) :
    (after host calls).state.VotesAsDelegated := by
  obtain ⟨henrolled, hpaired⟩ := h.invariant
    (I := fun w : World => w.state.slices.Enrolled ∧ w.state.slices.Paired)
    (fun w call hw hop => next_of_ensures
      (Q := fun s' => s'.slices.Enrolled ∧ s'.slices.Paired)
      (Op.delegations (w.env host call) hop hw) hw)
    ⟨nofun, fun _ _ => ⟨nofun, nofun⟩⟩
  intro env sliceId slice hslice caller hcaller
  have hresolve : ∀ delegator, _ ↔ (after host calls).state.Delegates env sliceId slice delegator
      caller := fun _ => State.resolveAttestor_eq_ok hslice henrolled hpaired hcaller
  exact ⟨fun delegator => (hresolve delegator).mp,
    fun delegator hd => ⟨delegator, (hresolve delegator).mpr hd⟩⟩

open Sample in
/-- A member delegates to somebody outside the slice, who then votes for them. -/
theorem votes_as_delegated_delegate :
    ∃ calls env slice, (after host calls).state.slices.slices 1 = some slice ∧
      (after host calls).state.resolveAttestor env bob 1 slice = .ok alice ∧
      (after host calls).state.Delegates env 1 slice alice bob :=
  ⟨[createSlice [alice] [10] 10,
      call alice (.slice (.delegateSliceVote alice 1 bob (some 5))),
      call alice (.slice (.revokeSliceDelegation alice 1)),
      call alice (.slice (.delegateSliceVote alice 1 bob none))],
    { host with now := 7, auths := [] }, _, rfl, by decide +kernel,
    (votes_as_delegated host _ (by decide +kernel) _ 1 _ rfl bob (by decide)).1 alice
      (by decide +kernel)⟩

open Sample in
/-- **A delegate who has been replaced keeps voting**: the delegation names the new one. -/
theorem not_votes_as_delegated :
    ¬ ∀ (host : Host) (calls : List Call), (after host calls).state.VotesAsDelegated := by
  intro h
  let calls := [createSlice [alice] [10] 10,
    call alice (.slice (.delegateSliceVote alice 1 bob none)),
    call alice (.slice (.delegateSliceVote alice 1 issuer none))]
  have hdelegates := (h host calls { host with now := 0, auths := [] } 1 _ rfl bob (by decide)).1
    alice (by decide +kernel)
  obtain ⟨delegation, hstored, hnames, -⟩ := hdelegates.named
  obtain rfl := Option.some.inj hstored
  exact absurd hnames (by decide)

end World

end QuorumProof
