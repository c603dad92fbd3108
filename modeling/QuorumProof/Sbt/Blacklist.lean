import QuorumProof.Sbt.Ownership

/-!
# Sbt/Blacklist — what a blacklisted address can still be given

Every entry point that mints looks at the blacklist, and so do three of the six that move tokens:
`recover_sbt`, `admin_transfer_sbt` and `transfer_sbt_via_attestor`.  `transfer_ownership_dual`,
`batch_transfer` and `finalize_recovery` do not: in a run where these three give no token to a
blacklisted address, nobody does.
-/

namespace QuorumProof.Sbt

open Guarded Machine

def Control.isHolderBlacklisted (c : Control) (holder : Address) : Bool :=
  (c.blacklist holder).isSome

theorem Control.isHolderBlacklisted_eq_false {c : Control} {holder : Address} :
    c.isHolderBlacklisted holder = false ↔ c.blacklist holder = none :=
  Option.isSome_eq_false_iff.trans Option.isNone_iff_eq_none

/-- Who an action gives a token to. -/
def Action.recipient : Action → Option Address
  | mint owner _ => some owner
  | burn _ => none
  | move _ newOwner | hand _ newOwner => some newOwner

theorem Action.recipient_of_receiver {a : Action} {t : Nat} {n : Address}
    (h : a.receiver t = some n) : a.recipient = some n := by
  cases a with
  | mint | burn => exact absurd h (by simp [receiver])
  | move | hand => exact (Option.ite_none_right_eq_some.mp h).2

/-- The entry points that move tokens without a look at the blacklist. -/
def Op.ignoresBlacklist : Op → Bool
  | token (.transferOwnershipDual ..) | token (.batchTransfer ..)
  | recovery (.finalizeRecovery ..) => true
  | _ => false

/-- An action gives no token to a blacklisted address that does not own it. -/
def State.Spares (s : State) : Action → Prop
  | .mint owner _ => s.control.isHolderBlacklisted owner = false
  | .burn _ => True
  | .move t n | .hand t n => s.control.isHolderBlacklisted n = true → s.ledger.owners t = some n

instance (s : State) (a : Action) : Decidable (s.Spares a) := by
  rcases a with _ | _ | _ | _ <;> unfold State.Spares <;> infer_instance

theorem State.Spares.owned {s : State} {a : Action} {t : Nat} {n : Address} (h : s.Spares a)
    (hreceiver : a.receiver t = some n) (hlisted : s.control.isHolderBlacklisted n = true) :
    s.ledger.owners t = some n := by
  cases a with
  | mint | burn => exact absurd hreceiver (by simp [Action.receiver])
  | move | hand =>
    obtain ⟨rfl, heq⟩ := Option.ite_none_right_eq_some.mp hreceiver
    obtain rfl := Option.some.inj heq
    exact h hlisted

/-- **The entry points that do not look give nothing to the blacklisted.** -/
def Op.SparesBlacklisted (s : State) (op : Op) : Prop :=
  op.ignoresBlacklist = true → ∀ a ∈ op.actions s, s.Spares a
  deriving Decidable

namespace State

/-! ## The entry points that look -/

/-- What an entry point gives, it gives to nobody on the blacklist. -/
def Looks (s : State) (op : Op) : Prop :=
  ∀ a ∈ op.actions s, ∀ n ∈ a.recipient, s.control.isHolderBlacklisted n = false

theorem tokenOp_looks (env : Env) (s : State) (op : TokenOp)
    (hop : Op.ignoresBlacklist (.token op) = false) :
    Ensures (op.apply env s) fun _ => s.Looks (.token op) := by
  refine (tokenOp_writes env s op).mono fun _ h a ha n hn => ?_
  rw [Control.isHolderBlacklisted_eq_false]
  replace h := h.1
  cases op <;> cases hop <;>
    simp only [Op.actions, TokenOp.actions, List.mem_map, List.mem_singleton] at ha
  case burn.refl | burnSbt.refl =>
    subst ha
    cases hn
  case batchBurn.refl =>
    obtain ⟨_, -, rfl⟩ := ha
    cases hn
  case batchMint.refl =>
    obtain ⟨entry, hentry, rfl⟩ := ha
    cases hn
    exact h entry hentry
  case mint.refl | recoverSbt.refl | adminTransferSbt.refl =>
    subst ha
    cases hn
    exact h.2
  case transferSbtViaAttestor.refl attestor t proof =>
    obtain ⟨-, -, record, hrecord, -, -, hlisted⟩ := h
    simp only [hrecord, List.mem_singleton] at ha
    subst ha
    cases hn
    exact hlisted

end State

/-- **An entry point that looks at the blacklist gives nothing to anybody on it.** -/
theorem Op.looks (env : Env) (s : State) (op : Op) (hop : op.ignoresBlacklist = false) :
    Ensures (op.apply env s) fun _ => s.Looks op := by
  cases op with
  | token op => exact s.tokenOp_looks env op hop
  | recovery op =>
    cases op with
    | finalizeRecovery => exact absurd hop (by simp [ignoresBlacklist])
    | _ => exact fun _ _ a ha => absurd ha (by simp [actions, RecoveryOp.actions])
  | control | holder | annex | transfer =>
    exact fun _ _ a ha => absurd ha (by simp [actions])

namespace World

/-- **Blacklist safety of a run**: no call makes a blacklisted address the owner of a token. -/
def BlacklistSafe (host : Host) (calls : List Call) : Prop :=
  ∀ before call rest t n, calls = before ++ call :: rest →
    (after host before).state.control.isHolderBlacklisted n = true →
    ((after host before).next host call).state.ledger.owners t = some n →
    (after host before).state.ledger.owners t = some n

/-- A signed call gives nothing to the blacklisted unseen. -/
def SparesBlacklisted (w : World) (call : Call) : Prop :=
  w.Signed call → call.op.SparesBlacklisted w.state
  deriving Decidable

/-- **A blacklisted address is given no token** in any run in which the entry points that do not
look at the blacklist give it none. -/
theorem blacklist_safe (host : Host) (calls : List Call)
    (hcalls : Along (next host) SparesBlacklisted deployed calls) : BlacklistSafe host calls := by
  rintro before call rest t n rfl hlisted hn
  by_contra ho
  obtain ⟨-, hspares, -⟩ := (along_append _).mp hcalls
  obtain ⟨a, ha, hgift⟩ := Holdings.exists_gift ho (by
    rw [← holdings_next host (consistent_after host before) call]
    exact hn)
  obtain ⟨hcall, ha⟩ := mem_actions.mp ha
  have hrecipient : a.recipient = some n := by
    rcases hgift with hreceiver | ⟨c, rfl⟩
    · exact Action.recipient_of_receiver hreceiver
    · rfl
  cases hop : call.op.ignoresBlacklist with
  | false =>
    obtain ⟨s, hs⟩ := hcall
    have hnot := Op.looks _ _ call.op hop s hs a ha n hrecipient
    exact absurd (hlisted.symm.trans hnot) (by decide)
  | true =>
    rcases hgift with hreceiver | ⟨c, rfl⟩
    · exact ho ((hspares hcall.signed hop a ha).owned hreceiver hlisted)
    · have hnot : (after host before).state.control.isHolderBlacklisted n = false :=
        hspares hcall.signed hop _ ha
      exact absurd (hlisted.symm.trans hnot) (by decide)

end World

/-! ## Sample runs -/

namespace Sample

/-- The admin blacklists a holder. -/
def blacklist (holder : Address) : Call :=
  callBy [admin] (.control (.addHolderToBlacklist admin holder))

/-- The admin moves tokens in a batch. -/
def batchTransfer (entries : List BatchTransferEntry) : Call :=
  callBy [admin] (.token (.batchTransfer admin entries))

end Sample

namespace World

open Sbt.Sample in
/-- A batch moves a token to somebody who is not blacklisted, and leaves a blacklisted holder their
own. -/
theorem blacklist_safe_batch : BlacklistSafe host
    [initialized, mint alice 1, mint bob 2, blacklist alice,
      batchTransfer [⟨2, carol⟩, ⟨1, alice⟩]] :=
  blacklist_safe host _ (by decide +kernel)

open Sbt.Sample in
/-- **A batch moves a token to a blacklisted address.** -/
theorem not_blacklist_safe : ¬ ∀ host calls, BlacklistSafe host calls := by
  intro h
  have howned := h host [initialized, mint alice 1, blacklist bob, batchTransfer [⟨1, bob⟩]]
    [initialized, mint alice 1, blacklist bob] (batchTransfer [⟨1, bob⟩]) [] 1 bob rfl
    (by decide +kernel) (by decide +kernel)
  exact absurd howned (by decide +kernel)

end World

end QuorumProof.Sbt
