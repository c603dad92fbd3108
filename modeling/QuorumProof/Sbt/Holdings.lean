import QuorumProof.Lib.Refinement
import QuorumProof.Sbt.Entry

/-!
# Sbt/Holdings — who holds what, as a machine of four actions

What the registry is for is to say which address holds a token for which credential.  `Holdings` is
that, together with the three indices the registry keeps over it; what it leaves out of a token is
its metadata, its version, its upgrade link and its co-owner.  The machine has four actions: mint,
burn, move, and hand over as `transfer_sbt_via_attestor` does.

`Consistent` says that the owner index and the token lists agree with the tokens; every action keeps
it.  `Unique` says that the uniqueness mapping does; a move keeps it if it finds the target vacant.
-/

namespace QuorumProof.Sbt

open Machine

/-! ## The machine -/

/-- A token, as far as holding it goes. -/
structure Holding where
  owner : Address
  credentialId : Nat
  deriving DecidableEq, Repr

/-- What is unique about a token. -/
def Holding.key (k : Holding) : Address × Nat := (k.owner, k.credentialId)

/-- The tokens held, and the indices over them. -/
@[ext] structure Holdings where
  count : Nat
  held : Store Nat Holding
  ownerOf : Store Nat Address
  listed : Address → List Nat
  mapped : Store (Address × Nat) Nat

/-- What happens to a token. -/
inductive Action
  | mint (owner : Address) (credentialId : Nat)
  | burn (tokenId : Nat)
  | move (tokenId : Nat) (newOwner : Address)
  | hand (tokenId : Nat) (newHolder : Address)
  deriving DecidableEq, Repr

/-- Who receives a token that an action moves. -/
def Action.receiver (t : Nat) : Action → Option Address
  | mint .. | burn _ => none
  | move t' newOwner | hand t' newOwner => if t' = t then some newOwner else none

namespace Holdings

def unlist (h : Holdings) (owner : Address) (t : Nat) : Holdings :=
  { h with listed := Function.update h.listed owner ((h.listed owner).erase t) }

def enlist (h : Holdings) (owner : Address) (t : Nat) : Holdings :=
  { h with listed := Function.update h.listed owner (h.listed owner ++ [t]) }

def give (h : Holdings) (t : Nat) (k : Holding) : Holdings :=
  { h with held := h.held.set t k, ownerOf := h.ownerOf.set t k.owner }

/-- Move a token from one list to another, its mapping apart. -/
def shift (h : Holdings) (t : Nat) (k : Holding) (newOwner : Address) : Holdings :=
  ((h.unlist k.owner t).give t { k with owner := newOwner }).enlist newOwner t

def mint (h : Holdings) (owner : Address) (credentialId : Nat) : Holdings :=
  let t := h.count + 1
  let h' := (h.give t ⟨owner, credentialId⟩).enlist owner t
  { h' with count := t, mapped := h.mapped.set (owner, credentialId) t }

def burn (h : Holdings) (t : Nat) (k : Holding) : Holdings :=
  let h' := h.unlist k.owner t
  { h' with
    held := h.held.remove t
    ownerOf := h.ownerOf.remove t
    mapped := h.mapped.remove k.key }

def move (h : Holdings) (t : Nat) (k : Holding) (newOwner : Address) : Holdings :=
  { h.shift t k newOwner with mapped := (h.mapped.remove k.key).set (newOwner, k.credentialId) t }

/-- Hand a held token over: the old mapping is removed after the new one is written. -/
def hand (h : Holdings) (t : Nat) (k : Holding) (newHolder : Address) : Holdings :=
  { h.shift t k newHolder with
    mapped := (h.mapped.set (newHolder, k.credentialId) t).remove k.key }

/-- Take an action; one on a token nobody holds does nothing. -/
def act (h : Holdings) : Action → Holdings
  | .mint owner credentialId => h.mint owner credentialId
  | .burn t => (h.held t).elim h (h.burn t)
  | .move t newOwner => (h.held t).elim h fun k => h.move t k newOwner
  | .hand t newHolder => (h.held t).elim h fun k => h.hand t k newHolder

section Act

variable {h : Holdings} {t : Nat} {k : Holding} {newOwner : Address}

theorem act_burn (ht : h.held t = some k) : h.act (.burn t) = h.burn t k := by
  rw [act, ht, Option.elim]

theorem act_move (ht : h.held t = some k) : h.act (.move t newOwner) = h.move t k newOwner := by
  rw [act, ht, Option.elim]

theorem act_hand (ht : h.held t = some k) : h.act (.hand t newOwner) = h.hand t k newOwner := by
  rw [act, ht, Option.elim]

/-- **What an action does**: one of the four, or nothing on a token nobody holds. -/
theorem act_rule {P : Action → Holdings → Prop} (hidle : ∀ a, P a h)
    (hmint : ∀ owner credentialId, P (.mint owner credentialId) (h.mint owner credentialId))
    (hburn : ∀ t k, h.held t = some k → P (.burn t) (h.burn t k))
    (hmove : ∀ t k newOwner, h.held t = some k → P (.move t newOwner) (h.move t k newOwner))
    (hhand : ∀ t k newOwner, h.held t = some k → P (.hand t newOwner) (h.hand t k newOwner))
    (a : Action) : P a (h.act a) := by
  cases a with
  | mint owner credentialId => exact hmint owner credentialId
  | burn t =>
    rcases ht : h.held t with _ | k <;> simp only [act, ht, Option.elim]
    · exact hidle _
    · exact hburn t k ht
  | move t newOwner =>
    rcases ht : h.held t with _ | k <;> simp only [act, ht, Option.elim]
    · exact hidle _
    · exact hmove t k newOwner ht
  | hand t newOwner =>
    rcases ht : h.held t with _ | k <;> simp only [act, ht, Option.elim]
    · exact hidle _
    · exact hhand t k newOwner ht

end Act

/-- What every entry point makes sure of before it acts. -/
def Enabled (h : Holdings) : Action → Prop
  | .mint owner credentialId => h.mapped (owner, credentialId) = none
  | .burn t | .move t _ | .hand t _ => h.held t ≠ none

/-! ## Consistency -/

/-- **The owner index and the token lists agree with the tokens**, and later tokens are new. -/
structure Consistent (h : Holdings) : Prop where
  owner : ∀ t, h.ownerOf t = (h.held t).map Holding.owner
  listed : Index.Enumerates h.listed fun a t => h.ownerOf t = some a
  fresh : ∀ t, h.count < t → h.held t = none

namespace Consistent

variable {h : Holdings} {t : Nat} {k : Holding}

variable (hh : Consistent h)

include hh

theorem ownerOf_eq (ht : h.held t = some k) : h.ownerOf t = some k.owner := by
  rw [hh.owner, ht, Option.map_some]

theorem le_count {o : Address} (ho : h.ownerOf t = some o) : t ≤ h.count := by
  by_contra hlt
  rw [hh.owner, hh.fresh t (by omega)] at ho
  exact absurd ho (by simp)

theorem mint (owner : Address) (credentialId : Nat) : Consistent (h.mint owner credentialId) where
  owner t := by
    simp only [Holdings.mint, enlist, give, Store.set_apply]
    split
    · rfl
    · exact hh.owner t
  listed := by
    have hnew : h.ownerOf (h.count + 1) = none := by
      rw [hh.owner, hh.fresh _ (Nat.lt_succ_self _), Option.map_none]
    refine (hh.listed.append (k := owner) (v := h.count + 1) (by simp [hnew])).congr fun a t => ?_
    simp only [Holdings.mint, enlist, give, Store.set_apply]
    split
    next heq => simp [heq, hnew, eq_comm]
    next hne => simp [hne]
  fresh t ht := by
    simp only [Holdings.mint, enlist, give] at ht ⊢
    rw [Store.set_of_ne (by omega)]
    exact hh.fresh t (by omega)

theorem burn (ht : h.held t = some k) : Consistent (h.burn t k) where
  owner t' := by
    simp only [Holdings.burn, Store.remove_apply]
    split
    · rfl
    · exact hh.owner t'
  listed := by
    refine (hh.listed.erase (k := k.owner) (v := t)).congr fun a t' => ?_
    simp only [Holdings.burn, Store.remove_apply]
    split
    next heq => simp [heq, hh.ownerOf_eq ht, eq_comm]
    next hne => simp [hne]
  fresh t' ht' := by
    simp only [Holdings.burn, Store.remove_apply]
    split
    · rfl
    · exact hh.fresh t' ht'

theorem shift (ht : h.held t = some k) (newOwner : Address) :
    Consistent (h.shift t k newOwner) where
  owner t' := by
    simp only [Holdings.shift, enlist, unlist, give, Store.set_apply]
    split
    · rfl
    · exact hh.owner t'
  listed := by
    have hgone : ¬ (h.ownerOf t = some newOwner ∧ ¬ (newOwner = k.owner ∧ t = t)) := by
      simp [hh.ownerOf_eq ht, eq_comm]
    refine ((hh.listed.erase (k := k.owner) (v := t)).append hgone).congr fun a t' => ?_
    simp only [Holdings.shift, enlist, unlist, give, Store.set_apply]
    split
    next heq =>
      subst heq
      simp [hh.ownerOf_eq ht, eq_comm]
    next hne => simp [hne]
  fresh t' ht' := by
    have hne : t' ≠ t := by
      rintro rfl
      exact absurd (ht.symm.trans (hh.fresh t' ht')) (by simp)
    simp only [Holdings.shift, enlist, unlist, give, Store.set_of_ne hne]
    exact hh.fresh t' ht'

/-- The mapping has no part in it. -/
theorem with_mapped (m : Store (Address × Nat) Nat) : Consistent { h with mapped := m } :=
  ⟨hh.owner, hh.listed, hh.fresh⟩

/-- **Every action keeps the registry consistent.** -/
theorem act (a : Action) : Consistent (h.act a) :=
  act_rule (P := fun _ h' => Consistent h') (fun _ => hh) hh.mint (fun _ _ ht => hh.burn ht)
    (fun _ _ newOwner ht => (hh.shift ht newOwner).with_mapped _)
    (fun _ _ newHolder ht => (hh.shift ht newHolder).with_mapped _) a

end Consistent

/-! ## Owners -/

section Owners

variable {h : Holdings} {t : Nat} {o n : Address}

theorem count_le_act (h : Holdings) (a : Action) : h.count ≤ (h.act a).count :=
  act_rule (P := fun _ h' => h.count ≤ h'.count) (fun _ => le_rfl) (fun _ _ => Nat.le_succ _)
    (fun _ _ _ => le_rfl) (fun _ _ _ _ => le_rfl) (fun _ _ _ _ => le_rfl) a

/-- After an action a token is where it was, is burned, is with whom it was moved to, or is new. -/
theorem act_ownerOf (h : Holdings) (t : Nat) (a : Action) :
    (h.act a).ownerOf t = h.ownerOf t ∨ a = .burn t ∧ (h.act a).ownerOf t = none ∨
      (∃ n, a.receiver t = some n ∧ (h.act a).ownerOf t = some n) ∨
      h.count < t ∧ ∃ n c, a = .mint n c ∧ (h.act a).ownerOf t = some n := by
  refine act_rule (P := fun a h' => h'.ownerOf t = h.ownerOf t ∨ a = .burn t ∧ h'.ownerOf t = none ∨
    (∃ n, a.receiver t = some n ∧ h'.ownerOf t = some n) ∨
      h.count < t ∧ ∃ n c, a = .mint n c ∧ h'.ownerOf t = some n)
    (fun _ => .inl rfl) (fun owner c => ?_) (fun t' k _ => ?_) (fun t' k newOwner _ => ?_)
    (fun t' k newOwner _ => ?_) a
  · by_cases heq : t = h.count + 1
    · exact .inr (.inr (.inr ⟨by omega, owner, c, rfl, heq ▸ Store.set_self _ _ _⟩))
    · exact .inl (Store.set_of_ne heq)
  · by_cases heq : t = t'
    · exact .inr (.inl ⟨by rw [heq], heq ▸ Store.remove_self _ _⟩)
    · exact .inl (Store.remove_of_ne heq)
  all_goals
    by_cases heq : t = t'
    · exact .inr (.inr (.inl ⟨newOwner, if_pos heq.symm, heq ▸ Store.set_self _ _ _⟩))
    · exact .inl (Store.set_of_ne heq)

/-- A token that has been burned stays so. -/
theorem act_held_eq_none (ht : t ≤ h.count) (hnone : h.held t = none) (a : Action) :
    (h.act a).held t = none := by
  have hne : ∀ {t' k}, h.held t' = some k → t ≠ t' := by
    rintro t' k ht' rfl
    exact absurd (hnone.symm.trans ht') (by simp)
  exact act_rule (P := fun _ h' => h'.held t = none) (fun _ => hnone)
    (fun _ _ => (Store.set_of_ne (by omega)).trans hnone)
    (fun _ _ ht' => (Store.remove_of_ne (hne ht')).trans hnone)
    (fun _ _ _ ht' => (Store.set_of_ne (hne ht')).trans hnone)
    (fun _ _ _ ht' => (Store.set_of_ne (hne ht')).trans hnone) a

/-- The credential a number stands for. -/
def credential (h : Holdings) (t : Nat) : Option Nat := (h.held t).map Holding.credentialId

/-- No number is taken back, and each stands for the credential that it stood for or for none. -/
def Continues (h h' : Holdings) : Prop :=
  h.count ≤ h'.count ∧ ∀ t ≤ h.count, h'.credential t = none ∨ h'.credential t = h.credential t

theorem Continues.trans {h' h'' : Holdings} (hc : h.Continues h') (hc' : h'.Continues h'') :
    h.Continues h'' := by
  refine ⟨hc.1.trans hc'.1, fun t ht => ?_⟩
  rcases hc'.2 t (ht.trans hc.1) with hnone | heq
  · exact .inl hnone
  · rw [heq]
    exact hc.2 t ht

theorem continues_act (h : Holdings) (a : Action) : h.Continues (h.act a) := by
  refine ⟨count_le_act h a, fun t ht => ?_⟩
  have hmoved : ∀ {t' k newOwner}, h.held t' = some k →
      (h.held.set t' ⟨newOwner, k.credentialId⟩ t).map Holding.credentialId = h.credential t := by
    intro t' k newOwner ht'
    rw [Store.set_apply]
    split
    next heq => rw [credential, heq, ht']; rfl
    next => rfl
  refine act_rule (P := fun _ h' => h'.credential t = none ∨ h'.credential t = h.credential t)
    (fun _ => .inr rfl) (fun _ _ => .inr ?_) (fun t' _ _ => ?_)
    (fun _ _ _ ht' => .inr (hmoved ht')) (fun _ _ _ ht' => .inr (hmoved ht')) a
  · exact congrArg _ (Store.set_of_ne (by omega))
  · rcases eq_or_ne t t' with rfl | hne
    · exact .inl (congrArg _ (Store.remove_self _ _))
    · exact .inr (congrArg _ (Store.remove_of_ne hne))

/-- **A token that has another owner after a run was moved to that owner by an action of it.** -/
theorem exists_receiver_eq {as : List Action} (ht : t ≤ h.count) (ho : h.ownerOf t ≠ some n)
    (hn : (run act h as).ownerOf t = some n) : ∃ a ∈ as, a.receiver t = some n := by
  obtain ⟨h', a, ha, ht', ho', hnot⟩ := exists_step_of_run
    (P := fun h : Holdings => h.ownerOf t ≠ some n)
    (fun h a (ht : t ≤ h.count) => ht.trans (count_le_act h a)) ht ho (not_not_intro hn)
  rcases h'.act_ownerOf t a with heq | ⟨-, heq⟩ | ⟨n', hn', heq⟩ | ⟨hlt, -⟩
  · exact absurd (heq.trans_ne ho') hnot
  · simp [heq] at hnot
  · exact ⟨a, ha, hn'.trans (heq.symm.trans (not_not.mp hnot))⟩
  · exact absurd ht' hlt.not_ge

/-- **A token that somebody new owns after a run was minted for them or moved to them by it.** -/
theorem exists_gift {as : List Action} (ho : h.ownerOf t ≠ some n)
    (hn : (run act h as).ownerOf t = some n) :
    ∃ a ∈ as, a.receiver t = some n ∨ ∃ credentialId, a = .mint n credentialId := by
  obtain ⟨h', a, ha, -, ho', hnot⟩ := exists_step_of_run (I := fun _ => True)
    (P := fun h : Holdings => h.ownerOf t ≠ some n) (fun _ _ _ => trivial) trivial ho
    (not_not_intro hn)
  rcases h'.act_ownerOf t a with heq | ⟨-, heq⟩ | ⟨n', hn', heq⟩ | ⟨-, n', c, hmint, heq⟩
  · exact absurd (heq.trans_ne ho') hnot
  · simp [heq] at hnot
  · exact ⟨a, ha, .inl (hn'.trans (heq.symm.trans (not_not.mp hnot)))⟩
  · obtain rfl := Option.mem_unique heq (not_not.mp hnot)
    exact ⟨a, ha, .inr ⟨c, hmint⟩⟩

/-- **A token that nobody owns after a run was burned by it.** -/
theorem burn_mem {as : List Action} (ht : t ≤ h.count) (ho : h.ownerOf t ≠ none)
    (hn : (run act h as).ownerOf t = none) : .burn t ∈ as := by
  obtain ⟨h', a, ha, ht', ho', hnot⟩ := exists_step_of_run
    (P := fun h : Holdings => h.ownerOf t ≠ none)
    (fun h a (ht : t ≤ h.count) => ht.trans (count_le_act h a)) ht ho (absurd hn)
  rcases h'.act_ownerOf t a with heq | ⟨rfl, -⟩ | ⟨n', -, heq⟩ | ⟨hlt, -⟩
  · exact absurd (heq ▸ ho') hnot
  · exact ha
  · simp [heq] at hnot
  · exact absurd ht' hlt.not_ge

end Owners

/-! ## Uniqueness -/

/-- **The uniqueness mapping finds the one token of an owner for a credential.** -/
def Unique (h : Holdings) : Prop := Index.Tracks h.mapped fun t => (h.held t).map Holding.key

/-- **A move finds its target vacant**: the new owner has no other token for the credential, and
what is handed over goes to somebody else. -/
def Vacant (h : Holdings) : Action → Prop
  | .mint .. | .burn _ => True
  | .move t newOwner => ∀ k ∈ h.held t, ∀ t' ∈ h.mapped (newOwner, k.credentialId), t' = t
  | .hand t newHolder => ∀ k ∈ h.held t, newHolder ≠ k.owner ∧
    ∀ t' ∈ h.mapped (newHolder, k.credentialId), t' = t

instance (h : Holdings) (a : Action) : Decidable (h.Vacant a) := by
  unfold Vacant
  split <;> infer_instance

namespace Unique

variable {h : Holdings} {t : Nat} {k : Holding}

theorem mint (hu : Unique h) (hh : Consistent h) {owner : Address} {credentialId : Nat}
    (hfree : h.mapped (owner, credentialId) = none) : Unique (h.mint owner credentialId) := by
  have hnew : (h.held (h.count + 1)).map Holding.key = none := by
    rw [hh.fresh _ (Nat.lt_succ_self _), Option.map_none]
  unfold Unique
  simp only [Holdings.mint, enlist, give, Store.map_set]
  exact hu.set hfree hnew

theorem burn (hu : Unique h) (ht : h.held t = some k) : Unique (h.burn t k) := by
  have hkey : (h.held t).map Holding.key = some k.key := by rw [ht, Option.map_some]
  unfold Unique
  simp only [Holdings.burn, Store.map_remove]
  exact hu.remove hkey

theorem move (hu : Unique h) (ht : h.held t = some k) {newOwner : Address}
    (hvacant : ∀ t' ∈ h.mapped (newOwner, k.credentialId), t' = t) :
    Unique (h.move t k newOwner) := by
  have hkey : (h.held t).map Holding.key = some k.key := by rw [ht, Option.map_some]
  unfold Unique
  simp only [Holdings.move, shift, enlist, unlist, give, Store.map_set]
  exact Index.Tracks.move hu hkey hvacant

/-- To somebody else a token is handed over as it is moved. -/
theorem hand_eq_move {newHolder : Address} (hne : newHolder ≠ k.owner) :
    h.hand t k newHolder = h.move t k newHolder := by
  have hkeys : (newHolder, k.credentialId) ≠ k.key := fun heq => hne (congrArg Prod.fst heq)
  have hcomm : (h.mapped.set (newHolder, k.credentialId) t).remove k.key =
      (h.mapped.remove k.key).set (newHolder, k.credentialId) t :=
    Function.update_comm hkeys _ _ _
  rw [Holdings.hand, Holdings.move, hcomm]

/-- **An enabled action that finds its target vacant keeps the mapping right.** -/
theorem act (hu : Unique h) (hh : Consistent h) {a : Action} (henabled : h.Enabled a)
    (hvacant : h.Vacant a) : Unique (h.act a) := by
  cases a with
  | mint owner credentialId => exact hu.mint hh henabled
  | burn t =>
    obtain ⟨k, ht⟩ := Option.ne_none_iff_exists'.mp henabled
    rw [act_burn ht]
    exact hu.burn ht
  | move t newOwner =>
    obtain ⟨k, ht⟩ := Option.ne_none_iff_exists'.mp henabled
    rw [act_move ht]
    exact hu.move ht (hvacant k ht)
  | hand t newHolder =>
    obtain ⟨k, ht⟩ := Option.ne_none_iff_exists'.mp henabled
    obtain ⟨hne, hfree⟩ := hvacant k ht
    rw [act_hand ht, hand_eq_move hne]
    exact hu.move ht hfree

end Unique

end Holdings

end QuorumProof.Sbt
