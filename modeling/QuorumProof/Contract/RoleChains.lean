import QuorumProof.Lib.Chain
import QuorumProof.Contract.Annex

/-!
# Contract/RoleChains — what a delegated role rests on

`delegate_role` asks whether the delegator holds the role at that moment, and `has_role` never asks
again.  A delegation is backed as long as a chain of delegations leads from its delegator to
somebody with an assignment of their own, or to the administrator.  `Roles.Sound` says that every
delegation in force is; it is kept by calls that take nobody's standing away while others lean on
it, and by delegations that do not outlast what they rest on.

Source: `rbac.rs`, `update_admin`.
-/

namespace QuorumProof

open Guarded

/-! ## Chains of delegations -/

/-- A grant of one role gives another: the role itself, and any role for a grant of `Admin`. -/
def Role.Includes (granted role : Role) : Prop := granted = role ∨ granted = .admin
  deriving Decidable

theorem GrantInForce.of_le {now t expiresAt : Nat} (h : GrantInForce t expiresAt) (ht : now ≤ t) :
    GrantInForce now expiresAt :=
  h.imp_right ht.trans_lt

namespace Roles

variable {r r' : Roles} {admin admin' : Option Address} {now t : Nat} {role : Role}
  {a b : Address}

/-- `a` holds an unexpired delegation of the role, or of `Admin`, that `b` has granted. -/
def GrantedBy (r : Roles) (t : Nat) (role : Role) (a b : Address) : Prop :=
  ∃ d ∈ r.roleDelegation a, d.role.Includes role ∧ GrantInForce t d.expiresAt ∧ d.delegator = b

/-- `a` holds an unexpired assignment of the role, or of `Admin`, or is the administrator. -/
def Rooted (r : Roles) (admin : Option Address) (t : Nat) (role : Role) (a : Address) : Prop :=
  (∃ g ∈ r.roleAssignment a, g.role.Includes role ∧ GrantInForce t g.expiresAt) ∨ admin = some a

/-- **A chain of delegations leads from `a` to somebody with a standing of their own.** -/
def Backed (r : Roles) (admin : Option Address) (t : Nat) (role : Role) (a : Address) : Prop :=
  Chain.Reaches (r.GrantedBy t role) (r.Rooted admin t role) a

/-- What backs `Admin` backs every role. -/
theorem Backed.of_includes {granted : Role} (h : r.Backed admin t granted a)
    (hrole : granted.Includes role) : r.Backed admin t role a := by
  rcases hrole with rfl | rfl
  · exact h
  · have hincludes : ∀ {g : Role}, g.Includes .admin → g.Includes role :=
      fun h => .inr (h.elim id id)
    refine Chain.Reaches.mono h ?_ ?_
    · rintro a b ⟨d, hd, hgrant, hforce, heq⟩
      exact ⟨d, hd, hincludes hgrant, hforce, heq⟩
    · rintro a (⟨g, hg, hgrant, hforce⟩ | hadmin)
      · exact .inl ⟨g, hg, hincludes hgrant, hforce⟩
      · exact .inr hadmin

theorem hasExactRole_iff : r.hasExactRole t a role = true ↔
    (∃ g ∈ r.roleAssignment a, g.role = role ∧ GrantInForce t g.expiresAt) ∨
      ∃ d ∈ r.roleDelegation a, d.role = role ∧ GrantInForce t d.expiresAt := by
  simp [hasExactRole, Option.any_eq_true]

/-- A role is held by an assignment or a delegation of it, or of `Admin`. -/
theorem hasRole_iff : r.hasRole t a role = true ↔
    (∃ g ∈ r.roleAssignment a, g.role.Includes role ∧ GrantInForce t g.expiresAt) ∨
      ∃ d ∈ r.roleDelegation a, d.role.Includes role ∧ GrantInForce t d.expiresAt := by
  simp only [hasRole, Bool.or_eq_true, Bool.and_eq_true, hasExactRole_iff, decide_eq_true_eq,
    Role.Includes]
  by_cases hadmin : role = .admin
  · subst hadmin
    simp
  · grind

/-! ## Delegations that rest on something -/

/-- **Every delegation in force, now or later, has a delegator that is backed.** -/
def Sound (r : Roles) (admin : Option Address) (now : Nat) : Prop :=
  ∀ t ≥ now, ∀ a d, r.roleDelegation a = some d → GrantInForce t d.expiresAt →
    r.Backed admin t d.role d.delegator

theorem Sound.later (h : r.Sound admin now) {now' : Nat} (hle : now ≤ now') :
    r.Sound admin now' :=
  fun t ht => h t (hle.trans ht)

theorem Sound.backed (h : r.Sound admin now) (ht : now ≤ t) (hrole : r.hasRole t a role = true) :
    r.Backed admin t role a := by
  rcases hasRole_iff.mp hrole with hassigned | ⟨d, hd, hincludes, hforce⟩
  · exact .here (.inl hassigned)
  · exact ((h t ht a d hd hforce).of_includes hincludes).step ⟨d, hd, hincludes, hforce, rfl⟩

/-- Nobody holds an unexpired delegation that `x` has granted. -/
def Unleaned (r : Roles) (now : Nat) (x : Address) : Prop :=
  ∀ a d, r.roleDelegation a = some d → GrantInForce now d.expiresAt → d.delegator ≠ x

/-- A change that takes away the standing of nobody but those in `U`, on whom nobody leans. -/
structure Revises (now : Nat) (U : Address → Prop) (r r' : Roles) (admin admin' : Option Address) :
    Prop where
  unleaned : ∀ x, U x → r.Unleaned now x
  delegation : ∀ a d, ¬ U a → r.roleDelegation a = some d → GrantInForce now d.expiresAt →
    r'.roleDelegation a = some d
  assignment : ∀ a g, ¬ U a → r.roleAssignment a = some g → GrantInForce now g.expiresAt →
    r'.roleAssignment a = some g
  admin : ∀ a, ¬ U a → admin = some a → admin' = some a

namespace Revises

variable {U : Address → Prop}

variable (h : Revises now U r r' admin admin')

include h

theorem backed (ht : now ≤ t) (ha : ¬ U a) (hbacked : r.Backed admin t role a) :
    r'.Backed admin' t role a := by
  refine hbacked.transport ha ?_ ?_ ?_
  · rintro a b ⟨d, hd, -, hforce, rfl⟩ hU
    exact h.unleaned _ hU a d hd (hforce.of_le ht) rfl
  · rintro a b hU ⟨d, hd, hincludes, hforce, heq⟩
    exact ⟨d, h.delegation a d hU hd (hforce.of_le ht), hincludes, hforce, heq⟩
  · rintro a hU (⟨g, hg, hincludes, hforce⟩ | hadmin)
    · exact .inl ⟨g, h.assignment a g hU hg (hforce.of_le ht), hincludes, hforce⟩
    · exact .inr (h.admin a hU hadmin)

/-- A delegation that was there is still backed. -/
theorem backed_delegator (hsound : r.Sound admin now) (ht : now ≤ t) {d : RoleDelegation}
    (hd : r.roleDelegation a = some d) (hforce : GrantInForce t d.expiresAt) :
    r'.Backed admin' t d.role d.delegator :=
  h.backed ht (fun hU => h.unleaned _ hU a d hd (hforce.of_le ht) rfl) (hsound t ht a d hd hforce)

/-- A change that delegates nothing leaves the delegations backed. -/
theorem sound (hsame : r'.roleDelegation = r.roleDelegation) (hsound : r.Sound admin now) :
    r'.Sound admin' now :=
  fun _ ht _ _ hd hforce => h.backed_delegator hsound ht (hsame ▸ hd) hforce

end Revises

end Roles

/-! ## One call -/

/-- A grant does not outlast another. -/
def Outlasts (own expiresAt : Nat) : Prop := own = 0 ∨ expiresAt ≠ 0 ∧ expiresAt ≤ own
  deriving Decidable

theorem Outlasts.inForce {own expiresAt t : Nat} (h : Outlasts own expiresAt)
    (ht : GrantInForce t expiresAt) : GrantInForce t own := by
  unfold Outlasts GrantInForce at *
  omega

/-- **What a delegator may give**: the administrator anything, others what their own assignment or
delegation outlasts. -/
def Roles.Covers (admin : Option Address) (r : Roles) (delegator delegatee : Address) (role : Role)
    (expiresAt : Nat) : Prop :=
  admin = some delegator ∨
    (∃ g ∈ r.roleAssignment delegator, g.role.Includes role ∧ Outlasts g.expiresAt expiresAt) ∨
    delegatee ≠ delegator ∧
      ∃ d ∈ r.roleDelegation delegator, d.role.Includes role ∧ Outlasts d.expiresAt expiresAt
  deriving Decidable

/-- Whose standing an operation takes away, by removing or replacing a grant. -/
def RoleOp.unseating (r : Roles) : RoleOp → Option Address
  | assignRole _ target .. => (r.roleAssignment target).map fun _ => target
  | revokeRole _ target => some target
  | delegateRole _ delegatee .. => (r.roleDelegation delegatee).map fun _ => delegatee
  | revokeRoleDelegation _ delegatee => some delegatee
  | purgeExpiredRole .. | purgeExpiredDelegation .. => none

/-- **What an operation does to the grants**: it writes the assignment or the delegation of one
address, and takes that address's standing away unless none was in force. -/
inductive Roles.RoleStep (now : Nat) (r : Roles) (op : RoleOp) : Roles → Prop
  | assigns {a : Address} {new : Option RoleAssignment} {log : List RoleAuditEntry}
      (hgone : op.unseating r = some a ∨
        ∀ g, r.roleAssignment a = some g → ¬ GrantInForce now g.expiresAt) :
      RoleStep now r op { r with
        roleAssignment := Function.update r.roleAssignment a new, roleAuditLog := log }
  | delegates {a : Address} {new : Option RoleDelegation} {log : List RoleAuditEntry}
      (hgone : op.unseating r = some a ∨
        ∀ d, r.roleDelegation a = some d → ¬ GrantInForce now d.expiresAt)
      (hnew : ∀ d, new = some d → ∃ code, op = .delegateRole d.delegator a code d.expiresAt ∧
        Role.ofCode code = some d.role) :
      RoleStep now r op { r with
        roleDelegation := Function.update r.roleDelegation a new, roleAuditLog := log }

namespace RoleOp

/-- Writing to an address without a grant takes nothing away. -/
theorem gone_of_map {α : Type} (o : Option α) (a : Address) (P : α → Prop) :
    (o.map fun _ => a) = some a ∨ ∀ g, o = some g → P g := by
  cases o <;> simp

theorem roleStep (env : Env) (c : Control) (r : Roles) (op : RoleOp) :
    Ensures (op.write env c r) (r.RoleStep env.now op) := by
  cases op with
  | assignRole admin target code expiresAt =>
    simp only [write, Roles.assignRole, ensures_steps]
    exact fun _ _ _ => .assigns (gone_of_map _ _ _)
  | revokeRole admin target =>
    simp only [write, Roles.revokeRole, ensures_steps]
    exact fun _ _ _ => .assigns (.inl rfl)
  | delegateRole delegator delegatee code expiresAt =>
    simp only [write, Roles.delegateRole, ensures_steps, ensures_ite]
    intro role hrole _ _
    have hnew : ∀ d, some (RoleDelegation.mk role delegator expiresAt) = some d →
        ∃ code', delegateRole delegator delegatee code expiresAt =
          .delegateRole d.delegator delegatee code' d.expiresAt ∧
            Role.ofCode code' = some d.role := by
      rintro _ ⟨⟩
      exact ⟨code, rfl, hrole⟩
    exact ⟨fun _ => .delegates (gone_of_map _ _ _) hnew,
      fun _ _ => .delegates (gone_of_map _ _ _) hnew⟩
  | revokeRoleDelegation caller delegatee =>
    simp only [write, Roles.revokeDelegation, ensures_steps]
    exact fun _ _ _ _ _ => .delegates (.inl rfl) (by simp)
  | purgeExpiredRole admin address =>
    simp only [write, Roles.purgeExpiredRole, ensures_steps, require_eq_ok]
    intro _ g hg hexpired
    exact .assigns (.inr fun _ hg' => Option.mem_unique hg hg' ▸ hexpired)
  | purgeExpiredDelegation admin address =>
    simp only [write, Roles.purgeExpiredDelegation, ensures_steps, require_eq_ok]
    intro _ d hd hexpired
    exact .delegates (.inr fun _ hd' => Option.mem_unique hd hd' ▸ hexpired) (by simp)

/-- What an operation delegates is covered. -/
def Covered (admin : Option Address) (r : Roles) : RoleOp → Prop
  | delegateRole delegator delegatee code expiresAt =>
    ∀ role ∈ Role.ofCode code, r.Covers admin delegator delegatee role expiresAt
  | _ => True

/-- **What an operation must keep to** for the delegations to stay backed. -/
structure Fair (now : Nat) (admin : Option Address) (r : Roles) (op : RoleOp) : Prop where
  unleaned : ∀ x ∈ op.unseating r, r.Unleaned now x
  covered : op.Covered admin r

/-- An operation that takes nobody's standing away need only cover what it delegates. -/
theorem Fair.of_unseating {now : Nat} {admin : Option Address} {r : Roles} {op : RoleOp}
    (h : op.unseating r = none) (hcovered : op.Covered admin r) : op.Fair now admin r :=
  ⟨fun x hx => by simp [h] at hx, hcovered⟩

end RoleOp

namespace Roles

variable {r r' : Roles} {admin : Option Address} {now : Nat} {op : RoleOp}

theorem RoleStep.revises (h : r.RoleStep now op r') (hfair : op.Fair now admin r) :
    r.Revises now (fun x => op.unseating r = some x) r' admin admin := by
  refine ⟨fun x hx => hfair.unleaned x hx, fun a d hU hd hforce => ?_, fun a g hU hg hforce => ?_,
    fun _ _ hadmin => hadmin⟩
  · cases h with
    | assigns => exact hd
    | delegates hgone =>
      refine (Function.update_of_ne ?_ _ _).trans hd
      rintro rfl
      exact hgone.elim hU fun hexpired => hexpired d hd hforce
  · cases h with
    | assigns hgone =>
      refine (Function.update_of_ne ?_ _ _).trans hg
      rintro rfl
      exact hgone.elim hU fun hexpired => hexpired g hg hforce
    | delegates => exact hg

/-- A delegation that is there now was there before, or is the operation's own. -/
theorem RoleStep.delegation (h : r.RoleStep now op r') {a : Address} {d : RoleDelegation}
    (hd : r'.roleDelegation a = some d) : r.roleDelegation a = some d ∨
      ∃ code, op = .delegateRole d.delegator a code d.expiresAt ∧
        Role.ofCode code = some d.role ∧ r'.roleAssignment = r.roleAssignment ∧
        r'.roleDelegation = r.roleDelegation.set a d := by
  cases h with
  | assigns => exact .inl hd
  | @delegates b new log _ hnew =>
    rcases eq_or_ne a b with rfl | hne
    · obtain rfl : new = some d := by simpa using hd
      obtain ⟨code, hop, hrole⟩ := hnew d rfl
      exact .inr ⟨code, hop, hrole, rfl, rfl⟩
    · exact .inl ((Function.update_of_ne hne _ _).symm.trans hd)

/-- **A fair operation keeps the delegations backed.** -/
theorem RoleStep.sound (h : r.RoleStep now op r') (hfair : op.Fair now admin r)
    (hsound : r.Sound admin now) : r'.Sound admin now := by
  have hrevises := h.revises hfair
  intro t ht a d hd hforce
  rcases h.delegation hd with hold | ⟨code, hop, hrole, hassignment, hdelegation⟩
  · exact hrevises.backed_delegator hsound ht hold hforce
  · subst hop
    rcases hfair.covered d.role hrole with
      hadmin | ⟨g, hg, hincludes, houtlasts⟩ | ⟨hne, d₀, hd₀, hincludes, houtlasts⟩
    · exact .here (.inr hadmin)
    · exact .here (.inl ⟨g, hassignment ▸ hg, hincludes, houtlasts.inForce hforce⟩)
    · have hforce₀ := houtlasts.inForce hforce
      have hbacked := hrevises.backed_delegator hsound ht hd₀ hforce₀
      refine (hbacked.of_includes hincludes).step ⟨d₀, ?_, hincludes, hforce₀, rfl⟩
      rw [hdelegation, Store.set_of_ne hne.symm]
      exact hd₀

end Roles

/-! ## The administrator -/

/-- Whom an operation makes the administrator in the present one's place. -/
def Op.enthrones : Op → Option Address
  | control (.updateAdmin _ newAdmin) => some newAdmin
  | _ => none

/-- **The administrator changes only by their own entry points.** -/
theorem Op.admin_step (env : Env) (s : State) (op : Op) :
    Ensures (op.apply env s) fun s' => s'.control.admin = s.control.admin ∨
      s.control.admin = none ∨ ∃ newAdmin ∈ op.enthrones, s'.control.admin = some newAdmin := by
  refine (op.coreStep env s).mono fun s' hstep => ?_
  generalize s'.control = c' at hstep ⊢
  cases hstep with
  | passes _ h => exact .inl h.admin
  | initialized hnone => exact .inr (.inl hnone)
  | succeeded => exact .inr (.inr ⟨_, rfl, rfl⟩)
  | _ => exact .inl rfl

/-! ## Whole runs -/

namespace AnnexedWorld

/-- **What a call must keep to** for the delegations to stay backed: nobody's standing is taken away
while an unexpired delegation rests on it, and a delegation rests on something that outlasts it. -/
def DelegatesFairly (w : AnnexedWorld) (call : AnnexedCall) : Prop :=
  match call.op with
  | .contract op => ∀ x ∈ w.world.state.control.admin, ∀ y ∈ op.enthrones, y ≠ x →
      w.annex.roles.Unleaned (w.world.time + call.elapsed) x
  | .annex (.role op) =>
    op.Fair (w.world.time + call.elapsed) w.world.state.control.admin w.annex.roles
  | .annex _ => True

/-- A role is held only where a chain of delegations backs it, now and at any later time. -/
def RolesBacked (w : AnnexedWorld) : Prop :=
  ∀ t ≥ w.world.time, ∀ a role, w.annex.roles.hasRole t a role = true →
    w.annex.roles.Backed w.world.state.control.admin t role a

/-- The delegations in force are backed. -/
def RolesSound (w : AnnexedWorld) : Prop :=
  w.annex.roles.Sound w.world.state.control.admin w.world.time

/-- A fair change of the administrator keeps the delegations backed. -/
theorem DelegatesFairly.contract_sound {r : Roles} {now : Nat} {env : Env} {s : State} {op : Op}
    (h : r.Sound s.control.admin now)
    (hfair : ∀ x ∈ s.control.admin, ∀ y ∈ op.enthrones, y ≠ x → r.Unleaned now x) :
    Ensures (op.apply env s) fun s' => r.Sound s'.control.admin now := by
  refine (op.admin_step env s).mono ?_
  rintro s' (hsame | hnone | ⟨newAdmin, hnew, hadmin⟩)
  · exact hsame ▸ h
  · have hrevises : r.Revises now (fun _ => False) r s.control.admin s'.control.admin :=
      ⟨fun _ => False.elim, fun _ _ _ hd _ => hd, fun _ _ _ hg _ => hg,
        fun _ _ hadmin => by simp [hnone] at hadmin⟩
    exact hrevises.sound rfl h
  · have hrevises : r.Revises now (fun x => s.control.admin = some x ∧ newAdmin ≠ x) r
        s.control.admin s'.control.admin := by
      refine ⟨fun x hx => hfair x hx.1 newAdmin hnew hx.2, fun _ _ _ hd _ => hd,
        fun _ _ _ hg _ => hg, fun a ha hold => ?_⟩
      rw [hadmin, of_not_not fun hne => ha ⟨hold, hne⟩]
    exact hrevises.sound rfl h

theorem rolesSound_next (host : Host) (w : AnnexedWorld) (call : AnnexedCall)
    (h : w.RolesSound) (hfair : w.DelegatesFairly call) : (w.next host call).RolesSound := by
  have hlater : w.annex.roles.Sound w.world.state.control.admin (w.world.time + call.elapsed) :=
    Roles.Sound.later h (Nat.le_add_right _ _)
  obtain ⟨elapsed, auths, op⟩ := call
  unfold RolesSound
  rw [next_time]
  cases op with
  | contract op =>
    obtain ⟨hsound, hannex⟩ := next_of_contract host w ⟨elapsed, auths, .contract op⟩ rfl
      (DelegatesFairly.contract_sound hlater hfair) hlater
    rw [hannex]
    exact hsound
  | annex op =>
    have hwrite : ∀ c : Control,
        Ensures (op.write (w.env host ⟨elapsed, auths, .annex op⟩) c w.annex) fun a =>
          a.roles.Sound w.world.state.control.admin (w.world.time + elapsed) := by
      intro c
      cases op with
      | role op =>
        exact ensures_map.mpr ((op.roleStep _ c w.annex.roles).mono fun r' hstep =>
          hstep.sound hfair hlater)
      | _ => exact ensures_map.mpr fun _ _ => hlater
    obtain ⟨⟨control, hpasses, hstate⟩, hsound⟩ :=
      next_of_annex host w ⟨elapsed, auths, .annex op⟩ rfl (fun c _ => hwrite c) hlater
    rw [hstate, hpasses.admin]
    exact hsound

/-- **A role is bounded by the delegator's**, in every run of calls that leave what is leaned on. -/
theorem role_delegation_bounded (host : Host) (calls : List AnnexedCall)
    (h : Machine.Along (next host) DelegatesFairly deployed calls) :
    RolesBacked (after host calls) := by
  have hsound : (after host calls).RolesSound :=
    h.invariant (rolesSound_next host) fun _ _ _ _ hd => by cases hd
  exact fun t ht a role hrole => hsound.backed ht hrole

end AnnexedWorld

namespace Sample

/-- The admin makes the issuer one, who delegates to alice. -/
def delegating : List AnnexedCall :=
  [proper initialized, annexed (.role (.assignRole admin issuer 2 0)),
    annexed (.role (.delegateRole issuer alice 2 0))]

/-- Alice delegates to bob in turn. -/
def delegateOn : AnnexedCall := annexed (.role (.delegateRole alice bob 2 50))

/-- The admin takes the issuer's role away. -/
def revokeIssuer : AnnexedCall := annexed (.role (.revokeRole admin issuer))

end Sample

namespace AnnexedWorld

open Sample

/-- Bob's role rests on alice's, and theirs on the issuer's. -/
theorem role_delegation_bounded_two :
    (after host (delegating ++ [delegateOn])).annex.roles.hasRole 0 bob
        .issuer = true ∧
      RolesBacked (after host (delegating ++ [delegateOn])) := by
  refine ⟨by decide, role_delegation_bounded _ _ ⟨?_, ?_, ?_, ?_, trivial⟩⟩
  · exact fun _ hx => nomatch hx
  · exact RoleOp.Fair.of_unseating (by decide) trivial
  · refine RoleOp.Fair.of_unseating (by decide) ?_
    rintro role ⟨⟩
    decide
  · refine RoleOp.Fair.of_unseating (by decide) ?_
    rintro role ⟨⟩
    decide

/-- **A role outlives the delegator's**: the issuer's is revoked, and alice still holds it. -/
theorem not_role_delegation_bounded :
    ¬ ∀ (host : Host) (calls : List AnnexedCall), RolesBacked (after host calls) := by
  intro h
  have hbacked := h host (delegating ++ [revokeIssuer]) 0 (by decide)
    alice .issuer (by decide)
  -- alice has a delegation from the issuer, and the issuer has nothing
  rcases Chain.reaches_iff.mp hbacked with hroot | ⟨b, ⟨d, hd, -, -, rfl⟩, hissuer⟩
  · exact absurd hroot (by unfold Roles.Rooted; decide)
  · obtain rfl := Option.some.inj hd
    rcases Chain.reaches_iff.mp hissuer with hroot | ⟨b, ⟨d, hd, -⟩, -⟩
    · exact absurd hroot (by unfold Roles.Rooted; decide)
    · cases hd

end AnnexedWorld

end QuorumProof
