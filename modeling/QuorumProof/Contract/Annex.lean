import QuorumProof.Contract.Footprint

/-!
# Contract/Annex — roles, key escrows, vetoes and transfer restrictions

Four parts of the contract that keep storage of their own.  Of the storage `State` models they write
the guards' part alone, and only by passing an entry guard (`AnnexedWorld.next_of_annex`).

Source: `rbac.rs`, `key_escrow.rs`, `attestation_veto.rs`, `set_transfer_restriction`, and the entry
points in `lib.rs` that lead to them.
-/

namespace QuorumProof

open Guarded

/-! ## Roles -/

inductive Role
  | admin | issuer | verifier | revocationAgent | auditor
  deriving DecidableEq, Repr

/-- The role an entry point's number stands for. -/
def Role.ofCode : Nat → Option Role
  | 1 => some .admin
  | 2 => some .issuer
  | 3 => some .verifier
  | 4 => some .revocationAgent
  | 5 => some .auditor
  | _ => none

structure RoleAssignment where
  role : Role
  grantedBy : Address
  grantedAt : Nat
  expiresAt : Nat
  deriving DecidableEq, Repr

structure RoleDelegation where
  role : Role
  delegator : Address
  expiresAt : Nat
  deriving DecidableEq, Repr

inductive RoleAction
  | granted | revoked | delegated | delegationRevoked | expired
  deriving DecidableEq, Repr

structure RoleAuditEntry where
  timestamp : Nat
  action : RoleAction
  actor : Address
  target : Address
  role : Role
  deriving DecidableEq, Repr

/-- The storage of `rbac.rs`. -/
structure Roles where
  roleAssignment : Store Address RoleAssignment
  roleDelegation : Store Address RoleDelegation
  roleAuditLog : List RoleAuditEntry
  deriving Inhabited

/-- A grant with this expiry is in force; zero stands for no expiry. -/
def GrantInForce (now expiresAt : Nat) : Prop := expiresAt = 0 ∨ now < expiresAt
  deriving Decidable

namespace Roles

def empty : Roles := default

def hasExactRole (now : Nat) (r : Roles) (address : Address) (role : Role) : Bool :=
  ((r.roleAssignment address).any fun assignment =>
      assignment.role = role ∧ GrantInForce now assignment.expiresAt) ||
    (r.roleDelegation address).any fun delegation =>
      delegation.role = role ∧ GrantInForce now delegation.expiresAt

/-- `has_role`: the admin role includes every other. -/
def hasRole (now : Nat) (r : Roles) (address : Address) (role : Role) : Bool :=
  r.hasExactRole now address role || (role ≠ .admin && r.hasExactRole now address .admin)

variable (env : Env) (c : Control) (r : Roles) (admin : Address)

def requireRole (caller : Address) (role : Role) : Except Fault Unit :=
  require (r.hasRole env.now caller role = true) (.contract .permissionDenied)

/-- Append an entry to the audit log. -/
def audit (action : RoleAction) (actor target : Address) (role : Role) : Roles :=
  { r with roleAuditLog := r.roleAuditLog ++
    [{ timestamp := env.now, action := action, actor := actor, target := target, role := role }] }

def assignRole (target : Address) (role : Role) (expiresAt : Nat) :
    Except Fault (Roles × RoleAssignment) := do
  c.requireAdmin admin
  let assignment : RoleAssignment :=
    { role := role, grantedBy := admin, grantedAt := env.now, expiresAt := expiresAt }
  let r := { r with roleAssignment := r.roleAssignment.set target assignment }
  return (r.audit env .granted admin target role, assignment)

def revokeRole (target : Address) : Except Fault Roles := do
  c.requireAdmin admin
  let assignment ← expect (r.roleAssignment target) (.contract .roleNotFound)
  let r := { r with roleAssignment := r.roleAssignment.remove target }
  return r.audit env .revoked admin target assignment.role

/-- `delegate_role`: the administrator may delegate any role, others those they hold. -/
def delegateRole (delegator delegatee : Address) (role : Role) (expiresAt : Nat) :
    Except Fault Roles := do
  let stored ← expect c.admin (.panic "not initialized")
  unless stored = delegator do
    r.requireRole env delegator role
  let delegation : RoleDelegation :=
    { role := role, delegator := delegator, expiresAt := expiresAt }
  let r := { r with roleDelegation := r.roleDelegation.set delegatee delegation }
  return r.audit env .delegated delegator delegatee role

def revokeDelegation (delegator delegatee : Address) : Except Fault Roles := do
  let stored ← expect c.admin (.panic "not initialized")
  let delegation ← expect (r.roleDelegation delegatee) (.contract .roleDelegationNotFound)
  require (stored = delegator ∨ delegation.delegator = delegator) (.contract .permissionDenied)
  let r := { r with roleDelegation := r.roleDelegation.remove delegatee }
  return r.audit env .delegationRevoked delegator delegatee delegation.role

def purgeExpiredRole (address : Address) : Except Fault Roles := do
  c.requireAdmin admin
  let assignment ← expect (r.roleAssignment address) (.contract .roleNotFound)
  require (¬ GrantInForce env.now assignment.expiresAt) (.contract .grantNotExpired)
  let r := { r with roleAssignment := r.roleAssignment.remove address }
  return r.audit env .expired admin address assignment.role

def purgeExpiredDelegation (address : Address) : Except Fault Roles := do
  c.requireAdmin admin
  let delegation ← expect (r.roleDelegation address) (.contract .roleDelegationNotFound)
  require (¬ GrantInForce env.now delegation.expiresAt) (.contract .grantNotExpired)
  let r := { r with roleDelegation := r.roleDelegation.remove address }
  return r.audit env .expired admin address delegation.role

end Roles

/-- The entry points of the roles. -/
inductive RoleOp
  | assignRole (admin target : Address) (role expiresAt : Nat)
  | revokeRole (admin target : Address)
  | delegateRole (delegator delegatee : Address) (role expiresAt : Nat)
  | revokeRoleDelegation (caller delegatee : Address)
  | purgeExpiredRole (admin address : Address)
  | purgeExpiredDelegation (admin address : Address)

namespace RoleOp

/-- Who has to authorize the call. -/
def caller : RoleOp → Address
  | assignRole admin .. | revokeRole admin .. => admin
  | delegateRole delegator .. => delegator
  | revokeRoleDelegation caller .. => caller
  | purgeExpiredRole admin .. | purgeExpiredDelegation admin .. => admin

/-- Run an entry point, past its authorization and guard. -/
def write (env : Env) (c : Control) (r : Roles) : RoleOp → Except Fault Roles
  | assignRole admin target role expiresAt => do
    let role ← expect (Role.ofCode role) (.contract .invalidEnumValue)
    let (r, _) ← r.assignRole env c admin target role expiresAt
    return r
  | revokeRole admin target => r.revokeRole env c admin target
  | delegateRole delegator delegatee role expiresAt => do
    let role ← expect (Role.ofCode role) (.contract .invalidEnumValue)
    r.delegateRole env c delegator delegatee role expiresAt
  | revokeRoleDelegation caller delegatee => r.revokeDelegation env c caller delegatee
  | purgeExpiredRole admin address => r.purgeExpiredRole env c admin address
  | purgeExpiredDelegation admin address => r.purgeExpiredDelegation env c admin address

end RoleOp

/-! ## Key escrows -/

structure GuardianShare where
  guardian : Address
  shareIndex : Nat
  encryptedShare : Bytes
  deriving DecidableEq, Repr

structure KeyEscrow where
  issuer : Address
  threshold : Nat
  totalShares : Nat
  guardians : List Address
  createdAt : Nat
  recovered : Bool
  deriving DecidableEq, Repr

/-- The storage of `key_escrow.rs`. -/
structure Escrows where
  escrow : Store Address KeyEscrow
  guardianShare : Store (Address × Address) GuardianShare
  recoverySubmissions : Store Address (List Address)
  deriving Inhabited

/-- The shares of a deposit or a rotation, numbered from one. -/
def shareEntries (guardians : List Address) (shares : List Bytes) : List GuardianShare :=
  (guardians.zip shares).zipIdx.map fun entry =>
    { guardian := entry.1.1, shareIndex := entry.2 + 1, encryptedShare := entry.1.2 }

namespace Escrows

def empty : Escrows := default

variable (e : Escrows) (issuer : Address)

/-- Store shares, each under its guardian. -/
def storeShares (m : Store (Address × Address) GuardianShare) (entries : List GuardianShare) :
    Store (Address × Address) GuardianShare :=
  entries.foldl (fun m entry => m.set (issuer, entry.guardian) entry) m

/-- Remove the shares of some guardians. -/
def dropShares (m : Store (Address × Address) GuardianShare) (guardians : List Address) :
    Store (Address × Address) GuardianShare :=
  guardians.foldl (fun m guardian => m.remove (issuer, guardian)) m

/-- What a deposit and a rotation check of their arguments. -/
def checkConfig (guardians : List Address) (shares : List Bytes) (threshold : Nat) :
    Except Fault Unit := do
  require (guardians.length = shares.length) (.contract .invalidEscrowConfig)
  require (2 ≤ threshold ∧ threshold ≤ guardians.length) (.contract .invalidEscrowConfig)

/-- The escrow of an issuer, while it has not been spent. -/
def unspent : Except Fault KeyEscrow := do
  let escrow ← expect (e.escrow issuer) (.contract .escrowNotFound)
  require (escrow.recovered = false) (.contract .escrowAlreadyRecovered)
  return escrow

/-- The guardians that have submitted. -/
def submissions : List Address :=
  (e.recoverySubmissions issuer).getD []

def depositKeyEscrow (env : Env) (e : Escrows) (issuer : Address) (guardians : List Address)
    (shares : List Bytes) (threshold : Nat) : Except Fault (Escrows × KeyEscrow) := do
  checkConfig guardians shares threshold
  require (e.escrow issuer = none) (.contract .escrowAlreadyExists)
  let escrow : KeyEscrow :=
    { issuer := issuer, threshold := threshold, totalShares := guardians.length
      guardians := guardians, createdAt := env.now, recovered := false }
  return ({ e with
    guardianShare := storeShares issuer e.guardianShare (shareEntries guardians shares)
    escrow := e.escrow.set issuer escrow }, escrow)

def submitRecoveryShare (guardian issuer : Address) : Except Fault (Escrows × Nat) := do
  let escrow ← e.unspent issuer
  require (guardian ∈ escrow.guardians) (.contract .permissionDenied)
  require (guardian ∉ e.submissions issuer) (.contract .duplicateShareSubmission)
  let submissions := e.submissions issuer ++ [guardian]
  return ({ e with recoverySubmissions := e.recoverySubmissions.set issuer submissions },
    submissions.length)

/-- `recover_key`: the shares of those that have submitted, in the order they did. -/
def recoverKey (c : Control) (e : Escrows) (caller issuer : Address) :
    Except Fault (Escrows × List GuardianShare) := do
  let escrow ← e.unspent issuer
  let stored ← expect c.admin (.panic "not initialized")
  require (caller = escrow.issuer ∨ caller = stored) (.contract .permissionDenied)
  require (escrow.threshold ≤ (e.submissions issuer).length) (.contract .insufficientShares)
  let shares := (e.submissions issuer).filterMap fun guardian => e.guardianShare (issuer, guardian)
  return ({ e with escrow := e.escrow.set issuer { escrow with recovered := true } }, shares)

def rotateKeyEscrowGuardians (guardians : List Address) (shares : List Bytes) (threshold : Nat) :
    Except Fault (Escrows × KeyEscrow) := do
  let escrow ← e.unspent issuer
  checkConfig guardians shares threshold
  let rotated : KeyEscrow :=
    { issuer := escrow.issuer, threshold := threshold, totalShares := guardians.length
      guardians := guardians, createdAt := escrow.createdAt, recovered := false }
  return ({
    guardianShare := storeShares issuer (dropShares issuer e.guardianShare escrow.guardians)
      (shareEntries guardians shares)
    recoverySubmissions := e.recoverySubmissions.remove issuer
    escrow := e.escrow.set issuer rotated }, rotated)

def cancelKeyRecovery : Except Fault Escrows := do
  let _ ← e.unspent issuer
  return { e with recoverySubmissions := e.recoverySubmissions.set issuer [] }

end Escrows

/-- The entry points of the escrows. -/
inductive EscrowOp
  | depositKeyEscrow (issuer : Address) (guardians : List Address) (shares : List Bytes)
      (threshold : Nat)
  | rotateKeyEscrowGuardians (issuer : Address) (guardians : List Address) (shares : List Bytes)
      (threshold : Nat)
  | submitRecoveryShare (guardian issuer : Address)
  | recoverKey (caller issuer : Address)
  | cancelKeyRecovery (issuer : Address)

namespace EscrowOp

def caller : EscrowOp → Address
  | depositKeyEscrow issuer .. | rotateKeyEscrowGuardians issuer .. => issuer
  | submitRecoveryShare guardian .. => guardian
  | recoverKey caller .. => caller
  | cancelKeyRecovery issuer => issuer

/-- Run an entry point, past its authorization and guard. -/
def write (env : Env) (c : Control) (r : Roles) (e : Escrows) : EscrowOp → Except Fault Escrows
  | depositKeyEscrow issuer guardians shares threshold => do
    r.requireRole env issuer .issuer
    Prod.fst <$> e.depositKeyEscrow env issuer guardians shares threshold
  | rotateKeyEscrowGuardians issuer guardians shares threshold => do
    r.requireRole env issuer .issuer
    Prod.fst <$> e.rotateKeyEscrowGuardians issuer guardians shares threshold
  | submitRecoveryShare guardian issuer => Prod.fst <$> e.submitRecoveryShare guardian issuer
  | recoverKey caller issuer => Prod.fst <$> e.recoverKey c caller issuer
  | cancelKeyRecovery issuer => e.cancelKeyRecovery issuer

end EscrowOp

/-! ## Vetoes -/

inductive VetoStatus
  | pending | ready | executed | cancelled
  deriving DecidableEq, Repr

structure VetoRequest where
  vetoId : Nat
  credentialId : Nat
  sliceId : Nat
  attestor : Address
  vetoAuthority : Address
  reason : Option Bytes
  requestedAt : Nat
  unlocksAt : Nat
  status : VetoStatus
  evidenceHash : Option Bytes
  deriving DecidableEq, Repr

/-- The storage of `attestation_veto.rs`. -/
structure Vetoes where
  vetoCount : Nat
  vetoRequest : Store Nat VetoRequest
  vetoList : Store Nat (List Nat)
  vetoAuthorities : List Address
  vetoTimeLock : Nat
  vetoExecutionLog : List (Nat × Nat × Address)

namespace Vetoes

/-- Nobody is an authority, and the time lock is 48 hours. -/
def empty : Vetoes where
  vetoCount := 0
  vetoRequest := fun _ => none
  vetoList := fun _ => none
  vetoAuthorities := []
  vetoTimeLock := 172800
  vetoExecutionLog := []

/-- `init_veto_authorities`: anybody may call it, and it replaces what was there. -/
def initVetoAuthorities (v : Vetoes) (authorities : List Address) : Vetoes :=
  { v with vetoAuthorities := authorities, vetoTimeLock := 172800 }

def requestVeto (env : Env) (v : Vetoes) (vetoAuthority : Address) (credentialId sliceId : Nat)
    (attestor : Address) (reason evidenceHash : Option Bytes) : Except Fault (Vetoes × Nat) := do
  require (vetoAuthority ∈ v.vetoAuthorities) (.panic "not authorized to request veto")
  let vetoId := saturatingAdd u64Max v.vetoCount 1
  let veto : VetoRequest :=
    { vetoId := vetoId, credentialId := credentialId, sliceId := sliceId, attestor := attestor
      vetoAuthority := vetoAuthority, reason := reason, requestedAt := env.now
      unlocksAt := saturatingAdd u64Max env.now v.vetoTimeLock, status := .pending
      evidenceHash := evidenceHash }
  return ({ v with
    vetoCount := vetoId
    vetoRequest := v.vetoRequest.set vetoId veto
    vetoList := Index.push v.vetoList credentialId vetoId }, vetoId)

def cancelVeto (v : Vetoes) (canceller : Address) (vetoId : Nat) : Except Fault Vetoes := do
  let veto ← expect (v.vetoRequest vetoId) (.panic "veto request not found")
  require (veto.vetoAuthority = canceller) (.panic "only veto authority can cancel")
  require (veto.status ≠ .executed ∧ veto.status ≠ .cancelled)
    (.panic "cannot cancel executed or already-cancelled veto")
  return { v with vetoRequest := v.vetoRequest.set vetoId { veto with status := .cancelled } }

/-- `execute_veto`: whether the veto was executed.  Before its time it is marked `Ready`. -/
def executeVeto (env : Env) (v : Vetoes) (executor : Address) (vetoId : Nat) :
    Except Fault (Vetoes × Bool) := do
  let veto ← expect (v.vetoRequest vetoId) (.panic "veto request not found")
  require (veto.vetoAuthority = executor) (.panic "not authorized to execute this veto")
  require (veto.status = .pending ∨ veto.status = .ready) (.panic "veto is not in executable state")
  if env.now < veto.unlocksAt then
    return ({ v with vetoRequest := v.vetoRequest.set vetoId { veto with status := .ready } },
      false)
  else
    return ({ v with
      vetoRequest := v.vetoRequest.set vetoId { veto with status := .executed }
      vetoExecutionLog := v.vetoExecutionLog ++
        [(veto.vetoId, veto.credentialId, veto.vetoAuthority)] }, true)

end Vetoes

/-- The entry points of the vetoes. -/
inductive VetoOp
  | initVetoAuthorities (admin : Address) (authorities : List Address)
  | requestVeto (vetoAuthority : Address) (credentialId sliceId : Nat) (attestor : Address)
      (reason evidenceHash : Option Bytes)
  | cancelVeto (canceller : Address) (vetoId : Nat)
  | executeVeto (executor : Address) (vetoId : Nat)
  | setVetoTimelock (admin : Address) (seconds : Nat)

namespace VetoOp

def caller : VetoOp → Address
  | initVetoAuthorities admin .. => admin
  | requestVeto vetoAuthority .. => vetoAuthority
  | cancelVeto canceller .. => canceller
  | executeVeto executor .. => executor
  | setVetoTimelock admin .. => admin

/-- Run an entry point, past its authorization. -/
def write (env : Env) (v : Vetoes) : VetoOp → Except Fault Vetoes
  | initVetoAuthorities _ authorities => .ok (v.initVetoAuthorities authorities)
  | requestVeto vetoAuthority credentialId sliceId attestor reason evidenceHash =>
    Prod.fst <$> v.requestVeto env vetoAuthority credentialId sliceId attestor reason evidenceHash
  | cancelVeto canceller vetoId => v.cancelVeto canceller vetoId
  | executeVeto executor vetoId => Prod.fst <$> v.executeVeto env executor vetoId
  | setVetoTimelock _ seconds => .ok { v with vetoTimeLock := seconds }

end VetoOp

/-! ## Transfer restrictions -/

structure TransferRestriction where
  credentialType : Nat
  isTransferable : Bool
  configuredAt : Nat
  deriving DecidableEq, Repr

/-- `is_credential_type_transferable`: a type is, unless it is configured not to be. -/
def isCredentialTypeTransferable (m : Store Nat TransferRestriction) (credentialType : Nat) :
    Bool :=
  ((m credentialType).map (·.isTransferable)).getD true

/-- `set_transfer_restriction`, past its authorization. -/
def setTransferRestriction (env : Env) (c : Control) (m : Store Nat TransferRestriction)
    (admin : Address) (credentialType : Nat) (isTransferable : Bool) :
    Except Fault (Store Nat TransferRestriction) := do
  c.assertAdmin admin
  return m.set credentialType
    { credentialType := credentialType, isTransferable := isTransferable, configuredAt := env.now }

/-! ## The annex -/

/-- The storage of the four. -/
structure Annex where
  roles : Roles
  escrows : Escrows
  vetoes : Vetoes
  transferRestriction : Store Nat TransferRestriction

def Annex.empty : Annex where
  roles := .empty
  escrows := .empty
  vetoes := .empty
  transferRestriction := fun _ => none

/-- An entry point of the annex. -/
inductive AnnexOp
  | role (op : RoleOp)
  | escrow (op : EscrowOp)
  | veto (op : VetoOp)
  | setTransferRestriction (admin : Address) (credentialType : Nat) (isTransferable : Bool)

namespace AnnexOp

def caller : AnnexOp → Address
  | role op => op.caller
  | escrow op => op.caller
  | veto op => op.caller
  | setTransferRestriction admin .. => admin

/-- The guard an entry point passes: the vetoes and the restrictions have none. -/
def guard : AnnexOp → EntryGuard
  | role _ | escrow _ => .notPaused
  | veto _ | setTransferRestriction .. => .unguarded

/-- Write the annex. -/
def write (env : Env) (c : Control) (a : Annex) : AnnexOp → Except Fault Annex
  | role op => (fun r => { a with roles := r }) <$> op.write env c a.roles
  | escrow op => (fun e => { a with escrows := e }) <$> op.write env c a.roles a.escrows
  | veto op => (fun v => { a with vetoes := v }) <$> op.write env a.vetoes
  | setTransferRestriction admin credentialType isTransferable =>
    (fun m => { a with transferRestriction := m }) <$>
      QuorumProof.setTransferRestriction env c a.transferRestriction admin credentialType
        isTransferable

/-- Run an entry point: every one asks for its authorization, passes its guard, and goes on to write
the annex. -/
def apply (env : Env) (s : State) (a : Annex) (op : AnnexOp) : Except Fault (State × Annex) := do
  requireAuth env op.caller
  let control ← s.control.passGuard env op.guard
  let a ← op.write env control a
  return ({ s with control := control }, a)

end AnnexOp

/-! ## Runs -/

/-- An operation, of the contract proper or of the annex. -/
inductive AnnexedOp
  | contract (op : Op)
  | annex (op : AnnexOp)

/-- A call, as `Call` is one. -/
structure AnnexedCall where
  elapsed : Nat
  auths : List Address
  op : AnnexedOp

/-- A world and the annex in it. -/
structure AnnexedWorld where
  world : World
  annex : Annex

namespace AnnexedWorld

def deployed : AnnexedWorld := { world := .deployed, annex := .empty }

def env (host : Host) (w : AnnexedWorld) (call : AnnexedCall) : Env :=
  { host with now := w.world.time + call.elapsed, auths := call.auths }

@[simp] theorem env_now (host : Host) (w : AnnexedWorld) (call : AnnexedCall) :
    (w.env host call).now = w.world.time + call.elapsed := rfl

def apply (env : Env) (w : AnnexedWorld) : AnnexedOp → Except Fault (State × Annex)
  | .contract op => (fun s => (s, w.annex)) <$> op.apply env w.world.state
  | .annex op => op.apply env w.world.state w.annex

def next (host : Host) (w : AnnexedWorld) (call : AnnexedCall) : AnnexedWorld :=
  match w.apply (w.env host call) call.op with
  | .ok (s, a) => { world := { time := w.world.time + call.elapsed, state := s }, annex := a }
  | .error _ => { w with world := { w.world with time := w.world.time + call.elapsed } }

def after (host : Host) (calls : List AnnexedCall) : AnnexedWorld :=
  Machine.run (next host) deployed calls

theorem after_append (host : Host) (pre : List AnnexedCall) (call : AnnexedCall) :
    after host (pre ++ [call]) = (after host pre).next host call := by
  rw [after, Machine.run_append]
  rfl

/-- An operation meets `C` in the world it is called in. -/
def Meets (C : AnnexedWorld → AnnexedOp → Prop) (w : AnnexedWorld) (call : AnnexedCall) : Prop :=
  C w call.op

instance (C : AnnexedWorld → AnnexedOp → Prop) [∀ w op, Decidable (C w op)] (w : AnnexedWorld)
    (call : AnnexedCall) : Decidable (Meets C w call) :=
  inferInstanceAs (Decidable (C w call.op))

def Completes (host : Host) (w : AnnexedWorld) (call : AnnexedCall) : Prop :=
  ∃ r, w.apply (w.env host call) call.op = .ok r
  deriving Decidable

variable {host : Host} {w : AnnexedWorld} {call : AnnexedCall}

@[simp] theorem next_time (host : Host) (w : AnnexedWorld) (call : AnnexedCall) :
    (w.next host call).world.time = w.world.time + call.elapsed := by
  unfold next
  split <;> rfl

theorem next_of_ok {s : State} {a : Annex} (h : w.apply (w.env host call) call.op = .ok (s, a)) :
    w.next host call = ⟨⟨w.world.time + call.elapsed, s⟩, a⟩ := by
  simp only [next, h]

theorem next_of_error {fault : Fault} (h : w.apply (w.env host call) call.op = .error fault) :
    w.next host call = ⟨⟨w.world.time + call.elapsed, w.world.state⟩, w.annex⟩ := by
  simp only [next, h]

theorem Completes.contract {op : Op} (h : w.Completes host call) (hop : call.op = .contract op) :
    ∃ s, op.apply (w.env host call) w.world.state = .ok s := by
  obtain ⟨r, hr⟩ := h
  rw [hop] at hr
  obtain ⟨s, hs, -⟩ := map_eq_ok.mp hr
  exact ⟨s, hs⟩

/-- **A call of the contract proper** leaves the annex, and aborts or does what it ensures. -/
theorem next_of_contract (host : Host) (w : AnnexedWorld) (call : AnnexedCall) {op : Op}
    {Q : State → Prop} (hop : call.op = .contract op)
    (h : Ensures (op.apply (w.env host call) w.world.state) Q) (hstay : Q w.world.state) :
    Q (w.next host call).world.state ∧ (w.next host call).annex = w.annex := by
  cases hcall : op.apply (w.env host call) w.world.state with
  | ok s =>
    have happly : w.apply (w.env host call) call.op = .ok (s, w.annex) := by
      rw [hop]
      exact congrArg (Functor.map _) hcall
    rw [next_of_ok happly]
    exact ⟨h s hcall, rfl⟩
  | error fault =>
    have happly : w.apply (w.env host call) call.op = .error fault := by
      rw [hop]
      exact congrArg (Functor.map _) hcall
    rw [next_of_error happly]
    exact ⟨hstay, rfl⟩

/-- **A call of the annex** passes a guard, and aborts or writes what it ensures. -/
theorem next_of_annex (host : Host) (w : AnnexedWorld) (call : AnnexedCall) {op : AnnexOp}
    {Q : Annex → Prop} (hop : call.op = .annex op)
    (h : ∀ c : Control, c.admin = w.world.state.control.admin →
      Ensures (op.write (w.env host call) c w.annex) Q) (hstay : Q w.annex) :
    (∃ control, w.world.state.control.Passes (w.env host call) control ∧
      (w.next host call).world.state = { w.world.state with control := control }) ∧
    Q (w.next host call).annex := by
  cases hcall : w.apply (w.env host call) call.op with
  | ok r =>
    rw [next_of_ok hcall]
    simp only [hop, apply, AnnexOp.apply, bind_eq_ok, pure_eq_ok] at hcall
    obtain ⟨-, -, control, hguard, a, hwrite, rfl⟩ := hcall
    have hpasses := State.passGuard_passes _ _ op.guard control hguard
    exact ⟨⟨control, hpasses, rfl⟩, h control hpasses.admin a hwrite⟩
  | error fault =>
    rw [next_of_error hcall]
    exact ⟨⟨_, .refl _ _, rfl⟩, hstay⟩

/-- **Either the annex stays**, which it does unless a call of its own completes, **or that call has
written it.** -/
theorem next_annex (host : Host) (w : AnnexedWorld) (call : AnnexedCall) :
    ((∀ op, call.op = .annex op → ¬ w.Completes host call) ∧
      (w.next host call).annex = w.annex) ∨
    ∃ op, call.op = .annex op ∧ w.Completes host call ∧ ∃ control : Control,
      w.world.state.control.passGuard (w.env host call) op.guard = .ok control ∧
      op.write (w.env host call) control w.annex = .ok (w.next host call).annex := by
  cases hcall : w.apply (w.env host call) call.op with
  | error fault =>
    rw [next_of_error hcall]
    refine .inl ⟨?_, rfl⟩
    rintro op - ⟨r, hr⟩
    exact absurd (hcall.symm.trans hr) (by simp)
  | ok r =>
    rw [next_of_ok hcall]
    cases hop : call.op with
    | contract op =>
      refine .inl ⟨by simp, ?_⟩
      rw [hop] at hcall
      obtain ⟨s, -, rfl⟩ := map_eq_ok.mp hcall
      rfl
    | annex op =>
      have happly := hcall
      simp only [hop, apply, AnnexOp.apply, bind_eq_ok, pure_eq_ok] at happly
      obtain ⟨-, -, control, hguard, a, hwrite, rfl⟩ := happly
      exact .inr ⟨op, rfl, ⟨_, hcall⟩, control, hguard, hwrite⟩

end AnnexedWorld

namespace Sample

/-- A call of the contract proper. -/
def proper (call : Call) : AnnexedCall :=
  { elapsed := call.elapsed, auths := call.auths, op := .contract call.op }

/-- A call of the annex, signed by the address it asks for. -/
def annexed (op : AnnexOp) : AnnexedCall :=
  { elapsed := 0, auths := [op.caller], op := .annex op }

end Sample

end QuorumProof
