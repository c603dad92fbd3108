import QuorumProof.Zk.State

/-!
# Zk/Mpc — multi-party verification sessions

A session collects contributions until its threshold of approvals is reached.  A contribution and
the running tally of approvals are stored under keys of one kind, told apart by the hash in the key
alone; reading a contribution where a tally is stored, or the other way round, aborts.
-/

namespace QuorumProof.Zk

open Guarded

/-- The slot of a verifier's contribution: SHA-256 of the session id and the verifier's XDR. -/
def verifierSlot (host : Host) (sessionId : Bytes) (verifier : Address) : Bytes :=
  host.sha256 (sessionId ++ host.toXdr verifier)

/-- The slot of a session's tally: SHA-256 of the session id and the byte `0xFF`. -/
def tallySlot (host : Host) (sessionId : Bytes) : Bytes := host.sha256 (sessionId ++ [0xFF])

namespace Mpc

variable (m : Mpc) (env : Env)

def registerMpcVerifier (c : Control) (env : Env) (admin verifier : Address) :
    Except Fault Mpc := do
  c.requireAdmin env admin
  if verifier ∈ m.verifierRegistry then return m
  return { m with verifierRegistry := m.verifierRegistry ++ [verifier] }

def getMpcVerifierCount : Nat := m.verifierRegistry.length

def createMpcSession (c : Control) (env : Env) (admin : Address) (sessionId : Bytes)
    (threshold totalVerifiers : Nat) : Except Fault (Mpc × MpcSession) := do
  c.requireAdmin env admin
  require (1 ≤ threshold) (.panic "threshold must be at least 1")
  require (threshold ≤ totalVerifiers) (.panic "total_verifiers must be >= threshold")
  require (totalVerifiers ≤ m.getMpcVerifierCount)
    (.panic "total_verifiers exceeds registered verifiers")
  require (m.session sessionId = none) (.panic "session already exists")
  let session : MpcSession :=
    { sessionId, threshold, totalVerifiers, status := .pending, createdAtLedger := env.sequence }
  return ({ m with
    session := m.session.set sessionId session
    contributionCount := m.contributionCount.set sessionId 0 }, session)

/-- The contribution stored in a slot. -/
def readContribution (key : Bytes × Bytes) : Except Fault (Option MpcContribution) :=
  match m.slot key with
  | none => .ok none
  | some (.contribution contribution) => .ok (some contribution)
  | some (.tally _) => .error .conversion

/-- The tally stored in a slot, from 0. -/
def readTally (key : Bytes × Bytes) : Except Fault Nat :=
  match m.slot key with
  | none => .ok 0
  | some (.tally approvals) => .ok approvals
  | some (.contribution _) => .error .conversion

/-- Record a verifier's contribution, once. -/
def recordContribution (verifier : Address) (sessionId : Bytes) (approved : Bool) :
    Except Fault Mpc := do
  let contribKey := (sessionId, verifierSlot env.toHost sessionId verifier)
  let existing ← m.readContribution contribKey
  require (existing = none) (.panic "verifier has already contributed")
  let count ← checkedAdd (2 ^ 32) ((m.contributionCount sessionId).getD 0) 1
  return { m with
    slot := m.slot.set contribKey (.contribution ⟨verifier, approved, env.sequence⟩)
    contributionCount := m.contributionCount.set sessionId count }

variable (sessionId : Bytes) (approved : Bool)

/-- Update the approval tally. -/
def updateTally : Except Fault (Mpc × Nat) := do
  let tallyKey := (sessionId, tallySlot env.toHost sessionId)
  let oldApprovals ← m.readTally tallyKey
  let newApprovals ← if approved then checkedAdd (2 ^ 32) oldApprovals 1 else pure oldApprovals
  return ({ m with slot := m.slot.set tallyKey (.tally newApprovals) }, newApprovals)

def submitMpcContribution (verifier : Address) (sessionId : Bytes) (approved : Bool) :
    Except Fault (Mpc × MpcSession) := do
  requireAuth env verifier
  let session ← expect (m.session sessionId) (.panic "MPC session not found")
  require (session.status = .pending) (.panic "session is not pending")
  let m ← m.recordContribution env verifier sessionId approved
  let (m, approvalTally) ← m.updateTally env sessionId approved
  let session :=
    if session.threshold ≤ approvalTally then { session with status := .approved } else session
  return ({ m with session := m.session.set sessionId session }, session)

def isMpcSessionApproved : Bool :=
  (m.session sessionId).any (·.status = .approved)

def getMpcContributionCount : Nat :=
  (m.contributionCount sessionId).getD 0

end Mpc

end QuorumProof.Zk
