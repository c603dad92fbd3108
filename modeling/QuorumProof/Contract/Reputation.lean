import QuorumProof.Contract.Slice

/-!
# Contract/Reputation — suspensions, slashes and reputation

An attestor is suspended slice by slice and carries one reputation record.  Attesting earns
reputation, an upheld challenge costs it, and a low score suspends the attestor in the slice of the
challenge.

Source: `suspend_attestor`, `is_attestor_suspended`, `resume_attestor`, `slash_attestor`,
`set_attestor_reputation_config`, `get_attestor_reputation_config`, `load_or_init_reputation`,
`reward_attestor_reputation`, `penalise_attestor_reputation` and the stake entry points.
-/

namespace QuorumProof

open Guarded

namespace Discipline

variable (d : Discipline) (sliceId : Nat) (attestor : Address)

def isAttestorSuspended : Bool :=
  (d.suspendedAttestor (sliceId, attestor)).getD false

/-- Mark an attestor suspended in a slice. -/
def suspend : Discipline :=
  { d with suspendedAttestor := d.suspendedAttestor.set (sliceId, attestor) true }

/-- Lift an attestor's suspension in a slice. -/
def resume : Discipline :=
  { d with suspendedAttestor := d.suspendedAttestor.remove (sliceId, attestor) }

/-- What `slash_attestor` and `advance_challenge_round` write: a suspension in the slice, and one
more slash. -/
def slash : Except Fault Discipline := do
  let count ← checkedAdd (2 ^ 64) ((d.slashCount attestor).getD 0) 1
  return { d.suspend sliceId attestor with slashCount := d.slashCount.set attestor count }

def getAttestorReputationConfig : AttestorReputationConfig :=
  d.attestorReputationConfig.getD
    { penaltyPerSlash := 20, rewardPerAttestation := 1, stakingEnabled := false
      slashFractionBps := 1000, suspensionThreshold := 20 }

def loadOrInitReputation : AttestorReputationRecord :=
  (d.attestorReputation attestor).getD
    { attestor := attestor, score := 100, totalAttestations := 0, confirmedMalicious := 0
      slashCount := 0, stake := 0, pendingSlashAmount := 0, lastUpdatedAt := 0 }

/-- Store an attestor's reputation. -/
def setReputation (record : AttestorReputationRecord) : Discipline :=
  { d with attestorReputation := d.attestorReputation.set attestor record }

def rewardAttestorReputation (env : Env) (d : Discipline) (attestor : Address) : Discipline :=
  let config := d.getAttestorReputationConfig
  let held := d.loadOrInitReputation attestor
  d.setReputation attestor
    { held with
      totalAttestations := saturatingAdd u64Max held.totalAttestations 1
      score := min (saturatingAdd u32Max held.score config.rewardPerAttestation) 100
      lastUpdatedAt := env.now }

/-- The stake a penalty takes. -/
def slashAmount (config : AttestorReputationConfig) (stake : Nat) : Nat :=
  if config.stakingEnabled = true ∧ 0 < stake then
    min (stake * config.slashFractionBps) u64Max / 10000
  else 0

def penaliseAttestorReputation (env : Env) (d : Discipline) (attestor : Address)
    (sliceId : Nat) : Discipline :=
  let config := d.getAttestorReputationConfig
  let held := d.loadOrInitReputation attestor
  let amount := slashAmount config held.stake
  let record :=
    { held with
      score := held.score - config.penaltyPerSlash
      confirmedMalicious := saturatingAdd u64Max held.confirmedMalicious 1
      slashCount := saturatingAdd u64Max held.slashCount 1
      stake := held.stake - amount
      pendingSlashAmount := saturatingAdd u64Max held.pendingSlashAmount amount
      lastUpdatedAt := env.now }
  let d := d.setReputation attestor record
  if record.score ≤ config.suspensionThreshold then d.suspend sliceId attestor else d

end Discipline

namespace State

variable (env : Env) (s : State)

/-! ## Suspension -/

def suspendAttestor (creator : Address) (sliceId : Nat) (attestor : Address) :
    Except Fault (State × Unit) := do
  requireAuth env creator
  let s ← s.requireNotPaused env
  let slice ← s.getSlice sliceId
  requireCreator slice creator "only slice creator can suspend attestors"
  require (attestor ∈ slice.attestors) (.panic "attestor not in slice")
  return ({ s with discipline := s.discipline.suspend sliceId attestor }, ())

def resumeAttestor (creator : Address) (sliceId : Nat) (attestor : Address) :
    Except Fault (State × Unit) := do
  requireAuth env creator
  let s ← s.requireNotPaused env
  let slice ← s.getSlice sliceId
  requireCreator slice creator "only slice creator can resume attestors"
  return ({ s with discipline := s.discipline.resume sliceId attestor }, ())

/-- The caller of `slash_attestor` is the administrator, unless it is the contract's own address:
that address is not asked to authorize. -/
def requireSlasher (admin caller : Address) : Except Fault Unit :=
  if caller = env.self then .ok ()
  else do
    requireAuth env caller
    require (caller = admin) (.panic "only admin or contract can slash attestors")

def slashAttestor (caller : Address) (sliceId : Nat) (attestor : Address) :
    Except Fault (State × Unit) := do
  let admin ← expect s.control.admin (.panic "not initialized")
  requireSlasher env admin caller
  let d ← s.discipline.slash sliceId attestor
  return ({ s with discipline := d }, ())

/-! ## Reputation settings and stake -/

def setAttestorReputationConfig (admin : Address) (config : AttestorReputationConfig) :
    Except Fault (State × Unit) := do
  requireAuth env admin
  let stored ← expect s.control.admin (.panic "not initialized")
  require (stored = admin) (.panic "only admin can configure reputation")
  require (0 < config.penaltyPerSlash ∧ config.penaltyPerSlash ≤ 100)
    (.panic "penalty_per_slash out of range")
  require (0 < config.rewardPerAttestation ∧ config.rewardPerAttestation ≤ 100)
    (.panic "reward_per_attestation out of range")
  require (config.slashFractionBps ≤ 10000) (.panic "slash_fraction_bps must be <= 10000")
  require (config.suspensionThreshold < 100) (.panic "suspension_threshold must be < 100")
  return ({ s with discipline :=
    { s.discipline with attestorReputationConfig := some config } }, ())

/-- Store an attestor's reputation. -/
def setReputation (attestor : Address) (record : AttestorReputationRecord) : State :=
  { s with discipline := s.discipline.setReputation attestor record }

def depositAttestorStake (attestor : Address) (amount : Nat) : Except Fault (State × Unit) := do
  requireAuth env attestor
  let s ← s.requireNotPaused env
  require (0 < amount) (.panic "stake amount must be greater than zero")
  require (s.discipline.getAttestorReputationConfig.stakingEnabled = true)
    (.panic "staking is not enabled")
  let record := s.discipline.loadOrInitReputation attestor
  return (s.setReputation attestor
    { record with
      stake := saturatingAdd u64Max record.stake amount
      lastUpdatedAt := env.now }, ())

def withdrawAttestorStake (attestor : Address) (amount : Nat) : Except Fault (State × Unit) := do
  requireAuth env attestor
  let s ← s.requireNotPaused env
  require (0 < amount) (.panic "withdrawal amount must be greater than zero")
  require (s.discipline.getAttestorReputationConfig.stakingEnabled = true)
    (.panic "staking is not enabled")
  let record := s.discipline.loadOrInitReputation attestor
  require (amount ≤ record.stake) (.panic "insufficient stake to withdraw")
  return (s.setReputation attestor
    { record with stake := record.stake - amount, lastUpdatedAt := env.now }, ())

def collectSlashedStake (admin attestor : Address) : Except Fault (State × Nat) := do
  requireAuth env admin
  let s ← s.enforceWriteLimit env
  let stored ← expect s.control.admin (.panic "not initialized")
  require (stored = admin) (.panic "only admin can collect slashed stake")
  let record := s.discipline.loadOrInitReputation attestor
  return (s.setReputation attestor
    { record with pendingSlashAmount := 0, lastUpdatedAt := env.now },
    record.pendingSlashAmount)

end State

end QuorumProof
