import QuorumProof.Contract.Control

/-!
# Contract/Administration — the entry points that write control storage only

`initialize`, the pause switch, the circuit breaker's transitions, and the configuration of rate
limit, quota, proof of work and congestion control.  `ControlOp.untracked` stands for the entry
points whose writes lie outside the storage modelled here: of such a call only its guard remains.
-/

namespace QuorumProof

open Guarded

/-- The guard an entry point opens with. -/
inductive EntryGuard
  /-- No guard. -/
  | unguarded
  /-- `enforce_write_limit` -/
  | writeLimit
  /-- `require_not_paused` -/
  | notPaused
  /-- `require_not_paused`, then `require_rate_limit` on the caller. -/
  | notPausedRateLimited (caller : Address)

namespace Control

variable (env : Env) (c : Control)

/-- Pass an entry guard. -/
def passGuard : EntryGuard → Except Fault Control
  | .unguarded => .ok c
  | .writeLimit => c.enforceWriteLimit env
  | .notPaused => c.requireNotPaused env
  | .notPausedRateLimited caller => do
    let c ← c.requireNotPaused env
    c.requireRateLimit env caller

variable (admin issuer : Address)

/-- `initialize`. -/
def initializeContract : Except Fault Control := do
  require (c.admin = none) (.panic "already initialized")
  requireAuth env admin
  return { c with admin := some admin }

def updateAdmin (newAdmin : Address) : Except Fault Control := do
  requireAuth env admin
  c.assertAdmin admin
  return { c with admin := some newAdmin }

/-- `pause` and `unpause` write one flag. -/
def setPaused (paused : Bool) : Except Fault Control := do
  requireAuth env admin
  c.assertAdmin admin
  return { c with paused := paused }

def pause : Except Fault Control :=
  c.setPaused env admin true

def unpause : Except Fault Control :=
  c.setPaused env admin false

/-- The activation record `emergency_pause` and `emergency_degrade` store. -/
def activation (reason : String) (state : CircuitBreakerState) : CircuitBreakerActivation where
  state := state
  activatedAt := env.now
  activatedBy := admin
  reason := reason
  autoRecoverAt := saturatingAdd u64Max env.now c.breakerConfig.ttlSeconds

def emergencyPause (reason : String) : Except Fault Control := do
  requireAuth env admin
  c.requireAdmin admin
  return { c with
    circuitBreakerActivation := some (c.activation env admin reason .paused)
    circuitBreakerState := .paused
    paused := true }

def emergencyDegrade (reason : String) : Except Fault Control := do
  requireAuth env admin
  c.requireAdmin admin
  return { c with
    circuitBreakerActivation := some (c.activation env admin reason .degraded)
    circuitBreakerState := .degraded
    degradedWriteCount := 0 }

def resume : Except Fault Control := do
  requireAuth env admin
  c.requireAdmin admin
  return c.recovered

def setCircuitBreakerConfig (config : CircuitBreakerConfig) : Except Fault Control := do
  requireAuth env admin
  c.requireAdmin admin
  return { c with circuitBreakerConfig := some config }

/-- The bounds `set_rate_limit_config` and its per-issuer variant check. -/
def validateRateLimitConfig (config : RateLimitConfig) : Except Fault Unit := do
  require (0 < config.maxCalls) (.panic "max_calls must be greater than 0")
  require (0 < config.windowSeconds) (.panic "window_seconds must be greater than 0")

def setRateLimitConfig (config : RateLimitConfig) : Except Fault Control := do
  requireAuth env admin
  c.assertAdmin admin
  validateRateLimitConfig config
  return { c with rateLimitConfig := some config }

def setIssuerRateLimitConfig (config : RateLimitConfig) : Except Fault Control := do
  requireAuth env admin
  c.assertAdmin admin
  validateRateLimitConfig config
  return { c with issuerRateLimitConfig := c.issuerRateLimitConfig.set issuer config }

def addRateLimitWhitelist : Except Fault Control := do
  requireAuth env admin
  c.assertAdmin admin
  return { c with rateLimitWhitelist := c.rateLimitWhitelist.set issuer true }

def removeRateLimitWhitelist : Except Fault Control := do
  requireAuth env admin
  c.assertAdmin admin
  return { c with rateLimitWhitelist := c.rateLimitWhitelist.remove issuer }

def adminBypassRateLimit (bypassedFor : Address) (reason : String) : Except Fault Control := do
  requireAuth env admin
  c.requireAdmin admin
  require (reason ≠ "") (.panic "reason must not be empty")
  return { c with rateLimitState := c.rateLimitState.remove bypassedFor }

def setIssuerQuota (quota : IssuerQuota) : Except Fault Control := do
  requireAuth env admin
  c.assertAdmin admin
  require (0 < quota.maxCredentials) (.panic "max_credentials must be > 0")
  require (0 < quota.windowSeconds) (.panic "window_seconds must be > 0")
  require (quota.alertThresholdPct ≤ 100) (.panic "alert_threshold_pct must be 0-100")
  return { c with issuerQuota := c.issuerQuota.set issuer quota }

def removeIssuerQuota : Except Fault Control := do
  requireAuth env admin
  c.assertAdmin admin
  return { c with
    issuerQuota := c.issuerQuota.remove issuer
    issuerQuotaUsage := c.issuerQuotaUsage.remove issuer }

def setPowDifficulty (difficulty : Nat) : Except Fault Control := do
  requireAuth env admin
  c.assertAdmin admin
  return { c with powDifficulty := some difficulty }

/-! ## Congestion control -/

/-- `get_congestion_config`, with its defaults. -/
def getCongestionConfig : CongestionConfig :=
  c.congestionConfig.getD
    { highLoadThreshold := 800, lowLoadThreshold := 200, reduceFactorBps := 5000
      increaseFactorBps := 12000, minMaxCalls := 50, maxMaxCalls := 10000 }

def setCongestionConfig (cfg : CongestionConfig) : Except Fault Control := do
  requireAuth env admin
  c.requireAdmin admin
  require (cfg.lowLoadThreshold < cfg.highLoadThreshold)
    (.panic "low_load_threshold must be less than high_load_threshold")
  require (1 ≤ cfg.reduceFactorBps ∧ cfg.reduceFactorBps ≤ 10000)
    (.panic "reduce_factor_bps must be in [1, 10000]")
  require (10000 < cfg.increaseFactorBps ∧ cfg.increaseFactorBps ≤ 50000)
    (.panic "increase_factor_bps must be in (10000, 50000]")
  require (1 ≤ cfg.minMaxCalls) (.panic "min_max_calls must be >= 1")
  require (cfg.minMaxCalls ≤ cfg.maxMaxCalls)
    (.panic "max_max_calls must be >= min_max_calls")
  return { c with congestionConfig := some cfg }

/-- The rate limit a change to `level` installs.  The products saturate at `u64::MAX`, the quotients
are cast to `u32`. -/
def adjustedMaxCalls (cfg : CongestionConfig) (maxCalls : Nat) : CongestionLevel → Nat
  | .high => max (min (maxCalls * cfg.reduceFactorBps) u64Max / 10000 % 2 ^ 32) cfg.minMaxCalls
  | .low => min (min (maxCalls * cfg.increaseFactorBps) u64Max / 10000 % 2 ^ 32) cfg.maxMaxCalls
  | .normal => max (min 1000 cfg.maxMaxCalls) cfg.minMaxCalls

def updateCongestionAndAdjust : Except Fault Control := do
  requireAuth env admin
  c.requireAdmin admin
  let cfg := c.getCongestionConfig
  let limit := c.getRateLimitConfig
  let metrics := c.congestionMetrics.getD
    { callsInWindow := 0, windowStart := env.now, level := .normal, updatedAt := env.now }
  let metrics :=
    if limit.windowSeconds ≤ env.now - metrics.windowStart then
      { metrics with callsInWindow := 0, windowStart := env.now }
    else metrics
  let calls := saturatingAdd u64Max metrics.callsInWindow 1
  let level : CongestionLevel :=
    if cfg.highLoadThreshold < calls then .high
    else if calls < cfg.lowLoadThreshold then .low
    else .normal
  let c :=
    if level = metrics.level then c
    else { c with
      rateLimitConfig := some { limit with maxCalls := adjustedMaxCalls cfg limit.maxCalls level } }
  return { c with
    congestionMetrics :=
      some { metrics with callsInWindow := calls, level := level, updatedAt := env.now } }

end Control

/-- The entry points that write control storage only. -/
inductive ControlOp
  | initializeContract (admin : Address)
  | updateAdmin (admin newAdmin : Address)
  | pause (admin : Address)
  | unpause (admin : Address)
  | emergencyPause (admin : Address) (reason : String)
  | emergencyDegrade (admin : Address) (reason : String)
  | resume (admin : Address)
  | getCircuitBreakerState
  | setCircuitBreakerConfig (admin : Address) (config : CircuitBreakerConfig)
  | setRateLimitConfig (admin : Address) (config : RateLimitConfig)
  | setIssuerRateLimitConfig (admin issuer : Address) (config : RateLimitConfig)
  | addRateLimitWhitelist (admin issuer : Address)
  | removeRateLimitWhitelist (admin issuer : Address)
  | adminBypassRateLimit (admin bypassedFor : Address) (reason : String)
  | setIssuerQuota (admin issuer : Address) (quota : IssuerQuota)
  | removeIssuerQuota (admin issuer : Address)
  | setPowDifficulty (admin : Address) (difficulty : Nat)
  | setCongestionConfig (admin : Address) (config : CongestionConfig)
  | updateCongestionAndAdjust (admin : Address)
  | untracked (guard : EntryGuard)

/-- Run a control entry point. -/
def ControlOp.apply (env : Env) (c : Control) : ControlOp → Except Fault Control
  | .initializeContract admin => c.initializeContract env admin
  | .updateAdmin admin newAdmin => c.updateAdmin env admin newAdmin
  | .pause admin => c.pause env admin
  | .unpause admin => c.unpause env admin
  | .emergencyPause admin reason => c.emergencyPause env admin reason
  | .emergencyDegrade admin reason => c.emergencyDegrade env admin reason
  | .resume admin => c.resume env admin
  | .getCircuitBreakerState => .ok (c.checkAndRecover env)
  | .setCircuitBreakerConfig admin config => c.setCircuitBreakerConfig env admin config
  | .setRateLimitConfig admin config => c.setRateLimitConfig env admin config
  | .setIssuerRateLimitConfig admin issuer config =>
    c.setIssuerRateLimitConfig env admin issuer config
  | .addRateLimitWhitelist admin issuer => c.addRateLimitWhitelist env admin issuer
  | .removeRateLimitWhitelist admin issuer => c.removeRateLimitWhitelist env admin issuer
  | .adminBypassRateLimit admin bypassedFor reason =>
    c.adminBypassRateLimit env admin bypassedFor reason
  | .setIssuerQuota admin issuer quota => c.setIssuerQuota env admin issuer quota
  | .removeIssuerQuota admin issuer => c.removeIssuerQuota env admin issuer
  | .setPowDifficulty admin difficulty => c.setPowDifficulty env admin difficulty
  | .setCongestionConfig admin config => c.setCongestionConfig env admin config
  | .updateCongestionAndAdjust admin => c.updateCongestionAndAdjust env admin
  | .untracked guard => c.passGuard env guard

end QuorumProof
