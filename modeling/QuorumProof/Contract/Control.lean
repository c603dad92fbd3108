import QuorumProof.Contract.Types

/-!
# Contract/Control — pause, circuit breaker, rate limit, quota and proof of work

The guards every mutating entry point passes before it touches anything else.  They read and write
only the `Control` record, so a guard can never disturb credentials, slices or attestations: the
type says so.

Source: `require_not_paused`, `enforce_write_limit`, `check_rate_limit`, `enforce_quota`,
`verify_pow` in `lib.rs`, and `circuit_breaker.rs`.
-/

namespace QuorumProof

open Guarded

/-! ## Records -/

inductive CircuitBreakerState
  | normal | degraded | paused
  deriving DecidableEq, Repr, Inhabited

structure CircuitBreakerConfig where
  ttlSeconds : Nat
  degradedWriteLimit : Nat
  autoRecover : Bool
  deriving DecidableEq, Repr

structure CircuitBreakerActivation where
  state : CircuitBreakerState
  activatedAt : Nat
  activatedBy : Address
  reason : String
  autoRecoverAt : Nat
  deriving DecidableEq, Repr

structure RateLimitConfig where
  maxCalls : Nat
  windowSeconds : Nat
  deriving DecidableEq, Repr

/-- `RateLimitState`, a ring buffer of call times. -/
structure RateLimitState where
  timestamps : List Nat
  head : Nat
  count : Nat
  deriving DecidableEq, Repr

structure IssuerQuota where
  maxCredentials : Nat
  windowSeconds : Nat
  alertThresholdPct : Nat
  deriving DecidableEq, Repr

structure IssuerQuotaUsage where
  issuedCount : Nat
  windowStart : Nat
  deriving DecidableEq, Repr

inductive CongestionLevel
  | low | normal | high
  deriving DecidableEq, Repr

structure CongestionConfig where
  highLoadThreshold : Nat
  lowLoadThreshold : Nat
  reduceFactorBps : Nat
  increaseFactorBps : Nat
  minMaxCalls : Nat
  maxMaxCalls : Nat
  deriving DecidableEq, Repr

structure NetworkCongestionMetrics where
  callsInWindow : Nat
  windowStart : Nat
  level : CongestionLevel
  updatedAt : Nat
  deriving DecidableEq, Repr

/-- The storage the guards own. -/
structure Control where
  admin : Option Address
  paused : Bool
  circuitBreakerState : CircuitBreakerState
  circuitBreakerConfig : Option CircuitBreakerConfig
  circuitBreakerActivation : Option CircuitBreakerActivation
  degradedWriteCount : Nat
  rateLimitConfig : Option RateLimitConfig
  issuerRateLimitConfig : Store Address RateLimitConfig
  rateLimitWhitelist : Store Address Bool
  rateLimitState : Store Address RateLimitState
  issuerQuota : Store Address IssuerQuota
  issuerQuotaUsage : Store Address IssuerQuotaUsage
  powDifficulty : Option Nat
  congestionConfig : Option CongestionConfig
  congestionMetrics : Option NetworkCongestionMetrics
  deriving Inhabited

namespace Control

variable (env : Env) (c : Control)

/-- Storage before `initialize`. -/
def empty : Control := default

/-! ## Circuit breaker -/

/-- `get_config`, with its defaults. -/
def breakerConfig : CircuitBreakerConfig :=
  c.circuitBreakerConfig.getD
    { ttlSeconds := 86400, degradedWriteLimit := 10, autoRecover := true }

/-- The transition back to `Normal` that `resume` and an expired activation share. -/
def recovered : Control :=
  { c with
    circuitBreakerActivation := none
    circuitBreakerState := .normal
    degradedWriteCount := 0
    paused := false }

def checkAndRecover : Control :=
  if c.breakerConfig.autoRecover = false then c
  else if c.circuitBreakerState = .normal then c
  else
    match c.circuitBreakerActivation with
    | none => c
    | some act => if act.autoRecoverAt ≤ env.now then c.recovered else c

/-- `enforce_degraded_write_limit`: in `Degraded`, every write takes one of a limited number of
slots. -/
def enforceDegradedWriteLimit : Except Fault Control :=
  if c.circuitBreakerState = .degraded then
    let count := saturatingAdd u32Max c.degradedWriteCount 1
    if c.breakerConfig.degradedWriteLimit < count then
      .error (.contract .circuitBreakerDegradedLimitReached)
    else .ok { c with degradedWriteCount := count }
  else .ok c

def enforceWriteLimit : Except Fault Control :=
  (c.checkAndRecover env).enforceDegradedWriteLimit

def requireNotPaused : Except Fault Control :=
  let c := c.checkAndRecover env
  if c.paused then .error (.contract .contractPaused) else c.enforceDegradedWriteLimit

/-! ## Administrator -/

/-- The `Admin` lookup followed by `assert!(stored == admin, "unauthorized")`. -/
def assertAdmin (admin : Address) : Except Fault Unit := do
  let stored ← expect c.admin (.panic "not initialized")
  require (stored = admin) (.panic "unauthorized")

def requireAdmin (caller : Address) : Except Fault Unit := do
  let stored ← expect c.admin (.panic "not initialized")
  require (stored = caller) (.contract .permissionDenied)

/-! ## Rate limit -/

def getRateLimitConfig : RateLimitConfig :=
  c.rateLimitConfig.getD { maxCalls := 1000, windowSeconds := 86400 }

/-- The configuration in force for an address. -/
def rateLimitConfigFor (address : Address) : RateLimitConfig :=
  (c.issuerRateLimitConfig address).getD c.getRateLimitConfig

end Control

/-- How many of the oldest `n` entries, read from slot `i` on, have left the window; the walk stops
at the first entry inside it. -/
def RateLimitState.evictable (st : RateLimitState) (windowStart : Nat) : Nat → Nat → Nat
  | 0, _ => 0
  | n + 1, i =>
    let idx := saturatingAdd u32Max st.head i % max st.timestamps.length 1
    if st.timestamps.getD idx 0 ≤ windowStart then 1 + st.evictable windowStart n (i + 1) else 0

/-- Step 1 of `check_rate_limit`: drop the entries that left the window. -/
def RateLimitState.evict (st : RateLimitState) (windowStart : Nat) : RateLimitState :=
  let evicted := st.evictable windowStart st.count 0
  { st with
    head := saturatingAdd u32Max st.head evicted % max st.timestamps.length 1
    count := st.count - evicted }

/-- Step 3 of `check_rate_limit`: append while the buffer is below capacity, else overwrite the slot
`head + count` points to. -/
def RateLimitState.record (st : RateLimitState) (capacity now : Nat) : RateLimitState :=
  { st with
    timestamps :=
      if st.timestamps.length < capacity then st.timestamps ++ [now]
      else st.timestamps.set (saturatingAdd u32Max st.head st.count % st.timestamps.length) now
    count := saturatingAdd u32Max st.count 1 }

/-- The entries inside the window, as `get_rate_limit_usage` counts them. -/
def RateLimitState.usage (st : RateLimitState) (windowStart : Nat) : Nat :=
  ((List.range st.count).filter fun i => windowStart <
    st.timestamps.getD (saturatingAdd u32Max st.head i % max st.timestamps.length 1) 0).length

namespace Control

variable (env : Env) (c : Control)

/-- `check_rate_limit`: whether the call is admitted, and the storage it leaves. -/
def checkRateLimit (address : Address) : Bool × Control :=
  if (c.rateLimitWhitelist address).getD false then (true, c)
  else
    let config := c.rateLimitConfigFor address
    match c.rateLimitState address with
    | none =>
      (true, { c with
        rateLimitState := c.rateLimitState.set address
          { timestamps := [env.now], head := 0, count := 1 } })
    | some st =>
      let st := st.evict (env.now - config.windowSeconds)
      if config.maxCalls ≤ st.count then
        (false, { c with rateLimitState := c.rateLimitState.set address st })
      else
        (true, { c with
          rateLimitState := c.rateLimitState.set address (st.record config.maxCalls env.now) })

def getRateLimitUsage (address : Address) : Nat :=
  match c.rateLimitState address with
  | none => 0
  | some st => st.usage (env.now - (c.rateLimitConfigFor address).windowSeconds)

def requireRateLimit (address : Address) : Except Fault Control :=
  match c.checkRateLimit env address with
  | (true, c) => .ok c
  | (false, _) => .error (.contract .rateLimitExceeded)

/-! ## Quota and proof of work -/

def enforceQuota (issuer : Address) : Except Fault Control :=
  match c.issuerQuota issuer with
  | none => .ok c
  | some quota =>
    let usage := (c.issuerQuotaUsage issuer).getD { issuedCount := 0, windowStart := env.now }
    let usage :=
      if env.now - usage.windowStart < quota.windowSeconds then usage
      else { issuedCount := 0, windowStart := env.now }
    if quota.maxCredentials ≤ usage.issuedCount then .error (.contract .permissionDenied)
    else
      .ok { c with
        issuerQuotaUsage := c.issuerQuotaUsage.set issuer
          { usage with issuedCount := saturatingAdd u32Max usage.issuedCount 1 } }

/-- `n.to_be_bytes()` at a width. -/
def toBeBytes (width n : Nat) : Bytes :=
  (List.range width).reverse.map fun i => UInt8.ofNat (n / 256 ^ i)

/-- `verify_pow`: the hash of type and nonce starts with `difficulty` zero bits. -/
def verifyPow (credentialType nonce : Nat) : Except Fault Unit := do
  let difficulty := c.powDifficulty.getD 0
  if difficulty = 0 then return ()
  let hash := env.sha256 (toBeBytes 4 credentialType ++ toBeBytes 8 nonce)
  let zeroBytes := difficulty / 8
  let remaining := difficulty % 8
  for i in List.range zeroBytes do
    let byte ← expect hash[i]? (.panic "index out of bounds")
    require (byte = 0) (.contract .invalidInput)
  if 0 < remaining ∧ zeroBytes < 32 then
    let byte ← expect hash[zeroBytes]? (.panic "index out of bounds")
    require (byte &&& (255 <<< UInt8.ofNat (8 - remaining)) = 0) (.contract .invalidInput)

end Control

end QuorumProof
