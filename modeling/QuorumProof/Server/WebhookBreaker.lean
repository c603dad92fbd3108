import QuorumProof.Lib.Machine

/-!
# Server/WebhookBreaker — when the breaker of a webhook closes

An open breaker should close by hand, by a success, or by a check after its timeout, and open again
when the trial after such a check fails.  Two states are stored, and the trial is not one of them: a
check that closes the breaker also forgets its failures, so one more does not open it; and a failure
below the threshold stores a closed record, also over an open one that was tripped by hand
(`not_exits_not_reopens`).

Source: `webhookCircuitBreaker.ts`, for one endpoint.
-/

namespace QuorumProof.Breaker

open Machine

structure CircuitBreakerConfig where
  failureThreshold : Nat
  resetTimeoutMs : Nat
  autoRecover : Bool

inductive CircuitBreakerState
  | closed | opened
  deriving DecidableEq, Repr

structure CircuitBreakerActivation where
  trippedAt : Nat
  reason : String
  autoRecoverAt : Nat
  consecutiveFailures : Nat
  deriving DecidableEq, Repr

structure CircuitBreakerRecord where
  state : CircuitBreakerState
  activation : Option CircuitBreakerActivation
  consecutiveFailures : Nat
  deriving DecidableEq, Repr

inductive BreakerOp
  | trip (reason : String)
  | resume
  | getStateWithRecovery
  | recordSuccess
  | recordFailure (reason : String)
  deriving DecidableEq, Repr

structure BreakerCall where
  now : Nat
  op : BreakerOp

/-- The record that is read when none is stored, and stored by `resume`. -/
def closedRecord : CircuitBreakerRecord := ⟨.closed, none, 0⟩

namespace CircuitBreakerConfig

variable (config : CircuitBreakerConfig) (now : Nat) (record : CircuitBreakerRecord)

/-- `trip` does not count the failure that makes it. -/
def trip (reason : String) : CircuitBreakerRecord :=
  ⟨.opened, some ⟨now, reason, now + config.resetTimeoutMs, record.consecutiveFailures⟩,
    record.consecutiveFailures⟩

/-- An open record whose timeout has elapsed. -/
def Recovers : Prop :=
  config.autoRecover = true ∧ record.state = .opened ∧
    ∃ activation ∈ record.activation, activation.autoRecoverAt ≤ now
  deriving Decidable

def checkAndRecover : CircuitBreakerRecord :=
  if config.Recovers now record then closedRecord else record

def recordFailure (reason : String) : CircuitBreakerRecord :=
  let consecutiveFailures := record.consecutiveFailures + 1
  if consecutiveFailures ≥ config.failureThreshold then config.trip now record reason
  else ⟨.closed, none, consecutiveFailures⟩

def next (call : BreakerCall) : CircuitBreakerRecord :=
  match call.op with
  | .trip reason => config.trip call.now record reason
  | .resume | .recordSuccess => closedRecord
  | .getStateWithRecovery => config.checkAndRecover call.now record
  | .recordFailure reason => config.recordFailure call.now record reason

/-- What a sequence of calls leaves. -/
def after (calls : List BreakerCall) : CircuitBreakerRecord := run config.next closedRecord calls

/-- **The breaker leaves the open state by hand, by a success, or by a check after its timeout.** -/
def Exits (calls : List BreakerCall) (call : BreakerCall) : Prop :=
  (config.after calls).state = .opened → (config.after (calls ++ [call])).state = .closed →
    call.op = .resume ∨ call.op = .recordSuccess ∨
      call.op = .getStateWithRecovery ∧ config.Recovers call.now (config.after calls)

/-- The breaker is in a state after a failure that is the first outcome after a check that closed
it. -/
def AfterTrial (state : CircuitBreakerState) (calls between : List BreakerCall)
    (check failure : BreakerCall) : Prop :=
  check.op = .getStateWithRecovery → config.Recovers check.now (config.after calls) →
    (∀ call ∈ between, call.op ≠ .recordSuccess ∧ ∀ reason, call.op ≠ .recordFailure reason) →
    (∃ reason, failure.op = .recordFailure reason) →
    (config.after (calls ++ check :: between ++ [failure])).state = state

/-- **A trial that fails opens the breaker again.** -/
def Reopens : List BreakerCall → List BreakerCall → BreakerCall → BreakerCall → Prop :=
  config.AfterTrial .opened

variable {config} {record}

/-- An open breaker is one failure short of its threshold at most. -/
def Counted (config : CircuitBreakerConfig) (record : CircuitBreakerRecord) : Prop :=
  record.state = .opened → config.failureThreshold ≤ record.consecutiveFailures + 1

theorem counted_of_closed (h : record.state = .closed) : config.Counted record :=
  fun hopen => by cases h.symm.trans hopen

theorem Counted.next (h : config.Counted record) {call : BreakerCall}
    (hcall : ∀ reason, call.op = .trip reason → config.failureThreshold = 1) :
    config.Counted (config.next record call) := by
  unfold CircuitBreakerConfig.next
  split
  next reason hop =>
    exact fun _ => Nat.le_trans (Nat.le_of_eq (hcall reason hop)) (Nat.le_add_left 1 _)
  next => exact counted_of_closed rfl
  next => exact counted_of_closed rfl
  next =>
    unfold checkAndRecover
    split
    · exact counted_of_closed rfl
    · exact h
  next =>
    unfold recordFailure
    dsimp only
    split
    next hle => exact fun _ => hle
    next => exact counted_of_closed rfl

theorem Counted.exits (h : config.Counted record) {call : BreakerCall}
    (hopen : record.state = .opened) (hclosed : (config.next record call).state = .closed) :
    call.op = .resume ∨ call.op = .recordSuccess ∨
      call.op = .getStateWithRecovery ∧ config.Recovers call.now record := by
  unfold CircuitBreakerConfig.next at hclosed
  split at hclosed
  next => cases hclosed
  next hop => exact .inl hop
  next hop => exact .inr (.inl hop)
  next hop =>
    unfold checkAndRecover at hclosed
    split at hclosed
    next hrecovers => exact .inr (.inr ⟨hop, hrecovers⟩)
    next => cases hopen.symm.trans hclosed
  next =>
    rw [recordFailure, if_pos (h hopen)] at hclosed
    cases hclosed

/-- A call that records no outcome keeps a count of no failures. -/
theorem next_of_no_outcome (h : record.consecutiveFailures = 0) {call : BreakerCall}
    (hcall : call.op ≠ .recordSuccess ∧ ∀ reason, call.op ≠ .recordFailure reason) :
    (config.next record call).consecutiveFailures = 0 := by
  unfold CircuitBreakerConfig.next
  split
  next => exact h
  next => rfl
  next => rfl
  next =>
    unfold checkAndRecover
    split
    · rfl
    · exact h
  next reason hop => exact absurd hop (hcall.2 reason)

/-- **With a larger threshold a trial that fails leaves the breaker closed.** -/
theorem closed_afterTrial (hthreshold : 1 < config.failureThreshold)
    (calls between : List BreakerCall) (check failure : BreakerCall) :
    config.AfterTrial .closed calls between check failure := by
  rintro hcheck hrecovers hbetween ⟨reason, hfailure⟩
  have hclosed : config.after (calls ++ [check]) = closedRecord := by
    rw [after, run_append, run_cons, run_nil, next, hcheck]
    exact if_pos hrecovers
  have hzero : (config.after (calls ++ check :: between)).consecutiveFailures = 0 := by
    rw [List.append_cons, after, run_append]
    exact Along.invariant (I := fun r : CircuitBreakerRecord => r.consecutiveFailures = 0)
      (fun _ _ h hcall => next_of_no_outcome h hcall) (along_of_mem _ hbetween)
      (congrArg CircuitBreakerRecord.consecutiveFailures hclosed)
  rw [after, run_append, run_cons, run_nil, next, hfailure]
  rw [after] at hzero
  simp [recordFailure, hzero, Nat.not_le.mpr hthreshold]

/-- **Without trips by hand the breaker leaves the open state as it should**, and with a threshold
of one it does so in any case and opens again when the trial fails; with a larger one it never
does. -/
theorem exits_and_reopens (config : CircuitBreakerConfig) :
    (∀ calls call, (∀ c ∈ calls, ∀ reason, c.op ≠ .trip reason) → config.Exits calls call) ∧
    (config.failureThreshold = 1 → (∀ calls call, config.Exits calls call) ∧
      ∀ calls between check failure, config.Reopens calls between check failure) ∧
    (1 < config.failureThreshold →
      ∀ calls between check failure, config.AfterTrial .closed calls between check failure) := by
  have hcounted : ∀ calls : List BreakerCall,
      (∀ c ∈ calls, ∀ reason, c.op = .trip reason → config.failureThreshold = 1) →
      config.Counted (config.after calls) := fun calls h =>
    Along.invariant (I := config.Counted) (fun _ _ h hcall => h.next hcall)
      (along_of_mem _ h) (counted_of_closed rfl)
  have hexits : ∀ calls call, (∀ c ∈ calls, ∀ reason, c.op = .trip reason →
      config.failureThreshold = 1) → config.Exits calls call := by
    intro calls call h hopen hclosed
    rw [after, run_append] at hclosed
    exact (hcounted calls h).exits hopen hclosed
  refine ⟨fun calls call h => hexits calls call fun c hc reason hop => absurd hop (h c hc reason),
    fun hone => ⟨fun calls call => hexits calls call fun _ _ _ _ => hone, ?_⟩, closed_afterTrial⟩
  rintro calls between check failure - - - ⟨reason, hfailure⟩
  rw [after, run_append, run_cons, run_nil, next, hfailure]
  simp [recordFailure, hone, trip]

end CircuitBreakerConfig

/-! ## Where it does not -/

namespace Sample

open Breaker.CircuitBreakerConfig

def config : CircuitBreakerConfig := ⟨2, 100, true⟩

/-- A breaker that opens at the first failure opens again at the failure of the trial; one that
opens at the second is closed by the check, and the failure of the trial leaves it so. -/
theorem exits_and_reopens_trial :
    (after ⟨1, 100, true⟩ [⟨0, .recordFailure "HTTP 500"⟩, ⟨100, .getStateWithRecovery⟩,
      ⟨100, .recordFailure "HTTP 500"⟩]).state = .opened ∧
    config.Exits [⟨0, .recordFailure "HTTP 500"⟩, ⟨0, .recordFailure "HTTP 500"⟩]
      ⟨100, .getStateWithRecovery⟩ ∧
    (config.after [⟨0, .recordFailure "HTTP 500"⟩, ⟨0, .recordFailure "HTTP 500"⟩,
      ⟨100, .getStateWithRecovery⟩, ⟨100, .recordFailure "HTTP 500"⟩]).state = .closed :=
  ⟨((exits_and_reopens _).2.1 rfl).2 [_] [] _ _ rfl (by decide) (by simp) ⟨_, rfl⟩,
    (exits_and_reopens _).1 _ _ (by simp),
    (exits_and_reopens config).2.2 (by decide) [_, _] [] _ _ rfl (by decide) (by simp) ⟨_, rfl⟩⟩

/-- A breaker that was tripped by hand is closed by a failure; and after a counted trip and the
timeout, a failure leaves it closed. -/
theorem not_exits_not_reopens :
    (¬ ∀ (config : CircuitBreakerConfig) calls call, 1 ≤ config.failureThreshold →
      ((calls ++ [call]).map BreakerCall.now).Pairwise (· ≤ ·) → config.Exits calls call) ∧
    ¬ ∀ (config : CircuitBreakerConfig) calls between check failure, 1 ≤ config.failureThreshold →
      ((calls ++ check :: between ++ [failure]).map BreakerCall.now).Pairwise (· ≤ ·) →
      config.Reopens calls between check failure := by
  constructor
  · intro h
    have := h config [⟨0, .trip "by hand"⟩] ⟨0, .recordFailure "HTTP 500"⟩ (by decide) (by decide)
      rfl rfl
    revert this
    decide
  · intro h
    have := h config [⟨0, .recordFailure "HTTP 500"⟩, ⟨0, .recordFailure "HTTP 500"⟩] []
      ⟨100, .getStateWithRecovery⟩ ⟨100, .recordFailure "HTTP 500"⟩ (by decide) (by decide) rfl
      (by decide) (by simp) ⟨_, rfl⟩
    revert this
    decide

end Sample

end QuorumProof.Breaker
