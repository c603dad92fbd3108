import QuorumProof.Contract.Entry

/-!
# Contract/ControlFrames — what an operation does to the guards' storage

Outside the administrator's own entry points the core of the storage, with the pause flag and the
circuit breaker, changes in one way: a guard finds the breaker's activation expired and recovers it.
`Passes` says so; a chain of guards in one call passes as one guard does, since a recovered breaker
has nothing left to recover.

The entry points that `require_not_paused` guards are listed by family.
-/

namespace QuorumProof

open Guarded

namespace Control

variable {env : Env} {c c' c'' : Control}

/-- **The core**: the administrator, the pause flag, the circuit breaker and the quotas. -/
def core (c : Control) : Control :=
  { empty with
    admin := c.admin
    paused := c.paused
    circuitBreakerState := c.circuitBreakerState
    circuitBreakerConfig := c.circuitBreakerConfig
    circuitBreakerActivation := c.circuitBreakerActivation
    issuerQuota := c.issuerQuota
    issuerQuotaUsage := c.issuerQuotaUsage }

/-- **What a guard leaves**: the core, but for the breaker's recovery. -/
def Passes (env : Env) (c c' : Control) : Prop :=
  c'.core = c.core ∨ c'.core = (c.checkAndRecover env).core

/-- The pause flag is set, and the breaker has nothing to do with it. -/
def Blocked (c : Control) : Prop := c.paused = true ∧ c.circuitBreakerState = .normal

/-! ## Recovery -/

theorem checkAndRecover_cases (env : Env) (c : Control) :
    c.checkAndRecover env = c ∨ c.checkAndRecover env = c.recovered := by
  unfold checkAndRecover
  split_ifs
  · exact .inl rfl
  · exact .inl rfl
  · split
    · exact .inl rfl
    · split_ifs
      · exact .inr rfl
      · exact .inl rfl

theorem checkAndRecover_of_normal (h : c.circuitBreakerState = .normal) :
    c.checkAndRecover env = c := by
  simp [checkAndRecover, h]

/-- Whether the breaker recovers depends on the core. -/
theorem core_checkAndRecover (env : Env) (c : Control) :
    (c.checkAndRecover env).core = c.core.checkAndRecover env := by
  have hconfig : c.core.breakerConfig = c.breakerConfig := rfl
  have hstate : c.core.circuitBreakerState = c.circuitBreakerState := rfl
  have hactivation : c.core.circuitBreakerActivation = c.circuitBreakerActivation := rfl
  unfold checkAndRecover
  rw [hconfig, hstate, hactivation]
  split_ifs
  · rfl
  · rfl
  · split
    · rfl
    · split_ifs <;> rfl

/-- A recovered breaker has nothing left to recover. -/
theorem checkAndRecover_checkAndRecover (env : Env) (c : Control) :
    (c.checkAndRecover env).checkAndRecover env = c.checkAndRecover env := by
  rcases checkAndRecover_cases env c with hsame | hrecovered
  · rw [hsame, hsame]
  · rw [hrecovered]
    exact checkAndRecover_of_normal rfl

/-! ## Guards -/

namespace Passes

theorem refl (env : Env) (c : Control) : Passes env c c := .inl rfl

theorem trans (h : Passes env c c') (h' : Passes env c' c'') : Passes env c c'' := by
  simp only [Passes, core_checkAndRecover] at h h' ⊢
  rcases h with h | h <;> rcases h' with h' | h'
  · exact .inl (h'.trans h)
  · exact .inr (h'.trans (h ▸ rfl))
  · exact .inr (h'.trans h)
  · refine .inr (h'.trans ?_)
    rw [h, checkAndRecover_checkAndRecover]

/-- What the core holds and a recovery leaves stays. -/
theorem eq_of_core {α : Type*} (h : Passes env c c') (f : Control → α)
    (hcore : ∀ c, f c.core = f c) (hrecovered : ∀ c, f c.recovered = f c) : f c' = f c := by
  rw [← hcore c']
  rcases h with h | h
  · rw [h, hcore]
  · rw [h, hcore]
    rcases checkAndRecover_cases env c with heq | heq
    · rw [heq]
    · rw [heq, hrecovered]

theorem admin (h : Passes env c c') : c'.admin = c.admin :=
  h.eq_of_core (·.admin) (fun _ => rfl) fun _ => rfl

/-- A guard passes a pause that the breaker has nothing to do with on. -/
theorem blocked (h : Passes env c c') (hblocked : c.Blocked) : c'.Blocked := by
  have hcore : c'.core = c.core := by
    rcases h with hsame | hrecovered
    · exact hsame
    · rw [hrecovered, checkAndRecover_of_normal hblocked.2]
  have hblocked' : c.core.Blocked := hblocked
  rwa [← hcore] at hblocked'

end Passes

theorem passes_enforceDegradedWriteLimit (h : c.enforceDegradedWriteLimit = .ok c') :
    Passes env c c' := by
  have hensures : Ensures c.enforceDegradedWriteLimit (Passes env c) := by
    simp only [enforceDegradedWriteLimit, ensures_ite, ensures_error, ensures_ok]
    exact ⟨fun _ => ⟨fun _ => trivial, fun _ => .inl rfl⟩, fun _ => .refl env c⟩
  exact hensures c' h

theorem passes_enforceWriteLimit (h : c.enforceWriteLimit env = .ok c') : Passes env c c' :=
  Passes.trans (.inr rfl) (passes_enforceDegradedWriteLimit h)

theorem passes_requireNotPaused (h : c.requireNotPaused env = .ok c') : Passes env c c' := by
  have hensures : Ensures (c.requireNotPaused env) (Passes env c) := by
    simp only [requireNotPaused, ensures_ite, ensures_error]
    exact ⟨fun _ => trivial, fun _ _ => passes_enforceWriteLimit⟩
  exact hensures c' h

theorem not_blocked_of_requireNotPaused (h : c.requireNotPaused env = .ok c') : ¬ c.Blocked := by
  intro hblocked
  rw [requireNotPaused, checkAndRecover_of_normal hblocked.2] at h
  simp [hblocked.1] at h

theorem passes_checkRateLimit (env : Env) (c : Control) (address : Address) :
    Passes env c (c.checkRateLimit env address).2 := by
  unfold checkRateLimit
  dsimp only
  split_ifs
  · exact .refl env c
  · split
    · exact .inl rfl
    · split_ifs <;> exact .inl rfl

theorem passes_requireRateLimit {address : Address}
    (h : c.requireRateLimit env address = .ok c') : Passes env c c' := by
  have hpasses := passes_checkRateLimit env c address
  unfold requireRateLimit at h
  split at h
  next heq =>
    rw [heq] at hpasses
    exact Except.ok.inj h ▸ hpasses
  next => exact absurd h (by simp)

/-- A charge writes the usage of the quotas. -/
theorem enforceQuota_usage {issuer : Address} (h : c.enforceQuota env issuer = .ok c') :
    c = { c' with issuerQuotaUsage := c.issuerQuotaUsage } := by
  have hensures : Ensures (c.enforceQuota env issuer) fun c' =>
      c = { c' with issuerQuotaUsage := c.issuerQuotaUsage } := by
    unfold enforceQuota
    split
    · exact ensures_ok.mpr rfl
    · simp only [ensures_ite, ensures_error, ensures_ok]
      exact ⟨fun _ => trivial, fun _ => trivial⟩
  exact hensures c' h

end Control

/-! ## The entry points `require_not_paused` guards -/

def IssuanceOp.guarded : IssuanceOp → Bool
  | registerDid .. | deactivateDid .. | approveCredentialRequest .. => false
  | _ => true

def MultisigOp.guarded : MultisigOp → Bool
  | createIssuanceMultisig .. => false
  | requestIssuance .. | approveIssuance .. => true

def RevocationOp.guarded : RevocationOp → Bool
  | createRevocationRegistryRequest .. | activateRevocationRequest .. | isRevoked .. => false
  | _ => true

def LifecycleOp.guarded : LifecycleOp → Bool
  | setGracePeriod .. | migrateState .. => false
  | _ => true

def SliceOp.guarded : SliceOp → Bool
  | rebalanceSlice .. | reweightSlice .. => true
  | _ => false

def AttestationOp.guarded : AttestationOp → Bool
  | rollbackAttestationRequest .. | checkAndRollbackAttestation .. | setAttestationPriority ..
  | removeFromAttestationQueue .. | processAttestationQueue .. | addToRevocationAccumulator ..
  | createNonRevocationProof .. => false
  | _ => true

def DisciplineOp.guarded : DisciplineOp → Bool
  | slashAttestor .. | setAttestorReputationConfig .. | collectSlashedStake .. => false
  | _ => true

def ControlOp.guarded : ControlOp → Bool
  | untracked .notPaused | untracked (.notPausedRateLimited _) => true
  | _ => false

/-- Whether `require_not_paused` guards an entry point. -/
def Op.guarded : Op → Bool
  | control op => op.guarded
  | issuance op => op.guarded
  | multisig op => op.guarded
  | revocation op => op.guarded
  | lifecycle op => op.guarded
  | slice op => op.guarded
  | attestation op => op.guarded
  | discipline op => op.guarded
  | query _ => false
  | restoreFromSnapshot .. => true

/-! ## Family by family

What an operation does to the guards' storage is what the guards it calls do, and which these are
is all the families differ in. -/

/-- **What a chain of guards does**, with a flag that tells whether `require_not_paused` is among
them. -/
inductive GuardChain (env : Env) : Bool → Control → Control → Prop
  | refl (c : Control) : GuardChain env false c c
  | trans {b b' : Bool} {c c' c'' : Control} (h : GuardChain env b c c')
      (h' : GuardChain env b' c' c'') : GuardChain env (b || b') c c''
  | weaken {b : Bool} {c c' : Control} (h : GuardChain env b c c') : GuardChain env false c c'
  | requireNotPaused {c c' : Control} (h : c.requireNotPaused env = .ok c') :
      GuardChain env true c c'
  | enforceWriteLimit {c c' : Control} (h : c.enforceWriteLimit env = .ok c') :
      GuardChain env false c c'
  | requireRateLimit {c c' : Control} {address : Address}
      (h : c.requireRateLimit env address = .ok c') : GuardChain env false c c'

attribute [grind ←] GuardChain.refl
attribute [grind →] GuardChain.requireNotPaused GuardChain.enforceWriteLimit

namespace GuardChain

open Control (Passes)

variable {env : Env} {b : Bool} {c c' c'' : Control}

@[grind →]
theorem requireNotPausedRateLimited {address : Address} (hguard : c.requireNotPaused env = .ok c')
    (hlimit : c'.requireRateLimit env address = .ok c'') : GuardChain env true c c'' :=
  .trans (.requireNotPaused hguard) (.requireRateLimit hlimit)

/-- A chain passes as one guard does, and fails while the contract is blocked if
`require_not_paused` is in it. -/
theorem passes (h : GuardChain env b c c') : Passes env c c' ∧ (b = true → ¬ c.Blocked) := by
  induction h with
  | refl c => exact ⟨.refl env c, by simp⟩
  | trans _ _ h h' =>
    refine ⟨h.1.trans h'.1, fun hguarded hblocked => ?_⟩
    rcases Bool.or_eq_true_iff.mp hguarded with hfirst | hsecond
    · exact h.2 hfirst hblocked
    · exact h'.2 hsecond (h.1.blocked hblocked)
  | weaken _ h => exact ⟨h.1, by simp⟩
  | requireNotPaused hguard =>
    exact ⟨Control.passes_requireNotPaused hguard,
      fun _ => Control.not_blocked_of_requireNotPaused hguard⟩
  | enforceWriteLimit hguard => exact ⟨Control.passes_enforceWriteLimit hguard, by simp⟩
  | requireRateLimit hlimit => exact ⟨Control.passes_requireRateLimit hlimit, by simp⟩

end GuardChain

namespace State

variable (env : Env) (s : State)

theorem passGuard_guards (c : Control) (guard : EntryGuard) : Ensures (c.passGuard env guard)
      fun c' => GuardChain env (ControlOp.untracked guard).guarded c c' := by
  cases guard with
  | unguarded => exact ensures_ok.mpr (.refl c)
  | writeLimit => exact fun _ => .enforceWriteLimit
  | notPaused => exact fun _ => .requireNotPaused
  | notPausedRateLimited caller =>
    simp only [Control.passGuard, ensures_bind]
    exact fun _ hguard _ hlimit => .requireNotPausedRateLimited hguard hlimit

theorem passGuard_passes (c : Control) (guard : EntryGuard) :
    Ensures (c.passGuard env guard) (Control.Passes env c) :=
  (passGuard_guards env c guard).mono fun _ h => h.passes.1

theorem attest_guardChain (attestor : Address) (id sliceId : Nat) (value : Bool)
    (expiresAt : Option Nat) : Ensures (s.attest env attestor id sliceId value expiresAt)
      fun r => GuardChain env true s.control r.1.control := by
  simp only [attest, ensures_steps, ensures_guards, AttestationBook.countAttestor,
    AttestationBook.countCredential, AttestationBook.countHolder]
  intro _ c hguard c' hlimit _ _ _ _ _ _ _ _ _ _ _ _ _ _ _ _ _ _ _ _ _
  exact .requireNotPausedRateLimited hguard hlimit

theorem attestationOp_guardChain (op : AttestationOp) :
    Ensures (op.apply env s) fun s' => GuardChain env op.guarded s.control s'.control := by
  cases op
  case attest attestor id sliceId value expiresAt =>
    exact ensures_map.mpr (attest_guardChain env s attestor id sliceId value expiresAt)
  case batchAttest attestor ids sliceId value expiresAt =>
    simp only [AttestationOp.apply, ensures_steps, batchAttest, ensures_guards]
    intro _ c hguard c' hlimit _ _ _ slice _ resolved _ _
    refine (ensures_foldlM (R := fun s s' : State => s'.control = s.control) (fun _ => rfl)
      (fun h h' => h'.trans h) (fun id _ s => ?_) _).mono fun s' hs' =>
        hs' ▸ .requireNotPausedRateLimited hguard hlimit
    simp [batchAttestEntry]
  case processAttestationQueue caller maxEntries =>
    simp only [AttestationOp.apply, ensures_steps, processAttestationQueue, ensures_guards]
    intro _ c hguard
    refine (ensures_foldlM (R := fun s s' : State => GuardChain env false s.control s'.control)
      (fun s => .refl s.control) .trans (fun entryId _ s => ?_) _).mono fun s' hs' =>
        .trans (.enforceWriteLimit hguard) hs'
    simp only [processQueueEntry, ensures_bind, ensures_expect, ensures_pure]
    intro entry _
    exact (attest_guardChain env _ _ _ _ _ _).mono fun _ => .weaken
  all_goals
    simp only [AttestationOp.apply, AttestationOp.guarded, ensures_steps, ensures_ite,
      ensures_guards, renewAttestation, resolveFork, setAttestationExpiry, setAttestationWindow,
      setAttestationTimeLock, clearAttestationTimeLock, setAttestationPolicy,
      requestMultisigAttestation, signAttestationRequest, rollbackAttestationRequest,
      checkAndRollbackAttestation, addToAttestationQueue, setAttestationPriority,
      removeFromAttestationQueue, addToRevocationAccumulator, createNonRevocationProof,
      invalidateCredential, setAttestationRequest, executeAttestationRequest, setQueueEntry]
    grind

theorem disciplineOp_guardChain (op : DisciplineOp) :
    Ensures (op.apply env s) fun s' => GuardChain env op.guarded s.control s'.control := by
  cases op <;>
    simp only [DisciplineOp.apply, DisciplineOp.guarded, ensures_steps, ensures_ite, ensures_guards,
      suspendAttestor, resumeAttestor, slashAttestor, setAttestorReputationConfig,
      depositAttestorStake, withdrawAttestorStake, collectSlashedStake, challengeAttestation,
      voteOnChallenge, submitChallengeEvidence, advanceChallengeRound, resolveChallenge,
      removeAccused, clearActiveChallenge, setChallenge, setChallengeExtended, invalidateCredential,
      setReputation, Discipline.slash] <;>
    grind

end State

/-- Congestion control writes its metrics, and the rate limit on entering another level. -/
inductive Control.Adjusts (c : Control) : Control → Prop
  | stays (metrics : NetworkCongestionMetrics) :
      Adjusts c { c with congestionMetrics := some metrics }
  | enters (metrics : NetworkCongestionMetrics) :
      Adjusts c { c with
        rateLimitConfig := some { c.getRateLimitConfig with
          maxCalls := adjustedMaxCalls c.getCongestionConfig c.getRateLimitConfig.maxCalls
            metrics.level }
        congestionMetrics := some metrics }

theorem Control.updateCongestionAndAdjust_adjusts (env : Env) (c : Control) (admin : Address) :
    Ensures (c.updateCongestionAndAdjust env admin) c.Adjusts := by
  simp -zeta only [updateCongestionAndAdjust, ensures_bind, ensures_unit]
  refine fun _ _ => ?_
  extract_lets cfg limit metrics metrics' calls level adjusted
  refine ensures_pure.mpr ?_
  unfold adjusted
  split
  · exact .stays _
  · exact .enters { metrics' with callsInWindow := calls, level := level, updatedAt := env.now }

end QuorumProof
