import QuorumProof.Contract.CredentialEffects
import QuorumProof.Contract.AttestationEffects
import QuorumProof.Contract.DisciplineEffects

/-!
# Contract/Footprint — what an operation leaves, by its family

Each family of entry points writes its part of the storage: credentials, slices, attestations, or
what is known of attestors.  `Op.footprint` says of every operation what it leaves alone;
`Op.writes`, `Op.leaves_attestations` and `Op.leaves_discipline` are what the parts have of it.
-/

namespace QuorumProof

variable (env : Env) (s : State)

open Guarded

/-- The families that write credentials, or what is asked for about them. -/
def Op.onCredentials : Op → Bool
  | issuance _ | multisig _ | revocation _ | lifecycle _ => true
  | _ => false

/-- The families that write attestations and what is known of attestors. -/
def Op.onAttestors : Op → Bool
  | attestation _ | discipline _ => true
  | _ => false

/-- **What an operation leaves**, by its family.  A snapshot restores three counters. -/
structure Op.Footprint (op : Op) (s s' : State) : Prop where
  credentials : op.onCredentials = false → s'.registry.credentials = s.registry.credentials ∧
    ∃ count, s'.workflow = { s.workflow with disputeCount := count }
  standing : op.onCredentials = true → s'.slices = s.slices ∧ s.StandingFrame s'
  slices : (∀ op', op ≠ .slice op') → s'.slices = s.slices ∨
    ∃ snapshot ∈ op.restored s, s'.slices = { s.slices with sliceCount := snapshot.sliceCount }
  attestors : op.onAttestors = false → s'.discipline = s.discipline ∧ s'.attestations =
    { s.attestations with bbsCredentialFlag := s'.attestations.bbsCredentialFlag }

section Footprint

variable {op : Op} {s s' : State}

theorem Op.Footprint.of_credentials (hop : op.onCredentials = true) (hslices : s'.slices = s.slices)
    (hdiscipline : s'.discipline = s.discipline)
    (hattestations : s'.attestations =
      { s.attestations with bbsCredentialFlag := s'.attestations.bbsCredentialFlag })
    (hstanding : s.StandingFrame s') : op.Footprint s s' where
  credentials h := absurd (hop.symm.trans h) (by simp)
  standing _ := ⟨hslices, hstanding⟩
  slices _ := .inl hslices
  attestors _ := ⟨hdiscipline, hattestations⟩

theorem Op.Footprint.of_registry (hop : op.onCredentials = false)
    (hregistry : s'.registry = s.registry) (hworkflow : s'.workflow = s.workflow)
    (hslices : (∀ op', op ≠ .slice op') → s'.slices = s.slices)
    (hattestors : op.onAttestors = false →
      s'.discipline = s.discipline ∧ s'.attestations = s.attestations) : op.Footprint s s' where
  credentials _ := ⟨by rw [hregistry], _, hworkflow⟩
  standing h := absurd (hop.symm.trans h) (by simp)
  slices h := .inl (hslices h)
  attestors h := ⟨(hattestors h).1, by rw [(hattestors h).2]⟩

open State in
theorem Op.credentialEffect (env : Env) (s : State) (hop : op.onCredentials = true) :
    Ensures (op.apply env s) (CredentialEffect CredentialFrame op s s) := by
  cases op with
  | issuance op => exact issuanceOp_effect env s op
  | multisig op => exact (multisigOp_effect env s op).mono fun _ => RecordEffect.credentialEffect
  | revocation op =>
    exact (revocationOp_effect env s op).mono fun _ => RecordEffect.credentialEffect
  | lifecycle op => exact (lifecycleOp_effect env s op).mono fun _ => RecordEffect.credentialEffect
  | _ => cases hop

open State in
theorem Op.footprint (env : Env) (s : State) (op : Op) :
    Ensures (op.apply env s) (op.Footprint s) := by
  cases op with
  | issuance | multisig | revocation | lifecycle =>
    exact (Op.credentialEffect env s rfl).mono fun _ h =>
      .of_credentials rfl h.frame.slices h.frame.discipline h.frame.attestations h.standing
  | control op =>
    exact ensures_map.mpr fun _ _ => .of_registry rfl rfl rfl (fun _ => rfl) fun _ => ⟨rfl, rfl⟩
  | slice op =>
    exact (sliceOp_frame env s op).mono fun _ h =>
      .of_registry rfl h.registry h.workflow (fun hop => absurd rfl (hop op))
        fun _ => ⟨h.discipline, h.attestations⟩
  | attestation op =>
    exact (attestationOp_effect env s op).mono fun _ h =>
      .of_registry rfl h.frame.registry h.frame.workflow (fun _ => h.frame.slices) (by rintro ⟨⟩)
  | discipline op =>
    exact (disciplineOp_step env s op).mono fun _ h =>
      .of_registry rfl h.frame.registry h.frame.workflow (fun _ => h.frame.slices) (by rintro ⟨⟩)
  | query op =>
    refine (queryOp_frame env s op).mono ?_
    rintro _ ⟨cache, rfl⟩
    exact .of_registry rfl rfl rfl (fun _ => rfl) fun _ => ⟨rfl, rfl⟩
  | restoreFromSnapshot admin snapshotId =>
    refine ensures_map.mpr ((restoreFromSnapshot_effect env s admin snapshotId).mono ?_)
    rintro _ ⟨_, snapshot, -, hsnapshot, heq⟩
    rw [heq]
    exact ⟨fun _ => ⟨rfl, snapshot.disputeCount, rfl⟩, by rintro ⟨⟩,
      fun _ => .inr ⟨snapshot, hsnapshot, rfl⟩, fun _ => ⟨rfl, rfl⟩⟩

end Footprint

/-- **Operations of the other families leave the slices**, but for their counter. -/
theorem Op.leaves_slices {op : Op} (hop : ∀ op', op ≠ .slice op') :
    Ensures (op.apply env s) fun s' =>
      s'.slices = { s.slices with sliceCount := s'.slices.sliceCount } := by
  refine (op.footprint env s).mono fun s' h => ?_
  rcases h.slices hop with heq | ⟨_, -, heq⟩ <;> rw [heq]

open State in
/-- **An operation changes the registry by the effects it makes, and by nothing else.** -/
theorem Op.writes (op : Op) :
    Ensures (op.apply env s) fun s' => Writes (op.Makes s) s.registry s'.registry := by
  cases op with
  | control op => exact ensures_map.mpr fun _ _ => .refl
  | issuance | multisig | revocation | lifecycle =>
    exact (Op.credentialEffect env s rfl).mono fun _ h => h.writes
  | slice op => exact (sliceOp_frame env s op).mono fun _ h => h.registry ▸ .refl
  | attestation op => exact (attestationOp_effect env s op).mono fun _ h => h.frame.registry ▸ .refl
  | discipline op => exact (disciplineOp_step env s op).mono fun _ h => h.frame.registry ▸ .refl
  | query op => exact (queryOp_frame env s op).mono (by rintro _ ⟨cache, rfl⟩; exact .refl)
  | restoreFromSnapshot admin snapshotId =>
    refine ensures_map.mpr ((restoreFromSnapshot_effect env s admin snapshotId).mono ?_)
    rintro _ ⟨_, snapshot, -, hsnapshot, heq⟩
    rw [heq]
    exact .single (.restore snapshot.credentialCount) ⟨rfl, snapshot, hsnapshot, rfl⟩ trivial

open State in
/-- **An operation leaves what it does not handle** of what waits in storage. -/
theorem Op.keeps (op : Op) : Ensures (op.apply env s) fun s' => op.kept s' = op.kept s := by
  cases hop : op.onCredentials with
  | true => exact (Op.credentialEffect env s hop).mono fun _ h => h.kept
  | false =>
    refine (op.footprint env s).mono fun s' h => ?_
    obtain ⟨-, count, hworkflow⟩ := h.credentials hop
    simp only [kept, policies, recoveries, consents, hworkflow]

/-! ## The guards' storage -/

/-- The guards an issuance passes, before it charges a quota. -/
theorem State.IssuanceStep.guardChain {env : Env} {op : IssuanceOp} {s s' : State}
    (h : IssuanceStep env op s s') : ∃ usage,
      GuardChain env op.guarded s.control { s'.control with issuerQuotaUsage := usage } := by
  have hchain : ∀ {c : Control}, GuardChain env true s.control c →
      GuardChain env op.guarded s.control c := by
    intro c h
    cases op.guarded with
    | true => exact h
    | false => exact h.weaken
  cases h with
  | noted h => exact ⟨_, h.guards⟩
  | one _ h =>
    obtain ⟨control, hguards, hcharge⟩ := h.charged
    exact ⟨_, Control.enforceQuota_usage hcharge ▸ hchain hguards⟩
  | @batch _ control _ hguard h =>
    refine ⟨control.issuerQuotaUsage, ?_⟩
    rw [h.rest]
    exact hchain (.requireNotPaused hguard)

open State in
/-- **What an operation does to the guards' storage is what its guards do**, but for the
administrator's own operations and the issuances. -/
theorem Op.guardChain_of_ne {op : Op} (hcontrol : ∀ op', op ≠ .control op')
    (hissuance : ∀ op', op ≠ .issuance op') :
    Ensures (op.apply env s) fun s' => GuardChain env op.guarded s.control s'.control := by
  cases op with
  | control op => exact absurd rfl (hcontrol op)
  | issuance op => exact absurd rfl (hissuance op)
  | multisig op => exact (multisigOp_effect env s op).mono fun _ h => h.frame.guards
  | revocation op => exact (revocationOp_effect env s op).mono fun _ h => h.frame.guards
  | lifecycle op => exact (lifecycleOp_effect env s op).mono fun _ h => h.frame.guards
  | slice op => exact (sliceOp_frame env s op).mono fun _ h => h.guards
  | attestation op => exact attestationOp_guardChain env s op
  | discipline op => exact disciplineOp_guardChain env s op
  | query op =>
    refine (queryOp_frame env s op).mono ?_
    rintro _ ⟨cache, rfl⟩
    exact .refl s.control
  | restoreFromSnapshot admin snapshotId =>
    refine ensures_map.mpr ((restoreFromSnapshot_effect env s admin snapshotId).mono ?_)
    rintro _ ⟨control, _, hguards, -, heq⟩
    rw [heq]
    exact hguards

/-- The issuances charge a quota besides. -/
theorem Op.guardChain {op : Op} (hcontrol : ∀ op', op ≠ .control op') :
    Ensures (op.apply env s) fun s' => ∃ usage,
      GuardChain env op.guarded s.control { s'.control with issuerQuotaUsage := usage } ∧
        ((∀ op', op ≠ .issuance op') → usage = s'.control.issuerQuotaUsage) := by
  obtain ⟨op, rfl⟩ | hother := exists_or_forall_not (op = .issuance ·)
  · refine (State.issuanceOp_step env s op).mono fun s' h => ?_
    obtain ⟨usage, hguards⟩ := h.guardChain
    exact ⟨usage, hguards, fun hother => absurd rfl (hother op)⟩
  · exact (Op.guardChain_of_ne env s hcontrol hother).mono fun _ h => ⟨_, h, fun _ => rfl⟩

/-- **A guarded entry point fails while the contract is blocked.** -/
theorem Op.not_blocked_of_guarded (op : Op) :
    Ensures (op.apply env s) fun _ => op.guarded = true → ¬ s.control.Blocked := by
  cases op with
  | control op =>
    cases op with
    | untracked guard =>
      exact ensures_map.mpr
        ((State.passGuard_guards env s.control guard).mono fun _ h => h.passes.2)
    | _ => exact fun _ _ hguarded => absurd hguarded (by simp [Op.guarded, ControlOp.guarded])
  | _ =>
    refine (Op.guardChain env s (by simp)).mono ?_
    rintro _ ⟨_, h, -⟩
    exact h.passes.2

/-- The administrator's entry points that write the core. -/
def ControlOp.writesCore : ControlOp → Bool
  | initializeContract .. | updateAdmin .. | pause .. | unpause .. | emergencyPause ..
  | emergencyDegrade .. | resume .. | setCircuitBreakerConfig .. | setIssuerQuota ..
  | removeIssuerQuota .. => true
  | _ => false

/-- **What an operation does to the core of the guards' storage.** -/
inductive CoreStep (env : Env) (c : Control) : Op → Control → Prop
  | passes {op : Op} {c' : Control} {usage : Store Address IssuerQuotaUsage}
      (hop : ∀ op', op = .control op' → op'.writesCore = false)
      (h : c.Passes env { c' with issuerQuotaUsage := usage })
      (husage : (∀ op', op ≠ .issuance op') → usage = c'.issuerQuotaUsage) : CoreStep env c op c'
  | initialized {admin : Address} (hnone : c.admin = none) :
      CoreStep env c (.control (.initializeContract admin)) { c with admin := some admin }
  | succeeded {admin newAdmin : Address} :
      CoreStep env c (.control (.updateAdmin admin newAdmin)) { c with admin := some newAdmin }
  | pauses {admin : Address} (hauth : admin ∈ env.auths) (hadmin : c.admin = some admin) :
      CoreStep env c (.control (.pause admin)) { c with paused := true }
  | unpauses {admin : Address} (hauth : admin ∈ env.auths) (hadmin : c.admin = some admin) :
      CoreStep env c (.control (.unpause admin)) { c with paused := false }
  | activates {admin : Address} {reason : String} (hauth : admin ∈ env.auths)
      (hadmin : c.admin = some admin) :
      CoreStep env c (.control (.emergencyPause admin reason)) { c with
        circuitBreakerActivation := some (c.activation env admin reason .paused)
        circuitBreakerState := .paused
        paused := true }
  | degrades {admin : Address} {reason : String} (hauth : admin ∈ env.auths)
      (hadmin : c.admin = some admin) :
      CoreStep env c (.control (.emergencyDegrade admin reason)) { c with
        circuitBreakerActivation := some (c.activation env admin reason .degraded)
        circuitBreakerState := .degraded
        degradedWriteCount := 0 }
  | resumes {admin : Address} : CoreStep env c (.control (.resume admin)) c.recovered
  | configured {admin : Address} {config : CircuitBreakerConfig} :
      CoreStep env c (.control (.setCircuitBreakerConfig admin config))
        { c with circuitBreakerConfig := some config }
  | quotaSet {admin who : Address} {quota : IssuerQuota} (hwindow : 0 < quota.windowSeconds) :
      CoreStep env c (.control (.setIssuerQuota admin who quota))
        { c with issuerQuota := c.issuerQuota.set who quota }
  | quotaRemoved {admin who : Address} :
      CoreStep env c (.control (.removeIssuerQuota admin who)) { c with
        issuerQuota := c.issuerQuota.remove who
        issuerQuotaUsage := c.issuerQuotaUsage.remove who }

namespace Control

variable {env : Env} {c : Control}

theorem assertAdmin_eq_ok {admin : Address} {u : Unit} :
    c.assertAdmin admin = .ok u ↔ c.admin = some admin := by
  simp [assertAdmin, bind_eq_ok, expect_eq_ok, require_eq_ok]

theorem requireAdmin_eq_ok {admin : Address} {u : Unit} :
    c.requireAdmin admin = .ok u ↔ c.admin = some admin := by
  simp [requireAdmin, bind_eq_ok, expect_eq_ok, require_eq_ok]

theorem Passes.coreStep {c' : Control} (h : c.Passes env c') {op : ControlOp}
    (hop : op.writesCore = false) : CoreStep env c (.control op) c' :=
  .passes (by rintro _ ⟨⟩; exact hop) h fun _ => rfl

end Control

open Control in
theorem controlOp_coreStep (c : Control) (op : ControlOp) :
    Ensures (op.apply env c) (CoreStep env c (.control op)) := by
  cases op
  case initializeContract admin =>
    simp only [ControlOp.apply, initializeContract, ensures_steps, require_eq_ok]
    exact fun hnone _ => .initialized hnone
  case updateAdmin admin newAdmin =>
    simp only [ControlOp.apply, updateAdmin, ensures_steps]
    exact fun _ _ => .succeeded
  case pause admin =>
    simp only [ControlOp.apply, pause, setPaused, ensures_steps, requireAuth_eq_ok,
      assertAdmin_eq_ok]
    exact fun hauth hadmin => .pauses hauth hadmin
  case unpause admin =>
    simp only [ControlOp.apply, unpause, setPaused, ensures_steps, requireAuth_eq_ok,
      assertAdmin_eq_ok]
    exact fun hauth hadmin => .unpauses hauth hadmin
  case emergencyPause admin reason =>
    simp only [ControlOp.apply, emergencyPause, ensures_steps, requireAuth_eq_ok,
      requireAdmin_eq_ok]
    exact fun hauth hadmin => .activates hauth hadmin
  case emergencyDegrade admin reason =>
    simp only [ControlOp.apply, emergencyDegrade, ensures_steps, requireAuth_eq_ok,
      requireAdmin_eq_ok]
    exact fun hauth hadmin => .degrades hauth hadmin
  case resume admin =>
    simp only [ControlOp.apply, resume, ensures_steps]
    exact fun _ _ => .resumes
  case setCircuitBreakerConfig admin config =>
    simp only [ControlOp.apply, setCircuitBreakerConfig, ensures_steps]
    exact fun _ _ => .configured
  case setIssuerQuota admin who quota =>
    simp only [ControlOp.apply, setIssuerQuota, ensures_steps, require_eq_ok]
    exact fun _ _ _ hwindow _ => .quotaSet hwindow
  case removeIssuerQuota admin who =>
    simp only [ControlOp.apply, removeIssuerQuota, ensures_steps]
    exact fun _ _ => .quotaRemoved
  case getCircuitBreakerState => exact ensures_ok.mpr (Passes.coreStep (.inr rfl) rfl)
  case untracked guard =>
    exact (State.passGuard_passes env c guard).mono fun _ h => h.coreStep rfl
  case updateCongestionAndAdjust admin =>
    refine (updateCongestionAndAdjust_adjusts env c admin).mono ?_
    rintro _ (metrics | metrics) <;>
    · refine Passes.coreStep ?_ rfl
      exact .inl rfl
  all_goals
    refine Ensures.mono (P := fun c' => c'.core = c.core) ?_ fun _ h => Passes.coreStep (.inl h) rfl
    simp [ControlOp.apply, core, setRateLimitConfig, setIssuerRateLimitConfig,
      addRateLimitWhitelist, removeRateLimitWhitelist, adminBypassRateLimit, setPowDifficulty,
      setCongestionConfig]

theorem Op.coreStep (op : Op) :
    Ensures (op.apply env s) fun s' => CoreStep env s.control op s'.control := by
  cases op with
  | control op => exact ensures_map.mpr (controlOp_coreStep env s.control op)
  | _ =>
    refine (Op.guardChain env s (by simp)).mono ?_
    rintro s' ⟨usage, h, husage⟩
    exact .passes (by simp) h.passes.1 husage

/-! ## Attestations -/

namespace Op

variable (env : Env) (s : State)

open State

/-- **What the other families do to the attestations**: a challenge that is upheld takes records
off, and else nothing changes but the BBS+ flags. -/
theorem leaves_attestations {op : Op} (hop : ∀ op', op ≠ .attestation op') :
    Ensures (op.apply env s) fun s' =>
      s'.attestations =
        { s.attestations with bbsCredentialFlag := s'.attestations.bbsCredentialFlag } ∨
      ∃ challenge, Upholds env s challenge s' := by
  cases op with
  | attestation op => exact absurd rfl (hop op)
  | discipline op =>
    exact (disciplineOp_step env s op).mono fun _ h =>
      h.attestations.imp_left fun heq => by rw [heq]
  | _ => exact (Op.footprint env s _).mono fun _ h => .inl (h.attestors rfl).2

/-- They leave the recorded forks and the multi-signature requests. -/
theorem leaves_aside {op : Op} (hop : ∀ op', op ≠ .attestation op') :
    Ensures (op.apply env s) fun s' => s'.attestations.aside = s.attestations.aside := by
  refine (leaves_attestations env s hop).mono ?_
  rintro s' (h | ⟨challenge, h⟩)
  · rw [h]
    rfl
  · rw [h.attestations]
    rfl

/-- **No operation records a fork**: the call that would is aborted. -/
theorem forkInfo (op : Op) :
    Ensures (op.apply env s) fun s' => s'.attestations.forkInfo = s.attestations.forkInfo := by
  obtain ⟨op, rfl⟩ | hop := exists_or_forall_not (op = .attestation ·)
  · exact (attestationOp_effect env s op).mono fun _ h => h.forkInfo
  · exact (leaves_aside env s hop).mono fun _ h => congrArg Prod.fst h

/-- **Nobody gets a record but by attesting.** -/
theorem thins {op : Op} (hop : op.attests = false) : Ensures (op.apply env s) (Thins s) := by
  obtain ⟨op, rfl⟩ | hother := exists_or_forall_not (op = .attestation ·)
  · exact (attestationOp_effect env s op).mono fun _ h => h.thins hop
  · refine (leaves_attestations env s hother).mono ?_
    rintro s' (h | ⟨challenge, h⟩)
    · exact .of_attestors (by rw [h])
    · exact .of_setRecords (f := fun record => record) (by rw [List.map_id', h.attestations])
        (fun _ => rfl) fun _ _ => rfl

/-! ## Attestors -/

/-- **Operations of the other families leave punishments and challenges alone.** -/
theorem leaves_discipline {op : Op} (hop : ∀ op', op ≠ .discipline op') :
    Ensures (op.apply env s) fun s' => SamePunishments s s' ∧ SameChallenges s s' := by
  cases op with
  | discipline op => exact absurd rfl (hop op)
  | attestation op =>
    refine (attestationOp_effect env s op).mono fun _ h => ?_
    rw [SamePunishments, SameChallenges, h.rewards.rest]
    exact ⟨⟨rfl, rfl⟩, rfl, rfl, rfl⟩
  | _ =>
    refine (Op.footprint env s _).mono fun _ h => ?_
    rw [SamePunishments, SameChallenges, (h.attestors rfl).1]
    exact ⟨⟨rfl, rfl⟩, rfl, rfl, rfl⟩

end Op

/-! ## Calls -/

namespace World

theorem next_writes (host : Host) (w : World) (call : Call) :
    Writes (call.op.Makes w.state) w.state.registry (w.next host call).state.registry :=
  next_of_ensures (call.op.writes _ _) .refl

/-- **An invariant of the registry that admissible effects keep holds after every run of admissible
operations.** -/
theorem registry_invariant {C : State → Op → Prop} {I : Registry → Prop}
    (hstep : ∀ s op r e, C s op → op.Makes s r e → e.Enabled r → I r → I (e.apply r))
    {host : Host} {w : World} {calls : List Call}
    (h : Machine.Along (next host) (Meets C) w calls) (hw : I w.state.registry) :
    I (Machine.run (next host) w calls).state.registry :=
  h.invariant (I := fun w => I w.state.registry)
    (fun w call hI hC => (next_writes host w call).invariant
      (fun r e hmakes => hstep w.state call.op r e hC hmakes) hI) hw

end World

end QuorumProof
