import QuorumProof.Contract.Multisig

/-!
# Contract/Quota — what an issuer's quota bounds

`enforce_quota` sits in `issue_credential`, and so in every entry point that issues one credential
on the caller's word.  The batches and `approve_issuance` go to `issue_inner` past it.
`QuotaStep` says what any call does to one issuer's quota, its usage, and the credentials in the
issuer's name; where the calls past the quota keep away from the issuer, the usage counts what is
created, and the quota bounds it between two resets of its window.

Source: `enforce_quota`, `set_issuer_quota`, `remove_issuer_quota`, the issuing entry points.
-/

namespace QuorumProof

open Guarded

/-! ## The quota's storage -/

/-- An issuer's quota, and its usage. -/
structure Meter where
  quota : Option IssuerQuota
  usage : Option IssuerQuotaUsage

/-- How many credentials are charged to the window. -/
def Meter.used (m : Meter) : Nat := (m.usage.map (·.issuedCount)).getD 0

/-- When the window the usage is counted in began. -/
def Meter.windowStart (m : Meter) : Option Nat := m.usage.map (·.windowStart)

/-- **What a call does to an issuer's meter**, when it creates `n` credentials in the issuer's name:
where it is metered, it creates none or is charged. -/
inductive QuotaStep (now : Nat) (metered : Prop) (n : Nat) (m : Meter) : Meter → Prop
  | idle (hn : metered → n = 0) : QuotaStep now metered n m m
  /-- `set_issuer_quota` leaves the usage of the window that runs. -/
  | configured {quota : IssuerQuota} (hwindow : 0 < quota.windowSeconds) (hn : metered → n = 0) :
      QuotaStep now metered n m { m with quota := some quota }
  | removed (hn : metered → n = 0) : QuotaStep now metered n m ⟨none, none⟩
  | unlimited (hnone : m.quota = none) : QuotaStep now metered n m m
  /-- The usage a charge starts from is below the quota, and is what was stored unless there was
  none or its window has passed. -/
  | charged {quota : IssuerQuota} {usage : IssuerQuotaUsage} (hquota : m.quota = some quota)
      (hroom : usage.issuedCount < quota.maxCredentials)
      (hfrom : m.usage = some usage ∨ usage.issuedCount = 0 ∧ ∀ old, m.usage = some old →
        usage.windowStart = now ∧ quota.windowSeconds ≤ now - old.windowStart) (hn : n = 1) :
      QuotaStep now metered n m { m with
        usage := some { usage with issuedCount := saturatingAdd u32Max usage.issuedCount 1 } }

namespace Control

variable {env : Env} {c c' : Control} {issuer : Address} {metered : Prop} {n : Nat}

/-- When the window an issuer's usage is counted in began. -/
def quotaWindowStart (c : Control) (issuer : Address) : Option Nat :=
  (c.issuerQuotaUsage issuer).map (·.windowStart)

def meter (c : Control) (issuer : Address) : Meter :=
  { quota := c.issuerQuota issuer, usage := c.issuerQuotaUsage issuer }

/-- **The guards leave the quotas.** -/
theorem Passes.meter (h : c.Passes env c') (issuer : Address) : c'.meter issuer = c.meter issuer :=
  h.eq_of_core (·.meter issuer) (fun _ => rfl) fun _ => rfl

/-- One credential is charged to the issuer. -/
theorem enforceQuota_step (h : c.enforceQuota env issuer = .ok c') :
    QuotaStep env.now metered 1 (c.meter issuer) (c'.meter issuer) := by
  unfold enforceQuota at h
  split at h
  next hquota =>
    obtain rfl := Except.ok.inj h
    exact .unlimited hquota
  next quota hquota =>
    extract_lets stored usage at h
    split at h
    next => cases h
    next hroom =>
      obtain rfl := Except.ok.inj h
      simp only [meter, Store.set_self]
      refine .charged hquota (not_le.mp hroom) ?_ rfl
      unfold usage stored
      cases c.issuerQuotaUsage issuer with
      | none =>
        refine .inr ⟨?_, by simp⟩
        split <;> rfl
      | some old =>
        split
        next => exact .inl rfl
        next hpassed =>
          exact .inr ⟨rfl, fun _ heq => ⟨rfl, Option.some.inj heq ▸ not_lt.mp hpassed⟩⟩

/-- Nothing is charged to another issuer. -/
theorem enforceQuota_meter {other : Address} (h : c.enforceQuota env issuer = .ok c')
    (hne : other ≠ issuer) : c'.meter other = c.meter other := by
  unfold enforceQuota at h
  split at h
  next => exact Except.ok.inj h ▸ rfl
  next =>
    extract_lets stored usage at h
    split at h
    next => cases h
    next =>
      obtain rfl := Except.ok.inj h
      simp only [meter, Store.set_of_ne hne]

end Control

/-- Outside the issuances nothing is charged, and two operations write quotas. -/
theorem CoreStep.quotaStep {env : Env} {c c' : Control} {op : Op} {metered : Prop} {n : Nat}
    (h : CoreStep env c op c') (hop : ∀ op', op ≠ .issuance op') (issuer : Address)
    (hn : metered → n = 0) : QuotaStep env.now metered n (c.meter issuer) (c'.meter issuer) := by
  cases h with
  | passes _ h husage =>
    obtain rfl := husage hop
    exact h.meter issuer ▸ .idle hn
  | @quotaSet _ who quota hwindow =>
    rcases eq_or_ne issuer who with rfl | hne
    · simp only [Control.meter, Store.set_self]
      exact .configured hwindow hn
    · simp only [Control.meter, Store.set_of_ne hne]
      exact .idle hn
  | @quotaRemoved _ who =>
    rcases eq_or_ne issuer who with rfl | hne
    · simp only [Control.meter, Store.remove_self]
      exact .removed hn
    · simp only [Control.meter, Store.remove_of_ne hne]
      exact .idle hn
  | _ => exact .idle hn

/-! ## Credentials in an issuer's name -/

/-- How many of the credentials created between two registries are in an issuer's name. -/
def Registry.createdFor (issuer : Address) (r r' : Registry) : Nat :=
  (r'.issued.drop r.issued.length).countP fun ev =>
    (r'.credentials ev.id).any fun c => c.issuer = issuer

namespace Registry

variable {A : Registry → Effect → Prop} {r r' : Registry} {issuer : Address}

theorem createdFor_of_issued_eq (h : r'.issued = r.issued) : createdFor issuer r r' = 0 := by
  simp [createdFor, h]

/-- Writes that issue nothing create nothing. -/
theorem createdFor_of_not_issue (h : Writes A r r')
    (hA : ∀ r₁ keyed who input, ¬ A r₁ (.issue keyed who input)) : createdFor issuer r r' = 0 := by
  obtain ⟨new, hissued, hnew⟩ := h.issued
  refine createdFor_of_issued_eq (hissued.trans ?_)
  cases new with
  | nil => simp
  | cons ev _ =>
    obtain ⟨r₁, keyed, who, input, hmade, -⟩ := hnew ev (by simp)
    exact absurd hmade (hA r₁ keyed who input)

/-- **Issuances in other names create nothing in this one.** -/
theorem createdFor_of_others (h : Writes A r r')
    (hA : ∀ r₁ e, A r₁ e → ∃ keyed who input, e = .issue keyed who input ∧ who ≠ issuer) :
    createdFor issuer r r' = 0 := by
  have hnew : ∃ new, r'.issued = r.issued ++ new ∧
      ∀ ev ∈ new, ∀ c, r'.credentials ev.id = some c → c.issuer ≠ issuer := by
    induction h with
    | refl => exact ⟨[], by simp, by simp⟩
    | @tail r₁ _ _ hlast ih =>
      obtain ⟨new, hissued, hnames⟩ := ih
      obtain ⟨e, hmade, -, rfl⟩ := hlast
      obtain ⟨keyed, who, input, rfl, hwho⟩ := hA _ _ hmade
      have happly : (Effect.apply r₁ (.issue keyed who input)).issued =
            r₁.issued ++ [⟨r₁.credentialCount + 1, input.subject, input.credentialType⟩] ∧
          (Effect.apply r₁ (.issue keyed who input)).credentials =
            r₁.credentials.set (r₁.credentialCount + 1) (newCredential (r₁.credentialCount + 1)
              who input.subject input.credentialType input.metadataHash input.expiresAt) := by
        cases keyed <;> exact ⟨rfl, rfl⟩
      rw [happly.1, happly.2]
      refine ⟨new ++ [⟨r₁.credentialCount + 1, input.subject, input.credentialType⟩],
        by rw [hissued, List.append_assoc], fun ev hev c hc => ?_⟩
      rcases Store.set_eq_some.mp hc with ⟨-, rfl⟩ | ⟨hne, hc⟩
      · exact hwho
      · rcases List.mem_append.mp hev with hold | hlast
        · exact hnames ev hold c hc
        · exact absurd (by rw [List.mem_singleton.mp hlast]) hne
  obtain ⟨new, hissued, hnames⟩ := hnew
  rw [createdFor, hissued, List.drop_left, List.countP_eq_zero]
  intro ev hev
  cases hc : r'.credentials ev.id with
  | none => simp
  | some c => simpa using hnames ev hev c hc

/-- One issuance creates one credential, in the name it is made in. -/
theorem createdFor_issue (r : Registry) (keyed : Bool) (who issuer : Address)
    (input : CredentialInput) :
    createdFor issuer r ((Effect.issue keyed who input).apply r) =
      if who = issuer then 1 else 0 := by
  cases keyed <;>
    simp [createdFor, Effect.apply, issue, setDuplicateKey, newCredential, List.countP_cons]

end Registry

/-! ## Past the quota -/

/-- **In whose name an operation issues past the quota**: the issuer of a batch, and of a pending
issuance whose last approval the operation gives. -/
def Op.unmeteredIssuer (s : State) : Op → Option Address
  | issuance op => op.batchIssuer
  | multisig (.approveIssuance _ requestId) => do
    let request ← s.workflow.pendingIssuance requestId
    let policy ← s.workflow.issuancePolicy request.credentialType
    if policy.threshold ≤ request.approvals.length + 1 then some request.issuer else none
  | _ => none

/-- **An operation of another family creates nothing in an issuer's name**, unless it issues in that
name past the quota. -/
theorem Op.unmetered_createdFor (env : Env) (s : State) {op : Op} {issuer : Address}
    (hissuance : ∀ op', op ≠ .issuance op') (hissuer : op.unmeteredIssuer s ≠ some issuer) :
    Ensures (op.apply env s) fun s' => Registry.createdFor issuer s.registry s'.registry = 0 := by
  cases op with
  | issuance op => exact absurd rfl (hissuance op)
  | multisig op =>
    refine (Op.writes env s (.multisig op)).mono fun s' h =>
      Registry.createdFor_of_others h fun _ e he => ?_
    obtain ⟨request, hrequest, policy, hpolicy, hreached, rfl⟩ := he
    refine ⟨false, request.issuer, _, rfl, fun heq => hissuer ?_⟩
    cases op with
    | approveIssuance signer requestId =>
      simp only [Op.approving, Option.mem_def] at hrequest hpolicy
      simp [Op.unmeteredIssuer, hrequest, hpolicy, hreached, heq]
    | _ => cases hrequest
  | _ =>
    refine (Op.writes env s _).mono fun s' h => Registry.createdFor_of_not_issue h ?_
    intro r₁ keyed who input hmade
    unfold Op.Makes at hmade
    split at hmade <;> simp_all

/-! ## The step of one call -/

/-- A single issuance is charged to the issuer it names; a batch goes past the quota of its own. -/
theorem State.IssuanceStep.quotaStep {env : Env} {op : IssuanceOp} {s s' : State}
    (h : IssuanceStep env op s s') (issuer : Address) :
    QuotaStep env.now ((Op.issuance op).unmeteredIssuer s ≠ some issuer)
      (s.registry.createdFor issuer s'.registry) (s.control.meter issuer)
      (s'.control.meter issuer) := by
  cases h with
  | noted h =>
    rw [h.guards.passes.1.meter, Registry.createdFor_of_issued_eq (by rw [h.registry])]
    exact .idle fun _ => rfl
  | @one who input _ _ h =>
    obtain ⟨control, hguards, hcharge⟩ := h.charged
    rw [← hguards.passes.1.meter, h.registry, Registry.createdFor_issue]
    by_cases hwho : who = issuer
    · subst hwho
      rw [if_pos rfl]
      exact Control.enforceQuota_step hcharge
    · rw [if_neg hwho, Control.enforceQuota_meter hcharge (Ne.symm hwho)]
      exact .idle fun _ => rfl
  | @batch who control hwho hguard h =>
    have hmeter : s'.control.meter issuer = s.control.meter issuer := by
      rw [h.rest]
      exact (Control.passes_requireNotPaused hguard).meter issuer
    rw [hmeter]
    refine .idle fun hmetered => ?_
    have hwrites := h.writes (A := fun _ e => ∃ input, e = .issue true who input)
      fun _ input _ => ⟨input, rfl⟩
    refine Registry.createdFor_of_others hwrites fun _ e he => ?_
    obtain ⟨input, rfl⟩ := he
    refine ⟨true, who, input, rfl, ?_⟩
    rintro rfl
    exact hmetered hwho

open State in
theorem Op.quotaStep (env : Env) (s : State) (op : Op) (issuer : Address) :
    Ensures (op.apply env s) fun s' =>
      QuotaStep env.now (op.unmeteredIssuer s ≠ some issuer)
        (s.registry.createdFor issuer s'.registry) (s.control.meter issuer)
        (s'.control.meter issuer) := by
  obtain ⟨op, rfl⟩ | hop := exists_or_forall_not (op = .issuance ·)
  · exact (issuanceOp_step env s op).mono fun _ h => h.quotaStep issuer
  · intro s' hs'
    exact (op.coreStep env s s' hs').quotaStep hop issuer fun hmetered =>
      Op.unmetered_createdFor env s hop hmetered s' hs'

/-! ## One window -/

/-- The quota has a window of some length. -/
def Meter.Windowed (m : Meter) : Prop := ∀ quota, m.quota = some quota → 0 < quota.windowSeconds

namespace QuotaStep

variable {now n k : Nat} {metered : Prop} {m m' : Meter} {quota : IssuerQuota}

theorem windowed (h : QuotaStep now metered k m m') (hm : m.Windowed) : m'.Windowed := by
  cases h with
  | idle | unlimited | charged => exact hm
  | configured hwindow =>
    rintro _ ⟨⟩
    exact hwindow
  | removed => simp [Meter.Windowed]

/-- **Within one window the usage counts what is created**, and never passes the quota. -/
theorem counts (h : QuotaStep now metered k m m') (hmetered : metered)
    (hmax : quota.maxCredentials ≤ u32Max) (hwindow : 0 < quota.windowSeconds)
    (hquota : m.quota = some quota) (hheld : m'.quota ≠ none) (hused : n ≤ m.used)
    (hn : n ≤ quota.maxCredentials) (hreset : m'.windowStart ≠ m.windowStart → n = 0) :
    n + k ≤ m'.used ∧ n + k ≤ quota.maxCredentials := by
  cases h with
  | idle hk | configured _ hk =>
    rw [hk hmetered]
    exact ⟨hused, hn⟩
  | removed => exact absurd rfl hheld
  | unlimited hnone => exact absurd (hnone.symm.trans hquota) (by simp)
  | @charged _ usage hquota' hroom hfrom hk =>
    obtain rfl := Option.mem_unique hquota hquota'
    have hle : n ≤ usage.issuedCount := by
      rcases hfrom with hstored | ⟨-, hstarts⟩
      · simpa [Meter.used, hstored] using hused
      · -- a usage that is not what was stored has started a window
        rw [hreset ?_]
        · exact Nat.zero_le _
        · rw [Meter.windowStart, Meter.windowStart]
          cases hold : m.usage with
          | none => simp
          | some old =>
            obtain ⟨hnow, hpassed⟩ := hstarts old hold
            simp only [Option.map_some, ne_eq, Option.some.injEq]
            omega
    have hused' : saturatingAdd u32Max usage.issuedCount 1 = usage.issuedCount + 1 :=
      min_eq_left (hroom.trans_le hmax)
    simp only [hk, Meter.used, Option.map_some, Option.getD_some, hused']
    omega

end QuotaStep

/-! ## Whole runs -/

namespace World

variable {host : Host} {issuer : Address}

/-- An issuer's quota is `m` credentials in a window. -/
def QuotaHeld (issuer : Address) (m window : Nat) (w : World) : Prop :=
  (w.state.control.issuerQuota issuer).map (fun q => (q.maxCredentials, q.windowSeconds)) =
    some (m, window)
  deriving Decidable

/-- A call resets an issuer's quota window. -/
def ResetsQuota (host : Host) (issuer : Address) (w : World) (call : Call) : Prop :=
  (w.next host call).state.control.quotaWindowStart issuer ≠
    w.state.control.quotaWindowStart issuer
  deriving Decidable

/-- How many credentials some calls create in an issuer's name. -/
def created (host : Host) (issuer : Address) : World → List Call → Nat
  | _, [] => 0
  | w, call :: calls =>
    w.state.registry.createdFor issuer (w.next host call).state.registry +
      created host issuer (w.next host call) calls

theorem quotaStep (host : Host) (issuer : Address) (w : World) (call : Call) :
    QuotaStep (w.env host call).now (call.op.unmeteredIssuer w.state ≠ some issuer)
      (w.state.registry.createdFor issuer (w.next host call).state.registry)
      (w.state.control.meter issuer) ((w.next host call).state.control.meter issuer) :=
  next_of_ensures (call.op.quotaStep _ _ issuer)
    (.idle fun _ => Registry.createdFor_of_issued_eq rfl)

theorem windowed (host : Host) (issuer : Address) (calls : List Call) :
    ((after host calls).state.control.meter issuer).Windowed :=
  Machine.run_invariant (I := fun w : World => (w.state.control.meter issuer).Windowed)
    (fun w call => (quotaStep host issuer w call).windowed)
    (fun _ h => by cases h) calls

/-- The quota stays as it is over some calls. -/
def QuotaStays (host : Host) (issuer : Address) (m window : Nat) (w : World) (calls : List Call) :
    Prop :=
  QuotaHeld issuer m window w ∧
    Machine.Along (next host) (fun w call => QuotaHeld issuer m window (w.next host call)) w calls
  deriving Decidable

/-- The calls of a window with `n` credentials created in it so far, which starts with the first
call if that one resets it. -/
theorem created_le {w : World} {call : Call} {calls : List Call} {m window n : Nat}
    (hm : m ≤ u32Max) (hwindowed : (w.state.control.meter issuer).Windowed)
    (hstays : QuotaStays host issuer m window w (call :: calls))
    (hresets : Machine.Along (next host) (fun w call => ¬ ResetsQuota host issuer w call)
      (w.next host call) calls)
    (hop : Machine.Along (next host) (Meets fun s op => op.unmeteredIssuer s ≠ some issuer) w
      (call :: calls))
    (hused : n ≤ (w.state.control.meter issuer).used) (hn : n ≤ m)
    (hreset : ResetsQuota host issuer w call → n = 0) :
    n + created host issuer w (call :: calls) ≤ m := by
  obtain ⟨hheld, hheld', hheld''⟩ := hstays
  obtain ⟨quota, hquota, hfixed⟩ := Option.map_eq_some_iff.mp hheld
  obtain ⟨quota', hquota', -⟩ := Option.map_eq_some_iff.mp hheld'
  obtain ⟨rfl, rfl⟩ := Prod.mk.inj hfixed
  have hstep := quotaStep host issuer w call
  have hcounts := hstep.counts hop.1 hm (hwindowed quota hquota) hquota
    (by simp [Control.meter, hquota']) hused hn hreset
  rw [created, ← Nat.add_assoc]
  cases calls with
  | nil => exact hcounts.2
  | cons next rest =>
    exact created_le hm (hstep.windowed hwindowed) ⟨hheld', hheld''⟩ hresets.2 hop.2 hcounts.1
      hcounts.2 (absurd · hresets.1)

/-- **What a quota promises**: from one reset of its window, which the first call may make, to the
next, no more than `m` credentials are created in the issuer's name. -/
def QuotaRespected (host : Host) (issuer : Address) (m window : Nat) (pre : List Call)
    (first : Call) (calls : List Call) : Prop :=
  QuotaStays host issuer m window (after host pre) (first :: calls) →
    Machine.Along (next host) (fun w call => ¬ ResetsQuota host issuer w call)
      ((after host pre).next host first) calls →
    created host issuer (after host pre) (first :: calls) ≤ m

/-- **A quota bounds what is created in an issuer's name**, where no batch and no last approval
issues in it past the quota.  The bound is a `u32`. -/
theorem issuer_quota_respected (host : Host) (issuer : Address) (m window : Nat) (pre : List Call)
    (first : Call) (calls : List Call) (hm : m ≤ u32Max)
    (hop : Machine.Along (next host) (Meets fun s op => op.unmeteredIssuer s ≠ some issuer)
      (after host pre) (first :: calls)) :
    QuotaRespected host issuer m window pre first calls := by
  intro hstays hresets
  have hle := created_le (n := 0) hm (windowed host issuer pre) hstays hresets hop
    (Nat.zero_le _) (Nat.zero_le _) fun _ => rfl
  rwa [Nat.zero_add] at hle

end World

namespace Sample

/-- The issuer has a quota of some credentials in 100 seconds. -/
def underQuota (m : Nat) : List Call :=
  [initialized, call admin (.control (.setIssuerQuota admin issuer ⟨m, 100, 80⟩))]

/-- The issuer issues a batch of two. -/
def issueTwo : Call :=
  call issuer (.issuance (.batchIssueCredentials issuer [alice, bob] [1, 1] [[1], [2]] none))

end Sample

namespace World

open Sample

/-- The quota lets two of three issuances pass. -/
theorem issuer_quota_respected_two :
    created host issuer (after host (underQuota 2))
        [issue alice 1, issue alice 2,
          issue alice 3] = 2 ∧
      QuotaRespected host issuer 2 100 (underQuota 2)
        (issue alice 1)
        [issue alice 2, issue alice 3] :=
  ⟨by decide, issuer_quota_respected _ _ _ _ _ _ _ (by decide) (by decide)⟩

/-- **A batch of two passes a quota of one.** -/
theorem not_issuer_quota_respected :
    ¬ ∀ (host : Host) (issuer : Address) (m window : Nat) (pre : List Call) (first : Call)
      (calls : List Call), m ≤ u32Max → QuotaRespected host issuer m window pre first calls := by
  intro h
  have hle := h host issuer 1 100 (underQuota 1) issueTwo [] (by decide)
    (by decide) (by decide)
  exact absurd hle (by decide)

end World

end QuorumProof
