import QuorumProof.Lib.Memo
import QuorumProof.Contract.Permanence

/-!
# Contract/RevocationCache — `is_revoked` against the stored flag

`is_revoked` keeps its answers without an expiry, so every path that sets the flag has to refresh
them.  `mark_credential_revoked` does; `revoke_consent` does not, and neither does the issuance that
overwrites a credential after the counter was put back.
-/

namespace QuorumProof

open Memo

namespace Registry

/-- The stored revocation flag. -/
def revokedFlag (r : Registry) : Store Nat Bool := fun id => (r.credentials id).map (·.revoked)

/-- The cached answers are the stored flags. -/
def CacheCoherent (r : Registry) : Prop := Coherent r.revocationCache r.revokedFlag

/-- Where the stored record is left alone, so is the answer. -/
theorem revokedFlag_set_of_ne {r r' : Registry} {id k : Nat} {c : Credential}
    (hcredentials : r'.credentials = r.credentials.set id c) (hne : k ≠ id) :
    r'.revokedFlag k = r.revokedFlag k := by
  simp only [revokedFlag, hcredentials, Store.set_of_ne hne]

theorem CacheCoherent.put {r r' : Registry} (h : r.CacheCoherent) {id : Nat} {c c' : Credential}
    (hcredentials : r'.credentials = r.credentials.set id c')
    (hcache : r'.revocationCache = r.revocationCache) (hc : r.credentials id = some c)
    (hrevoked : c'.revoked = c.revoked) : r'.CacheCoherent := by
  have hflag : r'.revokedFlag = r.revokedFlag := by
    funext k
    simp only [revokedFlag, hcredentials, Store.set_apply]
    split
    next heq => simp [heq, hc, hrevoked]
    next => rfl
  rw [CacheCoherent, hflag, hcache]
  exact h

end Registry

/-! ## One effect -/

/-- A holder withdraws consent only from a credential nobody has asked about yet. -/
def Effect.SparesCache (r : Registry) : Effect → Prop
  | consent id _ => r.revocationCache id = none
  | _ => True

theorem Effect.cacheCoherent {r : Registry} {e : Effect} (hspares : e.SparesCache r)
    (he : e.Enabled r) (hnumbered : r.Numbered) (h : r.CacheCoherent) :
    (e.apply r).CacheCoherent := by
  cases e with
  | issue keyed issuer input =>
    -- nothing is stored under the next id, so nothing can have been kept about it
    have hfree : r.revocationCache (r.credentialCount + 1) = none :=
      h.eq_none (by simp [Registry.revokedFlag, hnumbered.next_free])
    refine h.step fun k v hv => .inr ?_
    have hkept : r.revocationCache k = some v := by cases keyed <;> exact hv
    have hne : k ≠ r.credentialCount + 1 := by
      rintro rfl
      simp [hfree] at hkept
    refine ⟨hkept, ?_⟩
    cases keyed <;> exact Registry.revokedFlag_set_of_ne rfl hne
  | revoke id c =>
    refine h.step fun k v hv => ?_
    by_cases hk : k = id
    · -- the flag and the kept answer are set together
      subst hk
      exact .inl (by simp [apply, Registry.markRevoked, Registry.revokedFlag, ← hv])
    · simp only [apply, Registry.markRevoked, Store.set_of_ne hk] at hv
      exact .inr ⟨hv, Registry.revokedFlag_set_of_ne rfl hk⟩
  | consent id c =>
    refine h.step fun k v hv => .inr ⟨hv, ?_⟩
    have hne : k ≠ id := by
      rintro rfl
      simp [apply, Registry.revokeConsent, show r.revocationCache k = none from hspares] at hv
    exact Registry.revokedFlag_set_of_ne rfl hne
  | transfer id c subject => exact h.put rfl rfl he rfl
  | rotate id c subject => exact h.put rfl rfl he.1 rfl
  | recover id c subject => exact h.put rfl rfl he rfl
  | amend id c c' => exact h.put rfl rfl he.1 he.2.revoked
  | cache id revoked =>
    obtain ⟨-, c, hc, hrevoked⟩ := he
    refine h.step fun k v hv => ?_
    by_cases hk : k = id
    · subst hk
      simp only [apply, Registry.cacheRevocation, Store.set_self, Option.some.injEq] at hv
      exact .inl (by simp [apply, Registry.cacheRevocation, Registry.revokedFlag, hc, hrevoked, hv])
    · simp only [apply, Registry.cacheRevocation, Store.set_of_ne hk] at hv
      exact .inr ⟨hv, rfl⟩
  | restore count => exact h

/-! ## Whole runs -/

/-- An operation that neither puts the credential counter back nor withdraws consent from a
credential with a cached answer. -/
def Op.SparesCache (s : State) (op : Op) : Prop :=
  op.KeepsCount s ∧ ∀ id ∈ op.consented, s.registry.revocationCache id = none
  deriving Decidable

theorem Op.SparesCache.effect {s : State} {op : Op} {r : Registry} {e : Effect}
    (h : op.SparesCache s) (hmakes : op.Makes s r e) : e.SparesCache r := by
  cases e with
  | consent id c =>
    obtain ⟨rfl, hid⟩ := hmakes.madeBy
    exact h.2 id hid
  | _ => trivial

/-- `is_revoked` returns the flag of a stored credential whenever the cache is coherent. -/
theorem State.isRevoked_eq_flag {s : State} (h : s.registry.CacheCoherent) {id : Nat}
    {c : Credential} (hc : s.registry.credentials id = some c) :
    Prod.snd <$> s.isRevoked id = .ok c.revoked := by
  unfold isRevoked
  split
  next cached hcached =>
    have hflag := h id cached hcached
    simp only [Registry.revokedFlag, hc, Option.map_some, Option.some.injEq] at hflag
    rw [hflag]
    rfl
  next =>
    rw [getCredential_eq_ok.mpr hc]
    rfl

/-- **The cache is coherent in every run that spares it.** -/
theorem World.cacheCoherent {host : Host} {calls : List Call}
    (h : Machine.Along (next host) (Meets fun s op => op.SparesCache s) deployed calls) :
    (after host calls).state.registry.CacheCoherent := by
  have hboth : (after host calls).state.registry.Numbered ∧
      (after host calls).state.registry.CacheCoherent := by
    refine registry_invariant (I := fun r => r.Numbered ∧ r.CacheCoherent)
      (fun s op r e hspares hmakes he hr => ?_) h ⟨State.empty_numbered, .empty _⟩
    exact ⟨Effect.numbered (hspares.1.effect hmakes) he hr.1,
      Effect.cacheCoherent (hspares.effect hmakes) he hr.1 hr.2⟩
  exact hboth.2

/-- `is_revoked` answers with the stored flag for every stored credential. -/
def State.RevocationAnswered (s : State) : Prop :=
  ∀ id c, s.registry.credentials id = some c → Prod.snd <$> s.isRevoked id = .ok c.revoked

/-- **`is_revoked` returns the stored flag in every run in which consent is withdrawn only from
credentials without a cached answer**, and no restored snapshot is behind the credential counter. -/
theorem World.isRevoked_correct (host : Host) (calls : List Call)
    (h : Machine.Along (next host) (Meets fun s op => op.SparesCache s) deployed calls) :
    (after host calls).state.RevocationAnswered :=
  fun _ _ hc => State.isRevoked_eq_flag (World.cacheCoherent h) hc

/-- A query before and after a revocation by the issuer, and consent withdrawn without one. -/
theorem World.isRevoked_correct_revoke :
    (after Sample.host
      [Sample.issue Sample.alice 1, Sample.isRevoked 1, Sample.revoke 1, Sample.issue Sample.bob 2,
        Sample.revokeConsent Sample.bob 2]).state.RevocationAnswered :=
  World.isRevoked_correct _ _ (by decide)

/-- **Consent withdrawn after a query goes unnoticed**: the cached answer is served for ever. -/
theorem World.not_isRevoked_correct :
    ¬ ∀ (host : Host) (calls : List Call), (after host calls).state.RevocationAnswered := by
  intro h
  have hanswer := h Sample.host
    [Sample.issue Sample.alice 1, Sample.isRevoked 1, Sample.revokeConsent Sample.alice 1] 1 _ rfl
  exact absurd (Except.ok.inj hanswer) (by decide)

end QuorumProof
