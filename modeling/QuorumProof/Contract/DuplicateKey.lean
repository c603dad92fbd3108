import QuorumProof.Contract.Permanence

/-!
# Contract/DuplicateKey — one live credential per subject, issuer and type

`SubjectIssuerType` is the unique key of the live credentials.  Issuance takes a key and
`mark_credential_revoked` gives it up; a recovery moves it.  `approve_issuance` issues without
taking one, `revoke_consent` gives none up, and a transfer or a rotation moves the credential but
not its key.
-/

namespace QuorumProof

/-! ## The key of a live credential -/

namespace Credential

/-- What no two live credentials may have in common. -/
def key (c : Credential) : Address × Address × Nat := (c.subject, c.issuer, c.credentialType)

/-- The key of a live credential. -/
def liveKey (c : Credential) : Option (Address × Address × Nat) :=
  if c.revoked then none else some c.key

theorem liveKey_of_live {c : Credential} (h : c.revoked = false) : c.liveKey = some c.key := by
  simp [liveKey, h]

theorem liveKey_of_revoked {c : Credential} (h : c.revoked = true) : c.liveKey = none := by
  simp [liveKey, h]

theorem liveKey_eq_some {c : Credential} {k : Address × Address × Nat} :
    c.liveKey = some k ↔ c.revoked = false ∧ c.key = k := by
  cases h : c.revoked <;> simp [liveKey, h]

end Credential

namespace Registry

/-- The key of the live credential under an id. -/
def liveKey (r : Registry) : Store Nat (Address × Address × Nat) :=
  fun id => (r.credentials id).bind Credential.liveKey

/-- `SubjectIssuerType` is the unique key of the live credentials. -/
def Keyed (r : Registry) : Prop := Index.Tracks r.subjectIssuerType r.liveKey

variable {r r' : Registry} {id : Nat} {c c' : Credential}

theorem liveKey_of_eq_some (hc : r.credentials id = some c) : r.liveKey id = c.liveKey := by
  simp [liveKey, hc]

/-- A record written over one with the same key changes no key. -/
theorem liveKey_put (hcredentials : r'.credentials = r.credentials.set id c')
    (hc : r.credentials id = some c) (hsame : c'.liveKey = c.liveKey) : r'.liveKey = r.liveKey := by
  funext k
  simp only [liveKey, hcredentials, Store.set_apply]
  split
  next heq => simp [heq, hc, hsame]
  next => rfl

/-- A live record gives its id its key. -/
theorem liveKey_set (hcredentials : r'.credentials = r.credentials.set id c)
    (hlive : c.revoked = false) : r'.liveKey = r.liveKey.set id c.key := by
  funext k
  simp only [liveKey, hcredentials, Store.set_apply]
  split
  next => simp [c.liveKey_of_live hlive]
  next => rfl

/-- A revoked record has no key. -/
theorem liveKey_remove (hcredentials : r'.credentials = r.credentials.set id c)
    (hrevoked : c.revoked = true) : r'.liveKey = r.liveKey.remove id := by
  funext k
  simp only [liveKey, hcredentials, Store.set_apply, Store.remove_apply]
  split
  next => simp [c.liveKey_of_revoked hrevoked]
  next => rfl

/-- A new live credential takes a free key. -/
theorem Keyed.issue (h : r.Keyed) (hcredentials : r'.credentials = r.credentials.set id c)
    (hkeys : r'.subjectIssuerType = r.subjectIssuerType.set c.key id)
    (hnone : r.credentials id = none) (hfree : r.subjectIssuerType c.key = none)
    (hlive : c.revoked = false) : r'.Keyed := by
  unfold Keyed
  rw [liveKey_set hcredentials hlive, hkeys]
  exact Index.Tracks.set h hfree (by simp [liveKey, hnone])

/-- A live credential that is revoked gives its key up. -/
theorem Keyed.revoke (h : r.Keyed) (hcredentials : r'.credentials = r.credentials.set id c')
    (hkeys : r'.subjectIssuerType = r.subjectIssuerType.remove c.key)
    (hc : r.credentials id = some c) (hlive : c.revoked = false) (hrevoked : c'.revoked = true) :
    r'.Keyed := by
  unfold Keyed
  rw [liveKey_remove hcredentials hrevoked, hkeys]
  exact Index.Tracks.remove h ((liveKey_of_eq_some hc).trans (c.liveKey_of_live hlive))

/-- A live credential moves to a key that is free or its own. -/
theorem Keyed.move (h : r.Keyed) (hcredentials : r'.credentials = r.credentials.set id c')
    (hkeys : r'.subjectIssuerType = (r.subjectIssuerType.remove c.key).set c'.key id)
    (hc : r.credentials id = some c) (hlive : c.revoked = false) (hlive' : c'.revoked = false)
    (hfree : ∀ holder ∈ r.subjectIssuerType c'.key, holder = id) : r'.Keyed := by
  unfold Keyed
  rw [liveKey_set hcredentials hlive', hkeys]
  exact Index.Tracks.move h ((liveKey_of_eq_some hc).trans (c.liveKey_of_live hlive)) hfree

/-- A record written over one with the same key leaves the key alone. -/
theorem Keyed.put (h : r.Keyed) (hcredentials : r'.credentials = r.credentials.set id c')
    (hkeys : r'.subjectIssuerType = r.subjectIssuerType) (hc : r.credentials id = some c)
    (hsame : c'.liveKey = c.liveKey) : r'.Keyed := by
  unfold Keyed
  rw [liveKey_put hcredentials hc hsame, hkeys]
  exact h

end Registry

/-! ## One effect -/

/-- The effects that keep the key unique: nothing is issued without one, consent is not withdrawn, a
transfer or rotation changes no live credential's subject, and a recovery moves a live credential
to a key that is free or its own. -/
def Effect.KeepsKey (r : Registry) : Effect → Prop
  | issue keyed _ _ => keyed = true
  | consent _ _ => False
  | transfer _ c subject => c.revoked = true ∨ subject = c.subject
  | rotate _ c _ => c.revoked = true
  | recover id c subject => c.revoked = false ∧
      ∀ holder ∈ r.subjectIssuerType (subject, c.issuer, c.credentialType), holder = id
  | e => e.KeepsCount r

theorem Effect.keyed {r : Registry} {e : Effect} (hkeeps : e.KeepsKey r) (he : e.Enabled r)
    (hnumbered : r.Numbered) (h : r.Keyed) : (e.apply r).Keyed := by
  cases e with
  | issue keyed issuer input =>
    obtain rfl : keyed = true := hkeeps
    exact h.issue rfl rfl hnumbered.next_free (he rfl) rfl
  | revoke id c => exact h.revoke rfl rfl he.1 he.2 rfl
  | consent id c => exact hkeeps.elim
  | transfer id c subject =>
    refine h.put rfl rfl he ?_
    rcases hkeeps with hrevoked | rfl
    · rw [c.liveKey_of_revoked hrevoked]
      exact Credential.liveKey_of_revoked hrevoked
    · rfl
  | rotate id c subject =>
    refine h.put rfl rfl he.1 ?_
    rw [c.liveKey_of_revoked hkeeps]
    exact Credential.liveKey_of_revoked hkeeps
  | recover id c subject => exact h.move rfl rfl he hkeeps.1 hkeeps.1 hkeeps.2
  | amend id c c' =>
    refine h.put rfl rfl he.1 ?_
    simp only [Credential.liveKey, Credential.key, he.2.revoked, he.2.subject, he.2.issuer,
      he.2.credentialType]
  | cache id revoked => exact h
  | restore count => exact h

/-! ## Whole runs -/

/-- The operations that keep the key unique, in terms of what they find stored. -/
def Op.KeepsKey (s : State) (op : Op) : Prop :=
  op.KeepsCount s ∧
  (∀ request ∈ op.approving s, ∀ policy ∈ s.workflow.issuancePolicy request.credentialType,
    request.approvals.length + 1 < policy.threshold) ∧
  (∀ id ∈ op.consented, ∀ c ∈ s.registry.credentials id, c.revoked = true) ∧
  (∀ move ∈ op.transferred, ∀ c ∈ s.registry.credentials move.1,
    c.revoked = true ∨ move.2 = c.subject) ∧
  (∀ move ∈ op.rotated, ∀ c ∈ s.registry.credentials move.1, c.revoked = true) ∧
  (∀ request ∈ op.recovered s, ∀ c ∈ s.registry.credentials request.credentialId,
    c.revoked = false ∧
      ∀ holder ∈ s.registry.subjectIssuerType (request.newSubject, c.issuer, c.credentialType),
        holder = request.credentialId)
  deriving Decidable

theorem Op.KeepsKey.effect {s : State} {op : Op} {r : Registry} {e : Effect}
    (h : op.KeepsKey s) (hmakes : op.Makes s r e) (he : e.Enabled r) : e.KeepsKey r := by
  obtain ⟨hcount, happrove, hconsent, htransfer, hrotate, hrecover⟩ := h
  cases e with
  | issue keyed issuer input =>
    cases keyed with
    | true => rfl
    | false =>
      obtain ⟨request, hrequest, policy, hpolicy, hreached⟩ := Op.makes_unkeyed hmakes
      have := happrove request hrequest policy hpolicy
      omega
  | consent id c =>
    obtain ⟨rfl, hid⟩ := hmakes.madeBy
    have hrevoked := hconsent id hid c he.1
    simp [he.2] at hrevoked
  | transfer id c subject =>
    obtain ⟨rfl, hmove⟩ := hmakes.madeBy
    exact htransfer _ hmove c he
  | rotate id c subject =>
    obtain ⟨rfl, hmove⟩ := hmakes.madeBy
    exact hrotate _ hmove c he.1
  | recover id c subject =>
    obtain ⟨rfl, request, hrequest, rfl, rfl⟩ := hmakes.madeBy
    exact hrecover request hrequest c he
  | restore count => exact Op.KeepsCount.effect hcount hmakes
  | _ => trivial

/-- No two live credentials have the same subject, issuer and type, and `SubjectIssuerType` holds an
id exactly when the live credential under it has the key. -/
structure Registry.NoDuplicates (r : Registry) : Prop where
  unique : ∀ id₁ id₂ c₁ c₂, r.credentials id₁ = some c₁ → r.credentials id₂ = some c₂ →
    c₁.revoked = false → c₂.revoked = false → c₁.key = c₂.key → id₁ = id₂
  key_iff : ∀ key id, r.subjectIssuerType key = some id ↔
    ∃ c, r.credentials id = some c ∧ c.revoked = false ∧ c.key = key

theorem Registry.Keyed.noDuplicates {r : Registry} (h : r.Keyed) : r.NoDuplicates where
  unique := by
    intro id₁ id₂ c₁ c₂ hc₁ hc₂ hlive₁ hlive₂ hkey
    refine Index.Tracks.injective h (k := c₁.key) ?_ ?_
    · rw [liveKey_of_eq_some hc₁, c₁.liveKey_of_live hlive₁]
    · rw [liveKey_of_eq_some hc₂, c₂.liveKey_of_live hlive₂, hkey]
  key_iff := by
    intro key id
    rw [h key id]
    simp only [liveKey, Option.bind_eq_some_iff, Credential.liveKey_eq_some]

theorem State.empty_keyed : State.empty.registry.Keyed :=
  fun _ _ => ⟨nofun, nofun⟩

/-- **There is one live credential per subject, issuer and type, found by its key**, in every run in
which no approval reaches an issuance threshold, no consent is withdrawn, no live credential is
transferred to another subject or rotated, recoveries move live credentials to free keys, and no
restored snapshot is behind the counter. -/
theorem World.no_live_duplicates (host : Host) (calls : List Call)
    (h : Machine.Along (next host) (Meets fun s op => op.KeepsKey s) deployed calls) :
    (after host calls).state.registry.NoDuplicates := by
  have hboth : (after host calls).state.registry.Numbered ∧
      (after host calls).state.registry.Keyed := by
    refine registry_invariant (I := fun r => r.Numbered ∧ r.Keyed)
      (fun s op r e hkeeps hmakes he hr => ?_) h
      ⟨State.empty_numbered, State.empty_keyed⟩
    exact ⟨Effect.numbered (hkeeps.1.effect hmakes) he hr.1,
      Effect.keyed (hkeeps.effect hmakes he) he hr.1 hr.2⟩
  exact hboth.2.noDuplicates

/-- A revoked credential frees its key for the next one. -/
theorem World.no_live_duplicates_reissue :
    (after Sample.host
      [Sample.issue Sample.alice 1, Sample.issue Sample.bob 1, Sample.revoke 1,
        Sample.issue Sample.alice 1]).state.registry.NoDuplicates :=
  World.no_live_duplicates _ _ (by decide)

/-- **A rotated credential leaves its new holder free to be issued the same one again.** -/
theorem World.not_no_live_duplicates :
    ¬ ∀ (host : Host) (calls : List Call), (after host calls).state.registry.NoDuplicates := by
  intro h
  have hrun := h Sample.host
    [Sample.issue Sample.alice 1, Sample.rotate Sample.alice 1 Sample.bob,
      Sample.issue Sample.bob 1]
  exact absurd (hrun.unique 1 2 _ _ rfl rfl rfl rfl rfl) (by decide)

end QuorumProof
