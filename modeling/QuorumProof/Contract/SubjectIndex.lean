import QuorumProof.Contract.Permanence

/-!
# Contract/SubjectIndex — the index of a subject's live credentials

`SubjectCredentialIndex` is kept by hand beside the credentials.  Issuance, revocation by
`mark_credential_revoked`, and the moves of a live credential keep it in step.  `revoke_consent` and
`execute_recovery` do not touch it, and the moves put a revoked credential into it.
-/

namespace QuorumProof

namespace Registry

/-- The address `a` is the subject of the live credential `id`. -/
def Holds (r : Registry) (a : Address) (id : Nat) : Prop :=
  ∃ c, r.credentials id = some c ∧ c.subject = a ∧ c.revoked = false

/-- `SubjectCredentialIndex` lists exactly the live credentials of each subject, each once. -/
def Indexed (r : Registry) : Prop := Index.Lists r.subjectCredentialIndex r.Holds

variable {r r' : Registry} {id : Nat} {c : Credential}

theorem holds_iff_of_eq_some (hc : r.credentials id = some c) (a : Address) :
    r.Holds a id ↔ c.subject = a ∧ c.revoked = false := by
  simp [Holds, hc]

theorem not_holds_of_eq_none (hnone : r.credentials id = none) (a : Address) : ¬ r.Holds a id := by
  simp [Holds, hnone]

/-- A write of one record decides what is held under its id, and leaves the rest. -/
theorem holds_set_iff (hcredentials : r'.credentials = r.credentials.set id c) (a : Address)
    (k : Nat) :
    r'.Holds a k ↔ if k = id then c.subject = a ∧ c.revoked = false else r.Holds a k := by
  simp only [Holds, hcredentials, Store.set_apply]
  split
  next heq => simp
  next => rfl

/-- A new live credential, listed under its subject. -/
theorem Indexed.issue (h : r.Indexed) (hfree : r.credentials id = none)
    (hcredentials : r'.credentials = r.credentials.set id c)
    (hindex : r'.subjectCredentialIndex = Index.push r.subjectCredentialIndex c.subject id)
    (hlive : c.revoked = false) : r'.Indexed := by
  unfold Indexed
  rw [hindex]
  refine Index.Lists.congr (Index.Lists.push h (not_holds_of_eq_none hfree _)) fun a k => ?_
  rw [holds_set_iff hcredentials]
  split
  next heq => simp [heq, not_holds_of_eq_none hfree, hlive, eq_comm]
  next hne => simp [hne]

/-- A credential that is no longer live, dropped from its subject's list. -/
theorem Indexed.revoke (h : r.Indexed) {c' : Credential}
    (hcredentials : r'.credentials = r.credentials.set id c')
    (hindex : r'.subjectCredentialIndex = Index.drop r.subjectCredentialIndex c.subject id)
    (hc : r.credentials id = some c) (hrevoked : c'.revoked = true) : r'.Indexed := by
  unfold Indexed
  rw [hindex]
  refine Index.Lists.congr (Index.Lists.drop h) fun a k => ?_
  rw [holds_set_iff hcredentials]
  split
  next heq =>
    subst heq
    rw [holds_iff_of_eq_some hc]
    constructor
    · rintro ⟨⟨hsubject, -⟩, hne⟩
      exact absurd ⟨hsubject.symm, rfl⟩ hne
    · rintro ⟨-, hlive⟩
      simp [hrevoked] at hlive
  next hne => simp [hne]

/-- A record replaced by one of the same subject and flag is held as before. -/
theorem Indexed.put (h : r.Indexed) {c' : Credential}
    (hcredentials : r'.credentials = r.credentials.set id c')
    (hindex : r'.subjectCredentialIndex = r.subjectCredentialIndex)
    (hc : r.credentials id = some c)
    (hsame : ∀ a, c'.subject = a ∧ c'.revoked = false ↔ c.subject = a ∧ c.revoked = false) :
    r'.Indexed := by
  unfold Indexed
  rw [hindex]
  refine Index.Lists.congr h fun a k => ?_
  rw [holds_set_iff hcredentials]
  split
  next heq => rw [heq, holds_iff_of_eq_some hc, hsame]
  next => exact Iff.rfl

/-- A live credential that leaves one subject's list for another's is indexed under the second. -/
theorem Indexed.move (h : r.Indexed) {subject : Address}
    (hcredentials : r'.credentials = r.credentials.set id { c with subject := subject })
    (hindex : r'.subjectCredentialIndex =
      Index.push (Index.drop r.subjectCredentialIndex c.subject id) subject id)
    (hc : r.credentials id = some c) (hlive : c.revoked = false) : r'.Indexed := by
  unfold Indexed
  rw [hindex]
  refine Index.Lists.congr (Index.Lists.push (Index.Lists.drop h) ?_) fun a k => ?_
  · rw [holds_iff_of_eq_some hc]
    rintro ⟨⟨hsubject, -⟩, hne⟩
    exact hne ⟨hsubject.symm, rfl⟩
  · rw [holds_set_iff hcredentials]
    split
    next heq =>
      subst heq
      rw [holds_iff_of_eq_some hc]
      constructor
      · rintro (⟨⟨hsubject, -⟩, hne⟩ | ⟨rfl, -⟩)
        · exact absurd ⟨hsubject.symm, rfl⟩ hne
        · exact ⟨rfl, hlive⟩
      · rintro ⟨rfl, -⟩
        exact .inr ⟨rfl, rfl⟩
    next hne => simp [hne]

end Registry

/-! ## One effect -/

/-- The effects that keep the index in step: consent is not withdrawn, a live credential is moved by
a transfer or a rotation, and a recovery moves a revoked one or moves nothing. -/
def Effect.KeepsIndex (r : Registry) : Effect → Prop
  | consent _ _ => False
  | transfer _ c _ => c.revoked = false
  | rotate _ c _ => c.revoked = false
  | recover _ c subject => c.revoked = true ∨ subject = c.subject
  | e => e.KeepsCount r

theorem Effect.indexed {r : Registry} {e : Effect} (hkeeps : e.KeepsIndex r) (he : e.Enabled r)
    (hnumbered : r.Numbered) (h : r.Indexed) : (e.apply r).Indexed := by
  cases e with
  | issue keyed issuer input =>
    cases keyed <;> exact h.issue hnumbered.next_free rfl rfl rfl
  | revoke id c => exact h.revoke rfl rfl he.1 rfl
  | consent id c => exact hkeeps.elim
  | transfer id c subject => exact h.move rfl rfl he hkeeps
  | rotate id c subject => exact h.move rfl rfl he.1 hkeeps
  | recover id c subject =>
    refine h.put rfl rfl he fun a => ?_
    rcases hkeeps with hrevoked | hsame
    · simp [hrevoked]
    · simp [hsame]
  | amend id c c' =>
    exact h.put rfl rfl he.1 fun a => by rw [he.2.subject, he.2.revoked]
  | cache id revoked => exact h
  | restore count => exact h

/-! ## Whole runs -/

/-- The operations that keep the index in step, in terms of what they find stored. -/
def Op.KeepsIndex (s : State) (op : Op) : Prop :=
  op.KeepsCount s ∧
  (∀ id ∈ op.consented, ∀ c ∈ s.registry.credentials id, c.revoked = true) ∧
  (∀ move ∈ op.transferred, ∀ c ∈ s.registry.credentials move.1, c.revoked = false) ∧
  (∀ move ∈ op.rotated, ∀ c ∈ s.registry.credentials move.1, c.revoked = false) ∧
  (∀ request ∈ op.recovered s, ∀ c ∈ s.registry.credentials request.credentialId,
    c.revoked = true ∨ request.newSubject = c.subject)
  deriving Decidable

theorem Op.KeepsIndex.effect {s : State} {op : Op} {r : Registry} {e : Effect}
    (h : op.KeepsIndex s) (hmakes : op.Makes s r e) (he : e.Enabled r) : e.KeepsIndex r := by
  obtain ⟨hcount, hconsent, htransfer, hrotate, hrecover⟩ := h
  cases e with
  | consent id c =>
    obtain ⟨rfl, hid⟩ := hmakes.madeBy
    have hrevoked := hconsent id hid c he.1
    simp [he.2] at hrevoked
  | transfer id c subject =>
    obtain ⟨rfl, hmove⟩ := hmakes.madeBy
    exact htransfer _ hmove c he
  | rotate id c subject =>
    obtain ⟨rfl, hmove⟩ := hmakes.madeBy
    exact hrotate _ hmove c he.1
  | recover id c subject =>
    obtain ⟨rfl, request, hrequest, rfl, rfl⟩ := hmakes.madeBy
    exact hrecover request hrequest c he
  | restore count => exact Op.KeepsCount.effect hcount hmakes
  | _ => trivial

theorem State.empty_indexed : State.empty.registry.Indexed :=
  ⟨fun _ => List.nodup_nil, fun _ _ => ⟨nofun, nofun⟩⟩

/-- **The subject index lists exactly the live credentials of each subject, each once**, in every
run in which no consent is withdrawn, only live credentials are transferred or rotated, no live one
is recovered to another subject, and no restored snapshot is behind the counter. -/
theorem World.subjectIndex_exact (host : Host) (calls : List Call)
    (h : Machine.Along (next host) (Meets fun s op => op.KeepsIndex s) deployed calls) :
    (after host calls).state.registry.Indexed := by
  have hboth : (after host calls).state.registry.Numbered ∧
      (after host calls).state.registry.Indexed := by
    refine registry_invariant (I := fun r => r.Numbered ∧ r.Indexed)
      (fun s op r e hkeeps hmakes he hr => ?_) h ⟨State.empty_numbered, State.empty_indexed⟩
    exact ⟨Effect.numbered (hkeeps.1.effect hmakes) he hr.1,
      Effect.indexed (hkeeps.effect hmakes he) he hr.1 hr.2⟩
  exact hboth.2

/-- Two credentials, one of them moved and one revoked. -/
theorem World.subjectIndex_exact_moves :
    (after Sample.host
      [Sample.issue Sample.alice 1, Sample.issue Sample.alice 2,
        Sample.rotate Sample.alice 1 Sample.bob, Sample.revoke 2]).state.registry.Indexed :=
  World.subjectIndex_exact _ _ (by decide)

/-- **A credential stays listed after its holder withdraws consent.** -/
theorem World.not_subjectIndex_exact :
    ¬ ∀ (host : Host) (calls : List Call), (after host calls).state.registry.Indexed := by
  intro h
  have hrun := h Sample.host [Sample.issue Sample.alice 1, Sample.revokeConsent Sample.alice 1]
  obtain ⟨c, hc, -, hlive⟩ := (hrun.mem Sample.alice 1).mp (by decide)
  obtain rfl := Option.some.inj hc
  exact absurd hlive (by decide)

end QuorumProof
