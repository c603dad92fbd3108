import QuorumProof.Contract.Footprint

/-!
# Contract/CredentialSteps — what one operation does to one credential

Which credentials an operation may revoke, suspend or give to another subject can be read off the
operation and the storage it is called on.  `Op.credential_steps` says that a record an operation
leaves behind differs from the one it found only by that, unless it was issued by the operation.
-/

namespace QuorumProof

open Guarded

/-! ## What an operation may change -/

namespace Op

/-- What an operation may make of the record `c` of a credential. -/
structure Alters (s : State) (op : Op) (id : Nat) (c c' : Credential) : Prop where
  credentialType : c'.credentialType = c.credentialType
  revoked : c'.revoked = true → c.revoked = true ∨ id ∈ op.revoking s
  suspended : c'.suspended = true → c.suspended = true ∨ id ∈ op.suspending
  subject : c'.subject = c.subject ∨ id ∈ op.moving s

namespace Alters

variable {s : State} {op : Op} {id : Nat} {c c' c'' : Credential}

theorem refl (c : Credential) : op.Alters s id c c := ⟨rfl, .inl, .inl, .inl rfl⟩

theorem trans (h : op.Alters s id c c') (h' : op.Alters s id c' c'') : op.Alters s id c c'' where
  credentialType := h'.credentialType.trans h.credentialType
  revoked hr := (h'.revoked hr).elim h.revoked .inr
  suspended hs := (h'.suspended hs).elim h.suspended .inr
  subject := h'.subject.elim (fun heq => heq ▸ h.subject) .inr

/-- A revoked record of a credential the operation may revoke. -/
theorem of_revoking (hid : id ∈ op.revoking s) :
    op.Alters s id c { c with revoked := true, suspended := false } :=
  ⟨rfl, fun _ => .inr hid, fun h => by simp at h, .inl rfl⟩

/-- A record under another subject of a credential the operation moves. -/
theorem of_moving {subject : Address} (hid : id ∈ op.moving s) :
    op.Alters s id c { c with subject := subject } :=
  ⟨rfl, .inl, .inl, .inr hid⟩

theorem live (h : op.Alters s id c c') (hid : id ∉ op.revoking s) (hlive : c.revoked = false) :
    c'.revoked = false :=
  Bool.eq_false_iff.mpr fun hrevoked => (h.revoked hrevoked).elim (by simp [hlive]) hid

end Alters

/-- **An effect an operation makes alters the record it writes as the operation may.** -/
theorem Makes.alters {s : State} {op : Op} {r : Registry} {e : Effect} (h : op.Makes s r e)
    (he : e.Enabled r) {id : Nat} {c c' : Credential} (hwritten : e.written = some (id, c, c')) :
    op.Alters s id c c' := by
  unfold Op.Makes at h
  cases e <;> cases hwritten
  case revoke | consent =>
    refine .of_revoking ?_
    split at h <;> simp_all [IssuanceOp.Makes, MultisigOp.Makes, Op.revoking]
  case transfer | rotate =>
    refine .of_moving ?_
    split at h <;> simp_all [IssuanceOp.Makes, MultisigOp.Makes, Op.moving]
  case recover =>
    refine .of_moving ?_
    split at h <;> simp_all [IssuanceOp.Makes, MultisigOp.Makes, Op.moving]
    obtain ⟨-, request, hrequest, rfl, -⟩ := h
    exact ⟨request, hrequest, rfl⟩
  case amend =>
    have hsuspended : c'.suspended = true → c.suspended = true ∨ id ∈ op.suspending := by
      split at h <;> simp_all [IssuanceOp.Makes, MultisigOp.Makes]
    exact ⟨he.2.credentialType, fun hr => .inl (he.2.revoked ▸ hr), hsuspended, .inl he.2.subject⟩

/-- Only two families issue. -/
theorem Makes.issue {s : State} {op : Op} {r : Registry} {keyed : Bool} {issuer : Address}
    {input : CredentialInput} (h : op.Makes s r (.issue keyed issuer input)) :
    (∃ op', op = .issuance op') ∨ ∃ op', op = .multisig op' := by
  unfold Op.Makes at h
  split at h <;> simp_all

/-- **Every record is one the operation has found, as it may alter it**, if it issues none. -/
theorem alters_of_writes {s : State} {op : Op} {r' : Registry}
    (hissuance : ∀ op', op ≠ .issuance op') (hmultisig : ∀ op', op ≠ .multisig op')
    (h : Writes (op.Makes s) s.registry r') :
    ∀ id c', r'.credentials id = some c' →
      ∃ c, s.registry.credentials id = some c ∧ op.Alters s id c c' := by
  refine h.invariant (I := fun r : Registry => ∀ id c', r.credentials id = some c' →
    ∃ c, s.registry.credentials id = some c ∧ op.Alters s id c c')
    (fun r e hmakes he hall => ?_) fun _ c' hc' => ⟨c', hc', .refl c'⟩
  cases hwritten : e.written with
  | none =>
    cases e with
    | issue =>
      rcases hmakes.issue with ⟨op', heq⟩ | ⟨op', heq⟩
      · exact absurd heq (hissuance op')
      · exact absurd heq (hmultisig op')
    | cache => exact hall
    | restore => exact hall
    | _ => cases hwritten
  | some record =>
    obtain ⟨id, c, c'⟩ := record
    intro k d hd
    rw [Effect.credentials_apply hwritten, Store.set_eq_some] at hd
    rcases hd with ⟨rfl, rfl⟩ | ⟨-, hd⟩
    · obtain ⟨c₀, hc₀, h₀⟩ := hall k c (he.found hwritten)
      exact ⟨c₀, hc₀, h₀.trans (hmakes.alters he hwritten)⟩
    · exact hall k d hd

end Op

/-- Issuances leave every record there is, and what they add is beyond the counter. -/
theorem Writes.issued_only {A : Registry → Effect → Prop} {r r' : Registry} (h : Writes A r r')
    (hA : ∀ r e, A r e → ∃ keyed issuer input, e = .issue keyed issuer input) :
    r.credentialCount ≤ r'.credentialCount ∧ ∀ id c', r'.credentials id = some c' →
      r.credentials id = some c' ∨
        r.credentialCount < id ∧ c'.revoked = false ∧ c'.suspended = false := by
  induction h with
  | refl => exact ⟨le_rfl, fun _ _ => .inl⟩
  | @tail r₁ _ _ hlast ih =>
    obtain ⟨e, hmade, -, rfl⟩ := hlast
    obtain ⟨keyed, issuer, input, rfl⟩ := hA _ _ hmade
    have hcount : (Effect.apply r₁ (.issue keyed issuer input)).credentialCount =
        r₁.credentialCount + 1 := by cases keyed <;> rfl
    have hcredentials : (Effect.apply r₁ (.issue keyed issuer input)).credentials =
        r₁.credentials.set (r₁.credentialCount + 1) (Registry.newCredential (r₁.credentialCount + 1)
          issuer input.subject input.credentialType input.metadataHash input.expiresAt) := by
      cases keyed <;> rfl
    refine ⟨by rw [hcount]; exact ih.1.trans (Nat.le_succ _), fun id c' hc' => ?_⟩
    rw [hcredentials, Store.set_eq_some] at hc'
    rcases hc' with ⟨rfl, rfl⟩ | ⟨-, hc'⟩
    · exact .inr ⟨Nat.lt_succ_of_le ih.1, rfl, rfl⟩
    · exact ih.2 id c' hc'

/-- No effect removes a record. -/
theorem Writes.stored {A : Registry → Effect → Prop} {r r' : Registry} (h : Writes A r r')
    {id : Nat} {c : Credential} (hc : r.credentials id = some c) :
    ∃ c', r'.credentials id = some c' := by
  have hput : ∀ {m : Store Nat Credential} {k : Nat} {d : Credential},
      (∃ c', m id = some c') → ∃ c', m.set k d id = some c' := by
    intro m k d hm
    rw [Store.set_apply]
    split
    · exact ⟨d, rfl⟩
    · exact hm
  refine h.invariant (I := fun r => ∃ c', r.credentials id = some c') (fun r e _ _ hr => ?_) ⟨c, hc⟩
  cases e with
  | issue keyed issuer input => cases keyed <;> exact hput hr
  | cache => exact hr
  | restore => exact hr
  | _ => exact hput hr

open State in
/-- **A record an operation leaves is one it has found, altered as it may, or one it has issued**
beyond the counter it has found. -/
theorem Op.credential_steps (env : Env) (s : State) (op : Op) :
    Ensures (op.apply env s) fun s' => ∀ id c', s'.registry.credentials id = some c' →
      (∃ c, s.registry.credentials id = some c ∧ op.Alters s id c c') ∨
        s.registry.credentialCount < id ∧ c'.revoked = false ∧ c'.suspended = false := by
  have hissued : ∀ {s' : State}, Writes (op.Makes s) s.registry s'.registry →
      (∀ r e, op.Makes s r e → ∃ keyed issuer input, e = .issue keyed issuer input) → ∀ id c',
      s'.registry.credentials id = some c' →
        (∃ c, s.registry.credentials id = some c ∧ op.Alters s id c c') ∨
          s.registry.credentialCount < id ∧ c'.revoked = false ∧ c'.suspended = false :=
    fun h hA id c' hc' => ((h.issued_only hA).2 id c' hc').imp_left fun hc => ⟨c', hc, .refl c'⟩
  refine (op.writes env s).mono fun s' h => ?_
  cases op with
  | issuance op =>
    refine hissued h ?_
    rintro _ _ ⟨issuer, input, rfl, -⟩
    exact ⟨true, issuer, input, rfl⟩
  | multisig op =>
    refine hissued h ?_
    rintro _ _ ⟨request, -, policy, -, -, rfl⟩
    exact ⟨false, _, _, rfl⟩
  | _ => exact fun id c' hc' => .inl (Op.alters_of_writes (by simp) (by simp) h id c' hc')

/-! ## Credentials that stand -/

namespace State

/-- The credential is stored and not revoked. -/
def Live (s : State) (id : Nat) : Prop :=
  ∃ c, s.registry.credentials id = some c ∧ c.revoked = false

/-- The credential is stored, and neither revoked nor suspended. -/
def InForce (s : State) (id : Nat) : Prop :=
  ∃ c, s.registry.credentials id = some c ∧ c.revoked = false ∧ c.suspended = false

end State

/-- What becomes of a stored credential: it is still there, as the operation may alter it, or its
record is a new one. -/
theorem Op.credential_step {env : Env} {s s' : State} {op : Op} (hs' : op.apply env s = .ok s')
    {id : Nat} {c : Credential} (hc : s.registry.credentials id = some c) :
    ∃ c', s'.registry.credentials id = some c' ∧
      (op.Alters s id c c' ∨
        s.registry.credentialCount < id ∧ c'.revoked = false ∧ c'.suspended = false) := by
  obtain ⟨c', hc'⟩ := (op.writes env s s' hs').stored hc
  refine ⟨c', hc', (op.credential_steps env s s' hs' id c' hc').imp_left ?_⟩
  rintro ⟨c₀, hc₀, halters⟩
  exact Option.mem_unique hc₀ hc ▸ halters

/-- A credential stays live under an operation that cannot revoke it. -/
theorem Op.keeps_live (env : Env) {s : State} {op : Op} {id : Nat} (hid : id ∉ op.revoking s)
    (h : s.Live id) : Ensures (op.apply env s) fun s' => s'.Live id := by
  intro s' hs'
  obtain ⟨c, hc, hlive⟩ := h
  obtain ⟨c', hc', halters | ⟨-, hnew, -⟩⟩ := Op.credential_step hs' hc
  · exact ⟨c', hc', halters.live hid hlive⟩
  · exact ⟨c', hc', hnew⟩

/-- It stays in force if the operation cannot suspend it either. -/
theorem Op.keeps_inForce (env : Env) {s : State} {op : Op} {id : Nat} (hid : id ∉ op.revoking s)
    (hid' : id ∉ op.suspending) (h : s.InForce id) :
    Ensures (op.apply env s) fun s' => s'.InForce id := by
  intro s' hs'
  obtain ⟨c, hc, hlive, hactive⟩ := h
  obtain ⟨c', hc', halters | ⟨-, hnew, hnew'⟩⟩ := Op.credential_step hs' hc
  · refine ⟨c', hc', halters.live hid hlive, Bool.eq_false_iff.mpr fun hsuspended => ?_⟩
    exact (halters.suspended hsuspended).elim (by simp [hactive]) hid'
  · exact ⟨c', hc', hnew, hnew'⟩

end QuorumProof
