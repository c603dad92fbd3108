import QuorumProof.Contract.Footprint

/-!
# Contract/Permanence — revoked credentials stay revoked, and ids are not reused

Ids come from a counter, and a credential's record is only ever overwritten by a record of the same
credential — as long as the counter is never put back.  `restore_from_snapshot` puts it back to what
it was when the snapshot was taken and removes no credential, so the next issuance overwrites one.
-/

namespace QuorumProof

/-! ## The counter numbers the credentials -/

/-- Ids start at one, and the counter is ahead of every stored credential and of every published
issuance. -/
structure Registry.Numbered (r : Registry) : Prop where
  id_eq : ∀ {id c}, r.credentials id = some c → c.id = id
  id_pos : ∀ {id c}, r.credentials id = some c → 1 ≤ id
  id_le : ∀ {id c}, r.credentials id = some c → id ≤ r.credentialCount
  issued_le : ∀ ev ∈ r.issued, ev.id ≤ r.credentialCount
  issued_nodup : (r.issued.map (·.id)).Nodup

/-- Every credential of `r` is in `r'`, under its id, with its issuer and type, and revoked if it
was. -/
def Registry.Extends (r r' : Registry) : Prop :=
  ∀ id c, r.credentials id = some c → ∃ c', r'.credentials id = some c' ∧ c'.id = c.id ∧
    c'.issuer = c.issuer ∧ c'.credentialType = c.credentialType ∧
    (c.revoked = true → c'.revoked = true)

namespace Registry

theorem Extends.refl (r : Registry) : r.Extends r :=
  fun _ c hc => ⟨c, hc, rfl, rfl, rfl, id⟩

theorem Extends.trans {r₁ r₂ r₃ : Registry} (h : r₁.Extends r₂) (h' : r₂.Extends r₃) :
    r₁.Extends r₃ := by
  intro id c₁ hc₁
  obtain ⟨c₂, hc₂, hid, hissuer, htype, hrevoked⟩ := h id c₁ hc₁
  obtain ⟨c₃, hc₃, hid', hissuer', htype', hrevoked'⟩ := h' id c₂ hc₂
  exact ⟨c₃, hc₃, hid'.trans hid, hissuer'.trans hissuer, htype'.trans htype,
    fun hr => hrevoked' (hrevoked hr)⟩

variable {r r' : Registry} {c : Credential}

/-- No credential is stored under the next id. -/
theorem Numbered.next_free (h : r.Numbered) : r.credentials (r.credentialCount + 1) = none := by
  by_contra hne
  obtain ⟨c, hc⟩ := Option.ne_none_iff_exists'.mp hne
  exact absurd (h.id_le hc) (by omega)

/-- Storing a record under its own id, within the counter, keeps the records numbered. -/
theorem Numbered.stored (h : r.Numbered) {id : Nat}
    (hcredentials : r'.credentials = r.credentials.set id c)
    (hcount : r.credentialCount ≤ r'.credentialCount) (hid : c.id = id) (hpos : 1 ≤ id)
    (hle : id ≤ r'.credentialCount) {k : Nat} {d : Credential} (hd : r'.credentials k = some d) :
    d.id = k ∧ 1 ≤ k ∧ k ≤ r'.credentialCount := by
  rcases Store.set_eq_some.mp (hcredentials ▸ hd) with ⟨rfl, rfl⟩ | ⟨-, hold⟩
  · exact ⟨hid, hpos, hle⟩
  · exact ⟨h.id_eq hold, h.id_pos hold, (h.id_le hold).trans hcount⟩

/-- Issuing under the next id keeps the numbering. -/
theorem Numbered.issue (h : r.Numbered) {ev : CredentialIssued}
    (hcredentials : r'.credentials = r.credentials.set (r.credentialCount + 1) c)
    (hcount : r'.credentialCount = r.credentialCount + 1) (hissued : r'.issued = r.issued ++ [ev])
    (hid : c.id = r.credentialCount + 1) (hev : ev.id = r.credentialCount + 1) :
    r'.Numbered := by
  have hstored {k d} := h.stored hcredentials (by omega) hid (by omega) (by omega) (k := k) (d := d)
  refine ⟨fun hd => (hstored hd).1, fun hd => (hstored hd).2.1, fun hd => (hstored hd).2.2,
    fun ev' hev' => ?_, ?_⟩
  · rw [hissued, List.mem_append, List.mem_singleton] at hev'
    rcases hev' with hold | rfl
    · have := h.issued_le ev' hold
      omega
    · omega
  · rw [hissued, List.map_append, List.nodup_append]
    refine ⟨h.issued_nodup, by simp, ?_⟩
    simp only [List.mem_map, List.map_cons, List.map_nil, List.mem_singleton]
    rintro _ ⟨old, hold, rfl⟩ _ rfl
    have := h.issued_le old hold
    omega

/-- Overwriting a record with one of the same id keeps the numbering. -/
theorem Numbered.put (h : r.Numbered) {id : Nat} {c' : Credential}
    (hcredentials : r'.credentials = r.credentials.set id c')
    (hcount : r'.credentialCount = r.credentialCount) (hissued : r'.issued = r.issued)
    (hc : r.credentials id = some c) (hid : c'.id = c.id) : r'.Numbered := by
  have hstored {k d} := h.stored hcredentials hcount.ge (hid.trans (h.id_eq hc)) (h.id_pos hc)
    (hcount ▸ h.id_le hc) (k := k) (d := d)
  exact ⟨fun hd => (hstored hd).1, fun hd => (hstored hd).2.1, fun hd => (hstored hd).2.2,
    by rw [hissued, hcount]; exact h.issued_le, by rw [hissued]; exact h.issued_nodup⟩

/-- Overwriting a record with one of the same credential loses nothing. -/
theorem Extends.put {id : Nat} {c' : Credential}
    (hcredentials : r'.credentials = r.credentials.set id c') (hc : r.credentials id = some c)
    (hid : c'.id = c.id) (hissuer : c'.issuer = c.issuer)
    (htype : c'.credentialType = c.credentialType)
    (hrevoked : c.revoked = true → c'.revoked = true) : r.Extends r' := by
  intro k d hd
  rw [hcredentials, Store.set_apply]
  split
  next heq =>
    obtain rfl : c = d := Option.some.inj (hc.symm.trans (heq ▸ hd))
    exact ⟨c', rfl, hid, hissuer, htype, hrevoked⟩
  next => exact ⟨d, hd, rfl, rfl, rfl, fun h => h⟩

end Registry

/-! ## One effect -/

/-- The credential counter is not put back. -/
def Effect.KeepsCount (r : Registry) : Effect → Prop
  | restore count => r.credentialCount ≤ count
  | _ => True

variable {r : Registry} {e : Effect}

theorem Effect.numbered (hcount : e.KeepsCount r) (he : e.Enabled r) (h : r.Numbered) :
    (e.apply r).Numbered := by
  cases e with
  | issue keyed issuer input => cases keyed <;> exact h.issue rfl rfl rfl rfl rfl
  | revoke id c => exact h.put rfl rfl rfl he.1 rfl
  | consent id c => exact h.put rfl rfl rfl he.1 rfl
  | transfer id c subject => exact h.put rfl rfl rfl he rfl
  | rotate id c subject => exact h.put rfl rfl rfl he.1 rfl
  | recover id c subject => exact h.put rfl rfl rfl he rfl
  | amend id c c' => exact h.put rfl rfl rfl he.1 he.2.id
  | cache id revoked => exact ⟨h.id_eq, h.id_pos, h.id_le, h.issued_le, h.issued_nodup⟩
  | restore count =>
    exact ⟨h.id_eq, h.id_pos, fun hc => (h.id_le hc).trans hcount,
      fun ev hev => (h.issued_le ev hev).trans hcount, h.issued_nodup⟩

theorem Effect.extends (he : e.Enabled r) (h : r.Numbered) : r.Extends (e.apply r) := by
  cases e with
  | issue keyed issuer input =>
    -- the next id is free, so no stored record is overwritten
    intro id c hc
    have hne : id ≠ r.credentialCount + 1 := by
      rintro rfl
      simp [h.next_free] at hc
    refine ⟨c, ?_, rfl, rfl, rfl, fun h => h⟩
    cases keyed <;> exact (Store.set_of_ne hne).trans hc
  | revoke id c => exact .put rfl he.1 rfl rfl rfl fun _ => rfl
  | consent id c => exact .put rfl he.1 rfl rfl rfl fun _ => rfl
  | transfer id c subject => exact .put rfl he rfl rfl rfl fun h => h
  | rotate id c subject => exact .put rfl he.1 rfl rfl rfl fun h => h
  | recover id c subject => exact .put rfl he rfl rfl rfl fun h => h
  | amend id c c' =>
    exact .put rfl he.1 he.2.id he.2.issuer he.2.credentialType fun h => he.2.revoked.trans h
  | cache id revoked => exact .refl r
  | restore count => exact .refl r

/-! ## Whole runs -/

/-- An operation that does not put the credential counter back. -/
def Op.KeepsCount (s : State) (op : Op) : Prop :=
  ∀ snapshot ∈ op.restored s, s.registry.credentialCount ≤ snapshot.credentialCount
  deriving Decidable

theorem Op.KeepsCount.effect {s : State} {op : Op} (h : op.KeepsCount s) (hmakes : op.Makes s r e) :
    e.KeepsCount r := by
  cases e with
  | restore count =>
    obtain ⟨rfl, snapshot, hsnapshot, rfl⟩ := hmakes.madeBy
    exact h snapshot hsnapshot
  | _ => trivial

theorem Op.KeepsCount.numbered {env : Env} {s s' : State} {op : Op} (h : op.KeepsCount s)
    (hs' : op.apply env s = .ok s') (hs : s.registry.Numbered) : s'.registry.Numbered :=
  (op.writes env s s' hs').invariant (fun _ _ hmakes he => Effect.numbered (h.effect hmakes) he) hs

theorem State.empty_numbered : State.empty.registry.Numbered :=
  ⟨nofun, nofun, nofun, nofun, List.nodup_nil⟩

/-- **Ids stay ahead of the credentials** along every run that never puts the counter back. -/
theorem World.numbered {host : Host} {calls : List Call}
    (h : Machine.Along (next host) (Meets fun s op => op.KeepsCount s) deployed calls) :
    (after host calls).state.registry.Numbered :=
  registry_invariant (fun _ _ _ _ hcount hmakes he => Effect.numbered (hcount.effect hmakes) he) h
    State.empty_numbered

/-- What is stored at a point of a run is still there later. -/
theorem World.extends {host : Host} {w : World} {calls : List Call}
    (h : Machine.Along (next host) (Meets fun s op => op.KeepsCount s) w calls)
    (hw : w.state.registry.Numbered) :
    w.state.registry.Extends (Machine.run (next host) w calls).state.registry := by
  refine h.relation (I := fun w => w.state.registry.Numbered)
    (R := fun w w' => w.state.registry.Extends w'.state.registry) (fun _ => .refl _)
    Registry.Extends.trans (fun w call hI hC => ?_) (fun w call hI hC => ?_) hw
  · exact (next_writes host w call).invariant
      (fun r e hmakes he => Effect.numbered (Op.KeepsCount.effect hC hmakes) he) hI
  · exact (next_writes host w call).relation Registry.Extends.refl Registry.Extends.trans
      (fun r e hmakes he => Effect.numbered (Op.KeepsCount.effect hC hmakes) he)
      (fun r e _ he => Effect.extends he) hI

/-- What it means that revocation is permanent between two points of a run: a credential revoked at
the first is revoked at the second, and no two issuances up to the second have the same id. -/
structure Registry.RevocationPermanent (r r' : Registry) : Prop where
  stays : ∀ id c, r.credentials id = some c → c.revoked = true →
    ∃ c', r'.credentials id = some c' ∧ c'.revoked = true ∧ c'.issuer = c.issuer ∧
      c'.credentialType = c.credentialType ∧ c'.id = c.id
  fresh : (r'.issued.map (·.id)).Nodup

/-- **Revocation is permanent in every run in which no restored snapshot is behind the credential
counter.** -/
theorem World.revocation_permanent (host : Host) (pre post : List Call)
    (h : Machine.Along (next host) (Meets fun s op => op.KeepsCount s) deployed (pre ++ post)) :
    (after host pre).state.registry.RevocationPermanent
      (after host (pre ++ post)).state.registry where
  stays := by
    intro id c hc hrevoked
    obtain ⟨hpre, hpost⟩ := (Machine.along_append (next host)).mp h
    have hextends := World.extends hpost (World.numbered hpre)
    rw [← Machine.run_append] at hextends
    obtain ⟨c', hc', hid, hissuer, htype, hstays⟩ := hextends id c hc
    exact ⟨c', hc', hstays hrevoked, hissuer, htype, hid⟩
  fresh := (World.numbered h).issued_nodup

/-- A restored snapshot that is not behind the counter: the revoked credential stays. -/
theorem World.revocation_permanent_restore :
    ∃ pre post : List Call,
      ((after Sample.host pre).state.registry.credentials 1).map (·.revoked) = some true ∧
      (after Sample.host (pre ++ post)).state.registry.issued.length = 2 ∧
      (after Sample.host pre).state.registry.RevocationPermanent
        (after Sample.host (pre ++ post)).state.registry :=
  ⟨[Sample.initialized, Sample.issue Sample.alice 1, Sample.revoke 1, Sample.snapshot],
    [Sample.restore 1, Sample.issue Sample.bob 1], by decide, by decide,
    World.revocation_permanent _ _ _ (by decide)⟩

/-- **A snapshot taken before the credential was issued brings it back**: the counter is put back,
and the next issuance overwrites the revoked record. -/
theorem World.not_revocation_permanent :
    ¬ ∀ (host : Host) (pre post : List Call),
      (after host pre).state.registry.RevocationPermanent
        (after host (pre ++ post)).state.registry := by
  intro h
  have hrun := h Sample.host
    [Sample.initialized, Sample.snapshot, Sample.issue Sample.alice 1, Sample.revoke 1]
    [Sample.restore 1, Sample.issue Sample.bob 1]
  obtain ⟨c', hc', hrevoked, -⟩ := hrun.stays 1 _ rfl rfl
  obtain rfl := Option.some.inj hc'
  exact absurd hrevoked (by decide)

end QuorumProof
