import QuorumProof.Sbt.Entry

/-!
# Sbt/BatchMint — a batch mint against the mints it stands for

`batch_mint` is a second copy of `mint`, which checks all entries before it writes any.  It asks
neither whether the registry is paused, nor for a well-formed URI, nor for the whitelist; where
those checks of `mint` would pass, it leaves the ledger the single mints leave.
-/

namespace QuorumProof.Sbt

open Guarded

namespace State

variable {env : Env} {s t : State} {qpId : Address} {entry : BatchMintEntry}
  {entries : List BatchMintEntry}

/-- Mint once for each entry, in order. -/
def mintEach (env : Env) (acc : State × List Nat) (entries : List BatchMintEntry) :
    Except Fault (State × List Nat) :=
  entries.foldlM (fun acc entry => do
    let (s, tokenId) ← acc.1.mint env entry.owner entry.credentialId entry.metadataUri
    return (s, acc.2 ++ [tokenId])) acc

/-- **A batch does what the single mints do**: they succeed too, with the same ids, and leave the
same ledger. -/
def BatchIsMints (env : Env) (s : State) (entries : List BatchMintEntry) : Prop :=
  ∀ s' ids, s.batchMint env entries = .ok (s', ids) →
    ∃ t, mintEach env (s, []) entries = .ok (t, ids) ∧ t.ledger = s'.ledger

/-- The checks of `mint` that a batch leaves out. -/
structure Unchecked (s : State) (entry : BatchMintEntry) : Prop where
  running : s.control.paused = false
  uri : validateMetadataUri entry.metadataUri = .ok ()
  whitelisted : s.checkWhitelist entry.owner entry.credentialId = .ok ()

/-- **Every check of `mint` passes for an entry.** -/
structure Mintable (env : Env) (qpId : Address) (s : State) (entry : BatchMintEntry) : Prop
    extends s.Unchecked entry where
  signed : requireAuth env entry.owner = .ok ()
  listed : s.control.requireNotBlacklisted entry.owner = .ok ()
  asked : s.control.quorumProofId = some qpId
  valid : invokeIsRevoked env qpId entry.credentialId = .ok false
  cached : ∀ answer, s.annex.credentialCache entry.credentialId = some answer →
    answer.revoked = false
  unminted : s.ledger.ownerCredential (entry.owner, entry.credentialId) = none

/-- The answer is that the credential stands, and so is every answer that is cached. -/
theorem Mintable.checkCredentialCache (h : Mintable env qpId s entry) :
    ∃ cache, s.checkCredentialCache env qpId entry.credentialId =
        .ok ({ s with annex := { s.annex with credentialCache := cache } }, false) ∧
      ∀ c answer, cache c = some answer →
        s.annex.credentialCache c = some answer ∨ answer.revoked = false := by
  have hrefresh : ∃ cache, s.refreshCredentialCache env qpId entry.credentialId =
        .ok ({ s with annex := { s.annex with credentialCache := cache } }, false) ∧
      ∀ c answer, cache c = some answer →
        s.annex.credentialCache c = some answer ∨ answer.revoked = false := by
    refine ⟨s.annex.credentialCache.set entry.credentialId ⟨false, env.sequence⟩, ?_, ?_⟩
    · simp only [refreshCredentialCache, h.valid]
      rfl
    · intro c answer
      rw [Store.set_apply]
      split
      · rintro ⟨⟩
        exact .inr rfl
      · exact .inl
  unfold State.checkCredentialCache
  split
  next answer hanswer =>
    rw [h.cached answer hanswer]
    split
    · exact ⟨s.annex.credentialCache, rfl, fun _ _ => .inl⟩
    · exact hrefresh
  next => exact hrefresh

/-- **One mint**: it writes the token of the entry, and an entry for another pair stays mintable. -/
theorem Mintable.mint (h : Mintable env qpId s entry) (hcount : s.ledger.tokenCount + 1 < 2 ^ 64) :
    ∃ s', s.mint env entry.owner entry.credentialId entry.metadataUri =
        .ok (s', s.ledger.tokenCount + 1) ∧
      s'.ledger = { s.ledger.mintToken (s.ledger.tokenCount + 1) entry.owner entry.credentialId with
        tokenCount := s.ledger.tokenCount + 1 } ∧
      ∀ entry', Mintable env qpId s entry' →
        (entry.owner, entry.credentialId) ≠ (entry'.owner, entry'.credentialId) →
          Mintable env qpId s' entry' := by
  obtain ⟨cache, hcache, hstands⟩ := h.checkCredentialCache
  have hunpaused : s.control.requireNotPaused = .ok () := require_eq_ok.mpr h.running
  have hqp : s.expectQuorumProofId = .ok qpId := expect_eq_ok.mpr h.asked
  have hsucc : checkedSucc (2 ^ 64) s.ledger.tokenCount = .ok (s.ledger.tokenCount + 1) :=
    bind_eq_ok.mpr ⟨(), require_eq_ok.mpr hcount, rfl⟩
  let s₁ : State := { s with annex := { s.annex with credentialCache := cache } }
  refine ⟨(s₁.writeMint env (s.ledger.tokenCount + 1) entry.owner entry.credentialId
    entry.metadataUri).setTokenCount (s.ledger.tokenCount + 1), ?_, rfl, fun entry' h' hne => ?_⟩
  · simp only [State.mint, bind_eq_ok]
    exact ⟨(), h.signed, (), hunpaused, (), h.listed, (), h.uri, qpId, hqp, _, hcache, (), rfl, (),
      h.whitelisted, (), require_eq_ok.mpr h.unminted, _, hsucc, rfl⟩
  · exact { h' with
      cached := fun answer hanswer => (hstands _ _ hanswer).elim (h'.cached answer) id
      unminted := (Function.update_of_ne hne.symm _ _).trans h'.unminted }

/-- **The two loops side by side**, the batch with its count in a register. -/
theorem mintEach_of_mintEntry {n n' : Nat} {ids ids' : List Nat} {s' : State}
    (hmint : ∀ entry ∈ entries, Mintable env qpId t entry)
    (hnodup : (entries.map fun entry => (entry.owner, entry.credentialId)).Nodup)
    (hledger : t.ledger = { s.ledger with tokenCount := n })
    (h : entries.foldlM (mintEntry env) (s, n, ids) = .ok (s', n', ids')) :
    ∃ t', mintEach env (t, ids) entries = .ok (t', ids') ∧
      t'.ledger = { s'.ledger with tokenCount := n' } := by
  induction entries generalizing s t n ids with
  | nil =>
    obtain ⟨rfl, rfl, rfl⟩ := by simpa using h
    exact ⟨t, rfl, hledger⟩
  | cons entry entries ih =>
    rw [List.foldlM_cons, bind_eq_ok] at h
    obtain ⟨acc, hstep, h⟩ := h
    simp only [mintEntry, checkedSucc, bind_eq_ok, require_eq_ok, pure_eq_ok] at hstep
    obtain ⟨_, ⟨_, hcount, rfl⟩, rfl⟩ := hstep
    obtain ⟨hfresh, hnodup⟩ := List.nodup_cons.mp hnodup
    have hn : t.ledger.tokenCount = n := by rw [hledger]
    obtain ⟨t₁, ht₁, hledger₁, hkeep⟩ := (hmint entry (by simp)).mint (hn ▸ hcount)
    rw [hn] at ht₁ hledger₁
    have hmint₁ : ∀ entry' ∈ entries, Mintable env qpId t₁ entry' := by
      intro entry' hentry'
      refine hkeep entry' (hmint entry' (by simp [hentry'])) fun hsame => hfresh ?_
      exact List.mem_map.mpr ⟨entry', hentry', hsame.symm⟩
    obtain ⟨t', ht', hledger'⟩ := ih hmint₁ hnodup
      (by rw [hledger₁, hledger]; rfl) h
    refine ⟨t', ?_, hledger'⟩
    rw [mintEach, List.foldlM_cons, bind_eq_ok]
    exact ⟨(t₁, ids ++ [n + 1]), bind_eq_ok.mpr ⟨_, ht₁, rfl⟩, ht'⟩

/-- A mint has passed the checks, and changes nothing they read. -/
theorem unchecked_of_mint {s' : State} {id : Nat}
    (h : s.mint env entry.owner entry.credentialId entry.metadataUri = .ok (s', id)) :
    s.Unchecked entry ∧ s'.control = s.control ∧
      s'.annex.sbtWhitelist = s.annex.sbtWhitelist := by
  simp only [State.mint, bind_eq_ok, require_eq_ok, pure_eq_ok, Prod.mk.injEq] at h
  obtain ⟨_, -, _, hrunning, _, -, _, huri, qpId, -, ⟨s₁, _⟩, hcache, _, -, _, hlisted, _, -, _, -,
    rfl, -⟩ := h
  have hsame : s₁.control = s.control ∧ s₁.annex.sbtWhitelist = s.annex.sbtWhitelist := by
    unfold State.checkCredentialCache refreshCredentialCache at hcache
    split at hcache <;> (try split at hcache) <;>
      simp only [bind_eq_ok, pure_eq_ok, Prod.mk.injEq, Except.ok.injEq] at hcache
    · exact hcache.1 ▸ ⟨rfl, rfl⟩
    all_goals
      obtain ⟨_, -, rfl, -⟩ := hcache
      exact ⟨rfl, rfl⟩
  refine ⟨⟨require_eq_ok.mp hrunning, huri, ?_⟩, hsame⟩
  simpa only [checkWhitelist, hsame.2] using hlisted

theorem unchecked_of_mintEach {acc acc' : State × List Nat}
    (h : mintEach env acc entries = .ok acc') : ∀ entry ∈ entries, acc.1.Unchecked entry := by
  induction entries generalizing acc with
  | nil => simp
  | cons entry entries ih =>
    rw [mintEach, List.foldlM_cons, bind_eq_ok] at h
    obtain ⟨acc₁, hturn, hrest⟩ := h
    obtain ⟨⟨s₁, id⟩, hmint, ⟨⟩⟩ := bind_eq_ok.mp hturn
    obtain ⟨hentry, hcontrol, hlist⟩ := unchecked_of_mint hmint
    refine List.forall_mem_cons.mpr ⟨hentry, fun entry' hmem => ?_⟩
    obtain ⟨hrunning, huri, hlisted⟩ := ih hrest entry' hmem
    exact ⟨hcontrol ▸ hrunning, huri, by simpa only [checkWhitelist, hlist] using hlisted⟩

/-- **A batch mint is repeated minting** exactly if it fails or the checks it leaves out would pass,
in a state without cached answers. -/
theorem batchIsMints_iff (env : Env) (s : State) (entries : List BatchMintEntry)
    (hcache : ∀ c, s.annex.credentialCache c = none) :
    BatchIsMints env s entries ↔
      ∀ r, s.batchMint env entries = .ok r → ∀ entry ∈ entries, s.Unchecked entry := by
  constructor
  · intro h r hbatch
    obtain ⟨t, ht, -⟩ := h r.1 r.2 hbatch
    exact unchecked_of_mintEach ht
  intro hpass s' ids h
  replace hpass := hpass _ h
  simp only [batchMint, bind_eq_ok, forM_eq_ok, require_eq_ok, pure_eq_ok, expectQuorumProofId,
    expect_eq_ok] at h
  obtain ⟨_, -, _, hsigned, qpId, hasked, _, hvalid, _, hnodup, ⟨s₁, n, ids'⟩, hloop, hresult⟩ := h
  obtain ⟨rfl, rfl⟩ := Prod.mk.inj hresult
  have hmint : ∀ entry ∈ entries, Mintable env qpId s entry := by
    intro entry hentry
    have hchecked := hvalid entry hentry
    simp only [validateMintEntry, bind_eq_ok, requireUnminted, require_eq_ok] at hchecked
    obtain ⟨_, hlisted, _, hrevoked, _, rfl, hunminted⟩ := hchecked
    exact { hpass entry hentry with
      signed := hsigned entry hentry
      listed := hlisted
      asked := hasked
      valid := hrevoked
      cached := fun answer hanswer => by simp [hcache] at hanswer
      unminted := hunminted }
  exact mintEach_of_mintEntry hmint hnodup rfl hloop

end State

/-! ## A batch in a paused registry -/

namespace Sample

open Sbt.State

/-- The registry is paused before any token is minted. -/
def halted : List Call := [initialized, callBy [admin] (.control (.pause admin))]

def aliceEntry : BatchMintEntry :=
  { owner := alice, credentialId := 1, metadataUri := [105, 112, 102, 115, 58, 47, 47] }

/-- A batch of one entry. -/
def batchOfOne : Call := callBy [alice] (.token (.batchMint [aliceEntry]))

/-- Entries of two holders. -/
def twoEntries : List BatchMintEntry := [aliceEntry, { aliceEntry with owner := bob }]

/-- A batch of two. -/
def batchOfTwo : Call := callBy [alice, bob] (.token (.batchMint twoEntries))

theorem batchIsMints_two :
    let env := (World.after host [initialized]).env host batchOfTwo
    let s := (World.after host [initialized]).state
    BatchIsMints env s twoEntries ∧ (s.batchMint env twoEntries).map Prod.snd = .ok [1, 2] := by
  intro env s
  refine ⟨(batchIsMints_iff env s twoEntries fun _ => rfl).mpr fun _ _ entry hentry => ?_,
    by decide⟩
  rcases List.mem_pair.mp hentry with rfl | rfl <;> exact ⟨rfl, by decide, rfl⟩

/-- **`batch_mint` mints in a paused registry**, where `mint` refuses. -/
theorem not_batchIsMints : ¬ ∀ (host : Host) (calls : List Call) (call : Call)
    (entries : List BatchMintEntry),
    (∀ c, (World.after host calls).state.annex.credentialCache c = none) →
      BatchIsMints ((World.after host calls).env host call) (World.after host calls).state
        entries := by
  intro h
  obtain ⟨t, ht, -⟩ := h host halted batchOfOne [aliceEntry] (fun _ => rfl) _ [1] rfl
  simp only [mintEach, State.mint, List.foldlM_cons, bind_eq_ok] at ht
  obtain ⟨_, ⟨_, ⟨_, -, _, hunpaused, -⟩, -⟩, -⟩ := ht
  exact absurd (require_eq_ok.mp hunpaused) (by decide)

end Sample

end QuorumProof.Sbt
