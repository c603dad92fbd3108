import QuorumProof.Sbt.Frames

/-!
# Sbt/Staleness — how old an answer a mint may rely on

`mint` asks `quorum_proof` whether the credential is revoked, or takes the answer of an earlier mint
that is recent enough.  The cache remembers the ledger of an answer, and not whose answer it is:
`update_quorum_proof_id` leaves it, so that a mint may rely on what the previous contract said.  A
mint whose credential has been asked about since the last change of address relies on an answer of
the stored contract, given within the time to live.
-/

namespace QuorumProof.Sbt

open Guarded Machine

namespace State

variable (env : Env) (s : State)

/-- The cached answer for a credential is recent enough. -/
def CacheHit (sequence c : Nat) : Prop :=
  ∃ entry ∈ s.annex.credentialCache c,
    sequence - entry.cachedAt < s.control.getCredentialCacheTtl
  deriving Decidable

/-- **Where a mint has its answer from**: the cache, which it then leaves, or the stored contract,
whose answer it caches. -/
inductive MintAnswer (env : Env) (s s' : State) (qpId : Address) (c : Nat) : Prop
  | cached (entry : CredentialCacheEntry) (hentry : s.annex.credentialCache c = some entry)
      (hrecent : env.sequence - entry.cachedAt < s.control.getCredentialCacheTtl)
      (hvalid : entry.revoked = false) (h : s'.annex.credentialCache = s.annex.credentialCache)
  | asked (hmiss : ¬ s.CacheHit env.sequence c) (hvalid : env.isRevoked qpId c = some false)
      (h : s'.annex.credentialCache = s.annex.credentialCache.set c ⟨false, env.sequence⟩)

/-- A credential that is found not to be revoked was found so in the cache or by asking. -/
theorem checkCredentialCache_answer {env : Env} {s : State} {qpId : Address} {c : Nat}
    {r : State × Bool} (h : s.checkCredentialCache env qpId c = .ok r) (hr : r.2 = false) :
    MintAnswer env s r.1 qpId c := by
  have hasked : ¬ s.CacheHit env.sequence c → s.refreshCredentialCache env qpId c = .ok r →
      MintAnswer env s r.1 qpId c := by
    intro hmiss hrefresh
    simp only [refreshCredentialCache, invokeIsRevoked, bind_eq_ok, expect_eq_ok,
      pure_eq_ok] at hrefresh
    obtain ⟨revoked, hvalid, rfl⟩ := hrefresh
    obtain rfl : revoked = false := hr
    exact .asked hmiss hvalid rfl
  unfold checkCredentialCache at h
  split at h
  next entry hentry =>
    split at h
    next hrecent =>
      obtain rfl := Except.ok.inj h
      exact .cached entry hentry hrecent hr rfl
    next hold =>
      refine hasked ?_ h
      rintro ⟨entry', hentry', hrecent⟩
      exact hold (Option.mem_unique hentry hentry' ▸ hrecent)
  next hnone =>
    refine hasked ?_ h
    rintro ⟨entry, hentry, -⟩
    simp [hnone] at hentry

/-- **A mint that goes through has an answer.** -/
theorem mint_answer (owner : Address) (c : Nat) (uri : Bytes) :
    Ensures (s.mint env owner c uri) fun r =>
      ∃ qpId, s.control.quorumProofId = some qpId ∧ MintAnswer env s r.1 qpId c := by
  simp only [mint, expectQuorumProofId, ensures_steps, ensures_guards, require_eq_ok]
  intro _ _ _ _ qpId hqp r hr hvalid _ _ _
  refine ⟨qpId, hqp, ?_⟩
  cases checkCredentialCache_answer hr hvalid with
  | cached entry hentry hrecent hvalid h => exact .cached entry hentry hrecent hvalid h
  | asked hmiss hvalid h => exact .asked hmiss hvalid h

/-- A batch asks the stored contract about each of its credentials. -/
theorem batchMint_asked (entries : List BatchMintEntry) : Ensures (s.batchMint env entries) fun _ =>
      ∃ qpId, s.control.quorumProofId = some qpId ∧
        ∀ entry ∈ entries, env.isRevoked qpId entry.credentialId = some false := by
  simp only [batchMint, expectQuorumProofId, ensures_steps]
  intro _ _ qpId hqp hall _ _ _
  refine ⟨qpId, hqp, fun entry hentry => ?_⟩
  have hchecked := forM_eq_ok.mp hall entry hentry
  simp only [validateMintEntry, invokeIsRevoked, bind_eq_ok, expect_eq_ok,
    require_eq_ok] at hchecked
  obtain ⟨_, -, revoked, hrevoked, _, rfl, -⟩ := hchecked
  exact hrevoked

end State

namespace World

variable (host : Host)

/-- The ledger of a call. -/
def ledger (w : World) (call : Call) : Nat := w.sequence + call.ledgers

/-- A call mints a token for a credential. -/
def Mints (c : Nat) (w : World) (call : Call) : Prop :=
  w.Completes host call ∧ ((∃ owner uri, call.op = .token (.mint owner c uri)) ∨
    ∃ entries, call.op = .token (.batchMint entries) ∧ ∃ entry ∈ entries, entry.credentialId = c)

/-- A call caches the answer it gets about a credential. -/
def Caches (c : Nat) (w : World) (call : Call) : Prop :=
  w.Completes host call ∧ (∃ owner uri, call.op = .token (.mint owner c uri)) ∧
    ¬ w.state.CacheHit (w.ledger call) c

/-- A call changes the stored address of `quorum_proof`. -/
def Repoints (w : World) (call : Call) : Prop :=
  (w.next host call).state.control.quorumProofId ≠ w.state.control.quorumProofId

/-- A contract that was stored at the time was asked about a credential by a call of the run that
mints for it, and answered that it exists and is not revoked. -/
def Reported (calls : List Call) (qpId : Address) (c ledger : Nat) : Prop :=
  ∃ before call rest, calls = before ++ call :: rest ∧
    (after host before).Mints host c call ∧
    (after host before).state.control.quorumProofId = some qpId ∧
    call.isRevoked qpId c = some false ∧ (after host before).ledger call = ledger

/-- **The answer a mint relies on**: the stored contract gave it less than the time to live ago, or
in the same ledger if nothing is to live. -/
def FreshlyReported (before : List Call) (call : Call) (c : Nat) : Prop :=
  ∃ qpId ledger, (after host before).state.control.quorumProofId = some qpId ∧
    Reported host (before ++ [call]) qpId c ledger ∧ ledger ≤ (after host before).ledger call ∧
    ((after host before).ledger call <
        ledger + (after host before).state.control.getCredentialCacheTtl ∨
      (after host before).state.control.getCredentialCacheTtl = 0 ∧
        ledger = (after host before).ledger call)

variable {host}

theorem Reported.append {calls : List Call} {qpId : Address} {c ledger : Nat}
    (h : Reported host calls qpId c ledger) (more : List Call) :
    Reported host (calls ++ more) qpId c ledger := by
  obtain ⟨before, call, rest, rfl, h⟩ := h
  exact ⟨before, call, rest ++ more, by simp, h⟩

theorem after_append_singleton (host : Host) (calls : List Call) (call : Call) :
    after host (calls ++ [call]) = (after host calls).next host call := run_append _ _ _ _

/-- What a call leaves of the cached answer for a credential: it caches a new one, or it stays. -/
theorem cache_next (w : World) (call : Call) (c : Nat) :
    (w.Caches host c call ∧
      (w.next host call).state.annex.credentialCache c = some ⟨false, w.ledger call⟩ ∧
      ∃ qpId, w.state.control.quorumProofId = some qpId ∧
        call.isRevoked qpId c = some false) ∨
    (¬ w.Caches host c call ∧
      (w.next host call).state.annex.credentialCache c = w.state.annex.credentialCache c) := by
  by_cases hop : call.op.writesCache = false
  · refine .inr ⟨?_, by rw [(next_keeps host w call).cache hop]⟩
    rintro ⟨-, ⟨owner, uri, heq⟩, -⟩
    simp [heq, Op.writesCache] at hop
  obtain ⟨owner, c', uri, heq⟩ : ∃ owner c' uri, call.op = .token (.mint owner c' uri) := by
    unfold Op.writesCache at hop
    split at hop
    next owner c' uri heq => exact ⟨owner, c', uri, heq⟩
    next => exact absurd rfl hop
  by_cases hcall : w.Completes host call
  case neg =>
    exact .inr ⟨fun h => hcall h.1, by rw [next_state_of_not_completes hcall]⟩
  have hcall' := hcall
  obtain ⟨s, hs⟩ := hcall
  rw [next_state_of_ok hs]
  rw [heq, Op.apply, TokenOp.apply, map_eq_ok] at hs
  obtain ⟨r, hr, rfl⟩ := hs
  obtain ⟨qpId, hqp, hanswer⟩ := State.mint_answer _ _ _ _ _ r hr
  by_cases hc : c' = c
  case neg =>
    refine .inr ⟨?_, ?_⟩
    · rintro ⟨-, ⟨owner', uri', heq'⟩, -⟩
      rw [heq] at heq'
      injection heq' with heq'
      injection heq' with _ heq'
      exact hc heq'
    · cases hanswer with
      | cached _ _ _ _ h => rw [h]
      | asked _ _ h => rw [h, Store.set_of_ne (Ne.symm hc)]
  subst hc
  cases hanswer with
  | cached entry hentry hrecent _ h =>
    exact .inr ⟨fun hcaches => hcaches.2.2 ⟨entry, hentry, hrecent⟩, by rw [h]⟩
  | asked hmiss hvalid h =>
    exact .inl ⟨⟨hcall', ⟨owner, uri, heq⟩, hmiss⟩, by rw [h, Store.set_self]; rfl, qpId, hqp,
      hvalid⟩

/-- A mint that caches an answer leaves the address. -/
theorem Caches.not_repoints {w : World} {call : Call} {c : Nat} (h : w.Caches host c call) :
    ¬ w.Repoints host call := by
  obtain ⟨-, ⟨owner, uri, hop⟩, -⟩ := h
  exact not_not.mpr (congrArg Control.quorumProofId ((next_keeps host w call).control (hop ▸ rfl)))

/-- **A cached answer is not of the future, and the stored contract gave it**, unless the address
has changed since. -/
theorem answered_after (host : Host) (calls : List Call) {c : Nat} {entry : CredentialCacheEntry}
    (hentry : (after host calls).state.annex.credentialCache c = some entry) :
    entry.cachedAt ≤ (after host calls).sequence ∧
      (Since (next host) (Repoints host) (Caches host c) deployed calls ∨
        ∃ qpId, (after host calls).state.control.quorumProofId = some qpId ∧
          Reported host calls qpId c entry.cachedAt) := by
  induction calls using List.reverseRecOn generalizing entry with
  | nil => cases hentry
  | append_singleton calls call ih =>
    rw [after_append_singleton] at hentry ⊢
    rw [since_append_singleton]
    rcases cache_next (after host calls) call c with
      ⟨hcaches, hnew, qpId, hqp, hvalid⟩ | ⟨hnot, hold⟩
    · obtain rfl := Option.mem_unique hnew hentry
      have hsame := not_not.mp hcaches.not_repoints
      exact ⟨le_rfl, .inr ⟨qpId, hsame.trans hqp, calls, call, [], rfl,
        ⟨hcaches.1, .inl hcaches.2.1⟩, hqp, hvalid, rfl⟩⟩
    rw [hold] at hentry
    obtain ⟨hpast, hanswered⟩ := ih hentry
    refine ⟨hpast.trans (Nat.le_add_right _ _), ?_⟩
    by_cases hrepoints : (after host calls).Repoints host call
    · exact .inl (.inl hrepoints)
    rcases hanswered with hsince | ⟨qpId, hqp, hreported⟩
    · exact .inl (.inr ⟨hsince, hnot⟩)
    · exact .inr ⟨qpId, (not_not.mp hrepoints).trans hqp, hreported.append [call]⟩

/-- A mint relies on a cached answer. -/
def Relies (w : World) (c : Nat) (call : Call) : Prop :=
  (∃ owner uri, call.op = .token (.mint owner c uri)) ∧ w.state.CacheHit (w.ledger call) c

/-- What the contract answers in the ledger of the mint is fresh. -/
theorem FreshlyReported.of_asked {before : List Call} {call : Call} {c : Nat} {qpId : Address}
    (hmints : (after host before).Mints host c call)
    (hqp : (after host before).state.control.quorumProofId = some qpId)
    (hvalid : call.isRevoked qpId c = some false) : FreshlyReported host before call c :=
  ⟨qpId, (after host before).ledger call, hqp,
    ⟨before, call, [], rfl, hmints, hqp, hvalid, rfl⟩, le_rfl, by omega⟩

/-- **A mint relies on a fresh answer of the stored contract**, if the address has not been changed
since the answer was cached. -/
theorem mint_freshly_reported (host : Host) (before : List Call) (call : Call) (c : Nat)
    (hmints : (after host before).Mints host c call)
    (hsame : (after host before).Relies c call →
      ¬ Since (next host) (Repoints host) (Caches host c) deployed before) :
    FreshlyReported host before call c := by
  obtain ⟨⟨s, hs⟩, ⟨owner, uri, heq⟩ | ⟨entries, heq, entry, hentry, rfl⟩⟩ := id hmints
  · rw [heq, Op.apply, TokenOp.apply, map_eq_ok] at hs
    obtain ⟨r, hr, rfl⟩ := hs
    obtain ⟨qpId, hqp, hanswer⟩ := State.mint_answer _ _ _ _ _ r hr
    cases hanswer with
    | asked _ hvalid _ => exact .of_asked hmints hqp hvalid
    | cached entry hentry hrecent _ _ =>
      have hrelies : (after host before).Relies c call :=
        ⟨⟨owner, uri, heq⟩, entry, hentry, hrecent⟩
      obtain ⟨hpast, hanswered⟩ := answered_after host before hentry
      obtain ⟨qpId', hqp', hreported⟩ := hanswered.resolve_left (hsame hrelies)
      have hledger : (after host before).sequence ≤ (after host before).ledger call :=
        Nat.le_add_right _ _
      have hlt : (after host before).ledger call - entry.cachedAt <
        (after host before).state.control.getCredentialCacheTtl := hrecent
      exact ⟨qpId', entry.cachedAt, hqp', hreported.append [call], hpast.trans hledger, by omega⟩
  · rw [heq, Op.apply, TokenOp.apply, map_eq_ok] at hs
    obtain ⟨r, hr, rfl⟩ := hs
    obtain ⟨qpId, hqp, hvalid⟩ := State.batchMint_asked _ _ _ r hr
    exact .of_asked hmints hqp (hvalid entry hentry)

end World

/-! ## Sample runs -/

namespace Sample

/-- The address `carol` says of every credential that it is revoked, the others of none. -/
def hearing (call : Call) : Call :=
  { call with isRevoked := fun contract _ => some (contract = carol) }

/-- The admin makes `carol` the `quorum_proof` contract. -/
def repoint : Call := hearing (callBy [admin] (.control (.updateQuorumProofId admin carol)))

/-- A mint that asks, and caches the answer. -/
def askedOnce : List Call := [hearing initialized] ++ [hearing (mint alice 1)]

end Sample

namespace World

open Sbt.Sample in
/-- The second mint relies on what the first one was told. -/
theorem mint_freshly_reported_cached : FreshlyReported host askedOnce (hearing (mint bob 1)) 1 := by
  refine mint_freshly_reported host askedOnce _ 1 ⟨by decide +kernel, .inl ⟨bob, _, rfl⟩⟩ ?_
  intro _ hsince
  rw [askedOnce, since_append_singleton] at hsince
  rcases hsince with hrepoints | ⟨-, hnot⟩
  · exact absurd rfl hrepoints
  · exact hnot ⟨by decide +kernel, ⟨alice, _, rfl⟩, by decide +kernel⟩

open Sbt.Sample in
/-- **A mint relies on the answer of the previous contract**, when the one that is stored says that
the credential is revoked. -/
theorem not_mint_freshly_reported : ¬ ∀ host before call c,
    (after host before).Mints host c call → FreshlyReported host before call c := by
  intro h
  obtain ⟨qpId, _, hqp, ⟨before, call, rest, hrun, -, -, hvalid, -⟩, -⟩ := h host
    (askedOnce ++ [repoint]) (hearing (mint bob 1)) 1 ⟨by decide +kernel, .inl ⟨bob, _, rfl⟩⟩
  have hcarol : (after host (askedOnce ++ [repoint])).state.control.quorumProofId = some carol := by
    decide +kernel
  obtain rfl := Option.mem_unique hcarol hqp
  -- No call of the run hears anything else from the stored contract than that it is revoked.
  have hheard : ∀ call ∈ (askedOnce ++ [repoint]) ++ [hearing (mint bob 1)],
      call.isRevoked carol 1 = some true := by decide +kernel
  have hmem : call ∈ (askedOnce ++ [repoint]) ++ [hearing (mint bob 1)] := by
    rw [hrun]
    simp
  exact absurd (hvalid.symm.trans (hheard call hmem)) (by decide)

end World

end QuorumProof.Sbt
