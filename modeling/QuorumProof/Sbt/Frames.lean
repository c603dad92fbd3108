import QuorumProof.Sbt.Holdings

/-!
# Sbt/Frames — who signs an entry point, and what it leaves alone

`Op.Signed` lists what the entry points that move tokens or name guardians ask of their signers; it
only looks at the storage before the call.

The entry points on tokens make one write after another, one for each of the actions they stand for
(`TokenWrites`); those of a holder rewrite at most one token (`HolderOp.Edits`).

Each part of the storage has its writers, and every other entry point leaves it alone (`Op.keeps`).
Of the annex three parts decide whether a later call goes through: the cached answers of
`quorum_proof`, the proposals of co-owners, and the records of clawbacks.
-/

namespace QuorumProof.Sbt

open Guarded

/-! ## Writers -/

/-- The records of clawbacks: the requests, and the two indices of the pending ones. -/
@[ext] structure ClawbackBook where
  request : Store Nat ClawbackRequest
  requestCount : Nat
  pendingBySbt : Store Nat Nat
  pending : List Nat

/-- The records of clawbacks in the annex. -/
def Annex.clawbacks (a : Annex) : ClawbackBook :=
  ⟨a.clawbackRequest, a.clawbackRequestCount, a.pendingClawbackBySbt, a.pendingClawbacks⟩

namespace Op

def writesControl : Op → Bool
  | control _ => true
  | _ => false

def writesLedger : Op → Bool
  | token _ | recovery (.finalizeRecovery ..) | holder (.acceptCoOwner ..) | holder (.setCoOwner ..)
  | holder (.removeCoOwner ..) | holder (.updateMetadata ..) | holder (.upgradeSbt ..) => true
  | _ => false

def writesDelegations : Op → Bool
  | token _ | holder (.delegateSbtRights ..) | holder (.revokeSbtDelegation ..)
  | holder (.delegateSbtUsage ..) | holder (.delegateSbtTransfer ..) => true
  | _ => false

def writesRecovery : Op → Bool
  | recovery _ => true
  | _ => false

/-- The one writer of the credential cache. -/
def writesCache : Op → Bool
  | token (.mint ..) => true
  | _ => false

def writesProposals : Op → Bool
  | holder (.proposeCoOwner ..) | holder (.acceptCoOwner ..) => true
  | _ => false

def writesClawbacks : Op → Bool
  | annex (.initiateSbtClawback ..) | annex (.cancelSbtClawback ..) => true
  | _ => false

/-- **What an entry point leaves alone**: the parts of the storage it is no writer of. -/
structure Keeps (op : Op) (s s' : State) : Prop where
  control : op.writesControl = false → s'.control = s.control
  ledger : op.writesLedger = false → s'.ledger = s.ledger
  delegations : op.writesDelegations = false → s'.delegations = s.delegations
  recovery : op.writesRecovery = false → s'.recovery = s.recovery
  cache : op.writesCache = false → s'.annex.credentialCache = s.annex.credentialCache
  proposals : op.writesProposals = false → s'.annex.coOwnerProposal = s.annex.coOwnerProposal
  clawbacks : op.writesClawbacks = false → s'.annex.clawbacks = s.annex.clawbacks

end Op

/-! ## The token operations -/

/-- The actions of an entry point that writes tokens. -/
def TokenOp.actions (s : State) : TokenOp → List Action
  | mint owner credentialId _ => [.mint owner credentialId]
  | batchMint entries => entries.map fun entry => .mint entry.owner entry.credentialId
  | burn _ tokenId => [.burn tokenId]
  | burnSbt _ sbtId _ => [.burn sbtId]
  | batchBurn entries => entries.map fun entry => .burn entry.tokenId
  | recoverSbt _ tokenId newOwner => [.move tokenId newOwner]
  | adminTransferSbt _ tokenId newOwner => [.move tokenId newOwner]
  | transferOwnershipDual tokenId newOwner => [.move tokenId newOwner]
  | batchTransfer _ entries => entries.map fun entry => .move entry.tokenId entry.newOwner
  | transferSbtViaAttestor _ sbtId _ =>
    match s.delegations.attestorDelegation sbtId with
    | some record => [.hand sbtId record.newHolder]
    | none => []

/-- The actions of a recovery: all of the initiator's tokens move. -/
def RecoveryOp.actions (s : State) : RecoveryOp → List Action
  | finalizeRecovery initiator requestId =>
    match s.recovery.request requestId with
    | some request =>
      ((s.ledger.ownerTokens initiator).getD []).map fun t => .move t request.newOwner
    | none => []
  | _ => []

/-- The actions of an entry point. -/
def Op.actions (s : State) : Op → List Action
  | token op => op.actions s
  | recovery op => op.actions s
  | _ => []

/-- The owner moves a token by themselves, and the rights delegation stays. -/
def TokenOp.isDual : TokenOp → Bool
  | transferOwnershipDual .. => true
  | _ => false

/-- **What an entry point on tokens has checked** when it goes through. -/
def TokenOp.Checked (auths : List Address) (s : State) : TokenOp → Prop
  | mint owner .. => s.control.paused = false ∧ s.control.blacklist owner = none
  | batchMint entries => ∀ entry ∈ entries, s.control.blacklist entry.owner = none
  | burn .. | batchBurn _ => True
  | burnSbt .. => s.control.paused = false
  | recoverSbt caller _ newOwner =>
    (caller ∈ auths ∧ (s.control.quorumProofId = some caller ∨ s.control.admin = some caller)) ∧
      s.control.blacklist newOwner = none
  | adminTransferSbt admin _ newOwner =>
    (admin ∈ auths ∧ s.control.admin = some admin) ∧ s.control.blacklist newOwner = none
  | transferOwnershipDual t _ =>
    s.control.paused = false ∧ ∃ token, s.ledger.tokens t = some token ∧ token.owner ∈ auths
  | batchTransfer admin _ => admin ∈ auths ∧ s.control.admin = some admin
  | transferSbtViaAttestor attestor t _ =>
    s.control.paused = false ∧ attestor ∈ auths ∧ ∃ record,
      s.delegations.attestorDelegation t = some record ∧ record.attestor = attestor ∧
        record.executed = false ∧ s.control.blacklist record.newHolder = none

namespace State

/-- **One write of an entry point on tokens**, and the action it stands for. -/
inductive TokenWrite (env : Env) : Bool → State → Action → State → Prop
  | mint {dual : Bool} {s : State} {owner : Address} {c : Nat} (uri : Bytes)
      (hfree : s.ledger.ownerCredential (owner, c) = none) :
      TokenWrite env dual s (.mint owner c) ((s.writeMint env (s.ledger.tokenCount + 1) owner c
        uri).setTokenCount (s.ledger.tokenCount + 1))
  | burn {dual : Bool} {s : State} {t : Nat} {token : SoulboundToken}
      (ht : s.ledger.tokens t = some token) :
      TokenWrite env dual s (.burn t) (s.writeBurn env t token.owner token.credentialId)
  | move {dual : Bool} {s : State} {t : Nat} {token : SoulboundToken}
      (ht : s.ledger.tokens t = some token) (newOwner : Address) (event : NotificationEvent) :
      TokenWrite env dual s (.move t newOwner) (s.writeMove env t token newOwner event)
  | dual {s : State} {t : Nat} {token : SoulboundToken} (ht : s.ledger.tokens t = some token)
      (newOwner : Address) (journal : Journal) :
      TokenWrite env true s (.move t newOwner)
        { s with ledger := s.ledger.moveToken t token newOwner, journal := journal }
  | hand {dual : Bool} {s : State} {t : Nat} {token : SoulboundToken}
      {record : AttestorDelegationRecord} (ht : s.ledger.tokens t = some token)
      (journal : Journal) :
      TokenWrite env dual s (.hand t record.newHolder)
        { (s.executeAttestorDelegation t record).removeDelegation t with
          ledger := s.ledger.handToken t token record.newHolder, journal := journal }

/-- Writes one after another. -/
inductive TokenWrites (env : Env) (dual : Bool) : State → List Action → State → Prop
  | nil (s : State) : TokenWrites env dual s [] s
  | cons {s s' s'' : State} {a : Action} {as : List Action} (h : TokenWrite env dual s a s')
      (h' : TokenWrites env dual s' as s'') : TokenWrites env dual s (a :: as) s''

section TokenWrites

variable {env : Env} {dual : Bool} {s s' : State} {a : Action} {as : List Action}

theorem TokenWrite.single (h : TokenWrite env dual s a s') : TokenWrites env dual s [a] s' :=
  .cons h (.nil s')

/-- **A relation every write keeps is kept by all of them together.** -/
theorem TokenWrites.relation {R : State → State → Prop} (hrefl : ∀ s, R s s)
    (htrans : ∀ {s₁ s₂ s₃}, R s₁ s₂ → R s₂ s₃ → R s₁ s₃)
    (hstep : ∀ {s a s'}, TokenWrite env dual s a s' → R s s')
    (h : TokenWrites env dual s as s') : R s s' := by
  induction h with
  | nil s => exact hrefl s
  | cons h _ ih => exact htrans (hstep h) ih

/-- A loop that makes one write for each of its entries. -/
theorem ensures_foldlM_writes {α : Type}
    {f : State × List Nat → α → Except Fault (State × List Nat)} {act : α → Action}
    (hf : ∀ acc x, Ensures (f acc x) fun acc' => TokenWrite env dual acc.1 (act x) acc'.1)
    (xs : List α) (acc : State × List Nat) :
    Ensures (xs.foldlM f acc) fun acc' => TokenWrites env dual acc.1 (xs.map act) acc'.1 := by
  induction xs generalizing acc with
  | nil => exact ensures_ok.mpr (.nil _)
  | cons x xs ih =>
    rw [List.foldlM_cons, ensures_bind]
    exact fun acc₁ h₁ => (ih acc₁).mono fun _ h => .cons (hf acc x acc₁ h₁) h

/-- **The minting loop.**  Through it the count is beside the storage; no key of an entry is in use,
and no two entries have the same one. -/
theorem mintEntries_writes (entries : List BatchMintEntry) (acc : State × Nat × List Nat)
    (hfree : ∀ entry ∈ entries,
      acc.1.ledger.ownerCredential (entry.owner, entry.credentialId) = none)
    (hnodup : (entries.map fun entry => (entry.owner, entry.credentialId)).Nodup) :
    Ensures (entries.foldlM (mintEntry env) acc) fun r =>
      TokenWrites env dual (acc.1.setTokenCount acc.2.1)
        (entries.map fun entry => .mint entry.owner entry.credentialId)
        (r.1.setTokenCount r.2.1) := by
  induction entries generalizing acc with
  | nil => exact ensures_ok.mpr (.nil _)
  | cons entry entries ih =>
    rw [List.map_cons, List.nodup_cons] at hnodup
    simp only [List.foldlM_cons, mintEntry, ensures_bind, ensures_guards, ensures_pure]
    intro _
    refine (ih _ (fun entry' hentry' => ?_) hnodup.2).mono fun _ h =>
      .cons (.mint (s := acc.1.setTokenCount acc.2.1) entry.metadataUri (hfree entry (by simp))) h
    have hne : (entry'.owner, entry'.credentialId) ≠ (entry.owner, entry.credentialId) :=
      fun heq => hnodup.1 (heq ▸ List.mem_map_of_mem hentry')
    exact (Store.set_of_ne hne).trans (hfree entry' (by simp [hentry']))

end TokenWrites

variable (env : Env) (s : State)

/-- The cached answers are others. -/
def withCache (s : State) (cache : Store Nat CredentialCacheEntry) : State :=
  { s with annex := { s.annex with credentialCache := cache } }

theorem checkCredentialCache_cache (qpId : Address) (c : Nat) :
    Ensures (s.checkCredentialCache env qpId c) fun r => ∃ cache, r.1 = s.withCache cache := by
  have hrefresh : Ensures (s.refreshCredentialCache env qpId c) fun r =>
      ∃ cache, r.1 = s.withCache cache := by
    simp only [refreshCredentialCache, ensures_bind, ensures_pure]
    exact fun _ _ => ⟨_, rfl⟩
  unfold checkCredentialCache
  split
  · simp only [ensures_ite, ensures_ok]
    exact ⟨fun _ => ⟨s.annex.credentialCache, rfl⟩, fun _ => hrefresh⟩
  · exact hrefresh

/-- **An entry point on tokens makes the writes it stands for**; a mint may ask about its credential
first. -/
theorem tokenOp_writes (op : TokenOp) :
    Ensures (op.apply env s) fun s' => op.Checked env.auths s ∧ ∃ cache,
      ((Op.token op).writesCache = false → cache = s.annex.credentialCache) ∧
        TokenWrites env op.isDual (s.withCache cache) (op.actions s) s' := by
  -- all but `mint` leave the cache
  suffices h : (∀ owner c uri, op ≠ .mint owner c uri) → Ensures (op.apply env s) fun s' =>
      op.Checked env.auths s ∧ TokenWrites env op.isDual s (op.actions s) s' by
    cases op
    case mint owner c uri =>
      simp only [TokenOp.apply, ensures_steps, mint, requireUnminted, Control.requireNotPaused,
        Control.requireNotBlacklisted, ensures_guards, require_eq_ok]
      intro _ hrunning hlisted _ qpId _ r hr _ _ hfree _
      obtain ⟨cache, hcache⟩ := checkCredentialCache_cache env s qpId c r hr
      rw [hcache] at hfree ⊢
      exact ⟨⟨hrunning, hlisted⟩, cache, by rintro ⟨⟩, (TokenWrite.mint uri hfree).single⟩
    all_goals exact (h (by simp)).mono fun _ h => ⟨h.1, s.annex.credentialCache, fun _ => rfl, h.2⟩
  intro hmint
  cases op
  case mint => exact absurd rfl (hmint _ _ _)
  case batchMint entries =>
    simp only [TokenOp.apply, ensures_steps, batchMint]
    intro _ _ qpId _ hvalid hnodup r hr
    have hchecked : ∀ entry ∈ entries, s.control.blacklist entry.owner = none ∧
        s.ledger.ownerCredential (entry.owner, entry.credentialId) = none := by
      intro entry hentry
      have hentryvalid := forM_eq_ok.mp hvalid entry hentry
      simp only [validateMintEntry, bind_eq_ok, Control.requireNotBlacklisted, requireUnminted,
        require_eq_ok] at hentryvalid
      obtain ⟨_, hlisted, _, _, _, _, hfree⟩ := hentryvalid
      exact ⟨hlisted, hfree⟩
    exact ⟨fun entry hentry => (hchecked entry hentry).1,
      mintEntries_writes entries (s, s.ledger.tokenCount, [])
        (fun entry hentry => (hchecked entry hentry).2) (require_eq_ok.mp hnodup) r hr⟩
  case batchBurn entries =>
    simp only [TokenOp.apply, ensures_steps, batchBurn]
    intro _ _
    refine (ensures_foldlM_writes (fun acc entry => ?_) entries (s, [])).mono fun _ h =>
      ⟨trivial, h⟩
    simp only [burnEntry, ensures_steps, ensures_guards, require_eq_ok]
    rintro token ht howner
    exact howner ▸ .burn ht
  case batchTransfer admin entries =>
    simp only [TokenOp.apply, ensures_steps, batchTransfer, requireAuth_eq_ok,
      Control.requireAdmin_eq_ok]
    intro hauth hadmin _
    refine (ensures_foldlM_writes (fun acc entry => ?_) entries (s, [])).mono fun _ h =>
      ⟨⟨hauth, hadmin⟩, h⟩
    simp only [transferEntry, ensures_bind, ensures_guards, ensures_pure]
    exact fun token ht => .move ht entry.newOwner .transfer
  case transferSbtViaAttestor attestor t proof =>
    simp only [TokenOp.apply, transferSbtViaAttestor, Control.requireNotPaused,
      Control.requireNotBlacklisted, ensures_steps, ensures_guards, requireAuth_eq_ok,
      require_eq_ok]
    intro hrunning hauth record hrecord hattestor hopen _ hlisted token ht
    rw [TokenOp.actions, hrecord]
    exact ⟨⟨hrunning, hauth, record, hrecord, hattestor, hopen, hlisted⟩,
      (TokenWrite.hand ht _).single⟩
  case transferOwnershipDual t newOwner =>
    simp only [TokenOp.apply, transferOwnershipDual, Control.requireNotPaused, ensures_steps,
      ensures_guards, requireAuth_eq_ok, require_eq_ok]
    exact fun hrunning token ht hauth _ =>
      ⟨⟨hrunning, token, ht, hauth⟩, (TokenWrite.dual ht newOwner _).single⟩
  case burn owner t =>
    simp only [TokenOp.apply, ensures_steps, burn, ensures_guards, require_eq_ok]
    intro _ token ht howner _ _ _
    exact ⟨trivial, howner ▸ (TokenWrite.burn ht).single⟩
  case burnSbt holder t proof =>
    simp only [TokenOp.apply, burnSbt, Control.requireNotPaused, ensures_steps, ensures_guards,
      require_eq_ok]
    intro _ hrunning _ token ht howner
    exact ⟨hrunning, howner ▸ (TokenWrite.burn ht).single⟩
  case recoverSbt caller t newOwner =>
    simp only [TokenOp.apply, recoverSbt, expectQuorumProofId, Control.requireNotBlacklisted,
      ensures_steps, ensures_guards, requireAuth_eq_ok, require_eq_ok]
    intro hauth qpId hqp admin hadmin hcaller hlisted token ht
    refine ⟨⟨⟨hauth, ?_⟩, hlisted⟩, (TokenWrite.move ht _ _).single⟩
    rwa [hqp, hadmin, Option.some_inj, Option.some_inj, eq_comm, @eq_comm _ admin]
  case adminTransferSbt admin t newOwner =>
    simp only [TokenOp.apply, adminTransferSbt, Control.requireNotBlacklisted, ensures_steps,
      ensures_guards, requireAuth_eq_ok, Control.requireAdmin_eq_ok, require_eq_ok]
    exact fun hauth hadmin hlisted token ht =>
      ⟨⟨⟨hauth, hadmin⟩, hlisted⟩, (TokenWrite.move ht _ _).single⟩

/-- Writes on tokens leave the control, the recovery book and, of the annex, what decides a later
call. -/
theorem TokenWrites.aside {env : Env} {dual : Bool} {s s' : State} {as : List Action}
    (h : TokenWrites env dual s as s') :
    (s'.control, s'.recovery, s'.annex.credentialCache, s'.annex.coOwnerProposal,
        s'.annex.clawbacks) =
      (s.control, s.recovery, s.annex.credentialCache, s.annex.coOwnerProposal,
        s.annex.clawbacks) :=
  h.relation (R := fun s s' => (s'.control, s'.recovery, s'.annex.credentialCache,
    s'.annex.coOwnerProposal, s'.annex.clawbacks) = (s.control, s.recovery,
    s.annex.credentialCache, s.annex.coOwnerProposal, s.annex.clawbacks)) (fun _ => rfl)
    (fun h h' => h'.trans h) fun hwrite => by cases hwrite <;> rfl

end State

open Sbt.State

/-! ## What is left alone -/

/-- **Every entry point leaves alone what it is no writer of.** -/
theorem Op.keeps (env : Env) (s : State) (op : Op) : Ensures (op.apply env s) (op.Keeps s) := by
  cases op with
  | control op =>
    refine ensures_map.mpr fun _ _ => ?_
    constructor <;> intro hop <;> cases hop <;> rfl
  | token op =>
    refine (s.tokenOp_writes env op).mono ?_
    rintro s' ⟨-, cache, hcache, h⟩
    have haside := h.aside
    simp only [Prod.mk.injEq] at haside
    obtain ⟨hcontrol, hrecovery, hsame, hproposals, hclawbacks⟩ := haside
    exact ⟨fun _ => hcontrol, by rintro ⟨⟩, by rintro ⟨⟩, fun _ => hrecovery,
      fun hop => hsame.trans (hcache hop), fun _ => hproposals, fun _ => hclawbacks⟩
  | recovery op =>
    cases op <;>
      simp only [Op.apply, RecoveryOp.apply, ensures_map, setupRecoveryGuardians, initiateRecovery,
        approveRecovery, finalizeRecovery, ensures_steps] <;>
      (repeat intro _) <;> constructor <;> intro hop <;> cases hop <;> rfl
  | holder op =>
    cases op <;>
      simp only [Op.apply, HolderOp.apply, delegateSbtRights, revokeSbtDelegation, delegateSbtUsage,
        delegateSbtTransfer, proposeCoOwner, acceptCoOwner, setCoOwner, assignCoOwner,
        removeCoOwner, updateMetadata, setSbtMetadataUri, upgradeSbt, ensures_steps,
        ensures_guards] <;>
      intros <;> constructor <;> intro hop <;> cases hop <;> rfl
  | annex op =>
    cases op
    case addSbtAttribute | removeSbtAttribute =>
      simp only [Op.apply, AnnexOp.apply, addSbtAttribute, removeSbtAttribute, dropIndexedAttribute,
        removeFromAttributeIndex, addToAttributeIndex, ensures_steps, ensures_guards]
      intros
      constructor <;> intro hop <;> cases hop <;> (repeat' split) <;> rfl
    all_goals
      simp only [Op.apply, AnnexOp.apply, trackCredentialAccess, recordRevocationReason,
        appealSbtRevocation, initiateSbtClawback, cancelSbtClawback, generateSbtPossessionProof,
        updateSbtMetadataCommitment, createSbtPossessionCommitment, registerSbtInMarketplace,
        deregisterSbtFromMarketplace, expectQuorumProofId, invokeIsRevoked, expectOwner,
        ensures_steps, ensures_guards]
      intros
      constructor <;> intro hop <;> cases hop <;> rfl
  | transfer => exact ensures_error.mpr trivial

theorem World.next_keeps (host : Host) (w : World) (call : Call) :
    call.op.Keeps w.state (w.next host call).state :=
  next_of_ensures (Op.keeps _ _ _) ⟨fun _ => rfl, fun _ => rfl, fun _ => rfl, fun _ => rfl,
    fun _ => rfl, fun _ => rfl, fun _ => rfl⟩

/-! ## Holders -/

/-- **How a holder's entry point rewrites a token.** -/
inductive HolderOp.Edits (auths : List Address) (s : State) (t : Nat) (token : SoulboundToken) :
    HolderOp → SoulboundToken → Prop
  | version {op : HolderOp} (version : Nat) : Edits auths s t token op { token with version }
  | upgradedTo (issuer : Address) (t' : Nat) :
      Edits auths s t token (.upgradeSbt issuer t t') { token with upgradedTo := some t' }
  | named {op : HolderOp} (coOwner : Address) (hne : coOwner ≠ token.owner)
      (hauth : coOwner ∈ auths)
      (hop : op = .setCoOwner token.owner t coOwner ∧ token.owner ∈ auths ∨
        op = .acceptCoOwner coOwner t ∧ s.annex.coOwnerProposal t = some coOwner) :
      Edits auths s t token op { token with coOwner := some coOwner }
  | dismissed (coOwner : Address) (hco : token.coOwner = some coOwner) (hauth : coOwner ∈ auths) :
      Edits auths s t token (.removeCoOwner token.owner coOwner t) { token with coOwner := none }

/-- **A holder's entry point rewrites at most one token.** -/
theorem State.holderOp_edits (env : Env) (s : State) (op : HolderOp) :
    Ensures (op.apply env s) fun s' => s'.ledger = s.ledger ∨ ∃ t token token',
      s.ledger.tokens t = some token ∧ op.Edits env.auths s t token token' ∧
        s'.ledger = { s.ledger with tokens := s.ledger.tokens.set t token' } := by
  have hkeeps : Ensures (op.apply env s) ((Op.holder op).Keeps s) := Op.keeps env s (.holder op)
  cases op
  case setCoOwner owner t coOwner =>
    simp only [HolderOp.apply, setCoOwner, assignCoOwner, ensures_steps, ensures_guards,
      requireAuth_eq_ok, require_eq_ok]
    rintro howner hauth token ht rfl hne
    exact .inr ⟨t, token, _, ht, .named coOwner hne hauth (.inl ⟨rfl, howner⟩), rfl⟩
  case acceptCoOwner candidate t =>
    simp only [HolderOp.apply, acceptCoOwner, assignCoOwner, ensures_steps, ensures_guards,
      requireAuth_eq_ok, require_eq_ok]
    rintro hauth proposed hproposed rfl token ht hne
    exact .inr ⟨t, token, _, ht, .named proposed hne hauth (.inr ⟨rfl, hproposed⟩), rfl⟩
  case removeCoOwner owner coOwner t =>
    simp only [HolderOp.apply, removeCoOwner, ensures_steps, ensures_guards, requireAuth_eq_ok,
      require_eq_ok]
    rintro _ hauth token ht rfl stored hco rfl
    exact .inr ⟨t, token, _, ht, .dismissed stored hco hauth, rfl⟩
  case updateMetadata owner t uri =>
    simp only [HolderOp.apply, updateMetadata, ensures_steps, ensures_guards]
    exact fun _ token ht _ _ => .inr ⟨t, token, _, ht, .version _, rfl⟩
  case upgradeSbt issuer t t' =>
    simp only [HolderOp.apply, upgradeSbt, ensures_steps, ensures_guards]
    exact fun _ token ht _ _ _ => .inr ⟨t, token, _, ht, .upgradedTo issuer t', rfl⟩
  all_goals exact hkeeps.mono fun _ h => .inl (h.ledger rfl)

/-! ## Signers -/

/-- **Whose signature an entry point asks for** that moves tokens or names guardians. -/
def Op.Signed (auths : List Address) (s : State) : Op → Prop
  | token (.recoverSbt caller _ _) =>
    caller ∈ auths ∧ (s.control.quorumProofId = some caller ∨ s.control.admin = some caller)
  | token (.adminTransferSbt admin _ _) | token (.batchTransfer admin _)
  | recovery (.setupRecoveryGuardians admin _ _) => admin ∈ auths ∧ s.control.admin = some admin
  | token (.transferOwnershipDual t _) => ∀ token ∈ s.ledger.tokens t, token.owner ∈ auths
  | token (.transferSbtViaAttestor attestor t _) =>
    attestor ∈ auths ∧ ∀ record ∈ s.delegations.attestorDelegation t,
      record.attestor = attestor ∧ record.executed = false
  | recovery (.finalizeRecovery initiator q) =>
    initiator ∈ auths ∧ ∀ request ∈ s.recovery.request q, request.initiator = initiator ∧
      request.completed = false ∧ s.recovery.getRecoveryThreshold ≤ request.approvalsCount
  | _ => True

instance (auths : List Address) (s : State) (op : Op) : Decidable (op.Signed auths s) := by
  unfold Op.Signed
  split <;> infer_instance

namespace State

theorem tokenOp_signed (env : Env) (s : State) (op : TokenOp) :
    Ensures (op.apply env s) fun _ => Op.Signed env.auths s (.token op) := by
  refine (tokenOp_writes env s op).mono fun _ h => ?_
  replace h := h.1
  cases op
  case recoverSbt | adminTransferSbt => exact h.1
  case transferOwnershipDual t newOwner =>
    obtain ⟨-, token, ht, hauth⟩ := h
    exact fun token' ht' => Option.mem_unique ht ht' ▸ hauth
  case transferSbtViaAttestor attestor t proof =>
    obtain ⟨-, hauth, record, hrecord, hattestor, hopen, -⟩ := h
    exact ⟨hauth, fun record' hrecord' => Option.mem_unique hrecord hrecord' ▸ ⟨hattestor, hopen⟩⟩
  all_goals trivial

theorem recoveryOp_signed (env : Env) (s : State) (op : RecoveryOp) :
    Ensures (op.apply env s) fun _ => Op.Signed env.auths s (.recovery op) := by
  cases op
  case setupRecoveryGuardians admin guardians threshold =>
    simp only [RecoveryOp.apply, setupRecoveryGuardians, ensures_steps, requireAuth_eq_ok,
      Control.requireAdmin_eq_ok]
    exact fun hauth hadmin _ _ _ _ => ⟨hauth, hadmin⟩
  case finalizeRecovery initiator q =>
    simp only [RecoveryOp.apply, finalizeRecovery, RecoveryBook.approvedRequest, ensures_steps,
      requireAuth_eq_ok, require_eq_ok]
    intro hauth request hrequest hinitiator hopen henough _ _ _ _
    refine ⟨hauth, fun request' hrequest' => ?_⟩
    rw [Option.mem_unique hrequest' hrequest]
    exact ⟨hinitiator, hopen, henough⟩
  all_goals exact fun _ _ => trivial

end State

/-- **An entry point that succeeds is signed.** -/
theorem Op.signed_of_ok (env : Env) (s : State) (op : Op) :
    Ensures (op.apply env s) fun _ => op.Signed env.auths s := by
  cases op with
  | token op => exact s.tokenOp_signed env op
  | recovery op => exact s.recoveryOp_signed env op
  | control | holder | annex | transfer => exact fun _ _ => trivial

namespace World

/-- A call has the signatures its entry point asks for. -/
def Signed (w : World) (call : Call) : Prop := call.op.Signed call.auths w.state
  deriving Decidable

variable {host : Host} {w : World} {call : Call}

theorem Completes.signed (h : w.Completes host call) : w.Signed call := by
  obtain ⟨s, hs⟩ := h
  exact Op.signed_of_ok _ _ _ s hs

/-- A call that aborts leaves the storage. -/
theorem next_state_of_not_completes (h : ¬ w.Completes host call) :
    (w.next host call).state = w.state := by
  cases hcall : call.op.apply (w.env host call) w.state with
  | ok s => exact absurd ⟨s, hcall⟩ h
  | error fault => exact next_state_of_error hcall

end World

end QuorumProof.Sbt
