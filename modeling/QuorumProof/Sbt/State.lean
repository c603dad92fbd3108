import QuorumProof.Lib.Index
import QuorumProof.Sbt.Types

/-!
# Sbt/State — the registry's storage

One `DataKey` variant of the source is one field; a key that takes arguments is a `Store` over them,
a key that is read with `unwrap_or` is the value itself.  `OwnerTokens` keeps its slot, which `burn`
looks at.  Instance and persistent storage are one, and entries do not expire.

The journals only ever grow by one entry, so a single writer each is enough.
-/

namespace QuorumProof.Sbt

open Guarded

/-! ## Storage by owner -/

/-- Who runs the registry, and what it refuses. -/
structure Control where
  admin : Option Address
  quorumProofId : Option Address
  paused : Bool
  governanceCacheTtl : Option Nat
  blacklist : Store Address Bool
  reputationConfig : Option ReputationConfig
  deriving Inhabited

/-- The tokens, their owners, and the two indices over them. -/
structure Ledger where
  tokens : Store Nat SoulboundToken
  tokenCount : Nat
  owners : Store Nat Address
  ownerTokens : Store Address (List Nat)
  ownerCredential : Store (Address × Nat) Nat
  deriving Inhabited

/-- What owners have delegated. -/
structure DelegationBook where
  delegation : Store Nat Delegation
  usageDelegation : Store (Nat × Address) ScopedDelegation
  attestorDelegation : Store Nat AttestorDelegationRecord
  deriving Inhabited

/-- The guardians and the requests they approve. -/
structure RecoveryBook where
  guardians : Option (List Address)
  threshold : Option Nat
  request : Store Nat RecoveryRequest
  requestCount : Nat
  pendingByHolder : Store Address Nat
  approvals : Store Nat (List RecoveryApproval)
  auditTrail : Store Nat AuditTrailEntry
  auditTrailCount : Nat
  deriving Inhabited

/-- Logs that nothing but reads depends on. -/
structure Journal where
  notificationHistory : Store Address (List NotificationEntry)
  sbtActivityLog : Store Nat (List SbtActivityEntry)
  ownershipHistory : Store Nat (List OwnershipHistoryEntry)
  credentialAccessLog : Store Nat (List CredentialAccessEntry)
  deriving Inhabited

/-- What is attached to a token: metadata, proofs, attributes, listings, appeals, clawbacks. -/
structure Annex where
  credentialCache : Store Nat CredentialCacheEntry
  sbtWhitelist : Store Nat (List Address)
  compressedMetadata : Store Nat Bytes
  sbtMetadataUri : Store Nat Bytes
  coOwnerProposal : Store Nat Address
  revocationReason : Store Nat RevocationRecord
  sbtAppeal : Store Nat AppealRecord
  appealHistory : Store Nat (List AppealRecord)
  clawbackRequest : Store Nat ClawbackRequest
  clawbackRequestCount : Nat
  pendingClawbackBySbt : Store Nat Nat
  pendingClawbacks : List Nat
  sbtProofOfPossession : Store Nat PossessionProof
  metadataCommitment : Store Nat MetadataCommitmentRecord
  sbtAttribute : Store (Nat × Bytes) SbtAttributeRecord
  sbtAttributeKeys : Store Nat (List Bytes)
  attributeIndex : Store (Bytes × Bytes) (List Nat)
  marketplaceListing : Store (Nat × Bytes) MarketplaceListingRecord
  marketplaceIndex : Store Bytes (List Nat)
  sbtMarketplaces : Store Nat (List Bytes)
  globalMarketplaceRegistry : List Nat
  possessionCommitment : Store Bytes PossessionCommitmentRecord
  commitmentNonce : Store Nat Nat
  deriving Inhabited

/-- The registry's storage. -/
structure State where
  control : Control
  ledger : Ledger
  delegations : DelegationBook
  recovery : RecoveryBook
  journal : Journal
  annex : Annex
  deriving Inhabited

namespace State

/-- The storage of a freshly deployed registry. -/
def empty : State := default

end State

/-! ## Guards -/

namespace Control

/-- The check of every entry point that is the administrator's. -/
def requireAdmin (c : Control) (admin : Address) : Except Fault Unit := do
  let stored ← expect c.admin (.panic "not initialized")
  require (stored = admin) (.panic "unauthorized")

/-- `if is_paused(..) { panic!("contract is paused") }`. -/
def requireNotPaused (c : Control) : Except Fault Unit :=
  require (c.paused = false) (.panic "contract is paused")

/-- The check that a holder is not blacklisted. -/
def requireNotBlacklisted (c : Control) (holder : Address) : Except Fault Unit :=
  require (c.blacklist holder = none) (.contract .holderBlacklisted)

/-- `get_credential_cache_ttl`: 720 ledgers unless set. -/
def getCredentialCacheTtl (c : Control) : Nat := c.governanceCacheTtl.getD 720

@[simp] theorem requireAdmin_eq_ok {c : Control} {admin : Address} {u : Unit} :
    c.requireAdmin admin = .ok u ↔ c.admin = some admin := by
  simp [requireAdmin]

end Control

namespace State

variable (env : Env) (s : State)

/-- The token of an id, for the entry points that say `TokenNotFound`. -/
def getToken (tokenId : Nat) : Except Fault SoulboundToken :=
  expect (s.ledger.tokens tokenId) (.contract .tokenNotFound)

/-- The token of an id, for the entry points that `expect` it. -/
def expectToken (tokenId : Nat) : Except Fault SoulboundToken :=
  expect (s.ledger.tokens tokenId) (.panic "token not found")

/-- **The rules for the guards**, beside `ensures_steps`. -/
@[simp] theorem ensures_guards :
    (∀ {s : State} {tokenId : Nat} {Q : SoulboundToken → Prop}, Ensures (s.getToken tokenId) Q ↔
      ∀ token, s.ledger.tokens tokenId = some token → Q token) ∧
    (∀ {s : State} {tokenId : Nat} {Q : SoulboundToken → Prop}, Ensures (s.expectToken tokenId) Q ↔
      ∀ token, s.ledger.tokens tokenId = some token → Q token) ∧
    ∀ {bound n : Nat} {Q : Nat → Prop},
      Ensures (checkedSucc bound n) Q ↔ (n + 1 < bound → Q (n + 1)) :=
  ⟨ensures_expect, ensures_expect, ensures_checkedSucc⟩

/-- The stored address of the `quorum_proof` contract. -/
def expectQuorumProofId : Except Fault Address :=
  expect s.control.quorumProofId (.panic "not initialized")

/-! ## Journals -/

def recordNotification (holder : Address) (tokenId : Nat) (event : NotificationEvent) : State :=
  { s with journal := { s.journal with
    notificationHistory := Index.push s.journal.notificationHistory holder
      { tokenId := tokenId, event := event, timestamp := env.now } } }

def logSbtActivity (tokenId : Nat) (action : ActivityAction) (actor : Address) : State :=
  { s with journal := { s.journal with
    sbtActivityLog := Index.push s.journal.sbtActivityLog tokenId
      { action := action, actor := actor, timestamp := env.now } } }

def recordOwnershipHistory (tokenId : Nat) (owner : Address) (coOwner : Option Address)
    (event : OwnershipEvent) : State :=
  { s with journal := { s.journal with
    ownershipHistory := Index.push s.journal.ownershipHistory tokenId
      { owner := owner, coOwner := coOwner, changedAt := env.now, event := event } } }

end State

end QuorumProof.Sbt
