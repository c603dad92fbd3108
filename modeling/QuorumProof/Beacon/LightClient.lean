import QuorumProof.Beacon.Ssz
import QuorumProof.Lib.Machine

/-!
# Beacon/LightClient — the sync-committee light client

The store holds, for each network, the last header it knows to be finalized, the committee of that
header's period and, once it is known, the next one.  `bootstrap` takes the first of these on faith;
`applyUpdate` checks an update against the store and advances it when a supermajority of the right
committee has signed.

A header's slot and proposer index are the `uint64` fields of an SSZ container; slots of any size
are compared as they are and hashed modulo `2 ^ 64`, as `packUint64` does it.

Source: `beaconLightClient.ts`, `beaconChainConfig.ts`.
-/

namespace QuorumProof.Beacon

open Guarded

/-! ## Networks -/

inductive BeaconNetwork
  | mainnet | sepolia
  deriving DecidableEq, Repr

/-- The name of a network. -/
def BeaconNetwork.name : BeaconNetwork → String
  | mainnet => "mainnet"
  | sepolia => "sepolia"

def elChainToBeaconNetwork (chainId : Nat) : Option BeaconNetwork :=
  if chainId = 1 then some .mainnet else if chainId = 11155111 then some .sepolia else none

structure ForkScheduleEntry where
  epoch : Nat
  version : Bytes
  deriving DecidableEq, Repr

structure BeaconNetworkConfig where
  genesisValidatorsRoot : Bytes
  forkSchedule : List ForkScheduleEntry
  electraForkEpoch : Nat
  genesisTime : Nat
  deriving DecidableEq, Repr

/-- `hexToBytes`, at a width. -/
def hexToBytes (width n : Nat) : Bytes := (LittleEndian.toBytes width n).reverse

def schedule (entries : List (Nat × Nat)) : List ForkScheduleEntry :=
  entries.map fun (epoch, version) => { epoch := epoch, version := hexToBytes 4 version }

/-- `MAINNET` and `SEPOLIA`. -/
def BeaconNetwork.config : BeaconNetwork → BeaconNetworkConfig
  | mainnet =>
    { genesisValidatorsRoot :=
        hexToBytes 32 0x4b363db94e286120d76eb905340fdd4e54bfe9f06bf33ff6cf5ad27f511bfe95
      forkSchedule := schedule [(0, 0x00000000), (74240, 0x01000000), (144896, 0x02000000),
        (194048, 0x03000000), (269568, 0x04000000), (364032, 0x05000000)]
      electraForkEpoch := 364032
      genesisTime := 1606824023 }
  | sepolia =>
    { genesisValidatorsRoot :=
        hexToBytes 32 0xd8ea171f3c94aea21ebc42a1ed61052acf3f9209c00e4efbaaddac09ed9b8078
      forkSchedule := schedule [(0, 0x90000069), (50, 0x90000070), (100, 0x90000071),
        (56832, 0x90000072), (132608, 0x90000073), (222464, 0x90000074)]
      electraForkEpoch := 222464
      genesisTime := 1655733600 }

/-- `beaconConfigForChain` and `networkNameForChain`: the first of them throws for both. -/
def networkForChain (chainId : Nat) : Except Thrown BeaconNetwork :=
  expect (elChainToBeaconNetwork chainId) (.error (
    s!"Chain {chainId} has no beacon-chain light client network mapping — either it has no " ++
      "beacon chain (e.g. Polygon), or support needs to be added in beaconChainConfig.ts"))

/-- The entry of the schedule that is active at an epoch; the walk stops at the first later one. -/
def activeFork (epoch : Nat) : ForkScheduleEntry → List ForkScheduleEntry → ForkScheduleEntry
  | active, [] => active
  | active, entry :: rest =>
    if entry.epoch ≤ epoch then activeFork epoch entry rest else active

/-- `computeForkVersion`; the pinned schedules are not empty. -/
def computeForkVersion (config : BeaconNetworkConfig) (epoch : Nat) : Bytes :=
  match config.forkSchedule with
  | [] => []
  | first :: rest => (activeFork epoch first (first :: rest)).version

/-- A time value: milliseconds since 1970, up to the last instant a date can name. -/
structure TimeValue where
  ms : Nat
  le_max : ms ≤ 8640000000000000

/-- `currentSlot`: before genesis it is 0. -/
def currentSlot (config : BeaconNetworkConfig) (now : TimeValue) : Nat :=
  (now.ms / 1000 - config.genesisTime) / 12

theorem currentSlot_lt (config : BeaconNetworkConfig) (now : TimeValue) :
    currentSlot config now < 2 ^ 64 := by
  have := now.le_max
  unfold currentSlot
  omega

/-! ## Records -/

structure BeaconBlockHeader where
  slot : Nat
  proposerIndex : Nat
  parentRoot : Bytes
  stateRoot : Bytes
  bodyRoot : Bytes
  deriving DecidableEq, Repr

structure LightClientHeader where
  beacon : BeaconBlockHeader
  deriving DecidableEq, Repr

structure SyncCommittee where
  pubkeys : List Bytes
  aggregatePubkey : Bytes
  deriving DecidableEq, Repr

structure SyncAggregate where
  syncCommitteeBits : List Bool
  syncCommitteeSignature : Bytes
  deriving DecidableEq, Repr

structure LightClientBootstrap where
  header : LightClientHeader
  currentSyncCommittee : SyncCommittee
  currentSyncCommitteeBranch : List Bytes
  deriving DecidableEq, Repr

structure LightClientUpdate where
  attestedHeader : LightClientHeader
  nextSyncCommittee : Option SyncCommittee
  nextSyncCommitteeBranch : Option (List Bytes)
  finalizedHeader : Option LightClientHeader
  finalityBranch : Option (List Bytes)
  syncAggregate : SyncAggregate
  signatureSlot : Nat
  deriving DecidableEq, Repr

structure StoredLightClientState where
  finalizedHeader : LightClientHeader
  currentSyncCommittee : SyncCommittee
  nextSyncCommittee : Option SyncCommittee
  deriving DecidableEq, Repr

/-- The log of the store, under a network's name. -/
abbrev LightClientStore := Store BeaconNetwork StoredLightClientState

def syncCommitteeSize : Nat := 512

def computeEpochAtSlot (slot : Nat) : Nat := slot / 32

def computeSyncCommitteePeriodAtSlot (slot : Nat) : Nat := computeEpochAtSlot slot / 256

theorem computeSyncCommitteePeriodAtSlot_mono {slot slot' : Nat} (h : slot ≤ slot') :
    computeSyncCommitteePeriodAtSlot slot ≤ computeSyncCommitteePeriodAtSlot slot' :=
  Nat.div_le_div_right (Nat.div_le_div_right h)

/-- An index in a state's tree, which Electra has rearranged. -/
def gindexAtSlot (altair electra : Nat) (config : BeaconNetworkConfig) (slot : Nat) : Nat :=
  if config.electraForkEpoch ≤ computeEpochAtSlot slot then electra else altair

def finalizedRootGindexAtSlot : BeaconNetworkConfig → Nat → Nat := gindexAtSlot 105 169

def currentSyncCommitteeGindexAtSlot : BeaconNetworkConfig → Nat → Nat := gindexAtSlot 54 86

def nextSyncCommitteeGindexAtSlot : BeaconNetworkConfig → Nat → Nat := gindexAtSlot 55 87

def emptyHeader : BeaconBlockHeader where
  slot := 0
  proposerIndex := 0
  parentRoot := zeroChunk
  stateRoot := zeroChunk
  bodyRoot := zeroChunk

/-- The chunks of a header. -/
def BeaconBlockHeader.chunks (header : BeaconBlockHeader) : List Bytes :=
  [packUint64 header.slot, packUint64 header.proposerIndex, header.parentRoot, header.stateRoot,
    header.bodyRoot]

namespace LightClientUpdate

variable (update : LightClientUpdate)

def attestedSlot : Nat := update.attestedHeader.beacon.slot

/-- `finalizedSlot`: the slot of genesis where there is no header. -/
def finalizedSlot : Nat := (update.finalizedHeader.map (·.beacon.slot)).getD 0

def participantCount : Nat := update.syncAggregate.syncCommitteeBits.count true

def hasNextSyncCommittee : Bool :=
  update.nextSyncCommittee.isSome && update.nextSyncCommitteeBranch.isSome

/-- `participantPubkeys`: the keys of a committee whose bit is set. -/
def participantPubkeys (committee : SyncCommittee) : List Bytes :=
  ((committee.pubkeys.zip update.syncAggregate.syncCommitteeBits).filter (·.2)).map (·.1)

end LightClientUpdate

namespace StoredLightClientState

variable (store : StoredLightClientState)

/-- The stored finalized slot. -/
def slot : Nat := store.finalizedHeader.beacon.slot

/-- `storePeriod`. -/
def period : Nat := computeSyncCommitteePeriodAtSlot store.slot

end StoredLightClientState

/-! ## Hash tree roots -/

namespace Crypto

variable (crypto : Crypto)

def hashTreeRootBeaconBlockHeader (header : BeaconBlockHeader) : Except Thrown Bytes :=
  crypto.merkleize header.chunks

def hashTreeRootSyncCommittee (committee : SyncCommittee) : Except Thrown Bytes := do
  require (committee.pubkeys.length = syncCommitteeSize)
    (.lightClient s!"SyncCommittee.pubkeys must have exactly {syncCommitteeSize} entries")
  let pubkeyRoots ← committee.pubkeys.mapM crypto.hashTreeRootBytes
  let pubkeysRoot ← crypto.merkleize pubkeyRoots
  let aggregateRoot ← crypto.hashTreeRootBytes committee.aggregatePubkey
  crypto.merkleize [pubkeysRoot, aggregateRoot]

def computeForkDataRoot (version genesisValidatorsRoot : Bytes) : Except Thrown Bytes :=
  crypto.merkleize [packBytes version, genesisValidatorsRoot]

def computeDomain (domainType forkVersion genesisValidatorsRoot : Bytes) :
    Except Thrown Bytes := do
  let forkDataRoot ← crypto.computeForkDataRoot forkVersion genesisValidatorsRoot
  return domainType ++ forkDataRoot.take 28

def computeSigningRoot (objectRoot domain : Bytes) : Except Thrown Bytes :=
  crypto.merkleize [objectRoot, domain]

variable (config : BeaconNetworkConfig) (store : StoredLightClientState)
  (update : LightClientUpdate)

/-- `signingRoot`: what the committee signs of an update. -/
def signingRoot : Except Thrown Bytes := do
  let forkVersionSlot := max update.signatureSlot 1 - 1
  let forkVersion := computeForkVersion config (computeEpochAtSlot forkVersionSlot)
  let domain ← crypto.computeDomain [7, 0, 0, 0] forkVersion config.genesisValidatorsRoot
  let headerRoot ← crypto.hashTreeRootBeaconBlockHeader update.attestedHeader.beacon
  crypto.computeSigningRoot headerRoot domain

def isEmptyLightClientHeader (header : Option LightClientHeader) : Except Thrown Bool :=
  match header with
  | none => .ok true
  | some header => do
    let root ← crypto.hashTreeRootBeaconBlockHeader header.beacon
    let emptyRoot ← crypto.hashTreeRootBeaconBlockHeader emptyHeader
    return decide (root = emptyRoot)

def fastAggregateVerify (pubkeys : List Bytes) (message signature : Bytes) : Bool :=
  if pubkeys = [] then false else crypto.verifyAggregate pubkeys message signature

/-! ## The store -/

def bootstrap (s : LightClientStore) (chainId : Nat) (trustedBlockRoot : Bytes)
    (bootstrap : LightClientBootstrap) : Except Thrown LightClientStore := do
  let network ← networkForChain chainId
  let header := bootstrap.header.beacon
  let headerRoot ← crypto.hashTreeRootBeaconBlockHeader header
  require (headerRoot = trustedBlockRoot)
    (.lightClient "Bootstrap header does not hash to the trusted checkpoint block root")
  let committeeRoot ← crypto.hashTreeRootSyncCommittee bootstrap.currentSyncCommittee
  let gindex := currentSyncCommitteeGindexAtSlot network.config header.slot
  require (crypto.verifyMerkleBranch committeeRoot bootstrap.currentSyncCommitteeBranch gindex
      header.stateRoot = true)
    (.lightClient ("current_sync_committee Merkle branch does not verify against the bootstrap " ++
      "header's state root"))
  return s.set network
    { finalizedHeader := bootstrap.header
      currentSyncCommittee := bootstrap.currentSyncCommittee
      nextSyncCommittee := none }

def isFinalityUpdate : Except Thrown Bool :=
  if update.finalizedHeader.isSome && update.finalityBranch.isSome then
    (!·) <$> crypto.isEmptyLightClientHeader update.finalizedHeader
  else .ok false

/-- The check of the slots: now, signed, attested and finalized, in this order. -/
def checkSlots (now : TimeValue) : Except Thrown Unit :=
  let nowSlot := currentSlot config now
  let signatureSlot := update.signatureSlot
  let attestedSlot := update.attestedSlot
  let finalizedSlot := update.finalizedSlot
  require (signatureSlot ≤ nowSlot ∧ attestedSlot < signatureSlot ∧ finalizedSlot ≤ attestedSlot)
    (.lightClient (s!"Update slot ordering invalid: expected current({nowSlot}) >= " ++
      s!"signature({signatureSlot}) > attested({attestedSlot}) >= finalized({finalizedSlot})"))

/-- The check of the period an update is signed in. -/
def checkSignaturePeriod : Except Thrown Unit :=
  let storePeriod := store.period
  let signaturePeriod := computeSyncCommitteePeriodAtSlot update.signatureSlot
  if store.nextSyncCommittee.isSome then
    require (signaturePeriod = storePeriod ∨ signaturePeriod = storePeriod + 1)
      (.lightClient (s!"Update signature period {signaturePeriod} skips a sync committee period " ++
        s!"(store is at {storePeriod})"))
  else
    require (signaturePeriod = storePeriod)
      (.lightClient (s!"Update signature period {signaturePeriod} does not match store period " ++
        s!"{storePeriod} (next committee unknown)"))

/-- The check that an update has something new. -/
def checkRelevance : Except Thrown Unit :=
  require (store.slot < update.attestedSlot ∨
      (store.nextSyncCommittee = none ∧ update.hasNextSyncCommittee = true ∧
        computeSyncCommitteePeriodAtSlot update.attestedSlot = store.period))
    (.lightClient ("Update is not relevant: attested header is not newer and carries no new " ++
      "next_sync_committee"))

/-- The check of the finalized header's branch, where there is one; the root at genesis is zero. -/
def checkFinality (isFinalityUpdate : Bool) : Except Thrown Unit :=
  match isFinalityUpdate, update.finalizedHeader, update.finalityBranch with
  | true, some header, some branch => do
    let finalizedRoot ←
      if update.finalizedSlot = 0 then .ok zeroChunk
      else crypto.hashTreeRootBeaconBlockHeader header.beacon
    let gindex := finalizedRootGindexAtSlot config update.attestedSlot
    require (crypto.verifyMerkleBranch finalizedRoot branch gindex
        update.attestedHeader.beacon.stateRoot = true)
      (.lightClient "finality_branch does not verify against the attested header's state root")
  | _, _, _ => .ok ()

/-- The check of a next committee against the one that is known for the same period. -/
def checkKnownCommittee (committee : SyncCommittee) : Except Thrown Unit :=
  match store.nextSyncCommittee with
  | some known =>
    if computeSyncCommitteePeriodAtSlot update.attestedSlot = store.period then do
      let root ← crypto.hashTreeRootSyncCommittee committee
      let knownRoot ← crypto.hashTreeRootSyncCommittee known
      require (root = knownRoot)
        (.lightClient ("next_sync_committee conflicts with the already-known committee for " ++
          "this period"))
    else .ok ()
  | none => .ok ()

/-- The check of the next committee, where there is one. -/
def checkNextSyncCommittee : Except Thrown Unit :=
  match update.nextSyncCommittee, update.nextSyncCommitteeBranch with
  | some committee, some branch => do
    crypto.checkKnownCommittee store update committee
    let root ← crypto.hashTreeRootSyncCommittee committee
    let gindex := nextSyncCommitteeGindexAtSlot config update.attestedSlot
    require (crypto.verifyMerkleBranch root branch gindex
        update.attestedHeader.beacon.stateRoot = true)
      (.lightClient ("next_sync_committee Merkle branch does not verify against the attested " ++
        "header's state root"))
  | _, _ => .ok ()

def signingCommittee : Option SyncCommittee :=
  if computeSyncCommitteePeriodAtSlot update.signatureSlot = store.period then
    some store.currentSyncCommittee
  else store.nextSyncCommittee

/-- The check of the signature. -/
def checkSignature : Except Thrown Unit := do
  let committee ← expect (signingCommittee store update)
    (.lightClient "No sync committee known for the update's signature period")
  let signingRoot ← crypto.signingRoot config update
  require (crypto.fastAggregateVerify (update.participantPubkeys committee) signingRoot
      update.syncAggregate.syncCommitteeSignature = true)
    (.lightClient "Sync committee aggregate signature does not verify")

end Crypto

namespace StoredLightClientState

def shouldApply (store : StoredLightClientState) (update : LightClientUpdate)
    (isFinalityUpdate : Bool) : Prop :=
  syncCommitteeSize * 2 ≤ update.participantCount * 3 ∧
    (store.slot < update.finalizedSlot ∨
      (store.nextSyncCommittee = none ∧ update.hasNextSyncCommittee = true ∧
        isFinalityUpdate = true ∧
        computeSyncCommitteePeriodAtSlot update.finalizedSlot =
          computeSyncCommitteePeriodAtSlot update.attestedSlot))
  deriving Decidable

/-- The committees after an update. -/
def rotate (store : StoredLightClientState) (update : LightClientUpdate) :
    StoredLightClientState :=
  let updateFinalizedPeriod := computeSyncCommitteePeriodAtSlot update.finalizedSlot
  match store.nextSyncCommittee with
  | none =>
    if updateFinalizedPeriod = store.period then
      { store with nextSyncCommittee := update.nextSyncCommittee }
    else store
  | some known =>
    if updateFinalizedPeriod = store.period + 1 then
      { store with currentSyncCommittee := known, nextSyncCommittee := update.nextSyncCommittee }
    else store

/-- What an update that is applied leaves.  A finalized slot past the stored one is a header's. -/
def advance (store : StoredLightClientState) (update : LightClientUpdate) :
    StoredLightClientState :=
  if store.slot < update.finalizedSlot then
    { store.rotate update with
      finalizedHeader := update.finalizedHeader.getD store.finalizedHeader }
  else store.rotate update

end StoredLightClientState

/-- `applyUpdate`: the header it returns, and the store it leaves. -/
def Crypto.applyUpdate (crypto : Crypto) (s : LightClientStore) (chainId : Nat)
    (update : LightClientUpdate) (now : TimeValue) :
    Except Thrown (LightClientStore × LightClientHeader) := do
  let network ← networkForChain chainId
  let config := network.config
  let name := network.name
  let store ← expect (s network) (.lightClient
    s!"No bootstrap state for {name} — call bootstrap() before applyUpdate()")
  require (1 ≤ update.participantCount) (.lightClient "sync committee has zero participants")
  checkSlots config update now
  checkSignaturePeriod store update
  checkRelevance store update
  let isFinalityUpdate ← crypto.isFinalityUpdate update
  crypto.checkFinality config update isFinalityUpdate
  crypto.checkNextSyncCommittee config store update
  crypto.checkSignature config store update
  if store.shouldApply update isFinalityUpdate then
    let next := store.advance update
    return (s.set network next, next.finalizedHeader)
  else return (s, store.finalizedHeader)

/-! ## Runs -/

/-- A call of `applyUpdate`. -/
structure UpdateCall where
  chainId : Nat
  update : LightClientUpdate
  now : TimeValue

/-- What a call leaves: one that throws leaves the store as it was. -/
def Crypto.next (crypto : Crypto) (s : LightClientStore) (call : UpdateCall) : LightClientStore :=
  match crypto.applyUpdate s call.chainId call.update call.now with
  | .ok (s', _) => s'
  | .error _ => s

/-- What a run of calls leaves. -/
def Crypto.after (crypto : Crypto) (s : LightClientStore) (calls : List UpdateCall) :
    LightClientStore :=
  Machine.run crypto.next s calls

end QuorumProof.Beacon
