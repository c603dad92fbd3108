import QuorumProof.Lib.Guarded
import QuorumProof.Lib.Machine
import QuorumProof.Server.Strings

/-!
# Server/Bridge — anchors of foreign-chain events

The bridge stores an anchor under its transaction and, once it is confirmed, under its anchor id as
well.  `verifyAnchorReceiptProof` reads the anchor of an id and the header of its block, waits for
the receipt proof to be checked, and then marks what is stored under that id.  Everything else runs
to its end without waiting, so an interleaving is a list of events in which a verification is two:
it starts, and some time later it goes on.

Checking a Merkle-Patricia proof, decoding a log by the pinned ABI and recomputing the hash of a
header are libraries' work; a `Platform` is what the bridge relies on of them.

Source: `crossChainBridge.ts`, `bridgeStore.ts`, `blockHeaderStore.ts`, `ethAbi.ts`.
-/

namespace QuorumProof.Bridge

open Guarded Strings

/-! ## Records -/

inductive ProofType
  | groth16 | plonk | hashOnly
  deriving DecidableEq, Repr

structure ForeignChainEvent where
  chainId : Nat
  txHash : String
  blockNumber : Nat
  blockHash : String
  contractAddress : String
  blockTimestamp : Nat
  deriving DecidableEq, Repr

structure AnchorRecord where
  anchorId : Option Nat
  credentialId : Nat
  chainId : Nat
  chainName : String
  txHash : String
  proofHash : String
  proofType : ProofType
  anchoredAt : Nat
  verified : Bool
  foreignEvent : ForeignChainEvent
  deriving DecidableEq, Repr

structure AnchorRequest where
  credentialId : Nat
  foreignEvent : ForeignChainEvent
  proofType : Option ProofType

inductive FinalityMode
  | tag | confirmations | lightClient
  deriving DecidableEq, Repr

structure CheckpointedHeader where
  chainId : Nat
  blockNumber : Nat
  blockHash : String
  parentHash : String
  receiptsRoot : String
  timestamp : Nat
  finalityMode : FinalityMode
  checkpointedAt : Nat
  deriving DecidableEq, Repr

structure RawLog where
  address : String
  topics : List String
  data : String
  deriving DecidableEq, Repr

/-- `ReceiptProof`, with the logs of the claimed receipt. -/
structure ReceiptProof where
  txIndex : Nat
  logs : List RawLog
  proofNodes : List String
  deriving DecidableEq, Repr

/-- What `ethers` makes of a log of the pinned ABI. -/
structure ParsedLog where
  name : String
  credentialId : Nat
  holder : String
  issuer : String

/-- The kinds of `DecodedCredentialEvent`. -/
inductive CredentialEventType
  | credentialIssued | credentialRevoked
  deriving DecidableEq, Repr

structure DecodedCredentialEvent where
  type : CredentialEventType
  credentialId : String
  holder : Option String
  issuer : String

structure VerifyAnchorInput where
  anchorId : Nat
  logIndexInReceipt : Nat
  receiptProof : ReceiptProof

/-- What the bridge throws. -/
inductive BridgeError
  | plain (message : String)
  | anchorVerification (message : String)
  | receiptProof (message : String)
  | unrecognizedLog (message : String)
  | headerVerification (message : String)
  deriving DecidableEq, Repr

/-- The header that a relay submits, as far as it is kept. -/
structure CheckpointHeaderInput where
  chainId : Nat
  blockNumber : Nat
  hash : String
  parentHash : String
  receiptsRoot : String
  timestamp : Nat
  finalityMode : FinalityMode
  checkpointedAt : Nat

/-- What the bridge relies on. -/
structure Platform where
  sha256Hex : String → String
  /-- `verifyReceiptProof`: the proof is for the claimed receipt, under the root. -/
  verifyReceiptProof : String → ReceiptProof → Except String Unit
  parseLog : RawLog → Except String (Option ParsedLog)
  /-- The header is self-consistent and final. -/
  verifyHeader : CheckpointHeaderInput → Except String Unit

/-- `replace(/^0x/, '')`. -/
def stripHexPrefix (s : String) : String :=
  match s.toList with
  | '0' :: 'x' :: rest => String.ofList rest
  | _ => s

/-- `toLowerCase().replace(/^0x/, '')`. -/
def normalize (txHash : String) : String := stripHexPrefix (toLowerCase txHash)

/-! ## The store of anchors -/

/-- The keys of the store: `tx:` and `id:`. -/
inductive AnchorKey
  | tx (hash : String)
  | id (anchorId : Nat)
  deriving DecidableEq, Repr

abbrev BridgeStore := Store AnchorKey AnchorRecord

namespace BridgeStore

variable (store : BridgeStore)

def txKey (txHash : String) : AnchorKey := .tx (normalize txHash)

def getById (anchorId : Nat) : Option AnchorRecord := store (.id anchorId)

def prepare (record : AnchorRecord) : BridgeStore × AnchorRecord :=
  match store (txKey record.txHash) with
  | some existing => (store, existing)
  | none =>
    let full := { record with anchorId := none }
    (store.set (txKey record.txHash) full, full)

def confirm (txHash : String) (anchorId : Nat) : BridgeStore × Option AnchorRecord :=
  match store (txKey txHash) with
  | none => (store, none)
  | some record =>
    let updated := { record with anchorId := some anchorId }
    ((store.set (txKey txHash) updated).set (.id anchorId) updated, some updated)

def markVerified (anchorId : Nat) : BridgeStore × Option AnchorRecord :=
  match store (.id anchorId) with
  | none => (store, none)
  | some record =>
    let updated := { record with verified := true }
    let store := store.set (.id anchorId) updated
    (if updated.txHash = "" then store else store.set (txKey updated.txHash) updated,
      some updated)

end BridgeStore

/-! ## The store of headers -/

/-- The keys of the store. -/
inductive HeaderKey
  | hash (chainId : Nat) (blockHash : String)
  | number (chainId blockNumber : Nat)
  deriving DecidableEq, Repr

/-- `BlockHeaderStore`. -/
abbrev HeaderStore := Store HeaderKey CheckpointedHeader

namespace HeaderStore

def getByHash (headers : HeaderStore) (chainId : Nat) (blockHash : String) :
    Option CheckpointedHeader :=
  headers (.hash chainId (toLowerCase blockHash))

/-- A block that has been checkpointed does not change. -/
def checkHeight (headers : HeaderStore) (input : CheckpointHeaderInput) :
    Except BridgeError Unit :=
  match headers (.number input.chainId input.blockNumber) with
  | none => .ok ()
  | some existing =>
    let (chainId, blockNumber) := (input.chainId, input.blockNumber)
    let (known, claimed) := (existing.blockHash, input.hash)
    require (toLowerCase known = toLowerCase claimed) (.headerVerification
      (s!"Conflicting checkpoint for chain {chainId} block {blockNumber}: " ++
        s!"already checkpointed as {known}, now claimed as {claimed}. " ++
        "A \"finalized\" block should never change — refusing to overwrite."))

def checkpoint (p : Platform) (headers : HeaderStore) (input : CheckpointHeaderInput) :
    Except BridgeError (HeaderStore × CheckpointedHeader) := do
  (p.verifyHeader input).mapError .headerVerification
  headers.checkHeight input
  let record : CheckpointedHeader :=
    { chainId := input.chainId, blockNumber := input.blockNumber
      blockHash := toLowerCase input.hash, parentHash := toLowerCase input.parentHash
      receiptsRoot := toLowerCase input.receiptsRoot, timestamp := input.timestamp
      finalityMode := input.finalityMode, checkpointedAt := input.checkpointedAt }
  return ((headers.set (.hash input.chainId (toLowerCase input.hash)) record).set
    (.number input.chainId input.blockNumber) record, record)

end HeaderStore

/-! ## The bridge -/

def supportedChains : Nat → Option String
  | 1 => some "Ethereum Mainnet"
  | 5 => some "Ethereum Goerli"
  | 11155111 => some "Ethereum Sepolia"
  | 137 => some "Polygon Mainnet"
  | 80001 => some "Polygon Mumbai"
  | _ => none

variable (p : Platform) (store : BridgeStore)

def computeProofHash (event : ForeignChainEvent) : String :=
  let ⟨chainId, txHash, _, blockHash, contractAddress, _⟩ := event
  p.sha256Hex s!"{chainId}:{txHash}:{blockHash}:{contractAddress}"

def prepareAnchor (req : AnchorRequest) (now : Nat) :
    Except BridgeError (BridgeStore × AnchorRecord) := do
  let chainId := req.foreignEvent.chainId
  let name ← expect (supportedChains chainId) (.plain s!"Unsupported chain ID: {chainId}")
  let txHash := normalize req.foreignEvent.txHash
  return store.prepare
    { anchorId := none, credentialId := req.credentialId, chainId := chainId, chainName := name
      txHash := txHash, proofHash := computeProofHash p req.foreignEvent
      proofType := req.proofType.getD .hashOnly, anchoredAt := now, verified := false
      foreignEvent := { req.foreignEvent with txHash := txHash } }

def confirmAnchor (txHash : String) (anchorId : Nat) : BridgeStore :=
  (store.confirm txHash anchorId).1

def decodeCredentialLog (log : RawLog) : Except BridgeError DecodedCredentialEvent := do
  let parsed ← (p.parseLog log).mapError fun message =>
    .unrecognizedLog s!"Log does not decode against the pinned ABI: {message}"
  let parsed ← expect parsed
    (.unrecognizedLog "Log topic0 does not match any event in the pinned ABI")
  let name := parsed.name
  if name = "CredentialIssued" then
    return { type := .credentialIssued, credentialId := toString parsed.credentialId
             holder := some parsed.holder, issuer := parsed.issuer }
  else if name = "CredentialRevoked" then
    return { type := .credentialRevoked, credentialId := toString parsed.credentialId
             holder := none, issuer := parsed.issuer }
  else .error (.unrecognizedLog s!"Unhandled event name from ABI: {name}")

/-- A verification that waits for its receipt proof to be checked, with what it has read. -/
structure Verification where
  input : VerifyAnchorInput
  anchor : AnchorRecord
  header : CheckpointedHeader

/-- `verifyAnchorReceiptProof`, up to where it waits. -/
def beginVerification (headers : HeaderStore) (input : VerifyAnchorInput) :
    Except BridgeError Verification := do
  let anchorId := input.anchorId
  let anchor ← expect (store.getById anchorId) (.anchorVerification s!"Unknown anchor {anchorId}")
  let (chainId, blockHash) := (anchor.chainId, anchor.foreignEvent.blockHash)
  let header ← expect (headers.getByHash chainId blockHash) (.anchorVerification
    (s!"No checkpointed header for chain {chainId} block {blockHash}. " ++
      "Checkpoint the block header before verifying anchors against it."))
  require (header.blockNumber = anchor.foreignEvent.blockNumber) (.anchorVerification
    "Checkpointed header block number does not match the anchor's registered block number")
  return { input := input, anchor := anchor, header := header }

/-- What `verifyAnchorReceiptProof` checks of an anchor after waiting. -/
def checkReceipt (v : Verification) : Except BridgeError DecodedCredentialEvent := do
  (p.verifyReceiptProof v.header.receiptsRoot v.input.receiptProof).mapError .receiptProof
  let index := v.input.logIndexInReceipt
  let log ← expect v.input.receiptProof.logs[index]?
    (.anchorVerification s!"Receipt has no log at index {index}")
  let (emitter, contract) := (log.address, v.anchor.foreignEvent.contractAddress)
  require (toLowerCase emitter = toLowerCase contract) (.anchorVerification
    s!"Log emitter {emitter} does not match the anchor's registered contract {contract}")
  let decoded ← decodeCredentialLog p log
  let (found, registered) := (decoded.credentialId, toString v.anchor.credentialId)
  require (found = registered) (.anchorVerification
    s!"Decoded credentialId {found} does not match anchor's registered credentialId {registered}")
  return decoded

/-- `verifyAnchorReceiptProof`, from where it has waited. -/
def finishVerification (v : Verification) :
    Except BridgeError (BridgeStore × DecodedCredentialEvent) := do
  let decoded ← checkReceipt p v
  return ((store.markVerified v.input.anchorId).1, decoded)

/-! ## Interleavings -/

/-- The two stores, and the verifications that wait. -/
structure State where
  anchors : BridgeStore
  headers : HeaderStore
  waiting : List Verification

/-- What happens between two moments at which something waits. -/
inductive Event
  | prepareAnchor (req : AnchorRequest) (now : Nat)
  | confirmAnchor (txHash : String) (anchorId : Nat)
  /-- `verifyAnchorReceiptProof` is called. -/
  | verifyAnchor (input : VerifyAnchorInput)
  /-- One of the waiting verifications goes on. -/
  | resume (position : Nat)
  | checkpointHeader (input : CheckpointHeaderInput)

namespace State

def initial : State := { anchors := fun _ => none, headers := fun _ => none, waiting := [] }

/-- An event.  What throws changes nothing, apart from a verification's no longer waiting. -/
def next (p : Platform) (s : State) : Event → State
  | .prepareAnchor req now =>
    match Bridge.prepareAnchor p s.anchors req now with
    | .ok (anchors, _) => { s with anchors := anchors }
    | .error _ => s
  | .confirmAnchor txHash anchorId =>
    { s with anchors := Bridge.confirmAnchor s.anchors txHash anchorId }
  | .verifyAnchor input =>
    match beginVerification s.anchors s.headers input with
    | .ok v => { s with waiting := s.waiting ++ [v] }
    | .error _ => s
  | .resume position =>
    match s.waiting[position]? with
    | none => s
    | some v =>
      let s := { s with waiting := s.waiting.eraseIdx position }
      match finishVerification p s.anchors v with
      | .ok (anchors, _) => { s with anchors := anchors }
      | .error _ => s
  | .checkpointHeader input =>
    match s.headers.checkpoint p input with
    | .ok (headers, _) => { s with headers := headers }
    | .error _ => s

def after (p : Platform) (events : List Event) : State := Machine.run (next p) initial events

end State

end QuorumProof.Bridge
