import Mathlib.Data.List.Infix
import QuorumProof.Server.Bridge

/-!
# Server/AnchorChecks — what a verified anchor has been checked for

The record of a transaction never changes but for its anchor id and its mark, and what is stored
under an anchor id is a copy of it; what a verification has read is such a copy too.  So what it
marks in the end is what it has checked, as long as the id has not been given to another transaction
while it waited.
-/

namespace QuorumProof.Bridge

open Guarded Strings

/-- What an anchor claims: all of it but its anchor id and its mark. -/
def AnchorRecord.claim (record : AnchorRecord) : AnchorRecord :=
  { record with anchorId := none, verified := false }

/-- **What a verification has established of an anchor**: the block number of the header, the proof
under its receipts root, and a log of the receipt that the anchor's contract has emitted and that
decodes to its credential. -/
structure Establishes (p : Platform) (v : Verification) (record : AnchorRecord) : Prop where
  blockNumber : v.header.blockNumber = record.foreignEvent.blockNumber
  proof : p.verifyReceiptProof v.header.receiptsRoot v.input.receiptProof = .ok ()
  log : ∃ log decoded, v.input.receiptProof.logs[v.input.logIndexInReceipt]? = some log ∧
    toLowerCase log.address = toLowerCase record.foreignEvent.contractAddress ∧
    decodeCredentialLog p log = .ok decoded ∧ decoded.credentialId = toString record.credentialId

theorem checkReceipt_establishes {p : Platform} {v : Verification}
    (hnumber : v.header.blockNumber = v.anchor.foreignEvent.blockNumber) :
    Ensures (checkReceipt p v) fun _ => Establishes p v v.anchor := by
  simp only [checkReceipt, ensures_steps, require_eq_ok, mapError_eq_ok]
  intro hproof log hlog haddress decoded hdecoded hcredential
  exact ⟨hnumber, hproof, log, decoded, hlog, haddress, hdecoded, hcredential⟩

variable {record record' original : AnchorRecord} {anchorId : Nat}

/-- What has been established of an anchor is established of one with the same claim. -/
theorem Establishes.of_claim {p : Platform} {v : Verification} (h : Establishes p v record)
    (hclaim : record'.claim = record.claim) : Establishes p v record' := by
  have hevent : record'.foreignEvent = record.foreignEvent := congrArg (·.foreignEvent) hclaim
  have hcredential : record'.credentialId = record.credentialId :=
    congrArg (·.credentialId) hclaim
  exact ⟨hevent ▸ h.blockNumber, h.proof, hevent ▸ hcredential ▸ h.log⟩

/-! ## The store of anchors -/

namespace BridgeStore

variable {store store' : BridgeStore}

/-- **Anchors are stored under their transaction, and copied under their anchor id.** -/
structure Kept (store : BridgeStore) : Prop where
  keyed : ∀ hash record, store (.tx hash) = some record → normalize record.txHash = hash
  copied : ∀ anchorId record, store (.id anchorId) = some record →
    ∃ original, store (txKey record.txHash) = some original ∧ original.claim = record.claim

/-- A record is written, under its transaction or an anchor id or both; what is stored under its
transaction before and after has its claim. -/
structure Puts (store store' : BridgeStore) (anchorId : Option Nat)
    (record : AnchorRecord) : Prop where
  id : ∀ id, store' (.id id) = if anchorId = some id then some record else store (.id id)
  tx : ∀ hash, store' (.tx hash) = store (.tx hash) ∨
    normalize record.txHash = hash ∧ store' (.tx hash) = some record
  before : ∀ original, store (txKey record.txHash) = some original →
    original.claim = record.claim
  after : ∃ original, store' (txKey record.txHash) = some original ∧
    original.claim = record.claim

variable {given : Option Nat}

/-- A write keeps every claim. -/
theorem Puts.claim (h : Puts store store' given record) {hash : String} {old : AnchorRecord}
    (hold : store (.tx hash) = some old) :
    ∃ new, store' (.tx hash) = some new ∧ new.claim = old.claim := by
  rcases h.tx hash with hsame | ⟨rfl, hnew⟩
  · exact ⟨old, hsame.trans hold, rfl⟩
  · exact ⟨record, hnew, (h.before old hold).symm⟩

theorem Puts.kept (h : Puts store store' given record) (hkept : Kept store) :
    Kept store' where
  keyed hash stored hstored := by
    rcases h.tx hash with hsame | ⟨rfl, hnew⟩
    · exact hkept.keyed hash stored (hsame.symm.trans hstored)
    · rw [Option.mem_unique hstored hnew]
  copied other stored hstored := by
    rw [h.id] at hstored
    split at hstored
    next =>
      obtain rfl := Option.some.inj hstored
      exact h.after
    next =>
      obtain ⟨old, hold, holdClaim⟩ := hkept.copied other stored hstored
      obtain ⟨new, hnew, hnewClaim⟩ := h.claim hold
      exact ⟨new, hnew, hnewClaim.trans holdClaim⟩

/-- What is stored after a write was stored before, or is what has been written. -/
theorem Puts.stored (h : Puts store store' given record) {key : AnchorKey}
    {stored : AnchorRecord} (hstored : store' key = some stored) :
    store key = some stored ∨ stored = record := by
  cases key with
  | tx hash =>
    rcases h.tx hash with hold | ⟨-, hnew⟩
    · exact .inl (hold.symm.trans hstored)
    · exact .inr (Option.mem_unique hstored hnew)
  | id other =>
    rw [h.id] at hstored
    split at hstored
    next => exact .inr (Option.some.inj hstored).symm
    next => exact .inl hstored

/-- `prepare` writes an anchor whose transaction has none. -/
theorem prepare_cases (store : BridgeStore) (record : AnchorRecord) :
    (store.prepare record).1 = store ∨
      Puts store (store.prepare record).1 none { record with anchorId := none } := by
  unfold prepare
  cases hnone : store (txKey record.txHash) with
  | some existing => exact .inl rfl
  | none =>
    refine .inr ⟨fun id => ?_, fun hash => ?_, fun original horiginal => ?_, ?_⟩
    · simp [txKey, Store.set_apply]
    · dsimp only
      rw [Store.set_apply]
      split
      next heq => exact .inr ⟨(AnchorKey.tx.inj heq).symm, rfl⟩
      next => exact .inl rfl
    · cases hnone.symm.trans horiginal
    · dsimp only
      exact ⟨_, Store.set_self _ _ _, rfl⟩

/-- `confirm` gives an anchor another id, if there is one. -/
theorem confirm_cases (hkept : Kept store) (txHash : String) (anchorId : Nat) :
    (store (txKey txHash) = none ∧ (store.confirm txHash anchorId).1 = store) ∨
    ∃ original, store (txKey txHash) = some original ∧
      Puts store (store.confirm txHash anchorId).1 (some anchorId)
        { original with anchorId := some anchorId } := by
  unfold confirm
  cases horiginal : store (txKey txHash) with
  | none => exact .inl ⟨rfl, rfl⟩
  | some original =>
    have hhash : normalize original.txHash = normalize txHash := hkept.keyed _ _ horiginal
    have hkey : txKey original.txHash = txKey txHash := congrArg AnchorKey.tx hhash
    refine .inr ⟨original, rfl, fun other => ?_, fun hash => ?_, fun old hold => ?_, ?_⟩
    · simp only [Store.set_apply, txKey, AnchorKey.id.injEq, reduceCtorEq, if_false,
        Option.some.injEq, @eq_comm _ other]
    · dsimp only
      rw [Store.set_of_ne (by simp), Store.set_apply]
      split
      next heq => exact .inr ⟨hhash.trans (AnchorKey.tx.inj heq).symm, rfl⟩
      next => exact .inl rfl
    · rw [hkey, horiginal] at hold
      rw [← Option.some.inj hold]
      rfl
    · refine ⟨_, ?_, rfl⟩
      dsimp only
      rw [Store.set_of_ne (by simp [txKey]), hkey, Store.set_self]

/-- `markVerified` marks what is stored under the anchor id. -/
theorem markVerified_puts (hkept : Kept store) (hrecord : store (.id anchorId) = some record) :
    Puts store (store.markVerified anchorId).1 (some anchorId)
      { record with verified := true } := by
  obtain ⟨original, horiginal, hclaim⟩ := hkept.copied anchorId record hrecord
  simp only [markVerified, hrecord]
  refine ⟨fun other => ?_, fun hash => ?_, fun old hold => ?_, ?_⟩
  · split <;> simp only [Store.set_apply, txKey, AnchorKey.id.injEq, reduceCtorEq, if_false,
      Option.some.injEq, @eq_comm _ other]
  · split
    next => exact .inl (Store.set_of_ne (by simp))
    next =>
      rw [Store.set_apply, Store.set_of_ne (by simp)]
      split
      next heq => exact .inr ⟨(AnchorKey.tx.inj heq).symm, rfl⟩
      next => exact .inl rfl
  · exact Option.mem_unique hold horiginal ▸ hclaim
  · split
    next => exact ⟨original, (Store.set_of_ne (by simp [txKey])).trans horiginal, hclaim⟩
    next => exact ⟨_, Store.set_self _ _ _, rfl⟩

end BridgeStore

/-! ## Interleavings -/

namespace State

variable {p : Platform} {events : List Event}

/-- A header has been the checkpointed one of an anchor's block. -/
def Checkpointed (p : Platform) (events : List Event) (record : AnchorRecord)
    (header : CheckpointedHeader) : Prop :=
  ∃ start, start <+: events ∧
    (after p start).headers.getByHash record.chainId record.foreignEvent.blockHash = some header

/-- **An anchor has been checked**: a verification has gone on that had read the checkpointed header
of the anchor's block, and has established what the anchor claims. -/
def Checked (p : Platform) (events : List Event) (record : AnchorRecord) : Prop :=
  ∃ before position rest v, events = before ++ .resume position :: rest ∧
    (after p before).waiting[position]? = some v ∧
    Checkpointed p before record v.header ∧ Establishes p v record

variable {record : AnchorRecord} {s : State}

theorem Checkpointed.of_claim {header : CheckpointedHeader}
    (h : Checkpointed p events record header) (hclaim : record'.claim = record.claim) :
    Checkpointed p events record' header := by
  have hevent : record'.foreignEvent = record.foreignEvent := congrArg (·.foreignEvent) hclaim
  have hchain : record'.chainId = record.chainId := congrArg (·.chainId) hclaim
  rw [Checkpointed, hevent, hchain]
  exact h

theorem Checkpointed.append {header : CheckpointedHeader} (h : Checkpointed p events record header)
    (e : Event) : Checkpointed p (events ++ [e]) record header := by
  obtain ⟨start, hstart, hheader⟩ := h
  exact ⟨start, hstart.trans (List.prefix_append events [e]), hheader⟩

theorem Checked.of_claim (h : Checked p events record) (hclaim : record'.claim = record.claim) :
    Checked p events record' := by
  obtain ⟨before, position, rest, v, hevents, hv, hheader, hestablishes⟩ := h
  exact ⟨before, position, rest, v, hevents, hv, hheader.of_claim hclaim,
    hestablishes.of_claim hclaim⟩

theorem Checked.append (h : Checked p events record) (e : Event) :
    Checked p (events ++ [e]) record := by
  obtain ⟨before, position, rest, v, hevents, hv, hchecked⟩ := h
  exact ⟨before, position, rest ++ [e], v, by simp [hevents], hv, hchecked⟩

/-- What is known of a verification while it waits: what it has read of the anchor is still what is
stored under its id. -/
structure Waits (p : Platform) (events : List Event) (anchors : BridgeStore) (v : Verification) :
    Prop where
  stored : ∃ record, anchors (.id v.input.anchorId) = some record ∧ record.claim = v.anchor.claim
  blockNumber : v.header.blockNumber = v.anchor.foreignEvent.blockNumber
  header : Checkpointed p events v.anchor v.header

/-- **What holds between any two events.** -/
structure Consistent (p : Platform) (events : List Event) (s : State) : Prop where
  kept : s.anchors.Kept
  waiting : ∀ v ∈ s.waiting, Waits p events s.anchors v
  checked : ∀ key record, s.anchors key = some record → record.verified = true →
    Checked p events record

theorem consistent_initial : Consistent p [] initial where
  kept := ⟨nofun, nofun⟩
  waiting := nofun
  checked := nofun

/-- An event that leaves the anchors alone, and starts nothing. -/
theorem Consistent.same {s' : State} (h : Consistent p events s) (e : Event)
    (hanchors : s'.anchors = s.anchors) (hwaiting : ∀ v ∈ s'.waiting, v ∈ s.waiting) :
    Consistent p (events ++ [e]) s' where
  kept := hanchors ▸ h.kept
  waiting v hv :=
    let hwaits := h.waiting v (hwaiting v hv)
    ⟨hanchors ▸ hwaits.stored, hwaits.blockNumber, hwaits.header.append e⟩
  checked key record hrecord hverified :=
    (h.checked key record (hanchors ▸ hrecord) hverified).append e

/-- An event that writes an anchor. -/
theorem Consistent.puts {s' : State} {given : Option Nat} (h : Consistent p events s) (e : Event)
    (hputs : BridgeStore.Puts s.anchors s'.anchors given record)
    (hwaiting : ∀ v ∈ s'.waiting, v ∈ s.waiting)
    (hsame : ∀ v ∈ s'.waiting, given = some v.input.anchorId → record.claim = v.anchor.claim)
    (hchecked : record.verified = true → Checked p (events ++ [e]) record) :
    Consistent p (events ++ [e]) s' where
  kept := hputs.kept h.kept
  waiting v hv := by
    have hwaits := h.waiting v (hwaiting v hv)
    refine ⟨?_, hwaits.blockNumber, hwaits.header.append e⟩
    rw [hputs.id]
    split
    next hid => exact ⟨record, rfl, hsame v hv hid⟩
    next => exact hwaits.stored
  checked key stored hstored hverified := by
    rcases hputs.stored hstored with hold | rfl
    · exact (h.checked key stored hold hverified).append e
    · exact hchecked hverified

/-- `prepareAnchor` stores an anchor that is new, and not marked. -/
theorem Consistent.prepareAnchor (h : Consistent p events s) (req : AnchorRequest) (now : Nat) :
    Consistent p (events ++ [.prepareAnchor req now])
      (next p s (.prepareAnchor req now)) := by
  cases hresult : Bridge.prepareAnchor p s.anchors req now with
  | error e => simpa only [next, hresult] using h.same _ rfl fun _ => id
  | ok result =>
    simp only [next, hresult]
    simp only [Bridge.prepareAnchor, bind_eq_ok, expect_eq_ok, pure_eq_ok] at hresult
    obtain ⟨name, -, rfl⟩ := hresult
    rcases BridgeStore.prepare_cases s.anchors _ with hsame | hputs
    · exact h.same _ hsame fun _ => id
    · exact h.puts _ hputs (fun _ => id) (fun _ _ hid => absurd hid.symm (Option.some_ne_none _))
        fun hverified => absurd hverified Bool.false_ne_true

/-- **While a verification of an anchor id waits, the id is given to no other transaction.** -/
def Undisturbed (s : State) : Event → Prop
  | .confirmAnchor txHash anchorId =>
    ∀ v ∈ s.waiting, v.input.anchorId = anchorId →
      (s.anchors (BridgeStore.txKey txHash)).isSome →
        normalize txHash = normalize v.anchor.txHash
  | _ => True

instance (s : State) (e : Event) : Decidable (Undisturbed s e) := by
  unfold Undisturbed
  split <;> infer_instance

theorem Consistent.confirmAnchor (h : Consistent p events s) {txHash : String}
    (hundisturbed : Undisturbed s (.confirmAnchor txHash anchorId)) :
    Consistent p (events ++ [.confirmAnchor txHash anchorId])
      (next p s (.confirmAnchor txHash anchorId)) := by
  rcases BridgeStore.confirm_cases h.kept txHash anchorId with
    ⟨-, hsame⟩ | ⟨original, horiginal, hputs⟩
  · exact h.same _ hsame fun _ => id
  · refine h.puts _ hputs (fun _ => id) (fun v hv hid => ?_) fun hverified =>
      ((h.checked _ original horiginal hverified).append _).of_claim rfl
    -- The id was that of the transaction that is confirmed once more.
    obtain ⟨stored, hstored, hclaim⟩ := (h.waiting v hv).stored
    obtain ⟨copied, hcopied, hcopiedClaim⟩ := h.kept.copied _ stored hstored
    have hhash : stored.txHash = v.anchor.txHash := congrArg (·.txHash) hclaim
    have hsame : normalize txHash = normalize v.anchor.txHash :=
      hundisturbed v hv (Option.some.inj hid).symm (by simp [horiginal])
    rw [BridgeStore.txKey, hhash, ← hsame] at hcopied
    rw [Option.mem_unique horiginal hcopied]
    exact hcopiedClaim.trans hclaim

theorem Consistent.verifyAnchor (h : Consistent p events (after p events))
    (input : VerifyAnchorInput) : Consistent p (events ++ [.verifyAnchor input])
      (next p (after p events) (.verifyAnchor input)) := by
  cases hresult : beginVerification (after p events).anchors (after p events).headers input with
  | error e => simpa only [next, hresult] using h.same _ rfl fun _ => id
  | ok v =>
    simp only [next, hresult]
    simp only [beginVerification, bind_eq_ok, expect_eq_ok, require_eq_ok, pure_eq_ok] at hresult
    obtain ⟨anchor, hanchor, header, hheader, -, hnumber, rfl⟩ := hresult
    have hsame : Consistent p (events ++ [.verifyAnchor input]) (after p events) :=
      h.same _ rfl fun _ => id
    refine ⟨hsame.kept, fun v' hv' => ?_, hsame.checked⟩
    rcases List.mem_append.mp hv' with hv' | hv'
    · exact hsame.waiting v' hv'
    · rw [List.mem_singleton.mp hv']
      exact ⟨⟨anchor, hanchor, rfl⟩, hnumber, events, List.prefix_append _ _, hheader⟩

theorem Consistent.resume (h : Consistent p events (after p events)) (position : Nat) :
    Consistent p (events ++ [.resume position]) (next p (after p events) (.resume position)) := by
  cases hv : (after p events).waiting[position]? with
  | none => simpa only [next, hv] using h.same _ rfl fun _ => id
  | some v =>
    have herase : ∀ v' ∈ (after p events).waiting.eraseIdx position,
        v' ∈ (after p events).waiting := fun _ => List.mem_of_mem_eraseIdx
    have hwaits := h.waiting v (List.mem_of_getElem? hv)
    cases hresult : checkReceipt p v with
    | error e =>
      simp only [next, hv, finishVerification, hresult]
      exact h.same _ rfl herase
    | ok decoded =>
      have hestablishes := checkReceipt_establishes hwaits.blockNumber decoded hresult
      obtain ⟨record, hrecord, hclaim⟩ := hwaits.stored
      simp only [next, hv, finishVerification, hresult]
      refine h.puts _ (BridgeStore.markVerified_puts h.kept hrecord) herase
        (fun v' hv' hid => ?_) fun _ => ?_
      · obtain ⟨other, hother, hotherClaim⟩ := (h.waiting v' (herase v' hv')).stored
        rw [← Option.some.inj hid, hrecord] at hother
        rw [← hotherClaim, ← Option.some.inj hother]
        rfl
      · exact ⟨events, position, [], v, rfl, hv, hwaits.header.of_claim hclaim,
          hestablishes.of_claim hclaim⟩

theorem Consistent.step (h : Consistent p events (after p events)) {e : Event}
    (hundisturbed : Undisturbed (after p events) e) :
    Consistent p (events ++ [e]) (next p (after p events) e) := by
  cases e with
  | prepareAnchor req now => exact h.prepareAnchor req now
  | confirmAnchor txHash anchorId => exact h.confirmAnchor hundisturbed
  | verifyAnchor input => exact h.verifyAnchor input
  | resume position => exact h.resume position
  | checkpointHeader input =>
    refine h.same _ ?_ ?_
    · rw [next]
      split <;> rfl
    · rw [next]
      split <;> exact fun _ => id

/-- **Every anchor that is marked as verified has been checked**, whatever runs between a
verification's start and its end, unless its anchor id is given away meanwhile. -/
theorem verified_checked {events : List Event}
    (hundisturbed : Machine.Along (next p) Undisturbed initial events) (key : AnchorKey)
    (record : AnchorRecord) (hrecord : (after p events).anchors key = some record)
    (hverified : record.verified = true) : Checked p events record :=
  (hundisturbed.history (I := Consistent p) consistent_initial
    fun _ _ h he => Consistent.step h he).checked key record hrecord hverified

namespace Sample

/-- A log is of the first credential or of none, and a receipt is proved by its root. -/
def platform : Platform where
  sha256Hex s := s
  verifyReceiptProof root proof :=
    if proof.proofNodes = [root] then .ok () else .error "invalid Merkle proof"
  parseLog log :=
    .ok (if log.data = "1" then some ⟨"CredentialIssued", 1, "holder", "issuer"⟩ else none)
  verifyHeader _ := .ok ()

/-- The anchors of two credentials, of blocks 100 and 200. -/
def prepared : List Event :=
  [.prepareAnchor ⟨1, ⟨1, "0xaa", 100, "0x100", "0xcc", 5⟩, none⟩ 10,
   .prepareAnchor ⟨2, ⟨1, "0xbb", 200, "0x200", "0xdd", 6⟩, none⟩ 11]

/-- The first is confirmed, its block is checkpointed, and its verification starts. -/
def started : List Event :=
  prepared ++ [.confirmAnchor "0xaa" 7,
    .checkpointHeader ⟨1, 100, "0x100", "0x99", "root", 5, .tag, 12⟩,
    .verifyAnchor ⟨7, 0, ⟨0, [⟨"0xcc", [], "1"⟩], ["root"]⟩⟩]

/-- The second is confirmed before the verification of the first goes on. -/
def finished (anchorId : Nat) : List Event :=
  started ++ [.confirmAnchor "0xbb" anchorId, .resume 0]

/-- The anchor of the first credential, once it is verified. -/
def first : AnchorRecord :=
  ⟨some 7, 1, 1, "Ethereum Mainnet", "aa", "1:0xaa:0x100:0xcc", .hashOnly, 10, true,
    ⟨1, "aa", 100, "0x100", "0xcc", 5⟩⟩

/-- The anchor of the second credential, under the anchor id of the first. -/
def second : AnchorRecord :=
  ⟨some 7, 2, 1, "Ethereum Mainnet", "bb", "1:0xbb:0x200:0xdd", .hashOnly, 11, true,
    ⟨1, "bb", 200, "0x200", "0xdd", 6⟩⟩

end Sample

open State.Sample in
theorem verified_checked_interleaved :
    Machine.Along (next platform) Undisturbed initial (finished 8) ∧
    (after platform (finished 8)).anchors (.id 7) = some first ∧
    Checked platform (finished 8) first :=
  ⟨by decide +kernel, by decide +kernel,
    verified_checked (by decide +kernel) (.id 7) first (by decide +kernel) rfl⟩

open State.Sample in
/-- **An anchor that nothing has checked may be marked as verified**: the second anchor is confirmed
with the id of the first while that one's verification waits.  The block of the second has never
been checkpointed. -/
theorem not_verified_checked :
    ¬ ∀ (p : Platform) (events : List Event) (key : AnchorKey) (record : AnchorRecord),
      (after p events).anchors key = some record → record.verified = true →
        Checked p events record := by
  intro h
  have hsecond : (after platform (finished 7)).anchors (.id 7) = some second := by
    decide +kernel
  obtain ⟨before, position, rest, v, hevents, -, ⟨start, hstart, hheader⟩, -⟩ :=
    h platform _ _ second hsecond rfl
  have hnone : ∀ start ∈ (finished 7).inits,
      (after platform start).headers.getByHash second.chainId
        second.foreignEvent.blockHash = none := by decide +kernel
  have hprefix : start <+: finished 7 := hevents ▸ hstart.trans (List.prefix_append _ _)
  rw [hnone start ((List.mem_inits _ _).mpr hprefix)] at hheader
  exact nomatch hheader

end State

end QuorumProof.Bridge
