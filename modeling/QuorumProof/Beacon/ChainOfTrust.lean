import QuorumProof.Beacon.LightClient
import Mathlib.Order.MinMax

/-!
# Beacon/ChainOfTrust — what every stored header and committee rests on

After `bootstrap`, all the store ever takes in is signed by a supermajority of a committee it holds,
and proved from the header they signed.  Three slots of an update, its signature's, its attested and
its finalized one, are in order, and their periods lie between the stored one and the next; so a
period is never skipped, and the committee that is stored as the next one is the next one of the
period the store is in.

`TrustStep` says this of one update.  The header of an update counts as absent when it has the root
of the empty one, so SHA-256 must have no collision among what is hashed for the two.
-/

namespace QuorumProof.Beacon

open Guarded

/-! ## Updates as the route hands them over -/

/-- What the route makes sure of: 512 bits, and branches where they are needed. -/
structure LightClientUpdate.Routed (update : LightClientUpdate) : Prop where
  bits : update.syncAggregate.syncCommitteeBits.length = 512
  committee : update.nextSyncCommittee.isSome = update.nextSyncCommitteeBranch.isSome
  finality : update.finalizedHeader.isSome = update.finalityBranch.isSome

/-- The committees in a store have 512 keys each. -/
structure StoredLightClientState.Sized (store : StoredLightClientState) : Prop where
  current : store.currentSyncCommittee.pubkeys.length = 512
  next : ∀ committee ∈ store.nextSyncCommittee, committee.pubkeys.length = 512

theorem length_filter_zip {α : Type*} {keys : List α} {bits : List Bool}
    (h : bits.length ≤ keys.length) :
    ((keys.zip bits).filter (·.2)).length = bits.count true := by
  induction keys generalizing bits with
  | nil =>
    obtain rfl := List.eq_nil_of_length_eq_zero (Nat.le_zero.mp h)
    rfl
  | cons key keys ih =>
    cases bits with
    | nil => rfl
    | cons bit bits =>
      have hrest := ih (Nat.succ_le_succ_iff.mp h)
      cases bit <;> simp [hrest]

theorem LightClientUpdate.length_participantPubkeys {update : LightClientUpdate}
    {committee : SyncCommittee}
    (h : update.syncAggregate.syncCommitteeBits.length ≤ committee.pubkeys.length) :
    (update.participantPubkeys committee).length = update.participantCount := by
  rw [participantPubkeys, List.length_map, length_filter_zip h, participantCount]

theorem LightClientUpdate.participantPubkeys_sublist (update : LightClientUpdate)
    (committee : SyncCommittee) :
    (update.participantPubkeys committee).Sublist committee.pubkeys := by
  refine (List.filter_sublist.map _).trans ?_
  rw [List.zip_eq_zip_take_min, List.map_fst_zip (by simp)]
  exact List.take_sublist _ _

/-! ## What an update leaves -/

theorem LightClientUpdate.exists_finalizedHeader {update : LightClientUpdate}
    (h : 0 < update.finalizedSlot) : ∃ header, update.finalizedHeader = some header ∧
      header.beacon.slot = update.finalizedSlot := by
  cases hheader : update.finalizedHeader with
  | none => simp [finalizedSlot, hheader] at h
  | some header => exact ⟨header, rfl, by simp [finalizedSlot, hheader]⟩

namespace StoredLightClientState

variable (store : StoredLightClientState) (update : LightClientUpdate)

@[simp] theorem rotate_finalizedHeader :
    (store.rotate update).finalizedHeader = store.finalizedHeader := by
  unfold rotate
  dsimp only
  split <;> split <;> rfl

@[simp] theorem advance_currentSyncCommittee : (store.advance update).currentSyncCommittee =
      (store.rotate update).currentSyncCommittee := by
  unfold advance
  split <;> rfl

@[simp] theorem advance_nextSyncCommittee :
    (store.advance update).nextSyncCommittee = (store.rotate update).nextSyncCommittee := by
  unfold advance
  split <;> rfl

/-- The stored header stays, or is the update's and newer. -/
theorem advance_finalizedHeader : (store.advance update).finalizedHeader = store.finalizedHeader ∧
      update.finalizedSlot ≤ store.slot ∨
    update.finalizedHeader = some (store.advance update).finalizedHeader ∧
      store.slot < update.finalizedSlot ∧ (store.advance update).slot = update.finalizedSlot := by
  by_cases hlt : store.slot < update.finalizedSlot
  · obtain ⟨header, hheader, hslot⟩ :=
      LightClientUpdate.exists_finalizedHeader (Nat.zero_lt_of_lt hlt)
    have heq : (store.advance update).finalizedHeader = header := by
      rw [advance, if_pos hlt]
      simp [hheader]
    exact .inr ⟨by rw [hheader, heq], hlt, by rw [slot, heq, hslot]⟩
  · refine .inl ⟨?_, not_lt.mp hlt⟩
    rw [advance, if_neg hlt, rotate_finalizedHeader]

theorem advance_slot : (store.advance update).slot = max store.slot update.finalizedSlot := by
  rcases store.advance_finalizedHeader update with ⟨heq, hle⟩ | ⟨-, hlt, heq⟩
  · rw [slot, heq, max_eq_left hle, slot]
  · rw [heq, max_eq_right hlt.le]

/-- The period the store is in afterwards: the later of its own and the update's. -/
theorem advance_period : (store.advance update).period =
      max store.period (computeSyncCommitteePeriodAtSlot update.finalizedSlot) := by
  have hmono : Monotone computeSyncCommitteePeriodAtSlot :=
    fun _ _ => computeSyncCommitteePeriodAtSlot_mono
  rw [period, advance_slot, hmono.map_max, period]

end StoredLightClientState

namespace Crypto

variable {crypto : Crypto} {config : BeaconNetworkConfig} {store : StoredLightClientState}
  {update : LightClientUpdate} {now : TimeValue} {isFinality : Bool}

theorem hashTreeRootSyncCommittee_length {committee : SyncCommittee} {root : Bytes}
    (h : crypto.hashTreeRootSyncCommittee committee = .ok root) :
    committee.pubkeys.length = 512 := by
  obtain ⟨_, hlength, -⟩ := bind_eq_ok.mp h
  exact require_eq_ok.mp hlength

/-! ## What an accepted update has passed -/

variable (crypto config store update now isFinality) in
/-- The checks of an update. -/
structure Verified : Prop where
  signed_le : update.signatureSlot ≤ currentSlot config now
  attested_lt : update.attestedSlot < update.signatureSlot
  finalized_le : update.finalizedSlot ≤ update.attestedSlot
  period : computeSyncCommitteePeriodAtSlot update.signatureSlot = store.period ∨
    store.nextSyncCommittee ≠ none ∧
      computeSyncCommitteePeriodAtSlot update.signatureSlot = store.period + 1
  finalityUpdate : crypto.isFinalityUpdate update = .ok isFinality
  finality : crypto.checkFinality config update isFinality = .ok ()
  committee : crypto.checkNextSyncCommittee config store update = .ok ()
  signature : crypto.checkSignature config store update = .ok ()

theorem checkSignaturePeriod_eq_ok : checkSignaturePeriod store update = .ok () ↔
    computeSyncCommitteePeriodAtSlot update.signatureSlot = store.period ∨
      store.nextSyncCommittee ≠ none ∧
        computeSyncCommitteePeriodAtSlot update.signatureSlot = store.period + 1 := by
  unfold checkSignaturePeriod
  cases store.nextSyncCommittee <;> simp

variable (crypto) in
/-- A call advances the state of one network, with an update that has passed the checks. -/
def Advances (s : LightClientStore) (call : UpdateCall) (s' : LightClientStore) : Prop :=
  ∃ network store isFinality,
    elChainToBeaconNetwork call.chainId = some network ∧ s network = some store ∧
    crypto.Verified network.config store call.update call.now isFinality ∧
    store.shouldApply call.update isFinality ∧ s' = s.set network (store.advance call.update)

/-- **An update that is not refused leaves the store, or advances it.** -/
theorem applyUpdate_effect (crypto : Crypto) (s : LightClientStore) (call : UpdateCall) :
    Ensures (crypto.applyUpdate s call.chainId call.update call.now) fun r =>
      r.1 = s ∨ crypto.Advances s call r.1 := by
  simp only [applyUpdate, networkForChain, checkSlots, ensures_steps, ensures_ite, require_eq_ok,
    checkSignaturePeriod_eq_ok]
  intro network hnetwork store hstore _ hslots hperiod _ isFinality hfinalityUpdate hfinality
    hcommittee hsignature
  refine ⟨fun happly => .inr ⟨network, store, isFinality, hnetwork, hstore, ?_, happly, rfl⟩,
    fun _ => .inl trivial⟩
  exact ⟨hslots.1, hslots.2.1, hslots.2.2, hperiod, hfinalityUpdate, hfinality, hcommittee,
    hsignature⟩

theorem next_cases (crypto : Crypto) (s : LightClientStore) (call : UpdateCall) :
    crypto.next s call = s ∨ crypto.Advances s call (crypto.next s call) := by
  unfold next
  cases hcall : crypto.applyUpdate s call.chainId call.update call.now with
  | error e => exact .inl rfl
  | ok r => exact crypto.applyUpdate_effect s call r hcall

/-! ## What an update proves -/

variable (crypto config store update) in
/-- **The attested header is signed** by at least 342 of the 512 keys of the committee that is
stored for the period of the signature. -/
def Signed : Prop :=
  ∃ committee participants root,
    (computeSyncCommitteePeriodAtSlot update.signatureSlot = store.period ∧
        committee = store.currentSyncCommittee ∨
      computeSyncCommitteePeriodAtSlot update.signatureSlot = store.period + 1 ∧
        store.nextSyncCommittee = some committee) ∧
    committee.pubkeys.length = 512 ∧ participants.Sublist committee.pubkeys ∧
    342 ≤ participants.length ∧ crypto.signingRoot config update = .ok root ∧
    crypto.fastAggregateVerify participants root update.syncAggregate.syncCommitteeSignature = true

variable (crypto config update) in
/-- A header is in the state the attested header commits to. -/
def IncludesHeader (header : LightClientHeader) : Prop :=
  ∃ root branch, crypto.hashTreeRootBeaconBlockHeader header.beacon = .ok root ∧
    crypto.verifyMerkleBranch root branch
      (finalizedRootGindexAtSlot config update.attestedSlot)
      update.attestedHeader.beacon.stateRoot = true

variable (crypto config update) in
/-- A committee is in the state the attested header commits to. -/
def IncludesCommittee (committee : SyncCommittee) : Prop :=
  ∃ root branch, crypto.hashTreeRootSyncCommittee committee = .ok root ∧
    crypto.verifyMerkleBranch root branch
      (nextSyncCommitteeGindexAtSlot config update.attestedSlot)
      update.attestedHeader.beacon.stateRoot = true

variable (crypto update) in
/-- SHA-256 has no collision among what is hashed for the roots of the empty header and of the
update's finalized one. -/
def Binding : Prop :=
  Set.InjOn crypto.sha256 {x | x ∈ crypto.hashedInputs emptyHeader.chunks ∨
    ∃ header ∈ update.finalizedHeader, x ∈ crypto.hashedInputs header.beacon.chunks}

variable (crypto config update) in
/-- **What an update may do to the store.**  The finalized slot does not decrease, and its period
stays, and with it the current committee, or goes up by one, to the committee that was stored as the
next one; a header that is new, and a next committee that is, are proved from a header that is
signed; and a next committee is proved from a header of the period the store is then in. -/
structure TrustStep (store store' : StoredLightClientState) : Prop where
  slot_le : store.slot ≤ store'.slot
  period : store'.period = store.period ∧
      store'.currentSyncCommittee = store.currentSyncCommittee ∨
    store'.period = store.period + 1 ∧ store.nextSyncCommittee = some store'.currentSyncCommittee
  header : store'.finalizedHeader = store.finalizedHeader ∨
    crypto.Signed config store update ∧ crypto.IncludesHeader config update store'.finalizedHeader
  committee : ∀ committee, store'.nextSyncCommittee = some committee →
    store.nextSyncCommittee = some committee ∧ store'.period = store.period ∨
    crypto.Signed config store update ∧ crypto.IncludesCommittee config update committee ∧
      computeSyncCommitteePeriodAtSlot update.attestedSlot = store'.period

theorem TrustStep.refl (crypto : Crypto) (config : BeaconNetworkConfig) (update : LightClientUpdate)
    (store : StoredLightClientState) : crypto.TrustStep config update store store :=
  ⟨le_rfl, .inl ⟨rfl, rfl⟩, .inl rfl, fun _ h => .inl ⟨h, rfl⟩⟩

/-! ## One update -/

section

variable (h : crypto.Verified config store update now isFinality) {header : LightClientHeader}
  {committee : SyncCommittee} {branch : List Bytes}

include h

/-- The signature of an update was checked, under the keys whose bits are set. -/
theorem Verified.aggregate :
    ∃ committee ∈ signingCommittee store update, ∃ root,
      crypto.signingRoot config update = .ok root ∧
        crypto.fastAggregateVerify (update.participantPubkeys committee) root
          update.syncAggregate.syncCommitteeSignature = true := by
  obtain ⟨committee, hcommittee, hsignature⟩ := bind_eq_ok.mp h.signature
  obtain ⟨root, hroot, hverify⟩ := bind_eq_ok.mp hsignature
  exact ⟨committee, expect_eq_ok.mp hcommittee, root, hroot, require_eq_ok.mp hverify⟩

theorem Verified.signed (hrouted : update.Routed) (hsized : store.Sized)
    (hsupermajority : syncCommitteeSize * 2 ≤ update.participantCount * 3) :
    crypto.Signed config store update := by
  obtain ⟨committee, hcommittee, root, hroot, hverify⟩ := h.aggregate
  have hstored : (computeSyncCommitteePeriodAtSlot update.signatureSlot = store.period ∧
        committee = store.currentSyncCommittee ∨
      computeSyncCommitteePeriodAtSlot update.signatureSlot = store.period + 1 ∧
        store.nextSyncCommittee = some committee) ∧ committee.pubkeys.length = 512 := by
    unfold signingCommittee at hcommittee
    split at hcommittee
    next hperiod =>
      obtain rfl := Option.some.inj hcommittee
      exact ⟨.inl ⟨hperiod, rfl⟩, hsized.current⟩
    next hperiod =>
      exact ⟨.inr ⟨(h.period.resolve_left hperiod).2, hcommittee⟩, hsized.next _ hcommittee⟩
  refine ⟨committee, update.participantPubkeys committee, root, hstored.1, hstored.2,
    update.participantPubkeys_sublist committee, ?_, hroot, hverify⟩
  rw [LightClientUpdate.length_participantPubkeys (hrouted.bits.trans hstored.2.symm).le]
  unfold syncCommitteeSize at hsupermajority
  omega

theorem Verified.committee_branch (hnext : update.nextSyncCommittee = some committee)
    (hbranch : update.nextSyncCommitteeBranch = some branch) :
    ∃ root, crypto.hashTreeRootSyncCommittee committee = .ok root ∧
      crypto.verifyMerkleBranch root branch
        (nextSyncCommitteeGindexAtSlot config update.attestedSlot)
        update.attestedHeader.beacon.stateRoot = true := by
  have hcheck := h.committee
  simp only [checkNextSyncCommittee, hnext, hbranch, bind_eq_ok, require_eq_ok] at hcheck
  obtain ⟨-, -, hverified⟩ := hcheck
  exact hverified

theorem Verified.includesCommittee (hrouted : update.Routed)
    (hnext : update.nextSyncCommittee = some committee) :
    crypto.IncludesCommittee config update committee := by
  obtain ⟨branch, hbranch⟩ : ∃ branch, update.nextSyncCommitteeBranch = some branch :=
    Option.isSome_iff_exists.mp (hrouted.committee ▸ by simp [hnext])
  obtain ⟨root, hverified⟩ := h.committee_branch hnext hbranch
  exact ⟨root, branch, hverified⟩

/-- A header past genesis does not count as absent. -/
theorem Verified.isFinality_eq_true (hbinding : crypto.Binding update)
    (hheader : update.finalizedHeader = some header) (hbranch : update.finalityBranch = some branch)
    (hslot : 0 < header.beacon.slot) : isFinality = true := by
  have hupdate := h.finalityUpdate
  simp only [isFinalityUpdate, hheader, hbranch, Option.isSome_some, Bool.and_self, if_true,
    isEmptyLightClientHeader, map_eq_ok, bind_eq_ok, pure_eq_ok] at hupdate
  obtain ⟨-, ⟨root, hroot, emptyRoot, hempty, rfl⟩, rfl⟩ := hupdate
  rw [Bool.not_eq_true', decide_eq_false_iff_not]
  rintro rfl
  -- equal roots have equal slots, modulo `2 ^ 64`
  have hchunk := merkleize_injOn hbinding (fun x hx => .inr ⟨header, hheader, hx⟩)
    (fun x hx => .inl hx) rfl hroot hempty (i := 0) (Nat.two_pow_pos _)
  have hmod : header.beacon.slot % 2 ^ 64 = 0 % 2 ^ 64 := packUint64_inj hchunk
  have hle : header.beacon.slot ≤ update.attestedSlot := by
    have := h.finalized_le
    rwa [LightClientUpdate.finalizedSlot, hheader] at this
  have hnow := currentSlot_lt config now
  have := h.signed_le
  have := h.attested_lt
  omega

theorem Verified.header_branch (htrue : isFinality = true)
    (hheader : update.finalizedHeader = some header) (hbranch : update.finalityBranch = some branch)
    (hslot : 0 < header.beacon.slot) :
    ∃ root, crypto.hashTreeRootBeaconBlockHeader header.beacon = .ok root ∧
      crypto.verifyMerkleBranch root branch (finalizedRootGindexAtSlot config update.attestedSlot)
        update.attestedHeader.beacon.stateRoot = true := by
  have hslot' : update.finalizedSlot ≠ 0 := by
    simpa [LightClientUpdate.finalizedSlot, hheader] using hslot.ne'
  have hcheck := h.finality
  simpa only [checkFinality, htrue, hheader, hbranch, if_neg hslot', bind_eq_ok, require_eq_ok]
    using hcheck

theorem Verified.includesHeader (hrouted : update.Routed) (hbinding : crypto.Binding update)
    (hheader : update.finalizedHeader = some header) (hslot : 0 < header.beacon.slot) :
    crypto.IncludesHeader config update header := by
  have hsome : update.finalityBranch.isSome := by rw [← hrouted.finality, hheader]; rfl
  obtain ⟨branch, hbranch⟩ := Option.isSome_iff_exists.mp hsome
  have htrue := h.isFinality_eq_true hbinding hheader hbranch hslot
  obtain ⟨root, hverified⟩ := h.header_branch htrue hheader hbranch hslot
  exact ⟨root, branch, hverified⟩

open StoredLightClientState in
/-- **Where the committees go.**  The current one stays with the period, or the one that was stored
as the next takes over in the next period; and the next one stays with the period, or is the
update's, proved from a header of the period the store is then in. -/
theorem Verified.committees :
    ((store.advance update).period = store.period ∧
        (store.advance update).currentSyncCommittee = store.currentSyncCommittee ∨
      (store.advance update).period = store.period + 1 ∧
        store.nextSyncCommittee = some (store.advance update).currentSyncCommittee) ∧
    ((store.advance update).nextSyncCommittee = store.nextSyncCommittee ∧
        (store.advance update).period = store.period ∨
      (store.advance update).nextSyncCommittee = update.nextSyncCommittee ∧
        computeSyncCommitteePeriodAtSlot update.attestedSlot = (store.advance update).period) := by
  have hfinalized := computeSyncCommitteePeriodAtSlot_mono h.finalized_le
  have hattested := computeSyncCommitteePeriodAtSlot_mono h.attested_lt.le
  rw [advance_currentSyncCommittee, advance_nextSyncCommittee, advance_period, rotate]
  cases hnext : store.nextSyncCommittee with
  | none =>
    have hsignature := h.period.resolve_right fun hknown => hknown.1 hnext
    by_cases hsame : computeSyncCommitteePeriodAtSlot update.finalizedSlot = store.period
    · simp only [if_pos hsame]
      exact ⟨.inl ⟨by omega, trivial⟩, .inr ⟨trivial, by omega⟩⟩
    · simp only [if_neg hsame]
      exact ⟨.inl ⟨by omega, trivial⟩, .inl ⟨hnext, by omega⟩⟩
  | some known =>
    have hsignature : computeSyncCommitteePeriodAtSlot update.signatureSlot ≤
        store.period + 1 := by
      rcases h.period with heq | ⟨-, heq⟩ <;> omega
    by_cases hrises : computeSyncCommitteePeriodAtSlot update.finalizedSlot = store.period + 1
    · simp only [if_pos hrises]
      exact ⟨.inr ⟨by omega, trivial⟩, .inr ⟨trivial, by omega⟩⟩
    · simp only [if_neg hrises]
      exact ⟨.inl ⟨by omega, trivial⟩, .inl ⟨hnext, by omega⟩⟩

open StoredLightClientState in
/-- **An update that is applied is a step of trust.** -/
theorem Verified.trustStep (hrouted : update.Routed) (hbinding : crypto.Binding update)
    (hsized : store.Sized) (happly : store.shouldApply update isFinality) :
    crypto.TrustStep config update store (store.advance update) := by
  have hsigned := h.signed hrouted hsized happly.1
  obtain ⟨hperiod, hnext⟩ := h.committees
  refine ⟨by simp [advance_slot], hperiod, ?_, fun committee hcommittee => ?_⟩
  · refine (store.advance_finalizedHeader update).imp And.left fun ⟨hnew, hlt, hslot⟩ => ?_
    refine ⟨hsigned, h.includesHeader hrouted hbinding hnew ?_⟩
    exact (Nat.zero_lt_of_lt hlt).trans_eq hslot.symm
  · rw [hcommittee] at hnext
    exact hnext.imp (fun ⟨hsame, hperiod⟩ => ⟨hsame.symm, hperiod⟩) fun ⟨hnew, hattested⟩ =>
      ⟨hsigned, h.includesCommittee hrouted hnew.symm, hattested⟩

end

theorem TrustStep.sized {store' : StoredLightClientState}
    (h : crypto.TrustStep config update store store') (hsized : store.Sized) : store'.Sized where
  current := by
    rcases h.period with ⟨-, hcurrent⟩ | ⟨-, hcurrent⟩
    · rw [hcurrent]
      exact hsized.current
    · exact hsized.next _ hcurrent
  next committee hcommittee := by
    rcases h.committee committee hcommittee with ⟨hknown, -⟩ | ⟨-, ⟨root, -, hroot, -⟩, -⟩
    · exact hsized.next _ hknown
    · exact hashTreeRootSyncCommittee_length hroot

/-! ## Runs -/

/-- What is hashed for the empty header, and for the finalized headers of some calls. -/
def hashedHeaders (crypto : Crypto) (calls : List UpdateCall) : List Bytes :=
  crypto.hashedInputs emptyHeader.chunks ++ calls.flatMap fun call =>
    call.update.finalizedHeader.toList.flatMap fun header =>
      crypto.hashedInputs header.beacon.chunks

/-- SHA-256 has no collision among these. -/
def CollisionFree (crypto : Crypto) (calls : List UpdateCall) : Prop :=
  Set.InjOn crypto.sha256 {x | x ∈ crypto.hashedHeaders calls}

theorem CollisionFree.binding {calls : List UpdateCall} (h : crypto.CollisionFree calls)
    {call : UpdateCall} (hcall : call ∈ calls) : crypto.Binding call.update := by
  refine Set.InjOn.mono ?_ h
  rintro x (hempty | ⟨header, hheader, hx⟩)
  · exact List.mem_append_left _ hempty
  · refine List.mem_append_right _ (List.mem_flatMap.mpr ⟨call, hcall, ?_⟩)
    exact List.mem_flatMap.mpr ⟨header, Option.mem_toList.mpr hheader, hx⟩

/-- **Every call of a run is a step of trust** for a network, from the store it finds. -/
def ChainOfTrust (crypto : Crypto) (network : BeaconNetwork) :
    LightClientStore → List UpdateCall → Prop :=
  Machine.Along crypto.next fun s call => ∃ store store', s network = some store ∧
    crypto.next s call network = some store' ∧
    crypto.TrustStep network.config call.update store store'

variable {s : LightClientStore} {network : BeaconNetwork}

theorem next_trustStep {call : UpdateCall} (hstore : s network = some store) (hsized : store.Sized)
    (hrouted : call.update.Routed) (hbinding : crypto.Binding call.update) :
    ∃ store', crypto.next s call network = some store' ∧
      crypto.TrustStep network.config call.update store store' := by
  rcases crypto.next_cases s call with
    hnext | ⟨network', store', isFinality, -, hstore', hverified, happly, hnext⟩
  · exact ⟨store, hnext.symm ▸ hstore, .refl ..⟩
  · rw [hnext]
    by_cases hnetwork : network = network'
    · subst hnetwork
      obtain rfl := Option.mem_unique hstore hstore'
      exact ⟨_, Store.set_self .., hverified.trustStep hrouted hbinding hsized happly⟩
    · exact ⟨store, (Store.set_of_ne hnetwork).trans hstore, .refl ..⟩

theorem chainOfTrust_of_sized {calls : List UpdateCall} (hstore : s network = some store)
    (hsized : store.Sized) (hrouted : ∀ call ∈ calls, call.update.Routed)
    (hbinding : ∀ call ∈ calls, crypto.Binding call.update) :
    crypto.ChainOfTrust network s calls := by
  induction calls generalizing s store with
  | nil => trivial
  | cons call calls ih =>
    obtain ⟨hrouted, hrouteds⟩ := List.forall_mem_cons.mp hrouted
    obtain ⟨hbinding, hbindings⟩ := List.forall_mem_cons.mp hbinding
    obtain ⟨store', hstore', hstep⟩ := next_trustStep hstore hsized hrouted hbinding
    exact ⟨⟨store, store', hstore, hstore', hstep⟩,
      ih hstore' (hstep.sized hsized) hrouteds hbindings⟩

/-- What `bootstrap` leaves: its header and its committee, of 512 keys. -/
theorem bootstrap_effect (crypto : Crypto) (s : LightClientStore) (chainId : Nat)
    (trustedBlockRoot : Bytes) (bootstrap : LightClientBootstrap) :
    Ensures (crypto.bootstrap s chainId trustedBlockRoot bootstrap) fun s' =>
      ∃ network, elChainToBeaconNetwork chainId = some network ∧
        bootstrap.currentSyncCommittee.pubkeys.length = 512 ∧
        s' = s.set network
          { finalizedHeader := bootstrap.header
            currentSyncCommittee := bootstrap.currentSyncCommittee
            nextSyncCommittee := none } := by
  simp only [Crypto.bootstrap, networkForChain, ensures_bind, ensures_expect, ensures_require,
    ensures_pure]
  intro network hnetwork _ _ _ _ hroot _
  exact ⟨network, hnetwork, hashTreeRootSyncCommittee_length hroot, rfl⟩

end Crypto

/-- **The light client's chain of trust.**  From a bootstrap on, every call of every run, on
whichever chain, is a step of trust for the network that was bootstrapped. -/
theorem light_client_chain_of_trust (crypto : Crypto) {s₀ s : LightClientStore} {chainId : Nat}
    {network : BeaconNetwork} {trustedBlockRoot : Bytes} {bootstrap : LightClientBootstrap}
    {calls : List UpdateCall} (hnetwork : elChainToBeaconNetwork chainId = some network)
    (hbootstrap : crypto.bootstrap s₀ chainId trustedBlockRoot bootstrap = .ok s)
    (hrouted : ∀ call ∈ calls, call.update.Routed) (hcollision : crypto.CollisionFree calls) :
    crypto.ChainOfTrust network s calls := by
  obtain ⟨network', hnetwork', hlength, rfl⟩ :=
    crypto.bootstrap_effect s₀ chainId trustedBlockRoot bootstrap s hbootstrap
  obtain rfl := Option.mem_unique hnetwork hnetwork'
  exact Crypto.chainOfTrust_of_sized (Store.set_self ..) ⟨hlength, by simp⟩ hrouted
    fun call hcall => hcollision.binding hcall

namespace Sample

/-- A hash that keeps the left node, so that a root is the first chunk; every signature verifies. -/
def crypto : Crypto where
  sha256 input := (input ++ zeroChunk).take 32
  length_sha256 input := by simp [zeroChunk]
  verifyAggregate _ _ _ := true

/-- A header at a slot, with no roots. -/
def header (slot : Nat) : LightClientHeader := ⟨{ emptyHeader with slot := slot }⟩

/-- A committee of 512 copies of a key. -/
def committee (key : UInt8) : SyncCommittee where
  pubkeys := List.replicate 512 (List.replicate 48 key)
  aggregatePubkey := List.replicate 48 key

/-- A bootstrap in the first period. -/
def bootstrap : LightClientBootstrap where
  header := header 32
  currentSyncCommittee := committee 1
  currentSyncCommitteeBranch := List.replicate 5 zeroChunk

/-- An update of the slots after `slot`, with the next committee, signed by 342. -/
def update (slot : Nat) (key : UInt8) : LightClientUpdate where
  attestedHeader := header (slot + 36)
  nextSyncCommittee := some (committee key)
  nextSyncCommitteeBranch := some (List.replicate 5 zeroChunk)
  finalizedHeader := some (header slot)
  finalityBranch := some (List.replicate 6 zeroChunk)
  syncAggregate :=
    { syncCommitteeBits := List.replicate 342 true ++ List.replicate 170 false
      syncCommitteeSignature := [] }
  signatureSlot := slot + 37

/-- An update on mainnet, in December 2020. -/
def call (slot : Nat) (key : UInt8) : UpdateCall where
  chainId := 1
  update := update slot key
  now := ⟨1607000000000, by decide⟩

/-- An update in the first period, and one in the second. -/
def calls : List UpdateCall := [call 64 2, call 8256 3]

/-- What the bootstrap leaves. -/
def bootstrapped : LightClientStore :=
  Store.set (fun _ => none) .mainnet
    { finalizedHeader := header 32, currentSyncCommittee := committee 1, nextSyncCommittee := none }

theorem bootstrap_eq_ok :
    crypto.bootstrap (fun _ => none) 1 (packUint64 32) bootstrap = .ok bootstrapped := by
  have hok : (crypto.bootstrap (fun _ => none) 1 (packUint64 32) bootstrap).isOk = true := by
    decide +kernel
  cases hrun : crypto.bootstrap (fun _ => none) 1 (packUint64 32) bootstrap with
  | error e =>
    rw [hrun] at hok
    cases hok
  | ok s =>
    obtain ⟨network, hnetwork, -, rfl⟩ := crypto.bootstrap_effect _ _ _ _ s hrun
    obtain rfl : BeaconNetwork.mainnet = network := Option.some.inj hnetwork
    rfl

theorem update_routed (slot : Nat) (key : UInt8) : (update slot key).Routed where
  bits := by rw [update, List.length_append, List.length_replicate, List.length_replicate]
  committee := rfl
  finality := rfl

theorem calls_routed : ∀ call ∈ calls, call.update.Routed :=
  List.forall_mem_cons.mpr
    ⟨update_routed 64 2, List.forall_mem_singleton.mpr (update_routed 8256 3)⟩

/-- What is hashed is the chunk of a slot and a zero chunk. -/
def inputs : List Bytes := [0, 64, 8256].map fun slot => packUint64 slot ++ zeroChunk

theorem calls_collisionFree : crypto.CollisionFree calls := by
  have hhashed : ∀ x ∈ crypto.hashedHeaders calls, x ∈ inputs := by decide +kernel
  have hinj : ∀ x ∈ inputs, ∀ y ∈ inputs, crypto.sha256 x = crypto.sha256 y → x = y := by
    decide +kernel
  exact fun x hx y hy => hinj x (hhashed x hx) y (hhashed y hy)

end Sample

open Sample

/-- Two updates lead from the first period into the second, where their committees are stored. -/
theorem light_client_chain_of_trust_sample :
    crypto.ChainOfTrust .mainnet bootstrapped calls ∧
      (crypto.after bootstrapped calls .mainnet).map
        (fun store => (store.period, store.currentSyncCommittee, store.nextSyncCommittee)) =
      some (1, committee 2, some (committee 3)) :=
  ⟨light_client_chain_of_trust crypto rfl bootstrap_eq_ok calls_routed
    calls_collisionFree, by decide +kernel⟩

end QuorumProof.Beacon
