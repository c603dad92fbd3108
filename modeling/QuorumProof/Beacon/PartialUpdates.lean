import QuorumProof.Beacon.ChainOfTrust
import Mathlib.Data.List.Dedup

/-!
# Beacon/PartialUpdates — updates with missing or excess parts

`applyUpdate`, called directly, takes updates the route would refuse: a header or a committee
without its branch, and bits in any number.  A branch that is there is verified, but a header or a
committee is stored when it is there itself; and the bits are counted over their whole list, but
select keys by the place in the committee.  So what a call replaces has been proved and signed
exactly if a check refuses the update, it is not to be applied, or it is backed: what it replaces
has its branch, and its bits select 342 distinct keys (`Crypto.justified_iff`).

Source: `beaconLightClient.ts`, `BeaconLightClientStore.applyUpdate`.
-/

namespace QuorumProof.Beacon

open Guarded

/-- An update that is applied brings another next committee than the stored one. -/
def LightClientUpdate.Fills (update : LightClientUpdate) (store : StoredLightClientState) : Prop :=
  update.nextSyncCommittee ≠ none ∧ update.nextSyncCommittee ≠ store.nextSyncCommittee ∧
    computeSyncCommitteePeriodAtSlot update.finalizedSlot =
      store.period + if store.nextSyncCommittee.isSome then 1 else 0

/-- **An update is backed** for a store: a newer header and another next committee have branches,
the header's root is not the empty one's, and the bits select 342 distinct keys for either. -/
structure Crypto.Backed (crypto : Crypto) (store : StoredLightClientState)
    (update : LightClientUpdate) : Prop where
  header : store.slot < update.finalizedSlot → crypto.isFinalityUpdate update = .ok true
  committee : update.Fills store → update.nextSyncCommitteeBranch.isSome
  signers : store.slot < update.finalizedSlot ∨ update.Fills store →
    ∃ committee ∈ signingCommittee store update,
      342 ≤ (update.participantPubkeys committee).dedup.length

namespace Crypto

section

variable (crypto : Crypto) (config : BeaconNetworkConfig) (store : StoredLightClientState)
  (update : LightClientUpdate)

/-- At least 342 distinct keys of a committee entered the check of the signature. -/
def SignedByDistinct : Prop :=
  ∃ committee ∈ signingCommittee store update, ∃ root, crypto.signingRoot config update = .ok root ∧
    crypto.fastAggregateVerify (update.participantPubkeys committee) root
      update.syncAggregate.syncCommitteeSignature = true ∧
    342 ≤ (update.participantPubkeys committee).dedup.length

/-- The branch the update has for a header was verified: the code looks at it in a finality update
only. -/
def HeaderVerified (header : LightClientHeader) : Prop :=
  crypto.isFinalityUpdate update = .ok true ∧ ∃ branch ∈ update.finalityBranch, ∃ root,
    crypto.hashTreeRootBeaconBlockHeader header.beacon = .ok root ∧
    crypto.verifyMerkleBranch root branch (finalizedRootGindexAtSlot config update.attestedSlot)
      update.attestedHeader.beacon.stateRoot = true

/-- The branch the update has for a committee was verified. -/
def CommitteeVerified (committee : SyncCommittee) : Prop :=
  ∃ branch ∈ update.nextSyncCommitteeBranch, ∃ root,
    crypto.hashTreeRootSyncCommittee committee = .ok root ∧
    crypto.verifyMerkleBranch root branch (nextSyncCommitteeGindexAtSlot config update.attestedSlot)
      update.attestedHeader.beacon.stateRoot = true

/-- **What an update replaces was verified**: the finalized header, and the next committee. -/
structure Replaces (store' : StoredLightClientState) : Prop where
  header : store'.finalizedHeader ≠ store.finalizedHeader →
    crypto.HeaderVerified config update store'.finalizedHeader ∧
      crypto.SignedByDistinct config store update
  committee : ∀ committee ∈ store'.nextSyncCommittee, store.nextSyncCommittee ≠ some committee →
    crypto.CommitteeVerified config update committee ∧ crypto.SignedByDistinct config store update

theorem Replaces.refl : crypto.Replaces config store update store :=
  ⟨fun hne => absurd rfl hne, fun _ hmem hne => absurd hmem hne⟩

end

/-- **What a call replaces, it has verified.** -/
def Justified (crypto : Crypto) (s : LightClientStore) (call : UpdateCall) : Prop :=
  ∀ network, ∀ store ∈ s network, ∀ store' ∈ crypto.next s call network,
    crypto.Replaces network.config store call.update store'

variable {crypto : Crypto} {config : BeaconNetworkConfig} {store : StoredLightClientState}
  {update : LightClientUpdate} {now : TimeValue} {isFinality : Bool}

theorem advance_of_fills (h : update.Fills store) :
    (store.advance update).nextSyncCommittee = update.nextSyncCommittee := by
  obtain ⟨-, -, hperiod⟩ := h
  rw [StoredLightClientState.advance_nextSyncCommittee, StoredLightClientState.rotate]
  cases hnext : store.nextSyncCommittee <;> simp_all

theorem fills_of_advance {committee : SyncCommittee}
    (h : (store.advance update).nextSyncCommittee = some committee)
    (hne : store.nextSyncCommittee ≠ some committee) :
    update.Fills store ∧ update.nextSyncCommittee = some committee := by
  rw [StoredLightClientState.advance_nextSyncCommittee, StoredLightClientState.rotate] at h
  unfold LightClientUpdate.Fills
  cases hnext : store.nextSyncCommittee <;> simp only [hnext] at h <;> split at h <;>
    simp_all [eq_comm]

/-- An update that passes the checks and replaces something is relevant, and is applied. -/
theorem Verified.next_eq {s : LightClientStore} {call : UpdateCall} {network : BeaconNetwork}
    (h : crypto.Verified network.config store call.update call.now isFinality)
    (hnetwork : elChainToBeaconNetwork call.chainId = some network)
    (hstore : s network = some store) (happly : store.shouldApply call.update isFinality)
    (hnew : store.slot < call.update.finalizedSlot ∨ call.update.Fills store) :
    crypto.next s call network = some (store.advance call.update) := by
  have hcount : 1 ≤ call.update.participantCount := by
    have := happly.1
    unfold syncCommitteeSize at this
    omega
  have hrelevant : store.slot < call.update.attestedSlot ∨ (store.nextSyncCommittee = none ∧
      call.update.hasNextSyncCommittee = true ∧
        computeSyncCommitteePeriodAtSlot call.update.attestedSlot = store.period) := by
    by_cases hnewer : store.slot < call.update.finalizedSlot
    · exact .inl (hnewer.trans_le h.finalized_le)
    · obtain ⟨hnone, hnext, -, hsame⟩ := happly.2.resolve_left hnewer
      obtain ⟨-, -, hperiod⟩ := hnew.resolve_left hnewer
      exact .inr ⟨hnone, hnext, by rw [← hsame, hperiod, hnone]; rfl⟩
  have hcall : crypto.applyUpdate s call.chainId call.update call.now =
      .ok (s.set network (store.advance call.update),
        (store.advance call.update).finalizedHeader) := by
    simp only [applyUpdate, networkForChain, checkSlots, checkRelevance, bind_eq_ok, expect_eq_ok,
      require_eq_ok]
    exact ⟨network, hnetwork, store, hstore, (), hcount, (), ⟨h.signed_le, h.attested_lt,
      h.finalized_le⟩, (), checkSignaturePeriod_eq_ok.mpr h.period, (), hrelevant, isFinality,
      h.finalityUpdate, (), h.finality, (), h.committee, (), h.signature, if_pos happly⟩
  rw [next, hcall]
  exact Store.set_self ..

/-- What is replaced is the update's, and was checked where the update is backed. -/
theorem Verified.replaces (h : crypto.Verified config store update now isFinality)
    (hbacked : crypto.Backed store update) :
    crypto.Replaces config store update (store.advance update) := by
  have hsigned (hnew : store.slot < update.finalizedSlot ∨ update.Fills store) :
      crypto.SignedByDistinct config store update := by
    obtain ⟨committee, hcommittee, root, hroot, hverify⟩ := h.aggregate
    obtain ⟨_, hmem, hdistinct⟩ := hbacked.signers hnew
    obtain rfl := Option.mem_unique hcommittee hmem
    exact ⟨committee, hcommittee, root, hroot, hverify, hdistinct⟩
  constructor
  · intro hchanged
    obtain ⟨hheader, hnewer, hslot⟩ :=
      (store.advance_finalizedHeader update).resolve_left fun h => hchanged h.1
    have hfinality := hbacked.header hnewer
    have htrue : isFinality = true := Except.ok.inj (h.finalityUpdate.symm.trans hfinality)
    obtain ⟨branch, hbranch⟩ : ∃ branch, update.finalityBranch = some branch := by
      unfold isFinalityUpdate at hfinality
      split at hfinality
      next hparts => exact Option.isSome_iff_exists.mp (Bool.and_eq_true_iff.mp hparts).2
      next => cases hfinality
    have hpast := (Nat.zero_lt_of_lt hnewer).trans_eq hslot.symm
    exact ⟨⟨hfinality, branch, hbranch, h.header_branch htrue hheader hbranch hpast⟩,
      hsigned (.inl hnewer)⟩
  · intro committee hmem hchanged
    obtain ⟨hfills, hcommittee⟩ := fills_of_advance hmem hchanged
    obtain ⟨branch, hbranch⟩ := Option.isSome_iff_exists.mp (hbacked.committee hfills)
    exact ⟨⟨branch, hbranch, h.committee_branch hcommittee hbranch⟩, hsigned (.inr hfills)⟩

theorem Replaces.backed (h : crypto.Replaces config store update (store.advance update)) :
    crypto.Backed store update := by
  have hheader (hnewer : store.slot < update.finalizedSlot) := h.header fun heq => by
    have hslot : max store.slot update.finalizedSlot = store.slot :=
      (store.advance_slot update).symm.trans (congrArg (·.beacon.slot) heq)
    omega
  have hcommittee (hfills : update.Fills store) : ∃ committee,
      crypto.CommitteeVerified config update committee ∧
        crypto.SignedByDistinct config store update := by
    obtain ⟨committee, hnext⟩ := Option.ne_none_iff_exists'.mp hfills.1
    refine ⟨committee, h.committee committee ((advance_of_fills hfills).trans hnext) fun heq => ?_⟩
    exact hfills.2.1 (hnext.trans heq.symm)
  refine ⟨fun hnewer => (hheader hnewer).1.1, fun hfills => ?_, fun hnew => ?_⟩
  · obtain ⟨committee, ⟨branch, hbranch, -⟩, -⟩ := hcommittee hfills
    exact Option.isSome_iff_exists.mpr ⟨branch, hbranch⟩
  · obtain ⟨committee, hmem, _, _, _, hdistinct⟩ : crypto.SignedByDistinct config store update :=
      hnew.elim (fun hnewer => (hheader hnewer).2) fun hfills => (hcommittee hfills).choose_spec.2
    exact ⟨committee, hmem, hdistinct⟩

/-- **A call replaces only what it has verified** exactly if an update that passes its checks and is
to be applied is backed. -/
theorem justified_iff (crypto : Crypto) (s : LightClientStore) (call : UpdateCall) :
    crypto.Justified s call ↔ ∀ network store isFinality,
      elChainToBeaconNetwork call.chainId = some network → s network = some store →
      crypto.Verified network.config store call.update call.now isFinality →
      store.shouldApply call.update isFinality → crypto.Backed store call.update := by
  constructor
  · intro h network store isFinality hnetwork hstore hverified happly
    have hreplaces (hnew : store.slot < call.update.finalizedSlot ∨ call.update.Fills store) :=
      (h network store hstore _ (hverified.next_eq hnetwork hstore happly hnew)).backed
    exact ⟨fun hnewer => (hreplaces (.inl hnewer)).header hnewer,
      fun hfills => (hreplaces (.inr hfills)).committee hfills,
      fun hnew => (hreplaces hnew).signers hnew⟩
  · intro h network store hstore store' hstore'
    rcases crypto.next_cases s call with
      hnext | ⟨network', old, isFinality, hnetwork, hold, hverified, happly, hnext⟩
    · obtain rfl := Option.mem_unique (hnext ▸ hstore') hstore
      exact .refl ..
    rw [hnext] at hstore'
    rcases eq_or_ne network network' with rfl | hne
    · obtain rfl := Option.mem_unique hold hstore
      obtain rfl := Option.mem_unique (Store.set_self ..) hstore'
      exact hverified.replaces (h _ _ _ hnetwork hold hverified happly)
    · rw [Store.set_of_ne hne] at hstore'
      obtain rfl := Option.mem_unique hstore' hstore
      exact .refl ..

end Crypto

namespace Sample

/-- A committee of 512 distinct keys. -/
def distinctKeys : SyncCommittee where
  pubkeys := (List.range 512).map fun i => List.replicate i 0
  aggregatePubkey := []

/-- A store with that committee. -/
def distinctlyKeyed : LightClientStore :=
  Store.set (fun _ => none) .mainnet
    { finalizedHeader := header 32, currentSyncCommittee := distinctKeys
      nextSyncCommittee := none }

/-- An update that brings a header and its branch. -/
def headerOnly : UpdateCall :=
  { call 64 2 with
    update := { update 64 2 with nextSyncCommittee := none, nextSyncCommitteeBranch := none } }

/-- The same header without its branch. -/
def unproved : UpdateCall :=
  { headerOnly with update := { headerOnly.update with finalityBranch := none } }

theorem distinctKeys_nodup : distinctKeys.pubkeys.Nodup := by
  unfold distinctKeys
  dsimp only
  refine List.Nodup.map (fun i j h => ?_) List.nodup_range
  simpa using congrArg List.length h

theorem headerOnly_backed (store : StoredLightClientState)
    (h : distinctlyKeyed .mainnet = some store) : crypto.Backed store headerOnly.update := by
  obtain rfl := Option.mem_unique (Store.set_self ..) h
  have hlength : distinctKeys.pubkeys.length = 512 := by simp [distinctKeys]
  refine ⟨fun _ => by decide +kernel, fun hfills => absurd rfl hfills.1, fun _ =>
    ⟨distinctKeys, rfl, ?_⟩⟩
  have hdistinct := distinctKeys_nodup.sublist
    (headerOnly.update.participantPubkeys_sublist distinctKeys)
  rw [List.dedup_eq_self.mpr hdistinct, LightClientUpdate.length_participantPubkeys]
  · decide +kernel
  · exact (update_routed 64 2).bits.le.trans_eq hlength.symm

end Sample

open Sample

/-- A header with its branch is stored. -/
theorem justified_headerOnly : crypto.Justified distinctlyKeyed headerOnly ∧
    (crypto.next distinctlyKeyed headerOnly .mainnet).map (·.finalizedHeader) =
      some (header 64) := by
  refine ⟨(crypto.justified_iff distinctlyKeyed headerOnly).mpr ?_, by decide +kernel⟩
  rintro _ store _ ⟨⟩ hstore - -
  exact headerOnly_backed store hstore

/-- **A header without its branch is stored as well.** -/
theorem not_justified : ¬ ∀ (crypto : Crypto) (s : LightClientStore) (call : UpdateCall),
    crypto.Justified s call := by
  intro h
  have hnext : (crypto.next distinctlyKeyed unproved .mainnet).map (·.finalizedHeader) =
      some (header 64) := by decide +kernel
  obtain ⟨store', hstore', hheader⟩ := Option.map_eq_some_iff.mp hnext
  obtain ⟨⟨-, branch, hbranch, -⟩, -⟩ :=
    (h crypto distinctlyKeyed unproved .mainnet _ (Store.set_self ..) store' hstore').header
      (by rw [hheader]; decide)
  cases hbranch

end QuorumProof.Beacon
