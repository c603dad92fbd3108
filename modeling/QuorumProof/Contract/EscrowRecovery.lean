import QuorumProof.Contract.KeyEscrow
import QuorumProof.Contract.RoleChains
import QuorumProof.Bbs.Escrow

/-!
# Contract/EscrowRecovery — whether an escrowed key can be got back

`split_secret` numbers its shares from one, and so do `deposit_key_escrow` and
`rotate_key_escrow_guardians`; `recover_key` hands the shares of those that have submitted back with
their numbers, and `reconstruct_secret` interpolates them.  Shares are stored by guardian: where the
list names somebody twice, the later share replaces the earlier.  With as many distinct guardians as
the threshold asks for the key comes back; with fewer nobody can submit the rest.

Source: `key_escrow.rs`, `contracts/bbs_plus_v1/src/escrow.rs`.
-/

namespace QuorumProof

open Guarded Bbs

/-! ## From stored shares to points of a polynomial -/

/-- A returned share as `reconstruct_secret` takes it. -/
def GuardianShare.keyShare {r : ℕ} [Fact r.Prime] (share : GuardianShare) :
    BbsResult (KeyShare r) := do
  let value ← frFromBytes share.encryptedShare
  return { index := UInt32.ofNat share.shareIndex, value := value }

/-- The blobs an issuer deposits for the shares of a split. -/
def shareBlobs {r : ℕ} [Fact r.Prime] (shares : List (KeyShare r)) : List Bytes :=
  shares.map fun share => frToBytes share.value

namespace Escrows

/-- The `i`-th entry is for the `i`-th guardian, with the `i`-th blob, and numbered `i + 1`. -/
theorem mem_shareEntries {guardians : List Address} {blobs : List Bytes} {entry : GuardianShare} :
    entry ∈ shareEntries guardians blobs ↔ ∃ i, guardians[i]? = some entry.guardian ∧
      blobs[i]? = some entry.encryptedShare ∧ entry.shareIndex = i + 1 := by
  obtain ⟨guardian, index, blob⟩ := entry
  simp only [shareEntries, List.mem_map, Prod.exists, List.mem_zipIdx_iff_getElem?,
    List.getElem?_zip_eq_some, GuardianShare.mk.injEq]
  constructor
  · rintro ⟨_, _, i, ⟨hguardian, hblob⟩, rfl, rfl, rfl⟩
    exact ⟨i, hguardian, hblob, rfl⟩
  · rintro ⟨i, hguardian, hblob, rfl⟩
    exact ⟨guardian, blob, i, ⟨hguardian, hblob⟩, rfl, rfl, rfl⟩

end Escrows

section Split

variable {r : ℕ} [Fact r.Prime] {secret : ZMod r} {coefficients : List (ZMod r)}
  {totalShares : UInt32} {shares : List (KeyShare r)} {guardians : List Address}
  {entry : GuardianShare}

/-- The share of the polynomial that a stored share stands for. -/
def GuardianShare.onPolynomial (secret : ZMod r) (coefficients : List (ZMod r))
    (share : GuardianShare) : KeyShare r :=
  shareAt secret coefficients (UInt32.ofNat share.shareIndex)

/-- **The contract numbers the shares as `split_secret` does**: an entry is read back as the share
of the split it was made from. -/
theorem keyShare_of_mem_shareEntries (hbytes : r ≤ 256 ^ 32)
    (hsplit : splitSecret secret coefficients totalShares = .ok shares)
    (h : entry ∈ shareEntries guardians (shareBlobs shares)) :
    entry.keyShare = .ok (entry.onPolynomial secret coefficients) ∧
      entry.onPolynomial secret coefficients ∈ shares := by
  obtain ⟨i, -, hblob, hindex⟩ := Escrows.mem_shareEntries.mp h
  rw [shareBlobs, List.getElem?_map, Option.map_eq_some_iff] at hblob
  obtain ⟨share, hshare, hvalue⟩ := hblob
  have hat : share = entry.onPolynomial secret coefficients := by
    rw [← (splitSecret_eq_ok.mp hsplit).2, List.getElem?_map, Option.map_eq_some_iff] at hshare
    obtain ⟨number, hnumber, rfl⟩ := hshare
    obtain ⟨_, rfl⟩ := List.getElem?_eq_some_iff.mp hnumber
    rw [GuardianShare.onPolynomial, hindex, List.getElem_range', one_mul, add_comm]
  refine ⟨?_, hat ▸ List.mem_of_getElem? hshare⟩
  rw [GuardianShare.keyShare, ← hvalue, frFromBytes_frToBytes hbytes, hat]
  rfl

/-- The numbers of the entries fit a `u32`. -/
theorem toNat_index_of_mem_shareEntries
    (hsplit : splitSecret secret coefficients totalShares = .ok shares)
    (h : entry ∈ shareEntries guardians (shareBlobs shares)) :
    (entry.onPolynomial secret coefficients).index.toNat = entry.shareIndex := by
  obtain ⟨i, -, hblob, hindex⟩ := Escrows.mem_shareEntries.mp h
  have hi : i < totalShares.toNat := by
    rw [← length_of_splitSecret hsplit, ← List.length_map fun share => frToBytes share.value]
    exact (List.getElem?_eq_some_iff.mp hblob).1
  refine UInt32.toNat_ofNat_of_lt' ?_
  have hlt := totalShares.toNat_lt
  rw [hindex, UInt32.size]
  omega

end Split

/-! ## Whose escrow it is, and that there is an administrator -/

/-- **Before there is an administrator nobody holds a role and nothing is escrowed.** -/
def Founded (admin : Option Address) (a : Annex) : Prop :=
  admin = none → ∀ address, a.roles.roleAssignment address = none ∧
    a.roles.roleDelegation address = none ∧ a.escrows.escrow address = none

/-- Every operation on the roles asks for the administrator. -/
theorem RoleOp.administered (env : Env) (c : Control) (r : Roles) (op : RoleOp) :
    Ensures (op.write env c r) fun _ => c.admin ≠ none := by
  cases op <;>
    simp +contextual [write, Roles.assignRole, Roles.revokeRole, Roles.delegateRole,
      Roles.revokeDelegation, Roles.purgeExpiredRole, Roles.purgeExpiredDelegation,
      Control.requireAdmin]

/-- Every operation on the escrows asks for a role or for an escrow. -/
theorem EscrowOp.administered {a : Annex} {admin : Option Address} (h : Founded admin a) (env : Env)
    (c : Control) (op : EscrowOp) :
    Ensures (op.write env c a.roles a.escrows) fun _ => admin ≠ none := by
  rintro e he rfl
  revert he
  have hrole : ∀ issuer, a.roles.requireRole env issuer .issuer ≠ .ok () := by
    simp [Roles.requireRole, Roles.hasRole, Roles.hasExactRole, h rfl]
  have hunspent : ∀ issuer escrow, a.escrows.unspent issuer ≠ .ok escrow := by
    simp [Escrows.unspent, h rfl]
  cases op <;>
    simp [write, hrole, hunspent, Escrows.submitRecoveryShare, Escrows.recoverKey,
      Escrows.cancelKeyRecovery, map_eq_ok]

theorem AnnexOp.founded {a : Annex} {c : Control} (h : Founded c.admin a) (env : Env)
    (op : AnnexOp) : Ensures (op.write env c a) (Founded c.admin) := by
  cases op with
  | role op =>
    exact ensures_map.mpr ((op.administered env c a.roles).mono fun _ hadmin => (absurd · hadmin))
  | escrow op =>
    exact ensures_map.mpr ((op.administered h env c).mono fun _ hadmin => (absurd · hadmin))
  | _ => exact ensures_map.mpr fun _ _ => h

namespace AnnexedWorld

variable {host : Host} {w : AnnexedWorld} {call : AnnexedCall} {calls : List AnnexedCall}
  {issuer guardian : Address} {guardians : List Address} {blobs : List Bytes} {threshold : Nat}

theorem founded_next (host : Host) (w : AnnexedWorld) (call : AnnexedCall)
    (h : Founded w.world.state.control.admin w.annex) :
    Founded (w.next host call).world.state.control.admin (w.next host call).annex := by
  cases hop : call.op with
  | contract op =>
    have hstep : Ensures (op.apply (w.env host call) w.world.state) fun s =>
        s.control.admin = none → w.world.state.control.admin = none := by
      refine (op.admin_step _ _).mono ?_
      rintro s (hsame | hnone | ⟨_, -, hsome⟩) hnone'
      · exact hsame ▸ hnone'
      · exact hnone
      · simp [hsome] at hnone'
    obtain ⟨hadmin, hannex⟩ := next_of_contract host w call hop hstep id
    rw [hannex]
    exact h ∘ hadmin
  | annex op =>
    obtain ⟨⟨control, hpasses, hstate⟩, hfounded⟩ := next_of_annex host w call hop
      (fun c hc => hc ▸ op.founded (hc ▸ h) _) h
    rw [hstate, hpasses.admin]
    exact hfounded

theorem founded_after (host : Host) (calls : List AnnexedCall) :
    Founded (after host calls).world.state.control.admin (after host calls).annex :=
  Machine.run_invariant
    (I := fun w : AnnexedWorld => Founded w.world.state.control.admin w.annex)
    (founded_next host) (fun _ _ => ⟨rfl, rfl, rfl⟩) calls

/-- **What is stored is what the last deposit or rotation has set up.** -/
theorem setUp_of_configuredLast
    (h : ConfiguredLast host issuer (guardians, blobs, threshold) calls) :
    ((after host calls).vault issuer).SetUp (some (guardians, blobs, threshold)) := by
  obtain ⟨last, hlast, hsetUp⟩ := setUp_after host calls issuer
  exact (hlast _).mp h ▸ hsetUp

/-! ## Getting the key back -/

section Recovery

variable {r : ℕ} [Fact r.Prime] {secret : ZMod r} {caller : Address}

/-- The issuer's last deposit or rotation was accepted for these guardians and this threshold, with
the shares of a split of `secret` with that threshold, the `i`-th for the `i`-th guardian. -/
def Escrowed (host : Host) (issuer : Address) (guardians : List Address) (threshold : Nat)
    (secret : ZMod r) (calls : List AnnexedCall) : Prop :=
  ∃ coefficients totalShares shares, coefficients.length + 1 = threshold ∧
    splitSecret secret coefficients totalShares = .ok shares ∧
    ConfiguredLast host issuer (guardians, shareBlobs shares, threshold) calls

/-- A call of `recover_key` that passes what the contract asks of every call: the caller signs, the
contract is not paused, and the caller is the issuer or the administrator. -/
structure MayRecover (host : Host) (w : AnnexedWorld) (call : AnnexedCall)
    (caller issuer : Address) : Prop where
  auth : requireAuth (w.env host call) caller = .ok ()
  guard : ∃ control, w.world.state.control.passGuard (w.env host call)
    (AnnexOp.escrow (.recoverKey caller issuer)).guard = .ok control
  entitled : caller = issuer ∨ w.world.state.control.admin = some caller

/-- `recover_key` succeeds, and `reconstruct_secret` makes `secret` of what it returns. -/
def GivesBack (host : Host) (w : AnnexedWorld) (call : AnnexedCall) (caller issuer : Address)
    (secret : ZMod r) : Prop :=
  ∃ returned keys, w.recovery host call caller issuer = .ok returned ∧
    returned.mapM GuardianShare.keyShare = .ok keys ∧ reconstructSecret keys = .ok secret

/-- **`recover_key` succeeds** when as many guardians as the threshold asks for have submitted. -/
theorem recovery_eq_ok {returned : List GuardianShare}
    (hmay : (after host calls).MayRecover host call caller issuer)
    (hsetUp : ((after host calls).vault issuer).SetUp (some (guardians, blobs, threshold)))
    (hfirst : ¬ RecoveredBefore host issuer calls) :
    (after host calls).recovery host call caller issuer = .ok returned ↔
      threshold ≤ ((after host calls).annex.escrows.submissions issuer).length ∧
      (((after host calls).annex.escrows.submissions issuer).filterMap fun guardian =>
        (after host calls).annex.escrows.guardianShare (issuer, guardian)) = returned := by
  have hfounded := founded_after host calls
  obtain ⟨control, hguard⟩ := hmay.guard
  have hcontrol : control.admin = (after host calls).world.state.control.admin :=
    (State.passGuard_passes _ _ _ control hguard).admin
  obtain ⟨⟨escrow, hescrow, -, rfl⟩, -⟩ := hsetUp
  have hunspent : escrow.recovered = false := by
    rw [← spent_after] at hfirst
    exact Bool.eq_false_iff.mpr fun hspent => hfirst ⟨escrow, hescrow, hspent⟩
  obtain ⟨admin, hadmin⟩ : ∃ admin, (after host calls).world.state.control.admin = some admin :=
    Option.ne_none_iff_exists'.mp fun hnone => by
      exact absurd (hescrow.symm.trans (hfounded hnone issuer).2.2) (by simp)
  have hentitled : caller = escrow.issuer ∨ caller = admin := by
    rw [(kept_after host calls issuer).named escrow hescrow]
    exact hmay.entitled.imp_right fun h => Option.mem_unique h hadmin
  simp only [recovery, Escrows.recoverKey, Escrows.unspent, bind_eq_ok, map_eq_ok, pure_eq_ok,
    expect_eq_ok, require_eq_ok]
  constructor
  · rintro ⟨-, -, -, -, -, ⟨_, ⟨_, hstored, -, -, rfl⟩, -, -, -, -, -, henough, rfl⟩, rfl⟩
    exact ⟨Option.mem_unique hescrow hstored ▸ henough, rfl⟩
  · rintro ⟨henough, rfl⟩
    exact ⟨(), hmay.auth, control, hguard, _, ⟨escrow, ⟨escrow, hescrow, (), hunspent, rfl⟩, admin,
      hcontrol.trans hadmin, (), hentitled, (), henough, rfl⟩, rfl⟩

section Submissions

variable {v : Vault} (hkept : v.Kept issuer)
  (hsetUp : v.SetUp (some (guardians, blobs, threshold)))

include hkept hsetUp

/-- The returned shares are those of the guardians that have submitted, in their order. -/
theorem map_guardian_returned :
    (v.submissions.filterMap v.share).map (·.guardian) = v.submissions := by
  rw [List.map_filterMap]
  refine (List.filterMap_congr fun guardian hguardian => ?_).trans List.filterMap_some
  obtain ⟨share, hshare⟩ := Option.isSome_iff_exists.mp
    ((hkept.shares guardian).mpr (hkept.submitters guardian hguardian))
  rw [hshare, Option.map_some,
    (Escrows.lastEntry_eq_some ((congrFun hsetUp.2.2 guardian).symm.trans hshare)).2]

/-- Where all have submitted, the submitters are the guardians, each of them once. -/
theorem length_submissions (hall : ∀ guardian ∈ guardians, guardian ∈ v.submissions) :
    v.submissions.length = guardians.dedup.length := by
  obtain ⟨⟨escrow, hescrow, rfl, -⟩, -⟩ := hsetUp
  refine ((List.perm_ext_iff_of_nodup hkept.nodup (List.nodup_dedup _)).mpr fun guardian => ?_)
    |>.length_eq
  rw [List.mem_dedup]
  refine ⟨fun h => ?_, hall guardian⟩
  obtain ⟨escrow', hescrow', hmem⟩ := hkept.submitters guardian h
  exact Option.mem_unique hescrow hescrow' ▸ hmem

end Submissions

/-- **Shares of different guardians have different numbers.** -/
theorem nodup_shareIndex {returned : List GuardianShare}
    (hmem : ∀ share ∈ returned, share ∈ shareEntries guardians blobs)
    (hnodup : (returned.map (·.guardian)).Nodup) :
    returned.Pairwise (·.shareIndex ≠ ·.shareIndex) := by
  refine (List.pairwise_map.mp hnodup).imp_of_mem fun hshare hshare' hne heq => hne ?_
  obtain ⟨i, hguardian, -, hindex⟩ := Escrows.mem_shareEntries.mp (hmem _ hshare)
  obtain ⟨i', hguardian', -, hindex'⟩ := Escrows.mem_shareEntries.mp (hmem _ hshare')
  obtain rfl : i = i' := by omega
  exact Option.mem_unique hguardian hguardian'

/-- **The key comes back** once every guardian has submitted, if and only if the list names as many
as the threshold asks for. -/
theorem escrow_recoverable (host : Host) (calls : List AnnexedCall) (call : AnnexedCall)
    (caller issuer : Address) (guardians : List Address) (threshold : Nat) (secret : ZMod r)
    (hbytes : r ≤ 256 ^ 32) (hfield : guardians.length < r)
    (hescrowed : Escrowed host issuer guardians threshold secret calls)
    (hsubmitted : ∀ guardian ∈ guardians, SubmittedSince host issuer guardian calls)
    (hfirst : ¬ RecoveredBefore host issuer calls)
    (hmay : (after host calls).MayRecover host call caller issuer) :
    (after host calls).GivesBack host call caller issuer secret ↔
      threshold ≤ guardians.dedup.length := by
  obtain ⟨coefficients, totalShares, shares, rfl, hsplit, hlast⟩ := hescrowed
  have hkept := kept_after host calls issuer
  have hsetUp := setUp_of_configuredLast hlast
  set e := (after host calls).annex.escrows with he
  set returned := (e.submissions issuer).filterMap fun guardian =>
    e.guardianShare (issuer, guardian) with hreturned
  have hguardian : returned.map (·.guardian) = e.submissions issuer :=
    map_guardian_returned hkept hsetUp
  have hmem : ∀ share ∈ returned, share ∈ shareEntries guardians (shareBlobs shares) := by
    intro share hshare
    obtain ⟨guardian, -, hstored⟩ := List.mem_filterMap.mp hshare
    exact (Escrows.lastEntry_eq_some ((congrFun hsetUp.2.2 guardian).symm.trans hstored)).1
  have hcount : (e.submissions issuer).length = guardians.dedup.length :=
    length_submissions hkept hsetUp fun guardian h =>
      mem_submissions_after.mpr (hsubmitted guardian h)
  rw [← hcount]
  refine ⟨fun ⟨_, _, hrecovery, _⟩ => ((recovery_eq_ok hmay hsetUp hfirst).mp hrecovery).1,
    fun henough => ?_⟩
  refine ⟨returned, returned.map (·.onPolynomial secret coefficients),
    (recovery_eq_ok hmay hsetUp hfirst).mpr ⟨henough, rfl⟩,
    mapM_eq_ok fun share hshare =>
      (keyShare_of_mem_shareEntries hbytes hsplit (hmem share hshare)).1,
    reconstructSecret_of_subset ?_ hsplit ?_ ?_ ?_⟩
  · have hlength := hsetUp.2.1
    rw [shareBlobs, List.length_map, length_of_splitSecret hsplit] at hlength
    omega
  · intro key hkey
    obtain ⟨share, hshare, rfl⟩ := List.mem_map.mp hkey
    exact (keyShare_of_mem_shareEntries hbytes hsplit (hmem share hshare)).2
  · refine List.pairwise_map.mpr ((nodup_shareIndex hmem (hguardian ▸ hkept.nodup)).imp_of_mem ?_)
    intro share share' hshare hshare' hne heq
    refine hne ?_
    rw [← toNat_index_of_mem_shareEntries hsplit (hmem share hshare), heq,
      toNat_index_of_mem_shareEntries hsplit (hmem share' hshare')]
  · have hlength := congrArg List.length hguardian
    rw [List.length_map] at hlength ⊢
    omega

end Recovery

/-- A call that is no deposit or rotation leaves the last one. -/
theorem ConfiguredLast.append {config : List Address × List Bytes × Nat}
    (h : ConfiguredLast host issuer config calls) {op : EscrowOp}
    (hop : call.op = .annex (.escrow op)) (hconfig : op.configuration = none) :
    ConfiguredLast host issuer config (calls ++ [call]) := by
  refine (Machine.since_append_singleton _).mpr (.inr ⟨h, ?_⟩)
  rintro ⟨-, op', hop', -, hconfig'⟩
  cases hop.symm.trans hop'
  exact hconfig' hconfig

end AnnexedWorld

namespace Sample

/-- The shares of a 2-of-`n` split of 5 over a small field. -/
def keyShares (n : Nat) : List (KeyShare 17) :=
  (List.range' 1 n).map fun i => shareAt 5 [3] (UInt32.ofNat i)

/-- The issuer escrows a key with these guardians and the threshold two. -/
def escrowKey (guardians : List Address) : List AnnexedCall :=
  [proper initialized, annexed (.role (.assignRole admin issuer 2 0)),
    annexed (.escrow (.depositKeyEscrow issuer guardians (shareBlobs (keyShares guardians.length))
      2))]

/-- A guardian submits. -/
def submits (guardian : Address) : AnnexedCall :=
  annexed (.escrow (.submitRecoveryShare guardian issuer))

/-- Alice is named twice and bob once, and both submit. -/
def aliceTwice : List AnnexedCall :=
  escrowKey [alice, bob, alice] ++ [submits bob] ++ [submits alice]

/-- Alice is the only guardian, named twice, and submits. -/
def aliceAlone : List AnnexedCall := escrowKey [alice, alice] ++ [submits alice]

end Sample

namespace AnnexedWorld

open Sample

/-- Alice and bob get the key back, with the later of alice's shares. -/
theorem escrow_recoverable_twice :
    Escrowed host issuer [alice, bob, alice] 2 (5 : ZMod 17) aliceTwice ∧
      (after host aliceTwice).GivesBack host recoverIssuer admin issuer (5 : ZMod 17) := by
  have hescrowed : Escrowed host issuer [alice, bob, alice] 2 (5 : ZMod 17) aliceTwice := by
    refine ⟨[3], 3, keyShares 3, rfl, by decide +kernel, ?_⟩
    refine ConfiguredLast.append (ConfiguredLast.append ?_ rfl rfl) rfl rfl
    exact .inr (.inr (.inl ⟨⟨⟨_, rfl⟩, _, rfl, rfl, rfl⟩, id⟩))
  refine ⟨hescrowed, (escrow_recoverable host aliceTwice recoverIssuer admin issuer
    [alice, bob, alice] 2 5 (by decide) (by decide) hescrowed ?_ ?_
    ⟨rfl, ⟨_, rfl⟩, .inr rfl⟩).mpr (by decide)⟩
  · exact fun guardian hguardian => mem_submissions_after.mp (by revert guardian; decide +kernel)
  · rw [← spent_after]
    decide +kernel

/-- **A list that names somebody twice can be accepted and never reach the threshold**: alice is
both guardians of a 2-of-2 split, has submitted, and `recover_key` asks for one more. -/
theorem not_escrow_recoverable :
    ¬ ∀ (host : Host) (calls : List AnnexedCall) (call : AnnexedCall) (caller issuer : Address)
      (guardians : List Address) (threshold : Nat) (secret : ZMod 17), guardians.length < 17 →
      Escrowed host issuer guardians threshold secret calls →
      (∀ guardian ∈ guardians, SubmittedSince host issuer guardian calls) →
      ¬ RecoveredBefore host issuer calls →
      (after host calls).MayRecover host call caller issuer →
      (after host calls).GivesBack host call caller issuer secret := by
  intro h
  have hescrowed : Escrowed host issuer [alice, alice] 2 (5 : ZMod 17) aliceAlone := by
    refine ⟨[3], 2, keyShares 2, rfl, by decide +kernel, ConfiguredLast.append ?_ rfl rfl⟩
    exact .inr (.inr (.inl ⟨⟨⟨_, rfl⟩, _, rfl, rfl, rfl⟩, id⟩))
  have hspent : ¬ RecoveredBefore host issuer aliceAlone := by
    rw [← spent_after]
    decide +kernel
  obtain ⟨returned, -, hreturned, -⟩ := h host aliceAlone recoverIssuer admin issuer
    [alice, alice] 2 5 (by decide) hescrowed
    (fun guardian hguardian => mem_submissions_after.mp (by revert guardian; decide +kernel))
    hspent ⟨rfl, ⟨_, rfl⟩, .inr rfl⟩
  have hfails : (after host aliceAlone).recovery host recoverIssuer admin issuer =
      .error (.contract .insufficientShares) := rfl
  exact absurd (hfails.symm.trans hreturned) (by simp)

end AnnexedWorld

end QuorumProof
