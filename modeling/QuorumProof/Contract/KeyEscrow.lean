import QuorumProof.Contract.Annex

/-!
# Contract/KeyEscrow — who has let a key be recovered

An escrow is three stores: the escrow itself with its guardians, a share for each guardian, and the
list of the guardians that have submitted.  A `Vault` is what they have of one issuer.  A deposit
writes the first two, a rotation all three, a cancellation the last; and `Vault.Kept` ties them
together, so that what `recover_key` reads off the last two is what the guardians of the first have
agreed to since.

Source: `key_escrow.rs`.
-/

namespace QuorumProof

open Guarded

/-! ## Shares in storage -/

namespace Escrows

variable {issuer guardian : Address}

/-- The last of the entries for a guardian. -/
def lastEntry (entries : List GuardianShare) (guardian : Address) : Option GuardianShare :=
  entries.reverse.find? (·.guardian = guardian)

theorem storeShares_apply (issuer : Address) (m : Store (Address × Address) GuardianShare)
    (entries : List GuardianShare) (k : Address × Address) :
    storeShares issuer m entries k =
      if k.1 = issuer then (lastEntry entries k.2).or (m k) else m k := by
  obtain ⟨issuer', guardian⟩ := k
  induction entries using List.reverseRecOn with
  | nil => simp [storeShares, lastEntry]
  | append_singleton entries entry ih =>
    rw [storeShares, List.foldl_append] at *
    rw [List.foldl_cons, List.foldl_nil, Store.set_apply, ih, lastEntry, lastEntry,
      List.reverse_append, List.reverse_singleton, List.singleton_append, List.find?_cons]
    by_cases hissuer : issuer' = issuer <;> by_cases hguardian : guardian = entry.guardian <;>
      simp [hissuer, hguardian, eq_comm (a := entry.guardian)]

theorem dropShares_apply (issuer : Address) (m : Store (Address × Address) GuardianShare)
    (guardians : List Address) (k : Address × Address) :
    dropShares issuer m guardians k =
      if k.1 = issuer ∧ k.2 ∈ guardians then none else m k := by
  obtain ⟨issuer', guardian⟩ := k
  induction guardians using List.reverseRecOn with
  | nil => simp [dropShares]
  | append_singleton guardians dropped ih =>
    rw [dropShares, List.foldl_append] at *
    rw [List.foldl_cons, List.foldl_nil, Store.remove_apply, ih]
    by_cases hissuer : issuer' = issuer <;> by_cases hguardian : guardian = dropped <;>
      simp [hissuer, hguardian]

theorem lastEntry_eq_some {entries : List GuardianShare} {share : GuardianShare}
    (h : lastEntry entries guardian = some share) : share ∈ entries ∧ share.guardian = guardian :=
  ⟨List.mem_reverse.mp (List.mem_of_find?_eq_some h), by simpa using List.find?_some h⟩

/-- The guardians of a configuration have an entry each. -/
theorem lastEntry_isSome_iff {guardians : List Address} {shares : List Bytes}
    (hlength : guardians.length = shares.length) :
    (lastEntry (shareEntries guardians shares) guardian).isSome ↔ guardian ∈ guardians := by
  have hmap : (shareEntries guardians shares).map (·.guardian) = guardians := by
    calc (shareEntries guardians shares).map (·.guardian)
        = ((guardians.zip shares).zipIdx.map Prod.fst).map Prod.fst := by
          simp only [shareEntries, List.map_map, Function.comp_def]
      _ = guardians := by
          rw [List.zipIdx_map_fst, List.map_fst_zip hlength.le]
  conv_rhs => rw [← hmap]
  simp [lastEntry, List.find?_isSome]

end Escrows

/-! ## What one operation does -/

namespace EscrowOp

/-- What an operation sets up: guardians, their shares and the threshold. -/
def configuration : EscrowOp → Option (List Address × List Bytes × Nat)
  | depositKeyEscrow _ guardians shares threshold => some (guardians, shares, threshold)
  | rotateKeyEscrowGuardians _ guardians shares threshold => some (guardians, shares, threshold)
  | _ => none

/-- Whose recovery an operation makes start over. -/
def restarts : EscrowOp → Option Address
  | depositKeyEscrow issuer .. | rotateKeyEscrowGuardians issuer .. | cancelKeyRecovery issuer =>
    some issuer
  | _ => none

/-- Whose escrow an operation is about. -/
def issuer : EscrowOp → Address
  | depositKeyEscrow issuer .. | rotateKeyEscrowGuardians issuer .. => issuer
  | submitRecoveryShare _ issuer | recoverKey _ issuer | cancelKeyRecovery issuer => issuer

/-- Whose key an operation recovers. -/
def recovers : EscrowOp → Option Address
  | recoverKey _ issuer => some issuer
  | _ => none

/-- An operation starts over and recovers for the issuer it is about. -/
theorem issuer_of_restarts {op : EscrowOp} {issuer : Address} (h : op.restarts = some issuer) :
    op.issuer = issuer := by
  cases op <;> cases h <;> rfl

theorem issuer_of_recovers {op : EscrowOp} {issuer : Address} (h : op.recovers = some issuer) :
    op.issuer = issuer := by
  cases op <;> cases h
  rfl

end EscrowOp

open Escrows

/-- What the three stores have of one issuer. -/
@[ext] structure Vault where
  escrow : Option KeyEscrow
  share : Address → Option GuardianShare
  submissions : List Address

def Escrows.vault (e : Escrows) (issuer : Address) : Vault where
  escrow := e.escrow issuer
  share guardian := e.guardianShare (issuer, guardian)
  submissions := e.submissions issuer

namespace Vault

/-- `guardian` is one of the issuer's. -/
def IsGuardian (v : Vault) (guardian : Address) : Prop :=
  ∃ escrow ∈ v.escrow, guardian ∈ escrow.guardians

/-- The issuer's key has been recovered. -/
def Spent (v : Vault) : Prop := ∃ escrow ∈ v.escrow, escrow.recovered = true
  deriving Decidable

/-- **An issuer's guardians hold a share each and nobody else does**, and only they have submitted,
each once. -/
structure Kept (issuer : Address) (v : Vault) : Prop where
  named : ∀ escrow ∈ v.escrow, escrow.issuer = issuer
  nodup : v.submissions.Nodup
  submitters : ∀ guardian ∈ v.submissions, v.IsGuardian guardian
  shares : ∀ guardian, (v.share guardian).isSome ↔ v.IsGuardian guardian

/-- The vault of an issuer that has set up guardians, their shares and a threshold. -/
def setUp (issuer : Address) (guardians : List Address) (blobs : List Bytes)
    (threshold createdAt : Nat) : Vault where
  escrow := some
    { issuer := issuer, threshold := threshold, totalShares := guardians.length
      guardians := guardians, createdAt := createdAt, recovered := false }
  share := lastEntry (shareEntries guardians blobs)
  submissions := []

/-- **What an operation on it does to the vault of an issuer.** -/
inductive Step (issuer : Address) (v : Vault) : Option EscrowOp → Vault → Prop
  | idle : Step issuer v none v
  | configured {op : EscrowOp} {guardians : List Address} {blobs : List Bytes}
      {threshold createdAt : Nat} (hissuer : op.issuer = issuer)
      (hop : op.configuration = some (guardians, blobs, threshold))
      (hlength : guardians.length = blobs.length) (hunspent : ¬ v.Spent) :
      Step issuer v (some op) (setUp issuer guardians blobs threshold createdAt)
  | submitted {guardian : Address} (hguardian : v.IsGuardian guardian)
      (hnew : guardian ∉ v.submissions) :
      Step issuer v (some (.submitRecoveryShare guardian issuer))
        { v with submissions := v.submissions ++ [guardian] }
  | recovered {caller : Address} {escrow : KeyEscrow} (hold : v.escrow = some escrow)
      (hunspent : ¬ v.Spent) :
      Step issuer v (some (.recoverKey caller issuer))
        { v with escrow := some { escrow with recovered := true } }
  | cancelled : Step issuer v (some (.cancelKeyRecovery issuer)) { v with submissions := [] }

end Vault

open Vault

theorem Escrows.ensures_unspent {e : Escrows} {issuer : Address} {Q : KeyEscrow → Prop} :
    Ensures (e.unspent issuer) Q ↔
      ∀ escrow, e.escrow issuer = some escrow → escrow.recovered = false → Q escrow := by
  simp [unspent]

/-- An operation on an escrow that is not the issuer's. -/
theorem EscrowOp.vault_of_ne (env : Env) (c : Control) (r : Roles) (e : Escrows) {op : EscrowOp}
    {issuer : Address} (hop : op.issuer ≠ issuer) :
    Ensures (op.write env c r e) fun e' => e'.vault issuer = e.vault issuer := by
  cases op <;>
  · simp only [EscrowOp.issuer] at hop
    simp only [write, Escrows.depositKeyEscrow, Escrows.rotateKeyEscrowGuardians,
      Escrows.submitRecoveryShare, Escrows.recoverKey, Escrows.cancelKeyRecovery, ensures_steps,
      ensures_unspent]
    intros
    simp [Escrows.vault, Escrows.submissions, Store.set_of_ne (Ne.symm hop),
      Store.remove_of_ne (Ne.symm hop), storeShares_apply, dropShares_apply, Ne.symm hop]

/-- **Every operation is one of these steps.**  A deposit and a rotation start afresh: nobody has
submitted, and where the new shares go, there are none. -/
theorem EscrowOp.vaultStep (env : Env) (c : Control) (r : Roles) {e : Escrows} {op : EscrowOp}
    {issuer : Address} (heq : op.issuer = issuer) (hkept : (e.vault issuer).Kept issuer) :
    Ensures (op.write env c r e) fun e' =>
      Step issuer (e.vault issuer) (some op) (e'.vault issuer) := by
  have hspent : ∀ {escrow}, e.escrow issuer = some escrow → escrow.recovered = false →
      ¬ (e.vault issuer).Spent := by
    rintro escrow hold hunspent ⟨escrow', hold', hspent⟩
    obtain rfl := Option.mem_unique hold hold'
    exact absurd (hunspent.symm.trans hspent) (by simp)
  cases op with
  | depositKeyEscrow who guardians shares threshold =>
    obtain rfl : who = issuer := heq
    simp only [write, Escrows.depositKeyEscrow, checkConfig, ensures_steps, require_eq_ok]
    intro _ hlength _ hnone
    have hno : ∀ guardian, ¬ (e.vault who).IsGuardian guardian := by
      simp [IsGuardian, Escrows.vault, hnone]
    have hunspent : ¬ (e.vault who).Spent := by simp [Spent, Escrows.vault, hnone]
    have hstep : Step who (e.vault who) (some (.depositKeyEscrow who guardians shares threshold))
        (setUp who guardians shares threshold env.now) := .configured rfl rfl hlength hunspent
    convert hstep using 1
    refine Vault.ext (Store.set_self _ _ _) (funext fun guardian => ?_)
      (List.eq_nil_iff_forall_not_mem.mpr fun g hg => hno g (hkept.submitters g hg))
    have hfree : e.guardianShare (who, guardian) = none :=
      Option.not_isSome_iff_eq_none.mp fun h => hno guardian ((hkept.shares guardian).mp h)
    simp [Escrows.vault, setUp, storeShares_apply, hfree]
  | rotateKeyEscrowGuardians who guardians shares threshold =>
    obtain rfl : who = issuer := heq
    simp only [write, Escrows.rotateKeyEscrowGuardians, checkConfig, ensures_steps, ensures_unspent,
      require_eq_ok]
    intro _ old hold hunspent hlength _
    have hstep : Step who (e.vault who)
        (some (.rotateKeyEscrowGuardians who guardians shares threshold))
        (setUp who guardians shares threshold old.createdAt) :=
      .configured rfl rfl hlength (hspent hold hunspent)
    convert hstep using 1
    refine Vault.ext ?_ (funext fun guardian => ?_) ?_
    · simp [Escrows.vault, setUp, hkept.named old hold]
    · have hfree : guardian ∈ old.guardians ∨ e.guardianShare (who, guardian) = none := by
        by_contra hnot
        obtain ⟨hout, hshare⟩ := not_or.mp hnot
        obtain ⟨_, hold', hin⟩ :=
          (hkept.shares guardian).mp (Option.isSome_iff_ne_none.mpr hshare)
        exact hout (Option.mem_unique hold hold' ▸ hin)
      rcases hfree with hfree | hfree <;>
        simp [Escrows.vault, setUp, storeShares_apply, dropShares_apply, hfree]
    · simp [Escrows.vault, setUp, Escrows.submissions]
  | submitRecoveryShare guardian who =>
    obtain rfl : who = issuer := heq
    simp only [write, Escrows.submitRecoveryShare, ensures_steps, ensures_unspent, require_eq_ok]
    intro escrow hold _ hguardian hnew
    convert Step.submitted (v := e.vault who) ⟨escrow, hold, hguardian⟩ hnew using 1
    simp [Escrows.vault, Escrows.submissions]
  | recoverKey caller who =>
    obtain rfl : who = issuer := heq
    simp only [write, Escrows.recoverKey, ensures_steps, ensures_unspent]
    intro escrow hold hunspent _ _ _ _
    convert Step.recovered (v := e.vault who) hold (hspent hold hunspent) using 1
    simp [Escrows.vault, Escrows.submissions]
  | cancelKeyRecovery who =>
    obtain rfl : who = issuer := heq
    simp only [write, Escrows.cancelKeyRecovery, ensures_bind, ensures_unspent, ensures_pure]
    intro _ _ _
    convert Step.cancelled (v := e.vault who) using 1
    simp [Escrows.vault, Escrows.submissions]

/-! ## The three stores together -/

namespace Vault

variable {v v' : Vault} {op : Option EscrowOp} {issuer guardian : Address}

/-- **Every operation keeps the three stores together.** -/
theorem Kept.step (h : v.Kept issuer) (hstep : Step issuer v op v') : v'.Kept issuer := by
  cases hstep with
  | idle => exact h
  | configured _ _ hlength _ =>
    refine ⟨by rintro _ ⟨⟩; rfl, List.nodup_nil, fun _ hg => absurd hg List.not_mem_nil, ?_⟩
    intro guardian
    rw [setUp, lastEntry_isSome_iff hlength]
    simp [IsGuardian]
  | submitted hguardian hnew =>
    refine { h with
      nodup := h.nodup.append (List.nodup_singleton _) (by simpa using hnew)
      submitters := fun g hg => ?_ }
    rcases List.mem_append.mp hg with hold | hlast
    · exact h.submitters g hold
    · exact List.mem_singleton.mp hlast ▸ hguardian
  | @recovered _ escrow hold _ =>
    have hguardian : ∀ g, v.IsGuardian g ↔ g ∈ escrow.guardians := by simp [IsGuardian, hold]
    refine ⟨by rintro _ ⟨⟩; exact h.named escrow hold, h.nodup, fun g hg => ?_, fun g => ?_⟩
    · simpa [IsGuardian] using (hguardian g).mp (h.submitters g hg)
    · rw [h.shares, hguardian]
      simp [IsGuardian]
  | cancelled =>
    exact { h with nodup := List.nodup_nil, submitters := fun _ hg => absurd hg List.not_mem_nil }

/-- **Who has submitted** after an operation: who has submitted before, unless the recovery starts
over, and the guardian that submits. -/
theorem Step.mem_submissions (h : Step issuer v op v') :
    guardian ∈ v'.submissions ↔ (∃ op' ∈ op, op' = .submitRecoveryShare guardian issuer) ∨
      guardian ∈ v.submissions ∧ ¬ ∃ op' ∈ op, op'.restarts = some issuer := by
  cases h with
  | @configured op _ _ _ _ hissuer hop _ _ =>
    subst hissuer
    cases op with
    | depositKeyEscrow | rotateKeyEscrowGuardians =>
      simp [setUp, EscrowOp.restarts, EscrowOp.issuer]
    | _ => cases hop
  | submitted => simp [EscrowOp.restarts, or_comm, eq_comm]
  | idle | recovered | cancelled => simp [EscrowOp.restarts]

/-- **A key that has been recovered stays so**, and only `recover_key` recovers one. -/
theorem Step.spent (h : Step issuer v op v') :
    v'.Spent ↔ v.Spent ∨ ∃ op' ∈ op, op'.recovers = some issuer := by
  cases h with
  | @configured op _ _ _ _ _ hop _ hunspent =>
    cases op with
    | depositKeyEscrow | rotateKeyEscrowGuardians =>
      simp [hunspent, EscrowOp.recovers]
      simp [Spent, setUp]
    | _ => cases hop
  | idle | submitted | recovered | cancelled => simp [Spent, EscrowOp.recovers]

/-- The vault is what a configuration says, and each guardian's share is theirs; or there was no
configuration. -/
def SetUp (v : Vault) : Option (List Address × List Bytes × Nat) → Prop
  | none => v.escrow = none
  | some (guardians, blobs, threshold) =>
    (∃ escrow, v.escrow = some escrow ∧ escrow.guardians = guardians ∧
      escrow.threshold = threshold) ∧ guardians.length = blobs.length ∧
    v.share = lastEntry (shareEntries guardians blobs)

/-- An operation that sets something up for the issuer replaces what was, and no other does. -/
theorem SetUp.step {last : Option (List Address × List Bytes × Nat)} (h : v.SetUp last)
    (hstep : Step issuer v op v') :
    (∃ op' config, op = some op' ∧ op'.issuer = issuer ∧ op'.configuration = some config ∧
      v'.SetUp (some config)) ∨
    (¬ ∃ op' ∈ op, op'.issuer = issuer ∧ op'.configuration ≠ none) ∧ v'.SetUp last := by
  cases hstep with
  | configured hissuer hop hlength _ =>
    exact .inl ⟨_, _, rfl, hissuer, hop, ⟨_, rfl, rfl, rfl⟩, hlength, rfl⟩
  | idle | submitted | cancelled =>
    exact .inr ⟨by simp [EscrowOp.configuration], by cases last <;> exact h⟩
  | recovered hold _ =>
    refine .inr ⟨by simp [EscrowOp.configuration], ?_⟩
    cases last with
    | none => exact absurd (hold.symm.trans h) (by simp)
    | some config =>
      obtain ⟨⟨escrow, hescrow, hguardians, hthreshold⟩, hrest⟩ := h
      obtain rfl := Option.mem_unique hold hescrow
      exact ⟨⟨_, rfl, hguardians, hthreshold⟩, hrest⟩

end Vault

/-! ## Whole runs -/

namespace AnnexedWorld

variable {host : Host} {w : AnnexedWorld} {call : AnnexedCall} {calls : List AnnexedCall}
  {issuer guardian : Address}

/-- A call of the escrows with `P` that completes. -/
def Does (host : Host) (P : EscrowOp → Prop) (w : AnnexedWorld) (call : AnnexedCall) : Prop :=
  w.Completes host call ∧ ∃ op, call.op = .annex (.escrow op) ∧ P op

/-- What is stored of an issuer's. -/
def vault (w : AnnexedWorld) (issuer : Address) : Vault := w.annex.escrows.vault issuer

/-- **A call does one operation on the escrow of an issuer, or none.** -/
theorem vault_next (host : Host) (w : AnnexedWorld) (call : AnnexedCall)
    (hkept : (w.vault issuer).Kept issuer) :
    ∃ op : Option EscrowOp,
      (∀ P, (∀ op, P op → op.issuer = issuer) → (Does host P w call ↔ ∃ op' ∈ op, P op')) ∧
      Step issuer (w.vault issuer) op ((w.next host call).vault issuer) := by
  rcases w.next_annex host call with ⟨hnone, hannex⟩ | ⟨op, hop, hcompletes, control, -, hwrite⟩
  · refine ⟨none, fun P _ => ⟨?_, by rintro ⟨_, ⟨⟩, _⟩⟩, ?_⟩
    · rintro ⟨hcompletes, op, hop, -⟩
      exact absurd hcompletes (hnone _ hop)
    · rw [vault, vault, hannex]
      exact .idle
  · cases op with
    | escrow op =>
      obtain ⟨e', he', heq⟩ := map_eq_ok.mp hwrite
      rw [vault, vault, ← heq]
      by_cases hissuer : op.issuer = issuer
      · exact ⟨some op, fun P _ => by simp [Does, hcompletes, hop],
          EscrowOp.vaultStep _ control w.annex.roles hissuer hkept e' he'⟩
      · refine ⟨none, fun P hP => ?_, ?_⟩
        · simpa [Does, hop] using fun _ h => hissuer (hP op h)
        · rw [EscrowOp.vault_of_ne _ control w.annex.roles _ hissuer e' he']
          exact .idle
    | _ =>
      obtain ⟨_, -, heq⟩ := map_eq_ok.mp hwrite
      refine ⟨none, fun P _ => by simp [Does, hop], ?_⟩
      rw [vault, vault, ← heq]
      exact .idle

theorem kept_next (h : (w.vault issuer).Kept issuer) :
    ((w.next host call).vault issuer).Kept issuer := by
  obtain ⟨op, -, hstep⟩ := w.vault_next host call h
  exact h.step hstep

theorem kept_deployed : (deployed.vault issuer).Kept issuer :=
  ⟨by rintro _ ⟨⟩, List.nodup_nil, fun _ hg => absurd hg List.not_mem_nil, fun _ =>
    ⟨nofun, nofun⟩⟩

theorem kept_after (host : Host) (calls : List AnnexedCall) (issuer : Address) :
    ((after host calls).vault issuer).Kept issuer :=
  Machine.run_invariant (I := fun w : AnnexedWorld => (w.vault issuer).Kept issuer)
    (fun _ _ h => kept_next h) kept_deployed calls

/-- `guardian` has submitted for the issuer, and the issuer has neither deposited nor rotated nor
cancelled since. -/
def SubmittedSince (host : Host) (issuer guardian : Address) (calls : List AnnexedCall) : Prop :=
  Machine.Since (next host) (Does host (· = .submitRecoveryShare guardian issuer))
    (Does host (·.restarts = some issuer)) deployed calls

/-- **The list of submissions says who has submitted** since the recovery last started over. -/
theorem mem_submissions_after : guardian ∈ (after host calls).annex.escrows.submissions issuer ↔
    SubmittedSince host issuer guardian calls := by
  refine Machine.flag_iff_since (I := fun w : AnnexedWorld => (w.vault issuer).Kept issuer)
    (P := fun w : AnnexedWorld => guardian ∈ (w.vault issuer).submissions)
    (fun _ _ h => kept_next h) (fun w call hkept => ?_) kept_deployed List.not_mem_nil calls
  obtain ⟨op, hdoes, hstep⟩ := w.vault_next host call hkept
  rw [hdoes _ (by rintro _ rfl; rfl), hdoes _ fun _ => EscrowOp.issuer_of_restarts]
  exact hstep.mem_submissions

/-- A completed `recover_key` for the issuer is among the calls. -/
def RecoveredBefore (host : Host) (issuer : Address) (calls : List AnnexedCall) : Prop :=
  Machine.Occurs (next host) (Does host (·.recovers = some issuer)) deployed calls

/-- **An escrow is marked as recovered when its key has been.** -/
theorem spent_after : ((after host calls).vault issuer).Spent ↔
    RecoveredBefore host issuer calls := by
  refine (Machine.flag_iff_occurs (I := fun w : AnnexedWorld => (w.vault issuer).Kept issuer)
    (P := fun w : AnnexedWorld => (w.vault issuer).Spent) (fun _ _ h => kept_next h)
    (fun w call hkept => ?_) kept_deployed calls).trans (or_iff_right ?_)
  · obtain ⟨op, hdoes, hstep⟩ := w.vault_next host call hkept
    rw [hdoes _ fun _ => EscrowOp.issuer_of_recovers]
    exact hstep.spent
  · rintro ⟨_, ⟨⟩, _⟩

/-- The issuer's last deposit or rotation has set up `config`. -/
def ConfiguredLast (host : Host) (issuer : Address) (config : List Address × List Bytes × Nat)
    (calls : List AnnexedCall) : Prop :=
  Machine.Since (next host)
    (Does host fun op => op.issuer = issuer ∧ op.configuration = some config)
    (Does host fun op => op.issuer = issuer ∧ op.configuration ≠ none) deployed calls

/-- **The vault is what the last deposit or rotation has set up.** -/
theorem setUp_after (host : Host) (calls : List AnnexedCall) (issuer : Address) :
    ∃ last, (∀ config, ConfiguredLast host issuer config calls ↔ last = some config) ∧
      ((after host calls).vault issuer).SetUp last := by
  induction calls using List.reverseRecOn with
  | nil => exact ⟨none, fun _ => ⟨False.elim, by rintro ⟨⟩⟩, rfl⟩
  | append_singleton calls call ih =>
    obtain ⟨last, hlast, hsetUp⟩ := ih
    obtain ⟨op, hdoes, hstep⟩ := (after host calls).vault_next host call (kept_after ..)
    rw [after_append]
    simp only [ConfiguredLast, Machine.since_append_singleton]
    have hdoes' (P : EscrowOp → Prop) :=
      hdoes (fun op => op.issuer = issuer ∧ P op) fun _ => And.left
    rcases hsetUp.step hstep with ⟨op', config, rfl, hissuer, hconfig, hsetUp⟩ | ⟨hnot, hsetUp⟩
    · refine ⟨some config, fun config' => ?_, hsetUp⟩
      refine (or_congr (hdoes' _) (and_congr_right' (not_congr (hdoes' _)))).trans ?_
      simp [hissuer, hconfig]
    · refine ⟨last, fun config' => ?_, hsetUp⟩
      have hother : ¬ ∃ op' ∈ op, op'.issuer = issuer ∧ op'.configuration = some config' := by
        rintro ⟨op', hin, hissuer, hconfig⟩
        exact hnot ⟨op', hin, hissuer, by simp [hconfig]⟩
      refine (or_congr (hdoes' _) (and_congr_right' (not_congr (hdoes' _)))).trans ?_
      rw [or_iff_right hother, and_iff_left hnot]
      exact hlast config'

/-! ## The gate -/

/-- What `recover_key` returns when a call makes it. -/
def recovery (host : Host) (w : AnnexedWorld) (call : AnnexedCall) (caller issuer : Address) :
    Except Fault (List GuardianShare) := do
  requireAuth (w.env host call) caller
  let control ← w.world.state.control.passGuard (w.env host call)
    (AnnexOp.escrow (.recoverKey caller issuer)).guard
  Prod.snd <$> w.annex.escrows.recoverKey control caller issuer

/-- **Who and what a recovery of shares takes**: enough of the present guardians, each of whom has
submitted since the recovery last started over, and the share that is stored for each of them, which
the last deposit or rotation has put there; and no recovery before. -/
structure EscrowGate (host : Host) (calls : List AnnexedCall) (issuer : Address)
    (shares : List GuardianShare) (escrow : KeyEscrow) (submitters : List Address)
    (blobs : List Bytes) : Prop where
  present : (after host calls).annex.escrows.escrow issuer = some escrow
  last : ConfiguredLast host issuer (escrow.guardians, blobs, escrow.threshold) calls
  distinct : submitters.Nodup
  submitted : ∀ guardian, guardian ∈ submitters ↔ SubmittedSince host issuer guardian calls
  guardians : ∀ guardian ∈ submitters, guardian ∈ escrow.guardians
  enough : escrow.threshold ≤ submitters.length
  stored : shares.map some = submitters.map fun guardian =>
    (after host calls).annex.escrows.guardianShare (issuer, guardian)
  fresh : ∀ share ∈ shares, share ∈ shareEntries escrow.guardians blobs
  first : ¬ RecoveredBefore host issuer calls

/-- **`recover_key` returns shares only past the gate.** -/
theorem key_escrow_gate (host : Host) (calls : List AnnexedCall) (call : AnnexedCall)
    (caller issuer : Address) (shares : List GuardianShare)
    (h : (after host calls).recovery host call caller issuer = .ok shares) :
    ∃ escrow submitters blobs, EscrowGate host calls issuer shares escrow submitters blobs := by
  have hkept := kept_after host calls issuer
  obtain ⟨last, hlast, hsetUp⟩ := setUp_after host calls issuer
  simp only [recovery, recoverKey, unspent, bind_eq_ok, map_eq_ok, pure_eq_ok, expect_eq_ok,
    require_eq_ok] at h
  obtain ⟨-, -, control, -, -,
    ⟨_, ⟨escrow, hescrow, -, hunspent, rfl⟩, -, -, -, -, -, henough, rfl⟩, rfl⟩ := h
  cases last with
  | none => exact absurd (hescrow.symm.trans hsetUp) (by simp)
  | some config =>
    obtain ⟨guardians, blobs, threshold⟩ := config
    obtain ⟨⟨_, hescrow', rfl, rfl⟩, -, hshares⟩ := hsetUp
    obtain rfl := Option.mem_unique hescrow hescrow'
    refine ⟨escrow, (after host calls).annex.escrows.submissions issuer, blobs,
      { present := hescrow, last := (hlast _).mpr rfl, distinct := hkept.nodup
        submitted := fun _ => mem_submissions_after, guardians := ?_, enough := henough
        stored := ?_, fresh := ?_, first := ?_ }⟩
    · intro guardian hguardian
      obtain ⟨_, hstored, hmem⟩ := hkept.submitters guardian hguardian
      exact Option.mem_unique hescrow hstored ▸ hmem
    · rw [List.map_filterMap_some_eq_filter_map_isSome, List.filter_eq_self]
      -- every submitter is a guardian, and so holds a share
      intro stored hstored
      obtain ⟨guardian, hguardian, rfl⟩ := List.mem_map.mp hstored
      exact (hkept.shares guardian).mpr (hkept.submitters guardian hguardian)
    · intro share hshare
      obtain ⟨guardian, -, hstored⟩ := List.mem_filterMap.mp hshare
      exact (lastEntry_eq_some ((congrFun hshares guardian).symm.trans hstored)).1
    · rw [← spent_after]
      rintro ⟨_, hstored, hspent⟩
      obtain rfl := Option.mem_unique hescrow hstored
      exact absurd (hunspent.symm.trans hspent) (by simp)

end AnnexedWorld

namespace Sample

/-- The issuer deposits shares for alice and bob, alice submits, the issuer gives them other shares,
and both submit. -/
def escrowed : List AnnexedCall :=
  [proper initialized, annexed (.role (.assignRole admin issuer 2 0)),
    annexed (.escrow (.depositKeyEscrow issuer [alice, bob] [[1], [2]] 2)),
    annexed (.escrow (.submitRecoveryShare alice issuer)),
    annexed (.escrow (.rotateKeyEscrowGuardians issuer [bob, alice] [[3], [4]] 2)),
    annexed (.escrow (.submitRecoveryShare alice issuer)),
    annexed (.escrow (.submitRecoveryShare bob issuer))]

/-- The administrator recovers the issuer's key. -/
def recoverIssuer : AnnexedCall := annexed (.escrow (.recoverKey admin issuer))

end Sample

namespace AnnexedWorld

open Sample

/-- The administrator gets the shares of the rotation. -/
theorem key_escrow_gate_two :
    (after host escrowed).recovery host recoverIssuer admin
        issuer = .ok [⟨alice, 2, [4]⟩, ⟨bob, 1, [3]⟩] ∧
      ∃ escrow submitters blobs, EscrowGate host escrowed issuer
        [⟨alice, 2, [4]⟩, ⟨bob, 1, [3]⟩] escrow submitters blobs :=
  ⟨by rfl, key_escrow_gate host escrowed recoverIssuer admin
    issuer _ rfl⟩

end AnnexedWorld

end QuorumProof
