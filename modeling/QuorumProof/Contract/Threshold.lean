import QuorumProof.Contract.Entry
import Mathlib.Data.List.Dedup
import Mathlib.Data.Nat.Bitwise

/-!
# Contract/Threshold — aggregated signatures and who is behind them

`verify_threshold_attestation` answers by the number of signatures its caller gives.  Who has signed
it reads off a bitmap of 64 bits, one for each member of the slice, and only to store it; the bit of
the 65th member is shifted out of the word, which aborts the call.  A positive answer says nothing
about the members or the credential beyond what holds of them anyway.

Source: `verify_threshold_attestation`, `slice_enhancements.rs`.
-/

namespace QuorumProof

open Guarded

structure AggregatedSignature where
  signature : Bytes
  signerBitmap : Nat
  signatureCount : Nat
  aggregatedAt : Nat
  deriving DecidableEq, Repr

structure ThresholdVerificationResult where
  isValid : Bool
  signaturesPresent : Nat
  thresholdRequired : Nat
  signatories : List Address
  verifiedAt : Nat
  deriving DecidableEq, Repr

/-- `1u64 << bit_position`. -/
def shiftedBit (bitPosition : Nat) : Except Fault Nat :=
  if bitPosition < 64 then .ok (2 ^ bitPosition) else .error .overflow

/-- One turn of the loop over the members. -/
def pushSignatory (signerBitmap : Nat) (signatories : List Address) (member : Address × Nat) :
    Except Fault (List Address) := do
  let bit ← shiftedBit member.2
  return if signerBitmap &&& bit ≠ 0 then signatories ++ [member.1] else signatories

def State.verifyThresholdAttestation (env : Env) (s : State)
    (cache : Store (Nat × Nat) ThresholdVerificationResult) (credentialId sliceId : Nat)
    (aggregatedSig : AggregatedSignature) :
    Except Fault ((State × Store (Nat × Nat) ThresholdVerificationResult) × Bool) := do
  let control ← s.control.requireNotPaused env
  let slice ← expect (s.slices.slices sliceId) (.contract .sliceNotFound)
  let meetsThreshold := decide (slice.threshold ≤ aggregatedSig.signatureCount)
  let signatories ←
    slice.attestors.zipIdx.foldlM (pushSignatory aggregatedSig.signerBitmap) []
  let result : ThresholdVerificationResult :=
    { isValid := meetsThreshold, signaturesPresent := aggregatedSig.signatureCount
      thresholdRequired := slice.threshold, signatories := signatories, verifiedAt := env.now }
  return (({ s with control := control }, cache.set (credentialId, sliceId) result),
    meetsThreshold)

/-- The members of a slice whose bit is set. -/
def QuorumSlice.signers (slice : QuorumSlice) (signerBitmap : Nat) : List Address :=
  (slice.attestors.zipIdx.filter fun member => signerBitmap.testBit member.2).map Prod.fst

/-! ## The loop -/

section Loop

variable (signerBitmap : Nat) {members : List (Address × Nat)}

theorem pushSignatory_of_lt {member : Address × Nat} (h : member.2 < 64)
    (signatories : List Address) :
    pushSignatory signerBitmap signatories member =
      .ok (if signerBitmap.testBit member.2 then signatories ++ [member.1] else signatories) := by
  simp only [pushSignatory, shiftedBit, if_pos h, bind, Except.bind, Nat.and_two_pow]
  cases signerBitmap.testBit member.2 <;> simp [pure, Except.pure]

theorem pushSignatory_of_ge {member : Address × Nat} (h : 64 ≤ member.2)
    (signatories : List Address) :
    pushSignatory signerBitmap signatories member = .error .overflow := by
  simp only [pushSignatory, shiftedBit, if_neg h.not_gt]
  rfl

/-- **Up to 64 members, the loop collects those whose bit is set.** -/
theorem foldlM_pushSignatory (h : ∀ member ∈ members, member.2 < 64)
    (signatories : List Address) :
    members.foldlM (pushSignatory signerBitmap) signatories = .ok (signatories ++
      (members.filter fun member => signerBitmap.testBit member.2).map Prod.fst) := by
  induction members generalizing signatories with
  | nil => exact congrArg Except.ok (List.append_nil signatories).symm
  | cons member members ih =>
    rw [List.foldlM_cons, pushSignatory_of_lt signerBitmap (h member (by simp))]
    refine (ih (fun m hm => h m (by simp [hm])) _).trans ?_
    cases hbit : signerBitmap.testBit member.2 <;> simp [hbit]

/-- **A 65th member aborts it.** -/
theorem foldlM_pushSignatory_overflow {member : Address × Nat} (hmember : member ∈ members)
    (h : 64 ≤ member.2) (signatories : List Address) :
    members.foldlM (pushSignatory signerBitmap) signatories = .error .overflow := by
  induction members generalizing signatories with
  | nil => exact absurd hmember List.not_mem_nil
  | cons first members ih =>
    rw [List.foldlM_cons]
    by_cases hfirst : 64 ≤ first.2
    · rw [pushSignatory_of_ge signerBitmap hfirst]
      rfl
    · rw [pushSignatory_of_lt signerBitmap (Nat.lt_of_not_le hfirst)]
      rcases List.mem_cons.mp hmember with rfl | hmember
      · exact absurd h hfirst
      · exact ih hmember _

theorem foldlM_pushSignatory_of_large {attestors : List Address} (h : 64 < attestors.length) :
    attestors.zipIdx.foldlM (pushSignatory signerBitmap) [] = .error .overflow := by
  have hmember : (attestors[64], 64) ∈ attestors.zipIdx :=
    List.mem_zipIdx_iff_getElem?.mpr (List.getElem?_eq_getElem h)
  exact foldlM_pushSignatory_overflow signerBitmap hmember (Nat.le_refl 64) []

end Loop

namespace State

variable {env : Env} {s : State} {cache : Store (Nat × Nat) ThresholdVerificationResult}
  {credentialId sliceId : Nat} {aggregatedSig : AggregatedSignature} {slice : QuorumSlice}

/-- **Larger slices cannot be verified**: past the guard the call aborts, whoever has signed. -/
theorem verifyThresholdAttestation_overflow (hslice : s.slices.slices sliceId = some slice)
    (hsize : 64 < slice.attestors.length) {control : Control}
    (hguard : s.control.requireNotPaused env = .ok control) :
    s.verifyThresholdAttestation env cache credentialId sliceId aggregatedSig =
      .error .overflow := by
  have hloop := foldlM_pushSignatory_of_large aggregatedSig.signerBitmap hsize
  simp only [verifyThresholdAttestation, hguard, hslice, expect, bind, Except.bind, hloop]

/-- The guard at the entry does no arithmetic that can overflow. -/
theorem requireNotPaused_ne_overflow (env : Env) (c : Control) :
    c.requireNotPaused env ≠ .error .overflow := by
  unfold Control.requireNotPaused Control.enforceDegradedWriteLimit
  dsimp only
  split_ifs <;> simp

/-- **Up to 64 members, the verdict is the comparison of the number with the threshold.** -/
theorem verifyThresholdAttestation_eq (hslice : s.slices.slices sliceId = some slice)
    (hsize : slice.attestors.length ≤ 64) {control : Control}
    (hguard : s.control.requireNotPaused env = .ok control) :
    ∃ s' : State, s'.registry = s.registry ∧ ∃ cache',
      s.verifyThresholdAttestation env cache credentialId sliceId aggregatedSig =
        .ok ((s', cache'), decide (slice.threshold ≤ aggregatedSig.signatureCount)) := by
  have hbits : ∀ member ∈ slice.attestors.zipIdx, member.2 < 64 := fun member hmember =>
    (List.snd_lt_of_mem_zipIdx hmember).trans_le (by omega)
  have hloop := foldlM_pushSignatory aggregatedSig.signerBitmap hbits []
  refine ⟨{ s with control := control }, rfl, ?_⟩
  simp only [verifyThresholdAttestation, hguard, hslice, expect, bind, Except.bind, hloop]
  exact ⟨_, rfl⟩

/-- **When the call is sound**: exactly if the guard refuses it, or the slice has at most 64 members
and the number of signatures is below the threshold, or the credential is live and the distinct
members whose bit is set reach the threshold. -/
theorem verifyThresholdAttestation_sound_iff (env : Env) (s : State)
    (cache : Store (Nat × Nat) ThresholdVerificationResult) (credentialId sliceId : Nat)
    (aggregatedSig : AggregatedSignature) (slice : QuorumSlice)
    (hslice : s.slices.slices sliceId = some slice) :
    (s.verifyThresholdAttestation env cache credentialId sliceId aggregatedSig ≠
        .error .overflow ∧
      Ensures (s.verifyThresholdAttestation env cache credentialId sliceId aggregatedSig) fun r =>
        r.2 = true → (∃ c ∈ r.1.1.registry.credentials credentialId, c.revoked = false) ∧
          slice.threshold ≤ (slice.signers aggregatedSig.signerBitmap).dedup.length) ↔
    (∃ fault, s.control.requireNotPaused env = .error fault) ∨
      slice.attestors.length ≤ 64 ∧
        (aggregatedSig.signatureCount < slice.threshold ∨
          (∃ c ∈ s.registry.credentials credentialId, c.revoked = false) ∧
            slice.threshold ≤ (slice.signers aggregatedSig.signerBitmap).dedup.length) := by
  cases hguard : s.control.requireNotPaused env with
  | error fault =>
    have hcall : s.verifyThresholdAttestation env cache credentialId sliceId aggregatedSig =
        .error fault := by
      simp only [verifyThresholdAttestation, hguard, bind, Except.bind]
    have hfault : fault ≠ .overflow := fun h => requireNotPaused_ne_overflow env _ (h ▸ hguard)
    simp [hcall, hfault, Ensures]
  | ok control =>
    by_cases hsize : slice.attestors.length ≤ 64
    · obtain ⟨s', hregistry, cache', hcall⟩ := verifyThresholdAttestation_eq hslice hsize hguard
      rw [hcall, ensures_ok, hregistry, decide_eq_true_iff, ← not_le, ← imp_iff_not_or]
      simp [hsize]
    · have hloop := foldlM_pushSignatory_of_large aggregatedSig.signerBitmap
        (Nat.lt_of_not_le hsize)
      simp [verifyThresholdAttestation, hguard, hslice, expect, bind, Except.bind, hloop, hsize]

end State

/-! ## A verdict nobody has signed -/

namespace Sample

/-- A slice of one member, who has attested nothing. -/
def threshold : State :=
  (World.after host [initialized, issue alice 1, createSlice [bob] [1] 1]).state

/-- A slice of 65 members, which the admin has allowed. -/
def largeSlice : State :=
  (World.after host [initialized, call admin (.slice (.setMaxAttestorsPerSlice admin 65)),
    createSlice ((List.range 65).map (⟨·⟩)) (List.replicate 65 1) 1]).state

/-- A signature that claims to be one of so many. -/
def signature (signerBitmap signatureCount : Nat) : AggregatedSignature :=
  { signature := [], signerBitmap := signerBitmap, signatureCount := signatureCount
    aggregatedAt := 0 }

def env : Env := { host with now := 0, auths := [] }

end Sample

namespace State

open Sample

theorem verifyThresholdAttestation_overflow_large :
    largeSlice.verifyThresholdAttestation env (fun _ => none) 1 1 (signature 1 1) =
      .error .overflow := by
  have hslice : largeSlice.slices.slices 1 =
      some ⟨1, admin, (List.range 65).map (⟨·⟩), List.replicate 65 1, 1, false⟩ := by
    decide +kernel
  have hguard : (largeSlice.control.requireNotPaused env).toBool = true := by decide +kernel
  cases hcontrol : largeSlice.control.requireNotPaused env with
  | error fault =>
    rw [hcontrol] at hguard
    cases hguard
  | ok control => exact verifyThresholdAttestation_overflow hslice (by simp) hcontrol

/-- The member signs for a credential there is, and the verdict is positive. -/
theorem verifyThresholdAttestation_sound_signed :
    (threshold.verifyThresholdAttestation env (fun _ => none) 1 1 (signature 1 1)).map Prod.snd =
        .ok true ∧
      threshold.verifyThresholdAttestation env (fun _ => none) 1 1 (signature 1 1) ≠
        .error .overflow :=
  ⟨by decide, ((verifyThresholdAttestation_sound_iff env threshold (fun _ => none) 1 1
    (signature 1 1) _ rfl).mpr (.inr ⟨by decide, .inr ⟨by decide, by decide⟩⟩)).1⟩

/-- **A positive verdict on a credential there is not, with nobody's bit set.** -/
theorem not_verifyThresholdAttestation_sound :
    (threshold.verifyThresholdAttestation env (fun _ => none) 7 1 (signature 0 1)).map Prod.snd =
        .ok true ∧
      threshold.registry.credentials 7 = none ∧
      (threshold.slices.slices 1).map (fun slice => (slice.threshold, slice.signers 0)) =
        some (1, []) := by
  decide

end State

end QuorumProof
