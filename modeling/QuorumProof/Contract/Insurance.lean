import QuorumProof.Contract.ControlFrames
import QuorumProof.Contract.Ledger
import Mathlib.Algebra.Order.BigOperators.Group.List

/-!
# Contract/Insurance — what an insurance escrow pays out

A claim on an escrow is for no more than the escrow insures, and an approved claim is paid in full.
Nothing looks at the other claims on the escrow, or at its expiry.  As long as a claim is approved
only in time and while the escrow has enough left, the escrow is solvent (`Insurances.Solvent`).

Source: `create_insurance_escrow`, `submit_insurance_claim`, `approve_insurance_claim`.
-/

namespace QuorumProof

open Guarded

structure CredentialInsuranceEscrow where
  escrowId : Nat
  credentialId : Nat
  holder : Address
  issuer : Address
  insuranceAmount : Int
  premiumAmount : Int
  escrowCreatedAt : Nat
  escrowExpiry : Nat
  active : Bool
  deriving DecidableEq, Repr

structure InsuranceClaim where
  claimId : Nat
  escrowId : Nat
  claimant : Address
  claimAmount : Int
  claimReason : String
  claimSubmittedAt : Nat
  approved : Bool
  approvedAt : Option Nat
  payoutCompleted : Bool
  payoutAmount : Option Int
  deriving DecidableEq, Repr

/-- The storage of the insurance escrows. -/
structure Insurances where
  insuranceEscrow : Store Nat CredentialInsuranceEscrow
  insuranceEscrowCount : Nat
  insuranceClaim : Store Nat InsuranceClaim
  insuranceClaimCount : Nat

/-- What approving makes of a claim. -/
def InsuranceClaim.approve (now : Nat) (claim : InsuranceClaim) : InsuranceClaim :=
  { claim with
    approved := true
    approvedAt := some now
    payoutAmount := some claim.claimAmount
    payoutCompleted := true }

namespace Insurances

variable (env : Env) (s : State) (x : Insurances)

def empty : Insurances where
  insuranceEscrow := fun _ => none
  insuranceEscrowCount := 0
  insuranceClaim := fun _ => none
  insuranceClaimCount := 0

def createInsuranceEscrow (issuer : Address) (credentialId : Nat) (holder : Address)
    (insuranceAmount premiumAmount : Int) (escrowExpiry : Nat) :
    Except Fault (State × Insurances) := do
  requireAuth env issuer
  let control ← s.control.requireNotPaused env
  let c ← expect (s.registry.credentials credentialId) (.contract .credentialNotFound)
  require (c.issuer = issuer) (.panic "only the issuer can create insurance")
  require (insuranceAmount > 0) (.panic "insurance amount must be positive")
  require (premiumAmount > 0) (.panic "premium amount must be positive")
  let escrowId ← checkedAdd (2 ^ 64) x.insuranceEscrowCount 1
  let escrow : CredentialInsuranceEscrow :=
    { escrowId := escrowId, credentialId := credentialId, holder := holder, issuer := issuer
      insuranceAmount := insuranceAmount, premiumAmount := premiumAmount
      escrowCreatedAt := env.now, escrowExpiry := escrowExpiry, active := true }
  return ({ s with control := control }, { x with
    insuranceEscrowCount := escrowId
    insuranceEscrow := x.insuranceEscrow.set escrowId escrow })

/-- `submit_insurance_claim`.  The error it names for a missing escrow is none of
`ContractError`'s; so it is with a missing claim below. -/
def submitInsuranceClaim (claimant : Address) (escrowId : Nat) (claimAmount : Int)
    (claimReason : String) : Except Fault (State × Insurances) := do
  requireAuth env claimant
  let control ← s.control.requireNotPaused env
  let escrow ← expect (x.insuranceEscrow escrowId) (.panic "NotFound")
  require (escrow.active = true) (.panic "insurance escrow is not active")
  require (claimant = escrow.holder ∨ claimant = escrow.issuer)
    (.panic "only holder or issuer can claim")
  require (claimAmount > 0 ∧ claimAmount ≤ escrow.insuranceAmount) (.panic "invalid claim amount")
  let claimId ← checkedAdd (2 ^ 64) x.insuranceClaimCount 1
  let claim : InsuranceClaim :=
    { claimId := claimId, escrowId := escrowId, claimant := claimant, claimAmount := claimAmount
      claimReason := claimReason, claimSubmittedAt := env.now, approved := false
      approvedAt := none, payoutCompleted := false, payoutAmount := none }
  return ({ s with control := control }, { x with
    insuranceClaimCount := claimId
    insuranceClaim := x.insuranceClaim.set claimId claim })

def approveInsuranceClaim (issuer : Address) (claimId : Nat) :
    Except Fault (State × Insurances) := do
  requireAuth env issuer
  let control ← s.control.requireNotPaused env
  let claim ← expect (x.insuranceClaim claimId) (.panic "NotFound")
  let escrow ← expect (x.insuranceEscrow claim.escrowId) (.panic "NotFound")
  require (escrow.issuer = issuer) (.panic "only the issuer can approve claims")
  require (claim.approved = false) (.panic "claim already approved")
  return ({ s with control := control }, { x with
    insuranceClaim := x.insuranceClaim.set claimId (claim.approve env.now) })

end Insurances

/-- The entry points of the escrows. -/
inductive InsuranceOp
  | createInsuranceEscrow (issuer : Address) (credentialId : Nat) (holder : Address)
      (insuranceAmount premiumAmount : Int) (escrowExpiry : Nat)
  | submitInsuranceClaim (claimant : Address) (escrowId : Nat) (claimAmount : Int)
      (claimReason : String)
  | approveInsuranceClaim (issuer : Address) (claimId : Nat)

def InsuranceOp.apply (env : Env) (s : State) (x : Insurances) :
    InsuranceOp → Except Fault (State × Insurances)
  | createInsuranceEscrow issuer credentialId holder insuranceAmount premiumAmount escrowExpiry =>
    x.createInsuranceEscrow env s issuer credentialId holder insuranceAmount premiumAmount
      escrowExpiry
  | submitInsuranceClaim claimant escrowId claimAmount claimReason =>
    x.submitInsuranceClaim env s claimant escrowId claimAmount claimReason
  | approveInsuranceClaim issuer claimId => x.approveInsuranceClaim env s issuer claimId

/-- An entry point, of the contract proper or of the escrows. -/
inductive InsuredOp
  | contract (op : Op)
  | insurance (op : InsuranceOp)

def InsuredOp.apply (env : Env) (r : State × Insurances) :
    InsuredOp → Except Fault (State × Insurances)
  | contract op => (·, r.2) <$> op.apply env r.1
  | insurance op => op.apply env r.1 r.2

/-! ## What is paid -/

namespace Insurances

/-- A sum over the claims there are: they are numbered from one. -/
def total (x : Insurances) (f : InsuranceClaim → Int) : Int :=
  ((List.range (x.insuranceClaimCount + 1)).map fun id =>
    ((x.insuranceClaim id).map f).getD 0).sum

/-- What an escrow has paid out: the sum over its approved claims. -/
def paid (x : Insurances) (escrowId : Nat) : Int :=
  x.total fun claim =>
    if claim.escrowId = escrowId ∧ claim.approved = true then claim.payoutAmount.getD 0 else 0

/-- **An escrow pays out no more than it insures, and nothing after its expiry**; every claim counts
towards what is paid, because its number is one of those there are. -/
structure Solvent (x : Insurances) : Prop where
  numbered : ∀ id claim, x.insuranceClaim id = some claim → id ≤ x.insuranceClaimCount
  covered : ∀ escrowId escrow, x.insuranceEscrow escrowId = some escrow →
    x.paid escrowId ≤ escrow.insuranceAmount
  timely : ∀ id claim escrow, x.insuranceClaim id = some claim → claim.approved = true →
    x.insuranceEscrow claim.escrowId = some escrow →
    ∃ t ∈ claim.approvedAt, t ≤ escrow.escrowExpiry

/-- **A claim in order**: it is on an escrow there is, and in time if it is approved. -/
def Ordered (x : Insurances) (claim : InsuranceClaim) : Prop :=
  ∃ escrow ∈ x.insuranceEscrow claim.escrowId, claim.approved = true →
    ∃ t ∈ claim.approvedAt, t ≤ escrow.escrowExpiry

/-- **The books are in order.** -/
structure Sound (x : Insurances) : Prop where
  claims : ∀ id claim, x.insuranceClaim id = some claim →
    id ≤ x.insuranceClaimCount ∧ x.Ordered claim
  escrows : ∀ escrowId escrow, x.insuranceEscrow escrowId = some escrow →
    escrowId ≤ x.insuranceEscrowCount ∧ x.paid escrowId ≤ escrow.insuranceAmount

variable {x x' : Insurances} {claim : InsuranceClaim}

/-- A new claim adds to a sum. -/
theorem total_submit (f : InsuranceClaim → Int)
    (hcount : x'.insuranceClaimCount = x.insuranceClaimCount + 1)
    (hclaims : x'.insuranceClaim = x.insuranceClaim.set (x.insuranceClaimCount + 1) claim) :
    x'.total f = x.total f + f claim := by
  have hold : (List.range (x.insuranceClaimCount + 1)).map
      (fun id => ((x'.insuranceClaim id).map f).getD 0) =
      (List.range (x.insuranceClaimCount + 1)).map
        fun id => ((x.insuranceClaim id).map f).getD 0 := by
    refine List.map_congr_left fun id hid => ?_
    rw [hclaims, Store.set_of_ne (List.mem_range.mp hid).ne]
  rw [total, hcount, List.range_succ, List.map_append, hold, List.sum_append, hclaims]
  simp [total]

/-- A claim that is replaced changes a sum by the difference. -/
theorem total_set (f : InsuranceClaim → Int) {id : Nat} (hid : id ≤ x.insuranceClaimCount)
    (hclaim : x.insuranceClaim id = some claim) (new : InsuranceClaim) :
    total { x with insuranceClaim := x.insuranceClaim.set id new } f =
      x.total f + (f new - f claim) := by
  have hmap : (fun i => ((x.insuranceClaim.set id new i).map f).getD 0) =
      fun i => if i = id then f new else ((x.insuranceClaim i).map f).getD 0 := by
    funext i
    rw [Store.set_apply]
    split <;> rfl
  have hmem : id ∈ List.range (x.insuranceClaimCount + 1) :=
    List.mem_range.mpr (Nat.lt_succ_of_le hid)
  rw [total, hmap, List.sum_map_ite_eq, List.count_eq_one_of_mem List.nodup_range hmem, hclaim,
    one_nsmul, add_comm]
  rfl

theorem Sound.solvent (h : x.Sound) : x.Solvent where
  numbered id claim hclaim := (h.claims id claim hclaim).1
  covered escrowId escrow hescrow := (h.escrows escrowId escrow hescrow).2
  timely id claim escrow hclaim happroved hescrow := by
    obtain ⟨escrow', hescrow', htimely⟩ := (h.claims id claim hclaim).2
    cases hescrow.symm.trans hescrow'
    exact htimely happroved

theorem sound_empty : empty.Sound := ⟨nofun, nofun⟩

end Insurances

/-! ## One call -/

/-- **A call is prudent** unless it approves a claim after its escrow has expired, or one that comes
to more than the escrow has left. -/
def InsuranceOp.Prudent (now : Nat) (x : Insurances) : InsuranceOp → Prop
  | createInsuranceEscrow .. | submitInsuranceClaim .. => True
  | approveInsuranceClaim _ claimId => ∀ claim ∈ x.insuranceClaim claimId, claim.approved = false →
      ∀ escrow ∈ x.insuranceEscrow claim.escrowId, now ≤ escrow.escrowExpiry ∧
        x.paid claim.escrowId + claim.claimAmount ≤ escrow.insuranceAmount

instance (now : Nat) (x : Insurances) (op : InsuranceOp) : Decidable (op.Prudent now x) := by
  cases op <;> unfold InsuranceOp.Prudent <;> infer_instance

namespace Insurances

variable {x x' : Insurances} {claim : InsuranceClaim} {id : Nat}

/-- Claims stay in order where their escrows stay. -/
theorem Ordered.mono (h : x.Ordered claim)
    (hescrows : ∀ escrowId escrow, x.insuranceEscrow escrowId = some escrow →
      x'.insuranceEscrow escrowId = some escrow) : x'.Ordered claim := by
  obtain ⟨escrow, hescrow, htimely⟩ := h
  exact ⟨escrow, hescrows _ _ hescrow, htimely⟩

theorem Sound.create (h : x.Sound) {escrow : CredentialInsuranceEscrow}
    (hamount : 0 ≤ escrow.insuranceAmount) :
    Sound { x with
      insuranceEscrowCount := x.insuranceEscrowCount + 1
      insuranceEscrow := x.insuranceEscrow.set (x.insuranceEscrowCount + 1) escrow } := by
  have hne : ∀ escrowId old, x.insuranceEscrow escrowId = some old →
      escrowId ≠ x.insuranceEscrowCount + 1 := fun escrowId old hold =>
    (Nat.lt_succ_of_le (h.escrows escrowId old hold).1).ne
  constructor
  · intro id claim hclaim
    obtain ⟨hid, hordered⟩ := h.claims id claim hclaim
    refine ⟨hid, hordered.mono fun escrowId old hold => ?_⟩
    exact (Store.set_of_ne (hne escrowId old hold)).trans hold
  · intro escrowId new hnew
    rcases Store.set_eq_some.mp hnew with ⟨heq, rfl⟩ | ⟨-, hnew⟩
    · -- no claim is on an escrow that was not there
      have hzero : x.paid escrowId = 0 := by
        refine List.sum_eq_zero fun amount hamount => ?_
        obtain ⟨id, -, rfl⟩ := List.mem_map.mp hamount
        cases hclaim : x.insuranceClaim id with
        | none => rfl
        | some claim =>
          obtain ⟨old, hold, -⟩ := (h.claims id claim hclaim).2
          exact if_neg fun hid => hne _ _ hold (hid.1.trans heq)
      exact ⟨heq.le, hzero.trans_le hamount⟩
    · obtain ⟨hid, hpaid⟩ := h.escrows escrowId new hnew
      exact ⟨hid.trans (Nat.le_succ _), hpaid⟩

theorem Sound.submit (h : x.Sound) {escrow : CredentialInsuranceEscrow}
    (hescrow : x.insuranceEscrow claim.escrowId = some escrow) (hpending : claim.approved = false) :
    Sound { x with
      insuranceClaimCount := x.insuranceClaimCount + 1
      insuranceClaim := x.insuranceClaim.set (x.insuranceClaimCount + 1) claim } := by
  constructor
  · intro id new hnew
    rcases Store.set_eq_some.mp hnew with ⟨heq, rfl⟩ | ⟨-, hnew⟩
    · exact ⟨heq.le, escrow, hescrow, by simp [hpending]⟩
    · obtain ⟨hid, hordered⟩ := h.claims id new hnew
      exact ⟨hid.trans (Nat.le_succ _), hordered.mono fun _ _ hold => hold⟩
  · intro escrowId old hold
    rw [paid, total_submit _ rfl rfl, if_neg (by simp [hpending]), add_zero]
    exact h.escrows escrowId old hold

theorem Sound.approve (h : x.Sound) (hclaim : x.insuranceClaim id = some claim)
    (hpending : claim.approved = false) {now : Nat} (hprudent : ∀ escrow ∈
      x.insuranceEscrow claim.escrowId, now ≤ escrow.escrowExpiry ∧
        x.paid claim.escrowId + claim.claimAmount ≤ escrow.insuranceAmount) :
    Sound { x with insuranceClaim := x.insuranceClaim.set id (claim.approve now) } := by
  obtain ⟨hid, escrow, hescrow, -⟩ := h.claims id claim hclaim
  obtain ⟨htimely, hleft⟩ := hprudent escrow hescrow
  constructor
  · intro id' new hnew
    rcases Store.set_eq_some.mp hnew with ⟨rfl, rfl⟩ | ⟨-, hnew⟩
    · exact ⟨hid, escrow, hescrow, fun _ => ⟨now, rfl, htimely⟩⟩
    · obtain ⟨hid', hordered⟩ := h.claims id' new hnew
      exact ⟨hid', hordered.mono fun _ _ hold => hold⟩
  · intro escrowId old hold
    obtain ⟨hid', hpaid⟩ := h.escrows escrowId old hold
    refine ⟨hid', ?_⟩
    -- the claim adds its amount to what its own escrow has paid
    rw [paid, total_set _ hid hclaim]
    by_cases heq : claim.escrowId = escrowId
    · subst heq
      cases hescrow.symm.trans hold
      simpa [InsuranceClaim.approve, hpending, paid] using hleft
    · simpa [InsuranceClaim.approve, heq, paid] using hpaid

end Insurances

open Insurances

theorem InsuranceOp.sound (env : Env) (s : State) {x : Insurances} {op : InsuranceOp} (h : x.Sound)
    (hprudent : op.Prudent env.now x) :
    Ensures (op.apply env s x) fun r => r.2.Sound := by
  cases op with
  | createInsuranceEscrow issuer credentialId holder insuranceAmount premiumAmount escrowExpiry =>
    simp only [apply, Insurances.createInsuranceEscrow, ensures_steps, require_eq_ok]
    intro _ control _ c _ _ hamount _ escrowId hescrowId
    obtain ⟨-, rfl⟩ := checkedAdd_eq_ok.mp hescrowId
    exact h.create hamount.le
  | submitInsuranceClaim claimant escrowId claimAmount claimReason =>
    simp only [apply, Insurances.submitInsuranceClaim, ensures_steps, require_eq_ok]
    intro _ control _ escrow hescrow _ _ _ claimId hclaimId
    obtain ⟨-, rfl⟩ := checkedAdd_eq_ok.mp hclaimId
    exact h.submit hescrow rfl
  | approveInsuranceClaim issuer claimId =>
    simp only [apply, Insurances.approveInsuranceClaim, ensures_steps, require_eq_ok]
    exact fun _ _ _ claim hclaim _ _ _ hpending =>
      h.approve hclaim hpending (hprudent claim hclaim hpending)

/-! ## Whole runs -/

namespace Insurances

def after (host : Host) (calls : List (TimedCall InsuredOp)) : Ledger (State × Insurances) :=
  Ledger.after InsuredOp.apply host (.empty, empty) calls

/-- A call of the escrows is prudent. -/
def Prudent (w : Ledger (State × Insurances)) (call : TimedCall InsuredOp) : Prop :=
  match call.op with
  | .contract _ => True
  | .insurance op => op.Prudent (w.time + call.elapsed) w.storage.2

instance (w : Ledger (State × Insurances)) (call : TimedCall InsuredOp) :
    Decidable (Prudent w call) := by
  unfold Prudent
  split <;> infer_instance

/-- **Prudent calls leave every escrow solvent.** -/
theorem solvent_of_prudent (host : Host) (calls : List (TimedCall InsuredOp))
    (h : Machine.Along (Ledger.next InsuredOp.apply host) Prudent (after host []) calls) :
    (after host calls).storage.2.Solvent := by
  refine (h.invariant (I := fun w : Ledger (State × Insurances) => w.storage.2.Sound) ?_
    sound_empty).solvent
  rintro w ⟨elapsed, auths, op⟩ hsound hprudent
  refine Ledger.next_of_ensures (Q := fun r : State × Insurances => r.2.Sound) ?_ hsound
  cases op with
  | contract op => exact ensures_map.mpr fun _ _ => hsound
  | insurance op => exact op.sound _ _ hsound hprudent

end Insurances

/-! ## Two claims on one escrow -/

namespace Sample

/-- A call of the issuer's. -/
def insure (op : InsuredOp) : TimedCall InsuredOp :=
  { elapsed := 1, auths := [issuer], op := op }

/-- A credential is issued, and insured for ten until time 100. -/
def insured : List (TimedCall InsuredOp) :=
  [insure (.contract (.issuance (.issueCredential issuer alice 1 [1] none 0))),
    insure (.insurance (.createInsuranceEscrow issuer 1 alice 10 1 100))]

/-- The issuer claims an amount, and approves the claim. -/
def claim (claimId : Nat) (amount : Int) : List (TimedCall InsuredOp) :=
  [insure (.insurance (.submitInsuranceClaim issuer 1 amount "fraud")),
    insure (.insurance (.approveInsuranceClaim issuer claimId))]

end Sample

namespace Insurances

open Sample

/-- A claim that would be too much is left pending between two that are approved. -/
theorem solvent_of_prudent_claims :
    (after host (insured ++ claim 1 4 ++ (claim 2 8).take 1 ++ claim 3 6)).storage.2.paid 1 = 10 ∧
      (after host (insured ++ claim 1 4 ++ (claim 2 8).take 1 ++ claim 3 6)).storage.2.Solvent :=
  ⟨by decide, solvent_of_prudent host _ (by decide)⟩

/-- **Two claims for all an escrow insures are both approved.** -/
theorem not_solvent_of_claims :
    ¬ (after host (insured ++ claim 1 10 ++ claim 2 10)).storage.2.Solvent := by
  intro h
  have hescrow : ((after host (insured ++ claim 1 10 ++ claim 2 10)).storage.2.insuranceEscrow
    1).map (·.insuranceAmount) = some 10 := by decide
  obtain ⟨escrow, hescrow, hamount⟩ := Option.map_eq_some_iff.mp hescrow
  have hcovered := h.covered 1 escrow hescrow
  rw [hamount] at hcovered
  exact absurd hcovered (by decide)

end Insurances

end QuorumProof
