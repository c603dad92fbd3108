import QuorumProof.Bbs.Signature
import Mathlib.Data.List.Iterate

/-!
# Bbs/Precomputation — window tables, and verification in batches

`contracts/bbs_plus_v1/src/precomputation.rs`.  The table of a point holds its multiples by every
digit in every place of a scalar in base 16, so a multiple is a sum of 64 entries; the digits are
read off the bytes of the scalar.  A batch is verified by one equation, the sum of the equations of
its signatures with random weights.
-/

namespace QuorumProof.Bbs

open Guarded Bls LittleEndian

variable {r : ℕ} [Fact r.Prime]

/-! ## Window tables -/

/-- `PrecomputedPoint`: a row of 16 multiples for each of 64 windows. -/
structure PrecomputedPoint (G : Type) where
  table : List (List G)

/-- The window of four bits that `mul` extracts, across at most two bytes. -/
def bucket (scalarBytes : Bytes) (w : ℕ) : ℕ :=
  let bitOffset := w * 4
  let byteIdx := bitOffset / 8
  let bitShift := bitOffset % 8
  let lo := (scalarBytes.getD byteIdx 0).toNat
  let hi := (scalarBytes.getD (byteIdx + 1) 0).toNat
  (lo >>> bitShift ||| hi <<< (8 - bitShift)) &&& 15

namespace PrecomputedPoint

variable {G : Type} [AddCommGroup G] [Module (ZMod r) G]

/-- The row of a window: the identity, and successive additions. -/
def row (windowBase : G) : List G := 0 :: List.iterate (· + windowBase) windowBase 15

variable (r) in
/-- The loop of `new`: the base is doubled four times from window to window. -/
def rows : ℕ → G → List (List G)
  | 0, _ => []
  | windows + 1, windowBase =>
    row windowBase :: rows windows ((fun P => (2 : ZMod r) • P)^[4] windowBase)

variable (r) in
def new (base : G) : PrecomputedPoint G := ⟨rows r 64 base⟩

def mul (point : PrecomputedPoint G) (scalar : ZMod r) : G :=
  (List.range 64).foldl
    (fun acc w => acc + (point.table.getD w []).getD (bucket (scalarToBytes scalar) w) 0) 0

end PrecomputedPoint

/-- **The windows are the digits in base 16.** -/
theorem bucket_toBytes (n : ℕ) {w : ℕ} (hw : w < 64) :
    bucket (toBytes 32 n) w = n / 16 ^ w % 16 := by
  have hmask : ∀ lo hi shift : ℕ, shift = 0 ∨ shift = 4 →
      (lo >>> shift ||| hi <<< (8 - shift)) &&& 15 = lo / 2 ^ shift % 16 := by
    rintro lo hi shift (rfl | rfl) <;>
    · rw [Nat.and_two_pow_sub_one_eq_mod _ 4, Nat.or_mod_two_pow, Nat.shiftRight_eq_div_pow,
        Nat.shiftLeft_eq]
      simp [Nat.mul_mod]
  rw [bucket, hmask _ _ _ (by omega), toNat_getD_toBytes n (by omega)]
  obtain ⟨i, rfl | rfl⟩ := w.even_or_odd'
  · rw [show 2 * i * 4 / 8 = i by omega, show 2 * i * 4 % 8 = 0 by omega, pow_mul 16 2 i]
    change n / 256 ^ i % 256 / 1 % 16 = n / 256 ^ i % 16
    omega
  · rw [show (2 * i + 1) * 4 / 8 = i by omega, show (2 * i + 1) * 4 % 8 = 4 by omega,
      pow_succ 16, pow_mul 16 2 i, ← Nat.div_div_eq_div_mul]
    change n / 256 ^ i % 256 / 16 % 16 = n / 256 ^ i / 16 % 16
    omega

namespace PrecomputedPoint

variable {G : Type} [AddCommGroup G] [Module (ZMod r) G]

theorem getD_row (P : G) {k : ℕ} (hk : k < 16) : (row P).getD k 0 = k • P := by
  cases k with
  | zero => simp [row]
  | succ k =>
    rw [row, List.getD_cons_succ,
      List.getD_eq_getElem _ _ (by simpa using Nat.lt_of_succ_lt_succ hk), List.getElem_iterate,
      add_right_iterate]
    exact (succ_nsmul' P k).symm

theorem getD_rows {windows w : ℕ} (base : G) (hw : w < windows) :
    (rows r windows base).getD w [] = row (16 ^ w • base) := by
  induction windows generalizing base w with
  | zero => simp at hw
  | succ windows ih =>
    cases w with
    | zero => simp [rows]
    | succ w =>
      have hdoubled : (fun P : G => (2 : ZMod r) • P)^[4] base = 16 • base := by
        simp only [Function.iterate_succ, Function.iterate_zero, Function.comp_apply, id,
          ofNat_smul_eq_nsmul (ZMod r), smul_smul]
        rfl
      rw [rows, List.getD_cons_succ, ih _ (Nat.lt_of_succ_lt_succ hw), hdoubled, smul_smul,
        pow_succ]

/-- **Fixed-base multiplication is multiplication.** -/
theorem mul_new (hr : r ≤ 256 ^ 32) (base : G) (s : ZMod r) : (new r base).mul s = s • base := by
  have hsum : ∀ windows ≤ 64, (List.range windows).foldl (fun acc w => acc +
      ((new r base).table.getD w []).getD (bucket (scalarToBytes s) w) 0) 0 =
        (s.val % 16 ^ windows) • base := by
    intro windows hle
    induction windows with
    | zero => simp [Nat.mod_one]
    | succ windows ih =>
      rw [List.range_succ, List.foldl_append, ih (by omega), List.foldl_cons, List.foldl_nil, new,
        getD_rows base hle, scalarToBytes, encode, bucket_toBytes _ hle,
        getD_row _ (Nat.mod_lt _ (by decide)), Nat.mod_pow_succ, add_smul, smul_smul, mul_comm]
  rw [mul, hsum 64 le_rfl, Nat.mod_eq_of_lt, ← Nat.cast_smul_eq_nsmul (ZMod r),
    ZMod.natCast_zmod_val]
  exact s.val_lt.trans_le hr

end PrecomputedPoint

/-! ## The tables of a key -/

variable {G₁ G₂ Gt : Type} [AddCommGroup G₁] [Module (ZMod r) G₁] [AddCommGroup G₂]
  [Module (ZMod r) G₂] [AddCommGroup Gt] [Module (ZMod r) Gt]

structure PointCache (G₁ : Type) where
  q1 : PrecomputedPoint G₁
  generators : List (PrecomputedPoint G₁)
  messageCount : ℕ

namespace PointCache

variable (r) in
def build (vk : VerifyingKey G₁ G₂) : PointCache G₁ where
  q1 := .new r vk.q1
  generators := vk.messageGenerators.map (.new r)
  messageCount := vk.messageGenerators.length

def computeBFast (cache : PointCache G₁) (p1 : G₁) (messages : List (ZMod r)) (s : ZMod r) :
    BbsResult G₁ := do
  require (messages.length = cache.messageCount) (.err .invalidMessageCount)
  return (cache.generators.zip messages).foldl (fun acc (table, m) => acc + table.mul m)
    (p1 + cache.q1.mul s)

theorem computeBFast_build {suite : Suite r G₁ G₂ Gt} {vk : VerifyingKey G₁ G₂}
    {messages : List (ZMod r)} {s : ZMod r} (hlen : messages.length = vk.messageGenerators.length) :
    (build r vk).computeBFast (baseGenerator suite) messages s =
      .ok (commitment suite vk messages s) := by
  simp only [computeBFast, bind_eq_ok, require_eq_ok, pure_eq_ok, exists_const]
  refine ⟨hlen, ?_⟩
  rw [Accumulate.foldl_add (fun p : PrecomputedPoint G₁ × ZMod r => p.1.mul p.2), build,
    List.zip_map_left, List.map_map, commitment, PrecomputedPoint.mul_new suite.order_le]
  simp only [Function.comp_def, Prod.map_fst, Prod.map_snd, id_eq,
    PrecomputedPoint.mul_new suite.order_le]

end PointCache

/-- **Fixed-base multiplication is multiplication, and `compute_b_fast` is `compute_b`.** -/
theorem computeBFast_eq_computeB (hr : r < 2 ^ 255) :
    (∀ (G : Type) [AddCommGroup G] [Module (ZMod r) G] (base : G) (s : ZMod r),
      (PrecomputedPoint.new r base).mul s = s • base) ∧
    ∀ (suite : Suite r G₁ G₂ Gt) (vk : VerifyingKey G₁ G₂) (messages : List (ZMod r)) (s : ZMod r),
      messages.length = vk.messageGenerators.length →
      (PointCache.build r vk).computeBFast (baseGenerator suite) messages s =
        computeB suite vk messages s := by
  refine ⟨fun G _ _ base s => PrecomputedPoint.mul_new (hr.le.trans (by decide)) base s,
    fun suite vk messages s hlen => ?_⟩
  rw [PointCache.computeBFast_build hlen, computeB_eq_ok.mpr ⟨hlen, rfl⟩]

theorem computeBFast_eq_computeB_sample :
    (PointCache.build 17 Sample.verifyingKey).computeBFast (baseGenerator Bls.Sample.suite)
      [Bls.Sample.element 1, Bls.Sample.element 2] (Bls.Sample.element 5) =
      computeB Bls.Sample.suite Sample.verifyingKey [Bls.Sample.element 1, Bls.Sample.element 2]
        (Bls.Sample.element 5) :=
  (computeBFast_eq_computeB (by decide)).2 Bls.Sample.suite _ _ _ rfl

/-! ## Batches -/

/-- What the generator supplies beside the entries of a batch, one scalar each. -/
def weighted {α : Type} (rng : ℕ → ZMod r) (batch : List α) : List (α × ZMod r) :=
  batch.zipIdx.map fun p => (p.1, rng p.2)

/-- The loop of `batch_verify` that adds the commitments up. -/
def weightedB (suite : Suite r G₁ G₂ Gt) (cache : PointCache G₁)
    (entries : List ((List (ZMod r) × Signature r G₁) × ZMod r)) : BbsResult G₁ :=
  entries.foldlM (fun acc ((messages, sig), rho) => do
    require (messages.length = cache.messageCount) (.err .invalidMessageCount)
    let b ← cache.computeBFast (baseGenerator suite) messages sig.s
    return acc + rho • b) 0

def batchVerify [DecidableEq G₁] [DecidableEq Gt] (suite : Suite r G₁ G₂ Gt) (rng : ℕ → ZMod r)
    (vk : VerifyingKey G₁ G₂) (cache : PointCache G₁)
    (batch : List (List (ZMod r) × Signature r G₁)) : BbsResult Bool := do
  if batch.isEmpty then return true
  if batch.any (·.2.a = 0) then return false
  let rhsPoint ← weightedB suite cache (weighted rng batch)
  let lhs := (weighted rng batch).foldl (fun acc ((_, sig), rho) =>
    acc + suite.pair (rho • sig.a) (vk.w + sig.e • suite.g₂)) 0
  return lhs = suite.pair rhsPoint suite.g₂

variable {suite : Suite r G₁ G₂ Gt} {vk : VerifyingKey G₁ G₂} {sk : ZMod r}

theorem weightedB_build {entries : List ((List (ZMod r) × Signature r G₁) × ZMod r)}
    (hlen : ∀ p ∈ entries, p.1.1.length = vk.messageGenerators.length) :
    weightedB suite (.build r vk) entries =
      .ok (entries.map fun p => p.2 • commitment suite vk p.1.1 p.1.2.s).sum := by
  rw [weightedB, foldlM_eq_ok (g := fun acc p => acc + p.2 • commitment suite vk p.1.1 p.1.2.s),
    Accumulate.foldl_add (fun p : (List (ZMod r) × Signature r G₁) × ZMod r =>
      p.2 • commitment suite vk p.1.1 p.1.2.s), zero_add]
  intro p hp acc
  simp only [PointCache.computeBFast_build (hlen p hp), bind_eq_ok, require_eq_ok, exists_const,
    pure_eq_ok]
  exact ⟨hlen p hp, _, rfl, rfl⟩

/-- The pairings of a batch add up to one pairing. -/
theorem sum_pair (hw : vk.w = sk • suite.g₂)
    (entries : List ((List (ZMod r) × Signature r G₁) × ZMod r)) :
    (entries.map fun p => suite.pair (p.2 • p.1.2.a) (vk.w + p.1.2.e • suite.g₂)).sum =
      suite.pair (entries.map fun p => p.2 • (sk + p.1.2.e) • p.1.2.a).sum suite.g₂ := by
  induction entries with
  | nil => simp
  | cons p entries ih =>
    rw [List.map_cons, List.sum_cons, ih, List.map_cons, List.sum_cons, suite.pair_add_left, hw,
      ← add_smul, suite.pair_smul_g₂, smul_comm]

/-- By how much an entry misses the relation that `verify` checks. -/
def discrepancy (suite : Suite r G₁ G₂ Gt) (vk : VerifyingKey G₁ G₂) (sk : ZMod r)
    (entry : List (ZMod r) × Signature r G₁) : G₁ :=
  (sk + entry.2.e) • entry.2.a - commitment suite vk entry.1 entry.2.s

/-- Entries without a discrepancy add nothing. -/
theorem sum_zipIdx_eq_zero {entries : List (List (ZMod r) × Signature r G₁)}
    (h : ∀ entry ∈ entries, discrepancy suite vk sk entry = 0) (rng : ℕ → ZMod r) (k : ℕ) :
    ((entries.zipIdx k).map fun p => rng p.2 • discrepancy suite vk sk p.1).sum = 0 := by
  refine List.sum_eq_zero fun x hx => ?_
  obtain ⟨p, hp, rfl⟩ := List.mem_map.mp hx
  rw [h _ (List.fst_mem_of_mem_zipIdx hp), smul_zero]

variable [DecidableEq G₁] [DecidableEq Gt] {rng : ℕ → ZMod r}
  {batch : List (List (ZMod r) × Signature r G₁)}

/-- **The equation of a batch** is the weighted sum of the equations of its entries. -/
theorem batchVerify_eq (hw : vk.w = sk • suite.g₂)
    (hlen : ∀ entry ∈ batch, entry.1.length = vk.messageGenerators.length) :
    batchVerify suite rng vk (.build r vk) batch = .ok (decide ((∀ entry ∈ batch, entry.2.a ≠ 0) ∧
      ((weighted rng batch).map fun p => p.2 • discrepancy suite vk sk p.1).sum = 0)) := by
  have hsplit : ((weighted rng batch).map fun p => p.2 • (sk + p.1.2.e) • p.1.2.a).sum =
      ((weighted rng batch).map fun p => p.2 • discrepancy suite vk sk p.1).sum +
        ((weighted rng batch).map fun p => p.2 • commitment suite vk p.1.1 p.1.2.s).sum := by
    rw [← List.sum_map_add]
    simp only [← smul_add, discrepancy, sub_add_cancel]
  have hweighted : ∀ p ∈ weighted rng batch, p.1.1.length = vk.messageGenerators.length := by
    intro p hp
    obtain ⟨q, hq, rfl⟩ := List.mem_map.mp hp
    exact hlen _ (List.fst_mem_of_mem_zipIdx hq)
  rcases eq_or_ne batch [] with rfl | hne
  · simp [batchVerify, weighted]
  rw [batchVerify, weightedB_build hweighted,
    Accumulate.foldl_add (fun p : (List (ZMod r) × Signature r G₁) × ZMod r =>
      suite.pair (p.2 • p.1.2.a) (vk.w + p.1.2.e • suite.g₂)), zero_add, sum_pair hw, hsplit]
  by_cases hclean : ∀ entry ∈ batch, entry.2.a ≠ 0
  · have hany : batch.any (·.2.a = 0) = false := by simpa using hclean
    simp only [eq_true hclean, true_and]
    simp [hne, hany, suite.pair_g₂_eq_zero]
  · have hany : batch.any (·.2.a = 0) = true := by simpa using hclean
    simp only [eq_false hclean, false_and]
    simp [hne, hany]

/-- **A batch is accepted if and only if its weighted discrepancies cancel**; so a batch of valid
signatures is accepted whatever the weights, and one invalid signature with a weight is enough to
have it rejected. -/
theorem batchVerify_correct (suite : Suite r G₁ G₂ Gt) (hw : vk.w = sk • suite.g₂)
    (hlen : ∀ entry ∈ batch, entry.1.length = vk.messageGenerators.length) (rng : ℕ → ZMod r) :
    (batchVerify suite rng vk (.build r vk) batch = .ok true ↔ (∀ entry ∈ batch, entry.2.a ≠ 0) ∧
      ((weighted rng batch).map fun p => p.2 • discrepancy suite vk sk p.1).sum = 0) ∧
    ((∀ entry ∈ batch, verify suite vk entry.1 entry.2 = .ok true) →
      batchVerify suite rng vk (.build r vk) batch = .ok true) ∧
    ∀ before bad after, batch = before ++ bad :: after →
      (∀ entry ∈ before ++ after, verify suite vk entry.1 entry.2 = .ok true) →
      verify suite vk bad.1 bad.2 ≠ .ok true → rng before.length ≠ 0 →
      batchVerify suite rng vk (.build r vk) batch = .ok false := by
  have hvalid : ∀ entry ∈ batch, (verify suite vk entry.1 entry.2 = .ok true ↔
      entry.2.a ≠ 0 ∧ discrepancy suite vk sk entry = 0) := fun entry hentry => by
    rw [verify_eq_true hw, and_iff_right (hlen entry hentry), discrepancy, sub_eq_zero]
  rw [batchVerify_eq hw hlen]
  refine ⟨by simp, fun hall => ?_, ?_⟩
  · have hzero := fun entry hentry => (hvalid entry hentry).mp (hall entry hentry)
    refine congrArg _ (decide_eq_true ⟨fun entry hentry => (hzero entry hentry).1, ?_⟩)
    rw [weighted, List.map_map]
    exact sum_zipIdx_eq_zero (fun entry hentry => (hzero entry hentry).2) rng 0
  · rintro before bad after rfl hothers hbad hrho
    have hmem : ∀ entry ∈ before ++ after, entry ∈ before ++ bad :: after := by
      simp +contextual [or_imp]
    have hzero : ∀ entry ∈ before ++ after, discrepancy suite vk sk entry = 0 :=
      fun entry hentry => ((hvalid entry (hmem entry hentry)).mp (hothers entry hentry)).2
    obtain ⟨hbefore, hafter⟩ := List.forall_mem_append.mp hzero
    rw [decide_eq_false]
    rintro ⟨hclean, hsum⟩
    rw [weighted, List.map_map, List.zipIdx_append, List.zipIdx_cons, List.map_append,
      List.sum_append, List.map_cons, List.sum_cons] at hsum
    simp only [Function.comp_def, sum_zipIdx_eq_zero hbefore rng, sum_zipIdx_eq_zero hafter rng,
      zero_add, add_zero] at hsum
    have hbad' : bad ∈ before ++ bad :: after := by simp
    exact hbad ((hvalid bad hbad').mpr ⟨hclean bad hbad', (smul_eq_zero_iff_right hrho).mp hsum⟩)

/-- A signature that was not made is rejected beside one that was. -/
theorem batchVerify_forged :
    batchVerify Bls.Sample.suite (fun _ => 1) Sample.verifyingKey (.build 17 Sample.verifyingKey)
      [([Bls.Sample.element 1, Bls.Sample.element 2], ⟨Bls.Sample.element 14, 1, 1⟩),
        ([Bls.Sample.element 1, Bls.Sample.element 2], ⟨Bls.Sample.element 5, 0, 0⟩)] =
        .ok false := by
  have hw : Sample.verifyingKey.w = Bls.Sample.element 3 • Bls.Sample.suite.g₂ := by decide
  exact (batchVerify_correct _ hw (by simp [Sample.verifyingKey]) _).2.2 [_] _ [] rfl
    (List.forall_mem_singleton.mpr (by decide +kernel)) (by decide +kernel) (by decide)

end QuorumProof.Bbs
