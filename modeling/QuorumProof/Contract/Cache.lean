import QuorumProof.Contract.State
import Mathlib.Data.List.Range

/-!
# Contract/Cache — the verification cache and its invalidation

`is_attested` keeps its answers for a time to live.  A write that may change an answer is meant to
remove it: one pair, every slice of a credential, or every credential of a slice.  The last two loop
over `1..=count` of a counter that other entry points rewrite.

Source: `set_verification_cache`, `invalidate_verification_cache`,
`invalidate_verification_caches_for_credential`, `invalidate_verification_caches_for_slice`.
-/

namespace QuorumProof

namespace VerificationCache

variable (v : VerificationCache)

/-- `set_verification_cache`. -/
def put (env : Env) (v : VerificationCache) (credentialId sliceId : Nat) (answer : Bool) :
    VerificationCache :=
  { v with
    attestVerifyCache := v.attestVerifyCache.set (credentialId, sliceId)
      { isAttested := answer
        cachedAt := env.now
        expiresAt := saturatingAdd u64Max env.now (v.verificationCacheTtl.getD 60) } }

/-- `invalidate_verification_cache`. -/
def invalidate (credentialId sliceId : Nat) : VerificationCache :=
  { v with attestVerifyCache := v.attestVerifyCache.remove (credentialId, sliceId) }

/-- `invalidate_verification_caches_for_credential`, at the stored slice count. -/
def invalidateCredential (sliceCount credentialId : Nat) : VerificationCache :=
  (List.range' 1 sliceCount).foldl (fun v sliceId => v.invalidate credentialId sliceId) v

/-- `invalidate_verification_caches_for_slice`, at the stored credential count. -/
def invalidateSlice (credentialCount sliceId : Nat) : VerificationCache :=
  (List.range' 1 credentialCount).foldl (fun v credentialId => v.invalidate credentialId sliceId) v

/-! ## What is left -/

theorem invalidate_apply (c sl : Nat) (k : Nat × Nat) : (v.invalidate c sl).attestVerifyCache k =
      if k = (c, sl) then none else v.attestVerifyCache k :=
  Store.remove_apply _ _ _

/-- A loop of invalidations empties the slots of the pairs it visits and keeps the others. -/
theorem foldl_invalidate_apply {α : Type} (f : α → Nat × Nat) (l : List α)
    (v : VerificationCache) (k : Nat × Nat) :
    (l.foldl (fun v i => v.invalidate (f i).1 (f i).2) v).attestVerifyCache k =
      if k ∈ l.map f then none else v.attestVerifyCache k := by
  induction l generalizing v with
  | nil => simp
  | cons i l ih =>
    rw [List.foldl_cons, ih, invalidate_apply, List.map_cons]
    by_cases hk : k = f i
    · simp [hk]
    · simp [hk]

/-- **Invalidating a credential empties its slots up to the slice count** — and no others, so a slot
beyond a counter that was lowered survives. -/
theorem invalidateCredential_apply (n c : Nat) (k : Nat × Nat) :
    (v.invalidateCredential n c).attestVerifyCache k =
      if k.1 = c ∧ 1 ≤ k.2 ∧ k.2 ≤ n then none else v.attestVerifyCache k := by
  have hmem : k ∈ (List.range' 1 n).map (fun i => (c, i)) ↔ k.1 = c ∧ 1 ≤ k.2 ∧ k.2 ≤ n := by
    obtain ⟨k₁, k₂⟩ := k
    simp only [List.mem_map, List.mem_range'_1, Prod.mk.injEq]
    constructor
    · rintro ⟨i, hi, rfl, rfl⟩
      omega
    · rintro ⟨rfl, h₁, h₂⟩
      exact ⟨k₂, by omega, rfl, rfl⟩
  rw [invalidateCredential, foldl_invalidate_apply (fun i => (c, i)), if_congr hmem rfl rfl]

theorem invalidateSlice_apply (n sl : Nat) (k : Nat × Nat) :
    (v.invalidateSlice n sl).attestVerifyCache k =
      if k.2 = sl ∧ 1 ≤ k.1 ∧ k.1 ≤ n then none else v.attestVerifyCache k := by
  have hmem : k ∈ (List.range' 1 n).map (fun i => (i, sl)) ↔ k.2 = sl ∧ 1 ≤ k.1 ∧ k.1 ≤ n := by
    obtain ⟨k₁, k₂⟩ := k
    simp only [List.mem_map, List.mem_range'_1, Prod.mk.injEq]
    constructor
    · rintro ⟨i, hi, rfl, rfl⟩
      omega
    · rintro ⟨rfl, h₁, h₂⟩
      exact ⟨k₁, by omega, rfl, rfl⟩
  rw [invalidateSlice, foldl_invalidate_apply (fun i => (i, sl)), if_congr hmem rfl rfl]

end VerificationCache

namespace State

/-- Invalidate every cached answer about a credential. -/
def invalidateCredential (s : State) (credentialId : Nat) : State :=
  { s with cache := s.cache.invalidateCredential s.slices.sliceCount credentialId }

/-- Invalidate every cached answer about a slice. -/
def invalidateSlice (s : State) (sliceId : Nat) : State :=
  { s with cache := s.cache.invalidateSlice s.registry.credentialCount sliceId }

/-! ## Kept answers -/

/-- A pair of numbers the counters have handed out. -/
def Counted (s : State) (id sliceId : Nat) : Prop :=
  (1 ≤ id ∧ id ≤ s.registry.credentialCount) ∧ 1 ≤ sliceId ∧ sliceId ≤ s.slices.sliceCount

/-- **Every cached answer is removed, or left where `Q` holds of its pair.** -/
def KeepsAnswers (s s' : State) (Q : Nat → Nat → Prop) : Prop :=
  ∀ id sliceId, s'.cache.attestVerifyCache (id, sliceId) = none ∨
    s'.cache.attestVerifyCache (id, sliceId) = s.cache.attestVerifyCache (id, sliceId) ∧
      (s.Counted id sliceId → Q id sliceId)

variable {s s' : State} {Q Q' : Nat → Nat → Prop}

theorem Counted.mono {id sliceId : Nat} (h : s.Counted id sliceId)
    (hcredentials : s.registry.credentialCount ≤ s'.registry.credentialCount)
    (hslices : s.slices.sliceCount ≤ s'.slices.sliceCount) : s'.Counted id sliceId :=
  ⟨⟨h.1.1, h.1.2.trans hcredentials⟩, h.2.1, h.2.2.trans hslices⟩

namespace KeepsAnswers

theorem of_cache (hcache : s'.cache = s.cache)
    (h : ∀ id sliceId, s.Counted id sliceId → Q id sliceId) : s.KeepsAnswers s' Q :=
  fun id sliceId => .inr ⟨by rw [hcache], h id sliceId⟩

theorem mono (h : s.KeepsAnswers s' Q)
    (hQ : ∀ id sliceId, s.Counted id sliceId → Q id sliceId → Q' id sliceId) :
    s.KeepsAnswers s' Q' :=
  fun id sliceId => (h id sliceId).imp_right fun hkept =>
    ⟨hkept.1, fun hcounted => hQ id sliceId hcounted (hkept.2 hcounted)⟩

/-- The answers about a credential are removed. -/
theorem of_invalidateCredential {id₀ : Nat}
    (hcache : s'.cache = s.cache.invalidateCredential s.slices.sliceCount id₀)
    (h : ∀ id sliceId, id ≠ id₀ → Q id sliceId) : s.KeepsAnswers s' Q := by
  intro id sliceId
  rw [hcache, VerificationCache.invalidateCredential_apply]
  by_cases hkey : id = id₀ ∧ 1 ≤ sliceId ∧ sliceId ≤ s.slices.sliceCount
  · exact .inl (if_pos hkey)
  · refine .inr ⟨if_neg hkey, fun hcounted => h id sliceId fun hid => ?_⟩
    exact hkey ⟨hid, hcounted.2⟩

/-- The answers about a slice are removed. -/
theorem of_invalidateSlice {sliceId₀ : Nat}
    (hcache : s'.cache = s.cache.invalidateSlice s.registry.credentialCount sliceId₀)
    (h : ∀ id sliceId, sliceId ≠ sliceId₀ → Q id sliceId) : s.KeepsAnswers s' Q := by
  intro id sliceId
  rw [hcache, VerificationCache.invalidateSlice_apply]
  by_cases hkey : sliceId = sliceId₀ ∧ 1 ≤ id ∧ id ≤ s.registry.credentialCount
  · exact .inl (if_pos hkey)
  · refine .inr ⟨if_neg hkey, fun hcounted => h id sliceId fun hid => ?_⟩
    exact hkey ⟨hid, hcounted.1⟩

end KeepsAnswers

end State

end QuorumProof
