import QuorumProof.Contract.ControlFrames
import QuorumProof.Contract.Ledger

/-!
# Contract/Congestion — the band of the adjusted rate limit

`update_congestion_and_adjust` moves the rate limit when the load enters another level.  Entering
`High` it clamps the reduced limit from below alone, entering `Low` the increased one from above
alone and after a cast to `u32`: a limit outside the band can stay outside it, and a product that
does not fit the cast can fall below the band.  Where products fit, a limit that no factor takes out
of the band, or that it leaves as it is, does not need the clamp that is missing (`Clamped`).
-/

namespace QuorumProof

open Guarded

namespace Control

variable {c c' : Control}

/-- The rate limit lies in the configured band. -/
def InBand (c : Control) : Prop :=
  c.getCongestionConfig.minMaxCalls ≤ c.getRateLimitConfig.maxCalls ∧
    c.getRateLimitConfig.maxCalls ≤ c.getCongestionConfig.maxMaxCalls

/-- **What a call that changes the rate limit may do**: the new limit lies in the band, `High` does
not raise a limit the band admits, and `Low` does not lower one. -/
def KeepsBand (c c' : Control) : Prop :=
  c'.getRateLimitConfig ≠ c.getRateLimitConfig →
    c'.InBand ∧
    (c'.congestionMetrics.map (·.level) = some .high →
      c.getRateLimitConfig.maxCalls < c'.getRateLimitConfig.maxCalls →
        c.getRateLimitConfig.maxCalls < c.getCongestionConfig.minMaxCalls) ∧
    (c'.congestionMetrics.map (·.level) = some .low →
      c'.getRateLimitConfig.maxCalls < c.getRateLimitConfig.maxCalls →
        c.getCongestionConfig.maxMaxCalls < c.getRateLimitConfig.maxCalls)

/-- **Where the missing clamps are not missed**: a reduced limit is not above the band and an
increased one not below it, unless nothing changes, and neither the limit nor the largest of the
band leaves `u32` when it is increased. -/
structure Clamped (cfg : CongestionConfig) (maxCalls : Nat) : Prop where
  reduced : maxCalls * cfg.reduceFactorBps / 10000 ≤ cfg.maxMaxCalls ∨
    maxCalls * cfg.reduceFactorBps / 10000 = maxCalls
  increased : cfg.minMaxCalls ≤ maxCalls * cfg.increaseFactorBps / 10000 ∨
    maxCalls * cfg.increaseFactorBps / 10000 = maxCalls
  fits : max maxCalls cfg.maxMaxCalls * cfg.increaseFactorBps / 10000 < 2 ^ 32

/-- What the checks of `set_congestion_config` leave to rely on. -/
structure Steady (cfg : CongestionConfig) : Prop where
  reduces : cfg.reduceFactorBps ≤ 10000
  increases : 10000 < cfg.increaseFactorBps
  ordered : cfg.minMaxCalls ≤ cfg.maxMaxCalls

variable {cfg : CongestionConfig} {maxCalls : Nat}

theorem Steady.reduced_le (h : Steady cfg) (maxCalls : Nat) :
    maxCalls * cfg.reduceFactorBps / 10000 ≤ maxCalls :=
  Nat.div_le_of_le_mul (by rw [Nat.mul_comm 10000]; exact Nat.mul_le_mul_left _ h.reduces)

theorem Steady.le_increased (h : Steady cfg) (maxCalls : Nat) :
    maxCalls ≤ maxCalls * cfg.increaseFactorBps / 10000 :=
  (Nat.le_div_iff_mul_le (by decide)).mpr (Nat.mul_le_mul_left _ h.increases.le)

theorem Clamped.increased_lt (h : Clamped cfg maxCalls) {n : Nat}
    (hn : n ≤ max maxCalls cfg.maxMaxCalls) : n * cfg.increaseFactorBps / 10000 < 2 ^ 32 :=
  (Nat.div_le_div_right (Nat.mul_le_mul_right _ hn)).trans_lt h.fits

/-- A quotient that fits `u32` is neither saturated nor cut. -/
theorem saturated_cast {x : Nat} (h : x / 10000 < 2 ^ 32) :
    min x u64Max / 10000 % 2 ^ 32 = x / 10000 := by
  rw [u64Max, Nat.min_eq_left (by omega), Nat.mod_eq_of_lt h]

/-- **An adjustment keeps the limit or puts it in the band**, and moves it as the level says. -/
theorem Clamped.adjusted (h : Clamped cfg maxCalls) (hcfg : Steady cfg) {level : CongestionLevel}
    {new : Nat} (hnew : adjustedMaxCalls cfg maxCalls level = new) :
    new = maxCalls ∨ (cfg.minMaxCalls ≤ new ∧ new ≤ cfg.maxMaxCalls) ∧
      (level = .high → maxCalls < new → maxCalls < cfg.minMaxCalls) ∧
      (level = .low → new < maxCalls → cfg.maxMaxCalls < maxCalls) := by
  have hordered := hcfg.ordered
  have hle := hcfg.reduced_le maxCalls
  have hge := hcfg.le_increased maxCalls
  have hfits := h.increased_lt (le_max_left ..)
  cases level with
  | low =>
    have hincreased := h.increased
    rw [adjustedMaxCalls, saturated_cast hfits] at hnew
    simp only [reduceCtorEq, false_imp_iff, true_and, forall_const]
    omega
  | normal =>
    rw [adjustedMaxCalls] at hnew
    simp only [reduceCtorEq, false_imp_iff, and_true]
    omega
  | high =>
    have hreduced := h.reduced
    rw [adjustedMaxCalls, saturated_cast (by omega)] at hnew
    simp only [reduceCtorEq, false_imp_iff, and_true, forall_const]
    omega

/-- Every limit of the band is clamped enough. -/
theorem Clamped.of_band (h : Clamped cfg maxCalls) (hcfg : Steady cfg) {new : Nat}
    (hband : cfg.minMaxCalls ≤ new ∧ new ≤ cfg.maxMaxCalls) : Clamped cfg new where
  reduced := .inl ((hcfg.reduced_le new).trans hband.2)
  increased := .inl (hband.1.trans (hcfg.le_increased new))
  fits := h.increased_lt (by omega)

/-- **One call keeps the band**, and what the next one relies on. -/
theorem Adjusts.keepsBand (hcall : c.Adjusts c') (hcfg : Steady c.getCongestionConfig)
    (h : Clamped c.getCongestionConfig c.getRateLimitConfig.maxCalls) :
    c.KeepsBand c' ∧ c'.getCongestionConfig = c.getCongestionConfig ∧
      Clamped c.getCongestionConfig c'.getRateLimitConfig.maxCalls := by
  cases hcall with
  | stays metrics => exact ⟨fun hne => absurd rfl hne, rfl, h⟩
  | enters metrics =>
    rcases h.adjusted hcfg rfl with hsame | ⟨hband, hhigh, hlow⟩
    · refine ⟨fun hne => absurd ?_ hne, rfl, hsame.symm ▸ h⟩
      exact congrArg (RateLimitConfig.mk · _) hsame
    · exact ⟨fun _ => ⟨hband, fun hentered => hhigh (Option.some.inj hentered),
        fun hentered => hlow (Option.some.inj hentered)⟩, rfl, h.of_band hcfg hband⟩

/-- Every call of a run keeps the band. -/
def RunKeepsBand (host : Host) (time : Nat) (c : Control) (calls : List (TimedCall Address)) :
    Prop :=
  Machine.Along (Ledger.next updateCongestionAndAdjust host)
    (fun w call => w.storage.KeepsBand (w.next updateCongestionAndAdjust host call).storage)
    { time := time, storage := c } calls

/-- **An accepted configuration keeps the rate limit in its band**, along every run that starts
where the missing clamps are not missed. -/
theorem runKeepsBand_of_clamped {env : Env} {c₀ c : Control} {admin : Address}
    {cfg : CongestionConfig} (haccepted : c₀.setCongestionConfig env admin cfg = .ok c)
    (hclamped : Clamped cfg c.getRateLimitConfig.maxCalls) (host : Host) (time : Nat)
    (calls : List (TimedCall Address)) : RunKeepsBand host time c calls := by
  obtain ⟨hsame, hsteady⟩ : c.getCongestionConfig = cfg ∧ Steady cfg := by
    simp only [setCongestionConfig, bind_eq_ok, require_eq_ok, pure_eq_ok] at haccepted
    obtain ⟨_, -, _, -, _, -, _, hreduce, _, hincrease, _, -, _, hordered, rfl⟩ := haccepted
    exact ⟨rfl, hreduce.2, hincrease.1, hordered⟩
  refine Machine.along_of_invariant (I := fun w => w.storage.getCongestionConfig = cfg ∧
    Clamped cfg w.storage.getRateLimitConfig.maxCalls) ?_ ⟨hsame, hclamped⟩ calls
  rintro w call ⟨rfl, hclamped⟩
  obtain ⟨-, hsame⟩ | hok := Ledger.next_cases updateCongestionAndAdjust host w call
  · rw [hsame]
    exact ⟨fun hne => absurd rfl hne, rfl, hclamped⟩
  · exact (updateCongestionAndAdjust_adjusts _ _ _ _ hok).keepsBand hsteady hclamped

end Control

namespace Sample

open Control

/-- The default band, and a rate limit. -/
def limited (maxCalls : Nat) : Control :=
  { Control.empty with
    admin := some admin
    rateLimitConfig := some { maxCalls := maxCalls, windowSeconds := 86400 }
    congestionConfig := some Control.empty.getCongestionConfig }

def adminEnv : Env := { host with now := 0, auths := [admin] }

def adjustment : TimedCall Address := { elapsed := 0, auths := [admin], op := admin }

/-- A limit of 45 calls, below the band, is increased into it. -/
theorem runKeepsBand_limited : RunKeepsBand host 0 (limited 45) [adjustment, adjustment] :=
  runKeepsBand_of_clamped (by rfl : (limited 45).setCongestionConfig adminEnv admin
    Control.empty.getCongestionConfig = .ok (limited 45))
    ⟨by decide, by decide, by decide⟩ host 0 _

/-- A limit of 10 calls enters `Low` and is set to 12, below the 50 of the band. -/
theorem not_runKeepsBand : ¬ ∀ (env : Env) (c₀ c : Control) (admin : Address)
    (cfg : CongestionConfig) (host : Host) (time : Nat) (calls : List (TimedCall Address)),
    c₀.setCongestionConfig env admin cfg = .ok c → c.getRateLimitConfig.maxCalls < 2 ^ 32 →
      RunKeepsBand host time c calls := by
  intro h
  have hrun := h adminEnv (limited 10) (limited 10) admin Control.empty.getCongestionConfig host 0
    [adjustment] (by rfl) (by decide)
  have hlow : (50 : Nat) ≤ 12 := (hrun.1 (by decide)).1.1
  exact absurd hlow (by decide)

end Sample

end QuorumProof
