import QuorumProof.Contract.Footprint

/-!
# Contract/PauseSafety — who lifts a pause

The pause flag has two masters: the administrator's switch, and the circuit breaker, which sets it
with an activation and clears it when the activation expires.  `pausedBy` watches which of the two
set the flag last.  As long as the administrator does not use the one while the other is on, the
breaker is in its paused state exactly while the flag is its own, and it never lifts the other's.
-/

namespace QuorumProof

/-- Who sets the pause flag. -/
inductive PauseSetter
  | manual
  | emergency
  deriving DecidableEq, Repr

/-- Who an operation sets the pause flag for. -/
def Op.pauses : Op → Option PauseSetter
  | control (.pause _) => some .manual
  | control (.emergencyPause _ _) => some .emergency
  | _ => none

/-- The operations that lift a pause by the administrator's will. -/
def Op.lifts : Op → Bool
  | control (.unpause _) | control (.resume _) => true
  | _ => false

/-- The flag is set by operations that write the core. -/
theorem Op.pauses_of_neutral {op : Op} (hop : ∀ op', op = .control op' → op'.writesCore = false) :
    op.pauses = none := by
  cases op with
  | control op =>
    have hneutral := hop op rfl
    cases op <;> first | rfl | cases hneutral
  | _ => rfl

/-- **The administrator keeps the switch and the breaker apart**: the switch is not touched while
the breaker is in its paused state nor set while the breaker is active, and the breaker is not
activated over the switch, nor degraded over a pause. -/
def Op.SeparatesPauses (auths : List Address) (c : Control) : Op → Prop
  | control (.pause admin) => admin ∈ auths → c.admin = some admin → c.circuitBreakerState = .normal
  | control (.unpause admin) =>
    admin ∈ auths → c.admin = some admin → c.circuitBreakerState ≠ .paused
  | control (.emergencyPause admin _) =>
    admin ∈ auths → c.admin = some admin → c.paused = false ∨ c.circuitBreakerState = .paused
  | control (.emergencyDegrade admin _) =>
    admin ∈ auths → c.admin = some admin → c.paused = false
  | _ => True

instance (auths : List Address) (c : Control) (op : Op) :
    Decidable (op.SeparatesPauses auths c) := by
  unfold Op.SeparatesPauses
  split <;> infer_instance

/-! ## Who set the flag -/

/-- **What holds of the flag, the breaker and who set the flag**: the flag is set by somebody, the
breaker is in its paused state exactly when it set the flag, with an activation on record, and it is
at rest while the switch has. -/
structure Attributed (c : Control) (setter : Option PauseSetter) : Prop where
  flag : c.paused = setter.isSome
  paused_iff : c.circuitBreakerState = .paused ↔ setter = some .emergency
  recorded : c.circuitBreakerState = .paused →
    ∃ act, c.circuitBreakerActivation = some act ∧ act.state = .paused
  at_rest : setter = some .manual → c.circuitBreakerState = .normal

/-- Who has set the flag after an operation. -/
def Op.setter (op : Op) (paused : Bool) (setter : Option PauseSetter) : Option PauseSetter :=
  if paused = true then op.pauses.or setter else none

namespace Attributed

variable {env : Env} {c c' : Control} {op : Op} {setter : Option PauseSetter}

theorem congr (h : Attributed c setter) (hcore : c'.core = c.core) : Attributed c' setter := by
  have hc : Attributed c.core setter := ⟨h.flag, h.paused_iff, h.recorded, h.at_rest⟩
  rw [← hcore] at hc
  exact ⟨hc.flag, hc.paused_iff, hc.recorded, hc.at_rest⟩

theorem of_recovered (hpaused : c.paused = false) (hstate : c.circuitBreakerState = .normal) :
    Attributed c none := by
  constructor <;> simp [hpaused, hstate]

variable (h : Attributed c setter)

include h

/-- **A recovery lifts no other pause than the breaker's own.** -/
theorem of_lifted (hpaused : c.paused = true) (hlifted : (c.checkAndRecover env).paused = false) :
    setter = some .emergency ∧
      ∃ act, c.circuitBreakerActivation = some act ∧ act.state = .paused := by
  have hactive : c.circuitBreakerState ≠ .normal := by
    intro hnormal
    rw [Control.checkAndRecover_of_normal hnormal, hpaused] at hlifted
    exact absurd hlifted (by decide)
  have hset : setter = some .emergency := by
    have hsome := h.flag.symm.trans hpaused
    obtain ⟨who, rfl⟩ := Option.isSome_iff_exists.mp hsome
    cases who with
    | emergency => rfl
    | manual => exact absurd (h.at_rest rfl) hactive
  exact ⟨hset, h.recorded (h.paused_iff.mpr hset)⟩

/-- What leaves the core keeps the attribution. -/
theorem kept (hcore : c'.core = c.core) :
    Attributed c' (if c'.paused = true then setter else none) := by
  have hsame := h.congr hcore
  have hflag := hsame.flag
  cases setter with
  | none => simpa using hsame
  | some who => rwa [if_pos (by simpa using hflag)]

/-- A guard keeps the attribution. -/
theorem passes (hpasses : c.Passes env c') :
    Attributed c' (if c'.paused = true then setter else none) := by
  rcases hpasses with hsame | hrecovers
  · exact h.kept hsame
  · rcases Control.checkAndRecover_cases env c with heq | heq
    · exact h.kept (heq ▸ hrecovers)
    · rw [heq] at hrecovers
      have hpaused : c'.paused = false := congrArg Control.paused hrecovers
      rw [if_neg (by simp [hpaused])]
      exact of_recovered hpaused (congrArg Control.circuitBreakerState hrecovers)

/-- **Every operation keeps the attribution**, if the administrator keeps the two apart. -/
theorem step (hstep : CoreStep env c op c') (hop : op.SeparatesPauses env.auths c) :
    Attributed c' (op.setter c'.paused setter) := by
  cases hstep with
  | passes hneutral hpasses =>
    rw [Op.setter, Op.pauses_of_neutral hneutral, Option.none_or]
    have hpassed := h.passes hpasses
    exact ⟨hpassed.flag, hpassed.paused_iff, hpassed.recorded, hpassed.at_rest⟩
  | initialized | succeeded | configured | quotaSet | quotaRemoved =>
    have hkept : Attributed c _ := h.kept rfl
    exact ⟨hkept.flag, hkept.paused_iff, hkept.recorded, hkept.at_rest⟩
  | pauses hauth hadmin =>
    constructor <;> simp [Op.setter, Op.pauses, hop hauth hadmin]
  | unpauses hauth hadmin =>
    constructor <;> simp [Op.setter, hop hauth hadmin]
  | activates =>
    constructor <;> simp [Op.setter, Op.pauses, Control.activation]
  | degrades hauth hadmin =>
    constructor <;> simp [Op.setter, hop hauth hadmin]
  | resumes => exact of_recovered rfl rfl

end Attributed

/-- The switch stays set until the administrator lifts it. -/
theorem CoreStep.blocked {env : Env} {c c' : Control} {op : Op} (hstep : CoreStep env c op c')
    (hop : op.SeparatesPauses env.auths c) (hlifts : op.lifts = false) (h : c.Blocked) :
    c'.Blocked := by
  cases hstep with
  | passes _ hpasses => exact hpasses.blocked h
  | initialized | succeeded | configured | quotaSet | quotaRemoved => exact h
  | pauses => exact ⟨rfl, h.2⟩
  | unpauses | resumes => exact absurd hlifts (by simp [Op.lifts])
  | activates hauth hadmin =>
    rcases hop hauth hadmin with hclear | hpaused
    · exact absurd (h.1.symm.trans hclear) (by decide)
    · exact absurd (h.2.symm.trans hpaused) (by decide)
  | degrades hauth hadmin => exact absurd (h.1.symm.trans (hop hauth hadmin)) (by decide)

/-! ## Runs -/

namespace World

variable (host : Host)

/-- The contract, and who has set its pause flag. -/
structure Watched where
  world : World
  setter : Option PauseSetter

/-- Make a call, and see who sets the flag. -/
def Watched.next (v : Watched) (call : Call) : Watched where
  world := v.world.next host call
  setter :=
    if v.world.Completes host call then
      call.op.setter (v.world.next host call).state.control.paused v.setter
    else v.setter

/-- The contract watched from its deployment. -/
def watched (calls : List Call) : Watched :=
  Machine.run (Watched.next host) { world := deployed, setter := none } calls

/-- Who set the pause flag that is on after a run. -/
def pausedBy (calls : List Call) : Option PauseSetter := (watched host calls).setter

/-- The administrator keeps the switch and the breaker apart in a call. -/
def SeparatesPauses (w : World) (call : Call) : Prop :=
  call.op.SeparatesPauses call.auths w.state.control
  deriving Decidable

/-- The administrator lifts the pause in a call. -/
def Lifts (w : World) (call : Call) : Prop :=
  call.op.lifts = true ∧ w.Completes host call
  deriving Decidable

/-- **Pause safety of a run**: a guarded entry point fails after the administrator's `pause` for as
long as no `unpause` and no `resume` goes through; at no time a recovery would lift another pause
than the one of the breaker's own activation; and the breaker is in its paused state exactly while
the flag is the one `emergency_pause` set. -/
structure PauseSafe (host : Host) (calls : List Call) : Prop where
  fails : ∀ before pausing between call rest,
    calls = before ++ pausing :: (between ++ call :: rest) →
    pausing.op.pauses = some .manual → (after host before).Completes host pausing →
    Machine.Along (next host) (fun w c => ¬ w.Lifts host c)
      ((after host before).next host pausing) between →
    call.op.guarded = true →
    ¬ (Machine.run (next host) ((after host before).next host pausing) between).Completes host call
  recovers : ∀ env, (after host calls).state.control.paused = true →
    ((after host calls).state.control.checkAndRecover env).paused = false →
    pausedBy host calls = some .emergency ∧
      ∃ act, (after host calls).state.control.circuitBreakerActivation = some act ∧
        act.state = .paused
  paused_iff : (after host calls).state.control.circuitBreakerState = .paused ↔
    pausedBy host calls = some .emergency

theorem watched_world (calls : List Call) : (watched host calls).world = after host calls :=
  Machine.run_proj (fun _ _ => rfl) _ calls

theorem blocked_next {host : Host} {w : World} {call : Call} (hsep : w.SeparatesPauses call)
    (hlifts : ¬ w.Lifts host call) (h : w.state.control.Blocked) :
    (w.next host call).state.control.Blocked := by
  cases hcall : call.op.apply (w.env host call) w.state with
  | ok s =>
    have hnot : call.op.lifts = false := by
      simpa using fun hlift => hlifts ⟨hlift, s, hcall⟩
    rw [next_state_of_ok hcall]
    exact (Op.coreStep _ _ _ s hcall).blocked hsep hnot h
  | error fault => rwa [next_state_of_error hcall]

theorem blocked_of_pause {host : Host} {w : World} {call : Call} (hsep : w.SeparatesPauses call)
    (hpauses : call.op.pauses = some .manual) (h : w.Completes host call) :
    (w.next host call).state.control.Blocked := by
  obtain ⟨s, hs⟩ := h
  rw [next_state_of_ok hs]
  have hstep := Op.coreStep _ _ _ s hs
  unfold SeparatesPauses at hsep
  -- of the steps only the administrator's `pause` sets the flag for the switch
  generalize call.op = op at hstep hpauses hsep
  generalize s.control = c' at hstep ⊢
  cases hstep with
  | passes hop =>
    exact absurd (hpauses.symm.trans (Op.pauses_of_neutral hop)) (by decide)
  | pauses hauth hadmin => exact ⟨rfl, hsep hauth hadmin⟩
  | _ => exact absurd hpauses (by simp [Op.pauses])

theorem attributed_next {host : Host} {v : Watched} {call : Call}
    (hsep : v.world.SeparatesPauses call) (h : Attributed v.world.state.control v.setter) :
    Attributed (v.next host call).world.state.control (v.next host call).setter := by
  unfold Watched.next
  cases hcall : call.op.apply (v.world.env host call) v.world.state with
  | ok s =>
    rw [if_pos ⟨s, hcall⟩, next_state_of_ok hcall]
    exact h.step (Op.coreStep _ _ _ s hcall) hsep
  | error fault =>
    have hnot : ¬ v.world.Completes host call := fun ⟨s, hs⟩ => by simp [hcall] at hs
    rwa [if_neg hnot, next_state_of_error hcall]

theorem attributed_after (calls : List Call)
    (hcalls : Machine.Along (next host) SeparatesPauses deployed calls) :
    Attributed (after host calls).state.control (pausedBy host calls) := by
  have hwatched : Machine.Along (Watched.next host) (fun v c => v.world.SeparatesPauses c)
      { world := deployed, setter := none } calls :=
    Machine.Along.of_proj (fun _ _ => rfl) hcalls
  rw [← watched_world]
  refine hwatched.invariant (I := fun v => Attributed v.world.state.control v.setter)
    (fun v c h hsep => attributed_next hsep h) ?_
  exact Attributed.of_recovered rfl rfl

/-- **A pause is lifted by who set it**: in every run in which the administrator keeps the switch
and the breaker apart, after every call. -/
theorem pause_safe (host : Host) (calls : List Call)
    (hcalls : Machine.Along (next host) SeparatesPauses deployed calls) : PauseSafe host calls where
  fails := by
    rintro before pausing between call rest rfl hpauses hcompletes hlifts hguarded ⟨s, hs⟩
    obtain ⟨-, hpausing, hafter⟩ := Machine.along_append _ |>.mp hcalls
    obtain ⟨hbetween, -⟩ := Machine.along_append _ |>.mp hafter
    have hboth := Machine.Along.and hlifts hbetween
    have hblocked := hboth.invariant (I := fun w => w.state.control.Blocked)
      (fun w c h hc => blocked_next hc.2 hc.1 h) (blocked_of_pause hpausing hpauses hcompletes)
    exact Op.not_blocked_of_guarded _ _ _ s hs hguarded hblocked
  recovers _ hpaused hlifted := (attributed_after host calls hcalls).of_lifted hpaused hlifted
  paused_iff := (attributed_after host calls hcalls).paused_iff

end World

/-! ## Sample runs -/

namespace Sample

/-- The admin throws the switch. -/
def pause : Call := call admin (.control (.pause admin))

/-- The admin resumes normal operation. -/
def resume : Call := call admin (.control (.resume admin))

/-- The admin degrades the contract. -/
def degrade : Call := call admin (.control (.emergencyDegrade admin "load"))

/-- The issuer issues a credential after the breaker's activation has expired. -/
def issueLater : Call := { issue alice 1 with elapsed := 86400 }

end Sample

namespace World

open Sample in
/-- The contract is degraded and resumed before the switch is thrown: a day later the switch still
holds. -/
theorem pause_safe_resumed :
    ¬ (after host [initialized, degrade, resume, pause]).Completes host issueLater :=
  (pause_safe host [initialized, degrade, resume, pause, issueLater] (by decide +kernel)).fails
    [initialized, degrade, resume] pause [] issueLater [] rfl rfl (by decide +kernel) trivial rfl

open Sample in
/-- **A degradation lifts the pause that came after it**: once its activation expires the breaker
recovers, and clears a flag it never set. -/
theorem not_pause_safe : ¬ ∀ host calls, PauseSafe host calls := by
  intro h
  exact (h host [initialized, degrade, pause, issueLater]).fails [initialized, degrade] pause []
    issueLater [] rfl rfl (by decide +kernel) trivial rfl (by decide +kernel)

end World

end QuorumProof
