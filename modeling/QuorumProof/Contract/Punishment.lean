import QuorumProof.Contract.Footprint

/-!
# Contract/Punishment — who may punish an attestor

An attestor is suspended in a slice, or slashed.  Three things justify that: the administrator's
signature on `slash_attestor`, the signature of the slice's creator on `suspend_attestor`, and a
challenge that the call resolves against the attestor.

`slash_attestor` is also what the contract calls on itself when a vote upholds a challenge.  It
tells the two uses apart by its `caller` argument, which is the caller's to choose.
-/

namespace QuorumProof

open Guarded

namespace State

variable {env : Env} {s s' : State} {sliceId : Nat} {attestor : Address}

/-- **What justifies punishing an attestor in a slice.** -/
inductive Justified (env : Env) (s s' : State) (sliceId : Nat) (attestor : Address) : Op → Prop
  | slashed {admin : Address} (hadmin : s.control.admin = some admin) (hauth : admin ∈ env.auths) :
      Justified env s s' sliceId attestor (.discipline (.slashAttestor admin sliceId attestor))
  | suspended {creator : Address} {slice : QuorumSlice}
      (hslice : s.slices.slices sliceId = some slice) (hcreator : slice.creator = creator)
      (hauth : creator ∈ env.auths) :
      Justified env s s' sliceId attestor (.discipline (.suspendAttestor creator sliceId attestor))
  | upheld {op : Op} {challengeId : Nat} {c c' : Challenge}
      (hbefore : s.discipline.challenge challengeId = some c) (hopened : c.status = .opened)
      (hafter : s'.discipline.challenge challengeId = some c') (hupheld : c'.status = .upheld)
      (haccused : c'.accused = attestor) (hsliceId : c'.sliceId = sliceId) :
      Justified env s s' sliceId attestor op

/-- **Every punishment between two states is justified**: a suspension in its slice, and a slash in
some slice. -/
structure PunishesJustly (env : Env) (s s' : State) (op : Op) : Prop where
  suspension : ∀ sliceId attestor, s.discipline.suspendedAttestor (sliceId, attestor) = none →
    s'.discipline.suspendedAttestor (sliceId, attestor) = some true →
    Justified env s s' sliceId attestor op
  slash : ∀ attestor, (s.discipline.slashCount attestor).getD 0 <
      (s'.discipline.slashCount attestor).getD 0 →
    ∃ sliceId, Justified env s s' sliceId attestor op

theorem PunishesJustly.of_same (h : SamePunishments s s') (op : Op) :
    PunishesJustly env s s' op where
  suspension k a hnone hsome := by
    rw [h.1, hnone] at hsome
    exact absurd hsome (by simp)
  slash a hlt := by
    rw [h.2] at hlt
    exact absurd hlt (Nat.lt_irrefl _)

/-- A punishment of one attestor in one slice needs one justification. -/
theorem PunishesJustly.of_only {op : Op} (h : PunishesOnly sliceId attestor s s')
    (hjust : Justified env s s' sliceId attestor op) : PunishesJustly env s s' op where
  suspension k a hnone hsome := by
    by_cases hk : (k, a) = (sliceId, attestor)
    · obtain ⟨rfl, rfl⟩ := Prod.mk.inj hk
      exact hjust
    · rw [h.suspendedAttestor _ hk, hnone] at hsome
      exact absurd hsome (by simp)
  slash a hlt := by
    by_cases ha : a = attestor
    · exact ⟨sliceId, ha ▸ hjust⟩
    · rw [h.slashCount a ha] at hlt
      exact absurd hlt (Nat.lt_irrefl _)

/-- Writing a challenge punishes nobody, unless it is upheld. -/
theorem ChallengeStep.punishesJustly {op : DisciplineOp} {write : ChallengeWrite}
    (h : ChallengeStep env s op write) (hrecords : RecordsChallenge env write s s') :
    PunishesJustly env s s' (.discipline op) := by
  by_cases hupheld : write.challenge.status = .upheld
  · obtain ⟨-, -, hopened⟩ | ⟨c, slice, hopen⟩ := h.known
    · exact absurd (hopened.symm.trans hupheld) (by decide)
    · exact .of_only (hrecords.upheld hupheld).punishes
        (.upheld hopen.stored hopen.opened hrecords.stored hupheld rfl rfl)
  · exact .of_same (hrecords.kept hupheld).punishments _

end State

/-- The address an operation slashes as. -/
def Op.slasher : Op → Option Address
  | discipline (.slashAttestor caller _ _) => some caller
  | _ => none

/-- The call does not slash in the contract's own name. -/
def Op.SlashesAsCaller (host : Host) (op : Op) : Prop := ∀ caller ∈ op.slasher, caller ≠ host.self
  deriving Decidable

namespace State

variable {env : Env}

theorem requireSlasher_eq_ok {admin caller : Address} {u : Unit} (hcaller : caller ≠ env.self)
    (h : requireSlasher env admin caller = .ok u) : caller ∈ env.auths ∧ caller = admin := by
  rw [requireSlasher, if_neg hcaller, bind_eq_ok] at h
  obtain ⟨_, hauth, hadmin⟩ := h
  exact ⟨requireAuth_eq_ok.mp hauth, require_eq_ok.mp hadmin⟩

theorem DisciplineStep.punishesJustly {s s' : State} {op : DisciplineOp}
    (h : DisciplineStep env s s' op) (hop : Op.SlashesAsCaller env.toHost (.discipline op)) :
    PunishesJustly env s s' (.discipline op) := by
  cases h with
  | suspended hauth hslice hcreator h =>
    subst h
    exact .of_only ⟨fun _ hk => Store.set_of_ne hk, fun _ _ => rfl⟩
      (.suspended hslice hcreator hauth)
  | resumed h =>
    subst h
    -- a lifted suspension is absent, so nothing has become a suspension
    refine ⟨fun k a hnone hsome => ?_, fun a hlt => absurd hlt (Nat.lt_irrefl _)⟩
    simp only [Discipline.resume, Store.remove_apply] at hsome
    split at hsome
    · exact absurd hsome (by simp)
    · exact absurd (hnone.symm.trans hsome) (by simp)
  | slashed hadmin hslasher h =>
    subst h
    obtain ⟨hauth, rfl⟩ := requireSlasher_eq_ok (hop _ rfl) hslasher
    exact .of_only ⟨fun _ hk => Store.set_of_ne hk, fun _ ha => Store.set_of_ne ha⟩
      (.slashed hadmin hauth)
  | challenged hstep hrecords => exact hstep.punishesJustly hrecords
  | _ =>
    subst_vars
    exact .of_same (by exact ⟨rfl, rfl⟩) _

end State

open State in
/-- **An operation punishes with cause**, unless it slashes in the contract's own name. -/
theorem Op.punishesJustly (env : Env) (s : State) {op : Op} (hop : op.SlashesAsCaller env.toHost) :
    Ensures (op.apply env s) fun s' => PunishesJustly env s s' op := by
  by_cases hfamily : ∀ op', op ≠ .discipline op'
  · exact (Op.leaves_discipline env s hfamily).mono fun _ h => .of_same h.1 op
  · push Not at hfamily
    obtain ⟨op, rfl⟩ := hfamily
    exact (disciplineOp_step env s op).mono fun _ h => h.punishesJustly hop

namespace World

open Sample

/-- **In every reachable state, every call that does not slash in the contract's own name punishes
with cause.** -/
theorem punishment_justified (host : Host) (calls : List Call) (call : Call)
    (h : call.op.SlashesAsCaller host) :
    State.PunishesJustly ((after host calls).env host call) (after host calls).state
      ((after host calls).next host call).state call.op :=
  next_of_ensures (Op.punishesJustly _ _ h) (.of_same ⟨rfl, rfl⟩ _)

/-- The administrator slashes an attestor, who is suspended by it. -/
theorem punishment_justified_slashed :
    ∃ calls call, (after host calls).state.discipline.suspendedAttestor (1, alice) =
        none ∧
      ((after host calls).next host call).state.discipline.suspendedAttestor
        (1, alice) = some true ∧
      State.Justified ((after host calls).env host call)
        (after host calls).state ((after host calls).next host call).state
        1 alice call.op :=
  ⟨[initialized], call admin
      (.discipline (.slashAttestor admin 1 alice)), rfl, rfl,
    (punishment_justified _ _ _ (by decide)).suspension 1 alice rfl rfl⟩

/-- **Anybody slashes an attestor by naming the contract as the caller.** -/
theorem not_punishment_justified :
    ¬ ∀ (host : Host) (calls : List Call) (call : Call),
      State.PunishesJustly ((after host calls).env host call) (after host calls).state
        ((after host calls).next host call).state call.op := by
  intro h
  have hrun := (h host [initialized] (call bob
    (.discipline (.slashAttestor host.self 1 alice)))).suspension 1 alice
    rfl rfl
  cases hrun with
  | slashed _ hauth => exact absurd hauth (by decide)
  | upheld hbefore _ _ _ _ _ => exact Option.some_ne_none _ hbefore.symm

end World

end QuorumProof
