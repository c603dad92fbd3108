import QuorumProof.Zk.Entry

/-!
# Zk/Sessions — what an approved session stands for

A run records contributions: the verdicts of the submissions that completed, session by session.
If SHA-256 has no collisions, the contract's slots are a faithful account of them, so nobody
contributes twice to a session, its tally is the number of approvals, and an approved session has
reached its threshold.  Nothing ties contributors to the registry, or their number to the session's
`total_verifiers`: both hold along runs whose submissions are made within them.
-/

namespace QuorumProof.Zk

open Guarded Machine

/-! ## The host -/

/-- SHA-256 has no collisions, and XDR encodes addresses injectively, never as the byte `0xFF`. -/
structure CollisionFree (host : Host) : Prop where
  sha256 : Function.Injective host.sha256
  toXdr : Function.Injective host.toXdr
  toXdr_ne (v : Address) : host.toXdr v ≠ [0xFF]

namespace CollisionFree

variable {host : Host} (h : CollisionFree host) {sid : Bytes} {v v' : Address}
include h

theorem verifierSlot_inj : verifierSlot host sid v = verifierSlot host sid v' ↔ v = v' := by
  refine ⟨fun heq => h.toXdr (List.append_cancel_left (h.sha256 heq)), ?_⟩
  rintro rfl
  rfl

theorem verifierSlot_ne_tallySlot : verifierSlot host sid v ≠ tallySlot host sid := fun heq =>
  h.toXdr_ne v (List.append_cancel_left (h.sha256 heq))

end CollisionFree

/-! ## Contributions -/

/-- A contribution, as a ballot: who, and whether they approve. -/
abbrev Vote := Address × Bool

/-- The contribution an entry point makes to a session. -/
def MpcOp.vote (sid : Bytes) : MpcOp → List Vote
  | submitMpcContribution verifier sessionId approved =>
    if sessionId = sid then [(verifier, approved)] else []
  | registerMpcVerifier .. | createMpcSession .. => []

def Op.vote (sid : Bytes) : Op → List Vote
  | mpc op => op.vote sid
  | _ => []

/-! ## What the entry points do -/

/-- **What the storage says of a session**, with the verifiers whose slot is taken. -/
@[ext]
structure Poll where
  session : Option MpcSession
  spent : Set Address
  tally : Except Fault Nat
  count : Nat
  registry : List Address

def Mpc.poll (host : Host) (sid : Bytes) (m : Mpc) : Poll where
  session := m.session sid
  spent := {v | m.slot (sid, verifierSlot host sid v) ≠ none}
  tally := m.readTally (sid, tallySlot host sid)
  count := m.getMpcContributionCount sid
  registry := m.verifierRegistry

/-- A registered verifier may contribute to a session that may still take a contribution. -/
def Poll.Admits (p : Poll) (v : Address) : Prop :=
  v ∈ p.registry ∧ ∀ session ∈ p.session, p.count < session.totalVerifiers

/-- **What a call does to a session**, by the contributions it makes: it leaves the session, opens
it, or adds a contribution of a verifier whose slot is empty, which may approve it. -/
inductive PollStep (p : Poll) : List Vote → Poll → Prop
  | kept {registry : List Address} (hregistry : p.registry ⊆ registry) :
      PollStep p [] { p with registry := registry }
  | created {session : MpcSession} (hnone : p.session = none)
      (hpending : session.status = .pending) :
      PollStep p [] { p with session := some session, count := 0 }
  | contributed {v : Address} {approved : Bool} {session : MpcSession} {tally : Nat}
      (hs : p.session = some session) (hpending : session.status = .pending) (hempty : v ∉ p.spent)
      (htally : p.tally = .ok tally) :
      PollStep p [(v, approved)] { p with
        session := some (if session.threshold ≤ tally + approved.toNat then
          { session with status := .approved } else session)
        spent := insert v p.spent
        tally := .ok (tally + approved.toNat)
        count := p.count + 1 }

theorem PollStep.refl (p : Poll) : PollStep p [] p := .kept (List.Subset.refl _)

namespace Mpc

variable {m : Mpc} {c : Control} {env : Env} {admin v : Address} {sid sid' : Bytes}
  {approved : Bool} {session : MpcSession} {tally : Nat}

theorem poll_open {host : Host} :
    Mpc.poll host sid { m with
      session := m.session.set sid session
      contributionCount := m.contributionCount.set sid 0 } =
      { m.poll host sid with session := some session, count := 0 } := by
  ext1 <;> simp [poll, readTally, getMpcContributionCount]

theorem poll_open_of_ne {host : Host} (hne : sid' ≠ sid) :
    Mpc.poll host sid' { m with
      session := m.session.set sid session
      contributionCount := m.contributionCount.set sid 0 } = m.poll host sid' := by
  ext1 <;> simp [poll, readTally, getMpcContributionCount, Store.set_of_ne hne]

/-- The storage after a contribution to a session, with its tally from now on. -/
def contribute (m : Mpc) (env : Env) (v : Address) (sid : Bytes) (approved : Bool)
    (session : MpcSession) (tally : Nat) : Mpc where
  session := m.session.set sid session
  slot := (m.slot.set (sid, verifierSlot env.toHost sid v)
    (.contribution ⟨v, approved, env.sequence⟩)).set (sid, tallySlot env.toHost sid) (.tally tally)
  contributionCount := m.contributionCount.set sid (m.getMpcContributionCount sid + 1)
  verifierRegistry := m.verifierRegistry

theorem poll_contribute (hhost : CollisionFree env.toHost) :
    (m.contribute env v sid approved session tally).poll env.toHost sid =
      { m.poll env.toHost sid with
        session := some session
        spent := insert v (m.poll env.toHost sid).spent
        tally := .ok tally
        count := (m.poll env.toHost sid).count + 1 } := by
  ext1
  case spent =>
    ext v'
    by_cases hv : v' = v <;> simp [poll, contribute, Store.set_apply, hhost.verifierSlot_inj,
      hhost.verifierSlot_ne_tallySlot, hv]
  all_goals simp [poll, contribute, readTally, getMpcContributionCount]

theorem poll_contribute_of_ne (hne : sid' ≠ sid) :
    (m.contribute env v sid approved session tally).poll env.toHost sid' =
      m.poll env.toHost sid' := by
  ext1 <;> simp [poll, contribute, readTally, getMpcContributionCount, Store.set_apply, hne]

theorem readContribution_eq_none {key : Bytes × Bytes} :
    m.readContribution key = .ok none ↔ m.slot key = none := by
  unfold readContribution
  split <;> simp_all

theorem ensures_recordContribution :
    Ensures (m.recordContribution env v sid approved) fun m' =>
      m.slot (sid, verifierSlot env.toHost sid v) = none ∧
      m' = { m with
        slot := m.slot.set (sid, verifierSlot env.toHost sid v)
          (.contribution ⟨v, approved, env.sequence⟩)
        contributionCount := m.contributionCount.set sid (m.getMpcContributionCount sid + 1) } := by
  simp only [recordContribution, ensures_bind, ensures_require, ensures_checkedAdd, ensures_pure]
  rintro existing hexisting rfl -
  exact ⟨readContribution_eq_none.mp hexisting, rfl⟩

theorem ensures_updateTally :
    Ensures (m.updateTally env sid approved) fun p =>
      ∃ tally, m.readTally (sid, tallySlot env.toHost sid) = .ok tally ∧
        p = ({ m with
          slot := m.slot.set (sid, tallySlot env.toHost sid) (.tally (tally + approved.toNat)) },
            tally + approved.toNat) := by
  simp only [updateTally, ensures_bind, ensures_ite, ensures_checkedAdd, ensures_pure]
  refine fun tally htally => ⟨fun happroved _ => ⟨tally, htally, ?_⟩, fun happroved =>
    ⟨tally, htally, ?_⟩⟩
  · rw [happroved, Bool.toNat_true]
  · rw [Bool.eq_false_of_not_eq_true happroved, Bool.toNat_false, Nat.add_zero]

/-- **What a submission does**: the session is pending, the verifier's slot is empty, and the
tally grows by an approval, which decides the session's status. -/
theorem submit_step (hhost : CollisionFree env.toHost) :
    Ensures (m.submitMpcContribution env v sid' approved) fun p =>
      PollStep (m.poll env.toHost sid) ((MpcOp.submitMpcContribution v sid' approved).vote sid)
        (p.1.poll env.toHost sid) := by
  simp only [submitMpcContribution, ensures_steps, require_eq_ok]
  intro _ session hsession hpending m₁ hm₁ p hp
  obtain ⟨hempty, rfl⟩ := ensures_recordContribution m₁ hm₁
  obtain ⟨tally, htally, rfl⟩ := ensures_updateTally p hp
  change PollStep _ _ ((m.contribute env v sid' approved _ _).poll env.toHost sid)
  rcases eq_or_ne sid sid' with rfl | hne
  · rw [poll_contribute hhost, MpcOp.vote, if_pos rfl]
    refine .contributed hsession hpending (not_not_intro hempty) ?_
    rw [← htally]
    simp [poll, readTally, Store.set_of_ne, hhost.verifierSlot_ne_tallySlot.symm]
  · rw [poll_contribute_of_ne hne, MpcOp.vote, if_neg hne.symm]
    exact .refl _

end Mpc

/-- **Every entry point takes a step of each session.** -/
theorem MpcOp.pollStep {env : Env} (hhost : CollisionFree env.toHost) (c : Control) (m : Mpc)
    (sid : Bytes) (op : MpcOp) :
    Ensures (op.apply env c m) fun m' =>
      PollStep (m.poll env.toHost sid) (op.vote sid) (m'.poll env.toHost sid) := by
  cases op with
  | registerMpcVerifier admin v =>
    simp only [apply, Mpc.registerMpcVerifier, ensures_steps, ensures_ite]
    exact fun _ => ⟨fun _ => .refl _, fun _ => .kept (List.subset_append_left _ _)⟩
  | createMpcSession admin sid' threshold totalVerifiers =>
    simp only [apply, Mpc.createMpcSession, ensures_steps, require_eq_ok]
    intro _ _ _ _ hnone
    rcases eq_or_ne sid sid' with rfl | hne
    · rw [Mpc.poll_open]
      exact .created hnone rfl
    · rw [Mpc.poll_open_of_ne hne]
      exact .refl _
  | submitMpcContribution v sid' approved =>
    rw [apply, ensures_map]
    exact Mpc.submit_step hhost

/-! ## The account -/

/-- The slots, the counter and the session account for the contributions to it. -/
structure Accounts (votes : List Vote) (p : Poll) : Prop where
  spent : ∀ b ∈ votes, b.1 ∈ p.spent
  tally : p.tally = .ok (votes.countP Prod.snd)
  count : p.count = votes.length
  once : (votes.map Prod.fst).Nodup
  no_session : p.session = none → votes = []
  approved : ∀ session, p.session = some session → session.status = .approved →
    session.threshold ≤ votes.countP Prod.snd

/-- The contributors to a session are registered, and within its number of verifiers. -/
structure Regular (votes : List Vote) (p : Poll) : Prop where
  registered : ∀ b ∈ votes, b.1 ∈ p.registry
  bounded : ∀ session, p.session = some session → votes.length ≤ session.totalVerifiers

namespace PollStep

variable {votes new : List Vote} {p p' : Poll}

/-- **A session that is not pending is never rewritten.** -/
theorem session_eq (h : PollStep p new p') {session : MpcSession}
    (hsession : p.session = some session) (hstatus : session.status ≠ .pending) :
    p'.session = some session := by
  cases h with
  | kept => exact hsession
  | created hnone => exact absurd (hnone.symm.trans hsession) (by simp)
  | contributed hs hpending =>
    obtain rfl := Option.mem_unique hsession hs
    exact absurd hpending hstatus

theorem countP_append_vote {v : Address} {approved : Bool} :
    (votes ++ [(v, approved)]).countP Prod.snd = votes.countP Prod.snd + approved.toNat := by
  rw [List.countP_append, List.countP_singleton]
  cases approved <;> rfl

/-- **Every step keeps the account.** -/
theorem accounts (h : PollStep p new p') (hp : Accounts votes p) : Accounts (votes ++ new) p' := by
  obtain ⟨hspent, htally, hcount, honce, hnone, happroved⟩ := hp
  cases h with
  | kept => exact (List.append_nil votes).symm ▸ ⟨hspent, htally, hcount, honce, hnone, happroved⟩
  | created hnew hpending =>
    constructor <;> simp_all
  | @contributed v approved session tally hs hpending hempty ht =>
    obtain rfl := Except.ok.inj (ht.symm.trans htally)
    refine ⟨?_, ?_, ?_, ?_, by simp, ?_⟩
    · intro b hb
      rcases List.mem_append.mp hb with hb | hb
      · exact Set.mem_insert_of_mem _ (hspent b hb)
      · exact List.mem_singleton.mp hb ▸ Set.mem_insert _ _
    · rw [countP_append_vote]
    · rw [List.length_append, List.length_singleton, hcount]
    · rw [List.map_append, List.map_singleton]
      refine List.Nodup.append honce (List.nodup_singleton _) (List.disjoint_singleton.mpr ?_)
      intro hmem
      obtain ⟨b, hb, rfl⟩ := List.mem_map.mp hmem
      exact hempty (hspent b hb)
    · rw [countP_append_vote]
      rintro _ ⟨⟩ hstatus
      split at hstatus
      next h => rwa [if_pos h]
      next => simp [hpending] at hstatus

/-- **Every admissible step keeps contributors registered and few.** -/
theorem regular (h : PollStep p new p') (hp : Accounts votes p) (hregular : Regular votes p)
    (hnew : ∀ b ∈ new, p.Admits b.1) : Regular (votes ++ new) p' := by
  cases h with
  | kept hregistry =>
    rw [List.append_nil]
    exact ⟨fun b hb => hregistry (hregular.registered b hb), hregular.bounded⟩
  | created hnone =>
    rw [hp.no_session hnone]
    exact ⟨by simp, by simp⟩
  | @contributed v approved session tally hs =>
    obtain ⟨hv, hroom⟩ := hnew _ (List.mem_singleton_self _)
    constructor
    · intro b hb
      rcases List.mem_append.mp hb with hb | hb
      · exact hregular.registered b hb
      · exact List.mem_singleton.mp hb ▸ hv
    · rintro _ ⟨⟩
      rw [List.length_append, List.length_singleton, ← hp.count]
      split <;> exact hroom session hs

end PollStep

/-! ## Submissions within the registry -/

/-- A submission by a registered verifier, to a session that may still take one. -/
def MpcOp.Admissible (m : Mpc) : MpcOp → Prop
  | submitMpcContribution verifier sessionId _ => verifier ∈ m.verifierRegistry ∧
    ∀ session ∈ m.session sessionId,
      m.getMpcContributionCount sessionId < session.totalVerifiers
  | registerMpcVerifier .. | createMpcSession .. => True

instance (m : Mpc) (op : MpcOp) : Decidable (op.Admissible m) := by
  unfold MpcOp.Admissible
  split <;> infer_instance

theorem MpcOp.Admissible.vote {m : Mpc} {op : MpcOp} (h : op.Admissible m) (host : Host)
    (sid : Bytes) : ∀ b ∈ op.vote sid, (m.poll host sid).Admits b.1 := by
  cases op with
  | submitMpcContribution v sid' approved =>
    rw [MpcOp.vote]
    split
    next heq =>
      intro b hb
      rw [List.mem_singleton.mp hb, ← heq]
      exact h
    next => simp
  | _ => simp [MpcOp.vote]

/-! ## Runs -/

namespace World

variable {r : ℕ} [Fact r.Prime] {G₁ G₂ Gt : Type} [AddCommGroup G₁] [Module (ZMod r) G₁]
  [AddCommGroup G₂] [Module (ZMod r) G₂] [AddCommGroup Gt] [Module (ZMod r) Gt]
  (platform : Platform r G₁ G₂ Gt)

/-- The contribution a call records for a session. -/
def recorded (w : World) (call : Call) (sid : Bytes) : List Vote :=
  if w.Completes platform call then call.op.vote sid else []

/-- The contributions a run of calls records for a session, in order. -/
def contributions (sid : Bytes) : World → List Call → List Vote
  | _, [] => []
  | w, call :: calls =>
    w.recorded platform call sid ++ contributions sid (w.next platform call) calls

theorem contributions_append (sid : Bytes) (w : World) (calls : List Call) (call : Call) :
    contributions platform sid w (calls ++ [call])
      = contributions platform sid w calls ++
        (run (next platform) w calls).recorded platform call sid := by
  induction calls generalizing w with
  | nil => simp [contributions]
  | cons call' calls ih => simp [contributions, ih, List.append_assoc]

variable {platform}

/-- **Every call takes a step of each session**, unless SHA-256 collides. -/
theorem next_poll (hhost : CollisionFree platform.toHost) (w : World) (call : Call) (sid : Bytes) :
    PollStep (w.state.mpc.poll platform.toHost sid) (w.recorded platform call sid)
      ((w.next platform call).state.mpc.poll platform.toHost sid) := by
  rcases w.next_cases platform call with ⟨hnot, hstate⟩ | ⟨hcompletes, hperform⟩
  · rw [recorded, if_neg hnot, hstate]
    exact .refl _
  · rw [recorded, if_pos hcompletes]
    rw [perform] at hperform
    cases hop : call.op with
    | mpc op =>
      rw [hop, Op.apply, map_eq_ok] at hperform
      obtain ⟨m, hm, hstate⟩ := hperform
      rw [← hstate]
      exact op.pollStep hhost _ _ sid m hm
    | _ =>
      rw [hop, Op.apply, map_eq_ok] at hperform
      obtain ⟨_, -, hstate⟩ := hperform
      rw [← hstate]
      exact .refl _

/-- **The slots account for every run's contributions**, unless SHA-256 collides. -/
theorem accounts_after (hhost : CollisionFree platform.toHost) (sid : Bytes) (calls : List Call) :
    Accounts (contributions platform sid deployed calls)
      ((after platform calls).state.mpc.poll platform.toHost sid) := by
  refine (along_true (next platform) deployed calls).history (I := fun calls w =>
    Accounts (contributions platform sid deployed calls) (w.state.mpc.poll platform.toHost sid))
    ?_ ?_
  · exact ⟨nofun, rfl, rfl, List.nodup_nil, fun _ => rfl, nofun⟩
  · intro calls call h _
    rw [contributions_append]
    exact (next_poll hhost _ call sid).accounts h

/-- A call whose submission is by a registered verifier, to a session that may still take one. -/
def AdmissibleCall (w : World) (call : Call) : Prop :=
  ∀ op, call.op = .mpc op → op.Admissible w.state.mpc

instance (w : World) (call : Call) : Decidable (AdmissibleCall w call) :=
  match h : call.op with
  | .mpc op => decidable_of_iff (op.Admissible w.state.mpc) (by simp [AdmissibleCall, h])
  | .control _ | .key _ | .cache _ | .record _ | .registry _ =>
    .isTrue fun op hop => by simp [h] at hop

theorem AdmissibleCall.recorded {w : World} {call : Call} (h : AdmissibleCall w call) (host : Host)
    (sid : Bytes) : ∀ b ∈ w.recorded platform call sid, (w.state.mpc.poll host sid).Admits b.1 := by
  rw [World.recorded]
  split
  next =>
    cases hop : call.op with
    | mpc op => exact (h op hop).vote host sid
    | _ => simp [Op.vote]
  next => simp

/-- **Along admissible runs contributors are registered, and within the session's number.** -/
theorem regular_after (hhost : CollisionFree platform.toHost) (sid : Bytes) {calls : List Call}
    (h : Along (next platform) AdmissibleCall deployed calls) :
    Regular (contributions platform sid deployed calls)
      ((after platform calls).state.mpc.poll platform.toHost sid) := by
  refine h.history (I := fun calls w =>
    Regular (contributions platform sid deployed calls) (w.state.mpc.poll platform.toHost sid))
    ?_ ?_
  · constructor <;> simp [deployed, State.empty, contributions, Mpc.poll]
  · intro calls call h hcall
    rw [contributions_append]
    exact (next_poll hhost _ call sid).regular (accounts_after hhost sid calls) h
      (hcall.recorded _ sid)

/-- **An approved session stays approved**, whatever is called. -/
theorem session_run (hhost : CollisionFree platform.toHost) {w : World} {sid : Bytes}
    {session : MpcSession} (hs : w.state.mpc.session sid = some session)
    (hstatus : session.status ≠ .pending) (calls : List Call) :
    (run (next platform) w calls).state.mpc.session sid = some session :=
  run_invariant (I := fun w : World => w.state.mpc.session sid = some session)
    (fun w call hs => (next_poll hhost w call sid).session_eq hs hstatus) hs calls

variable (platform) in
/-- **Sessions stand for their threshold of registered verifiers**, and take no more contributions
than `total_verifiers`, along every run whose submissions are each made by a registered verifier to
a session with fewer contributions than that; and an approved session stays approved. -/
theorem session_sound (hhost : CollisionFree platform.toHost) (calls : List Call) {sid : Bytes}
    {session : MpcSession}
    (hs : (after platform calls).state.mpc.session sid = some session) :
    let votes := contributions platform sid deployed calls
    (Along (next platform) AdmissibleCall deployed calls →
      (session.status = .approved → ∃ approvers : Finset Address,
        session.threshold ≤ approvers.card ∧ ∀ v ∈ approvers,
          v ∈ (after platform calls).state.mpc.verifierRegistry ∧ (v, true) ∈ votes) ∧
      votes.length ≤ session.totalVerifiers) ∧
    (session.status = .approved → ∀ later,
      (after platform (calls ++ later)).state.mpc.isMpcSessionApproved sid = true) := by
  intro votes
  refine ⟨fun h => ⟨fun happroved => ?_, (regular_after hhost sid h).bounded session hs⟩,
    fun happroved later => ?_⟩
  · have haccounts := accounts_after hhost sid calls
    have honce : ((votes.filter Prod.snd).map Prod.fst).Nodup :=
      haccounts.once.sublist (List.filter_sublist.map _)
    refine ⟨((votes.filter Prod.snd).map Prod.fst).toFinset, ?_, fun v hv => ?_⟩
    · rw [List.toFinset_card_of_nodup honce, List.length_map, ← List.countP_eq_length_filter]
      exact haccounts.approved session hs happroved
    · obtain ⟨⟨v, approved⟩, hb, rfl⟩ := List.mem_map.mp (List.mem_toFinset.mp hv)
      obtain ⟨hmem, happroved⟩ := List.mem_filter.mp hb
      obtain rfl : approved = true := happroved
      exact ⟨(regular_after hhost sid h).registered _ hmem, hmem⟩
  · have hlater := session_run hhost hs (by rw [happroved]; decide) later
    rw [after, run_append]
    rw [after] at hlater
    simp [Mpc.isMpcSessionApproved, hlater, happroved]

end World

namespace Sample

theorem collisionFree : CollisionFree host where
  sha256 := Function.injective_id
  toXdr a b h := by
    have hlen := congrArg List.length h
    simp only [host, List.length_replicate, Nat.add_right_cancel_iff] at hlen
    cases a
    cases b
    exact congrArg Address.mk hlen
  toXdr_ne v h := by simpa [host] using congrArg List.length h

/-- The admin registers Alice and Bob and opens a session that needs both. -/
def opened : List Call :=
  [initialized, callBy admin (.mpc (.registerMpcVerifier admin alice)),
    callBy admin (.mpc (.registerMpcVerifier admin bob)),
    callBy admin (.mpc (.createMpcSession admin [7] 2 2))]

/-- A contribution to it. -/
def submit (v : Address) (approved : Bool) : Call :=
  callBy v (.mpc (.submitMpcContribution v [7] approved))

end Sample

namespace World

open Zk.Sample

/-- Alice and Bob approve. -/
theorem session_sound_two :
    let calls := opened ++ [submit alice true, submit bob true]
    Along (next platform) AdmissibleCall deployed calls ∧
      ∃ approvers : Finset Address, 2 ≤ approvers.card ∧ ∀ v ∈ approvers,
        v ∈ (after platform calls).state.mpc.verifierRegistry ∧
          (v, true) ∈ contributions platform [7] deployed calls := by
  intro calls
  have hs : (after platform calls).state.mpc.session [7]
      = some ⟨[7], 2, 2, .approved, 0⟩ := by decide +kernel
  have hcalls : Along (next platform) AdmissibleCall deployed calls := by decide +kernel
  exact ⟨hcalls, ((session_sound platform collisionFree calls hs).1 hcalls).1 rfl⟩

/-- Nobody of the registry contributes, and the session is approved with three contributions out of
two. -/
theorem not_session_sound :
    let calls := opened ++ [submit admin false,
      submit carol true, submit ⟨4⟩ true]
    CollisionFree platform.toHost ∧
      (after platform calls).state.mpc.session [7] = some ⟨[7], 2, 2, .approved, 0⟩ ∧
      (contributions platform [7] deployed calls).length = 3 ∧
      ∀ v ∈ (after platform calls).state.mpc.verifierRegistry,
        (v, true) ∉ contributions platform [7] deployed calls :=
  ⟨collisionFree, by decide +kernel, by decide +kernel, by decide +kernel⟩

end World

end QuorumProof.Zk
