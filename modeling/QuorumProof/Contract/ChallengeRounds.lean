import Mathlib.Algebra.BigOperators.Group.Finset.Basic
import QuorumProof.Contract.SliceEffects

/-!
# Contract/ChallengeRounds — how a challenge comes to be upheld

A challenge is decided by the weight of its voters, round after round.  While it is open, neither
side has the weight that decides it: `Docket` says so, together with who may be among the voters.
A verdict against the accused then rests on the votes of its round — unless nobody voted, or the
slice requires no weight at all, since the tie of nothing with nothing upholds.

The first round has no deadline until somebody submits evidence, so it can be advanced at once.
-/

namespace QuorumProof

open Guarded

/-! ## Weights of voters -/

/-- The weight of a set of voters in a slice. -/
def QuorumSlice.weightAmong (slice : QuorumSlice) (voters : Finset Address) : Nat :=
  ∑ voter ∈ voters, (slice.weightOf voter).getD 0

/-- Counting votes counts voters, up to what a `u32` holds. -/
theorem QuorumSlice.weightedSum_eq (slice : QuorumSlice) {votes : List Address}
    (h : votes.Nodup) :
    slice.weightedSum votes = min (slice.weightAmong votes.toFinset) u32Max := by
  rw [weightedSum, foldl_saturatingAdd, weightAmong, List.sum_toFinset _ h]

namespace Challenge

variable {c : Challenge} {voter : Address}

/-- Nobody has two votes on one side, and the accused has none. -/
structure FairBallots (c : Challenge) : Prop where
  upholdVotes : c.upholdVotes.Nodup
  dismissVotes : c.dismissVotes.Nodup
  accused : c.accused ∉ c.upholdVotes ∧ c.accused ∉ c.dismissVotes

theorem FairBallots.of_no_votes (h : c.upholdVotes = [] ∧ c.dismissVotes = []) : c.FairBallots := by
  obtain ⟨huphold, hdismiss⟩ := h
  constructor <;> simp [huphold, hdismiss]

theorem nodup_append_singleton {votes : List Address} (h : votes.Nodup) (hfresh : voter ∉ votes) :
    (votes ++ [voter]).Nodup := by
  simpa using h.concat hfresh

theorem FairBallots.cast (h : c.FairBallots) (hmay : State.MayVote c voter) (uphold : Bool) :
    (c.cast voter uphold).FairBallots := by
  have hother : c.accused ≠ voter := hmay.not_accused.symm
  cases uphold with
  | true =>
    exact ⟨nodup_append_singleton h.upholdVotes hmay.fresh.1, h.dismissVotes,
      by simpa [Challenge.cast, hother] using h.accused.1, h.accused.2⟩
  | false =>
    exact ⟨h.upholdVotes, nodup_append_singleton h.dismissVotes hmay.fresh.2, h.accused.1,
      by simpa [Challenge.cast, hother] using h.accused.2⟩

end Challenge

/-- **A verdict that rests on its votes**: distinct voters of positive weight uphold, no less than
dismiss, and the accused is not among them. -/
structure FairlyUpheld (slice : QuorumSlice) (c : Challenge) : Prop where
  positive : 0 < slice.weightAmong c.upholdVotes.toFinset
  majority : slice.weightAmong c.dismissVotes.toFinset ≤ slice.weightAmong c.upholdVotes.toFinset
  accused : c.accused ∉ c.upholdVotes ∧ c.accused ∉ c.dismissVotes

variable {c : Challenge} {t : Nat}

/-- Weights counted up to what a `u32` holds decide as the weights do, while the losing side is
within it. -/
theorem FairlyUpheld.of_weightedSum {slice : QuorumSlice} (h : c.FairBallots)
    (hpositive : 0 < slice.weightedSum c.upholdVotes)
    (hmajority : slice.weightedSum c.dismissVotes ≤ slice.weightedSum c.upholdVotes)
    (hfits : slice.weightedSum c.dismissVotes < u32Max) : FairlyUpheld slice c := by
  rw [slice.weightedSum_eq h.upholdVotes] at hpositive hmajority
  rw [slice.weightedSum_eq h.dismissVotes] at hmajority hfits
  exact ⟨by omega, by omega, h.accused⟩

/-! ## The docket -/

namespace State

variable {env : Env} {s s' : State} {op : DisciplineOp} {write : ChallengeWrite}

/-- **What holds of a challenge and its rounds**: they are numbered, a round lasts as long as all
do, the ballots are fair, and while it is open neither side has the weight that decides it. -/
structure OnDocket (b : SliceBook) (count id : Nat) (challenge : Option Challenge)
    (rounds : Option ChallengeExtended) : Prop where
  numbered : challenge.isSome ∨ rounds.isSome → id ≤ count
  duration : ∀ ext ∈ rounds, ext.roundDurationSeconds = 172800
  ballots : ∀ c ∈ challenge, c.FairBallots
  undecided : ∀ c ∈ challenge, c.status = .opened → ∀ slice ∈ b.slices c.sliceId,
    0 < b.requiredWeight slice → slice.weightedSum c.upholdVotes < b.requiredWeight slice ∧
      slice.weightedSum c.dismissVotes < b.requiredWeight slice

/-- It holds of all of them. -/
def Docket (s : State) : Prop :=
  ∀ id, OnDocket s.slices s.discipline.challengeCount id (s.discipline.challenge id)
    (s.discipline.challengeExtended id)

/-- The slices that decide open challenges, and what they require, are as they were. -/
def SameBenches (s s' : State) : Prop :=
  ∀ {id c slice}, s.discipline.challenge id = some c → c.status = .opened →
    s'.slices.slices c.sliceId = some slice → s.slices.slices c.sliceId = some slice ∧
      s'.slices.requiredWeight slice = s.slices.requiredWeight slice

theorem SameBenches.of_slices
    (h : s'.slices = { s.slices with sliceCount := s'.slices.sliceCount }) : SameBenches s s' := by
  intro id c slice _ _ hslice
  rw [h] at hslice ⊢
  exact ⟨hslice, rfl⟩

theorem Docket.of_same (h : Docket s) (hsame : SameChallenges s s') (hbenches : SameBenches s s') :
    Docket s' := by
  obtain ⟨hchallenge, hcount, hrounds⟩ := hsame
  intro id
  rw [hchallenge, hcount, hrounds]
  refine ⟨(h id).numbered, (h id).duration, (h id).ballots, fun c hc hopened slice hslice => ?_⟩
  obtain ⟨hslice', hrequired⟩ := hbenches hc hopened hslice
  rw [hrequired]
  exact (h id).undecided c hc hopened slice hslice'

theorem Docket.numbered (h : Docket s) {id : Nat} {c : Challenge}
    (hc : s.discipline.challenge id = some c) : id ≤ s.discipline.challengeCount :=
  (h id).numbered (.inl (by simp [hc]))

/-- The rounds stored for a challenge, or those it starts with, last as long as all rounds. -/
theorem Docket.rounds_duration (h : Docket s) (challengeId expiresAt : Nat) :
    ((s.discipline.challengeExtended challengeId).getD
      (initialRounds challengeId expiresAt)).roundDurationSeconds = 172800 := by
  cases hext : s.discipline.challengeExtended challengeId with
  | none => rfl
  | some ext => exact (h challengeId).duration ext hext

/-- What a write makes of a challenge and its rounds. -/
theorem RecordsChallenge.fate (h : RecordsChallenge env write s s') (id : Nat) :
    id = write.id ∧ s'.discipline.challenge id = some write.challenge ∧
        s'.discipline.challengeExtended id =
          write.rounds.or (s.discipline.challengeExtended id) ∨
      s'.discipline.challenge id = s.discipline.challenge id ∧
        s'.discipline.challengeExtended id = s.discipline.challengeExtended id := by
  rw [h.challenge, h.rounds]
  by_cases hid : id = write.id
  · cases write.rounds <;> simp [hid]
  · cases write.rounds <;> simp [Store.set_of_ne hid]

/-- **What the operations on challenges write belongs on the docket.** -/
theorem ChallengeStep.onDocket (hstep : ChallengeStep env s op write) (h : Docket s) :
    OnDocket s.slices write.count write.id (some write.challenge)
      (write.rounds.or (s.discipline.challengeExtended write.id)) := by
  have hrounds : ∀ ext ∈ write.rounds, ext.roundDurationSeconds = 172800 := by
    cases hstep with
    | opens | votes => simp
    | documents | advances | concludes =>
      rintro _ ⟨⟩
      exact h.rounds_duration _ _
  have hduration : ∀ ext ∈ write.rounds.or (s.discipline.challengeExtended write.id),
      ext.roundDurationSeconds = 172800 := by
    cases hnew : write.rounds with
    | none => exact (h write.id).duration
    | some => exact fun ext hext => hrounds ext (hnew ▸ hext)
  have hballots := fun {id c} => (h id).ballots c
  refine ⟨fun _ => ?_, hduration, ?_, ?_⟩ <;> try rintro _ ⟨⟩
  · cases hstep with
    | opens => exact le_rfl
    | votes hopen | documents hopen | advances hopen | concludes hopen =>
      exact h.numbered hopen.stored
  · cases hstep with
    | opens _ hvotes => exact .of_no_votes hvotes
    | votes hopen hmay => exact { (hballots hopen.stored).cast hmay _ with }
    | documents hopen => exact hballots hopen.stored
    | advances => exact .of_no_votes ⟨rfl, rfl⟩
    | concludes hopen => exact { hballots hopen.stored with }
  · intro hopened slice hslice hpos
    cases hstep with
    | opens _ hvotes =>
      rw [hvotes.1, hvotes.2]
      exact ⟨hpos, hpos⟩
    | votes hopen =>
      rw [Challenge.cast_sliceId] at hslice
      obtain rfl := Option.mem_unique hopen.slice hslice
      exact SliceBook.outcome_eq_opened_iff.mp hopened
    | documents hopen => exact (h _).undecided _ hopen.stored hopened slice hslice hpos
    | advances => exact ⟨hpos, hpos⟩
    | concludes => exact absurd hopened (QuorumSlice.verdict_ne_opened _ _)

theorem Docket.step (h : Docket s) (hstep : ChallengeStep env s op write)
    (hrecords : RecordsChallenge env write s s') : Docket s' := by
  intro id
  have hcount : s.discipline.challengeCount ≤ write.count := by
    cases hstep with
    | opens => exact Nat.le_succ _
    | _ => exact le_rfl
  rw [hrecords.frame.slices, hrecords.count]
  rcases hrecords.fate id with ⟨rfl, hchallenge, hrounds⟩ | ⟨hchallenge, hrounds⟩
  · rw [hchallenge, hrounds]
    exact hstep.onDocket h
  · rw [hchallenge, hrounds]
    exact { h id with numbered := fun hsome => ((h id).numbered hsome).trans hcount }

/-! ## Verdicts -/

/-- The slice of a challenge requires some weight. -/
def RequiresWeight (s : State) (challengeId : Nat) : Prop :=
  ∀ c ∈ s.discipline.challenge challengeId, ∀ slice ∈ s.slices.slices c.sliceId,
    0 < s.slices.requiredWeight slice
  deriving Decidable

/-- A challenge has its rounds, and in the last of them somebody of some weight has voted. -/
def HeldRound (s : State) (challengeId : Nat) : Prop :=
  ∃ ext ∈ s.discipline.challengeExtended challengeId,
    ∀ c ∈ s.discipline.challenge challengeId, ∀ slice ∈ s.slices.slices c.sliceId,
      ext.maxRounds ≤ ext.round →
        0 < slice.weightedSum c.upholdVotes ∨ 0 < slice.weightedSum c.dismissVotes
  deriving Decidable

/-- No challenge that a slice decides is open. -/
def NoOpenChallenge (s : State) (sliceId : Nat) : Prop :=
  ∀ id ≤ s.discipline.challengeCount, ∀ c ∈ s.discipline.challenge id,
    c.status = .opened → c.sliceId ≠ sliceId
  deriving Decidable

end State

/-- The calls that decide a challenge by votes and leave its rounds their time: a slice is not
written while it decides an open challenge, it requires some weight when a vote is cast or a round
advanced, and a round is advanced once its deadline is known, at a time that leaves room for the
next one, and the last one only after a vote. -/
def Op.KeepsRounds (now : Nat) (s : State) : Op → Prop
  | slice op => ∀ k ∈ op.written s, s.NoOpenChallenge k
  | discipline (.voteOnChallenge _ challengeId _) => s.RequiresWeight challengeId
  | discipline (.advanceChallengeRound _ challengeId) =>
    s.RequiresWeight challengeId ∧ s.HeldRound challengeId ∧ now + 172800 ≤ u64Max
  | _ => True

instance (now : Nat) (s : State) (op : Op) : Decidable (op.KeepsRounds now s) := by
  unfold Op.KeepsRounds
  split <;> infer_instance

namespace State

variable {env : Env} {s s' : State} {op : DisciplineOp} {write : ChallengeWrite}

/-- Writing another slice leaves the ones that decide open challenges. -/
theorem SliceStep.sameBenches {op : SliceOp} (h : SliceStep op s s') (hdocket : Docket s)
    (hregistered : s.slices.Registered) (hop : Op.KeepsRounds env.now s (.slice op)) :
    SameBenches s s' := by
  intro id c slice hstored hopened hslice
  have hother : op.written s ≠ some c.sliceId := fun hwritten =>
    hop _ hwritten id (hdocket.numbered hstored) c hstored hopened rfl
  rw [h.book.slices_of_ne hother] at hslice
  refine ⟨hslice, ?_⟩
  have htype : s'.slices.thresholdType slice.id = s.slices.thresholdType slice.id := by
    rw [hregistered.id_eq hslice, SliceBook.thresholdType, h.book.thresholdType_of_ne hother]
    rfl
  rw [SliceBook.requiredWeight, htype]
  rfl

/-- **A verdict rests on its votes**, as long as the slice requires some weight and nobody concludes
the last round before a vote. -/
theorem ChallengeStep.fairlyUpheld (hstep : ChallengeStep env s op write) (hdocket : Docket s)
    (hfits : s.slices.ThresholdsFit) (hop : Op.KeepsRounds env.now s (.discipline op))
    (hupheld : write.challenge.status = .upheld) :
    ∃ slice, s.slices.slices write.challenge.sliceId = some slice ∧
      FairlyUpheld slice write.challenge := by
  cases hstep with
  | opens hopened _ => exact absurd (hopened.symm.trans hupheld) (by decide)
  | @votes voter _ uphold c slice hopen hmay =>
    have huphold := SliceBook.outcome_eq_upheld_iff.mp hupheld
    have hpos : 0 < s.slices.requiredWeight slice := hop c hopen.stored slice hopen.slice
    obtain ⟨hundecided, hlosing⟩ :=
      (hdocket _).undecided c hopen.stored hopen.opened slice hopen.slice hpos
    have hfair := ((hdocket _).ballots c hopen.stored).cast hmay uphold
    refine ⟨slice, (c.cast_sliceId voter uphold) ▸ hopen.slice, ?_⟩
    cases uphold with
    | false => exact absurd huphold (Nat.not_le_of_lt hundecided)
    | true =>
      have hfairly : FairlyUpheld slice (c.cast voter true) :=
        .of_weightedSum hfair (hpos.trans_le huphold) (hlosing.le.trans huphold)
          (hlosing.trans_le (hfits.requiredWeight_le hopen.slice))
      exact { hfairly with }
  | documents hopen | advances hopen _ _ =>
    exact absurd (hopen.opened.symm.trans hupheld) (by decide)
  | @concludes caller id c slice hopen _ hdecided =>
    obtain ⟨hrequires, ⟨ext, hext, hheld⟩, -⟩ := hop
    have hpos : 0 < s.slices.requiredWeight slice := hrequires c hopen.stored slice hopen.slice
    obtain ⟨huphold, hdismiss⟩ :=
      (hdocket _).undecided c hopen.stored hopen.opened slice hopen.slice hpos
    have hrounds : s.rounds env id = ext := by rw [rounds, hext, Option.getD_some]
    have hlast : ext.maxRounds ≤ ext.round := by
      rcases hdecided with hlast | hside | hside
      · rwa [hrounds] at hlast
      · exact absurd hside (Nat.not_le_of_lt huphold)
      · exact absurd hside (Nat.not_le_of_lt hdismiss)
    have hleads := QuorumSlice.verdict_eq_upheld_iff.mp hupheld
    have hpositive : 0 < slice.weightedSum c.upholdVotes := by
      rcases hheld c hopen.stored slice hopen.slice hlast with hcast | hcast
      · exact hcast
      · exact hcast.trans_le hleads
    have hfairly : FairlyUpheld slice c :=
      .of_weightedSum ((hdocket _).ballots c hopen.stored) hpositive hleads
        (hdismiss.trans_le (hfits.requiredWeight_le hopen.slice))
    exact ⟨slice, hopen.slice, { hfairly with }⟩

/-! ## Deadlines -/

/-- If the rounds of a challenge have a deadline, it is a round's time after `t`. -/
def DeadlineAfter (t challengeId : Nat) (s : State) : Prop :=
  ∀ ext, s.discipline.challengeExtended challengeId = some ext → t + 172800 ≤ ext.roundExpiresAt

/-- The rounds an advance writes last from its time on. -/
theorem Docket.advanced_expires (h : Docket s) (challengeId : Nat)
    (hroom : env.now + 172800 ≤ u64Max) :
    saturatingAdd u64Max env.now (s.rounds env challengeId).roundDurationSeconds =
      env.now + 172800 := by
  rw [State.rounds, h.rounds_duration, saturatingAdd, Nat.min_eq_left hroom]

/-- **A deadline is never moved to an earlier time.** -/
theorem ChallengeStep.late (hstep : ChallengeStep env s op write) (hdocket : Docket s)
    (hop : Op.KeepsRounds env.now s (.discipline op)) (ht : t ≤ env.now)
    (h : DeadlineAfter t write.id s) :
    ∀ ext ∈ write.rounds.or (s.discipline.challengeExtended write.id),
      t + 172800 ≤ ext.roundExpiresAt := by
  cases hstep with
  | opens _ _ | votes _ _ => exact h
  | @documents submitter id _ _ _ _ _ _ =>
    rintro _ ⟨⟩
    cases hext : s.discipline.challengeExtended id with
    | none => exact Nat.add_le_add_right ht 172800
    | some ext => exact h ext hext
  | @advances caller id _ _ _ _ _ =>
    rintro _ ⟨⟩
    rw [hdocket.advanced_expires id hop.2.2]
    exact Nat.add_le_add_right ht 172800
  | concludes _ _ _ =>
    rintro _ ⟨⟩
    obtain ⟨-, ⟨ext, hext, -⟩, -⟩ := hop
    rw [rounds, hext]
    exact h ext hext

end State

/-! ## Runs -/

namespace State

/-- What becomes of a challenge and its rounds: they stay, or are what an operation writes. -/
def Fate (env : Env) (s s' : State) (id : Nat) : Prop :=
  s'.discipline.challenge id = s.discipline.challenge id ∧
      s'.discipline.challengeExtended id = s.discipline.challengeExtended id ∨
    ∃ op write, (Op.discipline op).KeepsRounds env.now s ∧ ChallengeStep env s op write ∧
      id = write.id ∧ s'.discipline.challenge id = some write.challenge ∧
      s'.discipline.challengeExtended id = write.rounds.or (s.discipline.challengeExtended id)

theorem Docket.and_fate (h : Docket s) (hsame : SameChallenges s s') (hbenches : SameBenches s s') :
    Docket s' ∧ ∀ id, Fate env s s' id :=
  ⟨h.of_same hsame hbenches, fun _ => .inl ⟨by rw [hsame.1], by rw [hsame.2.2]⟩⟩

end State

open State in
/-- What an operation leaves on the docket. -/
theorem Op.docket {env : Env} {s : State} {op : Op} (h : Docket s)
    (hregistered : s.slices.Registered) (hop : op.KeepsRounds env.now s) :
    Ensures (op.apply env s) fun s' => Docket s' ∧ ∀ id, Fate env s s' id := by
  intro s' hs'
  cases op with
  | discipline op =>
    cases disciplineOp_step env s op s' hs' with
    | challenged hstep hrecords =>
      exact ⟨h.step hstep hrecords, fun id =>
        (hrecords.fate id).symm.imp_right fun hwritten => ⟨op, _, hop, hstep, hwritten⟩⟩
    | _ =>
      subst_vars
      exact h.and_fate ⟨rfl, rfl, rfl⟩ (SameBenches.of_slices rfl)
  | slice op =>
    exact h.and_fate (Op.leaves_discipline env s (by simp) s' hs').2
      ((sliceOp_step env s op s' hs').sameBenches h hregistered hop)
  | _ =>
    exact h.and_fate (Op.leaves_discipline env s (by simp) s' hs').2
      (SameBenches.of_slices (Op.leaves_slices env s (by simp) s' hs'))

namespace World

/-- The condition on a call, at the time it is made. -/
def KeepsRounds (host : Host) (w : World) (call : Call) : Prop :=
  call.op.KeepsRounds (w.env host call).now w.state
  deriving Decidable

/-- A call advances a challenge. -/
def Advances (host : Host) (w : World) (call : Call) (challengeId : Nat) : Prop :=
  (∃ caller, call.op = .discipline (.advanceChallengeRound caller challengeId)) ∧
    w.Completes host call

/-- **A call opens a round of voting**: it opens the challenge, or advances it and leaves it
open. -/
def OpensRound (host : Host) (w : World) (call : Call) (challengeId : Nat) : Prop :=
  (w.state.discipline.challenge challengeId = none ∨ Advances host w call challengeId) ∧
    ∃ c, (w.next host call).state.discipline.challenge challengeId = some c ∧ c.status = .opened

/-- A call upholds a challenge. -/
structure Upholds (host : Host) (w : World) (call : Call) (challengeId : Nat) (c : Challenge) :
    Prop where
  before : ∀ c₀ ∈ w.state.discipline.challenge challengeId, c₀.status ≠ .upheld
  after : (w.next host call).state.discipline.challenge challengeId = some c
  upheld : c.status = .upheld

/-- **Every challenge a run upholds is upheld by the votes of its round.** -/
def VerdictsRest (host : Host) (calls : List Call) : Prop :=
  ∀ before call rest, calls = before ++ call :: rest → ∀ challengeId c,
    Upholds host (after host before) call challengeId c →
    ∃ slice, (after host before).state.slices.slices c.sliceId = some slice ∧ FairlyUpheld slice c

/-- **Every round a run opens lasts** as long as the rounds say, before it can be advanced. -/
def RoundsLast (host : Host) (calls : List Call) : Prop :=
  ∀ before opening between advance rest,
    calls = before ++ opening :: (between ++ advance :: rest) → ∀ challengeId,
    let w := after host before
    let w' := after host (before ++ opening :: between)
    OpensRound host w opening challengeId → Advances host w' advance challengeId →
    (w.env host opening).now +
        (w'.state.rounds (w'.env host advance) challengeId).roundDurationSeconds ≤
      (w'.env host advance).now

/-- What holds of every state of an admissible run. -/
structure InSession (w : World) : Prop where
  docket : w.state.Docket
  registered : w.state.slices.Registered
  fits : w.state.slices.ThresholdsFit

theorem inSession_deployed : InSession deployed := by
  have hslices : ∀ k, deployed.state.slices.slices k = none := fun _ => rfl
  have hchallenges : ∀ k, deployed.state.discipline.challenge k = none := fun _ => rfl
  have hrounds : ∀ k, deployed.state.discipline.challengeExtended k = none := fun _ => rfl
  exact ⟨fun id => ⟨by simp [hchallenges, hrounds], by simp [hrounds], by simp [hchallenges],
      by simp [hchallenges]⟩,
    ⟨by simp [hslices], by simp [hslices]⟩, fun h => absurd h (by simp [hslices])⟩

variable {host : Host} {w : World} {call : Call}

/-- What a call leaves on the docket. -/
theorem InSession.next_docket (hw : InSession w) (hcall : KeepsRounds host w call) :
    (w.next host call).state.Docket ∧
      ∀ id, State.Fate (w.env host call) w.state (w.next host call).state id :=
  next_of_ensures (Op.docket hw.docket hw.registered hcall)
    (hw.docket.and_fate ⟨rfl, rfl, rfl⟩ (State.SameBenches.of_slices rfl))

theorem InSession.next (hw : InSession w) (hcall : KeepsRounds host w call) :
    InSession (w.next host call) where
  docket := (hw.next_docket hcall).1
  registered := next_of_ensures (Op.registered _ call.op hw.registered) hw.registered
  fits := next_of_ensures (Op.thresholdsFit _ hw.fits call.op) hw.fits

variable {challengeId : Nat}

/-- **A call that upholds a challenge does so by the votes of its round.** -/
theorem Upholds.fairlyUpheld (h : Upholds host w call challengeId c) (hw : InSession w)
    (hcall : KeepsRounds host w call) :
    ∃ slice, w.state.slices.slices c.sliceId = some slice ∧ FairlyUpheld slice c := by
  rcases (hw.next_docket hcall).2 challengeId with
      ⟨hsame, -⟩ | ⟨op, write, hop, hstep, rfl, hstored, -⟩
  · exact absurd h.upheld (h.before c (hsame ▸ h.after))
  · -- the only challenge that can have become upheld is the one that was written
    obtain rfl := Option.mem_unique hstored h.after
    exact hstep.fairlyUpheld hw.docket hw.fits hop h.upheld

/-- A call keeps the deadlines of earlier rounds. -/
theorem InSession.next_deadlineAfter (hw : InSession w) (hcall : KeepsRounds host w call)
    (ht : t ≤ w.time) (h : w.state.DeadlineAfter t challengeId) :
    (w.next host call).state.DeadlineAfter t challengeId := by
  intro ext hext
  rcases (hw.next_docket hcall).2 challengeId with
      ⟨-, hsame⟩ | ⟨op, write, hop, hstep, rfl, -, hrounds⟩
  · exact h ext (hsame ▸ hext)
  · exact hstep.late hw.docket hop (ht.trans (Nat.le_add_right _ _)) h ext (hrounds ▸ hext)

/-- What a successful advance did. -/
theorem Advances.step (h : Advances host w call challengeId) :
    ∃ caller write, call.op = .discipline (.advanceChallengeRound caller challengeId) ∧
      State.ChallengeStep (w.env host call) w.state (.advanceChallengeRound caller challengeId)
        write ∧
      State.RecordsChallenge (w.env host call) write w.state (w.next host call).state := by
  obtain ⟨⟨caller, hop⟩, s', hs'⟩ := h
  rw [next_state_of_ok hs']
  rw [hop] at hs' ⊢
  cases State.disciplineOp_step (w.env host call) w.state
      (.advanceChallengeRound caller challengeId) s' hs' with
  | challenged hstep hrecords => exact ⟨caller, _, rfl, hstep, hrecords⟩

/-- **An advance does not come before the deadline.** -/
theorem Advances.expired (h : Advances host w call challengeId) (hcall : KeepsRounds host w call)
    (ht : w.state.DeadlineAfter t challengeId) : t + 172800 ≤ (w.env host call).now := by
  obtain ⟨caller, write, hop, hstep, -⟩ := h.step
  rw [KeepsRounds, hop] at hcall
  obtain ⟨-, ⟨ext, hext, -⟩, -⟩ := hcall
  have hrounds : w.state.rounds (w.env host call) challengeId = ext := by
    rw [State.rounds, hext, Option.getD_some]
  refine (ht ext hext).trans ?_
  cases hstep with
  | advances _ hexpired _ | concludes _ hexpired _ => exact hrounds ▸ hexpired

/-- **An opened round has its time ahead of it.** -/
theorem OpensRound.deadlineAfter (h : OpensRound host w call challengeId) (hw : InSession w)
    (hcall : KeepsRounds host w call) :
    (w.next host call).state.DeadlineAfter (w.env host call).now challengeId := by
  obtain ⟨hnew | hadvances, c, hstored, hopened⟩ := h
  · rcases (hw.next_docket hcall).2 challengeId with
      ⟨hsame, -⟩ | ⟨op, write, -, hstep, rfl, -, hrounds⟩
    · cases hstored.symm.trans (hsame.trans hnew)
    · obtain ⟨hid, hnone, -⟩ | ⟨_, _, hopen⟩ := hstep.known
      · -- a new challenge has no rounds yet, so no deadline either
        intro ext hext
        rw [hrounds, hnone, Option.none_or] at hext
        have hle := (hw.docket write.id).numbered (.inr (by simp [hext]))
        omega
      · cases hopen.stored.symm.trans hnew
  · obtain ⟨caller, write, hop, hstep, hrecords⟩ := hadvances.step
    rw [KeepsRounds, hop] at hcall
    cases hstep with
    | advances _ _ _ =>
      intro ext hext
      rw [hrecords.rounds, Option.elim_some, Store.set_self] at hext
      rw [← Option.some.inj hext, hw.docket.advanced_expires challengeId hcall.2.2]
    | @concludes _ _ c₀ slice _ _ _ =>
      obtain rfl := Option.mem_unique hrecords.stored hstored
      exact absurd hopened (slice.verdict_ne_opened c₀)

/-- **A round lasts** from the call that opens it to the one that advances it. -/
theorem OpensRound.lasts (h : OpensRound host w call challengeId) (hw : InSession w)
    (hcall : KeepsRounds host w call) {between : List Call}
    (hbetween : Machine.Along (World.next host)
      (fun w call => InSession w ∧ KeepsRounds host w call) (w.next host call) between) {w' : World}
    (hw' : Machine.run (World.next host) (w.next host call) between = w') {advance : Call}
    (hadvance : KeepsRounds host w' advance) (hadvances : Advances host w' advance challengeId) :
    (w.env host call).now + 172800 ≤ (w'.env host advance).now := by
  have hdeadline := hbetween.invariant
    (I := fun u => (w.env host call).now ≤ u.time ∧
      u.state.DeadlineAfter (w.env host call).now challengeId)
    (fun u c hi hc => ⟨hi.1.trans (Nat.le_add_right _ _), hc.1.next_deadlineAfter hc.2 hi.1 hi.2⟩)
    ⟨le_rfl, h.deadlineAfter hw hcall⟩
  rw [hw'] at hdeadline
  exact hadvances.expired hadvance hdeadline.2

/-- **Verdicts rest on votes, and rounds last**, in every run whose calls meet the condition. -/
theorem challenges_fairly_decided (host : Host) (calls : List Call)
    (h : Machine.Along (World.next host) (KeepsRounds host) deployed calls) :
    VerdictsRest host calls ∧ RoundsLast host calls := by
  have hsession : Machine.Along (World.next host)
      (fun w call => InSession w ∧ KeepsRounds host w call) deployed calls :=
    h.and_invariant (fun _ _ => InSession.next) inSession_deployed
  constructor
  · intro before call rest hcalls challengeId c hupholds
    rw [hcalls, Machine.along_append] at hsession
    obtain ⟨hw, hcall⟩ := hsession.2.1
    exact hupholds.fairlyUpheld hw hcall
  · intro before opening between advance rest hcalls challengeId w w' hopens hadvances
    rw [hcalls, Machine.along_append] at hsession
    obtain ⟨-, ⟨hw, hcall⟩, hrest⟩ := hsession
    rw [Machine.along_append] at hrest
    obtain ⟨hbetween, ⟨hw', hadvance⟩, -⟩ := hrest
    have hrun : Machine.run (World.next host) (w.next host opening) between = w' := by
      simp only [w, w', after, Machine.run_append, Machine.run_cons]
    rw [← after, hrun] at hw' hadvance
    rw [State.rounds, hw'.docket.rounds_duration]
    exact hopens.lasts hw hcall hbetween hrun hadvance hadvances

end World

namespace Sample

/-- A slice of three, whose last two members challenge the first one's attestation. -/
def challenged : List Call :=
  [initialized, issue admin 1,
    createSlice [alice, bob, issuer] [10, 10, 10] 20,
    attest alice 1 1,
    call bob (.discipline (.challengeAttestation bob 1 1 alice))]

/-- A member advances the first challenge, a while after the call before. -/
def advanced (elapsed : Nat) : Call :=
  { elapsed := elapsed, auths := [bob]
    op := .discipline (.advanceChallengeRound bob 1) }

/-- The first challenge. -/
def challenge (status : ChallengeStatus) (upholdVotes : List Address) : Challenge where
  id := 1
  credentialId := 1
  sliceId := 1
  accused := alice
  challenger := bob
  status := status
  upholdVotes := upholdVotes
  dismissVotes := []

/-- A member votes to uphold the first challenge. -/
def upheldBy (voter : Address) : Call :=
  call voter (.discipline (.voteOnChallenge voter 1 true))

end Sample

namespace World

open Sample in
/-- In the second round two members vote to uphold. -/
theorem challenges_fairly_decided_second_round :
    ∃ before call c slice, Upholds host (after host before) call 1 c ∧
      (after host before).state.slices.slices c.sliceId = some slice ∧
      FairlyUpheld slice c := by
  let before := challenged ++ [call bob
      (.discipline (.submitChallengeEvidence bob 1 [1] true)),
    upheldBy bob, advanced 172800, upheldBy issuer]
  have hupholds : Upholds host (after host before) (upheldBy bob) 1
      (challenge .upheld [issuer, bob]) := ⟨by decide +kernel, by decide +kernel, rfl⟩
  obtain ⟨slice, hslice, hfair⟩ :=
    (challenges_fairly_decided host (before ++ [upheldBy bob]) (by decide +kernel)).1
      before (upheldBy bob) [] rfl 1 _ hupholds
  exact ⟨before, upheldBy bob, _, slice, hupholds, hslice, hfair⟩

open Sample in
/-- **A challenge nobody votes on is upheld, and its first round lasts no time**: one member
advances it three times. -/
theorem not_challenges_fairly_decided :
    ∃ host calls, ¬ VerdictsRest host calls ∧ ¬ RoundsLast host calls := by
  refine ⟨host, challenged ++ [advanced 0, advanced 172800, advanced 172800], ?_, ?_⟩
  · intro h
    have hupholds : Upholds host (after host (challenged ++ [advanced 0, advanced 172800]))
        (advanced 172800) 1 (challenge .upheld []) := ⟨by decide +kernel, by decide +kernel, rfl⟩
    obtain ⟨slice, -, hfair⟩ := h _ _ [] rfl 1 _ hupholds
    exact absurd hfair.positive (by simp [QuorumSlice.weightAmong, challenge])
  · intro h
    have hopens : OpensRound host (after host (challenged.take 4))
        (call bob (.discipline (.challengeAttestation bob 1 1 alice))) 1 :=
      ⟨.inl (by decide +kernel), challenge .opened [], by decide +kernel, rfl⟩
    have hadvances : Advances host (after host challenged) (advanced 0) 1 :=
      ⟨⟨bob, rfl⟩, _, rfl⟩
    exact absurd (h (challenged.take 4) _ [] _ [advanced 172800, advanced 172800] rfl 1 hopens
      hadvances) (by decide +kernel)

end World

end QuorumProof
