import QuorumProof.Contract.Frames

/-!
# Contract/DisciplineEffects — what an operation does to attestors and challenges

A punishment is a suspension or a slash; a challenge is a record with its votes, and the rounds it
is voted on in.  Inside the family, three operations punish by themselves, three move stake, one
sets the reputation settings, and four move a challenge on.  `ChallengeStep` lists what those four
write, with the guards they passed; `RecordsChallenge` says what writing it comes to, and what
follows when it is upheld.
-/

namespace QuorumProof

open Guarded

/-- The challenge with one more vote. -/
def Challenge.cast (c : Challenge) (voter : Address) (uphold : Bool) : Challenge :=
  if uphold = true then { c with upholdVotes := c.upholdVotes ++ [voter] }
  else { c with dismissVotes := c.dismissVotes ++ [voter] }

namespace Challenge

variable (c : Challenge) (voter : Address) (uphold : Bool)

/-! A vote changes neither whom a challenge is about nor where it is decided. -/

@[simp] theorem cast_credentialId : (c.cast voter uphold).credentialId = c.credentialId := by
  cases uphold <;> rfl

@[simp] theorem cast_sliceId : (c.cast voter uphold).sliceId = c.sliceId := by
  cases uphold <;> rfl

@[simp] theorem cast_status : (c.cast voter uphold).status = c.status := by
  cases uphold <;> rfl

theorem cast_upholdVotes : (c.cast voter uphold).upholdVotes =
    if uphold = true then c.upholdVotes ++ [voter] else c.upholdVotes := by
  cases uphold <;> rfl

end Challenge

/-- How a vote leaves a challenge: decided by the weight its slice requires, or open. -/
def SliceBook.outcome (b : SliceBook) (slice : QuorumSlice) (c : Challenge) : ChallengeStatus :=
  if b.requiredWeight slice ≤ slice.weightedSum c.upholdVotes then .upheld
  else if b.requiredWeight slice ≤ slice.weightedSum c.dismissVotes then .dismissed
  else .opened

variable {slice : QuorumSlice} {c : Challenge}

theorem SliceBook.outcome_eq_upheld_iff {b : SliceBook} :
    b.outcome slice c = .upheld ↔
      b.requiredWeight slice ≤ slice.weightedSum c.upholdVotes := by
  unfold outcome
  split_ifs <;> simp [*]

theorem SliceBook.outcome_eq_opened_iff {b : SliceBook} :
    b.outcome slice c = .opened ↔ slice.weightedSum c.upholdVotes < b.requiredWeight slice ∧
      slice.weightedSum c.dismissVotes < b.requiredWeight slice := by
  unfold outcome
  split_ifs <;> simp_all

/-- How `advance_challenge_round` decides: for the leading side, and a tie upholds. -/
def QuorumSlice.verdict (slice : QuorumSlice) (c : Challenge) : ChallengeStatus :=
  if slice.weightedSum c.dismissVotes ≤ slice.weightedSum c.upholdVotes then .upheld
  else .dismissed

theorem QuorumSlice.verdict_ne_opened (slice : QuorumSlice) (c : Challenge) :
    slice.verdict c ≠ .opened := by
  unfold verdict
  split <;> decide

theorem QuorumSlice.verdict_eq_upheld_iff :
    slice.verdict c = .upheld ↔
      slice.weightedSum c.dismissVotes ≤ slice.weightedSum c.upholdVotes := by
  unfold verdict
  split_ifs <;> simp [*]

namespace State

variable {env : Env} {s s' : State}

/-! ## Punishments -/

/-- Nobody is punished, and no punishment is lifted. -/
def SamePunishments (s s' : State) : Prop :=
  s'.discipline.suspendedAttestor = s.discipline.suspendedAttestor ∧
    s'.discipline.slashCount = s.discipline.slashCount

/-- No challenge is opened, voted on or moved on. -/
def SameChallenges (s s' : State) : Prop :=
  s'.discipline.challenge = s.discipline.challenge ∧
    s'.discipline.challengeCount = s.discipline.challengeCount ∧
    s'.discipline.challengeExtended = s.discipline.challengeExtended

/-- Nobody is punished but one attestor in one slice. -/
structure PunishesOnly (sliceId : Nat) (attestor : Address) (s s' : State) : Prop where
  suspendedAttestor : ∀ k ≠ (sliceId, attestor),
    s'.discipline.suspendedAttestor k = s.discipline.suspendedAttestor k
  slashCount : ∀ a ≠ attestor, s'.discipline.slashCount a = s.discipline.slashCount a

/-- **An upheld challenge**: the accused's records are gone from the credential, and so are the
cached answers about it; the accused is suspended in the slice and loses reputation. -/
structure Upholds (env : Env) (s : State) (challenge : Challenge) (s' : State) : Prop where
  attestations : s'.attestations = s.attestations.setRecords challenge.credentialId
    ((s.attestations.records challenge.credentialId).filter
      fun record => record.attestor ≠ challenge.accused)
  punishes : PunishesOnly challenge.sliceId challenge.accused s s'
  attestorReputation : s'.discipline.attestorReputation = (s.discipline.penaliseAttestorReputation
    env challenge.accused challenge.sliceId).attestorReputation
  cache : s'.cache = s.cache.invalidateCredential s.slices.sliceCount challenge.credentialId

/-- A challenge that is not upheld changes neither attestations nor attestors. -/
structure LeavesAttestors (s s' : State) : Prop where
  attestations : s'.attestations = s.attestations
  punishments : SamePunishments s s'
  attestorReputation : s'.discipline.attestorReputation = s.discipline.attestorReputation
  cache : s'.cache = s.cache

/-- A penalty reaches nobody but the attestor, and no suspension but theirs in the slice; the
slashes, the settings and the challenges are as they were. -/
structure Penalty (sliceId : Nat) (attestor : Address) (d d' : Discipline) : Prop where
  suspendedAttestor : ∀ k ≠ (sliceId, attestor), d'.suspendedAttestor k = d.suspendedAttestor k
  attestorReputation : ∀ a ≠ attestor, d'.attestorReputation a = d.attestorReputation a
  slashCount : d'.slashCount = d.slashCount
  config : d'.attestorReputationConfig = d.attestorReputationConfig
  challenge : d'.challenge = d.challenge
  challengeCount : d'.challengeCount = d.challengeCount
  challengeExtended : d'.challengeExtended = d.challengeExtended

theorem penalise_penalty (env : Env) (d : Discipline) (attestor : Address) (sliceId : Nat) :
    Penalty sliceId attestor d (d.penaliseAttestorReputation env attestor sliceId) := by
  unfold Discipline.penaliseAttestorReputation
  dsimp only
  split
  · exact ⟨fun _ hk => Store.set_of_ne hk, fun _ ha => Store.set_of_ne ha, rfl, rfl, rfl, rfl, rfl⟩
  · exact ⟨fun _ _ => rfl, fun _ ha => Store.set_of_ne ha, rfl, rfl, rfl, rfl, rfl⟩

/-! ## Challenges -/

/-- An open challenge, and the slice that decides it. -/
structure OpenChallenge (s : State) (challengeId : Nat) (c : Challenge) (slice : QuorumSlice) :
    Prop where
  stored : s.discipline.challenge challengeId = some c
  opened : c.status = .opened
  slice : s.slices.slices c.sliceId = some slice

/-- An address that may vote on a challenge. -/
structure MayVote (c : Challenge) (voter : Address) : Prop where
  not_accused : voter ≠ c.accused
  fresh : voter ∉ c.upholdVotes ∧ voter ∉ c.dismissVotes

/-- The rounds `advance_challenge_round` finds. -/
def rounds (env : Env) (s : State) (challengeId : Nat) : ChallengeExtended :=
  (s.discipline.challengeExtended challengeId).getD (initialRounds challengeId env.now)

/-- `advance_challenge_round` decides a challenge: in the last round, or with enough weight on a
side. -/
def Decides (env : Env) (s : State) (challengeId : Nat) (c : Challenge) (slice : QuorumSlice) :
    Prop :=
  (s.rounds env challengeId).maxRounds ≤ (s.rounds env challengeId).round ∨
    s.slices.requiredWeight slice ≤ slice.weightedSum c.upholdVotes ∨
    s.slices.requiredWeight slice ≤ slice.weightedSum c.dismissVotes

end State

/-- What an operation writes of challenges: one of them under its id, its rounds if there are new
ones, and how many there are. -/
structure ChallengeWrite where
  id : Nat
  challenge : Challenge
  rounds : Option ChallengeExtended
  count : Nat

namespace State

variable (env : Env) (s : State)

/-- **What the operations on challenges write**, with the guards they passed. -/
inductive ChallengeStep (env : Env) (s : State) : DisciplineOp → ChallengeWrite → Prop
  | opens {challenger accused : Address} {id sliceId : Nat} {c : Challenge}
      (hopened : c.status = .opened) (hvotes : c.upholdVotes = [] ∧ c.dismissVotes = []) :
      ChallengeStep env s (.challengeAttestation challenger id sliceId accused)
        ⟨s.discipline.challengeCount + 1, c, none, s.discipline.challengeCount + 1⟩
  | votes {voter : Address} {challengeId : Nat} {uphold : Bool} {c : Challenge}
      {slice : QuorumSlice} (hopen : OpenChallenge s challengeId c slice) (hmay : MayVote c voter) :
      ChallengeStep env s (.voteOnChallenge voter challengeId uphold)
        ⟨challengeId, { c.cast voter uphold with
          status := s.slices.outcome slice (c.cast voter uphold) }, none,
          s.discipline.challengeCount⟩
  | documents {submitter : Address} {challengeId : Nat} {evidenceHash : Bytes}
      {supportsUphold : Bool} {c : Challenge} {slice : QuorumSlice}
      {evidence : List ChallengeEvidence} (hopen : OpenChallenge s challengeId c slice) :
      ChallengeStep env s
        (.submitChallengeEvidence submitter challengeId evidenceHash supportsUphold)
        ⟨challengeId, c, some { (s.discipline.challengeExtended challengeId).getD
          (initialRounds challengeId (env.now + 172800)) with evidence := evidence },
          s.discipline.challengeCount⟩
  | advances {caller : Address} {challengeId : Nat} {c : Challenge} {slice : QuorumSlice}
      (hopen : OpenChallenge s challengeId c slice)
      (hexpired : (s.rounds env challengeId).roundExpiresAt ≤ env.now)
      (hundecided : ¬ s.Decides env challengeId c slice) :
      ChallengeStep env s (.advanceChallengeRound caller challengeId)
        ⟨challengeId, { c with upholdVotes := [], dismissVotes := [] },
          some { s.rounds env challengeId with
            round := saturatingAdd u32Max (s.rounds env challengeId).round 1
            roundExpiresAt :=
              saturatingAdd u64Max env.now (s.rounds env challengeId).roundDurationSeconds
            advanced := true }, s.discipline.challengeCount⟩
  | concludes {caller : Address} {challengeId : Nat} {c : Challenge} {slice : QuorumSlice}
      (hopen : OpenChallenge s challengeId c slice)
      (hexpired : (s.rounds env challengeId).roundExpiresAt ≤ env.now)
      (hdecided : s.Decides env challengeId c slice) :
      ChallengeStep env s (.advanceChallengeRound caller challengeId)
        ⟨challengeId, { c with status := slice.verdict c }, some (s.rounds env challengeId),
          s.discipline.challengeCount⟩

variable {op : DisciplineOp}

/-- What is written is a new challenge without rounds, or stands under the id of an open one. -/
theorem ChallengeStep.known {write : ChallengeWrite} (h : ChallengeStep env s op write) :
    (write.id = s.discipline.challengeCount + 1 ∧ write.rounds = none ∧
      write.challenge.status = .opened) ∨ ∃ c slice, OpenChallenge s write.id c slice := by
  cases h with
  | opens hopened _ => exact .inl ⟨rfl, rfl, hopened⟩
  | votes hopen _ | documents hopen | advances hopen _ _ | concludes hopen _ _ =>
    exact .inr ⟨_, _, hopen⟩

/-- **A challenge is written**, and if it is upheld, the accused is punished. -/
structure RecordsChallenge (env : Env) (write : ChallengeWrite) (s s' : State) : Prop where
  frame : AttestationFrame s s'
  challenge : s'.discipline.challenge = s.discipline.challenge.set write.id write.challenge
  rounds : s'.discipline.challengeExtended = write.rounds.elim s.discipline.challengeExtended
    (s.discipline.challengeExtended.set write.id)
  count : s'.discipline.challengeCount = write.count
  config : s'.discipline.attestorReputationConfig = s.discipline.attestorReputationConfig
  upheld : write.challenge.status = .upheld → Upholds env s write.challenge s'
  kept : write.challenge.status ≠ .upheld → LeavesAttestors s s'

theorem RecordsChallenge.stored {write : ChallengeWrite} (h : RecordsChallenge env write s s') :
    s'.discipline.challenge write.id = some write.challenge := by
  rw [h.challenge, Store.set_self]

/-! ## Every operation -/

/-- **What an operation of the family does**, with the guards that matter later. -/
inductive DisciplineStep (env : Env) (s s' : State) : DisciplineOp → Prop
  | suspended {creator attestor : Address} {sliceId : Nat} {slice : QuorumSlice}
      {control : Control} (hauth : creator ∈ env.auths)
      (hslice : s.slices.slices sliceId = some slice) (hcreator : slice.creator = creator)
      (h : s' = { s with
        control := control, discipline := s.discipline.suspend sliceId attestor }) :
      DisciplineStep env s s' (.suspendAttestor creator sliceId attestor)
  | resumed {creator attestor : Address} {sliceId : Nat} {control : Control}
      (h : s' = { s with
        control := control, discipline := s.discipline.resume sliceId attestor }) :
      DisciplineStep env s s' (.resumeAttestor creator sliceId attestor)
  | slashed {caller admin attestor : Address} {sliceId count : Nat}
      (hadmin : s.control.admin = some admin) (hslasher : requireSlasher env admin caller = .ok ())
      (h : s' = { s with discipline := { s.discipline.suspend sliceId attestor with
        slashCount := s.discipline.slashCount.set attestor count } }) :
      DisciplineStep env s s' (.slashAttestor caller sliceId attestor)
  | configured {admin : Address} {config : AttestorReputationConfig}
      (hbps : config.slashFractionBps ≤ 10000)
      (h : s' = { s with discipline :=
        { s.discipline with attestorReputationConfig := some config } }) :
      DisciplineStep env s s' (.setAttestorReputationConfig admin config)
  | deposited {attestor : Address} {amount : Nat} {control : Control}
      (h : s' = { s with control := control }.setReputation attestor
        { s.discipline.loadOrInitReputation attestor with
          stake := saturatingAdd u64Max (s.discipline.loadOrInitReputation attestor).stake amount
          lastUpdatedAt := env.now }) :
      DisciplineStep env s s' (.depositAttestorStake attestor amount)
  | withdrawn {attestor : Address} {amount : Nat} {control : Control}
      (hle : amount ≤ (s.discipline.loadOrInitReputation attestor).stake)
      (h : s' = { s with control := control }.setReputation attestor
        { s.discipline.loadOrInitReputation attestor with
          stake := (s.discipline.loadOrInitReputation attestor).stake - amount
          lastUpdatedAt := env.now }) :
      DisciplineStep env s s' (.withdrawAttestorStake attestor amount)
  | collected {admin attestor : Address} {control : Control}
      (h : s' = { s with control := control }.setReputation attestor
        { s.discipline.loadOrInitReputation attestor with
          pendingSlashAmount := 0
          lastUpdatedAt := env.now }) :
      DisciplineStep env s s' (.collectSlashedStake admin attestor)
  | challenged {op : DisciplineOp} {write : ChallengeWrite} (hstep : ChallengeStep env s op write)
      (hrecords : RecordsChallenge env write s s') : DisciplineStep env s s' op

/-- An operation of the family does one of these. -/
def Steps (op : DisciplineOp) : Prop :=
  Ensures (op.apply env s) fun s' => DisciplineStep env s s' op

theorem challengeAttestation_steps (challenger : Address) (id sliceId : Nat) (accused : Address) :
    s.Steps env (.challengeAttestation challenger id sliceId accused) := by
  simp only [Steps, DisciplineOp.apply, challengeAttestation, ensures_steps, ensures_guards]
  intro _ _ _ _ _ _ _ _ _ _ _
  exact .challenged (.opens rfl ⟨rfl, rfl⟩) ⟨⟨rfl, rfl, rfl⟩, rfl, rfl, rfl, rfl, by rintro ⟨⟩,
    fun _ => ⟨rfl, ⟨rfl, rfl⟩, rfl, rfl⟩⟩

theorem voteOnChallenge_steps (voter : Address) (challengeId : Nat) (uphold : Bool) :
    s.Steps env (.voteOnChallenge voter challengeId uphold) := by
  simp only [Steps, DisciplineOp.apply, voteOnChallenge, slashAttestor, Discipline.slash,
    ensures_steps, ensures_guards, ensures_ite, require_eq_ok]
  intro _ control _ c hstored hopened hnot slice hslice _ hfresh
  rw [show (if uphold = true then { c with upholdVotes := c.upholdVotes ++ [voter] }
    else { c with dismissVotes := c.dismissVotes ++ [voter] }) = c.cast voter uphold from rfl]
  set cast := c.cast voter uphold with hcast
  have hstep : ∀ {status}, s.slices.outcome slice cast = status → ChallengeStep env s
      (.voteOnChallenge voter challengeId uphold)
      ⟨challengeId, { cast with status := status }, none, s.discipline.challengeCount⟩ := by
    rintro _ rfl
    exact .votes ⟨hstored, hopened, hslice⟩ ⟨hnot, hfresh⟩
  refine ⟨fun huphold _ _ _ _ => .challenged (hstep (if_pos huphold)) ?_, fun huphold =>
    ⟨fun hdismiss => .challenged (hstep ((if_neg huphold).trans (if_pos hdismiss))) ?_,
      fun hdismiss => .challenged (hstep ((if_neg huphold).trans (if_neg hdismiss))) ?_⟩⟩
  · have hpenalty := penalise_penalty env
      { s.discipline.suspend cast.sliceId cast.accused with
        slashCount := s.discipline.slashCount.set cast.accused
          ((s.discipline.slashCount cast.accused).getD 0 + 1) } cast.accused cast.sliceId
    exact
      { frame := ⟨rfl, rfl, rfl⟩
        challenge := congrArg (fun m : Store Nat Challenge => m.set challengeId _)
          hpenalty.challenge
        rounds := hpenalty.challengeExtended
        count := hpenalty.challengeCount
        config := hpenalty.config
        upheld := fun _ =>
          { attestations := rfl
            punishes := ⟨fun k hk => (hpenalty.suspendedAttestor k hk).trans (Store.set_of_ne hk),
              fun a ha => (congrFun hpenalty.slashCount a).trans
                (Store.set_of_ne ha)⟩
            attestorReputation := by
              -- the reputation is the same whether a low score suspends or not
              unfold Discipline.penaliseAttestorReputation
              dsimp only
              split <;> split <;> rfl
            cache := rfl }
        kept := fun hkept => absurd rfl hkept }
  · exact ⟨⟨rfl, rfl, rfl⟩, rfl, rfl, rfl, rfl, by rintro ⟨⟩, fun _ => ⟨rfl, ⟨rfl, rfl⟩, rfl, rfl⟩⟩
  · have hopened : { cast with status := .opened } = cast := by
      rw [← hopened, ← c.cast_status voter uphold]
    exact ⟨⟨rfl, rfl, rfl⟩, by rw [hopened]; rfl, rfl, rfl, rfl, by rintro ⟨⟩,
      fun _ => ⟨rfl, ⟨rfl, rfl⟩, rfl, rfl⟩⟩

theorem submitChallengeEvidence_steps (submitter : Address) (challengeId : Nat)
    (evidenceHash : Bytes) (supportsUphold : Bool) :
    s.Steps env
      (.submitChallengeEvidence submitter challengeId evidenceHash supportsUphold) := by
  simp only [Steps, DisciplineOp.apply, submitChallengeEvidence, ensures_steps, ensures_guards,
    require_eq_ok]
  intro _ _ _ _ c hstored hopened slice hslice _ _
  exact .challenged (.documents ⟨hstored, hopened, hslice⟩) ⟨⟨rfl, rfl, rfl⟩,
    (Store.set_eq_self hstored).symm, rfl, rfl, rfl, fun hupheld => by simp [hopened] at hupheld,
    fun _ => ⟨rfl, ⟨rfl, rfl⟩, rfl, rfl⟩⟩

theorem advanceChallengeRound_steps (caller : Address) (challengeId : Nat) :
    s.Steps env (.advanceChallengeRound caller challengeId) := by
  simp only [Steps, DisciplineOp.apply, advanceChallengeRound, resolveChallenge, Discipline.slash,
    ensures_steps, ensures_guards, ensures_ite, require_eq_ok]
  intro _ control _ c hstored hopened slice hslice _ hexpired
  have hopen : OpenChallenge s challengeId c slice := ⟨hstored, hopened, hslice⟩
  refine ⟨fun hdecides => ?_, fun hundecided => .challenged (.advances hopen hexpired hundecided)
    ⟨⟨rfl, rfl, rfl⟩, rfl, rfl, rfl, rfl, fun hupheld => by simp [hopened] at hupheld,
      fun _ => ⟨rfl, ⟨rfl, rfl⟩, rfl, rfl⟩⟩⟩
  have hstep : ∀ {status}, slice.verdict c = status → ChallengeStep env s
      (.advanceChallengeRound caller challengeId)
      ⟨challengeId, { c with status := status }, some (s.rounds env challengeId),
        s.discipline.challengeCount⟩ := by
    rintro _ rfl
    exact .concludes hopen hexpired hdecides
  refine ⟨fun huphold _ => .challenged (hstep (if_pos huphold)) ?_, fun hdismiss =>
    .challenged (hstep (if_neg hdismiss)) ⟨⟨rfl, rfl, rfl⟩, rfl, rfl, rfl, rfl, by rintro ⟨⟩,
      fun _ => ⟨rfl, ⟨rfl, rfl⟩, rfl, rfl⟩⟩⟩
  have hpenalty := penalise_penalty env s.discipline c.accused c.sliceId
  exact
    { frame := ⟨rfl, rfl, rfl⟩
      challenge := congrArg (fun m : Store Nat Challenge => m.set challengeId _) hpenalty.challenge
      rounds := congrArg (fun m : Store Nat ChallengeExtended => m.set challengeId _)
        hpenalty.challengeExtended
      count := hpenalty.challengeCount
      config := hpenalty.config
      upheld := fun _ =>
        { attestations := rfl
          punishes := ⟨fun k hk => (Store.set_of_ne hk).trans (hpenalty.suspendedAttestor k hk),
            fun a ha => (Store.set_of_ne ha).trans
              (congrFun hpenalty.slashCount a)⟩
          attestorReputation := rfl
          cache := rfl }
      kept := fun hkept => absurd rfl hkept }

theorem disciplineOp_step (op : DisciplineOp) :
    Ensures (op.apply env s) fun s' => DisciplineStep env s s' op := by
  cases op with
  | suspendAttestor creator sliceId attestor =>
    simp only [DisciplineOp.apply, ensures_steps, suspendAttestor, ensures_guards,
      requireAuth_eq_ok]
    intro hauth _ _ slice hslice hcreator _
    exact .suspended hauth hslice (require_eq_ok.mp hcreator) rfl
  | resumeAttestor creator sliceId attestor =>
    simp only [DisciplineOp.apply, ensures_steps, resumeAttestor, ensures_guards]
    exact fun _ _ _ _ _ _ => .resumed rfl
  | slashAttestor caller sliceId attestor =>
    simp only [DisciplineOp.apply, ensures_steps, slashAttestor, Discipline.slash, ensures_guards]
    exact fun admin hadmin hslasher _ => .slashed hadmin hslasher rfl
  | setAttestorReputationConfig admin config =>
    simp only [DisciplineOp.apply, ensures_steps, setAttestorReputationConfig, require_eq_ok]
    exact fun _ _ _ _ _ _ hbps _ => .configured hbps rfl
  | depositAttestorStake attestor amount =>
    simp only [DisciplineOp.apply, ensures_steps, depositAttestorStake, ensures_guards]
    exact fun _ _ _ _ _ => .deposited rfl
  | withdrawAttestorStake attestor amount =>
    simp only [DisciplineOp.apply, ensures_steps, withdrawAttestorStake, ensures_guards,
      require_eq_ok]
    exact fun _ _ _ _ _ hle => .withdrawn hle rfl
  | collectSlashedStake admin attestor =>
    simp only [DisciplineOp.apply, ensures_steps, collectSlashedStake, ensures_guards]
    exact fun _ _ _ _ _ _ => .collected rfl
  | challengeAttestation challenger id sliceId accused =>
    exact challengeAttestation_steps env s challenger id sliceId accused
  | voteOnChallenge voter challengeId uphold =>
    exact voteOnChallenge_steps env s voter challengeId uphold
  | submitChallengeEvidence submitter challengeId evidenceHash supportsUphold =>
    exact submitChallengeEvidence_steps env s submitter challengeId evidenceHash supportsUphold
  | advanceChallengeRound caller challengeId =>
    exact advanceChallengeRound_steps env s caller challengeId

theorem DisciplineStep.frame (h : DisciplineStep env s s' op) : AttestationFrame s s' := by
  cases h with
  | challenged _ hrecords => exact hrecords.frame
  | _ =>
    subst_vars
    exact ⟨rfl, rfl, rfl⟩

/-- **An operation of the family leaves the attestations**, unless it upholds a challenge. -/
theorem DisciplineStep.attestations (h : DisciplineStep env s s' op) :
    s'.attestations = s.attestations ∨ ∃ challenge, Upholds env s challenge s' := by
  cases h with
  | @challenged _ write _ hrecords =>
    by_cases hupheld : write.challenge.status = .upheld
    · exact .inr ⟨_, hrecords.upheld hupheld⟩
    · exact .inl (hrecords.kept hupheld).attestations
  | _ =>
    subst_vars
    exact .inl rfl

end State

end QuorumProof
