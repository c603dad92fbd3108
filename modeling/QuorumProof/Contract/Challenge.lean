import QuorumProof.Contract.Attestation

/-!
# Contract/Challenge — challenging an attestation

A member of a slice challenges another member's attestation of a credential, and the slice's members
vote by weight.  An upheld challenge suspends the accused in the slice, costs them reputation and
removes their records from the credential; it may end by the votes or by the last round.

Source: `challenge_attestation`, `vote_on_challenge`, `submit_challenge_evidence`,
`advance_challenge_round`.
-/

namespace QuorumProof

open Guarded

/-- The weight of a list of voters in a slice. -/
def QuorumSlice.weightedSum (slice : QuorumSlice) (votes : List Address) : Nat :=
  (votes.map fun voter => (slice.weightOf voter).getD 0).foldl (saturatingAdd u32Max) 0

namespace State

variable (env : Env) (s : State) (challengeId : Nat) (challenge : Challenge)

/-- Store a challenge. -/
def setChallenge : State :=
  { s with discipline := { s.discipline with
    challenge := s.discipline.challenge.set challengeId challenge } }

/-- The accused can be challenged again. -/
def clearActiveChallenge : State :=
  { s with discipline := { s.discipline with
    activeChallenge :=
      s.discipline.activeChallenge.remove (challenge.credentialId, challenge.accused) } }

/-- An upheld challenge removes the accused's records from the credential, and the cached answers
about it. -/
def removeAccused : State :=
  let retained := (s.attestations.records challenge.credentialId).filter
    fun record => record.attestor ≠ challenge.accused
  let b := s.attestations.setRecords challenge.credentialId retained
  { s with attestations := b }.invalidateCredential challenge.credentialId

def challengeAttestation (challenger : Address) (id sliceId : Nat) (accused : Address) :
    Except Fault (State × Nat) := do
  requireAuth env challenger
  let s ← s.requireNotPaused env
  let _ ← s.getCredential id
  let slice ← s.getSlice sliceId
  require (challenger ∈ slice.attestors ∧ accused ∈ slice.attestors) (.contract .notInSlice)
  require (∃ record ∈ s.attestations.records id, record.attestor = accused)
    (.contract .notAttested)
  require (s.discipline.activeChallenge (id, accused) = none) (.contract .alreadyChallenged)
  let challengeId ← checkedAdd (2 ^ 64) s.discipline.challengeCount 1
  let s := s.setChallenge challengeId
    { id := challengeId, credentialId := id, sliceId := sliceId, accused := accused
      challenger := challenger, status := .opened, upholdVotes := [], dismissVotes := [] }
  return ({ s with discipline := { s.discipline with
    challengeCount := challengeId
    activeChallenge := s.discipline.activeChallenge.set (id, accused) challengeId } },
    challengeId)

def voteOnChallenge (voter : Address) (challengeId : Nat) (uphold : Bool) :
    Except Fault (State × Unit) := do
  requireAuth env voter
  let s ← s.requireNotPaused env
  let challenge ← expect (s.discipline.challenge challengeId) (.contract .challengeNotFound)
  require (challenge.status = .opened) (.contract .challengeResolved)
  require (voter ≠ challenge.accused) (.contract .accusedCannotVote)
  let slice ← s.getSlice challenge.sliceId
  require (voter ∈ slice.attestors) (.contract .notInSlice)
  require (voter ∉ challenge.upholdVotes ∧ voter ∉ challenge.dismissVotes)
    (.contract .alreadyVoted)
  let challenge :=
    if uphold = true then { challenge with upholdVotes := challenge.upholdVotes ++ [voter] }
    else { challenge with dismissVotes := challenge.dismissVotes ++ [voter] }
  let required := s.slices.requiredWeight slice
  if required ≤ slice.weightedSum challenge.upholdVotes then do
    -- The contract calls `slash_attestor` as itself.
    let (s, _) ← s.slashAttestor env env.self challenge.sliceId challenge.accused
    let s := { s with discipline :=
      s.discipline.penaliseAttestorReputation env challenge.accused challenge.sliceId }
    let s := (s.removeAccused challenge).clearActiveChallenge challenge
    return (s.setChallenge challengeId { challenge with status := .upheld }, ())
  else if required ≤ slice.weightedSum challenge.dismissVotes then
    return ((s.clearActiveChallenge challenge).setChallenge challengeId
      { challenge with status := .dismissed }, ())
  else return (s.setChallenge challengeId challenge, ())

/-- Store the voting rounds of a challenge. -/
def setChallengeExtended (ext : ChallengeExtended) : State :=
  { s with discipline := { s.discipline with
    challengeExtended := s.discipline.challengeExtended.set challengeId ext } }

/-- The voting rounds a challenge starts with. -/
def initialRounds (roundExpiresAt : Nat) : ChallengeExtended :=
  { challengeId := challengeId, round := 1, maxRounds := 3, evidence := []
    roundExpiresAt := roundExpiresAt, roundDurationSeconds := 172800, advanced := false }

def submitChallengeEvidence (submitter : Address) (challengeId : Nat) (evidenceHash : Bytes)
    (supportsUphold : Bool) : Except Fault (State × Unit) := do
  requireAuth env submitter
  let s ← s.requireNotPaused env
  require (evidenceHash ≠ []) (.panic "evidence_hash cannot be empty")
  let challenge ← expect (s.discipline.challenge challengeId) (.contract .challengeNotFound)
  require (challenge.status = .opened) (.contract .challengeResolved)
  let slice ← s.getSlice challenge.sliceId
  require (submitter ∈ slice.attestors) (.contract .notInSlice)
  -- The default rounds are built, and their deadline added up, even when there are stored ones.
  let deadline ← checkedAdd (2 ^ 64) env.now 172800
  let ext := (s.discipline.challengeExtended challengeId).getD (initialRounds challengeId deadline)
  let evidence : ChallengeEvidence :=
    { submitter := submitter, evidenceHash := evidenceHash, supportsUphold := supportsUphold
      submittedAt := env.now }
  return (s.setChallengeExtended challengeId { ext with evidence := ext.evidence ++ [evidence] },
    ())

/-- What `advance_challenge_round` does when it resolves the challenge: the leading side wins, and
a tie upholds. -/
def resolveChallenge (slice : QuorumSlice) : Except Fault (State × Challenge) :=
  if slice.weightedSum challenge.dismissVotes ≤ slice.weightedSum challenge.upholdVotes then do
    let d := s.discipline.penaliseAttestorReputation env challenge.accused challenge.sliceId
    let d ← d.slash challenge.sliceId challenge.accused
    let s := ({ s with discipline := d }.removeAccused challenge).clearActiveChallenge challenge
    return (s, { challenge with status := .upheld })
  else return (s.clearActiveChallenge challenge, { challenge with status := .dismissed })

def advanceChallengeRound (caller : Address) (challengeId : Nat) : Except Fault (State × Unit) := do
  requireAuth env caller
  let s ← s.requireNotPaused env
  let challenge ← expect (s.discipline.challenge challengeId) (.contract .challengeNotFound)
  require (challenge.status = .opened) (.contract .challengeResolved)
  let slice ← s.getSlice challenge.sliceId
  require (caller ∈ slice.attestors) (.contract .notInSlice)
  let ext := (s.discipline.challengeExtended challengeId).getD (initialRounds challengeId env.now)
  require (ext.roundExpiresAt ≤ env.now) (.panic "current round has not yet expired")
  let required := s.slices.requiredWeight slice
  if ext.maxRounds ≤ ext.round ∨ required ≤ slice.weightedSum challenge.upholdVotes ∨
      required ≤ slice.weightedSum challenge.dismissVotes then do
    let (s, challenge) ← s.resolveChallenge env challenge slice
    return ((s.setChallenge challengeId challenge).setChallengeExtended challengeId ext, ())
  else
    let ext :=
      { ext with
        round := saturatingAdd u32Max ext.round 1
        roundExpiresAt := saturatingAdd u64Max env.now ext.roundDurationSeconds
        advanced := true }
    let challenge := { challenge with upholdVotes := [], dismissVotes := [] }
    return ((s.setChallenge challengeId challenge).setChallengeExtended challengeId ext, ())

end State

end QuorumProof
