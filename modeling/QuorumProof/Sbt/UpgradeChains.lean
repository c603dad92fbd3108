import QuorumProof.Sbt.CoOwners

/-!
# Sbt/UpgradeChains — where the upgrades of a token lead

`upgrade_sbt` links a token to the one that replaces it.  It asks for the signature of the issuer it
is given, and that is all: it does not look up who issued the credential, compare the owners of the
two tokens, or look at the links that are there.  So a token can be upgraded to itself, by anybody.

The result is about runs that ask for no token's upgrade twice, and for each upgrade in the name of
the issuer on record, between tokens of one owner, and to the token minted later.  Ids then grow
along the links, and there are no more ids than tokens (`Ledger.ends_of_ascending`).
-/

namespace QuorumProof.Sbt

open Guarded Machine

namespace Ledger

/-- The first token is upgraded to the second. -/
def Upgraded (l : Ledger) (t u : Nat) : Prop :=
  ∃ token, l.tokens t = some token ∧ token.upgradedTo = some u

/-- Following the upgrades from a token comes to an end. -/
def Ends (l : Ledger) (t : Nat) : Prop := Acc (flip l.Upgraded) t

theorem Ends.not_self {l : Ledger} {t : Nat} (h : l.Ends t) : ¬ l.Upgraded t t := by
  induction h with
  | intro t _ ih => exact fun hself => ih t hself hself

/-- **Links that go up among finitely many tokens end.** -/
theorem ends_of_ascending {l : Ledger} (n : Nat) (hup : ∀ t u, l.Upgraded t u → t < u)
    (hbound : ∀ t u, l.Upgraded t u → t ≤ n) (t : Nat) : l.Ends t := by
  refine (Subrelation.wf (fun {u t} hlink => ?_) (measure fun t => n + 1 - t).wf).apply t
  have hlt := hup t u hlink
  have hle := hbound t u hlink
  change n + 1 - u < n + 1 - t
  omega

end Ledger

/-! ## Upgrades -/

/-- A call, and the issuers `quorum_proof` has on record when it is made. -/
structure RecordedCall where
  call : Call
  issuerOf : Nat → Option Address

/-- A call asks for the upgrade of a token. -/
def RecordedCall.Asks (c : RecordedCall) (old : Nat) : Prop :=
  ∃ issuer new, c.call.op = .holder (.upgradeSbt issuer old new)

namespace World

variable (host : Host)

def nextRecorded (w : World) (c : RecordedCall) : World := w.next host c.call

def afterRecorded (calls : List RecordedCall) : World := run (nextRecorded host) deployed calls

/-- An `upgrade_sbt` goes through. -/
def Upgrades (w : World) (call : Call) (issuer : Address) (old new : Nat) : Prop :=
  call.op = .holder (.upgradeSbt issuer old new) ∧ w.Completes host call

/-- **Every upgrade is as documented**: the issuer on record for the old token's credential signs
it, the two tokens have one owner, and the old one has no link yet. -/
def Documented (w : World) (c : RecordedCall) : Prop :=
  ∀ issuer old new, w.Upgrades host c.call issuer old new → ∃ token token',
    w.state.ledger.tokens old = some token ∧ w.state.ledger.tokens new = some token' ∧
      (∃ a ∈ c.call.auths, c.issuerOf token.credentialId = some a) ∧
      token.owner = token'.owner ∧ token.upgradedTo = none

/-- An upgrade is asked for properly: in the name of the issuer on record, between tokens of one
owner, to the one minted later. -/
def Proper (w : World) (c : RecordedCall) : Prop :=
  ∀ issuer old new, c.call.op = .holder (.upgradeSbt issuer old new) → old < new ∧
    ∀ token ∈ w.state.ledger.tokens old, c.issuerOf token.credentialId = some issuer ∧
      ∀ token' ∈ w.state.ledger.tokens new, token.owner = token'.owner

variable {host} {w : World} {call : Call} {issuer : Address} {old new : Nat}

/-- An upgrade is signed by the issuer it names, and both tokens exist. -/
theorem Upgrades.checked (h : w.Upgrades host call issuer old new) :
    issuer ∈ call.auths ∧ ∃ token token', w.state.ledger.tokens old = some token ∧
      w.state.ledger.tokens new = some token' := by
  obtain ⟨hop, s, hs⟩ := h
  rw [hop] at hs
  revert hs s
  rw [← ensures_iff]
  simp only [Op.apply, HolderOp.apply, State.upgradeSbt, ensures_steps, State.ensures_guards,
    requireAuth_eq_ok]
  exact fun hauth token ht token' ht' _ => ⟨hauth, token, token', ht, ht'⟩

/-- Only an upgrade makes a link. -/
theorem upgraded_next {t u : Nat} (h : (w.next host call).state.ledger.Upgraded t u) :
    w.state.ledger.Upgraded t u ∨ ∃ issuer, w.Upgrades host call issuer t u := by
  obtain ⟨token', ht', hu⟩ := h
  rcases ties_next ht' with (⟨token, ht, heq⟩ | ⟨-, hnone⟩) | ⟨hcall, op, token, hop, ht, hedits⟩
  · exact .inl ⟨token, ht, (congrArg Prod.snd heq).symm.trans hu⟩
  · cases hu.symm.trans (congrArg Prod.snd hnone)
  cases hedits with
  | version | named | dismissed => exact .inl ⟨token, ht, hu⟩
  | upgradedTo issuer u' =>
    cases hu
    exact .inr ⟨issuer, hop, hcall⟩

/-- A token with a link was named in a call. -/
theorem asks_of_upgraded (host : Host) (calls : List RecordedCall) {t u : Nat}
    (h : (afterRecorded host calls).state.ledger.Upgraded t u) : ∃ c ∈ calls, c.Asks t := by
  induction calls using List.reverseRecOn generalizing u with
  | nil =>
    obtain ⟨token, ⟨⟩, -⟩ := h
  | append_singleton calls c ih =>
    rw [afterRecorded, run_append] at h
    rcases upgraded_next h with h | ⟨issuer, hop, -⟩
    · obtain ⟨c', hmem, hasks⟩ := ih h
      exact ⟨c', List.mem_append_left _ hmem, hasks⟩
    · exact ⟨c, by simp, issuer, u, hop⟩

theorem ends_after (host : Host) (calls : List RecordedCall)
    (hproper : Along (nextRecorded host) Proper deployed calls) (t : Nat) :
    (afterRecorded host calls).state.ledger.Ends t := by
  have hup : ∀ t u, (afterRecorded host calls).state.ledger.Upgraded t u → t < u := by
    refine hproper.invariant (I := fun w => ∀ t u, w.state.ledger.Upgraded t u → t < u) ?_ ?_
    · intro w c h hproper t u hlink
      rcases upgraded_next hlink with hlink | ⟨issuer, hop, -⟩
      · exact h t u hlink
      · exact (hproper issuer t u hop).1
    · rintro t u ⟨token, ⟨⟩, -⟩
  have hconsistent : (afterRecorded host calls).holdings.Consistent :=
    run_invariant (I := fun w : World => w.holdings.Consistent)
      (fun _ c hw => consistent_next host hw c.call) consistent_deployed calls
  refine Ledger.ends_of_ascending (afterRecorded host calls).state.ledger.tokenCount hup ?_ t
  rintro t u ⟨token, htoken, -⟩
  by_contra hlt
  cases htoken.symm.trans (tokens_eq_none hconsistent (Nat.lt_of_not_le hlt))

/-- **Upgrades are as documented, and every chain of them ends**, in every run that asks for them
properly and for no token's twice. -/
theorem upgrades_documented (host : Host) (calls : List RecordedCall)
    (hproper : Along (nextRecorded host) Proper deployed calls)
    (honce : calls.Pairwise fun c c' => ∀ t, c.Asks t → ¬ c'.Asks t) :
    Along (nextRecorded host) (Documented host) deployed calls ∧
      ∀ t, (afterRecorded host calls).state.ledger.Ends t := by
  refine ⟨?_, ends_after host calls hproper⟩
  induction calls using List.reverseRecOn with
  | nil => trivial
  | append_singleton calls c ih =>
    obtain ⟨hbefore, hc, -⟩ := (along_append _).mp hproper
    obtain ⟨honce, -, hlast⟩ := List.pairwise_append.mp honce
    refine (along_append _).mpr ⟨ih hbefore honce, fun issuer old new hupgrades => ?_, trivial⟩
    obtain ⟨hauth, token, token', hold, hnew⟩ := hupgrades.checked
    obtain ⟨hissuer, howner⟩ := (hc issuer old new hupgrades.1).2 token hold
    refine ⟨token, token', hold, hnew, ⟨issuer, hauth, hissuer⟩, howner token' hnew, ?_⟩
    -- A link on the old token would come from an earlier call that names it.
    by_contra hlinked
    obtain ⟨u, hu⟩ := Option.ne_none_iff_exists'.mp hlinked
    obtain ⟨c', hmem, hasks⟩ := asks_of_upgraded host calls ⟨token, hold, hu⟩
    exact hlast c' hmem c (by simp) old hasks ⟨issuer, new, hupgrades.1⟩

end World

/-! ## Sample runs -/

namespace Sample

/-- Whoever is named as issuer links two tokens. -/
def upgrade (issuer : Address) (old new : Nat) : Call :=
  callBy [issuer] (.holder (.upgradeSbt issuer old new))

/-- The issuer on record is `bob`. -/
def onRecord (call : Call) : RecordedCall := ⟨call, fun _ => some bob⟩

/-- A holder's first token is upgraded to the second by the issuer. -/
def upgraded : List RecordedCall :=
  [initialized, mint alice 1, mint alice 2, upgrade bob 1 2].map onRecord

theorem upgrades_documented_upgraded :
    Along (World.nextRecorded host) (World.Documented host) .deployed upgraded ∧
      ∀ t, (World.afterRecorded host upgraded).state.ledger.Ends t := by
  have hproper : Along (World.nextRecorded host) World.Proper .deployed upgraded := by
    refine ⟨?_, ?_, ?_, ?_, trivial⟩
    · rintro _ _ _ ⟨⟩
    · rintro _ _ _ ⟨⟩
    · rintro _ _ _ ⟨⟩
    · rintro _ _ _ ⟨⟩
      decide
  refine World.upgrades_documented host upgraded hproper ?_
  -- Only the last call asks for an upgrade.
  simp [upgraded, onRecord, RecordedCall.Asks, initialized, mint, upgrade, callBy]

/-- **A stranger upgrades a token to itself**: following its upgrades does not end. -/
theorem not_upgrades_documented : ¬ ∀ (host : Host) (calls : List RecordedCall),
    Along (World.nextRecorded host) (World.Documented host) .deployed calls ∧
      ∀ t, (World.afterRecorded host calls).state.ledger.Ends t := by
  intro h
  have hends := (h host ([initialized, mint alice 1, upgrade carol 1 1].map onRecord)).2 1
  exact hends.not_self ⟨_, rfl, rfl⟩

end Sample

end QuorumProof.Sbt
