import QuorumProof.Lib.Memo
import QuorumProof.Contract.Permanence
import QuorumProof.Contract.AttestationGuards

/-!
# Contract/CacheCoherence — cached answers against computed ones

`is_attested` keeps an answer for a time to live, and whoever changes an input of the decision is to
remove it.  Where every operation guards the cached pairs and no deadline of theirs passes, a cached
answer is the one the decision would compute.  `suspend_attestor` is one of the many operations that
do not guard the pairs they change.
-/

namespace QuorumProof

variable (env : Env) (s : State)

open Guarded Memo

/-! ## One operation -/

/-- The pairs an operation guards. -/
def Op.Spares (id sliceId : Nat) : Op → Prop
  | slice op => op.Spares s id sliceId
  | attestation op => op.Spares s id sliceId
  | discipline op => op.Spares s id sliceId
  | _ => True

instance (s : State) (id sliceId : Nat) (op : Op) : Decidable (op.Spares s id sliceId) := by
  rcases op with _ | _ | _ | _ | _ | _ | _ | _ | _ | _ <;> unfold Op.Spares <;> infer_instance

/-- An operation that puts neither the credential counter nor the slice counter back. -/
def Op.KeepsCounts (op : Op) : Prop :=
  op.KeepsCount s ∧ ∀ snapshot ∈ op.restored s, s.slices.sliceCount ≤ snapshot.sliceCount
  deriving Decidable

namespace State

variable {s s' : State}

theorem restoreFromSnapshot_guards (env : Env) {admin : Address} {snapshotId : Nat}
    (hcounts : (Op.restoreFromSnapshot admin snapshotId).KeepsCounts s) (P : Nat → Nat → Prop) :
    Ensures (s.restoreFromSnapshot env admin snapshotId) fun r => Guards P s r.1 := by
  refine (restoreFromSnapshot_effect env s admin snapshotId).mono ?_
  rintro r ⟨control, snapshot, -, hsnapshot, heq⟩
  rw [heq]
  refine ⟨hcounts.1 snapshot hsnapshot, hcounts.2 snapshot hsnapshot, ?_⟩
  exact .of_cache rfl fun id sliceId _ _ =>
    ⟨rfl, rfl, fun _ _ => rfl, fun _ _ => rfl, rfl, .of_eq (by rfl) id sliceId⟩

theorem controlOp_guards (env : Env) (s : State) (op : ControlOp) (P : Nat → Nat → Prop) :
    Ensures ((fun c => { s with control := c }) <$> op.apply env s.control) (Guards P s) :=
  ensures_map.mpr fun _ _ => .of_cache ⟨rfl, rfl, rfl⟩ rfl fun id sliceId _ =>
    ⟨rfl, .of_eq (by rfl) id sliceId⟩

end State

/-- An operation that warms the cache for existing slices alone. -/
def Op.WarmsKnown : Op → Prop
  | query (.warmVerificationCache pairs) =>
    ∀ pair ∈ pairs, (s.slices.slices pair.2).isSome = true
  | _ => True

instance (s : State) (op : Op) : Decidable (op.WarmsKnown s) := by
  unfold Op.WarmsKnown
  split <;> infer_instance

/-! ## Cached answers after an operation -/

namespace State

/-- **A cached answer after an operation** was there before, with its inputs as they were if the
pair is one `P` holds of, or is computed by the operation, which leaves its inputs. -/
structure Settles (env : Env) (P : Nat → Nat → Prop) (s s' : State) : Prop where
  credentialCount_le : s.registry.credentialCount ≤ s'.registry.credentialCount
  sliceCount_le : s.slices.sliceCount ≤ s'.slices.sliceCount
  slots : ∀ {id sliceId entry}, s'.cache.attestVerifyCache (id, sliceId) = some entry →
    s.cache.attestVerifyCache (id, sliceId) = some entry ∧
      (s.Counted id sliceId → P id sliceId → s.SameInputs s' id sliceId) ∨
    s.isAttestedUncached env id sliceId = .ok entry.isAttested ∧
      (s.slices.slices sliceId).isSome = true ∧ s.SameInputs s' id sliceId

variable {env : Env} {s s' : State} {P : Nat → Nat → Prop}

theorem Guards.settles (h : Guards P s s') : Settles env P s s' where
  credentialCount_le := h.credentialCount_le
  sliceCount_le := h.sliceCount_le
  slots {id sliceId _} hentry := by
    obtain hnone | ⟨hsame, hinputs⟩ := h.answers id sliceId
    · cases hnone.symm.trans hentry
    · exact .inl ⟨hsame.symm.trans hentry, hinputs⟩

/-- What a query stores it has computed, with some cache. -/
theorem Refreshes.slots {warmed : List (Nat × Nat)} (h : Refreshes env warmed s s')
    {id sliceId : Nat} {entry : AttestationVerificationCache}
    (hentry : s'.cache.attestVerifyCache (id, sliceId) = some entry) :
    s.cache.attestVerifyCache (id, sliceId) = some entry ∨ ∃ cache : VerificationCache,
      { s with cache := cache }.isAttestedUncached env id sliceId = .ok entry.isAttested ∧
        ((s.slices.slices sliceId).isSome = true ∨ (id, sliceId) ∈ warmed) := by
  induction h with
  | refl => exact .inl hentry
  | tail hsteps hstep ih =>
    obtain ⟨cache, rfl⟩ := Refreshes.frame hsteps
    cases hstep with
    | limited => exact ih hentry
    | answered hanswer hknown =>
      rcases Store.set_eq_some.mp hentry with ⟨heq, rfl⟩ | ⟨-, hentry⟩
      · obtain ⟨rfl, rfl⟩ := Prod.mk.inj heq
        exact .inr ⟨cache, hanswer, hknown⟩
      · exact ih hentry

/-- The decision does not read its cache. -/
theorem sameInputs_cache (s : State) (cache : VerificationCache) (id sliceId : Nat) :
    s.SameInputs { s with cache := cache } id sliceId :=
  .of_attestations ⟨rfl, rfl, rfl⟩ rfl (.of_eq (by rfl) id sliceId)

theorem queryOp_settles {op : QueryOp} (hwarms : (Op.query op).WarmsKnown s)
    (hregistered : s.slices.Registered) (hnested : ∀ k, s.slices.nestedSliceNode k = none) :
    Ensures (op.apply env s) (Settles env P s) := by
  intro s' hs'
  have hrefreshes := queryOp_refreshes env s op s' hs'
  obtain ⟨cache, rfl⟩ := hrefreshes.frame
  refine ⟨Nat.le_refl _, Nat.le_refl _, fun {id sliceId _} hentry => ?_⟩
  refine (hrefreshes.slots hentry).imp (fun hold => ⟨hold, fun _ _ => ?_⟩) ?_
  · exact sameInputs_cache s cache id sliceId
  · rintro ⟨cache', hanswer, hknown⟩
    refine ⟨?_, hknown.elim (fun h => h) fun hpair => ?_, sameInputs_cache s cache id sliceId⟩
    · rw [← hanswer]
      exact (isAttestedUncached_congr (sameInputs_cache s cache' id sliceId) hregistered hnested
        env).symm
    · cases op with
      | warmVerificationCache pairs => exact hwarms _ hpair
      | _ => cases hpair

end State

/-! ## Coherence -/

namespace VerificationCache

theorem live_eq_some_iff {v : VerificationCache} {now id sliceId : Nat} {answer : Bool} :
    v.live now id sliceId = some answer ↔
      ∃ entry, v.attestVerifyCache (id, sliceId) = some entry ∧ now < entry.expiresAt ∧
        entry.isAttested = answer := by
  unfold live
  cases v.attestVerifyCache (id, sliceId) <;> simp

end VerificationCache

namespace State

/-- The answers the cache would serve. -/
def served (now : Nat) (s : State) : Store (Nat × Nat) Bool := fun k => s.cache.live now k.1 k.2

/-- The answers the decision would compute. -/
def computed (env : Env) (s : State) : Store (Nat × Nat) Bool :=
  fun k => (s.isAttestedUncached env k.1 k.2).toOption

/-- What the answers of a cache rest on: they are about pairs the counters have handed out, slices
are registered and none is nested, and no fork is on record. -/
structure CacheSound (s : State) : Prop where
  credentials : s.registry.Numbered
  slices : s.slices.Numbered
  registered : s.slices.Registered
  nested : ∀ k, s.slices.nestedSliceNode k = none
  unforked : ∀ k, s.attestations.forkInfo k = none
  counted : ∀ {id sliceId entry}, s.cache.attestVerifyCache (id, sliceId) = some entry →
    s.Counted id sliceId

variable {env : Env} {s s' : State}

theorem empty_cacheSound : empty.CacheSound where
  credentials := empty_numbered
  slices := nofun
  registered := ⟨nofun, nofun⟩
  nested _ := rfl
  unforked _ := rfl
  counted := nofun

/-- **Time passes**: the answers still served are right when no deadline of theirs has passed. -/
theorem coherent_time (env env' : Env) (h : Coherent (s.served env.now) (s.computed env))
    (hle : env.now ≤ env'.now)
    (hdeadlines : ∀ id sliceId, (s.cache.live env'.now id sliceId).isSome = true →
      ∀ d ∈ s.deadlines id, d ≤ env'.now → d ≤ env.now) :
    Coherent (s.served env'.now) (s.computed env') := by
  refine h.step fun ⟨id, sliceId⟩ answer hserved => .inr ⟨?_, ?_⟩
  · obtain ⟨entry, hentry, hlt, hanswer⟩ := VerificationCache.live_eq_some_iff.mp hserved
    exact VerificationCache.live_eq_some_iff.mpr ⟨entry, hentry, hle.trans_lt hlt, hanswer⟩
  · have hlive : (s.cache.live env'.now id sliceId).isSome = true := by
      rw [show s.cache.live env'.now id sliceId = some answer from hserved]
      rfl
    refine congrArg Except.toOption (isAttestedUncached_time (fun d hd => ?_) sliceId)
    exact ⟨hdeadlines id sliceId hlive d hd, fun h => h.trans hle⟩

/-- The pairs of the answers are counted. -/
theorem Settles.counted_before {P : Nat → Nat → Prop} (h : Settles env P s s') (hs : s.CacheSound)
    {id sliceId : Nat} {entry : AttestationVerificationCache}
    (hentry : s'.cache.attestVerifyCache (id, sliceId) = some entry) : s.Counted id sliceId := by
  obtain ⟨hold, -⟩ | ⟨hfresh, hslice, -⟩ := h.slots hentry
  · exact hs.counted hold
  · obtain ⟨c, hc, -⟩ := bind_eq_ok.mp hfresh
    obtain ⟨slice, hslice⟩ := Option.isSome_iff_exists.mp hslice
    have hc := getCredential_eq_ok.mp hc
    exact ⟨⟨hs.credentials.id_pos hc, hs.credentials.id_le hc⟩, hs.slices hslice⟩

/-- **An operation that spares the served pairs keeps the cache coherent.** -/
theorem Settles.coherent {P : Nat → Nat → Prop} (hsettles : Settles env P s s') (hs : s.CacheSound)
    (hP : ∀ id sliceId, s.Counted id sliceId → (s.cache.live env.now id sliceId).isSome = true →
      P id sliceId)
    (h : Coherent (s.served env.now) (s.computed env)) :
    Coherent (s'.served env.now) (s'.computed env) := by
  refine h.step fun ⟨id, sliceId⟩ answer hserved => ?_
  obtain ⟨entry, hentry, hlt, rfl⟩ := VerificationCache.live_eq_some_iff.mp hserved
  have hcounted := hsettles.counted_before hs hentry
  have hcomputed : s.SameInputs s' id sliceId →
      s'.computed env (id, sliceId) = s.computed env (id, sliceId) := fun hsame =>
    congrArg Except.toOption (isAttestedUncached_congr hsame hs.registered hs.nested env)
  obtain ⟨hold, hsame⟩ | ⟨hfresh, -, hsame⟩ := hsettles.slots hentry
  · have hlive : s.cache.live env.now id sliceId = some entry.isAttested :=
      VerificationCache.live_eq_some_iff.mpr ⟨entry, hold, hlt, rfl⟩
    exact .inr ⟨hlive, hcomputed (hsame hcounted (hP id sliceId hcounted (by rw [hlive]; rfl)))⟩
  · exact .inl ((hcomputed hsame).trans (congrArg Except.toOption hfresh))

end State

open State in
/-- **Every operation settles the cached answers about the pairs it spares.** -/
theorem Op.settles {s : State} {op : Op} (hcounts : op.KeepsCounts s) (hwarms : op.WarmsKnown s)
    (hs : s.CacheSound) :
    Ensures (op.apply env s) (Settles env (fun id sliceId => op.Spares s id sliceId) s) := by
  cases op with
  | control op => exact (controlOp_guards env s op _).mono fun _ h => h.settles
  | slice op => exact (sliceOp_guards env s op).mono fun _ h => h.settles
  | attestation op => exact (attestationOp_guards env op hs.unforked).mono fun _ h => h.settles
  | discipline op => exact (disciplineOp_step env s op).mono fun _ h => h.guards.settles
  | query q => exact queryOp_settles hwarms hs.registered hs.nested
  | restoreFromSnapshot admin snapshotId =>
    exact ensures_map.mpr ((restoreFromSnapshot_guards env hcounts _).mono fun _ h => h.settles)
  | _ =>
    refine (Op.footprint env s _).mono fun s' h => ?_
    obtain ⟨hslices, hstanding⟩ := h.standing rfl
    exact (hstanding.guards_all hslices (h.attestors rfl).2 (h.attestors rfl).1 _).settles

/-! ## Whole runs -/

open State in
/-- No operation numbers a slice beyond the counter. -/
theorem Op.slicesNumbered {s : State} {op : Op} (hcounts : op.KeepsCounts s)
    (h : s.slices.Numbered) : Ensures (op.apply env s) fun s' => s'.slices.Numbered := by
  obtain ⟨op, rfl⟩ | hother := exists_or_forall_not (op = .slice ·)
  · exact (sliceOp_step env s op).mono fun _ hstep => hstep.book.numbered h
  · refine (op.footprint env s).mono fun s' hs' => ?_
    rcases hs'.slices hother with heq | ⟨snapshot, hsnapshot, heq⟩
    · exact heq ▸ h
    · intro k slice hslice
      rw [heq] at hslice ⊢
      exact ⟨(h hslice).1, (h hslice).2.trans (hcounts.2 snapshot hsnapshot)⟩

open State in
/-- What the answers rest on is kept. -/
theorem Op.cacheSound {s : State} {op : Op} (hcounts : op.KeepsCounts s) (hwarms : op.WarmsKnown s)
    (hs : s.CacheSound) : Ensures (op.apply env s) CacheSound := by
  intro s' hs'
  exact
    { credentials := hcounts.1.numbered hs' hs.credentials
      slices := Op.slicesNumbered env hcounts hs.slices s' hs'
      registered := op.registered env hs.registered s' hs'
      nested := op.unnested env hs.nested s' hs'
      unforked := fun k => (congrFun (Op.forkInfo env s op s' hs') k).trans (hs.unforked k)
      counted := fun hentry =>
        have hsettles := Op.settles env hcounts hwarms hs s' hs'
        (hsettles.counted_before hs hentry).mono hsettles.credentialCount_le
          hsettles.sliceCount_le }

namespace World

/-- A call leaves an answer that is still good as good as it was: no deadline of the credential
passes, and the operation guards the pair. -/
def LeavesAnswer (host : Host) (w : World) (call : Call) (id sliceId : Nat) : Prop :=
  (w.state.cache.live (w.env host call).now id sliceId).isSome = true →
    (∀ d ∈ w.state.deadlines id, d ≤ (w.env host call).now → d ≤ w.time) ∧
      call.op.Spares w.state id sliceId
  deriving Decidable

/-- **Nothing disturbs the cached answers**: no snapshot behind a counter is restored, the cache is
warmed for existing slices, and every answer that is still good is left so. -/
def Undisturbed (host : Host) (w : World) (call : Call) : Prop :=
  call.op.KeepsCounts w.state ∧ call.op.WarmsKnown w.state ∧
    ∀ id ≤ w.state.registry.credentialCount, ∀ sliceId ≤ w.state.slices.sliceCount,
      w.LeavesAnswer host call id sliceId
  deriving Decidable

/-- The ledger between two calls. -/
def clock (host : Host) (w : World) : Env := { host with now := w.time, auths := [] }

/-- Every answer the cache would serve now is the computed one. -/
structure CacheCoherent (host : Host) (w : World) : Prop where
  sound : w.state.CacheSound
  coherent : Coherent (w.state.served w.time) (w.state.computed (w.clock host))

variable {host : Host} {w : World} {call : Call}

theorem deployed_cacheCoherent (host : Host) : CacheCoherent host deployed :=
  ⟨State.empty_cacheSound, .empty _⟩

/-- The answers served at the time of an undisturbed call are the computed ones. -/
theorem CacheCoherent.at_call (h : CacheCoherent host w) (hcall : w.Undisturbed host call) :
    Coherent (w.state.served (w.env host call).now) (w.state.computed (w.env host call)) := by
  refine State.coherent_time (w.clock host) _ h.coherent (Nat.le_add_right _ _) ?_
  intro id sliceId hlive
  obtain ⟨answer, hanswer⟩ := Option.isSome_iff_exists.mp hlive
  obtain ⟨entry, hentry, -⟩ := VerificationCache.live_eq_some_iff.mp hanswer
  have hcounted := h.sound.counted hentry
  exact (hcall.2.2 id hcounted.1.2 sliceId hcounted.2.2 hlive).1

/-- The clock of the next world is the ledger the call saw. -/
theorem computed_clock (s : State) :
    s.computed ((w.next host call).clock host) = s.computed (w.env host call) := by
  funext k
  exact congrArg Except.toOption (State.isAttestedUncached_time (fun _ _ => Iff.rfl) k.2)

open State in
/-- An operation keeps the served answers right. -/
theorem CacheCoherent.apply (h : CacheCoherent host w) (hcall : w.Undisturbed host call) :
    Guarded.Ensures (call.op.apply (w.env host call) w.state) fun s' =>
      Coherent (s'.served (w.env host call).now) (s'.computed (w.env host call)) := by
  intro s' hs'
  have hsettles := Op.settles _ hcall.1 hcall.2.1 h.sound s' hs'
  refine hsettles.coherent h.sound (fun id sliceId hcounted hlive => ?_) (h.at_call hcall)
  exact (hcall.2.2 id hcounted.1.2 sliceId hcounted.2.2 hlive).2

/-- **An undisturbed call keeps the cache coherent.** -/
theorem CacheCoherent.next (h : CacheCoherent host w) (hcall : w.Undisturbed host call) :
    CacheCoherent host (w.next host call) where
  sound := next_of_ensures (Op.cacheSound _ hcall.1 hcall.2.1 h.sound) h.sound
  coherent := by
    rw [computed_clock]
    exact next_of_ensures (Q := fun s' : State =>
      Coherent (s'.served (w.env host call).now) (s'.computed (w.env host call)))
      (h.apply hcall) (h.at_call hcall)

/-- **The cache is coherent along every undisturbed run.** -/
theorem cacheCoherent_along {calls : List Call}
    (h : Machine.Along (World.next host) (Undisturbed host) deployed calls) :
    CacheCoherent host (after host calls) :=
  h.invariant (I := CacheCoherent host) (fun _ _ hw hcall => hw.next hcall)
    (deployed_cacheCoherent host)

/-! ## The answers of `is_attested` -/

end World

/-- `is_attested` answers every pair with what it would compute without its cache. -/
def State.AnswersComputed : Prop :=
  ∀ id sliceId, Prod.snd <$> s.isAttested env id sliceId = s.isAttestedUncached env id sliceId

theorem State.answersComputed_of_coherent {env : Env} {s : State}
    (h : Coherent (s.served env.now) (s.computed env)) : s.AnswersComputed env := by
  intro id sliceId
  cases hlive : s.cache.live env.now id sliceId with
  | none => exact snd_isAttested_eq hlive
  | some answer =>
    have hcomputed : (s.isAttestedUncached env id sliceId).toOption = some answer :=
      h (id, sliceId) answer hlive
    have hserved : s.isAttested env id sliceId = .ok (s, answer) := by
      rw [isAttested, hlive]
    rw [hserved]
    cases huncached : s.isAttestedUncached env id sliceId with
    | error fault => exact absurd (huncached ▸ hcomputed) (by simp [Except.toOption])
    | ok computed =>
      rw [huncached] at hcomputed
      exact congrArg Except.ok (Option.some.inj hcomputed).symm

namespace World

open Sample

/-- **`is_attested` answers what it would compute without its cache**, at every call of every run in
which nothing disturbs the cached answers. -/
theorem cached_answers_computed (host : Host) (calls : List Call) (call : Call)
    (h : Machine.Along (next host) (Undisturbed host) deployed (calls ++ [call])) :
    (after host calls).state.AnswersComputed ((after host calls).env host call) := by
  obtain ⟨hcalls, hcall⟩ := (Machine.along_append (next host)).mp h
  exact State.answersComputed_of_coherent ((cacheCoherent_along hcalls).at_call hcall.1)

/-- An answer is cached, dropped by a new threshold, cached again, and served while another
credential is attested through the same slice. -/
theorem cached_answers_computed_served :
    ∃ calls call, (after host calls).state.cache.live 0 1 1 = some true ∧
      (after host calls).state.AnswersComputed
        ((after host calls).env host call) :=
  ⟨[initialized, issue admin 1, issue bob 1,
      createSlice [alice] [10] 10, attest alice 1 1,
      isAttested 1 1,
      call admin (.slice (.updateSliceThreshold admin 1 5)),
      isAttested 1 1, attest alice 2 1],
    isAttested 1 1, by decide +kernel, cached_answers_computed _ _ _ (by decide +kernel)⟩

/-- **A suspended attestor still counts for the cached answer**: the attestor of a slice is
suspended after the answer was cached, so the decision is false, and the cache serves true. -/
theorem not_cached_answers_computed :
    ¬ ∀ (host : Host) (calls : List Call) (call : Call),
      (after host calls).state.cache.verificationCacheTtl = none →
        (after host calls).state.AnswersComputed ((after host calls).env host call) := by
  intro h
  have hanswers := h host
    [initialized, issue admin 1, createSlice [alice] [10] 10,
      attest alice 1 1, isAttested 1 1,
      call admin (.discipline (.suspendAttestor admin 1 alice))]
    (isAttested 1 1) (by decide +kernel)
  exact absurd (hanswers 1 1) (by decide +kernel)

end World

end QuorumProof
