import QuorumProof.Contract.MigrationProgress

/-!
# Contract/MigrationChunks — a metadata migration, chunk by chunk

From where it is taken up on, a job leaves what one loop over the ids does (`Migrations.Standing`),
so it does not matter how the ids are cut into chunks.  What it has left before is its own affair:
the migration from V1 to V2 keeps its job under id 2, and a metadata migration to schema version 2
takes it up wherever it stands.  The promises hold of the jobs that have kept them so far
(`MigratingWorld.Resumable`).

Source: `start_job`, `clamp_chunk_size`, `advance`, `start_metadata_migration`,
`migrate_next_chunk`.
-/

namespace QuorumProof

open Guarded

/-! ## The loop -/

namespace MetadataBook

variable {s : State} {v id : Nat} {acc : MetadataBook × Nat × Nat}

/-- Counts added to those of a loop. -/
def added (migrated skipped : Nat) (r : MetadataBook × Nat × Nat) : MetadataBook × Nat × Nat :=
  (r.1, migrated + r.2.1, skipped + r.2.2)

/-- The counts a loop starts from are added to its own. -/
theorem foldl_item_add (s : State) (v : Nat) (book : MetadataBook) (migrated skipped : Nat)
    (ids : List Nat) : ids.foldl (item s v) (book, migrated, skipped) =
      added migrated skipped (ids.foldl (item s v) (book, 0, 0)) := by
  have hitem : ∀ r id, item s v (added migrated skipped r) id =
      added migrated skipped (item s v r id) := by
    intro r id
    by_cases hnone : s.registry.credentials id = none
    · simp only [item, added, hnone, if_true]
      rfl
    by_cases hge : (r.1.credentialSchema id).getD 0 ≥ v
    · simp only [item, added, hnone, hge, if_true, if_false]
      rfl
    · simp only [item, added, hnone, hge, if_false]
      cases r.1.stored id <;> rfl
  calc ids.foldl (item s v) (book, migrated, skipped)
      = ids.foldl (item s v) (added migrated skipped (book, 0, 0)) := rfl
    _ = added migrated skipped (ids.foldl (item s v) (book, 0, 0)) := List.foldl_hom _ hitem

/-- Every item is migrated or skipped. -/
theorem item_count : (item s v acc id).2.1 + (item s v acc id).2.2 = acc.2.1 + acc.2.2 + 1 := by
  simp only [item]
  split_ifs
  · rfl
  · rfl
  · split
    · exact Nat.add_right_comm _ _ _
    · rfl

/-- A credential has the version behind an item if it is the item, or had it before. -/
theorem le_item_schema {id' : Nat} (h : id' = id ∧ s.registry.credentials id ≠ none ∨
    v ≤ (acc.1.credentialSchema id').getD 0) :
    v ≤ ((item s v acc id).1.credentialSchema id').getD 0 := by
  simp only [item]
  split_ifs with hnone hge
  · exact h.resolve_left fun h' => h'.2 hnone
  · exact h.elim (fun h' => h'.1 ▸ hge) fun h' => h'
  · have hset : v ≤ (acc.1.credentialSchema.set id v id').getD 0 := by
      rw [Store.set_apply]
      split
      next => exact le_rfl
      next hne => exact h.resolve_left fun h' => hne h'.1
    split <;> exact hset

/-- An item leaves the version of the others. -/
theorem item_schema_of_ne {id' : Nat} (h : id' ≠ id) :
    (item s v acc id).1.credentialSchema id' = acc.1.credentialSchema id' := by
  simp only [item]
  split_ifs
  · rfl
  · rfl
  · split <;> exact Store.set_of_ne h

end MetadataBook

/-! ## The job -/

open MetadataBook

/-- Where a migration is taken up: at an id, with so many items in all and what is left so far. -/
structure MigrationOrigin where
  cursor : Nat
  total : Nat
  acc : MetadataBook × Nat × Nat

namespace MigrationOrigin

variable {s : State} {v id : Nat} (o : MigrationOrigin)

/-- The loop over the next ids. -/
def upTo (s : State) (v k : Nat) : MetadataBook × Nat × Nat :=
  (List.range' o.cursor k).foldl (item s v) o.acc

theorem upTo_succ (k : Nat) : o.upTo s v (k + 1) = item s v (o.upTo s v k) (o.cursor + k) := by
  rw [upTo, List.range'_1_concat, List.foldl_append]
  rfl

theorem upTo_count (k : Nat) :
    (o.upTo s v k).2.1 + (o.upTo s v k).2.2 = o.acc.2.1 + o.acc.2.2 + k := by
  induction k with
  | zero => rfl
  | succ k ih =>
    rw [upTo_succ]
    exact item_count.trans (congrArg (· + 1) ih)

/-- **Behind the cursor every credential has the version**, if it had it before the origin. -/
theorem le_upTo_schema {k : Nat}
    (h : (o.cursor ≤ id ∧ id < o.cursor + k) ∧ s.registry.credentials id ≠ none ∨
      v ≤ (o.acc.1.credentialSchema id).getD 0) :
    v ≤ ((o.upTo s v k).1.credentialSchema id).getD 0 := by
  induction k with
  | zero => exact h.resolve_left fun h' => by omega
  | succ k ih =>
    rw [upTo_succ]
    refine le_item_schema ?_
    by_cases hid : id = o.cursor + k
    · exact h.imp (fun h' => ⟨hid, hid ▸ h'.2⟩) fun h' => ih (.inr h')
    · exact .inr (ih (h.imp_left fun h' => ⟨by omega, h'.2⟩))

/-- The loop leaves the versions before the origin. -/
theorem upTo_schema_of_lt (h : id < o.cursor) (k : Nat) :
    (o.upTo s v k).1.credentialSchema id = o.acc.1.credentialSchema id := by
  induction k with
  | zero => rfl
  | succ k ih =>
    rw [upTo_succ, item_schema_of_ne (by omega), ih]

end MigrationOrigin

namespace Migrations

/-- **A job stands at an id**: from its origin on it has left what one loop leaves. -/
structure Standing (s : State) (o : MigrationOrigin) (v : Nat) (m : Migrations) (k : Nat)
    (job : MigrationJob) : Prop where
  stored : m.job v = some job
  sound : job.Sound v
  total : job.totalItems = o.total
  cursor : job.cursor = o.cursor + k
  le : o.cursor + k ≤ o.total + 1
  left : (m.metadata, job.migratedCount, job.skippedCount) = o.upTo s v k

variable {s u : State} {o : MigrationOrigin} {v k : Nat} {m : Migrations} {job : MigrationJob}
  {env : Env}

/-- **A chunk takes a job further**, by no more than the largest chunk. -/
theorem Standing.nextChunk (h : Standing s o v m k job) (hregistry : u.registry = s.registry)
    (hprogress : job.status ≠ .completed) (chunkSize : Nat) :
    Ensures (m.nextChunk env u job v chunkSize) fun r =>
      ∃ k' ≤ k + maxChunkSize, k ≤ k' ∧ ∃ job', Standing s o v r.1 k' job' := by
  simp only [Migrations.nextChunk, Jobs.advance, ensures_steps]
  intro _ _
  obtain ⟨hpos, hsize⟩ := clampChunkSize_bounds chunkSize
  set examined := min (job.cursor + clampChunkSize chunkSize - 1) job.totalItems + 1 - job.cursor
  have hitem : MetadataBook.item u v = MetadataBook.item s v := by
    unfold MetadataBook.item
    rw [hregistry]
  have hleft := h.left
  have hcursor := h.cursor
  have htotal := h.total
  have hle := h.le
  set r := (List.range' job.cursor examined).foldl (MetadataBook.item u v) (m.metadata, 0, 0)
    with hr
  have hnext : o.upTo s v (k + examined) = added job.migratedCount job.skippedCount r := by
    rw [MigrationOrigin.upTo, ← List.range'_append_1, List.foldl_append, ← MigrationOrigin.upTo,
      ← hleft, ← hcursor, foldl_item_add, hr, hitem]
  refine ⟨k + examined, by omega, by omega, job.advanced env examined r.2.1 r.2.2, ?_⟩
  exact
    { stored := by
        rw [show (job.advanced env examined r.2.1 r.2.2).id = v from h.sound.id_eq]
        exact Store.set_self _ _ _
      sound := h.sound.advanced hprogress env _ _ _
      total := h.total
      cursor := show job.cursor + examined = _ by omega
      le := by omega
      left := hnext.symm }

end Migrations

/-! ## Runs -/

namespace MigratingWorld

open Migrations

/-- The calls of one metadata migration. -/
def OfMigration (v : Nat) (call : MigratingCall) : Prop :=
  ∃ admin, call.op = .migration (.startMetadataMigration admin v) ∨
    ∃ chunkSize, call.op = .migration (.migrateNextChunk admin v chunkSize)

/-- **What a metadata migration promises** from some storage on, of every run of its calls. -/
structure Confluent (host : Host) (w₀ : MigratingWorld) (v : Nat) : Prop where
  counted : ∀ calls, (∀ call ∈ calls, OfMigration v call) →
    ∀ job ∈ (Machine.run (next host) w₀ calls).migrations.job v,
      job.cursor - 1 = job.migratedCount + job.skippedCount ∧ job.cursor - 1 ≤ job.totalItems ∧
        (job.status = .completed ↔ job.totalItems < job.cursor)
  bounded : ∀ calls call, (∀ call ∈ calls, OfMigration v call) → OfMigration v call →
    let w := Machine.run (next host) w₀ calls
    ∀ job ∈ w.migrations.job v, ∀ job' ∈ (w.next host call).migrations.job v,
      job'.cursor ≤ job.cursor + 200 ∧
        (job.status = .completed → (w.next host call).migrations = w.migrations)
  complete : ∀ calls, (∀ call ∈ calls, OfMigration v call) →
    let w := Machine.run (next host) w₀ calls
    ∀ job ∈ w.migrations.job v, job.status = .completed → ∀ id, 1 ≤ id → id ≤ job.totalItems →
      w.world.state.registry.credentials id ≠ none →
      v ≤ (w.migrations.metadata.credentialSchema id).getD 0
  confluent : ∀ calls calls', (∀ call ∈ calls, OfMigration v call) →
    (∀ call ∈ calls', OfMigration v call) →
    let w := Machine.run (next host) w₀ calls
    let w' := Machine.run (next host) w₀ calls'
    ∀ job ∈ w.migrations.job v, ∀ job' ∈ w'.migrations.job v, job.status = .completed →
      job'.status = .completed → w.migrations.metadata = w'.migrations.metadata ∧
        job.migratedCount = job'.migratedCount ∧ job.skippedCount = job'.skippedCount

/-- Where a metadata migration is taken up: at the job there is, or at the first id. -/
def origin (w₀ : MigratingWorld) (v : Nat) : MigrationOrigin :=
  match w₀.migrations.job v with
  | some job =>
    ⟨job.cursor, job.totalItems, w₀.migrations.metadata, job.migratedCount, job.skippedCount⟩
  | none => ⟨1, w₀.world.state.registry.credentialCount, w₀.migrations.metadata, 0, 0⟩

/-- **A migration can be taken up**: the counts of its job, if there is one, are those of the ids
before its cursor, which is not beyond the last, and the credentials there have the version. -/
structure Resumable (w₀ : MigratingWorld) (v : Nat) : Prop where
  counted : (w₀.origin v).acc.2.1 + (w₀.origin v).acc.2.2 + 1 = (w₀.origin v).cursor
  le : (w₀.origin v).cursor ≤ (w₀.origin v).total + 1
  behind : ∀ id < (w₀.origin v).cursor, 1 ≤ id →
    w₀.world.state.registry.credentials id ≠ none →
      v ≤ ((w₀.origin v).acc.1.credentialSchema id).getD 0

/-- The job can be completed. -/
def Completable (host : Host) (w₀ : MigratingWorld) (v : Nat) : Prop :=
  ∃ calls, (∀ call ∈ calls, OfMigration v call) ∧
    ∃ job ∈ (Machine.run (next host) w₀ calls).migrations.job v, job.status = .completed

/-- **Where a migration has got to**: it has not been started, or its job stands at an id. -/
structure Reached (w₀ : MigratingWorld) (v : Nat) (w : MigratingWorld) : Prop where
  registry : w.world.state.registry = w₀.world.state.registry
  job : (w₀.migrations.job v = none ∧ w.migrations.job v = none ∧
      w.migrations.metadata = w₀.migrations.metadata) ∨
    ∃ k job, Standing w₀.world.state (w₀.origin v) v w.migrations k job

/-- A call takes a job no further than the largest chunk, and leaves one that is complete. -/
def Bounded (v : Nat) (m m' : Migrations) : Prop :=
  ∀ job ∈ m.job v, ∀ job' ∈ m'.job v,
    job'.cursor ≤ job.cursor + maxChunkSize ∧ (job.status = .completed → m' = m)

theorem Bounded.refl (v : Nat) (m : Migrations) : Bounded v m m := by
  intro job hjob job' hjob'
  cases hjob.symm.trans hjob'
  exact ⟨Nat.le_add_right _ _, fun _ => rfl⟩

variable {w₀ w : MigratingWorld} {v : Nat} {host : Host} {call : MigratingCall}

/-- **One call.** -/
theorem Reached.apply (h : Reached w₀ v w) (env : Env) (hcall : OfMigration v call) :
    Ensures (w.apply env call.op) fun r =>
      (∀ time, Reached w₀ v ⟨⟨time, r.1⟩, r.2⟩) ∧ Bounded v w.migrations r.2 := by
  obtain ⟨admin, hop | ⟨chunkSize, hop⟩⟩ := hcall
  · rw [hop]
    simp only [MigratingWorld.apply, MigrationOp.apply, startMetadataMigration, ensures_steps]
    intro _ control _ _ _ _ _
    cases hjob : w.migrations.job v with
    | some job =>
      simp only [Jobs.startJob, hjob]
      exact ⟨fun _ => ⟨h.registry, h.job⟩, .refl v _⟩
    | none =>
      obtain ⟨hnew, -, hmetadata⟩ := h.job.resolve_right (by
        rintro ⟨k, job, hstanding⟩
        simp [hstanding.stored] at hjob)
      simp only [Jobs.startJob, hjob]
      refine ⟨fun _ => ⟨h.registry, .inr ⟨0, ?_⟩⟩, fun job hjob' => ?_⟩
      · simp only [origin, hnew]
        refine ⟨_, Store.set_self _ _ _, ⟨rfl, le_rfl, ?_⟩, ?_, rfl, Nat.le_add_left _ _, ?_⟩
        · split <;> simp <;> omega
        · exact congrArg Registry.credentialCount h.registry
        · exact congrArg (·, 0, 0) hmetadata
      · cases hjob.symm.trans hjob'
  · rw [hop]
    simp only [MigratingWorld.apply, MigrationOp.apply, migrateNextChunk, ensures_steps,
      ensures_ite]
    intro _ control _ _ job hjob
    refine ⟨fun _ => ⟨fun _ => ⟨h.registry, h.job⟩, .refl v _⟩, fun hprogress => ?_⟩
    obtain ⟨k, old, hstanding⟩ := h.job.resolve_left fun h' => by simp [hjob] at h'
    cases hjob.symm.trans hstanding.stored
    refine (hstanding.nextChunk h.registry hprogress chunkSize).mono ?_
    rintro r ⟨k', hle, -, job', hstanding'⟩
    refine ⟨fun _ => ⟨h.registry, .inr ⟨k', job', hstanding'⟩⟩, fun old hold new hnew => ?_⟩
    cases hjob.symm.trans hold
    cases hstanding'.stored.symm.trans hnew
    refine ⟨?_, fun hcompleted => absurd hcompleted hprogress⟩
    rw [hstanding.cursor, hstanding'.cursor]
    omega

theorem Reached.next (h : Reached w₀ v w) (hcall : OfMigration v call) :
    Reached w₀ v (w.next host call) ∧ Bounded v w.migrations (w.next host call).migrations := by
  cases hresult : w.apply (w.env host call) call.op with
  | error fault =>
    rw [next_of_error hresult]
    exact ⟨⟨h.registry, h.job⟩, .refl v _⟩
  | ok r =>
    obtain ⟨hreached, hbounded⟩ := h.apply _ hcall r hresult
    rw [next_of_ok hresult]
    exact ⟨hreached _, hbounded⟩

theorem Reached.run (host : Host) (hsound : w₀.migrations.job.Sound)
    (hle : (w₀.origin v).cursor ≤ (w₀.origin v).total + 1) {calls : List MigratingCall}
    (hcalls : ∀ call ∈ calls, OfMigration v call) :
    Reached w₀ v (Machine.run (MigratingWorld.next host) w₀ calls) := by
  refine (Machine.along_of_mem _ hcalls).invariant (I := Reached w₀ v)
    (fun _ _ hw hcall => (hw.next hcall).1) ⟨rfl, ?_⟩
  cases hjob : w₀.migrations.job v with
  | none => exact .inl ⟨rfl, rfl, rfl⟩
  | some job =>
    simp only [origin, hjob] at hle ⊢
    exact .inr ⟨0, job, hjob, hsound v job hjob, rfl, rfl, hle, rfl⟩

/-- The job of a migration stands somewhere. -/
theorem Reached.standing (h : Reached w₀ v w) {job : MigrationJob}
    (hjob : w.migrations.job v = some job) :
    ∃ k, Standing w₀.world.state (w₀.origin v) v w.migrations k job := by
  obtain ⟨k, old, hstanding⟩ := h.job.resolve_left fun h' => by simp [hjob] at h'
  cases hjob.symm.trans hstanding.stored
  exact ⟨k, hstanding⟩

/-- **A migration that can be taken up does what it promises.** -/
theorem Resumable.confluent (h₀ : Resumable w₀ v) (hsound : w₀.migrations.job.Sound) (host : Host) :
    Confluent host w₀ v := by
  have hreached : ∀ {calls}, (∀ call ∈ calls, OfMigration v call) →
      Reached w₀ v (Machine.run (next host) w₀ calls) := Reached.run host hsound h₀.le
  constructor
  case counted =>
    intro calls hcalls job hjob
    obtain ⟨k, h⟩ := (hreached hcalls).standing hjob
    have hcounts := (w₀.origin v).upTo_count (s := w₀.world.state) (v := v) k
    rw [← h.left] at hcounts
    dsimp only at hcounts
    have := h₀.counted
    have := h.cursor
    have := h.total
    have := h.le
    exact ⟨by omega, by omega, h.sound.completed_iff⟩
  case bounded => exact fun calls call hcalls hcall => ((hreached hcalls).next hcall).2
  case complete =>
    intro calls hcalls w job hjob hcompleted id hpos hle hsome
    obtain ⟨k, h⟩ := (hreached hcalls).standing hjob
    have hlast := h.sound.completed_iff.mp hcompleted
    have hmetadata := congrArg Prod.fst h.left
    rw [(hreached hcalls).registry] at hsome
    dsimp only at hmetadata
    rw [hmetadata]
    refine (w₀.origin v).le_upTo_schema ?_
    by_cases hid : id < (w₀.origin v).cursor
    · exact .inr (h₀.behind id hid hpos hsome)
    · have := h.cursor
      exact .inl ⟨by omega, hsome⟩
  case confluent =>
    intro calls calls' hcalls hcalls' w w' job hjob job' hjob' hcompleted hcompleted'
    obtain ⟨k, h⟩ := (hreached hcalls).standing hjob
    obtain ⟨k', h'⟩ := (hreached hcalls').standing hjob'
    -- both jobs have gone through all the credentials there were
    have hlast := h.sound.completed_iff.mp hcompleted
    have hlast' := h'.sound.completed_iff.mp hcompleted'
    have htotal := h.total.trans h'.total.symm
    obtain rfl : k = k' := by
      have := h.cursor
      have := h'.cursor
      have := h.le
      have := h'.le
      have := h.total
      omega
    have hleft := h.left.trans h'.left.symm
    exact ⟨congrArg Prod.fst hleft, congrArg (·.2.1) hleft, congrArg (·.2.2) hleft⟩

/-- **A migration that does what it promises could be taken up**, if it can be completed. -/
theorem Confluent.resumable (h₀ : Confluent host w₀ v) (hsound : w₀.migrations.job.Sound)
    (hcompletable : Completable host w₀ v) : Resumable w₀ v := by
  have hcounted := h₀.counted [] (by simp)
  have hstart : (w₀.origin v).acc.2.1 + (w₀.origin v).acc.2.2 + 1 = (w₀.origin v).cursor ∧
      (w₀.origin v).cursor ≤ (w₀.origin v).total + 1 := by
    cases hjob : w₀.migrations.job v with
    | none => simp [origin, hjob]
    | some job =>
      have hpos := (hsound v job hjob).cursor_pos
      have := hcounted job hjob
      simp only [origin, hjob]
      omega
  refine ⟨hstart.1, hstart.2, fun id hid hpos hsome => ?_⟩
  -- the loop does not come back to an id before the origin
  obtain ⟨calls, hcalls, job, hjob, hcompleted⟩ := hcompletable
  have hreached := Reached.run host hsound hstart.2 hcalls
  obtain ⟨k, h⟩ := hreached.standing hjob
  have hlast : id ≤ job.totalItems := by
    have := h.total
    have := h.le
    omega
  have hversion := h₀.complete calls hcalls job hjob hcompleted id hpos hlast
    (by rwa [hreached.registry])
  have hleft := congrArg Prod.fst h.left
  dsimp only at hleft
  rwa [hleft, (w₀.origin v).upTo_schema_of_lt hid] at hversion

/-- **What a metadata migration promises**, from every reachable storage on: it keeps it if it can
be taken up, and, if it can be completed at all, only then. -/
theorem confluent_resumable (host : Host) (pre : List MigratingCall) (v : Nat) :
    (Resumable (after host pre) v → Confluent host (after host pre) v) ∧
      (Completable host (after host pre) v → Confluent host (after host pre) v →
        Resumable (after host pre) v) :=
  ⟨fun h => h.confluent (sound_after host pre).jobs host,
    fun hcompletable h => h.resumable (sound_after host pre).jobs hcompletable⟩

end MigratingWorld

/-! ## The job of the other migration -/

namespace Sample

/-- Two credentials, of which a chunk of the migration from V1 to V2 has gone through the first. -/
def halfMigrated : List MigratingCall :=
  migrationStarted ++ [migrating (.migrateChunkV1ToV2 admin 1)]

/-- Version 3 is registered, and a chunk of the migration to it has gone through the first of two
credentials. -/
def underWay : List MigratingCall :=
  [plain initialized, plain (issue alice 1), plain (issue bob 2),
    migrating (.metadata
      { hasSchema := (· = 3), activeVersion := 3, credentialSchema := fun _ => none
        stored := fun _ => some ⟨[1], .none⟩ }),
    migrating (.startMetadataMigration admin 3), migrating (.migrateNextChunk admin 3 1)]

end Sample

namespace MigratingWorld

open Sample

/-- The job is under way, and another chunk completes it. -/
theorem confluent_resumable_three :
    Confluent host (after host underWay) 3 ∧
      ((after host underWay).migrations.job 3).map (·.cursor) = some 2 ∧
      ((after host (underWay ++ [migrating (.migrateNextChunk admin 3 1)])).migrations.job 3).map
        (fun job => (job.status, job.migratedCount)) = some (.completed, 2) := by
  refine ⟨(confluent_resumable host underWay 3).1 ⟨?_, ?_, ?_⟩, ?_, ?_⟩ <;> decide +kernel

/-- **A metadata migration to version 2 takes up the job, and is complete without the first
credential.** -/
theorem not_confluent : ¬ Confluent host (after host halfMigrated) 2 := by
  intro h
  let calls := [migrating (.migrateNextChunk admin 2 0)]
  let w := Machine.run (next host) (after host halfMigrated) calls
  have hcalls : ∀ call ∈ calls, OfMigration 2 call := by
    intro call hcall
    cases List.mem_singleton.mp hcall
    exact ⟨admin, .inr ⟨0, rfl⟩⟩
  have hjob : (w.migrations.job 2).map (fun job => (job.status, job.totalItems)) =
      some (.completed, 2) := by decide +kernel
  obtain ⟨job, hjob, hstatus⟩ := Option.map_eq_some_iff.mp hjob
  rw [Prod.mk.injEq] at hstatus
  have hversion := h.complete calls hcalls job hjob hstatus.1 1 le_rfl (by omega)
    (by decide +kernel)
  revert hversion
  decide +kernel

end MigratingWorld

end QuorumProof
