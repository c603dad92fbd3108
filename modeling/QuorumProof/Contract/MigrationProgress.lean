import QuorumProof.Contract.MigrationSafety

/-!
# Contract/MigrationProgress — a start and enough chunks

A chunk of valid credentials moves the cursor by at least one and fails at nothing; so a start,
where it finds a job it can go on with, and as many chunks as there are credentials reach V2.  With
`MigrationSafety` that is what the migration promises, in runs of careful calls.  The code checks
none of what they keep to: a chunk does not look at the checkpoint's status, the last chunk judges
by its own failures, a start takes up whatever job it finds, and `migrate_next_chunk` moves the
cursor of job 2 past items it does not tag.
-/

namespace QuorumProof

open Guarded

theorem clampChunkSize_bounds (requested : Nat) :
    1 ≤ clampChunkSize requested ∧ clampChunkSize requested ≤ maxChunkSize := by
  unfold clampChunkSize maxChunkSize
  split <;> omega

namespace Migrations

variable {s : State} {m : Migrations} {env : Env} {admin : Address}

/-- The migration is over, and its integrity check passes. -/
def Done (m : Migrations) : Prop :=
  m.getSchemaVersion = .v2 ∧ m.validateMigrationIntegrity = true
  deriving Decidable

/-- **A migration under way**, for which `remaining` chunks are enough. -/
structure Running (m : Migrations) (totalItems remaining : Nat) : Prop where
  v1 : m.getSchemaVersion = .v1
  job : ∃ job, m.job v2JobId = some job ∧ job.id = v2JobId ∧ job.status = .inProgress ∧
    (1 ≤ job.cursor ∧ job.cursor ≤ totalItems) ∧ job.totalItems = totalItems ∧
    totalItems < job.cursor + remaining
  checkpoint : ∃ checkpoint, m.checkpoint = some checkpoint ∧ checkpoint.failedItems = 0

/-- **A chunk of valid credentials ends the migration or takes it further.** -/
theorem Running.chunk (env : Env) {totalItems remaining : Nat}
    (h : m.Running totalItems (remaining + 1)) (hbound : totalItems + maxChunkSize ≤ u64Max)
    (hauth : admin ∈ env.auths)
    (hadmin : s.control.admin = some admin)
    (hvalid : ∀ id, 1 ≤ id → id ≤ totalItems → ValidV1 s id) (chunkSize : Nat) :
    ∃ m' checkpoint, m.migrateChunkV1ToV2 env s admin chunkSize = .ok (m', checkpoint) ∧
      (m'.Done ∨ m'.Running totalItems remaining) := by
  obtain ⟨hpos, hle⟩ := clampChunkSize_bounds chunkSize
  obtain ⟨job, hjob, hid, hprogress, ⟨hcursor, hcursor'⟩, rfl, hremaining⟩ := h.job
  obtain ⟨checkpoint, hcheckpoint, hfailed⟩ := h.checkpoint
  set chunk := m.chunk s job (clampChunkSize chunkSize) with hchunk
  set job' := job.advanced env (clampChunkSize chunkSize) chunk.migrated 0 with hjob'
  have hcursor'' : job'.cursor = job.cursor + clampChunkSize chunkSize := rfl
  have hnone : chunk.failed = 0 := by
    rw [hchunk, Migrations.chunk, Chunk.foldl_failed, Nat.zero_add, List.countP_eq_zero]
    intro id hmem
    obtain ⟨⟨hlow, -⟩, hhigh⟩ := mem_chunkIds.mp hmem
    simpa using hvalid id (hcursor.trans hlow) hhigh
  set checkpoint' := chunkCheckpoint env checkpoint chunk job' with hcheckpoint'
  refine ⟨m.putChunk chunk (m.job.set job'.id job') job' checkpoint', checkpoint', ?_, ?_⟩
  · simp only [migrateChunkV1ToV2, Jobs.advance, Control.assertAdmin, bind_eq_ok,
      requireAuth_eq_ok, require_eq_ok, expect_eq_ok, pure_eq_ok]
    exact ⟨(), hauth, (), h.v1, (), ⟨admin, hadmin, rfl⟩, job, hjob, (), by simp [hprogress],
      checkpoint, hcheckpoint, _, ⟨(), by omega, rfl⟩, rfl⟩
  by_cases hlast : job.totalItems < job'.cursor
  · have hcompleted : job'.status = .completed := if_pos hlast
    have hstatus : checkpoint'.status = .completed := by
      simp [hcheckpoint', chunkCheckpoint, hcompleted, hnone]
    have hitems : checkpoint'.failedItems = 0 := by
      simp [hcheckpoint', chunkCheckpoint, hfailed, hnone]
    left
    simp [Done, validateMigrationIntegrity, getSchemaVersion, putChunk, hcompleted, hstatus, hitems]
  · have hprogress' : job'.status = .inProgress := (if_neg hlast).trans hprogress
    right
    refine ⟨?_, ⟨job', ?_, hid, hprogress', by omega, rfl, by omega⟩, ⟨checkpoint', rfl, ?_⟩⟩
    · simpa [getSchemaVersion, putChunk, hprogress'] using h.v1
    · exact (congrArg (m.job.set · job' v2JobId) hid).trans (Store.set_self _ _ _)
    · simp [hcheckpoint', chunkCheckpoint, hnone, hfailed]

theorem migrateChunkV1ToV2_of_idle (h : ∀ job, m.job v2JobId = some job → job.status = .completed)
    {chunkSize : Nat} : Ensures (m.migrateChunkV1ToV2 env s admin chunkSize) fun _ => False := by
  simp only [migrateChunkV1ToV2, ensures_steps, require_eq_ok]
  exact fun _ _ _ job hjob hne => absurd (h job hjob) hne

theorem migrateNextChunk_of_idle (h : ∀ job, m.job v2JobId = some job → job.status = .completed)
    {chunkSize : Nat} : Ensures (m.migrateNextChunk env s admin v2JobId chunkSize) fun r =>
      r.2.1 = m := by
  simp only [migrateNextChunk, ensures_steps, ensures_ite]
  exact fun _ _ _ _ job hjob => ⟨fun _ => trivial, fun hne => absurd (h job hjob) hne⟩

theorem exists_startMigrationV1ToV2 (env : Env) (hauth : admin ∈ env.auths)
    (hadmin : s.control.admin = some admin) (hv1 : m.getSchemaVersion = .v1) :
    ∃ r, m.startMigrationV1ToV2 env s admin = .ok r := by
  simp only [startMigrationV1ToV2, Control.assertAdmin, bind_eq_ok, requireAuth_eq_ok,
    require_eq_ok, expect_eq_ok, pure_eq_ok]
  exact ⟨_, (), hauth, (), hv1, (), ⟨admin, hadmin, rfl⟩, rfl⟩

/-- **A start that is in place ends the migration at once, where there is nothing to migrate, or
gets it under way.** -/
theorem Startable.starts (h : m.Startable s.registry.credentialCount) (hsound : m.Sound) :
    Ensures (m.startMigrationV1ToV2 env s admin) fun r =>
      r.1.Done ∨ r.1.Running s.registry.credentialCount s.registry.credentialCount := by
  simp only [startMigrationV1ToV2, ensures_steps, require_eq_ok]
  intro _ hv1 _
  by_cases hzero : s.registry.credentialCount = 0
  · left
    simp [Done, validateMigrationIntegrity, getSchemaVersion, hzero]
  right
  obtain ⟨job, hset, hjob⟩ := m.job.startJob_started env v2JobId migrationKindMetadataSchema
    s.registry.credentialCount
  refine ⟨?_, ⟨job, (congrFun hset _).trans (Store.set_self _ _ _), ?_⟩, ⟨_, rfl, rfl⟩⟩
  · simpa [getSchemaVersion, hzero] using hv1
  generalize hold : m.job v2JobId = old at hjob
  cases hjob with
  | found =>
    obtain ⟨hprogress, htotal⟩ := h.2.2 job hold
    have hjob := hsound.jobs _ _ hold
    have hle := mt hjob.completed_iff.mpr (by simp [hprogress])
    have hpos := hjob.cursor_pos
    exact ⟨hjob.id_eq, hprogress, by omega, htotal, by omega⟩
  | made hid hcursor htotal hstatus =>
    exact ⟨hid, by rw [hstatus, if_neg hzero], by omega, htotal, by omega⟩

end Migrations

namespace MigratingWorld

variable {host : Host} {w : MigratingWorld} {admin : Address} {calls chunks : List MigratingCall}

/-- A chunk of the migration that the administrator signs. -/
def ChunkBy (admin : Address) (call : MigratingCall) : Prop :=
  admin ∈ call.auths ∧ ∃ chunkSize, call.op = .migration (.migrateChunkV1ToV2 admin chunkSize)

/-- **As many chunks as remain end the migration**, and what follows leaves it ended. -/
theorem done_of_chunks {totalItems remaining : Nat}
    (hbound : totalItems + maxChunkSize ≤ u64Max)
    (hadmin : w.world.state.control.admin = some admin)
    (hvalid : ∀ id, 1 ≤ id → id ≤ totalItems → ValidV1 w.world.state id)
    (hchunks : ∀ call ∈ chunks, ChunkBy admin call)
    (hrunning : w.migrations.Done ∨ w.migrations.Running totalItems remaining)
    (henough : remaining ≤ chunks.length) :
    (Machine.run (next host) w chunks).migrations.Done := by
  induction chunks generalizing w remaining with
  | nil =>
    obtain rfl : remaining = 0 := Nat.le_zero.mp henough
    refine hrunning.resolve_right fun h => ?_
    obtain ⟨job, -, -, -, ⟨-, hle⟩, -, hlt⟩ := h.job
    omega
  | cons call chunks ih =>
    obtain ⟨⟨hauth, chunkSize, hop⟩, hrest⟩ := List.forall_mem_cons.mp hchunks
    rcases hrunning with hdone | hrunning
    · have hcall : w.apply (w.env host call) call.op =
          .error (.panic "migration already completed or not started") := by
        rw [hop]
        simp [apply, MigrationOp.apply, Migrations.migrateChunkV1ToV2, requireAuth, require, env,
          hauth, hdone.1, bind, Except.bind, Functor.map, Except.map]
      rw [Machine.run_cons, next_of_error hcall]
      exact ih hadmin hvalid hrest (.inl hdone) (Nat.zero_le _)
    · cases remaining with
      | zero =>
        obtain ⟨job, -, -, -, ⟨-, hle⟩, -, hlt⟩ := hrunning.job
        omega
      | succ remaining =>
        obtain ⟨m', checkpoint, hrun, hresult⟩ := hrunning.chunk (w.env host call) hbound
          hauth hadmin hvalid chunkSize
        have hcall : w.apply (w.env host call) call.op = .ok (w.world.state, m') := by
          rw [hop]
          exact congrArg (Functor.map _) hrun
        rw [Machine.run_cons, next_of_ok hcall]
        exact ih hadmin hvalid hrest hresult (Nat.le_of_succ_le_succ henough)

/-! ## What the migration promises -/

/-- **The schema is V2, or the integrity check passes, only if** every credential the checkpoint is
for carries the tag, and no item has failed in any chunk. -/
def V2Complete (host : Host) (calls : List MigratingCall) : Prop :=
  (after host calls).migrations.getSchemaVersion = .v2 ∨
      (after host calls).migrations.validateMigrationIntegrity = true →
    (∃ checkpoint, (after host calls).migrations.checkpoint = some checkpoint ∧
      ∀ id, 1 ≤ id → id ≤ checkpoint.totalItems → (after host calls).migrations.Tagged id) ∧
    ¬ Machine.Occurs (next host) (Fails host) deployed calls

/-- A call of an entry point that advances job 2. -/
def IsChunk (call : MigratingCall) : Prop :=
  ∃ admin chunkSize, call.op = .migration (.migrateChunkV1ToV2 admin chunkSize) ∨
    call.op = .migration (.migrateNextChunk admin v2JobId chunkSize)

/-- Job 2 is not in progress. -/
def Idle (w : MigratingWorld) : Prop := ∀ job ∈ w.migrations.job v2JobId, job.status = .completed

/-- **No chunk changes anything while the migration is stopped**, in the worlds with `C`. -/
def StoppedStays (C : MigratingWorld → Prop) (host : Host) (calls : List MigratingCall) : Prop :=
  ∀ call, C (after host calls) → IsChunk call → (after host calls).migrations.Stopped →
    ((after host calls).next host call).migrations = (after host calls).migrations

/-- **A new start and enough chunks reach V2**, when the administrator makes them on V1, every
credential is valid, and the start has `C`. -/
def RestartReaches (C : MigratingWorld → MigratingCall → Prop) (host : Host)
    (calls : List MigratingCall) : Prop :=
  ∀ admin start chunks, C (after host calls) start →
    (after host calls).world.state.control.admin = some admin →
    (after host calls).migrations.getSchemaVersion = .v1 →
    (∀ id, 1 ≤ id → id ≤ (after host calls).world.state.registry.credentialCount →
      ValidV1 (after host calls).world.state id) →
    admin ∈ start.auths → start.op = .migration (.startMigrationV1ToV2 admin) →
    (∀ call ∈ chunks, ChunkBy admin call) →
    (after host calls).world.state.registry.credentialCount ≤ chunks.length →
    (Machine.run (next host) (after host calls) (start :: chunks)).migrations.Done

theorem v2Complete_of_careful (h : Machine.Along (next host) Careful deployed calls) :
    V2Complete host calls := by
  obtain ⟨hsound, hwhole⟩ : (after host calls).migrations.Sound ∧
      (after host calls).migrations.view.Whole :=
    Machine.Along.invariant
      (I := fun w : MigratingWorld => w.migrations.Sound ∧ w.migrations.view.Whole)
      (whole_next host) h ⟨.empty, fun _ h => (nomatch h), fun h => (nomatch h)⟩
  intro hv2
  have hv2 : (after host calls).migrations.getSchemaVersion = .v2 :=
    hv2.elim id fun hvalid => of_decide_eq_true (Bool.and_eq_true_iff.mp hvalid).1
  obtain ⟨hsome, hmissed, job, hjob, hcompleted⟩ := hwhole.complete hv2
  refine ⟨?_, fun hfails => hmissed (missed_of_fails hfails)⟩
  obtain ⟨items, hitems⟩ := Option.ne_none_iff_exists'.mp hsome
  obtain ⟨job', hjob', htotal⟩ := hwhole.agrees items hitems
  cases hjob.symm.trans hjob'
  have hpast := (hsound.jobs _ _ hjob).completed_iff.mp hcompleted
  obtain ⟨checkpoint, hcheckpoint, rfl⟩ := Option.map_eq_some_iff.mp hitems
  refine ⟨checkpoint, hcheckpoint, fun id hpos hle => ?_⟩
  obtain ⟨tag, htag⟩ := Option.ne_none_iff_exists'.mp fun hnone =>
    hmissed ⟨job, hjob, id, hpos, by omega, by omega, hnone⟩
  exact htag.trans (congrArg some (hsound.tagged id tag htag).1)

/-- A careful chunk finds job 2 idle when the migration is stopped. -/
theorem idle_of_careful {w : MigratingWorld} {call : MigratingCall} (h : w.Careful call)
    (hchunk : IsChunk call) (hstopped : w.migrations.Stopped) : w.Idle := by
  intro job hjob
  by_contra hne
  have hprogress := job.status_of_ne_completed hne
  obtain ⟨admin, chunkSize, hop | hop⟩ := hchunk
  · rw [Careful, hop] at h
    exact (h job hjob hprogress).1 hstopped
  · rw [Careful, hop] at h
    exact h rfl job hjob hprogress hstopped

theorem stoppedStays_of_idle (host : Host) (calls : List MigratingCall) :
    StoppedStays Idle host calls := by
  rintro call hidle ⟨admin, chunkSize, hop⟩ -
  rcases (after host calls).next_migrations host call with ⟨-, hsame⟩ | ⟨op, hop', -, s, hs⟩
  · exact hsame
  rcases hop with hop | hop
  · cases hop.symm.trans hop'
    obtain ⟨r, hr, -⟩ := map_eq_ok.mp hs
    exact (Migrations.migrateChunkV1ToV2_of_idle hidle r hr).elim
  · cases hop.symm.trans hop'
    obtain ⟨r, hr, heq⟩ := map_eq_ok.mp hs
    exact (Prod.mk.inj heq).2.symm.trans (Migrations.migrateNextChunk_of_idle hidle r hr)

theorem restartReaches_of_careful (host : Host) (calls : List MigratingCall) :
    RestartReaches Careful host calls := by
  intro admin start chunks hcareful hadmin hv1 hvalid hauth hop hchunks henough
  rw [Careful, hop] at hcareful
  obtain ⟨r, hr⟩ := Migrations.exists_startMigrationV1ToV2 ((after host calls).env host start)
    hauth hadmin hv1
  have hcall : (after host calls).apply ((after host calls).env host start) start.op =
      .ok ((after host calls).world.state, r.1) := by
    rw [hop]
    exact congrArg (Functor.map _) hr
  rw [Machine.run_cons, next_of_ok hcall]
  exact done_of_chunks hcareful.1 hadmin hvalid hchunks
    (Migrations.Startable.starts hcareful (sound_after host calls) r hr) henough

/-- **The migration keeps its promises in runs of careful calls**: a careful chunk finds a stopped
migration idle, and then nothing changes. -/
theorem migration_sound (host : Host) (calls : List MigratingCall)
    (h : Machine.Along (next host) Careful deployed calls) :
    V2Complete host calls ∧
      ((∀ call, (after host calls).Careful call → IsChunk call →
        (after host calls).migrations.Stopped → (after host calls).Idle) ∧
      StoppedStays Idle host calls) ∧
      RestartReaches Careful host calls :=
  ⟨v2Complete_of_careful h, ⟨fun _ => idle_of_careful, stoppedStays_of_idle host calls⟩,
    restartReaches_of_careful host calls⟩

end MigratingWorld

namespace Sample

/-- A call of the contract proper. -/
def plain (call : Call) : MigratingCall :=
  { elapsed := call.elapsed, auths := call.auths, op := .contract call.op }

/-- A call of a migration that the administrator signs. -/
def migrating (op : MigrationOp) : MigratingCall :=
  { elapsed := 0, auths := [admin], op := .migration op }

/-- Two credentials, and a start of the migration. -/
def migrationStarted : List MigratingCall :=
  [plain initialized, plain (issue alice 1), plain (issue bob 2),
    migrating (.startMigrationV1ToV2 admin)]

/-- A chunk, a pause, a rollback, another start and the other chunk. -/
def migrationRestarted : List MigratingCall :=
  migrationStarted ++
    [migrating (.migrateChunkV1ToV2 admin 1), migrating (.pauseMigration admin),
      migrating (.rollbackMigration admin), migrating (.startMigrationV1ToV2 admin),
      migrating (.migrateChunkV1ToV2 admin 1)]

/-- The issuer empties the metadata hash of the first of two credentials, and each of them gets a
chunk of its own. -/
def failureForgotten : List MigratingCall :=
  [plain initialized, plain (issue alice 1), plain (issue bob 2),
    plain (call issuer (.lifecycle (.batchAmendCredentials issuer [1] [[]]))),
    plain (call issuer (.lifecycle (.executeBatchAmendment issuer 1))),
    migrating (.startMigrationV1ToV2 admin), migrating (.migrateChunkV1ToV2 admin 1),
    migrating (.migrateChunkV1ToV2 admin 1)]

/-- `migrate_next_chunk` examines the first credential, and the migration the second. -/
def chunkTaken : List MigratingCall :=
  migrationStarted ++
    [migrating (.migrateNextChunk admin 2 1), migrating (.migrateChunkV1ToV2 admin 1)]

/-- The migration is paused. -/
def migrationPaused : List MigratingCall :=
  migrationStarted ++ [migrating (.pauseMigration admin)]

/-- `migrate_next_chunk` examines both credentials, and the migration is rolled back. -/
def jobTaken : List MigratingCall :=
  migrationStarted ++
    [migrating (.migrateNextChunk admin 2 0), migrating (.rollbackMigration admin)]

end Sample

namespace MigratingWorld

open Sample

/-- A migration that has been rolled back half way is taken up again and reaches V2. -/
theorem migration_sound_restarted :
    Machine.Along (next host) Careful deployed migrationRestarted ∧
      (after host migrationRestarted).migrations.Done ∧
      V2Complete host migrationRestarted ∧
      StoppedStays Idle host migrationRestarted ∧
      RestartReaches Careful host migrationRestarted := by
  have hcareful : Machine.Along (next host) Careful deployed migrationRestarted := by
    decide +kernel
  obtain ⟨hcomplete, ⟨-, hstays⟩, hreaches⟩ := migration_sound host migrationRestarted hcareful
  exact ⟨hcareful, by decide +kernel, hcomplete, hstays, hreaches⟩

/-- **None of the three holds of every run**: a chunk of `migrate_next_chunk` leaves a credential
untagged and the integrity check passes, and a failure in a chunk before the last is forgotten; a
chunk goes on while the migration is paused; and after a rollback of a job that is complete no chunk
gets anywhere. -/
theorem not_migration_sound :
    (¬ ∀ host calls, V2Complete host calls) ∧
      (∃ host calls, (after host calls).migrations.getSchemaVersion = .v2 ∧
        Machine.Occurs (next host) (Fails host) deployed calls) ∧
      (¬ ∀ host calls, StoppedStays (fun _ => True) host calls) ∧
      ¬ ∀ host calls, RestartReaches (fun _ _ => True) host calls := by
  refine ⟨fun h => ?_, ⟨host, failureForgotten, by decide +kernel, ?_⟩, fun h => ?_,
    fun h => ?_⟩
  · obtain ⟨⟨checkpoint, hcheckpoint, htagged⟩, -⟩ :=
      h host chunkTaken (.inr (by decide +kernel))
    have htotal : (after host chunkTaken).migrations.checkpoint.map (·.totalItems) =
        some 2 := by decide +kernel
    rw [hcheckpoint, Option.map_some, Option.some.injEq] at htotal
    have htag := htagged 1 le_rfl (by omega)
    revert htag
    decide +kernel
  · refine .inr (.inr (.inr (.inr (.inr (.inr (.inl ⟨⟨_, rfl⟩, _, _, rfl, _, rfl, ?_⟩))))))
    decide +kernel
  · have hsame := h host migrationPaused
      (migrating (.migrateChunkV1ToV2 admin 1)) trivial ⟨_, _, .inl rfl⟩
      (by decide +kernel)
    have htag := congrArg (fun m => m.versionTag 1) hsame
    revert htag
    decide +kernel
  · have hvalid : ∀ id ∈ List.range' 1 2,
        ValidV1 (after host jobTaken).world.state id := by decide +kernel
    have hdone := h host jobTaken admin
      (migrating (.startMigrationV1ToV2 admin))
      (List.replicate 2 (migrating (.migrateChunkV1ToV2 admin 1))) trivial rfl
      (by decide +kernel)
      (fun id hpos hle => hvalid id (List.mem_range'_1.mpr ⟨hpos, Nat.lt_succ_of_le hle⟩))
      (by decide) rfl
      (fun call hcall => List.eq_of_mem_replicate hcall ▸ ⟨by decide, 1, rfl⟩) (by decide +kernel)
    revert hdone
    decide +kernel

end MigratingWorld

end QuorumProof
