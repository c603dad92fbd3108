import QuorumProof.Contract.Migration

/-!
# Contract/MigrationSafety — what it takes for the schema to say V2

A job is made once and never again, and its cursor only goes forward: what a chunk fails at, or what
`migrate_next_chunk` steps over, is behind the cursor without a tag and stays so
(`View.Missed`).  The schema becomes V2 by the last chunk, which looks at its own failures
only; it is right to if nothing has been missed before, and if the checkpoint is for the items the
job is for.  `Migrations.Careful` asks the calls for that, and `Migrations.Whole` is what then
holds.
-/

namespace QuorumProof

open Guarded

/-! ## Chunks -/

/-- A credential that the transform accepts. -/
def ValidV1 (s : State) (id : Nat) : Prop := checkCredentialV1 s id = .ok ()

instance (s : State) (id : Nat) : Decidable (ValidV1 s id) :=
  match h : checkCredentialV1 s id with
  | .ok () => .isTrue h
  | .error _ => .isFalse fun hok => by simp [ValidV1, h] at hok

namespace Chunk

variable {s : State} {c : Chunk} {x id : Nat}

theorem item_tags : (c.item s x).tags id =
    if id = x ∧ ValidV1 s x ∧ c.tags x = none then some v2VersionTag else c.tags id := by
  cases hcheck : checkCredentialV1 s x with
  | error error => simp [item, transformCredentialV1ToV2, ValidV1, hcheck, bind, Except.bind]
  | ok =>
    by_cases htag : c.tags x = none <;> simp [item, transformCredentialV1ToV2, ValidV1, hcheck,
      htag, bind, Except.bind, pure, Except.pure, Store.set_apply]

theorem item_failed : (c.item s x).failed = c.failed + if ValidV1 s x then 0 else 1 := by
  cases hcheck : checkCredentialV1 s x with
  | error error => simp [item, transformCredentialV1ToV2, ValidV1, hcheck, bind, Except.bind]
  | ok =>
    by_cases htag : c.tags x = none <;> simp [item, transformCredentialV1ToV2, ValidV1, hcheck,
      htag, bind, Except.bind, pure, Except.pure]

/-- **What the loop leaves**: tags on the valid items it has gone through, and no others. -/
theorem foldl_tags (s : State) (ids : List Nat) (c : Chunk) (id : Nat) :
    (ids.foldl (item s) c).tags id =
      if id ∈ ids ∧ ValidV1 s id ∧ c.tags id = none then some v2VersionTag else c.tags id := by
  induction ids generalizing c with
  | nil => simp
  | cons x ids ih =>
    rw [List.foldl_cons, ih, item_tags]
    by_cases hid : id = x
    · subst hid
      by_cases hvalid : ValidV1 s id <;> by_cases htag : c.tags id = none <;> simp [hvalid, htag]
    · simp [hid]

/-- **The loop counts the invalid items.** -/
theorem foldl_failed (s : State) (ids : List Nat) (c : Chunk) :
    (ids.foldl (item s) c).failed = c.failed + ids.countP fun id => ¬ ValidV1 s id := by
  induction ids generalizing c with
  | nil => simp
  | cons x ids ih =>
    rw [List.foldl_cons, ih, item_failed, List.countP_cons]
    by_cases hvalid : ValidV1 s x <;> simp [hvalid, Nat.add_assoc, Nat.add_comm]

end Chunk

/-! ## Jobs -/

/-- **The job `start_job` leaves under an id**: the one there is, or a new one. -/
inductive MigrationJob.Started (id totalItems : Nat) : Option MigrationJob → MigrationJob → Prop
  | found (job : MigrationJob) : Started id totalItems (some job) job
  | made {job : MigrationJob} (hid : job.id = id) (hcursor : job.cursor = 1)
      (htotal : job.totalItems = totalItems)
      (hstatus : job.status = if totalItems = 0 then .completed else .inProgress) :
      Started id totalItems none job

theorem Jobs.startJob_started (env : Env) (jobs : Jobs) (id kind totalItems : Nat) :
    ∃ job, (jobs.startJob env id kind totalItems).1 = jobs.set id job ∧
      MigrationJob.Started id totalItems (jobs id) job := by
  unfold startJob
  cases hjob : jobs id with
  | some job => exact ⟨job, (Function.update_eq_self_iff.mpr hjob.symm).symm, .found job⟩
  | none => exact ⟨_, rfl, .made rfl rfl rfl rfl⟩

theorem MigrationJob.status_of_ne_completed (job : MigrationJob) (h : job.status ≠ .completed) :
    job.status = .inProgress := by
  cases hstatus : job.status with
  | inProgress => rfl
  | completed => exact absurd hstatus h

/-- A job under its own id, whose status says whether the cursor is past the last item. -/
structure MigrationJob.Sound (job : MigrationJob) (id : Nat) : Prop where
  id_eq : job.id = id
  cursor_pos : 1 ≤ job.cursor
  completed_iff : job.status = .completed ↔ job.totalItems < job.cursor

theorem MigrationJob.Sound.advanced {job : MigrationJob} {id : Nat} (h : job.Sound id)
    (hprogress : job.status ≠ .completed) (env : Env) (examined migrated skipped : Nat) :
    (job.advanced env examined migrated skipped).Sound id where
  id_eq := h.id_eq
  cursor_pos := Nat.le_add_right_of_le h.cursor_pos
  completed_iff := by
    simp only [MigrationJob.advanced]
    split <;> simp [*]

/-- The jobs are sound. -/
def Jobs.Sound (jobs : Jobs) : Prop := ∀ id job, jobs id = some job → job.Sound id

theorem Jobs.Sound.set {jobs : Jobs} (h : jobs.Sound) {id : Nat} {job : MigrationJob}
    (hjob : job.Sound id) : Jobs.Sound (jobs.set id job) := by
  intro id' job' hjob'
  rcases Store.set_eq_some.mp hjob' with ⟨rfl, rfl⟩ | ⟨-, hjob'⟩
  · exact hjob
  · exact h id' job' hjob'

theorem Jobs.Sound.started {jobs : Jobs} (h : jobs.Sound) {id totalItems : Nat} {job : MigrationJob}
    (hjob : MigrationJob.Started id totalItems (jobs id) job) : Jobs.Sound (jobs.set id job) := by
  generalize hold : jobs id = old at hjob
  cases hjob with
  | found => exact h.set (h id job hold)
  | made hid hcursor htotal hstatus =>
    refine h.set ⟨hid, hcursor.ge, ?_⟩
    rw [hstatus, htotal, hcursor]
    split <;> simp <;> omega

namespace Migrations

variable {env : Env} {s : State} {m : Migrations} {job : MigrationJob} {size : Nat}
  {op : MigrationOp}

theorem mem_chunkIds {id : Nat} : id ∈ job.chunkIds size ↔
    (job.cursor ≤ id ∧ id < job.cursor + size) ∧ id ≤ job.totalItems := by
  unfold MigrationJob.chunkIds
  generalize job.cursor = cursor
  induction size generalizing cursor with
  | zero => simp
  | succ size ih =>
    rw [List.range'_succ, List.takeWhile_cons]
    by_cases hle : cursor ≤ job.totalItems
    · simp only [hle, decide_true, if_true, List.mem_cons, ih]
      omega
    · simp only [hle, decide_false, Bool.false_eq_true, if_false, List.not_mem_nil, false_iff]
      omega

/-! ## One entry point -/

/-- What the migration from V1 to V2 is about: its job, the tags, the number of items of its
checkpoint, and the schema. -/
structure View where
  job : Option MigrationJob
  tag : Store Nat String
  items : Option Nat
  version : SchemaVersion

def view (m : Migrations) : View where
  job := m.job v2JobId
  tag := m.versionTag
  items := m.checkpoint.map (·.totalItems)
  version := m.getSchemaVersion

/-- What a chunk leaves of it. -/
def chunked (env : Env) (s : State) (m : Migrations) (job : MigrationJob) (size : Nat) : View :=
  { m.view with
    job := some (job.advanced env size (m.chunk s job size).migrated 0)
    tag := (m.chunk s job size).tags
    version :=
      if job.totalItems < job.cursor + size ∧ (m.chunk s job size).failed = 0 then .v2 else .v1 }

/-- **What an entry point does to the migration from V1 to V2.** -/
inductive Step (env : Env) (s : State) (m : Migrations) : MigrationOp → View → Prop
  /-- Anything but a chunk may move nothing: the schema stays or goes back to V1. -/
  | kept {op : MigrationOp} {version : SchemaVersion}
      (hop : ∀ admin size, op ≠ .migrateChunkV1ToV2 admin size)
      (hversion : version = m.getSchemaVersion ∨ version = .v1) :
      Step env s m op { m.view with version := version }
  | started {admin : Address} {job : MigrationJob}
      (hjob : MigrationJob.Started v2JobId s.registry.credentialCount m.view.job job) :
      Step env s m (.startMigrationV1ToV2 admin)
        { m.view with
          job := some job
          items := some s.registry.credentialCount
          version := if s.registry.credentialCount = 0 then .v2 else .v1 }
  | chunked {admin : Address} {chunkSize : Nat} {job : MigrationJob} (hjob : m.view.job = some job)
      (hprogress : job.status ≠ .completed) (hsome : m.view.items ≠ none) :
      Step env s m (.migrateChunkV1ToV2 admin chunkSize)
        (m.chunked env s job (clampChunkSize chunkSize))
  | metadataStarted {admin : Address} {job : MigrationJob}
      (hjob : MigrationJob.Started v2JobId s.registry.credentialCount m.view.job job) :
      Step env s m (.startMetadataMigration admin v2JobId) { m.view with job := some job }
  | examined {admin : Address} {chunkSize examined migrated skipped : Nat} {job : MigrationJob}
      (hjob : m.view.job = some job) (hprogress : job.status ≠ .completed) :
      Step env s m (.migrateNextChunk admin v2JobId chunkSize)
        { m.view with job := some (job.advanced env examined migrated skipped) }

theorem Step.refl (hop : ∀ admin size, op ≠ .migrateChunkV1ToV2 admin size) :
    Step env s m op m.view :=
  .kept hop (.inl rfl)

theorem restatus_step {admin : Address} {statuses : List MigrationStatus}
    {status : MigrationStatus} {schemaVersion : Option SchemaVersion}
    (hversion : schemaVersion = m.schemaVersion ∨ schemaVersion = some .v1)
    (hop : ∀ admin size, op ≠ .migrateChunkV1ToV2 admin size) (hsound : m.job.Sound) :
    Ensures (m.restatus env s admin statuses status schemaVersion) fun m' =>
      m'.job.Sound ∧ Step env s m op m'.view := by
  simp only [restatus, ensures_steps]
  intro _ _
  cases hcheckpoint : m.checkpoint with
  | none => exact ensures_pure.mpr ⟨hsound, .refl hop⟩
  | some checkpoint =>
    simp only [ensures_ite, ensures_pure]
    refine ⟨fun _ => ⟨hsound, ?_⟩, fun _ => ⟨hsound, .refl hop⟩⟩
    have hitems : m.view.items = some checkpoint.totalItems := congrArg (Option.map _) hcheckpoint
    rw [view, Option.map_some, ← hitems]
    exact .kept hop (hversion.imp (congrArg (Option.getD · _)) (congrArg (Option.getD · _)))

theorem putChunk_view {checkpoint : MigrationCheckpoint}
    (hcheckpoint : m.checkpoint = some checkpoint) (hv1 : m.getSchemaVersion = .v1)
    (hprogress : job.status ≠ .completed) (hid : job.id = v2JobId) :
    (m.putChunk (m.chunk s job size)
      (m.job.set job.id (job.advanced env size (m.chunk s job size).migrated 0))
      (job.advanced env size (m.chunk s job size).migrated 0)
      (chunkCheckpoint env checkpoint (m.chunk s job size)
        (job.advanced env size (m.chunk s job size).migrated 0))).view =
      m.chunked env s job size := by
  have hversion : (m.schemaVersion).getD .v1 = .v1 := hv1
  by_cases hlast : job.totalItems < job.cursor + size <;>
    by_cases hfailed : (m.chunk s job size).failed = 0 <;>
      simp [view, chunked, putChunk, chunkCheckpoint, getSchemaVersion, MigrationJob.advanced, hid,
        hcheckpoint, hlast, hfailed, hprogress, hversion, Nat.pos_iff_ne_zero]

end Migrations

open Migrations

theorem MigrationOp.step (env : Env) (s : State) {m : Migrations} (hsound : m.job.Sound)
    (op : MigrationOp) :
    Ensures (op.apply env s m) fun r => r.2.job.Sound ∧ Step env s m op r.2.view := by
  cases op with
  | initMigrationV2 admin =>
    simp only [apply, Migrations.initMigrationV2, ensures_steps]
    exact fun _ => ⟨hsound, .kept (by simp) (.inr rfl)⟩
  | startMigrationV1ToV2 admin =>
    simp only [apply, Migrations.startMigrationV1ToV2, ensures_steps, require_eq_ok]
    intro _ hv1 _
    obtain ⟨job, hset, hjob⟩ := m.job.startJob_started env v2JobId migrationKindMetadataSchema
      s.registry.credentialCount
    rw [hset]
    refine ⟨hsound.started hjob, ?_⟩
    have hversion : (if s.registry.credentialCount = 0 then some SchemaVersion.v2
        else m.schemaVersion).getD .v1 = if s.registry.credentialCount = 0 then .v2 else .v1 := by
      split
      · rfl
      · exact hv1
    simp only [view, Store.set_self, getSchemaVersion, hversion]
    exact .started hjob
  | migrateChunkV1ToV2 admin chunkSize =>
    simp only [apply, Migrations.migrateChunkV1ToV2, Jobs.advance, ensures_steps, require_eq_ok]
    intro _ hv1 _ job hjob hprogress checkpoint hcheckpoint _
    have hid := (hsound _ _ hjob).id_eq
    have hjobs := hsound.set ((hsound _ _ hjob).advanced hprogress env (clampChunkSize chunkSize)
      (m.chunk s job (clampChunkSize chunkSize)).migrated 0)
    refine ⟨hid.symm ▸ hjobs, ?_⟩
    rw [show (job.advanced env _ _ _).id = job.id from rfl,
      putChunk_view hcheckpoint hv1 hprogress hid]
    exact .chunked hjob hprogress (by simp [view, hcheckpoint])
  | pauseMigration admin => exact ensures_map.mpr (restatus_step (.inl rfl) (by simp) hsound)
  | resumeMigration admin => exact ensures_map.mpr (restatus_step (.inl rfl) (by simp) hsound)
  | rollbackMigration admin => exact ensures_map.mpr (restatus_step (.inr rfl) (by simp) hsound)
  | startMetadataMigration admin toVersion =>
    simp only [apply, Migrations.startMetadataMigration, ensures_steps]
    intro _ _ _ _ _ _ _
    obtain ⟨job, hset, hjob⟩ := m.job.startJob_started env toVersion migrationKindMetadataSchema
      s.registry.credentialCount
    rw [hset]
    refine ⟨hsound.started hjob, ?_⟩
    by_cases hid : toVersion = v2JobId
    · subst hid
      exact .metadataStarted hjob
    · simp only [view, Store.set_of_ne (Ne.symm hid)]
      exact .refl (by simp)
  | migrateNextChunk admin migrationId chunkSize =>
    simp only [apply, Migrations.migrateNextChunk, nextChunk, Jobs.advance, ensures_steps,
      ensures_ite]
    intro _ control _ _ job hjob
    refine ⟨fun _ => ⟨hsound, .refl (by simp)⟩, fun hprogress _ _ => ?_⟩
    rw [show (job.advanced env _ _ _).id = migrationId from (hsound _ _ hjob).id_eq]
    refine ⟨hsound.set ((hsound _ _ hjob).advanced hprogress env _ _ _), ?_⟩
    by_cases hid : migrationId = v2JobId
    · subst hid
      exact .examined hjob hprogress
    · simp only [view, Store.set_of_ne (Ne.symm hid)]
      exact .refl (by simp)
  | metadata left => exact ensures_pure.mpr ⟨hsound, .refl (by simp)⟩

/-! ## What holds of the storage -/

namespace Migrations

variable {env : Env} {s : State} {m : Migrations} {op : MigrationOp} {v : View}
  {job : MigrationJob} {size : Nat}

/-- A credential carries the V2 version tag. -/
def Tagged (m : Migrations) (id : Nat) : Prop := m.versionTag id = some v2VersionTag
  deriving Decidable

/-- What carries a tag, the V2 tag, is behind the cursor of the job. -/
def View.Behind (v : View) : Prop :=
  ∀ id tag, v.tag id = some tag → tag = v2VersionTag ∧
    ∃ job, v.job = some job ∧ 1 ≤ id ∧ id < job.cursor

/-- **The storage of the migration is sound**: its jobs are, and its tags. -/
structure Sound (m : Migrations) : Prop where
  jobs : m.job.Sound
  tagged : m.view.Behind

theorem Sound.empty : Sound .empty := ⟨fun _ _ h => (nomatch h), fun _ _ h => (nomatch h)⟩

theorem Sound.started (h : m.Sound) {totalItems : Nat}
    (hjob : MigrationJob.Started v2JobId totalItems m.view.job job) {id : Nat} {tag : String}
    (htag : m.versionTag id = some tag) : tag = v2VersionTag ∧ 1 ≤ id ∧ id < job.cursor := by
  obtain ⟨hv2, job₀, hjob₀, hbehind⟩ := h.tagged id tag htag
  rw [hjob₀] at hjob
  cases hjob
  exact ⟨hv2, hbehind⟩

/-- The tags a chunk leaves. -/
theorem chunked_tag {id : Nat} : (m.chunked env s job size).tag id =
    if id ∈ job.chunkIds size ∧ ValidV1 s id ∧ m.versionTag id = none then some v2VersionTag
    else m.versionTag id :=
  Chunk.foldl_tags s _ _ id

theorem Step.behind (h : Step env s m op v) (hsound : m.Sound) : v.Behind := by
  intro id tag htag
  cases h with
  | kept => exact hsound.tagged id tag htag
  | started hjob | metadataStarted hjob =>
    exact (hsound.started hjob htag).imp_right fun h => ⟨_, rfl, h⟩
  | @examined _ _ examined _ _ job hjob =>
    obtain ⟨hv2, job₀, hjob₀, hpos, hlt⟩ := hsound.tagged id tag htag
    cases hjob.symm.trans hjob₀
    exact ⟨hv2, _, rfl, hpos, Nat.lt_add_right examined hlt⟩
  | @chunked _ chunkSize job hjob =>
    rw [chunked_tag] at htag
    split at htag
    next hnew =>
      obtain ⟨⟨hlow, hhigh⟩, -⟩ := mem_chunkIds.mp hnew.1
      exact ⟨(Option.some.inj htag).symm, _, rfl, (hsound.jobs _ _ hjob).cursor_pos.trans hlow,
        hhigh⟩
    next =>
      obtain ⟨hv2, job₀, hjob₀, hpos, hlt⟩ := hsound.tagged id tag htag
      cases hjob.symm.trans hjob₀
      exact ⟨hv2, _, rfl, hpos, Nat.lt_add_right (clampChunkSize chunkSize) hlt⟩

/-! ## What has been missed -/

/-- An item is behind the cursor and has no tag. -/
def View.Missed (v : View) : Prop :=
  ∃ job, v.job = some job ∧ ∃ id, 1 ≤ id ∧ id < job.cursor ∧ id ≤ job.totalItems ∧ v.tag id = none

/-- **A chunk misses what fails in it, and leaves missed what was.** -/
theorem Sound.missed_chunked (h : m.Sound) (hjob : m.job v2JobId = some job) :
    (m.chunked env s job size).Missed ↔ m.view.Missed ∨ 0 < (m.chunk s job size).failed := by
  rw [chunk, Chunk.foldl_failed, Nat.zero_add, List.countP_pos_iff]
  constructor
  · rintro ⟨_, ⟨⟩, id, hpos, hlt, hle, hnone⟩
    rw [chunked_tag] at hnone
    split at hnone
    next => cases hnone
    next hold =>
      by_cases hbehind : id < job.cursor
      · exact .inl ⟨job, hjob, id, hpos, hbehind, hle, hnone⟩
      · have hmem : id ∈ job.chunkIds size :=
          mem_chunkIds.mpr ⟨⟨Nat.le_of_not_lt hbehind, hlt⟩, hle⟩
        exact .inr ⟨id, hmem, decide_eq_true fun hvalid => hold ⟨hmem, hvalid, hnone⟩⟩
  · rintro (⟨job₀, hjob₀, id, hpos, hlt, hle, hnone⟩ | ⟨id, hmem, hinvalid⟩)
    · cases hjob.symm.trans hjob₀
      refine ⟨_, rfl, id, hpos, Nat.lt_add_right size hlt, hle, ?_⟩
      rw [chunked_tag, if_neg]
      · exact hnone
      · exact fun hnew => absurd (mem_chunkIds.mp hnew.1).1.1 (Nat.not_le_of_lt hlt)
    · obtain ⟨⟨hlow, hhigh⟩, hle⟩ := mem_chunkIds.mp hmem
      refine ⟨_, rfl, id, (h.jobs _ _ hjob).cursor_pos.trans hlow, hhigh, hle, ?_⟩
      rw [chunked_tag, if_neg fun hnew => of_decide_eq_true hinvalid hnew.2.1]
      -- it had no tag before: what has one is behind the cursor
      refine Option.eq_none_iff_forall_ne_some.mpr fun tag htagged => ?_
      obtain ⟨-, job₀, hjob₀, -, hbehind⟩ := h.tagged id tag htagged
      cases hjob.symm.trans hjob₀
      omega

/-- **What has been missed is never made up for**: chunks only look ahead. -/
theorem Step.missed (h : Step env s m op v) (hsound : m.Sound) (hmissed : m.view.Missed) :
    v.Missed := by
  have hmissed' := hmissed
  obtain ⟨job₀, hjob₀, id, hpos, hlt, hle, hnone⟩ := hmissed
  cases h with
  | kept => exact hmissed'
  | started hjob | metadataStarted hjob =>
    rw [hjob₀] at hjob
    cases hjob
    exact ⟨job₀, rfl, id, hpos, hlt, hle, hnone⟩
  | @examined _ _ examined _ _ job hjob =>
    cases hjob.symm.trans hjob₀
    exact ⟨_, rfl, id, hpos, Nat.lt_add_right examined hlt, hle, hnone⟩
  | chunked hjob => exact (hsound.missed_chunked hjob).mpr (.inl hmissed')

/-! ## Careful calls -/

/-- Nothing has been missed so far. -/
def CaughtUp (m : Migrations) : Prop :=
  ∀ job ∈ m.job v2JobId, ∀ id < job.cursor, 1 ≤ id → id ≤ job.totalItems → m.Tagged id

instance (m : Migrations) : Decidable m.CaughtUp :=
  inferInstanceAs (Decidable (∀ job ∈ m.job v2JobId, ∀ id < job.cursor, _))

theorem CaughtUp.not_missed (h : m.CaughtUp) : ¬ m.view.Missed := by
  rintro ⟨job, hjob, id, hpos, hlt, hle, hnone⟩
  exact absurd (hnone.symm.trans (h job hjob id hlt hpos hle)) (by simp)

/-- **When a start is in place**: there is no job yet, or it is in progress for as many credentials
as there are, and nothing of it has been missed. -/
def Startable (m : Migrations) (credentialCount : Nat) : Prop :=
  credentialCount + maxChunkSize ≤ u64Max ∧ m.CaughtUp ∧
    ∀ job ∈ m.job v2JobId, job.status = .inProgress ∧ job.totalItems = credentialCount
  deriving Decidable

/-- The checkpoint says that the migration has been stopped. -/
def Stopped (m : Migrations) : Prop :=
  ∃ checkpoint ∈ m.checkpoint, checkpoint.status = .paused ∨ checkpoint.status = .failed
  deriving Decidable

/-- **When a chunk is in place**, if it does anything: the migration has not been stopped, and the
last chunk follows chunks that have missed nothing. -/
def Advanceable (m : Migrations) (chunkSize : Nat) : Prop :=
  ∀ job ∈ m.job v2JobId, job.status = .inProgress → ¬ m.Stopped ∧
    (job.totalItems < job.cursor + clampChunkSize chunkSize → m.CaughtUp)
  deriving Decidable

/-- What an entry point must keep to. -/
def Careful (s : State) (m : Migrations) : MigrationOp → Prop
  | .startMigrationV1ToV2 _ => m.Startable s.registry.credentialCount
  | .migrateChunkV1ToV2 _ chunkSize => m.Advanceable chunkSize
  | .migrateNextChunk _ migrationId _ =>
    migrationId = v2JobId → ∀ job ∈ m.job v2JobId, job.status = .inProgress → ¬ m.Stopped
  | _ => True

instance (s : State) (m : Migrations) (op : MigrationOp) : Decidable (m.Careful s op) := by
  cases op <;> unfold Careful <;> infer_instance

/-- **What holds of the storage in runs of careful calls**: the checkpoint is for as many items as
the job, and where the schema is V2, the job is complete and has missed nothing. -/
structure View.Whole (v : View) : Prop where
  agrees : ∀ items, v.items = some items → ∃ job, v.job = some job ∧ job.totalItems = items
  complete : v.version = .v2 → v.items ≠ none ∧ ¬ v.Missed ∧
    ∃ job, v.job = some job ∧ job.status = .completed

theorem Step.whole (h : Step env s m op v) (hsound : m.Sound) (hwhole : m.view.Whole)
    (hcareful : m.Careful s op) : v.Whole := by
  cases h with
  | kept _ hversion =>
    refine ⟨hwhole.agrees, fun hv2 => hwhole.complete ?_⟩
    exact hversion.elim (fun hsame => hsame.symm.trans hv2) fun hv1 =>
      absurd (hv1.symm.trans hv2) (by decide)
  | @started _ job hjob =>
    generalize hold : m.view.job = old at hjob
    cases hjob with
    | found =>
      obtain ⟨hprogress, htotal⟩ := hcareful.2.2 job hold
      refine ⟨?_, fun hv2 => ?_⟩
      · rintro _ ⟨⟩
        exact ⟨job, rfl, htotal⟩
      · -- a job in progress has items
        have hjob := hsound.jobs _ _ hold
        have hle := mt hjob.completed_iff.mpr (by simp [hprogress])
        have hpos := hjob.cursor_pos
        split at hv2
        next => omega
        next => cases hv2
    | made _ hcursor htotal hstatus =>
      refine ⟨?_, fun hv2 => ⟨by simp, ?_, job, rfl, ?_⟩⟩
      · rintro _ ⟨⟩
        exact ⟨job, rfl, htotal⟩
      · rintro ⟨_, ⟨⟩, id, hpos, hlt, -⟩
        omega
      · split at hv2
        next hzero => rw [hstatus, if_pos hzero]
        next => cases hv2
  | @chunked _ chunkSize job hjob hprogress hsome =>
    refine ⟨fun items hitems => ?_, fun hv2 => ?_⟩
    · obtain ⟨job₀, hjob₀, htotal⟩ := hwhole.agrees items hitems
      cases hjob.symm.trans hjob₀
      exact ⟨_, rfl, htotal⟩
    · simp only [Migrations.chunked] at hv2
      split at hv2
      next hlast =>
        have hcaught := (hcareful job hjob (job.status_of_ne_completed hprogress)).2 hlast.1
        refine ⟨hsome, fun hmissed => ?_, _, rfl, if_pos hlast.1⟩
        rcases (hsound.missed_chunked hjob).mp hmissed with hbefore | hfailed
        · exact hcaught.not_missed hbefore
        · omega
      next => cases hv2
  | @metadataStarted _ job hjob =>
    generalize hold : m.view.job = old at hjob
    cases hjob with
    | found =>
      rw [← hold]
      exact hwhole
    | made =>
      refine ⟨fun items hitems => ?_, fun hv2 => ?_⟩
      · obtain ⟨_, hjob, -⟩ := hwhole.agrees items hitems
        cases hold.symm.trans hjob
      · obtain ⟨-, -, _, hjob, -⟩ := hwhole.complete hv2
        cases hold.symm.trans hjob
  | examined hjob hprogress =>
    refine ⟨fun items hitems => ?_, fun hv2 => ?_⟩
    · obtain ⟨job₀, hjob₀, htotal⟩ := hwhole.agrees items hitems
      cases hjob.symm.trans hjob₀
      exact ⟨_, rfl, htotal⟩
    · obtain ⟨-, -, job₀, hjob₀, hcompleted⟩ := hwhole.complete hv2
      cases hjob.symm.trans hjob₀
      exact absurd hcompleted hprogress

end Migrations

/-! ## Whole runs -/

namespace MigratingWorld

variable {host : Host} {w : MigratingWorld} {call : MigratingCall} {calls : List MigratingCall}

/-- A call keeps to what it must. -/
def Careful (w : MigratingWorld) (call : MigratingCall) : Prop :=
  match call.op with
  | .contract _ => True
  | .migration op => w.migrations.Careful w.world.state op

instance (w : MigratingWorld) (call : MigratingCall) : Decidable (w.Careful call) := by
  unfold Careful
  cases call.op <;> infer_instance

/-- **A call leaves the migrations or does one step of theirs.** -/
theorem migrations_step (host : Host) (w : MigratingWorld) (call : MigratingCall)
    (hsound : w.migrations.Sound) :
    ((∀ op, call.op = .migration op → ¬ w.Completes host call) ∧
      (w.next host call).migrations = w.migrations) ∨
    ∃ op, call.op = .migration op ∧ (w.next host call).migrations.job.Sound ∧
      Step (w.env host call) w.world.state w.migrations op (w.next host call).migrations.view := by
  refine (w.next_migrations host call).imp_right ?_
  rintro ⟨op, hop, -, s, hs⟩
  exact ⟨op, hop, op.step _ _ hsound.jobs _ hs⟩

theorem sound_next (host : Host) (w : MigratingWorld) (call : MigratingCall)
    (h : w.migrations.Sound) : (w.next host call).migrations.Sound := by
  rcases w.migrations_step host call h with ⟨-, hsame⟩ | ⟨op, -, hjobs, hstep⟩
  · exact hsame ▸ h
  · exact ⟨hjobs, hstep.behind h⟩

theorem sound_after (host : Host) (calls : List MigratingCall) :
    (after host calls).migrations.Sound :=
  Machine.run_invariant (I := fun w : MigratingWorld => w.migrations.Sound) (sound_next host)
    .empty calls

theorem whole_next (host : Host) (w : MigratingWorld) (call : MigratingCall)
    (h : w.migrations.Sound ∧ w.migrations.view.Whole) (hcareful : w.Careful call) :
    (w.next host call).migrations.Sound ∧ (w.next host call).migrations.view.Whole := by
  refine ⟨sound_next host w call h.1, ?_⟩
  rcases w.migrations_step host call h.1 with ⟨-, hsame⟩ | ⟨op, hop, -, hstep⟩
  · exact hsame ▸ h.2
  · rw [Careful, hop] at hcareful
    exact hstep.whole h.1 h.2 hcareful

/-- A chunk completes in which an item fails. -/
def Fails (host : Host) (w : MigratingWorld) (call : MigratingCall) : Prop :=
  w.Completes host call ∧ ∃ admin chunkSize,
    call.op = .migration (.migrateChunkV1ToV2 admin chunkSize) ∧
    ∃ job, w.migrations.job v2JobId = some job ∧
      0 < (w.migrations.chunk w.world.state job (clampChunkSize chunkSize)).failed

/-- **An item that fails in any chunk stays missed.** -/
theorem missed_of_fails (h : Machine.Occurs (next host) (Fails host) deployed calls) :
    (after host calls).migrations.view.Missed := by
  refine Machine.flag_of_occurs (I := fun w : MigratingWorld => w.migrations.Sound)
    (P := fun w : MigratingWorld => w.migrations.view.Missed) (sound_next host) ?_ ?_ .empty h
  · rintro w call hsound ⟨hcompletes, admin, chunkSize, hop, job, hjob, hfailed⟩
    rcases w.migrations_step host call hsound with ⟨hnone, -⟩ | ⟨op, hop', -, hstep⟩
    · exact absurd hcompletes (hnone _ hop)
    · cases hop.symm.trans hop'
      generalize (w.next host call).migrations.view = v at hstep ⊢
      cases hstep with
      | kept hop => exact absurd rfl (hop _ _)
      | chunked hjob₀ =>
        cases hjob.symm.trans hjob₀
        exact (hsound.missed_chunked hjob).mpr (.inr hfailed)
  · intro w call hsound hmissed
    rcases w.migrations_step host call hsound with ⟨-, hsame⟩ | ⟨op, -, -, hstep⟩
    · exact hsame ▸ hmissed
    · exact hstep.missed hsound hmissed

end MigratingWorld

end QuorumProof
