import QuorumProof.Contract.Entry

/-!
# Contract/Migration — chunked jobs, and the move from schema V1 to V2

`migration.rs` keeps a job per id, whose cursor says which item is next.  The migration from V1 to
V2 drives job 2 and keeps a checkpoint of its own beside it; `start_metadata_migration` and
`migrate_next_chunk` drive any job, 2 among them.  Pausing, resuming and rolling back write the
checkpoint only.

The storage that `migrate_next_chunk` works on is also written by entry points that have nothing to
do with migrations; they are one operation here, which leaves that storage as anything.

Source: `migration.rs`, `migration_v2.rs`, and the entry points of both in `lib.rs`.
-/

namespace QuorumProof

open Guarded

/-! ## Jobs -/

/-- `migration::MigrationStatus`. -/
inductive JobStatus
  | inProgress | completed
  deriving DecidableEq, Repr

structure MigrationJob where
  id : Nat
  kind : Nat
  cursor : Nat
  totalItems : Nat
  migratedCount : Nat
  skippedCount : Nat
  status : JobStatus
  startedAt : Nat
  updatedAt : Nat
  completedAt : Option Nat
  deriving DecidableEq, Repr

def maxChunkSize : Nat := 200

def clampChunkSize (requested : Nat) : Nat :=
  if requested = 0 ∨ requested > maxChunkSize then maxChunkSize else requested

/-- What `advance` makes of a job. -/
def MigrationJob.advanced (env : Env) (job : MigrationJob)
    (itemsExamined migrated skipped : Nat) : MigrationJob :=
  let done := job.totalItems < job.cursor + itemsExamined
  { job with
    cursor := job.cursor + itemsExamined
    migratedCount := job.migratedCount + migrated
    skippedCount := job.skippedCount + skipped
    updatedAt := env.now
    status := if done then .completed else job.status
    completedAt := if done then some env.now else job.completedAt }

/-- The jobs in storage. -/
abbrev Jobs := Store Nat MigrationJob

namespace Jobs

/-- `start_job`: the job there is, or a new one. -/
def startJob (env : Env) (jobs : Jobs) (id kind totalItems : Nat) : Jobs × MigrationJob :=
  match jobs id with
  | some existing => (jobs, existing)
  | none =>
    let job : MigrationJob :=
      { id := id, kind := kind, cursor := 1, totalItems := totalItems, migratedCount := 0
        skippedCount := 0, status := if totalItems = 0 then .completed else .inProgress
        startedAt := env.now, updatedAt := env.now
        completedAt := if totalItems = 0 then some env.now else none }
    (jobs.set id job, job)

/-- `advance`.  The counts stay below the cursor, so only its addition can overflow. -/
def advance (env : Env) (jobs : Jobs) (job : MigrationJob)
    (itemsExamined migrated skipped : Nat) : Except Fault (Jobs × MigrationJob) := do
  require (job.cursor + itemsExamined ≤ u64Max) .overflow
  let job := job.advanced env itemsExamined migrated skipped
  return (jobs.set job.id job, job)

end Jobs

/-! ## Storage -/

inductive SchemaVersion
  | v1 | v2
  deriving DecidableEq, Repr

/-- `migration_v2::MigrationStatus`. -/
inductive MigrationStatus
  | notStarted | inProgress | paused | completed | failed
  deriving DecidableEq, Repr

structure MigrationCheckpoint where
  fromVersion : SchemaVersion
  toVersion : SchemaVersion
  totalItems : Nat
  migratedItems : Nat
  skippedItems : Nat
  failedItems : Nat
  startedAt : Nat
  lastUpdatedAt : Nat
  completedAt : Option Nat
  status : MigrationStatus
  deriving DecidableEq, Repr

inductive CompressionType
  | none | gzip
  deriving DecidableEq, Repr

structure CredentialMetadata where
  data : Bytes
  compression : CompressionType
  deriving DecidableEq, Repr

/-- The storage of the metadata schemas: which are registered, which is active, which one a
credential's metadata conforms to, and the metadata. -/
structure MetadataBook where
  hasSchema : Nat → Bool
  activeVersion : Nat
  credentialSchema : Store Nat Nat
  stored : Store Nat CredentialMetadata

/-- The storage of both migrations. -/
structure Migrations where
  job : Jobs
  schemaVersion : Option SchemaVersion
  checkpoint : Option MigrationCheckpoint
  validationErrors : Store Nat (List (Nat × String))
  versionTag : Store Nat String
  metadata : MetadataBook

def v2VersionTag : String := "v2"

/-- The job of the migration from V1 to V2. -/
def v2JobId : Nat := 2

def migrationKindMetadataSchema : Nat := 1

/-! ## One item -/

/-- What `transform_credential_v1_to_v2` asks of a credential. -/
def checkCredentialV1 (s : State) (credentialId : Nat) : Except String Unit := do
  let credential ← expect (s.registry.credentials credentialId) "credential not found"
  require (credential.id = credentialId) "credential id mismatch"
  require (credential.credentialType ≠ 0) "credential_type must be greater than 0"
  require (credential.metadataHash ≠ []) "metadata_hash is empty"

def transformCredentialV1ToV2 (s : State) (tags : Store Nat String) (credentialId : Nat) :
    Except String (Store Nat String) := do
  checkCredentialV1 s credentialId
  if tags credentialId ≠ none then return tags
  return tags.set credentialId v2VersionTag

/-- What a chunk has done so far. -/
structure Chunk where
  tags : Store Nat String
  migrated : Nat
  failed : Nat
  errors : List (Nat × String)

/-- One turn of the loop of `migrate_chunk_v1_to_v2`. -/
def Chunk.item (s : State) (chunk : Chunk) (credentialId : Nat) : Chunk :=
  match transformCredentialV1ToV2 s chunk.tags credentialId with
  | .ok tags => { chunk with tags := tags, migrated := chunk.migrated + 1 }
  | .error error =>
    { chunk with failed := chunk.failed + 1, errors := chunk.errors ++ [(credentialId, error)] }

/-- The ids the loop goes through: from the cursor on, up to the first beyond the last item. -/
def MigrationJob.chunkIds (job : MigrationJob) (size : Nat) : List Nat :=
  (List.range' job.cursor size).takeWhile (· ≤ job.totalItems)

/-- `apply_metadata_migration`: every step from a version to the next leaves the bytes. -/
def applyMetadataMigration (_fromVersion _toVersion : Nat) (metadata : Bytes) : Bytes := metadata

/-- One turn of the loop of `migrate_next_chunk`, with the numbers of migrated and of skipped
items. -/
def MetadataBook.item (s : State) (toVersion : Nat) (acc : MetadataBook × Nat × Nat) (id : Nat) :
    MetadataBook × Nat × Nat :=
  let (book, migrated, skipped) := acc
  let currentSchema := (book.credentialSchema id).getD 0
  if s.registry.credentials id = none then (book, migrated, skipped + 1)
  else if currentSchema ≥ toVersion then (book, migrated, skipped + 1)
  else
    let credentialSchema := book.credentialSchema.set id toVersion
    match book.stored id with
    | some metadata =>
      let transformed := applyMetadataMigration currentSchema toVersion metadata.data
      ({ book with
          credentialSchema := credentialSchema
          stored := book.stored.set id { metadata with data := transformed } },
        migrated + 1, skipped)
    | none => ({ book with credentialSchema := credentialSchema }, migrated, skipped + 1)

/-! ## Entry points -/

namespace Migrations

variable (env : Env) (s : State) (m : Migrations)

def empty : Migrations :=
  { job := fun _ => none, schemaVersion := none, checkpoint := none
    validationErrors := fun _ => none, versionTag := fun _ => none
    metadata :=
      { hasSchema := fun _ => false, activeVersion := 0, credentialSchema := fun _ => none
        stored := fun _ => none } }

def getSchemaVersion : SchemaVersion := m.schemaVersion.getD .v1

variable (admin : Address)

/-- `init_migration_v2`.  Nobody but the caller is asked. -/
def initMigrationV2 : Except Fault Migrations := do
  requireAuth env admin
  return { m with schemaVersion := some .v1 }

def startMigrationV1ToV2 : Except Fault (Migrations × Nat) := do
  requireAuth env admin
  require (m.getSchemaVersion = .v1) (.panic "migration only supported from V1 to V2")
  s.control.assertAdmin admin
  let totalItems := s.registry.credentialCount
  let (jobs, job) := m.job.startJob env v2JobId migrationKindMetadataSchema totalItems
  let checkpoint : MigrationCheckpoint :=
    { fromVersion := .v1, toVersion := .v2, totalItems := totalItems, migratedItems := 0
      skippedItems := 0, failedItems := 0, startedAt := env.now, lastUpdatedAt := env.now
      completedAt := if totalItems = 0 then some env.now else none
      status := if totalItems = 0 then .completed else .inProgress }
  return ({ m with
    job := jobs
    schemaVersion := if totalItems = 0 then some .v2 else m.schemaVersion
    checkpoint := some checkpoint }, job.id)

/-- The loop of `migrate_chunk_v1_to_v2`. -/
def chunk (job : MigrationJob) (size : Nat) : Chunk :=
  (job.chunkIds size).foldl (Chunk.item s)
    { tags := m.versionTag, migrated := 0, failed := 0, errors := [] }

/-- The checkpoint a chunk leaves. -/
def chunkCheckpoint (checkpoint : MigrationCheckpoint) (chunk : Chunk) (updated : MigrationJob) :
    MigrationCheckpoint :=
  { checkpoint with
    migratedItems := checkpoint.migratedItems + chunk.migrated
    failedItems := checkpoint.failedItems + chunk.failed
    lastUpdatedAt := env.now
    status :=
      if updated.status = .completed then if chunk.failed > 0 then .failed else .completed
      else checkpoint.status
    completedAt := if updated.status = .completed then some env.now else checkpoint.completedAt }

/-- What a chunk writes. -/
def putChunk (chunk : Chunk) (jobs : Jobs) (updated : MigrationJob)
    (checkpoint : MigrationCheckpoint) : Migrations :=
  { m with
    job := jobs
    schemaVersion :=
      if updated.status = .completed ∧ checkpoint.status = .completed then some .v2
      else m.schemaVersion
    checkpoint := some checkpoint
    validationErrors :=
      if chunk.errors = [] then m.validationErrors
      else m.validationErrors.set updated.id
        ((m.validationErrors updated.id).getD [] ++ chunk.errors)
    versionTag := chunk.tags }

def migrateChunkV1ToV2 (chunkSize : Nat) : Except Fault (Migrations × MigrationCheckpoint) := do
  requireAuth env admin
  require (m.getSchemaVersion = .v1) (.panic "migration already completed or not started")
  s.control.assertAdmin admin
  let job ← expect (m.job v2JobId) (.panic "migration not started")
  require (job.status ≠ .completed) (.panic "migration already completed")
  let checkpoint ← expect m.checkpoint (.panic "migration checkpoint not found")
  let clampedSize := clampChunkSize chunkSize
  let chunk := m.chunk s job clampedSize
  let (jobs, updated) ← m.job.advance env job clampedSize chunk.migrated 0
  let checkpoint := chunkCheckpoint env checkpoint chunk updated
  return (m.putChunk chunk jobs updated checkpoint, checkpoint)

def validateMigrationIntegrity : Bool :=
  m.getSchemaVersion = .v2 &&
    m.checkpoint.any fun checkpoint => checkpoint.status = .completed ∧ checkpoint.failedItems = 0

/-- What pausing, resuming and rolling back share: ask the administrator, and give the checkpoint
another status where its status is one of some. -/
def restatus (statuses : List MigrationStatus) (status : MigrationStatus)
    (schemaVersion : Option SchemaVersion) : Except Fault Migrations := do
  requireAuth env admin
  s.control.assertAdmin admin
  match m.checkpoint with
  | some checkpoint =>
    if checkpoint.status ∈ statuses then
      return { m with
        schemaVersion := schemaVersion
        checkpoint := some { checkpoint with status := status, lastUpdatedAt := env.now } }
    else return m
  | none => return m

def pauseMigration : Except Fault Migrations :=
  m.restatus env s admin [.inProgress] .paused m.schemaVersion

def resumeMigration : Except Fault Migrations :=
  m.restatus env s admin [.paused] .inProgress m.schemaVersion

def rollbackMigration : Except Fault Migrations :=
  m.restatus env s admin [.inProgress, .paused] .failed (some .v1)

def startMetadataMigration (toVersion : Nat) :
    Except Fault (State × Migrations × MigrationJob) := do
  requireAuth env admin
  let control ← s.control.requireNotPaused env
  control.requireAdmin admin
  require (toVersion > 0) (.panic "target version must be >= 1")
  require (m.metadata.hasSchema toVersion = true) (.panic "target schema version not registered")
  require (toVersion ≤ m.metadata.activeVersion)
    (.panic "cannot migrate to a version beyond active")
  let (jobs, job) :=
    m.job.startJob env toVersion migrationKindMetadataSchema s.registry.credentialCount
  return ({ s with control := control }, { m with job := jobs }, job)

/-- The part of `migrate_next_chunk` behind its authorization: a chunk of a job in progress. -/
def nextChunk (job : MigrationJob) (migrationId chunkSize : Nat) :
    Except Fault (Migrations × MigrationJob) := do
  let size := clampChunkSize chunkSize
  require (job.cursor + size ≤ u64Max) .overflow
  let endId := min (job.cursor + size - 1) job.totalItems
  -- `end_id - start_id + 1`, or nothing when the range is empty
  let examined := endId + 1 - job.cursor
  let (metadata, migrated, skipped) :=
    (List.range' job.cursor examined).foldl (MetadataBook.item s migrationId) (m.metadata, 0, 0)
  let (jobs, updated) ← m.job.advance env job examined migrated skipped
  return ({ m with job := jobs, metadata := metadata }, updated)

def migrateNextChunk (migrationId chunkSize : Nat) :
    Except Fault (State × Migrations × MigrationJob) := do
  requireAuth env admin
  let control ← s.control.requireNotPaused env
  control.requireAdmin admin
  let job ← expect (m.job migrationId) (.contract .migrationJobNotFound)
  if job.status = .completed then return ({ s with control := control }, m, job)
  let (m, updated) ← m.nextChunk env s job migrationId chunkSize
  return ({ s with control := control }, m, updated)

end Migrations

/-- The entry points of both migrations, and those that write the storage of the metadata. -/
inductive MigrationOp
  | initMigrationV2 (admin : Address)
  | startMigrationV1ToV2 (admin : Address)
  | migrateChunkV1ToV2 (admin : Address) (chunkSize : Nat)
  | pauseMigration (admin : Address)
  | resumeMigration (admin : Address)
  | rollbackMigration (admin : Address)
  | startMetadataMigration (admin : Address) (toVersion : Nat)
  | migrateNextChunk (admin : Address) (migrationId chunkSize : Nat)
  /-- `register_metadata_schema`, `set_active_metadata_schema`, `set_credential_metadata` and what
  else writes that storage. -/
  | metadata (left : MetadataBook)

namespace MigrationOp

/-- Run an entry point, dropping what it returns. -/
def apply (env : Env) (s : State) (m : Migrations) : MigrationOp → Except Fault (State × Migrations)
  | initMigrationV2 admin => (s, ·) <$> m.initMigrationV2 env admin
  | startMigrationV1ToV2 admin => (fun r => (s, r.1)) <$> m.startMigrationV1ToV2 env s admin
  | migrateChunkV1ToV2 admin chunkSize =>
    (fun r => (s, r.1)) <$> m.migrateChunkV1ToV2 env s admin chunkSize
  | pauseMigration admin => (s, ·) <$> m.pauseMigration env s admin
  | resumeMigration admin => (s, ·) <$> m.resumeMigration env s admin
  | rollbackMigration admin => (s, ·) <$> m.rollbackMigration env s admin
  | startMetadataMigration admin toVersion =>
    (fun r => (r.1, r.2.1)) <$> m.startMetadataMigration env s admin toVersion
  | migrateNextChunk admin migrationId chunkSize =>
    (fun r => (r.1, r.2.1)) <$> m.migrateNextChunk env s admin migrationId chunkSize
  | metadata left => return (s, { m with metadata := left })

end MigrationOp

/-! ## Runs -/

/-- An operation, of the contract proper or of a migration. -/
inductive MigratingOp
  | contract (op : Op)
  | migration (op : MigrationOp)

/-- A call, as `Call` is one. -/
structure MigratingCall where
  elapsed : Nat
  auths : List Address
  op : MigratingOp

/-- A world and the migrations in it. -/
structure MigratingWorld where
  world : World
  migrations : Migrations

namespace MigratingWorld

def deployed : MigratingWorld := { world := .deployed, migrations := .empty }

def env (host : Host) (w : MigratingWorld) (call : MigratingCall) : Env :=
  { host with now := w.world.time + call.elapsed, auths := call.auths }

def apply (env : Env) (w : MigratingWorld) : MigratingOp → Except Fault (State × Migrations)
  | .contract op => (fun s => (s, w.migrations)) <$> op.apply env w.world.state
  | .migration op => op.apply env w.world.state w.migrations

def next (host : Host) (w : MigratingWorld) (call : MigratingCall) : MigratingWorld :=
  match w.apply (w.env host call) call.op with
  | .ok (s, m) => { world := { time := w.world.time + call.elapsed, state := s }, migrations := m }
  | .error _ => { w with world := { w.world with time := w.world.time + call.elapsed } }

def after (host : Host) (calls : List MigratingCall) : MigratingWorld :=
  Machine.run (next host) deployed calls

def Completes (host : Host) (w : MigratingWorld) (call : MigratingCall) : Prop :=
  ∃ r, w.apply (w.env host call) call.op = .ok r

variable {host : Host} {w : MigratingWorld} {call : MigratingCall}

theorem next_of_ok {s : State} {m : Migrations}
    (h : w.apply (w.env host call) call.op = .ok (s, m)) :
    w.next host call = ⟨⟨w.world.time + call.elapsed, s⟩, m⟩ := by
  simp only [next, h]

theorem next_of_error {fault : Fault} (h : w.apply (w.env host call) call.op = .error fault) :
    w.next host call = ⟨⟨w.world.time + call.elapsed, w.world.state⟩, w.migrations⟩ := by
  simp only [next, h]

/-- **Either the migrations stay**, which they do unless a call of theirs completes, **or that call
has written them.** -/
theorem next_migrations (host : Host) (w : MigratingWorld) (call : MigratingCall) :
    ((∀ op, call.op = .migration op → ¬ w.Completes host call) ∧
      (w.next host call).migrations = w.migrations) ∨
    ∃ op, call.op = .migration op ∧ w.Completes host call ∧ ∃ s,
      op.apply (w.env host call) w.world.state w.migrations =
        .ok (s, (w.next host call).migrations) := by
  cases hcall : w.apply (w.env host call) call.op with
  | error fault =>
    rw [next_of_error hcall]
    refine .inl ⟨?_, rfl⟩
    rintro op - ⟨r, hr⟩
    exact absurd (hcall.symm.trans hr) (by simp)
  | ok r =>
    obtain ⟨s, m⟩ := r
    rw [next_of_ok hcall]
    cases hop : call.op with
    | contract op =>
      refine .inl ⟨by simp, ?_⟩
      rw [hop] at hcall
      obtain ⟨_, -, heq⟩ := map_eq_ok.mp hcall
      exact (Prod.mk.inj heq).2.symm
    | migration op =>
      refine .inr ⟨op, rfl, ⟨_, hcall⟩, s, ?_⟩
      rw [hop] at hcall
      exact hcall

end MigratingWorld

end QuorumProof
