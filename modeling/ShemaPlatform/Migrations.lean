/-
Schema migrations: a plan of numbered SQL texts, the ledger of those that have
been applied, and the two ways into it, each one transaction under an advisory
lock that lets one runner in at a time.
-/
import Mathlib.Data.Int.Notation
import ShemaPlatform.PyText

namespace ShemaPlatform

inductive MigrationError where
  | integrity (message : String)
  | plan (message : String)
  | baseline (message : String)
  | database
deriving DecidableEq, Repr

/-- `if not condition: raise error` -/
def MigrationError.ensure (condition : Bool) (error : MigrationError) :
    Except MigrationError Unit :=
  if condition then .ok () else .error error

structure Migration where
  version : ℕ
  name : String
  sql : String
  valid : 1 ≤ version ∧ PyText.blank name = false ∧ PyText.blank sql = false
deriving DecidableEq

/-- A row of `schema_migration`. -/
structure LedgerRow where
  version : ℕ
  name : String
  checksum : String
deriving DecidableEq

/-- The ledger row of a migration; its checksum is the hash of its SQL. -/
def Migration.row (sha256 : String → String) (migration : Migration) : LedgerRow :=
  ⟨migration.version, migration.name, sha256 migration.sql⟩

/-- `f"{version:04d}_{name}"` -/
def Migration.label (migration : Migration) : String :=
  let digits := toString migration.version
  String.ofList (List.replicate (4 - digits.length) '0') ++ digits ++ "_" ++
    migration.name

/-- What `MigrationPlan.__post_init__` accepts. -/
def MigrationPlan.check (migrations : List Migration) : Except MigrationError Unit := do
  let versions := migrations.map Migration.version
  MigrationError.ensure (versions == versions.mergeSort)
    (.plan "migrations must be ordered by version")
  MigrationError.ensure (decide versions.Nodup)
    (.plan "migration versions must be unique")
  MigrationError.ensure (versions.isEmpty || versions == List.range' 1 versions.length)
    (.plan "migration versions must be contiguous from 1")

structure MigrationPlan where
  migrations : List Migration
  accepted : MigrationPlan.check migrations = .ok ()

structure MigrationReport where
  applied : List ℕ
  currentVersion : ℕ
deriving DecidableEq

/-- The columns that the tables of the v1.4 baseline must have. -/
def v14RequiredColumns : List (String × List String) := [
  ("identity", ["identity_id", "canonical_name", "state", "tax_id", "registration_id",
    "created_at", "updated_at"]),
  ("evidence", ["evidence_id", "subject_ref", "claim", "source_ref", "truth_class",
    "trust_level", "confidence", "provenance", "observed_at", "captured_at",
    "expires_at", "lifecycle"]),
  ("idempotency_key", ["key", "request_hash", "result_ref", "created_at"]),
  ("audit_log", ["audit_id", "actor_id", "action", "resource_type", "resource_id",
    "outcome", "occurred_at", "metadata", "correlation_id", "configuration_version"]),
  ("outbox_event", ["event_id", "event_type", "aggregate_type", "aggregate_id",
    "payload", "occurred_at", "published_at", "delivery_attempt", "delivery_worker_id",
    "delivery_lease_until"]),
  ("search_candidate", ["candidate_id", "candidate_ref", "name", "region",
    "selection_level", "source_ref", "tax_id", "registration_id", "contact_refs",
    "raw_payload", "observed_at", "captured_at", "lifecycle", "created_at"]),
  ("quarantine_record", ["quarantine_id", "object_type", "object_ref", "reason_code",
    "payload", "created_at", "resolved_at", "resolution"]),
  ("commercial_action", ["action_id", "identity_id", "contact_ref", "channel",
    "evidence_refs", "status", "created_at", "updated_at", "send_attempt",
    "send_worker_id", "send_lease_until"]),
  ("order_header", ["order_id", "identity_id", "source_action_id", "status",
    "created_at", "updated_at"]),
  ("order_line", ["line_id", "order_id", "description", "quantity", "unit_price",
    "currency", "created_at"]),
  ("economic_entry", ["entry_id", "entity_ref", "kind", "amount", "currency",
    "source_ref", "occurred_at"]),
  ("ai_run", ["run_id", "task_id", "provider_id", "model", "model_version",
    "prompt_version", "input_refs", "evidence_refs", "output", "tokens", "cost",
    "duration_seconds", "created_at"]),
  ("job_execution", ["job_id", "job_type", "attempt", "state", "idempotency_key",
    "payload", "available_at", "worker_id", "lease_until", "last_error",
    "completed_at", "created_at", "updated_at"])]

/-- What the server does with the text of a migration, and what it tells of the
current schema. -/
structure SchemaEngine (σ : Type) where
  execute : String → σ → Option σ
  currentSchema : σ → Option String
  columns : σ → List (String × String)

/-- The schema, the ledger where its table exists, and which migrations have
been executed. -/
structure MigrationDatabase (σ : Type) where
  schema : σ
  ledger : Option (List LedgerRow)
  executed : List Migration

/-- A transaction on the way: the rows as it sees them, and how many statements
it has sent. -/
structure MigrationSession (σ : Type) where
  database : MigrationDatabase σ
  statements : ℕ

/-- A transaction that an error rolls back. -/
abbrev MigrationScript (σ : Type) := StateT (MigrationSession σ) (Except MigrationError)

namespace MigrationRunner

/-- The version that adoption is fixed at. -/
def v14BaselineVersion : ℕ := 8

section Statements

variable {σ α : Type} (engine : SchemaEngine σ) (sha256 : String → String)
  (faults : ℕ → Bool)

/-- One statement: it may fail for what it does, and for any other reason. -/
def statement (perform : MigrationDatabase σ → Option (α × MigrationDatabase σ)) :
    MigrationScript σ α := fun session =>
  if faults session.statements then .error .database
  else match perform session.database with
    | none => .error .database
    | some (result, database) => .ok (result, ⟨database, session.statements + 1⟩)

/-- A select, or a statement that changes no row. -/
def query (answer : MigrationDatabase σ → Option α) : MigrationScript σ α :=
  statement faults fun database => (answer database).map fun result => (result, database)

def raiseUnless (condition : Bool) (error : MigrationError) : MigrationScript σ Unit :=
  liftM (MigrationError.ensure condition error)

/-- `LOCK_SQL` -/
def lock : MigrationScript σ Unit := query faults fun _ => some ()

/-- `LEDGER_SQL` -/
def createLedger : MigrationScript σ Unit :=
  statement faults fun database =>
    some ((), { database with ledger := some (database.ledger.getD []) })

/-- The versions are the primary key, and the names are unique. -/
def insertRow (row : LedgerRow) : MigrationScript σ Unit :=
  statement faults fun database => do
    let rows ← database.ledger
    if rows.any fun stored => stored.version == row.version || stored.name == row.name then
      none
    else
      some ((), { database with ledger := some (rows ++ [row]) })

/-- The SQL of a migration. -/
def executeSql (migration : Migration) : MigrationScript σ Unit :=
  statement faults fun database =>
    (engine.execute migration.sql database.schema).map fun schema =>
      ((), { database with schema, executed := database.executed ++ [migration] })

/-- `select version, name, checksum from schema_migration order by version` -/
def readApplied : MigrationScript σ (List LedgerRow) :=
  query faults fun database =>
    database.ledger.map fun rows =>
      rows.mergeSort fun left right => decide (left.version ≤ right.version)

/-- `_current_schema` -/
def currentSchema : MigrationScript σ String := do
  match ← query faults fun database => some (engine.currentSchema database.schema) with
  | none => throw (.baseline "current PostgreSQL schema is not defined")
  | some schema => return schema

/-- `_validate_applied_ledger` -/
def validateAppliedLedger (plan : MigrationPlan) (applied : List LedgerRow) :
    Except MigrationError Unit := do
  let appliedVersions := applied.map LedgerRow.version
  match appliedVersions.getLast? with
  | none => return ()
  | some last => do
      MigrationError.ensure (appliedVersions == List.range' 1 last)
        (.integrity "applied migration ledger contains a version gap")
      let planVersions := plan.migrations.map Migration.version
      let unknown := appliedVersions.filter fun version => !planVersions.contains version
      MigrationError.ensure unknown.isEmpty (.integrity
        ("applied migration is missing from current plan: " ++
          String.intercalate ", " (unknown.map toString)))

/-- The loop over the plan: what is recorded is compared, the rest is executed
and recorded. -/
def applyMigrations (applied : List LedgerRow) :
    List Migration → MigrationScript σ (List ℕ)
  | [] => return []
  | migration :: rest =>
      match applied.find? fun row => row.version == migration.version with
      | some existing => do
          raiseUnless (existing.name == migration.name &&
              existing.checksum == sha256 migration.sql) (.integrity
            ("applied migration differs from approved checksum: " ++ migration.label))
          applyMigrations applied rest
      | none => do
          executeSql engine faults migration
          insertRow faults (migration.row sha256)
          let appliedNow ← applyMigrations applied rest
          return migration.version :: appliedNow

def insertRows : List Migration → MigrationScript σ Unit
  | [] => return ()
  | migration :: rest => do
      insertRow faults (migration.row sha256)
      insertRows rest

/-- `_verify_v1_4_schema` -/
def verifyV14Schema : MigrationScript σ Unit := do
  let _ ← currentSchema engine faults
  let actual ← query faults fun database => some (engine.columns database.schema)
  let missing := (v14RequiredColumns.flatMap fun (table, columns) =>
    (columns.filter fun column => !actual.contains (table, column)).map fun column =>
      table ++ "." ++ column).mergeSort
  raiseUnless missing.isEmpty (.baseline
    ("existing schema is not compatible with v1.4 baseline; missing required columns: " ++
      String.intercalate ", " (missing.take 8) ++
      (if 8 < missing.length then " ..." else "")))

/-- Adoption is for a ledger without rows. -/
def requireUnpopulated : MigrationScript σ Unit := do
  let ledgerExists ← query faults fun database => some database.ledger.isSome
  if ledgerExists then do
    let existingRows ← readApplied faults
    raiseUnless existingRows.isEmpty
      (.baseline "existing migration ledger is populated; use normal migration apply")
  else
    return ()

/-- The transaction of `apply`. -/
def apply (plan : MigrationPlan) : MigrationScript σ MigrationReport := do
  lock faults
  createLedger faults
  let applied ← readApplied faults
  liftM (validateAppliedLedger plan applied)
  let appliedNow ← applyMigrations engine sha256 faults applied plan.migrations
  query faults fun _ => some ()
  return ⟨appliedNow, (plan.migrations.getLast?.map Migration.version).getD 0⟩

/-- The transaction of `adopt_existing_schema`, after the checks of its
arguments. -/
def adoptExistingSchema (plan : MigrationPlan) (baselineVersion : ℤ) :
    MigrationScript σ MigrationReport := do
  raiseUnless (baselineVersion == v14BaselineVersion)
    (.baseline "only v1.4 baseline adoption at version 8 is supported")
  raiseUnless (decide (v14BaselineVersion ≤ plan.migrations.length))
    (.baseline "current migration plan does not contain the complete v1.4 baseline")
  lock faults
  let _ ← currentSchema engine faults
  requireUnpopulated faults
  verifyV14Schema engine faults
  createLedger faults
  insertRows sha256 faults (plan.migrations.take v14BaselineVersion)
  query faults fun _ => some ()
  return ⟨[], v14BaselineVersion⟩

end Statements

end MigrationRunner

/-- A call of a runner with its plan; `faults` says which of its statements fail
whatever they do, the commit being the last. -/
inductive MigrationCall where
  | apply (plan : MigrationPlan) (faults : ℕ → Bool)
  | adopt (plan : MigrationPlan) (baselineVersion : ℤ) (faults : ℕ → Bool)

namespace MigrationCall

variable {σ : Type} (engine : SchemaEngine σ) (sha256 : String → String)

def script : MigrationCall → MigrationScript σ MigrationReport
  | .apply plan faults => MigrationRunner.apply engine sha256 faults plan
  | .adopt plan baselineVersion faults =>
      MigrationRunner.adoptExistingSchema engine sha256 faults plan baselineVersion

/-- The transaction is committed, or an error rolls it back. -/
def run (call : MigrationCall) (database : MigrationDatabase σ) :
    Except MigrationError MigrationReport × MigrationDatabase σ :=
  match call.script engine sha256 ⟨database, 0⟩ with
  | .ok (report, session) => (.ok report, session.database)
  | .error error => (.error error, database)

def after (database : MigrationDatabase σ) (call : MigrationCall) :
    MigrationDatabase σ :=
  (call.run engine sha256 database).2

end MigrationCall

end ShemaPlatform
