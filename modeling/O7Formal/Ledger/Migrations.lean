import O7Formal.Ledger.Models
import O7Formal.Lib.Sql

/-! The schema migrations of the ledger, each one transaction, and the attestation of a schema
against what they make of an empty database. -/

namespace O7Formal.Ledger.Migrations

open Fallible Sql

def currentSchemaVersion : Nat := 3

def required (declaredType name : String) : Column := ⟨name, declaredType, true⟩

def optional (declaredType name : String) : Column := ⟨name, declaredType, false⟩

def conversationDef : TableDef where
  columns := [optional "TEXT" "conversation_id", required "INTEGER" "created_at",
    required "TEXT" "status"]
  primaryKey := ["conversation_id"]
  uniques := []
  checks := []
  foreignKeys := []

def runColumns : List Column :=
  [optional "TEXT" "run_id", required "TEXT" "conversation_id", optional "TEXT" "parent_run_id",
    required "TEXT" "agent", required "TEXT" "role", required "TEXT" "status",
    required "INTEGER" "created_at", optional "INTEGER" "finished_at"]

def runDef (self : String) (checks : List Check) : TableDef where
  columns := runColumns
  primaryKey := ["run_id"]
  uniques := [["conversation_id", "run_id"]]
  checks := checks
  foreignKeys := [⟨["conversation_id"], "conversation", ["conversation_id"]⟩,
    ⟨["conversation_id", "parent_run_id"], self, ["conversation_id", "run_id"]⟩]

def runAttemptColumns : List Column :=
  [optional "TEXT" "attempt_id", required "TEXT" "run_id", required "INTEGER" "attempt_number",
    required "TEXT" "status", required "INTEGER" "started_at", optional "INTEGER" "finished_at"]

def runAttemptDef (checks : List Check) : TableDef where
  columns := runAttemptColumns
  primaryKey := ["attempt_id"]
  uniques := [["run_id", "attempt_number"], ["run_id", "attempt_id"]]
  checks := checks
  foreignKeys := [⟨["run_id"], "run", ["run_id"]⟩]

def eventDef : TableDef where
  columns := [optional "TEXT" "event_id", required "TEXT" "conversation_id",
    optional "TEXT" "run_id", optional "TEXT" "attempt_id", required "INTEGER" "sequence",
    required "TEXT" "event_type", required "INTEGER" "schema_version",
    required "INTEGER" "created_at", required "TEXT" "payload_json"]
  primaryKey := ["event_id"]
  uniques := [["conversation_id", "sequence"]]
  checks := [.nullUnless "attempt_id" "run_id"]
  foreignKeys := [⟨["conversation_id"], "conversation", ["conversation_id"]⟩,
    ⟨["conversation_id", "run_id"], "run", ["conversation_id", "run_id"]⟩,
    ⟨["run_id", "attempt_id"], "run_attempt", ["run_id", "attempt_id"]⟩]

def idempotencyRecordDef : TableDef where
  columns := [required "TEXT" "scope", required "TEXT" "key", required "TEXT" "request_digest",
    required "TEXT" "result_reference", required "INTEGER" "created_at"]
  primaryKey := ["scope", "key"]
  uniques := []
  checks := []
  foreignKeys := []

def commandDef : TableDef where
  columns := [optional "TEXT" "command_id", required "TEXT" "conversation_id",
    required "TEXT" "parent_run_id", required "TEXT" "command_text", required "TEXT" "status",
    optional "TEXT" "child_run_id", required "INTEGER" "created_at",
    required "INTEGER" "updated_at"]
  primaryKey := ["command_id"]
  uniques := []
  checks := [.isIn "status" ["accepted", "started", "completed", "rejected"]]
  foreignKeys := [⟨["conversation_id"], "conversation", ["conversation_id"]⟩,
    ⟨["conversation_id", "parent_run_id"], "run", ["conversation_id", "run_id"]⟩]

def runStatusCheck : Check :=
  .isIn "status" ["queued", "running", "completed", "failed", "cancelled", "interrupted",
    "blocked", "error"]

def attemptStatusCheck : Check :=
  .isIn "status" ["running", "completed", "failed", "cancelled", "interrupted", "blocked",
    "error"]

def idxRunConversation : Index :=
  ⟨"idx_run_conversation", "run", ["conversation_id"], false, none⟩

def idxOneRunningAttempt : Index :=
  ⟨"idx_one_running_attempt", "run_attempt", ["run_id"], true, some ("status", "running")⟩

def idxEventConversationSequence : Index :=
  ⟨"idx_event_conversation_sequence", "event", ["conversation_id", "sequence"], false, none⟩

def idxCommandConversation : Index :=
  ⟨"idx_command_conversation", "command", ["conversation_id"], false, none⟩

def schemaV1 : List Statement :=
  [.createTable "conversation" conversationDef,
    .createTable "run" (runDef "run" []),
    .createIndex idxRunConversation,
    .createTable "run_attempt" (runAttemptDef []),
    .createIndex idxOneRunningAttempt,
    .createTable "event" eventDef,
    .createIndex idxEventConversationSequence,
    .createTable "idempotency_record" idempotencyRecordDef]

def schemaV2 : List Statement :=
  [.createTable "run_v2" (runDef "run_v2" [runStatusCheck]),
    .insertSelect "run_v2" (runColumns.map Column.name) "run",
    .dropTable "run",
    .renameTable "run_v2" "run",
    .createIndex idxRunConversation,
    .createTable "run_attempt_v2" (runAttemptDef [attemptStatusCheck]),
    .insertSelect "run_attempt_v2" (runAttemptColumns.map Column.name) "run_attempt",
    .dropTable "run_attempt",
    .renameTable "run_attempt_v2" "run_attempt",
    .createIndex idxOneRunningAttempt]

def providerSessionId : Column := optional "TEXT" "provider_session_id"

def schemaV3 : List Statement :=
  [.addColumn "run" providerSessionId,
    .createTable "command" commandDef,
    .createIndex idxCommandConversation]

structure Migration where
  version : Nat
  sql : List Statement

def migrations : List Migration := [⟨1, schemaV1⟩, ⟨2, schemaV2⟩, ⟨3, schemaV3⟩]

inductive MigrationError where
  | sqlite (source : SqlError)
  | schemaTooNew (found supported : Nat)
  /-- `migration to v{version} introduced foreign key violations in: {tables}` -/
  | foreignKeyViolations (version : Nat) (tables : List String)
  /-- `unexpected schema object {name} (possible tampering)` -/
  | unexpectedObject (name : String)
  /-- `schema is missing object {name}` -/
  | missingObject (name : String)
  /-- `schema object {name} does not match the expected definition` -/
  | differentObject (name : String)
  deriving DecidableEq, Repr

def migrate (db : Database) (m : Migration) : Except MigrationError Database := do
  let db ← (execBatch db m.sql).mapError .sqlite
  let db := { db with userVersion := m.version }
  refuseIf (db.foreignKeyCheck ≠ []) (.foreignKeyViolations m.version db.foreignKeyCheck)
  return db

def pending (start : Nat) : List Migration :=
  migrations.filter fun m => decide (start < m.version)

def apply (db : Database) : Except MigrationError Database := do
  refuseIf (currentSchemaVersion < db.userVersion)
    (.schemaTooNew db.userVersion currentSchemaVersion)
  (pending db.userVersion).foldlM migrate db

inductive Object where
  | table (definition : TableDef)
  | index (definition : Index)
  deriving DecidableEq, Repr

def schemaObjects (db : Database) : List (String × Object) :=
  db.tables.map (fun t => (t.name, .table t.definition)) ++
    db.indexes.map fun i => (i.name, .index i)

def findObject (db : Database) (name : String) : Option Object := (schemaObjects db).lookup name

def objectNames (db : Database) : List String :=
  ((schemaObjects db).map Prod.fst).mergeSort fun a b => decide (a ≤ b)

def validateSchema (actual : Database) : Except MigrationError Unit := do
  let expected ← apply .empty
  refuseFirst (objectNames actual) (fun name => findObject expected name = none) .unexpectedObject
  (objectNames expected).forM fun name =>
    match findObject actual name with
    | none => .error (.missingObject name)
    | some object => refuseIf (some object ≠ findObject expected name) (.differentObject name)

end O7Formal.Ledger.Migrations
