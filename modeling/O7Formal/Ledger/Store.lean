import O7Formal.Ledger.Models
import O7Formal.Lib.Fallible
import O7Formal.Lib.Table
import O7Formal.Run.Event

/-! The tables of schema version 3, each a list of rows in `rowid` order, and the statements that
write them. An insert is refused when it breaks a constraint of the schema. -/

namespace O7Formal.Ledger

open Fallible Json Table

structure Tables where
  conversations : List Conversation
  runs : List Run
  attempts : List RunAttempt
  events : List EventRow
  commands : List Command
  records : List IdempotencyRecord

def Tables.empty : Tables := ⟨[], [], [], [], [], []⟩

def refused (violated : Constraint) : LedgerError := .sqlite violated

def loadConversation (id : ConversationId) (s : Tables) : Option Conversation :=
  lookup Conversation.conversationId id s.conversations

def loadRun (id : RunId) (s : Tables) : Option Run := lookup Run.runId id s.runs

def loadAttempt (id : AttemptId) (s : Tables) : Option RunAttempt :=
  lookup RunAttempt.attemptId id s.attempts

def loadCommand (id : CommandId) (s : Tables) : Option Command :=
  lookup Command.commandId id s.commands

def findEvent (id : EventId) (s : Tables) : Option EventRow := lookup EventRow.eventId id s.events

def insertConversation (row : Conversation) (s : Tables) : Except LedgerError Tables := do
  refuseIf (loadConversation row.conversationId s ≠ none) (refused (.primaryKey "conversation"))
  return { s with conversations := s.conversations ++ [row] }

/-- A run that `(conversation_id, run_id)` names. -/
def runIn (conversation : ConversationId) (id : RunId) (runs : List Run) : Prop :=
  ∃ r ∈ runs, r.conversationId = conversation ∧ r.runId = id

instance (conversation : ConversationId) (id : RunId) (runs : List Run) :
    Decidable (runIn conversation id runs) :=
  inferInstanceAs (Decidable (∃ r ∈ runs, r.conversationId = conversation ∧ r.runId = id))

-- A foreign key is looked up after the row is in: a run may name itself as its parent. A key
-- with a null column is not looked up at all.
def insertRun (row : Run) (s : Tables) : Except LedgerError Tables := do
  refuseIf (loadRun row.runId s ≠ none) (refused (.primaryKey "run"))
  refuseIf (loadConversation row.conversationId s = none)
    (refused (.foreignKey "run" "conversation_id"))
  refuseIf (∃ parent ∈ row.parentRunId, ¬ runIn row.conversationId parent (s.runs ++ [row]))
    (refused (.foreignKey "run" "conversation_id, parent_run_id"))
  return { s with runs := s.runs ++ [row] }

def insertAttempt (row : RunAttempt) (s : Tables) : Except LedgerError Tables := do
  refuseIf (loadAttempt row.attemptId s ≠ none) (refused (.primaryKey "run_attempt"))
  refuseIf (∃ a ∈ s.attempts, a.runId = row.runId ∧ a.attemptNumber = row.attemptNumber)
    (refused (.unique "run_attempt" "run_id, attempt_number"))
  refuseIf (row.status = .running ∧ ∃ a ∈ s.attempts, a.runId = row.runId ∧ a.status = .running)
    (refused (.unique "run_attempt" "idx_one_running_attempt"))
  refuseIf (loadRun row.runId s = none) (refused (.foreignKey "run_attempt" "run_id"))
  return { s with attempts := s.attempts ++ [row] }

def insertEvent (row : EventRow) (s : Tables) : Except LedgerError Tables := do
  refuseIf (row.attemptId ≠ none ∧ row.runId = none) (refused (.check "event"))
  refuseIf (findEvent row.eventId s ≠ none) (refused (.primaryKey "event"))
  refuseIf (∃ e ∈ s.events, e.conversationId = row.conversationId ∧ e.sequence = row.sequence)
    (refused (.unique "event" "conversation_id, sequence"))
  refuseIf (loadConversation row.conversationId s = none)
    (refused (.foreignKey "event" "conversation_id"))
  refuseIf (∃ run ∈ row.runId, ¬ runIn row.conversationId run s.runs)
    (refused (.foreignKey "event" "conversation_id, run_id"))
  refuseIf (∃ run ∈ row.runId, ∃ attempt ∈ row.attemptId,
      ¬ ∃ a ∈ s.attempts, a.runId = run ∧ a.attemptId = attempt)
    (refused (.foreignKey "event" "run_id, attempt_id"))
  return { s with events := s.events ++ [row] }

def insertCommand (row : Command) (s : Tables) : Except LedgerError Tables := do
  refuseIf (loadCommand row.commandId s ≠ none) (refused (.primaryKey "command"))
  refuseIf (loadConversation row.conversationId s = none)
    (refused (.foreignKey "command" "conversation_id"))
  refuseIf (¬ runIn row.conversationId row.parentRunId s.runs)
    (refused (.foreignKey "command" "conversation_id, parent_run_id"))
  return { s with commands := s.commands ++ [row] }

def findRecord (scope key : String) (s : Tables) : Option IdempotencyRecord :=
  lookup (fun r : IdempotencyRecord => (r.scope, r.key)) (scope, key) s.records

def insertRecord (row : IdempotencyRecord) (s : Tables) : Except LedgerError Tables := do
  refuseIf (findRecord row.scope row.key s ≠ none) (refused (.primaryKey "idempotency_record"))
  return { s with records := s.records ++ [row] }

def updateRuns (selects : Run → Bool) (set : Run → Run) (s : Tables) : Tables :=
  { s with runs := update selects set s.runs }

def updateAttempts (selects : RunAttempt → Bool) (set : RunAttempt → RunAttempt) (s : Tables) :
    Tables :=
  { s with attempts := update selects set s.attempts }

def updateCommands (selects : Command → Bool) (set : Command → Command) (s : Tables) : Tables :=
  { s with commands := update selects set s.commands }

/-- `COALESCE(MAX(sequence), 0)` -/
def maxSequence (conversation : ConversationId) (s : Tables) : Nat :=
  ((s.events.filter fun e => decide (e.conversationId = conversation)).map
    EventRow.sequence).foldl max 0

def eventSchemaVersion : UInt32 := 1

def emitEvent (event : NewEvent) (createdAt : Millis) (s : Tables) :
    Except LedgerError (PersistedEvent × Tables) := do
  let next := maxSequence event.conversationId s + 1
  refuseIf (i64Max < next) (.integrity "sequence overflow")
  let s ← insertEvent ⟨event.eventId, event.conversationId, event.runId, event.attemptId, next,
    event.eventType.asStr, event.schemaVersion, createdAt, event.payload.text⟩ s
  return (⟨event.eventId, event.conversationId, event.runId, event.attemptId, next,
    event.eventType.asStr, event.schemaVersion, createdAt, event.payload⟩, s)

end O7Formal.Ledger

/-! ### Idempotency records: a `(scope, key)` pair is bound to the digest of the request it was first
used for -/

namespace O7Formal.Ledger

open Fallible Json Utf8
open O7Formal.Run (Sha256 Digest256)

inductive IdemOutcome where
  | fresh
  | replayed (reference : String)
  deriving DecidableEq, Repr

def scopeCreateConversation : String := "create-conversation"
def scopeCreateRun : String := "create-run"
def scopeAppendUserMessage : String := "append-user-message"
def scopeAppendSystemNote : String := "append-system-note"
def scopeCreateRunWithId : String := "create-run-with-id"
def scopeCreateCommand : String := "create-command"

def check (scope key requestDigest : String) (s : Tables) : Except LedgerError IdemOutcome :=
  match findRecord scope key s with
  | some record =>
      if record.requestDigest = requestDigest then .ok (.replayed record.resultReference)
      else .error (.idempotencyConflict scope key)
  | none => .ok .fresh

def checkOptional (scope : String) (idempotency : Option Idempotency) (requestDigest : String)
    (s : Tables) : Except LedgerError IdemOutcome :=
  match idempotency with
  | some idem => check scope idem.key requestDigest s
  | none => .ok .fresh

def record (scope key requestDigest resultReference : String) (createdAt : Millis) (s : Tables) :
    Except LedgerError Tables :=
  insertRecord ⟨scope, key, requestDigest, resultReference, createdAt⟩ s

def recordOptional (scope : String) (idempotency : Option Idempotency)
    (requestDigest resultReference : String) (createdAt : Millis) (s : Tables) :
    Except LedgerError Tables :=
  match idempotency with
  | some idem => record scope idem.key requestDigest resultReference createdAt s
  | none => .ok s

variable (sha256 : Sha256)

def digestBytes (bytes : List UInt8) : String := (Digest256.ofBytes sha256 bytes).asStr

def optionTree : Option String → Tree
  | none => .null
  | some s => .string s

def newRunTree (request : NewRun) : Tree :=
  .object [("conversation_id", .string request.conversationId),
    ("parent_run_id", optionTree request.parentRunId), ("agent", .string request.agent),
    ("role", .string request.role)]

def newRunWithIdTree (request : NewRun) (runId : RunId) : Tree :=
  .object [("agent", .string request.agent), ("conversation_id", .string request.conversationId),
    ("parent_run_id", optionTree request.parentRunId), ("role", .string request.role),
    ("run_id", .string runId)]

def newCommandTree (request : NewCommand) : Tree :=
  .object [("command_text", .string request.commandText),
    ("conversation_id", .string request.conversationId),
    ("parent_run_id", .string request.parentRunId)]

def userMessageTree (conversation : ConversationId) (payload : JsonValue) (run : Option RunId) :
    Tree :=
  .object [("conversation_id", .string conversation), ("payload", payload.tree),
    ("run_id", optionTree run)]

def systemNoteTree (conversation : ConversationId) (run : Option RunId)
    (attempt : Option AttemptId) (payload : JsonValue) : Tree :=
  .object [("attempt_id", optionTree attempt), ("conversation_id", .string conversation),
    ("payload", payload.tree), ("run_id", optionTree run)]

def createConversationBytes : List UInt8 := utf8 "create-conversation:v1".toList

def requestDigest (request : Tree) : String := digestBytes sha256 (utf8 request.compact)

end O7Formal.Ledger
