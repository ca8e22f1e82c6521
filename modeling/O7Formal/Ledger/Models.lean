import O7Formal.Contracts.Walk
import O7Formal.Lib.JsonValue

/-! Rows, statuses, requests and outcomes of the ledger. -/

namespace O7Formal.Ledger

open Json
open Contracts (SerdeError)

abbrev ConversationId := String
abbrev RunId := String
abbrev AttemptId := String
abbrev EventId := String
abbrev CommandId := String

/-- Milliseconds, an `i64`. -/
abbrev Millis := Int

def i64Max : Int := 2 ^ 63 - 1

inductive ConversationStatus where
  | «open»
  | closed
  deriving DecidableEq, Repr

inductive RunStatus where
  | queued
  | running
  | completed
  | failed
  | cancelled
  | interrupted
  | blocked
  | error
  deriving DecidableEq, Repr

def RunStatus.asStr : RunStatus → String
  | .queued => "queued"
  | .running => "running"
  | .completed => "completed"
  | .failed => "failed"
  | .cancelled => "cancelled"
  | .interrupted => "interrupted"
  | .blocked => "blocked"
  | .error => "error"

/-- The `Debug` name. -/
def RunStatus.variant : RunStatus → String
  | .queued => "Queued"
  | .running => "Running"
  | .completed => "Completed"
  | .failed => "Failed"
  | .cancelled => "Cancelled"
  | .interrupted => "Interrupted"
  | .blocked => "Blocked"
  | .error => "Error"

def RunStatus.isTerminal : RunStatus → Bool
  | .completed | .failed | .cancelled | .blocked | .error => true
  | .queued | .running | .interrupted => false

inductive AttemptStatus where
  | running
  | completed
  | failed
  | cancelled
  | interrupted
  | blocked
  | error
  deriving DecidableEq, Repr

def AttemptStatus.asStr : AttemptStatus → String
  | .running => "running"
  | .completed => "completed"
  | .failed => "failed"
  | .cancelled => "cancelled"
  | .interrupted => "interrupted"
  | .blocked => "blocked"
  | .error => "error"

inductive EventType where
  | conversationCreated
  | runCreated
  | runStarted
  | runCompleted
  | runFailed
  | runCancelled
  | runInterrupted
  | runBlocked
  | runErrored
  | userMessage
  | systemNote
  deriving DecidableEq, Repr

def EventType.asStr : EventType → String
  | .conversationCreated => "conversation.created"
  | .runCreated => "run.created"
  | .runStarted => "run.started"
  | .runCompleted => "run.completed"
  | .runFailed => "run.failed"
  | .runCancelled => "run.cancelled"
  | .runInterrupted => "run.interrupted"
  | .runBlocked => "run.blocked"
  | .runErrored => "run.errored"
  | .userMessage => "user.message"
  | .systemNote => "system.note"

inductive CommandStatus where
  | accepted
  | started
  | completed
  | rejected
  deriving DecidableEq, Repr

/-- `status IN ('accepted','started')` -/
def CommandStatus.inFlight : CommandStatus → Bool
  | .accepted | .started => true
  | .completed | .rejected => false

structure Conversation where
  conversationId : ConversationId
  createdAt : Millis
  status : ConversationStatus
  deriving DecidableEq, Repr

structure Run where
  runId : RunId
  conversationId : ConversationId
  parentRunId : Option RunId
  agent : String
  role : String
  status : RunStatus
  createdAt : Millis
  finishedAt : Option Millis
  providerSessionId : Option String
  deriving DecidableEq, Repr

structure RunAttempt where
  attemptId : AttemptId
  runId : RunId
  attemptNumber : Nat
  status : AttemptStatus
  startedAt : Millis
  finishedAt : Option Millis
  deriving DecidableEq, Repr

structure Command where
  commandId : CommandId
  conversationId : ConversationId
  parentRunId : RunId
  commandText : String
  status : CommandStatus
  childRunId : Option RunId
  createdAt : Millis
  updatedAt : Millis
  deriving DecidableEq, Repr

structure EventRow where
  eventId : EventId
  conversationId : ConversationId
  runId : Option RunId
  attemptId : Option AttemptId
  sequence : Nat
  eventType : String
  schemaVersion : UInt32
  createdAt : Millis
  payloadJson : List Char
  deriving DecidableEq, Repr

structure PersistedEvent where
  eventId : EventId
  conversationId : ConversationId
  runId : Option RunId
  attemptId : Option AttemptId
  sequence : Nat
  eventType : String
  schemaVersion : UInt32
  createdAt : Millis
  payload : JsonValue

structure IdempotencyRecord where
  scope : String
  key : String
  requestDigest : String
  resultReference : String
  createdAt : Millis
  deriving DecidableEq, Repr

structure NewEvent where
  eventId : EventId
  conversationId : ConversationId
  runId : Option RunId
  attemptId : Option AttemptId
  eventType : EventType
  schemaVersion : UInt32
  payload : JsonValue

structure NewRun where
  conversationId : ConversationId
  parentRunId : Option RunId
  agent : String
  role : String
  deriving DecidableEq, Repr

structure NewCommand where
  conversationId : ConversationId
  parentRunId : RunId
  commandText : String
  deriving DecidableEq, Repr

structure Idempotency where
  key : String
  deriving DecidableEq, Repr

/-- What an operation takes from outside: the clock, and a generated event id. -/
structure Stamp where
  now : Millis
  eventId : EventId
  deriving DecidableEq, Repr

inductive RebindOutcome where
  | rebound (command : Command)
  | lostRace (command : Command)
  | notEligible (command : Command)
  | notFound
  deriving DecidableEq, Repr

inductive RejectionOutcome where
  | rejected (command : Command)
  | notEligible (command : Command)
  | notFound
  deriving DecidableEq, Repr

inductive CompletionOutcome where
  | completed (command : Command)
  | notBound (command : Command)
  | notFound
  deriving DecidableEq, Repr

inductive Constraint where
  | primaryKey (table : String)
  | unique (table columns : String)
  | foreignKey (table columns : String)
  | check (table : String)
  deriving DecidableEq, Repr

inductive LedgerError where
  | sqlite (violated : Constraint)
  | json (source : SerdeError)
  | idempotencyConflict (scope key : String)
  | forbiddenTransition (entity source target : String)
  | notFound (what : String)
  | invalidState (why : String)
  | integrity (why : String)
  | staleParent (why : String)
  | commandConflict (why : String)
  | continuationNotPermitted (why : String)
  deriving DecidableEq, Repr

end O7Formal.Ledger
