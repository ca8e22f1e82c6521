import O7Formal.Ledger.Store

/-! Conversations, runs and attempts: the operations of the ledger that write them, each one
transaction. What it takes from outside (the clock, generated ids) is an argument; a transaction
that fails is rolled back. -/

namespace O7Formal.Ledger

open Fallible Json Table
open O7Formal.Run (Sha256)

def runTransitionAllowed : RunStatus → RunStatus → Bool
  | .queued, .running => true
  | .running, .completed => true
  | .running, .failed => true
  | .running, .cancelled => true
  | .running, .interrupted => true
  | .running, .blocked => true
  | .running, .error => true
  | _, _ => false

def validateRunTransition (source target : RunStatus) : Except LedgerError Unit :=
  refuseIf (runTransitionAllowed source target = false)
    (.forbiddenTransition "run" source.asStr target.asStr)

def attemptTransitionAllowed : AttemptStatus → AttemptStatus → Bool
  | .running, .completed => true
  | .running, .failed => true
  | .running, .cancelled => true
  | .running, .interrupted => true
  | .running, .blocked => true
  | .running, .error => true
  | _, _ => false

def validateAttemptTransition (source target : AttemptStatus) : Except LedgerError Unit :=
  refuseIf (attemptTransitionAllowed source target = false)
    (.forbiddenTransition "attempt" source.asStr target.asStr)

def terminalAttemptStatus : RunStatus → AttemptStatus
  | .completed => .completed
  | .failed => .failed
  | .cancelled => .cancelled
  | .interrupted => .interrupted
  | .blocked => .blocked
  | .error => .error
  | .queued | .running => .completed

def runOr (id : RunId) (s : Tables) : Except LedgerError Run :=
  okOr (loadRun id s) (.notFound ("run " ++ id))

def attemptOr (id : AttemptId) (s : Tables) : Except LedgerError RunAttempt :=
  okOr (loadAttempt id s) (.notFound ("attempt " ++ id))

def noPayload : JsonValue := .ofScalars [] .nil

section Creating

variable (sha256 : Sha256)

def createConversation (idempotency : Option Idempotency) (generated : ConversationId)
    (stamp : Stamp) (s : Tables) : Except LedgerError (Conversation × Tables) := do
  let requestDigest := digestBytes sha256 createConversationBytes
  match ← checkOptional scopeCreateConversation idempotency requestDigest s with
  | .replayed reference =>
      let conversation ← okOr (loadConversation reference s)
        (.notFound ("conversation " ++ reference))
      return (conversation, s)
  | .fresh =>
      let conversation : Conversation := ⟨generated, stamp.now, .open⟩
      let s ← insertConversation conversation s
      let (_, s) ← emitEvent ⟨stamp.eventId, generated, none, none, .conversationCreated,
        eventSchemaVersion, noPayload⟩ stamp.now s
      let s ← recordOptional scopeCreateConversation idempotency requestDigest generated stamp.now s
      return (conversation, s)

theorem agent_before_role : ["agent", "role"].Pairwise fun a b => a.toList < b.toList := by decide

def runPayload (agent role : String) : JsonValue :=
  .ofScalars [("agent", .text agent), ("role", .text role)] agent_before_role

def createRunInner (request : NewRun) (runId : RunId) (scope : String)
    (idempotency : Option Idempotency) (requestDigest : String) (stamp : Stamp) (s : Tables) :
    Except LedgerError (Run × Tables) := do
  match ← checkOptional scope idempotency requestDigest s with
  | .replayed reference =>
      let run ← runOr reference s
      return (run, s)
  | .fresh =>
      let run : Run := ⟨runId, request.conversationId, request.parentRunId, request.agent,
        request.role, .queued, stamp.now, none, none⟩
      let s ← insertRun run s
      let (_, s) ← emitEvent ⟨stamp.eventId, run.conversationId, some runId, none, .runCreated,
        eventSchemaVersion, runPayload run.agent run.role⟩ stamp.now s
      let s ← recordOptional scope idempotency requestDigest runId stamp.now s
      return (run, s)

def createRun (request : NewRun) (idempotency : Option Idempotency) (generated : RunId)
    (stamp : Stamp) (s : Tables) : Except LedgerError (Run × Tables) :=
  createRunInner request generated scopeCreateRun idempotency
    (requestDigest sha256 (newRunTree request)) stamp s

def createRunWithId (request : NewRun) (runId : RunId) (idempotency : Idempotency) (stamp : Stamp)
    (s : Tables) : Except LedgerError (Run × Tables) :=
  createRunInner request runId scopeCreateRunWithId (some idempotency)
    (requestDigest sha256 (newRunWithIdTree request runId)) stamp s

end Creating

def closeRunningAttempts (runId : RunId) (status : AttemptStatus) (now : Millis) (s : Tables) :
    Tables :=
  updateAttempts (fun a => decide (a.runId = runId ∧ a.status = .running))
    (fun a => { a with status := status, finishedAt := some now }) s

def setRunStatus (runId : RunId) (target : RunStatus) (eventType : EventType) (stamp : Stamp)
    (s : Tables) : Except LedgerError (Run × Tables) := do
  let current ← runOr runId s
  validateRunTransition current.status target
  let finishedAt := if target.isTerminal then some stamp.now else none
  let s := updateRuns (fun r => decide (r.runId = runId))
    (fun r => { r with status := target, finishedAt := finishedAt }) s
  let s := if target.isTerminal ∨ target = .interrupted then
      closeRunningAttempts runId (terminalAttemptStatus target) stamp.now s
    else s
  let (_, s) ← emitEvent ⟨stamp.eventId, current.conversationId, some runId, none, eventType,
    eventSchemaVersion, noPayload⟩ stamp.now s
  let run ← runOr runId s
  return (run, s)

def startRun (runId : RunId) := setRunStatus runId .running .runStarted
def completeRun (runId : RunId) := setRunStatus runId .completed .runCompleted
def failRun (runId : RunId) := setRunStatus runId .failed .runFailed
def cancelRun (runId : RunId) := setRunStatus runId .cancelled .runCancelled
def interruptRun (runId : RunId) := setRunStatus runId .interrupted .runInterrupted
def blockRun (runId : RunId) := setRunStatus runId .blocked .runBlocked
def errorRun (runId : RunId) := setRunStatus runId .error .runErrored

/-- `COALESCE(MAX(attempt_number), 0) + 1` -/
def nextAttemptNumber (runId : RunId) (s : Tables) : Nat :=
  ((s.attempts.filter fun a => decide (a.runId = runId)).map
    RunAttempt.attemptNumber).foldl max 0 + 1

def addAttempt (runId : RunId) (attemptId : AttemptId) (now : Millis) (s : Tables) :
    Except LedgerError (RunAttempt × Tables) := do
  let next := nextAttemptNumber runId s
  refuseIf (2 ^ 32 ≤ next) (.integrity "attempt_number overflow")
  let attempt : RunAttempt := ⟨attemptId, runId, next, .running, now, none⟩
  let s ← insertAttempt attempt s
  return (attempt, s)

def createAttempt (runId : RunId) (generated : AttemptId) (now : Millis) (s : Tables) :
    Except LedgerError (RunAttempt × Tables) := do
  let run ← runOr runId s
  refuseIf (run.status ≠ .running) (.invalidState
    ("cannot create an attempt: run " ++ runId ++ " is " ++ run.status.asStr ++ ", not running"))
  refuseIf (∃ a ∈ s.attempts, a.runId = runId ∧ a.status = .running)
    (.invalidState ("run " ++ runId ++ " already has a running attempt"))
  addAttempt runId generated now s

def setAttemptStatus (attemptId : AttemptId) (target : AttemptStatus) (now : Millis) (s : Tables) :
    Except LedgerError (RunAttempt × Tables) := do
  let current ← attemptOr attemptId s
  validateAttemptTransition current.status target
  let finishedAt := if target = .running then none else some now
  let s := updateAttempts (fun a => decide (a.attemptId = attemptId))
    (fun a => { a with status := target, finishedAt := finishedAt }) s
  let attempt ← attemptOr attemptId s
  return (attempt, s)

def resumedPayload : JsonValue := .ofScalars [("resumed", .flag true)] (List.pairwise_singleton _ _)

def resumeInterruptedRun (runId : RunId) (generated : AttemptId) (stamp : Stamp) (s : Tables) :
    Except LedgerError (RunAttempt × Tables) := do
  let current ← runOr runId s
  refuseIf (current.status ≠ .interrupted) (.invalidState
    ("cannot resume: run " ++ runId ++ " is " ++ current.status.asStr ++ ", not interrupted"))
  let s := closeRunningAttempts runId .interrupted stamp.now s
  let s := updateRuns (fun r => decide (r.runId = runId))
    (fun r => { r with status := .running, finishedAt := none }) s
  let (_, s) ← emitEvent ⟨stamp.eventId, current.conversationId, some runId, none, .runStarted,
    eventSchemaVersion, resumedPayload⟩ stamp.now s
  addAttempt runId generated stamp.now s

def repairedPayload : JsonValue :=
  .ofScalars [("repaired_from", .text "interrupted")] (List.pairwise_singleton _ _)

def repairEvent : RunStatus → Option EventType
  | .completed => some .runCompleted
  | .failed => some .runFailed
  | .blocked => some .runBlocked
  | .error => some .runErrored
  | _ => none

/-- `ORDER BY attempt_number DESC LIMIT 1` among the interrupted attempts of a run. -/
def lastInterrupted (runId : RunId) (s : Tables) : Option RunAttempt :=
  (s.attempts.filter fun a => decide (a.runId = runId ∧ a.status = .interrupted)).foldl
    (fun best a => match best with
      | none => some a
      | some b => if b.attemptNumber < a.attemptNumber then some a else some b) none

def repairInterruptedRunToTerminal (runId : RunId) (target : RunStatus) (stamp : Stamp)
    (s : Tables) : Except LedgerError (Run × Tables) := do
  let eventType ← okOr (repairEvent target) (.invalidState
    ("repair target must be a sealed terminal status (completed/failed/blocked/error), got " ++
      target.asStr))
  let current ← runOr runId s
  refuseIf (current.status ≠ .interrupted) (.invalidState
    ("cannot repair: run " ++ runId ++ " is " ++ current.status.asStr ++ ", not interrupted"))
  let s := updateRuns (fun r => decide (r.runId = runId))
    (fun r => { r with status := target, finishedAt := some stamp.now }) s
  let repaired := (lastInterrupted runId s).map RunAttempt.attemptId
  let s := updateAttempts (fun a => decide (some a.attemptId = repaired))
    (fun a => { a with status := terminalAttemptStatus target, finishedAt := some stamp.now }) s
  let (_, s) ← emitEvent ⟨stamp.eventId, current.conversationId, some runId, none, eventType,
    eventSchemaVersion, repairedPayload⟩ stamp.now s
  let run ← runOr runId s
  return (run, s)

def recoveryPayload : JsonValue :=
  .ofScalars [("reason", .text "recovery")] (List.pairwise_singleton _ _)

def interruptOne (s : Tables) (listed : RunId × Stamp) : Except LedgerError Tables := do
  let (runId, stamp) := listed
  let current ← runOr runId s
  validateRunTransition current.status .interrupted
  let s := updateRuns (fun r => decide (r.runId = runId))
    (fun r => { r with status := .interrupted }) s
  let s := closeRunningAttempts runId .interrupted stamp.now s
  let (_, s) ← emitEvent ⟨stamp.eventId, current.conversationId, some runId, none, .runInterrupted,
    eventSchemaVersion, recoveryPayload⟩ stamp.now s
  return s

def closeListed (s : Tables) (listed : AttemptId × Millis) : Except LedgerError Tables := do
  let (attemptId, now) := listed
  let current ← attemptOr attemptId s
  if current.status = .running then
    return updateAttempts (fun a => decide (a.attemptId = attemptId ∧ a.status = .running))
      (fun a => { a with status := .interrupted, finishedAt := some now }) s
  else return s

def markInterrupted (runs : List (RunId × Stamp)) (attempts : List (AttemptId × Millis))
    (s : Tables) : Except LedgerError Tables := do
  let s ← runs.foldlM interruptOne s
  attempts.foldlM closeListed s

def setRunProviderSession (runId : RunId) (session : String) (s : Tables) :
    Except LedgerError (Run × Tables) := do
  let _ ← runOr runId s
  let s := updateRuns (fun r => decide (r.runId = runId))
    (fun r => { r with providerSessionId := some session }) s
  let run ← runOr runId s
  return (run, s)

end O7Formal.Ledger
