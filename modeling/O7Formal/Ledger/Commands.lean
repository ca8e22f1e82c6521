import O7Formal.Ledger.Runs

/-! Commands: acceptance, the binding of a command to its child run, and its bookkeeping. -/

namespace O7Formal.Ledger

open Fallible Json Table
open O7Formal.Run (Sha256)

def commandOr (id : CommandId) (s : Tables) : Except LedgerError Command :=
  okOr (loadCommand id s) (.notFound ("command " ++ id))

/-- `ORDER BY created_at DESC, rowid DESC LIMIT 1` among the runs of a conversation. -/
def latestRun (conversation : ConversationId) (s : Tables) : Option Run :=
  (s.runs.filter fun r => decide (r.conversationId = conversation)).foldl
    (fun best r => match best with
      | none => some r
      | some b => if b.createdAt ≤ r.createdAt then some r else some b) none

def isControl (c : Char) : Bool := c.toNat < 0x20 || (0x7f ≤ c.toNat && c.toNat < 0xa0)

def checkSession (parent : Run) (parentRunId : RunId) : Except LedgerError Unit :=
  match parent.providerSessionId with
  | none => .error (.continuationNotPermitted
      ("run " ++ parentRunId ++ " has no durable provider session to continue from"))
  | some session => refuseIf (session = "" ∨ session.toList.any isControl = true)
      (.continuationNotPermitted ("run " ++ parentRunId ++
        "'s durable provider session fails validation (empty or contains " ++
        "a control character) — refusing to continue from a corrupt session"))

def checkTail (request : NewCommand) (s : Tables) : Except LedgerError Unit := do
  -- Without a run the query returns no row; the parent is one, so there is.
  let latest ← okOr (latestRun request.conversationId s) (.integrity "query returned no rows")
  refuseIf (latest.runId ≠ request.parentRunId) (.staleParent
    ("run " ++ request.parentRunId ++ " is not conversation " ++ request.conversationId ++
      "'s current tail (that is run " ++ latest.runId ++
      ") — it is no longer valid to continue from"))

def inFlightIn (conversation : ConversationId) (c : Command) : Prop :=
  c.conversationId = conversation ∧ c.status.inFlight = true

instance (conversation : ConversationId) : DecidablePred (inFlightIn conversation) := fun c =>
  inferInstanceAs (Decidable (c.conversationId = conversation ∧ c.status.inFlight = true))

def checkAcceptable (request : NewCommand) (s : Tables) : Except LedgerError Unit := do
  let _ ← okOr (loadConversation request.conversationId s)
    (.notFound ("conversation " ++ request.conversationId))
  let parent ← runOr request.parentRunId s
  refuseIf (parent.conversationId ≠ request.conversationId) (.notFound
    ("run " ++ request.parentRunId ++ " does not belong to conversation " ++
      request.conversationId))
  refuseIf (parent.status.isTerminal = false) (.continuationNotPermitted
    ("run " ++ request.parentRunId ++ " is not sealed yet (status " ++ parent.status.variant ++
      ") — a command can only continue a run that has finished"))
  checkTail request s
  refuseIf (∃ c ∈ s.commands, inFlightIn request.conversationId c) (.commandConflict
    ("conversation " ++ request.conversationId ++ " already has a command in flight"))
  checkSession parent request.parentRunId

def createCommand (sha256 : Sha256) (request : NewCommand) (idempotency : Idempotency)
    (generated : CommandId) (now : Millis) (s : Tables) :
    Except LedgerError (Command × Tables) := do
  let requestDigest := requestDigest sha256 (newCommandTree request)
  match ← check scopeCreateCommand idempotency.key requestDigest s with
  | .replayed reference =>
      let command ← commandOr reference s
      return (command, s)
  | .fresh =>
      checkAcceptable request s
      let command : Command := ⟨generated, request.conversationId, request.parentRunId,
        request.commandText, .accepted, none, now, now⟩
      let s ← insertCommand command s
      let s ← record scopeCreateCommand idempotency.key requestDigest generated now s
      return (command, s)

def changeCommand (commandId : CommandId) (selects : Command → Bool) (set : Command → Command)
    (s : Tables) : Except LedgerError (Command × Tables) := do
  let _ ← commandOr commandId s
  let s := updateCommands (fun c => decide (c.commandId = commandId) && selects c) set s
  let command ← commandOr commandId s
  return (command, s)

def bindCommandChildRun (commandId : CommandId) (runId : RunId) (now : Millis) (s : Tables) :
    Except LedgerError (Command × Tables) :=
  changeCommand commandId (fun c => decide (c.childRunId = none))
    (fun c => { c with childRunId := some runId, status := .started, updatedAt := now }) s

def setCommandStatus (commandId : CommandId) (status : CommandStatus) (now : Millis) (s : Tables) :
    Except LedgerError (Command × Tables) :=
  changeCommand commandId (fun _ => true)
    (fun c => { c with status := status, updatedAt := now }) s

def markCommandCompleted (commandId : CommandId) := setCommandStatus commandId .completed
def markCommandRejected (commandId : CommandId) := setCommandStatus commandId .rejected

/-- `saturating_add(1)` -/
def saturatingSucc (n : Millis) : Millis := min (n + 1) i64Max

def claimStaleCommandForRedrive (commandId : CommandId) (expectedUpdatedAt now : Millis)
    (s : Tables) : Bool × Tables :=
  let now := max now (saturatingSucc expectedUpdatedAt)
  let selects := fun c : Command => decide (c.commandId = commandId ∧
    c.updatedAt = expectedUpdatedAt ∧ c.status.inFlight = true)
  (decide (s.commands.countP selects = 1),
    updateCommands selects (fun c => { c with updatedAt := now }) s)

def rebindCommandChildRun (commandId : CommandId) (newRunId : RunId) (now : Millis) (s : Tables) :
    Except LedgerError (Command × Tables) :=
  changeCommand commandId (fun _ => true)
    (fun c => { c with childRunId := some newRunId, updatedAt := now }) s

/-- An `UPDATE` of one row under a condition, and whether it changed exactly one. -/
def updateOne (selects : Command → Bool) (set : Command → Command) (s : Tables) : Bool × Tables :=
  (decide (s.commands.countP selects = 1), updateCommands selects set s)

def commandLeft (commandId : CommandId) (s : Tables) : Except LedgerError Command :=
  okOr (loadCommand commandId s) (.integrity ("command " ++ commandId ++ " vanished"))

def rebindCommandChildRunIfCurrent (commandId : CommandId) (expectedOldRunId : RunId)
    (expectedUpdatedAt : Millis) (freshRunId : RunId) (now : Millis) (s : Tables) :
    Except LedgerError (RebindOutcome × Tables) := do
  match loadCommand commandId s with
  | none => return (.notFound, s)
  | some current =>
      if current.status.inFlight = false then return (.notEligible current, s)
      else if current.childRunId ≠ some expectedOldRunId ∨
          current.updatedAt ≠ expectedUpdatedAt then return (.lostRace current, s)
      else
        let now := max now (saturatingSucc expectedUpdatedAt)
        let (changed, s') := updateOne (fun c => decide (c.commandId = commandId ∧
            c.status.inFlight = true ∧ c.childRunId = some expectedOldRunId ∧
            c.updatedAt = expectedUpdatedAt))
          (fun c => { c with childRunId := some freshRunId, updatedAt := now }) s
        let left ← commandLeft commandId s'
        return if changed then (.rebound left, s') else (.lostRace left, s')

def boundTo (runId : RunId) (c : Command) : Bool :=
  c.status.inFlight && decide (c.childRunId = some runId)

def completeBound (commandId : CommandId) (runId : RunId) (now : Millis) (s : Tables) :
    Except LedgerError (CompletionOutcome × Tables) := do
  let (changed, s') := updateOne (fun c => decide (c.commandId = commandId) && boundTo runId c)
    (fun c => { c with status := .completed, updatedAt := now }) s
  let left ← commandLeft commandId s'
  return if changed then (.completed left, s') else (.notBound left, s')

def markCommandCompletedIfBound (commandId : CommandId) (expectedChildRunId : RunId)
    (now : Millis) (s : Tables) : Except LedgerError (CompletionOutcome × Tables) :=
  match loadCommand commandId s with
  | none => .ok (.notFound, s)
  | some current =>
      if boundTo expectedChildRunId current = false then .ok (.notBound current, s)
      else completeBound commandId expectedChildRunId now s

def childOk (current : Command) (child : Run) : Bool :=
  child.status.isTerminal && decide (child.conversationId = current.conversationId) &&
    decide (child.parentRunId = some current.parentRunId)

def markCommandCompletedIfBoundAndTerminal (commandId : CommandId) (expectedChildRunId : RunId)
    (now : Millis) (s : Tables) : Except LedgerError (CompletionOutcome × Tables) :=
  match loadCommand commandId s with
  | none => .ok (.notFound, s)
  | some current =>
      if boundTo expectedChildRunId current = false then .ok (.notBound current, s)
      else match loadRun expectedChildRunId s with
        | none => .ok (.notBound current, s)
        | some child =>
            if childOk current child = false then .ok (.notBound current, s)
            else completeBound commandId expectedChildRunId now s

def markCommandRejectedIfUnattachedAndBound (commandId : CommandId) (expectedChildRunId : RunId)
    (now : Millis) (s : Tables) : Except LedgerError (RejectionOutcome × Tables) :=
  match loadCommand commandId s with
  | none => .ok (.notFound, s)
  | some current =>
      if boundTo expectedChildRunId current = false then .ok (.notEligible current, s)
      else do
        let (changed, s') := updateOne (fun c => decide (c.commandId = commandId) &&
            boundTo expectedChildRunId c && decide (loadRun expectedChildRunId s = none))
          (fun c => { c with status := .rejected, updatedAt := now }) s
        let left ← commandLeft commandId s'
        return if changed then (.rejected left, s') else (.notEligible left, s')

/-- `c JOIN run r ON r.run_id = c.child_run_id`, both as the query selects them. -/
def finishedChild (s : Tables) (c : Command) : Prop :=
  c.status.inFlight = true ∧ ∃ r ∈ s.runs, c.childRunId = some r.runId ∧ r.status.isTerminal = true

instance (s : Tables) : DecidablePred (finishedChild s) := fun c =>
  inferInstanceAs (Decidable (c.status.inFlight = true ∧
    ∃ r ∈ s.runs, c.childRunId = some r.runId ∧ r.status.isTerminal = true))

def repairOne (now : Millis) (repaired : List Command × Tables) (id : CommandId) :
    Except LedgerError (List Command × Tables) := do
  let s := updateCommands (fun c => decide (c.commandId = id))
    (fun c => { c with status := .completed, updatedAt := now }) repaired.2
  let command ← commandLeft id s
  return (repaired.1 ++ [command], s)

def reconcileCompletedCommands (now : Millis) (s : Tables) :
    Except LedgerError (List Command × Tables) :=
  ((s.commands.filter fun c => decide (finishedChild s c)).map Command.commandId).foldlM
    (repairOne now) ([], s)

end O7Formal.Ledger

/-! ### Events: appending, and reading a conversation page by page -/

namespace O7Formal.Ledger

open Fallible Json Table
open Contracts (SerdeError nesting readerNesting)
open O7Formal.Run (Sha256)

/-- `serde_json::from_str`: it reads back what `to_string` has printed unless arrays and objects
nest too deep in it. A float it reads need not be the one printed. -/
structure Serde where
  fromStr : List Char → Except SerdeError JsonValue
  reads : ∀ v : JsonValue, nesting v.tree ≤ readerNesting → ∃ w, fromStr v.text = .ok w
  stops : ∀ v : JsonValue, readerNesting < nesting v.tree → ∃ e, fromStr v.text = .error e

open Classical in
noncomputable def printedSerde : Serde where
  fromStr text :=
    if printed : ∃ v : JsonValue, v.text = text then
      if nesting printed.choose.tree ≤ readerNesting then .ok printed.choose
      else .error ⟨"syntax", 1, 128⟩
    else .error ⟨"syntax", 1, 1⟩
  reads v shallow := by
    have printed : ∃ w : JsonValue, w.text = v.text := ⟨v, rfl⟩
    have same : printed.choose = v := JsonValue.text_injective printed.choose_spec
    refine ⟨v, ?_⟩
    rw [dif_pos printed, same, if_pos shallow]
  stops v deep := by
    have printed : ∃ w : JsonValue, w.text = v.text := ⟨v, rfl⟩
    have same : printed.choose = v := JsonValue.text_injective printed.choose_spec
    refine ⟨⟨"syntax", 1, 128⟩, ?_⟩
    rw [dif_pos printed, same, if_neg (by omega)]

section Appending

variable (sha256 : Sha256) (serde : Serde)

def persistedEventFromRaw (row : EventRow) : Except LedgerError PersistedEvent := do
  let payload ← (serde.fromStr row.payloadJson).mapError .json
  return ⟨row.eventId, row.conversationId, row.runId, row.attemptId, row.sequence, row.eventType,
    row.schemaVersion, row.createdAt, payload⟩

def eventOr (id : EventId) (s : Tables) : Except LedgerError PersistedEvent := do
  let row ← okOr (findEvent id s) (.notFound ("event " ++ id))
  persistedEventFromRaw serde row

def appendOnce (scope : String) (idempotency : Option Idempotency) (requestDigest : String)
    (event : NewEvent) (now : Millis) (s : Tables) :
    Except LedgerError (PersistedEvent × Tables) := do
  match ← checkOptional scope idempotency requestDigest s with
  | .replayed reference =>
      let event ← eventOr serde reference s
      return (event, s)
  | .fresh =>
      let (event, s) ← emitEvent event now s
      let s ← recordOptional scope idempotency requestDigest event.eventId now s
      return (event, s)

def appendUserMessage (conversation : ConversationId) (payload : JsonValue) (run : Option RunId)
    (idempotency : Option Idempotency) (stamp : Stamp) (s : Tables) :
    Except LedgerError (PersistedEvent × Tables) :=
  appendOnce serde scopeAppendUserMessage idempotency
    (requestDigest sha256 (userMessageTree conversation payload run))
    ⟨stamp.eventId, conversation, run, none, .userMessage, eventSchemaVersion, payload⟩ stamp.now s

def appendSystemNote (conversation : ConversationId) (run : Option RunId)
    (attempt : Option AttemptId) (payload : JsonValue) (idempotency : Idempotency) (stamp : Stamp)
    (s : Tables) : Except LedgerError (PersistedEvent × Tables) :=
  appendOnce serde scopeAppendSystemNote (some idempotency)
    (requestDigest sha256 (systemNoteTree conversation run attempt payload))
    ⟨stamp.eventId, conversation, run, attempt, .systemNote, eventSchemaVersion, payload⟩
    stamp.now s

end Appending

def appendEvent (event : NewEvent) (now : Millis) (s : Tables) :
    Except LedgerError (PersistedEvent × Tables) :=
  emitEvent event now s

def maxReadLimit : Nat := 1000

/-- `WHERE conversation_id = ? AND sequence > ? ORDER BY sequence` -/
def rowsAfter (conversation : ConversationId) (after : Int) (s : Tables) : List EventRow :=
  (s.events.filter fun e => decide (e.conversationId = conversation ∧ after < e.sequence)).mergeSort
    fun a b => decide (a.sequence ≤ b.sequence)

def readEvents (serde : Serde) (conversation : ConversationId) (afterSequence : Option UInt64)
    (limit : Nat) (s : Tables) : Except LedgerError (List PersistedEvent) :=
  let capped := min limit maxReadLimit
  let after : Int := min ((afterSequence.getD 0).toNat : Int) i64Max
  ((rowsAfter conversation after s).take capped).mapM (persistedEventFromRaw serde)

end O7Formal.Ledger
