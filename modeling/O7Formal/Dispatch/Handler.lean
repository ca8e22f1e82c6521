import O7Formal.Dispatch.Continue

/-! `POST /conversations/{id}/commands`: acceptance, binding and spawn of a command, and the redrive
or the recovery of one whose child run went quiet. -/

namespace O7Formal.Dispatch

open Program
open O7Formal.Ledger (Command CommandId CommandStatus ConversationId NewCommand)

inductive RedriveError where
  | invalidRecord (reason : Reason)
  | recoveryFailed (error : CatchUpError)
  | notTerminal (why : String)
  | storage (why : String) (fault : Option Fault)
  | providerOutcomeAmbiguous (commandId childRunId : String) (phase : DispatchProgress)

inductive ApiError where
  | ledger (fault : Fault)
  | redrive (error : RedriveError)
  | internal (code : String)

def RedriveError.code : RedriveError → String × Bool
  | .invalidRecord _ => ("COMMAND_CANONICAL_RECORD_INVALID", false)
  | .recoveryFailed _ | .notTerminal _ => ("COMMAND_RECOVERY_FAILED", false)
  | .storage _ _ => ("REDRIVE_STORAGE_ERROR", false)
  | .providerOutcomeAmbiguous _ _ _ => ("COMMAND_PROVIDER_OUTCOME_AMBIGUOUS", true)

/-- `now_millis().saturating_sub(updated_at) >= threshold` -/
def commandIsStale (env : Setting) (command : Command) : Code Bool := do
  let stamp ← stampCall
  let age := max (-2 ^ 63) (min (stamp.now - command.updatedAt) Ledger.i64Max)
  pure (decide (env.staleRedriveThresholdMs ≤ age))

def spawnContinue (conversationId : ConversationId) (parentRunId : RunId) (command : Command) :
    Fallible Fault Unit :=
  spawnProcess ⟨conversationId, parentRunId, command.commandText, command.childRunId.getD "",
    command.commandId⟩

def ambiguousOrInvalid (oldRunId : RunId) (command : Command) :
    ChildRecordState → Option RedriveError
  | .validUnsealedDispatchAmbiguous progress =>
      some (.providerOutcomeAmbiguous command.commandId oldRunId progress)
  | .invalid reason => some (.invalidRecord reason)
  | .absent | .validUnsealedPreDispatch | .validSealed => none

def reread (commandId : CommandId) (vanished failed : String) :
    Fallible RedriveError Command := do
  match ← caught (ledgerCommand commandId) with
  | .error e => throw (.storage failed (some e))
  | .ok none => throw (.storage ("command " ++ commandId ++ vanished) none)
  | .ok (some current) => pure current

def orRefuse (oldRunId : RunId) (current : Command) (otherwise : Fallible RedriveError Command) :
    Fallible RedriveError Command := do
  let state ← liftM (classifyChildRecord oldRunId current)
  match ambiguousOrInvalid oldRunId current state with
  | some e => throw e
  | none => otherwise

/-- Poll until the owner of the lock has decided, `polls` times before the deadline. -/
def convergeOnWinner (commandId : CommandId) (oldRunId : RunId) :
    Nat → Fallible RedriveError Command
  | 0 => do
      let current ← reread commandId " vanished before the final lock-loser re-read"
        "final lock-loser re-read failed"
      orRefuse oldRunId current (pure current)
  | polls + 1 => do
      let current ← reread commandId " vanished while polling for lock-loser convergence"
        "re-reading command during lock-loser poll"
      if current.childRunId ≠ some oldRunId ∨ current.status = .completed then pure current
      else orRefuse oldRunId current (convergeOnWinner commandId oldRunId polls)

section Handler

variable (env : Setting)

def recoverSealedChild (command : Command) (oldRunId : RunId) :
    Fallible RedriveError Command := do
  let receipt ← failingAs .recoveryFailed (catchUpRecord env oldRunId ⟨command.commandId,
    command.conversationId, command.parentRunId, oldRunId, command.commandText⟩)
  if receipt.sealed = false then
    throw (.notTerminal ("scoped catch-up for run " ++ oldRunId ++
      " did not report a sealed receipt"))
  else
    match ← caught (ledgerCall asCompletion fun stamp =>
      .markCommandCompletedIfBoundAndTerminal command.commandId oldRunId stamp.now) with
    | .ok (.completed updated) => pure updated
    | .ok (.notBound _) | .ok .notFound => throw (.notTerminal
        ("scoped catch-up reported success, but the ledger's own child run is not (yet) a " ++
          "bound, terminal match — refusing to complete the command"))
    | .error e => throw (.storage "marking command completed after sealed-record recovery" (some e))

def redriveChild (command : Command) (oldRunId : RunId) (conversationId : ConversationId)
    (parentRunId : RunId) : Fallible RedriveError Command := do
  let fresh ← liftM generateRunId
  match ← caught (ledgerCall asRebind fun stamp => .rebindCommandChildRunIfCurrent
    command.commandId oldRunId command.updatedAt fresh stamp.now) with
  | .ok (.rebound rebound) =>
      -- A spawn that fails is reported: a later retry redrives the fresh id in turn.
      let _ ← caught (spawnContinue conversationId parentRunId rebound)
      pure rebound
  | .ok (.lostRace current) | .ok (.notEligible current) => pure current
  | .ok .notFound => pure command
  | .error e => throw (.storage "rebind_command_child_run_if_current failed" (some e))

def decideLocked (command : Command) (oldRunId : RunId) (conversationId : ConversationId)
    (parentRunId : RunId) : Fallible RedriveError Command := do
  match ← liftM (classifyChildRecord oldRunId command) with
  | .invalid reason => throw (.invalidRecord reason)
  | .validSealed => recoverSealedChild env command oldRunId
  | .validUnsealedDispatchAmbiguous progress =>
      throw (.providerOutcomeAmbiguous command.commandId oldRunId progress)
  | .absent | .validUnsealedPreDispatch =>
      redriveChild command oldRunId conversationId parentRunId

def redriveOrRecoverLocked (polls : Nat) (command : Command) (oldRunId : RunId)
    (conversationId : ConversationId) (parentRunId : RunId) : Fallible RedriveError Command := do
  match ← caught (attempt "opening the lock file") with
  | .error _ => pure command
  | .ok () =>
      match ← liftM (lockCall oldRunId) with
      | .failed _ => pure command
      | .wouldBlock => convergeOnWinner command.commandId oldRunId polls
      | .acquired => decideLocked env command oldRunId conversationId parentRunId

structure CommandRequest where
  request : NewCommand
  key : String
  polls : Nat

structure CommandAccepted where
  commandId : CommandId
  conversationId : ConversationId
  parentRunId : RunId
  runId : RunId
  status : CommandStatus

def bindAndSpawn (request : NewCommand) (command : Command) : Fallible ApiError Command := do
  let candidate ← liftM generateRunId
  let bound ← failingAs .ledger (ledgerCall asCommand fun stamp =>
    .bindCommandChildRun command.commandId candidate stamp.now)
  if bound.childRunId = some candidate then
    failingAs (fun _ => .internal "SPAWN_FAILED")
      (spawnContinue request.conversationId request.parentRunId bound)
    pure bound
  else pure bound

def replayBound (req : CommandRequest) (command : Command) (runId : RunId) :
    Fallible ApiError Command := do
  if command.status.inFlight then
    if ← liftM (commandIsStale env command) then
      failingAs .redrive (redriveOrRecoverLocked env req.polls command runId
        req.request.conversationId req.request.parentRunId)
    else pure command
  else pure command

def dispatchOrRedrive (req : CommandRequest) (command : Command) : Fallible ApiError Command :=
  match command.childRunId with
  | some runId => replayBound env req command runId
  | none => bindAndSpawn req.request command

def accepted (req : CommandRequest) (isFresh : Bool) (final : Command) :
    Except ApiError CommandAccepted :=
  match final.childRunId with
  | none => .error (.internal "COMMAND_BIND_MISSING")
  | some runId => .ok ⟨final.commandId, req.request.conversationId, req.request.parentRunId,
      runId, if isFresh then .accepted else final.status⟩

def createCommand (req : CommandRequest) : Fallible ApiError CommandAccepted := do
  let command ← failingAs .ledger (ledgerCall asCommand fun stamp =>
    .createCommand req.request ⟨req.key⟩ stamp.eventId stamp.now)
  let final ← dispatchOrRedrive env req command
  ofExcept (accepted req (decide (command.childRunId = none)) final)

end Handler

end O7Formal.Dispatch
