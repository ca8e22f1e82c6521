import O7Formal.Ledger.Commands

/-! The ledger as a state machine: every public operation that writes, with any arguments, is one
step, and an operation that fails leaves the tables as they were. -/

namespace O7Formal.Ledger

open Fallible Json
open O7Formal.Run (Sha256)

inductive Op where
  | createConversation (idempotency : Option Idempotency) (generated : ConversationId)
      (stamp : Stamp)
  | createRun (request : NewRun) (idempotency : Option Idempotency) (generated : RunId)
      (stamp : Stamp)
  | createRunWithId (request : NewRun) (runId : RunId) (idempotency : Idempotency) (stamp : Stamp)
  | startRun (runId : RunId) (stamp : Stamp)
  | completeRun (runId : RunId) (stamp : Stamp)
  | failRun (runId : RunId) (stamp : Stamp)
  | cancelRun (runId : RunId) (stamp : Stamp)
  | interruptRun (runId : RunId) (stamp : Stamp)
  | blockRun (runId : RunId) (stamp : Stamp)
  | errorRun (runId : RunId) (stamp : Stamp)
  | createAttempt (runId : RunId) (generated : AttemptId) (now : Millis)
  | setAttemptStatus (attemptId : AttemptId) (target : AttemptStatus) (now : Millis)
  | resumeInterruptedRun (runId : RunId) (generated : AttemptId) (stamp : Stamp)
  | repairInterruptedRunToTerminal (runId : RunId) (target : RunStatus) (stamp : Stamp)
  | markInterrupted (runs : List (RunId × Stamp)) (attempts : List (AttemptId × Millis))
  | setRunProviderSession (runId : RunId) (session : String)
  | createCommand (request : NewCommand) (idempotency : Idempotency) (generated : CommandId)
      (now : Millis)
  | bindCommandChildRun (commandId : CommandId) (runId : RunId) (now : Millis)
  | markCommandCompleted (commandId : CommandId) (now : Millis)
  | markCommandRejected (commandId : CommandId) (now : Millis)
  | claimStaleCommandForRedrive (commandId : CommandId) (expectedUpdatedAt now : Millis)
  | rebindCommandChildRun (commandId : CommandId) (newRunId : RunId) (now : Millis)
  | rebindCommandChildRunIfCurrent (commandId : CommandId) (expectedOldRunId : RunId)
      (expectedUpdatedAt : Millis) (freshRunId : RunId) (now : Millis)
  | markCommandCompletedIfBound (commandId : CommandId) (expectedChildRunId : RunId)
      (now : Millis)
  | markCommandCompletedIfBoundAndTerminal (commandId : CommandId) (expectedChildRunId : RunId)
      (now : Millis)
  | markCommandRejectedIfUnattachedAndBound (commandId : CommandId) (expectedChildRunId : RunId)
      (now : Millis)
  | reconcileCompletedCommands (now : Millis)
  | appendUserMessage (conversation : ConversationId) (payload : JsonValue) (run : Option RunId)
      (idempotency : Option Idempotency) (stamp : Stamp)
  | appendSystemNote (conversation : ConversationId) (run : Option RunId)
      (attempt : Option AttemptId) (payload : JsonValue) (idempotency : Idempotency)
      (stamp : Stamp)
  | appendEvent (event : NewEvent) (now : Millis)

inductive Reply where
  | conversation (row : Conversation)
  | run (row : Run)
  | attempt (row : RunAttempt)
  | command (row : Command)
  | commands (rows : List Command)
  | event (event : PersistedEvent)
  | claimed (changed : Bool)
  | rebind (outcome : RebindOutcome)
  | completion (outcome : CompletionOutcome)
  | rejection (outcome : RejectionOutcome)
  | done

def replying {α : Type} (reply : α → Reply) (x : Except LedgerError (α × Tables)) :
    Except LedgerError (Reply × Tables) :=
  x.map fun p => (reply p.1, p.2)

variable (sha256 : Sha256) (serde : Serde)

def exec (s : Tables) : Op → Except LedgerError (Reply × Tables)
  | .createConversation idempotency generated stamp =>
      replying .conversation (createConversation sha256 idempotency generated stamp s)
  | .createRun request idempotency generated stamp =>
      replying .run (createRun sha256 request idempotency generated stamp s)
  | .createRunWithId request runId idempotency stamp =>
      replying .run (createRunWithId sha256 request runId idempotency stamp s)
  | .startRun runId stamp => replying .run (startRun runId stamp s)
  | .completeRun runId stamp => replying .run (completeRun runId stamp s)
  | .failRun runId stamp => replying .run (failRun runId stamp s)
  | .cancelRun runId stamp => replying .run (cancelRun runId stamp s)
  | .interruptRun runId stamp => replying .run (interruptRun runId stamp s)
  | .blockRun runId stamp => replying .run (blockRun runId stamp s)
  | .errorRun runId stamp => replying .run (errorRun runId stamp s)
  | .createAttempt runId generated now =>
      replying .attempt (createAttempt runId generated now s)
  | .setAttemptStatus attemptId target now =>
      replying .attempt (setAttemptStatus attemptId target now s)
  | .resumeInterruptedRun runId generated stamp =>
      replying .attempt (resumeInterruptedRun runId generated stamp s)
  | .repairInterruptedRunToTerminal runId target stamp =>
      replying .run (repairInterruptedRunToTerminal runId target stamp s)
  | .markInterrupted runs attempts => (markInterrupted runs attempts s).map fun s' => (.done, s')
  | .setRunProviderSession runId session => replying .run (setRunProviderSession runId session s)
  | .createCommand request idempotency generated now =>
      replying .command (createCommand sha256 request idempotency generated now s)
  | .bindCommandChildRun commandId runId now =>
      replying .command (bindCommandChildRun commandId runId now s)
  | .markCommandCompleted commandId now =>
      replying .command (markCommandCompleted commandId now s)
  | .markCommandRejected commandId now => replying .command (markCommandRejected commandId now s)
  | .claimStaleCommandForRedrive commandId expectedUpdatedAt now =>
      let claimed := claimStaleCommandForRedrive commandId expectedUpdatedAt now s
      .ok (.claimed claimed.1, claimed.2)
  | .rebindCommandChildRun commandId newRunId now =>
      replying .command (rebindCommandChildRun commandId newRunId now s)
  | .rebindCommandChildRunIfCurrent commandId expectedOldRunId expectedUpdatedAt freshRunId now =>
      replying .rebind (rebindCommandChildRunIfCurrent commandId expectedOldRunId
        expectedUpdatedAt freshRunId now s)
  | .markCommandCompletedIfBound commandId expectedChildRunId now =>
      replying .completion (markCommandCompletedIfBound commandId expectedChildRunId now s)
  | .markCommandCompletedIfBoundAndTerminal commandId expectedChildRunId now =>
      replying .completion
        (markCommandCompletedIfBoundAndTerminal commandId expectedChildRunId now s)
  | .markCommandRejectedIfUnattachedAndBound commandId expectedChildRunId now =>
      replying .rejection
        (markCommandRejectedIfUnattachedAndBound commandId expectedChildRunId now s)
  | .reconcileCompletedCommands now => replying .commands (reconcileCompletedCommands now s)
  | .appendUserMessage conversation payload run idempotency stamp =>
      replying .event (appendUserMessage sha256 serde conversation payload run idempotency stamp s)
  | .appendSystemNote conversation run attempt payload idempotency stamp =>
      replying .event
        (appendSystemNote sha256 serde conversation run attempt payload idempotency stamp s)
  | .appendEvent event now => replying .event (appendEvent event now s)

/-- `with_tx`: an error rolls the transaction back. -/
def step (s : Tables) (op : Op) : Tables :=
  match exec sha256 serde s op with
  | .ok (_, s') => s'
  | .error _ => s

def run (s : Tables) (ops : List Op) : Tables := ops.foldl (step sha256 serde) s

def Reachable (s : Tables) : Prop := ∃ ops, run sha256 serde .empty ops = s

variable {sha256 serde}

theorem run_append (s : Tables) (ops later : List Op) :
    run sha256 serde s (ops ++ later) = run sha256 serde (run sha256 serde s ops) later := by
  rw [run, List.foldl_append]
  rfl

theorem run_singleton (s : Tables) (op : Op) :
    run sha256 serde s [op] = step sha256 serde s op := rfl

theorem replying_ok {α : Type} {reply : α → Reply} {x : Except LedgerError (α × Tables)}
    {r : Reply} {s : Tables} (ok : replying reply x = .ok (r, s)) :
    ∃ a, x = .ok (a, s) ∧ reply a = r := by
  cases x with
  | error e => cases ok
  | ok p =>
      cases ok
      exact ⟨p.1, rfl, rfl⟩

theorem step_error {s : Tables} {op : Op} {e : LedgerError}
    (failed : exec sha256 serde s op = .error e) : step sha256 serde s op = s := by
  rw [step, failed]

theorem step_ok {s s' : Tables} {op : Op} {reply : Reply}
    (ok : exec sha256 serde s op = .ok (reply, s')) : step sha256 serde s op = s' := by
  rw [step, ok]

theorem step_keeps {motive : Tables → Prop} {s : Tables} {op : Op} (held : motive s)
    (keeps : ∀ reply s', exec sha256 serde s op = .ok (reply, s') → motive s') :
    motive (step sha256 serde s op) := by
  cases result : exec sha256 serde s op with
  | error e =>
      rw [step_error result]
      exact held
  | ok p =>
      rw [step_ok result]
      exact keeps p.1 p.2 result

theorem reachable_invariant {motive : Tables → Prop} (initially : motive .empty)
    (keeps : ∀ s op reply s', motive s → exec sha256 serde s op = .ok (reply, s') → motive s')
    {s : Tables} (reached : Reachable sha256 serde s) : motive s := by
  rcases reached with ⟨ops, ran⟩
  rw [← ran]
  apply List.foldlRecOn
  · exact initially
  · intro s held op _
    exact step_keeps held fun reply s' ok => keeps s op reply s' held ok

end O7Formal.Ledger
