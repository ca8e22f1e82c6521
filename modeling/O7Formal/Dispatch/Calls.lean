import O7Formal.Dispatch.Record
import O7Formal.Ledger.Step
import O7Formal.Lib.Program
import O7Formal.Run.EventChain

/-! What the request handler and a continuation process ask of the world around them: the ledger,
the record directories, the run-id locks, the clock, the process table and the provider. -/

namespace O7Formal.Dispatch

open Json Program
open O7Formal.Ledger (Command CommandId Conversation ConversationId LedgerError Millis Op Reply
  RunAttempt Stamp)
open O7Formal.Run (Externals IdError PushError RunEvent Sha256)

inductive Fault where
  | ledger (error : LedgerError)
  | io (why : String)
  | refused (why : String)
  | chain (error : PushError)
  | id (error : IdError)

structure ContinueArgs where
  conversationId : ConversationId
  parentRunId : RunId
  command : String
  runId : RunId
  commandId : CommandId
  deriving DecidableEq, Repr

inductive RecordFile where
  | ledgerBinding (binding : LedgerBinding)
  | commandBinding (binding : CommandBinding) (bytes : List UInt8)
  | file (locator : String) (bytes : List UInt8)

/-- The answer of a non-blocking exclusive `flock`. -/
inductive LockAnswer where
  | acquired
  | wouldBlock
  | failed (errno : String)

inductive Call where
  | stamp
  | clock
  | ledger (op : Op)
  | command (id : CommandId)
  | run (id : RunId)
  | conversation (id : ConversationId)
  | runningAttempt (runId : RunId)
  | latestAttempt (runId : RunId)
  | tryLock (runId : RunId)
  | generateRunId
  | classify (runId : RunId) (command : Command)
  | record (runId : RunId)
  | write (runId : RunId) (file : RecordFile)
  | append (runId : RunId) (event : RunEvent)
  | invoke (commandId : CommandId) (runId : RunId)
  | spawn (args : ContinueArgs)
  | attempt (what : String)

def Call.Answer : Call → Type
  | .stamp => Stamp
  | .clock => Option Int64
  | .ledger _ => Except Fault Reply
  | .command _ => Except Fault (Option Command)
  | .run _ => Except Fault (Option Ledger.Run)
  | .conversation _ => Except Fault (Option Conversation)
  | .runningAttempt _ | .latestAttempt _ => Except Fault (Option RunAttempt)
  | .tryLock _ => LockAnswer
  | .generateRunId => RunId
  | .classify _ _ => ChildRecordState
  | .record _ => RecordDir
  | .write _ _ | .append _ _ | .invoke _ _ | .spawn _ | .attempt _ => Except Fault Unit

abbrev Code := Program Call Call.Answer

abbrev Fallible (ε : Type) := ExceptT ε Code

/-- What the processes take from the libraries below them, and the staleness bound. -/
structure Setting where
  sha256 : Sha256
  serde : Ledger.Serde
  ext : Externals
  payload : RunEvent → JsonValue
  writeBinding : CommandBinding → List UInt8
  readSession : List UInt8 → Except String ProviderSessionReceipt
  staleRedriveThresholdMs : Millis

def ask (c : Call) : Code c.Answer := perform c

def stampCall : Code Stamp := ask .stamp
def clockCall : Code (Option Int64) := ask .clock
def lockCall (runId : RunId) : Code LockAnswer := ask (.tryLock runId)
def generateRunId : Code RunId := ask .generateRunId
def recordCall (runId : RunId) : Code RecordDir := ask (.record runId)

def classifyChildRecord (runId : RunId) (command : Command) : Code ChildRecordState :=
  ask (.classify runId command)

def ledgerCommand (id : CommandId) : Fallible Fault (Option Command) :=
  ExceptT.mk (ask (.command id))

def ledgerRun (id : RunId) : Fallible Fault (Option Ledger.Run) := ExceptT.mk (ask (.run id))

def ledgerConversation (id : ConversationId) : Fallible Fault (Option Conversation) :=
  ExceptT.mk (ask (.conversation id))

def runningAttempt (runId : RunId) : Fallible Fault (Option RunAttempt) :=
  ExceptT.mk (ask (.runningAttempt runId))

def latestAttempt (runId : RunId) : Fallible Fault (Option RunAttempt) :=
  ExceptT.mk (ask (.latestAttempt runId))

def writeRecord (runId : RunId) (file : RecordFile) : Fallible Fault Unit :=
  ExceptT.mk (ask (.write runId file))

def appendEvent (runId : RunId) (event : RunEvent) : Fallible Fault Unit :=
  ExceptT.mk (ask (.append runId event))

def invokeProvider (commandId : CommandId) (runId : RunId) : Fallible Fault Unit :=
  ExceptT.mk (ask (.invoke commandId runId))

def spawnProcess (args : ContinueArgs) : Fallible Fault Unit := ExceptT.mk (ask (.spawn args))

def attempt (what : String) : Fallible Fault Unit := ExceptT.mk (ask (.attempt what))

def ofExcept {ε α : Type} (x : Except ε α) : Fallible ε α := ExceptT.mk (pure x)

def failingAs {ε ε' α : Type} (f : ε → ε') (x : Fallible ε α) : Fallible ε' α :=
  ExceptT.mk do
    let result ← x.run
    pure (result.mapError f)

def caught {ε ε' α : Type} (x : Fallible ε α) : Fallible ε' (Except ε α) := liftM x.run

def okOrThrow {α : Type} (x : Option α) (why : String) : Fallible Fault α :=
  match x with
  | some a => pure a
  | none => throw (.refused why)

def ensure (holds : Prop) [Decidable holds] (why : String) : Fallible Fault Unit :=
  if holds then pure () else throw (.refused why)

def asRun : Reply → Option Ledger.Run
  | .run row => some row
  | _ => none

def asAttempt : Reply → Option RunAttempt
  | .attempt row => some row
  | _ => none

def asCommand : Reply → Option Command
  | .command row => some row
  | _ => none

def asRebind : Reply → Option Ledger.RebindOutcome
  | .rebind outcome => some outcome
  | _ => none

def asCompletion : Reply → Option Ledger.CompletionOutcome
  | .completion outcome => some outcome
  | _ => none

def asRejection : Reply → Option Ledger.RejectionOutcome
  | .rejection outcome => some outcome
  | _ => none

def ledgerOp (op : Op) : Fallible Fault Reply := ExceptT.mk (ask (.ledger op))

/-- An operation and its own reply; no operation answers with another's. -/
def ledgerCall {α : Type} (read : Reply → Option α) (op : Stamp → Op) : Fallible Fault α := do
  let stamp ← stampCall
  let reply ← ledgerOp (op stamp)
  okOrThrow (read reply) "unexpected reply"

end O7Formal.Dispatch
