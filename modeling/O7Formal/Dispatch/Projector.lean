import O7Formal.Dispatch.Calls

/-! The live projection of a run into the ledger, and the catch-up of one sealed record. -/

namespace O7Formal.Dispatch

open Fallible Program
open O7Formal.Ledger (ConversationId AttemptId Op RunStatus Stamp)
open O7Formal.Run (RunEvent RunState)

structure LiveLedgerProjector where
  conversationId : ConversationId
  runId : RunId
  attemptId : Option AttemptId

def openProjection (conversationId : ConversationId) : Fallible Fault ConversationId := do
  let found ← ledgerConversation conversationId
  let _ ← okOrThrow found ("--conversation-id " ++ conversationId ++
    " does not resolve to an existing ledger conversation — refusing to guess or create one " ++
    "under a caller-supplied id")
  pure conversationId

def liveAttempt (runId : RunId) : Fallible Fault (Option AttemptId) := do
  match ← runningAttempt runId with
  | some attempt => pure (some attempt.attemptId)
  | none =>
      let made ← ledgerCall asAttempt fun stamp => .createAttempt runId stamp.eventId stamp.now
      pure (some made.attemptId)

def lastAttempt (runId : RunId) : Fallible Fault (Option AttemptId) := do
  let last ← latestAttempt runId
  pure (last.map Ledger.RunAttempt.attemptId)

def isLive (status : RunStatus) : Bool := decide (status = .queued ∨ status = .running)

def startQueued (run : Ledger.Run) : Fallible Fault Unit :=
  if run.status = .queued then do
    let _ ← ledgerCall asRun fun stamp => .startRun run.runId stamp
  else pure ()

/-- A run that is not live keeps the attempt its events were noted under. -/
def attachedAttempt (run : Ledger.Run) : Fallible Fault (Option AttemptId) :=
  if isLive run.status then liveAttempt run.runId else lastAttempt run.runId

def attachRun (conversationId : ConversationId) (runId : CanonicalRunId) (agent role : String)
    (parentRunId : Option CanonicalRunId) : Fallible Fault LiveLedgerProjector := do
  let run ← ledgerCall asRun fun stamp => .createRunWithId
    ⟨conversationId, parentRunId.map Run.Id.asStr, agent, role⟩ runId.asStr ⟨runId.asStr⟩ stamp
  startQueued run
  let attemptId ← attachedAttempt run
  pure ⟨run.conversationId, run.runId, attemptId⟩

section Projecting

variable (env : Setting) (projector : LiveLedgerProjector)

def project (event : RunEvent) : Fallible Fault Unit := do
  let stamp ← stampCall
  let _ ← ledgerOp (.appendSystemNote projector.conversationId (some projector.runId)
    projector.attemptId (env.payload event)
    ⟨projector.runId ++ ":" ++ toString event.sequence⟩ stamp)

def projectLive (event : RunEvent) : Code Unit := do
  let _ ← (project env projector event).run

def sealTarget : Run.Verdict → RunStatus
  | .pass => .completed
  | .fail => .failed
  | .blocked => .blocked
  | .error => .error

def sealOp (runId : RunId) (verdict : Run.Verdict) (stamp : Stamp) : Op :=
  match verdict with
  | .pass => .completeRun runId stamp
  | .fail => .failRun runId stamp
  | .blocked => .blockRun runId stamp
  | .error => .errorRun runId stamp

def isSettled : RunStatus → Bool
  | .completed | .failed | .cancelled | .blocked | .error | .interrupted => true
  | .queued | .running => false

def sealInner (verdict : Run.Verdict) (allowInterruptedRepair : Bool) : Fallible Fault Unit := do
  let current ← okOrThrow (← ledgerRun projector.runId) ("run " ++ projector.runId ++ " not found")
  if current.status = sealTarget verdict then pure ()
  else if allowInterruptedRepair = true ∧ current.status = .interrupted then
    let _ ← ledgerCall asRun fun stamp =>
      .repairInterruptedRunToTerminal projector.runId (sealTarget verdict) stamp
  else if isSettled current.status then
    throw (.refused ("run " ++ projector.runId ++ " is already " ++ current.status.variant ++
      ", cannot seal it as " ++ (sealTarget verdict).variant ++
      " — a settled run's outcome must never be silently overwritten"))
  else
    let _ ← ledgerCall asRun (sealOp projector.runId verdict)

def projectAll : List RunEvent → Code Bool
  | [] => pure true
  | event :: rest => do
      let result ← (project env projector event).run
      let others ← projectAll rest
      pure (result.isOk && others)

end Projecting

structure ExpectedIdentity where
  commandId : String
  conversationId : String
  parentRunId : String
  childRunId : String
  commandText : String

inductive SessionBackfillOutcome where
  | noCanonicalReceipt
  | alreadyPresent
  | backfilled
  deriving DecidableEq, Repr

structure CatchUpReceipt where
  runId : String
  conversationId : String
  parentRunId : Option String
  verdict : Option Run.Verdict
  sealed : Bool
  sessionBackfill : SessionBackfillOutcome
  projectionApplied : Bool

inductive CatchUpError where
  | verification (reason : Reason)
  | identityMismatch (why : String)
  | sessionConflict (why : String)
  | ledger (fault : Fault)

def readStream (env : Setting) (dir : RecordDir) :
    Except CatchUpError (List RunEvent × RunState) :=
  match dir.events with
  | .missing => .error (.verification (.text "reading canonical events.jsonl: not found"))
  | .unreadable why =>
      .error (.verification (.text ("reading canonical events.jsonl: " ++ why)))
  | .lines held => do
      let stream ← (fromJsonl held).mapError fun why => .verification (.text why)
      let (state, _) ← (Run.verifyPrefix env.sha256 env.ext (recordDirResolver dir) stream).mapError
        fun e => .verification (.replay e)
      pure (stream, state)

def checkOwnBinding (binding : Option LedgerBinding) (runId : CanonicalRunId) :
    Except CatchUpError Unit :=
  match binding with
  | none => .ok ()
  | some b => do
      refuseIf (b.schema ≠ 1)
        (.identityMismatch (unsupportedSchema "ledger_binding.json" b.schema))
      refuseIf (b.runId ≠ runId.asStr) (.identityMismatch ("ledger_binding.json's run_id " ++
        b.runId ++ " does not match this record's canonical run_id " ++ runId.asStr))

def checkUnsealed (state : RunState) (existing : Option Ledger.Run) (runId : CanonicalRunId) :
    Except CatchUpError Unit :=
  match existing with
  | none => .ok ()
  | some run => refuseIf (state.verdict = none ∧ run.status.isTerminal = true)
      (.verification (.text ("canonical stream is NOT sealed (no fixed verdict yet), but the " ++
        "existing ledger run " ++ runId.asStr ++ " is already " ++ run.status.variant ++
        " — refusing to attach an unsealed prefix on top of a sealed terminal ledger run")))

def disagrees (field : String) : CatchUpError :=
  .identityMismatch ("ledger_binding.json's " ++ field ++
    " disagrees with the existing ledger run's own " ++ field)

structure AttachTarget where
  conversationId : ConversationId
  agent : String
  role : String
  parentRunId : Option String

def attachTarget (binding : Option LedgerBinding) (existing : Option Ledger.Run) :
    Except CatchUpError AttachTarget :=
  match existing, binding with
  | some run, none => .ok ⟨run.conversationId, run.agent, run.role, run.parentRunId⟩
  | some run, some b => do
      refuseIf (b.conversationId ≠ run.conversationId) (disagrees "conversation_id")
      refuseIf (b.agent ≠ run.agent) (disagrees "agent")
      refuseIf (b.role ≠ run.role) (disagrees "role")
      refuseIf (b.parentRunId ≠ run.parentRunId) (disagrees "parent_run_id")
      pure ⟨run.conversationId, run.agent, run.role, run.parentRunId⟩
  | none, some b => .ok ⟨b.conversationId, b.agent, b.role, b.parentRunId⟩
  | none, none => .error (.identityMismatch
      "no existing ledger run row and no ledger_binding.json — refusing to guess a conversation")

def unexpectedBinding (field : String) : CatchUpError :=
  .identityMismatch ("command_binding.json's " ++ field ++ " disagrees with the expected command")

def checkExpected (env : Setting) (dir : RecordDir) (state : RunState) (runId : CanonicalRunId)
    (expected : ExpectedIdentity) : Except CatchUpError Unit := do
  let found ← dir.commandBinding.mapError
    fun why => .ledger (.io ("reading command_binding.json: " ++ why))
  let cb ← okOr found (.identityMismatch
    "no command_binding.json present for a command-continuation record")
  refuseIf (cb.schema ≠ 1) (.identityMismatch (unsupportedSchema "command_binding.json" cb.schema))
  refuseIf (cb.commandId ≠ expected.commandId) (unexpectedBinding "command_id")
  refuseIf (cb.conversationId ≠ expected.conversationId) (unexpectedBinding "conversation_id")
  refuseIf (cb.parentRunId ≠ expected.parentRunId) (unexpectedBinding "parent_run_id")
  refuseIf (cb.childRunId ≠ expected.childRunId ∨ cb.childRunId ≠ runId.asStr)
    (.identityMismatch ("command_binding.json's child_run_id disagrees with the expected " ++
      "command or this record's own canonical run_id"))
  refuseIf (cb.commandSha256 ≠ (textDigest env.sha256 expected.commandText).asStr)
    (.identityMismatch
      "command_binding.json's command_sha256 disagrees with the expected command text")
  refuseIf (∃ task ∈ state.task, task.digest ≠ textDigest env.sha256 expected.commandText)
    (.identityMismatch
      "the canonical task artifact's digest disagrees with the expected command text")

/-- `ProviderSessionId::new` -/
def checkProviderSession (session : String) : Except String Unit := do
  refuseIf (session = "") "provider session id is empty"
  refuseIf (session.toList.any Ledger.isControl = true)
    "provider session id contains a control character"

def receiptSession (env : Setting) (dir : RecordDir) (runId : CanonicalRunId)
    (receipt : Run.ArtifactRef) : Except CatchUpError String := do
  let bytes ← (dir.read receipt.locator).mapError
    fun why => .ledger (.io ("re-reading session_receipt.json: " ++ why))
  let parsed ← (env.readSession bytes).mapError
    fun why => .identityMismatch ("parsing session_receipt.json: " ++ why)
  refuseIf (parsed.schema ≠ 1)
    (.identityMismatch (unsupportedSchema "session_receipt.json" parsed.schema))
  refuseIf (parsed.runId ≠ runId.asStr) (.identityMismatch
    "session_receipt.json's run_id disagrees with this record's own canonical run_id")
  refuseIf (parsed.engine ≠ "claude" ∨ parsed.provider ≠ "claude") (.identityMismatch
    "session_receipt.json's engine/provider is not a supported continuation path")
  (checkProviderSession parsed.sessionId).mapError
    fun why => .identityMismatch ("session_receipt.json's own session_id: " ++ why)
  pure parsed.sessionId

def backfillSession (runId : CanonicalRunId) (session : String) :
    Fallible CatchUpError SessionBackfillOutcome := do
  let current ← failingAs .ledger (ledgerRun runId.asStr)
  match current.bind Ledger.Run.providerSessionId with
  | none =>
      let _ ← failingAs .ledger
        (ledgerCall asRun fun _ => .setRunProviderSession runId.asStr session)
      pure .backfilled
  | some existing =>
      if existing = session then pure .alreadyPresent
      else throw (.sessionConflict ("the ledger already holds a session for this run that " ++
        "disagrees with its own canonical receipt — refusing to overwrite"))

def backfill (env : Setting) (dir : RecordDir) (state : RunState) (runId : CanonicalRunId) :
    Fallible CatchUpError SessionBackfillOutcome :=
  match state.providerSessionReceipt with
  | none => pure .noCanonicalReceipt
  | some receipt => do
      let session ← ofExcept (receiptSession env dir runId receipt)
      backfillSession runId session

def mintRunId (raw : String) : Except Fault CanonicalRunId := (Run.Id.new .run raw).mapError .id

def mintParent : Option String → Except CatchUpError (Option CanonicalRunId)
  | none => .ok none
  | some raw => ((Run.Id.new .run raw).mapError fun e =>
      CatchUpError.identityMismatch ("parent_run_id: " ++ e.kind)).map some

def sealVerdict (projector : LiveLedgerProjector) : Option Run.Verdict → Code Bool
  | none => pure true
  | some verdict => do
      let result ← (sealInner projector verdict true).run
      pure result.isOk

def catchUpRecord (env : Setting) (recordRunId : RunId) (expected : ExpectedIdentity) :
    Fallible CatchUpError CatchUpReceipt := do
  let dir ← recordCall recordRunId
  let (stream, state) ← ofExcept (readStream env dir)
  let first ← ofExcept (okOr stream.head? (.verification
    (.text "events.jsonl has no events to catch up")))
  let binding ← ofExcept (dir.ledgerBinding.mapError
    fun why => CatchUpError.ledger (.io ("reading ledger_binding.json: " ++ why)))
  ofExcept (checkOwnBinding binding first.runId)
  let existing ← failingAs .ledger (ledgerRun first.runId.asStr)
  ofExcept (checkUnsealed state existing first.runId)
  let target ← ofExcept (attachTarget binding existing)
  ofExcept (checkExpected env dir state first.runId expected)
  let parent ← ofExcept (mintParent target.parentRunId)
  let conversationId ← failingAs .ledger (openProjection target.conversationId)
  let projector ← failingAs .ledger
    (attachRun conversationId first.runId target.agent target.role parent)
  let applied ← projectAll env projector stream
  let sealedToo ← liftM (sealVerdict projector state.verdict)
  let sessionBackfill ← backfill env dir state first.runId
  pure ⟨first.runId.asStr, target.conversationId, parent.map Run.Id.asStr, state.verdict,
    state.verdict.isSome, sessionBackfill, applied && sealedToo⟩

end O7Formal.Dispatch
