import O7Formal.Dispatch.Projector

/-! `o7 continue`: one accepted command, dispatched as one child run. -/

namespace O7Formal.Dispatch

open Fallible Program
open O7Formal.Ledger (Command)
open O7Formal.Run (AgentOutcome ArtifactKind ArtifactRef CandidateStateContractV1 Digest256
  EventChain GateOutcome RunContract RunEvent RunEventKind)

structure GateStep where
  name : String
  skipped : Bool
  outcome : GateOutcome
  log : Option (String × List UInt8)

/-- What a process finds outside: its configuration, the parent's candidate state, and what the
provider and the gates do. -/
structure Outside where
  contract : RunContract
  obligation : CandidateStateContractV1
  sourceReceipt : List UInt8
  sourcePatch : List UInt8
  materializedTreeOid : String
  outcome : AgentOutcome
  sessionId : Option String
  sessionReceipt : List UInt8
  stdout : List UInt8
  diff : List UInt8
  candidatePatch : List UInt8
  candidateReceipt : List UInt8
  gates : List GateStep
  runMeta : List UInt8

def artifact (env : Setting) (kind : ArtifactKind) (locator : String) (bytes : List UInt8) :
    ArtifactRef :=
  ⟨kind, locator, Digest256.ofBytes env.sha256 bytes⟩

section Continue

variable (env : Setting) (a : ContinueArgs) (o : Outside)

def appendOnly (chain : EventChain) (kind : RunEventKind) :
    Fallible Fault (EventChain × RunEvent) := do
  let now ← clockCall
  let chain ← ofExcept ((chain.push env.sha256 now kind).mapError Fault.chain)
  -- A push leaves the event it minted at the end of the chain.
  let event ← okOrThrow chain.out.getLast? "no event was minted"
  appendEvent a.runId event
  pure (chain, event)

def appendProjected (projector : LiveLedgerProjector) (chain : EventChain) (kind : RunEventKind) :
    Fallible Fault EventChain := do
  let (chain, event) ← appendOnly env a chain kind
  projectLive env projector event
  pure chain

def materializeParentCandidateState : Fallible Fault (ArtifactRef × ArtifactRef) := do
  attempt "verifying the parent's candidate-state receipt"
  writeRecord a.runId (.file Run.parentCandidateReceiptLocator o.sourceReceipt)
  writeRecord a.runId (.file Run.parentCandidatePatchLocator o.sourcePatch)
  attempt "creating the child run's worktree and applying the candidate patch"
  pure (artifact env .candidateState Run.parentCandidateReceiptLocator o.sourceReceipt,
    artifact env .candidatePatch Run.parentCandidatePatchLocator o.sourcePatch)

def captureSession (projector : LiveLedgerProjector) (chain : EventChain) :
    Fallible Fault EventChain :=
  match o.sessionId with
  | none => pure chain
  | some _ => do
      writeRecord a.runId (.file "session_receipt.json" o.sessionReceipt)
      appendProjected env a projector chain (.providerSessionCaptured
        (artifact env .providerSession "session_receipt.json" o.sessionReceipt))

def writeCandidateStateReceipt : Fallible Fault ArtifactRef := do
  attempt "capturing this run's cumulative candidate state"
  writeRecord a.runId (.file Run.candidatePatchLocator o.candidatePatch)
  writeRecord a.runId (.file Run.candidateStateReceiptLocator o.candidateReceipt)
  pure (artifact env .candidateState Run.candidateStateReceiptLocator o.candidateReceipt)

def runGate (projector : LiveLedgerProjector) (chain : EventChain) (step : GateStep) :
    Fallible Fault EventChain :=
  if step.skipped then do
    attempt step.name
    pure chain
  else do
    let gate ← ofExcept ((Run.Id.new .gate step.name).mapError Fault.id)
    let chain ← appendProjected env a projector chain (.gateStarted gate)
    attempt step.name
    match step.log with
    | none => appendProjected env a projector chain (.gateFinished gate step.outcome none)
    | some (locator, bytes) =>
        writeRecord a.runId (.file locator bytes)
        appendProjected env a projector chain
          (.gateFinished gate step.outcome (some (artifact env .gateLog locator bytes)))

def runGates (projector : LiveLedgerProjector) (chain : EventChain) :
    List GateStep → Fallible Fault EventChain
  | [] => pure chain
  | step :: rest => do
      let chain ← runGate env a projector chain step
      runGates projector chain rest

/-- `o7_run::reduce_all` of the stream, and its verdict. -/
def canonicalVerdict (events : List RunEvent) : Except Fault Run.Verdict :=
  match Run.reduceAll env.sha256 events with
  | .error _ => .error (.refused "canonical reduction failed")
  | .ok state => okOr state.verdict (.refused "canonical stream is not sealed — no verdict")

/-- The run up to the dispatch boundary: everything that is durable before `AgentStarted`. -/
def prepareRun (contract : RunContract) : Fallible Fault (EventChain × LiveLedgerProjector) := do
  attempt "creating the record directory"
  let runId ← ofExcept (mintRunId a.runId)
  let parentRunId ← ofExcept (mintRunId a.parentRunId)
  writeRecord a.runId (.ledgerBinding
    ⟨1, a.runId, a.conversationId, "claude", "implementer", some parentRunId.asStr⟩)
  writeRecord a.runId (.file "task.md" (ByteCodec.utf8Bytes a.command))
  let commandBinding : CommandBinding := ⟨1, a.commandId, a.conversationId, parentRunId.asStr,
    a.runId, (textDigest env.sha256 a.command).asStr⟩
  let bindingBytes := env.writeBinding commandBinding
  writeRecord a.runId (.commandBinding commandBinding bindingBytes)
  attempt "opening events.jsonl for durable per-event append"
  let (chain, runStarted) ← appendOnly env a (.new runId)
    (.runStarted contract (artifact env .task "task.md" (ByteCodec.utf8Bytes a.command)))
  let conversationId ← openProjection a.conversationId
  let projector ← attachRun conversationId runId "claude" "implementer" (some parentRunId)
  projectLive env projector runStarted
  let chain ← appendProjected env a projector chain (.commandBindingCaptured
    (artifact env .commandBinding Run.commandBindingLocator bindingBytes))
  let (sourceReceipt, sourcePatch) ← materializeParentCandidateState env a o
  let chain ← appendProjected env a projector chain (.candidateStateMaterialized parentRunId
    sourceReceipt sourcePatch o.materializedTreeOid)
  pure (chain, projector)

def finishRun (contract : RunContract) (chain : EventChain) (projector : LiveLedgerProjector) :
    Fallible Fault (Run.Verdict × Option String) := do
  let chain ← appendProjected env a projector chain (.agentExited o.outcome)
  let chain ← captureSession env a o projector chain
  writeRecord a.runId (.file "agent.stdout" o.stdout)
  writeRecord a.runId (.file "diff.patch" o.diff)
  let chain ← appendProjected env a projector chain
    (.patchCaptured (artifact env .diff "diff.patch" o.diff))
  let _ ← okOrThrow contract.candidateState
    "this continuation's own contract has no candidate_state obligation"
  let candidateReceipt ← writeCandidateStateReceipt env a o
  let chain ← appendProjected env a projector chain (.candidateStateCaptured candidateReceipt)
  attempt "validating the gate manifest"
  let chain ← runGates env a projector chain o.gates
  let chain ← appendProjected env a projector chain .runSealed
  let verdict ← ofExcept (canonicalVerdict env chain.out)
  -- A seal that fails is reported: the canonical record is complete.
  let _ ← caught (sealInner projector verdict false)
  writeRecord a.runId (.file "meta.json" o.runMeta)
  pure (verdict, o.sessionId)

def continueExecute (contract : RunContract) : Fallible Fault (Run.Verdict × Option String) := do
  let (chain, projector) ← prepareRun env a o contract
  let chain ← appendProjected env a projector chain .agentStarted
  invokeProvider a.commandId a.runId
  finishRun env a o contract chain projector

def commandStillBoundToThisRun : Fallible Fault Bool := do
  let command ← ledgerCommand a.commandId
  pure (decide (command.bind Command.childRunId = some a.runId))

def markRejectedIfUnattached : Code Unit := do
  let _ ← (ledgerCall asRejection fun stamp =>
    .markCommandRejectedIfUnattachedAndBound a.commandId a.runId stamp.now).run

def checkParent : Fallible Fault Unit := do
  let parent ← okOrThrow (← ledgerRun a.parentRunId)
    ("parent run " ++ a.parentRunId ++ " does not exist")
  ensure (parent.conversationId = a.conversationId) ("parent run " ++ a.parentRunId ++
    " does not belong to conversation " ++ a.conversationId)
  let session ← okOrThrow parent.providerSessionId ("parent run " ++ a.parentRunId ++
    " has no durable provider session to continue from — refusing to start a fresh, " ++
    "uncontinued session and call it a continuation")
  ofExcept ((checkProviderSession session).mapError fun _ =>
    .refused "parent run's stored provider session id is invalid")

def completeCommand (session : Option String) : Fallible Fault Unit := do
  match session with
  | none => pure ()
  | some session =>
      let _ ← ledgerCall asRun fun _ => .setRunProviderSession a.runId session
  let _ ← ledgerCall asCompletion fun stamp =>
    .markCommandCompletedIfBound a.commandId a.runId stamp.now

def dispatchRun : Fallible Fault Unit := do
  attempt "loading the gate manifest"
  checkParent a
  match ← caught (attempt "resolving the parent's candidate-state contract obligation") with
  | .error e => do
      markRejectedIfUnattached a
      throw e
  | .ok () =>
      attempt "creating the worktree root"
      match ← caught (continueExecute env a o
        { o.contract with candidateState := some o.obligation }) with
      | .error e => do
          markRejectedIfUnattached a
          throw e
      | .ok (_, session) =>
          let _ ← caught (completeCommand a session)

def continueRun : Fallible Fault Unit := do
  attempt "opening the lock file"
  match ← lockCall a.runId with
  | .wouldBlock | .failed _ => pure ()
  | .acquired =>
      -- The binding may have moved on while this process was slow to reach its lock.
      if ← commandStillBoundToThisRun a then dispatchRun env a o
      else pure ()

end Continue

end O7Formal.Dispatch

/-! ### `o7 run --ledger`: a run of its own, recorded and projected event by event -/

namespace O7Formal.Dispatch

open Program
open O7Formal.Run (EventChain RunContract RunEvent)

section Live

variable (env : Setting) (engine : String) (a : ContinueArgs) (o : Outside)

/-- `persist_provider_session`: a failure is reported and the run goes on. -/
def persistProviderSession : Fallible Fault Unit :=
  match o.sessionId with
  | none => pure ()
  | some session => do
      let _ ← caught (ledgerCall asRun fun _ => .setRunProviderSession a.runId session)

def finishLive (contract : RunContract) (chain : EventChain) (projector : LiveLedgerProjector) :
    Fallible Fault (List RunEvent) := do
  let chain ← appendProjected env a projector chain (.agentExited o.outcome)
  let chain ← captureSession env a o projector chain
  writeRecord a.runId (.file "agent.stdout" o.stdout)
  writeRecord a.runId (.file "diff.patch" o.diff)
  let chain ← appendProjected env a projector chain
    (.patchCaptured (artifact env .diff "diff.patch" o.diff))
  let _ ← okOrThrow contract.candidateState
    "this ledger-backed run's own contract has no candidate_state obligation"
  let candidateReceipt ← writeCandidateStateReceipt env a o
  let chain ← appendProjected env a projector chain (.candidateStateCaptured candidateReceipt)
  attempt "validating the gate manifest"
  let chain ← runGates env a projector chain o.gates
  let chain ← appendProjected env a projector chain .runSealed
  let verdict ← ofExcept (canonicalVerdict env chain.out)
  let _ ← caught (sealInner projector verdict false)
  pure chain.out

/-- Of the arguments only the run id, the conversation and the task are read: the run has no parent
and no command. -/
def executeLive (contract : RunContract) : Fallible Fault (List RunEvent) := do
  let runId ← ofExcept (mintRunId a.runId)
  writeRecord a.runId
    (.ledgerBinding ⟨1, a.runId, a.conversationId, engine, "implementer", none⟩)
  writeRecord a.runId (.file "task.md" (ByteCodec.utf8Bytes a.command))
  attempt "opening events.jsonl for durable per-event append"
  let (chain, runStarted) ← appendOnly env a (.new runId)
    (.runStarted contract (artifact env .task "task.md" (ByteCodec.utf8Bytes a.command)))
  let projector ← attachRun a.conversationId runId engine "implementer" none
  projectLive env projector runStarted
  let chain ← appendProjected env a projector chain .agentStarted
  attempt "running the agent"
  persistProviderSession a o
  finishLive env a o contract chain projector

/-- `execute`: the verdict of the run is that of the stream that was recorded. -/
def execute (contract : RunContract) : Fallible Fault Run.Verdict := do
  attempt "creating the record directory"
  let stream ← executeLive env engine a o contract
  attempt "reading back the durably-appended events.jsonl for verification"
  let verdict ← ofExcept (canonicalVerdict env stream)
  writeRecord a.runId (.file "meta.json" o.runMeta)
  pure verdict

end Live

end O7Formal.Dispatch
