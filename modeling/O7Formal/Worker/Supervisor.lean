import O7Formal.Lib.Program
import O7Formal.Worker.Boundary

/-! The supervisor of one worker, as a program whose calls go to the boundary, the sink, the
readers, the clock and the cancel signal. A loop has a number of turns; after them the run goes
on. -/

namespace O7Formal.Worker

open Program (perform)

inductive Stage where
  | cancelling | teardown
  deriving DecidableEq

/-- The outcome of a call that is waited for no longer than a timeout. -/
inductive Bounded (ε α : Type) where
  | done (a : α)
  | failed (e : ε)
  | timedOut

structure ObservationError where
  message : String

def ObservationError.text (e : ObservationError) : String :=
  "observation sink failure: " ++ e.message

inductive ReaderMessage where
  | chunk (c : OutputChunk)
  | readError (message : String)
  deriving DecidableEq

inductive Selected where
  | exit (r : Except BoundaryError BoundaryExit)
  | output (message : Option ReaderMessage)
  | heartbeat (uptime : Duration)
  | cancelled

inductive Awaited where
  | message (m : Option ReaderMessage)
  | expired (pastDeadline : Bool)

/-- `takeStream` takes a stream of the process, and a stream that is given goes to a reader of its
own. `select` polls `wait` beside the output, the heartbeat and the cancel signal; `gracefulWait`
and `reap` are the bounded calls of `wait`. `transition` is an attempted change of the state,
`forever` is never answered. -/
inductive Call where
  | attestation
  | publish (o : WorkerObservation)
  | transition (state next : WorkerState)
  | cancelRequested
  | spawn (s : BoundarySpawnSpec)
  | identity
  | takeStream (s : OutputStream) (maxChunk : Nat)
  | select (outputOpen heartbeatEnabled : Bool)
  | gracefulStop
  | gracefulWait (grace : Duration)
  | forceStop (stage : Stage)
  | reap (stage : Stage)
  | members (stage : Stage)
  | deadlinePassed (stage : Stage)
  | drainTimeLeft
  | recvWithin
  | shutdownReaders
  | forever

@[reducible]
def Call.Answer : Call → Type
  | .attestation => BoundaryAttestation
  | .publish _ => Bounded ObservationError Unit
  | .transition _ _ | .shutdownReaders => Unit
  | .cancelRequested | .takeStream _ _ | .deadlinePassed _ | .drainTimeLeft => Bool
  | .spawn _ => Option (Except BoundaryError BoundaryEvidence)
  | .identity => ProcessIdentity
  | .select _ _ => Selected
  | .gracefulStop | .forceStop _ => Bounded BoundaryError Unit
  | .gracefulWait _ | .reap _ => Bounded BoundaryError BoundaryExit
  | .members _ => Bounded BoundaryError (List ProcessIdentity)
  | .recvWithin => Awaited
  | .forever => Empty

abbrev Supervised (α : Type) := Program Call Call.Answer α

def goesOn {α : Type} : Supervised α := .call .forever nofun

def ask (c : Call) : Supervised c.Answer := perform c

structure Publisher where
  timeout : Duration
  alive : Bool
  lastError : Option String

def Publisher.error (pubr : Publisher) : String := pubr.lastError.getD "observation sink failure"

def Publisher.lose (pubr : Publisher) (why : String) : Publisher :=
  { pubr with alive := false, lastError := some why }

def Publisher.answered (pubr : Publisher) : Bounded ObservationError Unit → Publisher
  | .done _ => pubr
  | .failed err => pubr.lose ("sink error: " ++ err.text)
  | .timedOut => pubr.lose ("sink publish exceeded " ++ pubr.timeout.debug)

/-- What the source returns is `alive` of the publisher that is left. -/
def emit (pubr : Publisher) (o : WorkerObservation) : Supervised Publisher :=
  if pubr.alive then do
    let answer ← ask (.publish o)
    return pubr.answered answer
  else return pubr

def advance (state next : WorkerState) : Supervised (Except String WorkerState) := do
  ask (.transition state next)
  if state.canTransitionTo next then return .ok next
  else return .error ("invalid worker state transition " ++ state.debug ++ " -> " ++ next.debug)

/-- `let _ = advance(..)` -/
def tryAdvance (state next : WorkerState) : Supervised WorkerState := do
  match ← advance state next with
  | .ok state => return state
  | .error _ => return state

def failToStart (state : WorkerState) (message : String) : Supervised WorkerResult := do
  match ← advance state .failedToStart with
  | .error e => return .cleanupFailure e
  | .ok _ => return .failedToStart message

def cancelledBeforeRunning (state : WorkerState) : Supervised WorkerResult := do
  let state ← tryAdvance state .cancelling
  let _ ← tryAdvance state .exited
  return .cancelledGracefully

def cleanupGrace : Duration := Duration.fromMillis 500

def reapTimeout : Duration := Duration.fromMillis 500

def boundaryOpTimeout : Duration := Duration.fromMillis 500

def maxTrailingDrain : Duration := Duration.fromSecs 3

def drainIdleTimeout : Duration := Duration.fromMillis 500

def reapResult : Bounded BoundaryError BoundaryExit → Except String BoundaryExit
  | .done exit => .ok exit
  | .failed err => .error ("leader wait failed after force-stop: " ++ err.text)
  | .timedOut =>
      .error ("leader did not exit within " ++ reapTimeout.debug ++
        " of force-stop; teardown unprovable")

def boundedReap (stage : Stage) : Supervised (Except String BoundaryExit) := do
  let answer ← ask (.reap stage)
  return reapResult answer

def forceStopResult : Bounded BoundaryError Unit → Except String Unit
  | .done _ => .ok ()
  | .failed err => .error ("force stop failed: " ++ err.text)
  | .timedOut =>
      .error ("force stop did not complete within " ++ boundaryOpTimeout.debug ++
        "; teardown unprovable")

def boundedForceStop (stage : Stage) : Supervised (Except String Unit) := do
  let answer ← ask (.forceStop stage)
  return forceStopResult answer

def membersResult : Bounded BoundaryError (List ProcessIdentity) →
    Except String (List ProcessIdentity)
  | .done members => .ok members
  | .failed err => .error err.text
  | .timedOut =>
      .error ("membership query did not complete within " ++ boundaryOpTimeout.debug ++
        "; teardown unprovable")

def boundedMembers (stage : Stage) : Supervised (Except String (List ProcessIdentity)) := do
  let answer ← ask (.members stage)
  return membersResult answer

def survivorsText (n : Nat) : String := toString n ++ " owned process(es) survived cleanup"

/-- The second loop of `cleanup_group`; its sleeps are left out. -/
def awaitEmpty : Nat → Supervised (Except String Unit)
  | 0 => goesOn
  | turns + 1 => do
      match ← boundedMembers .teardown with
      | .error e => return .error e
      | .ok survivors =>
          if survivors.isEmpty then return .ok ()
          else
            let late : Bool ← ask (.deadlinePassed .teardown)
            if late then return .error (survivorsText survivors.length)
            else awaitEmpty turns

def cleanupGroup (turns : Nat) (pubr : Publisher) :
    Supervised (Except String Unit × Publisher) := do
  match ← boundedMembers .teardown with
  | .error e => return (.error e, pubr)
  | .ok remaining =>
      if remaining.isEmpty then return (.ok (), pubr)
      else
        let pubr ← emit pubr (.descendantsRemaining remaining)
        match ← boundedForceStop .teardown with
        | .error e => return (.error ("force stop during cleanup: " ++ e), pubr)
        | .ok _ =>
            let cleaned ← awaitEmpty turns
            return (cleaned, pubr)

def faultOf {α : Type} : Except String α → List String
  | .ok _ => []
  | .error e => [e]

def joined (faults : List String) : String := "; ".intercalate faults

def abandonAndVerify (turns : Nat) (pubr : Publisher) :
    Supervised (Except String Unit × Publisher) := do
  let forced ← boundedForceStop .teardown
  let reaped ← boundedReap .teardown
  let (cleaned, pubr) ← cleanupGroup turns pubr
  let faults := faultOf forced ++ faultOf reaped ++ faultOf cleaned
  return (if faults.isEmpty then .ok () else .error (joined faults), pubr)

inductive Phase where
  | natural (exit : BoundaryExit)
  | cancelRequested
  | sinkFailed (message : String)
  | outputFailed (message : String)
  | boundaryFailed (message : String)

/-- `reaped` is the exit of the leader where it was observed before the fault. -/
inductive Termination where
  | natural (exit : BoundaryExit)
  | cancelled (forceful : Bool) (exit : Option BoundaryExit)
  | sinkFailed (message : String) (reaped : Option BoundaryExit)
  | outputFailed (message : String) (reaped : Option BoundaryExit)
  | boundaryFailed (message : String) (reaped : Option BoundaryExit)

def primaryFaultMessage : Termination → Option String
  | .sinkFailed message _ => some ("primary sink fault: " ++ message)
  | .outputFailed message _ => some ("primary output fault: " ++ message)
  | .boundaryFailed message _ => some ("primary boundary fault: " ++ message)
  | .natural _ | .cancelled _ _ => none

/-- Whether the termination is a fault, and the exit that was observed before it. -/
def faultReaped : Termination → Option (Option BoundaryExit)
  | .sinkFailed _ reaped | .outputFailed _ reaped | .boundaryFailed _ reaped => some reaped
  | .natural _ | .cancelled _ _ => none

def forceAfterGrace (pubr : Publisher) (exit : Option BoundaryExit) :
    Supervised (Termination × Publisher) := do
  let pubr ← emit pubr .forceStopSent
  match ← boundedForceStop .cancelling with
  | .error err => return (.boundaryFailed err exit, pubr)
  | .ok _ =>
      match exit with
      | some exit => return (.cancelled true (some exit), pubr)
      | none =>
          match ← boundedReap .cancelling with
          | .ok exit => return (.cancelled true (some exit), pubr)
          | .error err => return (.boundaryFailed err none, pubr)

/-- The loop of `run_cancellation`, once the leader is gone. -/
def gracefulDrain (pubr : Publisher) (exit : BoundaryExit) :
    Nat → Supervised (Termination × Publisher)
  | 0 => goesOn
  | turns + 1 => do
      match ← boundedMembers .cancelling with
      | .error fault =>
          return (.boundaryFailed ("membership query during graceful drain: " ++ fault)
            (some exit), pubr)
      | .ok members =>
          if members.isEmpty then return (.cancelled false (some exit), pubr)
          else
            let late : Bool ← ask (.deadlinePassed .cancelling)
            if late then forceAfterGrace pubr (some exit)
            else gracefulDrain pubr exit turns

def runCancellation (turns : Nat) (grace : Duration) (pubr : Publisher) :
    Supervised (Termination × Publisher) := do
  let pubr ← emit pubr .cancellationRequested
  match ← ask .gracefulStop with
  | .failed err => return (.boundaryFailed ("graceful stop failed: " ++ err.text) none, pubr)
  | .timedOut => forceAfterGrace pubr none
  | .done _ =>
      let pubr ← emit pubr .gracefulStopSent
      match ← ask (.gracefulWait grace) with
      | .done exit => gracefulDrain pubr exit turns
      | .failed err => return (.boundaryFailed err.text none, pubr)
      | .timedOut => forceAfterGrace pubr none

/-- The select loop of `manage`. -/
def selectLoop (spec : WorkerSpec) (identity : ProcessIdentity) :
    Nat → Publisher → UInt64 → Bool → Supervised (Phase × Publisher)
  | 0, _, _, _ => goesOn
  | turns + 1, pubr, heartbeatSeq, outputOpen => do
      match ← ask (.select outputOpen spec.heartbeat.enabled) with
      | .exit (.ok exit) => return (.natural exit, pubr)
      | .exit (.error err) => return (.boundaryFailed err.text, pubr)
      | .output (some (.chunk chunk)) =>
          let pubr ← emit pubr (.outputChunk chunk)
          if pubr.alive then selectLoop spec identity turns pubr heartbeatSeq outputOpen
          else return (.sinkFailed pubr.error, pubr)
      | .output (some (.readError message)) => return (.outputFailed message, pubr)
      | .output none => selectLoop spec identity turns pubr heartbeatSeq false
      | .heartbeat uptime =>
          let pubr ← emit pubr (.heartbeat spec.workerId heartbeatSeq uptime identity)
          if pubr.alive then selectLoop spec identity turns pubr (heartbeatSeq + 1) outputOpen
          else return (.sinkFailed pubr.error, pubr)
      | .cancelled => return (.cancelRequested, pubr)

def terminate (turns : Nat) (spec : WorkerSpec) (state : WorkerState) (phase : Phase)
    (pubr : Publisher) : Supervised (Termination × Publisher × WorkerState) :=
  match phase with
  | .natural exit => return (.natural exit, pubr, state)
  | .sinkFailed message => return (.sinkFailed message none, pubr, state)
  | .outputFailed message => return (.outputFailed message none, pubr, state)
  | .boundaryFailed message => return (.boundaryFailed message none, pubr, state)
  | .cancelRequested => do
      let state ← tryAdvance state .cancelling
      let (termination, pubr) ← runCancellation turns spec.cancellation.gracefulTimeout pubr
      return (termination, pubr, state)

def emergencyStop (reaped : Option BoundaryExit) (pubr : Publisher) :
    Supervised (List String × Publisher) := do
  let pubr ← emit pubr .forceStopSent
  let forced ← boundedForceStop .teardown
  match reaped with
  | some _ => return (faultOf forced, pubr)
  | none =>
      let again ← boundedReap .teardown
      return (faultOf forced ++ faultOf again, pubr)

def stopFaulty (termination : Termination) (pubr : Publisher) :
    Supervised (List String × Publisher) :=
  match faultReaped termination with
  | some reaped => emergencyStop reaped pubr
  | none => return ([], pubr)

def tearDown (turns : Nat) (termination : Termination) (pubr : Publisher) :
    Supervised (List String × Publisher) := do
  let (faults, pubr) ← stopFaulty termination pubr
  let (cleaned, pubr) ← cleanupGroup turns pubr
  return (faults ++ faultOf cleaned, pubr)

def composeCleanup (termination : Termination) (faults : List String) : Except String Unit :=
  if faults.isEmpty then .ok ()
  else .error (joined ((primaryFaultMessage termination).toList ++ faults))

/-- How the drain of the trailing output ended, where it did not end with every pipe closed. -/
structure Drain where
  outputError : Option String
  timedOut : Bool
  budgetExceeded : Bool
  deadlineExceeded : Bool

def Drain.clean : Drain := ⟨none, false, false, false⟩

def withinCap (cap : Option Nat) (drainedBytes len : Nat) : Bool :=
  match cap with
  | none => true
  | some cap => decide (drainedBytes + len ≤ usizeMax) && decide (drainedBytes + len ≤ cap)

def drainLoop (cap : Option Nat) : Nat → Publisher → Nat → Supervised (Drain × Publisher)
  | 0, _, _ => goesOn
  | turns + 1, pubr, drainedBytes => do
      let timeLeft : Bool ← ask .drainTimeLeft
      if !timeLeft then return ({ Drain.clean with deadlineExceeded := true }, pubr)
      else
        match ← ask .recvWithin with
        | .message none => return (.clean, pubr)
        | .expired true => return ({ Drain.clean with deadlineExceeded := true }, pubr)
        | .expired false => return ({ Drain.clean with timedOut := true }, pubr)
        | .message (some (.readError message)) =>
            return ({ Drain.clean with outputError := some message }, pubr)
        | .message (some (.chunk chunk)) =>
            if withinCap cap drainedBytes chunk.bytes.length then
              let pubr ← emit pubr (.outputChunk chunk)
              if pubr.alive then
                drainLoop cap turns pubr (min (drainedBytes + chunk.bytes.length) usizeMax)
              else return (.clean, pubr)
            else return ({ Drain.clean with budgetExceeded := true }, pubr)

def drainOutput (turns : Nat) (spec : WorkerSpec) (cleanup : Except String Unit)
    (pubr : Publisher) : Supervised (Drain × Publisher) :=
  if cleanup.isOk && pubr.alive then drainLoop spec.output.maxTrailingBytes turns pubr 0
  else return (.clean, pubr)

def reportedExit : Termination → Option BoundaryExit
  | .natural exit => some exit
  | .cancelled _ exit => exit
  | .sinkFailed _ reaped | .outputFailed _ reaped | .boundaryFailed _ reaped => reaped

def baseResult : Termination → WorkerResult
  | .natural (.code code) => .exitedNormally code
  | .natural (.signal signal) => .exitedBySignal signal
  | .cancelled false _ => .cancelledGracefully
  | .cancelled true _ => .cancelledForcefully
  | .sinkFailed message _ => .observationFailure message
  | .outputFailed message _ => .outputFailure message
  | .boundaryFailed message _ => .boundaryFailure message

def effectiveResult (base : WorkerResult) (drain : Drain) : WorkerResult :=
  if base.isFailure then base
  else if drain.timedOut then
    .outputFailure ("trailing output drain saw no further output for " ++
      drainIdleTimeout.debug ++ " but the pipes never closed; output faithfulness unproven (a " ++
      "descendant that escaped the owned group may still hold a pipe open)")
  else if drain.budgetExceeded then
    .outputFailure ("trailing output exceeded the configured max_trailing_bytes cap; " ++
      "output faithfulness unproven")
  else if drain.deadlineExceeded then
    .outputFailure ("trailing output drain exceeded its total time budget of " ++
      maxTrailingDrain.debug ++ " while output kept arriving; an escaped descendant is writing " ++
      "without end, so faithful capture is unproven")
  else
    match drain.outputError with
    | some message => .outputFailure message
    | none => base

def observationFailureMessage (pubr : Publisher) (effective : WorkerResult) : String :=
  match effective with
  | .boundaryFailure underlying | .outputFailure underlying =>
      pubr.error ++ "; underlying fault preserved: " ++ underlying
  | _ => pubr.error

def finalize (cleanup : Except String Unit) (pubr : Publisher) (effective : WorkerResult) :
    WorkerResult :=
  match cleanup with
  | .error message =>
      if pubr.alive then .cleanupFailure message
      else .cleanupFailure (message ++ "; observation sink lost: " ++ pubr.error)
  | .ok _ =>
      if pubr.alive then effective
      else .observationFailure (observationFailureMessage pubr effective)

def startReader (spec : WorkerSpec) (stream : OutputStream) : Supervised Unit := do
  let _ ← ask (.takeStream stream spec.output.maxChunkBytes)
  return ()

def publishExit (termination : Termination) (pubr : Publisher) : Supervised Publisher :=
  match reportedExit termination with
  | some exit => emit pubr (.exited exit)
  | none => return pubr

def publishCleanup (cleanup : Except String Unit) (pubr : Publisher) : Supervised Publisher :=
  if cleanup.isOk then emit pubr .cleanupCompleted else return pubr

def publishFailure (tentative : WorkerResult) (pubr : Publisher) : Supervised Publisher :=
  if pubr.alive && tentative.isFailure then emit pubr (.supervisorFailed tentative.message)
  else return pubr

/-- What `manage` still publishes once the readers are gone, and its result. -/
def conclude (termination : Termination) (cleanup : Except String Unit) (drain : Drain)
    (pubr : Publisher) : Supervised WorkerResult := do
  let pubr ← publishExit termination pubr
  let pubr ← publishCleanup cleanup pubr
  let effective := effectiveResult (baseResult termination) drain
  let pubr ← publishFailure (finalize cleanup pubr effective) pubr
  return finalize cleanup pubr effective

def manage (turns : Nat) (spec : WorkerSpec) (pubr : Publisher) (identity : ProcessIdentity)
    (state : WorkerState) : Supervised WorkerResult := do
  startReader spec .stdout
  startReader spec .stderr
  let (phase, pubr) ← selectLoop spec identity turns pubr 0 true
  let (termination, pubr, state) ← terminate turns spec state phase pubr
  let (faults, pubr) ← tearDown turns termination pubr
  let cleanup := composeCleanup termination faults
  let (drain, pubr) ← drainOutput turns spec cleanup pubr
  ask .shutdownReaders
  let _ ← tryAdvance state .exited
  conclude termination cleanup drain pubr

def requirementMessage (spec : WorkerSpec) (attestation : BoundaryAttestation) : String :=
  "boundary requirement not met: required " ++ spec.boundaryRequirement.debug ++
    ", boundary attests " ++ attestation.enforcement.debug

def evidenceMessage (spec : WorkerSpec) (attestation : BoundaryAttestation)
    (evidence : BoundaryEvidence) : String :=
  "launch evidence does not satisfy the boundary requirement: required " ++
    spec.boundaryRequirement.debug ++ ", configured " ++ attestation.implementation.debug ++
    ", launch established " ++ establishedDebug evidence.established

def spawnSpec (spec : WorkerSpec) : BoundarySpawnSpec :=
  { executable := spec.executable
    arguments := spec.arguments
    workingDirectory := spec.workingDirectory
    environment := spec.environment
    stdin := spec.stdin }

def abandonLostSink (turns : Nat) (pubr : Publisher) : Supervised WorkerResult := do
  let sinkFault := pubr.error
  match ← abandonAndVerify turns pubr with
  | (.error message, _) =>
      return .cleanupFailure ("primary sink fault: " ++ sinkFault ++ "; " ++ message)
  | (.ok _, _) => return .observationFailure sinkFault

/-- The rest of `run_inner` once a live process is owned. -/
def runOwned (turns : Nat) (spec : WorkerSpec) (attestation : BoundaryAttestation)
    (evidence : BoundaryEvidence) (pubr : Publisher) (state : WorkerState) :
    Supervised WorkerResult := do
  let identity ← ask .identity
  if !evidence.satisfies spec.boundaryRequirement attestation then
    let message := evidenceMessage spec attestation evidence
    match ← abandonAndVerify turns pubr with
    | (.error cleanup, _) => return .cleanupFailure (message ++ "; " ++ cleanup)
    | (.ok _, _) => failToStart state message
  else
    let pubr ← emit pubr (.launchEvidence evidence)
    if !pubr.alive then abandonLostSink turns pubr
    else
      match ← advance state .running with
      | .error e =>
          let _ ← abandonAndVerify turns pubr
          return .cleanupFailure e
      | .ok state =>
          let pubr ← emit pubr (.spawned identity)
          if !pubr.alive then abandonLostSink turns pubr
          else manage turns spec pubr identity state

def cancelledAtStart (pubr : Publisher) (state : WorkerState) : Supervised WorkerResult := do
  let pubr ← emit pubr .cancellationRequested
  if !pubr.alive then return .observationFailure pubr.error
  else cancelledBeforeRunning state

def runInner (turns : Nat) (spec : WorkerSpec) : Supervised WorkerResult := do
  let pubr : Publisher := ⟨spec.output.sinkBackpressureTimeout, true, none⟩
  let attestation ← ask .attestation
  let pubr ← emit pubr (.boundaryAttested attestation)
  if !pubr.alive then return .observationFailure pubr.error
  else
    match ← advance .created .starting with
    | .error e => return .cleanupFailure e
    | .ok state =>
        if !spec.boundaryRequirement.isSatisfiedBy attestation then
          failToStart state (requirementMessage spec attestation)
        else
          match spec.validate with
          | .error err => failToStart state err.text
          | .ok _ =>
              let asked : Bool ← ask .cancelRequested
              if asked then cancelledAtStart pubr state
              else
                let pubr ← emit pubr .spawnRequested
                if !pubr.alive then return .observationFailure pubr.error
                else
                  match ← ask (.spawn (spawnSpec spec)) with
                  | none => cancelledAtStart pubr state
                  | some (.error err) => failToStart state err.text
                  | some (.ok evidence) => runOwned turns spec attestation evidence pubr state

inductive ReaderCall where
  | read (capacity : Nat)
  | send (message : ReaderMessage)
  | forever

/-- A read of no bytes is the end of the stream. A send fails where the receiver is gone. -/
@[reducible]
def ReaderCall.Answer : ReaderCall → Type
  | .read _ => Except String (List UInt8)
  | .send _ => Bool
  | .forever => Empty

abbrev Reader := Program ReaderCall ReaderCall.Answer Unit

def askReader (c : ReaderCall) : Program ReaderCall ReaderCall.Answer c.Answer := perform c

def readStream (stream : OutputStream) (maxChunk : Nat) : Nat → UInt64 → Reader
  | 0, _ => .call .forever nofun
  | turns + 1, sequence => do
      match ← askReader (.read (max maxChunk 1)) with
      | .ok [] => return ()
      | .ok (b :: bytes) =>
          let sent : Bool ← askReader (.send (.chunk ⟨stream, sequence, b :: bytes⟩))
          if sent then readStream stream maxChunk turns (sequence + 1) else return ()
      | .error err =>
          let _ ← askReader (.send (.readError err))
          return ()

end O7Formal.Worker
