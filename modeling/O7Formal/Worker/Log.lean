import O7Formal.Worker.Reader

/-! What has happened in a run of the supervisor, read off its calls and their answers, and which
calls fit what has happened. -/

namespace O7Formal.Worker

open Program

inductive Step where
  | wait | gracefulStop | gracefulWait | forceStop | reap | membership | survivors
  deriving DecidableEq

/-- A step of the boundary that failed or was not answered in time; the survivors of a teardown
count as one. -/
structure Fault where
  step : Step
  teardown : Bool
  timedOut : Bool
  text : String

/-- The fault that ends a run before its teardown starts. -/
inductive Cause where
  | evidence (message : String)
  | sink (message : String)
  | output (message : String)
  | boundary (message : String)

def Cause.text : Cause → String
  | .evidence m | .sink m | .output m | .boundary m => m

inductive DrainFault where
  | idle
  | budget
  | deadline
  | output (message : String)

/-- The bytes that the drain has received, and what has cut it short. -/
structure Draining where
  bytes : Nat
  fault : Option DrainFault

/-- `exits` are the exits that `wait` returned. `vacated`: a membership query was answered with no
member after that. `members` is the last answer to a membership query. `halt` is none until the run
is asked to cancel, and says then whether the cancellation stopped the leader by force. -/
structure Log where
  attestation : Option BoundaryAttestation
  launch : Option BoundaryEvidence
  accepted : List WorkerObservation
  refused : List String
  state : WorkerState
  exits : List BoundaryExit
  vacated : Bool
  members : List ProcessIdentity
  faults : List Fault
  cause : Option Cause
  tearing : Bool
  received : List ReaderMessage
  closed : Bool
  halt : Option Bool
  drain : Draining

def Log.start : Log :=
  ⟨none, none, [], [], .created, [], false, [], [], none, false, [], false, none, ⟨0, none⟩⟩

/-- The trailing bytes are more than the cap, or than can be counted under one. -/
def overBudget (cap : Option Nat) (total : Nat) : Bool :=
  cap.any fun cap => decide (min cap usizeMax < total)

def Draining.received (cap : Option Nat) (drain : Draining) : Option ReaderMessage → Draining
  | none => drain
  | some (.chunk c) =>
      ⟨drain.bytes + c.bytes.length,
        if overBudget cap (drain.bytes + c.bytes.length) then some .budget else drain.fault⟩
  | some (.readError m) => ⟨drain.bytes, some (.output m)⟩

def Bounded.isTimedOut {ε α : Type} : Bounded ε α → Bool
  | .timedOut => true
  | _ => false

namespace Log

variable (log : Log)

def accept (o : WorkerObservation) : Log := { log with accepted := log.accepted ++ [o] }

def blame (cause : Cause) : Log :=
  if log.tearing then log else { log with cause := some (log.cause.getD cause) }

def endsRun : WorkerObservation → Bool
  | .launchEvidence _ | .spawned _ | .outputChunk _ | .heartbeat _ _ _ _ => true
  | _ => false

def refuse (o : WorkerObservation) (why : String) : Log :=
  let lost := { log with refused := log.refused ++ [why] }
  if endsRun o then lost.blame (.sink why) else lost

def exit (exit : BoundaryExit) : Log := { log with exits := log.exits ++ [exit] }

def fault (step : Step) (timedOut : Bool) (text : String) : Log :=
  { log with faults := log.faults ++ [⟨step, false, timedOut, text⟩] }

def fail (step : Step) (timedOut : Bool) (text : String) : Log :=
  (log.fault step timedOut text).blame (.boundary text)

def tear (step : Step) (timedOut : Bool) (text : String) : Log :=
  { log with tearing := true, faults := log.faults ++ [⟨step, true, timedOut, text⟩] }

def bounded (stage : Stage) (step : Step) (timedOut : Bool) (text : String) : Log :=
  match stage with
  | .cancelling => log.fail step timedOut text
  | .teardown => log.tear step timedOut text

def halted (forceful : Bool) : Log := { log with halt := some forceful }

def entered (stage : Stage) : Log :=
  match stage with
  | .cancelling => log.halted true
  | .teardown => { log with tearing := true }

def counted (xs : List ProcessIdentity) : Log :=
  { log with
    members := xs
    vacated := log.vacated || (xs.isEmpty && !log.exits.isEmpty) }

def receive : Option ReaderMessage → Log
  | none => { log with closed := true }
  | some (.chunk c) => { log with received := log.received ++ [.chunk c] }
  | some (.readError m) =>
      ({ log with received := log.received ++ [.readError m] } : Log).blame (.output m)

def trailed (spec : WorkerSpec) (message : Option ReaderMessage) : Log :=
  { log.receive message with drain := log.drain.received spec.output.maxTrailingBytes message }

def cutShort (fault : DrainFault) : Log := { log with drain := { log.drain with fault := some fault } }

def launched (spec : WorkerSpec) (evidence : BoundaryEvidence) : Log :=
  let owned := { log with launch := some evidence }
  match log.attestation with
  | none => owned
  | some attestation =>
      if evidence.satisfies spec.boundaryRequirement attestation then owned
      else owned.blame (.evidence (evidenceMessage spec attestation evidence))

def note (spec : WorkerSpec) : (c : Call) → c.Answer → Log
  | .attestation, a => { log with attestation := some a }
  | .publish o, .done _ => log.accept o
  | .publish o, .failed err => log.refuse o ("sink error: " ++ err.text)
  | .publish o, .timedOut =>
      log.refuse o ("sink publish exceeded " ++ spec.output.sinkBackpressureTimeout.debug)
  | .transition state next, _ =>
      { log with state := if state.canTransitionTo next then next else state }
  | .spawn _, some (.ok evidence) => log.launched spec evidence
  | .select _ _, .exit (.ok e) => log.exit e
  | .select _ _, .exit (.error err) => log.fail .wait false err.text
  | .select _ _, .output message => log.receive message
  | .select _ _, .cancelled => log.halted false
  | .gracefulStop, .failed err =>
      log.fail .gracefulStop false ("graceful stop failed: " ++ err.text)
  | .gracefulStop, .timedOut => log.fault .gracefulStop true "graceful stop timed out"
  | .gracefulWait _, .done e => log.exit e
  | .gracefulWait _, .failed err => log.fail .gracefulWait false err.text
  | .gracefulWait _, .timedOut => log.fault .gracefulWait true "graceful wait timed out"
  | .forceStop stage, answer =>
      match forceStopResult answer with
      | .ok _ => log.entered stage
      | .error text => log.bounded stage .forceStop answer.isTimedOut text
  | .reap stage, answer =>
      match reapResult answer with
      | .ok e => (log.entered stage).exit e
      | .error text => log.bounded stage .reap answer.isTimedOut text
  | .members .cancelling, answer =>
      match membersResult answer with
      | .ok xs => log.counted xs
      | .error text =>
          log.fail .membership answer.isTimedOut
            ("membership query during graceful drain: " ++ text)
  | .members .teardown, answer =>
      match membersResult answer with
      | .ok xs => (log.entered .teardown).counted xs
      | .error text => log.tear .membership answer.isTimedOut text
  | .deadlinePassed .teardown, true =>
      log.tear .survivors false (survivorsText log.members.length)
  | .drainTimeLeft, false => log.cutShort .deadline
  | .recvWithin, .expired true => log.cutShort .deadline
  | .recvWithin, .expired false => log.cutShort .idle
  | .recvWithin, .message message => log.trailed spec message
  | _, _ => log

def teardownFaults : List String := (log.faults.filter (·.teardown)).map (·.text)

end Log

def logOf (spec : WorkerSpec) (trace : Trace Call Call.Answer) : Log :=
  trace.foldl (fun log entry => log.note spec entry.1 entry.2) .start

def chunksOf (observations : List WorkerObservation) : List OutputChunk :=
  observations.filterMap fun
    | .outputChunk c => some c
    | _ => none

def heartbeatsOf (observations : List WorkerObservation) : List UInt64 :=
  observations.filterMap fun
    | .heartbeat _ sequence _ _ => some sequence
    | _ => none

def Announced (observations : List WorkerObservation) : Prop :=
  ∃ attestation evidence identity later, observations =
    .boundaryAttested attestation :: .spawnRequested :: .launchEvidence evidence ::
      .spawned identity :: later

def isExited : WorkerObservation → Bool
  | .exited _ => true
  | _ => false

def isCleanupCompleted : WorkerObservation → Bool
  | .cleanupCompleted => true
  | _ => false

def isSupervisorFailed : WorkerObservation → Bool
  | .supervisorFailed _ => true
  | _ => false

/-- What may be published after these observations, the numbers of the chunks apart. -/
def Follows (before : List WorkerObservation) : WorkerObservation → Prop
  | .boundaryAttested _ => before = []
  | .spawnRequested => ∃ a, before = [.boundaryAttested a]
  | .launchEvidence _ => ∃ a, before = [.boundaryAttested a, .spawnRequested]
  | .spawned _ => ∃ a e, before = [.boundaryAttested a, .spawnRequested, .launchEvidence e]
  | .cancellationRequested =>
      (∃ a, before = [.boundaryAttested a] ∨ before = [.boundaryAttested a, .spawnRequested]) ∨
        Announced before
  | .descendantsRemaining _ =>
      (∃ a, before = [.boundaryAttested a, .spawnRequested]) ∨ Announced before
  | .heartbeat _ sequence _ _ =>
      Announced before ∧ sequence = UInt64.ofNat (heartbeatsOf before).length
  | .outputChunk _ | .gracefulStopSent | .forceStopSent | .supervisorFailed _ => Announced before
  | .exited _ =>
      Announced before ∧ ∀ o ∈ before, isExited o = false ∧ isCleanupCompleted o = false
  | .cleanupCompleted => Announced before ∧ ∀ o ∈ before, isCleanupCompleted o = false

/-- The teardown is proven: no step of it failed, the leader was reaped and no member was left
after that. -/
structure Proven (log : Log) : Prop where
  exits : log.exits.length = 1
  vacated : log.vacated = true
  faults : log.teardownFaults = []

structure Fits (log : Log) (o : WorkerObservation) : Prop where
  alive : log.refused = []
  unfinished : ∀ o ∈ log.accepted, isSupervisorFailed o = false
  follows : Follows log.accepted o
  chunk : ∀ c, o = .outputChunk c → chunksSent log.received = chunksOf log.accepted ++ [c]
  cleanup : o = .cleanupCompleted → Proven log

def Lawful (log : Log) : Call → Prop
  | .publish o => Fits log o
  | .transition state next => log.state = state ∧ state.canTransitionTo next = true
  | .select _ _ | .gracefulWait _ | .reap _ => log.exits = []
  | .takeStream _ _ => log.closed = false
  | _ => True

/-- The calls of the supervisor, with the log as what is known. -/
def lawful (spec : WorkerSpec) : Protocol Call Call.Answer Log where
  permits := Lawful
  answers _ _ := True
  learns log c r := log.note spec c r

end O7Formal.Worker
