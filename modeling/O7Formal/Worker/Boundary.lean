import Mathlib.Tactic
import Mathlib.Data.List.DropRight

/-! What a worker is described by, what a process boundary answers, and what is observed of a
worker. -/

namespace O7Formal.Worker

/-- A `std::time::Duration`, in nanoseconds. -/
abbrev Duration := Nat

/-- `whole.frac`, where `frac` has `digits` digits and its trailing zeros are dropped. -/
def decimal (whole frac digits : Nat) : String :=
  if frac = 0 then toString whole
  else
    toString whole ++ "." ++
      String.ofList (((Nat.toDigits 10 frac).leftpad digits '0').rdropWhile (· = '0'))

/-- `{:?}` -/
def Duration.debug (d : Duration) : String :=
  if 1000000000 ≤ d then decimal (d / 1000000000) (d % 1000000000) 9 ++ "s"
  else if 1000000 ≤ d then decimal (d / 1000000) (d % 1000000) 6 ++ "ms"
  else if 1000 ≤ d then decimal (d / 1000) (d % 1000) 3 ++ "µs"
  else toString d ++ "ns"

def Duration.fromMillis (n : Nat) : Duration := n * 1000000

def Duration.fromSecs (n : Nat) : Duration := n * 1000000000

def usizeMax : Nat := 2 ^ 64 - 1

inductive BoundaryKind where
  | unconfinedHost | sandboy
  deriving DecidableEq

def BoundaryKind.debug : BoundaryKind → String
  | .unconfinedHost => "UnconfinedHost"
  | .sandboy => "Sandboy"

inductive EnforcementLevel where
  | none | partially | fullyEnforced
  deriving DecidableEq

def EnforcementLevel.debug : EnforcementLevel → String
  | .none => "None"
  | .partially => "Partial"
  | .fullyEnforced => "FullyEnforced"

/-- What a boundary says of itself before it launches anything. -/
structure BoundaryAttestation where
  implementation : BoundaryKind
  enforcement : EnforcementLevel
  deriving DecidableEq

def BoundaryAttestation.debug (a : BoundaryAttestation) : String :=
  "BoundaryAttestation \x7b implementation: " ++ a.implementation.debug ++ ", enforcement: " ++
    a.enforcement.debug ++ " \x7d"

inductive BoundaryRequirement where
  | allowUnconfined | requireFullyEnforced
  deriving DecidableEq

def BoundaryRequirement.debug : BoundaryRequirement → String
  | .allowUnconfined => "AllowUnconfined"
  | .requireFullyEnforced => "RequireFullyEnforced"

def BoundaryRequirement.isSatisfiedBy (attestation : BoundaryAttestation) :
    BoundaryRequirement → Bool
  | .allowUnconfined => true
  | .requireFullyEnforced => decide (attestation.enforcement = .fullyEnforced)

inductive BoundaryExit where
  | code (n : Int32)
  | signal (n : Int32)
  deriving DecidableEq

/-- What a launch has established: nothing, or what the raw report proves. -/
inductive BoundaryEvidence where
  | unconfined
  | reported (attestation : BoundaryAttestation) (report : List UInt8)
  deriving DecidableEq

def BoundaryEvidence.established : BoundaryEvidence → Option BoundaryAttestation
  | .unconfined => none
  | .reported attestation _ => some attestation

/-- `{:?}` of `established` -/
def establishedDebug : Option BoundaryAttestation → String
  | none => "None"
  | some attestation => "Some(" ++ attestation.debug ++ ")"

def BoundaryEvidence.satisfies (evidence : BoundaryEvidence) (requirement : BoundaryRequirement)
    (configured : BoundaryAttestation) : Bool :=
  match requirement, evidence with
  | .allowUnconfined, _ => true
  | .requireFullyEnforced, .unconfined => false
  | .requireFullyEnforced, .reported attestation _ =>
      decide (attestation.enforcement = .fullyEnforced) &&
        decide (attestation.implementation = configured.implementation)

/-- An `io::Error` is its text. -/
inductive BoundaryError where
  | spawn (source : String)
  | targetAcquisition (why : String)
  | signal (why : String)
  | wait (source : String)
  | membership (why : String)
  | evidence (why : String)
  | unsupportedPlatform
  deriving DecidableEq

def BoundaryError.text : BoundaryError → String
  | .spawn source => "spawn failed: " ++ source
  | .targetAcquisition why => "target acquisition failed closed: " ++ why
  | .signal why => "signal delivery failed: " ++ why
  | .wait source => "waiting for the process failed: " ++ source
  | .membership why => "membership query failed: " ++ why
  | .evidence why => "launch evidence/protocol failure: " ++ why
  | .unsupportedPlatform => "boundary is only supported on Linux"

structure ProcessIdentity where
  pid : Int32
  processGroup : Int32
  startTimeTicks : UInt64
  deriving DecidableEq

inductive StdinMode where
  | null
  deriving DecidableEq

structure OutputPolicy where
  maxChunkBytes : Nat
  channelCapacity : Nat
  sinkBackpressureTimeout : Duration
  maxTrailingBytes : Option Nat

structure CancellationPolicy where
  gracefulTimeout : Duration

structure HeartbeatPolicy where
  enabled : Bool
  interval : Duration

/-- Paths, arguments and the environment are texts; the environment is sorted by name. -/
structure WorkerSpec where
  workerId : String
  executable : String
  arguments : List String
  workingDirectory : String
  environment : List (String × String)
  stdin : StdinMode
  output : OutputPolicy
  cancellation : CancellationPolicy
  heartbeat : HeartbeatPolicy
  boundaryRequirement : BoundaryRequirement

structure BoundarySpawnSpec where
  executable : String
  arguments : List String
  workingDirectory : String
  environment : List (String × String)
  stdin : StdinMode
  deriving DecidableEq

def maxChunkBytes : Nat := 16 * 1024 * 1024

def maxChannelCapacity : Nat := 65536

def maxTotalBufferBytes : Nat := 256 * 1024 * 1024

def maxTimeout : Duration := Duration.fromSecs 3600

inductive SpecError where
  | relativeExecutable (path : String)
  | relativeWorkingDirectory (path : String)
  | zeroChunkSize
  | chunkSizeTooLarge (n : Nat)
  | zeroChannelCapacity
  | channelCapacityTooLarge (n : Nat)
  | outputBudgetTooLarge (maxChunkBytes channelCapacity : Nat)
  | zeroHeartbeatInterval
  | heartbeatIntervalTooLarge (d : Duration)
  | gracefulTimeoutTooLarge (d : Duration)
  | backpressureTimeoutTooLarge (d : Duration)
  deriving DecidableEq

def SpecError.text : SpecError → String
  | .relativeExecutable path =>
      "executable must be an absolute path (no PATH search, no shell): " ++ path
  | .relativeWorkingDirectory path => "working_directory must be an absolute path: " ++ path
  | .zeroChunkSize => "output.max_chunk_bytes must be > 0"
  | .chunkSizeTooLarge n =>
      "output.max_chunk_bytes " ++ toString n ++ " exceeds the maximum " ++ toString maxChunkBytes
  | .zeroChannelCapacity => "output.channel_capacity must be > 0"
  | .channelCapacityTooLarge n =>
      "output.channel_capacity " ++ toString n ++ " exceeds the maximum " ++
        toString maxChannelCapacity
  | .outputBudgetTooLarge chunk capacity =>
      "combined output buffer max_chunk_bytes " ++ toString chunk ++ " × channel_capacity " ++
        toString capacity ++ " exceeds the maximum " ++ toString maxTotalBufferBytes ++ " bytes"
  | .zeroHeartbeatInterval => "heartbeat.interval must be > 0 when heartbeat is enabled"
  | .heartbeatIntervalTooLarge d =>
      "heartbeat.interval " ++ d.debug ++ " exceeds the maximum " ++ maxTimeout.debug
  | .gracefulTimeoutTooLarge d =>
      "cancellation.graceful_timeout " ++ d.debug ++ " exceeds the maximum " ++ maxTimeout.debug
  | .backpressureTimeoutTooLarge d =>
      "output.sink_backpressure_timeout " ++ d.debug ++ " exceeds the maximum " ++
        maxTimeout.debug

def isAbsolute (path : String) : Bool := path.toList.head? = some '/'

def WorkerSpec.validate (spec : WorkerSpec) : Except SpecError Unit := do
  if !isAbsolute spec.executable then
    throw (.relativeExecutable spec.executable)
  if !isAbsolute spec.workingDirectory then
    throw (.relativeWorkingDirectory spec.workingDirectory)
  if spec.output.maxChunkBytes = 0 then
    throw .zeroChunkSize
  if spec.output.maxChunkBytes > maxChunkBytes then
    throw (.chunkSizeTooLarge spec.output.maxChunkBytes)
  if spec.output.channelCapacity = 0 then
    throw .zeroChannelCapacity
  if spec.output.channelCapacity > maxChannelCapacity then
    throw (.channelCapacityTooLarge spec.output.channelCapacity)
  let total := spec.output.maxChunkBytes * spec.output.channelCapacity
  if ¬ (total ≤ usizeMax ∧ total ≤ maxTotalBufferBytes) then
    throw (.outputBudgetTooLarge spec.output.maxChunkBytes spec.output.channelCapacity)
  if spec.heartbeat.enabled ∧ spec.heartbeat.interval = 0 then
    throw .zeroHeartbeatInterval
  if spec.heartbeat.enabled ∧ spec.heartbeat.interval > maxTimeout then
    throw (.heartbeatIntervalTooLarge spec.heartbeat.interval)
  if spec.cancellation.gracefulTimeout > maxTimeout then
    throw (.gracefulTimeoutTooLarge spec.cancellation.gracefulTimeout)
  if spec.output.sinkBackpressureTimeout > maxTimeout then
    throw (.backpressureTimeoutTooLarge spec.output.sinkBackpressureTimeout)

inductive OutputStream where
  | stdout | stderr
  deriving DecidableEq

structure OutputChunk where
  stream : OutputStream
  sequence : UInt64
  bytes : List UInt8
  deriving DecidableEq

inductive WorkerObservation where
  | boundaryAttested (attestation : BoundaryAttestation)
  | spawnRequested
  | launchEvidence (evidence : BoundaryEvidence)
  | spawned (identity : ProcessIdentity)
  | outputChunk (chunk : OutputChunk)
  | heartbeat (workerId : String) (sequence : UInt64) (uptime : Duration)
      (identity : ProcessIdentity)
  | cancellationRequested
  | gracefulStopSent
  | forceStopSent
  | descendantsRemaining (members : List ProcessIdentity)
  | exited (exit : BoundaryExit)
  | cleanupCompleted
  | supervisorFailed (message : String)
  deriving DecidableEq

inductive WorkerState where
  | created | starting | running | cancelling | exited | failedToStart
  deriving DecidableEq

def WorkerState.debug : WorkerState → String
  | .created => "Created"
  | .starting => "Starting"
  | .running => "Running"
  | .cancelling => "Cancelling"
  | .exited => "Exited"
  | .failedToStart => "FailedToStart"

def WorkerState.isTerminal : WorkerState → Bool
  | .exited | .failedToStart => true
  | _ => false

def WorkerState.canTransitionTo (state next : WorkerState) : Bool :=
  match state, next with
  | .created, .starting
  | .starting, .running
  | .starting, .failedToStart
  | .starting, .cancelling
  | .running, .cancelling
  | .running, .exited
  | .cancelling, .exited => true
  | _, _ => false

theorem WorkerState.canTransitionTo_isTerminal {state next : WorkerState}
    (terminal : state.isTerminal = true) : state.canTransitionTo next = false := by
  cases state <;> cases next <;> first | rfl | cases terminal

inductive WorkerResult where
  | exitedNormally (code : Int32)
  | exitedBySignal (signal : Int32)
  | cancelledGracefully
  | cancelledForcefully
  | failedToStart (message : String)
  | boundaryFailure (message : String)
  | observationFailure (message : String)
  | outputFailure (message : String)
  | cleanupFailure (message : String)
  deriving DecidableEq

def WorkerResult.kind : WorkerResult → String
  | .exitedNormally _ => "EXITED_NORMALLY"
  | .exitedBySignal _ => "EXITED_BY_SIGNAL"
  | .cancelledGracefully => "CANCELLED_GRACEFULLY"
  | .cancelledForcefully => "CANCELLED_FORCEFULLY"
  | .failedToStart _ => "FAILED_TO_START"
  | .boundaryFailure _ => "BOUNDARY_FAILURE"
  | .observationFailure _ => "OBSERVATION_FAILURE"
  | .outputFailure _ => "OUTPUT_FAILURE"
  | .cleanupFailure _ => "CLEANUP_FAILURE"

def WorkerResult.isFailure : WorkerResult → Bool
  | .failedToStart _ | .boundaryFailure _ | .observationFailure _ | .outputFailure _
  | .cleanupFailure _ => true
  | _ => false

def WorkerResult.message (result : WorkerResult) : String :=
  match result with
  | .failedToStart m | .boundaryFailure m | .observationFailure m | .outputFailure m
  | .cleanupFailure m => m
  | other => other.kind

end O7Formal.Worker
