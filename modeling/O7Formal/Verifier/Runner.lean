import O7Formal.Verifier.Verdict
import O7Formal.Worker.Success

/-! The runner of a verifier command, from its checks to the evidence. -/

namespace O7Formal.Verifier

open Run (Sha256)
open Worker

inductive OpenFault where
  | loop
  | other (err : String)

structure SourceFile where
  opened : Except OpenFault Unit
  stat : Except String (UInt32 × Int)
  content : Except String (List UInt8)

def maxExecutableBytes : Int := 256 * 1024 * 1024

def readExecutable (file : SourceFile) (size : Int) : Except String (List UInt8) :=
  match file.content with
  | .error err => .error ("read failed: " ++ err)
  | .ok content =>
      let bytes := content.take (size.toNat + 1)
      if (bytes.length : Int) ≠ size then
        .error ("size drift: stat reported " ++ toString size ++ " bytes but the file yielded " ++
          toString bytes.length)
      else .ok bytes

def acquireExecutable (file : SourceFile) : Except String (List UInt8) :=
  match file.opened, file.stat with
  | .error .loop, _ => .error "the path is a symlink (O_NOFOLLOW)"
  | .error (.other err), _ => .error ("open failed: " ++ err)
  | .ok _, .error err => .error ("fstat failed: " ++ err)
  | .ok _, .ok (mode, size) =>
      if mode &&& 0o170000 ≠ 0o100000 then
        .error "not a regular file (fifo, device, socket, or directory)"
      else if size < 0 then .error "negative file size"
      else if size = 0 then .error "empty or pseudo-file (reported size 0)"
      else if size > maxExecutableBytes then
        .error ("executable is " ++ toString size ++ " bytes, over the " ++
          toString maxExecutableBytes ++ "-byte cap")
      else readExecutable file size

structure StagedExecutable where
  procPath : String
  content : List UInt8

def StagedExecutable.readBack (staged : StagedExecutable) (fault : Option String) :
    Except String (List UInt8) :=
  match fault with
  | some err => .error err
  | none => .ok staged.content

structure Collected where
  stdout : List UInt8
  stderr : List UInt8
  total : Nat
  budgetExceeded : Bool
  deriving DecidableEq

namespace Collected

def start : Collected := ⟨[], [], 0, false⟩

def held (collected : Collected) : OutputStream → List UInt8
  | .stdout => collected.stdout
  | .stderr => collected.stderr

def extend (collected : Collected) (chunk : OutputChunk) (total : Nat) : Collected :=
  match chunk.stream with
  | .stdout => { collected with total := total, stdout := collected.stdout ++ chunk.bytes }
  | .stderr => { collected with total := total, stderr := collected.stderr ++ chunk.bytes }

def publish (budget : Nat) (collected : Collected) :
    WorkerObservation → Bounded ObservationError Unit × Collected
  | .outputChunk chunk =>
      let newTotal := min (collected.total + chunk.bytes.length) usizeMax
      if newTotal > budget then
        (.failed ⟨"verifier output exceeded the " ++ toString budget ++ "-byte budget"⟩,
          { collected with budgetExceeded := true })
      else (.done (), collected.extend chunk newTotal)
  | _ => (.done (), collected)

def after (budget : Nat) (trace : Program.Trace Call Call.Answer) : Collected :=
  trace.foldl (fun collected entry =>
    match entry with
    | ⟨.publish o, _⟩ => (collected.publish budget o).2
    | _ => collected) start

end Collected

def sinkAnswers (budget : Nat) (w : World) (answers : (c : Call) → Option c.Answer) :
    (c : Call) → Option c.Answer
  | .publish o => some ((Collected.after budget w.trace).publish budget o).1
  | c => answers c

/-- The answers where nothing has asked for a cancellation. -/
def uncancelled (answers : (c : Call) → Option c.Answer) : (c : Call) → Option c.Answer
  | .cancelRequested => some false
  | .spawn s =>
      match answers (.spawn s) with
      | some none => none
      | other => other
  | .select outputOpen enabled =>
      match answers (.select outputOpen enabled) with
      | some .cancelled => none
      | other => other
  | c => answers c

def overSink (budget : Nat) (w : World) : Turn → Turn
  | .supervisor answers => .supervisor (sinkAnswers budget w answers)
  | .reader s answers => .reader s answers

def unhurried : Turn → Turn
  | .supervisor answers => .supervisor (uncancelled answers)
  | .reader s answers => .reader s answers

def collectRun (turns : Nat) (spec : WorkerSpec) (budget : Nat) (w : World) (schedule : List Turn) :
    World :=
  schedule.foldl (fun w turn => w.step turns spec (overSink budget w turn)) w

/-- What the verifier meets: the boundary's attestation, the executable, its sealed copy, and the
turns of the run before and after the timeout. -/
structure Host where
  attestation : BoundaryAttestation
  source : SourceFile
  stage : List UInt8 → Except String StagedExecutable
  readFault : Option String
  display : Bytes → String
  turns : Nat
  early : List Turn
  late : List Turn

def latin (bytes : Bytes) : String := String.ofList (bytes.toList.map fun b => Char.ofNat b.toNat)

def cwdOf (root : Bytes) : CwdPolicy → Bytes
  | .worktreeRoot => root
  | .absolute path => path

def workerSpec (requirement : BoundaryRequirement) (staged : StagedExecutable) (root : Bytes)
    (command : TrustedCommand) (structural : CommandDigest) : WorkerSpec :=
  { workerId := "verify-" ++ structural.text
    executable := staged.procPath
    arguments := command.arguments.toList.map latin
    workingDirectory := latin (cwdOf root command.cwdPolicy)
    environment := command.environment.entries.toList.map fun e => (latin e.1, latin e.2)
    stdin := .null
    output := ⟨64 * 1024, 256, Duration.fromSecs 5, none⟩
    cancellation := ⟨Duration.fromMillis 500⟩
    heartbeat := ⟨false, Duration.fromSecs 1⟩
    boundaryRequirement := requirement }

namespace Host

variable (host : Host)

def atTimeout (spec : WorkerSpec) (budget : Nat) : World :=
  collectRun host.turns spec budget (World.begin host.turns spec) (host.early.map unhurried)

def atEnd (spec : WorkerSpec) (budget : Nat) : World :=
  collectRun host.turns spec budget (host.atTimeout spec budget) host.late

/-- The worker's result, whether the timeout passed before it, and what the sink holds; nothing
while the worker goes on. -/
def join (spec : WorkerSpec) (budget : Nat) : Option (WorkerResult × Bool × Collected) :=
  match (host.atTimeout spec budget).supervisor with
  | .done result => some (result, false, .after budget (host.atTimeout spec budget).trace)
  | .call _ _ =>
      match (host.atEnd spec budget).supervisor with
      | .done result => some (result, true, .after budget (host.atEnd spec budget).trace)
      | .call _ _ => none

end Host

def mapOutcome (result : WorkerResult) (timedOut budgetExceeded : Bool) : VerifierOutcome :=
  if timedOut then
    match result with
    | .cleanupFailure m => .faulted ("timeout teardown could not be proven: " ++ m)
    | _ => .timedOut
  else if budgetExceeded then .outputLost "verifier output exceeded the configured budget"
  else
    match result with
    | .exitedNormally code => .completed code
    | .exitedBySignal signal => .signalled signal
    | .failedToStart m => .spawnFailed m
    | .outputFailure m => .outputLost m
    | .observationFailure m | .boundaryFailure m | .cleanupFailure m => .faulted m
    | .cancelledGracefully | .cancelledForcefully => .faulted "unexpected cancellation"

def CommandError.text (display : Bytes → String) : CommandError → String
  | .relativeExecutable path =>
      "executable must be an absolute path (no PATH search, no shell): " ++ display path
  | .relativeCwd path => "cwd policy Absolute(" ++ display path ++ ") must be an absolute path"
  | .timeout d =>
      "timeout must be > 0 and <= " ++ maxTimeout.debug ++ "; got " ++ Duration.debug d.nanos
  | .outputBudget n =>
      "output.max_total_bytes must be in 1..=" ++ toString maxOutputBytes ++ "; got " ++ toString n
  | .emptyExitPolicy => "exit policy must list at least one success code"

def notRun (repo : CanonicalRepoId) (command : TrustedCommand) (structural : CommandDigest)
    (identity : Option ExecutableIdentity) (digest : Option CommandDigest)
    (enforcement : Option AttestedEnforcement) (reason : String) : VerifierEvidence :=
  ⟨.notRun reason, false, enforcement, repo, command, identity, digest, structural, [], []⟩

/-- The rest of `verify` once the sealed bytes were read back. -/
def verifySealed (sha256 : Sha256) (requirement : BoundaryRequirement) (host : Host)
    (repo : CanonicalRepoId) (root : Bytes) (command : TrustedCommand) (store : TrustStore)
    (staged : StagedExecutable) (sealedBytes : List UInt8) : Option VerifierEvidence :=
  let structural := structuralCommandDigest sha256 repo command
  let enforcement := some (AttestedEnforcement.ofLevel host.attestation.enforcement)
  let anchor := TrustAnchor.forExecutableBytes sha256 repo command sealedBytes
  let identity := some anchor.executableIdentity
  let digest := some anchor.digest
  if !store.isTrusted anchor then
    some (notRun repo command structural identity digest enforcement
      "command is not trusted for this repository")
  else if !requirement.isSatisfiedBy host.attestation then
    some ⟨.boundaryUnavailable ("required " ++ requirement.debug ++ ", boundary attests " ++
        host.attestation.enforcement.debug ++ "; no fallback"),
      true, enforcement, repo, command, identity, digest, structural, [], []⟩
  else
    let spec := workerSpec requirement staged root command structural
    (host.join spec command.outputLimits.maxTotalBytes.toNat).map fun (result, timedOut, collected) =>
      ⟨mapOutcome result timedOut collected.budgetExceeded, true, enforcement, repo, command,
        identity, digest, structural, collected.stdout, collected.stderr⟩

def verify (sha256 : Sha256) (requirement : BoundaryRequirement) (host : Host)
    (repo : CanonicalRepoId) (root : Bytes) (command : TrustedCommand) (store : TrustStore) :
    Option VerifierEvidence :=
  let refused := notRun repo command (structuralCommandDigest sha256 repo command) none none
    (some (.ofLevel host.attestation.enforcement))
  if command.boundaryRequirement.requirement ≠ requirement then
    some (refused ("verifier requirement " ++ requirement.debug ++
      " does not match the command's trust-bound requirement " ++
      command.boundaryRequirement.requirement.debug))
  else
    match command.validate with
    | .error err => some (refused ("invalid command: " ++ err.text host.display))
    | .ok _ =>
        match acquireExecutable host.source with
        | .error reason =>
            some (refused ("command executable could not be safely acquired: " ++ reason))
        | .ok source =>
            match host.stage source with
            | .error err => some (refused ("failed to stage the trusted executable: " ++ err))
            | .ok staged =>
                match staged.readBack host.readFault with
                | .error err => some (refused ("failed to read back the sealed executable: " ++ err))
                | .ok sealedBytes =>
                    verifySealed sha256 requirement host repo root command store staged sealedBytes

end O7Formal.Verifier
