import O7Formal.Producers.Manifest
import O7Formal.Run.EventChain

/-! The stream of a run that is recorded after the fact, and the payloads that every producer of a
stream mints: the same steps in the same order, with more or less evidence between them. -/

namespace O7Formal.Producers

open Fallible
open O7Formal.Run (AgentOutcome ArtifactKind ArtifactRef EventChain IdError PushError RunContract
  RunEvent RunEventKind Sha256)

inductive BuildError where
  | id (error : IdError)
  | push (error : PushError)
  | log (why : String)
  deriving DecidableEq, Repr

/-- A step of the manifest, and what its command came to. -/
abbrev Outcome := GateStep × Ran

section Build

variable (sha256 : Sha256) (clock : UInt64 → Option Int64)

def artifact (kind : ArtifactKind) (locator : String) (bytes : List UInt8) : ArtifactRef :=
  ⟨kind, locator, .ofBytes sha256 bytes⟩

def push (chain : EventChain) (kind : RunEventKind) : Except BuildError EventChain :=
  (chain.push sha256 (clock chain.seq) kind).mapError .push

def readLog (read : String → Except String (List UInt8)) (log : String) :
    Except BuildError (Option ArtifactRef) :=
  if log = "" then .ok none
  else do
    let bytes ← (read log).mapError fun why =>
      BuildError.log ("reading back gate log " ++ log ++ ": " ++ why)
    pure (some (artifact sha256 .gateLog log bytes))

/-- A step that was not executed has no events: the contract speaks for it. -/
def pushStep (read : String → Except String (List UInt8)) (chain : EventChain)
    (step : StepVerdict) : Except BuildError EventChain :=
  if step.verdict = .blocked ∨ step.verdict = .notApplicable then .ok chain
  else do
    let gate ← (Run.Id.new .gate step.name).mapError .id
    let log ← readLog sha256 read step.log
    let chain ← push sha256 clock chain (.gateStarted gate)
    push sha256 clock chain (.gateFinished gate (gateOutcome step.verdict) log)

def buildEvents (runId : String) (contract : RunContract) (task diff : ArtifactRef)
    (exitCode : Option Int32) (steps : List StepVerdict)
    (read : String → Except String (List UInt8)) : Except BuildError (List RunEvent) := do
  let rid ← (Run.Id.new .run runId).mapError .id
  let chain ← push sha256 clock (.new rid) (.runStarted contract task)
  let chain ← push sha256 clock chain .agentStarted
  let chain ← push sha256 clock chain (.agentExited (agentOutcome exitCode))
  let chain ← push sha256 clock chain (.patchCaptured diff)
  let chain ← steps.foldlM (pushStep sha256 clock read) chain
  let chain ← push sha256 clock chain .runSealed
  pure chain.out

def gateLogs (ran : List Outcome) : List (String × List UInt8) :=
  ((ran.filter fun step => !skipped step.1).map fun step =>
    (logLocator step.1, step.2.combined)).reverse

def readBack (ran : List Outcome) (log : String) : Except String (List UInt8) :=
  match (gateLogs ran).lookup log with
  | some bytes => .ok bytes
  | none => .error "No such file or directory (os error 2)"

def recordRun (runId : String) (contract : RunContract) (task diff : ArtifactRef)
    (exitCode : Option Int32) (ran : List Outcome) : Except BuildError (List RunEvent) :=
  buildEvents sha256 clock runId contract task diff exitCode
    (ran.map fun step => runOneStep step.1 step.2) (readBack ran)

end Build

section Payloads

variable (sha256 : Sha256)

def gateKinds (step : Outcome) : List RunEventKind :=
  if skipped step.1 then []
  else match Run.Id.new .gate step.1.name with
    | .error _ => []
    | .ok gate => [.gateStarted gate, .gateFinished gate (gateOutcome step.2.verdict)
        (some (artifact sha256 .gateLog (logLocator step.1) step.2.combined))]

/-- What a producer has beyond the steps that all share: evidence before the dispatch, the session
of the provider, the candidate state. -/
structure Extras where
  before : List RunEventKind
  session : Option ArtifactRef
  captured : Option ArtifactRef

def afterDispatch (extras : Extras) (diff : ArtifactRef) (outcome : AgentOutcome)
    (ran : List Outcome) : List RunEventKind :=
  [.agentExited outcome] ++ extras.session.toList.map .providerSessionCaptured ++
    [.patchCaptured diff] ++ extras.captured.toList.map .candidateStateCaptured ++
    ran.flatMap (gateKinds sha256) ++ [.runSealed]

def runKinds (extras : Extras) (contract : RunContract) (task diff : ArtifactRef)
    (outcome : AgentOutcome) (ran : List Outcome) : List RunEventKind :=
  .runStarted contract task :: extras.before ++
    .agentStarted :: afterDispatch sha256 extras diff outcome ran

end Payloads

end O7Formal.Producers

/-! ### The reducer accepts what a producer mints: each payload is a transition from the state that the
payloads before it have left, for every manifest that makes a contract -/

namespace O7Formal.Producers

open Fallible
open O7Formal.Run (AgentOutcome Applied ArtifactKind ArtifactRef GateId PayloadRun PayloadStep
  RunContract RunEventKind RunId RunState Sha256)

variable {sha256 : Sha256} {runId : RunId} {m : GateManifest} {c : RunContract} {s : RunState}

structure Running (c : RunContract) (s : RunState) : Prop where
  contract : s.contract = some c
  phase : s.phase = .running

/-- A run that may dispatch its agent, with nothing recorded after the dispatch. -/
structure Ready (c : RunContract) (s : RunState) : Prop extends Running c s where
  agent : s.agent = .notObserved
  gates : s.gates = ∅
  patch : s.patch = none
  session : s.providerSessionReceipt = none
  captured : s.candidateState = none
  materialized : c.candidateState ≠ none → s.commandBinding ≠ none →
    s.candidateMaterialized ≠ none

theorem artifact_fits {kind : ArtifactKind} {locator : String} {bytes : List UInt8}
    (named : locator ≠ "") : (artifact sha256 kind locator bytes).Fits kind := ⟨named, rfl⟩

theorem logLocator_ne (step : GateStep) : logLocator step ≠ "" := by
  simp [logLocator]

theorem gateKinds_of_runs {step : Outcome} {gate : GateId} (runs : skipped step.1 = false)
    (minted : Run.Id.new .gate step.1.name = .ok gate) : gateKinds sha256 step =
      [.gateStarted gate, .gateFinished gate (gateOutcome step.2.verdict)
        (some (artifact sha256 .gateLog (logLocator step.1) step.2.combined))] := by
  simp [gateKinds, runs, minted]

theorem gateKinds_of_skipped {step : Outcome} (skips : skipped step.1 = true) :
    gateKinds sha256 step = [] := by
  simp [gateKinds, skips]

/-- The gates that are still to come are not yet in the state. -/
def Untouched (s : RunState) (ran : List Outcome) : Prop :=
  ∀ step ∈ ran, ∀ gate, Run.Id.new .gate step.1.name = .ok gate → s.gates.lookup gate = none

theorem gate_run {step : Outcome} {rest : List Outcome} (held : Contracted m c)
    (member : step.1 ∈ m.gate) (distinct : ∀ other ∈ rest, other.1.name ≠ step.1.name)
    (running : Running c s) (untouched : Untouched s (step :: rest)) :
    ∃ t, PayloadRun runId s (gateKinds sha256 step) t ∧ Running c t ∧ Untouched t rest := by
  have later : Untouched s rest := fun other among => untouched other (List.mem_cons_of_mem _ among)
  cases skips : skipped step.1 with
  | true =>
      rw [gateKinds_of_skipped skips]
      exact ⟨s, .nil, running, later⟩
  | false =>
      rcases held.valid.gateId member with ⟨gate, minted, named⟩
      have declared := held.declares member minted
      rw [gateKinds_of_runs skips minted]
      have fresh := untouched step List.mem_cons_self gate minted
      have start : Applied c s (.gateStarted gate) _ :=
        .gateStarted declared fresh (held.startAllowed _ _)
      have started : Running c { s with gates := s.gates.insert gate .started } :=
        ⟨running.contract, running.phase⟩
      have finish : Applied c { s with gates := s.gates.insert gate .started }
          (.gateFinished gate (gateOutcome step.2.verdict)
            (some (artifact sha256 .gateLog (logLocator step.1) step.2.combined))) _ :=
        .gateFinished declared
          (fun log same => Option.some.inj same ▸ artifact_fits (logLocator_ne step.1))
          (Finmap.lookup_insert _)
      refine ⟨_, .later running.contract running.phase start
        (.later started.contract started.phase finish .nil),
        ⟨running.contract, running.phase⟩, ?_⟩
      intro other among otherGate otherMinted
      have apart : otherGate ≠ gate := by
        intro same
        apply distinct other among
        rw [← id_of_new otherMinted, same, named]
      rw [Finmap.lookup_insert_of_ne _ apart, Finmap.lookup_insert_of_ne _ apart]
      exact later other among otherGate otherMinted

theorem gates_run (sha256 : Sha256) (runId : RunId) {ran : List Outcome} (held : Contracted m c)
    (members : ∀ step ∈ ran, step.1 ∈ m.gate)
    (distinct : (ran.map fun step => step.1.name).Nodup)
    (running : Running c s) (untouched : Untouched s ran) :
    ∃ t, PayloadRun runId s (ran.flatMap (gateKinds sha256)) t ∧ Running c t := by
  induction ran generalizing s with
  | nil => exact ⟨s, .nil, running⟩
  | cons step rest ih =>
      rw [List.map_cons, List.nodup_cons] at distinct
      have apart : ∀ other ∈ rest, other.1.name ≠ step.1.name := by
        intro other among same
        apply distinct.1
        rw [← same]
        exact List.mem_map_of_mem among
      rw [List.forall_mem_cons] at members
      rcases @gate_run sha256 runId _ _ _ _ _ held members.1 apart running untouched with
        ⟨t, first, running', untouched'⟩
      rcases ih members.2 distinct.2 running' untouched' with ⟨u, others, running''⟩
      rw [List.flatMap_cons]
      exact ⟨u, first.append others, running''⟩

structure Extras.Fit (extras : Extras) : Prop where
  session : ∀ receipt ∈ extras.session, receipt.Fits .providerSession
  captured : ∀ receipt ∈ extras.captured, receipt.Fits .candidateState

/-- A run whose agent has exited, before its patch is captured. -/
structure Exited (c : RunContract) (s : RunState) : Prop extends Running c s where
  agent : s.agent.isExited = true
  gates : s.gates = ∅
  patch : s.patch = none
  captured : s.candidateState = none

theorem dispatch_run (runId : RunId) (outcome : AgentOutcome) (held : Contracted m c) (ready : Ready c s) :
    ∃ t, PayloadRun runId s [.agentStarted, .agentExited outcome] t ∧ Exited c t ∧
      t.providerSessionReceipt = none := by
  have running := ready.toRunning
  have started : Applied c s .agentStarted { s with agent := .started } :=
    .agentStarted held.agent ready.agent ready.materialized (held.startAllowed _ _)
  have exited : Applied c { s with agent := .started } (.agentExited outcome)
      { s with agent := .exited outcome } := .agentExited held.agent (.inl rfl)
  refine ⟨_, .later running.contract running.phase started
    (.later running.contract running.phase exited .nil), ?_, ready.session⟩
  exact ⟨⟨running.contract, running.phase⟩, rfl, ready.gates, ready.patch, ready.captured⟩

theorem session_run (runId : RunId) {session : Option ArtifactRef}
    (fits : ∀ receipt ∈ session, receipt.Fits .providerSession) (exited : Exited c s)
    (empty : s.providerSessionReceipt = none) :
    ∃ t, PayloadRun runId s (session.toList.map .providerSessionCaptured) t ∧ Exited c t := by
  cases session with
  | none => exact ⟨s, .nil, exited⟩
  | some receipt =>
      refine ⟨_, .later exited.contract exited.phase (.providerSessionCaptured (fits _ rfl) empty)
        .nil, ?_⟩
      exact ⟨⟨exited.contract, exited.phase⟩, exited.agent, exited.gates, exited.patch,
        exited.captured⟩

theorem patch_run (runId : RunId) {diff : ArtifactRef} {captured : Option ArtifactRef} (fits : diff.Fits .diff)
    (capturedFits : ∀ receipt ∈ captured, receipt.Fits .candidateState) (exited : Exited c s) :
    ∃ t, PayloadRun runId s
      (.patchCaptured diff :: captured.toList.map .candidateStateCaptured) t ∧ Running c t ∧
        t.gates = ∅ := by
  have patched : Applied c s (.patchCaptured diff) { s with patch := some diff } :=
    .patchCaptured fits exited.patch
  cases captured with
  | none =>
      refine ⟨_, .later exited.contract exited.phase patched .nil, ?_, exited.gates⟩
      exact ⟨exited.contract, exited.phase⟩
  | some receipt =>
      have capture : Applied c { s with patch := some diff } (.candidateStateCaptured receipt) _ :=
        .candidateStateCaptured (capturedFits _ rfl) exited.captured (Option.some_ne_none _)
          fun _ => exited.agent
      refine ⟨_, .later exited.contract exited.phase patched
        (.later exited.contract exited.phase capture .nil), ?_, exited.gates⟩
      exact ⟨exited.contract, exited.phase⟩

theorem afterDispatch_run (sha256 : Sha256) (runId : RunId) {extras : Extras}
    {diff : ArtifactRef} (outcome : AgentOutcome) {ran : List Outcome} (held : Contracted m c) (ready : Ready c s) (fit : extras.Fit)
    (diffFits : diff.Fits .diff) (steps : ran.map Prod.fst = m.gate) :
    ∃ t, PayloadRun runId s (.agentStarted :: afterDispatch sha256 extras diff outcome ran) t ∧
      t.phase = .sealed := by
  have members : ∀ step ∈ ran, step.1 ∈ m.gate := by
    intro step among
    rw [← steps]
    exact List.mem_map_of_mem among
  have distinct : (ran.map fun step => step.1.name).Nodup := by
    have names := held.valid.names
    rwa [← steps, List.map_map] at names
  rcases dispatch_run runId outcome held ready with
    ⟨t₁, dispatched, exited, empty⟩
  rcases session_run runId fit.session exited empty with ⟨t₂, session, exited'⟩
  rcases patch_run runId diffFits fit.captured exited' with
    ⟨t₃, patched, running, noGates⟩
  have untouched : Untouched t₃ ran := by
    intro step _ gate _
    rw [noGates]
    exact Finmap.lookup_empty gate
  rcases gates_run sha256 runId held members distinct running untouched
    with ⟨t₄, gates, running'⟩
  have sealing : PayloadRun runId t₄ [.runSealed]
      { t₄ with verdict := some (Run.computeVerdict t₄ c), phase := .sealed } :=
    .later running'.contract running'.phase .runSealed .nil
  refine ⟨{ t₄ with verdict := some (Run.computeVerdict t₄ c), phase := .sealed }, ?_, rfl⟩
  have whole := dispatched.append (session.append (patched.append (gates.append sealing)))
  simpa [afterDispatch] using whole

/-- What stands before the dispatch leads to a run that is ready for it. -/
def Prepares (runId : RunId) (c : RunContract) (task : ArtifactRef)
    (before : List RunEventKind) : Prop :=
  ∃ s, PayloadRun runId .initial (.runStarted c task :: before) s ∧ Ready c s

theorem runKinds_run (sha256 : Sha256) {extras : Extras} {task diff : ArtifactRef}
    (outcome : AgentOutcome) {ran : List Outcome} (held : Contracted m c) (prepares : Prepares runId c task extras.before)
    (fit : extras.Fit) (diffFits : diff.Fits .diff) (steps : ran.map Prod.fst = m.gate) :
    ∃ t, PayloadRun runId .initial (runKinds sha256 extras c task diff outcome ran) t ∧
      t.phase = .sealed := by
  rcases prepares with ⟨s, prepared, ready⟩
  rcases afterDispatch_run sha256 runId outcome held ready fit
    diffFits steps with ⟨t, run, sealed⟩
  refine ⟨t, ?_, sealed⟩
  have whole := prepared.append run
  simpa [runKinds] using whole

theorem started_run {task : ArtifactRef} (valid : c.Valid) (fits : task.Fits .task) :
    PayloadStep .initial runId (.runStarted c task)
      { RunState.initial with
        runId := some runId, contract := some c, task := some task, phase := .running } :=
  .started rfl valid fits

theorem prepares_nothing {task : ArtifactRef} (valid : c.Valid) (fits : task.Fits .task) :
    Prepares runId c task [] := by
  refine ⟨_, .cons (by decide) (started_run valid fits) .nil, ?_⟩
  exact ⟨⟨rfl, rfl⟩, rfl, rfl, rfl, rfl, rfl, fun _ unbound => absurd rfl unbound⟩

theorem prepares_continuation {task binding sourceReceipt sourcePatch : ArtifactRef}
    {source : RunId} {tree : String} (valid : c.Valid) (fits : task.Fits .task)
    (bindingFits : binding.Fits .commandBinding) (receiptFits : sourceReceipt.Fits .candidateState)
    (patchFits : sourcePatch.Fits .candidatePatch) :
    Prepares runId c task [.commandBindingCaptured binding,
      .candidateStateMaterialized source sourceReceipt sourcePatch tree] := by
  refine ⟨_, .cons (by decide) (started_run valid fits)
    (.later rfl rfl (.commandBindingCaptured bindingFits rfl)
      (.later rfl rfl (.candidateStateMaterialized receiptFits patchFits rfl ?_ rfl) .nil)), ?_⟩
  · exact Option.some_ne_none _
  · exact ⟨⟨rfl, rfl⟩, rfl, rfl, rfl, rfl, rfl, fun _ _ => Option.some_ne_none _⟩

end O7Formal.Producers
