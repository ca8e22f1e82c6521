import O7Formal.Run.State
import O7Formal.Lib.Fallible
import O7Formal.Lib.SortedSearch

/-! The pure run-state reducer. Every check stands where the source makes it, with the
error it returns; a check that passes leaves no trace in the state. -/

namespace O7Formal.Run

open Fallible SortedSearch

inductive ReduceError where
  | missingRunStarted (found : String) (sequence : UInt64)
  | duplicateStart (sequence : UInt64)
  | outOfOrder (expected found : UInt64)
  | duplicateSequence (sequence : UInt64)
  | brokenChain (sequence : UInt64)
  | inconsistentDigest (sequence : UInt64)
  | runIdMismatch (sequence : UInt64) (expected found : RunId)
  | duplicateEventId (sequence : UInt64) (eventId : RunEventId)
  | unsupportedSchema (sequence : UInt64) (found supported : UInt32)
  | duplicateGateInContract (gate : GateId)
  | unsupportedCandidateContractSchema (found supported : UInt32)
  | unknownGate (sequence : UInt64) (gate : GateId)
  | duplicateGateStarted (sequence : UInt64) (gate : GateId)
  | gateFinishedWithoutStart (sequence : UInt64) (gate : GateId)
  | duplicateGateFinished (sequence : UInt64) (gate : GateId)
  | agentExitBeforeStart (sequence : UInt64)
  | duplicateAgentStart (sequence : UInt64)
  | duplicateAgentExit (sequence : UInt64)
  | wrongArtifactKind (sequence : UInt64) (expected found : ArtifactKind)
  | emptyArtifactLocator (sequence : UInt64)
  | waiverEnvironmentMismatch (gate : GateId) (waiverEnvironment runnerEnvironment : String)
  | emptyWaiverReason (gate : GateId)
  | sandboxAgentSubjectWithoutAgent
  | sandboxSubjectGateIneligible (gate : GateId)
  | policyProtectsUnknownGate (gate : GateId)
  | policyProtectsAgentWithoutAgent
  | duplicateProtectedSubject (subject : PolicyProtectedSubject)
  | optionalPolicyWithProtects (policyDigest : Digest256)
  | duplicateWorktree (sequence : UInt64)
  | duplicatePatch (sequence : UInt64)
  | disallowedAgentEvent (sequence : UInt64)
  | duplicatePolicyInContract (policyDigest : Digest256)
  | unknownPolicy (sequence : UInt64) (policyDigest : Digest256)
  | duplicatePolicyCheck (sequence : UInt64) (policyDigest : Digest256)
  | protectedStartBeforePolicyAllowed (sequence : UInt64) (subject : ExecutionSubject)
  | duplicateSandboxRequirement (subject : ExecutionSubject) (policyDigest : Digest256)
  | sandboxSubjectUnknownGate (gate : GateId)
  | duplicateSandboxEvidence (sequence : UInt64)
  | unrequiredSandboxEvidence (sequence : UInt64)
  | impossibleTransition (sequence : UInt64) (detail : String)
  | eventAfterSeal (sequence : UInt64)
  | duplicateProviderSessionReceipt (sequence : UInt64)
  | duplicateCommandBinding (sequence : UInt64)
  | duplicateCandidateState (sequence : UInt64)
  | duplicateCandidateMaterialized (sequence : UInt64)
  | candidateCaptureBeforePatch (sequence : UInt64)
  | candidateCaptureBeforeAgentTerminal (sequence : UInt64)
  | candidateMaterializationWithoutCommandBinding (sequence : UInt64)
  | candidateMaterializationAfterAgentStarted (sequence : UInt64)
  | agentStartedWithoutCandidateMaterialization (sequence : UInt64)
  deriving DecidableEq

def gateObligation (contract : RunContract) (gate : GateId) : Option GateObligation :=
  contract.gateObligations.find? fun o => o.gate = gate

def isRequiredApplicable (obligation : GateObligation) : Bool :=
  obligation.requirement = .required && obligation.applicability = .applicable

def validateArtifact (artifact : ArtifactRef) (expected : ArtifactKind) (seq : UInt64) :
    Except ReduceError Unit := do
  refuseIf (artifact.locator = "") (.emptyArtifactLocator seq)
  refuseIf (artifact.kind ≠ expected) (.wrongArtifactKind seq expected artifact.kind)

/-- Unicode white space: what `str::trim` strips. -/
def isWhitespace (c : Char) : Bool :=
  let v := c.toNat
  (0x09 ≤ v && v ≤ 0x0D) || v = 0x20 || v = 0x85 || v = 0xA0 || v = 0x1680 ||
    (0x2000 ≤ v && v ≤ 0x200A) || v = 0x2028 || v = 0x2029 || v = 0x202F || v = 0x205F || v = 0x3000

def isBlank (s : String) : Bool := s.toList.all isWhitespace

def validateGates (contract : RunContract) (seenGates : Finset GateId) (o : GateObligation) :
    Except ReduceError (Finset GateId) := do
  refuseIf (o.gate ∈ seenGates) (.duplicateGateInContract o.gate)
  match o.applicability with
  | .applicable => pure ()
  | .waived environment reason =>
      refuseIf (environment ≠ contract.runnerEnvironment)
        (.waiverEnvironmentMismatch o.gate environment contract.runnerEnvironment)
      refuseIf (isBlank reason = true) (.emptyWaiverReason o.gate)
  pure (insert o.gate seenGates)

def validateProtected (contract : RunContract) (seenProtected : List PolicyProtectedSubject)
    (s : PolicyProtectedSubject) : Except ReduceError (List PolicyProtectedSubject) := do
  refuseIf (s ∈ seenProtected) (.duplicateProtectedSubject s)
  match s with
  | .agent => refuseIf (contract.agent ≠ .required) .policyProtectsAgentWithoutAgent
  | .gate gate =>
      refuseIf (gateObligation contract gate = none) (.policyProtectsUnknownGate gate)
  pure (seenProtected ++ [s])

def validatePolicies (contract : RunContract) (seq : UInt64) (seenPolicies : Finset Digest256)
    (p : PolicyObligation) : Except ReduceError (Finset Digest256) := do
  validateArtifact p.policy .policy seq
  refuseIf (p.policy.digest ∈ seenPolicies) (.duplicatePolicyInContract p.policy.digest)
  refuseIf (p.protects ≠ [] ∧ p.requirement ≠ .required)
    (.optionalPolicyWithProtects p.policy.digest)
  let _ ← p.protects.foldlM (validateProtected contract) []
  pure (insert p.policy.digest seenPolicies)

def validateSandbox (contract : RunContract) (seenSandbox : List SandboxRequirement)
    (r : SandboxRequirement) : Except ReduceError (List SandboxRequirement) := do
  refuseIf (r ∈ seenSandbox) (.duplicateSandboxRequirement r.subject r.policyDigest)
  match r.subject with
  | .agent => refuseIf (contract.agent ≠ .required) .sandboxAgentSubjectWithoutAgent
  | .gate gate =>
      match gateObligation contract gate with
      | none => .error (.sandboxSubjectUnknownGate gate)
      | some o => refuseIf (¬ isRequiredApplicable o = true) (.sandboxSubjectGateIneligible gate)
  | .verifier => pure ()
  pure (seenSandbox ++ [r])

def validateCandidateSchema (contract : RunContract) : Except ReduceError Unit :=
  match contract.candidateState with
  | none => pure ()
  | some obligation =>
      refuseIf (obligation.schema ≠ candidateStateContractSchemaV1)
        (.unsupportedCandidateContractSchema obligation.schema candidateStateContractSchemaV1)

def validateContract (contract : RunContract) (seq : UInt64) : Except ReduceError Unit := do
  validateCandidateSchema contract
  let _ ← contract.gateObligations.foldlM (validateGates contract) ∅
  let _ ← contract.policyObligations.foldlM (validatePolicies contract seq) ∅
  let _ ← contract.sandboxRequirements.foldlM (validateSandbox contract) []

def protectedToExecution : PolicyProtectedSubject → ExecutionSubject
  | .agent => .agent
  | .gate gate => .gate gate

def policyAllowed (state : RunState) (p : PolicyObligation) : Bool :=
  state.policyResults.any fun r => r.policy.digest = p.policy.digest && r.outcome = .allowed

def checkProtectedStart (state : RunState) (contract : RunContract)
    (subject : PolicyProtectedSubject) (seq : UInt64) : Except ReduceError Unit :=
  contract.policyObligations.foldlM (fun _ p =>
    if p.requirement ≠ .required then pure ()
    else if subject ∉ p.protects then pure ()
    else refuseIf (¬ policyAllowed state p = true)
      (.protectedStartBeforePolicyAllowed seq (protectedToExecution subject))) ()

inductive NonStart where
  | error
  | blocked
  deriving DecidableEq, Repr

def policyResult (state : RunState) (digest : Digest256) : Option PolicyResult :=
  state.policyResults.find? fun r => r.policy.digest = digest

def agentNonstartDisposition (state : RunState) (contract : RunContract) : NonStart :=
  let protectors := contract.policyObligations.filter fun o =>
    o.requirement = .required && o.protects.contains .agent
  let outcome := fun o : PolicyObligation =>
    (policyResult state o.policy.digest).map PolicyResult.outcome
  let anyError := protectors.any fun o => outcome o = some .error
  let anyDeniedOrAbsent := protectors.any fun o => outcome o = some .denied || outcome o = none
  if protectors.isEmpty then .error
  else if anyError then .error
  else if anyDeniedOrAbsent then .blocked
  else .error

structure Flags where
  error : Bool := false
  fail : Bool := false
  blocked : Bool := false
  deriving DecidableEq, Repr

def agentFlags (state : RunState) (contract : RunContract) (f : Flags) : Flags :=
  if contract.agent = .required then
    match state.agent with
    | .exited outcome => if outcome = .exitedNormally 0 then f else { f with error := true }
    | .started => { f with error := true }
    | .notObserved =>
        match agentNonstartDisposition state contract with
        | .error => { f with error := true }
        | .blocked => { f with blocked := true }
  else f

def gateFlags (state : RunState) (f : Flags) (o : GateObligation) : Flags :=
  if isRequiredApplicable o then
    match state.gates.lookup o.gate with
    | none => { f with blocked := true }
    | some .started => { f with error := true }
    | some (.finished outcome) =>
        match outcome with
        | .pass | .warn => f
        | .fail => { f with fail := true }
        | .error => { f with error := true }
        | .blocked | .notApplicable => { f with blocked := true }
  else f

def policyFlags (state : RunState) (f : Flags) (p : PolicyObligation) : Flags :=
  if p.requirement = .required then
    match policyResult state p.policy.digest with
    | none => { f with blocked := true }
    | some r =>
        match r.outcome with
        | .allowed => f
        | .denied => { f with blocked := true }
        | .error => { f with error := true }
  else f

def sandboxFlags (state : RunState) (f : Flags) (req : SandboxRequirement) : Flags :=
  match state.sandboxEvidence.find? (fun e =>
      e.key.subject = req.subject && e.key.policyDigest = req.policyDigest) with
  | none => { f with blocked := true }
  | some e =>
      match e.outcome with
      | .satisfied => f
      | .violated => { f with blocked := true }
      | .error => { f with error := true }

def candidateFlags (state : RunState) (contract : RunContract) (f : Flags) : Flags :=
  if contract.candidateState ≠ none ∧ state.candidateState = none then { f with blocked := true }
  else f

def Flags.verdict (f : Flags) : Verdict :=
  if f.error then .error else if f.fail then .fail else if f.blocked then .blocked else .pass

def computeVerdict (state : RunState) (contract : RunContract) : Verdict :=
  let flags := agentFlags state contract {}
  let flags := contract.gateObligations.foldl (gateFlags state) flags
  let flags := contract.policyObligations.foldl (policyFlags state) flags
  let flags := contract.sandboxRequirements.foldl (sandboxFlags state) flags
  (candidateFlags state contract flags).verdict

def checkAgentExit (agent : AgentLifecycle) (outcome : AgentOutcome) (seq : UInt64) :
    Except ReduceError Unit :=
  match agent, outcome with
  | .notObserved, .failedToStart _ => pure ()
  | .notObserved, _ => .error (.agentExitBeforeStart seq)
  | .started, _ => pure ()
  | .exited _, _ => .error (.duplicateAgentExit seq)

def validateLog (log : Option ArtifactRef) (seq : UInt64) : Except ReduceError Unit :=
  match log with
  | none => pure ()
  | some log => validateArtifact log .gateLog seq

def checkGateRunning (progress : Option GateProgress) (gate : GateId) (seq : UInt64) :
    Except ReduceError Unit :=
  match progress with
  | none => .error (.gateFinishedWithoutStart seq gate)
  | some (.finished _) => .error (.duplicateGateFinished seq gate)
  | some .started => pure ()

def applyWithContract (state : RunState) (contract : RunContract) (event : RunEvent)
    (seq : UInt64) : Except ReduceError RunState :=
  match event.kind with
  | .runStarted .. => .error (.duplicateStart seq)
  | .worktreeCreated worktree => do
      validateArtifact worktree .worktree seq
      refuseIf (state.worktree ≠ none) (.duplicateWorktree seq)
      pure { state with worktree := some worktree }
  | .patchCaptured patch => do
      validateArtifact patch .diff seq
      refuseIf (state.patch ≠ none) (.duplicatePatch seq)
      pure { state with patch := some patch }
  | .agentStarted => do
      refuseIf (contract.agent ≠ .required) (.disallowedAgentEvent seq)
      refuseIf (state.agent ≠ .notObserved) (.duplicateAgentStart seq)
      refuseIf (contract.candidateState ≠ none ∧ state.commandBinding ≠ none ∧
          state.candidateMaterialized = none)
        (.agentStartedWithoutCandidateMaterialization seq)
      checkProtectedStart state contract .agent seq
      pure { state with agent := .started }
  | .agentExited outcome => do
      refuseIf (contract.agent ≠ .required) (.disallowedAgentEvent seq)
      checkAgentExit state.agent outcome seq
      pure { state with agent := .exited outcome }
  | .policyChecked policy outcome => do
      validateArtifact policy .policy seq
      refuseIf (contract.policyObligations.any (fun o => o.policy.digest = policy.digest) = false)
        (.unknownPolicy seq policy.digest)
      refuseIf (state.policyResults.any (fun r => r.policy.digest = policy.digest) = true)
        (.duplicatePolicyCheck seq policy.digest)
      pure { state with policyResults := state.policyResults ++ [⟨policy, outcome⟩] }
  | .gateStarted gate => do
      refuseIf (gateObligation contract gate = none) (.unknownGate seq gate)
      refuseIf (gate ∈ state.gates) (.duplicateGateStarted seq gate)
      checkProtectedStart state contract (.gate gate) seq
      pure { state with gates := state.gates.insert gate .started }
  | .gateFinished gate outcome log => do
      refuseIf (gateObligation contract gate = none) (.unknownGate seq gate)
      validateLog log seq
      checkGateRunning (state.gates.lookup gate) gate seq
      pure { state with gates := state.gates.insert gate (.finished outcome) }
  | .sandboxEvidenceCaptured subject policyDigest report outcome => do
      validateArtifact report .sandboxReport seq
      refuseIf (contract.sandboxRequirements.any
          (fun r => r.subject = subject && r.policyDigest = policyDigest) = false)
        (.unrequiredSandboxEvidence seq)
      refuseIf (state.sandboxEvidence.any (fun e => e.key = ⟨subject, policyDigest⟩) = true)
        (.duplicateSandboxEvidence seq)
      pure { state with
              sandboxEvidence := insertByKey SandboxEvidenceEntry.key state.sandboxEvidence
                ⟨⟨subject, policyDigest⟩, outcome⟩ }
  | .providerSessionCaptured receipt => do
      validateArtifact receipt .providerSession seq
      refuseIf (state.providerSessionReceipt ≠ none) (.duplicateProviderSessionReceipt seq)
      pure { state with providerSessionReceipt := some receipt }
  | .commandBindingCaptured binding => do
      validateArtifact binding .commandBinding seq
      refuseIf (state.commandBinding ≠ none) (.duplicateCommandBinding seq)
      pure { state with commandBinding := some binding }
  | .candidateStateCaptured receipt => do
      validateArtifact receipt .candidateState seq
      refuseIf (state.candidateState ≠ none) (.duplicateCandidateState seq)
      refuseIf (state.patch = none) (.candidateCaptureBeforePatch seq)
      refuseIf (contract.agent = .required ∧ ¬ state.agent.isExited = true)
        (.candidateCaptureBeforeAgentTerminal seq)
      pure { state with candidateState := some receipt }
  | .candidateStateMaterialized sourceRunId sourceReceipt sourcePatch materializedTreeOid => do
      validateArtifact sourceReceipt .candidateState seq
      validateArtifact sourcePatch .candidatePatch seq
      refuseIf (state.candidateMaterialized ≠ none) (.duplicateCandidateMaterialized seq)
      refuseIf (state.commandBinding = none)
        (.candidateMaterializationWithoutCommandBinding seq)
      refuseIf (state.agent ≠ .notObserved) (.candidateMaterializationAfterAgentStarted seq)
      pure { state with
              candidateMaterialized :=
                some ⟨sourceRunId, sourceReceipt, sourcePatch, materializedTreeOid⟩ }
  | .runSealed =>
      pure { state with verdict := some (computeVerdict state contract), phase := .sealed }

/-- The first event binds the contract; every later one borrows it, taken out of the
state for the duration and put back. -/
def applyKind (state : RunState) (event : RunEvent) (seq : UInt64) :
    Except ReduceError RunState :=
  match event.kind with
  | .runStarted contract task => do
      refuseIf (state.phase ≠ .notStarted) (.duplicateStart seq)
      validateContract contract seq
      validateArtifact task .task seq
      pure { state with
              runId := some event.runId
              contract := some contract
              task := some task
              phase := .running }
  | kind =>
      match state.contract with
      | none => .error (.missingRunStarted kind.name seq)
      | some contract => do
          let applied ← applyWithContract { state with contract := none } contract event seq
          pure { applied with contract := some contract }

def checkSequence (lastSequence : Option UInt64) (seq : UInt64) : Except ReduceError Unit :=
  match lastSequence with
  | none => refuseIf (seq ≠ 0) (.outOfOrder 0 seq)
  | some last => do
      refuseIf (seq = last) (.duplicateSequence seq)
      refuseIf (seq ≠ last + 1) (.outOfOrder (last + 1) seq)

def checkRunId (runId : Option RunId) (event : RunEvent) : Except ReduceError Unit :=
  match runId with
  | none => pure ()
  | some expected =>
      refuseIf (event.runId ≠ expected) (.runIdMismatch event.sequence expected event.runId)

def RunEventKind.isRunStarted : RunEventKind → Bool
  | .runStarted .. => true
  | _ => false

def checkEnvelope (sha256 : Sha256) (state : RunState) (event : RunEvent) :
    Except ReduceError Unit := do
  let seq := event.sequence
  refuseIf (state.phase = .sealed) (.eventAfterSeal seq)
  refuseIf (event.schemaVersion ≠ runEventSchemaVersion)
    (.unsupportedSchema seq event.schemaVersion runEventSchemaVersion)
  refuseIf (¬ event.digestIsConsistent sha256 = true) (.inconsistentDigest seq)
  checkSequence state.lastSequence seq
  refuseIf (event.previousEventDigest ≠ state.lastEventDigest) (.brokenChain seq)
  checkRunId state.runId event
  refuseIf (event.eventId ∈ state.seenEventIds) (.duplicateEventId seq event.eventId)
  refuseIf (state.phase = .notStarted ∧ ¬ event.kind.isRunStarted = true)
    (.missingRunStarted event.kind.name seq)

@[simps]
def RunState.stamp (state : RunState) (event : RunEvent) : RunState :=
  { state with
    seenEventIds := insert event.eventId state.seenEventIds
    lastSequence := some event.sequence
    lastEventDigest := event.eventDigest }

def reduce (sha256 : Sha256) (state : RunState) (event : RunEvent) :
    Except ReduceError RunState := do
  checkEnvelope sha256 state event
  let applied ← applyKind state event event.sequence
  pure (applied.stamp event)

def reduceAll (sha256 : Sha256) (events : List RunEvent) : Except ReduceError RunState :=
  events.foldlM (reduce sha256) .initial

end O7Formal.Run
