import O7Formal.Run.Reduce

/-! What one accepted event can do. `Applied` lists the transitions of the reducer with
all their guards, `EnvelopeOk` the conditions on the envelope; `reduce_ok_iff` says that
the reducer accepts exactly these. Later results reason about the transitions only. -/

namespace O7Formal.Run

open Fallible SortedSearch

def ArtifactRef.Fits (a : ArtifactRef) (expected : ArtifactKind) : Prop :=
  a.locator ≠ "" ∧ a.kind = expected

theorem validateArtifact_ok_iff {a : ArtifactRef} {expected : ArtifactKind} {seq : UInt64}
    {u : Unit} : validateArtifact a expected seq = .ok u ↔ a.Fits expected := by
  simp [validateArtifact, bind_ok_iff, ArtifactRef.Fits]

/-- Every required policy that protects the subject has been checked and allowed. -/
def StartAllowed (s : RunState) (contract : RunContract) (subject : PolicyProtectedSubject) :
    Prop :=
  ∀ p ∈ contract.policyObligations, p.requirement = .required → subject ∈ p.protects →
    ∃ r ∈ s.policyResults, r.policy.digest = p.policy.digest ∧ r.outcome = .allowed

theorem policyAllowed_iff {s : RunState} {p : PolicyObligation} : policyAllowed s p = true ↔
    ∃ r ∈ s.policyResults, r.policy.digest = p.policy.digest ∧ r.outcome = .allowed := by
  simp [policyAllowed]

theorem checkProtectedStart_ok_iff {s : RunState} {contract : RunContract}
    {subject : PolicyProtectedSubject} {seq : UInt64} {u : Unit} :
    checkProtectedStart s contract subject seq = .ok u ↔ StartAllowed s contract subject := by
  rw [checkProtectedStart, foldlM_unit_ok_iff]
  apply forall₂_congr
  intro p _
  by_cases required : p.requirement = .required
  · by_cases protects : subject ∈ p.protects
    · simp [required, protects, policyAllowed_iff]
    · simp [required, protects]
  · simp [required]

def GateObligation.WaiverHonest (environment : String) (o : GateObligation) : Prop :=
  ∀ waivedIn reason, o.applicability = .waived waivedIn reason →
    waivedIn = environment ∧ isBlank reason = false

def RunContract.Protects (c : RunContract) : PolicyProtectedSubject → Prop
  | .agent => c.agent = .required
  | .gate gate => gateObligation c gate ≠ none

def RunContract.Observes (c : RunContract) : ExecutionSubject → Prop
  | .agent => c.agent = .required
  | .gate gate => ∃ o, gateObligation c gate = some o ∧ isRequiredApplicable o = true
  | .verifier => True

structure PolicyObligation.Valid (c : RunContract) (p : PolicyObligation) : Prop where
  fits : p.policy.Fits .policy
  binding : p.protects ≠ [] → p.requirement = .required
  subjects : ∀ subject ∈ p.protects, c.Protects subject
  distinct : p.protects.Nodup

structure RunContract.Valid (c : RunContract) : Prop where
  candidate : ∀ o ∈ c.candidateState, o.schema = candidateStateContractSchemaV1
  waivers : ∀ o ∈ c.gateObligations, o.WaiverHonest c.runnerEnvironment
  gates : (c.gateObligations.map GateObligation.gate).Nodup
  policies : ∀ p ∈ c.policyObligations, p.Valid c
  policyDigests : (c.policyObligations.map fun p => p.policy.digest).Nodup
  observed : ∀ r ∈ c.sandboxRequirements, c.Observes r.subject
  sandbox : c.sandboxRequirements.Nodup

theorem validateGates_ok_iff {c : RunContract} {seen t : Finset GateId} {o : GateObligation} :
    validateGates c seen o = .ok t ↔
      ¬ o.gate ∈ seen ∧ o.WaiverHonest c.runnerEnvironment ∧ insert o.gate seen = t := by
  rcases o with ⟨gate, requirement, _ | ⟨environment, reason⟩⟩ <;>
    simp [validateGates, bind_ok_iff, GateObligation.WaiverHonest, -bind_pure_comp, and_assoc]

theorem validateProtected_ok_iff {c : RunContract} {seen t : List PolicyProtectedSubject}
    {subject : PolicyProtectedSubject} : validateProtected c seen subject = .ok t ↔
      ¬ subject ∈ seen ∧ c.Protects subject ∧ seen ++ [subject] = t := by
  cases subject <;> simp [validateProtected, bind_ok_iff, RunContract.Protects, -bind_pure_comp]

theorem validatePolicies_ok_iff {c : RunContract} {seq : UInt64} {seen t : Finset Digest256}
    {p : PolicyObligation} : validatePolicies c seq seen p = .ok t ↔
      ¬ p.policy.digest ∈ seen ∧ p.Valid c ∧ insert p.policy.digest seen = t := by
  have subjects : (∃ u, p.protects.foldlM (validateProtected c) [] = .ok u) ↔
      (∀ subject ∈ p.protects, c.Protects subject) ∧ p.protects.Nodup := by
    have ran := foldlM_distinct_ok id (fun s x => x ∈ s) (fun s x => s ++ [x])
      (fun s x t => validateProtected_ok_iff (c := c)) (fun s x k => by simp [or_comm])
      p.protects []
    simpa using ran
  simp only [validatePolicies, bind_ok_iff, validateArtifact_ok_iff, refuseIf_ok_iff, exists_const,
    pure_ok_iff]
  constructor
  · intro facts
    obtain ⟨fits, fresh, binding, u, ran, rfl⟩ := facts
    have checked := subjects.mp ⟨u, ran⟩
    refine ⟨fresh, ⟨fits, ?_, checked.1, checked.2⟩, rfl⟩
    simpa using binding
  · intro facts
    obtain ⟨fresh, valid, rfl⟩ := facts
    rcases subjects.mpr ⟨valid.subjects, valid.distinct⟩ with ⟨u, ran⟩
    exact ⟨valid.fits, fresh, by simpa using valid.binding, u, ran, rfl⟩

theorem validateSandbox_ok_iff {c : RunContract} {seen t : List SandboxRequirement}
    {r : SandboxRequirement} : validateSandbox c seen r = .ok t ↔
      ¬ r ∈ seen ∧ c.Observes r.subject ∧ seen ++ [r] = t := by
  rcases r with ⟨_ | gate | _, digest⟩
  · simp [validateSandbox, bind_ok_iff, RunContract.Observes, -bind_pure_comp]
  · cases found : gateObligation c gate <;>
      simp [validateSandbox, bind_ok_iff, RunContract.Observes, -bind_pure_comp, found]
  · simp [validateSandbox, bind_ok_iff, RunContract.Observes, -bind_pure_comp]

theorem validateCandidateSchema_ok_iff {c : RunContract} {u : Unit} :
    validateCandidateSchema c = .ok u ↔
      ∀ o ∈ c.candidateState, o.schema = candidateStateContractSchemaV1 := by
  unfold validateCandidateSchema
  cases c.candidateState <;> simp

theorem validateContract_ok_iff {c : RunContract} {seq : UInt64} {u : Unit} :
    validateContract c seq = .ok u ↔ c.Valid := by
  have gates := foldlM_distinct_ok GateObligation.gate (fun s g => g ∈ s)
    (fun s x => insert x.gate s)
    (fun s x t => validateGates_ok_iff (c := c))
    (fun s x k => Finset.mem_insert) c.gateObligations ∅
  have policies := foldlM_distinct_ok (fun p : PolicyObligation => p.policy.digest)
    (fun s d => d ∈ s) (fun s x => insert x.policy.digest s)
    (fun s x t => @validatePolicies_ok_iff c seq s t x)
    (fun s x k => Finset.mem_insert) c.policyObligations ∅
  have sandbox := foldlM_distinct_ok id (fun s x => x ∈ s) (fun s x => s ++ [x])
    (fun s x t => validateSandbox_ok_iff (c := c))
    (fun s x k => by simp [or_comm]) c.sandboxRequirements []
  simp only [Finset.notMem_empty, not_false_eq_true, implies_true, true_and, List.map_id,
    List.not_mem_nil] at gates policies sandbox
  simp only [validateContract, bind_ok_iff, validateCandidateSchema_ok_iff, exists_const,
    pure_ok_iff]
  constructor
  · intro facts
    obtain ⟨candidate, g, gatesRan, p, policiesRan, b, sandboxRan, -⟩ := facts
    have gatesOk := gates.mp ⟨g, gatesRan⟩
    have policiesOk := policies.mp ⟨p, policiesRan⟩
    have sandboxOk := sandbox.mp ⟨b, sandboxRan⟩
    exact ⟨candidate, gatesOk.1, gatesOk.2, policiesOk.1, policiesOk.2, sandboxOk.1, sandboxOk.2⟩
  · intro valid
    rcases gates.mpr ⟨valid.waivers, valid.gates⟩ with ⟨g, gatesRan⟩
    rcases policies.mpr ⟨valid.policies, valid.policyDigests⟩ with ⟨p, policiesRan⟩
    rcases sandbox.mpr ⟨valid.observed, valid.sandbox⟩ with ⟨b, sandboxRan⟩
    exact ⟨valid.candidate, g, gatesRan, p, policiesRan, b, sandboxRan, trivial⟩

inductive Applied (contract : RunContract) (s : RunState) : RunEventKind → RunState → Prop where
  | worktreeCreated {worktree : ArtifactRef} (fits : worktree.Fits .worktree)
      (empty : s.worktree = none) :
      Applied contract s (.worktreeCreated worktree) { s with worktree := some worktree }
  | patchCaptured {patch : ArtifactRef} (fits : patch.Fits .diff) (empty : s.patch = none) :
      Applied contract s (.patchCaptured patch) { s with patch := some patch }
  | agentStarted (declared : contract.agent = .required) (fresh : s.agent = .notObserved)
      (materialized : contract.candidateState ≠ none → s.commandBinding ≠ none →
        s.candidateMaterialized ≠ none)
      (allowed : StartAllowed s contract .agent) :
      Applied contract s .agentStarted { s with agent := .started }
  | agentExited {outcome : AgentOutcome} (declared : contract.agent = .required)
      (running : s.agent = .started ∨
        s.agent = .notObserved ∧ ∃ reason, outcome = .failedToStart reason) :
      Applied contract s (.agentExited outcome) { s with agent := .exited outcome }
  | policyChecked {policy : ArtifactRef} {outcome : PolicyOutcome} (fits : policy.Fits .policy)
      (declared : ∃ o ∈ contract.policyObligations, o.policy.digest = policy.digest)
      (fresh : ∀ r ∈ s.policyResults, r.policy.digest ≠ policy.digest) :
      Applied contract s (.policyChecked policy outcome)
        { s with policyResults := s.policyResults ++ [⟨policy, outcome⟩] }
  | gateStarted {gate : GateId} (declared : gateObligation contract gate ≠ none)
      (fresh : s.gates.lookup gate = none) (allowed : StartAllowed s contract (.gate gate)) :
      Applied contract s (.gateStarted gate) { s with gates := s.gates.insert gate .started }
  | gateFinished {gate : GateId} {outcome : GateOutcome} {log : Option ArtifactRef}
      (declared : gateObligation contract gate ≠ none)
      (fits : ∀ a ∈ log, a.Fits .gateLog) (running : s.gates.lookup gate = some .started) :
      Applied contract s (.gateFinished gate outcome log)
        { s with gates := s.gates.insert gate (.finished outcome) }
  | sandboxEvidenceCaptured {subject : ExecutionSubject} {policyDigest : Digest256}
      {report : ArtifactRef} {outcome : SandboxEvidenceOutcome} (fits : report.Fits .sandboxReport)
      (declared : ∃ r ∈ contract.sandboxRequirements,
        r.subject = subject ∧ r.policyDigest = policyDigest)
      (fresh : ∀ e ∈ s.sandboxEvidence, e.key ≠ ⟨subject, policyDigest⟩) :
      Applied contract s (.sandboxEvidenceCaptured subject policyDigest report outcome)
        { s with
          sandboxEvidence := insertByKey SandboxEvidenceEntry.key s.sandboxEvidence
            ⟨⟨subject, policyDigest⟩, outcome⟩ }
  | providerSessionCaptured {receipt : ArtifactRef} (fits : receipt.Fits .providerSession)
      (empty : s.providerSessionReceipt = none) :
      Applied contract s (.providerSessionCaptured receipt)
        { s with providerSessionReceipt := some receipt }
  | commandBindingCaptured {binding : ArtifactRef} (fits : binding.Fits .commandBinding)
      (empty : s.commandBinding = none) :
      Applied contract s (.commandBindingCaptured binding) { s with commandBinding := some binding }
  | candidateStateCaptured {receipt : ArtifactRef} (fits : receipt.Fits .candidateState)
      (empty : s.candidateState = none) (patched : s.patch ≠ none)
      (terminal : contract.agent = .required → s.agent.isExited = true) :
      Applied contract s (.candidateStateCaptured receipt) { s with candidateState := some receipt }
  | candidateStateMaterialized {sourceRunId : RunId} {sourceReceipt sourcePatch : ArtifactRef}
      {materializedTreeOid : String} (fitsReceipt : sourceReceipt.Fits .candidateState)
      (fitsPatch : sourcePatch.Fits .candidatePatch) (empty : s.candidateMaterialized = none)
      (bound : s.commandBinding ≠ none) (undispatched : s.agent = .notObserved) :
      Applied contract s
        (.candidateStateMaterialized sourceRunId sourceReceipt sourcePatch materializedTreeOid)
        { s with
          candidateMaterialized :=
            some ⟨sourceRunId, sourceReceipt, sourcePatch, materializedTreeOid⟩ }
  | runSealed :
      Applied contract s .runSealed
        { s with verdict := some (computeVerdict s contract), phase := .sealed }

theorem checkAgentExit_ok_iff {agent : AgentLifecycle} {outcome : AgentOutcome} {seq : UInt64}
    {u : Unit} : checkAgentExit agent outcome seq = .ok u ↔
      agent = .started ∨ agent = .notObserved ∧ ∃ reason, outcome = .failedToStart reason := by
  cases agent <;> cases outcome <;> simp [checkAgentExit]

theorem validateLog_ok_iff {log : Option ArtifactRef} {seq : UInt64} {u : Unit} :
    validateLog log seq = .ok u ↔ ∀ a ∈ log, a.Fits .gateLog := by
  cases log <;> simp [validateLog, validateArtifact_ok_iff]

theorem checkGateRunning_ok_iff {progress : Option GateProgress} {gate : GateId} {seq : UInt64}
    {u : Unit} : checkGateRunning progress gate seq = .ok u ↔ progress = some .started := by
  rcases progress with _ | _ | _ <;> simp [checkGateRunning]

theorem applyWithContract_ok_iff {contract : RunContract} {s t : RunState} {e : RunEvent}
    {seq : UInt64} : applyWithContract s contract e seq = .ok t ↔ Applied contract s e.kind t := by
  unfold applyWithContract
  generalize e.kind = k
  constructor
  · intro run
    cases k <;> simp only [bind_ok_iff, validateArtifact_ok_iff, checkProtectedStart_ok_iff,
      checkAgentExit_ok_iff, validateLog_ok_iff, checkGateRunning_ok_iff, refuseIf_ok_iff,
      pure_ok_iff, exists_const, not_not, not_and, not_exists, ne_eq, Bool.not_eq_false,
      List.any_eq_true, Bool.and_eq_true, decide_eq_true_eq, Finmap.lookup_eq_none.symm,
      reduceCtorEq] at run
    case worktreeCreated =>
        rcases run with ⟨fits, empty, rfl⟩
        exact .worktreeCreated fits empty
    case patchCaptured =>
        rcases run with ⟨fits, empty, rfl⟩
        exact .patchCaptured fits empty
    case agentStarted =>
        rcases run with ⟨declared, fresh, materialized, allowed, rfl⟩
        exact .agentStarted declared fresh materialized allowed
    case agentExited =>
        rcases run with ⟨declared, running, rfl⟩
        exact .agentExited declared running
    case policyChecked =>
        rcases run with ⟨fits, declared, fresh, rfl⟩
        exact .policyChecked fits declared fresh
    case gateStarted =>
        rcases run with ⟨declared, fresh, allowed, rfl⟩
        exact .gateStarted declared fresh allowed
    case gateFinished =>
        rcases run with ⟨declared, fits, running, rfl⟩
        exact .gateFinished declared fits running
    case sandboxEvidenceCaptured =>
        rcases run with ⟨fits, declared, fresh, rfl⟩
        exact .sandboxEvidenceCaptured fits declared fresh
    case providerSessionCaptured =>
        rcases run with ⟨fits, empty, rfl⟩
        exact .providerSessionCaptured fits empty
    case commandBindingCaptured =>
        rcases run with ⟨fits, empty, rfl⟩
        exact .commandBindingCaptured fits empty
    case candidateStateCaptured =>
        rcases run with ⟨fits, empty, patched, terminal, rfl⟩
        exact .candidateStateCaptured fits empty patched terminal
    case candidateStateMaterialized =>
        rcases run with ⟨fitsReceipt, fitsPatch, empty, bound, undispatched, rfl⟩
        exact .candidateStateMaterialized fitsReceipt fitsPatch empty bound undispatched
    case runSealed =>
        rcases run with rfl
        exact .runSealed
  · intro applied
    cases applied <;> simp only [bind_ok_iff, validateArtifact_ok_iff, checkProtectedStart_ok_iff,
      checkAgentExit_ok_iff, validateLog_ok_iff, checkGateRunning_ok_iff, refuseIf_ok_iff,
      pure_ok_iff, exists_const, not_not, not_and, not_exists, ne_eq, Bool.not_eq_false,
      List.any_eq_true, Bool.and_eq_true, decide_eq_true_eq, Finmap.lookup_eq_none.symm, and_true]
    case worktreeCreated fits empty => exact ⟨fits, empty⟩
    case patchCaptured fits empty => exact ⟨fits, empty⟩
    case agentStarted declared fresh materialized allowed =>
        exact ⟨declared, fresh, materialized, allowed⟩
    case agentExited declared running => exact ⟨declared, running⟩
    case policyChecked fits declared fresh => exact ⟨fits, declared, fresh⟩
    case gateStarted declared fresh allowed => exact ⟨declared, fresh, allowed⟩
    case gateFinished declared fits running => exact ⟨declared, fits, running⟩
    case sandboxEvidenceCaptured fits declared fresh => exact ⟨fits, declared, fresh⟩
    case providerSessionCaptured fits empty => exact ⟨fits, empty⟩
    case commandBindingCaptured fits empty => exact ⟨fits, empty⟩
    case candidateStateCaptured fits empty patched terminal =>
        exact ⟨fits, empty, patched, terminal⟩
    case candidateStateMaterialized fitsReceipt fitsPatch empty bound undispatched =>
        exact ⟨fitsReceipt, fitsPatch, empty, bound, undispatched⟩

/-- What the payload of an accepted event does: the first binds the contract, every
later one is a transition under it. -/
inductive PayloadStep (s : RunState) (runId : RunId) : RunEventKind → RunState → Prop where
  | started {contract : RunContract} {task : ArtifactRef} (fresh : s.phase = .notStarted)
      (valid : contract.Valid) (fits : task.Fits .task) :
      PayloadStep s runId (.runStarted contract task)
        { s with
          runId := some runId
          contract := some contract
          task := some task
          phase := .running }
  | later {contract : RunContract} {kind : RunEventKind} {t : RunState}
      (bound : s.contract = some contract) (applied : Applied contract s kind t) :
      PayloadStep s runId kind t

theorem applied_restore_iff {contract : RunContract} {s t : RunState} {kind : RunEventKind}
    (bound : s.contract = some contract) :
    (∃ u, Applied contract { s with contract := none } kind u ∧
      { u with contract := some contract } = t) ↔ Applied contract s kind t := by
  rcases s with ⟨version, phase, runId, held, task, worktree, patch, agent, lastSequence,
    lastDigest, seen, gates, policies, sandbox, verdict, session, binding, captured, materialized⟩
  rcases bound with rfl
  constructor
  · intro facts
    obtain ⟨u, applied, rfl⟩ := facts
    cases applied <;> constructor <;> assumption
  · intro applied
    cases applied <;> exact ⟨_, by constructor <;> assumption, rfl⟩

theorem applyKind_ok_iff {s t : RunState} {e : RunEvent} {seq : UInt64} :
    applyKind s e seq = .ok t ↔ PayloadStep s e.runId e.kind t := by
  by_cases starts : e.kind.isRunStarted = true
  · cases kind : e.kind <;> simp [kind, RunEventKind.isRunStarted] at starts
    simp only [applyKind, kind, bind_ok_iff, refuseIf_ok_iff, validateContract_ok_iff,
      validateArtifact_ok_iff, pure_ok_iff, exists_const, not_not, ne_eq]
    constructor
    · intro facts
      obtain ⟨fresh, valid, fits, rfl⟩ := facts
      exact .started fresh valid fits
    · intro either
      rcases either with ⟨fresh, valid, fits⟩ | ⟨bound, applied⟩
      · exact ⟨fresh, valid, fits, rfl⟩
      · cases applied
  · have taken : applyKind s e seq = .ok t ↔ ∃ contract, s.contract = some contract ∧
        Applied contract s e.kind t := by
      unfold applyKind
      split
      · next kind => simp [kind, RunEventKind.isRunStarted] at starts
      · cases bound : s.contract with
        | none => simp
        | some contract =>
            simp only [bind_ok_iff, applyWithContract_ok_iff, pure_ok_iff,
              applied_restore_iff bound, Option.some.injEq, exists_eq_left']
    rw [taken]
    constructor
    · intro facts
      obtain ⟨contract, bound, applied⟩ := facts
      exact .later bound applied
    · intro step
      generalize e.kind = kind at step starts
      cases step with
      | started fresh valid fits => simp [RunEventKind.isRunStarted] at starts
      | later bound applied => exact ⟨_, bound, applied⟩

structure EnvelopeOk (sha256 : Sha256) (s : RunState) (e : RunEvent) : Prop where
  unsealed : s.phase ≠ .sealed
  schema : e.schemaVersion = runEventSchemaVersion
  consistent : e.digestIsConsistent sha256 = true
  sequence : e.sequence = s.lastSequence.elim 0 (· + 1)
  link : e.previousEventDigest = s.lastEventDigest
  sameRun : ∀ runId ∈ s.runId, e.runId = runId
  freshId : e.eventId ∉ s.seenEventIds
  first : s.phase = .notStarted → e.kind.isRunStarted = true

theorem checkSequence_ok_iff {last : Option UInt64} {seq : UInt64} {u : Unit} :
    checkSequence last seq = .ok u ↔ seq = last.elim 0 (· + 1) := by
  cases last with
  | none => simp [checkSequence]
  | some last =>
      have advances : ¬ last + 1 = last := by
        intro same
        simp at same
      simp only [checkSequence, bind_ok_iff, refuseIf_ok_iff, exists_const, Option.elim_some]
      constructor
      · intro checked
        exact not_not.mp checked.2
      · intro same
        subst same
        exact ⟨advances, not_not.mpr rfl⟩

theorem checkRunId_ok_iff {runId : Option RunId} {e : RunEvent} {u : Unit} :
    checkRunId runId e = .ok u ↔ ∀ expected ∈ runId, e.runId = expected := by
  cases runId <;> simp [checkRunId]

theorem checkEnvelope_ok_iff {sha256 : Sha256} {s : RunState} {e : RunEvent} {u : Unit} :
    checkEnvelope sha256 s e = .ok u ↔ EnvelopeOk sha256 s e := by
  simp only [checkEnvelope, bind_ok_iff, refuseIf_ok_iff, checkSequence_ok_iff, checkRunId_ok_iff,
    exists_const, ne_eq, not_not, not_and]
  constructor
  · intro facts
    obtain ⟨unsealed, schema, consistent, sequence, link, sameRun, freshId, first⟩ := facts
    exact ⟨unsealed, schema, consistent, sequence, link, sameRun, freshId, first⟩
  · intro facts
    obtain ⟨unsealed, schema, consistent, sequence, link, sameRun, freshId, first⟩ := facts
    exact ⟨unsealed, schema, consistent, sequence, link, sameRun, freshId, first⟩

theorem reduce_ok_iff {sha256 : Sha256} {s t : RunState} {e : RunEvent} :
    reduce sha256 s e = .ok t ↔
      EnvelopeOk sha256 s e ∧ ∃ applied, PayloadStep s e.runId e.kind applied ∧
        applied.stamp e = t := by
  simp only [reduce, bind_ok_iff, checkEnvelope_ok_iff, applyKind_ok_iff, pure_ok_iff, exists_const]

end O7Formal.Run
