import O7Formal.Producers.Batch
import O7Formal.Run.Verdict

/-! The verdict that the payloads of a producer lead to is the same for every producer: it rests on
the events of the agent and of the gates alone. -/

namespace O7Formal.Producers

open Fallible
open O7Formal.Run (AgentOutcome ArtifactRef EventChain RunContract RunEvent RunEventKind RunId
  RunState Sha256 Obliges evidence kinds verdictOf)

def isCore : RunEventKind → Bool
  | .agentStarted | .agentExited _ | .gateStarted _ | .gateFinished .. => true
  | _ => false

section Congr

variable {c₁ c₂ : RunContract} {seen₁ seen₂ : Set RunEventKind}

/-- Two runs whose contracts differ in the candidate state only, with the same evidence of agent
and gates. -/
structure SameRun (c₁ c₂ : RunContract) (seen₁ seen₂ : Set RunEventKind) : Prop where
  gates : c₁.gateObligations = c₂.gateObligations
  agent : c₁.agent = c₂.agent
  policies₁ : c₁.policyObligations = []
  policies₂ : c₂.policyObligations = []
  sandbox₁ : c₁.sandboxRequirements = []
  sandbox₂ : c₂.sandboxRequirements = []
  core : ∀ kind, isCore kind = true → (kind ∈ seen₁ ↔ kind ∈ seen₂)
  captured₁ : c₁.candidateState ≠ none → ∃ receipt, .candidateStateCaptured receipt ∈ seen₁
  captured₂ : c₂.candidateState ≠ none → ∃ receipt, .candidateStateCaptured receipt ∈ seen₂

namespace SameRun

variable (same : SameRun c₁ c₂ seen₁ seen₂)

include same

theorem obliges (o : Run.GateObligation) : Obliges c₁ o ↔ Obliges c₂ o := by
  rw [Obliges, Obliges, same.gates]

theorem finished (gate : Run.GateId) (outcome : Run.GateOutcome) :
    Run.Finished seen₁ gate outcome ↔ Run.Finished seen₂ gate outcome :=
  exists_congr fun _ => same.core _ rfl

theorem agentError : Run.AgentError c₁ seen₁ ↔ Run.AgentError c₂ seen₂ := by
  have started := same.core .agentStarted rfl
  have exited : ∀ outcome, RunEventKind.agentExited outcome ∈ seen₁ ↔ .agentExited outcome ∈ seen₂ :=
    fun outcome => same.core _ rfl
  simp only [Run.AgentError, Run.ProtectsAgent, same.policies₁, same.policies₂, same.agent,
    started, exited, List.not_mem_nil, false_and, false_implies, implies_true]

theorem errorEvidence : Run.ErrorEvidence c₁ seen₁ ↔ Run.ErrorEvidence c₂ seen₂ := by
  have started : ∀ gate, RunEventKind.gateStarted gate ∈ seen₁ ↔ .gateStarted gate ∈ seen₂ :=
    fun gate => same.core _ rfl
  simp only [Run.ErrorEvidence, same.agentError, same.obliges, same.finished, same.policies₁,
    same.policies₂, same.sandbox₁, same.sandbox₂, started, List.not_mem_nil, false_and]

theorem failEvidence : Run.FailEvidence c₁ seen₁ ↔ Run.FailEvidence c₂ seen₂ := by
  simp only [Run.FailEvidence, same.obliges, same.finished]

theorem blockedEvidence : Run.BlockedEvidence c₁ seen₁ ↔ Run.BlockedEvidence c₂ seen₂ := by
  have started : ∀ gate, RunEventKind.gateStarted gate ∈ seen₁ ↔ .gateStarted gate ∈ seen₂ :=
    fun gate => same.core _ rfl
  have agent := same.core .agentStarted rfl
  have met₁ : ¬ (c₁.candidateState ≠ none ∧
      ∀ receipt, RunEventKind.candidateStateCaptured receipt ∉ seen₁) := by
    intro unmet
    rcases same.captured₁ unmet.1 with ⟨receipt, there⟩
    exact unmet.2 receipt there
  have met₂ : ¬ (c₂.candidateState ≠ none ∧
      ∀ receipt, RunEventKind.candidateStateCaptured receipt ∉ seen₂) := by
    intro unmet
    rcases same.captured₂ unmet.1 with ⟨receipt, there⟩
    exact unmet.2 receipt there
  simp only [Run.BlockedEvidence, same.obliges, same.finished, same.policies₁, same.policies₂,
    same.sandbox₁, same.sandbox₂, same.agent, started, agent, met₁, met₂, List.not_mem_nil,
    false_and]

theorem verdict : verdictOf c₁ seen₁ = verdictOf c₂ seen₂ := by
  rw [verdictOf, verdictOf]
  by_cases failed : Run.ErrorEvidence c₂ seen₂
  · rw [if_pos (same.errorEvidence.mpr failed), if_pos failed]
  rw [if_neg (mt same.errorEvidence.mp failed), if_neg failed]
  by_cases refused : Run.FailEvidence c₂ seen₂
  · rw [if_pos (same.failEvidence.mpr refused), if_pos refused]
  rw [if_neg (mt same.failEvidence.mp refused), if_neg refused]
  by_cases blocked : Run.BlockedEvidence c₂ seen₂
  · rw [if_pos (same.blockedEvidence.mpr blocked), if_pos blocked]
  rw [if_neg (mt same.blockedEvidence.mp blocked), if_neg blocked]

end SameRun

end Congr

section Core

variable {sha256 : Sha256} {m : GateManifest} {c : RunContract}

def coreKinds (sha256 : Sha256) (outcome : AgentOutcome) (ran : List Outcome) :
    List RunEventKind :=
  [.agentStarted, .agentExited outcome] ++ ran.flatMap (gateKinds sha256)

theorem gateKinds_core (step : Outcome) :
    (gateKinds sha256 step).filter isCore = gateKinds sha256 step := by
  unfold gateKinds
  split
  · rfl
  · split <;> rfl

theorem gates_core (ran : List Outcome) : (ran.flatMap (gateKinds sha256)).filter isCore =
    ran.flatMap (gateKinds sha256) := by
  induction ran with
  | nil => rfl
  | cons step rest ih => rw [List.flatMap_cons, List.filter_append, gateKinds_core, ih]

theorem runKinds_core (sha256 : Sha256) (c : RunContract) {extras : Extras} (task diff : ArtifactRef)
    (outcome : AgentOutcome) (ran : List Outcome) (aside : extras.before.filter isCore = []) :
    (runKinds sha256 extras c task diff outcome ran).filter isCore =
      coreKinds sha256 outcome ran := by
  have session : (extras.session.toList.map RunEventKind.providerSessionCaptured).filter isCore =
      [] := by
    cases extras.session <;> rfl
  have captured : (extras.captured.toList.map RunEventKind.candidateStateCaptured).filter isCore =
      [] := by
    cases extras.captured <;> rfl
  simp [runKinds, afterDispatch, coreKinds, List.filter_cons, aside, session, captured, gates_core,
    isCore]

noncomputable def coreVerdict (sha256 : Sha256) (c : RunContract) (outcome : AgentOutcome)
    (ran : List Outcome) : Run.Verdict :=
  verdictOf { c with candidateState := none } {kind | kind ∈ coreKinds sha256 outcome ran}

theorem sealed_of_kinds {extras : Extras} {task diff : ArtifactRef} {outcome : AgentOutcome}
    {ran : List Outcome} {events : List RunEvent} {s : RunState} (held : Contracted m c)
    (aside : extras.before.filter isCore = [])
    (captured : c.candidateState ≠ none → extras.captured ≠ none)
    (reduced : Run.reduceAll sha256 events = .ok s) (sealed : s.phase = .sealed)
    (listed : kinds events = runKinds sha256 extras c task diff outcome ran) :
    s.verdict = some (coreVerdict sha256 c outcome ran) := by
  rcases Run.sealed_verdict reduced sealed with ⟨contract, under, decided, _⟩
  have bound : Run.RunsUnder events c := Run.runsUnder_of_kinds listed
  have same : contract = c := Option.some.inj
    ((Run.contract_of_runsUnder reduced under).symm.trans (Run.contract_of_runsUnder reduced bound))
  subst same
  have seen : ∀ kind, kind ∈ evidence events ↔
      kind ∈ runKinds sha256 extras contract task diff outcome ran := by
    intro kind
    rw [← listed]
    exact Run.mem_kinds.symm
  rw [decided, coreVerdict]
  congr 1
  apply SameRun.verdict
  refine ⟨rfl, rfl, held.policies, held.policies, held.sandbox, held.sandbox, ?_, ?_, nofun⟩
  · intro kind core
    rw [seen kind, Set.mem_ofPred_eq, ← runKinds_core sha256 contract task
      diff outcome ran aside, List.mem_filter]
    exact (and_iff_left core).symm
  · intro obliged
    rcases Option.ne_none_iff_exists'.mp (captured obliged) with ⟨receipt, there⟩
    refine ⟨receipt, (seen _).mpr ?_⟩
    simp [runKinds, afterDispatch, there]

/-- A stream that the reducer accepts, with the core of a run or the beginning of it, and with all of
it and the verdict where it is sealed. -/
structure Minting (sha256 : Sha256) (core : List RunEventKind) (verdict : Run.Verdict)
    (events : List RunEvent) : Prop where
  accepted : ∃ s, Run.reduceAll sha256 events = .ok s
  part : (kinds events).filter isCore <+: core
  closed : .runSealed ∈ kinds events → (kinds events).filter isCore = core ∧
    ∃ s, Run.reduceAll sha256 events = .ok s ∧ s.phase = .sealed ∧ s.verdict = some verdict

theorem minting_of_part {rid : RunId} {extras : Extras} {task diff : ArtifactRef}
    {outcome : AgentOutcome} {ran : List Outcome} {part : List RunEventKind} {chain : EventChain}
    (held : Contracted m c) (prepares : Prepares rid c task extras.before) (fit : extras.Fit)
    (diffFits : diff.Fits .diff) (steps : ran.map Prod.fst = m.gate)
    (aside : extras.before.filter isCore = [])
    (captured : c.candidateState ≠ none → extras.captured ≠ none)
    (mints : (EventChain.new rid).Mints sha256 part chain)
    (listed : part <+: runKinds sha256 extras c task diff outcome ran) :
    Minting sha256 (coreKinds sha256 outcome ran) (coreVerdict sha256 c outcome ran) chain.out := by
  rcases runKinds_run sha256 outcome held prepares fit diffFits steps with
    ⟨u, whole, _⟩
  rcases listed with ⟨rest, same⟩
  rw [← same] at whole
  rcases whole.split with ⟨t, run, after⟩
  rcases mints.accepted run with ⟨s, reduced, agrees, carried⟩
  have core := runKinds_core sha256 c task diff outcome ran aside
  constructor
  · exact ⟨s, reduced⟩
  · rw [carried, ← core, ← same, List.filter_append]
    exact List.prefix_append _ _
  · intro closed
    rw [carried] at closed
    have sealed := run.sealed_of_mem closed
    have complete : part = runKinds sha256 extras c task diff outcome ran := by
      rw [← same, (after.sealed_end sealed).1, List.append_nil]
    have sealed' : s.phase = .sealed := by
      rw [agrees]
      exact sealed
    refine ⟨by rw [carried, complete, core], s, reduced, sealed', ?_⟩
    exact sealed_of_kinds held aside captured reduced sealed' (carried.trans complete)

end Core

end O7Formal.Producers
