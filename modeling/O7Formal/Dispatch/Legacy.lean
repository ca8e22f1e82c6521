import O7Formal.Dispatch.Producers

/-! The reduction of the step verdicts that is printed beside the canonical verdict. The two were
written apart; they differ where an optional step did not start. -/

namespace O7Formal.Dispatch

open Fallible
open O7Formal.Producers (Contracted GateManifest Outcome StepVerdict agentOutcome applicability
  coreKinds coreVerdict gateKinds gateOutcome obligation_ok_iff recordRun runOneStep skipped waiver)
open O7Formal.Run (GateId RunContract RunEventKind Obliges)

/-- `Verdict::reduce` -/
def reduce (steps : List StepVerdict) : Producers.Verdict :=
  if ∃ s ∈ steps, s.verdict = .error then .error
  else if ∃ s ∈ steps, s.required = true ∧ s.verdict = .fail then .fail
  else if ∃ s ∈ steps, s.required = true ∧ s.waived = none ∧
      (s.verdict = .blocked ∨ s.verdict = .notApplicable) then .blocked
  else .pass

def fromCanonical : Run.Verdict → Producers.Verdict
  | .pass => .pass
  | .fail => .fail
  | .blocked => .blocked
  | .error => .error

def stepVerdicts (ran : List Outcome) : List StepVerdict :=
  ran.map fun step => runOneStep step.1 step.2

def Unstarted (required : Bool) (ran : List Outcome) : Prop :=
  ∃ step ∈ ran, step.1.required = required ∧ skipped step.1 = false ∧
    ∃ why, step.2 = .notSpawned why

def Failed (ran : List Outcome) : Prop :=
  ∃ step ∈ ran, step.1.required = true ∧ skipped step.1 = false ∧ step.2.verdict = .fail

def Undischarged (ran : List Outcome) : Prop :=
  ∃ step ∈ ran, step.1.required = true ∧ skipped step.1 = true ∧ waiver step.1 = none

section Steps

variable {ran : List Outcome}

theorem unstarted_iff {required : Bool} : Unstarted required ran ↔ ∃ step ∈ ran,
    step.1.required = required ∧ skipped step.1 = false ∧ step.2.verdict = .error := by
  have each : ∀ r : Producers.Ran, (∃ why, r = .notSpawned why) ↔ r.verdict = .error := by
    intro r
    cases r with
    | exited code output => by_cases zero : code = some 0 <;> simp [Producers.Ran.verdict, zero]
    | notSpawned why => simp [Producers.Ran.verdict]
  simp only [Unstarted, each]

theorem exists_stepVerdict {p : StepVerdict → Prop} :
    (∃ s ∈ stepVerdicts ran, p s) ↔ ∃ step ∈ ran, p (runOneStep step.1 step.2) := by
  simp only [stepVerdicts, List.mem_map, exists_exists_and_eq_and]

theorem runOneStep_cases (step : Outcome) :
    (skipped step.1 = false ∧ (runOneStep step.1 step.2).verdict = step.2.verdict ∧
        (runOneStep step.1 step.2).waived = none) ∨
      (skipped step.1 = true ∧ waiver step.1 = none ∧
        (runOneStep step.1 step.2).verdict = .blocked ∧
        (runOneStep step.1 step.2).waived = none) ∨
      (skipped step.1 = true ∧ waiver step.1 ≠ none ∧
        (runOneStep step.1 step.2).verdict = .notApplicable ∧
        (runOneStep step.1 step.2).waived ≠ none) := by
  cases skips : skipped step.1 with
  | false =>
      rw [Producers.runOneStep_ran skips]
      exact .inl ⟨rfl, rfl, rfl⟩
  | true =>
      rw [runOneStep, if_pos skips]
      cases declared : waiver step.1 with
      | none => exact .inr (.inl ⟨rfl, rfl, rfl, rfl⟩)
      | some reason => exact .inr (.inr ⟨rfl, Option.some_ne_none _, rfl, Option.some_ne_none _⟩)

theorem runOneStep_required (step : Outcome) :
    (runOneStep step.1 step.2).required = step.1.required := by
  rw [runOneStep]
  split
  · split <;> rfl
  · rfl

theorem stepVerdicts_error : (∃ s ∈ stepVerdicts ran, s.verdict = .error) ↔
    Unstarted true ran ∨ Unstarted false ran := by
  rw [exists_stepVerdict, unstarted_iff, unstarted_iff]
  constructor
  · rintro ⟨step, member, failed⟩
    rcases runOneStep_cases step with ⟨runs, same, _⟩ | ⟨_, _, blocked, _⟩ | ⟨_, _, waived, _⟩
    · cases required : step.1.required with
      | true => exact .inl ⟨step, member, required, runs, same ▸ failed⟩
      | false => exact .inr ⟨step, member, required, runs, same ▸ failed⟩
    · rw [blocked] at failed
      cases failed
    · rw [waived] at failed
      cases failed
  · rintro (⟨step, member, _, runs, failed⟩ | ⟨step, member, _, runs, failed⟩)
    · exact ⟨step, member, by rw [Producers.runOneStep_ran runs]; exact failed⟩
    · exact ⟨step, member, by rw [Producers.runOneStep_ran runs]; exact failed⟩

theorem stepVerdicts_fail :
    (∃ s ∈ stepVerdicts ran, s.required = true ∧ s.verdict = .fail) ↔ Failed ran := by
  rw [exists_stepVerdict]
  constructor
  · rintro ⟨step, member, required, failed⟩
    rw [runOneStep_required] at required
    rcases runOneStep_cases step with ⟨runs, same, _⟩ | ⟨_, _, blocked, _⟩ | ⟨_, _, waived, _⟩
    · exact ⟨step, member, required, runs, same ▸ failed⟩
    · rw [blocked] at failed
      cases failed
    · rw [waived] at failed
      cases failed
  · rintro ⟨step, member, required, runs, failed⟩
    refine ⟨step, member, (runOneStep_required step).trans required, ?_⟩
    rw [Producers.runOneStep_ran runs]
    exact failed

theorem stepVerdicts_blocked : (∃ s ∈ stepVerdicts ran, s.required = true ∧ s.waived = none ∧
    (s.verdict = .blocked ∨ s.verdict = .notApplicable)) ↔ Undischarged ran := by
  rw [exists_stepVerdict]
  constructor
  · rintro ⟨step, member, required, unwaived, stopped⟩
    rw [runOneStep_required] at required
    rcases runOneStep_cases step with ⟨runs, same, _⟩ | ⟨skips, none, _⟩ | ⟨_, _, _, waived⟩
    · rw [same] at stopped
      exact absurd stopped (Producers.Ran.executed step.2)
    · exact ⟨step, member, required, skips, none⟩
    · exact absurd unwaived waived
  · rintro ⟨step, member, required, skips, undeclared⟩
    refine ⟨step, member, (runOneStep_required step).trans required, ?_⟩
    rcases runOneStep_cases step with ⟨runs, _⟩ | ⟨_, _, blocked, unwaived⟩ | ⟨_, waived, _⟩
    · rw [skips] at runs
      cases runs
    · exact ⟨unwaived, .inl blocked⟩
    · exact absurd undeclared waived

end Steps

section Reducer

variable {sha256 : Run.Sha256} {m : GateManifest} {c : RunContract} {ran : List Outcome}
  {exitCode : Option Int32} {gate : GateId}

def coreSeen (sha256 : Run.Sha256) (exitCode : Option Int32) (ran : List Outcome) :
    Set RunEventKind :=
  {kind | kind ∈ coreKinds sha256 (agentOutcome exitCode) ran}

theorem agentOutcome_clean : agentOutcome exitCode = .exitedNormally 0 ↔ exitCode = some 0 := by
  cases exitCode with
  | none => simp [agentOutcome]
  | some code => simp [agentOutcome]

theorem gateOutcome_injective : Function.Injective gateOutcome := by
  intro v w same
  cases v <;> cases w <;> first | rfl | cases same

theorem core_started : .gateStarted gate ∈ coreSeen sha256 exitCode ran ↔
    ∃ step ∈ ran, skipped step.1 = false ∧ Run.Id.new .gate step.1.name = .ok gate := by
  simp only [coreSeen, Set.mem_ofPred_eq, coreKinds, List.mem_append, List.mem_cons,
    List.not_mem_nil, or_false, reduceCtorEq, false_or, List.mem_flatMap]
  apply exists_congr
  intro step
  apply and_congr_right
  intro _
  cases skips : skipped step.1 with
  | true => simp [Producers.gateKinds_of_skipped skips]
  | false =>
      cases minted : Run.Id.new .gate step.1.name with
      | error e => simp [gateKinds, skips, minted]
      | ok id => simp [gateKinds, skips, minted, eq_comm]

theorem core_finished {outcome : Run.GateOutcome} :
    Run.Finished (coreSeen sha256 exitCode ran) gate outcome ↔
      ∃ step ∈ ran, skipped step.1 = false ∧ Run.Id.new .gate step.1.name = .ok gate ∧
        gateOutcome step.2.verdict = outcome := by
  simp only [Run.Finished, coreSeen, Set.mem_ofPred_eq, coreKinds, List.mem_append, List.mem_cons,
    List.not_mem_nil, or_false, reduceCtorEq, false_or, List.mem_flatMap]
  constructor
  · rintro ⟨log, step, member, listed⟩
    refine ⟨step, member, ?_⟩
    cases skips : skipped step.1 with
    | true =>
        rw [Producers.gateKinds_of_skipped skips] at listed
        cases listed
    | false =>
        cases minted : Run.Id.new .gate step.1.name with
        | error e => simp [gateKinds, skips, minted] at listed
        | ok id =>
            rw [Producers.gateKinds_of_runs skips minted] at listed
            simp only [List.mem_cons, reduceCtorEq, false_or, List.not_mem_nil, or_false,
              RunEventKind.gateFinished.injEq] at listed
            rcases listed with ⟨rfl, rfl, _⟩
            exact ⟨rfl, rfl, rfl⟩
  · rintro ⟨step, member, runs, minted, rfl⟩
    refine ⟨some (Producers.artifact sha256 .gateLog (Producers.logLocator step.1)
      step.2.combined), step, member, ?_⟩
    rw [Producers.gateKinds_of_runs runs minted]
    exact List.mem_cons_of_mem _ List.mem_cons_self

section Contract

variable (held : Contracted m c) (steps : ran.map Prod.fst = m.gate)

include held steps

theorem step_of_gate {step other : Outcome} (member : step ∈ ran) (among : other ∈ ran)
    (minted : Run.Id.new .gate step.1.name = .ok gate)
    (same : Run.Id.new .gate other.1.name = .ok gate) : other = step := by
  have names : (ran.map fun step => step.1.name).Nodup := by
    have distinct := held.valid.names
    rw [← steps, List.map_map] at distinct
    exact distinct
  apply List.inj_on_of_nodup_map names among member
  rw [← Producers.id_of_new minted, ← Producers.id_of_new same]

theorem finished_iff {step : Outcome} {outcome : Run.GateOutcome} (member : step ∈ ran)
    (minted : Run.Id.new .gate step.1.name = .ok gate) :
    Run.Finished (coreSeen sha256 exitCode ran) gate outcome ↔
      skipped step.1 = false ∧ gateOutcome step.2.verdict = outcome := by
  rw [core_finished]
  constructor
  · rintro ⟨other, among, runs, same, here⟩
    cases step_of_gate held steps member among minted same
    exact ⟨runs, here⟩
  · rintro ⟨runs, here⟩
    exact ⟨step, member, runs, minted, here⟩

theorem started_iff {step : Outcome} (member : step ∈ ran)
    (minted : Run.Id.new .gate step.1.name = .ok gate) :
    .gateStarted gate ∈ coreSeen sha256 exitCode ran ↔
      skipped step.1 = false := by
  rw [core_started]
  constructor
  · rintro ⟨other, among, runs, same⟩
    cases step_of_gate held steps member among minted same
    exact runs
  · intro runs
    exact ⟨step, member, runs, minted⟩

theorem exists_obliged {p : GateId → Prop} {q : Outcome → Prop}
    (each : ∀ step ∈ ran, ∀ gate, Run.Id.new .gate step.1.name = .ok gate →
      (applicability step.1 = .applicable ∧ p gate ↔ q step)) :
    (∃ o, Obliges { c with candidateState := none } o ∧ p o.gate) ↔
      ∃ step ∈ ran, step.1.required = true ∧ q step := by
  constructor
  · rintro ⟨o, ⟨listed, required, applicable⟩, holds⟩
    rcases mapM_ok_of_mem held.gates listed with ⟨step, member, made⟩
    rcases obligation_ok_iff.mp made with ⟨gate, minted, rfl⟩
    rw [← steps] at member
    rcases List.mem_map.mp member with ⟨outcome, among, rfl⟩
    refine ⟨outcome, among, ?_, (each outcome among gate minted).mp ⟨applicable, holds⟩⟩
    by_contra optional
    rw [if_neg optional] at required
    cases required
  · rintro ⟨step, member, required, holds⟩
    have listed : step.1 ∈ m.gate := by
      rw [← steps]
      exact List.mem_map_of_mem member
    rcases mapM_ok_mem held.gates listed with ⟨o, among, made⟩
    rcases obligation_ok_iff.mp made with ⟨gate, minted, rfl⟩
    rcases (each step member gate minted).mpr holds with ⟨applicable, here⟩
    exact ⟨_, ⟨among, if_pos required, applicable⟩, here⟩

end Contract

theorem applicable_of_runs {step : Producers.GateStep} (runs : skipped step = false) :
    applicability step = .applicable := by
  rw [applicability]
  split
  · rename_i env reason found _
    rw [skipped, found, decide_eq_false_iff_not, Option.some.injEq] at runs
    exact if_neg runs
  · rfl

theorem applicable_of_skips {step : Producers.GateStep} (skips : skipped step = true) :
    applicability step = .applicable ↔ waiver step = none := by
  rw [skipped, decide_eq_true_iff] at skips
  rw [applicability, skips]
  cases waiver step <;> simp

section Evidence

variable (held : Contracted m c) (steps : ran.map Prod.fst = m.gate)

include held steps

theorem failEvidence_iff : Run.FailEvidence { c with candidateState := none }
    (coreSeen sha256 exitCode ran) ↔ Failed ran := by
  apply exists_obliged held steps (p := fun gate =>
    Run.Finished (coreSeen sha256 exitCode ran) gate .fail)
    (q := fun step => skipped step.1 = false ∧ step.2.verdict = .fail)
  intro step member gate minted
  rw [finished_iff held steps member minted]
  constructor
  · rintro ⟨_, runs, failed⟩
    exact ⟨runs, gateOutcome_injective failed⟩
  · rintro ⟨runs, failed⟩
    exact ⟨applicable_of_runs runs, runs, congrArg gateOutcome failed⟩

theorem gateError_iff : (∃ o, Obliges { c with candidateState := none } o ∧
    ((.gateStarted o.gate ∈ coreSeen sha256 exitCode ran ∧
        ∀ outcome, ¬ Run.Finished (coreSeen sha256 exitCode ran) o.gate outcome) ∨
      Run.Finished (coreSeen sha256 exitCode ran) o.gate .error)) ↔ Unstarted true ran := by
  rw [unstarted_iff]
  apply exists_obliged held steps (p := fun gate =>
    (.gateStarted gate ∈ coreSeen sha256 exitCode ran ∧
        ∀ outcome, ¬ Run.Finished (coreSeen sha256 exitCode ran) gate outcome) ∨
      Run.Finished (coreSeen sha256 exitCode ran) gate .error)
    (q := fun step => skipped step.1 = false ∧ step.2.verdict = .error)
  intro step member gate minted
  simp only [finished_iff held steps member minted, started_iff held steps member minted]
  constructor
  · rintro ⟨_, ⟨runs, never⟩ | ⟨runs, failed⟩⟩
    · exact absurd ⟨runs, rfl⟩ (never (gateOutcome step.2.verdict))
    · exact ⟨runs, gateOutcome_injective failed⟩
  · rintro ⟨runs, failed⟩
    exact ⟨applicable_of_runs runs, .inr ⟨runs, congrArg gateOutcome failed⟩⟩

theorem gateBlocked_iff : (∃ o, Obliges { c with candidateState := none } o ∧
    (.gateStarted o.gate ∉ coreSeen sha256 exitCode ran ∨
      Run.Finished (coreSeen sha256 exitCode ran) o.gate .blocked ∨
      Run.Finished (coreSeen sha256 exitCode ran) o.gate .notApplicable)) ↔ Undischarged ran := by
  apply exists_obliged held steps (p := fun gate =>
    .gateStarted gate ∉ coreSeen sha256 exitCode ran ∨
      Run.Finished (coreSeen sha256 exitCode ran) gate .blocked ∨
      Run.Finished (coreSeen sha256 exitCode ran) gate .notApplicable)
    (q := fun step => skipped step.1 = true ∧ waiver step.1 = none)
  intro step member gate minted
  simp only [finished_iff held steps member minted, started_iff held steps member minted,
    Bool.not_eq_false]
  constructor
  · rintro ⟨applicable, skips | ⟨_, blocked⟩ | ⟨_, notApplicable⟩⟩
    · exact ⟨skips, (applicable_of_skips skips).mp applicable⟩
    · exact absurd (.inl (gateOutcome_injective blocked)) (Producers.Ran.executed step.2)
    · exact absurd (.inr (gateOutcome_injective notApplicable)) (Producers.Ran.executed step.2)
  · rintro ⟨skips, undeclared⟩
    exact ⟨(applicable_of_skips skips).mpr undeclared, .inl skips⟩

omit held steps in
theorem core_exited {outcome : Run.AgentOutcome} :
    .agentExited outcome ∈ coreSeen sha256 exitCode ran ↔ outcome = agentOutcome exitCode := by
  have apart : ∀ step : Outcome, .agentExited outcome ∉ gateKinds sha256 step := by
    intro step
    rw [gateKinds]
    split
    · exact List.not_mem_nil
    · split <;> simp
  simp [coreSeen, coreKinds, apart]

omit steps in
theorem agentError_iff : Run.AgentError { c with candidateState := none }
    (coreSeen sha256 exitCode ran) ↔ exitCode ≠ some 0 := by
  have started : .agentStarted ∈ coreSeen sha256 exitCode ran := List.mem_cons_self
  rw [Run.AgentError, Ne, ← agentOutcome_clean]
  constructor
  · rintro ⟨_, ⟨outcome, exited, unclean⟩ | ⟨_, never⟩ | ⟨never, _⟩⟩
    · rwa [← core_exited.mp exited]
    · exact absurd (core_exited.mpr rfl) (never (agentOutcome exitCode))
    · exact absurd started never
  · intro unclean
    exact ⟨held.agent, .inl ⟨agentOutcome exitCode, core_exited.mpr rfl, unclean⟩⟩

theorem errorEvidence_iff : Run.ErrorEvidence { c with candidateState := none }
    (coreSeen sha256 exitCode ran) ↔ exitCode ≠ some 0 ∨ Unstarted true ran := by
  rw [Run.ErrorEvidence, gateError_iff held steps, agentError_iff held, held.policies,
    held.sandbox]
  simp only [List.not_mem_nil, false_and, exists_false, or_false]

theorem blockedEvidence_iff : Run.BlockedEvidence { c with candidateState := none }
    (coreSeen sha256 exitCode ran) ↔ Undischarged ran := by
  rw [Run.BlockedEvidence, gateBlocked_iff held steps, held.policies, held.sandbox]
  have started : .agentStarted ∈ coreSeen sha256 exitCode ran := List.mem_cons_self
  simp only [List.not_mem_nil, false_and, exists_false, or_false, ne_eq, not_true_eq_false, started,
    and_false]

variable (sha256 exitCode)

/-- Under a clean agent the two differ where an optional step, and no required one, could not be
started; under any other the canonical verdict is an error. -/
theorem coreVerdict_reduces : fromCanonical (coreVerdict sha256 c (agentOutcome exitCode) ran) =
    (if exitCode = some 0 then reduce (stepVerdicts ran) else .error) ↔
      ¬ (exitCode = some 0 ∧ Unstarted false ran ∧ ¬ Unstarted true ran) := by
  have decided : coreVerdict sha256 c (agentOutcome exitCode) ran =
      Run.verdictOf { c with candidateState := none } (coreSeen sha256 exitCode ran) := rfl
  rw [decided]
  have errs : Run.ErrorEvidence { c with candidateState := none } (coreSeen sha256 exitCode ran) ↔
      exitCode ≠ some 0 ∨ Unstarted true ran := errorEvidence_iff held steps
  have fails : Run.FailEvidence { c with candidateState := none }
      (coreSeen sha256 exitCode ran) ↔ Failed ran := failEvidence_iff held steps
  have blocks : Run.BlockedEvidence { c with candidateState := none }
      (coreSeen sha256 exitCode ran) ↔ Undischarged ran := blockedEvidence_iff held steps
  by_cases clean : exitCode = some 0
  · rw [if_pos clean]
    by_cases required : Unstarted true ran
    · rw [Run.verdictOf, if_pos (errs.mpr (.inr required)), reduce,
        if_pos (stepVerdicts_error.mpr (.inl required))]
      simp [fromCanonical, required]
    · have noError : ¬ Run.ErrorEvidence { c with candidateState := none }
          (coreSeen sha256 exitCode ran) := by
        rw [errs]
        rintro (unclean | unstarted)
        · exact unclean clean
        · exact required unstarted
      rw [Run.verdictOf, if_neg noError]
      by_cases optional : Unstarted false ran
      · rw [reduce, if_pos (stepVerdicts_error.mpr (.inr optional))]
        split_ifs <;> simp [fromCanonical, clean, required, optional]
      · have started : ¬ ∃ s ∈ stepVerdicts ran, s.verdict = .error := by
          simp [stepVerdicts_error, required, optional]
        rw [reduce, if_neg started, iff_true_right (by simp [optional])]
        by_cases failed : Failed ran
        · rw [if_pos (fails.mpr failed), if_pos (stepVerdicts_fail.mpr failed)]
          rfl
        · rw [if_neg (mt fails.mp failed), if_neg (mt stepVerdicts_fail.mp failed)]
          by_cases stopped : Undischarged ran
          · rw [if_pos (blocks.mpr stopped), if_pos (stepVerdicts_blocked.mpr stopped)]
            rfl
          · rw [if_neg (mt blocks.mp stopped), if_neg (mt stepVerdicts_blocked.mp stopped)]
            rfl
  · rw [if_neg clean, Run.verdictOf, if_pos (errs.mpr (.inl clean))]
    simp [fromCanonical, clean]

end Evidence

end Reducer

/-- The canonical verdict is that of the steps where the agent exited with 0, and an error
otherwise; so that what passes has passed step by step. -/
structure LegacyAgrees (exitCode : Option Int32) (ran : List Outcome)
    (canonical : Except Fault Run.Verdict) : Prop where
  same : canonical.map fromCanonical =
    .ok (if exitCode = some 0 then reduce (stepVerdicts ran) else .error)
  passes : canonical = .ok .pass → reduce (stepVerdicts ran) = .pass

/-- The reductions agree exactly where no optional step is alone in not having started. -/
theorem legacy_agrees_iff (env : Setting) {m : GateManifest} {contract : RunContract}
    (built : Producers.buildContract m = .ok contract) {ran : List Outcome}
    (steps : ran.map Prod.fst = m.gate) {clock : UInt64 → Option Int64} {runId : String}
    {task diff : List UInt8} {exitCode : Option Int32} {stream : List Run.RunEvent}
    (recorded : recordRun env.sha256 clock runId contract (artifact env .task "task.md" task)
      (artifact env .diff "diff.patch" diff) exitCode ran = .ok stream) :
    LegacyAgrees exitCode ran (canonicalVerdict env stream) ↔
      ¬ (exitCode = some 0 ∧ Unstarted false ran ∧ ¬ Unstarted true ran) := by
  rcases Producers.contracted_of_build built with ⟨held, undeclared⟩
  rcases batch_sealed held undeclared steps recorded with ⟨minting, closed⟩
  rw [canonicalVerdict_of_closed minting closed,
    ← coreVerdict_reduces env.sha256 exitCode held steps]
  constructor
  · intro agrees
    exact Except.ok.inj agrees.same
  · intro same
    refine ⟨congrArg Except.ok same, ?_⟩
    intro passed
    rw [Except.ok.inj passed] at same
    split_ifs at same with clean
    · exact same.symm
    · cases same

def lintManifest : GateManifest := ⟨1, [⟨"lint", "cargo clippy", false, none, none⟩]⟩

def lintContract : RunContract where
  gateObligations := [⟨⟨"lint", by decide⟩, .optional, .applicable⟩]
  policyObligations := []
  sandboxRequirements := []
  agent := .required
  runnerEnvironment := Producers.runnerEnvironment
  candidateState := none

def lintRan (ran : Producers.Ran) : List Outcome := lintManifest.gate.map fun step => (step, ran)

noncomputable def lintRecorded (ran : Producers.Ran) :
    Except Producers.BuildError (List Run.RunEvent) :=
  recordRun Sample.setting.sha256 (fun _ => some 0) "run-1" lintContract
    (artifact Sample.setting .task "task.md" []) (artifact Sample.setting .diff "diff.patch" [])
    (some 0) (lintRan ran)

theorem lint_contract : Producers.buildContract lintManifest = .ok lintContract := by
  decide +kernel

/-- Where the optional step could not be started the run passes, and its steps are in error. -/
theorem lint_differs : ∃ stream, lintRecorded (.notSpawned "ENOENT") = .ok stream ∧
    reduce (stepVerdicts (lintRan (.notSpawned "ENOENT"))) = .error ∧
    ¬ LegacyAgrees (some 0) (lintRan (.notSpawned "ENOENT"))
      (canonicalVerdict Sample.setting stream) := by
  rcases exists_of_isOk (by decide +kernel : (lintRecorded (.notSpawned "ENOENT")).isOk = true) with
    ⟨stream, recorded⟩
  refine ⟨stream, recorded, by decide, ?_⟩
  intro agrees
  rcases Producers.contracted_of_build lint_contract with ⟨held, undeclared⟩
  rcases batch_sealed held undeclared rfl recorded with ⟨minting, closed⟩
  have same := agrees.same
  rw [canonicalVerdict_of_closed minting closed] at same
  have reduces : fromCanonical (coreVerdict Sample.setting.sha256 lintContract
      (agentOutcome (some 0)) (lintRan (.notSpawned "ENOENT"))) = _ ↔ _ :=
    coreVerdict_reduces Sample.setting.sha256 (some 0) held rfl
  apply reduces.mp (Except.ok.inj same)
  simp [Unstarted, lintRan, lintManifest, skipped]

theorem legacy_agrees_iff_lint : ∃ stream, lintRecorded (.exited (some 1) []) = .ok stream ∧
    LegacyAgrees (some 0) (lintRan (.exited (some 1) []))
      (canonicalVerdict Sample.setting stream) := by
  rcases exists_of_isOk (by decide +kernel : (lintRecorded (.exited (some 1) [])).isOk = true) with
    ⟨stream, recorded⟩
  refine ⟨stream, recorded, (legacy_agrees_iff Sample.setting lint_contract rfl recorded).mpr ?_⟩
  simp [Unstarted, lintRan, lintManifest]

end O7Formal.Dispatch
