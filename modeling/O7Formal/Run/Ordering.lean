import O7Formal.Run.Verdict

/-! Which events must come before which. A start is guarded by the policies that protect
its subject and, for a command continuation, by the materialization of the parent's
candidate state. -/

namespace O7Formal.Run

open Fallible

variable {sha256 : Sha256} {events : List RunEvent} {s : RunState} {contract : RunContract}

def RunEventKind.starts : RunEventKind → Option PolicyProtectedSubject
  | .agentStarted => some .agent
  | .gateStarted gate => some (.gate gate)
  | _ => none

theorem starts_guarded {b t : RunState} {kind : RunEventKind} {subject : PolicyProtectedSubject}
    (applied : Applied contract b kind t) (starts : kind.starts = some subject) :
    StartAllowed b contract subject := by
  cases applied with
  | agentStarted declared fresh materialized allowed =>
      cases starts
      exact allowed
  | gateStarted declared fresh allowed =>
      cases starts
      exact allowed
  | _ => cases starts

theorem policy_checked_once (run : reduceAll sha256 events = .ok s) {a b : RunEvent}
    (memberA : a ∈ events) (memberB : b ∈ events) {policyA policyB : ArtifactRef}
    {outcomeA outcomeB : PolicyOutcome} (kindA : a.kind = .policyChecked policyA outcomeA)
    (kindB : b.kind = .policyChecked policyB outcomeB) (same : policyA.digest = policyB.digest) :
    outcomeA = outcomeB := by
  have recorded := records_policyResults.of_run run
  have heldA : (⟨policyA, outcomeA⟩ : PolicyResult) ∈ s.policyResults := by
    rw [recorded, mem_carried]
    exact ⟨a, memberA, asPolicyResult_eq_some.mpr kindA⟩
  have heldB : (⟨policyB, outcomeB⟩ : PolicyResult) ∈ s.policyResults := by
    rw [recorded, mem_carried]
    exact ⟨b, memberB, asPolicyResult_eq_some.mpr kindB⟩
  have equal := List.inj_on_of_nodup_map (policyResults_distinct run) heldA heldB same
  exact congrArg PolicyResult.outcome equal

/-- A protected subject starts only after each required policy protecting it was allowed,
and no check of such a policy anywhere in the stream says otherwise. -/
theorem policy_allowed_before_start (run : reduceAll sha256 events = .ok s)
    (under : RunsUnder events contract) {before after : List RunEvent} {e : RunEvent}
    (split : events = before ++ e :: after) {subject : PolicyProtectedSubject}
    (starts : e.kind.starts = some subject) {p : PolicyObligation}
    (declared : p ∈ contract.policyObligations) (required : p.requirement = .required)
    (protects : subject ∈ p.protects) :
    (∃ x ∈ before, ∃ policy, policy.digest = p.policy.digest ∧
      x.kind = .policyChecked policy .allowed) ∧
    ∀ x ∈ events, ∀ policy outcome, x.kind = .policyChecked policy outcome →
      policy.digest = p.policy.digest → outcome ≠ .denied ∧ outcome ≠ .error := by
  subst split
  have later : e.kind.isRunStarted = false := by
    cases kind : e.kind <;> simp_all [RunEventKind.starts, RunEventKind.isRunStarted]
  rcases transition_at run under later with ⟨b, t, ran, applied⟩
  rcases starts_guarded applied starts p declared required protects with ⟨r, held, digest, allowed⟩
  rw [records_policyResults.of_run ran, mem_carried] at held
  rcases held with ⟨x, earlier, carries⟩
  have kind := asPolicyResult_eq_some.mp carries
  rw [allowed] at kind
  refine ⟨⟨x, earlier, r.policy, digest, kind⟩, ?_⟩
  intro y member policy outcome checked same
  have agrees := policy_checked_once run (List.mem_append_left _ earlier) member kind checked
    (digest.trans same.symm)
  rw [← agrees]
  decide

theorem policy_allowed_before_start_sample : ∃ s, reduceAll standardSha256 Sample.events = .ok s ∧
    ∃ before e after, Sample.events = before ++ e :: after ∧ e.kind = .agentStarted ∧
      ∃ x ∈ before, ∃ policy, policy.digest = Sample.policy.digest ∧
        x.kind = .policyChecked policy .allowed := by
  rcases Sample.accepted with ⟨s, run, _, _, _, listed⟩
  have cut : kinds Sample.events =
      [Sample.start, .policyChecked Sample.policy .allowed] ++ .agentStarted ::
        (Sample.evidence.drop 2 ++ [.runSealed]) := listed
  rcases split_of_kinds cut with ⟨before, e, after, split, _, kind⟩
  have starts : e.kind.starts = some .agent := by rw [kind]; rfl
  have allowed := policy_allowed_before_start run (runsUnder_of_kinds listed) split starts
    (List.mem_singleton.mpr rfl) rfl List.mem_cons_self
  exact ⟨s, run, before, e, after, split, kind, allowed.1⟩

def IsBinding (e : RunEvent) : Prop := ∃ binding, e.kind = .commandBindingCaptured binding

def IsMaterialization (e : RunEvent) : Prop :=
  ∃ sourceRunId sourceReceipt sourcePatch materializedTreeOid, e.kind =
    .candidateStateMaterialized sourceRunId sourceReceipt sourcePatch materializedTreeOid

def MaterializedBeforeStart (events : List RunEvent) : Prop :=
  ∀ before e after, events = before ++ e :: after → e.kind = .agentStarted →
    ∃ x ∈ before, IsMaterialization x

def BindsAfterStart (events : List RunEvent) : Prop :=
  ∃ before e after, events = before ++ e :: after ∧ IsBinding e ∧
    ∃ x ∈ before, x.kind = .agentStarted

theorem commandBinding_iff (run : reduceAll sha256 events = .ok s) :
    s.commandBinding ≠ none ↔ ∃ e ∈ events, IsBinding e := by
  rw [records_commandBinding.filled_iff run]
  simp only [asCommandBinding_eq_some, IsBinding]

theorem asMaterialization_filled_iff {e : RunEvent} :
    (∃ m, e.kind.asMaterialization = some m) ↔ IsMaterialization e := by
  simp only [asMaterialization_eq_some, IsMaterialization]
  constructor
  · intro carries
    rcases carries with ⟨m, kind⟩
    exact ⟨m.sourceRunId, m.sourceReceipt, m.sourcePatch, m.materializedTreeOid, kind⟩
  · intro materializes
    rcases materializes with ⟨runId, receipt, patch, tree, kind⟩
    exact ⟨⟨runId, receipt, patch, tree⟩, kind⟩

theorem materialized_iff (run : reduceAll sha256 events = .ok s) :
    s.candidateMaterialized ≠ none ↔ ∃ e ∈ events, IsMaterialization e := by
  rw [records_materialization.filled_iff run]
  simp only [asMaterialization_filled_iff]

theorem binding_before_materialization (run : reduceAll sha256 events = .ok s)
    (under : RunsUnder events contract) {before after : List RunEvent} {e : RunEvent}
    (split : events = before ++ e :: after) (materializes : IsMaterialization e) :
    ∃ x ∈ before, IsBinding x := by
  subst split
  rcases materializes with ⟨runId, receipt, patch, tree, kind⟩
  rcases transition_at run under (by rw [kind]; rfl) with ⟨b, t, ran, applied⟩
  rw [kind] at applied
  cases applied with
  | candidateStateMaterialized fitsReceipt fitsPatch empty bound undispatched =>
      exact (commandBinding_iff ran).mp bound

theorem no_binding_before_binding (run : reduceAll sha256 events = .ok s)
    (under : RunsUnder events contract) {before after : List RunEvent} {e : RunEvent}
    (split : events = before ++ e :: after) (binds : IsBinding e) :
    ¬ ∃ x ∈ before, IsBinding x := by
  subst split
  rcases binds with ⟨binding, kind⟩
  rcases transition_at run under (by rw [kind]; rfl) with ⟨b, t, ran, applied⟩
  rw [kind] at applied
  cases applied with
  | commandBindingCaptured fits empty =>
      intro bound
      exact (commandBinding_iff ran).mpr bound empty

theorem materialized_of_bound (run : reduceAll sha256 events = .ok s)
    (under : RunsUnder events contract) (declared : contract.candidateState ≠ none)
    {before after : List RunEvent} {e : RunEvent} (split : events = before ++ e :: after)
    (starts : e.kind = .agentStarted) (bound : ∃ x ∈ before, IsBinding x) :
    ∃ x ∈ before, IsMaterialization x := by
  subst split
  rcases transition_at run under (by rw [starts]; rfl) with ⟨b, t, ran, applied⟩
  rw [starts] at applied
  cases applied with
  | agentStarted required fresh materialized allowed =>
      exact (materialized_iff ran).mp (materialized declared ((commandBinding_iff ran).mpr bound))

namespace Dispatch

def childContract : RunContract where
  gateObligations := []
  policyObligations := []
  sandboxRequirements := []
  agent := .required
  runnerEnvironment := "linux"
  candidateState := some Sample.candidate

def start : RunEventKind := .runStarted childContract (Sample.artifact .task "task.md")

def binding : RunEventKind :=
  .commandBindingCaptured (Sample.artifact .commandBinding "command_binding.json")

theorem parent_nonempty : "run-0" ≠ "" := by decide

def materialization : RunEventKind :=
  .candidateStateMaterialized ⟨"run-0", parent_nonempty⟩
    (Sample.artifact .candidateState "parent.json")
    (Sample.artifact .candidatePatch "parent.patch") "tree"

def ordered : List RunEvent :=
  mintStream standardSha256 Sample.runId 0 [start, binding, materialization, .agentStarted]

def boundLate : List RunEvent :=
  mintStream standardSha256 Sample.runId 0 [start, .agentStarted, binding]

theorem ordered_accepted : ∃ s, reduceAll standardSha256 ordered = .ok s ∧
    kinds ordered = [start, binding, materialization, .agentStarted] := by
  have folded : ∃ t, foldPayloads Sample.runId .initial
      [start, binding, materialization, .agentStarted] = .ok t := ⟨_, rfl⟩
  rcases folded with ⟨t, folded⟩
  rcases mintStream_of_fold standardSha256 0 folded (by decide) with ⟨s, run, _, listed⟩
  exact ⟨s, run, listed⟩

theorem boundLate_accepted : ∃ s, reduceAll standardSha256 boundLate = .ok s ∧
    kinds boundLate = [start, .agentStarted, binding] := by
  have folded : ∃ t, foldPayloads Sample.runId .initial [start, .agentStarted, binding] = .ok t :=
    ⟨_, rfl⟩
  rcases folded with ⟨t, folded⟩
  rcases mintStream_of_fold standardSha256 0 folded (by decide) with ⟨s, run, _, listed⟩
  exact ⟨s, run, listed⟩

theorem exists_binding {events : List RunEvent} (listed : binding ∈ kinds events) :
    ∃ e ∈ events, IsBinding e := by
  rcases List.mem_map.mp listed with ⟨e, member, kind⟩
  exact ⟨e, member, _, kind⟩

end Dispatch

/-- A command continuation with a candidate-state obligation materializes before every
start of its agent exactly when it is not bound after one. -/
theorem materialized_before_start_iff (run : reduceAll sha256 events = .ok s)
    (under : RunsUnder events contract) (declared : contract.candidateState ≠ none)
    (bound : ∃ e ∈ events, IsBinding e) :
    MaterializedBeforeStart events ↔ ¬ BindsAfterStart events := by
  constructor
  · intro safe facts
    obtain ⟨before, e, after, split, binds, x, earlier, starts⟩ := facts
    rcases List.append_of_mem earlier with ⟨early, between, rfl⟩
    have cut : events = early ++ x :: (between ++ e :: after) := by
      rw [split]
      simp
    rcases safe early x _ cut starts with ⟨m, before', materializes⟩
    rcases List.append_of_mem before' with ⟨first, second, rfl⟩
    have deeper : events = first ++ m :: (second ++ x :: (between ++ e :: after)) := by
      rw [cut]
      simp
    rcases binding_before_materialization run under deeper materializes with ⟨y, member, binds'⟩
    apply no_binding_before_binding run under split binds
    exact ⟨y, by simp [member], binds'⟩
  · intro early before e after split starts
    rcases bound with ⟨b, member, binds⟩
    apply materialized_of_bound run under declared split starts
    rw [split] at member
    rcases List.mem_append.mp member with here | there
    · exact ⟨b, here, binds⟩
    · exfalso
      rcases List.mem_cons.mp there with same | later
      · rcases binds with ⟨binding, kind⟩
        rw [same, starts] at kind
        cases kind
      · rcases List.append_of_mem later with ⟨between, rest, rfl⟩
        apply early
        exact ⟨before ++ e :: between, b, rest, by rw [split]; simp, binds, e, by simp, starts⟩

theorem materialized_before_start_ordered :
    (∃ s, reduceAll standardSha256 Dispatch.ordered = .ok s) ∧
      MaterializedBeforeStart Dispatch.ordered := by
  rcases Dispatch.ordered_accepted with ⟨s, run, listed⟩
  have bound : ∃ e ∈ Dispatch.ordered, IsBinding e := by
    apply Dispatch.exists_binding
    rw [listed]
    decide
  refine ⟨⟨s, run⟩, ?_⟩
  apply (materialized_before_start_iff run (runsUnder_of_kinds listed) (by decide) bound).mpr
  intro facts
  obtain ⟨before, e, after, split, ⟨binding, binds⟩, x, earlier, starts⟩ := facts
  have cut : kinds before ++ e.kind :: kinds after =
      [Dispatch.start, Dispatch.binding, Dispatch.materialization, .agentStarted] := by
    rw [← listed, split]
    simp [kinds]
  have started : .agentStarted ∈ kinds before := mem_kinds.mpr ⟨x, earlier, starts⟩
  rw [binds] at cut
  generalize kinds before = early at cut started
  rcases early with _ | ⟨a, _ | ⟨b, _ | ⟨c, _ | ⟨d, rest⟩⟩⟩⟩ <;>
    simp_all [Dispatch.start, Dispatch.binding, Dispatch.materialization]

/-- The reducer accepts a command continuation that reached its agent before it had
materialized anything: the binding arrived after the start. -/
theorem dispatched_before_materialization :
    (∃ s, reduceAll standardSha256 Dispatch.boundLate = .ok s) ∧
      RunsUnder Dispatch.boundLate Dispatch.childContract ∧
      Dispatch.childContract.candidateState ≠ none ∧
      (∃ e ∈ Dispatch.boundLate, IsBinding e) ∧ ¬ MaterializedBeforeStart Dispatch.boundLate := by
  rcases Dispatch.boundLate_accepted with ⟨s, run, listed⟩
  refine ⟨⟨s, run⟩, runsUnder_of_kinds listed, by decide, ?_, ?_⟩
  · apply Dispatch.exists_binding
    rw [listed]
    decide
  · intro safe
    have cut : kinds Dispatch.boundLate = [Dispatch.start] ++ .agentStarted :: [Dispatch.binding] :=
      listed
    rcases split_of_kinds cut with ⟨before, e, after, split, early, kind⟩
    rcases safe before e after split kind with ⟨x, member, _, _, _, _, materializes⟩
    have carried : x.kind ∈ kinds before := List.mem_map_of_mem member
    rw [early, List.mem_singleton, materializes] at carried
    cases carried

end O7Formal.Run
