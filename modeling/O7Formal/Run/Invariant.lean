import O7Formal.Run.EventChain

/-! The representation invariant of the reducer: what every field of a reached state says
about the stream that reached it. -/

namespace O7Formal.Run

open SortedSearch

variable {sha256 : Sha256}

def Fills {β : Type} (slot : Option β) (carried : RunEventKind → Option β)
    (events : List RunEvent) : Prop :=
  (slot.isSome = true ↔ (kinds events).countP (fun kind => (carried kind).isSome) = 1) ∧
    ∀ x, slot = some x ↔ (kinds events).filterMap carried = [x]

theorem fills_of_toList {β : Type} {slot : Option β} {carried : RunEventKind → Option β}
    {events : List RunEvent} (same : slot.toList = (kinds events).filterMap carried) :
    Fills slot carried events := by
  have counted :
      (kinds events).countP (fun kind => (carried kind).isSome) = slot.toList.length := by
    rw [same, List.length_filterMap_eq_countP]
  constructor
  · rw [counted]
    cases slot <;> simp
  · intro x
    rw [← same]
    cases slot <;> simp

structure GateMatches (gate : GateId) (progress : Option GateProgress) (events : List RunEvent) :
    Prop where
  absent : progress = none ↔ (kinds events).filterMap (RunEventKind.asGateStart gate) = []
  started : progress = some .started ↔
    (kinds events).filterMap (RunEventKind.asGateStart gate) = [()] ∧
      (kinds events).filterMap (RunEventKind.asGateFinish gate) = []
  finished : ∀ outcome, progress = some (.finished outcome) ↔
    (kinds events).filterMap (RunEventKind.asGateStart gate) = [()] ∧
      (kinds events).filterMap (RunEventKind.asGateFinish gate) = [outcome]

theorem gateMatches_of_run {events : List RunEvent} {s : RunState}
    (run : reduceAll sha256 events = .ok s) (gate : GateId) :
    GateMatches gate (s.gates.lookup gate) events := by
  have starts := (records_gateStart gate).of_run run
  have finishes := (records_gateFinish gate).of_run run
  constructor
  · rw [← starts]
    cases s.gates.lookup gate <;> simp
  · rw [← starts, ← finishes]
    rcases s.gates.lookup gate with _ | _ | _ <;> simp [GateProgress.outcomes]
  · intro outcome
    rw [← starts, ← finishes]
    rcases s.gates.lookup gate with _ | _ | _ <;> simp [GateProgress.outcomes]

structure Represents (events : List RunEvent) (s : RunState) : Prop where
  contract : s.contract.isSome = true ↔ 0 < events.length
  runId : s.runId.isSome = true ↔ 0 < events.length
  verdict : s.verdict.isSome = true ↔ s.phase = .sealed
  phase : s.phase = .sealed ↔ (kinds events).getLast? = some .runSealed
  lastSequence : s.lastSequence.map UInt64.toNat =
    if events.length = 0 then none else some (events.length - 1)
  noOverflow : ∀ last ∈ s.lastSequence, last.toNat + 1 < 2 ^ 64
  seenEventIds : s.seenEventIds.card = events.length
  gatesDeclared : ∀ gate ∈ s.gates, ∃ contract ∈ s.contract,
    ∃ o ∈ contract.gateObligations, o.gate = gate
  gates : ∀ gate, GateMatches gate (s.gates.lookup gate) events
  policiesDistinct : (s.policyResults.map fun r => r.policy.digest).Nodup
  policiesDeclared : ∀ r ∈ s.policyResults, ∃ contract ∈ s.contract,
    ∃ o ∈ contract.policyObligations, o.policy.digest = r.policy.digest
  sandboxIncreasing : Increasing SandboxEvidenceEntry.key s.sandboxEvidence
  sandboxDeclared : ∀ e ∈ s.sandboxEvidence, ∃ contract ∈ s.contract,
    ⟨e.key.subject, e.key.policyDigest⟩ ∈ contract.sandboxRequirements
  start : Fills (s.contract.bind fun contract => s.task.map (contract, ·)) RunEventKind.asStart
    events
  worktree : Fills s.worktree RunEventKind.asWorktree events
  patch : Fills s.patch RunEventKind.asPatch events
  providerSession : Fills s.providerSessionReceipt RunEventKind.asProviderSession events
  commandBinding : Fills s.commandBinding RunEventKind.asCommandBinding events
  candidateState : Fills s.candidateState RunEventKind.asCandidateState events
  materialized : Fills s.candidateMaterialized RunEventKind.asMaterialization events

theorem bound_or_empty {events : List RunEvent} {s : RunState}
    (run : reduceAll sha256 events = .ok s) :
    s = .initial ∨ ∃ contract ∈ s.contract, Declared contract s := by
  rcases opened_of_run run with ⟨_, empty⟩ | ⟨first, rest, contract, task, _, opened⟩
  · exact .inl empty
  · exact .inr ⟨contract, opened.contract, declared_of_run run contract opened.contract⟩

theorem present_of_run {events : List RunEvent} {s : RunState}
    (run : reduceAll sha256 events = .ok s) :
    (s.contract.isSome = true ↔ 0 < events.length) ∧
      (s.runId.isSome = true ↔ 0 < events.length) := by
  rcases opened_of_run run with ⟨rfl, rfl⟩ | ⟨first, rest, contract, task, rfl, opened⟩
  · decide
  · simp [opened.contract, opened.runId]

theorem lastSequence_of_run {events : List RunEvent} {s : RunState}
    (run : reduceAll sha256 events = .ok s) (bounded : events.length < 2 ^ 64) :
    s.lastSequence.map UInt64.toNat =
      if events.length = 0 then none else some (events.length - 1) := by
  rw [(enveloped_of_run run).lastSequence]
  by_cases empty : events = []
  · simp [empty]
  · have small : events.length - 1 < 2 ^ 64 := by omega
    simpa [empty] using small

theorem nextSequence_of_run {events : List RunEvent} {s : RunState}
    (run : reduceAll sha256 events = .ok s) (bounded : events.length < 2 ^ 64) :
    ∀ last ∈ s.lastSequence, last.toNat + 1 < 2 ^ 64 := by
  intro last held
  have sequence := lastSequence_of_run run bounded
  rw [Option.mem_def.mp held] at sequence
  by_cases empty : events.length = 0
  · simp [empty] at sequence
  · have value : last.toNat = events.length - 1 := by simpa [empty] using sequence
    omega

theorem gatesDeclared_of_run {events : List RunEvent} {s : RunState}
    (run : reduceAll sha256 events = .ok s) : ∀ gate ∈ s.gates, ∃ contract ∈ s.contract,
      ∃ o ∈ contract.gateObligations, o.gate = gate := by
  intro gate held
  rcases bound_or_empty run with rfl | ⟨contract, bound, declared⟩
  · cases held
  · have known := declared.gates gate (by simpa [Finmap.lookup_eq_none] using held)
    rcases Option.ne_none_iff_exists'.mp known with ⟨o, found⟩
    have named : o.gate = gate := by simpa using List.find?_some found
    exact ⟨contract, bound, o, List.mem_of_find?_eq_some found, named⟩

theorem policyResults_distinct {events : List RunEvent} {s : RunState}
    (run : reduceAll sha256 events = .ok s) :
    (s.policyResults.map fun r => r.policy.digest).Nodup := by
  rcases bound_or_empty run with rfl | ⟨contract, bound, declared⟩
  · exact List.nodup_nil
  · exact declared.distinctPolicies

theorem policiesDeclared_of_run {events : List RunEvent} {s : RunState}
    (run : reduceAll sha256 events = .ok s) : ∀ r ∈ s.policyResults, ∃ contract ∈ s.contract,
      ∃ o ∈ contract.policyObligations, o.policy.digest = r.policy.digest := by
  intro r held
  rcases bound_or_empty run with rfl | ⟨contract, bound, declared⟩
  · cases held
  · exact ⟨contract, bound, declared.policies r held⟩

theorem sandboxDeclared_of_run {events : List RunEvent} {s : RunState}
    (run : reduceAll sha256 events = .ok s) : ∀ e ∈ s.sandboxEvidence, ∃ contract ∈ s.contract,
      ⟨e.key.subject, e.key.policyDigest⟩ ∈ contract.sandboxRequirements := by
  intro e held
  rcases bound_or_empty run with rfl | ⟨contract, bound, declared⟩
  · cases held
  · rcases declared.sandbox e held with ⟨⟨subject, digest⟩, member, rfl, rfl⟩
    exact ⟨contract, bound, member⟩

/-- Every accepted stream of fewer than 2^64 events leaves a state that represents it. -/
theorem reduceAll_represents {events : List RunEvent} {s : RunState}
    (run : reduceAll sha256 events = .ok s) (bounded : events.length < 2 ^ 64) :
    Represents events s := by
  have sealing := sealing_of_run run
  have envelope := enveloped_of_run run
  exact
    { contract := (present_of_run run).1
      runId := (present_of_run run).2
      verdict := sealing.verdict
      phase := sealing.last
      lastSequence := lastSequence_of_run run bounded
      noOverflow := nextSequence_of_run run bounded
      seenEventIds := by
        rw [envelope.seenEventIds, List.toFinset_card_of_nodup envelope.distinctIds,
          List.length_map]
      gatesDeclared := gatesDeclared_of_run run
      gates := gateMatches_of_run run
      policiesDistinct := policyResults_distinct run
      policiesDeclared := policiesDeclared_of_run run
      sandboxIncreasing := (sandboxEvidence_of_run run).1
      sandboxDeclared := sandboxDeclared_of_run run
      start := fills_of_toList (records_start.of_run run)
      worktree := fills_of_toList (records_worktree.of_run run)
      patch := fills_of_toList (records_patch.of_run run)
      providerSession := fills_of_toList (records_providerSession.of_run run)
      commandBinding := fills_of_toList (records_commandBinding.of_run run)
      candidateState := fills_of_toList (records_candidateState.of_run run)
      materialized := fills_of_toList (records_materialization.of_run run) }

theorem reduceAll_represents_sample :
    ∃ s, reduceAll standardSha256 Sample.events = .ok s ∧ Represents Sample.events s := by
  rcases Sample.accepted with ⟨s, run, _, _, _, listed⟩
  have length : Sample.events.length = 10 := by
    have counted := congrArg List.length listed
    rw [kinds, List.length_map] at counted
    exact counted
  exact ⟨s, run, reduceAll_represents run (by rw [length]; decide)⟩

end O7Formal.Run
