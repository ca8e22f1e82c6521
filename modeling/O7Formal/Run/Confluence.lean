import O7Formal.Run.Ordering

/-! Two accepted streams that carry the same payloads, in whatever two orders, reach the
same evidence. Each slot is a record of the payloads, so a permutation of the payloads
permutes the records, and everything but the policy results has one order only. -/

namespace O7Formal.Run

open SortedSearch

variable {sha256 : Sha256}

/-- Agreement up to the envelope and the order of the policy checks. -/
structure SameEvidence (s t : RunState) : Prop where
  phase : s.phase = t.phase
  contract : s.contract = t.contract
  task : s.task = t.task
  verdict : s.verdict = t.verdict
  agent : s.agent = t.agent
  gates : s.gates = t.gates
  sandboxEvidence : s.sandboxEvidence = t.sandboxEvidence
  patch : s.patch = t.patch
  worktree : s.worktree = t.worktree
  providerSessionReceipt : s.providerSessionReceipt = t.providerSessionReceipt
  commandBinding : s.commandBinding = t.commandBinding
  candidateState : s.candidateState = t.candidateState
  candidateMaterialized : s.candidateMaterialized = t.candidateMaterialized
  policyResults : s.policyResults.Perm t.policyResults

section TwoRuns

variable {xs ys : List RunEvent} {s t : RunState}

theorem Records.perm {β : Type} {read : RunState → List β} {carried : RunEventKind → Option β}
    (records : Records read carried) (runX : reduceAll sha256 xs = .ok s)
    (runY : reduceAll sha256 ys = .ok t) (same : (kinds xs).Perm (kinds ys)) :
    (read s).Perm (read t) := by
  rw [records.of_run runX, records.of_run runY]
  exact same.filterMap carried

theorem option_eq_of_toList_perm {β : Type} {a b : Option β} (same : a.toList.Perm b.toList) :
    a = b := by
  cases a with
  | none => cases b <;> simp at same ⊢
  | some x => cases b <;> simp_all

theorem Records.slot_eq {β : Type} {slot : RunState → Option β}
    {carried : RunEventKind → Option β} (records : Records (fun s => (slot s).toList) carried)
    (runX : reduceAll sha256 xs = .ok s) (runY : reduceAll sha256 ys = .ok t)
    (same : (kinds xs).Perm (kinds ys)) : slot s = slot t :=
  option_eq_of_toList_perm (records.perm runX runY same)

theorem gates_eq (runX : reduceAll sha256 xs = .ok s) (runY : reduceAll sha256 ys = .ok t)
    (same : (kinds xs).Perm (kinds ys)) : s.gates = t.gates := by
  apply Finmap.ext_lookup
  intro gate
  have starts := (records_gateStart gate).perm runX runY same
  have finishes := (records_gateFinish gate).perm runX runY same
  generalize s.gates.lookup gate = progressX at starts finishes ⊢
  generalize t.gates.lookup gate = progressY at starts finishes ⊢
  rcases progressX with _ | _ | _ <;> rcases progressY with _ | _ | _ <;>
    simp_all [GateProgress.outcomes]

theorem sandbox_eq (runX : reduceAll sha256 xs = .ok s) (runY : reduceAll sha256 ys = .ok t)
    (same : (kinds xs).Perm (kinds ys)) : s.sandboxEvidence = t.sandboxEvidence := by
  have historyX := sandboxEvidence_of_run runX
  have historyY := sandboxEvidence_of_run runY
  have permuted : s.sandboxEvidence.Perm t.sandboxEvidence :=
    (historyX.2.trans (same.filterMap _)).trans historyY.2.symm
  exact historyX.1.eq_of_perm historyY.1 permuted

theorem agent_eq (runX : reduceAll sha256 xs = .ok s) (runY : reduceAll sha256 ys = .ok t)
    (same : (kinds xs).Perm (kinds ys)) : s.agent = t.agent := by
  have exits := records_agentExit.perm runX runY same
  have startsX := agentStarts_of_run runX
  have startsY := agentStarts_of_run runY
  have starts := same.filterMap RunEventKind.asAgentStart
  generalize (kinds xs).filterMap RunEventKind.asAgentStart = early at startsX starts
  generalize (kinds ys).filterMap RunEventKind.asAgentStart = late at startsY starts
  cases agentX : s.agent <;> cases agentY : t.agent <;>
    simp_all [AgentLifecycle.exits, AgentLifecycle.StartedBy]

theorem phase_eq (runX : reduceAll sha256 xs = .ok s) (runY : reduceAll sha256 ys = .ok t)
    (same : (kinds xs).Perm (kinds ys)) : s.phase = t.phase := by
  have sealed : s.phase = .sealed ↔ t.phase = .sealed := by
    rw [(sealing_of_run runX).occurs, (sealing_of_run runY).occurs]
    exact same.mem_iff
  have length : xs.length = ys.length := by
    simpa [kinds] using same.length_eq
  have started : s.phase = .notStarted ↔ t.phase = .notStarted := by
    constructor
    · intro fresh
      have empty : ys = [] := by
        rw [(initial_of_notStarted runX fresh).1] at length
        exact List.eq_nil_of_length_eq_zero length.symm
      rw [empty] at runY
      rw [reduceAll_nil.mp runY]
      rfl
    · intro fresh
      have empty : xs = [] := by
        rw [(initial_of_notStarted runY fresh).1] at length
        exact List.eq_nil_of_length_eq_zero length
      rw [empty] at runX
      rw [reduceAll_nil.mp runX]
      rfl
  cases phaseX : s.phase <;> cases phaseY : t.phase <;> simp_all

theorem evidence_eq (same : (kinds xs).Perm (kinds ys)) : evidence xs = evidence ys := by
  ext kind
  rw [mem_evidence, mem_evidence, ← mem_kinds, ← mem_kinds]
  exact same.mem_iff

theorem start_eq (runX : reduceAll sha256 xs = .ok s) (runY : reduceAll sha256 ys = .ok t)
    (same : (kinds xs).Perm (kinds ys)) : s.contract = t.contract ∧ s.task = t.task := by
  have starts := records_start.slot_eq runX runY same
  rcases opened_of_run runX with ⟨_, rfl⟩ | ⟨_, _, contract, task, _, openedX⟩ <;>
    rcases opened_of_run runY with ⟨_, rfl⟩ | ⟨_, _, contract', task', _, openedY⟩
  · exact ⟨rfl, rfl⟩
  · simp [openedY.contract, openedY.task, RunState.initial] at starts
  · simp [openedX.contract, openedX.task, RunState.initial] at starts
  · simpa [openedX.contract, openedX.task, openedY.contract, openedY.task] using starts

theorem verdict_eq (runX : reduceAll sha256 xs = .ok s) (runY : reduceAll sha256 ys = .ok t)
    (same : (kinds xs).Perm (kinds ys)) : s.verdict = t.verdict := by
  have phases := phase_eq runX runY same
  by_cases sealed : s.phase = .sealed
  · have bound : ∃ contract, s.contract = some contract := by
      rcases opened_of_run runX with ⟨_, rfl⟩ | ⟨_, _, contract, _, _, opened⟩
      · cases sealed
      · exact ⟨contract, opened.contract⟩
    rcases bound with ⟨contract, boundX⟩
    have boundY : t.contract = some contract := (start_eq runX runY same).1.symm.trans boundX
    rw [(sealing_of_run runX).collapsed contract boundX sealed,
      (sealing_of_run runY).collapsed contract boundY (phases ▸ sealed),
      computeVerdict_eq_verdictOf runX, computeVerdict_eq_verdictOf runY, evidence_eq same]
  · have openX : s.verdict = none := by simpa using mt (sealing_of_run runX).verdict.mp sealed
    have openY : t.verdict = none := by
      simpa using mt (sealing_of_run runY).verdict.mp (phases ▸ sealed)
    rw [openX, openY]

end TwoRuns

/-- The order of folding does not matter: accepted streams with the same payloads end in
the same evidence. -/
theorem same_payloads_same_evidence {xs ys : List RunEvent} {s t : RunState}
    (runX : reduceAll sha256 xs = .ok s) (runY : reduceAll sha256 ys = .ok t)
    (same : (kinds xs).Perm (kinds ys)) : SameEvidence s t where
  phase := phase_eq runX runY same
  contract := (start_eq runX runY same).1
  task := (start_eq runX runY same).2
  verdict := verdict_eq runX runY same
  agent := agent_eq runX runY same
  gates := gates_eq runX runY same
  sandboxEvidence := sandbox_eq runX runY same
  patch := records_patch.slot_eq runX runY same
  worktree := records_worktree.slot_eq runX runY same
  providerSessionReceipt := records_providerSession.slot_eq runX runY same
  commandBinding := records_commandBinding.slot_eq runX runY same
  candidateState := records_candidateState.slot_eq runX runY same
  candidateMaterialized := records_materialization.slot_eq runX runY same
  policyResults := records_policyResults.perm runX runY same

def Sample.reordered : List RunEventKind :=
  [Sample.start, .patchCaptured (Sample.artifact .diff "patch.diff"),
   .policyChecked Sample.policy .allowed, .gateStarted Sample.build, .agentStarted,
   .gateFinished Sample.build .pass none,
   .sandboxEvidenceCaptured .agent Sample.digest (Sample.artifact .sandboxReport "sandbox.json")
     .satisfied,
   .agentExited (.exitedNormally 0),
   .candidateStateCaptured (Sample.artifact .candidateState "candidate.json"), .runSealed]

theorem same_payloads_same_evidence_sample :
    ∃ s t, reduceAll standardSha256 Sample.events = .ok s ∧
      reduceAll standardSha256 (mintStream standardSha256 Sample.runId 7 Sample.reordered) = .ok t ∧
      kinds Sample.events ≠ Sample.reordered ∧ SameEvidence s t := by
  rcases Sample.accepted with ⟨s, runX, _, _, _, listedX⟩
  have folded : ∃ t, foldPayloads Sample.runId .initial Sample.reordered = .ok t := ⟨_, rfl⟩
  rcases folded with ⟨u, folded⟩
  rcases mintStream_of_fold standardSha256 7 folded (by decide) with ⟨t, runY, _, listedY⟩
  have same : Sample.payloads.Perm Sample.reordered := by decide
  refine ⟨s, t, runX, runY, ?_, ?_⟩
  · rw [listedX]
    decide
  · apply same_payloads_same_evidence runX runY
    rw [listedX, listedY]
    exact same

end O7Formal.Run
