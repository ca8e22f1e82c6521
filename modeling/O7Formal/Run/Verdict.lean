import O7Formal.Run.Invariant

/-! The verdict as a function of the contract and of the set of events of the stream.
`ErrorEvidence`, `FailEvidence` and `BlockedEvidence` say what the evidence itself must
show; nothing in them refers to the state the reducer keeps. -/

namespace O7Formal.Run

open SortedSearch

variable {sha256 : Sha256}

def evidence (events : List RunEvent) : Set RunEventKind := {kind | ∃ e ∈ events, e.kind = kind}

@[simp] theorem mem_evidence {events : List RunEvent} {kind : RunEventKind} :
    kind ∈ evidence events ↔ ∃ e ∈ events, e.kind = kind :=
  Iff.rfl

section Evidence

variable (contract : RunContract) (seen : Set RunEventKind)

def Checked (p : PolicyObligation) (outcome : PolicyOutcome) : Prop :=
  ∃ policy, policy.digest = p.policy.digest ∧ .policyChecked policy outcome ∈ seen

def Unchecked (p : PolicyObligation) : Prop := ∀ outcome, ¬ Checked seen p outcome

def Finished (gate : GateId) (outcome : GateOutcome) : Prop :=
  ∃ log, .gateFinished gate outcome log ∈ seen

def Observed (r : SandboxRequirement) (outcome : SandboxEvidenceOutcome) : Prop :=
  ∃ report, .sandboxEvidenceCaptured r.subject r.policyDigest report outcome ∈ seen

def ProtectsAgent (p : PolicyObligation) : Prop :=
  p ∈ contract.policyObligations ∧ p.requirement = .required ∧ .agent ∈ p.protects

def Obliges (o : GateObligation) : Prop :=
  o ∈ contract.gateObligations ∧ o.requirement = .required ∧ o.applicability = .applicable

def AgentError : Prop :=
  contract.agent = .required ∧
    ((∃ outcome, .agentExited outcome ∈ seen ∧ outcome ≠ .exitedNormally 0) ∨
      (.agentStarted ∈ seen ∧ ∀ outcome, .agentExited outcome ∉ seen) ∨
      (.agentStarted ∉ seen ∧
        ((∀ p, ProtectsAgent contract p → ¬ Checked seen p .denied ∧ ¬ Unchecked seen p) ∨
          ∃ p, ProtectsAgent contract p ∧ Checked seen p .error)))

def ErrorEvidence : Prop :=
  AgentError contract seen ∨
    (∃ o, Obliges contract o ∧
      ((.gateStarted o.gate ∈ seen ∧ ∀ outcome, ¬ Finished seen o.gate outcome) ∨
        Finished seen o.gate .error)) ∨
    (∃ p ∈ contract.policyObligations, p.requirement = .required ∧ Checked seen p .error) ∨
    ∃ r ∈ contract.sandboxRequirements, Observed seen r .error

def FailEvidence : Prop := ∃ o, Obliges contract o ∧ Finished seen o.gate .fail

def BlockedEvidence : Prop :=
  (∃ o, Obliges contract o ∧
    (.gateStarted o.gate ∉ seen ∨ Finished seen o.gate .blocked ∨
      Finished seen o.gate .notApplicable)) ∨
    (∃ p ∈ contract.policyObligations, p.requirement = .required ∧
      (Unchecked seen p ∨ Checked seen p .denied)) ∨
    (∃ r ∈ contract.sandboxRequirements,
      (∀ outcome, ¬ Observed seen r outcome) ∨ Observed seen r .violated) ∨
    (contract.candidateState ≠ none ∧ ∀ receipt, .candidateStateCaptured receipt ∉ seen) ∨
    (contract.agent = .required ∧ .agentStarted ∉ seen)

open Classical in
noncomputable def verdictOf : Verdict :=
  if ErrorEvidence contract seen then .error
  else if FailEvidence contract seen then .fail
  else if BlockedEvidence contract seen then .blocked
  else .pass

structure Discharged : Prop where
  agent : contract.agent = .required →
    .agentStarted ∈ seen ∧ .agentExited (.exitedNormally 0) ∈ seen
  gates : ∀ o, Obliges contract o →
    .gateStarted o.gate ∈ seen ∧ (Finished seen o.gate .pass ∨ Finished seen o.gate .warn)
  policies : ∀ p ∈ contract.policyObligations, p.requirement = .required → Checked seen p .allowed
  sandbox : ∀ r ∈ contract.sandboxRequirements, Observed seen r .satisfied
  candidate : contract.candidateState ≠ none → ∃ receipt, .candidateStateCaptured receipt ∈ seen

theorem verdictOf_eq_pass : verdictOf contract seen = .pass ↔
    ¬ ErrorEvidence contract seen ∧ ¬ FailEvidence contract seen ∧
      ¬ BlockedEvidence contract seen := by
  unfold verdictOf
  split_ifs <;> simp_all

theorem discharged_of_pass (passed : verdictOf contract seen = .pass) :
    Discharged contract seen := by
  rcases (verdictOf_eq_pass contract seen).mp passed with ⟨noError, noFail, noBlock⟩
  simp only [ErrorEvidence, not_or] at noError
  simp only [BlockedEvidence, not_or] at noBlock
  rcases noError with ⟨agentFine, gateFine, policyFine, sandboxFine⟩
  rcases noBlock with ⟨gateRan, policyRan, sandboxRan, captured, agentRan⟩
  constructor
  · intro required
    have started : .agentStarted ∈ seen := by
      by_contra never
      exact agentRan ⟨required, never⟩
    have exits : ∃ outcome, .agentExited outcome ∈ seen := by
      by_contra none
      exact agentFine ⟨required, .inr (.inl ⟨started, not_exists.mp none⟩)⟩
    rcases exits with ⟨outcome, exited⟩
    have clean : outcome = .exitedNormally 0 := by
      by_contra other
      exact agentFine ⟨required, .inl ⟨outcome, exited, other⟩⟩
    exact ⟨started, clean ▸ exited⟩
  · intro o obliged
    have started : .gateStarted o.gate ∈ seen := by
      by_contra never
      exact gateRan ⟨o, obliged, .inl never⟩
    have finishes : ∃ outcome, Finished seen o.gate outcome := by
      by_contra none
      exact gateFine ⟨o, obliged, .inl ⟨started, not_exists.mp none⟩⟩
    rcases finishes with ⟨outcome, finished⟩
    refine ⟨started, ?_⟩
    cases outcome with
    | pass => exact .inl finished
    | warn => exact .inr finished
    | fail => exact absurd ⟨o, obliged, finished⟩ noFail
    | error => exact absurd ⟨o, obliged, .inr finished⟩ gateFine
    | blocked => exact absurd ⟨o, obliged, .inr (.inl finished)⟩ gateRan
    | notApplicable => exact absurd ⟨o, obliged, .inr (.inr finished)⟩ gateRan
  · intro p member required
    have checks : ∃ outcome, Checked seen p outcome := by
      by_contra none
      exact policyRan ⟨p, member, required, .inl (not_exists.mp none)⟩
    rcases checks with ⟨outcome, checked⟩
    cases outcome with
    | allowed => exact checked
    | denied => exact absurd ⟨p, member, required, .inr checked⟩ policyRan
    | error => exact absurd ⟨p, member, required, checked⟩ policyFine
  · intro r member
    have observes : ∃ outcome, Observed seen r outcome := by
      by_contra none
      exact sandboxRan ⟨r, member, .inl (not_exists.mp none)⟩
    rcases observes with ⟨outcome, observed⟩
    cases outcome with
    | satisfied => exact observed
    | violated => exact absurd ⟨r, member, .inr observed⟩ sandboxRan
    | error => exact absurd ⟨r, member, observed⟩ sandboxFine
  · intro declared
    by_contra none
    exact captured ⟨declared, not_exists.mp none⟩

end Evidence

section Read

variable {events : List RunEvent} {s : RunState}

theorem agentExited_mem_iff (run : reduceAll sha256 events = .ok s) (outcome : AgentOutcome) :
    .agentExited outcome ∈ evidence events ↔ s.agent = .exited outcome := by
  have listed : outcome ∈ s.agent.exits ↔ .agentExited outcome ∈ evidence events := by
    rw [records_agentExit.of_run run, mem_carried]
    simp
  rw [← listed]
  cases s.agent <;> simp [AgentLifecycle.exits, eq_comm]

theorem agentStarted_mem_iff : .agentStarted ∈ evidence events ↔
    () ∈ (kinds events).filterMap RunEventKind.asAgentStart := by
  rw [mem_carried]
  simp

theorem gateStarted_mem_iff (run : reduceAll sha256 events = .ok s) (gate : GateId) :
    .gateStarted gate ∈ evidence events ↔ s.gates.lookup gate ≠ none := by
  have listed : () ∈ (s.gates.lookup gate).toList.map (fun _ => ()) ↔
      .gateStarted gate ∈ evidence events := by
    rw [(records_gateStart gate).of_run run, mem_carried]
    simp
  rw [← listed]
  cases s.gates.lookup gate <;> simp

theorem finished_iff (run : reduceAll sha256 events = .ok s) (gate : GateId)
    (outcome : GateOutcome) : Finished (evidence events) gate outcome ↔
      s.gates.lookup gate = some (.finished outcome) := by
  have listed : outcome ∈ GateProgress.outcomes (s.gates.lookup gate) ↔
      Finished (evidence events) gate outcome := by
    rw [(records_gateFinish gate).of_run run, mem_carried]
    simp only [Finished, mem_evidence, asGateFinish_eq_some, ← exists_and_left]
    rw [exists_comm]
  rw [← listed]
  rcases s.gates.lookup gate with _ | _ | _ <;> simp [GateProgress.outcomes, eq_comm]

theorem checked_iff (run : reduceAll sha256 events = .ok s) (p : PolicyObligation)
    (outcome : PolicyOutcome) : Checked (evidence events) p outcome ↔
      (policyResult s p.policy.digest).map PolicyResult.outcome = some outcome := by
  have listed : ∀ r, r ∈ s.policyResults ↔ .policyChecked r.policy r.outcome ∈ evidence events := by
    intro r
    rw [records_policyResults.of_run run, mem_carried]
    simp
  simp only [policyResult, Option.map_eq_some_iff,
    find_by_key (fun r : PolicyResult => r.policy.digest) (policyResults_distinct run)]
  constructor
  · intro facts
    obtain ⟨policy, digest, member⟩ := facts
    exact ⟨⟨policy, outcome⟩, ⟨(listed _).mpr member, digest⟩, rfl⟩
  · intro facts
    obtain ⟨r, ⟨member, digest⟩, rfl⟩ := facts
    exact ⟨r.policy, digest, (listed r).mp member⟩

theorem unchecked_iff (run : reduceAll sha256 events = .ok s) (p : PolicyObligation) :
    Unchecked (evidence events) p ↔ policyResult s p.policy.digest = none := by
  simp only [Unchecked, checked_iff run]
  cases policyResult s p.policy.digest <;> simp

def sandboxEntry (s : RunState) (r : SandboxRequirement) : Option SandboxEvidenceEntry :=
  s.sandboxEvidence.find? fun e =>
    e.key.subject = r.subject && e.key.policyDigest = r.policyDigest

theorem observed_iff (run : reduceAll sha256 events = .ok s) (r : SandboxRequirement)
    (outcome : SandboxEvidenceOutcome) : Observed (evidence events) r outcome ↔
      (sandboxEntry s r).map SandboxEvidenceEntry.outcome = some outcome := by
  have history := sandboxEvidence_of_run run
  have distinct : (s.sandboxEvidence.map SandboxEvidenceEntry.key).Nodup := by
    rw [List.Nodup, List.pairwise_map]
    exact history.1.imp ne_of_lt
  have listed : ∀ e, e ∈ s.sandboxEvidence ↔ ∃ report,
      .sandboxEvidenceCaptured e.key.subject e.key.policyDigest report e.outcome ∈
        evidence events := by
    intro e
    rw [history.2.mem_iff, mem_carried]
    simp only [asSandboxEvidence_eq_some, mem_evidence, ← exists_and_left]
    rw [exists_comm]
  have keyed : sandboxEntry s r = s.sandboxEvidence.find?
      (fun e => e.key = (⟨r.subject, r.policyDigest⟩ : SandboxEvidenceKey)) := by
    unfold sandboxEntry
    congr 1
    funext e
    rcases e with ⟨⟨subject, digest⟩, outcome⟩
    simp
  simp only [keyed, Option.map_eq_some_iff, find_by_key SandboxEvidenceEntry.key distinct]
  constructor
  · intro facts
    obtain ⟨report, member⟩ := facts
    exact ⟨⟨⟨r.subject, r.policyDigest⟩, outcome⟩, ⟨(listed _).mpr ⟨report, member⟩, rfl⟩, rfl⟩
  · intro facts
    obtain ⟨e, ⟨member, same⟩, rfl⟩ := facts
    rcases (listed e).mp member with ⟨report, captured⟩
    rw [same] at captured
    exact ⟨report, captured⟩

theorem unobserved_iff (run : reduceAll sha256 events = .ok s) (r : SandboxRequirement) :
    (∀ outcome, ¬ Observed (evidence events) r outcome) ↔ sandboxEntry s r = none := by
  simp only [observed_iff run]
  cases sandboxEntry s r <;> simp

theorem uncaptured_iff (run : reduceAll sha256 events = .ok s) :
    (∀ receipt, .candidateStateCaptured receipt ∉ evidence events) ↔ s.candidateState = none := by
  have listed : ∀ receipt, receipt ∈ s.candidateState.toList ↔
      .candidateStateCaptured receipt ∈ evidence events := by
    intro receipt
    rw [records_candidateState.of_run run, mem_carried]
    simp
  simp only [← listed]
  cases s.candidateState <;> simp

end Read

def Flags.join (a b : Flags) : Flags :=
  ⟨a.error || b.error, a.fail || b.fail, a.blocked || b.blocked⟩

theorem foldl_flags {ι : Type} {step : Flags → ι → Flags} (read : Flags → Bool)
    (reads : ∀ a b, read (a.join b) = (read a || read b))
    (joins : ∀ f x, step f x = f.join (step {} x)) (xs : List ι) (f : Flags) :
    read (xs.foldl step f) = true ↔ read f = true ∨ ∃ x ∈ xs, read (step {} x) = true := by
  induction xs generalizing f with
  | nil => simp
  | cons x rest ih =>
      rw [List.foldl_cons, ih, joins f x, reads, Bool.or_eq_true, or_assoc]
      simp

theorem gateFlags_joins (s : RunState) (f : Flags) (o : GateObligation) :
    gateFlags s f o = f.join (gateFlags s {} o) := by
  unfold gateFlags
  split
  · rcases s.gates.lookup o.gate with _ | _ | (_ | _ | _ | _ | _ | _) <;> simp [Flags.join]
  · simp [Flags.join]

theorem policyFlags_joins (s : RunState) (f : Flags) (p : PolicyObligation) :
    policyFlags s f p = f.join (policyFlags s {} p) := by
  unfold policyFlags
  split
  · rcases policyResult s p.policy.digest with _ | ⟨policy, _ | _ | _⟩ <;> simp [Flags.join]
  · simp [Flags.join]

theorem sandboxFlags_eq (s : RunState) (f : Flags) (r : SandboxRequirement) :
    sandboxFlags s f r = match (sandboxEntry s r).map SandboxEvidenceEntry.outcome with
      | none => { f with blocked := true }
      | some .satisfied => f
      | some .violated => { f with blocked := true }
      | some .error => { f with error := true } := by
  unfold sandboxFlags sandboxEntry
  cases s.sandboxEvidence.find? fun e =>
      e.key.subject = r.subject && e.key.policyDigest = r.policyDigest with
  | none => rfl
  | some entry =>
      rcases entry with ⟨key, outcome⟩
      cases outcome <;> rfl

theorem sandboxFlags_joins (s : RunState) (f : Flags) (r : SandboxRequirement) :
    sandboxFlags s f r = f.join (sandboxFlags s {} r) := by
  rw [sandboxFlags_eq, sandboxFlags_eq]
  rcases (sandboxEntry s r).map SandboxEvidenceEntry.outcome with _ | _ | _ | _ <;>
    simp [Flags.join]

theorem candidateFlags_joins (s : RunState) (contract : RunContract) (f : Flags) :
    candidateFlags s contract f = f.join (candidateFlags s contract {}) := by
  unfold candidateFlags
  split <;> simp [Flags.join]

def flagsOf (s : RunState) (contract : RunContract) : Flags :=
  candidateFlags s contract (contract.sandboxRequirements.foldl (sandboxFlags s)
    (contract.policyObligations.foldl (policyFlags s)
      (contract.gateObligations.foldl (gateFlags s) (agentFlags s contract {}))))

theorem computeVerdict_eq (s : RunState) (contract : RunContract) :
    computeVerdict s contract = (flagsOf s contract).verdict := rfl

theorem flagsOf_read (read : Flags → Bool) (reads : ∀ a b, read (a.join b) = (read a || read b))
    (s : RunState) (contract : RunContract) :
    read (flagsOf s contract) = true ↔
      read (agentFlags s contract {}) = true ∨
      (∃ o ∈ contract.gateObligations, read (gateFlags s {} o) = true) ∨
      (∃ p ∈ contract.policyObligations, read (policyFlags s {} p) = true) ∨
      (∃ r ∈ contract.sandboxRequirements, read (sandboxFlags s {} r) = true) ∨
      read (candidateFlags s contract {}) = true := by
  rw [flagsOf, candidateFlags_joins, reads, Bool.or_eq_true,
    foldl_flags read reads (sandboxFlags_joins s), foldl_flags read reads (policyFlags_joins s),
    foldl_flags read reads (gateFlags_joins s)]
  simp only [or_assoc]

section Flags

variable {events : List RunEvent} {s : RunState}

theorem isRequiredApplicable_iff {o : GateObligation} : isRequiredApplicable o = true ↔
    o.requirement = .required ∧ o.applicability = .applicable := by
  simp [isRequiredApplicable]

theorem gateFlags_iff (run : reduceAll sha256 events = .ok s) (o : GateObligation) :
    ((gateFlags s {} o).error = true ↔ isRequiredApplicable o = true ∧
      ((.gateStarted o.gate ∈ evidence events ∧
        ∀ outcome, ¬ Finished (evidence events) o.gate outcome) ∨
        Finished (evidence events) o.gate .error)) ∧
    ((gateFlags s {} o).fail = true ↔ isRequiredApplicable o = true ∧
      Finished (evidence events) o.gate .fail) ∧
    ((gateFlags s {} o).blocked = true ↔ isRequiredApplicable o = true ∧
      (.gateStarted o.gate ∉ evidence events ∨ Finished (evidence events) o.gate .blocked ∨
        Finished (evidence events) o.gate .notApplicable)) := by
  simp only [gateStarted_mem_iff run, finished_iff run]
  unfold gateFlags
  by_cases obliged : isRequiredApplicable o = true
  · rcases s.gates.lookup o.gate with _ | _ | (_ | _ | _ | _ | _ | _) <;> simp [obliged]
  · simp [obliged]

theorem policyFlags_iff (run : reduceAll sha256 events = .ok s) (p : PolicyObligation) :
    ((policyFlags s {} p).error = true ↔ p.requirement = .required ∧
      Checked (evidence events) p .error) ∧
    (policyFlags s {} p).fail = false ∧
    ((policyFlags s {} p).blocked = true ↔ p.requirement = .required ∧
      (Unchecked (evidence events) p ∨ Checked (evidence events) p .denied)) := by
  simp only [unchecked_iff run, checked_iff run]
  unfold policyFlags
  by_cases required : p.requirement = .required
  · rcases policyResult s p.policy.digest with _ | ⟨policy, _ | _ | _⟩ <;> simp [required]
  · simp [required]

theorem sandboxFlags_iff (run : reduceAll sha256 events = .ok s) (r : SandboxRequirement) :
    ((sandboxFlags s {} r).error = true ↔ Observed (evidence events) r .error) ∧
    (sandboxFlags s {} r).fail = false ∧
    ((sandboxFlags s {} r).blocked = true ↔
      (∀ outcome, ¬ Observed (evidence events) r outcome) ∨
        Observed (evidence events) r .violated) := by
  rw [unobserved_iff run, observed_iff run, observed_iff run, sandboxFlags_eq]
  rcases sandboxEntry s r with _ | ⟨key, _ | _ | _⟩ <;> simp

theorem candidateFlags_iff (run : reduceAll sha256 events = .ok s) (contract : RunContract) :
    (candidateFlags s contract {}).error = false ∧ (candidateFlags s contract {}).fail = false ∧
    ((candidateFlags s contract {}).blocked = true ↔ contract.candidateState ≠ none ∧
      ∀ receipt, .candidateStateCaptured receipt ∉ evidence events) := by
  rw [uncaptured_iff run]
  unfold candidateFlags
  split <;> simp_all

theorem agentNonstart_error_iff (run : reduceAll sha256 events = .ok s) (contract : RunContract) :
    agentNonstartDisposition s contract = .error ↔
      (∀ p, ProtectsAgent contract p →
        ¬ Checked (evidence events) p .denied ∧ ¬ Unchecked (evidence events) p) ∨
      ∃ p, ProtectsAgent contract p ∧ Checked (evidence events) p .error := by
  have protector : ∀ p, p ∈ contract.policyObligations.filter (fun o =>
      o.requirement = .required && o.protects.contains .agent) ↔ ProtectsAgent contract p := by
    intro p
    simp [ProtectsAgent]
  simp only [← protector, checked_iff run, unchecked_iff run]
  unfold agentNonstartDisposition
  generalize contract.policyObligations.filter (fun o =>
    o.requirement = .required && o.protects.contains .agent) = protectors
  cases protectors with
  | nil => simp
  | cons first rest =>
      simp only [List.isEmpty_cons, Bool.false_eq_true, if_false]
      split_ifs with anyError anyHeld
      · simp only [List.any_eq_true, decide_eq_true_eq] at anyError
        simpa using Or.inr anyError
      · simp only [List.any_eq_true, decide_eq_true_eq, Bool.or_eq_true] at anyError anyHeld
        rcases anyHeld with ⟨p, member, held⟩
        simp only [false_iff, not_or, not_exists, not_and]
        refine ⟨?_, fun q member' failed => anyError ⟨q, member', failed⟩⟩
        intro fine
        rcases held with denied | absent
        · exact (fine p member).1 denied
        · exact (fine p member).2 (by simpa using absent)
      · simp only [List.any_eq_true, decide_eq_true_eq, Bool.or_eq_true, not_exists, not_and,
          not_or] at anyHeld
        simp only [true_iff]
        refine .inl fun p member => ?_
        have clear := anyHeld p member
        exact ⟨clear.1, by simpa using clear.2⟩

theorem agentFlags_error_iff (run : reduceAll sha256 events = .ok s) (contract : RunContract) :
    (agentFlags s contract {}).error = true ↔ AgentError contract (evidence events) := by
  have starts := agentStarts_of_run run
  unfold agentFlags AgentError
  simp only [agentExited_mem_iff run, agentStarted_mem_iff, ← agentNonstart_error_iff run]
  by_cases required : contract.agent = .required
  · simp only [required, if_true, true_and]
    cases lifecycle : s.agent with
    | notObserved =>
        rw [lifecycle] at starts
        have none : (kinds events).filterMap RunEventKind.asAgentStart = [] := starts
        cases agentNonstartDisposition s contract <;> simp [none]
    | started =>
        rw [lifecycle] at starts
        have one : (kinds events).filterMap RunEventKind.asAgentStart = [()] := starts
        simp [one]
    | exited outcome =>
        rw [lifecycle] at starts
        by_cases clean : outcome = .exitedNormally 0
        · have one : (kinds events).filterMap RunEventKind.asAgentStart = [()] := by
            rcases starts with one | ⟨_, reason, failed⟩
            · exact one
            · rw [clean] at failed
              cases failed
          simp [clean, one]
        · simp [clean]
  · simp [required]

theorem agentFlags_blocked_iff (run : reduceAll sha256 events = .ok s) (contract : RunContract)
    (fine : ¬ AgentError contract (evidence events)) :
    (agentFlags s contract {}).blocked = true ↔
      contract.agent = .required ∧ .agentStarted ∉ evidence events := by
  have starts := agentStarts_of_run run
  have quiet : (agentFlags s contract {}).error = false := by
    simpa using mt (agentFlags_error_iff run contract).mp fine
  rw [agentStarted_mem_iff]
  unfold agentFlags at quiet ⊢
  by_cases required : contract.agent = .required
  · simp only [required, if_true, true_and] at quiet ⊢
    cases lifecycle : s.agent with
    | notObserved =>
        rw [lifecycle] at starts quiet
        have none : (kinds events).filterMap RunEventKind.asAgentStart = [] := starts
        cases disposition : agentNonstartDisposition s contract <;> simp_all
    | started => simp [lifecycle] at quiet
    | exited outcome =>
        rw [lifecycle] at starts quiet
        have clean : outcome = .exitedNormally 0 := by
          by_contra other
          simp [other] at quiet
        rcases starts with one | ⟨_, reason, failed⟩
        · simp [clean, one]
        · rw [clean] at failed
          cases failed
  · simp [required]

theorem agentFlags_fail (s : RunState) (contract : RunContract) :
    (agentFlags s contract {}).fail = false := by
  unfold agentFlags
  split
  · rcases s.agent with _ | _ | outcome
    · cases agentNonstartDisposition s contract <;> rfl
    · rfl
    · dsimp only
      split <;> rfl
  · rfl

theorem flags_error_iff (run : reduceAll sha256 events = .ok s) (contract : RunContract) :
    (flagsOf s contract).error = true ↔ ErrorEvidence contract (evidence events) := by
  rw [flagsOf_read Flags.error (fun _ _ => rfl)]
  simp only [agentFlags_error_iff run, (gateFlags_iff run _).1, (policyFlags_iff run _).1,
    (sandboxFlags_iff run _).1, (candidateFlags_iff run contract).1, isRequiredApplicable_iff,
    ErrorEvidence, Obliges, Bool.false_eq_true, or_false, and_assoc]

theorem flags_fail_iff (run : reduceAll sha256 events = .ok s) (contract : RunContract) :
    (flagsOf s contract).fail = true ↔ FailEvidence contract (evidence events) := by
  rw [flagsOf_read Flags.fail (fun _ _ => rfl)]
  simp only [agentFlags_fail, (gateFlags_iff run _).2.1, (policyFlags_iff run _).2.1,
    (sandboxFlags_iff run _).2.1, (candidateFlags_iff run contract).2.1, isRequiredApplicable_iff,
    FailEvidence, Obliges, Bool.false_eq_true, and_false, exists_false, or_false, false_or,
    and_assoc]

theorem flags_blocked_iff (run : reduceAll sha256 events = .ok s) (contract : RunContract)
    (fine : ¬ ErrorEvidence contract (evidence events)) :
    (flagsOf s contract).blocked = true ↔ BlockedEvidence contract (evidence events) := by
  have agentFine : ¬ AgentError contract (evidence events) := fun bad => fine (.inl bad)
  rw [flagsOf_read Flags.blocked (fun _ _ => rfl)]
  simp only [agentFlags_blocked_iff run contract agentFine, (gateFlags_iff run _).2.2,
    (policyFlags_iff run _).2.2, (sandboxFlags_iff run _).2.2,
    (candidateFlags_iff run contract).2.2, isRequiredApplicable_iff, BlockedEvidence,
    Obliges, and_assoc]
  rw [or_comm]
  simp only [or_assoc]

theorem computeVerdict_eq_verdictOf (run : reduceAll sha256 events = .ok s)
    (contract : RunContract) :
    computeVerdict s contract = verdictOf contract (evidence events) := by
  rw [computeVerdict_eq, Flags.verdict, verdictOf]
  by_cases failed : ErrorEvidence contract (evidence events)
  · rw [if_pos ((flags_error_iff run contract).mpr failed), if_pos failed]
  rw [if_neg (mt (flags_error_iff run contract).mp failed), if_neg failed]
  by_cases refused : FailEvidence contract (evidence events)
  · rw [if_pos ((flags_fail_iff run contract).mpr refused), if_pos refused]
  rw [if_neg (mt (flags_fail_iff run contract).mp refused), if_neg refused]
  by_cases blocked : BlockedEvidence contract (evidence events)
  · rw [if_pos ((flags_blocked_iff run contract failed).mpr blocked), if_pos blocked]
  rw [if_neg (mt (flags_blocked_iff run contract failed).mp blocked), if_neg blocked]

end Flags

/-- The verdict of a sealed stream is the one its contract and its set of events call for,
and it is a pass only when every declared obligation was discharged. -/
theorem sealed_verdict {events : List RunEvent} {s : RunState}
    (run : reduceAll sha256 events = .ok s) (sealed : s.phase = .sealed) :
    ∃ contract, RunsUnder events contract ∧
      s.verdict = some (verdictOf contract (evidence events)) ∧
      (s.verdict = some .pass → Discharged contract (evidence events)) := by
  rcases opened_of_run run with ⟨_, rfl⟩ | ⟨first, rest, contract, task, shape, opened⟩
  · cases sealed
  · have decided : s.verdict = some (verdictOf contract (evidence events)) := by
      rw [(sealing_of_run run).collapsed contract opened.contract sealed,
        computeVerdict_eq_verdictOf run]
    refine ⟨contract, ⟨first, rest, task, shape, opened.kind⟩, decided, ?_⟩
    intro passed
    rw [decided] at passed
    exact discharged_of_pass contract _ (Option.some.inj passed)

theorem sealed_verdict_sample : ∃ s, reduceAll standardSha256 Sample.events = .ok s ∧
    s.phase = .sealed ∧ s.verdict = some .pass ∧
    ∃ contract, s.verdict = some (verdictOf contract (evidence Sample.events)) ∧
      Discharged contract (evidence Sample.events) := by
  rcases Sample.accepted with ⟨s, run, sealed, _, passed, _⟩
  rcases sealed_verdict run sealed with ⟨contract, _, decided, discharged⟩
  exact ⟨s, run, sealed, passed, contract, decided, discharged passed⟩

end O7Formal.Run
