import O7Formal.Worker.Outcome

/-! Every run of the supervisor: its calls fit what has happened, and its result says what the log
says. -/

namespace O7Formal.Worker

open Program

variable {spec : WorkerSpec} {log log' : Log}

/-- The evidence of the launch did not satisfy the requirement, its teardown met no fault, and the
sink lost an observation. -/
def Slipped (spec : WorkerSpec) (log : Log) : Prop :=
  (∃ attestation evidence, log.attestation = some attestation ∧ log.launch = some evidence ∧
    evidence.satisfies spec.boundaryRequirement attestation = false) ∧
    log.teardownFaults = [] ∧ log.refused ≠ []

/-- What the result of a run says where a live process was owned. -/
structure Owned (spec : WorkerSpec) (log : Log) (result : WorkerResult) : Prop where
  precedence : ¬ Slipped spec log → Precedence log result
  slipped : Slipped spec log → ∃ m, result = .failedToStart m
  reaped : log.teardownFaults = [] → Reaped log
  success : result.isFailure = false → Faithful spec log result

theorem Owned.withState {result : WorkerResult} (owned : Owned spec log result)
    (state : WorkerState) : Owned spec { log with state := state } result := by
  constructor
  · intro heeded
    have precedence := owned.precedence heeded
    exact ⟨precedence.cleanup, precedence.observation, precedence.own⟩
  · exact owned.slipped
  · intro none
    have reaped := owned.reaped none
    exact ⟨reaped.exits, reaped.vacated⟩
  · intro success
    have faithful := owned.success success
    exact ⟨faithful.refused, faithful.ended, faithful.drained, faithful.vacated, faithful.closed,
      faithful.published, faithful.reads, faithful.faults, faithful.admitted⟩

structure Final (spec : WorkerSpec) (log : Log) (result : WorkerResult) : Prop where
  owned : log.launch ≠ none → Owned spec log result
  failed : ∀ o ∈ log.accepted, isSupervisorFailed o = true → result.isFailure = true
  state : ∀ identity, .spawned identity ∈ log.accepted → log.state.isTerminal = true

theorem Verdict.final {result : WorkerResult} (verdict : Verdict spec log result) :
    Final spec log result := by
  refine ⟨?_, verdict.failed, fun _ _ => verdict.state⟩
  intro _
  refine ⟨fun _ => verdict.precedence, ?_, verdict.reaped, verdict.success⟩
  intro slipped
  rcases slipped.1 with ⟨attestation, evidence, attested, launched, fails⟩
  rcases verdict.admitted with ⟨attestation', evidence', attested', launched', satisfied⟩
  cases attested.symm.trans attested'
  cases launched.symm.trans launched'
  cases fails.symm.trans satisfied

structure Fresh (accepted : List WorkerObservation) (log : Log) : Prop where
  launch : log.launch = none
  accepted : log.accepted = accepted
  refused : log.refused = []
  exits : log.exits = []
  faults : log.faults = []
  cause : log.cause = none
  tearing : log.tearing = false
  received : log.received = []
  closed : log.closed = false
  halt : log.halt = none
  drain : log.drain = ⟨0, none⟩

/-- Neither the supervisor's failure nor the process was published. -/
def Unspawned (accepted : List WorkerObservation) : Prop :=
  ∀ o ∈ accepted, isSupervisorFailed o = false ∧ ∀ identity, o ≠ .spawned identity

theorem Unspawned.final {result : WorkerResult} (unspawned : Unspawned log.accepted)
    (owned : log.launch ≠ none → Owned spec log result) : Final spec log result := by
  refine ⟨owned, ?_, ?_⟩
  · intro o member failed
    rw [(unspawned o member).1] at failed
    cases failed
  · intro identity member
    exact absurd rfl ((unspawned _ member).2 identity)

structure Abandoned (cause : Cause) (log : Log) : Prop where
  unspawned : Unspawned log.accepted
  mayReport : log.refused = [] → MayReport log.accepted
  exits : log.exits = []
  faults : log.faults = []
  cause : log.cause = some cause

theorem Unspawned.grows (unspawned : Unspawned log.accepted) (grows : Grows log log') :
    Unspawned log'.accepted := by
  rcases grows.accepted with ⟨extra, split, stops⟩
  rw [split]
  intro o member
  rcases List.mem_append.mp member with before | after
  · exact unspawned o before
  · have stop := stops o after
    refine ⟨(isOpen_iff.mp (isOpen_of_isStop stop)).2.2, ?_⟩
    intro identity same
    rw [same] at stop
    cases stop

theorem TornDown.reports {faults : List String} (tornDown : TornDown log faults log')
    (before : log.faults = []) : List.Forall₂ Reports faults log'.teardownFaults := by
  rcases tornDown.torn.faults with ⟨new, split, all, reports⟩
  rw [before, List.nil_append] at split
  rw [Log.teardownFaults, split, List.filter_eq_self.mpr all]
  exact reports

theorem Abandoned.mentions {cause : Cause} {faults : List String} (abandoned : Abandoned cause log)
    (tornDown : TornDown log faults log') (said : String) :
    Mentions (causeTexts log' ++ log'.teardownFaults)
      (said ++ cause.text ++ "; " ++ joined faults) := by
  rw [causeTexts, tornDown.torn.cause, abandoned.cause]
  refine ⟨said, "; " ++ joined faults, ?_, ?_⟩
  · simp only [String.append_assoc]
  · exact (mentions_joined (tornDown.reports abandoned.faults)).after _

theorem TornDown.nil_iff {faults : List String} (tornDown : TornDown log faults log')
    (before : log.faults = []) : faults = [] ↔ log'.teardownFaults = [] := by
  rw [← List.length_eq_zero_iff, (tornDown.reports before).length_eq, List.length_eq_zero_iff]

theorem Abandoned.owned {cause : Cause} {faults : List String} {result : WorkerResult}
    (abandoned : Abandoned cause log) (tornDown : TornDown log faults log')
    (faulty : faults ≠ [] → ∃ said,
      result = .cleanupFailure (said ++ cause.text ++ "; " ++ joined faults))
    (fine : faults = [] → result.isFailure = true ∧
      (¬ Slipped spec log' → log'.refused ≠ [] →
        ∃ m, result = .observationFailure m ∧ Mentions (causeTexts log') m) ∧
      (log'.refused = [] → OwnOutcome log' result) ∧
      (Slipped spec log' → ∃ m, result = .failedToStart m)) :
    Owned spec log' result := by
  have nil_iff := tornDown.nil_iff abandoned.faults
  constructor
  · intro heeded
    constructor
    · intro some
      rcases faulty fun none => some (nil_iff.mp none) with ⟨said, same⟩
      exact ⟨_, same, abandoned.mentions tornDown said⟩
    · intro none lost
      exact (fine (nil_iff.mpr none)).2.1 heeded lost
    · intro none alive
      exact (fine (nil_iff.mpr none)).2.2.1 alive
  · intro slipped
    exact (fine (nil_iff.mpr slipped.2.1)).2.2.2 slipped
  · intro none
    exact tornDown.reaped (nil_iff.mpr none)
  · intro success
    by_cases none : faults = []
    · rw [(fine none).1] at success
      cases success
    · rcases faulty none with ⟨said, same⟩
      rw [same] at success
      cases success

theorem abandonResult_nil : abandonResult [] = .ok () := rfl

theorem abandonResult_ne_nil {faults : List String} (some : faults ≠ []) :
    abandonResult faults = .error (joined faults) := by
  rw [abandonResult, if_neg (by simpa using some)]

theorem obeys_abandonLostSink (turns : Nat) {why : String} (abandoned : Abandoned (.sink why) log)
    (lost : log.refused = [why]) (admitted : ∀ attestation evidence,
      log.attestation = some attestation → log.launch = some evidence →
        evidence.satisfies spec.boundaryRequirement attestation = true) :
    (abandonLostSink turns (publisherOf spec log)).Obeys (lawful spec) log
      fun result log' => Final spec log' result := by
  have error : (publisherOf spec log).error = why := by
    rw [publisherOf, lost]
    rfl
  apply obeys_bind
  apply obeys_mono (obeys_abandonAndVerify turns abandoned.mayReport abandoned.exits)
  intro left log' facts
  rcases left with ⟨cleaned, pubr⟩
  rcases facts with ⟨faults, tornDown, same⟩
  have grows := tornDown.torn.grows
  have kept := grows.refused (by rw [lost]; exact List.cons_ne_nil _ _)
  have unspawned := abandoned.unspawned.grows grows
  have heeded : ¬ Slipped spec log' := by
    intro slipped
    rcases slipped.1 with ⟨attestation, evidence, attested, launched, fails⟩
    rw [grows.attestation] at attested
    rw [grows.launch] at launched
    rw [admitted attestation evidence attested launched] at fails
    cases fails
  by_cases none : faults = []
  · rw [none, abandonResult_nil] at same
    cases same
    rw [error]
    apply unspawned.final fun _ => abandoned.owned tornDown (absurd none) fun _ => ⟨rfl, ?_, ?_, ?_⟩
    · intro _ _
      refine ⟨why, rfl, ?_⟩
      rw [causeTexts, tornDown.torn.cause, abandoned.cause]
      exact mentions_self why
    · intro alive
      rw [kept, lost] at alive
      cases alive
    · exact fun slipped => absurd slipped heeded
  · rw [abandonResult_ne_nil none] at same
    cases same
    rw [error]
    exact unspawned.final fun _ =>
      abandoned.owned tornDown (fun _ => ⟨"primary sink fault: ", rfl⟩) fun fine => absurd fine none

theorem obeys_abandonEvidence (turns : Nat) {attestation : BoundaryAttestation}
    {evidence : BoundaryEvidence} {message : String}
    (abandoned : Abandoned (.evidence message) log) (attested : log.attestation = some attestation)
    (launched : log.launch = some evidence) (state : log.state = .starting)
    (fails : evidence.satisfies spec.boundaryRequirement attestation = false) :
    (abandonAndVerify turns (publisherOf spec log) >>= fun left => match left with
      | (.error cleanup, _) => pure (.cleanupFailure (message ++ "; " ++ cleanup))
      | (.ok _, _) => failToStart .starting message).Obeys (lawful spec) log
        fun result log' => Final spec log' result := by
  apply obeys_bind
  apply obeys_mono (obeys_abandonAndVerify turns abandoned.mayReport abandoned.exits)
  intro left log' facts
  rcases left with ⟨cleaned, pubr⟩
  rcases facts with ⟨faults, tornDown, same⟩
  have grows := tornDown.torn.grows
  have unspawned := abandoned.unspawned.grows grows
  by_cases none : faults = []
  · rw [none, abandonResult_nil] at same
    cases same
    apply obeys_bind
    apply obeys_advance (grows.state.trans state) rfl
    have owned : Owned spec log' (.failedToStart message) := by
      apply abandoned.owned tornDown (absurd none)
      intro _
      refine ⟨rfl, ?_, ?_, fun _ => ⟨message, rfl⟩⟩
      · intro heeded lost
        refine absurd ⟨⟨attestation, evidence, ?_, ?_, fails⟩, ?_, lost⟩ heeded
        · rw [grows.attestation, attested]
        · rw [grows.launch, launched]
        · exact (tornDown.nil_iff abandoned.faults).mp none
      · intro _
        rw [OwnOutcome, tornDown.torn.cause, abandoned.cause]
    exact Unspawned.final unspawned fun _ => owned.withState .failedToStart
  · rw [abandonResult_ne_nil none] at same
    cases same
    apply unspawned.final fun _ => abandoned.owned tornDown ?_ fun fine => absurd fine none
    intro _
    refine ⟨"", ?_⟩
    rw [String.empty_append]
    rfl

theorem Fresh.unspawned {accepted : List WorkerObservation} (fresh : Fresh accepted log)
    (none : Unspawned accepted) : Unspawned log.accepted := by
  rw [fresh.accepted]
  exact none

theorem obeys_emit_fresh {α : Type} {accepted : List WorkerObservation} {o : WorkerObservation}
    (fresh : Fresh accepted log) (unspawned : Unspawned accepted) (follows : Follows accepted o)
    (other : ∀ c, o ≠ .outputChunk c) (early : o ≠ .cleanupCompleted)
    {f : Publisher → Supervised α} {post : α → Log → Prop}
    (later : ∀ log', Fresh (accepted ++ [o]) log' → log'.state = log.state →
      log'.attestation = log.attestation →
        (f (publisherOf spec log')).Obeys (lawful spec) log' post)
    (lost : ∀ log', log'.refused ≠ [] → log'.launch = none → log'.accepted = accepted →
      (f (publisherOf spec log')).Obeys (lawful spec) log' post) :
    (emit (publisherOf spec log) o >>= f).Obeys (lawful spec) log post := by
  apply obeys_bind
  apply obeys_emit
  · intro alive
    refine ⟨alive, fun o member => ?_, fresh.accepted ▸ follows, ?_, fun same => absurd same early⟩
    · exact (fresh.unspawned unspawned o member).1
    · exact fun c same => absurd same (other c)
  · intro log' emitted
    cases emitted with
    | silent gone => exact absurd fresh.refused gone
    | accepted fits =>
        refine later _ ⟨fresh.launch, ?_, fresh.refused, fresh.exits, fresh.faults, fresh.cause,
          fresh.tearing, fresh.received, fresh.closed, fresh.halt, fresh.drain⟩ rfl rfl
        rw [Log.accept, fresh.accepted]
    | refused fits why =>
        apply lost _ _ _ ((refuse_accepted o why).trans fresh.accepted)
        · rw [refuse_refused]
          simp
        · rw [Log.refuse, Log.blame]
          split
          · split <;> exact fresh.launch
          · exact fresh.launch

theorem final_fresh {accepted : List WorkerObservation} {result : WorkerResult}
    (launch : log.launch = none) (same : log.accepted = accepted) (unspawned : Unspawned accepted) :
    Final spec log result :=
  Unspawned.final (same ▸ unspawned) fun owned => absurd launch owned

theorem obeys_failToStart {accepted : List WorkerObservation} (message : String)
    (launch : log.launch = none) (same : log.accepted = accepted) (unspawned : Unspawned accepted)
    (state : log.state = .starting) :
    (failToStart .starting message).Obeys (lawful spec) log
      fun result log' => Final spec log' result := by
  apply obeys_bind
  apply obeys_advance state rfl
  exact final_fresh launch same unspawned

theorem obeys_cancelledAtStart {accepted : List WorkerObservation} (fresh : Fresh accepted log)
    (unspawned : Unspawned accepted) (follows : Follows accepted .cancellationRequested)
    (state : log.state = .starting) :
    (cancelledAtStart (publisherOf spec log) .starting).Obeys (lawful spec) log
      fun result log' => Final spec log' result := by
  apply obeys_emit_fresh fresh unspawned follows nofun nofun
  · intro log' fresh' state' _
    have alive : (publisherOf spec log').alive = true := publisherOf_alive.mpr fresh'.refused
    rw [alive]
    apply obeys_bind
    apply obeys_tryAdvance (state'.trans state) rfl
    apply obeys_bind
    apply obeys_tryAdvance rfl rfl
    refine final_fresh fresh'.launch fresh'.accepted ?_
    intro o member
    rcases List.mem_append.mp member with before | last
    · exact unspawned o before
    · rw [List.mem_singleton.mp last]
      exact ⟨rfl, nofun⟩
  · intro log' lost launch same
    have dead : (publisherOf spec log').alive = false :=
      Bool.eq_false_iff.mpr fun alive => lost (publisherOf_alive.mp alive)
    rw [dead]
    exact final_fresh launch same unspawned

/-- A run that owns a process nobody was told of. -/
structure Held (spec : WorkerSpec) (attestation : BoundaryAttestation) (evidence : BoundaryEvidence)
    (cause : Option Cause) (log : Log) : Prop where
  attestation : log.attestation = some attestation
  launch : log.launch = some evidence
  exits : log.exits = []
  faults : log.faults = []
  cause : log.cause = cause
  tearing : log.tearing = false
  received : log.received = []
  closed : log.closed = false
  halt : log.halt = none
  drain : log.drain = ⟨0, none⟩

theorem Held.accept {attestation : BoundaryAttestation} {evidence : BoundaryEvidence}
    {cause : Option Cause} (held : Held spec attestation evidence cause log)
    (o : WorkerObservation) : Held spec attestation evidence cause (log.accept o) :=
  ⟨held.attestation, held.launch, held.exits, held.faults, held.cause, held.tearing,
    held.received, held.closed, held.halt, held.drain⟩

theorem Held.withState {attestation : BoundaryAttestation} {evidence : BoundaryEvidence}
    {cause : Option Cause} (held : Held spec attestation evidence cause log)
    (state : WorkerState) : Held spec attestation evidence cause { log with state := state } :=
  ⟨held.attestation, held.launch, held.exits, held.faults, held.cause, held.tearing,
    held.received, held.closed, held.halt, held.drain⟩

theorem Held.lost {attestation : BoundaryAttestation} {evidence : BoundaryEvidence}
    (held : Held spec attestation evidence none log) {o : WorkerObservation} (why : String)
    (ends : Log.endsRun o = true) (alive : log.refused = [])
    (unspawned : Unspawned log.accepted) :
    Abandoned (.sink why) (log.refuse o why) ∧ (log.refuse o why).refused = [why] ∧
      (log.refuse o why).attestation = some attestation ∧
      (log.refuse o why).launch = some evidence := by
  have same : log.refuse o why =
      { log with refused := [why], cause := some (.sink why) } := by
    simp only [Log.refuse, ends, if_true, Log.blame, held.tearing, Bool.false_eq_true, if_false,
      held.cause, alive]
    rfl
  rw [same]
  exact ⟨⟨unspawned, fun alive => (by cases alive), held.exits, held.faults, rfl⟩, rfl,
    held.attestation, held.launch⟩

theorem launched_satisfied {attestation : BoundaryAttestation} {evidence : BoundaryEvidence}
    (attested : log.attestation = some attestation)
    (satisfied : evidence.satisfies spec.boundaryRequirement attestation = true) :
    log.launched spec evidence = { log with launch := some evidence } := by
  simp only [Log.launched, attested, satisfied, if_true]

theorem launched_unsatisfied {attestation : BoundaryAttestation} {evidence : BoundaryEvidence}
    (attested : log.attestation = some attestation) (cause : log.cause = none)
    (tearing : log.tearing = false)
    (fails : evidence.satisfies spec.boundaryRequirement attestation = false) :
    log.launched spec evidence =
      { log with
        launch := some evidence
        cause := some (.evidence (evidenceMessage spec attestation evidence)) } := by
  simp only [Log.launched, attested, fails, Bool.false_eq_true, if_false, Log.blame, tearing, cause]
  rfl

theorem obeys_emit_held {attestation : BoundaryAttestation} {evidence : BoundaryEvidence}
    (turns : Nat) (held : Held spec attestation evidence none log) {o : WorkerObservation}
    (ends : Log.endsRun o = true) (alive : log.refused = []) (unspawned : Unspawned log.accepted)
    (follows : Follows log.accepted o) (other : ∀ c, o ≠ .outputChunk c)
    (early : o ≠ .cleanupCompleted)
    (satisfied : evidence.satisfies spec.boundaryRequirement attestation = true)
    {f : Publisher → Supervised WorkerResult}
    (later : ∀ log', Held spec attestation evidence none log' → log'.refused = [] →
      log'.accepted = log.accepted ++ [o] → log'.state = log.state →
        (f (publisherOf spec log')).Obeys (lawful spec) log'
          fun result log' => Final spec log' result) :
    (emit (publisherOf spec log) o >>= fun pubr =>
      if !pubr.alive then abandonLostSink turns pubr else f pubr).Obeys (lawful spec) log
        fun result log' => Final spec log' result := by
  apply obeys_bind
  apply obeys_emit
  · intro _
    exact ⟨alive, fun o member => (unspawned o member).1, follows,
      fun c same => absurd same (other c), fun same => absurd same early⟩
  · intro log' emitted
    cases emitted with
    | silent gone => exact absurd alive gone
    | accepted fits =>
        have still : (publisherOf spec (log.accept o)).alive = true := publisherOf_alive.mpr alive
        rw [still]
        exact later _ (held.accept o) alive rfl rfl
    | refused fits why =>
        rcases held.lost why ends alive unspawned with ⟨abandoned, lost, attested, launched⟩
        rw [publisherOf_refuse_alive]
        apply obeys_abandonLostSink turns abandoned lost
        intro attestation' evidence' attested' launched'
        cases attested.symm.trans attested'
        cases launched.symm.trans launched'
        exact satisfied

theorem Held.ongoing {attestation : BoundaryAttestation} {evidence : BoundaryEvidence}
    {identity : ProcessIdentity} (held : Held spec attestation evidence none log)
    (accepted : log.accepted = [.boundaryAttested attestation, .spawnRequested,
      .launchEvidence evidence, .spawned identity])
    (alive : log.refused = []) (state : log.state = .running)
    (required : spec.boundaryRequirement.isSatisfiedBy attestation = true)
    (satisfied : evidence.satisfies spec.boundaryRequirement attestation = true) :
    Ongoing spec [] log := by
  refine ⟨⟨⟨attestation, evidence, identity, [], accepted⟩, ?_, ⟨attestation, evidence,
    held.attestation, held.launch, required, satisfied⟩⟩, alive, ?_, held.exits, held.faults,
    held.cause, held.tearing, ?_, held.halt, held.drain, state⟩
  · rw [accepted]
    intro o member
    fin_cases member <;> rfl
  · rw [held.received, accepted]
    rfl
  · rw [NoReadError, held.received]
    exact fun _ => List.not_mem_nil

theorem obeys_announce (turns : Nat) {attestation : BoundaryAttestation}
    {evidence : BoundaryEvidence} (identity : ProcessIdentity)
    (held : Held spec attestation evidence none log)
    (accepted : log.accepted = [.boundaryAttested attestation, .spawnRequested])
    (alive : log.refused = []) (state : log.state = .starting)
    (required : spec.boundaryRequirement.isSatisfiedBy attestation = true)
    (satisfied : evidence.satisfies spec.boundaryRequirement attestation = true) :
    (emit (publisherOf spec log) (.launchEvidence evidence) >>= fun pubr =>
      if !pubr.alive then abandonLostSink turns pubr
      else advance .starting .running >>= fun advanced => match advanced with
        | .error e => abandonAndVerify turns pubr >>= fun _ => pure (.cleanupFailure e)
        | .ok state => emit pubr (.spawned identity) >>= fun pubr =>
            if !pubr.alive then abandonLostSink turns pubr
            else manage turns spec pubr identity state).Obeys (lawful spec) log
              fun result log' => Final spec log' result := by
  have unspawned : Unspawned log.accepted := by
    rw [accepted]
    intro o member
    fin_cases member <;> exact ⟨rfl, nofun⟩
  refine obeys_emit_held (o := .launchEvidence evidence) turns held rfl alive unspawned
    ⟨attestation, accepted⟩ nofun nofun satisfied ?_
  intro log₁ held₁ alive₁ accepted₁ state₁
  rw [accepted] at accepted₁
  have unspawned₁ : Unspawned log₁.accepted := by
    rw [accepted₁]
    intro o member
    fin_cases member <;> exact ⟨rfl, nofun⟩
  apply obeys_bind
  apply obeys_advance (state₁.trans state) rfl
  refine obeys_emit_held (o := .spawned identity) turns
    (held₁.withState .running) rfl alive₁ unspawned₁ ⟨attestation, evidence, accepted₁⟩ nofun nofun
    satisfied ?_
  intro log₂ held₂ alive₂ accepted₂ state₂
  have announced : log₂.accepted = [.boundaryAttested attestation, .spawnRequested,
      .launchEvidence evidence, .spawned identity] := by
    rw [accepted₂]
    change log₁.accepted ++ _ = _
    rw [accepted₁]
    rfl
  have ongoing := held₂.ongoing announced alive₂ state₂ required satisfied
  apply obeys_mono (obeys_manage turns identity ongoing (by rw [announced]; rfl) held₂.closed)
  intro result log' verdict
  exact verdict.final

theorem obeys_runOwned (turns : Nat) {attestation : BoundaryAttestation}
    {evidence : BoundaryEvidence}
    (fresh : Fresh [.boundaryAttested attestation, .spawnRequested] log)
    (attested : log.attestation = some attestation) (state : log.state = .starting)
    (required : spec.boundaryRequirement.isSatisfiedBy attestation = true) :
    (runOwned turns spec attestation evidence (publisherOf spec log) .starting).Obeys (lawful spec)
      (log.launched spec evidence) fun result log' => Final spec log' result := by
  apply obeys_ask (c := .identity) trivial
  intro identity
  change Obeys _ _ (log.launched spec evidence) _
  cases satisfies : evidence.satisfies spec.boundaryRequirement attestation with
  | false =>
      have unspawned : Unspawned log.accepted := by
        rw [fresh.accepted]
        intro o member
        fin_cases member <;> exact ⟨rfl, nofun⟩
      have mayReport : MayReport log.accepted :=
        ⟨fun o member => (unspawned o member).1, .inl ⟨attestation, fresh.accepted⟩⟩
      rw [launched_unsatisfied attested fresh.cause fresh.tearing satisfies]
      exact @obeys_abandonEvidence spec { log with
          launch := some evidence
          cause := some (.evidence (evidenceMessage spec attestation evidence)) } turns _ _ _
        ⟨unspawned, fun _ => mayReport, fresh.exits, fresh.faults, rfl⟩ attested rfl state satisfies
  | true =>
      rw [launched_satisfied attested satisfies]
      have held : Held spec attestation evidence none { log with launch := some evidence } :=
        ⟨attested, rfl, fresh.exits, fresh.faults, fresh.cause, fresh.tearing, fresh.received,
          fresh.closed, fresh.halt, fresh.drain⟩
      exact obeys_announce turns identity held fresh.accepted fresh.refused state required satisfies

theorem unspawned_nil : Unspawned [] := nofun

theorem unspawned_attested (attestation : BoundaryAttestation) :
    Unspawned [.boundaryAttested attestation] := by
  intro o member
  fin_cases member
  exact ⟨rfl, nofun⟩

theorem unspawned_requested (attestation : BoundaryAttestation) :
    Unspawned [.boundaryAttested attestation, .spawnRequested] := by
  intro o member
  fin_cases member <;> exact ⟨rfl, nofun⟩

theorem alive_of_fresh {accepted : List WorkerObservation} (fresh : Fresh accepted log) :
    (publisherOf spec log).alive = true := publisherOf_alive.mpr fresh.refused

theorem dead_of_lost (lost : log.refused ≠ []) : (publisherOf spec log).alive = false :=
  Bool.eq_false_iff.mpr fun alive => lost (publisherOf_alive.mp alive)

theorem obeys_launch (turns : Nat) {attestation : BoundaryAttestation}
    (fresh : Fresh [.boundaryAttested attestation, .spawnRequested] log)
    (attested : log.attestation = some attestation) (state : log.state = .starting)
    (required : spec.boundaryRequirement.isSatisfiedBy attestation = true) :
    (ask (.spawn (spawnSpec spec)) >>= fun spawned => match spawned with
      | none => cancelledAtStart (publisherOf spec log) .starting
      | some (.error err) => failToStart .starting err.text
      | some (.ok evidence) =>
          runOwned turns spec attestation evidence (publisherOf spec log) .starting).Obeys
        (lawful spec) log fun result log' => Final spec log' result := by
  apply obeys_ask (c := .spawn (spawnSpec spec)) trivial
  intro spawned
  match spawned with
  | none =>
      exact obeys_cancelledAtStart fresh (unspawned_requested _)
        (.inl ⟨attestation, .inr rfl⟩) state
  | some (.error err) =>
      exact obeys_failToStart _ fresh.launch fresh.accepted (unspawned_requested _) state
  | some (.ok evidence) => exact obeys_runOwned turns fresh attested state required

theorem obeys_runInner (turns : Nat) (spec : WorkerSpec) :
    (runInner turns spec).Obeys (lawful spec) .start fun result log => Final spec log result := by
  apply obeys_ask (c := .attestation) trivial
  intro attestation
  have fresh : Fresh [] (Log.start.note spec .attestation attestation) :=
    ⟨rfl, rfl, rfl, rfl, rfl, rfl, rfl, rfl, rfl, rfl, rfl⟩
  refine obeys_emit_fresh (o := .boundaryAttested attestation) fresh unspawned_nil rfl nofun nofun ?_ ?_
  · intro log₁ fresh₁ state₁ attested₁
    rw [alive_of_fresh fresh₁]
    apply obeys_bind
    apply obeys_advance state₁ rfl
    dsimp only
    split
    · exact obeys_failToStart _ fresh₁.launch fresh₁.accepted (unspawned_attested _) rfl
    · rename_i required
      rw [Bool.not_eq_true', Bool.not_eq_false] at required
      split
      · exact obeys_failToStart _ fresh₁.launch fresh₁.accepted (unspawned_attested _) rfl
      · apply obeys_ask (c := .cancelRequested) trivial
        intro asked
        have fresh₂ : Fresh [.boundaryAttested attestation] { log₁ with state := .starting } :=
          ⟨fresh₁.launch, fresh₁.accepted, fresh₁.refused, fresh₁.exits, fresh₁.faults,
            fresh₁.cause, fresh₁.tearing, fresh₁.received, fresh₁.closed, fresh₁.halt, fresh₁.drain⟩
        cases asked with
        | true =>
            exact obeys_cancelledAtStart fresh₂ (unspawned_attested _)
              (.inl ⟨attestation, .inl rfl⟩) rfl
        | false =>
            refine obeys_emit_fresh (o := .spawnRequested) fresh₂
              (unspawned_attested _) ⟨attestation, rfl⟩ nofun nofun ?_ ?_
            · intro log₃ fresh₃ state₃ attested₃
              rw [alive_of_fresh fresh₃]
              exact obeys_launch turns fresh₃ (attested₃.trans attested₁) state₃ required
            · intro log₃ lost launch accepted
              rw [dead_of_lost lost]
              exact final_fresh launch accepted (unspawned_attested _)
  · intro log₁ lost launch accepted
    rw [dead_of_lost lost]
    exact final_fresh launch accepted unspawned_nil

end O7Formal.Worker
