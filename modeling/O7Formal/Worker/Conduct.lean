import O7Formal.Worker.Teardown

/-! The phases of a managed run: the select loop, the cancellation, the teardown, and what each of
them leaves in the log. -/

namespace O7Formal.Worker

open Program

variable {spec : WorkerSpec} {log log' : Log}

def NoReadError (log : Log) : Prop := ∀ m, ReaderMessage.readError m ∉ log.received

def isOpen (o : WorkerObservation) : Bool :=
  !isExited o && !isCleanupCompleted o && !isSupervisorFailed o

/-- A process was admitted and announced, and nothing terminal was published. -/
structure Managed (spec : WorkerSpec) (log : Log) : Prop where
  announced : Announced log.accepted
  ongoing : ∀ o ∈ log.accepted, isOpen o = true
  admitted : ∃ attestation evidence, log.attestation = some attestation ∧
    log.launch = some evidence ∧ spec.boundaryRequirement.isSatisfiedBy attestation = true ∧
    evidence.satisfies spec.boundaryRequirement attestation = true

def InStep (log : Log) : Prop :=
  log.refused = [] → chunksSent log.received = chunksOf log.accepted

theorem Announced.append {before : List WorkerObservation} (announced : Announced before)
    (after : List WorkerObservation) : Announced (before ++ after) := by
  rcases announced with ⟨a, e, i, later, split⟩
  exact ⟨a, e, i, later ++ after, by rw [split]; rfl⟩

theorem isOpen_iff {o : WorkerObservation} : isOpen o = true ↔
    isExited o = false ∧ isCleanupCompleted o = false ∧ isSupervisorFailed o = false := by
  simp [isOpen, and_assoc]

theorem isOpen_of_isStop {o : WorkerObservation} (stop : isStop o = true) : isOpen o = true := by
  cases o <;> first | rfl | cases stop

theorem chunksOf_append (xs ys : List WorkerObservation) :
    chunksOf (xs ++ ys) = chunksOf xs ++ chunksOf ys := List.filterMap_append

theorem heartbeatsOf_append (xs ys : List WorkerObservation) :
    heartbeatsOf (xs ++ ys) = heartbeatsOf xs ++ heartbeatsOf ys := List.filterMap_append

theorem chunksOf_isStop {extra : List WorkerObservation} (stops : ∀ o ∈ extra, isStop o = true) :
    chunksOf extra = [] := by
  apply List.filterMap_eq_nil_iff.mpr
  intro o member
  have stop := stops o member
  cases o <;> first | rfl | cases stop

theorem Managed.extend (managed : Managed spec log)
    (attestation : log'.attestation = log.attestation) (launch : log'.launch = log.launch) {extra : List WorkerObservation}
    (accepted : log'.accepted = log.accepted ++ extra) (ongoing : ∀ o ∈ extra, isOpen o = true) :
    Managed spec log' := by
  constructor
  · rw [accepted]
    exact managed.announced.append extra
  · rw [accepted]
    intro o member
    rcases List.mem_append.mp member with before | after
    · exact managed.ongoing o before
    · exact ongoing o after
  · rw [attestation, launch]
    exact managed.admitted

theorem Managed.grows (managed : Managed spec log) (grows : Grows log log') :
    Managed spec log' := by
  rcases grows.accepted with ⟨extra, split, stops⟩
  exact managed.extend grows.attestation grows.launch split
    fun o member => isOpen_of_isStop (stops o member)

theorem InStep.grows (inStep : InStep log) (grows : Grows log log') : InStep log' := by
  intro alive
  rcases grows.accepted with ⟨extra, split, stops⟩
  rw [grows.received, split, chunksOf_append, chunksOf_isStop stops, List.append_nil]
  exact inStep (grows.alive alive)

theorem Managed.unfinished (managed : Managed spec log) :
    ∀ o ∈ log.accepted, isSupervisorFailed o = false :=
  fun o member => (isOpen_iff.mp (managed.ongoing o member)).2.2

theorem Managed.mayReport (managed : Managed spec log) : MayReport log.accepted :=
  ⟨managed.unfinished, .inr managed.announced⟩

theorem Managed.fits_stop (managed : Managed spec log) {o : WorkerObservation}
    (stop : isStop o = true) (alive : log.refused = []) : Fits log o := by
  have follows : Follows log.accepted o := by
    cases o <;> first
      | exact managed.announced
      | exact .inr managed.announced
      | cases stop
  refine ⟨alive, managed.unfinished, follows, ?_, ?_⟩ <;> intros <;> subst_vars <;> cases stop

theorem obeys_tryAdvance {state next : WorkerState} {post : WorkerState → Log → Prop}
    (held : log.state = state) (allowed : state.canTransitionTo next = true)
    (later : post next { log with state := next }) :
    (tryAdvance state next).Obeys (lawful spec) log post := by
  apply obeys_bind
  apply obeys_ask (c := .transition state next) ⟨held, allowed⟩
  intro r
  rw [if_pos allowed, Log.note, if_pos allowed]
  exact later

theorem obeys_advance {state next : WorkerState} {post : Except String WorkerState → Log → Prop}
    (held : log.state = state) (allowed : state.canTransitionTo next = true)
    (later : post (.ok next) { log with state := next }) :
    (advance state next).Obeys (lawful spec) log post := by
  apply obeys_ask (c := .transition state next) ⟨held, allowed⟩
  intro r
  rw [if_pos allowed, Log.note, if_pos allowed]
  exact later

theorem blame_state (cause : Cause) : (log.blame cause).state = log.state := by
  rw [Log.blame]
  split <;> rfl

def Termination.cause : Termination → Option Cause
  | .natural _ | .cancelled _ _ => none
  | .sinkFailed m _ => some (.sink m)
  | .outputFailed m _ => some (.output m)
  | .boundaryFailed m _ => some (.boundary m)

def Termination.halt : Termination → Option Bool
  | .cancelled forceful _ => some forceful
  | _ => none

def Escalated (faults : List Fault) : Prop :=
  ∃ f, faults = [f] ∧ f.teardown = false ∧ f.timedOut = true ∧
    (f.step = .gracefulStop ∨ f.step = .gracefulWait)

structure Halting (spec : WorkerSpec) (exits : List BoundaryExit) (log : Log) : Prop where
  managed : Managed spec log
  inStep : InStep log
  exits : log.exits = exits
  cause : log.cause = none
  tearing : log.tearing = false
  faults : log.faults = [] ∨ Escalated log.faults
  reads : NoReadError log
  drain : log.drain = ⟨0, none⟩
  state : log.state = .cancelling

structure Terminated (spec : WorkerSpec) (t : Termination) (log : Log) : Prop where
  managed : Managed spec log
  inStep : InStep log
  exits : log.exits = (reportedExit t).toList
  cause : log.cause = t.cause
  tearing : log.tearing = false
  before : ∀ f ∈ log.faults, f.teardown = false
  calm : t.cause = none →
    log.faults = [] ∨ Escalated log.faults ∧ baseResult t = .cancelledForcefully
  exited : t.cause = none → (reportedExit t).isSome = true
  halt : t.cause = none → log.halt = t.halt
  drain : log.drain = ⟨0, none⟩
  reads : (∀ m r, t ≠ .outputFailed m r) → NoReadError log
  sink : ∀ m r, t = .sinkFailed m r → log.refused = [m]
  state : log.state = .running ∨ log.state = .cancelling

theorem Escalated.before {faults : List Fault} (escalated : Escalated faults) :
    ∀ f ∈ faults, f.teardown = false := by
  rcases escalated with ⟨f, rfl, outside, _⟩
  simpa using outside

theorem Halting.before {exits : List BoundaryExit} (halting : Halting spec exits log) :
    ∀ f ∈ log.faults, f.teardown = false := by
  rcases halting.faults with none | escalated
  · rw [none]
    nofun
  · exact escalated.before

theorem Halting.emitted {exits : List BoundaryExit} {o : WorkerObservation}
    (halting : Halting spec exits log) (emitted : Emitted log o log') (stop : isStop o = true) :
    Halting spec exits log' := by
  have grows := emitted.grows stop
  have managed := halting.managed.grows grows
  have inStep := halting.inStep.grows grows
  have reads : NoReadError log' := by
    rw [NoReadError, grows.received]
    exact halting.reads
  have drain := grows.drain.trans halting.drain
  have state := grows.state.trans halting.state
  cases emitted with
  | silent lost => exact halting
  | accepted fits =>
      exact ⟨managed, inStep, halting.exits, halting.cause, halting.tearing, halting.faults, reads,
        drain, state⟩
  | refused fits why =>
      have quiet : Log.endsRun o = false := by cases o <;> first | rfl | cases stop
      refine ⟨managed, inStep, ?_, ?_, ?_, ?_, reads, drain, state⟩ <;>
        simp only [Log.refuse, quiet, Bool.false_eq_true, if_false]
      · exact halting.exits
      · exact halting.cause
      · exact halting.tearing
      · exact halting.faults

theorem Halting.fail {exit : Option BoundaryExit} (halting : Halting spec exit.toList log)
    (step : Step) (timedOut : Bool) (text : String) :
    Terminated spec (.boundaryFailed text exit) (log.fail step timedOut text) := by
  have grows : Grows log (log.fail step timedOut text) := by
    simp only [Log.fail, Log.fault, Log.blame, halting.tearing, Bool.false_eq_true, if_false]
    exact ⟨rfl, rfl, rfl, rfl, rfl, rfl, rfl,
      ⟨[], (List.append_nil _).symm, List.forall_mem_nil _⟩, fun _ => rfl⟩
  refine ⟨halting.managed.grows grows, halting.inStep.grows grows, ?_, ?_, ?_, ?_,
    fun calm => (by cases calm), fun calm => (by cases calm), fun calm => (by cases calm),
    grows.drain.trans halting.drain, ?_, fun _ _ same => (by cases same),
    .inr (grows.state.trans halting.state)⟩
  · simp only [Log.fail, Log.fault, Log.blame, halting.tearing, Bool.false_eq_true, if_false]
    exact halting.exits
  · simp only [Log.fail, Log.fault, Log.blame, halting.tearing, halting.cause]
    rfl
  · simp only [Log.fail, Log.fault, Log.blame, halting.tearing, Bool.false_eq_true, if_false]
  · simp only [Log.fail, Log.fault, Log.blame, halting.tearing, Bool.false_eq_true, if_false]
    intro f member
    rcases List.mem_append.mp member with early | last
    · exact halting.before f early
    · rw [List.mem_singleton.mp last]
  · intro _
    rw [NoReadError, grows.received]
    exact halting.reads

theorem publisherOf_fail (step : Step) (timedOut : Bool) (text : String) :
    publisherOf spec log = publisherOf spec (log.fail step timedOut text) := by
  apply publisherOf_congr
  rw [Log.fail, blame_refused]
  rfl

theorem Halting.exit (halting : Halting spec [] log) (e : BoundaryExit) :
    Halting spec [e] (log.exit e) := by
  refine ⟨⟨halting.managed.announced, halting.managed.ongoing, halting.managed.admitted⟩,
    halting.inStep, ?_, halting.cause, halting.tearing, halting.faults, halting.reads,
    halting.drain, halting.state⟩
  rw [Log.exit, halting.exits]
  rfl

theorem Halting.entered {exits : List BoundaryExit} (halting : Halting spec exits log) :
    Halting spec exits (log.entered .cancelling) :=
  ⟨⟨halting.managed.announced, halting.managed.ongoing, halting.managed.admitted⟩,
    halting.inStep, halting.exits, halting.cause, halting.tearing, halting.faults, halting.reads,
    halting.drain, halting.state⟩

theorem Halting.cancelled {exit : BoundaryExit} (halting : Halting spec [exit] log)
    (forceful : Bool) (halt : log.halt = some forceful) (fine : log.faults = [] ∨ forceful = true) :
    Terminated spec (.cancelled forceful (some exit)) log := by
  refine ⟨halting.managed, halting.inStep, halting.exits, halting.cause, halting.tearing,
    halting.before, ?_, fun _ => rfl, fun _ => halt, halting.drain, fun _ => halting.reads, nofun,
    .inr halting.state⟩
  intro _
  rcases fine with none | forced
  · exact .inl none
  · subst forced
    rcases halting.faults with none | escalated
    · exact .inl none
    · exact .inr ⟨escalated, rfl⟩

structure Stopped (spec : WorkerSpec) (left : Termination × Publisher) (log : Log) : Prop where
  terminated : Terminated spec left.1 log
  publisher : left.2 = publisherOf spec log
  state : log.state = .cancelling

theorem Halting.fails {exit : Option BoundaryExit} (halting : Halting spec exit.toList log)
    (step : Step) (timedOut : Bool) (text : String) :
    Stopped spec (.boundaryFailed text exit, publisherOf spec log) (log.fail step timedOut text) :=
  ⟨halting.fail step timedOut text, publisherOf_fail step timedOut text,
    (blame_state _).trans halting.state⟩

theorem Halting.ends {exit : BoundaryExit} (halting : Halting spec [exit] log) (forceful : Bool)
    (halt : log.halt = some forceful) (fine : log.faults = [] ∨ forceful = true) :
    Stopped spec (.cancelled forceful (some exit), publisherOf spec log) log :=
  ⟨halting.cancelled forceful halt fine, rfl, halting.state⟩

theorem obeys_forceAfterGrace (exit : Option BoundaryExit)
    (halting : Halting spec exit.toList log) :
    (forceAfterGrace (publisherOf spec log) exit).Obeys (lawful spec) log fun left log' =>
      Stopped spec left log' := by
  apply obeys_bind
  apply obeys_emit (halting.managed.fits_stop rfl)
  intro log₁ emitted
  have halting₁ := halting.emitted emitted rfl
  apply obeys_bind
  apply obeys_ask (c := .forceStop .cancelling) trivial
  intro answer
  cases answer with
  | failed err => exact halting₁.fails _ _ _
  | timedOut => exact halting₁.fails _ _ _
  | done u =>
      have forced := halting₁.entered
      cases exit with
      | some exit => exact forced.ends true rfl (.inr rfl)
      | none =>
          apply obeys_bind
          apply obeys_ask (c := .reap .cancelling) forced.exits
          intro answer
          cases answer with
          | failed err => exact forced.fails _ _ _
          | timedOut => exact forced.fails _ _ _
          | done e => exact (forced.entered.exit e).ends true rfl (.inr rfl)

theorem Halting.counted {exits : List BoundaryExit} (halting : Halting spec exits log)
    (xs : List ProcessIdentity) : Halting spec exits (log.counted xs) :=
  ⟨⟨halting.managed.announced, halting.managed.ongoing, halting.managed.admitted⟩,
    halting.inStep, halting.exits, halting.cause, halting.tearing, halting.faults, halting.reads,
    halting.drain, halting.state⟩

theorem obeys_gracefulDrain {exit : BoundaryExit} (turns : Nat)
    (halting : Halting spec [exit] log) (calm : log.faults = [])
    (graceful : log.halt = some false) :
    (gracefulDrain (publisherOf spec log) exit turns).Obeys (lawful spec) log fun left log' =>
      Stopped spec left log' := by
  induction turns generalizing log with
  | zero => exact obeys_goesOn
  | succ turns ih =>
      apply obeys_bind
      apply obeys_ask (c := .members .cancelling) trivial
      intro answer
      cases answer with
      | failed err => exact halting.fails _ _ _
      | timedOut => exact halting.fails _ _ _
      | done xs =>
          have counted := halting.counted xs
          change Obeys _ (if xs.isEmpty = true then _ else _) _ _
          by_cases empty : xs = []
          · rw [if_pos (by simpa using empty)]
            exact counted.ends false graceful (.inl calm)
          · rw [if_neg (by simpa using empty)]
            apply obeys_ask (c := .deadlinePassed .cancelling) trivial
            intro late
            cases late with
            | true => exact obeys_forceAfterGrace (some exit) counted
            | false => exact ih counted calm graceful

theorem Halting.escalate {exits : List BoundaryExit} {step : Step} {text : String}
    (halting : Halting spec exits log) (calm : log.faults = [])
    (graceful : step = .gracefulStop ∨ step = .gracefulWait) :
    Halting spec exits (log.fault step true text) := by
  refine ⟨⟨halting.managed.announced, halting.managed.ongoing, halting.managed.admitted⟩,
    halting.inStep, halting.exits, halting.cause, halting.tearing, .inr ?_, halting.reads,
    halting.drain, halting.state⟩
  exact ⟨⟨step, false, true, text⟩, by rw [Log.fault, calm]; rfl, rfl, rfl, graceful⟩

theorem Emitted.faults {o : WorkerObservation} (emitted : Emitted log o log')
    (stop : isStop o = true) : log'.faults = log.faults := by
  cases emitted with
  | silent lost => rfl
  | accepted fits => rfl
  | refused fits why =>
      have quiet : Log.endsRun o = false := by cases o <;> first | rfl | cases stop
      simp [Log.refuse, quiet]

theorem obeys_runCancellation (turns : Nat) (grace : Duration) (halting : Halting spec [] log)
    (calm : log.faults = []) (graceful : log.halt = some false) :
    (runCancellation turns grace (publisherOf spec log)).Obeys (lawful spec) log fun left log' =>
      Stopped spec left log' := by
  apply obeys_bind
  apply obeys_emit (halting.managed.fits_stop rfl)
  intro log₁ emitted
  have halting₁ := halting.emitted emitted rfl
  have calm₁ := (emitted.faults rfl).trans calm
  have graceful₁ := (emitted.grows rfl).halt.trans graceful
  apply obeys_ask (c := .gracefulStop) trivial
  intro answer
  cases answer with
  | failed err => exact halting₁.fails _ _ _
  | timedOut => exact obeys_forceAfterGrace none (halting₁.escalate calm₁ (.inl rfl))
  | done u =>
      apply obeys_bind
      apply obeys_emit (halting₁.managed.fits_stop rfl)
      intro log₂ emitted₂
      have halting₂ := halting₁.emitted emitted₂ rfl
      have calm₂ := (emitted₂.faults rfl).trans calm₁
      have graceful₂ := (emitted₂.grows rfl).halt.trans graceful₁
      apply obeys_ask (c := .gracefulWait grace) halting₂.exits
      intro answer
      cases answer with
      | failed err => exact halting₂.fails _ _ _
      | timedOut => exact obeys_forceAfterGrace none (halting₂.escalate calm₂ (.inr rfl))
      | done e => exact obeys_gracefulDrain turns (halting₂.exit e) calm₂ graceful₂

/-- A run that nothing has ended yet, with the chunks that were received and not yet published. -/
structure Ongoing (spec : WorkerSpec) (pending : List OutputChunk) (log : Log) : Prop where
  managed : Managed spec log
  alive : log.refused = []
  sync : chunksSent log.received = chunksOf log.accepted ++ pending
  exits : log.exits = []
  faults : log.faults = []
  cause : log.cause = none
  tearing : log.tearing = false
  reads : NoReadError log
  halt : log.halt = none
  drain : log.drain = ⟨0, none⟩
  state : log.state = .running

def Phase.termination : Phase → Option Termination
  | .natural e => some (.natural e)
  | .cancelRequested => none
  | .sinkFailed m => some (.sinkFailed m none)
  | .outputFailed m => some (.outputFailed m none)
  | .boundaryFailed m => some (.boundaryFailed m none)

structure Ended (spec : WorkerSpec) (phase : Phase) (log : Log) : Prop where
  terminated : ∀ t, phase.termination = some t → Terminated spec t log
  cancelled : phase.termination = none → ∃ before, Ongoing spec [] before ∧
    log = before.halted false
  state : log.state = .running

theorem Terminated.ended {phase : Phase} {t : Termination} (terminated : Terminated spec t log)
    (same : phase.termination = some t) (state : log.state = .running) : Ended spec phase log := by
  refine ⟨?_, ?_, state⟩
  · intro t' found
    cases same.symm.trans found
    exact terminated
  · intro none
    rw [none] at same
    cases same

theorem refuse_state (o : WorkerObservation) (why : String) :
    (log.refuse o why).state = log.state := by
  rw [Log.refuse]
  split
  · rw [blame_state]
  · rfl

theorem Ongoing.inStep (ongoing : Ongoing spec [] log) : InStep log := by
  intro _
  rw [ongoing.sync, List.append_nil]

theorem Ongoing.before {pending : List OutputChunk} (ongoing : Ongoing spec pending log) :
    ∀ f ∈ log.faults, f.teardown = false := by
  rw [ongoing.faults]
  nofun

theorem Ongoing.natural (ongoing : Ongoing spec [] log) (e : BoundaryExit) :
    Terminated spec (.natural e) (log.exit e) := by
  refine ⟨⟨ongoing.managed.announced, ongoing.managed.ongoing, ongoing.managed.admitted⟩,
    ongoing.inStep, ?_, ongoing.cause, ongoing.tearing, ongoing.before, fun _ => .inl ongoing.faults,
    fun _ => rfl, fun _ => ongoing.halt, ongoing.drain, fun _ => ongoing.reads, nofun,
    .inl ongoing.state⟩
  rw [Log.exit, ongoing.exits]
  rfl

theorem Ongoing.boundaryFailed (ongoing : Ongoing spec [] log) (text : String) :
    Terminated spec (.boundaryFailed text none) (log.fail .wait false text) := by
  simp only [Log.fail, Log.fault, Log.blame, ongoing.tearing, Bool.false_eq_true, if_false,
    ongoing.faults, ongoing.cause]
  exact ⟨⟨ongoing.managed.announced, ongoing.managed.ongoing, ongoing.managed.admitted⟩,
    ongoing.inStep, ongoing.exits, rfl, rfl, by simp, fun calm => (by cases calm),
    fun calm => (by cases calm), fun calm => (by cases calm), ongoing.drain,
    fun _ => ongoing.reads, fun _ _ same => (by cases same), .inl ongoing.state⟩

theorem Ongoing.outputFailed (ongoing : Ongoing spec [] log) (m : String) :
    Terminated spec (.outputFailed m none) (log.receive (some (.readError m))) := by
  simp only [Log.receive, Log.blame, ongoing.tearing, Bool.false_eq_true, if_false, ongoing.cause]
  refine ⟨⟨ongoing.managed.announced, ongoing.managed.ongoing, ongoing.managed.admitted⟩, ?_,
    ongoing.exits, rfl, rfl, ongoing.before, fun calm => (by cases calm), fun calm => (by cases calm),
    fun calm => (by cases calm), ongoing.drain, ?_, fun _ _ same => (by cases same),
    .inl ongoing.state⟩
  · intro _
    rw [chunksSent_append, ongoing.sync, List.append_nil]
    exact List.append_nil _
  · intro other
    exact absurd rfl (other m none)

theorem Ongoing.sinkFailed {pending : List OutputChunk} (ongoing : Ongoing spec pending log)
    {o : WorkerObservation} (ends : Log.endsRun o = true) (why : String) :
    Terminated spec (.sinkFailed why none) (log.refuse o why) := by
  simp only [Log.refuse, ends, if_true, Log.blame, ongoing.tearing, Bool.false_eq_true, if_false,
    ongoing.cause, ongoing.alive]
  refine ⟨⟨ongoing.managed.announced, ongoing.managed.ongoing, ongoing.managed.admitted⟩,
    fun alive => (by cases alive), ongoing.exits, rfl, rfl, ongoing.before,
    fun calm => (by cases calm), fun calm => (by cases calm), fun calm => (by cases calm),
    ongoing.drain, fun _ => ongoing.reads, ?_, .inl ongoing.state⟩
  intro m r same
  cases same
  rfl

theorem Ongoing.received (ongoing : Ongoing spec [] log) (c : OutputChunk) :
    Ongoing spec [c] (log.receive (some (.chunk c))) := by
  refine ⟨⟨ongoing.managed.announced, ongoing.managed.ongoing, ongoing.managed.admitted⟩,
    ongoing.alive, ?_, ongoing.exits, ongoing.faults, ongoing.cause, ongoing.tearing, ?_,
    ongoing.halt, ongoing.drain, ongoing.state⟩
  · rw [Log.receive, chunksSent_append, ongoing.sync, List.append_nil]
    rfl
  · intro m member
    rcases List.mem_append.mp member with before | last
    · exact ongoing.reads m before
    · cases List.mem_singleton.mp last

theorem Ongoing.accepted {pending : List OutputChunk} (ongoing : Ongoing spec pending log)
    {o : WorkerObservation} (isOpen : isOpen o = true) (published : chunksOf [o] = pending) :
    Ongoing spec [] (log.accept o) := by
  refine ⟨ongoing.managed.extend rfl rfl rfl (by simpa using isOpen), ongoing.alive, ?_,
    ongoing.exits, ongoing.faults, ongoing.cause, ongoing.tearing, ongoing.reads, ongoing.halt,
    ongoing.drain, ongoing.state⟩
  rw [Log.accept, chunksOf_append, published, List.append_nil]
  exact ongoing.sync

theorem Ongoing.closed (ongoing : Ongoing spec [] log) : Ongoing spec [] (log.receive none) :=
  ⟨⟨ongoing.managed.announced, ongoing.managed.ongoing, ongoing.managed.admitted⟩, ongoing.alive,
    ongoing.sync, ongoing.exits, ongoing.faults, ongoing.cause, ongoing.tearing, ongoing.reads,
    ongoing.halt, ongoing.drain, ongoing.state⟩

theorem publisherOf_receive (message : Option ReaderMessage) :
    publisherOf spec log = publisherOf spec (log.receive message) := by
  apply publisherOf_congr
  match message with
  | none => rfl
  | some (.chunk c) => rfl
  | some (.readError m) =>
      rw [Log.receive, blame_refused]

theorem publisherOf_refuse_error (o : WorkerObservation) (why : String) (alive : log.refused = []) :
    (publisherOf spec (log.refuse o why)).error = why := by
  rw [publisherOf, refuse_refused, alive]
  rfl

theorem publisherOf_refuse_alive (o : WorkerObservation) (why : String) :
    (publisherOf spec (log.refuse o why)).alive = false := by
  rw [publisherOf, refuse_refused]
  simp

theorem obeys_emit_ongoing {pending : List OutputChunk} (ongoing : Ongoing spec pending log)
    {o : WorkerObservation} (ends : Log.endsRun o = true) (isOpen : isOpen o = true)
    (published : chunksOf [o] = pending) (fits : Fits log o)
    {g : Publisher → Supervised (Phase × Publisher)}
    {post : Phase × Publisher → Log → Prop}
    (next : Ongoing spec [] (log.accept o) →
      (g (publisherOf spec (log.accept o))).Obeys (lawful spec) (log.accept o) post)
    (lost : ∀ why log', Ended spec (.sinkFailed why) log' →
      post (.sinkFailed why, publisherOf spec log') log') :
    (emit (publisherOf spec log) o >>= fun pubr =>
      if pubr.alive = true then g pubr else pure (.sinkFailed pubr.error, pubr)).Obeys
        (lawful spec) log post := by
  apply obeys_bind
  apply obeys_emit fun _ => fits
  intro log' emitted
  cases emitted with
  | silent gone => exact absurd ongoing.alive gone
  | accepted fits =>
      have alive : (publisherOf spec (log.accept o)).alive = true :=
        publisherOf_alive.mpr ongoing.alive
      rw [if_pos alive]
      exact next (ongoing.accepted isOpen published)
  | refused fits why =>
      rw [publisherOf_refuse_alive, publisherOf_refuse_error o why ongoing.alive]
      exact lost why _ ((ongoing.sinkFailed ends why).ended rfl
        ((refuse_state o why).trans ongoing.state))

theorem obeys_selectLoop (identity : ProcessIdentity) (turns : Nat) (sequence : UInt64)
    (outputOpen : Bool) (ongoing : Ongoing spec [] log)
    (counted : sequence = UInt64.ofNat (heartbeatsOf log.accepted).length) :
    (selectLoop spec identity turns (publisherOf spec log) sequence outputOpen).Obeys (lawful spec)
      log fun left log' => Ended spec left.1 log' ∧ left.2 = publisherOf spec log' := by
  induction turns generalizing log sequence outputOpen with
  | zero => exact obeys_goesOn
  | succ turns ih =>
      apply obeys_ask (c := .select outputOpen spec.heartbeat.enabled) ongoing.exits
      intro selected
      cases selected with
      | exit r =>
          cases r with
          | ok e => exact ⟨(ongoing.natural e).ended rfl ongoing.state, rfl⟩
          | error err =>
              exact ⟨(ongoing.boundaryFailed err.text).ended rfl
                ((blame_state _).trans ongoing.state), publisherOf_fail _ _ _⟩
      | cancelled => exact ⟨⟨nofun, fun _ => ⟨log, ongoing, rfl⟩, ongoing.state⟩, rfl⟩
      | heartbeat uptime =>
          dsimp only
          apply obeys_emit_ongoing ongoing rfl rfl rfl
          · exact ⟨ongoing.alive, ongoing.managed.unfinished,
              ⟨ongoing.managed.announced, counted⟩, nofun, nofun⟩
          · intro next
            apply ih _ _ next
            rw [Log.accept, heartbeatsOf_append, List.length_append, counted]
            simp [heartbeatsOf]
          · intro why log' ended
            exact ⟨ended, rfl⟩
      | output message =>
          match message with
          | none => exact ih _ _ ongoing.closed counted
          | some (.readError m) =>
              exact ⟨(ongoing.outputFailed m).ended rfl ((blame_state _).trans ongoing.state),
                publisherOf_receive _⟩
          | some (.chunk c) =>
              have received := ongoing.received c
              dsimp only
              apply obeys_emit_ongoing received rfl rfl rfl
              · refine ⟨ongoing.alive, ongoing.managed.unfinished, ongoing.managed.announced, ?_,
                  nofun⟩
                intro c' same
                cases same
                exact received.sync
              · intro next
                apply ih _ _ next
                rw [Log.accept, heartbeatsOf_append, List.length_append]
                exact counted
              · intro why log' ended
                exact ⟨ended, rfl⟩

end O7Formal.Worker
