import O7Formal.Worker.Conduct

/-! The terminal result of a managed run against its log: which fault it reports, and what a
success means. -/

namespace O7Formal.Worker

open Program

variable {spec : WorkerSpec} {log log' log'' : Log} {t : Termination}

def Mentions : List String → String → Prop
  | [], _ => True
  | text :: texts, message => ∃ before rest, message = before ++ text ++ rest ∧ Mentions texts rest

theorem Mentions.after {texts : List String} {message : String} (mentions : Mentions texts message)
    (said : String) : Mentions texts (said ++ message) := by
  cases texts with
  | nil => trivial
  | cons text texts =>
      rcases mentions with ⟨before, rest, same, later⟩
      refine ⟨said ++ before, rest, ?_, later⟩
      rw [same]
      simp only [String.append_assoc]

theorem Mentions.before {texts : List String} {message : String}
    (mentions : Mentions texts message) (more : String) : Mentions texts (message ++ more) := by
  induction texts generalizing message with
  | nil => trivial
  | cons text texts ih =>
      rcases mentions with ⟨before, rest, same, later⟩
      refine ⟨before, rest ++ more, ?_, ih later⟩
      rw [same]
      simp only [String.append_assoc]

theorem mentions_joined {reported texts : List String}
    (reports : List.Forall₂ Reports reported texts) : Mentions texts (joined reported) := by
  induction reports with
  | nil => trivial
  | @cons first text rest texts words _ ih =>
      rcases words with ⟨said, same⟩
      cases rest with
      | nil =>
          refine ⟨said, "", ?_, ?_⟩
          · rw [joined, String.intercalate_singleton, same, String.append_empty]
          · rw [joined, String.intercalate_nil] at ih
            exact ih
      | cons second rest =>
          refine ⟨said, "; " ++ joined (second :: rest), ?_, ih.after _⟩
          rw [joined, joined, String.intercalate_cons_cons, same]
          simp only [String.append_assoc]

def causeTexts (log : Log) : List String := log.cause.toList.map Cause.text

/-- The result of a run that nothing ended: the cancellation it was asked for, or else the exit that
`wait` returned. -/
def EndsAs (log : Log) (result : WorkerResult) : Prop :=
  match log.halt, log.exits with
  | some true, [_] => result = .cancelledForcefully
  | some false, [_] => result = .cancelledGracefully
  | none, [.code c] => result = .exitedNormally c
  | none, [.signal s] => result = .exitedBySignal s
  | _, _ => False

def FallsShort (result : WorkerResult) : DrainFault → Prop
  | .output m => result = .outputFailure m
  | _ => ∃ m, result = .outputFailure m

/-- The run's own outcome: what ended it, or else what cut the drain of its output short, or else how
it ended. -/
def OwnOutcome (log : Log) (result : WorkerResult) : Prop :=
  match log.cause with
  | some (.evidence m) => result = .failedToStart m
  | some (.boundary m) => result = .boundaryFailure m
  | some (.output m) => result = .outputFailure m
  | some (.sink _) => False
  | none =>
      match log.drain.fault with
      | some fault => FallsShort result fault
      | none => EndsAs log result

/-- A fault of the teardown comes first, then a lost observation, then the run's own outcome. -/
structure Precedence (log : Log) (result : WorkerResult) : Prop where
  cleanup : log.teardownFaults ≠ [] →
    ∃ m, result = .cleanupFailure m ∧ Mentions (causeTexts log ++ log.teardownFaults) m
  observation : log.teardownFaults = [] → log.refused ≠ [] →
    ∃ m, result = .observationFailure m ∧ Mentions (causeTexts log) m
  own : log.teardownFaults = [] → log.refused = [] → OwnOutcome log result

/-- What a result that is no failure stands for. -/
structure Faithful (spec : WorkerSpec) (log : Log) (result : WorkerResult) : Prop where
  refused : log.refused = []
  ended : EndsAs log result
  drained : log.drain.fault = none
  vacated : log.vacated = true
  closed : log.closed = true
  published : chunksSent log.received = chunksOf log.accepted
  reads : NoReadError log
  faults : log.faults = [] ∨ Escalated log.faults ∧ result = .cancelledForcefully
  admitted : ∃ attestation evidence, log.attestation = some attestation ∧
    log.launch = some evidence ∧ spec.boundaryRequirement.isSatisfiedBy attestation = true ∧
    evidence.satisfies spec.boundaryRequirement attestation = true

/-- What the result of a managed run says of it. -/
structure Verdict (spec : WorkerSpec) (log : Log) (result : WorkerResult) : Prop where
  precedence : Precedence log result
  reaped : log.teardownFaults = [] → Reaped log
  success : result.isFailure = false → Faithful spec log result
  failed : ∀ o ∈ log.accepted, isSupervisorFailed o = true → result.isFailure = true
  state : log.state.isTerminal = true
  admitted : ∃ attestation evidence, log.attestation = some attestation ∧
    log.launch = some evidence ∧ evidence.satisfies spec.boundaryRequirement attestation = true

theorem obeys_emergencyStop {reaped : Option BoundaryExit} (managed : Managed spec log)
    (exits : log.exits = reaped.toList) :
    (emergencyStop reaped (publisherOf spec log)).Obeys (lawful spec) log fun left log' =>
      Torn log left.1 log' ∧ (left.1 = [] → log'.exits.length = 1) ∧
        left.2 = publisherOf spec log' := by
  apply obeys_bind
  apply obeys_emit (managed.fits_stop rfl)
  intro log₁ emitted
  have torn := emitted.torn rfl
  have same : log₁.exits = log.exits := by
    cases emitted with
    | silent lost => rfl
    | accepted fits => rfl
    | refused fits why => rfl
  apply obeys_bind
  apply obeys_forceStop
  intro forced log₂ stepped exits₂
  have exits' : log₂.exits = reaped.toList := exits₂.trans (same.trans exits)
  cases reaped with
  | some e =>
      refine ⟨torn.trans stepped.torn, ?_, publisherOf_congr stepped.refused⟩
      intro _
      rw [exits']
      rfl
  | none =>
      apply obeys_bind
      apply obeys_reap exits'
      intro again log₃ stepped' once
      refine ⟨(torn.trans stepped.torn).trans stepped'.torn, ?_,
        publisherOf_congr (stepped'.refused.trans stepped.refused)⟩
      intro fine
      exact once (List.append_eq_nil_iff.mp fine).2

theorem faultReaped_eq (t : Termination) :
    faultReaped t = t.cause.map fun _ => reportedExit t := by
  cases t <;> rfl

theorem obeys_tearDown (turns : Nat) (terminated : Terminated spec t log) :
    (tearDown turns t (publisherOf spec log)).Obeys (lawful spec) log fun left log' =>
      TornDown log left.1 log' ∧ left.2 = publisherOf spec log' := by
  have stopped : (stopFaulty t (publisherOf spec log)).Obeys (lawful spec) log fun left log' =>
      Torn log left.1 log' ∧ (left.1 = [] → log'.exits.length = 1) ∧
        left.2 = publisherOf spec log' := by
    rw [stopFaulty, faultReaped_eq]
    cases cause : t.cause with
    | some c => exact obeys_emergencyStop terminated.managed terminated.exits
    | none =>
        refine ⟨.refl log, ?_, rfl⟩
        intro _
        rcases Option.isSome_iff_exists.mp (terminated.exited cause) with ⟨e, reported⟩
        rw [terminated.exits, reported]
        rfl
  apply obeys_bind
  apply obeys_mono stopped
  intro left log₁ facts
  rcases left with ⟨faults, pubr⟩
  rcases facts with ⟨torn, once, rfl⟩
  apply obeys_bind
  apply obeys_mono (obeys_cleanupGroup turns fun _ => (terminated.managed.grows torn.grows).mayReport)
  intro left log' facts
  exact ⟨facts.1.tornDown torn once, facts.2⟩

/-- What the drain and the last observations leave alone. -/
structure Trails (log log' : Log) : Prop where
  attestation : log'.attestation = log.attestation
  launch : log'.launch = log.launch
  exits : log'.exits = log.exits
  vacated : log'.vacated = log.vacated
  faults : log'.faults = log.faults
  cause : log'.cause = log.cause
  tearing : log'.tearing = log.tearing
  state : log'.state = log.state
  halt : log'.halt = log.halt
  refused : log.refused ≠ [] → log'.refused = log.refused

theorem Trails.refl (log : Log) : Trails log log :=
  ⟨rfl, rfl, rfl, rfl, rfl, rfl, rfl, rfl, rfl, fun _ => rfl⟩

theorem Trails.trans (first : Trails log log') (second : Trails log' log'') : Trails log log'' := by
  refine ⟨second.attestation.trans first.attestation, second.launch.trans first.launch,
    second.exits.trans first.exits, second.vacated.trans first.vacated,
    second.faults.trans first.faults, second.cause.trans first.cause,
    second.tearing.trans first.tearing, second.state.trans first.state,
    second.halt.trans first.halt, ?_⟩
  intro lost
  have same := first.refused lost
  rw [second.refused (same ▸ lost), same]

theorem Trails.alive (trails : Trails log log') (alive : log'.refused = []) :
    log.refused = [] := by
  by_contra lost
  rw [trails.refused lost] at alive
  exact lost alive

theorem Emitted.trails {o : WorkerObservation} (emitted : Emitted log o log')
    (tearing : log.tearing = true) : Trails log log' := by
  cases emitted with
  | silent lost => exact .refl log
  | accepted fits =>
      exact ⟨rfl, rfl, rfl, rfl, rfl, rfl, rfl, rfl, rfl, fun lost => absurd fits.alive lost⟩
  | refused fits why =>
      have kept : log.refuse o why = { log with refused := log.refused ++ [why] } := by
        simp only [Log.refuse, Log.blame, tearing, if_true, ite_self]
      rw [kept]
      exact ⟨rfl, rfl, rfl, rfl, rfl, rfl, rfl, rfl, rfl, fun lost => absurd fits.alive lost⟩

theorem refuse_accepted (o : WorkerObservation) (why : String) :
    (log.refuse o why).accepted = log.accepted := by
  rw [Log.refuse, Log.blame]
  split
  · split <;> rfl
  · rfl

theorem refuse_managed (o : WorkerObservation) (why : String) (managed : Managed spec log) :
    Managed spec (log.refuse o why) := by
  refine @Managed.extend spec log _ managed ?_ ?_ [] ?_ nofun
  · rw [Log.refuse, Log.blame]
    split
    · split <;> rfl
    · rfl
  · rw [Log.refuse, Log.blame]
    split
    · split <;> rfl
    · rfl
  · rw [refuse_accepted, List.append_nil]

theorem Emitted.managed {o : WorkerObservation} (emitted : Emitted log o log')
    (managed : Managed spec log) (isOpen : isOpen o = true) : Managed spec log' := by
  cases emitted with
  | silent lost => exact managed
  | accepted fits => exact managed.extend rfl rfl rfl (List.forall_mem_singleton.mpr isOpen)
  | refused fits why => exact refuse_managed o why managed

theorem receive_trails (message : Option ReaderMessage) (tearing : log.tearing = true) :
    Trails log (log.receive message) := by
  match message with
  | none => exact ⟨rfl, rfl, rfl, rfl, rfl, rfl, rfl, rfl, rfl, fun _ => rfl⟩
  | some (.chunk c) => exact ⟨rfl, rfl, rfl, rfl, rfl, rfl, rfl, rfl, rfl, fun _ => rfl⟩
  | some (.readError m) =>
      simp only [Log.receive, Log.blame, tearing, if_true]
      exact ⟨rfl, rfl, rfl, rfl, rfl, rfl, tearing.symm, rfl, rfl, fun _ => rfl⟩

theorem trailed_trails (message : Option ReaderMessage) (tearing : log.tearing = true) :
    Trails log (log.trailed spec message) := by
  have trails := receive_trails message tearing
  exact ⟨trails.attestation, trails.launch, trails.exits, trails.vacated, trails.faults,
    trails.cause, trails.tearing, trails.state, trails.halt, trails.refused⟩

def Drain.fault (drain : Drain) : Option DrainFault :=
  if drain.timedOut then some .idle
  else if drain.budgetExceeded then some .budget
  else if drain.deadlineExceeded then some .deadline
  else drain.outputError.map .output

/-- What a drain leaves. A clean one has seen every pipe closed. -/
structure Drained (spec : WorkerSpec) (drain : Drain) (log log' : Log) : Prop where
  trails : Trails log log'
  managed : Managed spec log'
  fault : log'.refused = [] → log'.drain.fault = drain.fault
  complete : drain = .clean → log'.refused = [] → log'.closed = true ∧
    chunksSent log'.received = chunksOf log'.accepted ∧ (NoReadError log → NoReadError log')

theorem Drained.after {drain : Drain} (drained : Drained spec drain log' log'')
    (trails : Trails log log') (reads : NoReadError log → NoReadError log') :
    Drained spec drain log log'' := by
  refine ⟨trails.trans drained.trails, drained.managed, drained.fault, ?_⟩
  intro clean alive
  have complete := drained.complete clean alive
  exact ⟨complete.1, complete.2.1, fun held => complete.2.2 (reads held)⟩

theorem Managed.receive (managed : Managed spec log) (tearing : log.tearing = true)
    (message : Option ReaderMessage) : Managed spec (log.receive message) := by
  have trails := receive_trails message tearing
  refine @Managed.extend spec log _ managed trails.attestation trails.launch [] ?_ nofun
  rw [List.append_nil]
  match message with
  | none => rfl
  | some (.chunk c) => rfl
  | some (.readError m) =>
      rw [Log.receive, Log.blame]
      split <;> rfl

theorem Managed.trailed (managed : Managed spec log) (tearing : log.tearing = true)
    (message : Option ReaderMessage) : Managed spec (log.trailed spec message) := by
  have received := managed.receive tearing message
  exact ⟨received.announced, received.ongoing, received.admitted⟩

theorem NoReadError.chunk (reads : NoReadError log) (c : OutputChunk) :
    NoReadError (log.trailed spec (some (.chunk c))) := by
  intro m member
  rcases List.mem_append.mp member with before | last
  · exact reads m before
  · cases List.mem_singleton.mp last

/-- Counted up to `usizeMax`, a total is within the cap exactly if it is so uncounted. -/
theorem withinCap_eq {cap : Option Nat} {drained total : Nat}
    (counted : cap ≠ none → drained = total) (len : Nat) :
    withinCap cap drained len = !overBudget cap (total + len) := by
  cases cap with
  | none => rfl
  | some cap =>
      rw [counted (Option.some_ne_none cap), withinCap, overBudget, Option.any_some]
      by_cases within : total + len ≤ usizeMax ∧ total + len ≤ cap
      · have short : ¬ min cap usizeMax < total + len := by omega
        simp [within.1, within.2, short]
      · have excess : min cap usizeMax < total + len := by omega
        have failing : (decide (total + len ≤ usizeMax) && decide (total + len ≤ cap)) = false := by
          rw [← Bool.decide_and]
          exact decide_eq_false within
        rw [failing]
        simp [excess]

theorem obeys_drainLoop (turns drainedBytes : Nat) (managed : Managed spec log)
    (alive : log.refused = []) (sync : chunksSent log.received = chunksOf log.accepted)
    (tearing : log.tearing = true) (untroubled : log.drain.fault = none)
    (counted : spec.output.maxTrailingBytes ≠ none → drainedBytes = log.drain.bytes) :
    (drainLoop spec.output.maxTrailingBytes turns (publisherOf spec log) drainedBytes).Obeys
      (lawful spec) log
      fun left log' => Drained spec left.1 log log' ∧ left.2 = publisherOf spec log' := by
  induction turns generalizing log drainedBytes with
  | zero => exact obeys_goesOn
  | succ turns ih =>
      have cut : ∀ fault, Trails log (log.cutShort fault) ∧ Managed spec (log.cutShort fault) := by
        intro fault
        exact ⟨⟨rfl, rfl, rfl, rfl, rfl, rfl, rfl, rfl, rfl, fun _ => rfl⟩,
          managed.announced, managed.ongoing, managed.admitted⟩
      apply obeys_ask (c := .drainTimeLeft) trivial
      intro timeLeft
      cases timeLeft with
      | false =>
          exact ⟨⟨(cut .deadline).1, (cut .deadline).2, fun _ => rfl, fun clean => by cases clean⟩,
            rfl⟩
      | true =>
          apply obeys_ask (c := .recvWithin) trivial
          intro awaited
          match awaited with
          | .expired true =>
              exact ⟨⟨(cut .deadline).1, (cut .deadline).2, fun _ => rfl,
                fun clean => by cases clean⟩, rfl⟩
          | .expired false =>
              exact ⟨⟨(cut .idle).1, (cut .idle).2, fun _ => rfl, fun clean => by cases clean⟩, rfl⟩
          | .message none =>
              refine ⟨⟨trailed_trails none tearing, managed.trailed tearing none,
                fun _ => untroubled, ?_⟩, rfl⟩
              intro _ _
              exact ⟨rfl, sync, id⟩
          | .message (some (.readError m)) =>
              exact ⟨⟨trailed_trails (some (.readError m)) tearing,
                managed.trailed tearing (some (.readError m)), fun _ => rfl,
                fun clean => by cases clean⟩, publisherOf_receive _⟩
          | .message (some (.chunk c)) =>
              have trails := @trailed_trails spec log (some (.chunk c)) tearing
              have managed₁ := managed.trailed tearing (some (.chunk c))
              have sync₁ : chunksSent (log.trailed spec (some (.chunk c))).received =
                  chunksOf log.accepted ++ [c] := by
                rw [Log.trailed, Log.receive, chunksSent_append, sync]
                rfl
              have budget := withinCap_eq counted c.bytes.length
              dsimp only
              split
              · rename_i within
                rw [budget, Bool.not_eq_true'] at within
                have untroubled₁ : (log.trailed spec (some (.chunk c))).drain.fault = none := by
                  rw [Log.trailed, Draining.received, within]
                  exact untroubled
                have counted₁ : spec.output.maxTrailingBytes ≠ none →
                    min (drainedBytes + c.bytes.length) usizeMax =
                      log.drain.bytes + c.bytes.length := by
                  intro capped
                  rcases Option.ne_none_iff_exists'.mp capped with ⟨cap, same⟩
                  rw [same, overBudget, Option.any_some, decide_eq_false_iff_not] at within
                  rw [counted capped]
                  omega
                apply obeys_bind
                apply @obeys_emit spec (log.trailed spec (some (.chunk c)))
                · intro _
                  refine ⟨alive, managed₁.unfinished, managed₁.announced, ?_,
                    fun same => by cases same⟩
                  intro c' same
                  cases same
                  exact sync₁
                · intro log' emitted
                  have trails' := emitted.trails tearing
                  have managed' := emitted.managed managed₁ rfl
                  cases emitted with
                  | silent lost => exact absurd alive lost
                  | accepted fits =>
                      have alive' : (publisherOf spec
                          ((log.trailed spec (some (.chunk c))).accept (.outputChunk c))).alive =
                            true :=
                        publisherOf_alive.mpr alive
                      rw [if_pos alive']
                      apply obeys_mono (ih _ managed' alive _ tearing untroubled₁ counted₁)
                      · intro left log'' facts
                        exact ⟨facts.1.after (trails.trans trails') fun held =>
                          @NoReadError.chunk spec _ held c, facts.2⟩
                      · rw [Log.accept, sync₁, chunksOf_append]
                        rfl
                  | refused fits why =>
                      have lost : ∀ {p : Prop}, ((log.trailed spec (some (.chunk c))).refuse
                          (.outputChunk c) why).refused = [] → p := by
                        intro p still
                        rw [refuse_refused] at still
                        simp at still
                      rw [publisherOf_refuse_alive]
                      exact ⟨⟨trails.trans trails', managed', lost, fun _ => lost⟩, rfl⟩
              · rename_i excess
                rw [budget, Bool.not_eq_true', Bool.not_eq_false] at excess
                refine ⟨⟨trails, managed₁, fun _ => ?_, fun clean => by cases clean⟩, rfl⟩
                change (log.drain.received spec.output.maxTrailingBytes (some (.chunk c))).fault = _
                rw [Draining.received, excess]
                rfl

structure Settled (spec : WorkerSpec) (t : Termination) (faults : List String) (drain : Drain)
    (log : Log) : Prop where
  managed : Managed spec log
  tearing : log.tearing = true
  state : log.state = .exited
  cause : log.cause = t.cause
  reports : List.Forall₂ Reports faults log.teardownFaults
  calm : faults = [] → t.cause = none →
    log.faults = [] ∨ Escalated log.faults ∧ baseResult t = .cancelledForcefully
  reaped : faults = [] → Reaped log
  exits : faults = [] → t.cause = none → ∃ e, reportedExit t = some e ∧ log.exits = [e]
  sink : ∀ m r, t = .sinkFailed m r → log.refused = [m]
  halt : t.cause = none → log.halt = t.halt
  fault : faults = [] → log.refused = [] → log.drain.fault = drain.fault
  complete : faults = [] → t.cause = none → drain = .clean → log.refused = [] →
    log.closed = true ∧ chunksSent log.received = chunksOf log.accepted ∧ NoReadError log

structure Announces (log log' : Log) : Prop where
  trails : Trails log log'
  received : log'.received = log.received
  closed : log'.closed = log.closed
  drain : log'.drain = log.drain
  chunks : chunksOf log'.accepted = chunksOf log.accepted

theorem Announces.refl (log : Log) : Announces log log := ⟨.refl log, rfl, rfl, rfl, rfl⟩

theorem Announces.trans (first : Announces log log') (second : Announces log' log'') :
    Announces log log'' :=
  ⟨first.trails.trans second.trails, second.received.trans first.received,
    second.closed.trans first.closed, second.drain.trans first.drain,
    second.chunks.trans first.chunks⟩

theorem Emitted.announces {o : WorkerObservation} (emitted : Emitted log o log')
    (tearing : log.tearing = true) (last : chunksOf [o] = []) : Announces log log' := by
  have trails := emitted.trails tearing
  cases emitted with
  | silent lost => exact .refl log
  | accepted fits =>
      refine ⟨trails, rfl, rfl, rfl, ?_⟩
      rw [Log.accept, chunksOf_append, last, List.append_nil]
  | refused fits why =>
      refine ⟨trails, ?_, ?_, ?_, by rw [refuse_accepted]⟩ <;>
        simp only [Log.refuse, Log.blame, tearing, if_true, ite_self]

theorem effectiveResult_of_cause {c : Cause} (cause : t.cause = some c) (drain : Drain) :
    effectiveResult (baseResult t) drain = baseResult t := by
  have failure : (baseResult t).isFailure = true := by
    cases t <;> first | rfl | cases cause
  rw [effectiveResult, if_pos failure]

theorem baseResult_isFailure (calm : t.cause = none) : (baseResult t).isFailure = false := by
  match t with
  | .natural (.code n) => rfl
  | .natural (.signal n) => rfl
  | .cancelled false e => rfl
  | .cancelled true e => rfl
  | .sinkFailed m r => cases calm
  | .outputFailed m r => cases calm
  | .boundaryFailed m r => cases calm

theorem effectiveResult_calm (calm : t.cause = none) (drain : Drain) :
    effectiveResult (baseResult t) drain = baseResult t ∧ drain = .clean ∨
      ∃ m, effectiveResult (baseResult t) drain = .outputFailure m := by
  rw [effectiveResult, baseResult_isFailure calm]
  rcases drain with ⟨error, timedOut, budget, deadline⟩
  cases timedOut <;> cases budget <;> cases deadline <;> cases error <;> simp [Drain.clean]

theorem drain_fault_clean {drain : Drain} : drain.fault = none ↔ drain = .clean := by
  rcases drain with ⟨error, timedOut, budget, deadline⟩
  cases timedOut <;> cases budget <;> cases deadline <;> cases error <;>
    simp [Drain.fault, Drain.clean]

theorem effectiveResult_short (calm : t.cause = none) {drain : Drain} {fault : DrainFault}
    (short : drain.fault = some fault) :
    FallsShort (effectiveResult (baseResult t) drain) fault := by
  rw [effectiveResult, baseResult_isFailure calm]
  rcases drain with ⟨error, timedOut, budget, deadline⟩
  simp only [Drain.fault] at short
  simp only [Bool.false_eq_true, if_false]
  split_ifs at short ⊢
  · cases short
    exact ⟨_, rfl⟩
  · cases short
    exact ⟨_, rfl⟩
  · cases short
    exact ⟨_, rfl⟩
  · rcases Option.map_eq_some_iff.mp short with ⟨m, rfl, rfl⟩
    rfl

theorem endsAs_base (calm : t.cause = none) (halt : log.halt = t.halt) {e : BoundaryExit}
    (reported : reportedExit t = some e) (exits : log.exits = [e]) :
    EndsAs log (baseResult t) := by
  rw [EndsAs, halt, exits]
  cases t with
  | natural e' =>
      cases reported
      cases e <;> rfl
  | cancelled f e' => cases f <;> rfl
  | sinkFailed m r => cases calm
  | outputFailed m r => cases calm
  | boundaryFailed m r => cases calm

theorem composeCleanup_nil (t : Termination) : composeCleanup t [] = .ok () := rfl

theorem composeCleanup_ne_nil {faults : List String} (some : faults ≠ []) (t : Termination) :
    composeCleanup t faults = .error (joined ((primaryFaultMessage t).toList ++ faults)) := by
  rw [composeCleanup, if_neg (by simpa using some)]

theorem primary_reports (t : Termination) :
    List.Forall₂ Reports (primaryFaultMessage t).toList (t.cause.toList.map Cause.text) := by
  cases t with
  | natural e => exact .nil
  | cancelled f e => exact .nil
  | sinkFailed m r => exact .cons ⟨"primary sink fault: ", rfl⟩ .nil
  | outputFailed m r => exact .cons ⟨"primary output fault: ", rfl⟩ .nil
  | boundaryFailed m r => exact .cons ⟨"primary boundary fault: ", rfl⟩ .nil

theorem mentions_self (text : String) : Mentions [text] text :=
  ⟨"", "", by rw [String.empty_append, String.append_empty], trivial⟩

section Concluding

variable {faults : List String} {drain : Drain}

theorem Settled.nil_iff (settled : Settled spec t faults drain log) :
    faults = [] ↔ log.teardownFaults = [] := by
  rw [← List.length_eq_zero_iff, settled.reports.length_eq, List.length_eq_zero_iff]

theorem Trails.teardownFaults (trails : Trails log log') :
    log'.teardownFaults = log.teardownFaults := by
  rw [Log.teardownFaults, Log.teardownFaults, trails.faults]

theorem Settled.own (settled : Settled spec t faults drain log) (none : faults = [])
    (calm : t.cause = Option.none) (announces : Announces log log') (alive : log'.refused = []) :
    match log'.drain.fault with
    | some fault => FallsShort (effectiveResult (baseResult t) drain) fault
    | Option.none => EndsAs log' (effectiveResult (baseResult t) drain) := by
  have trails := announces.trails
  rw [announces.drain, settled.fault none (trails.alive alive)]
  cases short : drain.fault with
  | some fault => exact effectiveResult_short calm short
  | none =>
      rcases settled.exits none calm with ⟨e, reported, exits⟩
      have whole : effectiveResult (baseResult t) drain = baseResult t := by
        rw [effectiveResult, baseResult_isFailure calm, drain_fault_clean.mp short]
        rfl
      rw [whole]
      exact endsAs_base calm (trails.halt.trans (settled.halt calm)) reported
        (trails.exits.trans exits)

theorem finalize_precedence (settled : Settled spec t faults drain log)
    (announces : Announces log log') :
    Precedence log' (finalize (composeCleanup t faults) (publisherOf spec log')
      (effectiveResult (baseResult t) drain)) := by
  have trails := announces.trails
  have causes : causeTexts log' = t.cause.toList.map Cause.text := by
    rw [causeTexts, trails.cause, settled.cause]
  constructor
  · intro some
    rw [trails.teardownFaults] at some ⊢
    have faulty : faults ≠ [] := fun none => some (settled.nil_iff.mp none)
    have mentions : Mentions (causeTexts log' ++ log.teardownFaults)
        (joined ((primaryFaultMessage t).toList ++ faults)) := by
      rw [causes]
      exact mentions_joined (List.rel_append (primary_reports t) settled.reports)
    rw [composeCleanup_ne_nil faulty, finalize]
    split
    · exact ⟨_, rfl, mentions⟩
    · exact ⟨_, rfl, (mentions.before _).before _⟩
  · intro none lost
    rw [trails.teardownFaults] at none
    rw [settled.nil_iff.mpr none, composeCleanup_nil, finalize,
      if_neg fun alive => lost (publisherOf_alive.mp alive)]
    refine ⟨_, rfl, ?_⟩
    rw [causes]
    cases t with
    | natural e => trivial
    | cancelled f e => trivial
    | sinkFailed m r =>
        have first := settled.sink m r rfl
        have kept := trails.refused (by rw [first]; nofun)
        rw [effectiveResult_of_cause rfl]
        change Mentions [m] (publisherOf spec log').error
        rw [publisherOf, kept, first]
        exact mentions_self m
    | outputFailed m r =>
        rw [effectiveResult_of_cause rfl]
        exact (mentions_self m).after _
    | boundaryFailed m r =>
        rw [effectiveResult_of_cause rfl]
        exact (mentions_self m).after _
  · intro none alive
    rw [trails.teardownFaults] at none
    have fine := settled.nil_iff.mpr none
    rw [fine, composeCleanup_nil, finalize, if_pos (publisherOf_alive.mpr alive), OwnOutcome,
      trails.cause, settled.cause]
    cases t with
    | natural e => exact settled.own fine rfl announces alive
    | cancelled f e => exact settled.own fine rfl announces alive
    | sinkFailed m r =>
        have first := settled.sink m r rfl
        rw [trails.alive alive] at first
        cases first
    | outputFailed m r => exact effectiveResult_of_cause rfl drain
    | boundaryFailed m r => exact effectiveResult_of_cause rfl drain

theorem finalize_success
    (success : (finalize (composeCleanup t faults) (publisherOf spec log')
      (effectiveResult (baseResult t) drain)).isFailure = false) :
    faults = [] ∧ log'.refused = [] ∧ t.cause = none ∧ drain = .clean ∧
      finalize (composeCleanup t faults) (publisherOf spec log')
        (effectiveResult (baseResult t) drain) = baseResult t := by
  have none : faults = [] := by
    by_contra some
    rw [composeCleanup_ne_nil some, finalize] at success
    split at success <;> cases success
  have alive : log'.refused = [] := by
    by_contra lost
    rw [none, composeCleanup_nil, finalize, if_neg fun alive => lost (publisherOf_alive.mp alive)]
      at success
    cases success
  rw [none, composeCleanup_nil, finalize, if_pos (publisherOf_alive.mpr alive)] at success ⊢
  have calm : t.cause = Option.none := by
    cases t with
    | natural e => rfl
    | cancelled f e => rfl
    | sinkFailed m r => rw [effectiveResult_of_cause rfl] at success; cases success
    | outputFailed m r => rw [effectiveResult_of_cause rfl] at success; cases success
    | boundaryFailed m r => rw [effectiveResult_of_cause rfl] at success; cases success
  rcases effectiveResult_calm calm drain with ⟨same, clean⟩ | ⟨m, lost⟩
  · exact ⟨rfl, alive, calm, clean, same⟩
  · rw [lost] at success
    cases success

theorem finalize_faithful (settled : Settled spec t faults drain log)
    (announces : Announces log log')
    (success : (finalize (composeCleanup t faults) (publisherOf spec log')
      (effectiveResult (baseResult t) drain)).isFailure = false) :
    Faithful spec log' (finalize (composeCleanup t faults) (publisherOf spec log')
      (effectiveResult (baseResult t) drain)) := by
  rcases finalize_success success with ⟨none, alive, calm, clean, same⟩
  rw [same]
  have trails := announces.trails
  have reaped := settled.reaped none
  have complete := settled.complete none calm clean (trails.alive alive)
  rcases settled.exits none calm with ⟨e, reported, exits⟩
  constructor
  · exact alive
  · exact endsAs_base calm (trails.halt.trans (settled.halt calm)) reported
      (trails.exits.trans exits)
  · rw [announces.drain, settled.fault none (trails.alive alive), clean]
    rfl
  · exact trails.vacated.trans reaped.vacated
  · exact announces.closed.trans complete.1
  · rw [announces.received, announces.chunks]
    exact complete.2.1
  · rw [NoReadError, announces.received]
    exact complete.2.2
  · rw [trails.faults]
    exact settled.calm none calm
  · rw [trails.attestation, trails.launch]
    exact settled.managed.admitted

theorem finalize_verdict (settled : Settled spec t faults drain log)
    (announces : Announces log log')
    (failed : ∀ o ∈ log'.accepted, isSupervisorFailed o = true →
      (finalize (composeCleanup t faults) (publisherOf spec log')
        (effectiveResult (baseResult t) drain)).isFailure = true) :
    Verdict spec log' (finalize (composeCleanup t faults) (publisherOf spec log')
      (effectiveResult (baseResult t) drain)) := by
  have trails := announces.trails
  refine ⟨finalize_precedence settled announces, ?_, finalize_faithful settled announces, failed, ?_, ?_⟩
  · intro none
    rw [trails.teardownFaults] at none
    have reaped := settled.reaped (settled.nil_iff.mpr none)
    exact ⟨trails.exits ▸ reaped.exits, trails.vacated.trans reaped.vacated⟩
  · rw [trails.state, settled.state]
    rfl
  · rcases settled.managed.admitted with ⟨attestation, evidence, attested, launched, _, satisfied⟩
    exact ⟨attestation, evidence, trails.attestation.trans attested, trails.launch.trans launched,
      satisfied⟩

theorem Emitted.last {o : WorkerObservation} (emitted : Emitted log o log')
    (announced : Announced log.accepted) : Announced log'.accepted ∧
      ∀ o' ∈ log'.accepted, o' ∈ log.accepted ∨ o' = o := by
  cases emitted with
  | silent lost => exact ⟨announced, fun _ member => .inl member⟩
  | accepted fits => exact ⟨announced.append [o], fun o' member => by simpa [Log.accept] using member⟩
  | refused fits why =>
      rw [refuse_accepted]
      exact ⟨announced, fun _ member => .inl member⟩

theorem obeys_publishExit (settled : Settled spec t faults drain log) :
    (publishExit t (publisherOf spec log)).Obeys (lawful spec) log fun pubr log' =>
      pubr = publisherOf spec log' ∧ Announces log log' ∧ Announced log'.accepted ∧
        ∀ o ∈ log'.accepted, isCleanupCompleted o = false ∧ isSupervisorFailed o = false := by
  have ongoing : ∀ o ∈ log.accepted, isCleanupCompleted o = false ∧ isSupervisorFailed o = false :=
    fun o member => (isOpen_iff.mp (settled.managed.ongoing o member)).2
  rw [publishExit]
  cases reported : reportedExit t with
  | none => exact ⟨rfl, .refl log, settled.managed.announced, ongoing⟩
  | some e =>
      apply obeys_emit
      · intro alive
        refine ⟨alive, settled.managed.unfinished, ⟨settled.managed.announced, ?_⟩, nofun, nofun⟩
        intro o member
        have facts := isOpen_iff.mp (settled.managed.ongoing o member)
        exact ⟨facts.1, facts.2.1⟩
      · intro log' emitted
        have last := emitted.last settled.managed.announced
        refine ⟨rfl, emitted.announces settled.tearing rfl, last.1, ?_⟩
        intro o member
        rcases last.2 o member with before | same
        · exact ongoing o before
        · subst same
          exact ⟨rfl, rfl⟩

theorem obeys_publishCleanup (settled : Settled spec t faults drain log)
    (announces : Announces log log') (announced : Announced log'.accepted)
    (before : ∀ o ∈ log'.accepted, isCleanupCompleted o = false ∧ isSupervisorFailed o = false) :
    (publishCleanup (composeCleanup t faults) (publisherOf spec log')).Obeys (lawful spec) log'
      fun pubr log'' => pubr = publisherOf spec log'' ∧ Announces log log'' ∧
        Announced log''.accepted ∧ ∀ o ∈ log''.accepted, isSupervisorFailed o = false := by
  have trails := announces.trails
  have unfinished : ∀ o ∈ log'.accepted, isSupervisorFailed o = false :=
    fun o member => (before o member).2
  rw [publishCleanup]
  by_cases none : faults = []
  · subst none
    have reaped := settled.reaped rfl
    have proven : Proven log' := by
      refine ⟨trails.exits ▸ reaped.exits, trails.vacated.trans reaped.vacated, ?_⟩
      rw [trails.teardownFaults]
      exact settled.nil_iff.mp rfl
    rw [composeCleanup_nil, if_pos (show (Except.ok () : Except String Unit).isOk = true from rfl)]
    apply obeys_emit
    · intro alive
      exact ⟨alive, unfinished, ⟨announced, fun o member => (before o member).1⟩, nofun,
        fun _ => proven⟩
    · intro log'' emitted
      have last := emitted.last announced
      have tearing : log'.tearing = true := trails.tearing.trans settled.tearing
      refine ⟨rfl, announces.trans (emitted.announces tearing rfl), last.1, ?_⟩
      intro o member
      rcases last.2 o member with early | same
      · exact unfinished o early
      · subst same
        rfl
  · rw [composeCleanup_ne_nil none, if_neg (by simp [Except.isOk, Except.toBool])]
    exact ⟨rfl, announces, announced, unfinished⟩

theorem obeys_conclude (settled : Settled spec t faults drain log) :
    (conclude t (composeCleanup t faults) drain (publisherOf spec log)).Obeys (lawful spec) log
      fun result log' => Verdict spec log' result := by
  apply obeys_bind
  apply obeys_mono (obeys_publishExit settled)
  intro pubr log₁ facts
  rcases facts with ⟨rfl, announces₁, announced₁, before₁⟩
  apply obeys_bind
  apply obeys_mono (obeys_publishCleanup settled announces₁ announced₁ before₁)
  intro pubr log₂ facts
  rcases facts with ⟨rfl, announces₂, announced₂, unfinished₂⟩
  apply obeys_bind
  rw [publishFailure]
  split
  · rename_i failing
    rw [Bool.and_eq_true] at failing
    apply obeys_emit
    · intro alive
      exact ⟨alive, unfinished₂, announced₂, nofun, nofun⟩
    · intro log₃ emitted
      have tearing : log₂.tearing = true := announces₂.trails.tearing.trans settled.tearing
      apply finalize_verdict settled (announces₂.trans (emitted.announces tearing rfl))
      intro o member failed
      cases emitted with
      | silent lost => exact absurd (unfinished₂ o member) (by rw [failed]; nofun)
      | accepted fits =>
          have same : publisherOf spec (log₂.accept (.supervisorFailed
              (finalize (composeCleanup t faults) (publisherOf spec log₂)
                (effectiveResult (baseResult t) drain)).message)) = publisherOf spec log₂ := rfl
          rw [same]
          exact failing.2
      | refused fits why =>
          rw [refuse_accepted] at member
          exact absurd (unfinished₂ o member) (by rw [failed]; nofun)
  · apply finalize_verdict settled announces₂
    intro o member failed
    exact absurd (unfinished₂ o member) (by rw [failed]; nofun)

end Concluding

theorem obeys_drainOutput (turns : Nat) (cleanup : Except String Unit) (managed : Managed spec log)
    (inStep : InStep log) (tearing : log.tearing = true) (undrained : log.drain = ⟨0, none⟩) :
    (drainOutput turns spec cleanup (publisherOf spec log)).Obeys (lawful spec) log fun left log' =>
      Trails log log' ∧ Managed spec log' ∧ (cleanup = .ok () → Drained spec left.1 log log') ∧
        left.2 = publisherOf spec log' := by
  rw [drainOutput]
  split
  · rename_i both
    rw [Bool.and_eq_true] at both
    have alive := publisherOf_alive.mp both.2
    apply obeys_mono (obeys_drainLoop turns 0 managed alive (inStep alive) tearing
      (by rw [undrained]) (fun _ => by rw [undrained]))
    intro left log' facts
    exact ⟨facts.1.trails, facts.1.managed, fun _ => facts.1, facts.2⟩
  · rename_i neither
    refine ⟨.refl log, managed, ?_, rfl⟩
    intro fine
    have lost : log.refused ≠ [] := by
      intro alive
      apply absurd _ neither
      rw [fine, Bool.and_eq_true]
      exact ⟨rfl, publisherOf_alive.mpr alive⟩
    exact ⟨.refl log, managed, fun alive => absurd alive lost, fun _ alive => absurd alive lost⟩

theorem settled_of {faults : List String} {drain : Drain} {log₀ log₁ : Log}
    (terminated : Terminated spec t log₀) (tornDown : TornDown log₀ faults log₁)
    (trails : Trails log₁ log) (managed : Managed spec log)
    (drained : faults = [] → Drained spec drain log₁ log) :
    Settled spec t faults drain { log with state := .exited } := by
  have torn := tornDown.torn
  rcases torn.faults with ⟨new, split, all, reports⟩
  have faulty : log.faults = log₀.faults ++ new := trails.faults.trans split
  have texts : Log.teardownFaults { log with state := .exited } = new.map (·.text) := by
    have outside : log₀.faults.filter (·.teardown) = [] := by
      apply List.filter_eq_nil_iff.mpr
      intro f member
      simp [terminated.before f member]
    rw [Log.teardownFaults]
    change (log.faults.filter (·.teardown)).map (·.text) = _
    rw [faulty, List.filter_append, outside, List.nil_append, List.filter_eq_self.mpr all]
  have clean : faults = [] → log.faults = log₀.faults := by
    intro none
    subst none
    rw [List.forall₂_nil_left_iff, List.map_eq_nil_iff] at reports
    rw [faulty, reports, List.append_nil]
  have exits : log.exits = log₁.exits := trails.exits
  constructor
  · exact ⟨managed.announced, managed.ongoing, managed.admitted⟩
  · exact trails.tearing.trans tornDown.tearing
  · rfl
  · exact trails.cause.trans (torn.cause.trans terminated.cause)
  · rw [texts]
    exact reports
  · intro none calm
    change log.faults = [] ∨ Escalated log.faults ∧ _
    rw [clean none]
    exact terminated.calm calm
  · intro none
    have reaped := tornDown.reaped none
    exact ⟨exits ▸ reaped.exits, trails.vacated.trans reaped.vacated⟩
  · intro none calm
    rcases Option.isSome_iff_exists.mp (terminated.exited calm) with ⟨e, reported⟩
    refine ⟨e, reported, ?_⟩
    have first : [e] <+: log₁.exits := by
      have before := torn.exits
      rwa [terminated.exits, reported] at before
    have once := (tornDown.reaped none).exits
    change log.exits = [e]
    rw [exits]
    exact (first.eq_of_length once.symm).symm
  · intro m r same
    have lost := terminated.sink m r same
    have kept := torn.grows.refused (by rw [lost]; nofun)
    have kept' := trails.refused (by rw [kept, lost]; nofun)
    exact kept'.trans (kept.trans lost)
  · intro calm
    exact trails.halt.trans (torn.grows.halt.trans (terminated.halt calm))
  · intro none alive
    exact (drained none).fault alive
  · intro none calm same alive
    have complete := (drained none).complete same alive
    refine ⟨complete.1, complete.2.1, complete.2.2 ?_⟩
    rw [NoReadError, torn.grows.received]
    apply terminated.reads
    intro m r output
    rw [output] at calm
    cases calm

theorem Ongoing.halting (ongoing : Ongoing spec [] log) :
    Halting spec [] { log.halted false with state := .cancelling } :=
  ⟨⟨ongoing.managed.announced, ongoing.managed.ongoing, ongoing.managed.admitted⟩, ongoing.inStep,
    ongoing.exits, ongoing.cause, ongoing.tearing, .inl ongoing.faults, ongoing.reads,
    ongoing.drain, rfl⟩

theorem obeys_terminate (turns : Nat) (phase : Phase) (ended : Ended spec phase log) :
    (terminate turns spec .running phase (publisherOf spec log)).Obeys (lawful spec) log
      fun left log' => Terminated spec left.1 log' ∧ left.2.1 = publisherOf spec log' ∧
        left.2.2.canTransitionTo .exited = true ∧ log'.state = left.2.2 := by
  cases phase with
  | natural e => exact ⟨ended.terminated _ rfl, rfl, rfl, ended.state⟩
  | sinkFailed m => exact ⟨ended.terminated _ rfl, rfl, rfl, ended.state⟩
  | outputFailed m => exact ⟨ended.terminated _ rfl, rfl, rfl, ended.state⟩
  | boundaryFailed m => exact ⟨ended.terminated _ rfl, rfl, rfl, ended.state⟩
  | cancelRequested =>
      rcases ended.cancelled rfl with ⟨before, ongoing, rfl⟩
      apply obeys_bind
      apply obeys_tryAdvance ended.state rfl
      apply obeys_bind
      apply obeys_mono (obeys_runCancellation turns _ ongoing.halting ongoing.faults rfl)
      intro left log' facts
      exact ⟨facts.terminated, facts.publisher, rfl, facts.state⟩

theorem obeys_startReader (stream : OutputStream) {post : Unit → Log → Prop}
    (unread : log.closed = false) (later : post () log) :
    (startReader spec stream).Obeys (lawful spec) log post :=
  obeys_ask (c := .takeStream stream spec.output.maxChunkBytes) unread fun _ => later

theorem obeys_manage (turns : Nat) (identity : ProcessIdentity) (ongoing : Ongoing spec [] log)
    (silent : heartbeatsOf log.accepted = []) (unread : log.closed = false) :
    (manage turns spec (publisherOf spec log) identity .running).Obeys (lawful spec) log
      fun result log' => Verdict spec log' result := by
  apply obeys_bind
  apply obeys_startReader .stdout unread
  apply obeys_bind
  apply obeys_startReader .stderr unread
  apply obeys_bind
  apply obeys_mono (obeys_selectLoop identity turns 0 true ongoing (by rw [silent]; rfl))
  intro left log₁ facts
  rcases left with ⟨phase, pubr⟩
  rcases facts with ⟨ended, rfl⟩
  apply obeys_bind
  apply obeys_mono (obeys_terminate turns phase ended)
  intro left log₂ facts
  rcases left with ⟨t, pubr, state⟩
  rcases facts with ⟨terminated, rfl, allowed, state₂⟩
  apply obeys_bind
  apply obeys_mono (obeys_tearDown turns terminated)
  intro left log₃ facts
  rcases left with ⟨faults, pubr⟩
  rcases facts with ⟨tornDown, rfl⟩
  have grows := tornDown.torn.grows
  apply obeys_bind
  apply obeys_mono (obeys_drainOutput turns (composeCleanup t faults)
    (terminated.managed.grows grows) (terminated.inStep.grows grows) tornDown.tearing
    (grows.drain.trans terminated.drain))
  intro left log₄ facts
  rcases left with ⟨drain, pubr⟩
  rcases facts with ⟨trails, managed, drained, rfl⟩
  apply obeys_ask (c := .shutdownReaders) trivial
  intro _
  apply obeys_bind
  apply obeys_tryAdvance (trails.state.trans (grows.state.trans state₂)) allowed
  have settled := settled_of terminated tornDown trails managed fun none =>
    drained (by rw [show faults = [] from none, composeCleanup_nil])
  exact obeys_conclude settled

end O7Formal.Worker
