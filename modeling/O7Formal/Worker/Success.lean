import O7Formal.Worker.Pipes

/-! What a success of a run stands for, down to the bytes that its readers have read. -/

namespace O7Formal.Worker

open Program

variable {turns : Nat} {spec : WorkerSpec} {w : World} {result : WorkerResult}

def publishedOn (spec : WorkerSpec) (w : World) (s : OutputStream) : List OutputChunk :=
  chunksOn s (chunksOf (logOf spec w.trace).accepted)

/-- The stream was read to its end, and what was read was published once and in order. -/
def Delivered (spec : WorkerSpec) (w : World) (s : OutputStream) (pipe : Pipe) : Prop :=
  SawEnd pipe.trace ∧ publishedOn spec w s = numbered s (readsOf pipe.trace)

/-- A success: what the log says of it, and what has become of the output. -/
structure TrueSuccess (spec : WorkerSpec) (w : World) (result : WorkerResult) : Prop
    extends Faithful spec (logOf spec w.trace) result where
  delivered : ∀ s pipe, w.readers s = some pipe → Delivered spec w s pipe
  untaken : ∀ s, w.readers s = none → publishedOn spec w s = []
  enforced : spec.boundaryRequirement = .requireFullyEnforced →
    ∃ implementation report,
      (logOf spec w.trace).attestation = some ⟨implementation, .fullyEnforced⟩ ∧
        (logOf spec w.trace).launch = some (.reported ⟨implementation, .fullyEnforced⟩ report)

theorem enforced_of_satisfied {attestation : BoundaryAttestation} {evidence : BoundaryEvidence}
    (attested : BoundaryRequirement.requireFullyEnforced.isSatisfiedBy attestation = true)
    (satisfied : evidence.satisfies .requireFullyEnforced attestation = true) :
    attestation.enforcement = .fullyEnforced ∧ ∃ report, evidence =
      .reported ⟨attestation.implementation, .fullyEnforced⟩ report := by
  refine ⟨of_decide_eq_true attested, ?_⟩
  cases evidence with
  | unconfined => cases satisfied
  | reported established report =>
      rcases (Bool.and_eq_true _ _).mp satisfied with ⟨full, same⟩
      rw [← of_decide_eq_true full, ← of_decide_eq_true same]
      exact ⟨report, rfl⟩

theorem Coherent.published (coherent : Coherent turns spec w)
    (faithful : Faithful spec (logOf spec w.trace) result) (s : OutputStream) :
    publishedOn spec w s = chunksSent (sentOn w s) := by
  rw [publishedOn, ← faithful.published, ← coherent.chunks s,
    (coherent.closed faithful.closed).1, List.append_nil]

theorem Coherent.delivered (coherent : Coherent turns spec w)
    (faithful : Faithful spec (logOf spec w.trace) result) {s : OutputStream} {pipe : Pipe}
    (held : w.readers s = some pipe) : Delivered spec w s pipe := by
  rcases coherent.readers s pipe held with ⟨⟨maxChunk, run⟩, taken⟩
  have closed := coherent.closed faithful.closed
  have sent : sentOn w s = sentOf pipe.trace := by rw [sentOn, held]
  have returned : pipe.reader = pure () := by
    have returned := quiet_iff.mp closed.2 s pipe held
    cases reader : pipe.reader with
    | done u => rfl
    | call c next =>
        rw [reader] at returned
        cases returned
  rw [returned] at run
  cases complete_of_returned run taken with
  | inl complete =>
      refine ⟨complete.1, ?_⟩
      rw [coherent.published faithful, sent]
      exact complete.2
  | inr failed =>
      -- A read error was received, and a success has received none.
      rcases failed with ⟨err, member⟩
      have received := coherent.errors s err (sent ▸ member)
      rw [closed.1, List.append_nil] at received
      exact absurd received (faithful.reads err)

theorem Coherent.trueSuccess (coherent : Coherent turns spec w)
    (faithful : Faithful spec (logOf spec w.trace) result) : TrueSuccess spec w result := by
  refine ⟨faithful, fun s pipe held => coherent.delivered faithful held, ?_, ?_⟩
  · intro s untaken
    rw [coherent.published faithful, sentOn, untaken]
    rfl
  · intro required
    rcases faithful.admitted with ⟨attestation, evidence, attested, launched, admitted, satisfied⟩
    rw [required] at admitted satisfied
    rcases enforced_of_satisfied admitted satisfied with ⟨full, report, reported⟩
    refine ⟨attestation.implementation, report, ?_, launched.trans (congrArg some reported)⟩
    rw [attested, ← full]

/-- A run that owned a live process and returned a result that is no failure was a success, whatever
the boundary, the sink, the streams, the clock and the cancel signal did, and in whatever order. -/
theorem no_false_success (turns : Nat) (spec : WorkerSpec) (schedule : List Turn)
    (result : WorkerResult) :
    let w := (World.begin turns spec).run turns spec schedule
    w.supervisor = pure result → (logOf spec w.trace).launch ≠ none → result.isFailure = false →
      TrueSuccess spec w result := by
  intro w returned launched success
  have coherent : Coherent turns spec w := coherent_run schedule
  have run := coherent.supervisor
  rw [returned] at run
  exact coherent.trueSuccess (((run_final run).owned launched).success success)

section Launch

variable {log : Log}

@[simp] theorem blame_launch (cause : Cause) : (log.blame cause).launch = log.launch := by
  rw [Log.blame]
  split <;> rfl

@[simp] theorem fail_launch (step : Step) (timedOut : Bool) (text : String) :
    (log.fail step timedOut text).launch = log.launch := by
  rw [Log.fail, blame_launch]
  rfl

@[simp] theorem bounded_launch (stage : Stage) (step : Step) (timedOut : Bool) (text : String) :
    (log.bounded stage step timedOut text).launch = log.launch := by
  cases stage with
  | cancelling => exact fail_launch step timedOut text
  | teardown => rfl

@[simp] theorem refuse_launch (o : WorkerObservation) (why : String) :
    (log.refuse o why).launch = log.launch := by
  rw [Log.refuse]
  split
  · exact blame_launch _
  · rfl

@[simp] theorem receive_launch (message : Option ReaderMessage) :
    (log.receive message).launch = log.launch := by
  match message with
  | none => rfl
  | some (.chunk c) => rfl
  | some (.readError m) => exact blame_launch _

@[simp] theorem trailed_launch (message : Option ReaderMessage) :
    (log.trailed spec message).launch = log.launch := receive_launch message

@[simp] theorem entered_launch (stage : Stage) : (log.entered stage).launch = log.launch := by
  cases stage <;> rfl

theorem launched_launch (evidence : BoundaryEvidence) :
    (log.launched spec evidence).launch = some evidence := by
  rw [Log.launched]
  split
  · rfl
  · split
    · rfl
    · exact blame_launch _

@[simp] theorem exit_launch (e : BoundaryExit) : (log.exit e).launch = log.launch := rfl

theorem note_launch (c : Call) (r : c.Answer) (launched : log.launch ≠ none) :
    (log.note spec c r).launch ≠ none := by
  unfold Log.note
  split
  case h_6 => rw [launched_launch]; nofun
  all_goals first | exact launched | (simpa using launched) | split
  all_goals first | exact launched | simpa using launched

def noting (spec : WorkerSpec) : Protocol Call Call.Answer Log :=
  ⟨fun _ _ => True, fun _ _ => True, fun log c r => log.note spec c r⟩

theorem obeys_noting {α : Type} (x : Supervised α) (log : Log) {post : α → Log → Prop}
    (fits : ∀ a log', (log.launch ≠ none → log'.launch ≠ none) → post a log') :
    x.Obeys (noting spec) log post := by
  induction x generalizing log with
  | done a => exact fits a log id
  | call c next ih =>
      refine ⟨trivial, ?_⟩
      intro r _
      apply ih
      intro a log' kept
      exact fits a log' fun launched => kept (note_launch c r launched)

def Exited (result : WorkerResult) : Prop := ∃ code, result = .exitedNormally code

theorem obeys_unlaunched {α : Type} (x : Supervised α) {f : α → Supervised WorkerResult}
    (later : ∀ a log', (f a).Obeys (noting spec) log' fun result log => Exited result →
      log.launch ≠ none) :
    (x >>= f).Obeys (noting spec) log fun result log => Exited result → log.launch ≠ none :=
  obeys_bind (obeys_noting x log fun a log' _ => later a log')

theorem obeys_unexited {x : Supervised WorkerResult} {result : WorkerResult}
    (same : x = pure result) (other : ∀ code, result ≠ .exitedNormally code) :
    x.Obeys (noting spec) log fun result log => Exited result → log.launch ≠ none := by
  subst same
  intro exited
  rcases exited with ⟨code, same⟩
  exact absurd same (other code)

theorem launch_failToStart (state : WorkerState) (message : String) :
    (failToStart state message).Obeys (noting spec) log
      fun result log => Exited result → log.launch ≠ none := by
  apply obeys_unlaunched
  intro advanced log'
  cases advanced with
  | error e => exact obeys_unexited rfl nofun
  | ok next => exact obeys_unexited rfl nofun

theorem launch_cancelledAtStart (pubr : Publisher) (state : WorkerState) :
    (cancelledAtStart pubr state).Obeys (noting spec) log
      fun result log => Exited result → log.launch ≠ none := by
  apply obeys_unlaunched
  intro pubr' log'
  split
  · exact obeys_unexited rfl nofun
  · apply obeys_unlaunched
    intro state' log''
    apply obeys_unlaunched
    intro _ _
    exact obeys_unexited rfl nofun

theorem launch_runInner (turns : Nat) (spec : WorkerSpec) :
    (runInner turns spec).Obeys (noting spec) log
      fun result log => Exited result → log.launch ≠ none := by
  apply obeys_unlaunched
  intro attestation log'
  apply obeys_unlaunched
  intro pubr log'
  split
  · exact obeys_unexited rfl nofun
  · apply obeys_unlaunched
    intro advanced log'
    cases advanced with
    | error e => exact obeys_unexited rfl nofun
    | ok state =>
        dsimp only
        split
        · exact launch_failToStart _ _
        · split
          · exact launch_failToStart _ _
          · apply obeys_unlaunched
            intro asked log'
            split
            · exact launch_cancelledAtStart _ _
            · apply obeys_unlaunched
              intro pubr log'
              split
              · exact obeys_unexited rfl nofun
              · refine ⟨trivial, ?_⟩
                intro spawned _
                match spawned with
                | none => exact launch_cancelledAtStart _ _
                | some (.error err) => exact launch_failToStart _ _
                | some (.ok evidence) =>
                    apply obeys_noting
                    intro result log'' kept _
                    apply kept
                    change (log'.launched spec evidence).launch ≠ none
                    rw [launched_launch]
                    nofun

theorem launched_of_exited {turns : Nat} {trace : Trace Call Call.Answer} {code : Int32}
    (run : After (runInner turns spec) trace (pure (.exitedNormally code))) :
    (logOf spec trace).launch ≠ none :=
  run.result (launch_runInner turns spec) (fun _ _ => trivial) ⟨code, rfl⟩

end Launch
/-! ### Sample runs -/

namespace SuccessSample

open PrecedenceSample

def smooth (streams : Bool) (won : Selected) : (c : Call) → Option c.Answer
  | .attestation => some attestation
  | .publish _ | .forceStop _ | .gracefulStop => some (.done ())
  | .transition _ _ | .shutdownReaders => some ()
  | .cancelRequested | .deadlinePassed _ => some false
  | .spawn _ => some (some (.ok (.reported attestation [1])))
  | .identity => some leader
  | .takeStream _ _ => some streams
  | .select _ _ => some won
  | .gracefulWait _ | .reap _ => some (.done (.code 0))
  | .members _ => some (.done [])
  | .drainTimeLeft => some true
  | .recvWithin => some (.message none)
  | .forever => none

def reads (bytes : List UInt8) : (c : ReaderCall) → Option c.Answer
  | .read _ => some (.ok bytes)
  | .send _ => some true
  | .forever => none

/-- `n` steps of the supervisor. -/
def supervised (n : Nat) (streams : Bool) (won : Selected) : List Turn :=
  List.replicate n (.supervisor (smooth streams won))

def written : List Turn :=
  supervised 12 true .cancelled ++
    [.reader .stdout (reads [104, 105]), .reader .stdout (reads []), .reader .stdout (reads []),
      .reader .stderr (reads [])] ++
    supervised 2 true (.output none) ++ supervised 20 true (.exit (.ok (.code 0)))

def silent : List Turn := supervised 32 false (.exit (.ok (.code 0)))

end SuccessSample

open PrecedenceSample SuccessSample

theorem no_false_success_written :
    TrueSuccess sandboxed ((World.begin 2 sandboxed).run 2 sandboxed written) (.exitedNormally 0) :=
  no_false_success 2 sandboxed written (.exitedNormally 0) rfl nofun rfl

/-- A success of a process that gave no stream has read none. -/
theorem silent_success :
    let w := (World.begin 2 sandboxed).run 2 sandboxed silent
    w.supervisor = pure (.exitedNormally 0) ∧ (logOf sandboxed w.trace).launch ≠ none ∧
      ∀ s, w.readers s = none := by
  refine ⟨rfl, nofun, ?_⟩
  intro s
  cases s <;> rfl

end O7Formal.Worker
