import O7Formal.Worker.Terminal

/-! Terminal precedence and proven teardown, over every run of the supervisor. -/

namespace O7Formal.Worker

open Program

variable {spec : WorkerSpec}

theorem run_lawful {turns : Nat} {trace : Trace Call Call.Answer} {rest : Supervised WorkerResult}
    (run : After (runInner turns spec) trace rest) {before later : Trace Call Call.Answer} {c : Call}
    {r : c.Answer} (split : trace = before ++ ⟨c, r⟩ :: later) : Lawful (logOf spec before) c :=
  run.permits (obeys_runInner turns spec) (fun _ _ => trivial) split

theorem run_final {turns : Nat} {trace : Trace Call Call.Answer} {result : WorkerResult}
    (run : After (runInner turns spec) trace (pure result)) : Final spec (logOf spec trace) result :=
  run.result (obeys_runInner turns spec) fun _ _ => trivial

/-- The calls that call `wait` of the process. -/
def callsWait : Call → Prop
  | .select _ _ | .gracefulWait _ | .reap _ => True
  | _ => False

/-- `wait` is not called again once it has returned an exit; and where a live process was owned,
every result but a cleanup failure comes after exactly one exit and a membership query that found
no member after it. -/
theorem waited_once (turns : Nat) (trace : Trace Call Call.Answer) (rest : Supervised WorkerResult)
    (run : After (runInner turns spec) trace rest) :
    (∀ before c r later, trace = before ++ ⟨c, r⟩ :: later → callsWait c →
      (logOf spec before).exits = []) ∧
      ∀ result, rest = pure result → (logOf spec trace).launch ≠ none →
        (∀ m, result ≠ .cleanupFailure m) → Reaped (logOf spec trace) := by
  constructor
  · intro before c r later split waits
    have fits := run_lawful run split
    cases c <;> first | exact fits | cases waits
  · intro result same launched other
    subst same
    have owned := (run_final run).owned launched
    apply owned.reaped
    by_cases slipped : Slipped spec (logOf spec trace)
    · exact slipped.2.1
    · by_contra faults
      rcases (owned.precedence slipped).cleanup faults with ⟨m, same, _⟩
      exact other m same

/-- Where a live process was owned, the result of a run keeps the precedence exactly when the sink
lost nothing in the teardown of a launch whose evidence was refused. -/
theorem precedence_iff (turns : Nat) (trace : Trace Call Call.Answer) (result : WorkerResult)
    (run : After (runInner turns spec) trace (pure result))
    (launched : (logOf spec trace).launch ≠ none) :
    Precedence (logOf spec trace) result ↔ ¬ Slipped spec (logOf spec trace) := by
  have owned := (run_final run).owned launched
  constructor
  · intro precedence slipped
    rcases owned.slipped slipped with ⟨m, same⟩
    rcases precedence.observation slipped.2.1 slipped.2.2 with ⟨m', other, _⟩
    rw [same] at other
    cases other
  · exact owned.precedence

namespace PrecedenceSample

def sandboxed : WorkerSpec :=
  { workerId := "w"
    executable := "/bin/true"
    arguments := []
    workingDirectory := "/"
    environment := []
    stdin := .null
    output := ⟨16, 4, 1000000000, none⟩
    cancellation := ⟨0⟩
    heartbeat := ⟨false, 0⟩
    boundaryRequirement := .requireFullyEnforced }

def attestation : BoundaryAttestation := ⟨.sandboy, .fullyEnforced⟩

def leader : ProcessIdentity := ⟨7, 7, 1⟩

def launch (evidence : BoundaryEvidence) : Trace Call Call.Answer :=
  [⟨.attestation, attestation⟩, ⟨.publish (.boundaryAttested attestation), .done ()⟩,
    ⟨.transition .created .starting, ()⟩, ⟨.cancelRequested, false⟩,
    ⟨.publish .spawnRequested, .done ()⟩, ⟨.spawn (spawnSpec sandboxed), some (.ok evidence)⟩,
    ⟨.identity, leader⟩]

def teardown (published : Bounded ObservationError Unit) : Trace Call Call.Answer :=
  [⟨.forceStop .teardown, .done ()⟩, ⟨.reap .teardown, .done (.signal 9)⟩,
    ⟨.members .teardown, .done [leader]⟩, ⟨.publish (.descendantsRemaining [leader]), published⟩,
    ⟨.forceStop .teardown, .done ()⟩, ⟨.members .teardown, .done []⟩,
    ⟨.transition .starting .failedToStart, ()⟩]

theorem refused_run (published : Bounded ObservationError Unit) :
    After (runInner 1 sandboxed) (launch .unconfined ++ teardown published)
      (pure (.failedToStart (evidenceMessage sandboxed attestation .unconfined))) := by
  cases published with
  | done u => exact .answered (.answered (.answered (.answered (.answered (.answered (.answered
      (.answered (.answered (.answered (.answered (.answered (.answered (.answered .here)))))))))))))
  | failed err => exact .answered (.answered (.answered (.answered (.answered (.answered (.answered
      (.answered (.answered (.answered (.answered (.answered (.answered (.answered .here)))))))))))))
  | timedOut => exact .answered (.answered (.answered (.answered (.answered (.answered (.answered
      (.answered (.answered (.answered (.answered (.answered (.answered (.answered .here)))))))))))))

end PrecedenceSample

open PrecedenceSample

theorem waited_once_refused :
    Reaped (logOf sandboxed (launch .unconfined ++ teardown (.done ()))) :=
  (waited_once 1 _ _ (refused_run (.done ()))).2 _ rfl nofun nofun

theorem precedence_iff_refused :
    Precedence (logOf sandboxed (launch .unconfined ++ teardown (.done ())))
      (.failedToStart (evidenceMessage sandboxed attestation .unconfined)) :=
  (precedence_iff 1 _ _ (refused_run (.done ())) nofun).mpr fun slipped => slipped.2.2 rfl

/-- The loss of the remaining members is not reported where the evidence was refused. -/
theorem precedence_slips :
    After (runInner 1 sandboxed) (launch .unconfined ++ teardown .timedOut)
        (pure (.failedToStart (evidenceMessage sandboxed attestation .unconfined))) ∧
      (logOf sandboxed (launch .unconfined ++ teardown .timedOut)).launch ≠ none ∧
      ¬ Precedence (logOf sandboxed (launch .unconfined ++ teardown .timedOut))
        (.failedToStart (evidenceMessage sandboxed attestation .unconfined)) := by
  refine ⟨refused_run .timedOut, nofun, ?_⟩
  intro precedence
  rcases precedence.observation rfl nofun with ⟨m, same, _⟩
  cases same

end O7Formal.Worker
