import O7Formal.Dispatch.Protocol

/-! A continuation process and a request handler obey the protocol, whatever they are answered. -/

namespace O7Formal.Dispatch

open Program
open O7Formal.Ledger (Command CommandId Op Stamp)
open O7Formal.Run (EventChain RunContract RunEvent RunEventKind)

def Mode.Going (m : Mode) : Prop := m.refused = false

theorem calm_going : Calm Mode.Going := ⟨fun _ held => held, fun _ _ held => held⟩

section CatchUp

variable (env : Setting)

theorem stays_sealVerdict (projector : LiveLedgerProjector) (verdict : Option Run.Verdict) :
    Stays Mode.Going (sealVerdict projector verdict) := by
  cases verdict with
  | none => exact keeps_pure _
  | some verdict =>
      apply keeps_bind (stays_projects calm_going (only_sealInner projector verdict true))
      intro result
      exact keeps_pure _

theorem stays_backfillSession (runId : CanonicalRunId) (session : String) :
    Stays Mode.Going (backfillSession runId session).run := by
  apply keeps_try (keeps_failingAs (stays_projects calm_going (only_ledgerRun _)))
  intro current
  split
  · apply keeps_try
    · exact keeps_failingAs (stays_projects calm_going (only_ledgerCall fun _ => rfl))
    · intro _
      exact keeps_return _
  · split
    · exact keeps_return _
    · exact keeps_throw _

theorem stays_backfill (dir : RecordDir) (state : Run.RunState) (runId : CanonicalRunId) :
    Stays Mode.Going (backfill env dir state runId).run := by
  unfold backfill
  split
  · exact keeps_return _
  · apply keeps_try (keeps_ofExcept _)
    intro session
    exact stays_backfillSession _ _

theorem stays_catchUpRecord (runId : RunId) (expected : ExpectedIdentity) :
    Stays Mode.Going (catchUpRecord env runId expected).run := by
  apply keeps_try (keeps_lift (stays_record runId))
  intro dir
  apply keeps_try (keeps_ofExcept _)
  intro stream
  apply keeps_try (keeps_ofExcept _)
  intro first
  apply keeps_try (keeps_ofExcept _)
  intro binding
  apply keeps_try (keeps_ofExcept _)
  intro _
  apply keeps_try (keeps_failingAs (stays_projects calm_going (only_ledgerRun _)))
  intro existing
  apply keeps_try (keeps_ofExcept _)
  intro _
  apply keeps_try (keeps_ofExcept _)
  intro target
  apply keeps_try (keeps_ofExcept _)
  intro _
  apply keeps_try (keeps_ofExcept _)
  intro parent
  apply keeps_try (keeps_failingAs (stays_projects calm_going (only_openProjection _)))
  intro conversationId
  apply keeps_try (keeps_failingAs (stays_projects calm_going (only_attachRun _ _ _ _ _)))
  intro projector
  apply keeps_try (keeps_lift (stays_projects calm_going (only_projectAll _ _ _)))
  intro applied
  apply keeps_try (keeps_lift (stays_sealVerdict _ _))
  intro sealedToo
  apply keeps_try (stays_backfill _ _ _ _)
  intro sessionBackfill
  exact keeps_return _

end CatchUp

/-- It holds the lock of its run and has seen the command bound to it; once `dispatched`, its
record shows the dispatch. -/
structure Owns (a : ContinueArgs) (dispatched : Bool) (m : Mode) : Prop where
  held : m.held = some a.runId
  bound : m.bound = some a.commandId
  going : m.refused = false
  started : dispatched = true → m.started = true

theorem calm_owns (a : ContinueArgs) (dispatched : Bool) : Calm (Owns a dispatched) := by
  constructor
  · exact fun m owns => owns.going
  · exact fun m b owns => ⟨owns.held, owns.bound, owns.going, owns.started⟩

section Continue

variable (env : Setting) (a : ContinueArgs) (o : Outside) {dispatched : Bool}

theorem stays_writeRecord (file : RecordFile) :
    Stays (Owns a dispatched) (writeRecord a.runId file).run :=
  keeps_perform (fun _ owns => owns.held) fun _ _ owns => owns

theorem stays_appendEvent (event : RunEvent) :
    Stays (Owns a dispatched) (appendEvent a.runId event).run := by
  apply keeps_perform
  · exact fun m owns => owns.held
  · intro m r owns
    refine ⟨owns.held, owns.bound, owns.going, ?_⟩
    intro later
    change (m.started || _) = true
    rw [owns.started later, Bool.true_or]

theorem stays_appendOnly (chain : EventChain) (kind : RunEventKind) :
    Stays (Owns a dispatched) (appendOnly env a chain kind).run := by
  apply keeps_try (keeps_lift stays_clock)
  intro now
  apply keeps_try (keeps_ofExcept _)
  intro chain
  apply keeps_try (keeps_okOrThrow _ _)
  intro event
  apply keeps_try (stays_appendEvent a event)
  intro _
  exact keeps_return _

theorem stays_appendProjected (projector : LiveLedgerProjector) (chain : EventChain)
    (kind : RunEventKind) :
    Stays (Owns a dispatched) (appendProjected env a projector chain kind).run := by
  apply keeps_try (stays_appendOnly env a chain kind)
  intro appended
  apply keeps_try (keeps_lift (stays_projects (calm_owns a dispatched) (only_projectLive _ _ _)))
  intro _
  exact keeps_return _

theorem stays_materialize :
    Stays (Owns a dispatched) (materializeParentCandidateState env a o).run := by
  apply keeps_try (stays_attempt _)
  intro _
  apply keeps_try (stays_writeRecord a _)
  intro _
  apply keeps_try (stays_writeRecord a _)
  intro _
  apply keeps_try (stays_attempt _)
  intro _
  exact keeps_return _

theorem stays_captureSession (projector : LiveLedgerProjector) (chain : EventChain) :
    Stays (Owns a dispatched) (captureSession env a o projector chain).run := by
  unfold captureSession
  split
  · exact keeps_return _
  · apply keeps_try (stays_writeRecord a _)
    intro _
    exact stays_appendProjected env a _ _ _

theorem stays_writeCandidateStateReceipt :
    Stays (Owns a dispatched) (writeCandidateStateReceipt env a o).run := by
  apply keeps_try (stays_attempt _)
  intro _
  apply keeps_try (stays_writeRecord a _)
  intro _
  apply keeps_try (stays_writeRecord a _)
  intro _
  exact keeps_return _

theorem stays_runGate (projector : LiveLedgerProjector) (chain : EventChain) (step : GateStep) :
    Stays (Owns a dispatched) (runGate env a projector chain step).run := by
  unfold runGate
  split
  · exact keeps_try (stays_attempt _) fun _ => keeps_return _
  · apply keeps_try (keeps_ofExcept _)
    intro gate
    apply keeps_try (stays_appendProjected env a _ _ _)
    intro chain
    apply keeps_try (stays_attempt _)
    intro _
    split
    · exact stays_appendProjected env a _ _ _
    · apply keeps_try (stays_writeRecord a _)
      intro _
      exact stays_appendProjected env a _ _ _

theorem stays_runGates (projector : LiveLedgerProjector) (chain : EventChain)
    (steps : List GateStep) :
    Stays (Owns a dispatched) (runGates env a projector chain steps).run := by
  induction steps generalizing chain with
  | nil => exact keeps_return _
  | cons step rest ih =>
      apply keeps_try (stays_runGate env a projector chain step)
      intro chain
      exact ih chain

theorem stays_prepareRun (contract : RunContract) :
    Stays (Owns a dispatched) (prepareRun env a o contract).run := by
  have calm := calm_owns a dispatched
  apply keeps_try (stays_attempt _)
  intro _
  apply keeps_try (keeps_ofExcept _)
  intro runId
  apply keeps_try (keeps_ofExcept _)
  intro parentRunId
  apply keeps_try (stays_writeRecord a _)
  intro _
  apply keeps_try (stays_writeRecord a _)
  intro _
  apply keeps_try (stays_writeRecord a _)
  intro _
  apply keeps_try (stays_attempt _)
  intro _
  apply keeps_try (stays_appendOnly env a _ _)
  intro runStarted
  apply keeps_try (stays_projects calm (only_openProjection _))
  intro conversationId
  apply keeps_try (stays_projects calm (only_attachRun _ _ _ _ _))
  intro projector
  apply keeps_try (keeps_lift (stays_projects calm (only_projectLive _ _ _)))
  intro _
  apply keeps_try (stays_appendProjected env a _ _ _)
  intro chain
  apply keeps_try (stays_materialize env a o)
  intro evidence
  apply keeps_try (stays_appendProjected env a _ _ _)
  intro chain
  exact keeps_return _

theorem stays_finishRun (contract : RunContract) (chain : EventChain)
    (projector : LiveLedgerProjector) :
    Stays (Owns a dispatched) (finishRun env a o contract chain projector).run := by
  have calm := calm_owns a dispatched
  apply keeps_try (stays_appendProjected env a _ _ _)
  intro chain
  apply keeps_try (stays_captureSession env a o _ _)
  intro chain
  apply keeps_try (stays_writeRecord a _)
  intro _
  apply keeps_try (stays_writeRecord a _)
  intro _
  apply keeps_try (stays_appendProjected env a _ _ _)
  intro chain
  apply keeps_try (keeps_okOrThrow _ _)
  intro _
  apply keeps_try (stays_writeCandidateStateReceipt env a o)
  intro candidateReceipt
  apply keeps_try (stays_appendProjected env a _ _ _)
  intro chain
  apply keeps_try (stays_attempt _)
  intro _
  apply keeps_try (stays_runGates env a _ _ _)
  intro chain
  apply keeps_try (stays_appendProjected env a _ _ _)
  intro chain
  apply keeps_try (keeps_ofExcept _)
  intro verdict
  apply keeps_try (keeps_caught (stays_projects calm (only_sealInner _ _ _)))
  intro _
  apply keeps_try (stays_writeRecord a _)
  intro _
  exact keeps_return _

theorem Owns.weaken {m : Mode} (owns : Owns a dispatched m) : Owns a false m :=
  ⟨owns.held, owns.bound, owns.going, nofun⟩

theorem push_last {chain chain' : EventChain} {now : Option Int64} {kind : RunEventKind}
    {event : RunEvent} (pushed : chain.push env.sha256 now kind = .ok chain')
    (last : chain'.out.getLast? = some event) : event.kind = kind := by
  rcases EventChain.push_ok pushed with ⟨eventId, time, _, _, rfl⟩
  rw [List.getLast?_append, List.getLast?_singleton] at last
  cases last
  rfl

theorem append_dispatches {chain : EventChain} {event : RunEvent} {m : Mode}
    (kind : event.kind = .agentStarted) (owns : Owns a false m) :
    (do appendEvent a.runId event; pure (chain, event) :
      Fallible Fault (EventChain × RunEvent)).run.Obeys protocol m
        fun r m' => Owns a r.isOk m' := by
  have may : protocol.permits m (.append a.runId event) := owns.held
  apply obeys_try
  apply obeys_perform may
  intro r _
  constructor
  · intro done appended
    refine ⟨owns.held, owns.bound, owns.going, ?_⟩
    intro _
    change (m.started || r.isOk && decide (event.kind = .agentStarted)) = true
    rw [appended, decide_eq_true kind, Bool.and_true]
    exact Bool.or_true _
  · intro e _
    exact ⟨owns.held, owns.bound, owns.going, nofun⟩

theorem appendOnly_dispatches (chain : EventChain) {m : Mode} (owns : Owns a false m) :
    (appendOnly env a chain .agentStarted).run.Obeys protocol m
      fun r m' => Owns a r.isOk m' := by
  have clock : Stays (Owns a false) clockCall := stays_clock
  apply obeys_try
  apply obeys_lift
  apply obeys_mono (clock m owns)
  intro now m₁ owns₁
  constructor
  · intro now' _
    apply obeys_try
    apply obeys_ofExcept
    constructor
    · intro chain' minted
      have pushed := Fallible.mapError_ok_iff.mp minted
      apply obeys_try
      apply obeys_okOrThrow
      · intro event last
        constructor
        · intro event' same
          cases same
          exact append_dispatches a (push_last env pushed last) owns₁
        · intro e failed
          cases failed
      · constructor
        · intro event found
          cases found
        · intro e _
          exact owns₁
    · intro e _
      exact owns₁
  · intro e failed
    cases failed

theorem stays_continueExecute (contract : RunContract) :
    Stays (Owns a false) (continueExecute env a o contract).run := by
  apply keeps_try (stays_prepareRun env a o contract)
  intro prepared m owns
  apply obeys_try
  apply obeys_try
  apply obeys_mono (appendOnly_dispatches env a _ owns)
  intro appended m₁ owns₁
  refine ⟨?_, fun e failed => ⟨Fallible.error_not_ok, fun e' _ => owns₁.weaken⟩⟩
  intro event here
  rw [here] at owns₁
  have projecting := stays_projects (calm_owns a true) (only_projectLive env prepared.2 event.2)
  apply obeys_try
  apply obeys_lift
  apply obeys_mono (projecting m₁ owns₁)
  intro projected m₂ owns₂
  refine ⟨?_, fun e _ => ⟨Fallible.error_not_ok, fun e' _ => owns₂.weaken⟩⟩
  intro _ _
  refine ⟨?_, Fallible.ok_not_error⟩
  intro chain _
  have may : protocol.permits m₂ (.invoke a.commandId a.runId) :=
    ⟨owns₂.held, owns₂.bound, owns₂.started rfl⟩
  apply obeys_try
  apply obeys_perform may
  intro invoked _
  refine ⟨?_, fun e _ => owns₂.weaken⟩
  intro _ _
  apply obeys_mono (stays_finishRun env a o contract chain prepared.2 m₂ owns₂)
  intro finished m₃ owns₃
  exact owns₃.weaken

theorem stays_markRejectedIfUnattached :
    Stays (Owns a false) (markRejectedIfUnattached a) := by
  apply keeps_bind
  · exact stays_projects (calm_owns a false) (only_ledgerCall fun _ => rfl)
  · intro _
    exact keeps_pure _

theorem stays_checkParent : Stays (Owns a dispatched) (checkParent a).run := by
  apply keeps_try (stays_projects (calm_owns a dispatched) (only_ledgerRun _))
  intro found
  apply keeps_try (keeps_okOrThrow _ _)
  intro parent
  apply keeps_try (keeps_ensure _ _)
  intro _
  apply keeps_try (keeps_okOrThrow _ _)
  intro session
  exact keeps_ofExcept _

theorem stays_completeCommand (session : Option String) :
    Stays (Owns a false) (completeCommand a session).run := by
  have completes : Stays (Owns a false) (do
      let _ ← ledgerCall asCompletion fun stamp =>
        .markCommandCompletedIfBound a.commandId a.runId stamp.now : Fallible Fault Unit).run := by
    apply keeps_try
    · exact stays_projects (calm_owns a false) (only_ledgerCall fun _ => rfl)
    · intro _
      exact keeps_return _
  cases session with
  | none => exact completes
  | some session =>
      apply keeps_try
      · exact stays_projects (calm_owns a false) (only_ledgerCall fun _ => rfl)
      · intro _
        exact completes

theorem stays_dispatchRun : Stays (Owns a false) (dispatchRun env a o).run := by
  apply keeps_try (stays_attempt _)
  intro _
  apply keeps_try (stays_checkParent a)
  intro _
  apply keeps_try (keeps_caught (stays_attempt _))
  intro resolved
  split
  · apply keeps_try (keeps_lift (stays_markRejectedIfUnattached a))
    intro _
    exact keeps_throw _
  · apply keeps_try (stays_attempt _)
    intro _
    apply keeps_try (keeps_caught (stays_continueExecute env a o _))
    intro executed
    split
    · apply keeps_try (keeps_lift (stays_markRejectedIfUnattached a))
      intro _
      exact keeps_throw _
    · apply keeps_try (keeps_caught (stays_completeCommand a _))
      intro _
      exact keeps_return _

def Mode.locked (runId : RunId) : Mode := ⟨some runId, none, false, false, none, false, false⟩

theorem stillBound_owns :
    (commandStillBoundToThisRun a).run.Obeys protocol (.locked a.runId)
      fun r m' => r = .ok true → Owns a false m' := by
  have may : protocol.permits (.locked a.runId) (.command a.commandId) := trivial
  apply obeys_try
  apply obeys_perform may
  intro r _
  constructor
  · intro found read bound
    cases read
    simp only [Except.ok.injEq, decide_eq_true_eq] at bound
    cases found with
    | none => cases bound
    | some row =>
        have here : row.childRunId = some a.runId := bound
        change Owns a false (if (Mode.locked a.runId).held ≠ none ∧
          row.childRunId = (Mode.locked a.runId).held then _ else _)
        rw [if_pos ⟨Option.some_ne_none _, here⟩]
        exact ⟨rfl, rfl, rfl, nofun⟩
  · intro e _ failed
    cases failed

theorem continueRun_obeys :
    (continueRun env a o).run.Obeys protocol .start fun _ _ => True := by
  have may : protocol.permits .start (.tryLock a.runId) := rfl
  have opened : Stays (fun m => m = Mode.start) (attempt "opening the lock file").run :=
    stays_attempt _
  apply obeys_try
  apply obeys_mono (opened .start rfl)
  intro r m same
  rw [same]
  refine ⟨?_, fun _ _ => trivial⟩
  intro _ _
  apply obeys_try
  apply obeys_lift
  apply obeys_perform may
  intro lock _
  refine ⟨?_, Fallible.ok_not_error⟩
  intro lock' same
  cases same
  cases lock with
  | wouldBlock => exact trivial
  | failed errno => exact trivial
  | acquired =>
      apply obeys_try
      apply obeys_mono (stillBound_owns a)
      intro r m owned
      refine ⟨?_, fun _ _ => trivial⟩
      intro bound read
      cases bound with
      | false => exact trivial
      | true =>
          apply obeys_mono (stays_dispatchRun env a o m (owned read))
          exact fun _ _ _ => trivial

end Continue

section Handler

variable (env : Setting) (command : Command) (oldRunId : RunId)

theorem stays_recoverSealedChild :
    Stays Mode.Going (recoverSealedChild env command oldRunId).run := by
  apply keeps_try (keeps_failingAs (stays_catchUpRecord env _ _))
  intro receipt
  split
  · exact keeps_throw _
  · apply keeps_try
    · exact keeps_caught (stays_projects calm_going (only_ledgerCall fun _ => rfl))
    · intro completed
      split
      · exact keeps_return _
      · exact keeps_throw _
      · exact keeps_throw _
      · exact keeps_throw _

theorem spawn_obeys {conversationId parentRunId : String} {runId : RunId} {m : Mode}
    (mine : m.fresh = some runId) (bound : command.childRunId = some runId) :
    (spawnContinue conversationId parentRunId command).run.Obeys protocol m
      fun _ _ => True := by
  have named : command.childRunId.getD "" = runId := by
    rw [bound]
    rfl
  have may : protocol.permits m (.spawn ⟨conversationId, parentRunId, command.commandText,
      command.childRunId.getD "", command.commandId⟩) := by
    rw [named]
    exact mine
  exact obeys_perform may fun _ _ => trivial

theorem obeys_caught {ε ε' α : Type} {x : Fallible ε α} {m : Mode}
    {post : Except ε' (Except ε α) → Mode → Prop}
    (obeys : x.run.Obeys protocol m fun r m' => post (.ok r) m') :
    (caught x : Fallible ε' (Except ε α)).run.Obeys protocol m post :=
  obeys_lift obeys

theorem obeys_failingAs {ε ε' α : Type} {f : ε → ε'} {x : Fallible ε α} {m : Mode}
    {post : Except ε' α → Mode → Prop}
    (obeys : x.run.Obeys protocol m fun r m' => post (r.mapError f) m') :
    (failingAs f x).run.Obeys protocol m post :=
  obeys_bind obeys

theorem ledgerCall_obeys {α : Type} {read : Ledger.Reply → Option α} {op : Stamp → Op} {m : Mode}
    {post : Except Fault α → Mode → Prop} (permitted : ∀ stamp, m.permits (.ledger (op stamp)))
    (replied : ∀ stamp reply a, answers (.ledger (op stamp)) (.ok reply) → read reply = some a →
      post (.ok a) (m.learns (.ledger (op stamp)) (.ok reply)))
    (failed : ∀ e b, post (.error e) { m with wrote := b }) :
    (ledgerCall read op).run.Obeys protocol m post := by
  apply obeys_try
  apply obeys_lift
  have anytime : protocol.permits m .stamp := trivial
  apply obeys_perform anytime
  intro stamp _
  refine ⟨?_, Fallible.ok_not_error⟩
  intro stamp' same
  cases same
  have may : protocol.permits m (.ledger (op stamp)) := permitted stamp
  apply obeys_try
  apply obeys_perform may
  intro r answered
  constructor
  · intro reply here
    cases here
    apply obeys_okOrThrow
    · intro a found
      exact replied stamp reply a answered found
    · exact failed _ _
  · intro e _
    exact failed _ _

/-- The mode of a redrive that holds the old child's lock and has found no dispatch. -/
def Mode.mayRebind (m : Mode) (runId : RunId) : Prop :=
  m.held = some runId ∧ m.unstarted = true ∧ m.bound = none ∧ m.refused = false

theorem redriveChild_obeys {conversationId parentRunId : String} {m : Mode}
    (may : m.mayRebind oldRunId) :
    (redriveChild command oldRunId conversationId parentRunId).run.Obeys protocol m
      fun _ _ => True := by
  have anytime : protocol.permits m .generateRunId := trivial
  apply obeys_try
  apply obeys_lift
  apply obeys_perform anytime
  intro runId _
  refine ⟨?_, Fallible.ok_not_error⟩
  intro fresh same
  cases same
  apply obeys_try
  apply obeys_caught
  apply ledgerCall_obeys
  · intro stamp
    exact ⟨may.2.2.2, may.1, may.2.1, may.2.2.1⟩
  · intro stamp reply outcome answered found
    refine ⟨?_, Fallible.ok_not_error⟩
    intro outcome' same
    cases same
    cases outcome with
    | rebound row =>
        have shape : reply = .rebind (.rebound row) := by
          cases reply <;> cases found
          rfl
        have bound : row.childRunId = some runId := answered row (by rw [shape])
        apply obeys_try
        apply obeys_caught
        apply obeys_mono (spawn_obeys row rfl bound)
        intro spawned m' _
        exact ⟨fun _ _ => trivial, Fallible.ok_not_error⟩
    | lostRace row => exact trivial
    | notEligible row => exact trivial
    | notFound => exact trivial
  · intro e b
    refine ⟨?_, Fallible.ok_not_error⟩
    intro failed same
    cases same
    exact trivial

theorem decideLocked_obeys (conversationId parentRunId : String) :
    (decideLocked env command oldRunId conversationId parentRunId).run.Obeys protocol
      (.locked oldRunId) fun _ _ => True := by
  have may : protocol.permits (.locked oldRunId) (.classify oldRunId command) := rfl
  apply obeys_try
  apply obeys_lift
  apply obeys_perform may
  intro state _
  refine ⟨?_, Fallible.ok_not_error⟩
  intro state' same
  cases same
  cases state with
  | invalid reason => exact trivial
  | validUnsealedDispatchAmbiguous progress => exact trivial
  | validSealed =>
      have going : Mode.Going (protocol.learns (.locked oldRunId) (.classify oldRunId command)
        .validSealed) := rfl
      apply obeys_mono (stays_recoverSealedChild env command oldRunId _ going)
      exact fun _ _ _ => trivial
  | absent =>
      apply redriveChild_obeys
      exact ⟨rfl, by simp [protocol, Mode.learns, Mode.locked, ChildRecordState.redrivable], rfl, rfl⟩
  | validUnsealedPreDispatch =>
      apply redriveChild_obeys
      exact ⟨rfl, by simp [protocol, Mode.learns, Mode.locked, ChildRecordState.redrivable], rfl, rfl⟩

theorem stays_reread (commandId : CommandId) (vanished failed : String) :
    Stays (fun m => m = Mode.start) (reread commandId vanished failed).run := by
  have unlocked : Stays (fun m => m = Mode.start) (ledgerCommand commandId).run := by
    apply keeps_perform
    · exact fun _ _ => trivial
    · intro m r same
      subst same
      cases r with
      | error e => rfl
      | ok found =>
          cases found with
          | none => rfl
          | some row =>
              change (if Mode.start.held ≠ none ∧ row.childRunId = Mode.start.held then
                { Mode.start with bound := some commandId } else Mode.start) = Mode.start
              exact if_neg fun both => both.1 rfl
  apply keeps_try (keeps_caught unlocked)
  intro found
  split
  · exact keeps_throw _
  · exact keeps_throw _
  · exact keeps_return _

theorem orRefuse_obeys (current : Command) {otherwise : Fallible RedriveError Command}
    (later : otherwise.run.Obeys protocol .start fun _ _ => True) :
    (orRefuse oldRunId current otherwise).run.Obeys protocol .start fun _ _ => True := by
  have may : protocol.permits .start (.classify oldRunId current) := rfl
  apply obeys_try
  apply obeys_lift
  apply obeys_perform may
  intro state _
  refine ⟨?_, Fallible.ok_not_error⟩
  intro state' same
  cases same
  cases state with
  | invalid reason => exact trivial
  | validUnsealedDispatchAmbiguous progress => exact trivial
  | validSealed => exact later
  | absent => exact later
  | validUnsealedPreDispatch => exact later

theorem convergeOnWinner_obeys (commandId : CommandId) (polls : Nat) :
    (convergeOnWinner commandId oldRunId polls).run.Obeys protocol .start fun _ _ => True := by
  induction polls with
  | zero =>
      apply obeys_try
      apply obeys_mono (stays_reread _ _ _ _ rfl)
      intro r m same
      refine ⟨?_, fun _ _ => trivial⟩
      intro current _
      rw [same]
      exact orRefuse_obeys oldRunId current trivial
  | succ polls ih =>
      apply obeys_try
      apply obeys_mono (stays_reread _ _ _ _ rfl)
      intro r m same
      refine ⟨?_, fun _ _ => trivial⟩
      intro current _
      rw [same]
      split
      · exact trivial
      · exact orRefuse_obeys oldRunId current ih

theorem redriveOrRecoverLocked_obeys (polls : Nat) (conversationId parentRunId : String) :
    (redriveOrRecoverLocked env polls command oldRunId conversationId parentRunId).run.Obeys
      protocol .start fun _ _ => True := by
  have opened : Stays (fun m => m = Mode.start) (attempt "opening the lock file").run :=
    stays_attempt _
  have may : protocol.permits .start (.tryLock oldRunId) := rfl
  apply obeys_try
  apply obeys_caught
  apply obeys_mono (opened .start rfl)
  intro r m same
  rw [same]
  refine ⟨?_, Fallible.ok_not_error⟩
  intro r' here
  cases here
  cases r with
  | error e => exact trivial
  | ok done =>
      apply obeys_try
      apply obeys_lift
      apply obeys_perform may
      intro lock _
      refine ⟨?_, Fallible.ok_not_error⟩
      intro lock' same
      cases same
      cases lock with
      | failed errno => exact trivial
      | wouldBlock => exact convergeOnWinner_obeys oldRunId command.commandId polls
      | acquired => exact decideLocked_obeys env command oldRunId conversationId parentRunId

theorem bindAndSpawn_obeys (request : Ledger.NewCommand) {m : Mode} (going : m.refused = false) :
    (bindAndSpawn request command).run.Obeys protocol m fun _ _ => True := by
  have anytime : protocol.permits m .generateRunId := trivial
  apply obeys_try
  apply obeys_lift
  apply obeys_perform anytime
  intro candidate _
  refine ⟨?_, Fallible.ok_not_error⟩
  intro candidate' same
  cases same
  apply obeys_try
  apply obeys_failingAs
  apply ledgerCall_obeys
  · exact fun stamp => ⟨going, trivial⟩
  · intro stamp reply bound _ _
    refine ⟨?_, Fallible.ok_not_error⟩
    intro bound' same
    cases same
    split
    · rename_i won
      apply obeys_try
      apply obeys_failingAs
      apply obeys_mono (spawn_obeys bound rfl won)
      intro spawned m' _
      exact ⟨fun _ _ => trivial, fun _ _ => trivial⟩
    · exact trivial
  · intro e b
    exact ⟨Fallible.error_not_ok, fun _ _ => trivial⟩

theorem replayBound_obeys (req : CommandRequest) (runId : RunId) :
    (replayBound env req command runId).run.Obeys protocol .start fun _ _ => True := by
  have checked : Stays (fun m => m = Mode.start) (commandIsStale env command) :=
    keeps_bind stays_stamp fun _ => keeps_pure _
  unfold replayBound
  split
  · apply obeys_try
    apply obeys_lift
    apply obeys_mono (checked .start rfl)
    intro stale m same
    rw [same]
    refine ⟨?_, Fallible.ok_not_error⟩
    intro stale' here
    cases here
    split
    · apply obeys_failingAs
      exact redriveOrRecoverLocked_obeys env command runId _ _ _
    · exact trivial
  · exact trivial

theorem dispatchOrRedrive_obeys (req : CommandRequest) (stamp : Stamp) :
    (dispatchOrRedrive env req command).run.Obeys protocol
      (Mode.start.learns (.ledger (.createCommand req.request ⟨req.key⟩ stamp.eventId stamp.now))
        (.ok (.command command))) fun _ _ => True := by
  unfold dispatchOrRedrive
  cases bound : command.childRunId with
  | none => exact bindAndSpawn_obeys command req.request rfl
  | some runId =>
      have replayed : Mode.start.learns (.ledger (.createCommand req.request ⟨req.key⟩
          stamp.eventId stamp.now)) (.ok (.command command)) = .start := by
        simp [Mode.learns, replays, bound, Mode.start]
      rw [replayed]
      exact replayBound_obeys env command req runId

theorem createCommand_obeys (req : CommandRequest) :
    (createCommand env req).run.Obeys protocol .start fun _ _ => True := by
  apply obeys_try
  apply obeys_failingAs
  apply ledgerCall_obeys
  · exact fun stamp => ⟨rfl, trivial⟩
  · intro stamp reply command _ found
    refine ⟨?_, Fallible.ok_not_error⟩
    intro command' same
    cases same
    have shape : reply = .command command := by
      cases reply <;> cases found
      rfl
    subst shape
    apply obeys_try
    apply obeys_mono (dispatchOrRedrive_obeys env command req stamp)
    intro final m' _
    exact ⟨fun _ _ => trivial, fun _ _ => trivial⟩
  · intro e b
    exact ⟨Fallible.error_not_ok, fun _ _ => trivial⟩

end Handler

end O7Formal.Dispatch
