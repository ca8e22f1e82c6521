import O7Formal.Dispatch.Continue

/-! Which calls the projection of a run makes: it asks the ledger and nobody else. -/

namespace O7Formal.Dispatch

open Program
open O7Formal.Ledger (Op Stamp)

section Any

variable {M α : Type} {p : Protocol Call Call.Answer M} {kind : M → Prop}

theorem keeps_ofExcept {ε : Type} (x : Except ε α) : Keeps p kind (ofExcept x).run :=
  keeps_pure x

theorem keeps_failingAs {ε ε' : Type} {f : ε → ε'} {x : Fallible ε α}
    (keeps : Keeps p kind x.run) : Keeps p kind (failingAs f x).run :=
  keeps_bind keeps fun _ => keeps_pure _

theorem keeps_caught {ε ε' : Type} {x : Fallible ε α} (keeps : Keeps p kind x.run) :
    Keeps p kind (caught x : Fallible ε' (Except ε α)).run :=
  keeps_lift keeps

theorem keeps_okOrThrow (x : Option α) (why : String) : Keeps p kind (okOrThrow x why).run := by
  cases x with
  | none => exact keeps_throw _
  | some a => exact keeps_return a

theorem keeps_ensure (holds : Prop) [Decidable holds] (why : String) :
    Keeps p kind (ensure holds why).run := by
  unfold ensure
  split
  · exact keeps_return _
  · exact keeps_throw _

end Any

/-- An operation that binds no command to a run and completes none by its run. -/
def rebinds : Op → Bool
  | .rebindCommandChildRun .. | .reconcileCompletedCommands _
  | .rebindCommandChildRunIfCurrent .. => true
  | _ => false

/-- The clock, a read of the ledger, or such an operation. -/
def Projects : Call → Prop
  | .stamp | .run _ | .conversation _ | .runningAttempt _ | .latestAttempt _ => True
  | .ledger op => rebinds op = false
  | _ => False

section Projection

variable {α : Type}

theorem only_stamp : Only Projects stampCall := only_perform trivial
theorem only_ledgerRun (id : RunId) : Only Projects (ledgerRun id).run := only_perform trivial
theorem only_ledgerConversation (id : String) : Only Projects (ledgerConversation id).run :=
  only_perform trivial
theorem only_ledgerOp {op : Op} (plain : rebinds op = false) : Only Projects (ledgerOp op).run :=
  only_perform plain

theorem only_ledgerCall {read : Ledger.Reply → Option α} {op : Stamp → Op}
    (plain : ∀ stamp, rebinds (op stamp) = false) : Only Projects (ledgerCall read op).run := by
  apply keeps_try (keeps_lift only_stamp)
  intro stamp
  apply keeps_try (only_ledgerOp (plain stamp))
  intro reply
  exact keeps_okOrThrow _ _

theorem only_openProjection (conversationId : String) :
    Only Projects (openProjection conversationId).run := by
  apply keeps_try (only_ledgerConversation _)
  intro found
  apply keeps_try (keeps_okOrThrow _ _)
  intro _
  exact keeps_return _

/-- An operation that creates, starts, notes or seals a run. -/
def records : Op → Bool
  | .createRunWithId .. | .startRun .. | .createAttempt .. | .appendSystemNote ..
  | .completeRun .. | .failRun .. | .blockRun .. | .errorRun ..
  | .repairInterruptedRunToTerminal .. => true
  | _ => false

/-- The clock, a read of the ledger, or such an operation. -/
def Records : Call → Prop
  | .stamp | .run _ | .conversation _ | .runningAttempt _ | .latestAttempt _ => True
  | .ledger op => records op = true
  | _ => False

theorem projects_of_records (c : Call) (recording : Records c) : Projects c := by
  cases c with
  | ledger op => cases op <;> first | rfl | cases recording
  | stamp | run _ | conversation _ | runningAttempt _ | latestAttempt _ => trivial
  | _ => cases recording

theorem records_ledgerCall {read : Ledger.Reply → Option α} {op : Stamp → Op}
    (recording : ∀ stamp, records (op stamp) = true) : Only Records (ledgerCall read op).run := by
  apply keeps_try (keeps_lift (only_perform trivial))
  intro stamp
  apply keeps_try
  · exact only_perform (recording stamp)
  · intro reply
    exact keeps_okOrThrow _ _

theorem records_attachedAttempt (run : Ledger.Run) : Only Records (attachedAttempt run).run := by
  unfold attachedAttempt
  split
  · apply keeps_try (only_perform trivial)
    intro found
    cases found with
    | some attempt => exact keeps_return _
    | none =>
        apply keeps_try
        · exact records_ledgerCall fun _ => rfl
        · intro made
          exact keeps_return _
  · apply keeps_try (only_perform trivial)
    intro last
    exact keeps_return _

theorem records_startQueued (run : Ledger.Run) : Only Records (startQueued run).run := by
  unfold startQueued
  split
  · apply keeps_try
    · exact records_ledgerCall fun _ => rfl
    · intro _
      exact keeps_return _
  · exact keeps_return _

theorem records_attachRun (conversationId : String) (runId : CanonicalRunId) (agent role : String)
    (parentRunId : Option CanonicalRunId) :
    Only Records (attachRun conversationId runId agent role parentRunId).run := by
  apply keeps_try
  · exact records_ledgerCall fun _ => rfl
  intro run
  apply keeps_try (records_startQueued run)
  intro _
  apply keeps_try (records_attachedAttempt run)
  intro attemptId
  exact keeps_return _

theorem only_attachRun (conversationId : String) (runId : CanonicalRunId) (agent role : String)
    (parentRunId : Option CanonicalRunId) :
    Only Projects (attachRun conversationId runId agent role parentRunId).run :=
  only_mono projects_of_records (records_attachRun conversationId runId agent role parentRunId)

theorem records_project (env : Setting) (projector : LiveLedgerProjector) (event : Run.RunEvent) :
    Only Records (project env projector event).run := by
  apply keeps_try (keeps_lift (only_perform trivial))
  intro stamp
  apply keeps_try
  · exact only_perform rfl
  · intro _
    exact keeps_return _

theorem only_projectLive (env : Setting) (projector : LiveLedgerProjector)
    (event : Run.RunEvent) : Only Projects (projectLive env projector event) :=
  keeps_bind (only_mono projects_of_records (records_project env projector event))
    fun _ => keeps_pure _

theorem records_projectAll (env : Setting) (projector : LiveLedgerProjector)
    (events : List Run.RunEvent) : Only Records (projectAll env projector events) := by
  induction events with
  | nil => exact keeps_pure _
  | cons event rest ih =>
      apply keeps_bind (records_project env projector event)
      intro result
      exact keeps_bind ih fun _ => keeps_pure _

theorem only_projectAll (env : Setting) (projector : LiveLedgerProjector)
    (events : List Run.RunEvent) : Only Projects (projectAll env projector events) :=
  only_mono projects_of_records (records_projectAll env projector events)

theorem records_sealInner (projector : LiveLedgerProjector) (verdict : Run.Verdict)
    (repair : Bool) : Only Records (sealInner projector verdict repair).run := by
  apply keeps_try (only_perform trivial)
  intro found
  apply keeps_try (keeps_okOrThrow _ _)
  intro current
  split
  · exact keeps_return _
  · split
    · apply keeps_try
      · exact records_ledgerCall fun _ => rfl
      · intro _
        exact keeps_return _
    · split
      · exact keeps_throw _
      · apply keeps_try
        · apply records_ledgerCall
          intro stamp
          cases verdict <;> rfl
        intro _
        exact keeps_return _

theorem only_sealInner (projector : LiveLedgerProjector) (verdict : Run.Verdict)
    (repair : Bool) : Only Projects (sealInner projector verdict repair).run :=
  only_mono projects_of_records (records_sealInner projector verdict repair)

end Projection

end O7Formal.Dispatch
