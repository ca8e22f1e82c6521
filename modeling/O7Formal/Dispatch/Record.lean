import O7Formal.Ledger.Commands
import O7Formal.Run.Replay

/-! The record directory of a run, and how a command's bound child is classified by it. -/

namespace O7Formal.Dispatch

open Fallible
open O7Formal.Ledger (Command)
open O7Formal.Run (ArtifactResolver Digest256 Externals ReplayError RunEvent RunState Sha256)

abbrev RunId := Ledger.RunId
abbrev CanonicalRunId := Run.RunId

structure LedgerBinding where
  schema : UInt32
  runId : String
  conversationId : String
  agent : String
  role : String
  parentRunId : Option String
  deriving DecidableEq, Repr

structure CommandBinding where
  schema : UInt32
  commandId : String
  conversationId : String
  parentRunId : String
  childRunId : String
  commandSha256 : String
  deriving DecidableEq, Repr

structure ProviderSessionReceipt where
  schema : UInt32
  runId : String
  engine : String
  provider : String
  model : String
  sessionId : String
  deriving DecidableEq, Repr

/-- A line of `events.jsonl`, as the reader takes it. -/
inductive Line where
  | blank
  | event (event : RunEvent)
  | malformed (why : String)
  deriving DecidableEq

inductive EventsFile where
  | missing
  | unreadable (why : String)
  | lines (held : List Line)
  deriving DecidableEq

def EventsFile.append (file : EventsFile) (event : RunEvent) : EventsFile :=
  match file with
  | .missing => .lines [.event event]
  | .unreadable why => .unreadable why
  | .lines held => .lines (held ++ [.event event])

structure RecordDir where
  base : String
  events : EventsFile
  ledgerBinding : Except String (Option LedgerBinding)
  commandBinding : Except String (Option CommandBinding)
  read : String → Except String (List UInt8)

def eventsPath (dir : RecordDir) : String := dir.base ++ "/events.jsonl"

/-- Every component of the path is a plain name. A `.` is dropped, except at the front. -/
def confined (locator : String) : Bool :=
  let parts := locator.toList.splitOn '/'
  decide (locator ≠ "") && decide (parts.head? ≠ some []) && decide (parts.head? ≠ some ['.']) &&
    parts.all fun part => decide (part ≠ ['.', '.'])

def escapes : String :=
  "locator escapes the record directory (absolute, `..`, or empty) — refused before I/O"

def recordDirResolver (dir : RecordDir) : ArtifactResolver := fun a =>
  if confined a.locator = false then .error ⟨a.locator, escapes⟩
  else (dir.read a.locator).mapError fun why => ⟨a.locator, why⟩

inductive DispatchProgress where
  | agentStarted
  | agentExited
  | providerSessionCaptured
  | postProviderWork
  deriving DecidableEq, Repr

def dispatchProgress (state : RunState) : Option DispatchProgress :=
  if state.patch ≠ none ∨ state.gates ≠ ∅ then some .postProviderWork
  else if state.providerSessionReceipt ≠ none then some .providerSessionCaptured
  else match state.agent with
    | .exited _ => some .agentExited
    | .started => some .agentStarted
    | .notObserved => none

/-- Why a record is invalid; the text of a replay error is kept as the error. -/
inductive Reason where
  | text (why : String)
  | replay (error : ReplayError)
  deriving DecidableEq

inductive ChildRecordState where
  | absent
  | validUnsealedPreDispatch
  | validUnsealedDispatchAmbiguous (progress : DispatchProgress)
  | validSealed
  | invalid (reason : Reason)
  deriving DecidableEq

def supportedAgent : String := "claude"
def supportedRole : String := "implementer"
def supportedBindingSchema : UInt32 := 1

/-- Every line that is not blank, from line `i` on. -/
def parseFrom (describe : String → String → String) : Nat → List Line →
    Except String (List RunEvent)
  | _, [] => .ok []
  | i, .blank :: rest => parseFrom describe (i + 1) rest
  | i, .event event :: rest => (parseFrom describe (i + 1) rest).map (event :: ·)
  | i, .malformed why :: _ => .error (describe ("events.jsonl line " ++ toString (i + 1)) why)

def parseEvents (lines : List Line) : Except String (List RunEvent) :=
  parseFrom (fun line why => line ++ ": " ++ why) 0 lines

def fromJsonl (lines : List Line) : Except String (List RunEvent) :=
  parseFrom (fun line _ => line) 0 lines

def unsupportedSchema (file : String) (schema : UInt32) : String :=
  file ++ " has unsupported schema " ++ toString schema ++ " (expected " ++
    toString supportedBindingSchema ++ ")"

def required {α : Type} (file : String) (sidecar : Except String (Option α)) : Except String α :=
  match sidecar with
  | .ok (some a) => .ok a
  | .ok none => .error (file ++ " is missing for a non-empty canonical record")
  | .error why => .error ("reading " ++ file ++ ": " ++ why)

def checkLedgerBinding (binding : LedgerBinding) (runId : RunId) (command : Command) :
    Except String Unit := do
  refuseIf (binding.schema ≠ supportedBindingSchema)
    (unsupportedSchema "ledger_binding.json" binding.schema)
  refuseIf (binding.runId ≠ runId)
    "ledger_binding.json's run_id does not match the bound child run id"
  refuseIf (binding.conversationId ≠ command.conversationId)
    "ledger_binding.json's conversation_id does not match this command's conversation"
  refuseIf (binding.agent ≠ supportedAgent ∨ binding.role ≠ supportedRole)
    "ledger_binding.json's agent/role is not a supported continuation path"
  refuseIf (binding.parentRunId ≠ some command.parentRunId)
    "ledger_binding.json's parent_run_id does not match this command's parent_run_id"

section Classify

variable (sha256 : Sha256)

def textDigest (text : String) : Digest256 := .ofBytes sha256 (ByteCodec.utf8Bytes text)

def checkCommandBinding (binding : CommandBinding) (runId : RunId) (command : Command) :
    Except String Unit := do
  refuseIf (binding.schema ≠ supportedBindingSchema)
    (unsupportedSchema "command_binding.json" binding.schema)
  refuseIf (binding.commandId ≠ command.commandId)
    "command_binding.json's command_id does not match the expected command"
  refuseIf (binding.conversationId ≠ command.conversationId)
    "command_binding.json's conversation_id does not match the expected command"
  refuseIf (binding.parentRunId ≠ command.parentRunId)
    "command_binding.json's parent_run_id does not match the expected command"
  refuseIf (binding.childRunId ≠ runId)
    "command_binding.json's child_run_id does not match the bound child run id"
  refuseIf (binding.commandSha256 ≠ (textDigest sha256 command.commandText).asStr)
    "command_binding.json's command_sha256 does not match this command's own text"

def checkTask (dir : RecordDir) (state : RunState) (command : Command) : Except String Unit :=
  match state.task with
  | none => .error "canonical record has no task artifact to corroborate the command text"
  | some task => do
      refuseIf (task.digest ≠ textDigest sha256 command.commandText)
        "the canonical task artifact's digest does not match this command's own text"
      let bytes ← (dir.read task.locator).mapError
        fun why => "re-reading the canonical task artifact: " ++ why
      refuseIf (bytes ≠ ByteCodec.utf8Bytes command.commandText)
        "the canonical task artifact's own bytes do not match this command's text"

def checkIdentity (dir : RecordDir) (runId : RunId) (command : Command) (state : RunState) :
    Except String Unit := do
  let binding ← required "ledger_binding.json" dir.ledgerBinding
  checkLedgerBinding binding runId command
  let commandBinding ← required "command_binding.json" dir.commandBinding
  checkCommandBinding sha256 commandBinding runId command
  checkTask sha256 dir state command

def classifyState (state : RunState) : ChildRecordState :=
  if state.verdict ≠ none then .validSealed
  else match dispatchProgress state with
    | none => .validUnsealedPreDispatch
    | some progress => .validUnsealedDispatchAmbiguous progress

variable (ext : Externals)

def classifyStream (dir : RecordDir) (runId : RunId) (command : Command) (first : RunEvent)
    (events : List RunEvent) : ChildRecordState :=
  if first.runId.asStr ≠ runId then .invalid (.text
    ("canonical record's own run_id does not match the bound child run id " ++ runId))
  else
    match Run.verifyPrefix sha256 ext (recordDirResolver dir) events with
    | .error e => .invalid (.replay e)
    | .ok (state, _) =>
        match checkIdentity sha256 dir runId command state with
        | .error why => .invalid (.text why)
        | .ok () => classifyState state

def classifyCommandChild (dir : RecordDir) (runId : RunId) (command : Command) :
    ChildRecordState :=
  match dir.events with
  | .missing => .absent
  | .unreadable why => .invalid (.text ("reading " ++ eventsPath dir ++ ": " ++ why))
  | .lines held =>
      match parseEvents held with
      | .error why => .invalid (.text why)
      | .ok [] => .absent
      | .ok (first :: rest) => classifyStream sha256 ext dir runId command first (first :: rest)

end Classify

def ChildRecordState.redrivable : ChildRecordState → Bool
  | .absent | .validUnsealedPreDispatch => true
  | .validUnsealedDispatchAmbiguous _ | .validSealed | .invalid _ => false

/-- The outcome of a dispatch is open, or the record is not to be trusted. -/
def ChildRecordState.refuses : ChildRecordState → Bool
  | .validUnsealedDispatchAmbiguous _ | .invalid _ => true
  | .absent | .validUnsealedPreDispatch | .validSealed => false

/-- The record holds an `AgentStarted`. -/
def EventsFile.Started (file : EventsFile) : Prop :=
  ∃ held event, file = .lines held ∧ .event event ∈ held ∧ event.kind = .agentStarted

theorem parseFrom_events {describe : String → String → String} {i : Nat} {lines : List Line}
    {events : List RunEvent} (parsed : parseFrom describe i lines = .ok events)
    {event : RunEvent} :
    .event event ∈ lines ↔ event ∈ events := by
  induction lines generalizing i events with
  | nil =>
      cases parsed
      simp
  | cons line rest ih =>
      cases line with
      | blank =>
          rw [← ih parsed]
          simp
      | event first =>
          rcases map_ok_iff.mp parsed with ⟨later, parsed', rfl⟩
          rw [List.mem_cons, List.mem_cons, ih parsed', Line.event.injEq]
      | malformed why => cases parsed

section Proves

variable {sha256 : Sha256} {ext : Externals} {dir : RecordDir} {runId : RunId} {command : Command}

theorem undispatched_of_state {events : List RunEvent} {state : RunState}
    (ran : Run.reduceAll sha256 events = .ok state) (none : dispatchProgress state = none) :
    ∀ event ∈ events, event.kind ≠ .agentStarted := by
  have starts := Run.agentStarts_of_run ran
  have silent : state.agent = .notObserved := by
    unfold dispatchProgress at none
    split_ifs at none
    cases agent : state.agent with
    | notObserved => rfl
    | started =>
        rw [agent] at none
        cases none
    | exited outcome =>
        rw [agent] at none
        cases none
  rw [silent] at starts
  have empty : (Run.kinds events).filterMap Run.RunEventKind.asAgentStart = [] := starts
  intro event member started
  have listed : () ∈ (Run.kinds events).filterMap Run.RunEventKind.asAgentStart :=
    Run.agentStarted_mem_iff.mp ⟨event, member, started⟩
  rw [empty] at listed
  cases listed

theorem classifyStream_redrivable {first : RunEvent} {events : List RunEvent}
    (redrivable : (classifyStream sha256 ext dir runId command first events).redrivable = true) :
    ∀ event ∈ events, event.kind ≠ .agentStarted := by
  unfold classifyStream at redrivable
  split at redrivable
  · cases redrivable
  · split at redrivable
    · cases redrivable
    · rename_i state n verified
      split at redrivable
      · cases redrivable
      · have core := (Run.verifyPrefix_ok_split.mp verified).1
        apply undispatched_of_state (Run.verifyPrefixCore_ok_iff.mp core).2.2.1
        unfold classifyState at redrivable
        split at redrivable
        · cases redrivable
        · split at redrivable
          · assumption
          · cases redrivable

/-- A record that may be redriven away from holds no `AgentStarted`. -/
theorem redrivable_not_started
    (redrivable : (classifyCommandChild sha256 ext dir runId command).redrivable = true) :
    ¬ dir.events.Started := by
  intro started
  rcases started with ⟨held, event, file, member, kind⟩
  rw [classifyCommandChild, file] at redrivable
  simp only at redrivable
  split at redrivable
  · cases redrivable
  · rename_i parsed
    have none := (parseFrom_events parsed).mp member
    cases none
  · rename_i first rest parsed
    exact classifyStream_redrivable redrivable event ((parseFrom_events parsed).mp member) kind

/-- A record that bars a redrive for good: it shows a dispatch, or nobody can read what it shows. -/
def EventsFile.Bars (file : EventsFile) : Prop := file.Started ∨ ∃ why, file = .unreadable why

theorem redrivable_not_bars
    (redrivable : (classifyCommandChild sha256 ext dir runId command).redrivable = true) :
    ¬ dir.events.Bars := by
  intro bars
  cases bars with
  | inl started => exact redrivable_not_started redrivable started
  | inr unreadable =>
      rcases unreadable with ⟨why, file⟩
      rw [classifyCommandChild, file] at redrivable
      cases redrivable

theorem started_append {file : EventsFile} {event : RunEvent} (started : file.Started) :
    (file.append event).Started := by
  rcases started with ⟨held, first, rfl, member, kind⟩
  exact ⟨held ++ [.event event], first, rfl, List.mem_append_left _ member, kind⟩

theorem bars_append {file : EventsFile} {event : RunEvent} (bars : file.Bars) :
    (file.append event).Bars := by
  cases bars with
  | inl started => exact .inl (started_append started)
  | inr unreadable =>
      rcases unreadable with ⟨why, rfl⟩
      exact .inr ⟨why, rfl⟩

theorem bars_started {file : EventsFile} {event : RunEvent} (kind : event.kind = .agentStarted) :
    (file.append event).Bars := by
  cases file with
  | missing => exact .inl ⟨_, event, rfl, List.mem_singleton_self _, kind⟩
  | unreadable why => exact .inr ⟨why, rfl⟩
  | lines held =>
      have last : Line.event event ∈ held ++ [.event event] := by simp
      exact .inl ⟨_, event, rfl, last, kind⟩

end Proves

end O7Formal.Dispatch
