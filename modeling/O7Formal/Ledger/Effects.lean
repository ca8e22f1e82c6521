import O7Formal.Ledger.Step

/-! What each operation has written once it succeeds: one lemma for each of them, in terms of the
tables before it. -/

namespace O7Formal.Ledger

open Fallible Json Table
open Contracts (nesting nestingMembers readerNesting)
open O7Formal.Run (Sha256)

section Inserting

variable {s s' : Tables}

theorem insertConversation_ok {row : Conversation} (ok : insertConversation row s = .ok s') :
    loadConversation row.conversationId s = none ∧
      s' = { s with conversations := s.conversations ++ [row] } := by
  simp only [insertConversation, bind_ok_iff, refuseIf_ok_iff, pure_ok_iff, not_not] at ok
  rcases ok with ⟨_, fresh, same⟩
  exact ⟨fresh, same.symm⟩

structure RunFits (row : Run) (s : Tables) : Prop where
  fresh : loadRun row.runId s = none
  conversation : loadConversation row.conversationId s ≠ none
  parent : ∀ parent ∈ row.parentRunId, runIn row.conversationId parent (s.runs ++ [row])

theorem insertRun_ok {row : Run} (ok : insertRun row s = .ok s') :
    RunFits row s ∧ s' = { s with runs := s.runs ++ [row] } := by
  simp only [insertRun, bind_ok_iff, refuseIf_ok_iff, pure_ok_iff, not_not, not_exists,
    not_and] at ok
  rcases ok with ⟨_, fresh, _, conversation, _, parent, same⟩
  exact ⟨⟨fresh, conversation, parent⟩, same.symm⟩

structure AttemptFits (row : RunAttempt) (s : Tables) : Prop where
  fresh : loadAttempt row.attemptId s = none
  numbered : ∀ a ∈ s.attempts, a.runId = row.runId → a.attemptNumber ≠ row.attemptNumber
  alone : row.status = .running → ∀ a ∈ s.attempts, a.runId = row.runId → a.status ≠ .running
  run : loadRun row.runId s ≠ none

theorem insertAttempt_ok {row : RunAttempt} (ok : insertAttempt row s = .ok s') :
    AttemptFits row s ∧ s' = { s with attempts := s.attempts ++ [row] } := by
  simp only [insertAttempt, bind_ok_iff, refuseIf_ok_iff, pure_ok_iff, not_not, not_exists,
    not_and] at ok
  rcases ok with ⟨_, fresh, _, numbered, _, alone, _, run, same⟩
  exact ⟨⟨fresh, numbered, alone, run⟩, same.symm⟩

theorem insertCommand_ok {row : Command} (ok : insertCommand row s = .ok s') :
    loadCommand row.commandId s = none ∧ s' = { s with commands := s.commands ++ [row] } := by
  simp only [insertCommand, bind_ok_iff, refuseIf_ok_iff, pure_ok_iff, not_not] at ok
  rcases ok with ⟨_, fresh, _, _, _, _, same⟩
  exact ⟨fresh, same.symm⟩

def eventRow (event : NewEvent) (createdAt : Millis) (s : Tables) : EventRow :=
  ⟨event.eventId, event.conversationId, event.runId, event.attemptId,
    maxSequence event.conversationId s + 1, event.eventType.asStr, event.schemaVersion, createdAt,
    event.payload.text⟩

def EventRow.withPayload (row : EventRow) (payload : JsonValue) : PersistedEvent :=
  ⟨row.eventId, row.conversationId, row.runId, row.attemptId, row.sequence, row.eventType,
    row.schemaVersion, row.createdAt, payload⟩

theorem insertEvent_ok {row : EventRow} (ok : insertEvent row s = .ok s') :
    findEvent row.eventId s = none ∧ s' = { s with events := s.events ++ [row] } := by
  simp only [insertEvent, bind_ok_iff, refuseIf_ok_iff, pure_ok_iff, not_not] at ok
  rcases ok with ⟨_, _, _, fresh, _, _, _, _, _, _, _, _, same⟩
  exact ⟨fresh, same.symm⟩

def EventFits (event : NewEvent) (s : Tables) : Prop :=
  findEvent event.eventId s = none ∧ (maxSequence event.conversationId s + 1 : Nat) ≤ i64Max

theorem emitEvent_ok {event : NewEvent} {createdAt : Millis} {p : PersistedEvent}
    (ok : emitEvent event createdAt s = .ok (p, s')) :
    EventFits event s ∧
      p = (eventRow event createdAt s).withPayload event.payload ∧
      s' = { s with events := s.events ++ [eventRow event createdAt s] } := by
  simp only [emitEvent, bind_ok_iff, refuseIf_ok_iff, pure_ok_iff, Prod.mk.injEq] at ok
  rcases ok with ⟨_, bounded, t, inserted, reply, same⟩
  rcases insertEvent_ok inserted with ⟨fresh, tables⟩
  exact ⟨⟨fresh, not_lt.mp bounded⟩, reply.symm, same.symm.trans tables⟩

def Emits (carries : JsonValue → Prop) (conversation : ConversationId) (s : Tables)
    (events : List EventRow) : Prop :=
  ∃ event now, event.conversationId = conversation ∧ carries event.payload ∧
    EventFits event s ∧ events = s.events ++ [eventRow event now s]

def Shallow (payload : JsonValue) : Prop := nesting payload.tree ≤ readerNesting

theorem shallow_ofScalars (members : List (String × Scalar))
    (ordered : (members.map Prod.fst).Pairwise fun a b => a.toList < b.toList) :
    Shallow (.ofScalars members ordered) := by
  have flat : ∀ members : List (String × Scalar),
      nestingMembers (members.map fun m => (m.1, m.2.tree)) = 0 := by
    intro members
    induction members with
    | nil => rfl
    | cons m rest ih =>
        rw [List.map_cons, nestingMembers, ih]
        cases m.2 <;> rfl
  show nestingMembers _ + 1 ≤ readerNesting
  rw [flat]
  decide

theorem noPayload_shallow : Shallow noPayload := shallow_ofScalars [] _

theorem runPayload_shallow (agent role : String) : Shallow (runPayload agent role) :=
  shallow_ofScalars [("agent", .text agent), ("role", .text role)] agent_before_role

theorem resumedPayload_shallow : Shallow resumedPayload := shallow_ofScalars _ _

theorem repairedPayload_shallow : Shallow repairedPayload := shallow_ofScalars _ _

theorem recoveryPayload_shallow : Shallow recoveryPayload := shallow_ofScalars _ _

def recorded (scope : String) (idempotency : Option Idempotency) (requestDigest reference : String)
    (createdAt : Millis) : List IdempotencyRecord :=
  idempotency.toList.map fun idem => ⟨scope, idem.key, requestDigest, reference, createdAt⟩

def unrecorded (scope : String) (idempotency : Option Idempotency) (s : Tables) : Prop :=
  ∀ idem ∈ idempotency, findRecord scope idem.key s = none

theorem recordOptional_ok {scope requestDigest reference : String} {createdAt : Millis}
    {idempotency : Option Idempotency}
    (ok : recordOptional scope idempotency requestDigest reference createdAt s = .ok s') :
    s' = { s with
      records := s.records ++ recorded scope idempotency requestDigest reference createdAt } := by
  cases idempotency with
  | none =>
      cases ok
      simp [recorded]
  | some idem =>
      simp only [recordOptional, record, insertRecord, bind_ok_iff, pure_ok_iff] at ok
      rcases ok with ⟨_, _, same⟩
      exact same.symm

theorem checkOptional_ok {scope requestDigest : String} {idempotency : Option Idempotency}
    {outcome : IdemOutcome} (ok : checkOptional scope idempotency requestDigest s = .ok outcome) :
    (outcome = .fresh ∧ unrecorded scope idempotency s) ∨
      ∃ idem ∈ idempotency, ∃ row, findRecord scope idem.key s = some row ∧
        row.requestDigest = requestDigest ∧ outcome = .replayed row.resultReference := by
  cases idempotency with
  | none =>
      cases ok
      exact .inl ⟨rfl, by simp [unrecorded]⟩
  | some idem =>
      rw [checkOptional, check] at ok
      cases found : findRecord scope idem.key s with
      | none =>
          simp only [found] at ok
          cases ok
          exact .inl ⟨rfl, by simpa [unrecorded] using found⟩
      | some row =>
          simp only [found] at ok
          split_ifs at ok with same
          cases ok
          exact .inr ⟨idem, rfl, row, found, same, rfl⟩

end Inserting

def once {α : Type} (scope : String) (idempotency : Option Idempotency) (requestDigest : String)
    (load : String → Tables → Except LedgerError α)
    (make : Tables → Except LedgerError ((α × String) × Tables)) (now : Millis) (s : Tables) :
    Except LedgerError (α × Tables) := do
  match ← checkOptional scope idempotency requestDigest s with
  | .replayed reference =>
      let made ← load reference s
      return (made, s)
  | .fresh =>
      let ((made, reference), s) ← make s
      let s ← recordOptional scope idempotency requestDigest reference now s
      return (made, s)

def makeConversation (generated : ConversationId) (stamp : Stamp) (s : Tables) :
    Except LedgerError ((Conversation × String) × Tables) := do
  let s ← insertConversation ⟨generated, stamp.now, .open⟩ s
  let (_, s) ← emitEvent ⟨stamp.eventId, generated, none, none, .conversationCreated,
    eventSchemaVersion, noPayload⟩ stamp.now s
  return ((⟨generated, stamp.now, .open⟩, generated), s)

def newRun (request : NewRun) (runId : RunId) (now : Millis) : Run :=
  ⟨runId, request.conversationId, request.parentRunId, request.agent, request.role, .queued, now,
    none, none⟩

def makeRun (request : NewRun) (runId : RunId) (stamp : Stamp) (s : Tables) :
    Except LedgerError ((Run × String) × Tables) := do
  let s ← insertRun (newRun request runId stamp.now) s
  let (_, s) ← emitEvent ⟨stamp.eventId, request.conversationId, some runId, none, .runCreated,
    eventSchemaVersion, runPayload request.agent request.role⟩ stamp.now s
  return ((newRun request runId stamp.now, runId), s)

def newCommand (request : NewCommand) (commandId : CommandId) (now : Millis) : Command :=
  ⟨commandId, request.conversationId, request.parentRunId, request.commandText, .accepted, none,
    now, now⟩

def makeCommand (request : NewCommand) (generated : CommandId) (now : Millis) (s : Tables) :
    Except LedgerError ((Command × String) × Tables) := do
  checkAcceptable request s
  let s ← insertCommand (newCommand request generated now) s
  return ((newCommand request generated now, generated), s)

def makeEvent (event : NewEvent) (now : Millis) (s : Tables) :
    Except LedgerError ((PersistedEvent × String) × Tables) := do
  let (made, s) ← emitEvent event now s
  return ((made, made.eventId), s)

section Shape

variable {sha256 : Sha256} {s : Tables}

theorem createConversation_eq (idempotency : Option Idempotency) (generated : ConversationId)
    (stamp : Stamp) :
    createConversation sha256 idempotency generated stamp s =
      once scopeCreateConversation idempotency (digestBytes sha256 createConversationBytes)
        (fun reference s => okOr (loadConversation reference s)
          (.notFound ("conversation " ++ reference)))
        (makeConversation generated stamp) stamp.now s := by
  unfold createConversation once
  apply bind_congr
  intro outcome
  cases outcome <;> simp only [makeConversation, bind_assoc, pure_bind]

theorem createRunInner_eq (request : NewRun) (runId : RunId) (scope : String)
    (idempotency : Option Idempotency) (requestDigest : String) (stamp : Stamp) :
    createRunInner request runId scope idempotency requestDigest stamp s =
      once scope idempotency requestDigest runOr (makeRun request runId stamp) stamp.now s := by
  unfold createRunInner once
  apply bind_congr
  intro outcome
  cases outcome <;> simp only [makeRun, newRun, bind_assoc, pure_bind]

theorem createCommand_eq (request : NewCommand) (idempotency : Idempotency)
    (generated : CommandId) (now : Millis) :
    createCommand sha256 request idempotency generated now s =
      once scopeCreateCommand (some idempotency)
        (requestDigest sha256 (newCommandTree request)) commandOr
        (makeCommand request generated now) now s := by
  unfold createCommand once
  apply bind_congr
  intro outcome
  cases outcome <;> simp only [makeCommand, newCommand, recordOptional, bind_assoc, pure_bind]

theorem appendOnce_eq (serde : Serde) (scope : String) (idempotency : Option Idempotency)
    (requestDigest : String) (event : NewEvent) (now : Millis) :
    appendOnce serde scope idempotency requestDigest event now s =
      once scope idempotency requestDigest (eventOr serde) (makeEvent event now) now s := by
  unfold appendOnce once
  apply bind_congr
  intro outcome
  cases outcome <;> simp only [makeEvent, bind_assoc, pure_bind]

end Shape

section Once

variable {α : Type} {scope requestDigest : String} {idempotency : Option Idempotency}
  {load : String → Tables → Except LedgerError α}
  {make : Tables → Except LedgerError ((α × String) × Tables)} {now : Millis} {s s' : Tables}
  {a : α}

theorem once_ok (ok : once scope idempotency requestDigest load make now s = .ok (a, s')) :
    (s' = s ∧ ∃ idem ∈ idempotency, ∃ row, findRecord scope idem.key s = some row ∧
        row.requestDigest = requestDigest ∧ load row.resultReference s = .ok a) ∨
      unrecorded scope idempotency s ∧ ∃ reference made, make s = .ok ((a, reference), made) ∧
        s' = { made with
          records := made.records ++ recorded scope idempotency requestDigest reference now } := by
  rcases bind_ok_iff.mp ok with ⟨outcome, checked, rest⟩
  rcases checkOptional_ok checked with ⟨fresh, absent⟩ | ⟨idem, given, row, found, same, replayed⟩
  · rw [fresh] at rest
    rcases bind_ok_iff.mp rest with ⟨⟨⟨b, reference⟩, made⟩, makes, later⟩
    rcases bind_ok_iff.mp later with ⟨t, records, last⟩
    have done := pure_ok_iff.mp last
    rw [Prod.mk.injEq] at done
    rw [done.1] at makes
    refine .inr ⟨absent, reference, made, makes, ?_⟩
    rw [← done.2]
    exact recordOptional_ok records
  · rw [replayed] at rest
    rcases bind_ok_iff.mp rest with ⟨b, loaded, last⟩
    have done := pure_ok_iff.mp last
    rw [Prod.mk.injEq] at done
    rw [done.1] at loaded
    exact .inl ⟨done.2.symm, idem, given, row, found, same, loaded⟩

end Once

section Making

variable {s s' : Tables} {reference : String}

theorem makeConversation_ok {generated : ConversationId} {stamp : Stamp} {c : Conversation}
    (ok : makeConversation generated stamp s = .ok ((c, reference), s')) :
    c = ⟨generated, stamp.now, .open⟩ ∧ reference = generated ∧
      loadConversation generated s = none ∧ ∃ events, Emits Shallow generated s events ∧
        s' = { s with conversations := s.conversations ++ [c], events := events } := by
  simp only [makeConversation, bind_ok_iff, pure_ok_iff, Prod.mk.injEq] at ok
  rcases ok with ⟨t, inserted, p, emitted, ⟨rfl, rfl⟩, rfl⟩
  rcases insertConversation_ok inserted with ⟨fresh, rfl⟩
  rcases emitEvent_ok emitted with ⟨unused, _, tables⟩
  exact ⟨rfl, rfl, fresh, _, ⟨_, _, rfl, noPayload_shallow, unused, rfl⟩, tables⟩

theorem makeRun_ok {request : NewRun} {runId : RunId} {stamp : Stamp} {r : Run}
    (ok : makeRun request runId stamp s = .ok ((r, reference), s')) :
    r = newRun request runId stamp.now ∧ reference = runId ∧ RunFits r s ∧
      ∃ events, Emits Shallow request.conversationId s events ∧
        s' = { s with runs := s.runs ++ [r], events := events } := by
  simp only [makeRun, bind_ok_iff, pure_ok_iff, Prod.mk.injEq] at ok
  rcases ok with ⟨t, inserted, p, emitted, ⟨rfl, rfl⟩, rfl⟩
  rcases insertRun_ok inserted with ⟨fits, rfl⟩
  rcases emitEvent_ok emitted with ⟨unused, _, tables⟩
  exact ⟨rfl, rfl, fits, _, ⟨_, _, rfl, runPayload_shallow _ _, unused, rfl⟩, tables⟩

theorem makeCommand_ok {request : NewCommand} {generated : CommandId} {now : Millis} {c : Command}
    (ok : makeCommand request generated now s = .ok ((c, reference), s')) :
    c = newCommand request generated now ∧ reference = generated ∧
      checkAcceptable request s = .ok () ∧ loadCommand generated s = none ∧
      s' = { s with commands := s.commands ++ [c] } := by
  simp only [makeCommand, bind_ok_iff, pure_ok_iff, Prod.mk.injEq] at ok
  rcases ok with ⟨_, acceptable, t, inserted, ⟨rfl, rfl⟩, rfl⟩
  rcases insertCommand_ok inserted with ⟨fresh, tables⟩
  exact ⟨rfl, rfl, acceptable, fresh, tables⟩

theorem makeEvent_ok {event : NewEvent} {now : Millis} {p : PersistedEvent}
    (ok : makeEvent event now s = .ok ((p, reference), s')) :
    p = (eventRow event now s).withPayload event.payload ∧ reference = event.eventId ∧
      EventFits event s ∧
      s' = { s with events := s.events ++ [eventRow event now s] } := by
  simp only [makeEvent, bind_ok_iff, pure_ok_iff, Prod.mk.injEq] at ok
  rcases ok with ⟨⟨made, t⟩, emitted, ⟨rfl, rfl⟩, rfl⟩
  rcases emitEvent_ok emitted with ⟨fits, reply, tables⟩
  rw [reply]
  exact ⟨rfl, rfl, fits, tables⟩

end Making

section Runs

variable {runId : RunId} {stamp : Stamp} {s s' : Tables}

theorem runOr_ok {r : Run} : runOr runId s = .ok r ↔ loadRun runId s = some r := by
  rw [runOr, okOr_ok_iff]

def withStatus (target : RunStatus) (finishedAt : Option Millis) (r : Run) : Run :=
  { r with status := target, finishedAt := finishedAt }

def setRun (runId : RunId) (set : Run → Run) (runs : List Run) : List Run :=
  update (fun r => decide (r.runId = runId)) set runs

def closedAs (status : AttemptStatus) (now : Millis) (a : RunAttempt) : RunAttempt :=
  { a with status := status, finishedAt := some now }

def closeRunning (runId : RunId) (status : AttemptStatus) (now : Millis)
    (attempts : List RunAttempt) : List RunAttempt :=
  update (fun a => decide (a.runId = runId ∧ a.status = .running)) (closedAs status now) attempts

theorem setRunStatus_ok {target : RunStatus} {eventType : EventType} {r : Run}
    (ok : setRunStatus runId target eventType stamp s = .ok (r, s')) :
    ∃ current events, loadRun runId s = some current ∧
      runTransitionAllowed current.status target = true ∧
      Emits Shallow current.conversationId s events ∧
      s' = { s with
        runs := setRun runId
          (withStatus target (if target.isTerminal then some stamp.now else none)) s.runs,
        attempts := if target.isTerminal ∨ target = .interrupted then
          closeRunning runId (terminalAttemptStatus target) stamp.now s.attempts else s.attempts,
        events := events } := by
  simp only [setRunStatus, validateRunTransition, bind_ok_iff, refuseIf_ok_iff, pure_ok_iff,
    Bool.not_eq_false, runOr_ok, Prod.exists, Prod.mk.injEq] at ok
  rcases ok with ⟨current, found, _, allowed, p, t, emitted, _, _, _, rfl⟩
  by_cases closing : target.isTerminal ∨ target = .interrupted
  · rw [if_pos closing] at emitted ⊢
    rcases emitEvent_ok emitted with ⟨unused, _, tables⟩
    exact ⟨current, _, found, allowed, ⟨_, _, rfl, noPayload_shallow, unused, rfl⟩, tables⟩
  · rw [if_neg closing] at emitted ⊢
    rcases emitEvent_ok emitted with ⟨unused, _, tables⟩
    exact ⟨current, _, found, allowed, ⟨_, _, rfl, noPayload_shallow, unused, rfl⟩, tables⟩

def nextAttempt (runId : RunId) (attemptId : AttemptId) (now : Millis) (s : Tables) : RunAttempt :=
  ⟨attemptId, runId, nextAttemptNumber runId s, .running, now, none⟩

theorem addAttempt_ok {attemptId : AttemptId} {now : Millis} {a : RunAttempt}
    (ok : addAttempt runId attemptId now s = .ok (a, s')) :
    a = nextAttempt runId attemptId now s ∧ AttemptFits a s ∧
      s' = { s with attempts := s.attempts ++ [a] } := by
  simp only [addAttempt, bind_ok_iff, pure_ok_iff, Prod.mk.injEq] at ok
  rcases ok with ⟨_, _, t, inserted, rfl, rfl⟩
  rcases insertAttempt_ok inserted with ⟨fits, tables⟩
  exact ⟨rfl, fits, tables⟩

theorem createAttempt_ok {attemptId : AttemptId} {now : Millis} {a : RunAttempt}
    (ok : createAttempt runId attemptId now s = .ok (a, s')) :
    ∃ current, loadRun runId s = some current ∧ current.status = .running ∧
      a = nextAttempt runId attemptId now s ∧ AttemptFits a s ∧
      s' = { s with attempts := s.attempts ++ [a] } := by
  simp only [createAttempt, bind_ok_iff, refuseIf_ok_iff, runOr_ok, not_not] at ok
  rcases ok with ⟨current, found, _, running, _, _, added⟩
  exact ⟨current, found, running, addAttempt_ok added⟩

theorem setAttemptStatus_ok {attemptId : AttemptId} {target : AttemptStatus} {now : Millis}
    {a : RunAttempt} (ok : setAttemptStatus attemptId target now s = .ok (a, s')) :
    ∃ current, loadAttempt attemptId s = some current ∧
      attemptTransitionAllowed current.status target = true ∧
      s' = { s with
        attempts := update (fun a => decide (a.attemptId = attemptId))
          (closedAs target now) s.attempts } := by
  simp only [setAttemptStatus, attemptOr, validateAttemptTransition, bind_ok_iff, refuseIf_ok_iff,
    okOr_ok_iff, pure_ok_iff, Bool.not_eq_false, Prod.mk.injEq] at ok
  rcases ok with ⟨current, found, _, allowed, _, _, _, rfl⟩
  have closing : target ≠ .running := by
    intro same
    rw [same] at allowed
    cases status : current.status <;> rw [status] at allowed <;> cases allowed
  rw [if_neg closing]
  exact ⟨current, found, allowed, rfl⟩

theorem resumeInterruptedRun_ok {attemptId : AttemptId} {a : RunAttempt}
    (ok : resumeInterruptedRun runId attemptId stamp s = .ok (a, s')) :
    ∃ current events t, loadRun runId s = some current ∧ current.status = .interrupted ∧
      Emits Shallow current.conversationId s events ∧
      t = { s with
        runs := setRun runId (withStatus .running none) s.runs,
        attempts := closeRunning runId .interrupted stamp.now s.attempts,
        events := events } ∧
      a = nextAttempt runId attemptId stamp.now t ∧ AttemptFits a t ∧
      s' = { t with attempts := t.attempts ++ [a] } := by
  simp only [resumeInterruptedRun, bind_ok_iff, refuseIf_ok_iff, runOr_ok, not_not,
    Prod.exists] at ok
  rcases ok with ⟨current, found, _, interrupted, p, t, emitted, added⟩
  rcases emitEvent_ok emitted with ⟨unused, _, tables⟩
  exact ⟨current, _, t, found, interrupted,
    ⟨_, _, rfl, resumedPayload_shallow, unused, rfl⟩, tables, addAttempt_ok added⟩

theorem repairInterruptedRunToTerminal_ok {target : RunStatus} {r : Run}
    (ok : repairInterruptedRunToTerminal runId target stamp s = .ok (r, s')) :
    ∃ current events, repairEvent target ≠ none ∧ loadRun runId s = some current ∧
      current.status = .interrupted ∧ Emits Shallow current.conversationId s events ∧
      s' = { s with
        runs := setRun runId (withStatus target (some stamp.now)) s.runs,
        attempts := update
          (fun a => decide (some a.attemptId = (lastInterrupted runId s).map RunAttempt.attemptId))
          (closedAs (terminalAttemptStatus target) stamp.now) s.attempts,
        events := events } := by
  simp only [repairInterruptedRunToTerminal, bind_ok_iff, refuseIf_ok_iff, okOr_ok_iff, runOr_ok,
    not_not, pure_ok_iff, Prod.exists, Prod.mk.injEq] at ok
  rcases ok with ⟨eventType, sealing, current, found, _, interrupted, p, t, emitted, _, _, _, rfl⟩
  rcases emitEvent_ok emitted with ⟨unused, _, tables⟩
  have sealed : repairEvent target ≠ none := by
    rw [sealing]
    exact Option.some_ne_none eventType
  exact ⟨current, _, sealed, found, interrupted,
    ⟨_, _, rfl, repairedPayload_shallow, unused, rfl⟩, tables⟩

theorem interruptOne_ok (ok : interruptOne s (runId, stamp) = .ok s') :
    ∃ current events, loadRun runId s = some current ∧ current.status = .running ∧
      Emits Shallow current.conversationId s events ∧
      s' = { s with
        runs := setRun runId (fun r => { r with status := .interrupted }) s.runs,
        attempts := closeRunning runId .interrupted stamp.now s.attempts,
        events := events } := by
  simp only [interruptOne, validateRunTransition, bind_ok_iff, refuseIf_ok_iff, runOr_ok,
    Bool.not_eq_false, pure_ok_iff, Prod.exists] at ok
  rcases ok with ⟨current, found, _, allowed, p, t, emitted, rfl⟩
  rcases emitEvent_ok emitted with ⟨unused, _, tables⟩
  have running : current.status = .running := by
    cases status : current.status <;> rw [status] at allowed <;> first | rfl | cases allowed
  exact ⟨current, _, found, running, ⟨_, _, rfl, recoveryPayload_shallow, unused, rfl⟩, tables⟩

theorem closeListed_ok {listed : AttemptId × Millis} (ok : closeListed s listed = .ok s') :
    ∃ selects, (∀ a, selects a = true → a.status = .running) ∧
      s' = { s with attempts := update selects (closedAs .interrupted listed.2) s.attempts } := by
  simp only [closeListed, attemptOr, bind_ok_iff, okOr_ok_iff] at ok
  rcases ok with ⟨current, found, written⟩
  split_ifs at written with running
  · cases written
    refine ⟨_, ?_, rfl⟩
    intro a selected
    exact (of_decide_eq_true selected).2
  · cases written
    refine ⟨fun _ => false, by simp, ?_⟩
    simp [update]

theorem setRunProviderSession_ok {session : String} {r : Run}
    (ok : setRunProviderSession runId session s = .ok (r, s')) :
    s' = { s with
      runs := setRun runId (fun r => { r with providerSessionId := some session }) s.runs } := by
  simp only [setRunProviderSession, bind_ok_iff, pure_ok_iff, Prod.mk.injEq] at ok
  rcases ok with ⟨_, _, _, _, _, rfl⟩
  rfl

end Runs

end O7Formal.Ledger
