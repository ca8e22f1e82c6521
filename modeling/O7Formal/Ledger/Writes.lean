import O7Formal.Ledger.CommandEffects
import O7Formal.Ledger.Requests

/-! Everything a successful operation can have written, in one relation. Every invariant of the
ledger is derived from it. -/

namespace O7Formal.Ledger

open Fallible Json Table
open O7Formal.Run (Sha256)

def Records (op : Op) (s : Tables) (records : List IdempotencyRecord) : Prop :=
  ∃ scope idempotency requestDigest reference now, unrecorded scope idempotency s ∧
    (op.keyed = none → idempotency = none) ∧
    records = recorded scope idempotency requestDigest reference now

def Op.carries : Op → JsonValue → Prop
  | .appendUserMessage _ payload _ _ _, v => v = payload
  | .appendSystemNote _ _ _ payload _ _, v => v = payload
  | .appendEvent event _, v => v = event.payload
  | _, v => Shallow v

def Op.Concerns (s : Tables) : Op → ConversationId → Prop
  | .createConversation _ generated _, id => id = generated
  | .createRun request _ _ _, id => id = request.conversationId
  | .createRunWithId request _ _ _, id => id = request.conversationId
  | .startRun runId _, id => ∃ r, loadRun runId s = some r ∧ r.conversationId = id
  | .completeRun runId _, id => ∃ r, loadRun runId s = some r ∧ r.conversationId = id
  | .failRun runId _, id => ∃ r, loadRun runId s = some r ∧ r.conversationId = id
  | .cancelRun runId _, id => ∃ r, loadRun runId s = some r ∧ r.conversationId = id
  | .interruptRun runId _, id => ∃ r, loadRun runId s = some r ∧ r.conversationId = id
  | .blockRun runId _, id => ∃ r, loadRun runId s = some r ∧ r.conversationId = id
  | .errorRun runId _, id => ∃ r, loadRun runId s = some r ∧ r.conversationId = id
  | .resumeInterruptedRun runId _ _, id => ∃ r, loadRun runId s = some r ∧ r.conversationId = id
  | .repairInterruptedRunToTerminal runId _ _, id =>
      ∃ r, loadRun runId s = some r ∧ r.conversationId = id
  | .markInterrupted runs _, id =>
      ∃ listed ∈ runs, ∃ r, loadRun listed.1 s = some r ∧ r.conversationId = id
  | .appendUserMessage conversation _ _ _ _, id => id = conversation
  | .appendSystemNote conversation _ _ _ _ _, id => id = conversation
  | .appendEvent event _, id => id = event.conversationId
  | _, _ => False

def Op.Emits (op : Op) (conversation : ConversationId) (s : Tables) (events : List EventRow) :
    Prop :=
  op.Concerns s conversation ∧ Ledger.Emits op.carries conversation s events

inductive Rewrites (s : Tables) : Op → Command → Command → Prop
  | bound {c : Command} (runId : RunId) (now : Millis) : c.childRunId = none →
      Rewrites s (.bindCommandChildRun c.commandId runId now) c
        { c with childRunId := some runId, status := .started, updatedAt := now }
  | completed {c : Command} (now : Millis) :
      Rewrites s (.markCommandCompleted c.commandId now) c
        { c with status := .completed, updatedAt := now }
  | rejected {c : Command} (now : Millis) :
      Rewrites s (.markCommandRejected c.commandId now) c
        { c with status := .rejected, updatedAt := now }
  | claimed {c : Command} (expectedUpdatedAt now : Millis) : c.status.inFlight = true →
      Rewrites s (.claimStaleCommandForRedrive c.commandId expectedUpdatedAt now) c
        { c with updatedAt := max now (saturatingSucc expectedUpdatedAt) }
  | rebound {c : Command} (newRunId : RunId) (now : Millis) :
      Rewrites s (.rebindCommandChildRun c.commandId newRunId now) c
        { c with childRunId := some newRunId, updatedAt := now }
  | reboundIfCurrent {c : Command} (old freshRunId : RunId) (expectedUpdatedAt now : Millis) :
      c.status.inFlight = true → c.childRunId = some old → c.updatedAt = expectedUpdatedAt →
      Rewrites s
        (.rebindCommandChildRunIfCurrent c.commandId old expectedUpdatedAt freshRunId now) c
        { c with
          childRunId := some freshRunId
          updatedAt := max now (saturatingSucc expectedUpdatedAt) }
  | completedIfBound {c : Command} (runId : RunId) (now : Millis) : boundTo runId c = true →
      Rewrites s (.markCommandCompletedIfBound c.commandId runId now) c
        { c with status := .completed, updatedAt := now }
  | completedIfTerminal {c : Command} (runId : RunId) (child : Run) (now : Millis) :
      boundTo runId c = true → loadRun runId s = some child → childOk c child = true →
      Rewrites s (.markCommandCompletedIfBoundAndTerminal c.commandId runId now) c
        { c with status := .completed, updatedAt := now }
  | rejectedIfUnattached {c : Command} (runId : RunId) (now : Millis) :
      boundTo runId c = true → loadRun runId s = none →
      Rewrites s (.markCommandRejectedIfUnattachedAndBound c.commandId runId now) c
        { c with status := .rejected, updatedAt := now }

inductive Writes (s : Tables) : Op → Tables → Prop
  | nothing {op : Op} : Writes s op s
  | conversation {op : Op} (c : Conversation) (events : List EventRow)
      (records : List IdempotencyRecord) : loadConversation c.conversationId s = none →
      op.Emits c.conversationId s events → Records op s records →
      Writes s op { s with
        conversations := s.conversations ++ [c], events := events,
        records := s.records ++ records }
  | run {op : Op} (r : Run) (events : List EventRow) (records : List IdempotencyRecord) :
      RunFits r s → r.status = .queued → r.finishedAt = none →
      op.Emits r.conversationId s events → Records op s records →
      Writes s op { s with
        runs := s.runs ++ [r], events := events, records := s.records ++ records }
  | moved {op : Op} (r : Run) (target : RunStatus) (now : Millis) (events : List EventRow) :
      loadRun r.runId s = some r → runTransitionAllowed r.status target = true →
      op.Emits r.conversationId s events →
      Writes s op { s with
        runs := setRun r.runId
          (withStatus target (if target.isTerminal then some now else none)) s.runs,
        attempts := if target.isTerminal ∨ target = .interrupted then
          closeRunning r.runId (terminalAttemptStatus target) now s.attempts else s.attempts,
        events := events }
  | attempt {op : Op} (r : Run) (attemptId : AttemptId) (now : Millis) :
      loadRun r.runId s = some r → r.status = .running →
      AttemptFits (nextAttempt r.runId attemptId now s) s →
      Writes s op { s with attempts := s.attempts ++ [nextAttempt r.runId attemptId now s] }
  | closed {op : Op} (a : RunAttempt) (target : AttemptStatus) (now : Millis) :
      loadAttempt a.attemptId s = some a → attemptTransitionAllowed a.status target = true →
      Writes s op { s with
        attempts := update (fun q => decide (q.attemptId = a.attemptId)) (closedAs target now)
          s.attempts }
  | resumed (r : Run) (attemptId : AttemptId) (stamp : Stamp) (events : List EventRow)
      (t : Tables) : loadRun r.runId s = some r → r.status = .interrupted →
      Emits Shallow r.conversationId s events →
      t = { s with
        runs := setRun r.runId (withStatus .running none) s.runs,
        attempts := closeRunning r.runId .interrupted stamp.now s.attempts,
        events := events } →
      AttemptFits (nextAttempt r.runId attemptId stamp.now t) t →
      Writes s (.resumeInterruptedRun r.runId attemptId stamp)
        { t with attempts := t.attempts ++ [nextAttempt r.runId attemptId stamp.now t] }
  | repaired (r : Run) (target : RunStatus) (stamp : Stamp) (events : List EventRow) :
      repairEvent target ≠ none → loadRun r.runId s = some r → r.status = .interrupted →
      Emits Shallow r.conversationId s events →
      Writes s (.repairInterruptedRunToTerminal r.runId target stamp) { s with
        runs := setRun r.runId (withStatus target (some stamp.now)) s.runs,
        attempts := update (fun a =>
            decide (some a.attemptId = (lastInterrupted r.runId s).map RunAttempt.attemptId))
          (closedAs (terminalAttemptStatus target) stamp.now) s.attempts,
        events := events }
  | interrupted (runs : List (RunId × Stamp)) (attempts : List (AttemptId × Millis))
      (t s' : Tables) : runs.foldlM interruptOne s = .ok t → attempts.foldlM closeListed t = .ok s' →
      Writes s (.markInterrupted runs attempts) s'
  | session {op : Op} (runId : RunId) (session : String) :
      Writes s op { s with
        runs := setRun runId (fun r => { r with providerSessionId := some session }) s.runs }
  | accepted {op : Op} (request : NewCommand) (commandId : CommandId) (now : Millis)
      (records : List IdempotencyRecord) : checkAcceptable request s = .ok () →
      loadCommand commandId s = none → Records op s records →
      Writes s op { s with
        commands := s.commands ++ [newCommand request commandId now],
        records := s.records ++ records }
  | command {op : Op} (c next : Command) : loadCommand c.commandId s = some c →
      Rewrites s op c next → Writes s op (put next s)
  | reconciled (now : Millis) (repaired : List Command) (s' : Tables) :
      reconcileCompletedCommands now s = .ok (repaired, s') →
      Writes s (.reconcileCompletedCommands now) s'
  | event {op : Op} (conversation : ConversationId) (events : List EventRow)
      (records : List IdempotencyRecord) : op.Emits conversation s events →
      Records op s records → Writes s op { s with events := events, records := s.records ++ records }

theorem Emits.mono {carries carries' : JsonValue → Prop} {conversation : ConversationId}
    {s : Tables} {events : List EventRow} (emits : Emits carries conversation s events)
    (weaker : ∀ v, carries v → carries' v) : Emits carries' conversation s events := by
  rcases emits with ⟨event, now, same, carried, rest⟩
  exact ⟨event, now, same, weaker event.payload carried, rest⟩

section Writing

variable {sha256 : Sha256} {serde : Serde} {s s' : Tables}

theorem records_none (op : Op) (s : Tables) : Records op s [] :=
  ⟨"", none, "", "", 0, by simp [unrecorded], fun _ => rfl, rfl⟩

theorem createRunInner_writes {op : Op} (carries : ∀ v, Shallow v → op.carries v)
    {request : NewRun} (concerns : op.Concerns s request.conversationId) {runId : RunId}
    {scope requestDigest : String} {idempotency : Option Idempotency} (unkeyed : op.keyed = none → idempotency = none)
    {stamp : Stamp} {r : Run}
    (ok : createRunInner request runId scope idempotency requestDigest stamp s = .ok (r, s')) :
    Writes s op s' := by
  rw [createRunInner_eq] at ok
  rcases once_ok ok with ⟨rfl, _⟩ | ⟨absent, reference, made, makes, rfl⟩
  · exact .nothing
  · rcases makeRun_ok makes with ⟨rfl, _, fits, events, emits, rfl⟩
    exact .run _ events _ fits rfl rfl ⟨concerns, emits.mono carries⟩
      ⟨_, _, _, _, _, absent, unkeyed, rfl⟩

theorem appendOnce_writes {op : Op} {scope requestDigest : String}
    {idempotency : Option Idempotency} {event : NewEvent} {now : Millis} {p : PersistedEvent}
    (concerns : op.Concerns s event.conversationId) (carries : op.carries event.payload)
    (unkeyed : op.keyed = none → idempotency = none)
    (ok : appendOnce serde scope idempotency requestDigest event now s = .ok (p, s')) :
    Writes s op s' := by
  rw [appendOnce_eq] at ok
  rcases once_ok ok with ⟨rfl, _⟩ | ⟨absent, reference, made, makes, rfl⟩
  · exact .nothing
  · rcases makeEvent_ok makes with ⟨_, _, unused, rfl⟩
    exact .event event.conversationId _ _ ⟨concerns, event, now, rfl, carries, unused, rfl⟩
      ⟨_, _, _, _, _, absent, unkeyed, rfl⟩

theorem setRunStatus_writes {op : Op} (carries : ∀ v, Shallow v → op.carries v) {runId : RunId}
    (concerns : ∀ r, loadRun runId s = some r → op.Concerns s r.conversationId)
    {target : RunStatus} {eventType : EventType} {stamp : Stamp} {r : Run}
    (ok : setRunStatus runId target eventType stamp s = .ok (r, s')) : Writes s op s' := by
  rcases setRunStatus_ok ok with ⟨current, events, found, allowed, emits, rfl⟩
  have mine := concerns current found
  have named : current.runId = runId := (lookup_mem found).2
  rw [← named] at found ⊢
  exact .moved current target stamp.now events found allowed ⟨mine, emits.mono carries⟩

theorem changeCommand_writes {op : Op} (keyed : Keyed Command.commandId s.commands)
    {commandId : CommandId} {selects : Command → Bool} {set : Command → Command} {c : Command}
    (ok : changeCommand commandId selects set s = .ok (c, s'))
    (keeps : ∀ c, (set c).commandId = c.commandId)
    (rewrites : ∀ c, c.commandId = commandId → selects c = true → Rewrites s op c (set c)) :
    Writes s op s' := by
  rcases changeCommand_ok keyed keeps ok with ⟨current, found, rfl⟩
  have named : current.commandId = commandId := (lookup_mem found).2
  split_ifs with selected
  · rw [← named] at found
    exact .command current _ found (rewrites current named selected)
  · exact .nothing

theorem createCommand_writes {request : NewCommand} {idempotency : Idempotency}
    {generated : CommandId} {now : Millis} {c : Command} {op : Op} (keyed : op.keyed ≠ none)
    (ok : createCommand sha256 request idempotency generated now s = .ok (c, s')) :
    Writes s op s' := by
  rw [createCommand_eq] at ok
  rcases once_ok ok with ⟨rfl, _⟩ | ⟨absent, reference, made, makes, rfl⟩
  · exact .nothing
  · rcases makeCommand_ok makes with ⟨rfl, _, acceptable, fresh, rfl⟩
    exact .accepted request generated now _ acceptable fresh
      ⟨_, _, _, _, _, absent, fun none => absurd none keyed, rfl⟩

theorem exec_writes (keyed : Keyed Command.commandId s.commands) {op : Op} {reply : Reply}
    (ok : exec sha256 serde s op = .ok (reply, s')) : Writes s op s' := by
  cases op with
  | createConversation idempotency generated stamp =>
      rcases replying_ok ok with ⟨c, done, _⟩
      rw [createConversation_eq] at done
      rcases once_ok done with ⟨rfl, _⟩ | ⟨absent, reference, made, makes, rfl⟩
      · exact .nothing
      · rcases makeConversation_ok makes with ⟨rfl, _, fresh, events, emits, rfl⟩
        exact .conversation _ events _ fresh ⟨rfl, emits⟩
          ⟨_, _, _, _, _, absent, Option.map_eq_none_iff.mp, rfl⟩
  | createRun request idempotency generated stamp =>
      rcases replying_ok ok with ⟨r, done, _⟩
      exact createRunInner_writes (fun _ shallow => shallow) (by rfl) Option.map_eq_none_iff.mp done
  | createRunWithId request runId idempotency stamp =>
      rcases replying_ok ok with ⟨r, done, _⟩
      exact createRunInner_writes (fun _ shallow => shallow) (by rfl) (fun none => nomatch none) done
  | startRun runId stamp =>
      rcases replying_ok ok with ⟨r, done, _⟩
      exact setRunStatus_writes (fun _ shallow => shallow) (fun r found => ⟨r, found, rfl⟩) done
  | completeRun runId stamp =>
      rcases replying_ok ok with ⟨r, done, _⟩
      exact setRunStatus_writes (fun _ shallow => shallow) (fun r found => ⟨r, found, rfl⟩) done
  | failRun runId stamp =>
      rcases replying_ok ok with ⟨r, done, _⟩
      exact setRunStatus_writes (fun _ shallow => shallow) (fun r found => ⟨r, found, rfl⟩) done
  | cancelRun runId stamp =>
      rcases replying_ok ok with ⟨r, done, _⟩
      exact setRunStatus_writes (fun _ shallow => shallow) (fun r found => ⟨r, found, rfl⟩) done
  | interruptRun runId stamp =>
      rcases replying_ok ok with ⟨r, done, _⟩
      exact setRunStatus_writes (fun _ shallow => shallow) (fun r found => ⟨r, found, rfl⟩) done
  | blockRun runId stamp =>
      rcases replying_ok ok with ⟨r, done, _⟩
      exact setRunStatus_writes (fun _ shallow => shallow) (fun r found => ⟨r, found, rfl⟩) done
  | errorRun runId stamp =>
      rcases replying_ok ok with ⟨r, done, _⟩
      exact setRunStatus_writes (fun _ shallow => shallow) (fun r found => ⟨r, found, rfl⟩) done
  | createAttempt runId generated now =>
      rcases replying_ok ok with ⟨a, done, _⟩
      rcases createAttempt_ok done with ⟨current, found, running, rfl, fits, rfl⟩
      obtain rfl : current.runId = runId := (lookup_mem found).2
      exact .attempt current generated now found running fits
  | setAttemptStatus attemptId target now =>
      rcases replying_ok ok with ⟨a, done, _⟩
      rcases setAttemptStatus_ok done with ⟨current, found, allowed, rfl⟩
      obtain rfl : current.attemptId = attemptId := (lookup_mem found).2
      exact .closed current target now found allowed
  | resumeInterruptedRun runId generated stamp =>
      rcases replying_ok ok with ⟨a, done, _⟩
      rcases resumeInterruptedRun_ok done with
        ⟨current, events, t, found, interrupted, emits, tables, rfl, fits, rfl⟩
      obtain rfl : current.runId = runId := (lookup_mem found).2
      exact .resumed current generated stamp events t found interrupted emits tables fits
  | repairInterruptedRunToTerminal runId target stamp =>
      rcases replying_ok ok with ⟨r, done, _⟩
      rcases repairInterruptedRunToTerminal_ok done with
        ⟨current, events, sealed, found, interrupted, emits, rfl⟩
      obtain rfl : current.runId = runId := (lookup_mem found).2
      exact .repaired current target stamp events sealed found interrupted emits
  | markInterrupted runs attempts =>
      rcases map_ok_iff.mp ok with ⟨done, marked, same⟩
      cases same
      rcases bind_ok_iff.mp marked with ⟨t, first, second⟩
      exact .interrupted runs attempts t _ first second
  | setRunProviderSession runId session =>
      rcases replying_ok ok with ⟨r, done, _⟩
      rw [setRunProviderSession_ok done]
      exact .session runId session
  | createCommand request idempotency generated now =>
      rcases replying_ok ok with ⟨c, done, _⟩
      exact createCommand_writes (Option.some_ne_none _) done
  | bindCommandChildRun commandId runId now =>
      rcases replying_ok ok with ⟨c, done, _⟩
      apply changeCommand_writes keyed done (fun _ => rfl)
      intro c named unbound
      rw [← named]
      exact .bound runId now (of_decide_eq_true unbound)
  | markCommandCompleted commandId now =>
      rcases replying_ok ok with ⟨c, done, _⟩
      apply changeCommand_writes keyed done (fun _ => rfl)
      intro c named _
      rw [← named]
      exact .completed now
  | markCommandRejected commandId now =>
      rcases replying_ok ok with ⟨c, done, _⟩
      apply changeCommand_writes keyed done (fun _ => rfl)
      intro c named _
      rw [← named]
      exact .rejected now
  | claimStaleCommandForRedrive commandId expectedUpdatedAt now =>
      have tables : (claimStaleCommandForRedrive commandId expectedUpdatedAt now s).2 = s' := by
        cases ok
        rfl
      rcases claimStaleCommandForRedrive_ok keyed tables with
        rfl | ⟨current, found, flying, rfl⟩
      · exact .nothing
      · obtain rfl : current.commandId = commandId := (lookup_mem found).2
        exact .command current _ found (.claimed expectedUpdatedAt now flying)
  | rebindCommandChildRun commandId newRunId now =>
      rcases replying_ok ok with ⟨c, done, _⟩
      apply changeCommand_writes keyed done (fun _ => rfl)
      intro c named _
      rw [← named]
      exact .rebound newRunId now
  | rebindCommandChildRunIfCurrent commandId old expectedUpdatedAt freshRunId now =>
      rcases replying_ok ok with ⟨outcome, done, _⟩
      rcases rebindCommandChildRunIfCurrent_ok keyed done with
        ⟨rfl, _⟩ | ⟨current, next, found, flying, bound, timed, rfl, _, rfl⟩
      · exact .nothing
      · obtain rfl : current.commandId = commandId := (lookup_mem found).2
        exact .command current _ found
          (.reboundIfCurrent old freshRunId expectedUpdatedAt now flying bound timed)
  | markCommandCompletedIfBound commandId runId now =>
      rcases replying_ok ok with ⟨outcome, done, _⟩
      rcases markCommandCompletedIfBound_ok keyed done with
        ⟨rfl, _⟩ | ⟨current, next, found, bound, rfl, _, rfl⟩
      · exact .nothing
      · obtain rfl : current.commandId = commandId := (lookup_mem found).2
        exact .command current _ found (.completedIfBound runId now bound)
  | markCommandCompletedIfBoundAndTerminal commandId runId now =>
      rcases replying_ok ok with ⟨outcome, done, _⟩
      rcases markCommandCompletedIfBoundAndTerminal_ok keyed done with
        ⟨rfl, _⟩ | ⟨current, next, child, found, bound, there, fit, rfl, _, rfl⟩
      · exact .nothing
      · obtain rfl : current.commandId = commandId := (lookup_mem found).2
        exact .command current _ found
          (.completedIfTerminal runId child now bound there fit)
  | markCommandRejectedIfUnattachedAndBound commandId runId now =>
      rcases replying_ok ok with ⟨outcome, done, _⟩
      rcases markCommandRejectedIfUnattachedAndBound_ok keyed done with
        ⟨rfl, _⟩ | ⟨current, next, found, bound, unattached, rfl, _, rfl⟩
      · exact .nothing
      · obtain rfl : current.commandId = commandId := (lookup_mem found).2
        exact .command current _ found (.rejectedIfUnattached runId now bound unattached)
  | reconcileCompletedCommands now =>
      rcases replying_ok ok with ⟨repaired, done, _⟩
      exact .reconciled now repaired s' done
  | appendUserMessage conversation payload run idempotency stamp =>
      rcases replying_ok ok with ⟨p, done, _⟩
      exact appendOnce_writes (by rfl) (by rfl) (fun absent => Option.map_eq_none_iff.mp absent) done
  | appendSystemNote conversation run attempt payload idempotency stamp =>
      rcases replying_ok ok with ⟨p, done, _⟩
      exact appendOnce_writes (by rfl) (by rfl) (fun absent => nomatch absent) done
  | appendEvent event now =>
      rcases replying_ok ok with ⟨p, done, _⟩
      rcases emitEvent_ok done with ⟨unused, _, rfl⟩
      have emits : (Op.appendEvent event now).Emits event.conversationId s _ :=
        ⟨rfl, event, now, rfl, rfl, unused, rfl⟩
      have writes := Writes.event event.conversationId _ [] emits (records_none _ s)
      rw [List.append_nil] at writes
      exact writes

end Writing

theorem interrupted_frame {runs : List (RunId × Stamp)} {attempts : List (AttemptId × Millis)}
    {s t s' : Tables} (first : runs.foldlM interruptOne s = .ok t)
    (second : attempts.foldlM closeListed t = .ok s') :
    s'.conversations = s.conversations ∧ s'.commands = s.commands ∧ s'.records = s.records := by
  have marked : t.conversations = s.conversations ∧ t.commands = s.commands ∧
      t.records = s.records := by
    apply run_invariant (motive := fun _ t => t.conversations = s.conversations ∧
      t.commands = s.commands ∧ t.records = s.records) _ _ first
    · exact ⟨rfl, rfl, rfl⟩
    · intro _ u listed u' _ held stepped
      rcases interruptOne_ok stepped with ⟨_, _, _, _, _, rfl⟩
      exact held
  apply run_invariant (motive := fun _ t => t.conversations = s.conversations ∧
    t.commands = s.commands ∧ t.records = s.records) _ _ second
  · exact marked
  · intro _ u listed u' _ held stepped
    rcases closeListed_ok stepped with ⟨_, _, rfl⟩
    exact held

end O7Formal.Ledger
