import O7Formal.Ledger.Writes

/-! Keys stay unique and no row is ever removed: conversations, events and records are appended
only, runs and commands keep their ids, and a command keeps the conversation, the parent and the text
that it was accepted with. -/

namespace O7Formal.Ledger

open Fallible Json Table
open O7Formal.Run (Sha256)

structure Keys (s : Tables) : Prop where
  conversations : Keyed Conversation.conversationId s.conversations
  runs : Keyed Run.runId s.runs
  attempts : Keyed RunAttempt.attemptId s.attempts
  events : Keyed EventRow.eventId s.events
  commands : Keyed Command.commandId s.commands
  records : Keyed (fun r : IdempotencyRecord => (r.scope, r.key)) s.records

structure Grows (s s' : Tables) : Prop where
  conversations : s.conversations <+: s'.conversations
  runs : s.runs.map Run.runId <+: s'.runs.map Run.runId
  events : s.events <+: s'.events
  commands : s.commands.map Command.commandId <+: s'.commands.map Command.commandId
  records : s.records <+: s'.records

theorem Grows.refl (s : Tables) : Grows s s :=
  ⟨List.prefix_refl _, List.prefix_refl _, List.prefix_refl _, List.prefix_refl _,
    List.prefix_refl _⟩

theorem Grows.trans {s t u : Tables} (first : Grows s t) (second : Grows t u) : Grows s u :=
  ⟨first.conversations.trans second.conversations, first.runs.trans second.runs,
    first.events.trans second.events, first.commands.trans second.commands,
    first.records.trans second.records⟩

theorem setRun_keys (runId : RunId) {set : Run → Run} (keeps : ∀ r, (set r).runId = r.runId)
    (runs : List Run) : (setRun runId set runs).map Run.runId = runs.map Run.runId :=
  keys_update (fun r _ => keeps r) runs

theorem attempts_keys (selects : RunAttempt → Bool) (status : AttemptStatus) (now : Millis)
    (attempts : List RunAttempt) :
    (update selects (closedAs status now) attempts).map RunAttempt.attemptId =
      attempts.map RunAttempt.attemptId :=
  keys_update (by intros; rfl) attempts

theorem put_keys (c : Command) (s : Tables) :
    (put c s).commands.map Command.commandId = s.commands.map Command.commandId :=
  keys_update (put_keeps c) s.commands

theorem emits_keyed {carries : JsonValue → Prop} {conversation : ConversationId} {s : Tables}
    {events : List EventRow} (keyed : Keyed EventRow.eventId s.events)
    (emits : Emits carries conversation s events) :
    Keyed EventRow.eventId events ∧ s.events <+: events := by
  rcases emits with ⟨event, now, _, _, unused, rfl⟩
  exact ⟨keyed_append keyed unused.1, List.prefix_append _ _⟩

theorem records_keyed {op : Op} {s : Tables} {records : List IdempotencyRecord}
    (keyed : Keyed (fun r : IdempotencyRecord => (r.scope, r.key)) s.records)
    (fits : Records op s records) :
    Keyed (fun r : IdempotencyRecord => (r.scope, r.key)) (s.records ++ records) := by
  rcases fits with ⟨scope, idempotency, requestDigest, reference, now, absent, _, rfl⟩
  cases idempotency with
  | none =>
      rw [recorded, Option.toList_none, List.map_nil, List.append_nil]
      exact keyed
  | some idem => exact keyed_append keyed (absent idem rfl)

theorem rewritten_grows {s s' : Tables} (keys : Keys s)
    (conversations : s'.conversations = s.conversations)
    (runs : s'.runs.map Run.runId = s.runs.map Run.runId)
    (attempts : s'.attempts.map RunAttempt.attemptId = s.attempts.map RunAttempt.attemptId)
    (events : Keyed EventRow.eventId s'.events ∧ s.events <+: s'.events)
    (commands : s'.commands.map Command.commandId = s.commands.map Command.commandId)
    (records : s'.records = s.records) : Keys s' ∧ Grows s s' := by
  constructor
  · constructor
    · rw [conversations]
      exact keys.conversations
    · rw [Keyed, runs]
      exact keys.runs
    · rw [Keyed, attempts]
      exact keys.attempts
    · exact events.1
    · rw [Keyed, commands]
      exact keys.commands
    · rw [records]
      exact keys.records
  · constructor
    · rw [conversations]
    · rw [runs]
    · exact events.2
    · rw [commands]
    · rw [records]

theorem put_grows {s : Tables} (keys : Keys s) (c : Command) : Keys (put c s) ∧ Grows s (put c s) :=
  rewritten_grows keys rfl rfl rfl ⟨keys.events, List.prefix_refl _⟩ (put_keys c s) rfl

theorem interruptOne_grows {s s' : Tables} {listed : RunId × Stamp} (keys : Keys s)
    (ok : interruptOne s listed = .ok s') : Keys s' ∧ Grows s s' := by
  rcases interruptOne_ok ok with ⟨current, events, _, _, emits, rfl⟩
  exact rewritten_grows keys rfl (setRun_keys _ (by intros; rfl) _) (attempts_keys _ _ _ _)
    (emits_keyed keys.events emits) rfl rfl

theorem closeListed_grows {s s' : Tables} {listed : AttemptId × Millis} (keys : Keys s)
    (ok : closeListed s listed = .ok s') : Keys s' ∧ Grows s s' := by
  rcases closeListed_ok ok with ⟨selects, _, rfl⟩
  exact rewritten_grows keys rfl rfl (attempts_keys _ _ _ _) ⟨keys.events, List.prefix_refl _⟩ rfl
    rfl

theorem foldlM_grows {ι : Type} {write : Tables → ι → Except LedgerError Tables}
    (each : ∀ s i s', Keys s → write s i = .ok s' → Keys s' ∧ Grows s s') {s s' : Tables}
    {listed : List ι} (keys : Keys s) (ok : listed.foldlM write s = .ok s') :
    Keys s' ∧ Grows s s' := by
  apply run_invariant (motive := fun _ t => Keys t ∧ Grows s t) _ _ ok
  · exact ⟨keys, Grows.refl s⟩
  · intro _ t i t' _ before stepped
    have after := each t i t' before.1 stepped
    exact ⟨after.1, before.2.trans after.2⟩

theorem writes_grows {s s' : Tables} {op : Op} (keys : Keys s) (writes : Writes s op s') :
    Keys s' ∧ Grows s s' := by
  cases writes with
  | nothing => exact ⟨keys, Grows.refl s⟩
  | conversation c events records fresh emits fits =>
      have emitted := emits_keyed keys.events emits.2
      exact ⟨⟨keyed_append keys.conversations fresh, keys.runs, keys.attempts, emitted.1,
          keys.commands, records_keyed keys.records fits⟩,
        ⟨List.prefix_append _ _, List.prefix_refl _, emitted.2, List.prefix_refl _,
          List.prefix_append _ _⟩⟩
  | run r events records fits _ _ emits recorded =>
      have emitted := emits_keyed keys.events emits.2
      refine ⟨⟨keys.conversations, keyed_append keys.runs fits.fresh, keys.attempts, emitted.1,
          keys.commands, records_keyed keys.records recorded⟩,
        ⟨List.prefix_refl _, ?_, emitted.2, List.prefix_refl _, List.prefix_append _ _⟩⟩
      rw [List.map_append]
      exact List.prefix_append _ _
  | moved r target now events _ _ emits =>
      refine rewritten_grows keys rfl (setRun_keys _ (by intros; rfl) _) ?_
        (emits_keyed keys.events emits.2) rfl rfl
      dsimp only
      split_ifs
      · exact attempts_keys _ _ _ _
      · rfl
  | attempt r attemptId now _ _ fits =>
      exact ⟨⟨keys.conversations, keys.runs, keyed_append keys.attempts fits.fresh, keys.events,
          keys.commands, keys.records⟩,
        ⟨List.prefix_refl _, List.prefix_refl _, List.prefix_refl _, List.prefix_refl _,
          List.prefix_refl _⟩⟩
  | closed a target now =>
      exact rewritten_grows keys rfl rfl (attempts_keys _ _ _ _)
        ⟨keys.events, List.prefix_refl _⟩ rfl rfl
  | resumed r attemptId stamp events t _ _ emits tables fits =>
      have written : Keys t ∧ Grows s t := by
        rw [tables]
        exact rewritten_grows keys rfl (setRun_keys _ (by intros; rfl) _) (attempts_keys _ _ _ _)
          (emits_keyed keys.events emits) rfl rfl
      exact ⟨{ written.1 with attempts := keyed_append written.1.attempts fits.fresh },
        written.2.trans ⟨List.prefix_refl _, List.prefix_refl _, List.prefix_refl _,
          List.prefix_refl _, List.prefix_refl _⟩⟩
  | repaired r target stamp events _ _ _ emits =>
      exact rewritten_grows keys rfl (setRun_keys _ (by intros; rfl) _) (attempts_keys _ _ _ _)
        (emits_keyed keys.events emits) rfl rfl
  | interrupted runs attempts t _ first second =>
      have written := foldlM_grows (fun _ _ _ => interruptOne_grows) keys first
      have closed := foldlM_grows (fun _ _ _ => closeListed_grows) written.1 second
      exact ⟨closed.1, written.2.trans closed.2⟩
  | session runId session =>
      exact rewritten_grows keys rfl (setRun_keys _ (by intros; rfl) _) rfl
        ⟨keys.events, List.prefix_refl _⟩ rfl rfl
  | accepted request commandId now records _ fresh fits =>
      refine ⟨⟨keys.conversations, keys.runs, keys.attempts, keys.events,
          keyed_append keys.commands fresh, records_keyed keys.records fits⟩,
        ⟨List.prefix_refl _, List.prefix_refl _, List.prefix_refl _, ?_, List.prefix_append _ _⟩⟩
      rw [List.map_append]
      exact List.prefix_append _ _
  | command c next => exact put_grows keys next
  | reconciled now repaired _ ok =>
      apply reconcileCompletedCommands_keeps keys.commands _ _ ok
      · exact ⟨keys, Grows.refl s⟩
      · intro t c _ before _ _
        have after := put_grows before.1 { c with status := .completed, updatedAt := now }
        exact ⟨after.1, before.2.trans after.2⟩
  | event conversation events records emits fits =>
      have emitted := emits_keyed keys.events emits.2
      exact ⟨⟨keys.conversations, keys.runs, keys.attempts, emitted.1, keys.commands,
          records_keyed keys.records fits⟩,
        ⟨List.prefix_refl _, List.prefix_refl _, emitted.2, List.prefix_refl _,
          List.prefix_append _ _⟩⟩

section Running

variable {sha256 : Sha256} {serde : Serde} {s : Tables}

theorem keys_empty : Keys .empty := by
  constructor <;> exact List.nodup_nil

theorem exec_grows (keys : Keys s) {op : Op} {reply : Reply} {s' : Tables}
    (ok : exec sha256 serde s op = .ok (reply, s')) : Keys s' ∧ Grows s s' :=
  writes_grows keys (exec_writes keys.commands ok)

theorem reachable_keys (reached : Reachable sha256 serde s) : Keys s := by
  apply reachable_invariant keys_empty _ reached
  intro t op reply t' keys ok
  exact (exec_grows keys ok).1

theorem step_grows (keys : Keys s) (op : Op) :
    Keys (step sha256 serde s op) ∧ Grows s (step sha256 serde s op) :=
  step_keeps (motive := fun t => Keys t ∧ Grows s t) ⟨keys, Grows.refl s⟩
    fun _ _ ok => exec_grows keys ok

theorem run_grows (keys : Keys s) (ops : List Op) :
    Keys (run sha256 serde s ops) ∧ Grows s (run sha256 serde s ops) := by
  apply List.foldlRecOn (motive := fun t => Keys t ∧ Grows s t)
  · exact ⟨keys, Grows.refl s⟩
  · intro t before op _
    have after : Keys (step sha256 serde t op) ∧ Grows t (step sha256 serde t op) :=
      step_grows before.1 op
    exact ⟨after.1, before.2.trans after.2⟩

end Running

structure SameOrigin (c c' : Command) : Prop where
  commandId : c'.commandId = c.commandId
  conversationId : c'.conversationId = c.conversationId
  parentRunId : c'.parentRunId = c.parentRunId
  commandText : c'.commandText = c.commandText

theorem SameOrigin.refl (c : Command) : SameOrigin c c := ⟨rfl, rfl, rfl, rfl⟩

theorem SameOrigin.trans {a b c : Command} (first : SameOrigin a b) (second : SameOrigin b c) :
    SameOrigin a c :=
  ⟨second.commandId.trans first.commandId, second.conversationId.trans first.conversationId,
    second.parentRunId.trans first.parentRunId, second.commandText.trans first.commandText⟩

def KeepsOrigins (s s' : Tables) : Prop :=
  ∀ id c, loadCommand id s = some c → ∃ c', loadCommand id s' = some c' ∧ SameOrigin c c'

theorem KeepsOrigins.refl (s : Tables) : KeepsOrigins s s :=
  fun _ c found => ⟨c, found, .refl c⟩

theorem KeepsOrigins.trans {s t u : Tables} (first : KeepsOrigins s t)
    (second : KeepsOrigins t u) : KeepsOrigins s u := by
  intro id c found
  rcases first id c found with ⟨c', found', same⟩
  rcases second id c' found' with ⟨c'', found'', same'⟩
  exact ⟨c'', found'', same.trans same'⟩

theorem put_origins {s : Tables} {c next : Command} (found : loadCommand c.commandId s = some c)
    (same : SameOrigin c next) : KeepsOrigins s (put next s) := by
  intro id row there
  by_cases here : id = next.commandId
  · refine ⟨next, ?_, ?_⟩
    · rw [loadCommand_put, if_pos here, there]
      rfl
    · rw [here, same.commandId, found] at there
      cases there
      exact same
  · exact ⟨row, by rw [loadCommand_put_other here]; exact there, .refl row⟩

theorem rewrites_origin {s : Tables} {op : Op} {c next : Command}
    (rewrites : Rewrites s op c next) : SameOrigin c next := by
  cases rewrites <;> exact ⟨rfl, rfl, rfl, rfl⟩

theorem writes_origins {s s' : Tables} {op : Op} (keys : Keys s) (writes : Writes s op s') :
    KeepsOrigins s s' := by
  cases writes with
  | resumed r attemptId stamp events t _ _ _ tables =>
      subst tables
      exact .refl s
  | interrupted runs attempts t _ first second =>
      intro id c found
      refine ⟨c, ?_, .refl c⟩
      rw [loadCommand, (interrupted_frame first second).2.1]
      exact found
  | accepted request commandId now records acceptable fresh =>
      intro id c found
      refine ⟨c, ?_, .refl c⟩
      rw [loadCommand, lookup_append]
      exact congrArg (fun x => Option.or x _) found
  | command c next found rewrites => exact put_origins found (rewrites_origin rewrites)
  | reconciled now repaired _ ok =>
      have written : Keys s' ∧ KeepsOrigins s s' := by
        apply reconcileCompletedCommands_keeps
          (motive := fun t => Keys t ∧ KeepsOrigins s t) keys.commands _ _ ok
        · exact ⟨keys, .refl s⟩
        · intro t c _ held found _
          exact ⟨(put_grows held.1 _).1,
            held.2.trans (put_origins found ⟨rfl, rfl, rfl, rfl⟩)⟩
      exact written.2
  | _ => exact .refl s

section Running

variable {sha256 : Sha256} {serde : Serde}

theorem step_origins {s : Tables} (keys : Keys s) (op : Op) :
    KeepsOrigins s (step sha256 serde s op) :=
  step_keeps (motive := KeepsOrigins s) (.refl s)
    fun _ _ ok => writes_origins keys (exec_writes keys.commands ok)

theorem run_origins {s : Tables} (keys : Keys s) (ops : List Op) :
    KeepsOrigins s (run sha256 serde s ops) := by
  induction ops generalizing s with
  | nil => exact .refl s
  | cons op rest ih =>
      have first : KeepsOrigins s (step sha256 serde s op) := step_origins keys op
      exact first.trans (ih (step_grows keys op).1)

end Running

end O7Formal.Ledger
