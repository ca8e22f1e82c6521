import O7Formal.Ledger.Idempotent
import O7Formal.Lib.Numbering

/-! What the operations append to the event log of a conversation: its sequences are `1, .., n`, and
every success appends exactly the events that the operation emits, each with the next sequence. -/

namespace O7Formal.Ledger

open Fallible Json Table Numbering
open O7Formal.Run (Sha256 standardSha256)

def log (conversation : ConversationId) (events : List EventRow) : List EventRow :=
  events.filter fun e => decide (e.conversationId = conversation)

inductive Appends (concerns : ConversationId → Prop) (carries : JsonValue → Prop) :
    List EventRow → List EventRow → Prop
  | none (events : List EventRow) : Appends concerns carries events events
  | one {events grown : List EventRow} (row : EventRow) (payload : JsonValue) :
      Appends concerns carries events grown → concerns row.conversationId → carries payload →
      row.payloadJson = payload.text →
      row.sequence = next ((log row.conversationId grown).map EventRow.sequence) →
      (row.sequence : Int) ≤ i64Max → Appends concerns carries events (grown ++ [row])

section Appending

variable {concerns : ConversationId → Prop} {carries : JsonValue → Prop}

theorem Appends.mono {concerns' : ConversationId → Prop} {carries' : JsonValue → Prop}
    {events grown : List EventRow} (appends : Appends concerns carries events grown)
    (wider : ∀ id, concerns id → concerns' id) (weaker : ∀ v, carries v → carries' v) :
    Appends concerns' carries' events grown := by
  induction appends with
  | none => exact .none events
  | one row payload _ mine carried text sequence bounded ih =>
      exact .one row payload ih (wider _ mine) (weaker _ carried) text sequence bounded

theorem Emits.appends {conversation : ConversationId} {s : Tables} {events grown : List EventRow}
    (emits : Emits carries conversation s grown) (mine : concerns conversation)
    (before : Appends concerns carries events s.events) :
    Appends concerns carries events grown := by
  rcases emits with ⟨event, now, rfl, carried, fits, rfl⟩
  exact .one _ event.payload before mine carried rfl rfl fits.2

theorem Op.Emits.appends {op : Op} {conversation : ConversationId} {s : Tables}
    {grown : List EventRow} (emits : op.Emits conversation s grown) :
    Appends (op.Concerns s) op.carries s.events grown :=
  Ledger.Emits.appends emits.2 emits.1 (.none _)

theorem Appends.added {events grown : List EventRow}
    (appends : Appends concerns carries events grown) : ∃ added, grown = events ++ added ∧
      ∀ row ∈ added, concerns row.conversationId ∧
        ∃ payload, carries payload ∧ row.payloadJson = payload.text := by
  induction appends with
  | none => exact ⟨[], (List.append_nil _).symm, by simp⟩
  | one row payload _ mine carried text _ _ ih =>
      rcases ih with ⟨added, rfl, each⟩
      refine ⟨added ++ [row], List.append_assoc _ _ _, fun new member => ?_⟩
      rcases List.mem_append.mp member with old | last
      · exact each new old
      · rw [List.mem_singleton.mp last]
        exact ⟨mine, payload, carried, text⟩

end Appending

theorem interrupt_appends {s t : Tables} {runs : List (RunId × Stamp)}
    (ok : runs.foldlM interruptOne s = .ok t) (attempts : List (AttemptId × Millis)) :
    Appends ((Op.markInterrupted runs attempts).Concerns s) Shallow s.events t.events := by
  -- The runs keep their conversations all along.
  have kept : (∀ id r, loadRun id t = some r →
      ∃ r₀, loadRun id s = some r₀ ∧ r₀.conversationId = r.conversationId) ∧
      Appends ((Op.markInterrupted runs attempts).Concerns s) Shallow s.events t.events := by
    apply run_invariant (motive := fun runs t => (∀ id r, loadRun id t = some r →
      ∃ r₀, loadRun id s = some r₀ ∧ r₀.conversationId = r.conversationId) ∧
      Appends ((Op.markInterrupted runs attempts).Concerns s) Shallow s.events t.events) _ _ ok
    · exact ⟨fun id r found => ⟨r, found, rfl⟩, .none _⟩
    · intro before u listed u' _ held stepped
      rcases interruptOne_ok stepped with ⟨current, events, found, _, emits, rfl⟩
      constructor
      · intro id r there
        have same := @lookup_update _ _ _ Run.runId (fun q => decide (q.runId = listed.1))
          (fun q => { q with status := .interrupted }) (by intros; rfl) id u.runs
        rcases Option.map_eq_some_iff.mp (same.symm.trans there) with ⟨q, earlier, rfl⟩
        rcases held.1 id q earlier with ⟨r₀, first, conversation⟩
        refine ⟨r₀, first, conversation.trans ?_⟩
        split_ifs <;> rfl
      · rcases held.1 _ _ found with ⟨r₀, first, conversation⟩
        apply emits.appends
        · exact ⟨listed, by simp, r₀, first, conversation⟩
        · apply held.2.mono _ fun _ shallow => shallow
          intro id concerned
          rcases concerned with ⟨old, member, rest⟩
          exact ⟨old, List.mem_append_left _ member, rest⟩
  exact kept.2

theorem writes_appends {s s' : Tables} {op : Op} (keys : Keys s) (writes : Writes s op s') :
    Appends (op.Concerns s) op.carries s.events s'.events := by
  cases writes with
  | nothing => exact .none _
  | conversation c events records _ emits => exact emits.appends
  | run r events records _ _ _ emits => exact emits.appends
  | moved r target now events _ _ emits => exact emits.appends
  | attempt => exact .none _
  | closed => exact .none _
  | resumed r attemptId stamp events t found _ emits tables =>
      subst tables
      exact emits.appends ⟨r, found, rfl⟩ (.none _)
  | repaired r target stamp events _ found _ emits =>
      exact emits.appends ⟨r, found, rfl⟩ (.none _)
  | interrupted runs attempts t s' first second =>
      have same : s'.events = t.events := by
        apply run_invariant (motive := fun _ u => u.events = t.events) rfl _ second
        intro _ u listed u' _ held stepped
        rcases closeListed_ok stepped with ⟨_, _, rfl⟩
        exact held
      rw [same]
      exact interrupt_appends first attempts
  | session => exact .none _
  | accepted => exact .none _
  | command => exact .none _
  | reconciled now repaired _ ok =>
      have same : s'.events = s.events := by
        apply reconcileCompletedCommands_keeps (motive := fun t => t.events = s.events)
          keys.commands rfl _ ok
        exact fun _ _ _ held _ _ => held
      rw [same]
      exact .none _
  | event conversation events records emits => exact emits.appends

/-- Sequences are `1, .., n` in every conversation, and payloads are printed values. -/
structure Numbered (events : List EventRow) : Prop where
  dense : ∀ conversation, Dense ((log conversation events).map EventRow.sequence)
  bounded : ∀ row ∈ events, (row.sequence : Int) ≤ i64Max
  printed : ∀ row ∈ events, ∃ payload : JsonValue, row.payloadJson = payload.text

theorem log_snoc (conversation : ConversationId) (events : List EventRow) (row : EventRow) :
    log conversation (events ++ [row]) =
      log conversation events ++ if row.conversationId = conversation then [row] else [] := by
  rw [log, List.filter_append, List.filter_singleton]
  by_cases mine : row.conversationId = conversation <;> simp [mine, log]

theorem log_grown {events grown : List EventRow} (part : events <+: grown)
    (conversation : ConversationId) : log conversation events <+: log conversation grown :=
  part.filter _

theorem Numbered.appends {concerns : ConversationId → Prop} {carries : JsonValue → Prop}
    {events grown : List EventRow} (numbered : Numbered events)
    (appends : Appends concerns carries events grown) : Numbered grown := by
  induction appends with
  | none => exact numbered
  | one row payload _ _ _ text sequence bounded ih =>
      constructor
      · intro conversation
        rw [log_snoc]
        split_ifs with mine
        · rw [List.map_append, List.map_singleton, sequence, mine]
          exact (ih.dense conversation).append
        · rw [List.append_nil]
          exact ih.dense conversation
      · rw [List.forall_mem_append, List.forall_mem_singleton]
        exact ⟨ih.bounded, bounded⟩
      · rw [List.forall_mem_append, List.forall_mem_singleton]
        exact ⟨ih.printed, payload, text⟩

theorem Numbered.sequence_eq {before after : List EventRow} {row : EventRow}
    (numbered : Numbered (before ++ row :: after)) :
    row.sequence = (log row.conversationId before).length + 1 := by
  have dense := numbered.dense row.conversationId
  have split : log row.conversationId (before ++ row :: after) =
      log row.conversationId before ++ row :: log row.conversationId after := by
    simp [log]
  have here := congrArg (fun ns => ns[(log row.conversationId before).length]?) dense
  simpa [split, Nat.add_comm] using here

theorem Numbered.rowsAfter_eq {s : Tables} (numbered : Numbered s.events)
    (conversation : ConversationId) (a : Nat) :
    rowsAfter conversation (min (a : Int) i64Max) s = (log conversation s.events).drop a := by
  have dense := numbered.dense conversation
  have above : (s.events.filter fun e => decide (e.conversationId = conversation ∧
      min (a : Int) i64Max < e.sequence)) = (log conversation s.events).drop a := by
    rw [← dense.filter_above a, log, List.filter_filter]
    apply List.filter_congr
    intro row member
    have bounded := numbered.bounded row member
    have capped : min (a : Int) i64Max < row.sequence ↔ a < row.sequence := by omega
    simp only [capped, Bool.decide_and, Bool.and_comm]
  rw [rowsAfter, above]
  apply List.mergeSort_of_pairwise
  apply List.Pairwise.imp _ (dense.pairwise.sublist (List.drop_sublist _ _))
  intro x y less
  exact decide_eq_true less.le

section Running

variable {sha256 : Sha256} {serde : Serde} {s : Tables}

theorem exec_appends (keys : Keys s) {op : Op} {reply : Reply} {s' : Tables}
    (ok : exec sha256 serde s op = .ok (reply, s')) :
    Appends (op.Concerns s) op.carries s.events s'.events :=
  writes_appends keys (exec_writes keys.commands ok)

theorem numbered_empty : Numbered [] := by
  constructor
  · intro conversation
    exact dense_nil
  · simp
  · simp

theorem step_numbered (keys : Keys s) (numbered : Numbered s.events) (op : Op) :
    Numbered (step sha256 serde s op).events :=
  step_keeps numbered fun _ _ ok => numbered.appends (exec_appends keys ok)

theorem run_numbered (keys : Keys s) (numbered : Numbered s.events) (ops : List Op) :
    Numbered (run sha256 serde s ops).events := by
  induction ops using List.reverseRecOn with
  | nil => exact numbered
  | append_singleton ops op ih =>
      rw [run_append, run_singleton]
      exact step_numbered (run_grows keys ops).1 ih op

end Running

def ofRun (runId : RunId) (eventType : EventType) (payload : JsonValue) (stamp : Stamp)
    (s : Tables) : Option (NewEvent × Millis) :=
  (loadRun runId s).map fun r => (⟨stamp.eventId, r.conversationId, some runId, none, eventType,
    eventSchemaVersion, payload⟩, stamp.now)

def openingEvent (request : NewRun) (runId : RunId) (stamp : Stamp) : NewEvent × Millis :=
  (⟨stamp.eventId, request.conversationId, some runId, none, .runCreated, eventSchemaVersion,
    runPayload request.agent request.role⟩, stamp.now)

/-- The events that a call emits if its key is new, in order; none stands for a run that is not
there. -/
def Op.emissions (s : Tables) : Op → List (Option (NewEvent × Millis))
  | .createConversation _ generated stamp => [some (⟨stamp.eventId, generated, none, none,
      .conversationCreated, eventSchemaVersion, noPayload⟩, stamp.now)]
  | .createRun request _ generated stamp => [some (openingEvent request generated stamp)]
  | .createRunWithId request runId _ stamp => [some (openingEvent request runId stamp)]
  | .startRun runId stamp => [ofRun runId .runStarted noPayload stamp s]
  | .completeRun runId stamp => [ofRun runId .runCompleted noPayload stamp s]
  | .failRun runId stamp => [ofRun runId .runFailed noPayload stamp s]
  | .cancelRun runId stamp => [ofRun runId .runCancelled noPayload stamp s]
  | .interruptRun runId stamp => [ofRun runId .runInterrupted noPayload stamp s]
  | .blockRun runId stamp => [ofRun runId .runBlocked noPayload stamp s]
  | .errorRun runId stamp => [ofRun runId .runErrored noPayload stamp s]
  | .resumeInterruptedRun runId _ stamp => [ofRun runId .runStarted resumedPayload stamp s]
  | .repairInterruptedRunToTerminal runId target stamp =>
      [(repairEvent target).bind fun eventType => ofRun runId eventType repairedPayload stamp s]
  | .markInterrupted runs _ =>
      runs.map fun listed => ofRun listed.1 .runInterrupted recoveryPayload listed.2 s
  | .appendUserMessage conversation payload run _ stamp => [some (⟨stamp.eventId, conversation,
      run, none, .userMessage, eventSchemaVersion, payload⟩, stamp.now)]
  | .appendSystemNote conversation run attempt payload _ stamp => [some (⟨stamp.eventId,
      conversation, run, attempt, .systemNote, eventSchemaVersion, payload⟩, stamp.now)]
  | .appendEvent event now => [some (event, now)]
  | _ => []

def Op.replays (s : Tables) (op : Op) : Bool :=
  match op.keyed with
  | some (key, q) => (findRecord q.scope key s).isSome
  | none => false

def Op.returnsEvent : Op → Bool
  | .appendUserMessage _ _ _ _ _ => true
  | .appendSystemNote _ _ _ _ _ _ => true
  | .appendEvent _ _ => true
  | _ => false

def rowAfter (events : List EventRow) (event : NewEvent) (now : Millis) : EventRow :=
  ⟨event.eventId, event.conversationId, event.runId, event.attemptId,
    (log event.conversationId events).length + 1, event.eventType.asStr, event.schemaVersion, now,
    event.payload.text⟩

def emitted : List EventRow → List (NewEvent × Millis) → List EventRow
  | _, [] => []
  | events, (event, now) :: later =>
      rowAfter events event now :: emitted (events ++ [rowAfter events event now]) later

/-- What a success has appended and returned: an unkeyed or fresh call its own events, with the next
sequences, and a replay nothing. -/
structure Emitted (serde : Serde) (s : Tables) (op : Op) (reply : Reply) (s' : Tables) : Prop where
  fresh : op.replays s = false → ∃ events, op.emissions s = events.map some ∧
    s'.events = s.events ++ emitted s.events events
  replayed : op.replays s = true → s'.events = s.events
  returned : op.returnsEvent = true → ∃ p, reply = .event p ∧
    (op.replays s = true → ∃ row ∈ s.events, persistedEventFromRaw serde row = .ok p) ∧
    (op.replays s = false → ∃ event now, op.emissions s = [some (event, now)] ∧
      p = (rowAfter s.events event now).withPayload event.payload)

theorem emitted_append (events : List EventRow) (first later : List (NewEvent × Millis)) :
    emitted events (first ++ later) =
      emitted events first ++ emitted (events ++ emitted events first) later := by
  induction first generalizing events with
  | nil => rw [List.nil_append, emitted, List.nil_append, List.append_nil]
  | cons e rest ih =>
      rw [List.cons_append, emitted, emitted, ih, List.cons_append, List.append_assoc,
        List.singleton_append]

theorem Numbered.eventRow_eq {s : Tables} (numbered : Numbered s.events) (event : NewEvent)
    (now : Millis) : eventRow event now s = rowAfter s.events event now := by
  have next_eq := (numbered.dense event.conversationId).next_eq
  rw [List.length_map] at next_eq
  rw [eventRow, rowAfter, ← next_eq]
  rfl

def AddsOne (e : NewEvent × Millis) (s s' : Tables) : Prop :=
  s'.events = s.events ++ [eventRow e.1 e.2 s]

section AddsOne

variable {runId : RunId} {stamp : Stamp} {s s' : Tables} {reference : String}

theorem makeConversation_adds {generated : ConversationId} {c : Conversation}
    (ok : makeConversation generated stamp s = .ok ((c, reference), s')) :
    AddsOne (⟨stamp.eventId, generated, none, none, .conversationCreated, eventSchemaVersion,
      noPayload⟩, stamp.now) s s' := by
  simp only [makeConversation, bind_ok_iff, pure_ok_iff, Prod.mk.injEq] at ok
  rcases ok with ⟨t, inserted, p, emits, _, rfl⟩
  rcases insertConversation_ok inserted with ⟨_, rfl⟩
  exact congrArg Tables.events (emitEvent_ok emits).2.2

theorem makeRun_adds {request : NewRun} {r : Run}
    (ok : makeRun request runId stamp s = .ok ((r, reference), s')) :
    AddsOne (openingEvent request runId stamp) s s' := by
  simp only [makeRun, bind_ok_iff, pure_ok_iff, Prod.mk.injEq] at ok
  rcases ok with ⟨t, inserted, p, emits, _, rfl⟩
  rcases insertRun_ok inserted with ⟨_, rfl⟩
  exact congrArg Tables.events (emitEvent_ok emits).2.2

theorem setRunStatus_adds {target : RunStatus} {eventType : EventType} {r : Run}
    (ok : setRunStatus runId target eventType stamp s = .ok (r, s')) :
    ∃ e, ofRun runId eventType noPayload stamp s = some e ∧ AddsOne e s s' := by
  simp only [setRunStatus, validateRunTransition, bind_ok_iff, refuseIf_ok_iff, pure_ok_iff,
    Bool.not_eq_false, runOr_ok, Prod.exists, Prod.mk.injEq] at ok
  rcases ok with ⟨current, found, _, _, p, t, emits, _, _, _, rfl⟩
  refine ⟨_, congrArg (Option.map _) found, ?_⟩
  by_cases closing : target.isTerminal ∨ target = .interrupted
  · rw [if_pos closing] at emits
    exact congrArg Tables.events (emitEvent_ok emits).2.2
  · rw [if_neg closing] at emits
    exact congrArg Tables.events (emitEvent_ok emits).2.2

theorem resumeInterruptedRun_adds {attemptId : AttemptId} {a : RunAttempt}
    (ok : resumeInterruptedRun runId attemptId stamp s = .ok (a, s')) :
    ∃ e, ofRun runId .runStarted resumedPayload stamp s = some e ∧ AddsOne e s s' := by
  simp only [resumeInterruptedRun, bind_ok_iff, refuseIf_ok_iff, runOr_ok, not_not,
    Prod.exists] at ok
  rcases ok with ⟨current, found, _, _, p, t, emits, added⟩
  rcases addAttempt_ok added with ⟨_, _, rfl⟩
  exact ⟨_, congrArg (Option.map _) found, congrArg Tables.events (emitEvent_ok emits).2.2⟩

theorem repairInterruptedRunToTerminal_adds {target : RunStatus} {r : Run}
    (ok : repairInterruptedRunToTerminal runId target stamp s = .ok (r, s')) :
    ∃ e, ((repairEvent target).bind fun eventType =>
      ofRun runId eventType repairedPayload stamp s) = some e ∧ AddsOne e s s' := by
  simp only [repairInterruptedRunToTerminal, bind_ok_iff, refuseIf_ok_iff, okOr_ok_iff, runOr_ok,
    not_not, pure_ok_iff, Prod.exists, Prod.mk.injEq] at ok
  rcases ok with ⟨eventType, sealing, current, found, _, _, p, t, emits, _, _, _, rfl⟩
  refine ⟨(⟨stamp.eventId, current.conversationId, some runId, none, eventType, eventSchemaVersion,
    repairedPayload⟩, stamp.now), ?_, congrArg Tables.events (emitEvent_ok emits).2.2⟩
  rw [sealing]
  exact congrArg (Option.map _) found

theorem interruptOne_adds (ok : interruptOne s (runId, stamp) = .ok s') :
    ∃ e, ofRun runId .runInterrupted recoveryPayload stamp s = some e ∧ AddsOne e s s' := by
  simp only [interruptOne, validateRunTransition, bind_ok_iff, refuseIf_ok_iff, runOr_ok,
    Bool.not_eq_false, pure_ok_iff, Prod.exists] at ok
  rcases ok with ⟨current, found, _, _, p, t, emits, rfl⟩
  exact ⟨_, congrArg (Option.map _) found, congrArg Tables.events (emitEvent_ok emits).2.2⟩

end AddsOne

section Succeeding

variable {sha256 : Sha256} {serde : Serde} {s s' : Tables} {op : Op} {reply : Reply}

theorem Numbered.emits_one (numbered : Numbered s.events) {e : NewEvent × Millis}
    (listed : op.emissions s = [some e]) (appended : AddsOne e s s') :
    ∃ events, op.emissions s = events.map some ∧ s'.events = s.events ++ emitted s.events events := by
  refine ⟨[e], listed, ?_⟩
  rw [appended, numbered.eventRow_eq]
  rfl

theorem emits_none (silent : op.emissions s = []) (same : s'.events = s.events) :
    ∃ events, op.emissions s = events.map some ∧ s'.events = s.events ++ emitted s.events events := by
  refine ⟨[], silent, ?_⟩
  rw [emitted, List.append_nil, same]

theorem exec_silent (keys : Keys s) (ok : exec sha256 serde s op = .ok (reply, s'))
    (silent : ∀ id, ¬ op.Concerns s id) : s'.events = s.events := by
  rcases (exec_appends keys ok).added with ⟨added, same, each⟩
  have none : added = [] :=
    List.eq_nil_iff_forall_not_mem.mpr fun row member => silent _ (each row member).1
  rw [same, none, List.append_nil]

theorem once_split {α : Type} {q : Request} {idempotency : Option Idempotency}
    {requestDigest : String} {load : String → Tables → Except LedgerError α}
    {make : Tables → Except LedgerError ((α × String) × Tables)} {now : Millis} {a : α}
    (keyed : op.keyed = idempotency.map fun idem => (idem.key, q))
    (ok : once q.scope idempotency requestDigest load make now s = .ok (a, s')) :
    op.replays s = true ∧ s' = s ∧ (∃ reference, load reference s = .ok a) ∨
      op.replays s = false ∧ ∃ reference made, make s = .ok ((a, reference), made) ∧
        s'.events = made.events := by
  rcases once_ok ok with ⟨same, idem, given, row, found, _, loaded⟩ |
    ⟨absent, reference, made, makes, rfl⟩
  · left
    refine ⟨?_, same, _, loaded⟩
    rw [Op.replays, keyed, Option.mem_def.mp given, Option.map_some]
    exact Option.isSome_iff_exists.mpr ⟨row, found⟩
  · right
    refine ⟨?_, reference, made, makes, rfl⟩
    rw [Op.replays, keyed]
    cases idempotency with
    | none => rfl
    | some idem => exact Option.isSome_eq_false_iff.mpr (Option.isNone_iff_eq_none.mpr (absent idem rfl))

/-- What `Emitted` says of the event table. -/
def Logged (s : Tables) (op : Op) (s' : Tables) : Prop :=
  (op.replays s = false → ∃ events, op.emissions s = events.map some ∧
    s'.events = s.events ++ emitted s.events events) ∧
  (op.replays s = true → s'.events = s.events)

theorem logged_unkeyed (unkeyed : op.keyed = none) (emits : ∃ events,
    op.emissions s = events.map some ∧ s'.events = s.events ++ emitted s.events events) :
    Logged s op s' := by
  refine ⟨fun _ => emits, fun replays => ?_⟩
  rw [Op.replays, unkeyed] at replays
  cases replays

theorem logged_once {α : Type} {q : Request} {idempotency : Option Idempotency}
    {requestDigest : String} {load : String → Tables → Except LedgerError α}
    {make : Tables → Except LedgerError ((α × String) × Tables)} {now : Millis} {a : α}
    (keyed : op.keyed = idempotency.map fun idem => (idem.key, q))
    (ok : once q.scope idempotency requestDigest load make now s = .ok (a, s'))
    (emits : ∀ reference made, make s = .ok ((a, reference), made) → ∃ events,
      op.emissions s = events.map some ∧ made.events = s.events ++ emitted s.events events) :
    Logged s op s' := by
  rcases once_split keyed ok with ⟨replays, same, _⟩ | ⟨fresh, reference, made, makes, same⟩
  · exact ⟨fun fresh => Bool.noConfusion (fresh.symm.trans replays), fun _ => congrArg _ same⟩
  · refine ⟨fun _ => ?_, fun replays => Bool.noConfusion (fresh.symm.trans replays)⟩
    rw [same]
    exact emits reference made makes

theorem ofRun_eq (runId : RunId) (eventType : EventType) (payload : JsonValue) (stamp : Stamp)
    {t : Tables} (kept : (loadRun runId t).map Run.conversationId =
      (loadRun runId s).map Run.conversationId) :
    ofRun runId eventType payload stamp t = ofRun runId eventType payload stamp s := by
  have same := congrArg (Option.map fun conversation => ((⟨stamp.eventId, conversation, some runId,
    none, eventType, eventSchemaVersion, payload⟩ : NewEvent), stamp.now)) kept
  rw [Option.map_map, Option.map_map] at same
  exact same

theorem interrupt_emits (numbered : Numbered s.events) {runs : List (RunId × Stamp)}
    (ok : runs.foldlM interruptOne s = .ok s') : ∃ events,
      runs.map (fun listed => ofRun listed.1 .runInterrupted recoveryPayload listed.2 s) =
        events.map some ∧ s'.events = s.events ++ emitted s.events events := by
  have emits : (∀ id, (loadRun id s').map Run.conversationId =
      (loadRun id s).map Run.conversationId) ∧ Numbered s'.events ∧ ∃ events,
      runs.map (fun listed => ofRun listed.1 .runInterrupted recoveryPayload listed.2 s) =
        events.map some ∧ s'.events = s.events ++ emitted s.events events := by
    apply run_invariant (motive := fun runs t => (∀ id, (loadRun id t).map Run.conversationId =
      (loadRun id s).map Run.conversationId) ∧ Numbered t.events ∧ ∃ events,
      runs.map (fun listed => ofRun listed.1 .runInterrupted recoveryPayload listed.2 s) =
        events.map some ∧ t.events = s.events ++ emitted s.events events) _ _ ok
    · exact ⟨fun _ => rfl, numbered, [], rfl, (List.append_nil _).symm⟩
    · rintro before u ⟨runId, stamp⟩ u' _ ⟨kept, numbered, events, listed, same⟩ stepped
      rcases interruptOne_adds stepped with ⟨e, found, appended⟩
      rcases interruptOne_ok stepped with ⟨current, rows, _, _, emits, tables⟩
      refine ⟨?_, ?_, events ++ [e], ?_, ?_⟩
      · intro id
        rw [← kept id, tables]
        have updated := @lookup_update _ _ _ Run.runId (fun q => decide (q.runId = runId))
          (fun q => { q with status := .interrupted }) (by intros; rfl) id u.runs
        refine (congrArg (Option.map Run.conversationId) updated).trans ?_
        rw [Option.map_map]
        apply Option.map_congr
        intro r _
        dsimp only [Function.comp]
        split_ifs <;> rfl
      · have grown : u'.events = rows := congrArg Tables.events tables
        have appends : Appends (fun _ => True) Shallow u.events rows :=
          emits.appends trivial (.none _)
        rw [grown]
        exact numbered.appends appends
      · rw [List.map_append, List.map_append, listed, List.map_singleton, List.map_singleton,
          ← ofRun_eq runId _ _ _ (kept runId), found]
      · rw [appended, numbered.eventRow_eq, emitted_append, same, List.append_assoc]
        rfl
  exact emits.2.2

theorem exec_logged (keys : Keys s) (numbered : Numbered s.events)
    (ok : exec sha256 serde s op = .ok (reply, s')) : Logged s op s' := by
  cases op with
  | createConversation idempotency generated stamp =>
      rcases replying_ok ok with ⟨c, done, _⟩
      rw [createConversation_eq] at done
      exact logged_once (q := .conversation) rfl done fun _ _ makes =>
        numbered.emits_one rfl (makeConversation_adds makes)
  | createRun request idempotency generated stamp =>
      rcases replying_ok ok with ⟨r, done, _⟩
      rw [createRun, createRunInner_eq] at done
      exact logged_once (q := .run request) rfl done fun _ _ makes =>
        numbered.emits_one rfl (makeRun_adds makes)
  | createRunWithId request runId idempotency stamp =>
      rcases replying_ok ok with ⟨r, done, _⟩
      rw [createRunWithId, createRunInner_eq] at done
      exact logged_once (q := .runWithId request runId) rfl done fun _ _ makes =>
        numbered.emits_one rfl (makeRun_adds makes)
  | startRun runId stamp =>
      rcases replying_ok ok with ⟨r, done, _⟩
      rcases setRunStatus_adds done with ⟨e, found, appended⟩
      exact logged_unkeyed rfl (numbered.emits_one (congrArg ([·]) found) appended)
  | completeRun runId stamp =>
      rcases replying_ok ok with ⟨r, done, _⟩
      rcases setRunStatus_adds done with ⟨e, found, appended⟩
      exact logged_unkeyed rfl (numbered.emits_one (congrArg ([·]) found) appended)
  | failRun runId stamp =>
      rcases replying_ok ok with ⟨r, done, _⟩
      rcases setRunStatus_adds done with ⟨e, found, appended⟩
      exact logged_unkeyed rfl (numbered.emits_one (congrArg ([·]) found) appended)
  | cancelRun runId stamp =>
      rcases replying_ok ok with ⟨r, done, _⟩
      rcases setRunStatus_adds done with ⟨e, found, appended⟩
      exact logged_unkeyed rfl (numbered.emits_one (congrArg ([·]) found) appended)
  | interruptRun runId stamp =>
      rcases replying_ok ok with ⟨r, done, _⟩
      rcases setRunStatus_adds done with ⟨e, found, appended⟩
      exact logged_unkeyed rfl (numbered.emits_one (congrArg ([·]) found) appended)
  | blockRun runId stamp =>
      rcases replying_ok ok with ⟨r, done, _⟩
      rcases setRunStatus_adds done with ⟨e, found, appended⟩
      exact logged_unkeyed rfl (numbered.emits_one (congrArg ([·]) found) appended)
  | errorRun runId stamp =>
      rcases replying_ok ok with ⟨r, done, _⟩
      rcases setRunStatus_adds done with ⟨e, found, appended⟩
      exact logged_unkeyed rfl (numbered.emits_one (congrArg ([·]) found) appended)
  | resumeInterruptedRun runId generated stamp =>
      rcases replying_ok ok with ⟨a, done, _⟩
      rcases resumeInterruptedRun_adds done with ⟨e, found, appended⟩
      exact logged_unkeyed rfl (numbered.emits_one (congrArg ([·]) found) appended)
  | repairInterruptedRunToTerminal runId target stamp =>
      rcases replying_ok ok with ⟨r, done, _⟩
      rcases repairInterruptedRunToTerminal_adds done with ⟨e, found, appended⟩
      exact logged_unkeyed rfl (numbered.emits_one (congrArg ([·]) found) appended)
  | markInterrupted runs attempts =>
      rcases map_ok_iff.mp ok with ⟨done, marked, same⟩
      cases same
      rcases bind_ok_iff.mp marked with ⟨t, first, second⟩
      rcases interrupt_emits numbered first with ⟨events, listed, grown⟩
      refine logged_unkeyed rfl ⟨events, listed, ?_⟩
      rw [← grown]
      apply run_invariant (motive := fun _ u => u.events = t.events) rfl _ second
      intro _ u listed u' _ held stepped
      rcases closeListed_ok stepped with ⟨_, _, rfl⟩
      exact held
  | appendUserMessage conversation payload run idempotency stamp =>
      rcases replying_ok ok with ⟨p, done, _⟩
      rw [appendUserMessage, appendOnce_eq] at done
      exact logged_once (q := .userMessage conversation payload run) rfl done fun _ _ makes =>
        numbered.emits_one rfl (congrArg Tables.events (makeEvent_ok makes).2.2.2)
  | appendSystemNote conversation run attempt payload idempotency stamp =>
      rcases replying_ok ok with ⟨p, done, _⟩
      rw [appendSystemNote, appendOnce_eq] at done
      exact logged_once (q := .systemNote conversation run attempt payload) rfl done
        fun _ _ makes => numbered.emits_one rfl (congrArg Tables.events (makeEvent_ok makes).2.2.2)
  | appendEvent event now =>
      rcases replying_ok ok with ⟨p, done, _⟩
      exact logged_unkeyed rfl
        (numbered.emits_one rfl (congrArg Tables.events (emitEvent_ok done).2.2))
  | _ =>
      have same := exec_silent keys ok fun _ concerned => concerned
      exact ⟨fun _ => emits_none rfl same, fun _ => same⟩

theorem exec_returned (numbered : Numbered s.events)
    (ok : exec sha256 serde s op = .ok (reply, s')) (returns : op.returnsEvent = true) :
    ∃ p, reply = .event p ∧
      (op.replays s = true → ∃ row ∈ s.events, persistedEventFromRaw serde row = .ok p) ∧
      (op.replays s = false → ∃ event now, op.emissions s = [some (event, now)] ∧
        p = (rowAfter s.events event now).withPayload event.payload) := by
  have appends : ∀ {q : Request} {idempotency : Option Idempotency} {requestDigest : String}
      {event : NewEvent} {now : Millis} {p : PersistedEvent},
      (op.keyed = idempotency.map fun idem => (idem.key, q)) →
      op.emissions s = [some (event, now)] →
      appendOnce serde q.scope idempotency requestDigest event now s = .ok (p, s') →
      (op.replays s = true → ∃ row ∈ s.events, persistedEventFromRaw serde row = .ok p) ∧
        (op.replays s = false → ∃ event now, op.emissions s = [some (event, now)] ∧
          p = (rowAfter s.events event now).withPayload event.payload) := by
    intro q idempotency requestDigest event now p keyed emits done
    rw [appendOnce_eq] at done
    rcases once_split keyed done with ⟨replays, _, reference, loaded⟩ |
      ⟨fresh, reference, made, makes, _⟩
    · refine ⟨fun _ => ?_, fun fresh => Bool.noConfusion (fresh.symm.trans replays)⟩
      rcases bind_ok_iff.mp loaded with ⟨row, found, read⟩
      exact ⟨row, (lookup_mem (okOr_ok_iff.mp found)).1, read⟩
    · refine ⟨fun replays => Bool.noConfusion (fresh.symm.trans replays), fun _ =>
        ⟨event, now, emits, ?_⟩⟩
      rw [← numbered.eventRow_eq]
      exact (makeEvent_ok makes).1
  cases op with
  | appendUserMessage conversation payload run idempotency stamp =>
      rcases replying_ok ok with ⟨p, done, rfl⟩
      exact ⟨p, rfl, appends (q := .userMessage conversation payload run) rfl rfl done⟩
  | appendSystemNote conversation run attempt payload idempotency stamp =>
      rcases replying_ok ok with ⟨p, done, rfl⟩
      exact ⟨p, rfl, appends (q := .systemNote conversation run attempt payload) rfl rfl done⟩
  | appendEvent event now =>
      rcases replying_ok ok with ⟨p, done, rfl⟩
      refine ⟨p, rfl, fun replays => Bool.noConfusion replays, fun _ => ⟨event, now, rfl, ?_⟩⟩
      rw [← numbered.eventRow_eq]
      exact (emitEvent_ok done).2.1
  | _ => cases returns

theorem exec_emitted (keys : Keys s) (numbered : Numbered s.events)
    (ok : exec sha256 serde s op = .ok (reply, s')) : Emitted serde s op reply s' := by
  rcases exec_logged keys numbered ok with ⟨fresh, replayed⟩
  exact ⟨fresh, replayed, exec_returned numbered ok⟩

end Succeeding

end O7Formal.Ledger
