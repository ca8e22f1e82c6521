import O7Formal.Ledger.Effects

/-! The requests of the operations under a key: what their digest is taken of, and that no two
requests of a scope have the same bytes. -/

namespace O7Formal.Ledger

open Fallible Json Utf8 Table
open O7Formal.Run (Sha256)

inductive Request where
  | conversation
  | run (request : NewRun)
  | runWithId (request : NewRun) (runId : RunId)
  | command (request : NewCommand)
  | userMessage (conversation : ConversationId) (payload : JsonValue) (run : Option RunId)
  | systemNote (conversation : ConversationId) (run : Option RunId) (attempt : Option AttemptId)
      (payload : JsonValue)

def Request.scope : Request → String
  | .conversation => scopeCreateConversation
  | .run _ => scopeCreateRun
  | .runWithId _ _ => scopeCreateRunWithId
  | .command _ => scopeCreateCommand
  | .userMessage _ _ _ => scopeAppendUserMessage
  | .systemNote _ _ _ _ => scopeAppendSystemNote

def Request.bytes : Request → List UInt8
  | .conversation => createConversationBytes
  | .run request => utf8 (newRunTree request).compact
  | .runWithId request runId => utf8 (newRunWithIdTree request runId).compact
  | .command request => utf8 (newCommandTree request).compact
  | .userMessage owner payload runId => utf8 (userMessageTree owner payload runId).compact
  | .systemNote owner runId attempt payload =>
      utf8 (systemNoteTree owner runId attempt payload).compact

def Request.digest (sha256 : Sha256) (q : Request) : String := digestBytes sha256 q.bytes

def Request.Readable : Request → Prop
  | .userMessage _ payload _ => Shallow payload
  | .systemNote _ _ _ payload => Shallow payload
  | _ => True

def Op.keyed : Op → Option (String × Request)
  | .createConversation idempotency _ _ => idempotency.map fun idem => (idem.key, .conversation)
  | .createRun request idempotency _ _ => idempotency.map fun idem => (idem.key, .run request)
  | .createRunWithId request runId idempotency _ =>
      some (idempotency.key, .runWithId request runId)
  | .createCommand request idempotency _ _ => some (idempotency.key, .command request)
  | .appendUserMessage conversation payload run idempotency _ =>
      idempotency.map fun idem => (idem.key, .userMessage conversation payload run)
  | .appendSystemNote conversation run attempt payload idempotency _ =>
      some (idempotency.key, .systemNote conversation run attempt payload)
  | _ => none

theorem printed_option (x : Option String) : (optionTree x).Printed := by
  cases x with
  | none => exact printed_null
  | some s => exact printed_string s

theorem optionTree_injective : Function.Injective optionTree := by
  intro x y same
  cases x <;> cases y <;> cases same <;> rfl

theorem newRunTree_printed (request : NewRun) : (newRunTree request).Printed := by
  apply printed_object
  simp only [List.forall_mem_cons, List.not_mem_nil, false_implies, implies_true, and_true]
  exact ⟨printed_string _, printed_option _, printed_string _, printed_string _⟩

theorem newRunWithIdTree_printed (request : NewRun) (runId : RunId) :
    (newRunWithIdTree request runId).Printed := by
  apply printed_object
  simp only [List.forall_mem_cons, List.not_mem_nil, false_implies, implies_true, and_true]
  exact ⟨printed_string _, printed_string _, printed_option _, printed_string _, printed_string _⟩

theorem newCommandTree_printed (request : NewCommand) : (newCommandTree request).Printed := by
  apply printed_object
  simp only [List.forall_mem_cons, List.not_mem_nil, false_implies, implies_true, and_true]
  exact ⟨printed_string _, printed_string _, printed_string _⟩

theorem userMessageTree_printed (conversation : ConversationId) (payload : JsonValue)
    (run : Option RunId) : (userMessageTree conversation payload run).Printed := by
  apply printed_object
  simp only [List.forall_mem_cons, List.not_mem_nil, false_implies, implies_true, and_true]
  exact ⟨printed_string _, payload.printed, printed_option _⟩

theorem systemNoteTree_printed (conversation : ConversationId) (run : Option RunId)
    (attempt : Option AttemptId) (payload : JsonValue) :
    (systemNoteTree conversation run attempt payload).Printed := by
  apply printed_object
  simp only [List.forall_mem_cons, List.not_mem_nil, false_implies, implies_true, and_true]
  exact ⟨printed_option _, printed_string _, payload.printed, printed_option _⟩

def Request.kind : Request → Nat
  | .conversation => 0
  | .run _ => 1
  | .runWithId _ _ => 2
  | .command _ => 3
  | .userMessage _ _ _ => 4
  | .systemNote _ _ _ _ => 5

theorem scope_kind {q q' : Request} (scope : q.scope = q'.scope) : q.kind = q'.kind := by
  cases q <;> cases q' <;> first
    | rfl
    | simp [Request.scope, scopeCreateConversation, scopeCreateRun, scopeCreateRunWithId,
        scopeCreateCommand, scopeAppendUserMessage, scopeAppendSystemNote] at scope

theorem bytes_injective {q q' : Request} (scope : q.scope = q'.scope) (same : q.bytes = q'.bytes) :
    q = q' := by
  have kind := scope_kind scope
  cases q with
  | conversation =>
      cases q' with
      | conversation => rfl
      | _ => cases kind
  | run request =>
      cases q' with
      | run request' =>
          have trees := compact_injOn (newRunTree_printed request) (newRunTree_printed request')
            (utf8_injective same)
          simp only [newRunTree, Tree.object.injEq, List.cons.injEq, Prod.mk.injEq, true_and,
            Tree.string.injEq, and_true, optionTree_injective.eq_iff] at trees
          cases request
          cases request'
          simp_all
      | _ => cases kind
  | runWithId request runId =>
      cases q' with
      | runWithId request' runId' =>
          have trees := compact_injOn (newRunWithIdTree_printed request runId)
            (newRunWithIdTree_printed request' runId') (utf8_injective same)
          simp only [newRunWithIdTree, Tree.object.injEq, List.cons.injEq, Prod.mk.injEq, true_and,
            Tree.string.injEq, and_true, optionTree_injective.eq_iff] at trees
          cases request
          cases request'
          simp_all
      | _ => cases kind
  | command request =>
      cases q' with
      | command request' =>
          have trees := compact_injOn (newCommandTree_printed request)
            (newCommandTree_printed request') (utf8_injective same)
          simp only [newCommandTree, Tree.object.injEq, List.cons.injEq, Prod.mk.injEq, true_and,
            Tree.string.injEq, and_true] at trees
          cases request
          cases request'
          simp_all
      | _ => cases kind
  | userMessage owner payload runId =>
      cases q' with
      | userMessage owner' payload' runId' =>
          have trees := compact_injOn (userMessageTree_printed owner payload runId)
            (userMessageTree_printed owner' payload' runId') (utf8_injective same)
          simp only [userMessageTree, Tree.object.injEq, List.cons.injEq, Prod.mk.injEq, true_and,
            Tree.string.injEq, and_true, optionTree_injective.eq_iff,
            JsonValue.tree_injective.eq_iff] at trees
          rw [trees.1, trees.2.1, trees.2.2]
      | _ => cases kind
  | systemNote owner runId attempt payload =>
      cases q' with
      | systemNote owner' runId' attempt' payload' =>
          have trees := compact_injOn (systemNoteTree_printed owner runId attempt payload)
            (systemNoteTree_printed owner' runId' attempt' payload') (utf8_injective same)
          simp only [systemNoteTree, Tree.object.injEq, List.cons.injEq, Prod.mk.injEq, true_and,
            Tree.string.injEq, and_true, optionTree_injective.eq_iff,
            JsonValue.tree_injective.eq_iff] at trees
          rw [trees.1, trees.2.1, trees.2.2.1, trees.2.2.2]
      | _ => cases kind

def Reply.resource : Reply → Option String
  | .conversation row => some row.conversationId
  | .run row => some row.runId
  | .attempt row => some row.attemptId
  | .command row => some row.commandId
  | .event persisted => some persisted.eventId
  | _ => none

def Request.load (serde : Serde) (reference : String) (s : Tables) :
    Request → Except LedgerError Reply
  | .conversation => (okOr (loadConversation reference s)
      (.notFound ("conversation " ++ reference))).map Reply.conversation
  | .run _ => (runOr reference s).map Reply.run
  | .runWithId _ _ => (runOr reference s).map Reply.run
  | .command _ => (commandOr reference s).map Reply.command
  | .userMessage _ _ _ => (eventOr serde reference s).map Reply.event
  | .systemNote _ _ _ _ => (eventOr serde reference s).map Reply.event

def Request.Made (reference : String) (s : Tables) : Request → Prop
  | .conversation => loadConversation reference s ≠ none
  | .run _ => loadRun reference s ≠ none
  | .runWithId _ _ => loadRun reference s ≠ none
  | .command _ => loadCommand reference s ≠ none
  | .userMessage _ payload _ =>
      ∃ row, findEvent reference s = some row ∧ row.payloadJson = payload.text
  | .systemNote _ _ _ payload =>
      ∃ row, findEvent reference s = some row ∧ row.payloadJson = payload.text

def Tables.rows (s : Tables) : Nat :=
  s.conversations.length + s.runs.length + s.attempts.length + s.commands.length

structure Makes (q : Request) (reply : Reply) (reference : String) (s made : Tables) : Prop where
  resource : reply.resource = some reference
  there : q.Made reference made
  records : made.records = s.records
  rows : made.rows ≤ s.rows + 1
  events : made.events.length ≤ s.events.length + 1

theorem replying_once {α : Type} (reply : α → Reply) (scope : String)
    (idempotency : Option Idempotency) (requestDigest : String)
    (load : String → Tables → Except LedgerError α)
    (make : Tables → Except LedgerError ((α × String) × Tables)) (now : Millis) (s : Tables) :
    replying reply (once scope idempotency requestDigest load make now s) =
      once scope idempotency requestDigest (fun reference s => (load reference s).map reply)
        (fun s => (make s).map fun p => ((reply p.1.1, p.1.2), p.2)) now s := by
  rw [once, once]
  cases checkOptional scope idempotency requestDigest s with
  | error e => rfl
  | ok outcome =>
      cases outcome with
      | fresh =>
          simp only [ok_bind]
          cases make s with
          | error e => rfl
          | ok p =>
              simp only [ok_bind, Except.map]
              cases recordOptional scope idempotency requestDigest p.1.2 now p.2 <;> rfl
      | replayed reference =>
          simp only [ok_bind]
          cases load reference s <;> rfl

theorem lookup_append_self {α κ : Type} [DecidableEq κ] {key : α → κ} {rows : List α} {r : α}
    (fresh : lookup key (key r) rows = none) : lookup key (key r) (rows ++ [r]) = some r := by
  rw [lookup_append, fresh, if_pos rfl]
  rfl

section Calls

variable {s made : Tables} {reference : String}

theorem makeConversation_makes {generated : ConversationId} {stamp : Stamp} {c : Conversation}
    (ok : makeConversation generated stamp s = .ok ((c, reference), made)) :
    Makes .conversation (.conversation c) reference s made := by
  rcases makeConversation_ok ok with ⟨rfl, rfl, fresh, events, emits, rfl⟩
  rcases emits with ⟨event, now, _, _, _, rfl⟩
  have found := @lookup_append_self _ _ _ Conversation.conversationId s.conversations
    ⟨reference, stamp.now, .open⟩ fresh
  refine ⟨rfl, ?_, rfl, by simp only [Tables.rows, List.length_append, List.length_singleton]; omega,
    by simp⟩
  have there : loadConversation reference { s with
      conversations := s.conversations ++ [⟨reference, stamp.now, .open⟩],
      events := s.events ++ [eventRow event now s] } = _ := found
  rw [Request.Made, there]
  exact Option.some_ne_none _

theorem makeRun_makes {request : NewRun} {runId : RunId} {stamp : Stamp} {r : Run}
    (ok : makeRun request runId stamp s = .ok ((r, reference), made)) :
    (Reply.run r).resource = some reference ∧ loadRun reference made ≠ none ∧
      made.records = s.records ∧ made.rows ≤ s.rows + 1 ∧
      made.events.length ≤ s.events.length + 1 := by
  rcases makeRun_ok ok with ⟨rfl, rfl, fits, events, emits, rfl⟩
  rcases emits with ⟨event, now, _, _, _, rfl⟩
  have found := @lookup_append_self _ _ _ Run.runId s.runs _ fits.fresh
  refine ⟨rfl, ?_, rfl, by simp only [Tables.rows, List.length_append, List.length_singleton]; omega,
    by simp⟩
  have there : loadRun reference { s with
      runs := s.runs ++ [newRun request reference stamp.now],
      events := s.events ++ [eventRow event now s] } = _ := found
  rw [there]
  exact Option.some_ne_none _

theorem makeCommand_makes {request : NewCommand} {generated : CommandId} {now : Millis}
    {c : Command} (ok : makeCommand request generated now s = .ok ((c, reference), made)) :
    Makes (.command request) (.command c) reference s made := by
  rcases makeCommand_ok ok with ⟨rfl, rfl, _, fresh, rfl⟩
  have found := @lookup_append_self _ _ _ Command.commandId s.commands
    (newCommand request reference now) fresh
  refine ⟨rfl, ?_, rfl, by simp only [Tables.rows, List.length_append, List.length_singleton]; omega,
    by simp⟩
  have there : loadCommand reference { s with
      commands := s.commands ++ [newCommand request reference now] } = _ := found
  rw [Request.Made, there]
  exact Option.some_ne_none _

theorem makeEvent_makes {event : NewEvent} {now : Millis} {p : PersistedEvent}
    (ok : makeEvent event now s = .ok ((p, reference), made)) :
    (Reply.event p).resource = some reference ∧
      (∃ row, findEvent reference made = some row ∧ row.payloadJson = event.payload.text) ∧
      made.records = s.records ∧ made.rows ≤ s.rows + 1 ∧
      made.events.length ≤ s.events.length + 1 := by
  rcases makeEvent_ok ok with ⟨rfl, rfl, unused, rfl⟩
  have found := @lookup_append_self _ _ _ EventRow.eventId s.events (eventRow event now s) unused.1
  exact ⟨rfl, ⟨eventRow event now s, found, rfl⟩, rfl, by simp [Tables.rows], by simp⟩

end Calls

def CallsOnce (sha256 : Sha256) (serde : Serde) (key : String) (q : Request) (t : Tables)
    (call : Except LedgerError (Reply × Tables)) : Prop :=
  ∃ make now, call = once q.scope (some ⟨key⟩) (q.digest sha256)
      (fun reference s => q.load serde reference s) make now t ∧
    ∀ reply reference made, make t = .ok ((reply, reference), made) →
      Makes q reply reference t made

theorem callsOnce_of {sha256 : Sha256} {serde : Serde} {key : String} {q : Request} {t : Tables}
    {α : Type} {reply : α → Reply} {load : String → Tables → Except LedgerError α}
    {make : Tables → Except LedgerError ((α × String) × Tables)} {now : Millis}
    {call : Except LedgerError (α × Tables)}
    (calls : call = once q.scope (some ⟨key⟩) (q.digest sha256) load make now t)
    (loads : ∀ reference s, (load reference s).map reply = q.load serde reference s)
    (makes : ∀ a reference made, make t = .ok ((a, reference), made) →
      Makes q (reply a) reference t made) :
    CallsOnce sha256 serde key q t (replying reply call) := by
  refine ⟨fun s => (make s).map fun p => ((reply p.1.1, p.1.2), p.2), now, ?_, ?_⟩
  · rw [calls, replying_once]
    simp only [loads]
  · intro answer reference made ok
    rcases map_ok_iff.mp ok with ⟨p, made, same⟩
    cases same
    exact makes _ _ _ made

theorem exec_keyed (sha256 : Sha256) (serde : Serde) {op : Op} {key : String} {q : Request}
    (keyed : op.keyed = some (key, q)) (t : Tables) :
    CallsOnce sha256 serde key q t (exec sha256 serde t op) := by
  cases op with
  | createConversation idempotency generated stamp =>
      rcases Option.map_eq_some_iff.mp keyed with ⟨idem, given, same⟩
      cases given
      cases same
      exact callsOnce_of (createConversation_eq _ _ _) (fun _ _ => rfl)
        (fun _ _ _ => makeConversation_makes)
  | createRun request idempotency generated stamp =>
      rcases Option.map_eq_some_iff.mp keyed with ⟨idem, given, same⟩
      cases given
      cases same
      apply callsOnce_of (createRunInner_eq _ _ _ _ _ _) (fun _ _ => rfl)
      intro a reference made makes
      rcases makeRun_makes makes with ⟨resource, there, records, rows, events⟩
      exact ⟨resource, there, records, rows, events⟩
  | createRunWithId request runId idempotency stamp =>
      cases keyed
      apply callsOnce_of (createRunInner_eq _ _ _ _ _ _) (fun _ _ => rfl)
      intro a reference made makes
      rcases makeRun_makes makes with ⟨resource, there, records, rows, events⟩
      exact ⟨resource, there, records, rows, events⟩
  | createCommand request idempotency generated now =>
      cases keyed
      exact callsOnce_of (createCommand_eq _ _ _ _) (fun _ _ => rfl)
        (fun _ _ _ => makeCommand_makes)
  | appendUserMessage conversation payload run idempotency stamp =>
      rcases Option.map_eq_some_iff.mp keyed with ⟨idem, given, same⟩
      cases given
      cases same
      apply callsOnce_of (appendOnce_eq _ _ _ _ _ _) (fun _ _ => rfl)
      intro a reference made makes
      rcases makeEvent_makes makes with ⟨resource, there, records, rows, events⟩
      exact ⟨resource, there, records, rows, events⟩
  | appendSystemNote conversation run attempt payload idempotency stamp =>
      cases keyed
      apply callsOnce_of (appendOnce_eq _ _ _ _ _ _) (fun _ _ => rfl)
      intro a reference made makes
      rcases makeEvent_makes makes with ⟨resource, there, records, rows, events⟩
      exact ⟨resource, there, records, rows, events⟩
  | _ => cases keyed

end O7Formal.Ledger
