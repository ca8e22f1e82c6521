import O7Formal.Ledger.Growth
import O7Formal.Lib.Numbering

/-! When the ledger takes an event: the conversation is there, a sequence is left in it, and the id
of the event is new. Notes under a new key, changes of status and repairs are taken as well then. -/

namespace O7Formal.Ledger

open Fallible Json Table
open O7Formal.Run (Sha256)

def Housed (s : Tables) : Prop := ∀ r ∈ s.runs, loadConversation r.conversationId s ≠ none

def Full (conversation : ConversationId) (s : Tables) : Prop :=
  i64Max < (maxSequence conversation s + 1 : Nat)

instance (conversation : ConversationId) (s : Tables) : Decidable (Full conversation s) :=
  inferInstanceAs (Decidable (i64Max < (maxSequence conversation s + 1 : Nat)))

theorem Full.no_events {carries : JsonValue → Prop} {conversation : ConversationId} {s : Tables}
    {events : List EventRow} (full : Full conversation s) :
    ¬ Emits carries conversation s events := by
  intro emits
  rcases emits with ⟨event, now, named, _, fits, _⟩
  have room := fits.2
  rw [named] at room
  exact absurd full (not_lt.mpr room)

theorem housed_empty : Housed .empty := nofun

theorem Housed.of_grown {s s' : Tables} (housed : Housed s)
    (grown : s.conversations <+: s'.conversations)
    (kept : ∀ r' ∈ s'.runs, ∃ r ∈ s.runs, r'.conversationId = r.conversationId) : Housed s' := by
  intro r' member
  rcases kept r' member with ⟨r, among, same⟩
  rcases Option.ne_none_iff_exists'.mp (housed r among) with ⟨conversation, found⟩
  rw [same, loadConversation, lookup_grown grown found]
  exact Option.some_ne_none conversation

theorem setRun_conversation {runId : RunId} {set : Run → Run}
    (keeps : ∀ r, (set r).conversationId = r.conversationId) {runs : List Run} {r' : Run}
    (member : r' ∈ setRun runId set runs) :
    ∃ r ∈ runs, r'.conversationId = r.conversationId := by
  rcases mem_update.mp member with ⟨r, among, rfl⟩
  refine ⟨r, among, ?_⟩
  split
  · exact keeps r
  · rfl

theorem Housed.setRun {s s' : Tables} (housed : Housed s) {runId : RunId} {set : Run → Run}
    (keeps : ∀ r, (set r).conversationId = r.conversationId)
    (conversations : s'.conversations = s.conversations)
    (runs : s'.runs = setRun runId set s.runs) : Housed s' := by
  refine housed.of_grown (by rw [conversations]) ?_
  rw [runs]
  exact fun r' => setRun_conversation keeps

theorem Housed.frame {s s' : Tables} (housed : Housed s)
    (conversations : s'.conversations = s.conversations) (runs : s'.runs = s.runs) : Housed s' := by
  rw [Housed, runs]
  intro r member
  rw [loadConversation, conversations]
  exact housed r member

theorem writes_housed {s s' : Tables} {op : Op} (housed : Housed s) (keys : Keys s)
    (writes : Writes s op s') : Housed s' := by
  cases writes with
  | nothing | attempt | closed | accepted | command | event => exact housed.frame rfl rfl
  | conversation c events records =>
      exact housed.of_grown (List.prefix_append _ _) fun r member => ⟨r, member, rfl⟩
  | run r events records fits =>
      intro r' member
      rcases List.mem_append.mp member with before | new
      · exact housed r' before
      · rw [List.mem_singleton.mp new]
        exact fits.conversation
  | moved | repaired | session => exact housed.setRun (by intros; rfl) rfl rfl
  | resumed r attemptId stamp events t _ _ _ tables =>
      rw [tables]
      exact housed.setRun (by intros; rfl) rfl rfl
  | interrupted runs attempts t _ first second =>
      have marked : Housed t := by
        apply run_invariant (motive := fun _ t => Housed t) housed _ first
        intro _ u listed u' _ held stepped
        rcases interruptOne_ok stepped with ⟨_, _, _, _, _, rfl⟩
        exact held.setRun (by intros; rfl) rfl rfl
      apply run_invariant (motive := fun _ t => Housed t) marked _ second
      intro _ u listed u' _ held stepped
      rcases closeListed_ok stepped with ⟨_, _, rfl⟩
      exact held.frame rfl rfl
  | reconciled now repaired _ ok =>
      refine reconcileCompletedCommands_keeps keys.commands housed ?_ ok
      intro t c _ held _ _
      exact held.frame rfl rfl

theorem reachable_housed {sha256 : Sha256} {serde : Serde} {s : Tables}
    (reached : Reachable sha256 serde s) : Housed s := by
  have both : Keys s ∧ Housed s := by
    apply reachable_invariant ⟨keys_empty, housed_empty⟩ _ reached
    intro t op reply t' held ok
    have writes := exec_writes held.1.commands ok
    exact ⟨(writes_grows held.1 writes).1, writes_housed held.2 held.1 writes⟩
  exact both.2

section Taken

variable {s : Tables} {event : NewEvent} {now : Millis}

/-- What a new event needs besides a sequence: its run and its attempt are there. -/
structure Fits (event : NewEvent) (s : Tables) : Prop where
  fresh : findEvent event.eventId s = none
  conversation : loadConversation event.conversationId s ≠ none
  run : ∀ run ∈ event.runId, runIn event.conversationId run s.runs
  attempt : ∀ attempt ∈ event.attemptId, ∃ run ∈ event.runId,
    ∃ a ∈ s.attempts, a.runId = run ∧ a.attemptId = attempt

theorem sequence_le {conversation : ConversationId} {e : EventRow} (member : e ∈ s.events)
    (same : e.conversationId = conversation) : e.sequence ≤ maxSequence conversation s := by
  have among : e.sequence ∈ (s.events.filter fun e => decide (e.conversationId = conversation)).map
      EventRow.sequence :=
    List.mem_map_of_mem (List.mem_filter.mpr ⟨member, decide_eq_true same⟩)
  exact Numbering.le_foldl_max (.inl among)

theorem emitEvent_fits (fits : Fits event s) (left : ¬ Full event.conversationId s) :
    ∃ p, emitEvent event now s =
      .ok (p, { s with events := s.events ++ [eventRow event now s] }) := by
  have inserted : insertEvent (eventRow event now s) s =
      .ok { s with events := s.events ++ [eventRow event now s] } := by
    simp only [insertEvent, bind_ok_iff, refuseIf_ok_iff, exists_const, pure_ok_iff, and_true,
      not_not, not_exists, not_and]
    refine ⟨?_, fits.fresh, ?_, fits.conversation, fits.run, ?_⟩
    · intro attempted unnamed
      rcases Option.ne_none_iff_exists'.mp attempted with ⟨attempt, given⟩
      rcases fits.attempt attempt given with ⟨run, named, _⟩
      cases unnamed.symm.trans named
    · intro e member same
      have below : e.sequence ≤ maxSequence event.conversationId s := sequence_le member same
      exact ne_of_lt (Nat.lt_succ_of_le below)
    · intro run named attempt given
      rcases fits.attempt attempt given with ⟨run', named', a, member, owned, called⟩
      cases named.symm.trans named'
      exact fun none => none a member owned called
  refine ⟨(eventRow event now s).withPayload event.payload, ?_⟩
  simp only [emitEvent, bind_ok_iff, refuseIf_ok_iff, exists_const, pure_ok_iff]
  exact ⟨left, _, inserted, rfl⟩

end Taken

section Operations

variable {s : Tables} {r : Run} {stamp : Stamp}

theorem appendSystemNote_taken {sha256 : Sha256} {serde : Serde} {attempt : Option AttemptId}
    {payload : JsonValue} {key : String} (unrecorded : findRecord scopeAppendSystemNote key s = none)
    (fits : Fits ⟨stamp.eventId, r.conversationId, some r.runId, attempt, .systemNote,
      eventSchemaVersion, payload⟩ s) (left : ¬ Full r.conversationId s) :
    ∃ p s', appendSystemNote sha256 serde r.conversationId (some r.runId) attempt payload ⟨key⟩
      stamp s = .ok (p, s') := by
  rcases @emitEvent_fits s _ stamp.now fits left with ⟨p, emitted⟩
  have checked : ∀ digest, checkOptional scopeAppendSystemNote (some ⟨key⟩) digest s =
      .ok .fresh := by
    intro digest
    rw [checkOptional, check]
    simp only [unrecorded]
  simp only [appendSystemNote, appendOnce, checked, ok_bind, emitted, recordOptional, record,
    insertRecord, bind_ok_iff, refuseIf_ok_iff, pure_ok_iff, exists_const]
  exact ⟨p, _, _, ⟨fun other => other unrecorded, rfl⟩, rfl⟩

variable (housed : Housed s) (found : loadRun r.runId s = some r)
  (fresh : findEvent stamp.eventId s = none) (left : ¬ Full r.conversationId s)

include housed found fresh left

theorem rewritten_taken {t : Tables} {set : Run → Run} (eventType : EventType) (payload : JsonValue)
    (conversations : t.conversations = s.conversations) (events : t.events = s.events)
    (runs : t.runs = setRun r.runId set s.runs)
    (keeps : ∀ r, (set r).conversationId = r.conversationId ∧ (set r).runId = r.runId) :
    ∃ p u r', emitEvent ⟨stamp.eventId, r.conversationId, some r.runId, none, eventType,
      eventSchemaVersion, payload⟩ stamp.now t = .ok (p, u) ∧ runOr r.runId u = .ok r' := by
  have member : set r ∈ t.runs := by
    rw [runs]
    exact mem_update.mpr ⟨r, (lookup_mem found).1, by simp⟩
  have fits : Fits ⟨stamp.eventId, r.conversationId, some r.runId, none, eventType,
      eventSchemaVersion, payload⟩ t := by
    constructor
    · rw [findEvent, events]
      exact fresh
    · rw [loadConversation, conversations]
      exact housed r (lookup_mem found).1
    · intro run named
      cases named
      exact ⟨set r, member, keeps r⟩
    · nofun
  have room : ¬ Full r.conversationId t := by
    rw [Full, maxSequence, events]
    exact left
  rcases @emitEvent_fits t _ stamp.now fits room with ⟨p, emitted⟩
  rcases lookup_isSome member (keeps r).2 with ⟨r', again⟩
  exact ⟨p, _, r', emitted, okOr_ok_iff.mpr again⟩

theorem setRunStatus_taken {target : RunStatus} {eventType : EventType}
    (allowed : runTransitionAllowed r.status target = true) :
    ∃ r' s', setRunStatus r.runId target eventType stamp s = .ok (r', s') := by
  have found' : runOr r.runId s = .ok r := okOr_ok_iff.mpr found
  have allowed' : validateRunTransition r.status target = .ok () :=
    refuseIf_ok_iff.mpr (by simp [allowed])
  simp only [setRunStatus, found', allowed', ok_bind]
  generalize settled : (if target.isTerminal = true ∨ target = .interrupted then _ else _) = t
  have same : t.conversations = s.conversations ∧ t.events = s.events ∧
      t.runs = setRun r.runId (withStatus target
        (if target.isTerminal = true then some stamp.now else none)) s.runs := by
    rw [← settled]
    split <;> exact ⟨rfl, rfl, rfl⟩
  rcases rewritten_taken housed found fresh left eventType noPayload same.1 same.2.1 same.2.2
    (fun _ => ⟨rfl, rfl⟩) with ⟨p, u, r', emitted, again⟩
  simp only [emitted, again, ok_bind]
  exact ⟨r', u, rfl⟩

theorem repairInterruptedRunToTerminal_taken {target : RunStatus}
    (sealing : repairEvent target ≠ none) (interrupted : r.status = .interrupted) :
    ∃ r' s', repairInterruptedRunToTerminal r.runId target stamp s = .ok (r', s') := by
  rcases Option.ne_none_iff_exists'.mp sealing with ⟨eventType, sealing⟩
  have found' : runOr r.runId s = .ok r := okOr_ok_iff.mpr found
  have interrupted' : refuseIf (r.status ≠ .interrupted) (LedgerError.invalidState
      ("cannot repair: run " ++ r.runId ++ " is " ++ r.status.asStr ++ ", not interrupted")) =
      .ok () := refuseIf_ok_iff.mpr (not_not_intro interrupted)
  simp only [repairInterruptedRunToTerminal, sealing, okOr, found', interrupted', ok_bind]
  generalize settled : updateAttempts _ _ _ = t
  have same : t.conversations = s.conversations ∧ t.events = s.events ∧
      t.runs = setRun r.runId (withStatus target (some stamp.now)) s.runs := by
    rw [← settled]
    exact ⟨rfl, rfl, rfl⟩
  rcases rewritten_taken housed found fresh left eventType repairedPayload same.1 same.2.1 same.2.2
    (fun _ => ⟨rfl, rfl⟩) with ⟨p, u, r', emitted, again⟩
  simp only [emitted, again, ok_bind]
  exact ⟨r', u, rfl⟩

end Operations

end O7Formal.Ledger
