import O7Formal.Ledger.Clock

/-! What `create_command` accepts: a command continues the finished tail of its conversation, alone.
-/

namespace O7Formal.Ledger

open Fallible Table
open O7Formal.Run (Sha256 standardSha256)

def runsOf (conversation : ConversationId) (s : Tables) : List Run :=
  s.runs.filter fun r => decide (r.conversationId = conversation)

def ValidSession (session : String) : Prop :=
  session ≠ "" ∧ ∀ c ∈ session.toList, isControl c = false

/-- A finished parent that is the last run of its conversation, with a session and no rival. -/
structure Acceptable (request : NewCommand) (parent : Run) (s : Tables) : Prop where
  conversation : loadConversation request.conversationId s ≠ none
  stored : loadRun request.parentRunId s = some parent
  belongs : parent.conversationId = request.conversationId
  finished : parent.status.isTerminal = true
  tail : (runsOf request.conversationId s).getLast? = some parent
  alone : ∀ c ∈ s.commands, c.conversationId = request.conversationId → c.status.inFlight = false
  session : ∃ session, parent.providerSessionId = some session ∧ ValidSession session

def accepting (sha256 : Sha256) (request : NewCommand) (key : String) (generated : CommandId)
    (now : Millis) (s : Tables) : Tables :=
  { s with
    commands := s.commands ++ [newCommand request generated now]
    records := s.records ++ [⟨scopeCreateCommand, key,
      requestDigest sha256 (newCommandTree request), generated, now⟩] }

section Checks

variable {request : NewCommand} {parent : Run} {s : Tables}

theorem checkSession_ok_iff {id : RunId} : checkSession parent id = .ok () ↔
    ∃ session, parent.providerSessionId = some session ∧ ValidSession session := by
  rw [checkSession]
  cases parent.providerSessionId with
  | none => simp
  | some session =>
      simp only [refuseIf_ok_iff, Option.some.injEq, exists_eq_left', ValidSession, not_or,
        Bool.not_eq_true, List.any_eq_false]

theorem latestRun_eq (sorted : (created s).Pairwise (· ≤ ·)) (conversation : ConversationId) :
    latestRun conversation s = (runsOf conversation s).getLast? := by
  have ranked : ((runsOf conversation s).map Run.createdAt).Pairwise (· ≤ ·) :=
    sorted.sublist (List.filter_sublist.map Run.createdAt)
  exact foldl_last (fun _ => rfl) (fun _ _ => rfl) ranked

theorem checkTail_ok_iff (sorted : (created s).Pairwise (· ≤ ·)) : checkTail request s = .ok () ↔
    ∃ latest, (runsOf request.conversationId s).getLast? = some latest ∧
      latest.runId = request.parentRunId := by
  rw [checkTail, latestRun_eq sorted, bind_ok_iff]
  simp only [okOr_ok_iff, refuseIf_ok_iff, not_not]

theorem checkAcceptable_ok_iff (keys : Keys s) (sorted : (created s).Pairwise (· ≤ ·)) :
    checkAcceptable request s = .ok () ↔ ∃ parent, Acceptable request parent s := by
  simp only [checkAcceptable, bind_ok_iff, okOr_ok_iff, refuseIf_ok_iff, runOr_ok,
    checkTail_ok_iff sorted, checkSession_ok_iff, not_not, Bool.not_eq_false]
  constructor
  · rintro ⟨c, conversation, parent, stored, _, belongs, _, finished, _, ⟨latest, last, named⟩, _,
      alone, session⟩
    have tail : latest = parent := by
      have member := List.mem_of_getLast? last
      rw [runsOf, List.mem_filter] at member
      exact keys.runs.eq_of_key member.1 (lookup_mem stored).1
        (named.trans (lookup_mem stored).2.symm)
    subst tail
    refine ⟨latest, by simp [conversation], stored, belongs, finished, last, ?_, session⟩
    intro c member same
    by_contra flying
    exact alone ⟨c, member, same, by simpa using flying⟩
  · rintro ⟨parent, acceptable⟩
    rcases Option.ne_none_iff_exists'.mp acceptable.conversation with ⟨c, conversation⟩
    refine ⟨c, conversation, parent, acceptable.stored, (), acceptable.belongs, (),
      acceptable.finished, (), ⟨parent, acceptable.tail, (lookup_mem acceptable.stored).2⟩, (), ?_,
      acceptable.session⟩
    rintro ⟨c, member, same, flying⟩
    rw [acceptable.alone c member same] at flying
    cases flying

end Checks

section Accepting

variable {sha256 : Sha256} {serde : Serde} {request : NewCommand} {idempotency : Idempotency}
  {generated : CommandId} {now : Millis} {s : Tables}

theorem makeCommand_of_acceptable {parent : Run} (acceptable : Acceptable request parent s)
    (checked : checkAcceptable request s = .ok ()) (fresh : loadCommand generated s = none) :
    makeCommand request generated now s = .ok ((newCommand request generated now, generated),
      { s with commands := s.commands ++ [newCommand request generated now] }) := by
  have held := lookup_mem acceptable.stored
  have parentThere : runIn request.conversationId request.parentRunId s.runs :=
    ⟨parent, held.1, acceptable.belongs, held.2⟩
  have inserted : insertCommand (newCommand request generated now) s =
      .ok { s with commands := s.commands ++ [newCommand request generated now] } := by
    simp only [insertCommand, bind_ok_iff, refuseIf_ok_iff, pure_ok_iff, not_not]
    exact ⟨(), fresh, (), acceptable.conversation, (), parentThere, trivial⟩
  rw [makeCommand, checked, ok_bind, inserted]
  rfl

theorem createCommand_acceptable {parent : Run} (acceptable : Acceptable request parent s)
    (checked : checkAcceptable request s = .ok ()) (fresh : loadCommand generated s = none)
    (unused : findRecord scopeCreateCommand idempotency.key s = none) :
    createCommand sha256 request idempotency generated now s =
      .ok (newCommand request generated now,
        accepting sha256 request idempotency.key generated now s) := by
  have recorded : record scopeCreateCommand idempotency.key
      (requestDigest sha256 (newCommandTree request)) generated now
      { s with commands := s.commands ++ [newCommand request generated now] } =
      .ok (accepting sha256 request idempotency.key generated now s) := by
    rw [record, insertRecord, bind_ok_iff]
    exact ⟨(), refuseIf_ok_iff.mpr (not_not.mpr unused), rfl⟩
  rw [createCommand_eq, once, checkOptional, check, unused, ok_bind]
  simp only [makeCommand_of_acceptable acceptable checked fresh, ok_bind, recordOptional, recorded]
  rfl

variable (sha256 serde) in
/-- Under a clock that never decreased, a request with an unused key is accepted exactly when its
parent is the finished and resumable tail of a conversation with nothing in flight. -/
theorem createCommand_accepts {ops : List Op} (steady : Steady ops) (request : NewCommand)
    (idempotency : Idempotency) (generated : CommandId) (now : Millis)
    (ran : run sha256 serde .empty ops = s)
    (unused : findRecord scopeCreateCommand idempotency.key s = none)
    (fresh : loadCommand generated s = none) :
    ((createCommand sha256 request idempotency generated now s).isOk = true ↔
      ∃ parent, Acceptable request parent s) ∧
    (∀ c s', createCommand sha256 request idempotency generated now s = .ok (c, s') →
      c = newCommand request generated now ∧
      s' = accepting sha256 request idempotency.key generated now s) ∧
    ∀ e, createCommand sha256 request idempotency generated now s = .error e →
      step sha256 serde s (.createCommand request idempotency generated now) = s := by
  have keys : Keys s := reachable_keys ⟨ops, ran⟩
  have sorted : (created s).Pairwise (· ≤ ·) := by
    rw [← ran]
    exact created_sorted steady
  have succeeds : ∀ parent, Acceptable request parent s →
      createCommand sha256 request idempotency generated now s =
        .ok (newCommand request generated now,
          accepting sha256 request idempotency.key generated now s) := by
    intro parent acceptable
    exact createCommand_acceptable acceptable
      ((checkAcceptable_ok_iff keys sorted).mpr ⟨parent, acceptable⟩) fresh unused
  have accepted : ∀ c s', createCommand sha256 request idempotency generated now s = .ok (c, s') →
      ∃ parent, Acceptable request parent s := by
    intro c s' ok
    rw [createCommand_eq] at ok
    rcases once_ok ok with ⟨_, idem, given, row, found, _⟩ | ⟨_, _, made, makes, _⟩
    · cases given
      rw [unused] at found
      cases found
    · rcases makeCommand_ok makes with ⟨_, _, checked, _⟩
      exact (checkAcceptable_ok_iff keys sorted).mp checked
  refine ⟨?_, ?_, ?_⟩
  · constructor
    · intro isOk
      cases result : createCommand sha256 request idempotency generated now s with
      | error e =>
          rw [result] at isOk
          cases isOk
      | ok made => exact accepted made.1 made.2 result
    · rintro ⟨parent, acceptable⟩
      rw [succeeds parent acceptable]
      rfl
  · intro c s' ok
    rcases accepted c s' ok with ⟨parent, acceptable⟩
    rw [succeeds parent acceptable] at ok
    cases ok
    exact ⟨rfl, rfl⟩
  · intro e failed
    exact step_error (by rw [exec, failed]; rfl)

end Accepting

def resumable : List Op :=
  [.createConversation none "v" ⟨1, "e1"⟩,
    .createRun ⟨"v", none, "agent", "role"⟩ none "r" ⟨2, "e2"⟩,
    .startRun "r" ⟨3, "e3"⟩,
    .completeRun "r" ⟨3, "e4"⟩,
    .setRunProviderSession "r" "session"]

theorem createCommand_accepts_resumable : ∃ parent, Acceptable ⟨"v", "r", "go on"⟩ parent
    (run standardSha256 printedSerde .empty resumable) :=
  (createCommand_accepts standardSha256 printedSerde (by decide : Steady resumable)
    ⟨"v", "r", "go on"⟩ ⟨"key"⟩ "c" 5 rfl (by decide +kernel) (by decide +kernel)).1.mp
    (by decide +kernel)

end O7Formal.Ledger
