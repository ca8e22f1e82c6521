import O7Formal.Dispatch.CrashPoints
import O7Formal.Dispatch.Settling

/-! Catch-up is not all or nothing: the session of a record is compared with the ledger's after the
record was applied. A refusal leaves the ledger as it was exactly when no record gets that far that
has something left to apply. -/

namespace O7Formal.Dispatch

open Fallible Program Table
open O7Formal.Ledger (AttemptId ConversationId EventRow Full Housed Op Reply RunAttempt Sane Stamp
  Tables createAttempt createRunInner_eq createRunWithId exec findEvent findRecord insertRun
  loadAttempt loadConversation loadRun makeRun_ok maxSequence newRun newRunWithIdTree nextAttempt
  nextAttemptNumber once_ok replying_ok runIn runOr_ok scopeCreateRunWithId setRunStatus_ok
  withStatus)
open O7Formal.Run (RunEvent RunState)

def CatchUpError.refuses : CatchUpError → Bool
  | .verification _ | .identityMismatch _ | .sessionConflict _ => true
  | .ledger _ => false

def attach (p : Preflight) : Fallible Fault LiveLedgerProjector := do
  let conversationId ← openProjection p.target.conversationId
  attachRun conversationId p.runId p.target.agent p.target.role p.parent

def Attaches (env : Setting) (p : Preflight) (s : Tables) (records : RunId → RecordDir) : Prop :=
  ∃ chances projector w m, (attach p).run.evaluate (alone env chances) (resting s records, 0) =
    (.ok projector, w, m)

/-- The run can be started if it was not: its event has a sequence, its first attempt a number. -/
structure Startable (row : Ledger.Run) (s : Tables) : Prop where
  begins : row.status = .queued → ¬ Full row.conversationId s
  numbered : isLive row.status = true → runningAttemptOf row.runId s = none →
    nextAttemptNumber row.runId s < 2 ^ 32

def Preflight.request (p : Preflight) : Ledger.NewRun :=
  ⟨p.target.conversationId, p.parent.map Run.Id.asStr, p.target.agent, p.target.role⟩

/-- The key was used for the same request, and the run it made can be started. -/
def Repeats (sha256 : Run.Sha256) (p : Preflight) (s : Tables) : Prop :=
  ∃ record row, findRecord scopeCreateRunWithId p.runId.asStr s = some record ∧
    record.requestDigest =
      Ledger.requestDigest sha256 (newRunWithIdTree p.request p.runId.asStr) ∧
    loadRun record.resultReference s = some row ∧ Startable row s

/-- Key and id are free, the parent is a run of the conversation, and two sequences are left. -/
structure Enters (p : Preflight) (s : Tables) : Prop where
  unused : findRecord scopeCreateRunWithId p.runId.asStr s = none
  free : loadRun p.runId.asStr s = none
  parent : ∀ parent ∈ p.parent, parent.asStr = p.runId.asStr ∨
    runIn p.target.conversationId parent.asStr s.runs
  left : (maxSequence p.target.conversationId s + 2 : Nat) ≤ Ledger.i64Max

def Attachable (sha256 : Run.Sha256) (p : Preflight) (s : Tables) : Prop :=
  loadConversation p.target.conversationId s ≠ none ∧ (Repeats sha256 p s ∨ Enters p s)

/-- The session that the record's receipt names is none, or is not the one the ledger has. -/
def Rejects (env : Setting) (dir : RecordDir) (p : Preflight) (s : Tables) : Prop :=
  ∃ receipt, p.state.providerSessionReceipt = some receipt ∧
    ((∃ e, receiptSession env dir p.runId receipt = .error e ∧ e.refuses = true) ∨
      ∃ session existing, receiptSession env dir p.runId receipt = .ok session ∧
        sessionOf p.runId.asStr s = some existing ∧ existing ≠ session)

/-- The record passes every check before the first write, the last check refuses it, and something
is left to write in between. -/
def RefusedLate (env : Setting) (recordRunId : RunId) (expected : Option ExpectedIdentity)
    (s : Tables) (records : RunId → RecordDir) : Prop :=
  ∃ p, preflight env (records recordRunId) expected s = .ok p ∧ Attachable env.sha256 p s ∧
    Rejects env (records recordRunId) p s ∧ ¬ ∃ row, Attached p row s ∧ Converged p row s

section Evaluating

variable {env : Setting} {chances : Chances} {dir : RecordDir} {p : Preflight} {w w' : World}
  {n m : Nat}

theorem alone_moved {α : Type} {x : Code α} {a : α} {other : Chances} {n' : Nat}
    (ran : x.evaluate (alone env chances) (w, n) = (a, w', m))
    (agree : ∀ k, n + k < m → other (n' + k) = chances (n + k)) :
    ∃ d, m = n + d ∧ x.evaluate (alone env other) (w, n') = (a, w', n' + d) := by
  induction x generalizing w n n' with
  | done b =>
      cases ran
      exact ⟨0, rfl, rfl⟩
  | call c next ih =>
      have shifted : ∀ k, n + 1 + k < m → other (n' + 1 + k) = chances (n + 1 + k) := by
        intro k below
        have at' := agree (k + 1) (by omega)
        rwa [← Nat.add_assoc, ← Nat.add_assoc, Nat.add_right_comm, Nat.add_right_comm n] at at'
      rcases ih _ ran shifted with ⟨d, counted, rest⟩
      refine ⟨d + 1, by omega, ?_⟩
      have same : other n' = chances n := agree 0 (by omega)
      rw [evaluate]
      simp only [alone, same]
      rw [show n' + (d + 1) = n' + 1 + d by omega]
      exact rest

theorem alone_counts {α : Type} {x : Code α} {a : α}
    (ran : x.evaluate (alone env chances) (w, n) = (a, w', m)) : n ≤ m := by
  rcases @alone_moved env chances w w' n m _ _ _ chances n ran fun _ _ => rfl with ⟨d, counted, _⟩
  omega

theorem evaluate_applyRecord {result : Except Fault LiveLedgerProjector}
    (attached : (attach p).run.evaluate (alone env chances) (w, n) = (result, w', m)) :
    (applyRecord env dir p).run.evaluate (alone env chances) (w, n) =
      andThen (result.mapError .ledger, w', m) fun projector t =>
        (projectRecord env dir p projector).run.evaluate (alone env chances) t := by
  rw [attach, evaluate_try] at attached
  rw [applyRecord, evaluate_try, evaluate_failingAs]
  rcases opened : (openProjection p.target.conversationId).run.evaluate (alone env chances) (w, n)
    with ⟨found, t⟩
  rw [opened] at attached
  cases found with
  | error fault =>
      cases attached
      rfl
  | ok conversationId =>
      simp only [andThen] at attached
      simp only [Except.mapError, andThen]
      rw [evaluate_try, evaluate_failingAs, attached]
      cases result <;> rfl

theorem Attached.found {row : Ledger.Run} {s : Tables} (attached : Attached p row s) :
    loadRun row.runId s = some row := by
  rcases attached with ⟨record, _, loaded⟩
  rwa [← (lookup_mem loaded).2] at loaded

theorem Attached.unique {row row' : Ledger.Run} {s : Tables} (attached : Attached p row s)
    (attached' : Attached p row' s) : row' = row := by
  rcases attached with ⟨record, found, loaded⟩
  rcases attached' with ⟨record', found', loaded'⟩
  cases found.symm.trans found'
  exact Option.some.inj (loaded'.symm.trans loaded)

theorem openProjection_idle (conversationId : String) : ∃ result,
    (openProjection conversationId).run.evaluate (alone env chances) (w, n) =
      (result, w, n + 1) := by
  rw [openProjection, evaluate_try]
  change ∃ result, andThen (reading (chances n) (Ledger.loadConversation conversationId w.ledger),
    w, n + 1) _ = _
  cases reading (chances n) (Ledger.loadConversation conversationId w.ledger) with
  | error fault => exact ⟨_, rfl⟩
  | ok found => cases found <;> exact ⟨_, rfl⟩

theorem attach_idle {row : Ledger.Run} (attached : Attached p row w.ledger)
    (started : Started row w.ledger) : ∃ result m,
    (attach p).run.evaluate (alone env chances) (w, n) = (result, w, m) := by
  rw [attach, evaluate_try]
  rcases @openProjection_idle env chances w n p.target.conversationId with ⟨opened, same⟩
  rw [same]
  cases opened with
  | error fault => exact ⟨_, _, rfl⟩
  | ok conversationId => exact attachRun_idle attached started

theorem attach_kept {projector : LiveLedgerProjector}
    (ok : (attach p).run.evaluate (alone env chances) (w, n) = (.ok projector, w', m))
    (kept : w'.ledger = w.ledger) :
    ∃ row attempt, Attached p row w.ledger ∧ Started row w.ledger ∧
      projector = ⟨row.conversationId, row.runId, attempt⟩ ∧ HoldsAttempt row attempt w.ledger := by
  rw [attach, evaluate_try] at ok
  rcases @openProjection_idle env chances w n p.target.conversationId with ⟨opened, same⟩
  rw [same] at ok
  rcases andThen_ok ok with ⟨conversationId, t, opened', attached⟩
  cases opened'
  exact attachRun_kept attached kept

theorem attach_written {result : Except Fault LiveLedgerProjector}
    (attached : (attach p).run.evaluate (alone env chances) (w, n) = (result, w', m)) :
    Written w.ledger w'.ledger := by
  have only : Only Records (attach p).run := by
    apply keeps_try
    · apply keeps_try (only_perform trivial)
      intro found
      apply keeps_try (keeps_okOrThrow _ _)
      intro _
      exact keeps_return _
    · intro conversationId
      exact records_attachRun _ _ _ _ _
  exact written_of only attached

theorem Rejects.written {s t : Tables} (written : Written s t) :
    Rejects env dir p t ↔ Rejects env dir p s := by
  rw [Rejects, Rejects, written.sessions]

theorem backfill_refused {e : CatchUpError}
    (refused : (backfill env dir p.state p.runId).run.evaluate (alone env chances) (w, n) =
      (.error e, w', m)) (refuses : e.refuses = true) : w' = w ∧ Rejects env dir p w.ledger := by
  rw [backfill] at refused
  split at refused
  · cases refused
  · rename_i receipt given
    rw [evaluate_try, evaluate_ofExcept] at refused
    cases named : receiptSession env dir p.runId receipt with
    | error why =>
        rw [named] at refused
        cases refused
        exact ⟨rfl, receipt, given, .inl ⟨e, named, refuses⟩⟩
    | ok session =>
        rw [named] at refused
        simp only [andThen] at refused
        rw [backfillSession, evaluate_try, evaluate_failingAs, evaluate_ledgerRun] at refused
        cases fails : (chances n).fails with
        | some why =>
            simp only [reading, fails] at refused
            cases refused
            cases refuses
        | none =>
            simp only [reading, fails, Except.mapError, andThen] at refused
            split at refused
            · rw [evaluate_try, evaluate_failingAs] at refused
              rcases andThen_error refused with failed | ⟨_, _, _, done⟩
              · have error := congrArg Prod.fst failed
                simp only at error
                rcases mapError_error_iff.mp error with ⟨_, _, rfl⟩
                cases refuses
              · cases done
            · rename_i existing held
              split at refused
              · cases refused
              · rename_i other
                cases refused
                exact ⟨rfl, receipt, given, .inr ⟨session, existing, named, held, other⟩⟩

theorem backfill_rejects (sound : (chances n).fails = none) (rejects : Rejects env dir p w.ledger) :
    ∃ e m, e.refuses = true ∧
      (backfill env dir p.state p.runId).run.evaluate (alone env chances) (w, n) =
        (.error e, w, m) := by
  rcases rejects with ⟨receipt, given, bad⟩
  rw [backfill]
  simp only [given]
  rw [evaluate_try, evaluate_ofExcept]
  rcases bad with ⟨e, named, refuses⟩ | ⟨session, existing, named, held, other⟩
  · rw [named]
    exact ⟨e, n, refuses, rfl⟩
  · rw [named]
    simp only [andThen]
    rw [backfillSession, evaluate_try, evaluate_failingAs, evaluate_ledgerRun]
    simp only [reading, sound, Except.mapError, andThen]
    rw [sessionOf] at held
    simp only [held, if_neg other]
    exact ⟨_, n + 1, rfl, rfl⟩

theorem records_sealVerdict (projector : LiveLedgerProjector) (verdict : Option Run.Verdict) :
    Only Records (sealVerdict projector verdict) := by
  cases verdict with
  | none => exact keeps_pure _
  | some verdict =>
      apply keeps_bind (records_sealInner projector verdict true)
      intro result
      exact keeps_pure _

def projected (env : Setting) (chances : Chances) (p : Preflight) (projector : LiveLedgerProjector)
    (t : World × Nat) : World × Nat :=
  ((sealVerdict projector p.state.verdict).evaluate (alone env chances)
    ((projectAll env projector p.stream).evaluate (alone env chances) t).2).2

theorem evaluate_projectRecord (projector : LiveLedgerProjector) (t : World × Nat) :
    ∃ receipt : SessionBackfillOutcome → CatchUpReceipt,
      (projectRecord env dir p projector).run.evaluate (alone env chances) t =
        andThen ((backfill env dir p.state p.runId).run.evaluate (alone env chances)
          (projected env chances p projector t)) fun outcome u => (.ok (receipt outcome), u) := by
  rw [projectRecord, evaluate_try, evaluate_lift]
  simp only [andThen]
  rw [evaluate_try, evaluate_lift]
  simp only [andThen]
  rw [evaluate_try]
  exact ⟨_, rfl⟩

theorem projected_written (projector : LiveLedgerProjector) :
    Written w.ledger (projected env chances p projector (w, n)).1.ledger := by
  have noted := @written_only env chances _ _ (records_projectAll env projector p.stream) w n
  exact noted.trans (written_only (records_sealVerdict projector p.state.verdict) _ _)

theorem projected_counts (projector : LiveLedgerProjector) :
    n ≤ (projected env chances p projector (w, n)).2 := by
  rcases noted : (projectAll env projector p.stream).evaluate (alone env chances) (w, n) with
    ⟨all, t, k⟩
  rcases sealed : (sealVerdict projector p.state.verdict).evaluate (alone env chances) (t, k) with
    ⟨sealedToo, u, j⟩
  rw [projected, noted, sealed]
  exact (alone_counts noted).trans (alone_counts sealed)

theorem projected_idle {row : Ledger.Run} {attempt : Option Ledger.AttemptId}
    (found : loadRun row.runId w.ledger = some row)
    (applied : Full row.conversationId w.ledger ∨
      (∀ event ∈ p.stream, Noted row.runId event w.ledger) ∧
        ∀ verdict ∈ p.state.verdict, Settled row.status verdict) :
    (projected env chances p ⟨row.conversationId, row.runId, attempt⟩ (w, n)).1 = w := by
  rcases @projectAll_idle env row chances w n attempt p.stream (applied.imp_right And.left)
    with ⟨all, k, noted⟩
  rw [projected, noted]
  cases given : p.state.verdict with
  | none => rfl
  | some verdict =>
      rcases @sealInner_idle env row chances w k attempt verdict found
        (applied.imp_right fun both => both.2 verdict given) with ⟨result, j, same⟩
      rw [sealVerdict, evaluate_bind, same]
      rfl

theorem projected_moves {row : Ledger.Run} {attempt : Option Ledger.AttemptId}
    (housed : Housed w.ledger) (found : loadRun row.runId w.ledger = some row)
    (owns : HoldsAttempt row attempt w.ledger) (fortunate : Fortunate chances w.ledger n)
    (begun : row.status ≠ .queued)
    (pending : ¬ (Full row.conversationId w.ledger ∨
      (∀ event ∈ p.stream, Noted row.runId event w.ledger) ∧
        ∀ verdict ∈ p.state.verdict, Settled row.status verdict)) :
    footing w.ledger <
      footing (projected env chances p ⟨row.conversationId, row.runId, attempt⟩ (w, n)).1.ledger := by
  rcases not_or.mp pending with ⟨left, open'⟩
  by_cases noted : ∀ event ∈ p.stream, Noted row.runId event w.ledger
  · have unsettled : ∃ verdict ∈ p.state.verdict, ¬ Settled row.status verdict := by
      by_contra none
      push Not at none
      exact open' ⟨noted, none⟩
    rcases unsettled with ⟨verdict, given, unsettled⟩
    rcases @projectAll_idle env row chances w n attempt p.stream (.inr noted) with ⟨all, k, same⟩
    have later : n ≤ k := alone_counts same
    rw [projected, same, given, sealVerdict, evaluate_bind]
    exact sealInner_moves housed found left (fun j after => fortunate j (later.trans after)) begun
      unsettled
  · push Not at noted
    have more := @projectAll_moves env chances row w n attempt p.stream housed found owns left
      fortunate noted
    exact more.trans_le (written_only (records_sealVerdict _ p.state.verdict) _ _).le

end Evaluating

section Attempts

variable {row : Ledger.Run} {s s' : Tables} {attemptId : AttemptId} {now : Ledger.Millis}

theorem createAttempt_numbered {runId : Ledger.RunId} {a : RunAttempt}
    (ok : createAttempt runId attemptId now s = .ok (a, s')) :
    nextAttemptNumber runId s < 2 ^ 32 := by
  simp only [createAttempt, Ledger.addAttempt, bind_ok_iff, refuseIf_ok_iff] at ok
  rcases ok with ⟨_, _, _, _, _, _, _, numbered, _⟩
  exact not_le.mp numbered

theorem createAttempt_taken (found : loadRun row.runId s = some row)
    (running : row.status = .running) (idle : runningAttemptOf row.runId s = none)
    (numbered : nextAttemptNumber row.runId s < 2 ^ 32) (fresh : loadAttempt attemptId s = none) :
    ∃ a s', createAttempt row.runId attemptId now s = .ok (a, s') := by
  have resting : ¬ ∃ a ∈ s.attempts, a.runId = row.runId ∧ a.status = .running := by
    rintro ⟨a, member, both⟩
    exact List.find?_eq_none.mp idle a member (decide_eq_true both)
  have apart : ¬ ∃ a ∈ s.attempts,
      a.runId = row.runId ∧ a.attemptNumber = nextAttemptNumber row.runId s := by
    rintro ⟨a, member, mine, same⟩
    have among : a.attemptNumber ∈ (s.attempts.filter fun a => decide (a.runId = row.runId)).map
        RunAttempt.attemptNumber :=
      List.mem_map_of_mem (List.mem_filter.mpr ⟨member, decide_eq_true mine⟩)
    exact absurd same (ne_of_lt (Nat.lt_succ_of_le (Numbering.le_foldl_max (.inl among))))
  have there : loadRun row.runId s ≠ none := by
    rw [found]
    exact Option.some_ne_none row
  refine ⟨nextAttempt row.runId attemptId now s,
    { s with attempts := s.attempts ++ [nextAttempt row.runId attemptId now s] }, ?_⟩
  simp only [createAttempt, Ledger.addAttempt, Ledger.insertAttempt, bind_ok_iff,
    refuseIf_ok_iff, pure_ok_iff, runOr_ok, exists_const]
  exact ⟨row, found, not_not_intro running, resting, not_le.mpr numbered, _,
    ⟨not_not_intro fresh, apart, fun both => resting both.2, there, rfl⟩, rfl⟩

end Attempts

section Attaching

variable {env : Setting} {chances : Chances} {row : Ledger.Run} {w w' : World} {n m : Nat}

theorem startQueued_ok (found : loadRun row.runId w.ledger = some row)
    (ok : (startQueued row).run.evaluate (alone env chances) (w, n) = (.ok (), w', m)) :
    (row.status = .queued → ¬ Full row.conversationId w.ledger) ∧
      w'.ledger.attempts = w.ledger.attempts := by
  rw [startQueued] at ok
  split at ok
  · rw [evaluate_try] at ok
    rcases andThen_ok ok with ⟨r, ⟨w1, n1⟩, started, rest⟩
    cases rest
    rcases ledgerCall_ok started with ⟨stamp, reply, done, _⟩
    rcases replying_ok done with ⟨_, moved, _⟩
    refine ⟨fun _ full => status_idle found full moved, ?_⟩
    rcases setRunStatus_ok moved with ⟨_, _, _, _, _, tables⟩
    rw [tables]
    rfl
  · rename_i begun
    cases ok
    exact ⟨fun queued => absurd queued begun, rfl⟩

theorem attachedAttempt_numbered {attempt : Option AttemptId}
    (ok : (attachedAttempt row).run.evaluate (alone env chances) (w, n) = (.ok attempt, w', m))
    (live : isLive row.status = true) (idle : runningAttemptOf row.runId w.ledger = none) :
    nextAttemptNumber row.runId w.ledger < 2 ^ 32 := by
  rw [attachedAttempt, if_pos live, liveAttempt, evaluate_try] at ok
  rcases andThen_ok ok with ⟨found, ⟨w1, n1⟩, asked, rest⟩
  change (reading (chances n) (runningAttemptOf row.runId w.ledger), w, n + 1) = _ at asked
  rcases Prod.mk.inj asked with ⟨read, same⟩
  cases same
  cases idle.symm.trans (reading_ok read)
  simp only [evaluate_try] at rest
  rcases andThen_ok rest with ⟨a, ⟨w2, n2⟩, made, _⟩
  rcases ledgerCall_ok made with ⟨stamp, reply, done, _⟩
  rcases replying_ok done with ⟨_, added, _⟩
  exact createAttempt_numbered added

theorem ledgerCall_taken {α : Type} {read : Reply → Option α} {op : Stamp → Op}
    {reply : Reply} {s' : Tables} {a : α} (sound : (chances (n + 1)).fails = none)
    (done : exec env.sha256 env.serde w.ledger (op (chances n).stamp) = .ok (reply, s'))
    (mine : read reply = some a) :
    (ledgerCall read op).run.evaluate (alone env chances) (w, n) =
      (.ok a, w.setLedger s', n + 2) := by
  rw [evaluate_ledgerCall, ledgerAnswer_taken sound done]
  simp only [taken, mine, Option.elim]

/-- From call `n` on nothing fails, and the generated ids are new to events and attempts. -/
def Provided (chances : Chances) (s : Tables) (n : Nat) : Prop :=
  ∀ k, n ≤ k → (chances k).fails = none ∧
    findEvent (chances k).stamp.eventId s = none ∧
    loadAttempt (chances k).stamp.eventId s = none

theorem liveAttempt_taken (found : loadRun row.runId w.ledger = some row)
    (running : row.status = .running)
    (numbered : runningAttemptOf row.runId w.ledger = none →
      nextAttemptNumber row.runId w.ledger < 2 ^ 32)
    (sound : ∀ k, n ≤ k → (chances k).fails = none ∧
      loadAttempt (chances k).stamp.eventId w.ledger = none) :
    ∃ attempt w' m, (liveAttempt row.runId).run.evaluate (alone env chances) (w, n) =
      (.ok attempt, w', m) := by
  rw [liveAttempt, evaluate_try]
  change ∃ attempt w' m, andThen (reading (chances n) (runningAttemptOf row.runId w.ledger),
    w, n + 1) _ = _
  simp only [reading, (sound n le_rfl).1, andThen]
  cases held : runningAttemptOf row.runId w.ledger with
  | some a => exact ⟨_, _, _, rfl⟩
  | none =>
      rcases @createAttempt_taken row w.ledger (chances (n + 1)).stamp.eventId
        (chances (n + 1)).stamp.now found running held (numbered held)
        (sound (n + 1) (by omega)).2 with ⟨a, s', made⟩
      have done : exec env.sha256 env.serde w.ledger (.createAttempt row.runId
          (chances (n + 1)).stamp.eventId (chances (n + 1)).stamp.now) = .ok (.attempt a, s') :=
        congrArg (Ledger.replying Reply.attempt) made
      simp only [evaluate_try]
      rw [@ledgerCall_taken env chances w (n + 1) _ asAttempt
        (fun stamp => .createAttempt row.runId stamp.eventId stamp.now) _ _ a
        (sound (n + 2) (by omega)).1 done rfl]
      exact ⟨_, _, _, rfl⟩

theorem started_taken (housed : Housed w.ledger) (found : loadRun row.runId w.ledger = some row)
    (startable : Startable row w.ledger) (provided : Provided chances w.ledger n) :
    ∃ w1 m attempt w2 k,
      (startQueued row).run.evaluate (alone env chances) (w, n) = (.ok (), w1, m) ∧
      (attachedAttempt row).run.evaluate (alone env chances) (w1, m) = (.ok attempt, w2, k) := by
  by_cases queued : row.status = .queued
  · have allowed : Ledger.runTransitionAllowed row.status .running = true := by
      rw [queued]
      rfl
    rcases @Ledger.setRunStatus_taken w.ledger row (chances n).stamp housed found
      (provided n le_rfl).2.1 (startable.begins queued) _ .runStarted allowed with ⟨r, s', moved⟩
    have done : exec env.sha256 env.serde w.ledger (.startRun row.runId (chances n).stamp) =
        .ok (.run r, s') := congrArg (Ledger.replying Reply.run) moved
    have ran : (startQueued row).run.evaluate (alone env chances) (w, n) =
        (.ok (), w.setLedger s', n + 2) := by
      rw [startQueued, if_pos queued, evaluate_try, @ledgerCall_taken env chances w n _ asRun
        (fun stamp => .startRun row.runId stamp) _ _ r (provided (n + 1) (by omega)).1 done rfl]
      rfl
    rcases setRunStatus_ok moved with ⟨_, _, _, _, _, tables⟩
    have attempts : s'.attempts = w.ledger.attempts := by
      rw [tables]
      rfl
    have found' : loadRun row.runId s' = some (withStatus .running none row) := by
      rw [tables]
      change lookup Ledger.Run.runId row.runId (Ledger.setRun row.runId
        (withStatus .running none) w.ledger.runs) = _
      have keeps : ∀ r, (withStatus .running none r).runId = r.runId := fun _ => rfl
      exact Ledger.loadRun_setRun_self keeps found
    have same : runningAttemptOf row.runId s' = runningAttemptOf row.runId w.ledger ∧
        nextAttemptNumber row.runId s' = nextAttemptNumber row.runId w.ledger := by
      rw [runningAttemptOf, nextAttemptNumber, attempts]
      exact ⟨rfl, rfl⟩
    have live : isLive row.status = true := decide_eq_true (.inl queued)
    rcases @liveAttempt_taken env chances (withStatus .running none row) (w.setLedger s')
      (n + 2) found' rfl (by
        intro idle
        change nextAttemptNumber row.runId s' < _
        rw [same.2]
        exact startable.numbered live (same.1.symm.trans idle)) (by
        intro k after
        have provides := provided k (by omega)
        refine ⟨provides.1, ?_⟩
        change loadAttempt _ s' = none
        rw [loadAttempt, attempts]
        exact provides.2.2) with ⟨attempt, w2, k, attached⟩
    refine ⟨_, _, attempt, w2, k, ran, ?_⟩
    rw [attachedAttempt, if_pos live]
    exact attached
  · have ran := @startQueued_idle env row chances w n queued
    by_cases live : isLive row.status = true
    · have running : row.status = .running := (of_decide_eq_true live).resolve_left queued
      rcases @liveAttempt_taken env chances row w n found running (startable.numbered live)
        fun k after => ⟨(provided k after).1, (provided k after).2.2⟩ with
        ⟨attempt, w2, k, attached⟩
      refine ⟨_, _, attempt, w2, k, ran, ?_⟩
      rw [attachedAttempt, if_pos live]
      exact attached
    · refine ⟨_, _, (latestAttemptOf row.runId w.ledger).map RunAttempt.attemptId, w, n + 1,
        ran, ?_⟩
      rw [attachedAttempt, if_neg live, lastAttempt, evaluate_try]
      change andThen (reading (chances n) (latestAttemptOf row.runId w.ledger), w, n + 1) _ = _
      simp only [reading, (provided n le_rfl).1, andThen]
      rfl

end Attaching

section Taking

variable {env : Setting} {chances : Chances} {p : Preflight} {s : Tables} {w w' : World} {n m : Nat}

theorem maxSequence_append {t : Tables} {conversation : ConversationId} {e : EventRow}
    (events : t.events = s.events ++ [e]) (named : e.conversationId = conversation)
    (numbered : e.sequence = maxSequence conversation s + 1) :
    maxSequence conversation t = maxSequence conversation s + 1 := by
  rw [maxSequence] at numbered
  rw [maxSequence, maxSequence, events, List.filter_append, List.map_append, List.foldl_append]
  simp [named, numbered]

theorem openProjection_ok {given conversationId : ConversationId}
    (ok : (openProjection given).run.evaluate (alone env chances) (w, n) =
      (.ok conversationId, w', m)) :
    loadConversation given w.ledger ≠ none ∧ conversationId = given ∧ w' = w := by
  rw [openProjection, evaluate_try] at ok
  rcases andThen_ok ok with ⟨found, ⟨w1, n1⟩, asked, rest⟩
  change (reading (chances n) (loadConversation given w.ledger), w, n + 1) = _ at asked
  rcases Prod.mk.inj asked with ⟨read, same⟩
  cases same
  have held : loadConversation given w.ledger = found := reading_ok read
  cases found with
  | none => cases rest
  | some c =>
      cases rest
      rw [held]
      exact ⟨Option.some_ne_none c, rfl, rfl⟩

theorem openProjection_taken {given : ConversationId} (sound : (chances n).fails = none)
    (there : loadConversation given w.ledger ≠ none) :
    (openProjection given).run.evaluate (alone env chances) (w, n) = (.ok given, w, n + 1) := by
  rcases Option.ne_none_iff_exists'.mp there with ⟨c, found⟩
  rw [openProjection, evaluate_try]
  change andThen (reading (chances n) (loadConversation given w.ledger), w, n + 1) _ = _
  rw [found]
  simp only [reading, sound]
  rfl

/-- A run was created: its row is new, and one event of its conversation was written. -/
structure Entered (row : Ledger.Run) (s t : Tables) : Prop where
  fits : Ledger.RunFits row s
  conversations : t.conversations = s.conversations
  runs : t.runs = s.runs ++ [row]
  attempts : t.attempts = s.attempts
  next : maxSequence row.conversationId t = maxSequence row.conversationId s + 1

theorem Entered.found {row : Ledger.Run} {t : Tables} (made : Entered row s t) :
    loadRun row.runId t = some row := by
  have none : lookup Ledger.Run.runId row.runId s.runs = none := made.fits.fresh
  rw [loadRun, made.runs, lookup_append, none, if_pos rfl]
  rfl

theorem Entered.housed {row : Ledger.Run} {t : Tables} (made : Entered row s t)
    (housed : Housed s) : Housed t := by
  intro r member
  rw [loadConversation, made.conversations]
  rw [made.runs] at member
  rcases List.mem_append.mp member with before | new
  · exact housed r before
  · rw [List.mem_singleton.mp new]
    exact made.fits.conversation

theorem createRunWithId_made {t : Tables} {stamp : Stamp} {row : Ledger.Run}
    (ok : createRunWithId env.sha256 p.request p.runId.asStr ⟨p.runId.asStr⟩ stamp s =
      .ok (row, t)) :
    (t = s ∧ ∃ record, findRecord scopeCreateRunWithId p.runId.asStr s = some record ∧
        record.requestDigest =
          Ledger.requestDigest env.sha256 (newRunWithIdTree p.request p.runId.asStr) ∧
        loadRun record.resultReference s = some row) ∨
      (findRecord scopeCreateRunWithId p.runId.asStr s = none ∧
        row = newRun p.request p.runId.asStr stamp.now ∧ Entered row s t) := by
  rw [createRunWithId, createRunInner_eq] at ok
  rcases once_ok ok with ⟨same, idem, given, record, found, digest, loaded⟩ |
    ⟨unused, reference, made, makes, rfl⟩
  · cases given
    exact .inl ⟨same, record, found, digest, runOr_ok.mp loaded⟩
  · rcases makeRun_ok makes with ⟨named, _, fits, events, emits, rfl⟩
    rcases emits with ⟨event, now, here, _, _, rfl⟩
    have same : event.conversationId = row.conversationId := by
      rw [named, here]
      rfl
    exact .inr ⟨unused _ rfl, named, fits, rfl, rfl, rfl,
      maxSequence_append rfl same (by rw [← same]; rfl)⟩

theorem attachable_of_attach {projector : LiveLedgerProjector}
    (ok : (attach p).run.evaluate (alone env chances) (w, n) = (.ok projector, w', m)) :
    Attachable env.sha256 p w.ledger := by
  rw [attach, evaluate_try] at ok
  rcases andThen_ok ok with ⟨conversationId, ⟨w0, n0⟩, opened, rest⟩
  rcases openProjection_ok opened with ⟨there, rfl, rfl⟩
  refine ⟨there, ?_⟩
  rw [attachRun, evaluate_try] at rest
  rcases andThen_ok rest with ⟨row, ⟨w1, n1⟩, made, starts⟩
  rw [evaluate_try] at starts
  rcases andThen_ok starts with ⟨_, ⟨w2, n2⟩, queued, attempts⟩
  rw [evaluate_try] at attempts
  rcases andThen_ok attempts with ⟨attempt, ⟨w3, n3⟩, attempted, _⟩
  rcases ledgerCall_ok made with ⟨stamp, reply, done, read⟩
  rcases replying_ok done with ⟨row', made, rfl⟩
  cases read
  rcases createRunWithId_made made with ⟨same, record, used, digest, loaded⟩ |
    ⟨unused, named, made⟩
  · have found : loadRun row.runId w1.ledger = some row := by
      rw [same, (lookup_mem loaded).2]
      exact loaded
    rcases startQueued_ok found queued with ⟨begins, unchanged⟩
    rw [same] at begins unchanged
    have kept : runningAttemptOf row.runId w2.ledger = runningAttemptOf row.runId w0.ledger ∧
        nextAttemptNumber row.runId w2.ledger = nextAttemptNumber row.runId w0.ledger := by
      rw [runningAttemptOf, nextAttemptNumber, unchanged]
      exact ⟨rfl, rfl⟩
    refine .inl ⟨record, row, used, digest, loaded, begins, ?_⟩
    intro live idle
    rw [← kept.2]
    exact attachedAttempt_numbered attempted live (kept.1.trans idle)
  · have left := (startQueued_ok made.found queued).1 (by rw [named]; rfl)
    have target : row.conversationId = p.target.conversationId := by
      rw [named]
      rfl
    rw [Full, made.next, target] at left
    refine .inr ⟨unused, ?_, ?_, ?_⟩
    · have fresh := made.fits.fresh
      rw [named] at fresh
      exact fresh
    · intro parent given
      rcases made.fits.parent parent.asStr (by rw [named]; exact Option.mem_map_of_mem _ given) with
        ⟨r, member, same⟩
      rcases List.mem_append.mp member with before | new
      · exact .inr ⟨r, before, by rw [← target]; exact same⟩
      · rw [List.mem_singleton.mp new, named] at same
        exact .inl same.2.symm
    · have bound := not_lt.mp left
      push_cast at bound ⊢
      omega

theorem enters_made {stamp : Stamp} (there : loadConversation p.target.conversationId s ≠ none)
    (enters : Enters p s) (fresh : findEvent stamp.eventId s = none) :
    ∃ row t, createRunWithId env.sha256 p.request p.runId.asStr ⟨p.runId.asStr⟩ stamp s =
      .ok (row, t) := by
  have parent : ∀ parent ∈ p.request.parentRunId, runIn p.target.conversationId parent
      (s.runs ++ [newRun p.request p.runId.asStr stamp.now]) := by
    intro parent given
    rcases Option.mem_map.mp given with ⟨id, named, rfl⟩
    rcases enters.parent id named with same | ⟨r, member, mine⟩
    · exact ⟨_, List.mem_append.mpr (.inr (List.mem_singleton.mpr rfl)), rfl, same.symm⟩
    · exact ⟨r, List.mem_append.mpr (.inl member), mine⟩
  have inserted : insertRun (newRun p.request p.runId.asStr stamp.now) s =
      .ok { s with runs := s.runs ++ [newRun p.request p.runId.asStr stamp.now] } := by
    simp only [insertRun, bind_ok_iff, refuseIf_ok_iff, exists_const, pure_ok_iff, and_true,
      not_not, not_exists, not_and]
    exact ⟨enters.free, there, parent⟩
  have fits : Ledger.Fits ⟨stamp.eventId, p.target.conversationId, some p.runId.asStr, none,
      .runCreated, Ledger.eventSchemaVersion, Ledger.runPayload p.target.agent p.target.role⟩
      { s with runs := s.runs ++ [newRun p.request p.runId.asStr stamp.now] } := by
    refine ⟨fresh, there, ?_, nofun⟩
    intro run named
    cases named
    exact ⟨_, List.mem_append.mpr (.inr (List.mem_singleton.mpr rfl)), rfl, rfl⟩
  have left : ¬ Full p.target.conversationId
      { s with runs := s.runs ++ [newRun p.request p.runId.asStr stamp.now] } := by
    have bound := enters.left
    change ¬ Full p.target.conversationId s
    rw [Full]
    push_cast at bound ⊢
    omega
  rcases @Ledger.emitEvent_fits _ _ stamp.now fits left with ⟨persisted, emitted⟩
  rw [createRunWithId, createRunInner_eq, Ledger.once, Ledger.checkOptional,
    Ledger.check, enters.unused]
  simp only [ok_bind, bind_ok_iff, pure_ok_iff, Ledger.makeRun, Ledger.recordOptional,
    Ledger.record, Ledger.insertRecord, refuseIf_ok_iff, exists_const]
  exact ⟨_, _, _, ⟨_, inserted, _, emitted, rfl⟩, _, ⟨not_not_intro enters.unused, rfl⟩, rfl⟩

theorem attachable_made {stamp : Stamp} (sane : Sane s) (housed : Housed s)
    (attachable : Attachable env.sha256 p s) (fresh : findEvent stamp.eventId s = none) :
    ∃ row t, createRunWithId env.sha256 p.request p.runId.asStr ⟨p.runId.asStr⟩ stamp s =
        .ok (row, t) ∧ Housed t ∧ loadRun row.runId t = some row ∧ Startable row t := by
  rcases attachable with ⟨there, ⟨record, row, found, digest, loaded, startable⟩ | enters⟩
  · refine ⟨row, s, ?_, housed, ?_, startable⟩
    · rw [createRunWithId, createRunInner_eq, Ledger.once, Ledger.checkOptional,
        Ledger.check, found]
      simp only [digest, if_true, ok_bind, runOr_ok.mpr loaded]
      rfl
    · rw [(lookup_mem loaded).2]
      exact loaded
  · rcases @enters_made env p s stamp there enters fresh with ⟨row, t, ok⟩
    rcases createRunWithId_made ok with ⟨_, record, found, _⟩ | ⟨_, named, made⟩
    · cases enters.unused.symm.trans found
    refine ⟨row, t, ok, made.housed housed, made.found, ?_, ?_⟩
    · intro _
      have target : row.conversationId = p.target.conversationId := by
        rw [named]
        rfl
      have bound := enters.left
      rw [Full, made.next, target]
      push_cast at bound ⊢
      omega
    · intro _ _
      have none : (t.attempts.filter fun a => decide (a.runId = row.runId)) = [] := by
        rw [made.attempts, List.filter_eq_nil_iff]
        intro a member mine
        have same : a.runId = row.runId := of_decide_eq_true mine
        exact sane.owned a member (same ▸ made.fits.fresh)
      rw [nextAttemptNumber, none]
      decide

theorem fresh_id (ids : List String) : ∃ id, id ∉ ids := by
  rcases Infinite.exists_notMem_finset ids.toFinset with ⟨id, unused⟩
  exact ⟨id, fun member => unused (List.mem_toFinset.mpr member)⟩

theorem unlisted {α : Type} {key : α → String} {rows : List α} {id : String}
    (unused : id ∉ rows.map key) : lookup key id rows = none := by
  rw [lookup_none_iff]
  exact fun r member same => unused (List.mem_map.mpr ⟨r, member, same⟩)

/-- On some course of the world the run is attached, exactly when the ledger attachable it. -/
theorem attaches_iff {records : RunId → RecordDir} (sane : Sane s) (housed : Housed s) :
    Attaches env p s records ↔ Attachable env.sha256 p s := by
  constructor
  · rintro ⟨chances, projector, w, m, ok⟩
    exact attachable_of_attach ok
  · intro attachable
    rcases fresh_id (s.events.map EventRow.eventId) with ⟨first, unused⟩
    rcases @attachable_made env p s ⟨0, first⟩ sane housed attachable (unlisted unused) with
      ⟨row, t, made, housed', found, startable⟩
    rcases fresh_id (t.events.map EventRow.eventId ++
      t.attempts.map RunAttempt.attemptId) with ⟨second, unused'⟩
    rw [List.mem_append, not_or] at unused'
    let chances : Chances := fun k =>
      ⟨⟨0, if k = 1 then first else second⟩, none, "", none, false, CrashSample.outside⟩
    have provided : Provided chances t 3 := by
      intro k after
      have other : (chances k).stamp.eventId = second := if_neg (by omega)
      rw [other]
      exact ⟨rfl, unlisted unused'.1, unlisted unused'.2⟩
    have done : exec env.sha256 env.serde s (.createRunWithId p.request p.runId.asStr
        ⟨p.runId.asStr⟩ (chances 1).stamp) = .ok (.run row, t) :=
      congrArg (Ledger.replying Reply.run) made
    rcases @started_taken env chances row ((resting s records).setLedger t) 3 housed' found
      startable provided with ⟨w1, m, attempt, w2, k, started, attached⟩
    refine ⟨chances, ⟨row.conversationId, row.runId, attempt⟩, w2, k, ?_⟩
    have opened := @openProjection_taken env chances (resting s records) 0
      p.target.conversationId rfl attachable.1
    have created := @ledgerCall_taken env chances (resting s records) 1 _ asRun
      (fun stamp => .createRunWithId p.request p.runId.asStr ⟨p.runId.asStr⟩ stamp) _ _ row rfl
      done rfl
    rw [Preflight.request] at created
    rw [attach, evaluate_try, opened]
    simp only [andThen]
    rw [attachRun, evaluate_try, created]
    simp only [andThen]
    rw [evaluate_try, started]
    simp only [andThen]
    rw [evaluate_try, attached]
    rfl

end Taking

section Checks

variable {env : Setting} {chances : Chances} {recordRunId : RunId}
  {expected : Option ExpectedIdentity} {s : Tables} {records : RunId → RecordDir}

theorem checked {α β γ : Type} {x : Except CatchUpError α} {t : World × Nat}
    {g : α → Except CatchUpError β}
    {f : α → World × Nat → Except CatchUpError γ × (World × Nat)}
    {goal : β → Except CatchUpError γ × (World × Nat)}
    (next : ∀ a, (∃ e m, f a t = (.error e, t.1, m)) ∨ ∃ p, g a = .ok p ∧ f a t = goal p) :
    (∃ e m, andThen (x, t) f = (.error e, t.1, m)) ∨
      ∃ p, (x >>= g) = .ok p ∧ andThen (x, t) f = goal p := by
  cases x with
  | error e => exact .inl ⟨e, t.2, rfl⟩
  | ok a => exact next a

theorem passed {α β γ : Type} {x : Except CatchUpError α} {t : World × Nat} {b : β}
    {g : α → Except CatchUpError β}
    {f : α → World × Nat → Except CatchUpError γ × (World × Nat)}
    {goal : Except CatchUpError γ × (World × Nat)}
    (next : ∀ a, g a = .ok b → f a t = goal) (ok : (x >>= g) = .ok b) :
    andThen (x, t) f = goal := by
  rcases bind_ok_iff.mp ok with ⟨a, rfl, rest⟩
  exact next a rest

theorem catchUp_split :
    (∃ e m, (catchUpWith env recordRunId expected).run.evaluate (alone env chances)
      (resting s records, 0) = (.error e, resting s records, m)) ∨
    ∃ p, preflight env (records recordRunId) expected s = .ok p ∧
      (catchUpWith env recordRunId expected).run.evaluate (alone env chances)
        (resting s records, 0) =
      (applyRecord env (records recordRunId) p).run.evaluate (alone env chances)
        (resting s records, 2) := by
  have asked : (recordCall recordRunId).evaluate (alone env chances) (resting s records, 0) =
      (records recordRunId, resting s records, 1) := rfl
  simp only [catchUpWith, preflight, evaluate_try, evaluate_lift, evaluate_ofExcept,
    evaluate_failingAs, asked]
  rw [andThen]
  refine checked fun stream => ?_
  refine checked fun first => ?_
  refine checked fun binding => ?_
  refine checked fun own => ?_
  rw [evaluate_ledgerRun]
  cases fails : (chances 1).fails with
  | some why =>
      simp only [reading, fails]
      exact .inl ⟨_, 2, rfl⟩
  | none =>
      simp only [reading, fails, Except.mapError]
      rw [andThen]
      refine checked fun unsealed => ?_
      refine checked fun target => ?_
      refine checked fun identity => ?_
      refine checked fun parent => ?_
      exact .inr ⟨_, rfl, rfl⟩

theorem catchUp_passes (sound : (chances 1).fails = none) {p : Preflight}
    (ok : preflight env (records recordRunId) expected s = .ok p) :
    (catchUpWith env recordRunId expected).run.evaluate (alone env chances)
        (resting s records, 0) =
      (applyRecord env (records recordRunId) p).run.evaluate (alone env chances)
        (resting s records, 2) := by
  revert ok
  have asked : (recordCall recordRunId).evaluate (alone env chances) (resting s records, 0) =
      (records recordRunId, resting s records, 1) := rfl
  simp only [catchUpWith, preflight, evaluate_try, evaluate_lift, evaluate_ofExcept,
    evaluate_failingAs, asked]
  rw [andThen]
  refine passed fun stream => ?_
  refine passed fun first => ?_
  refine passed fun binding => ?_
  refine passed fun own => ?_
  rw [evaluate_ledgerRun]
  simp only [reading, sound, Except.mapError]
  rw [andThen]
  refine passed fun unsealed => ?_
  refine passed fun target => ?_
  refine passed fun identity => ?_
  refine passed fun parent => ?_
  intro done
  cases done
  rfl

theorem refused_late {e : CatchUpError} {t : Tables}
    (refused : caughtUp env chances recordRunId expected s records = (.error e, t))
    (refuses : e.refuses = true) (changed : t ≠ s) :
    RefusedLate env recordRunId expected s records := by
  rw [caughtUp] at refused
  rcases @catchUp_split env chances recordRunId expected s records with
    ⟨e', m, failed⟩ | ⟨p, passes, same⟩
  · rw [failed] at refused
    exact absurd (Prod.mk.inj refused).2.symm changed
  rcases attached : (attach p).run.evaluate (alone env chances) (resting s records, 2)
    with ⟨result, w, m⟩
  rw [same, evaluate_applyRecord attached] at refused
  cases result with
  | error fault =>
      cases refused
      cases refuses
  | ok projector =>
      simp only [Except.mapError, andThen] at refused
      rcases @evaluate_projectRecord env chances (records recordRunId) p projector (w, m) with
        ⟨receipt, projecting⟩
      rw [projecting] at refused
      rcases behind : projected env chances p projector (w, m) with ⟨u, k⟩
      rw [behind] at refused
      rcases checked : (backfill env (records recordRunId) p.state p.runId).run.evaluate
        (alone env chances) (u, k) with ⟨outcome, v, j⟩
      rw [checked] at refused
      cases outcome with
      | ok outcome => cases refused
      | error why =>
          cases refused
          rcases backfill_refused checked refuses with ⟨rfl, rejects⟩
          have written : Written s w.ledger := attach_written attached
          have applied := @projected_written env chances p w m projector
          rw [behind] at applied
          refine ⟨p, passes, attachable_of_attach attached,
            (Rejects.written (written.trans applied)).mp rejects, ?_⟩
          rintro ⟨row, held, converged⟩
          rcases @attach_idle env chances p (resting s records) 2 row held converged.started with
            ⟨result, j, idle⟩
          have here := attached.symm.trans idle
          cases here
          rcases attach_kept attached rfl with ⟨row', attempt, held', _, rfl, _⟩
          cases held.unique held'
          have still := @projected_idle env chances p (resting s records) m row attempt held.found
            converged.applied
          rw [behind] at still
          exact changed (congrArg World.ledger still)

def Chance.lucky (chance : Chance) (id : Ledger.EventId) : Chance :=
  { chance with fails := none, stamp := ⟨0, id⟩ }

theorem late_writes (sane : Sane s) (housed : Housed s)
    (late : RefusedLate env recordRunId expected s records) :
    ∃ chances e, e.refuses = true ∧
      (caughtUp env chances recordRunId expected s records).1 = .error e ∧
      footing s < footing (caughtUp env chances recordRunId expected s records).2 := by
  rcases late with ⟨p, passes, attachable, rejects, pending⟩
  rcases (@attaches_iff env p s records sane housed).mpr attachable with
    ⟨chances, projector, w, m, attached⟩
  rcases fresh_id (s.events.map EventRow.eventId) with ⟨id, unused⟩
  have fresh : findEvent id s = none := unlisted unused
  let lucky : Chances := fun k =>
    if 2 ≤ k ∧ k < 2 + m then chances (k - 2) else (chances 0).lucky id
  have luck : ∀ k, ¬ (2 ≤ k ∧ k < 2 + m) → (lucky k).fails = none ∧
      (lucky k).stamp.eventId = id := by
    intro k outside
    simp only [lucky, if_neg outside]
    exact ⟨rfl, rfl⟩
  have fortunate : Fortunate lucky s (2 + m) := by
    intro k after
    have lucks := luck k (by omega)
    rw [lucks.2]
    exact ⟨lucks.1, fresh⟩
  have attached' : (attach p).run.evaluate (alone env lucky) (resting s records, 2) =
      (.ok projector, w, 2 + m) := by
    rcases @alone_moved env chances _ _ _ _ _ _ _ lucky 2 attached (by
      intro k below
      have inside : 2 ≤ 2 + k ∧ 2 + k < 2 + m := by omega
      simp only [lucky, if_pos inside]
      congr 1
      omega) with ⟨d, counted, moved⟩
    rw [moved]
    simp [counted]
  have written : Written s w.ledger := attach_written attached'
  have grown : footing s < footing (projected env lucky p projector (w, 2 + m)).1.ledger := by
    rcases written.grown with same | more
    · rcases attach_kept attached' same with ⟨row, attempt, held, started, rfl, owns⟩
      have unapplied : ¬ (Full row.conversationId s ∨
          (∀ event ∈ p.stream, Noted row.runId event s) ∧
            ∀ verdict ∈ p.state.verdict, Settled row.status verdict) :=
        fun applied => pending ⟨row, held, started, applied⟩
      have found : loadRun row.runId s = some row := held.found
      have owned : HoldsAttempt row attempt s := owns
      rw [← same] at housed found owned unapplied fortunate
      have moves := @projected_moves env lucky p w (2 + m) row attempt housed found owned fortunate
        started.begun unapplied
      rwa [same] at moves
    · exact more.trans_le (projected_written projector).le
  rcases behind : projected env lucky p projector (w, 2 + m) with ⟨u, k⟩
  have counted := @projected_counts env lucky p w (2 + m) projector
  have applied := @projected_written env lucky p w (2 + m) projector
  rw [behind] at grown counted applied
  rcases @backfill_rejects env lucky (records recordRunId) p u k (luck k (by simp only at counted; omega)).1
    ((Rejects.written (written.trans applied)).mpr rejects) with ⟨e, j, refuses, refused⟩
  have result : caughtUp env lucky recordRunId expected s records = (.error e, u.ledger) := by
    rcases @evaluate_projectRecord env lucky (records recordRunId) p projector (w, 2 + m) with
      ⟨receipt, projecting⟩
    rw [caughtUp, catchUp_passes (luck 1 (by omega)).1 passes, evaluate_applyRecord attached']
    simp only [Except.mapError, andThen]
    rw [projecting, behind, refused]
    rfl
  refine ⟨lucky, e, refuses, ?_, ?_⟩
  · rw [result]
  · rw [result]
    exact grown

end Checks

/-- A refused catch-up leaves the ledger as it was, unless the refusal is a late one. -/
theorem catch_up_atomic (env : Setting) (recordRunId : RunId)
    (expected : Option ExpectedIdentity) (ops : List Op) (records : RunId → RecordDir) :
    (∀ chances e, e.refuses = true →
      (caughtUp env chances recordRunId expected (Ledger.run env.sha256 env.serde .empty ops)
        records).1 = .error e →
      (caughtUp env chances recordRunId expected (Ledger.run env.sha256 env.serde .empty ops)
        records).2 = Ledger.run env.sha256 env.serde .empty ops) ↔
    ¬ RefusedLate env recordRunId expected (Ledger.run env.sha256 env.serde .empty ops)
      records := by
  have housed : Housed (Ledger.run env.sha256 env.serde .empty ops) :=
    Ledger.reachable_housed ⟨ops, rfl⟩
  have sane : Sane (Ledger.run env.sha256 env.serde .empty ops) :=
    Ledger.reachable_sane ⟨ops, rfl⟩
  generalize Ledger.run env.sha256 env.serde .empty ops = s at housed sane ⊢
  constructor
  · intro atomic late
    rcases late_writes sane housed late with ⟨chances, e, refuses, refused, grown⟩
    rw [atomic chances e refuses refused] at grown
    exact lt_irrefl _ grown
  · intro never chances e refuses refused
    by_contra changed
    exact never (refused_late (Prod.ext refused rfl) refuses changed)

namespace LateSample

open CrashSample (parentRunId)

noncomputable def ledger : Tables :=
  Ledger.run Sample.setting.sha256 Sample.setting.serde .empty
    [.createConversation none "conversation-1" ⟨0, "event-1"⟩]

noncomputable def receipt : Run.ArtifactRef :=
  artifact Sample.setting .providerSession "session_receipt.json" []

noncomputable def payloads : List Run.RunEventKind :=
  [.runStarted Sample.contract (artifact Sample.setting .task "task.md" []), .agentStarted,
    .agentExited (.exitedNormally 0), .providerSessionCaptured receipt, .runSealed]

def binding : LedgerBinding := ⟨1, "run-1", "conversation-1", "claude", "implementer", none⟩

def target : AttachTarget := ⟨"conversation-1", "claude", "implementer", none⟩

/-- The sealed record of a run that the ledger does not have; its session receipt is empty. -/
noncomputable def dir : RecordDir where
  base := "records/run-1"
  events := .lines ((Run.mintStream Run.standardSha256 parentRunId 0 payloads).map .event)
  ledgerBinding := .ok (some binding)
  commandBinding := .ok none
  read locator :=
    if locator = "task.md" ∨ locator = "session_receipt.json" then .ok [] else .error "not found"

noncomputable def chances : Chances := fun k =>
  ⟨⟨0, if k = 1 then "event-2" else "event-3"⟩, none, "", none, false, CrashSample.outside⟩

theorem folded : ∃ t, Run.foldPayloads parentRunId .initial payloads = .ok t ∧
    t.verdict ≠ none ∧ t.runId = some parentRunId ∧ t.candidateState = none ∧
    t.candidateMaterialized = none ∧ t.providerSessionReceipt = some receipt := by
  refine ⟨_, rfl, ?_, rfl, rfl, rfl, rfl⟩
  decide

theorem artifacts {kind : Run.RunEventKind} (listed : kind ∈ payloads) (r : Run.ArtifactRef)
    (named : r ∈ Run.referencedArtifacts kind) : ∃ bytes,
    recordDirResolver dir r = .ok bytes ∧
      Run.Digest256.ofBytes Run.standardSha256 bytes = r.digest := by
  simp only [payloads, List.mem_cons, List.not_mem_nil, or_false] at listed
  rcases listed with same | same | same | same | same <;> rw [same] at named
  · cases List.mem_singleton.mp named
    exact ⟨[], resolver_ok_iff.mpr ⟨by decide, rfl⟩, rfl⟩
  · cases named
  · cases named
  · cases List.mem_singleton.mp named
    exact ⟨[], resolver_ok_iff.mpr ⟨by decide, rfl⟩, rfl⟩
  · cases named

theorem unread : loadRun "run-1" ledger = none := by decide +kernel

theorem taken (stream : List RunEvent) (state : RunState) :
    Attachable Sample.setting.sha256 ⟨stream, state, parentRunId, target, none⟩ ledger := by
  have there : loadConversation "conversation-1" ledger ≠ none := by decide +kernel
  have next : maxSequence "conversation-1" ledger = 1 := by decide +kernel
  refine ⟨there, .inr ⟨rfl, unread, nofun, ?_⟩⟩
  change ((maxSequence "conversation-1" ledger + 2 : Nat) : Int) ≤ Ledger.i64Max
  rw [next]
  decide

theorem passes : ∃ stream state, state.providerSessionReceipt = some receipt ∧
    preflight Sample.setting dir none ledger =
      .ok ⟨stream, state, parentRunId, target, none⟩ := by
  rcases folded with ⟨t, folded, _, named, uncaptured, unmaterialized, captured⟩
  rcases minted_core folded (by decide) named (fun _ => artifacts) with
    ⟨state, n, core, agrees, listed, own⟩
  have same : state.providerSessionReceipt = t.providerSessionReceipt ∧
      state.candidateState = t.candidateState ∧
      state.candidateMaterialized = t.candidateMaterialized := by
    rw [agrees]
    exact ⟨rfl, rfl, rfl⟩
  rw [captured, uncaptured, unmaterialized] at same
  have verified : Run.verifyPrefix Sample.setting.sha256 Sample.setting.ext (recordDirResolver dir)
      (Run.mintStream Run.standardSha256 parentRunId 0 payloads) = .ok (state, n) := by
    refine Run.verifyPrefix_ok_split.mpr ⟨core, ?_⟩
    rw [same.2.1, same.2.2]
    exact fun never => absurd never (by simp)
  rcases List.map_eq_cons_iff.mp listed with ⟨first, rest, shape, _⟩
  have mine : first.runId = parentRunId := own first (by rw [shape]; exact List.mem_cons_self)
  have read : readStream Sample.setting dir =
      .ok (Run.mintStream Run.standardSha256 parentRunId 0 payloads, state) := by
    have events : dir.events =
      .lines ((Run.mintStream Run.standardSha256 parentRunId 0 payloads).map .event) := rfl
    rw [readStream, events]
    simp only [bind_ok_iff, mapError_ok_iff, pure_ok_iff]
    exact ⟨_, parseFrom_all _ _ 0, _, verified, rfl⟩
  have head : (Run.mintStream Run.standardSha256 parentRunId 0 payloads).head? = some first := by
    rw [shape]
    rfl
  refine ⟨Run.mintStream Run.standardSha256 parentRunId 0 payloads, state, same.1, ?_⟩
  have row : loadRun parentRunId.asStr ledger = none := unread
  have own : checkOwnBinding (some binding) parentRunId = .ok () := rfl
  have bound : dir.ledgerBinding = .ok (some binding) := rfl
  simp only [preflight, read, ok_bind, head, okOr, mine, row, bound, Except.mapError, own,
    checkUnsealed, attachTarget, checkIdentityGiven, mintParent]
  rfl

theorem late : RefusedLate Sample.setting "run-1" none ledger fun _ => dir := by
  rcases passes with ⟨stream, state, captured, passes⟩
  refine ⟨_, passes, taken stream state, ⟨receipt, captured, .inl ⟨_, rfl, rfl⟩⟩, ?_⟩
  rintro ⟨row, ⟨record, found, _⟩, _⟩
  have unrecorded : ledger.records = [] := rfl
  rw [Ledger.findRecord, unrecorded] at found
  cases found

end LateSample

/-- A catch-up that refuses the session receipt of a record has already written the run. -/
theorem late_refusal_writes : ∃ chances e, e.refuses = true ∧
    (caughtUp Sample.setting chances "run-1" none LateSample.ledger fun _ => LateSample.dir).1 =
      .error e ∧
    (caughtUp Sample.setting chances "run-1" none LateSample.ledger fun _ => LateSample.dir).2 ≠
      LateSample.ledger := by
  have housed : Housed LateSample.ledger := Ledger.reachable_housed ⟨_, rfl⟩
  have sane : Sane LateSample.ledger := Ledger.reachable_sane ⟨_, rfl⟩
  rcases late_writes sane housed LateSample.late with ⟨chances, e, refuses, refused, grown⟩
  refine ⟨chances, e, refuses, refused, ?_⟩
  intro same
  rw [same] at grown
  exact lt_irrefl _ grown

end O7Formal.Dispatch
