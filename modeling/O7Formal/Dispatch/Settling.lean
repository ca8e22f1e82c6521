import O7Formal.Dispatch.CatchUp
import O7Formal.Ledger.Acceptance
import O7Formal.Ledger.Idempotent

/-! When the catch-up of a record that the ledger knows already writes nothing more, and when its
projection is sure to write. -/

namespace O7Formal.Dispatch

open Fallible Program Table
open O7Formal.Ledger (Full Housed IdempotencyRecord Op Reply RunStatus Stamp Tables exec
  exec_recorded findRecord loadRun once_ok scopeAppendSystemNote scopeCreateRunWithId)
open O7Formal.Run (RunEvent)

section Alone

variable {env : Setting} {chances : Chances} {ε α β : Type}

theorem evaluate_ofExcept (x : Except ε α) (s : World × Nat) :
    (ofExcept x).run.evaluate (alone env chances) s = (x, s) := rfl

theorem evaluate_ledgerRun (id : RunId) (w : World) (n : Nat) :
    (ledgerRun id).run.evaluate (alone env chances) (w, n) =
      (reading (chances n) (loadRun id w.ledger), w, n + 1) := rfl

theorem evaluate_failingAs {ε' : Type} (f : ε → ε') (x : Fallible ε α) (s : World × Nat) :
    (failingAs f x).run.evaluate (alone env chances) s =
      ((x.run.evaluate (alone env chances) s).1.mapError f,
        (x.run.evaluate (alone env chances) s).2) := by
  change (x.run >>= fun result => pure (result.mapError f)).evaluate _ s = _
  rw [evaluate_bind, evaluate_pure]

def taken (read : Reply → Option α) : Except Fault Reply → Except Fault α
  | .ok reply => (read reply).elim (.error (.refused "unexpected reply")) .ok
  | .error fault => .error fault

theorem evaluate_ledgerCall (read : Reply → Option α) (op : Stamp → Op) (w : World) (n : Nat) :
    (ledgerCall read op).run.evaluate (alone env chances) (w, n) =
      (taken read (ledgerAnswer env (chances (n + 1)) w (op (chances n).stamp)).1,
        (ledgerAnswer env (chances (n + 1)) w (op (chances n).stamp)).2, n + 2) := by
  rw [ledgerCall, evaluate_try, evaluate_lift]
  change (ledgerOp (op (chances n).stamp) >>= fun reply =>
    okOrThrow (read reply) "unexpected reply").run.evaluate (alone env chances) (w, n + 1) = _
  rw [evaluate_try]
  change andThen ((ledgerAnswer env (chances (n + 1)) w (op (chances n).stamp)).1,
    (ledgerAnswer env (chances (n + 1)) w (op (chances n).stamp)).2, n + 2) _ = _
  cases (ledgerAnswer env (chances (n + 1)) w (op (chances n).stamp)).1 with
  | error fault => rfl
  | ok reply =>
      simp only [andThen, taken, okOrThrow]
      cases read reply <;> rfl

def noteKey (runId : RunId) (event : RunEvent) : String := runId ++ ":" ++ toString event.sequence

theorem ledgerCall_ok {read : Reply → Option α} {op : Stamp → Op} {w w' : World} {n m : Nat} {a : α}
    (ok : (ledgerCall read op).run.evaluate (alone env chances) (w, n) = (.ok a, w', m)) :
    ∃ stamp reply, exec env.sha256 env.serde w.ledger (op stamp) = .ok (reply, w'.ledger) ∧
      read reply = some a := by
  rw [evaluate_ledgerCall] at ok
  have answered := congrArg Prod.fst ok
  have world := congrArg (fun r => r.2.1.ledger) ok
  simp only at answered world
  rw [← world]
  refine ⟨(chances n).stamp, ?_⟩
  simp only [ledgerAnswer] at answered ⊢
  cases fails : (chances (n + 1)).fails with
  | some why =>
      simp only [fails] at answered
      cases answered
  | none =>
      simp only [fails] at answered ⊢
      cases done : exec env.sha256 env.serde w.ledger (op (chances n).stamp) with
      | error e =>
          simp only [done] at answered
          cases answered
      | ok p =>
          simp only [done, taken] at answered ⊢
          refine ⟨p.1, ?_, ?_⟩
          · rw [World.setLedger, Ledger.step_ok done]
          · cases found : read p.1 with
            | none =>
                rw [found] at answered
                cases answered
            | some b =>
                rw [found] at answered
                cases answered
                rfl

def noteOp (env : Setting) (projector : LiveLedgerProjector) (event : RunEvent) (stamp : Stamp) :
    Op :=
  .appendSystemNote projector.conversationId (some projector.runId) projector.attemptId
    (env.payload event) ⟨noteKey projector.runId event⟩ stamp

theorem evaluate_project (projector : LiveLedgerProjector) (event : RunEvent) (w : World)
    (n : Nat) :
    (project env projector event).run.evaluate (alone env chances) (w, n) =
      ((ledgerAnswer env (chances (n + 1)) w
          (noteOp env projector event (chances n).stamp)).1.map fun _ => (),
        (ledgerAnswer env (chances (n + 1)) w
          (noteOp env projector event (chances n).stamp)).2, n + 2) := by
  rw [project, evaluate_try, evaluate_lift]
  change (ledgerOp (noteOp env projector event (chances n).stamp) >>= fun _ =>
    pure ()).run.evaluate (alone env chances) (w, n + 1) = _
  rw [evaluate_try]
  change andThen ((ledgerAnswer env (chances (n + 1)) w _).1,
    (ledgerAnswer env (chances (n + 1)) w _).2, n + 2) _ = _
  cases (ledgerAnswer env (chances (n + 1)) w
    (noteOp env projector event (chances n).stamp)).1 <;> rfl

theorem ledgerAnswer_same {chance : Chance} {w : World} {op : Op}
    (idle : Ledger.step env.sha256 env.serde w.ledger op = w.ledger) :
    (ledgerAnswer env chance w op).2 = w := by
  have same : w.setLedger (Ledger.step env.sha256 env.serde w.ledger op) = w := by rw [idle]; rfl
  simp only [ledgerAnswer, same]
  split
  · exact ite_self w
  · split <;> rfl

end Alone

def Attached (p : Preflight) (row : Ledger.Run) (s : Tables) : Prop :=
  ∃ record, findRecord scopeCreateRunWithId p.runId.asStr s = some record ∧
    loadRun record.resultReference s = some row

structure Started (row : Ledger.Run) (s : Tables) : Prop where
  begun : row.status ≠ .queued
  attempted : row.status = .running → runningAttemptOf row.runId s ≠ none

def Noted (runId : RunId) (event : RunEvent) (s : Tables) : Prop :=
  findRecord scopeAppendSystemNote (noteKey runId event) s ≠ none

def Settled (status : RunStatus) (verdict : Run.Verdict) : Prop :=
  status = sealTarget verdict ∨ isSettled status = true ∧ status ≠ .interrupted

/-- Nothing is left to apply, or the conversation takes no further event. -/
structure Converged (p : Preflight) (row : Ledger.Run) (s : Tables) : Prop where
  started : Started row s
  applied : Full row.conversationId s ∨
    (∀ event ∈ p.stream, Noted row.runId event s) ∧
      ∀ verdict ∈ p.state.verdict, Settled row.status verdict

section Idle

variable {env : Setting} {s : Tables} {row : Ledger.Run}

theorem recorded_idle {op : Op} {key : String} {q : Ledger.Request}
    (keyed : op.keyed = some (key, q)) {record : IdempotencyRecord}
    (found : findRecord q.scope key s = some record) :
    Ledger.step env.sha256 env.serde s op = s := by
  apply Ledger.step_keeps (motive := fun t => t = s) rfl
  intro reply s' ok
  rw [exec_recorded keyed rfl found] at ok
  split_ifs at ok
  rcases map_ok_iff.mp ok with ⟨a, _, same⟩
  exact (Prod.mk.inj same).2.symm

theorem note_idle {attempt : Option Ledger.AttemptId} {stamp : Stamp} {event : RunEvent}
    (idle : Full row.conversationId s ∨ Noted row.runId event s) :
    Ledger.step env.sha256 env.serde s
      (noteOp env ⟨row.conversationId, row.runId, attempt⟩ event stamp) = s := by
  cases idle with
  | inr noted =>
      rcases Option.ne_none_iff_exists'.mp noted with ⟨record, found⟩
      exact recorded_idle rfl found
  | inl full =>
      apply Ledger.step_keeps (motive := fun t => t = s) rfl
      intro reply s' ok
      rcases Ledger.replying_ok ok with ⟨p, appended, _⟩
      rw [Ledger.appendSystemNote, Ledger.appendOnce_eq] at appended
      rcases once_ok appended with ⟨same, _⟩ | ⟨_, reference, t, makes, _⟩
      · exact same
      · rcases Ledger.makeEvent_ok makes with ⟨_, _, fits, _⟩
        exact absurd full (not_lt.mpr fits.2)

theorem status_idle {target : RunStatus} {eventType : Ledger.EventType} {stamp : Stamp}
    {r : Ledger.Run} {s' : Tables} (found : loadRun row.runId s = some row)
    (full : Full row.conversationId s)
    (ok : Ledger.setRunStatus row.runId target eventType stamp s = .ok (r, s')) : False := by
  rcases Ledger.setRunStatus_ok ok with ⟨current, events, found', _, emits, _⟩
  cases found.symm.trans found'
  exact full.no_events emits

theorem seal_idle (found : loadRun row.runId s = some row) (full : Full row.conversationId s)
    (verdict : Run.Verdict) (stamp : Stamp) :
    Ledger.step env.sha256 env.serde s (sealOp row.runId verdict stamp) = s := by
  apply Ledger.step_keeps (motive := fun t => t = s) rfl
  intro reply s' ok
  cases verdict with
  | pass | fail | blocked | error =>
      rcases Ledger.replying_ok ok with ⟨r, moved, _⟩
      exact (status_idle found full moved).elim

theorem repair_idle (found : loadRun row.runId s = some row) (full : Full row.conversationId s)
    (target : RunStatus) (stamp : Stamp) :
    Ledger.step env.sha256 env.serde s
      (.repairInterruptedRunToTerminal row.runId target stamp) = s := by
  apply Ledger.step_keeps (motive := fun t => t = s) rfl
  intro reply s' ok
  rcases Ledger.replying_ok ok with ⟨r, repaired, _⟩
  rcases Ledger.repairInterruptedRunToTerminal_ok repaired with ⟨current, _, _, found', _, emits, _⟩
  cases found.symm.trans found'
  exact (full.no_events emits).elim

variable {chances : Chances} {w : World} {n : Nat}

theorem ledgerCall_idle {α : Type} {read : Reply → Option α} {op : Stamp → Op}
    (idle : ∀ stamp, Ledger.step env.sha256 env.serde w.ledger (op stamp) = w.ledger) :
    ∃ result, (ledgerCall read op).run.evaluate (alone env chances) (w, n) =
      (result, w, n + 2) := by
  rw [evaluate_ledgerCall, ledgerAnswer_same (idle _)]
  exact ⟨_, rfl⟩

theorem projectAll_idle {attempt : Option Ledger.AttemptId} {events : List RunEvent}
    (idle : Full row.conversationId w.ledger ∨ ∀ event ∈ events, Noted row.runId event w.ledger) :
    ∃ applied m, (projectAll env ⟨row.conversationId, row.runId, attempt⟩ events).evaluate
      (alone env chances) (w, n) = (applied, w, m) := by
  induction events generalizing n with
  | nil => exact ⟨_, _, rfl⟩
  | cons event rest ih =>
      have here : Full row.conversationId w.ledger ∨ Noted row.runId event w.ledger :=
        idle.imp_right fun noted => noted event List.mem_cons_self
      have later : Full row.conversationId w.ledger ∨ ∀ event ∈ rest,
          Noted row.runId event w.ledger :=
        idle.imp_right fun noted e member => noted e (List.mem_cons_of_mem _ member)
      rw [projectAll, evaluate_bind, evaluate_project, ledgerAnswer_same (note_idle here)]
      rcases @ih (n + 2) later with ⟨applied, m, same⟩
      rw [evaluate_bind, same]
      exact ⟨_, m, rfl⟩

theorem sealInner_idle {attempt : Option Ledger.AttemptId} {verdict : Run.Verdict}
    (found : loadRun row.runId w.ledger = some row)
    (idle : Full row.conversationId w.ledger ∨ Settled row.status verdict) :
    ∃ result m, (sealInner ⟨row.conversationId, row.runId, attempt⟩ verdict true).run.evaluate
      (alone env chances) (w, n) = (result, w, m) := by
  rw [sealInner, evaluate_try, evaluate_ledgerRun, found]
  cases fails : (chances n).fails with
  | some why =>
      simp only [reading, fails]
      exact ⟨_, _, rfl⟩
  | none =>
      simp only [reading, fails, andThen, okOrThrow]
      rw [evaluate_try, evaluate_return]
      simp only [andThen]
      by_cases sealed : row.status = sealTarget verdict
      · rw [if_pos sealed]
        exact ⟨_, _, rfl⟩
      have idle : Full row.conversationId w.ledger ∨
          isSettled row.status = true ∧ row.status ≠ .interrupted :=
        idle.imp_right fun settled => settled.resolve_left sealed
      rw [if_neg sealed]
      by_cases repairable : True ∧ row.status = .interrupted
      · have full := idle.resolve_right fun late => late.2 repairable.2
        rw [if_pos repairable, evaluate_try]
        rcases @ledgerCall_idle env chances w (n + 1) _ asRun _ (repair_idle found full _)
          with ⟨result, same⟩
        rw [same]
        cases result <;> exact ⟨_, _, rfl⟩
      · rw [if_neg repairable]
        by_cases late : isSettled row.status = true
        · rw [if_pos late]
          exact ⟨_, _, rfl⟩
        · have full := idle.resolve_right fun settled => late settled.1
          rw [if_neg late, evaluate_try]
          rcases @ledgerCall_idle env chances w (n + 1) _ asRun _ (seal_idle found full verdict)
            with ⟨result, same⟩
          rw [same]
          cases result <;> exact ⟨_, _, rfl⟩

theorem created {request : Ledger.NewRun} {runId : RunId} {stamp : Stamp} {reply : Reply}
    {s' : Tables} {run : Ledger.Run} (read : asRun reply = some run)
    (ok : exec env.sha256 env.serde s (.createRunWithId request runId ⟨runId⟩ stamp) =
      .ok (reply, s')) :
    (s' = s ∧ ∃ record, findRecord scopeCreateRunWithId runId s = some record ∧
      loadRun record.resultReference s = some run) ∨ s'.records ≠ s.records := by
  rcases Ledger.replying_ok ok with ⟨r, made, rfl⟩
  cases read
  rw [Ledger.createRunWithId, Ledger.createRunInner_eq] at made
  rcases once_ok made with ⟨same, idem, given, record, found, _, loaded⟩ |
    ⟨_, reference, t, makes, rfl⟩
  · cases given
    exact .inl ⟨same, record, found, Ledger.runOr_ok.mp loaded⟩
  · rcases Ledger.makeRun_ok makes with ⟨_, _, _, _, _, rfl⟩
    refine .inr ?_
    simp [Ledger.recorded]

theorem startQueued_idle (begun : row.status ≠ .queued) :
    (startQueued row).run.evaluate (alone env chances) (w, n) = (.ok (), w, n) := by
  rw [startQueued, if_neg begun]
  rfl

theorem attachedAttempt_idle (started : Started row w.ledger) :
    ∃ result m, (attachedAttempt row).run.evaluate (alone env chances) (w, n) =
      (result, w, m) := by
  rw [attachedAttempt]
  split
  · rename_i live
    have running : row.status = .running := (of_decide_eq_true live).resolve_left started.begun
    rcases Option.ne_none_iff_exists'.mp (started.attempted running) with ⟨a, found⟩
    rw [liveAttempt, evaluate_try]
    change ∃ result m, andThen (reading (chances n) (runningAttemptOf row.runId w.ledger),
      w, n + 1) _ = _
    rw [found]
    cases fails : (chances n).fails with
    | some why =>
        simp only [reading, fails]
        exact ⟨_, _, rfl⟩
    | none =>
        simp only [reading, fails]
        exact ⟨_, _, rfl⟩
  · rw [lastAttempt, evaluate_try]
    change ∃ result m, andThen (reading (chances n) (latestAttemptOf row.runId w.ledger),
      w, n + 1) _ = _
    cases reading (chances n) (latestAttemptOf row.runId w.ledger) <;> exact ⟨_, _, rfl⟩

def HoldsAttempt (row : Ledger.Run) (attempt : Option Ledger.AttemptId) (s : Tables) : Prop :=
  ∀ a ∈ attempt, ∃ q ∈ s.attempts, q.runId = row.runId ∧ q.attemptId = a

theorem startQueued_kept {w' : World} {m : Nat}
    (ok : (startQueued row).run.evaluate (alone env chances) (w, n) = (.ok (), w', m))
    (kept : w'.ledger = w.ledger) : row.status ≠ .queued := by
  intro queued
  rw [startQueued, if_pos queued, evaluate_try] at ok
  rcases andThen_ok ok with ⟨r, ⟨w1, n1⟩, started, rest⟩
  cases rest
  rcases ledgerCall_ok started with ⟨stamp, reply, done, _⟩
  rw [kept] at done
  rcases Ledger.replying_ok done with ⟨_, moved, _⟩
  rcases Ledger.setRunStatus_ok moved with ⟨_, _, _, _, ⟨_, _, _, _, _, events⟩, tables⟩
  have lengths := congrArg (fun t : Tables => t.events.length) tables
  simp [events] at lengths

theorem latestAttemptOf_mem {runId : RunId} {a : Ledger.RunAttempt}
    (found : latestAttemptOf runId s = some a) : a ∈ s.attempts ∧ a.runId = runId := by
  have listed : ∀ q ∈ s.attempts.filter fun a => decide (a.runId = runId),
      q ∈ s.attempts ∧ q.runId = runId := by
    intro q member
    rcases List.mem_filter.mp member with ⟨among, named⟩
    exact ⟨among, of_decide_eq_true named⟩
  rw [latestAttemptOf] at found
  revert found
  apply List.foldlRecOn (motive := fun best => best = some a → a ∈ s.attempts ∧ a.runId = runId)
  · nofun
  · intro best ih q member chosen
    cases best with
    | none =>
        cases chosen
        exact listed a member
    | some b =>
        simp only at chosen
        split at chosen
        · cases chosen
          exact listed a member
        · exact ih chosen

theorem attachedAttempt_kept {attempt : Option Ledger.AttemptId} {w' : World} {m : Nat}
    (ok : (attachedAttempt row).run.evaluate (alone env chances) (w, n) = (.ok attempt, w', m))
    (kept : w'.ledger = w.ledger) :
    (row.status = .running → runningAttemptOf row.runId w.ledger ≠ none) ∧
      HoldsAttempt row attempt w.ledger := by
  rw [attachedAttempt] at ok
  split at ok
  · rw [liveAttempt, evaluate_try] at ok
    rcases andThen_ok ok with ⟨found, ⟨w1, n1⟩, asked, rest⟩
    change (reading (chances n) (runningAttemptOf row.runId w.ledger), w, n + 1) = _ at asked
    rcases Prod.mk.inj asked with ⟨read, same⟩
    cases same
    have held : runningAttemptOf row.runId w.ledger = found := reading_ok read
    cases found with
    | some a =>
        cases rest
        have there : runningAttemptOf row.runId w.ledger ≠ none := by
          rw [held]
          exact Option.some_ne_none a
        refine ⟨fun _ => there, ?_⟩
        intro b given
        cases given
        have named := List.find?_some held
        exact ⟨a, List.mem_of_find?_eq_some held, (of_decide_eq_true named).1, rfl⟩
    | none =>
        simp only [evaluate_try] at rest
        rcases andThen_ok rest with ⟨a, ⟨w2, n2⟩, made, last⟩
        cases last
        rcases ledgerCall_ok made with ⟨stamp, reply, done, _⟩
        rw [kept] at done
        rcases Ledger.replying_ok done with ⟨_, added, _⟩
        rcases Ledger.createAttempt_ok added with ⟨_, _, _, _, _, tables⟩
        have lengths := congrArg (fun t : Tables => t.attempts.length) tables
        simp at lengths
  · rename_i resting
    rw [lastAttempt, evaluate_try] at ok
    rcases andThen_ok ok with ⟨found, ⟨w1, n1⟩, asked, rest⟩
    change (reading (chances n) (latestAttemptOf row.runId w.ledger), w, n + 1) = _ at asked
    rcases Prod.mk.inj asked with ⟨read, same⟩
    cases same
    cases rest
    have held : latestAttemptOf row.runId w.ledger = found := reading_ok read
    refine ⟨fun running => absurd (decide_eq_true (.inr running)) resting, ?_⟩
    intro a given
    rcases Option.map_eq_some_iff.mp given with ⟨q, last, rfl⟩
    rw [last] at held
    have member := latestAttemptOf_mem held
    exact ⟨q, member.1, member.2, rfl⟩

theorem attachRun_kept {p : Preflight} {conversationId agent role : String}
    {parent : Option CanonicalRunId} {projector : LiveLedgerProjector} {w' : World} {m : Nat}
    (ok : (attachRun conversationId p.runId agent role parent).run.evaluate (alone env chances)
      (w, n) = (.ok projector, w', m)) (kept : w'.ledger = w.ledger) :
    ∃ row attempt, Attached p row w.ledger ∧ Started row w.ledger ∧
      projector = ⟨row.conversationId, row.runId, attempt⟩ ∧ HoldsAttempt row attempt w.ledger := by
  rw [attachRun, evaluate_try] at ok
  rcases andThen_ok ok with ⟨row, ⟨w1, n1⟩, created', ok⟩
  rw [evaluate_try] at ok
  rcases andThen_ok ok with ⟨_, ⟨w2, n2⟩, queued, ok⟩
  rw [evaluate_try] at ok
  rcases andThen_ok ok with ⟨attempt, ⟨w3, n3⟩, attempted, ok⟩
  cases ok
  have first := written_of (records_ledgerCall fun _ => rfl) created'
  have second := written_of (records_startQueued row) queued
  have third := written_of (records_attachedAttempt row) attempted
  rw [kept] at third
  have same2 := (first.trans second).pinned third
  rw [same2] at second third
  have same1 := first.pinned second
  rcases ledgerCall_ok created' with ⟨stamp, reply, done, read⟩
  rcases created read done with ⟨_, attached⟩ | other
  · have started := startQueued_kept queued (same2.trans same1.symm)
    have attempts := attachedAttempt_kept attempted (kept.trans same2.symm)
    rw [same2] at attempts
    exact ⟨row, attempt, attached, ⟨started, attempts.1⟩, rfl, attempts.2⟩
  · exact absurd (congrArg Tables.records same1) other

theorem attachRun_idle {p : Preflight} {conversationId agent role : String}
    {parent : Option CanonicalRunId} (attached : Attached p row w.ledger)
    (started : Started row w.ledger) :
    ∃ result m, (attachRun conversationId p.runId agent role parent).run.evaluate
      (alone env chances) (w, n) = (result, w, m) := by
  rcases attached with ⟨record, found, loaded⟩
  rw [attachRun, evaluate_try]
  have idle : ∀ stamp, Ledger.step env.sha256 env.serde w.ledger (.createRunWithId
      ⟨conversationId, parent.map Run.Id.asStr, agent, role⟩ p.runId.asStr ⟨p.runId.asStr⟩
      stamp) = w.ledger := fun stamp => recorded_idle rfl found
  rcases @ledgerCall_idle env chances w n _ asRun _ idle with ⟨result, same⟩
  rw [same]
  cases result with
  | error fault => exact ⟨_, _, rfl⟩
  | ok run =>
      rcases ledgerCall_ok same with ⟨stamp, reply, done, read⟩
      rcases created read done with ⟨_, record', found', loaded'⟩ | other
      · cases found.symm.trans found'
        cases loaded.symm.trans loaded'
        simp only [andThen]
        rw [evaluate_try, startQueued_idle started.begun, andThen, evaluate_try]
        rcases @attachedAttempt_idle env row chances w (n + 2) started with ⟨attempt, m, kept⟩
        rw [kept]
        cases attempt <;> exact ⟨_, _, rfl⟩
      · exact absurd rfl other

end Idle

/-- From call `n` on nothing fails, and the generated event ids are new. -/
def Fortunate (chances : Chances) (s : Tables) (n : Nat) : Prop :=
  ∀ k, n ≤ k → (chances k).fails = none ∧ Ledger.findEvent (chances k).stamp.eventId s = none

section Moving

variable {env : Setting} {chances : Chances} {row : Ledger.Run} {w : World} {n : Nat}

theorem ledgerAnswer_taken {chance : Chance} {op : Op} {reply : Reply} {s' : Tables}
    (sound : chance.fails = none) (ok : exec env.sha256 env.serde w.ledger op = .ok (reply, s')) :
    ledgerAnswer env chance w op = (.ok reply, w.setLedger s') := by
  simp only [ledgerAnswer, sound, ok, Ledger.step_ok ok]

theorem note_taken {attempt : Option Ledger.AttemptId} {event : RunEvent} {stamp : Stamp}
    (housed : Housed w.ledger) (found : loadRun row.runId w.ledger = some row)
    (owns : HoldsAttempt row attempt w.ledger) (left : ¬ Full row.conversationId w.ledger)
    (fresh : Ledger.findEvent stamp.eventId w.ledger = none)
    (pending : ¬ Noted row.runId event w.ledger) :
    ∃ reply s', exec env.sha256 env.serde w.ledger
        (noteOp env ⟨row.conversationId, row.runId, attempt⟩ event stamp) = .ok (reply, s') ∧
      footing w.ledger < footing s' := by
  have member := (lookup_mem found).1
  have unrecorded := not_not.mp pending
  have fits : Ledger.Fits ⟨stamp.eventId, row.conversationId, some row.runId, attempt, .systemNote,
      Ledger.eventSchemaVersion, env.payload event⟩ w.ledger := by
    refine ⟨fresh, housed row member, ?_, fun a given => ⟨row.runId, rfl, owns a given⟩⟩
    intro run named
    cases named
    exact ⟨row, member, rfl, rfl⟩
  rcases @Ledger.appendSystemNote_taken w.ledger row stamp env.sha256 env.serde _ _ _ unrecorded
    fits left with ⟨p, s', appended⟩
  refine ⟨.event p, s', congrArg (Ledger.replying Reply.event) appended, ?_⟩
  rw [Ledger.appendSystemNote, Ledger.appendOnce_eq] at appended
  rcases once_ok appended with ⟨_, idem, given, record, recorded, _⟩ | ⟨_, _, t, makes, rfl⟩
  · cases given
    cases unrecorded.symm.trans recorded
  · rcases Ledger.makeEvent_ok makes with ⟨_, _, _, rfl⟩
    simp [footing]

theorem projectAll_moves {attempt : Option Ledger.AttemptId} {events : List RunEvent}
    (housed : Housed w.ledger) (found : loadRun row.runId w.ledger = some row)
    (owns : HoldsAttempt row attempt w.ledger) (left : ¬ Full row.conversationId w.ledger)
    (fortunate : Fortunate chances w.ledger n)
    (pending : ∃ event ∈ events, ¬ Noted row.runId event w.ledger) :
    footing w.ledger < footing ((projectAll env ⟨row.conversationId, row.runId, attempt⟩
      events).evaluate (alone env chances) (w, n)).2.1.ledger := by
  induction events generalizing n with
  | nil =>
      rcases pending with ⟨event, member, _⟩
      cases member
  | cons event rest ih =>
      rw [projectAll, evaluate_bind, evaluate_project]
      simp only [evaluate_bind, evaluate_pure]
      by_cases noted : Noted row.runId event w.ledger
      · have later : ∃ event ∈ rest, ¬ Noted row.runId event w.ledger := by
          rcases pending with ⟨e, member, missing⟩
          rcases List.mem_cons.mp member with rfl | behind
          · exact absurd noted missing
          · exact ⟨e, behind, missing⟩
        rw [ledgerAnswer_same (note_idle (.inr noted))]
        exact ih (fun k after => fortunate k (by omega)) later
      · rcases @note_taken env row w attempt event (chances n).stamp housed found owns left
          (fortunate n le_rfl).2 noted with ⟨reply, s', done, more⟩
        rw [ledgerAnswer_taken (fortunate (n + 1) (Nat.le_succ n)).1 done]
        exact more.trans_le (@written_only env chances _ _ (records_projectAll env _ rest)
          (w.setLedger s') (n + 2)).le

theorem sealOp_taken {verdict : Run.Verdict} {stamp : Stamp} (housed : Housed w.ledger)
    (found : loadRun row.runId w.ledger = some row) (left : ¬ Full row.conversationId w.ledger)
    (fresh : Ledger.findEvent stamp.eventId w.ledger = none) (running : row.status = .running) :
    ∃ r s', exec env.sha256 env.serde w.ledger (sealOp row.runId verdict stamp) =
      .ok (.run r, s') ∧ footing w.ledger < footing s' := by
  have allowed : Ledger.runTransitionAllowed row.status (sealTarget verdict) = true := by
    rw [running]
    cases verdict <;> rfl
  cases verdict with
  | pass | fail | blocked | error =>
      rcases Ledger.setRunStatus_taken housed found fresh left allowed with ⟨r, s', moved⟩
      exact ⟨r, s', congrArg (Ledger.replying Reply.run) moved, status_grows moved⟩

theorem ledgerCall_moves {α : Type} {read : Reply → Option α} {op : Stamp → Op} {reply : Reply}
    {s' : Tables} (sound : (chances (n + 1)).fails = none)
    (done : exec env.sha256 env.serde w.ledger (op (chances n).stamp) = .ok (reply, s')) :
    ((ledgerCall read op).run.evaluate (alone env chances) (w, n)).2.1.ledger = s' := by
  rw [evaluate_ledgerCall, ledgerAnswer_taken sound done]
  rfl

theorem sealInner_moves {attempt : Option Ledger.AttemptId} {verdict : Run.Verdict}
    (housed : Housed w.ledger) (found : loadRun row.runId w.ledger = some row)
    (left : ¬ Full row.conversationId w.ledger) (fortunate : Fortunate chances w.ledger n)
    (begun : row.status ≠ .queued) (unsettled : ¬ Settled row.status verdict) :
    footing w.ledger < footing ((sealInner ⟨row.conversationId, row.runId, attempt⟩ verdict
      true).run.evaluate (alone env chances) (w, n)).2.1.ledger := by
  rcases not_or.mp unsettled with ⟨other, opened⟩
  have sound := (fortunate (n + 2) (by omega)).1
  have fresh := (fortunate (n + 1) (by omega)).2
  rw [sealInner, evaluate_try, evaluate_ledgerRun, found]
  simp only [reading, (fortunate n le_rfl).1, andThen, okOrThrow]
  rw [evaluate_try, evaluate_return]
  simp only [andThen]
  rw [if_neg other]
  by_cases interrupted : row.status = .interrupted
  · have sealing : Ledger.repairEvent (sealTarget verdict) ≠ none := by
      cases verdict <;> exact Option.some_ne_none _
    rcases Ledger.repairInterruptedRunToTerminal_taken housed found fresh left sealing interrupted
      with ⟨r, s', repaired⟩
    have done : exec env.sha256 env.serde w.ledger (.repairInterruptedRunToTerminal row.runId
        (sealTarget verdict) (chances (n + 1)).stamp) = .ok (.run r, s') :=
      congrArg (Ledger.replying Reply.run) repaired
    rw [if_pos ⟨trivial, interrupted⟩, evaluate_try]
    simp only [evaluate_return, andThen_drop]
    rw [@ledgerCall_moves env chances w (n + 1) _ asRun _ _ _ sound done]
    exact repair_grows repaired
  · have running : row.status = .running := by
      have unfinished : ¬ isSettled row.status = true := fun late => opened ⟨late, interrupted⟩
      cases status : row.status with
      | running => rfl
      | queued => exact absurd status begun
      | completed | failed | cancelled | interrupted | blocked | error =>
          rw [status] at unfinished
          exact absurd rfl unfinished
    rcases sealOp_taken housed found left fresh running with ⟨r, s', done, more⟩
    rw [if_neg fun both => interrupted both.2, if_neg fun late => opened ⟨late, interrupted⟩,
      evaluate_try]
    simp only [evaluate_return, andThen_drop]
    rw [@ledgerCall_moves env chances w (n + 1) _ asRun _ _ _ sound done]
    exact more

end Moving

end O7Formal.Dispatch
