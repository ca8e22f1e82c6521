import O7Formal.Dispatch.Footprint
import O7Formal.Dispatch.System
import O7Formal.Ledger.Lifecycle
import O7Formal.Lib.Program

/-! The catch-up of a record on a ledger that nobody else uses: what it checks before it writes, and
what it writes before its last check. -/

namespace O7Formal.Dispatch

open Fallible Program Table
open O7Formal.Ledger (Op Reply RunStatus Stamp Tables appendOnce_eq createAttempt_ok
  createRunInner_eq exec loadRun loadRun_setRun makeEvent_ok makeRun_ok once_ok
  repairInterruptedRunToTerminal_ok replying_ok setRun setRunStatus_ok step_keeps)
open O7Formal.Run (RunEvent RunState)

structure Preflight where
  stream : List RunEvent
  state : RunState
  runId : CanonicalRunId
  target : AttachTarget
  parent : Option CanonicalRunId

def projectRecord (env : Setting) (dir : RecordDir) (p : Preflight)
    (projector : LiveLedgerProjector) : Fallible CatchUpError CatchUpReceipt := do
  let applied ← projectAll env projector p.stream
  let sealedToo ← liftM (sealVerdict projector p.state.verdict)
  let sessionBackfill ← backfill env dir p.state p.runId
  pure ⟨p.runId.asStr, p.target.conversationId, p.parent.map Run.Id.asStr, p.state.verdict,
    p.state.verdict.isSome, sessionBackfill, applied && sealedToo⟩

def applyRecord (env : Setting) (dir : RecordDir) (p : Preflight) :
    Fallible CatchUpError CatchUpReceipt := do
  let conversationId ← failingAs .ledger (openProjection p.target.conversationId)
  let projector ← failingAs .ledger
    (attachRun conversationId p.runId p.target.agent p.target.role p.parent)
  projectRecord env dir p projector

def checkIdentityGiven (env : Setting) (dir : RecordDir) (state : RunState) (runId : CanonicalRunId)
    (expected : Option ExpectedIdentity) : Except CatchUpError Unit :=
  match expected with
  | some identity => checkExpected env dir state runId identity
  | none => .ok ()

def catchUpWith (env : Setting) (recordRunId : RunId) (expected : Option ExpectedIdentity) :
    Fallible CatchUpError CatchUpReceipt := do
  let dir ← recordCall recordRunId
  let (stream, state) ← ofExcept (readStream env dir)
  let first ← ofExcept (okOr stream.head? (.verification
    (.text "events.jsonl has no events to catch up")))
  let binding ← ofExcept (dir.ledgerBinding.mapError
    fun why => CatchUpError.ledger (.io ("reading ledger_binding.json: " ++ why)))
  ofExcept (checkOwnBinding binding first.runId)
  let existing ← failingAs .ledger (ledgerRun first.runId.asStr)
  ofExcept (checkUnsealed state existing first.runId)
  let target ← ofExcept (attachTarget binding existing)
  ofExcept (checkIdentityGiven env dir state first.runId expected)
  let parent ← ofExcept (mintParent target.parentRunId)
  applyRecord env dir ⟨stream, state, first.runId, target, parent⟩

theorem catchUpRecord_eq (env : Setting) (recordRunId : RunId) (expected : ExpectedIdentity) :
    catchUpRecord env recordRunId expected = catchUpWith env recordRunId (some expected) := rfl

def preflight (env : Setting) (dir : RecordDir) (expected : Option ExpectedIdentity) (s : Tables) :
    Except CatchUpError Preflight := do
  let (stream, state) ← readStream env dir
  let first ← okOr stream.head? (.verification
    (.text "events.jsonl has no events to catch up"))
  let binding ← dir.ledgerBinding.mapError
    fun why => CatchUpError.ledger (.io ("reading ledger_binding.json: " ++ why))
  checkOwnBinding binding first.runId
  let existing := Ledger.loadRun first.runId.asStr s
  checkUnsealed state existing first.runId
  let target ← attachTarget binding existing
  checkIdentityGiven env dir state first.runId expected
  let parent ← mintParent target.parentRunId
  pure ⟨stream, state, first.runId, target, parent⟩

def alone (env : Setting) (chances : Chances) (c : Call) (s : World × Nat) :
    c.Answer × (World × Nat) :=
  let (answer, w) := perform env (chances s.2) s.1 0 c
  (answer, (w, s.2 + 1))

def resting (s : Tables) (records : RunId → RecordDir) : World :=
  ⟨s, records, fun _ => none, [], []⟩

def caughtUp (env : Setting) (chances : Chances) (recordRunId : RunId)
    (expected : Option ExpectedIdentity) (s : Tables) (records : RunId → RecordDir) :
    Except CatchUpError CatchUpReceipt × Tables :=
  let (result, w, _) := (catchUpWith env recordRunId expected).run.evaluate (alone env chances)
    (resting s records, 0)
  (result, w.ledger)

def sessionOf (runId : RunId) (s : Tables) : Option String :=
  (loadRun runId s).bind Ledger.Run.providerSessionId

def footing (s : Tables) : Nat := s.events.length + s.attempts.length

/-- From `s` to `t` nothing was written, or a row was added; no session has changed. -/
structure Written (s t : Tables) : Prop where
  grown : t = s ∨ footing s < footing t
  sessions : ∀ runId, sessionOf runId t = sessionOf runId s

theorem Written.refl (s : Tables) : Written s s := ⟨.inl rfl, fun _ => rfl⟩

theorem Written.trans {s t u : Tables} (first : Written s t) (second : Written t u) :
    Written s u := by
  refine ⟨?_, fun runId => (second.sessions runId).trans (first.sessions runId)⟩
  rcases first.grown with rfl | more
  · exact second.grown
  · rcases second.grown with rfl | further
    · exact .inr more
    · exact .inr (more.trans further)

theorem Written.le {s t : Tables} (written : Written s t) : footing s ≤ footing t := by
  rcases written.grown with rfl | more
  · exact le_refl _
  · exact more.le

theorem Written.pinned {s t : Tables} (first : Written s t) (second : Written t s) : t = s := by
  rcases first.grown with same | more
  · exact same
  · rcases second.grown with same | further
    · exact same.symm
    · exact absurd (more.trans further) (lt_irrefl _)

section Writing

variable {sha256 : Run.Sha256} {serde : Ledger.Serde} {s s' : Tables}

theorem sessions_setRun {named : RunId} {target : RunStatus} {finishedAt : Option Ledger.Millis}
    (runs : s'.runs = setRun named (Ledger.withStatus target finishedAt) s.runs) (runId : RunId) :
    sessionOf runId s' = sessionOf runId s := by
  have found : loadRun runId s' =
      (loadRun runId s).map fun r => if r.runId = named then
        Ledger.withStatus target finishedAt r else r := by
    have keeps : ∀ r, (Ledger.withStatus target finishedAt r).runId = r.runId := fun _ => rfl
    rw [loadRun, runs]
    exact loadRun_setRun keeps named
  rw [sessionOf, sessionOf, found]
  cases loadRun runId s with
  | none => rfl
  | some r =>
      simp only [Option.map_some, Option.bind_some]
      split <;> rfl

theorem status_grows {runId : RunId} {target : RunStatus} {eventType : Ledger.EventType}
    {stamp : Stamp} {r : Ledger.Run}
    (ok : Ledger.setRunStatus runId target eventType stamp s = .ok (r, s')) :
    footing s < footing s' := by
  rcases setRunStatus_ok ok with ⟨current, events, _, _, ⟨_, _, _, _, _, rfl⟩, rfl⟩
  simp only [footing, List.length_append, List.length_singleton]
  split <;> simp [Ledger.closeRunning, update]

theorem repair_grows {runId : RunId} {target : RunStatus} {stamp : Stamp} {r : Ledger.Run}
    (ok : Ledger.repairInterruptedRunToTerminal runId target stamp s = .ok (r, s')) :
    footing s < footing s' := by
  rcases repairInterruptedRunToTerminal_ok ok with ⟨_, _, _, _, _, ⟨_, _, _, _, _, rfl⟩, rfl⟩
  simp [footing, update]

theorem written_status {runId : RunId} {target : RunStatus} {eventType : Ledger.EventType}
    {stamp : Stamp} {r : Ledger.Run}
    (ok : Ledger.setRunStatus runId target eventType stamp s = .ok (r, s')) : Written s s' := by
  have grows := status_grows ok
  rcases setRunStatus_ok ok with ⟨_, _, _, _, _, rfl⟩
  exact ⟨.inr grows, sessions_setRun rfl⟩

theorem written_exec {op : Op} {reply : Reply} (recording : records op = true)
    (ok : exec sha256 serde s op = .ok (reply, s')) : Written s s' := by
  cases op with
  | createRunWithId request runId idempotency stamp =>
      rcases replying_ok ok with ⟨r, made, _⟩
      rw [Ledger.createRunWithId, createRunInner_eq] at made
      rcases once_ok made with ⟨rfl, _⟩ | ⟨_, reference, t, makes, rfl⟩
      · exact .refl _
      · rcases makeRun_ok makes with ⟨rfl, _, fits, events, ⟨_, _, _, _, _, rfl⟩, rfl⟩
        refine ⟨.inr ?_, fun named => ?_⟩
        · simp [footing]
        · rw [sessionOf, sessionOf, loadRun, lookup_append]
          split
          · rename_i same
            have absent : loadRun named s = none := by
              rw [← same]
              exact fits.fresh
            rw [absent, show lookup Ledger.Run.runId named s.runs = none from absent]
            rfl
          · rw [Option.or_none]
            rfl
  | startRun | completeRun | failRun | blockRun | errorRun =>
      rcases replying_ok ok with ⟨r, moved, _⟩
      exact written_status moved
  | createAttempt runId generated now =>
      rcases replying_ok ok with ⟨a, added, _⟩
      rcases createAttempt_ok added with ⟨_, _, _, _, _, rfl⟩
      refine ⟨.inr ?_, fun _ => rfl⟩
      simp [footing]
  | repairInterruptedRunToTerminal runId target stamp =>
      rcases replying_ok ok with ⟨r, repaired, _⟩
      have grows := repair_grows repaired
      rcases repairInterruptedRunToTerminal_ok repaired with ⟨_, _, _, _, _, _, rfl⟩
      exact ⟨.inr grows, sessions_setRun rfl⟩
  | appendSystemNote conversation run attempt payload idempotency stamp =>
      rcases replying_ok ok with ⟨p, appended, _⟩
      rw [Ledger.appendSystemNote, appendOnce_eq] at appended
      rcases once_ok appended with ⟨rfl, _⟩ | ⟨_, reference, t, makes, rfl⟩
      · exact .refl _
      · rcases makeEvent_ok makes with ⟨_, _, _, rfl⟩
        refine ⟨.inr ?_, fun _ => rfl⟩
        simp [footing]
  | _ => cases recording

theorem written_step {op : Op} (recording : records op = true) :
    Written s (Ledger.step sha256 serde s op) :=
  step_keeps (.refl s) fun _ _ ok => written_exec recording ok

end Writing

theorem written_only {env : Setting} {chances : Chances} {α : Type} {x : Code α}
    (only : Only Records x) (w : World) (n : Nat) :
    Written w.ledger (x.evaluate (alone env chances) (w, n)).2.1.ledger := by
  apply evaluate_only (alone env chances) only
    (motive := fun s : World × Nat => Written w.ledger s.1.ledger)
  · intro c s recording so
    cases c with
    | ledger op =>
        have next := so.trans (@written_step env.sha256 env.serde s.1.ledger op recording)
        simp only [alone, perform, ledgerAnswer]
        split
        · split
          · exact next
          · exact so
        · split <;> exact next
    | stamp | run _ | conversation _ | runningAttempt _ | latestAttempt _ => exact so
    | _ => cases recording
  · exact .refl _

theorem written_of {env : Setting} {chances : Chances} {α : Type} {x : Code α}
    (only : Only Records x) {w w' : World} {n m : Nat} {a : α}
    (ran : x.evaluate (alone env chances) (w, n) = (a, w', m)) : Written w.ledger w'.ledger := by
  have written := @written_only env chances _ _ only w n
  rw [ran] at written
  exact written

end O7Formal.Dispatch
