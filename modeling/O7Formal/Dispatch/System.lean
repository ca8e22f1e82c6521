import O7Formal.Dispatch.Handler
import O7Formal.Ledger.Redrive
import O7Formal.Lib.Interleaving

/-! The world that handlers and continuation processes run on: one ledger, the record directories
and the run-id locks. A lock goes when its holder returns or dies; an operation of the ledger and an
append are single steps; a generated run id was never generated before. -/

namespace O7Formal.Dispatch

open Program
open O7Formal.Ledger (Op RunAttempt Stamp Tables)

structure Entry where
  party : Nat
  call : Call
  answer : call.Answer
  before : Tables
  after : Tables

structure World where
  ledger : Tables
  records : RunId → RecordDir
  locks : RunId → Option Nat
  issued : List (RunId × Nat)
  trace : List Entry

/-- What is open about an answer: the clock, a generated id, whether the call fails, whether one
that fails took effect, and what a process that is started finds. -/
structure Chance where
  stamp : Stamp
  clock : Option Int64
  generated : RunId
  fails : Option String
  applied : Bool
  outside : Outside

abbrev Chances := Nat → Chance

/-- `SELECT attempt_id FROM run_attempt WHERE run_id = ? AND status = 'running'` -/
def runningAttemptOf (runId : RunId) (s : Tables) : Option RunAttempt :=
  s.attempts.find? fun a => decide (a.runId = runId ∧ a.status = .running)

/-- `ORDER BY attempt_number DESC LIMIT 1` -/
def latestAttemptOf (runId : RunId) (s : Tables) : Option RunAttempt :=
  (s.attempts.filter fun a => decide (a.runId = runId)).foldl
    (fun best a => match best with
      | none => some a
      | some b => if b.attemptNumber < a.attemptNumber then some a else some b) none

def RecordFile.store (file : RecordFile) (dir : RecordDir) : RecordDir :=
  match file with
  | .ledgerBinding binding => { dir with ledgerBinding := .ok (some binding) }
  | .commandBinding binding bytes =>
      { dir with
        commandBinding := .ok (some binding)
        read := Function.update dir.read Run.commandBindingLocator (.ok bytes) }
  | .file locator bytes => { dir with read := Function.update dir.read locator (.ok bytes) }

def RecordDir.append (dir : RecordDir) (event : Run.RunEvent) : RecordDir :=
  { dir with events := dir.events.append event }

def World.setRecord (w : World) (runId : RunId) (dir : RecordDir) : World :=
  { w with records := Function.update w.records runId dir }

def World.setLedger (w : World) (s : Tables) : World := { w with ledger := s }

section Answering

variable (env : Setting)

def reading {α : Type} (chance : Chance) (a : α) : Except Fault α :=
  match chance.fails with
  | some why => .error (.io why)
  | none => .ok a

theorem reading_ok {α : Type} {chance : Chance} {a b : α} (read : reading chance a = .ok b) :
    a = b := by
  unfold reading at read
  split at read
  · cases read
  · cases read
    rfl

def doing (chance : Chance) (w done : World) : Except Fault Unit × World :=
  match chance.fails with
  | some why => (.error (.io why), if chance.applied then done else w)
  | none => (.ok (), done)

def ledgerAnswer (chance : Chance) (w : World) (op : Op) : Except Fault Ledger.Reply × World :=
  let done := w.setLedger (Ledger.step env.sha256 env.serde w.ledger op)
  match chance.fails with
  | some why => (.error (.io why), if chance.applied then done else w)
  | none =>
      match Ledger.exec env.sha256 env.serde w.ledger op with
      | .ok (reply, _) => (.ok reply, done)
      | .error e => (.error (.ledger e), done)

def lockAnswer (chance : Chance) (w : World) (i : Nat) (runId : RunId) : LockAnswer × World :=
  match chance.fails with
  | some errno => (.failed errno, w)
  | none =>
      if w.locks runId = none then
        (.acquired, { w with locks := Function.update w.locks runId (some i) })
      else (.wouldBlock, w)

def classifyAnswer (chance : Chance) (w : World) (runId : RunId) (command : Ledger.Command) :
    ChildRecordState :=
  match chance.fails with
  | some why => .invalid (.text ("resolving the record directory: " ++ why))
  | none => classifyCommandChild env.sha256 env.ext (w.records runId) runId command

def perform (chance : Chance) (w : World) (i : Nat) : (c : Call) → c.Answer × World
  | .stamp => (chance.stamp, w)
  | .clock => (chance.clock, w)
  | .ledger op => ledgerAnswer env chance w op
  | .command id => (reading chance (Ledger.loadCommand id w.ledger), w)
  | .run id => (reading chance (Ledger.loadRun id w.ledger), w)
  | .conversation id => (reading chance (Ledger.loadConversation id w.ledger), w)
  | .runningAttempt runId => (reading chance (runningAttemptOf runId w.ledger), w)
  | .latestAttempt runId => (reading chance (latestAttemptOf runId w.ledger), w)
  | .tryLock runId => lockAnswer chance w i runId
  | .generateRunId =>
      (chance.generated, { w with issued := w.issued ++ [(chance.generated, i)] })
  | .classify runId command => (classifyAnswer env chance w runId command, w)
  | .record runId => (w.records runId, w)
  | .write runId file => doing chance w (w.setRecord runId (file.store (w.records runId)))
  | .append runId event => doing chance w (w.setRecord runId ((w.records runId).append event))
  | .invoke _ _ | .spawn _ | .attempt _ => doing chance w w

def starts (chance : Chance) : Call → List (Code Unit)
  | .spawn args =>
      if chance.fails = none then [do let _ ← (continueRun env args chance.outside).run] else []
  | _ => []

def Fresh (chance : Chance) (w : World) : Call → Prop
  | .generateRunId => chance.generated ∉ w.issued.map Prod.fst
  | _ => True

instance (chance : Chance) (w : World) (c : Call) : Decidable (Fresh chance w c) :=
  match c with
  | .generateRunId => inferInstanceAs (Decidable (chance.generated ∉ w.issued.map Prod.fst))
  | .stamp | .clock | .ledger _ | .command _ | .run _ | .conversation _ | .runningAttempt _
  | .latestAttempt _ | .tryLock _ | .classify _ _ | .record _ | .write _ _ | .append _ _
  | .invoke _ _ | .spawn _ | .attempt _ => isTrue trivial

def respond (i : Nat) (c : Call) (chance : Chance) (w : World) :
    Option (c.Answer × World × List (Code Unit)) :=
  if Fresh chance w c then
    let (answer, w') := perform env chance w i c
    some (answer, { w' with trace := w'.trace ++ [⟨i, c, answer, w.ledger, w'.ledger⟩] },
      starts env chance c)
  else none

def release (i : Nat) (w : World) : World :=
  { w with locks := fun runId => if w.locks runId = some i then none else w.locks runId }

def system : Host Call Call.Answer World Chance CommandRequest where
  answer := respond env
  leave := release
  entry req := do let _ ← (createCommand env req).run

end Answering

def idle (ledger : Tables) (records : RunId → RecordDir) : Running Call Call.Answer World :=
  ⟨⟨ledger, records, fun _ => none, [], []⟩, []⟩

end O7Formal.Dispatch
