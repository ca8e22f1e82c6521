import O7Formal.Dispatch.Footprint
import O7Formal.Dispatch.System

/-! What a handler and a continuation process may do, given what they have learnt: the lock they
hold, the command bound to its run, whether that run's record shows a dispatch, the run id they
generated. Both programs obey. -/

namespace O7Formal.Dispatch

open Program
open O7Formal.Ledger (CommandId Op)

structure Mode where
  held : Option RunId
  bound : Option CommandId
  started : Bool
  unstarted : Bool
  fresh : Option RunId
  wrote : Bool
  refused : Bool

def Mode.start : Mode := ⟨none, none, false, false, none, false, false⟩

/-- Only the compare-and-swap rebinds, and only away from a run whose lock is held and whose record
shows no dispatch; a process for a bound run does not rebind. -/
def Mode.mayRun (m : Mode) : Op → Prop
  | .rebindCommandChildRun .. | .reconcileCompletedCommands _ => False
  | .rebindCommandChildRunIfCurrent _ old _ _ _ =>
      m.held = some old ∧ m.unstarted = true ∧ m.bound = none
  | _ => True

def Mode.permits (m : Mode) : Call → Prop
  | .ledger op => m.refused = false ∧ m.mayRun op
  | .tryLock _ => m.held = none
  | .classify _ _ => m.wrote = false
  | .write runId _ | .append runId _ => m.held = some runId
  | .invoke commandId runId =>
      m.held = some runId ∧ m.bound = some commandId ∧ m.started = true
  | .spawn args => m.fresh = some args.runId
  | _ => True

/-- A replayed acceptance of a command that is bound: nothing was written. -/
def replays : Op → Except Fault Ledger.Reply → Bool
  | .createCommand .., .ok (.command row) => row.childRunId.isSome
  | _, _ => false

def Mode.learns (m : Mode) : (c : Call) → c.Answer → Mode
  | .ledger op, answer => { m with wrote := m.wrote || !replays op answer }
  | .command id, .ok (some row) =>
      if m.held ≠ none ∧ row.childRunId = m.held then { m with bound := some id } else m
  | .tryLock runId, .acquired =>
      { m with held := some runId, bound := none, started := false, unstarted := false }
  | .generateRunId, runId => { m with fresh := some runId }
  | .classify runId _, state =>
      { m with
        unstarted := m.unstarted || decide (m.held = some runId) && state.redrivable
        refused := m.refused || state.refuses }
  | .append _ event, answer =>
      { m with
        started := m.started || answer.isOk && decide (event.kind = .agentStarted)
        unstarted := false }
  | .spawn _, _ => { m with fresh := none }
  | _, _ => m

/-- A rebinding that went through answers with the row that is bound to the fresh run. -/
def answers : (c : Call) → c.Answer → Prop
  | .ledger (.rebindCommandChildRunIfCurrent _ _ _ freshRunId _), answer =>
      ∀ row, answer = .ok (.rebind (.rebound row)) → row.childRunId = some freshRunId
  | _, _ => True

def protocol : Protocol Call Call.Answer Mode := ⟨Mode.permits, answers, Mode.learns⟩

/-- A kind of mode that ledger operations other than a rebinding keep. -/
structure Calm (kind : Mode → Prop) : Prop where
  open_ : ∀ m, kind m → m.refused = false
  wrote : ∀ m b, kind m → kind { m with wrote := b }

abbrev Stays {α : Type} (kind : Mode → Prop) (x : Code α) : Prop := Keeps protocol kind x

section Stays

variable {kind : Mode → Prop} {α : Type}

theorem stays_idle {c : Call} (permitted : ∀ m : Mode, m.permits c)
    (learns : ∀ (m : Mode) r, m.learns c r = m) : Stays kind (ask c) := by
  apply keeps_perform
  · exact fun m _ => permitted m
  · intro m r held
    change kind (m.learns c r)
    rw [learns m r]
    exact held

theorem stays_stamp : Stays kind stampCall := stays_idle (fun _ => trivial) fun _ _ => rfl
theorem stays_clock : Stays kind clockCall := stays_idle (fun _ => trivial) fun _ _ => rfl
theorem stays_record (runId : RunId) : Stays kind (recordCall runId) :=
  stays_idle (fun _ => trivial) fun _ _ => rfl
theorem stays_attempt (what : String) : Stays kind (attempt what).run :=
  stays_idle (fun _ => trivial) fun _ _ => rfl

theorem plain_mayRun {op : Op} (plain : rebinds op = false) (m : Mode) : m.mayRun op := by
  cases op <;> first | exact trivial | cases plain

theorem stays_projects (calm : Calm kind) {x : Code α} (only : Only Projects x) :
    Stays kind x := by
  apply keeps_of_only only
  · intro m c held listed
    cases c <;> first
      | exact ⟨calm.open_ m held, plain_mayRun listed m⟩
      | exact trivial
      | cases listed
  · intro m c r held listed
    cases c <;> first
      | exact calm.wrote m _ held
      | exact held
      | cases listed

end Stays

theorem obeys_okOrThrow {α : Type} {x : Option α} {why : String} {m : Mode}
    {post : Except Fault α → Mode → Prop} (found : ∀ a, x = some a → post (.ok a) m)
    (missing : post (.error (.refused why)) m) :
    (okOrThrow x why).run.Obeys protocol m post := by
  cases x with
  | none => exact missing
  | some a => exact found a rfl

theorem obeys_ofExcept {ε α : Type} {x : Except ε α} {m : Mode} {post : Except ε α → Mode → Prop}
    (fits : post x m) : (ofExcept x).run.Obeys protocol m post := fits

end O7Formal.Dispatch
