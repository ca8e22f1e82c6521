import O7Formal.Dispatch.System
import O7Formal.Lib.Program

/-! The failure exits of a continuation process that owns its run, whatever others do to the ledger
meanwhile. Two of its steps reject the command when they fail; the other three just return. -/

namespace O7Formal.Dispatch

open Fallible Program Table
open O7Formal.Ledger (Command Keys Op Tables boundTo loadCommand loadRun)

/-- The world after the last call, with the ledger that the call found and whether it was reached. -/
structure Scene where
  world : World
  before : Tables
  reached : Bool
  calls : Nat

def reaches (chance : Chance) : Call → Bool
  | .ledger _ | .command _ | .run _ | .conversation _ | .runningAttempt _ | .latestAttempt _ =>
      chance.fails.isNone
  | _ => true

section Amid

variable (env : Setting) (chances : Chances) (others : Nat → List Op)

def arrive (scene : Scene) : World :=
  scene.world.setLedger
    (Ledger.run env.sha256 env.serde scene.world.ledger (others scene.calls))

def amid (c : Call) (scene : Scene) : c.Answer × Scene :=
  let w := arrive env others scene
  let (answer, w') := perform env (chances scene.calls) w 0 c
  (answer, ⟨w', w.ledger, reaches (chances scene.calls) c, scene.calls + 1⟩)

/-- The ledger that call `k` finds while the process itself writes nothing. -/
def foundBy (s : Tables) : Nat → Tables
  | 0 => Ledger.run env.sha256 env.serde s (others 0)
  | k + 1 => Ledger.run env.sha256 env.serde (foundBy s k) (others (k + 1))

end Amid

def Stranded (a : ContinueArgs) (s : Tables) : Prop :=
  ∃ c, loadCommand a.commandId s = some c ∧ boundTo a.runId c = true ∧ loadRun a.runId s = none

/-- A stranded command is rejected; the command of a run that has a row is left alone. -/
structure Settles (a : ContinueArgs) (s t : Tables) : Prop where
  rejected : ∀ c, loadCommand a.commandId s = some c → boundTo a.runId c = true →
    loadRun a.runId s = none →
    ∃ now, loadCommand a.commandId t = some { c with status := .rejected, updatedAt := now }
  kept : loadRun a.runId s ≠ none → loadCommand a.commandId t = loadCommand a.commandId s

theorem settles_same {a : ContinueArgs} {s : Tables} : Settles a s s ↔ ¬ Stranded a s := by
  constructor
  · intro settles stranded
    rcases stranded with ⟨c, found, bound, unattached⟩
    rcases settles.rejected c found bound unattached with ⟨now, again⟩
    rw [found] at again
    have status := congrArg Command.status (Option.some.inj again)
    simp only at status
    simp [boundTo, status, Ledger.CommandStatus.inFlight] at bound
  · intro unstranded
    refine ⟨?_, fun _ => rfl⟩
    intro c found bound unattached
    exact absurd ⟨c, found, bound, unattached⟩ unstranded

/-- The process holds the lock of its run and has seen the command bound to it. -/
structure HoldsRun (env : Setting) (chances : Chances) (others : Nat → List Op) (a : ContinueArgs)
    (w : World) : Prop where
  opened : (chances 0).fails = none
  locked : (chances 1).fails = none ∧ w.locks a.runId = none
  bound : (chances 2).fails = none ∧
    (loadCommand a.commandId (foundBy env others w.ledger 2)).bind Command.childRunId =
      some a.runId

def ParentFits (a : ContinueArgs) (s : Tables) : Prop :=
  ∃ parent session, loadRun a.parentRunId s = some parent ∧
    parent.conversationId = a.conversationId ∧ parent.providerSessionId = some session ∧
    checkProviderSession session = .ok ()

/-- The process stops at call `k`, which nothing guards. -/
inductive Unguarded (env : Setting) (chances : Chances) (others : Nat → List Op)
    (a : ContinueArgs) (s : Tables) : Nat → Prop
  | manifest : (chances 3).fails ≠ none → Unguarded env chances others a s 3
  | parent : (chances 3).fails = none → (chances 4).fails = none →
      ¬ ParentFits a (foundBy env others s 4) → Unguarded env chances others a s 4
  | worktreeRoot : (chances 3).fails = none → (chances 4).fails = none →
      ParentFits a (foundBy env others s 4) → (chances 5).fails = none →
      (chances 6).fails ≠ none → Unguarded env chances others a s 6

theorem Unguarded.unique {env : Setting} {chances : Chances} {others : Nat → List Op}
    {a : ContinueArgs} {s : Tables} {k k' : Nat} (one : Unguarded env chances others a s k)
    (other : Unguarded env chances others a s k') : k = k' := by
  cases one with
  | manifest failed =>
      cases other with
      | manifest => rfl
      | parent sound | worktreeRoot sound => exact absurd sound failed
  | parent sound _ unfit =>
      cases other with
      | manifest failed => exact absurd sound failed
      | parent => rfl
      | worktreeRoot _ _ fits => exact absurd fits unfit
  | worktreeRoot sound _ fits _ _ =>
      cases other with
      | manifest failed => exact absurd sound failed
      | parent _ _ unfit => exact absurd fits unfit
      | worktreeRoot => rfl

/-- The process stops at such a call while its command is stranded. -/
def Abandons (env : Setting) (chances : Chances) (others : Nat → List Op) (a : ContinueArgs)
    (w : World) : Prop :=
  HoldsRun env chances others a w ∧ ∃ k, Unguarded env chances others a w.ledger k ∧
    Stranded a (foundBy env others w.ledger k)

def Scene.start (w : World) : Scene := ⟨w, w.ledger, true, 0⟩

/-- Once the process owns its run, an error that it ends with leaves no stranded command. -/
def FailsCleanly (env : Setting) (chances : Chances) (others : Nat → List Op) (a : ContinueArgs)
    (o : Outside) (w : World) : Prop :=
  HoldsRun env chances others a w → ∀ e scene,
    (continueRun env a o).run.evaluate (amid env chances others) (.start w) = (.error e, scene) →
    scene.reached = true → Settles a scene.before scene.world.ledger

theorem rejection_taken {commandId : Ledger.CommandId} {runId : RunId} {now : Ledger.Millis}
    {s : Tables} {c next : Command} (keyed : Keyed Command.commandId s.commands)
    (found : loadCommand commandId s = some c) (bound : boundTo runId c = true)
    (unattached : loadRun runId s = none)
    (rejected : next = { c with status := .rejected, updatedAt := now }) :
    Ledger.markCommandRejectedIfUnattachedAndBound commandId runId now s =
        .ok (.rejected next, Ledger.put next s) ∧
      loadCommand commandId (Ledger.put next s) = some next := by
  have named : next.commandId = commandId := by
    rw [rejected]
    exact (lookup_mem found).2
  have reloaded : loadCommand commandId (Ledger.put next s) = some next := by
    rw [← named] at found ⊢
    exact Ledger.loadCommand_put_self found
  refine ⟨?_, reloaded⟩
  have one : Ledger.updateOne (fun c => decide (c.commandId = commandId) &&
      (boundTo runId c && decide (loadRun runId s = none)))
      (fun c => { c with status := .rejected, updatedAt := now }) s = (true, Ledger.put next s) := by
    rw [Ledger.updateOne_eq keyed found _ rfl, rejected, if_pos (by simp [bound, unattached])]
  rw [Ledger.markCommandRejectedIfUnattachedAndBound]
  simp only [found, bound, Bool.true_eq_false, if_false, Bool.and_assoc, one, Ledger.commandLeft,
    reloaded]
  rfl

theorem rejection_settles {a : ContinueArgs} {env : Setting} {now : Ledger.Millis} {s : Tables}
    (keyed : Keyed Command.commandId s.commands) :
    Settles a s (Ledger.step env.sha256 env.serde s
      (.markCommandRejectedIfUnattachedAndBound a.commandId a.runId now)) := by
  constructor
  · intro c found bound unattached
    have taken := @rejection_taken _ _ now _ _ _ keyed found bound unattached rfl
    have done : Ledger.exec env.sha256 env.serde s
        (.markCommandRejectedIfUnattachedAndBound a.commandId a.runId now) = .ok (_, _) :=
      congrArg (Ledger.replying Ledger.Reply.rejection) taken.1
    rw [Ledger.step_ok done]
    exact ⟨now, taken.2⟩
  · intro attached
    apply Ledger.step_keeps (motive := fun t => loadCommand a.commandId t =
      loadCommand a.commandId s) rfl
    intro reply s' ok
    rcases Ledger.replying_ok ok with ⟨outcome, done, _⟩
    rcases Ledger.markCommandRejectedIfUnattachedAndBound_ok keyed done with
      ⟨same, _⟩ | ⟨_, _, _, _, unattached, _⟩
    · rw [same]
    · exact absurd unattached attached

section Exits

variable {env : Setting} {chances : Chances} {others : Nat → List Op} {a : ContinueArgs}
  {o : Outside} {scene scene' : Scene}

theorem amid_keys (c : Call) (scene : Scene) (keys : Keys scene.world.ledger) :
    Keys (amid env chances others c scene).2.before ∧
      Keys (amid env chances others c scene).2.world.ledger := by
  have arrived : Keys (arrive env others scene).ledger := (Ledger.run_grows keys _).1
  refine ⟨arrived, ?_⟩
  cases c with
  | ledger op =>
      have stepped := (@Ledger.step_grows env.sha256 env.serde _ arrived op).1
      simp only [amid, perform, ledgerAnswer]
      split
      · split
        · exact stepped
        · exact arrived
      · split <;> exact stepped
  | tryLock runId =>
      simp only [amid, perform, lockAnswer]
      split
      · exact arrived
      · split <;> exact arrived
  | write _ _ | append _ _ | invoke _ _ | spawn _ | attempt _ =>
      simp only [amid, perform, doing]
      split
      · split <;> exact arrived
      · exact arrived
  | stamp | clock | command _ | run _ | conversation _ | runningAttempt _ | latestAttempt _
  | generateRunId | classify _ _ | record _ => exact arrived

theorem evaluate_amid {α : Type} (read : Ledger.Reply → Option α) (op : Ledger.Stamp → Op) :
    ((ledgerCall read op).run.evaluate (amid env chances others) scene).2 =
      (amid env chances others (.ledger (op (chances scene.calls).stamp))
        (amid env chances others .stamp scene).2).2 := by
  rw [ledgerCall, evaluate_try, evaluate_lift]
  change ((ledgerOp (op (chances scene.calls).stamp) >>= fun reply =>
    okOrThrow (read reply) "unexpected reply").run.evaluate (amid env chances others)
      (amid env chances others .stamp scene).2).2 = _
  rw [evaluate_try]
  change (andThen (amid env chances others (.ledger (op (chances scene.calls).stamp)) _) _).2 = _
  rcases amid env chances others (.ledger (op (chances scene.calls).stamp))
    (amid env chances others .stamp scene).2 with ⟨answer, later⟩
  cases answer with
  | error fault => rfl
  | ok reply =>
      simp only [andThen, okOrThrow]
      cases read reply <;> rfl

theorem guarded {e e' : Fault} (keys : Keys scene.world.ledger)
    (failed : (do
        markRejectedIfUnattached a
        throw e : Fallible Fault Unit).run.evaluate (amid env chances others) scene =
      (.error e', scene')) (reached : scene'.reached = true) :
    Settles a scene'.before scene'.world.ledger := by
  rw [evaluate_try, evaluate_lift, markRejectedIfUnattached, evaluate_bind, evaluate_amid] at failed
  cases failed
  have stamped := (@amid_keys env chances others .stamp scene keys).2
  have arrived : Keys (arrive env others (amid env chances others .stamp scene).2).ledger :=
    (Ledger.run_grows stamped _).1
  have sound : (chances (scene.calls + 1)).fails = none := Option.isNone_iff_eq_none.mp reached
  simp only [amid, perform, ledgerAnswer, sound] at arrived ⊢
  split <;> exact rejection_settles arrived.commands

/-- So far the process has written nothing, and call `k` is next. -/
structure Along (env : Setting) (others : Nat → List Op) (s : Tables) (k : Nat) (scene : Scene) :
    Prop where
  calls : scene.calls = k
  ledger : (arrive env others scene).ledger = foundBy env others s k

variable {s : Tables} {k : Nat}

def Call.quiet : Call → Bool
  | .ledger _ => false
  | _ => true

theorem amid_quiet {c : Call} (quiet : c.quiet = true)
    (along : Along env others s k scene) :
    (amid env chances others c scene).2.before = foundBy env others s k ∧
      (amid env chances others c scene).2.world.ledger = foundBy env others s k ∧
      Along env others s (k + 1) (amid env chances others c scene).2 := by
  have kept : (amid env chances others c scene).2.world.ledger = foundBy env others s k := by
    rw [← along.ledger]
    cases c with
    | ledger op => cases quiet
    | tryLock runId =>
        simp only [amid, perform, lockAnswer]
        split
        · rfl
        · split <;> rfl
    | write _ _ | append _ _ | invoke _ _ | spawn _ | attempt _ =>
        simp only [amid, perform, doing]
        split
        · split <;> rfl
        · rfl
    | stamp | clock | command _ | run _ | conversation _ | runningAttempt _ | latestAttempt _
    | generateRunId | classify _ _ | record _ => rfl
  have counted : (amid env chances others c scene).2.calls = k + 1 :=
    congrArg (· + 1) along.calls
  refine ⟨along.ledger, kept, counted, ?_⟩
  rw [arrive, World.setLedger, kept, counted]
  rfl

def attempted (chance : Chance) : Except Fault Unit :=
  match chance.fails with
  | some why => .error (.io why)
  | none => .ok ()

theorem evaluate_attempt (what : String) (along : Along env others s k scene) :
    (attempt what).run.evaluate (amid env chances others) scene =
      (attempted (chances k), (amid env chances others (.attempt what) scene).2) := by
  have answer : (amid env chances others (.attempt what) scene).1 =
      attempted (chances scene.calls) := by
    simp only [amid, perform, doing, attempted]
    cases (chances scene.calls).fails <;> rfl
  rw [← along.calls, ← answer]
  rfl

theorem evaluate_checkParent (along : Along env others s k scene) : ∃ result,
    (checkParent a).run.evaluate (amid env chances others) scene =
      (result, (amid env chances others (.run a.parentRunId) scene).2) ∧
    (result = .ok () ↔ (chances k).fails = none ∧ ParentFits a (foundBy env others s k)) := by
  have answer : (amid env chances others (.run a.parentRunId) scene).1 =
      reading (chances k) (loadRun a.parentRunId (foundBy env others s k)) := by
    rw [← along.ledger, ← along.calls]
    rfl
  rw [checkParent, evaluate_try]
  change ∃ result, andThen ((amid env chances others (.run a.parentRunId) scene).1,
    (amid env chances others (.run a.parentRunId) scene).2) _ = _ ∧ _
  rw [answer, reading]
  cases fails : (chances k).fails with
  | some why => exact ⟨_, rfl, by simp⟩
  | none =>
  simp only [andThen]
  cases found : loadRun a.parentRunId (foundBy env others s k) with
  | none => exact ⟨_, rfl, by simp [ParentFits, found]⟩
  | some parent =>
  simp only [evaluate_try, okOrThrow, evaluate_return, andThen, ensure]
  by_cases same : parent.conversationId = a.conversationId
  · simp only [if_pos same, evaluate_return]
    cases given : parent.providerSessionId with
    | none => exact ⟨_, rfl, by simp [ParentFits, found, given]⟩
    | some session =>
        simp only [evaluate_return]
        cases checked : checkProviderSession session with
        | error why => exact ⟨_, rfl, by simp [ParentFits, found, given, checked, Except.mapError]⟩
        | ok _ => exact ⟨_, rfl, by simp [ParentFits, found, given, checked, same, Except.mapError]⟩
  · simp only [if_neg same]
    exact ⟨_, rfl, by simp [ParentFits, found, same]⟩

theorem dispatch_exits (keys : Keys scene.world.ledger) (along : Along env others s 3 scene) :
    (∃ k e scene', Unguarded env chances others a s k ∧
      (dispatchRun env a o).run.evaluate (amid env chances others) scene = (.error e, scene') ∧
      scene'.reached = true ∧ scene'.before = foundBy env others s k ∧
      scene'.world.ledger = foundBy env others s k) ∨
    (∀ k, ¬ Unguarded env chances others a s k) ∧ ∀ e scene',
      (dispatchRun env a o).run.evaluate (amid env chances others) scene = (.error e, scene') →
      scene'.reached = true → Settles a scene'.before scene'.world.ledger := by
  rw [dispatchRun, evaluate_try, evaluate_attempt _ along, attempted]
  have first := @amid_quiet env chances others _ _ _ (.attempt "loading the gate manifest") rfl
    along
  cases manifest : (chances 3).fails with
  | some why =>
      exact .inl ⟨3, _, _, .manifest (by simp [manifest]), rfl, rfl, first.1, first.2.1⟩
  | none =>
  simp only [andThen]
  rw [evaluate_try]
  have second := @amid_quiet env chances others _ _ _ (.run a.parentRunId) rfl first.2.2
  rcases @evaluate_checkParent env chances others a _ _ _ first.2.2 with ⟨checked, same, fits⟩
  have counted : (amid env chances others (.attempt "loading the gate manifest") scene).2.calls =
      4 := first.2.2.calls
  rw [same]
  cases checked with
  | error e =>
      simp only [reduceCtorEq, false_iff, not_and] at fits
      cases lookup : (chances 4).fails with
      | none =>
          refine .inl ⟨4, _, _, .parent manifest lookup (fits lookup), rfl, ?_, second.1, second.2.1⟩
          simp only [amid, reaches] at counted ⊢
          rw [counted, lookup]
          rfl
      | some why =>
          refine .inr ⟨?_, ?_⟩
          · rintro _ (failed | ⟨_, sound, _⟩ | ⟨_, sound, _⟩)
            · exact failed manifest
            · rw [lookup] at sound
              cases sound
            · rw [lookup] at sound
              cases sound
          · intro e' scene' ended reached
            cases ended
            simp only [amid, reaches] at counted reached
            rw [counted, lookup] at reached
            cases reached
  | ok _ =>
  rcases fits.mp rfl with ⟨lookup, fits⟩
  simp only [andThen]
  have third := @amid_quiet env chances others _ _ _
    (.attempt "resolving the parent's candidate-state contract obligation") rfl second.2.2
  rw [evaluate_try, caught, evaluate_lift, evaluate_attempt _ second.2.2, attempted]
  simp only [andThen]
  have keys6 := (@amid_keys env chances others
    (.attempt "resolving the parent's candidate-state contract obligation") _
    ((@amid_keys env chances others (.run a.parentRunId) _
      (@amid_keys env chances others (.attempt "loading the gate manifest") _ keys).2).2)).2
  cases resolved : (chances 5).fails with
  | some why =>
      refine .inr ⟨?_, fun e scene' ended reached => guarded keys6 ended reached⟩
      rintro _ (failed | ⟨_, _, unfit⟩ | ⟨_, _, _, sound, _⟩)
      · exact failed manifest
      · exact unfit fits
      · rw [resolved] at sound
        cases sound
  | none =>
  simp only
  rw [evaluate_try, evaluate_attempt _ third.2.2, attempted]
  have fourth := @amid_quiet env chances others _ _ _ (.attempt "creating the worktree root") rfl
    third.2.2
  have keys7 := (@amid_keys env chances others (.attempt "creating the worktree root") _ keys6).2
  cases made : (chances 6).fails with
  | some why =>
      exact .inl ⟨6, _, _, .worktreeRoot manifest lookup fits resolved (by simp [made]), rfl, rfl,
        fourth.1, fourth.2.1⟩
  | none =>
  refine .inr ⟨?_, ?_⟩
  · rintro _ (failed | ⟨_, _, unfit⟩ | ⟨_, _, _, _, failed⟩)
    · exact failed manifest
    · exact unfit fits
    · exact failed made
  · intro e scene' ended reached
    simp only [andThen] at ended
    rw [evaluate_try, caught, evaluate_lift] at ended
    have kept := evaluate_keeps (amid env chances others)
      (motive := fun scene => Keys scene.world.ledger)
      (fun c scene keys => (amid_keys c scene keys).2)
      (continueExecute env a o { o.contract with candidateState := some o.obligation }).run keys7
    rcases executed : (continueExecute env a o
      { o.contract with candidateState := some o.obligation }).run.evaluate
        (amid env chances others) _ with ⟨result, later⟩
    rw [executed] at ended kept
    cases result with
    | error why => exact guarded kept ended reached
    | ok sealed =>
        simp only [andThen] at ended
        rw [evaluate_try, caught, evaluate_lift] at ended
        cases ended

theorem evaluate_lockCall {runId : RunId} (along : Along env others s k scene)
    (sound : (chances k).fails = none) (free : (arrive env others scene).locks runId = none) :
    (lockCall runId).evaluate (amid env chances others) scene =
      (LockAnswer.acquired, (amid env chances others (.tryLock runId) scene).2) := by
  have answer : (amid env chances others (.tryLock runId) scene).1 = LockAnswer.acquired := by
    rw [← along.calls] at sound
    rw [amid, perform, lockAnswer]
    simp only [sound, free, if_true]
    rfl
  rw [← answer]
  rfl

theorem evaluate_stillBound (along : Along env others s k scene)
    (sound : (chances k).fails = none)
    (bound : (loadCommand a.commandId (foundBy env others s k)).bind Command.childRunId =
      some a.runId) :
    (commandStillBoundToThisRun a).run.evaluate (amid env chances others) scene =
      (.ok true, (amid env chances others (.command a.commandId) scene).2) := by
  have answer : (amid env chances others (.command a.commandId) scene).1 =
      Except.ok (loadCommand a.commandId (foundBy env others s k)) := by
    rw [← along.calls] at sound
    rw [← along.ledger]
    change reading (chances scene.calls) _ = _
    rw [reading, sound]
  rw [commandStillBoundToThisRun, evaluate_try]
  change andThen ((amid env chances others (.command a.commandId) scene).1,
    (amid env chances others (.command a.commandId) scene).2) _ = _
  rw [answer]
  simp only [andThen, evaluate_return, bound, decide_true]

theorem owns_dispatch {w : World} (owns : HoldsRun env chances others a w) (keys : Keys w.ledger) :
    ∃ scene, Along env others w.ledger 3 scene ∧ Keys scene.world.ledger ∧
      (continueRun env a o).run.evaluate (amid env chances others) (.start w) =
        (dispatchRun env a o).run.evaluate (amid env chances others) scene := by
  have along : Along env others w.ledger 0 (.start w) := ⟨rfl, rfl⟩
  have first := @amid_quiet env chances others _ _ _ (.attempt "opening the lock file") rfl along
  have second := @amid_quiet env chances others _ _ _ (.tryLock a.runId) rfl first.2.2
  have third := @amid_quiet env chances others _ _ _ (.command a.commandId) rfl second.2.2
  have held := @amid_keys env chances others (.command a.commandId) _
    (@amid_keys env chances others (.tryLock a.runId) _
      (@amid_keys env chances others (.attempt "opening the lock file") (.start w) keys).2).2
  have free : (arrive env others (amid env chances others (.attempt "opening the lock file")
      (.start w)).2).locks a.runId = none := by
    rw [← owns.locked.2]
    simp only [amid, perform, doing]
    split
    · split <;> rfl
    · rfl
  refine ⟨_, third.2.2, held.2, ?_⟩
  rw [continueRun, evaluate_try, evaluate_attempt _ along, attempted, owns.opened]
  simp only [andThen]
  rw [evaluate_try, evaluate_lift, evaluate_lockCall first.2.2 owns.locked.1 free]
  simp only [andThen]
  rw [evaluate_try, evaluate_stillBound second.2.2 owns.bound.1 owns.bound.2]
  rfl

end Exits

theorem abandons_unclean {env : Setting} {chances : Chances} {others : Nat → List Op}
    {a : ContinueArgs} {o : Outside} {w : World} (keys : Keys w.ledger)
    (abandons : Abandons env chances others a w) : ¬ FailsCleanly env chances others a o w := by
  rcases abandons with ⟨owns, k, unguarded, stranded⟩
  intro clean
  rcases @owns_dispatch env chances others a o w owns keys with ⟨scene, along, held, same⟩
  rcases @dispatch_exits env chances others a o scene _ held along with
    ⟨k', e, scene', unguarded', ended, reached, before, after⟩ | ⟨none, _⟩
  · have settles := clean owns e scene' (same.trans ended) reached
    rw [before, after] at settles
    rw [unguarded.unique unguarded'] at stranded
    exact settles_same.mp settles stranded
  · exact none k unguarded

/-- The failures of a continuation process are clean, unless it stops at an unguarded step while its
command is stranded. -/
theorem fails_cleanly_iff (env : Setting) (chances : Chances) (others : Nat → List Op)
    (a : ContinueArgs) (o : Outside) (ops : List Op) (w : World) :
    FailsCleanly env chances others a o
        (w.setLedger (Ledger.run env.sha256 env.serde .empty ops)) ↔
      ¬ Abandons env chances others a
        (w.setLedger (Ledger.run env.sha256 env.serde .empty ops)) := by
  have keys : Keys (w.setLedger (Ledger.run env.sha256 env.serde .empty ops)).ledger :=
    Ledger.reachable_keys ⟨ops, rfl⟩
  generalize w.setLedger (Ledger.run env.sha256 env.serde .empty ops) = w at keys ⊢
  constructor
  · exact fun clean abandons => abandons_unclean keys abandons clean
  · intro never owns e scene' ended reached
    rcases @owns_dispatch env chances others a o w owns keys with ⟨scene, along, held, same⟩
    rcases @dispatch_exits env chances others a o scene _ held along with
      ⟨k, e', later, unguarded, ended', _, before, after⟩ | ⟨_, clean⟩
    · rw [same, ended'] at ended
      cases ended
      rw [before, after]
      exact settles_same.mpr fun stranded => never ⟨owns, k, unguarded, stranded⟩
    · exact clean e scene' (same.symm.trans ended) reached

namespace ExitSample

def args : ContinueArgs := ⟨"v", "r", "go on", "child", "c"⟩

def accepted : List Op :=
  [.createConversation none "v" ⟨1, "e1"⟩,
    .createRun ⟨"v", none, "agent", "role"⟩ none "r" ⟨2, "e2"⟩,
    .startRun "r" ⟨3, "e3"⟩,
    .completeRun "r" ⟨4, "e4"⟩,
    .setRunProviderSession "r" "session",
    .createCommand ⟨"v", "r", "go on"⟩ ⟨"key"⟩ "c" 5,
    .bindCommandChildRun "c" "child" 6]

noncomputable def setting : Setting where
  sha256 := Run.standardSha256
  serde := Ledger.printedSerde
  ext := ⟨fun _ => .error "receipt", fun _ => .error "binding", fun _ => none, id⟩
  payload _ := Ledger.noPayload
  writeBinding _ := []
  readSession _ := .error "session"
  staleRedriveThresholdMs := 0

noncomputable def world : World :=
  ⟨Ledger.run setting.sha256 setting.serde .empty accepted,
    fun _ => ⟨"records", .missing, .ok none, .ok none, fun _ => .error "not found"⟩,
    fun _ => none, [], []⟩

def outside : Outside where
  contract := ⟨[], [], [], .required, "linux", none⟩
  obligation := ⟨Run.candidateStateContractSchemaV1, "v", ⟨"/repo/.git", 1, 2⟩, "base",
    .gitBinaryCumulativePatchV1⟩
  sourceReceipt := []
  sourcePatch := []
  materializedTreeOid := "tree"
  outcome := .exitedNormally 0
  sessionId := none
  sessionReceipt := []
  stdout := []
  diff := []
  candidatePatch := []
  candidateReceipt := []
  gates := []
  runMeta := []

def chances : Chances := fun k =>
  ⟨⟨7, "event"⟩, none, "", if k = 3 then some "reading .007/gate.toml" else none, false, outside⟩

theorem abandons : Abandons setting chances (fun _ => []) args world := by
  have bound : (loadCommand args.commandId world.ledger).map
      (fun c => (boundTo args.runId c, c.childRunId)) = some (true, some args.runId) := by
    decide +kernel
  rcases Option.map_eq_some_iff.mp bound with ⟨c, found, facts⟩
  rcases Prod.mk.inj facts with ⟨inFlight, child⟩
  have unattached : loadRun args.runId world.ledger = none := by decide +kernel
  refine ⟨⟨rfl, ⟨rfl, rfl⟩, rfl, ?_⟩, 3, .manifest nofun, c, found, inFlight, unattached⟩
  change (loadCommand args.commandId world.ledger).bind Command.childRunId = _
  rw [found]
  exact child

end ExitSample

/-- A gate manifest that does not load leaves the command in flight. -/
theorem manifest_abandons : ¬ FailsCleanly ExitSample.setting ExitSample.chances (fun _ => [])
    ExitSample.args ExitSample.outside ExitSample.world :=
  abandons_unclean (Ledger.reachable_keys ⟨_, rfl⟩) ExitSample.abandons

end O7Formal.Dispatch
