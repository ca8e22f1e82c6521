import O7Formal.Dispatch.Obedience

/-! What one permitted call does to the world, and what the parties know of it before and after:
while a lock is held, nobody else moves the binding away from its run or extends the run's record. -/

namespace O7Formal.Dispatch

open O7Formal.Ledger (CommandId Keys Op childOf)

def World.Pinned (w : World) (commandId : CommandId) (runId : RunId) : Prop :=
  childOf commandId w.ledger = some runId ∧ (w.records runId).events.Bars

def Entry.invokes (e : Entry) : Option (CommandId × RunId) :=
  match e.call with
  | .invoke commandId runId => some (commandId, runId)
  | _ => none

def Entry.spawns (e : Entry) : Option RunId :=
  match e.call with
  | .spawn args => some args.runId
  | _ => none

def Entry.refuses : Entry → Bool
  | ⟨_, .classify _ _, state, _, _⟩ => ChildRecordState.refuses state
  | _ => false

def World.spawned (w : World) : List RunId := w.trace.filterMap Entry.spawns

def World.noted (w : World) (e : Entry) : World := { w with trace := w.trace ++ [e] }

structure Grip (i : Nat) (m : Mode) (w : World) : Prop where
  lock : ∀ runId, m.held = some runId → w.locks runId = some i
  bound : ∀ commandId runId, m.bound = some commandId → m.held = some runId →
    childOf commandId w.ledger = some runId
  started : ∀ runId, m.started = true → m.held = some runId → (w.records runId).events.Bars
  unstarted : ∀ runId, m.unstarted = true → m.held = some runId →
    ¬ (w.records runId).events.Bars

structure Past (i : Nat) (m : Mode) (w : World) : Prop where
  fresh : ∀ runId, m.fresh = some runId → (runId, i) ∈ w.issued ∧ runId ∉ w.spawned
  wrote : m.wrote = false → ∀ e ∈ w.trace, e.party = i → e.after = e.before
  refused : ∀ e ∈ w.trace, e.party = i → e.refuses = true → m.refused = true
  quiet : m.refused = true → m.wrote = false

structure Knows (i : Nat) (m : Mode) (w : World) : Prop where
  grip : Grip i m w
  past : Past i m w

structure Sound (n : Nat) (w : World) : Prop where
  keys : Keys w.ledger
  parties : ∀ e ∈ w.trace, e.party < n
  issued : (w.issued.map Prod.fst).Nodup
  spawned : w.spawned.Nodup
  generated : ∀ runId ∈ w.spawned, runId ∈ w.issued.map Prod.fst
  pinned : ∀ e ∈ w.trace, ∀ commandId runId, e.invokes = some (commandId, runId) →
    w.Pinned commandId runId
  calm : ∀ e ∈ w.trace, e.refuses = true → ∀ e' ∈ w.trace, e'.party = e.party →
    e'.after = e'.before

inductive Changes (env : Setting) (m : Mode) (i : Nat) (w : World) : Call → World → Prop
  | nothing {c : Call} : Changes env m i w c w
  | ledger {op : Op} : m.refused = false → m.mayRun op →
      Changes env m i w (.ledger op) (w.setLedger (Ledger.step env.sha256 env.serde w.ledger op))
  | locked {runId : RunId} : m.held = none → w.locks runId = none →
      Changes env m i w (.tryLock runId) { w with locks := Function.update w.locks runId (some i) }
  | issued {runId : RunId} : runId ∉ w.issued.map Prod.fst →
      Changes env m i w .generateRunId { w with issued := w.issued ++ [(runId, i)] }
  | written {runId : RunId} {file : RecordFile} : m.held = some runId →
      Changes env m i w (.write runId file) (w.setRecord runId (file.store (w.records runId)))
  | appended {runId : RunId} {event : Run.RunEvent} : m.held = some runId →
      Changes env m i w (.append runId event) (w.setRecord runId ((w.records runId).append event))

section Perform

variable {env : Setting} {chance : Chance} {m : Mode} {i : Nat} {w w' : World} {c : Call}

variable (chance w) in
theorem doing_world (done : World) :
    (doing chance w done).2 = done ∨ (doing chance w done).2 = w := by
  unfold doing
  split
  · cases chance.applied
    · exact .inr rfl
    · exact .inl rfl
  · exact .inl rfl

variable (env chance w) in
theorem ledgerAnswer_world (op : Op) :
    (ledgerAnswer env chance w op).2 =
        w.setLedger (Ledger.step env.sha256 env.serde w.ledger op) ∨
      (ledgerAnswer env chance w op).2 = w := by
  unfold ledgerAnswer
  cases chance.fails with
  | some why =>
      cases chance.applied
      · exact .inr rfl
      · exact .inl rfl
  | none =>
      cases Ledger.exec env.sha256 env.serde w.ledger op with
      | ok done => exact .inl rfl
      | error e => exact .inl rfl

theorem perform_changes (permitted : m.permits c) (fresh : Fresh chance w c) :
    Changes env m i w c (perform env chance w i c).2 := by
  cases c with
  | ledger op =>
      rcases ledgerAnswer_world env chance w op with done | same
      · rw [perform, done]
        exact .ledger permitted.1 permitted.2
      · rw [perform, same]
        exact .nothing
  | tryLock runId =>
      rw [perform, lockAnswer]
      split
      · exact .nothing
      · split
        · rename_i free
          exact .locked permitted free
        · exact .nothing
  | generateRunId => exact .issued fresh
  | write runId file =>
      rcases doing_world chance w (w.setRecord runId (file.store (w.records runId))) with
        done | same
      · rw [perform, done]
        exact .written permitted
      · rw [perform, same]
        exact .nothing
  | append runId event =>
      rcases doing_world chance w (w.setRecord runId ((w.records runId).append event)) with
        done | same
      · rw [perform, done]
        exact .appended permitted
      · rw [perform, same]
        exact .nothing
  | invoke _ _ | spawn _ | attempt _ =>
      have same : (doing chance w w).2 = w := or_self_iff.mp (doing_world chance w w)
      rw [perform, same]
      exact .nothing
  | stamp | clock | command _ | run _ | conversation _ | runningAttempt _ | latestAttempt _
  | classify _ _ | record _ => exact .nothing

end Perform

section Changes

variable {env : Setting} {m m' : Mode} {i j : Nat} {w w' : World} {c : Call}

@[simp] theorem store_events (file : RecordFile) (dir : RecordDir) :
    (file.store dir).events = dir.events := by
  cases file <;> rfl

theorem setRecord_same (runId : RunId) (dir : RecordDir) :
    (w.setRecord runId dir).records runId = dir := Function.update_self ..

theorem setRecord_other {runId other : RunId} (apart : other ≠ runId) (dir : RecordDir) :
    (w.setRecord runId dir).records other = w.records other := Function.update_of_ne apart ..

theorem written_events (runId other : RunId) (file : RecordFile) :
    ((w.setRecord runId (file.store (w.records runId))).records other).events =
      (w.records other).events := by
  by_cases same : other = runId
  · subst same
    rw [setRecord_same, store_events]
  · rw [setRecord_other same]

theorem Changes.trace (changes : Changes env m i w c w') : w'.trace = w.trace := by
  cases changes <;> rfl

theorem Changes.ledger_eq (changes : Changes env m i w c w') (other : ∀ op, c ≠ .ledger op) :
    w'.ledger = w.ledger := by
  cases changes with
  | ledger => exact absurd rfl (other _)
  | nothing | locked | issued | written | appended => rfl

theorem Changes.issued_prefix (changes : Changes env m i w c w') : w.issued <+: w'.issued := by
  cases changes with
  | issued => exact List.prefix_append _ _
  | nothing | ledger | locked | written | appended => exact List.prefix_refl _

theorem Changes.issued_nodup (changes : Changes env m i w c w')
    (nodup : (w.issued.map Prod.fst).Nodup) : (w'.issued.map Prod.fst).Nodup := by
  cases changes with
  | issued unseen =>
      rw [List.map_append]
      exact List.Nodup.append nodup (List.nodup_singleton _) (List.disjoint_singleton.mpr unseen)
  | nothing | ledger | locked | written | appended => exact nodup

theorem Changes.keys (changes : Changes env m i w c w') (keys : Keys w.ledger) : Keys w'.ledger := by
  cases changes with
  | ledger => exact (Ledger.step_grows keys _).1
  | nothing | locked | issued | written | appended => exact keys

theorem Changes.binding (changes : Changes env m i w c w') (keys : Keys w.ledger)
    (grip : Grip i m w) {commandId : CommandId} {runId : RunId}
    (bound : childOf commandId w.ledger = some runId) :
    childOf commandId w'.ledger = some runId ∨
      w.locks runId = some i ∧ ¬ (w.records runId).events.Bars ∧ m.bound = none := by
  cases changes with
  | @ledger op going may =>
      have moves := @Ledger.step_child env.sha256 env.serde w.ledger op keys
      rcases moves (by rintro _ _ _ rfl; exact may) (by rintro _ rfl; exact may) bound with
        same | ⟨expectedUpdatedAt, freshRunId, now, rfl⟩
      · exact .inl same
      · exact .inr ⟨grip.lock runId may.1, grip.unstarted runId may.2.1 may.1, may.2.2⟩
  | nothing | locked | issued | written | appended => exact .inl bound

theorem Changes.bars (changes : Changes env m i w c w') {runId : RunId}
    (bars : (w.records runId).events.Bars) : (w'.records runId).events.Bars := by
  cases changes with
  | @written other file =>
      rw [written_events]
      exact bars
  | @appended other event =>
      by_cases same : runId = other
      · subst same
        rw [setRecord_same]
        exact bars_append bars
      · rw [setRecord_other same]
        exact bars
  | nothing | ledger | locked | issued => exact bars

theorem Changes.events (changes : Changes env m i w c w') (grip : Grip i m w) {runId : RunId}
    (locked : w.locks runId ≠ some i) : (w'.records runId).events = (w.records runId).events := by
  cases changes with
  | written => exact written_events ..
  | @appended other event held =>
      have apart : runId ≠ other := by
        intro same
        subst same
        exact locked (grip.lock runId held)
      rw [setRecord_other apart]
  | nothing | ledger | locked | issued => rfl

theorem Changes.lock (changes : Changes env m i w c w') {runId : RunId}
    (locked : w.locks runId = some j) : w'.locks runId = some j := by
  cases changes with
  | @locked other held free =>
      have apart : runId ≠ other := by
        intro same
        subst same
        rw [free] at locked
        cases locked
      exact (Function.update_of_ne apart ..).trans locked
  | nothing | ledger | issued | written | appended => exact locked

theorem Changes.pinned (changes : Changes env m i w c w') (keys : Keys w.ledger)
    (grip : Grip i m w) {commandId : CommandId} {runId : RunId}
    (pinned : w.Pinned commandId runId) : w'.Pinned commandId runId := by
  rcases changes.binding keys grip pinned.1 with same | ⟨_, unstarted, _⟩
  · exact ⟨same, changes.bars pinned.2⟩
  · exact absurd pinned.2 unstarted

theorem Changes.grip (changes : Changes env m i w c w') (keys : Keys w.ledger)
    (grip : Grip i m w) (other : j ≠ i) (knows : Grip j m' w) : Grip j m' w' := by
  have mine : ∀ runId, m'.held = some runId → w.locks runId ≠ some i := by
    intro runId held locked
    exact other (Option.some.inj ((knows.lock runId held).symm.trans locked))
  constructor
  · exact fun runId held => changes.lock (knows.lock runId held)
  · intro commandId runId bound held
    rcases changes.binding keys grip (knows.bound commandId runId bound held) with
      same | ⟨locked, _⟩
    · exact same
    · exact absurd locked (mine runId held)
  · exact fun runId started held => changes.bars (knows.started runId started held)
  · intro runId unstarted held
    rw [changes.events grip (mine runId held)]
    exact knows.unstarted runId unstarted held

theorem Changes.still (changes : Changes env m i w c w')
    (quiet : ∀ runId event, c ≠ .append runId event) (runId : RunId) :
    (w'.records runId).events = (w.records runId).events := by
  cases changes with
  | written => exact written_events ..
  | appended => exact absurd rfl (quiet _ _)
  | nothing | ledger | locked | issued => rfl

theorem Changes.own (changes : Changes env m i w c w') (keys : Keys w.ledger) (grip : Grip i m w)
    (quiet : ∀ runId event, c ≠ .append runId event) (held : m'.held = m.held)
    (bound : m'.bound = m.bound) (started : m'.started = m.started)
    (unstarted : m'.unstarted = m.unstarted) : Grip i m' w' := by
  constructor
  · intro runId holds
    exact changes.lock (grip.lock runId (held ▸ holds))
  · intro commandId runId binds holds
    rw [bound] at binds
    rw [held] at holds
    rcases changes.binding keys grip (grip.bound commandId runId binds holds) with
      same | ⟨_, _, unbound⟩
    · exact same
    · rw [unbound] at binds
      cases binds
  · intro runId starts holds
    exact changes.bars (grip.started runId (started ▸ starts) (held ▸ holds))
  · intro runId open_ holds
    rw [changes.still quiet]
    exact grip.unstarted runId (unstarted ▸ open_) (held ▸ holds)

end Changes

section Learns

variable {env : Setting} {chance : Chance} {m : Mode} {i : Nat} {w : World}

theorem doing_ok {done : World} (ok : (doing chance w done).1.isOk = true) :
    (doing chance w done).2 = done := by
  unfold doing at ok ⊢
  split at ok
  · cases ok
  · rfl

theorem lock_grip (runId : RunId) (grip : Grip i m w) :
    Grip i (m.learns (.tryLock runId) (lockAnswer chance w i runId).1)
      (lockAnswer chance w i runId).2 := by
  unfold lockAnswer
  split
  · exact grip
  · split
    · constructor
      · intro other same
        cases same
        exact Function.update_self ..
      · exact nofun
      · exact nofun
      · exact nofun
    · exact grip

theorem command_grip (id : CommandId) (grip : Grip i m w) :
    Grip i (m.learns (.command id) (reading chance (Ledger.loadCommand id w.ledger))) w := by
  cases read : reading chance (Ledger.loadCommand id w.ledger) with
  | error e => exact grip
  | ok found =>
      have row := reading_ok read
      cases found with
      | none => exact grip
      | some c =>
          rw [Mode.learns]
          split
          · rename_i here
            constructor
            · exact grip.lock
            · intro commandId runId same held
              cases same
              have bound : c.childRunId = some runId := here.2.trans held
              rw [childOf, row]
              exact bound
            · exact grip.started
            · exact grip.unstarted
          · exact grip

theorem classify_grip (runId : RunId) (command : Ledger.Command) (grip : Grip i m w) :
    Grip i (m.learns (.classify runId command) (classifyAnswer env chance w runId command)) w := by
  constructor
  · exact grip.lock
  · exact grip.bound
  · exact grip.started
  · intro other learnt held
    rcases Bool.or_eq_true_iff.mp learnt with known | seen
    · exact grip.unstarted other known held
    · rw [Bool.and_eq_true, decide_eq_true_iff] at seen
      have same : other = runId := Option.some.inj (held.symm.trans seen.1)
      subst same
      have redrivable := seen.2
      unfold classifyAnswer at redrivable
      split at redrivable
      · cases redrivable
      · exact redrivable_not_bars redrivable

theorem append_grip (runId : RunId) (event : Run.RunEvent) (grip : Grip i m w)
    (held : m.held = some runId) :
    Grip i (m.learns (.append runId event) (perform env chance w i (.append runId event)).1)
      (perform env chance w i (.append runId event)).2 := by
  have changes : Changes env m i w (.append runId event)
    (perform env chance w i (.append runId event)).2 := perform_changes held trivial
  constructor
  · exact fun other holds => changes.lock (grip.lock other holds)
  · intro commandId other bound holds
    rw [changes.ledger_eq nofun]
    exact grip.bound commandId other bound holds
  · intro other learnt holds
    rcases Bool.or_eq_true_iff.mp learnt with known | new
    · exact changes.bars (grip.started other known holds)
    · rw [Bool.and_eq_true, decide_eq_true_iff] at new
      have same : other = runId := Option.some.inj (holds.symm.trans held)
      subst same
      rw [perform, doing_ok new.1, setRecord_same]
      exact bars_started new.2
  · exact nofun

/-- Everything but a lock, a row, a classification and an append teaches nothing about the run. -/
def Call.Informs : Call → Prop
  | .tryLock _ | .command _ | .classify _ _ | .append _ _ => True
  | _ => False

theorem learns_nothing {c : Call} (r : c.Answer) (silent : ¬ c.Informs) :
    (m.learns c r).held = m.held ∧ (m.learns c r).bound = m.bound ∧
      (m.learns c r).started = m.started ∧ (m.learns c r).unstarted = m.unstarted := by
  cases c with
  | tryLock _ | command _ | classify _ _ | append _ _ => exact absurd trivial silent
  | ledger _ | generateRunId | spawn _ | write _ _ | invoke _ _ | attempt _ | stamp | clock | run _
  | conversation _ | runningAttempt _ | latestAttempt _ | record _ => exact ⟨rfl, rfl, rfl, rfl⟩

theorem perform_grip {c : Call} (permitted : m.permits c) (fresh : Fresh chance w c)
    (keys : Keys w.ledger) (grip : Grip i m w) :
    Grip i (m.learns c (perform env chance w i c).1) (perform env chance w i c).2 := by
  have changes : Changes env m i w c (perform env chance w i c).2 := perform_changes permitted fresh
  by_cases informs : c.Informs
  · cases c with
    | tryLock runId => exact lock_grip runId grip
    | command id => exact command_grip id grip
    | classify runId command => exact classify_grip runId command grip
    | append runId event => exact append_grip runId event grip permitted
    | _ => cases informs
  · rcases learns_nothing (perform env chance w i c).1 informs with
      ⟨held, bound, started, unstarted⟩
    apply changes.own keys grip _ held bound started unstarted
    intro runId event same
    subst same
    exact informs trivial

theorem replays_same {op : Op} (replay : replays op (ledgerAnswer env chance w op).1 = true) :
    (ledgerAnswer env chance w op).2.ledger = w.ledger := by
  unfold replays at replay
  split at replay
  · rename_i request idempotency generated now row found
    unfold ledgerAnswer at found ⊢
    split at found
    · cases found
    · split at found
      · rename_i reply s' ok
        cases found
        rcases Ledger.replying_ok ok with ⟨c, done, same⟩
        cases same
        rw [Ledger.createCommand_eq] at done
        rcases Ledger.once_ok done with ⟨same, _⟩ | ⟨_, reference, made, makes, _⟩
        · exact (Ledger.step_ok ok).trans same
        · rw [(Ledger.makeCommand_ok makes).1] at replay
          cases replay
      · cases found
  · cases replay

theorem perform_answers (c : Call) (keys : Keys w.ledger) :
    answers c (perform env chance w i c).1 := by
  unfold answers
  split
  · rename_i commandId old expectedUpdatedAt freshRunId now
    intro row found
    change (ledgerAnswer env chance w _).1 = _ at found
    unfold ledgerAnswer at found
    split at found
    · cases found
    · split at found
      · rename_i reply s' ok
        cases found
        rcases Ledger.replying_ok ok with ⟨outcome, done, same⟩
        cases same
        rcases Ledger.rebindCommandChildRunIfCurrent_ok keys.commands done with
          ⟨_, answer⟩ | ⟨current, next, _, _, _, _, shape, answer, _⟩
        · rcases answer with ⟨answer, _⟩ | ⟨_, _, answer | answer⟩ <;> cases answer
        · cases answer
          rw [shape]
      · cases found
  · trivial

end Learns

end O7Formal.Dispatch
