import O7Formal.Dispatch.Knowledge

/-! Any number of request handlers and continuation processes, answered in any order and dying at
any call: the provider is dispatched for one child run of a command at most. -/

namespace O7Formal.Dispatch

open Program
open O7Formal.Ledger (CommandId Keys Op Tables childOf)

section Recording

variable {env : Setting} {chance : Chance} {m m' : Mode} {i j n : Nat} {w w' : World} {c : Call}
  {r : c.Answer}

theorem noted_mem {e e' : Entry} (changes : Changes env m i w c w')
    (member : e ∈ (w'.noted e').trace) : e ∈ w.trace ∨ e = e' := by
  rw [World.noted, changes.trace] at member
  rcases List.mem_append.mp member with old | new
  · exact .inl old
  · exact .inr (List.mem_singleton.mp new)

theorem noted_spawned (changes : Changes env m i w c w') (e : Entry) :
    (w'.noted e).spawned = w.spawned ++ e.spawns.toList := by
  rw [World.spawned, World.noted, changes.trace, List.filterMap_append]
  cases spawns : e.spawns <;> simp [World.spawned, spawns]

theorem issued_once (sound : Sound n w) {runId : RunId} (mine : (runId, i) ∈ w.issued)
    (other : (runId, j) ∈ w.issued) : i = j := by
  have same := List.inj_on_of_nodup_map sound.issued mine other rfl
  exact congrArg Prod.snd same

theorem spawn_fresh (past : Past i m w) (permitted : m.permits c) {runId : RunId}
    (spawns : Entry.spawns ⟨i, c, r, w.ledger, w'.ledger⟩ = some runId) :
    m.fresh = some runId ∧ (runId, i) ∈ w.issued ∧ runId ∉ w.spawned := by
  cases c with
  | spawn args =>
      cases spawns
      exact ⟨permitted, past.fresh _ permitted⟩
  | _ => cases spawns

theorem others_past (changes : Changes env m i w c w') (sound : Sound n w) (past : Past i m w)
    (permitted : m.permits c) (other : j ≠ i) (remembers : Past j m' w) :
    Past j m' (w'.noted ⟨i, c, r, w.ledger, w'.ledger⟩) := by
  constructor
  · intro runId fresh
    rcases remembers.fresh runId fresh with ⟨issued, unspawned⟩
    refine ⟨changes.issued_prefix.subset issued, ?_⟩
    rw [noted_spawned changes]
    intro member
    rcases List.mem_append.mp member with old | new
    · exact unspawned old
    · have mine := (spawn_fresh past permitted (Option.mem_toList.mp new)).2.1
      exact other (issued_once sound issued mine)
  · intro quiet e member party
    rcases noted_mem changes member with old | rfl
    · exact remembers.wrote quiet e old party
    · exact absurd party.symm other
  · intro e member party refuses
    rcases noted_mem changes member with old | rfl
    · exact remembers.refused e old party refuses
    · exact absurd party.symm other
  · exact remembers.quiet

theorem refuses_classifies {before after : Tables}
    (refuses : Entry.refuses ⟨i, c, r, before, after⟩ = true) (permitted : m.permits c) :
    (∀ op, c ≠ .ledger op) ∧ m.wrote = false ∧ (m.learns c r).refused = true := by
  cases c with
  | classify runId command =>
      refine ⟨nofun, permitted, ?_⟩
      rw [Mode.learns]
      exact Bool.or_eq_true_iff.mpr (.inr refuses)
  | _ => cases refuses

def Call.Remembered : Call → Prop
  | .ledger _ | .generateRunId | .classify _ _ | .spawn _ => True
  | _ => False

theorem learns_unremembered (r : c.Answer) (silent : ¬ c.Remembered) :
    (m.learns c r).fresh = m.fresh ∧ (m.learns c r).wrote = m.wrote ∧
      (m.learns c r).refused = m.refused := by
  cases c with
  | ledger _ | generateRunId | classify _ _ | spawn _ => exact absurd trivial silent
  | command id =>
      rcases r with e | _ | row
      · exact ⟨rfl, rfl, rfl⟩
      · exact ⟨rfl, rfl, rfl⟩
      · rw [Mode.learns]
        split <;> exact ⟨rfl, rfl, rfl⟩
  | tryLock runId => cases r <;> exact ⟨rfl, rfl, rfl⟩
  | write _ _ | append _ _ | invoke _ _ | attempt _ | stamp | clock | run _ | conversation _
  | runningAttempt _ | latestAttempt _ | record _ => exact ⟨rfl, rfl, rfl⟩

theorem learns_fresh {runId : RunId}
    (fresh : (m.learns c (perform env chance w i c).1).fresh = some runId) :
    c = .generateRunId ∧ chance.generated = runId ∨
      m.fresh = some runId ∧ ∀ args, c ≠ .spawn args := by
  by_cases remembered : c.Remembered
  · cases c with
    | generateRunId => exact .inl ⟨rfl, Option.some.inj fresh⟩
    | spawn args => cases fresh
    | ledger op => exact .inr ⟨fresh, nofun⟩
    | classify runId command => exact .inr ⟨fresh, nofun⟩
    | _ => cases remembered
  · rw [(learns_unremembered _ remembered).1] at fresh
    refine .inr ⟨fresh, ?_⟩
    intro args same
    subst same
    exact remembered trivial

theorem learns_refused (r : c.Answer) (refused : m.refused = true) :
    (m.learns c r).refused = true := by
  by_cases remembered : c.Remembered
  · cases c with
    | classify runId command => exact Bool.or_eq_true_iff.mpr (.inl refused)
    | generateRunId | spawn _ | ledger _ => exact refused
    | _ => cases remembered
  · rw [(learns_unremembered r remembered).2.2]
    exact refused

theorem learns_quiet (permitted : m.permits c) (quiet : m.refused = true → m.wrote = false)
    (refused : (m.learns c r).refused = true) : (m.learns c r).wrote = false := by
  by_cases remembered : c.Remembered
  · cases c with
    | classify runId command => exact permitted
    | generateRunId | spawn _ => exact quiet refused
    | ledger op =>
        have going : m.refused = true := refused
        rw [permitted.1] at going
        cases going
    | _ => cases remembered
  · have same := (learns_unremembered (m := m) r remembered).2
    rw [same.2] at refused
    rw [same.1]
    exact quiet refused

theorem learns_wrote (quiet : (m.learns c (perform env chance w i c).1).wrote = false)
    (changes : Changes env m i w c (perform env chance w i c).2) :
    m.wrote = false ∧ (perform env chance w i c).2.ledger = w.ledger := by
  by_cases remembered : c.Remembered
  · cases c with
    | ledger op =>
        rcases Bool.or_eq_false_iff.mp quiet with ⟨before, replayed⟩
        rw [Bool.not_eq_false'] at replayed
        exact ⟨before, replays_same replayed⟩
    | classify runId command => exact ⟨quiet, rfl⟩
    | generateRunId => exact ⟨quiet, rfl⟩
    | spawn args => exact ⟨quiet, changes.ledger_eq nofun⟩
    | _ => cases remembered
  · rw [(learns_unremembered _ remembered).2.1] at quiet
    refine ⟨quiet, changes.ledger_eq ?_⟩
    intro op same
    subst same
    exact remembered trivial

theorem invokes_pinned (permitted : m.permits c) (grip : Grip i m w) {commandId : CommandId} {runId : RunId}
    (invokes : Entry.invokes ⟨i, c, r, w.ledger, w'.ledger⟩ = some (commandId, runId)) :
    w.Pinned commandId runId := by
  cases c with
  | invoke _ _ =>
      cases invokes
      rcases permitted with ⟨held, bound, started⟩
      exact ⟨grip.bound _ _ bound held, grip.started _ started held⟩
  | _ => cases invokes

def answered (env : Setting) (chance : Chance) (w : World) (i : Nat) (c : Call) : World :=
  let done := perform env chance w i c
  done.2.noted ⟨i, c, done.1, w.ledger, done.2.ledger⟩

section Own

variable (changes : Changes env m i w c (perform env chance w i c).2) (past : Past i m w)
  (permitted : m.permits c)

include changes past permitted

theorem own_past (sound : Sound n w) (fresh : Fresh chance w c) :
    Past i (m.learns c (perform env chance w i c).1) (answered env chance w i c) := by
  constructor
  · intro runId learnt
    rcases learns_fresh learnt with ⟨rfl, rfl⟩ | ⟨before, silent⟩
    · have unseen : chance.generated ∉ w.spawned := fun member => fresh (sound.generated _ member)
      refine ⟨List.mem_append_right _ (List.mem_singleton_self _), ?_⟩
      rw [answered, noted_spawned changes]
      simpa [Entry.spawns] using unseen
    · rcases past.fresh runId before with ⟨issued, unspawned⟩
      refine ⟨changes.issued_prefix.subset issued, ?_⟩
      rw [answered, noted_spawned changes]
      intro member
      rcases List.mem_append.mp member with old | new
      · exact unspawned old
      · cases c with
        | spawn args => exact silent args rfl
        | _ => cases new
  · intro quiet e member party
    rcases learns_wrote quiet changes with ⟨before, same⟩
    rcases noted_mem changes member with old | rfl
    · exact past.wrote before e old party
    · exact same
  · intro e member party refuses
    rcases noted_mem changes member with old | rfl
    · exact learns_refused _ (past.refused e old party refuses)
    · exact (refuses_classifies refuses permitted).2.2
  · exact learns_quiet permitted past.quiet

theorem answered_spawned (sound : Sound n w) :
    (answered env chance w i c).spawned.Nodup ∧
      ∀ runId ∈ (answered env chance w i c).spawned,
        runId ∈ (answered env chance w i c).issued.map Prod.fst := by
  have issued := changes.issued_prefix.subset
  rw [answered, noted_spawned changes]
  constructor
  · apply List.Nodup.append sound.spawned
    · cases Entry.spawns _ <;> simp
    · intro runId old new
      exact (spawn_fresh past permitted (Option.mem_toList.mp new)).2.2 old
  · intro runId member
    rcases List.mem_append.mp member with old | new
    · exact List.map_subset _ issued (sound.generated runId old)
    · have mine := (spawn_fresh past permitted (Option.mem_toList.mp new)).2.1
      exact List.mem_map_of_mem (issued mine)

theorem answered_calm (sound : Sound n w) :
    ∀ e ∈ (answered env chance w i c).trace, e.refuses = true →
      ∀ e' ∈ (answered env chance w i c).trace, e'.party = e.party → e'.after = e'.before := by
  intro e member refuses e' member' party
  rcases noted_mem changes member with old | rfl
  · rcases noted_mem changes member' with old' | rfl
    · exact sound.calm e old refuses e' old' party
    · -- A party that has met a refusal calls no operation.
      have refused := past.refused e old party.symm refuses
      apply changes.ledger_eq
      intro op same
      subst same
      rw [permitted.1] at refused
      cases refused
  · rcases refuses_classifies refuses permitted with ⟨silent, quiet, _⟩
    rcases noted_mem changes member' with old' | rfl
    · exact past.wrote quiet e' old' party
    · exact changes.ledger_eq silent

theorem answered_sound (sound : Sound n w) (inside : i < n) (grip : Grip i m w) :
    Sound n (answered env chance w i c) := by
  have spawned := answered_spawned changes past permitted sound
  constructor
  · exact changes.keys sound.keys
  · intro e member
    rcases noted_mem changes member with old | rfl
    · exact sound.parties e old
    · exact inside
  · exact changes.issued_nodup sound.issued
  · exact spawned.1
  · exact spawned.2
  · intro e member commandId runId invokes
    rcases noted_mem changes member with old | rfl
    · exact changes.pinned sound.keys grip (sound.pinned e old commandId runId invokes)
    · exact changes.pinned sound.keys grip (invokes_pinned permitted grip invokes)
  · exact answered_calm changes past permitted sound

end Own

end Recording

variable (env : Setting)

theorem joins_sound {n : Nat} {w : World} (sound : Sound n w) :
    Sound (n + 1) w ∧ Knows n .start w := by
  have nobody : ∀ e ∈ w.trace, e.party ≠ n := fun e member => (sound.parties e member).ne
  constructor
  · exact ⟨sound.keys, fun e member => Nat.lt_succ_of_lt (sound.parties e member), sound.issued,
      sound.spawned, sound.generated, sound.pinned, sound.calm⟩
  · constructor
    · exact ⟨nofun, nofun, nofun, nofun⟩
    · constructor
      · exact nofun
      · exact fun _ e member party => absurd party (nobody e member)
      · exact fun e member party => absurd party (nobody e member)
      · exact nofun

theorem release_lock {i j : Nat} {w : World} {runId : RunId} (other : j ≠ i)
    (locked : w.locks runId = some j) : (release i w).locks runId = some j := by
  have apart : w.locks runId ≠ some i := by
    rw [locked]
    exact fun same => other (Option.some.inj same)
  exact (if_neg apart).trans locked

theorem starts_enter (chance : Chance) (c : Call) :
    ∀ x ∈ starts env chance c, Host.Enters protocol .start x := by
  intro x member
  cases c with
  | spawn args =>
      rw [starts] at member
      split at member
      · rw [List.mem_singleton.mp member]
        apply obeys_bind
        exact obeys_mono (continueRun_obeys env args chance.outside) fun _ _ _ => trivial
      · cases member
  | _ => cases member

theorem respond_some {chance : Chance} {i : Nat} {c : Call} {w w' : World} {r : c.Answer}
    {started : List (Code Unit)} (answer : respond env i c chance w = some (r, w', started)) :
    Fresh chance w c ∧ r = (perform env chance w i c).1 ∧ w' = answered env chance w i c ∧
      started = starts env chance c := by
  rw [respond] at answer
  split at answer
  · rename_i fresh
    cases answer
    exact ⟨fresh, rfl, rfl, rfl⟩
  · cases answer

theorem disciplined : Host.Disciplined (system env) protocol .start Sound Knows := by
  constructor
  · intro req
    apply obeys_bind
    exact obeys_mono (createCommand_obeys env req) fun _ _ _ => trivial
  · exact joins_sound
  · intro n i m c chance w r w' started sound inside knows permitted answer
    rcases respond_some env answer with ⟨fresh, rfl, rfl, rfl⟩
    have changes : Changes env m i w c (perform env chance w i c).2 :=
      perform_changes permitted fresh
    refine ⟨perform_answers c sound.keys, ?_, ?_, ?_, starts_enter env chance c⟩
    · exact answered_sound changes knows.past permitted sound inside knows.grip
    · constructor
      · have grip : Grip i (m.learns c _) (perform env chance w i c).2 :=
          perform_grip permitted fresh sound.keys knows.grip
        exact ⟨grip.lock, grip.bound, grip.started, grip.unstarted⟩
      · exact own_past changes knows.past permitted sound fresh
    · intro j other m' known
      constructor
      · have grip := changes.grip sound.keys knows.grip other known.grip
        exact ⟨grip.lock, grip.bound, grip.started, grip.unstarted⟩
      · exact others_past changes sound knows.past permitted other known.past
  · intro n w i sound
    constructor
    · exact ⟨sound.keys, sound.parties, sound.issued, sound.spawned, sound.generated, sound.pinned,
        sound.calm⟩
    · intro j other m knows
      have grip := knows.grip
      have past := knows.past
      constructor
      · exact ⟨fun runId held => release_lock other (grip.lock runId held), grip.bound,
          grip.started, grip.unstarted⟩
      · exact ⟨past.fresh, past.wrote, past.refused, past.quiet⟩

section Executions

variable (ops : List Op) (records : RunId → RecordDir) (moves : List (Move Chance CommandRequest))

def execution : World :=
  ((system env).run (idle (Ledger.run env.sha256 env.serde .empty ops) records) moves).world

/-- The provider is dispatched once: for one child run of a command, which was spawned once, and
which the command is never bound away from. -/
structure DispatchedOnce : Prop where
  invoked : ∀ e ∈ (execution env ops records moves).trace,
    ∀ e' ∈ (execution env ops records moves).trace, ∀ commandId runId runId',
      e.invokes = some (commandId, runId) → e'.invokes = some (commandId, runId') →
        runId = runId'
  spawned : (execution env ops records moves).spawned.Nodup
  kept : ∀ before after, moves = before ++ after → ∀ commandId runId,
    childOf commandId (execution env ops records before).ledger = some runId →
      ((execution env ops records before).records runId).events.Started →
        childOf commandId (execution env ops records moves).ledger = some runId
  refused : ∀ e ∈ (execution env ops records moves).trace, e.refuses = true →
    ∀ e' ∈ (execution env ops records moves).trace, e'.party = e.party → e'.after = e'.before

omit env in
theorem idle_orderly {ledger : Tables} (keys : Keys ledger) :
    Host.Orderly protocol Sound Knows (idle ledger records) := by
  have quiet : ∀ e : Entry, e ∉ (idle ledger records).world.trace := fun _ => List.not_mem_nil
  constructor
  · constructor
    · exact keys
    · exact fun e member => absurd member (quiet e)
    · exact List.nodup_nil
    · exact List.nodup_nil
    · exact fun _ member => absurd member List.not_mem_nil
    · exact fun e member => absurd member (quiet e)
    · exact fun e member => absurd member (quiet e)
  · intro i x party
    cases party

theorem execution_sound : Host.Orderly protocol Sound Knows
    ((system env).run (idle (Ledger.run env.sha256 env.serde .empty ops) records) moves) := by
  have keys : Keys (Ledger.run env.sha256 env.serde .empty ops) :=
    (Ledger.run_grows Ledger.keys_empty ops).1
  exact Host.orderly_run (disciplined env) (idle_orderly records keys) moves

theorem execution_pinned {before after : List (Move Chance CommandRequest)} {commandId : CommandId}
    {runId : RunId} (pinned : (execution env ops records before).Pinned commandId runId) :
    (execution env ops records (before ++ after)).Pinned commandId runId := by
  rw [execution, Host.run_append]
  apply Host.run_keeps (motive := fun w => w.Pinned commandId runId) (disciplined env)
    (execution_sound env ops records before) pinned
  · intro n i m c chance w r w' started sound inside knows permitted answer held
    rcases respond_some env answer with ⟨fresh, rfl, rfl, rfl⟩
    have changes : Changes env m i w c (perform env chance w i c).2 :=
      perform_changes permitted fresh
    exact changes.pinned sound.keys knows.grip held
  · exact fun w i held => held

theorem dispatched_once : DispatchedOnce env ops records moves := by
  have sound := (execution_sound env ops records moves).holds
  constructor
  · intro e member e' member' commandId runId runId' invokes invokes'
    have here := (sound.pinned e member commandId runId invokes).1
    have there := (sound.pinned e' member' commandId runId' invokes').1
    exact Option.some.inj (here.symm.trans there)
  · exact sound.spawned
  · intro before after split commandId runId bound started
    rw [split]
    exact (execution_pinned env ops records ⟨bound, .inl started⟩).1
  · exact sound.calm

end Executions

end O7Formal.Dispatch
