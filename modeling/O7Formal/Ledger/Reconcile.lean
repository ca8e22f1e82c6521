import O7Formal.Ledger.Growth

/-! The two ways to complete a command whose child run has finished: the guarded completion looks
at the conversation and the parent of the child, the reconciliation does not. -/

namespace O7Formal.Ledger

open Fallible Table
open O7Formal.Run (Sha256 standardSha256)

def completedAt (now : Millis) (c : Command) : Command :=
  { c with status := .completed, updatedAt := now }

section Completing

variable {s : Tables} {now : Millis}

theorem repairOne_eq {acc : List Command} {commandId : CommandId}
    (listed : commandId ∈ s.commands.map Command.commandId) :
    ∃ row, repairOne now (acc, s) commandId = .ok (acc ++ [row],
      updateCommands (fun c => decide (c.commandId = commandId)) (completedAt now) s) := by
  rcases List.mem_map.mp listed with ⟨c, member, named⟩
  have written : completedAt now c ∈ (updateCommands (fun c => decide (c.commandId = commandId))
      (completedAt now) s).commands := mem_update.mpr ⟨c, member, by simp [named]⟩
  rcases @lookup_isSome _ _ _ Command.commandId _ _ _ written named with ⟨row, found⟩
  refine ⟨row, ?_⟩
  have left : commandLeft commandId (updateCommands (fun c => decide (c.commandId = commandId))
      (completedAt now) s) = .ok row := okOr_ok_iff.mpr found
  simp only [repairOne]
  exact bind_ok_iff.mpr ⟨row, left, rfl⟩

theorem completed_twice (first second : Command → Bool)
    (stable : ∀ c, second (completedAt now c) = second c) (rows : List Command) :
    update second (completedAt now) (update first (completedAt now) rows) =
      update (fun c => first c || second c) (completedAt now) rows := by
  rw [update, update, update, List.map_map]
  apply List.map_congr_left
  intro c _
  rw [Function.comp_apply]
  cases here : first c with
  | false => simp
  | true =>
      rw [if_pos rfl, stable]
      cases second c <;> simp [completedAt]

theorem repair_eq {ids : List CommandId} {acc : List Command}
    (listed : ∀ id ∈ ids, id ∈ s.commands.map Command.commandId) :
    ∃ rows, ids.foldlM (repairOne now) (acc, s) = .ok (rows,
      updateCommands (fun c => decide (c.commandId ∈ ids)) (completedAt now) s) := by
  induction ids generalizing s acc with
  | nil =>
      refine ⟨acc, ?_⟩
      have same : update (fun c : Command => decide (c.commandId ∈ [])) (completedAt now)
          s.commands = s.commands := update_none fun c _ => by simp
      rw [updateCommands, same]
      rfl
  | cons id rest ih =>
      rw [List.forall_mem_cons] at listed
      rcases @repairOne_eq s now acc id listed.1 with ⟨row, repaired⟩
      have keys := @keys_update _ _ Command.commandId (fun c => decide (c.commandId = id))
        (completedAt now) (by intros; rfl) s.commands
      rcases @ih (updateCommands (fun c => decide (c.commandId = id)) (completedAt now) s)
        (acc ++ [row]) (fun other member => keys ▸ listed.2 other member) with ⟨rows, later⟩
      refine ⟨rows, ?_⟩
      rw [List.foldlM_cons, repaired, ok_bind, later]
      simp only [updateCommands]
      rw [completed_twice _ _ (by intros; rfl)]
      simp only [List.mem_cons, Bool.decide_or]

variable (keyed : Keyed Command.commandId s.commands)

include keyed

theorem reconcileCompletedCommands_eq (now : Millis) :
    ∃ rows, reconcileCompletedCommands now s = .ok (rows,
      updateCommands (fun c => decide (finishedChild s c)) (completedAt now) s) := by
  rcases @repair_eq s now ((s.commands.filter fun c => decide (finishedChild s c)).map
    Command.commandId) [] (fun id member => by
      rcases List.mem_map.mp member with ⟨c, among, named⟩
      exact List.mem_map.mpr ⟨c, (List.mem_filter.mp among).1, named⟩) with ⟨rows, done⟩
  refine ⟨rows, done.trans ?_⟩
  congr 2
  rw [updateCommands, updateCommands]
  congr 1
  apply List.map_congr_left
  intro c member
  have chosen : c.commandId ∈ (s.commands.filter fun c => decide (finishedChild s c)).map
      Command.commandId ↔ finishedChild s c := by
    constructor
    · intro listed
      rcases List.mem_map.mp listed with ⟨other, among, named⟩
      rcases List.mem_filter.mp among with ⟨stored, finished⟩
      rw [keyed.eq_of_key member stored named.symm]
      exact of_decide_eq_true finished
    · intro finished
      exact List.mem_map_of_mem (List.mem_filter.mpr ⟨member, decide_eq_true finished⟩)
  simp only [chosen]

theorem completes_iff {commandId : CommandId} {c : Command} {child : RunId}
    (found : loadCommand commandId s = some c) (bound : c.childRunId = some child) :
    (∃ row s', markCommandCompletedIfBoundAndTerminal commandId child now s =
        .ok (.completed row, s')) ↔
      c.status.inFlight = true ∧ ∃ r, loadRun child s = some r ∧ childOk c r = true := by
  constructor
  · rintro ⟨row, s', ok⟩
    rcases markCommandCompletedIfBoundAndTerminal_ok keyed ok with
      ⟨_, ⟨other, _⟩ | ⟨_, _, other⟩⟩ | ⟨current, _, r, found', held, there, fit, _⟩
    · cases other
    · cases other
    · cases found.symm.trans found'
      rw [boundTo, Bool.and_eq_true] at held
      exact ⟨held.1, r, there, fit⟩
  · rintro ⟨flying, r, there, fit⟩
    have held : boundTo child c = true := by simp [boundTo, flying, bound]
    have named : c.commandId = commandId := (lookup_mem found).2
    have reloaded : loadCommand commandId (put (completedAt now c) s) =
        some (completedAt now c) := by
      subst named
      exact @loadCommand_put_self (completedAt now c) c s found
    have completed : completeBound commandId child now s =
        .ok (.completed (completedAt now c), put (completedAt now c) s) := by
      rw [completeBound, updateOne_eq keyed found (boundTo child) rfl, if_pos held]
      exact bind_ok_iff.mpr ⟨completedAt now c, okOr_ok_iff.mpr reloaded, rfl⟩
    refine ⟨completedAt now c, put (completedAt now c) s, ?_⟩
    rw [markCommandCompletedIfBoundAndTerminal, found]
    simp only [held, there, fit, Bool.true_eq_false, if_false]
    exact completed

end Completing

def ReconcileCompletes (now : Millis) (s : Tables) (id : CommandId) : Prop :=
  ∃ rows s' c c', reconcileCompletedCommands now s = .ok (rows, s') ∧
    loadCommand id s = some c ∧ c.status ≠ .completed ∧
    loadCommand id s' = some c' ∧ c'.status = .completed

def GuardCompletes (now : Millis) (s : Tables) (id : CommandId) : Prop :=
  ∃ c child row s', loadCommand id s = some c ∧ c.childRunId = some child ∧
    markCommandCompletedIfBoundAndTerminal id child now s = .ok (.completed row, s')

structure CompletionsAgree (now : Millis) (s : Tables) : Prop where
  runs : ∃ rows s', reconcileCompletedCommands now s = .ok (rows, s')
  same : ∀ id, ReconcileCompletes now s id ↔ GuardCompletes now s id
  frame : ∀ rows s', reconcileCompletedCommands now s = .ok (rows, s') →
    s' = { s with commands := s'.commands } ∧
      s'.commands.map Command.commandId = s.commands.map Command.commandId ∧
      ∀ id, ¬ ReconcileCompletes now s id → loadCommand id s' = loadCommand id s

/-- A finished child of a command in flight is in the conversation of the command, under its
parent. -/
def ChildrenFit (s : Tables) : Prop :=
  ∀ c ∈ s.commands, c.status.inFlight = true → ∀ r ∈ s.runs, c.childRunId = some r.runId →
    r.status.isTerminal = true →
    r.conversationId = c.conversationId ∧ r.parentRunId = some c.parentRunId

section Agreeing

variable {s : Tables} {now : Millis} (keys : Keys s)

include keys

theorem reconcileCompletes_iff {id : CommandId} : ReconcileCompletes now s id ↔
    ∃ c, loadCommand id s = some c ∧ finishedChild s c := by
  rcases reconcileCompletedCommands_eq keys.commands now with ⟨rows, done⟩
  have after := @lookup_update _ _ _ Command.commandId (fun c => decide (finishedChild s c))
    (completedAt now) (by intros; rfl) id s.commands
  constructor
  · rintro ⟨_, s', c, c', done', found, open_, found', completed⟩
    cases done.symm.trans done'
    refine ⟨c, found, ?_⟩
    by_contra unfinished
    rw [loadCommand, updateCommands, after] at found'
    rw [loadCommand] at found
    rw [found, Option.map_some, if_neg (by simpa using unfinished)] at found'
    cases found'
    exact open_ completed
  · rintro ⟨c, found, finished⟩
    refine ⟨rows, _, c, completedAt now c, done, found, ?_, ?_, rfl⟩
    · intro completed
      have flying := finished.1
      rw [completed] at flying
      cases flying
    · rw [loadCommand, updateCommands, after]
      rw [loadCommand] at found
      rw [found, Option.map_some, if_pos (decide_eq_true finished)]

theorem guardCompletes_iff {id : CommandId} : GuardCompletes now s id ↔
    ∃ c, loadCommand id s = some c ∧ c.status.inFlight = true ∧
      ∃ r ∈ s.runs, c.childRunId = some r.runId ∧ childOk c r = true := by
  constructor
  · rintro ⟨c, child, row, s', found, bound, ok⟩
    rcases (completes_iff keys.commands found bound).mp ⟨row, s', ok⟩ with ⟨flying, r, there, fit⟩
    have held := lookup_mem there
    exact ⟨c, found, flying, r, held.1, bound.trans (congrArg some held.2.symm), fit⟩
  · rintro ⟨c, found, flying, r, member, bound, fit⟩
    have there : loadRun r.runId s = some r := keys.runs.lookup_iff.mpr ⟨member, rfl⟩
    rcases (@completes_iff s now keys.commands id c r.runId found bound).mpr
      ⟨flying, r, there, fit⟩ with ⟨row, s', ok⟩
    exact ⟨c, r.runId, row, s', found, bound, ok⟩

theorem completionsAgree_iff_of_keys : CompletionsAgree now s ↔ ChildrenFit s := by
  constructor
  · intro agree c member flying r run bound terminal
    have found : loadCommand c.commandId s = some c := keys.commands.lookup_iff.mpr ⟨member, rfl⟩
    have completes : ReconcileCompletes now s c.commandId :=
      (reconcileCompletes_iff keys).mpr ⟨c, found, flying, r, run, bound, terminal⟩
    rcases (guardCompletes_iff keys).mp ((agree.same c.commandId).mp completes) with
      ⟨c', found', _, r', run', bound', fit⟩
    cases found.symm.trans found'
    have one : r' = r :=
      keys.runs.eq_of_key run' run (Option.some.inj (bound'.symm.trans bound))
    subst one
    simp only [childOk, Bool.and_eq_true, decide_eq_true_iff] at fit
    exact ⟨fit.1.2, fit.2⟩
  · intro fits
    rcases reconcileCompletedCommands_eq keys.commands now with ⟨rows, done⟩
    refine ⟨⟨rows, _, done⟩, ?_, ?_⟩
    · intro id
      rw [reconcileCompletes_iff keys, guardCompletes_iff keys]
      constructor
      · rintro ⟨c, found, flying, r, run, bound, terminal⟩
        have fit := fits c (lookup_mem found).1 flying r run bound terminal
        exact ⟨c, found, flying, r, run, bound, by simp [childOk, terminal, fit.1, fit.2]⟩
      · rintro ⟨c, found, flying, r, run, bound, fit⟩
        simp only [childOk, Bool.and_eq_true] at fit
        exact ⟨c, found, flying, r, run, bound, fit.1.1⟩
    · intro rows' s' done'
      cases done.symm.trans done'
      refine ⟨rfl, keys_update (by intros; rfl) s.commands, ?_⟩
      intro id spared
      rw [loadCommand, updateCommands, lookup_update (by intros; rfl), loadCommand]
      cases found : lookup Command.commandId id s.commands with
      | none => rfl
      | some c =>
          have unfinished : ¬ finishedChild s c := fun finished =>
            spared ((reconcileCompletes_iff keys).mpr ⟨c, found, finished⟩)
          rw [Option.map_some, if_neg (by simpa using unfinished)]

end Agreeing

variable (sha256 : Sha256) (serde : Serde) in
theorem completionsAgree_iff {s : Tables} (reached : Reachable sha256 serde s) (now : Millis) :
    CompletionsAgree now s ↔ ChildrenFit s :=
  completionsAgree_iff_of_keys (reachable_keys reached)

def strayChild : List Op :=
  [.createConversation none "v" ⟨1, "e1"⟩,
    .createRun ⟨"v", none, "agent", "role"⟩ none "r" ⟨2, "e2"⟩,
    .startRun "r" ⟨3, "e3"⟩,
    .completeRun "r" ⟨4, "e4"⟩,
    .setRunProviderSession "r" "session",
    .createCommand ⟨"v", "r", "go on"⟩ ⟨"key"⟩ "c" 5,
    .bindCommandChildRun "c" "child" 6,
    .createRun ⟨"v", none, "agent", "role"⟩ none "child" ⟨7, "e7"⟩,
    .startRun "child" ⟨8, "e8"⟩,
    .completeRun "child" ⟨9, "e9"⟩]

theorem strayChild_disagrees :
    ¬ CompletionsAgree 10 (run standardSha256 printedSerde .empty strayChild) := by
  intro agree
  have fits := (completionsAgree_iff_of_keys (reachable_keys ⟨strayChild, rfl⟩)).mp agree
  revert fits
  simp only [ChildrenFit]
  decide +kernel

theorem completionsAgree_iff_strayChild :
    CompletionsAgree 10 (run standardSha256 printedSerde .empty (strayChild.take 7)) :=
  (completionsAgree_iff standardSha256 printedSerde ⟨strayChild.take 7, rfl⟩ 10).mpr (by
    simp only [ChildrenFit]
    decide +kernel)

end O7Formal.Ledger
