import O7Formal.Ledger.Effects

/-! What the operations on commands have written: each of them replaces one row at most, by a row
that depends on the one it finds. -/

namespace O7Formal.Ledger

open Fallible Table

def put (c : Command) (s : Tables) : Tables :=
  { s with
    commands := update (fun q => decide (q.commandId = c.commandId)) (fun _ => c) s.commands }

@[simp] theorem put_runs (c : Command) (s : Tables) : (put c s).runs = s.runs := rfl
@[simp] theorem put_attempts (c : Command) (s : Tables) : (put c s).attempts = s.attempts := rfl
@[simp] theorem put_events (c : Command) (s : Tables) : (put c s).events = s.events := rfl
@[simp] theorem put_records (c : Command) (s : Tables) : (put c s).records = s.records := rfl
@[simp] theorem put_conversations (c : Command) (s : Tables) :
    (put c s).conversations = s.conversations := rfl

@[simp] theorem loadRun_put (c : Command) (id : RunId) (s : Tables) :
    loadRun id (put c s) = loadRun id s := rfl

theorem put_keeps (c q : Command) (named : decide (q.commandId = c.commandId) = true) :
    c.commandId = q.commandId :=
  (of_decide_eq_true named).symm

theorem keyed_put {c : Command} {s : Tables} (keyed : Keyed Command.commandId s.commands) :
    Keyed Command.commandId (put c s).commands :=
  keyed_update (put_keeps c) keyed

theorem loadCommand_put (c : Command) (s : Tables) (id : CommandId) :
    loadCommand id (put c s) =
      if id = c.commandId then (loadCommand id s).map fun _ => c else loadCommand id s := by
  rw [loadCommand, put, lookup_update (put_keeps c), loadCommand]
  cases found : lookup Command.commandId id s.commands with
  | none => simp
  | some q =>
      have named : q.commandId = id := (lookup_mem found).2
      by_cases here : id = c.commandId <;> simp [named, here]

theorem loadCommand_put_self {c current : Command} {s : Tables}
    (found : loadCommand c.commandId s = some current) :
    loadCommand c.commandId (put c s) = some c := by
  rw [loadCommand_put, if_pos rfl, found]
  rfl

theorem loadCommand_put_other {c : Command} {s : Tables} {id : CommandId}
    (other : id ≠ c.commandId) : loadCommand id (put c s) = loadCommand id s := by
  rw [loadCommand_put, if_neg other]

section Writing

variable {commandId : CommandId} {current : Command} {s s' : Tables}
  (keyed : Keyed Command.commandId s.commands)

include keyed

/-- A conditional `UPDATE` of one command. -/
theorem updateCommands_one (found : loadCommand commandId s = some current)
    (selects : Command → Bool) {set : Command → Command}
    (keeps : (set current).commandId = current.commandId) :
    updateCommands (fun c => decide (c.commandId = commandId) && selects c) set s =
      if selects current then put (set current) s else s := by
  have named := (lookup_mem found).2
  rw [updateCommands, update_one keyed found]
  split_ifs
  · rw [update_value keyed found, put, keeps, named]
  · rfl

theorem changeCommand_eq (found : loadCommand commandId s = some current)
    (selects : Command → Bool) {set : Command → Command}
    (keeps : ∀ c, (set c).commandId = c.commandId) :
    changeCommand commandId selects set s =
      .ok (if selects current then (set current, put (set current) s) else (current, s)) := by
  have named : current.commandId = commandId := (lookup_mem found).2
  rw [changeCommand, commandOr, found]
  simp only [okOr, ok_bind, updateCommands_one keyed found selects (keeps current), commandOr]
  cases selects current with
  | false => simp [found, pure, Except.pure]
  | true =>
      have reloaded : loadCommand commandId (put (set current) s) = some (set current) := by
        rw [← named, ← keeps current] at found ⊢
        exact loadCommand_put_self found
      simp [reloaded, pure, Except.pure]

theorem changeCommand_ok {selects : Command → Bool} {set : Command → Command} {c : Command}
    (keeps : ∀ c, (set c).commandId = c.commandId)
    (ok : changeCommand commandId selects set s = .ok (c, s')) :
    ∃ current, loadCommand commandId s = some current ∧
      s' = if selects current then put (set current) s else s := by
  cases found : loadCommand commandId s with
  | none =>
      rw [changeCommand, commandOr, found] at ok
      cases ok
  | some current =>
      rw [changeCommand_eq keyed found selects keeps] at ok
      refine ⟨current, rfl, ?_⟩
      split_ifs at ok ⊢ <;> cases ok <;> rfl

/-- An `UPDATE` under a condition, and whether it changed the row. -/
theorem updateOne_eq (found : loadCommand commandId s = some current)
    (selects : Command → Bool) {set : Command → Command}
    (keeps : (set current).commandId = current.commandId) :
    updateOne (fun c => decide (c.commandId = commandId) && selects c) set s =
      if selects current then (true, put (set current) s) else (false, s) := by
  rw [updateOne, countP_one keyed found, updateCommands_one keyed found selects keeps]
  split_ifs <;> rfl

theorem claimStaleCommandForRedrive_ok {expectedUpdatedAt now : Millis}
    (tables : (claimStaleCommandForRedrive commandId expectedUpdatedAt now s).2 = s') :
    s' = s ∨ ∃ current, loadCommand commandId s = some current ∧
      current.status.inFlight = true ∧
      s' = put { current with updatedAt := max now (saturatingSucc expectedUpdatedAt) } s := by
  have selects : (fun c : Command => decide (c.commandId = commandId ∧
      c.updatedAt = expectedUpdatedAt ∧ c.status.inFlight = true)) = fun c =>
      decide (c.commandId = commandId) &&
        decide (c.updatedAt = expectedUpdatedAt ∧ c.status.inFlight = true) := by
    apply funext
    intro c
    exact Bool.decide_and _ _
  rw [claimStaleCommandForRedrive, selects] at tables
  rw [← tables]
  cases found : loadCommand commandId s with
  | none =>
      left
      have missing := lookup_none_iff.mp found
      have same : update (fun c => decide (c.commandId = commandId) &&
          decide (c.updatedAt = expectedUpdatedAt ∧ c.status.inFlight = true))
          (fun c => { c with updatedAt := max now (saturatingSucc expectedUpdatedAt) })
          s.commands = s.commands := update_none fun c member => by simp [missing c member]
      rw [updateCommands, same]
  | some current =>
      rw [updateCommands_one keyed found]
      split_ifs with stale
      · exact .inr ⟨current, rfl, (of_decide_eq_true stale).2, rfl⟩
      · exact .inl rfl
      · rfl

/-- An `UPDATE` under a condition, the row read again, and the answer chosen by whether it
changed. -/
theorem answer_ok {β : Type} {selects : Command → Bool} {set : Command → Command}
    {yes no : Command → β} {answer : β} (found : loadCommand commandId s = some current)
    (keeps : (set current).commandId = current.commandId)
    (ok : (match updateOne (fun c => decide (c.commandId = commandId) && selects c) set s with
      | (changed, t) => do
        let left ← commandLeft commandId t
        return if changed then (yes left, t) else (no left, t)) = Except.ok (answer, s')) :
    (selects current = true ∧ answer = yes (set current) ∧ s' = put (set current) s) ∨
      selects current = false ∧ answer = no current ∧ s' = s := by
  have named : current.commandId = commandId := (lookup_mem found).2
  rw [updateOne_eq keyed found selects keeps] at ok
  cases chosen : selects current with
  | false =>
      simp only [chosen, Bool.false_eq_true, if_false, commandLeft, found] at ok
      cases ok
      exact .inr ⟨rfl, rfl, rfl⟩
  | true =>
      have reloaded : loadCommand commandId (put (set current) s) = some (set current) := by
        rw [← named, ← keeps] at found ⊢
        exact loadCommand_put_self found
      simp only [chosen, if_true, commandLeft, reloaded] at ok
      cases ok
      exact .inl ⟨rfl, rfl, rfl⟩

theorem rebindCommandChildRunIfCurrent_ok {expectedOldRunId freshRunId : RunId}
    {expectedUpdatedAt now : Millis} {outcome : RebindOutcome}
    (ok : rebindCommandChildRunIfCurrent commandId expectedOldRunId expectedUpdatedAt freshRunId
      now s = .ok (outcome, s')) :
    (s' = s ∧ (outcome = .notFound ∧ loadCommand commandId s = none ∨
      ∃ current, loadCommand commandId s = some current ∧
        (outcome = .notEligible current ∨ outcome = .lostRace current))) ∨
    ∃ current next, loadCommand commandId s = some current ∧ current.status.inFlight = true ∧
      current.childRunId = some expectedOldRunId ∧ current.updatedAt = expectedUpdatedAt ∧
      next = { current with
        childRunId := some freshRunId
        updatedAt := max now (saturatingSucc expectedUpdatedAt) } ∧
      outcome = .rebound next ∧ s' = put next s := by
  rw [rebindCommandChildRunIfCurrent] at ok
  cases found : loadCommand commandId s with
  | none =>
      simp only [found] at ok
      cases ok
      exact .inl ⟨rfl, .inl ⟨rfl, rfl⟩⟩
  | some current =>
      simp only [found] at ok
      by_cases settled : current.status.inFlight = false
      · rw [if_pos settled] at ok
        cases ok
        exact .inl ⟨rfl, .inr ⟨current, rfl, .inl rfl⟩⟩
      · rw [if_neg settled] at ok
        by_cases elsewhere : current.childRunId ≠ some expectedOldRunId ∨
            current.updatedAt ≠ expectedUpdatedAt
        · rw [if_pos elsewhere] at ok
          cases ok
          exact .inl ⟨rfl, .inr ⟨current, rfl, .inr rfl⟩⟩
        · rw [if_neg elsewhere] at ok
          simp only [Bool.decide_and _ (_ ∧ _)] at ok
          rcases answer_ok keyed found rfl ok with ⟨_, answer, tables⟩ | ⟨_, answer, tables⟩
          · rw [Bool.not_eq_false] at settled
            rw [not_or, not_not, not_not] at elsewhere
            exact .inr ⟨current, _, rfl, settled, elsewhere.1, elsewhere.2, rfl, answer, tables⟩
          · exact .inl ⟨tables, .inr ⟨current, rfl, .inr answer⟩⟩

theorem completeBound_ok {runId : RunId} {now : Millis} {outcome : CompletionOutcome}
    (found : loadCommand commandId s = some current) (bound : boundTo runId current = true)
    (ok : completeBound commandId runId now s = .ok (outcome, s')) :
    ∃ next, next = { current with status := .completed, updatedAt := now } ∧
      outcome = .completed next ∧ s' = put next s := by
  rcases answer_ok keyed found rfl ok with ⟨_, answer, tables⟩ | ⟨missed, answer, tables⟩
  · exact ⟨_, rfl, answer, tables⟩
  · rw [bound] at missed
    cases missed

theorem markCommandCompletedIfBound_ok {runId : RunId} {now : Millis}
    {outcome : CompletionOutcome}
    (ok : markCommandCompletedIfBound commandId runId now s = .ok (outcome, s')) :
    (s' = s ∧ (outcome = .notFound ∧ loadCommand commandId s = none ∨
      ∃ current, loadCommand commandId s = some current ∧ outcome = .notBound current)) ∨
    ∃ current next, loadCommand commandId s = some current ∧ boundTo runId current = true ∧
      next = { current with status := .completed, updatedAt := now } ∧
      outcome = .completed next ∧ s' = put next s := by
  rw [markCommandCompletedIfBound] at ok
  cases found : loadCommand commandId s with
  | none =>
      simp only [found] at ok
      cases ok
      exact .inl ⟨rfl, .inl ⟨rfl, rfl⟩⟩
  | some current =>
      simp only [found] at ok
      split_ifs at ok with unbound
      · cases ok
        exact .inl ⟨rfl, .inr ⟨current, rfl, rfl⟩⟩
      · rw [Bool.not_eq_false] at unbound
        rcases completeBound_ok keyed found unbound ok with ⟨next, shape, outcome, tables⟩
        exact .inr ⟨current, next, rfl, unbound, shape, outcome, tables⟩

theorem markCommandCompletedIfBoundAndTerminal_ok {runId : RunId} {now : Millis}
    {outcome : CompletionOutcome}
    (ok : markCommandCompletedIfBoundAndTerminal commandId runId now s = .ok (outcome, s')) :
    (s' = s ∧ (outcome = .notFound ∧ loadCommand commandId s = none ∨
      ∃ current, loadCommand commandId s = some current ∧ outcome = .notBound current)) ∨
    ∃ current next child, loadCommand commandId s = some current ∧
      boundTo runId current = true ∧ loadRun runId s = some child ∧
      childOk current child = true ∧
      next = { current with status := .completed, updatedAt := now } ∧
      outcome = .completed next ∧ s' = put next s := by
  rw [markCommandCompletedIfBoundAndTerminal] at ok
  cases found : loadCommand commandId s with
  | none =>
      simp only [found] at ok
      cases ok
      exact .inl ⟨rfl, .inl ⟨rfl, rfl⟩⟩
  | some current =>
      simp only [found] at ok
      have unchanged : (Except.ok (CompletionOutcome.notBound current, s) :
          Except LedgerError (CompletionOutcome × Tables)) = .ok (outcome, s') →
          s' = s ∧ ∃ c, some current = some c ∧ outcome = .notBound c := by
        intro same
        cases same
        exact ⟨rfl, current, rfl, rfl⟩
      split_ifs at ok with unbound
      · exact .inl ⟨(unchanged ok).1, .inr (unchanged ok).2⟩
      · cases child : loadRun runId s with
        | none =>
            simp only [child] at ok
            exact .inl ⟨(unchanged ok).1, .inr (unchanged ok).2⟩
        | some row =>
            simp only [child] at ok
            split_ifs at ok with unfit
            · exact .inl ⟨(unchanged ok).1, .inr (unchanged ok).2⟩
            · rw [Bool.not_eq_false] at unbound unfit
              rcases completeBound_ok keyed found unbound ok with ⟨next, shape, outcome, tables⟩
              exact .inr ⟨current, next, row, rfl, unbound, rfl, unfit, shape, outcome, tables⟩

theorem markCommandRejectedIfUnattachedAndBound_ok {runId : RunId} {now : Millis}
    {outcome : RejectionOutcome}
    (ok : markCommandRejectedIfUnattachedAndBound commandId runId now s = .ok (outcome, s')) :
    (s' = s ∧ (outcome = .notFound ∧ loadCommand commandId s = none ∨
      ∃ current, loadCommand commandId s = some current ∧ outcome = .notEligible current)) ∨
    ∃ current next, loadCommand commandId s = some current ∧ boundTo runId current = true ∧
      loadRun runId s = none ∧
      next = { current with status := .rejected, updatedAt := now } ∧
      outcome = .rejected next ∧ s' = put next s := by
  rw [markCommandRejectedIfUnattachedAndBound] at ok
  cases found : loadCommand commandId s with
  | none =>
      simp only [found] at ok
      cases ok
      exact .inl ⟨rfl, .inl ⟨rfl, rfl⟩⟩
  | some current =>
      simp only [found] at ok
      by_cases unbound : boundTo runId current = false
      · rw [if_pos unbound] at ok
        cases ok
        exact .inl ⟨rfl, .inr ⟨current, rfl, rfl⟩⟩
      · rw [if_neg unbound] at ok
        simp only [Bool.and_assoc] at ok
        rcases answer_ok keyed found rfl ok with ⟨selected, answer, tables⟩ | ⟨_, answer, tables⟩
        · rw [Bool.and_eq_true, decide_eq_true_iff] at selected
          exact .inr ⟨current, _, rfl, selected.1, selected.2, rfl, answer, tables⟩
        · exact .inl ⟨tables, .inr ⟨current, rfl, answer⟩⟩

theorem repairOne_ok {now : Millis} {repaired : List Command} {next : List Command × Tables}
    (ok : repairOne now (repaired, s) commandId = .ok next) :
    ∃ c, loadCommand commandId s = some c ∧
      next.2 = put { c with status := .completed, updatedAt := now } s := by
  simp only [repairOne, commandLeft, bind_ok_iff, okOr_ok_iff, pure_ok_iff] at ok
  rcases ok with ⟨left, reloaded, rfl⟩
  let completed := fun c : Command => { c with status := .completed, updatedAt := now }
  have keeps : ∀ c : Command, decide (c.commandId = commandId) = true →
      (completed c).commandId = c.commandId := fun _ _ => rfl
  have written := lookup_update keeps commandId s.commands
  rcases Option.map_eq_some_iff.mp (written.symm.trans reloaded) with ⟨c, found, _⟩
  refine ⟨c, found, ?_⟩
  have one : updateCommands (fun c => decide (c.commandId = commandId) && true) completed s = _ :=
    updateCommands_one keyed found (fun _ => true) rfl
  simp only [Bool.and_true, if_true] at one
  exact one

theorem reconcileCompletedCommands_keeps {motive : Tables → Prop} {now : Millis}
    {repaired : List Command} (held : motive s)
    (keeps : ∀ t c, Keyed Command.commandId t.commands → motive t →
      loadCommand c.commandId t = some c →
      (∃ row ∈ s.commands, row.commandId = c.commandId ∧ finishedChild s row) →
      motive (put { c with status := .completed, updatedAt := now } t))
    (ok : reconcileCompletedCommands now s = .ok (repaired, s')) : motive s' := by
  rw [reconcileCompletedCommands] at ok
  have listed : ∀ id ∈ (s.commands.filter fun c => decide (finishedChild s c)).map
      Command.commandId, ∃ row ∈ s.commands, row.commandId = id ∧ finishedChild s row := by
    intro id member
    rcases List.mem_map.mp member with ⟨row, among, named⟩
    rcases List.mem_filter.mp among with ⟨stored, finished⟩
    exact ⟨row, stored, named, of_decide_eq_true finished⟩
  generalize (s.commands.filter fun c => decide (finishedChild s c)).map Command.commandId = ids
    at ok listed
  -- Induction on the ids still to be repaired: the tables so far keep the rows' keys and `motive`.
  have fold : ∀ (ids : List CommandId) (begun ended : List Command × Tables),
      (∀ id ∈ ids, ∃ row ∈ s.commands, row.commandId = id ∧ finishedChild s row) →
      Keyed Command.commandId begun.2.commands → motive begun.2 →
      ids.foldlM (repairOne now) begun = .ok ended → motive ended.2 := by
    intro ids
    induction ids with
    | nil =>
        intro begun ended _ _ held ran
        cases ran
        exact held
    | cons id rest ih =>
        intro begun ended listed keyed held ran
        rw [List.foldlM_cons, bind_ok_iff] at ran
        rcases ran with ⟨next, stepped, later⟩
        rcases repairOne_ok keyed stepped with ⟨c, found, tables⟩
        have named : c.commandId = id := (lookup_mem found).2
        have here := listed id List.mem_cons_self
        rw [← named] at here found
        apply ih next ended (fun id member => listed id (List.mem_cons_of_mem _ member)) _ _ later
        · rw [tables]
          exact keyed_put keyed
        · rw [tables]
          exact keeps begun.2 c keyed held found here
  exact fold ids ([], s) (repaired, s') listed keyed held ok

end Writing

end O7Formal.Ledger
