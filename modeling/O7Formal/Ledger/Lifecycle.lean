import O7Formal.Ledger.Story

/-! The lifecycle of runs and attempts over every sequence of operations: each operation tells
every run's story on by one of its steps, or leaves it alone. -/

namespace O7Formal.Ledger

open Fallible Table
open O7Formal.Run (Sha256)

def attemptsOf (runId : RunId) (attempts : List RunAttempt) : List RunAttempt :=
  attempts.filter fun a => decide (a.runId = runId)

def story (runId : RunId) (s : Tables) : Option Story :=
  (loadRun runId s).map fun r => (r, attemptsOf runId s.attempts)

structure Sane (s : Tables) : Prop where
  keys : Keys s
  owned : ∀ a ∈ s.attempts, loadRun a.runId s ≠ none
  sound : ∀ runId, ∀ st ∈ story runId s, Sound st

section Tables

variable {runId : RunId} {s : Tables}

theorem story_some {st : Story} (told : story runId s = some st) :
    loadRun runId s = some st.1 ∧ st.2 = attemptsOf runId s.attempts := by
  rcases Option.map_eq_some_iff.mp told with ⟨r, found, rfl⟩
  exact ⟨found, rfl⟩

theorem story_congr {s' : Tables} (runs : s'.runs = s.runs) (attempts : s'.attempts = s.attempts)
    (runId : RunId) : story runId s' = story runId s := by
  rw [story, story, loadRun, loadRun, runs, attempts]

theorem story_of {s' : Tables} {found : Option Run} {attempts : List RunAttempt}
    (run : lookup Run.runId runId s'.runs = found)
    (mine : attemptsOf runId s'.attempts = attempts) :
    story runId s' = found.map fun r => (r, attempts) := by
  rw [story, loadRun, run, mine]

theorem attemptsOf_update {selects : RunAttempt → Bool} {status : AttemptStatus} {now : Millis}
    (attempts : List RunAttempt) :
    attemptsOf runId (update selects (closedAs status now) attempts) =
      update selects (closedAs status now) (attemptsOf runId attempts) := by
  rw [attemptsOf, update, List.filter_map, update, attemptsOf]
  congr 1
  apply List.filter_congr
  intro a _
  have same : (if selects a then closedAs status now a else a).runId = a.runId := by
    split_ifs <;> rfl
  simp [same]

theorem attemptsOf_append (attempts : List RunAttempt) (a : RunAttempt) :
    attemptsOf runId (attempts ++ [a]) =
      attemptsOf runId attempts ++ if a.runId = runId then [a] else [] := by
  rw [attemptsOf, List.filter_append, attemptsOf]
  by_cases here : a.runId = runId <;> simp [here]

theorem update_forall₂ {relates : RunAttempt → RunAttempt → Prop} {selects : RunAttempt → Bool}
    {set : RunAttempt → RunAttempt} {attempts : List RunAttempt}
    (each : ∀ a ∈ attempts, relates a (if selects a then set a else a)) :
    List.Forall₂ relates attempts (update selects set attempts) := by
  rw [update, List.forall₂_map_right_iff, List.forall₂_same]
  exact each

theorem update_closes {selects : RunAttempt → Bool} {status : AttemptStatus} {now : Millis}
    (other : status ≠ .running)
    (running : ∀ a ∈ s.attempts, selects a = true → a.status = .running) :
    List.Forall₂ Closes (attemptsOf runId s.attempts)
      (attemptsOf runId (update selects (closedAs status now) s.attempts)) := by
  rw [attemptsOf_update]
  apply update_forall₂
  intro a member
  split_ifs with selected
  · exact .inr ⟨running a (List.mem_of_mem_filter member) selected, status, now, other, rfl⟩
  · exact .inl rfl

theorem loadRun_setRun {set : Run → Run} (keeps : ∀ r, (set r).runId = r.runId) (named : RunId) :
    lookup Run.runId runId (setRun named set s.runs) =
      (loadRun runId s).map fun r => if r.runId = named then set r else r := by
  rw [setRun, lookup_update (fun r _ => keeps r), loadRun]
  simp

theorem loadRun_setRun_self {set : Run → Run} (keeps : ∀ r, (set r).runId = r.runId) {r : Run}
    (found : loadRun r.runId s = some r) :
    lookup Run.runId r.runId (setRun r.runId set s.runs) = some (set r) := by
  rw [loadRun_setRun keeps, found, Option.map_some, if_pos rfl]

theorem loadRun_setRun_other {set : Run → Run} (keeps : ∀ r, (set r).runId = r.runId)
    {named : RunId} (other : runId ≠ named) :
    lookup Run.runId runId (setRun named set s.runs) = loadRun runId s := by
  rw [loadRun_setRun keeps]
  cases found : loadRun runId s with
  | none => rfl
  | some r =>
      have here : r.runId = runId := (lookup_mem found).2
      rw [Option.map_some, if_neg (by rw [here]; exact other)]

end Tables

theorem terminalAttemptStatus_closed (target : RunStatus) :
    terminalAttemptStatus target ≠ .running := by
  cases target <;> decide

theorem attemptTransition_closes {source target : AttemptStatus}
    (allowed : attemptTransitionAllowed source target = true) :
    source = .running ∧ target ≠ .running := by
  cases source <;> cases target <;> first | exact ⟨rfl, by decide⟩ | cases allowed

theorem lastInterrupted_some {runId : RunId} {s : Tables} {a : RunAttempt}
    (found : lastInterrupted runId s = some a) :
    (a ∈ s.attempts ∧ a.runId = runId ∧ a.status = .interrupted) ∧
      ∀ b ∈ s.attempts, b.runId = runId → b.status = .interrupted →
        b.attemptNumber ≤ a.attemptNumber := by
  rw [lastInterrupted] at found
  rcases foldl_highest (fun _ => rfl) (fun _ _ => rfl) found with ⟨source, _, highest⟩
  constructor
  · rcases source with absent | member
    · cases absent
    · simpa using List.mem_filter.mp member
  · intro b member mine status
    exact highest b (List.mem_filter.mpr ⟨member, decide_eq_true ⟨mine, status⟩⟩)

theorem lastInterrupted_none {runId : RunId} {s : Tables}
    (missing : lastInterrupted runId s = none) :
    ∀ b ∈ s.attempts, b.runId = runId → b.status ≠ .interrupted := by
  rw [lastInterrupted] at missing
  have empty := (foldl_highest_none (fun _ => rfl) (fun _ _ => rfl) missing).2
  intro b member mine status
  have listed := List.filter_eq_nil_iff.mp empty b member
  exact listed (decide_eq_true ⟨mine, status⟩)

section Step

variable {op : Op} {runId : RunId} {s s' : Tables} (sane : Sane s)

include sane

theorem story_sound {r : Run} (found : loadRun runId s = some r) :
    story runId s = some (r, attemptsOf runId s.attempts) ∧
      Sound (r, attemptsOf runId s.attempts) := by
  have told : story runId s = some (r, attemptsOf runId s.attempts) := by
    rw [story, found]
    rfl
  exact ⟨told, sane.sound runId _ told⟩

theorem tells_resting {set : Run → Run} (status : ∀ r, (set r).status = r.status)
    (finished : ∀ r, (set r).finishedAt = r.finishedAt)
    (run : loadRun runId s' = (loadRun runId s).map set)
    (closes : List.Forall₂ Closes (attemptsOf runId s.attempts) (attemptsOf runId s'.attempts)) :
    Tells op (story runId s) (story runId s') := by
  cases found : loadRun runId s with
  | none =>
      rw [story, story, run, found]
      exact .same none
  | some r =>
      have before := story_sound sane found
      rw [before.1, story, run, found]
      apply Tells.advanced _ _ (.inl (status r)) _ closes
      · intro resting
        apply closes_not_running closes
        apply before.2.none_running
        rw [← status r]
        exact resting
      · exact (congrArg Option.isSome (finished r)).trans
          (before.2.finished.trans (congrArg RunStatus.isTerminal (status r)).symm)

theorem tells_unmoved (run : loadRun runId s' = loadRun runId s)
    (closes : List.Forall₂ Closes (attemptsOf runId s.attempts) (attemptsOf runId s'.attempts)) :
    Tells op (story runId s) (story runId s') := by
  apply tells_resting sane (fun _ => rfl) (fun _ => rfl) _ closes
  rw [run, Option.map_id']

theorem tells_moving {r r' : Run} (found : loadRun runId s = some r)
    (after : loadRun runId s' = some r')
    (allowed : runTransitionAllowed r.status r'.status = true)
    (finished : r'.finishedAt.isSome = r'.status.isTerminal)
    (closes : List.Forall₂ Closes (attemptsOf runId s.attempts) (attemptsOf runId s'.attempts))
    (idle : r'.status ≠ .running → ∀ b ∈ attemptsOf runId s'.attempts, b.status ≠ .running) :
    Tells op (story runId s) (story runId s') := by
  rw [(story_sound sane found).1, story, after]
  exact .advanced _ _ (.inr allowed) finished closes idle

omit sane in
theorem closes_refl (attempts : List RunAttempt) : List.Forall₂ Closes attempts attempts :=
  List.forall₂_same.mpr fun _ _ => .inl rfl

omit sane in
theorem closeRunning_idle {status : AttemptStatus} {now : Millis} (other : status ≠ .running) :
    ∀ b ∈ attemptsOf runId (closeRunning runId status now s.attempts), b.status ≠ .running := by
  intro b member
  rw [closeRunning, attemptsOf_update] at member
  rcases mem_update.mp member with ⟨a, held, rfl⟩
  have owner : a.runId = runId := of_decide_eq_true (List.mem_filter.mp held).2
  split_ifs with selected
  · exact other
  · simpa [owner] using selected

omit sane in
theorem closeRunning_closes {named : RunId} {status : AttemptStatus} {now : Millis}
    (other : status ≠ .running) :
    List.Forall₂ Closes (attemptsOf runId s.attempts)
      (attemptsOf runId (closeRunning named status now s.attempts)) :=
  update_closes other fun _ _ selected => (of_decide_eq_true selected).2

theorem moved_tells {r : Run} {target : RunStatus} {now : Millis} {events : List EventRow}
    (found : loadRun r.runId s = some r)
    (allowed : runTransitionAllowed r.status target = true) :
    Tells op (story runId s) (story runId { s with
      runs := setRun r.runId
        (withStatus target (if target.isTerminal then some now else none)) s.runs,
      attempts := if target.isTerminal ∨ target = .interrupted then
        closeRunning r.runId (terminalAttemptStatus target) now s.attempts else s.attempts,
      events := events }) := by
  have closes : List.Forall₂ Closes (attemptsOf runId s.attempts) (attemptsOf runId
      (if target.isTerminal ∨ target = .interrupted then
        closeRunning r.runId (terminalAttemptStatus target) now s.attempts else s.attempts)) := by
    split_ifs
    · exact closeRunning_closes (terminalAttemptStatus_closed target)
    · exact closes_refl _
  by_cases here : runId = r.runId
  · subst here
    refine tells_moving sane found (loadRun_setRun_self (by intros; rfl) found) allowed ?_ closes ?_
    · cases target <;> rfl
    · intro resting
      have closing : target.isTerminal = true ∨ target = .interrupted := by
        cases target <;> first
          | exact .inl rfl
          | exact .inr rfl
          | exact absurd rfl resting
          | (cases status : r.status <;> rw [status] at allowed <;> cases allowed)
      rw [if_pos closing]
      exact closeRunning_idle (terminalAttemptStatus_closed target)
  · exact tells_unmoved sane (loadRun_setRun_other (by intros; rfl) here) closes

omit sane in
theorem attempt_tells {r : Run} {attemptId : AttemptId} {now : Millis}
    (found : loadRun r.runId s = some r) (running : r.status = .running)
    (fits : AttemptFits (nextAttempt r.runId attemptId now s) s) :
    Tells op (story runId s)
      (story runId { s with attempts := s.attempts ++ [nextAttempt r.runId attemptId now s] }) := by
  have after : story runId { s with
      attempts := s.attempts ++ [nextAttempt r.runId attemptId now s] } =
      (loadRun runId s).map fun row => (row, attemptsOf runId s.attempts ++
        if r.runId = runId then [nextAttempt r.runId attemptId now s] else []) := by
    rw [story, attemptsOf_append]
    rfl
  by_cases here : r.runId = runId
  · subst here
    rw [after, story, found, if_pos rfl]
    apply Tells.attempted (r, attemptsOf r.runId s.attempts) _ running _ rfl rfl rfl
    intro b member
    rcases List.mem_filter.mp member with ⟨held, owner⟩
    exact fits.alone rfl b held (of_decide_eq_true owner)
  · rw [after, story, if_neg here]
    simp only [List.append_nil]
    exact .same _

theorem closed_tells {a : RunAttempt} {target : AttemptStatus} {now : Millis}
    (found : loadAttempt a.attemptId s = some a)
    (allowed : attemptTransitionAllowed a.status target = true) :
    Tells op (story runId s) (story runId { s with
      attempts := update (fun q => decide (q.attemptId = a.attemptId)) (closedAs target now)
        s.attempts }) := by
  have closing := attemptTransition_closes allowed
  refine tells_unmoved sane rfl (update_closes closing.2 ?_)
  intro q member selected
  rw [selects_one sane.keys.attempts found member (of_decide_eq_true selected)]
  exact closing.1

theorem session_tells {named : RunId} {session : String} :
    Tells op (story runId s) (story runId { s with
      runs := setRun named (fun r => { r with providerSessionId := some session }) s.runs }) := by
  refine tells_resting sane ?_ ?_ (loadRun_setRun (by intros; rfl) named) (closes_refl _)
  · intro r
    split_ifs <;> rfl
  · intro r
    split_ifs <;> rfl

theorem closeRunning_same {r : Run} (found : loadRun runId s = some r) (idle : r.status ≠ .running)
    (status : AttemptStatus) (now : Millis) :
    closeRunning runId status now s.attempts = s.attempts := by
  apply update_none
  intro a member
  rw [decide_eq_false_iff_not]
  intro selected
  have mine : a ∈ attemptsOf runId s.attempts :=
    List.mem_filter.mpr ⟨member, decide_eq_true selected.1⟩
  exact (story_sound sane found).2.none_running idle a mine selected.2

theorem resumed_tells {r : Run} {attemptId : AttemptId} {stamp : Stamp} {a : RunAttempt}
    (found : loadRun r.runId s = some r) (interrupted : r.status = .interrupted)
    (number : a.attemptNumber = nextAttemptNumber r.runId s) (owner : a.runId = r.runId)
    (running : a.status = .running) (unfinished : a.finishedAt = none)
    (runs : s'.runs = setRun r.runId (withStatus .running none) s.runs)
    (attempts : s'.attempts = s.attempts ++ [a]) :
    Tells (.resumeInterruptedRun r.runId attemptId stamp) (story runId s) (story runId s') := by
  have mine := (congrArg (attemptsOf runId) attempts).trans (attemptsOf_append s.attempts a)
  rw [owner] at mine
  by_cases here : runId = r.runId
  · subst here
    have after : lookup Run.runId r.runId s'.runs = some (withStatus .running none r) := by
      rw [runs]
      exact loadRun_setRun_self (by intros; rfl) found
    rw [(story_sound sane found).1, story_of after mine, if_pos rfl]
    exact .resumed (r, attemptsOf r.runId s.attempts) a attemptId stamp rfl interrupted number
      running unfinished
  · have after : lookup Run.runId runId s'.runs = loadRun runId s := by
      rw [runs]
      exact loadRun_setRun_other (by intros; rfl) here
    rw [story_of after mine, if_neg (Ne.symm here), List.append_nil]
    exact .same _

theorem repaired_tells {r : Run} {target : RunStatus} {stamp : Stamp}
    (sealed : repairEvent target ≠ none) (found : loadRun r.runId s = some r)
    (interrupted : r.status = .interrupted)
    (runs : s'.runs = setRun r.runId (withStatus target (some stamp.now)) s.runs)
    (attempts : s'.attempts = update (fun a =>
        decide (some a.attemptId = (lastInterrupted r.runId s).map RunAttempt.attemptId))
      (closedAs (terminalAttemptStatus target) stamp.now) s.attempts) :
    Tells (.repairInterruptedRunToTerminal r.runId target stamp) (story runId s)
      (story runId s') := by
  -- The row that is relabelled is an interrupted attempt of the run itself.
  have selected : ∀ a ∈ s.attempts,
      some a.attemptId = (lastInterrupted r.runId s).map RunAttempt.attemptId →
      a.runId = r.runId ∧ a.status = .interrupted := by
    intro a member chosen
    rcases Option.map_eq_some_iff.mp chosen.symm with ⟨last, lastFound, sameId⟩
    have held := (lastInterrupted_some lastFound).1
    rw [sane.keys.attempts.eq_of_key member held.1 sameId.symm]
    exact held.2
  have mine := (congrArg (attemptsOf runId) attempts).trans (attemptsOf_update s.attempts)
  by_cases here : runId = r.runId
  · subst here
    have after : lookup Run.runId r.runId s'.runs =
        some (withStatus target (some stamp.now) r) := by
      rw [runs]
      exact loadRun_setRun_self (by intros; rfl) found
    rw [(story_sound sane found).1, story_of after mine]
    apply Tells.repaired (r, attemptsOf r.runId s.attempts) _ target stamp rfl sealed interrupted
    apply update_forall₂
    intro a member
    split_ifs with chosen
    · have facts := selected a (List.mem_of_mem_filter member) (of_decide_eq_true chosen)
      exact .inr ⟨by rw [facts.2]; decide, _, _, terminalAttemptStatus_closed target, rfl⟩
    · exact .inl rfl
  · have after : lookup Run.runId runId s'.runs = loadRun runId s := by
      rw [runs]
      exact loadRun_setRun_other (by intros; rfl) here
    rw [story_of after mine, update_none]
    · exact .same _
    · intro a member
      rw [decide_eq_false_iff_not]
      intro chosen
      have owner : a.runId = runId := of_decide_eq_true (List.mem_filter.mp member).2
      exact here (owner.symm.trans (selected a (List.mem_of_mem_filter member) chosen).1)

theorem born_tells {r : Run} (fits : RunFits r s) (queued : r.status = .queued)
    (unfinished : r.finishedAt = none) (runs : s'.runs = s.runs ++ [r])
    (attempts : s'.attempts = s.attempts) : Tells op (story runId s) (story runId s') := by
  have after := (congrArg (lookup Run.runId runId) runs).trans (lookup_append runId s.runs r)
  rw [story_of after (congrArg _ attempts)]
  by_cases here : r.runId = runId
  · subst here
    have orphans : attemptsOf r.runId s.attempts = [] := by
      rw [attemptsOf, List.filter_eq_nil_iff]
      intro a member
      rw [decide_eq_true_iff]
      intro mine
      have run := sane.owned a member
      rw [mine] at run
      exact run fits.fresh
    have absent : lookup Run.runId r.runId s.runs = none := fits.fresh
    rw [story, loadRun, absent, if_pos rfl, orphans]
    exact .born r queued unfinished
  · rw [if_neg here, Option.or_none]
    exact .same _

end Step

def Interrupts (x y : Option Story) : Prop :=
  x = none ∧ y = none ∨ ∃ a b, x = some a ∧ y = some b ∧
    (b.1.status = a.1.status ∨ a.1.status = .running ∧ b.1.status = .interrupted) ∧
    b.1.finishedAt.isSome = b.1.status.isTerminal ∧ List.Forall₂ Closes a.2 b.2 ∧
    (b.1.status ≠ .running → ∀ c ∈ b.2, c.status ≠ .running)

theorem closes_trans {as bs cs : List RunAttempt} (first : List.Forall₂ Closes as bs)
    (second : List.Forall₂ Closes bs cs) : List.Forall₂ Closes as cs := by
  induction first generalizing cs with
  | nil => exact second
  | @cons a b as bs here _ ih =>
      cases second with
      | @cons _ c _ cs there rest =>
          refine .cons ?_ (ih rest)
          rcases here with rfl | ⟨running, status, now, other, rfl⟩
          · exact there
          · rcases there with rfl | ⟨again, _⟩
            · exact .inr ⟨running, status, now, other, rfl⟩
            · exact absurd again other

theorem Interrupts.trans {x y z : Option Story} (first : Interrupts x y)
    (second : Interrupts y z) : Interrupts x z := by
  rcases first with ⟨rfl, rfl⟩ | ⟨a, b, rfl, rfl, moved, _, closes, _⟩
  · exact second
  · rcases second with ⟨absent, _⟩ | ⟨b', c, same, rfl, moved', finished, closes', idle⟩
    · cases absent
    · cases same
      refine .inr ⟨a, c, rfl, rfl, ?_, finished, closes_trans closes closes', idle⟩
      rcases moved with kept | ⟨running, interrupted⟩
      · rw [← kept]
        exact moved'
      · rcases moved' with kept | ⟨running', _⟩
        · exact .inr ⟨running, kept.trans interrupted⟩
        · rw [interrupted] at running'
          cases running'

theorem Interrupts.tells {op : Op} {x y : Option Story} (interrupts : Interrupts x y) :
    Tells op x y := by
  rcases interrupts with ⟨rfl, rfl⟩ | ⟨a, b, rfl, rfl, moved, finished, closes, idle⟩
  · exact .same none
  · refine .advanced a b ?_ finished closes idle
    rcases moved with kept | ⟨running, interrupted⟩
    · exact .inl kept
    · rw [running, interrupted]
      exact .inr rfl

def Recovers (s t : Tables) : Prop :=
  Sane t ∧ ∀ runId, Interrupts (story runId s) (story runId t)

theorem owned_of {s s' : Tables} (sane : Sane s) (grows : Grows s s')
    (attempts : ∀ a ∈ s'.attempts, a.runId ∈ s.attempts.map RunAttempt.runId ∨
      a.runId ∈ s.runs.map Run.runId) : ∀ a ∈ s'.attempts, loadRun a.runId s' ≠ none := by
  intro a member
  have listed : a.runId ∈ s.runs.map Run.runId := by
    rcases attempts a member with old | new
    · rcases List.mem_map.mp old with ⟨b, held, same⟩
      rw [← same]
      exact lookup_ne_none_iff.mp (sane.owned b held)
    · exact new
  exact lookup_ne_none_iff.mpr (grows.runs.subset listed)

theorem owners_update {selects : RunAttempt → Bool} {status : AttemptStatus} {now : Millis}
    {attempts : List RunAttempt} {a : RunAttempt}
    (member : a ∈ update selects (closedAs status now) attempts) :
    a.runId ∈ attempts.map RunAttempt.runId := by
  rcases mem_update.mp member with ⟨b, held, rfl⟩
  refine List.mem_map.mpr ⟨b, held, ?_⟩
  split_ifs <;> rfl

theorem interrupts_sound {x y : Option Story} (interrupts : Interrupts x y)
    (sound : ∀ st ∈ x, Sound st) : ∀ st ∈ y, Sound st :=
  tells_sound (interrupts.tells : Tells (.markInterrupted [] []) x y) sound

theorem recovers_refl {s : Tables} (sane : Sane s) : Recovers s s := by
  refine ⟨sane, fun runId => ?_⟩
  cases told : story runId s with
  | none => exact .inl ⟨rfl, rfl⟩
  | some st =>
      have sound := sane.sound runId st told
      exact .inr ⟨st, st, rfl, rfl, .inl rfl, sound.finished, closes_refl st.2,
        sound.none_running⟩

section Recovery

variable {s s' : Tables} (sane : Sane s)

include sane

theorem interrupts_unmoved {runId : RunId} (run : loadRun runId s' = loadRun runId s)
    (closes : List.Forall₂ Closes (attemptsOf runId s.attempts) (attemptsOf runId s'.attempts)) :
    Interrupts (story runId s) (story runId s') := by
  cases found : loadRun runId s with
  | none =>
      rw [story, story, run, found]
      exact .inl ⟨rfl, rfl⟩
  | some r =>
      have before := story_sound sane found
      rw [before.1, story, run, found]
      refine .inr ⟨_, _, rfl, rfl, .inl rfl, before.2.finished, closes, ?_⟩
      intro idle
      exact closes_not_running closes (before.2.none_running idle)

theorem recovers_of (grown : Keys s' ∧ Grows s s')
    (owners : ∀ a ∈ s'.attempts, a.runId ∈ s.attempts.map RunAttempt.runId)
    (each : ∀ runId, Interrupts (story runId s) (story runId s')) : Recovers s s' := by
  refine ⟨⟨grown.1, owned_of sane grown.2 fun a member => .inl (owners a member), ?_⟩, each⟩
  intro runId
  exact interrupts_sound (each runId) (sane.sound runId)

theorem closeListed_recovers {listed : AttemptId × Millis} (ok : closeListed s listed = .ok s') :
    Recovers s s' := by
  have grown := closeListed_grows sane.keys ok
  rcases closeListed_ok ok with ⟨selects, running, rfl⟩
  refine recovers_of sane grown (fun a member => owners_update member) fun runId => ?_
  exact interrupts_unmoved sane rfl (update_closes (by decide) fun a _ => running a)

theorem interruptOne_recovers {listed : RunId × Stamp} (ok : interruptOne s listed = .ok s') :
    Recovers s s' := by
  have grown := interruptOne_grows sane.keys ok
  rcases interruptOne_ok ok with ⟨current, events, found, running, _, rfl⟩
  refine recovers_of sane grown (fun a member => owners_update member) fun runId => ?_
  have closes : List.Forall₂ Closes (attemptsOf runId s.attempts)
      (attemptsOf runId (closeRunning listed.1 .interrupted listed.2.now s.attempts)) :=
    closeRunning_closes (by decide)
  have named : current.runId = listed.1 := (lookup_mem found).2
  by_cases here : runId = listed.1
  · rw [← here] at found
    have before := story_sound sane found
    have after : lookup Run.runId runId (setRun listed.1
        (fun r => { r with status := .interrupted }) s.runs) =
        some { current with status := .interrupted } := by
      rw [loadRun_setRun (by intros; rfl), found, Option.map_some, if_pos named]
    rw [before.1, story_of after rfl]
    refine .inr ⟨_, _, rfl, rfl, .inr ⟨running, rfl⟩, ?_, closes, ?_⟩
    · have unfinished := before.2.finished
      rw [running] at unfinished
      exact unfinished
    · intro _
      rw [here]
      exact closeRunning_idle (by decide)
  · exact interrupts_unmoved sane (loadRun_setRun_other (by intros; rfl) here) closes

omit sane in
theorem foldlM_recovers {ι : Type} {write : Tables → ι → Except LedgerError Tables}
    (each : ∀ s i s', Sane s → write s i = .ok s' → Recovers s s') {listed : List ι}
    (sane : Sane s) (ok : listed.foldlM write s = .ok s') : Recovers s s' := by
  apply run_invariant (motive := fun _ t => Recovers s t) _ _ ok
  · exact recovers_refl sane
  · intro _ t i t' _ before stepped
    have after := each t i t' before.1 stepped
    exact ⟨after.1, fun runId => (before.2 runId).trans (after.2 runId)⟩

end Recovery

theorem writes_tells {s s' : Tables} {op : Op} (sane : Sane s) (writes : Writes s op s') :
    Sane s' ∧ ∀ runId, Tells op (story runId s) (story runId s') := by
  have grown := writes_grows sane.keys writes
  -- It is enough that stories go on and that no attempt is left without a run.
  have assemble : (∀ a ∈ s'.attempts, a.runId ∈ s.attempts.map RunAttempt.runId ∨
      a.runId ∈ s.runs.map Run.runId) →
      (∀ runId, Tells op (story runId s) (story runId s')) →
      Sane s' ∧ ∀ runId, Tells op (story runId s) (story runId s') := by
    intro owners tells
    refine ⟨⟨grown.1, owned_of sane grown.2 owners, ?_⟩, tells⟩
    intro runId
    exact tells_sound (tells runId) (sane.sound runId)
  have kept : ∀ a ∈ s.attempts, a.runId ∈ s.attempts.map RunAttempt.runId ∨
      a.runId ∈ s.runs.map Run.runId := fun a member => .inl (List.mem_map_of_mem member)
  have run : ∀ {r : Run}, loadRun r.runId s = some r → r.runId ∈ s.runs.map Run.runId :=
    fun found => List.mem_map_of_mem (lookup_mem found).1
  cases writes with
  | nothing => exact assemble kept fun _ => .same _
  | conversation => exact assemble kept fun _ => .same _
  | run r events records fits queued unfinished =>
      exact assemble kept fun _ => born_tells sane fits queued unfinished rfl rfl
  | moved r target now events found allowed =>
      refine assemble ?_ fun _ => moved_tells sane found allowed
      intro a member
      dsimp only at member
      split_ifs at member
      · exact .inl (owners_update member)
      · exact kept a member
  | attempt r attemptId now found running fits =>
      refine assemble ?_ fun _ => attempt_tells found running fits
      intro a member
      rcases List.mem_append.mp member with old | new
      · exact kept a old
      · rw [List.mem_singleton.mp new]
        exact .inr (run found)
  | closed a target now found allowed =>
      exact assemble (fun _ member => .inl (owners_update member)) fun _ =>
        closed_tells sane found allowed
  | resumed r attemptId stamp events t found interrupted _ tables =>
      have same := closeRunning_same sane found (by rw [interrupted]; decide) .interrupted
        stamp.now
      rw [same] at tables
      subst tables
      refine assemble ?_ fun _ => resumed_tells sane found interrupted rfl rfl rfl rfl rfl rfl
      intro a member
      rcases List.mem_append.mp member with old | new
      · exact kept a old
      · rw [List.mem_singleton.mp new]
        exact .inr (run found)
  | repaired r target stamp events sealed found interrupted =>
      exact assemble (fun _ member => .inl (owners_update member)) fun _ =>
        repaired_tells sane sealed found interrupted rfl rfl
  | interrupted runs attempts t _ first second =>
      have marked := foldlM_recovers (fun _ _ _ held => interruptOne_recovers held) sane first
      have closed := foldlM_recovers (fun _ _ _ held => closeListed_recovers held) marked.1 second
      exact ⟨closed.1, fun runId => ((marked.2 runId).trans (closed.2 runId)).tells⟩
  | session runId session => exact assemble kept fun _ => session_tells sane
  | accepted => exact assemble kept fun _ => .same _
  | command => exact assemble kept fun _ => .same _
  | reconciled now repaired _ ok =>
      have same : s'.runs = s.runs ∧ s'.attempts = s.attempts := by
        apply reconcileCompletedCommands_keeps
          (motive := fun t => t.runs = s.runs ∧ t.attempts = s.attempts) sane.keys.commands _ _ ok
        · exact ⟨rfl, rfl⟩
        · exact fun _ _ _ held _ _ => held
      refine assemble ?_ ?_
      · rw [same.2]
        exact kept
      · intro runId
        rw [story_congr same.1 same.2]
        exact .same _
  | event => exact assemble kept fun _ => .same _

section Runs

variable {sha256 : Sha256} {serde : Serde} {s : Tables}

theorem sane_empty : Sane .empty := by
  refine ⟨keys_empty, ?_, ?_⟩
  · intro a member
    cases member
  · intro runId st told
    cases told

theorem reachable_sane (reached : Reachable sha256 serde s) : Sane s := by
  apply reachable_invariant sane_empty _ reached
  intro t op reply t' sane ok
  exact (writes_tells sane (exec_writes sane.keys.commands ok)).1

theorem step_tells (sane : Sane s) (op : Op) (runId : RunId) :
    Tells op (story runId s) (story runId (step sha256 serde s op)) :=
  step_keeps (motive := fun t => Tells op (story runId s) (story runId t)) (.same _)
    fun _ _ ok => (writes_tells sane (exec_writes sane.keys.commands ok)).2 runId

structure RunsInOrder (s : Tables) : Prop where
  keyed : Keyed Run.runId s.runs
  running : ∀ a ∈ s.attempts, a.status = .running →
    ∃ r ∈ s.runs, r.runId = a.runId ∧ r.status = .running
  one : ∀ runId,
    s.attempts.countP (fun a => decide (a.runId = runId ∧ a.status = .running)) ≤ 1
  numbered : ∀ runId, ∃ n,
    (attemptsOf runId s.attempts).map RunAttempt.attemptNumber = List.range' 1 n
  run_finished : ∀ r ∈ s.runs, r.finishedAt.isSome = r.status.isTerminal
  attempt_finished : ∀ a ∈ s.attempts, a.finishedAt.isSome = true ↔ a.status ≠ .running

inductive StatusMove (op : Op) (runId : RunId) (s s' : Tables) : RunStatus → RunStatus → Prop
  | stays (status : RunStatus) : StatusMove op runId s s' status status
  | starts : StatusMove op runId s s' .queued .running
  | ends (target : RunStatus) : target.isTerminal = true ∨ target = .interrupted →
      StatusMove op runId s s' .running target
  | resumes (attemptId : AttemptId) (stamp : Stamp) (a : RunAttempt) :
      op = .resumeInterruptedRun runId attemptId stamp → a.status = .running →
      attemptsOf runId s'.attempts = attemptsOf runId s.attempts ++ [a] →
      StatusMove op runId s s' .interrupted .running
  | repairs (target : RunStatus) (stamp : Stamp) :
      op = .repairInterruptedRunToTerminal runId target stamp →
      target = .completed ∨ target = .failed ∨ target = .blocked ∨ target = .error →
      StatusMove op runId s s' .interrupted target

theorem Sane.inOrder (sane : Sane s) : RunsInOrder s := by
  have owner : ∀ a ∈ s.attempts, ∃ r, loadRun a.runId s = some r ∧
      a ∈ attemptsOf a.runId s.attempts ∧ Sound (r, attemptsOf a.runId s.attempts) := by
    intro a member
    cases found : loadRun a.runId s with
    | none => exact absurd found (sane.owned a member)
    | some r =>
        exact ⟨r, rfl, List.mem_filter.mpr ⟨member, decide_eq_true rfl⟩,
          (story_sound sane found).2⟩
  have orphans : ∀ runId, loadRun runId s = none → attemptsOf runId s.attempts = [] := by
    intro runId absent
    rw [attemptsOf, List.filter_eq_nil_iff]
    intro a member
    rw [decide_eq_true_iff]
    intro mine
    rw [← mine] at absent
    exact sane.owned a member absent
  constructor
  · exact sane.keys.runs
  · intro a member running
    rcases owner a member with ⟨r, found, mine, sound⟩
    have held := lookup_mem found
    exact ⟨r, held.1, held.2, sound.running a mine running⟩
  · intro runId
    have split : s.attempts.countP (fun a => decide (a.runId = runId ∧ a.status = .running)) =
        (attemptsOf runId s.attempts).countP fun a => decide (a.status = .running) := by
      rw [attemptsOf, List.countP_filter]
      congr 1
      apply funext
      intro a
      rw [Bool.decide_and, Bool.and_comm]
    rw [split]
    cases found : loadRun runId s with
    | none =>
        rw [orphans runId found]
        simp
    | some r => exact (story_sound sane found).2.one
  · intro runId
    cases found : loadRun runId s with
    | none => exact ⟨0, by rw [orphans runId found]; rfl⟩
    | some r => exact ⟨_, (story_sound sane found).2.numbers⟩
  · intro r member
    have found : loadRun r.runId s = some r := sane.keys.runs.lookup_iff.mpr ⟨member, rfl⟩
    exact (story_sound sane found).2.finished
  · intro a member
    rcases owner a member with ⟨r, _, mine, sound⟩
    exact sound.closed a mine

theorem allowed_move {op : Op} {runId : RunId} {s s' : Tables} {source target : RunStatus}
    (allowed : runTransitionAllowed source target = true) :
    StatusMove op runId s s' source target := by
  cases source <;> cases target <;> first
    | exact .starts
    | exact .ends _ (.inl rfl)
    | exact .ends _ (.inr rfl)
    | cases allowed

theorem step_moves (sane : Sane s) (op : Op) {runId : RunId} {r : Run}
    (found : loadRun runId s = some r) :
    ∃ r', loadRun runId (step sha256 serde s op) = some r' ∧
      StatusMove op runId s (step sha256 serde s op) r.status r'.status := by
  have tells := @step_tells sha256 serde s sane op runId
  have before := (story_sound sane found).1
  have named : r.runId = runId := (lookup_mem found).2
  generalize step sha256 serde s op = s' at tells ⊢
  generalize after : story runId s' = y at tells
  rw [before] at tells
  cases tells with
  | same => exact ⟨r, (story_some after).1, .stays _⟩
  | advanced _ y moved =>
      refine ⟨y.1, (story_some after).1, ?_⟩
      rcases moved with kept | allowed
      · rw [kept]
        exact .stays _
      · exact allowed_move allowed
  | attempted => exact ⟨r, (story_some after).1, .stays _⟩
  | resumed _ a attemptId stamp same interrupted _ running =>
      refine ⟨_, (story_some after).1, ?_⟩
      rw [show r.status = .interrupted from interrupted]
      rw [← named] at after ⊢
      exact .resumes attemptId stamp a same running (story_some after).2.symm
  | repaired _ attempts target stamp same sealed interrupted =>
      refine ⟨_, (story_some after).1, ?_⟩
      rw [show r.status = .interrupted from interrupted]
      rw [← named]
      apply StatusMove.repairs target stamp same
      cases target <;> first | exact absurd rfl sealed | simp

theorem terminal_absorbing (sane : Sane s) {runId : RunId} {r : Run}
    (found : loadRun runId s = some r) (terminal : r.status.isTerminal = true) (ops : List Op) :
    ∃ r', loadRun runId (run sha256 serde s ops) = some r' ∧ r'.status = r.status := by
  have kept : Sane (run sha256 serde s ops) ∧
      ∃ r', loadRun runId (run sha256 serde s ops) = some r' ∧ r'.status = r.status := by
    apply List.foldlRecOn (motive := fun t =>
      Sane t ∧ ∃ r', loadRun runId t = some r' ∧ r'.status = r.status)
    · exact ⟨sane, r, found, rfl⟩
    · intro t held op _
      rcases held with ⟨sane, row, there, same⟩
      refine ⟨step_keeps sane fun _ _ ok =>
        (writes_tells sane (exec_writes sane.keys.commands ok)).1, ?_⟩
      rcases @step_moves sha256 serde t sane op runId row there with ⟨next, after, moves⟩
      refine ⟨next, after, ?_⟩
      rw [← same] at terminal ⊢
      generalize row.status = source at moves terminal ⊢
      generalize next.status = target at moves ⊢
      cases moves with
      | stays => rfl
      | starts => cases terminal
      | ends => cases terminal
      | resumes => cases terminal
      | repairs => cases terminal
  exact kept.2

variable (sha256 serde) in
/-- After any operations: the tables are in order, whatever is done next moves a run along its
lifecycle only, and a sealed run keeps its status for good. -/
theorem run_lifecycle (ops : List Op) :
    RunsInOrder (run sha256 serde .empty ops) ∧
      (∀ op runId r, loadRun runId (run sha256 serde .empty ops) = some r →
        ∃ r', loadRun runId (run sha256 serde .empty (ops ++ [op])) = some r' ∧
          StatusMove op runId (run sha256 serde .empty ops)
            (run sha256 serde .empty (ops ++ [op])) r.status r'.status) ∧
      ∀ later runId r, loadRun runId (run sha256 serde .empty ops) = some r →
        r.status.isTerminal = true →
        ∃ r', loadRun runId (run sha256 serde .empty (ops ++ later)) = some r' ∧
          r'.status = r.status := by
  have sane : Sane (run sha256 serde .empty ops) := reachable_sane ⟨ops, rfl⟩
  refine ⟨sane.inOrder, ?_, ?_⟩
  · intro op runId r found
    rw [run_append, run_singleton]
    exact step_moves sane op found
  · intro later runId r found terminal
    rw [run_append]
    exact terminal_absorbing sane found terminal later

end Runs

end O7Formal.Ledger
