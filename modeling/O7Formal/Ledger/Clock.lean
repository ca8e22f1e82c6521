import O7Formal.Ledger.Growth

/-! The clock of a run of operations. Runs are stamped with it as they are created, so that under a
clock that never decreases their order of creation is the order of their times. -/

namespace O7Formal.Ledger

open Fallible Table
open O7Formal.Run (Sha256)

def Op.readings : Op → List Millis
  | .createConversation _ _ stamp | .createRun _ _ _ stamp | .createRunWithId _ _ _ stamp
  | .startRun _ stamp | .completeRun _ stamp | .failRun _ stamp | .cancelRun _ stamp
  | .interruptRun _ stamp | .blockRun _ stamp | .errorRun _ stamp
  | .resumeInterruptedRun _ _ stamp | .repairInterruptedRunToTerminal _ _ stamp
  | .appendUserMessage _ _ _ _ stamp | .appendSystemNote _ _ _ _ _ stamp => [stamp.now]
  | .createAttempt _ _ now | .setAttemptStatus _ _ now | .createCommand _ _ _ now
  | .bindCommandChildRun _ _ now | .markCommandCompleted _ now | .markCommandRejected _ now
  | .claimStaleCommandForRedrive _ _ now | .rebindCommandChildRun _ _ now
  | .rebindCommandChildRunIfCurrent _ _ _ _ now | .markCommandCompletedIfBound _ _ now
  | .markCommandCompletedIfBoundAndTerminal _ _ now
  | .markCommandRejectedIfUnattachedAndBound _ _ now | .reconcileCompletedCommands now
  | .appendEvent _ now => [now]
  | .markInterrupted runs attempts =>
      runs.map (fun listed => listed.2.now) ++ attempts.map Prod.snd
  | .setRunProviderSession .. => []

def Steady (ops : List Op) : Prop := (ops.flatMap Op.readings).Pairwise (· ≤ ·)

instance : DecidablePred Steady := fun ops =>
  inferInstanceAs (Decidable ((ops.flatMap Op.readings).Pairwise (· ≤ ·)))

def created (s : Tables) : List Millis := s.runs.map Run.createdAt

theorem created_setRun (runId : RunId) {set : Run → Run}
    (keeps : ∀ r, (set r).createdAt = r.createdAt) (runs : List Run) :
    (setRun runId set runs).map Run.createdAt = runs.map Run.createdAt :=
  keys_update (fun r _ => keeps r) runs

section Creating

variable {sha256 : Sha256} {serde : Serde} {s s' : Tables} {op : Op}

theorem markInterrupted_created {runs : List (RunId × Stamp)} {attempts : List (AttemptId × Millis)}
    {t : Tables} (first : runs.foldlM interruptOne s = .ok t)
    (second : attempts.foldlM closeListed t = .ok s') : created s' = created s := by
  have marked : created t = created s := by
    apply run_invariant (motive := fun _ t => created t = created s) rfl _ first
    intro _ u listed u' _ held stepped
    rcases interruptOne_ok stepped with ⟨_, _, _, _, _, rfl⟩
    exact (created_setRun _ (by intros; rfl) _).trans held
  apply run_invariant (motive := fun _ t => created t = created s) marked _ second
  intro _ u listed u' _ held stepped
  rcases closeListed_ok stepped with ⟨_, _, rfl⟩
  exact held

theorem created_of_quiet (keys : Keys s) (quiet : ∀ id, ¬ op.Concerns s id)
    (writes : Writes s op s') : created s' = created s := by
  cases writes with
  | nothing | conversation | attempt | closed | accepted | event => rfl
  | run r events records _ _ _ emits => exact absurd emits.1 (quiet r.conversationId)
  | moved => exact created_setRun _ (by intros; rfl) _
  | resumed r attemptId stamp events t _ _ _ tables =>
      subst tables
      exact created_setRun _ (by intros; rfl) _
  | repaired => exact created_setRun _ (by intros; rfl) _
  | interrupted runs attempts t _ first second => exact markInterrupted_created first second
  | session => exact created_setRun _ (by intros; rfl) _
  | command => rfl
  | reconciled now repaired _ ok =>
      apply reconcileCompletedCommands_keeps (motive := fun t => created t = created s)
        keys.commands rfl _ ok
      intro t c _ held _ _
      exact held

theorem setRunStatus_created {runId : RunId} {target : RunStatus} {eventType : EventType}
    {stamp : Stamp} {r : Run} (ok : setRunStatus runId target eventType stamp s = .ok (r, s')) :
    created s' = created s := by
  rcases setRunStatus_ok ok with ⟨_, _, _, _, _, rfl⟩
  exact created_setRun _ (by intros; rfl) _

theorem createRunInner_created {request : NewRun} {runId : RunId} {scope requestDigest : String}
    {idempotency : Option Idempotency} {stamp : Stamp} {r : Run}
    (ok : createRunInner request runId scope idempotency requestDigest stamp s = .ok (r, s')) :
    created s' = created s ∨ created s' = created s ++ [stamp.now] := by
  rw [createRunInner_eq] at ok
  rcases once_ok ok with ⟨rfl, _⟩ | ⟨_, reference, made, makes, rfl⟩
  · exact .inl rfl
  · rcases makeRun_ok makes with ⟨rfl, _, _, _, _, rfl⟩
    refine .inr ?_
    rw [created, List.map_append]
    rfl

theorem appendOnce_created {scope requestDigest : String} {idempotency : Option Idempotency}
    {event : NewEvent} {now : Millis} {p : PersistedEvent}
    (ok : appendOnce serde scope idempotency requestDigest event now s = .ok (p, s')) :
    created s' = created s := by
  rw [appendOnce_eq] at ok
  rcases once_ok ok with ⟨rfl, _⟩ | ⟨_, reference, made, makes, rfl⟩
  · rfl
  · rcases makeEvent_ok makes with ⟨_, _, _, rfl⟩
    rfl

theorem exec_created (keys : Keys s) {reply : Reply}
    (ok : exec sha256 serde s op = .ok (reply, s')) :
    created s' = created s ∨ ∃ now, op.readings = [now] ∧ created s' = created s ++ [now] := by
  have writes := exec_writes keys.commands ok
  cases op with
  | createRun request idempotency generated stamp =>
      rcases replying_ok ok with ⟨r, done, _⟩
      exact (createRunInner_created done).imp id fun more => ⟨stamp.now, rfl, more⟩
  | createRunWithId request runId idempotency stamp =>
      rcases replying_ok ok with ⟨r, done, _⟩
      exact (createRunInner_created done).imp id fun more => ⟨stamp.now, rfl, more⟩
  | createConversation idempotency generated stamp =>
      rcases replying_ok ok with ⟨c, done, _⟩
      rw [createConversation_eq] at done
      rcases once_ok done with ⟨rfl, _⟩ | ⟨_, reference, made, makes, rfl⟩
      · exact .inl rfl
      · rcases makeConversation_ok makes with ⟨_, _, _, _, _, rfl⟩
        exact .inl rfl
  | startRun | completeRun | failRun | cancelRun | interruptRun | blockRun | errorRun =>
      rcases replying_ok ok with ⟨r, done, _⟩
      exact .inl (setRunStatus_created done)
  | resumeInterruptedRun runId generated stamp =>
      rcases replying_ok ok with ⟨a, done, _⟩
      rcases resumeInterruptedRun_ok done with ⟨_, _, _, _, _, _, rfl, _, _, rfl⟩
      exact .inl (created_setRun _ (by intros; rfl) _)
  | repairInterruptedRunToTerminal runId target stamp =>
      rcases replying_ok ok with ⟨r, done, _⟩
      rcases repairInterruptedRunToTerminal_ok done with ⟨_, _, _, _, _, _, rfl⟩
      exact .inl (created_setRun _ (by intros; rfl) _)
  | markInterrupted runs attempts =>
      rcases map_ok_iff.mp ok with ⟨_, marked, same⟩
      cases same
      rcases bind_ok_iff.mp marked with ⟨t, first, second⟩
      exact .inl (markInterrupted_created first second)
  | appendUserMessage | appendSystemNote =>
      rcases replying_ok ok with ⟨p, done, _⟩
      exact .inl (appendOnce_created done)
  | appendEvent event now =>
      rcases replying_ok ok with ⟨p, done, _⟩
      rcases emitEvent_ok done with ⟨_, _, rfl⟩
      exact .inl rfl
  | createAttempt | setAttemptStatus | setRunProviderSession | createCommand
  | bindCommandChildRun | markCommandCompleted | markCommandRejected
  | claimStaleCommandForRedrive | rebindCommandChildRun | rebindCommandChildRunIfCurrent
  | markCommandCompletedIfBound | markCommandCompletedIfBoundAndTerminal
  | markCommandRejectedIfUnattachedAndBound | reconcileCompletedCommands =>
      exact .inl (created_of_quiet keys (fun _ => id) writes)

theorem created_readings (ops : List Op) :
    (created (run sha256 serde .empty ops)).Sublist (ops.flatMap Op.readings) := by
  induction ops using List.reverseRecOn with
  | nil => exact List.Sublist.slnil
  | append_singleton ops op ih =>
      have keys : Keys (run sha256 serde .empty ops) := reachable_keys ⟨ops, rfl⟩
      rw [run_append, run_singleton, List.flatMap_append, List.flatMap_singleton]
      apply step_keeps (motive := fun t =>
        (created t).Sublist (ops.flatMap Op.readings ++ op.readings))
      · exact ih.trans (List.sublist_append_left _ _)
      · intro reply t ok
        rcases exec_created keys ok with same | ⟨now, reads, more⟩
        · rw [same]
          exact ih.trans (List.sublist_append_left _ _)
        · rw [more, reads]
          exact ih.append (List.Sublist.refl _)

theorem created_sorted {ops : List Op} (steady : Steady ops) :
    (created (run sha256 serde .empty ops)).Pairwise (· ≤ ·) :=
  steady.sublist (created_readings ops)

end Creating

end O7Formal.Ledger
