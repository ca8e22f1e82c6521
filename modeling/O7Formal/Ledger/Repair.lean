import O7Formal.Ledger.Lifecycle

/-! The repair of an interrupted run picks its attempt by status: the last one that is interrupted,
which need not be the last one. -/

namespace O7Formal.Ledger

open Fallible Table
open O7Formal.Run (Sha256 standardSha256)

structure Latest (runId : RunId) (s : Tables) (a : RunAttempt) : Prop where
  stored : a ∈ s.attempts
  owner : a.runId = runId
  highest : ∀ b ∈ s.attempts, b.runId = runId → b.attemptNumber ≤ a.attemptNumber

/-- The latest attempt of the run ends as the target requires, and no other attempt changes. -/
structure RepairedRight (runId : RunId) (target : RunStatus) (s s' : Tables) : Prop where
  latest : ∀ a, Latest runId s a →
    ∃ a', loadAttempt a.attemptId s' = some a' ∧ a'.status = terminalAttemptStatus target
  others : ∀ id, (∀ a, Latest runId s a → a.attemptId ≠ id) →
    loadAttempt id s' = loadAttempt id s

/-- The latest attempt is interrupted, or it has the status already and no attempt is
interrupted. -/
def Repairable (runId : RunId) (target : RunStatus) (s : Tables) : Prop :=
  ∀ a, Latest runId s a → a.status = .interrupted ∨
    a.status = terminalAttemptStatus target ∧
      ∀ b ∈ s.attempts, b.runId = runId → b.status ≠ .interrupted

section Repairing

variable {s : Tables} {runId : RunId} {a b : RunAttempt}

theorem attempt_of_number (sane : Sane s) (memberA : a ∈ s.attempts) (memberB : b ∈ s.attempts)
    (owner : a.runId = b.runId) (number : a.attemptNumber = b.attemptNumber) : a = b := by
  rcases sane.inOrder.numbered b.runId with ⟨n, numbers⟩
  have distinct : ((attemptsOf b.runId s.attempts).map RunAttempt.attemptNumber).Nodup := by
    rw [numbers]
    exact List.nodup_range'
  exact List.inj_on_of_nodup_map distinct
    (List.mem_filter.mpr ⟨memberA, decide_eq_true owner⟩)
    (List.mem_filter.mpr ⟨memberB, decide_eq_true rfl⟩) number

theorem Latest.unique (sane : Sane s) (first : Latest runId s a) (second : Latest runId s b) :
    a = b := by
  apply attempt_of_number sane first.stored second.stored (first.owner.trans second.owner.symm)
  exact le_antisymm (second.highest a first.stored first.owner)
    (first.highest b second.stored second.owner)

theorem exists_latest (stored : b ∈ s.attempts) (owner : b.runId = runId) :
    ∃ a, Latest runId s a := by
  have listed : b ∈ (attemptsOf runId s.attempts).toFinset :=
    List.mem_toFinset.mpr (List.mem_filter.mpr ⟨stored, decide_eq_true owner⟩)
  rcases Finset.exists_max_image _ RunAttempt.attemptNumber ⟨b, listed⟩ with ⟨a, among, highest⟩
  rcases List.mem_filter.mp (List.mem_toFinset.mp among) with ⟨storedA, ownerA⟩
  refine ⟨a, storedA, of_decide_eq_true ownerA, ?_⟩
  intro c storedC ownerC
  exact highest c
    (List.mem_toFinset.mpr (List.mem_filter.mpr ⟨storedC, decide_eq_true ownerC⟩))

theorem Latest.lastInterrupted (sane : Sane s) (latest : Latest runId s a)
    (interrupted : a.status = .interrupted) : lastInterrupted runId s = some a := by
  cases found : Ledger.lastInterrupted runId s with
  | none => exact absurd interrupted (lastInterrupted_none found a latest.stored latest.owner)
  | some b =>
      rcases lastInterrupted_some found with ⟨⟨stored, owner, _⟩, highest⟩
      congr 1
      apply attempt_of_number sane stored latest.stored (owner.trans latest.owner.symm)
      exact le_antisymm (latest.highest b stored owner)
        (highest a latest.stored latest.owner interrupted)

variable {target : RunStatus} {stamp : Stamp} {r : Run} {s' : Tables}
  (ok : repairInterruptedRunToTerminal runId target stamp s = .ok (r, s'))

include ok

theorem repair_attempt (id : AttemptId) : loadAttempt id s' = (loadAttempt id s).map fun a =>
    if some a.attemptId = (lastInterrupted runId s).map RunAttempt.attemptId then
      closedAs (terminalAttemptStatus target) stamp.now a else a := by
  rcases repairInterruptedRunToTerminal_ok ok with ⟨_, _, _, _, _, _, rfl⟩
  rw [loadAttempt, lookup_update (by intros; rfl), loadAttempt]
  simp only [decide_eq_true_iff]

theorem repair_settles : terminalAttemptStatus target ≠ .interrupted := by
  rcases repairInterruptedRunToTerminal_ok ok with ⟨_, _, sealing, _⟩
  cases target with
  | completed | failed | blocked | error => exact nofun
  | queued | running | cancelled | interrupted => exact absurd rfl sealing

theorem repairedRight_iff_of_sane (sane : Sane s) :
    RepairedRight runId target s s' ↔ Repairable runId target s := by
  have keyed := sane.keys.attempts
  have loaded : ∀ a ∈ s.attempts, loadAttempt a.attemptId s = some a := fun a member =>
    keyed.lookup_iff.mpr ⟨member, rfl⟩
  constructor
  · intro right a latest
    rcases right.latest a latest with ⟨a', found', settled⟩
    rw [repair_attempt ok, loaded a latest.stored, Option.map_some] at found'
    cases found : lastInterrupted runId s with
    | none =>
        rw [found] at found'
        cases found'
        exact .inr ⟨settled, lastInterrupted_none found⟩
    | some b =>
        rcases lastInterrupted_some found with ⟨⟨stored, owner, interrupted⟩, _⟩
        by_cases same : b = a
        · rw [← same]
          exact .inl interrupted
        · -- An older attempt is interrupted, and the repair has closed that one.
          have spared : ∀ x, Latest runId s x → x.attemptId ≠ b.attemptId := by
            intro x other named
            have one := keyed.eq_of_key stored other.stored named.symm
            exact same (one.trans (other.unique sane latest))
          have kept := right.others b.attemptId spared
          rw [repair_attempt ok, loaded b stored, Option.map_some, found, Option.map_some,
            if_pos rfl] at kept
          have status := congrArg RunAttempt.status (Option.some.inj kept)
          exact absurd (status.trans interrupted) (repair_settles ok)
  · intro repairable
    constructor
    · intro a latest
      rw [repair_attempt ok, loaded a latest.stored, Option.map_some]
      rcases repairable a latest with interrupted | ⟨settled, none⟩
      · rw [latest.lastInterrupted sane interrupted, Option.map_some, if_pos rfl]
        exact ⟨_, rfl, rfl⟩
      · cases found : lastInterrupted runId s with
        | none => exact ⟨a, rfl, settled⟩
        | some b =>
            rcases lastInterrupted_some found with ⟨⟨stored, owner, interrupted⟩, _⟩
            exact absurd interrupted (none b stored owner)
    · intro id spared
      rw [repair_attempt ok]
      cases there : loadAttempt id s with
      | none => rfl
      | some c =>
          have held := lookup_mem there
          rw [Option.map_some, if_neg]
          intro chosen
          rcases Option.map_eq_some_iff.mp chosen.symm with ⟨b, found, named⟩
          rcases lastInterrupted_some found with ⟨⟨stored, owner, interrupted⟩, _⟩
          rcases exists_latest stored owner with ⟨a, latest⟩
          rcases repairable a latest with last | ⟨_, none⟩
          · have same : a = b :=
              Option.some.inj ((latest.lastInterrupted sane last).symm.trans found)
            rw [same] at latest
            exact spared b latest (named.trans held.2)
          · exact none b stored owner interrupted

end Repairing

variable (sha256 : Sha256) (serde : Serde) in
/-- A repair settles the right attempt exactly where the latest one is interrupted, or has the
status of the target already and no attempt of the run is interrupted. -/
theorem repairedRight_iff {s s' : Tables} (reached : Reachable sha256 serde s) {runId : RunId}
    {target : RunStatus} {stamp : Stamp} {r : Run}
    (ok : repairInterruptedRunToTerminal runId target stamp s = .ok (r, s')) :
    RepairedRight runId target s s' ↔ Repairable runId target s :=
  repairedRight_iff_of_sane ok (reachable_sane reached)

/-- A run that is resumed, and whose second attempt fails before the run is interrupted again. -/
def settledEarly : List Op :=
  [.createConversation none "v" ⟨1, "e1"⟩,
    .createRun ⟨"v", none, "agent", "role"⟩ none "r" ⟨2, "e2"⟩,
    .startRun "r" ⟨3, "e3"⟩,
    .createAttempt "r" "a1" 4,
    .interruptRun "r" ⟨5, "e5"⟩,
    .resumeInterruptedRun "r" "a2" ⟨6, "e6"⟩,
    .setAttemptStatus "a2" .failed 7,
    .interruptRun "r" ⟨8, "e8"⟩]

theorem settledEarly_latest : Latest "r" (run standardSha256 printedSerde .empty settledEarly)
    ⟨"a2", "r", 2, .failed, 6, some 7⟩ :=
  ⟨by decide +kernel, rfl, by decide +kernel⟩

/-- The repair completes the run, and the first attempt instead of the second. -/
theorem settledEarly_repaired : ∃ r s',
    repairInterruptedRunToTerminal "r" .completed ⟨9, "e9"⟩
        (run standardSha256 printedSerde .empty settledEarly) = .ok (r, s') ∧
      s'.attempts.map (fun a => (a.attemptId, a.status)) =
        [("a1", .completed), ("a2", .failed)] ∧
      ¬ RepairedRight "r" .completed (run standardSha256 printedSerde .empty settledEarly) s' := by
  have listed : (repairInterruptedRunToTerminal "r" .completed ⟨9, "e9"⟩
      (run standardSha256 printedSerde .empty settledEarly)).toOption.map
        (fun done => done.2.attempts.map fun a => (a.attemptId, a.status)) =
      some [("a1", .completed), ("a2", .failed)] := by
    decide +kernel
  cases done : repairInterruptedRunToTerminal "r" .completed ⟨9, "e9"⟩
      (run standardSha256 printedSerde .empty settledEarly) with
  | error e =>
      rw [done] at listed
      cases listed
  | ok repaired =>
      rw [done] at listed
      refine ⟨repaired.1, repaired.2, rfl, Option.some.inj listed, ?_⟩
      intro right
      rcases (repairedRight_iff_of_sane done (reachable_sane ⟨settledEarly, rfl⟩)).mp right _
        settledEarly_latest with interrupted | ⟨completed, _⟩
      · cases interrupted
      · cases completed

/-- Before it is resumed the run is repaired right. -/
theorem repairedRight_iff_settledEarly : ∃ r s',
    repairInterruptedRunToTerminal "r" .completed ⟨9, "e9"⟩
        (run standardSha256 printedSerde .empty (settledEarly.take 5)) = .ok (r, s') ∧
      RepairedRight "r" .completed (run standardSha256 printedSerde .empty (settledEarly.take 5))
        s' := by
  have succeeds : (repairInterruptedRunToTerminal "r" .completed ⟨9, "e9"⟩
      (run standardSha256 printedSerde .empty (settledEarly.take 5))).toOption.isSome = true := by
    decide +kernel
  cases done : repairInterruptedRunToTerminal "r" .completed ⟨9, "e9"⟩
      (run standardSha256 printedSerde .empty (settledEarly.take 5)) with
  | error e =>
      rw [done] at succeeds
      cases succeeds
  | ok repaired =>
      refine ⟨repaired.1, repaired.2, rfl, (repairedRight_iff standardSha256 printedSerde
        ⟨settledEarly.take 5, rfl⟩ done).mpr fun a latest => .inl ?_⟩
      have all : ∀ a ∈ (run standardSha256 printedSerde .empty (settledEarly.take 5)).attempts,
          a.status = .interrupted := by
        decide +kernel
      exact all a latest.stored

end O7Formal.Ledger
