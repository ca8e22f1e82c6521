import O7Formal.Ledger.Growth
import O7Formal.Lib.Numbering

/-! The story of a run: its row and its attempts. What can become of a story in one step, and
what every such step keeps true of it. -/

namespace O7Formal.Ledger

open Table Numbering

abbrev Story := Run × List RunAttempt

/-- At most one attempt is running, and only under a running run; attempts are numbered from one;
finishing times are set for what is finished, and for nothing else. -/
structure Sound (x : Story) : Prop where
  numbers : Dense (x.2.map RunAttempt.attemptNumber)
  running : ∀ a ∈ x.2, a.status = .running → x.1.status = .running
  one : x.2.countP (fun a => decide (a.status = .running)) ≤ 1
  finished : x.1.finishedAt.isSome = x.1.status.isTerminal
  closed : ∀ a ∈ x.2, a.finishedAt.isSome = true ↔ a.status ≠ .running

def Closes (a b : RunAttempt) : Prop :=
  b = a ∨ a.status = .running ∧ ∃ status now, status ≠ .running ∧ b = closedAs status now a

def Relabels (a b : RunAttempt) : Prop :=
  b = a ∨ a.status ≠ .running ∧ ∃ status now, status ≠ .running ∧ b = closedAs status now a

/-- What an operation makes of the story of a run. -/
inductive Tells (op : Op) : Option Story → Option Story → Prop
  | same (x : Option Story) : Tells op x x
  | born (r : Run) : r.status = .queued → r.finishedAt = none → Tells op none (some (r, []))
  | advanced (x y : Story) :
      y.1.status = x.1.status ∨ runTransitionAllowed x.1.status y.1.status = true →
      y.1.finishedAt.isSome = y.1.status.isTerminal → List.Forall₂ Closes x.2 y.2 →
      (y.1.status ≠ .running → ∀ b ∈ y.2, b.status ≠ .running) → Tells op (some x) (some y)
  | attempted (x : Story) (a : RunAttempt) : x.1.status = .running →
      (∀ b ∈ x.2, b.status ≠ .running) →
      a.attemptNumber = next (x.2.map RunAttempt.attemptNumber) →
      a.status = .running → a.finishedAt = none → Tells op (some x) (some (x.1, x.2 ++ [a]))
  | resumed (x : Story) (a : RunAttempt) (attemptId : AttemptId) (stamp : Stamp) :
      op = .resumeInterruptedRun x.1.runId attemptId stamp → x.1.status = .interrupted →
      a.attemptNumber = next (x.2.map RunAttempt.attemptNumber) → a.status = .running → a.finishedAt = none →
      Tells op (some x) (some (withStatus .running none x.1, x.2 ++ [a]))
  | repaired (x : Story) (attempts : List RunAttempt) (target : RunStatus) (stamp : Stamp) :
      op = .repairInterruptedRunToTerminal x.1.runId target stamp → repairEvent target ≠ none →
      x.1.status = .interrupted → List.Forall₂ Relabels x.2 attempts →
      Tells op (some x) (some (withStatus target (some stamp.now) x.1, attempts))

theorem closes_not_running {as bs : List RunAttempt} (closes : List.Forall₂ Closes as bs)
    (none : ∀ a ∈ as, a.status ≠ .running) : ∀ b ∈ bs, b.status ≠ .running := by
  induction closes with
  | nil => simp
  | @cons a b as bs here _ ih =>
      rw [List.forall_mem_cons] at none ⊢
      refine ⟨?_, ih none.2⟩
      rcases here with rfl | ⟨running, _⟩
      · exact none.1
      · exact absurd running none.1

theorem closes_numbers {as bs : List RunAttempt} (closes : List.Forall₂ Closes as bs) :
    bs.map RunAttempt.attemptNumber = as.map RunAttempt.attemptNumber := by
  induction closes with
  | nil => rfl
  | @cons a b as bs here _ ih =>
      rw [List.map_cons, List.map_cons, ih]
      rcases here with rfl | ⟨_, status, now, _, rfl⟩ <;> rfl

theorem closes_running {as bs : List RunAttempt} (closes : List.Forall₂ Closes as bs) :
    bs.countP (fun a => decide (a.status = .running)) ≤
      as.countP fun a => decide (a.status = .running) := by
  induction closes with
  | nil => simp
  | @cons a b as bs here _ ih =>
      rw [List.countP_cons, List.countP_cons]
      rcases here with rfl | ⟨_, status, now, other, rfl⟩
      · omega
      · have closed : decide ((closedAs status now a).status = .running) = false :=
          decide_eq_false other
        rw [closed]
        simp only [Bool.false_eq_true, if_false]
        omega

theorem closes_closed {as bs : List RunAttempt} (closes : List.Forall₂ Closes as bs)
    (closed : ∀ a ∈ as, a.finishedAt.isSome = true ↔ a.status ≠ .running) :
    ∀ b ∈ bs, b.finishedAt.isSome = true ↔ b.status ≠ .running := by
  induction closes with
  | nil => simp
  | @cons a b as bs here _ ih =>
      rw [List.forall_mem_cons] at closed ⊢
      refine ⟨?_, ih closed.2⟩
      rcases here with rfl | ⟨_, status, now, other, rfl⟩
      · exact closed.1
      · simpa [closedAs] using other

theorem relabels_keeps {as bs : List RunAttempt} (relabels : List.Forall₂ Relabels as bs)
    (none : ∀ a ∈ as, a.status ≠ .running)
    (closed : ∀ a ∈ as, a.finishedAt.isSome = true ↔ a.status ≠ .running) :
    bs.map RunAttempt.attemptNumber = as.map RunAttempt.attemptNumber ∧
      ∀ b ∈ bs, b.status ≠ .running ∧ b.finishedAt.isSome = true := by
  induction relabels with
  | nil => simp
  | @cons a b as bs here _ ih =>
      rw [List.forall_mem_cons] at none closed
      have rest := ih none.2 closed.2
      rw [List.map_cons, List.map_cons, rest.1, List.forall_mem_cons]
      rcases here with rfl | ⟨_, status, now, other, rfl⟩
      · exact ⟨rfl, ⟨none.1, closed.1.mpr none.1⟩, rest.2⟩
      · exact ⟨rfl, ⟨other, rfl⟩, rest.2⟩

theorem Sound.none_running {x : Story} (sound : Sound x) (idle : x.1.status ≠ .running) :
    ∀ a ∈ x.2, a.status ≠ .running := by
  intro a member running
  exact idle (sound.running a member running)

theorem running_zero {as : List RunAttempt} (none : ∀ a ∈ as, a.status ≠ .running) :
    as.countP (fun a => decide (a.status = .running)) = 0 := by
  rw [List.countP_eq_zero]
  intro a member
  simpa using none a member

theorem Sound.append {r : Run} {x : Story} {a : RunAttempt} (sound : Sound x)
    (none : ∀ b ∈ x.2, b.status ≠ .running) (run : r.status = .running)
    (finished : r.finishedAt.isSome = r.status.isTerminal)
    (number : a.attemptNumber = next (x.2.map RunAttempt.attemptNumber))
    (running : a.status = .running)
    (unfinished : a.finishedAt = Option.none) : Sound (r, x.2 ++ [a]) := by
  constructor
  · rw [List.map_append, List.map_cons, List.map_nil, number]
    exact sound.numbers.append
  · intro _ _ _
    exact run
  · rw [List.countP_append, running_zero none, Nat.zero_add]
    exact List.countP_le_length
  · exact finished
  · intro b member
    rcases List.mem_append.mp member with old | new
    · exact sound.closed b old
    · rw [List.mem_singleton.mp new, running, unfinished]
      simp

theorem tells_sound {op : Op} {x y : Option Story} (tells : Tells op x y)
    (sound : ∀ st ∈ x, Sound st) : ∀ st ∈ y, Sound st := by
  intro st told
  cases tells with
  | same => exact sound st told
  | born r queued unfinished =>
      cases told
      refine ⟨dense_nil, by simp, by simp, ?_, by simp⟩
      rw [queued, unfinished]
      rfl
  | advanced x y _ finished closes idle =>
      cases told
      have before := sound x rfl
      constructor
      · rw [closes_numbers closes]
        exact before.numbers
      · intro b member running
        by_contra other
        exact idle other b member running
      · exact (closes_running closes).trans before.one
      · exact finished
      · exact closes_closed closes before.closed
  | attempted x a run none number running unfinished =>
      cases told
      have before := sound x rfl
      exact before.append none run before.finished number running unfinished
  | resumed x a attemptId stamp _ interrupted number running unfinished =>
      cases told
      have before := sound x rfl
      apply before.append _ rfl rfl number running unfinished
      exact before.none_running (by rw [interrupted]; decide)
  | repaired x attempts target stamp _ sealed interrupted relabels =>
      cases told
      have before := sound x rfl
      have idle := before.none_running (by rw [interrupted]; decide)
      have after := relabels_keeps relabels idle before.closed
      constructor
      · rw [after.1]
        exact before.numbers
      · intro b member running
        exact absurd running (after.2 b member).1
      · rw [running_zero fun b member => (after.2 b member).1]
        omega
      · cases target <;> first | rfl | exact absurd rfl sealed
      · intro b member
        exact iff_of_true (after.2 b member).2 (after.2 b member).1

end O7Formal.Ledger
