import O7Formal.Ledger.Accepts
import O7Formal.Ledger.Redrive

/-! The time of a command's last write is also its version: a claim names the one it read, and wins
if the row still has it. The version only serves while no write takes it back. -/

namespace O7Formal.Ledger

open Fallible Table
open O7Formal.Run (Sha256 standardSha256)

def Op.contends : Op → Bool
  | .claimStaleCommandForRedrive .. | .bindCommandChildRun .. | .rebindCommandChildRun ..
  | .rebindCommandChildRunIfCurrent .. => true
  | _ => false

/-- The operation is a claim of the command at the stamp, and is told that it succeeded. -/
def claims (id : CommandId) (t : Millis) (s : Tables) : Op → Bool
  | .claimStaleCommandForRedrive commandId expectedUpdatedAt now =>
      decide (commandId = id ∧ expectedUpdatedAt = t) &&
        (claimStaleCommandForRedrive commandId expectedUpdatedAt now s).1
  | _ => false

/-- The operation writes no stamp that is before the one it overwrites, and claims none that cannot
be raised. -/
def Forward (s : Tables) : Op → Prop
  | .bindCommandChildRun commandId _ now =>
      ∀ c ∈ loadCommand commandId s, c.childRunId = none → c.updatedAt ≤ now
  | .rebindCommandChildRun commandId _ now => ∀ c ∈ loadCommand commandId s, c.updatedAt ≤ now
  | .claimStaleCommandForRedrive _ expectedUpdatedAt _ => expectedUpdatedAt < i64Max
  -- It saturates harmlessly: every `i64` is in the range.
  | .rebindCommandChildRunIfCurrent _ _ expectedUpdatedAt _ _ => expectedUpdatedAt ≤ i64Max
  | _ => True

section Definitions

variable (sha256 : Sha256) (serde : Serde)

def claimed (id : CommandId) (t : Millis) (s : Tables) : List Op → Nat
  | [] => 0
  | op :: ops =>
      (if claims id t s op = true then 1 else 0) + claimed id t (step sha256 serde s op) ops

def Forwards (s : Tables) : List Op → Prop
  | [] => True
  | op :: ops => Forward s op ∧ Forwards (step sha256 serde s op) ops

end Definitions

/-- The row of the command, if it exists, has a stamp from `t` on. -/
def StampedFrom (id : CommandId) (t : Millis) (s : Tables) : Prop :=
  ∃ c, loadCommand id s = some c ∧ t ≤ c.updatedAt

section Claiming

variable {id : CommandId} {t now : Millis} {s : Tables} {c : Command}

theorem le_saturatingSucc (bounded : t ≤ i64Max) : t ≤ saturatingSucc t :=
  le_min (Int.le_add_one le_rfl) bounded

theorem saturatingSucc_of_lt (bounded : t < i64Max) : saturatingSucc t = t + 1 := by
  rw [saturatingSucc, min_eq_left]
  exact Int.add_one_le_iff.mpr bounded

theorem claim_eq (keys : Keys s) (found : loadCommand id s = some c) :
    claimStaleCommandForRedrive id t now s =
      if c.updatedAt = t ∧ c.status.inFlight = true then
        (true, put { c with updatedAt := max now (saturatingSucc t) } s)
      else (false, s) := by
  have selects : (fun c : Command => decide (c.commandId = id ∧ c.updatedAt = t ∧
      c.status.inFlight = true)) = fun c => decide (c.commandId = id) &&
        decide (c.updatedAt = t ∧ c.status.inFlight = true) := by
    apply funext
    intro c
    exact Bool.decide_and _ _
  let stamp (c : Command) : Command := { c with updatedAt := max now (saturatingSucc t) }
  have keeps : (stamp c).commandId = c.commandId := rfl
  have one := updateOne_eq keys.commands found
    (fun c => decide (c.updatedAt = t ∧ c.status.inFlight = true)) keeps
  simp only [decide_eq_true_iff] at one
  rw [← one, claimStaleCommandForRedrive, updateOne, selects]

theorem claim_missing (missing : loadCommand id s = none) :
    (claimStaleCommandForRedrive id t now s).1 = false := by
  have rows := lookup_none_iff.mp missing
  have zero : s.commands.countP (fun c : Command => decide (c.commandId = id ∧ c.updatedAt = t ∧
      c.status.inFlight = true)) = 0 := by
    rw [List.countP_eq_zero]
    intro c member selected
    exact rows c member (of_decide_eq_true selected).1
  simp only [claimStaleCommandForRedrive]
  rw [zero]
  rfl

end Claiming

section Step

variable {sha256 : Sha256} {serde : Serde} {s : Tables} {op : Op} {id : CommandId} {t : Millis}

theorem put_stamped {c next : Command} (found : loadCommand next.commandId s = some c)
    (raised : c.updatedAt ≤ next.updatedAt) (stamped : StampedFrom id t s) :
    StampedFrom id t (put next s) := by
  rcases stamped with ⟨row, there, reached⟩
  by_cases here : id = next.commandId
  · subst here
    cases there.symm.trans found
    exact ⟨next, loadCommand_put_self found, reached.trans raised⟩
  · exact ⟨row, (loadCommand_put_other here).trans there, reached⟩

theorem stamp_rises (keys : Keys s) (contends : op.contends = true) (forward : Forward s op)
    (stamped : StampedFrom id t s) : StampedFrom id t (step sha256 serde s op) := by
  apply step_keeps (motive := StampedFrom id t) stamped
  intro reply s' ok
  cases op with
  | bindCommandChildRun commandId runId now =>
      rcases replying_ok ok with ⟨_, done, _⟩
      rw [bindCommandChildRun] at done
      rcases changeCommand_ok keys.commands (by intros; rfl) done with ⟨c, found, rfl⟩
      split_ifs with unbound
      · have named : c.commandId = commandId := (lookup_mem found).2
        subst named
        exact put_stamped found (forward c found (of_decide_eq_true unbound)) stamped
      · exact stamped
  | rebindCommandChildRun commandId runId now =>
      rcases replying_ok ok with ⟨_, done, _⟩
      rw [rebindCommandChildRun] at done
      rcases changeCommand_ok keys.commands (by intros; rfl) done with ⟨c, found, rfl⟩
      have named : c.commandId = commandId := (lookup_mem found).2
      subst named
      rw [if_pos rfl]
      exact put_stamped found (forward c found) stamped
  | rebindCommandChildRunIfCurrent commandId old expected runId now =>
      rcases replying_ok ok with ⟨_, done, _⟩
      rcases rebindCommandChildRunIfCurrent_ok keys.commands done with
        ⟨rfl, _⟩ | ⟨c, next, found, _, _, current, rfl, _, rfl⟩
      · exact stamped
      · have named : c.commandId = commandId := (lookup_mem found).2
        subst named
        refine put_stamped found ?_ stamped
        rw [current]
        exact le_max_of_le_right (le_saturatingSucc forward)
  | claimStaleCommandForRedrive commandId expected now =>
      cases ok
      cases found : loadCommand commandId s with
      | none =>
          rcases claimStaleCommandForRedrive_ok keys.commands rfl with same | ⟨c, there, _⟩
          · rw [same]
            exact stamped
          · rw [found] at there
            cases there
      | some c =>
          rw [claim_eq keys found]
          split_ifs with current
          · have named : c.commandId = commandId := (lookup_mem found).2
            subst named
            refine put_stamped found ?_ stamped
            rw [current.1, saturatingSucc_of_lt forward]
            exact le_max_of_le_right (Int.le_add_one le_rfl)
          · exact stamped
  | _ => cases contends

theorem claims_raises (keys : Keys s) (forward : Forward s op) (won : claims id t s op = true) :
    StampedFrom id (t + 1) (step sha256 serde s op) := by
  cases op with
  | claimStaleCommandForRedrive commandId expected now =>
      rw [claims, Bool.and_eq_true, decide_eq_true_iff] at won
      rcases won with ⟨⟨rfl, rfl⟩, changed⟩
      cases found : loadCommand commandId s with
      | none =>
          rw [claim_missing found] at changed
          cases changed
      | some c =>
          have named : c.commandId = commandId := (lookup_mem found).2
          subst named
          have stepped : step sha256 serde s
              (.claimStaleCommandForRedrive c.commandId expected now) =
              (claimStaleCommandForRedrive c.commandId expected now s).2 := rfl
          rw [stepped]
          rw [claim_eq keys found] at changed ⊢
          split_ifs at changed ⊢
          have saved := loadCommand_put_self
            (c := { c with updatedAt := max now (saturatingSucc expected) }) found
          refine ⟨_, saved, ?_⟩
          rw [saturatingSucc_of_lt forward]
          exact le_max_right _ _
  | _ => cases won

theorem claims_stale (keys : Keys s) (stamped : StampedFrom id (t + 1) s) :
    claims id t s op = false := by
  rcases stamped with ⟨c, found, reached⟩
  cases op with
  | claimStaleCommandForRedrive commandId expected now =>
      rw [claims]
      by_cases same : commandId = id ∧ expected = t
      · rcases same with ⟨rfl, rfl⟩
        have newer : ¬ (c.updatedAt = expected ∧ c.status.inFlight = true) := by
          intro current
          rw [current.1] at reached
          exact absurd reached (not_le.mpr (Int.lt_succ expected))
        rw [claim_eq keys found, if_neg newer, Bool.and_false]
      · rw [decide_eq_false same, Bool.false_and]
  | _ => rfl

end Step

section Runs

variable {sha256 : Sha256} {serde : Serde} {id : CommandId} {t : Millis}

theorem claimed_stale {ops : List Op} {s : Tables} (keys : Keys s)
    (contends : ∀ op ∈ ops, op.contends = true) (forwards : Forwards sha256 serde s ops)
    (stamped : StampedFrom id (t + 1) s) : claimed sha256 serde id t s ops = 0 := by
  induction ops generalizing s with
  | nil => rfl
  | cons op ops ih =>
      rw [List.forall_mem_cons] at contends
      rw [claimed, claims_stale keys stamped, if_neg Bool.false_ne_true,
        ih (step_grows keys op).1 contends.2 forwards.2
          (stamp_rises keys contends.1 forwards.1 stamped)]

variable (sha256 serde) in
/-- While no write takes the stamp of a command back, a claim of it at one stamp succeeds once. -/
theorem claim_exclusive {s : Tables} (reached : Reachable sha256 serde s) (id : CommandId)
    (t : Millis) {ops : List Op} (contends : ∀ op ∈ ops, op.contends = true)
    (forwards : Forwards sha256 serde s ops) : claimed sha256 serde id t s ops ≤ 1 := by
  have keys : Keys s := reachable_keys reached
  clear reached
  induction ops generalizing s with
  | nil => exact Nat.zero_le 1
  | cons op ops ih =>
      rw [List.forall_mem_cons] at contends
      have after : Keys (step sha256 serde s op) := (step_grows keys op).1
      rw [claimed]
      split_ifs with won
      · rw [claimed_stale after contends.2 forwards.2 (claims_raises keys forwards.1 won)]
      · rw [Nat.zero_add]
        exact ih contends.2 forwards.2 after

end Runs

def accepted : List Op := resumable ++ [.createCommand ⟨"v", "r", "go on"⟩ ⟨"key"⟩ "c" 5]

/-- All within one millisecond: the second claim finds the stamp of the first again, because the
binding between them wrote the plain clock. -/
def sameMillisecond : List Op :=
  [.claimStaleCommandForRedrive "c" 5 5,
    .bindCommandChildRun "c" "child" 5,
    .claimStaleCommandForRedrive "c" 5 5]

theorem sameMillisecond_claimed : Steady (accepted ++ sameMillisecond) ∧
    (∀ op ∈ sameMillisecond, op.contends = true) ∧
    claimed standardSha256 printedSerde "c" 5
      (run standardSha256 printedSerde .empty accepted) sameMillisecond = 2 := by
  refine ⟨by decide, by decide, by decide +kernel⟩

/-- A binding one millisecond later is forward. -/
theorem claim_exclusive_later : claimed standardSha256 printedSerde "c" 5
    (run standardSha256 printedSerde .empty accepted)
    [.claimStaleCommandForRedrive "c" 5 5, .bindCommandChildRun "c" "child" 6,
      .claimStaleCommandForRedrive "c" 5 6] ≤ 1 := by
  apply claim_exclusive standardSha256 printedSerde ⟨accepted, rfl⟩
  · decide
  · simp only [Forwards, Forward]
    decide +kernel

end O7Formal.Ledger
