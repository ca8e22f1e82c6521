import Mathlib.Data.List.Perm.Basic

/-! Workers that draw task numbers from a shared counter, one at a time, and deliver each to a queue
when it is done. -/

namespace O7Formal.WorkPool

inductive Worker where
  | idle
  | busy (task : Nat)
  | left
  deriving DecidableEq, Repr

def Worker.task : Worker → Option Nat
  | .busy task => some task
  | _ => none

structure Pool where
  next : Nat
  workers : List Worker
  delivered : List Nat

inductive Turn where
  | draws (worker : Nat)
  | delivers (worker : Nat)

def start (workers : Nat) : Pool := ⟨0, List.replicate workers .idle, []⟩

/-- What the worker whose turn it is does. One that draws no task leaves. -/
def Pool.step (total : Nat) (p : Pool) : Turn → Pool
  | .draws w =>
      match p.workers[w]? with
      | some .idle =>
          { p with
            next := p.next + 1
            workers := p.workers.set w (if p.next < total then .busy p.next else .left) }
      | _ => p
  | .delivers w =>
      match p.workers[w]? with
      | some (.busy task) =>
          { p with workers := p.workers.set w .idle, delivered := p.delivered ++ [task] }
      | _ => p

def run (total workers : Nat) (turns : List Turn) : Pool :=
  turns.foldl (Pool.step total) (start workers)

def Pool.Joined (p : Pool) : Prop := ∀ worker ∈ p.workers, worker = .left

/-- The orders in which so many workers can deliver so many tasks. -/
def Delivers (total workers : Nat) (order : List Nat) : Prop :=
  ∃ turns, (run total workers turns).Joined ∧ (run total workers turns).delivered = order

def Pool.held (p : Pool) : List Nat := p.workers.filterMap Worker.task

/-- Each task drawn is held or delivered, and none is both. -/
structure Accounted (total : Nat) (p : Pool) : Prop where
  drawn : (p.delivered ++ p.held).Perm (List.range (min p.next total))
  exhausted : .left ∈ p.workers → total ≤ p.next

variable {total : Nat} {p : Pool}

theorem filterMap_task_set {workers : List Worker} {w : Nat} {old : Worker}
    (here : workers[w]? = some old) (new : Worker) :
    ∃ before after, workers.filterMap Worker.task = before ++ old.task.toList ++ after ∧
      (workers.set w new).filterMap Worker.task = before ++ new.task.toList ++ after := by
  obtain ⟨inside, held⟩ := List.getElem?_eq_some_iff.mp here
  obtain ⟨before, after, split, _, replaced⟩ :
      ∃ before after, workers = before ++ workers[w] :: after ∧ before.length = w ∧
        workers.set w new = before ++ new :: after := List.exists_of_set inside
  refine ⟨before.filterMap Worker.task, after.filterMap Worker.task, ?_, ?_⟩
  · rw [split, held]
    cases taken : old.task <;> simp [taken]
  · rw [replaced]
    cases taken : new.task <;> simp [taken]

theorem accounted_start (workers : Nat) : Accounted total (start workers) where
  drawn := by
    have none_held : (start workers).held = [] :=
      List.filterMap_eq_nil_iff.mpr fun worker member => by
        rw [List.eq_of_mem_replicate member]
        rfl
    rw [none_held]
    simp [start]
  exhausted member := by
    have idle := List.eq_of_mem_replicate member
    cases idle

theorem Accounted.draws (accounted : Accounted total p) {w : Nat}
    (idle : p.workers[w]? = some .idle) :
    Accounted total
      { p with
        next := p.next + 1
        workers := p.workers.set w (if p.next < total then .busy p.next else .left) } where
  drawn := by
    obtain ⟨before, after, was, now⟩ :=
      filterMap_task_set idle (if p.next < total then .busy p.next else .left)
    have drawn := accounted.drawn
    simp only [Pool.held, was, now, Worker.task, Option.toList_none, List.append_nil] at drawn ⊢
    by_cases more : p.next < total
    · rw [Nat.min_eq_left (by omega : p.next + 1 ≤ total), List.range_succ, if_pos more]
      rw [Nat.min_eq_left (by omega : p.next ≤ total)] at drawn
      refine List.Perm.trans ?_ (drawn.append_right [p.next])
      simp only [Option.toList_some, List.append_assoc]
      exact (List.perm_append_comm.append_left before).append_left p.delivered
    · rw [Nat.min_eq_right (by omega : total ≤ p.next + 1), if_neg more]
      rw [Nat.min_eq_right (by omega : total ≤ p.next)] at drawn
      simpa [Worker.task] using drawn
  exhausted member := by
    rcases List.mem_or_eq_of_mem_set member with old | new
    · exact Nat.le_succ_of_le (accounted.exhausted old)
    · split at new
      · cases new
      · exact Nat.le_succ_of_le (Nat.le_of_not_lt ‹_›)

theorem Accounted.delivers (accounted : Accounted total p) {w task : Nat}
    (busy : p.workers[w]? = some (.busy task)) :
    Accounted total
      { p with workers := p.workers.set w .idle, delivered := p.delivered ++ [task] } where
  drawn := by
    obtain ⟨before, after, was, now⟩ := filterMap_task_set busy .idle
    have drawn := accounted.drawn
    simp only [Pool.held, was, now, Worker.task, Option.toList_none, Option.toList_some,
      List.append_nil, List.append_assoc] at drawn ⊢
    refine List.Perm.trans ?_ drawn
    refine List.Perm.append_left p.delivered ?_
    have middle : (before ++ task :: after).Perm (task :: (before ++ after)) := List.perm_middle
    simpa using middle.symm
  exhausted member := by
    rcases List.mem_or_eq_of_mem_set member with old | new
    · exact accounted.exhausted old
    · cases new

theorem Accounted.step (accounted : Accounted total p) (turn : Turn) :
    Accounted total (p.step total turn) := by
  cases turn with
  | draws w =>
      simp only [Pool.step]
      split
      · exact accounted.draws ‹_›
      · exact accounted
  | delivers w =>
      simp only [Pool.step]
      split
      · exact accounted.delivers ‹_›
      · exact accounted

theorem accounted_foldl (turns : List Turn) (accounted : Accounted total p) :
    Accounted total (turns.foldl (Pool.step total) p) := by
  induction turns generalizing p with
  | nil => exact accounted
  | cons turn turns ih => exact ih (accounted.step turn)

theorem workers_step (turn : Turn) : (p.step total turn).workers.length = p.workers.length := by
  cases turn <;> simp only [Pool.step] <;> split <;> simp

theorem workers_foldl (turns : List Turn) :
    (turns.foldl (Pool.step total) p).workers.length = p.workers.length := by
  induction turns generalizing p with
  | nil => rfl
  | cons turn turns ih =>
      rw [List.foldl_cons, ih, workers_step]

theorem Delivers.perm {workers : Nat} {order : List Nat} (some_worker : 0 < workers)
    (delivers : Delivers total workers order) : order.Perm (List.range total) := by
  obtain ⟨turns, joined, rfl⟩ := delivers
  have accounted : Accounted total (run total workers turns) :=
    accounted_foldl turns (accounted_start workers)
  have length : (run total workers turns).workers.length = workers := by
    rw [run, workers_foldl]
    simp [start]
  have gone : .left ∈ (run total workers turns).workers := by
    have first : 0 < (run total workers turns).workers.length := by omega
    have member := List.getElem_mem first
    rwa [joined _ member] at member
  have idle : (run total workers turns).held = [] :=
    List.filterMap_eq_nil_iff.mpr fun worker member => by
      rw [joined worker member]
      rfl
  have drawn := accounted.drawn
  rwa [idle, List.append_nil, Nat.min_eq_right (accounted.exhausted gone)] at drawn

end O7Formal.WorkPool
