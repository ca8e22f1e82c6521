import Mathlib.Tactic

/-! Numbers handed out one after another: the next one is the largest so far plus one, and the
numbers handed out are `1, .., n`. -/

namespace O7Formal.Numbering

/-- `COALESCE(MAX(..), 0) + 1` -/
def next (ns : List Nat) : Nat := ns.foldl max 0 + 1

def Dense (ns : List Nat) : Prop := ns = List.range' 1 ns.length

theorem dense_nil : Dense [] := rfl

theorem le_foldl_max {n start : Nat} {ns : List Nat} (bounded : n ∈ ns ∨ n ≤ start) :
    n ≤ ns.foldl max start := by
  induction ns generalizing start with
  | nil => simpa using bounded
  | cons m rest ih =>
      apply ih
      rcases bounded with member | below
      · rcases List.mem_cons.mp member with rfl | later
        · exact .inr (le_max_right _ _)
        · exact .inl later
      · exact .inr (below.trans (le_max_left _ _))

theorem foldl_max_range' (n : Nat) : (List.range' 1 n).foldl max 0 = n := by
  induction n with
  | zero => rfl
  | succ n ih =>
      rw [← List.range'_append_1, List.foldl_append, ih]
      simp [Nat.add_comm]

theorem Dense.next_eq {ns : List Nat} (dense : Dense ns) : next ns = ns.length + 1 := by
  rw [next, dense, foldl_max_range', List.length_range']

theorem Dense.append {ns : List Nat} (dense : Dense ns) : Dense (ns ++ [next ns]) := by
  rw [dense.next_eq, Dense, List.length_append, List.length_singleton, ← List.range'_append_1,
    ← dense]
  simp [Nat.add_comm]

section Rows

variable {α : Type*} {number : α → Nat} {xs : List α}

theorem filter_numbered (start a : Nat)
    (numbers : xs.map number = List.range' (start + 1) xs.length) :
    xs.filter (fun x => decide (start + a < number x)) = xs.drop a := by
  induction xs generalizing start a with
  | nil => rw [List.filter_nil, List.drop_nil]
  | cons x xs ih =>
      cases a with
      | zero =>
          rw [List.drop_zero, List.filter_eq_self]
          intro y member
          have among : number y ∈ (x :: xs).map number := List.mem_map_of_mem member
          rw [numbers, List.mem_range'_1] at among
          exact decide_eq_true (by omega)
      | succ a =>
          rw [List.map_cons, List.length_cons, List.range'_succ, List.cons.injEq] at numbers
          have below : ¬ start + (a + 1) < number x := by omega
          rw [List.filter_cons_of_neg (by simpa using below), List.drop_succ_cons,
            ← ih (start + 1) a numbers.2]
          apply List.filter_congr
          intro y _
          rw [Nat.add_right_comm, Nat.add_assoc]

/-- What is numbered above `a` is what comes after the first `a`. -/
theorem Dense.filter_above (dense : Dense (xs.map number)) (a : Nat) :
    xs.filter (fun x => decide (a < number x)) = xs.drop a := by
  have numbers : xs.map number = List.range' (0 + 1) xs.length := by
    rw [dense, List.length_map]
  simpa using filter_numbered 0 a numbers

theorem Dense.numbers_page (dense : Dense (xs.map number)) (a k : Nat) :
    ((xs.drop a).take k).map number = List.range' (a + 1) ((xs.drop a).take k).length := by
  rw [List.map_take, List.map_drop, dense, List.drop_range']
  apply List.ext_getElem
  · simp
  · intro i _ _
    simp [Nat.add_comm, Nat.add_left_comm]

theorem Dense.pairwise (dense : Dense (xs.map number)) :
    xs.Pairwise fun x y => number x < number y := by
  rw [← List.pairwise_map, dense]
  exact List.pairwise_lt_range'

end Rows

end O7Formal.Numbering
