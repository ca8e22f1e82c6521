import Mathlib.Tactic
import Mathlib.Data.List.Sort

/-! Binary search and insertion in a list kept strictly increasing in a key. -/

namespace O7Formal.SortedSearch

variable {α κ : Type*}

/-- The halving loop of a branchless binary search. The fuel bounds the number of
halvings; the length of the list is always enough. -/
def searchLoop (cmp : α → Ordering) (xs : List α) : Nat → Nat → Nat → Nat
  | 0, base, _ => base
  | fuel + 1, base, size =>
      if size > 1 then
        let half := size / 2
        let mid := base + half
        let base := if xs[mid]?.map cmp = some .gt then base else mid
        searchLoop cmp xs fuel base (size - half)
      else base

/-- The position of an element that compares equal, or else the position at which one
could be inserted. -/
def binarySearchBy (cmp : α → Ordering) (xs : List α) : Except Nat Nat :=
  if xs.length = 0 then .error 0
  else
    let base := searchLoop cmp xs xs.length 0 xs.length
    match xs[base]?.map cmp with
    | some .eq => .ok base
    | some .lt => .error (base + 1)
    | _ => .error base

def Partitioned (cmp : α → Ordering) (xs : List α) : Prop :=
  xs.Pairwise fun a b => (cmp a = .gt → cmp b = .gt) ∧ (cmp b = .lt → cmp a = .lt)

/-- What the halving loop keeps: the window is not empty, all to its right compares
greater, and its left end does not unless it is the start of the list. -/
structure Window (cmp : α → Ordering) (xs : List α) (base size : Nat) : Prop where
  inside : base + size ≤ xs.length
  nonempty : 0 < size
  right : ∀ i x, base + size ≤ i → xs[i]? = some x → cmp x = .gt
  left : base = 0 ∨ ∀ x, xs[base]? = some x → cmp x ≠ .gt

theorem Partitioned.gt_of_lt_index {cmp : α → Ordering} {xs : List α} (parted : Partitioned cmp xs)
    {i j : Nat} {x y : α} (before : i < j) (atI : xs[i]? = some x) (atJ : xs[j]? = some y)
    (greater : cmp x = .gt) : cmp y = .gt := by
  obtain ⟨boundI, rfl⟩ := List.getElem?_eq_some_iff.mp atI
  obtain ⟨boundJ, rfl⟩ := List.getElem?_eq_some_iff.mp atJ
  exact (List.pairwise_iff_getElem.mp parted i j boundI boundJ before).1 greater

theorem Partitioned.lt_of_gt_index {cmp : α → Ordering} {xs : List α} (parted : Partitioned cmp xs)
    {i j : Nat} {x y : α} (before : i < j) (atI : xs[i]? = some x) (atJ : xs[j]? = some y)
    (less : cmp y = .lt) : cmp x = .lt := by
  obtain ⟨boundI, rfl⟩ := List.getElem?_eq_some_iff.mp atI
  obtain ⟨boundJ, rfl⟩ := List.getElem?_eq_some_iff.mp atJ
  exact (List.pairwise_iff_getElem.mp parted i j boundI boundJ before).2 less

theorem searchLoop_window {cmp : α → Ordering} {xs : List α} (parted : Partitioned cmp xs)
    (fuel base size : Nat) (enough : size ≤ fuel + 1) (window : Window cmp xs base size) :
    Window cmp xs (searchLoop cmp xs fuel base size) 1 := by
  induction fuel generalizing base size with
  | zero =>
      have single : size = 1 := by
        have := window.nonempty
        omega
      subst single
      exact window
  | succ fuel ih =>
      simp only [searchLoop]
      by_cases wide : size > 1
      · rw [if_pos wide]
        have bound : base + size / 2 < xs.length := by
          have := window.inside
          omega
        have atMid : xs[base + size / 2]? = some xs[base + size / 2] :=
          List.getElem?_eq_getElem bound
        apply ih
        · omega
        · by_cases greater : cmp xs[base + size / 2] = .gt
          · simp only [atMid, Option.map_some, greater, if_true]
            refine ⟨?_, ?_, ?_, window.left⟩
            · have := window.inside
              omega
            · omega
            · intro i x beyond here
              by_cases same : i = base + size / 2
              · subst same
                rw [atMid, Option.some.injEq] at here
                rw [← here, greater]
              · by_cases inside : base + size / 2 < i
                · exact parted.gt_of_lt_index inside atMid here greater
                · omega
          · simp only [atMid, Option.map_some, Option.some.injEq, greater, if_false]
            refine ⟨?_, ?_, ?_, ?_⟩
            · have := window.inside
              omega
            · omega
            · intro i x beyond here
              exact window.right i x (by omega) here
            · right
              intro x here
              rw [atMid, Option.some.injEq] at here
              rwa [← here]
      · rw [if_neg wide]
        have single : size = 1 := by
          have := window.nonempty
          omega
        subst single
        exact window

theorem binarySearchBy_absent {cmp : α → Ordering} {xs : List α} (parted : Partitioned cmp xs)
    (absent : ∀ x ∈ xs, cmp x ≠ .eq) :
    ∃ pos ≤ xs.length, binarySearchBy cmp xs = .error pos ∧
      (∀ x ∈ xs.take pos, cmp x = .lt) ∧ (∀ x ∈ xs.drop pos, cmp x = .gt) := by
  by_cases empty : xs.length = 0
  · refine ⟨0, by omega, by simp [binarySearchBy, empty], ?_, ?_⟩
    · intro x member
      simp at member
    · intro x member
      rw [List.length_eq_zero_iff.mp empty] at member
      simp at member
  · have start : Window cmp xs 0 xs.length :=
      ⟨by omega, by omega, by
        intro i x beyond here
        simp [List.getElem?_eq_none (by omega : xs.length ≤ i)] at here, Or.inl rfl⟩
    have found := searchLoop_window parted xs.length 0 xs.length (by omega) start
    generalize base_eq : searchLoop cmp xs xs.length 0 xs.length = base at found
    have bound : base < xs.length := by
      have := found.inside
      omega
    have here : xs[base]? = some xs[base] := List.getElem?_eq_getElem bound
    have unequal := absent xs[base] (List.getElem_mem bound)
    cases order : cmp xs[base] with
    | eq => exact absurd order unequal
    | lt =>
        refine ⟨base + 1, by omega, ?_, ?_, ?_⟩
        · simp [binarySearchBy, empty, base_eq, here, order]
        · intro x member
          obtain ⟨i, inTake, rfl⟩ := List.mem_iff_getElem.mp member
          simp only [List.length_take] at inTake
          simp only [List.getElem_take]
          by_cases last : i = base
          · subst last
            exact order
          · exact parted.lt_of_gt_index (by omega : i < base)
              (List.getElem?_eq_getElem (by omega)) here order
        · intro x member
          obtain ⟨i, inDrop, rfl⟩ := List.mem_iff_getElem.mp member
          simp only [List.length_drop] at inDrop
          simp only [List.getElem_drop]
          exact found.right _ _ (by omega : base + 1 ≤ base + 1 + i)
            (List.getElem?_eq_getElem (by omega))
    | gt =>
        have atStart : base = 0 := by
          rcases found.left with start | notGreater
          · exact start
          · exact absurd order (notGreater _ here)
        refine ⟨base, by omega, ?_, ?_, ?_⟩
        · simp [binarySearchBy, empty, base_eq, here, order]
        · intro x member
          rw [atStart] at member
          simp at member
        · intro x member
          obtain ⟨i, inDrop, rfl⟩ := List.mem_iff_getElem.mp member
          simp only [List.length_drop] at inDrop
          simp only [List.getElem_drop]
          by_cases first : i = 0
          · subst first
            exact order
          · exact found.right _ _ (by omega) (List.getElem?_eq_getElem (by omega))

section Keyed

variable [LinearOrder κ] (key : α → κ)

def Increasing (xs : List α) : Prop := xs.Pairwise fun a b => key a < key b

def insertByKey (xs : List α) (x : α) : List α :=
  let pos := match binarySearchBy (fun e => compare (key e) (key x)) xs with
    | .ok p => p
    | .error p => p
  xs.insertIdx pos x

variable {key}

theorem Increasing.partitioned {xs : List α} (sorted : Increasing key xs) (k : κ) :
    Partitioned (fun e => compare (key e) k) xs := by
  apply List.Pairwise.imp _ sorted
  intro a b less
  refine ⟨?_, ?_⟩
  · intro greater
    rw [compare_gt_iff_gt] at greater ⊢
    exact lt_trans greater less
  · intro below
    rw [compare_lt_iff_lt] at below ⊢
    exact lt_trans less below

private theorem insertIdx_eq_take_drop (xs : List α) (x : α) :
    ∀ pos, pos ≤ xs.length → xs.insertIdx pos x = xs.take pos ++ x :: xs.drop pos := by
  induction xs with
  | nil =>
      intro pos bound
      have zero : pos = 0 := by simpa using bound
      subst zero
      rfl
  | cons y xs ih =>
      intro pos bound
      cases pos with
      | zero => rfl
      | succ pos => simp [ih pos (by simpa using bound)]

theorem insertByKey_spec {xs : List α} {x : α} (sorted : Increasing key xs)
    (fresh : ∀ e ∈ xs, key e ≠ key x) :
    Increasing key (insertByKey key xs x) ∧ (insertByKey key xs x).Perm (x :: xs) := by
  obtain ⟨pos, inside, located, before, after⟩ :=
    binarySearchBy_absent (sorted.partitioned (key x)) (by
      intro e member same
      exact fresh e member (compare_eq_iff_eq.mp same))
  have inserted : insertByKey key xs x = xs.take pos ++ x :: xs.drop pos := by
    simp only [insertByKey, located]
    exact insertIdx_eq_take_drop xs x pos inside
  rw [inserted]
  refine ⟨?_, ?_⟩
  · rw [Increasing, List.pairwise_append]
    refine ⟨sorted.sublist (List.take_sublist _ _), ?_, ?_⟩
    · rw [List.pairwise_cons]
      refine ⟨?_, sorted.sublist (List.drop_sublist _ _)⟩
      intro e member
      exact compare_gt_iff_gt.mp (after e member)
    · intro a inTake b inRest
      have low := compare_lt_iff_lt.mp (before a inTake)
      rcases List.mem_cons.mp inRest with rfl | inDrop
      · exact low
      · exact lt_trans low (compare_gt_iff_gt.mp (after b inDrop))
  · calc
      (xs.take pos ++ x :: xs.drop pos).Perm (x :: (xs.take pos ++ xs.drop pos)) :=
        List.perm_middle
      _ = x :: xs := by rw [List.take_append_drop]

theorem Increasing.eq_of_perm {xs ys : List α} (sortedX : Increasing key xs)
    (sortedY : Increasing key ys) (perm : xs.Perm ys) : xs = ys := by
  apply List.Perm.eq_of_pairwise _ sortedX sortedY perm
  intro a b _ _ less greater
  exact absurd (lt_trans less greater) (lt_irrefl _)

end Keyed

theorem find_by_key {α κ : Type*} [DecidableEq κ] (key : α → κ) {xs : List α}
    (distinct : (xs.map key).Nodup) {k : κ} {x : α} :
    xs.find? (fun y => key y = k) = some x ↔ x ∈ xs ∧ key x = k := by
  constructor
  · intro found
    exact ⟨List.mem_of_find?_eq_some found, by simpa using List.find?_some found⟩
  · intro facts
    obtain ⟨member, rfl⟩ := facts
    cases found : xs.find? (fun y => key y = key x) with
    | none => exact absurd (List.find?_eq_none.mp found x member) (by simp)
    | some y =>
        have shared : key y = key x := by simpa using List.find?_some found
        have here := List.mem_of_find?_eq_some found
        rw [List.inj_on_of_nodup_map distinct here member shared]

end O7Formal.SortedSearch
