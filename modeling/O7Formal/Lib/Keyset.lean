import Mathlib.Tactic

/-! Keyset pagination: rows in the descending order of a key, a page at a time, each page after the
key of the last row of the one before. -/

namespace O7Formal.Keyset

variable {α κ : Type*} [LinearOrder κ] (key : α → κ)

/-- `ORDER BY key DESC` -/
def newestFirst (rows : List α) : List α := rows.mergeSort fun a b => decide (key b ≤ key a)

def beyond (before : Option κ) (rows : List α) : List α :=
  rows.filter fun r => decide (∀ k ∈ before, key r < k)

def page (before : Option κ) (limit : Nat) (rows : List α) : List α :=
  (newestFirst key (beyond key before rows)).take limit

def cursor (items : List α) : Option κ := items.getLast?.map key

/-- The pages of one call after another, until one is empty; the `n`-th call finds `tables n`. -/
def walk (limit : Nat) (tables : Nat → List α) : Nat → Nat → Option κ → Option (List α)
  | 0, _, _ => none
  | fuel + 1, n, before =>
      let items := page key before limit (tables n)
      if items.isEmpty then some []
      else (walk limit tables fuel (n + 1) (cursor key items)).map fun later => items ++ later

def Descending (rows : List α) : Prop := rows.Pairwise fun a b => key b < key a

theorem newestFirst_perm (rows : List α) : (newestFirst key rows).Perm rows :=
  List.mergeSort_perm rows _

variable {key}

theorem newestFirst_pairwise (rows : List α) :
    (newestFirst key rows).Pairwise fun a b => key b ≤ key a := by
  have sorted : (newestFirst key rows).Pairwise fun a b => decide (key b ≤ key a) = true := by
    apply List.pairwise_mergeSort
    · intro a b c first second
      exact decide_eq_true ((of_decide_eq_true second).trans (of_decide_eq_true first))
    · intro a b
      simpa using le_total (key b) (key a)
  exact sorted.imp fun le => of_decide_eq_true le

theorem newestFirst_descending {rows : List α} (distinct : (rows.map key).Nodup) :
    Descending key (newestFirst key rows) := by
  have nodup : ((newestFirst key rows).map key).Nodup :=
    ((newestFirst_perm key rows).map key).nodup_iff.mpr distinct
  rw [List.Nodup, List.pairwise_map] at nodup
  exact (newestFirst_pairwise rows).imp₂ (fun a b le ne => lt_of_le_of_ne le (Ne.symm ne)) nodup

theorem newestFirst_unique {rows sorted : List α} (perm : sorted.Perm rows)
    (strict : Descending key sorted) : newestFirst key rows = sorted := by
  have inj : ∀ a ∈ sorted, ∀ b ∈ sorted, key a = key b → a = b := by
    have nodup : (sorted.map key).Nodup := by
      rw [List.Nodup, List.pairwise_map]
      exact strict.imp ne_of_gt
    intro a memberA b memberB same
    exact List.inj_on_of_nodup_map nodup memberA memberB same
  apply List.Perm.eq_of_pairwise _ (newestFirst_pairwise rows) (strict.imp le_of_lt)
    ((newestFirst_perm key rows).trans perm.symm)
  intro a b memberA memberB first second
  have here : a ∈ sorted := perm.mem_iff.mpr ((newestFirst_perm key rows).mem_iff.mp memberA)
  exact inj a here b memberB (le_antisymm second first)

theorem beyond_none (rows : List α) : beyond key none rows = rows := by
  simp [beyond]

theorem beyond_rest {read rest newer rows : List α} {last : α}
    (strict : Descending key (read ++ [last] ++ rest)) (above : ∀ r ∈ newer, key last < key r)
    (perm : rows.Perm (read ++ [last] ++ rest ++ newer)) :
    (beyond key (some (key last)) rows).Perm rest := by
  have parts := List.pairwise_append.mp strict
  have front := List.pairwise_append.mp parts.1
  have passed :
      (read ++ [last]).filter (fun r => decide (∀ k ∈ some (key last), key r < k)) = [] := by
    rw [List.filter_eq_nil_iff]
    intro r member below
    have lower : key r < key last := of_decide_eq_true below _ rfl
    rcases List.mem_append.mp member with earlier | same
    · exact absurd lower (not_lt_of_gt (front.2.2 r earlier last List.mem_cons_self))
    · rw [List.mem_singleton.mp same] at lower
      exact lt_irrefl _ lower
  have kept : rest.filter (fun r => decide (∀ k ∈ some (key last), key r < k)) = rest := by
    rw [List.filter_eq_self]
    intro r member
    apply decide_eq_true
    intro k here
    cases here
    exact parts.2.2 last (List.mem_append_right _ List.mem_cons_self) r member
  have hidden : newer.filter (fun r => decide (∀ k ∈ some (key last), key r < k)) = [] := by
    rw [List.filter_eq_nil_iff]
    intro r member below
    exact lt_asymm (of_decide_eq_true below _ rfl : key r < key last) (above r member)
  have filtered := perm.filter fun r => decide (∀ k ∈ some (key last), key r < k)
  rw [List.filter_append, List.filter_append, passed, kept, hidden, List.nil_append,
    List.append_nil] at filtered
  exact filtered

section Walk

variable {limit : Nat} (positive : 0 < limit) {tables : Nat → List α} {sorted : List α}
  (strict : Descending key sorted)
  (grown : ∀ n, ∃ newer, (tables n).Perm (sorted ++ newer) ∧
    ∀ r ∈ newer, ∀ q ∈ sorted, key q < key r)

include positive strict grown

theorem walk_rest {fuel n : Nat} {before : Option κ} (read : List α) {rest : List α}
    (split : sorted = read ++ rest) (enough : rest.length < fuel)
    (here : (beyond key before (tables n)).Perm rest) :
    walk key limit tables fuel n before = some rest := by
  induction fuel generalizing n before read rest with
  | zero => exact absurd enough (Nat.not_lt_zero _)
  | succ fuel ih =>
      have order : Descending key rest := by
        rw [split] at strict
        exact (List.pairwise_append.mp strict).2.1
      have items : page key before limit (tables n) = rest.take limit := by
        rw [page, newestFirst_unique here.symm order]
      rw [walk]
      simp only [items]
      cases empty : rest.take limit with
      | nil =>
          rcases List.take_eq_nil_iff.mp empty with zero | none
          · exact absurd zero positive.ne'
          · rw [none]
            rfl
      | cons first others =>
          rcases List.eq_nil_or_concat (first :: others) with none | ⟨init, last, parts⟩
          · cases none
          · have whole : rest = init ++ [last] ++ rest.drop limit := by
              rw [← List.concat_eq_append, ← parts, ← empty, List.take_append_drop]
            rw [List.concat_eq_append] at parts
            have next : walk key limit tables fuel (n + 1) (some (key last)) =
                some (rest.drop limit) := by
              have again : sorted = read ++ init ++ [last] ++ rest.drop limit := by
                calc
                  sorted = read ++ rest := split
                  _ = read ++ (init ++ [last] ++ rest.drop limit) := congrArg (read ++ ·) whole
                  _ = _ := by simp only [List.append_assoc]
              apply ih (read ++ init ++ [last]) again
              · rw [List.length_drop]
                have nonempty : 0 < rest.length := by
                  rw [whole]
                  simp
                omega
              · rcases grown (n + 1) with ⟨newer, perm, above⟩
                rw [again] at perm strict
                apply beyond_rest strict _ perm
                intro r member
                apply above r member
                rw [again]
                simp
            have last_key : cursor key (first :: others) = some (key last) := by
              rw [parts, cursor, List.getLast?_concat]
              rfl
            rw [last_key, next]
            simp only [List.isEmpty_cons, Bool.false_eq_true, if_false, Option.map_some]
            rw [← empty, List.take_append_drop]

theorem walk_all {fuel : Nat} (enough : sorted.length < fuel) (start : (tables 0).Perm sorted) :
    walk key limit tables fuel 0 none = some sorted := by
  apply walk_rest positive strict grown [] rfl enough
  rw [beyond_none]
  exact start

end Walk

end O7Formal.Keyset
