import Mathlib.Data.Finmap
import Mathlib.Algebra.BigOperators.Group.Finset.Basic
import Mathlib.Data.Multiset.Count
import Mathlib.Data.List.Perm.Basic

/-! Maps collected from a list, one entry at a time: the last entry of a key stands, and how often
each value occurs. -/

namespace O7Formal.Collect

section Last

variable {K V : Type} [DecidableEq K]

def put (m : Finmap fun _ : K => V) (entry : K × V) : Finmap fun _ : K => V :=
  m.insert entry.1 entry.2

def collect (entries : List (K × V)) : Finmap fun _ : K => V := entries.foldl put ∅

theorem mem_foldl_put {entries : List (K × V)} {m : Finmap fun _ : K => V} {key : K} :
    key ∈ entries.foldl put m ↔ key ∈ entries.map Prod.fst ∨ key ∈ m := by
  induction entries generalizing m with
  | nil => simp
  | cons entry entries ih =>
      rw [List.foldl_cons, ih, put, Finmap.mem_insert, List.map_cons, List.mem_cons]
      tauto

theorem mem_collect {entries : List (K × V)} {key : K} :
    key ∈ collect entries ↔ key ∈ entries.map Prod.fst := by
  rw [collect, mem_foldl_put]
  simp [Finmap.notMem_empty]

theorem of_lookup_foldl_put {entries : List (K × V)} {m : Finmap fun _ : K => V} {key : K} {value : V}
    (found : (entries.foldl put m).lookup key = some value) :
    (key, value) ∈ entries ∨ m.lookup key = some value := by
  induction entries generalizing m with
  | nil => exact .inr found
  | cons entry entries ih =>
      rcases ih found with later | here
      · exact .inl (List.mem_cons_of_mem _ later)
      · by_cases same : key = entry.1
        · rw [put, same, Finmap.lookup_insert] at here
          rw [same, ← Option.some.inj here]
          exact .inl List.mem_cons_self
        · rw [put, Finmap.lookup_insert_of_ne _ same] at here
          exact .inr here

theorem mem_of_lookup_collect {entries : List (K × V)} {key : K} {value : V}
    (found : (collect entries).lookup key = some value) : (key, value) ∈ entries := by
  rcases of_lookup_foldl_put found with member | never
  · exact member
  · cases never

theorem keys_collect (entries : List (K × V)) :
    (collect entries).keys = (entries.map Prod.fst).toFinset := by
  ext key
  rw [Finmap.mem_keys, mem_collect, List.mem_toFinset]

theorem card_collect {entries : List (K × V)} (distinct : (entries.map Prod.fst).Nodup) :
    (collect entries).keys.card = entries.length := by
  rw [keys_collect, List.toFinset_card_of_nodup distinct, List.length_map]

omit [DecidableEq K] in
theorem entry_eq {entries : List (K × V)} (distinct : (entries.map Prod.fst).Nodup)
    {a b : K × V} (one : a ∈ entries) (other : b ∈ entries) (same : a.1 = b.1) : a = b :=
  List.inj_on_of_nodup_map distinct one other same

theorem collect_perm {entries entries' : List (K × V)} (order : entries.Perm entries')
    (distinct : (entries.map Prod.fst).Nodup) : collect entries = collect entries' := by
  refine order.foldl_eq' ?_ ∅
  intro a one b other m
  by_cases same : a.1 = b.1
  · rw [entry_eq distinct one other same]
  · exact Finmap.insert_insert_of_ne m same

end Last

section Counts

variable {C : Type} [DecidableEq C]

def bump (m : Finmap fun _ : C => Nat) (c : C) : Finmap fun _ : C => Nat :=
  m.insert c ((m.lookup c).getD 0 + 1)

def counts (values : List C) : Finmap fun _ : C => Nat := values.foldl bump ∅

def total (m : Finmap fun _ : C => Nat) : Nat := ∑ c ∈ m.keys, (m.lookup c).getD 0

theorem lookup_bump (m : Finmap fun _ : C => Nat) (c d : C) :
    ((bump m c).lookup d).getD 0 = (m.lookup d).getD 0 + [c].count d := by
  by_cases same : d = c
  · rw [same, bump, Finmap.lookup_insert]
    simp
  · rw [bump, Finmap.lookup_insert_of_ne _ same]
    simp [Ne.symm same]

theorem lookup_foldl_bump (values : List C) (m : Finmap fun _ : C => Nat) (d : C) :
    ((values.foldl bump m).lookup d).getD 0 = (m.lookup d).getD 0 + values.count d := by
  induction values generalizing m with
  | nil => simp
  | cons c values ih =>
      have split : ([c] ++ values).count d = [c].count d + values.count d := List.count_append
      rw [List.singleton_append] at split
      rw [List.foldl_cons, ih, lookup_bump]
      omega

theorem lookup_counts (values : List C) (d : C) :
    ((counts values).lookup d).getD 0 = values.count d := by
  rw [counts, lookup_foldl_bump]
  simp [Finmap.lookup_empty]

theorem mem_foldl_bump {values : List C} {m : Finmap fun _ : C => Nat} {d : C} :
    d ∈ values.foldl bump m ↔ d ∈ values ∨ d ∈ m := by
  induction values generalizing m with
  | nil => simp
  | cons c values ih =>
      rw [List.foldl_cons, ih, bump, Finmap.mem_insert, List.mem_cons]
      tauto

theorem keys_counts (values : List C) : (counts values).keys = values.toFinset := by
  ext d
  rw [Finmap.mem_keys, counts, mem_foldl_bump, List.mem_toFinset]
  simp [Finmap.notMem_empty]

theorem counts_perm {values values' : List C} (order : values.Perm values') :
    counts values = counts values' := by
  refine order.foldl_eq' ?_ ∅
  intro c _ d _ m
  by_cases same : c = d
  · rw [same]
  · simp only [bump, Finmap.lookup_insert_of_ne _ same, Finmap.lookup_insert_of_ne _ (Ne.symm same)]
    exact Finmap.insert_insert_of_ne m same

theorem total_counts (values : List C) : total (counts values) = values.length := by
  calc
    total (counts values) = ∑ d ∈ values.toFinset, values.count d := by
      rw [total, keys_counts]
      exact Finset.sum_congr rfl fun d _ => lookup_counts values d
    _ = values.length := List.sum_toFinset_count_eq_length values

end Counts

end O7Formal.Collect
