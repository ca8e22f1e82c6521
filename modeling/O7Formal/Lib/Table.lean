import Mathlib.Tactic

/-! Tables of rows with a key, in the order of insertion: what a lookup finds after an insert and
after an update that leaves the keys alone. -/

namespace O7Formal.Table

variable {α κ : Type*} [DecidableEq κ] (key : α → κ)

def lookup (k : κ) (rows : List α) : Option α := rows.find? fun r => decide (key r = k)

/-- `UPDATE .. SET .. WHERE ..` -/
def update (selects : α → Bool) (set : α → α) (rows : List α) : List α :=
  rows.map fun r => if selects r then set r else r

def Keyed (rows : List α) : Prop := (rows.map key).Nodup

variable {key}

theorem lookup_mem {k : κ} {rows : List α} {r : α} (found : lookup key k rows = some r) :
    r ∈ rows ∧ key r = k := by
  refine ⟨List.mem_of_find?_eq_some found, ?_⟩
  simpa using List.find?_some found

theorem lookup_none_iff {k : κ} {rows : List α} :
    lookup key k rows = none ↔ ∀ r ∈ rows, key r ≠ k := by
  simp [lookup, List.find?_eq_none]

theorem lookup_isSome {k : κ} {rows : List α} {r : α} (member : r ∈ rows) (named : key r = k) :
    ∃ q, lookup key k rows = some q := by
  cases found : lookup key k rows with
  | some q => exact ⟨q, rfl⟩
  | none => exact absurd named (lookup_none_iff.mp found r member)

theorem lookup_ne_none_iff {k : κ} {rows : List α} :
    lookup key k rows ≠ none ↔ k ∈ rows.map key := by
  rw [Ne, lookup_none_iff, List.mem_map]
  push Not
  exact Iff.rfl

theorem lookup_grown {k : κ} {rows rows' : List α} {r : α} (part : rows <+: rows')
    (found : lookup key k rows = some r) : lookup key k rows' = some r := by
  rcases part with ⟨later, rfl⟩
  rw [lookup, List.find?_append]
  exact congrArg (fun x => Option.or x _) found

omit [DecidableEq κ] in
theorem Keyed.eq_of_key {rows : List α} (keyed : Keyed key rows) {r q : α} (memberR : r ∈ rows)
    (memberQ : q ∈ rows) (same : key r = key q) : r = q :=
  List.inj_on_of_nodup_map keyed memberR memberQ same

theorem Keyed.lookup_iff {rows : List α} (keyed : Keyed key rows) {k : κ} {r : α} :
    lookup key k rows = some r ↔ r ∈ rows ∧ key r = k := by
  constructor
  · exact lookup_mem
  · intro held
    rcases lookup_isSome held.1 held.2 with ⟨q, found⟩
    have other := lookup_mem found
    rw [found, keyed.eq_of_key other.1 held.1 (other.2.trans held.2.symm)]

theorem lookup_append (k : κ) (rows : List α) (r : α) :
    lookup key k (rows ++ [r]) = (lookup key k rows).or (if key r = k then some r else none) := by
  rw [lookup, lookup, List.find?_append]
  congr 1
  by_cases here : key r = k <;> simp [here]

theorem keyed_append {rows : List α} {r : α} (keyed : Keyed key rows)
    (fresh : lookup key (key r) rows = none) : Keyed key (rows ++ [r]) := by
  rw [Keyed, List.map_append]
  apply List.Nodup.append keyed (by simp)
  simp only [List.map_cons, List.map_nil, List.disjoint_singleton, List.mem_map, not_exists,
    not_and]
  exact lookup_none_iff.mp fresh

section Highest

variable {ρ : Type*} [LinearOrder ρ] {rank : α → ρ} {keep : Option α → α → Option α}
  (first : ∀ r, keep none r = some r)
  (later : ∀ b r, keep (some b) r = if rank b < rank r then some r else some b)
  {rows : List α} {best : Option α}

include first later

omit [DecidableEq κ] in
/-- `ORDER BY rank DESC LIMIT 1`: one of the rows with the highest rank. -/
theorem foldl_highest {r : α} (found : rows.foldl keep best = some r) :
    (best = some r ∨ r ∈ rows) ∧ (∀ q ∈ best, rank q ≤ rank r) ∧ ∀ q ∈ rows, rank q ≤ rank r := by
  induction rows generalizing best with
  | nil =>
      have same : best = some r := found
      subst same
      exact ⟨.inl rfl, fun q here => le_of_eq (congrArg rank (Option.some.inj here).symm), nofun⟩
  | cons row rest ih =>
      rcases ih found with ⟨source, above, others⟩
      cases best with
      | none =>
          rw [first] at source above
          refine ⟨.inr ?_, nofun, List.forall_mem_cons.mpr ⟨above row rfl, others⟩⟩
          rcases source with here | member
          · cases here
            exact List.mem_cons_self
          · exact List.mem_cons_of_mem _ member
      | some b =>
          rw [later] at source above
          split_ifs at source above with higher
          · have held := above row rfl
            refine ⟨.inr ?_, ?_, List.forall_mem_cons.mpr ⟨held, others⟩⟩
            · rcases source with here | member
              · cases here
                exact List.mem_cons_self
              · exact List.mem_cons_of_mem _ member
            · intro q here
              cases here
              exact (le_of_lt higher).trans held
          · have held := above b rfl
            refine ⟨?_, above, List.forall_mem_cons.mpr ⟨(not_lt.mp higher).trans held, others⟩⟩
            rcases source with here | member
            · exact .inl here
            · exact .inr (List.mem_cons_of_mem _ member)

omit [DecidableEq κ] in
theorem foldl_highest_none (missing : rows.foldl keep best = none) : best = none ∧ rows = [] := by
  induction rows generalizing best with
  | nil => exact ⟨missing, rfl⟩
  | cons row rest ih =>
      have none := (ih missing).1
      cases best with
      | none =>
          rw [first] at none
          cases none
      | some b =>
          rw [later] at none
          split_ifs at none

omit [DecidableEq κ] later in
theorem foldl_last (later : ∀ b r, keep (some b) r = if rank b ≤ rank r then some r else some b)
    (sorted : (rows.map rank).Pairwise (· ≤ ·)) : rows.foldl keep none = rows.getLast? := by
  induction rows using List.reverseRecOn with
  | nil => rfl
  | append_singleton rows r ih =>
      rw [List.map_append, List.pairwise_append] at sorted
      rw [List.foldl_append, ih sorted.1, List.getLast?_concat]
      cases last : rows.getLast? with
      | none => exact first r
      | some b =>
          have before : rank b ≤ rank r :=
            sorted.2.2 _ (List.mem_map_of_mem (List.mem_of_getLast? last)) _ List.mem_cons_self
          change keep (some b) r = some r
          rw [later, if_pos before]

end Highest

section Update

variable {selects : α → Bool} {set : α → α}

theorem mem_update {rows : List α} {r : α} :
    r ∈ update selects set rows ↔ ∃ q ∈ rows, (if selects q then set q else q) = r := by
  rw [update, List.mem_map]

theorem update_none {rows : List α} (none : ∀ r ∈ rows, selects r = false) :
    update selects set rows = rows := by
  have each : ∀ r ∈ rows, (if selects r then set r else r) = id r := by
    intro r member
    simp [none r member]
  rw [update, List.map_congr_left each, List.map_id]

variable (keeps : ∀ r, selects r = true → key (set r) = key r)

include keeps

omit [DecidableEq κ] in
theorem key_update (r : α) : key (if selects r then set r else r) = key r := by
  split_ifs with selected
  · exact keeps r selected
  · rfl

theorem lookup_update (k : κ) (rows : List α) :
    lookup key k (update selects set rows) =
      (lookup key k rows).map fun r => if selects r then set r else r := by
  rw [lookup, update, lookup, List.find?_map]
  congr 2
  apply funext
  intro r
  exact congrArg (fun k' => decide (k' = k)) (key_update keeps r)

omit [DecidableEq κ] in
theorem keys_update (rows : List α) : (update selects set rows).map key = rows.map key := by
  rw [update, List.map_map]
  apply List.map_congr_left
  intro r _
  exact key_update keeps r

omit [DecidableEq κ] in
theorem keyed_update {rows : List α} (keyed : Keyed key rows) :
    Keyed key (update selects set rows) := by
  rw [Keyed, keys_update keeps]
  exact keyed

end Update

section One

variable {rows : List α} {k : κ} {r : α} (keyed : Keyed key rows)
  (found : lookup key k rows = some r) (p : α → Bool)

include keyed found

theorem selects_one {q : α} (member : q ∈ rows) (named : key q = k) : q = r := by
  have held := lookup_mem found
  exact keyed.eq_of_key member held.1 (named.trans held.2.symm)

theorem update_one (set : α → α) :
    update (fun q => decide (key q = k) && p q) set rows =
      if p r then update (fun q => decide (key q = k)) set rows else rows := by
  have each : ∀ q ∈ rows, (if (decide (key q = k) && p q) = true then set q else q) =
      if p r then (if decide (key q = k) = true then set q else q) else q := by
    intro q member
    by_cases named : key q = k
    · rw [selects_one keyed found member named]
      cases p r <;> simp
    · simp [named]
  rw [update, List.map_congr_left each]
  split_ifs
  · rfl
  · exact List.map_id' rows

theorem update_value (set : α → α) :
    update (fun q => decide (key q = k)) set rows =
      update (fun q => decide (key q = k)) (fun _ => set r) rows := by
  apply List.map_congr_left
  intro q member
  by_cases named : key q = k
  · rw [selects_one keyed found member named]
  · simp [named]

theorem countP_one :
    rows.countP (fun q => decide (key q = k) && p q) = if p r then 1 else 0 := by
  induction rows with
  | nil => cases found
  | cons q rest ih =>
      have parts := List.nodup_cons.mp keyed
      rw [List.countP_cons]
      by_cases named : key q = k
      · have same : q = r := by simpa [lookup, named] using found
        have others : rest.countP (fun q => decide (key q = k) && p q) = 0 := by
          rw [List.countP_eq_zero]
          intro other member selected
          rw [Bool.and_eq_true, decide_eq_true_iff] at selected
          exact parts.1 (List.mem_map.mpr ⟨other, member, selected.1.trans named.symm⟩)
        rw [others, same]
        have here : key r = k := (lookup_mem found).2
        simp [here]
      · have later : lookup key k rest = some r := by
          rw [lookup, List.find?_cons_of_neg (by simpa using named)] at found
          exact found
        rw [ih parts.2 later]
        simp [named]

end One

end O7Formal.Table
