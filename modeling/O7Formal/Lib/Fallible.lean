import Mathlib.Tactic

/-! Fallible computations in `Except`: guards, sequencing and folds that stop at the
first error. The rules turn "this run succeeded" into the facts it must have checked. -/

namespace O7Formal.Fallible

universe u

variable {ε : Type*} {α β : Type u}

/-- Stop with `error` when `bad` holds. -/
def refuseIf (bad : Prop) [Decidable bad] (error : ε) : Except ε Unit :=
  if bad then .error error else .ok ()

@[simp] theorem refuseIf_ok_iff {bad : Prop} [Decidable bad] {error : ε} {u : Unit} :
    refuseIf bad error = .ok u ↔ ¬ bad := by
  by_cases h : bad <;> simp [refuseIf, h]

@[simp] theorem refuseIf_error_iff {bad : Prop} [Decidable bad] {error e : ε} :
    refuseIf bad error = .error e ↔ bad ∧ error = e := by
  by_cases h : bad <;> simp [refuseIf, h]

/-- Stop at the first element that `bad` holds of. -/
def refuseFirst {ι : Type*} (xs : List ι) (bad : ι → Prop) [DecidablePred bad] (error : ι → ε) :
    Except ε Unit :=
  match xs.find? fun x => decide (bad x) with
  | some x => .error (error x)
  | none => .ok ()

@[simp] theorem refuseFirst_ok_iff {ι : Type*} {xs : List ι} {bad : ι → Prop} [DecidablePred bad]
    {error : ι → ε} {u : Unit} : refuseFirst xs bad error = .ok u ↔ ∀ x ∈ xs, ¬ bad x := by
  unfold refuseFirst
  split
  · rename_i x found
    simp only [false_iff, not_forall, not_not, reduceCtorEq]
    exact ⟨x, List.mem_of_find?_eq_some found, by simpa using List.find?_some found⟩
  · rename_i found
    simpa using found

/-- `ok_or` -/
def okOr {α : Type*} (x : Option α) (error : ε) : Except ε α :=
  match x with
  | some a => .ok a
  | none => .error error

@[simp] theorem okOr_ok_iff {x : Option α} {error : ε} {a : α} :
    okOr x error = .ok a ↔ x = some a := by
  cases x <;> simp [okOr]

theorem ok_of_isOk {x : Except ε Unit} (isOk : x.isOk = true) : x = .ok () := by
  cases x with
  | error e => cases isOk
  | ok u => rfl

theorem ok_not_error {α : Type*} {a : α} {post : ε → Prop} :
    ∀ e, (Except.ok a : Except ε α) = .error e → post e := by
  intro e same
  cases same

theorem error_not_ok {α : Type*} {e : ε} {post : α → Prop} :
    ∀ a, (Except.error e : Except ε α) = .ok a → post a := by
  intro a same
  cases same

theorem exists_of_isOk {α : Type*} {x : Except ε α} (isOk : x.isOk = true) : ∃ a, x = .ok a := by
  cases x with
  | error e => cases isOk
  | ok a => exact ⟨a, rfl⟩

@[simp] theorem pure_ok_iff {a b : α} : (pure a : Except ε α) = .ok b ↔ a = b := by
  simp [pure, Except.pure]

@[simp] theorem pure_ne_error {a : α} {e : ε} : ¬ (pure a : Except ε α) = .error e := by
  simp [pure, Except.pure]

@[simp] theorem ok_bind (a : α) (f : α → Except ε β) : (Except.ok a >>= f) = f a := rfl

@[simp] theorem error_bind (e : ε) (f : α → Except ε β) : (Except.error e >>= f) = .error e := rfl

theorem bind_ok_iff {x : Except ε α} {f : α → Except ε β} {b : β} :
    (x >>= f) = .ok b ↔ ∃ a, x = .ok a ∧ f a = .ok b := by
  cases x <;> simp [bind, Except.bind]

theorem bind_error_iff {x : Except ε α} {f : α → Except ε β} {e : ε} :
    (x >>= f) = .error e ↔ x = .error e ∨ ∃ a, x = .ok a ∧ f a = .error e := by
  cases x <;> simp [bind, Except.bind]

theorem mapM_ok_iff {ι : Type*} {f : ι → Except ε α} {xs : List ι} {ys : List α} :
    xs.mapM f = .ok ys ↔ List.Forall₂ (fun x y => f x = .ok y) xs ys := by
  induction xs generalizing ys with
  | nil =>
      rw [List.mapM_nil, pure_ok_iff, List.forall₂_nil_left_iff, eq_comm]
  | cons x xs ih =>
      rw [List.mapM_cons, bind_ok_iff, List.forall₂_cons_left_iff]
      constructor
      · intro facts
        rcases facts with ⟨y, here, rest⟩
        rcases bind_ok_iff.mp rest with ⟨others, mapped, same⟩
        exact ⟨y, others, here, ih.mp mapped, (pure_ok_iff.mp same).symm⟩
      · intro facts
        rcases facts with ⟨y, others, here, mapped, same⟩
        exact ⟨y, here, bind_ok_iff.mpr ⟨others, ih.mpr mapped, pure_ok_iff.mpr same.symm⟩⟩

theorem mapM_ok_mem {ι : Type*} {f : ι → Except ε α} {xs : List ι} {ys : List α}
    (ok : xs.mapM f = .ok ys) {x : ι} (member : x ∈ xs) : ∃ y ∈ ys, f x = .ok y := by
  have each := mapM_ok_iff.mp ok
  induction each with
  | nil => cases member
  | @cons first y rest others here tail ih =>
      rcases List.mem_cons.mp member with rfl | later
      · exact ⟨y, List.mem_cons_self, here⟩
      · rcases ih (mapM_ok_iff.mpr tail) later with ⟨z, among, found⟩
        exact ⟨z, List.mem_cons_of_mem _ among, found⟩

theorem mapM_ok_of_mem {ι : Type*} {f : ι → Except ε α} {xs : List ι} {ys : List α}
    (ok : xs.mapM f = .ok ys) {y : α} (member : y ∈ ys) : ∃ x ∈ xs, f x = .ok y := by
  have each := mapM_ok_iff.mp ok
  induction each with
  | nil => cases member
  | @cons x first rest others here tail ih =>
      rcases List.mem_cons.mp member with rfl | later
      · exact ⟨x, List.mem_cons_self, here⟩
      · rcases ih (mapM_ok_iff.mpr tail) later with ⟨z, among, found⟩
        exact ⟨z, List.mem_cons_of_mem _ among, found⟩

theorem mapM_error_split {ι : Type*} {f : ι → Except ε α} {xs : List ι} {e : ε}
    (failed : xs.mapM f = .error e) :
    ∃ before x after, xs = before ++ x :: after ∧ (∀ y ∈ before, ∃ a, f y = .ok a) ∧
      f x = .error e := by
  induction xs with
  | nil => cases failed
  | cons x rest ih =>
      rw [List.mapM_cons, bind_error_iff] at failed
      rcases failed with here | ⟨a, accepted, later⟩
      · exact ⟨[], x, rest, rfl, nofun, here⟩
      · simp only [bind_error_iff, pure_ne_error, and_false, exists_false, or_false] at later
        rcases ih later with ⟨before, y, after, rfl, each, fails⟩
        exact ⟨x :: before, y, after, rfl, List.forall_mem_cons.mpr ⟨⟨a, accepted⟩, each⟩, fails⟩

theorem forM_ok {ι : Type*} {check : ι → Except ε PUnit} {xs : List ι}
    (each : ∀ x ∈ xs, check x = .ok ⟨⟩) : xs.forM check = .ok ⟨⟩ := by
  induction xs with
  | nil => rfl
  | cons x xs ih =>
      rw [List.forall_mem_cons] at each
      change (check x >>= fun _ => xs.forM check) = .ok ⟨⟩
      rw [each.1, ok_bind]
      exact ih each.2

section Fold

variable {σ ι : Type*} {step : σ → ι → Except ε σ}

theorem foldlM_append_ok {s u : σ} {xs ys : List ι} :
    (xs ++ ys).foldlM step s = .ok u ↔
      ∃ t, xs.foldlM step s = .ok t ∧ ys.foldlM step t = .ok u := by
  rw [List.foldlM_append, bind_ok_iff]

theorem foldlM_snoc_ok {s u : σ} {xs : List ι} {x : ι} :
    (xs ++ [x]).foldlM step s = .ok u ↔ ∃ t, xs.foldlM step s = .ok t ∧ step t x = .ok u := by
  rw [foldlM_append_ok]
  simp

/-- What holds before the first input and survives every accepted one holds after the
whole run, stated of the inputs consumed so far together with the state. -/
theorem run_invariant {motive : List ι → σ → Prop} {start : σ} (initially : motive [] start)
    (keeps : ∀ xs s x s', xs.foldlM step start = .ok s → motive xs s → step s x = .ok s' →
      motive (xs ++ [x]) s')
    {xs : List ι} {s : σ} (run : xs.foldlM step start = .ok s) : motive xs s := by
  induction xs using List.reverseRecOn generalizing s with
  | nil =>
      have same : start = s := by simpa using run
      rwa [← same]
  | append_singleton xs x ih =>
      obtain ⟨t, ran, stepped⟩ := foldlM_snoc_ok.mp run
      exact keeps xs t x s ran (ih ran) stepped

theorem run_split {start s : σ} {xs ys : List ι} {x : ι}
    (run : (xs ++ x :: ys).foldlM step start = .ok s) :
    ∃ before after, xs.foldlM step start = .ok before ∧ step before x = .ok after ∧
      ys.foldlM step after = .ok s := by
  obtain ⟨before, first, rest⟩ := foldlM_append_ok.mp run
  rw [List.foldlM_cons, bind_ok_iff] at rest
  obtain ⟨after, stepped, last⟩ := rest
  exact ⟨before, after, first, stepped, last⟩

/-- A fold that refuses a key it has already seen accepts exactly the lists whose elements
pass their own check and whose keys are new and pairwise distinct. -/
theorem foldlM_distinct_ok {κ : Type*} (key : ι → κ) (seen : σ → κ → Prop) (record : σ → ι → σ)
    {passes : ι → Prop}
    (accepts : ∀ s x t, step s x = .ok t ↔ ¬ seen s (key x) ∧ passes x ∧ record s x = t)
    (records : ∀ s x k, seen (record s x) k ↔ k = key x ∨ seen s k) (xs : List ι) (s : σ) :
    (∃ t, xs.foldlM step s = .ok t) ↔
      (∀ x ∈ xs, passes x) ∧ (∀ x ∈ xs, ¬ seen s (key x)) ∧ (xs.map key).Nodup := by
  induction xs generalizing s with
  | nil => simp
  | cons x rest ih =>
      have next : (∃ t, (x :: rest).foldlM step s = .ok t) ↔
          ¬ seen s (key x) ∧ passes x ∧ ∃ t, rest.foldlM step (record s x) = .ok t := by
        simp only [List.foldlM_cons, bind_ok_iff, accepts]
        aesop
      rw [next, ih (record s x)]
      simp only [records, List.forall_mem_cons, List.map_cons, List.nodup_cons, List.mem_map]
      grind

theorem foldlM_chain_ok {κ : Type*} (reads : ι → κ → Prop) (before : κ → κ → Prop)
    (last : σ → Option κ) (push : σ → κ → σ)
    (accepts : ∀ s x t, step s x = .ok t ↔
      ∃ k, reads x k ∧ (∀ p ∈ last s, before p k) ∧ push s k = t)
    (pushes : ∀ s k, last (push s k) = some k) (xs : List ι) (s : σ) :
    (∃ t, xs.foldlM step s = .ok t) ↔
      ∃ ks, List.Forall₂ reads xs ks ∧ ((last s).toList ++ ks).IsChain before := by
  have starts : ∀ (s : σ) (k : κ) (ks : List κ), ((last s).toList ++ k :: ks).IsChain before ↔
      (∀ p ∈ last s, before p k) ∧ (k :: ks).IsChain before := by
    intro s k ks
    cases last s with
    | none => simp
    | some p => simp [List.isChain_cons_cons]
  induction xs generalizing s with
  | nil =>
      simp only [List.foldlM_nil, List.forall₂_nil_left_iff, exists_eq_left, List.append_nil]
      cases last s <;> simp [pure, Except.pure]
  | cons x rest ih =>
      simp only [List.foldlM_cons, bind_ok_iff, List.forall₂_cons_left_iff, accepts]
      constructor
      · rintro ⟨t, _, ⟨k, read, above, rfl⟩, ran⟩
        rcases (ih _).mp ⟨t, ran⟩ with ⟨ks, others, chained⟩
        rw [pushes, Option.toList_some, List.singleton_append] at chained
        exact ⟨k :: ks, ⟨k, ks, read, others, rfl⟩, (starts s k ks).mpr ⟨above, chained⟩⟩
      · rintro ⟨_, ⟨k, ks, read, others, rfl⟩, chained⟩
        rcases (starts s k ks).mp chained with ⟨above, later⟩
        rcases (ih (push s k)).mpr ⟨ks, others, by simpa [pushes] using later⟩ with ⟨t, ran⟩
        exact ⟨t, _, ⟨k, read, above, rfl⟩, ran⟩

/-- A fold that adds to a list what each element yields accepts exactly the lists whose elements
all pass, and then has added what they yield, in their order. -/
theorem foldlM_collect_ok {step : List β → ι → Except ε (List β)}
    {passes : ι → Prop} {yields : ι → Option β}
    (accepts : ∀ s x t, step s x = .ok t ↔ passes x ∧ s ++ (yields x).toList = t)
    (xs : List ι) (s t : List β) :
    xs.foldlM step s = .ok t ↔ (∀ x ∈ xs, passes x) ∧ s ++ xs.filterMap yields = t := by
  induction xs generalizing s with
  | nil =>
      rw [List.foldlM_nil, List.filterMap_nil, List.append_nil]
      exact ⟨fun same => ⟨by simp, Except.ok.inj same⟩, fun same => congrArg _ same.2⟩
  | cons x xs ih =>
      simp only [List.foldlM_cons, bind_ok_iff, accepts, ih, List.forall_mem_cons]
      constructor
      · rintro ⟨middle, ⟨passed, rfl⟩, rest, rfl⟩
        refine ⟨⟨passed, rest⟩, ?_⟩
        rw [List.append_assoc]
        cases yielded : yields x <;> simp [yielded]
      · rintro ⟨⟨passed, rest⟩, rfl⟩
        refine ⟨_, ⟨passed, rfl⟩, rest, ?_⟩
        rw [List.append_assoc]
        cases yielded : yields x <;> simp [yielded]

theorem foldlM_unit_ok_iff {check : ι → Except ε Unit} {xs : List ι} {u : Unit} :
    xs.foldlM (fun _ x => check x) () = .ok u ↔ ∀ x ∈ xs, check x = .ok () := by
  induction xs with
  | nil => simp
  | cons x rest ih =>
      rw [List.foldlM_cons, bind_ok_iff, List.forall_mem_cons, ← ih]
      constructor
      · intro passed
        rcases passed with ⟨_, here, others⟩
        exact ⟨here, others⟩
      · intro passed
        rcases passed with ⟨here, others⟩
        exact ⟨(), here, others⟩

theorem foldlM_error_iff {s : σ} {xs : List ι} {e : ε} :
    xs.foldlM step s = .error e ↔ ∃ before x after t, xs = before ++ x :: after ∧
      before.foldlM step s = .ok t ∧ step t x = .error e := by
  constructor
  · intro failed
    induction xs generalizing s with
    | nil => cases failed
    | cons x rest ih =>
        rw [List.foldlM_cons, bind_error_iff] at failed
        rcases failed with here | ⟨t, stepped, later⟩
        · exact ⟨[], x, rest, s, rfl, rfl, here⟩
        · rcases ih later with ⟨before, y, after, u, rfl, ran, fails⟩
          refine ⟨x :: before, y, after, u, rfl, ?_, fails⟩
          rw [List.foldlM_cons, bind_ok_iff]
          exact ⟨t, stepped, ran⟩
  · intro facts
    obtain ⟨before, x, after, t, rfl, ran, fails⟩ := facts
    rw [List.foldlM_append, bind_error_iff]
    refine .inr ⟨t, ran, ?_⟩
    rw [List.foldlM_cons, bind_error_iff]
    exact .inl fails

end Fold

def FailsWithin (allowed : ε → Prop) (x : Except ε α) : Prop := ∀ e, x = .error e → allowed e

section Within

variable {allowed : ε → Prop}

theorem failsWithin_ok (a : α) : FailsWithin allowed (.ok a : Except ε α) := by
  intro e same
  cases same

theorem failsWithin_pure (a : α) : FailsWithin allowed (pure a : Except ε α) := by
  intro e same
  cases same

theorem failsWithin_error {e : ε} (fine : allowed e) :
    FailsWithin allowed (.error e : Except ε α) := by
  intro e' same
  cases same
  exact fine

theorem failsWithin_refuseIf {bad : Prop} [Decidable bad] {e : ε} (fine : allowed e) :
    FailsWithin allowed (refuseIf bad e) := by
  intro e' same
  rw [refuseIf_error_iff] at same
  exact same.2 ▸ fine

theorem failsWithin_refuseFirst {ι : Type*} {xs : List ι} {bad : ι → Prop} [DecidablePred bad]
    {error : ι → ε} (each : ∀ x, allowed (error x)) :
    FailsWithin allowed (refuseFirst xs bad error) := by
  intro e failed
  rw [refuseFirst] at failed
  split at failed
  · cases failed
    exact each _
  · cases failed

theorem failsWithin_okOr {x : Option α} {e : ε} (fine : allowed e) :
    FailsWithin allowed (okOr x e) := by
  cases x with
  | none => exact failsWithin_error fine
  | some a => exact failsWithin_ok a

theorem failsWithin_bind_of {x : Except ε α} {f : α → Except ε β} (first : FailsWithin allowed x)
    (second : ∀ a, x = .ok a → FailsWithin allowed (f a)) : FailsWithin allowed (x >>= f) := by
  intro e same
  rcases bind_error_iff.mp same with here | ⟨a, ran, later⟩
  · exact first e here
  · exact second a ran e later

theorem failsWithin_bind {x : Except ε α} {f : α → Except ε β} (first : FailsWithin allowed x)
    (second : ∀ a, FailsWithin allowed (f a)) : FailsWithin allowed (x >>= f) :=
  failsWithin_bind_of first (fun a _ => second a)

theorem failsWithin_foldlM {σ ι : Type u} {step : σ → ι → Except ε σ}
    (each : ∀ s x, FailsWithin allowed (step s x)) (xs : List ι) (s : σ) :
    FailsWithin allowed (xs.foldlM step s) := by
  intro e failed
  rcases foldlM_error_iff.mp failed with ⟨_, x, _, t, _, _, fails⟩
  exact each t x e fails

theorem failsWithin_mapM {ι : Type*} {f : ι → Except ε α} (each : ∀ x, FailsWithin allowed (f x))
    (xs : List ι) : FailsWithin allowed (xs.mapM f) := by
  induction xs with
  | nil => exact failsWithin_pure []
  | cons x xs ih =>
      rw [List.mapM_cons]
      refine failsWithin_bind (each x) fun y => ?_
      exact failsWithin_bind ih fun ys => failsWithin_pure (y :: ys)

theorem failsWithin_mapError {ε' : Type*} {x : Except ε' α} {f : ε' → ε}
    (each : ∀ e, allowed (f e)) : FailsWithin allowed (x.mapError f) := by
  intro e same
  cases x with
  | ok a => cases same
  | error e' =>
      cases same
      exact each e'

end Within

theorem map_error_iff {x : Except ε α} {f : α → β} {e : ε} :
    x.map f = .error e ↔ x = .error e := by
  cases x <;> simp [Except.map]

theorem map_ok_iff {x : Except ε α} {f : α → β} {b : β} :
    x.map f = .ok b ↔ ∃ a, x = .ok a ∧ f a = b := by
  cases x <;> simp [Except.map]

theorem mapError_ok_iff {ε' : Type*} {x : Except ε α} {f : ε → ε'} {a : α} :
    x.mapError f = .ok a ↔ x = .ok a := by
  cases x <;> simp [Except.mapError]

theorem mapError_error_iff {ε' : Type*} {x : Except ε α} {f : ε → ε'} {e' : ε'} :
    x.mapError f = .error e' ↔ ∃ e, x = .error e ∧ f e = e' := by
  cases x <;> simp [Except.mapError]

section MapError

variable {ε' : Type*} (g : ε → ε')

theorem mapError_bind (x : Except ε α) (f : α → Except ε β) :
    (x >>= f).mapError g = x.mapError g >>= fun a => (f a).mapError g := by
  cases x <;> rfl

theorem mapError_pure (a : α) : (pure a : Except ε α).mapError g = pure a := rfl

theorem foldlM_mapError {σ : Type u} {ι : Type*} (step : σ → ι → Except ε σ) (xs : List ι) (s : σ) :
    (xs.foldlM step s).mapError g = xs.foldlM (fun s x => (step s x).mapError g) s := by
  induction xs generalizing s with
  | nil => rfl
  | cons x rest ih => simp only [List.foldlM_cons, mapError_bind, ih]

theorem mapM_mapError {ι : Type*} (f : ι → Except ε α) (xs : List ι) :
    (xs.mapM f).mapError g = xs.mapM fun x => (f x).mapError g := by
  induction xs with
  | nil => rfl
  | cons x rest ih => simp only [List.mapM_cons, mapError_bind, mapError_pure, ih]

end MapError

end O7Formal.Fallible
