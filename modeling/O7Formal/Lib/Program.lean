import Mathlib.Tactic
import O7Formal.Lib.Fallible

/-! Programs as trees of calls that are answered from outside, and protocols: what a program may
call next, given what it has learnt from the answers so far. -/

namespace O7Formal

/-- A program that makes calls `c`, each answered by an `R c`, before it returns. -/
inductive Program (C : Type) (R : C → Type) (α : Type) : Type where
  | done (a : α)
  | call (c : C) (next : R c → Program C R α)

/-- What a program may call in a mode, what the answers can be, and the mode after one. -/
structure Protocol (C : Type) (R : C → Type) (M : Type) where
  permits : M → C → Prop
  answers : (c : C) → R c → Prop
  learns : M → (c : C) → R c → M

namespace Program

variable {C : Type} {R : C → Type} {M α β ε : Type}

def bind : Program C R α → (α → Program C R β) → Program C R β
  | .done a, f => f a
  | .call c next, f => .call c fun r => (next r).bind f

instance : Monad (Program C R) where
  pure := .done
  bind := bind

def perform (c : C) : Program C R (R c) := .call c .done

/-- Every call is permitted where it is made, whatever the answers before it, and the result
fits. -/
def Obeys (p : Protocol C R M) : Program C R α → M → (α → M → Prop) → Prop
  | .done a, m, post => post a m
  | .call c next, m, post =>
      p.permits m c ∧ ∀ r, p.answers c r → (next r).Obeys p (p.learns m c r) post

variable {p : Protocol C R M} {m : M}

theorem obeys_pure {a : α} {post : α → M → Prop} (fits : post a m) :
    (pure a : Program C R α).Obeys p m post := fits

theorem obeys_perform {c : C} {post : R c → M → Prop} (permitted : p.permits m c)
    (fits : ∀ r, p.answers c r → post r (p.learns m c r)) :
    (perform c : Program C R (R c)).Obeys p m post := ⟨permitted, fits⟩

theorem obeys_bind {x : Program C R α} {f : α → Program C R β} {post : β → M → Prop}
    (first : x.Obeys p m fun a m' => (f a).Obeys p m' post) : (x >>= f).Obeys p m post := by
  change (x.bind f).Obeys p m post
  induction x generalizing m with
  | done a => exact first
  | call c next ih => exact ⟨first.1, fun r answered => ih r (first.2 r answered)⟩

theorem obeys_mono {x : Program C R α} {post weaker : α → M → Prop} (obeys : x.Obeys p m post)
    (implies : ∀ a m', post a m' → weaker a m') : x.Obeys p m weaker := by
  induction x generalizing m with
  | done a => exact implies a m obeys
  | call c next ih => exact ⟨obeys.1, fun r answered => ih r (obeys.2 r answered)⟩

theorem obeys_free (free : ∀ m c, p.permits m c) (x : Program C R α) :
    x.Obeys p m fun _ _ => True := by
  induction x generalizing m with
  | done a => trivial
  | call c next ih => exact ⟨free m c, fun r _ => ih r⟩

/-- A program that may run in every mode of a kind and ends in one. -/
def Keeps (p : Protocol C R M) (kind : M → Prop) (x : Program C R α) : Prop :=
  ∀ m, kind m → x.Obeys p m fun _ m' => kind m'

variable {kind : M → Prop}

theorem keeps_pure (a : α) : Keeps p kind (pure a : Program C R α) := fun _ held => held

theorem keeps_perform {c : C} (permitted : ∀ m, kind m → p.permits m c)
    (learns : ∀ m r, kind m → kind (p.learns m c r)) :
    Keeps p kind (perform c : Program C R (R c)) :=
  fun m held => ⟨permitted m held, fun r _ => learns m r held⟩

theorem keeps_bind {x : Program C R α} {f : α → Program C R β} (first : Keeps p kind x)
    (later : ∀ a, Keeps p kind (f a)) : Keeps p kind (x >>= f) :=
  fun m held => obeys_bind (obeys_mono (first m held) fun a m' held' => later a m' held')

def among (calls : C → Prop) : Protocol C R Unit := ⟨fun _ c => calls c, fun _ _ => True,
  fun _ _ _ => ()⟩

abbrev Only (calls : C → Prop) (x : Program C R α) : Prop := Keeps (among calls) (fun _ => True) x

theorem only_perform {calls : C → Prop} {c : C} (listed : calls c) :
    Only calls (perform c : Program C R (R c)) :=
  keeps_perform (fun _ _ => listed) fun _ _ _ => trivial

theorem keeps_of_only {calls : C → Prop} {x : Program C R α} (only : Only calls x)
    (permitted : ∀ m c, kind m → calls c → p.permits m c)
    (learns : ∀ m c r, kind m → calls c → kind (p.learns m c r)) : Keeps p kind x := by
  intro m held
  have obeys := only () trivial
  clear only
  induction x generalizing m with
  | done a => exact held
  | call c next ih =>
      refine ⟨permitted m c held obeys.1, ?_⟩
      intro r _
      exact ih r _ (learns m c r held obeys.1) (obeys.2 r trivial)

theorem only_mono {calls wider : C → Prop} (implies : ∀ c, calls c → wider c)
    {x : Program C R α} (only : Only calls x) : Only wider x :=
  keeps_of_only only (fun _ c _ listed => implies c listed) fun _ _ _ _ _ => trivial

abbrev Trace (C : Type) (R : C → Type) := List ((c : C) × R c)

/-- What is left of a program whose calls so far were answered as a trace says. -/
inductive After : Program C R α → Trace C R → Program C R α → Prop where
  | here {x : Program C R α} : After x [] x
  | answered {c : C} {next : R c → Program C R α} {r : R c} {rest : Trace C R}
      {y : Program C R α} (later : After (next r) rest y) : After (.call c next) (⟨c, r⟩ :: rest) y

theorem After.snoc {x : Program C R α} {trace : Trace C R} {c : C} {next : R c → Program C R α}
    (after : After x trace (.call c next)) (r : R c) : After x (trace ++ [⟨c, r⟩]) (next r) := by
  generalize same : (Program.call c next : Program C R α) = y at after
  induction after with
  | here =>
      subst same
      exact .answered .here
  | answered _ ih => exact .answered (ih same)

theorem After.append {x y z : Program C R α} {first later : Trace C R} (before : After x first y)
    (behind : After y later z) : After x (first ++ later) z := by
  induction before with
  | here => exact behind
  | answered _ ih => exact .answered (ih behind)

theorem After.cut {x y : Program C R α} {past rest : Trace C R} (after : After x (past ++ rest) y) :
    ∃ z, After x past z := by
  induction past generalizing x with
  | nil => exact ⟨x, .here⟩
  | cons entry past ih =>
      cases after with
      | answered later =>
          rcases ih later with ⟨z, before⟩
          exact ⟨z, .answered before⟩

/-- At most `n` calls of a program, each answered by one function, and what is left of it. -/
def answered (answer : (c : C) → R c) : Program C R α → Nat → Trace C R × Program C R α
  | x, 0 => ([], x)
  | .done a, _ + 1 => ([], .done a)
  | .call c next, n + 1 =>
      let (rest, y) := (next (answer c)).answered answer n
      (⟨c, answer c⟩ :: rest, y)

theorem after_answered (answer : (c : C) → R c) (x : Program C R α) (n : Nat) :
    After x (x.answered answer n).1 (x.answered answer n).2 := by
  induction n generalizing x with
  | zero => cases x <;> exact .here
  | succ n ih =>
      cases x with
      | done a => exact .here
      | call c next => exact .answered (ih _)

theorem returned_bind {x : Program C R α} {f : α → Program C R β} {trace : Trace C R} {b : β}
    (after : After (x >>= f) trace (pure b)) :
    ∃ a first rest, trace = first ++ rest ∧ After x first (pure a) ∧ After (f a) rest (pure b) := by
  induction x generalizing trace with
  | done a => exact ⟨a, [], trace, rfl, .here, after⟩
  | call c next ih =>
      have called : After (.call c fun r => (next r).bind f) trace (.done b) := after
      cases called with
      | @answered _ _ r rest _ later =>
          rcases ih r later with ⟨a, first, rest', rfl, before, behind⟩
          exact ⟨a, ⟨c, r⟩ :: first, rest', rfl, .answered before, behind⟩

theorem returned_pure {a b : α} {trace : Trace C R}
    (after : After (pure a : Program C R α) trace (pure b)) : trace = [] ∧ a = b := by
  have returned : After (.done a : Program C R α) trace (.done b) := after
  cases returned
  exact ⟨rfl, rfl⟩

theorem returned_perform {c : C} {r : R c} {trace : Trace C R}
    (after : After (perform c : Program C R (R c)) trace (pure r)) : trace = [⟨c, r⟩] := by
  have called : After (.call c .done : Program C R (R c)) trace (.done r) := after
  cases called with
  | answered later =>
      rcases returned_pure later with ⟨rfl, rfl⟩
      rfl

def learned (p : Protocol C R M) (m : M) (trace : Trace C R) : M :=
  trace.foldl (fun m entry => p.learns m entry.1 entry.2) m

theorem After.keeps {motive : Trace C R → M → Prop} {x y : Program C R α} {trace : Trace C R}
    {post : α → M → Prop} (after : After x trace y)
    (step : ∀ past m c r, motive past m → p.permits m c → p.answers c r →
      motive (past ++ [⟨c, r⟩]) (p.learns m c r))
    {past : Trace C R} (held : motive past m) (obeys : x.Obeys p m post)
    (answered : ∀ entry ∈ trace, p.answers entry.1 entry.2) :
    motive (past ++ trace) (learned p m trace) ∧ y.Obeys p (learned p m trace) post := by
  induction after generalizing past m with
  | here => exact ⟨by rwa [List.append_nil], obeys⟩
  | @answered c next r rest y _ ih =>
      rw [List.forall_mem_cons] at answered
      have now := step past m c r held obeys.1 answered.1
      have both := ih now (obeys.2 r answered.1) answered.2
      rw [List.append_assoc] at both
      exact both

theorem After.invariant {x y : Program C R α} {trace : Trace C R} {post : α → M → Prop}
    (after : After x trace y)
    (step : ∀ m c r, kind m → p.permits m c → p.answers c r → kind (p.learns m c r))
    (held : kind m) (obeys : x.Obeys p m post)
    (answered : ∀ entry ∈ trace, p.answers entry.1 entry.2) : kind (learned p m trace) :=
  (@After.keeps C R M α p m (fun _ m => kind m) x y trace post after
    (fun _ m c r => step m c r) [] held obeys answered).1

theorem After.permits {x y : Program C R α} {trace : Trace C R} {post : α → M → Prop}
    (after : After x trace y) (obeys : x.Obeys p m post)
    (answered : ∀ entry ∈ trace, p.answers entry.1 entry.2) {before later : Trace C R} {c : C}
    {r : R c} (split : trace = before ++ ⟨c, r⟩ :: later) : p.permits (learned p m before) c := by
  induction after generalizing m before with
  | here => cases before <;> cases split
  | @answered c' next r' rest y _ ih =>
      rw [List.forall_mem_cons] at answered
      cases before with
      | nil =>
          cases (List.cons.inj split).1
          exact obeys.1
      | cons entry before =>
          cases (List.cons.inj split).1
          exact ih (obeys.2 r' answered.1) answered.2 (List.cons.inj split).2

theorem After.result {x : Program C R α} {trace : Trace C R} {post : α → M → Prop} {a : α}
    (after : After x trace (pure a)) (obeys : x.Obeys p m post)
    (answered : ∀ entry ∈ trace, p.answers entry.1 entry.2) : post a (learned p m trace) :=
  (@After.keeps C R M α p m (fun _ _ => True) x _ trace post after
    (fun _ _ _ _ _ _ _ => trivial) [] trivial obeys answered).2

section Failing

variable {x : ExceptT ε (Program C R) α} {f : α → ExceptT ε (Program C R) β}

theorem obeys_try {post : Except ε β → M → Prop}
    (first : x.run.Obeys p m fun r m' =>
      (∀ a, r = .ok a → (f a).run.Obeys p m' post) ∧
        ∀ e, r = .error e → post (.error e) m') :
    (x >>= f).run.Obeys p m post := by
  apply obeys_bind
  apply obeys_mono first
  intro r m' facts
  cases r with
  | ok a => exact facts.1 a rfl
  | error e => exact facts.2 e rfl

theorem returned_try {trace : Trace C R} {b : β} (after : After (x >>= f).run trace (pure (.ok b))) :
    ∃ a first rest, trace = first ++ rest ∧ After x.run first (pure (.ok a)) ∧
      After (f a).run rest (pure (.ok b)) := by
  rcases returned_bind after with ⟨r, first, rest, split, before, behind⟩
  cases r with
  | ok a => exact ⟨a, first, rest, split, before, behind⟩
  | error e => cases (returned_pure behind).2

theorem returned_lift {y : Program C R α} {trace : Trace C R} {a : α}
    (after : After (liftM y : ExceptT ε (Program C R) α).run trace (pure (.ok a))) :
    After y trace (pure a) := by
  rcases returned_bind after with ⟨b, first, rest, rfl, before, behind⟩
  rcases returned_pure behind with ⟨rfl, same⟩
  cases same
  rwa [List.append_nil]

theorem obeys_lift {y : Program C R α} {post : Except ε α → M → Prop}
    (obeys : y.Obeys p m fun a m' => post (.ok a) m') :
    (liftM y : ExceptT ε (Program C R) α).run.Obeys p m post := by
  apply obeys_bind
  apply obeys_mono obeys
  intro a m' fits
  exact fits

theorem keeps_try (first : Keeps p kind x.run) (later : ∀ a, Keeps p kind (f a).run) :
    Keeps p kind (x >>= f).run := by
  intro m held
  apply obeys_try
  apply obeys_mono (first m held)
  intro r m' held'
  exact ⟨fun a _ => later a m' held', fun _ _ => held'⟩

theorem keeps_return (a : α) : Keeps p kind (pure a : ExceptT ε (Program C R) α).run :=
  fun _ held => held

theorem keeps_throw (e : ε) : Keeps p kind (throw e : ExceptT ε (Program C R) α).run :=
  fun _ held => held

theorem keeps_lift {y : Program C R α} (keeps : Keeps p kind y) :
    Keeps p kind (liftM y : ExceptT ε (Program C R) α).run :=
  fun m held => obeys_lift (keeps m held)

end Failing

end Program

end O7Formal

/-! ### A program run to its end on a state that answers its calls, and one that may fail -/

namespace O7Formal.Program

variable {C : Type} {R : C → Type} {S α β ε ε' : Type}

def evaluate (answer : (c : C) → S → R c × S) : Program C R α → S → α × S
  | .done a, s => (a, s)
  | .call c next, s => (next (answer c s).1).evaluate answer (answer c s).2

variable (answer : (c : C) → S → R c × S)

theorem evaluate_pure (a : α) (s : S) :
    (pure a : Program C R α).evaluate answer s = (a, s) := rfl

theorem evaluate_bind (x : Program C R α) (f : α → Program C R β) (s : S) :
    (x >>= f).evaluate answer s =
      (f (x.evaluate answer s).1).evaluate answer (x.evaluate answer s).2 := by
  change (x.bind f).evaluate answer s = _
  induction x generalizing s with
  | done a => rfl
  | call c next ih => exact ih (answer c s).1 (answer c s).2

theorem after_evaluate (x : Program C R α) (s : S) :
    ∃ trace, After x trace (pure (x.evaluate answer s).1) ∧
      ∀ entry ∈ trace, ∃ t, entry.2 = (answer entry.1 t).1 := by
  induction x generalizing s with
  | done a => exact ⟨[], .here, List.forall_mem_nil _⟩
  | call c next ih =>
      rcases ih (answer c s).1 (answer c s).2 with ⟨rest, ends, answered⟩
      refine ⟨⟨c, (answer c s).1⟩ :: rest, .answered ends, ?_⟩
      rw [List.forall_mem_cons]
      exact ⟨⟨s, rfl⟩, answered⟩

theorem evaluate_keeps {motive : S → Prop} (keeps : ∀ c s, motive s → motive (answer c s).2)
    (x : Program C R α) {s : S} (held : motive s) : motive (x.evaluate answer s).2 := by
  induction x generalizing s with
  | done a => exact held
  | call c next ih => exact ih _ (keeps c s held)

theorem evaluate_only {calls : C → Prop} {motive : S → Prop} {x : Program C R α}
    (only : Only calls x) (keeps : ∀ c s, calls c → motive s → motive (answer c s).2) {s : S}
    (held : motive s) : motive (x.evaluate answer s).2 := by
  have obeys := only () trivial
  clear only
  induction x generalizing s with
  | done a => exact held
  | call c next ih => exact ih _ (keeps c s obeys.1 held) (obeys.2 _ trivial)

/-- The second of two goes on from where the first ended, unless that failed. -/
def andThen (r : Except ε α × S) (f : α → S → Except ε β × S) : Except ε β × S :=
  match r with
  | (.ok a, s) => f a s
  | (.error e, s) => (.error e, s)

theorem evaluate_try (x : ExceptT ε (Program C R) α) (f : α → ExceptT ε (Program C R) β) (s : S) :
    (x >>= f).run.evaluate answer s =
      andThen (x.run.evaluate answer s) fun a t => (f a).run.evaluate answer t := by
  change (x.run >>= ExceptT.bindCont f).evaluate answer s = _
  rw [evaluate_bind]
  rcases x.run.evaluate answer s with ⟨r, t⟩
  cases r <;> rfl

theorem evaluate_return (a : α) (s : S) :
    (pure a : ExceptT ε (Program C R) α).run.evaluate answer s = (.ok a, s) := rfl

theorem evaluate_lift (x : Program C R α) (s : S) :
    (liftM x : ExceptT ε (Program C R) α).run.evaluate answer s =
      (.ok (x.evaluate answer s).1, (x.evaluate answer s).2) := by
  change (x >>= fun a => pure (Except.ok a)).evaluate answer s = _
  rw [evaluate_bind]
  rfl

theorem andThen_drop {r : Except ε α × S} {b : β} : (andThen r fun _ s => (.ok b, s)).2 = r.2 := by
  rcases r with ⟨_ | a, t⟩ <;> rfl

theorem andThen_ok {r : Except ε α × S} {f : α → S → Except ε β × S} {b : β} {s : S}
    (ok : andThen r f = (.ok b, s)) : ∃ a t, r = (.ok a, t) ∧ f a t = (.ok b, s) := by
  rcases r with ⟨_ | a, t⟩
  · cases congrArg Prod.fst ok
  · exact ⟨a, t, rfl, ok⟩

theorem andThen_error {r : Except ε α × S} {f : α → S → Except ε β × S} {e : ε} {s : S}
    (failed : andThen r f = (.error e, s)) :
    r = (.error e, s) ∨ ∃ a t, r = (.ok a, t) ∧ f a t = (.error e, s) := by
  rcases r with ⟨e' | a, t⟩
  · cases failed
    exact .inl rfl
  · exact .inr ⟨a, t, rfl, failed⟩

end O7Formal.Program

namespace O7Formal

structure Watched (M ε : Type) (α : Type) where
  moments : List M
  outcome : Except ε α

namespace Watched

variable {M ε α β : Type}

instance : Monad (Watched M ε) where
  pure a := ⟨[], .ok a⟩
  bind x f :=
    match x.outcome with
    | .error e => ⟨x.moments, .error e⟩
    | .ok a => ⟨x.moments ++ (f a).moments, (f a).outcome⟩

def note (m : M) : Watched M ε Unit := ⟨[m], .ok ()⟩

def ofExcept (x : Except ε α) : Watched M ε α := ⟨[], x⟩

@[simp] theorem outcome_pure (a : α) : (pure a : Watched M ε α).outcome = .ok a := rfl

@[simp] theorem outcome_note (m : M) : (note m : Watched M ε Unit).outcome = .ok () := rfl

@[simp] theorem outcome_ofExcept (x : Except ε α) : (ofExcept x : Watched M ε α).outcome = x := rfl

@[simp] theorem outcome_bind (x : Watched M ε α) (f : α → Watched M ε β) :
    (x >>= f).outcome = x.outcome >>= fun a => (f a).outcome := by
  rcases x with ⟨moments, _ | a⟩ <;> rfl

@[simp] theorem outcome_ite (p : Prop) [Decidable p] (x y : Watched M ε α) :
    (if p then x else y).outcome = if p then x.outcome else y.outcome := by
  split <;> rfl

def Throughout (P : M → Prop) (x : Watched M ε α) : Prop := ∀ m ∈ x.moments, P m

variable {P : M → Prop}

theorem throughout_pure (a : α) : Throughout P (pure a : Watched M ε α) := List.forall_mem_nil _

theorem throughout_ofExcept (x : Except ε α) : Throughout P (ofExcept x : Watched M ε α) :=
  List.forall_mem_nil _

theorem throughout_note_iff {m : M} : Throughout P (note m : Watched M ε Unit) ↔ P m :=
  List.forall_mem_singleton

theorem throughout_bind_iff {x : Watched M ε α} {f : α → Watched M ε β} :
    Throughout P (x >>= f) ↔ Throughout P x ∧ ∀ a, x.outcome = .ok a → Throughout P (f a) := by
  rcases x with ⟨moments, e | a⟩
  · exact (and_iff_left fun a ran => by cases ran).symm
  · constructor
    · intro all
      refine ⟨fun m member => all m (List.mem_append_left _ member), ?_⟩
      intro b ran
      cases ran
      exact fun m member => all m (List.mem_append_right _ member)
    · intro parts m member
      rcases List.mem_append.mp member with early | late
      · exact parts.1 m early
      · exact parts.2 a rfl m late

end Watched

end O7Formal
