import O7Formal.Lib.Fallible
import O7Formal.Lib.Program

/-! Programs on a state that may take a call in several ways: what holds wherever such a run is cut
short, and what holds where it returns. -/

namespace O7Formal.Program

variable {C : Type} {R : C → Type} {S α β ε ε' : Type}

/-- The answers that a state can give to a call, each with the state behind it. -/
abbrev Takes (C : Type) (R : C → Type) (S : Type) := S → (c : C) → R c → S → Prop

/-- A run of a program on a state, cut short after any of its calls. -/
inductive Reaches (takes : Takes C R S) : Program C R α → S → Program C R α → S → Prop where
  | here {x : Program C R α} {s : S} : Reaches takes x s x s
  | called {c : C} {next : R c → Program C R α} {r : R c} {s s' t : S} {y : Program C R α}
      (took : takes s c r s') (later : Reaches takes (next r) s' y t) :
      Reaches takes (.call c next) s y t

/-- Every call leaves the state in the invariant, and the result fits. -/
def Holds (takes : Takes C R S) (invariant : S → Prop) : Program C R α → S → (α → S → Prop) → Prop
  | .done a, s, post => post a s
  | .call c next, s, post =>
      ∀ r s', takes s c r s' → invariant s' ∧ (next r).Holds takes invariant s' post

variable {takes : Takes C R S} {invariant : S → Prop} {s : S}

theorem Reaches.holds {x y : Program C R α} {t : S} {post : α → S → Prop}
    (reaches : Reaches takes x s y t) (held : invariant s) (holds : x.Holds takes invariant s post) :
    invariant t ∧ ∀ a, y = pure a → post a t := by
  induction reaches with
  | here =>
      refine ⟨held, ?_⟩
      rintro a rfl
      exact holds
  | called took _ ih =>
      have step := holds _ _ took
      exact ih step.1 step.2

theorem Reaches.bind {x : Program C R α} {f : α → Program C R β} {a : α} {t u : S}
    {y : Program C R β} (first : Reaches takes x s (pure a) t)
    (later : Reaches takes (f a) t y u) : Reaches takes (x >>= f) s y u := by
  change Reaches takes (x.bind f) s y u
  generalize ended : (pure a : Program C R α) = z at first
  induction first with
  | here =>
      subst ended
      exact later
  | called took _ ih => exact .called took (ih later ended)

theorem holds_pure {a : α} {post : α → S → Prop} (fits : post a s) :
    (pure a : Program C R α).Holds takes invariant s post := fits

theorem holds_perform {c : C} {post : R c → S → Prop}
    (step : ∀ r s', takes s c r s' → invariant s' ∧ post r s') :
    (perform c : Program C R (R c)).Holds takes invariant s post := step

theorem holds_bind {x : Program C R α} {f : α → Program C R β} {post : β → S → Prop}
    (first : x.Holds takes invariant s fun a s' => (f a).Holds takes invariant s' post) :
    (x >>= f).Holds takes invariant s post := by
  change (x.bind f).Holds takes invariant s post
  induction x generalizing s with
  | done a => exact first
  | call c next ih =>
      intro r s' took
      exact ⟨(first r s' took).1, ih r (first r s' took).2⟩

theorem holds_mono {x : Program C R α} {weaker : S → Prop} {post post' : α → S → Prop}
    (holds : x.Holds takes invariant s post) (invariants : ∀ s, invariant s → weaker s)
    (implies : ∀ a s, post a s → post' a s) : x.Holds takes weaker s post' := by
  induction x generalizing s with
  | done a => exact implies a s holds
  | call c next ih =>
      intro r s' took
      exact ⟨invariants s' (holds r s' took).1, ih r (holds r s' took).2⟩

theorem holds_final {x : Program C R α} {post : α → S → Prop} (held : invariant s)
    (holds : x.Holds takes invariant s post) :
    x.Holds takes invariant s fun a t => invariant t ∧ post a t := by
  induction x generalizing s with
  | done a => exact ⟨held, holds⟩
  | call c next ih =>
      intro r s' took
      have step := holds r s' took
      exact ⟨step.1, ih r step.1 step.2⟩

section Failing

variable {x : ExceptT ε (Program C R) α} {f : α → ExceptT ε (Program C R) β}

def attempt (x : Program C R (Except ε α)) (wrap : ε → ε') : ExceptT ε' (Program C R) α :=
  ExceptT.mk do
    let r ← x
    pure (r.mapError wrap)

def require (fits : Prop) [Decidable fits] (e : ε) : ExceptT ε (Program C R) Unit :=
  ExceptT.mk (pure (Fallible.refuseIf (¬ fits) e))

def settle (x : Except ε α) : ExceptT ε (Program C R) α := ExceptT.mk (pure x)

def ensuring (x : ExceptT ε (Program C R) α) (last : Program C R β) : ExceptT ε (Program C R) α :=
  ExceptT.mk do
    let r ← x.run
    let _ ← last
    pure r

theorem reaches_try {a : α} {t u : S} {y : Program C R (Except ε β)}
    (first : Reaches takes x.run s (pure (.ok a)) t) (later : Reaches takes (f a).run t y u) :
    Reaches takes (x >>= f).run s y u :=
  first.bind later

theorem holds_try {post : Except ε β → S → Prop}
    (first : x.run.Holds takes invariant s fun r s' =>
      (∀ a, r = .ok a → (f a).run.Holds takes invariant s' post) ∧
        ∀ e, r = .error e → post (.error e) s') :
    (x >>= f).run.Holds takes invariant s post := by
  apply holds_bind
  apply holds_mono first fun _ held => held
  intro r s' facts
  cases r with
  | ok a => exact facts.1 a rfl
  | error e => exact facts.2 e rfl

theorem holds_lift {y : Program C R α} {post : Except ε α → S → Prop}
    (holds : y.Holds takes invariant s fun a s' => post (.ok a) s') :
    (liftM y : ExceptT ε (Program C R) α).run.Holds takes invariant s post := by
  apply holds_bind
  exact holds_mono holds (fun _ held => held) fun _ _ fits => fits

theorem holds_lift_bind {y : Program C R α} {post : Except ε β → S → Prop}
    (holds : y.Holds takes invariant s fun a s' => (f a).run.Holds takes invariant s' post) :
    ((liftM y : ExceptT ε (Program C R) α) >>= f).run.Holds takes invariant s post := by
  apply holds_try
  apply holds_lift
  apply holds_mono holds fun _ held => held
  rintro a s' next
  refine ⟨?_, nofun⟩
  rintro b ⟨⟩
  exact next

theorem holds_attempt {y : Program C R (Except ε α)} {wrap : ε → ε'}
    {post : Except ε' α → S → Prop}
    (holds : y.Holds takes invariant s fun r s' => (∀ a, r = .ok a → post (.ok a) s') ∧
      ∀ e, r = .error e → post (.error (wrap e)) s') :
    (attempt y wrap).run.Holds takes invariant s post := by
  apply holds_bind
  apply holds_mono holds fun _ held => held
  intro r s' facts
  cases r with
  | ok a => exact facts.1 a rfl
  | error e => exact facts.2 e rfl

theorem holds_require {fits : Prop} [Decidable fits] {e : ε} {post : Except ε Unit → S → Prop}
    (met : fits → post (.ok ()) s) (unmet : ¬ fits → post (.error e) s) :
    (require fits e : ExceptT ε (Program C R) Unit).run.Holds takes invariant s post := by
  apply holds_pure
  by_cases holds : fits
  · rw [Fallible.refuseIf, if_neg (not_not.mpr holds)]
    exact met holds
  · rw [Fallible.refuseIf, if_pos holds]
    exact unmet holds

theorem holds_attempt_bind {y : Program C R (Except ε α)} {wrap : ε → ε'}
    {next : α → ExceptT ε' (Program C R) β} {post : Except ε' β → S → Prop}
    (holds : y.Holds takes invariant s fun r s' =>
      (∀ a, r = .ok a → (next a).run.Holds takes invariant s' post) ∧
        ∀ e, r = .error e → post (.error (wrap e)) s') :
    (attempt y wrap >>= next).run.Holds takes invariant s post := by
  apply holds_try
  apply holds_attempt
  apply holds_mono holds fun _ held => held
  rintro r s' ⟨passed, failed⟩
  refine ⟨fun a same => ⟨?_, nofun⟩, fun e same => ⟨nofun, ?_⟩⟩
  · rintro b ⟨⟩
    exact passed a same
  · rintro e' ⟨⟩
    exact failed e same

theorem holds_settle_bind {known : Except ε α} {next : α → ExceptT ε (Program C R) β}
    {post : Except ε β → S → Prop}
    (passed : ∀ a, known = .ok a → (next a).run.Holds takes invariant s post)
    (failed : ∀ e, known = .error e → post (.error e) s) :
    (settle known >>= next).run.Holds takes invariant s post :=
  holds_try (holds_pure ⟨passed, failed⟩)

theorem holds_require_bind {fits : Prop} [Decidable fits] {e : ε}
    {next : Unit → ExceptT ε (Program C R) β} {post : Except ε β → S → Prop}
    (met : fits → (next ()).run.Holds takes invariant s post)
    (unmet : ¬ fits → post (.error e) s) :
    (require fits e >>= next).run.Holds takes invariant s post := by
  apply holds_try
  apply holds_require
  · intro holds
    exact ⟨fun _ _ => met holds, nofun⟩
  · intro fails
    refine ⟨nofun, ?_⟩
    rintro e' ⟨⟩
    exact unmet fails

theorem holds_ensuring {last : Program C R β} {post : Except ε α → S → Prop}
    (first : x.run.Holds takes invariant s fun r s' =>
      last.Holds takes invariant s' fun _ t => post r t) :
    (ensuring x last).run.Holds takes invariant s post := by
  apply holds_bind
  apply holds_mono first fun _ held => held
  intro r s' rest
  apply holds_bind
  exact holds_mono rest (fun _ held => held) fun _ _ fits => fits

end Failing

section Traces

variable {σ : Type} {fits : List σ → σ → Prop} {trace : List σ} {step : σ}

def EachAfter (fits : List σ → σ → Prop) (trace : List σ) : Prop :=
  ∀ before step later, trace = before ++ step :: later → fits before step

theorem eachAfter_snoc :
    EachAfter fits (trace ++ [step]) ↔ EachAfter fits trace ∧ fits trace step := by
  constructor
  · intro each
    refine ⟨?_, each trace step [] rfl⟩
    rintro before earlier later rfl
    exact each before earlier (later ++ [step]) (by simp)
  · rintro ⟨each, last⟩ before now later split
    rcases List.eq_nil_or_concat later with rfl | ⟨later, final, rfl⟩
    · rcases List.append_inj' split rfl with ⟨rfl, same⟩
      cases same
      exact last
    · have cut : trace ++ [step] = (before ++ now :: later) ++ [final] := by simpa using split
      rcases List.append_inj' cut rfl with ⟨rfl, -⟩
      exact each before now later rfl

theorem eachAfter_of_forall (all : ∀ step ∈ trace, ∀ before, fits before step) :
    EachAfter fits trace := by
  rintro before step later rfl
  exact all step (by simp) before

end Traces

end O7Formal.Program
