import O7Formal.Lib.Program

/-! Any number of programs on one world: they join, are answered one call at a time in any order,
and return or crash at any point. What each of them knows of the world is kept by the others. -/

namespace O7Formal

variable (C : Type) (R : C → Type) (W E A M : Type)

/-- The world that answers calls. An answer may start further programs; `none` is no answer. -/
structure Host where
  answer : Nat → (c : C) → E → W → Option (R c × W × List (Program C R Unit))
  leave : Nat → W → W
  entry : A → Program C R Unit

structure Running where
  world : W
  parties : List (Option (Program C R Unit))

inductive Move where
  | joins (a : A)
  | advances (i : Nat) (e : E)
  | crashes (i : Nat)

variable {C R W E A M}

def Running.remove (host : Host C R W E A) (s : Running C R W) (i : Nat) : Running C R W :=
  ⟨host.leave i s.world, s.parties.set i none⟩

namespace Host

variable (host : Host C R W E A)

def step (s : Running C R W) : Move E A → Running C R W
  | .joins a => { s with parties := s.parties ++ [some (host.entry a)] }
  | .advances i e =>
      match s.parties[i]? with
      | some (some (.done _)) => s.remove host i
      | some (some (.call c next)) =>
          match host.answer i c e s.world with
          | some (r, w, started) => ⟨w, s.parties.set i (some (next r)) ++ started.map some⟩
          | none => s
      | _ => s
  | .crashes i =>
      match s.parties[i]? with
      | some (some _) => s.remove host i
      | _ => s

def run (s : Running C R W) (moves : List (Move E A)) : Running C R W := moves.foldl host.step s

variable (p : Protocol C R M) (start : M)

def Enters (x : Program C R Unit) : Prop := x.Obeys p start fun _ _ => True

/-- What a call permitted by the protocol does to the world, and to what the parties know. -/
structure Disciplined (Holds : Nat → W → Prop) (Knows : Nat → M → W → Prop) : Prop where
  entry : ∀ a, Enters p start (host.entry a)
  joins : ∀ {n w}, Holds n w → Holds (n + 1) w ∧ Knows n start w
  answers : ∀ {n i m c e w r w' started}, Holds n w → i < n → Knows i m w → p.permits m c →
    host.answer i c e w = some (r, w', started) →
    p.answers c r ∧ Holds n w' ∧ Knows i (p.learns m c r) w' ∧
      (∀ j, j ≠ i → ∀ m', Knows j m' w → Knows j m' w') ∧ ∀ x ∈ started, Enters p start x
  leaves : ∀ {n w} i, Holds n w → Holds n (host.leave i w) ∧
    ∀ j, j ≠ i → ∀ m, Knows j m w → Knows j m (host.leave i w)

variable (Holds : Nat → W → Prop) (Knows : Nat → M → W → Prop)

/-- Every party obeys the protocol from what it knows. -/
structure Orderly (s : Running C R W) : Prop where
  holds : Holds s.parties.length s.world
  parties : ∀ i x, s.parties[i]? = some (some x) →
    ∃ m, Knows i m s.world ∧ x.Obeys p m fun _ _ => True

variable {host p start Holds Knows}

theorem party_lt {s : Running C R W} {i : Nat} {x : Program C R Unit}
    (party : s.parties[i]? = some (some x)) : i < s.parties.length := by
  rcases List.getElem?_eq_some_iff.mp party with ⟨inside, _⟩
  exact inside

section Step

variable (disciplined : Disciplined host p start Holds Knows) {s : Running C R W}
  (orderly : Orderly p Holds Knows s)

include disciplined orderly

theorem joined (xs : List (Program C R Unit)) (enter : ∀ x ∈ xs, Enters p start x) :
    Orderly p Holds Knows { s with parties := s.parties ++ xs.map some } := by
  induction xs using List.reverseRecOn with
  | nil =>
      rw [List.map_nil, List.append_nil]
      exact orderly
  | append_singleton xs x ih =>
      have before := ih fun y member => enter y (List.mem_append_left _ member)
      have joins := disciplined.joins before.holds
      rw [List.map_append, ← List.append_assoc]
      constructor
      · rw [List.length_append]
        exact joins.1
      · intro i y party
        rcases lt_or_ge i (s.parties ++ xs.map some).length with inside | beyond
        · apply before.parties i y
          rw [← party]
          exact (List.getElem?_append_left inside).symm
        · have last : i = (s.parties ++ xs.map some).length := by
            have bound := party_lt party
            rw [List.length_append] at bound
            simp only [List.map_cons, List.map_nil, List.length_singleton] at bound
            omega
          subst last
          have found : x = y := by simpa using party
          rw [← found]
          exact ⟨start, joins.2, enter x (by simp)⟩

theorem removed (i : Nat) : Orderly p Holds Knows (s.remove host i) := by
  have leaves := disciplined.leaves i orderly.holds
  constructor
  · rw [Running.remove, List.length_set]
    exact leaves.1
  · intro j x party
    have other : j ≠ i := by
      intro same
      subst same
      rw [Running.remove, List.getElem?_set_self'] at party
      cases found : s.parties[j]? <;> simp [found] at party
    rw [Running.remove, List.getElem?_set_ne other.symm] at party
    rcases orderly.parties j x party with ⟨m, knows, obeys⟩
    exact ⟨m, leaves.2 j other m knows, obeys⟩

theorem answered {i : Nat} {c : C} {next : R c → Program C R Unit} {e : E} {r : R c} {w : W}
    {started : List (Program C R Unit)} (party : s.parties[i]? = some (some (.call c next)))
    (answer : host.answer i c e s.world = some (r, w, started)) :
    Orderly p Holds Knows ⟨w, s.parties.set i (some (next r)) ++ started.map some⟩ := by
  rcases orderly.parties i _ party with ⟨m, knows, permitted, obeys⟩
  rcases disciplined.answers orderly.holds (party_lt party) knows permitted answer with
    ⟨possible, holds, knows', others, enter⟩
  apply joined disciplined (s := ⟨w, s.parties.set i (some (next r))⟩) _ started enter
  constructor
  · rw [List.length_set]
    exact holds
  · intro j x found
    by_cases same : j = i
    · subst same
      have here : next r = x := by
        simpa [List.getElem?_set_self (party_lt party)] using found
      rw [← here]
      exact ⟨p.learns m c r, knows', obeys r possible⟩
    · have found' : s.parties[j]? = some (some x) := by
        rw [← found]
        exact (List.getElem?_set_ne (Ne.symm same)).symm
      rcases orderly.parties j x found' with ⟨m', knew, obeys'⟩
      exact ⟨m', others j same m' knew, obeys'⟩

theorem orderly_step (move : Move E A) : Orderly p Holds Knows (host.step s move) := by
  cases move with
  | joins a =>
      apply joined disciplined orderly [host.entry a]
      intro x member
      rw [List.mem_singleton.mp member]
      exact disciplined.entry a
  | advances i e =>
      rw [step]
      split
      · exact removed disciplined orderly i
      · rename_i c next party
        split
        · rename_i r w started answer
          exact answered disciplined orderly party answer
        · exact orderly
      · exact orderly
  | crashes i =>
      rw [step]
      split
      · exact removed disciplined orderly i
      · exact orderly

omit disciplined in
theorem step_keeps {motive : W → Prop} (held : motive s.world)
    (calls : ∀ {n i m c e w r w' started}, Holds n w → i < n → Knows i m w → p.permits m c →
      host.answer i c e w = some (r, w', started) → motive w → motive w')
    (leaves : ∀ w i, motive w → motive (host.leave i w)) (move : Move E A) :
    motive (host.step s move).world := by
  cases move with
  | joins a => exact held
  | advances i e =>
      rw [step]
      split
      · exact leaves _ _ held
      · rename_i c next party
        split
        · rename_i r w started answer
          rcases orderly.parties i _ party with ⟨m, knows, permitted, _⟩
          exact calls orderly.holds (party_lt party) knows permitted answer held
        · exact held
      · exact held
  | crashes i =>
      rw [step]
      split
      · exact leaves _ _ held
      · exact held

end Step

theorem orderly_run (disciplined : Disciplined host p start Holds Knows) {s : Running C R W}
    (orderly : Orderly p Holds Knows s) (moves : List (Move E A)) :
    Orderly p Holds Knows (host.run s moves) :=
  List.foldlRecOn moves host.step orderly fun _ held move _ => orderly_step disciplined held move

theorem run_keeps (disciplined : Disciplined host p start Holds Knows) {s : Running C R W}
    (orderly : Orderly p Holds Knows s) {motive : W → Prop} (held : motive s.world)
    (calls : ∀ {n i m c e w r w' started}, Holds n w → i < n → Knows i m w → p.permits m c →
      host.answer i c e w = some (r, w', started) → motive w → motive w')
    (leaves : ∀ w i, motive w → motive (host.leave i w)) (moves : List (Move E A)) :
    motive (host.run s moves).world := by
  have both : Orderly p Holds Knows (host.run s moves) ∧ motive (host.run s moves).world := by
    apply List.foldlRecOn (motive := fun t => Orderly p Holds Knows t ∧ motive t.world)
    · exact ⟨orderly, held⟩
    · intro t facts move _
      exact ⟨orderly_step disciplined facts.1 move,
        step_keeps facts.1 facts.2 calls leaves move⟩
  exact both.2

theorem run_append (s : Running C R W) (moves later : List (Move E A)) :
    host.run s (moves ++ later) = host.run (host.run s moves) later := by
  rw [run, List.foldl_append]
  rfl

end Host

end O7Formal
