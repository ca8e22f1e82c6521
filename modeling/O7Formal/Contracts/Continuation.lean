import O7Formal.Contracts.Watched

/-! What a scan has decided before the end of its text: a longer text is refused for the same bound,
unless the shorter one ends where an array at the depth bound has just been opened. -/

namespace O7Formal.Contracts

/-- The refusals that a bound or the null policy gives, and `NotAnObject`. -/
def ParseError.IsBound : ParseError → Prop
  | .explicitNull _ | .depthExceeded _ | .arrayTooLong _ _ | .stringTooLong _ _ | .notAnObject => True
  | _ => False

namespace Scanner

open Fallible Utf8 Json O7Formal.Watched

def append (s : Scanner) (more : List UInt8) : Scanner := { s with rest := s.rest ++ more }

variable {more : List UInt8}

@[simp] theorem append_rest (s : Scanner) : (s.append more).rest = s.rest ++ more := rfl

@[simp] theorem append_stack (s : Scanner) : (s.append more).stack = s.stack := rfl

@[simp] theorem append_mode (s : Scanner) : (s.append more).mode = s.mode := rfl

theorem append_push (s : Scanner) (frame : Frame) :
    (s.append more).push frame = (s.push frame).append more := rfl

theorem append_setIndex (s : Scanner) (index : Nat) :
    (s.append more).setIndex index = (s.setIndex index).append more := by
  unfold setIndex
  rw [append_stack]
  split <;> rfl

theorem append_peek {s : Scanner} (left : s.rest ≠ []) : (s.append more).peek = s.peek :=
  List.head?_append_of_ne_nil _ left

theorem append_bump {s : Scanner} (left : s.rest ≠ []) :
    (s.append more).bump = s.bump.append more := by
  have tail : (s.rest ++ more).tail = s.rest.tail ++ more := List.tail_append_of_ne_nil left
  unfold bump
  rw [append_peek left]
  split <;> simp [append, tail]

theorem rest_of_peek {s : Scanner} {b : UInt8} (next : s.peek = some b) : s.rest ≠ [] := by
  intro empty
  rw [peek, empty] at next
  cases next

theorem rest_of_any {s : Scanner} {matching : UInt8 → Bool} (next : s.peek.any matching = true) :
    s.rest ≠ [] := by
  rcases Option.any_eq_true _ _ |>.mp next with ⟨b, here, _⟩
  exact rest_of_peek here

theorem peek_of_empty {s : Scanner} (empty : s.rest = []) : s.peek = none := by
  rw [peek, empty]
  rfl

theorem append_bumpWhile {matching : UInt8 → Bool} {count count' : Nat} (more_turns : count ≤ count')
    {s : Scanner} (enough : s.rest.length ≤ count) (left : (s.bumpWhile matching count).rest ≠ []) :
    (s.append more).bumpWhile matching count' = (s.bumpWhile matching count).append more := by
  induction count generalizing count' s with
  | zero => exact absurd (List.eq_nil_of_length_eq_zero (Nat.le_zero.mp enough)) left
  | succ count ih =>
      rcases count' with _ | count'
      · omega
      rw [bumpWhile] at left ⊢
      rw [bumpWhile]
      split at left
      case isTrue next =>
        have here := rest_of_any next
        rw [append_peek here, if_pos next, if_pos next, append_bump here]
        refine ih (Nat.le_of_succ_le_succ more_turns) ?_ left
        rw [bump_rest, List.length_tail]
        omega
      case isFalse stop =>
        rw [append_peek left, if_neg stop, if_neg stop]

theorem append_skipWhitespace {s : Scanner} (left : s.skipWhitespace.rest ≠ []) :
    (s.append more).skipWhitespace = s.skipWhitespace.append more :=
  append_bumpWhile (by simp) (Nat.le_refl _) left

theorem bumpWhile_stops (matching : UInt8 → Bool) {count : Nat} {s : Scanner}
    (enough : s.rest.length ≤ count) : (s.bumpWhile matching count).peek.any matching = false := by
  induction count generalizing s with
  | zero =>
      rw [bumpWhile, peek_of_empty (List.eq_nil_of_length_eq_zero (Nat.le_zero.mp enough))]
      rfl
  | succ count ih =>
      rw [bumpWhile]
      split
      case isTrue next =>
        refine ih ?_
        rw [bump_rest, List.length_tail]
        omega
      case isFalse stop => exact Bool.eq_false_iff.mpr stop

theorem skipWhitespace_idem (s : Scanner) : s.skipWhitespace.skipWhitespace = s.skipWhitespace := by
  have stops := bumpWhile_stops isWhitespace (Nat.le_refl s.rest.length)
  have stop : ¬ s.skipWhitespace.peek.any isWhitespace = true := Bool.eq_false_iff.mp stops
  rw [skipWhitespace.eq_def s.skipWhitespace]
  cases s.skipWhitespace.rest.length with
  | zero => rfl
  | succ count => rw [bumpWhile, if_neg stop]

section Scalars

variable {s u : Scanner}

theorem Reads.rest_ne {text : List Char} (reads : Reads s text u) (left : u.rest ≠ []) :
    s.rest ≠ [] := by
  rw [reads.rest]
  exact List.append_ne_nil_of_right_ne_nil _ left

theorem append_digits (ran : s.digits = .ok u) (left : u.rest ≠ []) :
    (s.append more).digits = .ok (u.append more) := by
  unfold digits at ran ⊢
  dsimp only at ran ⊢
  split at ran
  · cases ran
  · rename_i moved
    cases ran
    have later : (s.append more).bumpWhile isDigit (s.rest.length + more.length) =
        (s.bumpWhile isDigit s.rest.length).append more :=
      append_bumpWhile (Nat.le_add_right _ _) (Nat.le_refl _) left
    rw [append_rest, List.length_append, later, if_neg]
    rw [append_rest, List.length_append]
    omega

theorem append_integer (ran : s.integer = .ok u) (left : u.rest ≠ []) :
    (s.append more).integer = .ok (u.append more) := by
  rcases integer_reads ran with ⟨text, _, reads⟩
  have here := reads.rest_ne left
  unfold integer at ran ⊢
  rw [append_peek here]
  split
  case isTrue zero =>
    rw [if_pos zero] at ran
    split at ran
    · cases ran
    · rename_i stop
      cases ran
      rw [append_bump here, append_peek left, if_neg stop]
  case isFalse other =>
    rw [if_neg other] at ran
    exact append_digits ran left

theorem append_fraction (ran : s.fraction = .ok u) (left : u.rest ≠ []) :
    (s.append more).fraction = .ok (u.append more) := by
  unfold fraction at ran ⊢
  split at ran
  case isTrue point =>
    have here := rest_of_peek point
    rw [append_peek here, if_pos point, append_bump here]
    exact append_digits ran left
  case isFalse other =>
    cases ran
    rw [append_peek left, if_neg other]

theorem append_exponent (ran : s.exponent = .ok u) (left : u.rest ≠ []) :
    (s.append more).exponent = .ok (u.append more) := by
  unfold exponent at ran ⊢
  split at ran
  case isTrue letter =>
    have here : s.rest ≠ [] := letter.elim rest_of_peek rest_of_peek
    rw [append_peek here, if_pos letter, append_bump here]
    split at ran
    case isTrue sign =>
      have signed : s.bump.rest ≠ [] := sign.elim rest_of_peek rest_of_peek
      rw [append_peek signed, if_pos sign, append_bump signed]
      exact append_digits ran left
    case isFalse unsigned =>
      rcases digits_reads ran with ⟨text, _, reads⟩
      rw [append_peek (reads.rest_ne left), if_neg unsigned]
      exact append_digits ran left
  case isFalse other =>
    cases ran
    rw [append_peek left, if_neg other]

theorem append_number (ran : s.number = .ok u) (left : u.rest ≠ []) :
    (s.append more).number = .ok (u.append more) := by
  rcases number_reads ran with ⟨text, _, reads⟩
  have here := reads.rest_ne left
  unfold number at ran ⊢
  simp only [bind_ok_iff] at ran ⊢
  rcases ran with ⟨whole, ranWhole, fractional, ranFraction, last, ranExponent, moved⟩
  split at moved
  case isTrue => cases moved
  case isFalse still =>
    cases moved
    rcases exponent_reads ranExponent with ⟨_, _, readExponent⟩
    have someFractional := readExponent.rest_ne left
    rcases fraction_reads ranFraction with ⟨_, _, readFraction⟩
    have someWhole := readFraction.rest_ne someFractional
    have signed : (if (s.append more).peek = some '-'.toUInt8 then (s.append more).bump
        else s.append more) = (if s.peek = some '-'.toUInt8 then s.bump else s).append more := by
      rw [append_peek here]
      split
      · exact append_bump here
      · rfl
    rw [signed]
    refine ⟨_, append_integer ranWhole someWhole, _, append_fraction ranFraction someFractional, _,
      append_exponent ranExponent left, ?_⟩
    rw [if_neg]
    rw [append_rest, append_rest, List.length_append, List.length_append]
    omega

theorem append_literal {word : List UInt8} (ran : s.literal word = .ok u) :
    (s.append more).literal word = .ok (u.append more) := by
  induction word generalizing s with
  | nil =>
      cases ran
      rfl
  | cons expected word ih =>
      rw [literal] at ran ⊢
      split at ran
      · cases ran
      · rename_i next
        have here := rest_of_peek (not_not.mp next)
        rw [append_peek here, if_neg next, append_bump here]
        exact ih ran

theorem append_bumps {count : Nat} (enough : count ≤ s.rest.length) :
    bump^[count] (s.append more) = (bump^[count] s).append more := by
  induction count generalizing s with
  | zero => rfl
  | succ count ih =>
      have here : s.rest ≠ [] := by
        intro empty
        rw [empty] at enough
        exact absurd enough (Nat.not_succ_le_zero count)
      rw [Function.iterate_succ_apply, Function.iterate_succ_apply, append_bump here]
      apply ih
      rw [bump_rest, List.length_tail]
      omega

theorem hex4At_append {input : List UInt8} {value : Nat} (found : hex4At input = some value) :
    hex4At (input ++ more) = some value := by
  rcases hex4At_reads found with ⟨unit, rfl, r, rfl⟩
  rw [List.append_assoc, hex4At_exact]

theorem four_le {input : List UInt8} {value : Nat} (found : hex4At input = some value) :
    4 ≤ input.length := by
  rcases hex4At_reads found with ⟨unit, _, r, rfl⟩
  rw [List.length_append, length_digits]
  exact Nat.le_add_right _ _

theorem LowFollows.append {bytes : List UInt8} (follows : LowFollows bytes) :
    LowFollows (bytes ++ more) := by
  rcases follows with ⟨low, isLow, r, rfl⟩
  exact ⟨low, isLow, r ++ more, List.append_assoc _ _ _⟩

theorem stuck_of_cut (apart : ¬ LowFollows u.rest) (follows : LowFollows (u.rest ++ more))
    (count decoded : Nat) (result : Nat × Scanner) :
    scanStringLoop count decoded u ≠ .ok result := by
  rcases follows with ⟨low, isLow, r, same⟩
  rw [utf8_cons_ascii (by decide), utf8_cons_ascii (by decide), List.cons_append,
    List.cons_append] at same
  intro ran
  rcases count with _ | count
  · cases ran
  rw [scanStringLoop] at ran
  rcases rest : u.rest with _ | ⟨slash, later⟩
  · rw [peek_of_empty rest] at ran
    cases ran
  rw [rest, List.cons_append] at same
  rcases List.cons.inj same with ⟨rfl, sameLater⟩
  have here : u.peek = some '\\'.toUInt8 := by
    rw [peek, rest]
    rfl
  have tail : u.bump.rest = later := by rw [bump_rest, rest, List.tail_cons]
  rw [here] at ran
  dsimp only at ran
  rw [if_neg (by decide), if_pos rfl] at ran
  rcases later with _ | ⟨letter, hex⟩
  · rw [peek_of_empty tail] at ran
    cases ran
  rcases List.cons.inj sameLater with ⟨rfl, sameHex⟩
  have next : u.bump.peek = some 'u'.toUInt8 := by
    rw [peek, tail]
    rfl
  have tailHex : u.bump.bump.rest = hex := by rw [bump_rest, tail, List.tail_cons]
  rw [next, if_neg (by decide), if_pos rfl, bind_ok_iff] at ran
  rcases ran with ⟨⟨length, v⟩, escaped, _⟩
  rw [escapeSequence, tailHex] at escaped
  cases found : hex4At hex with
  | none =>
      rw [found] at escaped
      cases escaped
  | some value =>
      rcases hex4At_reads found with ⟨unit, same, r', held⟩
      have value_low : hex4At (hex ++ more) = some low.value :=
        (congrArg hex4At sameHex).trans (hex4At_exact low r)
      rw [hex4At_append found, Option.some.injEq] at value_low
      apply apart
      refine ⟨unit, ?_, r', ?_⟩
      · rw [CodeUnit.isLow, same, value_low]
        exact isLow
      · rw [rest, held, utf8_cons_ascii (by decide), utf8_cons_ascii (by decide)]
        rfl

theorem append_escapeSequence {length : Nat} (ran : s.escapeSequence = .ok (length, u)) :
    (s.append more).escapeSequence = .ok (length, u.append more) ∨
      ∀ count decoded result, scanStringLoop count decoded u ≠ .ok result := by
  unfold escapeSequence at ran ⊢
  rw [append_rest]
  cases found : hex4At s.rest with
  | none =>
      rw [found] at ran
      cases ran
  | some high =>
      rw [found] at ran
      rw [hex4At_append found]
      dsimp only at ran ⊢
      rw [append_bumps (four_le found)]
      split at ran
      case isFalse alone =>
        cases ran
        rw [if_neg alone]
        exact .inl rfl
      case isTrue surrogate =>
        rw [if_pos surrogate]
        split at ran
        case isTrue paired =>
          cases ran
          have follows := (paired_iff _).mp paired
          have enough : 6 ≤ (bump^[4] s).rest.length := by
            rcases follows with ⟨low, _, r, same⟩
            rw [same, utf8_cons_ascii (by decide), utf8_cons_ascii (by decide), List.length_append,
              List.length_cons, List.length_cons, length_digits]
            omega
          rw [if_pos ((paired_iff ((bump^[4] s).append more)).mpr follows.append),
            append_bumps enough]
          exact .inl rfl
        case isFalse unpaired =>
          cases ran
          have apart := mt (paired_iff _).mpr unpaired
          by_cases follows : LowFollows ((bump^[4] s).append more).rest
          · exact .inr (stuck_of_cut apart follows)
          · rw [if_neg (mt (paired_iff _).mp follows)]
            exact .inl rfl

theorem append_scanStringLoop {count count' decoded : Nat} {result : Nat × Scanner}
    (more_turns : count ≤ count') (ran : scanStringLoop count decoded s = .ok result) :
    scanStringLoop count' decoded (s.append more) = .ok (result.1, result.2.append more) := by
  induction count generalizing count' decoded s with
  | zero => cases ran
  | succ count ih =>
      rcases count' with _ | count'
      · omega
      have fewer := Nat.le_of_succ_le_succ more_turns
      rw [scanStringLoop] at ran ⊢
      cases next : s.peek with
      | none =>
          rw [next] at ran
          cases ran
      | some b =>
          have here := rest_of_peek next
          rw [next] at ran
          rw [append_peek here, next, append_bump here]
          dsimp only at ran ⊢
          split at ran
          case isTrue quote =>
            cases ran
            rw [if_pos quote]
          case isFalse quote =>
            rw [if_neg quote]
            split at ran
            case isTrue slash =>
              rw [if_pos slash]
              split at ran
              case isTrue short =>
                have inside := rest_of_any short
                rw [append_peek inside, if_pos short, append_bump inside]
                exact ih fewer ran
              case isFalse short =>
                split at ran
                case isTrue letter =>
                  have inside := rest_of_peek letter
                  rw [append_peek inside, if_neg short, if_pos letter, append_bump inside]
                  rw [bind_ok_iff] at ran ⊢
                  rcases ran with ⟨⟨length, v⟩, escaped, later⟩
                  rcases append_escapeSequence escaped with same | stuck
                  · exact ⟨_, same, ih fewer later⟩
                  · exact absurd later (stuck _ _ _)
                case isFalse => cases ran
            case isFalse slash =>
              rw [if_neg slash]
              split at ran
              · cases ran
              · rename_i printable
                rw [if_neg printable]
                exact ih fewer ran

theorem append_scanString {result : Nat × Scanner} (here : s.rest ≠ [])
    (ran : s.scanString = .ok result) :
    (s.append more).scanString = .ok (result.1, result.2.append more) := by
  unfold scanString at ran ⊢
  rw [append_bump here]
  exact append_scanStringLoop (by simp) ran

end Scalars

/-- What `x` has decided with bytes left or by a bound, `y` decides alike with more to read. -/
structure Holds (more : List UInt8) (x y : Except Halt Scanner) : Prop where
  ok : ∀ u, x = .ok u → u.rest ≠ [] → y = .ok (u.append more)
  refused : ∀ e : ParseError, e.IsBound → x = .error (.refused e) → y = .error (.refused e)

/-- Nothing is decided: the text has come to its end, or is no JSON. -/
structure Idle (x : Except Halt Scanner) : Prop where
  ok : ∀ u, x = .ok u → u.rest = []
  refused : ∀ e : ParseError, e.IsBound → x ≠ .error (.refused e)

theorem Idle.holds {x : Except Halt Scanner} (idle : Idle x) (y : Except Halt Scanner) :
    Holds more x y :=
  ⟨fun u ran left => absurd (idle.ok u ran) left, fun e bound ran => absurd ran (idle.refused e bound)⟩

theorem idle_syntaxError (s : Scanner) : Idle (.error s.syntaxError) where
  ok := fun u ran => by cases ran
  refused := by
    intro e bound ran
    cases ran
    exact bound

theorem idle_exhausted : Idle (.error .exhausted) where
  ok := fun u ran => by cases ran
  refused := fun e _ ran => by cases ran

theorem holds_ok (s : Scanner) : Holds more (.ok s) (.ok (s.append more)) where
  ok := by
    intro u ran _
    cases ran
    rfl
  refused := fun e _ ran => by cases ran

theorem holds_error (halt : Halt) : Holds more (.error halt) (.error halt) where
  ok := fun u ran => by cases ran
  refused := fun _ _ ran => ran

def Plain (halt : Halt) : Prop := ∀ e : ParseError, halt = .refused e → ¬ e.IsBound

theorem plain_syntaxError (s : Scanner) : Plain s.syntaxError := by
  intro e same bound
  cases same
  exact bound

theorem Plain.idle {halt : Halt} (plain : Plain halt) : Idle (.error halt) where
  ok := fun u ran => by cases ran
  refused := by
    intro e bound ran
    cases ran
    exact plain e rfl bound

theorem holds_of_carries {x y : Except Halt Scanner} (fails : FailsWithin Plain x)
    (carries : ∀ u, x = .ok u → u.rest ≠ [] → y = .ok (u.append more)) : Holds more x y where
  ok := carries
  refused := fun e bound ran => absurd bound (fails _ ran e rfl)

theorem string_holds {s : Scanner} (here : s.rest ≠ []) :
    Holds more (s.string.map Prod.snd) ((s.append more).string.map Prod.snd) := by
  unfold string
  cases scanned : s.scanString with
  | error halt => exact (Plain.idle (scanString_fails plain_syntaxError s halt scanned)).holds _
  | ok result =>
      rw [append_scanString here scanned, ok_bind, ok_bind]
      dsimp only
      split
      case isTrue long =>
        rw [append_mode, if_pos long]
        exact holds_error _
      case isFalse short =>
        rw [append_mode, if_neg short]
        exact holds_ok _

theorem null_holds {s : Scanner} :
    Holds more (s.literal (utf8 "null".toList) >>= fun s => match s.mode with
      | .admission => .error (.refused (.explicitNull s.path))
      | .probe => .ok s) ((s.append more).literal (utf8 "null".toList) >>= fun s => match s.mode with
      | .admission => .error (.refused (.explicitNull s.path))
      | .probe => .ok s) := by
  cases ran : s.literal (utf8 "null".toList) with
  | error halt => exact (Plain.idle (literal_fails plain_syntaxError _ s halt ran)).holds _
  | ok u =>
      rw [append_literal ran, ok_bind, ok_bind, append_mode]
      split
      · exact holds_error _
      · exact holds_ok _

theorem scalar_holds {s : Scanner} {value value' : Scanner → Except Halt Scanner}
    (here : s.rest ≠ []) (brace : s.peek ≠ some '{'.toUInt8) (bracket : s.peek ≠ some '['.toUInt8) :
    Holds more (s.dispatch value) ((s.append more).dispatch value') := by
  have literal_holds : ∀ word, Holds more (s.literal word) ((s.append more).literal word) :=
    fun word => holds_of_carries (literal_fails plain_syntaxError word s) fun u ran _ => append_literal ran
  unfold dispatch
  rw [append_peek here, if_neg brace, if_neg brace, if_neg bracket, if_neg bracket]
  split
  · exact string_holds here
  split
  · exact literal_holds _
  split
  · exact literal_holds _
  split
  · exact null_holds
  split
  · exact holds_of_carries (number_fails plain_syntaxError s) fun u ran left => append_number ran left
  · exact (idle_syntaxError s).holds _

/-- The array at the depth bound has just been opened, and the text has come to its end. -/
def AtVerge (s : Scanner) : Prop :=
  (∃ below, s.stack = .array 0 :: below) ∧ s.stack.length = maxJsonDepth ∧
    s.skipWhitespace.rest = []

def Clear (m : Moment) : Prop := ¬ (m.event = .entered ∧ AtVerge m.scanner)

def IsCut {α : Type} (y : Except Halt α) : Prop := ∃ s : Scanner, y = .error s.syntaxError

/-- Either all that is decided holds with more to read; or a value has been asked for at the verge,
and what has been refused for its depth ends in `broken` behind one more bracket. -/
def Settled (x : Watch Scanner) (y : List UInt8 → Except Halt Scanner)
    (broken : Except Halt Scanner → Prop) : Prop :=
  (Throughout Clear x ∧ ∀ more, Holds more x.outcome (y more)) ∨
  (¬ Throughout Clear x ∧ (∃ e : ParseError, x.outcome = .error (.refused e)) ∧
    broken (y [']'.toUInt8]))

theorem settled_of_holds {x : Except Halt Scanner} {y : List UInt8 → Except Halt Scanner}
    {broken : Except Halt Scanner → Prop} (holds : ∀ more, Holds more x (y more)) :
    Settled (ofExcept x) y broken :=
  .inl ⟨throughout_ofExcept x, holds⟩

theorem Settled.mono {x : Watch Scanner} {y : List UInt8 → Except Halt Scanner}
    {broken broken' : Except Halt Scanner → Prop} (weaker : ∀ r, broken r → broken' r)
    (settled : Settled x y broken) : Settled x y broken' :=
  settled.imp_right fun verge => ⟨verge.1, verge.2.1, weaker _ verge.2.2⟩

theorem ofExcept_ok_bind {α β : Type} (a : α) (f : α → Watch β) :
    (ofExcept (.ok a) >>= f) = f a := rfl

theorem ofExcept_error_bind {α β : Type} (halt : Halt) (f : α → Watch β) :
    (ofExcept (.error halt) >>= f) = ofExcept (.error halt) := rfl

theorem settled_note {m : Moment} {f : Unit → Watch Scanner}
    {y : List UInt8 → Except Halt Scanner} {broken : Except Halt Scanner → Prop} (clear : Clear m)
    (settled : Settled (f ()) y broken) : Settled (note m >>= f) y broken := by
  have split : Throughout Clear (note m >>= f) ↔ Throughout Clear (f ()) := by
    rw [throughout_bind_iff, throughout_note_iff, and_iff_right clear]
    exact ⟨fun later => later () rfl, fun later _ _ => later⟩
  have outcome : (note m >>= f).outcome = (f ()).outcome := by
    rw [outcome_bind, outcome_note, ok_bind]
  rw [Settled, split, outcome]
  exact settled

def BreaksOff (s : Scanner) (y : Except Halt Scanner) : Prop :=
  IsCut y ∨ s.stack.length + 1 = maxJsonDepth ∧ ∃ u, y = .ok u ∧ u.rest = []

theorem Settled.bind {x : Watch Scanner} {y : List UInt8 → Except Halt Scanner}
    {s : Scanner} {f : Scanner → Watch Scanner} {g : List UInt8 → Scanner → Except Halt Scanner}
    (settled : Settled x y (BreaksOff s))
    (idle : ∀ u, u.rest = [] → Throughout Clear (f u) ∧ Idle (f u).outcome)
    (ends : ∀ more u, u.rest = [] → IsCut (g more u))
    (next : ∀ u, x.outcome = .ok u → u.rest ≠ [] →
      Settled (f u) (fun more => g more (u.append more)) IsCut) :
    Settled (x >>= f) (fun more => y more >>= g more) IsCut := by
  rw [Settled, throughout_bind_iff, outcome_bind]
  rcases settled with ⟨clear, holds⟩ | ⟨verge, ⟨e, refused⟩, broken⟩
  · cases ran : x.outcome with
    | error halt =>
        rw [ran] at holds
        refine .inl ⟨⟨clear, fun u same => (by cases same)⟩, fun more => ?_⟩
        refine ⟨fun u same => (by cases same), ?_⟩
        intro e bound same
        rw [(holds more).refused e bound same]
        rfl
    | ok u =>
        rw [ran] at holds
        have onlyThis : (∀ a, (.ok u : Except Halt Scanner) = .ok a → Throughout Clear (f a)) ↔
            Throughout Clear (f u) := by
          simp
        rw [onlyThis, ok_bind]
        by_cases left : u.rest = []
        · exact .inl ⟨⟨clear, (idle u left).1⟩, fun more => (idle u left).2.holds _⟩
        · rcases next u ran left with ⟨clearNext, holdsNext⟩ | ⟨verge, refused, broken⟩
          · refine .inl ⟨⟨clear, clearNext⟩, fun more => ?_⟩
            rw [(holds more).ok u rfl left]
            exact holdsNext more
          · refine .inr ⟨fun both => verge both.2, refused, ?_⟩
            rw [(holds _).ok u rfl left]
            exact broken
  · refine .inr ⟨fun both => verge both.1, ⟨e, by rw [refused]; rfl⟩, ?_⟩
    rcases broken with ⟨t, cut⟩ | ⟨_, u, ended, empty⟩
    · rw [cut]
      exact ⟨t, rfl⟩
    · rw [ended]
      exact ends _ u empty

theorem leave_clear (calls : Nat) (s : Scanner) : Throughout Clear (leave calls s) := by
  rw [leave, throughout_bind_iff, throughout_note_iff]
  exact ⟨fun verge => (by cases verge.1), fun _ _ => throughout_pure _⟩

theorem leave_settled (calls : Nat) (s : Scanner) {broken : Except Halt Scanner → Prop} :
    Settled (leave calls s) (fun more => .ok (s.append more).pop) broken := by
  refine .inl ⟨leave_clear calls s, fun more => ?_⟩
  exact holds_ok s.pop

theorem skipWhitespace_empty {s : Scanner} (empty : s.rest = []) : s.skipWhitespace = s := by
  rw [skipWhitespace, empty]
  rfl

theorem not_atVerge_setIndex {s : Scanner} {index : Nat} (later : index ≠ 0) :
    ¬ AtVerge (s.setIndex index) := by
  rintro ⟨⟨below, top⟩, _⟩
  unfold setIndex at top
  split at top
  · cases top
    exact later rfl
  · rename_i other
    exact other 0 below top

def behind (mark : UInt8) (again : Scanner → Except Halt Scanner) (t : Scanner) :
    Except Halt Scanner :=
  if t.skipWhitespace.peek = some ','.toUInt8 then again t.skipWhitespace.bump
  else if t.skipWhitespace.peek = some mark then .ok t.skipWhitespace.bump.pop
  else .error t.skipWhitespace.syntaxError

def watchBehind (calls : Nat) (mark : UInt8) (again : Scanner → Watch Scanner) (t : Scanner) :
    Watch Scanner :=
  if t.skipWhitespace.peek = some ','.toUInt8 then again t.skipWhitespace.bump
  else if t.skipWhitespace.peek = some mark then leave calls t.skipWhitespace.bump
  else ofExcept (.error t.skipWhitespace.syntaxError)

section Behind

variable {calls : Nat} {mark : UInt8} {u : Scanner}

theorem behind_empty (again : Scanner → Except Halt Scanner) (empty : u.rest = []) :
    behind mark again u = .error u.syntaxError := by
  have none := peek_of_empty empty
  simp [behind, skipWhitespace_empty empty, none]

theorem watchBehind_empty (again : Scanner → Watch Scanner) (empty : u.rest = []) :
    watchBehind calls mark again u = ofExcept (.error u.syntaxError) := by
  have none := peek_of_empty empty
  simp [watchBehind, skipWhitespace_empty empty, none]

theorem behind_settled {again : Scanner → Watch Scanner}
    {again' : List UInt8 → Scanner → Except Halt Scanner}
    (next : u.skipWhitespace.peek = some ','.toUInt8 → Settled (again u.skipWhitespace.bump)
      (fun more => again' more (u.skipWhitespace.bump.append more)) IsCut) :
    Settled (watchBehind calls mark again u)
      (fun more => behind mark (again' more) (u.append more)) IsCut := by
  by_cases left : u.skipWhitespace.rest = []
  · have none := peek_of_empty left
    rw [watchBehind, none, if_neg (Option.some_ne_none _).symm, if_neg (Option.some_ne_none _).symm]
    exact settled_of_holds fun more => (idle_syntaxError _).holds _
  · simp only [behind, append_skipWhitespace left, append_peek left, append_bump left]
    unfold watchBehind
    split
    case isTrue comma => exact next comma
    split
    · exact leave_settled calls _
    · exact settled_of_holds fun more => (idle_syntaxError _).holds _

theorem behind_idle {x : Watch Scanner} (again : Scanner → Watch Scanner)
    (clear : Throughout Clear x) (idle : Idle x.outcome) :
    Throughout Clear (x >>= watchBehind calls mark again) ∧
      Idle (x >>= watchBehind calls mark again).outcome := by
  constructor
  · refine throughout_bind_iff.mpr ⟨clear, fun u ran => ?_⟩
    rw [watchBehind_empty again (idle.ok u ran)]
    exact throughout_ofExcept _
  · rw [outcome_bind]
    cases ran : x.outcome with
    | error halt =>
        refine Plain.idle fun e same bound => ?_
        exact idle.refused e bound (by rw [ran, same])
    | ok u =>
        rw [ok_bind, watchBehind_empty again (idle.ok u ran)]
        exact idle_syntaxError u

theorem value_behind_settled {x : Watch Scanner} {y : List UInt8 → Except Halt Scanner} {s : Scanner}
    {again : Scanner → Watch Scanner} {again' : List UInt8 → Scanner → Except Halt Scanner}
    (settled : Settled x y (BreaksOff s))
    (next : ∀ u, x.outcome = .ok u → u.skipWhitespace.peek = some ','.toUInt8 →
      Settled (again u.skipWhitespace.bump)
        (fun more => again' more (u.skipWhitespace.bump.append more)) IsCut) :
    Settled (x >>= watchBehind calls mark again)
      (fun more => y more >>= behind mark (again' more)) IsCut := by
  apply settled.bind
  · intro u empty
    rw [watchBehind_empty again empty]
    exact ⟨throughout_ofExcept _, idle_syntaxError u⟩
  · intro more u empty
    exact ⟨u, behind_empty _ empty⟩
  · intro u ran _
    exact behind_settled (next u ran)

end Behind

theorem arrayLoop_succ (value : Scanner → Except Halt Scanner) (fuel before : Nat) (s : Scanner) :
    arrayLoop value (fuel + 1) before s =
      if before + 1 > maxArrayLen ∧ s.mode = .admission then
        .error (.refused (.arrayTooLong s.enclosingPath (before + 1)))
      else value (s.setIndex before) >>= behind ']'.toUInt8 (arrayLoop value fuel (before + 1)) := by
  rw [arrayLoop]
  dsimp only
  unfold refuseIf
  split <;> rfl

theorem watchArrayLoop_succ (watched : Scanner → Watch Scanner) (calls fuel before : Nat)
    (s : Scanner) : watchArrayLoop watched calls (fuel + 1) before s =
      if before + 1 > maxArrayLen ∧ s.mode = .admission then
        Watched.ofExcept (.error (Halt.refused (.arrayTooLong s.enclosingPath (before + 1))))
      else watched (s.setIndex before) >>=
        watchBehind calls ']'.toUInt8 (watchArrayLoop watched calls fuel (before + 1)) := by
  rw [watchArrayLoop]
  dsimp only
  unfold refuseIf
  split <;> rfl

def named (s : Scanner) : Except Halt Scanner := do
  let s := s.skipWhitespace
  refuseIf (s.peek ≠ some '"'.toUInt8) s.syntaxError
  let (_, s) ← s.scanString
  let s := s.skipWhitespace
  refuseIf (s.peek ≠ some ':'.toUInt8) s.syntaxError
  return s.bump

theorem objectLoop_succ (value : Scanner → Except Halt Scanner) (count : Nat) (s : Scanner) :
    objectLoop value (count + 1) s =
      s.named >>= fun t => value t >>= behind '}'.toUInt8 (objectLoop value count) := by
  simp only [objectLoop, named, bind_assoc, pure_bind]
  rfl

theorem watchObjectLoop_succ (watched : Scanner → Watch Scanner) (calls count : Nat) (s : Scanner) :
    watchObjectLoop watched calls (count + 1) s =
      Watched.ofExcept s.named >>= fun t => watched t >>=
        watchBehind calls '}'.toUInt8 (watchObjectLoop watched calls count) := by
  rw [watchObjectLoop, named]
  dsimp only
  cases quote : refuseIf (s.skipWhitespace.peek ≠ some '"'.toUInt8) s.skipWhitespace.syntaxError with
  | error halt => rfl
  | ok _ =>
      rw [ofExcept_ok_bind, ok_bind]
      cases scanned : s.skipWhitespace.scanString with
      | error halt => rfl
      | ok result =>
          rw [ofExcept_ok_bind, ok_bind]
          cases colon : refuseIf (result.2.skipWhitespace.peek ≠ some ':'.toUInt8)
              result.2.skipWhitespace.syntaxError with
          | error halt => rfl
          | ok _ => rfl

theorem named_ok_iff {s t : Scanner} : s.named = .ok t ↔
    s.skipWhitespace.peek = some '"'.toUInt8 ∧ ∃ result, s.skipWhitespace.scanString = .ok result ∧
      result.2.skipWhitespace.peek = some ':'.toUInt8 ∧ result.2.skipWhitespace.bump = t := by
  simp only [named, bind_ok_iff, refuseIf_ok_iff, not_not, pure_ok_iff]
  constructor
  · rintro ⟨_, quote, result, scanned, _, colon, same⟩
    exact ⟨quote, result, scanned, colon, same⟩
  · rintro ⟨quote, result, scanned, colon, same⟩
    exact ⟨(), quote, result, scanned, (), colon, same⟩

theorem named_reads {s t : Scanner} (valid : Valid s) (ran : s.named = .ok t) :
    Valid t ∧ t.stack = s.stack := by
  rcases named_ok_iff.mp ran with ⟨quote, result, scanned, colon, rfl⟩
  rcases skipWhitespace_reads s with ⟨lead, _, skippedLead⟩
  rcases skippedLead.valid valid with ⟨text, held⟩
  rcases scanString_reads held quote scanned with ⟨name, _, readName⟩
  rcases skipWhitespace_reads result.2 with ⟨gap, _, skippedGap⟩
  have toValue := (skippedLead.trans readName).trans
    (skippedGap.trans (reads_bump (by decide) colon))
  exact ⟨toValue.valid valid, toValue.stack⟩

theorem append_named {s t : Scanner} (ran : s.named = .ok t) :
    (s.append more).named = .ok (t.append more) := by
  rcases named_ok_iff.mp ran with ⟨quote, result, scanned, colon, rfl⟩
  have atQuote := rest_of_peek quote
  have atColon := rest_of_peek colon
  refine named_ok_iff.mpr ⟨?_, (result.1, result.2.append more), ?_, ?_, ?_⟩
  · rw [append_skipWhitespace atQuote, append_peek atQuote, quote]
  · rw [append_skipWhitespace atQuote]
    exact append_scanString atQuote scanned
  · rw [append_skipWhitespace atColon, append_peek atColon, colon]
  · rw [append_skipWhitespace atColon, append_bump atColon]

theorem named_fails (s : Scanner) : FailsWithin Plain s.named := by
  apply failsWithin_bind (failsWithin_refuseIf (plain_syntaxError _))
  intro _
  apply failsWithin_bind (scanString_fails plain_syntaxError _)
  intro result
  apply failsWithin_bind (failsWithin_refuseIf (plain_syntaxError _))
  intro _
  exact failsWithin_pure _

theorem named_empty {s : Scanner} (empty : s.rest = []) : s.named = .error s.syntaxError := by
  have none := peek_of_empty empty
  simp [named, skipWhitespace_empty empty, none, refuseIf]

/-- At the end of the text, an element that is asked for is no value; or it is too deep. -/
def Verges (watched : Scanner → Watch Scanner) : Prop :=
  ∀ s : Scanner, s.skipWhitespace.rest = [] → (∃ below, s.stack = .array 0 :: below) →
    s.stack.length ≤ maxJsonDepth →
      (Throughout Clear (watched s) ∧ Idle (watched s).outcome) ∨
        (s.stack.length = maxJsonDepth ∧ ¬ Throughout Clear (watched s) ∧
          ∃ e : ParseError, (watched s).outcome = .error (.refused e))

theorem setIndex_self {s : Scanner} {index : Nat} (top : ∃ below, s.stack = .array index :: below) :
    s.setIndex index = s := by
  rcases top with ⟨below, array⟩
  unfold setIndex
  rw [array]
  dsimp only
  rw [← array]

theorem array_closed {value : Scanner → Except Halt Scanner} {s : Scanner} (here : s.rest ≠ [])
    (empty : (s.bump.push (.array 0)).skipWhitespace.rest = []) :
    ∃ u, (s.append [']'.toUInt8]).array value = .ok u ∧ u.rest = [] := by
  rcases skipWhitespace_reads (s.bump.push (.array 0)) with ⟨blank, isBlank, skipped⟩
  have held : ((s.bump.push (.array 0)).append [']'.toUInt8]).rest =
      utf8 blank ++ [']'.toUInt8] := by
    rw [append_rest, skipped.rest, empty, List.append_nil]
  have ends : Ends isWhitespace [']'.toUInt8] := rfl
  have reads := skipWhitespace_exact isBlank ends held
  have last := reads.rest_eq held
  have mark : ((s.bump.push (.array 0)).append [']'.toUInt8]).skipWhitespace.peek =
      some ']'.toUInt8 := by
    rw [peek, last]
    rfl
  refine ⟨((s.bump.push (.array 0)).append [']'.toUInt8]).skipWhitespace.bump.pop, ?_, ?_⟩
  · unfold array
    simp only [append_bump here, append_push, mark, if_true]
  · rw [pop, bump_rest, last]
    rfl

section Containers

variable {watched : Scanner → Watch Scanner} {value : Scanner → Except Halt Scanner} {calls : Nat}
  (same : ∀ s, (watched s).outcome = value s) (sound : Sound value)
  (settles : ∀ s, Valid s → ¬ AtVerge s →
    Settled (watched s) (fun more => value (s.append more)) (BreaksOff s))

include same sound settles

theorem arrayLoop_settled {fuel before : Nat} {fuel' : List UInt8 → Nat}
    (enough : ∀ more, fuel ≤ fuel' more) {s : Scanner} (valid : Valid s)
    (apart : ¬ AtVerge (s.setIndex before)) :
    Settled (watchArrayLoop watched calls fuel before s)
      (fun more => arrayLoop value (fuel' more) before (s.append more)) IsCut := by
  induction fuel generalizing before fuel' s with
  | zero => exact settled_of_holds fun more => idle_exhausted.holds _
  | succ fuel ih =>
      obtain ⟨fewer, rfl⟩ : ∃ fewer : List UInt8 → Nat, fuel' = fun more => fewer more + 1 :=
        ⟨fun more => fuel' more - 1, funext fun more =>
          (Nat.sub_add_cancel (Nat.one_le_of_lt (enough more))).symm⟩
      have validIndex : Valid (s.setIndex before) := by simpa [Valid] using valid
      simp only [watchArrayLoop_succ, arrayLoop_succ, append_mode, append_setIndex]
      split
      · exact settled_of_holds fun more => holds_error _
      · refine value_behind_settled (settles _ validIndex apart) fun u ran comma => ?_
        rw [same] at ran
        rcases sound validIndex ran with ⟨_, _, _, _, _, _, reads⟩
        rcases skipWhitespace_reads u with ⟨after, _, skipped⟩
        have toNext := (reads.trans skipped).trans (reads_bump (by decide) comma)
        exact ih (fun more => Nat.le_of_succ_le_succ (enough more)) (toNext.valid validIndex)
          (not_atVerge_setIndex (Nat.succ_ne_zero before))

theorem objectLoop_settled {count : Nat} {count' : List UInt8 → Nat}
    (enough : ∀ more, count ≤ count' more) {s : Scanner} (valid : Valid s)
    (top : ∃ below, s.stack = .object :: below) :
    Settled (watchObjectLoop watched calls count s)
      (fun more => objectLoop value (count' more) (s.append more)) IsCut := by
  induction count generalizing count' s with
  | zero => exact settled_of_holds fun more => idle_exhausted.holds _
  | succ count ih =>
      obtain ⟨fewer, rfl⟩ : ∃ fewer : List UInt8 → Nat, count' = fun more => fewer more + 1 :=
        ⟨fun more => count' more - 1, funext fun more =>
          (Nat.sub_add_cancel (Nat.one_le_of_lt (enough more))).symm⟩
      simp only [watchObjectLoop_succ, objectLoop_succ]
      cases ran : s.named with
      | error halt =>
          rw [ofExcept_error_bind]
          exact settled_of_holds fun more => (Plain.idle (named_fails s halt ran)).holds _
      | ok t =>
          rcases named_reads valid ran with ⟨validValue, stack⟩
          rcases top with ⟨below, object⟩
          have apart : ¬ AtVerge t := by
            rintro ⟨⟨_, array⟩, _⟩
            rw [stack, object] at array
            cases array
          simp only [ofExcept_ok_bind, append_named ran, ok_bind]
          refine value_behind_settled (settles t validValue apart) fun u ran comma => ?_
          rw [same] at ran
          rcases sound validValue ran with ⟨_, _, _, _, _, _, reads⟩
          rcases skipWhitespace_reads u with ⟨after, _, skipped⟩
          have toNext := (reads.trans skipped).trans (reads_bump (by decide) comma)
          refine ih (fun more => Nat.le_of_succ_le_succ (enough more)) (toNext.valid validValue) ?_
          exact ⟨below, by rw [toNext.stack, stack, object]⟩

theorem object_settled {s : Scanner} (valid : Valid s) (brace : s.peek = some '{'.toUInt8) :
    Settled (watchObject watched calls s) (fun more => (s.append more).object value) (BreaksOff s) := by
  have here := rest_of_peek brace
  rcases skipWhitespace_reads (s.bump.push .object) with ⟨blank, _, skipped⟩
  have pushed : Valid (s.bump.push .object) := (reads_bump (by decide) brace).valid valid
  unfold watchObject object
  apply settled_note (fun verge => by cases verge.1)
  by_cases left : (s.bump.push .object).skipWhitespace.rest = []
  · have none := peek_of_empty left
    dsimp only
    rw [none, if_neg (Option.some_ne_none _).symm, watchObjectLoop_succ, named_empty left]
    exact settled_of_holds fun more => (idle_syntaxError _).holds _
  · simp only [append_bump here, append_push, append_skipWhitespace left, append_peek left,
      append_bump left]
    split
    · exact leave_settled calls _
    · refine Settled.mono (fun _ => .inl) (objectLoop_settled same sound settles ?_
        (skipped.valid pushed) ?_)
      · intro more
        simp
      · exact ⟨s.stack, by rw [skipped.stack, push_stack, bump_stack]⟩

theorem array_settled (verges : Verges watched) {s : Scanner} (valid : Valid s)
    (bracket : s.peek = some '['.toUInt8) (room : s.stack.length + 1 ≤ maxJsonDepth) :
    Settled (watchArray watched calls s) (fun more => (s.append more).array value) (BreaksOff s) := by
  have here := rest_of_peek bracket
  rcases skipWhitespace_reads (s.bump.push (.array 0)) with ⟨blank, _, skipped⟩
  have pushed : Valid (s.bump.push (.array 0)) := (reads_bump (by decide) bracket).valid valid
  have stack : (s.bump.push (.array 0)).skipWhitespace.stack = .array 0 :: s.stack := by
    rw [skipped.stack, push_stack, bump_stack]
  have opened := setIndex_self ⟨s.stack, stack⟩
  have length : (s.bump.push (.array 0)).skipWhitespace.stack.length = s.stack.length + 1 := by
    rw [stack, List.length_cons]
  unfold watchArray
  apply settled_note (fun verge => by cases verge.1)
  by_cases left : (s.bump.push (.array 0)).skipWhitespace.rest = []
  · have none := peek_of_empty left
    have short : ¬ (0 + 1 > maxArrayLen ∧
        (s.bump.push (.array 0)).skipWhitespace.mode = .admission) := fun long => by
      exact absurd long.1 (by decide)
    dsimp only
    rw [none, if_neg (Option.some_ne_none _).symm, watchArrayLoop_succ, if_neg short, opened]
    rcases verges _ (by rw [skipWhitespace_idem, left]) ⟨s.stack, stack⟩ (by rwa [length]) with
      quiet | ⟨full, verge, e, refused⟩
    · rcases quiet with ⟨clear, idle⟩
      exact .inl ⟨(behind_idle _ clear idle).1, fun more => (behind_idle _ clear idle).2.holds _⟩
    · refine .inr ⟨fun clear => verge (throughout_bind_iff.mp clear).1, ⟨e, ?_⟩, .inr ⟨?_, ?_⟩⟩
      · rw [outcome_bind, refused]
        rfl
      · rw [← length, full]
      · exact array_closed here left
  · unfold array
    simp only [append_bump here, append_push, append_skipWhitespace left, append_peek left,
      append_bump left]
    split
    · exact leave_settled calls _
    · refine Settled.mono (fun _ => .inl) (arrayLoop_settled same sound settles ?_
        (skipped.valid pushed) ?_)
      · intro more
        simp
      · rw [opened]
        rintro ⟨_, _, empty⟩
        rw [skipWhitespace_idem] at empty
        exact left empty

theorem dispatch_settled (verges : Verges watched) {s : Scanner} (valid : Valid s)
    (here : s.rest ≠ []) (room : s.stack.length + 1 ≤ maxJsonDepth) :
    Settled (watchDispatch watched calls s) (fun more => (s.append more).dispatch value)
      (BreaksOff s) := by
  by_cases brace : s.peek = some '{'.toUInt8
  · have object : Settled (watchObject watched calls s)
        (fun more => (s.append more).object value) (BreaksOff s) :=
      object_settled same sound settles valid brace
    simpa only [watchDispatch, dispatch, append_peek here, if_pos brace] using object
  by_cases bracket : s.peek = some '['.toUInt8
  · have array : Settled (watchArray watched calls s)
        (fun more => (s.append more).array value) (BreaksOff s) :=
      array_settled same sound settles verges valid bracket room
    simpa only [watchDispatch, dispatch, append_peek here, if_neg brace, if_pos bracket] using array
  · rw [watchDispatch, if_neg brace, if_neg bracket]
    exact settled_of_holds fun more => scalar_holds here brace bracket

end Containers

theorem path_of_stack {s t : Scanner} (same : s.stack = t.stack) : s.path = t.path := by
  rw [path, path, same]

def tooDeep (s : Scanner) : ParseError :=
  match s.mode with
  | .admission => .depthExceeded s.path
  | .probe => .notAnObject

theorem value_deep (calls : Nat) {s : Scanner} (deep : s.stack.length + 1 > maxJsonDepth) :
    value (calls + 1) s = .error (.refused s.tooDeep) := by
  rcases skipWhitespace_reads s with ⟨_, _, skipped⟩
  rw [value, skipped.stack, if_pos deep, skipped.mode, path_of_stack skipped.stack, tooDeep]
  cases s.mode <;> rfl

theorem dispatch_empty {s : Scanner} (watched : Scanner → Watch Scanner) (calls : Nat)
    (empty : s.rest = []) : watchDispatch watched calls s = ofExcept (.error s.syntaxError) := by
  have none := peek_of_empty empty
  simp [watchDispatch, dispatch, none]

theorem value_verges (calls around : Nat) : Verges (watchValue calls around) := by
  intro s empty top room
  cases calls with
  | zero => exact .inl ⟨throughout_ofExcept _, idle_exhausted⟩
  | succ calls =>
      rcases skipWhitespace_reads s with ⟨_, _, skipped⟩
      by_cases full : s.stack.length = maxJsonDepth
      · refine .inr ⟨full, ?_, s.tooDeep, ?_⟩
        · intro clear
          rw [watchValue, throughout_bind_iff, throughout_note_iff] at clear
          exact clear.1 ⟨rfl, top, full, empty⟩
        · rw [outcome_value, value_deep calls (by omega)]
      · have shallow : ¬ s.skipWhitespace.stack.length + 1 > maxJsonDepth := by
          rw [skipped.stack]
          omega
        rw [watchValue]
        dsimp only
        rw [if_neg shallow, dispatch_empty _ _ empty]
        refine .inl ⟨throughout_bind_iff.mpr ⟨throughout_note_iff.mpr ?_, ?_⟩, idle_syntaxError _⟩
        · exact fun verge => full verge.2.2.1
        · exact fun _ _ => throughout_ofExcept _

theorem value_settled (calls around : Nat) : ∀ s, Valid s → ¬ AtVerge s →
    Settled (watchValue calls around s) (fun more => value calls (s.append more)) (BreaksOff s) := by
  induction calls generalizing around with
  | zero => exact fun s _ _ => settled_of_holds fun more => idle_exhausted.holds _
  | succ calls ih =>
      intro s valid apart
      have entered : Clear ⟨.entered, around + 1, s⟩ := fun verge => apart verge.2
      rcases skipWhitespace_reads s with ⟨_, _, skipped⟩
      by_cases deep : s.stack.length + 1 > maxJsonDepth
      · have refused : ∀ more, value (calls + 1) (s.append more) = .error (.refused s.tooDeep) :=
          fun more => value_deep calls deep
        simp only [refused]
        refine .inl ⟨?_, fun more => ?_⟩
        · rw [watchValue, throughout_bind_iff, throughout_note_iff]
          refine ⟨entered, fun _ _ => ?_⟩
          dsimp only
          rw [skipped.stack, if_pos deep]
          exact throughout_ofExcept _
        · rw [outcome_value, value_deep calls deep]
          exact holds_error _
      · rw [watchValue]
        apply settled_note entered
        dsimp only
        rw [skipped.stack, if_neg deep]
        by_cases left : s.skipWhitespace.rest = []
        · rw [dispatch_empty _ _ left]
          exact settled_of_holds fun more => (idle_syntaxError _).holds _
        · have room : s.skipWhitespace.stack.length + 1 ≤ maxJsonDepth := by
            rw [skipped.stack]
            exact Nat.not_lt.mp deep
          simp only [value, append_skipWhitespace left, append_stack, skipped.stack, if_neg deep]
          have settled : Settled
              (watchDispatch (watchValue calls (around + 1)) (around + 1) s.skipWhitespace)
              (fun more => (s.skipWhitespace.append more).dispatch (value calls))
              (BreaksOff s.skipWhitespace) :=
            dispatch_settled (outcome_value calls (around + 1)) (value_sound calls) (ih (around + 1))
              (value_verges calls (around + 1)) (skipped.valid valid) left room
          exact settled.mono fun r => Or.imp_right fun full => by rwa [skipped.stack] at full

def opening (s : Scanner) : Scanner :=
  if s.skipWhitespace.peek ≠ some '{'.toUInt8 then { s.skipWhitespace with mode := .probe }
  else s.skipWhitespace

def finish (mode : Mode) (s : Scanner) : Except Halt Unit :=
  if s.skipWhitespace.rest ≠ [] then .error s.skipWhitespace.syntaxError
  else match mode with
    | .admission => .ok ()
    | .probe => .error (.refused .notAnObject)

theorem run_eq {s : Scanner} (admission : s.mode = .admission) :
    s.run = value maxValueCalls s.opening >>= finish s.opening.mode := by
  rcases skipWhitespace_reads s with ⟨_, _, skipped⟩
  unfold run opening
  dsimp only
  split
  · rfl
  · rw [skipped.mode, admission]
    rfl

theorem clear_run (s : Scanner) : Throughout Clear (watchRun s) ↔
    Throughout Clear (watchValue maxValueCalls 0 s.opening) := by
  unfold watchRun opening
  dsimp only
  split <;> exact throughout_bind_iff.trans (and_iff_left fun _ _ => throughout_ofExcept _)

theorem new_append (text more : String) :
    new (text ++ more) = (new text).append (utf8 more.toList) := by
  rw [new, new, String.toList_append, utf8_append]
  rfl

theorem opening_append {s : Scanner} (left : s.skipWhitespace.rest ≠ []) :
    (s.append more).opening = s.opening.append more := by
  unfold opening
  rw [append_skipWhitespace left, append_peek left]
  split <;> rfl

theorem opening_rest (s : Scanner) : s.opening.rest = s.skipWhitespace.rest := by
  unfold opening
  split <;> rfl

theorem opening_stack (s : Scanner) : s.opening.stack = s.stack := by
  rcases skipWhitespace_reads s with ⟨_, _, skipped⟩
  unfold opening
  split <;> exact skipped.stack

/-- A null member, a container or a text over its bound is refused; `NotAnObject` only where the value
itself was too deep. -/
structure RefusedForBound (text : String) (e : ParseError) : Prop where
  refused : (new text).run = .error (.refused e)
  bound : e.IsBound
  depth : e = .notAnObject →
    value maxValueCalls (new text).opening = .error (.refused .notAnObject)

/-- The scan asks for a first element where the text ends, in an array at the depth bound. -/
def EndsAtVerge (text : String) : Prop :=
  ∃ m ∈ (watchRun (new text)).moments, m.event = .entered ∧ AtVerge m.scanner

theorem not_endsAtVerge_iff {text : String} :
    ¬ EndsAtVerge text ↔ Throughout Clear (watchRun (new text)) := by
  simp only [EndsAtVerge, Throughout, Clear, not_exists, not_and]

theorem RefusedForBound.value {text : String} {e : ParseError} (refusal : RefusedForBound text e) :
    value maxValueCalls (new text).opening = .error (.refused e) := by
  have refused := refusal.refused
  rw [run_eq rfl] at refused
  cases ran : Scanner.value maxValueCalls (new text).opening with
  | error halt =>
      rw [ran, error_bind] at refused
      cases refused
      rfl
  | ok u =>
      rw [ran, ok_bind] at refused
      unfold finish at refused
      split at refused
      · cases refused
        exact absurd refusal.bound id
      · split at refused
        · cases refused
        · cases refused
          have deep := refusal.depth rfl
          rw [ran] at deep
          cases deep

theorem value_empty {s : Scanner} (empty : s.skipWhitespace.rest = [])
    (shallow : s.stack.length + 1 ≤ maxJsonDepth) (calls : Nat) :
    value (calls + 1) s = .error s.skipWhitespace.syntaxError := by
  rcases skipWhitespace_reads s with ⟨_, _, skipped⟩
  rw [value, skipped.stack, if_neg (by omega)]
  have none := peek_of_empty empty
  simp [dispatch, none]

theorem refusal_final_iff {text : String} {e : ParseError} (refusal : RefusedForBound text e) :
    (∀ more, (new (text ++ more)).run = .error (.refused e)) ↔ ¬ EndsAtVerge text := by
  rw [not_endsAtVerge_iff, clear_run]
  have refused := refusal.value
  have outermost : (new text).opening.stack = [] := opening_stack _
  have left : (new text).skipWhitespace.rest ≠ [] := by
    intro empty
    have shallow : (new text).opening.stack.length + 1 ≤ maxJsonDepth := by
      rw [outermost]
      decide
    rw [← opening_rest] at empty
    rw [maxValueCalls, value_empty (by rw [skipWhitespace_empty empty, empty]) shallow] at refused
    cases refused
    exact refusal.bound
  have valid : Valid (new text).opening := by
    rcases skipWhitespace_reads (new text) with ⟨_, _, skipped⟩
    rcases skipped.valid (new_valid text) with ⟨rest, held⟩
    exact ⟨rest, by rw [opening_rest, held]⟩
  have apart : ¬ AtVerge (new text).opening := by
    rintro ⟨⟨below, array⟩, _⟩
    rw [outermost] at array
    cases array
  have continued : ∀ more : String, (new (text ++ more)).run =
      Scanner.value maxValueCalls ((new text).opening.append (utf8 more.toList)) >>=
        finish (new text).opening.mode := by
    intro more
    rw [run_eq rfl, new_append, opening_append left]
    rfl
  rcases value_settled maxValueCalls 0 _ valid apart with ⟨clear, holds⟩ | ⟨verge, _, broken⟩
  · refine iff_of_true (fun more => ?_) clear
    rw [outcome_value] at holds
    have held := (holds (utf8 more.toList)).refused e refusal.bound refused
    dsimp only at held
    rw [continued, held]
    rfl
  · refine iff_of_false (fun stands => ?_) verge
    have closed := stands "]"
    rw [continued] at closed
    rcases broken with ⟨s, cut⟩ | ⟨full, _⟩
    · have bracket : utf8 "]".toList = [']'.toUInt8] := by decide
      dsimp only at cut
      rw [bracket, cut, error_bind] at closed
      cases closed
      exact refusal.bound
    · rw [outermost] at full
      exact absurd full (by decide)

/-- Refusals for a bound are decided by what has been read, unless the text ends at the verge; and
the scan settles within its frames and its nested calls. -/
theorem bounds_decided_iff (text : String) :
    (∀ e, RefusedForBound text e →
      ((∀ more, (new (text ++ more)).run = .error (.refused e)) ↔ ¬ EndsAtVerge text)) ∧
    (watchRun (new text)).outcome = (new text).run ∧ (new text).run ≠ .error .exhausted ∧
    ∀ m ∈ (watchRun (new text)).moments, m.calls ≤ maxJsonDepth + 1 ∧
      m.scanner.stack.length ≤ maxJsonDepth := by
  refine ⟨fun e refusal => refusal_final_iff refusal, outcome_run _, ?_, run_within text⟩
  intro exhausted
  rcases run_settles text with admitted | ⟨error, refused⟩
  · rw [admitted] at exhausted
    cases exhausted
  · rw [refused] at exhausted
    cases exhausted

def deepText : String := "\x7b\"k\":[[[[[[[[[[[[[[[[[[[[[[[[[[[[[[["

def deepEnd : String := "]]]]]]]]]]]]]]]]]]]]]]]]]]]]]]]\x7d"

/-- A text that is refused for its depth is admitted when it goes on. -/
theorem refusal_withdrawn : ¬ ∀ (text : String) (e : ParseError) (more : String),
    RefusedForBound text e → (new (text ++ more)).run = .error (.refused e) := by
  intro stands
  have deep : (match (new deepText).run with
      | .error (.refused (.depthExceeded _)) => true
      | _ => false) = true := by decide +kernel
  have admitted : (match (new (deepText ++ deepEnd)).run with
      | .ok _ => true
      | _ => false) = true := by decide +kernel
  split at deep
  case h_1 path refused =>
    rw [stands deepText (.depthExceeded path) deepEnd
      ⟨refused, trivial, fun same => by cases same⟩] at admitted
    cases admitted
  case h_2 => cases deep

end Scanner

end O7Formal.Contracts
