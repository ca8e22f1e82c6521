import O7Formal.Contracts.Language

/-! The scan always comes to an end: no loop and no nesting of values uses up its count,
so every text is either admitted or refused. Each turn of a loop reads at least one byte,
and values nest at most one level deeper than the depth bound. -/

namespace O7Formal.Contracts.Scanner

open Fallible Utf8 Json

def Settles {α : Type} (x : Except Halt α) : Prop := FailsWithin (· ≠ Halt.exhausted) x

theorem syntax_settles (s : Scanner) : s.syntaxError ≠ .exhausted := by
  simp [syntaxError]

theorem settles_syntax {α : Type} (s : Scanner) :
    Settles (.error s.syntaxError : Except Halt α) :=
  failsWithin_error (syntax_settles s)

theorem settles_refused {α : Type} (e : ParseError) :
    Settles (.error (.refused e) : Except Halt α) :=
  failsWithin_error (by simp)

theorem settles_ok {α : Type} (a : α) : Settles (.ok a : Except Halt α) := failsWithin_ok a

theorem settles_refuseIf {bad : Prop} [Decidable bad] (e : ParseError) :
    Settles (refuseIf bad (.refused e)) :=
  failsWithin_refuseIf (by simp)

theorem settles_bind {α β : Type} {x : Except Halt α} {f : α → Except Halt β} (first : Settles x)
    (second : ∀ a, x = .ok a → Settles (f a)) : Settles (x >>= f) :=
  failsWithin_bind_of first second

theorem Reads.length_le {s t : Scanner} {text : List Char} (reads : Reads s text t) :
    t.rest.length ≤ s.rest.length := by
  rw [reads.rest, List.length_append]
  exact Nat.le_add_left _ _

theorem bump_length {s : Scanner} {b : UInt8} (next : s.peek = some b) :
    s.bump.rest.length + 1 = s.rest.length := by
  have front : s.rest = b :: s.rest.tail := List.eq_cons_of_mem_head? next
  rw [bump_rest, front]
  rfl

theorem escapeSequence_length {s t : Scanner} {length : Nat}
    (ran : s.escapeSequence = .ok (length, t)) : t.rest.length ≤ s.rest.length := by
  rcases escapeSequence_reads ran with ⟨_, _, _, _, _, reads⟩ | ⟨_, _, reads, _⟩
  · exact reads.length_le
  · exact reads.length_le

section Fails

variable {allowed : Halt → Prop} (fine : ∀ s : Scanner, allowed s.syntaxError)

include fine

theorem digits_fails (s : Scanner) : FailsWithin allowed s.digits := by
  unfold digits
  dsimp only
  split
  · exact failsWithin_error (fine _)
  · exact failsWithin_ok _

theorem integer_fails (s : Scanner) : FailsWithin allowed s.integer := by
  unfold integer
  split
  · split
    · exact failsWithin_error (fine _)
    · exact failsWithin_ok _
  · exact digits_fails fine _

theorem fraction_fails (s : Scanner) : FailsWithin allowed s.fraction := by
  unfold fraction
  split
  · exact digits_fails fine _
  · exact failsWithin_ok _

theorem exponent_fails (s : Scanner) : FailsWithin allowed s.exponent := by
  unfold exponent
  split
  · split <;> exact digits_fails fine _
  · exact failsWithin_ok _

theorem number_fails (s : Scanner) : FailsWithin allowed s.number := by
  unfold number
  apply failsWithin_bind (integer_fails fine _)
  intro afterWhole
  apply failsWithin_bind (fraction_fails fine _)
  intro afterFraction
  apply failsWithin_bind (exponent_fails fine _)
  intro last
  split
  · exact failsWithin_error (fine _)
  · exact failsWithin_ok _

theorem literal_fails (word : List UInt8) (s : Scanner) : FailsWithin allowed (s.literal word) := by
  induction word generalizing s with
  | nil => exact failsWithin_ok s
  | cons expected word ih =>
      rw [literal]
      split
      · exact failsWithin_error (fine s)
      · exact ih s.bump

theorem escapeSequence_fails (s : Scanner) : FailsWithin allowed s.escapeSequence := by
  unfold escapeSequence
  split
  · exact failsWithin_error (fine s)
  · dsimp only
    split
    · split <;> exact failsWithin_ok _
    · exact failsWithin_ok _

theorem scanStringLoop_fails {count : Nat} (decoded : Nat) {s : Scanner}
    (enough : s.rest.length < count) : FailsWithin allowed (scanStringLoop count decoded s) := by
  induction count generalizing decoded s with
  | zero => exact absurd enough (Nat.not_lt_zero _)
  | succ count ih =>
      rw [scanStringLoop]
      split
      · exact failsWithin_error (fine s)
      · rename_i b next
        have shorter := bump_length next
        split
        · exact failsWithin_ok _
        split
        · dsimp only
          split
          · rename_i found
            rcases Option.any_eq_true _ _ |>.mp found with ⟨d, nextShort, _⟩
            have shorterShort := bump_length nextShort
            exact ih _ (by omega)
          split
          · rename_i letter
            have shorterLetter := bump_length letter
            apply failsWithin_bind_of (escapeSequence_fails fine _)
            intro result ran
            have shorterEscape := escapeSequence_length ran
            exact ih _ (by omega)
          · exact failsWithin_error (fine _)
        split
        · exact failsWithin_error (fine s)
        · exact ih _ (by omega)

theorem scanString_fails (s : Scanner) : FailsWithin allowed s.scanString :=
  scanStringLoop_fails fine 0 (Nat.lt_succ_self _)

end Fails

theorem string_settles (s : Scanner) : Settles s.string := by
  apply settles_bind (scanString_fails syntax_settles s)
  intro result _
  dsimp only
  split
  · exact settles_refused _
  · exact settles_ok _

/-- `value` settles wherever the count of nested calls is still enough. -/
def SettlesAt (calls : Nat) (value : Scanner → Except Halt Scanner) : Prop :=
  ∀ ⦃s : Scanner⦄, Valid s → s.stack.length ≤ maxJsonDepth →
    maxJsonDepth < calls + s.stack.length → Settles (value s)

section Containers

variable {value : Scanner → Except Halt Scanner} {calls : Nat} (sound : Sound value)
  (settles : SettlesAt calls value)

include sound settles

theorem arrayLoop_settles {fuel before : Nat} {s : Scanner} (valid : Valid s)
    (room : s.stack.length ≤ maxJsonDepth) (deep : maxJsonDepth < calls + s.stack.length)
    (enough : s.rest.length < fuel) : Settles (arrayLoop value fuel before s) := by
  induction fuel generalizing before s with
  | zero => exact absurd enough (Nat.not_lt_zero _)
  | succ fuel ih =>
      have validIndex : Valid (s.setIndex before) := by simpa [Valid] using valid
      rw [arrayLoop]
      apply settles_bind (settles_refuseIf _)
      intro _ _
      apply settles_bind
      · exact settles validIndex (by simpa using room) (by simpa using deep)
      intro t ran
      rcases sound validIndex ran with ⟨_, _, _, _, _, _, reads⟩
      rcases skipWhitespace_reads t with ⟨after, _, skipped⟩
      have toMark := reads.trans skipped
      dsimp only
      split
      · rename_i comma
        have shorter := toMark.length_le
        have shorterMark := bump_length comma
        have same := toMark.stack
        rw [setIndex_rest] at shorter
        apply ih
        · exact (toMark.trans (reads_bump (by decide) comma)).valid validIndex
        · rw [bump_stack, same, setIndex_length]
          exact room
        · rw [bump_stack, same, setIndex_length]
          exact deep
        · omega
      · split
        · exact settles_ok _
        · exact settles_syntax _

theorem objectLoop_settles {fuel : Nat} {s : Scanner} (valid : Valid s)
    (room : s.stack.length ≤ maxJsonDepth) (deep : maxJsonDepth < calls + s.stack.length)
    (enough : s.rest.length < fuel) : Settles (objectLoop value fuel s) := by
  induction fuel generalizing s with
  | zero => exact absurd enough (Nat.not_lt_zero _)
  | succ fuel ih =>
      rcases skipWhitespace_reads s with ⟨lead, _, skippedLead⟩
      rcases skippedLead.valid valid with ⟨text, held⟩
      rw [objectLoop]
      apply settles_bind (settles_refuseIf _)
      intro _ quoteFound
      have quote := not_not.mp (refuseIf_ok_iff.mp quoteFound)
      apply settles_bind (scanString_fails syntax_settles _)
      intro result ranName
      rcases scanString_reads held quote ranName with ⟨name, _, readName⟩
      rcases skipWhitespace_reads result.2 with ⟨gap, _, skippedGap⟩
      apply settles_bind (settles_refuseIf _)
      intro _ colonFound
      have colon := not_not.mp (refuseIf_ok_iff.mp colonFound)
      have toValue := (skippedLead.trans readName).trans
        (skippedGap.trans (reads_bump (by decide) colon))
      apply settles_bind
      · apply settles (toValue.valid valid)
        · rw [toValue.stack]
          exact room
        · rw [toValue.stack]
          exact deep
      intro t ran
      rcases sound (toValue.valid valid) ran with ⟨_, _, _, _, _, _, reads⟩
      rcases skipWhitespace_reads t with ⟨after, _, skipped⟩
      have toMark := toValue.trans (reads.trans skipped)
      dsimp only
      split
      · rename_i comma
        have shorter := toMark.length_le
        have shorterMark := bump_length comma
        have toNext := toMark.trans (reads_bump (by decide) comma)
        apply ih (toNext.valid valid)
        · rw [toNext.stack]
          exact room
        · rw [toNext.stack]
          exact deep
        · omega
      · split
        · exact settles_ok _
        · exact settles_syntax _

theorem container_settles {s : Scanner} {c : Char} (low : IsAscii c)
    (next : s.peek = some c.toUInt8) (valid : Valid s) (room : s.stack.length + 1 ≤ maxJsonDepth)
    (deep : maxJsonDepth < calls + (s.stack.length + 1)) :
    Settles (s.array value) ∧ Settles (s.object value) := by
  have within : ∀ frame, Valid (s.bump.push frame).skipWhitespace ∧
      (s.bump.push frame).skipWhitespace.stack.length = s.stack.length + 1 := by
    intro frame
    rcases skipWhitespace_reads (s.bump.push frame) with ⟨blank, _, skipped⟩
    have pushed : Valid (s.bump.push frame) := (reads_bump low next).valid valid
    refine ⟨skipped.valid pushed, ?_⟩
    rw [skipped.stack, push_stack, bump_stack, List.length_cons]
  constructor
  · rcases within (.array 0) with ⟨validBody, length⟩
    unfold array
    dsimp only
    split
    · exact settles_ok _
    · apply arrayLoop_settles sound settles validBody _ _ (Nat.lt_succ_self _)
      · rwa [length]
      · rwa [length]
  · rcases within .object with ⟨validBody, length⟩
    unfold object
    dsimp only
    split
    · exact settles_ok _
    · apply objectLoop_settles sound settles validBody _ _ (Nat.lt_succ_self _)
      · rwa [length]
      · rwa [length]

theorem dispatch_settles {s : Scanner} (valid : Valid s) (room : s.stack.length + 1 ≤ maxJsonDepth)
    (deep : maxJsonDepth < calls + (s.stack.length + 1)) : Settles (s.dispatch value) := by
  unfold dispatch
  split_ifs with brace bracket quote isTrue isFalse isNull isNumber
  · exact (container_settles sound settles (by decide) brace valid room deep).2
  · exact (container_settles sound settles (by decide) bracket valid room deep).1
  · apply settles_bind (string_settles s)
    intro result _
    exact settles_ok _
  · exact literal_fails syntax_settles _ s
  · exact literal_fails syntax_settles _ s
  · apply settles_bind (literal_fails syntax_settles _ s)
    intro t _
    split
    · exact settles_refused _
    · exact settles_ok _
  · exact number_fails syntax_settles s
  · exact settles_syntax s

end Containers

theorem value_settles (calls : Nat) : SettlesAt calls (value calls) := by
  induction calls with
  | zero =>
      intro s _ room deep
      omega
  | succ calls ih =>
      intro s valid room deep
      rcases skipWhitespace_reads s with ⟨blank, _, skipped⟩
      rw [value]
      split
      · split <;> exact settles_refused _
      · rename_i within
        apply dispatch_settles (value_sound calls) ih (skipped.valid valid) (Nat.not_lt.mp within)
        rw [skipped.stack]
        omega

theorem run_settles (text : String) :
    (new text).run = .ok () ∨ ∃ error, (new text).run = .error (.refused error) := by
  have settled : Settles (new text).run := by
    rcases skipWhitespace_reads (new text) with ⟨blank, _, skipped⟩
    have valid := skipped.valid (new_valid text)
    have outermost : (new text).skipWhitespace.stack = [] := skipped.stack
    have room : (new text).skipWhitespace.stack.length ≤ maxJsonDepth := by
      rw [outermost]
      decide
    have deep : maxJsonDepth < maxValueCalls + (new text).skipWhitespace.stack.length := by
      rw [outermost]
      decide
    unfold run
    dsimp only
    split
    · apply settles_bind
      · exact value_settles maxValueCalls (s := { (new text).skipWhitespace with mode := .probe })
          valid room deep
      intro t _
      split
      · exact settles_syntax _
      · exact settles_refused _
    · apply settles_bind (value_settles maxValueCalls valid room deep)
      intro t _
      split
      · exact settles_syntax _
      · exact settles_ok _
  cases ran : (new text).run with
  | ok u => exact .inl rfl
  | error halt =>
      cases halt with
      | refused error => exact .inr ⟨error, rfl⟩
      | exhausted => exact absurd rfl (settled .exhausted ran)

end O7Formal.Contracts.Scanner
