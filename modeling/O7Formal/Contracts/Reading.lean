import O7Formal.Contracts.Scan

/-! What the scanner's lexical functions read.

`Reads s text s'` says that between `s` and `s'` exactly the characters `text` were
consumed and neither the stack nor the mode changed. Each function gets two lemmas: what
an accepted run has read, and that a text of the right shape is read to its end. -/

namespace O7Formal.Contracts.Scanner

open Fallible Utf8 Json

structure Reads (s : Scanner) (text : List Char) (s' : Scanner) : Prop where
  rest : s.rest = utf8 text ++ s'.rest
  stack : s'.stack = s.stack
  mode : s'.mode = s.mode

theorem Reads.refl (s : Scanner) : Reads s [] s := ⟨rfl, rfl, rfl⟩

theorem Reads.trans {s t u : Scanner} {before after : List Char} (first : Reads s before t)
    (second : Reads t after u) : Reads s (before ++ after) u := by
  constructor
  · rw [first.rest, second.rest, utf8_append, List.append_assoc]
  · rw [second.stack, first.stack]
  · rw [second.mode, first.mode]

theorem Reads.rest_eq {s s' : Scanner} {text : List Char} {r : List UInt8}
    (reads : Reads s text s') (held : s.rest = utf8 text ++ r) : s'.rest = r := by
  rw [reads.rest] at held
  exact List.append_cancel_left held

@[simp] theorem bump_rest (s : Scanner) : s.bump.rest = s.rest.tail := by
  unfold bump
  split <;> rfl

@[simp] theorem bump_stack (s : Scanner) : s.bump.stack = s.stack := by
  unfold bump
  split <;> rfl

@[simp] theorem bump_mode (s : Scanner) : s.bump.mode = s.mode := by
  unfold bump
  split <;> rfl

theorem reads_bump {s : Scanner} {c : Char} (low : IsAscii c) (next : s.peek = some c.toUInt8) :
    Reads s [c] s.bump := by
  refine ⟨?_, bump_stack s, bump_mode s⟩
  rw [bump_rest, utf8_cons_ascii low]
  exact List.eq_cons_of_mem_head? next

theorem peek_of_rest {s : Scanner} {c : Char} {text : List Char} {r : List UInt8}
    (low : IsAscii c) (held : s.rest = utf8 (c :: text) ++ r) : s.peek = some c.toUInt8 := by
  rw [peek, held, utf8_cons_ascii low]
  rfl

theorem bump_of_rest {s : Scanner} {c : Char} {text : List Char} {r : List UInt8}
    (low : IsAscii c) (held : s.rest = utf8 (c :: text) ++ r) :
    Reads s [c] s.bump ∧ s.bump.rest = utf8 text ++ r := by
  have reads := reads_bump low (peek_of_rest low held)
  refine ⟨reads, reads.rest_eq ?_⟩
  rw [held, ← List.append_assoc, ← utf8_append]
  rfl

/-- The bytes `matching` picks out are the ASCII characters `keep` picks out. -/
structure ByteClass (matching : UInt8 → Bool) (keep : Char → Bool) : Prop where
  ascii : ∀ c, keep c = true → IsAscii c
  agrees : ∀ c, IsAscii c → matching c.toUInt8 = keep c
  low : ∀ b, matching b = true → b.toNat < 0x80

def Ends (matching : UInt8 → Bool) (r : List UInt8) : Prop := r.head?.any matching = false

section Runs

variable {matching : UInt8 → Bool} {keep : Char → Bool} (bytes : ByteClass matching keep)

include bytes

theorem bumpWhile_reads (count : Nat) (s : Scanner) :
    ∃ text, (∀ c ∈ text, keep c = true) ∧ Reads s text (s.bumpWhile matching count) := by
  induction count generalizing s with
  | zero => exact ⟨[], by simp, Reads.refl s⟩
  | succ count ih =>
      cases next : s.peek with
      | none =>
          refine ⟨[], by simp, ?_⟩
          simp only [bumpWhile, next, Option.any_none]
          exact Reads.refl s
      | some b =>
          by_cases matched : matching b = true
          · rcases ascii_of_byte (bytes.low b matched) with ⟨low, same⟩
            rw [← same] at next
            rcases ih s.bump with ⟨text, kept, reads⟩
            refine ⟨Char.ofNat b.toNat :: text, ?_, ?_⟩
            · rw [List.forall_mem_cons]
              refine ⟨?_, kept⟩
              rw [← bytes.agrees _ low, same]
              exact matched
            · simp only [bumpWhile, next, Option.any_some, same, matched, if_true]
              exact (reads_bump low next).trans reads
          · refine ⟨[], by simp, ?_⟩
            simp only [bumpWhile, next, Option.any_some, matched]
            exact Reads.refl s

theorem bumpWhile_exact {text : List Char} {r : List UInt8} (kept : ∀ c ∈ text, keep c = true)
    (ends : Ends matching r) {count : Nat} {s : Scanner} (enough : text.length ≤ count)
    (held : s.rest = utf8 text ++ r) : Reads s text (s.bumpWhile matching count) := by
  induction text generalizing s count with
  | nil =>
      have stop : s.peek.any matching = false := by
        rw [peek, held]
        exact ends
      have same : s.bumpWhile matching count = s := by
        cases count with
        | zero => rfl
        | succ count => simp [bumpWhile, stop]
      rw [same]
      exact Reads.refl s
  | cons c text ih =>
      have here := kept c List.mem_cons_self
      have low := bytes.ascii c here
      rcases bump_of_rest low held with ⟨reads, after⟩
      cases count with
      | zero => simp at enough
      | succ count =>
          have found : s.peek.any matching = true := by
            rw [peek_of_rest low held, Option.any_some, bytes.agrees c low]
            exact here
          simp only [bumpWhile, found, if_true]
          apply reads.trans
          exact ih (fun d member => kept d (List.mem_cons_of_mem c member))
            (by simpa using enough) after

theorem bumpWhile_run {text : List Char} {r : List UInt8} (kept : ∀ c ∈ text, keep c = true)
    (ends : Ends matching r) {s : Scanner} (held : s.rest = utf8 text ++ r) :
    Reads s text (s.bumpWhile matching s.rest.length) := by
  apply bumpWhile_exact bytes kept ends _ held
  rw [held, List.length_append, length_utf8_ascii (fun c member => bytes.ascii c (kept c member))]
  exact Nat.le_add_right _ _

end Runs

theorem ends_nil (matching : UInt8 → Bool) : Ends matching [] := rfl

theorem ends_cons {matching : UInt8 → Bool} {c : Char} (low : IsAscii c)
    (differs : matching c.toUInt8 = false) (text : List Char) (r : List UInt8) :
    Ends matching (utf8 (c :: text) ++ r) := by
  rw [utf8_cons_ascii low]
  exact differs

theorem whitespace_class : ByteClass isWhitespace isBlank := by
  constructor
  · intro c blank
    simp only [isBlank, Bool.or_eq_true, beq_iff_eq] at blank
    rcases blank with ((same | same) | same) | same <;> subst same <;> decide
  · intro c low
    exact ascii_forall (motive := fun c => isWhitespace c.toUInt8 = isBlank c) (by decide) low
  · intro b matched
    simp only [isWhitespace, Bool.or_eq_true, beq_iff_eq] at matched
    rcases matched with ((same | same) | same) | same <;> subst same <;> decide

theorem digit_class : ByteClass isDigit Char.isDigit := by
  constructor
  · intro c digit
    have bounds := Char.isDigit_iff_toNat.mp digit
    exact lt_of_le_of_lt bounds.2 (by decide)
  · intro c low
    exact ascii_forall (motive := fun c => isDigit c.toUInt8 = c.isDigit) (by decide) low
  · intro b matched
    simp only [isDigit, Bool.and_eq_true, decide_eq_true_eq, UInt8.le_iff_toNat_le] at matched
    exact lt_of_le_of_lt matched.2 (by decide)

theorem skipWhitespace_reads (s : Scanner) : ∃ text, Blank text ∧ Reads s text s.skipWhitespace :=
  bumpWhile_reads whitespace_class s.rest.length s

theorem skipWhitespace_exact {s : Scanner} {blank : List Char} {r : List UInt8}
    (isBlank : Blank blank) (ends : Ends isWhitespace r) (held : s.rest = utf8 blank ++ r) :
    Reads s blank s.skipWhitespace :=
  bumpWhile_run whitespace_class isBlank ends held

theorem digits_reads {s s' : Scanner} (ran : s.digits = .ok s') :
    ∃ text, Digits text ∧ Reads s text s' := by
  rcases bumpWhile_reads digit_class s.rest.length s with ⟨text, kept, reads⟩
  simp only [digits] at ran
  split at ran
  · cases ran
  · rename_i moved
    cases ran
    refine ⟨text, ⟨?_, kept⟩, reads⟩
    intro empty
    have still := congrArg List.length reads.rest
    rw [empty] at still
    exact moved still.symm

theorem digits_exact {s : Scanner} {text : List Char} {r : List UInt8} (isDigits : Digits text)
    (ends : Ends isDigit r) (held : s.rest = utf8 text ++ r) :
    ∃ s', s.digits = .ok s' ∧ Reads s text s' := by
  have reads := bumpWhile_run digit_class isDigits.2 ends held
  refine ⟨_, ?_, reads⟩
  simp only [digits]
  rw [if_neg]
  intro still
  have lengths := congrArg List.length reads.rest
  rw [List.length_append, length_utf8_ascii
    (fun c member => digit_class.ascii c (isDigits.2 c member)), still] at lengths
  have short : text.length = 0 := by omega
  exact isDigits.1 (List.length_eq_zero_iff.mp short)

theorem integer_reads {s s' : Scanner} (ran : s.integer = .ok s') :
    ∃ text, Whole text ∧ Reads s text s' := by
  unfold integer at ran
  split at ran
  · rename_i zero
    split at ran
    · cases ran
    · cases ran
      exact ⟨['0'], .zero, reads_bump (by decide) zero⟩
  · rename_i nonzero
    rcases digits_reads ran with ⟨text, isDigits, reads⟩
    refine ⟨text, .positive isDigits ?_, reads⟩
    intro leading
    rcases List.head?_eq_some_iff.mp leading with ⟨later, split⟩
    have held := reads.rest
    rw [split] at held
    exact nonzero (peek_of_rest (by decide) held)

theorem fraction_reads {s s' : Scanner} (ran : s.fraction = .ok s') :
    ∃ text, Fraction text ∧ Reads s text s' := by
  unfold fraction at ran
  split at ran
  · rename_i point
    rcases digits_reads ran with ⟨text, isDigits, reads⟩
    exact ⟨'.' :: text, .present isDigits, (reads_bump (by decide) point).trans reads⟩
  · cases ran
    exact ⟨[], .absent, Reads.refl s⟩

theorem exponent_reads {s s' : Scanner} (ran : s.exponent = .ok s') :
    ∃ text, Exponent text ∧ Reads s text s' := by
  unfold exponent at ran
  split at ran
  · rename_i letter
    have first : ∃ e, (e = 'e' ∨ e = 'E') ∧ Reads s [e] s.bump := by
      rcases letter with lower | upper
      · exact ⟨'e', .inl rfl, reads_bump (by decide) lower⟩
      · exact ⟨'E', .inr rfl, reads_bump (by decide) upper⟩
    rcases first with ⟨e, isLetter, readLetter⟩
    split at ran
    · rename_i signed
      have second : ∃ plus, Sign plus ∧ Reads s.bump plus s.bump.bump := by
        rcases signed with plus | minus
        · exact ⟨['+'], .inr (.inl rfl), reads_bump (by decide) plus⟩
        · exact ⟨['-'], .inr (.inr rfl), reads_bump (by decide) minus⟩
      rcases second with ⟨plus, isSign, readSign⟩
      rcases digits_reads ran with ⟨text, isDigits, reads⟩
      exact ⟨_, .present isLetter isSign isDigits, readLetter.trans (readSign.trans reads)⟩
    · rcases digits_reads ran with ⟨text, isDigits, reads⟩
      exact ⟨_, .present isLetter (.inl rfl) isDigits, readLetter.trans reads⟩
  · cases ran
    exact ⟨[], .absent, Reads.refl s⟩

theorem number_reads {s s' : Scanner} (ran : s.number = .ok s') :
    ∃ text, Number text ∧ Reads s text s' := by
  have first : ∃ minus, (minus = [] ∨ minus = ['-']) ∧
      Reads s minus (if s.peek = some '-'.toUInt8 then s.bump else s) := by
    split
    · rename_i negative
      exact ⟨['-'], .inr rfl, reads_bump (by decide) negative⟩
    · exact ⟨[], .inl rfl, Reads.refl s⟩
  rcases first with ⟨minus, negative, readMinus⟩
  simp only [number, bind_ok_iff] at ran
  rcases ran with ⟨afterWhole, ranWhole, afterFraction, ranFraction, last, ranExponent, ended⟩
  split at ended
  · cases ended
  · cases ended
    rcases integer_reads ranWhole with ⟨whole, isWhole, readWhole⟩
    rcases fraction_reads ranFraction with ⟨part, isFraction, readFraction⟩
    rcases exponent_reads ranExponent with ⟨power, isExponent, readExponent⟩
    exact ⟨_, .mk negative isWhole isFraction isExponent,
      readMinus.trans (readWhole.trans (readFraction.trans readExponent))⟩

def extendsNumber (b : UInt8) : Bool :=
  isDigit b || b == '.'.toUInt8 || b == 'e'.toUInt8 || b == 'E'.toUInt8

theorem Ends.head_ne {matching : UInt8 → Bool} {r : List UInt8} {b : UInt8}
    (ends : Ends matching r) (matched : matching b = true) : r.head? ≠ some b := by
  intro front
  rw [Ends, front, Option.any_some, matched] at ends
  cases ends

theorem Ends.digit {r : List UInt8} (ends : Ends extendsNumber r) : Ends isDigit r := by
  cases r with
  | nil => rfl
  | cons b r =>
      simp only [Ends, extendsNumber, List.head?_cons, Option.any_some, Bool.or_eq_false_iff]
        at ends ⊢
      exact ends.1.1.1

theorem integer_exact {s : Scanner} {text : List Char} {r : List UInt8} (isWhole : Whole text)
    (ends : Ends isDigit r) (held : s.rest = utf8 text ++ r) :
    ∃ s', s.integer = .ok s' ∧ Reads s text s' := by
  unfold integer
  cases isWhole with
  | zero =>
      rcases bump_of_rest (by decide) held with ⟨reads, after⟩
      have stop : s.bump.peek.any isDigit = false := by
        rw [peek, after]
        exact ends
      exact ⟨s.bump, by simp [peek_of_rest (by decide) held, stop], reads⟩
  | positive isDigits leading =>
      have nonzero : s.peek ≠ some '0'.toUInt8 := by
        intro zero
        cases text with
        | nil => exact isDigits.1 rfl
        | cons c text =>
            have low := digit_class.ascii c (isDigits.2 c List.mem_cons_self)
            rw [peek_of_rest low held, Option.some_inj, toUInt8_inj low (by decide)] at zero
            exact leading (by rw [zero]; rfl)
      rw [if_neg nonzero]
      exact digits_exact isDigits ends held

theorem fraction_exact {s : Scanner} {text : List Char} {r : List UInt8}
    (isFraction : Fraction text) (ends : Ends isDigit r) (noPoint : r.head? ≠ some '.'.toUInt8)
    (held : s.rest = utf8 text ++ r) : ∃ s', s.fraction = .ok s' ∧ Reads s text s' := by
  unfold fraction
  cases isFraction with
  | absent =>
      have front : s.peek ≠ some '.'.toUInt8 := by
        rw [peek, held]
        exact noPoint
      exact ⟨s, if_neg front, Reads.refl s⟩
  | present isDigits =>
      rcases bump_of_rest (by decide) held with ⟨readPoint, after⟩
      rw [if_pos (peek_of_rest (by decide) held)]
      rcases digits_exact isDigits ends after with ⟨s', ran, reads⟩
      exact ⟨s', ran, readPoint.trans reads⟩

theorem exponent_exact {s : Scanner} {text : List Char} {r : List UInt8}
    (isExponent : Exponent text) (ends : Ends extendsNumber r) (held : s.rest = utf8 text ++ r) :
    ∃ s', s.exponent = .ok s' ∧ Reads s text s' := by
  unfold exponent
  cases isExponent with
  | absent =>
      have front : ¬ (s.peek = some 'e'.toUInt8 ∨ s.peek = some 'E'.toUInt8) := by
        rw [peek, held]
        exact not_or.mpr ⟨ends.head_ne (by decide), ends.head_ne (by decide)⟩
      exact ⟨s, if_neg front, Reads.refl s⟩
  | @present e plus text letter signed isDigits =>
      have low : IsAscii e := by
        rcases letter with same | same <;> subst same <;> decide
      rcases bump_of_rest low held with ⟨readLetter, after⟩
      have found : s.peek = some 'e'.toUInt8 ∨ s.peek = some 'E'.toUInt8 := by
        rw [peek_of_rest low held]
        rcases letter with same | same <;> subst same <;> decide
      rw [if_pos found]
      rcases signed with none | some
      · subst none
        have unsigned : ¬ (s.bump.peek = Option.some '+'.toUInt8 ∨
            s.bump.peek = Option.some '-'.toUInt8) := by
          cases text with
          | nil => exact absurd rfl isDigits.1
          | cons c text =>
              have digit := isDigits.2 c List.mem_cons_self
              have ascii := digit_class.ascii c digit
              rw [peek_of_rest ascii after, Option.some_inj, Option.some_inj,
                toUInt8_inj ascii (by decide), toUInt8_inj ascii (by decide)]
              intro sign
              rcases sign with same | same
              · rw [same] at digit
                exact absurd digit (by decide)
              · rw [same] at digit
                exact absurd digit (by decide)
        rw [if_neg unsigned]
        rcases digits_exact isDigits ends.digit after with ⟨s', ran, reads⟩
        exact ⟨s', ran, readLetter.trans reads⟩
      · have mark : ∃ c, plus = [c] ∧ IsAscii c ∧ (c = '+' ∨ c = '-') := by
          rcases some with same | same
          · exact ⟨'+', same, by decide, .inl rfl⟩
          · exact ⟨'-', same, by decide, .inr rfl⟩
        rcases mark with ⟨c, one, ascii, isMark⟩
        subst one
        rcases bump_of_rest ascii after with ⟨readSign, later⟩
        have found : s.bump.peek = Option.some '+'.toUInt8 ∨
            s.bump.peek = Option.some '-'.toUInt8 := by
          rw [peek_of_rest ascii after]
          rcases isMark with same | same <;> subst same <;> decide
        rw [if_pos found]
        rcases digits_exact isDigits ends.digit later with ⟨s', ran, reads⟩
        exact ⟨s', ran, readLetter.trans (readSign.trans reads)⟩

theorem exponent_front {text : List Char} {r : List UInt8} (isExponent : Exponent text)
    (ends : Ends extendsNumber r) :
    Ends isDigit (utf8 text ++ r) ∧ (utf8 text ++ r).head? ≠ some '.'.toUInt8 := by
  cases isExponent with
  | absent => exact ⟨ends.digit, ends.head_ne (by decide)⟩
  | @present e plus text letter signed isDigits =>
      have low : IsAscii e := by
        rcases letter with same | same <;> subst same <;> decide
      refine ⟨ends_cons low ?_ _ r, ?_⟩
      · rcases letter with same | same <;> subst same <;> decide
      · rw [utf8_cons_ascii low, List.cons_append, List.head?_cons, ne_eq, Option.some_inj]
        rcases letter with same | same <;> subst same <;> decide

theorem fraction_front {text : List Char} {r : List UInt8} (isFraction : Fraction text)
    (ends : Ends isDigit r) : Ends isDigit (utf8 text ++ r) := by
  cases isFraction with
  | absent => exact ends
  | present isDigits => exact ends_cons (by decide) (by decide) _ r

theorem number_exact {s : Scanner} {text : List Char} {r : List UInt8} (isNumber : Number text)
    (ends : Ends extendsNumber r) (held : s.rest = utf8 text ++ r) :
    ∃ s', s.number = .ok s' ∧ Reads s text s' := by
  cases isNumber with
  | @mk minus whole part power negative isWhole isFraction isExponent =>
      rcases isWhole.lead with ⟨c, later, front, digit⟩
      have first : Reads s minus (if s.peek = some '-'.toUInt8 then s.bump else s) := by
        rcases negative with absent | present
        · subst absent
          have low := digit_class.ascii c digit
          have unsigned : s.peek ≠ some '-'.toUInt8 := by
            rw [front] at held
            rw [peek_of_rest low held, ne_eq, Option.some_inj, toUInt8_inj low (by decide)]
            intro same
            rw [same] at digit
            cases digit
          rw [if_neg unsigned]
          exact Reads.refl s
        · subst present
          rw [if_pos (peek_of_rest (by decide) held)]
          exact (bump_of_rest (by decide) held).1
      rw [utf8_append, List.append_assoc] at held
      have atWhole := first.rest_eq held
      rw [utf8_append, List.append_assoc] at atWhole
      have atFraction := exponent_front isExponent ends
      have behindWhole : Ends isDigit (utf8 (part ++ power) ++ r) := by
        rw [utf8_append, List.append_assoc]
        exact fraction_front isFraction atFraction.1
      rcases integer_exact isWhole behindWhole atWhole with ⟨s1, ranWhole, readWhole⟩
      have held1 := readWhole.rest_eq atWhole
      rw [utf8_append, List.append_assoc] at held1
      rcases fraction_exact isFraction atFraction.1 atFraction.2 held1 with ⟨s2, ranPart, readPart⟩
      rcases exponent_exact isExponent ends (readPart.rest_eq held1) with ⟨s3, ranPower, readPower⟩
      have reads := first.trans (readWhole.trans (readPart.trans readPower))
      have moved : s3.rest.length ≠ s.rest.length := by
        intro still
        have lengths := congrArg List.length reads.rest
        rw [List.length_append] at lengths
        have none : (utf8 (minus ++ (whole ++ (part ++ power)))).length = 0 := by omega
        rw [List.length_eq_zero_iff, utf8_eq_nil_iff, front] at none
        simp at none
      refine ⟨s3, ?_, reads⟩
      simp only [number, bind_ok_iff]
      exact ⟨s1, ranWhole, s2, ranPart, s3, ranPower, if_neg moved⟩

theorem literal_reads {word : List Char} (ascii : ∀ c ∈ word, IsAscii c) {s s' : Scanner}
    (ran : s.literal (utf8 word) = .ok s') : Reads s word s' := by
  induction word generalizing s with
  | nil =>
      cases ran
      exact Reads.refl _
  | cons c word ih =>
      have low := ascii c List.mem_cons_self
      rw [utf8_cons_ascii low, literal] at ran
      split at ran
      · cases ran
      · rename_i same
        have next := not_not.mp same
        exact (reads_bump low next).trans
          (ih (fun d member => ascii d (List.mem_cons_of_mem c member)) ran)

theorem literal_exact {word : List Char} (ascii : ∀ c ∈ word, IsAscii c) {s : Scanner}
    {r : List UInt8} (held : s.rest = utf8 word ++ r) :
    ∃ s', s.literal (utf8 word) = .ok s' ∧ Reads s word s' := by
  induction word generalizing s with
  | nil => exact ⟨s, rfl, Reads.refl s⟩
  | cons c word ih =>
      have low := ascii c List.mem_cons_self
      rcases bump_of_rest low held with ⟨first, after⟩
      rcases ih (fun d member => ascii d (List.mem_cons_of_mem c member)) after with
        ⟨s', ran, reads⟩
      refine ⟨s', ?_, first.trans reads⟩
      rw [utf8_cons_ascii low, literal, if_neg (not_not.mpr (peek_of_rest low held))]
      exact ran

end O7Formal.Contracts.Scanner
