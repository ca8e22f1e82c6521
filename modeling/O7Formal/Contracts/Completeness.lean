import O7Formal.Contracts.Soundness

/-! What the rules allow is accepted: a value the grammar spells is read to its end, as
long as all its parts keep the rules and nothing behind it would make a number longer. -/

namespace O7Formal.Contracts.Scanner

open Fallible Utf8 Json

theorem ends_blank {after : List Char} (isAfter : Blank after) {r : List UInt8}
    (ends : Ends extendsNumber r) : Ends extendsNumber (utf8 after ++ r) := by
  cases after with
  | nil => exact ends
  | cons c after =>
      have blank := isAfter c List.mem_cons_self
      have low := whitespace_class.ascii c blank
      refine ends_cons low ?_ after r
      exact ascii_forall (motive := fun c => isBlank c = true → extendsNumber c.toUInt8 = false)
        (by decide) low blank

theorem startsValue_facts {c : Char} (starts : startsValue c = true) :
    IsAscii c ∧ isWhitespace c.toUInt8 = false ∧ c.toUInt8 ≠ ']'.toUInt8 := by
  have low : IsAscii c := by
    simp only [startsValue, Bool.or_eq_true, beq_iff_eq] at starts
    rcases starts with ((((((same | same) | same) | same) | same) | same) | same) | digit
    case inr => exact digit_class.ascii c digit
    all_goals
      subst same
      decide
  have facts := ascii_forall (motive := fun c => startsValue c = true →
    isWhitespace c.toUInt8 = false ∧ c.toUInt8 ≠ ']'.toUInt8) (by decide) low starts
  exact ⟨low, facts⟩

theorem name_to_value {s : Scanner} {name : List Item} {lead gap later : List Char}
    {r : List UInt8} (isLead : Blank lead) (isGap : Blank gap)
    (held : s.rest = utf8 (lead ++ (quoted name ++ (gap ++ ':' :: later))) ++ r) :
    s.skipWhitespace.peek = some '"'.toUInt8 ∧
      ∃ length t, s.skipWhitespace.scanString = .ok (length, t) ∧
        t.skipWhitespace.peek = some ':'.toUInt8 ∧
        Reads s (lead ++ (quoted name ++ (gap ++ [':']))) t.skipWhitespace.bump ∧
        t.skipWhitespace.bump.rest = utf8 later ++ r := by
  rw [utf8_append, List.append_assoc] at held
  have skippedLead := skipWhitespace_exact isLead (ends_cons (by decide) (by decide) _ r) held
  have atName := skippedLead.rest_eq held
  refine ⟨peek_of_rest (by decide) atName, decodedLength name, ?_⟩
  rw [utf8_append, List.append_assoc] at atName
  rcases scanString_exact atName with ⟨t, ran, readName⟩
  have atGap := readName.rest_eq atName
  rw [utf8_append, List.append_assoc] at atGap
  have skippedGap := skipWhitespace_exact isGap (ends_cons (by decide) (by decide) _ r) atGap
  have atColon := skippedGap.rest_eq atGap
  rcases bump_of_rest (by decide) atColon with ⟨readColon, atValue⟩
  exact ⟨t, ran, peek_of_rest (by decide) atColon,
    skippedLead.trans (readName.trans (skippedGap.trans readColon)), atValue⟩

theorem opened {s : Scanner} {c : Char} {blank later : List Char} {r : List UInt8} (frame : Frame)
    (low : IsAscii c) (isBlank : Blank blank) (ends : Ends isWhitespace (utf8 later ++ r))
    (held : s.rest = utf8 (c :: (blank ++ later)) ++ r) :
    Reads (s.bump.push frame) blank (s.bump.push frame).skipWhitespace ∧
      (s.bump.push frame).skipWhitespace.rest = utf8 later ++ r ∧
      (s.bump.push frame).skipWhitespace.stack.length = s.stack.length + 1 ∧
      (s.bump.push frame).skipWhitespace.mode = s.mode := by
  have after := (bump_of_rest low held).2
  rw [utf8_append, List.append_assoc, ← push_rest s.bump frame] at after
  have skipped := skipWhitespace_exact isBlank ends after
  refine ⟨skipped, skipped.rest_eq after, ?_, ?_⟩
  · rw [skipped.stack, push_stack, bump_stack, List.length_cons]
  · rw [skipped.mode, push_mode, bump_mode]

/-- Every value the grammar spells and the rules allow is accepted, below at least
`frames` containers and in front of anything that does not continue a number. -/
def Complete (frames : Nat) (value : Scanner → Except Halt Scanner) : Prop :=
  ∀ ⦃s : Scanner⦄ ⦃v : Value⦄ ⦃blank text : List Char⦄ ⦃r : List UInt8⦄,
    frames ≤ s.stack.length → Blank blank → Spells v text → Fits s.mode s.stack.length v →
    s.rest = utf8 (blank ++ text) ++ r → Ends extendsNumber r →
    ∃ s', value s = .ok s' ∧ Reads s (blank ++ text) s'

theorem string_complete {s : Scanner} {items : List Item} {r : List UInt8}
    (short : s.mode = .admission → decodedLength items ≤ maxStringBytes)
    (held : s.rest = utf8 (quoted items) ++ r) :
    ∃ s', s.string = .ok (decodedLength items, s') ∧ Reads s (quoted items) s' := by
  rcases scanString_exact held with ⟨s', ran, reads⟩
  have within : ¬ (decodedLength items > maxStringBytes ∧ s'.mode = .admission) := by
    intro long
    have bound := short (reads.mode.symm.trans long.2)
    omega
  refine ⟨s', ?_, reads⟩
  simp only [string, bind_ok_iff]
  exact ⟨_, ran, if_neg within⟩

theorem numberLead_ascii {c : Char} (first : c = '-' ∨ c.isDigit = true) : IsAscii c := by
  rcases first with minus | digit
  · rw [minus]
    decide
  · exact digit_class.ascii c digit

theorem number_dispatch {value : Scanner → Except Halt Scanner} {s : Scanner} {c : Char}
    (first : c = '-' ∨ c.isDigit = true) (next : s.peek = some c.toUInt8) :
    s.dispatch value = s.number := by
  have facts := ascii_forall (motive := fun c => (c = '-' ∨ c.isDigit = true) →
    (¬ some c.toUInt8 = some '{'.toUInt8 ∧ ¬ some c.toUInt8 = some '['.toUInt8 ∧
      ¬ some c.toUInt8 = some '"'.toUInt8 ∧ ¬ some c.toUInt8 = some 't'.toUInt8 ∧
      ¬ some c.toUInt8 = some 'f'.toUInt8 ∧ ¬ some c.toUInt8 = some 'n'.toUInt8) ∧
      (some c.toUInt8 = some '-'.toUInt8 ∨ (some c.toUInt8).any isDigit = true)) (by decide)
    (numberLead_ascii first) first
  rcases facts with ⟨⟨brace, bracket, quote, isTrue, isFalse, isNull⟩, isNumber⟩
  rw [dispatch, next, if_neg brace, if_neg bracket, if_neg quote, if_neg isTrue, if_neg isFalse,
    if_neg isNull, if_pos isNumber]

section Complete

variable {value : Scanner → Except Halt Scanner} {frames : Nat} (complete : Complete frames value)

include complete

theorem value_to_mark {s : Scanner} {v : Value} {blank text after later : List Char} {c : Char}
    {r : List UInt8} (deep : frames ≤ s.stack.length) (isBlank : Blank blank)
    (spelled : Spells v text) (fits : Fits s.mode s.stack.length v) (isAfter : Blank after)
    (mark : c ∈ [',', ']', '}'])
    (held : s.rest = utf8 (blank ++ (text ++ (after ++ c :: later))) ++ r) :
    ∃ t, value s = .ok t ∧ Reads s (blank ++ (text ++ after)) t.skipWhitespace ∧
      t.skipWhitespace.rest = utf8 (c :: later) ++ r := by
  have front : s.rest = utf8 (blank ++ text) ++ (utf8 (after ++ c :: later) ++ r) := by
    rw [held]
    simp only [utf8_append, List.append_assoc]
  have facts : ∀ c ∈ [',', ']', '}'], IsAscii c ∧ isWhitespace c.toUInt8 = false ∧
      extendsNumber c.toUInt8 = false := forall_mem_of_all (by decide)
  rcases facts c mark with ⟨low, nonblank, ended⟩
  have stops := ends_blank isAfter (ends_cons low ended later r)
  rw [← List.append_assoc, ← utf8_append] at stops
  rcases complete deep isBlank spelled fits front stops with ⟨t, ran, reads⟩
  have rest := reads.rest_eq front
  rw [utf8_append, List.append_assoc] at rest
  have skipped := skipWhitespace_exact isAfter (ends_cons low nonblank later r) rest
  refine ⟨t, ran, ?_, skipped.rest_eq rest⟩
  rw [← List.append_assoc]
  exact reads.trans skipped

theorem value_to_comma {s : Scanner} {v : Value} {blank text after later : List Char}
    {r : List UInt8} (deep : frames ≤ s.stack.length) (isBlank : Blank blank)
    (spelled : Spells v text) (fits : Fits s.mode s.stack.length v) (isAfter : Blank after)
    (held : s.rest = utf8 (blank ++ (text ++ (after ++ ',' :: later))) ++ r) :
    ∃ t, value s = .ok t ∧ t.skipWhitespace.peek = some ','.toUInt8 ∧
      Reads s ((blank ++ (text ++ after)) ++ [',']) t.skipWhitespace.bump ∧
      t.skipWhitespace.bump.rest = utf8 later ++ r := by
  rcases value_to_mark complete deep isBlank spelled fits isAfter (by decide) held with
    ⟨t, ran, reads, rest⟩
  rcases bump_of_rest (by decide) rest with ⟨readComma, next⟩
  exact ⟨t, ran, peek_of_rest (by decide) rest, reads.trans readComma, next⟩

theorem arrayLoop_complete {elements : List Value} {body : List Char} {fuel before : Nat}
    {s : Scanner} {r : List UInt8} (listed : Elements elements body)
    (deep : frames ≤ s.stack.length)
    (count : s.mode = .admission → before + elements.length ≤ maxArrayLen)
    (inner : ∀ v ∈ elements, Fits s.mode s.stack.length v) (enough : (utf8 body).length < fuel)
    (held : s.rest = utf8 (body ++ [']']) ++ r) :
    ∃ s', arrayLoop value fuel before s = .ok s' ∧ Closes s (body ++ [']']) s' := by
  induction elements generalizing body fuel before s with
  | nil => cases listed
  | cons v elements ih =>
      cases fuel with
      | zero => exact absurd enough (Nat.not_lt_zero _)
      | succ fuel =>
          have deepIndex : frames ≤ (s.setIndex before).stack.length := by
            rw [setIndex_length]
            exact deep
          have fits : Fits (s.setIndex before).mode (s.setIndex before).stack.length v := by
            rw [setIndex_mode, setIndex_length]
            exact inner v List.mem_cons_self
          have within : ¬ (before + 1 > maxArrayLen ∧ s.mode = .admission) := by
            intro full
            have counted := count full.2
            rw [List.length_cons] at counted
            omega
          cases listed with
          | @last _ blank text after isBlank spelled isAfter =>
              have front : (s.setIndex before).rest =
                  utf8 (blank ++ (text ++ (after ++ [']']))) ++ r := by
                rw [setIndex_rest, held]
                simp
              rcases value_to_mark complete deepIndex isBlank spelled fits isAfter (by decide) front
                with ⟨t, ran, reads, rest⟩
              have bracket := peek_of_rest (by decide) rest
              refine ⟨_, arrayLoop_ok_iff.mpr ⟨within, t, ran, .inr ⟨bracket, rfl⟩⟩, ?_⟩
              exact (reads.closes (closes_pop (by decide) bracket)).of_setIndex
          | @more _ _ blank text after later isBlank spelled isAfter others =>
              have front : (s.setIndex before).rest =
                  utf8 (blank ++ (text ++ (after ++ ',' :: (later ++ [']'])))) ++ r := by
                rw [setIndex_rest, held]
                simp
              rcases value_to_comma complete deepIndex isBlank spelled fits isAfter front with
                ⟨t, ran, comma, toNext, next⟩
              have mode : t.skipWhitespace.bump.mode = s.mode := by rw [toNext.mode, setIndex_mode]
              have length : t.skipWhitespace.bump.stack.length = s.stack.length := by
                rw [toNext.stack, setIndex_length]
              have room : (utf8 later).length < fuel := by
                simp only [utf8_append, utf8_cons_ascii (show IsAscii ',' by decide),
                  List.length_append, List.length_cons] at enough
                omega
              have deepNext : frames ≤ t.skipWhitespace.bump.stack.length := length ▸ deep
              have counts : t.skipWhitespace.bump.mode = .admission →
                  before + 1 + elements.length ≤ maxArrayLen := by
                intro admits
                have counted := count (mode.symm.trans admits)
                rw [List.length_cons] at counted
                omega
              have innerNext : ∀ w ∈ elements, Fits t.skipWhitespace.bump.mode
                  t.skipWhitespace.bump.stack.length w := by
                intro w member
                rw [mode, length]
                exact inner w (List.mem_cons_of_mem v member)
              rcases ih others deepNext counts innerNext room next with ⟨s', ranOthers, closes⟩
              refine ⟨s', arrayLoop_ok_iff.mpr ⟨within, t, ran, .inl ⟨comma, ranOthers⟩⟩, ?_⟩
              have all := (toNext.closes closes).of_setIndex
              simpa using all

theorem objectLoop_complete {members : List (List Item × Value)} {body : List Char} {fuel : Nat}
    {s : Scanner} {r : List UInt8} (listed : Members members body)
    (deep : frames ≤ s.stack.length)
    (inner : ∀ member ∈ members, Fits s.mode s.stack.length member.2)
    (enough : (utf8 body).length < fuel) (held : s.rest = utf8 (body ++ ['}']) ++ r) :
    ∃ s', objectLoop value fuel s = .ok s' ∧ Closes s (body ++ ['}']) s' := by
  induction members generalizing body fuel s with
  | nil => cases listed
  | cons member members ih =>
      cases fuel with
      | zero => exact absurd enough (Nat.not_lt_zero _)
      | succ fuel =>
          cases listed with
          | @last name v lead gap blank text after isLead isGap isBlank spelled isAfter =>
              have front : s.rest = utf8 (lead ++ (quoted name ++ (gap ++ ':' ::
                  (blank ++ (text ++ (after ++ ['}'])))))) ++ r := by
                rw [held]
                simp
              rcases name_to_value isLead isGap front with
                ⟨quote, size, named, ranName, colon, toValue, atValue⟩
              have fits := inner (name, v) List.mem_cons_self
              rw [← toValue.mode, ← toValue.stack] at fits
              rcases value_to_mark complete (toValue.stack ▸ deep) isBlank spelled fits isAfter
                (by decide) atValue with ⟨t, ran, reads, rest⟩
              have brace := peek_of_rest (by decide) rest
              refine ⟨_, objectLoop_ok_iff.mpr
                ⟨quote, size, named, ranName, colon, t, ran, .inr ⟨brace, rfl⟩⟩, ?_⟩
              simpa using (toValue.trans reads).closes (closes_pop (by decide) brace)
          | @more name v _ lead gap blank text after later isLead isGap isBlank spelled isAfter
              others =>
              have front : s.rest = utf8 (lead ++ (quoted name ++ (gap ++ ':' ::
                  (blank ++ (text ++ (after ++ ',' :: (later ++ ['}']))))))) ++ r := by
                rw [held]
                simp
              rcases name_to_value isLead isGap front with
                ⟨quote, size, named, ranName, colon, toValue, atValue⟩
              have fits := inner (name, v) List.mem_cons_self
              rw [← toValue.mode, ← toValue.stack] at fits
              rcases value_to_comma complete (toValue.stack ▸ deep) isBlank spelled fits isAfter
                atValue with ⟨t, ran, comma, reads, next⟩
              have toNext := toValue.trans reads
              have room : (utf8 later).length < fuel := by
                simp only [utf8_append, utf8_cons_ascii (show IsAscii ':' by decide),
                  utf8_cons_ascii (show IsAscii ',' by decide), List.length_append,
                  List.length_cons] at enough
                omega
              have innerNext : ∀ other ∈ members, Fits t.skipWhitespace.bump.mode
                  t.skipWhitespace.bump.stack.length other.2 := by
                intro other listed
                rw [toNext.mode, toNext.stack]
                exact inner other (List.mem_cons_of_mem _ listed)
              rcases ih others (toNext.stack ▸ deep) innerNext room next with
                ⟨s', ranOthers, closes⟩
              refine ⟨s', objectLoop_ok_iff.mpr
                ⟨quote, size, named, ranName, colon, t, ran, .inl ⟨comma, ranOthers⟩⟩, ?_⟩
              simpa using toNext.closes closes

theorem array_complete {s : Scanner} {elements : List Value} {text : List Char} {r : List UInt8}
    (spelled : Spells (.array elements) text) (deep : frames ≤ s.stack.length + 1)
    (count : s.mode = .admission → elements.length ≤ maxArrayLen)
    (inner : ∀ v ∈ elements, Fits s.mode (s.stack.length + 1) v)
    (held : s.rest = utf8 text ++ r) : ∃ s', s.array value = .ok s' ∧ Reads s text s' := by
  unfold array
  cases spelled with
  | @emptyArray body isBlank =>
      rcases opened (.array 0) (by decide) isBlank (ends_cons (by decide) (by decide) _ r) held with
        ⟨skipped, rest, _, _⟩
      have bracket := peek_of_rest (by decide) rest
      refine ⟨_, if_pos bracket, ?_⟩
      exact reads_container (by decide) (peek_of_rest (by decide) held)
        (skipped.closes (closes_pop (by decide) bracket))
  | @array _ body listed =>
      rcases listed.lead with ⟨blank, c, later, isBlank, same, starts, trimmed⟩
      rcases startsValue_facts starts with ⟨low, nonblank, unclosed⟩
      rw [same, List.append_assoc] at held ⊢
      have ends : Ends isWhitespace (utf8 (c :: later ++ [']']) ++ r) := ends_cons low nonblank _ r
      rcases opened (.array 0) (by decide) isBlank ends held with
        ⟨skipped, rest, length, mode⟩
      have more : (s.bump.push (.array 0)).skipWhitespace.peek ≠ some ']'.toUInt8 := by
        rw [peek_of_rest low rest, ne_eq, Option.some_inj]
        exact unclosed
      have room : (utf8 (c :: later)).length <
          (s.bump.push (.array 0)).skipWhitespace.rest.length + 1 := by
        rw [rest, utf8_append, List.length_append, List.length_append]
        omega
      rw [← mode] at count
      rw [← mode, ← length] at inner
      rw [← Nat.zero_add elements.length] at count
      rcases arrayLoop_complete complete trimmed (length ▸ deep) count inner room rest with
        ⟨s', ran, closes⟩
      rw [if_neg more]
      exact ⟨s', ran, reads_container (by decide) (peek_of_rest (by decide) held)
        (skipped.closes closes)⟩

theorem object_complete {s : Scanner} {members : List (List Item × Value)} {text : List Char}
    {r : List UInt8} (spelled : Spells (.object members) text)
    (deep : frames ≤ s.stack.length + 1)
    (inner : ∀ member ∈ members, Fits s.mode (s.stack.length + 1) member.2)
    (held : s.rest = utf8 text ++ r) : ∃ s', s.object value = .ok s' ∧ Reads s text s' := by
  unfold object
  cases spelled with
  | @emptyObject body isBlank =>
      rcases opened .object (by decide) isBlank (ends_cons (by decide) (by decide) _ r) held with
        ⟨skipped, rest, _, _⟩
      have brace := peek_of_rest (by decide) rest
      refine ⟨_, if_pos brace, ?_⟩
      exact reads_container (by decide) (peek_of_rest (by decide) held)
        (skipped.closes (closes_pop (by decide) brace))
  | @object _ body listed =>
      rcases listed.lead with ⟨blank, later, isBlank, same, trimmed⟩
      rw [same, List.append_assoc] at held ⊢
      have ends : Ends isWhitespace (utf8 ('"' :: later ++ ['}']) ++ r) :=
        ends_cons (by decide) (by decide) _ r
      rcases opened .object (by decide) isBlank ends held with
        ⟨skipped, rest, length, mode⟩
      have more : (s.bump.push .object).skipWhitespace.peek ≠ some '}'.toUInt8 := by
        rw [peek_of_rest (by decide) rest]
        decide
      have room : (utf8 ('"' :: later)).length <
          (s.bump.push .object).skipWhitespace.rest.length + 1 := by
        rw [rest, utf8_append, List.length_append, List.length_append]
        omega
      rw [← mode, ← length] at inner
      rcases objectLoop_complete complete trimmed (length ▸ deep) inner room rest with
        ⟨s', ran, closes⟩
      rw [if_neg more]
      exact ⟨s', ran, reads_container (by decide) (peek_of_rest (by decide) held)
        (skipped.closes closes)⟩

/-- Where `dispatch` goes is decided by the first character of the value. -/
theorem dispatch_complete {s : Scanner} {v : Value} {text : List Char} {r : List UInt8}
    (deep : frames ≤ s.stack.length + 1) (spelled : Spells v text)
    (fits : Fits s.mode s.stack.length v) (held : s.rest = utf8 text ++ r)
    (ends : Ends extendsNumber r) : ∃ s', s.dispatch value = .ok s' ∧ Reads s text s' := by
  rcases fits_iff.mp fits with ⟨_, bounded, inner⟩
  cases v with
  | null =>
      cases spelled
      have next : s.peek = some 'n'.toUInt8 := peek_of_rest (by decide) held
      rcases literal_exact (forall_mem_of_all (by decide)) held with ⟨t, ran, reads⟩
      have probe : t.mode = .probe := by
        cases mode : s.mode with
        | admission => exact (bounded mode).elim
        | probe => rw [reads.mode, mode]
      refine ⟨t, ?_, reads⟩
      rw [dispatch, next, if_neg (by decide), if_neg (by decide), if_neg (by decide),
        if_neg (by decide), if_neg (by decide), if_pos rfl, bind_ok_iff]
      exact ⟨t, ran, by rw [probe]⟩
  | bool b =>
      cases spelled
      cases b with
      | true =>
          have next : s.peek = some 't'.toUInt8 := peek_of_rest (by decide) held
          rw [dispatch, next, if_neg (by decide), if_neg (by decide), if_neg (by decide),
            if_pos rfl]
          exact literal_exact (forall_mem_of_all (by decide)) held
      | false =>
          have next : s.peek = some 'f'.toUInt8 := peek_of_rest (by decide) held
          rw [dispatch, next, if_neg (by decide), if_neg (by decide), if_neg (by decide),
            if_neg (by decide), if_pos rfl]
          exact literal_exact (forall_mem_of_all (by decide)) held
  | number literal =>
      cases spelled
      rcases literal.property.lead with ⟨c, later, same, first⟩
      have next : s.peek = some c.toUInt8 := by
        rw [same] at held
        exact peek_of_rest (numberLead_ascii first) held
      rw [number_dispatch first next]
      exact number_exact literal.property ends held
  | string items =>
      cases spelled
      have next : s.peek = some '"'.toUInt8 := peek_of_rest (by decide) held
      rcases string_complete bounded held with ⟨s', ran, reads⟩
      refine ⟨s', ?_, reads⟩
      rw [dispatch, next, if_neg (by decide), if_neg (by decide), if_pos rfl, ran]
      rfl
  | array elements =>
      have next : s.peek = some '['.toUInt8 := by
        cases spelled <;> exact peek_of_rest (by decide) held
      rw [dispatch, next, if_neg (by decide), if_pos rfl]
      exact array_complete complete spelled deep bounded inner held
  | object members =>
      have next : s.peek = some '{'.toUInt8 := by
        cases spelled <;> exact peek_of_rest (by decide) held
      rw [dispatch, next, if_pos rfl]
      apply object_complete complete spelled deep _ held
      intro member listed
      exact inner member.2 (List.mem_map.mpr ⟨member, listed, rfl⟩)

end Complete

theorem value_complete (calls : Nat) : Complete (maxJsonDepth + 1 - calls) (value calls) := by
  induction calls with
  | zero =>
      intro s v blank text r deep _ _ fits _ _
      have room := (fits 1 v (.root v)).1
      omega
  | succ calls ih =>
      intro s v blank text r deep isBlank spelled fits held ends
      rcases spelled.lead with ⟨c, later, same, starts⟩
      rcases startsValue_facts starts with ⟨low, nonblank, _⟩
      rw [utf8_append, List.append_assoc] at held
      have front : Ends isWhitespace (utf8 text ++ r) := by
        rw [same]
        exact ends_cons low nonblank later r
      have skipped := skipWhitespace_exact isBlank front held
      have room : ¬ s.skipWhitespace.stack.length + 1 > maxJsonDepth := by
        rw [skipped.stack]
        exact Nat.not_lt.mpr (fits 1 v (.root v)).1
      rw [← skipped.mode, ← skipped.stack] at fits
      have below : maxJsonDepth + 1 - calls ≤ s.skipWhitespace.stack.length + 1 := by
        rw [skipped.stack]
        omega
      rcases dispatch_complete ih below spelled fits (skipped.rest_eq held) ends with
        ⟨s', ran, reads⟩
      refine ⟨s', ?_, skipped.trans reads⟩
      rw [value, if_neg room]
      exact ran

end O7Formal.Contracts.Scanner
