import O7Formal.Contracts.StringLiteral

/-! What an accepted run has read: a value the grammar spells, all of whose parts keep the
depth, array, string and null rules of the mode the scan ran in. -/

namespace O7Formal.Contracts.Scanner

open Fallible Utf8 Json

def Bounded : Value → Prop
  | .null => False
  | .string items => decodedLength items ≤ maxStringBytes
  | .array elements => elements.length ≤ maxArrayLen
  | _ => True

def Fits (mode : Mode) (frames : Nat) (v : Value) : Prop :=
  ∀ depth part, Occurs v depth part →
    frames + depth ≤ maxJsonDepth ∧ (mode = .admission → Bounded part)

theorem fits_iff {mode : Mode} {frames : Nat} {v : Value} :
    Fits mode frames v ↔ frames + 1 ≤ maxJsonDepth ∧ (mode = .admission → Bounded v) ∧
      ∀ child ∈ v.children, Fits mode (frames + 1) child := by
  constructor
  · intro fits
    have here := fits 1 v (.root v)
    refine ⟨here.1, here.2, ?_⟩
    intro child below depth part inside
    have deeper := fits (depth + 1) part (occurs_iff.mpr (.inr ⟨child, below, depth, rfl, inside⟩))
    exact ⟨by omega, deeper.2⟩
  · intro rules depth part occurs
    rcases rules with ⟨room, bounded, inner⟩
    rcases occurs_iff.mp occurs with ⟨same, root⟩ | ⟨child, below, d, same, inside⟩
    · rw [same, root]
      exact ⟨room, bounded⟩
    · have deeper := inner child below d part inside
      exact ⟨by omega, deeper.2⟩

/-- Like `Reads`, and the container on top of the stack was closed. -/
structure Closes (s : Scanner) (text : List Char) (s' : Scanner) : Prop where
  rest : s.rest = utf8 text ++ s'.rest
  stack : s'.stack = s.stack.tail
  mode : s'.mode = s.mode

theorem Reads.closes {s t u : Scanner} {before after : List Char} (first : Reads s before t)
    (second : Closes t after u) : Closes s (before ++ after) u := by
  constructor
  · rw [first.rest, second.rest, utf8_append, List.append_assoc]
  · rw [second.stack, first.stack]
  · rw [second.mode, first.mode]

theorem closes_pop {s : Scanner} {c : Char} (low : IsAscii c) (next : s.peek = some c.toUInt8) :
    Closes s [c] s.bump.pop := by
  have reads := reads_bump low next
  exact ⟨reads.rest, by simp [pop], reads.mode⟩

@[simp] theorem push_rest (s : Scanner) (frame : Frame) : (s.push frame).rest = s.rest := rfl

@[simp] theorem push_stack (s : Scanner) (frame : Frame) :
    (s.push frame).stack = frame :: s.stack := rfl

@[simp] theorem push_mode (s : Scanner) (frame : Frame) : (s.push frame).mode = s.mode := rfl

theorem reads_container {s s' : Scanner} {c : Char} {body : List Char} {frame : Frame}
    (low : IsAscii c) (next : s.peek = some c.toUInt8)
    (closes : Closes (s.bump.push frame) body s') : Reads s (c :: body) s' := by
  have first := reads_bump low next
  constructor
  · rw [first.rest, utf8_cons_ascii low, utf8_cons_ascii low, List.cons_append, List.cons_append,
      ← closes.rest]
    rfl
  · simpa using closes.stack
  · simpa using closes.mode

@[simp] theorem setIndex_rest (s : Scanner) (index : Nat) : (s.setIndex index).rest = s.rest := by
  unfold setIndex
  split <;> rfl

@[simp] theorem setIndex_mode (s : Scanner) (index : Nat) : (s.setIndex index).mode = s.mode := by
  unfold setIndex
  split <;> rfl

@[simp] theorem setIndex_tail (s : Scanner) (index : Nat) :
    (s.setIndex index).stack.tail = s.stack.tail := by
  unfold setIndex
  split
  · rename_i top
    rw [top]
    rfl
  · rfl

@[simp] theorem setIndex_length (s : Scanner) (index : Nat) :
    (s.setIndex index).stack.length = s.stack.length := by
  unfold setIndex
  split
  · rename_i top
    rw [top]
    rfl
  · rfl

theorem Closes.of_setIndex {s s' : Scanner} {index : Nat} {text : List Char}
    (closes : Closes (s.setIndex index) text s') : Closes s text s' := by
  constructor
  · rw [← setIndex_rest s index]
    exact closes.rest
  · rw [← setIndex_tail s index]
    exact closes.stack
  · rw [← setIndex_mode s index]
    exact closes.mode

def Valid (s : Scanner) : Prop := ∃ text, s.rest = utf8 text

theorem Reads.valid {s s' : Scanner} {text : List Char} (reads : Reads s text s')
    (valid : Valid s) : Valid s' := by
  rcases valid with ⟨all, held⟩
  rcases utf8_split (held.symm.trans reads.rest) with ⟨after, _, rest⟩
  exact ⟨after, rest⟩

/-- How a container goes on after a value: with the next one behind a comma, or closed. -/
def GoesOn (close : Char) (again : Scanner → Except Halt Scanner) (t s' : Scanner) : Prop :=
  (t.skipWhitespace.peek = some ','.toUInt8 ∧ again t.skipWhitespace.bump = .ok s') ∨
    (t.skipWhitespace.peek = some close.toUInt8 ∧ t.skipWhitespace.bump.pop = s')

private theorem goesOn_iff {close : Char} (low : IsAscii close) (differs : close ≠ ',')
    {again : Scanner → Except Halt Scanner} {t s' : Scanner} :
    (if t.skipWhitespace.peek = some ','.toUInt8 then again t.skipWhitespace.bump
      else if t.skipWhitespace.peek = some close.toUInt8 then .ok t.skipWhitespace.bump.pop
      else .error t.skipWhitespace.syntaxError) = .ok s' ↔ GoesOn close again t s' := by
  have other : close.toUInt8 ≠ ','.toUInt8 := by rwa [ne_eq, toUInt8_inj low (by decide)]
  unfold GoesOn
  split_ifs with comma closing
  · simp [comma, other.symm]
  · simp [closing, other]
  · simp [comma, closing]

theorem arrayLoop_ok_iff {value : Scanner → Except Halt Scanner} {fuel before : Nat}
    {s s' : Scanner} :
    arrayLoop value (fuel + 1) before s = .ok s' ↔
      ¬ (before + 1 > maxArrayLen ∧ s.mode = .admission) ∧ ∃ t, value (s.setIndex before) = .ok t ∧
        GoesOn ']' (arrayLoop value fuel (before + 1)) t s' := by
  simp only [arrayLoop, bind_ok_iff, refuseIf_ok_iff, ← goesOn_iff (by decide : IsAscii ']')
    (by decide), Nat.add_sub_cancel, exists_and_left, exists_const]

theorem objectLoop_ok_iff {value : Scanner → Except Halt Scanner} {fuel : Nat} {s s' : Scanner} :
    objectLoop value (fuel + 1) s = .ok s' ↔
      s.skipWhitespace.peek = some '"'.toUInt8 ∧
      ∃ length t, s.skipWhitespace.scanString = .ok (length, t) ∧
        t.skipWhitespace.peek = some ':'.toUInt8 ∧
        ∃ u, value t.skipWhitespace.bump = .ok u ∧ GoesOn '}' (objectLoop value fuel) u s' := by
  simp only [objectLoop, bind_ok_iff, refuseIf_ok_iff, not_not,
    ← goesOn_iff (by decide : IsAscii '}') (by decide), exists_and_left, exists_const,
    Prod.exists]

def Sound (value : Scanner → Except Halt Scanner) : Prop :=
  ∀ ⦃s s' : Scanner⦄, Valid s → value s = .ok s' →
    ∃ v blank text, Blank blank ∧ Spells v text ∧ Fits s.mode s.stack.length v ∧
      Reads s (blank ++ text) s'

section Sound

variable {value : Scanner → Except Halt Scanner} (sound : Sound value)

include sound

theorem arrayLoop_sound {fuel before : Nat} {s s' : Scanner} (valid : Valid s)
    (ran : arrayLoop value fuel before s = .ok s') :
    ∃ elements body, Elements elements body ∧
      (s.mode = .admission → before + elements.length ≤ maxArrayLen) ∧
      (∀ v ∈ elements, Fits s.mode s.stack.length v) ∧ Closes s (body ++ [']']) s' := by
  induction fuel generalizing before s with
  | zero => cases ran
  | succ fuel ih =>
      rcases arrayLoop_ok_iff.mp ran with ⟨within, t, ranValue, goesOn⟩
      have validIndex : Valid (s.setIndex before) := by simpa [Valid] using valid
      rcases sound validIndex ranValue with ⟨v, blank, text, isBlank, spelled, fits, reads⟩
      rcases skipWhitespace_reads t with ⟨after, isAfter, skipped⟩
      have toMark := reads.trans skipped
      rw [setIndex_mode, setIndex_length] at fits
      rcases goesOn with ⟨comma, ran⟩ | ⟨bracket, popped⟩
      · have toNext := toMark.trans (reads_bump (by decide) comma)
        rcases ih (toNext.valid validIndex) ran with ⟨elements, body, listed, count, inner, closes⟩
        have mode : t.skipWhitespace.bump.mode = s.mode := by rw [toNext.mode, setIndex_mode]
        have length : t.skipWhitespace.bump.stack.length = s.stack.length := by
          rw [toNext.stack, setIndex_length]
        rw [mode] at count
        rw [mode, length] at inner
        refine ⟨v :: elements, _, .more isBlank spelled isAfter listed, ?_, ?_, ?_⟩
        · intro admits
          have counted := count admits
          rw [List.length_cons]
          omega
        · exact List.forall_mem_cons.mpr ⟨fits, inner⟩
        · have all := (toNext.closes closes).of_setIndex
          simpa using all
      · subst popped
        refine ⟨[v], _, .last isBlank spelled isAfter, ?_, ?_, ?_⟩
        · intro admits
          have counted : ¬ before + 1 > maxArrayLen := fun many => within ⟨many, admits⟩
          rw [List.length_singleton]
          omega
        · simpa using fits
        · have all := (toMark.closes (closes_pop (by decide) bracket)).of_setIndex
          simpa using all

theorem objectLoop_sound {fuel : Nat} {s s' : Scanner} (valid : Valid s)
    (ran : objectLoop value fuel s = .ok s') :
    ∃ members body, Members members body ∧
      (∀ member ∈ members, Fits s.mode s.stack.length member.2) ∧ Closes s (body ++ ['}']) s' := by
  induction fuel generalizing s with
  | zero => cases ran
  | succ fuel ih =>
      rcases objectLoop_ok_iff.mp ran with ⟨quote, _, named, ranName, colon, t, ranValue, goesOn⟩
      rcases skipWhitespace_reads s with ⟨lead, isLead, skippedLead⟩
      rcases skippedLead.valid valid with ⟨text, held⟩
      rcases scanString_reads held quote ranName with ⟨name, _, readName⟩
      rcases skipWhitespace_reads named with ⟨gap, isGap, skippedGap⟩
      have toValue := (skippedLead.trans readName).trans
        (skippedGap.trans (reads_bump (by decide) colon))
      rcases sound (toValue.valid valid) ranValue with
        ⟨v, blank, text, isBlank, spelled, fits, readValue⟩
      rw [toValue.mode, toValue.stack] at fits
      rcases skipWhitespace_reads t with ⟨after, isAfter, skipped⟩
      have toMark := toValue.trans (readValue.trans skipped)
      rcases goesOn with ⟨comma, ran⟩ | ⟨brace, popped⟩
      · have toNext := toMark.trans (reads_bump (by decide) comma)
        rcases ih (toNext.valid valid) ran with ⟨members, body, listed, inner, closes⟩
        rw [toNext.mode, toNext.stack] at inner
        refine ⟨(name, v) :: members, _, .more isLead isGap isBlank spelled isAfter listed, ?_, ?_⟩
        · exact List.forall_mem_cons.mpr ⟨fits, inner⟩
        · simpa using toNext.closes closes
      · subst popped
        refine ⟨[(name, v)], _, .last isLead isGap isBlank spelled isAfter, ?_, ?_⟩
        · simpa using fits
        · simpa using toMark.closes (closes_pop (by decide) brace)

theorem array_sound {s s' : Scanner} (valid : Valid s) (bracket : s.peek = some '['.toUInt8)
    (ran : s.array value = .ok s') :
    ∃ elements text, Spells (.array elements) text ∧
      (s.mode = .admission → elements.length ≤ maxArrayLen) ∧
      (∀ v ∈ elements, Fits s.mode (s.stack.length + 1) v) ∧ Reads s text s' := by
  rcases skipWhitespace_reads (s.bump.push (.array 0)) with ⟨blank, isBlank, skipped⟩
  have opened : Valid (s.bump.push (.array 0)) := (reads_bump (by decide) bracket).valid valid
  unfold array at ran
  dsimp only at ran
  split at ran
  · rename_i closing
    cases ran
    have closes := skipped.closes (closes_pop (by decide) closing)
    exact ⟨[], _, .emptyArray isBlank, fun _ => Nat.zero_le _, by simp,
      reads_container (by decide) bracket closes⟩
  · rcases arrayLoop_sound sound (skipped.valid opened) ran with
      ⟨elements, body, listed, count, inner, closes⟩
    rw [skipped.mode, push_mode, bump_mode, Nat.zero_add] at count
    rw [skipped.mode, push_mode, bump_mode, skipped.stack, push_stack, bump_stack,
      List.length_cons] at inner
    have all := skipped.closes closes
    rw [← List.append_assoc] at all
    exact ⟨elements, _, .array (listed.prepend isBlank), count, inner,
      reads_container (by decide) bracket all⟩

theorem object_sound {s s' : Scanner} (valid : Valid s) (brace : s.peek = some '{'.toUInt8)
    (ran : s.object value = .ok s') :
    ∃ members text, Spells (.object members) text ∧
      (∀ member ∈ members, Fits s.mode (s.stack.length + 1) member.2) ∧ Reads s text s' := by
  rcases skipWhitespace_reads (s.bump.push .object) with ⟨blank, isBlank, skipped⟩
  have opened : Valid (s.bump.push .object) := (reads_bump (by decide) brace).valid valid
  unfold object at ran
  dsimp only at ran
  split at ran
  · rename_i closing
    cases ran
    have closes := skipped.closes (closes_pop (by decide) closing)
    exact ⟨[], _, .emptyObject isBlank, by simp, reads_container (by decide) brace closes⟩
  · rcases objectLoop_sound sound (skipped.valid opened) ran with
      ⟨members, body, listed, inner, closes⟩
    rw [skipped.mode, push_mode, bump_mode, skipped.stack, push_stack, bump_stack,
      List.length_cons] at inner
    have all := skipped.closes closes
    rw [← List.append_assoc] at all
    exact ⟨members, _, .object (listed.prepend isBlank), inner,
      reads_container (by decide) brace all⟩

end Sound

theorem fits_scalar {s : Scanner} {v : Value} (scalar : v.children = [])
    (room : s.stack.length + 1 ≤ maxJsonDepth) (bounded : s.mode = .admission → Bounded v) :
    Fits s.mode s.stack.length v := by
  apply fits_iff.mpr
  refine ⟨room, bounded, ?_⟩
  rw [scalar]
  simp

theorem string_sound {s s' : Scanner} {length : Nat} (valid : Valid s)
    (quote : s.peek = some '"'.toUInt8) (ran : s.string = .ok (length, s')) :
    ∃ items, (s.mode = .admission → decodedLength items ≤ maxStringBytes) ∧
      Reads s (quoted items) s' := by
  rcases valid with ⟨text, held⟩
  simp only [string, bind_ok_iff] at ran
  rcases ran with ⟨⟨measured, after⟩, scanned, ended⟩
  rcases scanString_reads held quote scanned with ⟨items, same, reads⟩
  dsimp only at ended
  split at ended
  · cases ended
  · rename_i within
    cases ended
    refine ⟨items, ?_, reads⟩
    intro admits
    have short : ¬ length > maxStringBytes := fun long => within ⟨long, reads.mode.trans admits⟩
    omega

theorem dispatch_sound {value : Scanner → Except Halt Scanner} (sound : Sound value)
    {s s' : Scanner} (valid : Valid s) (room : s.stack.length + 1 ≤ maxJsonDepth)
    (ran : s.dispatch value = .ok s') :
    ∃ v text, Spells v text ∧ Fits s.mode s.stack.length v ∧ Reads s text s' := by
  unfold dispatch at ran
  split_ifs at ran with brace bracket quote isTrue isFalse isNull isNumber
  · rcases object_sound sound valid brace ran with ⟨members, text, spelled, inner, reads⟩
    refine ⟨_, text, spelled, fits_iff.mpr ⟨room, fun _ => trivial, ?_⟩, reads⟩
    intro child below
    rcases List.mem_map.mp below with ⟨member, listed, same⟩
    rw [← same]
    exact inner member listed
  · rcases array_sound sound valid bracket ran with ⟨elements, text, spelled, count, inner, reads⟩
    exact ⟨_, text, spelled, fits_iff.mpr ⟨room, count, inner⟩, reads⟩
  · cases scanned : s.string with
    | error halt =>
        rw [scanned] at ran
        cases ran
    | ok result =>
        rw [scanned] at ran
        cases ran
        rcases string_sound valid quote scanned with ⟨items, short, reads⟩
        exact ⟨.string items, _, .string items, fits_scalar rfl room short, reads⟩
  · exact ⟨.bool true, _, .bool true, fits_scalar rfl room (fun _ => trivial),
      literal_reads (forall_mem_of_all (by decide)) ran⟩
  · exact ⟨.bool false, _, .bool false, fits_scalar rfl room (fun _ => trivial),
      literal_reads (forall_mem_of_all (by decide)) ran⟩
  · rcases bind_ok_iff.mp ran with ⟨t, scanned, ended⟩
    have reads := literal_reads (forall_mem_of_all (by decide)) scanned
    split at ended
    · cases ended
    · rename_i probe
      cases ended
      have mode : s.mode ≠ .admission := by
        rw [← reads.mode, probe]
        decide
      exact ⟨.null, _, .null, fits_scalar rfl room (fun admits => absurd admits mode), reads⟩
  · rcases number_reads ran with ⟨text, number, reads⟩
    exact ⟨.number ⟨text, number⟩, _, .number _, fits_scalar rfl room (fun _ => trivial), reads⟩

theorem value_sound (calls : Nat) : Sound (value calls) := by
  induction calls with
  | zero =>
      intro s s' _ ran
      cases ran
  | succ calls ih =>
      intro s s' valid ran
      rcases skipWhitespace_reads s with ⟨blank, isBlank, skipped⟩
      rw [value] at ran
      split at ran
      · split at ran <;> cases ran
      · rename_i room
        rcases dispatch_sound ih (skipped.valid valid) (Nat.not_lt.mp room) ran with
          ⟨v, text, spelled, fits, reads⟩
        rw [skipped.mode, skipped.stack] at fits
        exact ⟨v, blank, text, isBlank, spelled, fits, skipped.trans reads⟩

end O7Formal.Contracts.Scanner
