import O7Formal.Contracts.Reading

/-! The scan of a string literal: which byte strings it accepts and that the length it
returns is the UTF-8 length of what the literal decodes to. The bytes of one character
may take several turns of the loop; an escape takes one, and a surrogate pair takes one
for both of its escapes. -/

namespace O7Formal.Contracts.Scanner

open Fallible Utf8 Json PrefixCode

@[simp] theorem bumps_rest (count : Nat) (s : Scanner) :
    (bump^[count] s).rest = s.rest.drop count := by
  induction count generalizing s with
  | zero => rfl
  | succ count ih => rw [Function.iterate_succ_apply, ih, bump_rest, List.drop_tail]

@[simp] theorem bumps_stack (count : Nat) (s : Scanner) : (bump^[count] s).stack = s.stack := by
  induction count generalizing s with
  | zero => rfl
  | succ count ih => rw [Function.iterate_succ_apply, ih, bump_stack]

@[simp] theorem bumps_mode (count : Nat) (s : Scanner) : (bump^[count] s).mode = s.mode := by
  induction count generalizing s with
  | zero => rfl
  | succ count ih => rw [Function.iterate_succ_apply, ih, bump_mode]

theorem reads_bumps {s : Scanner} {text : List Char} {r : List UInt8} {count : Nat}
    (length : (utf8 text).length = count) (held : s.rest = utf8 text ++ r) :
    Reads s text (bump^[count] s) := by
  refine ⟨?_, bumps_stack count s, bumps_mode count s⟩
  rw [bumps_rest, held, ← length, List.drop_left]

theorem length_digits (unit : CodeUnit) : (utf8 unit.digits).length = 4 := by
  rw [length_utf8_ascii unit.ascii, unit.four]

theorem utf8_same_length {text other : List Char} {r t : List UInt8}
    (lengths : text.length = other.length) (same : utf8 text ++ r = utf8 other ++ t) :
    text = other ∧ r = t :=
  decodes_utf8EncodeChar.flatMap text other r t (fun _ _ => trivial) (fun _ _ => trivial)
    lengths same

private theorem hex4At_four (a b c d : UInt8) (r : List UInt8) :
    hex4At (a :: b :: c :: d :: r) =
      hexNumber ([a, b, c, d].map fun byte => Char.ofNat byte.toNat) := by
  have range : List.range 4 = [0, 1, 2, 3] := rfl
  simp [hex4At, hexNumber, range, List.foldlM_cons, Option.map_eq_bind]

theorem hex4At_reads {input : List UInt8} {value : Nat} (found : hex4At input = some value) :
    ∃ unit : CodeUnit, unit.value = value ∧ ∃ r, input = utf8 unit.digits ++ r := by
  rcases input with _ | ⟨a, _ | ⟨b, _ | ⟨c, _ | ⟨d, r⟩⟩⟩⟩
  case cons.cons.cons.cons =>
    rw [hex4At_four] at found
    refine ⟨⟨_, value, by simp, found⟩, rfl, r, ?_⟩
    rw [utf8_map_ofNat (hexFold_some found).1]
    rfl
  all_goals
    have range : List.range 4 = [0, 1, 2, 3] := rfl
    simp [hex4At, range] at found

theorem hex4At_exact (unit : CodeUnit) (r : List UInt8) :
    hex4At (utf8 unit.digits ++ r) = some unit.value := by
  rcases unit with ⟨digits, value, four, names⟩
  have ascii := (hexFold_some names).1
  rcases List.length_eq_four.mp four with ⟨a, b, c, d, same⟩
  subst same
  simp only [List.forall_mem_cons, List.not_mem_nil] at ascii
  rcases ascii with ⟨lowA, lowB, lowC, lowD, _⟩
  have bytes : utf8 [a, b, c, d] ++ r =
      a.toUInt8 :: b.toUInt8 :: c.toUInt8 :: d.toUInt8 :: r := by
    rw [utf8_cons_ascii lowA, utf8_cons_ascii lowB, utf8_cons_ascii lowC, utf8_cons_ascii lowD]
    rfl
  rw [bytes, hex4At_four]
  simp only [List.map_cons, List.map_nil, ofNat_toUInt8, lowA, lowB, lowC, lowD]
  exact names

/-- The escape of a low surrogate stands at the front of `bytes`. -/
def LowFollows (bytes : List UInt8) : Prop :=
  ∃ low : CodeUnit, low.isLow = true ∧ ∃ r, bytes = utf8 ('\\' :: 'u' :: low.digits) ++ r

theorem paired_iff (s : Scanner) :
    (s.peek = some '\\'.toUInt8 ∧ s.rest[1]? = some 'u'.toUInt8 ∧
      (hex4At (s.rest.drop 2)).any (fun low => 0xDC00 ≤ low && low ≤ 0xDFFF) = true) ↔
      LowFollows s.rest := by
  constructor
  · intro paired
    rcases paired with ⟨slash, letter, digits⟩
    rcases Option.any_eq_true _ _ |>.mp digits with ⟨value, found, low⟩
    rcases hex4At_reads found with ⟨unit, same, r, held⟩
    refine ⟨unit, by rw [CodeUnit.isLow, same]; exact low, r, ?_⟩
    have first : s.rest = '\\'.toUInt8 :: s.rest.tail := List.eq_cons_of_mem_head? slash
    have second : s.rest.tail = 'u'.toUInt8 :: s.rest.tail.tail := by
      apply List.eq_cons_of_mem_head?
      rw [Option.mem_def, List.head?_eq_getElem?, List.getElem?_tail]
      exact letter
    have third : s.rest.tail.tail = utf8 unit.digits ++ r := by
      rw [← held, ← List.drop_one, ← List.drop_one, List.drop_drop]
    rw [utf8_cons_ascii (by decide), utf8_cons_ascii (by decide), first, second, third]
    rfl
  · intro follows
    rcases follows with ⟨low, isLow, r, held⟩
    rw [utf8_cons_ascii (by decide), utf8_cons_ascii (by decide)] at held
    simp only [peek, held]
    refine ⟨rfl, rfl, ?_⟩
    simp only [List.cons_append, List.drop_succ_cons, List.drop_zero, hex4At_exact, Option.any_some]
    exact isLow

theorem escapeSequence_reads {s s' : Scanner} {length : Nat}
    (ran : s.escapeSequence = .ok (length, s')) :
    (∃ high low : CodeUnit, high.isHigh = true ∧ low.isLow = true ∧ length = 4 ∧
      Reads s (high.digits ++ '\\' :: 'u' :: low.digits) s') ∨
    (∃ unit : CodeUnit, length = unit.length ∧ Reads s unit.digits s' ∧
      ¬ (unit.isHigh = true ∧ LowFollows s'.rest)) := by
  unfold escapeSequence at ran
  split at ran
  · cases ran
  · rename_i value found
    rcases hex4At_reads found with ⟨unit, same, r, held⟩
    subst same
    have reads := reads_bumps (length_digits unit) held
    dsimp only at ran
    split at ran
    · rename_i bounds
      have isHigh : unit.isHigh = true := by simpa [CodeUnit.isHigh] using bounds
      split at ran
      · rename_i follows
        rcases (paired_iff _).mp follows with ⟨low, isLow, r', follows⟩
        cases ran
        have six : (utf8 ('\\' :: 'u' :: low.digits)).length = 6 := by
          rw [utf8_cons_ascii (by decide), utf8_cons_ascii (by decide), List.length_cons,
            List.length_cons, length_digits]
        exact .inl ⟨unit, low, isHigh, isLow, rfl, reads.trans (reads_bumps six follows)⟩
      · rename_i alone
        cases ran
        have long : ¬ unit.value ≤ 0x7f ∧ ¬ unit.value ≤ 0x7ff := by omega
        refine .inr ⟨unit, ?_, reads, fun both => alone ((paired_iff _).mpr both.2)⟩
        rw [CodeUnit.length, if_neg long.1, if_neg long.2]
    · rename_i bounds
      cases ran
      refine .inr ⟨unit, rfl, reads, fun both => bounds ?_⟩
      simpa [CodeUnit.isHigh] using both.1

theorem escapeSequence_pair {s : Scanner} {high low : CodeUnit} {r : List UInt8}
    (isHigh : high.isHigh = true) (isLow : low.isLow = true)
    (held : s.rest = utf8 (high.digits ++ '\\' :: 'u' :: low.digits) ++ r) :
    ∃ s', s.escapeSequence = .ok (4, s') ∧
      Reads s (high.digits ++ '\\' :: 'u' :: low.digits) s' := by
  rw [utf8_append, List.append_assoc] at held
  have reads := reads_bumps (length_digits high) held
  have after := reads.rest_eq held
  have six : (utf8 ('\\' :: 'u' :: low.digits)).length = 6 := by
    rw [utf8_cons_ascii (by decide), utf8_cons_ascii (by decide), List.length_cons,
      List.length_cons, length_digits]
  refine ⟨_, ?_, reads.trans (reads_bumps six after)⟩
  have bounds : 0xD800 ≤ high.value ∧ high.value ≤ 0xDBFF := by
    simpa [CodeUnit.isHigh] using isHigh
  unfold escapeSequence
  rw [held, hex4At_exact]
  dsimp only
  rw [if_pos bounds, if_pos ((paired_iff _).mpr ⟨low, isLow, r, after⟩)]

theorem escapeSequence_unit {s : Scanner} {unit : CodeUnit} {r : List UInt8}
    (held : s.rest = utf8 unit.digits ++ r) (alone : ¬ (unit.isHigh = true ∧ LowFollows r)) :
    ∃ s', s.escapeSequence = .ok (unit.length, s') ∧ Reads s unit.digits s' := by
  have reads := reads_bumps (length_digits unit) held
  have after := reads.rest_eq held
  refine ⟨_, ?_, reads⟩
  unfold escapeSequence
  rw [held, hex4At_exact]
  dsimp only
  by_cases bounds : 0xD800 ≤ unit.value ∧ unit.value ≤ 0xDBFF
  · have isHigh : unit.isHigh = true := by simpa [CodeUnit.isHigh] using bounds
    have single : ¬ LowFollows (bump^[4] s).rest := by
      rw [after]
      exact fun follows => alone ⟨isHigh, follows⟩
    have long : ¬ unit.value ≤ 0x7f ∧ ¬ unit.value ≤ 0x7ff := by omega
    rw [if_pos bounds, if_neg (mt (paired_iff _).mp single), CodeUnit.length, if_neg long.1,
      if_neg long.2]
  · rw [if_neg bounds]
    rfl

def PlainByte (b : UInt8) : Prop := b ≠ '"'.toUInt8 ∧ b ≠ '\\'.toUInt8 ∧ ¬ b < 0x20

theorem scanStringLoop_plain {bytes r : List UInt8} (plain : ∀ b ∈ bytes, PlainByte b)
    {count decoded : Nat} {s : Scanner} {result : Nat × Scanner} (held : s.rest = bytes ++ r) :
    scanStringLoop count decoded s = .ok result ↔
      ∃ left, count = left + bytes.length ∧
        scanStringLoop left (decoded + bytes.length) (bump^[bytes.length] s) = .ok result := by
  induction bytes generalizing count decoded s with
  | nil => simp
  | cons b bytes ih =>
      rcases plain b List.mem_cons_self with ⟨noQuote, noSlash, printable⟩
      have next : s.peek = some b := by
        rw [peek, held]
        rfl
      have after : s.bump.rest = bytes ++ r := by
        rw [bump_rest, held]
        rfl
      cases count with
      | zero =>
          constructor
          · intro ran
            cases ran
          · intro counted
            rcases counted with ⟨left, same, _⟩
            simp at same
      | succ count =>
          rw [scanStringLoop, next]
          simp only [if_neg noQuote, if_neg noSlash, if_neg printable]
          rw [ih (fun d member => plain d (List.mem_cons_of_mem b member)) after,
            List.length_cons, Function.iterate_succ_apply]
          constructor
          · intro counted
            rcases counted with ⟨left, same, ran⟩
            exact ⟨left, by omega, by rw [← ran]; congr 1; omega⟩
          · intro counted
            rcases counted with ⟨left, same, ran⟩
            exact ⟨left, by omega, by rw [← ran]; congr 1; omega⟩

theorem plainByte_of_unescaped {c : Char} (unescaped : Unescaped c) :
    ∀ b ∈ String.utf8EncodeChar c, PlainByte b := by
  intro b member
  by_cases low : IsAscii c
  · rw [utf8EncodeChar_ascii low, List.mem_singleton] at member
    subst member
    refine ⟨?_, ?_, ?_⟩
    · rw [ne_eq, toUInt8_inj low (by decide)]
      exact unescaped.2.1
    · rw [ne_eq, toUInt8_inj low (by decide)]
      exact unescaped.2.2
    · rw [UInt8.lt_iff_toNat_lt, toNat_toUInt8 low]
      exact Nat.not_lt.mpr unescaped.1
  · have high := utf8EncodeChar_high low b member
    rw [UInt8.le_iff_toNat_le] at high
    refine ⟨?_, ?_, ?_⟩
    · intro same
      rw [same] at high
      exact absurd high (by decide)
    · intro same
      rw [same] at high
      exact absurd high (by decide)
    · rw [UInt8.lt_iff_toNat_lt]
      exact Nat.not_lt.mpr (le_trans (by decide) high)

theorem short_class : ByteClass isShortEscape (fun c => decide (c ∈ shortEscapes)) := by
  constructor
  · intro c listed
    have all : ∀ c ∈ shortEscapes, IsAscii c := forall_mem_of_all (by decide)
    exact all c (of_decide_eq_true listed)
  · intro c low
    exact ascii_forall
      (motive := fun c => isShortEscape c.toUInt8 = decide (c ∈ shortEscapes)) (by decide) low
  · intro b matched
    simp only [isShortEscape, Bool.or_eq_true, beq_iff_eq] at matched
    rcases matched with ((((((same | same) | same) | same) | same) | same) | same) | same <;>
      subst same <;> decide

@[simp] theorem spell_nil : spell [] = [] := rfl

theorem spell_cons (item : Item) (items : List Item) :
    spell (item :: items) = item.spell ++ spell items := by
  simp [spell]

theorem lowFollows_iff {items : List Item} {r : List UInt8} :
    LowFollows (utf8 (spell items ++ ['"']) ++ r) ↔ startsLow items = true := by
  constructor
  · intro follows
    rcases follows with ⟨low, isLow, later, same⟩
    cases items with
    | nil =>
        rw [spell_nil, List.nil_append, utf8_cons_ascii (by decide), utf8_cons_ascii (by decide),
          List.cons_append, List.cons_append, List.cons.injEq] at same
        exact absurd same.1 (by decide)
    | cons item items =>
        cases item with
        | plain c unescaped =>
            rw [spell_cons, Item.spell, List.append_assoc, List.singleton_append, utf8_cons,
              utf8_cons, List.append_assoc, List.append_assoc] at same
            have first := (decodes_utf8EncodeChar trivial trivial same).1
            exact absurd first unescaped.2.2
        | short c listed =>
            have low := short_class.ascii c (decide_eq_true listed)
            rw [spell_cons, Item.spell, List.append_assoc, List.cons_append, List.singleton_append,
              utf8_cons_ascii (by decide), utf8_cons_ascii low, utf8_cons_ascii (by decide),
              utf8_cons_ascii (by decide), List.cons_append, List.cons_append, List.cons_append,
              List.cons_append, List.cons.injEq, List.cons.injEq,
              toUInt8_inj low (by decide)] at same
            rw [same.2.1] at listed
            exact absurd listed (by decide)
        | unicode unit =>
            rw [spell_cons, Item.spell, List.append_assoc, utf8_append, List.append_assoc] at same
            have digits := (utf8_same_length (by simp [unit.four, low.four]) same).1
            simp only [List.cons.injEq, true_and] at digits
            have value : unit.value = low.value := by
              have both := unit.names
              rw [digits, low.names] at both
              exact (Option.some.inj both).symm
            rw [startsLow, CodeUnit.isLow, value]
            exact isLow
  · intro starts
    cases items with
    | nil => cases starts
    | cons item items =>
        cases item with
        | plain c unescaped => cases starts
        | short c listed => cases starts
        | unicode low =>
            refine ⟨low, starts, utf8 (spell items ++ ['"']) ++ r, ?_⟩
            rw [spell_cons, Item.spell, List.append_assoc, utf8_append, List.append_assoc]

def Turns (count decoded : Nat) (s : Scanner) (length : Nat) (s' : Scanner) : Prop :=
  ∃ item left more t, left < count ∧ Reads s (spell item) t ∧
    scanStringLoop left (decoded + more) t = .ok (length, s') ∧
    ∀ items, Reads t (spell items ++ ['"']) s' →
      decodedLength (item ++ items) = more + decodedLength items

theorem plain_turns {count decoded length : Nat} {s s' : Scanner} {c : Char} {text : List Char}
    (valid : s.rest = utf8 (c :: text)) (unescaped : Unescaped c)
    (ran : scanStringLoop count decoded s = .ok (length, s')) :
    Turns count decoded s length s' := by
  have code : s.rest = String.utf8EncodeChar c ++ utf8 text := by rw [valid, utf8_cons]
  rcases (scanStringLoop_plain (plainByte_of_unescaped unescaped) code).mp ran with
    ⟨left, counted, others⟩
  have positive : 0 < (String.utf8EncodeChar c).length :=
    List.length_pos_iff.mpr String.utf8EncodeChar_ne_nil
  refine ⟨[.plain c unescaped], left, _, _, by omega, ?_, others, ?_⟩
  · apply reads_bumps (r := utf8 text)
    · simp [spell, Item.spell, utf8]
    · simpa [spell, Item.spell, utf8] using code
  · intro items _
    exact decodedLength_plain c unescaped items

theorem escape_turns {count decoded length : Nat} {s s' : Scanner}
    (slash : s.peek = some '\\'.toUInt8)
    (ran : scanStringLoop (count + 1) decoded s = .ok (length, s')) :
    Turns (count + 1) decoded s length s' := by
  have readSlash := reads_bump (by decide) slash
  rw [scanStringLoop, slash] at ran
  simp only [if_neg (show ¬ '\\'.toUInt8 = '"'.toUInt8 by decide), if_true] at ran
  split at ran
  · rename_i matched
    rcases Option.any_eq_true _ _ |>.mp matched with ⟨b, next, isShort⟩
    rcases ascii_of_byte (short_class.low b isShort) with ⟨low, same⟩
    have listed : Char.ofNat b.toNat ∈ shortEscapes := by
      have agrees := short_class.agrees _ low
      rw [same, isShort] at agrees
      exact of_decide_eq_true agrees.symm
    rw [← same] at next
    refine ⟨[.short _ listed], count, 1, _, Nat.lt_succ_self count, ?_, ran, ?_⟩
    · exact readSlash.trans (reads_bump low next)
    · intro items _
      exact decodedLength_short _ listed items
  · split at ran
    · rename_i letter
      rcases bind_ok_iff.mp ran with ⟨⟨more, t⟩, ranEscape, others⟩
      have readLetter := readSlash.trans (reads_bump (by decide) letter)
      rcases escapeSequence_reads ranEscape with
        ⟨high, low, isHigh, isLow, four, reads⟩ | ⟨unit, size, reads, alone⟩
      · refine ⟨[.unicode high, .unicode low], count, more, t, Nat.lt_succ_self count, ?_, others,
          ?_⟩
        · simpa [spell, Item.spell] using readLetter.trans reads
        · intro items _
          rw [four]
          exact decodedLength_pair isHigh isLow items
      · refine ⟨[.unicode unit], count, more, t, Nat.lt_succ_self count, ?_, others, ?_⟩
        · simpa [spell, Item.spell] using readLetter.trans reads
        · intro items later
          rw [size]
          apply decodedLength_unicode
          rw [later.rest, lowFollows_iff] at alone
          exact alone
    · cases ran

theorem scanStringLoop_turns {count decoded length : Nat} {s s' : Scanner} {text : List Char}
    (valid : s.rest = utf8 text) (ran : scanStringLoop count decoded s = .ok (length, s')) :
    (length = decoded ∧ Reads s ['"'] s') ∨ Turns count decoded s length s' := by
  cases count with
  | zero => cases ran
  | succ count =>
      cases text with
      | nil =>
          have nothing : s.peek = none := by
            rw [peek, valid]
            rfl
          rw [scanStringLoop, nothing] at ran
          cases ran
      | cons c text =>
          have held : s.rest = utf8 (c :: text) ++ [] := by rw [valid, List.append_nil]
          by_cases quote : c = '"'
          · subst quote
            rw [scanStringLoop, peek_of_rest (by decide) held] at ran
            cases ran
            exact .inl ⟨rfl, (bump_of_rest (by decide) held).1⟩
          by_cases slash : c = '\\'
          · subst slash
            exact .inr (escape_turns (peek_of_rest (by decide) held) ran)
          by_cases printable : 0x20 ≤ c.toNat
          · exact .inr (plain_turns valid ⟨printable, quote, slash⟩ ran)
          · have low : IsAscii c := lt_trans (Nat.not_le.mp printable) (by decide)
            have control : c.toUInt8 < 0x20 := by
              rw [UInt8.lt_iff_toNat_lt, toNat_toUInt8 low]
              exact Nat.not_le.mp printable
            have noQuote : ¬ c.toUInt8 = '"'.toUInt8 := by rwa [toUInt8_inj low (by decide)]
            have noSlash : ¬ c.toUInt8 = '\\'.toUInt8 := by rwa [toUInt8_inj low (by decide)]
            rw [scanStringLoop, peek_of_rest low held] at ran
            simp only [if_neg noQuote, if_neg noSlash, if_pos control] at ran
            cases ran

theorem scanStringLoop_reads {count decoded length : Nat} {s s' : Scanner} {text : List Char}
    (valid : s.rest = utf8 text) (ran : scanStringLoop count decoded s = .ok (length, s')) :
    ∃ items, length = decoded + decodedLength items ∧ Reads s (spell items ++ ['"']) s' := by
  induction count using Nat.strong_induction_on generalizing decoded s text with
  | h count ih =>
      rcases scanStringLoop_turns valid ran with ⟨same, reads⟩ | turns
      · exact ⟨[], same, reads⟩
      · rcases turns with ⟨item, left, more, t, shorter, first, others, counted⟩
        rcases utf8_split (valid.symm.trans first.rest) with ⟨later, _, rest⟩
        rcases ih left shorter rest others with ⟨items, same, reads⟩
        refine ⟨item ++ items, ?_, ?_⟩
        · rw [counted items reads, same]
          omega
        · have all := first.trans reads
          rwa [← List.append_assoc, spell, spell, ← List.flatMap_append] at all

theorem spell_append (group others : List Item) :
    spell (group ++ others) = spell group ++ spell others := by
  simp [spell]

/-- `group` is read in one go and counts for `more` decoded bytes. -/
def Absorbs (group others : List Item) (count decoded : Nat) (s : Scanner) : Prop :=
  ∃ left more t, (utf8 (spell others)).length < left ∧ Reads s (spell group) t ∧
    decodedLength (group ++ others) = more + decodedLength others ∧
    ∀ result, scanStringLoop left (decoded + more) t = .ok result →
      scanStringLoop count decoded s = .ok result

section Absorb

variable {items : List Item} {r : List UInt8} {s : Scanner} (count decoded : Nat)

theorem plain_absorbs {c : Char} (unescaped : Unescaped c)
    (held : s.rest = utf8 (spell (.plain c unescaped :: items) ++ ['"']) ++ r)
    (enough : (utf8 (spell (.plain c unescaped :: items))).length < count) :
    Absorbs [.plain c unescaped] items count decoded s := by
  rw [spell_cons, Item.spell, List.singleton_append, utf8_cons, List.length_append] at enough
  rw [spell_cons, Item.spell, List.singleton_append, List.cons_append, utf8_cons,
    List.append_assoc] at held
  refine ⟨count - (String.utf8EncodeChar c).length, (String.utf8EncodeChar c).length,
    bump^[(String.utf8EncodeChar c).length] s, by omega, ?_,
    decodedLength_plain c unescaped items, ?_⟩
  · apply reads_bumps
    · simp [spell, Item.spell, utf8]
    · simpa [spell, Item.spell, utf8] using held
  · intro result ran
    apply (scanStringLoop_plain (plainByte_of_unescaped unescaped) held).mpr
    exact ⟨_, by omega, ran⟩

theorem short_absorbs {c : Char} (listed : c ∈ shortEscapes)
    (held : s.rest = utf8 (spell (.short c listed :: items) ++ ['"']) ++ r)
    (enough : (utf8 (spell (.short c listed :: items))).length < count + 1) :
    Absorbs [.short c listed] items (count + 1) decoded s := by
  have low := short_class.ascii c (decide_eq_true listed)
  rw [spell_cons, Item.spell, utf8_append, utf8_cons_ascii (by decide), utf8_cons_ascii low,
    utf8_nil] at enough
  rw [spell_cons, Item.spell, List.append_assoc] at held
  rcases bump_of_rest (by decide) held with ⟨readSlash, after⟩
  rcases bump_of_rest low after with ⟨readLetter, _⟩
  have found : s.bump.peek.any isShortEscape = true := by
    rw [peek_of_rest low after, Option.any_some, short_class.agrees c low]
    exact decide_eq_true listed
  refine ⟨count, 1, _, ?_, readSlash.trans readLetter, decodedLength_short c listed items, ?_⟩
  · simp only [List.cons_append, List.nil_append, List.length_cons] at enough
    omega
  · intro result ran
    rw [scanStringLoop, peek_of_rest (by decide) held]
    simp only [if_neg (show ¬ '\\'.toUInt8 = '"'.toUInt8 by decide), if_true, found]
    exact ran

/-- A `\u` escape hands the loop's turn to `escapeSequence`. -/
theorem unicode_absorbs {group : List Item} {escape : List Char}
    (spelled : spell group = '\\' :: 'u' :: escape)
    (held : s.rest = utf8 (spell (group ++ items) ++ ['"']) ++ r)
    (enough : (utf8 (spell (group ++ items))).length < count + 1) {more : Nat}
    (escapes : ∀ t : Scanner, t.rest = utf8 escape ++ (utf8 (spell items ++ ['"']) ++ r) →
      ∃ s', t.escapeSequence = .ok (more, s') ∧ Reads t escape s')
    (counted : decodedLength (group ++ items) = more + decodedLength items) :
    Absorbs group items (count + 1) decoded s := by
  rw [spell_append, spelled] at held enough
  rw [List.append_assoc, List.cons_append, List.cons_append] at held
  rcases bump_of_rest (by decide) held with ⟨readSlash, afterSlash⟩
  rcases bump_of_rest (by decide) afterSlash with ⟨readLetter, afterLetter⟩
  rw [utf8_append, List.append_assoc] at afterLetter
  rcases escapes _ afterLetter with ⟨t, ranEscape, readEscape⟩
  refine ⟨count, more, t, ?_, ?_, counted, ?_⟩
  · rw [utf8_append, utf8_cons_ascii (by decide), List.length_append, List.length_cons] at enough
    omega
  · rw [spelled]
    exact readSlash.trans (readLetter.trans readEscape)
  · intro result ran
    have noShort : ¬ (some 'u'.toUInt8).any isShortEscape = true := by decide
    rw [scanStringLoop, peek_of_rest (by decide) held]
    simp only [if_neg (show ¬ '\\'.toUInt8 = '"'.toUInt8 by decide), if_true,
      peek_of_rest (by decide) afterSlash, if_neg noShort]
    rw [bind_ok_iff]
    exact ⟨_, ranEscape, ran⟩

end Absorb

theorem items_absorb (item : Item) (items : List Item) {r : List UInt8} {s : Scanner}
    (count decoded : Nat) (held : s.rest = utf8 (spell (item :: items) ++ ['"']) ++ r)
    (enough : (utf8 (spell (item :: items))).length < count + 1) :
    ∃ group others, item :: items = group ++ others ∧ others.length < (item :: items).length ∧
      Absorbs group others (count + 1) decoded s := by
  cases item with
  | plain c unescaped =>
      exact ⟨[_], items, rfl, by simp, plain_absorbs (count + 1) decoded unescaped held enough⟩
  | short c listed =>
      exact ⟨[_], items, rfl, by simp, short_absorbs count decoded listed held enough⟩
  | unicode unit =>
      by_cases paired : unit.isHigh = true ∧ startsLow items = true
      · cases items with
        | nil => cases paired.2
        | cons next items =>
            cases next with
            | plain c unescaped => cases paired.2
            | short c listed => cases paired.2
            | unicode low =>
                refine ⟨[.unicode unit, .unicode low], items, rfl, by simp, ?_⟩
                apply unicode_absorbs count decoded (by simp [spell, Item.spell]; rfl) held enough
                · intro t rest
                  exact escapeSequence_pair paired.1 paired.2 rest
                · exact decodedLength_pair paired.1 paired.2 items
      · refine ⟨[.unicode unit], items, rfl, by simp, ?_⟩
        apply unicode_absorbs count decoded (by simp [spell, Item.spell]; rfl) held enough
        · intro t rest
          apply escapeSequence_unit rest
          rw [lowFollows_iff]
          exact paired
        · exact decodedLength_unicode paired

theorem scanStringLoop_exact {items : List Item} {r : List UInt8} {count : Nat} (decoded : Nat)
    {s : Scanner} (held : s.rest = utf8 (spell items ++ ['"']) ++ r)
    (enough : (utf8 (spell items)).length < count) :
    ∃ s', scanStringLoop count decoded s = .ok (decoded + decodedLength items, s') ∧
      Reads s (spell items ++ ['"']) s' := by
  induction size : items.length using Nat.strong_induction_on
    generalizing items count decoded s with
  | h total ih =>
      cases count with
      | zero => exact absurd enough (Nat.not_lt_zero _)
      | succ count =>
          cases items with
          | nil =>
              rcases bump_of_rest (by decide) held with ⟨reads, _⟩
              refine ⟨s.bump, ?_, reads⟩
              rw [scanStringLoop, peek_of_rest (by decide) held]
              rfl
          | cons item items =>
              rcases items_absorb item items count decoded held enough with
                ⟨group, others, split, shorter, left, more, t, room, first, counted, resumes⟩
              rw [split, spell_append, List.append_assoc, utf8_append, List.append_assoc] at held
              rcases ih others.length (by omega) (decoded + more) (first.rest_eq held) room rfl with
                ⟨s', ran, reads⟩
              refine ⟨s', ?_, ?_⟩
              · rw [split, counted, ← Nat.add_assoc]
                exact resumes _ ran
              · rw [split, spell_append, List.append_assoc]
                exact first.trans reads

theorem scanString_reads {s s' : Scanner} {length : Nat} {text : List Char}
    (valid : s.rest = utf8 text) (quote : s.peek = some '"'.toUInt8)
    (ran : s.scanString = .ok (length, s')) :
    ∃ items, length = decodedLength items ∧ Reads s (quoted items) s' := by
  have first := reads_bump (by decide) quote
  rcases utf8_split (valid.symm.trans first.rest) with ⟨later, _, rest⟩
  rcases scanStringLoop_reads rest ran with ⟨items, same, reads⟩
  exact ⟨items, by omega, first.trans reads⟩

theorem scanString_exact {s : Scanner} {items : List Item} {r : List UInt8}
    (held : s.rest = utf8 (quoted items) ++ r) :
    ∃ s', s.scanString = .ok (decodedLength items, s') ∧ Reads s (quoted items) s' := by
  rcases bump_of_rest (by decide) held with ⟨first, after⟩
  have enough : (utf8 (spell items)).length < s.bump.rest.length + 1 := by
    rw [after, utf8_append, List.length_append, List.length_append]
    omega
  rcases scanStringLoop_exact 0 after enough with ⟨s', ran, reads⟩
  refine ⟨s', ?_, first.trans reads⟩
  rw [scanString, ran, Nat.zero_add]

end O7Formal.Contracts.Scanner
