import O7Formal.Lib.Utf8

/-! The grammar of RFC 8259 over characters: which texts spell which values, what a
string literal decodes to, and at which nesting depth the parts of a value sit.

Strings are kept as their items and numbers as their literals, so that a value still
knows how its scalars were written; only the whitespace is forgotten. -/

namespace O7Formal.Json

open Utf8

def isBlank (c : Char) : Bool := c == ' ' || c == '\t' || c == '\n' || c == '\r'

/-- `ws` -/
def Blank (text : List Char) : Prop := ∀ c ∈ text, isBlank c = true

theorem blank_nil : Blank [] := by
  intro c member
  cases member

theorem Blank.append {before after : List Char} (first : Blank before) (second : Blank after) :
    Blank (before ++ after) := by
  intro c member
  rcases List.mem_append.mp member with member | member
  · exact first c member
  · exact second c member

/-- `1*DIGIT` -/
def Digits (text : List Char) : Prop := text ≠ [] ∧ ∀ c ∈ text, c.isDigit = true

/-- `int = zero / ( digit1-9 *DIGIT )` -/
inductive Whole : List Char → Prop
  | zero : Whole ['0']
  | positive {text : List Char} (digits : Digits text) (leading : text.head? ≠ some '0') :
      Whole text

/-- `[ frac ]` -/
inductive Fraction : List Char → Prop
  | absent : Fraction []
  | present {text : List Char} (digits : Digits text) : Fraction ('.' :: text)

def Sign (text : List Char) : Prop := text = [] ∨ text = ['+'] ∨ text = ['-']

/-- `[ exp ]` -/
inductive Exponent : List Char → Prop
  | absent : Exponent []
  | present {e : Char} {plus text : List Char} (letter : e = 'e' ∨ e = 'E') (signed : Sign plus)
      (digits : Digits text) : Exponent (e :: (plus ++ text))

/-- `number = [ minus ] int [ frac ] [ exp ]` -/
inductive Number : List Char → Prop
  | mk {minus whole fraction exponent : List Char} (negative : minus = [] ∨ minus = ['-'])
      (hasWhole : Whole whole) (hasFraction : Fraction fraction) (hasExponent : Exponent exponent) :
      Number (minus ++ (whole ++ (fraction ++ exponent)))

/-- `unescaped = %x20-21 / %x23-5B / %x5D-10FFFF` -/
def Unescaped (c : Char) : Prop := 0x20 ≤ c.toNat ∧ c ≠ '"' ∧ c ≠ '\\'

def shortEscapes : List Char := ['"', '\\', '/', 'b', 'f', 'n', 'r', 't']

def shortMeaning (c : Char) : Char :=
  if c = 'b' then '\x08' else if c = 'f' then '\x0c' else if c = 'n' then '\n'
  else if c = 'r' then '\r' else if c = 't' then '\t' else c

def hexValue (c : Char) : Option Nat :=
  if '0' ≤ c ∧ c ≤ '9' then some (c.toNat - '0'.toNat)
  else if 'a' ≤ c ∧ c ≤ 'f' then some (c.toNat - 'a'.toNat + 10)
  else if 'A' ≤ c ∧ c ≤ 'F' then some (c.toNat - 'A'.toNat + 10)
  else none

def hexNumber (digits : List Char) : Option Nat :=
  digits.foldlM (fun value c => (hexValue c).map (value * 16 + ·)) 0

/-- The four hexadecimal digits of a `\u` escape and the UTF-16 code unit they name. -/
structure CodeUnit where
  digits : List Char
  value : Nat
  four : digits.length = 4
  names : hexNumber digits = some value

def CodeUnit.isHigh (unit : CodeUnit) : Bool := 0xD800 ≤ unit.value && unit.value ≤ 0xDBFF

def CodeUnit.isLow (unit : CodeUnit) : Bool := 0xDC00 ≤ unit.value && unit.value ≤ 0xDFFF

inductive Item where
  | plain (c : Char) (unescaped : Unescaped c)
  | short (c : Char) (listed : c ∈ shortEscapes)
  | unicode (unit : CodeUnit)

def Item.spell : Item → List Char
  | .plain c _ => [c]
  | .short c _ => ['\\', c]
  | .unicode unit => '\\' :: 'u' :: unit.digits

def spell (items : List Item) : List Char := items.flatMap Item.spell

/-- `string = quotation-mark *char quotation-mark` -/
def quoted (items : List Item) : List Char := '"' :: (spell items ++ ['"'])

def replacement : Char := Char.ofNat 0xFFFD

def CodeUnit.scalar (unit : CodeUnit) : Char :=
  if unit.isHigh || unit.isLow then replacement else Char.ofNat unit.value

def pairScalar (high low : CodeUnit) : Char :=
  Char.ofNat (0x10000 + (high.value - 0xD800) * 0x400 + (low.value - 0xDC00))

/-- The characters a string literal denotes. A high surrogate takes the low surrogate
escaped right after it as its partner. -/
def decode : List Item → List Char
  | [] => []
  | .plain c _ :: items => c :: decode items
  | .short c _ :: items => shortMeaning c :: decode items
  | .unicode high :: .unicode low :: items =>
      if high.isHigh && low.isLow then pairScalar high low :: decode items
      else high.scalar :: decode (.unicode low :: items)
  | .unicode unit :: items => unit.scalar :: decode items

def decodedLength (items : List Item) : Nat := (utf8 (decode items)).length

def CodeUnit.length (unit : CodeUnit) : Nat :=
  if unit.value ≤ 0x7f then 1 else if unit.value ≤ 0x7ff then 2 else 3

def startsLow : List Item → Bool
  | .unicode low :: _ => low.isLow
  | _ => false

theorem hexValue_some {c : Char} {digit : Nat} (named : hexValue c = some digit) :
    IsAscii c ∧ digit < 16 := by
  unfold hexValue at named
  have code : ∀ {low high : Char}, low ≤ c ∧ c ≤ high →
      low.toNat ≤ c.toNat ∧ c.toNat ≤ high.toNat := by
    intro low high bounds
    exact bounds
  split_ifs at named with decimal lower upper
  · have bounds := code decimal
    cases named
    exact ⟨lt_of_le_of_lt bounds.2 (by decide), by simp at bounds ⊢; omega⟩
  · have bounds := code lower
    cases named
    exact ⟨lt_of_le_of_lt bounds.2 (by decide), by simp at bounds ⊢; omega⟩
  · have bounds := code upper
    cases named
    exact ⟨lt_of_le_of_lt bounds.2 (by decide), by simp at bounds ⊢; omega⟩

theorem hexFold_some {digits : List Char} {start value : Nat}
    (named : digits.foldlM (fun value c => (hexValue c).map (value * 16 + ·)) start = some value) :
    (∀ c ∈ digits, IsAscii c) ∧ value < (start + 1) * 16 ^ digits.length := by
  induction digits generalizing start with
  | nil =>
      have same : start = value := by simpa using named
      exact ⟨by simp, by simp [same]⟩
  | cons c digits ih =>
      simp only [List.foldlM_cons, Option.bind_eq_bind, Option.bind_eq_some_iff,
        Option.map_eq_some_iff] at named
      rcases named with ⟨next, ⟨digit, first, same⟩, others⟩
      have here := hexValue_some first
      have later := ih others
      refine ⟨List.forall_mem_cons.mpr ⟨here.1, later.1⟩, ?_⟩
      calc value < (next + 1) * 16 ^ digits.length := later.2
        _ ≤ ((start + 1) * 16) * 16 ^ digits.length := Nat.mul_le_mul_right _ (by omega)
        _ = (start + 1) * 16 ^ (c :: digits).length := by rw [List.length_cons]; ring

theorem CodeUnit.ascii (unit : CodeUnit) : ∀ c ∈ unit.digits, IsAscii c :=
  (hexFold_some unit.names).1

theorem CodeUnit.value_lt (unit : CodeUnit) : unit.value < 0x10000 := by
  have bound := (hexFold_some unit.names).2
  rw [unit.four] at bound
  exact bound

private theorem length_ofNat {n : Nat} (valid : n.isValidChar) :
    (String.utf8EncodeChar (Char.ofNat n)).length =
      if n ≤ 0x7f then 1 else if n ≤ 0x7ff then 2 else if n ≤ 0xffff then 3 else 4 := by
  have value : (Char.ofNat n).val.toNat = n := toNat_ofNat valid
  simp only [String.utf8EncodeChar, value]
  split_ifs <;> rfl

private theorem length_scalar (unit : CodeUnit) :
    (String.utf8EncodeChar unit.scalar).length = unit.length := by
  have bound := unit.value_lt
  unfold CodeUnit.scalar CodeUnit.length
  split_ifs with surrogate small medium small medium
  all_goals
    simp only [CodeUnit.isHigh, CodeUnit.isLow, Bool.or_eq_true, Bool.and_eq_true,
      decide_eq_true_eq] at surrogate
  · omega
  · omega
  · decide
  all_goals
    have valid : unit.value.isValidChar := by
      unfold Nat.isValidChar
      omega
    rw [length_ofNat valid]
    split_ifs <;> omega

private theorem length_pairScalar {high low : CodeUnit} (isHigh : high.isHigh = true)
    (isLow : low.isLow = true) : (String.utf8EncodeChar (pairScalar high low)).length = 4 := by
  simp only [CodeUnit.isHigh, CodeUnit.isLow, Bool.and_eq_true, decide_eq_true_eq] at isHigh isLow
  unfold pairScalar
  rw [length_ofNat]
  · split_ifs <;> omega
  · unfold Nat.isValidChar
    omega

private theorem length_shortMeaning {c : Char} (listed : c ∈ shortEscapes) :
    (String.utf8EncodeChar (shortMeaning c)).length = 1 := by
  have all : ∀ c ∈ shortEscapes, (String.utf8EncodeChar (shortMeaning c)).length = 1 :=
    forall_mem_of_all (by decide)
  exact all c listed

theorem decodedLength_plain (c : Char) (unescaped : Unescaped c) (items : List Item) :
    decodedLength (.plain c unescaped :: items) =
      (String.utf8EncodeChar c).length + decodedLength items := by
  rw [decodedLength, decode, utf8_cons, List.length_append, decodedLength]

theorem decodedLength_short (c : Char) (listed : c ∈ shortEscapes) (items : List Item) :
    decodedLength (.short c listed :: items) = 1 + decodedLength items := by
  rw [decodedLength, decode, utf8_cons, List.length_append, decodedLength,
    length_shortMeaning listed]

theorem decodedLength_pair {high low : CodeUnit} (isHigh : high.isHigh = true)
    (isLow : low.isLow = true) (items : List Item) :
    decodedLength (.unicode high :: .unicode low :: items) = 4 + decodedLength items := by
  rw [decodedLength, decode, isHigh, isLow, Bool.and_self, if_pos rfl, utf8_cons,
    List.length_append, decodedLength, length_pairScalar isHigh isLow]

theorem decode_unicode {unit : CodeUnit} {items : List Item}
    (alone : ¬ (unit.isHigh = true ∧ startsLow items = true)) :
    decode (.unicode unit :: items) = unit.scalar :: decode items := by
  cases items with
  | nil => rfl
  | cons item items =>
      cases item with
      | plain c unescaped => rfl
      | short c listed => rfl
      | unicode low =>
          rw [decode, if_neg]
          rw [Bool.and_eq_true]
          exact alone

theorem decodedLength_unicode {unit : CodeUnit} {items : List Item}
    (alone : ¬ (unit.isHigh = true ∧ startsLow items = true)) :
    decodedLength (.unicode unit :: items) = unit.length + decodedLength items := by
  rw [decodedLength, decode_unicode alone, utf8_cons, List.length_append, decodedLength,
    length_scalar]

inductive Value where
  | null
  | bool (b : Bool)
  | number (literal : { text : List Char // Number text })
  | string (items : List Item)
  | array (elements : List Value)
  | object (members : List (List Item × Value))

def boolWord (b : Bool) : String := if b then "true" else "false"

mutual

/-- `value`, without the whitespace around it. -/
inductive Spells : Value → List Char → Prop
  | null : Spells .null "null".toList
  | bool (b : Bool) : Spells (.bool b) (boolWord b).toList
  | number (literal : { text : List Char // Number text }) : Spells (.number literal) literal.val
  | string (items : List Item) : Spells (.string items) (quoted items)
  | emptyArray {body : List Char} (blank : Blank body) : Spells (.array []) ('[' :: (body ++ [']']))
  | array {elements : List Value} {body : List Char} (listed : Elements elements body) :
      Spells (.array elements) ('[' :: (body ++ [']']))
  | emptyObject {body : List Char} (blank : Blank body) :
      Spells (.object []) ('{' :: (body ++ ['}']))
  | object {members : List (List Item × Value)} {body : List Char} (listed : Members members body) :
      Spells (.object members) ('{' :: (body ++ ['}']))

inductive Elements : List Value → List Char → Prop
  | last {v : Value} {before text after : List Char} (blankBefore : Blank before)
      (spelled : Spells v text) (blankAfter : Blank after) :
      Elements [v] (before ++ (text ++ after))
  | more {v : Value} {vs : List Value} {before text after later : List Char}
      (blankBefore : Blank before) (spelled : Spells v text) (blankAfter : Blank after)
      (others : Elements vs later) :
      Elements (v :: vs) (before ++ (text ++ (after ++ ',' :: later)))

/-- One or more `string : value` members, separated by commas. -/
inductive Members : List (List Item × Value) → List Char → Prop
  | last {name : List Item} {v : Value} {lead gap before text after : List Char}
      (blankLead : Blank lead) (blankGap : Blank gap) (blankBefore : Blank before)
      (spelled : Spells v text) (blankAfter : Blank after) :
      Members [(name, v)] (lead ++ (quoted name ++ (gap ++ ':' :: (before ++ (text ++ after)))))
  | more {name : List Item} {v : Value} {others : List (List Item × Value)}
      {lead gap before text after later : List Char}
      (blankLead : Blank lead) (blankGap : Blank gap) (blankBefore : Blank before)
      (spelled : Spells v text) (blankAfter : Blank after) (rest : Members others later) :
      Members ((name, v) :: others)
        (lead ++ (quoted name ++ (gap ++ ':' :: (before ++ (text ++ (after ++ ',' :: later))))))

end

/-- `JSON-text = ws value ws` -/
def Document (v : Value) (text : List Char) : Prop :=
  ∃ before spelled after, Blank before ∧ Spells v spelled ∧ Blank after ∧
    text = before ++ (spelled ++ after)

/-- `part` sits in `root` at nesting depth `depth`; the root itself is at depth 1. -/
inductive Occurs : Value → Nat → Value → Prop
  | root (v : Value) : Occurs v 1 v
  | element {elements : List Value} {v part : Value} {depth : Nat} (member : v ∈ elements)
      (inside : Occurs v depth part) : Occurs (.array elements) (depth + 1) part
  | member {members : List (List Item × Value)} {name : List Item} {v part : Value} {depth : Nat}
      (member : (name, v) ∈ members) (inside : Occurs v depth part) :
      Occurs (.object members) (depth + 1) part

def Value.children : Value → List Value
  | .array elements => elements
  | .object members => members.map Prod.snd
  | _ => []

theorem occurs_iff {v part : Value} {depth : Nat} :
    Occurs v depth part ↔
      (depth = 1 ∧ part = v) ∨ ∃ child ∈ v.children, ∃ d, depth = d + 1 ∧ Occurs child d part := by
  constructor
  · intro occurs
    cases occurs with
    | root => exact .inl ⟨rfl, rfl⟩
    | element member inside => exact .inr ⟨_, member, _, rfl, inside⟩
    | member member inside =>
        exact .inr ⟨_, List.mem_map.mpr ⟨_, member, rfl⟩, _, rfl, inside⟩
  · intro either
    rcases either with ⟨here, same⟩ | ⟨child, below, d, same, inside⟩
    · rw [here, same]
      exact .root v
    · subst same
      cases v with
      | array elements => exact .element below inside
      | object members =>
          rcases List.mem_map.mp below with ⟨⟨name, value⟩, listed, same⟩
          subst same
          exact .member listed inside
      | null => cases below
      | bool b => cases below
      | number literal => cases below
      | string items => cases below

def Value.isObject : Value → Bool
  | .object _ => true
  | _ => false

def startsValue (c : Char) : Bool :=
  c == '{' || c == '[' || c == '"' || c == 't' || c == 'f' || c == 'n' || c == '-' || c.isDigit

theorem Whole.lead {text : List Char} (whole : Whole text) :
    ∃ c later, text = c :: later ∧ c.isDigit = true := by
  cases whole with
  | zero => exact ⟨'0', [], rfl, by decide⟩
  | positive digits _ =>
      cases text with
      | nil => exact absurd rfl digits.1
      | cons c later => exact ⟨c, later, rfl, digits.2 c List.mem_cons_self⟩

theorem Number.lead {text : List Char} (number : Number text) :
    ∃ c later, text = c :: later ∧ (c = '-' ∨ c.isDigit = true) := by
  cases number with
  | @mk minus whole part power negative hasWhole _ _ =>
      rcases negative with absent | present
      · rcases hasWhole.lead with ⟨c, later, same, digit⟩
        exact ⟨c, _, by rw [absent, same]; rfl, .inr digit⟩
      · subst present
        exact ⟨'-', _, rfl, .inl rfl⟩

theorem Spells.lead {v : Value} {text : List Char} (spelled : Spells v text) :
    ∃ c later, text = c :: later ∧ startsValue c = true := by
  cases spelled with
  | null => exact ⟨'n', _, rfl, by decide⟩
  | bool b => cases b <;> exact ⟨_, _, rfl, by decide⟩
  | number literal =>
      rcases literal.property.lead with ⟨c, later, same, first⟩
      refine ⟨c, later, same, ?_⟩
      rcases first with minus | digit
      · rw [minus]
        decide
      · simp [startsValue, digit]
  | string items => exact ⟨'"', _, rfl, by decide⟩
  | emptyArray _ => exact ⟨'[', _, rfl, by decide⟩
  | array _ => exact ⟨'[', _, rfl, by decide⟩
  | emptyObject _ => exact ⟨'{', _, rfl, by decide⟩
  | object _ => exact ⟨'{', _, rfl, by decide⟩

private theorem brace_iff_of_lead {v : Value} {text : List Char} {c : Char}
    (lead : text.head? = some c) (other : c ≠ '{') (scalar : v.isObject = false) :
    text.head? = some '{' ↔ v.isObject = true := by
  simp [lead, other, scalar]

theorem Spells.brace_iff {v : Value} {text : List Char} (spelled : Spells v text) :
    text.head? = some '{' ↔ v.isObject = true := by
  cases spelled with
  | null => decide
  | bool b => cases b <;> decide
  | number literal =>
      rcases literal.property.lead with ⟨c, later, same, first⟩
      refine brace_iff_of_lead (by rw [same, List.head?_cons]) ?_ rfl
      intro brace
      rw [brace] at first
      exact absurd first (by decide)
  | string items => exact brace_iff_of_lead rfl (by decide) rfl
  | emptyArray _ => exact brace_iff_of_lead rfl (by decide) rfl
  | array _ => exact brace_iff_of_lead rfl (by decide) rfl
  | emptyObject _ => exact ⟨fun _ => rfl, fun _ => rfl⟩
  | object _ => exact ⟨fun _ => rfl, fun _ => rfl⟩

theorem Elements.prepend {elements : List Value} {body blank : List Char} (isBlank : Blank blank)
    (listed : Elements elements body) : Elements elements (blank ++ body) := by
  cases listed with
  | last before spelled after =>
      rw [← List.append_assoc]
      exact .last (isBlank.append before) spelled after
  | more before spelled after others =>
      rw [← List.append_assoc]
      exact .more (isBlank.append before) spelled after others

theorem Elements.lead {elements : List Value} {body : List Char} (listed : Elements elements body) :
    ∃ blank c later, Blank blank ∧ body = blank ++ c :: later ∧ startsValue c = true ∧
      Elements elements (c :: later) := by
  cases listed with
  | last before spelled after =>
      rcases spelled.lead with ⟨c, later, same, starts⟩
      subst same
      exact ⟨_, c, _, before, rfl, starts, .last blank_nil spelled after⟩
  | more before spelled after others =>
      rcases spelled.lead with ⟨c, later, same, starts⟩
      subst same
      exact ⟨_, c, _, before, rfl, starts, .more blank_nil spelled after others⟩

theorem Elements.first {v : Value} {vs : List Value} {body : List Char}
    (listed : Elements (v :: vs) body) : ∃ before text after c later, Blank before ∧
      Spells v text ∧ Blank after ∧ c ∈ [',', ']', '}'] ∧
      body ++ [']'] = before ++ (text ++ (after ++ c :: later)) := by
  cases listed with
  | @last _ before text after isBefore spelled isAfter =>
      exact ⟨before, text, after, ']', [], isBefore, spelled, isAfter, by decide, by simp⟩
  | @more _ _ before text after later isBefore spelled isAfter others =>
      exact ⟨before, text, after, ',', later ++ [']'], isBefore, spelled, isAfter, by decide,
        by simp⟩

theorem Members.prepend {members : List (List Item × Value)} {body blank : List Char}
    (isBlank : Blank blank) (listed : Members members body) : Members members (blank ++ body) := by
  cases listed with
  | last lead gap before spelled after =>
      rw [← List.append_assoc]
      exact .last (isBlank.append lead) gap before spelled after
  | more lead gap before spelled after others =>
      rw [← List.append_assoc]
      exact .more (isBlank.append lead) gap before spelled after others

theorem Members.lead {members : List (List Item × Value)} {body : List Char}
    (listed : Members members body) :
    ∃ blank later, Blank blank ∧ body = blank ++ '"' :: later ∧ Members members ('"' :: later) := by
  cases listed with
  | last lead gap before spelled after =>
      exact ⟨_, _, lead, rfl, .last blank_nil gap before spelled after⟩
  | more lead gap before spelled after others =>
      exact ⟨_, _, lead, rfl, .more blank_nil gap before spelled after others⟩

theorem Members.first {name : List Item} {v : Value} {others : List (List Item × Value)}
    {body : List Char} (listed : Members ((name, v) :: others) body) :
    ∃ lead gap before text after c later, Blank lead ∧ Blank gap ∧ Blank before ∧ Spells v text ∧
      Blank after ∧ c ∈ [',', ']', '}'] ∧ body ++ ['}'] =
        lead ++ (quoted name ++ (gap ++ ':' :: (before ++ (text ++ (after ++ c :: later))))) := by
  cases listed with
  | @last _ _ lead gap before text after isLead isGap isBefore spelled isAfter =>
      exact ⟨lead, gap, before, text, after, '}', [], isLead, isGap, isBefore, spelled, isAfter,
        by decide, by simp⟩
  | @more _ _ _ lead gap before text after later isLead isGap isBefore spelled isAfter rest =>
      exact ⟨lead, gap, before, text, after, ',', later ++ ['}'], isLead, isGap, isBefore, spelled,
        isAfter, by decide, by simp⟩

end O7Formal.Json
