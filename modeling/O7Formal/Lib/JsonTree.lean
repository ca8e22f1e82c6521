import O7Formal.Lib.ByteCodec
import O7Formal.Lib.Json

/-! JSON values as a program holds them after reading, and the compact text they are
written as: no whitespace, the short escapes where there is one, every other control
character as `\u00xx`.

`Value.tree` is what a text denotes; `Tree.compact` writes a text that denotes the tree it
was written from, and two trees are never written the same. -/

namespace O7Formal.Json

open Utf8 ByteCodec PrefixCode

inductive Numeral where
  | integer (n : Int)
  | float (literal : List Char)
  deriving DecidableEq, Repr

/-- A value with its strings decoded; the members of an object in the order written. -/
inductive Tree where
  | null
  | bool (b : Bool)
  | number (n : Numeral)
  | string (s : String)
  | array (elements : List Tree)
  | object (members : List (String × Tree))

def Tree.isObject : Tree → Bool
  | .object _ => true
  | _ => false

@[elab_as_elim]
theorem Tree.induct {motive : Tree → Prop} (null : motive .null) (bool : ∀ b, motive (.bool b))
    (number : ∀ n, motive (.number n)) (string : ∀ s, motive (.string s))
    (array : ∀ elements, (∀ t ∈ elements, motive t) → motive (.array elements))
    (object : ∀ members, (∀ p ∈ members, motive p.2) → motive (.object members))
    (t : Tree) : motive t :=
  @Tree.rec motive (fun elements => ∀ t ∈ elements, motive t)
    (fun members => ∀ p ∈ members, motive p.2) (fun p => motive p.2)
    null bool number string array object
    (fun _ member => absurd member List.not_mem_nil)
    (fun _ _ here others => List.forall_mem_cons.mpr ⟨here, others⟩)
    (fun _ member => absurd member List.not_mem_nil)
    (fun _ _ here others => List.forall_mem_cons.mpr ⟨here, others⟩)
    (fun _ _ here => here) t

def Tree.children : Tree → List Tree
  | .array elements => elements
  | .object members => members.map Prod.snd
  | _ => []

@[elab_as_elim]
theorem Tree.partsInduct {motive : Tree → Prop}
    (step : ∀ t, (∀ u ∈ t.children, motive u) → motive t) (t : Tree) : motive t := by
  have scalar : ∀ t : Tree, t.children = [] → motive t := by
    intro t none
    apply step
    rw [none]
    intro u member
    cases member
  induction t using Tree.induct with
  | null => exact scalar _ rfl
  | bool b => exact scalar _ rfl
  | number n => exact scalar _ rfl
  | string s => exact scalar _ rfl
  | array elements ih => exact step _ ih
  | object members ih => exact step _ (List.forall_mem_map.mpr ih)

/-- `part` sits in `root` at nesting depth `depth`; the root itself is at depth 1. -/
inductive Tree.Occurs : Tree → Nat → Tree → Prop
  | root (t : Tree) : Tree.Occurs t 1 t
  | child {t u part : Tree} {depth : Nat} (below : u ∈ t.children)
      (inside : Tree.Occurs u depth part) : Tree.Occurs t (depth + 1) part

def Tree.DistinctNames (t : Tree) : Prop :=
  ∀ depth members, t.Occurs depth (.object members) → (members.map Prod.fst).Nodup

theorem Tree.DistinctNames.child {t u : Tree} (distinct : t.DistinctNames) (below : u ∈ t.children) :
    u.DistinctNames := by
  intro depth members inside
  exact distinct (depth + 1) members (.child below inside)

theorem Tree.distinctNames_iff {t : Tree} : t.DistinctNames ↔
    (∀ members, t = .object members → (members.map Prod.fst).Nodup) ∧
      ∀ u ∈ t.children, u.DistinctNames := by
  constructor
  · intro distinct
    refine ⟨?_, fun u below => distinct.child below⟩
    intro members same
    rw [same] at distinct
    exact distinct 1 members (.root _)
  · intro both depth members occurs
    cases occurs with
    | root => exact both.1 members rfl
    | child below inside => exact both.2 _ below _ members inside

def paired : List Item → Bool
  | [] => true
  | .plain _ _ :: items => paired items
  | .short _ _ :: items => paired items
  | .unicode high :: .unicode low :: items =>
      if high.isHigh then low.isLow && paired items
      else !high.isLow && paired (.unicode low :: items)
  | .unicode unit :: items => !unit.isHigh && !unit.isLow && paired items

def readString (items : List Item) : Option String :=
  if paired items then some (String.ofList (decode items)) else none

/-- A literal without fraction and exponent is an integer if it is in range; `-0` is not. -/
def Numeral.ofLiteral : List Char → Numeral
  | '-' :: digits =>
      let value := Nat.ofDigitChars 10 digits 0
      if digits.all Char.isDigit ∧ 0 < value ∧ value ≤ 2 ^ 63 then .integer (-value)
      else .float ('-' :: digits)
  | digits =>
      let value := Nat.ofDigitChars 10 digits 0
      if digits.all Char.isDigit ∧ value < 2 ^ 64 then .integer value else .float digits

mutual

/-- What a value denotes, unless a string in it has a surrogate without its partner. -/
def Value.tree : Value → Option Tree
  | .null => some .null
  | .bool b => some (.bool b)
  | .number literal => some (.number (.ofLiteral literal.val))
  | .string items => (readString items).map .string
  | .array elements => (treeElements elements).map .array
  | .object members => (treeMembers members).map .object

def treeElements : List Value → Option (List Tree)
  | [] => some []
  | v :: vs => do
      let t ← v.tree
      let ts ← treeElements vs
      return t :: ts

def treeMembers : List (List Item × Value) → Option (List (String × Tree))
  | [] => some []
  | (name, v) :: others => do
      let key ← readString name
      let t ← v.tree
      let rest ← treeMembers others
      return (key, t) :: rest

end

theorem treeElements_some {vs : List Value} {ts : List Tree} (denotes : treeElements vs = some ts) :
    List.Forall₂ (fun v t => v.tree = some t) vs ts := by
  induction vs generalizing ts with
  | nil =>
      cases denotes
      exact .nil
  | cons v vs ih =>
      simp only [treeElements, Option.bind_eq_bind, Option.bind_eq_some_iff, Option.pure_def,
        Option.some.injEq] at denotes
      rcases denotes with ⟨t, here, rest, others, same⟩
      subst same
      exact .cons here (ih others)

theorem treeMembers_some {ms : List (List Item × Value)} {ts : List (String × Tree)}
    (denotes : treeMembers ms = some ts) :
    List.Forall₂ (fun m t => m.2.tree = some t.2) ms ts := by
  induction ms generalizing ts with
  | nil =>
      cases denotes
      exact .nil
  | cons m ms ih =>
      rcases m with ⟨name, v⟩
      simp only [treeMembers, Option.bind_eq_bind, Option.bind_eq_some_iff, Option.pure_def,
        Option.some.injEq] at denotes
      rcases denotes with ⟨key, _, t, here, rest, others, same⟩
      subst same
      exact .cons here (ih others)

theorem children_tree {v : Value} {t : Tree} (denotes : v.tree = some t) :
    List.Forall₂ (fun child u => child.tree = some u) v.children t.children := by
  cases v with
  | null => cases denotes; exact .nil
  | bool b => cases denotes; exact .nil
  | number literal => cases denotes; exact .nil
  | string items =>
      rcases Option.map_eq_some_iff.mp denotes with ⟨text, _, same⟩
      subst same
      exact .nil
  | array elements =>
      rcases Option.map_eq_some_iff.mp denotes with ⟨ts, listed, same⟩
      subst same
      exact treeElements_some listed
  | object members =>
      rcases Option.map_eq_some_iff.mp denotes with ⟨ts, listed, same⟩
      subst same
      exact List.forall₂_map_left_iff.mpr (List.forall₂_map_right_iff.mpr (treeMembers_some listed))

private theorem forall₂_mem_left {α β : Type} {R : α → β → Prop} {xs : List α} {ys : List β}
    (related : List.Forall₂ R xs ys) {x : α} (member : x ∈ xs) : ∃ y ∈ ys, R x y := by
  induction related with
  | nil => cases member
  | cons here _ ih =>
      rcases List.mem_cons.mp member with same | later
      · rw [same]
        exact ⟨_, List.mem_cons_self, here⟩
      · rcases ih later with ⟨y, listed, holds⟩
        exact ⟨y, List.mem_cons_of_mem _ listed, holds⟩

theorem Occurs.tree {v part : Value} {depth : Nat} (occurs : Occurs v depth part) {t : Tree}
    (denotes : v.tree = some t) : ∃ u, part.tree = some u ∧ t.Occurs depth u := by
  have step : ∀ {v child part : Value} {depth : Nat} {t : Tree}, child ∈ v.children →
      v.tree = some t → (∀ {u : Tree}, child.tree = some u →
        ∃ w, part.tree = some w ∧ u.Occurs depth w) →
      ∃ w, part.tree = some w ∧ t.Occurs (depth + 1) w := by
    intro v child part depth t below denotes inside
    rcases forall₂_mem_left (children_tree denotes) below with ⟨u, listed, childDenotes⟩
    rcases inside childDenotes with ⟨w, partDenotes, occurs⟩
    exact ⟨w, partDenotes, .child listed occurs⟩
  induction occurs generalizing t with
  | root v => exact ⟨t, denotes, .root t⟩
  | element member _ ih => exact step member denotes ih
  | member member _ ih => exact step (List.mem_map.mpr ⟨_, member, rfl⟩) denotes ih

theorem Tree.Occurs.value {t u : Tree} {depth : Nat} (occurs : t.Occurs depth u) {v : Value}
    (denotes : v.tree = some t) : ∃ part, part.tree = some u ∧ Json.Occurs v depth part := by
  induction occurs generalizing v with
  | root t => exact ⟨v, denotes, .root v⟩
  | child below _ ih =>
      rcases forall₂_mem_left (children_tree denotes).flip below with ⟨child, listed, here⟩
      rcases ih here with ⟨part, partDenotes, inside⟩
      exact ⟨part, partDenotes, occurs_iff.mpr (.inr ⟨child, listed, _, rfl, inside⟩)⟩

theorem isObject_tree {v : Value} {t : Tree} (denotes : v.tree = some t) :
    t.isObject = v.isObject := by
  cases v with
  | null => cases denotes; rfl
  | bool b => cases denotes; rfl
  | number literal => cases denotes; rfl
  | string items =>
      rcases Option.map_eq_some_iff.mp denotes with ⟨text, _, same⟩
      rw [← same]
      rfl
  | array elements =>
      rcases Option.map_eq_some_iff.mp denotes with ⟨ts, _, same⟩
      rw [← same]
      rfl
  | object members =>
      rcases Option.map_eq_some_iff.mp denotes with ⟨ts, _, same⟩
      rw [← same]
      rfl

def escape (c : Char) : List Char :=
  if c = '"' then ['\\', '"']
  else if c = '\\' then ['\\', '\\']
  else if c = '\x08' then ['\\', 'b']
  else if c = '\x0c' then ['\\', 'f']
  else if c = '\n' then ['\\', 'n']
  else if c = '\r' then ['\\', 'r']
  else if c = '\t' then ['\\', 't']
  else if c.toNat < 0x20 then
    ['\\', 'u', '0', '0', hexDigit (c.toNat / 16), hexDigit (c.toNat % 16)]
  else [c]

def quote (s : String) : List Char := '"' :: (s.toList.flatMap escape ++ ['"'])

def writeInteger (n : Int) : List Char :=
  if n < 0 then '-' :: Nat.toDigits 10 n.natAbs else Nat.toDigits 10 n.natAbs

def Numeral.write : Numeral → List Char
  | .integer n => writeInteger n
  | .float literal => literal

mutual

def Tree.compact : Tree → List Char
  | .null => "null".toList
  | .bool b => (boolWord b).toList
  | .number n => n.write
  | .string s => quote s
  | .array [] => ['[', ']']
  | .array (t :: rest) => '[' :: (t.compact ++ moreElements rest)
  | .object [] => ['{', '}']
  | .object ((name, t) :: rest) =>
      '{' :: (quote name ++ ':' :: (t.compact ++ moreMembers rest))

def moreElements : List Tree → List Char
  | [] => [']']
  | t :: rest => ',' :: (t.compact ++ moreElements rest)

def moreMembers : List (String × Tree) → List Char
  | [] => ['}']
  | (name, t) :: rest => ',' :: (quote name ++ ':' :: (t.compact ++ moreMembers rest))

end

theorem toDigits_lead {n : Nat} (positive : 0 < n) : (Nat.toDigits 10 n).head? ≠ some '0' := by
  induction n using Nat.strongRecOn with
  | ind n ih =>
      by_cases small : n < 10
      · rw [Nat.toDigits_of_lt_base small]
        interval_cases n <;> decide
      · rw [Nat.toDigits_of_base_le (by decide) (by omega), List.head?_append_of_ne_nil]
        · exact ih (n / 10) (by omega) (by omega)
        · exact Nat.toDigits_ne_nil

theorem digits_toDigits (n : Nat) : Digits (Nat.toDigits 10 n) :=
  ⟨Nat.toDigits_ne_nil, fun _ member => Nat.isDigit_of_mem_toDigits (by decide) (by decide) member⟩

theorem whole_toDigits (n : Nat) : Whole (Nat.toDigits 10 n) := by
  by_cases zero : n = 0
  · rw [zero, Nat.toDigits_zero]
    exact .zero
  · exact .positive (digits_toDigits n) (toDigits_lead (Nat.pos_of_ne_zero zero))

theorem number_writeInteger (n : Int) : Number (writeInteger n) := by
  have shape : ∀ minus : List Char, minus = [] ∨ minus = ['-'] →
      Number (minus ++ (Nat.toDigits 10 n.natAbs ++ ([] ++ []))) := by
    intro minus negative
    exact .mk negative (whole_toDigits n.natAbs) .absent .absent
  unfold writeInteger
  split_ifs
  · simpa using shape ['-'] (.inr rfl)
  · simpa using shape [] (.inl rfl)

theorem ofLiteral_writeInteger {n : Int} (low : -2 ^ 63 ≤ n) (high : n < 2 ^ 64) :
    Numeral.ofLiteral (writeInteger n) = .integer n := by
  have digits := (digits_toDigits n.natAbs).2
  unfold writeInteger
  split_ifs with negative
  · rw [Numeral.ofLiteral]
    simp only [Nat.ofDigitChars_ten_toDigits]
    rw [if_pos ⟨List.all_eq_true.mpr digits, by omega, by omega⟩]
    congr 1
    omega
  · cases written : Nat.toDigits 10 n.natAbs with
    | nil => exact absurd written Nat.toDigits_ne_nil
    | cons c later =>
        have first : c.isDigit = true := digits c (by rw [written]; exact List.mem_cons_self)
        have plain : c ≠ '-' := by
          intro minus
          rw [minus] at first
          exact absurd first (by decide)
        rw [Numeral.ofLiteral, ← written]
        · simp only [Nat.ofDigitChars_ten_toDigits]
          rw [if_pos ⟨List.all_eq_true.mpr digits, by omega⟩]
          congr 1
          omega
        · intro rest same
          exact plain (List.cons.inj same).1

theorem paired_unicode {unit : CodeUnit} (items : List Item) (high : unit.isHigh = false)
    (low : unit.isLow = false) : paired (.unicode unit :: items) = paired items := by
  cases items with
  | nil => simp [paired, high, low]
  | cons item items =>
      cases item with
      | plain c unescaped => simp [paired, high, low]
      | short c listed => simp [paired, high, low]
      | unicode next => simp [paired, high, low]

def Item.Denotes (item : Item) (c : Char) : Prop :=
  ∀ items, decode (item :: items) = c :: decode items ∧ paired (item :: items) = paired items

private theorem hexNumber_control : ∀ n < 0x20,
    hexNumber ['0', '0', hexDigit (n / 16), hexDigit (n % 16)] = some n := by
  decide

private theorem control_item {c : Char} (control : c.toNat < 0x20) : ∃ item : Item,
    item.spell = ['\\', 'u', '0', '0', hexDigit (c.toNat / 16), hexDigit (c.toNat % 16)] ∧
      item.Denotes c := by
  let unit : CodeUnit := ⟨_, c.toNat, rfl, hexNumber_control c.toNat control⟩
  have high : unit.isHigh = false := by
    simp [CodeUnit.isHigh, unit]
    omega
  have low : unit.isLow = false := by
    simp [CodeUnit.isLow, unit]
    omega
  refine ⟨.unicode unit, rfl, fun items => ⟨?_, paired_unicode items high low⟩⟩
  rw [decode_unicode (by simp [high]), CodeUnit.scalar, high, low]
  simp [unit, Char.ofNat_toNat]

theorem escape_item (c : Char) : ∃ item : Item, item.spell = escape c ∧ item.Denotes c := by
  have short : ∀ d ∈ shortEscapes, shortMeaning d = c → escape c = ['\\', d] →
      ∃ item : Item, item.spell = escape c ∧ item.Denotes c := by
    intro d listed meaning spelled
    exact ⟨.short d listed, spelled.symm, fun items => ⟨by rw [decode, meaning], rfl⟩⟩
  by_cases mark : c = '"'
  · exact short '"' (by decide) mark.symm (by rw [mark]; rfl)
  by_cases slash : c = '\\'
  · exact short '\\' (by decide) slash.symm (by rw [slash]; rfl)
  by_cases back : c = '\x08'
  · exact short 'b' (by decide) back.symm (by rw [back]; rfl)
  by_cases feed : c = '\x0c'
  · exact short 'f' (by decide) feed.symm (by rw [feed]; rfl)
  by_cases line : c = '\n'
  · exact short 'n' (by decide) line.symm (by rw [line]; rfl)
  by_cases ret : c = '\r'
  · exact short 'r' (by decide) ret.symm (by rw [ret]; rfl)
  by_cases tab : c = '\t'
  · exact short 't' (by decide) tab.symm (by rw [tab]; rfl)
  by_cases control : c.toNat < 0x20
  · have spelled : escape c =
        ['\\', 'u', '0', '0', hexDigit (c.toNat / 16), hexDigit (c.toNat % 16)] := by
      simp only [escape, mark, slash, back, feed, line, ret, tab, control, if_true, if_false]
    rw [spelled]
    exact control_item control
  · have spelled : escape c = [c] := by
      simp only [escape, mark, slash, back, feed, line, ret, tab, control, if_false]
    exact ⟨.plain c ⟨by omega, mark, slash⟩, spelled.symm, fun items => ⟨rfl, rfl⟩⟩

theorem quote_items (s : String) :
    ∃ items, quoted items = quote s ∧ readString items = some s := by
  have written : ∀ text : List Char, ∃ items, spell items = text.flatMap escape ∧
      decode items = text ∧ paired items = true := by
    intro text
    induction text with
    | nil => exact ⟨[], rfl, rfl, rfl⟩
    | cons c text ih =>
        rcases ih with ⟨items, spelled, decoded, pairs⟩
        rcases escape_item c with ⟨item, here, denotes⟩
        refine ⟨item :: items, ?_, by rw [(denotes items).1, decoded],
          by rw [(denotes items).2, pairs]⟩
        rw [spell, List.flatMap_cons, List.flatMap_cons, here, ← spelled, spell]
  rcases written s.toList with ⟨items, spelled, decoded, pairs⟩
  refine ⟨items, by rw [quoted, quote, spelled], ?_⟩
  rw [readString, if_pos pairs, decoded, String.ofList_toList]

mutual

def Tree.integral : Tree → Bool
  | .number (.integer n) => -2 ^ 63 ≤ n && n < 2 ^ 64
  | .number (.float _) => false
  | .array elements => integralElements elements
  | .object members => integralMembers members
  | _ => true

def integralElements : List Tree → Bool
  | [] => true
  | t :: rest => t.integral && integralElements rest

def integralMembers : List (String × Tree) → Bool
  | [] => true
  | (_, t) :: rest => t.integral && integralMembers rest

end

/-- A text that spells a value which denotes `t`. -/
def SpellsTree (t : Tree) (text : List Char) : Prop := ∃ v, Spells v text ∧ v.tree = some t

private theorem elements_spell {t : Tree} {rest : List Tree}
    (spells : ∀ u ∈ t :: rest, SpellsTree u u.compact) :
    ∃ vs body, Elements vs body ∧ t.compact ++ moreElements rest = body ++ [']'] ∧
      treeElements vs = some (t :: rest) := by
  induction rest generalizing t with
  | nil =>
      rcases spells t List.mem_cons_self with ⟨v, spelled, denotes⟩
      refine ⟨[v], _, .last blank_nil spelled blank_nil, by simp [moreElements], ?_⟩
      simp [treeElements, denotes]
  | cons u rest ih =>
      rcases spells t List.mem_cons_self with ⟨v, spelled, denotes⟩
      rcases ih (fun w member => spells w (List.mem_cons_of_mem _ member)) with
        ⟨vs, body, listed, written, others⟩
      refine ⟨v :: vs, _, .more blank_nil spelled blank_nil listed, ?_, ?_⟩
      · rw [moreElements, written]
        simp
      · simp [treeElements, denotes, others]

private theorem members_spell {name : String} {t : Tree} {rest : List (String × Tree)}
    (spells : ∀ p ∈ (name, t) :: rest, SpellsTree p.2 p.2.compact) :
    ∃ ms body, Members ms body ∧
      quote name ++ ':' :: (t.compact ++ moreMembers rest) = body ++ ['}'] ∧
      treeMembers ms = some ((name, t) :: rest) := by
  induction rest generalizing name t with
  | nil =>
      rcases spells (name, t) List.mem_cons_self with ⟨v, spelled, denotes⟩
      rcases quote_items name with ⟨items, quotes, read⟩
      refine ⟨[(items, v)], _, .last blank_nil blank_nil blank_nil spelled blank_nil, ?_, ?_⟩
      · simp [moreMembers, quotes]
      · simp [treeMembers, denotes, read]
  | cons p rest ih =>
      rcases spells (name, t) List.mem_cons_self with ⟨v, spelled, denotes⟩
      rcases quote_items name with ⟨items, quotes, read⟩
      rcases @ih p.1 p.2 (fun q member => spells q (List.mem_cons_of_mem _ member)) with
        ⟨ms, body, listed, written, others⟩
      refine ⟨(items, v) :: ms, _, .more blank_nil blank_nil blank_nil spelled blank_nil listed,
        ?_, ?_⟩
      · rw [moreMembers, written]
        simp [quotes]
      · simp [treeMembers, denotes, read, others]

theorem integralElements_iff {elements : List Tree} :
    integralElements elements = true ↔ ∀ t ∈ elements, t.integral = true := by
  induction elements with
  | nil => simp [integralElements]
  | cons t rest ih => simp [integralElements, ih]

theorem integralMembers_iff {members : List (String × Tree)} :
    integralMembers members = true ↔ ∀ p ∈ members, p.2.integral = true := by
  induction members with
  | nil => simp [integralMembers]
  | cons p rest ih => simp [integralMembers, ih]

theorem compact_spells_of (t : Tree)
    (numbers : ∀ depth n, t.Occurs depth (.number n) → SpellsTree (.number n) n.write) :
    SpellsTree t t.compact := by
  induction t using Tree.induct with
  | null => exact ⟨.null, .null, rfl⟩
  | bool b => exact ⟨.bool b, .bool b, rfl⟩
  | number n => exact numbers 1 n (.root _)
  | string s =>
      rcases quote_items s with ⟨items, spelled, read⟩
      refine ⟨.string items, ?_, by rw [Value.tree, read]; rfl⟩
      rw [Tree.compact, ← spelled]
      exact .string items
  | array elements ih =>
      have parts : ∀ u ∈ elements, SpellsTree u u.compact := by
        intro u member
        exact ih u member (fun depth n inside => numbers (depth + 1) n (.child member inside))
      cases elements with
      | nil => exact ⟨.array [], .emptyArray blank_nil, rfl⟩
      | cons t rest =>
          rcases elements_spell parts with ⟨vs, body, listed, written, denotes⟩
          refine ⟨.array vs, ?_, by rw [Value.tree, denotes]; rfl⟩
          rw [Tree.compact, written]
          exact .array listed
  | object members ih =>
      have parts : ∀ p ∈ members, SpellsTree p.2 p.2.compact := by
        intro p member
        have below : p.2 ∈ (Tree.object members).children := List.mem_map.mpr ⟨p, member, rfl⟩
        exact ih p member (fun depth n inside => numbers (depth + 1) n (.child below inside))
      cases members with
      | nil => exact ⟨.object [], .emptyObject blank_nil, rfl⟩
      | cons p rest =>
          rcases @members_spell p.1 p.2 rest parts with ⟨ms, body, listed, written, denotes⟩
          refine ⟨.object ms, ?_, by rw [Value.tree, denotes]; rfl⟩
          rw [Tree.compact, written]
          exact .object listed

theorem integral_child {t u : Tree} (integral : t.integral = true) (below : u ∈ t.children) :
    u.integral = true := by
  cases t with
  | array elements => exact integralElements_iff.mp integral u below
  | object members =>
      rcases List.mem_map.mp below with ⟨p, member, same⟩
      rw [← same]
      exact integralMembers_iff.mp integral p member
  | null => cases below
  | bool b => cases below
  | number n => cases below
  | string s => cases below

theorem integer_spells {n : Int} (low : -2 ^ 63 ≤ n) (high : n < 2 ^ 64) :
    SpellsTree (.number (.integer n)) (writeInteger n) := by
  refine ⟨.number ⟨writeInteger n, number_writeInteger n⟩, .number _, ?_⟩
  rw [Value.tree, ofLiteral_writeInteger low high]

theorem compact_spells (t : Tree) (integral : t.integral = true) : SpellsTree t t.compact := by
  apply compact_spells_of
  intro depth n occurs
  generalize part : Tree.number n = u at occurs
  induction occurs with
  | root t =>
      subst part
      cases n with
      | integer n =>
          simp only [Tree.integral, Bool.and_eq_true, decide_eq_true_eq] at integral
          exact integer_spells integral.1 integral.2
      | float literal => cases integral
  | child below inside ih => exact ih (integral_child integral below) part

theorem compact_document (t : Tree) (integral : t.integral = true) :
    ∃ v, Document v t.compact ∧ v.tree = some t := by
  rcases compact_spells t integral with ⟨v, spelled, denotes⟩
  exact ⟨v, ⟨[], t.compact, [], blank_nil, spelled, blank_nil, by simp⟩, denotes⟩

private def unescape : List Char → Option (Char × List Char)
  | '\\' :: 'u' :: a :: b :: c :: d :: rest =>
      (hexNumber [a, b, c, d]).map fun n => (Char.ofNat n, rest)
  | '\\' :: c :: rest => some (shortMeaning c, rest)
  | c :: rest => some (c, rest)
  | [] => none

private theorem unescape_escape (c : Char) (rest : List Char) :
    unescape (escape c ++ rest) = some (c, rest) := by
  unfold escape
  split_ifs with mark slash back feed line ret tab control
  · rw [mark]; rfl
  · rw [slash]; rfl
  · rw [back]; rfl
  · rw [feed]; rfl
  · rw [line]; rfl
  · rw [ret]; rfl
  · rw [tab]; rfl
  · simp only [List.cons_append, List.nil_append, unescape, hexNumber_control c.toNat control,
      Option.map_some, Char.ofNat_toNat]
  · rw [List.cons_append, List.nil_append, unescape]
    · intro a b e f later same
      exact absurd same slash
    · intro d later same
      exact absurd same slash

theorem decodes_escape : Decodes (fun _ => True) escape := by
  intro c d r t _ _ same
  have read : unescape (escape c ++ r) = unescape (escape d ++ t) := by rw [same]
  rw [unescape_escape, unescape_escape] at read
  exact Prod.mk.inj (Option.some.inj read)

private theorem escape_lead (c : Char) : ∃ d later, escape c = d :: later ∧ d ≠ '"' := by
  unfold escape
  split_ifs with mark
  all_goals first
    | exact ⟨c, [], rfl, mark⟩
    | exact ⟨'\\', _, rfl, by decide⟩

theorem decodes_quote : Decodes (fun _ => True) quote := by
  have strings : ∀ (xs ys r t : List Char),
      xs.flatMap escape ++ '"' :: r = ys.flatMap escape ++ '"' :: t → xs = ys ∧ r = t := by
    intro xs
    induction xs with
    | nil =>
        intro ys r t same
        cases ys with
        | nil => exact ⟨rfl, by simpa using same⟩
        | cons y ys =>
            rcases escape_lead y with ⟨d, later, written, other⟩
            simp only [List.flatMap_cons, written, List.flatMap_nil, List.nil_append,
              List.cons_append, List.cons.injEq] at same
            exact absurd same.1.symm other
    | cons x xs ih =>
        intro ys r t same
        cases ys with
        | nil =>
            rcases escape_lead x with ⟨d, later, written, other⟩
            simp only [List.flatMap_cons, written, List.flatMap_nil, List.nil_append,
              List.cons_append, List.cons.injEq] at same
            exact absurd same.1 other
        | cons y ys =>
            simp only [List.flatMap_cons, List.append_assoc] at same
            rcases decodes_escape trivial trivial same with ⟨first, rest⟩
            rcases ih ys r t rest with ⟨others, tail⟩
            exact ⟨by rw [first, others], tail⟩
  intro a b r t _ _ same
  simp only [quote, List.cons_append, List.append_assoc, List.cons.injEq, true_and,
    List.nil_append] at same
  rcases strings _ _ _ _ same with ⟨chars, rest⟩
  exact ⟨String.toList_injective chars, rest⟩

def Stops (r : List Char) : Prop := ∀ c ∈ r.head?, c.isDigit = false

private theorem takeWhile_digits {digits r : List Char} (all : ∀ c ∈ digits, c.isDigit = true)
    (stops : Stops r) : (digits ++ r).takeWhile Char.isDigit = digits := by
  rw [List.takeWhile_append_of_pos all]
  cases r with
  | nil => simp
  | cons c r =>
      have other := stops c rfl
      simp [other]

theorem toDigits_decodes {m n : Nat} {r t : List Char} (stopsR : Stops r) (stopsT : Stops t)
    (same : Nat.toDigits 10 m ++ r = Nat.toDigits 10 n ++ t) : m = n ∧ r = t := by
  have digits := congrArg (List.takeWhile Char.isDigit) same
  rw [takeWhile_digits (digits_toDigits m).2 stopsR, takeWhile_digits (digits_toDigits n).2 stopsT]
    at digits
  have value := congrArg (fun text => Nat.ofDigitChars 10 text 0) digits
  simp only [Nat.ofDigitChars_ten_toDigits] at value
  rw [digits] at same
  exact ⟨value, List.append_cancel_left same⟩

private theorem toDigits_cons (n : Nat) :
    ∃ c later, Nat.toDigits 10 n = c :: later ∧ c.isDigit = true := by
  cases written : Nat.toDigits 10 n with
  | nil => exact absurd written Nat.toDigits_ne_nil
  | cons c later =>
      exact ⟨c, later, rfl, (digits_toDigits n).2 c (by rw [written]; exact List.mem_cons_self)⟩

theorem writeInteger_decodes {m n : Int} {r t : List Char} (stopsR : Stops r) (stopsT : Stops t)
    (same : writeInteger m ++ r = writeInteger n ++ t) : m = n ∧ r = t := by
  have signs : ∀ {k l : Nat} {x y : List Char},
      '-' :: Nat.toDigits 10 k ++ x = Nat.toDigits 10 l ++ y → False := by
    intro k l x y clash
    rcases toDigits_cons l with ⟨c, later, written, digit⟩
    rw [written] at clash
    rw [← (List.cons.inj clash).1] at digit
    exact absurd digit (by decide)
  unfold writeInteger at same
  split_ifs at same with negM negN negN
  · rcases toDigits_decodes stopsR stopsT (List.cons.inj same).2 with ⟨value, rest⟩
    exact ⟨by omega, rest⟩
  · exact (signs same).elim
  · exact (signs same.symm).elim
  · rcases toDigits_decodes stopsR stopsT same with ⟨value, rest⟩
    exact ⟨by omega, rest⟩

/-- Which constructor a text written from a tree starts like. -/
private def sort (c : Char) : Nat :=
  if c = 'n' then 0 else if c = 't' ∨ c = 'f' then 1 else if c = '-' ∨ c.isDigit = true then 2
  else if c = '"' then 3 else if c = '[' then 4 else if c = '{' then 5 else 6

private def Tree.sort : Tree → Nat
  | .null => 0
  | .bool _ => 1
  | .number _ => 2
  | .string _ => 3
  | .array _ => 4
  | .object _ => 5

private theorem sort_digit {c : Char} (digit : c.isDigit = true) : Json.sort c = 2 := by
  have plain : ∀ d : Char, d.isDigit = false → c ≠ d := by
    intro d other same
    rw [same, other] at digit
    cases digit
  rw [Json.sort, if_neg (plain 'n' (by decide)), if_neg, if_pos (.inr digit)]
  simp [plain 't' (by decide), plain 'f' (by decide)]

private theorem compact_lead (t : Tree) (integral : t.integral = true) :
    ∃ c later, t.compact = c :: later ∧ Json.sort c = t.sort := by
  cases t with
  | null => exact ⟨'n', _, rfl, rfl⟩
  | bool b => cases b <;> exact ⟨_, _, rfl, rfl⟩
  | number n =>
      cases n with
      | float literal => cases integral
      | integer n =>
          rcases toDigits_cons n.natAbs with ⟨c, later, written, digit⟩
          by_cases negative : n < 0
          · exact ⟨'-', _, by rw [Tree.compact, Numeral.write, writeInteger, if_pos negative], rfl⟩
          · refine ⟨c, later, ?_, sort_digit digit⟩
            rw [Tree.compact, Numeral.write, writeInteger, if_neg negative, written]
  | string s => exact ⟨'"', _, rfl, rfl⟩
  | array elements => cases elements <;> exact ⟨'[', _, rfl, rfl⟩
  | object members => cases members <;> exact ⟨'{', _, rfl, rfl⟩

private def ReadsBack (t : Tree) : Prop :=
  t.integral = true → ∀ (u : Tree) (r r' : List Char), u.integral = true → Stops r → Stops r' →
    t.compact ++ r = u.compact ++ r' → t = u ∧ r = r'

private theorem stops_cons {c : Char} (other : c.isDigit = false) (r : List Char) :
    Stops (c :: r) := by
  intro d first
  rwa [← Option.some.inj first]

private theorem stops_moreElements (rest : List Tree) (r : List Char) :
    Stops (moreElements rest ++ r) := by
  cases rest <;> exact stops_cons (by decide) _

private theorem stops_moreMembers (rest : List (String × Tree)) (r : List Char) :
    Stops (moreMembers rest ++ r) := by
  cases rest <;> exact stops_cons (by decide) _

private theorem moreElements_decodes {xs : List Tree} (reads : ∀ t ∈ xs, ReadsBack t)
    (integral : integralElements xs = true) :
    ∀ (ys : List Tree) (r r' : List Char), integralElements ys = true →
      moreElements xs ++ r = moreElements ys ++ r' → xs = ys ∧ r = r' := by
  induction xs with
  | nil =>
      intro ys r r' _ same
      cases ys with
      | nil => exact ⟨rfl, (List.cons.inj same).2⟩
      | cons y ys => exact absurd (List.cons.inj same).1 (by decide)
  | cons x xs ih =>
      intro ys r r' other same
      cases ys with
      | nil => exact absurd (List.cons.inj same).1 (by decide)
      | cons y ys =>
          simp only [integralElements, Bool.and_eq_true] at integral other
          simp only [moreElements, List.cons_append, List.append_assoc, List.cons.injEq,
            true_and] at same
          rcases reads x List.mem_cons_self integral.1 y _ _ other.1 (stops_moreElements xs r)
              (stops_moreElements ys r') same with ⟨first, tail⟩
          rcases ih (fun t member => reads t (List.mem_cons_of_mem _ member)) integral.2 ys r r'
              other.2 tail with ⟨others, last⟩
          exact ⟨by rw [first, others], last⟩

private theorem moreMembers_decodes {xs : List (String × Tree)} (reads : ∀ p ∈ xs, ReadsBack p.2)
    (integral : integralMembers xs = true) :
    ∀ (ys : List (String × Tree)) (r r' : List Char), integralMembers ys = true →
      moreMembers xs ++ r = moreMembers ys ++ r' → xs = ys ∧ r = r' := by
  induction xs with
  | nil =>
      intro ys r r' _ same
      cases ys with
      | nil => exact ⟨rfl, (List.cons.inj same).2⟩
      | cons y ys => exact absurd (List.cons.inj same).1 (by decide)
  | cons x xs ih =>
      intro ys r r' other same
      cases ys with
      | nil => exact absurd (List.cons.inj same).1 (by decide)
      | cons y ys =>
          simp only [integralMembers, Bool.and_eq_true] at integral other
          simp only [moreMembers, List.cons_append, List.append_assoc, List.cons.injEq,
            true_and] at same
          rcases decodes_quote trivial trivial same with ⟨name, colon⟩
          rcases reads x List.mem_cons_self integral.1 y.2 _ _ other.1 (stops_moreMembers xs r)
              (stops_moreMembers ys r') (List.cons.inj colon).2 with ⟨first, tail⟩
          rcases ih (fun p member => reads p (List.mem_cons_of_mem _ member)) integral.2 ys r r'
              other.2 tail with ⟨others, last⟩
          exact ⟨by rw [Prod.ext name first, others], last⟩

private theorem compact_ne_close {t : Tree} (integral : t.integral = true) {c : Char}
    {r r' : List Char} (close : Json.sort c = 6) : c :: r ≠ t.compact ++ r' := by
  intro same
  rcases compact_lead t integral with ⟨d, later, written, sorted⟩
  rw [written, List.cons_append] at same
  rw [← (List.cons.inj same).1, close] at sorted
  cases t <;> cases sorted

private theorem array_decodes {xs ys : List Tree} {r r' : List Char}
    (reads : ∀ t ∈ xs, ReadsBack t) (integral : integralElements xs = true)
    (other : integralElements ys = true)
    (same : (Tree.array xs).compact ++ r = (Tree.array ys).compact ++ r') : xs = ys ∧ r = r' := by
  cases xs with
  | nil =>
      cases ys with
      | nil => simpa [Tree.compact] using same
      | cons y ys =>
          simp only [integralElements, Bool.and_eq_true] at other
          simp only [Tree.compact, List.cons_append, List.append_assoc, List.cons.injEq,
            true_and] at same
          exact absurd same (compact_ne_close other.1 rfl)
  | cons x xs =>
      cases ys with
      | nil =>
          simp only [integralElements, Bool.and_eq_true] at integral
          simp only [Tree.compact, List.cons_append, List.append_assoc, List.cons.injEq,
            true_and] at same
          exact absurd same.symm (compact_ne_close integral.1 rfl)
      | cons y ys =>
          apply moreElements_decodes reads integral (y :: ys) r r' other
          simpa [Tree.compact, moreElements] using same

private theorem object_decodes {xs ys : List (String × Tree)} {r r' : List Char}
    (reads : ∀ p ∈ xs, ReadsBack p.2) (integral : integralMembers xs = true)
    (other : integralMembers ys = true)
    (same : (Tree.object xs).compact ++ r = (Tree.object ys).compact ++ r') : xs = ys ∧ r = r' := by
  cases xs with
  | nil =>
      cases ys with
      | nil => simpa [Tree.compact] using same
      | cons y ys => simp [Tree.compact, quote] at same
  | cons x xs =>
      cases ys with
      | nil => simp [Tree.compact, quote] at same
      | cons y ys =>
          apply moreMembers_decodes reads integral (y :: ys) r r' other
          simpa [Tree.compact, moreMembers] using same

private theorem sort_eq {t u : Tree} {r r' : List Char} (integralT : t.integral = true)
    (integralU : u.integral = true) (same : t.compact ++ r = u.compact ++ r') :
    t.sort = u.sort := by
  rcases compact_lead t integralT with ⟨c, later, written, sorted⟩
  rcases compact_lead u integralU with ⟨d, later', written', sorted'⟩
  rw [written, written'] at same
  rw [← sorted, ← sorted', (List.cons.inj same).1]

private theorem compact_readsBack (t : Tree) : ReadsBack t := by
  induction t using Tree.induct with
  | null =>
      intro _ u r r' integral _ _ same
      cases u <;> try cases sort_eq rfl integral same
      exact ⟨rfl, List.append_cancel_left same⟩
  | bool b =>
      intro _ u r r' integral _ _ same
      cases u <;> try cases sort_eq rfl integral same
      rename_i b'
      cases b <;> cases b' <;> simp_all [Tree.compact, boolWord]
  | number n =>
      intro integralN u r r' integral stops stops' same
      cases u <;> try cases sort_eq integralN integral same
      rename_i n'
      cases n with
      | float literal => cases integralN
      | integer n =>
          cases n' with
          | float literal => cases integral
          | integer n' =>
              rcases writeInteger_decodes stops stops' same with ⟨value, rest⟩
              exact ⟨by rw [value], rest⟩
  | string s =>
      intro _ u r r' integral _ _ same
      cases u <;> try cases sort_eq rfl integral same
      rcases decodes_quote trivial trivial same with ⟨text, rest⟩
      exact ⟨by rw [text], rest⟩
  | array elements ih =>
      intro integralT u r r' integral _ _ same
      cases u <;> try cases sort_eq integralT integral same
      rcases array_decodes ih integralT integral same with ⟨others, rest⟩
      exact ⟨by rw [others], rest⟩
  | object members ih =>
      intro integralT u r r' integral _ _ same
      cases u <;> try cases sort_eq integralT integral same
      rcases object_decodes ih integralT integral same with ⟨others, rest⟩
      exact ⟨by rw [others], rest⟩

theorem compact_injective {t u : Tree} (integralT : t.integral = true)
    (integralU : u.integral = true) (same : t.compact = u.compact) : t = u := by
  have nothing : Stops [] := by
    intro c first
    cases first
  exact (compact_readsBack t integralT u [] [] integralU nothing nothing (by rw [same])).1

def escapeByte (b : UInt8) : List UInt8 :=
  strictly b.toNat fun n =>
    bif Nat.ble 93 n || (Nat.ble 35 n && Nat.ble n 91) then [b] else utf8 (escape (Char.ofNat n))

def quoteBytes (s : String) : List UInt8 := 34 :: ((storedBytes s).flatMap escapeByte ++ [34])

mutual

def Tree.bytes : Tree → List UInt8
  | .null => utf8 "null".toList
  | .bool b => utf8 (boolWord b).toList
  | .number n => utf8 n.write
  | .string s => quoteBytes s
  | .array [] => [91, 93]
  | .array (t :: rest) => 91 :: (t.bytes ++ moreElementBytes rest)
  | .object [] => [123, 125]
  | .object ((name, t) :: rest) =>
      123 :: (quoteBytes name ++ 58 :: (t.bytes ++ moreMemberBytes rest))

def moreElementBytes : List Tree → List UInt8
  | [] => [93]
  | t :: rest => 44 :: (t.bytes ++ moreElementBytes rest)

def moreMemberBytes : List (String × Tree) → List UInt8
  | [] => [125]
  | (name, t) :: rest => 44 :: (quoteBytes name ++ 58 :: (t.bytes ++ moreMemberBytes rest))

end

private theorem escapeByte_ascii : ∀ n < 0x80,
    escapeByte (Char.ofNat n).toUInt8 = utf8 (escape (Char.ofNat n)) := by
  decide +kernel

private theorem flatMap_escapeByte (c : Char) :
    (String.utf8EncodeChar c).flatMap escapeByte = utf8 (escape c) := by
  by_cases low : IsAscii c
  · rw [utf8EncodeChar_ascii low, List.flatMap_singleton]
    exact ascii_forall (motive := fun c => escapeByte c.toUInt8 = utf8 (escape c))
      escapeByte_ascii low
  · have kept : ∀ b ∈ String.utf8EncodeChar c, escapeByte b = [b] := by
      intro b member
      have high : 0x80 ≤ b.toNat := utf8EncodeChar_high low b member
      have large : Nat.ble 93 b.toNat = true := Nat.ble_eq.mpr (by omega)
      rw [escapeByte, strictly_eq, large, Bool.true_or, cond_true]
    have plain : escape c = [c] := by
      have large : 0x80 ≤ c.toNat := Nat.le_of_not_lt low
      have apart : ∀ d : Char, d.toNat < 0x80 → c ≠ d := by
        intro d small same
        rw [same] at large
        omega
      rw [escape, if_neg (apart _ (by decide)), if_neg (apart _ (by decide)),
        if_neg (apart _ (by decide)), if_neg (apart _ (by decide)), if_neg (apart _ (by decide)),
        if_neg (apart _ (by decide)), if_neg (apart _ (by decide)), if_neg (by omega)]
    rw [plain, utf8_cons, utf8_nil, List.append_nil]
    calc
      (String.utf8EncodeChar c).flatMap escapeByte =
          (String.utf8EncodeChar c).flatMap fun b => [b] :=
        List.flatMap_congr kept
      _ = String.utf8EncodeChar c := List.flatMap_singleton' _

theorem utf8_quote (s : String) : utf8 (quote s) = quoteBytes s := by
  have inside : utf8 (s.toList.flatMap escape) = (storedBytes s).flatMap escapeByte := by
    rw [← utf8Bytes_eq_stored, utf8Bytes, List.flatMap_assoc, utf8, List.flatMap_assoc]
    exact List.flatMap_congr fun c _ => (flatMap_escapeByte c).symm
  rw [quote, utf8_cons, utf8_append, inside]
  rfl

private theorem moreElements_bytes {elements : List Tree}
    (each : ∀ t ∈ elements, utf8 t.compact = t.bytes) :
    utf8 (moreElements elements) = moreElementBytes elements := by
  induction elements with
  | nil => rfl
  | cons t rest ih =>
      have here := List.forall_mem_cons.mp each
      rw [moreElements, moreElementBytes, utf8_cons, utf8_append, here.1, ih here.2]
      rfl

private theorem moreMembers_bytes {members : List (String × Tree)}
    (each : ∀ p ∈ members, utf8 p.2.compact = p.2.bytes) :
    utf8 (moreMembers members) = moreMemberBytes members := by
  induction members with
  | nil => rfl
  | cons p rest ih =>
      have here := List.forall_mem_cons.mp each
      rw [moreMembers, moreMemberBytes, utf8_cons, utf8_append, utf8_cons, utf8_append, utf8_quote,
        here.1, ih here.2]
      rfl

theorem utf8_compact (t : Tree) : utf8 t.compact = t.bytes := by
  induction t using Tree.induct with
  | null => rw [Tree.compact, Tree.bytes]
  | bool b => rw [Tree.compact, Tree.bytes]
  | number n => rw [Tree.compact, Tree.bytes]
  | string s => rw [Tree.compact, Tree.bytes, utf8_quote]
  | array elements ih =>
      cases elements with
      | nil => rfl
      | cons t rest =>
          have each := List.forall_mem_cons.mp ih
          rw [Tree.compact, Tree.bytes, utf8_cons, utf8_append, each.1, moreElements_bytes each.2]
          rfl
  | object members ih =>
      cases members with
      | nil => rfl
      | cons p rest =>
          have each := List.forall_mem_cons.mp ih
          rw [Tree.compact, Tree.bytes, utf8_cons, utf8_append, utf8_cons, utf8_append, utf8_quote,
            each.1, moreMembers_bytes each.2]
          rfl

end O7Formal.Json
