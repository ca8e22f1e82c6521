import O7Formal.Lib.JsonUnique
import O7Formal.Lib.JsonOrder

/-! A JSON value as a program holds it: members in the order of their names, each name once, and
numbers that print as they read. No two values have the same text. -/

namespace O7Formal.Json

def mantissa (literal : List Char) : List Char := literal.takeWhile fun c => c != 'e' && c != 'E'

def significand (literal : List Char) : Nat :=
  Nat.ofDigitChars 10 ((mantissa literal).filter Char.isDigit) 0

def fractionDigits (literal : List Char) : Nat :=
  ((mantissa literal).dropWhile (· != '.')).length - 1

def exponent (literal : List Char) : Int :=
  let written := literal.drop ((mantissa literal).length + 1)
  let size : Int := Nat.ofDigitChars 10 (written.filter Char.isDigit) 0
  if written.head? = some '-' then -size else size

/-- Not above the largest 64-bit float, and of no more digits than one is printed with. -/
def FitsFloat (literal : List Char) : Prop :=
  significand literal < 10 ^ 17 ∧
    (significand literal : ℚ) * 10 ^ (exponent literal - fractionDigits literal) ≤
      (2 ^ 53 - 1) * 2 ^ 971

def Numeral.Printed : Numeral → Prop
  | .integer n => -2 ^ 63 ≤ n ∧ n < 2 ^ 64
  | .float literal =>
      Number literal ∧ Numeral.ofLiteral literal = .float literal ∧ FitsFloat literal

def Tree.Printed (t : Tree) : Prop :=
  t.Everywhere fun part => ∀ n, part = .number n → n.Printed

theorem Numeral.Printed.spells {n : Numeral} (printed : n.Printed) :
    SpellsTree (.number n) n.write := by
  cases n with
  | integer n => exact integer_spells printed.1 printed.2
  | float literal =>
      refine ⟨.number ⟨literal, printed.1⟩, .number _, ?_⟩
      rw [Value.tree, printed.2.1]

theorem compact_denotes {t : Tree} (printed : t.Printed) : Denotes t.compact t := by
  have spells : SpellsTree t t.compact := by
    apply compact_spells_of
    intro depth n occurs
    exact (printed depth _ occurs n rfl).spells
  rcases spells with ⟨v, spelled, denotes⟩
  exact ⟨v, ⟨[], t.compact, [], blank_nil, spelled, blank_nil, by simp⟩, denotes⟩

theorem compact_injOn {t u : Tree} (printedT : t.Printed) (printedU : u.Printed)
    (same : t.compact = u.compact) : t = u := by
  have denotes := compact_denotes printedT
  rw [same] at denotes
  exact denotes.unique (compact_denotes printedU)

structure JsonValue where
  tree : Tree
  ordered : tree.Ordered String.toList
  printed : tree.Printed

/-- `serde_json::to_string` -/
def JsonValue.text (v : JsonValue) : List Char := v.tree.compact

theorem JsonValue.tree_injective : Function.Injective JsonValue.tree := by
  intro v w same
  cases v
  cases w
  cases same
  rfl

theorem JsonValue.text_injective : Function.Injective JsonValue.text := by
  intro v w same
  exact tree_injective (compact_injOn v.printed w.printed same)

theorem printed_of_children {t : Tree} (other : ∀ n, t ≠ .number n)
    (children : ∀ u ∈ t.children, u.Printed) : t.Printed := by
  refine Tree.everywhere_iff.mpr ⟨?_, children⟩
  intro n same
  exact absurd same (other n)

theorem printed_string (s : String) : (Tree.string s).Printed :=
  printed_of_children (by simp) (by simp [Tree.children])

theorem printed_null : Tree.null.Printed :=
  printed_of_children (by simp) (by simp [Tree.children])

theorem printed_object {members : List (String × Tree)} (values : ∀ p ∈ members, p.2.Printed) :
    (Tree.object members).Printed := by
  apply printed_of_children (by simp)
  intro u below
  rcases List.mem_map.mp below with ⟨p, member, same⟩
  rw [← same]
  exact values p member

inductive Scalar where
  | text (s : String)
  | flag (b : Bool)

def Scalar.tree : Scalar → Tree
  | .text s => .string s
  | .flag b => .bool b

def scalarObject (members : List (String × Scalar)) : Tree :=
  .object (members.map fun m => (m.1, m.2.tree))

theorem scalar_children (x : Scalar) : x.tree.children = [] := by cases x <;> rfl

theorem scalarObject_ordered {members : List (String × Scalar)}
    (ordered : (members.map Prod.fst).Pairwise fun a b => a.toList < b.toList) :
    (scalarObject members).Ordered String.toList := by
  intro depth inner occurs
  generalize whole : scalarObject members = t at occurs
  cases occurs with
  | root =>
      cases whole
      rw [List.map_map]
      exact ordered
  | @child _ u _ _ below inside =>
      rw [← whole] at below
      rcases List.mem_map.mp below with ⟨p, member, same⟩
      rcases List.mem_map.mp member with ⟨m, _, here⟩
      rw [← same, ← here] at inside
      generalize part : m.2.tree = w at inside
      cases inside with
      | root => cases value : m.2 <;> rw [value] at part <;> cases part
      | child deeper _ =>
          rw [← part, scalar_children] at deeper
          cases deeper

theorem scalarObject_printed (members : List (String × Scalar)) :
    (scalarObject members).Printed := by
  apply printed_object
  intro p member
  rcases List.mem_map.mp member with ⟨m, _, same⟩
  rw [← same]
  apply printed_of_children
  · intro n number
    cases value : m.2 <;> rw [value] at number <;> cases number
  · intro u below
    rw [scalar_children] at below
    cases below

def JsonValue.ofScalars (members : List (String × Scalar))
    (ordered : (members.map Prod.fst).Pairwise fun a b => a.toList < b.toList) : JsonValue :=
  ⟨scalarObject members, scalarObject_ordered ordered, scalarObject_printed members⟩

end O7Formal.Json
