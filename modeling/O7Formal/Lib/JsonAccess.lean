import O7Formal.Lib.JsonTree

/-! Looking into a JSON value: equality, scalars, members, and RFC 6901 pointers. -/

namespace O7Formal.Json

mutual

def Tree.same : Tree → Tree → Bool
  | .null, .null => true
  | .bool a, .bool b => a == b
  | .number a, .number b => decide (a = b)
  | .string a, .string b => a == b
  | .array xs, .array ys => sameElements xs ys
  | .object xs, .object ys => sameMembers xs ys
  | _, _ => false

def sameElements : List Tree → List Tree → Bool
  | [], [] => true
  | x :: xs, y :: ys => x.same y && sameElements xs ys
  | _, _ => false

def sameMembers : List (String × Tree) → List (String × Tree) → Bool
  | [], [] => true
  | (name, x) :: xs, (name', y) :: ys => name == name' && x.same y && sameMembers xs ys
  | _, _ => false

end

theorem sameElements_iff {xs : List Tree} (each : ∀ x ∈ xs, ∀ y, x.same y = true ↔ x = y)
    (ys : List Tree) : sameElements xs ys = true ↔ xs = ys := by
  induction xs generalizing ys with
  | nil => cases ys <;> simp [sameElements]
  | cons x xs ih =>
      rw [List.forall_mem_cons] at each
      cases ys with
      | nil => simp [sameElements]
      | cons y ys => simp [sameElements, each.1 y, ih each.2 ys]

theorem sameMembers_iff {xs : List (String × Tree)}
    (each : ∀ p ∈ xs, ∀ y, p.2.same y = true ↔ p.2 = y) (ys : List (String × Tree)) :
    sameMembers xs ys = true ↔ xs = ys := by
  induction xs generalizing ys with
  | nil => cases ys <;> simp [sameMembers]
  | cons p xs ih =>
      rw [List.forall_mem_cons] at each
      rcases p with ⟨name, x⟩
      cases ys with
      | nil => simp [sameMembers]
      | cons q ys =>
          rcases q with ⟨name', y⟩
          simp [sameMembers, each.1 y, ih each.2 ys]

theorem Tree.same_iff (t u : Tree) : t.same u = true ↔ t = u := by
  induction t using Tree.induct generalizing u with
  | null => cases u <;> simp [Tree.same]
  | bool b => cases u <;> simp [Tree.same]
  | number n => cases u <;> simp [Tree.same]
  | string s => cases u <;> simp [Tree.same]
  | array elements ih => cases u <;> simp [Tree.same, sameElements_iff ih]
  | object members ih => cases u <;> simp [Tree.same, sameMembers_iff ih]

instance : DecidableEq Tree := fun t u => decidable_of_iff (t.same u = true) (Tree.same_iff t u)

namespace Tree

def asStr : Tree → Option String
  | string s => some s
  | _ => none

def asArray : Tree → Option (List Tree)
  | array elements => some elements
  | _ => none

def asObject : Tree → Option (List (String × Tree))
  | object members => some members
  | _ => none

def asBool : Tree → Option Bool
  | bool b => some b
  | _ => none

def asInt : Tree → Option Int
  | number (.integer n) => some n
  | _ => none

def asNat (t : Tree) : Option Nat :=
  match t.asInt with
  | some (.ofNat n) => some n
  | _ => none

def isNull : Tree → Bool
  | null => true
  | _ => false

theorem asStr_some_iff {t : Tree} {s : String} : t.asStr = some s ↔ t = string s := by
  cases t <;> simp [asStr]

theorem asArray_some_iff {t : Tree} {items : List Tree} :
    t.asArray = some items ↔ t = array items := by
  cases t <;> simp [asArray]

theorem asObject_some_iff {t : Tree} {members : List (String × Tree)} :
    t.asObject = some members ↔ t = object members := by
  cases t <;> simp [asObject]

def field (name : String) : Tree → Option Tree
  | object members => members.lookup name
  | _ => none

end Tree

def splitSlash : List Char → List (List Char)
  | [] => [[]]
  | '/' :: rest => [] :: splitSlash rest
  | c :: rest =>
      match splitSlash rest with
      | [] => [[c]]
      | token :: tokens => (c :: token) :: tokens

/-- Replace `~` with `digit` after it, from the left. -/
def replaceTilde (digit plain : Char) : List Char → List Char
  | [] => []
  | [c] => [c]
  | c :: d :: rest =>
      if c = '~' ∧ d = digit then plain :: replaceTilde digit plain rest
      else c :: replaceTilde digit plain (d :: rest)

def unescapeToken (token : List Char) : String :=
  String.ofList (replaceTilde '0' '~' (replaceTilde '1' '/' token))

def parseIndex (token : String) : Option Nat :=
  let chars := token.toList
  let value := Nat.ofDigitChars 10 chars 0
  if chars = [] ∨ ¬ chars.all Char.isDigit = true ∨ (chars.head? = some '0' ∧ chars.length ≠ 1) ∨
      2 ^ 64 ≤ value then none
  else some value

def pointerTokens (pointer : String) : Option (List String) :=
  match pointer.toList with
  | [] => some []
  | '/' :: rest => some ((splitSlash rest).map unescapeToken)
  | _ => none

namespace Tree

def child (t : Tree) (token : String) : Option Tree :=
  match t with
  | object members => members.lookup token
  | array elements => (parseIndex token).bind fun i => elements[i]?
  | _ => none

def follow (t : Tree) : List String → Option Tree
  | [] => some t
  | token :: tokens => (t.child token).bind fun u => u.follow tokens

def pointer (path : String) (t : Tree) : Option Tree :=
  (pointerTokens path).bind t.follow

def strAt (path : String) (t : Tree) : Option String := (t.pointer path).bind asStr

theorem pointer_member {members : List (String × Tree)} {path name : String}
    (tokens : pointerTokens path = some [name]) :
    (object members).pointer path = members.lookup name := by
  rw [pointer, tokens, Option.bind_some, follow, child]
  cases members.lookup name <;> rfl

end Tree

def insertMember (name : String) (t : Tree) : List (String × Tree) → List (String × Tree)
  | [] => [(name, t)]
  | (other, u) :: rest =>
      if name = other then (name, t) :: rest
      else if name < other then (name, t) :: (other, u) :: rest
      else (other, u) :: insertMember name t rest

/-- Write `value` at the end of a path through objects, making those that are missing. -/
def Tree.placeSegments (target : Tree) (segments : List String) (value : Tree) : Option Tree :=
  match segments with
  | [] => none
  | [name] => target.asObject.map fun members => .object (insertMember name value members)
  | name :: rest => do
      let members ← target.asObject
      let child ← ((members.lookup name).getD (.object [])).placeSegments rest value
      return .object (insertMember name child members)

def Tree.place (target : Tree) (path : String) (value : Tree) : Option Tree :=
  match path.toList with
  | '/' :: rest => target.placeSegments ((splitSlash rest).map unescapeToken) value
  | _ => none

theorem Tree.pointer_of_place {path name : String} {value t : Tree}
    (tokens : pointerTokens path = some [name])
    (placed : (Tree.object []).place path value = some t) : t.pointer path = some value := by
  have single : t = object [(name, value)] := by
    unfold pointerTokens at tokens
    unfold place at placed
    split at tokens
    · cases tokens
    · rename_i rest spelled
      simp only [spelled, Option.some.inj tokens] at placed
      exact (Option.some.inj placed).symm
    · cases tokens
  rw [single, pointer_member tokens]
  exact List.lookup_cons_self

end O7Formal.Json
