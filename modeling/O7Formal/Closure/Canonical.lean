import O7Formal.Lib.JsonAccess
import O7Formal.Run.Event

/-! Canonical JSON for closure evidence, integers only, and its SHA-256 digest. -/

namespace O7Formal.Closure

open Json Utf8
open Run (Sha256 Digest256)

inductive CanonicalError where
  | nonIntegerNumber (rendered : String)
  | integerOutsideSafeDomain (value : Int)
  deriving DecidableEq, Repr

def safeIntegerLimit : Nat := 9007199254740991

def writeNumber : Numeral → Except CanonicalError (List Char)
  | .integer n =>
      if n.natAbs > safeIntegerLimit then .error (.integerOutsideSafeDomain n)
      else .ok (writeInteger n)
  | .float literal => .error (.nonIntegerNumber (String.ofList literal))

def encodeUtf16 (s : String) : List Nat :=
  s.toList.flatMap fun c =>
    if c.toNat < 0x10000 then [c.toNat]
    else [0xd800 + (c.toNat - 0x10000) / 0x400, 0xdc00 + (c.toNat - 0x10000) % 0x400]

def namesInOrder {α : Type} (a b : String × α) : Prop := encodeUtf16 a.1 ≤ encodeUtf16 b.1

instance {α : Type} : DecidableRel (@namesInOrder α) := fun a b =>
  inferInstanceAs (Decidable (encodeUtf16 a.1 ≤ encodeUtf16 b.1))

/-- The texts with `sep` between them; the first failure when there is one. -/
def joined (sep : List Char) (texts : List (Except CanonicalError (List Char))) :
    Except CanonicalError (List Char) :=
  (texts.mapM id).map (List.intercalate sep)

-- Members are put in order before the first of them is written, so that the failure reported
-- is the first one in that order.
mutual

def writeValue : Tree → Except CanonicalError (List Char)
  | .null => .ok "null".toList
  | .bool b => .ok (boolWord b).toList
  | .number n => writeNumber n
  | .string s => .ok (quote s)
  | .array elements => do
      let body ← joined [','] (writeElements elements)
      return '[' :: (body ++ [']'])
  | .object members => do
      let sorted := (writeMembers members).insertionSort namesInOrder
      let body ← joined [','] (sorted.map fun m => m.2.map fun text => quote m.1 ++ ':' :: text)
      return '{' :: (body ++ ['}'])

def writeElements : List Tree → List (Except CanonicalError (List Char))
  | [] => []
  | t :: rest => writeValue t :: writeElements rest

def writeMembers : List (String × Tree) → List (String × Except CanonicalError (List Char))
  | [] => []
  | (name, t) :: rest => (name, writeValue t) :: writeMembers rest

end

def canonicalize (value : Tree) : Except CanonicalError (List UInt8) :=
  (writeValue value).map utf8

variable (sha256 : Sha256)

def digestOfCanonicalBytes (bytes : List UInt8) : String :=
  "sha256:" ++ (Digest256.ofBytes sha256 bytes).asStr

def digest (value : Tree) : Except CanonicalError String :=
  (canonicalize value).map (digestOfCanonicalBytes sha256)

end O7Formal.Closure
