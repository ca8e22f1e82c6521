import O7Formal.Lib.Fallible
import O7Formal.Lib.Json

/-! The streaming structural scan of a document.

`Scanner` follows the source field by field, except that the input and the cursor into
it are kept as one list, the bytes not read yet, and that the stack is written innermost
frame first. Loops and nested values run on an explicit count; running out of it is
`exhausted`, an outcome of its own that no refusal of the source is confused with. -/

namespace O7Formal.Contracts

open Fallible Utf8

def maxJsonDepth : Nat := 32

def maxArrayLen : Nat := 4096

def maxStringBytes : Nat := 65536

inductive ParseError where
  | notUtf8
  | leadingBom
  | notJson (category : String) (line column : Nat)
  | notAnObject
  | explicitNull (path : String)
  | depthExceeded (path : String)
  | arrayTooLong (path : String) (actual : Nat)
  | stringTooLong (path : String) (actual : Nat)
  | payloadTooLarge (actual max : Nat)
  | schemaMismatch (category : String)
  | invalid (reason : String)
  deriving DecidableEq, Repr

inductive Frame where
  | array (index : Nat)
  | object
  deriving DecidableEq, Repr

inductive Mode where
  | admission
  | probe
  deriving DecidableEq, Repr

structure Scanner where
  rest : List UInt8
  line : Nat
  column : Nat
  stack : List Frame
  mode : Mode
  deriving DecidableEq, Repr

/-- Why a scan stopped before the end of the value it was asked for. -/
inductive Halt where
  | refused (error : ParseError)
  | exhausted
  deriving DecidableEq, Repr

namespace Scanner

def new (input : String) : Scanner :=
  { rest := utf8 input.toList, line := 1, column := 1, stack := [], mode := .admission }

def peek (s : Scanner) : Option UInt8 := s.rest.head?

def bump (s : Scanner) : Scanner :=
  if s.peek = some '\n'.toUInt8 then
    { s with rest := s.rest.tail, line := s.line + 1, column := 1 }
  else { s with rest := s.rest.tail, column := s.column + 1 }

def syntaxError (s : Scanner) : Halt := .refused (.notJson "syntax" s.line s.column)

def segment : Frame → String
  | .array index => "[" ++ toString index ++ "]"
  | .object => ".*"

def path (s : Scanner) : String :=
  s.stack.reverse.foldl (fun path frame => path ++ segment frame) "$"

def enclosingPath (s : Scanner) : String := s.path

def push (s : Scanner) (frame : Frame) : Scanner := { s with stack := frame :: s.stack }

def pop (s : Scanner) : Scanner := { s with stack := s.stack.tail }

/-- `while matches!(self.peek(), ..) { self.bump(); }`, at most `count` times. -/
def bumpWhile (matching : UInt8 → Bool) : Nat → Scanner → Scanner
  | 0, s => s
  | count + 1, s => if s.peek.any matching then bumpWhile matching count s.bump else s

def isWhitespace (b : UInt8) : Bool :=
  b == ' '.toUInt8 || b == '\t'.toUInt8 || b == '\n'.toUInt8 || b == '\r'.toUInt8

def skipWhitespace (s : Scanner) : Scanner := s.bumpWhile isWhitespace s.rest.length

def isDigit (b : UInt8) : Bool := '0'.toUInt8 ≤ b && b ≤ '9'.toUInt8

def digits (s : Scanner) : Except Halt Scanner :=
  let after := s.bumpWhile isDigit s.rest.length
  if after.rest.length = s.rest.length then .error after.syntaxError else .ok after

/-- The part of `number` before the fraction, past the minus sign. -/
def integer (s : Scanner) : Except Halt Scanner :=
  if s.peek = some '0'.toUInt8 then
    if s.bump.peek.any isDigit then .error s.bump.syntaxError else .ok s.bump
  else s.digits

def fraction (s : Scanner) : Except Halt Scanner :=
  if s.peek = some '.'.toUInt8 then s.bump.digits else .ok s

def exponent (s : Scanner) : Except Halt Scanner :=
  if s.peek = some 'e'.toUInt8 ∨ s.peek = some 'E'.toUInt8 then
    if s.bump.peek = some '+'.toUInt8 ∨ s.bump.peek = some '-'.toUInt8 then s.bump.bump.digits
    else s.bump.digits
  else .ok s

def number (s : Scanner) : Except Halt Scanner := do
  let start := s.rest.length
  let s := if s.peek = some '-'.toUInt8 then s.bump else s
  let s ← s.integer
  let s ← s.fraction
  let s ← s.exponent
  if s.rest.length = start then .error s.syntaxError else .ok s

def literal : List UInt8 → Scanner → Except Halt Scanner
  | [], s => .ok s
  | expected :: word, s =>
      if s.peek ≠ some expected then .error s.syntaxError else literal word s.bump

/-- Four hex digits at the front of `input`, without consuming anything. -/
def hex4At (input : List UInt8) : Option Nat :=
  (List.range 4).foldlM (fun value offset => do
    let byte ← input[offset]?
    let digit ← Json.hexValue (Char.ofNat byte.toNat)
    return value * 16 + digit) 0

/-- One `\uXXXX` escape past the `u`: its decoded byte count and the state after it. -/
def escapeSequence (s : Scanner) : Except Halt (Nat × Scanner) :=
  match hex4At s.rest with
  | none => .error s.syntaxError
  | some high =>
      let s := bump^[4] s
      if 0xD800 ≤ high ∧ high ≤ 0xDBFF then
        if s.peek = some '\\'.toUInt8 ∧ s.rest[1]? = some 'u'.toUInt8 ∧
            (hex4At (s.rest.drop 2)).any (fun low => 0xDC00 ≤ low && low ≤ 0xDFFF) then
          .ok (4, bump^[6] s)
        else .ok (3, s)
      else .ok (if high ≤ 0x7f then 1 else if high ≤ 0x7ff then 2 else 3, s)

def isShortEscape (b : UInt8) : Bool :=
  b == '"'.toUInt8 || b == '\\'.toUInt8 || b == '/'.toUInt8 || b == 'b'.toUInt8 ||
    b == 'f'.toUInt8 || b == 'n'.toUInt8 || b == 'r'.toUInt8 || b == 't'.toUInt8

def scanStringLoop : Nat → Nat → Scanner → Except Halt (Nat × Scanner)
  | 0, _, _ => .error .exhausted
  | count + 1, decoded, s =>
      match s.peek with
      | none => .error s.syntaxError
      | some b =>
          if b = '"'.toUInt8 then .ok (decoded, s.bump)
          else if b = '\\'.toUInt8 then
            let s := s.bump
            if s.peek.any isShortEscape then scanStringLoop count (decoded + 1) s.bump
            else if s.peek = some 'u'.toUInt8 then do
              let (length, s) ← s.bump.escapeSequence
              scanStringLoop count (decoded + length) s
            else .error s.syntaxError
          else if b < 0x20 then .error s.syntaxError
          else scanStringLoop count (decoded + 1) s.bump

def scanString (s : Scanner) : Except Halt (Nat × Scanner) :=
  scanStringLoop (s.bump.rest.length + 1) 0 s.bump

def string (s : Scanner) : Except Halt (Nat × Scanner) := do
  let (length, after) ← s.scanString
  if length > maxStringBytes ∧ after.mode = .admission then
    .error (.refused (.stringTooLong after.path length))
  else .ok (length, after)

section Containers

variable (value : Scanner → Except Halt Scanner)

def objectLoop : Nat → Scanner → Except Halt Scanner
  | 0, _ => .error .exhausted
  | count + 1, s => do
      let s := s.skipWhitespace
      refuseIf (s.peek ≠ some '"'.toUInt8) s.syntaxError
      let (_, s) ← s.scanString
      let s := s.skipWhitespace
      refuseIf (s.peek ≠ some ':'.toUInt8) s.syntaxError
      let s ← value s.bump
      let s := s.skipWhitespace
      if s.peek = some ','.toUInt8 then objectLoop count s.bump
      else if s.peek = some '}'.toUInt8 then .ok s.bump.pop
      else .error s.syntaxError

def object (s : Scanner) : Except Halt Scanner :=
  let s := (s.bump.push .object).skipWhitespace
  if s.peek = some '}'.toUInt8 then .ok s.bump.pop
  else objectLoop value (s.rest.length + 1) s

/-- `if let Some(Frame::Array { index }) = self.stack.last_mut() { *index = count - 1; }` -/
def setIndex (s : Scanner) (index : Nat) : Scanner :=
  match s.stack with
  | .array _ :: below => { s with stack := .array index :: below }
  | _ => s

def arrayLoop : Nat → Nat → Scanner → Except Halt Scanner
  | 0, _, _ => .error .exhausted
  | fuel + 1, before, s => do
      let count := before + 1
      refuseIf (count > maxArrayLen ∧ s.mode = .admission)
        (.refused (.arrayTooLong s.enclosingPath count))
      let s ← value (s.setIndex (count - 1))
      let s := s.skipWhitespace
      if s.peek = some ','.toUInt8 then arrayLoop fuel count s.bump
      else if s.peek = some ']'.toUInt8 then .ok s.bump.pop
      else .error s.syntaxError

def array (s : Scanner) : Except Halt Scanner :=
  let s := (s.bump.push (.array 0)).skipWhitespace
  if s.peek = some ']'.toUInt8 then .ok s.bump.pop
  else arrayLoop value (s.rest.length + 1) 0 s

end Containers

/-- What `value` does once the depth of the value is known to be within the bound. -/
def dispatch (value : Scanner → Except Halt Scanner) (s : Scanner) : Except Halt Scanner :=
  if s.peek = some '{'.toUInt8 then s.object value
  else if s.peek = some '['.toUInt8 then s.array value
  else if s.peek = some '"'.toUInt8 then s.string.map Prod.snd
  else if s.peek = some 't'.toUInt8 then s.literal (utf8 "true".toList)
  else if s.peek = some 'f'.toUInt8 then s.literal (utf8 "false".toList)
  else if s.peek = some 'n'.toUInt8 then do
    let s ← s.literal (utf8 "null".toList)
    match s.mode with
    | .admission => .error (.refused (.explicitNull s.path))
    | .probe => .ok s
  else if s.peek = some '-'.toUInt8 ∨ s.peek.any isDigit then s.number
  else .error s.syntaxError

/-- One value, with at most `calls` values nested in each other. -/
def value : Nat → Scanner → Except Halt Scanner
  | 0, _ => .error .exhausted
  | calls + 1, s =>
      let s := s.skipWhitespace
      if s.stack.length + 1 > maxJsonDepth then
        match s.mode with
        | .admission => .error (.refused (.depthExceeded s.path))
        | .probe => .error (.refused .notAnObject)
      else s.dispatch (value calls)

/-- Nested calls of `value` a scan can make: one for each depth, and the one that is refused. -/
def maxValueCalls : Nat := maxJsonDepth + 1

def run (s : Scanner) : Except Halt Unit := do
  let s := s.skipWhitespace
  if s.peek ≠ some '{'.toUInt8 then
    let s ← { s with mode := .probe }.value maxValueCalls
    let s := s.skipWhitespace
    if s.rest ≠ [] then .error s.syntaxError else .error (.refused .notAnObject)
  else
    let s ← s.value maxValueCalls
    let s := s.skipWhitespace
    if s.rest ≠ [] then .error s.syntaxError else .ok ()

end Scanner

end O7Formal.Contracts
