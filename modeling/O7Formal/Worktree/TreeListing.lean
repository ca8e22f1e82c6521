import O7Formal.Lib.Decimal
import O7Formal.Lib.Utf8
import O7Formal.Lib.Words
import O7Formal.Worktree.Porcelain

/-! The entries of a committed tree, and the listing of `git ls-tree -r -z -l` that they are read
from. -/

namespace O7Formal.Worktree.Materialize

open Fallible

abbrev Path := List UInt8

structure TreeEntry where
  mode : Nat
  oid : String
  size : Option Nat
  path : Path
  deriving DecidableEq, Repr

namespace TreeEntry

def isRegularFile (e : TreeEntry) : Bool := e.mode = 0o100644 || e.mode = 0o100755

def isExecutable (e : TreeEntry) : Bool := e.mode = 0o100755

def isSymlink (e : TreeEntry) : Bool := e.mode = 0o120000

def isGitlink (e : TreeEntry) : Bool := e.mode = 0o160000

end TreeEntry

inductive LsTreeError where
  | noTab
  | notUtf8
  | missing (field : String)
  | extraFields
  | notOctal (mode : String)
  | notNumber (size : String)
  deriving DecidableEq, Repr

/-- `reason` is what the standard library says of a failed parse, and `debugStr` how it quotes. -/
def LsTreeError.text (reason : LsTreeError → String) (debugStr : String → String) :
    LsTreeError → String
  | .noTab => "ls-tree record has no TAB separator"
  | .notUtf8 => "ls-tree header not utf8: " ++ reason .notUtf8
  | .missing field => "missing " ++ field
  | .extraFields => "ls-tree header had unexpected extra fields"
  | .notOctal mode => "mode " ++ debugStr mode ++ " is not octal: " ++ reason (.notOctal mode)
  | .notNumber size => "size " ++ debugStr size ++ " is not a number: " ++ reason (.notNumber size)

def unsign : List Char → List Char
  | '+' :: digits => digits
  | digits => digits

/-- `u32::from_str_radix(mode, 8)` -/
def octal? (text : List Char) : Option Nat :=
  let digits := unsign text
  if digits ≠ [] ∧ (digits.all fun c => c.isDigit && c < '8') = true ∧
      Nat.ofDigitChars 8 digits 0 < 2 ^ 32 then
    some (Nat.ofDigitChars 8 digits 0)
  else none

def parseSize (text : List Char) : Except LsTreeError (Option Nat) :=
  if text = ['-'] then .ok none
  else (okOr (Decimal.unsigned? (2 ^ 64) (String.ofList text))
    (.notNumber (String.ofList text))).map some

def parseHeader (header : String) (path : Path) : Except LsTreeError TreeEntry :=
  match Words.words Words.isWhitespace header.toList with
  | [] => .error (.missing "mode")
  | [_] => .error (.missing "type")
  | [_, _] => .error (.missing "oid")
  | [_, _, _] => .error (.missing "size")
  | [mode, _, oid, size] => do
      let mode ← okOr (octal? mode) (.notOctal (String.ofList mode))
      let size ← parseSize size
      return ⟨mode, String.ofList oid, size, path⟩
  | _ => .error .extraFields

def parseRecord (record : List UInt8) : Except LsTreeError TreeEntry :=
  match record.dropWhile (· != 0x09) with
  | [] => .error .noTab
  | _ :: path => do
      let header ← okOr (Utf8.fromUtf8 (record.takeWhile (· != 0x09))) .notUtf8
      parseHeader header path

def parseLsTree (raw : List UInt8) : Except LsTreeError (List TreeEntry) :=
  ((raw.splitOn 0).filter fun record => record ≠ []).mapM parseRecord

/-! What git writes for an entry. -/

/-- `%06o` -/
def octal (mode : Nat) : List Char :=
  List.replicate (6 - (Nat.toDigits 8 mode).length) '0' ++ Nat.toDigits 8 mode

def objectType (e : TreeEntry) : List Char :=
  if e.isGitlink = true then "commit".toList else "blob".toList

def sizeText : Option Nat → List Char
  | none => ['-']
  | some size => Nat.toDigits 10 size

def headerOf (e : TreeEntry) : List Char :=
  octal e.mode ++ ' ' :: (objectType e ++ ' ' :: (e.oid.toList ++ ' ' ::
    (List.replicate (7 - (sizeText e.size).length) ' ' ++ sizeText e.size)))

def record (e : TreeEntry) : List UInt8 := Utf8.utf8 (headerOf e) ++ 0x09 :: e.path

def lsTree (entries : List TreeEntry) : List UInt8 := entries.flatMap fun e => record e ++ [0]

structure Listable (e : TreeEntry) : Prop where
  mode : e.mode < 2 ^ 32
  oid : Words.IsWord Words.isWhitespace e.oid.toList
  plain : ∀ c ∈ e.oid.toList, c ≠ Char.ofNat 0
  size : ∀ n ∈ e.size, n < 2 ^ 64
  path : (0 : UInt8) ∉ e.path

theorem octal_digits {n : Nat} : ∀ c ∈ Nat.toDigits 8 n, c.isDigit = true ∧ c < '8' := by
  have each : ∀ d < 8, (Nat.digitChar d).isDigit = true ∧ Nat.digitChar d < '8' := by decide
  induction n using Nat.base_induction 8 (by norm_num) with
  | single m small =>
      rw [Nat.toDigits_of_lt_base small]
      intro c member
      cases List.mem_singleton.mp member
      exact each m small
  | digit m k small positive ih =>
      rw [← Nat.toDigits_append_toDigits (by norm_num) positive small,
        Nat.toDigits_of_lt_base small]
      intro c member
      rcases List.mem_append.mp member with early | last
      · exact ih c early
      · cases List.mem_singleton.mp last
        exact each k small

theorem octal_digit {mode : Nat} : ∀ c ∈ octal mode, c.isDigit = true ∧ c < '8' := by
  intro c member
  rcases List.mem_append.mp member with zero | digit
  · cases List.eq_of_mem_replicate zero
    decide
  · exact octal_digits c digit

theorem octal_ne_nil (mode : Nat) : octal mode ≠ [] :=
  List.append_ne_nil_of_right_ne_nil _ Nat.toDigits_ne_nil

theorem octal?_octal {mode : Nat} (small : mode < 2 ^ 32) : octal? (octal mode) = some mode := by
  have value : Nat.ofDigitChars 8 (octal mode) 0 = mode := by
    rw [octal, Nat.ofDigitChars_append, Nat.ofDigitChars_replicate_zero, Nat.mul_zero,
      Nat.ofDigitChars_toDigits (by norm_num) (by norm_num)]
  have unsigned : unsign (octal mode) = octal mode := by
    unfold unsign
    split
    · rename_i rest signed
      have digit := octal_digit '+' (signed ▸ List.mem_cons_self)
      exact absurd digit (by decide)
    · rfl
  have each : ((octal mode).all fun c => c.isDigit && c < '8') = true :=
    List.all_eq_true.mpr fun c member => by simpa using octal_digit c member
  simp only [octal?, unsigned, value]
  exact if_pos ⟨octal_ne_nil mode, each, small⟩

theorem parseSize_sizeText {size : Option Nat} (small : ∀ n ∈ size, n < 2 ^ 64) :
    parseSize (sizeText size) = .ok size := by
  cases size with
  | none => rfl
  | some n =>
      have digits : sizeText (some n) ≠ ['-'] := Decimal.toDigits_ne_cons (by decide) []
      have text : String.ofList (Nat.toDigits 10 n) = n.repr := Nat.repr_eq_ofList_toDigits.symm
      rw [parseSize, if_neg digits, sizeText, text, Decimal.unsigned?_repr (small n rfl)]
      rfl

theorem digit_solid {c : Char} (digit : c.isDigit = true) : Words.isWhitespace c = false := by
  have range : 48 ≤ c.toNat ∧ c.toNat ≤ 57 := by
    simpa [Char.isDigit, UInt32.le_iff_toNat_le] using digit
  unfold Words.isWhitespace
  simp only [Bool.or_eq_false_iff, Bool.and_eq_false_iff, decide_eq_false_iff_not]
  omega

theorem words_spaces (count : Nat) (text : List Char) :
    Words.words Words.isWhitespace (List.replicate count ' ' ++ text) =
      Words.words Words.isWhitespace text := by
  induction count with
  | zero => rfl
  | succ count ih => rw [List.replicate_succ, List.cons_append, Words.words_space (by decide), ih]

theorem words_end {word : List Char} (isWord : Words.IsWord Words.isWhitespace word) :
    Words.words Words.isWhitespace word = [word] := by
  have read := Words.wordsFrom_solid isWord.2 [] []
  rw [List.append_nil, List.nil_append] at read
  rw [Words.words, read, Words.wordsFrom, if_neg isWord.1]

theorem octal_isWord (mode : Nat) : Words.IsWord Words.isWhitespace (octal mode) :=
  ⟨octal_ne_nil mode, fun c member => digit_solid (octal_digit c member).1⟩

theorem objectType_isWord (e : TreeEntry) : Words.IsWord Words.isWhitespace (objectType e) := by
  unfold objectType
  split
  · exact ⟨by decide, Utf8.forall_mem_of_all (by decide)⟩
  · exact ⟨by decide, Utf8.forall_mem_of_all (by decide)⟩

theorem sizeText_isWord (size : Option Nat) : Words.IsWord Words.isWhitespace (sizeText size) := by
  cases size with
  | none => exact ⟨by decide, Utf8.forall_mem_of_all (by decide)⟩
  | some n =>
      refine ⟨Nat.toDigits_ne_nil, fun c member => ?_⟩
      exact digit_solid (Decimal.isDigit_toDigits n c member)

theorem words_header {e : TreeEntry} (oid : Words.IsWord Words.isWhitespace e.oid.toList) :
    Words.words Words.isWhitespace (headerOf e) =
      [octal e.mode, objectType e, e.oid.toList, sizeText e.size] := by
  have space : Words.isWhitespace ' ' = true := by decide
  rw [headerOf, Words.words_cons (octal_isWord e.mode) space,
    Words.words_cons (objectType_isWord e) space, Words.words_cons oid space, words_spaces,
    words_end (sizeText_isWord e.size)]

theorem parseHeader_headerOf {e : TreeEntry} (listable : Listable e) :
    parseHeader (String.ofList (headerOf e)) e.path = .ok e := by
  simp only [parseHeader, String.toList_ofList, words_header listable.oid,
    octal?_octal listable.mode, parseSize_sizeText listable.size, String.ofList_toList]
  rfl

theorem mem_utf8_ascii {c : Char} (low : Utf8.IsAscii c) {text : List Char} :
    c.toUInt8 ∈ Utf8.utf8 text ↔ c ∈ text := by
  rw [Utf8.utf8, List.mem_flatMap]
  constructor
  · rintro ⟨d, member, byte⟩
    by_cases plain : Utf8.IsAscii d
    · rw [Utf8.utf8EncodeChar_ascii plain, List.mem_singleton] at byte
      rwa [(Utf8.toUInt8_inj low plain).mp byte]
    · have high := Utf8.utf8EncodeChar_high plain _ byte
      have small : c.toNat < 0x80 := low
      rw [UInt8.le_iff_toNat_le, Utf8.toNat_toUInt8 low] at high
      exact absurd small (Nat.not_lt.mpr high)
  · intro member
    refine ⟨c, member, ?_⟩
    rw [Utf8.utf8EncodeChar_ascii low]
    exact List.mem_singleton_self _

theorem header_plain {e : TreeEntry} (listable : Listable e) :
    (0x09 : UInt8) ∉ Utf8.utf8 (headerOf e) ∧ (0 : UInt8) ∉ Utf8.utf8 (headerOf e) := by
  have each : ∀ c : Char, c ≠ ' ' → c.isDigit = false → c ≠ '-' → c ∉ "commit".toList →
      c ∉ "blob".toList → c ∉ e.oid.toList → c ∉ headerOf e := by
    intro c space digit hyphen commit blob oid
    have type : c ∉ objectType e := by
      unfold objectType
      split
      · exact commit
      · exact blob
    have mode : c ∉ octal e.mode := by
      intro member
      rw [(octal_digit c member).1] at digit
      cases digit
    have size : c ∉ sizeText e.size := by
      intro member
      cases present : e.size with
      | none =>
          rw [present] at member
          exact hyphen (List.mem_singleton.mp member)
      | some n =>
          rw [present] at member
          rw [Decimal.isDigit_toDigits n c member] at digit
          cases digit
    simp only [headerOf, List.mem_append, List.mem_cons, List.mem_replicate, not_or, not_and]
    exact ⟨mode, space, type, space, oid, space, fun _ => space, size⟩
  have tab : '\t' ∉ e.oid.toList := by
    intro member
    exact absurd (listable.oid.2 _ member) (by decide)
  have nul : Char.ofNat 0 ∉ e.oid.toList := fun member => listable.plain _ member rfl
  constructor
  · intro member
    refine each '\t' (by decide) (by decide) (by decide) (by decide) (by decide) tab ?_
    exact (mem_utf8_ascii (by decide)).mp member
  · intro member
    refine each (Char.ofNat 0) (by decide) (by decide) (by decide) (by decide) (by decide) nul ?_
    exact (mem_utf8_ascii (by decide)).mp member

theorem parseRecord_record {e : TreeEntry} (listable : Listable e) :
    parseRecord (record e) = .ok e := by
  have before : ∀ b ∈ Utf8.utf8 (headerOf e), (b != 0x09) = true := by
    intro b member
    refine bne_iff_ne.mpr ?_
    rintro rfl
    exact (header_plain listable).1 member
  have path : (record e).dropWhile (· != 0x09) = 0x09 :: e.path := by
    rw [record, List.dropWhile_append_of_pos before]
    rfl
  have header : (record e).takeWhile (· != 0x09) = Utf8.utf8 (headerOf e) := by
    rw [record, List.takeWhile_append_of_pos before]
    exact List.append_nil _
  simp only [parseRecord, path, header, Utf8.fromUtf8_utf8, okOr, ok_bind,
    parseHeader_headerOf listable]

theorem parseLsTree_lsTree {entries : List TreeEntry} (listable : ∀ e ∈ entries, Listable e) :
    parseLsTree (lsTree entries) = .ok entries := by
  have whole : ∀ line ∈ entries.map record, 0 ∉ line := by
    intro line member
    rcases List.mem_map.mp member with ⟨e, among, rfl⟩
    intro nul
    rcases List.mem_append.mp nul with header | rest
    · exact (header_plain (listable e among)).2 header
    · rcases List.mem_cons.mp rest with tab | path
      · exact absurd tab (by decide)
      · exact (listable e among).path path
  have records : ((lsTree entries).splitOn 0).filter (fun line => line ≠ []) =
      entries.map record := by
    have split := Porcelain.splitOn_flatMap whole
    rw [List.flatMap_map] at split
    rw [lsTree, split, List.filter_append, List.filter_eq_self.mpr ?_]
    · exact List.append_nil _
    · intro line member
      rcases List.mem_map.mp member with ⟨e, _, rfl⟩
      exact decide_eq_true (List.append_ne_nil_of_right_ne_nil _ (List.cons_ne_nil _ _))
  rw [parseLsTree, records]
  refine mapM_ok_iff.mpr (List.forall₂_map_left_iff.mpr (List.forall₂_same.mpr ?_))
  exact fun e among => parseRecord_record (listable e among)

theorem octal?_lt {text : List Char} {n : Nat} (read : octal? text = some n) : n < 2 ^ 32 := by
  rw [octal?] at read
  split_ifs at read with valid
  cases read
  exact valid.2.2

theorem unsigned?_lt {limit n : Nat} {text : String}
    (read : Decimal.unsigned? limit text = some n) : n < limit := by
  have small : ∀ value, (if value < limit then some value else none) = some n → n < limit := by
    intro value bounded
    split_ifs at bounded with small
    cases bounded
    exact small
  unfold Decimal.unsigned? at read
  split at read
  · rcases Option.bind_eq_some_iff.mp read with ⟨value, _, bounded⟩
    exact small value bounded
  · rcases Option.bind_eq_some_iff.mp read with ⟨value, _, bounded⟩
    exact small value bounded

theorem parseSize_lt {text : List Char} {size : Option Nat} (read : parseSize text = .ok size) :
    ∀ n ∈ size, n < 2 ^ 64 := by
  rw [parseSize] at read
  split_ifs at read with hyphen
  · cases read
    exact fun n held => absurd held (Option.not_mem_none n)
  · rcases map_ok_iff.mp read with ⟨n, known, rfl⟩
    rintro _ ⟨⟩
    exact unsigned?_lt (okOr_ok_iff.mp known)

theorem listable_of_parseHeader {header : String} {path : Path} {e : TreeEntry}
    (plain : Char.ofNat 0 ∉ header.toList) (clear : 0 ∉ path)
    (read : parseHeader header path = .ok e) : Listable e := by
  unfold parseHeader at read
  split at read
  case h_5 mode type oid size cut =>
    simp only [bind_ok_iff, okOr_ok_iff, pure_ok_iff] at read
    rcases read with ⟨bits, octal, bytes, sized, rfl⟩
    have member : oid ∈ Words.words Words.isWhitespace header.toList := by simp [cut]
    rcases Words.mem_words member with ⟨isWord, among⟩
    rw [← String.toList_ofList (l := oid)] at isWord among
    refine ⟨octal?_lt octal, isWord, ?_, parseSize_lt sized, clear⟩
    rintro c inside rfl
    exact plain (among _ inside)
  all_goals cases read

theorem listable_of_parseRecord {line : List UInt8} {e : TreeEntry} (plain : 0 ∉ line)
    (read : parseRecord line = .ok e) : Listable e := by
  unfold parseRecord at read
  split at read
  · cases read
  · rename_i tab path cut
    rcases bind_ok_iff.mp read with ⟨header, decoded, fields⟩
    have bytes := Utf8.fromUtf8_some (okOr_ok_iff.mp decoded)
    refine listable_of_parseHeader (fun nul => plain ?_) (fun nul => plain ?_) fields
    · have inside := (mem_utf8_ascii (by decide)).mpr nul
      rw [← bytes] at inside
      exact (List.takeWhile_prefix _).subset inside
    · have inside : 0 ∈ line.dropWhile (· != 0x09) := cut ▸ List.mem_cons_of_mem _ nul
      exact (List.dropWhile_suffix _).subset inside

/-- A listing reads back as what was listed, with tabs and spaces in the paths; and what any bytes
are read as could have been listed. -/
theorem parseLsTree_exact (entries : List TreeEntry) :
    ((∀ e ∈ entries, Listable e) ↔ ∃ raw, parseLsTree raw = .ok entries) ∧
      ((∀ e ∈ entries, Listable e) → parseLsTree (lsTree entries) = .ok entries) := by
  refine ⟨⟨fun listable => ⟨_, parseLsTree_lsTree listable⟩, ?_⟩, parseLsTree_lsTree⟩
  rintro ⟨raw, read⟩ e member
  rcases mapM_ok_of_mem read member with ⟨line, among, parsed⟩
  have split := (List.mem_filter.mp among).1
  exact listable_of_parseRecord (Porcelain.not_mem_of_mem_splitOn raw line split) parsed

end O7Formal.Worktree.Materialize
