import O7Formal.Contracts.Scan
import O7Formal.Run.Event

/-! The scalar types of the wire contract. Each carries the bound its parser checks, so a
value that exists has been admitted. -/

namespace O7Formal.Contracts

open ByteCodec Fallible

def maxControlArtifactBytes : Nat := 2 ^ 20

def maxEvidenceBlobBytes : Nat := 64 * 2 ^ 20

def maxIdBytes : Nat := 256

def maxArtifactRefs : Nat := 256

def maxTimestampBytes : Nat := 64

inductive ScalarError where
  | notRfc3339Utc
  | emptyId
  | idTooLong (actual : Nat)
  | textTooLong (actual max : Nat)
  | emptyCommitId
  | abbreviatedCommitId (actual : Nat)
  | nonHexCommitId (offset : Nat)
  | malformedDigest (actual : Nat)
  | tooManyEntries (actual max : Nat)
  deriving DecidableEq, Repr

/-- `str::len`: the bytes of the UTF-8 encoding. -/
def byteLength (s : String) : Nat := (utf8Bytes s).length

@[ext]
structure Id where
  asStr : String
  nonempty : asStr ≠ ""
  bounded : byteLength asStr ≤ maxIdBytes

instance : DecidableEq Id := fun a b => decidable_of_iff (a.asStr = b.asStr) Id.ext_iff.symm

def Id.parse (s : String) : Except ScalarError Id :=
  if empty : s = "" then .error .emptyId
  else if fits : byteLength s ≤ maxIdBytes then .ok ⟨s, empty, fits⟩
  else .error (.idTooLong (byteLength s))

@[simp] theorem Id.parse_asStr (id : Id) : Id.parse id.asStr = .ok id := by
  rw [Id.parse, dif_neg id.nonempty, dif_pos id.bounded]

theorem Id.asStr_injective : Function.Injective Id.asStr := by
  intro a b same
  cases a
  cases b
  simp_all

structure BoundedText (max : Nat) where
  asStr : String
  bounded : byteLength asStr ≤ min max maxStringBytes
  deriving DecidableEq

def BoundedText.parse (max : Nat) (s : String) : Except ScalarError (BoundedText max) :=
  if fits : byteLength s ≤ min max maxStringBytes then .ok ⟨s, fits⟩
  else .error (.textTooLong (byteLength s) (min max maxStringBytes))

@[simp] theorem BoundedText.parse_asStr {max : Nat} (text : BoundedText max) :
    BoundedText.parse max text.asStr = .ok text := by
  rw [BoundedText.parse, dif_pos text.bounded]

theorem BoundedText.asStr_injective (max : Nat) :
    Function.Injective (fun text : BoundedText max => text.asStr) := by
  intro a b same
  cases a
  cases b
  simp_all

abbrev AdapterVersion := BoundedText 128

abbrev ModelIdentity := BoundedText 256

def isFullCommitId (s : String) : Bool :=
  (byteLength s == 40 || byteLength s == 64) && (utf8Bytes s).all isHexByte

structure CommitId where
  asStr : String
  full : isFullCommitId asStr = true
  deriving DecidableEq

def CommitId.parse (s : String) : Except ScalarError CommitId :=
  if full : isFullCommitId s = true then .ok ⟨s, full⟩
  else if s = "" then .error .emptyCommitId
  else if byteLength s ≠ 40 ∧ byteLength s ≠ 64 then .error (.abbreviatedCommitId s.length)
  else .error (.nonHexCommitId ((utf8Bytes s).findIdx fun b => !isHexByte b))

@[simp] theorem CommitId.parse_asStr (id : CommitId) : CommitId.parse id.asStr = .ok id := by
  rw [CommitId.parse, dif_pos id.full]

theorem CommitId.asStr_injective : Function.Injective CommitId.asStr := by
  intro a b same
  cases a
  cases b
  simp_all

theorem CommitId.asStr_ne_empty (id : CommitId) : id.asStr ≠ "" := by
  intro empty
  have full := id.full
  rw [empty] at full
  exact absurd full (by decide)

def isAsciiDigit (b : UInt8) : Bool := 0x30 ≤ b && b ≤ 0x39

def decimal (digits : List UInt8) : Nat := digits.foldl (fun n b => n * 10 + (b.toNat - 0x30)) 0

def daysInMonth (year month : Nat) : Nat :=
  if month ∈ [1, 3, 5, 7, 8, 10, 12] then 31
  else if month ∈ [4, 6, 9, 11] then 30
  else if month = 2 then if 4 ∣ year ∧ (¬ 100 ∣ year ∨ 400 ∣ year) then 29 else 28
  else 0

/-- One byte of `dddd-dd-ddTdd:dd:dd`. -/
def matchesShape (b shape : UInt8) : Bool :=
  if shape = 'd'.toUInt8 then isAsciiDigit b
  else if shape = 'T'.toUInt8 then b = 'T'.toUInt8 || b = 't'.toUInt8
  else b = shape

def timestampShape : List UInt8 := utf8Bytes "dddd-dd-ddTdd:dd:dd"

def isCalendarStamp (stamp : List UInt8) : Bool :=
  let field := fun start width => decimal ((stamp.drop start).take width)
  let year := field 0 4
  let month := field 5 2
  let day := field 8 2
  let hour := field 11 2
  let minute := field 14 2
  let second := field 17 2
  (1 ≤ month && month ≤ 12) && (1 ≤ day && day ≤ daysInMonth year month) &&
    (hour ≤ 23 && minute ≤ 59) &&
    (second ≤ 59 || (second == 60 && hour == 23 && minute == 59))

def isUtcSuffix (rest : List UInt8) : Bool :=
  let offset := fun tail => tail == utf8Bytes "Z" || tail == utf8Bytes "z" ||
    tail == utf8Bytes "+00:00"
  match rest with
  | b :: frac =>
      if b = '.'.toUInt8 then
        !(frac.takeWhile isAsciiDigit).isEmpty && offset (frac.dropWhile isAsciiDigit)
      else offset rest
  | [] => false

def isRfc3339Utc (s : String) : Bool :=
  let bytes := utf8Bytes s
  let stamp := bytes.take timestampShape.length
  stamp.length == timestampShape.length &&
    (stamp.zip timestampShape).all (fun pair => matchesShape pair.1 pair.2) &&
    isCalendarStamp stamp && isUtcSuffix (bytes.drop timestampShape.length)

structure Timestamp where
  asStr : String
  bounded : byteLength asStr ≤ maxTimestampBytes
  utc : isRfc3339Utc asStr = true
  deriving DecidableEq

def Timestamp.parse (s : String) : Except ScalarError Timestamp :=
  if fits : byteLength s ≤ maxTimestampBytes then
    if utc : isRfc3339Utc s = true then .ok ⟨s, fits, utc⟩ else .error .notRfc3339Utc
  else .error (.textTooLong (byteLength s) maxTimestampBytes)

@[simp] theorem Timestamp.parse_asStr (t : Timestamp) : Timestamp.parse t.asStr = .ok t := by
  rw [Timestamp.parse, dif_pos t.bounded, dif_pos t.utc]

abbrev WireDigest := Run.Digest256

def WireDigest.parse (s : String) : Except ScalarError WireDigest :=
  if canonical : Run.isCanonicalHex s = true then .ok ⟨s, canonical⟩
  else .error (.malformedDigest (byteLength s))

@[simp] theorem WireDigest.parse_asStr (d : WireDigest) : WireDigest.parse d.asStr = .ok d := by
  rw [WireDigest.parse, dif_pos d.canonical]

theorem WireDigest.asStr_length (d : WireDigest) : byteLength d.asStr = 64 := by
  have canonical := d.canonical
  simp only [Run.isCanonicalHex, Bool.and_eq_true, beq_iff_eq] at canonical
  exact canonical.1

theorem WireDigest.asStr_ne_empty (d : WireDigest) : d.asStr ≠ "" := by
  intro empty
  have length := d.asStr_length
  rw [empty] at length
  exact absurd length (by decide)

@[ext]
structure BoundedVec (α : Type) (max : Nat) where
  items : List α
  bounded : items.length ≤ min max maxArrayLen
  deriving DecidableEq

def BoundedVec.new {α : Type} (max : Nat) (items : List α) : Except ScalarError (BoundedVec α max) :=
  if fits : items.length ≤ min max maxArrayLen then .ok ⟨items, fits⟩
  else .error (.tooManyEntries items.length (min max maxArrayLen))

def BoundedVec.empty {α : Type} (max : Nat) : BoundedVec α max := ⟨[], Nat.zero_le _⟩

def tryMapFrom {α β ε : Type} (convert : Nat → α → Except ε β) : Nat → List α → Except ε (List β)
  | _, [] => .ok []
  | index, item :: rest => do
      let first ← convert index item
      let others ← tryMapFrom convert (index + 1) rest
      return first :: others

theorem tryMapFrom_length {α β ε : Type} {convert : Nat → α → Except ε β} {index : Nat}
    {items : List α} {out : List β} (mapped : tryMapFrom convert index items = .ok out) :
    out.length = items.length := by
  induction items generalizing index out with
  | nil =>
      cases mapped
      rfl
  | cons item rest ih =>
      simp only [tryMapFrom, bind_ok_iff, pure_ok_iff] at mapped
      rcases mapped with ⟨first, _, others, later, same⟩
      rw [← same, List.length_cons, List.length_cons, ih later]

def BoundedVec.tryMapInto {α β ε : Type} {max : Nat} (convert : Nat → α → Except ε β)
    (v : BoundedVec α max) : Except ε (BoundedVec β max) :=
  match mapped : tryMapFrom convert 0 v.items with
  | .ok out => .ok ⟨out, (tryMapFrom_length mapped).trans_le v.bounded⟩
  | .error e => .error e

def BoundedVec.map {α β : Type} {max : Nat} (f : α → β) (v : BoundedVec α max) :
    BoundedVec β max :=
  ⟨v.items.map f, (List.length_map f).trans_le v.bounded⟩

theorem tryMapFrom_map {α β ε : Type} {convert : Nat → α → Except ε β} {f : β → α}
    (reads : ∀ index b, convert index (f b) = .ok b) (items : List β) (index : Nat) :
    tryMapFrom convert index (items.map f) = .ok items := by
  induction items generalizing index with
  | nil => rfl
  | cons b rest ih =>
      rw [List.map_cons, tryMapFrom, reads, ok_bind, ih]
      rfl

theorem BoundedVec.tryMapInto_map {α β ε : Type} {max : Nat} {convert : Nat → α → Except ε β}
    {f : β → α} (reads : ∀ index b, convert index (f b) = .ok b) (v : BoundedVec β max) :
    (v.map f).tryMapInto convert = .ok v := by
  have mapped : tryMapFrom convert 0 (v.map f).items = .ok v.items :=
    tryMapFrom_map reads v.items 0
  unfold tryMapInto
  split
  · rename_i out ran
    rw [mapped] at ran
    cases ran
    rfl
  · rename_i e ran
    rw [mapped] at ran
    cases ran

end O7Formal.Contracts
