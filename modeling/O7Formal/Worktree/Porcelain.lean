import Mathlib.Data.List.TakeWhile
import O7Formal.Lib.Fallible
import O7Formal.Lib.Utf8

/-! Which outputs of `git status --porcelain=2 -z` pass the check for dirty submodules. -/

namespace O7Formal.Worktree.Porcelain

open Fallible
open Utf8 (fromUtf8Lossy)

inductive StatusError where
  | emptyRecord
  | missingLeadingFields (typeByte : UInt8)
  | dirtySubmodule (sub path : List UInt8)
  | missingOriginalPath
  | unrecognizedType (other : UInt8)
  deriving DecidableEq

/-- The text; `debugStr` is how a string is quoted by `{:?}`. -/
def StatusError.message (debugStr : String → String) : StatusError → String
  | .emptyRecord =>
      "malformed git status output: an empty record appeared before the final trailing NUL"
  | .missingLeadingFields typeByte =>
      "malformed git status output: a `'" ++ String.singleton (Char.ofNat typeByte.toNat) ++
        "'` record is missing its fixed leading fields (expected at least `<type> <XY> <sub> ...`)"
  | .dirtySubmodule sub path =>
      "a submodule working tree has uncommitted content (status field " ++
        debugStr (fromUtf8Lossy sub) ++ ") at path " ++ debugStr (fromUtf8Lossy path) ++
        " — dirty submodule contents are unsupported and would be silently lost by " ++
        "candidate-state capture"
  | .missingOriginalPath =>
      "malformed git status output: a `2` (renamed/copied) record is missing its mandatory " ++
        "original-path field"
  | .unrecognizedType other =>
      "malformed or unsupported git status output: unrecognized record type Some(" ++
        toString other.toNat ++ ") (expected one of `1`, `2`, `u`, `?`, `!`)"

def splitn : Nat → List UInt8 → List (List UInt8)
  | 0, _ => []
  | 1, bytes => [bytes]
  | n + 2, bytes =>
      match bytes.dropWhile (· != 0x20) with
      | [] => [bytes]
      | _ :: rest => bytes.takeWhile (· != 0x20) :: splitn (n + 1) rest

/-- `S`, but not `S...`. -/
def IsDirty (sub : List UInt8) : Prop := sub.head? = some 0x53 ∧ sub ≠ [0x53, 0x2e, 0x2e, 0x2e]

instance (sub : List UInt8) : Decidable (IsDirty sub) := inferInstanceAs (Decidable (_ ∧ _))

def checkRecords : List (List UInt8) → Except StatusError Unit
  | [] => .ok ()
  | [] :: records => if records = [] then .ok () else .error .emptyRecord
  | (typeByte :: line) :: records =>
      -- `1` and `2`
      if typeByte = 0x31 ∨ typeByte = 0x32 then
        match splitn 4 (typeByte :: line) with
        | _lineType :: _xy :: sub :: path =>
            if IsDirty sub then .error (.dirtySubmodule sub (path.head?.getD []))
            else if typeByte = 0x32 then
              match records with
              | original :: records =>
                  if original = [] then .error .missingOriginalPath else checkRecords records
              | [] => .error .missingOriginalPath
            else checkRecords records
        | _ => .error (.missingLeadingFields typeByte)
      -- `u`, `?` and `!`
      else if typeByte = 0x75 ∨ typeByte = 0x3f ∨ typeByte = 0x21 then checkRecords records
      else .error (.unrecognizedType typeByte)

def checkNoDirtySubmoduleStatus (out : List UInt8) : Except StatusError Unit :=
  checkRecords (out.splitOn 0)

def statusArgs : List String := ["status", "--porcelain=2", "-z", "--ignore-submodules=none", "-uall"]

/-- The check of what `git` answers in the worktree. -/
def ensureNoDirtySubmoduleWorktree {ε : Type} (runGitBytes : List String → Except ε (List UInt8)) :
    Except (ε ⊕ StatusError) Unit := do
  let out ← (runGitBytes statusArgs).mapError .inl
  (checkNoDirtySubmoduleStatus out).mapError .inr

structure Line where
  bytes : List UInt8
  whole : 0 ∉ bytes

structure Word extends Line where
  single : 0x20 ∉ bytes

structure Path extends Line where
  some : bytes ≠ []

/-- The records of porcelain v2. Between `sub` and the path stand modes and object names, and in a
renamed one the score. -/
inductive Record where
  | ordinary (xy sub : Word) (modes : List Word) (path : Path)
  | renamed (xy sub : Word) (modes : List Word) (path original : Path)
  | unmerged (xy sub : Word) (modes : List Word) (path : Path)
  | untracked (path : Path)
  | ignored (path : Path)

namespace Record

/-- What follows `sub` and a space. -/
def tail (modes : List Word) (path : Path) : List UInt8 :=
  (modes.flatMap fun mode => mode.bytes ++ [0x20]) ++ path.bytes

/-- As `-z` writes it. -/
def render : Record → List UInt8
  | ordinary xy sub modes path =>
      0x31 :: 0x20 :: (xy.bytes ++ 0x20 :: (sub.bytes ++ 0x20 :: (tail modes path ++ [0])))
  | renamed xy sub modes path original =>
      0x32 :: 0x20 :: (xy.bytes ++ 0x20 :: (sub.bytes ++ 0x20 :: (tail modes path ++
        0 :: (original.bytes ++ [0]))))
  | unmerged xy sub modes path =>
      0x75 :: 0x20 :: (xy.bytes ++ 0x20 :: (sub.bytes ++ 0x20 :: (tail modes path ++ [0])))
  | untracked path => 0x3f :: 0x20 :: (path.bytes ++ [0])
  | ignored path => 0x21 :: 0x20 :: (path.bytes ++ [0])

def sub? : Record → Option Word
  | ordinary _ sub _ _ | renamed _ sub _ _ _ | unmerged _ sub _ _ => some sub
  | untracked _ | ignored _ => none

def Dirty (record : Record) : Prop := ∃ sub ∈ record.sub?, IsDirty sub.bytes

def IsUnmerged (record : Record) : Prop :=
  ∃ xy sub modes path, record = unmerged xy sub modes path

end Record

def status (records : List Record) : List UInt8 := records.flatMap Record.render

/-- The fields that are read of a record with a `sub` field: what stands next to the type byte, up to
the third space if there is one. -/
structure Fields where
  lead : Word
  xy : Word
  sub : Word
  rest : Option Line

def Fields.bytes (typeByte : UInt8) (fields : Fields) : List UInt8 :=
  typeByte :: (fields.lead.bytes ++ 0x20 :: (fields.xy.bytes ++ 0x20 :: (fields.sub.bytes ++
    fields.rest.elim [] fun rest => 0x20 :: rest.bytes)))

inductive Entry where
  | ordinary (fields : Fields)
  | renamed (fields : Fields) (original : Path)
  | skipped (typeByte : UInt8) (known : typeByte = 0x75 ∨ typeByte = 0x3f ∨ typeByte = 0x21)
      (rest : Line)

namespace Entry

def records : Entry → List (List UInt8)
  | ordinary fields => [fields.bytes 0x31]
  | renamed fields original => [fields.bytes 0x32, original.bytes]
  | skipped typeByte _ rest => [typeByte :: rest.bytes]

def Dirty : Entry → Prop
  | ordinary fields | renamed fields _ => IsDirty fields.sub.bytes
  | skipped _ _ _ => False

end Entry

def stream (entries : List Entry) : List UInt8 :=
  entries.flatMap fun entry => entry.records.flatMap fun record => record ++ [0]

/-- A stream of records, up to the fields that are read and the NUL of the last record. -/
def IsStream (out : List UInt8) : Prop :=
  ∃ entries, out = stream entries ∨ out ++ [0] = stream entries

theorem splitn_single {bytes : List UInt8} (single : 0x20 ∉ bytes) (n : Nat) :
    splitn (n + 1) bytes = [bytes] := by
  cases n with
  | zero => rfl
  | succ n =>
      have whole : bytes.dropWhile (· != 0x20) = [] := by
        rw [List.dropWhile_eq_nil_iff]
        intro b member
        exact bne_iff_ne.mpr fun space => single (space ▸ member)
      rw [splitn, whole]

theorem splitn_append {before : List UInt8} (single : 0x20 ∉ before) (rest : List UInt8) (n : Nat) :
    splitn (n + 2) (before ++ 0x20 :: rest) = before :: splitn (n + 1) rest := by
  have letters : ∀ b ∈ before, (b != 0x20) = true := by
    intro b member
    exact bne_iff_ne.mpr fun space => single (space ▸ member)
  simp [splitn, List.dropWhile_append_of_pos letters, List.takeWhile_append_of_pos letters]

theorem splitn_cases (bytes : List UInt8) (n : Nat) :
    0x20 ∉ bytes ∧ splitn (n + 2) bytes = [bytes] ∨
    ∃ before rest, bytes = before ++ 0x20 :: rest ∧ 0x20 ∉ before ∧
      splitn (n + 2) bytes = before :: splitn (n + 1) rest := by
  by_cases single : 0x20 ∈ bytes
  · rcases List.eq_append_cons_of_mem single with ⟨before, rest, rfl, free⟩
    exact .inr ⟨before, rest, rfl, free, splitn_append free rest n⟩
  · exact .inl ⟨single, splitn_single single (n + 1)⟩

theorem splitn_fields {typeByte : UInt8} (solid : typeByte ≠ 0x20) (fields : Fields) :
    splitn 4 (fields.bytes typeByte) = (typeByte :: fields.lead.bytes) :: fields.xy.bytes ::
      fields.sub.bytes :: (fields.rest.toList.map Line.bytes) := by
  have lead : 0x20 ∉ typeByte :: fields.lead.bytes := by
    rw [List.mem_cons, not_or]
    exact ⟨solid.symm, fields.lead.single⟩
  rw [Fields.bytes, ← List.cons_append, splitn_append lead, splitn_append fields.xy.single]
  cases fields.rest with
  | none => rw [Option.elim_none, List.append_nil, splitn_single fields.sub.single]; rfl
  | some rest => rw [Option.elim_some, splitn_append fields.sub.single]; rfl

theorem exists_fields {typeByte : UInt8} {line lineType xy sub : List UInt8}
    {path : List (List UInt8)} (whole : 0 ∉ typeByte :: line) (solid : typeByte ≠ 0x20)
    (cut : splitn 4 (typeByte :: line) = lineType :: xy :: sub :: path) :
    ∃ fields : Fields, typeByte :: line = fields.bytes typeByte ∧ fields.sub.bytes = sub := by
  rcases splitn_cases (typeByte :: line) 2 with ⟨_, one⟩ | ⟨first, second, same, lead, more⟩
  · rw [one] at cut
    cases cut
  rw [more] at cut
  rcases splitn_cases second 1 with ⟨_, one⟩ | ⟨status, third, rfl, code, more⟩
  · rw [one] at cut
    cases cut
  rw [more] at cut
  rcases first with _ | ⟨t, first⟩
  · exact absurd (List.cons.inj same).1 solid
  cases (List.cons.inj same).1
  have tailed : line = first ++ 0x20 :: (status ++ 0x20 :: third) := (List.cons.inj same).2
  subst tailed
  simp only [List.mem_append, List.mem_cons, not_or] at whole lead
  rcases whole with ⟨_, wholeFirst, _, wholeStatus, _, wholeThird⟩
  rcases splitn_cases third 0 with ⟨single, one⟩ | ⟨word, rest, rfl, single, more⟩
  · rw [one] at cut
    cases cut
    exact ⟨⟨⟨⟨first, wholeFirst⟩, lead.2⟩, ⟨⟨xy, wholeStatus⟩, code⟩,
      ⟨⟨sub, wholeThird⟩, single⟩, none⟩, by simp [Fields.bytes], rfl⟩
  · rw [more] at cut
    cases cut
    simp only [List.mem_append, List.mem_cons, not_or] at wholeThird
    exact ⟨⟨⟨⟨first, wholeFirst⟩, lead.2⟩, ⟨⟨xy, wholeStatus⟩, code⟩,
      ⟨⟨sub, wholeThird.1⟩, single⟩, some ⟨rest, wholeThird.2.2⟩⟩, rfl, rfl⟩

theorem checkRecords_entry (entry : Entry) (records : List (List UInt8)) :
    checkRecords (entry.records ++ records) = .ok () ↔
      ¬ entry.Dirty ∧ checkRecords records = .ok () := by
  cases entry with
  | ordinary fields =>
      have cut := splitn_fields (by decide : (0x31 : UInt8) ≠ 0x20) fields
      rw [Entry.records, List.singleton_append, Fields.bytes, checkRecords.eq_def]
      dsimp only
      rw [if_pos (.inl rfl),
        ← Fields.bytes, cut]
      by_cases dirty : IsDirty fields.sub.bytes
      · simp [dirty, Entry.Dirty]
      · simp [dirty, Entry.Dirty]
  | renamed fields original =>
      have cut := splitn_fields (by decide : (0x32 : UInt8) ≠ 0x20) fields
      rw [Entry.records, Fields.bytes, List.cons_append, List.singleton_append,
        checkRecords.eq_def]
      dsimp only
      rw [if_pos (.inr rfl), ← Fields.bytes, cut]
      by_cases dirty : IsDirty fields.sub.bytes
      · simp [dirty, Entry.Dirty]
      · simp [dirty, Entry.Dirty, original.some]
  | skipped typeByte known rest =>
      have other : ¬ (typeByte = 0x31 ∨ typeByte = 0x32) := by
        rcases known with rfl | rfl | rfl <;> decide
      rw [Entry.records, List.singleton_append, checkRecords.eq_def]
      dsimp only
      rw [if_neg other, if_pos known]
      simp [Entry.Dirty]

theorem checkRecords_entries (entries : List Entry) (records : List (List UInt8)) :
    checkRecords (entries.flatMap Entry.records ++ records) = .ok () ↔
      (∀ entry ∈ entries, ¬ entry.Dirty) ∧ checkRecords records = .ok () := by
  induction entries with
  | nil => simp
  | cons entry entries ih =>
      rw [List.flatMap_cons, List.append_assoc, checkRecords_entry, ih, List.forall_mem_cons,
        and_assoc]

/-- The records of a stream, with what follows its last NUL or without it. -/
def IsCut (records : List (List UInt8)) : Prop :=
  ∃ entries : List Entry, records = entries.flatMap Entry.records ∨
    records = entries.flatMap Entry.records ++ [[]]

theorem IsCut.cons {records : List (List UInt8)} (cut : IsCut records) (entry : Entry) :
    IsCut (entry.records ++ records) := by
  rcases cut with ⟨entries, same | same⟩
  · exact ⟨entry :: entries, .inl (by rw [same, List.flatMap_cons])⟩
  · exact ⟨entry :: entries, .inr (by rw [same, List.flatMap_cons, List.append_assoc])⟩

theorem isCut_of_ok {records : List (List UInt8)} (whole : ∀ record ∈ records, 0 ∉ record)
    (passed : checkRecords records = .ok ()) : IsCut records := by
  fun_induction checkRecords records
  case case1 => exact ⟨[], .inl rfl⟩
  case case2 => exact ⟨[], .inr rfl⟩
  case case6 line lineType xy sub path _ original records present _ fields ih =>
    rw [List.forall_mem_cons, List.forall_mem_cons] at whole
    rcases exists_fields whole.1 (by decide) fields with ⟨fields, same, _⟩
    have later := (ih whole.2.2 passed).cons (.renamed fields ⟨⟨original, whole.2.1⟩, present⟩)
    rw [Entry.records, ← same] at later
    exact later
  case case8 typeByte line records tracked lineType xy sub path fields _ single ih =>
    rw [List.forall_mem_cons] at whole
    cases tracked.resolve_right single
    rcases exists_fields whole.1 (by decide) fields with ⟨fields, same, _⟩
    have later := (ih whole.2 passed).cons (.ordinary fields)
    rw [Entry.records, ← same] at later
    exact later
  case case10 typeByte line records _ known ih =>
    rw [List.forall_mem_cons, List.mem_cons, not_or] at whole
    exact (ih whole.2 passed).cons (.skipped typeByte known ⟨line, whole.1.2⟩)
  all_goals cases passed

theorem Entry.whole (entry : Entry) : ∀ record ∈ entry.records, 0 ∉ record := by
  have fieldsWhole : ∀ (typeByte : UInt8) (fields : Fields), typeByte ≠ 0 →
      0 ∉ fields.bytes typeByte := by
    intro typeByte fields proper
    have rest : 0 ∉ fields.rest.elim [] fun rest => 0x20 :: rest.bytes := by
      cases fields.rest with
      | none => exact List.not_mem_nil
      | some rest => simp [rest.whole]
    simp [Fields.bytes, fields.lead.whole, fields.xy.whole, fields.sub.whole, rest, proper.symm]
  cases entry with
  | ordinary fields => simpa [records] using fieldsWhole _ fields (by decide)
  | renamed fields original =>
      simpa [records] using ⟨fieldsWhole _ fields (by decide), original.whole⟩
  | skipped typeByte known rest =>
      have proper : 0 ≠ typeByte := by
        rcases known with rfl | rfl | rfl <;> decide
      simp [records, rest.whole, proper]

theorem flatMap_entries (entries : List Entry) :
    stream entries = (entries.flatMap Entry.records).flatMap fun record => record ++ [0] := by
  rw [stream, List.flatMap_assoc]

theorem splitOn_flatMap {records : List (List UInt8)} (whole : ∀ record ∈ records, 0 ∉ record) :
    (records.flatMap fun record => record ++ [0]).splitOn 0 = records ++ [[]] := by
  induction records with
  | nil => rfl
  | cons record records ih =>
      rw [List.forall_mem_cons] at whole
      rw [List.flatMap_cons, List.append_assoc, List.singleton_append,
        List.splitOn_append_cons_self_of_not_mem whole.1, ih whole.2, List.cons_append]

theorem splitOn_stream (entries : List Entry) :
    (stream entries).splitOn 0 = entries.flatMap Entry.records ++ [[]] := by
  rw [flatMap_entries, splitOn_flatMap]
  intro record member
  rcases List.mem_flatMap.mp member with ⟨entry, _, held⟩
  exact entry.whole record held

theorem check_stream (entries : List Entry) :
    checkNoDirtySubmoduleStatus (stream entries) = .ok () ↔ ∀ entry ∈ entries, ¬ entry.Dirty := by
  rw [checkNoDirtySubmoduleStatus, splitOn_stream, checkRecords_entries]
  exact and_iff_left rfl

theorem intercalate_append {records : List (List UInt8)} (some : records ≠ []) :
    [0].intercalate records ++ [0] = records.flatMap fun record => record ++ [0] := by
  induction records with
  | nil => exact absurd rfl some
  | cons record records ih =>
      cases records with
      | nil => simp
      | cons next records =>
          rw [List.flatMap_cons, ← ih (List.cons_ne_nil _ _)]
          simp

theorem not_mem_of_mem_splitOn (out : List UInt8) : ∀ record ∈ out.splitOn 0, 0 ∉ record := by
  induction out with
  | nil => simp
  | cons b out ih =>
      rw [List.splitOn_cons_eq_if_modifyHead]
      split
      case isTrue nul =>
        rw [List.forall_mem_cons]
        exact ⟨List.not_mem_nil, ih⟩
      case isFalse other =>
        cases records : out.splitOn 0 with
        | nil => exact absurd records (List.splitOn_ne_nil 0 out)
        | cons record records' =>
            rw [records, List.forall_mem_cons] at ih
            rw [List.modifyHead_cons, List.forall_mem_cons, List.mem_cons, not_or]
            exact ⟨⟨fun nul => other (beq_iff_eq.mpr nul.symm), ih.1⟩, ih.2⟩

theorem splitOn_of_append {out : List UInt8} {entries : List Entry}
    (same : out ++ [0] = stream entries) : out.splitOn 0 = entries.flatMap Entry.records := by
  have cut := List.splitOn_append_cons_self (a := 0) out []
  rw [same, splitOn_stream] at cut
  exact (List.append_cancel_right cut).symm

theorem check_ok_iff {out : List UInt8} : checkNoDirtySubmoduleStatus out = .ok () ↔
    ∃ entries, (out = stream entries ∨ out ++ [0] = stream entries) ∧
      ∀ entry ∈ entries, ¬ entry.Dirty := by
  constructor
  · intro passed
    have joined := intercalate_append (List.splitOn_ne_nil 0 out)
    rw [List.intercalate_splitOn] at joined
    rw [checkNoDirtySubmoduleStatus] at passed
    rcases isCut_of_ok (not_mem_of_mem_splitOn out) passed with ⟨entries, same | same⟩
    · rw [same, ← List.append_nil (entries.flatMap _), checkRecords_entries] at passed
      exact ⟨entries, .inr (by rw [joined, same, flatMap_entries]), passed.1⟩
    · rw [same, checkRecords_entries] at passed
      refine ⟨entries, .inl ?_, passed.1⟩
      rw [same, List.flatMap_append, ← flatMap_entries] at joined
      exact List.append_cancel_right joined
  · rintro ⟨entries, rfl | same, clean⟩
    · exact (check_stream entries).mpr clean
    · rw [checkNoDirtySubmoduleStatus, splitOn_of_append same,
        ← List.append_nil (entries.flatMap _), checkRecords_entries]
      exact ⟨clean, rfl⟩

theorem ensure_ok_iff {ε : Type} {runGitBytes : List String → Except ε (List UInt8)} :
    ensureNoDirtySubmoduleWorktree runGitBytes = .ok () ↔ ∃ out entries,
      runGitBytes statusArgs = .ok out ∧ (out = stream entries ∨ out ++ [0] = stream entries) ∧
        ∀ entry ∈ entries, ¬ entry.Dirty := by
  simp only [ensureNoDirtySubmoduleWorktree, bind_ok_iff, mapError_ok_iff, check_ok_iff,
    exists_and_left]

namespace Record

theorem whole_tail (modes : List Word) (path : Path) : 0 ∉ tail modes path := by
  have mode : ∀ word : Word, 0 ∉ word.bytes := fun word => word.whole
  simp [tail, path.whole, mode]

def fields (xy sub : Word) (modes : List Word) (path : Path) : Fields where
  lead := ⟨⟨[], List.not_mem_nil⟩, List.not_mem_nil⟩
  xy := xy
  sub := sub
  rest := some ⟨tail modes path, whole_tail modes path⟩

def spaced (path : Path) : Line :=
  ⟨0x20 :: path.bytes, List.not_mem_cons_of_ne_of_not_mem (by decide) path.whole⟩

def entry : Record → Entry
  | ordinary xy sub modes path => .ordinary (fields xy sub modes path)
  | renamed xy sub modes path original => .renamed (fields xy sub modes path) original
  | unmerged xy sub modes path => .skipped 0x75 (.inl rfl)
      ⟨0x20 :: (xy.bytes ++ 0x20 :: (sub.bytes ++ 0x20 :: tail modes path)), by
        simp [xy.whole, sub.whole, whole_tail]⟩
  | untracked path => .skipped 0x3f (.inr (.inl rfl)) (spaced path)
  | ignored path => .skipped 0x21 (.inr (.inr rfl)) (spaced path)

theorem render_eq (record : Record) :
    record.render = record.entry.records.flatMap fun line => line ++ [0] := by
  cases record <;> simp [render, entry, Entry.records, fields, Fields.bytes, spaced]

theorem dirty_entry (record : Record) :
    record.entry.Dirty ↔ record.Dirty ∧ ¬ record.IsUnmerged := by
  cases record <;> simp [entry, Entry.Dirty, Dirty, sub?, IsUnmerged, fields]

end Record

theorem status_eq (records : List Record) : status records = stream (records.map Record.entry) := by
  rw [status, stream, List.flatMap_map]
  exact List.flatMap_congr fun record _ => record.render_eq

theorem check_status (records : List Record) : checkNoDirtySubmoduleStatus (status records) = .ok () ↔
    ∀ record ∈ records, record.Dirty → record.IsUnmerged := by
  rw [status_eq, check_stream, List.forall_mem_map]
  refine forall₂_congr fun record _ => ?_
  rw [Record.dirty_entry, not_and, not_not]

/-- Statuses pass when no record is dirty, unless unmerged ones are the only dirty ones; and what is
not a stream of records is refused. -/
theorem status_exact_iff (records : List Record) (out : List UInt8) :
    ((checkNoDirtySubmoduleStatus (status records) = .ok () ↔
        ∀ record ∈ records, ¬ record.Dirty) ↔
      ((∃ record ∈ records, record.Dirty ∧ ¬ record.IsUnmerged) ∨
        ∀ record ∈ records, record.IsUnmerged → ¬ record.Dirty)) ∧
    (¬ IsStream out → ∃ e, checkNoDirtySubmoduleStatus out = .error e) := by
  constructor
  · rw [check_status]
    constructor
    · intro exact
      by_cases seen : ∃ record ∈ records, record.Dirty ∧ ¬ record.IsUnmerged
      · exact .inl seen
      · refine .inr fun record member _ => exact.mp ?_ record member
        intro record member dirty
        by_contra merged
        exact seen ⟨record, member, dirty, merged⟩
    · rintro (⟨record, member, dirty, merged⟩ | clean)
      · exact iff_of_false (fun passed => merged (passed record member dirty))
          fun clean => clean record member dirty
      · constructor
        · intro passed record member dirty
          exact clean record member (passed record member dirty) dirty
        · intro clean record member dirty
          exact absurd dirty (clean record member)
  · intro unread
    cases checked : checkNoDirtySubmoduleStatus out with
    | error e => exact ⟨e, rfl⟩
    | ok _ =>
        rcases check_ok_iff.mp checked with ⟨entries, read, _⟩
        exact absurd ⟨entries, read⟩ unread

/-- A conflict in a submodule with commits of its own passes. -/
theorem status_passes_conflict : ¬ ∀ records : List Record,
    checkNoDirtySubmoduleStatus (status records) = .ok () ↔
      ∀ record ∈ records, ¬ record.Dirty := by
  intro exact
  -- `u UU SC.. 160000 160000 160000 160000 aaaa aaaa aaaa sub`
  have mode : ∃ word : Word, word.bytes = [0x31, 0x36, 0x30, 0x30, 0x30, 0x30] :=
    ⟨⟨⟨_, by decide⟩, by decide⟩, rfl⟩
  have object : ∃ word : Word, word.bytes = [0x61, 0x61, 0x61, 0x61] :=
    ⟨⟨⟨_, by decide⟩, by decide⟩, rfl⟩
  have both : ∃ word : Word, word.bytes = [0x55, 0x55] := ⟨⟨⟨_, by decide⟩, by decide⟩, rfl⟩
  have changed : ∃ word : Word, word.bytes = [0x53, 0x43, 0x2e, 0x2e] :=
    ⟨⟨⟨_, by decide⟩, by decide⟩, rfl⟩
  have path : ∃ path : Path, path.bytes = [0x73, 0x75, 0x62] := ⟨⟨⟨_, by decide⟩, by decide⟩, rfl⟩
  rcases mode, object, both, changed, path with
    ⟨⟨mode, _⟩, ⟨object, _⟩, ⟨xy, _⟩, ⟨sub, dirty⟩, ⟨path, _⟩⟩
  let conflict : Record :=
    .unmerged xy sub [mode, mode, mode, mode, object, object, object] path
  have passed : checkNoDirtySubmoduleStatus (status [conflict]) = .ok () := by
    rw [check_status, List.forall_mem_singleton]
    exact fun _ => ⟨_, _, _, _, rfl⟩
  refine (exact _).mp passed conflict List.mem_cons_self ⟨sub, rfl, ?_⟩
  rw [dirty]
  decide

end O7Formal.Worktree.Porcelain
