import O7Formal.Dispatch.Hydration

/-! The two resolvers of one record: name by name from its open directory, and by the joined path. A
locator is split at each slash in both, but only the first one drops the parts that do not move. -/

namespace O7Formal.Dispatch

open Fallible
open FileTree (Files Location NoLinks Node Open join names openBelow parts)
open O7Formal.Run (ArtifactError ArtifactRef ArtifactResolver Asked RunEvent Serves)

/-- What lies below a record directory: directories and regular files, each in a directory. -/
structure RecordTree (files : Files Char) (here : Location Char) : Prop where
  root : files here = some .dir
  kinds : ∀ below node, files (here ++ below) = some node →
    node = .dir ∨ ∃ bytes mode, node = .file bytes mode
  parents : ∀ below name, files (here ++ (below ++ [name])) ≠ none →
    files (here ++ below) = some .dir

def WithinLimits (files : Files Char) (here : Location Char) (total : Nat) : Prop :=
  ∀ below bytes mode, files (here ++ below) = some (.file bytes mode) →
    bytes.length ≤ maxArtifactBytes ∧ total + bytes.length ≤ maxTotalHydratedBytes

theorem RecordTree.noLinks {files : Files Char} {here : Location Char}
    (tree : RecordTree files here) : NoLinks files here := by
  intro below target found
  rcases tree.kinds below _ found with same | ⟨bytes, mode, same⟩
  · cases same
  · cases same

theorem RecordTree.descend {files : Files Char} {here : Location Char}
    (tree : RecordTree files here) {name : List Char}
    (directory : files (here ++ [name]) = some .dir) : RecordTree files (here ++ [name]) := by
  refine ⟨directory, ?_, ?_⟩
  · intro below node found
    rw [List.append_assoc] at found
    exact tree.kinds _ node found
  · intro below inner found
    rw [List.append_assoc] at found ⊢
    exact tree.parents ([name] ++ below) inner found

theorem RecordTree.above {files : Files Char} {here : Location Char} (tree : RecordTree files here)
    {later : List (List Char)} (more : later ≠ []) {init : List (List Char)}
    (present : files (here ++ (init ++ later)) ≠ none) : files (here ++ init) = some .dir := by
  induction later using List.reverseRecOn generalizing init with
  | nil => exact absurd rfl more
  | append_singleton later last above =>
      rw [← List.append_assoc init] at present
      have parent := tree.parents (init ++ later) last present
      by_cases final : later = []
      · rw [final, List.append_nil] at parent
        exact parent
      · exact above final (by rw [parent]; exact nofun)

theorem RecordTree.openBelow_iff {files : Files Char} {here : Location Char}
    (tree : RecordTree files here) {names : List (List Char)} (named : names ≠ [])
    {bytes : List UInt8} : openBelow files here names = .ok bytes ↔
      ∃ mode, files (here ++ names) = some (.file bytes mode) := by
  refine ⟨fun below => FileTree.contents_ok_iff.mp (FileTree.openBelow_contents named below), ?_⟩
  rintro ⟨mode, found⟩
  induction names generalizing here with
  | nil => exact absurd rfl named
  | cons name rest ih =>
      cases rest with
      | nil => exact FileTree.contents_ok_iff.mpr ⟨mode, found⟩
      | cons next rest =>
          have directory : files (here ++ [name]) = some .dir :=
            tree.above (List.cons_ne_nil next rest)
              (by rw [List.singleton_append, found]; exact Option.some_ne_none _)
          rw [openBelow, directory]
          · apply ih (tree.descend directory) (List.cons_ne_nil _ _)
            rw [List.append_assoc]
            exact found
          · exact fun empty => List.cons_ne_nil _ _ empty

/-- No part is empty, and none is `.` or `..`. -/
def PlainName (locator : String) : Prop :=
  ∀ part ∈ parts locator.toList, part ≠ [] ∧ part ≠ ['.'] ∧ part ≠ ['.', '.']

instance (locator : String) : Decidable (PlainName locator) :=
  inferInstanceAs (Decidable (∀ part ∈ parts locator.toList, _))

theorem PlainName.moves {locator : String} (plain : PlainName locator) :
    ∀ part ∈ parts locator.toList, ¬ FileTree.Stays part := by
  intro part member stays
  rcases stays with empty | dot
  · exact (plain part member).1 empty
  · exact (plain part member).2.1 dot

theorem PlainName.names_eq {locator : String} (plain : PlainName locator) :
    names (parts locator.toList) = parts locator.toList := by
  apply List.filter_eq_self.mpr
  intro part member
  exact decide_eq_true (plain.moves part member)

theorem PlainName.file {locator : String} (plain : PlainName locator) :
    Open (parts locator.toList) :=
  fun part last => plain.moves part (List.mem_of_getLast? last)

/-- It begins with a name and never moves up, and a later part is empty or `.`: names spelled with
more than one separator between them or behind them. -/
def Padded (locator : String) : Prop :=
  ∃ first later, parts locator.toList = first :: later ∧ ¬ FileTree.Stays first ∧
    FileTree.up ∉ first :: later ∧ ∃ part ∈ later, FileTree.Stays part

def Overlong (store : RunStore) (dir : List Char) (here : Location Char) (locator : String) : Prop :=
  PlainName locator ∧ ∃ bytes mode,
    store.files (here ++ parts locator.toList) = some (.file bytes mode) ∧
      ¬ Fits (join dir locator.toList)

def Agreeable (store : RunStore) (dir : List Char) (here : Location Char) (locator : String) : Prop :=
  ¬ Padded locator ∧ ¬ Overlong store dir here locator

theorem PlainName.shape {locator : String} : PlainName locator ↔
    (∀ part ∈ parts locator.toList, ¬ FileTree.Stays part) ∧
      FileTree.up ∉ parts locator.toList := by
  constructor
  · intro plain
    exact ⟨plain.moves, fun member => (plain _ member).2.2 rfl⟩
  · rintro ⟨moves, level⟩ part member
    refine ⟨fun empty => moves part member (.inl empty), fun dot => moves part member (.inr dot), ?_⟩
    intro same
    rw [same] at member
    exact level member

theorem confined_iff_parts {locator : String} : confined locator = true ↔
    ∃ first later, parts locator.toList = first :: later ∧ ¬ FileTree.Stays first ∧
      FileTree.up ∉ first :: later := by
  rcases List.exists_cons_of_ne_nil (List.splitOn_ne_nil '/' locator.toList) with
    ⟨first, later, split⟩
  have nonempty : first ≠ [] → locator ≠ "" := by
    rintro named rfl
    exact named (List.cons.inj split).1.symm
  have divided : parts locator.toList = first :: later := split
  simp only [confined, Bool.and_eq_true, decide_eq_true_eq, List.all_eq_true, split, List.head?_cons,
    ne_eq, Option.some.injEq]
  constructor
  · rintro ⟨⟨⟨_, rooted⟩, dotted⟩, level⟩
    exact ⟨first, later, divided, not_or.mpr ⟨rooted, dotted⟩, fun member => level _ member rfl⟩
  · rintro ⟨_, _, same, moves, level⟩
    rw [divided] at same
    cases same
    rcases not_or.mp moves with ⟨named, notDot⟩
    refine ⟨⟨⟨nonempty named, named⟩, notDot⟩, fun part member same => ?_⟩
    rw [same] at member
    exact level member

theorem PlainName.confined {locator : String} (plain : PlainName locator) :
    confined locator = true := by
  rcases List.exists_cons_of_ne_nil (List.splitOn_ne_nil '/' locator.toList) with
    ⟨first, later, split⟩
  have divided : parts locator.toList = first :: later := split
  rcases PlainName.shape.mp plain with ⟨moves, level⟩
  rw [divided] at moves level
  exact confined_iff_parts.mpr ⟨first, later, divided, moves first List.mem_cons_self, level⟩

theorem confined_plain_iff_padded {locator : String} :
    (confined locator = true → PlainName locator) ↔ ¬ Padded locator := by
  rw [confined_iff_parts, PlainName.shape]
  constructor
  · rintro accepted ⟨first, later, split, moves, level, part, member, stays⟩
    refine (accepted ⟨first, later, split, moves, level⟩).1 part ?_ stays
    exact split ▸ List.mem_cons_of_mem _ member
  · rintro bare ⟨first, later, split, moves, level⟩
    rw [split]
    refine ⟨List.forall_mem_cons.mpr ⟨moves, fun part member stays => ?_⟩, level⟩
    exact bare ⟨first, later, split, moves, level, part, member, stays⟩

section Agreement

variable {store : RunStore} {dir : List Char} {here : Location Char}

theorem open_ok_iff (opened : openRecordDir store dir = .ok here)
    (tree : RecordTree store.files here) {path : List Char}
    (relative : FileTree.isAbsolute path = false) (inside : FileTree.up ∉ parts path)
    (named : names (parts path) ≠ []) {bytes : List UInt8} :
    store.open_ (join dir path) = .ok bytes ↔
      Fits (join dir path) ∧ Open (parts path) ∧
        openBelow store.files here (names (parts path)) = .ok bytes := by
  rcases openRecordDir_ok_iff.mp opened with ⟨_, found, directory⟩
  simp only [RunStore.open_, bind_ok_iff, refuseIf_ok_iff, exists_const, not_not]
  rw [FileTree.read_join_iff found directory tree.noLinks relative inside named]

theorem bounded_ok_iff (tree : RecordTree store.files here)
    {total : Nat} (within : WithinLimits store.files here total) {a : ArtifactRef}
    {bytes : List UInt8} : boundedRecordDirResolver store here a = .ok bytes ↔
      confined a.locator = true ∧
        openBelow store.files here (names (parts a.locator.toList)) = .ok bytes := by
  refine ⟨bounded_ok, ?_⟩
  rintro ⟨inside, below⟩
  rcases (tree.openBelow_iff (confined_parts inside).2.2).mp below with ⟨mode, found⟩
  have small := (within _ bytes mode found).1
  simp only [boundedRecordDirResolver, bind_ok_iff, refuseIf_ok_iff, exists_const, mapError_ok_iff,
    pure_ok_iff, Bool.not_eq_false]
  exact ⟨inside, bytes, below, not_lt.mpr small, rfl⟩

theorem resolve_ok_iff (tree : RecordTree store.files here)
    {total : Nat} (within : WithinLimits store.files here total) {a : ArtifactRef}
    {bytes : List UInt8} : (resolve total a (unchanging store here a)).1 = .ok bytes ↔
      boundedRecordDirResolver store here a = .ok bytes := by
  constructor
  · intro resolved
    rcases resolve_ok resolved with ⟨inside, size, opened, read, _⟩
    have below : openBelow store.files here (names (parts a.locator.toList)) = .ok bytes :=
      mapError_ok_iff.mp read
    exact (bounded_ok_iff tree within).mpr ⟨inside, below⟩
  · intro resolved
    rcases bounded_ok resolved with ⟨inside, below⟩
    rcases (tree.openBelow_iff (confined_parts inside).2.2).mp below with ⟨mode, found⟩
    have room := within _ bytes mode found
    have read : (unchanging store here a).contents = .ok bytes := mapError_ok_iff.mpr below
    have size : (unchanging store here a).size = .ok bytes.length :=
      congrArg (Except.map List.length) read
    rw [resolve_within inside size read room.1 room.1 room.2]

theorem recordDir_ok_iff (opened : openRecordDir store dir = .ok here)
    (tree : RecordTree store.files here) {a : ArtifactRef} {bytes : List UInt8} :
    recordDirResolver (store.record dir) a = .ok bytes ↔ confined a.locator = true ∧
      Readable dir a.locator ∧
        openBelow store.files here (names (parts a.locator.toList)) = .ok bytes := by
  rw [resolver_ok_iff]
  refine and_congr_right fun inside => ?_
  rcases confined_parts inside with ⟨relative, up, named⟩
  simp only [RunStore.record, mapError_ok_iff, open_ok_iff opened tree relative up named]
  constructor
  · rintro ⟨fits, file, below⟩
    exact ⟨⟨file, fits⟩, below⟩
  · rintro ⟨readable, below⟩
    exact ⟨readable.fits, readable.file, below⟩

def Alike (one other : Except ArtifactError (List UInt8)) : Prop := one.toOption = other.toOption

theorem alike_iff {one other : Except ArtifactError (List UInt8)} :
    Alike one other ↔ ∀ bytes, one = .ok bytes ↔ other = .ok bytes := by
  cases one <;> cases other <;> simp [Alike, Except.toOption, eq_comm]

theorem resolve_alike_iff (opened : openRecordDir store dir = .ok here)
    (tree : RecordTree store.files here) {total : Nat}
    (within : WithinLimits store.files here total) (a : ArtifactRef) :
    Alike (resolve total a (unchanging store here a)).1 (recordDirResolver (store.record dir) a) ↔
      (confined a.locator = true → ∀ bytes mode,
        store.files (here ++ names (parts a.locator.toList)) = some (.file bytes mode) →
          Readable dir a.locator) := by
  simp only [alike_iff, resolve_ok_iff tree within, bounded_ok_iff tree within,
    recordDir_ok_iff opened tree]
  constructor
  · intro alike inside bytes mode found
    have below := (tree.openBelow_iff (confined_parts inside).2.2).mpr ⟨mode, found⟩
    exact ((alike bytes).mp ⟨inside, below⟩).2.1
  · intro readable bytes
    constructor
    · rintro ⟨inside, below⟩
      rcases (tree.openBelow_iff (confined_parts inside).2.2).mp below with ⟨mode, found⟩
      exact ⟨inside, readable inside bytes mode found, below⟩
    · rintro ⟨inside, _, below⟩
      exact ⟨inside, below⟩

theorem agreeable_iff (opened : openRecordDir store dir = .ok here)
    (tree : RecordTree store.files here) {total : Nat}
    (within : WithinLimits store.files here total) (a : ArtifactRef) :
    (Alike (resolve total a (unchanging store here a)).1 (recordDirResolver (store.record dir) a) ∧
      (confined a.locator = true → PlainName a.locator)) ↔ Agreeable store dir here a.locator := by
  rw [Agreeable, ← confined_plain_iff_padded, resolve_alike_iff opened tree within, and_comm]
  refine and_congr_right fun accepted => ?_
  constructor
  · rintro readable ⟨plain, bytes, mode, found, long⟩
    refine long (readable plain.confined bytes mode ?_).fits
    rw [plain.names_eq]
    exact found
  · intro short inside bytes mode found
    have plain := accepted inside
    rw [plain.names_eq] at found
    exact ⟨plain.file, by_contra fun long => short ⟨plain, bytes, mode, found, long⟩⟩

theorem plain_agreeable {locator : String} (plain : PlainName locator)
    (fits : Fits (join dir locator.toList)) : Agreeable store dir here locator := by
  refine ⟨confined_plain_iff_padded.mp fun _ => plain, ?_⟩
  rintro ⟨_, _, _, _, long⟩
  exact long fits

theorem serves_of_agreeable (opened : openRecordDir store dir = .ok here)
    (tree : RecordTree store.files here) (within : WithinLimits store.files here 0)
    {events : List RunEvent}
    (agreeable : ∀ r, Asked events r → Agreeable store dir here r.locator) :
    Serves events (boundedRecordDirResolver store here) (recordDirResolver (store.record dir)) ∧
      Serves events (recordDirResolver (store.record dir)) (boundedRecordDirResolver store here) := by
  have alike : ∀ r bytes, Asked events r → (boundedRecordDirResolver store here r = .ok bytes ↔
      recordDirResolver (store.record dir) r = .ok bytes) := by
    intro r bytes asked
    rw [← resolve_ok_iff tree within]
    exact alike_iff.mp ((agreeable_iff opened tree within r).mpr (agreeable r asked)).1 bytes
  exact ⟨fun r bytes asked => (alike r bytes asked).mp,
    fun r bytes asked => (alike r bytes asked).mpr⟩

end Agreement

namespace SlashSample

def files : Files Char := fun location =>
  if location = [] ∨ location = [['r']] then some .dir
  else if location = [['r'], ['g', 'a', 't', 'e']] then some (.file [111, 107] 0o644)
  else none

def store : RunStore where
  files := files
  cwd := []
  runsDir := "/"
  readers := ⟨fun _ => .ok [], fun _ => .error "", fun _ => .error ""⟩

def dir : List Char := ['/', 'r']

def here : Location Char := [['r']]

def zeros : String := String.ofList (List.replicate 64 '0')

theorem zeros_canonical : Run.isCanonicalHex zeros = true := by decide

def locating (locator : String) : ArtifactRef := ⟨.gateLog, locator, ⟨zeros, zeros_canonical⟩⟩

theorem opened : openRecordDir store dir = .ok here := by decide

theorem files_iff {below : List (List Char)} {node : Node Char} :
    files (here ++ below) = some node ↔ below = [] ∧ node = .dir ∨
      below = [['g', 'a', 't', 'e']] ∧ node = .file [111, 107] 0o644 := by
  simp only [files, here, List.singleton_append, List.cons_ne_nil, false_or, List.cons.injEq,
    true_and]
  by_cases root : below = []
  · simp [root, eq_comm]
  · by_cases named : below = [['g', 'a', 't', 'e']]
    · simp [named, eq_comm]
    · simp [root, named]

theorem tree : RecordTree store.files here := by
  refine ⟨rfl, ?_, ?_⟩
  · intro below node found
    rcases files_iff.mp found with ⟨_, directory⟩ | ⟨_, file⟩
    · exact .inl directory
    · exact .inr ⟨_, _, file⟩
  · intro below name present
    rcases Option.ne_none_iff_exists'.mp present with ⟨node, found⟩
    rcases files_iff.mp found with ⟨none, _⟩ | ⟨one, _⟩
    · cases below <;> cases none
    · have top : below = [] := (List.append_eq_singleton_iff.mp one).elim (·.1) fun last => by
        cases last.2
      exact files_iff.mpr (.inl ⟨top, rfl⟩)

theorem within : WithinLimits store.files here 0 := by
  intro below bytes mode found
  rcases files_iff.mp found with ⟨_, directory⟩ | ⟨_, file⟩
  · cases directory
  · cases file
    decide

end SlashSample

end O7Formal.Dispatch
