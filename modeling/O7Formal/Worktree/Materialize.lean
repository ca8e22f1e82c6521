import O7Formal.Lib.FileTree
import O7Formal.Lib.Stepwise
import O7Formal.Worktree.Identity
import O7Formal.Worktree.TreeListing

/-! A committed tree as the files of a worktree: the whole plan is checked, and the entries are
written one after another, through a kernel whose calls may fail. -/

namespace O7Formal.Worktree.Materialize

open Fallible FileTree Program

structure MaterializeLimits where
  maxEntries : Nat
  maxPathLen : Nat
  maxBlobBytes : Nat
  maxTotalBytes : Nat
  maxFiles : Nat
  maxSymlinks : Nat

inductive UnsafeReason where
  | nonNormal (component : Component UInt8)
  | emptyAfterNormalization
  | notDirectory (found : Node UInt8)
  deriving DecidableEq

inductive IoError where
  | notFound
  | other (why : String)
  deriving DecidableEq, Repr

inductive GitError where
  | run (why : String)
  | parse (command : String) (detail : LsTreeError)
  deriving DecidableEq, Repr

inductive MaterializeError where
  | git (e : GitError)
  | unsafePath (path : Path) (reason : UnsafeReason)
  | reservedGitPath (path : Path)
  | pathTooLong (path : Path) (len max : Nat)
  | unsupportedMode (path : Path) (mode : Nat)
  | tooManyEntries (count max : Nat)
  | blobTooLarge (path : Path) (size max : Nat)
  | totalTooLarge (max : Nat)
  | tooMany (kind : String) (count max : Nat)
  | blobSizeDrift (oid : String) (path : Path) (expected actual : Nat)
  | io (path : Path) (source : IoError)
  | emptySymlink (oid : String) (path : Path) (actual : Nat)
  deriving DecidableEq

def pushComponent (path : Path) (out : List Path) :
    Component UInt8 → Except MaterializeError (List Path)
  | .normal part => .ok (out ++ [part])
  | .curDir => .ok out
  | other => .error (.unsafePath path (.nonNormal other))

def safeRelative (path : Path) : Except MaterializeError (List Path) := do
  let out ← (components path).foldlM (pushComponent path) []
  refuseIf (out = []) (.unsafePath path .emptyAfterNormalization)
  return out

def toAsciiLowercase (b : UInt8) : UInt8 := if 0x41 ≤ b ∧ b ≤ 0x5a then b + 0x20 else b

def isReservedGit (name : Path) : Bool :=
  let trimmed := (name.reverse.dropWhile fun b => b == 0x2e || b == 0x20).reverse.map
    toAsciiLowercase
  -- `.git` and `git~1`
  trimmed = [0x2e, 0x67, 0x69, 0x74] || trimmed = [0x67, 0x69, 0x74, 0x7e, 0x31]

def firstComponentIsReservedGit (rel : List Path) : Bool := rel.head?.any isReservedGit

structure Budget where
  files : Nat
  symlinks : Nat
  total : Nat
  deriving DecidableEq, Repr

def charge (limits : MaterializeLimits) (b : Budget) (isSymlink : Bool) (size : Nat) :
    Except MaterializeError Budget := do
  let total := b.total + size
  refuseIf (¬ (total < 2 ^ 64 ∧ total ≤ limits.maxTotalBytes))
    (.totalTooLarge limits.maxTotalBytes)
  if isSymlink = true then
    let symlinks := b.symlinks + 1
    refuseIf (limits.maxSymlinks < symlinks) (.tooMany "symlinks" symlinks limits.maxSymlinks)
    return { b with symlinks, total }
  else
    let files := b.files + 1
    refuseIf (limits.maxFiles < files) (.tooMany "files" files limits.maxFiles)
    return { b with files, total }

def preflightEntry (limits : MaterializeLimits) (b : Budget) (e : TreeEntry) :
    Except MaterializeError Budget := do
  let rel ← safeRelative e.path
  refuseIf (firstComponentIsReservedGit rel = true) (.reservedGitPath e.path)
  refuseIf (limits.maxPathLen < e.path.length)
    (.pathTooLong e.path e.path.length limits.maxPathLen)
  if e.isGitlink = true then return b
  else
    refuseIf (e.isRegularFile = false ∧ e.isSymlink = false) (.unsupportedMode e.path e.mode)
    let size ← okOr e.size (.unsupportedMode e.path e.mode)
    refuseIf (limits.maxBlobBytes < size) (.blobTooLarge e.path size limits.maxBlobBytes)
    charge limits b e.isSymlink size

def preflight (limits : MaterializeLimits) (entries : List TreeEntry) :
    Except MaterializeError Unit := do
  refuseIf (limits.maxEntries < entries.length)
    (.tooManyEntries entries.length limits.maxEntries)
  let _ ← entries.foldlM (preflightEntry limits) ⟨0, 0, 0⟩
  return ()

/-! What the preflight admits. -/

def relative (path : Path) : List Path := names (parts path)

structure PlainPath (path : Path) : Prop where
  rooted : isAbsolute path = false
  inside : up ∉ parts path
  named : relative path ≠ []

structure Admissible (limits : MaterializeLimits) (e : TreeEntry) : Prop where
  path : PlainPath e.path
  free : firstComponentIsReservedGit (relative e.path) = false
  length : e.path.length ≤ limits.maxPathLen
  blob : e.isGitlink = false → (e.isRegularFile = true ∨ e.isSymlink = true) ∧
    ∃ size ∈ e.size, size ≤ limits.maxBlobBytes

namespace Budget

def spend (b : Budget) (isSymlink : Bool) (size : Nat) : Budget :=
  if isSymlink = true then { b with symlinks := b.symlinks + 1, total := b.total + size }
  else { b with files := b.files + 1, total := b.total + size }

def add (b : Budget) (e : TreeEntry) : Budget :=
  if e.isGitlink = true then b else b.spend e.isSymlink (e.size.getD 0)

def of (entries : List TreeEntry) : Budget := entries.foldl add ⟨0, 0, 0⟩

structure Within (limits : MaterializeLimits) (b : Budget) : Prop where
  files : b.files ≤ limits.maxFiles
  symlinks : b.symlinks ≤ limits.maxSymlinks
  total : b.total ≤ limits.maxTotalBytes
  word : b.total < 2 ^ 64

theorem of_snoc (entries : List TreeEntry) (e : TreeEntry) :
    of (entries ++ [e]) = (of entries).add e := by
  rw [of, List.foldl_append]
  rfl

theorem Within.of_add {limits : MaterializeLimits} {b : Budget} {e : TreeEntry}
    (within : (b.add e).Within limits) : b.Within limits := by
  rcases within with ⟨files, symlinks, total, word⟩
  unfold add spend at files symlinks total word
  constructor <;> grind

end Budget

def name? : Component UInt8 → Option Path
  | .normal part => some part
  | _ => none

theorem pushComponent_ok_iff {path : Path} {out out' : List Path} {c : Component UInt8} :
    pushComponent path out c = .ok out' ↔
      (c ≠ .rootDir ∧ c ≠ .parentDir) ∧ out ++ (name? c).toList = out' := by
  cases c <;> simp [pushComponent, name?]

theorem up_mem_relative {path : Path} : up ∈ relative path ↔ up ∈ parts path := by
  rw [relative, names, List.mem_filter]
  exact and_iff_left (by decide)

theorem filterMap_name {path : Path} (inside : up ∉ parts path) :
    (components path).filterMap name? = relative path := by
  rw [components, List.filterMap_append, List.filterMap_map]
  have lead : (if isAbsolute path = true then [Component.rootDir]
      else if (parts path).head? = some [PathChar.dot] then [.curDir] else []).filterMap name? =
        [] := by
    split_ifs <;> rfl
  rw [lead, List.nil_append]
  refine (List.filterMap_congr fun part member => ?_).trans List.filterMap_some
  rw [Function.comp_apply, Component.ofPart, if_neg ?_]
  · rfl
  · rintro rfl
    exact inside (up_mem_relative.mp member)

theorem plain_components {path : Path} :
    (∀ c ∈ components path, c ≠ .rootDir ∧ c ≠ .parentDir) ↔
      isAbsolute path = false ∧ up ∉ parts path := by
  rw [components, List.forall_mem_append, List.forall_mem_map]
  refine and_congr ?_ ?_
  · by_cases rooted : isAbsolute path = true
    · simp [rooted]
    · by_cases current : (parts path).head? = some [PathChar.dot]
      · simp [rooted, current]
      · simp [rooted, current]
  · rw [← up_mem_relative]
    constructor
    · intro each member
      exact (each up member).2 (if_pos rfl)
    · intro inside part member
      have moves : part ≠ up := by
        rintro rfl
        exact inside member
      rw [Component.ofPart, if_neg moves]
      constructor
      · intro same
        cases same
      · intro same
        cases same

theorem safeRelative_ok_iff {path : Path} {rel : List Path} :
    safeRelative path = .ok rel ↔ PlainPath path ∧ relative path = rel := by
  have fold := foldlM_collect_ok (fun s x t => @pushComponent_ok_iff path s t x)
    (components path) []
  simp only [safeRelative, bind_ok_iff, refuseIf_ok_iff, pure_ok_iff, fold, List.nil_append,
    plain_components]
  constructor
  · rintro ⟨_, ⟨⟨rooted, inside⟩, rfl⟩, _, named, rfl⟩
    rw [filterMap_name inside] at named ⊢
    exact ⟨⟨rooted, inside, named⟩, rfl⟩
  · rintro ⟨⟨rooted, inside, named⟩, rfl⟩
    exact ⟨_, ⟨⟨rooted, inside⟩, filterMap_name inside⟩, (), named, rfl⟩

theorem charge_ok_iff {limits : MaterializeLimits} {b b' : Budget} {isSymlink : Bool} {size : Nat}
    (within : b.Within limits) : charge limits b isSymlink size = .ok b' ↔
      (b.spend isSymlink size).Within limits ∧ b.spend isSymlink size = b' := by
  cases isSymlink with
  | false =>
      simp only [charge, Budget.spend, Bool.false_eq_true, if_false, bind_ok_iff, refuseIf_ok_iff,
        pure_ok_iff, not_not, Nat.not_lt, exists_const]
      constructor
      · rintro ⟨⟨word, total⟩, files, rfl⟩
        exact ⟨⟨files, within.symlinks, total, word⟩, rfl⟩
      · rintro ⟨next, rfl⟩
        exact ⟨⟨next.word, next.total⟩, next.files, rfl⟩
  | true =>
      simp only [charge, Budget.spend, if_true, bind_ok_iff, refuseIf_ok_iff, pure_ok_iff, not_not,
        Nat.not_lt, exists_const]
      constructor
      · rintro ⟨⟨word, total⟩, symlinks, rfl⟩
        exact ⟨⟨within.files, symlinks, total, word⟩, rfl⟩
      · rintro ⟨next, rfl⟩
        exact ⟨⟨next.word, next.total⟩, next.symlinks, rfl⟩

theorem preflightEntry_ok_iff {limits : MaterializeLimits} {b b' : Budget} {e : TreeEntry}
    (within : b.Within limits) : preflightEntry limits b e = .ok b' ↔
      Admissible limits e ∧ (b.add e).Within limits ∧ b.add e = b' := by
  by_cases gitlink : e.isGitlink = true
  · simp only [preflightEntry, Budget.add, if_pos gitlink, bind_ok_iff, refuseIf_ok_iff,
      safeRelative_ok_iff, pure_ok_iff, Bool.not_eq_true, Nat.not_lt]
    constructor
    · rintro ⟨_, ⟨plain, rfl⟩, _, free, _, short, rfl⟩
      exact ⟨⟨plain, free, short, fun other => absurd gitlink (by simp [other])⟩, within, rfl⟩
    · rintro ⟨admissible, _, rfl⟩
      exact ⟨_, ⟨admissible.path, rfl⟩, (), admissible.free, (), admissible.length, rfl⟩
  · simp only [preflightEntry, Budget.add, if_neg gitlink, bind_ok_iff, refuseIf_ok_iff,
      safeRelative_ok_iff, okOr_ok_iff, charge_ok_iff within, Bool.not_eq_true, Nat.not_lt,
      not_and_or, Bool.not_eq_false]
    constructor
    · rintro ⟨_, ⟨plain, rfl⟩, _, free, _, short, _, kind, size, sized, _, small, spent⟩
      rw [sized]
      exact ⟨⟨plain, free, short, fun _ => ⟨kind, size, sized, small⟩⟩, spent⟩
    · rintro ⟨admissible, spent⟩
      rcases admissible.blob (Bool.eq_false_iff.mpr gitlink) with ⟨kind, size, sized, small⟩
      rw [sized] at spent
      exact ⟨_, ⟨admissible.path, rfl⟩, (), admissible.free, (), admissible.length, (), kind, size,
        sized, (), small, spent⟩

theorem preflight_fold {limits : MaterializeLimits} {entries : List TreeEntry} {b : Budget} :
    entries.foldlM (preflightEntry limits) ⟨0, 0, 0⟩ = .ok b ↔
      (∀ e ∈ entries, Admissible limits e) ∧ b.Within limits ∧ Budget.of entries = b := by
  induction entries using List.reverseRecOn generalizing b with
  | nil =>
      have empty : Budget.Within limits ⟨0, 0, 0⟩ :=
        ⟨Nat.zero_le _, Nat.zero_le _, Nat.zero_le _, by norm_num⟩
      rw [List.foldlM_nil, pure_ok_iff]
      constructor
      · rintro rfl
        exact ⟨List.forall_mem_nil _, empty, rfl⟩
      · exact fun facts => facts.2.2
  | append_singleton entries e ih =>
      rw [foldlM_snoc_ok, Budget.of_snoc, List.forall_mem_append, List.forall_mem_singleton]
      constructor
      · rintro ⟨t, before, stepped⟩
        rcases ih.mp before with ⟨each, within, rfl⟩
        rcases (preflightEntry_ok_iff within).mp stepped with ⟨admissible, next, rfl⟩
        exact ⟨⟨each, admissible⟩, next, rfl⟩
      · rintro ⟨⟨each, admissible⟩, within, rfl⟩
        have before := within.of_add
        exact ⟨_, ih.mpr ⟨each, before, rfl⟩,
          (preflightEntry_ok_iff before).mpr ⟨admissible, within, rfl⟩⟩

theorem preflight_facts {limits : MaterializeLimits} {entries : List TreeEntry} :
    preflight limits entries = .ok () ↔
      entries.length ≤ limits.maxEntries ∧ (∀ e ∈ entries, Admissible limits e) ∧
        (Budget.of entries).Within limits := by
  simp only [preflight, bind_ok_iff, refuseIf_ok_iff, pure_ok_iff, preflight_fold, Nat.not_lt,
    exists_const, and_true]
  constructor
  · rintro ⟨count, b, each, within, rfl⟩
    exact ⟨count, each, within⟩
  · rintro ⟨count, each, within⟩
    exact ⟨count, _, each, within, rfl⟩

/-- What git answers from: listings and blobs do not change under their names. -/
structure Objects where
  listing : CommittedRevision → List UInt8
  blob : String → Option (List UInt8)

inductive Call where
  | lsTree (revision : CommittedRevision)
  | catBlob (oid : String)
  | symlinkMetadata (path : List Path)
  | createDir (path : List Path)
  | symlink (target : Path) (path : List Path)
  | createNew (path : List Path) (mode : Nat)
  | writeAll (file : Location UInt8) (bytes : List UInt8)

abbrev Call.Answer : Call → Type
  | .lsTree _ => Except String (List UInt8)
  | .catBlob _ => Except String (List UInt8)
  | .symlinkMetadata _ => Except IoError (Node UInt8)
  | .createDir _ | .symlink _ _ | .writeAll _ _ => Except IoError Unit
  | .createNew _ _ => Except IoError (Location UInt8)

def ask (c : Call) : Program Call Call.Answer c.Answer := perform c

abbrev Code := ExceptT MaterializeError (Program Call Call.Answer)

def pathBuf (path : List Path) : Path := path.flatMap fun name => 0x2f :: name

def asked {α : Type} (path : List Path) (x : Program Call Call.Answer (Except IoError α)) :
    Code α :=
  attempt x (.io (pathBuf path))

def expectDirectory (path : List Path) : Except IoError (Node UInt8) → Code Unit
  | .ok .dir => pure ()
  | .ok found => throw (.unsafePath (pathBuf path) (.notDirectory found))
  | .error .notFound => asked path (ask (.createDir path))
  | .error source => throw (.io (pathBuf path) source)

def createDirsChecked : List Path → List Path → Code Unit
  | _, [] => pure ()
  | current, part :: rest => do
      let path := current ++ [part]
      let found ← liftM (ask (.symlinkMetadata path))
      expectDirectory path found
      createDirsChecked path rest

def saturating (total : UInt64) (size : Nat) : UInt64 :=
  UInt64.ofNat (min (total.toNat + size) (2 ^ 64 - 1))

def fileMode (e : TreeEntry) : Nat := if e.isExecutable = true then 0o755 else 0o644

def writeSymlink (target : List Path) (e : TreeEntry) (bytes : List UInt8) : Code Unit := do
  require (bytes ≠ []) (.emptySymlink e.oid e.path 0)
  asked target (ask (.symlink bytes target))

def writeFile (target : List Path) (e : TreeEntry) (bytes : List UInt8) : Code Unit := do
  let file ← asked target (ask (.createNew target (fileMode e)))
  asked target (ask (.writeAll file bytes))

def materializeEntry (dest : List Path) (summary : MaterializeSummary) (e : TreeEntry) :
    Code MaterializeSummary := do
  let rel ← settle (safeRelative e.path)
  let target := dest ++ rel
  createDirsChecked dest rel.dropLast
  if e.isGitlink = true then
    return { summary with skippedGitlinks := summary.skippedGitlinks + 1 }
  else
    let bytes ← attempt (ask (.catBlob e.oid)) fun why => .git (.run why)
    require (∀ expected ∈ e.size, bytes.length = expected)
      (.blobSizeDrift e.oid e.path (e.size.getD 0) bytes.length)
    if e.isSymlink = true then
      writeSymlink target e bytes
      return { summary with symlinks := summary.symlinks + 1 }
    else
      writeFile target e bytes
      return { summary with
        files := summary.files + 1
        totalBytes := saturating summary.totalBytes bytes.length }

def write (dest : List Path) (entries : List TreeEntry) : Code MaterializeSummary :=
  entries.foldlM (materializeEntry dest) ⟨0, 0, 0, 0⟩

def prepare (limits : MaterializeLimits) (revision : CommittedRevision) :
    Code (List TreeEntry) := do
  let raw ← attempt (ask (.lsTree revision)) fun why => .git (.run why)
  let entries ← settle ((parseLsTree raw).mapError fun why => .git (.parse "ls-tree" why))
  settle (preflight limits entries)
  return entries

def materializeWithLimits (limits : MaterializeLimits) (revision : CommittedRevision)
    (dest : List Path) : Code MaterializeSummary := do
  let plan ← prepare limits revision
  write dest plan

/-! What a call comes to. -/

/-- The entry that a path names: its directory is looked up, and the last name is not followed. -/
def Names (files : Files UInt8) (path : List Path) (here : Location UInt8) : Prop :=
  ∃ above name parent, path = above ++ [name] ∧ walk files true maxLinks [] above = .ok parent ∧
    files parent = some .dir ∧ here = parent ++ [name]

def masked (umask mode : Nat) : Nat := mode &&& (0o777 ^^^ umask)

def set (files : Files UInt8) (here : Location UInt8) (node : Node UInt8) : Files UInt8 :=
  Function.update files here (some node)

def extend (files : Files UInt8) (here : Location UInt8) (bytes : List UInt8) : Files UInt8 :=
  match files here with
  | some (.file old mode) => set files here (.file (old ++ bytes) mode)
  | _ => files

def Makes {α : Type} (files : Files UInt8) (path : List Path) (node : Node UInt8)
    (r : Except IoError α) (files' : Files UInt8) (fits : α → Location UInt8 → Prop) : Prop :=
  (∃ a here, r = .ok a ∧ Names files path here ∧ files here = none ∧ fits a here ∧
    files' = set files here node) ∨ (∃ e, r = .error e) ∧ files' = files

def Does (objects : Objects) (umask : Nat) (files : Files UInt8) :
    (c : Call) → c.Answer → Files UInt8 → Prop
  | .lsTree revision, r, files' =>
      files' = files ∧ ∀ raw, r = .ok raw → raw = objects.listing revision
  | .catBlob oid, r, files' =>
      files' = files ∧ ∀ bytes, r = .ok bytes → objects.blob oid = some bytes
  | .symlinkMetadata path, r, files' =>
      files' = files ∧ ∀ node, r = .ok node → ∃ here, Names files path here ∧ files here = some node
  | .createDir path, r, files' => Makes files path .dir r files' fun _ _ => True
  | .symlink target path, r, files' => Makes files path (.link target) r files' fun _ _ => True
  | .createNew path mode, r, files' =>
      Makes files path (.file [] (masked umask mode)) r files' fun file here => file = here
  | .writeAll file bytes, r, files' =>
      ∃ written, written <+: bytes ∧ (r = .ok () → written = bytes) ∧
        files' = extend files file written

abbrev kernel (objects : Objects) (umask : Nat) : Program.Takes Call Call.Answer (Files UInt8) :=
  Does objects umask

structure OpensAt (files : Files UInt8) (dest : List Path) (base : Location UInt8) : Prop where
  walked : walk files false maxLinks [] dest = .ok base
  directory : files base = some .dir

/-- The places of an entry: the directories on the way, and its own unless it is a gitlink. -/
structure Covers (e : TreeEntry) (below : List Path) : Prop where
  present : below ≠ []
  lead : below <+: relative e.path
  own : below = relative e.path → e.isGitlink = false

section Layout

variable (objects : Objects) (umask : Nat)

/-- What an entry has at its places; until it is whole, a file may lack bytes at its end. -/
inductive Part (e : TreeEntry) (whole : Prop) : List Path → Node UInt8 → Prop where
  | dir {below : List Path} (present : below ≠ []) (lead : below <+: relative e.path)
      (above : below ≠ relative e.path) : Part e whole below .dir
  | link {target : Path} (kind : e.isSymlink = true) (found : objects.blob e.oid = some target) :
      Part e whole (relative e.path) (.link target)
  | file {bytes written : List UInt8} (plain : e.isGitlink = false) (kind : e.isSymlink = false)
      (found : objects.blob e.oid = some bytes) (lead : written <+: bytes)
      (complete : whole → written = bytes) :
      Part e whole (relative e.path) (.file written (masked umask (fileMode e)))

variable (base : Location UInt8) (before : Files UInt8)

/-- Some entries are whole, and nothing has changed but free places of entries that were begun. -/
structure Written (whole begun : List TreeEntry) (files : Files UInt8) : Prop where
  laid : ∀ e ∈ whole, ∀ below, Covers e below →
    ∃ node, files (base ++ below) = some node ∧ Part objects umask e True below node
  apart : ((whole.filter fun e => !e.isGitlink).map fun e => relative e.path).Nodup
  only : ∀ loc, files loc ≠ before loc → before loc = none ∧ ∃ e ∈ begun, ∃ below node,
    loc = base ++ below ∧ files loc = some node ∧ Part objects umask e False below node

end Layout

theorem PlainPath.moves {path : Path} (plain : PlainPath path) :
    ∀ name ∈ relative path, ¬ Stays name ∧ name ≠ up := by
  intro name member
  refine ⟨by simpa using (List.mem_filter.mp member).2, ?_⟩
  rintro rfl
  exact plain.inside (up_mem_relative.mp member)

theorem set_here {files : Files UInt8} {here : Location UInt8} {node : Node UInt8} :
    set files here node here = some node := Function.update_self ..

theorem set_other {files : Files UInt8} {here loc : Location UInt8} {node : Node UInt8}
    (free : files here = none) (taken : files loc ≠ none) :
    set files here node loc = files loc := by
  refine Function.update_of_ne ?_ _ _
  rintro rfl
  exact taken free

theorem dirsAlong_set {files : Files UInt8} {base here : Location UInt8} {names : List Path}
    {node : Node UInt8} (free : files here = none) (dirs : DirsAlong files base names) :
    DirsAlong (set files here node) base names := by
  intro above lead
  have directory := dirs above lead
  rw [set_other free (by rw [directory]; exact Option.some_ne_none _), directory]

theorem dirsAlong_snoc {files : Files UInt8} {base : Location UInt8} {names : List Path}
    {name : Path} (dirs : DirsAlong files base names)
    (last : files (base ++ (names ++ [name])) = some .dir) :
    DirsAlong files base (names ++ [name]) := by
  intro above lead
  rcases List.prefix_concat_iff.mp lead with rfl | inner
  · exact last
  · exact dirs above inner

theorem prefix_dropLast {below names : List Path} (lead : below <+: names) (above : below ≠ names) :
    below <+: names.dropLast := by
  rcases List.eq_nil_or_concat names with rfl | ⟨init, last, rfl⟩
  · exact absurd (List.prefix_nil.mp lead) above
  · rw [List.concat_eq_append] at lead above ⊢
    rw [List.dropLast_concat]
    exact (List.prefix_concat_iff.mp lead).resolve_left above

theorem OpensAt.named {files : Files UInt8} {dest : List Path} {base here : Location UInt8}
    {names : List Path} {name : Path} (opens : OpensAt files dest base)
    (dirs : DirsAlong files base names) (moves : ∀ name ∈ names, ¬ Stays name ∧ name ≠ up)
    (named : Names files (dest ++ (names ++ [name])) here) : here = base ++ (names ++ [name]) := by
  rcases named with ⟨above, last, parent, split, walked, _, rfl⟩
  rw [← List.append_assoc] at split
  rcases List.append_inj' split rfl with ⟨rfl, same⟩
  rw [walk_dirs opens.walked dirs moves] at walked
  cases Except.ok.inj walked
  cases same
  rw [List.append_assoc]

section Written

variable {objects : Objects} {umask : Nat} {base : Location UInt8} {before files : Files UInt8}
  {whole begun : List TreeEntry} {e : TreeEntry} {below : List Path} {node : Node UInt8}

theorem Part.started {P : Prop} (part : Part objects umask e P below node) :
    Part objects umask e False below node := by
  cases part with
  | dir present lead above => exact .dir present lead above
  | link kind found => exact .link kind found
  | file plain kind found lead _ => exact .file plain kind found lead False.elim

theorem Written.start : Written objects umask base before [] [] before :=
  ⟨nofun, List.nodup_nil, fun _ changed => absurd rfl changed⟩

theorem Written.begin (written : Written objects umask base before whole begun files)
    (e : TreeEntry) : Written objects umask base before whole (begun ++ [e]) files := by
  refine ⟨written.laid, written.apart, fun loc changed => ?_⟩
  rcases written.only loc changed with ⟨free, e', member, rest⟩
  exact ⟨free, e', List.mem_append_left _ member, rest⟩

theorem Written.kept (written : Written objects umask base before whole begun files)
    {loc : Location UInt8} (taken : before loc ≠ none) : files loc = before loc := by
  by_contra changed
  exact taken (written.only loc changed).1

theorem Written.opens (written : Written objects umask base before whole begun files)
    {dest : List Path} (opens : OpensAt before dest base) : OpensAt files dest base :=
  ⟨walk_grows (fun _ => written.kept) opens.walked, by
    rw [written.kept (by rw [opens.directory]; exact Option.some_ne_none _), opens.directory]⟩

theorem Written.make (written : Written objects umask base before whole begun files)
    (member : e ∈ begun) (free : files (base ++ below) = none)
    (part : Part objects umask e False below node) :
    Written objects umask base before whole begun (set files (base ++ below) node) := by
  refine ⟨fun e' present q covers => ?_, written.apart, fun loc changed => ?_⟩
  · rcases written.laid e' present q covers with ⟨held, found, laid⟩
    refine ⟨held, ?_, laid⟩
    rw [set_other free (by rw [found]; exact Option.some_ne_none _), found]
  · by_cases same : loc = base ++ below
    · rw [same, set_here] at changed ⊢
      refine ⟨?_, e, member, below, node, rfl, rfl, part⟩
      by_contra taken
      exact taken ((written.kept taken).symm.trans free)
    · rw [set, Function.update_of_ne same] at changed ⊢
      exact written.only loc changed

theorem Written.finish (written : Written objects umask base before whole (whole ++ [e]) files)
    (dirs : DirsAlong files base (relative e.path).dropLast)
    (own : e.isGitlink = false → ∃ node, files (base ++ relative e.path) = some node ∧
      Part objects umask e True (relative e.path) node)
    (fresh : e.isGitlink = false → ∀ e' ∈ whole, e'.isGitlink = false →
      relative e'.path ≠ relative e.path) :
    Written objects umask base before (whole ++ [e]) (whole ++ [e]) files := by
  refine ⟨fun e' present q covers => ?_, ?_, written.only⟩
  · rcases List.mem_append.mp present with earlier | last
    · exact written.laid e' earlier q covers
    · cases List.mem_singleton.mp last
      by_cases whole : q = relative e.path
      · rw [whole]
        exact own (covers.own whole)
      · exact ⟨.dir, dirs q (prefix_dropLast covers.lead whole),
          .dir covers.present covers.lead whole⟩
  · rw [List.filter_append, List.map_append]
    by_cases gitlink : e.isGitlink = true
    · simpa [gitlink] using written.apart
    · have plain : e.isGitlink = false := Bool.eq_false_iff.mpr gitlink
      have single : ([e].filter fun e => !e.isGitlink) = [e] := by simp [plain]
      rw [single, List.map_singleton, List.nodup_append]
      refine ⟨written.apart, List.nodup_singleton _, ?_⟩
      intro p earlier q last same
      rcases List.mem_map.mp earlier with ⟨e', filtered, rfl⟩
      rcases List.mem_filter.mp filtered with ⟨member, plain'⟩
      rw [List.mem_singleton.mp last] at same
      exact fresh plain e' member (by simpa using plain') same

end Written

section Runs

variable {objects : Objects} {umask : Nat} {base : Location UInt8} {before files : Files UInt8}
  {whole begun : List TreeEntry} {e : TreeEntry} {dest names rest : List Path} {name : Path}

theorem Part.above (lead : names ++ name :: rest <+: (relative e.path).dropLast) :
    Part objects umask e False (names ++ [name]) .dir := by
  have inner : names ++ [name] <+: (relative e.path).dropLast := by
    rw [List.append_cons] at lead
    exact (List.prefix_append _ _).trans lead
  refine .dir (List.append_ne_nil_of_right_ne_nil _ (List.cons_ne_nil _ _))
    (inner.trans (List.dropLast_prefix _)) fun same => ?_
  have short := inner.length_le
  rw [same, List.length_dropLast] at short
  have some := congrArg List.length same
  rw [List.length_append, List.length_singleton] at some
  omega

theorem expectDirectory_holds (opens : OpensAt before dest base) (plain : PlainPath e.path)
    (member : e ∈ begun) (lead : names ++ name :: rest <+: (relative e.path).dropLast)
    (written : Written objects umask base before whole begun files)
    (dirs : DirsAlong files base names) {found : Except IoError (Node UInt8)}
    (truth : ∀ node, found = .ok node →
      ∃ here, Names files (dest ++ (names ++ [name])) here ∧ files here = some node) :
    (expectDirectory (dest ++ (names ++ [name])) found).run.Holds (kernel objects umask)
      (Written objects umask base before whole begun) files fun r t => r = .ok () →
        Written objects umask base before whole begun t ∧ DirsAlong t base (names ++ [name]) := by
  have moves : ∀ name ∈ names, ¬ Stays name ∧ name ≠ up := by
    intro part among
    refine plain.moves part ((List.dropLast_prefix _).subset (lead.subset ?_))
    exact List.mem_append_left _ among
  have named : ∀ here, Names files (dest ++ (names ++ [name])) here →
      here = base ++ (names ++ [name]) := fun _ => (written.opens opens).named dirs moves
  match found with
  | .ok .dir =>
      rcases truth .dir rfl with ⟨here, names, directory⟩
      rw [named here names] at directory
      exact holds_pure fun _ => ⟨written, dirsAlong_snoc dirs directory⟩
  | .ok (.file _ _) => exact holds_pure nofun
  | .ok (.link _) => exact holds_pure nofun
  | .ok .other => exact holds_pure nofun
  | .error .notFound =>
      apply holds_attempt
      apply holds_perform
      rintro r t (⟨_, here, rfl, names, free, _, rfl⟩ | ⟨⟨why, rfl⟩, rfl⟩)
      · cases named here names
        have made := written.make member free (Part.above lead)
        refine ⟨made, fun _ _ _ => ⟨made, ?_⟩, nofun⟩
        exact dirsAlong_snoc (dirsAlong_set free dirs) set_here
      · exact ⟨written, nofun, fun _ _ => nofun⟩
  | .error (.other _) => exact holds_pure nofun

theorem createDirsChecked_holds (opens : OpensAt before dest base) (plain : PlainPath e.path)
    (member : e ∈ begun) (lead : names ++ rest <+: (relative e.path).dropLast)
    (written : Written objects umask base before whole begun files)
    (dirs : DirsAlong files base names) :
    (createDirsChecked (dest ++ names) rest).run.Holds (kernel objects umask)
      (Written objects umask base before whole begun) files fun r t => r = .ok () →
        Written objects umask base before whole begun t ∧ DirsAlong t base (names ++ rest) := by
  induction rest generalizing names files with
  | nil =>
      rw [List.append_nil]
      exact holds_pure fun _ => ⟨written, dirs⟩
  | cons name rest ih =>
      rw [createDirsChecked, List.append_assoc]
      apply holds_lift_bind
      apply holds_perform
      rintro found t ⟨rfl, truth⟩
      refine ⟨written, ?_⟩
      apply holds_try
      have here := expectDirectory_holds opens plain member lead written dirs truth
      apply holds_mono here fun _ held => held
      intro r t next
      constructor
      · rintro ⟨⟩ passed
        rcases next passed with ⟨written, dirs⟩
        rw [List.append_cons] at lead
        rw [List.append_cons names name rest]
        exact ih lead written dirs
      · rintro why rfl
        exact nofun

theorem OpensAt.own {here : Location UInt8} (opens : OpensAt files dest base)
    (plain : PlainPath e.path) (dirs : DirsAlong files base (relative e.path).dropLast)
    (named : Names files (dest ++ relative e.path) here) : here = base ++ relative e.path := by
  have moves := fun name member => plain.moves name ((List.dropLast_prefix _).subset member)
  rw [← List.dropLast_append_getLast plain.named] at named ⊢
  exact opens.named dirs moves named

theorem Written.complete {node : Node UInt8}
    (written : Written objects umask base before whole (whole ++ [e]) files)
    (dirs : DirsAlong files base (relative e.path).dropLast) (present : relative e.path ≠ [])
    (free : files (base ++ relative e.path) = none)
    (part : Part objects umask e True (relative e.path) node) :
    Written objects umask base before (whole ++ [e]) (whole ++ [e])
      (set files (base ++ relative e.path) node) := by
  have made := written.make List.mem_concat_self free part.started
  refine made.finish (dirsAlong_set free dirs) (fun _ => ⟨node, set_here, part⟩) ?_
  intro _ e' member other same
  rcases written.laid e' member _ ⟨same ▸ present, List.prefix_rfl, fun _ => other⟩ with
    ⟨held, found, _⟩
  rw [same, free] at found
  cases found

def counted (summary : MaterializeSummary) (e : TreeEntry) : MaterializeSummary :=
  if e.isGitlink = true then
    { summary with skippedGitlinks := summary.skippedGitlinks + 1 }
  else if e.isSymlink = true then { summary with symlinks := summary.symlinks + 1 }
  else { summary with
    files := summary.files + 1
    totalBytes := saturating summary.totalBytes (e.size.getD 0) }

theorem extend_set {here : Location UInt8} {written : List UInt8} {mode : Nat} :
    extend (set files here (.file [] mode)) here written = set files here (.file written mode) := by
  rw [extend, set_here]
  exact Function.update_idem ..

section Leaf

variable {bytes : List UInt8}
  (written : Written objects umask base before whole (whole ++ [e]) files)
  (dirs : DirsAlong files base (relative e.path).dropLast) (plain : PlainPath e.path)
  (opens : OpensAt before dest base) (found : objects.blob e.oid = some bytes)

include written dirs plain opens found

theorem writeSymlink_holds (kind : e.isSymlink = true) :
    (writeSymlink (dest ++ relative e.path) e bytes).run.Holds (kernel objects umask)
      (Written objects umask base before whole (whole ++ [e])) files fun r t => r = .ok () →
        Written objects umask base before (whole ++ [e]) (whole ++ [e]) t := by
  have part : Part objects umask e True (relative e.path) (.link bytes) := .link kind found
  apply holds_require_bind
  case unmet => exact fun _ => nofun
  intro _
  apply holds_attempt
  apply holds_perform
  rintro r t (⟨_, _, rfl, names, free, _, rfl⟩ | ⟨⟨why, rfl⟩, rfl⟩)
  · cases (written.opens opens).own plain dirs names
    refine ⟨written.make List.mem_concat_self free part.started, fun _ _ _ => ?_, nofun⟩
    exact written.complete dirs plain.named free part
  · exact ⟨written, nofun, fun _ _ => nofun⟩

theorem writeFile_holds (other : e.isGitlink = false) (kind : e.isSymlink = false) :
    (writeFile (dest ++ relative e.path) e bytes).run.Holds (kernel objects umask)
      (Written objects umask base before whole (whole ++ [e])) files fun r t => r = .ok () →
        Written objects umask base before (whole ++ [e]) (whole ++ [e]) t := by
  have part : ∀ {P : Prop} {some : List UInt8}, some <+: bytes → (P → some = bytes) →
      Part objects umask e P (relative e.path) (.file some (masked umask (fileMode e))) :=
    .file other kind found
  apply holds_attempt_bind
  apply holds_perform
  rintro r t (⟨file, _, rfl, names, free, rfl, rfl⟩ | ⟨⟨why, rfl⟩, rfl⟩)
  · cases (written.opens opens).own plain dirs names
    refine ⟨written.make List.mem_concat_self free (part List.nil_prefix False.elim), ?_, nofun⟩
    rintro _ ⟨⟩
    apply holds_attempt
    apply holds_perform
    rintro r t ⟨some, lead, complete, rfl⟩
    rw [extend_set]
    refine ⟨written.make List.mem_concat_self free (part lead False.elim), ?_, fun _ _ => nofun⟩
    rintro _ rfl _
    exact written.complete dirs plain.named free (part lead fun _ => complete rfl)
  · exact ⟨written, nofun, fun _ _ => nofun⟩

end Leaf

theorem materializeEntry_holds {limits : MaterializeLimits} {summary : MaterializeSummary}
    (opens : OpensAt before dest base) (admissible : Admissible limits e)
    (written : Written objects umask base before whole whole files) :
    (materializeEntry dest summary e).run.Holds (kernel objects umask)
      (Written objects umask base before whole (whole ++ [e])) files fun r t =>
        ∀ summary', r = .ok summary' →
          Written objects umask base before (whole ++ [e]) (whole ++ [e]) t ∧
            counted summary e = summary' := by
  have plain := admissible.path
  rw [materializeEntry]
  apply holds_settle_bind
  case failed => exact fun _ _ => nofun
  intro rel passed
  obtain ⟨_, rfl⟩ := safeRelative_ok_iff.mp passed
  have directory : DirsAlong files base [] := by
    intro above lead
    rw [List.prefix_nil.mp lead, List.append_nil]
    exact (written.opens opens).directory
  have lead : [] ++ (relative e.path).dropLast <+: (relative e.path).dropLast := List.prefix_rfl
  have made := createDirsChecked_holds opens plain List.mem_concat_self lead (written.begin e)
    directory
  rw [List.append_nil] at made
  apply holds_try
  apply holds_mono made fun _ held => held
  intro r files after
  refine ⟨fun _ same => ?_, fun _ _ => nofun⟩
  obtain ⟨written, dirs⟩ := after same
  rw [List.nil_append] at dirs
  by_cases gitlink : e.isGitlink = true
  · rw [if_pos gitlink]
    apply holds_pure
    rintro _ ⟨⟩
    have never : ¬ e.isGitlink = false := by rwa [Bool.not_eq_false]
    exact ⟨written.finish dirs (fun other => absurd other never) fun other => absurd other never,
      if_pos gitlink⟩
  rw [if_neg gitlink]
  have other : e.isGitlink = false := Bool.eq_false_iff.mpr gitlink
  apply holds_attempt_bind
  apply holds_perform
  rintro r _ ⟨rfl, known⟩
  refine ⟨written, fun bytes same => ?_, fun _ _ => nofun⟩
  have found := known bytes same
  apply holds_require_bind
  case unmet => exact fun _ => nofun
  intro sized
  by_cases symlink : e.isSymlink = true
  · rw [if_pos symlink]
    apply holds_try
    apply holds_mono (writeSymlink_holds written dirs plain opens found symlink)
      fun _ held => held
    intro r t linked
    refine ⟨fun _ same => ?_, fun _ _ => nofun⟩
    apply holds_pure
    rintro _ ⟨⟩
    exact ⟨linked same, (if_neg gitlink).trans (if_pos symlink)⟩
  · rw [if_neg symlink]
    apply holds_try
    apply holds_mono (writeFile_holds written dirs plain opens found other
      (Bool.eq_false_iff.mpr symlink)) fun _ held => held
    intro r t filed
    refine ⟨fun _ same => ?_, fun _ _ => nofun⟩
    apply holds_pure
    rintro _ ⟨⟩
    refine ⟨filed same, ?_⟩
    rcases admissible.blob other with ⟨_, size, recorded, _⟩
    rw [counted, if_neg gitlink, if_neg symlink, sized size recorded, recorded]
    rfl

end Runs

def fileBytes (entries : List TreeEntry) : Nat :=
  ((entries.filter fun e => e.isRegularFile).map fun e => e.size.getD 0).sum

def summaryOf (entries : List TreeEntry) : MaterializeSummary where
  files := entries.countP fun e => e.isRegularFile
  symlinks := entries.countP fun e => e.isSymlink
  totalBytes := UInt64.ofNat (fileBytes entries)
  skippedGitlinks := entries.countP fun e => e.isGitlink

theorem TreeEntry.kinds (e : TreeEntry) :
    (e.isGitlink = true → e.isSymlink = false ∧ e.isRegularFile = false) ∧
      (e.isSymlink = true → e.isRegularFile = false) := by
  simp only [isGitlink, isSymlink, isRegularFile, Bool.or_eq_false_iff, decide_eq_true_eq,
    decide_eq_false_iff_not]
  omega

theorem fileBytes_snoc (entries : List TreeEntry) (e : TreeEntry) : fileBytes (entries ++ [e]) =
    fileBytes entries + if e.isRegularFile = true then e.size.getD 0 else 0 := by
  by_cases regular : e.isRegularFile = true
  · simp [fileBytes, List.filter_append, regular]
  · simp [fileBytes, List.filter_append, regular]

theorem fileBytes_le (entries : List TreeEntry) :
    fileBytes entries ≤ (Budget.of entries).total := by
  induction entries using List.reverseRecOn with
  | nil => exact Nat.le_refl 0
  | append_singleton entries e ih =>
      rw [fileBytes_snoc, Budget.of_snoc, Budget.add]
      by_cases regular : e.isRegularFile = true
      · have plain : ¬ e.isGitlink = true := fun gitlink => by
          simp [(e.kinds.1 gitlink).2] at regular
        rw [if_pos regular, if_neg plain, Budget.spend]
        split <;> exact Nat.add_le_add_right ih _
      · rw [if_neg regular, Nat.add_zero, Budget.spend]
        split_ifs <;> first | exact ih | exact Nat.le_add_right_of_le ih

theorem counted_summaryOf {limits : MaterializeLimits} {entries : List TreeEntry} {e : TreeEntry}
    (admissible : Admissible limits e) (within : (Budget.of (entries ++ [e])).Within limits) :
    counted (summaryOf entries) e = summaryOf (entries ++ [e]) := by
  have bytes := fileBytes_snoc entries e
  simp only [counted, summaryOf, List.countP_append, List.countP_singleton]
  by_cases gitlink : e.isGitlink = true
  · simp only [bytes, gitlink, (e.kinds.1 gitlink).1, (e.kinds.1 gitlink).2, if_true,
      Bool.false_eq_true, if_false, Nat.add_zero]
  by_cases symlink : e.isSymlink = true
  · simp only [bytes, gitlink, symlink, e.kinds.2 symlink, if_true, Bool.false_eq_true, if_false,
      Nat.add_zero]
  have regular := ((admissible.blob (Bool.eq_false_iff.mpr gitlink)).1).resolve_right symlink
  have small := (fileBytes_le (entries ++ [e])).trans_lt within.word
  rw [bytes, if_pos regular] at small
  have total : saturating (UInt64.ofNat (fileBytes entries)) (e.size.getD 0) =
      UInt64.ofNat (fileBytes entries + e.size.getD 0) := by
    have before : fileBytes entries < UInt64.size := (Nat.le_add_right _ _).trans_lt small
    rw [saturating, UInt64.toNat_ofNat_of_lt' before, Nat.min_eq_left (by omega)]
  simp only [bytes, gitlink, symlink, regular, if_true, Bool.false_eq_true, if_false, Nat.add_zero,
    total]

/-- What the run leaves at any time: some entries whole, the next one in part, no other place
changed. -/
def InProgress (objects : Objects) (umask : Nat) (base : Location UInt8) (before : Files UInt8)
    (entries : List TreeEntry) (files : Files UInt8) : Prop :=
  ∃ whole rest, entries = whole ++ rest ∧
    Written objects umask base before whole (whole ++ rest.head?.toList) files

section Runs

variable {objects : Objects} {umask : Nat} {base : Location UInt8} {before files : Files UInt8}
  {limits : MaterializeLimits} {entries whole rest : List TreeEntry} {dest : List Path}

theorem preflight_prefix (admitted : preflight limits entries = .ok ())
    (split : entries = whole ++ rest) :
    (∀ e ∈ whole, Admissible limits e) ∧ (Budget.of whole).Within limits := by
  rcases preflight_facts.mp admitted with ⟨_, each, within⟩
  have all := preflight_fold.mpr ⟨each, within, rfl⟩
  rw [split] at all
  rcases foldlM_append_ok.mp all with ⟨b, first, _⟩
  rcases preflight_fold.mp first with ⟨each, within, rfl⟩
  exact ⟨each, within⟩

theorem write_holds (opens : OpensAt before dest base)
    (admitted : preflight limits entries = .ok ()) (split : entries = whole ++ rest)
    (written : Written objects umask base before whole whole files) :
    (rest.foldlM (materializeEntry dest) (summaryOf whole)).run.Holds (kernel objects umask)
      (InProgress objects umask base before entries) files fun r t =>
        ∀ summary, r = .ok summary →
          Written objects umask base before entries entries t ∧ summaryOf entries = summary := by
  induction rest generalizing whole files with
  | nil =>
      rw [List.append_nil] at split
      subst split
      apply holds_pure
      rintro _ ⟨⟩
      exact ⟨written, rfl⟩
  | cons e rest ih =>
      have next := split.trans (List.append_cons whole e rest)
      have facts := preflight_prefix admitted next
      have admissible := facts.1 e List.mem_concat_self
      rw [List.foldlM_cons]
      apply holds_try
      apply holds_mono (materializeEntry_holds opens admissible written)
        fun _ held => ⟨whole, e :: rest, split, held⟩
      intro r t after
      refine ⟨fun summary same => ?_, fun _ _ => nofun⟩
      rcases after summary same with ⟨written, rfl⟩
      rw [counted_summaryOf admissible facts.2]
      exact ih next written

structure Planned (objects : Objects) (limits : MaterializeLimits) (revision : CommittedRevision)
    (entries : List TreeEntry) : Prop where
  listed : parseLsTree (objects.listing revision) = .ok entries
  admitted : preflight limits entries = .ok ()

theorem prepare_holds {revision : CommittedRevision} :
    (prepare limits revision).run.Holds (kernel objects umask) (fun t => t = before) before
      fun r t => ∀ entries, r = .ok entries →
        t = before ∧ Planned objects limits revision entries := by
  rw [prepare]
  apply holds_attempt_bind
  apply holds_perform
  rintro r _ ⟨rfl, known⟩
  refine ⟨rfl, fun raw same => ?_, fun _ _ => nofun⟩
  cases known raw same
  apply holds_settle_bind
  case failed => exact fun _ _ => nofun
  intro entries parsed
  apply holds_settle_bind
  case failed => exact fun _ _ => nofun
  intro _ admitted
  apply holds_pure
  rintro _ ⟨⟩
  exact ⟨rfl, mapError_ok_iff.mp parsed, admitted⟩

theorem materialize_holds {revision : CommittedRevision} (opens : OpensAt before dest base) :
    (materializeWithLimits limits revision dest).run.Holds (kernel objects umask)
      (fun t => t = before ∨ ∃ entries, Planned objects limits revision entries ∧
        InProgress objects umask base before entries t)
      before fun r t => ∀ summary, r = .ok summary → ∃ entries,
        Planned objects limits revision entries ∧
          Written objects umask base before entries entries t ∧ summaryOf entries = summary := by
  have start : Written objects umask base before [] [] before := Written.start
  rw [materializeWithLimits]
  apply holds_try
  apply holds_mono prepare_holds fun _ same => .inl same
  intro r t prepared
  refine ⟨fun entries same => ?_, fun _ _ => nofun⟩
  rcases prepared entries same with ⟨rfl, planned⟩
  have run := write_holds opens planned.admitted (List.nil_append entries).symm start
  exact holds_mono run (fun _ held => .inr ⟨entries, planned, held⟩)
    fun _ _ done summary same => ⟨entries, planned, done summary same⟩

end Runs

section Confined

variable {objects : Objects} {umask : Nat} {base : Location UInt8} {before : Files UInt8}
  {limits : MaterializeLimits} {revision : CommittedRevision} {entries : List TreeEntry}

theorem countP_budget (each : ∀ e ∈ entries, Admissible limits e) :
    (entries.countP fun e => e.isRegularFile) = (Budget.of entries).files ∧
      (entries.countP fun e => e.isSymlink) = (Budget.of entries).symlinks := by
  induction entries using List.reverseRecOn with
  | nil => exact ⟨rfl, rfl⟩
  | append_singleton entries e ih =>
      rw [List.forall_mem_append, List.forall_mem_singleton] at each
      rcases ih each.1 with ⟨files, symlinks⟩
      rw [List.countP_append, List.countP_append, List.countP_singleton, List.countP_singleton,
        files, symlinks, Budget.of_snoc, Budget.add, Budget.spend]
      by_cases gitlink : e.isGitlink = true
      · simp [gitlink, e.kinds.1 gitlink]
      by_cases symlink : e.isSymlink = true
      · simp [gitlink, symlink, e.kinds.2 symlink]
      have regular := ((each.2.blob (Bool.eq_false_iff.mpr gitlink)).1).resolve_right symlink
      simp [gitlink, symlink, regular]

def blobBytes (entries : List TreeEntry) : Nat :=
  ((entries.filter fun e => !e.isGitlink).map fun e => e.size.getD 0).sum

theorem total_budget (entries : List TreeEntry) :
    (Budget.of entries).total = blobBytes entries := by
  induction entries using List.reverseRecOn with
  | nil => rfl
  | append_singleton entries e ih =>
      rw [Budget.of_snoc, Budget.add, Budget.spend, blobBytes, List.filter_append, List.map_append,
        List.sum_append, ← blobBytes, ← ih]
      by_cases gitlink : e.isGitlink = true
      · simp [gitlink]
      · split_ifs <;> simp [gitlink]

/-- The preflight admits exactly the lists whose entries each pass and that stay within the limits
together, in whatever order they come. -/
theorem preflight_ok_iff (limits : MaterializeLimits) (entries : List TreeEntry) :
    preflight limits entries = .ok () ↔
      entries.length ≤ limits.maxEntries ∧ (∀ e ∈ entries, Admissible limits e) ∧
        (entries.countP fun e => e.isRegularFile) ≤ limits.maxFiles ∧
          (entries.countP fun e => e.isSymlink) ≤ limits.maxSymlinks ∧
            blobBytes entries ≤ limits.maxTotalBytes ∧ blobBytes entries < 2 ^ 64 := by
  rw [preflight_facts, ← total_budget]
  refine and_congr_right fun _ => and_congr_right fun each => ?_
  rcases countP_budget each with ⟨files, symlinks⟩
  rw [files, symlinks]
  constructor
  · rintro ⟨files, symlinks, total, word⟩
    exact ⟨files, symlinks, total, word⟩
  · rintro ⟨files, symlinks, total, word⟩
    exact ⟨files, symlinks, total, word⟩

theorem Planned.within (planned : Planned objects limits revision entries) :
    (summaryOf entries).files ≤ limits.maxFiles ∧
      (summaryOf entries).symlinks ≤ limits.maxSymlinks ∧
        (summaryOf entries).totalBytes.toNat ≤ limits.maxTotalBytes := by
  rcases preflight_facts.mp planned.admitted with ⟨_, each, within⟩
  rcases countP_budget each with ⟨files, symlinks⟩
  refine ⟨files.trans_le within.files, symlinks.trans_le within.symlinks, ?_⟩
  have word : fileBytes entries < UInt64.size := (fileBytes_le entries).trans_lt within.word
  exact (UInt64.toNat_ofNat_of_lt' word).trans_le ((fileBytes_le entries).trans within.total)

theorem Part.free {e : TreeEntry} {P : Prop} {below : List Path} {node : Node UInt8}
    (part : Part objects umask e P below node) (admissible : Admissible limits e) :
    ∃ name deeper, below = name :: deeper ∧ isReservedGit name = false := by
  have lead : below ≠ [] ∧ below <+: relative e.path := by
    cases part with
    | dir present lead _ => exact ⟨present, lead⟩
    | link _ _ => exact ⟨admissible.path.named, List.prefix_rfl⟩
    | file _ _ _ _ _ => exact ⟨admissible.path.named, List.prefix_rfl⟩
  rcases List.exists_cons_of_ne_nil lead.1 with ⟨name, deeper, rfl⟩
  rcases lead.2 with ⟨rest, split⟩
  have free := admissible.free
  rw [← split] at free
  exact ⟨name, deeper, rfl, free⟩

/-- A run of the materialization, wherever it is cut short, has only taken free places below the
destination, none of them in a git directory; nothing is done unless the whole plan was admitted;
and a run that returns has laid out every entry, and the summary is theirs. -/
theorem materialize_run {dest : List Path} (opens : OpensAt before dest base)
    {y : Program Call Call.Answer (Except MaterializeError MaterializeSummary)}
    {files : Files UInt8} (reaches : Program.Reaches (kernel objects umask)
      (materializeWithLimits limits revision dest).run before y files) :
    (∀ loc, files loc ≠ before loc → before loc = none ∧
      ∃ name below, loc = base ++ name :: below ∧ isReservedGit name = false) ∧
    (files = before ∨ ∃ entries, Planned objects limits revision entries ∧
      InProgress objects umask base before entries files) ∧
    ∀ summary, y = pure (.ok summary) → ∃ entries, Planned objects limits revision entries ∧
      Written objects umask base before entries entries files ∧ summary = summaryOf entries ∧
        summary.files ≤ limits.maxFiles ∧ summary.symlinks ≤ limits.maxSymlinks ∧
          summary.totalBytes.toNat ≤ limits.maxTotalBytes := by
  have run := reaches.holds (.inl rfl) (materialize_holds opens)
  refine ⟨fun loc changed => ?_, run.1, fun summary same => ?_⟩
  · rcases run.1 with rfl | ⟨entries, planned, whole, rest, split, written⟩
    · exact absurd rfl changed
    rcases written.only loc changed with ⟨free, e, begun, below, node, rfl, _, part⟩
    have member : e ∈ entries := by
      rw [split]
      rcases List.mem_append.mp begun with early | next
      · exact List.mem_append_left _ early
      · exact List.mem_append_right _ (List.mem_of_mem_head? (Option.mem_toList.mp next))
    rcases part.free ((preflight_facts.mp planned.admitted).2.1 e member) with
      ⟨name, deeper, rfl, plain⟩
    exact ⟨free, name, deeper, rfl, plain⟩
  · rcases run.2 _ same summary rfl with ⟨entries, planned, written, rfl⟩
    exact ⟨entries, planned, written, rfl, planned.within⟩

end Confined

namespace Sample

def program : TreeEntry := ⟨0o100755, "ce01", some 1, [0x64, 0x2f, 0x61]⟩

def link : TreeEntry := ⟨0o120000, "ce02", some 1, [0x6c]⟩

def gitlink : TreeEntry := ⟨0o160000, "ce03", none, [0x67]⟩

def entries : List TreeEntry := [program, link, gitlink]

def limits : MaterializeLimits := ⟨8, 8, 8, 8, 8, 8⟩

def objects : Objects :=
  ⟨fun _ => lsTree entries, fun oid => some (if oid = "ce01" then [0x78] else [0x64])⟩

/-- The root and an empty directory `w`. -/
def before : Files UInt8 := fun loc => if loc = [] ∨ loc = [[0x77]] then some .dir else none

def made : Files UInt8 := set before [[0x77], [0x64]] .dir

def created : Files UInt8 := set made [[0x77], [0x64], [0x61]] (.file [] (masked 0o22 0o755))

def filled : Files UInt8 := extend created [[0x77], [0x64], [0x61]] [0x78]

def linked : Files UInt8 := set filled [[0x77], [0x6c]] (.link [0x64])

theorem opens : OpensAt before [[0x77]] [[0x77]] := ⟨by decide, by decide⟩

theorem parsed : parseLsTree (lsTree entries) = .ok entries := by
  refine parseLsTree_lsTree (List.forall_mem_cons.mpr ⟨⟨by decide, ?_, ?_, ?_, by decide⟩,
    List.forall_mem_cons.mpr ⟨⟨by decide, ?_, ?_, ?_, by decide⟩,
      List.forall_mem_singleton.mpr ⟨by decide, ?_, ?_, ?_, by decide⟩⟩⟩)
  · exact ⟨by decide, Utf8.forall_mem_of_all (by decide)⟩
  · exact Utf8.forall_mem_of_all (by decide)
  · decide
  · exact ⟨by decide, Utf8.forall_mem_of_all (by decide)⟩
  · exact Utf8.forall_mem_of_all (by decide)
  · decide
  · exact ⟨by decide, Utf8.forall_mem_of_all (by decide)⟩
  · exact Utf8.forall_mem_of_all (by decide)
  · decide

def head : String := "bbbbbbbbbbbbbbbbbbbbbbbbbbbbbbbbbbbbbbbb"

theorem head_isObjectId : isObjectId head = true := by decide

def revision : CommittedRevision := ⟨head, head_isObjectId⟩

theorem held (files : Files UInt8) (e : TreeEntry) (bytes : List UInt8)
    (found : objects.blob e.oid = some bytes) :
    kernel objects 0o22 files (.catBlob e.oid) (.ok bytes) files :=
  ⟨rfl, by rintro _ ⟨⟩; exact found⟩

theorem program_written : Program.Reaches (kernel objects 0o22)
    (materializeEntry [[0x77]] ⟨0, 0, 0, 0⟩ program).run before (pure (.ok ⟨1, 0, 1, 0⟩))
    filled := by
  have missing : kernel objects 0o22 before (.symlinkMetadata [[0x77], [0x64]])
      (.error .notFound) before := ⟨rfl, by rintro _ ⟨⟩⟩
  have below : kernel objects 0o22 before (.createDir [[0x77], [0x64]]) (.ok ()) made :=
    .inl ⟨(), [[0x77], [0x64]], rfl, ⟨[[0x77]], [0x64], [[0x77]], rfl, by decide, by decide, rfl⟩,
      by decide, trivial, rfl⟩
  have opened : kernel objects 0o22 made (.createNew [[0x77], [0x64], [0x61]] 0o755)
      (.ok [[0x77], [0x64], [0x61]]) created :=
    .inl ⟨_, _, rfl, ⟨[[0x77], [0x64]], [0x61], [[0x77], [0x64]], rfl, by decide, by decide, rfl⟩,
      by decide, rfl, rfl⟩
  have taken : kernel objects 0o22 created (.writeAll [[0x77], [0x64], [0x61]] [0x78]) (.ok ())
      filled := ⟨[0x78], List.prefix_rfl, fun _ => rfl, rfl⟩
  exact .called missing (.called below (.called (held made program [0x78] (by decide))
    (.called opened (.called taken .here))))

theorem link_written : Program.Reaches (kernel objects 0o22)
    (materializeEntry [[0x77]] ⟨1, 0, 1, 0⟩ link).run filled (pure (.ok ⟨1, 1, 1, 0⟩)) linked := by
  have pointed : kernel objects 0o22 filled (.symlink [0x64] [[0x77], [0x6c]]) (.ok ()) linked :=
    .inl ⟨(), [[0x77], [0x6c]], rfl, ⟨[[0x77]], [0x6c], [[0x77]], rfl, by decide, by decide, rfl⟩,
      by decide, trivial, rfl⟩
  exact .called (held filled link [0x64] (by decide)) (.called pointed .here)

theorem reaches : Program.Reaches (kernel objects 0o22)
    (materializeWithLimits limits revision [[0x77]]).run before (pure (.ok ⟨1, 1, 1, 1⟩))
    linked := by
  have listed : kernel objects 0o22 before (.lsTree revision) (.ok (lsTree entries)) before :=
    ⟨rfl, by rintro _ ⟨⟩; rfl⟩
  have skipped : Program.Reaches (kernel objects 0o22)
      (materializeEntry [[0x77]] ⟨1, 1, 1, 0⟩ gitlink).run linked (pure (.ok ⟨1, 1, 1, 1⟩))
      linked := .here
  have written : Program.Reaches (kernel objects 0o22) (write [[0x77]] entries).run before
      (pure (.ok ⟨1, 1, 1, 1⟩)) linked :=
    Program.reaches_try program_written (Program.reaches_try link_written
      (Program.reaches_try skipped .here))
  have planned : ExceptT.run (do
      let entries ← (settle ((parseLsTree (lsTree entries)).mapError fun why =>
        .git (.parse "ls-tree" why)) : Code (List TreeEntry))
      settle (preflight limits entries)
      return entries) = pure (.ok entries) := by
    rw [parsed]
    rfl
  have prepared : Program.Reaches (kernel objects 0o22) (prepare limits revision).run before
      (pure (.ok entries)) before := by
    refine .called listed ?_
    change Program.Reaches _ (ExceptT.run (_ >>= _)) _ _ _
    exact planned ▸ .here
  exact Program.reaches_try prepared written

end Sample

open Sample in
theorem materialize_run_entries :
    linked [[0x77], [0x64]] = some .dir ∧
    linked [[0x77], [0x64], [0x61]] = some (.file [0x78] 0o755) ∧
    linked [[0x77], [0x6c]] = some (.link [0x64]) ∧ linked [[0x77], [0x67]] = none ∧
      Written objects 0o22 [[0x77]] before entries entries linked := by
  rcases (materialize_run opens reaches).2.2 _ rfl with ⟨planned, listed, written, _⟩
  cases parsed.symm.trans listed.listed
  exact ⟨by decide, by decide, by decide, by decide, written⟩

end O7Formal.Worktree.Materialize
