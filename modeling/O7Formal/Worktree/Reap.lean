import O7Formal.Worktree.World

/-! The removal of a worktree directory: it is opened, proven, moved aside, proven again, cleared and
removed, and then its inode is proven to be gone. -/

namespace O7Formal.Worktree

open DirTree (Fd Listed Stat)
open Program (attempt ensuring require)

def errnoText : Errno → String
  | .noEntry => "No such file or directory (os error 2)"
  | .exist => "File exists (os error 17)"
  | .notEmpty => "Directory not empty (os error 39)"
  | .notDirectory => "Not a directory (os error 20)"
  | .loop => "Too many levels of symbolic links (os error 40)"
  | .tooManyFiles => "Too many open files (os error 24)"
  | .other code => "os error " ++ toString code

inductive ReapError where
  | unproven (path reason : String)
  | vanished (path : String)
  | io (path : String) (source : Errno)
  deriving DecidableEq, Repr

def openDirAt (fd : Fd) (name : String) : Code (Except Errno Fd) :=
  ask (.fs (.openDirAt fd name))
def fstat (fd : Fd) : Code (Except Errno (Stat FsIdentity)) := ask (.fs (.fstat fd))
def renameNoReplace (fd : Fd) (name new : String) : Code (Except Errno Unit) :=
  ask (.fs (.renameNoReplace fd name new))
def readDir (fd : Fd) : Code (Except Errno (List Listed)) := ask (.fs (.readDir fd))
def isDirAt (fd : Fd) (name : String) : Code (Except Errno Bool) :=
  ask (.fs (.isDirAt fd name))
def unlinkAt (fd : Fd) (name : String) : Code (Except Errno Unit) :=
  ask (.fs (.unlinkAt fd name))
def rmdirAt (fd : Fd) (name : String) : Code (Except Errno Unit) :=
  ask (.fs (.rmdirAt fd name))

def holding {ε α : Type} (fd : Fd) (work : ExceptT ε Code α) : ExceptT ε Code α :=
  ensuring work (ask (.fs (.close fd)))

def ownerOnly : UInt32 := 0o700

/-- `{:#o}` -/
def octal (bits : UInt32) : String := "0o" ++ String.ofList (Nat.toDigits 8 bits.toNat)

structure Names where
  files : List String
  subdirs : List String

def classify (fd : Fd) (path : String) : List Listed → ExceptT ReapError Code Names
  | [] => pure ⟨[], []⟩
  | entry :: rest =>
      if entry.name = "." ∨ entry.name = ".." then classify fd path rest
      else do
        let isDir ← match entry.kind with
          | .directory => pure true
          | .other => pure false
          | .unknown => attempt (isDirAt fd entry.name) (.io path)
        let names ← classify fd path rest
        pure (if isDir then ⟨names.files, entry.name :: names.subdirs⟩
          else ⟨entry.name :: names.files, names.subdirs⟩)

def clearFiles (fd : Fd) (path : String) : List String → ExceptT ReapError Code Unit
  | [] => pure ()
  | name :: rest => do
      attempt (unlinkAt fd name) (.io path)
      clearFiles fd path rest

def clearSubdirs (clear : Fd → ExceptT ReapError Code Unit) (fd : Fd) (path : String) :
    List String → ExceptT ReapError Code Unit
  | [] => pure ()
  | name :: rest => do
      let sub ← attempt (openDirAt fd name) (.io path)
      holding sub (clear sub)
      attempt (rmdirAt fd name) (.io path)
      clearSubdirs clear fd path rest

/-- Each level keeps a descriptor open, and the process has only so many of them left. -/
def clearDir (descriptors : Nat) (fd : Fd) (path : String) : ExceptT ReapError Code Unit := do
  let listed ← attempt (readDir fd) (.io path)
  let names ← classify fd path listed
  clearFiles fd path names.files
  match descriptors with
  | 0 => require (names.subdirs = []) (.io path .tooManyFiles)
  | left + 1 => clearSubdirs (fun sub => clearDir left sub path) fd path names.subdirs

def identityChanged (expected got : FsIdentity) : String :=
  "filesystem identity changed: recorded (dev " ++ toString expected.dev ++ ", ino " ++
    toString expected.ino ++ "), found (dev " ++ toString got.dev ++ ", ino " ++
    toString got.ino ++ ")"

/-- The stat is of the recorded directory, ours and for its owner only. -/
def Proves (euid : UInt32) (expected : FsIdentity) (st : Stat FsIdentity) : Prop :=
  st.id = expected ∧ st.uid = euid ∧ st.mode &&& 0o777 = ownerOnly

instance (euid : UInt32) (expected : FsIdentity) (st : Stat FsIdentity) :
    Decidable (Proves euid expected st) := inferInstanceAs (Decidable (_ ∧ _ ∧ _))

def linksRemain (nlink : Nat) : String :=
  "the verified directory still has " ++ toString nlink ++ " link(s) after removal — the " ++
    "quarantine name was swapped and the real inode survives; refusing to report it deleted"

section Reap

variable (root : Root)

def verifyFd (fd : Fd) (expected : FsIdentity) (path : String) : ExceptT ReapError Code Unit := do
  let st ← attempt (fstat fd) fun e => .unproven path ("fstat failed: " ++ errnoText e)
  require (st.id = expected) (.unproven path (identityChanged expected st.id))
  require (st.uid = root.euid) (.unproven path ("owned by uid " ++ toString st.uid ++
    ", not our effective uid " ++ toString root.euid))
  require (st.mode &&& 0o777 = ownerOnly) (.unproven path ("permission bits " ++
    octal (st.mode &&& 0o777) ++ ", not owner-only " ++ octal ownerOnly))

/-- What a process brings to a call: its id, the counters behind the names it makes up, and how many
descriptors it can still open. -/
structure Process where
  id : Nat
  tmpCounter : Nat
  reapCounter : Nat
  descriptors : Nat

def quarantineName (process : Process) (id : FsIdentity) : String :=
  ".o7-reap." ++ toString process.id ++ "." ++ toString id.dev ++ "." ++ toString id.ino ++ "." ++
    toString process.reapCounter

def reapAside (parent : Fd) (aside : String) (q : Fd) (expected : FsIdentity) (path : String)
    (descriptors : Nat) : ExceptT ReapError Code Unit := do
  verifyFd root q expected path
  clearDir descriptors q path
  attempt (rmdirAt parent aside) (.io path)
  let st ← attempt (fstat q) fun e => .unproven path
    ("cannot re-stat the removed directory to prove it is gone: " ++ errnoText e)
  require (st.nlink = 0) (.unproven path (linksRemain st.nlink))

def removeVerifiedRelative (parent : Fd) (name aside path : String) (expected : FsIdentity)
    (descriptors : Nat) : ExceptT ReapError Code Unit := do
  let fd ← attempt (openDirAt parent name) fun e =>
    if e = .noEntry then .vanished path
    else .unproven path
      ("cannot open as a directory without following symlinks: " ++ errnoText e)
  holding fd (verifyFd root fd expected path)
  attempt (renameNoReplace parent name aside) fun e =>
    if e = .noEntry then .vanished path
    else .unproven path ("could not quarantine the directory before deletion: " ++ errnoText e)
  let q ← attempt (openDirAt parent aside) fun e =>
    .unproven path ("cannot re-open the quarantined directory: " ++ errnoText e)
  holding q (reapAside root parent aside q expected path descriptors)

end Reap

end O7Formal.Worktree
