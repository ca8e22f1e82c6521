import O7Formal.Lib.DirTree
import O7Formal.Lib.Stepwise
import O7Formal.Worktree.Identity

/-! The world of the store: the directories with the state root among them, the state file and the
temporary files beside it, and what each call does to them. -/

namespace O7Formal.Worktree

open DirTree (Fd Node)
open Program (perform)

abbrev Errno := DirTree.Errno
abbrev Tree := DirTree.Tree FsIdentity

inductive StateContent where
  | json (file : StateFile)
  | corrupt (detail : String)
  deriving DecidableEq

/-- Failures of git, of a path check and of a materialization, which are passed on. -/
inductive BuildError where
  | git (why : String)
  | materialize (why : String)
  deriving DecidableEq, Repr

/-- The bound state root and our effective uid. As the paths resolve, a repository may hold the root or
lie in it. -/
structure Root where
  path : String
  fd : Fd
  euid : UInt32
  overlaps : Bytes → Bool

structure HardenedGit where
  repo : Bytes
  repoId : CanonicalRepoId
  toplevel : Option Bytes
  deriving DecidableEq

inductive Call where
  | fs (c : DirTree.Call)
  | openLock
  | lockExclusive
  | readStateFile
  | serialize (state : StateFile)
  | createTemp (name : String)
  | writeTemp (name : String) (state : StateFile)
  | unlinkTemp (name : String)
  | renameTemp (name : String)
  | syncRoot
  | openPath (path : String)
  | canonicalRepoId
  | worktreeToplevel
  | insideRepo (repo : Bytes)
  | prepare (revision : CommittedRevision)
  | initWorktree (name : String) (revision : CommittedRevision)
  | writePlan (name : String)
  | nowUnix

abbrev Call.Answer : Call → Type
  | .fs c => c.Answer FsIdentity
  | .openLock | .lockExclusive | .createTemp _ | .writeTemp _ _ | .unlinkTemp _ | .renameTemp _ |
    .syncRoot => Except Errno Unit
  | .readStateFile => Except Errno (Option StateContent)
  | .serialize _ => Except String Unit
  | .openPath _ => Except Errno Fd
  | .canonicalRepoId => Except BuildError CanonicalRepoId
  | .worktreeToplevel => Option Bytes
  | .insideRepo _ => Bool
  | .prepare _ | .initWorktree _ _ => Except BuildError Unit
  | .writePlan _ => Except BuildError MaterializeSummary
  | .nowUnix => UInt64

abbrev Code := Program Call Call.Answer

def ask (c : Call) : Code c.Answer := perform c

structure Step where
  call : Call
  answer : call.Answer
  tree : Tree

structure World where
  tree : Tree
  state : Option StateContent
  temps : String → Option StateContent
  trace : List Step

inductive Below (t : Tree) (id : FsIdentity) : FsIdentity → Prop where
  | here : Below t id id
  | entry {parent child : FsIdentity} {node : Node FsIdentity} {name : String} :
      Below t id parent → t.nodes parent = some node → node.entries name = some (.dir child) →
      Below t id child

/-- A directory is filled: nothing outside it changes, and new directories get free inodes. -/
structure Builds (t : Tree) (id : FsIdentity) (t' : Tree) : Prop where
  fds : t'.fds = t.fds
  own : ∀ node, t.nodes id = some node →
    ∃ entries, t'.nodes id = some { node with entries := entries }
  outside : ∀ other node, ¬ Below t id other → t.nodes other = some node →
    t'.nodes other = some node ∨ t.Free other
  fresh : ∀ other, Below t' id other → Below t id other ∨ t.Free other

namespace World

variable (root : Root) (git : HardenedGit) (w : World)

def Names (name : String) (id : FsIdentity) : Prop :=
  ∃ rootId node, w.tree.At root.fd rootId node ∧ node.entries name = some (.dir id)

/-- A git or materialization step: it fills the directory, or part of it, and may fail. -/
def Fills {α : Type} (name : String) (r : Except BuildError α) (w' : World) : Prop :=
  ∃ id t, w.Names root name id ∧ Builds w.tree id t ∧ w' = { w with tree := t } ∧
    ((∃ a, r = .ok a) ∨ ∃ e, r = .error e)

def Does : (c : Call) → c.Answer → World → Prop
  | .fs c, r, w' => ∃ t, DirTree.Performs root.euid w.tree c r t ∧ w' = { w with tree := t }
  | .openLock, r, w' | .lockExclusive, r, w' | .syncRoot, r, w' =>
      w' = w ∧ (r = .ok () ∨ ∃ e : Errno, r = .error e ∧ e.Faulty)
  | .readStateFile, r, w' => w' = w ∧ (r = .ok w.state ∨ ∃ e : Errno, r = .error e ∧ e.Faulty)
  | .serialize _, r, w' => w' = w ∧ (r = .ok () ∨ ∃ why, r = .error why)
  | .createTemp name, r, w' =>
      r = .ok () ∧ w.temps name = none ∧
          w' = { w with temps := Function.update w.temps name (some (.corrupt "")) } ∨
        w' = w ∧ (r = .error .exist ∧ w.temps name ≠ none ∨ ∃ e : Errno, r = .error e ∧ e.Faulty)
  | .writeTemp name state, r, w' =>
      r = .ok () ∧ w' = { w with temps := Function.update w.temps name (some (.json state)) } ∨
        (∃ e : Errno, r = .error e ∧ e.Faulty) ∧ ∃ part,
          w' = { w with temps := Function.update w.temps name (some (.corrupt part)) }
  | .unlinkTemp name, r, w' =>
      r = .ok () ∧ w' = { w with temps := Function.update w.temps name none } ∨
        w' = w ∧ ∃ e : Errno, r = .error e ∧ e.Faulty
  | .renameTemp name, r, w' =>
      r = .ok () ∧ w' = { w with
          state := w.temps name
          temps := Function.update w.temps name none } ∨
        w' = w ∧ ∃ e : Errno, r = .error e ∧ e.Faulty
  | .openPath path, r, w' =>
      (∃ name id new, worktreePath root.path name = path ∧ w.Names root name id ∧
        w.tree.nodes id ≠ none ∧ w.tree.fds new = none ∧ r = .ok new ∧
        w' = { w with tree := w.tree.bind new (some id) }) ∨
      w' = w ∧ ((r = .error .noEntry ∧ ∀ name id, worktreePath root.path name = path →
        ¬ w.Names root name id) ∨ ∃ e : Errno, r = .error e ∧ e.Faulty)
  | .canonicalRepoId, r, w' => w' = w ∧ (r = .ok git.repoId ∨ ∃ e, r = .error e)
  | .worktreeToplevel, r, w' => w' = w ∧ (r = none ∨ r = git.toplevel)
  | .insideRepo _, _, w' | .nowUnix, _, w' => w' = w
  | .prepare _, r, w' => w' = w ∧ (r = .ok () ∨ ∃ e, r = .error e)
  | .initWorktree name _, r, w' => w.Fills root name r w'
  | .writePlan name, r, w' => w.Fills root name r w'

def note (c : Call) (r : c.Answer) (tree : Tree) : World :=
  { w with trace := w.trace ++ [⟨c, r, tree⟩] }

def Rivals (w' : World) : Prop :=
  DirTree.Interferes w.tree w'.tree ∧ w'.trace = w.trace

end World

section Taking

variable (root : Root) (git : HardenedGit)

def takes : Program.Takes Call Call.Answer World := fun w c r w' =>
  ∃ v, w.Does root git c r v ∧ w' = v.note c r w.tree

/-- The store among others, who act before each of its calls. -/
def rivalled : Program.Takes Call Call.Answer World := fun w c r w' =>
  ∃ m, w.Rivals m ∧ takes root git m c r w'

end Taking

end O7Formal.Worktree
