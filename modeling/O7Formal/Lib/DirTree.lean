import Mathlib.Logic.Function.Basic

/-! Directories as inodes, and the calls that name an entry by an open directory. A call may fail
without effect; what it says of a name is true. Others may change anything meanwhile, except which
inode a descriptor stands for, and that an inode without a link gets none again while it is open. -/

namespace O7Formal.DirTree

inductive Errno where
  | noEntry
  | exist
  | notEmpty
  | notDirectory
  | loop
  | tooManyFiles
  | other (code : Nat)
  deriving DecidableEq, Repr

def Errno.Faulty : Errno → Prop
  | .tooManyFiles | .other _ => True
  | .noEntry | .exist | .notEmpty | .notDirectory | .loop => False

inductive Target (ι : Type) where
  | dir (id : ι)
  | other
  deriving DecidableEq, Repr

structure Node (ι : Type) where
  uid : UInt32
  mode : UInt32
  linked : Bool
  entries : String → Option (Target ι)

abbrev Fd := Nat

structure Tree (ι : Type) where
  nodes : ι → Option (Node ι)
  fds : Fd → Option ι

structure Stat (ι : Type) where
  id : ι
  uid : UInt32
  mode : UInt32
  nlink : Nat
  deriving DecidableEq, Repr

inductive Kind where
  | directory
  | other
  | unknown
  deriving DecidableEq, Repr

structure Listed where
  name : String
  kind : Kind
  deriving DecidableEq, Repr

/-- A directory is opened without following a link. -/
inductive Call where
  | mkdirAt (fd : Fd) (name : String) (mode : UInt32)
  | openDirAt (fd : Fd) (name : String)
  | fchmod (fd : Fd) (mode : UInt32)
  | fstat (fd : Fd)
  | renameNoReplace (fd : Fd) (name new : String)
  | readDir (fd : Fd)
  | isDirAt (fd : Fd) (name : String)
  | unlinkAt (fd : Fd) (name : String)
  | rmdirAt (fd : Fd) (name : String)
  | close (fd : Fd)
  deriving DecidableEq

abbrev Call.Answer (ι : Type) : Call → Type
  | .mkdirAt _ _ _ | .fchmod _ _ | .renameNoReplace _ _ _ | .unlinkAt _ _ | .rmdirAt _ _ =>
      Except Errno Unit
  | .openDirAt _ _ => Except Errno Fd
  | .fstat _ => Except Errno (Stat ι)
  | .readDir _ => Except Errno (List Listed)
  | .isDirAt _ _ => Except Errno Bool
  | .close _ => Unit

section Trees

variable {ι : Type}

def Node.setEntry (node : Node ι) (name : String) (target : Option (Target ι)) : Node ι :=
  { node with entries := Function.update node.entries name target }

def Node.Empty (node : Node ι) : Prop := ∀ name, node.entries name = none

namespace Tree

variable [DecidableEq ι] (t : Tree ι)

def setNode (id : ι) (node : Node ι) : Tree ι :=
  { t with nodes := Function.update t.nodes id (some node) }

def bind (fd : Fd) (id : Option ι) : Tree ι := { t with fds := Function.update t.fds fd id }

@[simp] theorem setNode_self (id : ι) (node : Node ι) : (t.setNode id node).nodes id = some node :=
  Function.update_self _ _ _

theorem setNode_of_ne {id other : ι} (distinct : other ≠ id) (node : Node ι) :
    (t.setNode id node).nodes other = t.nodes other := Function.update_of_ne distinct _ _

@[simp] theorem setNode_fds (id : ι) (node : Node ι) : (t.setNode id node).fds = t.fds := rfl

omit [DecidableEq ι] in
@[simp] theorem bind_self (fd : Fd) (id : Option ι) : (t.bind fd id).fds fd = id :=
  Function.update_self _ _ _

omit [DecidableEq ι] in
theorem bind_of_ne {fd other : Fd} (distinct : other ≠ fd) (id : Option ι) :
    (t.bind fd id).fds other = t.fds other := Function.update_of_ne distinct _ _

omit [DecidableEq ι] in
def At (fd : Fd) (id : ι) (node : Node ι) : Prop := t.fds fd = some id ∧ t.nodes id = some node

variable {t} in
omit [DecidableEq ι] in
theorem At.unique {fd : Fd} {id id' : ι} {node node' : Node ι} (here : t.At fd id node)
    (there : t.At fd id' node') : id = id' ∧ node = node' := by
  rcases here with ⟨bound, found⟩
  rw [there.1] at bound
  cases bound
  rw [there.2] at found
  cases found
  exact ⟨rfl, rfl⟩

omit [DecidableEq ι] in
def Free (id : ι) : Prop :=
  (∀ node, t.nodes id = some node → node.linked = false) ∧ ∀ fd, t.fds fd ≠ some id

variable (euid : UInt32)

/-- A call that succeeds. A directory may be listed in parts while it changes, so that nothing is
known of a listing. -/
def Succeeds : (c : Call) → Tree ι → c.Answer ι → Prop
  | .mkdirAt fd name mode, t', r => r = .ok () ∧ ∃ id node new masked, t.At fd id node ∧
      node.entries name = none ∧ t.Free new ∧ masked &&& mode = masked ∧
      t' = (t.setNode id (node.setEntry name (some (.dir new)))).setNode new
        ⟨euid, masked, true, fun _ => none⟩
  | .openDirAt fd name, t', r => ∃ id node child new, t.At fd id node ∧
      node.entries name = some (.dir child) ∧ t.nodes child ≠ none ∧ t.fds new = none ∧
      r = .ok new ∧ t' = t.bind new (some child)
  | .fchmod fd mode, t', r => r = .ok () ∧ ∃ id node, t.At fd id node ∧
      t' = t.setNode id { node with mode := mode }
  | .fstat fd, t', r => t' = t ∧ ∃ id node st, t.At fd id node ∧ r = .ok st ∧ st.id = id ∧
      st.uid = node.uid ∧ st.mode = node.mode ∧ (st.nlink = 0 ↔ node.linked = false)
  | .renameNoReplace fd name new, t', r => r = .ok () ∧ ∃ id node target, t.At fd id node ∧
      node.entries name = some target ∧ node.entries new = none ∧
      t' = t.setNode id ((node.setEntry name none).setEntry new (some target))
  | .readDir _, t', r => t' = t ∧ ∃ listed, r = .ok listed
  | .isDirAt fd name, t', r => t' = t ∧ ∃ id node target, t.At fd id node ∧
      node.entries name = some target ∧ r = .ok (decide (target ≠ .other))
  | .unlinkAt fd name, t', r => r = .ok () ∧ ∃ id node, t.At fd id node ∧
      node.entries name = some .other ∧ t' = t.setNode id (node.setEntry name none)
  | .rmdirAt fd name, t', r => r = .ok () ∧ ∃ id node child gone, t.At fd id node ∧
      node.entries name = some (.dir child) ∧ t.nodes child = some gone ∧ gone.Empty ∧
      t' = (t.setNode id (node.setEntry name none)).setNode child { gone with linked := false }
  | .close fd, t', _ => t' = t.bind fd none

omit [DecidableEq ι] in
def Refuses : (c : Call) → c.Answer ι → Prop
  | .mkdirAt fd name _, r => r = .error .exist ∧ ∃ id node, t.At fd id node ∧
      node.entries name ≠ none
  | .openDirAt fd name, r => ∃ id node, t.At fd id node ∧
      (r = .error .noEntry ∧ node.entries name = none ∨
        (r = .error .loop ∨ r = .error .notDirectory) ∧ node.entries name = some .other)
  | .renameNoReplace fd name new, r => ∃ id node, t.At fd id node ∧
      (r = .error .noEntry ∧ node.entries name = none ∨
        r = .error .exist ∧ node.entries new ≠ none)
  | .isDirAt fd name, r | .unlinkAt fd name, r => r = .error .noEntry ∧ ∃ id node,
      t.At fd id node ∧ node.entries name = none
  | .rmdirAt fd name, r => ∃ id node, t.At fd id node ∧
      (r = .error .noEntry ∧ node.entries name = none ∨
        r = .error .notDirectory ∧ node.entries name = some .other ∨
        r = .error .notEmpty ∧ ∃ child full, node.entries name = some (.dir child) ∧
          t.nodes child = some full ∧ ¬ full.Empty)
  | .fchmod _ _, _ | .fstat _, _ | .readDir _, _ | .close _, _ => False

end Tree

def Faults : (c : Call) → c.Answer ι → Prop
  | .mkdirAt _ _ _, r | .fchmod _ _, r | .renameNoReplace _ _ _, r | .unlinkAt _ _, r |
    .rmdirAt _ _, r => ∃ e, r = .error e ∧ e.Faulty
  | .openDirAt _ _, r => ∃ e, r = .error e ∧ e.Faulty
  | .fstat _, r => ∃ e, r = .error e ∧ e.Faulty
  | .readDir _, r => ∃ e, r = .error e ∧ e.Faulty
  | .isDirAt _ _, r => ∃ e, r = .error e ∧ e.Faulty
  | .close _, _ => False

def Errs : (c : Call) → c.Answer ι → Prop
  | .mkdirAt _ _ _, r | .fchmod _ _, r | .renameNoReplace _ _ _, r | .unlinkAt _ _, r |
    .rmdirAt _ _, r => ∃ e, r = .error e
  | .openDirAt _ _, r => ∃ e, r = .error e
  | .fstat _, r => ∃ e, r = .error e
  | .readDir _, r => ∃ e, r = .error e
  | .isDirAt _ _, r => ∃ e, r = .error e
  | .close _, _ => False

variable [DecidableEq ι]

def Performs (euid : UInt32) (t : Tree ι) (c : Call) (r : c.Answer ι) (t' : Tree ι) : Prop :=
  t.Succeeds euid c t' r ∨ t' = t ∧ (t.Refuses c r ∨ Faults c r)

omit [DecidableEq ι] in
structure Interferes (t t' : Tree ι) : Prop where
  fds : t'.fds = t.fds
  kept : ∀ fd id node, t.fds fd = some id → t.nodes id = some node →
    ∃ node', t'.nodes id = some node' ∧ (node.linked = false → node'.linked = false)

omit [DecidableEq ι] in
def Tree.Dead (t : Tree ι) (id : ι) : Prop := ∃ node, t.nodes id = some node ∧ node.linked = false

section Facts

variable {euid : UInt32} {t t' : Tree ι} {fd : Fd} {id : ι}

omit [DecidableEq ι] in
theorem Interferes.dead (others : Interferes t t') (bound : t.fds fd = some id)
    (dead : t.Dead id) : t'.Dead id := by
  rcases dead with ⟨node, found, unlinked⟩
  rcases others.kept fd id node bound found with ⟨node', found', keeps⟩
  exact ⟨node', found', keeps unlinked⟩

omit [DecidableEq ι] in
theorem Interferes.refl : Interferes t t := ⟨rfl, fun _ _ node _ found => ⟨node, found, id⟩⟩

omit [DecidableEq ι] in
theorem Interferes.trans {t'' : Tree ι} (first : Interferes t t') (second : Interferes t' t'') :
    Interferes t t'' := by
  refine ⟨second.fds.trans first.fds, ?_⟩
  intro fd id node bound found
  rcases first.kept fd id node bound found with ⟨node', found', keeps⟩
  rcases second.kept fd id node' (first.fds ▸ bound) found' with ⟨node'', found'', keeps'⟩
  exact ⟨node'', found'', fun gone => keeps' (keeps gone)⟩

theorem Interferes.setNode {new : Node ι}
    (alive : ∀ node, t.nodes id = some node → node.linked = true) :
    Interferes t (t.setNode id new) := by
  refine ⟨rfl, ?_⟩
  intro fd id' node bound found
  by_cases same : id' = id
  · subst same
    refine ⟨new, t.setNode_self _ _, ?_⟩
    intro gone
    rw [alive node found] at gone
    cases gone
  · exact ⟨node, (t.setNode_of_ne same _).trans found, fun gone => gone⟩

theorem Performs.kept {c : Call} {r : c.Answer ι} (performs : Performs euid t c r t')
    (bound : t.fds fd = some id) (stays : c ≠ .close fd) : t'.fds fd = some id := by
  rcases performs with succeeds | ⟨rfl, -⟩
  · cases c with
    | mkdirAt other name mode =>
        rcases succeeds with ⟨-, _, _, _, _, -, -, -, -, rfl⟩
        exact bound
    | openDirAt other name =>
        rcases succeeds with ⟨_, _, child, new, -, -, -, free, -, rfl⟩
        have distinct : fd ≠ new := by
          rintro rfl
          rw [bound] at free
          cases free
        exact (t.bind_of_ne distinct _).trans bound
    | fchmod other mode =>
        rcases succeeds with ⟨-, _, _, -, rfl⟩
        exact bound
    | renameNoReplace other name new =>
        rcases succeeds with ⟨-, _, _, _, -, -, -, rfl⟩
        exact bound
    | unlinkAt other name =>
        rcases succeeds with ⟨-, _, _, -, -, rfl⟩
        exact bound
    | rmdirAt other name =>
        rcases succeeds with ⟨-, _, _, _, _, -, -, -, -, rfl⟩
        exact bound
    | fstat other | readDir other | isDirAt other name =>
        rw [succeeds.1]
        exact bound
    | close other =>
        have same : t' = t.bind other none := succeeds
        have distinct : fd ≠ other := by
          rintro rfl
          exact stays rfl
        rw [same]
        exact (t.bind_of_ne distinct _).trans bound
  · exact bound

theorem Performs.opened {name : String} {new : Fd}
    (performs : Performs euid t (.openDirAt fd name) (.ok new) t') :
    t.fds new = none ∧ ∃ child, t'.fds new = some child := by
  rcases performs with ⟨id, node, child, new', -, -, -, free, same, rfl⟩ | ⟨-, refused | faulted⟩
  · cases same
    exact ⟨free, child, t.bind_self _ _⟩
  · rcases refused with ⟨_, _, -, ⟨same, -⟩ | ⟨same | same, -⟩⟩ <;> cases same
  · rcases faulted with ⟨_, same, -⟩
    cases same

theorem Performs.stated {st : Stat ι} (performs : Performs euid t (.fstat fd) (.ok st) t') :
    t' = t ∧ ∃ node, t.At fd st.id node ∧ st.uid = node.uid ∧ st.mode = node.mode ∧
      (st.nlink = 0 ↔ node.linked = false) := by
  rcases performs with ⟨rfl, id, node, st', here, same, rfl, owner, bits, links⟩ |
    ⟨-, refused | faulted⟩
  · cases same
    exact ⟨rfl, node, here, owner, bits, links⟩
  · cases refused
  · rcases faulted with ⟨_, same, -⟩
    cases same

theorem Performs.emptied {name : String}
    (performs : Performs euid t (.rmdirAt fd name) (.ok ()) t') :
    ∃ id node child gone, t.At fd id node ∧ node.entries name = some (.dir child) ∧
      t.nodes child = some gone ∧ gone.Empty := by
  rcases performs with ⟨-, id, node, child, gone, here, named, found, empty, -⟩ |
    ⟨-, refused | faulted⟩
  · exact ⟨id, node, child, gone, here, named, found, empty⟩
  · rcases refused with ⟨_, _, -, ⟨same, -⟩ | ⟨same, -⟩ | ⟨same, -⟩⟩ <;> cases same
  · rcases faulted with ⟨_, same, -⟩
    cases same

theorem Performs.closed {r : Unit} (performs : Performs euid t (.close fd) r t') :
    t' = t.bind fd none := by
  rcases performs with succeeds | ⟨-, refused | faulted⟩
  · exact succeeds
  · cases refused
  · cases faulted

end Facts

end Trees

end O7Formal.DirTree
