import O7Formal.Worktree.Placing

/-! The removal of a directory that could not be filled: where its calls succeed, the name is free
again. -/

namespace O7Formal.Worktree

open DirTree (Fd Node)
open Program (holds_attempt holds_attempt_bind holds_ensuring holds_mono holds_perform holds_require
  holds_require_bind holds_try)

section Staying

variable {root : Root} {git : HardenedGit}

def Tame (root : Root) : DirTree.Call → Prop
  | .mkdirAt _ _ _ | .fchmod _ _ | .renameNoReplace _ _ _ => False
  | .close fd => fd ≠ root.fd
  | _ => True

def Lasting (root : Root) (git : HardenedGit) (phase : World → Prop) : Prop :=
  (∀ w, phase w → ∃ id, w.tree.fds root.fd = some id) ∧
    ∀ c r w w', Tame root c → takes root git w (.fs c) r w' → phase w → phase w'

def Stays (root : Root) (git : HardenedGit) (phase : World → Prop) {ε α : Type}
    (work : ExceptT ε Code α) : Prop :=
  ∀ w, phase w → work.run.Holds (takes root git) (fun _ => True) w fun _ w' => phase w'

variable {phase : World → Prop} {ε ε' α β : Type}

theorem stays_pure {r : Except ε α} : Stays root git phase (ExceptT.mk (pure r)) :=
  fun _ here => here

theorem stays_bind {x : ExceptT ε Code α} {f : α → ExceptT ε Code β}
    (first : Stays root git phase x) (later : ∀ a, Stays root git phase (f a)) :
    Stays root git phase (x >>= f) := by
  intro w here
  apply holds_try
  apply holds_mono (first w here) fun _ held => held
  intro r w' here'
  exact ⟨fun a _ => later a w' here', fun _ _ => here'⟩

theorem stays_attempt {y : Code (Except ε α)} {wrap : ε → ε'}
    (stays : ∀ w, phase w → y.Holds (takes root git) (fun _ => True) w fun _ w' => phase w') :
    Stays root git phase (Program.attempt y wrap) := by
  intro w here
  apply holds_attempt
  apply holds_mono (stays w here) fun _ held => held
  intro r w' here'
  exact ⟨fun _ _ => here', fun _ _ => here'⟩

theorem stays_ask (lasting : Lasting root git phase) (c : DirTree.Call) (tame : Tame root c)
    (w : World) (here : phase w) :
    (ask (.fs c)).Holds (takes root git) (fun _ => True) w fun _ w' => phase w' :=
  holds_perform fun r w' took => ⟨trivial, lasting.2 c r w w' tame took here⟩

theorem stays_open (lasting : Lasting root git phase) (fd : Fd) (name : String)
    {wrap : Errno → ε} {next : Fd → ExceptT ε Code β}
    (later : ∀ sub, sub ≠ root.fd → Stays root git phase (next sub)) :
    Stays root git phase (Program.attempt (openDirAt fd name) wrap >>= next) := by
  intro w here
  apply holds_attempt_bind
  apply holds_perform
  intro r w₁ took
  have here₁ := lasting.2 (.openDirAt fd name) r w w₁ trivial took here
  refine ⟨trivial, ?_, fun _ _ => here₁⟩
  rintro sub rfl
  have own : sub ≠ root.fd := by
    rcases took with ⟨v, ⟨t, performs, rfl⟩, rfl⟩
    rcases lasting.1 w here with ⟨id, bound⟩
    rintro rfl
    rw [performs.opened.1] at bound
    cases bound
  exact later sub own w₁ here₁

theorem stays_holding (lasting : Lasting root git phase) {sub : Fd} (own : sub ≠ root.fd)
    {work : ExceptT ε Code α} (stays : Stays root git phase work) :
    Stays root git phase (holding sub work) := by
  intro w here
  apply holds_ensuring
  apply holds_mono (stays w here) fun _ held => held
  intro r' w₂ here₂
  exact stays_ask lasting (.close sub) own w₂ here₂

theorem stays_files (lasting : Lasting root git phase) (fd : Fd) (path : String)
    (names : List String) : Stays root git phase (clearFiles fd path names) := by
  induction names with
  | nil => exact stays_pure
  | cons name rest ih =>
      exact stays_bind (stays_attempt (stays_ask lasting (.unlinkAt fd name) trivial)) fun _ => ih

theorem stays_classify (lasting : Lasting root git phase) (fd : Fd) (path : String)
    (listed : List DirTree.Listed) : Stays root git phase (classify fd path listed) := by
  induction listed with
  | nil => exact stays_pure
  | cons entry rest ih =>
      rw [classify]
      split
      · exact ih
      · have after : ∀ isDir : Bool, Stays root git phase (do
            let names ← classify fd path rest
            pure (if isDir then Names.mk names.files (entry.name :: names.subdirs)
              else Names.mk (entry.name :: names.files) names.subdirs)) :=
          fun _ => stays_bind ih fun _ => stays_pure
        rcases entry with ⟨name, kind⟩
        cases kind with
        | directory => exact after true
        | other => exact after false
        | unknown =>
            exact stays_bind (stays_attempt (stays_ask lasting (.isDirAt fd name) trivial)) after

theorem stays_subdirs (lasting : Lasting root git phase) {clear : Fd → ExceptT ReapError Code Unit}
    (each : ∀ sub, Stays root git phase (clear sub)) (fd : Fd) (path : String)
    (names : List String) : Stays root git phase (clearSubdirs clear fd path names) := by
  induction names with
  | nil => exact stays_pure
  | cons name rest ih =>
      refine stays_open lasting fd name fun sub own => ?_
      refine stays_bind (stays_holding lasting own (each sub)) fun _ => ?_
      exact stays_bind (stays_attempt (stays_ask lasting (.rmdirAt fd name) trivial)) fun _ => ih

theorem stays_dir (lasting : Lasting root git phase) (descriptors : Nat) (fd : Fd)
    (path : String) : Stays root git phase (clearDir descriptors fd path) := by
  induction descriptors generalizing fd with
  | zero =>
      rw [clearDir]
      refine stays_bind (stays_attempt (stays_ask lasting (.readDir fd) trivial)) fun listed => ?_
      refine stays_bind (stays_classify lasting fd path listed) fun names => ?_
      exact stays_bind (stays_files lasting fd path names.files) fun _ => stays_pure
  | succ left ih =>
      rw [clearDir]
      refine stays_bind (stays_attempt (stays_ask lasting (.readDir fd) trivial)) fun listed => ?_
      refine stays_bind (stays_classify lasting fd path listed) fun names => ?_
      refine stays_bind (stays_files lasting fd path names.files) fun _ => ?_
      exact stays_subdirs lasting ih fd path names.subdirs

theorem stays_verifyFd (lasting : Lasting root git phase) (fd : Fd) (expected : FsIdentity)
    (path : String) : Stays root git phase (verifyFd root fd expected path) := by
  refine stays_bind (stays_attempt (stays_ask lasting (.fstat fd) trivial)) fun st => ?_
  exact stays_bind stays_pure fun _ => stays_bind stays_pure fun _ => stays_pure

theorem stays_aside (lasting : Lasting root git phase) (parent : Fd) (aside : String) (q : Fd)
    (expected : FsIdentity) (path : String) (descriptors : Nat) :
    Stays root git phase (reapAside root parent aside q expected path descriptors) := by
  refine stays_bind (stays_verifyFd lasting q expected path) fun _ => ?_
  refine stays_bind (stays_dir lasting descriptors q path) fun _ => ?_
  refine stays_bind (stays_attempt (stays_ask lasting (.rmdirAt parent aside) trivial)) fun _ => ?_
  exact stays_bind (stays_attempt (stays_ask lasting (.fstat q) trivial)) fun _ => stays_pure

end Staying

section Removing

variable {root : Root} {git : HardenedGit} {name : String} {s w w' : World}
variable {rootId dirId : FsIdentity} {t t' : Tree}

theorem Absent.of_nodes (absent : Absent root name t) (fds : t'.fds root.fd = t.fds root.fd)
    (nodes : ∀ id node, t.nodes id = some node → ∃ node', t'.nodes id = some node' ∧
      node'.uid = node.uid ∧ node'.mode = node.mode ∧
      (node.entries name = none → node'.entries name = none)) : Absent root name t' := by
  rcases absent with ⟨id, node, ⟨bound, found⟩, ⟨owner, bits⟩, none⟩
  rcases nodes id node found with ⟨node', found', owner', mode', fewer⟩
  exact ⟨id, node', ⟨fds.trans bound, found'⟩, ⟨owner'.trans owner, mode' ▸ bits⟩, fewer none⟩

theorem setEntry_none {node : Node FsIdentity} (gone : String) (absent : node.entries name = none) :
    (node.setEntry gone none).entries name = none := by
  by_cases same : name = gone
  · subst same
    exact Function.update_self _ _ _
  · exact (Function.update_of_ne same _ _).trans absent

theorem Absent.tame {c : DirTree.Call} {r : c.Answer FsIdentity} (absent : Absent root name t)
    (performs : DirTree.Performs root.euid t c r t') (tame : Tame root c) :
    Absent root name t' := by
  rcases performs with succeeds | ⟨rfl, -⟩
  swap
  · exact absent
  cases c with
  | mkdirAt | fchmod | renameNoReplace => cases tame
  | openDirAt fd entry =>
      rcases succeeds with ⟨_, _, child, new, -, -, -, free, -, rfl⟩
      have own : root.fd ≠ new := by
        rintro rfl
        rcases absent with ⟨id, node, here, -⟩
        rw [here.1] at free
        cases free
      exact absent.of_nodes (t.bind_of_ne own _)
        fun id node found => ⟨node, found, rfl, rfl, fun n => n⟩
  | fstat | readDir | isDirAt =>
      rw [succeeds.1]
      exact absent
  | unlinkAt fd entry =>
      rcases succeeds with ⟨-, id, node, here, -, rfl⟩
      refine absent.of_nodes rfl fun other node' found => ?_
      by_cases own : other = id
      · subst own
        rw [here.2] at found
        cases found
        exact ⟨_, t.setNode_self _ _, rfl, rfl, setEntry_none entry⟩
      · exact ⟨node', (t.setNode_of_ne own _).trans found, rfl, rfl, fun n => n⟩
  | rmdirAt fd entry =>
      rcases succeeds with ⟨-, id, node, child, gone, here, -, emptied, -, rfl⟩
      refine absent.of_nodes rfl fun other node' found => ?_
      by_cases removed : other = child
      · subst removed
        rw [emptied] at found
        cases found
        exact ⟨_, DirTree.Tree.setNode_self _ _ _, rfl, rfl, fun n => n⟩
      by_cases own : other = id
      · subst own
        rw [here.2] at found
        cases found
        exact ⟨_, (DirTree.Tree.setNode_of_ne _ removed _).trans (t.setNode_self _ _), rfl, rfl,
          setEntry_none entry⟩
      · exact ⟨node', (DirTree.Tree.setNode_of_ne _ removed _).trans
          ((t.setNode_of_ne own _).trans found), rfl, rfl, fun n => n⟩
  | close fd =>
      have same : t' = t.bind fd none := succeeds
      rw [same]
      exact absent.of_nodes (t.bind_of_ne (Ne.symm tame) _)
        fun id node found => ⟨node, found, rfl, rfl, fun n => n⟩

theorem Broken.call {c : DirTree.Call} {r : c.Answer FsIdentity} (broken : Broken root s w)
    (took : takes root git w (.fs c) r w') : Broken root s w' := by
  have noted := takes_trace took
  refine ⟨?_, ?_, broken.failed.kept took⟩
  · rcases took with ⟨v, ⟨t, -, rfl⟩, rfl⟩
    exact broken.state
  · rcases broken.broken with ⟨step, member, fails⟩
    rw [noted]
    exact ⟨step, List.mem_append_left _ member, fails⟩

theorem lasting_away : Lasting root git fun w => Broken root s w ∧ Absent root name w.tree := by
  constructor
  · rintro w ⟨-, id, node, here, -⟩
    exact ⟨id, here.1⟩
  · rintro c r w w' tame took ⟨broken, absent⟩
    refine ⟨broken.call took, ?_⟩
    rcases took with ⟨v, ⟨t, performs, rfl⟩, rfl⟩
    exact absent.tame performs tame

def Spoiled (root : Root) (s w : World) : Prop := Broken root s w ∧ ¬ CleanupWorks w.trace

theorem Broken.spoiled {c : DirTree.Call} {r : c.Answer FsIdentity} (broken : Broken root s w)
    (took : takes root git w (.fs c) r w') (errs : DirTree.Errs c r) : Spoiled root s w' := by
  refine ⟨broken.call took, ?_⟩
  rw [takes_trace took, CleanupWorks, Program.eachAfter_snoc]
  rintro ⟨-, quiet⟩
  exact quiet broken.broken errs

theorem Spoiled.call {c : DirTree.Call} {r : c.Answer FsIdentity} (spoiled : Spoiled root s w)
    (took : takes root git w (.fs c) r w') : Spoiled root s w' := by
  refine ⟨spoiled.1.call took, ?_⟩
  rw [takes_trace took, CleanupWorks, Program.eachAfter_snoc]
  rintro ⟨works, -⟩
  exact spoiled.2 works

/-- What a removal leaves of a creation whose build failed. -/
structure Undone (root : Root) (name : String) (s w : World) : Prop where
  broken : Broken root s w
  absent : CleanupWorks w.trace → Absent root name w.tree

theorem Spoiled.undone (spoiled : Spoiled root s w) : Undone root name s w :=
  ⟨spoiled.1, fun works => absurd works spoiled.2⟩

structure Standing (root : Root) (name : String) (s : World) (rootId dirId : FsIdentity)
    (w : World) : Prop where
  placed : Placed root name Tight rootId dirId w.tree
  broken : Broken root s w

theorem Standing.stat (standing : Standing root name s rootId dirId w) {fd : Fd}
    {id : FsIdentity} {node : Node FsIdentity} (here : w.tree.At fd id node)
    {r : Except Errno (DirTree.Stat FsIdentity)} (took : takes root git w (.fs (.fstat fd)) r w') :
    (∃ st, r = .ok st ∧ st.id = id ∧ st.uid = node.uid ∧ st.mode = node.mode ∧
        Standing root name s rootId dirId w' ∧ w'.tree = w.tree) ∨
      (∃ e, r = .error e) ∧ Spoiled root s w' := by
  have broken := standing.broken.call took
  rcases took with ⟨v, does, rfl⟩
  have looks : Looks (.fs (.fstat fd)) := trivial
  rcases looks_does looks does with rfl
  rcases stat_at here does with ⟨st, rfl, own, owner, bits⟩ | ⟨e, rfl, faulty⟩
  · exact .inl ⟨st, rfl, own, owner, bits, ⟨standing.placed, broken⟩, rfl⟩
  · exact .inr ⟨⟨e, rfl⟩, standing.broken.spoiled ⟨v, does, rfl⟩ ⟨e, rfl⟩⟩

theorem standing_reverify (standing : Standing root name s rootId dirId w) :
    (reverify root).run.Holds (takes root git) (fun _ => True) w fun r w' =>
      (r = .ok () → Standing root name s rootId dirId w') ∧
        ∀ e, r = .error e → Spoiled root s w' := by
  rcases standing.placed.rootDir with ⟨node, here, ⟨owner, bits⟩, -⟩
  apply holds_attempt_bind
  apply holds_perform
  intro r w' took
  rcases standing.stat here took with ⟨st, rfl, -, owner', mode, standing', -⟩ | ⟨⟨e, rfl⟩, spoiled⟩
  · refine ⟨trivial, ?_, nofun⟩
    rintro _ ⟨⟩
    refine holds_require_bind (fun _ => ?_) fun wrong => absurd (owner'.trans owner) wrong
    refine holds_require (fun _ => ⟨fun _ => standing', nofun⟩) fun wrong => ?_
    exact absurd (mode ▸ bits) wrong
  · exact ⟨trivial, nofun, fun _ _ => ⟨nofun, fun _ _ => spoiled⟩⟩

theorem standing_verifyFd (standing : Standing root name s rootId dirId w) {fd : Fd}
    (opened : w.tree.fds fd = some dirId) (path : String) :
    (verifyFd root fd dirId path).run.Holds (takes root git) (fun _ => True) w fun r w' =>
      (r = .ok () → Standing root name s rootId dirId w') ∧
        ∀ e, r = .error e → Spoiled root s w' := by
  rcases standing.placed.dir with ⟨node, found, owner, bits⟩
  apply holds_attempt_bind
  apply holds_perform
  intro r w' took
  rcases standing.stat ⟨opened, found⟩ took with
    ⟨st, rfl, own, owner', mode, standing', -⟩ | ⟨⟨e, rfl⟩, spoiled⟩
  · refine ⟨trivial, ?_, nofun⟩
    rintro _ ⟨⟩
    refine holds_require_bind (fun _ => ?_) fun wrong => absurd own wrong
    refine holds_require_bind (fun _ => ?_) fun wrong => absurd (owner'.trans owner) wrong
    refine holds_require (fun _ => ⟨fun _ => standing', nofun⟩) fun wrong => ?_
    exact absurd (mode ▸ bits) wrong
  · exact ⟨trivial, nofun, fun _ _ => ⟨nofun, fun _ _ => spoiled⟩⟩

theorem standing_open (standing : Standing root name s rootId dirId w)
    {r : Except Errno Fd} (took : takes root git w (.fs (.openDirAt root.fd name)) r w') :
    (∃ fd, r = .ok fd ∧ fd ≠ root.fd ∧ w'.tree.fds fd = some dirId ∧
        Standing root name s rootId dirId w') ∨
      (∃ e, r = .error e) ∧ Spoiled root s w' := by
  have broken := standing.broken.call took
  cases r with
  | error e => exact .inr ⟨⟨e, rfl⟩, standing.broken.spoiled took ⟨e, rfl⟩⟩
  | ok new =>
      rcases took with ⟨v, ⟨t, performs, rfl⟩, rfl⟩
      rcases performs with ⟨id, node, child, new', here, entry, -, free, same, rfl⟩ |
        ⟨-, ⟨_, _, -, ⟨same, -⟩ | ⟨same | same, -⟩⟩ | ⟨_, same, -⟩⟩ <;> cases same
      have own : new ≠ root.fd := by
        rintro rfl
        rcases standing.placed.rootDir with ⟨_, there, -⟩
        rw [there.1] at free
        cases free
      rcases standing.placed.named here entry with ⟨-, rfl⟩
      exact .inl ⟨new, rfl, own, DirTree.Tree.bind_self _ _ _,
        standing.placed.bind own _, broken⟩

theorem standing_rename (standing : Standing root name s rootId dirId w) {aside : String}
    (took : takes root git w (.fs (.renameNoReplace root.fd name aside)) (.ok ()) w') :
    Broken root s w' ∧ Absent root name w'.tree := by
  refine ⟨standing.broken.call took, ?_⟩
  rcases took with ⟨v, ⟨t, performs, rfl⟩, rfl⟩
  rcases standing.placed.rootDir with ⟨node, here, ours, entry⟩
  rcases performs with ⟨-, id, node', target, here', -, free, rfl⟩ |
    ⟨-, ⟨_, _, -, ⟨same, -⟩ | ⟨same, -⟩⟩ | ⟨_, same, -⟩⟩
  · rcases here.unique here' with ⟨rfl, rfl⟩
    refine ⟨rootId, _, ⟨here.1, DirTree.Tree.setNode_self _ _ _⟩, ours, ?_⟩
    have distinct : name ≠ aside := by
      rintro rfl
      rw [entry] at free
      cases free
    exact (Function.update_of_ne distinct _ _).trans (Function.update_self _ _ _)
  · cases same
  · cases same
  · cases same

theorem undoes (standing : Standing root name s rootId dirId w) (process : Process) :
    (removeWorktreeDir root process name dirId).run.Holds (takes root git) (fun _ => True) w
      fun _ w' => Undone root name s w' := by
  apply holds_attempt_bind
  apply holds_mono (standing_reverify standing) fun _ held => held
  rintro r w₁ ⟨stands, spoils⟩
  refine ⟨fun _ ok => ?_, fun e error => (spoils e error).undone⟩
  have standing₁ := stands ok
  apply holds_attempt_bind
  apply holds_perform
  intro r₂ w₂ took₂
  rcases standing_open standing₁ took₂ with ⟨fd, rfl, own, opened, standing₂⟩ | ⟨⟨e, rfl⟩, spoiled⟩
  swap
  · exact ⟨trivial, nofun, fun _ _ => spoiled.undone⟩
  refine ⟨trivial, ?_, nofun⟩
  rintro _ ⟨⟩
  apply holds_try
  apply holds_ensuring
  apply holds_mono (standing_verifyFd standing₂ opened _) fun _ held => held
  rintro r₃ w₃ ⟨stands₃, spoils₃⟩
  apply holds_perform
  intro u w₄ took₄
  refine ⟨trivial, fun _ ok => ?_, fun e error => ((spoils₃ e error).call took₄).undone⟩
  have standing₃ := stands₃ ok
  have standing₄ : Standing root name s rootId dirId w₄ := by
    refine ⟨?_, standing₃.broken.call took₄⟩
    rcases took₄ with ⟨v, ⟨t, performs, rfl⟩, rfl⟩
    rw [performs.closed]
    exact standing₃.placed.bind own _
  apply holds_attempt_bind
  apply holds_perform
  intro r₅ w₅ took₅
  refine ⟨trivial, ?_, ?_⟩
  · rintro _ rfl
    have away := standing_rename standing₄ took₅
    refine holds_mono (stays_open lasting_away root.fd (quarantineName process dirId)
      (fun q own₅ => stays_holding lasting_away own₅ (stays_aside lasting_away _ _ q _ _ _)) w₅ away)
      (fun _ held => held) ?_
    rintro r' w' ⟨broken, absent⟩
    exact ⟨broken, fun _ => absent⟩
  · rintro e rfl
    exact (standing₄.broken.spoiled took₅ ⟨e, rfl⟩).undone

end Removing

end O7Formal.Worktree
