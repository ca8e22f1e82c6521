import O7Formal.Worktree.Store

/-! What can fail in a creation, what it needs and what it is to leave, and the work that changes
nothing. -/

namespace O7Formal.Worktree

open DirTree (Fd Node)
open Program (EachAfter Reaches holds_attempt holds_mono holds_perform holds_pure holds_require
  holds_try)

/-- An error that comes from outside: not one that the names or the bytes make. -/
def Step.Fails (root : Root) : Step → Prop
  | ⟨.fs c, r, _⟩ => DirTree.Faults c r
  | ⟨.openLock, r, _⟩ | ⟨.lockExclusive, r, _⟩ | ⟨.createTemp _, r, _⟩ | ⟨.writeTemp _ _, r, _⟩ |
    ⟨.unlinkTemp _, r, _⟩ | ⟨.renameTemp _, r, _⟩ | ⟨.syncRoot, r, _⟩ =>
      ∃ e : Errno, r = .error e ∧ e.Faulty
  | ⟨.readStateFile, r, _⟩ => ∃ e : Errno, r = .error e ∧ e.Faulty
  | ⟨.serialize _, r, _⟩ => ∃ why, r = .error why
  | ⟨.openPath _, r, _⟩ => ∃ e : Errno, r = .error e ∧ e.Faulty
  | ⟨.canonicalRepoId, r, _⟩ => ∃ e, r = .error e
  | ⟨.prepare _, r, _⟩ | ⟨.initWorktree _ _, r, _⟩ => ∃ e, r = .error e
  | ⟨.writePlan _, r, _⟩ => ∃ e, r = .error e
  | ⟨.insideRepo repo, r, _⟩ => r ≠ root.overlaps repo
  | ⟨.worktreeToplevel, _, _⟩ | ⟨.nowUnix, _, _⟩ => False

def Step.Makes : Step → Prop
  | ⟨.fs (.mkdirAt _ _ _), r, _⟩ => r = .ok ()
  | _ => False

def Step.BuildFails : Step → Prop
  | ⟨.initWorktree _ _, r, _⟩ => ∃ e, r = .error e
  | ⟨.writePlan _, r, _⟩ => ∃ e, r = .error e
  | _ => False

def Step.Errs : Step → Prop
  | ⟨.fs c, r, _⟩ => DirTree.Errs c r
  | _ => False

/-- After a build that failed, no call on the directories does. -/
abbrev CleanupWorks (trace : List Step) : Prop :=
  EachAfter (fun past step => (∃ earlier ∈ past, earlier.BuildFails) → ¬ step.Errs) trace

/-- The failure came before the directory was made, or was one of git or the materialization. -/
def UndoneHere (trace : List Step) : Prop :=
  (∀ step ∈ trace, ¬ step.Makes) ∨ ∃ step ∈ trace, step.BuildFails

section Claim

variable (root : Root) (git : HardenedGit) (sha256 : Run.Sha256) (runId : RunId)
variable (revision : CommittedRevision)

def createdDigest : IdentityDigest :=
  (⟨runId, git.repoId, revision⟩ : WorktreeIdentity).digest sha256

def Ours (node : Node FsIdentity) : Prop :=
  node.uid = root.euid ∧ node.mode &&& 0o777 = ownerOnly

def Absent (name : String) (t : Tree) : Prop :=
  ∃ id node, t.At root.fd id node ∧ Ours root node ∧ node.entries name = none

/-- A creation of the run has what it needs: the root is ours, with no entry of the digest, the state
file can be read and does not track the run, and the repository is elsewhere. -/
structure Ready (w : World) : Prop where
  absent : Absent root (createdDigest git sha256 runId revision) w.tree
  untracked : ∃ file, StateContent.decode (root.join stateFileName) w.state = .ok file ∧
    ∀ record ∈ file.records, record.runId ≠ runId
  outside : root.overlaps git.repoId.gitCommonDir = false ∧ root.overlaps git.repo = false ∧
    ∀ toplevel, git.toplevel = some toplevel → root.overlaps toplevel = false

/-- Nothing is left of a creation, and a new one succeeds when nothing fails. -/
structure AllOrNothing (before after : World) : Prop where
  state : after.state = before.state
  absent : ∀ id, ¬ after.Names root (createdDigest git sha256 runId revision) id
  again : ∀ process result w', after.temps (tempName process) = none →
    Reaches (takes root git) (WorktreeStore.create root sha256 git process runId revision).run
      { after with trace := [] } (pure result) w' →
    (∀ step ∈ w'.trace, ¬ step.Fails root) → ∃ worktree, result = .ok worktree

end Claim

section Quiet

variable {root : Root} {git : HardenedGit} {s w w' : World} {α β ε ε' : Type}

def Failed (root : Root) (w : World) : Prop := ∃ step ∈ w.trace, step.Fails root

def Looks : Call → Prop
  | .fs (.fstat _) | .openLock | .lockExclusive | .readStateFile | .serialize _ | .canonicalRepoId |
    .worktreeToplevel | .insideRepo _ | .prepare _ | .nowUnix => True
  | _ => False

theorem looks_does {c : Call} {r : c.Answer} (looks : Looks c) (does : w.Does root git c r w') :
    w' = w := by
  cases c with
  | fs c =>
      cases c with
      | fstat fd =>
          rcases does with ⟨t, succeeds | ⟨rfl, -⟩, rfl⟩
          · rw [succeeds.1]
          · rfl
      | mkdirAt | openDirAt | fchmod | renameNoReplace | readDir | isDirAt | unlinkAt | rmdirAt |
        close => cases looks
  | openLock | lockExclusive | readStateFile | serialize | canonicalRepoId | worktreeToplevel |
    prepare => exact does.1
  | insideRepo | nowUnix => exact does
  | createTemp | writeTemp | unlinkTemp | renameTemp | syncRoot | openPath | initWorktree |
    writePlan => cases looks

theorem looks_quiet {c : Call} {r : c.Answer} {tree : Tree} (looks : Looks c) :
    ¬ Step.Makes ⟨c, r, tree⟩ ∧ ¬ Step.BuildFails ⟨c, r, tree⟩ := by
  cases c with
  | fs c => cases c <;> first | exact ⟨id, id⟩ | cases looks
  | initWorktree | writePlan => cases looks
  | _ => exact ⟨id, id⟩

theorem does_trace {c : Call} {r : c.Answer} (does : w.Does root git c r w') :
    w'.trace = w.trace := by
  cases c with
  | fs c =>
      rcases does with ⟨t, -, rfl⟩
      rfl
  | openLock | lockExclusive | readStateFile | serialize | syncRoot | canonicalRepoId |
    worktreeToplevel | prepare => rw [does.1]
  | insideRepo | nowUnix => rw [does]
  | createTemp name =>
      rcases does with ⟨-, -, rfl⟩ | ⟨rfl, -⟩ <;> rfl
  | writeTemp name state =>
      rcases does with ⟨-, rfl⟩ | ⟨-, part, rfl⟩ <;> rfl
  | unlinkTemp name | renameTemp name =>
      rcases does with ⟨-, rfl⟩ | ⟨rfl, -⟩ <;> rfl
  | openPath path =>
      rcases does with ⟨_, _, _, -, -, -, -, -, rfl⟩ | ⟨rfl, -⟩ <;> rfl
  | initWorktree name revision | writePlan name =>
      rcases does with ⟨_, _, -, -, rfl, -⟩
      rfl

theorem takes_trace {c : Call} {r : c.Answer} (took : takes root git w c r w') :
    w'.trace = w.trace ++ [⟨c, r, w.tree⟩] := by
  rcases took with ⟨v, does, rfl⟩
  rw [← does_trace does]
  rfl

theorem Failed.kept {c : Call} {r : c.Answer} (failed : Failed root w)
    (took : takes root git w c r w') : Failed root w' := by
  rcases failed with ⟨step, member, fails⟩
  refine ⟨step, ?_, fails⟩
  rw [takes_trace took]
  exact List.mem_append_left _ member

theorem failed_snoc {c : Call} {r : c.Answer} {tree : Tree}
    (fails : Step.Fails root ⟨c, r, tree⟩) : Failed root (w.note c r tree) :=
  ⟨_, List.mem_append_right _ (List.mem_singleton.mpr rfl), fails⟩

/-- A phase of a creation, which calls that only look leave. -/
def Steady (phase : World → Prop) : Prop :=
  ∀ c r w, Looks c → phase w → phase (w.note c r w.tree)

variable {phase : World → Prop}

theorem looks_ask (c : Call) (steady : Steady phase) (looks : Looks c) (here : phase w)
    {post : c.Answer → World → Prop}
    (fits : ∀ r, w.Does root git c r w → phase (w.note c r w.tree) →
      post r (w.note c r w.tree)) :
    (ask c).Holds (takes root git) (fun _ => True) w post := by
  apply holds_perform
  rintro r w' ⟨v, does, rfl⟩
  rcases looks_does looks does with rfl
  exact ⟨trivial, fits r does (steady c r v looks here)⟩

/-- Work that stays in a phase, and fails only where a call fails. -/
def Calm (root : Root) (git : HardenedGit) (phase : World → Prop) (work : ExceptT ε Code α)
    (good : α → Prop) : Prop :=
  ∀ w, phase w → work.run.Holds (takes root git) (fun _ => True) w fun r w' =>
    phase w' ∧ (∀ a, r = .ok a → good a) ∧ ∀ e, r = .error e → Failed root w'

theorem calm_pure {a : α} {good : α → Prop} (fits : good a) :
    Calm root git phase (pure a : ExceptT ε Code α) good := by
  intro w here
  refine holds_pure ⟨here, ?_, nofun⟩
  rintro _ ⟨⟩
  exact fits

theorem calm_bind {x : ExceptT ε Code α} {f : α → ExceptT ε Code β} {mid : α → Prop}
    {good : β → Prop} (first : Calm root git phase x mid)
    (later : ∀ a, mid a → Calm root git phase (f a) good) :
    Calm root git phase (x >>= f) good := by
  intro w here
  apply holds_try
  apply holds_mono (first w here) fun _ held => held
  rintro r w' ⟨here', fits, failed⟩
  refine ⟨fun a ok => later a (fits a ok) w' here', fun e error => ⟨here', nofun, ?_⟩⟩
  intro _ _
  exact failed e error

theorem calm_require {fits : Prop} [Decidable fits] {e : ε} (holds : fits) :
    Calm root git phase (Program.require fits e : ExceptT ε Code Unit) fun _ => True := by
  intro w here
  apply holds_require
  · intro _
    exact ⟨here, fun _ _ => trivial, nofun⟩
  · intro fails
    exact absurd holds fails

theorem calm_attempt {y : Code (Except ε α)} {wrap : ε → ε'} {good : α → Prop}
    (each : ∀ w, phase w → y.Holds (takes root git) (fun _ => True) w fun r w' =>
      phase w' ∧ (∀ a, r = .ok a → good a) ∧ ∀ e, r = .error e → Failed root w') :
    Calm root git phase (Program.attempt y wrap) good := by
  intro w here
  apply holds_attempt
  apply holds_mono (each w here) fun _ held => held
  rintro r w' ⟨here', fits, failed⟩
  refine ⟨fun a ok => ⟨here', ?_, nofun⟩, fun e error => ⟨here', nofun, fun _ _ => failed e error⟩⟩
  rintro _ ⟨⟩
  exact fits a ok

theorem calm_then {x : ExceptT ε Code α} {f : α → ExceptT ε Code β} {mid : α → Prop}
    {post : Except ε β → World → Prop} (first : Calm root git phase x mid) (here : phase w)
    (later : ∀ a w', mid a → phase w' →
      (f a).run.Holds (takes root git) (fun _ => True) w' post)
    (failed : ∀ e w', phase w' → Failed root w' → post (.error e) w') :
    (x >>= f).run.Holds (takes root git) (fun _ => True) w post := by
  apply holds_try
  apply holds_mono (first w here) fun _ held => held
  rintro r w' ⟨here', fits, fails⟩
  exact ⟨fun a ok => later a w' (fits a ok) here', fun e error => failed e w' here' (fails e error)⟩

theorem calm_passOn {work : ExceptT ε Code α} {wrap : ε → ε'} {good : α → Prop}
    (calm : Calm root git phase work good) : Calm root git phase (passOn wrap work) good :=
  calm_attempt calm

theorem calm_lift {y : Code α} {good : α → Prop}
    (each : ∀ w, phase w → y.Holds (takes root git) (fun _ => True) w fun a w' =>
      phase w' ∧ good a) :
    Calm root git phase (liftM y : ExceptT ε Code α) good := by
  intro w here
  apply Program.holds_lift
  apply holds_mono (each w here) fun _ held => held
  rintro a w' ⟨here', fits⟩
  refine ⟨here', ?_, nofun⟩
  rintro _ ⟨⟩
  exact fits

def Rooted (root : Root) (phase : World → Prop) : Prop :=
  ∀ w, phase w → ∃ id node, w.tree.At root.fd id node ∧ Ours root node

theorem stat_at {fd : Fd} {id : FsIdentity} {node : Node FsIdentity}
    {r : Except Errno (DirTree.Stat FsIdentity)} (here : w.tree.At fd id node)
    (does : w.Does root git (.fs (.fstat fd)) r w) :
    (∃ st, r = .ok st ∧ st.id = id ∧ st.uid = node.uid ∧ st.mode = node.mode) ∨
      ∃ e, r = .error e ∧ e.Faulty := by
  rcases does with
    ⟨t, ⟨-, id', node', st, here', rfl, rfl, owner, bits, -⟩ | ⟨-, refused | faults⟩, -⟩
  · rcases here.unique here' with ⟨rfl, rfl⟩
    exact .inl ⟨st, rfl, rfl, owner, bits⟩
  · cases refused
  · exact .inr faults

theorem calm_stat {fd : Fd} {wrap : Errno → ε'} {good : DirTree.Stat FsIdentity → Prop}
    (steady : Steady phase)
    (known : ∀ w, phase w → ∃ id node, w.tree.At fd id node ∧
      ∀ st : DirTree.Stat FsIdentity, st.id = id → st.uid = node.uid → st.mode = node.mode →
        good st) :
    Calm root git phase (Program.attempt (fstat fd) wrap) good := by
  apply calm_attempt
  intro w here
  apply looks_ask (.fs (.fstat fd)) steady trivial here
  intro r does here'
  rcases known w here with ⟨id, node, at_, fits⟩
  rcases stat_at at_ does with ⟨st, rfl, own, owner, bits⟩ | ⟨e, rfl, faulty⟩
  · refine ⟨here', ?_, nofun⟩
    rintro _ ⟨⟩
    exact fits st own owner bits
  · exact ⟨here', nofun, fun _ _ => failed_snoc ⟨e, rfl, faulty⟩⟩

theorem calm_verifyRootFd {fd : Fd} {path : String} (steady : Steady phase)
    (known : ∀ w, phase w → ∃ id node, w.tree.At fd id node ∧ Ours root node) :
    Calm root git phase (verifyRootFd root fd path) fun _ => True := by
  have stat : Calm root git phase (Program.attempt (fstat fd) (StateRootError.io path))
      fun st => st.uid = root.euid ∧ st.mode &&& 0o777 = ownerOnly := by
    apply calm_stat steady
    intro w here
    rcases known w here with ⟨id, node, at_, ours, bits⟩
    exact ⟨id, node, at_, fun st _ owner mode => ⟨owner.trans ours, mode ▸ bits⟩⟩
  apply calm_bind stat
  rintro st ⟨owner, bits⟩
  exact calm_bind (calm_require owner) fun _ _ => calm_require bits

theorem calm_reverify (steady : Steady phase) (rooted : Rooted root phase) :
    Calm root git phase (reverify root) fun _ => True := calm_verifyRootFd steady rooted

theorem calm_lock (steady : Steady phase) (rooted : Rooted root phase) :
    Calm root git phase (WorktreeStore.lock root) fun _ => True := by
  have file : Calm root git phase (openLockFile root) fun _ => True := by
    refine calm_bind (calm_reverify steady rooted) fun _ _ => calm_attempt fun w here => ?_
    apply looks_ask .openLock steady trivial here
    rintro r ⟨-, rfl | ⟨e, rfl, faulty⟩⟩ here'
    · exact ⟨here', fun _ _ => trivial, nofun⟩
    · exact ⟨here', nofun, fun _ _ => failed_snoc ⟨e, rfl, faulty⟩⟩
  refine calm_bind (calm_passOn file) fun _ _ => calm_attempt fun w here => ?_
  apply looks_ask .lockExclusive steady trivial here
  rintro r ⟨-, rfl | ⟨e, rfl, faulty⟩⟩ here'
  · exact ⟨here', fun _ _ => trivial, nofun⟩
  · exact ⟨here', nofun, fun _ _ => failed_snoc ⟨e, rfl, faulty⟩⟩

theorem calm_load {good : StateFile → Prop} (steady : Steady phase) (rooted : Rooted root phase)
    (known : ∀ w, phase w → ∃ file,
      StateContent.decode (root.join stateFileName) w.state = .ok file ∧ good file) :
    Calm root git phase (WorktreeStore.load root) good := by
  have content : Calm root git phase (passOn StoreError.stateRoot (readStateFile root))
      fun content => ∃ file, StateContent.decode (root.join stateFileName) content = .ok file ∧
        good file := by
    refine calm_passOn (calm_bind (calm_reverify steady rooted) fun _ _ => ?_)
    apply calm_attempt
    intro w here
    apply looks_ask .readStateFile steady trivial here
    rintro r ⟨-, rfl | ⟨e, rfl, faulty⟩⟩ here'
    · refine ⟨here', ?_, nofun⟩
      rintro _ ⟨⟩
      exact known w here
    · exact ⟨here', nofun, fun _ _ => failed_snoc ⟨e, rfl, faulty⟩⟩
  apply calm_bind content
  rintro content ⟨file, decoded, fits⟩ w here
  refine holds_pure ⟨here, ?_, ?_⟩ <;> rw [decoded] <;> rintro _ ⟨⟩
  exact fits

end Quiet

end O7Formal.Worktree
