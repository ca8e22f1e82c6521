import O7Formal.Worktree.Undoing

/-! A creation that fails: what it leaves, and whether it can be made again. -/

namespace O7Formal.Worktree

open DirTree (Fd Node)
open Program (Reaches holds_attempt holds_attempt_bind holds_bind holds_mono holds_perform
  holds_pure holds_require holds_try)

section Recording

variable {root : Root} {git : HardenedGit} {name : String} {s w w' : World}

structure InPlace (root : Root) (name : String) (w : World) : Prop where
  placed : ∃ bits rootId dirId, Placed root name bits rootId dirId w.tree
  made : ∃ step ∈ w.trace, step.Makes
  unbroken : ∀ step ∈ w.trace, ¬ step.BuildFails

theorem MadeSome.inPlace (made : MadeSome root name s w) : InPlace root name w := by
  rcases made with ⟨bits, rootId, dirId, made⟩
  exact ⟨⟨bits, rootId, dirId, made.placed⟩, made.made, made.unbroken⟩

theorem steady_madeSome : Steady (MadeSome root name s) := by
  rintro c r w looks ⟨bits, rootId, dirId, made⟩
  exact ⟨bits, rootId, dirId, steady_made c r w looks made⟩

theorem rooted_madeSome : Rooted root (MadeSome root name s) := by
  rintro w ⟨bits, rootId, dirId, made⟩
  exact rooted_made w made

def Files : Call → Prop
  | .createTemp _ | .writeTemp _ _ | .unlinkTemp _ | .renameTemp _ | .syncRoot => True
  | _ => False

theorem InPlace.file {c : Call} {r : c.Answer} (inPlace : InPlace root name w)
    (took : takes root git w c r w') (files : Files c) : InPlace root name w' := by
  have noted := takes_trace took
  have quiet : ∀ tree, ¬ Step.BuildFails ⟨c, r, tree⟩ := by
    intro tree
    cases c with
    | createTemp | writeTemp | unlinkTemp | renameTemp | syncRoot => exact id
    | fs | openLock | lockExclusive | readStateFile | serialize | openPath | canonicalRepoId |
      worktreeToplevel | insideRepo | prepare | initWorktree | writePlan | nowUnix => cases files
  have tree : w'.tree = w.tree := by
    rcases took with ⟨v, does, rfl⟩
    cases c with
    | createTemp => rcases does with ⟨-, -, rfl⟩ | ⟨rfl, -⟩ <;> rfl
    | writeTemp => rcases does with ⟨-, rfl⟩ | ⟨-, part, rfl⟩ <;> rfl
    | unlinkTemp | renameTemp => rcases does with ⟨-, rfl⟩ | ⟨rfl, -⟩ <;> rfl
    | syncRoot =>
        rw [does.1]
        rfl
    | fs | openLock | lockExclusive | readStateFile | serialize | openPath | canonicalRepoId |
      worktreeToplevel | insideRepo | prepare | initWorktree | writePlan | nowUnix => cases files
  refine ⟨tree ▸ inPlace.placed, ?_, ?_⟩ <;> rw [noted]
  · rcases inPlace.made with ⟨step, member, makes⟩
    exact ⟨step, List.mem_append_left _ member, makes⟩
  · intro step member
    rw [List.mem_append, List.mem_singleton] at member
    rcases member with member | rfl
    · exact inPlace.unbroken step member
    · exact quiet _

theorem unlinks_on_error {y : Code (Except Errno Unit)} {path tmp : String}
    (each : y.Holds (takes root git) (fun _ => True) w fun r w' =>
      InPlace root name w' ∧ ∀ e, r = .error e → Failed root w') :
    (writeStateFileAtomic.unlinkOnError tmp (Program.attempt y (StateRootError.io path))).run.Holds
      (takes root git) (fun _ => True) w fun r w' =>
        InPlace root name w' ∧ ∀ e, r = .error e → Failed root w' := by
  apply holds_bind
  apply holds_attempt
  apply holds_mono each fun _ held => held
  rintro r w₁ ⟨inPlace, failed⟩
  refine ⟨fun u _ => holds_pure ⟨inPlace, nofun⟩, fun e error => ?_⟩
  apply holds_bind
  apply holds_perform
  intro u w₂ took
  exact ⟨trivial, holds_pure ⟨inPlace.file took trivial, fun _ _ => (failed e error).kept took⟩⟩

theorem writes_state (made : MadeSome root name s w) (process : Process) (state : StateFile) :
    (writeStateFileAtomic root process state).run.Holds (takes root git) (fun _ => True) w
      fun r w' => ∀ e, r = .error e →
        (Failed root w' ∨ s.temps (tempName process) ≠ none) ∧ InPlace root name w' := by
  apply calm_then (calm_reverify steady_madeSome rooted_madeSome) made
  swap
  · intro e w' made' failed _ _
    exact ⟨.inl failed, made'.inPlace⟩
  intro _ w₁ _ made₁
  apply holds_attempt_bind
  apply holds_perform
  intro r w₂ took
  have inPlace₂ := made₁.inPlace.file took trivial
  refine ⟨trivial, ?_, ?_⟩
  swap
  · rintro e rfl _ -
    refine ⟨?_, inPlace₂⟩
    rcases made₁ with ⟨_, _, _, made₁⟩
    rcases took with ⟨v, ⟨same, -⟩ | ⟨rfl, ⟨-, taken⟩ | ⟨e', same, faulty⟩⟩, rfl⟩
    · cases same
    · rw [made₁.temps] at taken
      exact .inr taken
    · exact .inl (failed_snoc ⟨e', same, faulty⟩)
  rintro _ rfl
  have wrote : (ask (.writeTemp (tempName process) state)).Holds (takes root git) (fun _ => True) w₂
      fun r w' => InPlace root name w' ∧ ∀ e, r = .error e → Failed root w' := by
    apply holds_perform
    intro r₃ w₃ took₃
    refine ⟨trivial, inPlace₂.file took₃ trivial, ?_⟩
    rintro e rfl
    rcases took₃ with ⟨v, ⟨same, -⟩ | ⟨faulty, -⟩, rfl⟩
    · cases same
    · exact failed_snoc faulty
  apply holds_try
  apply holds_mono (unlinks_on_error wrote) fun _ held => held
  rintro r₃ w₃ ⟨inPlace₃, failed₃⟩
  refine ⟨fun _ _ => ?_, fun e error _ _ => ⟨.inl (failed₃ e error), inPlace₃⟩⟩
  have renamed : (ask (.renameTemp (tempName process))).Holds (takes root git) (fun _ => True) w₃
      fun r w' => InPlace root name w' ∧ ∀ e, r = .error e → Failed root w' := by
    apply holds_perform
    intro r₄ w₄ took₄
    refine ⟨trivial, inPlace₃.file took₄ trivial, ?_⟩
    rintro e rfl
    rcases took₄ with ⟨v, ⟨same, -⟩ | ⟨-, faulty⟩, rfl⟩
    · cases same
    · exact failed_snoc faulty
  apply holds_try
  apply holds_mono (unlinks_on_error renamed) fun _ held => held
  rintro r₄ w₄ ⟨inPlace₄, failed₄⟩
  refine ⟨fun _ _ => ?_, fun e error _ _ => ⟨.inl (failed₄ e error), inPlace₄⟩⟩
  apply holds_attempt
  apply holds_perform
  intro r₅ w₅ took₅
  refine ⟨trivial, fun _ _ => nofun, ?_⟩
  rintro e rfl _ -
  refine ⟨.inl ?_, inPlace₄.file took₅ trivial⟩
  rcases took₅ with ⟨v, ⟨-, same | faulty⟩, rfl⟩
  · cases same
  · exact failed_snoc faulty

theorem persists (made : MadeSome root name s w) (process : Process) (state : StateFile) :
    (WorktreeStore.persist root process state).run.Holds (takes root git) (fun _ => True) w
      fun r w' => ∀ e, r = .error e →
        (Failed root w' ∨ s.temps (tempName process) ≠ none) ∧ InPlace root name w' := by
  apply holds_attempt_bind
  apply looks_ask (.serialize state) steady_madeSome trivial made
  rintro r ⟨-, rfl | ⟨why, rfl⟩⟩ made'
  · refine ⟨fun _ _ => ?_, nofun⟩
    apply holds_attempt
    apply holds_mono (writes_state made' process state) fun _ held => held
    intro r w' left
    refine ⟨fun _ _ => nofun, ?_⟩
    rintro e error _ -
    exact left e error
  · refine ⟨nofun, ?_⟩
    rintro _ _ _ -
    exact ⟨.inl (failed_snoc ⟨why, rfl⟩), made'.inPlace⟩

end Recording

section Creating

variable {root : Root} {git : HardenedGit} {sha256 : Run.Sha256} {runId : RunId}
variable {revision : CommittedRevision} {name : String} {s w w' t : World} {ε : Type}

inductive Left (root : Root) (name : String) (s w : World) : Prop where
  | early : Early s w → Left root name s w
  | undone : Undone root name s w → Left root name s w
  | made : InPlace root name w → Left root name s w

/-- The outside world let it fail, or the name of its temporary file was taken. -/
structure Fell (root : Root) (name : String) (process : Process) (s w : World) : Prop where
  cause : Failed root w ∨ s.temps (tempName process) ≠ none
  left : Left root name s w

theorem calm_outside {phase : World → Prop} (steady : Steady phase) {repo : Bytes}
    (outside : root.overlaps repo = false) :
    Calm root git phase (ensureOutsideRepo root repo) fun _ => True := by
  intro w here
  apply holds_try
  apply Program.holds_lift
  apply looks_ask (.insideRepo repo) steady trivial here
  intro r does here'
  refine ⟨?_, nofun⟩
  rintro _ ⟨⟩
  refine holds_require (fun _ => ⟨here', fun _ _ => trivial, nofun⟩) fun inside => ?_
  have fails : r ≠ root.overlaps repo := by
    rw [outside]
    exact inside
  exact ⟨here', nofun, fun _ _ => failed_snoc fails⟩

theorem builds_or_removes {rootId dirId : FsIdentity}
    (made : Made root name s Tight rootId dirId w) (process : Process) :
    (buildOrRemove root name revision dirId process).run.Holds (takes root git) (fun _ => True) w
      fun r w' => (∀ summary, r = .ok summary → MadeSome root name s w') ∧
        ∀ e, r = .error e → Fell root name process s w' := by
  apply holds_bind
  apply holds_mono (builds_dir made revision) fun _ held => held
  rintro r w₁ ⟨built, broken⟩
  cases r with
  | ok summary => exact holds_pure ⟨fun _ _ => ⟨_, _, _, built summary rfl⟩, nofun⟩
  | error e =>
      rcases broken e rfl with ⟨placed, broken⟩
      apply holds_bind
      apply holds_mono (undoes ⟨placed, broken⟩ process) fun _ held => held
      intro r' w₂ undone
      exact holds_pure ⟨nofun, fun _ _ => ⟨.inl undone.broken.failed, .undone undone⟩⟩

theorem creates_worktree (ready : Ready root git sha256 runId revision s) (early : Early s w)
    (process : Process) :
    (Worktree.create root sha256 git process runId revision).run.Holds (takes root git)
      (fun _ => True) w fun r w' =>
        (∀ worktree, r = .ok worktree →
          MadeSome root (createdDigest git sha256 runId revision) s w') ∧
        ∀ e, r = .error e → Fell root (createdDigest git sha256 runId revision) process s w' := by
  have fell : ∀ e w', Early s w' → Failed root w' →
      (∀ worktree, (.error e : Except WorktreeError Worktree) = .ok worktree →
          MadeSome root (createdDigest git sha256 runId revision) s w') ∧
        ∀ e', (.error e : Except WorktreeError Worktree) = .error e' →
          Fell root (createdDigest git sha256 runId revision) process s w' :=
    fun _ w' early' failed => ⟨nofun, fun _ _ => ⟨.inl failed, .early early'⟩⟩
  have repo : Calm root git (Early s) (Program.attempt (ask .canonicalRepoId) BuildError.worktree)
      fun repo => repo = git.repoId := by
    refine calm_attempt fun w here => ?_
    apply looks_ask .canonicalRepoId steady_early trivial here
    rintro r ⟨-, rfl | ⟨e, rfl⟩⟩ here'
    · refine ⟨here', ?_, nofun⟩
      rintro _ ⟨⟩
      rfl
    · exact ⟨here', nofun, fun _ _ => failed_snoc ⟨e, rfl⟩⟩
  apply calm_then repo early
  swap
  · exact fell
  rintro _ w₁ rfl early₁
  apply calm_then (calm_passOn (calm_outside steady_early ready.outside.1)) early₁
  swap
  · exact fell
  intro _ w₂ _ early₂
  apply calm_then (calm_passOn (calm_outside steady_early ready.outside.2.1)) early₂
  swap
  · exact fell
  intro _ w₃ _ early₃
  have toplevel : Calm root git (Early s)
      (liftM (ask .worktreeToplevel) : ExceptT WorktreeError Code (Option Bytes))
      fun toplevel => toplevel = none ∨ toplevel = git.toplevel := by
    refine calm_lift fun w here => ?_
    apply looks_ask .worktreeToplevel steady_early trivial here
    exact fun r does here' => ⟨here', does.2⟩
  apply calm_then toplevel early₃
  swap
  · exact fell
  intro toplevel w₄ known early₄
  have outside : Calm root git (Early s) (match toplevel with
      | some toplevel => ensureOutsideRepo root toplevel
      | none => pure ()) fun _ => True := by
    cases toplevel with
    | none => exact calm_pure trivial
    | some toplevel =>
        have same : git.toplevel = some toplevel := (known.resolve_left nofun).symm
        exact calm_outside steady_early (ready.outside.2.2 toplevel same)
  apply calm_then (calm_passOn outside) early₄
  swap
  · exact fell
  intro _ w₅ _ early₅
  have prepared : Calm root git (Early s)
      (Program.attempt (ask (.prepare revision)) BuildError.worktree) fun _ => True := by
    refine calm_attempt fun w here => ?_
    apply looks_ask (.prepare revision) steady_early trivial here
    rintro r ⟨-, rfl | ⟨e, rfl⟩⟩ here'
    · exact ⟨here', fun _ _ => trivial, nofun⟩
    · exact ⟨here', nofun, fun _ _ => failed_snoc ⟨e, rfl⟩⟩
  apply calm_then prepared early₅
  swap
  · exact fell
  intro _ w₆ _ early₆
  apply holds_attempt_bind
  apply holds_mono (creates_dir ready.absent early₆) fun _ held => held
  rintro r w₇ ⟨made, failed⟩
  refine ⟨?_, fun e error => ⟨nofun, fun _ _ => ⟨.inl (failed e error).1, ?_⟩⟩⟩
  · rintro ⟨path, id⟩ ok
    rcases made _ ok with ⟨rootId, made⟩
    apply holds_try
    apply holds_mono (builds_or_removes made process) fun _ held => held
    rintro r w₈ ⟨built, fell⟩
    refine ⟨fun summary ok => ⟨fun _ _ => built summary ok, nofun⟩, fun e error => ⟨nofun, ?_⟩⟩
    exact fun _ _ => fell e error
  · exact (failed e error).2.elim .early fun made => .made made.inPlace

theorem creates (ready : Ready root git sha256 runId revision s) (early : Early s w)
    (process : Process) :
    (WorktreeStore.create root sha256 git process runId revision).run.Holds (takes root git)
      (fun _ => True) w fun r w' =>
        (∃ worktree, r = .ok worktree) ∨
          Fell root (createdDigest git sha256 runId revision) process s w' := by
  have fell : ∀ e w', Early s w' → Failed root w' →
      (∃ worktree, (.error e : Except StoreError Worktree) = .ok worktree) ∨
        Fell root (createdDigest git sha256 runId revision) process s w' :=
    fun _ w' early' failed => .inr ⟨.inl failed, .early early'⟩
  have rooted := rooted_early ready.absent
  apply calm_then (calm_lock steady_early rooted) early fun _ w₁ _ early₁ => ?_
  · exact fell
  have loaded : Calm root git (Early s) (WorktreeStore.load root)
      fun file => ∀ record ∈ file.records, record.runId ≠ runId := by
    apply calm_load steady_early rooted
    intro w here
    rw [here.state]
    exact ready.untracked
  apply calm_then loaded early₁
  swap
  · exact fell
  intro file w₂ untracked early₂
  apply calm_then (calm_require untracked) early₂
  swap
  · exact fell
  intro _ w₃ _ early₃
  apply holds_attempt_bind
  apply holds_mono (creates_worktree ready early₃ process) fun _ held => held
  rintro r w₄ ⟨made, failed⟩
  refine ⟨fun worktree ok => ?_, fun e error => .inr (failed e error)⟩
  have made₄ := made worktree ok
  have now : Calm root git (MadeSome root (createdDigest git sha256 runId revision) s)
      (liftM (ask .nowUnix) : ExceptT StoreError Code UInt64) fun _ => True := by
    refine calm_lift fun w here => ?_
    apply looks_ask .nowUnix steady_madeSome trivial here
    exact fun _ _ here' => ⟨here', trivial⟩
  apply calm_then now made₄
  swap
  · exact fun e w' made' failed => .inr ⟨.inl failed, .made made'.inPlace⟩
  intro createdUnix w₅ _ made₅
  apply holds_try
  apply holds_mono (persists made₅ process _) fun _ held => held
  intro r₆ w₆ left
  refine ⟨fun _ _ => .inl ⟨worktree, rfl⟩, fun e error => .inr ?_⟩
  exact ⟨(left e error).1, .made (left e error).2⟩

theorem all_of_ready (ready : Ready root git sha256 runId revision t) (state : t.state = s.state) :
    AllOrNothing root git sha256 runId revision s t := by
  refine ⟨state, ?_, ?_⟩
  · rintro id ⟨rootId, node, here, entry⟩
    rcases ready.absent with ⟨_, _, here', -, none⟩
    rcases here.unique here' with ⟨-, rfl⟩
    rw [entry] at none
    cases none
  · intro process result w' free reaches quiet
    have ready' : Ready root git sha256 runId revision { t with trace := [] } :=
      ⟨ready.absent, ready.untracked, ready.outside⟩
    have early : Early { t with trace := [] } { t with trace := [] } := ⟨rfl, rfl, rfl, nofun⟩
    rcases (reaches.holds trivial (creates ready' early process)).2 result rfl with ok | fell
    · exact ok
    · rcases fell.cause with ⟨step, member, fails⟩ | taken
      · exact absurd fails (quiet step member)
      · exact absurd free taken

/-- A creation that fails is as if it had not been, exactly where the failure comes before the
directory is made, or is one of git or the materialization. -/
theorem create_all_or_nothing_iff (ready : Ready root git sha256 runId revision s)
    (started : s.trace = []) {process : Process} {e : StoreError}
    (failed : Reaches (takes root git)
      (WorktreeStore.create root sha256 git process runId revision).run s (pure (.error e)) t)
    (works : CleanupWorks t.trace) :
    AllOrNothing root git sha256 runId revision s t ↔ UndoneHere t.trace := by
  have early : Early s s := by
    refine ⟨rfl, rfl, rfl, ?_⟩
    rw [started]
    exact nofun
  have fell := ((failed.holds trivial (creates ready early process)).2 _ rfl).resolve_left nofun
  rcases fell.left with early | undone | inPlace
  · have ready' : Ready root git sha256 runId revision t :=
      ⟨early.tree ▸ ready.absent, early.state ▸ ready.untracked, ready.outside⟩
    exact ⟨fun _ => .inl fun step member => (early.unmade step member).1,
      fun _ => all_of_ready ready' early.state⟩
  · have ready' : Ready root git sha256 runId revision t :=
      ⟨undone.absent works, undone.broken.state ▸ ready.untracked, ready.outside⟩
    exact ⟨fun _ => .inr undone.broken.broken, fun _ => all_of_ready ready' undone.broken.state⟩
  · rcases inPlace.placed with ⟨bits, rootId, dirId, placed⟩
    rcases placed.rootDir with ⟨node, here, -, entry⟩
    constructor
    · intro all
      exact absurd ⟨rootId, node, here, entry⟩ (all.absent dirId)
    · rintro (unmade | ⟨step, member, broken⟩)
      · rcases inPlace.made with ⟨step, member, makes⟩
        exact absurd makes (unmade step member)
      · exact absurd broken (inPlace.unbroken step member)

end Creating

section Unrecorded

private def stateDir : FsIdentity := ⟨1, 1⟩
private def madeDir : FsIdentity := ⟨1, 2⟩
private def stateRoot : Root := ⟨"/s", 3, 0, fun _ => false⟩
private theorem repository_short : (ByteCodec.utf8Bytes "/r").length < 2 ^ 63 := by decide

private theorem gitDir_short : (ByteCodec.utf8Bytes "/r/.git").length < 2 ^ 63 := by decide

private def repository : HardenedGit :=
  ⟨.ofText "/r" repository_short, ⟨.ofText "/r/.git" gitDir_short, 1, 9⟩, none⟩
private def someRun : RunId := ⟨"run-1", by decide +kernel⟩
private def someCommit : CommittedRevision :=
  ⟨"0123456789abcdef0123456789abcdef01234567", by decide +kernel⟩
private def someProcess : Process := ⟨7, 0, 0, 64⟩

private def digest (sha256 : Run.Sha256) : IdentityDigest :=
  createdDigest repository sha256 someRun someCommit

private def node (entries : String → Option (DirTree.Target FsIdentity)) : Node FsIdentity :=
  ⟨0, 0o700, true, entries⟩

private def emptyRoot : Tree :=
  ⟨Function.update (fun _ => none) stateDir (some (node fun _ => none)),
    Function.update (fun _ => none) 3 (some stateDir)⟩

private def inRoot (tree : Tree) (trace : List Step) : World := ⟨tree, none, fun _ => none, trace⟩

private theorem step {α : Type} {w : World} {c : Call} {r : c.Answer} {v : World}
    {next : c.Answer → Code α} {y : Code α} {final : World → Prop}
    (does : w.Does stateRoot repository c r v)
    (later : ∃ z, Reaches (takes stateRoot repository) (next r) (v.note c r w.tree) y z ∧ final z) :
    ∃ z, Reaches (takes stateRoot repository) (.call c next) w y z ∧ final z := by
  rcases later with ⟨z, reaches, fits⟩
  exact ⟨z, .called ⟨v, does, rfl⟩ reaches, fits⟩

private theorem step_stat {α : Type} {w : World} {fd : Fd} (id : FsIdentity) {n : Node FsIdentity}
    {next : Except Errno (DirTree.Stat FsIdentity) → Code α} {y : Code α} {final : World → Prop}
    (here : w.tree.At fd id n) (linked : n.linked = true)
    (later : ∃ z, Reaches (takes stateRoot repository) (next (.ok ⟨id, n.uid, n.mode, 2⟩))
      (w.note (.fs (.fstat fd)) (.ok ⟨id, n.uid, n.mode, 2⟩) w.tree) y z ∧ final z) :
    ∃ z, Reaches (takes stateRoot repository) (.call (.fs (.fstat fd)) next) w y z ∧ final z :=
  step (v := w) ⟨w.tree, .inl ⟨rfl, id, n, _, here, rfl, rfl, rfl, rfl, by simp [linked]⟩, rfl⟩
    later

private theorem builds_nothing (t : Tree) (id : FsIdentity) : Builds t id t :=
  ⟨rfl, fun n found => ⟨n.entries, found⟩, fun _ _ _ found => .inl found, fun _ below => .inl below⟩

private def filledRoot (sha256 : Run.Sha256) : Tree :=
  (emptyRoot.setNode stateDir
    ((node fun _ => none).setEntry (digest sha256) (some (.dir madeDir)))).setNode
      madeDir (node fun _ => none)

private theorem entry_set (n : Node FsIdentity) (name : String)
    (target : Option (DirTree.Target FsIdentity)) :
    (n.setEntry name target).entries name = target := Function.update_self _ _ _

private theorem empty_ready (sha256 : Run.Sha256) :
    Ready stateRoot repository sha256 someRun someCommit (inRoot emptyRoot []) :=
  ⟨⟨stateDir, node fun _ => none, ⟨rfl, rfl⟩, ⟨rfl, by decide⟩, rfl⟩,
    ⟨⟨stateSchema, []⟩, rfl, nofun⟩, rfl, rfl, nofun⟩

private theorem cleanupWorks_of_quiet {trace : List Step} (quiet : ∀ step ∈ trace, ¬ step.Errs) :
    CleanupWorks trace := by
  rintro before step later rfl _
  exact quiet step (by simp)

private theorem step_open {α : Type} {w : World} {name : String} {id : FsIdentity}
    (child : FsIdentity) {n : Node FsIdentity} {next : Except Errno Fd → Code α} {y : Code α}
    {final : World → Prop}
    (here : w.tree.At 3 id n) (entry : n.entries name = some (.dir child))
    (there : w.tree.nodes child ≠ none) (free : w.tree.fds 4 = none)
    (later : ∃ z, Reaches (takes stateRoot repository) (next (.ok 4))
      (World.note { w with tree := w.tree.bind 4 (some child) } (.fs (.openDirAt 3 name)) (.ok 4)
        w.tree) y z ∧ final z) :
    ∃ z, Reaches (takes stateRoot repository) (.call (.fs (.openDirAt 3 name)) next) w y z ∧
      final z :=
  step ⟨_, .inl ⟨id, n, child, 4, here, entry, there, free, rfl, rfl⟩, rfl⟩ later

private theorem mkdir_does (sha256 : Run.Sha256) (trace : List Step) :
    (inRoot emptyRoot trace).Does stateRoot repository
      (.fs (.mkdirAt 3 (digest sha256) ownerOnly)) (.ok ()) (inRoot (filledRoot sha256) trace) := by
  refine ⟨filledRoot sha256, .inl ⟨rfl, stateDir, _, madeDir, ownerOnly, ⟨rfl, rfl⟩, rfl, ⟨nofun, ?_⟩,
    by decide, rfl⟩, rfl⟩
  intro fd bound
  change Function.update (fun _ => none) 3 (some stateDir) fd = some madeDir at bound
  by_cases same : fd = 3
  · rw [same, Function.update_self] at bound
    cases bound
  · rw [Function.update_of_ne same] at bound
    cases bound

private def reapedName : String := quarantineName someProcess madeDir

private theorem reapedName_ne (sha256 : Run.Sha256) : reapedName ≠ digest sha256 := by
  intro same
  have lengths := congrArg (fun s : String => s.toList.length) same
  have short : reapedName.toList.length = 16 := by decide +kernel
  simp only [short, digest, createdDigest, WorktreeIdentity.digest,
    ByteCodec.hexLower_toList_length] at lengths
  rw [(sha256 _).property] at lengths
  cases lengths

private theorem unbuilt_run (sha256 : Run.Sha256) : ∃ w', Reaches (takes stateRoot repository)
      (WorktreeStore.create stateRoot sha256 repository someProcess someRun someCommit).run
      (inRoot emptyRoot []) (pure (.error (.worktree (.git "worktree add")))) w' ∧
    (∀ step ∈ w'.trace, ¬ step.Errs) ∧ ∃ step ∈ w'.trace, step.BuildFails := by
  have apart := reapedName_ne sha256
  refine step_stat (w := inRoot emptyRoot []) stateDir ⟨rfl, rfl⟩ rfl ?_
  refine step (c := .openLock) (r := .ok ()) ⟨rfl, .inl rfl⟩ ?_
  refine step (c := .lockExclusive) (r := .ok ()) ⟨rfl, .inl rfl⟩ ?_
  refine step_stat stateDir ⟨rfl, rfl⟩ rfl ?_
  refine step (c := .readStateFile) (r := .ok none) ⟨rfl, .inl rfl⟩ ?_
  refine step (c := .canonicalRepoId) (r := .ok repository.repoId) ⟨rfl, .inl rfl⟩ ?_
  refine step (c := .insideRepo _) (r := false) rfl ?_
  refine step (c := .insideRepo _) (r := false) rfl ?_
  refine step (c := .worktreeToplevel) (r := none) ⟨rfl, .inl rfl⟩ ?_
  refine step (c := .prepare someCommit) (r := .ok ()) ⟨rfl, .inl rfl⟩ ?_
  refine step_stat stateDir ⟨rfl, rfl⟩ rfl ?_
  refine step (c := .fs (.mkdirAt 3 (digest sha256) ownerOnly)) (r := .ok ())
    (mkdir_does sha256 _) ?_
  refine step_open madeDir ⟨rfl, rfl⟩ (entry_set _ (digest sha256) _) nofun rfl ?_
  refine step (c := .fs (.fchmod 4 ownerOnly)) (r := .ok ())
    ⟨_, .inl ⟨rfl, madeDir, _, ⟨rfl, rfl⟩, rfl⟩, rfl⟩ ?_
  refine step_stat madeDir ⟨rfl, rfl⟩ rfl ?_
  refine step_stat madeDir ⟨rfl, rfl⟩ rfl ?_
  refine step (c := .fs (.close 4)) (r := ()) ⟨_, .inl rfl, rfl⟩ ?_
  refine step (c := .initWorktree (digest sha256) someCommit) (r := .error (.git "worktree add"))
    ⟨madeDir, _, ⟨stateDir, _, ⟨rfl, rfl⟩, entry_set _ (digest sha256) _⟩, builds_nothing _ _, rfl,
      .inr ⟨_, rfl⟩⟩ ?_
  refine step (c := .fs (.fstat 3)) (r := .ok ⟨stateDir, 0, 0o700, 2⟩)
    ⟨_, .inl ⟨rfl, stateDir, _, _, ⟨rfl, rfl⟩, rfl, rfl, rfl, rfl, ⟨nofun, nofun⟩⟩, rfl⟩ ?_
  refine step_open madeDir ⟨rfl, rfl⟩ (entry_set _ (digest sha256) _) nofun rfl ?_
  refine step_stat madeDir ⟨rfl, rfl⟩ rfl ?_
  refine step (c := .fs (.close 4)) (r := ()) ⟨_, .inl rfl, rfl⟩ ?_
  refine step (c := .fs (.renameNoReplace 3 (digest sha256) reapedName)) (r := .ok ())
    ⟨_, .inl ⟨rfl, stateDir, _, _, ⟨rfl, rfl⟩, entry_set _ (digest sha256) _,
      Function.update_of_ne apart _ _, rfl⟩, rfl⟩ ?_
  refine step_open madeDir ⟨rfl, rfl⟩ (entry_set _ reapedName _) nofun rfl ?_
  refine step_stat madeDir ⟨rfl, rfl⟩ rfl ?_
  refine step (c := .fs (.readDir 4)) (r := .ok []) ⟨_, .inl ⟨rfl, _, rfl⟩, rfl⟩ ?_
  refine step (c := .fs (.rmdirAt 3 reapedName)) (r := .ok ())
    ⟨_, .inl ⟨rfl, stateDir, _, madeDir, _, ⟨rfl, rfl⟩, entry_set _ reapedName _, rfl,
      fun _ => rfl, rfl⟩, rfl⟩ ?_
  refine step (c := .fs (.fstat 4)) (r := .ok ⟨madeDir, 0, 0o700, 0⟩)
    ⟨_, .inl ⟨rfl, madeDir, _, _, ⟨rfl, rfl⟩, rfl, rfl, rfl, rfl, by simp⟩, rfl⟩ ?_
  refine step (c := .fs (.close 4)) (r := ()) ⟨_, .inl rfl, rfl⟩ ?_
  refine ⟨_, .here, ?_, ?_⟩
  · simp [World.note, inRoot, Step.Errs, DirTree.Errs]
  · simp [World.note, inRoot, Step.BuildFails]

/-- Git fails to make the worktree, and its directory is moved aside and removed. -/
theorem create_unbuilt_undone : ∃ w', Reaches (takes stateRoot repository)
      (WorktreeStore.create stateRoot Run.standardSha256 repository someProcess someRun
        someCommit).run
      (inRoot emptyRoot []) (pure (.error (.worktree (.git "worktree add")))) w' ∧
    AllOrNothing stateRoot repository Run.standardSha256 someRun someCommit (inRoot emptyRoot [])
      w' := by
  rcases unbuilt_run Run.standardSha256 with ⟨w', reaches, quiet, broken⟩
  exact ⟨w', reaches, (create_all_or_nothing_iff (empty_ready _) rfl reaches
    (cleanupWorks_of_quiet quiet)).mpr (.inr broken)⟩

private theorem unrecorded_run (sha256 : Run.Sha256) : ∃ w', Reaches (takes stateRoot repository)
      (WorktreeStore.create stateRoot sha256 repository someProcess someRun someCommit).run
      (inRoot emptyRoot [])
      (pure (.error (.stateRoot (.io (stateRoot.join (tempName someProcess)) (.other 28))))) w' ∧
    w'.Names stateRoot (digest sha256) madeDir ∧ ∀ step ∈ w'.trace, ¬ step.Errs := by
  refine step_stat (w := inRoot emptyRoot []) stateDir ⟨rfl, rfl⟩ rfl ?_
  refine step (c := .openLock) (r := .ok ()) ⟨rfl, .inl rfl⟩ ?_
  refine step (c := .lockExclusive) (r := .ok ()) ⟨rfl, .inl rfl⟩ ?_
  refine step_stat stateDir ⟨rfl, rfl⟩ rfl ?_
  refine step (c := .readStateFile) (r := .ok none) ⟨rfl, .inl rfl⟩ ?_
  refine step (c := .canonicalRepoId) (r := .ok repository.repoId) ⟨rfl, .inl rfl⟩ ?_
  refine step (c := .insideRepo _) (r := false) rfl ?_
  refine step (c := .insideRepo _) (r := false) rfl ?_
  refine step (c := .worktreeToplevel) (r := none) ⟨rfl, .inl rfl⟩ ?_
  refine step (c := .prepare someCommit) (r := .ok ()) ⟨rfl, .inl rfl⟩ ?_
  refine step_stat stateDir ⟨rfl, rfl⟩ rfl ?_
  refine step (c := .fs (.mkdirAt 3 (digest sha256) ownerOnly)) (r := .ok ())
    (mkdir_does sha256 _) ?_
  refine step_open madeDir ⟨rfl, rfl⟩ (entry_set _ (digest sha256) _) nofun rfl ?_
  refine step (c := .fs (.fchmod 4 ownerOnly)) (r := .ok ())
    ⟨_, .inl ⟨rfl, madeDir, _, ⟨rfl, rfl⟩, rfl⟩, rfl⟩ ?_
  refine step_stat madeDir ⟨rfl, rfl⟩ rfl ?_
  refine step_stat madeDir ⟨rfl, rfl⟩ rfl ?_
  refine step (c := .fs (.close 4)) (r := ()) ⟨_, .inl rfl, rfl⟩ ?_
  refine step (c := .initWorktree (digest sha256) someCommit) (r := .ok ())
    ⟨madeDir, _, ⟨stateDir, _, ⟨rfl, rfl⟩, entry_set _ (digest sha256) _⟩, builds_nothing _ _, rfl,
      .inl ⟨_, rfl⟩⟩ ?_
  refine step (c := .writePlan (digest sha256)) (r := .ok ⟨0, 0, 0, 0⟩)
    ⟨madeDir, _, ⟨stateDir, _, ⟨rfl, rfl⟩, entry_set _ (digest sha256) _⟩, builds_nothing _ _, rfl,
      .inl ⟨_, rfl⟩⟩ ?_
  refine step (c := .nowUnix) (r := 0) rfl ?_
  refine step (c := .serialize _) (r := .ok ()) ⟨rfl, .inl rfl⟩ ?_
  refine step (c := .fs (.fstat 3)) (r := .ok ⟨stateDir, 0, 0o700, 2⟩)
    ⟨_, .inl ⟨rfl, stateDir, _, _, ⟨rfl, rfl⟩, rfl, rfl, rfl, rfl, ⟨nofun, nofun⟩⟩, rfl⟩ ?_
  refine step (c := .createTemp (tempName someProcess)) (r := .error (.other 28))
    (.inr ⟨rfl, .inr ⟨_, rfl, trivial⟩⟩) ?_
  refine ⟨_, .here, ⟨stateDir, _, ⟨rfl, rfl⟩, entry_set _ (digest sha256) _⟩, ?_⟩
  simp [World.note, inRoot, Step.Errs, DirTree.Errs]

/-- The directory stays behind. -/
theorem create_unrecorded_stays : ∃ w', Ready stateRoot repository Run.standardSha256 someRun
      someCommit (inRoot emptyRoot []) ∧
    Reaches (takes stateRoot repository)
      (WorktreeStore.create stateRoot Run.standardSha256 repository someProcess someRun
        someCommit).run
      (inRoot emptyRoot [])
      (pure (.error (.stateRoot (.io (stateRoot.join (tempName someProcess)) (.other 28))))) w' ∧
    CleanupWorks w'.trace ∧
    ¬ AllOrNothing stateRoot repository Run.standardSha256 someRun someCommit (inRoot emptyRoot [])
      w' := by
  rcases unrecorded_run Run.standardSha256 with ⟨w', reaches, named, quiet⟩
  exact ⟨w', empty_ready _, reaches, cleanupWorks_of_quiet quiet,
    fun all => all.absent madeDir named⟩

end Unrecorded

end O7Formal.Worktree
