import O7Formal.Worktree.Reap

/-! Whatever others do to the names meanwhile, a removal unlinks below the recorded directory only,
and says that it is gone only when it is. What it says of a directory that it could not prove gone is
another matter. -/

namespace O7Formal.Worktree

open DirTree (Fd Interferes Performs)
open Program (EachAfter Reaches holds_attempt holds_attempt_bind holds_ensuring holds_mono
  holds_perform holds_pure holds_require holds_require_bind holds_try)

/-- An entry is unlinked by its name in an open directory. -/
inductive Step.Unlinks : Step → Fd → String → Prop where
  | file {fd : Fd} {name : String} {tree : Tree} :
      Unlinks ⟨.fs (.unlinkAt fd name), .ok (), tree⟩ fd name
  | dir {fd : Fd} {name : String} {tree : Tree} :
      Unlinks ⟨.fs (.rmdirAt fd name), .ok (), tree⟩ fd name

def Step.OfEmpty (step : Step) (fd : Fd) (name : String) : Prop :=
  ∃ id node child gone, step.tree.At fd id node ∧ node.entries name = some (.dir child) ∧
    step.tree.nodes child = some gone ∧ gone.Empty

section Safety

variable (root : Root) (git : HardenedGit) (parent : Fd) (aside : String) (expected : FsIdentity)

/-- A descriptor that was proven to be the recorded directory, or that was opened below one, without a
link followed, and not closed since. -/
inductive Reached : List Step → Fd → Prop where
  | proven {past : List Step} {fd : Fd} {st : DirTree.Stat FsIdentity} {tree : Tree} :
      Proves root.euid expected st → Reached (past ++ [⟨.fs (.fstat fd), .ok st, tree⟩]) fd
  | under {past : List Step} {fd new : Fd} {name : String} {tree : Tree} :
      Reached past fd → Reached (past ++ [⟨.fs (.openDirAt fd name), .ok new, tree⟩]) new
  | later {past : List Step} {fd : Fd} {step : Step} :
      Reached past fd → step.call ≠ .fs (.close fd) → Reached (past ++ [step]) fd

/-- Below a reached directory, or once for the name aside, when that is an empty directory. -/
def MayUnlink (past : List Step) (step : Step) : Prop :=
  (∃ c, step.call = .fs c) ∧ ∀ fd name, step.Unlinks fd name → Reached root expected past fd ∨
    fd = parent ∧ name = aside ∧ step.OfEmpty fd name ∧
      ∀ earlier ∈ past, ∀ name', ¬ earlier.Unlinks parent name'

abbrev Contained (trace : List Step) : Prop :=
  EachAfter (MayUnlink root parent aside expected) trace

/-- An entry is removed that is not one of the parent: one of the recorded directory, or below. -/
def Step.Clears (step : Step) : Prop := ∃ fd name, step.Unlinks fd name ∧ fd ≠ parent

def Step.FindsGone : Step → Prop
  | ⟨.fs (.fstat _), r, _⟩ => ∃ st, r = .ok st ∧ st.nlink = 0
  | _ => True

abbrev StatsGone (trace : List Step) : Prop :=
  EachAfter (fun past step => (∃ earlier ∈ past, earlier.Clears parent) → step.FindsGone) trace

def ReapError.Spares : ReapError → Prop
  | .unproven _ _ | .vanished _ => True
  | .io _ _ => False

def Truthful (result : Except ReapError Unit) (trace : List Step) : Prop :=
  ∀ e, result = .error e → e.Spares → ∀ step ∈ trace, ¬ step.Clears parent

structure ReapSafe (result : Except ReapError Unit) (w : World) : Prop where
  contained : Contained root parent aside expected w.trace
  gone : result = .ok () → w.tree.Dead expected
  truthful : Truthful parent result w.trace

end Safety

section Calls

variable {root : Root} {git : HardenedGit} {parent : Fd} {aside : String} {expected : FsIdentity}
variable {w w' : World} {c : DirTree.Call} {r : c.Answer FsIdentity}

theorem rivalled_fs (took : rivalled root git w (.fs c) r w') :
    ∃ m, Interferes w.tree m ∧ Performs root.euid m c r w'.tree ∧
      w'.trace = w.trace ++ [⟨.fs c, r, m⟩] := by
  rcases took with ⟨m, ⟨others, unseen⟩, v, ⟨t, performs, rfl⟩, rfl⟩
  refine ⟨m.tree, others, performs, ?_⟩
  rw [← unseen]
  rfl

theorem bound_call (took : rivalled root git w (.fs c) r w') {fd : Fd} {id : FsIdentity}
    (bound : w.tree.fds fd = some id) (stays : c ≠ .close fd) : w'.tree.fds fd = some id := by
  rcases rivalled_fs took with ⟨m, others, performs, -⟩
  rw [← others.fds] at bound
  exact performs.kept bound stays

theorem reached_call (took : rivalled root git w (.fs c) r w') {fd : Fd} (stays : c ≠ .close fd)
    (reached : Reached root expected w.trace fd) : Reached root expected w'.trace fd := by
  rcases rivalled_fs took with ⟨m, -, -, noted⟩
  rw [noted]
  refine .later reached ?_
  intro same
  cases same
  exact stays rfl

theorem opened_call {fd new : Fd} {name : String}
    (took : rivalled root git w (.fs (.openDirAt fd name)) (.ok new) w') :
    w.tree.fds new = none ∧ ∃ child, w'.tree.fds new = some child := by
  rcases rivalled_fs took with ⟨m, others, performs, -⟩
  rw [← others.fds]
  exact performs.opened

theorem reached_opened {fd new : Fd} {name : String}
    (took : rivalled root git w (.fs (.openDirAt fd name)) (.ok new) w')
    (reached : Reached root expected w.trace fd) : Reached root expected w'.trace new := by
  rcases rivalled_fs took with ⟨m, -, -, noted⟩
  rw [noted]
  exact .under reached

def Kept (root : Root) (expected : FsIdentity) (w w' : World) : Prop :=
  ∀ fd id, w.tree.fds fd = some id → w'.tree.fds fd = some id ∧
    (Reached root expected w.trace fd → Reached root expected w'.trace fd)

theorem Kept.refl : Kept root expected w w := fun _ _ bound => ⟨bound, id⟩

theorem Kept.trans {w'' : World} (first : Kept root expected w w')
    (second : Kept root expected w' w'') : Kept root expected w w'' := by
  intro fd id bound
  rcases first fd id bound with ⟨bound', reaches⟩
  rcases second fd id bound' with ⟨bound'', reaches'⟩
  exact ⟨bound'', fun reached => reaches' (reaches reached)⟩

theorem kept_of_call (took : rivalled root git w (.fs c) r w')
    (closed : ∀ fd, c = .close fd → w.tree.fds fd = none) : Kept root expected w w' := by
  intro fd id bound
  have stays : c ≠ .close fd := by
    rintro rfl
    rw [closed fd rfl] at bound
    cases bound
  exact ⟨bound_call took bound stays, reached_call took stays⟩

end Calls

section Phases

variable {root : Root} {git : HardenedGit} {parent : Fd} {aside path : String}
variable {expected p : FsIdentity} {w w' : World}

/-- Only what may be removed was, and the parent is still open. -/
structure Safely (root : Root) (parent : Fd) (aside : String) (expected p : FsIdentity)
    (w : World) : Prop where
  contained : Contained root parent aside expected w.trace
  bound : w.tree.fds parent = some p

def Harmless : DirTree.Call → Prop
  | .unlinkAt _ _ | .rmdirAt _ _ => False
  | _ => True

theorem not_unlinks_of_harmless {c : DirTree.Call} {r : c.Answer FsIdentity} {tree : Tree}
    (harmless : Harmless c) (fd : Fd) (name : String) :
    ¬ Step.Unlinks ⟨.fs c, r, tree⟩ fd name := by
  rintro (_ | _) <;> exact harmless

theorem findsGone_of_not_stat {c : DirTree.Call} {r : c.Answer FsIdentity} {tree : Tree}
    (other : ∀ fd, c ≠ .fstat fd) : Step.FindsGone ⟨.fs c, r, tree⟩ := by
  cases c with
  | fstat fd => exact absurd rfl (other fd)
  | mkdirAt | openDirAt | fchmod | renameNoReplace | readDir | isDirAt | unlinkAt | rmdirAt |
    close => trivial

theorem contained_call {c : DirTree.Call} {r : c.Answer FsIdentity}
    (contained : Contained root parent aside expected w.trace)
    (took : rivalled root git w (.fs c) r w') (harmless : Harmless c) :
    Contained root parent aside expected w'.trace := by
  rcases rivalled_fs took with ⟨m, -, -, noted⟩
  rw [noted, Contained, Program.eachAfter_snoc]
  exact ⟨contained, ⟨c, rfl⟩, fun fd name unlinks =>
    absurd unlinks (not_unlinks_of_harmless harmless fd name)⟩

structure Untouched (parent : Fd) (p : FsIdentity) (w : World) : Prop where
  calls : ∀ step ∈ w.trace, ∃ c, step.call = .fs c
  none : ∀ step ∈ w.trace, ∀ fd name, ¬ step.Unlinks fd name
  bound : w.tree.fds parent = some p

namespace Untouched

theorem contained (untouched : Untouched parent p w) :
    Contained root parent aside expected w.trace :=
  Program.eachAfter_of_forall fun step member _ =>
    ⟨untouched.calls step member, fun fd name unlinks =>
      absurd unlinks (untouched.none step member fd name)⟩

theorem safely (untouched : Untouched parent p w) : Safely root parent aside expected p w :=
  ⟨untouched.contained, untouched.bound⟩

theorem not_clears (untouched : Untouched parent p w) (step : Step) (member : step ∈ w.trace) :
    ¬ step.Clears parent := by
  rintro ⟨fd, name, unlinks, -⟩
  exact untouched.none step member fd name unlinks

theorem statsGone (untouched : Untouched parent p w) : StatsGone parent w.trace := by
  rintro before step later split ⟨earlier, member, clears⟩
  refine absurd clears (untouched.not_clears earlier ?_)
  rw [split]
  exact List.mem_append_left _ member

theorem call (untouched : Untouched parent p w) {c : DirTree.Call} {r : c.Answer FsIdentity}
    (took : rivalled root git w (.fs c) r w') (harmless : Harmless c) (stays : c ≠ .close parent) :
    Untouched parent p w' := by
  have bound := bound_call took untouched.bound stays
  rcases rivalled_fs took with ⟨m, -, -, noted⟩
  refine ⟨?_, ?_, bound⟩ <;> intro step member <;> rw [noted, List.mem_append,
    List.mem_singleton] at member <;> rcases member with member | rfl
  · exact untouched.calls step member
  · exact ⟨c, rfl⟩
  · exact untouched.none step member
  · exact not_unlinks_of_harmless harmless

end Untouched

/-- Whatever was removed was reached, none of the parent's, and no stat came after. -/
structure Clearing (root : Root) (parent : Fd) (aside : String) (expected p : FsIdentity)
    (w : World) : Prop where
  contained : Contained root parent aside expected w.trace
  stats : StatsGone parent w.trace
  single : ∀ step ∈ w.trace, ∀ name, ¬ step.Unlinks parent name
  bound : w.tree.fds parent = some p

theorem Untouched.clearing (untouched : Untouched parent p w) :
    Clearing root parent aside expected p w :=
  ⟨untouched.contained, untouched.statsGone,
    fun step member name => untouched.none step member parent name, untouched.bound⟩

theorem Clearing.safely (clearing : Clearing root parent aside expected p w) :
    Safely root parent aside expected p w := ⟨clearing.contained, clearing.bound⟩

def Permitted (root : Root) (parent : Fd) (expected : FsIdentity) (w : World) :
    DirTree.Call → Prop
  | .unlinkAt fd _ | .rmdirAt fd _ => Reached root expected w.trace fd ∧ fd ≠ parent
  | .fstat _ => False
  | .close fd => fd ≠ parent
  | _ => True

theorem Clearing.call (clearing : Clearing root parent aside expected p w) {c : DirTree.Call}
    {r : c.Answer FsIdentity} (took : rivalled root git w (.fs c) r w')
    (permitted : Permitted root parent expected w c) :
    Clearing root parent aside expected p w' := by
  have stays : c ≠ .close parent := by
    rintro rfl
    exact permitted rfl
  have bound := bound_call took clearing.bound stays
  have quiet : ∀ fd, c ≠ .fstat fd := by
    rintro fd rfl
    exact permitted
  rcases rivalled_fs took with ⟨m, -, -, noted⟩
  have reached : ∀ fd name, Step.Unlinks ⟨.fs c, r, m⟩ fd name →
      Reached root expected w.trace fd ∧ fd ≠ parent := by
    rintro fd name (_ | _) <;> exact permitted
  refine ⟨?_, ?_, ?_, bound⟩
  · rw [noted, Contained, Program.eachAfter_snoc]
    exact ⟨clearing.contained, ⟨c, rfl⟩, fun fd name unlinks => .inl (reached fd name unlinks).1⟩
  · rw [noted, StatsGone, Program.eachAfter_snoc]
    exact ⟨clearing.stats, fun _ => findsGone_of_not_stat quiet⟩
  · intro step member name unlinks
    rw [noted, List.mem_append, List.mem_singleton] at member
    rcases member with member | rfl
    · exact clearing.single step member name unlinks
    · exact (reached parent name unlinks).2 rfl

structure ClearsFrom (root : Root) (parent : Fd) (aside : String) (expected p : FsIdentity)
    (fd : Fd) (w : World) : Prop where
  clearing : Clearing root parent aside expected p w
  reached : Reached root expected w.trace fd
  opened : ∃ id, w.tree.fds fd = some id

theorem ClearsFrom.kept {fd : Fd} (from_ : ClearsFrom root parent aside expected p fd w)
    (clearing : Clearing root parent aside expected p w') (kept : Kept root expected w w') :
    ClearsFrom root parent aside expected p fd w' := by
  rcases from_.opened with ⟨id, bound⟩
  exact ⟨clearing, (kept fd id bound).2 from_.reached, id, (kept fd id bound).1⟩

/-- What clearing comes to: it fails with no other errors, and leaves the descriptors open. -/
structure Cleared (root : Root) (parent : Fd) (aside : String) (expected p : FsIdentity)
    {α : Type} (w : World) (r : Except ReapError α) (w' : World) : Prop where
  clearing : Clearing root parent aside expected p w'
  kept : Kept root expected w w'
  failed : ∀ e, r = .error e → ∃ path source, e = .io path source

def Clears (root : Root) (git : HardenedGit) (parent : Fd) (aside : String)
    (expected p : FsIdentity) {α : Type} (work : ExceptT ReapError Code α) (w : World) : Prop :=
  work.run.Holds (rivalled root git) (Safely root parent aside expected p) w
    (Cleared root parent aside expected p w)

theorem clears_pure {α : Type} {a : α} (clearing : Clearing root parent aside expected p w) :
    Clears root git parent aside expected p (pure a) w := by
  refine holds_pure ⟨clearing, .refl, ?_⟩
  rintro e ⟨⟩

/-- Cleared since `w`, though the work begins later. -/
theorem cleared_bind {α β : Type} {work : ExceptT ReapError Code α}
    {next : α → ExceptT ReapError Code β} {w₁ : World}
    (first : work.run.Holds (rivalled root git) (Safely root parent aside expected p) w₁
      (Cleared root parent aside expected p w))
    (later : ∀ a w', Clearing root parent aside expected p w' → Kept root expected w w' →
      Clears root git parent aside expected p (next a) w') :
    (work >>= next).run.Holds (rivalled root git) (Safely root parent aside expected p) w₁
      (Cleared root parent aside expected p w) := by
  apply holds_try
  apply holds_mono first fun _ held => held
  rintro r w' ⟨clearing, kept, failed⟩
  constructor
  · intro a _
    apply holds_mono (later a w' clearing kept) fun _ held => held
    rintro r' w'' ⟨clearing', kept', failed'⟩
    exact ⟨clearing', kept.trans kept', failed'⟩
  · rintro e rfl
    refine ⟨clearing, kept, ?_⟩
    rintro e' ⟨⟩
    exact failed e rfl

theorem clears_bind {α β : Type} {work : ExceptT ReapError Code α}
    {next : α → ExceptT ReapError Code β}
    (first : Clears root git parent aside expected p work w)
    (later : ∀ a w', Clearing root parent aside expected p w' → Kept root expected w w' →
      Clears root git parent aside expected p (next a) w') :
    Clears root git parent aside expected p (work >>= next) w :=
  cleared_bind first later

theorem clears_attempt {α : Type} {y : Code (Except Errno α)}
    (holds : y.Holds (rivalled root git) (Safely root parent aside expected p) w
      fun _ w' => Clearing root parent aside expected p w' ∧ Kept root expected w w') :
    Clears root git parent aside expected p (Program.attempt y (.io path)) w := by
  apply holds_attempt
  apply holds_mono holds fun _ held => held
  rintro r w' ⟨clearing, kept⟩
  constructor
  · intro a _
    refine ⟨clearing, kept, ?_⟩
    rintro e ⟨⟩
  · intro e _
    refine ⟨clearing, kept, ?_⟩
    rintro e' ⟨⟩
    exact ⟨path, e, rfl⟩

theorem clearing_perform (c : DirTree.Call) (clearing : Clearing root parent aside expected p w)
    (permitted : Permitted root parent expected w c) (stays : ∀ fd, c ≠ .close fd) :
    (Program.perform (Call.fs c) : Code (Call.fs c).Answer).Holds (rivalled root git)
      (Safely root parent aside expected p) w
      fun _ w' => Clearing root parent aside expected p w' ∧ Kept root expected w w' := by
  apply holds_perform
  intro r w' took
  have clearing' := clearing.call took permitted
  exact ⟨clearing'.safely, clearing', kept_of_call took fun fd same => absurd same (stays fd)⟩

theorem ClearsFrom.away {fd : Fd} (from_ : ClearsFrom root parent aside expected p fd w)
    (own : fd ≠ parent) (name : String) :
    Clears root git parent aside expected p (Program.attempt (unlinkAt fd name) (.io path)) w ∧
      Clears root git parent aside expected p (Program.attempt (rmdirAt fd name) (.io path)) w :=
  ⟨clears_attempt (clearing_perform (.unlinkAt fd name) from_.clearing ⟨from_.reached, own⟩ nofun),
    clears_attempt (clearing_perform (.rmdirAt fd name) from_.clearing ⟨from_.reached, own⟩ nofun)⟩

theorem clears_files {fd : Fd} (own : fd ≠ parent) (names : List String)
    (from_ : ClearsFrom root parent aside expected p fd w) :
    Clears root git parent aside expected p (clearFiles fd path names) w := by
  induction names generalizing w with
  | nil => exact clears_pure from_.clearing
  | cons name rest ih =>
      apply clears_bind (from_.away own name).1
      intro _ w' clearing kept
      exact ih (from_.kept clearing kept)

theorem clears_classify {fd : Fd} (listed : List DirTree.Listed)
    (clearing : Clearing root parent aside expected p w) :
    Clears root git parent aside expected p (classify fd path listed) w := by
  induction listed generalizing w with
  | nil => exact clears_pure clearing
  | cons entry rest ih =>
      rw [classify]
      split
      · exact ih clearing
      · have after : ∀ (isDir : Bool) w', Clearing root parent aside expected p w' →
            Clears root git parent aside expected p (do
              let names ← classify fd path rest
              pure (if isDir then Names.mk names.files (entry.name :: names.subdirs)
                else Names.mk (entry.name :: names.files) names.subdirs)) w' := by
          intro isDir w' clearing'
          exact clears_bind (ih clearing') fun _ w'' clearing'' _ => clears_pure clearing''
        rcases entry with ⟨name, kind⟩
        cases kind with
        | directory => exact after true w clearing
        | other => exact after false w clearing
        | unknown =>
            apply clears_bind
              (clears_attempt (clearing_perform (.isDirAt fd name) clearing trivial nofun))
            exact fun isDir w' clearing' _ => after isDir w' clearing'

theorem cleared_holding {clear : ExceptT ReapError Code Unit} {sub : Fd} {w₁ : World}
    (kept : Kept root expected w w₁) (free : w.tree.fds sub = none) (own : sub ≠ parent)
    (clears : Clears root git parent aside expected p clear w₁) :
    (holding sub clear).run.Holds (rivalled root git) (Safely root parent aside expected p) w₁
      (Cleared root parent aside expected p w) := by
  apply holds_ensuring
  apply holds_mono clears fun _ held => held
  rintro r w₂ ⟨clearing, kept', failed⟩
  apply holds_perform
  intro u w₃ took
  have clearing' := clearing.call took own
  refine ⟨clearing'.safely, clearing', ?_, failed⟩
  intro fd id bound
  rcases kept.trans kept' fd id bound with ⟨bound', reaches⟩
  have stays : DirTree.Call.close sub ≠ .close fd := by
    rintro ⟨⟩
    rw [free] at bound
    cases bound
  exact ⟨bound_call took bound' stays, fun reached => reached_call took stays (reaches reached)⟩

theorem clears_subdirs {clear : Fd → ExceptT ReapError Code Unit}
    (each : ∀ sub w', sub ≠ parent → ClearsFrom root parent aside expected p sub w' →
      Clears root git parent aside expected p (clear sub) w')
    {fd : Fd} (own : fd ≠ parent) (names : List String)
    (from_ : ClearsFrom root parent aside expected p fd w) :
    Clears root git parent aside expected p (clearSubdirs clear fd path names) w := by
  induction names generalizing w with
  | nil => exact clears_pure from_.clearing
  | cons name rest ih =>
      apply holds_attempt_bind
      apply holds_perform
      intro r w₁ took
      have clearing := from_.clearing.call took trivial
      have kept : Kept root expected w w₁ := kept_of_call took nofun
      refine ⟨clearing.safely, ?_, ?_⟩
      · rintro sub rfl
        rcases opened_call took with ⟨free, opened⟩
        have subOwn : sub ≠ parent := by
          rintro rfl
          rw [from_.clearing.bound] at free
          cases free
        have within := each sub w₁ subOwn ⟨clearing, reached_opened took from_.reached, opened⟩
        apply cleared_bind (cleared_holding kept free subOwn within)
        intro _ w₂ clearing₂ kept₂
        have back := from_.kept clearing₂ kept₂
        apply clears_bind (back.away own name).2
        intro _ w₃ clearing₃ kept₃
        exact ih (back.kept clearing₃ kept₃)
      · rintro e rfl
        refine ⟨clearing, kept, ?_⟩
        rintro e' ⟨⟩
        exact ⟨path, e, rfl⟩

theorem clears_listed {fd : Fd} (own : fd ≠ parent)
    (from_ : ClearsFrom root parent aside expected p fd w)
    {next : Names → ExceptT ReapError Code Unit}
    (later : ∀ names w', ClearsFrom root parent aside expected p fd w' →
      Clears root git parent aside expected p (next names) w') :
    Clears root git parent aside expected p (do
      let listed ← Program.attempt (readDir fd) (.io path)
      let names ← classify fd path listed
      clearFiles fd path names.files
      next names) w := by
  apply clears_bind (clears_attempt (clearing_perform (.readDir fd) from_.clearing trivial nofun))
  intro listed w₁ clearing₁ kept₁
  have from₁ := from_.kept clearing₁ kept₁
  apply clears_bind (clears_classify listed clearing₁)
  intro names w₂ clearing₂ kept₂
  have from₂ := from₁.kept clearing₂ kept₂
  apply clears_bind (clears_files own names.files from₂)
  intro _ w₃ clearing₃ kept₃
  exact later names w₃ (from₂.kept clearing₃ kept₃)

theorem clears_dir (descriptors : Nat) {fd : Fd} (own : fd ≠ parent)
    (from_ : ClearsFrom root parent aside expected p fd w) :
    Clears root git parent aside expected p (clearDir descriptors fd path) w := by
  induction descriptors generalizing fd w with
  | zero =>
      rw [clearDir]
      apply clears_listed own from_
      intro names w' from'
      apply holds_require
      · intro _
        exact ⟨from'.clearing, .refl, nofun⟩
      · intro _
        refine ⟨from'.clearing, .refl, ?_⟩
        rintro e ⟨⟩
        exact ⟨path, .tooManyFiles, rfl⟩
  | succ left ih =>
      rw [clearDir]
      apply clears_listed own from_
      intro names w' from'
      exact clears_subdirs (fun sub w'' subOwn sub' => ih subOwn sub') own names.subdirs from'

/-- What holds of a result, where its errors may say too much. -/
structure Judged (root : Root) (parent : Fd) (aside : String) (expected : FsIdentity)
    (result : Except ReapError Unit) (w : World) : Prop where
  contained : Contained root parent aside expected w.trace
  gone : result = .ok () → w.tree.Dead expected
  truthful : Truthful parent result w.trace ↔ StatsGone parent w.trace

theorem Judged.safe_iff {result : Except ReapError Unit}
    (judged : Judged root parent aside expected result w) :
    ReapSafe root parent aside expected result w ↔ StatsGone parent w.trace :=
  ⟨fun safe => judged.truthful.mp safe.truthful,
    fun stats => ⟨judged.contained, judged.gone, judged.truthful.mpr stats⟩⟩

theorem Untouched.judged (untouched : Untouched parent p w) (e : ReapError) :
    Judged root parent aside expected (.error e) w :=
  ⟨untouched.contained, nofun, fun _ => untouched.statsGone,
    fun _ _ _ _ => untouched.not_clears⟩

theorem judged_of_io {path : String} {source : Errno}
    (contained : Contained root parent aside expected w.trace) (stats : StatsGone parent w.trace) :
    Judged root parent aside expected (.error (.io path source)) w := by
  refine ⟨contained, nofun, fun _ => stats, ?_⟩
  rintro _ e ⟨⟩ spares
  exact absurd spares id

theorem Judged.closed {result : Except ReapError Unit} {q : Fd}
    (judged : Judged root parent aside expected result w)
    (held : result = .ok () → w.tree.fds q = some expected) {u : Unit}
    (took : rivalled root git w (.fs (.close q)) u w') :
    Judged root parent aside expected result w' := by
  rcases rivalled_fs took with ⟨m, others, performs, noted⟩
  have silent : ∀ fd name, ¬ Step.Unlinks ⟨.fs (.close q), u, m⟩ fd name :=
    not_unlinks_of_harmless trivial
  refine ⟨contained_call judged.contained took trivial, ?_, ?_⟩
  · intro ok
    have dead := others.dead (held ok) (judged.gone ok)
    rw [performs.closed]
    exact dead
  · have stats : StatsGone parent w'.trace ↔ StatsGone parent w.trace := by
      rw [noted, StatsGone, Program.eachAfter_snoc]
      exact ⟨And.left, fun stats => ⟨stats, fun _ => trivial⟩⟩
    have truthful : Truthful parent result w'.trace ↔ Truthful parent result w.trace := by
      rw [noted]
      constructor
      · intro truthful e failed spares step member
        exact truthful e failed spares step (List.mem_append_left _ member)
      · intro truthful e failed spares step member
        rw [List.mem_append, List.mem_singleton] at member
        rcases member with member | rfl
        · exact truthful e failed spares step member
        · rintro ⟨fd, name, unlinks, -⟩
          exact silent fd name unlinks
    rw [truthful, stats]
    exact judged.truthful

theorem verifies (untouched : Untouched parent p w) (fd : Fd) :
    (verifyFd root fd expected path).run.Holds (rivalled root git)
      (Safely root parent aside expected p) w
      fun r w' => Untouched parent p w' ∧
        (r = .ok () → Reached root expected w'.trace fd ∧ w'.tree.fds fd = some expected) := by
  apply holds_attempt_bind
  apply holds_perform
  intro r w' took
  have untouched' := untouched.call took trivial nofun
  refine ⟨untouched'.safely, ?_, fun e _ => ⟨untouched', nofun⟩⟩
  rintro st rfl
  rcases rivalled_fs took with ⟨m, -, performs, noted⟩
  rcases performs.stated with ⟨same, node, here, -⟩
  refine holds_require_bind (fun sameId => ?_) fun _ => ⟨untouched', nofun⟩
  refine holds_require_bind (fun ours => ?_) fun _ => ⟨untouched', nofun⟩
  refine holds_require (fun bits => ?_) fun _ => ⟨untouched', nofun⟩
  refine ⟨untouched', fun _ => ⟨?_, ?_⟩⟩
  · rw [noted]
    exact .proven ⟨sameId, ours, bits⟩
  · rw [same, ← sameId]
    exact here.1

theorem Clearing.rmdir_aside (clearing : Clearing root parent aside expected p w)
    {r : Except Errno Unit} (took : rivalled root git w (.fs (.rmdirAt parent aside)) r w') :
    Contained root parent aside expected w'.trace ∧ StatsGone parent w'.trace := by
  rcases rivalled_fs took with ⟨m, -, performs, noted⟩
  rw [noted, Contained, StatsGone, Program.eachAfter_snoc, Program.eachAfter_snoc]
  refine ⟨⟨clearing.contained, ⟨_, rfl⟩, ?_⟩, clearing.stats, fun _ => trivial⟩
  intro fd name unlinks
  cases unlinks
  exact .inr ⟨rfl, rfl, performs.emptied, clearing.single⟩

theorem judged_of_stat {q : Fd} {r : Except Errno (DirTree.Stat FsIdentity)} {path reason : String}
    (contained : Contained root parent aside expected w.trace) (stats : StatsGone parent w.trace)
    (took : rivalled root git w (.fs (.fstat q)) r w')
    (remains : ∀ st, r = .ok st → st.nlink ≠ 0) :
    Judged root parent aside expected (.error (.unproven path reason)) w' := by
  rcases rivalled_fs took with ⟨m, -, -, noted⟩
  have silent : ∀ fd name, ¬ Step.Unlinks ⟨.fs (.fstat q), r, m⟩ fd name :=
    not_unlinks_of_harmless trivial
  refine ⟨contained_call contained took trivial, nofun, ?_⟩
  rw [noted, StatsGone, Program.eachAfter_snoc]
  constructor
  · intro truthful
    refine ⟨stats, ?_⟩
    rintro ⟨earlier, member, clears⟩
    exact absurd clears (truthful _ rfl trivial earlier (List.mem_append_left _ member))
  · rintro ⟨-, last⟩ e ⟨⟩ - step member clears
    rw [List.mem_append, List.mem_singleton] at member
    rcases member with member | rfl
    · rcases last ⟨step, member, clears⟩ with ⟨st, found, none⟩
      exact remains st found none
    · rcases clears with ⟨fd, name, unlinks, -⟩
      exact silent fd name unlinks

theorem judged_of_gone {q : Fd} {st : DirTree.Stat FsIdentity}
    (contained : Contained root parent aside expected w.trace) (stats : StatsGone parent w.trace)
    (bound : w.tree.fds q = some expected)
    (took : rivalled root git w (.fs (.fstat q)) (.ok st) w') (none : st.nlink = 0) :
    Judged root parent aside expected (.ok ()) w' := by
  rcases rivalled_fs took with ⟨m, others, performs, noted⟩
  rcases performs.stated with ⟨same, node, here, -, -, links⟩
  refine ⟨contained_call contained took trivial, fun _ => ?_, ?_⟩
  · have own : st.id = expected := by
      rw [← others.fds, here.1] at bound
      exact Option.some.inj bound
    rw [same, ← own]
    exact ⟨node, here.2, links.mp none⟩
  · rw [noted, StatsGone, Program.eachAfter_snoc]
    exact ⟨fun _ => ⟨stats, fun _ => ⟨st, rfl, none⟩⟩, fun _ => nofun⟩

theorem judges_aside (untouched : Untouched parent p w) {q : Fd} (own : q ≠ parent)
    (descriptors : Nat) :
    (reapAside root parent aside q expected path descriptors).run.Holds (rivalled root git)
      (Safely root parent aside expected p) w
      fun r w' => Judged root parent aside expected r w' ∧
        (r = .ok () → w'.tree.fds q = some expected) := by
  apply holds_try
  apply holds_mono (verifies untouched q) fun _ held => held
  rintro r w₁ ⟨untouched₁, proven⟩
  refine ⟨fun _ ok => ?_, fun e _ => ⟨untouched₁.judged e, nofun⟩⟩
  rcases proven ok with ⟨reached, bound₁⟩
  apply holds_try
  apply holds_mono (clears_dir descriptors own ⟨untouched₁.clearing, reached, expected, bound₁⟩)
    fun _ held => held
  rintro r₂ w₂ ⟨clearing₂, kept₂, failed₂⟩
  have bound₂ := (kept₂ q expected bound₁).1
  constructor
  swap
  · rintro e rfl
    rcases failed₂ e rfl with ⟨at_, source, rfl⟩
    exact ⟨judged_of_io clearing₂.contained clearing₂.stats, nofun⟩
  intro _ _
  apply holds_attempt_bind
  apply holds_perform
  intro r₃ w₃ took₃
  have after := clearing₂.rmdir_aside took₃
  have bound₃ := bound_call took₃ bound₂ nofun
  have parent₃ := bound_call took₃ clearing₂.bound nofun
  refine ⟨⟨after.1, parent₃⟩, fun _ _ => ?_, fun e _ => ⟨judged_of_io after.1 after.2, nofun⟩⟩
  apply holds_attempt_bind
  apply holds_perform
  intro r₄ w₄ took₄
  have bound₄ := bound_call took₄ bound₃ nofun
  have parent₄ := bound_call took₄ parent₃ nofun
  refine ⟨⟨contained_call after.1 took₄ trivial, parent₄⟩, ?_, ?_⟩
  · rintro st rfl
    apply holds_require
    · intro none
      exact ⟨judged_of_gone after.1 after.2 bound₃ took₄ none, fun _ => bound₄⟩
    · intro some
      refine ⟨judged_of_stat after.1 after.2 took₄ ?_, nofun⟩
      rintro _ ⟨⟩
      exact some
  · rintro e rfl
    exact ⟨judged_of_stat after.1 after.2 took₄ nofun, nofun⟩

theorem judges_holding (untouched : Untouched parent p w) {q : Fd} (own : q ≠ parent)
    (descriptors : Nat) :
    (holding q (reapAside root parent aside q expected path descriptors)).run.Holds
      (rivalled root git) (Safely root parent aside expected p) w
      fun r w' => Judged root parent aside expected r w' := by
  apply holds_ensuring
  apply holds_mono (Program.holds_final untouched.safely (judges_aside untouched own descriptors))
    fun _ held => held
  rintro r w₁ ⟨safely, judged, bound⟩
  apply holds_perform
  intro u w₂ took
  have closed := judged.closed bound took
  have parent₂ : w₂.tree.fds parent = some p := bound_call took safely.bound (by
    rintro ⟨⟩
    exact own rfl)
  exact ⟨⟨closed.contained, parent₂⟩, closed⟩

theorem judges_open (untouched : Untouched parent p w) {name : String} {wrap : Errno → ReapError}
    {next : Fd → ExceptT ReapError Code Unit}
    (later : ∀ fd w', fd ≠ parent → Untouched parent p w' → (next fd).run.Holds
      (rivalled root git) (Safely root parent aside expected p) w'
      fun r w'' => Judged root parent aside expected r w'') :
    (Program.attempt (openDirAt parent name) wrap >>= next).run.Holds (rivalled root git)
      (Safely root parent aside expected p) w
      fun r w' => Judged root parent aside expected r w' := by
  apply holds_attempt_bind
  apply holds_perform
  intro r w₁ took
  have untouched₁ := untouched.call took trivial nofun
  refine ⟨untouched₁.safely, ?_, fun e _ => untouched₁.judged _⟩
  rintro fd rfl
  have own : fd ≠ parent := by
    rintro rfl
    have free := (opened_call took).1
    rw [untouched.bound] at free
    cases free
  exact later fd w₁ own untouched₁

theorem judges_removal (untouched : Untouched parent p w) (name : String) (descriptors : Nat) :
    (removeVerifiedRelative root parent name aside path expected descriptors).run.Holds
      (rivalled root git) (Safely root parent aside expected p) w
      fun r w' => Judged root parent aside expected r w' := by
  apply judges_open untouched
  intro fd w₁ own untouched₁
  apply holds_try
  apply holds_ensuring
  apply holds_mono (verifies untouched₁ fd) fun _ held => held
  rintro r w₂ ⟨untouched₂, -⟩
  apply holds_perform
  intro u w₃ took₃
  have untouched₃ := untouched₂.call took₃ trivial (by
    rintro ⟨⟩
    exact own rfl)
  refine ⟨untouched₃.safely, fun _ _ => ?_, fun e _ => untouched₃.judged e⟩
  apply holds_attempt_bind
  apply holds_perform
  intro r₄ w₄ took₄
  have untouched₄ := untouched₃.call took₄ trivial nofun
  refine ⟨untouched₄.safely, fun _ _ => ?_, fun e _ => untouched₄.judged _⟩
  apply judges_open untouched₄
  intro q w₅ own₅ untouched₅
  exact judges_holding untouched₅ own₅ descriptors

theorem removal_safely {name : String} {descriptors : Nat}
    {y : Code (Except ReapError Unit)} (started : w.trace = [])
    (bound : w.tree.fds parent = some p)
    (reaches : Reaches (rivalled root git)
      (removeVerifiedRelative root parent name aside path expected descriptors).run w y w') :
    Safely root parent aside expected p w' ∧
      ∀ result, y = pure result → Judged root parent aside expected result w' := by
  have untouched : Untouched parent p w := by
    refine ⟨?_, ?_, bound⟩ <;> rw [started] <;> exact nofun
  exact reaches.holds untouched.safely (judges_removal untouched name descriptors)

/-- A removal is safe exactly in the runs where every stat after something was removed finds the
directory gone. -/
theorem removeVerifiedRelative_safe_iff {name : String} {descriptors : Nat}
    {result : Except ReapError Unit} (started : w.trace = []) (bound : w.tree.fds parent = some p)
    (returned : Reaches (rivalled root git)
      (removeVerifiedRelative root parent name aside path expected descriptors).run w
      (pure result) w') :
    ReapSafe root parent aside expected result w' ↔ StatsGone parent w'.trace :=
  ((removal_safely started bound returned).2 result rfl).safe_iff

end Phases

section Swap

variable {m t : Tree}

private def top : FsIdentity := ⟨1, 1⟩
private def taken : FsIdentity := ⟨1, 2⟩
private def decoy : FsIdentity := ⟨1, 3⟩
private def ours : Root := ⟨"/s", 3, 0, fun _ => false⟩
private def someGit : HardenedGit :=
  ⟨.ofText "/r" (by decide), ⟨.ofText "/r/.git" (by decide), 1, 9⟩, none⟩

private def ownDir (entries : String → Option (DirTree.Target FsIdentity)) :
    DirTree.Node FsIdentity := ⟨0, 0o700, true, entries⟩

private def entry (name : String) (target : DirTree.Target FsIdentity) :
    String → Option (DirTree.Target FsIdentity) :=
  Function.update (fun _ => none) name (some target)

private def inTree (tree : Tree) (trace : List Step) : World := ⟨tree, none, fun _ => none, trace⟩

private def start : Tree :=
  ⟨Function.update (Function.update (fun _ => none) top (some (ownDir (entry "w" (.dir taken)))))
      taken (some (ownDir (entry "f" .other))),
    Function.update (fun _ => none) 3 (some top)⟩

private def renamed : Tree :=
  ((start.bind 4 (some taken)).bind 4 none).setNode top (ownDir (Function.update
    (Function.update (entry "w" (.dir taken)) "w" none) "q" (some (.dir taken))))

private def reopened : Tree := renamed.bind 4 (some taken)

private def cleared : Tree :=
  reopened.setNode taken (ownDir (Function.update (entry "f" .other) "f" none))

private def clearedSteps : List Step :=
  let first := start.bind 4 (some taken)
  [⟨.fs (.openDirAt 3 "w"), .ok 4, start⟩, ⟨.fs (.fstat 4), .ok ⟨taken, 0, 0o700, 2⟩, first⟩,
    ⟨.fs (.close 4), (), first⟩, ⟨.fs (.renameNoReplace 3 "w" "q"), .ok (), first.bind 4 none⟩,
    ⟨.fs (.openDirAt 3 "q"), .ok 4, renamed⟩,
    ⟨.fs (.fstat 4), .ok ⟨taken, 0, 0o700, 2⟩, reopened⟩,
    ⟨.fs (.readDir 4), .ok [⟨"f", .other⟩], reopened⟩,
    ⟨.fs (.unlinkAt 4 "f"), .ok (), reopened⟩]

private theorem fs_step {α : Type} {tree : Tree} {trace : List Step} {c : DirTree.Call}
    {r : c.Answer FsIdentity} {next : Call.Answer (.fs c) → Code α} {y : Code α} {z : World}
    (others : Interferes tree m) (performs : Performs 0 m c r t)
    (later : Reaches (rivalled ours someGit) (next r) (inTree t (trace ++ [⟨.fs c, r, m⟩])) y z) :
    Reaches (rivalled ours someGit) (.call (.fs c) next) (inTree tree trace) y z :=
  .called ⟨inTree m trace, ⟨others, rfl⟩, inTree t trace, ⟨t, performs, rfl⟩, rfl⟩ later

private theorem step_alone {α : Type} {tree : Tree} {trace : List Step} {c : DirTree.Call}
    {r : c.Answer FsIdentity} {next : Call.Answer (.fs c) → Code α} {y : Code α} {z : World}
    (performs : Performs 0 tree c r t)
    (later : Reaches (rivalled ours someGit) (next r) (inTree t (trace ++ [⟨.fs c, r, tree⟩])) y z) :
    Reaches (rivalled ours someGit) (.call (.fs c) next) (inTree tree trace) y z :=
  fs_step .refl performs later

private def endedSteps (m t : Tree) (st : DirTree.Stat FsIdentity) : List Step :=
  clearedSteps ++ [⟨.fs (.rmdirAt 3 "q"), .ok (), m⟩, ⟨.fs (.fstat 4), .ok st, t⟩,
    ⟨.fs (.close 4), (), t⟩]

private theorem removal_run (st : DirTree.Stat FsIdentity) {result : Except ReapError Unit}
    (others : Interferes cleared m) (removed : Performs 0 m (.rmdirAt 3 "q") (.ok ()) t)
    (stated : Performs 0 t (.fstat 4) (.ok st) t)
    (told : Fallible.refuseIf (¬ st.nlink = 0) (.unproven "/s/w" (linksRemain st.nlink)) = result) :
    Reaches (rivalled ours someGit)
      (removeVerifiedRelative ours 3 "w" "q" "/s/w" taken 8).run (inTree start []) (pure result)
      (inTree (t.bind 4 none) (endedSteps m t st)) := by
  refine step_alone (c := .openDirAt 3 "w") (r := .ok 4)
    (.inl ⟨top, _, taken, 4, ⟨rfl, rfl⟩, rfl, nofun, rfl, rfl, rfl⟩) ?_
  refine step_alone (c := .fstat 4) (r := .ok ⟨taken, 0, 0o700, 2⟩)
    (.inl ⟨rfl, taken, _, _, ⟨rfl, rfl⟩, rfl, rfl, rfl, rfl, by decide⟩) ?_
  refine step_alone (c := .close 4) (r := ()) (.inl rfl) ?_
  refine step_alone (c := .renameNoReplace 3 "w" "q") (r := .ok ())
    (.inl ⟨rfl, top, _, _, ⟨rfl, rfl⟩, rfl, rfl, rfl⟩) ?_
  refine step_alone (c := .openDirAt 3 "q") (t := reopened) (r := .ok 4)
    (.inl ⟨top, _, taken, 4, ⟨rfl, rfl⟩, rfl, nofun, rfl, rfl, rfl⟩) ?_
  refine step_alone (c := .fstat 4) (r := .ok ⟨taken, 0, 0o700, 2⟩)
    (.inl ⟨rfl, taken, _, _, ⟨rfl, rfl⟩, rfl, rfl, rfl, rfl, by decide⟩) ?_
  refine step_alone (c := .readDir 4) (r := .ok [⟨"f", .other⟩]) (.inl ⟨rfl, _, rfl⟩) ?_
  refine step_alone (c := .unlinkAt 4 "f") (t := cleared) (r := .ok ())
    (.inl ⟨rfl, taken, _, ⟨rfl, rfl⟩, rfl, rfl⟩) ?_
  refine fs_step others removed ?_
  refine step_alone (c := .fstat 4) (r := .ok st) stated ?_
  rw [← told]
  exact step_alone (c := .close 4) (r := ()) (.inl rfl) .here

/-- Where nobody else acts, the directory is gone. -/
theorem removal_alone_safe : ∃ w', Reaches (rivalled ours someGit)
      (removeVerifiedRelative ours 3 "w" "q" "/s/w" taken 8).run (inTree start []) (pure (.ok ()))
      w' ∧
    StatsGone 3 w'.trace ∧ ReapSafe ours 3 "q" taken (.ok ()) w' := by
  have reaches := removal_run ⟨taken, 0, 0o700, 0⟩ .refl
    (.inl ⟨rfl, top, _, taken, _, ⟨rfl, rfl⟩, rfl, rfl, fun name => ?_, rfl⟩)
    (.inl ⟨rfl, taken, _, _, ⟨rfl, rfl⟩, rfl, rfl, rfl, rfl, by decide⟩) rfl
  · have stats := ((removal_safely rfl rfl reaches).2 _ rfl).truthful.mp nofun
    exact ⟨_, reaches, stats, (removeVerifiedRelative_safe_iff rfl rfl reaches).mpr stats⟩
  · change Function.update (entry "f" .other) "f" none name = none
    by_cases same : name = "f"
    · rw [same, Function.update_self]
    · rw [Function.update_of_ne same]
      exact Function.update_of_ne same _ _

private def swapped : Tree :=
  (cleared.setNode decoy (ownDir fun _ => none)).setNode top
    (ownDir (Function.update (entry "q" (.dir decoy)) "away" (some (.dir taken))))

private theorem swapped_others : Interferes cleared swapped := by
  have first : Interferes cleared (cleared.setNode decoy (ownDir fun _ => none)) :=
    Interferes.setNode nofun
  refine first.trans (Interferes.setNode ?_)
  rintro node ⟨⟩
  rfl

/-- A file of the directory was removed, and the answer is that nothing was. -/
theorem removal_swapped_unsafe : ∃ w', Reaches (rivalled ours someGit)
      (removeVerifiedRelative ours 3 "w" "q" "/s/w" taken 8).run (inTree start [])
      (pure (.error (.unproven "/s/w" (linksRemain 2)))) w' ∧
    ¬ ReapSafe ours 3 "q" taken (.error (.unproven "/s/w" (linksRemain 2))) w' := by
  have reaches := removal_run ⟨taken, 0, 0o700, 2⟩ swapped_others
    (.inl ⟨rfl, top, _, decoy, _, ⟨rfl, rfl⟩, rfl, rfl, fun _ => rfl, rfl⟩)
    (.inl ⟨rfl, taken, _, _, ⟨rfl, rfl⟩, rfl, rfl, rfl, rfl, by decide⟩) rfl
  refine ⟨_, reaches, ?_⟩
  intro safe
  refine safe.truthful _ rfl trivial ⟨.fs (.unlinkAt 4 "f"), .ok (), reopened⟩ ?_
    ⟨4, "f", .file, by decide⟩
  exact List.mem_append_left _ (by simp [clearedSteps])

end Swap

end O7Formal.Worktree
