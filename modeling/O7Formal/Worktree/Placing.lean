import O7Formal.Worktree.Failures

/-! The directory of a creation from the call that makes it on: nothing that is done to it, or below it,
takes it out of its place. -/

namespace O7Formal.Worktree

open DirTree (Fd Node)
open Program (holds_attempt holds_attempt_bind holds_ensuring holds_mono holds_perform)

section Placing

variable {root : Root} {name : String} {t t' : Tree} {rootId dirId : FsIdentity}

theorem Below.mono {id other : FsIdentity}
    (same : ∀ id' node', t'.nodes id' = some node' →
      ∃ node, t.nodes id' = some node ∧ node.entries = node'.entries)
    (below : Below t' id other) : Below t id other := by
  induction below with
  | here => exact .here
  | entry _ found named ih =>
      rcases same _ _ found with ⟨node, found', entries⟩
      exact .entry ih found' (entries ▸ named)

/-- The root is ours and holds the directory, which is ours, with bits of a kind, and the root is not
below it. -/
structure Placed (root : Root) (name : String) (bits : UInt32 → Prop) (rootId dirId : FsIdentity)
    (t : Tree) : Prop where
  rootDir : ∃ node, t.At root.fd rootId node ∧ Ours root node ∧
    node.entries name = some (.dir dirId)
  dir : ∃ node, t.nodes dirId = some node ∧ node.uid = root.euid ∧ bits node.mode
  apart : ¬ Below t dirId rootId

variable {bits : UInt32 → Prop}

theorem Placed.named (placed : Placed root name bits rootId dirId t) {id target : FsIdentity}
    {node : Node FsIdentity} (here : t.At root.fd id node)
    (entry : node.entries name = some (.dir target)) : id = rootId ∧ target = dirId := by
  rcases placed.rootDir with ⟨node', here', -, entry'⟩
  rcases here.unique here' with ⟨same, rfl⟩
  rw [entry] at entry'
  cases entry'
  exact ⟨same, rfl⟩

theorem Placed.distinct (placed : Placed root name bits rootId dirId t) : dirId ≠ rootId := by
  rintro rfl
  exact placed.apart .here

theorem Placed.bind (placed : Placed root name bits rootId dirId t) {fd : Fd}
    (other : fd ≠ root.fd) (target : Option FsIdentity) :
    Placed root name bits rootId dirId (t.bind fd target) := by
  rcases placed.rootDir with ⟨node, ⟨bound, found⟩, ours, entry⟩
  refine ⟨⟨node, ⟨?_, found⟩, ours, entry⟩, placed.dir, ?_⟩
  · exact (t.bind_of_ne other.symm target).trans bound
  · intro below
    refine placed.apart (Below.mono ?_ below)
    intro _ node' found'
    exact ⟨node', found', rfl⟩

theorem Placed.setMode (placed : Placed root name bits rootId dirId t) {node : Node FsIdentity}
    (found : t.nodes dirId = some node) {mode : UInt32} {bits' : UInt32 → Prop} (fits : bits' mode) :
    Placed root name bits' rootId dirId (t.setNode dirId { node with mode := mode }) := by
  rcases placed.rootDir with ⟨rootNode, ⟨bound, found'⟩, ours, entry⟩
  rcases placed.dir with ⟨node', same, owner, -⟩
  rw [found] at same
  cases same
  refine ⟨⟨rootNode, ⟨bound, ?_⟩, ours, entry⟩, ⟨_, t.setNode_self _ _, owner, fits⟩, ?_⟩
  · exact (t.setNode_of_ne placed.distinct.symm _).trans found'
  · intro below
    refine placed.apart (Below.mono ?_ below)
    intro id node' here
    by_cases own : id = dirId
    · subst own
      rw [t.setNode_self] at here
      cases here
      exact ⟨node, found, rfl⟩
    · rw [t.setNode_of_ne own] at here
      exact ⟨node', here, rfl⟩

theorem Placed.builds (placed : Placed root name bits rootId dirId t) (builds : Builds t dirId t') :
    Placed root name bits rootId dirId t' := by
  rcases placed.rootDir with ⟨node, ⟨bound, found⟩, ours, entry⟩
  rcases placed.dir with ⟨dirNode, dirFound, owner, fits⟩
  have busy : ¬ t.Free rootId := fun free => free.2 root.fd bound
  refine ⟨⟨node, ⟨builds.fds ▸ bound, ?_⟩, ours, entry⟩, ?_, ?_⟩
  · exact (builds.outside rootId node placed.apart found).resolve_right busy
  · rcases builds.own dirNode dirFound with ⟨entries, found'⟩
    exact ⟨_, found', owner, fits⟩
  · intro below
    exact (builds.fresh rootId below).elim placed.apart busy

theorem placed_mkdir {node : Node FsIdentity} (here : t.At root.fd rootId node)
    (ours : Ours root node) {mode : UInt32}
    (performs : DirTree.Performs root.euid t (.mkdirAt root.fd name mode) (.ok ()) t') :
    ∃ dirId, Placed root name (fun _ => True) rootId dirId t' := by
  rcases performs with ⟨-, id, node', new, masked, here', -, free, -, rfl⟩ | ⟨-, refused | faults⟩
  · rcases here.unique here' with ⟨rfl, rfl⟩
    have distinct : rootId ≠ new := by
      rintro rfl
      exact free.2 root.fd here'.1
    have rootNode : (node.setEntry name (some (.dir new))).entries name = some (.dir new) :=
      Function.update_self _ _ _
    refine ⟨new, ⟨node.setEntry name (some (.dir new)), ⟨here'.1, ?_⟩, ours, rootNode⟩,
      ⟨_, DirTree.Tree.setNode_self _ _ _, rfl, trivial⟩, ?_⟩
    · exact (DirTree.Tree.setNode_of_ne _ distinct _).trans (t.setNode_self _ _)
    · have only : ∀ other, Below ((t.setNode rootId
          (node.setEntry name (some (.dir new)))).setNode new
          ⟨root.euid, masked, true, fun _ => none⟩) new other → other = new := by
        intro other below
        induction below with
        | here => rfl
        | entry _ found named ih =>
            subst ih
            rw [DirTree.Tree.setNode_self] at found
            cases found
            cases named
      intro below
      exact distinct (only rootId below)
  · cases refused.1
  · rcases faults with ⟨e, same, -⟩
    cases same

end Placing

section Making

variable {root : Root} {git : HardenedGit} {name : String} {s w : World}
variable {bits : UInt32 → Prop} {rootId dirId : FsIdentity}

structure Early (s w : World) : Prop where
  tree : w.tree = s.tree
  state : w.state = s.state
  temps : w.temps = s.temps
  unmade : ∀ step ∈ w.trace, ¬ step.Makes ∧ ¬ step.BuildFails

structure Made (root : Root) (name : String) (s : World) (bits : UInt32 → Prop)
    (rootId dirId : FsIdentity) (w : World) : Prop where
  placed : Placed root name bits rootId dirId w.tree
  state : w.state = s.state
  temps : w.temps = s.temps
  made : ∃ step ∈ w.trace, step.Makes
  unbroken : ∀ step ∈ w.trace, ¬ step.BuildFails

theorem mem_note {c : Call} {r : c.Answer} {tree : Tree} {fits : Step → Prop}
    (past : ∀ step ∈ w.trace, fits step) (now : fits ⟨c, r, tree⟩) :
    ∀ step ∈ (w.note c r tree).trace, fits step := by
  intro step member
  rcases List.mem_append.mp member with member | member
  · exact past step member
  · rcases List.mem_singleton.mp member with rfl
    exact now

theorem exists_note {c : Call} {r : c.Answer} {tree : Tree} {fits : Step → Prop}
    (past : ∃ step ∈ w.trace, fits step) : ∃ step ∈ (w.note c r tree).trace, fits step := by
  rcases past with ⟨step, member, fit⟩
  exact ⟨step, List.mem_append_left _ member, fit⟩

theorem steady_early : Steady (Early s) := by
  intro c r w looks early
  exact ⟨early.tree, early.state, early.temps, mem_note early.unmade (looks_quiet looks)⟩

theorem rooted_early (absent : Absent root name s.tree) : Rooted root (Early s) := by
  intro w early
  rcases absent with ⟨id, node, here, ours, -⟩
  exact ⟨id, node, early.tree ▸ here, ours⟩

theorem steady_made : Steady (Made root name s bits rootId dirId) := by
  intro c r w looks made
  exact ⟨made.placed, made.state, made.temps, exists_note made.made,
    mem_note made.unbroken (looks_quiet looks).2⟩

theorem rooted_made : Rooted root (Made root name s bits rootId dirId) := by
  intro w made
  rcases made.placed.rootDir with ⟨node, here, ours, -⟩
  exact ⟨rootId, node, here, ours⟩

theorem Made.call {c : DirTree.Call} {r : c.Answer FsIdentity} {t : Tree}
    {bits' : UInt32 → Prop} (made : Made root name s bits rootId dirId w)
    (placed : Placed root name bits' rootId dirId t) :
    Made root name s bits' rootId dirId (({ w with tree := t } : World).note (.fs c) r w.tree) :=
  ⟨placed, made.state, made.temps, exists_note made.made, mem_note made.unbroken id⟩

theorem makes_dir (absent : Absent root name s.tree) (early : Early s w) {w' : World}
    {r : Except Errno Unit} {mode : UInt32}
    (took : takes root git w (.fs (.mkdirAt root.fd name mode)) r w') :
    (r = .ok () ∧ ∃ rootId dirId, Made root name s (fun _ => True) rootId dirId w') ∨
      (∃ e, r = .error e) ∧ Early s w' ∧ Failed root w' := by
  rcases took with ⟨v, ⟨t, performs, rfl⟩, rfl⟩
  rcases absent with ⟨rootId, node, here, ours, none⟩
  rw [← early.tree] at here
  cases r with
  | ok u =>
      rcases placed_mkdir here ours performs with ⟨dirId, placed⟩
      exact .inl ⟨rfl, rootId, dirId, placed, early.state, early.temps,
        ⟨_, List.mem_append_right _ (List.mem_singleton.mpr rfl), rfl⟩,
        mem_note (fun step member => (early.unmade step member).2) id⟩
  | error e =>
      rcases performs with ⟨same, -⟩ | ⟨rfl, ⟨-, id', node', here', some⟩ | faults⟩
      · cases same
      · rcases here.unique here' with ⟨-, rfl⟩
        exact absurd none some
      · refine .inr ⟨⟨e, rfl⟩, ⟨early.tree, early.state, early.temps, ?_⟩, failed_snoc faults⟩
        exact mem_note early.unmade ⟨nofun, id⟩

theorem opens_dir (made : Made root name s bits rootId dirId w) {w' : World}
    {r : Except Errno Fd} (took : takes root git w (.fs (.openDirAt root.fd name)) r w') :
    Made root name s bits rootId dirId w' ∧
      ((∃ fd, r = .ok fd ∧ fd ≠ root.fd ∧ w'.tree.fds fd = some dirId) ∨
        (∃ e, r = .error e) ∧ Failed root w') := by
  rcases took with ⟨v, ⟨t, performs, rfl⟩, rfl⟩
  rcases made.placed.rootDir with ⟨node, here, -, entry⟩
  rcases performs with ⟨id, node', child, new, here', entry', -, free, rfl, rfl⟩ |
    ⟨rfl, ⟨id, node', here', ⟨-, none⟩ | ⟨-, other⟩⟩ | faults⟩
  · have own : new ≠ root.fd := by
      rintro rfl
      rw [here.1] at free
      cases free
    rcases made.placed.named here' entry' with ⟨-, rfl⟩
    exact ⟨made.call (made.placed.bind own _),
      .inl ⟨new, rfl, own, DirTree.Tree.bind_self _ _ _⟩⟩
  · rcases here.unique here' with ⟨-, rfl⟩
    rw [entry] at none
    cases none
  · rcases here.unique here' with ⟨-, rfl⟩
    rw [entry] at other
    cases other
  · rcases faults with ⟨e, rfl, faulty⟩
    exact ⟨made.call made.placed, .inr ⟨⟨e, rfl⟩, failed_snoc ⟨e, rfl, faulty⟩⟩⟩

structure MadeAt (root : Root) (name : String) (s : World) (bits : UInt32 → Prop)
    (rootId dirId : FsIdentity) (fd : Fd) (w : World) : Prop where
  made : Made root name s bits rootId dirId w
  opened : w.tree.fds fd = some dirId

theorem steady_madeAt {fd : Fd} : Steady (MadeAt root name s bits rootId dirId fd) :=
  fun c r w looks at_ => ⟨steady_made c r w looks at_.made, at_.opened⟩

def Tight (mode : UInt32) : Prop := mode &&& 0o777 = ownerOnly

theorem sets_mode {fd : Fd} (at_ : MadeAt root name s bits rootId dirId fd w) {w' : World}
    {r : Except Errno Unit} (took : takes root git w (.fs (.fchmod fd ownerOnly)) r w') :
    (r = .ok () ∧ MadeAt root name s Tight rootId dirId fd w') ∨
      (∃ e, r = .error e) ∧ Made root name s bits rootId dirId w' ∧ Failed root w' := by
  rcases took with ⟨v, ⟨t, performs, rfl⟩, rfl⟩
  rcases performs with ⟨rfl, id, node, here, rfl⟩ | ⟨rfl, refused | ⟨e, rfl, faulty⟩⟩
  · have own : id = dirId := by
      have bound := here.1
      rw [at_.opened] at bound
      exact (Option.some.inj bound).symm
    subst own
    have tight : ownerOnly &&& 0o777 = ownerOnly := by decide
    exact .inl ⟨rfl, at_.made.call (at_.made.placed.setMode here.2 tight), at_.opened⟩
  · cases refused
  · exact .inr ⟨⟨e, rfl⟩, at_.made.call at_.made.placed, failed_snoc ⟨e, rfl, faulty⟩⟩

theorem closes (made : Made root name s bits rootId dirId w) {fd : Fd} (own : fd ≠ root.fd)
    {w' : World} {u : Unit} (took : takes root git w (.fs (.close fd)) u w') :
    Made root name s bits rootId dirId w' := by
  rcases took with ⟨v, ⟨t, performs, rfl⟩, rfl⟩
  rw [performs.closed]
  exact made.call (made.placed.bind own _)

theorem calm_identity {fd : Fd} {full : String} :
    Calm root git (MadeAt root name s Tight rootId dirId fd) (do
      verifyRootFd root fd full
      let id ← fsIdentityOf fd full
      pure (full, id)) fun made => made = (full, dirId) := by
  have known : ∀ w, MadeAt root name s Tight rootId dirId fd w →
      ∃ node, w.tree.At fd dirId node ∧ Ours root node := by
    rintro w ⟨made, opened⟩
    rcases made.placed.dir with ⟨node, found, owner, tight⟩
    exact ⟨node, ⟨opened, found⟩, owner, tight⟩
  apply calm_bind (calm_verifyRootFd steady_madeAt fun w here => ⟨dirId, known w here⟩)
  intro _ _
  have identity : Calm root git (MadeAt root name s Tight rootId dirId fd)
      (fsIdentityOf fd full) fun id => id = dirId := by
    have stat : Calm root git (MadeAt root name s Tight rootId dirId fd)
        (Program.attempt (fstat fd) (StateRootError.io full)) fun st => st.id = dirId := by
      apply calm_stat steady_madeAt
      intro w here
      rcases known w here with ⟨node, at_, -⟩
      exact ⟨dirId, node, at_, fun st own _ _ => own⟩
    apply calm_bind stat
    rintro st rfl
    exact calm_pure rfl
  apply calm_bind identity
  rintro id rfl
  exact calm_pure rfl

def MadeSome (root : Root) (name : String) (s w : World) : Prop :=
  ∃ bits rootId dirId, Made root name s bits rootId dirId w

theorem finishes_dir {fd : Fd} (own : fd ≠ root.fd)
    (at_ : MadeAt root name s bits rootId dirId fd w) (full : String) :
    (holding fd do
      Program.attempt (ask (.fs (.fchmod fd ownerOnly))) (StateRootError.io full)
      verifyRootFd root fd full
      let id ← fsIdentityOf fd full
      pure (full, id)).run.Holds (takes root git) (fun _ => True) w fun r w' =>
        (∀ made, r = .ok made → Made root name s Tight rootId made.2 w') ∧
          ∀ e, r = .error e → Failed root w' ∧ MadeSome root name s w' := by
  apply holds_ensuring
  apply holds_attempt_bind
  apply holds_perform
  intro r w₁ took
  refine ⟨trivial, ?_, ?_⟩
  · rintro u rfl
    rcases sets_mode at_ took with ⟨-, at₁⟩ | ⟨⟨e, same⟩, -⟩
    swap
    · cases same
    apply holds_mono (calm_identity w₁ at₁) fun _ held => held
    rintro r₂ w₂ ⟨at₂, fits, failed⟩
    apply holds_perform
    intro u₃ w₃ took₃
    have made₃ := closes at₂.made own took₃
    refine ⟨trivial, ?_, ?_⟩
    · rintro made rfl
      rw [fits made rfl]
      exact made₃
    · rintro e rfl
      exact ⟨(failed e rfl).kept took₃, _, _, _, made₃⟩
  · rintro e rfl
    rcases sets_mode at_ took with ⟨same, -⟩ | ⟨-, made₁, failed₁⟩
    · cases same
    apply holds_perform
    intro u₃ w₃ took₃
    have made₃ := closes made₁ own took₃
    exact ⟨trivial, nofun, fun _ _ => ⟨failed₁.kept took₃, _, _, _, made₃⟩⟩

theorem creates_dir (absent : Absent root name s.tree) (early : Early s w) :
    (createWorktreeDir root name).run.Holds (takes root git) (fun _ => True) w fun r w' =>
      (∀ made, r = .ok made → ∃ rootId, Made root name s Tight rootId made.2 w') ∧
        ∀ e, r = .error e → Failed root w' ∧ (Early s w' ∨ MadeSome root name s w') := by
  apply calm_then (calm_reverify steady_early (rooted_early absent)) early
  swap
  · intro e w' early' failed
    exact ⟨nofun, fun _ _ => ⟨failed, .inl early'⟩⟩
  intro _ w₁ _ early₁
  apply holds_attempt_bind
  apply holds_perform
  intro r w₂ took
  refine ⟨trivial, ?_, ?_⟩
  swap
  · rintro e rfl
    rcases makes_dir absent early₁ took with ⟨same, -⟩ | ⟨-, early₂, failed⟩
    · cases same
    · exact ⟨nofun, fun _ _ => ⟨failed, .inl early₂⟩⟩
  rintro u rfl
  rcases makes_dir absent early₁ took with ⟨-, rootId, dirId, made⟩ | ⟨⟨e, same⟩, -⟩
  swap
  · cases same
  apply holds_attempt_bind
  apply holds_perform
  intro r₃ w₃ took₃
  rcases opens_dir made took₃ with ⟨made₃, ⟨fd, rfl, own, opened⟩ | ⟨⟨e, rfl⟩, failed⟩⟩
  · refine ⟨trivial, ?_, nofun⟩
    rintro _ ⟨⟩
    apply holds_mono (finishes_dir own ⟨made₃, opened⟩ _) fun _ held => held
    rintro r w' ⟨ok, error⟩
    refine ⟨fun made same => ⟨rootId, ok made same⟩, fun e same => ?_⟩
    exact ⟨(error e same).1, .inr (error e same).2⟩
  · exact ⟨trivial, nofun, fun _ _ => ⟨nofun, fun _ _ => ⟨failed, .inr ⟨_, _, _, made₃⟩⟩⟩⟩

end Making

section Building

variable {root : Root} {git : HardenedGit} {name : String} {s w w' : World}
variable {bits : UInt32 → Prop} {rootId dirId : FsIdentity}

structure Broken (root : Root) (s w : World) : Prop where
  state : w.state = s.state
  broken : ∃ step ∈ w.trace, step.BuildFails
  failed : Failed root w

theorem Made.fills {α : Type} {r : Except BuildError α}
    (made : Made root name s bits rootId dirId w) (fills : w.Fills root name r w') :
    Placed root name bits rootId dirId w'.tree ∧ w'.state = s.state ∧ w'.temps = s.temps := by
  rcases fills with ⟨id, t, ⟨rootId', node, here, entry⟩, builds, rfl, -⟩
  rcases made.placed.named here entry with ⟨-, rfl⟩
  exact ⟨made.placed.builds builds, made.state, made.temps⟩

theorem Made.built (made : Made root name s bits rootId dirId w) {c : Call} {r : c.Answer}
    (took : takes root git w c r w')
    (fills : ∀ v, w.Does root git c r v →
      Placed root name bits rootId dirId v.tree ∧ v.state = s.state ∧ v.temps = s.temps) :
    Placed root name bits rootId dirId w'.tree ∧
      (¬ Step.BuildFails ⟨c, r, w.tree⟩ → Made root name s bits rootId dirId w') ∧
      (Step.BuildFails ⟨c, r, w.tree⟩ → Step.Fails root ⟨c, r, w.tree⟩ → Broken root s w') := by
  have noted := takes_trace took
  rcases took with ⟨v, does, rfl⟩
  rcases fills v does with ⟨placed, state, temps⟩
  refine ⟨placed, fun quiet => ⟨placed, state, temps, ?_, ?_⟩, fun broken fails =>
    ⟨state, ?_, failed_snoc fails⟩⟩
  · rcases made.made with ⟨step, member, makes⟩
    rw [noted]
    exact ⟨step, List.mem_append_left _ member, makes⟩
  · intro step member
    rw [noted, List.mem_append, List.mem_singleton] at member
    rcases member with member | rfl
    · exact made.unbroken step member
    · exact quiet
  · rw [noted]
    exact ⟨_, List.mem_append_right _ (List.mem_singleton.mpr rfl), broken⟩

theorem builds_dir (made : Made root name s bits rootId dirId w) (revision : CommittedRevision) :
    (initAndWrite name revision).run.Holds (takes root git) (fun _ => True) w fun r w' =>
      (∀ summary, r = .ok summary → Made root name s bits rootId dirId w') ∧
        ∀ e, r = .error e → Placed root name bits rootId dirId w'.tree ∧ Broken root s w' := by
  apply holds_attempt_bind
  apply holds_perform
  intro r w₁ took
  rcases made.built took fun v does => made.fills does with ⟨placed, quiet, broken⟩
  refine ⟨trivial, ?_, ?_⟩
  swap
  · rintro e rfl
    exact ⟨nofun, fun _ _ => ⟨placed, broken ⟨e, rfl⟩ ⟨e, rfl⟩⟩⟩
  rintro u rfl
  have made₁ := quiet nofun
  apply holds_attempt
  apply holds_perform
  intro r₂ w₂ took₂
  rcases made₁.built took₂ fun v does => made₁.fills does with ⟨placed₂, quiet₂, broken₂⟩
  refine ⟨trivial, ?_, ?_⟩
  · rintro summary rfl
    exact ⟨fun _ _ => quiet₂ nofun, nofun⟩
  · rintro e rfl
    exact ⟨nofun, fun _ _ => ⟨placed₂, broken₂ ⟨e, rfl⟩ ⟨e, rfl⟩⟩⟩

end Building

end O7Formal.Worktree
