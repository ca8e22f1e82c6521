import O7Formal.Dispatch.Admission

/-! Which run ids are taken for one component of a path, and which of them name one directory. -/

namespace O7Formal.Dispatch

open Fallible
open FileTree (Component Files Location components join names parts up)

/-- Neither empty nor `.` nor `..`, and without a separator. -/
structure PlainComponent (name : List Char) : Prop where
  nonempty : name ≠ []
  notDot : name ≠ ['.']
  notUp : name ≠ ['.', '.']
  whole : '/' ∉ name

instance (name : List Char) : Decidable (PlainComponent name) :=
  decidable_of_iff (name ≠ [] ∧ name ≠ ['.'] ∧ name ≠ ['.', '.'] ∧ '/' ∉ name)
    ⟨fun ⟨nonempty, notDot, notUp, whole⟩ => ⟨nonempty, notDot, notUp, whole⟩,
      fun ⟨nonempty, notDot, notUp, whole⟩ => ⟨nonempty, notDot, notUp, whole⟩⟩

structure Spells (id : String) (name : List Char) : Prop where
  plain : PlainComponent name
  shape : id.toList = name ∨
    ∃ tail, id.toList = name ++ '/' :: tail ∧ ∀ part ∈ parts tail, FileTree.Stays part

def Dressed (id : String) : Prop := ∃ name, Spells id name ∧ id.toList ≠ name

theorem PlainComponent.moves {name : List Char} (plain : PlainComponent name) :
    ¬ FileTree.Stays name := by
  rintro (empty | dot)
  · exact plain.nonempty empty
  · exact plain.notDot dot

theorem PlainComponent.parts_eq {name : List Char} (plain : PlainComponent name) :
    parts name = [name] :=
  List.splitOn_eq_singleton plain.whole

theorem Spells.parts_eq {id : String} {name : List Char} (spells : Spells id name) :
    ∃ rest, parts id.toList = name :: rest ∧ ∀ part ∈ rest, FileTree.Stays part := by
  rcases spells.shape with same | ⟨tail, same, stay⟩
  · exact ⟨[], by rw [same, spells.plain.parts_eq], nofun⟩
  · refine ⟨parts tail, ?_, stay⟩
    rw [same]
    exact List.splitOn_append_cons_self_of_not_mem spells.plain.whole _

theorem Spells.names_eq {id : String} {name : List Char} (spells : Spells id name) :
    names (parts id.toList) = [name] := by
  rcases spells.parts_eq with ⟨rest, split, stay⟩
  rw [split, FileTree.names_moves spells.plain.moves, FileTree.names_of_stays stay]

theorem Spells.unique {id : String} {name other : List Char} (one : Spells id name)
    (two : Spells id other) : name = other :=
  List.singleton_injective (one.names_eq.symm.trans two.names_eq)

theorem Spells.head {id : String} {name : List Char} (spells : Spells id name) :
    (parts id.toList).head? = some name := by
  rcases spells.parts_eq with ⟨rest, split, _⟩
  rw [split, List.head?_cons]

theorem spells_of_confined {id : String} (confined : isConfinedRunIdComponent id = true) :
    ∃ name, Spells id name := by
  simp only [isConfinedRunIdComponent, Bool.and_eq_true, decide_eq_true_eq] at confined
  rcases confined with ⟨⟨rooted, dotted⟩, single⟩
  split at single
  case h_2 => cases single
  case h_1 name named =>
  have above : name ≠ up := of_decide_eq_true single
  have plain : ∀ first rest, parts id.toList = first :: rest → '/' ∉ first →
      PlainComponent first ∧ first = name ∧ ∀ part ∈ rest, FileTree.Stays part := by
    intro first rest split whole
    rw [split] at rooted dotted named
    have moves : ¬ FileTree.Stays first := by
      rintro (empty | dot)
      · exact rooted (congrArg some empty)
      · exact dotted (congrArg some dot)
    rw [FileTree.names_moves moves] at named
    rcases List.cons.inj named with ⟨same, none⟩
    refine ⟨⟨fun empty => moves (.inl empty), fun dot => moves (.inr dot), ?_, whole⟩, same,
      fun part member => FileTree.stays_of_names none member⟩
    rw [same]
    exact above
  by_cases separated : '/' ∈ id.toList
  · rcases List.eq_append_cons_of_mem separated with ⟨first, tail, split, whole⟩
    have divided : parts id.toList = first :: parts tail := by
      rw [split]
      exact List.splitOn_append_cons_self_of_not_mem whole _
    rcases plain first _ divided whole with ⟨component, _, stay⟩
    exact ⟨first, component, .inr ⟨tail, split, stay⟩⟩
  · have undivided : parts id.toList = [id.toList] := List.splitOn_eq_singleton separated
    exact ⟨id.toList, (plain _ _ undivided separated).1, .inl rfl⟩

theorem Spells.confined {id : String} {name : List Char} (spells : Spells id name) :
    isConfinedRunIdComponent id = true := by
  rw [isConfinedRunIdComponent, spells.head, spells.names_eq]
  simp [spells.plain.nonempty, spells.plain.notDot, FileTree.up, FileTree.PathChar.dot,
    spells.plain.notUp]

theorem PlainComponent.spells {id : String} (plain : PlainComponent id.toList) :
    Spells id id.toList := ⟨plain, .inl rfl⟩

theorem Spells.relative {id : String} {name : List Char} (spells : Spells id name) :
    FileTree.isAbsolute id.toList = false := by
  apply FileTree.relative_of_head
  rw [spells.head]
  exact fun empty => spells.plain.nonempty (Option.some.inj empty)

theorem Spells.notDotted {id : String} {name : List Char} (spells : Spells id name) :
    (parts id.toList).head? ≠ some [FileTree.PathChar.dot] := by
  rw [spells.head]
  exact fun dot => spells.plain.notDot (Option.some.inj dot)

theorem Spells.components_eq {id : String} {name : List Char} (spells : Spells id name) :
    components id.toList = [.normal name] := by
  have moves : name ≠ up := spells.plain.notUp
  rw [components, if_neg (by simp [spells.relative]), if_neg spells.notDotted, spells.names_eq]
  simp [Component.ofPart, moves]

theorem confined_iff_components {id : String} :
    isConfinedRunIdComponent id = true ↔ ∃ name, components id.toList = [.normal name] := by
  constructor
  · intro confined
    rcases spells_of_confined confined with ⟨name, spells⟩
    exact ⟨name, spells.components_eq⟩
  · rintro ⟨name, single⟩
    rw [components] at single
    split_ifs at single with rooted dotted
    · cases single
    · cases single
    rcases List.map_eq_singleton_iff.mp single with ⟨part, named, normal⟩
    have moves : part ≠ up := by
      intro same
      rw [Component.ofPart, if_pos same] at normal
      cases normal
    have present : id.toList ≠ [] := by
      intro empty
      rw [empty] at named
      cases named
    have first : (parts id.toList).head? ≠ some [] :=
      fun empty => rooted (FileTree.absolute_of_head present empty)
    have plain : (parts id.toList).head? ≠ some ['.'] := dotted
    rw [isConfinedRunIdComponent, named]
    simp [first, plain, moves]

def ChildOf (base path name : List Char) : Prop :=
  components path = components base ++ [.normal name]

def NamedApart (base : List Char) (a b : String) : Prop :=
  ∃ x y, x ≠ y ∧ ChildOf base (join base a.toList) x ∧ ChildOf base (join base b.toList) y

def Aliased (a b : String) : Prop := a ≠ b ∧ ∃ name, Spells a name ∧ Spells b name

theorem Spells.child {id : String} {name : List Char} (spells : Spells id name)
    (base : List Char) : ChildOf base (join base id.toList) name := by
  rw [ChildOf, FileTree.components_join spells.relative spells.notDotted, spells.components_eq]

theorem ChildOf.unique {base path x y : List Char} (one : ChildOf base path x)
    (two : ChildOf base path y) : x = y := by
  have same := List.append_cancel_left (one.symm.trans two)
  cases same
  rfl

theorem namedApart_iff {base : List Char} {a b : String} {x y : List Char} (first : Spells a x)
    (second : Spells b y) : NamedApart base a b ↔ x ≠ y := by
  constructor
  · rintro ⟨x', y', apart, one, two⟩
    rw [(first.child base).unique one, (second.child base).unique two]
    exact apart
  · intro apart
    exact ⟨x, y, apart, first.child base, second.child base⟩

theorem confined_plain_iff {id : String} :
    (isConfinedRunIdComponent id = true ↔ PlainComponent id.toList) ↔ ¬ Dressed id := by
  constructor
  · rintro same ⟨name, spells, dressed⟩
    have plain := (same.mp spells.confined).spells
    exact dressed (plain.unique spells)
  · intro bare
    refine ⟨fun confined => ?_, fun plain => plain.spells.confined⟩
    rcases spells_of_confined confined with ⟨name, spells⟩
    have same : id.toList = name := by
      by_contra dressed
      exact bare ⟨name, spells, dressed⟩
    rw [same]
    exact spells.plain

theorem apart_iff {base : List Char} {a b : String} :
    (a ≠ b → isConfinedRunIdComponent a = true → isConfinedRunIdComponent b = true →
      NamedApart base a b) ↔ ¬ Aliased a b := by
  constructor
  · rintro apart ⟨differ, name, first, second⟩
    exact (namedApart_iff first second).mp (apart differ first.confined second.confined) rfl
  · intro single differ confinedA confinedB
    rcases spells_of_confined confinedA with ⟨x, first⟩
    rcases spells_of_confined confinedB with ⟨y, second⟩
    refine (namedApart_iff first second).mpr ?_
    rintro rfl
    exact single ⟨differ, x, first, second⟩

theorem childRecordDir_ok_iff {env : Setting} {store : RunStore} {repo : ConfiguredRepo}
    {runId : RunId} {dir : List Char} : childRecordDir env store repo runId = .ok dir ↔
      isConfinedRunIdComponent runId = true ∧ ∃ target, repo.childTarget = .ok target ∧
        join (join store.runsDir.toList target.toList) runId.toList = dir := by
  simp only [childRecordDir, bind_ok_iff, refuseIf_ok_iff, exists_const, Bool.not_eq_false,
    pure_ok_iff]

theorem opened_last {store : RunStore} {base name : List Char} {here : Location Char}
    (plain : PlainComponent name) (opened : openRecordDir store (join base name) = .ok here) :
    here.getLast? = some name :=
  FileTree.lookup_last plain.moves plain.notUp plain.parts_eq (openRecordDir_ok_iff.mp opened).2.1

theorem records_apart {env : Setting} {store : RunStore} {repo : ConfiguredRepo} {a b : RunId}
    {dirA dirB : List Char} {here : Location Char} (differ : a ≠ b) (bareA : ¬ Dressed a)
    (bareB : ¬ Dressed b) (first : childRecordDir env store repo a = .ok dirA)
    (second : childRecordDir env store repo b = .ok dirB)
    (opened : openRecordDir store dirA = .ok here) : openRecordDir store dirB ≠ .ok here := by
  intro again
  rcases childRecordDir_ok_iff.mp first with ⟨confinedA, target, found, rfl⟩
  rcases childRecordDir_ok_iff.mp second with ⟨confinedB, _, _, rfl⟩
  have endsA := opened_last ((confined_plain_iff.mpr bareA).mp confinedA) opened
  have endsB := opened_last ((confined_plain_iff.mpr bareB).mp confinedB) again
  exact differ (String.toList_injective (Option.some.inj (endsA.symm.trans endsB)))

/-- The check accepts a plain component, and nothing else but one with a separator behind it; two
accepted ids name two children of a directory unless both come to one name; and without such a
separator they never open one record. -/
theorem run_ids_apart_iff (base : List Char) (a b : RunId) :
    ((isConfinedRunIdComponent a = true ↔ PlainComponent a.toList) ↔ ¬ Dressed a) ∧
    ((a ≠ b → isConfinedRunIdComponent a = true → isConfinedRunIdComponent b = true →
      NamedApart base a b) ↔ ¬ Aliased a b) ∧
    ∀ (env : Setting) (store : RunStore) (repo : ConfiguredRepo) (dirA dirB : List Char)
      (here : Location Char), a ≠ b → ¬ Dressed a → ¬ Dressed b →
      childRecordDir env store repo a = .ok dirA → childRecordDir env store repo b = .ok dirB →
      openRecordDir store dirA = .ok here → openRecordDir store dirB ≠ .ok here :=
  ⟨confined_plain_iff, apart_iff, fun _ _ _ _ _ _ => records_apart⟩

namespace AliasSample

def files : Files Char := fun location =>
  if location = [] ∨ location = [['r']] ∨ location = [['r'], ['x']] then some .dir else none

def store : RunStore where
  files := files
  cwd := []
  runsDir := "/"
  readers := ⟨fun _ => .ok [], fun _ => .error "", fun _ => .error ""⟩

theorem bare : Spells "x" ['x'] := ⟨by decide, .inl rfl⟩

theorem dressed : Spells "x/" ['x'] := ⟨by decide, .inr ⟨[], rfl, by decide⟩⟩

end AliasSample

open AliasSample in
/-- `x` and `x/` are both accepted, and are one directory. -/
theorem run_ids_alias :
    ¬ (∀ id, isConfinedRunIdComponent id = true ↔ PlainComponent id.toList) ∧
    ¬ (∀ (base : List Char) (a b : RunId), a ≠ b → isConfinedRunIdComponent a = true →
      isConfinedRunIdComponent b = true → NamedApart base a b) ∧
    openRecordDir store (join ['/', 'r'] "x".toList) = .ok [['r'], ['x']] ∧
    openRecordDir store (join ['/', 'r'] "x/".toList) = .ok [['r'], ['x']] := by
  refine ⟨fun exact => ?_, fun apart => ?_, by decide, by decide⟩
  · exact ((exact "x/").mp dressed.confined).whole (by decide)
  · exact apart_iff.mp (apart ['/', 'r'] "x" "x/") ⟨by decide, ['x'], bare, dressed⟩

end O7Formal.Dispatch
