import O7Formal.Closure.Door
import O7Formal.Closure.Gate

/-! Whether a reduced record is of the object that a citation names. The comparison ranges over the
members of the record's own locator, so a citation that names one more is met by it as well. -/

namespace O7Formal.Closure

open Json Fallible
open Run (Sha256 standardSha256)

variable {sha256 : Sha256} {record : ValidatedArtifact sha256} {locatorKind : String}

/-- The record's locator and the citation assert the same members with the same values. -/
def SameObject (record : ValidatedArtifact sha256) (cited : AcquisitionLocator) : Prop :=
  ∃ members, record.pointer "/locator" = some (.object members) ∧
    ∀ name, members.lookup name = (cited.members.lookup name).map .string

/-- A citation of an object in a pull request, whose members but one are those of a check's or of
a head's locator. -/
def NamesOneMore (record : ValidatedArtifact sha256) : AcquisitionLocator → Prop
  | .inPullRequest repository pullRequest stableId =>
      record.strAt "/locator/repository" = some repository ∧
        (record.kind = .reducedSourceRecord "github-actions-check" ∧
            record.strAt "/locator/stableId" = some stableId ∨
          record.kind = .reducedSourceRecord "github-pull-request-head" ∧
            record.strAt "/locator/pullRequest" = some pullRequest)
  | .check _ _ => False
  | .head _ _ => False

theorem follow_snoc (t : Tree) (tokens : List String) (token : String) :
    t.follow (tokens ++ [token]) = (t.follow tokens).bind fun u => u.child token := by
  induction tokens generalizing t with
  | nil =>
      rw [List.nil_append, Tree.follow, Tree.follow, Option.bind_some]
      cases t.child token <;> rfl
  | cons first rest ih =>
      rw [List.cons_append, Tree.follow, Tree.follow, Option.bind_assoc]
      simp only [ih]

theorem locatorTokens : pointerTokens "/locator" = some ["locator"] ∧
    ∀ name ∈ ["repository", "pullRequest", "stableId"],
      pointerTokens ("/locator/" ++ name) = some ["locator", name] := by
  decide +kernel

theorem locator_strAt {members : List (String × Tree)} {name : String}
    (located : record.pointer "/locator" = some (.object members))
    (known : name ∈ ["repository", "pullRequest", "stableId"]) :
    record.strAt ("/locator/" ++ name) = (members.lookup name).bind Tree.asStr := by
  rw [ValidatedArtifact.pointer, Tree.pointer, locatorTokens.1, Option.bind_some] at located
  rw [ValidatedArtifact.strAt, Tree.strAt, Tree.pointer, locatorTokens.2 name known,
    Option.bind_some, ← List.singleton_append, follow_snoc, located]
  rfl

/-- The locator of a reduced record has the members of its kind, all of them texts, and no
others. -/
structure Located (record : ValidatedArtifact sha256) (shape : LocatorShape)
    (members : List (String × Tree)) : Prop where
  registered : shape ∈ locatorShapes
  kind : record.kind = .reducedSourceRecord shape.locatorKind
  located : record.pointer "/locator" = some (.object members)
  texts : ∀ name ∈ shape.members.map Member.name, ∃ text, members.lookup name = some (.string text)
  bounded : ∀ name ∉ shape.members.map Member.name, members.lookup name = none

theorem locatorShapes_texts : ∀ shape ∈ locatorShapes, ∀ m ∈ shape.members, m = req m.name := by
  simp [locatorShapes, repoPrId, repoId, repoPr, req, Member.name]

theorem located_of_reduced (reduced : record.kind = .reducedSourceRecord locatorKind) :
    ∃ shape members, Located record shape members := by
  have form := (validKind_ok_iff.mp record.valid).2
  rw [reduced] at form
  cases form with
  | reducedSourceRecord shape locator registered declares conforms selected located locates =>
      rcases locates with ⟨members, rfl, closed⟩
      refine ⟨shape, members, registered, reduced, located, ?_, ?_⟩
      · intro name known
        rcases List.mem_map.mp known with ⟨m, member, rfl⟩
        rw [locatorShapes_texts shape registered m member] at member
        cases closed with
        | mk present notNull typed bounded =>
            rcases present m.name .text member with ⟨found, held⟩
            cases typed m.name true .text found member held with
            | text s => exact ⟨s, held⟩
      · intro name unknown
        cases closed with
        | mk present notNull typed bounded => exact lookup_none_of_closed bounded unknown

namespace Located

variable {shape : LocatorShape} {members : List (String × Tree)} {cited : AcquisitionLocator}
  (facts : Located record shape members)

include facts

theorem known : ∀ name ∈ shape.members.map Member.name,
    name ∈ ["repository", "pullRequest", "stableId"] := by
  have all : ∀ shape ∈ locatorShapes, ∀ name ∈ shape.members.map Member.name,
      name ∈ ["repository", "pullRequest", "stableId"] := by
    decide +kernel
  exact all shape facts.registered

theorem concernsSource_ok_iff {digest : String} : concernsSource record digest cited = .ok () ↔
    ∀ name ∈ shape.members.map Member.name,
      record.strAt ("/locator/" ++ name) = cited.members.lookup name := by
  rw [concernsSource, facts.kind]
  simp only [locatorShapes_find shape facts.registered, refuseFirst_ok_iff, not_not]

theorem sameObject_iff : SameObject record cited ↔
    (∀ name ∈ shape.members.map Member.name,
      record.strAt ("/locator/" ++ name) = cited.members.lookup name) ∧
    ∀ name ∉ shape.members.map Member.name, cited.members.lookup name = none := by
  have reads : ∀ name ∈ shape.members.map Member.name,
      (record.strAt ("/locator/" ++ name) = cited.members.lookup name ↔
        members.lookup name = (cited.members.lookup name).map .string) := by
    intro name among
    rcases facts.texts name among with ⟨text, held⟩
    rw [locator_strAt facts.located (facts.known name among), held]
    cases cited.members.lookup name <;> simp [Tree.asStr]
  constructor
  · rintro ⟨others, located, same⟩
    cases located.symm.trans facts.located
    refine ⟨fun name among => (reads name among).mpr (same name), ?_⟩
    intro name outside
    have nothing := same name
    rw [facts.bounded name outside] at nothing
    exact Option.map_eq_none_iff.mp nothing.symm
  · rintro ⟨agree, nothing⟩
    refine ⟨members, facts.located, ?_⟩
    intro name
    by_cases among : name ∈ shape.members.map Member.name
    · exact (reads name among).mp (agree name among)
    · rw [facts.bounded name among, nothing name among, Option.map_none]

omit facts in
theorem names_nothing_else_iff {names : List String} {named : List (String × String)} :
    (∀ name ∉ names, named.lookup name = none) ↔ ∀ m ∈ named, m.1 ∈ names := by
  constructor
  · intro nothing m member
    by_contra outside
    exact bne_iff_ne.mp (List.lookup_eq_none_iff.mp (nothing m.1 outside) m member) rfl
  · intro inside name outside
    refine List.lookup_eq_none_iff.mpr ?_
    intro m member
    refine bne_iff_ne.mpr ?_
    rintro rfl
    exact outside (inside m member)

theorem strAt_some {name : String} (among : name ∈ shape.members.map Member.name) :
    ∃ text, record.strAt ("/locator/" ++ name) = some text := by
  rcases facts.texts name among with ⟨text, held⟩
  rw [locator_strAt facts.located (facts.known name among), held]
  exact ⟨text, rfl⟩

theorem namesOneMore_iff : NamesOneMore record cited ↔
    (∀ name ∈ shape.members.map Member.name,
      record.strAt ("/locator/" ++ name) = cited.members.lookup name) ∧
    ¬ ∀ name ∉ shape.members.map Member.name, cited.members.lookup name = none := by
  rw [names_nothing_else_iff]
  have stated : ∀ name ∈ shape.members.map Member.name,
      record.strAt ("/locator/" ++ name) ≠ none := by
    intro name among
    exact Option.ne_none_iff_exists'.mpr (facts.strAt_some among)
  have kind := facts.kind
  have registered := facts.registered
  simp only [locatorShapes, List.mem_cons, List.not_mem_nil, or_false] at registered
  -- Three kinds have every member; a check has no pull request, a head no identifier.
  rcases registered with rfl | rfl | rfl | rfl | rfl
  · cases cited <;>
      simp [NamesOneMore, kind, AcquisitionLocator.members, repoPrId, req, Member.name]
  · cases cited <;>
      simp [NamesOneMore, kind, AcquisitionLocator.members, repoPrId, req, Member.name]
  · cases cited <;>
      simp [NamesOneMore, kind, AcquisitionLocator.members, repoPrId, req, Member.name]
  · have identified : ¬ record.strAt "/locator/stableId" = none := stated "stableId" (by decide)
    cases cited <;>
      simp [NamesOneMore, kind, AcquisitionLocator.members, repoId, req, Member.name,
        List.lookup_cons, identified]
  · have numbered : ¬ record.strAt "/locator/pullRequest" = none := stated "pullRequest" (by decide)
    cases cited <;>
      simp [NamesOneMore, kind, AcquisitionLocator.members, repoPr, req, Member.name,
        List.lookup_cons, numbered]

end Located

/-- A reduced record concerns what a citation names exactly where their members are the same,
unless the citation names one more. -/
theorem concernsSource_exact (reduced : record.kind = .reducedSourceRecord locatorKind)
    (digest : String) (cited : AcquisitionLocator) :
    (concernsSource record digest cited = .ok () ↔ SameObject record cited) ↔
      ¬ NamesOneMore record cited := by
  rcases located_of_reduced reduced with ⟨shape, members, facts⟩
  rw [facts.concernsSource_ok_iff, facts.sameObject_iff, facts.namesOneMore_iff]
  constructor
  · rintro same ⟨agree, more⟩
    exact more (same.mp agree).2
  · intro exactly
    constructor
    · intro agree
      refine ⟨agree, ?_⟩
      by_contra more
      exact exactly ⟨agree, more⟩
    · exact fun both => both.1

theorem reduced_locator : Sample.reduced.strAt "/locator/repository" = some "o7/o7" ∧
    Sample.reduced.strAt "/locator/stableId" = some "2" := by
  decide +kernel

theorem reduced_kind : Sample.reduced.kind = .reducedSourceRecord "github-actions-check" := rfl

theorem concernsSource_exact_check :
    concernsSource Sample.reduced Sample.reducedDigest (.check "o7/o7" "2") = .ok () ↔
      SameObject Sample.reduced (.check "o7/o7" "2") :=
  (concernsSource_exact reduced_kind Sample.reducedDigest (.check "o7/o7" "2")).mpr id

/-- The check of the record, cited as an object of that number in any pull request. -/
theorem concernsSource_not_exact :
    ¬ ∀ (record : ValidatedArtifact standardSha256) (locatorKind : String),
      record.kind = .reducedSourceRecord locatorKind → ∀ digest cited,
        (concernsSource record digest cited = .ok () ↔ SameObject record cited) := by
  intro exactly
  have oneMore : NamesOneMore Sample.reduced (.inPullRequest "o7/o7" "7" "2") :=
    ⟨reduced_locator.1, .inl ⟨rfl, reduced_locator.2⟩⟩
  have same := exactly Sample.reduced _ reduced_kind Sample.reducedDigest
    (.inPullRequest "o7/o7" "7" "2")
  rcases located_of_reduced reduced_kind with ⟨shape, members, facts⟩
  rcases facts.namesOneMore_iff.mp oneMore with ⟨agree, more⟩
  exact more (facts.sameObject_iff.mp (same.mp (facts.concernsSource_ok_iff.mpr agree))).2

end O7Formal.Closure
