import O7Formal.Closure.Form

/-! The closed shapes as a language of values, given without the walker that checks them. -/

namespace O7Formal.Closure

open Json Fallible

mutual

inductive OfKind : ValueKind → Tree → Prop
  | text (s : String) : OfKind .text (.string s)
  | integer (n : Int) : OfKind .integer (.number (.integer n))
  | bool (b : Bool) : OfKind .bool (.bool b)
  | textArray (texts : List String) : OfKind .textArray (.array (texts.map .string))
  | timestamp {s : String} (instant : utcInstant s = .ok ()) : OfKind .timestamp (.string s)
  | oneOf {admissible : List String} {s : String} (among : s ∈ admissible) :
      OfKind (.oneOf admissible) (.string s)
  | openObject (members : List (String × Tree)) : OfKind .openObject (.object members)
  | object {shape : List Member} {members : List (String × Tree)} (closed : Closed shape members) :
      OfKind (.object shape) (.object members)
  | objectArray {shape : List Member} {rows : List (List (String × Tree))}
      (closed : ∀ members ∈ rows, Closed shape members) :
      OfKind (.objectArray shape) (.array (rows.map .object))

/-- The members are those of the shape, in both directions: what is required is present, what is
present is not null and of its kind, and nothing else is there. -/
inductive Closed : List Member → List (String × Tree) → Prop
  | mk {shape : List Member} {members : List (String × Tree)}
      (present : ∀ name kind, .mk name true kind ∈ shape →
        ∃ found, members.lookup name = some found)
      (notNull : ∀ name isRequired kind, .mk name isRequired kind ∈ shape →
        members.lookup name ≠ some .null)
      (typed : ∀ name isRequired kind found, .mk name isRequired kind ∈ shape →
        members.lookup name = some found → OfKind kind found)
      (bounded : ∀ m ∈ members, m.1 ∈ shape.map Member.name) : Closed shape members

end

def Conforms (shape : List Member) (value : Tree) : Prop :=
  ∃ members, value = .object members ∧ Closed shape members

@[elab_as_elim]
theorem ValueKind.induct {motive : ValueKind → Prop} (text : motive .text)
    (integer : motive .integer) (bool : motive .bool) (textArray : motive .textArray)
    (timestamp : motive .timestamp) (oneOf : ∀ admissible, motive (.oneOf admissible))
    (openObject : motive .openObject)
    (object : ∀ shape, (∀ name isRequired kind, .mk name isRequired kind ∈ shape → motive kind) →
      motive (.object shape))
    (objectArray : ∀ shape,
      (∀ name isRequired kind, .mk name isRequired kind ∈ shape → motive kind) →
      motive (.objectArray shape))
    (kind : ValueKind) : motive kind :=
  @ValueKind.rec motive
    (fun m => ∀ name isRequired kind, m = .mk name isRequired kind → motive kind)
    (fun shape => ∀ name isRequired kind, .mk name isRequired kind ∈ shape → motive kind)
    text integer bool textArray timestamp oneOf openObject object objectArray
    (fun _ _ _ here _ _ _ same => (Member.mk.inj same).2.2 ▸ here)
    (fun _ _ _ member => absurd member List.not_mem_nil)
    (fun _ _ here others name isRequired kind member =>
      (List.mem_cons.mp member).elim (fun same => here name isRequired kind same.symm)
        (others name isRequired kind))
    kind

def MemberOk (object : List (String × Tree)) (path : String) : Member → Prop
  | .mk name isRequired kind =>
      match object.lookup name with
      | none => isRequired = false
      | some found => found ≠ .null ∧ checkKind kind found (path ++ "/" ++ name) = .ok ()

theorem checkMembers_cons_iff {first : Member} {rest : List Member} {object : List (String × Tree)}
    {path : String} : checkMembers (first :: rest) object path = .ok () ↔
      MemberOk object path first ∧ checkMembers rest object path = .ok () := by
  rcases first with ⟨name, isRequired, kind⟩
  rw [checkMembers, MemberOk]
  split
  · rename_i absent
    simp [bind_ok_iff, absent]
  · rename_i null
    simp [null]
  · rename_i found notNull held
    rw [bind_ok_iff, held]
    constructor
    · rintro ⟨_, shaped, others⟩
      exact ⟨⟨notNull, shaped⟩, others⟩
    · rintro ⟨⟨_, shaped⟩, others⟩
      exact ⟨(), shaped, others⟩

theorem checkMembers_ok_iff {shape : List Member} {object : List (String × Tree)} {path : String} :
    checkMembers shape object path = .ok () ↔ ∀ m ∈ shape, MemberOk object path m := by
  induction shape with
  | nil => simp [checkMembers]
  | cons first rest ih => rw [checkMembers_cons_iff, ih, List.forall_mem_cons]

theorem closedKeys_ok_iff {shape : List Member} {object : List (String × Tree)} {path : String} :
    closedKeys shape object path = .ok () ↔ ∀ m ∈ object, m.1 ∈ shape.map Member.name := by
  constructor
  · exact closedKeys_ok
  · intro bounded
    have none : (object.find? fun m => !(shape.map Member.name).contains m.1) = none := by
      rw [List.find?_eq_none]
      intro m member
      simpa using bounded m member
    rw [closedKeys, none]

theorem closed_iff {shape : List Member} {object : List (String × Tree)} {path : String}
    (each : ∀ name isRequired kind, .mk name isRequired kind ∈ shape →
      ∀ found there, checkKind kind found there = .ok () ↔ OfKind kind found) :
    checkMembers shape object path = .ok () ∧ closedKeys shape object path = .ok () ↔
      Closed shape object := by
  rw [checkMembers_ok_iff, closedKeys_ok_iff]
  constructor
  · rintro ⟨members, bounded⟩
    refine ⟨?_, ?_, ?_, bounded⟩
    · intro name kind member
      have ok := members _ member
      rw [MemberOk] at ok
      cases held : object.lookup name with
      | none =>
          rw [held] at ok
          cases ok
      | some found => exact ⟨found, rfl⟩
    · intro name isRequired kind member held
      have ok := members _ member
      rw [MemberOk, held] at ok
      exact ok.1 rfl
    · intro name isRequired kind found member held
      have ok := members _ member
      rw [MemberOk, held] at ok
      exact (each name isRequired kind member found _).mp ok.2
  · rintro ⟨present, notNull, typed, bounded⟩
    refine ⟨?_, bounded⟩
    rintro ⟨name, isRequired, kind⟩ member
    rw [MemberOk]
    split
    · rename_i absent
      cases isRequired with
      | false => rfl
      | true =>
          rcases present name kind member with ⟨found, held⟩
          cases absent.symm.trans held
    · rename_i found held
      refine ⟨?_, (each name isRequired kind member found _).mpr
        (typed name isRequired kind found member held)⟩
      rintro rfl
      exact notNull name isRequired kind member held

theorem itemsOr_ok_iff {found : Tree} {path : String} {items : List Tree} :
    itemsOr found path = .ok items ↔ found = .array items := by
  cases found <;> simp [itemsOr, Tree.asArray]

theorem textOr_ok_iff {found : Tree} {path s : String} :
    textOr found path = .ok s ↔ found = .string s := by
  cases found <;> simp [textOr, Tree.asStr]

theorem texts_iff {items : List Tree} :
    (items.findIdx? fun item => decide (item.asStr = none)) = none ↔
      ∃ texts : List String, items = texts.map .string := by
  rw [List.findIdx?_eq_none_iff]
  constructor
  · intro each
    induction items with
    | nil => exact ⟨[], rfl⟩
    | cons first rest ih =>
        rw [List.forall_mem_cons] at each
        rcases ih each.2 with ⟨texts, rfl⟩
        rcases Option.ne_none_iff_exists'.mp (of_decide_eq_false each.1) with ⟨s, isText⟩
        exact ⟨s :: texts, by rw [Tree.asStr_some_iff.mp isText, List.map_cons]⟩
  · rintro ⟨texts, rfl⟩ item member
    rcases List.mem_map.mp member with ⟨s, _, rfl⟩
    rfl

theorem rows_iff {check : List (String × Tree) → String → Except ShapeFault Unit}
    {good : List (String × Tree) → Prop} (items : List Tree) (path : Nat → String)
    (accepts : ∀ object there, check object there = .ok () ↔ good object) :
    items.zipIdx.foldlM (fun _ item => do
        let object ← objectOr item.1 (path item.2)
        check object (path item.2)) () = .ok () ↔
      ∃ rows : List (List (String × Tree)), items = rows.map .object ∧ ∀ row ∈ rows, good row := by
  rw [foldlM_unit_ok_iff]
  simp only [bind_ok_iff, objectOr_ok_iff, accepts]
  constructor
  · intro each
    have rows : ∀ item ∈ items, ∃ object, item = .object object ∧ good object := by
      intro item member
      rcases List.mem_iff_getElem.mp member with ⟨i, bound, rfl⟩
      exact each (items[i], i) (by simp [List.mem_zipIdx_iff_getElem?, bound])
    clear each
    induction items with
    | nil => exact ⟨[], rfl, nofun⟩
    | cons first rest ih =>
        rw [List.forall_mem_cons] at rows
        rcases rows.1 with ⟨object, rfl, fine⟩
        rcases ih rows.2 with ⟨others, rfl, fines⟩
        exact ⟨object :: others, rfl, List.forall_mem_cons.mpr ⟨fine, fines⟩⟩
  · rintro ⟨rows, rfl, fines⟩ item member
    rcases List.mem_map.mp (List.fst_mem_of_mem_zipIdx member) with ⟨row, among, same⟩
    exact ⟨row, same.symm, fines row among⟩

theorem checkKind_ok_iff (kind : ValueKind) (found : Tree) (path : String) :
    checkKind kind found path = .ok () ↔ OfKind kind found := by
  induction kind using ValueKind.induct generalizing found path with
  | text =>
      rw [checkKind, refuseIf_ok_iff]
      constructor
      · intro isText
        rcases Option.ne_none_iff_exists'.mp isText with ⟨s, same⟩
        rw [Tree.asStr_some_iff.mp same]
        exact .text s
      · rintro ⟨s⟩
        simp [Tree.asStr]
  | integer =>
      rw [checkKind, refuseIf_ok_iff]
      constructor
      · intro isInteger
        cases found with
        | number n =>
            cases n with
            | integer n => exact .integer n
            | float literal => exact absurd rfl isInteger
        | null => exact absurd rfl isInteger
        | bool b => exact absurd rfl isInteger
        | string s => exact absurd rfl isInteger
        | array items => exact absurd rfl isInteger
        | object members => exact absurd rfl isInteger
      · rintro ⟨n⟩
        simp [Tree.asInt]
  | bool =>
      rw [checkKind, refuseIf_ok_iff]
      constructor
      · intro isBool
        cases found with
        | bool b => exact .bool b
        | number n => exact absurd rfl isBool
        | null => exact absurd rfl isBool
        | string s => exact absurd rfl isBool
        | array items => exact absurd rfl isBool
        | object members => exact absurd rfl isBool
      · rintro ⟨b⟩
        simp [Tree.asBool]
  | textArray =>
      simp only [checkKind, bind_ok_iff, itemsOr_ok_iff]
      constructor
      · rintro ⟨items, rfl, listed⟩
        split at listed
        · cases listed
        · rename_i none
          rcases texts_iff.mp none with ⟨texts, rfl⟩
          exact .textArray texts
      · intro kinded
        cases kinded with
        | textArray texts =>
            refine ⟨_, rfl, ?_⟩
            rw [texts_iff.mpr ⟨texts, rfl⟩]
  | timestamp =>
      simp only [checkKind, bind_ok_iff, textOr_ok_iff, mapError_ok_iff]
      constructor
      · rintro ⟨s, rfl, instant⟩
        exact .timestamp instant
      · intro kinded
        cases kinded with
        | timestamp instant => exact ⟨_, rfl, instant⟩
  | oneOf admissible =>
      simp only [checkKind, bind_ok_iff, textOr_ok_iff, refuseIf_ok_iff, not_not]
      constructor
      · rintro ⟨s, rfl, among⟩
        exact .oneOf among
      · intro kinded
        cases kinded with
        | oneOf among => exact ⟨_, rfl, among⟩
  | openObject =>
      rw [checkKind, refuseIf_ok_iff]
      constructor
      · intro isObject
        rcases Option.ne_none_iff_exists'.mp isObject with ⟨members, same⟩
        rw [Tree.asObject_some_iff.mp same]
        exact .openObject members
      · rintro ⟨members⟩
        simp [Tree.asObject]
  | object shape each =>
      simp only [checkKind, bind_ok_iff, objectOr_ok_iff]
      constructor
      · rintro ⟨object, rfl, _, members, bounded⟩
        exact .object ((closed_iff each).mp ⟨members, bounded⟩)
      · intro kinded
        cases kinded with
        | object closed =>
            rcases (closed_iff each).mpr closed with ⟨members, bounded⟩
            exact ⟨_, rfl, (), members, bounded⟩
  | objectArray shape each =>
      simp only [checkKind]
      rw [bind_ok_iff]
      have accepts : ∀ object there, (checkMembers shape object there >>= fun _ =>
          closedKeys shape object there) = .ok () ↔ Closed shape object := by
        intro object there
        rw [bind_ok_iff, ← closed_iff each]
        constructor
        · rintro ⟨_, facts⟩
          exact facts
        · exact fun facts => ⟨(), facts⟩
      have walks := fun items : List Tree => rows_iff items
        (fun position => path ++ "[" ++ toString position ++ "]") accepts
      constructor
      · rintro ⟨items, isArray, walked⟩
        cases itemsOr_ok_iff.mp isArray
        rcases (walks items).mp walked with ⟨rows, rfl, closed⟩
        exact .objectArray closed
      · intro kinded
        cases kinded with
        | objectArray closed =>
            exact ⟨_, itemsOr_ok_iff.mpr rfl, (walks _).mpr ⟨_, rfl, closed⟩⟩

theorem checkShape_ok_iff {value : Tree} {shape : List Member} {path : String} :
    checkShape value shape path = .ok () ↔ Conforms shape value := by
  simp only [checkShape, bind_ok_iff, objectOr_ok_iff, Conforms]
  apply exists_congr
  intro object
  rw [← closed_iff fun name isRequired kind _ found there =>
    checkKind_ok_iff kind found there]
  constructor
  · rintro ⟨same, _, facts⟩
    exact ⟨same, facts⟩
  · rintro ⟨same, facts⟩
    exact ⟨same, (), facts⟩

theorem Conforms.member {shape : List Member} {value : Tree} {name path : String}
    {kind : ValueKind} (conforms : Conforms shape value) (member : .mk name true kind ∈ shape)
    (tokens : pointerTokens path = some [name]) :
    ∃ found, value.pointer path = some found ∧ OfKind kind found := by
  rcases conforms with ⟨members, rfl, closed⟩
  rw [Tree.pointer_member tokens]
  cases closed with
  | mk present notNull typed bounded =>
      rcases present name kind member with ⟨found, held⟩
      exact ⟨found, held, typed name true kind found member held⟩

theorem forall₂_zipIdx {α κ : Type} {R : α → κ → Prop} {items : List α} {keys : List κ} :
    List.Forall₂ (fun item => R item.1) items.zipIdx keys ↔ List.Forall₂ R items keys := by
  rw [← List.forall₂_map_left_iff (f := Prod.fst), List.zipIdx_map_fst]

theorem ascending_exists {path : String} {items : List Tree} :
    (∃ texts, ascending path items = .ok texts) ↔
      ∃ texts : List String, items = texts.map .string ∧ texts.Pairwise (· < ·) := by
  unfold ascending
  refine (foldlM_chain_ok (fun item text => item.1.asStr = some text) (fun a b : String => a < b)
    List.getLast? (fun out text => out ++ [text]) ?_ ?_ items.zipIdx []).trans ?_
  · intro out item next
    rw [bind_ok_iff]
    apply exists_congr
    intro text
    rw [okOr_ok_iff]
    apply and_congr_right
    intro _
    cases out.getLast? with
    | none => simp
    | some previous =>
        simp only [bind_ok_iff, refuseIf_ok_iff, pure_ok_iff, not_le, exists_const,
          Option.mem_some_iff, forall_eq']
  · intro out text
    simp
  · apply exists_congr
    intro texts
    rw [forall₂_zipIdx (R := fun (item : Tree) text => item.asStr = some text)]
    simp only [Tree.asStr_some_iff, List.getLast?_nil, Option.toList_none, List.nil_append,
      List.isChain_iff_pairwise]
    rw [← List.forall₂_map_right_iff, List.forall₂_eq_eq_eq]

structure ListsAscending (t : Tree) (name : String) (texts : List String) : Prop where
  held : t.pointer ("/" ++ name) = some (.array (texts.map .string))
  sorted : texts.Pairwise (· < ·)

theorem texts_injective : Function.Injective (List.map Tree.string) :=
  List.map_injective_iff.mpr fun _ _ => Tree.string.inj

theorem orderedUnique_ok_iff {t : Tree} {name : String} {texts : List String} :
    orderedUnique t name = .ok texts ↔ ListsAscending t name texts := by
  simp only [orderedUnique, bind_ok_iff, okOr_ok_iff, Option.bind_eq_some_iff,
    Tree.asArray_some_iff]
  constructor
  · rintro ⟨items, ⟨_, held, rfl⟩, listed⟩
    rcases ascending_exists.mp ⟨texts, listed⟩ with ⟨others, same, sorted⟩
    rw [ascending_ok listed] at same held
    rw [← texts_injective same] at sorted
    exact ⟨held, sorted⟩
  · rintro ⟨held, sorted⟩
    rcases ascending_exists.mpr ⟨texts, rfl, sorted⟩ with ⟨others, listed⟩
    have same := texts_injective (ascending_ok listed)
    cases same
    exact ⟨_, ⟨_, held, rfl⟩, listed⟩

def FindingBelow (a b : String × String) : Prop := a.1 < b.1 ∨ a.1 = b.1 ∧ a.2 < b.2

instance : IsTrans (String × String) FindingBelow where
  trans a b c := by
    rintro (below | ⟨same, below⟩) (above | ⟨same', above⟩)
    · exact .inl (below.trans above)
    · exact .inl (same' ▸ below)
    · exact .inl (same ▸ above)
    · exact .inr ⟨same.trans same', below.trans above⟩

def FindingsAscending (findings : List Tree) : Prop :=
  ∃ keys : List (String × String), List.Forall₂ (fun finding key =>
    finding.strAt "/field" = some key.1 ∧ finding.strAt "/findingId" = some key.2) findings keys ∧
    keys.Pairwise FindingBelow

theorem checkFindings_ok_iff {findings : List Tree} :
    checkFindings findings = .ok () ↔ FindingsAscending findings := by
  simp only [checkFindings, bind_ok_iff, pure_ok_iff, and_true]
  refine (foldlM_chain_ok (fun finding key => finding.1.strAt "/field" = some key.1 ∧
    finding.1.strAt "/findingId" = some key.2) FindingBelow id (fun _ key => some key)
    ?_ (fun _ _ => rfl) findings.zipIdx none).trans ?_
  · intro previous finding next
    simp only [bind_ok_iff, okOr_ok_iff]
    constructor
    · rintro ⟨field, named, id, identified, rest⟩
      refine ⟨(field, id), ⟨named, identified⟩, ?_⟩
      cases previous with
      | none => exact ⟨fun _ here => (by cases here), pure_ok_iff.mp rest⟩
      | some prev =>
          rcases bind_ok_iff.mp rest with ⟨_, above, same⟩
          rw [refuseIf_ok_iff, not_not] at above
          exact ⟨fun p here => Option.mem_some_iff.mp here ▸ above, pure_ok_iff.mp same⟩
    · rintro ⟨key, ⟨named, identified⟩, above, same⟩
      refine ⟨key.1, named, key.2, identified, ?_⟩
      cases previous with
      | none => exact pure_ok_iff.mpr same
      | some prev =>
          refine bind_ok_iff.mpr ⟨(), ?_, pure_ok_iff.mpr same⟩
          rw [refuseIf_ok_iff, not_not]
          exact above prev rfl
  · apply exists_congr
    intro keys
    rw [forall₂_zipIdx (R := fun (finding : Tree) (key : String × String) =>
      finding.strAt "/field" = some key.1 ∧ finding.strAt "/findingId" = some key.2)]
    simp only [id, Option.toList_none, List.nil_append, List.isChain_iff_pairwise]

structure ClosedAssessment (value : Tree) : Prop where
  conforms : Conforms (assessmentRequired ++ assessmentConditional) value
  findings : ∀ findings, value.pointer "/findings" = some findings →
    ∃ items, findings = .array items ∧ items ≠ [] ∧ FindingsAscending items
  failureCode : (value.pointer "/coverageFailureCode").isSome ↔
    value.pointer "/coverageComplete" = some (.bool false)
  outcome : value.strAt "/outcome" = some (computedOutcome (value.pointer "/findings").isSome
    (decide (value.pointer "/coverageComplete" = some (.bool true))))
  assessedFields : ∃ texts, ListsAscending value "assessedFields" texts

theorem closed_append_iff {first second : List Member} {object : List (String × Tree)} :
    (checkMembers first object "" = .ok () ∧ checkMembers second object "" = .ok () ∧
      closedKeys (first ++ second) object "" = .ok ()) ↔ Closed (first ++ second) object := by
  rw [← closed_iff fun name isRequired kind _ found there => checkKind_ok_iff kind found there,
    checkMembers_ok_iff, checkMembers_ok_iff, checkMembers_ok_iff, List.forall_mem_append,
    and_assoc]

theorem assessment_typed {object : List (String × Tree)} {name : String} {isRequired : Bool}
    {kind : ValueKind} {found : Tree}
    (closed : Closed (assessmentRequired ++ assessmentConditional) object)
    (member : .mk name isRequired kind ∈ assessmentRequired ++ assessmentConditional)
    (held : object.lookup name = some found) : OfKind kind found := by
  cases closed with
  | mk present notNull typed bounded => exact typed name isRequired kind found member held

theorem assessment_coverage {object : List (String × Tree)}
    (closed : Closed (assessmentRequired ++ assessmentConditional) object) :
    ∃ b, object.lookup "coverageComplete" = some (.bool b) := by
  have member : .mk "coverageComplete" true .bool ∈
      assessmentRequired ++ assessmentConditional := by
    simp [assessmentRequired]
  cases id closed with
  | mk present notNull typed bounded =>
      rcases present _ _ member with ⟨found, held⟩
      cases assessment_typed closed member held with
      | bool b => exact ⟨b, held⟩

theorem assessment_findings {object : List (String × Tree)} {found : Tree}
    (closed : Closed (assessmentRequired ++ assessmentConditional) object)
    (held : object.lookup "findings" = some found) : ∃ items, found = .array items := by
  have member : .mk "findings" false (.objectArray finding) ∈
      assessmentRequired ++ assessmentConditional := by
    simp [assessmentConditional]
  cases assessment_typed closed member held with
  | objectArray rows => exact ⟨_, rfl⟩

theorem assessment_pointers (object : List (String × Tree)) :
    (Tree.object object).pointer "/findings" = object.lookup "findings" ∧
    (Tree.object object).pointer "/coverageComplete" = object.lookup "coverageComplete" ∧
    (Tree.object object).pointer "/coverageFailureCode" = object.lookup "coverageFailureCode" :=
  ⟨Tree.pointer_member pointerTokens_outcome.1, Tree.pointer_member pointerTokens_outcome.2,
    Tree.pointer_member (by decide +kernel)⟩

theorem checkAssessment_ok_iff {value : Tree} :
    checkAssessment value = .ok () ↔ ClosedAssessment value := by
  simp only [checkAssessment, memberStr, bind_ok_iff, okOr_ok_iff, mapError_ok_iff,
    refuseIf_ok_iff, Tree.asObject_some_iff, not_not, orderedUnique_ok_iff]
  constructor
  · rintro ⟨object, rfl, _, required, _, conditional, _, bounded, _, stated, _, nonempty, _, coded,
      _, _, _, rfl, texts, listed, checked⟩
    have closed := closed_append_iff.mp ⟨required, conditional, bounded⟩
    rcases assessment_pointers object with ⟨findings, coverage, code⟩
    refine ⟨⟨object, rfl, closed⟩, ?_, ?_, ?_, texts, listed⟩
    · intro found held
      rw [findings] at held
      rcases assessment_findings closed held with ⟨items, rfl⟩
      rw [held] at nonempty checked
      refine ⟨items, rfl, ?_, checkFindings_ok_iff.mp checked⟩
      rintro rfl
      exact nonempty rfl
    · rcases assessment_coverage closed with ⟨b, covers⟩
      rw [covers] at coded
      rw [code, coverage, covers]
      cases b <;> simpa using coded
    · rw [findings, coverage]
      exact stated
  · rintro ⟨⟨object, rfl, closed⟩, ascends, coded, stated, texts, listed⟩
    rcases closed_append_iff.mpr closed with ⟨required, conditional, bounded⟩
    rcases assessment_pointers object with ⟨findings, coverage, code⟩
    rw [findings, coverage] at stated
    refine ⟨object, rfl, (), required, (), conditional, (), bounded, _, stated, (), ?_, (), ?_, (),
      ?_, (), rfl, texts, listed, ?_⟩
    · intro empty
      rcases Option.bind_eq_some_iff.mp empty with ⟨found, held, isArray⟩
      rcases ascends found (findings.trans held) with ⟨items, rfl, nonempty, _⟩
      exact nonempty (Option.some.inj isArray)
    · rcases assessment_coverage closed with ⟨b, covers⟩
      rw [code, coverage, covers] at coded
      rw [covers]
      cases b <;> simpa using coded
    · rintro ⟨retains, incomplete⟩
      exact incomplete (computedOutcome_retain.mp retains).2
    · cases held : object.lookup "findings" with
      | none => rfl
      | some found =>
          rcases ascends found (findings.trans held) with ⟨items, rfl, _, ascending⟩
          exact checkFindings_ok_iff.mpr ascending

end O7Formal.Closure
