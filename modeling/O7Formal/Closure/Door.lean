import O7Formal.Closure.Shapes

/-! The door of retained artifacts: which values it opens for, and as what. -/

namespace O7Formal.Closure

open Json Fallible

structure Declares (value : Tree) (sourceKind : String) (schemaVersion : Int) : Prop where
  kind : value.strAt "/sourceKind" = some sourceKind
  version : value.pointer "/schemaVersion" = some (.number (.integer schemaVersion))

inductive Registered (value : Tree) : ArtifactKind → Prop
  | completeProjection (schema : CandidateSchema) (registered : schema ∈ sourceSchemas)
      (declares : Declares value schema.sourceKind schema.schemaVersion)
      (conforms : Conforms schema.members value) :
      Registered value (.completeProjection schema.sourceKind)
  | querySnapshot (schema : QuerySnapshotSchema) (registered : schema ∈ querySnapshotSchemas)
      (declares : Declares value "github-query-snapshot" schema.schemaVersion)
      (conforms : Conforms schema.members value) : Registered value .querySnapshot
  | reducedSourceRecord (shape : LocatorShape) (locator : Tree) (registered : shape ∈ locatorShapes)
      (declares : Declares value "github-reduced-source-record" 1)
      (conforms : Conforms reducedRecord value)
      (selected : value.strAt "/locatorKind" = some shape.locatorKind)
      (located : value.pointer "/locator" = some locator)
      (locates : Conforms shape.members locator) :
      Registered value (.reducedSourceRecord shape.locatorKind)
  | headReadEvent (acquisition : String) (shape : List Member)
      (selected : (acquisition, shape) ∈
        [("AVAILABLE", headReadEventAvailable), ("FAILED", headReadEventFailed)])
      (declares : Declares value "github-head-read-event" 1)
      (acquired : value.strAt "/acquisition" = some acquisition)
      (conforms : Conforms shape value) : Registered value .headReadEvent
  | retentionAssessment (declares : Declares value "closure-retention-assessment" 1)
      (assesses : ClosedAssessment value) : Registered value .retentionAssessment
  | retentionBinding (declares : Declares value "closure-retention-binding" 1)
      (conforms : Conforms retentionBinding value) : Registered value .retentionBinding

theorem Registered.declared {value : Tree} {kind : ArtifactKind} (form : Registered value kind) :
    value.strAt "/sourceKind" = some kind.name := by
  cases form with
  | completeProjection schema registered declares conforms => exact declares.kind
  | querySnapshot schema registered declares conforms => exact declares.kind
  | reducedSourceRecord shape locator registered declares conforms selected located locates =>
      exact declares.kind
  | headReadEvent acquisition shape selected declares acquired conforms => exact declares.kind
  | retentionAssessment declares assesses => exact declares.kind
  | retentionBinding declares conforms => exact declares.kind

theorem asI64_iff {t : Tree} {n : Int} :
    asI64 t = some n ↔ t = .number (.integer n) ∧ n < 2 ^ 63 := by
  have integers : t.asInt = some n ↔ t = .number (.integer n) := by
    cases t with
    | number m => cases m <;> simp [Tree.asInt]
    | null => simp [Tree.asInt]
    | bool b => simp [Tree.asInt]
    | string s => simp [Tree.asInt]
    | array items => simp [Tree.asInt]
    | object members => simp [Tree.asInt]
  rw [asI64, Option.filter_eq_some_iff, integers, decide_eq_true_iff]

theorem checkRegisteredVersion_ok_iff {value : Tree} {registered : List Int} {declared : String}
    {version : Int} (small : ∀ n ∈ registered, n < 2 ^ 63) :
    checkRegisteredVersion value registered declared = .ok version ↔
      value.pointer "/schemaVersion" = some (.number (.integer version)) ∧
        version ∈ registered := by
  simp only [checkRegisteredVersion, bind_ok_iff, okOr_ok_iff, refuseIf_ok_iff, pure_ok_iff,
    not_not, Option.bind_eq_some_iff, asI64_iff]
  constructor
  · rintro ⟨_, ⟨_, held, rfl, _⟩, _, known, rfl⟩
    exact ⟨held, known⟩
  · rintro ⟨held, known⟩
    exact ⟨version, ⟨_, held, rfl, small version known⟩, (), known, rfl⟩

theorem sourceSchemas_find : ∀ schema ∈ sourceSchemas,
    sourceSchemas.find? (fun s => s.sourceKind = schema.sourceKind) = some schema := by
  simp [sourceSchemas]

theorem querySnapshotSchemas_find : ∀ schema ∈ querySnapshotSchemas,
    querySnapshotSchemas.find? (fun s => s.schemaVersion = schema.schemaVersion) = some schema := by
  simp [querySnapshotSchemas]

theorem locatorShapes_find : ∀ shape ∈ locatorShapes,
    locatorShape shape.locatorKind = some shape := by
  simp [locatorShape, locatorShapes]

theorem versions_small : (∀ schema ∈ sourceSchemas, schema.schemaVersion < 2 ^ 63) ∧
    ∀ version ∈ querySnapshotSchemas.map QuerySnapshotSchema.schemaVersion, version < 2 ^ 63 := by
  decide +kernel

variable {value : Tree} {declared : String} {kind : ArtifactKind}

theorem checkRegisteredVersion_one (version : Int) (small : version < 2 ^ 63) :
    (∃ n, checkRegisteredVersion value [version] declared = .ok n) ↔
      value.pointer "/schemaVersion" = some (.number (.integer version)) := by
  have listed : ∀ n ∈ [version], n < 2 ^ 63 := fun n member => List.mem_singleton.mp member ▸ small
  simp only [checkRegisteredVersion_ok_iff listed, List.mem_singleton, exists_eq_right]

theorem versioned_ok_iff (version : Int) (small : version < 2 ^ 63) (shape : List Member)
    (made : ArtifactKind) :
    (checkRegisteredVersion value [version] declared >>= fun _ =>
      (checkShape value shape "").mapError FormFault.shape >>= fun _ => pure made) = .ok kind ↔
      value.pointer "/schemaVersion" = some (.number (.integer version)) ∧ Conforms shape value ∧
        made = kind := by
  simp only [bind_ok_iff, mapError_ok_iff, pure_ok_iff]
  constructor
  · rintro ⟨n, versioned, _, shaped, same⟩
    exact ⟨(checkRegisteredVersion_one version small).mp ⟨n, versioned⟩,
      checkShape_ok_iff.mp shaped, same⟩
  · rintro ⟨declares, conforms, same⟩
    rcases (checkRegisteredVersion_one version small).mpr declares with ⟨n, versioned⟩
    exact ⟨n, versioned, (), checkShape_ok_iff.mpr conforms, same⟩

theorem checkQueryForm_ok_iff (named : value.strAt "/sourceKind" = some "github-query-snapshot") :
    checkQueryForm "github-query-snapshot" value = .ok kind ↔
      kind = .querySnapshot ∧ Registered value kind := by
  simp only [checkQueryForm, bind_ok_iff, mapError_ok_iff, pure_ok_iff, okOr_ok_iff,
    checkRegisteredVersion_ok_iff versions_small.2]
  constructor
  · rintro ⟨version, ⟨versioned, _⟩, schema, found, _, shaped, rfl⟩
    have same : schema.schemaVersion = version := by simpa using List.find?_some found
    exact ⟨rfl, .querySnapshot schema (List.mem_of_find?_eq_some found) ⟨named, same ▸ versioned⟩
      (checkShape_ok_iff.mp shaped)⟩
  · rintro ⟨rfl, form⟩
    cases form with
    | querySnapshot schema registered declares conforms =>
        exact ⟨schema.schemaVersion, ⟨declares.version, List.mem_map_of_mem registered⟩, schema,
          querySnapshotSchemas_find schema registered, (), checkShape_ok_iff.mpr conforms, rfl⟩

theorem checkReducedForm_ok_iff
    (named : value.strAt "/sourceKind" = some "github-reduced-source-record") :
    checkReducedForm "github-reduced-source-record" value = .ok kind ↔
      (∃ locatorKind, kind = .reducedSourceRecord locatorKind) ∧ Registered value kind := by
  simp only [checkReducedForm, checkReducedLocator, bind_ok_iff, mapError_ok_iff, pure_ok_iff,
    okOr_ok_iff]
  constructor
  · rintro ⟨_, versioned, _, shaped, _, ⟨locatorKind, selected, shape, found, locator, located, _,
      locates, rfl⟩, rfl⟩
    have same : shape.locatorKind = locatorKind := by simpa using List.find?_some found
    have version := (checkRegisteredVersion_one 1 (by decide)).mp ⟨_, versioned⟩
    exact ⟨⟨_, rfl⟩, .reducedSourceRecord shape locator (List.mem_of_find?_eq_some found)
      ⟨named, version⟩ (checkShape_ok_iff.mp shaped) (same ▸ selected) located
      (checkShape_ok_iff.mp locates)⟩
  · rintro ⟨⟨_, rfl⟩, form⟩
    cases form with
    | reducedSourceRecord shape locator registered declares conforms selected located locates =>
        rcases (checkRegisteredVersion_one 1 (by decide)).mpr declares.version with ⟨n, versioned⟩
        exact ⟨n, versioned, (), checkShape_ok_iff.mpr conforms, _, ⟨_, selected, shape,
          locatorShapes_find shape registered, locator, located, (), checkShape_ok_iff.mpr locates,
          rfl⟩, rfl⟩

theorem checkHeadReadForm_ok_iff
    (named : value.strAt "/sourceKind" = some "github-head-read-event") :
    checkHeadReadForm "github-head-read-event" value = .ok kind ↔
      kind = .headReadEvent ∧ Registered value kind := by
  simp only [checkHeadReadForm, bind_ok_iff (x := okOr _ _), okOr_ok_iff]
  constructor
  · rintro ⟨acquisition, acquired, ok⟩
    split_ifs at ok with available failed
    · rcases (versioned_ok_iff 1 (by decide) _ _).mp ok with ⟨version, conforms, rfl⟩
      exact ⟨rfl, .headReadEvent acquisition _ (by simp [available]) ⟨named, version⟩ acquired
        conforms⟩
    · rcases (versioned_ok_iff 1 (by decide) _ _).mp ok with ⟨version, conforms, rfl⟩
      exact ⟨rfl, .headReadEvent acquisition _ (by simp [failed]) ⟨named, version⟩ acquired
        conforms⟩
    · cases ok
  · rintro ⟨rfl, form⟩
    cases form with
    | headReadEvent acquisition shape selected declares acquired conforms =>
        refine ⟨acquisition, acquired, ?_⟩
        simp only [List.mem_cons, Prod.mk.injEq, List.not_mem_nil, or_false] at selected
        rcases selected with ⟨rfl, rfl⟩ | ⟨rfl, rfl⟩
        · exact (versioned_ok_iff 1 (by decide) _ _).mpr ⟨declares.version, conforms, rfl⟩
        · exact (versioned_ok_iff 1 (by decide) _ _).mpr ⟨declares.version, conforms, rfl⟩

theorem checkAssessmentForm_ok_iff
    (named : value.strAt "/sourceKind" = some "closure-retention-assessment") :
    checkAssessmentForm "closure-retention-assessment" value = .ok kind ↔
      kind = .retentionAssessment ∧ Registered value kind := by
  simp only [checkAssessmentForm, bind_ok_iff, mapError_ok_iff, pure_ok_iff]
  constructor
  · rintro ⟨_, versioned, _, assessed, rfl⟩
    have version := (checkRegisteredVersion_one 1 (by decide)).mp ⟨_, versioned⟩
    exact ⟨rfl, .retentionAssessment ⟨named, version⟩ (checkAssessment_ok_iff.mp assessed)⟩
  · rintro ⟨rfl, form⟩
    cases form with
    | retentionAssessment declares assesses =>
        rcases (checkRegisteredVersion_one 1 (by decide)).mpr declares.version with ⟨n, versioned⟩
        exact ⟨n, versioned, (), checkAssessment_ok_iff.mpr assesses, rfl⟩

theorem checkBindingForm_ok_iff
    (named : value.strAt "/sourceKind" = some "closure-retention-binding") :
    checkBindingForm "closure-retention-binding" value = .ok kind ↔
      kind = .retentionBinding ∧ Registered value kind := by
  rw [checkBindingForm]
  refine (versioned_ok_iff 1 (by decide) _ _).trans ?_
  constructor
  · rintro ⟨version, conforms, rfl⟩
    exact ⟨rfl, .retentionBinding ⟨named, version⟩ conforms⟩
  · rintro ⟨rfl, form⟩
    cases form with
    | retentionBinding declares conforms => exact ⟨declares.version, conforms, rfl⟩

theorem sourceSchemas_find_none : ∀ name ∈ ["github-query-snapshot", "github-reduced-source-record",
    "github-head-read-event", "closure-retention-assessment", "closure-retention-binding"],
    sourceSchemas.find? (fun s => s.sourceKind = name) = none := by
  simp [sourceSchemas]

theorem registered_of_checkClosedForm (named : value.strAt "/sourceKind" = some declared)
    (ok : checkClosedForm declared value = .ok kind) : Registered value kind := by
  unfold checkClosedForm at ok
  split at ok
  · rename_i schema found
    have same : schema.sourceKind = declared := by simpa using List.find?_some found
    have registered := List.mem_of_find?_eq_some found
    rcases (versioned_ok_iff _ (versions_small.1 schema registered) _ _).mp ok with
      ⟨version, conforms, rfl⟩
    exact .completeProjection schema registered ⟨same ▸ named, version⟩ conforms
  · split_ifs at ok with query reduced head assessment binding
    · cases query
      exact ((checkQueryForm_ok_iff named).mp ok).2
    · cases reduced
      exact ((checkReducedForm_ok_iff named).mp ok).2
    · cases head
      exact ((checkHeadReadForm_ok_iff named).mp ok).2
    · cases assessment
      exact ((checkAssessmentForm_ok_iff named).mp ok).2
    · cases binding
      exact ((checkBindingForm_ok_iff named).mp ok).2

theorem checkClosedForm_of_registered (form : Registered value kind) :
    checkClosedForm kind.name value = .ok kind := by
  cases id form with
  | completeProjection schema registered declares conforms =>
      rw [checkClosedForm, ArtifactKind.name, sourceSchemas_find schema registered]
      exact (versioned_ok_iff _ (versions_small.1 schema registered) _ _).mpr
        ⟨declares.version, conforms, rfl⟩
  | querySnapshot schema registered declares conforms =>
      rw [checkClosedForm, ArtifactKind.name, sourceSchemas_find_none _ (by decide), if_pos rfl]
      exact (checkQueryForm_ok_iff declares.kind).mpr ⟨rfl, form⟩
  | reducedSourceRecord shape locator registered declares conforms selected located locates =>
      rw [checkClosedForm, ArtifactKind.name, sourceSchemas_find_none _ (by decide),
        if_neg (by decide), if_pos rfl]
      exact (checkReducedForm_ok_iff declares.kind).mpr ⟨⟨_, rfl⟩, form⟩
  | headReadEvent acquisition shape selected declares acquired conforms =>
      rw [checkClosedForm, ArtifactKind.name, sourceSchemas_find_none _ (by decide),
        if_neg (by decide), if_neg (by decide), if_pos rfl]
      exact (checkHeadReadForm_ok_iff declares.kind).mpr ⟨rfl, form⟩
  | retentionAssessment declares assesses =>
      rw [checkClosedForm, ArtifactKind.name, sourceSchemas_find_none _ (by decide),
        if_neg (by decide), if_neg (by decide), if_neg (by decide), if_pos rfl]
      exact (checkAssessmentForm_ok_iff declares.kind).mpr ⟨rfl, form⟩
  | retentionBinding declares conforms =>
      rw [checkClosedForm, ArtifactKind.name, sourceSchemas_find_none _ (by decide),
        if_neg (by decide), if_neg (by decide), if_neg (by decide), if_neg (by decide), if_pos rfl]
      exact (checkBindingForm_ok_iff declares.kind).mpr ⟨rfl, form⟩

variable {sha256 : Run.Sha256} {requested : String}

theorem validKind_ok_iff : validKind sha256 requested value = .ok kind ↔
    digest sha256 value = .ok requested ∧ Registered value kind := by
  unfold validKind
  split
  · rename_i e failed
    simp [failed]
  · rename_i computed hashes
    simp only [hashes, bind_ok_iff, refuseIf_ok_iff, not_not, okOr_ok_iff, mapError_ok_iff,
      Except.ok.injEq]
    constructor
    · rintro ⟨_, same, declared, named, ok⟩
      exact ⟨same, registered_of_checkClosedForm named ok⟩
    · rintro ⟨same, form⟩
      exact ⟨(), same, kind.name, form.declared, checkClosedForm_of_registered form⟩

theorem validate_exists_iff : (∃ artifact, validate sha256 requested value = .ok artifact) ↔
    ∃ kind, validKind sha256 requested value = .ok kind := by
  unfold validate
  constructor
  · rintro ⟨artifact, ok⟩
    split at ok
    · cases ok
    · rename_i kind valid
      exact ⟨kind, valid⟩
  · rintro ⟨kind, valid⟩
    split
    · rename_i e failed
      cases failed.symm.trans valid
    · exact ⟨_, rfl⟩

/-- The door opens for a value exactly when it is what the digest names and in one of the closed
forms, and then it opens as the kind that the value declares. -/
theorem door_accepts_closed_forms (sha256 : Run.Sha256) (requested : String) (value : Tree) :
    ((∃ artifact, validate sha256 requested value = .ok artifact) ↔
      digest sha256 value = .ok requested ∧ ∃ kind, Registered value kind) ∧
    ∀ artifact, validate sha256 requested value = .ok artifact →
      artifact.digest = requested ∧ artifact.value = value ∧ Registered value artifact.kind ∧
        value.strAt "/sourceKind" = some artifact.kind.name := by
  constructor
  · rw [validate_exists_iff]
    simp only [validKind_ok_iff, exists_and_left]
  · intro artifact ok
    rcases validate_ok ok with ⟨rfl, rfl⟩
    have form := (validKind_ok_iff.mp artifact.valid).2
    exact ⟨rfl, rfl, form, form.declared⟩

end O7Formal.Closure
