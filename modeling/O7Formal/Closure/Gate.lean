import O7Formal.Closure.Form
import O7Formal.Closure.Resolution

/-! Gate confinement: what an admitted value was read from, and what its retained assessment
says of it. -/

namespace O7Formal.Closure

open Json Fallible
open Run (Sha256 standardSha256)

variable {sha256 : Sha256} {store : RetainedEvidence}

theorem checkDetector_ok {assessment : ValidatedArtifact sha256} {expected : ExpectedDetector}
    {u : Unit} (ok : checkDetector assessment expected = .ok u) :
    assessment.strAt "/detector/id" = some expected.id ∧
      assessment.strAt "/detector/version" = some expected.version ∧
      assessment.strAt "/detector/configDigest" = some expected.configDigest := by
  simp only [checkDetector, List.foldlM_cons, List.foldlM_nil, bind_ok_iff, okOr_ok_iff,
    refuseIf_ok_iff, not_not] at ok
  rcases ok with ⟨_, ⟨_, id, rfl⟩, _, ⟨_, version, rfl⟩, _, ⟨_, config, rfl⟩, _⟩
  exact ⟨id, version, config⟩

/-- The facts that `checkAuthorises` has checked of any record. -/
structure AssessedAs (record assessment : ValidatedArtifact sha256) (policy : String)
    (detector : ExpectedDetector) (d : Denominator) (assessed : List String) (outcome : String) :
    Prop where
  detected : checkDetector assessment detector = .ok ()
  underPolicy : assessment.strAt "/redactionPolicyVersion" = some policy
  denominator : denominatorOf record = .ok d
  listed : orderedUnique assessment.value "assessedFields" = .ok assessed
  decided : assessment.strAt "/outcome" = some outcome
  covered : checkCoverage record assessment d assessed = .ok ()
  rest : if d.isReduced then
      checkReducedRecord record assessment d policy outcome assessed (flaggedFields assessment)
        = .ok ()
    else outcome = "RETAIN"

theorem checkAuthorises_ok {record assessment : ValidatedArtifact sha256} {policy : String}
    {detector : ExpectedDetector} {u : Unit}
    (ok : checkAuthorises record assessment policy detector = .ok u) :
    ∃ d assessed outcome, AssessedAs record assessment policy detector d assessed outcome := by
  simp only [checkAuthorises, assessmentText, memberStr, bind_ok_iff, mapError_ok_iff, okOr_ok_iff,
    refuseIf_ok_iff, refuseFirst_ok_iff, not_not] at ok
  rcases ok with ⟨_, detected, _, stated, _, rfl, d, denominator, assessed, listed, _, _, outcome,
    decided, _, _, _, covered, rest⟩
  refine ⟨d, assessed, outcome, detected, stated, denominator, listed, decided, covered, ?_⟩
  split_ifs at rest ⊢ with reduced
  · exact rest
  · simpa using rest

theorem denominatorOf_complete {record : ValidatedArtifact sha256} {surface : String}
    {d : Denominator} (kind : record.kind = .completeProjection surface)
    (ok : denominatorOf record = .ok d) :
    ∃ r, requiredFields surface = some r ∧ d = ⟨false, r.always, r.presentOnly⟩ := by
  rcases record.complete kind with ⟨named, unreduced, ⟨r, required⟩, _⟩
  simp only [denominatorOf, bind_ok_iff, okOr_ok_iff, named, Option.some.injEq] at ok
  rcases ok with ⟨_, rfl, rest⟩
  rw [if_pos unreduced, pure_ok_iff, required] at rest
  exact ⟨r, required, rest.symm⟩

theorem denominatorOf_reduced {record : ValidatedArtifact sha256} {locatorKind : String}
    {d : Denominator} (kind : record.kind = .reducedSourceRecord locatorKind)
    (ok : denominatorOf record = .ok d) :
    ∃ r, requiredFields locatorKind = some r ∧ d = ⟨true, r.always, r.presentOnly⟩ := by
  rcases record.reduced kind with ⟨named, located⟩
  simp only [denominatorOf, bind_ok_iff, okOr_ok_iff, named, Option.some.injEq] at ok
  rcases ok with ⟨_, rfl, rest⟩
  simp only [ne_eq, not_true_eq_false, if_false, bind_ok_iff, okOr_ok_iff, located,
    Option.some.injEq, pure_ok_iff] at rest
  rcases rest with ⟨_, rfl, r, required, rfl⟩
  exact ⟨r, required, rfl⟩

/-- A value of a complete projection, and the assessment that retained the whole of it. -/
structure CompleteYields (record assessment : ValidatedArtifact sha256)
    (surface pointer : String) (value : Tree) : Prop where
  held : record.pointer pointer = some value
  outcome : assessment.strAt "/outcome" = some "RETAIN"
  coverage : assessment.pointer "/coverageComplete" = some (.bool true)
  unflagged : assessment.pointer "/findings" = none
  assessed : ∃ r, requiredFields surface = some r ∧
    (∀ field ∈ r.always, Lists assessment.value "assessedFields" field) ∧
    ∀ field ∈ r.presentOnly, carries record field.canonical = true →
      Lists assessment.value "assessedFields" field.decoded
  unreduced : record.pointer "/locator" = none ∧ record.pointer "/retainedFields" = none ∧
    record.pointer "/blockedFields" = none

theorem assessment_outcome {assessment : ValidatedArtifact sha256}
    (kind : assessment.kind = .retentionAssessment) :
    assessment.strAt "/outcome" = some (computedOutcome (assessment.pointer "/findings").isSome
      (decide (assessment.pointer "/coverageComplete" = some (.bool true)))) := by
  rcases assessment.closedForm with ⟨_, declared, _, form⟩
  rw [kind] at form
  exact checkAssessment_ok form

theorem completeYields_of_authorises {record assessment : ValidatedArtifact sha256}
    {policy surface pointer : String} {detector : ExpectedDetector} {value : Tree}
    (kind : record.kind = .completeProjection surface)
    (assesses : assessment.kind = .retentionAssessment)
    (ok : checkAuthorises record assessment policy detector = .ok ())
    (held : record.pointer pointer = some value) :
    CompleteYields record assessment surface pointer value := by
  rcases checkAuthorises_ok ok with ⟨d, assessed, outcome, facts⟩
  rcases denominatorOf_complete kind facts.denominator with ⟨r, required, rfl⟩
  have retains : outcome = "RETAIN" := by simpa using facts.rest
  have stated := facts.decided
  rw [retains] at stated
  rcases computedOutcome_retain.mp (Option.some.inj ((assessment_outcome assesses).symm.trans
    stated)) with ⟨unflagged, coverage⟩
  have coverage := of_decide_eq_true coverage
  have covered := facts.covered
  rw [checkCoverage, if_pos coverage] at covered
  simp only [bind_ok_iff, refuseFirst_ok_iff, not_not] at covered
  rcases covered with ⟨_, always, presentOnly⟩
  rcases record.complete kind with ⟨_, _, _, foreign⟩
  refine ⟨held, stated, coverage, by simpa using unflagged, ⟨r, required, ?_, ?_⟩, ?_⟩
  · intro field member
    exact (orderedUnique_ok facts.listed field).mp (always field member)
  · intro field member carried
    refine (orderedUnique_ok facts.listed field.decoded).mp (presentOnly field.decoded ?_)
    exact List.mem_map_of_mem (List.mem_filter.mpr ⟨member, carried⟩)
  · exact ⟨foreign "/locator" "locator" (by decide +kernel) (by decide),
      foreign "/retainedFields" "retainedFields" (by decide +kernel) (by decide),
      foreign "/blockedFields" "blockedFields" (by decide +kernel) (by decide)⟩

/-- A value of a reduced record: a field it retains, which its assessment looked at and no finding
names. -/
structure ReducedYields (record assessment : ValidatedArtifact sha256)
    (locatorKind pointer : String) (value : Tree) : Prop where
  retained : ∃ fields, record.pointer "/retainedFields" = some (.object fields) ∧
    fields.lookup pointer = some value
  required : ∃ r, requiredFields locatorKind = some r ∧ r.has pointer
  unblocked : ¬ Lists record.value "blockedFields" pointer
  assessed : Lists assessment.value "assessedFields" pointer
  unflagged : ∀ findings, assessment.pointer "/findings" = some (.array findings) →
    ∀ finding ∈ findings, finding.strAt "/field" ≠ some pointer
  outcome : ∃ outcome ∈ ["BLOCK_SECRET", "CANNOT_ASSESS"],
    assessment.strAt "/outcome" = some outcome ∧ record.strAt "/outcome" = some outcome

theorem retainedField_some {record : ValidatedArtifact sha256} {pointer : String} {value : Tree}
    (held : retainedField record pointer = some value) :
    ∃ fields, record.pointer "/retainedFields" = some (.object fields) ∧
      fields.lookup pointer = some value := by
  simp only [retainedField, Option.bind_eq_some_iff, Tree.asObject_some_iff] at held
  rcases held with ⟨fields, ⟨_, held, rfl⟩, found⟩
  exact ⟨fields, held, found⟩

theorem mem_flaggedFields {assessment : ValidatedArtifact sha256} {findings : List Tree}
    {finding : Tree} {field : String}
    (held : assessment.pointer "/findings" = some (.array findings)) (member : finding ∈ findings)
    (named : finding.strAt "/field" = some field) : field ∈ flaggedFields assessment := by
  simp only [flaggedFields, held, Option.bind_some, Tree.asArray]
  exact List.mem_filterMap.mpr ⟨finding, member, named⟩

theorem checkPartition_retained {record : ValidatedArtifact sha256} {d : Denominator}
    {assessed flagged : List String} {u : Unit} {fields : List (String × Tree)}
    {pointer : String} {value : Tree} (ok : checkPartition record d assessed flagged = .ok u)
    (held : record.pointer "/retainedFields" = some (.object fields))
    (found : fields.lookup pointer = some value) :
    d.has pointer ∧ ¬ Lists record.value "blockedFields" pointer ∧ pointer ∈ assessed ∧
      pointer ∉ flagged := by
  simp only [checkPartition, bind_ok_iff, mapError_ok_iff, okOr_ok_iff, refuseIf_ok_iff,
    refuseFirst_ok_iff, held, Option.bind_some, Tree.asObject, Option.some.injEq, not_not,
    not_and] at ok
  rcases ok with ⟨blocked, listed, _, _, _, rfl, _, inside, _, disjoint, _, _, _, kept, _, looked,
    _⟩
  have retained : pointer ∈ fields.map Prod.fst := by
    rcases List.lookup_eq_some_iff.mp found with ⟨_, _, rfl, _⟩
    simp
  refine ⟨inside pointer (List.mem_append_left _ retained), ?_, looked pointer retained, ?_⟩
  · intro blocks
    exact disjoint pointer retained ((orderedUnique_ok listed pointer).mpr blocks)
  · intro flags
    exact disjoint pointer retained (kept pointer flags)

theorem reducedYields_of_authorises {record assessment : ValidatedArtifact sha256}
    {policy locatorKind pointer : String} {detector : ExpectedDetector} {value : Tree}
    (kind : record.kind = .reducedSourceRecord locatorKind)
    (assesses : assessment.kind = .retentionAssessment)
    (ok : checkAuthorises record assessment policy detector = .ok ())
    (read : readPointer record pointer = .ok value) :
    ReducedYields record assessment locatorKind pointer value := by
  rcases checkAuthorises_ok ok with ⟨d, assessed, outcome, facts⟩
  rcases denominatorOf_reduced kind facts.denominator with ⟨r, required, rfl⟩
  rcases retainedField_some ((readPointer_reduced kind).mp read).2 with ⟨fields, held, found⟩
  have reduced := facts.rest
  simp only [if_true, checkReducedRecord, recordText, memberStr, bind_ok_iff, mapError_ok_iff,
    okOr_ok_iff, refuseIf_ok_iff, not_not] at reduced
  rcases reduced with ⟨_, _, _, _, _, same, _, rfl, _, refused, _, _, partitioned⟩
  rcases checkPartition_retained partitioned held found with
    ⟨inside, unblocked, looked, unflagged⟩
  refine ⟨⟨fields, held, found⟩, ⟨r, required, inside⟩, unblocked,
    (orderedUnique_ok facts.listed pointer).mp looked, ?_, _, ?_, facts.decided, same⟩
  · intro findings listed finding member named
    exact unflagged (mem_flaggedFields listed member named)
  · have stated := Option.some.inj ((assessment_outcome assesses).symm.trans facts.decided)
    have cases := computedOutcome_cases (assessment.pointer "/findings").isSome
      (decide (assessment.pointer "/coverageComplete" = some (.bool true)))
    rw [stated, List.mem_cons] at cases
    exact cases.resolve_left refused

/-- The assessment is retained under the digest that the record's retained binding names, and was
made under the caller's policy by the caller's detector. -/
structure AssessedFor (store : RetainedEvidence) (basis : DecisionBasis)
    (record assessment : ValidatedArtifact sha256) : Prop extends
    BoundTo store record assessment where
  policy : assessment.strAt "/redactionPolicyVersion" = some basis.expectedRedactionPolicy
  detector : assessment.strAt "/detector/id" = some basis.expectedDetector.id ∧
    assessment.strAt "/detector/version" = some basis.expectedDetector.version ∧
    assessment.strAt "/detector/configDigest" = some basis.expectedDetector.configDigest

def Confined (sha256 : Sha256) (store : RetainedEvidence) (basis : DecisionBasis)
    (input : DecisionInput) (value : Tree) : Prop :=
  ∃ record assessment : ValidatedArtifact sha256,
    store.resolve input.sourceDigest = some record.value ∧ record.digest = input.sourceDigest ∧
    AssessedFor store basis record assessment ∧
    ((∃ locatorKind, record.kind = .reducedSourceRecord locatorKind ∧
        ReducedYields record assessment locatorKind input.pointer value) ∨
      ∃ surface, record.kind = .completeProjection surface ∧
        CompleteYields record assessment surface input.pointer value)

theorem Authorises.assessedFor {basis : DecisionBasis} {record assessment : ValidatedArtifact sha256}
    (authorised : Authorises store basis.expected record assessment) :
    AssessedFor store basis record assessment := by
  rcases checkAuthorises_ok authorised.authorises with ⟨_, _, _, facts⟩
  exact ⟨authorised.toBoundTo, facts.underPolicy, checkDetector_ok facts.detected⟩

theorem gatedSource_gated {kind : ArtifactKind} (gated : kind.gate = .gated) :
    (∃ locatorKind, kind = .reducedSourceRecord locatorKind) ∨
      ∃ surface, kind = .completeProjection surface := by
  cases kind with
  | completeProjection surface => exact .inr ⟨surface, rfl⟩
  | reducedSourceRecord locatorKind => exact .inl ⟨locatorKind, rfl⟩
  | querySnapshot => cases gated
  | headReadEvent => cases gated
  | retentionAssessment => cases gated
  | retentionBinding => cases gated

theorem readInput_confined {basis : DecisionBasis} {input : DecisionInput} {o : ObservedField}
    {value : Tree} (read : readInput sha256 store basis.expected input = .ok (o, value)) :
    Confined sha256 store basis input value := by
  simp only [readInput, bind_ok_iff, pure_ok_iff, Prod.mk.injEq, resolveArtifact_ok_iff] at read
  rcases read with ⟨record, resolved, _, _, _, pointed, _, rfl⟩
  have gated := accepts_gatedSource.mp resolved.accepted
  rcases resolved.authorised gated with ⟨assessment, authorised⟩
  refine ⟨record, assessment, resolved.held, resolved.named, authorised.assessedFor, ?_⟩
  rcases gatedSource_gated gated with ⟨locatorKind, kind⟩ | ⟨surface, kind⟩
  · exact .inl ⟨locatorKind, kind, reducedYields_of_authorises kind authorised.kind
      authorised.authorises pointed⟩
  · exact .inr ⟨surface, kind, completeYields_of_authorises kind authorised.kind
      authorised.authorises ((readPointer_complete kind).mp pointed)⟩

/-- Every value of an admission was read through the gate. -/
theorem admitted_values_confined {profile : DecisionProfile} {basis : DecisionBasis}
    {values : List Tree} (admitted : admissibility sha256 profile basis store = .yes values) :
    List.Forall₂ (Confined sha256 store basis) basis.inputs values := by
  rcases admissibility_yes_iff.mp admitted with ⟨results, checked, rfl, _⟩
  refine List.forall₂_map_right_iff.mpr (checked.inputs.imp ?_)
  intro input result read
  rcases result with ⟨o, value⟩
  exact readInput_confined read

/-! Two retained checks, one of them whole and one without its name, in which a finding stands. -/

namespace Sample

def secretScan : ExpectedDetector := ⟨"secret-scan", "1", "sha256:00"⟩

def assessmentTree (outcome : String) (findings : List (String × Tree)) : Tree :=
  .object ([("assessedFields",
      .array (["/conclusion", "/head_sha", "/id", "/name", "/status"].map .string)),
    ("coverageComplete", .bool true),
    ("detector", .object [("configDigest", .string secretScan.configDigest),
      ("id", .string secretScan.id), ("version", .string secretScan.version)])] ++ findings ++
    [("observedAt", newYear), ("outcome", .string outcome),
      ("redactionPolicyVersion", .string "1"),
      ("representation", .string "decoded-source-field-values"), ("schemaVersion", one),
      ("sourceKind", .string "closure-retention-assessment")])

def bindingTree (recordDigest assessmentDigest : String) : Tree :=
  .object [("assessmentDigest", .string assessmentDigest), ("recordDigest", .string recordDigest),
    ("schemaVersion", one), ("sourceKind", .string "closure-retention-binding")]

def wholeDigest : String :=
  "sha256:225af0ef1fb0d39006b17fb9b5dd1d773852fc0a165b854e6ea73a059eb50816"

def wholeTree : Tree := checkTree "1" "worker gate" "success"

def wholeAssessmentDigest : String :=
  "sha256:b5ce76672f86183f81c20e9464ce694e238dc26a4a231d8193fa9580bf72a2c9"

def wholeAssessmentTree : Tree := assessmentTree "RETAIN" []

def wholeBindingDigest : String :=
  "sha256:6a060d2b4ef5cd1f88db578835654c6f9396b541a202fc19c21ea4bf37cb18c0"

def wholeBindingTree : Tree := bindingTree wholeDigest wholeAssessmentDigest

def reducedDigest : String :=
  "sha256:ae7f3b9e6a3d3c6fff3ce69a1198473e1b03094fc51d6920b69b650edda61be8"

def reducedTree : Tree :=
  .object [("blockedFields", .array [.string "/name"]), ("coverageComplete", .bool true),
    ("locator", .object [("repository", .string "o7/o7"), ("stableId", .string "2")]),
    ("locatorKind", .string "github-actions-check"), ("outcome", .string "BLOCK_SECRET"),
    ("redactionPolicyVersion", .string "1"),
    ("retainedFields", .object [("/conclusion", .string "failure"),
      ("/head_sha", .string secondCommit), ("/id", .string "2"), ("/status", .string "completed")]),
    ("schemaVersion", one), ("sourceKind", .string "github-reduced-source-record")]

def reducedAssessmentDigest : String :=
  "sha256:b82cff8ed2083267dbebc4fa7f23e709fd05c7a59f29d09244b22edc30fbe603"

def reducedAssessmentTree : Tree :=
  assessmentTree "BLOCK_SECRET" [("findings",
    .array [.object [("field", .string "/name"), ("findingId", .string "token")]])]

def reducedBindingDigest : String :=
  "sha256:b47853a6a8040b6bc60f65ee9733b9a42ff5922ec57e89dc96734dfbd45b4c3f"

def reducedBindingTree : Tree := bindingTree reducedDigest reducedAssessmentDigest

-- One theorem, so that the six digests are computed one after the other.
theorem retained_valid :
    validKind standardSha256 wholeDigest wholeTree =
      .ok (.completeProjection "github-actions-check") ∧
    validKind standardSha256 wholeAssessmentDigest wholeAssessmentTree =
      .ok .retentionAssessment ∧
    validKind standardSha256 wholeBindingDigest wholeBindingTree = .ok .retentionBinding ∧
    validKind standardSha256 reducedDigest reducedTree =
      .ok (.reducedSourceRecord "github-actions-check") ∧
    validKind standardSha256 reducedAssessmentDigest reducedAssessmentTree =
      .ok .retentionAssessment ∧
    validKind standardSha256 reducedBindingDigest reducedBindingTree = .ok .retentionBinding := by
  refine ⟨validKind_standard "github-actions-check" ?_ ?_ ?_ ?_,
    validKind_standard "closure-retention-assessment" ?_ ?_ ?_ ?_,
    validKind_standard "closure-retention-binding" ?_ ?_ ?_ ?_,
    validKind_standard "github-reduced-source-record" ?_ ?_ ?_ ?_,
    validKind_standard "closure-retention-assessment" ?_ ?_ ?_ ?_,
    validKind_standard "closure-retention-binding" ?_ ?_ ?_ ?_⟩ <;> decide +kernel

theorem whole_valid : validKind standardSha256 wholeDigest wholeTree =
    .ok (.completeProjection "github-actions-check") :=
  retained_valid.1

theorem wholeAssessment_valid :
    validKind standardSha256 wholeAssessmentDigest wholeAssessmentTree =
      .ok .retentionAssessment :=
  retained_valid.2.1

theorem wholeBinding_valid :
    validKind standardSha256 wholeBindingDigest wholeBindingTree = .ok .retentionBinding :=
  retained_valid.2.2.1

theorem reduced_valid : validKind standardSha256 reducedDigest reducedTree =
    .ok (.reducedSourceRecord "github-actions-check") :=
  retained_valid.2.2.2.1

theorem reducedAssessment_valid :
    validKind standardSha256 reducedAssessmentDigest reducedAssessmentTree =
      .ok .retentionAssessment :=
  retained_valid.2.2.2.2.1

theorem reducedBinding_valid :
    validKind standardSha256 reducedBindingDigest reducedBindingTree = .ok .retentionBinding :=
  retained_valid.2.2.2.2.2

def whole : ValidatedArtifact standardSha256 := ⟨wholeDigest, _, wholeTree, whole_valid⟩

def wholeAssessment : ValidatedArtifact standardSha256 :=
  ⟨wholeAssessmentDigest, _, wholeAssessmentTree, wholeAssessment_valid⟩

def wholeBinding : ValidatedArtifact standardSha256 :=
  ⟨wholeBindingDigest, _, wholeBindingTree, wholeBinding_valid⟩

def reduced : ValidatedArtifact standardSha256 := ⟨reducedDigest, _, reducedTree, reduced_valid⟩

def reducedAssessment : ValidatedArtifact standardSha256 :=
  ⟨reducedAssessmentDigest, _, reducedAssessmentTree, reducedAssessment_valid⟩

def reducedBinding : ValidatedArtifact standardSha256 :=
  ⟨reducedBindingDigest, _, reducedBindingTree, reducedBinding_valid⟩

def evidence : RetainedEvidence where
  resolve := fun digest => ([whole, wholeAssessment, wholeBinding, reduced, reducedAssessment,
    reducedBinding].map fun a => (a.digest, a.value)).lookup digest
  bindingFor := fun digest =>
    [(wholeDigest, wholeBindingTree), (reducedDigest, reducedBindingTree)].lookup digest

def basis : DecisionBasis where
  observationId := "checks"
  inputs :=
    [⟨wholeDigest, "/headSha", .check "o7/o7" "1"⟩, ⟨wholeDigest, "/conclusion", .check "o7/o7" "1"⟩,
     ⟨reducedDigest, "/head_sha", .check "o7/o7" "2"⟩]
  derived := []
  expectedQuery := none
  bindings := [⟨wholeDigest, wholeAssessmentDigest⟩]
  expectedRedactionPolicy := "1"
  expectedDetector := secretScan

def Chained (record binding assessment : ValidatedArtifact standardSha256) : Prop :=
  evidence.resolve record.digest = some record.value ∧
    evidence.bindingFor record.digest = some binding.value ∧
    evidence.resolve binding.digest = some binding.value ∧
    binding.strAt "/recordDigest" = some record.digest ∧
    binding.strAt "/assessmentDigest" = some assessment.digest ∧
    evidence.resolve assessment.digest = some assessment.value ∧
    checkAuthorises record assessment "1" secretScan = .ok () ∧
    ∀ b ∈ basis.bindings, b.recordDigest = record.digest → b.assessmentDigest = assessment.digest

instance (record binding assessment : ValidatedArtifact standardSha256) :
    Decidable (Chained record binding assessment) :=
  inferInstanceAs (Decidable (_ ∧ _))

theorem chained : Chained whole wholeBinding wholeAssessment ∧
    Chained reduced reducedBinding reducedAssessment := by
  constructor <;> decide +kernel

theorem Chained.authorises {record binding assessment : ValidatedArtifact standardSha256}
    (chained : Chained record binding assessment) (binds : binding.kind = .retentionBinding)
    (assesses : assessment.kind = .retentionAssessment) :
    Authorises evidence basis.expected record assessment := by
  rcases chained with ⟨_, bound, heldBinding, names, named, held, authorised, declared⟩
  exact ⟨⟨⟨binding.value, binding, bound, binding.closedForm.1, heldBinding, binds, names, named⟩,
    held, assesses⟩, authorised, declared⟩

theorem whole_resolves :
    Resolves evidence basis.expected wholeDigest .gatedSource whole :=
  ⟨chained.1.1, rfl, rfl, fun _ => ⟨wholeAssessment, chained.1.authorises rfl rfl⟩⟩

theorem reduced_resolves :
    Resolves evidence basis.expected reducedDigest .gatedSource reduced :=
  ⟨chained.2.1, rfl, rfl, fun _ => ⟨reducedAssessment, chained.2.authorises rfl rfl⟩⟩

def results : List (ObservedField × Tree) :=
  [(⟨"github-actions-check", "/headSha", wholeDigest⟩, .string firstCommit),
   (⟨"github-actions-check", "/conclusion", wholeDigest⟩, .string "success"),
   (⟨"github-actions-check", "/head_sha", reducedDigest⟩, .string secondCommit)]

theorem fields :
    whole.pointer "/headSha" = some (.string firstCommit) ∧
    whole.pointer "/conclusion" = some (.string "success") ∧
    (¬ blocks reduced "/head_sha" = true ∧
      retainedField reduced "/head_sha" = some (.string secondCommit)) ∧
    (concernsSource reduced reducedDigest (.check "o7/o7" "2")).isOk = true ∧
    (checkCompleteness .check basis (.ofResults results)).isEmpty = true := by
  refine ⟨by decide +kernel, by decide +kernel, ⟨by decide +kernel, by decide +kernel⟩,
    by decide +kernel, by decide +kernel⟩

theorem inputsRead : InputsRead standardSha256 evidence basis.expected basis.inputs results := by
  have head : readPointer whole "/headSha" = _ := (readPointer_complete rfl).mpr fields.1
  have conclusion : readPointer whole "/conclusion" = _ :=
    (readPointer_complete rfl).mpr fields.2.1
  have reducedHead : readPointer reduced "/head_sha" = _ :=
    (readPointer_reduced rfl).mpr fields.2.2.1
  exact .cons (readInput_of_resolves whole_resolves rfl rfl head)
    (.cons (readInput_of_resolves whole_resolves rfl rfl conclusion)
      (.cons (readInput_of_resolves reduced_resolves rfl (ok_of_isOk fields.2.2.2.1) reducedHead)
        .nil))

theorem checked : Checked standardSha256 evidence basis results where
  inputs := inputsRead
  derived := fun _ member => absurd member List.not_mem_nil
  query := fun _ member => absurd member (Option.not_mem_none _)

theorem admitted : admissibility standardSha256 .check basis evidence =
    .yes [.string firstCommit, .string "success", .string secondCommit] :=
  admissibility_yes_iff.mpr ⟨results, checked, rfl, List.isEmpty_iff.mp fields.2.2.2.2⟩

end Sample

theorem admitted_values_confined_check :
    List.Forall₂ (Confined standardSha256 Sample.evidence Sample.basis) Sample.basis.inputs
      [.string firstCommit, .string "success", .string secondCommit] :=
  admitted_values_confined Sample.admitted

end O7Formal.Closure
