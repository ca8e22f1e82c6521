import O7Formal.Closure.Door
import O7Formal.Closure.Gate

/-! The two halves of a reduced record are computed from its assessment. The gate checks inclusions
one by one; together they are the equations of the partition. -/

namespace O7Formal.Closure

open Json Fallible
open Run (Sha256 standardSha256)

/-- What is blocked is flagged or unexamined, what is retained is examined and unflagged, and the
two make up what is required. -/
structure Partition {α : Type} (inside required retained blocked flagged assessed : α → Prop) :
    Prop where
  blocked_iff : ∀ p, blocked p ↔ flagged p ∨ required p ∧ ¬ assessed p
  retained_iff : ∀ p, retained p ↔ required p ∧ assessed p ∧ ¬ flagged p
  disjoint : ∀ p, ¬ (retained p ∧ blocked p)
  union : ∀ p, required p ↔ retained p ∨ blocked p
  examined : ∀ p, flagged p → assessed p
  known : ∀ p, assessed p → inside p

section Inclusions

variable {α : Type} {always optional retained blocked flagged assessed : α → Prop}

/-- Required are the fields that always are, and the optional ones that a half names. -/
def Requires (always optional retained blocked : α → Prop) (p : α) : Prop :=
  always p ∨ optional p ∧ (retained p ∨ blocked p)

structure Inclusions (always optional retained blocked flagged assessed : α → Prop) : Prop where
  assessedInside : ∀ p, assessed p → always p ∨ optional p
  findingsAssessed : ∀ p, flagged p → assessed p
  halvesInside : ∀ p, retained p ∨ blocked p → always p ∨ optional p
  apart : ∀ p, retained p → ¬ blocked p
  accounted : ∀ p, always p → blocked p ∨ retained p
  findingsBlocked : ∀ p, flagged p → blocked p
  retainedAssessed : ∀ p, retained p → assessed p
  unthinned : ∀ p, blocked p → assessed p → flagged p

theorem Inclusions.union (checks : Inclusions always optional retained blocked flagged assessed)
    (p : α) : Requires always optional retained blocked p ↔ retained p ∨ blocked p := by
  constructor
  · rintro (required | ⟨_, named⟩)
    · exact (checks.accounted p required).symm
    · exact named
  · intro named
    rcases checks.halvesInside p named with required | possible
    · exact .inl required
    · exact .inr ⟨possible, named⟩

theorem partition_iff_inclusions :
    Partition (fun p => always p ∨ optional p) (Requires always optional retained blocked) retained
      blocked flagged assessed ↔
      Inclusions always optional retained blocked flagged assessed := by
  constructor
  · intro parts
    have assessedOf : ∀ p, retained p → assessed p := fun p keeps =>
      ((parts.retained_iff p).mp keeps).2.1
    refine ⟨parts.known, parts.examined, ?_, fun p keeps blocks => parts.disjoint p ⟨keeps, blocks⟩,
      ?_, fun p flags => (parts.blocked_iff p).mpr (.inl flags), assessedOf, ?_⟩
    · intro p named
      rcases (parts.union p).mpr named with required | ⟨possible, _⟩
      · exact .inl required
      · exact .inr possible
    · intro p required
      exact ((parts.union p).mp (.inl required)).symm
    · intro p blocks looked
      exact ((parts.blocked_iff p).mp blocks).resolve_right fun unexamined => unexamined.2 looked
  · intro checks
    refine ⟨?_, ?_, fun p both => checks.apart p both.1 both.2, checks.union,
      checks.findingsAssessed, checks.assessedInside⟩
    · intro p
      constructor
      · intro blocks
        by_cases looked : assessed p
        · exact .inl (checks.unthinned p blocks looked)
        · exact .inr ⟨(checks.union p).mpr (.inr blocks), looked⟩
      · rintro (flags | ⟨required, unexamined⟩)
        · exact checks.findingsBlocked p flags
        · exact ((checks.union p).mp required).resolve_left fun keeps =>
            unexamined (checks.retainedAssessed p keeps)
    · intro p
      constructor
      · intro keeps
        exact ⟨(checks.union p).mpr (.inl keeps), checks.retainedAssessed p keeps,
          fun flags => checks.apart p keeps (checks.findingsBlocked p flags)⟩
      · rintro ⟨required, looked, unflagged⟩
        exact ((checks.union p).mp required).resolve_right fun blocks =>
          unflagged (checks.unthinned p blocks looked)

end Inclusions

variable {sha256 : Sha256} {record assessment : ValidatedArtifact sha256} {locatorKind : String}

def Blocked (record : ValidatedArtifact sha256) (p : String) : Prop :=
  Lists record.value "blockedFields" p

def Retained (record : ValidatedArtifact sha256) (p : String) : Prop :=
  ∃ fields, record.pointer "/retainedFields" = some (.object fields) ∧ p ∈ fields.map Prod.fst

def Assessed (assessment : ValidatedArtifact sha256) (p : String) : Prop :=
  Lists assessment.value "assessedFields" p

def Flagged (assessment : ValidatedArtifact sha256) (p : String) : Prop :=
  ∃ findings, assessment.pointer "/findings" = some (.array findings) ∧
    ∃ finding ∈ findings, finding.strAt "/field" = some p

def Required (r : RequiredFields) (record : ValidatedArtifact sha256) : String → Prop :=
  Requires (· ∈ r.always) (· ∈ r.presentOnly.map PresentOnly.decoded) (Retained record)
    (Blocked record)

theorem mem_flaggedFields_iff {p : String} :
    p ∈ flaggedFields assessment ↔ Flagged assessment p := by
  constructor
  · intro member
    rw [flaggedFields] at member
    split at member
    · rename_i findings held
      simp only [Option.bind_eq_some_iff, Tree.asArray_some_iff] at held
      rcases held with ⟨_, held, rfl⟩
      exact ⟨findings, held, List.mem_filterMap.mp member⟩
    · cases member
  · rintro ⟨findings, held, finding, member, named⟩
    exact mem_flaggedFields held member named

structure ReducedMembers (record : ValidatedArtifact sha256) (fields : List (String × Tree))
    (blocked : List String) : Prop where
  retained : record.pointer "/retainedFields" = some (.object fields)
  blocked : record.pointer "/blockedFields" = some (.array (blocked.map .string))
  refused : ∃ outcome ∈ ["BLOCK_SECRET", "CANNOT_ASSESS"], record.strAt "/outcome" = some outcome

theorem partitionTokens : pointerTokens "/retainedFields" = some ["retainedFields"] ∧
    pointerTokens "/blockedFields" = some ["blockedFields"] ∧
    pointerTokens "/outcome" = some ["outcome"] := by
  decide +kernel

theorem reducedMembers (reduced : record.kind = .reducedSourceRecord locatorKind) :
    ∃ fields blocked, ReducedMembers record fields blocked := by
  have keeps : .mk "retainedFields" true .openObject ∈ reducedRecord := by simp [reducedRecord]
  have blocks : .mk "blockedFields" true .textArray ∈ reducedRecord := by
    simp [reducedRecord, textArray]
  have decides : .mk "outcome" true (.oneOf ["BLOCK_SECRET", "CANNOT_ASSESS"]) ∈ reducedRecord := by
    simp [reducedRecord]
  have form := (validKind_ok_iff.mp record.valid).2
  rw [reduced] at form
  cases form with
  | reducedSourceRecord shape locator registered declares conforms selected located locates =>
      rcases conforms.member keeps partitionTokens.1 with ⟨_, held, isObject⟩
      rcases conforms.member blocks partitionTokens.2.1 with ⟨_, listed, isTexts⟩
      rcases conforms.member decides partitionTokens.2.2 with ⟨_, stated, isOutcome⟩
      cases isObject with
      | openObject fields =>
          cases isTexts with
          | textArray blocked =>
              cases isOutcome with
              | @oneOf _ outcome among =>
                  refine ⟨fields, blocked, held, listed, outcome, among, ?_⟩
                  rw [ValidatedArtifact.strAt, Tree.strAt, stated]
                  rfl

namespace ReducedMembers

variable {fields : List (String × Tree)} {blocked : List String}
  (members : ReducedMembers record fields blocked)

include members

theorem retained_iff {p : String} : Retained record p ↔ p ∈ fields.map Prod.fst := by
  constructor
  · rintro ⟨others, held, member⟩
    cases held.symm.trans members.retained
    exact member
  · exact fun member => ⟨fields, members.retained, member⟩

theorem blocked_iff {p : String} : Blocked record p ↔ p ∈ blocked := by
  constructor
  · rintro ⟨items, held, member⟩
    cases held.symm.trans members.blocked
    simpa using member
  · exact fun member => ⟨_, members.blocked, List.mem_map_of_mem member⟩

theorem named_iff (p : String) :
    (namedIn record "retainedFields" p || namedIn record "blockedFields" p) = true ↔
      Retained record p ∨ Blocked record p := by
  have keeps : record.pointer ("/" ++ "retainedFields") = some (.object fields) := members.retained
  have blocks : record.pointer ("/" ++ "blockedFields") = some (.array (blocked.map .string)) :=
    members.blocked
  rw [members.retained_iff, members.blocked_iff, namedIn, namedIn, keeps, blocks, Bool.or_eq_true]
  apply or_congr
  · rw [← not_iff_not, Bool.not_eq_true, Option.isSome_eq_false_iff, Option.isNone_iff_eq_none,
      List.lookup_eq_none_iff]
    simp only [bne_iff_ne, List.mem_map, not_exists, not_and, ne_eq, eq_comm (a := p)]
  · simp [Tree.asStr]

theorem presentNow_iff {r : RequiredFields} {p : String} :
    p ∈ presentNow record ⟨true, r.always, r.presentOnly⟩ ↔
      p ∈ r.presentOnly.map PresentOnly.decoded ∧ (Retained record p ∨ Blocked record p) := by
  simp only [presentNow, if_true, List.mem_map, List.mem_filter, members.named_iff]
  constructor
  · rintro ⟨f, ⟨member, named⟩, rfl⟩
    exact ⟨⟨f, member, rfl⟩, named⟩
  · rintro ⟨⟨f, member, rfl⟩, named⟩
    exact ⟨f, ⟨member, named⟩, rfl⟩

theorem checkPartition_ok_iff {r : RequiredFields} {assessed flagged : List String} :
    checkPartition record ⟨true, r.always, r.presentOnly⟩ assessed flagged = .ok () ↔
      ListsAscending record.value "blockedFields" blocked ∧ (∃ p, Blocked record p) ∧
        (∀ p, Retained record p ∨ Blocked record p → r.has p) ∧
        (∀ p, Retained record p → ¬ Blocked record p) ∧
        (∀ p ∈ r.always, Blocked record p ∨ Retained record p) ∧
        (∀ p ∈ flagged, Blocked record p) ∧ (∀ p, Retained record p → p ∈ assessed) ∧
        ∀ p, Blocked record p → p ∈ assessed → p ∈ flagged := by
  have texts : ∀ others, ListsAscending record.value "blockedFields" others → others = blocked := by
    intro others listed
    have same := listed.held.symm.trans members.blocked
    exact texts_injective (Tree.array.inj (Option.some.inj same))
  simp only [members.retained_iff, members.blocked_iff, checkPartition, bind_ok_iff,
    mapError_ok_iff, orderedUnique_ok_iff, okOr_ok_iff, refuseIf_ok_iff, refuseFirst_ok_iff,
    members.retained, Option.bind_some, Tree.asObject, Option.some.injEq, not_not]
  constructor
  · rintro ⟨others, listed, _, nonempty, _, rfl, _, inside, _, apart, _, accounted, _, kept, _,
      looked, thinned⟩
    cases texts others listed
    refine ⟨listed, List.exists_mem_of_ne_nil _ nonempty, ?_, apart, ?_, kept, looked, ?_⟩
    · intro p named
      exact inside p (List.mem_append.mpr named)
    · intro p required
      have either := accounted p required
      tauto
    · intro p blocks assessed
      have either := thinned p blocks
      tauto
  · rintro ⟨listed, ⟨p, blocks⟩, inside, apart, accounted, kept, looked, thinned⟩
    refine ⟨blocked, listed, (), List.ne_nil_of_mem blocks, _, rfl, (), ?_, (), apart, (), ?_, (),
      kept, (), looked, ?_⟩
    · intro q member
      exact inside q (List.mem_append.mp member)
    · intro q required
      have either := accounted q required
      tauto
    · rintro q member ⟨assessed, unflagged⟩
      exact unflagged (thinned q member assessed)

end ReducedMembers

/-- What the record and its assessment have to agree on, besides the partition. -/
structure Agreed (r : RequiredFields) (record assessment : ValidatedArtifact sha256)
    (policy : String) (detector : ExpectedDetector) : Prop where
  detectorId : assessment.strAt "/detector/id" = some detector.id
  detectorVersion : assessment.strAt "/detector/version" = some detector.version
  detectorConfig : assessment.strAt "/detector/configDigest" = some detector.configDigest
  assessedUnder : assessment.strAt "/redactionPolicyVersion" = some policy
  recordedUnder : record.strAt "/redactionPolicyVersion" = some policy
  outcome : record.strAt "/outcome" = assessment.strAt "/outcome"
  coverage : record.pointer "/coverageComplete" = assessment.pointer "/coverageComplete"
  covers : assessment.pointer "/coverageComplete" = some (.bool true) →
    ∀ p, Required r record p → Assessed assessment p

/-- The halves of the record are those that its assessment gives, and its blocked fields are in
order. -/
structure Parted (r : RequiredFields) (record assessment : ValidatedArtifact sha256) : Prop where
  partition : Partition r.has (Required r record) (Retained record) (Blocked record)
    (Flagged assessment) (Assessed assessment)
  nonempty : ∃ p, Blocked record p
  ascending : ∃ blocked, ListsAscending record.value "blockedFields" blocked

theorem requiredFields_of_shape : ∀ shape ∈ locatorShapes,
    (requiredFields shape.locatorKind).isSome = true := by
  decide +kernel

theorem denominatorOf_of_reduced {r : RequiredFields}
    (reduced : record.kind = .reducedSourceRecord locatorKind)
    (required : requiredFields locatorKind = some r) :
    denominatorOf record = .ok ⟨true, r.always, r.presentOnly⟩ := by
  rcases record.reduced reduced with ⟨named, located⟩
  simp [denominatorOf, named, located, okOr, required, Denominator.ofRequired, pure, Except.pure]

theorem checkDetector_ok_iff {detector : ExpectedDetector} :
    checkDetector assessment detector = .ok () ↔
      assessment.strAt "/detector/id" = some detector.id ∧
        assessment.strAt "/detector/version" = some detector.version ∧
        assessment.strAt "/detector/configDigest" = some detector.configDigest := by
  constructor
  · exact checkDetector_ok
  · rintro ⟨id, version, config⟩
    simp [checkDetector, id, version, config, okOr, refuseIf, pure, Except.pure]

theorem checkCoverage_ok_iff {r : RequiredFields} {assessed : List String}
    {fields : List (String × Tree)} {blocked : List String}
    (members : ReducedMembers record fields blocked) :
    checkCoverage record assessment ⟨true, r.always, r.presentOnly⟩ assessed = .ok () ↔
      (assessment.pointer "/coverageComplete" = some (.bool true) →
        ∀ p, Required r record p → p ∈ assessed) := by
  rw [checkCoverage]
  split_ifs with complete
  · simp only [bind_ok_iff, refuseFirst_ok_iff, not_not, exists_const, complete, true_imp_iff,
      members.presentNow_iff, Required, Requires]
    constructor
    · rintro ⟨always, present⟩ p (required | named)
      · exact always p required
      · exact present p named
    · intro all
      exact ⟨fun p required => all p (.inl required), fun p named => all p (.inr named)⟩
  · simp [complete]

variable {policy : String} {detector : ExpectedDetector} {r : RequiredFields}

theorem authorises_iff_parted (reduced : record.kind = .reducedSourceRecord locatorKind)
    (assesses : assessment.kind = .retentionAssessment)
    (required : requiredFields locatorKind = some r) :
    checkAuthorises record assessment policy detector = .ok () ↔
      Agreed r record assessment policy detector ∧ Parted r record assessment := by
  rcases reducedMembers reduced with ⟨fields, blocked, members⟩
  have form := (validKind_ok_iff.mp assessment.valid).2
  rw [assesses] at form
  cases form with
  | retentionAssessment declares closed =>
      rcases closed.assessedFields with ⟨assessed, listed⟩
      have looked : ∀ p, p ∈ assessed ↔ Assessed assessment p :=
        orderedUnique_ok (orderedUnique_ok_iff.mpr listed)
      have determined : ∀ others, orderedUnique assessment.value "assessedFields" = .ok others ↔
          assessed = others := by
        intro others
        rw [orderedUnique_ok_iff.mpr listed, Except.ok.injEq]
      simp only [checkAuthorises, assessmentText, memberStr, bind_ok_iff, mapError_ok_iff,
        okOr_ok_iff, refuseIf_ok_iff, refuseFirst_ok_iff, not_not, exists_const, determined,
        denominatorOf_of_reduced reduced required, Except.ok.injEq, exists_eq_left',
        checkCoverage_ok_iff members, if_true, checkReducedRecord, recordText,
        members.checkPartition_ok_iff, mem_flaggedFields_iff, looked]
      constructor
      · rintro ⟨_, detected, _, assessedUnder, rfl, inside, outcome, decided, examined, covers, _,
          recordedUnder, rfl, _, stated, rfl, _, coverage, ascending, nonempty, halves, apart,
          accounted, kept, seen, unthinned⟩
        rcases checkDetector_ok detected with ⟨id, version, config⟩
        refine ⟨⟨id, version, config, assessedUnder, recordedUnder, stated.trans decided.symm,
          coverage, covers⟩, ?_, nonempty, blocked, ascending⟩
        exact partition_iff_inclusions.mpr
          ⟨inside, examined, halves, apart, accounted, kept, seen, unthinned⟩
      · rintro ⟨agreed, parted⟩
        rcases members.refused with ⟨outcome, among, stated⟩
        rcases parted.ascending with ⟨others, ascending⟩
        have same := ascending.held.symm.trans members.blocked
        cases texts_injective (Tree.array.inj (Option.some.inj same))
        have checks := partition_iff_inclusions.mp parted.partition
        have refused : outcome ≠ "RETAIN" := by
          rintro rfl
          simp at among
        exact ⟨(), checkDetector_ok_iff.mpr ⟨agreed.detectorId, agreed.detectorVersion,
          agreed.detectorConfig⟩, policy, agreed.assessedUnder, rfl, checks.assessedInside, outcome,
          agreed.outcome.symm.trans stated, checks.findingsAssessed, agreed.covers, policy,
          agreed.recordedUnder, rfl, outcome, stated, rfl, refused, agreed.coverage, ascending,
          parted.nonempty, checks.halvesInside, checks.apart, checks.accounted,
          checks.findingsBlocked, checks.retainedAssessed, checks.unthinned⟩

/-- A reduced record has a set of required fields, and the gate authorises it exactly when its
halves are those that the assessment gives. -/
theorem partition_computed (reduced : record.kind = .reducedSourceRecord locatorKind)
    (assesses : assessment.kind = .retentionAssessment) :
    ∃ r, requiredFields locatorKind = some r ∧ ∀ policy detector,
      checkAuthorises record assessment policy detector = .ok () ↔
        Agreed r record assessment policy detector ∧ Parted r record assessment := by
  have form := (validKind_ok_iff.mp record.valid).2
  rw [reduced] at form
  cases id form with
  | reducedSourceRecord shape locator registered declares conforms selected located locates =>
      rcases Option.isSome_iff_exists.mp (requiredFields_of_shape shape registered) with
        ⟨r, required⟩
      exact ⟨r, required, fun policy detector => authorises_iff_parted reduced assesses required⟩

namespace Sample

def halvedTree (blocked : List String) (retained : List (String × Tree)) : Tree :=
  .object [("blockedFields", .array (blocked.map .string)), ("coverageComplete", .bool true),
    ("locator", .object [("repository", .string "o7/o7"), ("stableId", .string "2")]),
    ("locatorKind", .string "github-actions-check"), ("outcome", .string "BLOCK_SECRET"),
    ("redactionPolicyVersion", .string "1"), ("retainedFields", .object retained),
    ("schemaVersion", one), ("sourceKind", .string "github-reduced-source-record")]

def droppedDigest : String :=
  "sha256:f11d7bd398ee3ffadb71324aa4c31f6c68369a9f0b91824990c15ed6bc4a0999"

def droppedTree : Tree := halvedTree ["/name"]
  [("/head_sha", .string secondCommit), ("/id", .string "2"), ("/status", .string "completed")]

def repeatedDigest : String :=
  "sha256:4a1f1b6412a9ba702ed9115b4f017fdad6f9c3896008af59c5fa1040f4944869"

def repeatedTree : Tree := halvedTree ["/name", "/name"]
  [("/conclusion", .string "failure"), ("/head_sha", .string secondCommit), ("/id", .string "2"),
    ("/status", .string "completed")]

theorem halved_valid :
    validKind standardSha256 droppedDigest droppedTree =
      .ok (.reducedSourceRecord "github-actions-check") ∧
    validKind standardSha256 repeatedDigest repeatedTree =
      .ok (.reducedSourceRecord "github-actions-check") := by
  constructor <;> refine validKind_standard "github-reduced-source-record" ?_ ?_ ?_ ?_ <;>
    decide +kernel

theorem dropped_valid : validKind standardSha256 droppedDigest droppedTree =
    .ok (.reducedSourceRecord "github-actions-check") :=
  halved_valid.1

theorem repeated_valid : validKind standardSha256 repeatedDigest repeatedTree =
    .ok (.reducedSourceRecord "github-actions-check") :=
  halved_valid.2

def dropped : ValidatedArtifact standardSha256 := ⟨droppedDigest, _, droppedTree, dropped_valid⟩

def repeated : ValidatedArtifact standardSha256 :=
  ⟨repeatedDigest, _, repeatedTree, repeated_valid⟩

theorem halved_reads :
    checkAuthorises dropped reducedAssessment "1" secretScan = .ok () ∧
    checkAuthorises repeated reducedAssessment "1" secretScan ≠ .ok () ∧
    reducedAssessment.pointer "/findings" =
      some (.array [.object [("field", .string "/name"), ("findingId", .string "token")]]) ∧
    reducedAssessment.pointer "/assessedFields" =
      some (.array (["/conclusion", "/head_sha", "/id", "/name", "/status"].map .string)) ∧
    dropped.pointer "/retainedFields" = some (.object [("/head_sha", .string secondCommit),
      ("/id", .string "2"), ("/status", .string "completed")]) ∧
    repeated.pointer "/retainedFields" = reduced.pointer "/retainedFields" ∧
    repeated.pointer "/blockedFields" = some (.array [.string "/name", .string "/name"]) ∧
    reduced.pointer "/blockedFields" = some (.array [.string "/name"]) ∧
    (∀ path ∈ ["/redactionPolicyVersion", "/outcome"], repeated.strAt path = reduced.strAt path) ∧
    repeated.pointer "/coverageComplete" = reduced.pointer "/coverageComplete" := by
  refine ⟨by decide +kernel, by decide +kernel, rfl, rfl, rfl, rfl, rfl, rfl, by decide +kernel, rfl⟩

theorem conclusion_dropped : Assessed reducedAssessment "/conclusion" ∧
    ¬ Flagged reducedAssessment "/conclusion" ∧ ¬ Retained dropped "/conclusion" := by
  rcases halved_reads with ⟨_, _, findings, assessed, retained, _⟩
  refine ⟨⟨_, assessed, by simp⟩, ?_, ?_⟩
  · rintro ⟨others, held, finding, member, named⟩
    cases held.symm.trans findings
    cases List.mem_singleton.mp member
    revert named
    decide +kernel
  · rintro ⟨others, held, member⟩
    cases held.symm.trans retained
    revert member
    decide

theorem repeated_halves : Retained repeated = Retained reduced ∧
    Blocked repeated = Blocked reduced := by
  rcases halved_reads with ⟨_, _, _, _, _, retained, twice, once, _⟩
  constructor
  · funext p
    rw [Retained, Retained, retained]
  · funext p
    have first : Blocked repeated p ↔ p = "/name" := by
      constructor
      · rintro ⟨items, held, member⟩
        cases held.symm.trans twice
        simpa using member
      · rintro rfl
        exact ⟨_, twice, by simp⟩
    have second : Blocked reduced p ↔ p = "/name" := by
      constructor
      · rintro ⟨items, held, member⟩
        cases held.symm.trans once
        simpa using member
      · rintro rfl
        exact ⟨_, once, by simp⟩
    exact propext (first.trans second.symm)

end Sample

theorem partition_computed_check :
    ∃ r, requiredFields "github-actions-check" = some r ∧ ∀ policy detector,
      checkAuthorises Sample.reduced Sample.reducedAssessment policy detector = .ok () ↔
        Agreed r Sample.reduced Sample.reducedAssessment policy detector ∧
          Parted r Sample.reduced Sample.reducedAssessment :=
  partition_computed rfl rfl

/-- An assessed field that no finding names may be missing from both halves; and where the halves
are the computed ones, the record may still be refused for the order it lists them in. -/
theorem partition_not_of_assessed :
    (¬ ∀ (record assessment : ValidatedArtifact standardSha256) (locatorKind policy : String)
      (detector : ExpectedDetector), record.kind = .reducedSourceRecord locatorKind →
        assessment.kind = .retentionAssessment →
        checkAuthorises record assessment policy detector = .ok () →
        ∀ p, Retained record p ↔ Assessed assessment p ∧ ¬ Flagged assessment p) ∧
    ¬ ∀ (record assessment : ValidatedArtifact standardSha256) (locatorKind policy : String)
      (detector : ExpectedDetector) (r : RequiredFields),
        record.kind = .reducedSourceRecord locatorKind →
        assessment.kind = .retentionAssessment → requiredFields locatorKind = some r →
        Agreed r record assessment policy detector →
        Partition r.has (Required r record) (Retained record) (Blocked record)
          (Flagged assessment) (Assessed assessment) →
        (∃ p, Blocked record p) → checkAuthorises record assessment policy detector = .ok () := by
  rcases Sample.halved_reads with ⟨authorised, refused, _, _, _, _, _, _, texts, coverage⟩
  constructor
  · intro claimed
    rcases Sample.conclusion_dropped with ⟨assessed, unflagged, dropped⟩
    exact dropped ((claimed _ _ _ _ _ rfl rfl authorised "/conclusion").mpr ⟨assessed, unflagged⟩)
  · intro claimed
    rcases Option.isSome_iff_exists.mp (by decide +kernel :
      (requiredFields "github-actions-check").isSome = true) with ⟨r, required⟩
    rcases (authorises_iff_parted rfl rfl required).mp Sample.chained.2.2.2.2.2.2.2.1 with
      ⟨agreed, parted⟩
    rcases Sample.repeated_halves with ⟨retained, blocked⟩
    have same : Required r Sample.repeated = Required r Sample.reduced := by
      rw [Required, Required, retained, blocked]
    refine refused (claimed Sample.repeated Sample.reducedAssessment _ "1" Sample.secretScan r rfl
      rfl required ?_ ?_ ?_)
    · exact ⟨agreed.detectorId, agreed.detectorVersion, agreed.detectorConfig,
        agreed.assessedUnder, (texts _ (by decide)).trans agreed.recordedUnder,
        (texts _ (by decide)).trans agreed.outcome, coverage.trans agreed.coverage,
        same ▸ agreed.covers⟩
    · rw [same, retained, blocked]
      exact parted.partition
    · rw [blocked]
      exact parted.nonempty

end O7Formal.Closure
