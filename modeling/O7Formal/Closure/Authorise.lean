import O7Formal.Closure.Artifact

/-! When a retained assessment authorises a retained record. -/

namespace O7Formal.Closure

open Json Fallible
open Run (Sha256)

structure ExpectedDetector where
  id : String
  version : String
  configDigest : String
  deriving DecidableEq

inductive AuthoriseFault where
  | assessment (fault : AssessmentFault)
  | record (fault : AssessmentFault)
  | detectorNotString (member : String)
  | detectorDiffers (member declared expected : String)
  | policyDiffers (declared expected : String)
  | sourceKindMissing
  | locatorKindMissing
  | noRequiredSet (locatorKind : String)
  | assessedOutside (pointer : String)
  | findingUnassessed (pointer : String)
  | alwaysUnassessed (pointer : String)
  | presentUnassessed (pointer : String)
  | notRetained (outcome : String)
  | recordPolicyDiffers (declared assessed : String)
  | recordOutcomeDiffers (declared assessed : String)
  | reducedRetained
  | coverageDiffers
  | nothingBlocked
  | retainedFieldsMissing
  | partitionOutside (pointer : String)
  | retainedAndBlocked (pointer : String)
  | unaccounted (pointer : String)
  | findingKept (pointer : String)
  | retainedUnassessed (pointer : String)
  | thinned (pointer : String)
  deriving DecidableEq, Repr

structure Denominator where
  isReduced : Bool
  always : List String
  presentOnly : List PresentOnly

def Denominator.ofRequired (isReduced : Bool) : Option RequiredFields → Denominator
  | some r => ⟨isReduced, r.always, r.presentOnly⟩
  | none => ⟨isReduced, [], []⟩

def Denominator.has (d : Denominator) (pointer : String) : Prop :=
  pointer ∈ d.always ∨ pointer ∈ d.presentOnly.map PresentOnly.decoded

instance (d : Denominator) : DecidablePred d.has := fun pointer =>
  inferInstanceAs (Decidable (pointer ∈ _ ∨ pointer ∈ _))

variable {sha256 : Sha256}

def denominatorOf (record : ValidatedArtifact sha256) : Except AuthoriseFault Denominator := do
  let kind ← okOr (record.strAt "/sourceKind") .sourceKindMissing
  if kind ≠ "github-reduced-source-record" then
    return Denominator.ofRequired false (requiredFields kind)
  else
    let locatorKind ← okOr (record.strAt "/locatorKind") .locatorKindMissing
    let required ← okOr (requiredFields locatorKind) (.noRequiredSet locatorKind)
    return Denominator.ofRequired true (some required)

/-- A half of a reduced record names the pointer: a list by an item, an object by a key. -/
def namedIn (record : ValidatedArtifact sha256) (member pointer : String) : Bool :=
  match record.pointer ("/" ++ member) with
  | some (.array items) => items.any fun item => item.asStr = some pointer
  | some (.object fields) => (fields.lookup pointer).isSome
  | _ => false

def carries (record : ValidatedArtifact sha256) (canonical : String) : Bool :=
  match record.pointer ("/" ++ canonical) with
  | some v => !v.isNull
  | none => false

def presentNow (record : ValidatedArtifact sha256) (d : Denominator) : List String :=
  (d.presentOnly.filter fun f =>
    if d.isReduced then
      namedIn record "retainedFields" f.decoded || namedIn record "blockedFields" f.decoded
    else carries record f.canonical).map PresentOnly.decoded

def flaggedFields (assessment : ValidatedArtifact sha256) : List String :=
  match (assessment.pointer "/findings").bind Tree.asArray with
  | some findings => findings.filterMap fun f => f.strAt "/field"
  | none => []

def checkDetector (assessment : ValidatedArtifact sha256) (expected : ExpectedDetector) :
    Except AuthoriseFault Unit :=
  [("id", expected.id), ("version", expected.version),
    ("configDigest", expected.configDigest)].foldlM (fun _ entry => do
      let declared ← okOr (assessment.strAt ("/detector/" ++ entry.1)) (.detectorNotString entry.1)
      refuseIf (declared ≠ entry.2) (.detectorDiffers entry.1 declared entry.2)) ()

def assessmentText (assessment : ValidatedArtifact sha256) (name : String) :
    Except AuthoriseFault String :=
  (memberStr assessment.value name).mapError .assessment

def recordText (record : ValidatedArtifact sha256) (name : String) :
    Except AuthoriseFault String :=
  (memberStr record.value name).mapError .record

def checkCoverage (record assessment : ValidatedArtifact sha256) (d : Denominator)
    (assessed : List String) : Except AuthoriseFault Unit :=
  if assessment.pointer "/coverageComplete" = some (.bool true) then do
    refuseFirst d.always (fun p => p ∉ assessed) .alwaysUnassessed
    refuseFirst (presentNow record d) (fun p => p ∉ assessed) .presentUnassessed
  else .ok ()

/-- A reduced record keeps exactly the assessed fields that no finding names. -/
def checkPartition (record : ValidatedArtifact sha256) (d : Denominator)
    (assessed flagged : List String) : Except AuthoriseFault Unit := do
  let blocked ← (orderedUnique record.value "blockedFields").mapError .record
  refuseIf (blocked = []) .nothingBlocked
  let fields ← okOr ((record.pointer "/retainedFields").bind Tree.asObject) .retainedFieldsMissing
  let retained := fields.map Prod.fst
  refuseFirst (retained ++ blocked) (fun p => ¬ d.has p) .partitionOutside
  refuseFirst retained (fun p => p ∈ blocked) .retainedAndBlocked
  refuseFirst d.always (fun p => p ∉ blocked ∧ p ∉ retained) .unaccounted
  refuseFirst flagged (fun p => p ∉ blocked) .findingKept
  refuseFirst retained (fun p => p ∉ assessed) .retainedUnassessed
  refuseFirst blocked (fun p => p ∈ assessed ∧ p ∉ flagged) .thinned

def checkReducedRecord (record assessment : ValidatedArtifact sha256) (d : Denominator)
    (policy outcome : String) (assessed flagged : List String) : Except AuthoriseFault Unit := do
  let recordPolicy ← recordText record "redactionPolicyVersion"
  refuseIf (recordPolicy ≠ policy) (.recordPolicyDiffers recordPolicy policy)
  let recordOutcome ← recordText record "outcome"
  refuseIf (recordOutcome ≠ outcome) (.recordOutcomeDiffers recordOutcome outcome)
  refuseIf (outcome = "RETAIN") .reducedRetained
  refuseIf (record.pointer "/coverageComplete" ≠ assessment.pointer "/coverageComplete")
    .coverageDiffers
  checkPartition record d assessed flagged

def checkAuthorises (record assessment : ValidatedArtifact sha256) (expectedPolicy : String)
    (expectedDetector : ExpectedDetector) : Except AuthoriseFault Unit := do
  checkDetector assessment expectedDetector
  let policy ← assessmentText assessment "redactionPolicyVersion"
  refuseIf (policy ≠ expectedPolicy) (.policyDiffers policy expectedPolicy)
  let d ← denominatorOf record
  let assessed ← (orderedUnique assessment.value "assessedFields").mapError .assessment
  refuseFirst assessed (fun p => ¬ d.has p) .assessedOutside
  let flagged := flaggedFields assessment
  let outcome ← assessmentText assessment "outcome"
  refuseFirst flagged (fun p => p ∉ assessed) .findingUnassessed
  checkCoverage record assessment d assessed
  if d.isReduced then
    checkReducedRecord record assessment d policy outcome assessed flagged
  else
    refuseIf (outcome ≠ "RETAIN") (.notRetained outcome)

end O7Formal.Closure
