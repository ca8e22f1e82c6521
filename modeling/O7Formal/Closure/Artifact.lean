import O7Formal.Closure.Redaction

/-! Retained artifacts. A value enters as a `ValidatedArtifact` only: its digest is recomputed
and its kind's closed form checked. -/

namespace O7Formal.Closure

open Json Fallible
open Run (Sha256)

structure LocatorShape where
  locatorKind : String
  members : List Member

def repoPrId : List Member := [req "repository", req "pullRequest", req "stableId"]

def repoId : List Member := [req "repository", req "stableId"]

def repoPr : List Member := [req "repository", req "pullRequest"]

def locatorShapes : List LocatorShape :=
  [⟨"github-issue-comment", repoPrId⟩, ⟨"github-submitted-review", repoPrId⟩,
   ⟨"github-review-comment", repoPrId⟩, ⟨"github-actions-check", repoId⟩,
   ⟨"github-pull-request-head", repoPr⟩]

def locatorShape (locatorKind : String) : Option LocatorShape :=
  locatorShapes.find? fun l => l.locatorKind = locatorKind

def reducedRecord : List Member :=
  [int "schemaVersion", .mk "sourceKind" true (.oneOf ["github-reduced-source-record"]),
    req "locatorKind", .mk "locator" true .openObject, req "redactionPolicyVersion",
    .mk "outcome" true (.oneOf ["BLOCK_SECRET", "CANNOT_ASSESS"]),
    .mk "coverageComplete" true .bool, .mk "retainedFields" true .openObject,
    textArray "blockedFields"]

def retentionBinding : List Member :=
  [int "schemaVersion", .mk "sourceKind" true (.oneOf ["closure-retention-binding"]),
    req "recordDigest", req "assessmentDigest"]

def headReadEvent (acquisition : String) (outcome : Member) : List Member :=
  [int "schemaVersion", .mk "sourceKind" true (.oneOf ["github-head-read-event"]),
    .mk "role" true (.oneOf ["HEAD_BEFORE", "HEAD_AFTER"]),
    .mk "acquisition" true (.oneOf [acquisition]), outcome, .mk "observedAt" true .timestamp]

def headReadEventAvailable : List Member := headReadEvent "AVAILABLE" (req "snapshotDigest")

def headReadEventFailed : List Member :=
  headReadEvent "FAILED" (.mk "reasonCode" true
    (.oneOf ["NOT_FOUND", "RATE_LIMITED", "REQUEST_FAILED", "UNAUTHORIZED"]))

inductive Gate where
  | gated
  | ungated
  deriving DecidableEq, Repr

inductive ArtifactKind where
  | completeProjection (kind : String)
  | reducedSourceRecord (locatorKind : String)
  | querySnapshot
  | headReadEvent
  | retentionAssessment
  | retentionBinding
  deriving DecidableEq, Repr

namespace ArtifactKind

def gate : ArtifactKind → Gate
  | completeProjection _ | reducedSourceRecord _ => .gated
  | querySnapshot | headReadEvent | retentionAssessment | retentionBinding => .ungated

def name : ArtifactKind → String
  | completeProjection kind => kind
  | reducedSourceRecord _ => "github-reduced-source-record"
  | querySnapshot => "github-query-snapshot"
  | headReadEvent => "github-head-read-event"
  | retentionAssessment => "closure-retention-assessment"
  | retentionBinding => "closure-retention-binding"

def surface : ArtifactKind → String
  | reducedSourceRecord locatorKind => locatorKind
  | other => other.name

end ArtifactKind

inductive FormFault where
  | sourceKindMissing
  | schemaVersionMissing
  | unknownVersion (found : Int) (declared : String) (registered : List Int)
  | unknownKind (declared : String)
  | acquisitionMissing
  | unknownAcquisition (found : String)
  | locatorKindMissing
  | unknownLocatorKind (found : String)
  | locatorMissing
  | shape (fault : ShapeFault)
  | assessment (fault : AssessmentFault)
  deriving DecidableEq, Repr

def checkRegisteredVersion (value : Tree) (registered : List Int) (declared : String) :
    Except FormFault Int := do
  let found ← okOr ((value.pointer "/schemaVersion").bind asI64) .schemaVersionMissing
  refuseIf (found ∉ registered) (.unknownVersion found declared registered)
  return found

def checkReducedLocator (record : Tree) : Except FormFault String := do
  let locatorKind ← okOr (record.strAt "/locatorKind") .locatorKindMissing
  let shape ← okOr (locatorShape locatorKind) (.unknownLocatorKind locatorKind)
  let locator ← okOr (record.pointer "/locator") .locatorMissing
  (checkShape locator shape.members "/locator").mapError .shape
  return shape.locatorKind

def checkQueryForm (declared : String) (value : Tree) : Except FormFault ArtifactKind := do
  let versions := querySnapshotSchemas.map QuerySnapshotSchema.schemaVersion
  let version ← checkRegisteredVersion value versions declared
  let schema ← okOr (querySnapshotSchemas.find? fun s => s.schemaVersion = version)
    (.unknownVersion version declared versions)
  (checkShape value schema.members "").mapError .shape
  return .querySnapshot

def checkReducedForm (declared : String) (value : Tree) : Except FormFault ArtifactKind := do
  let _ ← checkRegisteredVersion value [1] declared
  (checkShape value reducedRecord "").mapError .shape
  let locatorKind ← checkReducedLocator value
  return .reducedSourceRecord locatorKind

def checkHeadReadForm (declared : String) (value : Tree) : Except FormFault ArtifactKind := do
  let acquisition ← okOr (value.strAt "/acquisition") .acquisitionMissing
  let members ←
    if acquisition = "AVAILABLE" then Except.ok headReadEventAvailable
    else if acquisition = "FAILED" then Except.ok headReadEventFailed
    else Except.error (FormFault.unknownAcquisition acquisition)
  let _ ← checkRegisteredVersion value [1] declared
  (checkShape value members "").mapError .shape
  return .headReadEvent

def checkAssessmentForm (declared : String) (value : Tree) : Except FormFault ArtifactKind := do
  let _ ← checkRegisteredVersion value [1] declared
  (checkAssessment value).mapError .assessment
  return .retentionAssessment

def checkBindingForm (declared : String) (value : Tree) : Except FormFault ArtifactKind := do
  let _ ← checkRegisteredVersion value [1] declared
  (checkShape value retentionBinding "").mapError .shape
  return .retentionBinding

def checkClosedForm (declared : String) (value : Tree) : Except FormFault ArtifactKind :=
  match sourceSchemas.find? fun s => s.sourceKind = declared with
  | some schema => do
      let _ ← checkRegisteredVersion value [schema.schemaVersion] declared
      (checkShape value schema.members "").mapError .shape
      return .completeProjection schema.sourceKind
  | none =>
      if declared = "github-query-snapshot" then checkQueryForm declared value
      else if declared = "github-reduced-source-record" then checkReducedForm declared value
      else if declared = "github-head-read-event" then checkHeadReadForm declared value
      else if declared = "closure-retention-assessment" then checkAssessmentForm declared value
      else if declared = "closure-retention-binding" then checkBindingForm declared value
      else .error (.unknownKind declared)

inductive ValidationError where
  | digestMismatch (computed : String)
  | notCanonicalizable (error : CanonicalError)
  | malformed (why : FormFault)
  deriving DecidableEq, Repr

/-- The kind of a value that is what `requested` names. -/
def validKind (sha256 : Sha256) (requested : String) (value : Tree) :
    Except ValidationError ArtifactKind :=
  match digest sha256 value with
  | .error e => .error (.notCanonicalizable e)
  | .ok computed => do
      refuseIf (computed ≠ requested) (.digestMismatch computed)
      let declared ← okOr (value.strAt "/sourceKind") (.malformed .sourceKindMissing)
      (checkClosedForm declared value).mapError .malformed

structure ValidatedArtifact (sha256 : Sha256) where
  digest : String
  kind : ArtifactKind
  value : Tree
  valid : validKind sha256 digest value = .ok kind

namespace ValidatedArtifact

variable {sha256 : Sha256}

def pointer (a : ValidatedArtifact sha256) (path : String) : Option Tree := a.value.pointer path

def strAt (a : ValidatedArtifact sha256) (path : String) : Option String := a.value.strAt path

def recordedQuery (a : ValidatedArtifact sha256) :
    Option (Except MatchError RecordedQuerySnapshot) :=
  if a.kind ≠ .querySnapshot then none
  else some (RecordedQuerySnapshot.fromCanonical sha256 a.value a.digest)

def matcherCandidate (a : ValidatedArtifact sha256) : Option Candidate :=
  match a.kind with
  | .completeProjection _ => some ⟨a.digest, a.value⟩
  | _ => none

theorem ext {a b : ValidatedArtifact sha256} (digests : a.digest = b.digest)
    (values : a.value = b.value) : a = b := by
  rcases a with ⟨digest, kind, value, valid⟩
  rcases b with ⟨digest', kind', value', valid'⟩
  cases digests
  cases values
  have kinds : kind = kind' := Except.ok.inj (valid.symm.trans valid')
  cases kinds
  rfl

end ValidatedArtifact

def validate (sha256 : Sha256) (requested : String) (value : Tree) :
    Except ValidationError (ValidatedArtifact sha256) :=
  match valid : validKind sha256 requested value with
  | .error e => .error e
  | .ok kind => .ok ⟨requested, kind, value, valid⟩

theorem validate_ok {sha256 : Sha256} {requested : String} {value : Tree}
    {a : ValidatedArtifact sha256} (ok : validate sha256 requested value = .ok a) :
    a.digest = requested ∧ a.value = value := by
  unfold validate at ok
  split at ok
  · cases ok
  · cases ok
    exact ⟨rfl, rfl⟩

theorem validate_self {sha256 : Sha256} (a : ValidatedArtifact sha256) :
    validate sha256 a.digest a.value = .ok a := by
  unfold validate
  split
  · rename_i e failed
    cases failed.symm.trans a.valid
  · rename_i kind valid
    exact congrArg Except.ok (ValidatedArtifact.ext rfl rfl)

end O7Formal.Closure
