import O7Formal.Closure.Matcher

/-! Retention assessments: their closed shape, the rules they must meet by themselves, and the
fields each source kind owes an assessment of. -/

namespace O7Formal.Closure

open Json Fallible

def detector : List Member := [req "id", req "version", req "configDigest"]

def finding : List Member := [req "field", req "findingId"]

def assessmentRequired : List Member :=
  [int "schemaVersion", .mk "sourceKind" true (.oneOf ["closure-retention-assessment"]),
    req "redactionPolicyVersion", .mk "detector" true (.object detector),
    .mk "representation" true (.oneOf ["decoded-source-field-values"]),
    textArray "assessedFields", .mk "coverageComplete" true .bool,
    .mk "outcome" true (.oneOf ["RETAIN", "BLOCK_SECRET", "CANNOT_ASSESS"]),
    .mk "observedAt" true .timestamp]

def assessmentConditional : List Member :=
  [.mk "findings" false (.objectArray finding),
    .mk "coverageFailureCode" false
      (.oneOf ["DETECTOR_UNAVAILABLE", "DETECTOR_FAILED", "INCOMPLETE_COVERAGE",
        "INVALID_RESULT"])]

structure PresentOnly where
  decoded : String
  canonical : String
  deriving DecidableEq

structure RequiredFields where
  locatorKind : String
  always : List String
  presentOnly : List PresentOnly

def requiredFieldsTable : List RequiredFields :=
  [⟨"github-issue-comment",
      ["/id", "/user/id", "/user/login", "/user/type", "/author_association", "/body",
        "/created_at", "/updated_at"], []⟩,
   ⟨"github-submitted-review",
      ["/id", "/user/id", "/user/login", "/user/type", "/author_association", "/state", "/body",
        "/submitted_at", "/commit_id"], []⟩,
   ⟨"github-review-comment",
      ["/id", "/pull_request_review_id", "/user/id", "/user/login", "/user/type",
        "/author_association", "/body", "/commit_id", "/original_commit_id", "/path",
        "/created_at", "/updated_at"],
      [⟨"/in_reply_to_id", "inReplyToId"⟩, ⟨"/line", "line"⟩, ⟨"/original_line", "originalLine"⟩,
        ⟨"/side", "side"⟩, ⟨"/start_line", "startLine"⟩]⟩,
   ⟨"github-pull-request-head",
      ["/number", "/head/sha", "/head/ref", "/head/repo/full_name"],
      [⟨"/updated_at", "updatedAt"⟩]⟩,
   ⟨"github-actions-check", ["/id", "/name", "/head_sha", "/status"],
      [⟨"/conclusion", "conclusion"⟩, ⟨"/started_at", "startedAt"⟩,
        ⟨"/completed_at", "completedAt"⟩]⟩]

def requiredFields (locatorKind : String) : Option RequiredFields :=
  requiredFieldsTable.find? fun r => r.locatorKind = locatorKind

def RequiredFields.has (r : RequiredFields) (pointer : String) : Prop :=
  pointer ∈ r.always ∨ pointer ∈ r.presentOnly.map PresentOnly.decoded

instance (r : RequiredFields) (pointer : String) : Decidable (r.has pointer) :=
  inferInstanceAs (Decidable (_ ∨ _))

inductive AssessmentFault where
  | notObject
  | shape (fault : ShapeFault)
  | notString (path : String)
  | notArray (path : String)
  | emptyFindings
  | coverageCode (complete codePresent : Bool)
  | retainWithoutCoverage
  | outcomeDiffers (outcome computed : String)
  | itemNotString (path : String) (position : Nat)
  | notAscending (path previous text : String)
  | findingNotString (position : Nat) (member : String)
  | findingsNotAscending (previous next : String × String)
  deriving DecidableEq, Repr

def ascending (path : String) (items : List Tree) : Except AssessmentFault (List String) :=
  items.zipIdx.foldlM (fun out item => do
    let text ← okOr item.1.asStr (.itemNotString path item.2)
    match out.getLast? with
    | some previous => refuseIf (text ≤ previous) (.notAscending path previous text)
    | none => .ok ()
    return out ++ [text]) []

def orderedUnique (object : Tree) (name : String) : Except AssessmentFault (List String) := do
  let items ← okOr ((object.pointer ("/" ++ name)).bind Tree.asArray) (.notArray ("/" ++ name))
  ascending ("/" ++ name) items

def memberStr (object : Tree) (name : String) : Except AssessmentFault String :=
  okOr (object.strAt ("/" ++ name)) (.notString ("/" ++ name))

def checkFindings (findings : List Tree) : Except AssessmentFault Unit := do
  let _ ← findings.zipIdx.foldlM (fun (previous : Option (String × String)) item => do
    let field ← okOr (item.1.strAt "/field") (.findingNotString item.2 "field")
    let id ← okOr (item.1.strAt "/findingId") (.findingNotString item.2 "findingId")
    match previous with
    | some prev =>
        refuseIf (¬ (prev.1 < field ∨ prev.1 = field ∧ prev.2 < id))
          (.findingsNotAscending prev (field, id))
    | none => .ok ()
    return some (field, id)) none
  return ()

def computedOutcome (findingsPresent coverageComplete : Bool) : String :=
  if findingsPresent then "BLOCK_SECRET"
  else if coverageComplete then "RETAIN"
  else "CANNOT_ASSESS"

def checkAssessment (assessment : Tree) : Except AssessmentFault Unit := do
  let object ← okOr assessment.asObject .notObject
  (checkMembers assessmentRequired object "").mapError .shape
  (checkMembers assessmentConditional object "").mapError .shape
  (closedKeys (assessmentRequired ++ assessmentConditional) object "").mapError .shape
  let outcome ← memberStr assessment "outcome"
  let findingsPresent := (object.lookup "findings").isSome
  refuseIf ((object.lookup "findings").bind Tree.asArray = some []) .emptyFindings
  let coverageComplete := decide (object.lookup "coverageComplete" = some (.bool true))
  let codePresent := (object.lookup "coverageFailureCode").isSome
  refuseIf (codePresent = coverageComplete) (.coverageCode coverageComplete codePresent)
  refuseIf (outcome = "RETAIN" ∧ ¬ coverageComplete = true) .retainWithoutCoverage
  let computed := computedOutcome findingsPresent coverageComplete
  refuseIf (outcome ≠ computed) (.outcomeDiffers outcome computed)
  let _ ← orderedUnique assessment "assessedFields"
  match (object.lookup "findings").bind Tree.asArray with
  | some findings => checkFindings findings
  | none => .ok ()

end O7Formal.Closure
