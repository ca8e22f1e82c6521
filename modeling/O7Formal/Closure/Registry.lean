import O7Formal.Closure.Schema

/-! The matchers and the derivation that evidence is replayed with. Each is bound to the bytes of
the file that implements it; those bytes are part of the registry. -/

namespace O7Formal.Closure

open Json ByteCodec

inductive SnapshotFault where
  | sourceKindMissing
  | schemaVersionMissing
  | wrongKind (declared : String)
  | unknownSurface (declared : String)
  | unknownVersion (declared : Int) (known : List Int)
  | shape (fault : ShapeFault)
  deriving DecidableEq, Repr

inductive MatchError where
  | unknownMatcherId (id : String)
  | unknownMatcherVersion (id version : String) (known : List String)
  | implementationDigestMismatch (id version expected computed : String)
  | conformanceDigestMismatch (id version expected computed : String)
  | conformanceVectorFailed (id version vector : String) (expected got : Bool)
  | parameterMismatch (id : String) (expected found : List String)
  | candidateDigestMismatch (declared computed : String)
  | candidateSetMismatch (declared supplied : List String)
  | incompleteCandidate (sourceKind : String) (why : SnapshotFault) (declaredDigest : String)
  | recordedImplementationDrift (id version recorded resolved : String)
  | querySnapshotDigestMismatch (expected computed : String)
  | malformedRecordedMatcher (why : String)
  | malformedQuerySnapshot (why : SnapshotFault)
  | canonical (source : CanonicalError)
  | malformedCandidate (why : String)
  deriving DecidableEq, Repr

structure ConformanceVector where
  name : String
  parameters : Tree
  candidate : Tree
  expected : Bool

structure MatcherEntry where
  id : String
  version : String
  parameterKeys : List String
  vectors : List ConformanceVector
  implementationSource : List String
  implementationDigest : String
  conformanceDigest : String
  predicate : Tree → Tree → Except MatchError Bool

def matchesText (parameter sourceKind field : String) (candidate parameters : Tree) :
    Except MatchError Bool :=
  match (parameters.field parameter).bind Tree.asStr with
  | none => .error (.malformedCandidate (parameter ++ " is not a string"))
  | some expected =>
      if candidate.strAt "/sourceKind" ≠ some sourceKind then .ok false
      else .ok (decide (candidate.strAt field = some expected))

def reviewByExpectedAuthorLogin : Tree → Tree → Except MatchError Bool :=
  matchesText "expectedAuthorLogin" "github-submitted-review" "/user/login"

def actionsCheckByName : Tree → Tree → Except MatchError Bool :=
  matchesText "checkName" "github-actions-check" "/name"

def fileBytes (lines : List String) : List UInt8 := List.intercalate [10] (lines.map utf8Bytes)

/-- Lines given by their characters, so that their bytes take no decoding to compute. -/
inductive Typed : List String → List (List Char) → Prop where
  | nil : Typed [] []
  | cons (cs : List Char) {lines : List String} {texts : List (List Char)}
      (rest : Typed lines texts) : Typed (String.ofList cs :: lines) (cs :: texts)

theorem fileBytes_typed {lines : List String} {texts : List (List Char)}
    (typed : Typed lines texts) :
    fileBytes lines =
      List.intercalate [10] (texts.map fun cs => cs.flatMap String.utf8EncodeChar) := by
  rw [fileBytes]
  congr 1
  induction typed with
  | nil => rfl
  | cons cs _ ih => rw [List.map_cons, List.map_cons, ih, utf8Bytes, String.toList_ofList]

def reviewByExpectedAuthorLoginSource : List String := [
   "//! `review-by-expected-author-login` version `1`.",
   "//!",
   "//! THIS FILE IS FROZEN. Its bytes ARE the identity of version `1`: the registry",
   "//! embeds this file verbatim at compile time and pins its SHA-256. Any edit,",
   "//! including a reformat or a comment, changes that digest and fails the binding.",
   "//! A behaviour change is made by adding `..._v2.rs` and a new registry entry,",
   "//! never by editing this file.",
   "//!",
   "//! (This header names no macro, because the lint in `tests/ambient_state.rs`",
   "//! reads these bytes as text and cannot tell a doc comment from code.)",
   "//!",
   "//! THE RULE. A candidate matches when it *is* a submitted review and its author",
   "//! login equals `parameters.expectedAuthorLogin`.",
   "//!",
   "//! WHAT IT DELIBERATELY DOES NOT LOOK AT. Not the review's `state`, not its",
   "//! `commitId`. A matcher makes the objects a required observation is about",
   "//! visible; the classifier decides whether any of them is admissible. A matcher",
   "//! that dropped `COMMENTED` reviews or wrong-SHA reviews would leave an empty",
   "//! matched subsequence, which provenance V1 §13 permits to mean `NotProduced` —",
   "//! turning \"reviewed, no verdict\" and \"reviewed the wrong commit\" into \"nobody",
   "//! reviewed\". That collapse is precisely what §13 exists to prevent, and the",
   "//! RED-2 commit (782cbaf) is the record of it happening.",
   "//!",
   "//! WHY `sourceKind` AND NOT ONLY THE AUTHOR. The delivery-surface law recorded on",
   "//! issue #147: a positive verdict delivered in an issue comment is not weak",
   "//! review evidence, it is not review evidence at all, because an issue comment",
   "//! has no field that can carry a subject binding. Classification follows the API",
   "//! object's shape, never the author's identity.",
   "//!",
   "//! SELF-CONTAINED BY OBLIGATION. This file may import only `serde_json::Value`",
   "//! and `crate::MatchError`, and defines exactly one function. A helper shared",
   "//! with another matcher would be implementation this file's digest does not",
   "//! cover — the hole RED-2 demonstrated, reopened one level down.",
   "",
   "use serde_json::Value;",
   "",
   "use crate::MatchError;",
   "",
   "pub(crate) fn matches(candidate: &Value, parameters: &Value) -> Result<bool, MatchError> \x7b",
   "    let expected = parameters",
   "        .get(\"expectedAuthorLogin\")",
   "        .and_then(Value::as_str)",
   "        .ok_or(MatchError::MalformedCandidate \x7b",
   "            why: \"expectedAuthorLogin is not a string\",",
   "        \x7d)?;",
   "    if candidate.pointer(\"/sourceKind\").and_then(Value::as_str) != Some(\"github-submitted-review\") \x7b",
   "        return Ok(false);",
   "    \x7d",
   "    Ok(candidate.pointer(\"/user/login\").and_then(Value::as_str) == Some(expected))",
   "\x7d",
   ""]

def actionsCheckByNameSource : List String := [
   "//! `actions-check-by-name` version `1`.",
   "//!",
   "//! THIS FILE IS FROZEN. Its bytes ARE the identity of version `1`. See the",
   "//! sibling `review_by_expected_author_login_v1.rs` header for the obligation and",
   "//! why editing this file is not how a behaviour change is made.",
   "//!",
   "//! THE RULE. A candidate matches when it *is* an Actions check run and its `name`",
   "//! equals `parameters.checkName`.",
   "//!",
   "//! SELECTION IS BY NAME, NOT BY OUTCOME. A failed run of the required check must",
   "//! be selected, so the classifier can see that it failed. Filtering on",
   "//! `conclusion` here would make a red gate indistinguishable from a gate that",
   "//! never ran — `FINDING` silently rewritten as `CANNOT_CHECK`.",
   "",
   "use serde_json::Value;",
   "",
   "use crate::MatchError;",
   "",
   "pub(crate) fn matches(candidate: &Value, parameters: &Value) -> Result<bool, MatchError> \x7b",
   "    let expected = parameters.get(\"checkName\").and_then(Value::as_str).ok_or(",
   "        MatchError::MalformedCandidate \x7b",
   "            why: \"checkName is not a string\",",
   "        \x7d,",
   "    )?;",
   "    if candidate.pointer(\"/sourceKind\").and_then(Value::as_str) != Some(\"github-actions-check\") \x7b",
   "        return Ok(false);",
   "    \x7d",
   "    Ok(candidate.pointer(\"/name\").and_then(Value::as_str) == Some(expected))",
   "\x7d",
   ""]

def one : Tree := .number (.integer 1)

def firstCommit : String := "1111111111111111111111111111111111111111"

def secondCommit : String := "2222222222222222222222222222222222222222"

def newYear : Tree := .string "2026-01-01T00:00:00Z"

def userTree (id login type : String) : Tree :=
  .object [("id", .string id), ("login", .string login), ("type", .string type)]

def reviewTree (stableId : String) (author : Tree) (commitId : String) : Tree :=
  .object [("authorAssociation", .string "NONE"), ("body", .string ""),
    ("commitId", .string commitId), ("schemaVersion", one),
    ("sourceKind", .string "github-submitted-review"), ("stableId", .string stableId),
    ("state", .string "APPROVED"), ("submittedAt", newYear), ("user", author)]

def checkTree (stableId name conclusion : String) : Tree :=
  .object [("conclusion", .string conclusion), ("headSha", .string firstCommit),
    ("name", .string name), ("schemaVersion", one), ("sourceKind", .string "github-actions-check"),
    ("stableId", .string stableId), ("status", .string "completed")]

def expectedReviewer : Tree := userTree "1" "expected-reviewer" "User"

def issueCommentVector : Tree :=
  .object [("authorAssociation", .string "NONE"),
    ("body", .string ("looks clean on " ++ firstCommit)), ("createdAt", newYear),
    ("schemaVersion", one), ("sourceKind", .string "github-issue-comment"),
    ("stableId", .string "3"), ("updatedAt", newYear), ("user", expectedReviewer)]

def reviewCommentVector : Tree :=
  .object [("authorAssociation", .string "NONE"), ("body", .string ""),
    ("commitId", .string firstCommit), ("createdAt", newYear),
    ("originalCommitId", .string firstCommit), ("path", .string "a"),
    ("pullRequestReviewId", .string "9"), ("schemaVersion", one),
    ("sourceKind", .string "github-review-comment"), ("stableId", .string "4"),
    ("updatedAt", newYear), ("user", expectedReviewer)]

def expectedAuthor : Tree := .object [("expectedAuthorLogin", .string "expected-reviewer")]

def workerGate : Tree := .object [("checkName", .string "worker gate")]

def reviewByAuthorVectors : List ConformanceVector :=
  [⟨"submitted review by the expected author", expectedAuthor,
      reviewTree "1" expectedReviewer firstCommit, true⟩,
   ⟨"submitted review by somebody else", expectedAuthor,
      reviewTree "2" (userTree "2" "other-reviewer" "User") firstCommit, false⟩,
   ⟨"issue comment by the expected author is not a review", expectedAuthor, issueCommentVector,
      false⟩,
   ⟨"review comment by the expected author is not a submitted review", expectedAuthor,
      reviewCommentVector, false⟩,
   ⟨"submitted review by the expected author on another commit still matches", expectedAuthor,
      reviewTree "5" expectedReviewer secondCommit, true⟩,
   ⟨"login differing only in case does not match", expectedAuthor,
      reviewTree "6" (userTree "6" "Expected-Reviewer" "User") firstCommit, false⟩]

def checkByNameVectors : List ConformanceVector :=
  [⟨"check run with the named check", workerGate, checkTree "1" "worker gate" "success", true⟩,
   ⟨"check run with another name", workerGate, checkTree "2" "dependency policy" "success", false⟩,
   ⟨"a failed run of the named check still matches", workerGate,
      checkTree "3" "worker gate" "failure", true⟩,
   ⟨"a submitted review is not a check run", workerGate,
      reviewTree "4" (userTree "1" "worker gate" "Bot") firstCommit, false⟩]

def reviewByExpectedAuthorLoginV1 : MatcherEntry where
  id := "review-by-expected-author-login"
  version := "1"
  parameterKeys := ["expectedAuthorLogin"]
  vectors := reviewByAuthorVectors
  implementationSource := reviewByExpectedAuthorLoginSource
  implementationDigest := "sha256:59ea097cb9ea6705ebff04487a35861af0ea2b1b8e3e7c4980485af52f9567e9"
  conformanceDigest := "sha256:7ea10c56ced0cc83ac3889750fd2a133584275d39f6f5fe809f744ebf74c5178"
  predicate := reviewByExpectedAuthorLogin

def actionsCheckByNameV1 : MatcherEntry where
  id := "actions-check-by-name"
  version := "1"
  parameterKeys := ["checkName"]
  vectors := checkByNameVectors
  implementationSource := actionsCheckByNameSource
  implementationDigest := "sha256:0400752fb274d0ab8e1540ce39b95fb9c122749612560519f54882074618c4c4"
  conformanceDigest := "sha256:524e0585621242e6e7a995f952473dd15b01d3da66663c6505fc244a7714d01a"
  predicate := actionsCheckByName

def matcherRegistry : List MatcherEntry := [reviewByExpectedAuthorLoginV1, actionsCheckByNameV1]

structure DerivationInput where
  canonical : String
  decoded : String

structure DerivationSource where
  kind : String
  inputs : List DerivationInput

structure DerivationEntry where
  id : String
  version : String
  sources : List DerivationSource
  implementationSource : List String
  implementationDigest : String
  derive : List Tree → Option Tree

def carriesFindingSource : List String := [
   "//! `review-carries-finding/1`.",
   "//!",
   "//! Provenance V1 §18's worked example, as a re-executable function:",
   "//!",
   "//! ```text",
   "//! review carries a finding",
   "//!     because review_comment.pullRequestReviewId == review.stableId",
   "//! ```",
   "//!",
   "//! Two sources in order: the submitted review, then the review comment. The",
   "//! rule reads exactly two fields and nothing else — no body text, no state, no",
   "//! author. A derivation that consulted the review's `state` would be deciding",
   "//! whether a verdict counts, which is the classifier's job and not an",
   "//! acquisition fact.",
   "//!",
   "//! This file's bytes ARE the identity of `review-carries-finding/1`. Editing it",
   "//! requires a new version, never a new digest on this one.",
   "",
   "use serde_json::Value;",
   "",
   "/// `Some(bool)` when both sources carry the fields the rule reads; `None` when",
   "/// either does not.",
   "///",
   "/// `None` rather than `false`: a review comment whose `pullRequestReviewId` did",
   "/// not survive projection has not established that the review carries no",
   "/// finding — it has established nothing, and reporting that as `false` is the",
   "/// absent-signal-as-negative-result error this whole effort exists to refuse.",
   "pub(crate) fn derive(sources: &[Value]) -> Option<Value> \x7b",
   "    let review = sources.first()?;",
   "    let comment = sources.get(1)?;",
   "",
   "    let review_id = review.pointer(\"/stableId\")?.as_str()?;",
   "    let owning_review = comment.pointer(\"/pullRequestReviewId\")?.as_str()?;",
   "",
   "    Some(Value::Bool(review_id == owning_review))",
   "\x7d",
   ""]

def carriesFinding (sources : List Tree) : Option Tree := do
  let review ← sources[0]?
  let comment ← sources[1]?
  let reviewId ← review.strAt "/stableId"
  let owningReview ← comment.strAt "/pullRequestReviewId"
  return .bool (decide (reviewId = owningReview))

def carriesFindingV1 : DerivationEntry where
  id := "review-carries-finding"
  version := "1"
  sources :=
    [⟨"github-submitted-review", [⟨"/stableId", "/id"⟩]⟩,
     ⟨"github-review-comment", [⟨"/pullRequestReviewId", "/pull_request_review_id"⟩]⟩]
  implementationSource := carriesFindingSource
  implementationDigest := "sha256:9990c9990875b746b0afcc3bda59538b34aeaaef87f9efeb98a03c5d9d7e902e"
  derive := carriesFinding

def derivationRegistry : List DerivationEntry := [carriesFindingV1]

end O7Formal.Closure
