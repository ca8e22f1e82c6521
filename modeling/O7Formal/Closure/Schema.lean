import O7Formal.Closure.Canonical
import O7Formal.Lib.Fallible

/-! Closed shapes of retained objects. Refusals are kept as data: which check failed, and at
which path. -/

namespace O7Formal.Closure

open Json Fallible ByteCodec

inductive InstantFault where
  | length
  | punctuation (position : Nat)
  | suffix
  | digits
  | date
  | time
  deriving DecidableEq, Repr

/-- A decimal number of `len` digits from position `start` on. -/
def digitsAt (bytes : List UInt8) (start len : Nat) : Option Nat :=
  (List.range len).foldlM (fun acc i =>
    match bytes[start + i]? with
    | some b => if 48 ≤ b.toNat ∧ b.toNat ≤ 57 then some (acc * 10 + (b.toNat - 48)) else none
    | none => none) 0

def daysIn (year month : Nat) : Nat :=
  let leap := year % 4 = 0 ∧ (year % 100 ≠ 0 ∨ year % 400 = 0)
  if month ∈ [1, 3, 5, 7, 8, 10, 12] then 31
  else if month ∈ [4, 6, 9, 11] then 30
  else if month = 2 then if leap then 29 else 28
  else 0

/-- Exactly `YYYY-MM-DDThh:mm:ssZ`, and a date and time that exist. -/
def utcInstant (value : String) : Except InstantFault Unit := do
  let bytes := utf8Bytes value
  refuseIf (bytes.length ≠ 20) .length
  ([(4, 45), (7, 45), (10, 84), (13, 58), (16, 58)] : List (Nat × UInt8)).foldlM (fun _ mark =>
    refuseIf (bytes[mark.1]? ≠ some mark.2) (.punctuation mark.1)) ()
  refuseIf (bytes[19]? ≠ some 90) .suffix
  match digitsAt bytes 0 4, digitsAt bytes 5 2, digitsAt bytes 8 2, digitsAt bytes 11 2,
    digitsAt bytes 14 2, digitsAt bytes 17 2 with
  | some year, some month, some day, some hour, some minute, some second =>
      let days := daysIn year month
      refuseIf (days = 0 ∨ day = 0 ∨ day > days) .date
      refuseIf (hour > 23 ∨ minute > 59 ∨ second > 59) .time
  | _, _, _, _, _, _ => .error .digits

mutual

inductive ValueKind where
  | text
  | integer
  | bool
  | textArray
  | timestamp
  | oneOf (admissible : List String)
  | openObject
  | object (members : List Member)
  | objectArray (members : List Member)

inductive Member where
  | mk (name : String) (isRequired : Bool) (kind : ValueKind)

end

def Member.name : Member → String
  | .mk name _ _ => name

inductive ShapeFault where
  | notObject (path : String)
  | absent (path : String)
  | null (path : String)
  | notString (path : String)
  | notInteger (path : String)
  | notBoolean (path : String)
  | notArray (path : String)
  | itemNotString (path : String) (position : Nat)
  | instant (path : String) (why : InstantFault)
  | notAdmitted (path text : String) (admissible : List String)
  | outsideKeySet (path key : String)
  deriving DecidableEq, Repr

def closedKeys (members : List Member) (object : List (String × Tree)) (path : String) :
    Except ShapeFault Unit :=
  match object.find? fun m => !(members.map Member.name).contains m.1 with
  | some (key, _) => .error (.outsideKeySet path key)
  | none => .ok ()

def textOr (found : Tree) (path : String) : Except ShapeFault String :=
  match found.asStr with
  | some text => .ok text
  | none => .error (.notString path)

def itemsOr (found : Tree) (path : String) : Except ShapeFault (List Tree) :=
  match found.asArray with
  | some items => .ok items
  | none => .error (.notArray path)

def objectOr (found : Tree) (path : String) : Except ShapeFault (List (String × Tree)) :=
  match found.asObject with
  | some object => .ok object
  | none => .error (.notObject path)

mutual

def checkKind : ValueKind → Tree → String → Except ShapeFault Unit
  | .text, found, path => refuseIf (found.asStr = none) (.notString path)
  | .integer, found, path => refuseIf (found.asInt = none) (.notInteger path)
  | .bool, found, path => refuseIf (found.asBool = none) (.notBoolean path)
  | .textArray, found, path => do
      let items ← itemsOr found path
      match items.findIdx? fun item => item.asStr = none with
      | some position => .error (.itemNotString path position)
      | none => .ok ()
  | .timestamp, found, path => do
      let text ← textOr found path
      (utcInstant text).mapError (.instant path)
  | .oneOf admissible, found, path => do
      let text ← textOr found path
      refuseIf (text ∉ admissible) (.notAdmitted path text admissible)
  | .openObject, found, path => refuseIf (found.asObject = none) (.notObject path)
  | .object nested, found, path => do
      let object ← objectOr found path
      checkMembers nested object path
      closedKeys nested object path
  | .objectArray nested, found, path => do
      let items ← itemsOr found path
      items.zipIdx.foldlM (fun _ item => do
        let here := path ++ "[" ++ toString item.2 ++ "]"
        let object ← objectOr item.1 here
        checkMembers nested object here
        closedKeys nested object here) ()

def checkMembers : List Member → List (String × Tree) → String → Except ShapeFault Unit
  | [], _, _ => .ok ()
  | .mk name isRequired kind :: rest, object, path => do
      match object.lookup name with
      | none => refuseIf (isRequired = true) (.absent (path ++ "/" ++ name))
      | some .null => .error (.null (path ++ "/" ++ name))
      | some found => checkKind kind found (path ++ "/" ++ name)
      checkMembers rest object path

end

def checkShape (value : Tree) (members : List Member) (path : String) : Except ShapeFault Unit := do
  let object ← objectOr value path
  checkMembers members object path
  closedKeys members object path

def req (name : String) : Member := .mk name true .text

def opt (name : String) : Member := .mk name false .text

def textArray (name : String) : Member := .mk name true .textArray

def int (name : String) : Member := .mk name true .integer

def optInt (name : String) : Member := .mk name false .integer

def user : Member := .mk "user" true (.object [req "id", req "login", req "type"])

structure CandidateSchema where
  sourceKind : String
  schemaVersion : Int
  members : List Member

def pullRequestHeadV1 : List Member :=
  [int "schemaVersion", req "sourceKind", req "repository", req "pullRequest", req "headSha",
    req "headRef", req "headRepoFullName", opt "updatedAt"]

def actionsCheckV1 : List Member :=
  [int "schemaVersion", req "sourceKind", req "stableId", req "name", req "headSha", req "status",
    opt "conclusion", opt "startedAt", opt "completedAt"]

def submittedReviewV1 : List Member :=
  [int "schemaVersion", req "sourceKind", req "stableId", user, req "authorAssociation",
    req "state", req "body", req "submittedAt", req "commitId"]

def reviewCommentV1 : List Member :=
  [int "schemaVersion", req "sourceKind", req "stableId", req "pullRequestReviewId", user,
    req "authorAssociation", req "body", req "commitId", req "originalCommitId", req "path",
    req "createdAt", req "updatedAt", opt "inReplyToId", optInt "line", optInt "originalLine",
    opt "side", optInt "startLine"]

def issueCommentV1 : List Member :=
  [int "schemaVersion", req "sourceKind", req "stableId", user, req "authorAssociation",
    req "body", req "createdAt", req "updatedAt"]

def sourceSchemas : List CandidateSchema :=
  [⟨"github-pull-request-head", 1, pullRequestHeadV1⟩,
   ⟨"github-actions-check", 1, actionsCheckV1⟩,
   ⟨"github-submitted-review", 1, submittedReviewV1⟩,
   ⟨"github-review-comment", 1, reviewCommentV1⟩,
   ⟨"github-issue-comment", 1, issueCommentV1⟩]

structure QuerySnapshotSchema where
  schemaVersion : Int
  members : List Member

def parameters : Member := .mk "parameters" true .openObject

def matcherV1 : List Member := [req "id", req "version", parameters]

def matcherV2 : List Member := [req "id", req "version", req "implementationDigest", parameters]

def binding : List Member := [req "repository", req "pullRequest", opt "sha"]

def pagination : List Member :=
  [int "perPage", textArray "pagesRequested", textArray "pagesObtained",
    .mk "nextPagePresent" true .bool]

def querySnapshotSourceKind : String := "github-query-snapshot"

def querySnapshot (matcher : List Member) : List Member :=
  [int "schemaVersion", .mk "sourceKind" true (.oneOf [querySnapshotSourceKind]), req "surface",
    req "requiredObservationId", .mk "binding" true (.object binding),
    .mk "pagination" true (.object pagination),
    .mk "enumeration" true (.oneOf ["COMPLETE", "INCOMPLETE"]), opt "incompleteReason",
    .mk "matcher" true (.object matcher), textArray "allReturnedSnapshotDigests",
    textArray "matchedSnapshotDigests"]

def querySnapshotSchemas : List QuerySnapshotSchema :=
  [⟨1, querySnapshot matcherV1⟩, ⟨2, querySnapshot matcherV2⟩]

end O7Formal.Closure
