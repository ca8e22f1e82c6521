import O7Formal.Closure.Registry

/-! Replaying a query snapshot: the recorded matcher, bound to its implementation, run again over
the complete candidate set. -/

namespace O7Formal.Closure

open Json Fallible ByteCodec
open Run (Sha256)

/-- `as_i64`, and a `u64` that fits one. -/
def asI64 (t : Tree) : Option Int := t.asInt.filter fun n => decide (n < 2 ^ 63)

def resolveMatcher (id version : String) : Except MatchError MatcherEntry :=
  let byId := matcherRegistry.filter fun e => e.id = id
  if byId = [] then .error (.unknownMatcherId id)
  else okOr (byId.find? fun e => e.version = version)
    (.unknownMatcherVersion id version (byId.map MatcherEntry.version))

variable (sha256 : Sha256)

def digestOr (value : Tree) : Except MatchError String := (digest sha256 value).mapError .canonical

def verifyImplementation (entry : MatcherEntry) : Except MatchError String := do
  let computed := digestOfCanonicalBytes sha256 (fileBytes entry.implementationSource)
  refuseIf (computed ≠ entry.implementationDigest)
    (.implementationDigestMismatch entry.id entry.version entry.implementationDigest computed)
  return computed

def vectorResult (v : ConformanceVector) (got : Bool) : Tree :=
  .object [("candidate", v.candidate), ("name", .string v.name), ("parameters", v.parameters),
    ("result", .bool got)]

def conformanceStatement (entry : MatcherEntry) (results : List Tree) : Tree :=
  .object [("matcher", .object [("id", .string entry.id), ("version", .string entry.version)]),
    ("parameterKeys", .array (entry.parameterKeys.map .string)), ("schemaVersion", one),
    ("sourceKind", .string "closure-matcher-conformance"), ("vectors", .array results)]

def verifyConformance (entry : MatcherEntry) : Except MatchError String := do
  let results ← entry.vectors.mapM fun vector => do
    let got ← entry.predicate vector.candidate vector.parameters
    refuseIf (got ≠ vector.expected)
      (.conformanceVectorFailed entry.id entry.version vector.name vector.expected got)
    return vectorResult vector got
  let computed ← digestOr sha256 (conformanceStatement entry results)
  refuseIf (computed ≠ entry.conformanceDigest)
    (.conformanceDigestMismatch entry.id entry.version entry.conformanceDigest computed)
  return computed

def verifyBinding (entry : MatcherEntry) : Except MatchError String := do
  let _ ← verifyImplementation sha256 entry
  verifyConformance sha256 entry

inductive RecordedImplementation where
  | bound (digest : String)
  | unrecorded
  deriving DecidableEq, Repr

inductive ImplementationCheck where
  | bound (digest : String)
  | cannotCheck
  deriving DecidableEq, Repr

structure RecordedMatcher where
  id : String
  version : String
  matchedSnapshotDigests : List String
  allReturnedSnapshotDigests : List String
  parameters : Tree
  implementation : RecordedImplementation
  deriving DecidableEq

structure RecordedQuerySnapshot where
  digest : String
  matcher : RecordedMatcher

def digestArray (snapshot : Tree) (field : String) : Except MatchError (List String) := do
  let items ← okOr ((snapshot.field field).bind Tree.asArray)
    (.malformedRecordedMatcher "a required digest array is absent or not an array")
  items.mapM fun item =>
    okOr item.asStr (.malformedRecordedMatcher "a candidate digest is not a string")

def recordedImplementation (schemaVersion : Nat) (declared : Option Tree) :
    Except MatchError RecordedImplementation :=
  match schemaVersion, declared with
  | 1, none => .ok .unrecorded
  | 2, some (.string digest) => .ok (.bound digest)
  | 1, some _ => .error (.malformedRecordedMatcher
      ("a version-1 query snapshot carries implementationDigest, which " ++
        "version 1 does not define"))
  | 2, _ => .error (.malformedRecordedMatcher
      ("a version-2 query snapshot has no implementationDigest string, " ++
        "which version 2 requires"))
  | _, _ => .error (.malformedRecordedMatcher "unknown query-snapshot schemaVersion")

def RecordedMatcher.fromQuerySnapshot (snapshot : Tree) : Except MatchError RecordedMatcher := do
  let schemaVersion ← okOr ((snapshot.field "schemaVersion").bind Tree.asNat)
    (.malformedRecordedMatcher "schemaVersion is not an integer")
  let matcher ← okOr (snapshot.field "matcher") (.malformedRecordedMatcher "no matcher block")
  let text := fun key => okOr ((matcher.field key).bind Tree.asStr)
    (MatchError.malformedRecordedMatcher "matcher.id or matcher.version is not a string")
  let implementation ← recordedImplementation schemaVersion (matcher.field "implementationDigest")
  let id ← text "id"
  let version ← text "version"
  let parameters ← okOr (matcher.field "parameters")
    (.malformedRecordedMatcher "no matcher.parameters")
  let matched ← digestArray snapshot "matchedSnapshotDigests"
  let allReturned ← digestArray snapshot "allReturnedSnapshotDigests"
  return ⟨id, version, matched, allReturned, parameters, implementation⟩

def checkQuerySnapshotShape (snapshot : Tree) : Except SnapshotFault Unit := do
  let declaredKind ← okOr (snapshot.strAt "/sourceKind") .sourceKindMissing
  refuseIf (declaredKind ≠ querySnapshotSourceKind) (.wrongKind declaredKind)
  let declaredVersion ← okOr ((snapshot.pointer "/schemaVersion").bind asI64) .schemaVersionMissing
  let schema ← okOr (querySnapshotSchemas.find? fun s => s.schemaVersion = declaredVersion)
    (.unknownVersion declaredVersion (querySnapshotSchemas.map QuerySnapshotSchema.schemaVersion))
  (checkShape snapshot schema.members "").mapError .shape

def RecordedQuerySnapshot.fromCanonical (snapshot : Tree) (expectedQueryDigest : String) :
    Except MatchError RecordedQuerySnapshot := do
  let computed ← digestOr sha256 snapshot
  refuseIf (computed ≠ expectedQueryDigest)
    (.querySnapshotDigestMismatch expectedQueryDigest computed)
  (checkQuerySnapshotShape snapshot).mapError .malformedQuerySnapshot
  let matcher ← RecordedMatcher.fromQuerySnapshot snapshot
  return ⟨computed, matcher⟩

structure Candidate where
  declaredDigest : String
  snapshot : Tree

structure Replay where
  matched : List String
  implementation : ImplementationCheck

structure MatchedVerdict where
  replay : Replay
  reproduced : Bool

def checkRecordedImplementation (entry : MatcherEntry) (recorded : RecordedImplementation) :
    Except MatchError ImplementationCheck := do
  let resolved ← verifyImplementation sha256 entry
  match recorded with
  | .unrecorded => return .cannotCheck
  | .bound digest =>
      if digest = resolved then return .bound digest
      else .error (.recordedImplementationDrift entry.id entry.version digest resolved)

def checkParameters (entry : MatcherEntry) (parameters : Tree) : Except MatchError Unit := do
  let object ← okOr parameters.asObject
    (.malformedCandidate "matcher.parameters is not an object")
  let found := (object.map Prod.fst).insertionSort (· ≤ ·)
  let expected := entry.parameterKeys.insertionSort (· ≤ ·)
  refuseIf (found ≠ expected) (.parameterMismatch entry.id expected found)

def checkCandidateSnapshot (snapshot : Tree) : Except SnapshotFault Unit := do
  let declaredKind ← okOr (snapshot.strAt "/sourceKind") .sourceKindMissing
  let declaredVersion ← okOr ((snapshot.pointer "/schemaVersion").bind asI64) .schemaVersionMissing
  let schema ← okOr (sourceSchemas.find? fun s => s.sourceKind = declaredKind)
    (.unknownSurface declaredKind)
  refuseIf (declaredVersion ≠ schema.schemaVersion)
    (.unknownVersion declaredVersion [schema.schemaVersion])
  (checkShape snapshot schema.members "").mapError .shape

def checkCandidateShape (candidate : Candidate) : Except MatchError Unit :=
  (checkCandidateSnapshot candidate.snapshot).mapError fun why =>
    .incompleteCandidate ((candidate.snapshot.strAt "/sourceKind").getD "<absent>") why
      candidate.declaredDigest

def scoreCandidate (entry : MatcherEntry) (parameters : Tree) (candidate : Candidate) :
    Except MatchError Bool := do
  let computed ← digestOr sha256 candidate.snapshot
  refuseIf (computed ≠ candidate.declaredDigest)
    (.candidateDigestMismatch candidate.declaredDigest computed)
  checkCandidateShape candidate
  entry.predicate candidate.snapshot parameters

def recomputeMatched (recorded : RecordedMatcher) (candidates : List Candidate) :
    Except MatchError Replay := do
  let entry ← resolveMatcher recorded.id recorded.version
  let _ ← verifyBinding sha256 entry
  let implementation ← checkRecordedImplementation sha256 entry recorded.implementation
  checkParameters entry recorded.parameters
  let supplied := candidates.map Candidate.declaredDigest
  refuseIf (supplied ≠ recorded.allReturnedSnapshotDigests)
    (.candidateSetMismatch recorded.allReturnedSnapshotDigests supplied)
  let matched ← candidates.foldlM (fun matched candidate => do
    let selected ← scoreCandidate sha256 entry recorded.parameters candidate
    return if selected then matched ++ [candidate.declaredDigest] else matched) []
  return ⟨matched, implementation⟩

def verifyMatched (recorded : RecordedMatcher) (candidates : List Candidate) :
    Except MatchError MatchedVerdict := do
  let replay ← recomputeMatched sha256 recorded candidates
  return ⟨replay, decide (replay.matched = recorded.matchedSnapshotDigests)⟩

end O7Formal.Closure
