import O7Formal.Closure.Evidence

/-! The three questions put to retained evidence: whether a decision basis is admissible, whether
a scan says anything, and whether the subject's head moved. -/

namespace O7Formal.Closure

open Json Fallible
open Run (Sha256)

structure QueryBinding where
  repository : String
  pullRequest : String
  deriving DecidableEq

structure QualifiedQuery where
  digest : String
  matched : List String
  observation : String

def QualifiedQuery.supportsAbsence (q : QualifiedQuery) (expectedObservation : String) :
    Except QueryFault Unit := do
  refuseIf (q.observation ≠ expectedObservation)
    (.observationDiffers expectedObservation q.observation)
  refuseIf (q.matched ≠ []) (.matchedSome q.matched)

def QualifiedQuery.supportsClaimCount (q : QualifiedQuery) (claims : Nat) :
    Except QueryFault Unit :=
  refuseIf (¬ (claims > 0 ∨ q.matched = [])) (.claimsRefuted q.matched)

variable {sha256 : Sha256}

def concerns (snapshot : ValidatedArtifact sha256) (subject : QueryBinding) :
    Except QueryFault Unit :=
  let repository := snapshot.strAt "/binding/repository"
  let pullRequest := snapshot.strAt "/binding/pullRequest"
  if repository = some subject.repository ∧ pullRequest = some subject.pullRequest then .ok ()
  else .error (.subjectDiffers repository pullRequest)

def checkEnumeration (snapshot : ValidatedArtifact sha256) : Except QueryFault Unit :=
  match snapshot.strAt "/enumeration" with
  | none => .error .enumerationMissing
  | some state =>
      if state = "COMPLETE" then .ok ()
      else if state = "INCOMPLETE" then .error .incomplete
      else .error (.unknownEnumeration state)

def checkPagination (snapshot : ValidatedArtifact sha256) : Except QueryFault Unit :=
  match snapshot.pointer "/pagination/nextPagePresent" with
  | some (.bool false) => .ok ()
  | some (.bool true) => .error .nextPage
  | _ => .error .paginationUnknown

variable (sha256)

def resolveCandidate (store : RetainedEvidence) (expected : Expected) (cited : String) :
    Except QueryFault Candidate := do
  refuseIf (store.resolve cited = none) (.candidateMissing cited)
  let candidate ← (resolveArtifact sha256 store cited .queryCandidate expected).mapError fun _ =>
    QueryFault.candidateRefused cited
  okOr candidate.matcherCandidate (.candidateNotProjection cited)

def qualifyQuery (snapshot : ValidatedArtifact sha256) (store : RetainedEvidence)
    (expected : Expected) : Except QueryFault QualifiedQuery := do
  checkEnumeration snapshot
  checkPagination snapshot
  let query ← okOr snapshot.recordedQuery .notQuerySnapshot
  let recorded ← query.mapError .doesNotBind
  let candidates ← recorded.matcher.allReturnedSnapshotDigests.mapM
    (resolveCandidate sha256 store expected)
  let verdict ← (verifyMatched sha256 recorded.matcher candidates).mapError .doesNotReplay
  refuseIf (verdict.replay.implementation = .cannotCheck) .implementationUnbound
  refuseIf (¬ verdict.reproduced = true)
    (.notReproduced recorded.matcher.matchedSnapshotDigests verdict.replay.matched)
  let observation ← okOr (snapshot.strAt "/requiredObservationId") .observationMissing
  return ⟨snapshot.digest, verdict.replay.matched, observation⟩

inductive DecisionProfile where
  | check
  | review
  | absence
  deriving DecidableEq, Repr

inductive Needs where
  | observed (surface canonical decoded : String)
  | derived (derivation : String)
  | expectedQuerySnapshot
  deriving DecidableEq

structure BasisRequirement where
  name : String
  needs : Needs
  deriving DecidableEq

def DecisionProfile.name : DecisionProfile → String
  | check => "check"
  | review => "review"
  | absence => "absence"

def DecisionProfile.requires : DecisionProfile → List BasisRequirement
  | check =>
      [⟨"observed head_sha", .observed "github-actions-check" "/headSha" "/head_sha"⟩,
       ⟨"observed conclusion", .observed "github-actions-check" "/conclusion" "/conclusion"⟩]
  | review =>
      [⟨"observed commit_id", .observed "github-submitted-review" "/commitId" "/commit_id"⟩,
       ⟨"derived carries_finding", .derived "review-carries-finding"⟩]
  | absence => [⟨"expected query snapshot digest", .expectedQuerySnapshot⟩]

structure DecisionInput where
  sourceDigest : String
  pointer : String
  locator : AcquisitionLocator

structure ExpectedQuery where
  digest : String
  subject : QueryBinding

structure DecisionBasis where
  observationId : String
  inputs : List DecisionInput
  derived : List DerivedFact
  expectedQuery : Option ExpectedQuery
  bindings : List DeclaredBinding
  expectedRedactionPolicy : String
  expectedDetector : ExpectedDetector

def DecisionBasis.expected (basis : DecisionBasis) : Expected :=
  ⟨basis.bindings, basis.expectedDetector, basis.expectedRedactionPolicy⟩

structure ObservedField where
  surface : String
  pointer : String
  digest : String

structure CheckedBasis where
  why : List Unresolved
  values : List Tree
  observed : List ObservedField
  someInputDidNotResolve : Bool

namespace CheckedBasis

def empty : CheckedBasis := ⟨[], [], [], false⟩

def push (c : CheckedBasis) (refusals : List Unresolved) : CheckedBasis :=
  { c with why := c.why ++ refusals }

end CheckedBasis

def checkInput (store : RetainedEvidence) (expected : Expected) (c : CheckedBasis)
    (input : DecisionInput) : CheckedBasis :=
  match resolveArtifact sha256 store input.sourceDigest .gatedSource expected with
  | .error e => { c.push [e] with someInputDidNotResolve := true }
  | .ok record =>
      match concernsSource record input.sourceDigest input.locator with
      | .error e => c.push [e]
      | .ok () =>
          let observed := c.observed ++ [⟨record.kind.surface, input.pointer, input.sourceDigest⟩]
          match readPointer record input.pointer with
          | .ok value => { c with observed, values := c.values ++ [value] }
          | .error e => { c.push [e] with observed }

def refusals {α : Type} : Except (List Unresolved) α → List Unresolved
  | .ok _ => []
  | .error why => why

def checkExpectedQuery (basis : DecisionBasis) (store : RetainedEvidence)
    (expectedQuery : ExpectedQuery) : Except (List Unresolved) Unit := do
  let snapshot ← (resolveArtifact sha256 store expectedQuery.digest .expectedQuerySnapshot
    basis.expected).mapError fun e => [e]
  (do
    concerns snapshot expectedQuery.subject
    let q ← qualifyQuery sha256 snapshot store basis.expected
    q.supportsAbsence basis.observationId : Except QueryFault Unit).mapError fun why =>
      [Unresolved.queryDoesNotSupportRole expectedQuery.digest
        ConsumedAs.expectedQuerySnapshot.name why]

def checkBasis (basis : DecisionBasis) (store : RetainedEvidence) : CheckedBasis :=
  let read := basis.inputs.foldl (checkInput sha256 store basis.expected) .empty
  let derived := basis.derived.foldl (fun c fact =>
    c.push (refusals (checkDerived sha256 store fact basis.expected))) read
  match basis.expectedQuery with
  | none => derived
  | some query => derived.push (refusals (checkExpectedQuery sha256 basis store query))

variable {sha256}

def ObservedField.meets (o : ObservedField) (surface canonical decoded : String) : Bool :=
  o.surface = surface && (o.pointer = canonical || o.pointer = decoded)

def satisfied (basis : DecisionBasis) (checked : CheckedBasis) : Needs → Bool
  | .observed surface canonical decoded =>
      checked.observed.any fun o => o.meets surface canonical decoded
  | .derived derivation => basis.derived.any fun f => f.derivation = derivation
  | .expectedQuerySnapshot => basis.expectedQuery.isSome

/-- `entry(key).or_default().push(value)`, on an association list. -/
def pushUnder {α : Type} (key : String) (value : α) : List (String × List α) → List (String × List α)
  | [] => [(key, [value])]
  | (k, values) :: rest =>
      if k = key then (k, values ++ [value]) :: rest else (k, values) :: pushUnder key value rest

def pushSlots (slots : List (String × List String)) (fact : DerivedFact) :
    List (String × List String) :=
  match resolveDerivation fact.derivation fact.version with
  | none => slots
  | some entry =>
      (entry.sources.zip fact.derivedFrom).foldl (fun slots slot =>
        pushUnder slot.1.kind slot.2.digest slots) slots

def citedSlots (basis : DecisionBasis) (derivation : String) : List (String × List String) :=
  (basis.derived.filter fun f => f.derivation = derivation).foldl pushSlots []

/-- For each surface, the digests that can stand for it, requirement by requirement. -/
def witnesses (profile : DecisionProfile) (basis : DecisionBasis) (checked : CheckedBasis) :
    List (String × List (List String)) :=
  profile.requires.foldl (fun bySurface requirement =>
    match requirement.needs with
    | .observed surface canonical decoded =>
        pushUnder surface ((checked.observed.filter fun o =>
          o.meets surface canonical decoded).map ObservedField.digest) bySurface
    | .derived derivation =>
        (citedSlots basis derivation).foldl (fun bySurface slot =>
          pushUnder slot.1 slot.2 bySurface) bySurface
    | .expectedQuerySnapshot => bySurface) []

/-- Some digest stands in every list; nothing is asked of fewer than two lists, or of lists one
of which is empty. -/
def sharedWitness : List (List String) → Bool
  | [] => true
  | first :: rest =>
      rest.isEmpty || (first :: rest).any List.isEmpty ||
        first.any fun candidate => rest.all fun other => other.contains candidate

def checkCompleteness (profile : DecisionProfile) (basis : DecisionBasis) (checked : CheckedBasis) :
    List Unresolved :=
  ((profile.requires.filter fun r => !satisfied basis checked r.needs).map fun r =>
    .basisIncompleteForProfile profile.name r.name) ++
  (((witnesses profile basis checked).insertionSort fun a b => a.1 ≤ b.1).filter fun entry =>
    !sharedWitness entry.2).map fun entry => .basisSubjectNotShared profile.name entry.1

inductive Admissible where
  | yes (values : List Tree)
  | cannotCheck (why : List Unresolved)

variable (sha256)

def admissibility (profile : DecisionProfile) (basis : DecisionBasis) (store : RetainedEvidence) :
    Admissible :=
  let checked := checkBasis sha256 basis store
  let why := if checked.someInputDidNotResolve then checked.why
    else checked.why ++ checkCompleteness profile basis checked
  if why.isEmpty then .yes checked.values else .cannotCheck why

inductive ScanCompleteness where
  | complete
  | incomplete (reason : String)
  | failed (reason : String)
  deriving DecidableEq

structure FalsificationSurfaceScan where
  surface : String
  binding : QueryBinding
  completeness : ScanCompleteness
  expectedRedactionPolicy : String
  expectedDetector : ExpectedDetector
  snapshotDigest : String

inductive ScanFault where
  | incomplete (reason : String)
  | failed (reason : String)
  | evidence (why : Unresolved)
  | surfaceDiffers (found : Option String)
  | query (why : QueryFault)

inductive ScanVerdict where
  | zeroClaimsMeaningful
  | claims (count : Nat)
  | cannotCheck (why : ScanFault)

def FalsificationSurfaceScan.expected (scan : FalsificationSurfaceScan) : Expected :=
  ⟨[], scan.expectedDetector, scan.expectedRedactionPolicy⟩

def checkScanEvidence (scan : FalsificationSurfaceScan) (store : RetainedEvidence) :
    Except ScanFault QualifiedQuery := do
  let snapshot ← (resolveArtifact sha256 store scan.snapshotDigest .scanEvidence
    scan.expected).mapError .evidence
  let evidenced := snapshot.strAt "/surface"
  refuseIf (evidenced ≠ some scan.surface) (.surfaceDiffers evidenced)
  (concerns snapshot scan.binding).mapError .query
  (qualifyQuery sha256 snapshot store scan.expected).mapError .query

def scanVerdict (scan : FalsificationSurfaceScan) (claims : Nat) (store : RetainedEvidence) :
    ScanVerdict :=
  match scan.completeness with
  | .incomplete reason => .cannotCheck (.incomplete reason)
  | .failed reason => .cannotCheck (.failed reason)
  | .complete =>
      match checkScanEvidence sha256 scan store with
      | .error why => .cannotCheck why
      | .ok qualified =>
          match qualified.supportsClaimCount claims with
          | .error why => .cannotCheck (.query why)
          | .ok () => if claims = 0 then .zeroClaimsMeaningful else .claims claims

inductive FailedRead where
  | rateLimited
  | requestFailed
  | notFound
  | unauthorized
  deriving DecidableEq, Repr

def FailedRead.code : FailedRead → String
  | rateLimited => "RATE_LIMITED"
  | requestFailed => "REQUEST_FAILED"
  | notFound => "NOT_FOUND"
  | unauthorized => "UNAUTHORIZED"

inductive HeadRead where
  | observed (eventDigest : String)
  | failed (code : FailedRead)

structure SubjectRead where
  before : HeadRead
  after : HeadRead

structure Subject where
  repository : String
  pullRequest : String
  expectedSha : String
  expectedRedactionPolicy : String
  expectedDetector : ExpectedDetector

def Subject.expected (subject : Subject) : Expected :=
  ⟨[], subject.expectedDetector, subject.expectedRedactionPolicy⟩

structure ObservedHead where
  sha : String
  observedAt : String
  deriving DecidableEq

inductive HeadFault where
  | event (why : Unresolved)
  | roleDiffers (found expected : String)
  | roleMissing
  | notAvailable
  | snapshotDigestMissing
  | snapshot (why : Unresolved)
  | subjectDiffers (repository pullRequest : Option String)
  | observedAtMissing
  | headShaMissing
  | didNotHappen (code : String)

inductive StalenessFault where
  | unresolved (slots : List (String × HeadFault))
  | noInterval (before after : String)

inductive Staleness where
  | notStale
  | stale (observed : String)
  | cannotCheck (why : StalenessFault)

def checkRole (event : ValidatedArtifact sha256) (expectedRole : String) : Except HeadFault Unit :=
  match event.strAt "/role" with
  | some role => refuseIf (role ≠ expectedRole) (.roleDiffers role expectedRole)
  | none => .error .roleMissing

def resolveHeadRead (store : RetainedEvidence) (eventDigest expectedRole : String)
    (subject : Subject) : Except HeadFault ObservedHead := do
  let event ← (resolveArtifact sha256 store eventDigest .headReadEvent subject.expected).mapError
    HeadFault.event
  checkRole sha256 event expectedRole
  refuseIf (event.strAt "/acquisition" ≠ some "AVAILABLE") .notAvailable
  let snapshotDigest ← okOr (event.strAt "/snapshotDigest") .snapshotDigestMissing
  let snapshot ← (resolveArtifact sha256 store snapshotDigest .subjectHead
    subject.expected).mapError HeadFault.snapshot
  let repository := snapshot.strAt "/repository"
  let pullRequest := snapshot.strAt "/pullRequest"
  refuseIf (repository ≠ some subject.repository ∨ pullRequest ≠ some subject.pullRequest)
    (.subjectDiffers repository pullRequest)
  let observedAt ← okOr (event.strAt "/observedAt") .observedAtMissing
  let sha ← okOr (snapshot.strAt "/headSha") .headShaMissing
  return ⟨sha, observedAt⟩

def readHead (store : RetainedEvidence) (subject : Subject) (role : String) :
    HeadRead → Except HeadFault ObservedHead
  | .failed code => .error (.didNotHappen code.code)
  | .observed eventDigest => resolveHeadRead sha256 store eventDigest role subject

def readHeads (store : RetainedEvidence) (subject : Subject) (read : SubjectRead) :
    List ObservedHead × List (String × HeadFault) :=
  [("head_before", "HEAD_BEFORE", read.before), ("head_after", "HEAD_AFTER", read.after)].foldl
    (fun acc slot =>
      match readHead sha256 store subject slot.2.1 slot.2.2 with
      | .ok observed => (acc.1 ++ [observed], acc.2)
      | .error why => (acc.1, acc.2 ++ [(slot.1, why)])) ([], [])

def headsVerdict (expectedSha : String) (observed : List ObservedHead) : Staleness :=
  match observed.find? fun h => h.sha ≠ expectedSha with
  | some h => .stale h.sha
  | none => .notStale

def staleness (subject : Subject) (read : SubjectRead) (store : RetainedEvidence) : Staleness :=
  let heads := readHeads sha256 store subject read
  if heads.2 ≠ [] then .cannotCheck (.unresolved heads.2)
  else
    match heads.1 with
    | [before, after] =>
        if before.observedAt > after.observedAt then
          .cannotCheck (.noInterval before.observedAt after.observedAt)
        else headsVerdict subject.expectedSha heads.1
    | _ => headsVerdict subject.expectedSha heads.1

end O7Formal.Closure
