import O7Formal.Closure.Authorise

/-! The door to retained evidence. The store is only ever asked to resolve a digest that the
caller names; what it answers is validated, checked against the role it is consumed in, and, for
gated kinds, against the assessment its retention binding names. -/

namespace O7Formal.Closure

open Json Fallible
open Run (Sha256)

inductive AcquisitionLocator where
  | inPullRequest (repository pullRequest stableId : String)
  | check (repository stableId : String)
  | head (repository pullRequest : String)
  deriving DecidableEq

def AcquisitionLocator.members : AcquisitionLocator → List (String × String)
  | inPullRequest repository pullRequest stableId =>
      [("repository", repository), ("pullRequest", pullRequest), ("stableId", stableId)]
  | check repository stableId => [("repository", repository), ("stableId", stableId)]
  | head repository pullRequest => [("repository", repository), ("pullRequest", pullRequest)]

structure CitedSource where
  digest : String
  locator : AcquisitionLocator

structure DerivedFact where
  derivation : String
  version : String
  value : Tree
  derivedFrom : List CitedSource

structure DeclaredBinding where
  recordDigest : String
  assessmentDigest : String

structure RetainedEvidence where
  resolve : String → Option Tree
  bindingFor : String → Option Tree

structure Expected where
  declared : List DeclaredBinding
  detector : ExpectedDetector
  policy : String

inductive ConsumedAs where
  | gatedSource
  | expectedQuerySnapshot
  | scanEvidence
  | headReadEvent
  | subjectHead
  | retentionAssessment
  | retentionBinding
  | queryCandidate
  deriving DecidableEq, Repr

namespace ConsumedAs

def name : ConsumedAs → String
  | gatedSource => "a gated source record"
  | expectedQuerySnapshot => "the expected query snapshot"
  | scanEvidence => "a falsification scan's evidence"
  | headReadEvent => "a head-read event"
  | subjectHead => "a subject head projection"
  | retentionAssessment => "an authorising retention assessment"
  | retentionBinding => "a retention binding"
  | queryCandidate => "a query snapshot's replay candidate"

def accepts : ConsumedAs → ArtifactKind → Bool
  | gatedSource, .completeProjection _ => true
  | gatedSource, .reducedSourceRecord _ => true
  | expectedQuerySnapshot, .querySnapshot => true
  | scanEvidence, .querySnapshot => true
  | headReadEvent, .headReadEvent => true
  | subjectHead, .completeProjection kind => kind = "github-pull-request-head"
  | retentionAssessment, .retentionAssessment => true
  | retentionBinding, .retentionBinding => true
  | queryCandidate, .completeProjection _ => true
  | _, _ => false

end ConsumedAs

/-- Why a query snapshot does not carry the role it is consumed in. -/
inductive QueryFault where
  | subjectDiffers (repository pullRequest : Option String)
  | observationDiffers (expected found : String)
  | matchedSome (matched : List String)
  | claimsRefuted (matched : List String)
  | incomplete
  | unknownEnumeration (found : String)
  | enumerationMissing
  | nextPage
  | paginationUnknown
  | notQuerySnapshot
  | doesNotBind (error : MatchError)
  | candidateMissing (cited : String)
  | candidateRefused (cited : String)
  | candidateNotProjection (cited : String)
  | doesNotReplay (error : MatchError)
  | implementationUnbound
  | notReproduced (claimed recomputed : List String)
  | observationMissing
  deriving DecidableEq, Repr

inductive Unresolved where
  | noSuchRecord (digest : String)
  | recordDigestMismatch (requested : String) (computed : Except CanonicalError String)
  | pointerBlocked (digest pointer : String)
  | pointerAbsent (digest pointer : String)
  | noRetentionBinding (recordDigest : String)
  | noSuchRetentionBinding (recordDigest bindingDigest : String)
  | bindingMismatch (recordDigest declared retained : String)
  | bindingSubjectMismatch (requested bindingNames : String)
  | noSuchAssessment (recordDigest assessmentDigest : String)
  | malformedArtifact (digest kind : String) (why : FormFault)
  | assessmentDoesNotAuthorise (recordDigest assessmentDigest : String) (why : AuthoriseFault)
  | wrongKindForRole (digest role found : String)
  | derivationDisagrees (derivation : String) (claimed recomputed : Tree)
  | derivationArityMismatch (derivation : String) (expected cited : Nat)
  | locatorSubjectMismatch (digest member declared cited : String)
  | basisIncompleteForProfile (profile missing : String)
  | basisSubjectNotShared (profile surface : String)
  | derivationSlotKindMismatch (derivation version : String) (slot : Nat) (expected found : String)
  | derivationInputUnavailable (derivation version sourceDigest : String)
  | derivationCannotRecompute (derivation version : String)
  | unknownDerivation (derivation version : String)
  | derivationImplementationDrift (derivation version expected computed : String)
  | queryDoesNotSupportRole (digest role : String) (why : QueryFault)

def ValidationError.unresolved (requested : String) (raw : Tree) : ValidationError → Unresolved
  | digestMismatch computed => .recordDigestMismatch requested (.ok computed)
  | notCanonicalizable e => .recordDigestMismatch requested (.error e)
  | malformed why =>
      .malformedArtifact requested ((raw.strAt "/sourceKind").getD "<absent>") why

variable (sha256 : Sha256)

/-- `resolve_artifact` up to its gate: a failure pushes exactly one refusal. -/
def resolveUngated (store : RetainedEvidence) (requested : String) (role : ConsumedAs) :
    Except Unresolved (ValidatedArtifact sha256) := do
  let raw ← okOr (store.resolve requested) (.noSuchRecord requested)
  let artifact ← (validate sha256 requested raw).mapError (ValidationError.unresolved requested raw)
  refuseIf (¬ role.accepts artifact.kind = true)
    (.wrongKindForRole requested role.name artifact.kind.name)
  return artifact

def authorisingAssessment (store : RetainedEvidence) (record : ValidatedArtifact sha256) :
    Except Unresolved (ValidatedArtifact sha256) := do
  let requested := record.digest
  let bindingBytes ← okOr (store.bindingFor requested) (.noRetentionBinding requested)
  let bindingDigest ← (digest sha256 bindingBytes).mapError fun _ =>
    Unresolved.noRetentionBinding requested
  refuseIf (store.resolve bindingDigest = none) (.noSuchRetentionBinding requested bindingDigest)
  let binding ← resolveUngated sha256 store bindingDigest .retentionBinding
  let names := (binding.strAt "/recordDigest").getD ""
  refuseIf (names ≠ requested) (.bindingSubjectMismatch requested names)
  let assessmentDigest := (binding.strAt "/assessmentDigest").getD ""
  refuseIf (store.resolve assessmentDigest = none) (.noSuchAssessment requested assessmentDigest)
  resolveUngated sha256 store assessmentDigest .retentionAssessment

-- The binding and the assessment are of ungated kinds, so resolving them never comes back here.
def authorised (store : RetainedEvidence) (record : ValidatedArtifact sha256)
    (expected : Expected) : Except Unresolved Unit := do
  let requested := record.digest
  let assessment ← authorisingAssessment sha256 store record
  (checkAuthorises record assessment expected.policy expected.detector).mapError
    (.assessmentDoesNotAuthorise requested assessment.digest)
  refuseFirst (expected.declared.filter fun b => b.recordDigest = requested)
    (fun asserted => asserted.assessmentDigest ≠ assessment.digest)
    (fun asserted => .bindingMismatch requested asserted.assessmentDigest assessment.digest)

def passGate (store : RetainedEvidence) (artifact : ValidatedArtifact sha256)
    (expected : Expected) : Except Unresolved Unit :=
  if artifact.kind.gate = .gated then authorised sha256 store artifact expected else .ok ()

def resolveArtifact (store : RetainedEvidence) (requested : String) (role : ConsumedAs)
    (expected : Expected) : Except Unresolved (ValidatedArtifact sha256) := do
  let artifact ← resolveUngated sha256 store requested role
  passGate sha256 store artifact expected
  return artifact

variable {sha256}

def blocks (record : ValidatedArtifact sha256) (pointer : String) : Bool :=
  match (record.pointer "/blockedFields").bind Tree.asArray with
  | some fields => fields.any fun f => f.asStr = some pointer
  | none => false

def retainedField (record : ValidatedArtifact sha256) (pointer : String) : Option Tree :=
  ((record.pointer "/retainedFields").bind Tree.asObject).bind fun fields => fields.lookup pointer

def readPointer (record : ValidatedArtifact sha256) (pointer : String) : Except Unresolved Tree :=
  match record.kind with
  | .reducedSourceRecord _ => do
      refuseIf (blocks record pointer = true) (.pointerBlocked record.digest pointer)
      okOr (retainedField record pointer) (.pointerBlocked record.digest pointer)
  | _ => okOr (record.pointer pointer) (.pointerAbsent record.digest pointer)

def concernsSource (artifact : ValidatedArtifact sha256) (digest : String)
    (cited : AcquisitionLocator) : Except Unresolved Unit :=
  match artifact.kind with
  | .reducedSourceRecord locatorKind =>
      match locatorShape locatorKind with
      | none => .ok ()
      | some shape =>
          refuseFirst (shape.members.map Member.name)
            (fun name => artifact.strAt ("/locator/" ++ name) ≠ cited.members.lookup name)
            (fun name => .locatorSubjectMismatch digest name
              ((artifact.strAt ("/locator/" ++ name)).getD "<absent>")
              ((cited.members.lookup name).getD "<not named by this citation>"))
  | _ => .ok ()

inductive ViewError where
  | input (why : Unresolved)
  | undeclarable

def ViewError.refusals (fact : DerivedFact) (sourceDigest : String) : ViewError → List Unresolved
  | input why => [why, .derivationInputUnavailable fact.derivation fact.version sourceDigest]
  | undeclarable => [.derivationCannotRecompute fact.derivation fact.version]

def derivationSourceView (record : ValidatedArtifact sha256) (inputs : List DerivationInput) :
    Except ViewError Tree :=
  inputs.foldlM (fun view input => do
    let pointer := match record.kind with
      | .reducedSourceRecord _ => input.decoded
      | _ => input.canonical
    let value ← (readPointer record pointer).mapError ViewError.input
    okOr (view.place input.canonical value) .undeclarable) (.object [])

def resolveDerivation (id version : String) : Option DerivationEntry :=
  derivationRegistry.find? fun entry => entry.id = id ∧ entry.version = version

variable (sha256)

def checkSlot (store : RetainedEvidence) (fact : DerivedFact) (expected : Expected) (slot : Nat)
    (source : DerivationSource) (cited : CitedSource) : Except (List Unresolved) Tree := do
  let record ← (resolveArtifact sha256 store cited.digest .gatedSource expected).mapError
    fun e => [e]
  (concernsSource record cited.digest cited.locator).mapError fun e => [e]
  let found := record.kind.surface
  refuseIf (found ≠ source.kind)
    [.derivationSlotKindMismatch fact.derivation fact.version slot source.kind found]
  (derivationSourceView record source.inputs).mapError (ViewError.refusals fact cited.digest)

def derivationComputed (entry : DerivationEntry) : String :=
  digestOfCanonicalBytes sha256 (fileBytes entry.implementationSource)

def checkDerived (store : RetainedEvidence) (fact : DerivedFact) (expected : Expected) :
    Except (List Unresolved) Unit := do
  let entry ← okOr (resolveDerivation fact.derivation fact.version)
    [Unresolved.unknownDerivation fact.derivation fact.version]
  refuseIf (derivationComputed sha256 entry ≠ entry.implementationDigest)
    [.derivationImplementationDrift fact.derivation fact.version entry.implementationDigest
      (derivationComputed sha256 entry)]
  refuseIf (fact.derivedFrom.length ≠ entry.sources.length)
    [.derivationArityMismatch fact.derivation entry.sources.length fact.derivedFrom.length]
  let sources ← (entry.sources.zip fact.derivedFrom).zipIdx.mapM fun slot =>
    checkSlot sha256 store fact expected slot.2 slot.1.1 slot.1.2
  match entry.derive sources with
  | some recomputed =>
      refuseIf (recomputed ≠ fact.value)
        [.derivationDisagrees fact.derivation fact.value recomputed]
  | none => .error [.derivationCannotRecompute fact.derivation fact.version]

end O7Formal.Closure
