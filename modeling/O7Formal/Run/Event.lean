import O7Formal.Lib.Sha256
import Mathlib.Order.Basic
import Mathlib.Data.String.Basic
import Mathlib.Data.Prod.Lex

/-! The canonical run-event contract: identifiers, digests, the pre-execution
contract and the fourteen event payloads. -/

namespace O7Formal.Run

open ByteCodec

/-- The identifier types share one discipline; the kind only names them in errors. -/
inductive IdKind where
  | run
  | runEvent
  | gate
  deriving DecidableEq, Repr

def IdKind.text : IdKind → String
  | .run => "run"
  | .runEvent => "run-event"
  | .gate => "gate"

structure IdError where
  kind : String
  deriving DecidableEq, Repr

structure Id (kind : IdKind) where
  asStr : String
  nonempty : asStr ≠ ""
  deriving DecidableEq

def Id.new (kind : IdKind) (raw : String) : Except IdError (Id kind) :=
  if h : raw = "" then .error ⟨kind.text⟩ else .ok ⟨raw, h⟩

abbrev RunId := Id .run
abbrev RunEventId := Id .runEvent
abbrev GateId := Id .gate

theorem Id.asStr_injective (kind : IdKind) : Function.Injective (fun id : Id kind => id.asStr) := by
  intro a b same
  cases a
  cases b
  simp_all

/-- Identifiers are ordered as texts. Byte order of UTF-8 is the order of code points. -/
instance (kind : IdKind) : LinearOrder (Id kind) :=
  LinearOrder.lift' (fun id : Id kind => id.asStr) (Id.asStr_injective kind)

def isCanonicalHex (s : String) : Bool :=
  (utf8Bytes s).length == 64 && (utf8Bytes s).all isHexByte

structure Digest256 where
  asStr : String
  canonical : isCanonicalHex asStr = true
  deriving DecidableEq

theorem Digest256.asStr_injective : Function.Injective Digest256.asStr := by
  intro a b same
  cases a
  cases b
  simp_all

instance : LinearOrder Digest256 :=
  LinearOrder.lift' Digest256.asStr Digest256.asStr_injective

/-- SHA-256 as a function from messages to 32 raw bytes. The reducer and replay only
ever apply it, so every result below holds of whichever function stands here. -/
abbrev Sha256 := List UInt8 → {raw : List UInt8 // raw.length = 32}

def standardSha256 : Sha256 := fun message => ⟨Sha2.sha256 message, Sha2.sha256_length message⟩

def Digest256.fromSha256 (raw : {raw : List UInt8 // raw.length = 32}) : Digest256 :=
  ⟨hexLower raw.1, by
    have ascii := utf8Bytes_hexLower raw.1
    rw [raw.2] at ascii
    simp [isCanonicalHex, ascii.1, ascii.2]⟩

theorem Digest256.fromSha256_injective : Function.Injective Digest256.fromSha256 := by
  intro a b same
  exact Subtype.ext (hexLower_inj (congrArg Digest256.asStr same))

def Digest256.ofBytes (sha256 : Sha256) (bytes : List UInt8) : Digest256 :=
  .fromSha256 (sha256 bytes)

theorem Digest256.asStr_standard (bytes : List UInt8) :
    utf8Bytes (Digest256.ofBytes standardSha256 bytes).asStr =
      ((Sha2.quickSha256 bytes).flatMap hexByte).flatMap String.utf8EncodeChar := by
  rw [← utf8Bytes_hexLower_eq, ← Sha2.sha256_eq_quick, ofBytes, fromSha256, standardSha256]

theorem standardSha256_ne {a b : List UInt8} (apart : Sha2.quickSha256 a ≠ Sha2.quickSha256 b) :
    standardSha256 a ≠ standardSha256 b := by
  intro same
  have raw : Sha2.sha256 a = Sha2.sha256 b := congrArg Subtype.val same
  rw [Sha2.sha256_eq_quick, Sha2.sha256_eq_quick] at raw
  exact apart raw

theorem Digest256.ofBytes_standard_ne {a b : List UInt8}
    (apart : Sha2.quickSha256 a ≠ Sha2.quickSha256 b) :
    Digest256.ofBytes standardSha256 a ≠ .ofBytes standardSha256 b :=
  fun same => standardSha256_ne apart (fromSha256_injective same)

def Digest256.genesis : Digest256 :=
  ⟨"0000000000000000000000000000000000000000000000000000000000000000", by decide⟩

inductive ArtifactKind where
  | task
  | diff
  | gateLog
  | sandboxReport
  | worktree
  | policy
  | providerSession
  | commandBinding
  | candidateState
  | candidatePatch
  deriving DecidableEq, Repr

structure ArtifactRef where
  kind : ArtifactKind
  locator : String
  digest : Digest256
  deriving DecidableEq

inductive GateOutcome where
  | pass
  | fail
  | warn
  | blocked
  | notApplicable
  | error
  deriving DecidableEq, Repr

inductive PolicyOutcome where
  | allowed
  | denied
  | error
  deriving DecidableEq, Repr

inductive ExecutionSubject where
  | agent
  | gate (gate : GateId)
  | verifier
  deriving DecidableEq

def ExecutionSubject.sortKey : ExecutionSubject → ℕ ×ₗ String
  | .agent => toLex (0, "")
  | .gate id => toLex (1, id.asStr)
  | .verifier => toLex (2, "")

theorem ExecutionSubject.sortKey_injective : Function.Injective ExecutionSubject.sortKey := by
  intro a b same
  have variant : (ofLex a.sortKey).1 = (ofLex b.sortKey).1 := by rw [same]
  have payload : (ofLex a.sortKey).2 = (ofLex b.sortKey).2 := by rw [same]
  cases a <;> cases b <;> simp [sortKey] at variant payload ⊢
  exact Id.asStr_injective _ payload

instance : LinearOrder ExecutionSubject :=
  LinearOrder.lift' ExecutionSubject.sortKey ExecutionSubject.sortKey_injective

inductive SandboxEvidenceOutcome where
  | satisfied
  | violated
  | error
  deriving DecidableEq, Repr

structure SandboxRequirement where
  subject : ExecutionSubject
  policyDigest : Digest256
  deriving DecidableEq

inductive GateRequirement where
  | required
  | optional
  deriving DecidableEq, Repr

inductive GateApplicability where
  | applicable
  | waived (environment reason : String)
  deriving DecidableEq, Repr

structure GateObligation where
  gate : GateId
  requirement : GateRequirement
  applicability : GateApplicability
  deriving DecidableEq

inductive PolicyRequirement where
  | required
  | optional
  deriving DecidableEq, Repr

inductive PolicyProtectedSubject where
  | agent
  | gate (gate : GateId)
  deriving DecidableEq

structure PolicyObligation where
  policy : ArtifactRef
  requirement : PolicyRequirement
  protects : List PolicyProtectedSubject
  deriving DecidableEq

inductive AgentObligation where
  | required
  | notUsed (reason : String)
  deriving DecidableEq, Repr

structure RepositoryIdentity where
  gitCommonDir : String
  dev : UInt64
  ino : UInt64
  deriving DecidableEq, Repr

inductive CandidatePatchKind where
  | gitBinaryCumulativePatchV1
  deriving DecidableEq, Repr

def candidateStateContractSchemaV1 : UInt32 := 1

structure CandidateStateContractV1 where
  schema : UInt32
  conversationId : String
  repositoryId : RepositoryIdentity
  baseCommit : String
  patchKind : CandidatePatchKind
  deriving DecidableEq, Repr

structure RunContract where
  gateObligations : List GateObligation
  policyObligations : List PolicyObligation
  sandboxRequirements : List SandboxRequirement
  agent : AgentObligation
  runnerEnvironment : String
  candidateState : Option CandidateStateContractV1
  deriving DecidableEq

inductive AgentOutcome where
  | exitedNormally (code : Int32)
  | exitedBySignal (signal : Int32)
  | cancelledGracefully
  | cancelledForcefully
  | failedToStart (reason : String)
  | boundaryFailure (reason : String)
  | observationFailure (reason : String)
  | outputFailure (reason : String)
  | cleanupFailure (reason : String)
  deriving DecidableEq

inductive RunEventKind where
  | runStarted (contract : RunContract) (task : ArtifactRef)
  | worktreeCreated (worktree : ArtifactRef)
  | agentStarted
  | agentExited (outcome : AgentOutcome)
  | patchCaptured (patch : ArtifactRef)
  | policyChecked (policy : ArtifactRef) (outcome : PolicyOutcome)
  | gateStarted (gate : GateId)
  | gateFinished (gate : GateId) (outcome : GateOutcome) (log : Option ArtifactRef)
  | sandboxEvidenceCaptured (subject : ExecutionSubject) (policyDigest : Digest256)
      (report : ArtifactRef) (outcome : SandboxEvidenceOutcome)
  | providerSessionCaptured (receipt : ArtifactRef)
  | commandBindingCaptured (binding : ArtifactRef)
  | candidateStateCaptured (receipt : ArtifactRef)
  | candidateStateMaterialized (sourceRunId : RunId) (sourceReceipt sourcePatch : ArtifactRef)
      (materializedTreeOid : String)
  | runSealed
  deriving DecidableEq

def RunEventKind.name : RunEventKind → String
  | .runStarted .. => "run_started"
  | .worktreeCreated .. => "worktree_created"
  | .agentStarted => "agent_started"
  | .agentExited .. => "agent_exited"
  | .patchCaptured .. => "patch_captured"
  | .policyChecked .. => "policy_checked"
  | .gateStarted .. => "gate_started"
  | .gateFinished .. => "gate_finished"
  | .sandboxEvidenceCaptured .. => "sandbox_evidence_captured"
  | .providerSessionCaptured .. => "provider_session_captured"
  | .commandBindingCaptured .. => "command_binding_captured"
  | .candidateStateCaptured .. => "candidate_state_captured"
  | .candidateStateMaterialized .. => "candidate_state_materialized"
  | .runSealed => "run_sealed"

def runEventSchemaVersion : UInt32 := 1

structure RunEvent where
  eventId : RunEventId
  schemaVersion : UInt32
  runId : RunId
  sequence : UInt64
  previousEventDigest : Digest256
  eventDigest : Digest256
  timestampMillis : Int64
  kind : RunEventKind
  deriving DecidableEq

end O7Formal.Run
