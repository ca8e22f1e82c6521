import O7Formal.Run.Framing
import Mathlib.Data.Finmap

/-! The reduced run state and the four-state verdict. -/

namespace O7Formal.Run

def runStateSchemaVersion : UInt32 := 1

inductive Verdict where
  | pass
  | fail
  | blocked
  | error
  deriving DecidableEq, Repr

inductive RunPhase where
  | notStarted
  | running
  | sealed
  deriving DecidableEq, Repr

inductive GateProgress where
  | started
  | finished (outcome : GateOutcome)
  deriving DecidableEq, Repr

inductive AgentLifecycle where
  | notObserved
  | started
  | exited (outcome : AgentOutcome)
  deriving DecidableEq

def AgentLifecycle.isExited : AgentLifecycle → Bool
  | .exited _ => true
  | .notObserved | .started => false

structure PolicyResult where
  policy : ArtifactRef
  outcome : PolicyOutcome
  deriving DecidableEq

structure SandboxEvidenceKey where
  subject : ExecutionSubject
  policyDigest : Digest256
  deriving DecidableEq

def SandboxEvidenceKey.sortKey (k : SandboxEvidenceKey) : ExecutionSubject ×ₗ Digest256 :=
  toLex (k.subject, k.policyDigest)

theorem SandboxEvidenceKey.sortKey_injective : Function.Injective SandboxEvidenceKey.sortKey := by
  intro a b same
  have pairs : (a.subject, a.policyDigest) = (b.subject, b.policyDigest) := toLex.injective same
  cases a
  cases b
  simp_all

instance : LinearOrder SandboxEvidenceKey :=
  LinearOrder.lift' SandboxEvidenceKey.sortKey SandboxEvidenceKey.sortKey_injective

structure SandboxEvidenceEntry where
  key : SandboxEvidenceKey
  outcome : SandboxEvidenceOutcome
  deriving DecidableEq

structure CandidateMaterialization where
  sourceRunId : RunId
  sourceReceipt : ArtifactRef
  sourcePatch : ArtifactRef
  materializedTreeOid : String
  deriving DecidableEq

/-- The reduced state. The set of seen ids and the gate map are kept up to the order
of their elements, which nothing in the reducer reads. -/
structure RunState where
  schemaVersion : UInt32
  phase : RunPhase
  runId : Option RunId
  contract : Option RunContract
  task : Option ArtifactRef
  worktree : Option ArtifactRef
  patch : Option ArtifactRef
  agent : AgentLifecycle
  lastSequence : Option UInt64
  lastEventDigest : Digest256
  seenEventIds : Finset RunEventId
  gates : Finmap (fun _ : GateId => GateProgress)
  policyResults : List PolicyResult
  sandboxEvidence : List SandboxEvidenceEntry
  verdict : Option Verdict
  providerSessionReceipt : Option ArtifactRef
  commandBinding : Option ArtifactRef
  candidateState : Option ArtifactRef
  candidateMaterialized : Option CandidateMaterialization
  deriving DecidableEq

def RunState.initial : RunState where
  schemaVersion := runStateSchemaVersion
  phase := .notStarted
  runId := none
  contract := none
  task := none
  worktree := none
  patch := none
  agent := .notObserved
  lastSequence := none
  lastEventDigest := .genesis
  seenEventIds := ∅
  gates := ∅
  policyResults := []
  sandboxEvidence := []
  verdict := none
  providerSessionReceipt := none
  commandBinding := none
  candidateState := none
  candidateMaterialized := none

end O7Formal.Run
