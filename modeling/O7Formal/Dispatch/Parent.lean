import O7Formal.Dispatch.Continue

/-! What a continuation takes from its parent's record, and the receipt that it leaves for its own
continuations. -/

namespace O7Formal.Dispatch

open Fallible
open O7Formal.Run (ArtifactRef CandidateStateContractV1 CandidateStateReceiptV1 Digest256
  RepositoryIdentity RunEvent RunState)

section Parent

variable (env : Setting) (repo : RepositoryIdentity) (parent : RecordDir)

def loadVerifiedCandidateReceipt :
    Except Fault (RunState × CandidateStateReceiptV1 × List RunEvent) :=
  match parent.events with
  | .missing | .unreadable _ =>
      .error (.refused ("reading the canonical events.jsonl at " ++ parent.base))
  | .lines held => do
      let parsed ← (fromJsonl held).mapError
        fun why => Fault.refused ("parsing canonical events.jsonl: " ++ why)
      let (state, _) ← (Run.verifyPrefix env.sha256 env.ext (recordDirResolver parent)
        parsed).mapError fun _ => Fault.refused "canonical record failed verification"
      let contract ← okOr state.contract
        (.refused "canonical record has no contract (unreachable for a valid stream)")
      let receipt ← (Run.verifyCandidateStateCaptured env.sha256 env.ext
        (recordDirResolver parent) state contract).mapError
        fun e => Fault.refused ("candidate-state semantic verification failed: " ++ e.reason)
      pure (state, receipt, parsed)

def resolveInheritedCandidateObligation (parentRunId conversationId : String) :
    Except Fault CandidateStateContractV1 := do
  let (_, receipt, _) ← loadVerifiedCandidateReceipt env parent
  refuseIf (receipt.conversationId ≠ conversationId)
    (.refused "the parent's candidate-state receipt belongs to a different conversation")
  refuseIf (receipt.runId.asStr ≠ parentRunId) (.refused
    "the parent's candidate-state receipt's own run_id does not match the parent run")
  refuseIf (receipt.repositoryId ≠ repo) (.refused
    ("the parent's candidate-state receipt was captured against a different repository than " ++
      "this server is currently configured for"))
  pure ⟨Run.candidateStateContractSchemaV1, receipt.conversationId, receipt.repositoryId,
    receipt.baseCommit, receipt.patchKind⟩

def parentCandidateState (parentRunId conversationId : String) :
    Except Fault (CandidateStateReceiptV1 × List UInt8 × List UInt8) := do
  let (state, receipt, events) ← loadVerifiedCandidateReceipt env parent
  refuseIf (state.verdict = none) (.refused
    "the parent run is not sealed — a truncated-after-capture prefix must not be materialized from")
  refuseIf (events.getLast?.map RunEvent.kind ≠ some .runSealed)
    (.refused "the parent's own canonical record's last event is not RunSealed")
  refuseIf (receipt.runId.asStr ≠ parentRunId) (.refused
    "the parent's candidate-state receipt's own run_id does not match the parent run")
  refuseIf (receipt.conversationId ≠ conversationId)
    (.refused "the parent's candidate-state receipt belongs to a different conversation")
  refuseIf (receipt.repositoryId ≠ repo) (.refused
    "the parent's candidate-state receipt was captured against a different repository")
  let patch ← (parent.read receipt.patch.locator).mapError
    fun _ => Fault.refused "re-reading the parent's own candidate.patch"
  let bytes ← (parent.read Run.candidateStateReceiptLocator).mapError
    fun _ => Fault.refused "re-reading the parent's own candidate_state_receipt.json bytes"
  pure (receipt, bytes, patch)

def ownCandidateReceipt (obligation : CandidateStateContractV1) (runId : CanonicalRunId)
    (parentRunId : Option CanonicalRunId) (treeOid : String) (patch : List UInt8) :
    CandidateStateReceiptV1 where
  schema := Run.candidateStateReceiptSchemaV1
  repositoryId := obligation.repositoryId
  baseCommit := obligation.baseCommit
  runId := runId
  conversationId := obligation.conversationId
  parentRunId := parentRunId
  candidateTreeOid := treeOid
  patchKind := obligation.patchKind
  patch := artifact env .candidatePatch Run.candidatePatchLocator patch

end Parent

section Evidence

variable {env : Setting} {repo : RepositoryIdentity} {parent : RecordDir}
  {receipt : CandidateStateReceiptV1} {state : RunState} {events : List RunEvent}

theorem resolver_ok_iff {dir : RecordDir} {a : ArtifactRef} {bytes : List UInt8} :
    recordDirResolver dir a = .ok bytes ↔
      confined a.locator = true ∧ dir.read a.locator = .ok bytes := by
  unfold recordDirResolver
  cases inside : confined a.locator with
  | false => simp
  | true => simp [mapError_ok_iff]

structure Loaded (env : Setting) (parent : RecordDir) (receipt : CandidateStateReceiptV1) :
    Prop where
  bytes : ∃ held, parent.read Run.candidateStateReceiptLocator = .ok held ∧
    env.ext.readReceipt held = .ok receipt
  schema : receipt.schema = Run.candidateStateReceiptSchemaV1
  patchLocator : receipt.patch.locator = Run.candidatePatchLocator
  patch : ∃ held, parent.read receipt.patch.locator = .ok held ∧
    Digest256.ofBytes env.sha256 held = receipt.patch.digest

theorem loaded_of_load (loaded : loadVerifiedCandidateReceipt env parent =
    .ok (state, receipt, events)) : Loaded env parent receipt := by
  unfold loadVerifiedCandidateReceipt at loaded
  split at loaded
  · cases loaded
  · cases loaded
  · rename_i held _
    simp only [bind_ok_iff, mapError_ok_iff, pure_ok_iff, Prod.mk.injEq] at loaded
    rcases loaded with ⟨parsed, _, ⟨s, n⟩, verified, contract, bound, found, captured, rfl, rfl, _⟩
    have core := (Run.verifyPrefix_ok_split.mp verified).1
    rcases Run.verifyPrefixCore_ok_iff.mp core with ⟨nonempty, _, run, _, _⟩
    rcases Run.opened_of_run run with ⟨empty, _⟩ | ⟨first, rest, _, _, _, opened⟩
    · exact absurd empty nonempty
    rcases (Run.verifyCandidateStateCaptured_ok_iff opened.runId).mp captured with
      ⟨receiptRef, _, lineage⟩
    rcases lineage.behind with ⟨bytes, backed, read, schema⟩
    rcases lineage.patch with ⟨patch, patched⟩
    have own := (resolver_ok_iff.mp backed.resolves).2
    rw [backed.locator] at own
    exact ⟨⟨bytes, own, read⟩, schema, patched.locator, patch,
      (resolver_ok_iff.mp patched.resolves).2, patched.digest⟩

/-- What the copies of a parent's evidence show, for the obligation taken over from it. -/
structure Evidence (env : Setting) (obligation : CandidateStateContractV1)
    (parentRunId conversationId : String) (receipt : CandidateStateReceiptV1)
    (bytes patch : List UInt8) : Prop where
  reads : env.ext.readReceipt bytes = .ok receipt
  schema : receipt.schema = Run.candidateStateReceiptSchemaV1
  run : receipt.runId.asStr = parentRunId
  conversation : receipt.conversationId = conversationId
  patchLocator : receipt.patch.locator = Run.candidatePatchLocator
  patchDigest : Digest256.ofBytes env.sha256 patch = receipt.patch.digest
  fulfils : Run.Fulfils receipt obligation
  obliged : obligation.schema = Run.candidateStateContractSchemaV1

theorem evidence_of_parent {obligation : CandidateStateContractV1}
    {parentRunId conversationId : String} {bytes patch : List UInt8}
    (inherited : resolveInheritedCandidateObligation env repo parent parentRunId conversationId =
      .ok obligation)
    (verified : parentCandidateState env repo parent parentRunId conversationId =
      .ok (receipt, bytes, patch)) :
    Evidence env obligation parentRunId conversationId receipt bytes patch := by
  simp only [resolveInheritedCandidateObligation, bind_ok_iff, refuseIf_ok_iff, exists_const,
    pure_ok_iff, ne_eq, not_not] at inherited
  rcases inherited with ⟨⟨s, found, parsed⟩, load, conversation, run, _, rfl⟩
  simp only [parentCandidateState, load, ok_bind, bind_ok_iff, refuseIf_ok_iff, exists_const,
    mapError_ok_iff, pure_ok_iff, Prod.mk.injEq] at verified
  rcases verified with ⟨_, _, _, _, _, patch', patched, bytes', read, rfl, rfl, rfl⟩
  have loaded := loaded_of_load load
  rcases loaded.bytes with ⟨held, own, reads⟩
  cases own.symm.trans read
  rcases loaded.patch with ⟨heldPatch, ownPatch, digest⟩
  cases ownPatch.symm.trans patched
  exact ⟨reads, loaded.schema, run, conversation, loaded.patchLocator, digest,
    ⟨rfl, rfl, rfl, rfl⟩, rfl⟩

theorem conversation_of_inherited {obligation : CandidateStateContractV1}
    {parentRunId conversationId : String}
    (inherited : resolveInheritedCandidateObligation env repo parent parentRunId conversationId =
      .ok obligation) :
    obligation.conversationId = conversationId ∧
      obligation.schema = Run.candidateStateContractSchemaV1 := by
  simp only [resolveInheritedCandidateObligation, bind_ok_iff, refuseIf_ok_iff, exists_const,
    pure_ok_iff, ne_eq, not_not] at inherited
  rcases inherited with ⟨_, _, conversation, _, _, rfl⟩
  exact ⟨conversation, rfl⟩

end Evidence

end O7Formal.Dispatch
