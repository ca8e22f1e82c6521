import O7Formal.Run.History

/-! Semantic verification of candidate-state evidence: what the bytes behind the receipts
must say, and which fields must agree with the run's identity, its contract and its
command binding. -/

namespace O7Formal.Run

open Fallible

def candidateStateReceiptSchemaV1 : UInt32 := 1

def candidateStateReceiptLocator : String := "candidate_state_receipt.json"
def candidatePatchLocator : String := "candidate.patch"
def parentCandidateReceiptLocator : String := "parent_candidate_receipt.json"
def parentCandidatePatchLocator : String := "parent_candidate.patch"
def commandBindingLocator : String := "command_binding.json"

def commandBindingSchemaV1 : UInt32 := 1

structure CommandBindingFacts where
  schema : UInt32
  commandId : String
  conversationId : String
  parentRunId : RunId
  childRunId : RunId
  commandSha256 : String
  deriving DecidableEq

structure CandidateStateReceiptV1 where
  schema : UInt32
  repositoryId : RepositoryIdentity
  baseCommit : String
  runId : RunId
  conversationId : String
  parentRunId : Option RunId
  candidateTreeOid : String
  patchKind : CandidatePatchKind
  patch : ArtifactRef
  deriving DecidableEq

structure CandidateVerifyError where
  reason : String
  deriving DecidableEq, Repr

structure ArtifactError where
  locator : String
  reason : String
  deriving DecidableEq, Repr

def ArtifactError.text (e : ArtifactError) : String :=
  s!"artifact could not be resolved: {e.locator} ({e.reason})"

abbrev ArtifactResolver := ArtifactRef → Except ArtifactError (List UInt8)

/-- What the crate takes from outside: the JSON reader of each schema, with the text of
its error, the JSON writer of the state, and the quoted form of a text in a message. -/
structure Externals where
  readReceipt : List UInt8 → Except String CandidateStateReceiptV1
  readBinding : List UInt8 → Except String CommandBindingFacts
  writeState : RunState → Option (List UInt8)
  debugStr : String → String

def ArtifactKind.debugName : ArtifactKind → String
  | .task => "Task"
  | .diff => "Diff"
  | .gateLog => "GateLog"
  | .sandboxReport => "SandboxReport"
  | .worktree => "Worktree"
  | .policy => "Policy"
  | .providerSession => "ProviderSession"
  | .commandBinding => "CommandBinding"
  | .candidateState => "CandidateState"
  | .candidatePatch => "CandidatePatch"

section Verify

variable (sha256 : Sha256) (ext : Externals) (artifacts : ArtifactResolver)

def resolveAndVerify (r : ArtifactRef) (expectedKind : ArtifactKind) (what : String) :
    Except CandidateVerifyError (List UInt8) := do
  refuseIf (r.kind ≠ expectedKind)
    ⟨s!"{what}'s own artifact reference has kind {r.kind.debugName}, expected {expectedKind.debugName}"⟩
  let bytes ← (artifacts r).mapError fun e => ⟨s!"resolving {what}: {e.text}"⟩
  refuseIf (Digest256.ofBytes sha256 bytes ≠ r.digest)
    ⟨s!"{what}'s resolved bytes do not match its own declared digest"⟩
  pure bytes

def parseReceipt (bytes : List UInt8) (what : String) :
    Except CandidateVerifyError CandidateStateReceiptV1 := do
  let receipt ← (ext.readReceipt bytes).mapError fun e => ⟨s!"parsing {what}: {e}"⟩
  refuseIf (receipt.schema ≠ candidateStateReceiptSchemaV1)
    ⟨s!"{what} has unsupported schema {receipt.schema} (expected {candidateStateReceiptSchemaV1})"⟩
  pure receipt

def requireLocator (r : ArtifactRef) (expected : String) (what : String) :
    Except CandidateVerifyError Unit :=
  refuseIf (r.locator ≠ expected)
    ⟨s!"{what}'s own artifact reference has locator {ext.debugStr r.locator}, expected " ++
      ext.debugStr expected⟩

def ownBinding : String := "this run's own command-binding evidence"

def resolveCommandBindingFacts (state : RunState) :
    Except CandidateVerifyError (Option CommandBindingFacts) :=
  match state.commandBinding with
  | none => pure none
  | some bindingRef => do
      requireLocator ext bindingRef commandBindingLocator ownBinding
      let bytes ← resolveAndVerify sha256 artifacts bindingRef .commandBinding ownBinding
      let facts ← (ext.readBinding bytes).mapError fun e => ⟨s!"parsing {ownBinding}: {e}"⟩
      refuseIf (facts.schema ≠ commandBindingSchemaV1)
        ⟨s!"{ownBinding} has unsupported schema {facts.schema} (expected {commandBindingSchemaV1})"⟩
      pure (some facts)

def requireObligation (contract : RunContract) (missing : String) :
    Except CandidateVerifyError CandidateStateContractV1 :=
  match contract.candidateState with
  | none => .error ⟨missing⟩
  | some obligation => do
      refuseIf (obligation.schema ≠ candidateStateContractSchemaV1)
        ⟨s!"this run's own contract declares unsupported candidate-state schema {obligation.schema} " ++
          s!"(expected {candidateStateContractSchemaV1})"⟩
      pure obligation

def requireAgreement (receipt : CandidateStateReceiptV1) (obligation : CandidateStateContractV1)
    (whose contractOf : String) : Except CandidateVerifyError Unit := do
  refuseIf (receipt.conversationId ≠ obligation.conversationId)
    ⟨s!"{whose} conversation_id disagrees with {contractOf}"⟩
  refuseIf (receipt.repositoryId ≠ obligation.repositoryId)
    ⟨s!"{whose} repository_id disagrees with {contractOf}"⟩
  refuseIf (receipt.baseCommit ≠ obligation.baseCommit)
    ⟨s!"{whose} base_commit disagrees with {contractOf}"⟩
  refuseIf (receipt.patchKind ≠ obligation.patchKind)
    ⟨s!"{whose} patch_kind disagrees with {contractOf}"⟩

def requireRunId (state : RunState) : Except CandidateVerifyError RunId :=
  match state.runId with
  | none => .error ⟨"this run has no bound canonical run_id yet"⟩
  | some runId => pure runId

def requireLineage (receipt : CandidateStateReceiptV1) (binding : Option CommandBindingFacts) :
    Except CandidateVerifyError Unit :=
  match binding with
  | none =>
      refuseIf (receipt.parentRunId ≠ none)
        ⟨"an initial (non-continuation) run's receipt must not declare a parent_run_id"⟩
  | some binding => do
      refuseIf (receipt.runId.asStr ≠ binding.childRunId.asStr)
        ⟨"receipt run_id disagrees with this run's own command-binding child_run_id"⟩
      refuseIf (receipt.conversationId ≠ binding.conversationId)
        ⟨"receipt conversation_id disagrees with this run's own command-binding conversation_id"⟩
      refuseIf (receipt.parentRunId.map Id.asStr ≠ some binding.parentRunId.asStr)
        ⟨"receipt parent_run_id disagrees with this run's own command-binding parent_run_id"⟩

def ownReceipt : String := "this run's own candidate-state receipt"
def nestedPatch : String := "this receipt's own nested patch artifact"

def verifyCandidateStateCaptured (state : RunState) (contract : RunContract) :
    Except CandidateVerifyError CandidateStateReceiptV1 :=
  match state.candidateState with
  | none => .error ⟨"no CandidateStateCaptured receipt in this run's state"⟩
  | some receiptRef => do
      requireLocator ext receiptRef candidateStateReceiptLocator ownReceipt
      let bytes ← resolveAndVerify sha256 artifacts receiptRef .candidateState ownReceipt
      let receipt ← parseReceipt ext bytes ownReceipt
      let obligation ← requireObligation contract
        "this run's own contract declares no candidate_state obligation"
      requireAgreement receipt obligation "receipt" "the run's own contract"
      let expectedRunId ← requireRunId state
      refuseIf (receipt.runId ≠ expectedRunId)
        ⟨"receipt run_id disagrees with this run's own canonical run_id"⟩
      let binding ← resolveCommandBindingFacts sha256 ext artifacts state
      requireLineage receipt binding
      requireLocator ext receipt.patch candidatePatchLocator nestedPatch
      let _ ← resolveAndVerify sha256 artifacts receipt.patch .candidatePatch nestedPatch
      pure receipt

structure CandidateMaterializationCheck where
  sourceRunId : RunId
  sourceReceipt : CandidateStateReceiptV1
  patchBytes : List UInt8
  deriving DecidableEq

def copiedReceipt : String := "the child's own copy of the parent's candidate-state receipt"
def sourceNestedPatch : String := "the source receipt's own nested patch artifact"
def copiedPatch : String := "the child's own copy of the parent's patch"

def requireBinding (binding : Option CommandBindingFacts) :
    Except CandidateVerifyError CommandBindingFacts :=
  match binding with
  | none => .error ⟨"materialization requires this run's own command-binding evidence"⟩
  | some binding => pure binding

def verifyCandidateStateMaterialized (state : RunState) (contract : RunContract) :
    Except CandidateVerifyError CandidateMaterializationCheck :=
  match state.candidateMaterialized with
  | none => .error ⟨"no CandidateStateMaterialized evidence in this run's state"⟩
  | some mat => do
      let facts ← resolveCommandBindingFacts sha256 ext artifacts state
      let binding ← requireBinding facts
      let obligation ← requireObligation contract
        "this run's own contract declares no candidate_state obligation to materialize against"
      let canonicalRunId ← requireRunId state
      refuseIf (binding.childRunId.asStr ≠ canonicalRunId.asStr)
        ⟨"this run's own command-binding child_run_id disagrees with its own canonical run_id"⟩
      refuseIf (mat.sourceRunId.asStr ≠ binding.parentRunId.asStr)
        ⟨"materialization source_run_id disagrees with this run's own command-binding parent_run_id"⟩
      requireLocator ext mat.sourceReceipt parentCandidateReceiptLocator copiedReceipt
      let receiptBytes ←
        resolveAndVerify sha256 artifacts mat.sourceReceipt .candidateState copiedReceipt
      let sourceReceipt ← parseReceipt ext receiptBytes copiedReceipt
      refuseIf (sourceReceipt.runId ≠ mat.sourceRunId)
        ⟨"the copied source receipt's own run_id disagrees with this event's source_run_id"⟩
      refuseIf (sourceReceipt.conversationId ≠ binding.conversationId)
        ⟨"the source receipt's conversation_id disagrees with this run's own command-binding conversation_id"⟩
      requireAgreement sourceReceipt obligation "the source receipt's" "this run's own contract"
      requireLocator ext sourceReceipt.patch candidatePatchLocator sourceNestedPatch
      requireLocator ext mat.sourcePatch parentCandidatePatchLocator copiedPatch
      let patchBytes ← resolveAndVerify sha256 artifacts mat.sourcePatch .candidatePatch copiedPatch
      refuseIf (Digest256.ofBytes sha256 patchBytes ≠ sourceReceipt.patch.digest)
        ⟨"the child's copied patch does not match the source receipt's own patch digest"⟩
      refuseIf (mat.materializedTreeOid ≠ sourceReceipt.candidateTreeOid)
        ⟨s!"materialized tree {mat.materializedTreeOid} disagrees with the source receipt's own " ++
          s!"candidate_tree_oid {sourceReceipt.candidateTreeOid}"⟩
      pure ⟨mat.sourceRunId, sourceReceipt, patchBytes⟩

end Verify

section Lineage

variable (sha256 : Sha256) (ext : Externals) (artifacts : ArtifactResolver)

structure Backed (r : ArtifactRef) (kind : ArtifactKind) (locator : String) (bytes : List UInt8) :
    Prop where
  kind : r.kind = kind
  locator : r.locator = locator
  resolves : artifacts r = .ok bytes
  digest : Digest256.ofBytes sha256 bytes = r.digest

def ReceiptBehind (r : ArtifactRef) (locator : String) (receipt : CandidateStateReceiptV1) : Prop :=
  ∃ bytes, Backed sha256 artifacts r .candidateState locator bytes ∧
    ext.readReceipt bytes = .ok receipt ∧ receipt.schema = candidateStateReceiptSchemaV1

def BindingBehind (r : ArtifactRef) (facts : CommandBindingFacts) : Prop :=
  ∃ bytes, Backed sha256 artifacts r .commandBinding commandBindingLocator bytes ∧
    ext.readBinding bytes = .ok facts ∧ facts.schema = commandBindingSchemaV1

structure Fulfils (receipt : CandidateStateReceiptV1) (obligation : CandidateStateContractV1) :
    Prop where
  conversation : receipt.conversationId = obligation.conversationId
  repository : receipt.repositoryId = obligation.repositoryId
  base : receipt.baseCommit = obligation.baseCommit
  patchKind : receipt.patchKind = obligation.patchKind

def Obligated (contract : RunContract) (obligation : CandidateStateContractV1) : Prop :=
  contract.candidateState = some obligation ∧ obligation.schema = candidateStateContractSchemaV1

/-- The receipt of a run's own candidate state, tied to the run, its contract and, for a
continuation, its command binding. -/
structure CapturedLineage (contract : RunContract) (runId : RunId)
    (binding : Option ArtifactRef) (receiptRef : ArtifactRef) (receipt : CandidateStateReceiptV1) :
    Prop where
  behind : ReceiptBehind sha256 ext artifacts receiptRef candidateStateReceiptLocator receipt
  fulfils : ∃ obligation, Obligated contract obligation ∧ Fulfils receipt obligation
  ownRun : receipt.runId = runId
  initial : receipt.parentRunId = none ↔ binding = none
  continuation : ∀ bindingRef, binding = some bindingRef →
    ∃ facts, BindingBehind sha256 ext artifacts bindingRef facts ∧ facts.childRunId = runId ∧
      receipt.conversationId = facts.conversationId ∧ receipt.parentRunId = some facts.parentRunId
  patch : ∃ bytes, Backed sha256 artifacts receipt.patch .candidatePatch candidatePatchLocator bytes

/-- A materialization tied to the run, its contract, its command binding and an
independently resolved receipt of the source run. -/
structure MaterializedLineage (contract : RunContract) (runId : RunId)
    (binding : Option ArtifactRef) (mat : CandidateMaterialization)
    (sourceReceipt : CandidateStateReceiptV1) (patchBytes : List UInt8) : Prop where
  bound : ∃ bindingRef facts, binding = some bindingRef ∧
    BindingBehind sha256 ext artifacts bindingRef facts ∧ facts.childRunId = runId ∧
    facts.parentRunId = mat.sourceRunId ∧ sourceReceipt.conversationId = facts.conversationId
  behind : ReceiptBehind sha256 ext artifacts mat.sourceReceipt parentCandidateReceiptLocator
    sourceReceipt
  sourceRun : sourceReceipt.runId = mat.sourceRunId
  fulfils : ∃ obligation, Obligated contract obligation ∧ Fulfils sourceReceipt obligation
  nestedLocator : sourceReceipt.patch.locator = candidatePatchLocator
  patch : Backed sha256 artifacts mat.sourcePatch .candidatePatch parentCandidatePatchLocator
    patchBytes
  patchDigest : Digest256.ofBytes sha256 patchBytes = sourceReceipt.patch.digest
  tree : mat.materializedTreeOid = sourceReceipt.candidateTreeOid

variable {sha256 ext artifacts}

theorem resolveAndVerify_ok_iff {r : ArtifactRef} {kind : ArtifactKind} {what : String}
    {bytes : List UInt8} : resolveAndVerify sha256 artifacts r kind what = .ok bytes ↔
      r.kind = kind ∧ artifacts r = .ok bytes ∧ Digest256.ofBytes sha256 bytes = r.digest := by
  simp only [resolveAndVerify, bind_ok_iff, refuseIf_ok_iff, mapError_ok_iff, pure_ok_iff,
    exists_const, ne_eq, not_not]
  constructor
  · intro facts
    obtain ⟨kind, found, resolved, digest, rfl⟩ := facts
    exact ⟨kind, resolved, digest⟩
  · intro facts
    obtain ⟨kind, resolved, digest⟩ := facts
    exact ⟨kind, bytes, resolved, digest, rfl⟩

theorem requireLocator_ok_iff {r : ArtifactRef} {expected what : String} {u : Unit} :
    requireLocator ext r expected what = .ok u ↔ r.locator = expected := by
  simp [requireLocator]

theorem parseReceipt_ok_iff {bytes : List UInt8} {what : String}
    {receipt : CandidateStateReceiptV1} : parseReceipt ext bytes what = .ok receipt ↔
      ext.readReceipt bytes = .ok receipt ∧ receipt.schema = candidateStateReceiptSchemaV1 := by
  simp only [parseReceipt, bind_ok_iff, refuseIf_ok_iff, mapError_ok_iff, pure_ok_iff, exists_const,
    ne_eq, not_not]
  constructor
  · intro facts
    obtain ⟨found, read, schema, rfl⟩ := facts
    exact ⟨read, schema⟩
  · intro facts
    obtain ⟨read, schema⟩ := facts
    exact ⟨receipt, read, schema, rfl⟩

theorem resolveCommandBindingFacts_ok_iff {state : RunState} {facts : Option CommandBindingFacts} :
    resolveCommandBindingFacts sha256 ext artifacts state = .ok facts ↔
      state.commandBinding = none ∧ facts = none ∨
      ∃ bindingRef found, state.commandBinding = some bindingRef ∧ facts = some found ∧
        BindingBehind sha256 ext artifacts bindingRef found := by
  unfold resolveCommandBindingFacts
  cases state.commandBinding with
  | none =>
      simp only [pure_ok_iff, true_and, reduceCtorEq, false_and, exists_false, or_false]
      exact eq_comm
  | some bindingRef =>
      simp only [bind_ok_iff, requireLocator_ok_iff, resolveAndVerify_ok_iff, mapError_ok_iff,
        refuseIf_ok_iff, pure_ok_iff, exists_const, ne_eq, not_not, reduceCtorEq, false_and,
        false_or, Option.some.injEq, exists_and_left, exists_eq_left']
      constructor
      · intro facts
        obtain ⟨locator, bytes, ⟨kind, resolved, digest⟩, found, read, schema, same⟩ := facts
        exact ⟨found, same.symm, bytes, ⟨kind, locator, resolved, digest⟩, read, schema⟩
      · intro facts
        obtain ⟨found, same, bytes, ⟨kind, locator, resolved, digest⟩, read, schema⟩ := facts
        exact ⟨locator, bytes, ⟨kind, resolved, digest⟩, found, read, schema, same.symm⟩

theorem requireObligation_ok_iff {contract : RunContract} {missing : String}
    {obligation : CandidateStateContractV1} :
    requireObligation contract missing = .ok obligation ↔ Obligated contract obligation := by
  unfold requireObligation Obligated
  cases contract.candidateState with
  | none => simp
  | some found =>
      simp only [bind_ok_iff, refuseIf_ok_iff, pure_ok_iff, exists_const, ne_eq, not_not,
        Option.some.injEq]
      constructor
      · intro facts
        obtain ⟨schema, rfl⟩ := facts
        exact ⟨rfl, schema⟩
      · intro facts
        obtain ⟨rfl, schema⟩ := facts
        exact ⟨schema, rfl⟩

theorem requireAgreement_ok_iff {receipt : CandidateStateReceiptV1}
    {obligation : CandidateStateContractV1} {whose contractOf : String} {u : Unit} :
    requireAgreement receipt obligation whose contractOf = .ok u ↔ Fulfils receipt obligation := by
  simp only [requireAgreement, bind_ok_iff, refuseIf_ok_iff, exists_const]
  constructor
  · intro facts
    obtain ⟨conversation, repository, base, patchKind⟩ := facts
    exact ⟨not_not.mp conversation, not_not.mp repository, not_not.mp base, not_not.mp patchKind⟩
  · intro facts
    obtain ⟨conversation, repository, base, patchKind⟩ := facts
    exact ⟨not_not.mpr conversation, not_not.mpr repository, not_not.mpr base,
      not_not.mpr patchKind⟩

theorem requireRunId_ok_iff {state : RunState} {runId : RunId} :
    requireRunId state = .ok runId ↔ state.runId = some runId := by
  unfold requireRunId
  cases state.runId <;> simp

theorem Id.asStr_eq_iff {kind : IdKind} {a b : Id kind} : a.asStr = b.asStr ↔ a = b :=
  (Id.asStr_injective kind).eq_iff

theorem requireLineage_none_iff {receipt : CandidateStateReceiptV1} {u : Unit} :
    requireLineage receipt none = .ok u ↔ receipt.parentRunId = none := by
  simp [requireLineage]

theorem requireLineage_some_iff {receipt : CandidateStateReceiptV1} {facts : CommandBindingFacts}
    {u : Unit} : requireLineage receipt (some facts) = .ok u ↔
      receipt.runId = facts.childRunId ∧ receipt.conversationId = facts.conversationId ∧
        receipt.parentRunId = some facts.parentRunId := by
  have parents : receipt.parentRunId.map Id.asStr = some facts.parentRunId.asStr ↔
      receipt.parentRunId = some facts.parentRunId := by
    cases receipt.parentRunId <;> simp [Id.asStr_eq_iff]
  simp only [requireLineage, bind_ok_iff, refuseIf_ok_iff, exists_const, ne_eq, not_not,
    Id.asStr_eq_iff, parents]

theorem requireBinding_ok_iff {binding : Option CommandBindingFacts} {facts : CommandBindingFacts} :
    requireBinding binding = .ok facts ↔ binding = some facts := by
  cases binding <;> simp [requireBinding]

theorem verifyCandidateStateCaptured_ok_iff {state : RunState} {contract : RunContract}
    {runId : RunId} (ownRun : state.runId = some runId) {receipt : CandidateStateReceiptV1} :
    verifyCandidateStateCaptured sha256 ext artifacts state contract = .ok receipt ↔
      ∃ receiptRef, state.candidateState = some receiptRef ∧
        CapturedLineage sha256 ext artifacts contract runId state.commandBinding receiptRef receipt := by
  unfold verifyCandidateStateCaptured
  cases state.candidateState with
  | none => simp
  | some receiptRef =>
      simp only [bind_ok_iff, requireLocator_ok_iff, resolveAndVerify_ok_iff, parseReceipt_ok_iff,
        requireObligation_ok_iff, requireAgreement_ok_iff, requireRunId_ok_iff, ownRun,
        refuseIf_ok_iff, pure_ok_iff, exists_const, ne_eq, not_not, Option.some.injEq,
        exists_eq_left', resolveCommandBindingFacts_ok_iff]
      constructor
      · intro facts
        obtain ⟨locator, bytes, ⟨kind, resolved, digest⟩, receipt, ⟨read, schema⟩, obligation,
          obligated, fulfils, rfl, facts, bound, ⟨⟩, lineage, patchLocator, patchBytes,
          ⟨patchKind, patchResolved, patchDigest⟩, rfl⟩ := facts
        have behind : ReceiptBehind sha256 ext artifacts receiptRef candidateStateReceiptLocator
            receipt := ⟨bytes, ⟨kind, locator, resolved, digest⟩, read, schema⟩
        have patch : ∃ bytes, Backed sha256 artifacts receipt.patch .candidatePatch
            candidatePatchLocator bytes :=
          ⟨patchBytes, patchKind, patchLocator, patchResolved, patchDigest⟩
        rcases bound with ⟨unbound, rfl⟩ | ⟨bindingRef, found, bound, rfl, binding⟩
        · rw [requireLineage_none_iff] at lineage
          refine ⟨behind, ⟨obligation, obligated, fulfils⟩, rfl, ?_, ?_, patch⟩
          · simp [unbound, lineage]
          · intro bindingRef bound
            rw [unbound] at bound
            cases bound
        · rw [requireLineage_some_iff] at lineage
          rcases lineage with ⟨child, conversation, parent⟩
          refine ⟨behind, ⟨obligation, obligated, fulfils⟩, rfl, ?_, ?_, patch⟩
          · simp [bound, parent]
          · intro other same
            rw [bound] at same
            cases same
            exact ⟨found, binding, child.symm, conversation, parent⟩
      · intro facts
        obtain ⟨⟨bytes, backed, read, schema⟩, ⟨obligation, obligated, fulfils⟩, rfl, initial,
          continuation, patchBytes, patch⟩ := facts
        refine ⟨backed.locator, bytes, ⟨backed.kind, backed.resolves, backed.digest⟩, receipt,
          ⟨read, schema⟩, obligation, obligated, fulfils, rfl, ?_⟩
        cases binding : state.commandBinding with
        | none =>
            refine ⟨none, .inl ⟨rfl, rfl⟩, (), ?_, ?_⟩
            · exact requireLineage_none_iff.mpr (initial.mpr binding)
            · exact ⟨patch.locator, patchBytes, ⟨patch.kind, patch.resolves, patch.digest⟩, rfl⟩
        | some bindingRef =>
            rcases continuation bindingRef binding with ⟨facts, behind, child, conversation, parent⟩
            refine ⟨some facts, .inr ⟨bindingRef, facts, rfl, rfl, behind⟩, (),
              requireLineage_some_iff.mpr ⟨child.symm, conversation, parent⟩, ?_⟩
            exact ⟨patch.locator, patchBytes, ⟨patch.kind, patch.resolves, patch.digest⟩, rfl⟩

theorem verifyCandidateStateMaterialized_ok_iff {state : RunState} {contract : RunContract}
    {runId : RunId} (ownRun : state.runId = some runId) {check : CandidateMaterializationCheck} :
    verifyCandidateStateMaterialized sha256 ext artifacts state contract = .ok check ↔
      ∃ mat, state.candidateMaterialized = some mat ∧ check.sourceRunId = mat.sourceRunId ∧
        MaterializedLineage sha256 ext artifacts contract runId state.commandBinding mat
          check.sourceReceipt check.patchBytes := by
  unfold verifyCandidateStateMaterialized
  cases state.candidateMaterialized with
  | none => simp
  | some mat =>
      simp only [bind_ok_iff, requireLocator_ok_iff, resolveAndVerify_ok_iff, parseReceipt_ok_iff,
        requireObligation_ok_iff, requireAgreement_ok_iff, requireRunId_ok_iff, ownRun,
        refuseIf_ok_iff, pure_ok_iff, exists_const, ne_eq, not_not, Option.some.injEq,
        exists_eq_left', requireBinding_ok_iff, Id.asStr_eq_iff, resolveCommandBindingFacts_ok_iff]
      constructor
      · intro facts
        obtain ⟨facts, bound, found, rfl, obligation, obligated, child, parent, locator, bytes,
          ⟨kind, resolved, digest⟩, source, ⟨read, schema⟩, sourceRun, conversation, fulfils,
          nestedLocator, patchLocator, patchBytes, ⟨patchKind, patchResolved, ownDigest⟩,
          patchDigest, tree, rfl⟩ := facts
        rcases bound with ⟨_, none⟩ | ⟨bindingRef, same, bound, some, binding⟩
        · cases none
        · cases some
          exact ⟨rfl, ⟨bindingRef, found, bound, binding, child, parent.symm, conversation⟩,
            ⟨bytes, ⟨kind, locator, resolved, digest⟩, read, schema⟩, sourceRun,
            ⟨obligation, obligated, fulfils⟩, nestedLocator,
            ⟨patchKind, patchLocator, patchResolved, ownDigest⟩, patchDigest, tree⟩
      · intro facts
        obtain ⟨ran, lineage⟩ := facts
        rcases check with ⟨sourceRunId, source, patchBytes⟩
        rcases lineage.bound with ⟨bindingRef, facts, bound, binding, child, parent, conversation⟩
        rcases lineage.behind with ⟨bytes, backed, read, schema⟩
        rcases lineage.fulfils with ⟨obligation, obligated, fulfils⟩
        exact ⟨some facts, .inr ⟨bindingRef, facts, bound, rfl, binding⟩, facts, rfl, obligation,
          obligated, child, parent.symm, backed.locator, bytes,
          ⟨backed.kind, backed.resolves, backed.digest⟩, source, ⟨read, schema⟩, lineage.sourceRun,
          conversation, fulfils, lineage.nestedLocator, lineage.patch.locator, patchBytes,
          ⟨lineage.patch.kind, lineage.patch.resolves, lineage.patch.digest⟩, lineage.patchDigest,
          lineage.tree, by rw [← ran]⟩

end Lineage

end O7Formal.Run
