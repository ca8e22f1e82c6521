import O7Formal.Dispatch.Evidence
import O7Formal.Dispatch.Parent

/-! What a continuation leaves behind when it stops after any of its writes: artifacts that verify, a
candidate lineage that holds, and the identity of its command. -/

namespace O7Formal.Dispatch

open Fallible Program
open O7Formal.Ledger (Command)
open O7Formal.Producers (Contracted GateManifest Outcome agentOutcome gateKinds runKinds)
open O7Formal.Run (ArtifactRef CandidateMaterialization CandidateStateContractV1
  CandidateStateReceiptV1 CommandBindingFacts EventChain RunContract RunEventKind RunState kinds)

section Parts

variable {α : Type} {part before after : List α} {x : α}

theorem covers (listed : part <+: before ++ after) (member : x ∈ part) (apart : x ∉ before) :
    before <+: part := by
  cases List.prefix_or_prefix_of_prefix listed (List.prefix_append before after) with
  | inl short => exact absurd (short.subset member) apart
  | inr long => exact long

theorem stops_before (listed : part <+: before ++ x :: after) (absent : x ∉ part) :
    part <+: before := by
  cases List.prefix_or_prefix_of_prefix listed (List.prefix_append before _) with
  | inl short => exact short
  | inr long =>
      rcases long with ⟨rest, rfl⟩
      have tail := (List.prefix_append_right_inj before).mp listed
      cases rest with
      | nil => simp
      | cons y rest =>
          rw [List.cons_prefix_cons] at tail
          exact absurd (by rw [tail.1]; simp) absent

theorem entries_sub {part script : List Item} (listed : part <+: script) :
    entries part <+: entries script := by
  rcases listed with ⟨rest, rfl⟩
  rw [entries_append]
  exact List.prefix_append _ _

theorem mem_itemKinds {items : List Item} {kind : RunEventKind} :
    kind ∈ itemKinds items ↔ .event kind ∈ items := by
  rw [itemKinds, List.mem_filterMap]
  constructor
  · intro found
    rcases found with ⟨item, member, same⟩
    cases item with
    | file file => cases same
    | event other =>
        cases same
        exact member
  · intro member
    exact ⟨_, member, rfl⟩

end Parts

section Left

variable {env : Setting} {a : ContinueArgs} {o : Outside} {exitCode : Option Int32}
  {ran : List Outcome} {contract : RunContract} {m : GateManifest}
  {runId parentRunId : CanonicalRunId} {start dir : RecordDir} {done : List Item}
  {chain : EventChain} {s : RunState}

abbrev Leaves (env : Setting) (a : ContinueArgs) (o : Outside) (contract : RunContract)
    (runId parentRunId : CanonicalRunId) (start dir : RecordDir) (done : List Item)
    (chain : EventChain) : Prop :=
  Shows env.sha256 runId start (continueItems env a o parentRunId contract) dir done chain

theorem left_read (held : m.Valid) (steps : ran.map Prod.fst = m.gate)
    (left : Leaves env a (o.observed exitCode ran) contract runId parentRunId start dir done chain)
    {locator : String} {bytes : List UInt8} (member : (locator, bytes) ∈ entries done) :
    dir.read locator = .ok bytes := by
  rw [left.dir]
  apply read_built _ member
  exact List.Nodup.sublist ((entries_sub left.part).map Prod.fst).sublist
    (continue_distinct held steps)

theorem left_confined (held : m.Valid) (steps : ran.map Prod.fst = m.gate)
    (left : Leaves env a (o.observed exitCode ran) contract runId parentRunId start dir done chain)
    {entry : String × List UInt8} (member : entry ∈ entries done) : confined entry.1 = true :=
  continue_confined held steps entry ((entries_sub left.part).subset member)

theorem left_backed (held : m.Valid) (steps : ran.map Prod.fst = m.gate)
    (left : Leaves env a (o.observed exitCode ran) contract runId parentRunId start dir done chain)
    {locator : String} {bytes : List UInt8} (member : (locator, bytes) ∈ entries done)
    (kind : Run.ArtifactKind) : Run.Backed env.sha256 (recordDirResolver dir)
      (artifact env kind locator bytes) kind locator bytes :=
  ⟨rfl, rfl, resolver_ok_iff.mpr ⟨left_confined held steps left member,
    left_read held steps left member⟩, rfl⟩

theorem left_core (held : Contracted m contract) (steps : ran.map Prod.fst = m.gate)
    (left : Leaves env a (o.observed exitCode ran) contract runId parentRunId start dir done chain)
    (reduced : Run.reduceAll env.sha256 chain.out = .ok s) (some : chain.out ≠ []) :
    ∃ n, Run.verifyPrefixCore env.sha256 (recordDirResolver dir) chain.out = .ok (s, n) := by
  refine ⟨_, Run.verifyPrefixCore_ok_iff.mpr
    ⟨some, Run.intact_of_run reduced, reduced, ?_, rfl⟩⟩
  intro r member
  rcases Run.mem_uniqueArtifacts member with ⟨event, listed, named⟩
  have kind : event.kind ∈ itemKinds done := by
    have carried : kinds chain.out = itemKinds done := left.mints.carries
    rw [← carried]
    exact Run.mem_kinds.mpr ⟨event, listed, rfl⟩
  have grounded := grounded_prefix (continue_grounded (o := o.observed exitCode ran) held.policies)
    left.part
  rcases grounded_backed grounded kind named with ⟨bytes, written, digest⟩
  rw [List.nil_append] at written
  exact ⟨bytes, resolver_ok_iff.mpr ⟨left_confined held.valid steps left written,
    left_read held.valid steps left written⟩, digest.symm⟩

theorem left_carried {β : Type} {read : RunState → List β} {carried : RunEventKind → Option β}
    (records : Run.Records read carried)
    (left : Leaves env a o contract runId parentRunId start dir done chain)
    (reduced : Run.reduceAll env.sha256 chain.out = .ok s) :
    read s = (itemKinds done).filterMap carried := by
  have listed : kinds chain.out = itemKinds done := left.mints.carries
  rw [← listed]
  exact records.of_run reduced

theorem left_slot {β : Type} {slot : RunState → Option β} {carried : RunEventKind → Option β}
    (records : Run.Records (fun s => (slot s).toList) carried) {x : β}
    (left : Leaves env a o contract runId parentRunId start dir done chain)
    (reduced : Run.reduceAll env.sha256 chain.out = .ok s)
    (only : (itemKinds (continueItems env a o parentRunId contract)).filterMap carried = [x]) :
    (∀ y, slot s = some y → y = x) ∧ ∀ kind, .event kind ∈ done → carried kind = some x →
      slot s = some x := by
  have carries := left_carried records left reduced
  have part : (slot s).toList <+: [x] := by
    rw [carries, ← only]
    exact (left.part.filterMap _).filterMap _
  constructor
  · intro y filled
    rw [filled] at part
    exact List.mem_singleton.mp (part.subset (by simp))
  · intro kind member carry
    have listed : x ∈ (slot s).toList := by
      rw [carries]
      exact List.mem_filterMap.mpr ⟨kind, mem_itemKinds.mpr member, carry⟩
    simpa using listed

theorem left_filled {β : Type} {slot : RunState → Option β} {carried : RunEventKind → Option β}
    (records : Run.Records (fun s => (slot s).toList) carried) {x : β}
    (left : Leaves env a o contract runId parentRunId start dir done chain)
    (reduced : Run.reduceAll env.sha256 chain.out = .ok s) (filled : slot s = some x) :
    ∃ kind, .event kind ∈ done ∧ carried kind = some x := by
  have listed : x ∈ (slot s).toList := by
    rw [filled]
    exact List.mem_singleton_self x
  rw [left_carried records left reduced] at listed
  rcases List.mem_filterMap.mp listed with ⟨kind, member, carries⟩
  exact ⟨kind, mem_itemKinds.mp member, carries⟩

theorem gates_carry {β : Type} {carried : RunEventKind → Option β} {sha256 : Run.Sha256}
    (starts : ∀ gate, carried (.gateStarted gate) = none)
    (finishes : ∀ gate outcome log, carried (.gateFinished gate outcome log) = none)
    (ran : List Outcome) : (ran.flatMap (gateKinds sha256)).filterMap carried = [] := by
  rw [List.filterMap_eq_nil_iff]
  intro kind member
  rcases List.mem_flatMap.mp member with ⟨step, _, listed⟩
  unfold gateKinds at listed
  split at listed
  · cases listed
  · split at listed
    · cases listed
    · rcases List.mem_cons.mp listed with rfl | last
      · exact starts _
      · rw [List.mem_singleton.mp last]
        exact finishes _ _ _

def quietKinds (env : Setting) (a : ContinueArgs) (o : Outside) (exitCode : Option Int32)
    (parentRunId : CanonicalRunId) (contract : RunContract) : List RunEventKind :=
  runKinds env.sha256 (continueExtras env a o parentRunId) contract (taskArtifact env a)
    (diffArtifact env o) (agentOutcome exitCode) []

theorem carried_script {β : Type} {carried : RunEventKind → Option β}
    (starts : ∀ gate, carried (.gateStarted gate) = none)
    (finishes : ∀ gate outcome log, carried (.gateFinished gate outcome log) = none) :
    (itemKinds (continueItems env a (o.observed exitCode ran) parentRunId contract)).filterMap
      carried = (quietKinds env a o exitCode parentRunId contract).filterMap carried := by
  rw [itemKinds_continue, quietKinds]
  simp only [runKinds, Producers.afterDispatch, List.cons_append, List.filterMap_append,
    List.filterMap_cons, gates_carry starts finishes, List.flatMap_nil, List.filterMap_nil]

theorem only_binding : (itemKinds (continueItems env a (o.observed exitCode ran) parentRunId
    contract)).filterMap RunEventKind.asCommandBinding = [artifact env .commandBinding
      Run.commandBindingLocator (env.writeBinding (ownBinding env a parentRunId))] := by
  rw [carried_script (fun _ => rfl) fun _ _ _ => rfl, quietKinds, continueExtras]
  cases sessionArtifact env o <;> rfl

theorem only_materialized : (itemKinds (continueItems env a (o.observed exitCode ran) parentRunId
    contract)).filterMap RunEventKind.asMaterialization = [⟨parentRunId,
      artifact env .candidateState Run.parentCandidateReceiptLocator o.sourceReceipt,
      artifact env .candidatePatch Run.parentCandidatePatchLocator o.sourcePatch,
      o.materializedTreeOid⟩] := by
  rw [carried_script (fun _ => rfl) fun _ _ _ => rfl, quietKinds, continueExtras]
  cases sessionArtifact env o <;> rfl

theorem only_captured : (itemKinds (continueItems env a (o.observed exitCode ran) parentRunId
    contract)).filterMap RunEventKind.asCandidateState = [candidateArtifact env o] := by
  rw [carried_script (fun _ => rfl) fun _ _ _ => rfl, quietKinds, continueExtras]
  cases sessionArtifact env o <;> rfl

def ownFacts (env : Setting) (a : ContinueArgs) (runId parentRunId : CanonicalRunId) :
    CommandBindingFacts where
  schema := Run.commandBindingSchemaV1
  commandId := a.commandId
  conversationId := a.conversationId
  parentRunId := parentRunId
  childRunId := runId
  commandSha256 := (textDigest env.sha256 a.command).asStr

def captured (env : Setting) (o : Outside) : RunEventKind :=
  .candidateStateCaptured (candidateArtifact env o)

def evidenceItems (env : Setting) (a : ContinueArgs) (o : Outside) (parentRunId : CanonicalRunId)
    (contract : RunContract) : List Item :=
  prepareItems env a o parentRunId contract ++ .event .agentStarted ::
    .event (.agentExited o.outcome) :: sessionItems env o ++
    [.file (.file "agent.stdout" o.stdout), .file (.file "diff.patch" o.diff),
      .event (.patchCaptured (artifact env .diff "diff.patch" o.diff)),
      .file (.file Run.candidatePatchLocator o.candidatePatch),
      .file (.file Run.candidateStateReceiptLocator o.candidateReceipt)]

theorem bound_before (left : Leaves env a o contract runId parentRunId start dir done chain)
    (member : .event (materialized env o parentRunId) ∈ done) :
    bindItems env a parentRunId contract ++ copyItems o <+: done := by
  have cut : continueItems env a o parentRunId contract =
      (bindItems env a parentRunId contract ++ copyItems o) ++
        ([.event (materialized env o parentRunId)] ++ .event .agentStarted :: finishItems env o ++
          [.file (.file "meta.json" o.runMeta)]) := by
    simp only [continueItems, prepareItems, List.append_assoc]
  have listed := left.part
  rw [cut] at listed
  apply covers listed member
  simp [bindItems, copyItems, materialized]

theorem evidence_before (left : Leaves env a o contract runId parentRunId start dir done chain)
    (member : .event (captured env o) ∈ done) :
    evidenceItems env a o parentRunId contract <+: done := by
  have cut : continueItems env a o parentRunId contract =
      evidenceItems env a o parentRunId contract ++ (.event (captured env o) ::
        (o.gates.flatMap (gateItems env) ++ [.event .runSealed] ++
          [.file (.file "meta.json" o.runMeta)])) := by
    simp only [continueItems, finishItems, evidenceItems, captured, candidateArtifact,
      List.append_assoc, List.cons_append, List.nil_append]
  have listed := left.part
  rw [cut] at listed
  apply covers listed member
  cases session : o.sessionId <;>
    simp [evidenceItems, prepareItems, bindItems, copyItems, materialized, sessionItems, captured,
      session]

theorem mem_entries {items : List Item} (before : items <+: done) {entry : String × List UInt8}
    (member : entry ∈ entries items) : entry ∈ entries done :=
  (entries_sub before).subset member

theorem left_binding (held : m.Valid) (steps : ran.map Prod.fst = m.gate)
    (left : Leaves env a (o.observed exitCode ran) contract runId parentRunId start dir done chain)
    (reduced : Run.reduceAll env.sha256 chain.out = .ok s)
    (reads : env.ext.readBinding (env.writeBinding (ownBinding env a parentRunId)) =
      .ok (ownFacts env a runId parentRunId))
    (before : bindItems env a parentRunId contract <+: done) :
    ∃ bindingRef, s.commandBinding = some bindingRef ∧
      Run.BindingBehind env.sha256 env.ext (recordDirResolver dir) bindingRef
        (ownFacts env a runId parentRunId) := by
  have filled := (left_slot Run.records_commandBinding left reduced only_binding).2
    (.commandBindingCaptured _) (before.subset (by simp [bindItems])) rfl
  have written : (Run.commandBindingLocator, env.writeBinding (ownBinding env a parentRunId)) ∈
      entries done := by
    apply mem_entries before
    simp [entries, itemFiles, bindItems, RecordFile.entry]
  exact ⟨_, filled, _, left_backed held steps left written .commandBinding, reads, rfl⟩

theorem left_materialized {obligation : CandidateStateContractV1}
    {receipt : CandidateStateReceiptV1} (held : m.Valid) (steps : ran.map Prod.fst = m.gate)
    (left : Leaves env a (o.observed exitCode ran) contract runId parentRunId start dir done chain)
    (reduced : Run.reduceAll env.sha256 chain.out = .ok s)
    (reads : env.ext.readBinding (env.writeBinding (ownBinding env a parentRunId)) =
      .ok (ownFacts env a runId parentRunId))
    (named : parentRunId.asStr = a.parentRunId)
    (declared : contract.candidateState = some obligation)
    (evidence : Evidence env obligation a.parentRunId a.conversationId receipt o.sourceReceipt
      o.sourcePatch)
    (tree : o.materializedTreeOid = receipt.candidateTreeOid)
    (member : .event (materialized env o parentRunId) ∈ done) {mat : CandidateMaterialization}
    (filled : s.candidateMaterialized = some mat) :
    Run.MaterializedLineage env.sha256 env.ext (recordDirResolver dir) contract runId
      s.commandBinding mat receipt o.sourcePatch := by
  have same := (left_slot Run.records_materialization left reduced only_materialized).1 mat filled
  subst same
  have before := bound_before left member
  rcases left_binding held steps left reduced reads
    ((List.prefix_append _ _).trans before) with ⟨bindingRef, bound, behind⟩
  have source : receipt.runId = parentRunId :=
    Run.Id.asStr_injective .run (evidence.run.trans named.symm)
  have receiptFile : (Run.parentCandidateReceiptLocator, o.sourceReceipt) ∈ entries done := by
    apply mem_entries before
    simp [entries, itemFiles, bindItems, copyItems, RecordFile.entry, Outside.observed]
  have patchFile : (Run.parentCandidatePatchLocator, o.sourcePatch) ∈ entries done := by
    apply mem_entries before
    simp [entries, itemFiles, bindItems, copyItems, RecordFile.entry, Outside.observed]
  constructor
  · exact ⟨bindingRef, _, bound, behind, rfl, rfl, evidence.conversation⟩
  · exact ⟨_, left_backed held steps left receiptFile .candidateState, evidence.reads,
      evidence.schema⟩
  · exact source
  · exact ⟨obligation, ⟨declared, evidence.obliged⟩, evidence.fulfils⟩
  · exact evidence.patchLocator
  · exact left_backed held steps left patchFile .candidatePatch
  · exact evidence.patchDigest
  · exact tree

theorem left_captured {obligation : CandidateStateContractV1} {treeOid : String}
    (held : m.Valid) (steps : ran.map Prod.fst = m.gate)
    (left : Leaves env a (o.observed exitCode ran) contract runId parentRunId start dir done chain)
    (reduced : Run.reduceAll env.sha256 chain.out = .ok s)
    (reads : env.ext.readBinding (env.writeBinding (ownBinding env a parentRunId)) =
      .ok (ownFacts env a runId parentRunId))
    (readsOwn : env.ext.readReceipt o.candidateReceipt = .ok
      (ownCandidateReceipt env obligation runId (some parentRunId) treeOid o.candidatePatch))
    (declared : contract.candidateState = some obligation)
    (schema : obligation.schema = Run.candidateStateContractSchemaV1)
    (conversation : obligation.conversationId = a.conversationId)
    (member : .event (captured env o) ∈ done) {receiptRef : ArtifactRef}
    (filled : s.candidateState = some receiptRef) :
    Run.CapturedLineage env.sha256 env.ext (recordDirResolver dir) contract runId
      s.commandBinding receiptRef
      (ownCandidateReceipt env obligation runId (some parentRunId) treeOid o.candidatePatch) := by
  have same := (left_slot Run.records_candidateState left reduced only_captured).1 receiptRef filled
  subst same
  have before := evidence_before left member
  have bindBefore : bindItems env a parentRunId contract <+: done := by
    refine List.IsPrefix.trans ?_ before
    simp only [evidenceItems, prepareItems, List.append_assoc]
    exact List.prefix_append _ _
  rcases left_binding held steps left reduced reads bindBefore with ⟨bindingRef, bound, behind⟩
  have receiptFile : (Run.candidateStateReceiptLocator, o.candidateReceipt) ∈ entries done := by
    apply mem_entries before
    simp [entries, itemFiles, evidenceItems, RecordFile.entry, Outside.observed]
  have patchFile : (Run.candidatePatchLocator, o.candidatePatch) ∈ entries done := by
    apply mem_entries before
    simp [entries, itemFiles, evidenceItems, RecordFile.entry, Outside.observed]
  constructor
  · exact ⟨_, left_backed held steps left receiptFile .candidateState, readsOwn, rfl⟩
  · exact ⟨obligation, ⟨declared, schema⟩, rfl, rfl, rfl, rfl⟩
  · rfl
  · simp [ownCandidateReceipt, bound]
  · intro other present
    cases bound.symm.trans present
    exact ⟨_, behind, rfl, conversation, rfl⟩
  · exact ⟨_, left_backed held steps left patchFile .candidatePatch⟩

def openingItems (env : Setting) (a : ContinueArgs) (parentRunId : CanonicalRunId) : List Item :=
  [.file (.ledgerBinding
      ⟨1, a.runId, a.conversationId, "claude", "implementer", some parentRunId.asStr⟩),
    .file (.file "task.md" (ByteCodec.utf8Bytes a.command)),
    .file (.commandBinding (ownBinding env a parentRunId)
      (env.writeBinding (ownBinding env a parentRunId)))]

def RecordFile.isSidecar : RecordFile → Bool
  | .ledgerBinding _ | .commandBinding .. => true
  | .file .. => false

abbrev Plain (items : List Item) : Prop := ∀ file ∈ itemFiles items, file.isSidecar = false

theorem plain_append {first later : List Item} :
    Plain (first ++ later) ↔ Plain first ∧ Plain later := by
  rw [Plain, itemFiles_append, List.forall_mem_append]

theorem sidecars_kept {files : List RecordFile} {dir : RecordDir}
    (plain : ∀ file ∈ files, file.isSidecar = false) :
    (files.foldl (fun dir file => file.store dir) dir).ledgerBinding = dir.ledgerBinding ∧
      (files.foldl (fun dir file => file.store dir) dir).commandBinding = dir.commandBinding := by
  induction files generalizing dir with
  | nil => exact ⟨rfl, rfl⟩
  | cons file rest ih =>
      rw [List.forall_mem_cons] at plain
      rcases @ih (file.store dir) plain.2 with ⟨ledger, command⟩
      rw [List.foldl_cons, ledger, command]
      cases file with
      | file locator bytes => exact ⟨rfl, rfl⟩
      | ledgerBinding binding => cases plain.1
      | commandBinding binding bytes => cases plain.1

theorem plain_gate (step : GateStep) : Plain (gateItems env step) := by
  unfold gateItems
  split
  · exact nofun
  · split
    · exact nofun
    · cases step.log with
      | none => exact nofun
      | some log =>
          intro file member
          rw [List.mem_singleton.mp member]
          rfl

theorem plain_gates (steps : List GateStep) : Plain (steps.flatMap (gateItems env)) := by
  induction steps with
  | nil => exact nofun
  | cons step rest ih =>
      rw [List.flatMap_cons, plain_append]
      exact ⟨plain_gate step, ih⟩

theorem plain_session : Plain (sessionItems env o) := by
  unfold sessionItems
  cases o.sessionId with
  | none => exact nofun
  | some session =>
      intro file member
      rw [List.mem_singleton.mp member]
      rfl

theorem plain_finish : Plain (finishItems env o) := by
  rw [finishItems, plain_append, plain_append, plain_append]
  refine ⟨⟨⟨plain_session, ?_⟩, plain_gates _⟩, ?_⟩
  · simp [Plain, itemFiles, RecordFile.isSidecar]
  · simp [Plain, itemFiles]

def tailItems (env : Setting) (a : ContinueArgs) (o : Outside) (parentRunId : CanonicalRunId)
    (contract : RunContract) : List Item :=
  [.event (.runStarted contract (taskArtifact env a)),
    .event (.commandBindingCaptured (artifact env .commandBinding Run.commandBindingLocator
      (env.writeBinding (ownBinding env a parentRunId))))] ++ copyItems o ++
    [.event (materialized env o parentRunId), .event .agentStarted] ++ finishItems env o ++
    [.file (.file "meta.json" o.runMeta)]

theorem continue_tail : continueItems env a o parentRunId contract =
    openingItems env a parentRunId ++ tailItems env a o parentRunId contract := by
  simp only [continueItems, prepareItems, bindItems, openingItems, tailItems, List.append_assoc,
    List.cons_append, List.nil_append]

theorem plain_tail : Plain (tailItems env a o parentRunId contract) := by
  rw [tailItems, plain_append, plain_append, plain_append, plain_append]
  refine ⟨⟨⟨⟨nofun, ?_⟩, nofun⟩, plain_finish⟩, ?_⟩
  · simp [Plain, itemFiles, copyItems, RecordFile.isSidecar]
  · simp [Plain, itemFiles, RecordFile.isSidecar]

theorem opening_before {kind : RunEventKind}
    (left : Leaves env a o contract runId parentRunId start dir done chain)
    (member : .event kind ∈ done) : openingItems env a parentRunId <+: done := by
  have listed := left.part
  rw [continue_tail] at listed
  apply covers listed member
  simp [openingItems]

theorem left_sidecars (left : Leaves env a o contract runId parentRunId start dir done chain)
    (before : openingItems env a parentRunId <+: done) :
    dir.ledgerBinding = .ok (some
      ⟨1, a.runId, a.conversationId, "claude", "implementer", some parentRunId.asStr⟩) ∧
      dir.commandBinding = .ok (some (ownBinding env a parentRunId)) := by
  rcases before with ⟨rest, rfl⟩
  have listed := left.part
  rw [continue_tail, List.prefix_append_right_inj] at listed
  have plain : ∀ file ∈ itemFiles rest, file.isSidecar = false :=
    fun file member => plain_tail file ((listed.filterMap _).subset member)
  rw [left.dir, built, itemFiles_append, List.foldl_append]
  rcases @sidecars_kept _ ((itemFiles (openingItems env a parentRunId)).foldl
    (fun dir file => file.store dir) start) plain with ⟨ledger, command⟩
  exact ⟨ledger, command⟩

structure Dispatches (command : Command) (a : ContinueArgs) : Prop where
  commandId : command.commandId = a.commandId
  conversationId : command.conversationId = a.conversationId
  parentRunId : command.parentRunId = a.parentRunId
  commandText : command.commandText = a.command

theorem left_identity {command : Command} (held : m.Valid) (steps : ran.map Prod.fst = m.gate)
    (left : Leaves env a (o.observed exitCode ran) contract runId parentRunId start dir done chain)
    (before : openingItems env a parentRunId <+: done) (named : parentRunId.asStr = a.parentRunId)
    (task : s.task = some (taskArtifact env a)) (dispatched : Dispatches command a) :
    checkIdentity env.sha256 dir a.runId command s = .ok () := by
  rcases left_sidecars left before with ⟨ledger, binding⟩
  have taskFile : ("task.md", ByteCodec.utf8Bytes a.command) ∈ entries done := by
    apply mem_entries before
    simp [entries, itemFiles, openingItems, RecordFile.entry]
  have read := left_read held steps left taskFile
  have ledgerChecked : checkLedgerBinding ⟨1, a.runId, a.conversationId, "claude", "implementer",
      some parentRunId.asStr⟩ a.runId command = .ok () := by
    simp [checkLedgerBinding, supportedBindingSchema, supportedAgent, supportedRole,
      dispatched.conversationId, dispatched.parentRunId, named, refuseIf]
  have bindingChecked : checkCommandBinding env.sha256 (ownBinding env a parentRunId) a.runId
      command = .ok () := by
    simp [checkCommandBinding, ownBinding, supportedBindingSchema, dispatched.commandId,
      dispatched.conversationId, dispatched.parentRunId, dispatched.commandText, named, refuseIf]
  have taskChecked : checkTask env.sha256 dir s command = .ok () := by
    rw [checkTask, task]
    simp [taskArtifact, artifact, textDigest, dispatched.commandText, read, refuseIf,
      Except.mapError]
  rw [checkIdentity, ledger, binding]
  simp only [required, ok_bind, ledgerChecked, bindingChecked, taskChecked]

end Left

end O7Formal.Dispatch
