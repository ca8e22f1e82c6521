import O7Formal.Dispatch.Left

/-! A crash of an honest continuation, after any of its writes: the classifier tells from what is left
whether the dispatch boundary was reached and whether the run was sealed, and never refuses it. -/

namespace O7Formal.Dispatch

open Fallible Program
open O7Formal.Ledger (Command)
open O7Formal.Producers (Contracted GateManifest Outcome agentOutcome)
open O7Formal.Run (CandidateStateContractV1 CandidateStateReceiptV1 EventChain RepositoryIdentity
  RunContract RunEvent RunEventKind RunState kinds)

structure CrashPoint (found : ChildRecordState) (appended : List RunEventKind) : Prop where
  absent : found = .absent ↔ appended = []
  preDispatch : found = .validUnsealedPreDispatch ↔ appended ≠ [] ∧ .agentStarted ∉ appended
  ambiguous : (∃ progress, found = .validUnsealedDispatchAmbiguous progress) ↔
    .agentStarted ∈ appended ∧ .runSealed ∉ appended
  sealed : found = .validSealed ↔ .runSealed ∈ appended
  valid : ∀ reason, found ≠ .invalid reason

theorem crashPoint_absent : CrashPoint .absent [] := by
  constructor <;> simp

theorem crashPoint_of_state {s : RunState} {appended : List RunEventKind} (some : appended ≠ [])
    (verdict : s.verdict ≠ none ↔ .runSealed ∈ appended)
    (progress : dispatchProgress s = none ↔ .agentStarted ∉ appended)
    (order : .runSealed ∈ appended → .agentStarted ∈ appended) :
    CrashPoint (classifyState s) appended := by
  unfold classifyState
  by_cases sealed : RunEventKind.runSealed ∈ appended
  · rw [if_pos (verdict.mpr sealed)]
    constructor <;> simp [some, sealed, order sealed]
  · rw [if_neg (mt verdict.mp sealed)]
    by_cases started : RunEventKind.agentStarted ∈ appended
    · cases reached : dispatchProgress s with
      | none => exact absurd started (progress.mp reached)
      | some point => constructor <;> simp [some, sealed, started]
    · rw [progress.mpr started]
      constructor <;> simp [some, sealed, started]

theorem appends_missing (events : List RunEvent) (some : events ≠ []) :
    events.foldl EventsFile.append .missing = .lines (events.map .event) := by
  have lines : ∀ (events : List RunEvent) (held : List Line),
      events.foldl EventsFile.append (.lines held) = .lines (held ++ events.map .event) := by
    intro events
    induction events with
    | nil => simp
    | cons event rest ih =>
        intro held
        rw [List.foldl_cons, EventsFile.append, ih, List.map_cons, List.append_assoc]
        rfl
  cases events with
  | nil => exact absurd rfl some
  | cons event rest => exact lines rest [.event event]

theorem parseFrom_all (describe : String → String → String) (events : List RunEvent) (i : Nat) :
    parseFrom describe i (events.map .event) = .ok events := by
  induction events generalizing i with
  | nil => rfl
  | cons event rest ih =>
      rw [List.map_cons, parseFrom, ih]
      rfl

theorem parseEvents_all (events : List RunEvent) : parseEvents (events.map .event) = .ok events :=
  parseFrom_all _ events 0

section Identified

variable {sha256 : Run.Sha256} {ext : Run.Externals} {dir : RecordDir} {runId : RunId}
  {command : Command} {s : RunState}

theorem checkIdentity_ok {ledger : LedgerBinding} {own : CommandBinding}
    (heldLedger : dir.ledgerBinding = .ok (some ledger))
    (heldCommand : dir.commandBinding = .ok (some own))
    (ledgerChecked : checkLedgerBinding ledger runId command = .ok ())
    (commandChecked : checkCommandBinding sha256 own runId command = .ok ())
    (taskChecked : checkTask sha256 dir s command = .ok ()) :
    checkIdentity sha256 dir runId command s = .ok () := by
  rw [checkIdentity, heldLedger, heldCommand, required, ok_bind, ledgerChecked, ok_bind, required,
    ok_bind, commandChecked, ok_bind, taskChecked]

theorem classifyCommandChild_verified {first : RunEvent} {rest : List RunEvent} {n : UInt64}
    (events : dir.events = .lines ((first :: rest).map .event)) (own : first.runId.asStr = runId)
    (verified : Run.verifyPrefix sha256 ext (recordDirResolver dir) (first :: rest) = .ok (s, n))
    (identity : checkIdentity sha256 dir runId command s = .ok ()) :
    classifyCommandChild sha256 ext dir runId command = classifyState s := by
  rw [classifyCommandChild, events]
  simp only [parseEvents_all, classifyStream, own, ne_eq, not_true_eq_false, if_false, verified,
    identity]

end Identified

section Crash

variable {env : Setting} {a : ContinueArgs} {o : Outside} {exitCode : Option Int32}
  {ran : List Outcome} {contract : RunContract} {m : GateManifest}
  {runId parentRunId : CanonicalRunId} {start dir : RecordDir} {done : List Item}
  {chain : EventChain} {s : RunState}

theorem left_part
    (left : Leaves env a (o.observed exitCode ran) contract runId parentRunId start dir done chain) :
    itemKinds done <+: (RunEventKind.runStarted contract (taskArtifact env a) ::
      (continueExtras env a o parentRunId).before) ++ .agentStarted ::
        Producers.afterDispatch env.sha256 (continueExtras env a o parentRunId)
          (diffArtifact env o) (agentOutcome exitCode) ran := by
  have listed : itemKinds done <+: itemKinds (continueItems env a (o.observed exitCode ran)
    parentRunId contract) := left.part.filterMap _
  rwa [itemKinds_continue] at listed

theorem left_order
    (left : Leaves env a (o.observed exitCode ran) contract runId parentRunId start dir done chain)
    (sealed : .runSealed ∈ itemKinds done) : .agentStarted ∈ itemKinds done := by
  have part := left_part left
  have cut : ∀ before after : List RunEventKind,
      before ++ .agentStarted :: after = (before ++ [.agentStarted]) ++ after := by simp
  rw [cut] at part
  have before := covers part sealed (by simp [continueExtras])
  exact before.subset (by simp)

theorem left_progress
    (left : Leaves env a (o.observed exitCode ran) contract runId parentRunId start dir done chain)
    (reduced : Run.reduceAll env.sha256 chain.out = .ok s) :
    dispatchProgress s = none ↔ .agentStarted ∉ itemKinds done := by
  have listed : kinds chain.out = itemKinds done := left.mints.carries
  constructor
  · intro silent member
    rw [← listed] at member
    rcases Run.mem_kinds.mp member with ⟨event, among, kind⟩
    exact undispatched_of_state reduced silent event among kind
  · intro absent
    have short := stops_before (left_part left) absent
    have nothing : ∀ {β : Type} {read : RunState → List β} {carried : RunEventKind → Option β},
        Run.Records read carried → (RunEventKind.runStarted contract (taskArtifact env a) ::
          (continueExtras env a o parentRunId).before).filterMap carried = [] → read s = [] := by
      intro β read carried records none
      rw [left_carried records left reduced]
      have carries := short.filterMap carried
      rw [none] at carries
      exact List.prefix_nil.mp carries
    have patch := nothing Run.records_patch rfl
    have session := nothing Run.records_providerSession rfl
    have exits := nothing Run.records_agentExit rfl
    have starts := Run.agentStarts_of_run reduced
    have noStart : (kinds chain.out).filterMap RunEventKind.asAgentStart = [] := by
      rw [listed]
      have carries := short.filterMap RunEventKind.asAgentStart
      exact List.prefix_nil.mp carries
    have gates : s.gates = ∅ := by
      apply Finmap.ext_lookup
      intro gate
      rw [Finmap.lookup_empty]
      apply (Run.gateMatches_of_run reduced gate).absent.mpr
      rw [listed]
      have carries := short.filterMap (RunEventKind.asGateStart gate)
      exact List.prefix_nil.mp carries
    unfold dispatchProgress
    rw [if_neg (by simp_all), if_neg (by simp_all)]
    cases agent : s.agent with
    | notObserved => rfl
    | started =>
        rw [agent, noStart] at starts
        cases starts
    | exited outcome =>
        rw [agent] at exits
        cases exits

def Inherits (env : Setting) (a : ContinueArgs) (o : Outside) (obligation : CandidateStateContractV1)
    (parentRunId : CanonicalRunId) (done : List Item) : Prop :=
  .event (materialized env o parentRunId) ∈ done → ∃ receipt,
    Evidence env obligation a.parentRunId a.conversationId receipt o.sourceReceipt o.sourcePatch ∧
      o.materializedTreeOid = receipt.candidateTreeOid

structure Agreed (env : Setting) (a : ContinueArgs) (o : Outside) (contract : RunContract)
    (obligation : CandidateStateContractV1) (treeOid : String)
    (runId parentRunId : CanonicalRunId) : Prop where
  readsBinding : env.ext.readBinding (env.writeBinding (ownBinding env a parentRunId)) =
    .ok (ownFacts env a runId parentRunId)
  readsReceipt : env.ext.readReceipt o.candidateReceipt = .ok
    (ownCandidateReceipt env obligation runId (some parentRunId) treeOid o.candidatePatch)
  run : runId.asStr = a.runId
  parent : parentRunId.asStr = a.parentRunId
  declared : contract.candidateState = some obligation
  schema : obligation.schema = Run.candidateStateContractSchemaV1
  conversation : obligation.conversationId = a.conversationId

theorem left_started
    (left : Leaves env a (o.observed exitCode ran) contract runId parentRunId start dir done chain)
    (nonempty : chain.out ≠ []) :
    ∃ later, kinds chain.out = .runStarted contract (taskArtifact env a) :: later := by
  have listed : kinds chain.out = itemKinds done := left.mints.carries
  have part : itemKinds done <+: itemKinds (continueItems env a (o.observed exitCode ran)
    parentRunId contract) := left.part.filterMap _
  rw [itemKinds_continue, ← listed] at part
  cases shape : kinds chain.out with
  | nil => exact absurd (List.map_eq_nil_iff.mp shape) nonempty
  | cons kind later =>
      rw [shape] at part
      rw [(List.cons_prefix_cons.mp part).1]
      exact ⟨later, rfl⟩

theorem left_verified {obligation : CandidateStateContractV1} {treeOid : String}
    (held : Contracted m contract) (steps : ran.map Prod.fst = m.gate)
    (left : Leaves env a (o.observed exitCode ran) contract runId parentRunId start dir done chain)
    (reduced : Run.reduceAll env.sha256 chain.out = .ok s) (nonempty : chain.out ≠ [])
    (agreed : Agreed env a o contract obligation treeOid runId parentRunId)
    (inherits : Inherits env a o obligation parentRunId done) :
    ∃ n, Run.verifyPrefix env.sha256 env.ext (recordDirResolver dir) chain.out = .ok (s, n) := by
  rcases left_core held steps left reduced nonempty with ⟨n, core⟩
  rcases left_started left nonempty with ⟨later, started⟩
  have own : ∀ e ∈ chain.out, e.runId = runId :=
    (left.mints.ownRun fun e never => by cases never).2
  refine ⟨n, Run.verifyPrefix_lineage.mpr
    ⟨core, contract, runId, Run.runsUnder_of_kinds started, own, ?_, ?_⟩⟩
  · intro receiptRef filled
    rcases left_filled Run.records_candidateState left reduced filled with ⟨kind, member, carries⟩
    have same := (left_slot Run.records_candidateState left reduced only_captured).1 _ filled
    rw [same, Run.asCandidateState_eq_some] at carries
    subst carries
    exact ⟨_, left_captured held.valid steps left reduced agreed.readsBinding agreed.readsReceipt
      agreed.declared agreed.schema agreed.conversation member filled⟩
  · intro mat filled
    rcases left_filled Run.records_materialization left reduced filled with ⟨kind, member, carries⟩
    have same := (left_slot Run.records_materialization left reduced only_materialized).1 _ filled
    rw [same, Run.asMaterialization_eq_some] at carries
    subst carries
    rcases inherits member with ⟨receipt, evidence, tree⟩
    exact ⟨receipt, _, left_materialized held.valid steps left reduced agreed.readsBinding
      agreed.parent agreed.declared evidence tree member filled⟩

theorem left_classified {obligation : CandidateStateContractV1} {treeOid : String}
    {command : Command} (held : Contracted m contract) (steps : ran.map Prod.fst = m.gate)
    (left : Leaves env a (o.observed exitCode ran) contract runId parentRunId start dir done chain)
    (fresh : start.events = .missing) (accepted : ∃ s, Run.reduceAll env.sha256 chain.out = .ok s)
    (agreed : Agreed env a o contract obligation treeOid runId parentRunId)
    (inherits : Inherits env a o obligation parentRunId done)
    (dispatched : Dispatches command a) :
    CrashPoint (classifyCommandChild env.sha256 env.ext dir a.runId command)
      (kinds dir.events.stream) := by
  rw [stream_of_shows left fresh]
  have events : dir.events = chain.out.foldl EventsFile.append .missing := by
    rw [left.dir, built, fresh]
  by_cases empty : chain.out = []
  · rw [empty] at events ⊢
    rw [classifyCommandChild, events]
    exact crashPoint_absent
  rw [appends_missing _ empty] at events
  rcases accepted with ⟨s, reduced⟩
  rcases left_verified held steps left reduced empty agreed inherits with ⟨n, verified⟩
  rcases left_started left empty with ⟨later, started⟩
  rcases List.map_eq_cons_iff.mp started with ⟨first, rest, shape, kind, _⟩
  have own : first.runId.asStr = a.runId := by
    rw [(left.mints.ownRun fun e never => by cases never).2 first (by simp [shape]), ← agreed.run]
    rfl
  have task : s.task = some (taskArtifact env a) := by
    rcases Run.opened_of_run reduced with ⟨none, _⟩ | ⟨other, _, _, _, shape', opened⟩
    · exact absurd none empty
    · cases shape.symm.trans shape'
      cases kind.symm.trans opened.kind
      exact opened.task
  have listed : kinds chain.out = itemKinds done := left.mints.carries
  have opening : openingItems env a parentRunId <+: done := by
    apply opening_before left (mem_itemKinds.mp _)
    · exact .runStarted contract (taskArtifact env a)
    · rw [← listed, started]
      exact List.mem_cons_self
  have identity := left_identity held.valid steps left opening agreed.parent task dispatched
  rw [shape] at events verified
  have found : classifyCommandChild env.sha256 env.ext dir a.runId command = classifyState s :=
    classifyCommandChild_verified events own verified identity
  rw [found, listed]
  have sealing := Run.sealing_of_run reduced
  apply crashPoint_of_state
  · rw [← listed, started]
    exact List.cons_ne_nil _ _
  · rw [← listed, ← sealing.occurs, ← sealing.verdict, Option.isSome_iff_ne_none]
  · exact left_progress left reduced
  · exact left_order left

/-- A continuation whose checks pass only where its parent's evidence holds, and whose receipt and
binding are read back as they were written. -/
structure Honest (env : Setting) (writeReceipt : CandidateStateReceiptV1 → List UInt8)
    (repo : RepositoryIdentity) (parent : RecordDir) (a : ContinueArgs) (o : Outside)
    (obligation : CandidateStateContractV1) (treeOid : String)
    (trace : Trace Call Call.Answer) : Prop where
  verified : answeredIn trace verifiesParent (.ok ()) → ∃ receipt,
    parentCandidateState env repo parent a.parentRunId a.conversationId =
      .ok (receipt, o.sourceReceipt, o.sourcePatch)
  applied : answeredIn trace appliesPatch (.ok ()) → ∀ receipt bytes patch,
    parentCandidateState env repo parent a.parentRunId a.conversationId =
      .ok (receipt, bytes, patch) → o.materializedTreeOid = receipt.candidateTreeOid
  captures : ∀ runId parentRunId : CanonicalRunId, runId.asStr = a.runId →
    parentRunId.asStr = a.parentRunId → o.candidateReceipt = writeReceipt
      (ownCandidateReceipt env obligation runId (some parentRunId) treeOid o.candidatePatch)
  readsReceipt : ∀ runId parentRunId : CanonicalRunId, runId.asStr = a.runId →
    parentRunId.asStr = a.parentRunId → env.ext.readReceipt (writeReceipt
      (ownCandidateReceipt env obligation runId (some parentRunId) treeOid o.candidatePatch)) =
      .ok (ownCandidateReceipt env obligation runId (some parentRunId) treeOid o.candidatePatch)
  readsBinding : ∀ runId parentRunId : CanonicalRunId, runId.asStr = a.runId →
    parentRunId.asStr = a.parentRunId →
    env.ext.readBinding (env.writeBinding (ownBinding env a parentRunId)) =
      .ok (ownFacts env a runId parentRunId)

theorem unnamed_events {α : Type} {x : Fallible Fault α} {applied : Bool}
    {trace : Trace Call Call.Answer} {y : Code (Except Fault α)} (runId : CanonicalRunId)
    (follows : Follows env.sha256 a.runId (answeredIn trace) x (.new runId) [] fun _ _ => False)
    (after : After x.run trace y) (fresh : start.events = .missing) :
    (leaves a.runId applied start trace).events = .missing := by
  rcases leaves_shows start applied follows after with ⟨done, chain, shows, _⟩
  have nothing : kinds chain.out = [] := by
    rw [shows.mints.carries, List.prefix_nil.mp shows.part]
    rfl
  rw [shows.dir, built, fresh, List.map_eq_nil_iff.mp nothing]
  rfl

theorem unnamed_crash {α : Type} {x : Fallible Fault α} {applied : Bool}
    {trace : Trace Call Call.Answer} {y : Code (Except Fault α)} {command : Command}
    (runId : CanonicalRunId)
    (follows : Follows env.sha256 a.runId (answeredIn trace) x (.new runId) [] fun _ _ => False)
    (after : After x.run trace y) (fresh : start.events = .missing) :
    CrashPoint (classifyCommandChild env.sha256 env.ext (leaves a.runId applied start trace)
      a.runId command) (kinds (leaves a.runId applied start trace).events.stream) := by
  rw [classifyCommandChild, unnamed_events runId follows after fresh]
  exact crashPoint_absent

theorem minted_named {raw : String} {id : CanonicalRunId} (minted : mintRunId raw = .ok id) :
    id.asStr = raw :=
  Producers.id_of_new (mapError_ok_iff.mp minted)

theorem refused_part {runId parentRunId : CanonicalRunId} {contract : RunContract} {dir : RecordDir}
    {done : List Item} {chain : EventChain} (shows : Shows env.sha256 runId start
      (bindItems env a parentRunId contract ++ copyItems o) dir done chain) :
    Leaves env a o contract runId parentRunId start dir done chain ∧
      .event (materialized env o parentRunId) ∉ done := by
  constructor
  · refine ⟨shows.part.trans ?_, shows.mints, shows.dir⟩
    rw [continueItems, prepareItems, List.append_assoc, List.append_assoc]
    exact List.prefix_append _ _
  · intro member
    have listed := shows.part.subset member
    simp [bindItems, copyItems, materialized] at listed

theorem crash_leaves {contract : RunContract} {obligation : CandidateStateContractV1}
    {writeReceipt : CandidateStateReceiptV1 → List UInt8} {repo : RepositoryIdentity}
    {parent : RecordDir} {treeOid : String} {applied : Bool} {trace : Trace Call Call.Answer}
    {y : Code (Except Fault (Run.Verdict × Option String))}
    (named : mintRunId a.runId = .ok runId) (parentNamed : mintRunId a.parentRunId = .ok parentRunId)
    (allowed : Allowed (o.observed exitCode ran) contract)
    (inherited : resolveInheritedCandidateObligation env repo parent a.parentRunId
      a.conversationId = .ok obligation)
    (honest : Honest env writeReceipt repo parent a o obligation treeOid trace)
    (after : After (continueExecute env a (o.observed exitCode ran) contract).run trace y) :
    ∃ done chain, Leaves env a (o.observed exitCode ran) contract runId parentRunId start
      (leaves a.runId applied start trace) done chain ∧
      Inherits env a o obligation parentRunId done := by
  by_cases checked : answeredIn trace verifiesParent (.ok ()) ∧ answeredIn trace appliesPatch (.ok ())
  · rcases leaves_shows start applied (follows_continueExecute named parentNamed allowed) after with
      ⟨done, chain, shows, _⟩
    refine ⟨done, chain, shows, ?_⟩
    intro _
    rcases honest.verified checked.1 with ⟨receipt, verified⟩
    exact ⟨receipt, evidence_of_parent inherited verified,
      honest.applied checked.2 _ _ _ verified⟩
  · rcases leaves_shows start applied (follows_refusedRun named parentNamed checked) after with
      ⟨done, chain, shows, _⟩
    rcases refused_part shows with ⟨left, absent⟩
    exact ⟨done, chain, left, fun member => absurd member absent⟩

theorem stopped_classified {base : RunContract} {obligation : CandidateStateContractV1}
    {writeReceipt : CandidateStateReceiptV1 → List UInt8} {repo : RepositoryIdentity}
    {parent : RecordDir} {treeOid : String} {applied : Bool} {trace : Trace Call Call.Answer}
    {y : Code (Except Fault (Run.Verdict × Option String))} {command : Command}
    (held : Contracted m base) (steps : ran.map Prod.fst = m.gate)
    (inherited : resolveInheritedCandidateObligation env repo parent a.parentRunId
      a.conversationId = .ok obligation)
    (honest : Honest env writeReceipt repo parent a o obligation treeOid trace)
    (dispatched : Dispatches command a) (fresh : start.events = .missing)
    (after : After (continueExecute env a (o.observed exitCode ran)
      (withObligation base obligation)).run trace y) :
    CrashPoint (classifyCommandChild env.sha256 env.ext (leaves a.runId applied start trace)
      a.runId command) (kinds (leaves a.runId applied start trace).events.stream) := by
  have declared : Contracted m (withObligation base obligation) := held.withCandidate _
  have valid := withObligation_valid held obligation
  have allowed : Allowed (o.observed exitCode ran) (withObligation base obligation) :=
    observed_allowed held steps obligation
  rcases conversation_of_inherited inherited with ⟨conversation, schema⟩
  cases named : mintRunId a.runId with
  | error e =>
      exact unnamed_crash ⟨"run", by decide⟩ (unminted_continueExecute (.inl named)) after fresh
  | ok runId =>
      cases parentNamed : mintRunId a.parentRunId with
      | error e =>
          exact unnamed_crash runId (unminted_continueExecute (.inr parentNamed)) after fresh
      | ok parentRunId =>
          have run := minted_named named
          have parent' := minted_named parentNamed
          have agreed : Agreed env a o (withObligation base obligation) obligation treeOid runId
              parentRunId := by
            refine ⟨honest.readsBinding _ _ run parent', ?_, run, parent', ?_, schema, conversation⟩
            · rw [honest.captures _ _ run parent']
              exact honest.readsReceipt _ _ run parent'
            · rw [withObligation, ← schema]
          rcases crash_leaves named parentNamed allowed inherited honest after with
            ⟨done, chain, left, inherits⟩
          have minting := shows_minting left (itemKinds_continue parentRunId) declared
            (continue_supplies valid parentRunId) steps
          exact left_classified declared steps left fresh minting.accepted agreed inherits dispatched

/-- Wherever an honest continuation stops, its record is classified by what was appended to it. -/
theorem crash_points {base : RunContract} {obligation : CandidateStateContractV1}
    {writeReceipt : CandidateStateReceiptV1 → List UInt8} {repo : RepositoryIdentity}
    {parent : RecordDir} {treeOid : String} {applied : Bool} {trace : Trace Call Call.Answer}
    {y : Code (Except Fault (Run.Verdict × Option String))} {command : Command}
    (built : Producers.buildContract m = .ok base) (steps : ran.map Prod.fst = m.gate)
    (inherited : resolveInheritedCandidateObligation env repo parent a.parentRunId
      a.conversationId = .ok obligation)
    (honest : Honest env writeReceipt repo parent a o obligation treeOid trace)
    (dispatched : Dispatches command a) (fresh : start.events = .missing)
    (after : After (continueExecute env a (o.observed exitCode ran)
      (withObligation base obligation)).run trace y) :
    CrashPoint (classifyCommandChild env.sha256 env.ext (leaves a.runId applied start trace)
      a.runId command) (kinds (leaves a.runId applied start trace).events.stream) := by
  rcases Producers.contracted_of_build built with ⟨held, _⟩
  exact stopped_classified held steps inherited honest dispatched fresh after

end Crash

theorem minted_core {sha256 : Run.Sha256} {artifacts : Run.ArtifactResolver}
    {runId : CanonicalRunId} {payloads : List RunEventKind} {t : RunState}
    (folded : Run.foldPayloads runId .initial payloads = .ok t) (bounded : payloads.length < 2 ^ 64)
    (named : t.runId = some runId)
    (backed : ∀ kind ∈ payloads, ∀ a ∈ Run.referencedArtifacts kind, ∃ bytes,
      artifacts a = .ok bytes ∧ Run.Digest256.ofBytes sha256 bytes = a.digest) :
    ∃ s n, Run.verifyPrefixCore sha256 artifacts (Run.mintStream sha256 runId 0 payloads) =
        .ok (s, n) ∧ s = t.withEnvelope s ∧
      kinds (Run.mintStream sha256 runId 0 payloads) = payloads ∧
      ∀ e ∈ Run.mintStream sha256 runId 0 payloads, e.runId = runId := by
  rcases Run.mintStream_of_fold sha256 0 folded bounded with ⟨s, reduced, agrees, listed⟩
  have own : s.runId = some runId := by
    rw [agrees]
    exact named
  rcases Run.opened_of_run reduced with ⟨_, initial⟩ | ⟨first, rest, _, _, shape, opened⟩
  · rw [initial] at own
    cases own
  cases opened.runId.symm.trans own
  refine ⟨s, _, Run.verifyPrefixCore_ok_iff.mpr
    ⟨by simp [shape], Run.intact_of_run reduced, reduced, ?_, rfl⟩, agrees, listed, ?_⟩
  · intro a member
    rcases Run.mem_uniqueArtifacts member with ⟨event, among, referenced⟩
    apply backed event.kind _ a referenced
    rw [← listed]
    exact Run.mem_kinds.mpr ⟨event, among, rfl⟩
  · rw [shape]
    exact opened.ownRun

namespace CrashSample

def repository : RepositoryIdentity := ⟨"/repo/.git", 1, 2⟩

def obligation : CandidateStateContractV1 :=
  ⟨Run.candidateStateContractSchemaV1, "conversation-1", repository, "base",
    .gitBinaryCumulativePatchV1⟩

theorem parent_named : "run-1" ≠ "" := by decide

def parentRunId : CanonicalRunId := ⟨"run-1", parent_named⟩
def childRunId : CanonicalRunId := ⟨"run-2", by decide⟩

def args : ContinueArgs := ⟨"conversation-1", "run-1", "go on", "run-2", "command-1"⟩

def command : Command :=
  ⟨"command-1", "conversation-1", "run-1", "go on", .accepted, some "run-2", 0, 0⟩

def patch : List UInt8 := [43]

def quoted (text : String) : String := "\"" ++ text ++ "\""

def receiptHead (schema : UInt32) (repo : RepositoryIdentity) (base : String) : String :=
  "\x7b\"schema\":" ++ toString schema ++ ",\"repository_id\":\x7b\"git_common_dir\":" ++
    quoted repo.gitCommonDir ++ ",\"dev\":" ++ toString repo.dev ++ ",\"ino\":" ++
    toString repo.ino ++ "\x7d,\"base_commit\":" ++ quoted base ++ ",\"run_id\":"

def receiptTail (r : CandidateStateReceiptV1) : String :=
  ",\"conversation_id\":" ++ quoted r.conversationId ++ ",\"parent_run_id\":" ++
    r.parentRunId.elim "null" (fun id => quoted id.asStr) ++ ",\"candidate_tree_oid\":" ++
    quoted r.candidateTreeOid ++ ",\"patch_kind\":\"git_binary_cumulative_patch_v1\"" ++
    ",\"patch\":\x7b\"kind\":\"candidate_patch\",\"locator\":" ++ quoted r.patch.locator ++
    ",\"digest\":" ++ quoted r.patch.digest.asStr ++ "\x7d\x7d"

@[irreducible] def writeReceipt (r : CandidateStateReceiptV1) : List UInt8 :=
  ByteCodec.utf8Bytes
    (receiptHead r.schema r.repositoryId r.baseCommit ++ (quoted r.runId.asStr ++ receiptTail r))

@[irreducible] def writeBinding (b : CommandBinding) : List UInt8 :=
  ByteCodec.utf8Bytes ("\x7b\"schema\":" ++ toString b.schema ++ ",\"command_id\":" ++
    quoted b.commandId ++ ",\"conversation_id\":" ++ quoted b.conversationId ++
    ",\"parent_run_id\":" ++ quoted b.parentRunId ++ ",\"child_run_id\":" ++
    quoted b.childRunId ++ ",\"command_sha256\":" ++ quoted b.commandSha256 ++ "\x7d")

noncomputable def writers : Setting :=
  { Sample.setting with writeBinding := writeBinding }

noncomputable def receipt (runId : CanonicalRunId) (parent : Option CanonicalRunId) :
    CandidateStateReceiptV1 :=
  ownCandidateReceipt writers obligation runId parent "tree" patch

noncomputable def parentReceipt : CandidateStateReceiptV1 := receipt parentRunId none
noncomputable def childReceipt : CandidateStateReceiptV1 := receipt childRunId (some parentRunId)

noncomputable def readReceipt (bytes : List UInt8) : Except String CandidateStateReceiptV1 :=
  if bytes = writeReceipt parentReceipt then .ok parentReceipt
  else if bytes = writeReceipt childReceipt then .ok childReceipt
  else .error "receipt"

noncomputable def readBinding (bytes : List UInt8) : Except String Run.CommandBindingFacts :=
  if bytes = writeBinding (ownBinding writers args parentRunId) then
    .ok (ownFacts writers args childRunId parentRunId)
  else .error "binding"

noncomputable def setting : Setting :=
  { writers with ext := ⟨readReceipt, readBinding, fun _ => none, id⟩ }

def contract : RunContract := withObligation Sample.contract obligation

noncomputable def parentKinds : List RunEventKind :=
  [.runStarted contract (artifact setting .task "task.md" []), .agentStarted,
    .agentExited (.exitedNormally 0), .patchCaptured (artifact setting .diff "diff.patch" patch),
    .candidateStateCaptured (artifact setting .candidateState Run.candidateStateReceiptLocator
      (writeReceipt parentReceipt)),
    .runSealed]

noncomputable def parent : RecordDir where
  base := "records/run-1"
  events := .lines ((Run.mintStream Run.standardSha256 parentRunId 0 parentKinds).map .event)
  ledgerBinding := .ok none
  commandBinding := .ok none
  read locator :=
    if locator = "task.md" then .ok []
    else if locator = "diff.patch" ∨ locator = Run.candidatePatchLocator then .ok patch
    else if locator = Run.candidateStateReceiptLocator then .ok (writeReceipt parentReceipt)
    else .error "not found"

theorem parent_folded : ∃ t, Run.foldPayloads parentRunId .initial parentKinds = .ok t ∧
    t.verdict ≠ none ∧ t.runId = some parentRunId ∧ t.contract = some contract ∧
    t.commandBinding = none ∧ t.candidateMaterialized = none ∧
    t.candidateState = some (artifact setting .candidateState Run.candidateStateReceiptLocator
      (writeReceipt parentReceipt)) := by
  refine ⟨_, rfl, ?_, rfl, rfl, rfl, rfl, rfl⟩
  decide

theorem setting_readReceipt : setting.ext.readReceipt = readReceipt := rfl
theorem setting_readBinding : setting.ext.readBinding = readBinding := rfl

theorem reads_parent : setting.ext.readReceipt (writeReceipt parentReceipt) = .ok parentReceipt := by
  rw [setting_readReceipt, readReceipt, if_pos rfl]

theorem receipts_distinct : writeReceipt childReceipt ≠ writeReceipt parentReceipt := by
  intro same
  unfold writeReceipt at same
  have shared : childReceipt.schema = parentReceipt.schema ∧
      childReceipt.repositoryId = parentReceipt.repositoryId ∧
      childReceipt.baseCommit = parentReceipt.baseCommit := ⟨rfl, rfl, rfl⟩
  have named : childReceipt.runId.asStr = "run-2" ∧ parentReceipt.runId.asStr = "run-1" :=
    ⟨rfl, rfl⟩
  rw [shared.1, shared.2.1, shared.2.2, named.1, named.2] at same
  have texts := congrArg String.toList (ByteCodec.utf8Bytes_injective same)
  simp only [String.toList_append] at texts
  have ids := List.append_inj_left (List.append_cancel_left texts) (by decide)
  exact absurd ids (by decide)

theorem reads_child : setting.ext.readReceipt (writeReceipt childReceipt) = .ok childReceipt := by
  rw [setting_readReceipt, readReceipt, if_neg receipts_distinct, if_pos rfl]

theorem reads_binding :
    setting.ext.readBinding (writeBinding (ownBinding writers args parentRunId)) =
      .ok (ownFacts writers args childRunId parentRunId) := by
  rw [setting_readBinding, readBinding, if_pos rfl]

theorem parent_backed (locator : String) (bytes : List UInt8) (kind : Run.ArtifactKind)
    (inside : confined locator = true) (held : parent.read locator = .ok bytes) :
    Run.Backed Run.standardSha256 (recordDirResolver parent) (artifact setting kind locator bytes)
      kind locator bytes :=
  ⟨rfl, rfl, resolver_ok_iff.mpr ⟨inside, held⟩, rfl⟩

theorem parent_artifacts {kind : RunEventKind} (listed : kind ∈ parentKinds) (r : Run.ArtifactRef)
    (named : r ∈ Run.referencedArtifacts kind) : ∃ bytes,
    recordDirResolver parent r = .ok bytes ∧
      Run.Digest256.ofBytes Run.standardSha256 bytes = r.digest := by
  have task := parent_backed "task.md" [] .task (by decide) rfl
  have diff := parent_backed "diff.patch" patch .diff (by decide) rfl
  have own := parent_backed Run.candidateStateReceiptLocator
    (writeReceipt parentReceipt) .candidateState (by decide) rfl
  simp only [parentKinds, List.mem_cons, List.not_mem_nil, or_false] at listed
  rcases listed with same | same | same | same | same | same <;> rw [same] at named
  · cases List.mem_singleton.mp named
    exact ⟨_, task.resolves, task.digest⟩
  · cases named
  · cases named
  · cases List.mem_singleton.mp named
    exact ⟨_, diff.resolves, diff.digest⟩
  · cases List.mem_singleton.mp named
    exact ⟨_, own.resolves, own.digest⟩
  · cases named

theorem parent_lineage {binding : Option Run.ArtifactRef} (unbound : binding = none) :
    Run.CapturedLineage Run.standardSha256 setting.ext (recordDirResolver parent) contract
      parentRunId binding (artifact setting .candidateState Run.candidateStateReceiptLocator
        (writeReceipt parentReceipt)) parentReceipt := by
  have own := parent_backed Run.candidateStateReceiptLocator
    (writeReceipt parentReceipt) .candidateState (by decide) rfl
  have patched := parent_backed Run.candidatePatchLocator patch .candidatePatch
    (by decide) rfl
  subst unbound
  exact ⟨⟨_, own, reads_parent, rfl⟩, ⟨obligation, ⟨rfl, rfl⟩, rfl, rfl, rfl, rfl⟩, rfl,
    ⟨fun _ => rfl, fun _ => rfl⟩, nofun, ⟨_, patched⟩⟩

theorem parent_loads : ∃ s events, loadVerifiedCandidateReceipt setting parent =
    .ok (s, parentReceipt, events) ∧ s.verdict ≠ none ∧
      events.getLast?.map RunEvent.kind = some .runSealed := by
  rcases parent_folded with ⟨t, folded, closed, named, bound, unbound, unmaterialized, captured⟩
  rcases minted_core folded (by decide) named (fun _ => parent_artifacts) with
    ⟨s, n, core, agrees, listed, own⟩
  have same : s.verdict = t.verdict ∧ s.runId = t.runId ∧ s.contract = t.contract ∧
      s.commandBinding = t.commandBinding ∧ s.candidateMaterialized = t.candidateMaterialized ∧
      s.candidateState = t.candidateState := by
    rw [agrees]
    exact ⟨rfl, rfl, rfl, rfl, rfl, rfl⟩
  rw [named, bound, unbound, unmaterialized, captured] at same
  rcases same with ⟨verdict, runId, bound, unbound, unmaterialized, captured⟩
  have verified : Run.verifyPrefix Run.standardSha256 setting.ext (recordDirResolver parent)
      (Run.mintStream Run.standardSha256 parentRunId 0 parentKinds) = .ok (s, n) := by
    refine Run.verifyPrefix_lineage.mpr
      ⟨core, contract, parentRunId, Run.runsUnder_of_kinds listed, own, ?_, ?_⟩
    · intro receiptRef held
      cases captured.symm.trans held
      exact ⟨parentReceipt, parent_lineage unbound⟩
    · intro mat held
      rw [unmaterialized] at held
      cases held
  have receipted : Run.verifyCandidateStateCaptured Run.standardSha256 setting.ext
      (recordDirResolver parent) s contract = .ok parentReceipt :=
    (Run.verifyCandidateStateCaptured_ok_iff runId).mpr ⟨_, captured, parent_lineage unbound⟩
  refine ⟨s, Run.mintStream Run.standardSha256 parentRunId 0 parentKinds, ?_, ?_, ?_⟩
  · simp only [loadVerifiedCandidateReceipt, parent, fromJsonl, parseFrom_all]
    simp only [bind_ok_iff, mapError_ok_iff, okOr_ok_iff, pure_ok_iff]
    exact ⟨_, rfl, _, verified, contract, bound, parentReceipt, receipted, rfl⟩
  · rw [verdict]
    exact closed
  · rw [← List.getLast?_map]
    exact congrArg List.getLast? listed

theorem parent_verified :
    parentCandidateState setting repository parent args.parentRunId args.conversationId =
      .ok (parentReceipt, writeReceipt parentReceipt, patch) := by
  rcases parent_loads with ⟨s, events, loads, closed, last⟩
  have held : parent.read Run.candidateStateReceiptLocator = .ok (writeReceipt parentReceipt) ∧
      parent.read parentReceipt.patch.locator = .ok patch := ⟨rfl, rfl⟩
  simp only [parentCandidateState, loads, ok_bind, bind_ok_iff, refuseIf_ok_iff, exists_const,
    mapError_ok_iff, pure_ok_iff, last, held, closed]
  refine ⟨nofun, nofun, ?_, ?_, ?_, patch, rfl, _, rfl, rfl⟩
  · exact fun other => other rfl
  · exact fun other => other rfl
  · exact fun other => other rfl

theorem parent_inherited : resolveInheritedCandidateObligation setting repository parent
    args.parentRunId args.conversationId = .ok obligation := by
  rcases parent_loads with ⟨s, events, loads, _⟩
  simp only [resolveInheritedCandidateObligation, loads, ok_bind, bind_ok_iff, refuseIf_ok_iff,
    exists_const, pure_ok_iff]
  refine ⟨?_, ?_, ?_, rfl⟩
  · exact fun other => other rfl
  · exact fun other => other rfl
  · exact fun other => other rfl

noncomputable def outside : Outside where
  contract := contract
  obligation := obligation
  sourceReceipt := writeReceipt parentReceipt
  sourcePatch := patch
  materializedTreeOid := "tree"
  outcome := .exitedNormally 0
  sessionId := none
  sessionReceipt := []
  stdout := []
  diff := patch
  candidatePatch := patch
  candidateReceipt := writeReceipt childReceipt
  gates := []
  runMeta := []

theorem id_unique {a b : CanonicalRunId} (same : a.asStr = b.asStr) : a = b := by
  cases a
  cases b
  cases same
  rfl

theorem honest (trace : Trace Call Call.Answer) :
    Honest setting writeReceipt repository parent args outside obligation "tree" trace := by
  have run : ∀ runId : CanonicalRunId, runId.asStr = args.runId → runId = childRunId :=
    fun runId same => id_unique same
  have parentRun : ∀ runId : CanonicalRunId, runId.asStr = args.parentRunId →
      runId = parentRunId := fun runId same => id_unique same
  constructor
  · exact fun _ => ⟨parentReceipt, parent_verified⟩
  · intro _ receipt bytes patch verified
    have same := Except.ok.inj (parent_verified.symm.trans verified)
    rw [← (Prod.mk.inj same).1]
    rfl
  · intro runId other same parent
    rw [run runId same, parentRun other parent]
    rfl
  · intro runId other same parent
    rw [run runId same, parentRun other parent]
    exact reads_child
  · intro runId other same parent
    rw [run runId same, parentRun other parent]
    exact reads_binding

def start : RecordDir where
  base := "records/run-2"
  events := .missing
  ledgerBinding := .ok none
  commandBinding := .ok none
  read _ := .error "not found"

theorem child_sealed : ∃ trace r,
    After (continueExecute setting args (outside.observed (some 0) Sample.ran) contract).run trace
      (pure (.ok r)) ∧
    .agentStarted ∈ kinds (leaves args.runId false start trace).events.stream ∧
    .runSealed ∈ kinds (leaves args.runId false start trace).events.stream := by
  rcases Producers.contracted_of_build Sample.contract_built with ⟨held, _⟩
  have agrees : ∀ trace y, After (continueExecute setting args
      (outside.observed (some 0) Sample.ran) contract).run trace y →
      (Produced setting (Producers.coreKinds setting.sha256 (agentOutcome (some 0)) Sample.ran)
        (Producers.coreVerdict setting.sha256 Sample.contract (agentOutcome (some 0)) Sample.ran)
        (leaves args.runId false start trace).events.stream trace y
        fun r => r.1 = Producers.coreVerdict setting.sha256 Sample.contract
          (agentOutcome (some 0)) Sample.ran) ∧
        (args.runId ≠ "" → args.parentRunId ≠ "" → Sample.ran.length < 2 ^ 62 →
          Returns trace y) :=
    fun trace y after => continued_agrees held rfl rfl after
  rcases after_evaluate Sample.world (continueExecute setting args
    (outside.observed (some 0) Sample.ran) contract).run () with ⟨trace, ends, _⟩
  rcases (agrees [] _ .here).2 (by decide) (by decide) (by decide) (List.forall_mem_nil _) Sample.world
    Sample.world_smooth () with ⟨r, returned⟩
  rw [returned] at ends
  have produced := (agrees trace _ ends).1
  have closed := (produced.sealed r rfl).1
  have core := (produced.minting.closed closed).1
  refine ⟨trace, r, ends, ?_, closed⟩
  have begun : RunEventKind.agentStarted ∈
      Producers.coreKinds setting.sha256 (agentOutcome (some 0)) Sample.ran := List.mem_cons_self
  rw [← core] at begun
  exact (List.mem_filter.mp begun).1

end CrashSample

theorem crash_points_sample : ∃ trace,
    .agentStarted ∈ kinds (leaves CrashSample.args.runId false CrashSample.start
      trace).events.stream ∧
    .runSealed ∈ kinds (leaves CrashSample.args.runId false CrashSample.start
      trace).events.stream ∧
    ∀ past later, trace = past ++ later →
      CrashPoint (classifyCommandChild CrashSample.setting.sha256 CrashSample.setting.ext
        (leaves CrashSample.args.runId false CrashSample.start past)
        CrashSample.args.runId CrashSample.command)
        (kinds (leaves CrashSample.args.runId false CrashSample.start past).events.stream) := by
  rcases CrashSample.child_sealed with ⟨trace, r, ends, begun, closed⟩
  refine ⟨trace, begun, closed, ?_⟩
  rintro past later rfl
  rcases ends.cut with ⟨y, stopped⟩
  exact crash_points Sample.contract_built rfl CrashSample.parent_inherited (CrashSample.honest _)
    ⟨rfl, rfl, rfl, rfl⟩ rfl stopped

end O7Formal.Dispatch
