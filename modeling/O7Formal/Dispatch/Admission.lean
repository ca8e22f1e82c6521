import O7Formal.Dispatch.CrashPoints
import O7Formal.Lib.FileTree
import O7Formal.Run.Resolvers

/-! The admission of a parent run over its own record, and the checks that its continuation makes on
the same record later. -/

namespace O7Formal.Dispatch

open Fallible
open FileTree (Errno Files Location Open join lookup names openBelow parts)
open O7Formal.Ledger (Tables)
open O7Formal.Run (ArtifactError ArtifactRef ArtifactResolver CandidateStateContractV1
  CandidateStateReceiptV1 ReplayError RepositoryIdentity RunEvent RunState Serves
  uniqueArtifacts)

structure Readers where
  lines : List UInt8 → Except String (List Line)
  ledgerBinding : List UInt8 → Except String LedgerBinding
  commandBinding : List UInt8 → Except String CommandBinding

/-- The files as both processes see them, which run in one directory under one configuration. -/
structure RunStore where
  files : Files Char
  cwd : Location Char
  runsDir : String
  readers : Readers

structure ConfiguredRepo where
  childTarget : Except String String
  repositoryIdentity : Except String RepositoryIdentity
  verifyCommitExists : String → Except String Unit

def pathMax : Nat := 4096

def Fits (path : List Char) : Prop := (String.ofList path).utf8ByteSize < pathMax

instance : DecidablePred Fits := fun _ => Nat.decLt _ _

def eventsFile : List Char := "events.jsonl".toList

namespace RunStore

variable (store : RunStore)

def open_ (path : List Char) : Except Errno (List UInt8) := do
  refuseIf (¬ Fits path) .nameTooLong
  FileTree.read store.files store.cwd path

def sidecar {α : Type} (dir : List Char) (name : String)
    (reader : List UInt8 → Except String α) : Except String (Option α) :=
  match store.open_ (join dir name.toList) with
  | .error .noEntry => .ok none
  | .error errno => .error errno.text
  | .ok bytes => (reader bytes).map some

def record (dir : List Char) : RecordDir where
  base := String.ofList dir
  events :=
    match store.open_ (join dir eventsFile) with
    | .error .noEntry => .missing
    | .error errno => .unreadable errno.text
    | .ok bytes =>
        match store.readers.lines bytes with
        | .error why => .unreadable why
        | .ok held => .lines held
  ledgerBinding := store.sidecar dir "ledger_binding.json" store.readers.ledgerBinding
  commandBinding := store.sidecar dir "command_binding.json" store.readers.commandBinding
  read locator := (store.open_ (join dir locator.toList)).mapError Errno.text

end RunStore

def maxEventsJsonlBytes : Nat := 8 * 1024 * 1024
def maxArtifactBytes : Nat := 64 * 1024 * 1024
def maxTotalHydratedBytes : Nat := 128 * 1024 * 1024

def isConfinedRunIdComponent (id : String) : Bool :=
  decide ((parts id.toList).head? ≠ some []) && decide ((parts id.toList).head? ≠ some ['.']) &&
    match names (parts id.toList) with
    | [name] => decide (name ≠ FileTree.up)
    | _ => false

section Bounded

variable (env : Setting) (store : RunStore) (repo : ConfiguredRepo)

def childRecordDir (runId : RunId) : Except String (List Char) := do
  refuseIf (isConfinedRunIdComponent runId = false)
    ("run id " ++ env.ext.debugStr runId ++ " is not a valid single path component")
  let target ← repo.childTarget
  pure (join (join store.runsDir.toList target.toList) runId.toList)

def openRecordDir (dir : List Char) : Except Errno (Location Char) := do
  refuseIf (¬ Fits dir) .nameTooLong
  let here ← lookup store.files false store.cwd dir
  refuseIf (store.files here ≠ some .dir) .notDirectory
  pure here

def readBoundedEventsJsonl (here : Location Char) : Except String (List Line) := do
  let bytes ← (openBelow store.files here [eventsFile]).mapError Errno.text
  refuseIf (maxEventsJsonlBytes < bytes.length)
    ("events.jsonl is " ++ toString bytes.length ++ " bytes, exceeding the " ++
      toString maxEventsJsonlBytes ++ "-byte limit for an HTTP-triggered candidate replay")
  store.readers.lines bytes

/-- The resolver below an open directory, without the budget that its answers share. -/
def boundedRecordDirResolver (here : Location Char) : ArtifactResolver := fun a => do
  refuseIf (confined a.locator = false) ⟨a.locator, escapes⟩
  let bytes ← (openBelow store.files here (names (parts a.locator.toList))).mapError
    fun errno => ⟨a.locator, errno.text⟩
  refuseIf (maxArtifactBytes < bytes.length) ⟨a.locator, "artifact is " ++ toString bytes.length ++
    " bytes, exceeding the " ++ toString maxArtifactBytes ++
    "-byte per-artifact limit for an HTTP-triggered candidate replay"⟩
  pure bytes

def spend (artifacts : ArtifactResolver) (total : Nat) (a : ArtifactRef) :
    Except ArtifactError Nat := do
  let bytes ← artifacts a
  let total := total + bytes.length
  refuseIf (maxTotalHydratedBytes < total) ⟨a.locator,
    "total hydrated bytes for this replay would reach " ++ toString total ++ ", exceeding the " ++
    toString maxTotalHydratedBytes ++
    "-byte total budget for an HTTP-triggered candidate replay"⟩
  pure total

/-- What a replay that passes has asked for, in its order. An artifact that two steps ask for counts
twice. -/
def hydrated (artifacts : ArtifactResolver) (events : List RunEvent) (state : RunState) :
    List ArtifactRef :=
  uniqueArtifacts events ++
  (match state.candidateState, state.contract with
    | some receiptRef, some contract =>
        match Run.verifyCandidateStateCaptured env.sha256 env.ext artifacts state contract with
        | .ok receipt => receiptRef :: state.commandBinding.toList ++ [receipt.patch]
        | .error _ => []
    | _, _ => []) ++
  match state.candidateMaterialized with
  | some mat => state.commandBinding.toList ++ [mat.sourceReceipt, mat.sourcePatch]
  | none => []

def boundedReplay (here : Location Char) (events : List RunEvent) :
    Except ReplayError RunState := do
  let artifacts := boundedRecordDirResolver store here
  let (state, _) ← Run.verifyPrefix env.sha256 env.ext artifacts events
  let _ ← ((hydrated env artifacts events state).foldlM (spend artifacts) 0).mapError
    .artifactUnresolved
  pure state

inductive Unusable where
  | text (why : String)
  | replay (error : ReplayError)
  deriving DecidableEq

def parentCandidateStateUsable (parentRunId : RunId) : Except Unusable Unit := do
  let dir ← (childRecordDir env store repo parentRunId).mapError
    fun e => Unusable.text ("resolving parent record directory: " ++ e)
  let here ← (openRecordDir store dir).mapError
    fun e => Unusable.text ("opening the parent's record directory: " ++ e.text)
  let held ← (readBoundedEventsJsonl store here).mapError
    fun e => Unusable.text ("reading the parent's canonical record: " ++ e)
  let events ← (fromJsonl held).mapError
    fun e => Unusable.text ("parsing the parent's canonical record: " ++ e)
  let state ← (boundedReplay env store here events).mapError .replay
  refuseIf (state.verdict = none) (.text "the parent run is not sealed")
  let obligation ← okOr (state.contract.bind Run.RunContract.candidateState)
    (.text ("the parent run predates Q-Deck A0 (no candidate_state contract obligation) — a " ++
      "valid candidate receipt is mandatory for every command continuation"))
  refuseIf (state.candidateState = none) (.text
    "the parent run declares a candidate_state obligation but never captured a receipt")
  let identity ← repo.repositoryIdentity.mapError fun e => Unusable.text
    ("resolving this server's own configured repository identity: " ++ e)
  refuseIf (obligation.repositoryId ≠ identity) (.text
    ("the parent's candidate-state contract was captured against a different repository than " ++
      "this server is currently configured for"))
  (repo.verifyCommitExists obligation.baseCommit).mapError fun e => Unusable.text
    ("the parent's candidate-state base commit no longer resolves in this server's configured " ++
      "repository: " ++ e)

end Bounded

inductive ParentRefused where
  | badRequest (why : String)
  | notFound
  deriving DecidableEq, Repr

def parentReference (env : Setting) (s : Tables) (conversationId : Ledger.ConversationId)
    (parentRunId : RunId) : Except ParentRefused Unit := do
  refuseIf (isConfinedRunIdComponent parentRunId = false) (.badRequest
    ("parent_run_id " ++ env.ext.debugStr parentRunId ++ " is not a valid run identifier"))
  refuseIf (Ledger.loadConversation conversationId s = none) .notFound
  let parent ← okOr (Ledger.loadRun parentRunId s) .notFound
  refuseIf (parent.conversationId ≠ conversationId) .notFound

def materializeParent (env : Setting) (repo : ConfiguredRepo) (parent : RecordDir)
    (parentRunId conversationId : String) :
    Except Fault (CandidateStateReceiptV1 × List UInt8 × List UInt8) := do
  let (state, receipt, events) ← loadVerifiedCandidateReceipt env parent
  refuseIf (state.verdict = none) (.refused
    "the parent run is not sealed — a truncated-after-capture prefix must not be materialized from")
  refuseIf (events.getLast?.map RunEvent.kind ≠ some .runSealed)
    (.refused "the parent's own canonical record's last event is not RunSealed")
  refuseIf (receipt.runId.asStr ≠ parentRunId) (.refused
    "the parent's candidate-state receipt's own run_id does not match the parent run")
  refuseIf (receipt.conversationId ≠ conversationId)
    (.refused "the parent's candidate-state receipt belongs to a different conversation")
  let identity ← repo.repositoryIdentity.mapError Fault.refused
  refuseIf (receipt.repositoryId ≠ identity) (.refused
    "the parent's candidate-state receipt was captured against a different repository")
  (repo.verifyCommitExists receipt.baseCommit).mapError fun _ => Fault.refused
    ("the parent's candidate-state receipt names a base_commit (" ++ receipt.baseCommit ++
      ") that does not exist in this repository")
  let patch ← (parent.read receipt.patch.locator).mapError
    fun _ => Fault.refused "re-reading the parent's own candidate.patch"
  let bytes ← (parent.read Run.candidateStateReceiptLocator).mapError
    fun _ => Fault.refused "re-reading the parent's own candidate_state_receipt.json bytes"
  pure (receipt, bytes, patch)

section Readings

variable {env : Setting} {store : RunStore} {repo : ConfiguredRepo} {dir : List Char}
  {here : Location Char} {events : List RunEvent}

/-- A path below the record that asks for a file, and that fits. -/
structure Readable (dir : List Char) (locator : String) : Prop where
  file : Open (parts locator.toList)
  fits : Fits (join dir locator.toList)

theorem confined_parts {locator : String} (inside : confined locator = true) :
    FileTree.isAbsolute locator.toList = false ∧ FileTree.up ∉ parts locator.toList ∧
      names (parts locator.toList) ≠ [] := by
  simp only [confined, Bool.and_eq_true, decide_eq_true_eq, List.all_eq_true] at inside
  rcases inside with ⟨⟨⟨_, rooted⟩, dotted⟩, plain⟩
  have first : ∃ part rest, parts locator.toList = part :: rest :=
    List.exists_cons_of_ne_nil (List.splitOn_ne_nil _ _)
  rcases first with ⟨part, rest, split⟩
  change (parts locator.toList).head? ≠ some [] at rooted
  change (parts locator.toList).head? ≠ some ['.'] at dotted
  refine ⟨?_, fun member => plain _ member rfl, ?_⟩
  · by_contra absolute
    rcases List.head?_eq_some_iff.mp (of_decide_eq_true (Bool.not_eq_false _ ▸ absolute)) with
      ⟨path, text⟩
    apply rooted
    rw [parts, text]
    exact congrArg List.head? (List.splitOn_append_cons_self [] path)
  · rw [split] at rooted dotted ⊢
    have moves : ¬ FileTree.Stays part := by
      intro stays
      rcases stays with empty | dot
      · exact rooted (congrArg some empty)
      · exact dotted (congrArg some dot)
    rw [FileTree.names_moves moves]
    exact List.cons_ne_nil _ _

theorem openRecordDir_ok_iff : openRecordDir store dir = .ok here ↔
    Fits dir ∧ lookup store.files false store.cwd dir = .ok here ∧ store.files here = some .dir := by
  simp only [openRecordDir, bind_ok_iff, refuseIf_ok_iff, exists_const, not_not, pure_ok_iff, ne_eq]
  constructor
  · rintro ⟨fits, _, found, directory, rfl⟩
    exact ⟨fits, found, directory⟩
  · rintro ⟨fits, found, directory⟩
    exact ⟨fits, here, found, directory, rfl⟩

theorem open_iff_readable (opened : openRecordDir store dir = .ok here) {path : List Char}
    {bytes : List UInt8} (relative : FileTree.isAbsolute path = false)
    (inside : FileTree.up ∉ parts path) (named : names (parts path) ≠ [])
    (below : openBelow store.files here (names (parts path)) = .ok bytes) {read : List UInt8} :
    store.open_ (join dir path) = .ok read ↔
      (Open (parts path) ∧ Fits (join dir path)) ∧ read = bytes := by
  rcases openRecordDir_ok_iff.mp opened with ⟨_, found, directory⟩
  have joined := FileTree.read_join found directory relative inside named below
  simp only [RunStore.open_, bind_ok_iff, refuseIf_ok_iff, exists_const, not_not]
  by_cases file : Open (parts path)
  · rw [joined.1 file]
    constructor
    · rintro ⟨fits, same⟩
      exact ⟨⟨file, fits⟩, (Except.ok.inj same).symm⟩
    · rintro ⟨⟨_, fits⟩, rfl⟩
      exact ⟨fits, rfl⟩
  · rw [joined.2 file]
    constructor
    · rintro ⟨_, same⟩
      cases same
    · rintro ⟨⟨opens, _⟩, _⟩
      exact absurd opens file

theorem bounded_ok {r : ArtifactRef} {bytes : List UInt8}
    (resolved : boundedRecordDirResolver store here r = .ok bytes) :
    confined r.locator = true ∧
      openBelow store.files here (names (parts r.locator.toList)) = .ok bytes := by
  simp only [boundedRecordDirResolver, bind_ok_iff, refuseIf_ok_iff, exists_const, mapError_ok_iff,
    pure_ok_iff, Bool.not_eq_false] at resolved
  rcases resolved with ⟨inside, _, below, _, rfl⟩
  exact ⟨inside, below⟩

theorem resolves_iff_readable (opened : openRecordDir store dir = .ok here) {r : ArtifactRef}
    {bytes read : List UInt8} (resolved : boundedRecordDirResolver store here r = .ok bytes) :
    recordDirResolver (store.record dir) r = .ok read ↔
      Readable dir r.locator ∧ read = bytes := by
  rcases bounded_ok resolved with ⟨inside, below⟩
  rcases confined_parts inside with ⟨relative, up, named⟩
  rw [resolver_ok_iff]
  simp only [RunStore.record, mapError_ok_iff, open_iff_readable opened relative up named below]
  constructor
  · rintro ⟨_, ⟨file, fits⟩, same⟩
    exact ⟨⟨file, fits⟩, same⟩
  · rintro ⟨readable, same⟩
    exact ⟨inside, ⟨readable.file, readable.fits⟩, same⟩

theorem serves_of_readable (opened : openRecordDir store dir = .ok here)
    (readable : ∀ r, Run.Asked events r → Readable dir r.locator) :
    Serves events (boundedRecordDirResolver store here) (recordDirResolver (store.record dir)) :=
  fun r _ asked resolved => (resolves_iff_readable opened resolved).mpr ⟨readable r asked, rfl⟩

structure Holds (store : RunStore) (here : Location Char) (held : List Line)
    (events : List RunEvent) : Prop where
  file : ∃ bytes, openBelow store.files here [eventsFile] = .ok bytes ∧
    store.readers.lines bytes = .ok held
  parsed : fromJsonl held = .ok events

theorem record_events_iff (opened : openRecordDir store dir = .ok here) {held : List Line}
    (holds : Holds store here held events) {lines : List Line} :
    (store.record dir).events = .lines lines ↔ Fits (join dir eventsFile) ∧ lines = held := by
  rcases holds.file with ⟨bytes, below, read⟩
  have plain : FileTree.isAbsolute eventsFile = false ∧ FileTree.up ∉ parts eventsFile ∧
      names (parts eventsFile) = [eventsFile] ∧ Open (parts eventsFile) := by decide
  rcases plain with ⟨relative, up, named, file⟩
  have found := @open_iff_readable store dir here opened eventsFile bytes relative up
    (by rw [named]; exact List.cons_ne_nil _ _) (by rw [named]; exact below)
  simp only [RunStore.record]
  constructor
  · intro same
    split at same
    · cases same
    · cases same
    · rename_i got reached
      rcases (found).mp reached with ⟨⟨_, fits⟩, rfl⟩
      rw [read] at same
      exact ⟨fits, (EventsFile.lines.inj same).symm⟩
  · rintro ⟨fits, rfl⟩
    rw [found.mpr ⟨⟨file, fits⟩, rfl⟩]
    dsimp only
    rw [read]

theorem load_ok_iff {parent : RecordDir} {held : List Line} (lines : parent.events = .lines held)
    (parsed : fromJsonl held = .ok events) {state : RunState} {receipt : CandidateStateReceiptV1}
    {read : List RunEvent} :
    loadVerifiedCandidateReceipt env parent = .ok (state, receipt, read) ↔
      (∃ n contract, Run.verifyPrefix env.sha256 env.ext (recordDirResolver parent) events =
          .ok (state, n) ∧ state.contract = some contract ∧
        Run.verifyCandidateStateCaptured env.sha256 env.ext (recordDirResolver parent) state
          contract = .ok receipt) ∧ read = events := by
  simp only [loadVerifiedCandidateReceipt, lines, bind_ok_iff, mapError_ok_iff, okOr_ok_iff,
    pure_ok_iff, Prod.mk.injEq, parsed, Except.ok.injEq]
  constructor
  · rintro ⟨_, rfl, ⟨s, n⟩, verified, contract, bound, found, captured, rfl, rfl, rfl⟩
    exact ⟨⟨n, contract, verified, bound, captured⟩, rfl⟩
  · rintro ⟨⟨n, contract, verified, bound, captured⟩, rfl⟩
    exact ⟨_, rfl, (state, n), verified, contract, bound, receipt, captured, rfl, rfl, rfl⟩

end Readings

/-- What the admission requires of the state that it has replayed. -/
structure Usable (repo : ConfiguredRepo) (state : RunState) : Prop where
  verdict : state.verdict ≠ none
  captured : state.candidateState ≠ none
  obliged : ∃ contract obligation, state.contract = some contract ∧
    contract.candidateState = some obligation ∧
    repo.repositoryIdentity = .ok obligation.repositoryId ∧
    repo.verifyCommitExists obligation.baseCommit = .ok ()

/-- Every check that a continuation makes on its parent passes. -/
structure Continues (env : Setting) (store : RunStore) (repo : ConfiguredRepo) (dir : List Char)
    (parentRunId conversationId : String) : Prop where
  inherits : ∃ identity obligation, repo.repositoryIdentity = .ok identity ∧
    resolveInheritedCandidateObligation env identity (store.record dir) parentRunId conversationId =
      .ok obligation
  materializes : ∃ copied,
    materializeParent env repo (store.record dir) parentRunId conversationId = .ok copied

/-- The record is that of the parent run, in the conversation of the request, and all its files are
read by their paths. -/
structure OwnRecord (dir : List Char) (parentRunId conversationId : String)
    (events : List RunEvent) : Prop where
  run : ∀ e ∈ events, e.runId.asStr = parentRunId
  conversation : ∀ contract obligation, Run.RunsUnder events contract →
    contract.candidateState = some obligation → obligation.conversationId = conversationId
  stream : Fits (join dir eventsFile)
  artifacts : ∀ a ∈ uniqueArtifacts events, Readable dir a.locator
  patch : Fits (join dir Run.candidatePatchLocator.toList)

section Continuing

variable {env : Setting} {store : RunStore} {repo : ConfiguredRepo} {dir : List Char}
  {here : Location Char} {held : List Line} {events : List RunEvent} {state : RunState} {n : UInt64}
  {parentRunId conversationId : String}

theorem OwnRecord.readable (own : OwnRecord dir parentRunId conversationId events)
    (r : ArtifactRef) (asked : Run.Asked events r) : Readable dir r.locator := by
  rcases asked with ⟨e, member, named⟩ | patch
  · rcases Run.unique_of_referenced member named with ⟨twin, unique, locator, _⟩
    rw [← locator]
    exact own.artifacts twin unique
  · rw [patch]
    exact ⟨by decide, own.patch⟩

theorem runId_of_core {artifacts : ArtifactResolver} {runId : CanonicalRunId}
    (core : Run.verifyPrefixCore env.sha256 artifacts events = .ok (state, n))
    (own : ∀ e ∈ events, e.runId = runId) : state.runId = some runId := by
  have verified := Run.verifyPrefixCore_ok_iff.mp core
  rcases Run.opened_of_run verified.2.2.1 with ⟨empty, _⟩ | ⟨first, rest, _, _, shape, opened⟩
  · exact absurd empty verified.1
  · rw [opened.runId, own first (by rw [shape]; exact List.mem_cons_self)]

/-- A receipt that the bounded replay has verified, under the contract that the admission compared. -/
structure Receipted (env : Setting) (store : RunStore) (repo : ConfiguredRepo) (here : Location Char)
    (events : List RunEvent) (state : RunState) (contract : Run.RunContract)
    (obligation : CandidateStateContractV1) (runId : CanonicalRunId) (receiptRef : ArtifactRef)
    (receipt : CandidateStateReceiptV1) : Prop where
  under : Run.RunsUnder events contract
  bound : state.contract = some contract
  obliged : contract.candidateState = some obligation
  identity : repo.repositoryIdentity = .ok obligation.repositoryId
  base : repo.verifyCommitExists obligation.baseCommit = .ok ()
  own : ∀ e ∈ events, e.runId = runId
  named : state.runId = some runId
  captured : state.candidateState = some receiptRef
  lineage : Run.CapturedLineage env.sha256 env.ext (boundedRecordDirResolver store here) contract
    runId state.commandBinding receiptRef receipt

theorem receipted_of_replay (replayed : Run.verifyPrefix env.sha256 env.ext
      (boundedRecordDirResolver store here) events = .ok (state, n)) (usable : Usable repo state) :
    ∃ contract obligation runId receiptRef receipt,
      Receipted env store repo here events state contract obligation runId receiptRef receipt := by
  rcases Run.verifyPrefix_lineage.mp replayed with ⟨core, contract, runId, under, own, captured, _⟩
  have verified := Run.verifyPrefixCore_ok_iff.mp core
  rcases usable.obliged with ⟨bound, obligation, held, obliged, identity, base⟩
  cases held.symm.trans (Run.contract_of_runsUnder verified.2.2.1 under)
  rcases Option.ne_none_iff_exists'.mp usable.captured with ⟨receiptRef, found⟩
  rcases captured receiptRef found with ⟨receipt, lineage⟩
  exact ⟨contract, obligation, runId, receiptRef, receipt, under, held, obliged, identity, base, own,
    runId_of_core core own, found, lineage⟩

theorem sealed_last (replayed : Run.verifyPrefix env.sha256 env.ext
      (boundedRecordDirResolver store here) events = .ok (state, n)) (usable : Usable repo state) :
    events.getLast?.map RunEvent.kind = some .runSealed := by
  have run := (Run.verifyPrefixCore_ok_iff.mp (Run.verifyPrefix_ok_split.mp replayed).1).2.2.1
  have sealing := Run.sealing_of_run run
  have decided : state.verdict.isSome = true := Option.isSome_iff_ne_none.mpr usable.verdict
  have last := sealing.last.mp (sealing.verdict.mp decided)
  rw [Run.kinds, List.getLast?_map] at last
  exact last

theorem continues_of_own (opened : openRecordDir store dir = .ok here)
    (holds : Holds store here held events) (replayed : Run.verifyPrefix env.sha256 env.ext
      (boundedRecordDirResolver store here) events = .ok (state, n)) (usable : Usable repo state)
    (own : OwnRecord dir parentRunId conversationId events) :
    Continues env store repo dir parentRunId conversationId := by
  rcases receipted_of_replay replayed usable with
    ⟨contract, obligation, runId, receiptRef, receipt, facts⟩
  have serves := serves_of_readable opened own.readable
  have lines := (record_events_iff opened holds).mpr ⟨own.stream, rfl⟩
  have run := (Run.verifyPrefixCore_ok_iff.mp (Run.verifyPrefix_ok_split.mp replayed).1).2.2.1
  have sourced := Run.sourced_of_run run
  have lineage := facts.lineage.served serves sourced.binding
    (sourced.captured receiptRef facts.captured)
  have load : loadVerifiedCandidateReceipt env (store.record dir) = .ok (state, receipt, events) :=
    (load_ok_iff lines holds.parsed).mpr ⟨⟨n, contract, Run.verifyPrefix_served serves replayed,
      facts.bound, (Run.verifyCandidateStateCaptured_ok_iff facts.named).mpr
        ⟨receiptRef, facts.captured, lineage⟩⟩, rfl⟩
  rcases lineage.fulfils with ⟨obligation', obligated, fulfils⟩
  cases facts.obliged.symm.trans obligated.1
  have conversation : receipt.conversationId = conversationId :=
    fulfils.conversation.trans (own.conversation contract obligation facts.under facts.obliged)
  have named : receipt.runId.asStr = parentRunId := by
    rcases facts.under with ⟨first, rest, _, shape, _⟩
    have member : first ∈ events := by rw [shape]; exact List.mem_cons_self
    rw [lineage.ownRun, ← facts.own first member]
    exact own.run first member
  have identity := facts.identity
  rw [← fulfils.repository] at identity
  have base := facts.base
  rw [← fulfils.base] at base
  rcases lineage.behind with ⟨bytes, backed, _⟩
  rcases lineage.patch with ⟨patch, patched⟩
  have receiptRead := (resolver_ok_iff.mp backed.resolves).2
  rw [backed.locator] at receiptRead
  have patchRead := (resolver_ok_iff.mp patched.resolves).2
  constructor
  · refine ⟨receipt.repositoryId, ⟨Run.candidateStateContractSchemaV1, receipt.conversationId,
      receipt.repositoryId, receipt.baseCommit, receipt.patchKind⟩, identity, ?_⟩
    simp only [resolveInheritedCandidateObligation, load, ok_bind, bind_ok_iff, refuseIf_ok_iff,
      exists_const, pure_ok_iff, ne_eq, not_not]
    exact ⟨conversation, named, trivial, trivial⟩
  · refine ⟨(receipt, bytes, patch), ?_⟩
    simp only [materializeParent, load, ok_bind, bind_ok_iff, refuseIf_ok_iff, exists_const,
      mapError_ok_iff, pure_ok_iff, ne_eq, not_not]
    exact ⟨usable.verdict, sealed_last replayed usable, named, conversation, receipt.repositoryId,
      identity, rfl, (), base, patch, patchRead, bytes, receiptRead, rfl⟩

theorem own_of_inherits (opened : openRecordDir store dir = .ok here)
    (holds : Holds store here held events) (replayed : Run.verifyPrefix env.sha256 env.ext
      (boundedRecordDirResolver store here) events = .ok (state, n))
    {identity : RepositoryIdentity} {obligation : CandidateStateContractV1}
    (inherits : resolveInheritedCandidateObligation env identity (store.record dir) parentRunId
      conversationId = .ok obligation) :
    OwnRecord dir parentRunId conversationId events := by
  simp only [resolveInheritedCandidateObligation, bind_ok_iff, refuseIf_ok_iff, exists_const,
    pure_ok_iff, ne_eq, not_not] at inherits
  rcases inherits with ⟨⟨read, receipt, stream⟩, load, conversation, named, _, rfl⟩
  have present : ∃ lines, (store.record dir).events = .lines lines := by
    cases shape : (store.record dir).events with
    | missing =>
        rw [loadVerifiedCandidateReceipt, shape] at load
        cases load
    | unreadable why =>
        rw [loadVerifiedCandidateReceipt, shape] at load
        cases load
    | lines lines => exact ⟨lines, rfl⟩
  rcases present with ⟨lines, shape⟩
  rcases (record_events_iff opened holds).mp shape with ⟨fits, rfl⟩
  rcases (load_ok_iff shape holds.parsed).mp load with ⟨⟨k, contract, verified, bound, captured⟩, rfl⟩
  rcases Run.verifyPrefix_lineage.mp verified with ⟨core, contract', runId, under, own, _⟩
  have facts := Run.verifyPrefixCore_ok_iff.mp core
  cases bound.symm.trans (Run.contract_of_runsUnder facts.2.2.1 under)
  have bounded := Run.verifyPrefixCore_ok_iff.mp (Run.verifyPrefix_ok_split.mp replayed).1
  rcases (Run.verifyCandidateStateCaptured_ok_iff (runId_of_core core own)).mp captured with
    ⟨receiptRef, _, lineage⟩
  rcases lineage.patch with ⟨patch, patched⟩
  refine ⟨?_, ?_, fits, ?_, ?_⟩
  · intro e member
    rw [own e member, ← lineage.ownRun]
    exact named
  · intro other obliged runs requires
    cases bound.symm.trans (Run.contract_of_runsUnder facts.2.2.1 runs)
    rcases lineage.fulfils with ⟨found, obligated, fulfils⟩
    cases requires.symm.trans obligated.1
    exact fulfils.conversation.symm.trans conversation
  · intro a member
    rcases bounded.2.2.2.1 a member with ⟨bytes, resolved, _⟩
    rcases facts.2.2.2.1 a member with ⟨other, reached, _⟩
    exact ((resolves_iff_readable opened resolved).mp reached).1
  · have reached := (resolver_ok_iff.mp patched.resolves).2
    rw [patched.locator] at reached
    simp only [RunStore.record, RunStore.open_, mapError_ok_iff, bind_ok_iff, refuseIf_ok_iff,
      exists_const, not_not] at reached
    exact reached.1

theorem boundedReplay_ok (replayed : boundedReplay env store here events = .ok state) :
    ∃ n, Run.verifyPrefix env.sha256 env.ext (boundedRecordDirResolver store here) events =
      .ok (state, n) := by
  simp only [boundedReplay, bind_ok_iff, pure_ok_iff] at replayed
  rcases replayed with ⟨⟨s, n⟩, verified, _, _, rfl⟩
  exact ⟨n, verified⟩

theorem usable_ok_iff : parentCandidateStateUsable env store repo parentRunId = .ok () ↔
    ∃ dir here held events state, childRecordDir env store repo parentRunId = .ok dir ∧
      openRecordDir store dir = .ok here ∧ readBoundedEventsJsonl store here = .ok held ∧
      fromJsonl held = .ok events ∧ boundedReplay env store here events = .ok state ∧
      Usable repo state := by
  simp only [parentCandidateStateUsable, bind_ok_iff, mapError_ok_iff, refuseIf_ok_iff, okOr_ok_iff,
    exists_const, Option.bind_eq_some_iff, ne_eq, not_not]
  constructor
  · rintro ⟨dir, found, here, opened, held, read, events, parsed, state, replayed, sealed,
      obligation, ⟨contract, bound, obliged⟩, captured, _, identity, rfl, base⟩
    exact ⟨dir, here, held, events, state, found, opened, read, parsed, replayed,
      sealed, captured, contract, obligation, bound, obliged, identity, base⟩
  · rintro ⟨dir, here, held, events, state, found, opened, read, parsed, replayed,
      sealed, captured, contract, obligation, bound, obliged, identity, base⟩
    exact ⟨dir, found, here, opened, held, read, events, parsed, state, replayed, sealed,
      obligation, ⟨contract, bound, obliged⟩, captured, _, identity, rfl, base⟩

theorem holds_of_read (read : readBoundedEventsJsonl store here = .ok held)
    (parsed : fromJsonl held = .ok events) : Holds store here held events := by
  simp only [readBoundedEventsJsonl, bind_ok_iff, mapError_ok_iff, refuseIf_ok_iff,
    exists_const] at read
  rcases read with ⟨bytes, below, _, lines⟩
  exact ⟨⟨bytes, below, lines⟩, parsed⟩

end Continuing

/-- A request whose parent the ledger places in its conversation, and whose record is usable. -/
structure Admits (env : Setting) (store : RunStore) (repo : ConfiguredRepo) (s : Tables)
    (conversationId parentRunId : String) : Prop where
  reference : parentReference env s conversationId parentRunId = .ok ()
  usable : parentCandidateStateUsable env store repo parentRunId = .ok ()

def Continuable (env : Setting) (store : RunStore) (repo : ConfiguredRepo)
    (conversationId parentRunId : String) : Prop :=
  ∀ dir here held events, childRecordDir env store repo parentRunId = .ok dir →
    openRecordDir store dir = .ok here → Holds store here held events →
    OwnRecord dir parentRunId conversationId events

/-- An admitted request is continued exactly when the record of the parent names the parent run and
the conversation of the request, and all its files are read by their joined paths. -/
theorem admitted_continues_iff (env : Setting) (store : RunStore) (repo : ConfiguredRepo) (s : Tables)
    (conversationId parentRunId : String) :
    (Admits env store repo s conversationId parentRunId →
      ∃ dir, childRecordDir env store repo parentRunId = .ok dir ∧
        Continues env store repo dir parentRunId conversationId) ↔
    (Admits env store repo s conversationId parentRunId →
      Continuable env store repo conversationId parentRunId) := by
  refine forall_congr' fun admits => ?_
  rcases usable_ok_iff.mp admits.usable with
    ⟨dir, here, held, events, state, found, opened, read, parsed, replay, usable⟩
  have holds := holds_of_read read parsed
  rcases boundedReplay_ok replay with ⟨n, replayed⟩
  constructor
  · rintro ⟨dir', found', continues⟩ dir'' here' held' events' found'' opened' holds'
    cases found.symm.trans found'
    cases found.symm.trans found''
    cases opened.symm.trans opened'
    rcases holds.file with ⟨bytes, below, lines⟩
    rcases holds'.file with ⟨bytes', below', lines'⟩
    cases below.symm.trans below'
    cases lines.symm.trans lines'
    cases holds.parsed.symm.trans holds'.parsed
    rcases continues.inherits with ⟨identity, obligation, _, inherits⟩
    exact own_of_inherits opened holds replayed inherits
  · intro continuable
    exact ⟨dir, found, continues_of_own opened holds replayed usable
      (continuable dir here held events found opened holds)⟩

theorem spend_ok {artifacts : ArtifactResolver} {most : Nat} {asked : List ArtifactRef}
    (small : ∀ a ∈ asked, ∃ bytes, artifacts a = .ok bytes ∧ bytes.length ≤ most) {total : Nat}
    (room : total + asked.length * most ≤ maxTotalHydratedBytes) :
    ∃ spent, asked.foldlM (spend artifacts) total = .ok spent := by
  induction asked generalizing total with
  | nil => exact ⟨total, rfl⟩
  | cons a rest ih =>
      rcases small a List.mem_cons_self with ⟨bytes, resolved, bounded⟩
      rw [List.length_cons, Nat.succ_mul] at room
      have spent : spend artifacts total a = .ok (total + bytes.length) := by
        simp only [spend, bind_ok_iff, refuseIf_ok_iff, pure_ok_iff, exists_const]
        exact ⟨bytes, resolved, by omega, rfl⟩
      rw [List.foldlM_cons, spent]
      exact ih (fun b member => small b (List.mem_cons_of_mem _ member)) (by omega)

def Small (n : Nat) (text : String) : Prop := (ByteCodec.utf8Bytes text).length ≤ n

instance (n : Nat) (text : String) : Decidable (Small n text) := Nat.decLe _ _

theorem Small.append {m n : Nat} {a b : String} (first : Small m a) (second : Small n b) :
    Small (m + n) (a ++ b) := by
  have split : ByteCodec.utf8Bytes (a ++ b) = ByteCodec.utf8Bytes a ++ ByteCodec.utf8Bytes b := by
    simp only [ByteCodec.utf8Bytes, String.toList_append, List.flatMap_append]
  rw [Small, split, List.length_append]
  exact Nat.add_le_add first second

theorem Small.quoted {n : Nat} {a : String} (small : Small n a) :
    Small (1 + n + 1) (CrashSample.quoted a) :=
  have quote : Small 1 "\"" := by decide +kernel
  (quote.append small).append quote

theorem small_digest (d : Run.Digest256) : Small 64 d.asStr := by
  have canonical := d.canonical
  simp only [Run.isCanonicalHex, Bool.and_eq_true, beq_iff_eq] at canonical
  exact canonical.1.le

theorem length_uniqueArtifacts (events : List RunEvent) :
    (uniqueArtifacts events).length ≤
      (events.flatMap fun event => Run.referencedArtifacts event.kind).length := by
  have grows : ∀ (named : List ArtifactRef) (kept : Finset (String × String) × List ArtifactRef),
      (named.foldl Run.keepUnique kept).2.length ≤ kept.2.length + named.length := by
    intro named
    induction named with
    | nil => exact fun kept => le_rfl
    | cons a rest ih =>
        intro kept
        have later := ih (Run.keepUnique kept a)
        have step : (Run.keepUnique kept a).2.length ≤ kept.2.length + 1 := by
          unfold Run.keepUnique
          split <;> simp
        rw [List.foldl_cons, List.length_cons]
        omega
  have all := grows (events.flatMap fun event => Run.referencedArtifacts event.kind) (∅, [])
  rw [Run.uniqueArtifacts_eq]
  simpa using all

namespace AdmissionSample

open CrashSample (parentReceipt patch setting writeReceipt)

noncomputable def events : List RunEvent :=
  Run.mintStream Run.standardSha256 CrashSample.parentRunId 0 CrashSample.parentKinds

noncomputable def held : List Line := events.map .event

theorem parsed : fromJsonl held = .ok events := parseFrom_all _ events 0

def text : List UInt8 :=
  ["run_started", "agent_started", "agent_exited", "patch_captured", "candidate_state_captured",
    "run_sealed"].flatMap fun type =>
      ByteCodec.utf8Bytes ("\x7b\"run_id\":\"run-1\",\"type\":\"" ++ type ++ "\"\x7d\n")

noncomputable def readers : Readers where
  lines bytes := if bytes = text then .ok held else .error "not the record"
  ledgerBinding _ := .error "not a binding"
  commandBinding _ := .error "not a binding"

def directory : Location Char := ["runs".toList, "target".toList, "run-2".toList]

/-- The files of `run-1`, in the directory of `run-2`. -/
noncomputable def table : List (Location Char × FileTree.Node Char) :=
  [([], .dir), (["runs".toList], .dir), (["runs".toList, "target".toList], .dir), (directory, .dir),
    (directory ++ [eventsFile], .file text 0o644),
    (directory ++ ["task.md".toList], .file [] 0o644),
    (directory ++ ["diff.patch".toList], .file patch 0o644),
    (directory ++ [Run.candidatePatchLocator.toList], .file patch 0o644),
    (directory ++ [Run.candidateStateReceiptLocator.toList],
      .file (writeReceipt parentReceipt) 0o644)]

noncomputable def store : RunStore where
  files here := (table.find? fun entry => entry.1 = here).map Prod.snd
  cwd := []
  runsDir := "runs"
  readers := readers

def repo : ConfiguredRepo where
  childTarget := .ok "target"
  repositoryIdentity := .ok CrashSample.repository
  verifyCommitExists commit := if commit = "base" then .ok () else .error "no such commit"

noncomputable def ledger : Tables :=
  Ledger.run setting.sha256 setting.serde .empty
    [.createConversation none "conversation-1" ⟨0, "event-1"⟩,
      .createRun ⟨"conversation-1", none, "claude", "implementer"⟩ none "run-2" ⟨1, "event-2"⟩]

theorem referenced : parentReference setting ledger "conversation-1" "run-2" = .ok () := by
  decide +kernel

theorem opened : openRecordDir store "runs/target/run-2".toList = .ok directory := by
  refine openRecordDir_ok_iff.mpr ⟨by decide, rfl, rfl⟩

theorem file : openBelow store.files directory [eventsFile] = .ok text := by
  rfl

theorem lines : store.readers.lines text = .ok held := by
  simp only [store, readers, if_true]

theorem below {locator : String} {bytes : List UInt8}
    (read : CrashSample.parent.read locator = .ok bytes) :
    openBelow store.files directory (names (parts locator.toList)) = .ok bytes := by
  simp only [CrashSample.parent] at read
  split_ifs at read with task diff receipt
  · cases read
    rw [task]
    rfl
  · cases read
    rcases diff with rfl | rfl <;> rfl
  · cases read
    rw [receipt]
    rfl

theorem small_tail : ∃ n, n ≤ 800 ∧ Small n (CrashSample.receiptTail parentReceipt) := by
  have conversation : Small 100 (",\"conversation_id\":" ++
      CrashSample.quoted parentReceipt.conversationId ++ ",\"parent_run_id\":" ++ "null" ++
      ",\"candidate_tree_oid\":") := by decide +kernel
  have tree : Small 10 (CrashSample.quoted parentReceipt.candidateTreeOid) := by decide +kernel
  have kind : Small 100 ",\"patch_kind\":\"git_binary_cumulative_patch_v1\"" := by decide +kernel
  have opens : Small 100 ",\"patch\":\x7b\"kind\":\"candidate_patch\",\"locator\":" := by
    decide +kernel
  have locator : Small 100 (CrashSample.quoted parentReceipt.patch.locator) := by decide +kernel
  have label : Small 100 ",\"digest\":" := by decide +kernel
  have closes : Small 10 "\x7d\x7d" := by decide +kernel
  have digest := (small_digest parentReceipt.patch.digest).quoted
  exact ⟨_, by norm_num, ((((((conversation.append tree).append kind).append opens).append
    locator).append label).append digest).append closes⟩

theorem small_receipt : (writeReceipt parentReceipt).length ≤ 2000 := by
  rcases small_tail with ⟨n, bounded, tail⟩
  have front : Small 1000 (CrashSample.receiptHead parentReceipt.schema parentReceipt.repositoryId
      parentReceipt.baseCommit) := by decide +kernel
  have run : Small 20 (CrashSample.quoted parentReceipt.runId.asStr) := by decide +kernel
  have whole := front.append (run.append tail)
  unfold CrashSample.writeReceipt
  exact le_trans whole (by omega)

theorem small_read {locator : String} {bytes : List UInt8}
    (read : CrashSample.parent.read locator = .ok bytes) : bytes.length ≤ 2000 := by
  have receipt := small_receipt
  simp only [CrashSample.parent] at read
  split_ifs at read
  · cases read
    exact Nat.zero_le _
  · cases read
    exact Nat.le_of_ble_eq_true rfl
  · cases read
    exact receipt

theorem resolves {r : ArtifactRef} {bytes : List UInt8}
    (resolved : recordDirResolver CrashSample.parent r = .ok bytes) :
    boundedRecordDirResolver store directory r = .ok bytes ∧ bytes.length ≤ 2000 := by
  rcases resolver_ok_iff.mp resolved with ⟨inside, read⟩
  have small := small_read read
  simp only [boundedRecordDirResolver, bind_ok_iff, refuseIf_ok_iff, exists_const, mapError_ok_iff,
    pure_ok_iff, Bool.not_eq_false]
  exact ⟨⟨inside, bytes, below read, by rw [maxArtifactBytes]; omega, rfl⟩, small⟩

noncomputable def receiptRef : ArtifactRef :=
  artifact setting .candidateState Run.candidateStateReceiptLocator (writeReceipt parentReceipt)

/-- The replay of what `run-1` has left. -/
structure Replayed (s : RunState) (n : UInt64) : Prop where
  verified : Run.verifyPrefix setting.sha256 setting.ext (boundedRecordDirResolver store directory)
    events = .ok (s, n)
  verdict : s.verdict ≠ none
  contract : s.contract = some CrashSample.contract
  unbound : s.commandBinding = none
  unmaterialized : s.candidateMaterialized = none
  captured : s.candidateState = some receiptRef
  receipt : Run.verifyCandidateStateCaptured setting.sha256 setting.ext
    (boundedRecordDirResolver store directory) s CrashSample.contract = .ok parentReceipt

theorem kinds_events : Run.kinds events = CrashSample.parentKinds ∧
    ∀ e ∈ events, e.runId = CrashSample.parentRunId := by
  rcases CrashSample.parent_folded with ⟨t, folded, _, named, _⟩
  rcases minted_core folded (by decide) named (fun _ => CrashSample.parent_artifacts) with
    ⟨_, _, _, _, listed, own⟩
  exact ⟨listed, own⟩

theorem replayed : ∃ s n, Replayed s n := by
  rcases CrashSample.parent_folded with
    ⟨t, folded, closed, named, bound, unbound, unmaterialized, captured⟩
  rcases minted_core folded (by decide) named (fun _ => CrashSample.parent_artifacts) with
    ⟨s, n, core, agrees, listed, own⟩
  have same : s.verdict = t.verdict ∧ s.runId = t.runId ∧ s.contract = t.contract ∧
      s.commandBinding = t.commandBinding ∧ s.candidateMaterialized = t.candidateMaterialized ∧
      s.candidateState = t.candidateState := by
    rw [agrees]
    exact ⟨rfl, rfl, rfl, rfl, rfl, rfl⟩
  rw [named, bound, unbound, unmaterialized, captured] at same
  rcases same with ⟨verdict, runId, bound, unbound, unmaterialized, captured⟩
  have serves : Serves events (recordDirResolver CrashSample.parent)
      (boundedRecordDirResolver store directory) := fun r bytes _ read => (resolves read).1
  have sourced := Run.sourced_of_run (Run.verifyPrefixCore_ok_iff.mp core).2.2.1
  have lineage := (CrashSample.parent_lineage unbound).served serves sourced.binding
    (sourced.captured _ captured)
  refine ⟨s, n, ?_, ?_, bound, unbound, unmaterialized, captured, ?_⟩
  · refine Run.verifyPrefix_lineage.mpr ⟨Run.verifyPrefixCore_served serves core,
      CrashSample.contract, CrashSample.parentRunId, Run.runsUnder_of_kinds listed, own, ?_, ?_⟩
    · intro receiptRef held
      cases captured.symm.trans held
      exact ⟨parentReceipt, lineage⟩
    · intro mat held
      rw [unmaterialized] at held
      cases held
  · rw [verdict]
    exact closed
  · exact (Run.verifyCandidateStateCaptured_ok_iff runId).mpr ⟨_, captured, lineage⟩

theorem within_budget {s : RunState} {n : UInt64} (replayed : Replayed s n) :
    boundedReplay setting store directory events = .ok s := by
  have few : (uniqueArtifacts events).length ≤ 3 := by
    refine le_trans (length_uniqueArtifacts events) (le_of_eq ?_)
    have listed := congrArg (List.flatMap Run.referencedArtifacts) kinds_events.1
    rw [Run.kinds, List.flatMap_map] at listed
    rw [listed]
    rfl
  have asked : hydrated setting (boundedRecordDirResolver store directory) events s =
      uniqueArtifacts events ++ [receiptRef, parentReceipt.patch] := by
    simp only [hydrated, replayed.captured, replayed.contract, replayed.receipt, replayed.unbound,
      replayed.unmaterialized, Option.toList_none, List.append_nil]
    rfl
  have small : ∀ a ∈ uniqueArtifacts events ++ [receiptRef, parentReceipt.patch],
      ∃ bytes, boundedRecordDirResolver store directory a = .ok bytes ∧ bytes.length ≤ 2000 := by
    intro a member
    rcases List.mem_append.mp member with unique | late
    · rcases Run.mem_uniqueArtifacts unique with ⟨e, among, named⟩
      have listed : e.kind ∈ CrashSample.parentKinds := by
        rw [← kinds_events.1]
        exact Run.mem_kinds.mpr ⟨e, among, rfl⟩
      rcases CrashSample.parent_artifacts listed a named with ⟨bytes, read, _⟩
      exact ⟨bytes, resolves read⟩
    · rcases List.mem_pair.mp late with rfl | rfl
      · exact ⟨_, resolves (resolver_ok_iff.mpr ⟨by decide, rfl⟩)⟩
      · exact ⟨_, resolves (resolver_ok_iff.mpr ⟨by decide, rfl⟩)⟩
  have room : 0 + (uniqueArtifacts events ++ [receiptRef, parentReceipt.patch]).length * 2000 ≤
      maxTotalHydratedBytes := by
    have two : [receiptRef, parentReceipt.patch].length = 2 := rfl
    have most : maxTotalHydratedBytes = 134217728 := by decide
    simp only [List.length_append, two, most]
    generalize (uniqueArtifacts events).length = unique at few
    omega
  rcases spend_ok small room with ⟨spent, budget⟩
  simp only [boundedReplay, bind_ok_iff, mapError_ok_iff, pure_ok_iff]
  exact ⟨(s, n), replayed.verified, spent, by rw [asked]; exact budget, rfl⟩

theorem found : childRecordDir setting store repo "run-2" = .ok "runs/target/run-2".toList := by
  decide +kernel

theorem admitted : Admits setting store repo ledger "conversation-1" "run-2" := by
  rcases replayed with ⟨s, n, facts⟩
  refine ⟨referenced, usable_ok_iff.mpr ⟨"runs/target/run-2".toList, directory, held, events, s,
    found, opened, ?_, parsed, within_budget facts, facts.verdict, ?_,
    CrashSample.contract, CrashSample.obligation, facts.contract, rfl, rfl, rfl⟩⟩
  · simp only [readBoundedEventsJsonl, bind_ok_iff, mapError_ok_iff, refuseIf_ok_iff, exists_const]
    exact ⟨text, file, by decide +kernel, lines⟩
  · rw [facts.captured]
    exact nofun

end AdmissionSample

/-- The record of another run is admitted, and its continuation refuses it. -/
theorem foreign_record_admitted : ∃ env store repo s conversationId parentRunId,
    Admits env store repo s conversationId parentRunId ∧
      ¬ ∃ dir, childRecordDir env store repo parentRunId = .ok dir ∧
        Continues env store repo dir parentRunId conversationId := by
  refine ⟨_, _, _, _, _, _, AdmissionSample.admitted, ?_⟩
  rintro ⟨dir, located, continues⟩
  cases AdmissionSample.found.symm.trans located
  rcases AdmissionSample.replayed with ⟨s, n, facts⟩
  rcases continues.inherits with ⟨identity, obligation, _, inherits⟩
  have own := own_of_inherits AdmissionSample.opened
    ⟨⟨AdmissionSample.text, AdmissionSample.file, AdmissionSample.lines⟩, AdmissionSample.parsed⟩
    facts.verified inherits
  rcases Run.verifyPrefixCore_ok_iff.mp (Run.verifyPrefix_ok_split.mp facts.verified).1 with
    ⟨present, _⟩
  rcases List.exists_mem_of_ne_nil _ present with ⟨e, member⟩
  have named := own.run e member
  rw [AdmissionSample.kinds_events.2 e member] at named
  exact absurd named (by decide)

end O7Formal.Dispatch
