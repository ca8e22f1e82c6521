import O7Formal.Dispatch.CrashPoints

/-! What ties a record to its command: the identity checks read the file `command_binding.json`, and
the verified stream may or may not have committed to its bytes. -/

namespace O7Formal.Dispatch

open Fallible Program
open O7Formal.Ledger (Command)
open O7Formal.Run (Digest256 RunEvent RunState Sha256 commandBindingLocator)

inductive FileState where
  | missing
  | unreadable (why : String)
  | held (bytes : List UInt8)

structure RecordFiles where
  base : String
  events : EventsFile
  file : String → FileState

structure Sidecars where
  readLedger : List UInt8 → Except String LedgerBinding
  readCommand : List UInt8 → Except String CommandBinding

def FileState.read : FileState → Except String (List UInt8)
  | .missing => .error "No such file or directory"
  | .unreadable why => .error why
  | .held bytes => .ok bytes

def FileState.sidecar {α : Type} (read : List UInt8 → Except String α) :
    FileState → Except String (Option α)
  | .missing => .ok none
  | .unreadable why => .error why
  | .held bytes => (read bytes).map some

def RecordFiles.dir (serde : Sidecars) (files : RecordFiles) : RecordDir where
  base := files.base
  events := files.events
  ledgerBinding := (files.file "ledger_binding.json").sidecar serde.readLedger
  commandBinding := (files.file commandBindingLocator).sidecar serde.readCommand
  read locator := (files.file locator).read

inductive Identified (env : Setting) (serde : Sidecars) (files : RecordFiles) : Prop where
  | sealed (runId : RunId) (command : Command) (found : classifyCommandChild env.sha256 env.ext
      (files.dir serde) runId command = .validSealed)
  | ambiguous (runId : RunId) (command : Command) (progress : DispatchProgress)
      (found : classifyCommandChild env.sha256 env.ext (files.dir serde) runId command =
        .validUnsealedDispatchAmbiguous progress)
  | caughtUp (runId : RunId) (expected : ExpectedIdentity) (trace : Trace Call Call.Answer)
      (receipt : CatchUpReceipt)
      (asked : ∀ dir, answeredIn trace (.record runId) dir → dir = files.dir serde)
      (returned : After (catchUpRecord env runId expected).run trace (pure (.ok receipt)))

/-- An event of the stream has the digest of the file that the checks were made on. -/
def Committed (sha256 : Sha256) (files : RecordFiles) : Prop :=
  ∃ bytes event binding, files.file commandBindingLocator = .held bytes ∧
    event ∈ files.events.stream ∧ event.kind = .commandBindingCaptured binding ∧
    binding.digest = Digest256.ofBytes sha256 bytes

/-- An event of the stream names the file that the checks were made on, or one with the same
bytes. -/
def Names (files : RecordFiles) : Prop :=
  ∃ event binding, event ∈ files.events.stream ∧ event.kind = .commandBindingCaptured binding ∧
    (binding.locator = commandBindingLocator ∨
      files.file binding.locator = files.file commandBindingLocator)

/-- No file that the stream names as its binding has the digest of the one that the checks were made
on by collision. -/
def BindingsApart (sha256 : Sha256) (files : RecordFiles) : Prop :=
  ∀ event binding copy bytes, event ∈ files.events.stream →
    event.kind = .commandBindingCaptured binding → files.file binding.locator = .held copy →
    files.file commandBindingLocator = .held bytes → sha256 copy = sha256 bytes → copy = bytes

section Identity

variable {env : Setting} {serde : Sidecars} {files : RecordFiles} {runId : RunId}
  {command : Command}

theorem read_ok_iff {file : FileState} {bytes : List UInt8} :
    file.read = .ok bytes ↔ file = .held bytes := by
  cases file <;> simp [FileState.read]

theorem sidecar_some {α : Type} {read : List UInt8 → Except String α} {file : FileState} {a : α}
    (found : file.sidecar read = .ok (some a)) : ∃ bytes, file = .held bytes := by
  cases file with
  | missing => cases found
  | unreadable why => cases found
  | held bytes => exact ⟨bytes, rfl⟩

/-- The record behind an identity: its stream is verified and its binding is a file. -/
structure Backing (env : Setting) (serde : Sidecars) (files : RecordFiles) : Prop where
  verified : ∃ s n, Run.verifyPrefix env.sha256 env.ext (recordDirResolver (files.dir serde))
    files.events.stream = .ok (s, n)
  binding : ∃ bytes, files.file commandBindingLocator = .held bytes

theorem stream_parsed {describe : String → String → String} {held : List Line} {i : Nat}
    {events : List RunEvent} (parsed : parseFrom describe i held = .ok events) :
    (EventsFile.lines held).stream = events := by
  induction held generalizing i events with
  | nil =>
      cases parsed
      rfl
  | cons line rest ih =>
      cases line with
      | blank => exact ih parsed
      | event first =>
          rcases map_ok_iff.mp parsed with ⟨later, parsed', rfl⟩
          exact congrArg (first :: ·) (ih parsed')
      | malformed why => cases parsed

theorem backing_of_identity {state : RunState} {n : UInt64}
    (verified : Run.verifyPrefix env.sha256 env.ext (recordDirResolver (files.dir serde))
      files.events.stream = .ok (state, n))
    (checked : checkIdentity env.sha256 (files.dir serde) runId command state = .ok ()) :
    Backing env serde files := by
  refine ⟨⟨state, n, verified⟩, ?_⟩
  simp only [checkIdentity, bind_ok_iff] at checked
  rcases checked with ⟨_, _, _, _, binding, found, _⟩
  unfold required at found
  split at found
  · exact sidecar_some (by assumption)
  · cases found
  · cases found

theorem backing_of_classified {found : ChildRecordState}
    (classified : classifyCommandChild env.sha256 env.ext (files.dir serde) runId command = found)
    (present : found ≠ .absent) (valid : ∀ why, found ≠ .invalid why) :
    Backing env serde files := by
  unfold classifyCommandChild at classified
  split at classified
  · exact absurd classified.symm present
  · exact absurd classified.symm (valid _)
  · rename_i held file
    have lines : files.events = .lines held := file
    split at classified
    · exact absurd classified.symm (valid _)
    · exact absurd classified.symm present
    · rename_i first rest parsed
      rw [← stream_parsed parsed, ← lines] at classified
      unfold classifyStream at classified
      split at classified
      · exact absurd classified.symm (valid _)
      · split at classified
        · exact absurd classified.symm (valid _)
        · rename_i state n verified
          split at classified
          · exact absurd classified.symm (valid _)
          · exact backing_of_identity verified (by assumption)

theorem returned_ofExcept {ε α : Type} {x : Except ε α} {trace : Trace Call Call.Answer} {a : α}
    (after : After (ofExcept x).run trace (pure (.ok a))) : x = .ok a :=
  (returned_pure after).2

theorem backing_of_caughtUp {expected : ExpectedIdentity} {trace : Trace Call Call.Answer}
    {receipt : CatchUpReceipt}
    (asked : ∀ dir, answeredIn trace (.record runId) dir → dir = files.dir serde)
    (after : After (catchUpRecord env runId expected).run trace (pure (.ok receipt))) :
    Backing env serde files := by
  rcases returned_try after with ⟨dir, t₁, t₂, rfl, recorded, after⟩
  have answered := returned_perform (returned_lift recorded)
  have same : dir = files.dir serde := asked dir (by simp [answeredIn, answered])
  subst same
  rcases returned_try after with ⟨⟨stream, state⟩, _, _, rfl, read, after⟩
  rcases returned_try after with ⟨first, _, _, rfl, _, after⟩
  rcases returned_try after with ⟨binding, _, _, rfl, _, after⟩
  rcases returned_try after with ⟨_, _, _, rfl, _, after⟩
  rcases returned_try after with ⟨existing, _, _, rfl, _, after⟩
  rcases returned_try after with ⟨_, _, _, rfl, _, after⟩
  rcases returned_try after with ⟨target, _, _, rfl, _, after⟩
  rcases returned_try after with ⟨_, _, _, rfl, checked, _⟩
  have streamed := returned_ofExcept read
  have expects := returned_ofExcept checked
  refine ⟨?_, ?_⟩
  · unfold readStream at streamed
    split at streamed
    · cases streamed
    · cases streamed
    · rename_i held file
      have lines : files.events = .lines held := file
      simp only [bind_ok_iff, mapError_ok_iff, pure_ok_iff, Prod.mk.injEq] at streamed
      rcases streamed with ⟨parsed, parses, ⟨s, n⟩, verified, rfl, rfl⟩
      rw [lines, stream_parsed parses]
      exact ⟨s, n, verified⟩
  · simp only [checkExpected, bind_ok_iff, mapError_ok_iff, okOr_ok_iff] at expects
    rcases expects with ⟨found, read, cb, rfl, _⟩
    exact sidecar_some read

theorem backing_of_identified (identified : Identified env serde files) :
    Backing env serde files := by
  cases identified with
  | sealed runId command found => exact backing_of_classified found nofun fun _ => nofun
  | ambiguous runId command progress found =>
      exact backing_of_classified found nofun fun _ => nofun
  | caughtUp runId expected trace receipt asked returned => exact backing_of_caughtUp asked returned

theorem digest_of_named {s : RunState} {n : UInt64}
    (verified : Run.verifyPrefix env.sha256 env.ext (recordDirResolver (files.dir serde))
      files.events.stream = .ok (s, n)) {event : RunEvent} {binding : Run.ArtifactRef}
    (member : event ∈ files.events.stream) (kind : event.kind = .commandBindingCaptured binding) :
    ∃ copy, files.file binding.locator = .held copy ∧
      Digest256.ofBytes env.sha256 copy = binding.digest := by
  have core := Run.verifyPrefixCore_ok_iff.mp (Run.verifyPrefix_ok_split.mp verified).1
  have named : binding ∈ Run.referencedArtifacts event.kind := by
    rw [kind]
    exact List.mem_singleton_self binding
  rcases Run.unique_of_referenced member named with ⟨twin, unique, locator, digest⟩
  rcases core.2.2.2.1 twin unique with ⟨copy, resolved, hashed⟩
  have read := (resolver_ok_iff.mp resolved).2
  rw [locator] at read
  exact ⟨copy, read_ok_iff.mp read, hashed.trans digest⟩

theorem committed_of_names (identified : Identified env serde files) (names : Names files) :
    Committed env.sha256 files := by
  rcases backing_of_identified identified with ⟨⟨s, n, verified⟩, bytes, held⟩
  rcases names with ⟨event, binding, member, kind, same⟩
  have named : files.file binding.locator = .held bytes := by
    rcases same with locator | alike
    · rw [locator, held]
    · rw [alike, held]
  rcases digest_of_named verified member kind with ⟨copy, read, hashed⟩
  cases named.symm.trans read
  exact ⟨bytes, event, binding, held, member, kind, hashed.symm⟩

theorem names_of_committed (identified : Identified env serde files)
    (apart : BindingsApart env.sha256 files) (committed : Committed env.sha256 files) :
    Names files := by
  rcases (backing_of_identified identified).verified with ⟨s, n, verified⟩
  rcases committed with ⟨bytes, event, binding, held, member, kind, digest⟩
  rcases digest_of_named verified member kind with ⟨copy, named, hashed⟩
  have same : copy = bytes := by
    apply apart event binding copy bytes member kind named held
    exact Digest256.fromSha256_injective (hashed.trans digest)
  exact ⟨event, binding, member, kind, .inr (by rw [named, held, same])⟩

theorem names_of_materialized (identified : Identified env serde files) {event : RunEvent}
    {sourceRunId : CanonicalRunId} {receipt patch : Run.ArtifactRef} {treeOid : String}
    (member : event ∈ files.events.stream)
    (kind : event.kind = .candidateStateMaterialized sourceRunId receipt patch treeOid) :
    Names files := by
  rcases (backing_of_identified identified).verified with ⟨s, n, verified⟩
  rcases Run.verifyPrefix_lineage.mp verified with ⟨core, contract, runId, _, _, _, lineage⟩
  have reduced := (Run.verifyPrefixCore_ok_iff.mp core).2.2.1
  have filled : s.candidateMaterialized ≠ none := by
    apply (Run.records_materialization.filled_iff reduced).mpr
    exact ⟨event, member, _, congrArg Run.RunEventKind.asMaterialization kind⟩
  rcases Option.ne_none_iff_exists'.mp filled with ⟨mat, held⟩
  rcases lineage mat held with ⟨_, _, proven⟩
  rcases proven.bound with ⟨bindingRef, facts, bound, ⟨_, backed, _⟩, _⟩
  have carried : bindingRef ∈ s.commandBinding.toList := by simp [bound]
  rw [Run.records_commandBinding.of_run reduced, Run.mem_carried] at carried
  rcases carried with ⟨binds, among, same⟩
  exact ⟨binds, bindingRef, among, Run.asCommandBinding_eq_some.mp same, .inl backed.locator⟩

/-- An identified record is committed to its binding exactly when an event of its stream names
`command_binding.json` or a file with the same bytes; with a materialized candidate it always is. -/
theorem committed_iff_names (identified : Identified env serde files)
    (apart : BindingsApart env.sha256 files) :
    (Committed env.sha256 files ↔ Names files) ∧
      ((∃ event ∈ files.events.stream, ∃ sourceRunId receipt patch treeOid,
          event.kind = .candidateStateMaterialized sourceRunId receipt patch treeOid) →
        Committed env.sha256 files) := by
  refine ⟨⟨names_of_committed identified apart, committed_of_names identified⟩, ?_⟩
  rintro ⟨event, member, _, _, _, _, kind⟩
  exact committed_of_names identified (names_of_materialized identified member kind)

end Identity

/-! ### A record that nothing ties to its command -/

namespace BindingSample

open CrashSample (args command childRunId parentRunId writeBinding writers)

def ledgerBinding : LedgerBinding :=
  ⟨1, "run-2", "conversation-1", "claude", "implementer", some "run-1"⟩

noncomputable def commandBinding : CommandBinding := ownBinding writers args parentRunId

/-- The `CommandBindingCaptured` events of a stream that has one, and of one that has none. -/
noncomputable def captures (tied : Bool) : List Run.RunEventKind :=
  if tied = true then [.commandBindingCaptured ⟨.commandBinding, commandBindingLocator,
    .ofBytes writers.sha256 (writeBinding commandBinding)⟩] else []

noncomputable def payloads (tied : Bool) : List Run.RunEventKind :=
  .runStarted Sample.contract (taskArtifact writers args) :: (captures tied ++ [.runSealed])

@[irreducible] def ledgerBytes : List UInt8 :=
  ByteCodec.utf8Bytes ("\x7b\"schema\":1,\"run_id\":\"run-2\",\"conversation_id\":" ++
    "\"conversation-1\",\"agent\":\"claude\",\"role\":\"implementer\"," ++
    "\"parent_run_id\":\"run-1\"\x7d")

noncomputable def serde : Sidecars where
  readLedger bytes := if bytes = ledgerBytes then .ok ledgerBinding else .error "ledger binding"
  readCommand bytes :=
    if bytes = writeBinding commandBinding then .ok commandBinding else .error "command binding"

noncomputable def files (tied : Bool) : RecordFiles where
  base := "records/run-2"
  events := .lines ((Run.mintStream writers.sha256 childRunId 0 (payloads tied)).map .event)
  file locator :=
    if locator = "task.md" then .held (ByteCodec.utf8Bytes args.command)
    else if locator = "ledger_binding.json" then .held ledgerBytes
    else if locator = commandBindingLocator then .held (writeBinding commandBinding)
    else .missing

theorem folded (tied : Bool) : ∃ t, Run.foldPayloads childRunId .initial (payloads tied) = .ok t ∧
    t.verdict ≠ none ∧ t.runId = some childRunId ∧ t.candidateState = none ∧
    t.candidateMaterialized = none ∧ t.task = some (taskArtifact writers args) := by
  cases tied
  · exact ⟨_, rfl, Option.some_ne_none _, rfl, rfl, rfl, rfl⟩
  · exact ⟨_, rfl, Option.some_ne_none _, rfl, rfl, rfl, rfl⟩

theorem bounded (tied : Bool) : (payloads tied).length < 2 ^ 64 := by
  cases tied <;> decide

theorem reads_ledger (tied : Bool) : ((files tied).dir serde).ledgerBinding = .ok (some ledgerBinding) := by
  have read : serde.readLedger ledgerBytes = .ok ledgerBinding := by
    simp only [serde, if_true]
  exact congrArg (Except.map some) read

theorem reads_command (tied : Bool) : ((files tied).dir serde).commandBinding = .ok (some commandBinding) := by
  have read : serde.readCommand (writeBinding commandBinding) = .ok commandBinding := by
    simp only [serde, if_true]
  exact congrArg (Except.map some) read

theorem identified : checkLedgerBinding ledgerBinding args.runId command = .ok () ∧
    checkCommandBinding writers.sha256 commandBinding args.runId command = .ok () := by
  constructor
  · decide
  · simp only [checkCommandBinding, bind_ok_iff, refuseIf_ok_iff, exists_const]
    decide

theorem artifacts {tied : Bool} {kind : Run.RunEventKind} (listed : kind ∈ payloads tied)
    (r : Run.ArtifactRef) (named : r ∈ Run.referencedArtifacts kind) : ∃ bytes,
    recordDirResolver ((files tied).dir serde) r = .ok bytes ∧
      Digest256.ofBytes writers.sha256 bytes = r.digest := by
  simp only [payloads, List.mem_cons, List.mem_append, List.not_mem_nil, or_false] at listed
  rcases listed with same | captured | same
  · rw [same] at named
    cases List.mem_singleton.mp named
    exact ⟨ByteCodec.utf8Bytes args.command, resolver_ok_iff.mpr ⟨by decide, rfl⟩, rfl⟩
  · cases tied with
    | false => cases captured
    | true =>
        rw [List.mem_singleton.mp captured] at named
        cases List.mem_singleton.mp named
        exact ⟨writeBinding commandBinding, resolver_ok_iff.mpr ⟨by decide, rfl⟩, rfl⟩
  · rw [same] at named
    cases named

theorem task_checked {tied : Bool} {s : RunState} (task : s.task = some (taskArtifact writers args)) :
    checkTask writers.sha256 ((files tied).dir serde) s command = .ok () := by
  have read : ((files tied).dir serde).read (taskArtifact writers args).locator =
      .ok (ByteCodec.utf8Bytes args.command) := rfl
  simp only [checkTask, task, read, bind_ok_iff, refuseIf_ok_iff, mapError_ok_iff, exists_const]
  exact ⟨fun other => other rfl, _, rfl, fun other => other rfl⟩

theorem found (tied : Bool) : classifyCommandChild writers.sha256 writers.ext
    ((files tied).dir serde) args.runId command = .validSealed := by
  rcases folded tied with ⟨t, folded, closed, named, uncaptured, unmaterialized, task⟩
  rcases minted_core folded (bounded tied) named (fun _ => artifacts) with
    ⟨s, n, core, agrees, listed, own⟩
  have same : s.verdict = t.verdict ∧ s.candidateState = t.candidateState ∧
      s.candidateMaterialized = t.candidateMaterialized ∧ s.task = t.task := by
    rw [agrees]
    exact ⟨rfl, rfl, rfl, rfl⟩
  rw [uncaptured, unmaterialized, task] at same
  rcases same with ⟨verdict, uncaptured, unmaterialized, task⟩
  have verified : Run.verifyPrefix writers.sha256 writers.ext (recordDirResolver
      ((files tied).dir serde)) (Run.mintStream writers.sha256 childRunId 0 (payloads tied)) = .ok (s, n) := by
    refine Run.verifyPrefix_ok_split.mpr ⟨core, ?_⟩
    rw [uncaptured, unmaterialized]
    exact fun never => absurd never (by simp)
  have identity : checkIdentity writers.sha256 ((files tied).dir serde) args.runId command s =
      .ok () :=
    checkIdentity_ok (reads_ledger tied) (reads_command tied) identified.1 identified.2 (task_checked task)
  rcases List.map_eq_cons_iff.mp listed with ⟨first, rest, shape, _⟩
  have events : ((files tied).dir serde).events = .lines ((first :: rest).map .event) := by
    rw [← shape]
    rfl
  rw [shape] at verified own
  have mine : first.runId.asStr = args.runId := congrArg Run.Id.asStr (own first List.mem_cons_self)
  rw [classifyCommandChild_verified events mine verified identity, classifyState,
    if_pos (verdict ▸ closed)]

theorem stream_kinds (tied : Bool) : Run.kinds (files tied).events.stream = payloads tied := by
  rcases folded tied with ⟨t, folded, _⟩
  rcases Run.mintStream_of_fold writers.sha256 0 folded (bounded tied) with ⟨_, _, _, listed⟩
  rw [← listed, files, stream_parsed (parseFrom_all (fun line _ => line) _ 0)]

theorem apart : BindingsApart writers.sha256 (files true) := by
  intro event binding copy bytes member kind named held _
  have listed : event.kind ∈ payloads true := by
    rw [← stream_kinds]
    exact Run.mem_kinds.mpr ⟨event, member, rfl⟩
  rw [kind] at listed
  simp only [payloads, captures, List.mem_cons, List.mem_append, reduceCtorEq, or_false, false_or,
    if_true, List.not_mem_nil, Run.RunEventKind.commandBindingCaptured.injEq] at listed
  rw [listed] at named
  exact FileState.held.inj (named.symm.trans held)

end BindingSample

/-- A `command_binding.json` that no event commits to attaches a record to a command. -/
theorem attached_uncommitted : classifyCommandChild CrashSample.writers.sha256
      CrashSample.writers.ext ((BindingSample.files false).dir BindingSample.serde)
      CrashSample.args.runId CrashSample.command = .validSealed ∧
    ¬ Committed CrashSample.writers.sha256 (BindingSample.files false) := by
  refine ⟨BindingSample.found false, ?_⟩
  intro committed
  rcases committed with ⟨_, event, binding, _, member, kind, _⟩
  have listed : event.kind ∈ BindingSample.payloads false := by
    rw [← BindingSample.stream_kinds]
    exact Run.mem_kinds.mpr ⟨event, member, rfl⟩
  rw [kind] at listed
  simp [BindingSample.payloads, BindingSample.captures] at listed

/-- With the event that names it, the file is committed to. -/
theorem committed_iff_names_sealed :
    Committed CrashSample.writers.sha256 (BindingSample.files true) := by
  have listed : _ ∈ BindingSample.payloads true := List.mem_cons_of_mem _ List.mem_cons_self
  rw [← BindingSample.stream_kinds] at listed
  rcases Run.mem_kinds.mp listed with ⟨event, member, kind⟩
  have apart : BindingsApart CrashSample.writers.sha256 (BindingSample.files true) :=
    BindingSample.apart
  exact (@committed_iff_names CrashSample.writers BindingSample.serde (BindingSample.files true)
    (.sealed CrashSample.args.runId CrashSample.command (BindingSample.found true)) apart).1.mpr
    ⟨event, _, member, kind, .inl rfl⟩

end O7Formal.Dispatch
