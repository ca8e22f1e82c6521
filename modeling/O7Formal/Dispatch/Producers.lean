import O7Formal.Dispatch.Leavings
import O7Formal.Producers.Agreement

/-! The three producers of a stream agree: the one that builds it after the run, the live one and the
continuation. For every manifest that makes a contract the reducer accepts whatever they have minted,
and the complete streams have one verdict. -/

namespace O7Formal.Dispatch

open Fallible Program
open O7Formal.Producers (Contracted Extras GateManifest Minting Outcome agentOutcome coreKinds
  coreVerdict gateKinds gateOutcome isCore recordRun runKinds runOneStep)
open O7Formal.Run (ArtifactRef CandidateStateContractV1 EventChain RunContract RunEvent RunEventKind
  kinds)

def liveStep (step : Outcome) : GateStep :=
  let verdict := runOneStep step.1 step.2
  ⟨step.1.name, Producers.skipped step.1, gateOutcome verdict.verdict,
    if verdict.log = "" then none else some (verdict.log, step.2.combined)⟩

def Outside.observed (o : Outside) (exitCode : Option Int32) (ran : List Outcome) : Outside :=
  { o with outcome := agentOutcome exitCode, gates := ran.map liveStep }

def withObligation (contract : RunContract) (obligation : CandidateStateContractV1) :
    RunContract :=
  { contract with
    candidateState := some { obligation with schema := Run.candidateStateContractSchemaV1 } }

def EventsFile.stream : EventsFile → List RunEvent
  | .lines held => held.filterMap fun line => match line with
      | .event event => some event
      | .blank | .malformed _ => none
  | .missing | .unreadable _ => []

theorem stream_append {file : EventsFile} (readable : ∀ why, file ≠ .unreadable why)
    (event : RunEvent) : (file.append event).stream = file.stream ++ [event] := by
  cases file with
  | missing => rfl
  | unreadable why => exact absurd rfl (readable why)
  | lines held => simp [EventsFile.append, EventsFile.stream]

theorem stream_appends {events : List RunEvent} {file : EventsFile}
    (readable : ∀ why, file ≠ .unreadable why) :
    (events.foldl EventsFile.append file).stream = file.stream ++ events := by
  induction events generalizing file with
  | nil => simp
  | cons event rest ih =>
      have readable' : ∀ why, file.append event ≠ .unreadable why := by
        cases file with
        | missing => exact fun _ => nofun
        | unreadable why => exact absurd rfl (readable why)
        | lines held => exact fun _ => nofun
      rw [List.foldl_cons, ih readable', stream_append readable, List.append_assoc]
      rfl

section Kinds

variable {env : Setting} {a : ContinueArgs} {o : Outside} {exitCode : Option Int32}
  {ran : List Outcome} {contract : RunContract} {m : GateManifest}

theorem itemKinds_gate (step : Outcome) :
    itemKinds (gateItems env (liveStep step)) = gateKinds env.sha256 step := by
  cases skips : Producers.skipped step.1 with
  | true => simp [gateItems, liveStep, gateKinds, skips, itemKinds]
  | false =>
      have log : (runOneStep step.1 step.2).log = Producers.logLocator step.1 := by
        rw [Producers.runOneStep_ran skips]
      have verdict : (runOneStep step.1 step.2).verdict = step.2.verdict := by
        rw [Producers.runOneStep_ran skips]
      simp only [gateItems, liveStep, gateKinds, skips, log, verdict,
        if_neg (Producers.logLocator_ne step.1)]
      cases Run.Id.new .gate step.1.name <;> rfl

theorem itemKinds_gates (ran : List Outcome) :
    itemKinds ((ran.map liveStep).flatMap (gateItems env)) =
      ran.flatMap (gateKinds env.sha256) := by
  induction ran with
  | nil => rfl
  | cons step rest ih =>
      rw [List.map_cons, List.flatMap_cons, List.flatMap_cons, itemKinds_append, itemKinds_gate, ih]

def sessionArtifact (env : Setting) (o : Outside) : Option ArtifactRef :=
  o.sessionId.map fun _ => artifact env .providerSession "session_receipt.json" o.sessionReceipt

def candidateArtifact (env : Setting) (o : Outside) : ArtifactRef :=
  artifact env .candidateState Run.candidateStateReceiptLocator o.candidateReceipt

def diffArtifact (env : Setting) (o : Outside) : ArtifactRef :=
  artifact env .diff "diff.patch" o.diff

theorem itemKinds_finish (before : List RunEventKind) :
    itemKinds (finishItems env (o.observed exitCode ran)) = Producers.afterDispatch env.sha256
      ⟨before, sessionArtifact env o, some (candidateArtifact env o)⟩ (diffArtifact env o)
      (agentOutcome exitCode) ran := by
  have session : itemKinds (sessionItems env (o.observed exitCode ran)) =
      (sessionArtifact env o).toList.map RunEventKind.providerSessionCaptured := by
    unfold sessionItems sessionArtifact Outside.observed
    cases o.sessionId <;> rfl
  have gates : itemKinds ((o.observed exitCode ran).gates.flatMap (gateItems env)) =
      ran.flatMap (gateKinds env.sha256) := itemKinds_gates ran
  rw [finishItems, itemKinds_append, itemKinds_append, gates, itemKinds_append]
  rw [← List.singleton_append, itemKinds_append, session]
  simp only [Producers.afterDispatch, List.append_assoc]
  rfl

def liveExtras (env : Setting) (o : Outside) : Extras :=
  ⟨[], sessionArtifact env o, some (candidateArtifact env o)⟩

def continueExtras (env : Setting) (a : ContinueArgs) (o : Outside)
    (parentRunId : CanonicalRunId) : Extras :=
  ⟨[.commandBindingCaptured (artifact env .commandBinding Run.commandBindingLocator
      (env.writeBinding (ownBinding env a parentRunId))),
    .candidateStateMaterialized parentRunId
      (artifact env .candidateState Run.parentCandidateReceiptLocator o.sourceReceipt)
      (artifact env .candidatePatch Run.parentCandidatePatchLocator o.sourcePatch)
      o.materializedTreeOid], sessionArtifact env o, some (candidateArtifact env o)⟩

theorem itemKinds_live (engine : String) :
    itemKinds (liveItems env a (o.observed exitCode ran) engine contract) =
      runKinds env.sha256 (liveExtras env o) contract (taskArtifact env a) (diffArtifact env o)
        (agentOutcome exitCode) ran := by
  rw [liveItems, itemKinds_append, itemKinds_finish []]
  rfl

theorem itemKinds_continue (parentRunId : CanonicalRunId) :
    itemKinds (continueItems env a (o.observed exitCode ran) parentRunId contract) =
      runKinds env.sha256 (continueExtras env a o parentRunId) contract (taskArtifact env a)
        (diffArtifact env o) (agentOutcome exitCode) ran := by
  rw [continueItems, itemKinds_append, itemKinds_append, ← List.singleton_append,
    itemKinds_append, itemKinds_finish []]
  have nothing : itemKinds [.file (.file "meta.json" (o.observed exitCode ran).runMeta)] = [] := rfl
  rw [nothing, List.append_nil]
  rfl

theorem sessionArtifact_fits : ∀ receipt ∈ sessionArtifact env o, receipt.Fits .providerSession := by
  intro receipt member
  rcases Option.map_eq_some_iff.mp member with ⟨_, _, rfl⟩
  exact Producers.artifact_fits (by decide)

theorem liveExtras_fit : (liveExtras env o).Fit := by
  refine ⟨sessionArtifact_fits, ?_⟩
  intro receipt member
  cases member
  exact Producers.artifact_fits (by decide)

theorem continueExtras_fit (parentRunId : CanonicalRunId) :
    (continueExtras env a o parentRunId).Fit :=
  ⟨sessionArtifact_fits, liveExtras_fit.captured⟩

theorem withObligation_valid (held : Contracted m contract)
    (obligation : CandidateStateContractV1) : (withObligation contract obligation).Valid := by
  apply (held.withCandidate _).contractValid
  intro o member
  cases member
  rfl

end Kinds

/-- A run of a producer, stopped anywhere, with what its code has left to do: the stream so far is
accepted, a run that has returned is sealed, and a run that has failed was failed from outside. -/
structure Produced {α : Type} (env : Setting) (core : List RunEventKind) (verdict : Run.Verdict)
    (events : List RunEvent) (trace : Trace Call Call.Answer) (y : Code (Except Fault α))
    (final : α → Prop) : Prop where
  minting : Minting env.sha256 core verdict events
  sealed : ∀ r, y = pure (.ok r) → .runSealed ∈ kinds events ∧
    canonicalVerdict env events = .ok verdict ∧ final r
  fails : (∀ entry ∈ trace, plainAnswer entry.1 entry.2) → ∀ e, y = pure (.error e) → Outer e

section Agreement

variable {env : Setting} {a : ContinueArgs} {o : Outside} {exitCode : Option Int32}
  {ran : List Outcome} {contract : RunContract} {m : GateManifest} {rid : CanonicalRunId}
  {start : RecordDir} {applied : Bool} {α : Type} {x : Fallible Fault α}
  {trace : Trace Call Call.Answer} {y : Code (Except Fault α)} {script : List Item}
  {given : (c : Call) → c.Answer → Prop}

theorem canonicalVerdict_of_closed {core : List RunEventKind} {verdict : Run.Verdict}
    {events : List RunEvent} (minting : Minting env.sha256 core verdict events)
    (closed : .runSealed ∈ kinds events) : canonicalVerdict env events = .ok verdict := by
  rcases (minting.closed closed).2 with ⟨s, reduced, _, decided⟩
  rw [canonicalVerdict, reduced]
  simp only [decided]
  rfl

theorem stream_of_shows {dir : RecordDir} {done : List Item} {chain : EventChain}
    (shows : Shows env.sha256 rid start script dir done chain) (empty : start.events = .missing) :
    dir.events.stream = chain.out := by
  have missing : ∀ why, EventsFile.missing ≠ .unreadable why := fun _ => nofun
  rw [shows.dir, built, empty, stream_appends missing]
  rfl

/-- What one producer mints beyond the steps that all share. -/
structure Supplies (contract : RunContract) (rid : CanonicalRunId) (task diff : ArtifactRef)
    (extras : Extras) : Prop where
  prepares : Producers.Prepares rid contract task extras.before
  fit : extras.Fit
  diffFits : diff.Fits .diff
  aside : extras.before.filter isCore = []
  captured : contract.candidateState ≠ none → extras.captured ≠ none

theorem shows_minting {extras : Extras} {dir : RecordDir} {done : List Item} {chain : EventChain}
    {task diff : ArtifactRef} (shows : Shows env.sha256 rid start script dir done chain)
    (listed : itemKinds script = runKinds env.sha256 extras contract task diff
      (agentOutcome exitCode) ran)
    (held : Contracted m contract) (supplies : Supplies contract rid task diff extras)
    (steps : ran.map Prod.fst = m.gate) :
    Minting env.sha256 (coreKinds env.sha256 (agentOutcome exitCode) ran)
      (coreVerdict env.sha256 contract (agentOutcome exitCode) ran) chain.out := by
  have part : itemKinds done <+: runKinds env.sha256 extras contract task diff
      (agentOutcome exitCode) ran := by
    rw [← listed]
    exact shows.part.filterMap _
  exact Producers.minting_of_part held supplies.prepares supplies.fit supplies.diffFits steps
    supplies.aside supplies.captured shows.mints part

theorem produced_of_follows (final : α → List RunEvent → Prop) {extras : Extras}
    {task diff : ArtifactRef} {post : α → EventChain → Prop}
    (follows : Follows env.sha256 a.runId (answeredIn trace) x (.new rid) script post) (after : After x.run trace y)
    (listed : itemKinds script = runKinds env.sha256 extras contract task diff
      (agentOutcome exitCode) ran)
    (held : Contracted m contract) (supplies : Supplies contract rid task diff extras)
    (steps : ran.map Prod.fst = m.gate) (empty : start.events = .missing)
    (fits : ∀ r chain, post r chain → canonicalVerdict env chain.out =
      .ok (coreVerdict env.sha256 contract (agentOutcome exitCode) ran) → final r chain.out) :
    Produced env (coreKinds env.sha256 (agentOutcome exitCode) ran)
      (coreVerdict env.sha256 contract (agentOutcome exitCode) ran)
      (leaves a.runId applied start trace).events.stream trace y
      fun r => final r (leaves a.runId applied start trace).events.stream := by
  rcases leaves_shows start applied follows after with ⟨done, chain, shows, whole, fails⟩
  have minting := shows_minting shows listed held supplies steps
  rw [stream_of_shows shows empty]
  refine ⟨minting, ?_, ?_⟩
  · intro r returned
    rcases whole r returned with ⟨all, reached⟩
    have closed : .runSealed ∈ kinds chain.out := by
      rw [shows.mints.carries, all, listed]
      simp [runKinds, Producers.afterDispatch]
    have decided := canonicalVerdict_of_closed minting closed
    exact ⟨closed, decided, fits r chain reached decided⟩
  · intro answered e failed
    cases fails answered e failed with
    | inl outer => exact outer
    | inr undecided =>
        rcases (minting.closed undecided.1).2 with ⟨s, reduced, _, decided⟩
        rw [undecided.2 s reduced] at decided
        cases decided

theorem produced_of_unminted (rid : CanonicalRunId) {core : List RunEventKind} {verdict : Run.Verdict}
    {final : α → Prop}
    (follows : Follows env.sha256 a.runId (answeredIn trace) x (.new rid) [] fun _ _ => False)
    (after : After x.run trace y) (empty : start.events = .missing) :
    Produced env core verdict (leaves a.runId applied start trace).events.stream trace y final := by
  rcases leaves_shows start applied follows after with ⟨done, chain, shows, whole, fails⟩
  have nothing : kinds chain.out = [] := by
    rw [shows.mints.carries, List.prefix_nil.mp shows.part]
    rfl
  rw [stream_of_shows shows empty, List.map_eq_nil_iff.mp nothing]
  refine ⟨⟨⟨.initial, rfl⟩, List.nil_prefix, nofun⟩, ?_, ?_⟩
  · intro r returned
    exact (whole r returned).2.elim
  · intro answered e failed
    cases fails answered e failed with
    | inl outer => exact outer
    | inr undecided =>
        have closed := undecided.1
        rw [nothing] at closed
        cases closed

/-- Where no answer so far was a failure and none is to come, the rest of the run returns a result. -/
def Returns {α : Type} (trace : Trace Call Call.Answer) (y : Code (Except Fault α)) : Prop :=
  (∀ entry ∈ trace, smooth entry.1 entry.2) →
    ∀ {S : Type} (answer : (c : Call) → S → c.Answer × S), (∀ c s, smooth c (answer c s).1) →
      ∀ s, ∃ r, (y.evaluate answer s).1 = .ok r

theorem returns_of_sails {post : α → Prop} (sails : Sails x post) (after : After x.run trace y)
    (outer : ∀ trace' e, After x.run trace' (pure (.error e)) →
      (∀ entry ∈ trace', plainAnswer entry.1 entry.2) → Outer e) : Returns trace y := by
  intro fine S answer never s
  rcases after_evaluate answer y s with ⟨later, ends, answered⟩
  have whole := after.append ends
  have calmly : ∀ entry ∈ trace ++ later, smooth entry.1 entry.2 := by
    intro entry member
    rcases List.mem_append.mp member with early | late
    · exact fine entry early
    · rcases answered entry late with ⟨t, same⟩
      rw [same]
      exact never entry.1 t
  have reached := whole.result sails calmly
  cases result : (y.evaluate answer s).1 with
  | ok r => exact ⟨r, rfl⟩
  | error e =>
      rw [result] at whole
      have plain := outer _ e whole fun entry member => plainAnswer_of_smooth (calmly entry member)
      exact absurd plain (reached.1 e result).not_outer

theorem mintRunId_outer (raw : String) : Within (mintRunId raw) := by
  intro e failed
  rcases Fallible.mapError_error_iff.mp failed with ⟨error, refused, rfl⟩
  unfold Run.Id.new at refused
  split at refused
  · cases refused
    exact .unnamed
  · cases refused

theorem mintRunId_named {raw : String} (named : raw ≠ "") : ∃ id, mintRunId raw = .ok id :=
  ⟨⟨raw, named⟩, Fallible.mapError_ok_iff.mpr (dif_neg named)⟩

theorem unminted_executeLive {engine : String} {e : Fault} (unnamed : mintRunId a.runId = .error e) :
    Follows env.sha256 a.runId given (executeLive env engine a o contract) (.new rid) []
      fun _ _ => False := by
  apply follows_given (mintRunId_outer _)
  intro runId minted
  cases unnamed.symm.trans minted

theorem unminted_continueExecute {e : Fault}
    (unnamed : mintRunId a.runId = .error e ∨ mintRunId a.parentRunId = .error e) :
    Follows env.sha256 a.runId given (continueExecute env a o contract) (.new rid) []
      fun _ _ => False := by
  have prepared : Follows env.sha256 a.runId given (prepareRun env a o contract) (.new rid) []
      fun _ _ => False := by
    apply follows_after (tame_attempt _)
    intro _
    apply follows_given (mintRunId_outer _)
    intro runId minted
    apply follows_given (mintRunId_outer _)
    intro parentRunId parent
    cases unnamed with
    | inl unnamed => cases unnamed.symm.trans minted
    | inr unnamed => cases unnamed.symm.trans parent
  apply follows_bind [] prepared
  exact fun _ _ never => never.elim

theorem task_fits (bytes : List UInt8) : (artifact env .task "task.md" bytes).Fits .task :=
  Producers.artifact_fits (by decide)

theorem diff_fits (bytes : List UInt8) : (artifact env .diff "diff.patch" bytes).Fits .diff :=
  Producers.artifact_fits (by decide)

theorem live_supplies (valid : contract.Valid) :
    Supplies contract rid (taskArtifact env a) (diffArtifact env o) (liveExtras env o) :=
  ⟨Producers.prepares_nothing valid (task_fits _), liveExtras_fit, diff_fits _, rfl,
    fun _ => Option.some_ne_none _⟩

theorem continue_supplies (valid : contract.Valid) (parentRunId : CanonicalRunId) :
    Supplies contract rid (taskArtifact env a) (diffArtifact env o)
      (continueExtras env a o parentRunId) :=
  ⟨Producers.prepares_continuation valid (task_fits _) (Producers.artifact_fits (by decide))
    (Producers.artifact_fits (by decide)) (Producers.artifact_fits (by decide)),
    continueExtras_fit _, diff_fits _, rfl, fun _ => Option.some_ne_none _⟩

theorem extras_none_fit : Extras.none.Fit := by
  constructor
  · intro receipt member
    cases member
  · intro receipt member
    cases member

theorem batch_sealed {clock : UInt64 → Option Int64} {runId : String} {task diff : List UInt8}
    {stream : List RunEvent} (held : Contracted m contract)
    (undeclared : contract.candidateState = none) (steps : ran.map Prod.fst = m.gate)
    (recorded : recordRun env.sha256 clock runId contract (artifact env .task "task.md" task)
      (artifact env .diff "diff.patch" diff) exitCode ran = .ok stream) :
    Minting env.sha256 (coreKinds env.sha256 (agentOutcome exitCode) ran)
      (coreVerdict env.sha256 contract (agentOutcome exitCode) ran) stream ∧
      .runSealed ∈ kinds stream := by
  rw [Producers.recordRun_eq held steps, Fallible.bind_ok_iff] at recorded
  rcases recorded with ⟨rid, _, minted⟩
  rcases Fallible.bind_ok_iff.mp minted with ⟨chain, pushed, same⟩
  cases same
  have mints := Producers.foldlM_push_mints pushed
  have valid : contract.Valid := by
    apply held.contractValid
    rw [undeclared]
    exact nofun
  have minting := Producers.minting_of_part held
    (Producers.prepares_nothing valid (task_fits task)) extras_none_fit (diff_fits diff) steps rfl (fun declared => absurd undeclared declared) mints
    (List.prefix_refl _)
  refine ⟨minting, ?_⟩
  rw [mints.carries]
  simp [runKinds, Producers.afterDispatch]

theorem batch_fails {clock : UInt64 → Option Int64} {runId : String} {task diff : ArtifactRef}
    (held : Contracted m contract) (steps : ran.map Prod.fst = m.gate) :
    FailsWithin (fun e => e = .push .clock ∨ e = .push .sequenceOverflow ∨
        e = .id ⟨Run.IdKind.run.text⟩)
      (recordRun env.sha256 clock runId contract task diff exitCode ran) := by
  rw [Producers.recordRun_eq held steps]
  apply failsWithin_bind
  · intro e failed
    rcases Fallible.mapError_error_iff.mp failed with ⟨error, refused, rfl⟩
    unfold Run.Id.new at refused
    split at refused
    · cases refused
      exact .inr (.inr rfl)
    · cases refused
  · intro rid
    apply failsWithin_bind
    · apply failsWithin_foldlM
      intro chain kind e failed
      cases Producers.push_fails e failed with
      | inl clock => exact .inl clock
      | inr full => exact .inr (.inl full)
    · intro chain
      exact failsWithin_pure _

theorem foldlM_push_room {clock : UInt64 → Option Int64} (ticks : ∀ i, clock i ≠ none)
    {minted : List RunEventKind} {chain : EventChain} (room : Room minted.length chain) :
    ∃ chain', minted.foldlM (Producers.push env.sha256 clock) chain = .ok chain' := by
  induction minted generalizing chain with
  | nil => exact ⟨chain, rfl⟩
  | cons kind rest ih =>
      rcases Option.ne_none_iff_exists'.mp (ticks chain.seq) with ⟨time, here⟩
      have pushes : ∃ next, chain.push env.sha256 (some time) kind = .ok next ∧
          Room rest.length next ∧ ∃ event, next.out.getLast? = some event := push_room room
      rcases pushes with ⟨next, pushed, left, _⟩
      rcases ih left with ⟨chain', later⟩
      refine ⟨chain', ?_⟩
      rw [List.foldlM_cons, Producers.push, here, pushed]
      exact later

theorem gateKinds_length (sha256 : Run.Sha256) (ran : List Outcome) :
    (ran.flatMap (gateKinds sha256)).length ≤ 2 * ran.length := by
  induction ran with
  | nil => exact le_rfl
  | cons step rest ih =>
      have two : (gateKinds sha256 step).length ≤ 2 := by
        unfold gateKinds
        split
        · exact Nat.zero_le 2
        · split
          · exact Nat.zero_le 2
          · exact le_rfl
      rw [List.flatMap_cons, List.length_append, List.length_cons]
      omega

theorem batch_returns {clock : UInt64 → Option Int64} {runId : String} {task diff : ArtifactRef}
    (held : Contracted m contract) (steps : ran.map Prod.fst = m.gate) (named : runId ≠ "")
    (ticks : ∀ i, clock i ≠ none) (bounded : ran.length < 2 ^ 62) :
    ∃ stream, recordRun env.sha256 clock runId contract task diff exitCode ran = .ok stream := by
  have few : (runKinds env.sha256 .none contract task diff (agentOutcome exitCode) ran).length <
      2 ^ 64 := by
    have gates := gateKinds_length env.sha256 ran
    simp only [runKinds, Producers.afterDispatch, Extras.none, List.length_cons, List.length_append,
      List.length_nil, Option.toList_none, List.map_nil]
    omega
  have pushes : ∃ chain, (runKinds env.sha256 .none contract task diff (agentOutcome exitCode)
      ran).foldlM (Producers.push env.sha256 clock) (.new ⟨runId, named⟩) = .ok chain :=
    foldlM_push_room ticks (room_new few)
  rcases pushes with ⟨chain, pushed⟩
  have minted : (Run.Id.new .run runId).mapError Producers.BuildError.id = .ok ⟨runId, named⟩ :=
    Fallible.mapError_ok_iff.mpr (dif_neg named)
  refine ⟨chain.out, ?_⟩
  rw [Producers.recordRun_eq held steps, minted, Fallible.ok_bind, pushed]
  rfl

/-- The producers of a stream for one manifest, exit code and outcome of the steps: the events of
agent and gates that each mints, and the verdict that each comes to. -/
structure ProducersAgree (env : Setting) (contract : RunContract) (exitCode : Option Int32)
    (ran : List Outcome) (core : List RunEventKind) (verdict : Run.Verdict) : Prop where
  batch : ∀ (clock : UInt64 → Option Int64) (runId : String) (task diff : List UInt8),
    (∀ stream, recordRun env.sha256 clock runId contract (artifact env .task "task.md" task)
        (artifact env .diff "diff.patch" diff) exitCode ran = .ok stream →
      Minting env.sha256 core verdict stream ∧ .runSealed ∈ kinds stream ∧
        canonicalVerdict env stream = .ok verdict) ∧
    FailsWithin (fun e => e = .push .clock ∨ e = .push .sequenceOverflow ∨
        e = .id ⟨Run.IdKind.run.text⟩)
      (recordRun env.sha256 clock runId contract (artifact env .task "task.md" task)
        (artifact env .diff "diff.patch" diff) exitCode ran) ∧
    (runId ≠ "" → (∀ i, clock i ≠ none) → ran.length < 2 ^ 62 →
      ∃ stream, recordRun env.sha256 clock runId contract (artifact env .task "task.md" task)
        (artifact env .diff "diff.patch" diff) exitCode ran = .ok stream)
  live : ∀ (engine : String) (a : ContinueArgs) (o : Outside)
    (obligation : CandidateStateContractV1) (start : RecordDir) (applied : Bool)
    (trace : Trace Call Call.Answer) (y : Code (Except Fault (List RunEvent))),
    start.events = .missing →
    After (executeLive env engine a (o.observed exitCode ran)
      (withObligation contract obligation)).run trace y →
    (Produced env core verdict (leaves a.runId applied start trace).events.stream trace y
      fun stream => stream = (leaves a.runId applied start trace).events.stream) ∧
      (a.runId ≠ "" → ran.length < 2 ^ 62 → Returns trace y)
  continued : ∀ (a : ContinueArgs) (o : Outside) (obligation : CandidateStateContractV1)
    (start : RecordDir) (applied : Bool) (trace : Trace Call Call.Answer)
    (y : Code (Except Fault (Run.Verdict × Option String))), start.events = .missing →
    After (continueExecute env a (o.observed exitCode ran)
      (withObligation contract obligation)).run trace y →
    (Produced env core verdict (leaves a.runId applied start trace).events.stream trace y
      fun r => r.1 = verdict) ∧
      (a.runId ≠ "" → a.parentRunId ≠ "" → ran.length < 2 ^ 62 → Returns trace y)

theorem observed_allowed (held : Contracted m contract) (steps : ran.map Prod.fst = m.gate)
    (obligation : CandidateStateContractV1) :
    Allowed (o.observed exitCode ran) (withObligation contract obligation) := by
  refine ⟨Option.some_ne_none _, ?_⟩
  intro step member
  rcases List.mem_map.mp member with ⟨outcome, among, rfl⟩
  have listed : outcome.1 ∈ m.gate := by
    rw [← steps]
    exact List.mem_map_of_mem among
  rcases held.valid.gateId listed with ⟨gate, minted, _⟩
  exact ⟨gate, minted⟩

theorem observed_room {k : Nat} (few : k < 2 ^ 62) (bounded : ran.length < 2 ^ 62) :
    2 * (o.observed exitCode ran).gates.length + k < 2 ^ 64 := by
  simp only [Outside.observed, List.length_map]
  omega

theorem coreVerdict_withObligation (obligation : CandidateStateContractV1) :
    coreVerdict env.sha256 (withObligation contract obligation) (agentOutcome exitCode) ran =
      coreVerdict env.sha256 contract (agentOutcome exitCode) ran := rfl

theorem live_agrees {engine : String} {obligation : CandidateStateContractV1}
    {y : Code (Except Fault (List RunEvent))} (held : Contracted m contract)
    (steps : ran.map Prod.fst = m.gate) (empty : start.events = .missing)
    (after : After (executeLive env engine a (o.observed exitCode ran)
      (withObligation contract obligation)).run trace y) :
    (Produced env (coreKinds env.sha256 (agentOutcome exitCode) ran)
      (coreVerdict env.sha256 contract (agentOutcome exitCode) ran)
      (leaves a.runId applied start trace).events.stream trace y
      fun stream => stream = (leaves a.runId applied start trace).events.stream) ∧
      (a.runId ≠ "" → ran.length < 2 ^ 62 → Returns trace y) := by
  have declared : Contracted m (withObligation contract obligation) := held.withCandidate _
  have valid := withObligation_valid held obligation
  have allowed : Allowed (o.observed exitCode ran) (withObligation contract obligation) :=
    observed_allowed held steps obligation
  have produced : ∀ trace y, After (executeLive env engine a (o.observed exitCode ran)
      (withObligation contract obligation)).run trace y →
      Produced env (coreKinds env.sha256 (agentOutcome exitCode) ran)
        (coreVerdict env.sha256 contract (agentOutcome exitCode) ran)
        (leaves a.runId applied start trace).events.stream trace y
        fun stream => stream = (leaves a.runId applied start trace).events.stream := by
    intro trace y after
    cases named : mintRunId a.runId with
    | error e =>
        exact produced_of_unminted ⟨"run", by decide⟩ (unminted_executeLive named) after empty
    | ok runId =>
        rw [← coreVerdict_withObligation obligation]
        apply produced_of_follows (fun r stream => r = stream) (follows_executeLive named allowed)
          after (itemKinds_live engine) declared (live_supplies valid) steps empty
        exact fun r chain same _ => same
  refine ⟨produced trace y after, ?_⟩
  intro named bounded
  rcases mintRunId_named named with ⟨runId, minted⟩
  apply returns_of_sails (sails_executeLive minted allowed (observed_room (by decide) bounded)) after
  exact fun trace' e failed plain => (produced trace' _ failed).fails plain e rfl

theorem continued_agrees {obligation : CandidateStateContractV1}
    {y : Code (Except Fault (Run.Verdict × Option String))} (held : Contracted m contract)
    (steps : ran.map Prod.fst = m.gate) (empty : start.events = .missing)
    (after : After (continueExecute env a (o.observed exitCode ran)
      (withObligation contract obligation)).run trace y) :
    (Produced env (coreKinds env.sha256 (agentOutcome exitCode) ran)
      (coreVerdict env.sha256 contract (agentOutcome exitCode) ran)
      (leaves a.runId applied start trace).events.stream trace y
      fun r => r.1 = coreVerdict env.sha256 contract (agentOutcome exitCode) ran) ∧
      (a.runId ≠ "" → a.parentRunId ≠ "" → ran.length < 2 ^ 62 → Returns trace y) := by
  have declared : Contracted m (withObligation contract obligation) := held.withCandidate _
  have valid := withObligation_valid held obligation
  have allowed : Allowed (o.observed exitCode ran) (withObligation contract obligation) :=
    observed_allowed held steps obligation
  have produced : ∀ trace y, After (continueExecute env a (o.observed exitCode ran)
      (withObligation contract obligation)).run trace y →
      Produced env (coreKinds env.sha256 (agentOutcome exitCode) ran)
        (coreVerdict env.sha256 contract (agentOutcome exitCode) ran)
        (leaves a.runId applied start trace).events.stream trace y
        fun r => r.1 = coreVerdict env.sha256 contract (agentOutcome exitCode) ran := by
    intro trace y after
    cases named : mintRunId a.runId with
    | error e =>
        exact produced_of_unminted ⟨"run", by decide⟩ (unminted_continueExecute (.inl named))
          after empty
    | ok runId =>
        cases parent : mintRunId a.parentRunId with
        | error e =>
            exact produced_of_unminted runId (unminted_continueExecute (.inr parent)) after empty
        | ok parentRunId =>
            rw [← coreVerdict_withObligation obligation]
            apply produced_of_follows (fun r _ => r.1 = _)
              (follows_continueExecute named parent allowed) after (itemKinds_continue parentRunId)
              declared (continue_supplies valid parentRunId) steps empty
            exact fun r chain reached decided => Except.ok.inj (reached.symm.trans decided)
  refine ⟨produced trace y after, ?_⟩
  intro named parentNamed bounded
  rcases mintRunId_named named with ⟨runId, minted⟩
  rcases mintRunId_named parentNamed with ⟨parentRunId, parent⟩
  apply returns_of_sails (sails_continueExecute minted parent allowed (observed_room (by decide) bounded)) after
  exact fun trace' e failed plain => (produced trace' _ failed).fails plain e rfl

/-- For every manifest that makes a contract and every outcome of its agent and its steps the
producers agree with the reducer and with each other. -/
theorem producers_agree {m : GateManifest} {contract : RunContract}
    (built : Producers.buildContract m = .ok contract) (exitCode : Option Int32)
    {ran : List Outcome} (steps : ran.map Prod.fst = m.gate) (env : Setting) :
    ∃ verdict, ProducersAgree env contract exitCode ran
      (coreKinds env.sha256 (agentOutcome exitCode) ran) verdict := by
  rcases Producers.contracted_of_build built with ⟨held, undeclared⟩
  refine ⟨coreVerdict env.sha256 contract (agentOutcome exitCode) ran, ?_, ?_, ?_⟩
  · intro clock runId task diff
    refine ⟨?_, batch_fails held steps, batch_returns held steps⟩
    intro stream recorded
    rcases batch_sealed held undeclared steps recorded with ⟨minting, closed⟩
    exact ⟨minting, closed, canonicalVerdict_of_closed minting closed⟩
  · exact fun engine a o obligation start applied trace y empty after =>
      live_agrees held steps empty after
  · exact fun a o obligation start applied trace y empty after =>
      continued_agrees held steps empty after

end Agreement

/-! ### An example -/

namespace Sample

noncomputable def setting : Setting where
  sha256 := Run.standardSha256
  serde := Ledger.printedSerde
  ext := ⟨fun _ => .error "receipt", fun _ => .error "binding", fun _ => none, id⟩
  payload _ := Ledger.noPayload
  writeBinding _ := []
  readSession _ := .error "session"
  staleRedriveThresholdMs := 0

def steps : List Producers.GateStep :=
  [⟨"build", "cargo build", true, none, none⟩,
    ⟨"ui", "npm test", true, some "windows", some "no display"⟩]

def ran : List Outcome :=
  [(steps[0], .exited (some 1) [98, 97, 100]), (steps[1], .notSpawned "no bash")]

theorem build_named : "build" ≠ "" := by decide

theorem ui_named : "ui" ≠ "" := by decide

def contract : RunContract where
  gateObligations :=
    [⟨⟨"build", build_named⟩, .required, .applicable⟩,
      ⟨⟨"ui", ui_named⟩, .required, .waived "linux" "no display"⟩]
  policyObligations := []
  sandboxRequirements := []
  agent := .required
  runnerEnvironment := "linux"
  candidateState := none

theorem contract_built : Producers.buildContract ⟨1, steps⟩ = .ok contract := by
  decide +kernel

end Sample

namespace Sample

def args : ContinueArgs := ⟨"conversation-1", "run-0", "fix it", "run-1", "command-1"⟩

def obligation : CandidateStateContractV1 :=
  ⟨1, "conversation-1", ⟨"/repository/.git", 1, 2⟩, "base", .gitBinaryCumulativePatchV1⟩

def outside : Outside where
  contract := contract
  obligation := obligation
  sourceReceipt := []
  sourcePatch := []
  materializedTreeOid := "tree"
  outcome := .exitedNormally 0
  sessionId := some "session-1"
  sessionReceipt := [123, 125]
  stdout := [104, 105]
  diff := []
  candidatePatch := []
  candidateReceipt := []
  gates := []
  runMeta := []

def start : RecordDir where
  base := "records/run-1"
  events := .missing
  ledgerBinding := .ok none
  commandBinding := .ok none
  read _ := .error "not found"

def row : Ledger.Run :=
  ⟨"run-1", "conversation-1", none, "claude", "implementer", .queued, 0, none, none⟩

def reply : Ledger.Op → Ledger.Reply
  | .createAttempt runId _ _ => .attempt ⟨"attempt-1", runId, 1, .running, 0, none⟩
  | _ => .run row

def world : (c : Call) → Unit → c.Answer × Unit
  | .stamp, _ => ((⟨0, "event-1"⟩ : Ledger.Stamp), ())
  | .clock, _ => ((some 0 : Option Int64), ())
  | .ledger op, _ => ((.ok (reply op) : Except Fault Ledger.Reply), ())
  | .command _, _ => ((.ok none : Except Fault (Option Ledger.Command)), ())
  | .run _, _ => ((.ok (some row) : Except Fault (Option Ledger.Run)), ())
  | .conversation _, _ =>
      ((.ok (some ⟨"conversation-1", 0, .open⟩) : Except Fault (Option Ledger.Conversation)), ())
  | .runningAttempt _, _ | .latestAttempt _, _ =>
      ((.ok none : Except Fault (Option Ledger.RunAttempt)), ())
  | .tryLock _, _ => (LockAnswer.acquired, ())
  | .generateRunId, _ => (("run-1" : RunId), ())
  | .classify _ _, _ => (ChildRecordState.absent, ())
  | .record _, _ => (start, ())
  | .write _ _, _ | .append _ _, _ | .invoke _ _, _ | .spawn _, _ | .attempt _, _ =>
      ((.ok () : Except Fault Unit), ())

theorem world_smooth (c : Call) (s : Unit) : smooth c (world c s).1 := by
  cases c with
  | clock => exact Option.some_ne_none _
  | ledger op =>
      refine ⟨reply op, ?_, rfl⟩
      cases op <;> first | trivial | exact ⟨_, rfl⟩
  | conversation => exact ⟨_, Option.some_ne_none _, rfl⟩
  | command | run | runningAttempt | latestAttempt => exact ⟨_, trivial, rfl⟩
  | write | append | invoke | spawn | attempt => exact ⟨_, trivial, rfl⟩
  | _ => trivial

end Sample

theorem producers_agree_sample :
    ∃ verdict, ProducersAgree Sample.setting Sample.contract (some 0) Sample.ran
      (coreKinds Sample.setting.sha256 (agentOutcome (some 0)) Sample.ran) verdict ∧
      (∃ stream, recordRun Sample.setting.sha256 (fun _ => some 0) "run-1" Sample.contract
          (artifact Sample.setting .task "task.md" []) (artifact Sample.setting .diff "diff.patch" [])
          (some 0) Sample.ran = .ok stream ∧ .runSealed ∈ kinds stream) ∧
      (∃ trace stream, After (executeLive Sample.setting "claude" Sample.args
          (Sample.outside.observed (some 0) Sample.ran)
          (withObligation Sample.contract Sample.obligation)).run trace (pure (.ok stream)) ∧
        .runSealed ∈ kinds stream) ∧
      ∃ trace r, After (continueExecute Sample.setting Sample.args
          (Sample.outside.observed (some 0) Sample.ran)
          (withObligation Sample.contract Sample.obligation)).run trace (pure (.ok r)) ∧
        r.1 = verdict := by
  have steps : Sample.ran.map Prod.fst = (⟨1, Sample.steps⟩ : GateManifest).gate := rfl
  rcases producers_agree Sample.contract_built (some 0) steps Sample.setting with ⟨verdict, agree⟩
  have short : Sample.ran.length < 2 ^ 62 := by decide
  have batch := agree.batch (fun _ => some 0) "run-1" [] []
  rcases batch.2.2 (by decide) (fun _ => Option.some_ne_none _) short with ⟨stream, recorded⟩
  refine ⟨verdict, agree, ⟨stream, recorded, (batch.1 stream recorded).2.1⟩, ?_, ?_⟩
  · have live := agree.live "claude" Sample.args Sample.outside Sample.obligation Sample.start false
    rcases (live [] _ rfl .here).2 (by decide) short (List.forall_mem_nil _) Sample.world
      Sample.world_smooth () with ⟨stream, returned⟩
    rcases after_evaluate Sample.world (executeLive Sample.setting "claude" Sample.args
      (Sample.outside.observed (some 0) Sample.ran)
      (withObligation Sample.contract Sample.obligation)).run () with ⟨trace, ends, _⟩
    rw [returned] at ends
    rcases (live trace _ rfl ends).1.sealed stream rfl with ⟨closed, _, same⟩
    refine ⟨trace, stream, ends, ?_⟩
    rw [same]
    exact closed
  · have continued := agree.continued Sample.args Sample.outside Sample.obligation Sample.start false
    rcases (continued [] _ rfl .here).2 (by decide) (by decide) short (List.forall_mem_nil _)
      Sample.world Sample.world_smooth () with ⟨r, returned⟩
    rcases after_evaluate Sample.world (continueExecute Sample.setting Sample.args
      (Sample.outside.observed (some 0) Sample.ran)
      (withObligation Sample.contract Sample.obligation)).run () with ⟨trace, ends, _⟩
    rw [returned] at ends
    exact ⟨trace, r, ends, ((continued trace _ rfl ends).1.sealed r rfl).2.2⟩

end O7Formal.Dispatch
