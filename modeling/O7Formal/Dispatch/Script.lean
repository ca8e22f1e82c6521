import O7Formal.Dispatch.Pen

/-! The script of a run: the files of its record and the events of its stream, in the order of the
code. Whatever the world answers, a run writes the next item of its script or stops. -/

namespace O7Formal.Dispatch

open Program
open O7Formal.Run (EventChain RunContract RunEvent RunEventKind Sha256)

section Follows

variable {sha256 : Sha256} {runId : RunId} {given : (c : Call) → c.Answer → Prop} {α β : Type}

def Undecided (sha256 : Sha256) (events : List RunEvent) : Prop :=
  .runSealed ∈ Run.kinds events ∧ ∀ s, Run.reduceAll sha256 events = .ok s → s.verdict = none

/-- Where these items come next, they are what the code writes, and where it succeeds it has written
all of them. It fails for outer reasons, unless its own stream is at fault. -/
def Follows (sha256 : Sha256) (runId : RunId) (given : (c : Call) → c.Answer → Prop)
    (x : Fallible Fault α) (chain : EventChain) (items : List Item)
    (post : α → EventChain → Prop) : Prop :=
  ∀ later, x.run.Obeys (writing sha256 runId given) ⟨items ++ later, chain, false⟩
    fun r m => (∀ a, r = .ok a → m.rest = later ∧ m.stopped = false ∧ post a m.chain) ∧
      ((∀ c r, given c r → plainAnswer c r) → ∀ e, r = .error e → Outer e ∨
        m.stopped = false ∧ Undecided sha256 m.chain.out)

variable {x : Fallible Fault α} {f : α → Fallible Fault β} {chain : EventChain}
  {items later : List Item} {post : α → EventChain → Prop} {final : β → EventChain → Prop}

theorem follows_pure {a : α} (fits : post a chain) :
    Follows sha256 runId given (pure a) chain [] post := by
  intro rest
  constructor
  · intro b same
    cases same
    exact ⟨rfl, rfl, fits⟩
  · intro _ e same
    cases same

theorem follows_mono {weaker : α → EventChain → Prop}
    (follows : Follows sha256 runId given x chain items post)
    (implies : ∀ a chain', post a chain' → weaker a chain') :
    Follows sha256 runId given x chain items weaker := by
  intro rest
  apply obeys_mono (follows rest)
  intro r m reached
  constructor
  · intro a here
    rcases reached.1 a here with ⟨next, going, fits⟩
    exact ⟨next, going, implies a m.chain fits⟩
  · exact reached.2

theorem follows_bind (first : List Item)
    (before : Follows sha256 runId given x chain first post)
    (after : ∀ a chain', post a chain' → Follows sha256 runId given (f a) chain' later final) :
    Follows sha256 runId given (x >>= f) chain (first ++ later) final := by
  intro rest
  rw [List.append_assoc]
  apply obeys_try
  apply obeys_mono (before (later ++ rest))
  intro r m reached
  constructor
  · intro a here
    rcases reached.1 a here with ⟨next, going, fits⟩
    have same : m = ⟨later ++ rest, m.chain, false⟩ := by
      rw [← next, ← going]
    rw [same]
    exact after a m.chain fits rest
  · intro e here
    constructor
    · intro a same
      cases same
    · intro answered e' same
      cases same
      exact reached.2 answered e here

theorem follows_tame (tame : Tame sha256 runId x) :
    Follows sha256 runId given x chain [] fun _ chain' => chain' = chain := by
  intro rest
  apply obeys_mono (tame given _)
  intro r m reached
  constructor
  · intro a _
    rw [reached.1]
    exact ⟨rfl, rfl, rfl⟩
  · intro answered e here
    exact .inl (reached.2 answered e here)

theorem follows_after (tame : Tame sha256 runId x)
    (after : ∀ a, Follows sha256 runId given (f a) chain items final) :
    Follows sha256 runId given (x >>= f) chain items final := by
  apply follows_bind [] (follows_tame tame)
  intro a chain' same
  rw [same]
  exact after a

theorem follows_attempt {f : Unit → Fallible Fault β} {what : String}
    (after : given (.attempt what) (.ok ()) →
      Follows sha256 runId given (f ()) chain items final) :
    Follows sha256 runId given (attempt what >>= f) chain items final := by
  intro rest
  apply obeys_try
  refine ⟨trivial, ?_⟩
  intro r answered
  constructor
  · intro u here
    cases here
    exact after answered rest
  · intro e here
    constructor
    · intro a same
      cases same
    · intro plain e' same
      cases same
      exact .inl (plain _ r answered e here)

theorem follows_given {x : Except Fault α} (outer : Within x)
    (after : ∀ a, x = .ok a → Follows sha256 runId given (f a) chain items final) :
    Follows sha256 runId given (ofExcept x >>= f) chain items final := by
  intro rest
  apply obeys_try
  change Obeys _ (pure x) _ _
  apply obeys_pure
  constructor
  · intro a here
    exact after a here rest
  · intro e here
    constructor
    · intro a same
      cases same
    · intro _ e' same
      cases same
      exact .inl (outer e here)

theorem follows_made {x : Except Fault α} {a : α} (made : x = .ok a)
    (after : Follows sha256 runId given (f a) chain items final) :
    Follows sha256 runId given (ofExcept x >>= f) chain items final := by
  rw [made]
  exact after

theorem follows_some {x : Option α} {why : String} (there : x ≠ none)
    (after : ∀ a, x = some a → Follows sha256 runId given (f a) chain items final) :
    Follows sha256 runId given (okOrThrow x why >>= f) chain items final := by
  cases x with
  | none => exact absurd rfl there
  | some a => exact after a rfl

theorem follows_write (file : RecordFile) :
    Follows sha256 runId given (writeRecord runId file) chain [.file file]
      fun _ chain' => chain' = chain := by
  intro rest
  have may : (writing sha256 runId given).permits ⟨.file file :: rest, chain, false⟩
      (.write runId file) := ⟨rfl, rfl, rest, rfl⟩
  apply obeys_perform may
  intro r answered
  constructor
  · intro _ here
    cases here
    exact ⟨rfl, rfl, rfl⟩
  · intro plain e here
    exact .inl (plain _ r answered e here)

theorem follows_file {f : Unit → Fallible Fault β} {file : RecordFile}
    (after : Follows sha256 runId given (f ()) chain later final) :
    Follows sha256 runId given (writeRecord runId file >>= f) chain (.file file :: later) final := by
  apply follows_bind [_] (follows_write file)
  intro _ chain' same
  rw [same]
  exact after

end Follows

section Append

variable {env : Setting} {a : ContinueArgs} {given : (c : Call) → c.Answer → Prop}
  {chain : EventChain} {β : Type} {later : List Item} {final : β → EventChain → Prop}

theorem push_extends {chain' : EventChain} {now : Option Int64} {kind : RunEventKind}
    {event : RunEvent} (pushed : chain.push env.sha256 now kind = .ok chain')
    (last : chain'.out.getLast? = some event) :
    event.kind = kind ∧ chain' = extendChain chain event := by
  rcases EventChain.push_ok pushed with ⟨eventId, time, _, _, rfl⟩
  rw [List.getLast?_append, List.getLast?_singleton] at last
  cases last
  exact ⟨rfl, rfl⟩

theorem push_outer {now : Option Int64} {kind : RunEventKind} :
    Within ((chain.push env.sha256 now kind).mapError Fault.chain) := by
  intro e failed
  rcases Fallible.mapError_error_iff.mp failed with ⟨error, refused, rfl⟩
  rcases EventChain.push_fails _ refused with rfl | rfl
  · exact .clock
  · exact .sequenceOverflow

theorem follows_appendEvent {event : RunEvent} {kind : RunEventKind} (same : event.kind = kind)
    (minted : Minted env.sha256 chain event) :
    Follows env.sha256 a.runId given (appendEvent a.runId event) chain [.event kind]
      fun _ chain' => chain' = extendChain chain event := by
  intro rest
  subst same
  have may : (writing env.sha256 a.runId given).permits
      ⟨.event event.kind :: rest, chain, false⟩ (.append a.runId event) :=
    ⟨rfl, rfl, ⟨rest, rfl⟩, minted⟩
  apply obeys_perform may
  intro r answered
  constructor
  · intro u here
    cases here
    exact ⟨rfl, rfl, rfl⟩
  · intro plain e here
    exact .inl (plain _ r answered e here)

theorem follows_appendOnly (kind : RunEventKind) :
    Follows env.sha256 a.runId given (appendOnly env a chain kind) chain [.event kind]
      fun r chain' => r.1 = chain' ∧ kind ∈ Run.kinds chain'.out := by
  apply follows_after (tame_lift quiet_clock)
  intro now
  apply follows_given push_outer
  intro chain' minted
  have pushed := Fallible.mapError_ok_iff.mp minted
  apply follows_some
  · rcases EventChain.push_ok pushed with ⟨eventId, time, _, _, rfl⟩
    simp
  intro event last
  rcases push_extends pushed last with ⟨same, extended⟩
  have next : Minted env.sha256 chain event := ⟨now, by rw [same, pushed, extended]⟩
  apply follows_bind [.event kind] (follows_appendEvent same next)
  intro _ chain'' advanced
  apply follows_pure
  rw [advanced, extended]
  simp [extendChain, Run.kinds, same]

theorem follows_appendProjected {projector : LiveLedgerProjector} {kind : RunEventKind} :
    Follows env.sha256 a.runId given (appendProjected env a projector chain kind) chain [.event kind]
      fun made chain' => made = chain' ∧ kind ∈ Run.kinds chain'.out := by
  apply follows_bind [.event kind] (follows_appendOnly kind)
  intro appended chain' same
  apply follows_after (tame_lift (quiet_projects (only_projectLive _ _ _)))
  intro _
  exact follows_pure same

theorem follows_event {projector : LiveLedgerProjector} {kind : RunEventKind}
    {f : EventChain → Fallible Fault β}
    (after : ∀ chain', Follows env.sha256 a.runId given (f chain') chain' later final) :
    Follows env.sha256 a.runId given (appendProjected env a projector chain kind >>= f) chain
      (.event kind :: later) final := by
  apply follows_bind [.event kind] follows_appendProjected
  intro made chain' same
  rw [same.1]
  exact after chain'

theorem follows_verdict {f : Run.Verdict → Fallible Fault β} {items : List Item}
    (closed : .runSealed ∈ Run.kinds chain.out)
    (after : ∀ verdict, canonicalVerdict env chain.out = .ok verdict →
      Follows env.sha256 a.runId given (f verdict) chain items final) :
    Follows env.sha256 a.runId given (ofExcept (canonicalVerdict env chain.out) >>= f) chain items
      final := by
  intro rest
  apply obeys_try
  change Obeys _ (pure (canonicalVerdict env chain.out)) _ _
  apply obeys_pure
  constructor
  · intro verdict here
    exact after verdict here rest
  · intro e here
    constructor
    · intro b same
      cases same
    · intro _ _ _
      refine .inr ⟨rfl, closed, ?_⟩
      intro s reduced
      simp only [canonicalVerdict, reduced] at here
      cases verdict : s.verdict with
      | none => rfl
      | some v =>
          rw [verdict] at here
          cases here

end Append

section Items

variable (env : Setting) (a : ContinueArgs) (o : Outside)

def sessionItems : List Item :=
  match o.sessionId with
  | none => []
  | some _ => [.file (.file "session_receipt.json" o.sessionReceipt),
      .event (.providerSessionCaptured
        (artifact env .providerSession "session_receipt.json" o.sessionReceipt))]

def gateItems (step : GateStep) : List Item :=
  if step.skipped then []
  else match Run.Id.new .gate step.name with
    | .error _ => []
    | .ok gate =>
        .event (.gateStarted gate) :: match step.log with
          | none => [.event (.gateFinished gate step.outcome none)]
          | some (locator, bytes) => [.file (.file locator bytes),
              .event (.gateFinished gate step.outcome
                (some (artifact env .gateLog locator bytes)))]

def taskArtifact : Run.ArtifactRef := artifact env .task "task.md" (ByteCodec.utf8Bytes a.command)

def finishItems : List Item :=
  .event (.agentExited o.outcome) :: sessionItems env o ++
    [.file (.file "agent.stdout" o.stdout), .file (.file "diff.patch" o.diff),
      .event (.patchCaptured (artifact env .diff "diff.patch" o.diff)),
      .file (.file Run.candidatePatchLocator o.candidatePatch),
      .file (.file Run.candidateStateReceiptLocator o.candidateReceipt),
      .event (.candidateStateCaptured
        (artifact env .candidateState Run.candidateStateReceiptLocator o.candidateReceipt))] ++
    o.gates.flatMap (gateItems env) ++ [.event .runSealed]

def liveItems (engine : String) (contract : RunContract) : List Item :=
  [.file (.ledgerBinding ⟨1, a.runId, a.conversationId, engine, "implementer", none⟩),
    .file (.file "task.md" (ByteCodec.utf8Bytes a.command)),
    .event (.runStarted contract (taskArtifact env a)), .event .agentStarted] ++
    finishItems env o

def ownBinding (parentRunId : CanonicalRunId) : CommandBinding :=
  ⟨1, a.commandId, a.conversationId, parentRunId.asStr, a.runId,
    (textDigest env.sha256 a.command).asStr⟩

def bindItems (parentRunId : CanonicalRunId) (contract : RunContract) : List Item :=
  [.file (.ledgerBinding
      ⟨1, a.runId, a.conversationId, "claude", "implementer", some parentRunId.asStr⟩),
    .file (.file "task.md" (ByteCodec.utf8Bytes a.command)),
    .file (.commandBinding (ownBinding env a parentRunId)
      (env.writeBinding (ownBinding env a parentRunId))),
    .event (.runStarted contract (taskArtifact env a)),
    .event (.commandBindingCaptured (artifact env .commandBinding Run.commandBindingLocator
      (env.writeBinding (ownBinding env a parentRunId))))]

def copyItems : List Item :=
  [.file (.file Run.parentCandidateReceiptLocator o.sourceReceipt),
    .file (.file Run.parentCandidatePatchLocator o.sourcePatch)]

def materialized (parentRunId : CanonicalRunId) : RunEventKind :=
  .candidateStateMaterialized parentRunId
    (artifact env .candidateState Run.parentCandidateReceiptLocator o.sourceReceipt)
    (artifact env .candidatePatch Run.parentCandidatePatchLocator o.sourcePatch)
    o.materializedTreeOid

def prepareItems (parentRunId : CanonicalRunId) (contract : RunContract) : List Item :=
  bindItems env a parentRunId contract ++ copyItems o ++ [.event (materialized env o parentRunId)]

def continueItems (parentRunId : CanonicalRunId) (contract : RunContract) : List Item :=
  prepareItems env a o parentRunId contract ++ .event .agentStarted :: finishItems env o ++
    [.file (.file "meta.json" o.runMeta)]

end Items

section Walk

variable {env : Setting} {a : ContinueArgs} {o : Outside}
  {given : (c : Call) → c.Answer → Prop} {chain : EventChain} {β : Type}
  {later : List Item} {final : β → EventChain → Prop} {projector : LiveLedgerProjector}

theorem follows_projected (kind : RunEventKind) :
    Follows env.sha256 a.runId given (appendProjected env a projector chain kind) chain [.event kind]
      fun made chain' => made = chain' := by
  apply follows_mono follows_appendProjected
  exact fun made chain' same => same.1

theorem follows_session : Follows env.sha256 a.runId given (captureSession env a o projector chain)
    chain (sessionItems env o) fun made chain' => made = chain' := by
  unfold captureSession sessionItems
  cases o.sessionId with
  | none => exact follows_pure rfl
  | some session => exact follows_file (follows_projected _)

theorem follows_receipt : Follows env.sha256 a.runId given (writeCandidateStateReceipt env a o) chain
    [.file (.file Run.candidatePatchLocator o.candidatePatch),
      .file (.file Run.candidateStateReceiptLocator o.candidateReceipt)]
    fun made chain' => made = artifact env .candidateState Run.candidateStateReceiptLocator
      o.candidateReceipt ∧ chain' = chain := by
  apply follows_after (tame_attempt _)
  intro _
  exact follows_file (follows_file (follows_pure ⟨rfl, rfl⟩))

theorem follows_gate {step : GateStep}
    (named : ∃ gate, Run.Id.new .gate step.name = .ok gate) : Follows env.sha256 a.runId given
    (runGate env a projector chain step) chain (gateItems env step)
    fun made chain' => made = chain' := by
  unfold runGate gateItems
  split
  · apply follows_after (tame_attempt _)
    intro _
    exact follows_pure rfl
  · rcases named with ⟨gate, minted⟩
    apply follows_made (Fallible.mapError_ok_iff.mpr minted)
    rw [minted]
    apply follows_event
    intro chain'
    apply follows_after (tame_attempt _)
    intro _
    cases step.log with
    | none => exact follows_projected _
    | some log => exact follows_file (follows_projected _)

theorem follows_gates {steps : List GateStep}
    (named : ∀ step ∈ steps, ∃ gate, Run.Id.new .gate step.name = .ok gate) :
    Follows env.sha256 a.runId given (runGates env a projector chain steps) chain (steps.flatMap (gateItems env))
    fun made chain' => made = chain' := by
  induction steps generalizing chain with
  | nil => exact follows_pure rfl
  | cons step rest ih =>
      rw [List.forall_mem_cons] at named
      rw [List.flatMap_cons]
      apply follows_bind _ (follows_gate named.1)
      intro made chain' same
      rw [same]
      exact ih named.2

theorem follows_materialize : Follows env.sha256 a.runId given
    (materializeParentCandidateState env a o) chain (copyItems o)
    fun made chain' => made = (artifact env .candidateState Run.parentCandidateReceiptLocator
      o.sourceReceipt, artifact env .candidatePatch Run.parentCandidatePatchLocator o.sourcePatch) ∧
      chain' = chain := by
  apply follows_after (tame_attempt _)
  intro _
  apply follows_file
  apply follows_file
  apply follows_after (tame_attempt _)
  intro _
  exact follows_pure ⟨rfl, rfl⟩

def verifiesParent : Call := .attempt "verifying the parent's candidate-state receipt"
def appliesPatch : Call :=
  .attempt "creating the child run's worktree and applying the candidate patch"

theorem follows_refused
    (refused : ¬ (given verifiesParent (.ok ()) ∧ given appliesPatch (.ok ()))) :
    Follows env.sha256 a.runId given (materializeParentCandidateState env a o) chain (copyItems o)
      fun _ _ => False := by
  apply follows_attempt
  intro verified
  apply follows_file
  apply follows_file
  apply follows_attempt
  intro made
  exact absurd ⟨verified, made⟩ refused

/-- What a run needs of its contract and its gates to get to the seal. -/
structure Allowed (o : Outside) (contract : RunContract) : Prop where
  obliged : contract.candidateState ≠ none
  named : ∀ step ∈ o.gates, ∃ gate, Run.Id.new .gate step.name = .ok gate

theorem follows_finish {contract : RunContract} {missing : String}
    {f : EventChain → Run.Verdict → Fallible Fault β} (allowed : Allowed o contract)
    (after : ∀ chain' verdict, canonicalVerdict env chain'.out = .ok verdict →
      Follows env.sha256 a.runId given (f chain' verdict) chain' later final) :
    Follows env.sha256 a.runId given (do
      let chain ← appendProjected env a projector chain (.agentExited o.outcome)
      let chain ← captureSession env a o projector chain
      writeRecord a.runId (.file "agent.stdout" o.stdout)
      writeRecord a.runId (.file "diff.patch" o.diff)
      let chain ← appendProjected env a projector chain
        (.patchCaptured (artifact env .diff "diff.patch" o.diff))
      let _ ← okOrThrow contract.candidateState missing
      let candidateReceipt ← writeCandidateStateReceipt env a o
      let chain ← appendProjected env a projector chain (.candidateStateCaptured candidateReceipt)
      attempt "validating the gate manifest"
      let chain ← runGates env a projector chain o.gates
      let chain ← appendProjected env a projector chain .runSealed
      let verdict ← ofExcept (canonicalVerdict env chain.out)
      f chain verdict) chain (finishItems env o ++ later) final := by
  simp only [finishItems, List.cons_append, List.append_assoc, List.nil_append]
  apply follows_event
  intro chain₁
  apply follows_bind _ follows_session
  intro made chain₂ same
  rw [same]
  apply follows_file
  apply follows_file
  apply follows_event
  intro chain₃
  apply follows_some allowed.obliged
  intro _ _
  apply follows_bind [_, _] follows_receipt
  intro receipt chain₄ written
  rw [written.1, written.2]
  apply follows_event
  intro chain₅
  apply follows_after (tame_attempt _)
  intro _
  apply follows_bind _ (follows_gates allowed.named)
  intro made chain₆ same
  rw [same]
  apply follows_bind [_] follows_appendProjected
  intro made chain₇ closed
  rw [closed.1]
  apply follows_verdict closed.2
  intro verdict reduced
  exact after chain₇ verdict reduced

theorem follows_finishRun {contract : RunContract} (allowed : Allowed o contract) : Follows env.sha256 a.runId given
    (finishRun env a o contract chain projector) chain
    (finishItems env o ++ [.file (.file "meta.json" o.runMeta)])
    fun r chain' => canonicalVerdict env chain'.out = .ok r.1 := by
  apply follows_finish allowed
  intro chain' verdict reduced
  apply follows_after (tame_lift (quiet_projects (only_sealInner _ _ _)))
  intro _
  apply follows_file
  exact follows_pure reduced

theorem follows_finishLive {contract : RunContract} (allowed : Allowed o contract) : Follows env.sha256 a.runId given
    (finishLive env a o contract chain projector) chain (finishItems env o)
    fun r chain' => r = chain'.out := by
  rw [← List.append_nil (finishItems env o)]
  apply follows_finish allowed
  intro chain' verdict reduced
  apply follows_after (tame_lift (quiet_projects (only_sealInner _ _ _)))
  intro _
  exact follows_pure rfl

theorem follows_bound {runId parentRunId : CanonicalRunId} {contract : RunContract}
    {tail : List Item} {end_ : EventChain × LiveLedgerProjector → EventChain → Prop}
    (minted : mintRunId a.runId = .ok runId) (parent : mintRunId a.parentRunId = .ok parentRunId)
    (after : ∀ projector chain, Follows env.sha256 a.runId given (do
      let (sourceReceipt, sourcePatch) ← materializeParentCandidateState env a o
      let chain ← appendProjected env a projector chain (.candidateStateMaterialized parentRunId
        sourceReceipt sourcePatch o.materializedTreeOid)
      pure (chain, projector)) chain tail end_) :
    Follows env.sha256 a.runId given (prepareRun env a o contract) (.new runId)
      (bindItems env a parentRunId contract ++ tail) end_ := by
  unfold prepareRun bindItems
  apply follows_after (tame_attempt _)
  intro _
  apply follows_made minted
  apply follows_made parent
  apply follows_file
  apply follows_file
  apply follows_file
  apply follows_after (tame_attempt _)
  intro _
  apply follows_bind [_] (follows_appendOnly _)
  intro started chain₁ same
  apply follows_after (tame_openProjection _)
  intro _
  apply follows_after (tame_attachRun _ _ _ _ _)
  intro projector
  apply follows_after (tame_lift (quiet_projects (only_projectLive _ _ _)))
  intro _
  rw [same.1]
  apply follows_event
  intro chain₂
  exact after projector chain₂

theorem follows_prepareRun {runId parentRunId : CanonicalRunId} {contract : RunContract}
    (minted : mintRunId a.runId = .ok runId) (parent : mintRunId a.parentRunId = .ok parentRunId) :
    Follows env.sha256 a.runId given (prepareRun env a o contract) (.new runId)
      (prepareItems env a o parentRunId contract) fun r chain' => r.1 = chain' := by
  rw [prepareItems, List.append_assoc]
  apply follows_bound minted parent
  intro projector chain₂
  apply follows_bind _ follows_materialize
  intro copies chain₃ written
  rw [written.1, written.2]
  apply follows_event
  intro chain₄
  exact follows_pure rfl

theorem follows_refusedRun {runId parentRunId : CanonicalRunId} {contract : RunContract}
    (minted : mintRunId a.runId = .ok runId) (parent : mintRunId a.parentRunId = .ok parentRunId)
    (refused : ¬ (given verifiesParent (.ok ()) ∧ given appliesPatch (.ok ()))) :
    Follows env.sha256 a.runId given (continueExecute env a o contract) (.new runId)
      (bindItems env a parentRunId contract ++ copyItems o) fun _ _ => False := by
  have prepared : Follows env.sha256 a.runId given (prepareRun env a o contract) (.new runId)
      (bindItems env a parentRunId contract ++ copyItems o) fun _ _ => False := by
    apply follows_bound minted parent
    intro projector chain₂
    rw [← List.append_nil (copyItems o)]
    apply follows_bind _ (follows_refused refused)
    exact fun _ _ never => never.elim
  rw [← List.append_nil (bindItems env a parentRunId contract ++ copyItems o)]
  apply follows_bind _ prepared
  exact fun _ _ never => never.elim

theorem follows_continueExecute {runId parentRunId : CanonicalRunId} {contract : RunContract}
    (minted : mintRunId a.runId = .ok runId) (parent : mintRunId a.parentRunId = .ok parentRunId)
    (allowed : Allowed o contract) :
    Follows env.sha256 a.runId given (continueExecute env a o contract) (.new runId)
      (continueItems env a o parentRunId contract)
      fun r chain' => canonicalVerdict env chain'.out = .ok r.1 := by
  unfold continueItems
  rw [List.append_assoc]
  apply follows_bind _ (follows_prepareRun minted parent)
  intro prepared chain₁ same
  rw [← same]
  apply follows_event
  intro chain₂
  apply follows_after (tame_invoke _ _)
  intro _
  exact follows_finishRun allowed

theorem follows_executeLive {engine : String} {runId : CanonicalRunId} {contract : RunContract}
    (minted : mintRunId a.runId = .ok runId) (allowed : Allowed o contract) :
    Follows env.sha256 a.runId given (executeLive env engine a o contract) (.new runId)
      (liveItems env a o engine contract) fun r chain' => r = chain'.out := by
  unfold executeLive liveItems
  apply follows_made minted
  apply follows_file
  apply follows_file
  apply follows_after (tame_attempt _)
  intro _
  apply follows_bind [_] (follows_appendOnly _)
  intro started chain₁ same
  apply follows_after (tame_attachRun _ _ _ _ _)
  intro projector
  apply follows_after (tame_lift (quiet_projects (only_projectLive _ _ _)))
  intro _
  rw [same.1]
  apply follows_event
  intro chain₂
  apply follows_after (tame_attempt _)
  intro _
  apply follows_after (tame_persist a o)
  intro _
  exact follows_finishLive allowed

end Walk

section Calm

variable {env : Setting} {a : ContinueArgs} {o : Outside} {chain : EventChain} {β : Type}
  {final : β → Prop} {projector : LiveLedgerProjector} {k : Nat}

theorem sails_event {kind : RunEventKind} {f : EventChain → Fallible Fault β}
    (room : Room (k + 1) chain) (later : ∀ chain', Room k chain' → Sails (f chain') final) :
    Sails (appendProjected env a projector chain kind >>= f) final :=
  sails_bind (sails_appendProjected kind room) later

theorem Room.mono {j : Nat} (room : Room k chain) (le : j ≤ k) : Room j chain :=
  lt_of_le_of_lt (Nat.add_le_add_left le _) room

theorem sails_session (room : Room (k + 1) chain) :
    Sails (captureSession env a o projector chain) (Room k) := by
  unfold captureSession
  cases o.sessionId with
  | none => exact sails_pure (room.mono k.le_succ)
  | some session =>
      apply sails_after (sails_write _ _)
      intro _
      exact sails_appendProjected _ room

theorem sails_receipt : Sails (writeCandidateStateReceipt env a o) fun _ => True := by
  apply sails_after (sails_attempt _)
  intro _
  apply sails_after (sails_write _ _)
  intro _
  apply sails_after (sails_write _ _)
  intro _
  exact sails_pure trivial

theorem sails_gate {step : GateStep} (named : ∃ gate, Run.Id.new .gate step.name = .ok gate)
    (room : Room (k + 2) chain) : Sails (runGate env a projector chain step) (Room k) := by
  unfold runGate
  split
  · apply sails_after (sails_attempt _)
    intro _
    exact sails_pure (room.mono (Nat.le_add_right k 2))
  · rcases named with ⟨gate, minted⟩
    apply sails_made (Fallible.mapError_ok_iff.mpr minted)
    apply sails_event room
    intro chain' left
    apply sails_after (sails_attempt _)
    intro _
    cases step.log with
    | none => exact sails_appendProjected _ left
    | some log =>
        apply sails_after (sails_write _ _)
        intro _
        exact sails_appendProjected _ left

theorem sails_gates {steps : List GateStep}
    (named : ∀ step ∈ steps, ∃ gate, Run.Id.new .gate step.name = .ok gate)
    (room : Room (2 * steps.length + k) chain) :
    Sails (runGates env a projector chain steps) (Room k) := by
  induction steps generalizing chain with
  | nil => exact sails_pure (room.mono (Nat.le_add_left k _))
  | cons step rest ih =>
      rw [List.forall_mem_cons] at named
      have first : Room (2 * rest.length + k + 2) chain := by
        apply room.mono
        rw [List.length_cons]
        omega
      apply sails_bind (sails_gate named.1 first)
      intro chain' left
      exact ih named.2 left

theorem sails_materialize : Sails (materializeParentCandidateState env a o) fun _ => True := by
  apply sails_after (sails_attempt _)
  intro _
  apply sails_after (sails_write _ _)
  intro _
  apply sails_after (sails_write _ _)
  intro _
  apply sails_after (sails_attempt _)
  intro _
  exact sails_pure trivial

theorem sails_verdict {events : List RunEvent} :
    Sails (ofExcept (canonicalVerdict env events)) fun _ => True := by
  change Obeys _ (pure (canonicalVerdict env events)) _ _
  apply obeys_pure
  refine ⟨?_, fun _ _ => trivial⟩
  intro e failed
  unfold canonicalVerdict at failed
  cases reduced : Run.reduceAll env.sha256 events with
  | error why =>
      simp only [reduced] at failed
      cases failed
      exact .rejected
  | ok s =>
      simp only [reduced] at failed
      cases verdict : s.verdict with
      | none =>
          rw [verdict] at failed
          cases failed
          exact .unsealed
      | some v =>
          rw [verdict] at failed
          cases failed

theorem sails_finish {contract : RunContract} {missing : String}
    {f : EventChain → Run.Verdict → Fallible Fault β} (allowed : Allowed o contract)
    (room : Room (2 * o.gates.length + 5) chain)
    (later : ∀ chain' verdict, Sails (f chain' verdict) final) : Sails (do
      let chain ← appendProjected env a projector chain (.agentExited o.outcome)
      let chain ← captureSession env a o projector chain
      writeRecord a.runId (.file "agent.stdout" o.stdout)
      writeRecord a.runId (.file "diff.patch" o.diff)
      let chain ← appendProjected env a projector chain
        (.patchCaptured (artifact env .diff "diff.patch" o.diff))
      let _ ← okOrThrow contract.candidateState missing
      let candidateReceipt ← writeCandidateStateReceipt env a o
      let chain ← appendProjected env a projector chain (.candidateStateCaptured candidateReceipt)
      attempt "validating the gate manifest"
      let chain ← runGates env a projector chain o.gates
      let chain ← appendProjected env a projector chain .runSealed
      let verdict ← ofExcept (canonicalVerdict env chain.out)
      f chain verdict) final := by
  rcases Option.ne_none_iff_exists'.mp allowed.obliged with ⟨obligation, obliged⟩
  apply sails_event room
  intro chain₁ room₁
  apply sails_bind (sails_session room₁)
  intro chain₂ room₂
  apply sails_after (sails_write _ _)
  intro _
  apply sails_after (sails_write _ _)
  intro _
  apply sails_event room₂
  intro chain₃ room₃
  apply sails_some obliged
  apply sails_after sails_receipt
  intro receipt
  apply sails_event room₃
  intro chain₄ room₄
  apply sails_after (sails_attempt _)
  intro _
  apply sails_bind (sails_gates allowed.named room₄)
  intro chain₅ room₅
  apply sails_event room₅
  intro chain₆ _
  apply sails_after sails_verdict
  intro verdict
  exact later chain₆ verdict

theorem room_new {rid : CanonicalRunId} (bounded : k < 2 ^ 64) : Room k (.new rid) := by
  change 0 + k < 2 ^ 64
  rwa [Nat.zero_add]

theorem sails_executeLive {engine : String} {runId : CanonicalRunId} {contract : RunContract}
    (minted : mintRunId a.runId = .ok runId) (allowed : Allowed o contract)
    (bounded : 2 * o.gates.length + 7 < 2 ^ 64) :
    Sails (executeLive env engine a o contract) fun _ => True := by
  unfold executeLive
  apply sails_made minted
  apply sails_after (sails_write _ _)
  intro _
  apply sails_after (sails_write _ _)
  intro _
  apply sails_after (sails_attempt _)
  intro _
  apply sails_bind (sails_appendOnly _ (room_new bounded))
  intro started room₁
  apply sails_after (sails_attachRun _ _ _ _ _)
  intro projector
  apply sails_after (sails_lift _)
  intro _
  apply sails_event room₁
  intro chain₂ room₂
  apply sails_after (sails_attempt _)
  intro _
  apply sails_after (sails_persist o)
  intro _
  apply sails_finish allowed room₂
  intro chain₃ verdict
  apply sails_after (sails_lift _)
  intro _
  exact sails_pure trivial

theorem sails_prepareRun {runId parentRunId : CanonicalRunId} {contract : RunContract}
    (minted : mintRunId a.runId = .ok runId) (parent : mintRunId a.parentRunId = .ok parentRunId)
    (bounded : k + 3 < 2 ^ 64) : Sails (prepareRun env a o contract) fun r => Room k r.1 := by
  unfold prepareRun
  apply sails_after (sails_attempt _)
  intro _
  apply sails_made minted
  apply sails_made parent
  apply sails_after (sails_write _ _)
  intro _
  apply sails_after (sails_write _ _)
  intro _
  apply sails_after (sails_write _ _)
  intro _
  apply sails_after (sails_attempt _)
  intro _
  apply sails_bind (sails_appendOnly _ (room_new bounded))
  intro started room₁
  apply sails_after (sails_openProjection _)
  intro _
  apply sails_after (sails_attachRun _ _ _ _ _)
  intro projector
  apply sails_after (sails_lift _)
  intro _
  apply sails_event room₁
  intro chain₂ room₂
  apply sails_after sails_materialize
  intro copies
  apply sails_event room₂
  intro chain₃ room₃
  exact sails_pure room₃

theorem sails_continueExecute {runId parentRunId : CanonicalRunId} {contract : RunContract}
    (minted : mintRunId a.runId = .ok runId) (parent : mintRunId a.parentRunId = .ok parentRunId)
    (allowed : Allowed o contract) (bounded : 2 * o.gates.length + 9 < 2 ^ 64) :
    Sails (continueExecute env a o contract) fun _ => True := by
  unfold continueExecute
  apply sails_bind (sails_prepareRun minted parent bounded)
  intro prepared room₁
  apply sails_event room₁
  intro chain₂ room₂
  apply sails_after (sails_invoke _ _)
  intro _
  apply sails_finish allowed room₂
  intro chain₃ verdict
  apply sails_after (sails_lift _)
  intro _
  apply sails_after (sails_write _ _)
  intro _
  exact sails_pure trivial

end Calm

end O7Formal.Dispatch
