import O7Formal.Run.Transition

/-! What an accepted stream leaves in the state. Each evidence slot is a record of the
events that fed it; the envelope fields count them. Every result here is about whole
streams and follows by `run_induction` from what one event does. -/

namespace O7Formal.Run

open Fallible SortedSearch

variable {sha256 : Sha256}

def RunState.opened (runId : RunId) (contract : RunContract) (task : ArtifactRef) : RunState :=
  { RunState.initial with
    runId := some runId
    contract := some contract
    task := some task
    phase := .running }

theorem reduceAll_nil {s : RunState} : reduceAll sha256 [] = .ok s ↔ s = .initial := by
  simp only [reduceAll, List.foldlM_nil, pure_ok_iff]
  exact eq_comm

theorem Applied.frame {contract : RunContract} {s t : RunState} {kind : RunEventKind}
    (applied : Applied contract s kind t) :
    t.contract = s.contract ∧ t.runId = s.runId ∧ t.task = s.task ∧
      t.lastSequence = s.lastSequence ∧ t.lastEventDigest = s.lastEventDigest ∧
      t.seenEventIds = s.seenEventIds := by
  cases applied <;> exact ⟨rfl, rfl, rfl, rfl, rfl, rfl⟩

theorem Applied.phase {contract : RunContract} {s t : RunState} {kind : RunEventKind}
    (applied : Applied contract s kind t) : t.phase = s.phase ∨ t.phase = .sealed := by
  cases applied <;> simp

theorem initial_of_notStarted {past : List RunEvent} {s : RunState}
    (run : reduceAll sha256 past = .ok s) (fresh : s.phase = .notStarted) :
    past = [] ∧ s = .initial := by
  revert fresh
  apply run_invariant
    (motive := fun past s => s.phase = .notStarted → past = [] ∧ s = .initial) _ _ run
  · intro _
    exact ⟨rfl, rfl⟩
  · intro past s e t ran ih stepped fresh
    rcases reduce_ok_iff.mp stepped with ⟨envelope, applied, payload, rfl⟩
    exfalso
    generalize e.kind = kind at payload
    cases payload with
    | started => simp [RunState.stamp] at fresh
    | later bound applied =>
        rcases applied.phase with same | sealed
        · have before : s.phase = .notStarted := by rw [← same]; exact fresh
          rw [(ih before).2] at bound
          simp [RunState.initial] at bound
        · simp [RunState.stamp, sealed] at fresh

/-- Induction over an accepted stream: the empty stream, the event that opens it, and
every later one as a transition under the contract bound there. -/
theorem run_induction {motive : List RunEvent → RunState → Prop} (initially : motive [] .initial)
    (opens : ∀ e contract task, e.kind = .runStarted contract task →
      EnvelopeOk sha256 .initial e → contract.Valid →
      motive [e] ((RunState.opened e.runId contract task).stamp e))
    (continues : ∀ past s e contract t, reduceAll sha256 past = .ok s → motive past s →
      EnvelopeOk sha256 s e → s.contract = some contract → Applied contract s e.kind t →
      motive (past ++ [e]) (t.stamp e))
    {events : List RunEvent} {s : RunState} (run : reduceAll sha256 events = .ok s) :
    motive events s := by
  apply run_invariant initially _ run
  intro past s e t ran holds stepped
  rcases reduce_ok_iff.mp stepped with ⟨envelope, applied, payload, rfl⟩
  generalize kind : e.kind = k at payload
  cases payload with
  | @started contract task fresh valid fits =>
      rcases initial_of_notStarted ran fresh with ⟨rfl, rfl⟩
      exact opens e contract task kind envelope valid
  | later bound applied =>
      rw [← kind] at applied
      exact continues past s e _ _ ran holds envelope bound applied

def kinds (events : List RunEvent) : List RunEventKind := events.map RunEvent.kind

theorem carried_snoc {β : Type} (carried : RunEventKind → Option β) (past : List RunEvent)
    (e : RunEvent) : (kinds (past ++ [e])).filterMap carried =
      (kinds past).filterMap carried ++ (carried e.kind).toList := by
  cases carries : carried e.kind <;> simp [kinds, carries]

structure Records {β : Type} (read : RunState → List β) (carried : RunEventKind → Option β) :
    Prop where
  initially : read .initial = []
  opens : ∀ runId contract task, read (.opened runId contract task) =
    (carried (.runStarted contract task)).toList
  applies : ∀ contract s kind t, Applied contract s kind t →
    read t = read s ++ (carried kind).toList
  stamps : ∀ s e, read (s.stamp e) = read s

theorem Records.of_run {β : Type} {read : RunState → List β} {carried : RunEventKind → Option β}
    (records : Records read carried) {events : List RunEvent} {s : RunState}
    (run : reduceAll sha256 events = .ok s) : read s = (kinds events).filterMap carried := by
  apply run_induction
    (motive := fun events s => read s = (kinds events).filterMap carried) _ _ _ run
  · exact records.initially
  · intro e contract task kind _ _
    rw [records.stamps, records.opens]
    cases carries : carried (.runStarted contract task) <;> simp [kinds, kind, carries]
  · intro past s e contract t _ held _ _ applied
    rw [records.stamps, records.applies _ _ _ _ applied, held, carried_snoc]

/-! What each kind of event carries into its slot. -/

def RunEventKind.asStart : RunEventKind → Option (RunContract × ArtifactRef)
  | .runStarted contract task => some (contract, task)
  | _ => none

def RunEventKind.asWorktree : RunEventKind → Option ArtifactRef
  | .worktreeCreated worktree => some worktree
  | _ => none

def RunEventKind.asPatch : RunEventKind → Option ArtifactRef
  | .patchCaptured patch => some patch
  | _ => none

def RunEventKind.asProviderSession : RunEventKind → Option ArtifactRef
  | .providerSessionCaptured receipt => some receipt
  | _ => none

def RunEventKind.asCommandBinding : RunEventKind → Option ArtifactRef
  | .commandBindingCaptured binding => some binding
  | _ => none

def RunEventKind.asCandidateState : RunEventKind → Option ArtifactRef
  | .candidateStateCaptured receipt => some receipt
  | _ => none

def RunEventKind.asMaterialization : RunEventKind → Option CandidateMaterialization
  | .candidateStateMaterialized sourceRunId sourceReceipt sourcePatch materializedTreeOid =>
      some ⟨sourceRunId, sourceReceipt, sourcePatch, materializedTreeOid⟩
  | _ => none

def RunEventKind.asPolicyResult : RunEventKind → Option PolicyResult
  | .policyChecked policy outcome => some ⟨policy, outcome⟩
  | _ => none

def RunEventKind.asSandboxEvidence : RunEventKind → Option SandboxEvidenceEntry
  | .sandboxEvidenceCaptured subject policyDigest _ outcome =>
      some ⟨⟨subject, policyDigest⟩, outcome⟩
  | _ => none

def RunEventKind.asAgentStart : RunEventKind → Option Unit
  | .agentStarted => some ()
  | _ => none

def RunEventKind.asAgentExit : RunEventKind → Option AgentOutcome
  | .agentExited outcome => some outcome
  | _ => none

def RunEventKind.asGateStart (gate : GateId) : RunEventKind → Option Unit
  | .gateStarted started => if started = gate then some () else none
  | _ => none

def RunEventKind.asGateFinish (gate : GateId) : RunEventKind → Option GateOutcome
  | .gateFinished finished outcome _ => if finished = gate then some outcome else none
  | _ => none

@[simp] theorem asAgentStart_eq_some {kind : RunEventKind} {u : Unit} :
    kind.asAgentStart = some u ↔ kind = .agentStarted := by
  cases kind <;> simp [RunEventKind.asAgentStart]

@[simp] theorem asAgentExit_eq_some {kind : RunEventKind} {outcome : AgentOutcome} :
    kind.asAgentExit = some outcome ↔ kind = .agentExited outcome := by
  cases kind <;> simp [RunEventKind.asAgentExit]

@[simp] theorem asGateStart_eq_some {gate : GateId} {kind : RunEventKind} {u : Unit} :
    kind.asGateStart gate = some u ↔ kind = .gateStarted gate := by
  cases kind <;> simp [RunEventKind.asGateStart]

@[simp] theorem asGateFinish_eq_some {gate : GateId} {kind : RunEventKind} {outcome : GateOutcome} :
    kind.asGateFinish gate = some outcome ↔ ∃ log, kind = .gateFinished gate outcome log := by
  cases kind <;> simp [RunEventKind.asGateFinish]

@[simp] theorem asPolicyResult_eq_some {kind : RunEventKind} {r : PolicyResult} :
    kind.asPolicyResult = some r ↔ kind = .policyChecked r.policy r.outcome := by
  rcases r with ⟨policy, outcome⟩
  cases kind <;> simp [RunEventKind.asPolicyResult]

@[simp] theorem asSandboxEvidence_eq_some {kind : RunEventKind} {e : SandboxEvidenceEntry} :
    kind.asSandboxEvidence = some e ↔ ∃ report,
      kind = .sandboxEvidenceCaptured e.key.subject e.key.policyDigest report e.outcome := by
  rcases e with ⟨⟨subject, policyDigest⟩, outcome⟩
  cases kind <;> simp [RunEventKind.asSandboxEvidence, and_assoc]

@[simp] theorem asCandidateState_eq_some {kind : RunEventKind} {receipt : ArtifactRef} :
    kind.asCandidateState = some receipt ↔ kind = .candidateStateCaptured receipt := by
  cases kind <;> simp [RunEventKind.asCandidateState]

@[simp] theorem asMaterialization_eq_some {kind : RunEventKind} {m : CandidateMaterialization} :
    kind.asMaterialization = some m ↔ kind = .candidateStateMaterialized m.sourceRunId
      m.sourceReceipt m.sourcePatch m.materializedTreeOid := by
  rcases m with ⟨sourceRunId, sourceReceipt, sourcePatch, materializedTreeOid⟩
  cases kind <;> simp [RunEventKind.asMaterialization]

@[simp] theorem asCommandBinding_eq_some {kind : RunEventKind} {binding : ArtifactRef} :
    kind.asCommandBinding = some binding ↔ kind = .commandBindingCaptured binding := by
  cases kind <;> simp [RunEventKind.asCommandBinding]

theorem mem_carried {β : Type} {carried : RunEventKind → Option β} {events : List RunEvent}
    {x : β} : x ∈ (kinds events).filterMap carried ↔ ∃ e ∈ events, carried e.kind = some x := by
  simp [kinds, List.mem_filterMap]

theorem Records.filled_iff {β : Type} {slot : RunState → Option β}
    {carried : RunEventKind → Option β} (records : Records (fun s => (slot s).toList) carried)
    {events : List RunEvent} {s : RunState} (run : reduceAll sha256 events = .ok s) :
    slot s ≠ none ↔ ∃ e ∈ events, ∃ x, carried e.kind = some x := by
  have member : ∀ x, slot s = some x ↔ ∃ e ∈ events, carried e.kind = some x := by
    intro x
    rw [← mem_carried, ← records.of_run run, Option.mem_toList]
  rw [Option.ne_none_iff_exists']
  simp only [member]
  constructor
  · intro filled
    rcases filled with ⟨x, e, listed, carries⟩
    exact ⟨e, listed, x, carries⟩
  · intro accepted
    rcases accepted with ⟨e, listed, x, carries⟩
    exact ⟨x, e, listed, carries⟩

theorem records_worktree :
    Records (fun s => s.worktree.toList) RunEventKind.asWorktree where
  initially := rfl
  opens _ _ _ := rfl
  applies _ _ _ _ applied := by
    cases applied <;> simp_all [RunEventKind.asWorktree]
  stamps _ _ := rfl

theorem records_patch : Records (fun s => s.patch.toList) RunEventKind.asPatch where
  initially := rfl
  opens _ _ _ := rfl
  applies _ _ _ _ applied := by
    cases applied <;> simp_all [RunEventKind.asPatch]
  stamps _ _ := rfl

theorem records_providerSession :
    Records (fun s => s.providerSessionReceipt.toList) RunEventKind.asProviderSession where
  initially := rfl
  opens _ _ _ := rfl
  applies _ _ _ _ applied := by
    cases applied <;> simp_all [RunEventKind.asProviderSession]
  stamps _ _ := rfl

theorem records_commandBinding :
    Records (fun s => s.commandBinding.toList) RunEventKind.asCommandBinding where
  initially := rfl
  opens _ _ _ := rfl
  applies _ _ _ _ applied := by
    cases applied <;> simp_all [RunEventKind.asCommandBinding]
  stamps _ _ := rfl

theorem records_candidateState :
    Records (fun s => s.candidateState.toList) RunEventKind.asCandidateState where
  initially := rfl
  opens _ _ _ := rfl
  applies _ _ _ _ applied := by
    cases applied <;> simp_all [RunEventKind.asCandidateState]
  stamps _ _ := rfl

theorem records_materialization :
    Records (fun s => s.candidateMaterialized.toList) RunEventKind.asMaterialization where
  initially := rfl
  opens _ _ _ := rfl
  applies _ _ _ _ applied := by
    cases applied <;> simp_all [RunEventKind.asMaterialization]
  stamps _ _ := rfl

theorem records_policyResults : Records RunState.policyResults RunEventKind.asPolicyResult where
  initially := rfl
  opens _ _ _ := rfl
  applies _ _ _ _ applied := by
    cases applied <;> simp [RunEventKind.asPolicyResult]
  stamps _ _ := rfl

theorem records_start :
    Records (fun s => (s.contract.bind fun c => s.task.map (c, ·)).toList)
      RunEventKind.asStart where
  initially := rfl
  opens _ _ _ := rfl
  applies _ s _ t applied := by
    cases applied <;> simp [RunEventKind.asStart]
  stamps _ _ := rfl

def AgentLifecycle.exits : AgentLifecycle → List AgentOutcome
  | .exited outcome => [outcome]
  | .notObserved | .started => []

theorem records_agentExit : Records (fun s => s.agent.exits) RunEventKind.asAgentExit where
  initially := rfl
  opens _ _ _ := rfl
  applies _ s _ _ applied := by
    cases applied with
    | agentExited declared running =>
        rcases running with started | ⟨unseen, _⟩ <;>
          simp [RunEventKind.asAgentExit, AgentLifecycle.exits, *]
    | agentStarted declared fresh =>
        simp [RunEventKind.asAgentExit, AgentLifecycle.exits, fresh]
    | _ => simp [RunEventKind.asAgentExit]
  stamps _ _ := rfl

def GateProgress.outcomes : Option GateProgress → List GateOutcome
  | some (.finished outcome) => [outcome]
  | some .started | none => []

theorem records_gateStart (gate : GateId) :
    Records (fun s => (s.gates.lookup gate).toList.map fun _ => ())
      (RunEventKind.asGateStart gate) where
  initially := rfl
  opens _ _ _ := rfl
  applies _ s _ _ applied := by
    cases applied with
    | @gateStarted other declared fresh allowed =>
        by_cases same : other = gate
        · subst same
          simp [RunEventKind.asGateStart, fresh]
        · simp [RunEventKind.asGateStart, same, Finmap.lookup_insert_of_ne _ (Ne.symm same)]
    | @gateFinished other outcome log declared fits running =>
        by_cases same : other = gate
        · subst same
          simp [RunEventKind.asGateStart, running]
        · simp [RunEventKind.asGateStart, Finmap.lookup_insert_of_ne _ (Ne.symm same)]
    | _ => simp [RunEventKind.asGateStart]
  stamps _ _ := rfl

theorem records_gateFinish (gate : GateId) :
    Records (fun s => GateProgress.outcomes (s.gates.lookup gate))
      (RunEventKind.asGateFinish gate) where
  initially := rfl
  opens _ _ _ := rfl
  applies _ s _ _ applied := by
    cases applied with
    | @gateStarted other declared fresh allowed =>
        by_cases same : other = gate
        · subst same
          simp [RunEventKind.asGateFinish, GateProgress.outcomes, fresh]
        · simp [RunEventKind.asGateFinish, Finmap.lookup_insert_of_ne _ (Ne.symm same)]
    | @gateFinished other outcome log declared fits running =>
        by_cases same : other = gate
        · subst same
          simp [RunEventKind.asGateFinish, GateProgress.outcomes, running]
        · simp [RunEventKind.asGateFinish, same, Finmap.lookup_insert_of_ne _ (Ne.symm same)]
    | _ => simp [RunEventKind.asGateFinish]
  stamps _ _ := rfl

theorem kinds_snoc (past : List RunEvent) (e : RunEvent) :
    kinds (past ++ [e]) = kinds past ++ [e.kind] := by
  simp [kinds]

theorem mem_kinds {events : List RunEvent} {kind : RunEventKind} :
    kind ∈ kinds events ↔ ∃ e ∈ events, e.kind = kind := by
  simp [kinds]

theorem sandboxEvidence_of_run {events : List RunEvent} {s : RunState}
    (run : reduceAll sha256 events = .ok s) :
    Increasing SandboxEvidenceEntry.key s.sandboxEvidence ∧
      s.sandboxEvidence.Perm ((kinds events).filterMap RunEventKind.asSandboxEvidence) := by
  apply run_induction (motive := fun events s =>
    Increasing SandboxEvidenceEntry.key s.sandboxEvidence ∧
      s.sandboxEvidence.Perm ((kinds events).filterMap RunEventKind.asSandboxEvidence)) _ _ _ run
  · exact ⟨List.Pairwise.nil, .refl _⟩
  · intro e contract task kind _ _
    simp [kinds, kind, RunEventKind.asSandboxEvidence, RunState.opened, RunState.initial,
      Increasing]
  · intro past s e contract t _ held _ _ applied
    rcases held with ⟨sorted, holds⟩
    rw [carried_snoc]
    generalize e.kind = kind at applied
    cases applied with
    | @sandboxEvidenceCaptured subject policyDigest report outcome fits declared fresh =>
        rcases insertByKey_spec (x := ⟨⟨subject, policyDigest⟩, outcome⟩) sorted fresh with
          ⟨sorted', inserted⟩
        refine ⟨sorted', inserted.trans ?_⟩
        exact (List.Perm.cons _ holds).trans (List.perm_append_singleton _ _).symm
    | _ => exact ⟨sorted, by simpa [RunEventKind.asSandboxEvidence] using holds⟩

def AgentLifecycle.StartedBy : AgentLifecycle → List Unit → Prop
  | .notObserved, starts => starts = []
  | .started, starts => starts = [()]
  | .exited outcome, starts =>
      starts = [()] ∨ starts = [] ∧ ∃ reason, outcome = .failedToStart reason

theorem agentStarts_of_run {events : List RunEvent} {s : RunState}
    (run : reduceAll sha256 events = .ok s) :
    s.agent.StartedBy ((kinds events).filterMap RunEventKind.asAgentStart) := by
  apply run_induction (motive := fun events s =>
    s.agent.StartedBy ((kinds events).filterMap RunEventKind.asAgentStart)) _ _ _ run
  · exact rfl
  · intro e contract task kind _ _
    simp [kinds, kind, RunEventKind.asAgentStart, RunState.opened, RunState.initial,
      RunState.stamp, AgentLifecycle.StartedBy]
  · intro past s e contract t _ held _ _ applied
    rw [carried_snoc]
    generalize e.kind = kind at applied
    cases applied with
    | agentStarted declared fresh materialized allowed =>
        rw [fresh] at held
        have none : (kinds past).filterMap RunEventKind.asAgentStart = [] := held
        simp [RunEventKind.asAgentStart, AgentLifecycle.StartedBy, none]
    | agentExited declared running =>
        rcases running with started | ⟨unseen, reason⟩
        · rw [started] at held
          have one : (kinds past).filterMap RunEventKind.asAgentStart = [()] := held
          simp [RunEventKind.asAgentStart, AgentLifecycle.StartedBy, one]
        · rw [unseen] at held
          have none : (kinds past).filterMap RunEventKind.asAgentStart = [] := held
          simpa [RunEventKind.asAgentStart, AgentLifecycle.StartedBy, none]
            using reason
    | _ => simpa [RunEventKind.asAgentStart] using held

/-- Phase and verdict follow the seal, which is the last event of its stream. -/
structure Sealing (events : List RunEvent) (s : RunState) : Prop where
  verdict : s.verdict.isSome = true ↔ s.phase = .sealed
  last : s.phase = .sealed ↔ (kinds events).getLast? = some .runSealed
  occurs : s.phase = .sealed ↔ .runSealed ∈ kinds events
  collapsed : ∀ contract ∈ s.contract, s.phase = .sealed →
    s.verdict = some (computeVerdict s contract)

theorem sealing_of_run {events : List RunEvent} {s : RunState}
    (run : reduceAll sha256 events = .ok s) : Sealing events s := by
  apply run_induction (motive := Sealing) _ _ _ run
  · exact ⟨by decide, by decide, by decide, by decide⟩
  · intro e contract task kind _ _
    constructor <;> simp [kinds, kind, RunState.opened, RunState.initial]
  · intro past s e contract t _ held envelope bound applied
    have unsealed := envelope.unsealed
    have unseen := mt held.occurs.mpr unsealed
    have undecided : s.verdict = none := by
      have absent := mt held.verdict.mp unsealed
      simpa using absent
    generalize ekind : e.kind = kind at applied
    cases applied with
    | runSealed =>
        constructor
        · simp
        · simp [kinds, ekind]
        · simp [kinds, ekind]
        · intro contract' present _
          have same : contract = contract' := by simpa [bound] using present
          subst same
          rfl
    | _ => constructor <;> simp [kinds_snoc, ekind, undecided, unsealed, unseen]

/-- The envelope fields of the state: a dense counter, a set of distinct ids, and the
digest the next event must link to. -/
structure Enveloped (events : List RunEvent) (s : RunState) : Prop where
  lastSequence : s.lastSequence =
    if events = [] then none else some (UInt64.ofNat (events.length - 1))
  lastEventDigest : s.lastEventDigest = (events.getLast?.map RunEvent.eventDigest).getD .genesis
  seenEventIds : s.seenEventIds = (events.map RunEvent.eventId).toFinset
  distinctIds : (events.map RunEvent.eventId).Nodup

theorem enveloped_of_run {events : List RunEvent} {s : RunState}
    (run : reduceAll sha256 events = .ok s) : Enveloped events s := by
  apply run_invariant (motive := Enveloped) _ _ run
  · exact ⟨rfl, rfl, rfl, List.nodup_nil⟩
  · intro past s e t _ held stepped
    rcases reduce_ok_iff.mp stepped with ⟨envelope, applied, payload, rfl⟩
    have ids : applied.seenEventIds = s.seenEventIds := by
      generalize e.kind = kind at payload
      cases payload with
      | started => rfl
      | later bound applied => exact applied.frame.2.2.2.2.2
    have unseen : e.eventId ∉ past.map RunEvent.eventId := by
      have fresh := envelope.freshId
      rw [held.seenEventIds] at fresh
      simpa using fresh
    constructor
    · have next := envelope.sequence
      rw [held.lastSequence] at next
      by_cases empty : past = []
      · simp [next, empty]
      · have counted : past.length - 1 + 1 = past.length := by
          have positive := List.length_pos_of_ne_nil empty
          omega
        have advanced : UInt64.ofNat (past.length - 1) + 1 = UInt64.ofNat past.length := by
          rw [← counted, UInt64.ofNat_add]
          simp
        simp [next, empty, advanced]
    · simp
    · simp only [RunState.stamp_seenEventIds, ids, held.seenEventIds]
      ext id
      simp
    · rw [List.map_append, List.nodup_append]
      refine ⟨held.distinctIds, by simp, ?_⟩
      intro id member other same
      rw [List.map_singleton, List.mem_singleton] at same
      subst same
      intro clash
      exact unseen (clash ▸ member)

structure Declared (contract : RunContract) (s : RunState) : Prop where
  gates : ∀ gate, s.gates.lookup gate ≠ none → gateObligation contract gate ≠ none
  policies : ∀ r ∈ s.policyResults,
    ∃ o ∈ contract.policyObligations, o.policy.digest = r.policy.digest
  distinctPolicies : (s.policyResults.map fun r => r.policy.digest).Nodup
  sandbox : ∀ e ∈ s.sandboxEvidence, ∃ r ∈ contract.sandboxRequirements,
    r.subject = e.key.subject ∧ r.policyDigest = e.key.policyDigest
  agent : s.agent ≠ .notObserved → contract.agent = .required

theorem Applied.declared {contract : RunContract} {s t : RunState} {kind : RunEventKind}
    (applied : Applied contract s kind t)
    (sorted : Increasing SandboxEvidenceEntry.key s.sandboxEvidence)
    (held : Declared contract s) : Declared contract t := by
  cases applied with
  | @gateStarted gate declared fresh allowed =>
      refine ⟨?_, held.policies, held.distinctPolicies, held.sandbox, held.agent⟩
      intro other present
      by_cases same : other = gate
      · exact same ▸ declared
      · exact held.gates other (by simpa [Finmap.lookup_insert_of_ne _ same] using present)
  | @gateFinished gate outcome log declared fits running =>
      refine ⟨?_, held.policies, held.distinctPolicies, held.sandbox, held.agent⟩
      intro other present
      by_cases same : other = gate
      · exact same ▸ declared
      · exact held.gates other (by simpa [Finmap.lookup_insert_of_ne _ same] using present)
  | policyChecked fits declared fresh =>
      refine ⟨held.gates, ?_, ?_, held.sandbox, held.agent⟩
      · intro r member
        rcases List.mem_append.mp member with old | new
        · exact held.policies r old
        · rw [List.mem_singleton] at new
          exact new ▸ declared
      · simp only [List.map_append, List.map_cons, List.map_nil]
        rw [List.nodup_append]
        refine ⟨held.distinctPolicies, by simp, ?_⟩
        intro digest member other new
        rcases List.mem_map.mp member with ⟨r, old, rfl⟩
        rw [List.mem_singleton] at new
        exact new ▸ fresh r old
  | @sandboxEvidenceCaptured subject policyDigest report outcome fits declared fresh =>
      refine ⟨held.gates, held.policies, held.distinctPolicies, ?_, held.agent⟩
      intro e member
      have inserted := (insertByKey_spec (x := ⟨⟨subject, policyDigest⟩, outcome⟩) sorted fresh).2
      rcases List.mem_cons.mp (inserted.mem_iff.mp member) with new | old
      · exact new ▸ declared
      · exact held.sandbox e old
  | agentStarted declared fresh materialized allowed =>
      exact ⟨held.gates, held.policies, held.distinctPolicies, held.sandbox, fun _ => declared⟩
  | agentExited declared running =>
      exact ⟨held.gates, held.policies, held.distinctPolicies, held.sandbox, fun _ => declared⟩
  | _ => exact ⟨held.gates, held.policies, held.distinctPolicies, held.sandbox, held.agent⟩

theorem declared_of_run {events : List RunEvent} {s : RunState}
    (run : reduceAll sha256 events = .ok s) : ∀ contract ∈ s.contract, Declared contract s := by
  apply run_induction
    (motive := fun _ s => ∀ contract ∈ s.contract, Declared contract s) _ _ _ run
  · intro contract present
    cases present
  · intro e contract task kind _ _ contract' present
    constructor <;> simp [RunState.opened, RunState.initial]
  · intro past s e contract t ran held envelope bound applied contract' present
    have same : contract = contract' := by
      simpa [applied.frame.1, bound] using present
    subst same
    have declared := applied.declared (sandboxEvidence_of_run ran).1 (held contract bound)
    exact ⟨declared.gates, declared.policies, declared.distinctPolicies, declared.sandbox,
      declared.agent⟩

/-- The opening event: it alone starts the run, and its contract and id stay bound. -/
structure Opened (first : RunEvent) (rest : List RunEvent) (contract : RunContract)
    (task : ArtifactRef) (s : RunState) : Prop where
  kind : first.kind = .runStarted contract task
  valid : contract.Valid
  contract : s.contract = some contract
  task : s.task = some task
  runId : s.runId = some first.runId
  onlyStart : ∀ e ∈ rest, e.kind.isRunStarted = false
  sameRun : ∀ e ∈ rest, e.runId = first.runId

theorem Opened.ownRun {first : RunEvent} {rest : List RunEvent} {contract : RunContract}
    {task : ArtifactRef} {s : RunState} (opened : Opened first rest contract task s) :
    ∀ e ∈ first :: rest, e.runId = first.runId := by
  intro e member
  rcases List.mem_cons.mp member with rfl | later
  · rfl
  · exact opened.sameRun e later

theorem opened_of_run {events : List RunEvent} {s : RunState}
    (run : reduceAll sha256 events = .ok s) :
    events = [] ∧ s = .initial ∨
      ∃ first rest contract task, events = first :: rest ∧ Opened first rest contract task s := by
  apply run_induction (motive := fun events s => events = [] ∧ s = .initial ∨
    ∃ first rest contract task, events = first :: rest ∧ Opened first rest contract task s) _ _ _ run
  · exact .inl ⟨rfl, rfl⟩
  · intro e contract task kind _ valid
    exact .inr ⟨e, [], contract, task, rfl, kind, valid, rfl, rfl, rfl, by simp, by simp⟩
  · intro past s e contract t _ held envelope bound applied
    rcases held with ⟨_, rfl⟩ | ⟨first, rest, contract', task, rfl, opened⟩
    · cases bound
    · have frame := applied.frame
      refine .inr ⟨first, rest ++ [e], contract', task, rfl, opened.kind, opened.valid,
        frame.1.trans opened.contract, frame.2.2.1.trans opened.task,
        frame.2.1.trans opened.runId, ?_, ?_⟩
      · intro other member
        rcases List.mem_append.mp member with old | new
        · exact opened.onlyStart other old
        · rw [List.mem_singleton] at new
          subst new
          generalize other.kind = kind at applied
          cases applied <;> rfl
      · intro other member
        rcases List.mem_append.mp member with old | new
        · exact opened.sameRun other old
        · rw [List.mem_singleton] at new
          subst new
          exact envelope.sameRun first.runId opened.runId

theorem split_of_kinds {events : List RunEvent} {early late : List RunEventKind}
    {kind : RunEventKind} (listed : kinds events = early ++ kind :: late) :
    ∃ before e after, events = before ++ e :: after ∧ kinds before = early ∧ e.kind = kind := by
  rcases List.map_eq_append_iff.mp listed with ⟨before, others, rfl, first, second⟩
  rcases List.map_eq_cons_iff.mp second with ⟨e, after, rfl, same, _⟩
  exact ⟨before, e, after, rfl, first, same⟩

def RunsUnder (events : List RunEvent) (contract : RunContract) : Prop :=
  ∃ first rest task, events = first :: rest ∧ first.kind = .runStarted contract task

theorem runsUnder_of_kinds {events : List RunEvent} {contract : RunContract} {task : ArtifactRef}
    {later : List RunEventKind} (listed : kinds events = .runStarted contract task :: later) :
    RunsUnder events contract := by
  rcases List.map_eq_cons_iff.mp listed with ⟨first, rest, shape, kind, _⟩
  exact ⟨first, rest, task, shape, kind⟩

theorem contract_of_runsUnder {events : List RunEvent} {s : RunState} {contract : RunContract}
    (run : reduceAll sha256 events = .ok s) (under : RunsUnder events contract) :
    s.contract = some contract := by
  rcases under with ⟨first, rest, task, rfl, kind⟩
  rcases opened_of_run run with ⟨empty, _⟩ | ⟨first', rest', contract', task', same, opened⟩
  · cases empty
  · cases same
    have bound := opened.kind.symm.trans kind
    simp only [RunEventKind.runStarted.injEq] at bound
    rw [opened.contract, bound.1]

theorem transition_at {before after : List RunEvent} {e : RunEvent} {s : RunState}
    {contract : RunContract} (run : reduceAll sha256 (before ++ e :: after) = .ok s)
    (under : RunsUnder (before ++ e :: after) contract) (later : e.kind.isRunStarted = false) :
    ∃ b t, reduceAll sha256 before = .ok b ∧ Applied contract b e.kind t := by
  rcases run_split run with ⟨b, t, ran, stepped, _⟩
  rcases reduce_ok_iff.mp stepped with ⟨_, applied, payload, rfl⟩
  have begun : RunsUnder before contract := by
    rcases under with ⟨first, rest, task, shape, kind⟩
    cases before with
    | nil =>
        cases shape
        rw [kind] at later
        cases later
    | cons head tail =>
        cases shape
        exact ⟨first, tail, task, rfl, kind⟩
  refine ⟨b, applied, ran, ?_⟩
  generalize e.kind = kind at payload later
  cases payload with
  | started => cases later
  | later bound transition =>
      have same := bound.symm.trans (contract_of_runsUnder ran begun)
      cases same
      exact transition

end O7Formal.Run
