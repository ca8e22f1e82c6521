import O7Formal.Run.History

/-! The minting side of the stream. A chain stamps every payload with the next sequence
number, the digest before it and an id of its own, so that the envelope of a minted event
always fits and the reducer's answer depends on the payloads alone. -/

namespace O7Formal.Run

open Fallible

variable {sha256 : Sha256}

inductive PushError where
  | eventId (error : IdError)
  | clock
  | sequenceOverflow
  deriving DecidableEq, Repr

structure EventChain where
  runId : RunId
  seq : UInt64
  prev : Digest256
  out : List RunEvent

def EventChain.new (runId : RunId) : EventChain := ⟨runId, 0, .genesis, []⟩

def EventChain.idText (runId : RunId) (seq : Nat) : String :=
  runId.asStr ++ "-e" ++ seq.repr

def EventChain.mint (sha256 : Sha256) (chain : EventChain) (eventId : RunEventId) (now : Int64)
    (kind : RunEventKind) : RunEvent :=
  let event : RunEvent :=
    { eventId := eventId
      schemaVersion := runEventSchemaVersion
      runId := chain.runId
      sequence := chain.seq
      previousEventDigest := chain.prev
      eventDigest := .genesis
      timestampMillis := now
      kind := kind }
  { event with eventDigest := event.computeDigest sha256 }

/-- Mint one event and append it. `now` is the clock in milliseconds, `none` where it
stands before the epoch or does not fit. -/
def EventChain.push (sha256 : Sha256) (chain : EventChain) (now : Option Int64)
    (kind : RunEventKind) : Except PushError EventChain := do
  let eventId ← (Id.new .runEvent (idText chain.runId chain.seq.toNat)).mapError .eventId
  match now with
  | none => .error .clock
  | some now =>
      let event := chain.mint sha256 eventId now kind
      refuseIf (chain.seq.toNat + 1 = 2 ^ 64) .sequenceOverflow
      pure { chain with
              prev := event.eventDigest
              seq := chain.seq + 1
              out := chain.out ++ [event] }

def EventChain.pushAll (sha256 : Sha256) (chain : EventChain)
    (payloads : List (Option Int64 × RunEventKind)) : Except PushError EventChain :=
  payloads.foldlM (fun chain payload => chain.push sha256 payload.1 payload.2) chain

theorem EventChain.idText_injective (runId : RunId) : Function.Injective (idText runId) := by
  intro i j same
  have digits : i.repr = j.repr := by
    have cut := congrArg String.toList same
    simp only [idText, String.toList_append, List.append_cancel_left_eq] at cut
    exact String.toList_inj.mp cut
  have value := congrArg (fun text => Nat.ofDigitChars 10 text.toList 0) digits
  simpa only [Nat.toList_repr, Nat.ofDigitChars_ten_toDigits] using value

theorem EventChain.mint_consistent (chain : EventChain) (eventId : RunEventId) (now : Int64)
    (kind : RunEventKind) :
    (chain.mint sha256 eventId now kind).digestIsConsistent sha256 = true := by
  simp [mint, RunEvent.digestIsConsistent, RunEvent.computeDigest, RunEvent.preimage]

inductive PayloadRun (runId : RunId) : RunState → List RunEventKind → RunState → Prop where
  | nil {s : RunState} : PayloadRun runId s [] s
  | cons {s t u : RunState} {kind : RunEventKind} {later : List RunEventKind}
      (unsealed : s.phase ≠ .sealed) (step : PayloadStep s runId kind t)
      (rest : PayloadRun runId t later u) : PayloadRun runId s (kind :: later) u

theorem PayloadRun.append {runId : RunId} {s t u : RunState} {first later : List RunEventKind}
    (before : PayloadRun runId s first t) (after : PayloadRun runId t later u) :
    PayloadRun runId s (first ++ later) u := by
  induction before with
  | nil => exact after
  | cons unsealed step _ ih => exact .cons unsealed step (ih after)

theorem PayloadRun.split {runId : RunId} {s u : RunState} {first later : List RunEventKind}
    (run : PayloadRun runId s (first ++ later) u) :
    ∃ t, PayloadRun runId s first t ∧ PayloadRun runId t later u := by
  induction first generalizing s with
  | nil => exact ⟨s, .nil, run⟩
  | cons kind rest ih =>
      cases run with
      | cons unsealed step after =>
          rcases ih after with ⟨t, before, after'⟩
          exact ⟨t, .cons unsealed step before, after'⟩

theorem PayloadRun.later {runId : RunId} {c : RunContract} {s t u : RunState}
    {kind : RunEventKind} {rest : List RunEventKind} (bound : s.contract = some c)
    (running : s.phase = .running) (applied : Applied c s kind t)
    (after : PayloadRun runId t rest u) : PayloadRun runId s (kind :: rest) u := by
  have unsealed : s.phase ≠ .sealed := by
    rw [running]
    decide
  exact .cons unsealed (.later bound applied) after

theorem PayloadRun.sealed_end {runId : RunId} {s t : RunState} {payloads : List RunEventKind}
    (run : PayloadRun runId s payloads t) (sealed : s.phase = .sealed) : payloads = [] ∧ t = s := by
  cases run with
  | nil => exact ⟨rfl, rfl⟩
  | cons unsealed => exact absurd sealed unsealed

theorem PayloadRun.sealed_of_mem {runId : RunId} {s t : RunState} {payloads : List RunEventKind}
    (run : PayloadRun runId s payloads t) (member : .runSealed ∈ payloads) :
    t.phase = .sealed := by
  induction run with
  | nil => cases member
  | @cons s t u kind later unsealed step rest ih =>
      rcases List.mem_cons.mp member with rfl | after
      · cases step with
        | later bound applied =>
            cases applied
            rw [(rest.sealed_end rfl).2]
      · exact ih after

def RunState.withEnvelope (s envelope : RunState) : RunState :=
  { s with
    seenEventIds := envelope.seenEventIds
    lastSequence := envelope.lastSequence
    lastEventDigest := envelope.lastEventDigest }

theorem PayloadStep.withEnvelope {s t : RunState} {runId : RunId} {kind : RunEventKind}
    (step : PayloadStep s runId kind t) (envelope : RunState) :
    PayloadStep (s.withEnvelope envelope) runId kind (t.withEnvelope envelope) := by
  cases step with
  | started fresh valid fits => exact .started fresh valid fits
  | later bound applied =>
      refine .later bound ?_
      cases applied <;> constructor <;> assumption

structure EventChain.Tracks (chain : EventChain) (s : RunState) : Prop where
  run : ∀ runId ∈ s.runId, runId = chain.runId
  prev : s.lastEventDigest = chain.prev
  seq : s.lastSequence.elim 0 (· + 1) = chain.seq
  ids : ∀ id ∈ s.seenEventIds, ∃ n < chain.seq.toNat, id.asStr = idText chain.runId n
  unbound : s.phase = .notStarted → s.contract = none

theorem EventChain.tracks_new (runId : RunId) : (EventChain.new runId).Tracks .initial := by
  constructor <;> simp [RunState.initial, EventChain.new]

theorem EventChain.push_fails {chain : EventChain} {now : Option Int64} {kind : RunEventKind} :
    FailsWithin (fun e => e = .clock ∨ e = .sequenceOverflow) (chain.push sha256 now kind) := by
  intro e failed
  have nonempty : idText chain.runId chain.seq.toNat ≠ "" := by
    simp [idText]
  have minted : (Id.new .runEvent (idText chain.runId chain.seq.toNat)).mapError
      PushError.eventId = .ok ⟨_, nonempty⟩ := by
    simp [Id.new, nonempty, Except.mapError]
  rw [push, minted, ok_bind] at failed
  cases now with
  | none =>
      cases failed
      exact .inl rfl
  | some time =>
      rcases bind_error_iff.mp failed with full | ⟨_, _, never⟩
      · rw [← (refuseIf_error_iff.mp full).2]
        exact .inr rfl
      · cases never

theorem EventChain.push_ok {chain chain' : EventChain} {now : Option Int64} {kind : RunEventKind}
    (pushed : chain.push sha256 now kind = .ok chain') :
    ∃ eventId time, eventId.asStr = idText chain.runId chain.seq.toNat ∧
      chain.seq.toNat + 1 < 2 ^ 64 ∧
      chain' = { chain with
        prev := (chain.mint sha256 eventId time kind).eventDigest
        seq := chain.seq + 1
        out := chain.out ++ [chain.mint sha256 eventId time kind] } := by
  cases now with
  | none =>
      rcases bind_ok_iff.mp pushed with ⟨eventId, minted, failed⟩
      cases failed
  | some time =>
      rcases bind_ok_iff.mp pushed with ⟨eventId, minted, rest⟩
      simp only [bind_ok_iff, refuseIf_ok_iff, pure_ok_iff, exists_const] at rest
      rcases rest with ⟨bounded, rfl⟩
      refine ⟨eventId, time, ?_, ?_, rfl⟩
      · unfold Id.new at minted
        split at minted
        · cases minted
        · simp only [Except.mapError, Except.ok.injEq] at minted
          rw [← minted]
      · have limit := chain.seq.toNat_lt
        omega

theorem EventChain.reduce_minted (sha256 : Sha256) (time : Int64) {chain : EventChain}
    {s t : RunState} {kind : RunEventKind} {eventId : RunEventId} (tracks : chain.Tracks s)
    (unsealed : s.phase ≠ .sealed)
    (step : PayloadStep s chain.runId kind t)
    (named : eventId.asStr = idText chain.runId chain.seq.toNat) :
    reduce sha256 s (chain.mint sha256 eventId time kind) =
      .ok (t.stamp (chain.mint sha256 eventId time kind)) := by
  have fresh : eventId ∉ s.seenEventIds := by
    intro seen
    rcases tracks.ids eventId seen with ⟨n, earlier, text⟩
    have same := idText_injective chain.runId (text.symm.trans named)
    omega
  have first : s.phase = .notStarted → kind.isRunStarted = true := by
    intro notStarted
    cases step with
    | started => rfl
    | later bound applied =>
        rw [tracks.unbound notStarted] at bound
        cases bound
  apply reduce_ok_iff.mpr
  refine ⟨?_, t, step, rfl⟩
  exact
    { unsealed := unsealed
      schema := rfl
      consistent := mint_consistent chain eventId time kind
      sequence := tracks.seq.symm
      link := tracks.prev.symm
      sameRun := fun runId present => (tracks.run runId present).symm
      freshId := fresh
      first := first }

theorem EventChain.tracks_push {chain : EventChain} {s t : RunState} {kind : RunEventKind}
    {e : RunEvent} (tracks : chain.Tracks s) (step : PayloadStep s chain.runId kind t)
    (bounded : chain.seq.toNat + 1 < 2 ^ 64)
    (named : e.eventId.asStr = idText chain.runId chain.seq.toNat)
    (numbered : e.sequence = chain.seq) :
    EventChain.Tracks
      { chain with prev := e.eventDigest, seq := chain.seq + 1, out := chain.out ++ [e] }
      (t.stamp e) := by
  have advanced : (chain.seq + 1).toNat = chain.seq.toNat + 1 := by
    rw [UInt64.toNat_add]
    exact Nat.mod_eq_of_lt bounded
  have ids : t.seenEventIds = s.seenEventIds := by
    cases step with
    | started => rfl
    | later bound applied => exact applied.frame.2.2.2.2.2
  constructor
  · intro runId present
    cases step with
    | started => exact (Option.some.inj present).symm
    | later bound applied =>
        rw [RunState.stamp_runId, applied.frame.2.1] at present
        exact tracks.run runId present
  · rfl
  · simp [numbered]
  · intro id seen
    rw [RunState.stamp_seenEventIds, ids, Finset.mem_insert] at seen
    rcases seen with rfl | old
    · exact ⟨chain.seq.toNat, by rw [advanced]; omega, named⟩
    · rcases tracks.ids id old with ⟨n, earlier, text⟩
      exact ⟨n, by rw [advanced]; omega, text⟩
  · intro notStarted
    cases step with
    | started => cases notStarted
    | later bound applied =>
        rcases applied.phase with same | sealed
        · rw [RunState.stamp_phase, same] at notStarted
          rw [tracks.unbound notStarted] at bound
          cases bound
        · rw [RunState.stamp_phase, sealed] at notStarted
          cases notStarted

theorem EventChain.pushAll_accepted {chain chain' : EventChain} {p t s : RunState}
    {payloads : List (Option Int64 × RunEventKind)}
    (admissible : PayloadRun chain.runId p (payloads.map Prod.snd) t)
    (pushed : chain.pushAll sha256 payloads = .ok chain') (tracks : chain.Tracks s)
    (agrees : s = p.withEnvelope s) (run : reduceAll sha256 chain.out = .ok s) :
    ∃ s', reduceAll sha256 chain'.out = .ok s' ∧ s' = t.withEnvelope s' ∧
      kinds chain'.out = kinds chain.out ++ payloads.map Prod.snd := by
  induction payloads generalizing chain p s with
  | nil =>
      cases admissible
      have same : chain = chain' := by
        simpa only [pushAll, List.foldlM_nil, pure_ok_iff] using pushed
      subst same
      exact ⟨s, run, agrees, by simp⟩
  | cons payload rest ih =>
      cases admissible with
      | @cons _ u _ _ _ unsealed step later =>
          rw [pushAll, List.foldlM_cons, bind_ok_iff] at pushed
          rcases pushed with ⟨next, pushedOne, pushedRest⟩
          rcases push_ok pushedOne with ⟨eventId, time, named, bounded, minted⟩
          have sameRun : next.runId = chain.runId := by rw [minted]
          have out : next.out = chain.out ++ [chain.mint sha256 eventId time payload.2] := by
            rw [minted]
          have stepped := step.withEnvelope s
          rw [← agrees] at stepped
          have open' : s.phase ≠ .sealed := by
            rw [agrees]
            exact unsealed
          have accepted := reduce_minted sha256 time tracks open' stepped named
          have ran : reduceAll sha256 next.out =
              .ok ((u.withEnvelope s).stamp (chain.mint sha256 eventId time payload.2)) := by
            rw [out]
            exact foldlM_snoc_ok.mpr ⟨s, run, accepted⟩
          have tracked : next.Tracks
              ((u.withEnvelope s).stamp (chain.mint sha256 eventId time payload.2)) := by
            rw [minted]
            exact tracks_push tracks stepped bounded named rfl
          rw [← sameRun] at later
          rcases ih later pushedRest tracked rfl ran with ⟨s', ran', agrees', listed⟩
          refine ⟨s', ran', agrees', ?_⟩
          rw [listed, out, kinds_snoc]
          simp [EventChain.mint]

def EventChain.Mints (sha256 : Sha256) (chain : EventChain) (minted : List RunEventKind)
    (later : EventChain) : Prop :=
  ∃ payloads : List (Option Int64 × RunEventKind),
    payloads.map Prod.snd = minted ∧ chain.pushAll sha256 payloads = .ok later

theorem EventChain.Mints.nil {chain : EventChain} : chain.Mints sha256 [] chain := ⟨[], rfl, rfl⟩

theorem EventChain.Mints.one {chain chain' : EventChain} {now : Option Int64} {kind : RunEventKind}
    (pushed : chain.push sha256 now kind = .ok chain') : chain.Mints sha256 [kind] chain' := by
  refine ⟨[(now, kind)], rfl, ?_⟩
  rw [pushAll, List.foldlM_cons, bind_ok_iff]
  exact ⟨chain', pushed, rfl⟩

theorem EventChain.Mints.append {a b c : EventChain} {first later : List RunEventKind}
    (before : a.Mints sha256 first b) (after : b.Mints sha256 later c) :
    a.Mints sha256 (first ++ later) c := by
  rcases before with ⟨payloads, same, pushed⟩
  rcases after with ⟨payloads', same', pushed'⟩
  refine ⟨payloads ++ payloads', by rw [List.map_append, same, same'], ?_⟩
  exact foldlM_append_ok.mpr ⟨b, pushed, pushed'⟩

theorem EventChain.Mints.carries {chain later : EventChain} {minted : List RunEventKind}
    (mints : chain.Mints sha256 minted later) :
    kinds later.out = kinds chain.out ++ minted := by
  rcases mints with ⟨payloads, rfl, pushed⟩
  induction payloads generalizing chain with
  | nil =>
      cases pushed
      simp
  | cons payload rest ih =>
      rw [pushAll, List.foldlM_cons, bind_ok_iff] at pushed
      rcases pushed with ⟨next, first, others⟩
      rcases push_ok first with ⟨eventId, time, _, _, rfl⟩
      rw [ih others, kinds_snoc, List.map_cons, List.append_assoc]
      rfl

theorem EventChain.Mints.ownRun {chain later : EventChain} {minted : List RunEventKind}
    (mints : chain.Mints sha256 minted later) (own : ∀ e ∈ chain.out, e.runId = chain.runId) :
    later.runId = chain.runId ∧ ∀ e ∈ later.out, e.runId = chain.runId := by
  rcases mints with ⟨payloads, rfl, pushed⟩
  induction payloads generalizing chain with
  | nil =>
      cases pushed
      exact ⟨rfl, own⟩
  | cons payload rest ih =>
      rw [pushAll, List.foldlM_cons, bind_ok_iff] at pushed
      rcases pushed with ⟨next, first, others⟩
      rcases push_ok first with ⟨eventId, time, _, _, rfl⟩
      apply ih _ others
      intro e member
      cases List.mem_append.mp member with
      | inl old => exact own e old
      | inr new =>
          rw [List.mem_singleton.mp new]
          rfl

theorem EventChain.Mints.accepted {runId : RunId} {minted : List RunEventKind} {chain : EventChain}
    {t : RunState} (mints : (EventChain.new runId).Mints sha256 minted chain)
    (admissible : PayloadRun runId .initial minted t) :
    ∃ s, reduceAll sha256 chain.out = .ok s ∧ s = t.withEnvelope s ∧ kinds chain.out = minted := by
  rcases mints with ⟨payloads, same, pushed⟩
  rw [← same] at admissible
  rcases EventChain.pushAll_accepted admissible pushed (EventChain.tracks_new runId) rfl
    (reduceAll_nil.mpr rfl) with ⟨s, run, agrees, carried⟩
  refine ⟨s, run, agrees, ?_⟩
  rw [carried, same]
  rfl

theorem EventChain.push_succeeds (sha256 : Sha256) (chain : EventChain) (time : Int64)
    (kind : RunEventKind) (bounded : chain.seq.toNat + 1 < 2 ^ 64) :
    ∃ chain', chain.push sha256 (some time) kind = .ok chain' ∧
      chain'.seq.toNat = chain.seq.toNat + 1 := by
  have nonempty : idText chain.runId chain.seq.toNat ≠ "" := by
    simp [idText]
  let eventId : RunEventId := ⟨idText chain.runId chain.seq.toNat, nonempty⟩
  have below : ¬ chain.seq.toNat + 1 = 2 ^ 64 := by omega
  refine ⟨_, bind_ok_iff.mpr ⟨eventId, ?_,
    bind_ok_iff.mpr ⟨(), refuseIf_ok_iff.mpr below, rfl⟩⟩, ?_⟩
  · simp [Id.new, nonempty, Except.mapError, eventId]
  · rw [UInt64.toNat_add, UInt64.toNat_one]
    exact Nat.mod_eq_of_lt bounded

theorem EventChain.pushAll_ok (sha256 : Sha256) {chain : EventChain}
    {payloads : List (Option Int64 × RunEventKind)}
    (clock : ∀ payload ∈ payloads, payload.1 ≠ none)
    (bounded : chain.seq.toNat + payloads.length < 2 ^ 64) :
    ∃ chain', chain.pushAll sha256 payloads = .ok chain' := by
  induction payloads generalizing chain with
  | nil => exact ⟨chain, rfl⟩
  | cons payload rest ih =>
      rcases payload with ⟨_ | time, kind⟩
      · exact absurd rfl (clock _ List.mem_cons_self)
      · rw [List.length_cons] at bounded
        rcases chain.push_succeeds sha256 time kind (by omega) with ⟨next, pushed, advanced⟩
        have clocked : ∀ payload ∈ rest, payload.1 ≠ none := by
          intro payload member
          exact clock payload (List.mem_cons_of_mem _ member)
        rcases @ih next clocked (by omega) with ⟨chain', pushedRest⟩
        refine ⟨chain', ?_⟩
        rw [pushAll, List.foldlM_cons, bind_ok_iff]
        exact ⟨next, pushed, pushedRest⟩

def mintStream (sha256 : Sha256) (runId : RunId) (now : Int64) (payloads : List RunEventKind) :
    List RunEvent :=
  match (EventChain.new runId).pushAll sha256 (payloads.map (some now, ·)) with
  | .ok chain => chain.out
  | .error _ => []

theorem mintStream_accepted (sha256 : Sha256) (now : Int64) {runId : RunId}
    {payloads : List RunEventKind} {t : RunState}
    (admissible : PayloadRun runId .initial payloads t) (bounded : payloads.length < 2 ^ 64) :
    ∃ s, reduceAll sha256 (mintStream sha256 runId now payloads) = .ok s ∧ s = t.withEnvelope s ∧
      kinds (mintStream sha256 runId now payloads) = payloads := by
  have listed : (payloads.map (some now, ·)).map Prod.snd = payloads := by
    simp [Function.comp_def]
  have room : (EventChain.new runId).seq.toNat + (payloads.map (some now, ·)).length < 2 ^ 64 := by
    simpa [EventChain.new] using bounded
  rcases EventChain.pushAll_ok sha256 (by simp) room with ⟨chain, pushed⟩
  rw [← listed] at admissible
  rcases EventChain.pushAll_accepted admissible pushed (EventChain.tracks_new runId) rfl
    (reduceAll_nil.mpr rfl) with ⟨s, run, agrees, carried⟩
  refine ⟨s, ?_, agrees, ?_⟩
  · simpa only [mintStream, pushed] using run
  · have nothing : kinds (EventChain.new runId).out = [] := rfl
    rw [nothing, listed, List.nil_append] at carried
    simpa only [mintStream, pushed] using carried

def bareEvent (runId : RunId) (kind : RunEventKind) : RunEvent where
  eventId := ⟨"e", by decide⟩
  schemaVersion := runEventSchemaVersion
  runId := runId
  sequence := 0
  previousEventDigest := .genesis
  eventDigest := .genesis
  timestampMillis := 0
  kind := kind

def foldPayloads (runId : RunId) (s : RunState) (payloads : List RunEventKind) :
    Except ReduceError RunState :=
  payloads.foldlM (fun s kind => do
    refuseIf (s.phase = .sealed) (.eventAfterSeal 0)
    applyKind s (bareEvent runId kind) 0) s

theorem payloadRun_of_fold {runId : RunId} {s t : RunState} {payloads : List RunEventKind}
    (folded : foldPayloads runId s payloads = .ok t) : PayloadRun runId s payloads t := by
  induction payloads generalizing s with
  | nil =>
      have same : s = t := by
        simpa only [foldPayloads, List.foldlM_nil, pure_ok_iff] using folded
      rw [same]
      exact .nil
  | cons kind rest ih =>
      simp only [foldPayloads, List.foldlM_cons, bind_ok_iff, refuseIf_ok_iff, exists_const,
        applyKind_ok_iff] at folded
      rcases folded with ⟨u, ⟨unsealed, step⟩, later⟩
      exact .cons unsealed step (ih later)

theorem mintStream_of_fold (sha256 : Sha256) (now : Int64) {runId : RunId}
    {payloads : List RunEventKind} {t : RunState}
    (folded : foldPayloads runId .initial payloads = .ok t) (bounded : payloads.length < 2 ^ 64) :
    ∃ s, reduceAll sha256 (mintStream sha256 runId now payloads) = .ok s ∧ s = t.withEnvelope s ∧
      kinds (mintStream sha256 runId now payloads) = payloads :=
  mintStream_accepted sha256 now (payloadRun_of_fold folded) bounded

/-! A run under a contract with an obligation of every sort, all of them met. -/

namespace Sample

theorem runId_nonempty : "run-1" ≠ "" := by decide

def runId : RunId := ⟨"run-1", runId_nonempty⟩

theorem build_nonempty : "build" ≠ "" := by decide

def build : GateId := ⟨"build", build_nonempty⟩

def digest : Digest256 :=
  ⟨"aaaaaaaaaaaaaaaaaaaaaaaaaaaaaaaaaaaaaaaaaaaaaaaaaaaaaaaaaaaaaaaa", by decide⟩

def artifact (kind : ArtifactKind) (locator : String) : ArtifactRef := ⟨kind, locator, digest⟩

def policy : ArtifactRef := artifact .policy "policy.json"

def candidate : CandidateStateContractV1 :=
  ⟨candidateStateContractSchemaV1, "conversation-1", ⟨"/repo/.git", 1, 2⟩, "base",
    .gitBinaryCumulativePatchV1⟩

def contract : RunContract where
  gateObligations := [⟨build, .required, .applicable⟩]
  policyObligations := [⟨policy, .required, [.agent, .gate build]⟩]
  sandboxRequirements := [⟨.agent, digest⟩]
  agent := .required
  runnerEnvironment := "linux"
  candidateState := some candidate

def start : RunEventKind := .runStarted contract (artifact .task "task.md")

def evidence : List RunEventKind :=
  [.policyChecked policy .allowed, .agentStarted, .agentExited (.exitedNormally 0),
   .patchCaptured (artifact .diff "patch.diff"), .gateStarted build, .gateFinished build .pass none,
   .sandboxEvidenceCaptured .agent digest (artifact .sandboxReport "sandbox.json") .satisfied,
   .candidateStateCaptured (artifact .candidateState "candidate.json")]

def payloads : List RunEventKind := start :: evidence ++ [.runSealed]

def events : List RunEvent := mintStream standardSha256 runId 0 payloads

theorem folded : ∃ t, foldPayloads runId .initial payloads = .ok t ∧ t.phase = .sealed ∧
    t.contract = some contract ∧ t.verdict = some .pass := by
  refine ⟨_, rfl, ?_, ?_, ?_⟩
  · decide
  · decide
  · decide

theorem accepted : ∃ s, reduceAll standardSha256 events = .ok s ∧ s.phase = .sealed ∧
    s.contract = some contract ∧ s.verdict = some .pass ∧ kinds events = payloads := by
  rcases folded with ⟨t, folded, sealed, bound, passed⟩
  rcases mintStream_of_fold standardSha256 0 folded (by decide) with ⟨s, run, agrees, listed⟩
  refine ⟨s, run, ?_, ?_, ?_, listed⟩
  · rw [agrees]
    exact sealed
  · rw [agrees]
    exact bound
  · rw [agrees]
    exact passed

end Sample

end O7Formal.Run
