import O7Formal.Run.Candidate
import O7Formal.Run.Verdict

/-! Replay: the chain pre-pass, the reducer, the artifacts and the candidate evidence, in
that order, and the three entry points built on them. -/

namespace O7Formal.Run

open Fallible

inductive ReplayError where
  | reduce (error : ReduceError)
  | chainBroken (sequence : UInt64)
  | eventDigestMismatch (sequence : UInt64)
  | artifactUnresolved (error : ArtifactError)
  | artifactDigestMismatch (locator : String)
  | notSealed
  | verdictMismatch (recomputed stored : Verdict)
  | legacyNonReplayable
  | stateDigestUnavailable
  | candidateSemantic (error : CandidateVerifyError)
  deriving DecidableEq

structure ReplayReport where
  verdict : Verdict
  eventsVerified : UInt64
  artifactsVerified : UInt64
  finalEventDigest : Digest256
  normalizedStateDigest : Digest256
  deriving DecidableEq

def referencedArtifacts : RunEventKind → List ArtifactRef
  | .runStarted contract task => task :: contract.policyObligations.map PolicyObligation.policy
  | .worktreeCreated worktree => [worktree]
  | .patchCaptured patch => [patch]
  | .policyChecked policy _ => [policy]
  | .gateFinished _ _ (some log) => [log]
  | .sandboxEvidenceCaptured _ _ report _ => [report]
  | .providerSessionCaptured receipt => [receipt]
  | .commandBindingCaptured binding => [binding]
  | .candidateStateCaptured receipt => [receipt]
  | .candidateStateMaterialized _ sourceReceipt sourcePatch _ => [sourceReceipt, sourcePatch]
  | .agentStarted | .agentExited _ | .gateStarted _ | .gateFinished _ _ none | .runSealed => []

section Replay

variable (sha256 : Sha256) (ext : Externals) (artifacts : ArtifactResolver)

def checkLink (prev : Digest256) (event : RunEvent) : Except ReplayError Digest256 := do
  refuseIf (¬ event.digestIsConsistent sha256 = true) (.eventDigestMismatch event.sequence)
  refuseIf (event.previousEventDigest ≠ prev) (.chainBroken event.sequence)
  pure event.eventDigest

def checkChain (events : List RunEvent) : Except ReplayError Digest256 :=
  events.foldlM (checkLink sha256) .genesis

def keepUnique (kept : Finset (String × String) × List ArtifactRef) (artifact : ArtifactRef) :
    Finset (String × String) × List ArtifactRef :=
  if (artifact.locator, artifact.digest.asStr) ∈ kept.1 then kept
  else (insert (artifact.locator, artifact.digest.asStr) kept.1, kept.2 ++ [artifact])

def uniqueArtifacts (events : List RunEvent) : List ArtifactRef :=
  (events.foldl (fun kept event => (referencedArtifacts event.kind).foldl keepUnique kept)
    (∅, [])).2

def verifyArtifact (artifact : ArtifactRef) : Except ReplayError Unit := do
  let bytes ← (artifacts artifact).mapError .artifactUnresolved
  refuseIf (Digest256.ofBytes sha256 bytes ≠ artifact.digest)
    (.artifactDigestMismatch artifact.locator)

def verifyPrefixCore (events : List RunEvent) : Except ReplayError (RunState × UInt64) := do
  refuseIf (events = []) .legacyNonReplayable
  let _ ← checkChain sha256 events
  let state ← (reduceAll sha256 events).mapError .reduce
  let unique := uniqueArtifacts events
  unique.foldlM (fun _ artifact => verifyArtifact sha256 artifacts artifact) ()
  pure (state, UInt64.ofNat unique.length)

def noContract : CandidateVerifyError :=
  ⟨"candidate evidence is present but this run has no contract"⟩

def verifyCandidate (state : RunState) (contract : RunContract) : Except ReplayError Unit := do
  if state.candidateState ≠ none then
    let _ ← (verifyCandidateStateCaptured sha256 ext artifacts state contract).mapError
      .candidateSemantic
  if state.candidateMaterialized ≠ none then
    let _ ← (verifyCandidateStateMaterialized sha256 ext artifacts state contract).mapError
      .candidateSemantic

def verifyPrefix (events : List RunEvent) : Except ReplayError (RunState × UInt64) := do
  let (state, artifactsVerified) ← verifyPrefixCore sha256 artifacts events
  if state.candidateState ≠ none ∨ state.candidateMaterialized ≠ none then
    match state.contract with
    | none => .error (.candidateSemantic noContract)
    | some contract => verifyCandidate sha256 ext artifacts state contract
  pure (state, artifactsVerified)

/-- `b"o7-run-state\0v1\0"`. -/
def stateDomain : List UInt8 :=
  ByteCodec.utf8Bytes "o7-run-state" ++ [0] ++ ByteCodec.utf8Bytes "v1" ++ [0]

def normalizedDigest (state : RunState) : Option Digest256 :=
  (ext.writeState state).map fun json => .ofBytes sha256 (stateDomain ++ json)

inductive RecordVerdict where
  | noCanonicalStream
  | validUnsealed
  | validSealed (report : ReplayReport)
  | invalid (error : ReplayError)
  deriving DecidableEq

def classifyRecord (events : List RunEvent) : RecordVerdict :=
  if events = [] then .noCanonicalStream
  else
    match verifyPrefix sha256 ext artifacts events with
    | .error e => .invalid e
    | .ok (state, artifactsVerified) =>
        match state.verdict with
        | none => .validUnsealed
        | some verdict =>
            match events.getLast? with
            | none => .invalid .legacyNonReplayable
            | some last =>
                match normalizedDigest sha256 ext state with
                | none => .invalid .stateDigestUnavailable
                | some digest =>
                    .validSealed ⟨verdict, UInt64.ofNat events.length, artifactsVerified,
                      last.eventDigest, digest⟩

def replay (events : List RunEvent) : Except ReplayError ReplayReport := do
  let (state, artifactsVerified) ← verifyPrefix sha256 ext artifacts events
  match state.verdict with
  | none => .error .notSealed
  | some verdict =>
      match events.getLast? with
      | none => .error .legacyNonReplayable
      | some last =>
          match normalizedDigest sha256 ext state with
          | none => .error .stateDigestUnavailable
          | some digest =>
              pure ⟨verdict, UInt64.ofNat events.length, artifactsVerified, last.eventDigest,
                digest⟩

def replayVerify (events : List RunEvent) (storedVerdict : Verdict) :
    Except ReplayError ReplayReport := do
  let report ← replay sha256 ext artifacts events
  refuseIf (report.verdict ≠ storedVerdict) (.verdictMismatch report.verdict storedVerdict)
  pure report

end Replay

section Chain

variable {sha256 : Sha256}

def linkAfter (events : List RunEvent) : Digest256 :=
  (events.getLast?.map RunEvent.eventDigest).getD .genesis

/-- Every event carries its own digest and the digest of the one before it. -/
def ChainIntact (sha256 : Sha256) (events : List RunEvent) : Prop :=
  ∀ before e after, events = before ++ e :: after →
    e.digestIsConsistent sha256 = true ∧ e.previousEventDigest = linkAfter before

theorem checkLink_ok_iff {prev d : Digest256} {e : RunEvent} :
    checkLink sha256 prev e = .ok d ↔
      (e.digestIsConsistent sha256 = true ∧ e.previousEventDigest = prev) ∧ e.eventDigest = d := by
  simp only [checkLink, bind_ok_iff, refuseIf_ok_iff, pure_ok_iff, exists_const, not_not, ne_eq,
    and_assoc]

theorem checkChain_link {events : List RunEvent} {d : Digest256}
    (ran : checkChain sha256 events = .ok d) : d = linkAfter events := by
  apply run_invariant (motive := fun events d => d = linkAfter events) _ _ ran
  · rfl
  · intro past link e d _ _ stepped
    rw [← (checkLink_ok_iff.mp stepped).2]
    simp [linkAfter]

theorem checkChain_ok_iff {events : List RunEvent} :
    (∃ d, checkChain sha256 events = .ok d) ↔ ChainIntact sha256 events := by
  constructor
  · intro facts before e after same
    obtain ⟨d, ran⟩ := facts
    subst same
    rcases run_split ran with ⟨prev, next, first, stepped, _⟩
    have link := checkChain_link first
    rw [← link]
    exact (checkLink_ok_iff.mp stepped).1
  · intro intact
    cases ran : checkChain sha256 events with
    | ok d => exact ⟨d, rfl⟩
    | error e =>
        rcases foldlM_error_iff.mp ran with ⟨before, x, after, prev, rfl, first, failed⟩
        have link := checkChain_link first
        have accepted := checkLink_ok_iff.mpr ⟨link ▸ intact before x after rfl, rfl⟩
        rw [accepted] at failed
        cases failed

def ReplayError.isChainFault : ReplayError → Bool
  | .chainBroken _ | .eventDigestMismatch _ => true
  | _ => false

theorem checkChain_fails {events : List RunEvent} :
    FailsWithin (fun e => e.isChainFault = true) (checkChain sha256 events) := by
  apply failsWithin_foldlM
  intro prev e
  apply failsWithin_bind
  · exact failsWithin_refuseIf rfl
  intro _
  apply failsWithin_bind
  · exact failsWithin_refuseIf rfl
  intro _
  exact failsWithin_pure _

end Chain

section Faults

variable {sha256 : Sha256}

def ReduceError.isChainFault : ReduceError → Bool
  | .brokenChain _ | .inconsistentDigest _ => true
  | _ => false

abbrev Payload {α : Type} (x : Except ReduceError α) : Prop :=
  FailsWithin (fun e => e.isChainFault = false) x

theorem payload_validateArtifact (a : ArtifactRef) (kind : ArtifactKind) (seq : UInt64) :
    Payload (validateArtifact a kind seq) := by
  apply failsWithin_bind
  · exact failsWithin_refuseIf rfl
  intro _
  exact failsWithin_refuseIf rfl

theorem payload_checkProtectedStart (s : RunState) (contract : RunContract)
    (subject : PolicyProtectedSubject) (seq : UInt64) :
    Payload (checkProtectedStart s contract subject seq) := by
  apply failsWithin_foldlM
  intro _ p
  split_ifs
  · exact failsWithin_pure _
  · exact failsWithin_refuseIf rfl
  · exact failsWithin_pure _

theorem payload_validateGates (contract : RunContract) (seen : Finset GateId)
    (o : GateObligation) : Payload (validateGates contract seen o) := by
  rcases o with ⟨gate, requirement, _ | ⟨environment, reason⟩⟩
  · refine failsWithin_bind (failsWithin_refuseIf rfl) fun _ => ?_
    exact failsWithin_bind (failsWithin_pure _) fun _ => failsWithin_pure _
  · refine failsWithin_bind (failsWithin_refuseIf rfl) fun _ => ?_
    refine failsWithin_bind (failsWithin_refuseIf rfl) fun _ => ?_
    exact failsWithin_bind (failsWithin_refuseIf rfl) fun _ => failsWithin_pure _

theorem payload_validateProtected (contract : RunContract) (seen : List PolicyProtectedSubject)
    (subject : PolicyProtectedSubject) : Payload (validateProtected contract seen subject) := by
  refine failsWithin_bind (failsWithin_refuseIf rfl) fun _ => ?_
  cases subject with
  | agent => exact failsWithin_bind (failsWithin_refuseIf rfl) fun _ => failsWithin_pure _
  | gate gate => exact failsWithin_bind (failsWithin_refuseIf rfl) fun _ => failsWithin_pure _

theorem payload_validatePolicies (contract : RunContract) (seq : UInt64) (seen : Finset Digest256)
    (p : PolicyObligation) : Payload (validatePolicies contract seq seen p) := by
  refine failsWithin_bind (payload_validateArtifact _ _ _) fun _ => ?_
  refine failsWithin_bind (failsWithin_refuseIf rfl) fun _ => ?_
  refine failsWithin_bind (failsWithin_refuseIf rfl) fun _ => ?_
  refine failsWithin_bind ?_ fun _ => failsWithin_pure _
  exact failsWithin_foldlM (payload_validateProtected contract) _ _

theorem payload_validateSandbox (contract : RunContract) (seen : List SandboxRequirement)
    (r : SandboxRequirement) : Payload (validateSandbox contract seen r) := by
  refine failsWithin_bind (failsWithin_refuseIf rfl) fun _ => ?_
  rcases r with ⟨_ | gate | _, digest⟩
  · exact failsWithin_bind (failsWithin_refuseIf rfl) fun _ => failsWithin_pure _
  · dsimp only
    cases gateObligation contract gate
    · exact failsWithin_bind (failsWithin_error rfl) fun _ => failsWithin_pure _
    · exact failsWithin_bind (failsWithin_refuseIf rfl) fun _ => failsWithin_pure _
  · exact failsWithin_pure _

theorem payload_validateContract (contract : RunContract) (seq : UInt64) :
    Payload (validateContract contract seq) := by
  have schema : Payload (validateCandidateSchema contract) := by
    unfold validateCandidateSchema
    cases contract.candidateState
    · exact failsWithin_pure _
    · exact failsWithin_refuseIf rfl
  refine failsWithin_bind schema fun _ => ?_
  refine failsWithin_bind (failsWithin_foldlM (payload_validateGates contract) _ _) fun _ => ?_
  refine failsWithin_bind (failsWithin_foldlM (payload_validatePolicies contract seq) _ _)
    fun _ => ?_
  refine failsWithin_bind (failsWithin_foldlM (payload_validateSandbox contract) _ _) fun _ => ?_
  exact failsWithin_pure _

theorem payload_checkAgentExit (agent : AgentLifecycle) (outcome : AgentOutcome) (seq : UInt64) :
    Payload (checkAgentExit agent outcome seq) := by
  cases agent <;> cases outcome <;> first | exact failsWithin_pure _ | exact failsWithin_error rfl

theorem payload_validateLog (log : Option ArtifactRef) (seq : UInt64) :
    Payload (validateLog log seq) := by
  cases log
  · exact failsWithin_pure _
  · exact payload_validateArtifact _ _ _

theorem payload_checkGateRunning (progress : Option GateProgress) (gate : GateId) (seq : UInt64) :
    Payload (checkGateRunning progress gate seq) := by
  rcases progress with _ | _ | _
  · exact failsWithin_error rfl
  · exact failsWithin_pure _
  · exact failsWithin_error rfl

theorem payload_applyWithContract (s : RunState) (contract : RunContract) (e : RunEvent)
    (seq : UInt64) : Payload (applyWithContract s contract e seq) := by
  unfold applyWithContract
  -- every handler is a chain of the checks above that ends in a new state
  cases e.kind <;> dsimp only <;>
    repeat' first
      | with_reducible refine failsWithin_bind ?_ fun _ => ?_
      | with_reducible refine failsWithin_refuseIf ?_
      | with_reducible exact failsWithin_pure _
      | with_reducible refine failsWithin_error ?_
      | with_reducible exact payload_validateArtifact _ _ _
      | with_reducible exact payload_checkProtectedStart _ _ _ _
      | with_reducible exact payload_checkAgentExit _ _ _
      | with_reducible exact payload_validateLog _ _
      | with_reducible exact payload_checkGateRunning _ _ _
      | rfl

theorem payload_applyKind (s : RunState) (e : RunEvent) (seq : UInt64) :
    Payload (applyKind s e seq) := by
  unfold applyKind
  split
  · apply failsWithin_bind
    · exact failsWithin_refuseIf rfl
    intro _
    apply failsWithin_bind
    · exact payload_validateContract _ _
    intro _
    apply failsWithin_bind
    · exact payload_validateArtifact _ _ _
    intro _
    exact failsWithin_pure _
  · split
    · exact failsWithin_error rfl
    · apply failsWithin_bind
      · exact payload_applyWithContract _ _ _ _
      intro _
      exact failsWithin_pure _

theorem reduce_no_chain_fault {s : RunState} {e : RunEvent} {err : ReduceError}
    (consistent : e.digestIsConsistent sha256 = true)
    (linked : e.previousEventDigest = s.lastEventDigest) (failed : reduce sha256 s e = .error err) :
    err.isChainFault = false := by
  have envelope : Payload (checkEnvelope sha256 s e) := by
    unfold checkEnvelope
    refine failsWithin_bind (failsWithin_refuseIf rfl) fun _ => ?_
    refine failsWithin_bind (failsWithin_refuseIf rfl) fun _ => ?_
    refine failsWithin_bind ?_ fun _ => ?_
    · intro fault reported
      exact absurd consistent (refuseIf_error_iff.mp reported).1
    refine failsWithin_bind ?_ fun _ => ?_
    · unfold checkSequence
      cases s.lastSequence
      · exact failsWithin_refuseIf rfl
      · exact failsWithin_bind (failsWithin_refuseIf rfl) fun _ => failsWithin_refuseIf rfl
    refine failsWithin_bind ?_ fun _ => ?_
    · intro fault reported
      exact absurd linked (refuseIf_error_iff.mp reported).1
    refine failsWithin_bind ?_ fun _ => ?_
    · unfold checkRunId
      cases s.runId
      · exact failsWithin_pure _
      · exact failsWithin_refuseIf rfl
    refine failsWithin_bind (failsWithin_refuseIf rfl) fun _ => ?_
    exact failsWithin_refuseIf rfl
  have whole : Payload (reduce sha256 s e) := by
    refine failsWithin_bind envelope fun _ => ?_
    exact failsWithin_bind (payload_applyKind _ _ _) fun _ => failsWithin_pure _
  exact whole err failed

theorem reduceAll_no_chain_fault {events : List RunEvent} (intact : ChainIntact sha256 events) :
    Payload (reduceAll sha256 events) := by
  intro err failed
  rcases foldlM_error_iff.mp failed with ⟨before, e, after, s, split, ran, stepFailed⟩
  have fits := intact before e after split
  have link : s.lastEventDigest = linkAfter before := (enveloped_of_run ran).lastEventDigest
  exact reduce_no_chain_fault fits.1 (fits.2.trans link.symm) stepFailed

end Faults

theorem intact_of_run {sha256 : Sha256} {events : List RunEvent} {s : RunState}
    (run : reduceAll sha256 events = .ok s) : ChainIntact sha256 events := by
  intro before e after same
  subst same
  rcases run_split run with ⟨b, t, ran, stepped, _⟩
  rcases reduce_ok_iff.mp stepped with ⟨envelope, _, _, _⟩
  refine ⟨envelope.consistent, ?_⟩
  rw [envelope.link, (enveloped_of_run ran).lastEventDigest]
  rfl

theorem mem_keepUnique {a artifact : ArtifactRef} {kept : Finset (String × String) × List ArtifactRef}
    (member : a ∈ (keepUnique kept artifact).2) : a ∈ kept.2 ∨ a = artifact := by
  unfold keepUnique at member
  split at member
  · exact .inl member
  · simpa using member

theorem mem_keepAll {a : ArtifactRef} {artifacts : List ArtifactRef}
    {kept : Finset (String × String) × List ArtifactRef}
    (member : a ∈ (artifacts.foldl keepUnique kept).2) : a ∈ kept.2 ∨ a ∈ artifacts := by
  induction artifacts generalizing kept with
  | nil => exact .inl member
  | cons first rest ih =>
      rcases ih member with old | later
      · cases mem_keepUnique old with
        | inl old => exact .inl old
        | inr same => exact .inr (same ▸ List.mem_cons_self)
      · exact .inr (List.mem_cons_of_mem _ later)

theorem uniqueArtifacts_eq (events : List RunEvent) : uniqueArtifacts events =
    ((events.flatMap fun event => referencedArtifacts event.kind).foldl keepUnique (∅, [])).2 := by
  rw [List.foldl_flatMap]
  rfl

theorem mem_uniqueArtifacts {a : ArtifactRef} {events : List RunEvent}
    (member : a ∈ uniqueArtifacts events) : ∃ e ∈ events, a ∈ referencedArtifacts e.kind := by
  rw [uniqueArtifacts_eq] at member
  cases mem_keepAll member with
  | inl never => cases never
  | inr listed => exact List.mem_flatMap.mp listed

def Keyed (kept : Finset (String × String) × List ArtifactRef) : Prop :=
  ∀ key ∈ kept.1, ∃ a ∈ kept.2, key = (a.locator, a.digest.asStr)

theorem keyed_keepUnique {kept : Finset (String × String) × List ArtifactRef} (keyed : Keyed kept)
    (artifact : ArtifactRef) : Keyed (keepUnique kept artifact) ∧
      kept.1 ⊆ (keepUnique kept artifact).1 ∧
      (artifact.locator, artifact.digest.asStr) ∈ (keepUnique kept artifact).1 := by
  unfold keepUnique
  split
  · rename_i seen
    exact ⟨keyed, subset_rfl, seen⟩
  · refine ⟨?_, Finset.subset_insert _ _, Finset.mem_insert_self _ _⟩
    intro key member
    rcases Finset.mem_insert.mp member with rfl | old
    · exact ⟨artifact, by simp, rfl⟩
    · rcases keyed key old with ⟨a, listed, same⟩
      exact ⟨a, List.mem_append_left _ listed, same⟩

theorem keyed_keepAll (artifacts : List ArtifactRef)
    {kept : Finset (String × String) × List ArtifactRef} (keyed : Keyed kept) :
    Keyed (artifacts.foldl keepUnique kept) ∧ kept.1 ⊆ (artifacts.foldl keepUnique kept).1 ∧
      ∀ a ∈ artifacts, (a.locator, a.digest.asStr) ∈ (artifacts.foldl keepUnique kept).1 := by
  induction artifacts generalizing kept with
  | nil => exact ⟨keyed, subset_rfl, nofun⟩
  | cons first rest ih =>
      rcases keyed_keepUnique keyed first with ⟨now, grows, here⟩
      rcases ih now with ⟨keyed', grows', later⟩
      refine ⟨keyed', grows.trans grows', ?_⟩
      intro a member
      rcases List.mem_cons.mp member with rfl | among
      · exact grows' here
      · exact later a among

theorem unique_of_referenced {events : List RunEvent} {e : RunEvent} {a : ArtifactRef}
    (member : e ∈ events) (named : a ∈ referencedArtifacts e.kind) :
    ∃ b ∈ uniqueArtifacts events, b.locator = a.locator ∧ b.digest = a.digest := by
  rw [uniqueArtifacts_eq]
  have listed : a ∈ events.flatMap fun event => referencedArtifacts event.kind :=
    List.mem_flatMap.mpr ⟨e, member, named⟩
  rcases keyed_keepAll (events.flatMap fun event => referencedArtifacts event.kind)
    (show Keyed (∅, []) from by simp [Keyed]) with ⟨keyed, _, all⟩
  rcases keyed _ (all a listed) with ⟨b, unique, same⟩
  rcases Prod.mk.inj same with ⟨locator, digest⟩
  exact ⟨b, unique, locator.symm, Digest256.asStr_injective digest.symm⟩

section Verified

variable {sha256 : Sha256} {ext : Externals} {artifacts : ArtifactResolver}
  {events : List RunEvent} {s : RunState} {n : UInt64}

theorem verifyArtifact_ok_iff {a : ArtifactRef} {u : Unit} :
    verifyArtifact sha256 artifacts a = .ok u ↔
      ∃ bytes, artifacts a = .ok bytes ∧ Digest256.ofBytes sha256 bytes = a.digest := by
  simp only [verifyArtifact, bind_ok_iff, mapError_ok_iff, refuseIf_ok_iff, ne_eq, not_not]

theorem verifyPrefixCore_ok_iff : verifyPrefixCore sha256 artifacts events = .ok (s, n) ↔
    events ≠ [] ∧ ChainIntact sha256 events ∧ reduceAll sha256 events = .ok s ∧
      (∀ a ∈ uniqueArtifacts events, ∃ bytes, artifacts a = .ok bytes ∧
        Digest256.ofBytes sha256 bytes = a.digest) ∧
      n = UInt64.ofNat (uniqueArtifacts events).length := by
  simp only [verifyPrefixCore, bind_ok_iff, refuseIf_ok_iff, mapError_ok_iff, pure_ok_iff,
    foldlM_unit_ok_iff, verifyArtifact_ok_iff, exists_const, Prod.mk.injEq, ← checkChain_ok_iff]
  constructor
  · intro facts
    obtain ⟨nonempty, d, chain, t, run, backed, rfl, rfl⟩ := facts
    exact ⟨nonempty, ⟨d, chain⟩, run, backed, rfl⟩
  · intro facts
    obtain ⟨nonempty, ⟨d, chain⟩, run, backed, rfl⟩ := facts
    exact ⟨nonempty, d, chain, s, run, backed, rfl, rfl⟩

theorem verifyCandidate_ok_iff {contract : RunContract} {u : Unit} :
    verifyCandidate sha256 ext artifacts s contract = .ok u ↔
      (s.candidateState ≠ none → ∃ receipt,
        verifyCandidateStateCaptured sha256 ext artifacts s contract = .ok receipt) ∧
      (s.candidateMaterialized ≠ none → ∃ check,
        verifyCandidateStateMaterialized sha256 ext artifacts s contract = .ok check) := by
  unfold verifyCandidate
  by_cases captured : s.candidateState = none <;>
    by_cases materialized : s.candidateMaterialized = none <;>
    simp [captured, materialized, bind_ok_iff, mapError_ok_iff, -bind_pure_comp]

theorem verifyPrefix_ok_split : verifyPrefix sha256 ext artifacts events = .ok (s, n) ↔
    verifyPrefixCore sha256 artifacts events = .ok (s, n) ∧
      (s.candidateState ≠ none ∨ s.candidateMaterialized ≠ none →
        ∃ contract, s.contract = some contract ∧
          verifyCandidate sha256 ext artifacts s contract = .ok ()) := by
  simp only [verifyPrefix, bind_ok_iff]
  constructor
  · intro facts
    obtain ⟨⟨t, m⟩, core, rest⟩ := facts
    dsimp only at rest
    split_ifs at rest with present
    · cases bound : t.contract with
      | none =>
          rw [bound] at rest
          cases rest
      | some contract =>
          rw [bound] at rest
          rcases bind_ok_iff.mp rest with ⟨_, verified, same⟩
          rw [pure_ok_iff, Prod.mk.injEq] at same
          rcases same with ⟨rfl, rfl⟩
          exact ⟨core, fun _ => ⟨contract, bound, verified⟩⟩
    · rw [pure_ok_iff, Prod.mk.injEq] at rest
      rcases rest with ⟨rfl, rfl⟩
      exact ⟨core, fun claimed => absurd claimed present⟩
  · intro facts
    obtain ⟨core, candidate⟩ := facts
    refine ⟨(s, n), core, ?_⟩
    dsimp only
    split_ifs with present
    · rcases candidate present with ⟨contract, bound, verified⟩
      rw [bound]
      exact bind_ok_iff.mpr ⟨(), verified, rfl⟩
    · rfl

theorem verifyCandidate_lineage {contract : RunContract} {runId : RunId}
    (named : s.runId = some runId) : verifyCandidate sha256 ext artifacts s contract = .ok () ↔
      (∀ receiptRef, s.candidateState = some receiptRef → ∃ receipt,
        CapturedLineage sha256 ext artifacts contract runId s.commandBinding receiptRef receipt) ∧
      ∀ mat, s.candidateMaterialized = some mat → ∃ sourceReceipt patchBytes,
        MaterializedLineage sha256 ext artifacts contract runId s.commandBinding mat sourceReceipt
          patchBytes := by
  have captured : ∀ receipt, verifyCandidateStateCaptured sha256 ext artifacts s contract =
      .ok receipt ↔ _ := fun _ => verifyCandidateStateCaptured_ok_iff named
  have materialized : ∀ check, verifyCandidateStateMaterialized sha256 ext artifacts s contract =
      .ok check ↔ _ := fun _ => verifyCandidateStateMaterialized_ok_iff named
  rw [verifyCandidate_ok_iff]
  constructor
  · intro checks
    constructor
    · intro receiptRef held
      rcases checks.1 (by simp [held]) with ⟨receipt, accepted⟩
      rcases (captured receipt).mp accepted with ⟨other, same, lineage⟩
      cases held.symm.trans same
      exact ⟨receipt, lineage⟩
    · intro mat held
      rcases checks.2 (by simp [held]) with ⟨check, accepted⟩
      rcases (materialized check).mp accepted with ⟨other, same, _, lineage⟩
      cases held.symm.trans same
      exact ⟨_, _, lineage⟩
  · intro lineages
    constructor
    · intro held
      rcases Option.ne_none_iff_exists'.mp held with ⟨receiptRef, same⟩
      rcases lineages.1 receiptRef same with ⟨receipt, lineage⟩
      exact ⟨receipt, (captured receipt).mpr ⟨receiptRef, same, lineage⟩⟩
    · intro held
      rcases Option.ne_none_iff_exists'.mp held with ⟨mat, same⟩
      rcases lineages.2 mat same with ⟨source, bytes, lineage⟩
      exact ⟨⟨mat.sourceRunId, source, bytes⟩, (materialized _).mpr ⟨mat, same, rfl, lineage⟩⟩

/-- A record verifies exactly when its stream and artifacts do and the candidate evidence
it holds proves its lineage: against the run's own id, its contract and its binding. -/
theorem verifyPrefix_lineage : verifyPrefix sha256 ext artifacts events = .ok (s, n) ↔
    verifyPrefixCore sha256 artifacts events = .ok (s, n) ∧
      ∃ contract runId, RunsUnder events contract ∧ (∀ e ∈ events, e.runId = runId) ∧
        (∀ receiptRef, s.candidateState = some receiptRef → ∃ receipt,
          CapturedLineage sha256 ext artifacts contract runId s.commandBinding receiptRef receipt) ∧
        ∀ mat, s.candidateMaterialized = some mat → ∃ sourceReceipt patchBytes,
          MaterializedLineage sha256 ext artifacts contract runId s.commandBinding mat sourceReceipt
            patchBytes := by
  rw [verifyPrefix_ok_split]
  apply and_congr_right
  intro core
  rcases verifyPrefixCore_ok_iff.mp core with ⟨nonempty, _, run, _, _⟩
  rcases opened_of_run run with ⟨empty, _⟩ | ⟨first, rest, contract, task, shape, opened⟩
  · exact absurd empty nonempty
  have lineages := @verifyCandidate_lineage sha256 ext artifacts s contract _ opened.runId
  constructor
  · intro candidate
    have under : RunsUnder events contract := ⟨first, rest, task, shape, opened.kind⟩
    have verified : s.candidateState ≠ none ∨ s.candidateMaterialized ≠ none →
        verifyCandidate sha256 ext artifacts s contract = .ok () := by
      intro present
      rcases candidate present with ⟨contract', bound, verified⟩
      cases bound.symm.trans opened.contract
      exact verified
    refine ⟨contract, first.runId, under, shape ▸ opened.ownRun, ?_, ?_⟩
    · intro receiptRef held
      exact (lineages.mp (verified (.inl (by simp [held])))).1 receiptRef held
    · intro mat held
      exact (lineages.mp (verified (.inr (by simp [held])))).2 mat held
  · intro facts _
    obtain ⟨contract', runId, under, ownRun, candidate⟩ := facts
    cases (contract_of_runsUnder run under).symm.trans opened.contract
    have named : runId = first.runId := by
      rw [← ownRun first (by simp [shape])]
    subst named
    exact ⟨contract, opened.contract, lineages.mpr candidate⟩

end Verified

section EntryPoints

variable {sha256 : Sha256} {ext : Externals} {artifacts : ArtifactResolver} {events : List RunEvent}

def ReplayError.isArtifactFault : ReplayError → Bool
  | .artifactUnresolved _ | .artifactDigestMismatch _ => true
  | _ => false

theorem verifyArtifacts_fails (required : List ArtifactRef) :
    FailsWithin (fun e => e.isArtifactFault = true)
      (required.foldlM (fun _ artifact => verifyArtifact sha256 artifacts artifact) ()) := by
  apply failsWithin_foldlM
  intro _ artifact
  exact failsWithin_bind (failsWithin_mapError fun _ => rfl) fun _ => failsWithin_refuseIf rfl

theorem core_error_cases {e : ReplayError}
    (failed : verifyPrefixCore sha256 artifacts events = .error e) :
    (events = [] ∧ e = .legacyNonReplayable) ∨ checkChain sha256 events = .error e ∨
      (∃ fault, e = .reduce fault ∧ ChainIntact sha256 events ∧
        reduceAll sha256 events = .error fault) ∨ e.isArtifactFault = true := by
  rcases bind_error_iff.mp failed with empty | ⟨_, _, failed⟩
  · rcases refuseIf_error_iff.mp empty with ⟨empty, same⟩
    exact .inl ⟨empty, same.symm⟩
  refine .inr ?_
  rcases bind_error_iff.mp failed with chain | ⟨d, chain, failed⟩
  · exact .inl chain
  refine .inr ?_
  rcases bind_error_iff.mp failed with reduced | ⟨_, _, failed⟩
  · rcases mapError_error_iff.mp reduced with ⟨fault, ran, same⟩
    exact .inl ⟨fault, same.symm, checkChain_ok_iff.mp ⟨d, chain⟩, ran⟩
  rcases bind_error_iff.mp failed with unresolved | ⟨_, _, done⟩
  · exact .inr (verifyArtifacts_fails _ e unresolved)
  · cases done

def ReplayError.isVerification : ReplayError → Bool
  | .reduce _ | .chainBroken _ | .eventDigestMismatch _ | .artifactUnresolved _
  | .artifactDigestMismatch _ | .candidateSemantic _ => true
  | .notSealed | .verdictMismatch _ _ | .legacyNonReplayable | .stateDigestUnavailable => false

theorem verifyPrefixCore_fails (nonempty : events ≠ []) :
    FailsWithin (fun e => e.isVerification = true) (verifyPrefixCore sha256 artifacts events) := by
  intro e failed
  rcases core_error_cases failed with ⟨empty, _⟩ | chain | ⟨fault, same, _⟩ | artifact
  · exact absurd empty nonempty
  · have fault := checkChain_fails e chain
    cases e <;> first | rfl | cases fault
  · rw [same]
    rfl
  · cases e <;> first | rfl | cases artifact

theorem verifyCandidate_fails (s : RunState) (contract : RunContract) :
    FailsWithin (fun e => ∃ reason, e = .candidateSemantic reason)
      (verifyCandidate sha256 ext artifacts s contract) := by
  intro e failed
  unfold verifyCandidate at failed
  by_cases captured : s.candidateState = none <;>
    by_cases materialized : s.candidateMaterialized = none <;>
    simp [captured, materialized, bind_error_iff, mapError_error_iff, -bind_pure_comp] at failed
  all_goals grind

theorem verifyPrefix_error {e : ReplayError}
    (failed : verifyPrefix sha256 ext artifacts events = .error e) :
    verifyPrefixCore sha256 artifacts events = .error e ∨
      ∃ reason, e = .candidateSemantic reason := by
  rcases bind_error_iff.mp failed with core | ⟨⟨s, n⟩, core, rest⟩
  · exact .inl core
  · refine .inr ?_
    dsimp only at rest
    split_ifs at rest with present
    · cases bound : s.contract with
      | none =>
          rw [bound] at rest
          cases rest
          exact ⟨_, rfl⟩
      | some contract =>
          rw [bound] at rest
          rcases bind_error_iff.mp rest with verified | ⟨_, _, done⟩
          · exact verifyCandidate_fails s contract e verified
          · cases done
    · cases rest

theorem verifyPrefix_fails (nonempty : events ≠ []) :
    FailsWithin (fun e => e.isVerification = true) (verifyPrefix sha256 ext artifacts events) := by
  intro e failed
  rcases verifyPrefix_error failed with core | ⟨reason, rfl⟩
  · exact verifyPrefixCore_fails nonempty e core
  · rfl

theorem core_reduce_error {e : ReduceError}
    (failed : verifyPrefixCore sha256 artifacts events = .error (.reduce e)) :
    ChainIntact sha256 events ∧ reduceAll sha256 events = .error e := by
  rcases core_error_cases failed with ⟨_, other⟩ | chain | ⟨fault, same, reduced⟩ | artifact
  · cases other
  · cases checkChain_fails _ chain
  · cases same
    exact reduced
  · cases artifact

theorem core_fault_of_chain (artifacts : ArtifactResolver) {e : ReplayError}
    (nonempty : events ≠ []) (broken : checkChain sha256 events = .error e) :
    verifyPrefixCore sha256 artifacts events = .error e := by
  apply bind_error_iff.mpr
  refine .inr ⟨(), refuseIf_ok_iff.mpr nonempty, ?_⟩
  exact bind_error_iff.mpr (.inl broken)

theorem chain_of_core_fault {e : ReplayError} (fault : e.isChainFault = true)
    (failed : verifyPrefixCore sha256 artifacts events = .error e) :
    checkChain sha256 events = .error e := by
  rcases core_error_cases failed with ⟨_, same⟩ | chain | ⟨_, same, _⟩ | artifact
  · rw [same] at fault
    cases fault
  · exact chain
  · rw [same] at fault
    cases fault
  · cases e <;> simp_all [ReplayError.isChainFault, ReplayError.isArtifactFault]

theorem core_chain_error_iff :
    (∃ seq, verifyPrefixCore sha256 artifacts events = .error (.eventDigestMismatch seq) ∨
      verifyPrefixCore sha256 artifacts events = .error (.chainBroken seq)) ↔
      ¬ ChainIntact sha256 events := by
  rw [← checkChain_ok_iff]
  constructor
  · intro faulty intact
    obtain ⟨seq, reported⟩ := faulty
    obtain ⟨d, accepted⟩ := intact
    have broken : ∃ e, checkChain sha256 events = .error e := by
      rcases reported with mismatch | unlinked
      · exact ⟨_, chain_of_core_fault rfl mismatch⟩
      · exact ⟨_, chain_of_core_fault rfl unlinked⟩
    rcases broken with ⟨e, broken⟩
    rw [accepted] at broken
    cases broken
  · intro rejected
    cases chain : checkChain sha256 events with
    | ok d => exact absurd ⟨d, chain⟩ rejected
    | error e =>
        have nonempty : events ≠ [] := by
          intro same
          subst same
          cases chain
        have reported := core_fault_of_chain artifacts nonempty chain
        have fault := checkChain_fails e chain
        cases e with
        | eventDigestMismatch seq => exact ⟨seq, .inl reported⟩
        | chainBroken seq => exact ⟨seq, .inr reported⟩
        | _ => cases fault

theorem replayVerify_ok_iff {stored : Verdict} {report : ReplayReport} :
    replayVerify sha256 ext artifacts events stored = .ok report ↔
      replay sha256 ext artifacts events = .ok report ∧ report.verdict = stored := by
  simp only [replayVerify, bind_ok_iff, refuseIf_ok_iff, pure_ok_iff, exists_const, ne_eq, not_not]
  constructor
  · intro facts
    obtain ⟨found, ran, agrees, rfl⟩ := facts
    exact ⟨ran, agrees⟩
  · intro facts
    obtain ⟨ran, agrees⟩ := facts
    exact ⟨report, ran, agrees, rfl⟩

theorem invalid_reduce_fault {e : ReduceError}
    (failed : verifyPrefix sha256 ext artifacts events = .error (.reduce e)) :
    (∀ seq, e ≠ .brokenChain seq) ∧ ∀ seq, e ≠ .inconsistentDigest seq := by
  have core : verifyPrefixCore sha256 artifacts events = .error (.reduce e) := by
    rcases verifyPrefix_error failed with core | ⟨reason, other⟩
    · exact core
    · cases other
  rcases core_reduce_error core with ⟨intact, reduced⟩
  have fault := reduceAll_no_chain_fault intact e reduced
  constructor
  · intro seq same
    subst same
    cases fault
  · intro seq same
    subst same
    cases fault

theorem entry_points_cases (nonempty : events ≠ []) :
    (∃ e, verifyPrefix sha256 ext artifacts events = .error e ∧
      classifyRecord sha256 ext artifacts events = .invalid e ∧
      replay sha256 ext artifacts events = .error e) ∨
    (classifyRecord sha256 ext artifacts events = .validUnsealed ∧
      replay sha256 ext artifacts events = .error .notSealed) ∨
    (classifyRecord sha256 ext artifacts events = .invalid .stateDigestUnavailable ∧
      replay sha256 ext artifacts events = .error .stateDigestUnavailable) ∨
    ∃ report, classifyRecord sha256 ext artifacts events = .validSealed report ∧
      replay sha256 ext artifacts events = .ok report := by
  have last : ∃ last, events.getLast? = some last := by
    rw [List.getLast?_eq_some_getLast nonempty]
    exact ⟨_, rfl⟩
  rcases last with ⟨last, isLast⟩
  cases verified : verifyPrefix sha256 ext artifacts events with
  | error e =>
      refine .inl ⟨e, rfl, ?_, ?_⟩
      · simp [classifyRecord, nonempty, verified]
      · exact bind_error_iff.mpr (.inl verified)
  | ok result =>
      rcases result with ⟨s, n⟩
      refine .inr ?_
      cases decided : s.verdict with
      | none =>
          refine .inl ⟨?_, ?_⟩
          · simp [classifyRecord, nonempty, verified, decided]
          · exact bind_error_iff.mpr (.inr ⟨(s, n), verified, by simp [decided]⟩)
      | some verdict =>
          refine .inr ?_
          cases written : normalizedDigest sha256 ext s with
          | none =>
              refine .inl ⟨?_, ?_⟩
              · simp [classifyRecord, nonempty, verified, decided, isLast, written]
              · exact bind_error_iff.mpr
                  (.inr ⟨(s, n), verified, by simp [decided, isLast, written]⟩)
          | some digest =>
              refine .inr
                ⟨⟨verdict, UInt64.ofNat events.length, n, last.eventDigest, digest⟩, ?_, ?_⟩
              · simp [classifyRecord, nonempty, verified, decided, isLast, written]
              · exact bind_ok_iff.mpr ⟨(s, n), verified, by simp [decided, isLast, written]⟩

def RecordVerdict.ofReplay : Except ReplayError ReplayReport → RecordVerdict
  | .ok report => .validSealed report
  | .error .legacyNonReplayable => .noCanonicalStream
  | .error .notSealed => .validUnsealed
  | .error e => .invalid e

section OfReplay

variable {result : Except ReplayError ReplayReport}

theorem ofReplay_verification {e : ReplayError} (verification : e.isVerification = true) :
    RecordVerdict.ofReplay (.error e) = .invalid e := by
  cases e <;> first | rfl | cases verification

theorem ofReplay_none_iff :
    .ofReplay result = RecordVerdict.noCanonicalStream ↔ result = .error .legacyNonReplayable := by
  rcases result with e | report
  · cases e <;> simp [RecordVerdict.ofReplay]
  · simp [RecordVerdict.ofReplay]

theorem ofReplay_sealed_iff {report : ReplayReport} :
    .ofReplay result = RecordVerdict.validSealed report ↔ result = .ok report := by
  rcases result with e | report
  · cases e <;> simp [RecordVerdict.ofReplay]
  · simp [RecordVerdict.ofReplay]

theorem ofReplay_unsealed_iff :
    .ofReplay result = RecordVerdict.validUnsealed ↔ result = .error .notSealed := by
  rcases result with e | report
  · cases e <;> simp [RecordVerdict.ofReplay]
  · simp [RecordVerdict.ofReplay]

theorem ofReplay_invalid_iff {e : ReplayError} :
    .ofReplay result = RecordVerdict.invalid e ↔
      result = .error e ∧ e ≠ .legacyNonReplayable ∧ e ≠ .notSealed := by
  rcases result with e' | report
  · cases e' <;> grind [RecordVerdict.ofReplay]
  · simp [RecordVerdict.ofReplay]

end OfReplay

theorem classifyRecord_eq :
    classifyRecord sha256 ext artifacts events =
      .ofReplay (replay sha256 ext artifacts events) := by
  by_cases empty : events = []
  · subst empty
    rfl
  · rcases entry_points_cases empty with ⟨e, failed, classified, replayed⟩ |
      ⟨classified, replayed⟩ | ⟨classified, replayed⟩ | ⟨report, classified, replayed⟩
    · rw [classified, replayed, ofReplay_verification (verifyPrefix_fails empty e failed)]
    · rw [classified, replayed, RecordVerdict.ofReplay]
    · rw [classified, replayed, RecordVerdict.ofReplay]
      · exact nofun
      · exact nofun
    · rw [classified, replayed, RecordVerdict.ofReplay]

theorem replay_legacy_iff :
    replay sha256 ext artifacts events = .error .legacyNonReplayable ↔ events = [] := by
  by_cases empty : events = []
  · subst empty
    exact ⟨fun _ => rfl, fun _ => rfl⟩
  · refine ⟨?_, fun none => absurd none empty⟩
    intro legacy
    rcases entry_points_cases empty with ⟨e, failed, _, replayed⟩ |
      ⟨_, replayed⟩ | ⟨_, replayed⟩ | ⟨report, _, replayed⟩
    · cases legacy.symm.trans replayed
      cases verifyPrefix_fails empty _ failed
    · cases legacy.symm.trans replayed
    · cases legacy.symm.trans replayed
    · cases legacy.symm.trans replayed

theorem verification_of_replay_reduce {e : ReduceError}
    (failed : replay sha256 ext artifacts events = .error (.reduce e)) :
    verifyPrefix sha256 ext artifacts events = .error (.reduce e) := by
  have nonempty : events ≠ [] := by
    intro empty
    cases failed.symm.trans (replay_legacy_iff.mpr empty)
  rcases entry_points_cases nonempty with ⟨e', verified, _, replayed⟩ |
    ⟨_, replayed⟩ | ⟨_, replayed⟩ | ⟨report, _, replayed⟩
  · cases failed.symm.trans replayed
    exact verified
  · cases failed.symm.trans replayed
  · cases failed.symm.trans replayed
  · cases failed.symm.trans replayed

/-- The entry points agree on every stream, and a fault of the chain is always reported
by the pre-pass, never by the reducer behind it. -/
theorem entry_points_agree (sha256 : Sha256) (ext : Externals) (artifacts : ArtifactResolver)
    (events : List RunEvent) :
    ((classifyRecord sha256 ext artifacts events = .noCanonicalStream ↔ events = []) ∧
      (events = [] ↔ replay sha256 ext artifacts events = .error .legacyNonReplayable)) ∧
    (∀ report, classifyRecord sha256 ext artifacts events = .validSealed report ↔
      replay sha256 ext artifacts events = .ok report) ∧
    (classifyRecord sha256 ext artifacts events = .validUnsealed ↔
      replay sha256 ext artifacts events = .error .notSealed) ∧
    (∀ e, classifyRecord sha256 ext artifacts events = .invalid e ↔
      replay sha256 ext artifacts events = .error e ∧ e ≠ .legacyNonReplayable ∧ e ≠ .notSealed) ∧
    (∀ e, classifyRecord sha256 ext artifacts events = .invalid (.reduce e) →
      (∀ seq, e ≠ .brokenChain seq) ∧ ∀ seq, e ≠ .inconsistentDigest seq) ∧
    ((∃ seq, verifyPrefixCore sha256 artifacts events = .error (.eventDigestMismatch seq) ∨
      verifyPrefixCore sha256 artifacts events = .error (.chainBroken seq)) ↔
      ¬ ChainIntact sha256 events) := by
  rw [classifyRecord_eq]
  refine ⟨⟨?_, replay_legacy_iff.symm⟩, ?_, ofReplay_unsealed_iff, ?_, ?_, core_chain_error_iff⟩
  · rw [ofReplay_none_iff, replay_legacy_iff]
  · intro report
    exact ofReplay_sealed_iff
  · intro e
    exact ofReplay_invalid_iff
  · intro e invalid
    have replayed := (ofReplay_invalid_iff.mp invalid).1
    exact invalid_reduce_fault (verification_of_replay_reduce replayed)

end EntryPoints

end O7Formal.Run
