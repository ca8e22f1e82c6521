import O7Formal.Run.Event

/-! The bytes an event's digest is computed over. Each `fold` function of the source
feeds bytes to a running hash; here it returns exactly the bytes it feeds. -/

namespace O7Formal.Run

open PrefixCode ByteCodec

def RunEventKind.tag : RunEventKind → UInt8
  | .runStarted .. => 1
  | .worktreeCreated .. => 2
  | .agentStarted => 3
  | .agentExited .. => 4
  | .patchCaptured .. => 5
  | .policyChecked .. => 6
  | .gateStarted .. => 7
  | .gateFinished .. => 8
  | .sandboxEvidenceCaptured .. => 9
  | .runSealed => 10
  | .providerSessionCaptured .. => 11
  | .commandBindingCaptured .. => 12
  | .candidateStateCaptured .. => 13
  | .candidateStateMaterialized .. => 14

def artifactKindTag : ArtifactKind → UInt8
  | .task => 1
  | .diff => 2
  | .gateLog => 3
  | .sandboxReport => 4
  | .worktree => 5
  | .policy => 6
  | .providerSession => 7
  | .commandBinding => 8
  | .candidateState => 9
  | .candidatePatch => 10

def gateOutcomeTag : GateOutcome → UInt8
  | .pass => 1
  | .fail => 2
  | .warn => 3
  | .blocked => 4
  | .notApplicable => 5
  | .error => 6

def policyOutcomeTag : PolicyOutcome → UInt8
  | .allowed => 1
  | .denied => 2
  | .error => 3

def sandboxOutcomeTag : SandboxEvidenceOutcome → UInt8
  | .satisfied => 1
  | .violated => 2
  | .error => 3

def gateRequirementTag : GateRequirement → UInt8
  | .required => 1
  | .optional => 2

def policyRequirementTag : PolicyRequirement → UInt8
  | .required => 1
  | .optional => 2

def candidatePatchKindTag : CandidatePatchKind → UInt8
  | .gitBinaryCumulativePatchV1 => 1

def frameStr (s : String) : List UInt8 := frame (utf8Bytes s)

/-- A list length, a `u64` framed as eight bytes. -/
def frameCount (n : Nat) : List UInt8 := frame (leBytes 8 n)

def foldEach {α : Type} (fold : α → List UInt8) (xs : List α) : List UInt8 :=
  frameCount xs.length ++ xs.flatMap fold

def foldArtifact (a : ArtifactRef) : List UInt8 :=
  [artifactKindTag a.kind] ++ (frameStr a.locator ++ frameStr a.digest.asStr)

def foldOptionalArtifact : Option ArtifactRef → List UInt8 :=
  encOption 0 1 foldArtifact

def foldApplicability : GateApplicability → List UInt8
  | .applicable => [1]
  | .waived environment reason => [2] ++ (frameStr environment ++ frameStr reason)

def foldSubject : ExecutionSubject → List UInt8
  | .agent => [1]
  | .gate gate => [2] ++ frameStr gate.asStr
  | .verifier => [3]

def foldProtectedSubject : PolicyProtectedSubject → List UInt8
  | .agent => [1]
  | .gate gate => [2] ++ frameStr gate.asStr

def foldAgentObligation : AgentObligation → List UInt8
  | .required => [1]
  | .notUsed reason => [2] ++ frameStr reason

def foldGateObligation (o : GateObligation) : List UInt8 :=
  frameStr o.gate.asStr ++ ([gateRequirementTag o.requirement] ++ foldApplicability o.applicability)

def foldPolicyObligation (p : PolicyObligation) : List UInt8 :=
  foldArtifact p.policy ++ ([policyRequirementTag p.requirement] ++
    foldEach foldProtectedSubject p.protects)

def foldSandboxRequirement (r : SandboxRequirement) : List UInt8 :=
  foldSubject r.subject ++ frameStr r.policyDigest.asStr

def foldCandidateStateContract (c : CandidateStateContractV1) : List UInt8 :=
  frame (leBytes 4 c.schema.toNat) ++ (frameStr c.conversationId ++
    (frameStr c.repositoryId.gitCommonDir ++ (frame (leBytes 8 c.repositoryId.dev.toNat) ++
      (frame (leBytes 8 c.repositoryId.ino.toNat) ++ (frameStr c.baseCommit ++
        [candidatePatchKindTag c.patchKind])))))

def foldOptionalCandidateStateContract : Option CandidateStateContractV1 → List UInt8 :=
  encOption 0 1 foldCandidateStateContract

def foldContract (c : RunContract) : List UInt8 :=
  foldEach foldGateObligation c.gateObligations ++
    (foldEach foldPolicyObligation c.policyObligations ++
      (foldEach foldSandboxRequirement c.sandboxRequirements ++
        (foldAgentObligation c.agent ++ (frameStr c.runnerEnvironment ++
          foldOptionalCandidateStateContract c.candidateState))))

def foldAgentOutcome : AgentOutcome → List UInt8
  | .exitedNormally code => [1] ++ frame (leBytes 4 code.toBitVec.toNat)
  | .exitedBySignal signal => [2] ++ frame (leBytes 4 signal.toBitVec.toNat)
  | .cancelledGracefully => [3]
  | .cancelledForcefully => [4]
  | .failedToStart reason => [5] ++ frameStr reason
  | .boundaryFailure reason => [6] ++ frameStr reason
  | .observationFailure reason => [7] ++ frameStr reason
  | .outputFailure reason => [8] ++ frameStr reason
  | .cleanupFailure reason => [9] ++ frameStr reason

def foldKind : RunEventKind → List UInt8
  | .runStarted contract task => foldContract contract ++ foldArtifact task
  | .worktreeCreated worktree => foldArtifact worktree
  | .agentStarted => []
  | .runSealed => []
  | .agentExited outcome => foldAgentOutcome outcome
  | .patchCaptured patch => foldArtifact patch
  | .policyChecked policy outcome => foldArtifact policy ++ [policyOutcomeTag outcome]
  | .gateStarted gate => frameStr gate.asStr
  | .gateFinished gate outcome log =>
      frameStr gate.asStr ++ ([gateOutcomeTag outcome] ++ foldOptionalArtifact log)
  | .sandboxEvidenceCaptured subject policyDigest report outcome =>
      foldSubject subject ++ (frameStr policyDigest.asStr ++
        (foldArtifact report ++ [sandboxOutcomeTag outcome]))
  | .providerSessionCaptured receipt => foldArtifact receipt
  | .commandBindingCaptured binding => foldArtifact binding
  | .candidateStateCaptured receipt => foldArtifact receipt
  | .candidateStateMaterialized sourceRunId sourceReceipt sourcePatch materializedTreeOid =>
      frameStr sourceRunId.asStr ++ (foldArtifact sourceReceipt ++
        (foldArtifact sourcePatch ++ frameStr materializedTreeOid))

/-- `b"o7-run-event\0v1\0"`. -/
def eventDomain : List UInt8 := utf8Bytes "o7-run-event" ++ [0] ++ utf8Bytes "v1" ++ [0]

/-- Everything `compute_digest` hashes: the stored `event_digest` is not part of it. -/
def RunEvent.preimage (e : RunEvent) : List UInt8 :=
  eventDomain ++ (frame (leBytes 4 e.schemaVersion.toNat) ++ (frameStr e.runId.asStr ++
    (frame (leBytes 8 e.sequence.toNat) ++ (frameStr e.previousEventDigest.asStr ++
      (frame (leBytes 8 e.timestampMillis.toBitVec.toNat) ++ (frameStr e.eventId.asStr ++
        ([e.kind.tag] ++ foldKind e.kind)))))))

def RunEvent.computeDigest (sha256 : Sha256) (e : RunEvent) : Digest256 :=
  .fromSha256 (sha256 e.preimage)

def RunEvent.digestIsConsistent (sha256 : Sha256) (e : RunEvent) : Bool :=
  e.eventDigest == e.computeDigest sha256

def Short (s : String) : Prop := Framable (utf8Bytes s)

instance (s : String) : Decidable (Short s) := inferInstanceAs (Decidable (Framable _))

def SizedList {α : Type} (sized : α → Prop) (xs : List α) : Prop :=
  xs.length < 2 ^ 64 ∧ ∀ x ∈ xs, sized x

def ArtifactRef.Sized (a : ArtifactRef) : Prop := Short a.locator

def GateApplicability.Sized : GateApplicability → Prop
  | .applicable => True
  | .waived environment reason => Short environment ∧ Short reason

def ExecutionSubject.Sized : ExecutionSubject → Prop
  | .gate id => Short id.asStr
  | .agent | .verifier => True

def PolicyProtectedSubject.Sized : PolicyProtectedSubject → Prop
  | .gate id => Short id.asStr
  | .agent => True

def AgentObligation.Sized : AgentObligation → Prop
  | .required => True
  | .notUsed reason => Short reason

def GateObligation.Sized (o : GateObligation) : Prop :=
  Short o.gate.asStr ∧ o.applicability.Sized

def PolicyObligation.Sized (p : PolicyObligation) : Prop :=
  p.policy.Sized ∧ SizedList PolicyProtectedSubject.Sized p.protects

def SandboxRequirement.Sized (r : SandboxRequirement) : Prop := r.subject.Sized

def CandidateStateContractV1.Sized (c : CandidateStateContractV1) : Prop :=
  Short c.conversationId ∧ Short c.repositoryId.gitCommonDir ∧ Short c.baseCommit

def RunContract.Sized (c : RunContract) : Prop :=
  SizedList GateObligation.Sized c.gateObligations ∧
    SizedList PolicyObligation.Sized c.policyObligations ∧
    SizedList SandboxRequirement.Sized c.sandboxRequirements ∧
    c.agent.Sized ∧ Short c.runnerEnvironment ∧ ∀ o ∈ c.candidateState, o.Sized

def AgentOutcome.Sized : AgentOutcome → Prop
  | .failedToStart reason | .boundaryFailure reason | .observationFailure reason
  | .outputFailure reason | .cleanupFailure reason => Short reason
  | .exitedNormally _ | .exitedBySignal _ | .cancelledGracefully | .cancelledForcefully => True

def RunEventKind.Sized : RunEventKind → Prop
  | .runStarted contract task => contract.Sized ∧ task.Sized
  | .worktreeCreated artifact | .patchCaptured artifact | .policyChecked artifact _
  | .providerSessionCaptured artifact | .commandBindingCaptured artifact
  | .candidateStateCaptured artifact => artifact.Sized
  | .agentStarted | .runSealed => True
  | .agentExited outcome => outcome.Sized
  | .gateStarted gate => Short gate.asStr
  | .gateFinished gate _ log => Short gate.asStr ∧ ∀ a ∈ log, a.Sized
  | .sandboxEvidenceCaptured subject _ report _ => subject.Sized ∧ report.Sized
  | .candidateStateMaterialized sourceRunId sourceReceipt sourcePatch materializedTreeOid =>
      Short sourceRunId.asStr ∧ sourceReceipt.Sized ∧ sourcePatch.Sized ∧ Short materializedTreeOid

def RunEvent.Sized (e : RunEvent) : Prop :=
  Short e.runId.asStr ∧ Short e.eventId.asStr ∧ e.kind.Sized

theorem decodes_frameStr : Decodes Short frameStr := decodes_frame_utf8

theorem decodes_id (kind : IdKind) :
    Decodes (fun id : Id kind => Short id.asStr) (fun id => frameStr id.asStr) := by
  intro a b r t shortA shortB same
  obtain ⟨texts, rest⟩ := decodes_frameStr shortA shortB same
  exact ⟨Id.asStr_injective kind texts, rest⟩

theorem Digest256.short (d : Digest256) : Short d.asStr := by
  have canonical := d.canonical
  simp only [isCanonicalHex, Bool.and_eq_true, beq_iff_eq] at canonical
  simp [Short, Framable, canonical.1]

theorem decodes_digest : Decodes (fun _ : Digest256 => True) (fun d => frameStr d.asStr) := by
  intro a b r t _ _ same
  obtain ⟨texts, rest⟩ := decodes_frameStr a.short b.short same
  exact ⟨Digest256.asStr_injective texts, rest⟩

theorem decodes_frameCount : Decodes (fun n => n < 2 ^ 64) frameCount :=
  decodes_frame_leBytes 8 (by decide)

theorem decodes_foldEach {α : Type} {sized : α → Prop} {fold : α → List UInt8}
    (code : Decodes sized fold) : Decodes (SizedList sized) (foldEach fold) :=
  code.counted decodes_frameCount

theorem decodes_u32 : Decodes (fun _ : UInt32 => True) (fun x => frame (leBytes 4 x.toNat)) := by
  intro a b r t _ _ same
  obtain ⟨values, rest⟩ := decodes_frame_leBytes 4 (by decide) a.toNat_lt b.toNat_lt same
  exact ⟨UInt32.toNat_inj.mp values, rest⟩

theorem decodes_u64 : Decodes (fun _ : UInt64 => True) (fun x => frame (leBytes 8 x.toNat)) := by
  intro a b r t _ _ same
  obtain ⟨values, rest⟩ := decodes_frame_leBytes 8 (by decide) a.toNat_lt b.toNat_lt same
  exact ⟨UInt64.toNat_inj.mp values, rest⟩

theorem decodes_i32 :
    Decodes (fun _ : Int32 => True) (fun x => frame (leBytes 4 x.toBitVec.toNat)) := by
  intro a b r t _ _ same
  obtain ⟨values, rest⟩ :=
    decodes_frame_leBytes 4 (by decide) a.toBitVec.isLt b.toBitVec.isLt same
  exact ⟨Int32.toBitVec_inj.mp (BitVec.eq_of_toNat_eq values), rest⟩

theorem decodes_i64 :
    Decodes (fun _ : Int64 => True) (fun x => frame (leBytes 8 x.toBitVec.toNat)) := by
  intro a b r t _ _ same
  obtain ⟨values, rest⟩ :=
    decodes_frame_leBytes 8 (by decide) a.toBitVec.isLt b.toBitVec.isLt same
  exact ⟨Int64.toBitVec_inj.mp (BitVec.eq_of_toNat_eq values), rest⟩

theorem artifactKindTag_injective : Function.Injective artifactKindTag := by
  intro a b same
  cases a <;> cases b <;> first | rfl | exact absurd same (by decide)

theorem gateOutcomeTag_injective : Function.Injective gateOutcomeTag := by
  intro a b same
  cases a <;> cases b <;> first | rfl | exact absurd same (by decide)

theorem policyOutcomeTag_injective : Function.Injective policyOutcomeTag := by
  intro a b same
  cases a <;> cases b <;> first | rfl | exact absurd same (by decide)

theorem sandboxOutcomeTag_injective : Function.Injective sandboxOutcomeTag := by
  intro a b same
  cases a <;> cases b <;> first | rfl | exact absurd same (by decide)

theorem gateRequirementTag_injective : Function.Injective gateRequirementTag := by
  intro a b same
  cases a <;> cases b <;> first | rfl | exact absurd same (by decide)

theorem policyRequirementTag_injective : Function.Injective policyRequirementTag := by
  intro a b same
  cases a <;> cases b <;> first | rfl | exact absurd same (by decide)

theorem decodes_artifact : Decodes ArtifactRef.Sized foldArtifact := by
  intro a b r t sizedA sizedB same
  simp only [foldArtifact, List.append_assoc] at same
  obtain ⟨kind, same⟩ := decodes_tag _ artifactKindTag_injective trivial trivial same
  obtain ⟨locator, same⟩ := decodes_frameStr sizedA sizedB same
  obtain ⟨digest, rest⟩ := decodes_digest trivial trivial same
  cases a
  cases b
  simp_all

theorem decodes_optionalArtifact :
    Decodes (fun log : Option ArtifactRef => ∀ a ∈ log, a.Sized) foldOptionalArtifact :=
  decodes_artifact.option (by decide)

theorem decodes_applicability : Decodes GateApplicability.Sized foldApplicability := by
  intro a b r t sizedA sizedB same
  cases a with
  | applicable =>
      cases b with
      | applicable => exact ⟨rfl, by simpa [foldApplicability] using same⟩
      | waived environment reason => simp [foldApplicability] at same
  | waived environment reason =>
      cases b with
      | applicable => simp [foldApplicability] at same
      | waived environment' reason' =>
          simp only [foldApplicability, List.append_assoc, List.append_cancel_left_eq] at same
          obtain ⟨environments, later⟩ := decodes_frameStr sizedA.1 sizedB.1 same
          obtain ⟨reasons, rest⟩ := decodes_frameStr sizedA.2 sizedB.2 later
          exact ⟨by rw [environments, reasons], rest⟩

theorem decodes_subject : Decodes ExecutionSubject.Sized foldSubject := by
  intro a b r t sizedA sizedB same
  cases a <;> cases b <;> try simp [foldSubject] at same
  · exact ⟨rfl, same⟩
  · obtain ⟨rfl, rest⟩ := decodes_id _ sizedA sizedB same
    exact ⟨rfl, rest⟩
  · exact ⟨rfl, same⟩

theorem decodes_protectedSubject : Decodes PolicyProtectedSubject.Sized foldProtectedSubject := by
  intro a b r t sizedA sizedB same
  cases a <;> cases b <;> try simp [foldProtectedSubject] at same
  · exact ⟨rfl, same⟩
  · obtain ⟨rfl, rest⟩ := decodes_id _ sizedA sizedB same
    exact ⟨rfl, rest⟩

theorem decodes_agentObligation : Decodes AgentObligation.Sized foldAgentObligation := by
  intro a b r t sizedA sizedB same
  cases a <;> cases b <;> try simp [foldAgentObligation] at same
  · exact ⟨rfl, same⟩
  · obtain ⟨rfl, rest⟩ := decodes_frameStr sizedA sizedB same
    exact ⟨rfl, rest⟩

theorem decodes_gateObligation : Decodes GateObligation.Sized foldGateObligation := by
  intro a b r t sizedA sizedB same
  simp only [foldGateObligation, List.append_assoc] at same
  obtain ⟨gate, same⟩ := decodes_id _ sizedA.1 sizedB.1 same
  obtain ⟨requirement, same⟩ := decodes_tag _ gateRequirementTag_injective trivial trivial same
  obtain ⟨applicability, rest⟩ := decodes_applicability sizedA.2 sizedB.2 same
  cases a
  cases b
  simp_all

theorem decodes_policyObligation : Decodes PolicyObligation.Sized foldPolicyObligation := by
  intro a b r t sizedA sizedB same
  simp only [foldPolicyObligation, List.append_assoc] at same
  obtain ⟨policy, same⟩ := decodes_artifact sizedA.1 sizedB.1 same
  obtain ⟨requirement, same⟩ := decodes_tag _ policyRequirementTag_injective trivial trivial same
  obtain ⟨protects, rest⟩ := decodes_foldEach decodes_protectedSubject sizedA.2 sizedB.2 same
  cases a
  cases b
  simp_all

theorem decodes_sandboxRequirement : Decodes SandboxRequirement.Sized foldSandboxRequirement := by
  intro a b r t sizedA sizedB same
  simp only [foldSandboxRequirement, List.append_assoc] at same
  obtain ⟨subject, same⟩ := decodes_subject sizedA sizedB same
  obtain ⟨policyDigest, rest⟩ := decodes_digest trivial trivial same
  cases a
  cases b
  simp_all

theorem decodes_candidateStateContract :
    Decodes CandidateStateContractV1.Sized foldCandidateStateContract := by
  intro a b r t sizedA sizedB same
  simp only [foldCandidateStateContract, List.append_assoc] at same
  obtain ⟨schema, same⟩ := decodes_u32 trivial trivial same
  obtain ⟨conversation, same⟩ := decodes_frameStr sizedA.1 sizedB.1 same
  obtain ⟨commonDir, same⟩ := decodes_frameStr sizedA.2.1 sizedB.2.1 same
  obtain ⟨dev, same⟩ := decodes_u64 trivial trivial same
  obtain ⟨ino, same⟩ := decodes_u64 trivial trivial same
  obtain ⟨base, same⟩ := decodes_frameStr sizedA.2.2 sizedB.2.2 same
  rcases a with ⟨_, _, ⟨_, _, _⟩, _, ⟨⟩⟩
  rcases b with ⟨_, _, ⟨_, _, _⟩, _, ⟨⟩⟩
  simp_all

theorem decodes_contract : Decodes RunContract.Sized foldContract := by
  intro a b r t sizedA sizedB same
  rcases sizedA with ⟨gatesA, policiesA, sandboxA, agentA, environmentA, candidateA⟩
  rcases sizedB with ⟨gatesB, policiesB, sandboxB, agentB, environmentB, candidateB⟩
  simp only [foldContract, List.append_assoc] at same
  obtain ⟨gates, same⟩ := decodes_foldEach decodes_gateObligation gatesA gatesB same
  obtain ⟨policies, same⟩ := decodes_foldEach decodes_policyObligation policiesA policiesB same
  obtain ⟨sandbox, same⟩ := decodes_foldEach decodes_sandboxRequirement sandboxA sandboxB same
  obtain ⟨agent, same⟩ := decodes_agentObligation agentA agentB same
  obtain ⟨environment, same⟩ := decodes_frameStr environmentA environmentB same
  obtain ⟨candidate, rest⟩ :=
    (decodes_candidateStateContract.option (by decide)) candidateA candidateB same
  cases a
  cases b
  simp_all

theorem decodes_agentOutcome : Decodes AgentOutcome.Sized foldAgentOutcome := by
  intro a b r t sizedA sizedB same
  cases a <;> cases b <;> try simp [foldAgentOutcome] at same
  · obtain ⟨rfl, rest⟩ := decodes_i32 trivial trivial same
    exact ⟨rfl, rest⟩
  · obtain ⟨rfl, rest⟩ := decodes_i32 trivial trivial same
    exact ⟨rfl, rest⟩
  · exact ⟨rfl, same⟩
  · exact ⟨rfl, same⟩
  all_goals
    obtain ⟨rfl, rest⟩ := decodes_frameStr sizedA sizedB same
    exact ⟨rfl, rest⟩

theorem decodes_kind : Decodes RunEventKind.Sized (fun k => [k.tag] ++ foldKind k) := by
  intro a b r t sizedA sizedB same
  simp only [List.cons_append, List.nil_append, List.cons.injEq] at same
  rcases same with ⟨tags, same⟩
  cases a <;> cases b <;> simp [RunEventKind.tag] at tags
  case runStarted.runStarted contract task contract' task' =>
      simp only [foldKind, List.append_assoc] at same
      obtain ⟨contracts, later⟩ := decodes_contract sizedA.1 sizedB.1 same
      obtain ⟨tasks, rest⟩ := decodes_artifact sizedA.2 sizedB.2 later
      exact ⟨by rw [contracts, tasks], rest⟩
  case agentStarted.agentStarted => exact ⟨rfl, same⟩
  case runSealed.runSealed => exact ⟨rfl, same⟩
  case agentExited.agentExited =>
      obtain ⟨rfl, rest⟩ := decodes_agentOutcome sizedA sizedB same
      exact ⟨rfl, rest⟩
  case policyChecked.policyChecked =>
      simp only [foldKind, List.append_assoc] at same
      obtain ⟨policies, later⟩ := decodes_artifact sizedA sizedB same
      obtain ⟨outcomes, rest⟩ := decodes_tag _ policyOutcomeTag_injective trivial trivial later
      exact ⟨by rw [policies, outcomes], rest⟩
  case gateStarted.gateStarted =>
      obtain ⟨rfl, rest⟩ := decodes_id _ sizedA sizedB same
      exact ⟨rfl, rest⟩
  case gateFinished.gateFinished =>
      simp only [foldKind, List.append_assoc] at same
      obtain ⟨gates, later⟩ := decodes_id _ sizedA.1 sizedB.1 same
      obtain ⟨outcomes, last⟩ := decodes_tag _ gateOutcomeTag_injective trivial trivial later
      obtain ⟨logs, rest⟩ := decodes_optionalArtifact sizedA.2 sizedB.2 last
      exact ⟨by rw [gates, outcomes, logs], rest⟩
  case sandboxEvidenceCaptured.sandboxEvidenceCaptured =>
      simp only [foldKind, List.append_assoc] at same
      obtain ⟨subjects, later⟩ := decodes_subject sizedA.1 sizedB.1 same
      obtain ⟨policies, later⟩ := decodes_digest trivial trivial later
      obtain ⟨reports, later⟩ := decodes_artifact sizedA.2 sizedB.2 later
      obtain ⟨outcomes, rest⟩ := decodes_tag _ sandboxOutcomeTag_injective trivial trivial later
      exact ⟨by rw [subjects, policies, reports, outcomes], rest⟩
  case candidateStateMaterialized.candidateStateMaterialized =>
      simp only [foldKind, List.append_assoc] at same
      obtain ⟨runs, later⟩ := decodes_id _ sizedA.1 sizedB.1 same
      obtain ⟨receipts, later⟩ := decodes_artifact sizedA.2.1 sizedB.2.1 later
      obtain ⟨patches, later⟩ := decodes_artifact sizedA.2.2.1 sizedB.2.2.1 later
      obtain ⟨trees, rest⟩ := decodes_frameStr sizedA.2.2.2 sizedB.2.2.2 later
      exact ⟨by rw [runs, receipts, patches, trees], rest⟩
  -- the remaining payloads are a single artifact reference
  all_goals
    obtain ⟨rfl, rest⟩ := decodes_artifact sizedA sizedB same
    exact ⟨rfl, rest⟩

theorem preimage_fields {a b : RunEvent} (sizedA : a.Sized) (sizedB : b.Sized)
    (same : a.preimage = b.preimage) : a = { b with eventDigest := a.eventDigest } := by
  simp only [RunEvent.preimage, List.append_cancel_left_eq] at same
  obtain ⟨schema, same⟩ := decodes_u32 trivial trivial same
  obtain ⟨run, same⟩ := decodes_id _ sizedA.1 sizedB.1 same
  obtain ⟨sequence, same⟩ := decodes_u64 trivial trivial same
  obtain ⟨previous, same⟩ := decodes_digest trivial trivial same
  obtain ⟨timestamp, same⟩ := decodes_i64 trivial trivial same
  obtain ⟨event, same⟩ := decodes_id _ sizedA.2.1 sizedB.2.1 same
  have kind := decodes_kind.injOn sizedA.2.2 sizedB.2.2 same
  cases a
  cases b
  simp_all

/-- The framing is injective: events with equal preimages agree on every field but the
stored digest. -/
theorem preimage_injective {a b : RunEvent} (sizedA : a.Sized) (sizedB : b.Sized)
    (same : a.preimage = b.preimage) :
    a.eventId = b.eventId ∧ a.schemaVersion = b.schemaVersion ∧ a.runId = b.runId ∧
      a.sequence = b.sequence ∧ a.previousEventDigest = b.previousEventDigest ∧
      a.timestampMillis = b.timestampMillis ∧ a.kind = b.kind := by
  have fields := preimage_fields sizedA sizedB same
  rw [fields]
  exact ⟨rfl, rfl, rfl, rfl, rfl, rfl, rfl⟩

def gateReport (stored : Digest256) : RunEvent where
  eventId := ⟨"run-1-e3", by decide⟩
  schemaVersion := runEventSchemaVersion
  runId := ⟨"run-1", by decide⟩
  sequence := 3
  previousEventDigest := .genesis
  eventDigest := stored
  timestampMillis := 7
  kind := .gateFinished ⟨"build", by decide⟩ .warn (some ⟨.gateLog, "build.log", .genesis⟩)

theorem gateReport_sized (stored : Digest256) : (gateReport stored).Sized := by
  have run : Short "run-1" := by decide
  have event : Short "run-1-e3" := by decide
  have gate : Short "build" := by decide
  have log : Short "build.log" := by decide
  refine ⟨run, event, gate, ?_⟩
  intro a present
  cases present
  exact log

theorem preimage_injective_gateReport :
    gateReport .genesis ≠ gateReport (.ofBytes standardSha256 []) ∧
      (gateReport .genesis).kind = (gateReport (.ofBytes standardSha256 [])).kind := by
  refine ⟨by decide +kernel, ?_⟩
  have agree := preimage_injective (gateReport_sized .genesis)
    (gateReport_sized (.ofBytes standardSha256 [])) rfl
  exact agree.2.2.2.2.2.2

end O7Formal.Run
