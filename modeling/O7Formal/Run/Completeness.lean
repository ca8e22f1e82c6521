import O7Formal.Run.EventChain
import O7Formal.Run.Resolvers

/-! Which artifacts a verified record has behind it: every one that an event carries, under its
locator and digest, and the patches that the receipts name. -/

namespace O7Formal.Run

open Fallible

inductive Carries : RunEventKind → ArtifactRef → Prop where
  | task (contract : RunContract) (task : ArtifactRef) : Carries (.runStarted contract task) task
  | contractPolicy {contract : RunContract} {task : ArtifactRef} {o : PolicyObligation}
      (declared : o ∈ contract.policyObligations) : Carries (.runStarted contract task) o.policy
  | worktree (worktree : ArtifactRef) : Carries (.worktreeCreated worktree) worktree
  | patch (patch : ArtifactRef) : Carries (.patchCaptured patch) patch
  | checkedPolicy (policy : ArtifactRef) (outcome : PolicyOutcome) :
      Carries (.policyChecked policy outcome) policy
  | gateLog (gate : GateId) (outcome : GateOutcome) (log : ArtifactRef) :
      Carries (.gateFinished gate outcome (some log)) log
  | sandboxReport (subject : ExecutionSubject) (policyDigest : Digest256) (report : ArtifactRef)
      (outcome : SandboxEvidenceOutcome) :
      Carries (.sandboxEvidenceCaptured subject policyDigest report outcome) report
  | sessionReceipt (receipt : ArtifactRef) : Carries (.providerSessionCaptured receipt) receipt
  | binding (binding : ArtifactRef) : Carries (.commandBindingCaptured binding) binding
  | candidateReceipt (receipt : ArtifactRef) : Carries (.candidateStateCaptured receipt) receipt
  | sourceReceipt (sourceRunId : RunId) (sourceReceipt sourcePatch : ArtifactRef) (tree : String) :
      Carries (.candidateStateMaterialized sourceRunId sourceReceipt sourcePatch tree) sourceReceipt
  | sourcePatch (sourceRunId : RunId) (sourceReceipt sourcePatch : ArtifactRef) (tree : String) :
      Carries (.candidateStateMaterialized sourceRunId sourceReceipt sourcePatch tree) sourcePatch

theorem carries_iff {kind : RunEventKind} {r : ArtifactRef} :
    Carries kind r ↔ r ∈ referencedArtifacts kind := by
  constructor
  · intro carries
    cases carries with
    | contractPolicy declared =>
        exact List.mem_cons_of_mem _ (List.mem_map_of_mem declared)
    | sourcePatch => exact List.mem_cons_of_mem _ List.mem_cons_self
    | _ => exact List.mem_cons_self
  · intro listed
    cases kind with
    | runStarted contract task =>
        rcases List.mem_cons.mp listed with rfl | policy
        · exact .task contract r
        · rcases List.mem_map.mp policy with ⟨o, declared, rfl⟩
          exact .contractPolicy declared
    | gateFinished gate outcome log =>
        cases log with
        | none => cases listed
        | some log =>
            cases List.mem_singleton.mp listed
            exact .gateLog gate outcome r
    | candidateStateMaterialized sourceRunId sourceReceipt sourcePatch tree =>
        rcases List.mem_cons.mp listed with rfl | second
        · exact .sourceReceipt sourceRunId r sourcePatch tree
        · cases List.mem_singleton.mp second
          exact .sourcePatch sourceRunId sourceReceipt r tree
    | agentStarted | agentExited | gateStarted | runSealed => cases listed
    | _ =>
        cases List.mem_singleton.mp listed
        constructor

def locatorAndDigest (r : ArtifactRef) : String × Digest256 := (r.locator, r.digest)

def distinctPairs (events : List RunEvent) : Finset (String × Digest256) :=
  ((events.flatMap fun e => referencedArtifacts e.kind).map locatorAndDigest).toFinset

structure Kept (read : List ArtifactRef) (kept : Finset (String × String) × List ArtifactRef) :
    Prop where
  keys : ∀ r, (r.locator, r.digest.asStr) ∈ kept.1 ↔ locatorAndDigest r ∈ kept.2.map locatorAndDigest
  distinct : (kept.2.map locatorAndDigest).Nodup
  same : ∀ p, p ∈ kept.2.map locatorAndDigest ↔ p ∈ read.map locatorAndDigest

theorem Kept.step {read : List ArtifactRef} {kept : Finset (String × String) × List ArtifactRef}
    (holds : Kept read kept) (artifact : ArtifactRef) :
    Kept (read ++ [artifact]) (keepUnique kept artifact) := by
  unfold keepUnique
  split
  · rename_i seen
    refine ⟨holds.keys, holds.distinct, fun p => ?_⟩
    have already := (holds.same _).mp ((holds.keys artifact).mp seen)
    rw [holds.same, List.map_append, List.mem_append, List.map_singleton, List.mem_singleton]
    constructor
    · exact .inl
    · rintro (before | rfl)
      · exact before
      · exact already
  · rename_i fresh
    have new : locatorAndDigest artifact ∉ kept.2.map locatorAndDigest :=
      fun old => fresh ((holds.keys artifact).mpr old)
    refine ⟨fun r => ?_, ?_, fun p => ?_⟩
    · have here : (r.locator, r.digest.asStr) = (artifact.locator, artifact.digest.asStr) ↔
          locatorAndDigest r = locatorAndDigest artifact := by
        rw [locatorAndDigest, locatorAndDigest, Prod.mk.injEq, Prod.mk.injEq,
          Digest256.asStr_injective.eq_iff]
      rw [Finset.mem_insert, here, holds.keys, List.map_append, List.mem_append, List.map_singleton,
        List.mem_singleton, or_comm]
    · rw [List.map_append, List.map_singleton, ← List.concat_eq_append]
      exact holds.distinct.concat new
    · rw [List.map_append, List.map_append, List.mem_append, List.mem_append, holds.same]

theorem kept_all (artifacts : List ArtifactRef) :
    Kept artifacts (artifacts.foldl keepUnique (∅, [])) := by
  induction artifacts using List.reverseRecOn with
  | nil => exact ⟨by simp, List.nodup_nil, by simp⟩
  | append_singleton read artifact ih =>
      rw [List.foldl_append]
      exact ih.step artifact

theorem length_uniqueArtifacts (events : List RunEvent) :
    (uniqueArtifacts events).length = (distinctPairs events).card := by
  have kept := kept_all (events.flatMap fun e => referencedArtifacts e.kind)
  rw [uniqueArtifacts_eq, ← List.length_map locatorAndDigest, ← List.toFinset_card_of_nodup kept.distinct]
  congr 1
  ext p
  rw [distinctPairs, List.mem_toFinset, List.mem_toFinset, kept.same]

/-- The state holds the receipt and the materialization of every event that has one. -/
structure Holds (events : List RunEvent) (s : RunState) : Prop where
  captured : ∀ e ∈ events, ∀ receipt, e.kind = .candidateStateCaptured receipt →
    s.candidateState = some receipt
  materialized : ∀ e ∈ events, ∀ sourceRunId sourceReceipt sourcePatch tree,
    e.kind = .candidateStateMaterialized sourceRunId sourceReceipt sourcePatch tree →
      s.candidateMaterialized = some ⟨sourceRunId, sourceReceipt, sourcePatch, tree⟩

theorem Holds.snoc {past : List RunEvent} {s t : RunState} {e : RunEvent} (holds : Holds past s)
    (captures : ∀ receipt, e.kind = .candidateStateCaptured receipt →
      t.candidateState = some receipt)
    (materializes : ∀ sourceRunId sourceReceipt sourcePatch tree,
      e.kind = .candidateStateMaterialized sourceRunId sourceReceipt sourcePatch tree →
        t.candidateMaterialized = some ⟨sourceRunId, sourceReceipt, sourcePatch, tree⟩)
    (keeps : ∀ receipt, s.candidateState = some receipt → t.candidateState = some receipt)
    (keepsToo : ∀ m, s.candidateMaterialized = some m → t.candidateMaterialized = some m) :
    Holds (past ++ [e]) t := by
  constructor
  · intro event member receipt kind
    rcases List.mem_append.mp member with before | last
    · exact keeps receipt (holds.captured event before receipt kind)
    · cases List.mem_singleton.mp last
      exact captures receipt kind
  · intro event member sourceRunId sourceReceipt sourcePatch tree kind
    rcases List.mem_append.mp member with before | last
    · exact keepsToo _ (holds.materialized event before _ _ _ _ kind)
    · cases List.mem_singleton.mp last
      exact materializes _ _ _ _ kind

theorem holds_of_run {sha256 : Sha256} {events : List RunEvent} {s : RunState}
    (run : reduceAll sha256 events = .ok s) : Holds events s := by
  apply run_induction (motive := Holds) _ _ _ run
  · constructor
    · intro e none
      cases none
    · intro e none
      cases none
  · intro e contract task kind _ _
    constructor
    · intro event member receipt other
      cases List.mem_singleton.mp member
      rw [kind] at other
      cases other
    · intro event member _ _ _ _ other
      cases List.mem_singleton.mp member
      rw [kind] at other
      cases other
  · intro past s e contract t _ holds _ _ applied
    generalize shape : e.kind = k at applied
    -- A receipt or a materialization is only accepted where there was none.
    cases applied with
    | candidateStateCaptured fits empty =>
        refine holds.snoc ?_ ?_ ?_ ?_
        · intro receipt kind
          cases shape.symm.trans kind
          rfl
        · intro _ _ _ _ kind
          cases shape.symm.trans kind
        · intro receipt held
          cases empty.symm.trans held
        · exact fun _ held => held
    | candidateStateMaterialized fitsReceipt fitsPatch empty =>
        refine holds.snoc ?_ ?_ ?_ ?_
        · intro receipt kind
          cases shape.symm.trans kind
        · intro _ _ _ _ kind
          cases shape.symm.trans kind
          rfl
        · exact fun _ held => held
        · intro m held
          cases empty.symm.trans held
    | _ =>
        refine holds.snoc ?_ ?_ ?_ ?_
        · intro receipt kind
          cases shape.symm.trans kind
        · intro _ _ _ _ kind
          cases shape.symm.trans kind
        · exact fun _ held => held
        · exact fun _ held => held

def Returns (sha256 : Sha256) (artifacts : ArtifactResolver) (r : ArtifactRef) (d : Digest256) :
    Prop := ∃ bytes, artifacts r = .ok bytes ∧ Digest256.ofBytes sha256 bytes = d

section Verified

variable {sha256 : Sha256} {ext : Externals} {artifacts : ArtifactResolver}
  {events : List RunEvent} {s : RunState} {n : UInt64}

theorem returns_of_verified (verified : verifyPrefixCore sha256 artifacts events = .ok (s, n))
    {e : RunEvent} (member : e ∈ events) {r : ArtifactRef} (carries : Carries e.kind r) :
    ∃ same, (∃ e ∈ events, Carries e.kind same) ∧ same.locator = r.locator ∧
      same.digest = r.digest ∧ Returns sha256 artifacts same r.digest := by
  rcases verifyPrefixCore_ok_iff.mp verified with ⟨_, _, _, backed, _⟩
  rcases unique_of_referenced member (carries_iff.mp carries) with
    ⟨same, unique, locator, digest⟩
  rcases mem_uniqueArtifacts unique with ⟨other, among, listed⟩
  refine ⟨same, ⟨other, among, carries_iff.mpr listed⟩, locator, digest, ?_⟩
  exact digest ▸ backed same unique

theorem returns_of_locator (verified : verifyPrefixCore sha256 artifacts events = .ok (s, n))
    (byLocator : ∀ r r' : ArtifactRef, r.locator = r'.locator → artifacts r = artifacts r')
    {e : RunEvent} (member : e ∈ events) {r : ArtifactRef} (carries : Carries e.kind r) :
    Returns sha256 artifacts r r.digest := by
  rcases returns_of_verified verified member carries with ⟨same, _, locator, _, bytes, got, hash⟩
  exact ⟨bytes, (byLocator r same locator.symm).trans got, hash⟩

/-- What a verified record has behind it. A reference is resolved once under its locator and digest,
whatever its kind, and the patch of a source receipt under the reference of the copy. -/
theorem verified_artifacts
    (accepted : verifyPrefix sha256 ext artifacts events = .ok (s, n)) :
    (∀ e ∈ events, ∀ r, Carries e.kind r → ∃ same, (∃ e ∈ events, Carries e.kind same) ∧
      same.locator = r.locator ∧ same.digest = r.digest ∧
        Returns sha256 artifacts same r.digest) ∧
    (∀ e ∈ events, ∀ receiptRef, e.kind = .candidateStateCaptured receiptRef →
      ∃ bytes receipt, artifacts receiptRef = .ok bytes ∧ ext.readReceipt bytes = .ok receipt ∧
        Returns sha256 artifacts receipt.patch receipt.patch.digest) ∧
    (∀ e ∈ events, ∀ sourceRunId sourceReceipt sourcePatch tree,
      e.kind = .candidateStateMaterialized sourceRunId sourceReceipt sourcePatch tree →
        ∃ bytes receipt, artifacts sourceReceipt = .ok bytes ∧
          ext.readReceipt bytes = .ok receipt ∧
          Returns sha256 artifacts sourcePatch receipt.patch.digest) ∧
    n = UInt64.ofNat (distinctPairs events).card ∧
    ((∀ r r' : ArtifactRef, r.locator = r'.locator → artifacts r = artifacts r') →
      (∀ e ∈ events, ∀ r, Carries e.kind r → Returns sha256 artifacts r r.digest) ∧
      ∀ e ∈ events, ∀ e' ∈ events, ∀ r r', Carries e.kind r → Carries e'.kind r' →
        r.locator = r'.locator → r.digest = r'.digest) := by
  rcases verifyPrefix_lineage.mp accepted with ⟨core, contract, runId, _, _, captured, source⟩
  rcases verifyPrefixCore_ok_iff.mp core with ⟨_, _, run, _, counted⟩
  have holds := holds_of_run run
  refine ⟨fun e member r carries => returns_of_verified core member carries, ?_, ?_, ?_, ?_⟩
  · intro e member receiptRef kind
    rcases captured receiptRef (holds.captured e member receiptRef kind) with ⟨receipt, lineage⟩
    rcases lineage.behind with ⟨bytes, backed, read, _⟩
    rcases lineage.patch with ⟨patch, patchBacked⟩
    exact ⟨bytes, receipt, backed.resolves, read, patch, patchBacked.resolves, patchBacked.digest⟩
  · intro e member sourceRunId sourceReceipt sourcePatch tree kind
    rcases source _ (holds.materialized e member _ _ _ _ kind) with ⟨receipt, patch, lineage⟩
    rcases lineage.behind with ⟨bytes, backed, read, _⟩
    exact ⟨bytes, receipt, backed.resolves, read, patch, lineage.patch.resolves,
      lineage.patchDigest⟩
  · rw [counted, length_uniqueArtifacts]
  · intro byLocator
    refine ⟨fun e member r carries => returns_of_locator core byLocator member carries, ?_⟩
    intro e member e' member' r r' carries carries' locator
    rcases returns_of_locator core byLocator member carries with ⟨bytes, got, hash⟩
    rcases returns_of_locator core byLocator member' carries' with ⟨bytes', got', hash'⟩
    have same : bytes = bytes' := Except.ok.inj (got.symm.trans ((byLocator r r' locator).trans got'))
    rw [← hash, ← hash', same]

end Verified

/-! ### A record that names one locator with two kinds -/

namespace Shared

def digest : Digest256 := .ofBytes standardSha256 []

def task : ArtifactRef := ⟨.task, "shared", digest⟩

def worktree : ArtifactRef := ⟨.worktree, "shared", digest⟩

def contract : RunContract where
  gateObligations := []
  policyObligations := []
  sandboxRequirements := []
  agent := .notUsed "verify only"
  runnerEnvironment := "linux"
  candidateState := none

def payloads : List RunEventKind := [.runStarted contract task, .worktreeCreated worktree]

def events : List RunEvent := mintStream standardSha256 Sample.runId 0 payloads

def onlyTask : ArtifactResolver := fun r =>
  if r.kind = .task then .ok [] else .error ⟨r.locator, "no such artifact"⟩

def externals : Externals :=
  ⟨fun _ => .error "no receipt", fun _ => .error "no binding", fun _ => none, id⟩

theorem kinds_events : kinds events = payloads := by
  have folded : ∃ t, foldPayloads Sample.runId .initial payloads = .ok t := ⟨_, rfl⟩
  rcases folded with ⟨t, folded⟩
  rcases mintStream_of_fold standardSha256 0 folded (by decide) with ⟨_, _, _, listed⟩
  exact listed

theorem unique : uniqueArtifacts events = [task] := by
  have listed : events.flatMap (fun e => referencedArtifacts e.kind) = [task, worktree] := by
    have shape : events.flatMap (fun e => referencedArtifacts e.kind) =
        (kinds events).flatMap referencedArtifacts := by rw [kinds, List.flatMap_map]
    rw [shape, kinds_events]
    rfl
  rw [uniqueArtifacts_eq, listed]
  simp [keepUnique, task, worktree]

theorem verified : ∃ s n, verifyPrefix standardSha256 externals onlyTask events = .ok (s, n) := by
  have folded : ∃ t, foldPayloads Sample.runId .initial payloads = .ok t ∧
      t.candidateState = none ∧ t.candidateMaterialized = none := ⟨_, rfl, rfl, rfl⟩
  rcases folded with ⟨t, folded, uncaptured, unmaterialized⟩
  rcases mintStream_of_fold standardSha256 0 folded (by decide) with ⟨s, run, agrees, _⟩
  have nonempty : events ≠ [] := by
    intro empty
    have listed := kinds_events
    rw [empty] at listed
    cases listed
  have core : verifyPrefixCore standardSha256 onlyTask events =
      .ok (s, UInt64.ofNat (uniqueArtifacts events).length) := by
    refine verifyPrefixCore_ok_iff.mpr ⟨nonempty, intact_of_run run, run, ?_, rfl⟩
    intro r member
    rw [unique, List.mem_singleton] at member
    exact ⟨[], by rw [member]; rfl, by rw [member]; rfl⟩
  have plain : s.candidateState = none ∧ s.candidateMaterialized = none := by
    rw [agrees]
    exact ⟨uncaptured, unmaterialized⟩
  refine ⟨s, UInt64.ofNat (uniqueArtifacts events).length, ?_⟩
  rw [verifyPrefix, core, ok_bind]
  simp [plain.1, plain.2]

end Shared

theorem verified_artifacts_shared : ∃ s n,
    verifyPrefix standardSha256 Shared.externals Shared.onlyTask Shared.events = .ok (s, n) ∧
      n = UInt64.ofNat (distinctPairs Shared.events).card := by
  rcases Shared.verified with ⟨s, n, verified⟩
  exact ⟨s, n, verified, (verified_artifacts verified).2.2.2.1⟩

/-- The worktree of a verified record that its resolver does not have. -/
theorem verified_without_worktree :
    ¬ ∀ (ext : Externals) (artifacts : ArtifactResolver) (events : List RunEvent) (s : RunState)
      (n : UInt64), verifyPrefix standardSha256 ext artifacts events = .ok (s, n) →
      ∀ e ∈ events, ∀ r, Carries e.kind r → Returns standardSha256 artifacts r r.digest := by
  intro complete
  rcases Shared.verified with ⟨s, n, verified⟩
  have named : RunEventKind.worktreeCreated Shared.worktree ∈ kinds Shared.events := by
    rw [Shared.kinds_events]
    exact List.mem_cons_of_mem _ (List.mem_singleton_self _)
  rcases List.mem_map.mp named with ⟨e, member, kind⟩
  have carries : Carries e.kind Shared.worktree := kind ▸ .worktree Shared.worktree
  rcases complete _ _ _ _ _ verified e member _ carries with ⟨bytes, got, _⟩
  cases got

end O7Formal.Run
