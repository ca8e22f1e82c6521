import O7Formal.Run.Replay

/-! What the verification of a record asks its resolver for. Another resolver that answers the same
verifies the same record. -/

namespace O7Formal.Run

def Names (events : List RunEvent) (r : ArtifactRef) : Prop :=
  ∃ e ∈ events, r ∈ referencedArtifacts e.kind

/-- The artifacts of the events, and the patch that a receipt nests. -/
def Asked (events : List RunEvent) (r : ArtifactRef) : Prop :=
  Names events r ∨ r.locator = candidatePatchLocator

structure Sourced (events : List RunEvent) (s : RunState) : Prop where
  binding : ∀ r ∈ s.commandBinding, Names events r
  captured : ∀ r ∈ s.candidateState, Names events r
  receipt : ∀ mat ∈ s.candidateMaterialized, Names events mat.sourceReceipt
  patch : ∀ mat ∈ s.candidateMaterialized, Names events mat.sourcePatch

theorem Names.snoc {past : List RunEvent} {e : RunEvent} {r : ArtifactRef} (named : Names past r) :
    Names (past ++ [e]) r := by
  rcases named with ⟨event, member, held⟩
  exact ⟨event, List.mem_append_left _ member, held⟩

theorem names_last {past : List RunEvent} {e : RunEvent} {r : ArtifactRef}
    (held : r ∈ referencedArtifacts e.kind) : Names (past ++ [e]) r :=
  ⟨e, List.mem_append_right _ (List.mem_singleton_self e), held⟩

theorem sourced_of_bare {events : List RunEvent} {s : RunState} (unbound : s.commandBinding = none)
    (uncaptured : s.candidateState = none) (unmaterialized : s.candidateMaterialized = none) :
    Sourced events s := by
  constructor
  · simp [unbound]
  · simp [uncaptured]
  · simp [unmaterialized]
  · simp [unmaterialized]

theorem sourced_of_run {sha256 : Sha256} {events : List RunEvent} {s : RunState}
    (run : reduceAll sha256 events = .ok s) : Sourced events s := by
  apply run_induction (motive := Sourced) _ _ _ run
  · exact sourced_of_bare rfl rfl rfl
  · intro e contract task _ _ _
    exact sourced_of_bare rfl rfl rfl
  · intro past s e contract t _ held _ _ applied
    have older : Sourced (past ++ [e]) s :=
      ⟨fun r here => (held.binding r here).snoc, fun r here => (held.captured r here).snoc,
        fun mat here => (held.receipt mat here).snoc, fun mat here => (held.patch mat here).snoc⟩
    generalize kind : e.kind = k at applied
    -- Three events leave evidence behind, and each names it.
    cases applied with
    | commandBindingCaptured =>
        refine ⟨?_, older.captured, older.receipt, older.patch⟩
        intro r here
        cases Option.mem_some.mp here
        exact names_last (by rw [kind]; exact List.mem_singleton_self _)
    | candidateStateCaptured =>
        refine ⟨older.binding, ?_, older.receipt, older.patch⟩
        intro r here
        cases Option.mem_some.mp here
        exact names_last (by rw [kind]; exact List.mem_singleton_self _)
    | candidateStateMaterialized =>
        refine ⟨older.binding, older.captured, ?_, ?_⟩
        · intro mat here
          cases Option.mem_some.mp here
          exact names_last (by rw [kind]; exact List.mem_cons_self)
        · intro mat here
          cases Option.mem_some.mp here
          exact names_last (by rw [kind]; exact List.mem_cons_of_mem _ (List.mem_singleton_self _))
    | _ => exact ⟨older.binding, older.captured, older.receipt, older.patch⟩

section Serving

variable {sha256 : Sha256} {ext : Externals} {artifacts other : ArtifactResolver}
  {events : List RunEvent}

/-- The other resolver gives what the first one gives, wherever a verification asks. -/
def Serves (events : List RunEvent) (artifacts other : ArtifactResolver) : Prop :=
  ∀ r bytes, Asked events r → artifacts r = .ok bytes → other r = .ok bytes

theorem Backed.served (serves : Serves events artifacts other) {r : ArtifactRef}
    {kind : ArtifactKind} {locator : String} {bytes : List UInt8} (asked : Asked events r)
    (backed : Backed sha256 artifacts r kind locator bytes) :
    Backed sha256 other r kind locator bytes :=
  ⟨backed.kind, backed.locator, serves r bytes asked backed.resolves, backed.digest⟩

theorem BindingBehind.served (serves : Serves events artifacts other) {r : ArtifactRef}
    {facts : CommandBindingFacts} (named : Names events r)
    (behind : BindingBehind sha256 ext artifacts r facts) :
    BindingBehind sha256 ext other r facts := by
  rcases behind with ⟨bytes, backed, rest⟩
  exact ⟨bytes, backed.served serves (.inl named), rest⟩

theorem ReceiptBehind.served (serves : Serves events artifacts other) {r : ArtifactRef}
    {locator : String} {receipt : CandidateStateReceiptV1} (named : Names events r)
    (behind : ReceiptBehind sha256 ext artifacts r locator receipt) :
    ReceiptBehind sha256 ext other r locator receipt := by
  rcases behind with ⟨bytes, backed, rest⟩
  exact ⟨bytes, backed.served serves (.inl named), rest⟩

theorem CapturedLineage.served (serves : Serves events artifacts other) {contract : RunContract}
    {runId : RunId} {binding : Option ArtifactRef} {receiptRef : ArtifactRef}
    {receipt : CandidateStateReceiptV1} (bound : ∀ r ∈ binding, Names events r)
    (named : Names events receiptRef)
    (lineage : CapturedLineage sha256 ext artifacts contract runId binding receiptRef receipt) :
    CapturedLineage sha256 ext other contract runId binding receiptRef receipt := by
  refine ⟨lineage.behind.served serves named, lineage.fulfils, lineage.ownRun, lineage.initial,
    ?_, ?_⟩
  · intro bindingRef held
    rcases lineage.continuation bindingRef held with ⟨facts, behind, rest⟩
    exact ⟨facts, behind.served serves (bound bindingRef held), rest⟩
  · rcases lineage.patch with ⟨bytes, backed⟩
    exact ⟨bytes, backed.served serves (.inr backed.locator)⟩

theorem MaterializedLineage.served (serves : Serves events artifacts other)
    {contract : RunContract} {runId : RunId} {binding : Option ArtifactRef}
    {mat : CandidateMaterialization} {sourceReceipt : CandidateStateReceiptV1}
    {patchBytes : List UInt8} (bound : ∀ r ∈ binding, Names events r)
    (receipt : Names events mat.sourceReceipt) (patch : Names events mat.sourcePatch)
    (lineage : MaterializedLineage sha256 ext artifacts contract runId binding mat sourceReceipt
      patchBytes) :
    MaterializedLineage sha256 ext other contract runId binding mat sourceReceipt patchBytes := by
  rcases lineage.bound with ⟨bindingRef, facts, held, behind, rest⟩
  exact ⟨⟨bindingRef, facts, held, behind.served serves (bound bindingRef held), rest⟩,
    lineage.behind.served serves receipt, lineage.sourceRun, lineage.fulfils,
    lineage.nestedLocator, lineage.patch.served serves (.inl patch), lineage.patchDigest,
    lineage.tree⟩

theorem verifyPrefixCore_served (serves : Serves events artifacts other) {s : RunState} {n : UInt64}
    (verified : verifyPrefixCore sha256 artifacts events = .ok (s, n)) :
    verifyPrefixCore sha256 other events = .ok (s, n) := by
  rcases verifyPrefixCore_ok_iff.mp verified with ⟨nonempty, chain, run, backed, counted⟩
  refine verifyPrefixCore_ok_iff.mpr ⟨nonempty, chain, run, ?_, counted⟩
  intro a member
  rcases backed a member with ⟨bytes, resolved, digest⟩
  exact ⟨bytes, serves a bytes (.inl (mem_uniqueArtifacts member)) resolved, digest⟩

theorem verifyPrefix_served (serves : Serves events artifacts other) {s : RunState} {n : UInt64}
    (verified : verifyPrefix sha256 ext artifacts events = .ok (s, n)) :
    verifyPrefix sha256 ext other events = .ok (s, n) := by
  rcases verifyPrefix_lineage.mp verified with ⟨core, contract, runId, under, own, captured, rest⟩
  have sourced := sourced_of_run (verifyPrefixCore_ok_iff.mp core).2.2.1
  refine verifyPrefix_lineage.mpr ⟨verifyPrefixCore_served serves core, contract, runId, under, own,
    ?_, ?_⟩
  · intro receiptRef held
    rcases captured receiptRef held with ⟨receipt, lineage⟩
    exact ⟨receipt, lineage.served serves sourced.binding (sourced.captured receiptRef held)⟩
  · intro mat held
    rcases rest mat held with ⟨sourceReceipt, patchBytes, lineage⟩
    exact ⟨sourceReceipt, patchBytes,
      lineage.served serves sourced.binding (sourced.receipt mat held) (sourced.patch mat held)⟩

end Serving

end O7Formal.Run
