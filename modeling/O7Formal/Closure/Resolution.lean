import O7Formal.Closure.Admissibility
import O7Formal.Closure.Form

/-! What a successful answer rests on. Each question succeeds exactly when a list of positive
facts about the store holds. -/

namespace O7Formal.Closure

open Json Fallible
open Run (Sha256)

variable {sha256 : Sha256} {store : RetainedEvidence}

theorem resolveUngated_ok_iff {requested : String} {role : ConsumedAs}
    {a : ValidatedArtifact sha256} :
    resolveUngated sha256 store requested role = .ok a ↔
      store.resolve requested = some a.value ∧ a.digest = requested ∧
        role.accepts a.kind = true := by
  simp only [resolveUngated, bind_ok_iff, okOr_ok_iff, mapError_ok_iff, refuseIf_ok_iff,
    pure_ok_iff, not_not]
  constructor
  · intro facts
    rcases facts with ⟨raw, held, artifact, valid, _, accepted, rfl⟩
    rcases validate_ok valid with ⟨digests, values⟩
    exact ⟨by rw [held, values], digests, accepted⟩
  · intro facts
    rcases facts with ⟨held, rfl, accepted⟩
    exact ⟨a.value, held, a, validate_self a, (), accepted, rfl⟩

/-- The chain from a record to the assessment that its retained binding names. -/
structure BoundTo (store : RetainedEvidence) (record assessment : ValidatedArtifact sha256) :
    Prop where
  bound : ∃ bytes, ∃ binding : ValidatedArtifact sha256,
    store.bindingFor record.digest = some bytes ∧ digest sha256 bytes = .ok binding.digest ∧
    store.resolve binding.digest = some binding.value ∧ binding.kind = .retentionBinding ∧
    binding.strAt "/recordDigest" = some record.digest ∧
    binding.strAt "/assessmentDigest" = some assessment.digest
  retained : store.resolve assessment.digest = some assessment.value
  kind : assessment.kind = .retentionAssessment

theorem accepts_binding {kind : ArtifactKind} :
    ConsumedAs.retentionBinding.accepts kind = true ↔ kind = .retentionBinding := by
  cases kind <;> simp [ConsumedAs.accepts]

theorem accepts_assessment {kind : ArtifactKind} :
    ConsumedAs.retentionAssessment.accepts kind = true ↔ kind = .retentionAssessment := by
  cases kind <;> simp [ConsumedAs.accepts]

theorem accepts_gatedSource {kind : ArtifactKind} :
    ConsumedAs.gatedSource.accepts kind = true ↔ kind.gate = .gated := by
  cases kind <;> simp [ConsumedAs.accepts, ArtifactKind.gate]

theorem authorisingAssessment_ok_iff {record assessment : ValidatedArtifact sha256} :
    authorisingAssessment sha256 store record = .ok assessment ↔
      BoundTo store record assessment := by
  simp only [authorisingAssessment, bind_ok_iff, okOr_ok_iff, mapError_ok_iff, refuseIf_ok_iff,
    resolveUngated_ok_iff, accepts_binding, accepts_assessment, not_not]
  constructor
  · intro facts
    rcases facts with ⟨bytes, heldBytes, _, hashes, _, _, binding,
      ⟨heldBinding, rfl, bindingKind⟩, _, names, _, _, held, named, kind⟩
    rcases binding.binding bindingKind with ⟨⟨recordDigest, recorded⟩, assessmentDigest, assessed⟩
    rw [recorded, Option.getD_some] at names
    rw [assessed, Option.getD_some] at held named
    refine ⟨⟨bytes, binding, heldBytes, hashes, heldBinding, bindingKind, ?_, ?_⟩, ?_, kind⟩
    · rw [recorded, names]
    · rw [assessed, named]
    · rw [named, held]
  · intro facts
    rcases facts with ⟨⟨bytes, binding, heldBytes, hashes, heldBinding, bindingKind, names, named⟩,
      held, kind⟩
    refine ⟨bytes, heldBytes, binding.digest, hashes, (), ?_, binding,
      ⟨heldBinding, rfl, bindingKind⟩, (), ?_, ?_⟩
    · rw [heldBinding]
      exact Option.some_ne_none _
    · rw [names, Option.getD_some]
    · rw [named, Option.getD_some, held]
      exact ⟨(), Option.some_ne_none _, rfl, rfl, kind⟩

/-- The assessment bound to a record authorises it, and is the one the basis declares. -/
structure Authorises (store : RetainedEvidence) (expected : Expected)
    (record assessment : ValidatedArtifact sha256) : Prop extends
    BoundTo store record assessment where
  authorises : checkAuthorises record assessment expected.policy expected.detector = .ok ()
  declared : ∀ b ∈ expected.declared, b.recordDigest = record.digest →
    b.assessmentDigest = assessment.digest

theorem authorised_ok_iff {record : ValidatedArtifact sha256} {expected : Expected} {u : Unit} :
    authorised sha256 store record expected = .ok u ↔
      ∃ assessment, Authorises store expected record assessment := by
  simp only [authorised, bind_ok_iff, authorisingAssessment_ok_iff, mapError_ok_iff,
    refuseFirst_ok_iff, List.mem_filter, decide_eq_true_eq, not_not, and_imp]
  constructor
  · intro facts
    rcases facts with ⟨assessment, bound, _, authorises, declared⟩
    exact ⟨assessment, bound, authorises, declared⟩
  · intro facts
    rcases facts with ⟨assessment, ⟨bound, authorises, declared⟩⟩
    exact ⟨assessment, bound, (), authorises, declared⟩

theorem passGate_ok_iff {a : ValidatedArtifact sha256} {expected : Expected} {u : Unit} :
    passGate sha256 store a expected = .ok u ↔
      (a.kind.gate = .gated → ∃ assessment, Authorises store expected a assessment) := by
  unfold passGate
  split_ifs with gated
  · simp [gated, authorised_ok_iff]
  · simp [gated]

structure Resolves (store : RetainedEvidence) (expected : Expected) (requested : String)
    (role : ConsumedAs) (a : ValidatedArtifact sha256) : Prop where
  held : store.resolve requested = some a.value
  named : a.digest = requested
  accepted : role.accepts a.kind = true
  authorised : a.kind.gate = .gated → ∃ assessment, Authorises store expected a assessment

theorem resolveArtifact_ok_iff {requested : String} {role : ConsumedAs} {expected : Expected}
    {a : ValidatedArtifact sha256} :
    resolveArtifact sha256 store requested role expected = .ok a ↔
      Resolves store expected requested role a := by
  simp only [resolveArtifact, bind_ok_iff, resolveUngated_ok_iff, passGate_ok_iff, pure_ok_iff]
  constructor
  · intro facts
    rcases facts with ⟨_, ⟨held, named, accepted⟩, _, authorised, rfl⟩
    exact ⟨held, named, accepted, authorised⟩
  · intro facts
    exact ⟨a, ⟨facts.held, facts.named, facts.accepted⟩, (), facts.authorised, rfl⟩

theorem readPointer_reduced {record : ValidatedArtifact sha256} {locatorKind pointer : String}
    {v : Tree} (kind : record.kind = .reducedSourceRecord locatorKind) :
    readPointer record pointer = .ok v ↔
      ¬ blocks record pointer = true ∧ retainedField record pointer = some v := by
  simp only [readPointer, kind, bind_ok_iff, refuseIf_ok_iff, okOr_ok_iff, exists_const]

theorem readPointer_complete {record : ValidatedArtifact sha256} {surface pointer : String}
    {v : Tree} (kind : record.kind = .completeProjection surface) :
    readPointer record pointer = .ok v ↔ record.pointer pointer = some v := by
  simp only [readPointer, kind, okOr_ok_iff]

def readInput (sha256 : Sha256) (store : RetainedEvidence) (expected : Expected)
    (input : DecisionInput) : Except Unresolved (ObservedField × Tree) := do
  let record ← resolveArtifact sha256 store input.sourceDigest .gatedSource expected
  concernsSource record input.sourceDigest input.locator
  let value ← readPointer record input.pointer
  return (⟨record.kind.surface, input.pointer, input.sourceDigest⟩, value)

theorem readInput_of_resolves {expected : Expected} {input : DecisionInput} {surface : String}
    {record : ValidatedArtifact sha256} {value : Tree}
    (resolved : Resolves store expected input.sourceDigest .gatedSource record)
    (surfaces : record.kind.surface = surface)
    (concerned : concernsSource record input.sourceDigest input.locator = .ok ())
    (read : readPointer record input.pointer = .ok value) :
    readInput sha256 store expected input =
      .ok (⟨surface, input.pointer, input.sourceDigest⟩, value) := by
  simp only [readInput, resolveArtifact_ok_iff.mpr resolved, concerned, read, ok_bind, surfaces]
  rfl

theorem checkInput_ok {expected : Expected} {input : DecisionInput} {o : ObservedField} {v : Tree}
    (read : readInput sha256 store expected input = .ok (o, v)) (c : CheckedBasis) :
    checkInput sha256 store expected c input =
      { c with observed := c.observed ++ [o], values := c.values ++ [v] } := by
  simp only [readInput, bind_ok_iff, pure_ok_iff, Prod.mk.injEq] at read
  rcases read with ⟨record, resolved, _, concerned, value, pointed, rfl, rfl⟩
  simp only [checkInput, resolved, concerned, pointed]

theorem checkInput_error {expected : Expected} {input : DecisionInput} {e : Unresolved}
    (refused : readInput sha256 store expected input = .error e) (c : CheckedBasis) :
    (checkInput sha256 store expected c input).why ≠ [] := by
  simp only [readInput, bind_error_iff, pure_ne_error, and_false, exists_false, or_false] at refused
  rcases refused with door | ⟨record, resolved, elsewhere | ⟨_, concerned, unread⟩⟩
  · simp [checkInput, door, CheckedBasis.push]
  · simp [checkInput, resolved, elsewhere, CheckedBasis.push]
  · simp [checkInput, resolved, concerned, unread, CheckedBasis.push]

theorem checkInput_keeps {expected : Expected} {input : DecisionInput} {c : CheckedBasis}
    (refused : c.why ≠ []) : (checkInput sha256 store expected c input).why ≠ [] := by
  cases read : readInput sha256 store expected input with
  | error e => exact checkInput_error read c
  | ok result =>
      rcases result with ⟨o, v⟩
      rw [checkInput_ok read]
      exact refused

def InputsRead (sha256 : Sha256) (store : RetainedEvidence) (expected : Expected)
    (inputs : List DecisionInput) (results : List (ObservedField × Tree)) : Prop :=
  List.Forall₂ (fun input result => readInput sha256 store expected input = .ok result) inputs
    results

theorem foldl_checkInput_ok {expected : Expected} {inputs : List DecisionInput}
    {results : List (ObservedField × Tree)}
    (read : InputsRead sha256 store expected inputs results) (c : CheckedBasis) :
    inputs.foldl (checkInput sha256 store expected) c =
      { c with observed := c.observed ++ results.map Prod.fst
               values := c.values ++ results.map Prod.snd } := by
  induction read generalizing c with
  | nil => simp
  | @cons input result inputs results here _ ih =>
      rcases result with ⟨o, v⟩
      rw [List.foldl_cons, checkInput_ok here, ih]
      simp

theorem foldl_checkInput_keeps {expected : Expected} (inputs : List DecisionInput)
    {c : CheckedBasis} (refused : c.why ≠ []) :
    (inputs.foldl (checkInput sha256 store expected) c).why ≠ [] := by
  induction inputs generalizing c with
  | nil => exact refused
  | cons input rest ih => exact ih (checkInput_keeps refused)

theorem inputsRead_of_clean {expected : Expected} {inputs : List DecisionInput} {c : CheckedBasis}
    (clean : (inputs.foldl (checkInput sha256 store expected) c).why = []) :
    ∃ results, InputsRead sha256 store expected inputs results := by
  induction inputs generalizing c with
  | nil => exact ⟨[], .nil⟩
  | cons input rest ih =>
      rw [List.foldl_cons] at clean
      cases read : readInput sha256 store expected input with
      | error e => exact absurd clean (foldl_checkInput_keeps rest (checkInput_error read c))
      | ok result =>
          rcases ih clean with ⟨results, others⟩
          exact ⟨result :: results, .cons read others⟩

theorem refusals_nil {α : Type} {x : Except (List Unresolved) α}
    (nonempty : FailsWithin (fun why => why ≠ []) x) :
    refusals x = [] ↔ ∃ a, x = .ok a := by
  cases x with
  | ok a => simp [refusals]
  | error why => simpa [refusals] using nonempty why rfl

theorem failsWithin_singleton {ε α : Type} (x : Except ε α) :
    FailsWithin (fun why => why ≠ []) (x.mapError fun e => [e]) :=
  failsWithin_mapError fun e => List.cons_ne_nil e []

theorem checkSlot_nonempty (fact : DerivedFact) (expected : Expected) (slot : Nat)
    (source : DerivationSource) (cited : CitedSource) :
    FailsWithin (fun why => why ≠ [])
      (checkSlot sha256 store fact expected slot source cited) := by
  refine failsWithin_bind (failsWithin_singleton _) fun record => ?_
  refine failsWithin_bind (failsWithin_singleton _) fun _ => ?_
  refine failsWithin_bind (failsWithin_refuseIf (List.cons_ne_nil _ _)) fun _ => ?_
  refine failsWithin_mapError ?_
  intro e
  cases e <;> exact List.cons_ne_nil _ _

theorem checkDerived_nonempty (fact : DerivedFact) (expected : Expected) :
    FailsWithin (fun why => why ≠ []) (checkDerived sha256 store fact expected) := by
  refine failsWithin_bind (failsWithin_okOr (List.cons_ne_nil _ _)) fun entry => ?_
  refine failsWithin_bind (failsWithin_refuseIf (List.cons_ne_nil _ _)) fun _ => ?_
  refine failsWithin_bind (failsWithin_refuseIf (List.cons_ne_nil _ _)) fun _ => ?_
  refine failsWithin_bind (failsWithin_mapM
    (fun slot : (DerivationSource × CitedSource) × Nat =>
      checkSlot_nonempty fact expected slot.2 slot.1.1 slot.1.2) _) fun sources => ?_
  cases entry.derive sources with
  | none => exact failsWithin_error (List.cons_ne_nil _ _)
  | some recomputed => exact failsWithin_refuseIf (List.cons_ne_nil _ _)

theorem checkExpectedQuery_nonempty (basis : DecisionBasis) (query : ExpectedQuery) :
    FailsWithin (fun why => why ≠ []) (checkExpectedQuery sha256 basis store query) :=
  failsWithin_bind (failsWithin_singleton _) fun _ =>
    failsWithin_mapError fun _ => List.cons_ne_nil _ _

theorem foldl_push {ι : Type} (refused : ι → List Unresolved) (facts : List ι) (c : CheckedBasis) :
    facts.foldl (fun c fact => c.push (refused fact)) c = c.push (facts.flatMap refused) := by
  induction facts generalizing c with
  | nil => simp [CheckedBasis.push]
  | cons fact rest ih =>
      rw [List.foldl_cons, ih]
      simp [CheckedBasis.push]

/-- Everything a basis names goes through: its inputs with these results, its facts and its
query. -/
structure Checked (sha256 : Sha256) (store : RetainedEvidence) (basis : DecisionBasis)
    (results : List (ObservedField × Tree)) : Prop where
  inputs : InputsRead sha256 store basis.expected basis.inputs results
  derived : ∀ fact ∈ basis.derived, checkDerived sha256 store fact basis.expected = .ok ()
  query : ∀ query ∈ basis.expectedQuery, checkExpectedQuery sha256 basis store query = .ok ()

def CheckedBasis.ofResults (results : List (ObservedField × Tree)) : CheckedBasis :=
  ⟨[], results.map Prod.snd, results.map Prod.fst, false⟩

def queryRefusals (sha256 : Sha256) (store : RetainedEvidence) (basis : DecisionBasis) :
    List Unresolved :=
  basis.expectedQuery.toList.flatMap fun query =>
    refusals (checkExpectedQuery sha256 basis store query)

theorem checkBasis_eq (basis : DecisionBasis) :
    checkBasis sha256 basis store =
      (basis.inputs.foldl (checkInput sha256 store basis.expected) .empty).push
        ((basis.derived.flatMap fun fact =>
          refusals (checkDerived sha256 store fact basis.expected)) ++
          queryRefusals sha256 store basis) := by
  simp only [checkBasis, queryRefusals, foldl_push]
  cases basis.expectedQuery with
  | none => simp
  | some query => simp [CheckedBasis.push]

theorem checkBasis_ok {basis : DecisionBasis} {results : List (ObservedField × Tree)}
    (checked : Checked sha256 store basis results) :
    checkBasis sha256 basis store = .ofResults results := by
  have derived : (basis.derived.flatMap fun fact =>
      refusals (checkDerived sha256 store fact basis.expected)) = [] :=
    List.flatMap_eq_nil_iff.mpr fun fact member =>
      (refusals_nil (checkDerived_nonempty fact basis.expected)).mpr
        ⟨(), checked.derived fact member⟩
  have query : queryRefusals sha256 store basis = [] :=
    List.flatMap_eq_nil_iff.mpr fun query member =>
      (refusals_nil (checkExpectedQuery_nonempty basis query)).mpr
        ⟨(), checked.query query (Option.mem_toList.mp member)⟩
  rw [checkBasis_eq, foldl_checkInput_ok checked.inputs, derived, query]
  simp [CheckedBasis.push, CheckedBasis.empty, CheckedBasis.ofResults]

theorem checked_of_clean {basis : DecisionBasis} (clean : (checkBasis sha256 basis store).why = []) :
    ∃ results, Checked sha256 store basis results := by
  rw [checkBasis_eq] at clean
  rcases List.append_eq_nil_iff.mp clean with ⟨read, rest⟩
  rcases List.append_eq_nil_iff.mp rest with ⟨derived, query⟩
  rcases inputsRead_of_clean read with ⟨results, inputs⟩
  refine ⟨results, inputs, ?_, ?_⟩
  · intro fact member
    exact ((refusals_nil (checkDerived_nonempty fact basis.expected)).mp
      (List.flatMap_eq_nil_iff.mp derived fact member)).elim fun _ ok => ok
  · intro named member
    exact ((refusals_nil (checkExpectedQuery_nonempty basis named)).mp
      (List.flatMap_eq_nil_iff.mp query named (Option.mem_toList.mpr member))).elim fun _ ok => ok

/-- The single reading of an admission: everything the basis names goes through, and the minimum
basis of the profile is met by what was observed. -/
theorem admissibility_yes_iff {profile : DecisionProfile} {basis : DecisionBasis}
    {values : List Tree} :
    admissibility sha256 profile basis store = .yes values ↔
      ∃ results, Checked sha256 store basis results ∧ values = results.map Prod.snd ∧
        checkCompleteness profile basis (.ofResults results) = [] := by
  constructor
  · intro admitted
    simp only [admissibility] at admitted
    split_ifs at admitted with skipped clean clean
    · rcases checked_of_clean (List.isEmpty_iff.mp clean) with ⟨results, checked⟩
      rw [checkBasis_ok checked] at skipped
      exact absurd skipped Bool.false_ne_true
    · rcases List.append_eq_nil_iff.mp (List.isEmpty_iff.mp clean) with ⟨unrefused, complete⟩
      rcases checked_of_clean unrefused with ⟨results, checked⟩
      rw [checkBasis_ok checked] at complete admitted
      exact ⟨results, checked, (Admissible.yes.inj admitted).symm, complete⟩
  · intro facts
    rcases facts with ⟨results, checked, rfl, complete⟩
    simp only [admissibility, checkBasis_ok checked, complete]
    rfl

theorem scanVerdict_established_iff {scan : FalsificationSurfaceScan} {claims : Nat}
    {verdict : ScanVerdict} (established : ∀ why, verdict ≠ .cannotCheck why) :
    scanVerdict sha256 scan claims store = verdict ↔
      scan.completeness = .complete ∧ ∃ qualified,
        checkScanEvidence sha256 scan store = .ok qualified ∧
        qualified.supportsClaimCount claims = .ok () ∧
        (if claims = 0 then .zeroClaimsMeaningful else .claims claims) = verdict := by
  unfold scanVerdict
  cases scan.completeness with
  | incomplete reason => simp [(established _).symm]
  | failed reason => simp [(established _).symm]
  | complete =>
      cases checkScanEvidence sha256 scan store with
      | error why => simp [(established _).symm]
      | ok qualified =>
          cases supported : qualified.supportsClaimCount claims with
          | error why => simp [(established _).symm, supported]
          | ok u => simp [supported]

def intervalVerdict (expectedSha : String) (before after : ObservedHead) : Staleness :=
  if before.observedAt > after.observedAt then
    .cannotCheck (.noInterval before.observedAt after.observedAt)
  else headsVerdict expectedSha [before, after]

theorem staleness_established_iff {subject : Subject} {read : SubjectRead}
    {verdict : Staleness} (established : ∀ why, verdict ≠ .cannotCheck why) :
    staleness sha256 subject read store = verdict ↔
      ∃ before after,
        readHead sha256 store subject "HEAD_BEFORE" read.before = .ok before ∧
        readHead sha256 store subject "HEAD_AFTER" read.after = .ok after ∧
        intervalVerdict subject.expectedSha before after = verdict := by
  cases first : readHead sha256 store subject "HEAD_BEFORE" read.before with
  | error why =>
      cases second : readHead sha256 store subject "HEAD_AFTER" read.after with
      | error why' => simp [staleness, readHeads, first, second, (established _).symm]
      | ok after => simp [staleness, readHeads, first, second, (established _).symm]
  | ok before =>
      cases second : readHead sha256 store subject "HEAD_AFTER" read.after with
      | error why => simp [staleness, readHeads, first, second, (established _).symm]
      | ok after => simp [staleness, readHeads, first, second, intervalVerdict]

end O7Formal.Closure
