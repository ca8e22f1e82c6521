import O7Formal.Closure.Gate
import O7Formal.Lib.Stable

/-! Retaining more evidence. Nothing in the three questions depends on a digest being absent, so
an answer that stands over a store stands over every store that extends it. -/

namespace O7Formal.Closure

open Json Fallible
open Run (Sha256 standardSha256)

/-- `store'` answers everything that `store` answers, alike, and may answer more. -/
structure Extends (store store' : RetainedEvidence) : Prop where
  resolve : ∀ digest value, store.resolve digest = some value → store'.resolve digest = some value
  bindingFor : ∀ digest value,
    store.bindingFor digest = some value → store'.bindingFor digest = some value

theorem Extends.refl (store : RetainedEvidence) : Extends store store :=
  ⟨fun _ _ held => held, fun _ _ held => held⟩

theorem Extends.trans {first middle last : RetainedEvidence} (left : Extends first middle)
    (right : Extends middle last) : Extends first last :=
  ⟨fun digest value held => right.resolve digest value (left.resolve digest value held),
    fun digest value held => right.bindingFor digest value (left.bindingFor digest value held)⟩

instance : Preorder RetainedEvidence where
  le := Extends
  le_refl := Extends.refl
  le_trans _ _ _ left right := left.trans right

variable {sha256 : Sha256}

theorem kept_resolve (digest : String) :
    Kept fun store : RetainedEvidence => store.resolve digest := by
  intro store store' grown value held
  exact grown.resolve digest value held

theorem kept_bindingFor (digest : String) :
    Kept fun store : RetainedEvidence => store.bindingFor digest := by
  intro store store' grown value held
  exact grown.bindingFor digest value held

theorem stable_resolveUngated (requested : String) (role : ConsumedAs) :
    Stable fun store => resolveUngated sha256 store requested role := by
  refine stable_bind (stable_okOr (kept_resolve requested) _) fun raw => ?_
  exact stable_const _

theorem stable_authorisingAssessment (record : ValidatedArtifact sha256) :
    Stable fun store => authorisingAssessment sha256 store record := by
  refine stable_bind (stable_okOr (kept_bindingFor record.digest) _) fun bytes => ?_
  refine stable_bind (stable_const _) fun bindingDigest => ?_
  refine stable_bind (stable_refuseIf_none (kept_resolve bindingDigest) _) fun _ => ?_
  refine stable_bind (stable_resolveUngated bindingDigest _) fun binding => ?_
  refine stable_bind (stable_const _) fun _ => ?_
  refine stable_bind (stable_refuseIf_none (kept_resolve _) _) fun _ => ?_
  exact stable_resolveUngated _ _

theorem stable_passGate (artifact : ValidatedArtifact sha256) (expected : Expected) :
    Stable fun store => passGate sha256 store artifact expected := by
  unfold passGate
  split_ifs with gated
  · refine stable_bind (stable_authorisingAssessment artifact) fun assessment => ?_
    exact stable_const _
  · exact stable_const _

theorem stable_resolveArtifact (requested : String) (role : ConsumedAs) (expected : Expected) :
    Stable fun store => resolveArtifact sha256 store requested role expected := by
  refine stable_bind (stable_resolveUngated requested role) fun artifact => ?_
  refine stable_bind (stable_passGate artifact expected) fun _ => ?_
  exact stable_const _

theorem stable_readInput (expected : Expected) (input : DecisionInput) :
    Stable fun store => readInput sha256 store expected input := by
  refine stable_bind (stable_resolveArtifact input.sourceDigest _ expected) fun record => ?_
  exact stable_const _

theorem stable_checkSlot (fact : DerivedFact) (expected : Expected) (slot : Nat)
    (source : DerivationSource) (cited : CitedSource) :
    Stable fun store => checkSlot sha256 store fact expected slot source cited := by
  refine stable_bind (stable_mapError (stable_resolveArtifact cited.digest _ expected) _)
    fun record => ?_
  exact stable_const _

theorem stable_checkDerived (fact : DerivedFact) (expected : Expected) :
    Stable fun store => checkDerived sha256 store fact expected := by
  refine stable_bind (stable_const _) fun entry => ?_
  refine stable_bind (stable_const _) fun _ => ?_
  refine stable_bind (stable_const _) fun _ => ?_
  refine stable_bind (stable_mapM (fun slot : (DerivationSource × CitedSource) × Nat =>
    stable_checkSlot fact expected slot.2 slot.1.1 slot.1.2) _) fun sources => ?_
  exact stable_const _

theorem stable_resolveCandidate (expected : Expected) (cited : String) :
    Stable fun store => resolveCandidate sha256 store expected cited := by
  refine stable_bind (stable_refuseIf_none (kept_resolve cited) _) fun _ => ?_
  refine stable_bind (stable_mapError (stable_resolveArtifact cited _ expected) _)
    fun candidate => ?_
  exact stable_const _

theorem stable_qualifyQuery (snapshot : ValidatedArtifact sha256) (expected : Expected) :
    Stable fun store => qualifyQuery sha256 snapshot store expected := by
  refine stable_bind (stable_const _) fun _ => ?_
  refine stable_bind (stable_const _) fun _ => ?_
  refine stable_bind (stable_const _) fun query => ?_
  refine stable_bind (stable_const _) fun recorded => ?_
  refine stable_bind (stable_mapM (stable_resolveCandidate expected) _) fun candidates => ?_
  exact stable_const _

theorem stable_checkExpectedQuery (basis : DecisionBasis) (query : ExpectedQuery) :
    Stable fun store => checkExpectedQuery sha256 basis store query := by
  refine stable_bind (stable_mapError (stable_resolveArtifact query.digest _ basis.expected) _)
    fun snapshot => ?_
  refine stable_mapError ?_ _
  refine stable_bind (stable_const _) fun _ => ?_
  refine stable_bind (stable_qualifyQuery snapshot basis.expected) fun qualified => ?_
  exact stable_const _

theorem Checked.extend {store store' : RetainedEvidence} (grown : Extends store store')
    {basis : DecisionBasis} {results : List (ObservedField × Tree)}
    (checked : Checked sha256 store basis results) : Checked sha256 store' basis results where
  inputs := checked.inputs.imp fun input result read =>
    stable_readInput basis.expected input grown result read
  derived := fun fact member =>
    stable_checkDerived fact basis.expected grown () (checked.derived fact member)
  query := fun query member =>
    stable_checkExpectedQuery basis query grown () (checked.query query member)

theorem admissibility_extend {store store' : RetainedEvidence} (grown : Extends store store')
    {profile : DecisionProfile} {basis : DecisionBasis} {values : List Tree}
    (admitted : admissibility sha256 profile basis store = .yes values) :
    admissibility sha256 profile basis store' = .yes values := by
  rcases admissibility_yes_iff.mp admitted with ⟨results, checked, same, complete⟩
  exact admissibility_yes_iff.mpr ⟨results, checked.extend grown, same, complete⟩

theorem stable_checkScanEvidence (scan : FalsificationSurfaceScan) :
    Stable fun store => checkScanEvidence sha256 scan store := by
  refine stable_bind (stable_mapError (stable_resolveArtifact scan.snapshotDigest _ scan.expected) _)
    fun snapshot => ?_
  refine stable_bind (stable_const _) fun _ => ?_
  refine stable_bind (stable_const _) fun _ => ?_
  exact stable_mapError (stable_qualifyQuery snapshot scan.expected) _

theorem scanVerdict_extend {store store' : RetainedEvidence} (grown : Extends store store')
    {scan : FalsificationSurfaceScan} {claims : Nat} {verdict : ScanVerdict}
    (established : ∀ why, verdict ≠ .cannotCheck why)
    (scanned : scanVerdict sha256 scan claims store = verdict) :
    scanVerdict sha256 scan claims store' = verdict := by
  rcases (scanVerdict_established_iff established).mp scanned with
    ⟨complete, qualified, evidence, rest⟩
  exact (scanVerdict_established_iff established).mpr
    ⟨complete, qualified, stable_checkScanEvidence scan grown qualified evidence, rest⟩

theorem stable_resolveHeadRead (eventDigest role : String) (subject : Subject) :
    Stable fun store => resolveHeadRead sha256 store eventDigest role subject := by
  refine stable_bind (stable_mapError (stable_resolveArtifact eventDigest _ subject.expected) _)
    fun event => ?_
  refine stable_bind (stable_const _) fun _ => ?_
  refine stable_bind (stable_const _) fun _ => ?_
  refine stable_bind (stable_const _) fun snapshotDigest => ?_
  refine stable_bind (stable_mapError (stable_resolveArtifact snapshotDigest _ subject.expected) _)
    fun snapshot => ?_
  exact stable_const _

theorem stable_readHead (subject : Subject) (role : String) (read : HeadRead) :
    Stable fun store => readHead sha256 store subject role read := by
  cases read with
  | failed code => exact stable_const _
  | observed eventDigest => exact stable_resolveHeadRead eventDigest role subject

theorem staleness_extend {store store' : RetainedEvidence} (grown : Extends store store')
    {subject : Subject} {read : SubjectRead} {verdict : Staleness}
    (established : ∀ why, verdict ≠ .cannotCheck why)
    (answered : staleness sha256 subject read store = verdict) :
    staleness sha256 subject read store' = verdict := by
  rcases (staleness_established_iff established).mp answered with
    ⟨before, after, first, second, rest⟩
  exact (staleness_established_iff established).mpr ⟨before, after,
    stable_readHead subject _ read.before grown before first,
    stable_readHead subject _ read.after grown after second, rest⟩

/-- Retaining more evidence never changes an established verdict. -/
theorem established_verdicts_stand {store store' : RetainedEvidence}
    (grown : Extends store store') :
    (∀ profile basis values, admissibility sha256 profile basis store = .yes values →
      admissibility sha256 profile basis store' = .yes values) ∧
    (∀ scan claims,
      (scanVerdict sha256 scan claims store = .zeroClaimsMeaningful →
        scanVerdict sha256 scan claims store' = .zeroClaimsMeaningful) ∧
      ∀ n, scanVerdict sha256 scan claims store = .claims n →
        scanVerdict sha256 scan claims store' = .claims n) ∧
    (∀ subject read,
      (staleness sha256 subject read store = .notStale →
        staleness sha256 subject read store' = .notStale) ∧
      ∀ observed, staleness sha256 subject read store = .stale observed →
        staleness sha256 subject read store' = .stale observed) := by
  refine ⟨fun profile basis values => admissibility_extend grown, fun scan claims => ⟨?_, ?_⟩,
    fun subject read => ⟨?_, ?_⟩⟩
  · exact scanVerdict_extend grown (fun _ => by simp)
  · exact fun n => scanVerdict_extend grown (fun _ => by simp)
  · exact staleness_extend grown (fun _ => by simp)
  · exact fun observed => staleness_extend grown (fun _ => by simp)

namespace Sample

def moreEvidence (added : String) (value : Tree) : RetainedEvidence where
  resolve := fun digest => (evidence.resolve digest).or (if digest = added then some value else none)
  bindingFor := evidence.bindingFor

theorem moreEvidence_extends (added : String) (value : Tree) :
    Extends evidence (moreEvidence added value) where
  resolve := by
    intro digest value held
    simp [moreEvidence, held]
  bindingFor := fun _ _ held => held

end Sample

theorem established_verdicts_stand_check :
    admissibility standardSha256 .check Sample.basis (Sample.moreEvidence "sha256:00" one) =
      .yes [.string firstCommit, .string "success", .string secondCommit] :=
  (established_verdicts_stand (Sample.moreEvidence_extends "sha256:00" one)).1 .check Sample.basis _
    Sample.admitted

end O7Formal.Closure
