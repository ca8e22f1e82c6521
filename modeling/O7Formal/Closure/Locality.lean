import O7Formal.Closure.Basis

/-! What a derived fact depends on. Past the door, `check_derived` sees nothing of a cited source
but the values at the inputs that the registry declares, and is a function of those. -/

namespace O7Formal.Closure

open Json Fallible
open Run (Sha256)

inductive Report where
  | nothing
  | disagreement (recomputed : Tree)
  | unavailable
  | refusal
  deriving DecidableEq

def Unresolved.report : Unresolved → Option Report
  | derivationDisagrees _ _ recomputed => some (.disagreement recomputed)
  | derivationInputUnavailable _ _ _ => some .unavailable
  | _ => none

def Report.ofRefusals (why : List Unresolved) : Report :=
  (why.findSome? Unresolved.report).getD .refusal

def Report.of : Except (List Unresolved) Unit → Report
  | .ok () => .nothing
  | .error why => .ofRefusals why

section Judgement

def viewOf (inputs : List (DerivationInput × Option Tree)) : Except Report Tree :=
  inputs.foldlM (fun view input => do
    let value ← okOr input.2 Report.unavailable
    okOr (view.place input.1.canonical value) .refusal) (.object [])

def judgeSlot (source : DerivationSource) (shown : Option (List (Option Tree))) :
    Except Report Tree := do
  let values ← okOr shown Report.refusal
  viewOf (source.inputs.zip values)

/-- What is reported of a claim, from what its slots show. -/
def judge (sha256 : Sha256) (derivation version : String) (claimed : Tree) (cited : Nat)
    (slots : List (Option (List (Option Tree)))) : Report :=
  match resolveDerivation derivation version with
  | none => .refusal
  | some entry =>
      if derivationComputed sha256 entry ≠ entry.implementationDigest ∨
          cited ≠ entry.sources.length then .refusal
      else
        match (entry.sources.zip slots).mapM fun slot => judgeSlot slot.1 slot.2 with
        | .error report => report
        | .ok views =>
            match entry.derive views with
            | some recomputed =>
                if recomputed = claimed then .nothing else .disagreement recomputed
            | none => .refusal

end Judgement

variable {sha256 : Sha256} {store : RetainedEvidence} {expected : Expected}

def declaredPointer (record : ValidatedArtifact sha256) (input : DerivationInput) : String :=
  match record.kind with
  | .reducedSourceRecord _ => input.decoded
  | _ => input.canonical

def declaredValue (record : ValidatedArtifact sha256) (input : DerivationInput) : Option Tree :=
  (readPointer record (declaredPointer record input)).toOption

/-- The record comes through the door of a slot: it resolves, is of the object cited, and is of
the surface the slot takes. -/
structure Admitted (store : RetainedEvidence) (expected : Expected) (source : DerivationSource)
    (cited : CitedSource) (record : ValidatedArtifact sha256) : Prop where
  resolved : Resolves store expected cited.digest .gatedSource record
  concerned : concernsSource record cited.digest cited.locator = .ok ()
  surface : record.kind.surface = source.kind

variable (sha256 store expected)

def slotDoor (fact : DerivedFact) (slot : Nat) (source : DerivationSource) (cited : CitedSource) :
    Except Unresolved (ValidatedArtifact sha256) := do
  let record ← resolveArtifact sha256 store cited.digest .gatedSource expected
  concernsSource record cited.digest cited.locator
  refuseIf (record.kind.surface ≠ source.kind)
    (.derivationSlotKindMismatch fact.derivation fact.version slot source.kind record.kind.surface)
  return record

variable {sha256 store expected}

theorem slotDoor_ok_iff {fact : DerivedFact} {slot : Nat} {source : DerivationSource}
    {cited : CitedSource} {record : ValidatedArtifact sha256} :
    slotDoor sha256 store expected fact slot source cited = .ok record ↔
      Admitted store expected source cited record := by
  simp only [slotDoor, bind_ok_iff, resolveArtifact_ok_iff, refuseIf_ok_iff, not_not, pure_ok_iff]
  constructor
  · rintro ⟨_, resolved, _, concerned, _, surface, rfl⟩
    exact ⟨resolved, concerned, surface⟩
  · intro facts
    exact ⟨record, facts.resolved, (), facts.concerned, (), facts.surface, rfl⟩

def AtDoor (e : Unresolved) : Prop := e.report = none

theorem ofRefusals_atDoor {e : Unresolved} (silent : AtDoor e) :
    Report.ofRefusals [e] = .refusal := by
  rw [Report.ofRefusals, List.findSome?_cons, silent]
  rfl

theorem ofRefusals_unavailable {e : Unresolved} {derivation version digest : String}
    (silent : AtDoor e) :
    Report.ofRefusals [e, .derivationInputUnavailable derivation version digest] =
      .unavailable := by
  rw [Report.ofRefusals, List.findSome?_cons, silent]
  rfl

theorem resolveUngated_atDoor (requested : String) (role : ConsumedAs) :
    FailsWithin AtDoor (resolveUngated sha256 store requested role) := by
  rw [resolveUngated]
  refine failsWithin_bind (failsWithin_okOr rfl) fun raw => ?_
  refine failsWithin_bind (failsWithin_mapError ?_) fun artifact => ?_
  · intro e
    cases e <;> rfl
  · exact failsWithin_bind (failsWithin_refuseIf rfl) fun _ => failsWithin_pure artifact

theorem authorised_atDoor (record : ValidatedArtifact sha256) :
    FailsWithin AtDoor (authorised sha256 store record expected) := by
  have assessment : FailsWithin AtDoor (authorisingAssessment sha256 store record) := by
    rw [authorisingAssessment]
    refine failsWithin_bind (failsWithin_okOr rfl) fun bytes => ?_
    refine failsWithin_bind (failsWithin_mapError fun _ => rfl) fun bindingDigest => ?_
    refine failsWithin_bind (failsWithin_refuseIf rfl) fun _ => ?_
    refine failsWithin_bind (resolveUngated_atDoor _ _) fun binding => ?_
    refine failsWithin_bind (failsWithin_refuseIf rfl) fun _ => ?_
    exact failsWithin_bind (failsWithin_refuseIf rfl) fun _ => resolveUngated_atDoor _ _
  rw [authorised]
  refine failsWithin_bind assessment fun assessment => ?_
  refine failsWithin_bind (failsWithin_mapError fun _ => rfl) fun _ => ?_
  exact failsWithin_refuseFirst fun _ => rfl

theorem slotDoor_atDoor (fact : DerivedFact) (slot : Nat) (source : DerivationSource)
    (cited : CitedSource) :
    FailsWithin AtDoor (slotDoor sha256 store expected fact slot source cited) := by
  rw [slotDoor]
  have resolves : FailsWithin AtDoor
      (resolveArtifact sha256 store cited.digest .gatedSource expected) := by
    rw [resolveArtifact]
    refine failsWithin_bind (resolveUngated_atDoor _ _) fun artifact => ?_
    refine failsWithin_bind ?_ fun _ => failsWithin_pure artifact
    rw [passGate]
    split_ifs
    · exact authorised_atDoor artifact
    · exact failsWithin_ok ()
  refine failsWithin_bind resolves fun record => ?_
  refine failsWithin_bind ?_ fun _ =>
    failsWithin_bind (failsWithin_refuseIf rfl) fun _ => failsWithin_pure record
  rw [concernsSource]
  split
  · split
    · exact failsWithin_ok ()
    · exact failsWithin_refuseFirst fun _ => rfl
  · exact failsWithin_ok ()

theorem checkSlot_eq (fact : DerivedFact) (slot : Nat) (source : DerivationSource)
    (cited : CitedSource) : checkSlot sha256 store fact expected slot source cited =
      ((slotDoor sha256 store expected fact slot source cited).mapError fun e => [e]) >>=
        fun record => (derivationSourceView record source.inputs).mapError
          (ViewError.refusals fact cited.digest) := by
  rw [checkSlot, slotDoor]
  cases resolveArtifact sha256 store cited.digest .gatedSource expected with
  | error e => rfl
  | ok record =>
      simp only [ok_bind, Except.mapError]
      cases concerned : concernsSource record cited.digest cited.locator with
      | error e => simp only [error_bind]
      | ok u =>
          by_cases same : record.kind.surface = source.kind
          · simp only [refuseIf, same, ne_eq, not_true_eq_false, if_false, ok_bind, pure,
              Except.pure]
          · simp only [refuseIf, same, ne_eq, not_false_eq_true, if_true, error_bind, ok_bind]

theorem readPointer_atDoor (record : ValidatedArtifact sha256) (pointer : String) :
    FailsWithin AtDoor (readPointer record pointer) := by
  rw [readPointer]
  split
  · exact failsWithin_bind (failsWithin_refuseIf rfl) fun _ => failsWithin_okOr rfl
  · exact failsWithin_okOr rfl

theorem sourceView_eq (fact : DerivedFact) (digest : String) (record : ValidatedArtifact sha256)
    (inputs : List DerivationInput) : (derivationSourceView record inputs).mapError
        (fun e => Report.ofRefusals (e.refusals fact digest)) =
      viewOf (inputs.zip (inputs.map (declaredValue record))) := by
  rw [derivationSourceView, viewOf, foldlM_mapError, ← List.map_prod_left_eq_zip, List.foldlM_map]
  congr 1
  funext view input
  rw [mapError_bind, declaredValue]
  change ((readPointer record (declaredPointer record input)).mapError
    ViewError.input).mapError _ >>= _ = _
  cases read : readPointer record (declaredPointer record input) with
  | error why =>
      have silent : why.report = none := readPointer_atDoor record _ why read
      simp only [Except.mapError, error_bind, Except.toOption, okOr, ViewError.refusals,
        ofRefusals_unavailable silent]
  | ok value =>
      simp only [Except.mapError, ok_bind, Except.toOption, okOr]
      cases view.place input.canonical value with
      | none => rfl
      | some placed => rfl

/-- What a citation shows: nothing where it does not come through the door. -/
def shown (sha256 : Sha256) (store : RetainedEvidence) (expected : Expected) (fact : DerivedFact)
    (slot : Nat) (source : DerivationSource) (cited : CitedSource) : Option (List (Option Tree)) :=
  (slotDoor sha256 store expected fact slot source cited).toOption.map fun record =>
    source.inputs.map (declaredValue record)

theorem judgeSlot_shown (fact : DerivedFact) (slot : Nat) (source : DerivationSource)
    (cited : CitedSource) :
    (checkSlot sha256 store fact expected slot source cited).mapError Report.ofRefusals =
      judgeSlot source (shown sha256 store expected fact slot source cited) := by
  rw [checkSlot_eq, judgeSlot, shown]
  cases door : slotDoor sha256 store expected fact slot source cited with
  | error e =>
      have silent : e.report = none := slotDoor_atDoor fact slot source cited e door
      simp only [Except.mapError, error_bind, Except.toOption, Option.map_none, okOr,
        ofRefusals_atDoor silent]
  | ok record =>
      change _ = viewOf (source.inputs.zip (source.inputs.map (declaredValue record)))
      rw [← sourceView_eq fact cited.digest]
      simp only [Except.mapError, ok_bind]
      cases derivationSourceView record source.inputs <;> rfl

theorem judgeSlot_undecided (source : DerivationSource) (shown : Option (List (Option Tree))) :
    FailsWithin (fun report => report = .unavailable ∨ report = .refusal)
      (judgeSlot source shown) := by
  rw [judgeSlot]
  refine failsWithin_bind (failsWithin_okOr (.inr rfl)) fun values => ?_
  rw [viewOf]
  refine failsWithin_foldlM (fun view input => ?_) _ _
  exact failsWithin_bind (failsWithin_okOr (.inl rfl)) fun value => failsWithin_okOr (.inr rfl)

def observations (sha256 : Sha256) (store : RetainedEvidence) (expected : Expected)
    (fact : DerivedFact) : List (Option (List (Option Tree))) :=
  match resolveDerivation fact.derivation fact.version with
  | none => []
  | some entry => (entry.sources.zip fact.derivedFrom).zipIdx.map fun slot =>
      shown sha256 store expected fact slot.2 slot.1.1 slot.1.2

theorem zip_map_zipIdx {α β γ : Type} (f : (α × β) × Nat → γ) (xs : List α) (ys : List β)
    (n : Nat) : xs.zip (((xs.zip ys).zipIdx n).map f) =
      ((xs.zip ys).zipIdx n).map fun p => (p.1.1, f p) := by
  induction xs generalizing ys n with
  | nil => rfl
  | cons x xs ih =>
      cases ys with
      | nil => rfl
      | cons y ys => simp [ih]

theorem report_eq_judge (fact : DerivedFact) :
    Report.of (checkDerived sha256 store fact expected) =
      judge sha256 fact.derivation fact.version fact.value fact.derivedFrom.length
        (observations sha256 store expected fact) := by
  rw [checkDerived, judge, observations]
  cases resolveDerivation fact.derivation fact.version with
  | none => rfl
  | some entry =>
      by_cases drift : derivationComputed sha256 entry = entry.implementationDigest
      swap
      · simp only [okOr, ok_bind, refuseIf, ne_eq, drift, not_false_eq_true, if_true, error_bind,
          true_or]
        rfl
      by_cases arity : fact.derivedFrom.length = entry.sources.length
      swap
      · simp only [okOr, ok_bind, refuseIf, ne_eq, drift, arity, not_true_eq_false,
          not_false_eq_true, if_true, if_false, error_bind, or_true]
        rfl
      have each := mapM_mapError Report.ofRefusals
        (fun slot : (DerivationSource × CitedSource) × Nat =>
          checkSlot sha256 store fact expected slot.2 slot.1.1 slot.1.2)
        (entry.sources.zip fact.derivedFrom).zipIdx
      simp only [judgeSlot_shown] at each
      simp only [okOr, ok_bind, refuseIf, ne_eq, drift, arity, not_true_eq_false, if_false, or_self,
        zip_map_zipIdx, List.mapM_map, Function.comp_def]
      rw [← each]
      cases (entry.sources.zip fact.derivedFrom).zipIdx.mapM fun slot =>
          checkSlot sha256 store fact expected slot.2 slot.1.1 slot.1.2 with
      | error why => rfl
      | ok views =>
          simp only [ok_bind, Except.mapError]
          cases entry.derive views with
          | none => rfl
          | some recomputed =>
              by_cases same : recomputed = fact.value
              · simp [same, Report.of]
              · simp only [same, not_false_eq_true, if_true, if_false]
                rfl

/-- Two citations of one slot show the same: neither comes through its door, or both do and have the
same values at the declared inputs. -/
def ShowSame (sha256 : Sha256) (store store' : RetainedEvidence) (expected expected' : Expected)
    (source : DerivationSource) (cited cited' : CitedSource) : Prop :=
  ((∀ record : ValidatedArtifact sha256, ¬ Admitted store expected source cited record) ∧
    ∀ record : ValidatedArtifact sha256, ¬ Admitted store' expected' source cited' record) ∨
  ∃ record record' : ValidatedArtifact sha256, Admitted store expected source cited record ∧
    Admitted store' expected' source cited' record' ∧
    ∀ input ∈ source.inputs, declaredValue record input = declaredValue record' input

theorem shown_none_iff {fact : DerivedFact} {slot : Nat} {source : DerivationSource}
    {cited : CitedSource} : shown sha256 store expected fact slot source cited = none ↔
      ∀ record : ValidatedArtifact sha256, ¬ Admitted store expected source cited record := by
  rw [shown, Option.map_eq_none_iff]
  constructor
  · intro closed record admitted
    rw [slotDoor_ok_iff.mpr admitted] at closed
    cases closed
  · intro closed
    cases door : slotDoor sha256 store expected fact slot source cited with
    | error e => rfl
    | ok record => exact absurd (slotDoor_ok_iff.mp door) (closed record)

theorem shown_of_admitted {fact : DerivedFact} {slot : Nat} {source : DerivationSource}
    {cited : CitedSource} {record : ValidatedArtifact sha256}
    (admitted : Admitted store expected source cited record) :
    shown sha256 store expected fact slot source cited =
      some (source.inputs.map (declaredValue record)) := by
  rw [shown, slotDoor_ok_iff.mpr admitted]
  rfl

theorem shown_eq_of_showSame {store' : RetainedEvidence} {expected' : Expected}
    {fact fact' : DerivedFact} {slot : Nat} {source : DerivationSource} {cited cited' : CitedSource}
    (same : ShowSame sha256 store store' expected expected' source cited cited') :
    shown sha256 store expected fact slot source cited =
      shown sha256 store' expected' fact' slot source cited' := by
  rcases same with ⟨closed, closed'⟩ | ⟨record, record', admitted, admitted', values⟩
  · rw [shown_none_iff.mpr closed, shown_none_iff.mpr closed']
  · rw [shown_of_admitted admitted, shown_of_admitted admitted']
    exact congrArg some (List.map_congr_left values)

/-- Two facts of one claim, whose citations show the same slot by slot. -/
structure SameClaim (sha256 : Sha256) (store store' : RetainedEvidence)
    (expected expected' : Expected) (fact fact' : DerivedFact) : Prop where
  derivation : fact.derivation = fact'.derivation
  version : fact.version = fact'.version
  value : fact.value = fact'.value
  cited : fact.derivedFrom.length = fact'.derivedFrom.length
  shown : ∀ entry, resolveDerivation fact.derivation fact.version = some entry →
    ∀ (slot : Nat) (source : DerivationSource) (cited cited' : CitedSource),
      entry.sources[slot]? = some source → fact.derivedFrom[slot]? = some cited →
      fact'.derivedFrom[slot]? = some cited' →
      ShowSame sha256 store store' expected expected' source cited cited'

theorem observations_getElem? {fact : DerivedFact} {entry : DerivationEntry}
    (found : resolveDerivation fact.derivation fact.version = some entry) (slot : Nat) :
    (observations sha256 store expected fact)[slot]? =
      (entry.sources[slot]?.bind fun source => fact.derivedFrom[slot]?.map fun cited =>
        shown sha256 store expected fact slot source cited) := by
  rw [observations, found]
  simp only [List.getElem?_map, List.getElem?_zipIdx, List.zip, List.getElem?_zipWith', zero_add]
  cases entry.sources[slot]? with
  | none => rfl
  | some source => cases fact.derivedFrom[slot]? <;> rfl

theorem report_local {store' : RetainedEvidence} {expected' : Expected} {fact fact' : DerivedFact}
    (same : SameClaim sha256 store store' expected expected' fact fact') :
    Report.of (checkDerived sha256 store fact expected) =
      Report.of (checkDerived sha256 store' fact' expected') := by
  have shows : observations sha256 store expected fact =
      observations sha256 store' expected' fact' := by
    cases found : resolveDerivation fact.derivation fact.version with
    | none =>
        rw [observations, observations, ← same.derivation, ← same.version, found]
    | some entry =>
        have found' := found
        rw [same.derivation, same.version] at found'
        apply List.ext_getElem?
        intro slot
        rw [observations_getElem? found, observations_getElem? found']
        cases held : entry.sources[slot]? with
        | none => rfl
        | some source =>
            cases cites : fact.derivedFrom[slot]? with
            | none =>
                rw [List.getElem?_eq_none_iff, same.cited, ← List.getElem?_eq_none_iff] at cites
                rw [cites]
                rfl
            | some cited =>
                have bound := (List.getElem?_eq_some_iff.mp cites).1
                rw [same.cited] at bound
                have cites' := List.getElem?_eq_getElem bound
                rw [cites']
                exact congrArg some (shown_eq_of_showSame
                  (same.shown entry found slot source cited _ held cites cites'))
  rw [report_eq_judge, report_eq_judge, shows, same.derivation, same.version, same.value,
    same.cited]

theorem blocks_iff {record : ValidatedArtifact sha256} {pointer : String} :
    blocks record pointer = true ↔ Lists record.value "blockedFields" pointer := by
  have held : record.pointer ("/" ++ "blockedFields") = record.pointer "/blockedFields" := rfl
  rw [blocks, ← held]
  constructor
  · intro blocked
    split at blocked
    · rename_i fields listed
      simp only [Option.bind_eq_some_iff, Tree.asArray_some_iff] at listed
      rcases listed with ⟨_, listed, rfl⟩
      simp only [List.any_eq_true, decide_eq_true_eq, Tree.asStr_some_iff] at blocked
      rcases blocked with ⟨_, member, rfl⟩
      exact ⟨fields, listed, member⟩
    · cases blocked
  · rintro ⟨items, listed, member⟩
    rw [ValidatedArtifact.pointer, listed]
    exact List.any_eq_true.mpr ⟨_, member, by simp [Tree.asStr]⟩

theorem unblocked_of_retained {record : ValidatedArtifact sha256} {locatorKind : String}
    {requested pointer : String} {value : Tree}
    (reduced : record.kind = .reducedSourceRecord locatorKind)
    (resolves : Resolves store expected requested .gatedSource record)
    (retained : retainedField record pointer = some value) : ¬ blocks record pointer = true := by
  rcases resolves.authorised (accepts_gatedSource.mp resolves.accepted) with
    ⟨assessment, authorised⟩
  rcases checkAuthorises_ok authorised.authorises with ⟨d, assessed, outcome, facts⟩
  rcases denominatorOf_reduced reduced facts.denominator with ⟨r, _, rfl⟩
  rcases retainedField_some retained with ⟨fields, held, found⟩
  have rest := facts.rest
  simp only [if_true, checkReducedRecord, bind_ok_iff, refuseIf_ok_iff] at rest
  rcases rest with ⟨_, _, _, _, _, _, _, _, _, _, _, _, partitioned⟩
  rw [blocks_iff]
  exact (checkPartition_retained partitioned held found).2.1

theorem declaredValue_complete {record : ValidatedArtifact sha256} {surface : String}
    (complete : record.kind = .completeProjection surface) (input : DerivationInput) :
    declaredValue record input = record.pointer input.canonical := by
  rw [declaredValue, declaredPointer, readPointer, complete]
  cases record.pointer input.canonical <;> rfl

theorem declaredValue_reduced {record : ValidatedArtifact sha256} {locatorKind requested : String}
    (reduced : record.kind = .reducedSourceRecord locatorKind)
    (resolves : Resolves store expected requested .gatedSource record) (input : DerivationInput) :
    declaredValue record input = retainedField record input.decoded := by
  rw [declaredValue, declaredPointer, readPointer, reduced]
  cases retained : retainedField record input.decoded with
  | none =>
      by_cases blocked : blocks record input.decoded = true
      · simp [refuseIf, blocked, Except.toOption]
      · simp [refuseIf, blocked, okOr, Except.toOption]
  | some value =>
      have unblocked := unblocked_of_retained reduced resolves retained
      simp [refuseIf, unblocked, okOr, Except.toOption]

theorem showSame_of_retained {source : DerivationSource} {whole kept : CitedSource}
    {projection record : ValidatedArtifact sha256} {surface : String}
    (complete : projection.kind = .completeProjection surface)
    (reduced : record.kind = .reducedSourceRecord surface)
    (resolved : Resolves store expected whole.digest .gatedSource projection)
    (resolves : Resolves store expected kept.digest .gatedSource record)
    (concerned : concernsSource record kept.digest kept.locator = .ok ())
    (retains : ∀ input ∈ source.inputs,
      retainedField record input.decoded = projection.pointer input.canonical) :
    ShowSame sha256 store store expected expected source whole kept := by
  by_cases taken : surface = source.kind
  · refine .inr ⟨projection, record, ⟨resolved, ?_, ?_⟩, ⟨resolves, concerned, ?_⟩, ?_⟩
    · rw [concernsSource, complete]
    · rw [complete]
      exact taken
    · rw [reduced]
      exact taken
    · intro input member
      rw [declaredValue_complete complete, declaredValue_reduced reduced resolves,
        retains input member]
  · refine .inl ⟨?_, ?_⟩
    · intro other admitted
      cases resolved.unique admitted.resolved
      have surfaces := admitted.surface
      rw [complete] at surfaces
      exact taken surfaces
    · intro other admitted
      cases resolves.unique admitted.resolved
      have surfaces := admitted.surface
      rw [reduced] at surfaces
      exact taken surfaces

/-- The record blocks the input, or does not account for it. -/
def Lost (record : ValidatedArtifact sha256) (input : DerivationInput) : Prop :=
  (∃ locatorKind, record.kind = .reducedSourceRecord locatorKind) ∧
    (blocks record input.decoded = true ∨ retainedField record input.decoded = none)

theorem Lost.read {record : ValidatedArtifact sha256} {input : DerivationInput}
    (lost : Lost record input) :
    readPointer record (declaredPointer record input) =
      .error (.pointerBlocked record.digest input.decoded) := by
  rcases lost with ⟨⟨locatorKind, reduced⟩, gone⟩
  rw [readPointer, declaredPointer, reduced]
  by_cases blocked : blocks record input.decoded = true
  · simp [refuseIf, blocked]
  · simp [refuseIf, blocked, okOr, gone.resolve_left blocked]

theorem sourceView_of_lost {record : ValidatedArtifact sha256} {inputs : List DerivationInput}
    {input : DerivationInput} (member : input ∈ inputs) (lost : Lost record input) :
    ∃ e, derivationSourceView record inputs = .error e := by
  cases viewed : derivationSourceView record inputs with
  | error e => exact ⟨e, rfl⟩
  | ok view =>
      rcases List.append_of_mem member with ⟨before, after, rfl⟩
      rw [derivationSourceView] at viewed
      rcases run_split viewed with ⟨placed, next, _, step, _⟩
      rcases bind_ok_iff.mp step with ⟨value, read, _⟩
      cases (mapError_ok_iff.mp read).symm.trans lost.read

theorem place_single {path name : String} (tokens : pointerTokens path = some [name])
    (value : Tree) : (Tree.object []).place path value = some (.object [(name, value)]) := by
  unfold pointerTokens at tokens
  unfold Tree.place
  split at tokens
  · cases tokens
  · rename_i rest spelled
    simp only [spelled, Option.some.inj tokens]
    rfl
  · cases tokens

theorem registered_input : ∀ entry ∈ derivationRegistry, ∀ source ∈ entry.sources,
    ∃ input name, source.inputs = [input] ∧ pointerTokens input.canonical = some [name] := by
  have tokens : pointerTokens "/stableId" = some ["stableId"] ∧
      pointerTokens "/pullRequestReviewId" = some ["pullRequestReviewId"] := by
    decide +kernel
  intro entry registered source taken
  cases List.mem_singleton.mp registered
  simp only [carriesFindingV1, List.mem_cons, List.not_mem_nil, or_false] at taken
  rcases taken with rfl | rfl
  · exact ⟨_, _, rfl, tokens.1⟩
  · exact ⟨_, _, rfl, tokens.2⟩

theorem sourceView_error {entry : DerivationEntry} {source : DerivationSource}
    {record : ValidatedArtifact sha256} {e : ViewError} (registered : entry ∈ derivationRegistry)
    (taken : source ∈ entry.sources)
    (failed : derivationSourceView record source.inputs = .error e) : ∃ why, e = .input why := by
  rcases registered_input entry registered source taken with ⟨input, name, single, tokens⟩
  rw [single] at failed
  simp only [derivationSourceView, List.foldlM_cons, List.foldlM_nil, bind_error_iff,
    pure_ne_error, and_false, exists_false, or_false, mapError_error_iff] at failed
  rcases failed with ⟨why, _, rfl⟩ | ⟨value, _, misplaced⟩
  · exact ⟨why, rfl⟩
  · rw [place_single tokens] at misplaced
    cases misplaced

/-- A citation of an entry's slot whose source comes through the door, and has lost an input. -/
structure LosesInput (sha256 : Sha256) (store : RetainedEvidence) (expected : Expected)
    (fact : DerivedFact) (entry : DerivationEntry) (slot : Nat) : Prop where
  found : resolveDerivation fact.derivation fact.version = some entry
  lost : ∃ (source : DerivationSource) (cited : CitedSource) (record : ValidatedArtifact sha256),
    entry.sources[slot]? = some source ∧ fact.derivedFrom[slot]? = some cited ∧
    Admitted store expected source cited record ∧ ∃ input ∈ source.inputs, Lost record input

/-- The slots of an entry below `slot` are passed at the door. -/
def AdmittedBelow (sha256 : Sha256) (store : RetainedEvidence) (expected : Expected)
    (fact : DerivedFact) (entry : DerivationEntry) (slot : Nat) : Prop :=
  ∀ (i : Nat) (source : DerivationSource) (cited : CitedSource), i < slot →
    entry.sources[i]? = some source → fact.derivedFrom[i]? = some cited →
    ∃ record : ValidatedArtifact sha256, Admitted store expected source cited record

theorem checkSlot_of_admitted {fact : DerivedFact} {slot : Nat} {source : DerivationSource}
    {cited : CitedSource} {record : ValidatedArtifact sha256}
    (admitted : Admitted store expected source cited record) :
    checkSlot sha256 store fact expected slot source cited =
      (derivationSourceView record source.inputs).mapError
        (ViewError.refusals fact cited.digest) := by
  rw [checkSlot_eq, slotDoor_ok_iff.mpr admitted]
  rfl

section Losing

variable {fact : DerivedFact} {entry : DerivationEntry} {slot : Nat}
  (loses : LosesInput sha256 store expected fact entry slot)

include loses

theorem LosesInput.here : ∃ source cited refusals, entry.sources[slot]? = some source ∧
    fact.derivedFrom[slot]? = some cited ∧
    checkSlot sha256 store fact expected slot source cited = .error refusals := by
  rcases loses.lost with ⟨source, cited, record, held, cites, admitted, input, member, lost⟩
  rcases sourceView_of_lost member lost with ⟨e, failed⟩
  refine ⟨source, cited, e.refusals fact cited.digest, held, cites, ?_⟩
  rw [checkSlot_of_admitted admitted, failed]
  rfl

omit loses in
theorem slots_getElem? {i : Nat} {x : (DerivationSource × CitedSource) × Nat} :
    (entry.sources.zip fact.derivedFrom).zipIdx[i]? = some x ↔
      entry.sources[i]? = some x.1.1 ∧ fact.derivedFrom[i]? = some x.1.2 ∧ x.2 = i := by
  rcases x with ⟨⟨source, cited⟩, n⟩
  simp only [List.getElem?_zipIdx, zero_add, Option.map_eq_some_iff, List.getElem?_zip_eq_some,
    Prod.mk.injEq]
  constructor
  · rintro ⟨⟨_, _⟩, ⟨held, cites⟩, ⟨rfl, rfl⟩, rfl⟩
    exact ⟨held, cites, rfl⟩
  · rintro ⟨held, cites, rfl⟩
    exact ⟨(source, cited), ⟨held, cites⟩, rfl, rfl⟩

theorem LosesInput.slots : ∃ (i : Nat) (source : DerivationSource) (cited : CitedSource)
    (refusals : List Unresolved), i ≤ slot ∧ entry.sources[i]? = some source ∧
      fact.derivedFrom[i]? = some cited ∧
      checkSlot sha256 store fact expected i source cited = .error refusals ∧
      ((entry.sources.zip fact.derivedFrom).zipIdx.mapM fun slot =>
        checkSlot sha256 store fact expected slot.2 slot.1.1 slot.1.2) = .error refusals := by
  rcases loses.here with ⟨source, cited, refusals, held, cites, failed⟩
  have listed : (entry.sources.zip fact.derivedFrom).zipIdx[slot]? = some ((source, cited), slot) :=
    slots_getElem?.mpr ⟨held, cites, rfl⟩
  cases run : (entry.sources.zip fact.derivedFrom).zipIdx.mapM fun slot =>
      checkSlot sha256 store fact expected slot.2 slot.1.1 slot.1.2 with
  | ok views =>
      rcases mapM_ok_mem run (List.mem_of_getElem? listed) with ⟨_, _, passed⟩
      cases failed.symm.trans passed
  | error why =>
      rcases mapM_error_split run with ⟨before, x, after, split, passed, fails⟩
      have here : (entry.sources.zip fact.derivedFrom).zipIdx[before.length]? = some x := by
        rw [split, List.getElem?_append_right le_rfl, Nat.sub_self, List.getElem?_cons_zero]
      rcases slots_getElem?.mp here with ⟨heldHere, citesHere, index⟩
      refine ⟨before.length, x.1.1, x.1.2, why, ?_, heldHere, citesHere, index ▸ fails, rfl⟩
      by_contra above
      rw [split, List.getElem?_append_left (by omega)] at listed
      rcases passed _ (List.mem_of_getElem? listed) with ⟨_, accepted⟩
      cases failed.symm.trans accepted

theorem LosesInput.undecided : Report.of (checkDerived sha256 store fact expected) = .unavailable ∨
    Report.of (checkDerived sha256 store fact expected) = .refusal := by
  rcases loses.slots with ⟨i, source, cited, refusals, _, _, _, failed, run⟩
  rw [checkDerived, loses.found]
  by_cases drift : derivationComputed sha256 entry = entry.implementationDigest
  swap
  · simp only [okOr, ok_bind, refuseIf, ne_eq, drift, not_false_eq_true, if_true, error_bind]
    exact .inr rfl
  by_cases arity : fact.derivedFrom.length = entry.sources.length
  swap
  · simp only [okOr, ok_bind, refuseIf, ne_eq, drift, arity, not_true_eq_false, not_false_eq_true,
      if_true, if_false, error_bind]
    exact .inr rfl
  simp only [okOr, ok_bind, refuseIf, ne_eq, drift, arity, not_true_eq_false, if_false, run,
    error_bind]
  apply judgeSlot_undecided source (shown sha256 store expected fact i source cited)
  rw [← judgeSlot_shown, failed]
  rfl

theorem LosesInput.unavailable
    (implemented : derivationComputed sha256 entry = entry.implementationDigest)
    (arity : fact.derivedFrom.length = entry.sources.length)
    (below : AdmittedBelow sha256 store expected fact entry slot) :
    ∃ why digest, checkDerived sha256 store fact expected =
      .error [why, .derivationInputUnavailable fact.derivation fact.version digest] := by
  rcases loses.slots with ⟨i, source, cited, refusals, le, held, cites, failed, run⟩
  have admitted : ∃ record : ValidatedArtifact sha256,
      Admitted store expected source cited record := by
    rcases Nat.lt_or_eq_of_le le with lt | rfl
    · exact below i source cited lt held cites
    · rcases loses.lost with ⟨_, _, record, held', cites', admitted, _⟩
      cases held.symm.trans held'
      cases cites.symm.trans cites'
      exact ⟨record, admitted⟩
  rcases admitted with ⟨record, admitted⟩
  rw [checkSlot_of_admitted admitted] at failed
  rcases mapError_error_iff.mp failed with ⟨e, unviewed, rfl⟩
  have registered := List.mem_of_find?_eq_some loses.found
  rcases sourceView_error registered (List.mem_of_getElem? held) unviewed with ⟨why, rfl⟩
  refine ⟨why, cited.digest, ?_⟩
  rw [checkDerived, loses.found]
  simp only [okOr, ok_bind, refuseIf, ne_eq, implemented, arity, not_true_eq_false, if_false, run,
    error_bind, ViewError.refusals]

end Losing

theorem ShowSame.refl (source : DerivationSource) (cited : CitedSource) :
    ShowSame sha256 store store expected expected source cited cited := by
  by_cases comes : ∃ record : ValidatedArtifact sha256, Admitted store expected source cited record
  · rcases comes with ⟨record, admitted⟩
    exact .inr ⟨record, record, admitted, admitted, fun _ _ => rfl⟩
  · rw [not_exists] at comes
    exact .inl ⟨comes, comes⟩

def DerivedFact.citing (fact : DerivedFact) (derivedFrom : List CitedSource) : DerivedFact :=
  { fact with derivedFrom := derivedFrom }

/-- A cited complete projection, and an authorised reduced record of its surface that retains what
the projection has at the declared inputs. -/
structure Represents (sha256 : Sha256) (store : RetainedEvidence) (expected : Expected)
    (fact : DerivedFact) (slot : Nat) (whole kept : CitedSource) : Prop where
  records : ∃ (projection record : ValidatedArtifact sha256) (surface : String),
    projection.kind = .completeProjection surface ∧ record.kind = .reducedSourceRecord surface ∧
    Resolves store expected whole.digest .gatedSource projection ∧
    Resolves store expected kept.digest .gatedSource record ∧
    concernsSource record kept.digest kept.locator = .ok () ∧
    ∀ entry source, resolveDerivation fact.derivation fact.version = some entry →
      entry.sources[slot]? = some source → ∀ input ∈ source.inputs,
        retainedField record input.decoded = projection.pointer input.canonical

theorem sameClaim_of_represents {fact : DerivedFact} {before after : List CitedSource}
    {whole kept : CitedSource}
    (represents : Represents sha256 store expected fact before.length whole kept) :
    SameClaim sha256 store store expected expected (fact.citing (before ++ whole :: after))
      (fact.citing (before ++ kept :: after)) := by
  refine ⟨rfl, rfl, rfl, by simp [DerivedFact.citing], ?_⟩
  intro entry found slot source cited cited' held cites cites'
  change (before ++ whole :: after)[slot]? = some cited at cites
  change (before ++ kept :: after)[slot]? = some cited' at cites'
  rcases Nat.lt_trichotomy slot before.length with lt | rfl | gt
  · rw [List.getElem?_append_left lt] at cites cites'
    cases cites.symm.trans cites'
    exact .refl source cited
  · rw [List.getElem?_append_right le_rfl, Nat.sub_self, List.getElem?_cons_zero] at cites cites'
    cases cites
    cases cites'
    rcases represents.records with ⟨projection, record, surface, complete, reduced, resolved,
      resolves, concerned, retains⟩
    exact showSame_of_retained complete reduced resolved resolves concerned
      (retains entry source found held)
  · rcases Nat.exists_eq_add_of_lt gt with ⟨n, rfl⟩
    rw [List.getElem?_append_right (by omega), List.getElem?_cons] at cites cites'
    rw [if_neg (by omega)] at cites cites'
    cases cites.symm.trans cites'
    exact .refl source cited

/-- What is reported of a fact depends on the declared inputs of its sources alone; it is the same
over a projection and over a reduced record that retains them; and where a source has lost one, the
fact is neither confirmed nor denied. -/
theorem derivation_locality (sha256 : Sha256) (store : RetainedEvidence) (expected : Expected)
    (fact : DerivedFact) :
    (∀ store' expected' fact', SameClaim sha256 store store' expected expected' fact fact' →
      Report.of (checkDerived sha256 store fact expected) =
        Report.of (checkDerived sha256 store' fact' expected')) ∧
    (∀ before whole kept after, Represents sha256 store expected fact before.length whole kept →
      Report.of (checkDerived sha256 store (fact.citing (before ++ whole :: after)) expected) =
        Report.of (checkDerived sha256 store (fact.citing (before ++ kept :: after)) expected)) ∧
    ∀ entry slot, LosesInput sha256 store expected fact entry slot →
      (Report.of (checkDerived sha256 store fact expected) = .unavailable ∨
        Report.of (checkDerived sha256 store fact expected) = .refusal) ∧
      (derivationComputed sha256 entry = entry.implementationDigest →
        fact.derivedFrom.length = entry.sources.length →
        AdmittedBelow sha256 store expected fact entry slot →
        ∃ why digest, checkDerived sha256 store fact expected =
          .error [why, .derivationInputUnavailable fact.derivation fact.version digest]) :=
  ⟨fun _ _ _ same => report_local same,
    fun _ _ _ _ represents => report_local (sameClaim_of_represents represents),
    fun _ _ loses => ⟨loses.undecided, loses.unavailable⟩⟩

end O7Formal.Closure
