import O7Formal.Closure.Gate

/-! The minimum basis of a profile: what an admitted check or review has read, and that it read
it from one artifact. -/

namespace O7Formal.Closure

open Json Fallible
open Run (Sha256 standardSha256)

section Under

variable {α : Type} {key other : String} {value : α} {m : List (String × List α)}

def under (key : String) (m : List (String × List α)) : List α := (m.lookup key).getD []

theorem under_cons {values : List α} :
    under key ((other, values) :: m) = if key = other then values else under key m := by
  split_ifs with same
  · simp [under, same]
  · simp [under, List.lookup_cons, beq_false_of_ne same]

theorem under_pushUnder :
    under key (pushUnder other value m) =
      if key = other then under key m ++ [value] else under key m := by
  induction m with
  | nil =>
      rw [pushUnder, under_cons]
      rfl
  | cons entry rest ih =>
      rcases entry with ⟨k, values⟩
      rw [pushUnder]
      by_cases here : k = other
      · rw [if_pos here, under_cons, under_cons, here]
        split_ifs <;> rfl
      · rw [if_neg here, under_cons, under_cons, ih]
        by_cases found : key = k
        · rw [if_pos found, if_pos found, if_neg (found ▸ here)]
        · rw [if_neg found, if_neg found]

theorem mem_under (nonempty : under key m ≠ []) : (key, under key m) ∈ m := by
  cases held : m.lookup key with
  | none => exact absurd (by simp [under, held]) nonempty
  | some values =>
      rcases List.lookup_eq_some_iff.mp held with ⟨_, _, rfl, _⟩
      simp [under, held]

def Sound (good : String → α → Prop) (m : List (String × List α)) : Prop :=
  ∀ entry ∈ m, entry.2 ≠ [] ∧ ∀ x ∈ entry.2, good entry.1 x

theorem sound_pushUnder {good : String → α → Prop} (sound : Sound good m)
    (here : good key value) : Sound good (pushUnder key value m) := by
  induction m with
  | nil =>
      intro entry member
      cases List.mem_singleton.mp member
      exact ⟨List.cons_ne_nil _ _, fun x only => by rw [List.mem_singleton.mp only]; exact here⟩
  | cons entry rest ih =>
      rcases entry with ⟨k, values⟩
      rcases List.forall_mem_cons.mp sound with ⟨first, others⟩
      rw [pushUnder]
      split_ifs with same
      · refine List.forall_mem_cons.mpr ⟨⟨by simp, ?_⟩, others⟩
        intro x member
        rcases List.mem_append.mp member with old | new
        · exact first.2 x old
        · rw [List.mem_singleton.mp new, same]
          exact here
      · exact List.forall_mem_cons.mpr ⟨first, ih others⟩

theorem sound_foldl {ι : Type} {good : String → α → Prop} {step : List (String × List α) → ι →
    List (String × List α)} (xs : List ι)
    (keeps : ∀ x ∈ xs, ∀ m, Sound good m → Sound good (step m x)) (sound : Sound good m) :
    Sound good (xs.foldl step m) :=
  List.foldlRecOn xs step sound fun m held x member => keeps x member m held

theorem under_foldl {ι : Type} (name : ι → String) (entry : ι → α) (xs : List ι) :
    under key (xs.foldl (fun m x => pushUnder (name x) (entry x) m) m) =
      under key m ++ (xs.filter fun x => key = name x).map entry := by
  induction xs generalizing m with
  | nil => simp
  | cons x rest ih =>
      rw [List.foldl_cons, ih, under_pushUnder, List.filter_cons]
      by_cases same : key = name x
      · simp [same]
      · simp [same]

end Under

theorem checkCompleteness_nil_iff {profile : DecisionProfile} {basis : DecisionBasis}
    {checked : CheckedBasis} :
    checkCompleteness profile basis checked = [] ↔
      (∀ r ∈ profile.requires, satisfied basis checked r.needs = true) ∧
        ∀ entry ∈ witnesses profile basis checked, sharedWitness entry.2 = true := by
  simp [checkCompleteness, List.filter_eq_nil_iff, List.mem_insertionSort]

theorem sharedWitness_common {first second : List String} {rest : List (List String)}
    (shared : sharedWitness (first :: second :: rest) = true)
    (nonempty : ∀ digests ∈ first :: second :: rest, digests ≠ []) :
    ∃ digest ∈ first, ∀ digests ∈ second :: rest, digest ∈ digests := by
  have inhabited : (first :: second :: rest).any List.isEmpty = false := by
    refine List.any_eq_false.mpr fun digests member empty => ?_
    exact nonempty digests member (List.isEmpty_iff.mp empty)
  rw [sharedWitness, inhabited] at shared
  simpa using shared

variable {sha256 : Sha256} {store : RetainedEvidence}

def sourceField (record : ValidatedArtifact sha256) (canonical decoded : String) : Option Tree :=
  match record.kind with
  | .reducedSourceRecord _ => retainedField record decoded
  | _ => record.pointer canonical

structure Spelled (surface canonical decoded : String) : Prop where
  complete : canonical = decoded ∨ ∃ name, pointerTokens decoded = some [name] ∧
    ∀ schema ∈ sourceSchemas, schema.sourceKind = surface → name ∉ schema.members.map Member.name
  reduced : canonical = decoded ∨ ∀ r ∈ requiredFields surface, ¬ r.has canonical

theorem pointer_none_of_foreign {record : ValidatedArtifact sha256} {surface path name : String}
    (kind : record.kind = .completeProjection surface) (tokens : pointerTokens path = some [name])
    (foreign : ∀ schema ∈ sourceSchemas, schema.sourceKind = surface →
      name ∉ schema.members.map Member.name) : record.pointer path = none := by
  rcases record.closedForm with ⟨_, declared, _, form⟩
  rw [kind] at form
  rcases form with ⟨rfl, schema, registered, same, shaped⟩
  rcases checkShape_ok shaped with ⟨object, isObject, _, closed⟩
  rw [ValidatedArtifact.pointer, isObject, Tree.pointer_member tokens]
  exact lookup_none_of_closed closed (foreign schema registered same)

theorem sourceField_of_read {record : ValidatedArtifact sha256} {expected : Expected}
    {digest surface canonical decoded pointer : String} {value : Tree}
    (spelled : Spelled surface canonical decoded)
    (resolved : Resolves store expected digest .gatedSource record)
    (surfaces : record.kind.surface = surface)
    (named : pointer = canonical ∨ pointer = decoded)
    (read : readPointer record pointer = .ok value) :
    sourceField record canonical decoded = some value := by
  have gated := accepts_gatedSource.mp resolved.accepted
  rcases resolved.authorised gated with ⟨assessment, authorised⟩
  rcases gatedSource_gated gated with ⟨locatorKind, kind⟩ | ⟨complete, kind⟩
  · have yields := reducedYields_of_authorises kind authorised.kind authorised.authorises read
    have held := ((readPointer_reduced kind).mp read).2
    rw [kind] at surfaces
    cases surfaces
    simp only [sourceField, kind]
    rcases named with rfl | rfl
    · rcases spelled.reduced with same | foreign
      · rw [← same]
        exact held
      · rcases yields.required with ⟨r, required, inside⟩
        exact absurd inside (foreign r required)
    · exact held
  · have held := (readPointer_complete kind).mp read
    rw [kind] at surfaces
    cases surfaces
    simp only [sourceField, kind]
    rcases named with rfl | rfl
    · exact held
    · rcases spelled.complete with same | ⟨name, tokens, foreign⟩
      · rw [same]
        exact held
      · rw [pointer_none_of_foreign kind tokens foreign] at held
        cases held

theorem spelled_headSha : Spelled "github-actions-check" "/headSha" "/head_sha" where
  complete := .inr ⟨"head_sha", by decide +kernel, by decide +kernel⟩
  reduced := .inr (by decide +kernel)

theorem spelled_conclusion : Spelled "github-actions-check" "/conclusion" "/conclusion" where
  complete := .inl rfl
  reduced := .inl rfl

theorem spelled_commitId : Spelled "github-submitted-review" "/commitId" "/commit_id" where
  complete := .inr ⟨"commit_id", by decide +kernel, by decide +kernel⟩
  reduced := .inr (by decide +kernel)

def ReadFrom (basis : DecisionBasis) (values : List Tree) (record : ValidatedArtifact sha256)
    (canonical decoded : String) : Prop :=
  ∃ input value, (input, value) ∈ basis.inputs.zip values ∧ input.sourceDigest = record.digest ∧
    (input.pointer = canonical ∨ input.pointer = decoded) ∧
    sourceField record canonical decoded = some value

theorem InputsRead.of_observed {expected : Expected} {inputs : List DecisionInput}
    {results : List (ObservedField × Tree)} {o : ObservedField}
    (read : InputsRead sha256 store expected inputs results)
    (member : o ∈ results.map Prod.fst) :
    ∃ input value, (input, value) ∈ inputs.zip (results.map Prod.snd) ∧
      readInput sha256 store expected input = .ok (o, value) := by
  induction read with
  | nil => cases member
  | @cons input result inputs results here _ ih =>
      rcases List.mem_cons.mp member with rfl | later
      · exact ⟨input, result.2, List.mem_cons_self, here⟩
      · rcases ih later with ⟨other, value, paired, others⟩
        exact ⟨other, value, List.mem_cons_of_mem _ paired, others⟩

theorem readFrom_of_observed {basis : DecisionBasis} {results : List (ObservedField × Tree)}
    {surface canonical decoded : String} {o : ObservedField}
    (spelled : Spelled surface canonical decoded)
    (read : InputsRead sha256 store basis.expected basis.inputs results)
    (member : o ∈ results.map Prod.fst) (meets : o.meets surface canonical decoded = true) :
    ∃ record : ValidatedArtifact sha256,
      Resolves store basis.expected o.digest .gatedSource record ∧
      record.kind.surface = surface ∧
      ReadFrom basis (results.map Prod.snd) record canonical decoded := by
  rcases read.of_observed member with ⟨input, value, paired, here⟩
  simp only [readInput, bind_ok_iff, pure_ok_iff, Prod.mk.injEq, resolveArtifact_ok_iff] at here
  rcases here with ⟨record, resolved, _, _, _, pointed, rfl, rfl⟩
  simp only [ObservedField.meets, Bool.and_eq_true, Bool.or_eq_true, decide_eq_true_eq] at meets
  refine ⟨record, resolved, meets.1, input, _, paired, resolved.named.symm, meets.2, ?_⟩
  exact sourceField_of_read spelled resolved meets.1 meets.2 pointed

theorem Resolves.unique {expected : Expected} {digest : String} {role : ConsumedAs}
    {a b : ValidatedArtifact sha256} (first : Resolves store expected digest role a)
    (second : Resolves store expected digest role b) : a = b := by
  refine ValidatedArtifact.ext (first.named.trans second.named.symm) ?_
  exact Option.some.inj (first.held.symm.trans second.held)

def meeting (results : List (ObservedField × Tree)) (surface canonical decoded : String) :
    List String :=
  ((results.map Prod.fst).filter fun o => o.meets surface canonical decoded).map
    ObservedField.digest

theorem mem_meeting {results : List (ObservedField × Tree)}
    {surface canonical decoded digest : String} :
    digest ∈ meeting results surface canonical decoded ↔
      ∃ o ∈ results.map Prod.fst, o.meets surface canonical decoded = true ∧ o.digest = digest := by
  simp only [meeting, List.mem_map, List.mem_filter, and_assoc]

theorem meeting_ne_nil {basis : DecisionBasis} {results : List (ObservedField × Tree)}
    {surface canonical decoded : String}
    (met : satisfied basis (.ofResults results) (.observed surface canonical decoded) = true) :
    meeting results surface canonical decoded ≠ [] := by
  rcases List.any_eq_true.mp met with ⟨o, member, meets⟩
  exact List.ne_nil_of_mem (mem_meeting.mpr ⟨o, member, meets, rfl⟩)

theorem check_witnesses (basis : DecisionBasis) (results : List (ObservedField × Tree)) :
    witnesses .check basis (.ofResults results) =
      [("github-actions-check",
        [meeting results "github-actions-check" "/headSha" "/head_sha",
         meeting results "github-actions-check" "/conclusion" "/conclusion"])] := by
  simp [witnesses, DecisionProfile.requires, pushUnder, meeting, CheckedBasis.ofResults]

/-- One authorised check, of which the basis read the head and the conclusion. -/
structure CheckSource (store : RetainedEvidence) (basis : DecisionBasis) (values : List Tree)
    (record : ValidatedArtifact sha256) : Prop where
  resolved : Resolves store basis.expected record.digest .gatedSource record
  surface : record.kind.surface = "github-actions-check"
  headSha : ReadFrom basis values record "/headSha" "/head_sha"
  conclusion : ReadFrom basis values record "/conclusion" "/conclusion"

theorem check_one_source {basis : DecisionBasis} {values : List Tree}
    (admitted : admissibility sha256 .check basis store = .yes values) :
    ∃ record : ValidatedArtifact sha256, CheckSource store basis values record := by
  rcases admissibility_yes_iff.mp admitted with ⟨results, checked, rfl, complete⟩
  rcases checkCompleteness_nil_iff.mp complete with ⟨met, shared⟩
  rw [check_witnesses, List.forall_mem_singleton] at shared
  simp only [DecisionProfile.requires, List.forall_mem_cons] at met
  rcases met with ⟨heads, conclusions, _⟩
  rcases sharedWitness_common shared (by
    simp [meeting_ne_nil heads, meeting_ne_nil conclusions]) with ⟨digest, head, all⟩
  have conclusion := all _ List.mem_cons_self
  rcases mem_meeting.mp head with ⟨o, observed, meets, rfl⟩
  rcases mem_meeting.mp conclusion with ⟨o', observed', meets', same⟩
  rcases readFrom_of_observed spelled_headSha checked.inputs observed meets with
    ⟨record, resolved, surface, headRead⟩
  rcases readFrom_of_observed spelled_conclusion checked.inputs observed' meets' with
    ⟨record', resolved', _, conclusionRead⟩
  rw [same] at resolved'
  rw [resolved'.unique resolved] at conclusionRead
  refine ⟨record, ?_, surface, headRead, conclusionRead⟩
  rw [resolved.named]
  exact resolved

theorem sourceField_of_declared {record : ValidatedArtifact sha256} {input : DerivationInput}
    {value : Tree}
    (read : readPointer record (match record.kind with
      | .reducedSourceRecord _ => input.decoded
      | _ => input.canonical) = .ok value) :
    sourceField record input.canonical input.decoded = some value := by
  cases kind : record.kind with
  | reducedSourceRecord locatorKind =>
      simp only [sourceField, kind] at read ⊢
      exact ((readPointer_reduced kind).mp read).2
  | completeProjection surface =>
      simp only [sourceField, kind] at read ⊢
      exact (readPointer_complete kind).mp read
  | querySnapshot => simpa only [readPointer, sourceField, kind, okOr_ok_iff] using read
  | headReadEvent => simpa only [readPointer, sourceField, kind, okOr_ok_iff] using read
  | retentionAssessment => simpa only [readPointer, sourceField, kind, okOr_ok_iff] using read
  | retentionBinding => simpa only [readPointer, sourceField, kind, okOr_ok_iff] using read

theorem sourceView_single {record : ValidatedArtifact sha256} {input : DerivationInput}
    {name : String} {view : Tree} (tokens : pointerTokens input.canonical = some [name])
    (ok : derivationSourceView record [input] = .ok view) :
    ∃ value, sourceField record input.canonical input.decoded = some value ∧
      view.pointer input.canonical = some value := by
  simp only [derivationSourceView, List.foldlM_cons, List.foldlM_nil, bind_ok_iff, mapError_ok_iff,
    okOr_ok_iff, pure_ok_iff] at ok
  rcases ok with ⟨_, ⟨value, read, placed⟩, rfl⟩
  exact ⟨value, sourceField_of_declared read, Tree.pointer_of_place tokens placed⟩

theorem checkSlot_single (name : String) {fact : DerivedFact} {expected : Expected} {slot : Nat}
    {kind : String} {input : DerivationInput} {cited : CitedSource} {view : Tree}
    (tokens : pointerTokens input.canonical = some [name])
    (ok : checkSlot sha256 store fact expected slot ⟨kind, [input]⟩ cited = .ok view) :
    ∃ record : ValidatedArtifact sha256, record.digest = cited.digest ∧
      Resolves store expected record.digest .gatedSource record ∧ record.kind.surface = kind ∧
      ∃ value, sourceField record input.canonical input.decoded = some value ∧
        view.pointer input.canonical = some value := by
  simp only [checkSlot, bind_ok_iff, mapError_ok_iff, refuseIf_ok_iff, resolveArtifact_ok_iff,
    not_not] at ok
  rcases ok with ⟨record, resolved, _, _, _, surface, viewed⟩
  refine ⟨record, resolved.named, ?_, surface, sourceView_single tokens viewed⟩
  rw [resolved.named]
  exact resolved

structure CarriesFinding (store : RetainedEvidence) (expected : Expected) (fact : DerivedFact)
    (review comment : ValidatedArtifact sha256) (reviewId owningReview : String) : Prop where
  derivation : fact.derivation = "review-carries-finding"
  registered : resolveDerivation fact.derivation fact.version = some carriesFindingV1
  derivedFrom : fact.derivedFrom.map CitedSource.digest = [review.digest, comment.digest]
  reviewResolved : Resolves store expected review.digest .gatedSource review
  reviewSurface : review.kind.surface = "github-submitted-review"
  commentResolved : Resolves store expected comment.digest .gatedSource comment
  commentSurface : comment.kind.surface = "github-review-comment"
  reviewNamed : sourceField review "/stableId" "/id" = some (.string reviewId)
  ownerNamed : sourceField comment "/pullRequestReviewId" "/pull_request_review_id" =
    some (.string owningReview)
  recomputed : fact.value = .bool (decide (reviewId = owningReview))

theorem resolveDerivation_some {id version : String} {entry : DerivationEntry}
    (known : resolveDerivation id version = some entry) :
    entry = carriesFindingV1 ∧ id = "review-carries-finding" := by
  have registered := List.mem_singleton.mp (List.mem_of_find?_eq_some known)
  have named := List.find?_some known
  rw [registered, decide_eq_true_eq] at named
  exact ⟨registered, named.1.symm⟩

theorem carriesFinding_some {review comment value : Tree}
    (derived : carriesFinding [review, comment] = some value) :
    ∃ reviewId owningReview, review.strAt "/stableId" = some reviewId ∧
      comment.strAt "/pullRequestReviewId" = some owningReview ∧
      value = .bool (decide (reviewId = owningReview)) := by
  simp only [carriesFinding, List.getElem?_cons_zero, List.getElem?_cons_succ, Option.bind_eq_bind,
    Option.bind_some, Option.bind_eq_some_iff, Option.pure_def, Option.some.injEq] at derived
  rcases derived with ⟨reviewId, named, owningReview, owner, rfl⟩
  exact ⟨reviewId, owningReview, named, owner, rfl⟩

theorem eq_string_of_strAt {t value : Tree} {path text : String}
    (held : t.pointer path = some value) (read : t.strAt path = some text) :
    value = .string text := by
  rw [Tree.strAt, held, Option.bind_some] at read
  exact Tree.asStr_some_iff.mp read

theorem checkDerived_ok {fact : DerivedFact} {expected : Expected} {u : Unit}
    (ok : checkDerived sha256 store fact expected = .ok u) :
    ∃ (review comment : ValidatedArtifact sha256) (reviewId owningReview : String),
      CarriesFinding store expected fact review comment reviewId owningReview := by
  simp only [checkDerived, bind_ok_iff, okOr_ok_iff, refuseIf_ok_iff, not_not, mapM_ok_iff] at ok
  rcases ok with ⟨entry, known, _, _, _, arity, views, slots, derived⟩
  rcases resolveDerivation_some known with ⟨rfl, named⟩
  rcases List.length_eq_two.mp arity with ⟨review, comment, cited⟩
  rw [cited] at slots
  simp only [carriesFindingV1, List.zip_cons_cons, List.zip_nil_right, List.zipIdx_cons,
    List.zipIdx_nil, List.forall₂_cons_left_iff, List.forall₂_nil_left_iff] at slots
  rcases slots with ⟨reviewView, _, reviewSlot, ⟨commentView, _, commentSlot, rfl, rfl⟩, rfl⟩
  rcases checkSlot_single "stableId" (by decide +kernel) reviewSlot with
    ⟨r, rDigest, rResolved, rSurface, rValue, rField, rRead⟩
  rcases checkSlot_single "pullRequestReviewId" (by decide +kernel) commentSlot with
    ⟨c, cDigest, cResolved, cSurface, cValue, cField, cRead⟩
  cases computed : carriesFindingV1.derive [reviewView, commentView] with
  | none =>
      rw [computed] at derived
      cases derived
  | some value =>
      rw [computed, refuseIf_ok_iff, not_not] at derived
      rcases carriesFinding_some computed with ⟨reviewId, owningReview, id, owner, rfl⟩
      rw [eq_string_of_strAt rRead id] at rField
      rw [eq_string_of_strAt cRead owner] at cField
      refine ⟨r, c, reviewId, owningReview, named, known, ?_, rResolved, rSurface, cResolved, cSurface,
        rField, cField, derived.symm⟩
      rw [cited, rDigest, cDigest]
      rfl

def slotDigests (kind : String) (fact : DerivedFact) : List String :=
  match resolveDerivation fact.derivation fact.version with
  | none => []
  | some entry => ((entry.sources.zip fact.derivedFrom).filter fun slot => kind = slot.1.kind).map
      fun slot => slot.2.digest

theorem CarriesFinding.slotDigests {expected : Expected} {fact : DerivedFact}
    {review comment : ValidatedArtifact sha256} {reviewId owningReview : String}
    (carried : CarriesFinding store expected fact review comment reviewId owningReview) :
    slotDigests "github-submitted-review" fact = [review.digest] := by
  rcases List.map_eq_cons_iff.mp carried.derivedFrom with ⟨first, rest, cited, digest, others⟩
  rcases List.map_eq_cons_iff.mp others with ⟨second, _, rfl, _, _⟩
  simp [Closure.slotDigests, carried.registered, cited, carriesFindingV1, digest]

theorem under_pushSlots (kind : String) (slots : List (String × List String))
    (fact : DerivedFact) :
    under kind (pushSlots slots fact) = under kind slots ++ slotDigests kind fact := by
  unfold pushSlots slotDigests
  cases resolveDerivation fact.derivation fact.version with
  | none => simp
  | some entry => exact under_foldl _ _ _

theorem under_citedSlots (basis : DecisionBasis) (derivation kind : String) :
    under kind (citedSlots basis derivation) =
      (basis.derived.filter fun fact => fact.derivation = derivation).flatMap
        (slotDigests kind) := by
  have pushed : ∀ (facts : List DerivedFact) (slots : List (String × List String)),
      under kind (facts.foldl pushSlots slots) =
        under kind slots ++ facts.flatMap (slotDigests kind) := by
    intro facts
    induction facts with
    | nil => simp
    | cons fact rest ih =>
        intro slots
        rw [List.foldl_cons, ih, under_pushSlots, List.flatMap_cons, List.append_assoc]
  exact pushed _ []

theorem citedSlots_sound (basis : DecisionBasis) (derivation : String) :
    Sound (fun kind digest => ∃ fact ∈ basis.derived, digest ∈ slotDigests kind fact)
      (citedSlots basis derivation) := by
  refine sound_foldl _ ?_ (by intro entry member; cases member)
  intro fact member slots sound
  have derived := (List.mem_filter.mp member).1
  unfold pushSlots
  cases known : resolveDerivation fact.derivation fact.version with
  | none => exact sound
  | some entry =>
      refine sound_foldl _ ?_ sound
      intro slot cited slots sound
      refine sound_pushUnder sound ⟨fact, derived, ?_⟩
      simp only [slotDigests, known]
      exact List.mem_map_of_mem (List.mem_filter.mpr ⟨cited, by simp⟩)

theorem review_witnesses (basis : DecisionBasis) (results : List (ObservedField × Tree)) :
    under "github-submitted-review" (witnesses .review basis (.ofResults results)) =
      meeting results "github-submitted-review" "/commitId" "/commit_id" ::
        ((citedSlots basis "review-carries-finding").filter fun slot =>
          "github-submitted-review" = slot.1).map Prod.snd := by
  simp only [witnesses, DecisionProfile.requires, List.foldl_cons, List.foldl_nil]
  rw [under_foldl Prod.fst Prod.snd, under_pushUnder, if_pos rfl]
  rfl

theorem CarriesFinding.cited {basis : DecisionBasis} {expected : Expected} {fact : DerivedFact}
    {review comment : ValidatedArtifact sha256} {reviewId owningReview : String}
    (carried : CarriesFinding store expected fact review comment reviewId owningReview)
    (derived : fact ∈ basis.derived) :
    review.digest ∈
      under "github-submitted-review" (citedSlots basis "review-carries-finding") := by
  rw [under_citedSlots, List.mem_flatMap]
  refine ⟨fact, List.mem_filter.mpr ⟨derived, decide_eq_true carried.derivation⟩, ?_⟩
  rw [carried.slotDigests]
  exact List.mem_singleton_self _

theorem review_shared {basis : DecisionBasis} {results : List (ObservedField × Tree)}
    (shared : ∀ entry ∈ witnesses .review basis (.ofResults results),
      sharedWitness entry.2 = true)
    (commits : meeting results "github-submitted-review" "/commitId" "/commit_id" ≠ [])
    (cites : under "github-submitted-review" (citedSlots basis "review-carries-finding") ≠ []) :
    ∃ digest ∈ meeting results "github-submitted-review" "/commitId" "/commit_id",
      ∃ fact ∈ basis.derived, digest ∈ slotDigests "github-submitted-review" fact := by
  have sound := citedSlots_sound basis "review-carries-finding"
  have entry := review_witnesses basis results
  cases slots : (citedSlots basis "review-carries-finding").filter fun slot =>
      decide ("github-submitted-review" = slot.1) with
  | nil =>
      have here := List.filter_eq_nil_iff.mp slots _ (mem_under cites)
      exact absurd rfl (of_decide_eq_false (Bool.eq_false_iff.mpr here))
  | cons slot rest =>
      rw [slots, List.map_cons] at entry
      have among : ∀ s ∈ slot :: rest, s ∈ citedSlots basis "review-carries-finding" ∧
          "github-submitted-review" = s.1 := by
        intro s member
        rw [← slots] at member
        rcases List.mem_filter.mp member with ⟨held, kind⟩
        exact ⟨held, of_decide_eq_true kind⟩
      have held := mem_under (entry ▸ List.cons_ne_nil _ _)
      rw [entry] at held
      rcases sharedWitness_common (shared _ held) (by
        refine List.forall_mem_cons.mpr ⟨commits, ?_⟩
        rw [← List.map_cons]
        intro digests member
        rcases List.mem_map.mp member with ⟨s, inside, rfl⟩
        exact (sound s (among s inside).1).1) with ⟨digest, read, all⟩
      refine ⟨digest, read, ?_⟩
      rw [(among slot List.mem_cons_self).2]
      exact (sound slot (among slot List.mem_cons_self).1).2 digest (all _ List.mem_cons_self)

/-- One authorised review, of which the basis read the commit, and which a fact of the basis shows
to carry a finding. -/
structure ReviewSource (store : RetainedEvidence) (basis : DecisionBasis) (values : List Tree)
    (review comment : ValidatedArtifact sha256) (fact : DerivedFact)
    (reviewId owningReview : String) : Prop where
  derived : fact ∈ basis.derived
  commitId : ReadFrom basis values review "/commitId" "/commit_id"
  carried : CarriesFinding store basis.expected fact review comment reviewId owningReview

theorem review_one_source {basis : DecisionBasis} {values : List Tree}
    (admitted : admissibility sha256 .review basis store = .yes values) :
    ∃ (review comment : ValidatedArtifact sha256) (fact : DerivedFact)
      (reviewId owningReview : String),
      ReviewSource store basis values review comment fact reviewId owningReview := by
  rcases admissibility_yes_iff.mp admitted with ⟨results, checked, rfl, complete⟩
  rcases checkCompleteness_nil_iff.mp complete with ⟨met, shared⟩
  simp only [DecisionProfile.requires, List.forall_mem_cons] at met
  rcases met with ⟨commits, carries, _⟩
  rcases List.any_eq_true.mp carries with ⟨some, someDerived, _⟩
  rcases checkDerived_ok (checked.derived some someDerived) with ⟨_, _, _, _, someCarried⟩
  rcases review_shared shared (meeting_ne_nil commits)
    (List.ne_nil_of_mem (someCarried.cited someDerived)) with ⟨digest, read, fact, derived, slot⟩
  rcases checkDerived_ok (checked.derived fact derived) with
    ⟨review, comment, reviewId, owningReview, carried⟩
  rw [carried.slotDigests, List.mem_singleton] at slot
  rcases mem_meeting.mp read with ⟨o, observed, meets, rfl⟩
  rcases readFrom_of_observed spelled_commitId checked.inputs observed meets with
    ⟨record, resolved, _, commitRead⟩
  rw [slot] at resolved
  rw [resolved.unique carried.reviewResolved] at commitRead
  exact ⟨review, comment, fact, reviewId, owningReview, derived, commitRead, carried⟩

theorem satisfied_empty {basis : DecisionBasis} (derived : basis.derived = [])
    (query : basis.expectedQuery = none) (needs : Needs) :
    satisfied basis (.ofResults []) needs = false := by
  cases needs with
  | observed surface canonical decoded => rfl
  | derived derivation => simp [satisfied, derived]
  | expectedQuerySnapshot => simp [satisfied, query]

theorem empty_not_admitted {profile : DecisionProfile} {basis : DecisionBasis} {values : List Tree}
    (inputs : basis.inputs = []) (derived : basis.derived = [])
    (query : basis.expectedQuery = none) :
    admissibility sha256 profile basis store ≠ .yes values := by
  intro admitted
  rcases admissibility_yes_iff.mp admitted with ⟨results, checked, rfl, complete⟩
  have read := checked.inputs
  rw [inputs, InputsRead, List.forall₂_nil_left_iff] at read
  subst read
  have asks : ∃ r, r ∈ profile.requires := by
    cases profile <;> exact ⟨_, List.mem_cons_self⟩
  rcases asks with ⟨r, required⟩
  have met := (checkCompleteness_nil_iff.mp complete).1 r required
  rw [satisfied_empty derived query] at met
  cases met

theorem skipped_not_admitted {profile : DecisionProfile} {basis : DecisionBasis}
    {values : List Tree}
    (skipped : (checkBasis sha256 basis store).someInputDidNotResolve = true) :
    admissibility sha256 profile basis store ≠ .yes values := by
  intro admitted
  rcases admissibility_yes_iff.mp admitted with ⟨results, checked, _, _⟩
  rw [checkBasis_ok checked] at skipped
  cases skipped

theorem ReadFrom.input {basis : DecisionBasis} {values : List Tree}
    {record : ValidatedArtifact sha256} {canonical decoded : String}
    (read : ReadFrom basis values record canonical decoded) :
    ∃ input ∈ basis.inputs, input.sourceDigest = record.digest ∧
      (input.pointer = canonical ∨ input.pointer = decoded) := by
  rcases read with ⟨input, value, paired, source, spelled, _⟩
  exact ⟨input, (List.of_mem_zip paired).1, source, spelled⟩

/-- An admitted check or review rests on one artifact, and no basis is admitted that has nothing,
that spreads a surface over two artifacts, or that has an input which did not resolve. -/
theorem minimum_basis_sound (sha256 : Sha256) (store : RetainedEvidence) (basis : DecisionBasis) :
    (∀ values, admissibility sha256 .check basis store = .yes values →
      ∃ record : ValidatedArtifact sha256, CheckSource store basis values record) ∧
    (∀ values, admissibility sha256 .review basis store = .yes values →
      ∃ (review comment : ValidatedArtifact sha256) (fact : DerivedFact)
        (reviewId owningReview : String),
        ReviewSource store basis values review comment fact reviewId owningReview) ∧
    (basis.inputs = [] ∧ basis.derived = [] ∧ basis.expectedQuery = none →
      ∀ profile values, admissibility sha256 profile basis store ≠ .yes values) ∧
    ((∀ head ∈ basis.inputs, ∀ conclusion ∈ basis.inputs,
        (head.pointer = "/headSha" ∨ head.pointer = "/head_sha") →
        conclusion.pointer = "/conclusion" → head.sourceDigest ≠ conclusion.sourceDigest) →
      ∀ values, admissibility sha256 .check basis store ≠ .yes values) ∧
    ((∀ commit ∈ basis.inputs, ∀ fact ∈ basis.derived,
        (commit.pointer = "/commitId" ∨ commit.pointer = "/commit_id") →
        fact.derivedFrom.head?.map CitedSource.digest ≠ some commit.sourceDigest) →
      ∀ values, admissibility sha256 .review basis store ≠ .yes values) ∧
    ((checkBasis sha256 basis store).someInputDidNotResolve = true →
      ∀ profile values, admissibility sha256 profile basis store ≠ .yes values) := by
  refine ⟨fun _ => check_one_source, fun _ => review_one_source, ?_, ?_, ?_, ?_⟩
  · intro empty profile values
    exact empty_not_admitted empty.1 empty.2.1 empty.2.2
  · intro apart values admitted
    rcases check_one_source admitted with ⟨record, source⟩
    rcases source.headSha.input with ⟨head, headIn, headFrom, headSpelled⟩
    rcases source.conclusion.input with ⟨conclusion, conclusionIn, conclusionFrom, spelled⟩
    exact apart head headIn conclusion conclusionIn headSpelled (or_self_iff.mp spelled)
      (headFrom.trans conclusionFrom.symm)
  · intro apart values admitted
    rcases review_one_source admitted with ⟨review, comment, fact, _, _, source⟩
    rcases source.commitId.input with ⟨commit, commitIn, commitFrom, spelled⟩
    refine apart commit commitIn fact source.derived spelled ?_
    rw [← List.head?_map, source.carried.derivedFrom, commitFrom]
    rfl
  · intro skipped profile values
    exact skipped_not_admitted skipped

theorem minimum_basis_sound_check :
    ∃ record : ValidatedArtifact standardSha256, CheckSource Sample.evidence Sample.basis
      [.string firstCommit, .string "success", .string secondCommit] record :=
  (minimum_basis_sound standardSha256 Sample.evidence Sample.basis).1 _ Sample.admitted

end O7Formal.Closure
