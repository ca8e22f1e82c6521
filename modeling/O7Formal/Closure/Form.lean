import O7Formal.Closure.Authorise
import O7Formal.Closure.CanonicalForm

/-! What the closed form of an artifact says about its value. -/

namespace O7Formal.Closure

open Json Fallible ByteCodec
open Run (Sha256 standardSha256)

/-- The array member `name` of `t` has this text. -/
def Lists (t : Tree) (name text : String) : Prop :=
  ∃ items, t.pointer ("/" ++ name) = some (.array items) ∧ .string text ∈ items

theorem objectOr_ok_iff {found : Tree} {path : String} {object : List (String × Tree)} :
    objectOr found path = .ok object ↔ found = .object object := by
  cases found <;> simp [objectOr, Tree.asObject]

theorem closedKeys_ok {members : List Member} {object : List (String × Tree)} {path : String}
    {u : Unit} (ok : closedKeys members object path = .ok u) :
    ∀ m ∈ object, m.1 ∈ members.map Member.name := by
  unfold closedKeys at ok
  split at ok
  · cases ok
  · rename_i none_outside
    intro m member
    simpa using List.find?_eq_none.mp none_outside m member

theorem checkShape_ok {value : Tree} {members : List Member} {path : String} {u : Unit}
    (ok : checkShape value members path = .ok u) :
    ∃ object, value = .object object ∧ checkMembers members object path = .ok () ∧
      ∀ m ∈ object, m.1 ∈ members.map Member.name := by
  simp only [checkShape, bind_ok_iff, objectOr_ok_iff] at ok
  rcases ok with ⟨object, same, _, shaped, closed⟩
  exact ⟨object, same, shaped, closedKeys_ok closed⟩

theorem checkMembers_cons_ok {rest : List Member} {object : List (String × Tree)}
    {path name : String} {isRequired : Bool} {kind : ValueKind} {u : Unit}
    (ok : checkMembers (.mk name isRequired kind :: rest) object path = .ok u) :
    checkMembers rest object path = .ok u ∧ (isRequired = true → ∃ found,
      object.lookup name = some found ∧ checkKind kind found (path ++ "/" ++ name) = .ok ()) := by
  rw [checkMembers] at ok
  split at ok
  · simp only [bind_ok_iff, refuseIf_ok_iff] at ok
    rcases ok with ⟨_, optional, others⟩
    exact ⟨others, fun needed => absurd needed optional⟩
  · cases ok
  · rename_i found _ held
    rcases bind_ok_iff.mp ok with ⟨_, shaped, others⟩
    exact ⟨others, fun _ => ⟨found, held, shaped⟩⟩

theorem checkMembers_required {members : List Member} {object : List (String × Tree)}
    {path name : String} {kind : ValueKind} {u : Unit}
    (ok : checkMembers members object path = .ok u) (member : .mk name true kind ∈ members) :
    ∃ found, object.lookup name = some found ∧
      checkKind kind found (path ++ "/" ++ name) = .ok () := by
  induction members with
  | nil => cases member
  | cons first rest ih =>
      rcases first with ⟨other, isRequired, otherKind⟩
      rcases checkMembers_cons_ok ok with ⟨others, here⟩
      rcases List.mem_cons.mp member with same | later
      · cases same
        exact here rfl
      · exact ih others later

theorem checkShape_text (name : String) {value : Tree} {members : List Member} {path : String}
    {u : Unit} (ok : checkShape value members "" = .ok u) (member : req name ∈ members)
    (tokens : pointerTokens path = some [name]) : ∃ text, value.strAt path = some text := by
  rcases checkShape_ok ok with ⟨object, rfl, shaped, _⟩
  rcases checkMembers_required shaped member with ⟨found, held, isText⟩
  rw [checkKind, refuseIf_ok_iff] at isText
  rw [Tree.strAt, Tree.pointer_member tokens, held]
  exact Option.ne_none_iff_exists'.mp isText

theorem lookup_none_of_closed {members : List Member} {object : List (String × Tree)}
    {name : String} (closed : ∀ m ∈ object, m.1 ∈ members.map Member.name)
    (outside : name ∉ members.map Member.name) : object.lookup name = none := by
  refine List.lookup_eq_none_iff.mpr ?_
  intro m member
  have inside := closed m member
  refine bne_iff_ne.mpr ?_
  intro same
  rw [← same] at inside
  exact outside inside

def ClosedForm (declared : String) (value : Tree) : ArtifactKind → Prop
  | .completeProjection kind => kind = declared ∧ ∃ schema ∈ sourceSchemas,
      schema.sourceKind = declared ∧ checkShape value schema.members "" = .ok ()
  | .reducedSourceRecord locatorKind => declared = "github-reduced-source-record" ∧
      checkShape value reducedRecord "" = .ok () ∧ value.strAt "/locatorKind" = some locatorKind
  | .querySnapshot => ∃ schema ∈ querySnapshotSchemas,
      (value.pointer "/schemaVersion").bind asI64 = some schema.schemaVersion ∧
      checkShape value schema.members "" = .ok ()
  | .headReadEvent =>
      checkShape value headReadEventAvailable "" = .ok () ∨
        checkShape value headReadEventFailed "" = .ok ()
  | .retentionAssessment => checkAssessment value = .ok ()
  | .retentionBinding => checkShape value retentionBinding "" = .ok ()

theorem checkRegisteredVersion_ok {value : Tree} {registered : List Int} {declared : String}
    {version : Int} (ok : checkRegisteredVersion value registered declared = .ok version) :
    (value.pointer "/schemaVersion").bind asI64 = some version ∧ version ∈ registered := by
  simp only [checkRegisteredVersion, bind_ok_iff, okOr_ok_iff, refuseIf_ok_iff, pure_ok_iff,
    not_not] at ok
  rcases ok with ⟨_, found, _, known, rfl⟩
  exact ⟨found, known⟩

theorem checkQueryForm_ok {declared : String} {value : Tree} {kind : ArtifactKind}
    (ok : checkQueryForm declared value = .ok kind) : ClosedForm declared value kind := by
  simp only [checkQueryForm, bind_ok_iff, okOr_ok_iff, mapError_ok_iff, pure_ok_iff] at ok
  rcases ok with ⟨version, versioned, schema, found, _, shaped, rfl⟩
  have same : schema.schemaVersion = version := by simpa using List.find?_some found
  rw [← same] at versioned
  exact ⟨schema, List.mem_of_find?_eq_some found, (checkRegisteredVersion_ok versioned).1, shaped⟩

theorem checkReducedForm_ok {declared : String} {value : Tree} {kind : ArtifactKind}
    (named : declared = "github-reduced-source-record")
    (ok : checkReducedForm declared value = .ok kind) : ClosedForm declared value kind := by
  simp only [checkReducedForm, checkReducedLocator, bind_ok_iff, okOr_ok_iff, mapError_ok_iff,
    pure_ok_iff] at ok
  rcases ok with ⟨_, _, _, shaped, _, ⟨locatorKind, located, shape, found, _, _, _, _, rfl⟩, rfl⟩
  have same : shape.locatorKind = locatorKind := by simpa using List.find?_some found
  rw [← same] at located
  exact ⟨named, shaped, located⟩

theorem checkHeadReadForm_ok {declared : String} {value : Tree} {kind : ArtifactKind}
    (ok : checkHeadReadForm declared value = .ok kind) : ClosedForm declared value kind := by
  simp only [checkHeadReadForm, bind_ok_iff, okOr_ok_iff] at ok
  rcases ok with ⟨acquisition, _, ok⟩
  split_ifs at ok with available failed
  · simp only [ok_bind, bind_ok_iff, mapError_ok_iff, pure_ok_iff] at ok
    rcases ok with ⟨_, _, _, shaped, rfl⟩
    exact .inl shaped
  · simp only [ok_bind, bind_ok_iff, mapError_ok_iff, pure_ok_iff] at ok
    rcases ok with ⟨_, _, _, shaped, rfl⟩
    exact .inr shaped
  · cases ok

theorem checkAssessmentForm_ok {declared : String} {value : Tree} {kind : ArtifactKind}
    (ok : checkAssessmentForm declared value = .ok kind) : ClosedForm declared value kind := by
  simp only [checkAssessmentForm, bind_ok_iff, mapError_ok_iff, pure_ok_iff] at ok
  rcases ok with ⟨_, _, _, assessed, rfl⟩
  exact assessed

theorem checkBindingForm_ok {declared : String} {value : Tree} {kind : ArtifactKind}
    (ok : checkBindingForm declared value = .ok kind) : ClosedForm declared value kind := by
  simp only [checkBindingForm, bind_ok_iff, mapError_ok_iff, pure_ok_iff] at ok
  rcases ok with ⟨_, _, _, shaped, rfl⟩
  exact shaped

theorem checkClosedForm_ok {declared : String} {value : Tree} {kind : ArtifactKind}
    (ok : checkClosedForm declared value = .ok kind) : ClosedForm declared value kind := by
  unfold checkClosedForm at ok
  split at ok
  · rename_i schema found
    simp only [bind_ok_iff, mapError_ok_iff, pure_ok_iff] at ok
    rcases ok with ⟨_, _, _, shaped, rfl⟩
    have same : schema.sourceKind = declared := by simpa using List.find?_some found
    exact ⟨same, schema, List.mem_of_find?_eq_some found, same, shaped⟩
  · split_ifs at ok with query reduced head assessment binding
    · exact checkQueryForm_ok ok
    · exact checkReducedForm_ok reduced ok
    · exact checkHeadReadForm_ok ok
    · exact checkAssessmentForm_ok ok
    · exact checkBindingForm_ok ok

variable {sha256 : Sha256}

theorem validKind_standard {requested : String} {value : Tree} {kind : ArtifactKind}
    (declared : String) (safe : safeIntegers value = true)
    (hashes : storedBytes requested = storedBytes "sha256:" ++
      ((Sha2.quickSha256 (canonical value).bytes).flatMap hexByte).flatMap String.utf8EncodeChar)
    (named : value.strAt "/sourceKind" = some declared)
    (formed : checkClosedForm declared value = .ok kind) :
    validKind standardSha256 requested value = .ok kind := by
  rw [validKind, digest_standard safe hashes]
  refine bind_ok_iff.mpr ⟨(), refuseIf_ok_iff.mpr (not_not.mpr rfl), ?_⟩
  exact bind_ok_iff.mpr ⟨declared, okOr_ok_iff.mpr named, mapError_ok_iff.mpr formed⟩

theorem ValidatedArtifact.closedForm (a : ValidatedArtifact sha256) :
    Closure.digest sha256 a.value = .ok a.digest ∧
      ∃ declared, a.strAt "/sourceKind" = some declared ∧ ClosedForm declared a.value a.kind := by
  have valid := a.valid
  unfold validKind at valid
  split at valid
  · cases valid
  · rename_i computed hashes
    simp only [bind_ok_iff, refuseIf_ok_iff, okOr_ok_iff, mapError_ok_iff, not_not] at valid
    rcases valid with ⟨_, rfl, declared, named, formed⟩
    exact ⟨hashes, declared, named, checkClosedForm_ok formed⟩

theorem sourceSchemas_required : ∀ schema ∈ sourceSchemas,
    (requiredFields schema.sourceKind).isSome = true ∧
      schema.sourceKind ≠ "github-reduced-source-record" ∧
      ∀ name ∈ ["locator", "retainedFields", "blockedFields"],
        name ∉ schema.members.map Member.name := by
  decide +kernel

theorem ValidatedArtifact.complete {a : ValidatedArtifact sha256} {surface : String}
    (kind : a.kind = .completeProjection surface) :
    a.strAt "/sourceKind" = some surface ∧ surface ≠ "github-reduced-source-record" ∧
      (∃ r, requiredFields surface = some r) ∧
      ∀ path name, pointerTokens path = some [name] →
        name ∈ ["locator", "retainedFields", "blockedFields"] → a.pointer path = none := by
  rcases a.closedForm with ⟨_, declared, named, form⟩
  rw [kind] at form
  rcases form with ⟨rfl, schema, registered, same, shaped⟩
  rcases sourceSchemas_required schema registered with ⟨required, unreduced, foreign⟩
  rw [same] at required unreduced
  refine ⟨named, unreduced, Option.isSome_iff_exists.mp required, ?_⟩
  intro path name tokens member
  rcases checkShape_ok shaped with ⟨object, isObject, _, closed⟩
  rw [ValidatedArtifact.pointer, isObject, Tree.pointer_member tokens]
  exact lookup_none_of_closed closed (foreign name member)

theorem ValidatedArtifact.reduced {a : ValidatedArtifact sha256} {locatorKind : String}
    (kind : a.kind = .reducedSourceRecord locatorKind) :
    a.strAt "/sourceKind" = some "github-reduced-source-record" ∧
      a.strAt "/locatorKind" = some locatorKind := by
  rcases a.closedForm with ⟨_, declared, named, form⟩
  rw [kind] at form
  rcases form with ⟨rfl, _, located⟩
  exact ⟨named, located⟩

theorem ValidatedArtifact.binding {a : ValidatedArtifact sha256}
    (kind : a.kind = .retentionBinding) :
    (∃ text, a.strAt "/recordDigest" = some text) ∧
      ∃ text, a.strAt "/assessmentDigest" = some text := by
  rcases a.closedForm with ⟨_, declared, _, form⟩
  rw [kind] at form
  exact ⟨checkShape_text "recordDigest" form (by simp [retentionBinding]) (by decide +kernel),
    checkShape_text "assessmentDigest" form (by simp [retentionBinding]) (by decide +kernel)⟩

theorem ascending_ok {path : String} {items : List Tree} {texts : List String}
    (ok : ascending path items = .ok texts) : items = texts.map Tree.string := by
  have kept : items.zipIdx.map Prod.fst = texts.map Tree.string := by
    refine run_invariant (motive := fun seen out => seen.map Prod.fst = out.map Tree.string)
      rfl ?_ ok
    intro seen out item next _ same step
    rcases bind_ok_iff.mp step with ⟨text, isText, rest⟩
    have isString : item.1 = .string text := Tree.asStr_some_iff.mp (okOr_ok_iff.mp isText)
    have grown : next = out ++ [text] := by
      split at rest
      · rcases bind_ok_iff.mp rest with ⟨_, _, done⟩
        exact (pure_ok_iff.mp done).symm
      · exact (pure_ok_iff.mp rest).symm
    rw [grown, List.map_append, List.map_append, same, List.map_singleton, List.map_singleton, isString]
  rwa [List.zipIdx_map_fst] at kept

theorem orderedUnique_ok {t : Tree} {name : String} {texts : List String}
    (ok : orderedUnique t name = .ok texts) (text : String) :
    text ∈ texts ↔ Lists t name text := by
  simp only [orderedUnique, bind_ok_iff, okOr_ok_iff, Option.bind_eq_some_iff,
    Tree.asArray_some_iff] at ok
  rcases ok with ⟨items, ⟨_, held, rfl⟩, listed⟩
  rw [ascending_ok listed] at held
  constructor
  · intro member
    exact ⟨_, held, List.mem_map_of_mem member⟩
  · intro facts
    rcases facts with ⟨others, same, member⟩
    cases Option.some.inj (held.symm.trans same)
    simpa using member

theorem pointerTokens_outcome :
    pointerTokens "/findings" = some ["findings"] ∧
      pointerTokens "/coverageComplete" = some ["coverageComplete"] := by
  decide +kernel

theorem checkAssessment_ok {value : Tree} {u : Unit} (ok : checkAssessment value = .ok u) :
    value.strAt "/outcome" = some (computedOutcome (value.pointer "/findings").isSome
      (decide (value.pointer "/coverageComplete" = some (.bool true)))) := by
  simp only [checkAssessment, memberStr, bind_ok_iff, okOr_ok_iff, mapError_ok_iff,
    refuseIf_ok_iff, Tree.asObject_some_iff, not_not] at ok
  rcases ok with ⟨object, rfl, _, _, _, _, _, _, outcome, stated, _, _, _, _, _, _, _, same, _⟩
  rw [Tree.pointer_member pointerTokens_outcome.1, Tree.pointer_member pointerTokens_outcome.2,
    ← same]
  exact stated

theorem computedOutcome_retain {findingsPresent coverageComplete : Bool} :
    computedOutcome findingsPresent coverageComplete = "RETAIN" ↔
      findingsPresent = false ∧ coverageComplete = true := by
  cases findingsPresent <;> cases coverageComplete <;> simp [computedOutcome]

theorem computedOutcome_cases (findingsPresent coverageComplete : Bool) :
    computedOutcome findingsPresent coverageComplete ∈
      ["RETAIN", "BLOCK_SECRET", "CANNOT_ASSESS"] := by
  cases findingsPresent <;> cases coverageComplete <;> simp [computedOutcome]

end O7Formal.Closure
