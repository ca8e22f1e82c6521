import O7Formal.Closure.Basis
import O7Formal.Closure.Monotone

/-! Negative answers. Both an admitted absence and a scan that finds nothing rest on one query
snapshot, qualified the same way: complete, and replayed over every candidate it returned. -/

namespace O7Formal.Closure

open Json Fallible ByteCodec
open Run (Sha256 standardSha256)

variable {sha256 : Sha256} {store : RetainedEvidence}

theorem scoreCandidate_ok {entry : MatcherEntry} {parameters : Tree} {candidate : Candidate}
    {selected : Bool} (ok : scoreCandidate sha256 entry parameters candidate = .ok selected) :
    entry.predicate candidate.snapshot parameters = .ok selected := by
  simp only [scoreCandidate, bind_ok_iff] at ok
  rcases ok with ⟨_, _, _, _, _, _, scored⟩
  exact scored

/-- A replay that matches nothing scored every candidate, and scored it false. -/
structure ReplayedEmpty (sha256 : Sha256) (recorded : RecordedMatcher)
    (candidates : List Candidate) (entry : MatcherEntry) : Prop where
  registered : resolveMatcher recorded.id recorded.version = .ok entry
  bound : ∃ digest, verifyBinding sha256 entry = .ok digest
  supplied : candidates.map Candidate.declaredDigest = recorded.allReturnedSnapshotDigests
  unmatched : ∀ candidate ∈ candidates,
    entry.predicate candidate.snapshot recorded.parameters = .ok false

theorem scored_or_listed {entry : MatcherEntry} {parameters : Tree} {candidates : List Candidate}
    {matched : List String}
    (ok : candidates.foldlM (fun matched candidate => do
      let selected ← scoreCandidate sha256 entry parameters candidate
      return if selected then matched ++ [candidate.declaredDigest] else matched) [] =
        .ok matched) :
    ∀ candidate ∈ candidates, ∃ selected,
      entry.predicate candidate.snapshot parameters = .ok selected ∧
        (selected = true → candidate.declaredDigest ∈ matched) := by
  refine run_invariant (motive := fun seen matched => ∀ candidate ∈ seen, ∃ selected,
    entry.predicate candidate.snapshot parameters = .ok selected ∧
      (selected = true → candidate.declaredDigest ∈ matched)) (by simp) ?_ ok
  intro seen matched next grown _ held step
  rcases bind_ok_iff.mp step with ⟨chosen, scored, same⟩
  rw [← pure_ok_iff.mp same]
  refine List.forall_mem_append.mpr ⟨?_, List.forall_mem_singleton.mpr ?_⟩
  · intro candidate member
    rcases held candidate member with ⟨selected, before, listed⟩
    refine ⟨selected, before, fun isTrue => ?_⟩
    split_ifs
    · exact List.mem_append_left _ (listed isTrue)
    · exact listed isTrue
  · refine ⟨chosen, scoreCandidate_ok scored, fun isTrue => ?_⟩
    rw [if_pos isTrue]
    exact List.mem_append_right _ (List.mem_singleton_self _)

theorem recomputeMatched_empty {recorded : RecordedMatcher} {candidates : List Candidate}
    {replay : Replay} (ok : recomputeMatched sha256 recorded candidates = .ok replay)
    (none : replay.matched = []) :
    ∃ entry, ReplayedEmpty sha256 recorded candidates entry ∧
      checkRecordedImplementation sha256 entry recorded.implementation =
        .ok replay.implementation := by
  simp only [recomputeMatched, bind_ok_iff, refuseIf_ok_iff, pure_ok_iff, not_not] at ok
  rcases ok with ⟨entry, registered, digest, bound, implementation, implemented, _, _, _, supplied,
    matched, scored, rfl⟩
  replace none : matched = [] := none
  subst none
  refine ⟨entry, ⟨registered, ⟨digest, bound⟩, supplied, ?_⟩, implemented⟩
  intro candidate member
  rcases scored_or_listed scored candidate member with ⟨selected, scored, listed⟩
  cases selected with
  | false => exact scored
  | true => cases listed rfl

theorem verifyImplementation_of_binding {entry : MatcherEntry} {digest : String}
    (bound : verifyBinding sha256 entry = .ok digest) :
    verifyImplementation sha256 entry = .ok entry.implementationDigest := by
  simp only [verifyBinding, bind_ok_iff] at bound
  rcases bound with ⟨computed, implemented, _⟩
  have same := implemented
  simp only [verifyImplementation, bind_ok_iff, refuseIf_ok_iff, pure_ok_iff, not_not] at same
  rcases same with ⟨_, equal, rfl⟩
  rw [implemented, equal]

theorem recordedImplementation_bound {version : Nat} {declared : Option Tree} {digest : String}
    (ok : recordedImplementation version declared = .ok (.bound digest)) : version = 2 := by
  unfold recordedImplementation at ok
  split at ok <;> first | rfl | cases ok

theorem asNat_some {t : Tree} {n : Nat} (held : t.asNat = some n) :
    t = .number (.integer n) := by
  cases t with
  | number numeral =>
      cases numeral with
      | integer i => cases i <;> simp_all [Tree.asNat, Tree.asInt]
      | float literal => cases held
  | null => cases held
  | bool b => cases held
  | string s => cases held
  | array elements => cases held
  | object members => cases held

theorem digestArray_ok {snapshot : Tree} {field : String} {digests : List String}
    (ok : digestArray snapshot field = .ok digests) :
    snapshot.field field = some (.array (digests.map Tree.string)) := by
  simp only [digestArray, bind_ok_iff, okOr_ok_iff, Option.bind_eq_some_iff, Tree.asArray_some_iff,
    mapM_ok_iff, Tree.asStr_some_iff] at ok
  rcases ok with ⟨items, ⟨_, held, rfl⟩, texts⟩
  have same : items = digests.map Tree.string := by
    rw [← List.forall₂_eq_eq_eq]
    exact List.forall₂_map_right_iff.mpr texts
  rw [held, same]

theorem fromCanonical_ok {snapshot : Tree} {digest : String} {recorded : RecordedQuerySnapshot}
    (ok : RecordedQuerySnapshot.fromCanonical sha256 snapshot digest = .ok recorded) :
    RecordedMatcher.fromQuerySnapshot snapshot = .ok recorded.matcher := by
  simp only [RecordedQuerySnapshot.fromCanonical, bind_ok_iff, pure_ok_iff] at ok
  rcases ok with ⟨_, _, _, _, _, _, matcher, read, rfl⟩
  exact read

theorem fromQuerySnapshot_bound {snapshot : Tree} {recorded : RecordedMatcher} {digest : String}
    (ok : RecordedMatcher.fromQuerySnapshot snapshot = .ok recorded)
    (bound : recorded.implementation = .bound digest) :
    snapshot.field "schemaVersion" = some (.number (.integer 2)) ∧
      snapshot.field "allReturnedSnapshotDigests" =
        some (.array (recorded.allReturnedSnapshotDigests.map Tree.string)) ∧
      snapshot.field "matchedSnapshotDigests" =
        some (.array (recorded.matchedSnapshotDigests.map Tree.string)) := by
  simp only [RecordedMatcher.fromQuerySnapshot, bind_ok_iff, okOr_ok_iff, pure_ok_iff,
    Option.bind_eq_some_iff] at ok
  rcases ok with ⟨version, ⟨number, held, isVersion⟩, matcher, _, implementation, implemented, id,
    _, name, _, parameters, _, matched, claimed, all, returned, rfl⟩
  replace bound : implementation = .bound digest := bound
  rw [bound] at implemented
  rw [recordedImplementation_bound implemented] at isVersion
  rw [held, asNat_some isVersion]
  exact ⟨rfl, digestArray_ok returned, digestArray_ok claimed⟩

/-- One snapshot that answers for a subject: retained, complete, and replayed without a match over
candidates that all came through the gate. -/
structure NegativeEvidence (store : RetainedEvidence) (expected : Expected)
    (subject : QueryBinding) (requested : String) (snapshot : ValidatedArtifact sha256)
    (recorded : RecordedMatcher) (entry : MatcherEntry) : Prop where
  held : store.resolve requested = some snapshot.value
  addressed : digest sha256 snapshot.value = .ok requested
  kind : snapshot.kind = .querySnapshot
  version : snapshot.pointer "/schemaVersion" = some (.number (.integer 2))
  enumeration : snapshot.strAt "/enumeration" = some "COMPLETE"
  lastPage : snapshot.pointer "/pagination/nextPagePresent" = some (.bool false)
  repository : snapshot.strAt "/binding/repository" = some subject.repository
  pullRequest : snapshot.strAt "/binding/pullRequest" = some subject.pullRequest
  recordedIn : RecordedMatcher.fromQuerySnapshot snapshot.value = .ok recorded
  registered : resolveMatcher recorded.id recorded.version = .ok entry
  bound : ∃ digest, verifyBinding sha256 entry = .ok digest
  returned : snapshot.pointer "/allReturnedSnapshotDigests" =
    some (.array (recorded.allReturnedSnapshotDigests.map Tree.string))
  candidates : ∀ cited ∈ recorded.allReturnedSnapshotDigests,
    ∃ candidate : ValidatedArtifact sha256, Resolves store expected cited .queryCandidate candidate ∧
      (∃ surface, candidate.kind = .completeProjection surface) ∧
      entry.predicate candidate.value recorded.parameters = .ok false
  claimed : snapshot.pointer "/matchedSnapshotDigests" = some (.array [])
  recomputed : ∃ candidates replay, recomputeMatched sha256 recorded candidates = .ok replay ∧
    replay.matched = []

theorem resolveCandidate_ok {expected : Expected} {cited : String} {candidate : Candidate}
    (ok : resolveCandidate sha256 store expected cited = .ok candidate) :
    ∃ artifact : ValidatedArtifact sha256, Resolves store expected cited .queryCandidate artifact ∧
      (∃ surface, artifact.kind = .completeProjection surface) ∧
      candidate = ⟨cited, artifact.value⟩ := by
  simp only [resolveCandidate, bind_ok_iff, mapError_ok_iff, okOr_ok_iff,
    resolveArtifact_ok_iff] at ok
  rcases ok with ⟨_, _, artifact, resolved, projected⟩
  refine ⟨artifact, resolved, ?_⟩
  unfold ValidatedArtifact.matcherCandidate at projected
  split at projected
  · rename_i surface kind
    cases projected
    exact ⟨⟨surface, kind⟩, by rw [resolved.named]⟩
  · cases projected

theorem concerns_ok {snapshot : ValidatedArtifact sha256} {subject : QueryBinding} {u : Unit}
    (ok : concerns snapshot subject = .ok u) :
    snapshot.strAt "/binding/repository" = some subject.repository ∧
      snapshot.strAt "/binding/pullRequest" = some subject.pullRequest := by
  simp only [concerns] at ok
  split_ifs at ok with same
  exact same

theorem checkEnumeration_ok {snapshot : ValidatedArtifact sha256} {u : Unit}
    (ok : checkEnumeration snapshot = .ok u) :
    snapshot.strAt "/enumeration" = some "COMPLETE" := by
  unfold checkEnumeration at ok
  split at ok
  · cases ok
  · rename_i state held
    split_ifs at ok with complete
    rw [held, complete]

theorem checkPagination_ok {snapshot : ValidatedArtifact sha256} {u : Unit}
    (ok : checkPagination snapshot = .ok u) :
    snapshot.pointer "/pagination/nextPagePresent" = some (.bool false) := by
  unfold checkPagination at ok
  split at ok
  · assumption
  · cases ok
  · cases ok

theorem bound_of_checked {entry : MatcherEntry} {recorded : RecordedImplementation}
    {checked : ImplementationCheck}
    (ok : checkRecordedImplementation sha256 entry recorded = .ok checked)
    (bound : checked ≠ .cannotCheck) : ∃ digest, recorded = .bound digest := by
  cases recorded with
  | bound digest => exact ⟨digest, rfl⟩
  | unrecorded =>
      simp only [checkRecordedImplementation, bind_ok_iff, pure_ok_iff] at ok
      rcases ok with ⟨_, _, unchecked⟩
      exact absurd unchecked.symm bound

theorem querySnapshot_field {snapshot : ValidatedArtifact sha256}
    (kind : snapshot.kind = .querySnapshot) {path name : String}
    (tokens : pointerTokens path = some [name]) :
    snapshot.pointer path = snapshot.value.field name := by
  rcases snapshot.closedForm with ⟨_, declared, _, form⟩
  rw [kind] at form
  rcases form with ⟨schema, _, _, shaped⟩
  rcases checkShape_ok shaped with ⟨object, isObject, _, _⟩
  rw [ValidatedArtifact.pointer, isObject, Tree.pointer_member tokens]
  rfl

theorem accepts_querySnapshot {role : ConsumedAs} {kind : ArtifactKind}
    (consumed : role = .expectedQuerySnapshot ∨ role = .scanEvidence)
    (accepted : role.accepts kind = true) : kind = .querySnapshot := by
  rcases consumed with rfl | rfl <;> cases kind <;> simp [ConsumedAs.accepts] at accepted ⊢

theorem negativeEvidence_of_qualified {expected : Expected} {subject : QueryBinding}
    {requested : String} {role : ConsumedAs} {snapshot : ValidatedArtifact sha256}
    {q : QualifiedQuery} (consumed : role = .expectedQuerySnapshot ∨ role = .scanEvidence)
    (resolved : Resolves store expected requested role snapshot)
    (concerned : concerns snapshot subject = .ok ())
    (qualified : qualifyQuery sha256 snapshot store expected = .ok q) (none : q.matched = []) :
    (∃ recorded entry, NegativeEvidence store expected subject requested snapshot recorded entry) ∧
      snapshot.strAt "/requiredObservationId" = some q.observation := by
  have kind := accepts_querySnapshot consumed resolved.accepted
  simp only [qualifyQuery, bind_ok_iff, okOr_ok_iff, mapError_ok_iff, refuseIf_ok_iff, pure_ok_iff,
    verifyMatched, not_not] at qualified
  rcases qualified with ⟨_, enumerated, _, paged, _, recording, recorded, read, candidates, gated,
    verdict, ⟨replay, replayed, same⟩, _, checkable, _, reproduced, observation, observed, rfl⟩
  subst same
  rw [ValidatedArtifact.recordedQuery, if_neg (not_not.mpr kind), Option.some.injEq] at recording
  rw [← recording] at read
  rcases recomputeMatched_empty replayed none with ⟨entry, empty, implemented⟩
  rcases bound_of_checked implemented checkable with ⟨digest, bound⟩
  rcases fromQuerySnapshot_bound (fromCanonical_ok read) bound with ⟨version, returned, claimed⟩
  have matched : recorded.matcher.matchedSnapshotDigests = [] := by
    rw [← of_decide_eq_true reproduced]
    exact none
  rw [matched] at claimed
  rcases concerns_ok concerned with ⟨repository, pullRequest⟩
  refine ⟨⟨recorded.matcher, entry, ?_⟩, observed⟩
  exact
    { held := resolved.held
      addressed := by
        rw [← resolved.named]
        exact snapshot.closedForm.1
      kind
      version := (querySnapshot_field kind (by decide +kernel)).trans version
      enumeration := checkEnumeration_ok enumerated
      lastPage := checkPagination_ok paged
      repository
      pullRequest
      recordedIn := fromCanonical_ok read
      registered := empty.registered
      bound := empty.bound
      returned := (querySnapshot_field kind (by decide +kernel)).trans returned
      candidates := by
        intro cited member
        rcases mapM_ok_mem gated member with ⟨candidate, among, through⟩
        rcases resolveCandidate_ok through with ⟨artifact, found, complete, rfl⟩
        exact ⟨artifact, found, complete, empty.unmatched _ among⟩
      claimed := (querySnapshot_field kind (by decide +kernel)).trans claimed
      recomputed := ⟨candidates, replay, replayed, none⟩ }

theorem absence_evidence {basis : DecisionBasis} {values : List Tree}
    (admitted : admissibility sha256 .absence basis store = .yes values) :
    ∃ query ∈ basis.expectedQuery, ∃ (snapshot : ValidatedArtifact sha256)
      (recorded : RecordedMatcher) (entry : MatcherEntry),
      NegativeEvidence store basis.expected query.subject query.digest snapshot recorded entry ∧
        snapshot.strAt "/requiredObservationId" = some basis.observationId := by
  rcases admissibility_yes_iff.mp admitted with ⟨results, checked, _, complete⟩
  have met := (checkCompleteness_nil_iff.mp complete).1 _ List.mem_cons_self
  rcases Option.isSome_iff_exists.mp met with ⟨query, asked⟩
  have answered := checked.query query asked
  simp only [checkExpectedQuery, QualifiedQuery.supportsAbsence, bind_ok_iff, mapError_ok_iff,
    resolveArtifact_ok_iff, refuseIf_ok_iff, not_not] at answered
  rcases answered with ⟨snapshot, resolved, _, concerned, q, qualified, _, observation, none⟩
  rcases negativeEvidence_of_qualified (.inl rfl) resolved concerned qualified none with
    ⟨⟨recorded, entry, evidence⟩, observed⟩
  rw [observation] at observed
  exact ⟨query, asked, snapshot, recorded, entry, evidence, observed⟩

theorem scan_evidence {scan : FalsificationSurfaceScan} {claims : Nat}
    (scanned : scanVerdict sha256 scan claims store = .zeroClaimsMeaningful) :
    ∃ (snapshot : ValidatedArtifact sha256) (recorded : RecordedMatcher) (entry : MatcherEntry),
      NegativeEvidence store scan.expected scan.binding scan.snapshotDigest snapshot recorded
        entry ∧ snapshot.strAt "/surface" = some scan.surface := by
  rcases (scanVerdict_established_iff (by simp)).mp scanned with
    ⟨_, q, evidenced, supported, counted⟩
  have zero : claims = 0 := by
    by_contra some
    rw [if_neg some] at counted
    cases counted
  have none : q.matched = [] := by
    simpa [QualifiedQuery.supportsClaimCount, zero] using supported
  simp only [checkScanEvidence, bind_ok_iff, mapError_ok_iff, resolveArtifact_ok_iff,
    refuseIf_ok_iff, not_not] at evidenced
  rcases evidenced with ⟨snapshot, resolved, _, surface, _, concerned, qualified⟩
  rcases negativeEvidence_of_qualified (.inr rfl) resolved concerned qualified none with
    ⟨⟨recorded, entry, evidence⟩, _⟩
  exact ⟨snapshot, recorded, entry, evidence, surface⟩

/-- No negative answer without a retained, complete snapshot whose every candidate came through
the gate and was scored false. -/
theorem negative_answers_sound (sha256 : Sha256) (store : RetainedEvidence) :
    (∀ basis values, admissibility sha256 .absence basis store = .yes values →
      ∃ query ∈ basis.expectedQuery, ∃ (snapshot : ValidatedArtifact sha256)
        (recorded : RecordedMatcher) (entry : MatcherEntry),
        NegativeEvidence store basis.expected query.subject query.digest snapshot recorded entry ∧
          snapshot.strAt "/requiredObservationId" = some basis.observationId) ∧
    (∀ scan claims, scanVerdict sha256 scan claims store = .zeroClaimsMeaningful →
      ∃ (snapshot : ValidatedArtifact sha256) (recorded : RecordedMatcher) (entry : MatcherEntry),
        NegativeEvidence store scan.expected scan.binding scan.snapshotDigest snapshot recorded
          entry ∧ snapshot.strAt "/surface" = some scan.surface) :=
  ⟨fun _ _ => absence_evidence, fun _ _ => scan_evidence⟩

/-! A query for a check that the retained one is not. -/

namespace Sample

def deployGate : Tree := .object [("checkName", .string "deploy gate")]

def queryDigest : String :=
  "sha256:6389301450492bccf3d4190664e9cdc24303adb562d544a0abb97bacdf8620b6"

def queryTree : Tree :=
  .object [("allReturnedSnapshotDigests", .array [.string wholeDigest]),
    ("binding", .object [("pullRequest", .string "7"), ("repository", .string "o7/o7")]),
    ("enumeration", .string "COMPLETE"), ("matchedSnapshotDigests", .array []),
    ("matcher", .object [("id", .string "actions-check-by-name"),
      ("implementationDigest", .string actionsCheckByNameV1.implementationDigest),
      ("parameters", deployGate), ("version", .string "1")]),
    ("pagination", .object [("nextPagePresent", .bool false),
      ("pagesObtained", .array [.string "1"]), ("pagesRequested", .array [.string "1"]),
      ("perPage", .number (.integer 100))]),
    ("requiredObservationId", .string "checks"), ("schemaVersion", .number (.integer 2)),
    ("sourceKind", .string "github-query-snapshot"), ("surface", .string "github-actions-check")]

theorem query_valid : validKind standardSha256 queryDigest queryTree = .ok .querySnapshot :=
  validKind_standard "github-query-snapshot" (by decide +kernel) (by decide +kernel)
    (by decide +kernel) (by decide +kernel)

def vectorResults : List Tree :=
  actionsCheckByNameV1.vectors.map fun vector => vectorResult vector vector.expected

theorem digestOf_typed {lines : List String} {texts : List (List Char)} {requested : String}
    (typed : Typed lines texts)
    (same : storedBytes requested = storedBytes "sha256:" ++
      ((Sha2.quickSha256 (List.intercalate [10] (texts.map fun cs =>
        cs.flatMap String.utf8EncodeChar))).flatMap hexByte).flatMap String.utf8EncodeChar) :
    digestOfCanonicalBytes standardSha256 (fileBytes lines) = requested := by
  rw [fileBytes_typed typed]
  exact digestOfCanonicalBytes_standard same

theorem matcher_hashes :
    digestOfCanonicalBytes standardSha256 (fileBytes actionsCheckByNameV1.implementationSource) =
      actionsCheckByNameV1.implementationDigest ∧
    (actionsCheckByNameV1.vectors.mapM fun vector => do
      let got ← actionsCheckByNameV1.predicate vector.candidate vector.parameters
      refuseIf (got ≠ vector.expected)
        (.conformanceVectorFailed actionsCheckByNameV1.id actionsCheckByNameV1.version vector.name
          vector.expected got)
      return vectorResult vector got) = .ok vectorResults ∧
    digest standardSha256 (conformanceStatement actionsCheckByNameV1 vectorResults) =
      .ok actionsCheckByNameV1.conformanceDigest := by
  refine ⟨?_, by decide +kernel, digest_standard (by decide +kernel) (by decide +kernel)⟩
  apply digestOf_typed
  · repeat apply Typed.cons
    exact .nil
  · decide +kernel

theorem binding_verified : verifyBinding standardSha256 actionsCheckByNameV1 =
    .ok actionsCheckByNameV1.conformanceDigest := by
  refine bind_ok_iff.mpr ⟨actionsCheckByNameV1.implementationDigest, ?_, ?_⟩
  · rw [verifyImplementation, matcher_hashes.1]
    exact bind_ok_iff.mpr ⟨(), refuseIf_ok_iff.mpr (not_not.mpr rfl), rfl⟩
  · refine bind_ok_iff.mpr ⟨vectorResults, matcher_hashes.2.1, ?_⟩
    refine bind_ok_iff.mpr ⟨_, mapError_ok_iff.mpr matcher_hashes.2.2, ?_⟩
    exact bind_ok_iff.mpr ⟨(), refuseIf_ok_iff.mpr (not_not.mpr rfl), rfl⟩

def query : ValidatedArtifact standardSha256 := ⟨queryDigest, _, queryTree, query_valid⟩

def queryEvidence : RetainedEvidence := moreEvidence queryDigest queryTree

def recorded : RecordedMatcher :=
  ⟨"actions-check-by-name", "1", [], [wholeDigest], deployGate,
    .bound actionsCheckByNameV1.implementationDigest⟩

theorem query_facts :
    evidence.resolve queryDigest = none ∧
    (checkEnumeration query).isOk = true ∧ (checkPagination query).isOk = true ∧
    (concerns query ⟨"o7/o7", "7"⟩).isOk = true ∧
    (checkQuerySnapshotShape queryTree).isOk = true ∧
    RecordedMatcher.fromQuerySnapshot queryTree = .ok recorded ∧
    (checkParameters actionsCheckByNameV1 deployGate).isOk = true ∧
    (checkCandidateShape ⟨wholeDigest, wholeTree⟩).isOk = true ∧
    actionsCheckByName wholeTree deployGate = .ok false ∧
    query.strAt "/requiredObservationId" = some "checks" := by
  refine ⟨?_, ?_, ?_, ?_, ?_, ?_, ?_, ?_, ?_, ?_⟩ <;> decide +kernel

theorem matcher_resolved :
    resolveMatcher "actions-check-by-name" "1" = .ok actionsCheckByNameV1 := by
  simp [resolveMatcher, matcherRegistry, reviewByExpectedAuthorLoginV1, actionsCheckByNameV1, okOr]

theorem query_resolves : Resolves queryEvidence basis.expected queryDigest .expectedQuerySnapshot
    query where
  held := by simp [queryEvidence, moreEvidence, query_facts.1, query]
  named := rfl
  accepted := rfl
  authorised := fun gated => by cases gated

theorem whole_scored :
    scoreCandidate standardSha256 actionsCheckByNameV1 deployGate ⟨wholeDigest, wholeTree⟩ =
      .ok false := by
  have hashes : digestOr standardSha256 wholeTree = .ok wholeDigest := by
    rw [digestOr, show digest standardSha256 wholeTree = .ok wholeDigest from whole.closedForm.1]
    rfl
  simp only [scoreCandidate, hashes, ok_bind]
  rw [ok_of_isOk query_facts.2.2.2.2.2.2.2.1]
  exact query_facts.2.2.2.2.2.2.2.2.1

theorem implementation_checked :
    checkRecordedImplementation standardSha256 actionsCheckByNameV1 recorded.implementation =
      .ok (.bound actionsCheckByNameV1.implementationDigest) := by
  refine bind_ok_iff.mpr ⟨_, verifyImplementation_of_binding binding_verified, ?_⟩
  exact if_pos rfl

theorem replayed : recomputeMatched standardSha256 recorded [⟨wholeDigest, wholeTree⟩] =
    .ok ⟨[], .bound actionsCheckByNameV1.implementationDigest⟩ := by
  refine bind_ok_iff.mpr ⟨actionsCheckByNameV1, matcher_resolved, ?_⟩
  refine bind_ok_iff.mpr ⟨_, binding_verified, ?_⟩
  refine bind_ok_iff.mpr ⟨_, implementation_checked, ?_⟩
  refine bind_ok_iff.mpr ⟨(), ok_of_isOk query_facts.2.2.2.2.2.2.1, ?_⟩
  refine bind_ok_iff.mpr ⟨(), refuseIf_ok_iff.mpr (not_not.mpr rfl), ?_⟩
  refine bind_ok_iff.mpr ⟨[], ?_, rfl⟩
  rw [List.foldlM_cons]
  exact bind_ok_iff.mpr ⟨[], bind_ok_iff.mpr ⟨false, whole_scored, rfl⟩, rfl⟩

theorem candidate_resolves :
    Resolves queryEvidence basis.expected wholeDigest .queryCandidate whole where
  held := (moreEvidence_extends queryDigest queryTree).resolve _ _ whole_resolves.held
  named := rfl
  accepted := rfl
  authorised := by
    have through := stable_resolveArtifact wholeDigest .gatedSource basis.expected
      (moreEvidence_extends queryDigest queryTree) whole (resolveArtifact_ok_iff.mpr whole_resolves)
    exact (resolveArtifact_ok_iff.mp through).authorised

theorem candidate_through :
    resolveCandidate standardSha256 queryEvidence basis.expected wholeDigest =
      .ok ⟨wholeDigest, wholeTree⟩ := by
  refine bind_ok_iff.mpr ⟨(), refuseIf_ok_iff.mpr ?_, ?_⟩
  · rw [candidate_resolves.held]
    exact Option.some_ne_none _
  · exact bind_ok_iff.mpr ⟨whole,
      mapError_ok_iff.mpr (resolveArtifact_ok_iff.mpr candidate_resolves), rfl⟩

theorem query_recorded :
    RecordedQuerySnapshot.fromCanonical standardSha256 queryTree queryDigest =
      .ok ⟨queryDigest, recorded⟩ := by
  refine bind_ok_iff.mpr ⟨queryDigest, mapError_ok_iff.mpr query.closedForm.1, ?_⟩
  refine bind_ok_iff.mpr ⟨(), refuseIf_ok_iff.mpr (not_not.mpr rfl), ?_⟩
  refine bind_ok_iff.mpr ⟨(), mapError_ok_iff.mpr (ok_of_isOk query_facts.2.2.2.2.1), ?_⟩
  exact bind_ok_iff.mpr ⟨recorded, query_facts.2.2.2.2.2.1, rfl⟩

theorem qualified : qualifyQuery standardSha256 query queryEvidence basis.expected =
    .ok ⟨queryDigest, [], "checks"⟩ := by
  refine bind_ok_iff.mpr ⟨(), ok_of_isOk query_facts.2.1, ?_⟩
  refine bind_ok_iff.mpr ⟨(), ok_of_isOk query_facts.2.2.1, ?_⟩
  refine bind_ok_iff.mpr ⟨_, okOr_ok_iff.mpr rfl, ?_⟩
  refine bind_ok_iff.mpr ⟨_, mapError_ok_iff.mpr query_recorded, ?_⟩
  refine bind_ok_iff.mpr ⟨[⟨wholeDigest, wholeTree⟩],
    mapM_ok_iff.mpr (.cons candidate_through .nil), ?_⟩
  refine bind_ok_iff.mpr ⟨⟨⟨[], .bound actionsCheckByNameV1.implementationDigest⟩, true⟩,
    mapError_ok_iff.mpr (bind_ok_iff.mpr ⟨_, replayed, rfl⟩), ?_⟩
  refine bind_ok_iff.mpr ⟨(), refuseIf_ok_iff.mpr (by simp), ?_⟩
  refine bind_ok_iff.mpr ⟨(), refuseIf_ok_iff.mpr (not_not.mpr rfl), ?_⟩
  exact bind_ok_iff.mpr ⟨"checks", okOr_ok_iff.mpr query_facts.2.2.2.2.2.2.2.2.2, rfl⟩

def absenceBasis : DecisionBasis :=
  { basis with inputs := [], expectedQuery := some ⟨queryDigest, ⟨"o7/o7", "7"⟩⟩ }

theorem absence_checked : Checked standardSha256 queryEvidence absenceBasis [] where
  inputs := .nil
  derived := fun _ member => absurd member List.not_mem_nil
  query := by
    intro expectedQuery asked
    cases asked
    refine bind_ok_iff.mpr ⟨query,
      mapError_ok_iff.mpr (resolveArtifact_ok_iff.mpr query_resolves), mapError_ok_iff.mpr ?_⟩
    refine bind_ok_iff.mpr ⟨(), ok_of_isOk query_facts.2.2.2.1, ?_⟩
    refine bind_ok_iff.mpr ⟨_, qualified, ?_⟩
    rfl

theorem absence_admitted :
    admissibility standardSha256 .absence absenceBasis queryEvidence = .yes [] :=
  admissibility_yes_iff.mpr ⟨[], absence_checked, rfl, rfl⟩

end Sample

theorem negative_answers_sound_absence :
    ∃ query ∈ Sample.absenceBasis.expectedQuery, ∃ (snapshot : ValidatedArtifact standardSha256)
      (recorded : RecordedMatcher) (entry : MatcherEntry),
      NegativeEvidence Sample.queryEvidence Sample.absenceBasis.expected query.subject query.digest
        snapshot recorded entry ∧
      snapshot.strAt "/requiredObservationId" = some Sample.absenceBasis.observationId :=
  (negative_answers_sound standardSha256 Sample.queryEvidence).1 Sample.absenceBasis []
    Sample.absence_admitted

end O7Formal.Closure
