import O7Formal.Closure.Absence
import O7Formal.Closure.CanonicalForm

/-! A replay is decided by the query snapshot alone: whoever supplies the candidates, they are the
ones the snapshot lists, each of the shape it declares, and what matched is what the registered
predicate selects among them. -/

namespace O7Formal.Closure

open Json Fallible
open Run (Sha256 Digest256 standardSha256)

variable {sha256 : Sha256}

/-- The kind and the version a snapshot declares are registered, and it has exactly the members
of that shape. -/
structure OfDeclaredShape (snapshot : Tree) (schema : CandidateSchema) : Prop where
  registered : schema ∈ sourceSchemas
  kind : snapshot.strAt "/sourceKind" = some schema.sourceKind
  version : (snapshot.pointer "/schemaVersion").bind asI64 = some schema.schemaVersion
  checked : checkShape snapshot schema.members "" = .ok ()
  closed : ∃ members, snapshot = .object members ∧
    (∀ m ∈ members, m.1 ∈ schema.members.map Member.name) ∧
    ∀ name kind, Member.mk name true kind ∈ schema.members → ∃ found,
      members.lookup name = some found ∧ checkKind kind found ("" ++ "/" ++ name) = .ok ()

theorem checkCandidateShape_ok {candidate : Candidate} {u : Unit}
    (ok : checkCandidateShape candidate = .ok u) :
    ∃ schema, OfDeclaredShape candidate.snapshot schema := by
  have checked := mapError_ok_iff.mp ok
  simp only [checkCandidateSnapshot, bind_ok_iff, okOr_ok_iff, refuseIf_ok_iff, not_not] at checked
  rcases checked with ⟨kind, declared, version, numbered, schema, found, _, current, shape⟩
  have named : schema.sourceKind = kind := by
    simpa using List.find?_some found
  have shaped := mapError_ok_iff.mp shape
  refine ⟨schema, List.mem_of_find?_eq_some found, ?_, ?_, shaped, ?_⟩
  · rw [declared, named]
  · rw [numbered, current]
  · rcases checkShape_ok shaped with ⟨members, same, present, listed⟩
    exact ⟨members, same, listed, fun name kind required => checkMembers_required present required⟩

structure Scored (sha256 : Sha256) (entry : MatcherEntry) (parameters : Tree)
    (candidate : Candidate) (selected : Bool) : Prop where
  hashed : digest sha256 candidate.snapshot = .ok candidate.declaredDigest
  shaped : ∃ schema, OfDeclaredShape candidate.snapshot schema
  scored : entry.predicate candidate.snapshot parameters = .ok selected

theorem scored_of_scoreCandidate {entry : MatcherEntry} {parameters : Tree} {candidate : Candidate}
    {selected : Bool} (ok : scoreCandidate sha256 entry parameters candidate = .ok selected) :
    Scored sha256 entry parameters candidate selected := by
  have whole := ok
  simp only [scoreCandidate, bind_ok_iff, refuseIf_ok_iff, not_not] at whole
  rcases whole with ⟨computed, hashed, _, same, _, shape, scored⟩
  rw [same] at hashed
  exact ⟨mapError_ok_iff.mp hashed, checkCandidateShape_ok shape, scored⟩

def selectedDigests (entry : MatcherEntry) (parameters : Tree) (candidates : List Candidate) :
    List String :=
  (candidates.filter fun c => decide (entry.predicate c.snapshot parameters = .ok true)).map
    Candidate.declaredDigest

theorem matched_of_scoring {entry : MatcherEntry} {parameters : Tree} {candidates : List Candidate}
    {matched : List String}
    (ok : candidates.foldlM (fun matched candidate => do
      let selected ← scoreCandidate sha256 entry parameters candidate
      return if selected then matched ++ [candidate.declaredDigest] else matched) [] =
        .ok matched) :
    matched = selectedDigests entry parameters candidates ∧
      ∀ candidate ∈ candidates, ∃ selected,
        Scored sha256 entry parameters candidate selected := by
  refine run_invariant (motive := fun seen matched => matched = selectedDigests entry parameters seen ∧
    ∀ candidate ∈ seen, ∃ selected, Scored sha256 entry parameters candidate selected)
    ⟨rfl, by simp⟩ ?_ ok
  intro seen matched next grown _ held step
  rcases bind_ok_iff.mp step with ⟨selected, scoring, same⟩
  have scored := scored_of_scoreCandidate scoring
  constructor
  · rw [← pure_ok_iff.mp same, held.1]
    cases selected with
    | true => simp [selectedDigests, scored.scored]
    | false => simp [selectedDigests, scored.scored]
  · refine List.forall_mem_append.mpr ⟨held.2, List.forall_mem_singleton.mpr ?_⟩
    exact ⟨selected, scored⟩

/-- What an accepted replay has established about the candidates it was given. -/
structure Replayed (sha256 : Sha256) (recorded : RecordedMatcher) (candidates : List Candidate)
    (verdict : MatchedVerdict) (entry : MatcherEntry) : Prop where
  registered : resolveMatcher recorded.id recorded.version = .ok entry
  listed : candidates.map Candidate.declaredDigest = recorded.allReturnedSnapshotDigests
  scored : ∀ candidate ∈ candidates, ∃ selected,
    Scored sha256 entry recorded.parameters candidate selected
  matched : verdict.replay.matched = selectedDigests entry recorded.parameters candidates
  implementation : checkRecordedImplementation sha256 entry recorded.implementation =
    .ok verdict.replay.implementation
  reproduced : verdict.reproduced = true ↔
    verdict.replay.matched = recorded.matchedSnapshotDigests

theorem replayed_of_verifyMatched {recorded : RecordedMatcher} {candidates : List Candidate}
    {verdict : MatchedVerdict} (ok : verifyMatched sha256 recorded candidates = .ok verdict) :
    ∃ entry, Replayed sha256 recorded candidates verdict entry := by
  rcases bind_ok_iff.mp ok with ⟨replay, recomputed, same⟩
  simp only [recomputeMatched, bind_ok_iff, refuseIf_ok_iff, pure_ok_iff, not_not] at recomputed
  rcases recomputed with ⟨entry, registered, _, _, implementation, implemented, _, _, _, supplied,
    matched, scoring, built⟩
  rcases matched_of_scoring scoring with ⟨selection, scored⟩
  cases pure_ok_iff.mp same
  cases built
  exact ⟨entry, registered, supplied, scored, selection, implemented, by simp⟩

/-- No two of the snapshots have different canonical bytes with one hash. -/
def DigestsApart (sha256 : Sha256) (candidates others : List Candidate) : Prop :=
  ∀ c ∈ candidates, ∀ d ∈ others, ∀ x y, canonicalize c.snapshot = .ok x →
    canonicalize d.snapshot = .ok y → sha256 x = sha256 y → x = y

theorem digestOfCanonicalBytes_eq {x y : List UInt8}
    (same : digestOfCanonicalBytes sha256 x = digestOfCanonicalBytes sha256 y) :
    sha256 x = sha256 y := by
  have texts := congrArg String.toList same
  rw [digestOfCanonicalBytes, digestOfCanonicalBytes, String.toList_append, String.toList_append]
    at texts
  have hex := String.toList_injective (List.append_cancel_left texts)
  exact Digest256.fromSha256_injective (Digest256.asStr_injective hex)

theorem predicate_of_equiv {entry : MatcherEntry} (registered : entry ∈ matcherRegistry)
    {t u : Tree} (equal : t.Equiv u) (parameters : Tree) :
    entry.predicate t parameters = entry.predicate u parameters := by
  have texts : ∀ parameter sourceKind field : String,
      matchesText parameter sourceKind field t parameters =
        matchesText parameter sourceKind field u parameters := by
    intro parameter sourceKind field
    rw [matchesText, matchesText, equal.strAt, equal.strAt]
  simp only [matcherRegistry, List.mem_cons, List.not_mem_nil, or_false] at registered
  rcases registered with review | check
  · rw [review]
    exact texts _ _ _
  · rw [check]
    exact texts _ _ _

theorem equiv_of_digest {c d : Candidate} (distinctC : c.snapshot.DistinctNames)
    (distinctD : d.snapshot.DistinctNames) {name : String}
    (hashC : digest sha256 c.snapshot = .ok name) (hashD : digest sha256 d.snapshot = .ok name)
    (apart : ∀ x y, canonicalize c.snapshot = .ok x → canonicalize d.snapshot = .ok y →
      sha256 x = sha256 y → x = y) : c.snapshot.Equiv d.snapshot := by
  rcases map_ok_iff.mp hashC with ⟨x, writtenC, namedC⟩
  rcases map_ok_iff.mp hashD with ⟨y, writtenD, namedD⟩
  have bytes := apart x y writtenC writtenD (digestOfCanonicalBytes_eq (namedC.trans namedD.symm))
  apply (canonicalize_eq_iff distinctC distinctD (canonicalize_ok_iff.mp writtenC).1
    (canonicalize_ok_iff.mp writtenD).1).mp
  rw [writtenC, writtenD, bytes]

theorem selectedDigests_unique {entry : MatcherEntry} (registered : entry ∈ matcherRegistry)
    {parameters : Tree} {candidates others : List Candidate}
    (digests : candidates.map Candidate.declaredDigest = others.map Candidate.declaredDigest)
    (hashed : ∀ c ∈ candidates, digest sha256 c.snapshot = .ok c.declaredDigest)
    (hashed' : ∀ d ∈ others, digest sha256 d.snapshot = .ok d.declaredDigest)
    (distinct : ∀ c ∈ candidates, c.snapshot.DistinctNames)
    (distinct' : ∀ d ∈ others, d.snapshot.DistinctNames)
    (apart : DigestsApart sha256 candidates others) :
    selectedDigests entry parameters candidates = selectedDigests entry parameters others := by
  induction candidates generalizing others with
  | nil =>
      cases others with
      | nil => rfl
      | cons d others => cases digests
  | cons c candidates ih =>
      cases others with
      | nil => cases digests
      | cons d others =>
          rw [List.map_cons, List.map_cons, List.cons.injEq] at digests
          rw [List.forall_mem_cons] at hashed hashed' distinct distinct'
          have equal := equiv_of_digest distinct.1 distinct'.1 hashed.1
            (digests.1 ▸ hashed'.1) (apart c List.mem_cons_self d List.mem_cons_self)
          have tail := ih digests.2 hashed.2 hashed'.2 distinct.2 distinct'.2
            (fun c memberC d memberD => apart c (List.mem_cons_of_mem _ memberC) d
              (List.mem_cons_of_mem _ memberD))
          simp only [selectedDigests] at tail
          simp only [selectedDigests, List.filter_cons,
            predicate_of_equiv registered equal parameters]
          split_ifs
          · rw [List.map_cons, List.map_cons, digests.1, tail]
          · exact tail

theorem mem_registry_of_resolveMatcher {id version : String} {entry : MatcherEntry}
    (ok : resolveMatcher id version = .ok entry) : entry ∈ matcherRegistry := by
  rw [resolveMatcher] at ok
  split_ifs at ok
  have found := List.mem_of_find?_eq_some (okOr_ok_iff.mp ok)
  exact (List.mem_filter.mp found).1

/-- An accepted replay is exact, and no other list of candidates is accepted with another
result. -/
theorem verifyMatched_exact {snapshot : Tree} {expected : String}
    {recorded : RecordedQuerySnapshot}
    (bound : RecordedQuerySnapshot.fromCanonical sha256 snapshot expected = .ok recorded)
    {candidates : List Candidate} {verdict : MatchedVerdict}
    (ok : verifyMatched sha256 recorded.matcher candidates = .ok verdict)
    (distinct : ∀ c ∈ candidates, c.snapshot.DistinctNames) :
    digest sha256 snapshot = .ok expected ∧
    (∃ entry, Replayed sha256 recorded.matcher candidates verdict entry) ∧
    ∀ others other, verifyMatched sha256 recorded.matcher others = .ok other →
      (∀ d ∈ others, d.snapshot.DistinctNames) → DigestsApart sha256 candidates others →
      other = verdict := by
  rcases replayed_of_verifyMatched ok with ⟨entry, here⟩
  refine ⟨?_, ⟨entry, here⟩, ?_⟩
  · rcases bind_ok_iff.mp bound with ⟨computed, hashed, rest⟩
    rcases bind_ok_iff.mp rest with ⟨_, same, _⟩
    rw [refuseIf_ok_iff, not_not] at same
    rw [← same]
    exact mapError_ok_iff.mp hashed
  · intro others other accepted distinct' apart
    rcases replayed_of_verifyMatched accepted with ⟨entry', there⟩
    have entries : entry' = entry := by
      exact Except.ok.inj (there.registered.symm.trans here.registered)
    subst entries
    have hashed : ∀ {cs : List Candidate} {v : MatchedVerdict},
        Replayed sha256 recorded.matcher cs v entry' →
        ∀ c ∈ cs, digest sha256 c.snapshot = .ok c.declaredDigest := by
      intro cs v replayed c member
      rcases replayed.scored c member with ⟨_, scored⟩
      exact scored.hashed
    have matched : other.replay.matched = verdict.replay.matched := by
      rw [there.matched, here.matched]
      symm
      apply selectedDigests_unique (mem_registry_of_resolveMatcher here.registered)
        (here.listed.trans there.listed.symm) (hashed here) (hashed there) distinct distinct' apart
    have implementation : other.replay.implementation = verdict.replay.implementation := by
      exact Except.ok.inj (there.implementation.symm.trans here.implementation)
    have reproduced : other.reproduced = verdict.reproduced := by
      rw [Bool.eq_iff_iff, there.reproduced, here.reproduced, matched]
    cases other with
    | mk replay flag =>
        cases verdict with
        | mk replay' flag' =>
            cases replay
            cases replay'
            simp_all

/-! The query for a check, with three candidates: the check, and before and behind it another one. -/

namespace Sample

def deployTree : Tree := checkTree "2" "deploy gate" "success"

def deployDigest : String :=
  "sha256:8908c724710876cb434bdb6941cd10d1bb5c52155e90b63a3438bac2bdd87de5"

def severalTree : Tree :=
  .object [("allReturnedSnapshotDigests",
      .array [.string wholeDigest, .string deployDigest, .string wholeDigest]),
    ("binding", .object [("pullRequest", .string "7"), ("repository", .string "o7/o7")]),
    ("enumeration", .string "COMPLETE"),
    ("matchedSnapshotDigests", .array [.string deployDigest]),
    ("matcher", .object [("id", .string "actions-check-by-name"),
      ("implementationDigest", .string actionsCheckByNameV1.implementationDigest),
      ("parameters", deployGate), ("version", .string "1")]),
    ("pagination", .object [("nextPagePresent", .bool false),
      ("pagesObtained", .array [.string "1"]), ("pagesRequested", .array [.string "1"]),
      ("perPage", .number (.integer 100))]),
    ("requiredObservationId", .string "checks"), ("schemaVersion", .number (.integer 2)),
    ("sourceKind", .string "github-query-snapshot"), ("surface", .string "github-actions-check")]

def severalDigest : String :=
  "sha256:35965041dde6935892101b1e1137597839ded71ea645f3263761068bd1308fc6"

def several : RecordedMatcher :=
  ⟨"actions-check-by-name", "1", [deployDigest], [wholeDigest, deployDigest, wholeDigest],
    deployGate, .bound actionsCheckByNameV1.implementationDigest⟩

def candidates : List Candidate :=
  [⟨wholeDigest, wholeTree⟩, ⟨deployDigest, deployTree⟩, ⟨wholeDigest, wholeTree⟩]

theorem several_hashes : digest standardSha256 deployTree = .ok deployDigest ∧
    digest standardSha256 severalTree = .ok severalDigest := by
  refine ⟨digest_standard ?_ ?_, digest_standard ?_ ?_⟩ <;> decide +kernel

theorem several_facts :
    (checkQuerySnapshotShape severalTree).isOk = true ∧
    RecordedMatcher.fromQuerySnapshot severalTree = .ok several ∧
    (checkCandidateShape ⟨deployDigest, deployTree⟩).isOk = true ∧
    actionsCheckByName deployTree deployGate = .ok true := by
  refine ⟨?_, ?_, ?_, ?_⟩ <;> decide +kernel

theorem deploy_scored :
    scoreCandidate standardSha256 actionsCheckByNameV1 deployGate ⟨deployDigest, deployTree⟩ =
      .ok true := by
  have hashes : digestOr standardSha256 deployTree = .ok deployDigest := by
    rw [digestOr, several_hashes.1]
    rfl
  simp only [scoreCandidate, hashes, ok_bind]
  rw [ok_of_isOk several_facts.2.2.1]
  exact several_facts.2.2.2

theorem several_replayed : recomputeMatched standardSha256 several candidates =
    .ok ⟨[deployDigest], .bound actionsCheckByNameV1.implementationDigest⟩ := by
  refine bind_ok_iff.mpr ⟨actionsCheckByNameV1, matcher_resolved, ?_⟩
  refine bind_ok_iff.mpr ⟨_, binding_verified, ?_⟩
  refine bind_ok_iff.mpr ⟨_, implementation_checked, ?_⟩
  refine bind_ok_iff.mpr ⟨(), ok_of_isOk query_facts.2.2.2.2.2.2.1, ?_⟩
  refine bind_ok_iff.mpr ⟨(), refuseIf_ok_iff.mpr (not_not.mpr rfl), ?_⟩
  refine bind_ok_iff.mpr ⟨[deployDigest], ?_, rfl⟩
  rw [candidates, List.foldlM_cons]
  refine bind_ok_iff.mpr ⟨[], bind_ok_iff.mpr ⟨false, whole_scored, rfl⟩, ?_⟩
  rw [List.foldlM_cons]
  refine bind_ok_iff.mpr ⟨[deployDigest], bind_ok_iff.mpr ⟨true, deploy_scored, rfl⟩, ?_⟩
  rw [List.foldlM_cons]
  exact bind_ok_iff.mpr ⟨[deployDigest], bind_ok_iff.mpr ⟨false, whole_scored, rfl⟩, rfl⟩

theorem several_recorded :
    RecordedQuerySnapshot.fromCanonical standardSha256 severalTree severalDigest =
      .ok ⟨severalDigest, several⟩ := by
  refine bind_ok_iff.mpr ⟨severalDigest, mapError_ok_iff.mpr several_hashes.2, ?_⟩
  refine bind_ok_iff.mpr ⟨(), refuseIf_ok_iff.mpr (not_not.mpr rfl), ?_⟩
  refine bind_ok_iff.mpr ⟨(), mapError_ok_iff.mpr (ok_of_isOk several_facts.1), ?_⟩
  exact bind_ok_iff.mpr ⟨several, several_facts.2.1, rfl⟩

theorem candidates_distinct : ∀ c ∈ candidates, c.snapshot.DistinctNames := by
  have whole : wholeTree.DistinctNames := flat_distinct (by decide) (by decide)
  have deploy : deployTree.DistinctNames := flat_distinct (by decide) (by decide)
  exact List.forall_mem_cons.mpr ⟨whole, List.forall_mem_cons.mpr ⟨deploy,
    List.forall_mem_singleton.mpr whole⟩⟩

end Sample

theorem verifyMatched_exact_several :
    ∃ entry, Replayed standardSha256 Sample.several Sample.candidates
      ⟨⟨[Sample.deployDigest], .bound actionsCheckByNameV1.implementationDigest⟩, true⟩ entry := by
  have ok : verifyMatched standardSha256 Sample.several Sample.candidates =
      .ok ⟨⟨[Sample.deployDigest], .bound actionsCheckByNameV1.implementationDigest⟩, true⟩ :=
    bind_ok_iff.mpr ⟨_, Sample.several_replayed, rfl⟩
  have checked := verifyMatched_exact Sample.several_recorded ok Sample.candidates_distinct
  exact checked.2.1

end O7Formal.Closure
