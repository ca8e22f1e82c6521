import O7Formal.Closure.Door
import O7Formal.Closure.Instant
import O7Formal.Closure.Resolution

/-! Whether the head moved: each verdict by the evidence that the two reads name. -/

namespace O7Formal.Closure

open Json Fallible Calendar ByteCodec
open Run (Sha256)

variable {sha256 : Sha256} {store : RetainedEvidence} {subject : Subject} {role : String}
  {read : HeadRead} {event snapshot : ValidatedArtifact sha256}

/-- One read's evidence: a retained event of the slot's own role, with the retained and authorised
projection of the caller's pull request that it names. -/
structure Evidences (store : RetainedEvidence) (subject : Subject) (role : String)
    (read : HeadRead) (event snapshot : ValidatedArtifact sha256) : Prop where
  observed : read = .observed event.digest
  retained : store.resolve event.digest = some event.value
  isEvent : event.kind = .headReadEvent
  ofRole : event.strAt "/role" = some role
  available : event.strAt "/acquisition" = some "AVAILABLE"
  names : event.strAt "/snapshotDigest" = some snapshot.digest
  snapshotRetained : store.resolve snapshot.digest = some snapshot.value
  isHead : snapshot.kind = .completeProjection "github-pull-request-head"
  authorised : ∃ assessment, Authorises store subject.expected snapshot assessment
  repository : snapshot.strAt "/repository" = some subject.repository
  pullRequest : snapshot.strAt "/pullRequest" = some subject.pullRequest

theorem Conforms.text {shape : List Member} {value : Tree} {name path : String}
    (conforms : Conforms shape value) (member : req name ∈ shape)
    (tokens : pointerTokens path = some [name]) : ∃ text, value.strAt path = some text := by
  rcases conforms.member member tokens with ⟨found, held, ofKind⟩
  cases ofKind with
  | text s => exact ⟨s, by rw [Tree.strAt, held]; rfl⟩

theorem ValidatedArtifact.registered (a : ValidatedArtifact sha256) : Registered a.value a.kind :=
  (validKind_ok_iff.mp a.valid).2

namespace Evidences

theorem conforms (evidence : Evidences store subject role read event snapshot) :
    Conforms headReadEventAvailable event.value := by
  have form := event.registered
  rw [evidence.isEvent] at form
  cases form with
  | headReadEvent acquisition shape selected declares acquired conforms =>
      have available : acquisition = "AVAILABLE" :=
        Option.some.inj (acquired.symm.trans evidence.available)
      simp only [List.mem_cons, Prod.mk.injEq, List.not_mem_nil, or_false] at selected
      rcases selected with ⟨_, rfl⟩ | ⟨failed, _⟩
      · exact conforms
      · exact absurd (failed.symm.trans available) (by decide)

theorem instant (evidence : Evidences store subject role read event snapshot) :
    ∃ i : Instant, i.year < 10 ^ 4 ∧ event.strAt "/observedAt" = some i.text := by
  have member : .mk "observedAt" true .timestamp ∈ headReadEventAvailable := by
    simp [headReadEventAvailable, headReadEvent]
  have tokens : pointerTokens "/observedAt" = some ["observedAt"] := by decide +kernel
  rcases evidence.conforms.member member tokens with ⟨found, held, ofKind⟩
  cases ofKind with
  | timestamp accepted =>
      rcases utcInstant_ok_iff.mp accepted with ⟨i, year_lt, rfl⟩
      exact ⟨i, year_lt, by rw [ValidatedArtifact.strAt, Tree.strAt, held]; rfl⟩

theorem sha (evidence : Evidences store subject role read event snapshot) :
    ∃ sha, snapshot.strAt "/headSha" = some sha := by
  have form := snapshot.registered
  rw [evidence.isHead] at form
  generalize named : ArtifactKind.completeProjection "github-pull-request-head" = kind at form
  cases form with
  | completeProjection schema registered declares conforms =>
      have sourceKind := ArtifactKind.completeProjection.inj named
      have found := sourceSchemas_find schema registered
      rw [← sourceKind] at found
      have same : (⟨"github-pull-request-head", 1, pullRequestHeadV1⟩ : CandidateSchema) = schema :=
        Option.some.inj found
      rw [← same] at conforms
      have member : req "headSha" ∈ pullRequestHeadV1 := by simp [pullRequestHeadV1]
      exact conforms.text member (by decide +kernel)
  | _ => cases named

end Evidences

theorem accepts_headReadEvent {kind : ArtifactKind} :
    ConsumedAs.headReadEvent.accepts kind = true ↔ kind = .headReadEvent := by
  cases kind <;> simp [ConsumedAs.accepts]

theorem accepts_subjectHead {kind : ArtifactKind} : ConsumedAs.subjectHead.accepts kind = true ↔
    kind = .completeProjection "github-pull-request-head" := by
  cases kind <;> simp [ConsumedAs.accepts]

theorem checkRole_ok_iff {u : Unit} :
    checkRole sha256 event role = .ok u ↔ event.strAt "/role" = some role := by
  unfold checkRole
  split
  · rename_i found held
    simp [held]
  · rename_i missing
    simp [missing]

theorem readHead_ok_iff {head : ObservedHead} :
    readHead sha256 store subject role read = .ok head ↔
      ∃ event snapshot : ValidatedArtifact sha256,
        Evidences store subject role read event snapshot ∧
          event.strAt "/observedAt" = some head.observedAt ∧
          snapshot.strAt "/headSha" = some head.sha := by
  cases read with
  | failed code =>
      constructor
      · intro read
        cases read
      · rintro ⟨_, _, evidence, _⟩
        cases evidence.observed
  | observed eventDigest =>
      simp only [readHead, resolveHeadRead, bind_ok_iff, mapError_ok_iff, refuseIf_ok_iff,
        okOr_ok_iff, pure_ok_iff, resolveArtifact_ok_iff, checkRole_ok_iff, not_not, not_or]
      constructor
      · rintro ⟨event, resolved, _, ofRole, _, available, _, names, snapshot, resolvedHead, _,
          ⟨repository, pullRequest⟩, at_, observedAt, sha, headSha, rfl⟩
        refine ⟨event, snapshot, ?_, observedAt, headSha⟩
        cases resolved.named
        cases resolvedHead.named
        have isHead := accepts_subjectHead.mp resolvedHead.accepted
        exact ⟨rfl, resolved.held, accepts_headReadEvent.mp resolved.accepted, ofRole, available,
          names, resolvedHead.held, isHead, resolvedHead.authorised (by rw [isHead]; rfl),
          repository, pullRequest⟩
      · rintro ⟨event, snapshot, evidence, observedAt, headSha⟩
        cases evidence.observed
        have ungated : event.kind.gate ≠ .gated := by
          rw [evidence.isEvent]
          decide
        exact ⟨event, ⟨evidence.retained, rfl, accepts_headReadEvent.mpr evidence.isEvent,
          fun gated => absurd gated ungated⟩, (), evidence.ofRole, (), evidence.available, _,
          evidence.names, snapshot, ⟨evidence.snapshotRetained, rfl,
            accepts_subjectHead.mpr evidence.isHead, fun _ => evidence.authorised⟩, (),
          ⟨evidence.repository, evidence.pullRequest⟩, _, observedAt, _, headSha, rfl⟩

def Tells (event : ValidatedArtifact sha256) (i : Instant) : Prop :=
  i.year < 10 ^ 4 ∧ event.strAt "/observedAt" = some i.text

structure Bracket (store : RetainedEvidence) (subject : Subject) (read : SubjectRead)
    (before beforeHead after afterHead : ValidatedArtifact sha256) : Prop where
  ordered : ∃ i j, Tells before i ∧ Tells after j ∧ i.seconds ≤ j.seconds
  opens : Evidences store subject "HEAD_BEFORE" read.before before beforeHead
  closes : Evidences store subject "HEAD_AFTER" read.after after afterHead

theorem tells_unique {i j : Instant} (tells : Tells event i) (others : Tells event j) : i = j :=
  Instant.text_inj tells.1 others.1 (Option.some.inj (tells.2.symm.trans others.2))

theorem ordered_iff {before after : ValidatedArtifact sha256} {i j : Instant}
    (tellsBefore : Tells before i) (tellsAfter : Tells after j) :
    (∃ i j, Tells before i ∧ Tells after j ∧ i.seconds ≤ j.seconds) ↔ ¬ i.text > j.text := by
  have later : i.text > j.text ↔ j.seconds < i.seconds :=
    Instant.text_lt_iff tellsAfter.1 tellsBefore.1
  rw [later, Nat.not_lt]
  constructor
  · rintro ⟨i', j', tellsBefore', tellsAfter', ordered⟩
    rw [tells_unique tellsBefore tellsBefore', tells_unique tellsAfter tellsAfter']
    exact ordered
  · intro ordered
    exact ⟨i, j, tellsBefore, tellsAfter, ordered⟩

theorem exists_bracket_iff (read : SubjectRead) (shows : String → String → Prop) :
    (∃ before after, readHead sha256 store subject "HEAD_BEFORE" read.before = .ok before ∧
      readHead sha256 store subject "HEAD_AFTER" read.after = .ok after ∧
      ¬ before.observedAt > after.observedAt ∧ shows before.sha after.sha) ↔
    ∃ before beforeHead after afterHead : ValidatedArtifact sha256,
      Bracket store subject read before beforeHead after afterHead ∧
        ∃ s t, beforeHead.strAt "/headSha" = some s ∧ afterHead.strAt "/headSha" = some t ∧
          shows s t := by
  simp only [readHead_ok_iff]
  constructor
  · rintro ⟨first, second, ⟨before, beforeHead, opens, beforeAt, beforeSha⟩,
      ⟨after, afterHead, closes, afterAt, afterSha⟩, ordered, said⟩
    rcases opens.instant with ⟨i, tellsBefore⟩
    rcases closes.instant with ⟨j, tellsAfter⟩
    rw [Option.some.inj (beforeAt.symm.trans tellsBefore.2),
      Option.some.inj (afterAt.symm.trans tellsAfter.2)] at ordered
    exact ⟨before, beforeHead, after, afterHead,
      ⟨(ordered_iff tellsBefore tellsAfter).mpr ordered, opens, closes⟩, _, _, beforeSha, afterSha,
      said⟩
  · rintro ⟨before, beforeHead, after, afterHead, bracket, s, t, beforeSha, afterSha, said⟩
    rcases bracket.opens.instant with ⟨i, tellsBefore⟩
    rcases bracket.closes.instant with ⟨j, tellsAfter⟩
    exact ⟨⟨s, i.text⟩, ⟨t, j.text⟩,
      ⟨before, beforeHead, bracket.opens, tellsBefore.2, beforeSha⟩,
      ⟨after, afterHead, bracket.closes, tellsAfter.2, afterSha⟩,
      (ordered_iff tellsBefore tellsAfter).mp bracket.ordered, said⟩

theorem intervalVerdict_notStale_iff {expectedSha : String} {before after : ObservedHead} :
    intervalVerdict expectedSha before after = .notStale ↔
      ¬ before.observedAt > after.observedAt ∧ before.sha = expectedSha ∧
        after.sha = expectedSha := by
  unfold intervalVerdict headsVerdict
  split_ifs with later
  · simp [later]
  · by_cases first : before.sha = expectedSha <;> by_cases second : after.sha = expectedSha <;>
      simp_all

theorem intervalVerdict_stale_iff {expectedSha : String} {before after : ObservedHead} :
    (∃ observed, intervalVerdict expectedSha before after = .stale observed) ↔
      ¬ before.observedAt > after.observedAt ∧
        ¬ (before.sha = expectedSha ∧ after.sha = expectedSha) := by
  unfold intervalVerdict headsVerdict
  split_ifs with later
  · simp [later]
  · by_cases first : before.sha = expectedSha <;> by_cases second : after.sha = expectedSha <;>
      simp_all

theorem staleness_notStale_iff {read : SubjectRead} :
    staleness sha256 subject read store = .notStale ↔
      ∃ before beforeHead after afterHead : ValidatedArtifact sha256,
        Bracket store subject read before beforeHead after afterHead ∧
          beforeHead.strAt "/headSha" = some subject.expectedSha ∧
          afterHead.strAt "/headSha" = some subject.expectedSha := by
  rw [staleness_established_iff (fun _ => by simp)]
  simp only [intervalVerdict_notStale_iff]
  rw [exists_bracket_iff read fun s t => s = subject.expectedSha ∧ t = subject.expectedSha]
  constructor
  · rintro ⟨before, beforeHead, after, afterHead, bracket, _, _, first, second, rfl, rfl⟩
    exact ⟨before, beforeHead, after, afterHead, bracket, first, second⟩
  · rintro ⟨before, beforeHead, after, afterHead, bracket, first, second⟩
    exact ⟨before, beforeHead, after, afterHead, bracket, _, _, first, second, rfl, rfl⟩

theorem staleness_stale_iff {read : SubjectRead} :
    (∃ observed, staleness sha256 subject read store = .stale observed) ↔
      ∃ before beforeHead after afterHead : ValidatedArtifact sha256,
        Bracket store subject read before beforeHead after afterHead ∧
          ¬ (beforeHead.strAt "/headSha" = some subject.expectedSha ∧
            afterHead.strAt "/headSha" = some subject.expectedSha) := by
  have differs := @exists_bracket_iff sha256 store subject read fun s t =>
    ¬ (s = subject.expectedSha ∧ t = subject.expectedSha)
  simp only [← intervalVerdict_stale_iff] at differs
  constructor
  · rintro ⟨observed, stale⟩
    rcases (staleness_established_iff (fun _ => by simp)).mp stale with
      ⟨before, after, first, second, verdict⟩
    rcases differs.mp ⟨before, after, first, second, observed, verdict⟩ with
      ⟨before, beforeHead, after, afterHead, bracket, s, t, firstSha, secondSha, differ⟩
    refine ⟨before, beforeHead, after, afterHead, bracket, ?_⟩
    rw [firstSha, secondSha, Option.some.injEq, Option.some.injEq]
    exact differ
  · rintro ⟨before, beforeHead, after, afterHead, bracket, differ⟩
    rcases bracket.opens.sha with ⟨s, firstSha⟩
    rcases bracket.closes.sha with ⟨t, secondSha⟩
    rw [firstSha, secondSha, Option.some.injEq, Option.some.injEq] at differ
    rcases differs.mpr ⟨before, beforeHead, after, afterHead, bracket, s, t, firstSha, secondSha,
      differ⟩ with ⟨before, after, first, second, observed, verdict⟩
    exact ⟨observed, (staleness_established_iff (fun _ => by simp)).mpr
      ⟨before, after, first, second, verdict⟩⟩

/-- Whether the head moved, by the evidence that the two reads name: it did not when they enclose an
interval and show the expected commit, it did when they enclose one and some commit differs, and
there is no telling otherwise. The instants are in order as they are spelled. -/
theorem staleness_exact (sha256 : Sha256) (subject : Subject) (read : SubjectRead)
    (store : RetainedEvidence) :
    (staleness sha256 subject read store = .notStale ↔
      ∃ before beforeHead after afterHead : ValidatedArtifact sha256,
        Bracket store subject read before beforeHead after afterHead ∧
          beforeHead.strAt "/headSha" = some subject.expectedSha ∧
          afterHead.strAt "/headSha" = some subject.expectedSha) ∧
    ((∃ observed, staleness sha256 subject read store = .stale observed) ↔
      ∃ before beforeHead after afterHead : ValidatedArtifact sha256,
        Bracket store subject read before beforeHead after afterHead ∧
          ¬ (beforeHead.strAt "/headSha" = some subject.expectedSha ∧
            afterHead.strAt "/headSha" = some subject.expectedSha)) ∧
    ((∃ why, staleness sha256 subject read store = .cannotCheck why) ↔
      ¬ ∃ before beforeHead after afterHead : ValidatedArtifact sha256,
        Bracket store subject read before beforeHead after afterHead) ∧
    (∀ s, utcInstant s = .ok () ↔ ∃ i : Instant, i.year < 10 ^ 4 ∧ s = i.text) ∧
    ∀ i j : Instant, i.year < 10 ^ 4 → j.year < 10 ^ 4 →
      (i.text < j.text ↔ i.seconds < j.seconds) ∧
        (List.Lex (· < ·) (utf8Bytes i.text) (utf8Bytes j.text) ↔ i.seconds < j.seconds) := by
  refine ⟨staleness_notStale_iff, staleness_stale_iff, ?_, fun _ => utcInstant_ok_iff,
    fun i j yearI yearJ => ⟨Instant.text_lt_iff yearI yearJ, Instant.bytes_lt_iff yearI yearJ⟩⟩
  have settled : (∃ before beforeHead after afterHead : ValidatedArtifact sha256,
      Bracket store subject read before beforeHead after afterHead) ↔
      staleness sha256 subject read store = .notStale ∨
        ∃ observed, staleness sha256 subject read store = .stale observed := by
    rw [staleness_notStale_iff, staleness_stale_iff]
    constructor
    · rintro ⟨before, beforeHead, after, afterHead, bracket⟩
      by_cases same : beforeHead.strAt "/headSha" = some subject.expectedSha ∧
        afterHead.strAt "/headSha" = some subject.expectedSha
      · exact .inl ⟨before, beforeHead, after, afterHead, bracket, same⟩
      · exact .inr ⟨before, beforeHead, after, afterHead, bracket, same⟩
    · rintro (⟨before, beforeHead, after, afterHead, bracket, _⟩ |
        ⟨before, beforeHead, after, afterHead, bracket, _⟩) <;>
      exact ⟨before, beforeHead, after, afterHead, bracket⟩
  rw [settled]
  cases staleness sha256 subject read store <;> simp

end O7Formal.Closure
