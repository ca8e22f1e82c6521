import O7Formal.Judge.Attribution

/-! Which findings a run that succeeds has left without a verdict. -/

namespace O7Formal.Judge

open ByteCodec Collect Utf8 WorkPool

section Pairing

variable {ν : Type} {sha1 : List UInt8 → List UInt8} {findings : List Finding} {reps : List Rep}
variable {file : List Char} {attempt : Attempt ν} {raws : List (RawVerdict ν)} {rep : Rep}

theorem mem_pairs_by_key {id : List Char} (answered : attempt.raws = some raws)
    (counts : raws.length ≠ (byFile reps file).length) :
    id ∈ (pairs reps file attempt).map Prod.fst ↔
      ∃ rv ∈ raws, ∃ key, rv.echo = some key ∧ keyToId reps key = some id := by
  rw [pairs, answered]
  simp only [pairVerdicts, counts, if_false, List.map_filterMap, List.mem_filterMap]
  refine exists_congr fun rv => and_congr_right fun _ => ?_
  simp [RawVerdict.named, Option.bind_eq_some_iff]

def Last (reps : List Rep) (rep : Rep) : Prop :=
  ∃ before after, reps = before ++ rep :: after ∧ ∀ later ∈ after, later.key ≠ rep.key

theorem Enrolled.keyToId_iff_last (enrolled : Enrolled sha1 findings reps) (member : rep ∈ reps) :
    keyToId reps rep.key = some rep.id ↔ Last reps rep := by
  constructor
  · intro held
    obtain ⟨found, first, same⟩ := Option.map_eq_some_iff.mp held
    have known := List.mem_reverse.mp (List.mem_of_find?_eq_some first)
    obtain rfl := enrolled.rep_eq known member same
    obtain ⟨_, after, before, split, others⟩ := List.find?_eq_some_iff_append.mp first
    refine ⟨before.reverse, after.reverse, ?_, ?_⟩
    · rw [← List.reverse_reverse reps, split]
      simp
    · intro later present same
      have apart := others later (List.mem_reverse.mp present)
      simp [same] at apart
  · rintro ⟨before, after, split, others⟩
    refine Option.map_eq_some_iff.mpr ⟨rep, ?_, rfl⟩
    refine List.find?_eq_some_iff_append.mpr
      ⟨decide_eq_true rfl, after.reverse, before.reverse, ?_, ?_⟩
    · rw [split]
      simp
    · intro later present
      simpa using others later (List.mem_reverse.mp present)

def Echoed (reps : List Rep) (file : List Char) (attempt : Attempt ν) (rep : Rep) : Prop :=
  ∃ raws, attempt.raws = some raws ∧ raws.length ≠ (byFile reps file).length ∧
    ∃ rv ∈ raws, rv.echo = some rep.key

theorem Enrolled.mem_pairs_iff (enrolled : Enrolled sha1 findings reps) (member : rep ∈ reps) :
    rep.id ∈ (pairs reps file attempt).map Prod.fst ↔
      (rep.path = file ∧ ∃ raws, attempt.raws = some raws ∧
        raws.length = (byFile reps file).length) ∨
      (Last reps rep ∧ Echoed reps file attempt rep) := by
  cases answered : attempt.raws with
  | none => simp [pairs, answered, Echoed]
  | some raws =>
      by_cases counts : raws.length = (byFile reps file).length
      · rw [pairs_by_position answered counts]
        constructor
        · intro placed
          obtain ⟨other, mine, same⟩ := List.mem_map.mp placed
          obtain ⟨known, path⟩ := List.mem_filter.mp mine
          obtain rfl := enrolled.rep_eq known member same
          exact .inl ⟨of_decide_eq_true path, raws, rfl, counts⟩
        · rintro (⟨path, _⟩ | ⟨_, _, same, apart, _⟩)
          · exact List.mem_map.mpr
              ⟨rep, List.mem_filter.mpr ⟨member, decide_eq_true path⟩, rfl⟩
          · obtain rfl := Option.some.inj (answered.symm.trans same)
            exact absurd counts apart
      · rw [mem_pairs_by_key answered counts]
        constructor
        · rintro ⟨rv, present, key, echoed, held⟩
          obtain ⟨other, known, rfl, same⟩ := rep_of_keyToId held
          obtain rfl := enrolled.rep_eq known member same
          exact .inr ⟨(enrolled.keyToId_iff_last member).mp held, raws, answered, counts, rv,
            present, echoed⟩
        · rintro (⟨_, _, same, even⟩ | ⟨last, _, same, _, rv, present, echoed⟩)
          · obtain rfl := Option.some.inj same
            exact absurd even counts
          · obtain rfl := Option.some.inj (answered.symm.trans same)
            exact ⟨rv, present, rep.key, echoed, (enrolled.keyToId_iff_last member).mpr last⟩

theorem mem_pairs_split {id : List Char} :
    id ∈ (pairs reps file attempt).map Prod.fst ↔
      id ∈ recordedIds reps file attempt ∨
        id ∈ ((pairs reps file attempt).filter fun p => Malformed p.2).map Prod.fst := by
  rw [recordedIds, verdicts_judgeOneFile]
  generalize pairs reps file attempt = paired
  induction paired with
  | nil => simp
  | cons head paired ih =>
      cases valid : normalizedClass head.2.class_ with
      | none =>
          simp only [List.map_cons, List.mem_cons, List.filterMap_cons, List.filter_cons, recorded,
            Malformed, valid, Option.map_none, decide_true, if_true] at ih ⊢
          rw [ih]
          tauto
      | some class_ =>
          simp only [List.map_cons, List.mem_cons, List.filterMap_cons, List.filter_cons, recorded,
            Malformed, valid, Option.map_some, decide_eq_true_eq, reduceCtorEq, if_false] at ih ⊢
          rw [ih]
          tauto

end Pairing

section Counting

variable {ν : Type} {sha1 : List UInt8 → List UInt8} {a : JudgeArgs} {findings : List Finding}
variable {attempt : List Char → Attempt ν} {order : List Nat}

variable (sha1 a findings attempt) in
def malformed : List (List Char × RawVerdict ν) :=
  (slated (dedupe sha1 a findings) a).flatMap fun file =>
    (pairs (dedupe sha1 a findings) file (attempt file)).filter fun p => Malformed p.2

theorem findingsMalformed_judgeOneFile (reps : List Rep) (file : List Char) (attempt : Attempt ν) :
    (judgeOneFile reps file attempt).findingsMalformed =
      ((pairs reps file attempt).filter fun p => Malformed p.2).length := by
  cases attempt with
  | failed => rfl
  | unparsed sessionId cost => rfl
  | answered sessionId cost raws =>
      rw [judgeOneFile, foldl_record, ← List.countP_eq_length_filter]
      exact Nat.zero_add _

theorem fileSkipped_judgeOneFile (reps : List Rep) (file : List Char) (attempt : Attempt ν) :
    (judgeOneFile reps file attempt).fileSkipped = attempt.raws.isNone := by
  cases attempt with
  | failed => rfl
  | unparsed sessionId cost => rfl
  | answered sessionId cost raws =>
      rw [judgeOneFile, foldl_record]
      rfl

theorem counters_foldl_merge [Add ν] (results : List (FileResult ν)) (t : Tally ν) :
    (results.foldl Tally.merge t).filesSkipped =
        t.filesSkipped + results.countP FileResult.fileSkipped ∧
      (results.foldl Tally.merge t).findingsMalformed =
        t.findingsMalformed + (results.map FileResult.findingsMalformed).sum := by
  induction results generalizing t with
  | nil => exact ⟨rfl, rfl⟩
  | cons res results ih =>
      obtain ⟨skipped, dropped⟩ := ih (t.merge res)
      rw [List.foldl_cons, skipped, dropped, List.countP_cons, List.map_cons, List.sum_cons]
      simp only [Tally.merge]
      cases res.fileSkipped <;> simp <;> omega

variable [Zero ν] [Add ν]

theorem findingsMalformed_tally (orders : Orders sha1 a findings order) :
    (tally sha1 a findings attempt order).findingsMalformed =
      (malformed sha1 a findings attempt).length := by
  have counted := (counters_foldl_merge (arrived sha1 a findings attempt order) Tally.empty).2
  change (tally sha1 a findings attempt order).findingsMalformed = 0 + _ at counted
  rw [counted, (orders.arrived_perm.map _).sum_eq, Nat.zero_add, results, List.map_map, malformed,
    List.length_flatMap]
  exact congrArg List.sum (List.map_congr_left fun file _ =>
    findingsMalformed_judgeOneFile _ file (attempt file))

theorem filesSkipped_tally (orders : Orders sha1 a findings order) :
    (tally sha1 a findings attempt order).filesSkipped = 0 ↔
      ∀ file ∈ slated (dedupe sha1 a findings) a, (attempt file).raws ≠ none := by
  have counted := (counters_foldl_merge (arrived sha1 a findings attempt order) Tally.empty).1
  change (tally sha1 a findings attempt order).filesSkipped = 0 + _ at counted
  rw [counted, orders.arrived_perm.countP_eq, Nat.zero_add, results, List.countP_map,
    List.countP_eq_zero]
  refine forall₂_congr fun file _ => ?_
  simp [fileSkipped_judgeOneFile]

theorem mem_verdicts_tally (orders : Orders sha1 a findings order) {id : List Char} :
    id ∈ (tally sha1 a findings attempt order).verdicts ↔
      ∃ file ∈ slated (dedupe sha1 a findings) a,
        id ∈ recordedIds (dedupe sha1 a findings) file (attempt file) := by
  rw [verdicts_tally, mem_collect, ((orders.arrived_perm.flatMap_right _).map _).mem_iff,
    List.map_flatMap, results, List.flatMap_map, List.mem_flatMap]
  rfl

theorem accounted_iff (orders : Orders sha1 a findings order) {id : List Char} :
    id ∈ (tally sha1 a findings attempt order).verdicts ∨
        id ∈ (malformed sha1 a findings attempt).map Prod.fst ↔
      ∃ file ∈ slated (dedupe sha1 a findings) a,
        id ∈ (pairs (dedupe sha1 a findings) file (attempt file)).map Prod.fst := by
  rw [mem_verdicts_tally orders, malformed, List.map_flatMap, List.mem_flatMap, ← exists_or]
  refine exists_congr fun file => ?_
  rw [mem_pairs_split]
  tauto

end Counting

section Claim

variable {ν : Type} [Zero ν] [Add ν]
variable (sha1 : List UInt8 → List UInt8) (a : JudgeArgs) (findings : List Finding)
variable (attempt : List Char → Attempt ν) (order : List Nat)

/-- Where a run that judged succeeds, each id of a slated file has a verdict in the overlay or is
among those counted as malformed. -/
def Honest : Prop :=
  ∀ overlay record, run sha1 a findings attempt order = .judged overlay record →
    (run sha1 a findings attempt order).succeeds →
      record.findingsMalformed = (malformed sha1 a findings attempt).length ∧
        ∀ file ∈ slated (dedupe sha1 a findings) a, ∀ rep ∈ byFile (dedupe sha1 a findings) file,
          rep.id ∈ overlay.verdicts ∨ rep.id ∈ (malformed sha1 a findings attempt).map Prod.fst

/-- Nothing is judged, a file is skipped, or each finding of a file whose answer is not one verdict
for each is the last of its key and echoed by an answer of that kind. -/
def Covered : Prop :=
  a.dryRun = true ∨ (∃ file ∈ slated (dedupe sha1 a findings) a, (attempt file).raws = none) ∨
    ∀ file ∈ slated (dedupe sha1 a findings) a, ∀ raws, (attempt file).raws = some raws →
      raws.length ≠ (byFile (dedupe sha1 a findings) file).length →
        ∀ rep ∈ byFile (dedupe sha1 a findings) file, Last (dedupe sha1 a findings) rep ∧
          ∃ other ∈ slated (dedupe sha1 a findings) a,
            Echoed (dedupe sha1 a findings) other (attempt other) rep

variable {sha1 a findings attempt order}

theorem run_judged {overlay : Overlay ν} {record : JudgeMeta ν} :
    run sha1 a findings attempt order = .judged overlay record →
      a.dryRun = false ∧ overlay.verdicts = (tally sha1 a findings attempt order).verdicts ∧
        record.filesSkipped = (tally sha1 a findings attempt order).filesSkipped ∧
        record.findingsMalformed = (tally sha1 a findings attempt order).findingsMalformed := by
  intro judged
  simp only [run] at judged
  split at judged
  · cases judged
  · split at judged
    case isTrue => cases judged
    case isFalse wet =>
      cases judged
      exact ⟨eq_false_of_ne_true wet, rfl, rfl, rfl⟩

variable (attempt order) in
theorem run_of_slated (wet : a.dryRun = false) {file : List Char}
    (here : file ∈ slated (dedupe sha1 a findings) a) :
    ∃ overlay record, run sha1 a findings attempt order = .judged overlay record := by
  have some_rep : dedupe sha1 a findings ≠ [] := by
    intro none_left
    rw [none_left] at here
    simp [slated] at here
  simp only [run, some_rep, wet, if_false, Bool.false_eq_true]
  exact ⟨_, _, rfl⟩

omit [Zero ν] [Add ν] in
theorem all_accounted_iff (answers : ∀ file ∈ slated (dedupe sha1 a findings) a,
      (attempt file).raws ≠ none) :
    (∀ file ∈ slated (dedupe sha1 a findings) a, ∀ rep ∈ byFile (dedupe sha1 a findings) file,
      ∃ other ∈ slated (dedupe sha1 a findings) a,
        rep.id ∈ (pairs (dedupe sha1 a findings) other (attempt other)).map Prod.fst) ↔
    ∀ file ∈ slated (dedupe sha1 a findings) a, ∀ raws, (attempt file).raws = some raws →
      raws.length ≠ (byFile (dedupe sha1 a findings) file).length →
        ∀ rep ∈ byFile (dedupe sha1 a findings) file, Last (dedupe sha1 a findings) rep ∧
          ∃ other ∈ slated (dedupe sha1 a findings) a,
            Echoed (dedupe sha1 a findings) other (attempt other) rep := by
  have enrolled := enrolled_dedupe sha1 a findings
  constructor
  · intro accounted file here raws answered counts rep mine
    obtain ⟨member, path⟩ := List.mem_filter.mp mine
    obtain ⟨other, there, placed⟩ := accounted file here rep mine
    rcases (enrolled.mem_pairs_iff member).mp placed with ⟨same, raws', held, even⟩ | ⟨last, echoed⟩
    · obtain rfl : other = file := same.symm.trans (of_decide_eq_true path)
      obtain rfl := Option.some.inj (answered.symm.trans held)
      exact absurd even counts
    · exact ⟨last, other, there, echoed⟩
  · intro covered file here rep mine
    obtain ⟨member, path⟩ := List.mem_filter.mp mine
    obtain ⟨raws, answered⟩ := Option.ne_none_iff_exists'.mp (answers file here)
    by_cases counts : raws.length = (byFile (dedupe sha1 a findings) file).length
    · exact ⟨file, here, (enrolled.mem_pairs_iff member).mpr
        (.inl ⟨of_decide_eq_true path, raws, answered, counts⟩)⟩
    · obtain ⟨last, other, there, echoed⟩ := covered file here raws answered counts rep mine
      exact ⟨other, there, (enrolled.mem_pairs_iff member).mpr (.inr ⟨last, echoed⟩)⟩

theorem Honest.covered (honest : Honest sha1 a findings attempt order)
    (orders : Orders sha1 a findings order) : Covered sha1 a findings attempt := by
  by_cases dry : a.dryRun = true
  · exact .inl dry
  by_cases answers : ∀ file ∈ slated (dedupe sha1 a findings) a, (attempt file).raws ≠ none
  · refine .inr (.inr ((all_accounted_iff answers).mp fun file here rep mine => ?_))
    obtain ⟨overlay, record, judged⟩ :=
      run_of_slated attempt order (eq_false_of_ne_true dry) here
    obtain ⟨_, verdicts, files, _⟩ := run_judged judged
    have succeeds : (run sha1 a findings attempt order).succeeds := by
      rw [judged]
      exact decide_eq_true (files.trans ((filesSkipped_tally orders).mpr answers))
    have accounted := (honest overlay record judged succeeds).2 file here rep mine
    rw [verdicts] at accounted
    exact (accounted_iff orders).mp accounted
  · push Not at answers
    exact .inr (.inl answers)

theorem Covered.honest (covered : Covered sha1 a findings attempt)
    (orders : Orders sha1 a findings order) : Honest sha1 a findings attempt order := by
  intro overlay record judged succeeds
  obtain ⟨wet, verdicts, files, dropped⟩ := run_judged judged
  rw [judged] at succeeds
  have answers := (filesSkipped_tally orders).mp (files.symm.trans (of_decide_eq_true succeeds))
  refine ⟨dropped.trans (findingsMalformed_tally orders), fun file here rep mine => ?_⟩
  rw [verdicts]
  refine (accounted_iff orders).mpr ?_
  rcases covered with dry | ⟨other, there, failed⟩ | covered
  · rw [wet] at dry
    cases dry
  · exact absurd failed (answers other there)
  · exact (all_accounted_iff answers).mpr covered file here rep mine

theorem honest_iff_covered (orders : Orders sha1 a findings order) :
    Honest sha1 a findings attempt order ↔ Covered sha1 a findings attempt :=
  ⟨fun honest => honest.covered orders, fun covered => covered.honest orders⟩

theorem orders_sample : Orders sampleSha1 sampleArgs sampleFindings [0, 1] := by
  refine ⟨2, [.draws 0, .draws 1, .delivers 0, .delivers 1, .draws 0, .draws 1], ?_, ?_⟩
  · unfold Pool.Joined
    decide
  · decide

theorem honest_iff_covered_keyed :
    Honest sampleSha1 sampleArgs sampleFindings keyedAnswers [0, 1] := by
  refine (honest_iff_covered orders_sample).mpr (.inr (.inr ?_))
  intro file here raws answered counts
  obtain rfl | rfl := slated_sample file here
  · obtain rfl := Option.some.inj answered
    have named : ∀ rep ∈ byFile (dedupe sampleSha1 sampleArgs sampleFindings) "a.cs".toList,
        keyToId (dedupe sampleSha1 sampleArgs sampleFindings) rep.key = some rep.id ∧
          (sampleVerdict "a.cs" 3).echo = some rep.key := by decide
    intro rep mine
    have enrolled := enrolled_dedupe sampleSha1 sampleArgs sampleFindings
    refine ⟨(enrolled.keyToId_iff_last (List.mem_filter.mp mine).1).mp (named rep mine).1,
      "a.cs".toList, here, _, rfl, counts, _, List.mem_cons_self, (named rep mine).2⟩
  · obtain rfl := Option.some.inj answered
    exact absurd (by decide) counts

def emptyAnswers (_ : List Char) : Attempt Nat := .answered none none []

theorem honest_empty :
    Orders sampleSha1 sampleArgs sampleFindings [0, 1] ∧
      ¬ Honest sampleSha1 sampleArgs sampleFindings emptyAnswers [0, 1] := by
  refine ⟨orders_sample, fun honest => ?_⟩
  have first : "a.cs".toList ∈ slated (dedupe sampleSha1 sampleArgs sampleFindings) sampleArgs := by
    decide
  rcases honest.covered orders_sample with dry | ⟨file, _, failed⟩ | covered
  · cases dry
  · cases failed
  · have one := one_finding_sample _ first
    obtain ⟨rep, mine⟩ := List.exists_mem_of_length_pos one.ge
    have counts : ([] : List (RawVerdict Nat)).length ≠
        (byFile (dedupe sampleSha1 sampleArgs sampleFindings) "a.cs".toList).length := by
      rw [one]
      decide
    obtain ⟨_, other, _, raws, answered, _, rv, present, _⟩ := covered _ first _ rfl counts rep mine
    obtain rfl := Option.some.inj answered
    exact absurd present List.not_mem_nil

end Claim

end O7Formal.Judge
