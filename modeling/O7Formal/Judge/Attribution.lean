import O7Formal.Judge.Overlay
import Mathlib.Data.List.Nodup

/-! Which answer a verdict comes from, and what the order of arrival can change. -/

namespace O7Formal.Judge

open ByteCodec Collect Utf8 WorkPool

section Enrolling

variable {sha1 : List UInt8 → List UInt8} {findings : List Finding} {reps : List Rep}

structure Enrolled (sha1 : List UInt8 → List UInt8) (findings : List Finding) (reps : List Rep) :
    Prop where
  distinct : (reps.map Rep.id).Nodup
  drawn : ∀ rep ∈ reps, ∃ f ∈ findings, f.id sha1 = rep.id ∧ f.path = rep.path

theorem Enrolled.later (enrolled : Enrolled sha1 findings reps) (f : Finding) :
    Enrolled sha1 (findings ++ [f]) (enroll sha1 reps f) := by
  have kept : ∀ rep ∈ reps, ∃ g ∈ findings ++ [f], g.id sha1 = rep.id ∧ g.path = rep.path := by
    intro rep member
    obtain ⟨g, known, same⟩ := enrolled.drawn rep member
    exact ⟨g, List.mem_append_left _ known, same⟩
  simp only [enroll]
  split
  case isTrue seen =>
    constructor
    · rw [List.map_map]
      have ids : (Rep.id ∘ fun rep : Rep =>
          if rep.id = f.id sha1 then { rep with lines := rep.lines ++ [f.line] } else rep) =
          Rep.id := by
        funext rep
        simp only [Function.comp_apply]
        split <;> rfl
      rw [ids]
      exact enrolled.distinct
    · intro rep member
      obtain ⟨old, present, rfl⟩ := List.mem_map.mp member
      obtain ⟨g, known, same⟩ := kept old present
      refine ⟨g, known, ?_⟩
      split <;> exact same
  case isFalse fresh =>
    constructor
    · rw [List.map_append, List.map_singleton]
      refine List.nodup_append.mpr ⟨enrolled.distinct, List.nodup_singleton _, ?_⟩
      intro id old other new
      rw [List.mem_singleton.mp new]
      intro same
      obtain ⟨rep, member, rfl⟩ := List.mem_map.mp old
      exact fresh (List.any_eq_true.mpr ⟨rep, member, decide_eq_true same⟩)
    · intro rep member
      rcases List.mem_append.mp member with old | new
      · exact kept rep old
      · rw [List.mem_singleton.mp new]
        exact ⟨f, List.mem_append_right _ (List.mem_singleton_self f), rfl, rfl⟩

theorem enrolled_foldl (later : List Finding) (enrolled : Enrolled sha1 findings reps) :
    Enrolled sha1 (findings ++ later) (later.foldl (enroll sha1) reps) := by
  induction later generalizing findings reps with
  | nil => simpa using enrolled
  | cons f later ih =>
      rw [List.append_cons]
      exact ih (enrolled.later f)

theorem enrolled_dedupe (sha1 : List UInt8 → List UInt8) (a : JudgeArgs) (findings : List Finding) :
    Enrolled sha1 (selected a findings) (dedupe sha1 a findings) :=
  have nothing : Enrolled sha1 [] [] :=
    ⟨List.nodup_nil, fun _ member => absurd member List.not_mem_nil⟩
  enrolled_foldl (selected a findings) nothing

theorem Enrolled.rep_eq (enrolled : Enrolled sha1 findings reps) {rep other : Rep}
    (one : rep ∈ reps) (two : other ∈ reps) (same : rep.id = other.id) : rep = other :=
  List.inj_on_of_nodup_map enrolled.distinct one two same

end Enrolling

section Keys

variable {sha1 : List UInt8 → List UInt8} {findings : List Finding} {reps : List Rep} {key : Key}

theorem rep_of_keyToId {id : List Char} (found : keyToId reps key = some id) :
    ∃ rep ∈ reps, rep.key = key ∧ rep.id = id := by
  obtain ⟨rep, first, rfl⟩ := Option.map_eq_some_iff.mp found
  have holds := List.find?_some first
  exact ⟨rep, List.mem_reverse.mp (List.mem_of_find?_eq_some first), of_decide_eq_true holds, rfl⟩

theorem keyToId_isSome : (keyToId reps key).isSome ↔ ∃ rep ∈ reps, rep.key = key := by
  rw [keyToId, Option.isSome_map, List.find?_isSome]
  simp

theorem Enrolled.key_inj (enrolled : Enrolled sha1 findings reps) {other : Key} {id : List Char}
    (one : keyToId reps key = some id) (two : keyToId reps other = some id) : key = other := by
  obtain ⟨rep, member, rfl, rfl⟩ := rep_of_keyToId one
  obtain ⟨rep', member', rfl, same⟩ := rep_of_keyToId two
  rw [enrolled.rep_eq member' member same]

end Keys

section Recording

variable {ν : Type} (reps : List Rep)

def recorded (paired : List Char × RawVerdict ν) : Option (List Char × VerdictOut ν) :=
  (normalizedClass paired.2.class_).map fun class_ =>
    (paired.1, verdictOut reps paired.1 paired.2 class_)

def Malformed (rv : RawVerdict ν) : Prop := normalizedClass rv.class_ = none

instance (rv : RawVerdict ν) : Decidable (Malformed rv) :=
  inferInstanceAs (Decidable (normalizedClass rv.class_ = none))

variable {reps}

theorem record_eq (out : FileResult ν) (paired : List Char × RawVerdict ν) :
    out.record reps paired =
      { out with
        verdicts := out.verdicts ++ (recorded reps paired).toList
        classes := out.classes ++ (normalizedClass paired.2.class_).toList
        findingsMalformed := out.findingsMalformed + if Malformed paired.2 then 1 else 0 } := by
  cases valid : normalizedClass paired.2.class_ <;>
    simp [FileResult.record, recorded, Malformed, valid]

theorem foldl_record (paired : List (List Char × RawVerdict ν)) (out : FileResult ν) :
    paired.foldl (FileResult.record reps) out =
      { out with
        verdicts := out.verdicts ++ paired.filterMap (recorded reps)
        classes := out.classes ++ paired.filterMap fun p => normalizedClass p.2.class_
        findingsMalformed :=
          out.findingsMalformed + paired.countP fun p => decide (Malformed p.2) } := by
  induction paired generalizing out with
  | nil => simp
  | cons head paired ih =>
      rw [List.foldl_cons, ih, record_eq]
      simp only [List.filterMap_cons, List.countP_cons, List.append_assoc]
      congr 1
      · cases recorded reps head <;> simp
      · cases normalizedClass head.2.class_ <;> simp
      · simp only [decide_eq_true_eq]
        omega

def pairs (reps : List Rep) (file : List Char) (attempt : Attempt ν) :
    List (List Char × RawVerdict ν) :=
  match attempt.raws with
  | some raws => (pairVerdicts raws (byFile reps file) (keyToId reps)).1
  | none => []

theorem verdicts_judgeOneFile (file : List Char) (attempt : Attempt ν) :
    (judgeOneFile reps file attempt).verdicts =
      (pairs reps file attempt).filterMap (recorded reps) := by
  cases attempt with
  | failed => rfl
  | unparsed sessionId cost => rfl
  | answered sessionId cost raws =>
      rw [judgeOneFile, foldl_record]
      rfl

theorem classes_judgeOneFile (file : List Char) (attempt : Attempt ν) :
    (judgeOneFile reps file attempt).classes =
      (judgeOneFile reps file attempt).verdicts.map fun entry => entry.2.class_ := by
  cases attempt with
  | failed => rfl
  | unparsed sessionId cost => rfl
  | answered sessionId cost raws =>
      rw [judgeOneFile, foldl_record]
      simp only [List.nil_append, List.map_filterMap]
      refine congrArg (fun f => List.filterMap f _) (funext fun p => ?_)
      simp [recorded, verdictOut, Function.comp_def]

end Recording

section Naming

variable {ν : Type} {sha1 : List UInt8 → List UInt8} {findings : List Finding} {reps : List Rep}
variable {file : List Char} {attempt : Attempt ν} {raws : List (RawVerdict ν)}

def RawVerdict.claims (reps : List Rep) (rv : RawVerdict ν) : Option Key :=
  if Malformed rv then none
  else rv.echo.bind fun key => if reps.any fun rep => rep.key = key then some key else none

def claimed (reps : List Rep) (raws : List (RawVerdict ν)) : List Key :=
  raws.filterMap (RawVerdict.claims reps)

def recordedIds (reps : List Rep) (file : List Char) (attempt : Attempt ν) : List (List Char) :=
  (judgeOneFile reps file attempt).verdicts.map Prod.fst

theorem known_of_claims {rv : RawVerdict ν} {key : Key} (claims : rv.claims reps = some key) :
    ∃ rep ∈ reps, rep.key = key := by
  simp only [RawVerdict.claims] at claims
  split at claims
  · cases claims
  · obtain ⟨echoed, _, named⟩ := Option.bind_eq_some_iff.mp claims
    split at named
    case isTrue held =>
      obtain rfl := Option.some.inj named
      obtain ⟨rep, known, same⟩ := List.any_eq_true.mp held
      exact ⟨rep, known, of_decide_eq_true same⟩
    case isFalse => cases named

theorem ids_recorded_sublist (paired : List (List Char × RawVerdict ν)) :
    ((paired.filterMap (recorded reps)).map Prod.fst).Sublist (paired.map Prod.fst) := by
  induction paired with
  | nil => exact List.Sublist.refl []
  | cons head paired ih =>
      cases valid : normalizedClass head.2.class_ with
      | none => simpa [List.filterMap_cons, recorded, valid] using ih.cons head.1
      | some class_ => simpa [List.filterMap_cons, recorded, valid] using ih.cons_cons head.1

theorem pairs_by_position (answered : attempt.raws = some raws)
    (counts : raws.length = (byFile reps file).length) :
    (pairs reps file attempt).map Prod.fst = (byFile reps file).map Rep.id := by
  rw [pairs, answered]
  simp only [pairVerdicts, counts, if_true, List.map_map]
  have second : (raws.zip (byFile reps file)).map Prod.snd = byFile reps file :=
    List.map_snd_zip counts.ge
  rw [← congrArg (List.map Rep.id) second, List.map_map]
  rfl

theorem recordedIds_by_position (answered : attempt.raws = some raws)
    (counts : raws.length = (byFile reps file).length) :
    (recordedIds reps file attempt).Sublist ((byFile reps file).map Rep.id) := by
  rw [recordedIds, verdicts_judgeOneFile, ← pairs_by_position answered counts]
  exact ids_recorded_sublist _

theorem recordedIds_by_key (answered : attempt.raws = some raws)
    (counts : raws.length ≠ (byFile reps file).length) :
    recordedIds reps file attempt = (claimed reps raws).filterMap (keyToId reps) := by
  rw [recordedIds, verdicts_judgeOneFile, pairs, answered]
  simp only [pairVerdicts, counts, if_false, claimed, List.filterMap_filterMap, List.map_filterMap]
  refine congrArg (fun f => List.filterMap f raws) (funext fun rv => ?_)
  cases valid : normalizedClass rv.class_ with
  | none =>
      cases named : rv.named (keyToId reps) <;>
        simp [RawVerdict.claims, Malformed, recorded, valid]
  | some class_ =>
      cases echoed : rv.echo with
      | none => simp [RawVerdict.claims, RawVerdict.named, Malformed, valid, echoed]
      | some key =>
          cases held : keyToId reps key with
          | some id =>
              have known := keyToId_isSome.mp (Option.isSome_of_eq_some held)
              simp [RawVerdict.claims, RawVerdict.named, Malformed, recorded, valid, echoed, held,
                known]
          | none =>
              have unknown : ¬ ∃ rep ∈ reps, rep.key = key := fun known => by
                have holds := keyToId_isSome.mpr known
                rw [held] at holds
                cases holds
              simp [RawVerdict.claims, RawVerdict.named, Malformed, recorded, valid, echoed, held,
                unknown]

theorem rep_of_recordedIds {id : List Char} (member : id ∈ recordedIds reps file attempt) :
    ∃ rep ∈ reps, rep.id = id := by
  cases answered : attempt.raws with
  | none =>
      rw [recordedIds, verdicts_judgeOneFile, pairs, answered] at member
      exact absurd member List.not_mem_nil
  | some raws =>
      by_cases counts : raws.length = (byFile reps file).length
      · have placed := (recordedIds_by_position answered counts).subset member
        obtain ⟨rep, mine, same⟩ := List.mem_map.mp placed
        exact ⟨rep, (List.mem_filter.mp mine).1, same⟩
      · rw [recordedIds_by_key answered counts] at member
        obtain ⟨key, _, held⟩ := List.mem_filterMap.mp member
        obtain ⟨rep, known, _, same⟩ := rep_of_keyToId held
        exact ⟨rep, known, same⟩

end Naming

section Answers

variable {ν : Type} {sha1 : List UInt8 → List UInt8} {findings : List Finding} {reps : List Rep}
variable {file : List Char} {attempt : Attempt ν} {raws : List (RawVerdict ν)}

def CollisionFree (sha1 : List UInt8 → List UInt8) (findings : List Finding) : Prop :=
  ∀ f ∈ findings, ∀ g ∈ findings, f.id sha1 = g.id sha1 →
    f.path = g.path ∧ f.rule = g.rule ∧ f.message = g.message

def Owns (sha1 : List UInt8 → List UInt8) (findings : List Finding) (reps : List Rep)
    (file : List Char) (attempt : Attempt ν) : Prop :=
  ∀ id ∈ recordedIds reps file attempt, ∀ f ∈ findings, f.id sha1 = id → f.path = file

/-- The findings an answer names, not being one verdict for each finding of its file, are the
file's own and named once. -/
structure Tidy (reps : List Rep) (file : List Char) (raws : List (RawVerdict ν)) : Prop where
  own : ∀ key ∈ claimed reps raws, key.path = file
  once : (claimed reps raws).Nodup

theorem Enrolled.path_eq (enrolled : Enrolled sha1 findings reps)
    (apart : CollisionFree sha1 findings) {rep : Rep} (member : rep ∈ reps) {f : Finding}
    (present : f ∈ findings) (same : f.id sha1 = rep.id) : f.path = rep.path := by
  obtain ⟨g, known, id, path⟩ := enrolled.drawn rep member
  exact (apart f present g known (same.trans id.symm)).1.trans path

theorem owns_by_position (enrolled : Enrolled sha1 findings reps)
    (apart : CollisionFree sha1 findings) (answered : attempt.raws = some raws)
    (counts : raws.length = (byFile reps file).length) : Owns sha1 findings reps file attempt := by
  intro id recorded f present same
  have placed := (recordedIds_by_position answered counts).subset recorded
  obtain ⟨rep, mine, rfl⟩ := List.mem_map.mp placed
  obtain ⟨member, path⟩ := List.mem_filter.mp mine
  exact (enrolled.path_eq apart member present same).trans (of_decide_eq_true path)

theorem owns_by_key_iff (enrolled : Enrolled sha1 findings reps)
    (apart : CollisionFree sha1 findings) (answered : attempt.raws = some raws)
    (counts : raws.length ≠ (byFile reps file).length) :
    Owns sha1 findings reps file attempt ↔ ∀ key ∈ claimed reps raws, key.path = file := by
  have ids := recordedIds_by_key answered counts
  constructor
  · intro owns key named
    obtain ⟨rv, _, claims⟩ := List.mem_filterMap.mp named
    obtain ⟨id, held⟩ := Option.isSome_iff_exists.mp (keyToId_isSome.mpr (known_of_claims claims))
    obtain ⟨rep, member, rfl, rfl⟩ := rep_of_keyToId held
    obtain ⟨f, present, id, path⟩ := enrolled.drawn rep member
    have recorded : rep.id ∈ recordedIds reps file attempt := by
      rw [ids]
      exact List.mem_filterMap.mpr ⟨rep.key, named, held⟩
    exact path.symm.trans (owns rep.id recorded f present id)
  · intro own id recorded f present same
    rw [ids] at recorded
    obtain ⟨key, named, held⟩ := List.mem_filterMap.mp recorded
    obtain ⟨rep, member, rfl, rfl⟩ := rep_of_keyToId held
    exact (enrolled.path_eq apart member present same).trans (own rep.key named)

theorem nodup_by_position (enrolled : Enrolled sha1 findings reps)
    (answered : attempt.raws = some raws) (counts : raws.length = (byFile reps file).length) :
    (recordedIds reps file attempt).Nodup := by
  have mine : ((byFile reps file).map Rep.id).Nodup :=
    enrolled.distinct.sublist (List.filter_sublist.map Rep.id)
  exact mine.sublist (recordedIds_by_position answered counts)

theorem nodup_by_key_iff (enrolled : Enrolled sha1 findings reps)
    (answered : attempt.raws = some raws) (counts : raws.length ≠ (byFile reps file).length) :
    (recordedIds reps file attempt).Nodup ↔ (claimed reps raws).Nodup := by
  rw [recordedIds_by_key answered counts, List.Nodup, List.pairwise_filterMap]
  constructor
  · intro distinct
    refine distinct.imp_of_mem ?_
    intro key other named _ differ same
    obtain ⟨rv, _, claims⟩ := List.mem_filterMap.mp named
    obtain ⟨id, held⟩ := Option.isSome_iff_exists.mp (keyToId_isSome.mpr (known_of_claims claims))
    exact differ id held id (same ▸ held) rfl
  · intro distinct
    refine distinct.imp ?_
    intro key other differ id held id' held' same
    exact differ (enrolled.key_inj held (same ▸ held'))

end Answers

section Attribution

variable {ν : Type} [Zero ν] [Add ν]
variable (sha1 : List UInt8 → List UInt8) (a : JudgeArgs) (findings : List Finding)
variable (attempt : List Char → Attempt ν)

def Orderly : Prop :=
  ∀ file ∈ slated (dedupe sha1 a findings) a, ∀ raws, (attempt file).raws = some raws →
    raws.length ≠ (byFile (dedupe sha1 a findings) file).length →
      Tidy (dedupe sha1 a findings) file raws

def tally (order : List Nat) : Tally ν := merged (dedupe sha1 a findings) a attempt order

def Orders (order : List Nat) : Prop :=
  ∃ jobs, Arrives jobs (slated (dedupe sha1 a findings) a).length order

/-- The overlay that a run writes is the same in every order of arrival, has for each id the verdict
of the answer to the id's own file, from one answer at most one, and its record counts it by class. -/
structure Attributed : Prop where
  steady : ∀ {order order' : List Nat},
    Orders sha1 a findings order → Orders sha1 a findings order' →
      ∀ {overlay overlay' : Overlay ν} {record record' : JudgeMeta ν},
        run sha1 a findings attempt order = .judged overlay record →
          run sha1 a findings attempt order' = .judged overlay' record' →
            overlay.verdicts = overlay'.verdicts ∧ record.byClass = record'.byClass
  placed : ∀ {order : List Nat}, Orders sha1 a findings order →
    ∀ {overlay : Overlay ν} {record : JudgeMeta ν},
      run sha1 a findings attempt order = .judged overlay record →
        ∀ id verdict, overlay.verdicts.lookup id = some verdict →
          ∃ file ∈ slated (dedupe sha1 a findings) a,
            (id, verdict) ∈ (judgeOneFile (dedupe sha1 a findings) file (attempt file)).verdicts ∧
              ∀ f ∈ selected a findings, f.id sha1 = id → f.path = file
  owned : ∀ file ∈ slated (dedupe sha1 a findings) a,
    Owns sha1 (selected a findings) (dedupe sha1 a findings) file (attempt file)
  single : ∀ file ∈ slated (dedupe sha1 a findings) a,
    (recordedIds (dedupe sha1 a findings) file (attempt file)).Nodup
  counted : ∀ {order : List Nat}, Orders sha1 a findings order →
    ∀ {overlay : Overlay ν} {record : JudgeMeta ν},
      run sha1 a findings attempt order = .judged overlay record →
        total record.byClass = overlay.verdicts.keys.card

end Attribution

section Merging

theorem nodup_eraseDups {α : Type} [BEq α] [LawfulBEq α] (l : List α) : l.eraseDups.Nodup := by
  match l with
  | [] => exact List.nodup_nil
  | head :: tail =>
      rw [List.eraseDups_cons]
      refine List.nodup_cons.mpr ⟨?_, nodup_eraseDups _⟩
      simp [List.mem_eraseDups]
termination_by l.length
decreasing_by exact Nat.lt_succ_of_le (List.length_filter_le _ tail)

theorem nodup_slated (reps : List Rep) (a : JudgeArgs) : (slated reps a).Nodup := by
  have distinct := nodup_eraseDups (reps.map Rep.path)
  simp only [slated]
  split
  · exact distinct.sublist (List.take_sublist _ _)
  · exact distinct

variable {ν : Type}

theorem verdicts_foldl_merge [Add ν] (results : List (FileResult ν)) (t : Tally ν) :
    (results.foldl Tally.merge t).verdicts =
      (results.flatMap FileResult.verdicts).foldl put t.verdicts := by
  induction results generalizing t with
  | nil => rfl
  | cons res results ih =>
      rw [List.foldl_cons, ih, List.flatMap_cons, List.foldl_append]
      rfl

theorem byClass_foldl_merge [Add ν] (results : List (FileResult ν)) (t : Tally ν) :
    (results.foldl Tally.merge t).byClass =
      (results.flatMap FileResult.classes).foldl bump t.byClass := by
  induction results generalizing t with
  | nil => rfl
  | cons res results ih =>
      rw [List.foldl_cons, ih, List.flatMap_cons, List.foldl_append]
      rfl

theorem filterMap_range {α β : Type} (f : α → β) (l : List α) :
    (List.range l.length).filterMap (fun i => l[i]?.map f) = l.map f := by
  induction l with
  | nil => rfl
  | cons head tail ih =>
      rw [List.length_cons, List.range_succ_eq_map, List.filterMap_cons, List.filterMap_map]
      simpa [Function.comp_def] using ih

variable {sha1 : List UInt8 → List UInt8} {a : JudgeArgs} {findings : List Finding}
variable {attempt : List Char → Attempt ν} {order : List Nat}

theorem Orders.perm (orders : Orders sha1 a findings order) :
    order.Perm (List.range (slated (dedupe sha1 a findings) a).length) := by
  obtain ⟨jobs, arrives⟩ := orders
  refine Delivers.perm ?_ arrives
  simp only [workers]
  omega

variable (sha1 a findings attempt) in
def results : List (FileResult ν) :=
  (slated (dedupe sha1 a findings) a).map fun file =>
    judgeOneFile (dedupe sha1 a findings) file (attempt file)

variable (sha1 a findings attempt order) in
def arrived : List (FileResult ν) :=
  order.filterMap fun i => (slated (dedupe sha1 a findings) a)[i]?.map fun file =>
    judgeOneFile (dedupe sha1 a findings) file (attempt file)

theorem Orders.arrived_perm (orders : Orders sha1 a findings order) :
    (arrived sha1 a findings attempt order).Perm (results sha1 a findings attempt) := by
  have all := orders.perm.filterMap fun i => (slated (dedupe sha1 a findings) a)[i]?.map fun file =>
    judgeOneFile (dedupe sha1 a findings) file (attempt file)
  rwa [filterMap_range] at all

theorem verdicts_tally [Zero ν] [Add ν] :
    (tally sha1 a findings attempt order).verdicts =
      collect ((arrived sha1 a findings attempt order).flatMap FileResult.verdicts) :=
  verdicts_foldl_merge _ Tally.empty

theorem byClass_tally [Zero ν] [Add ν] :
    (tally sha1 a findings attempt order).byClass =
      counts ((arrived sha1 a findings attempt order).flatMap FileResult.classes) :=
  byClass_foldl_merge _ Tally.empty

theorem run_tally [Zero ν] [Add ν] {overlay : Overlay ν} {record : JudgeMeta ν}
    (judged : run sha1 a findings attempt order = .judged overlay record) :
    overlay.verdicts = (tally sha1 a findings attempt order).verdicts ∧
      record.byClass = (tally sha1 a findings attempt order).byClass := by
  simp only [run] at judged
  split at judged
  · cases judged
  · split at judged
    · cases judged
    · cases judged
      exact ⟨rfl, rfl⟩

theorem classes_results :
    (arrived sha1 a findings attempt order).flatMap FileResult.classes =
      ((arrived sha1 a findings attempt order).flatMap FileResult.verdicts).map
        fun entry => entry.2.class_ := by
  rw [List.map_flatMap]
  refine List.flatMap_congr fun res member => ?_
  obtain ⟨i, _, here⟩ := List.mem_filterMap.mp member
  obtain ⟨file, _, rfl⟩ := Option.map_eq_some_iff.mp here
  exact classes_judgeOneFile file (attempt file)

theorem nodup_results
    (owned : ∀ file ∈ slated (dedupe sha1 a findings) a,
      Owns sha1 (selected a findings) (dedupe sha1 a findings) file (attempt file))
    (single : ∀ file ∈ slated (dedupe sha1 a findings) a,
      (recordedIds (dedupe sha1 a findings) file (attempt file)).Nodup) :
    (((results sha1 a findings attempt).flatMap FileResult.verdicts).map Prod.fst).Nodup := by
  rw [List.map_flatMap, results, List.flatMap_map]
  refine List.nodup_flatMap.mpr ⟨single, ?_⟩
  refine (nodup_slated _ a).pairwise_of_forall_ne fun file here other there apart => ?_
  intro id mine theirs
  obtain ⟨rep, member, rfl⟩ := rep_of_recordedIds mine
  obtain ⟨f, present, same, _⟩ := (enrolled_dedupe sha1 a findings).drawn rep member
  exact apart ((owned file here _ mine f present same).symm.trans
    (owned other there _ theirs f present same))

end Merging

section Claim

variable {ν : Type} [Zero ν] [Add ν]
variable {sha1 : List UInt8 → List UInt8} {a : JudgeArgs} {findings : List Finding}
variable {attempt : List Char → Attempt ν}

theorem Orderly.attributed (orderly : Orderly sha1 a findings attempt)
    (apart : CollisionFree sha1 (selected a findings)) : Attributed sha1 a findings attempt := by
  have enrolled := enrolled_dedupe sha1 a findings
  have owned : ∀ file ∈ slated (dedupe sha1 a findings) a,
      Owns sha1 (selected a findings) (dedupe sha1 a findings) file (attempt file) := by
    intro file here
    cases answered : (attempt file).raws with
    | none =>
        intro id recorded
        rw [recordedIds, verdicts_judgeOneFile, pairs, answered] at recorded
        exact absurd recorded List.not_mem_nil
    | some raws =>
        by_cases counts : raws.length = (byFile (dedupe sha1 a findings) file).length
        · exact owns_by_position enrolled apart answered counts
        · exact (owns_by_key_iff enrolled apart answered counts).mpr
            (orderly file here raws answered counts).own
  have single : ∀ file ∈ slated (dedupe sha1 a findings) a,
      (recordedIds (dedupe sha1 a findings) file (attempt file)).Nodup := by
    intro file here
    cases answered : (attempt file).raws with
    | none =>
        rw [recordedIds, verdicts_judgeOneFile, pairs, answered]
        exact List.nodup_nil
    | some raws =>
        by_cases counts : raws.length = (byFile (dedupe sha1 a findings) file).length
        · exact nodup_by_position enrolled answered counts
        · exact (nodup_by_key_iff enrolled answered counts).mpr
            (orderly file here raws answered counts).once
  have distinct := nodup_results owned single
  have arrives : ∀ {order : List Nat}, Orders sha1 a findings order →
      ((arrived sha1 a findings attempt order).flatMap FileResult.verdicts).Perm
        ((results sha1 a findings attempt).flatMap FileResult.verdicts) :=
    fun orders => orders.arrived_perm.flatMap_right _
  have apartOf : ∀ {order : List Nat}, Orders sha1 a findings order →
      (((arrived sha1 a findings attempt order).flatMap FileResult.verdicts).map
        Prod.fst).Nodup :=
    fun orders => ((arrives orders).map Prod.fst).nodup_iff.mpr distinct
  refine ⟨?_, ?_, owned, single, ?_⟩
  · intro order order' orders orders' overlay overlay' record record' judged judged'
    rw [(run_tally judged).1, (run_tally judged').1, (run_tally judged).2, (run_tally judged').2]
    have same := (arrives orders).trans (arrives orders').symm
    rw [verdicts_tally, verdicts_tally, byClass_tally, byClass_tally, classes_results,
      classes_results]
    exact ⟨collect_perm same (apartOf orders), counts_perm (same.map _)⟩
  · intro order orders overlay record judged id verdict found
    rw [(run_tally judged).1, verdicts_tally] at found
    have arrived := (arrives orders).subset (mem_of_lookup_collect found)
    rw [results, List.flatMap_map] at arrived
    obtain ⟨file, here, member⟩ := List.mem_flatMap.mp arrived
    refine ⟨file, here, member, ?_⟩
    intro f present same
    exact owned file here id (List.mem_map_of_mem member) f present same
  · intro order orders overlay record judged
    rw [(run_tally judged).1, (run_tally judged).2, verdicts_tally, byClass_tally, classes_results,
      total_counts, List.length_map, card_collect (apartOf orders)]

theorem Attributed.orderly (attributed : Attributed sha1 a findings attempt)
    (apart : CollisionFree sha1 (selected a findings)) : Orderly sha1 a findings attempt := by
  have enrolled := enrolled_dedupe sha1 a findings
  intro file here raws answered counts
  exact ⟨(owns_by_key_iff enrolled apart answered counts).mp (attributed.owned file here),
    (nodup_by_key_iff enrolled answered counts).mp (attributed.single file here)⟩

theorem attributed_iff (apart : CollisionFree sha1 (selected a findings)) :
    Attributed sha1 a findings attempt ↔ Orderly sha1 a findings attempt :=
  ⟨fun attributed => attributed.orderly apart, fun orderly => orderly.attributed apart⟩

end Claim

section Sample

def sampleFindings : List Finding :=
  [⟨[], "a.cs".toList, 3, "OWN001".toList, [], "leak".toList⟩,
    ⟨[], "b.cs".toList, 5, "OWN001".toList, [], "leak".toList⟩]

def sampleSha1 (bytes : List UInt8) : List UInt8 :=
  if bytes = utf8 "a.cs\x1fOWN001\x1fleak".toList then
    [91, 96, 168, 115, 59, 43, 48, 143, 120, 25, 76, 74, 41, 173, 113, 130, 219, 30, 9, 81]
  else if bytes = utf8 "b.cs\x1fOWN001\x1fleak".toList then
    [178, 135, 197, 120, 29, 140, 33, 246, 90, 189, 231, 80, 235, 33, 223, 107, 143, 129, 239, 191]
  else []

def sampleArgs : JudgeArgs := ⟨none, 0, 4, false⟩

def sampleVerdict (path : String) (line : Int) : RawVerdict Nat :=
  ⟨some path.toList, some line, some "OWN001".toList, "real".toList, 1, [], []⟩

/-- The answer to `a.cs` has a second verdict, which echoes nothing. -/
def keyedAnswers (file : List Char) : Attempt Nat :=
  .answered none none (if file = "a.cs".toList then
    [sampleVerdict "a.cs" 3, ⟨none, none, none, "real".toList, 1, [], []⟩]
  else [sampleVerdict "b.cs" 5])

/-- The answer to `a.cs` judges `b.cs` as well. -/
def strayAnswers (file : List Char) : Attempt Nat :=
  .answered none none (if file = "a.cs".toList then
    [sampleVerdict "a.cs" 3, sampleVerdict "b.cs" 5] else [sampleVerdict "b.cs" 5])

theorem collisionFree_sample :
    CollisionFree sampleSha1 (selected sampleArgs sampleFindings) := by
  unfold CollisionFree
  decide

theorem one_finding_sample :
    ∀ file ∈ slated (dedupe sampleSha1 sampleArgs sampleFindings) sampleArgs,
      (byFile (dedupe sampleSha1 sampleArgs sampleFindings) file).length = 1 := by decide

theorem slated_sample : ∀ file ∈ slated (dedupe sampleSha1 sampleArgs sampleFindings) sampleArgs,
    file = "a.cs".toList ∨ file = "b.cs".toList := by decide

theorem attributed_iff_keyed : Attributed sampleSha1 sampleArgs sampleFindings keyedAnswers := by
  refine (attributed_iff collisionFree_sample).mpr ?_
  intro file here raws answered counts
  obtain rfl | rfl := slated_sample file here
  · obtain rfl := Option.some.inj answered
    exact ⟨by decide, by decide⟩
  · obtain rfl := Option.some.inj answered
    exact absurd (by decide) counts

theorem attributed_stray :
    CollisionFree sampleSha1 (selected sampleArgs sampleFindings) ∧
      ¬ Attributed sampleSha1 sampleArgs sampleFindings strayAnswers := by
  refine ⟨collisionFree_sample, fun attributed => ?_⟩
  have orderly := attributed.orderly collisionFree_sample
  have first : "a.cs".toList ∈ slated (dedupe sampleSha1 sampleArgs sampleFindings) sampleArgs := by
    decide
  have tidy := orderly _ first _ rfl (by decide)
  have named : (⟨"b.cs".toList, 5, "OWN001".toList⟩ : Key) ∈
      claimed (dedupe sampleSha1 sampleArgs sampleFindings)
        [sampleVerdict "a.cs" 3, sampleVerdict "b.cs" 5] := by decide
  have path := tidy.own _ named
  revert path
  decide

end Sample

end O7Formal.Judge
