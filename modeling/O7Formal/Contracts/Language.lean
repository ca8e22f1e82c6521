import O7Formal.Contracts.Completeness

/-! The language of the scan: `run` admits exactly the texts of JSON objects that keep the
depth, array, string and null rules, and refuses every other JSON value within the depth
bound as not an object. -/

namespace O7Formal.Contracts.Scanner

open Fallible Utf8 Json

structure Admissible (v : Value) : Prop where
  depth : ∀ depth part, Occurs v depth part → depth ≤ maxJsonDepth
  arrays : ∀ depth elements, Occurs v depth (.array elements) → elements.length ≤ maxArrayLen
  strings : ∀ depth items, Occurs v depth (.string items) → decodedLength items ≤ maxStringBytes
  noNull : ∀ depth, ¬ Occurs v depth .null

theorem admissible_iff {v : Value} : Admissible v ↔ Fits .admission 0 v := by
  constructor
  · intro rules depth part occurs
    refine ⟨by rw [Nat.zero_add]; exact rules.depth depth part occurs, fun _ => ?_⟩
    cases part with
    | null => exact rules.noNull depth occurs
    | string items => exact rules.strings depth items occurs
    | array elements => exact rules.arrays depth elements occurs
    | bool b => trivial
    | number literal => trivial
    | object members => trivial
  · intro fits
    constructor
    · intro depth part occurs
      have room := (fits depth part occurs).1
      omega
    · intro depth elements occurs
      exact (fits depth _ occurs).2 rfl
    · intro depth items occurs
      exact (fits depth _ occurs).2 rfl
    · intro depth occurs
      exact (fits depth _ occurs).2 rfl

theorem new_valid (text : String) : Valid (new text) := ⟨text.toList, rfl⟩

theorem text_of_reads {text : String} {consumed : List Char} {s : Scanner}
    (reads : Reads (new text) consumed s) (done : s.rest = []) : text.toList = consumed := by
  have held : utf8 text.toList = utf8 consumed ++ s.rest := reads.rest
  rcases utf8_split held with ⟨after, split, rest⟩
  have nothing : after = [] := by
    rw [← utf8_eq_nil_iff, ← rest, done]
  rw [split, nothing, List.append_nil]

theorem value_to_end {s : Scanner} {v : Value} {text after : List Char} (isAfter : Blank after)
    (outermost : s.stack = []) (spelled : Spells v text) (fits : Fits s.mode 0 v)
    (held : s.rest = utf8 (text ++ after)) :
    ∃ t, s.value maxValueCalls = .ok t ∧ t.skipWhitespace.rest = [] := by
  have front : s.rest = utf8 ([] ++ text) ++ (utf8 after ++ []) := by
    rw [held, utf8_append, List.append_nil]
    rfl
  have ends := ends_blank isAfter (ends_nil extendsNumber)
  have inside : Fits s.mode s.stack.length v := by rwa [outermost]
  rcases value_complete maxValueCalls (by rw [outermost]; decide) blank_nil spelled inside front
      ends
    with ⟨t, ran, reads⟩
  have rest := reads.rest_eq front
  exact ⟨t, ran, (skipWhitespace_exact isAfter (ends_nil _) rest).rest_eq rest⟩

theorem document_start {text : String} {v : Value} (document : Document v text.toList) :
    ∃ spelled after, Spells v spelled ∧ Blank after ∧
      (new text).skipWhitespace.rest = utf8 (spelled ++ after) ∧
      (new text).skipWhitespace.stack = [] ∧ (new text).skipWhitespace.mode = .admission ∧
      ((new text).skipWhitespace.peek = some '{'.toUInt8 ↔ v.isObject = true) := by
  rcases document with ⟨before, spelled, after, isBefore, isSpelled, isAfter, split⟩
  rcases isSpelled.lead with ⟨c, later, same, starts⟩
  rcases startsValue_facts starts with ⟨low, nonblank, _⟩
  have held : (new text).rest = utf8 before ++ utf8 (spelled ++ after) := by
    rw [← utf8_append, ← split]
    rfl
  have front : Ends isWhitespace (utf8 (spelled ++ after)) := by
    rw [same, List.cons_append, utf8_cons_ascii low]
    exact nonblank
  have skipped := skipWhitespace_exact isBefore front held
  have rest := skipped.rest_eq held
  refine ⟨spelled, after, isSpelled, isAfter, rest, skipped.stack, skipped.mode, ?_⟩
  rw [← isSpelled.brace_iff, peek, rest, head_utf8_iff (by decide), same]
  rfl

theorem run_sound {text : String} (ran : (new text).run = .ok ()) :
    ∃ v, Document v text.toList ∧ v.isObject = true ∧ Admissible v := by
  rcases skipWhitespace_reads (new text) with ⟨before, isBefore, skipped⟩
  unfold run at ran
  dsimp only at ran
  split at ran
  · rcases bind_ok_iff.mp ran with ⟨t, _, ended⟩
    split at ended <;> cases ended
  · rename_i brace
    rcases bind_ok_iff.mp ran with ⟨t, ranValue, ended⟩
    have valid := skipped.valid (new_valid text)
    rcases value_sound maxValueCalls valid ranValue with
      ⟨v, blank, spelled, isBlank, isSpelled, fits, reads⟩
    rcases skipWhitespace_reads t with ⟨after, isAfter, skippedAfter⟩
    split at ended
    · cases ended
    · rename_i done
      have all := text_of_reads (skipped.trans (reads.trans skippedAfter)) (not_not.mp done)
      have document : Document v text.toList := by
        refine ⟨before ++ blank, spelled, after, isBefore.append isBlank, isSpelled, isAfter, ?_⟩
        rw [all]
        simp only [List.append_assoc]
      rcases document_start document with ⟨_, _, _, _, _, stack, mode, object⟩
      rw [mode, stack] at fits
      exact ⟨v, document, object.mp (not_not.mp brace), admissible_iff.mpr fits⟩

theorem run_complete {text : String} {v : Value} (document : Document v text.toList)
    (object : v.isObject = true) (admissible : Admissible v) : (new text).run = .ok () := by
  rcases document_start document with
    ⟨spelled, after, isSpelled, isAfter, rest, stack, mode, brace⟩
  have fits : Fits (new text).skipWhitespace.mode 0 v := by
    rw [mode]
    exact admissible_iff.mp admissible
  rcases value_to_end isAfter stack isSpelled fits rest with ⟨t, ran, done⟩
  have found := brace.mpr object
  unfold run
  dsimp only
  rw [if_neg (not_not.mpr found), bind_ok_iff]
  exact ⟨t, ran, if_neg (not_not.mpr done)⟩

theorem run_not_object {text : String} {v : Value} (document : Document v text.toList)
    (other : v.isObject = false)
    (within : ∀ depth part, Occurs v depth part → depth ≤ maxJsonDepth) :
    (new text).run = .error (.refused .notAnObject) := by
  rcases document_start document with
    ⟨spelled, after, isSpelled, isAfter, rest, stack, mode, brace⟩
  have fits : Fits .probe 0 v := by
    intro depth part occurs
    exact ⟨by rw [Nat.zero_add]; exact within depth part occurs, fun admits => by cases admits⟩
  have found : (new text).skipWhitespace.peek ≠ some '{'.toUInt8 := by
    rw [ne_eq, brace, other]
    decide
  rcases value_to_end (s := { (new text).skipWhitespace with mode := .probe })
    isAfter stack isSpelled fits rest with ⟨t, ran, done⟩
  unfold run
  dsimp only
  rw [if_pos found, ran, bind_error_iff]
  exact .inr ⟨t, rfl, if_neg (not_not.mpr done)⟩

/-- The scan admits exactly the texts of admissible JSON objects, and refuses every other
JSON value within the depth bound as not an object. -/
theorem run_language (text : String) :
    ((new text).run = .ok () ↔
      ∃ v, Document v text.toList ∧ v.isObject = true ∧ Admissible v) ∧
    ∀ v, Document v text.toList → v.isObject = false →
      (∀ depth part, Occurs v depth part → depth ≤ maxJsonDepth) →
      (new text).run = .error (.refused .notAnObject) := by
  refine ⟨⟨run_sound, ?_⟩, ?_⟩
  · intro admitted
    rcases admitted with ⟨v, document, object, admissible⟩
    exact run_complete document object admissible
  · intro v document other within
    exact run_not_object document other within

-- A lone surrogate and a number of any magnitude are structure like any other.
example : (new "\x7b\"k\": [\"\\ud800\", -1e400]\x7d").run = .ok () := by decide +kernel

end O7Formal.Contracts.Scanner
