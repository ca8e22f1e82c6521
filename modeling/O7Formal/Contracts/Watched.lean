import O7Formal.Contracts.Settles
import O7Formal.Lib.Program

/-! The scan with its stack and its nested calls watched. -/

namespace O7Formal.Contracts.Scanner

open Fallible Utf8 O7Formal.Watched

inductive Event where
  | entered
  | pushed
  | popped
  deriving DecidableEq

structure Moment where
  event : Event
  /-- The calls of `value` that are open. -/
  calls : Nat
  scanner : Scanner

abbrev Watch := O7Formal.Watched Moment Halt

def leave (calls : Nat) (s : Scanner) : Watch Scanner := do
  note ⟨.popped, calls, s.pop⟩
  return s.pop

section Containers

variable (value : Scanner → Watch Scanner) (calls : Nat)

def watchObjectLoop : Nat → Scanner → Watch Scanner
  | 0, _ => ofExcept (.error .exhausted)
  | count + 1, s => do
      let s := s.skipWhitespace
      ofExcept (refuseIf (s.peek ≠ some '"'.toUInt8) s.syntaxError)
      let (_, s) ← ofExcept s.scanString
      let s := s.skipWhitespace
      ofExcept (refuseIf (s.peek ≠ some ':'.toUInt8) s.syntaxError)
      let s ← value s.bump
      let s := s.skipWhitespace
      if s.peek = some ','.toUInt8 then watchObjectLoop count s.bump
      else if s.peek = some '}'.toUInt8 then leave calls s.bump
      else ofExcept (.error s.syntaxError)

def watchObject (s : Scanner) : Watch Scanner := do
  note ⟨.pushed, calls, s.bump.push .object⟩
  let s := (s.bump.push .object).skipWhitespace
  if s.peek = some '}'.toUInt8 then leave calls s.bump
  else watchObjectLoop value calls (s.rest.length + 1) s

def watchArrayLoop : Nat → Nat → Scanner → Watch Scanner
  | 0, _, _ => ofExcept (.error .exhausted)
  | fuel + 1, before, s => do
      let count := before + 1
      ofExcept (refuseIf (count > maxArrayLen ∧ s.mode = .admission)
        (.refused (.arrayTooLong s.enclosingPath count)))
      let s ← value (s.setIndex (count - 1))
      let s := s.skipWhitespace
      if s.peek = some ','.toUInt8 then watchArrayLoop fuel count s.bump
      else if s.peek = some ']'.toUInt8 then leave calls s.bump
      else ofExcept (.error s.syntaxError)

def watchArray (s : Scanner) : Watch Scanner := do
  note ⟨.pushed, calls, s.bump.push (.array 0)⟩
  let s := (s.bump.push (.array 0)).skipWhitespace
  if s.peek = some ']'.toUInt8 then leave calls s.bump
  else watchArrayLoop value calls (s.rest.length + 1) 0 s

def watchDispatch (s : Scanner) : Watch Scanner :=
  if s.peek = some '{'.toUInt8 then watchObject value calls s
  else if s.peek = some '['.toUInt8 then watchArray value calls s
  else ofExcept (s.dispatch fun s => (value s).outcome)

end Containers

/-- `value` with so many calls open around it. -/
def watchValue : Nat → Nat → Scanner → Watch Scanner
  | 0, _, _ => ofExcept (.error .exhausted)
  | calls + 1, around, s => do
      note ⟨.entered, around + 1, s⟩
      let s := s.skipWhitespace
      if s.stack.length + 1 > maxJsonDepth then
        ofExcept (match s.mode with
          | .admission => .error (.refused (.depthExceeded s.path))
          | .probe => .error (.refused .notAnObject))
      else watchDispatch (watchValue calls (around + 1)) (around + 1) s

def watchRun (s : Scanner) : Watch Unit := do
  let s := s.skipWhitespace
  if s.peek ≠ some '{'.toUInt8 then
    let s ← watchValue maxValueCalls 0 { s with mode := .probe }
    let s := s.skipWhitespace
    ofExcept (if s.rest ≠ [] then .error s.syntaxError else .error (.refused .notAnObject))
  else
    let s ← watchValue maxValueCalls 0 s
    let s := s.skipWhitespace
    ofExcept (if s.rest ≠ [] then .error s.syntaxError else .ok ())

@[simp] theorem outcome_leave (calls : Nat) (s : Scanner) :
    (leave calls s).outcome = .ok s.pop := rfl

section Outcome

variable {watched : Scanner → Watch Scanner} {value : Scanner → Except Halt Scanner}
  (same : ∀ s, (watched s).outcome = value s) (calls : Nat)

include same

theorem outcome_objectLoop (count : Nat) (s : Scanner) :
    (watchObjectLoop watched calls count s).outcome = objectLoop value count s := by
  induction count generalizing s with
  | zero => rfl
  | succ count ih => simp only [watchObjectLoop, objectLoop, outcome_bind, outcome_ofExcept, same,
      outcome_ite, ih, outcome_leave]

theorem outcome_arrayLoop (fuel before : Nat) (s : Scanner) :
    (watchArrayLoop watched calls fuel before s).outcome = arrayLoop value fuel before s := by
  induction fuel generalizing before s with
  | zero => rfl
  | succ fuel ih => simp only [watchArrayLoop, arrayLoop, outcome_bind, outcome_ofExcept, same,
      outcome_ite, ih, outcome_leave]

theorem outcome_object (s : Scanner) : (watchObject watched calls s).outcome = s.object value := by
  simp only [watchObject, object, outcome_bind, outcome_note, outcome_ite, outcome_leave,
    outcome_objectLoop same, ok_bind]

theorem outcome_array (s : Scanner) : (watchArray watched calls s).outcome = s.array value := by
  simp only [watchArray, array, outcome_bind, outcome_note, outcome_ite, outcome_leave,
    outcome_arrayLoop same, ok_bind]

theorem outcome_dispatch (s : Scanner) :
    (watchDispatch watched calls s).outcome = s.dispatch value := by
  have plain : (fun s => (watched s).outcome) = value := funext same
  unfold watchDispatch
  split
  case isTrue brace => rw [outcome_object same, dispatch, if_pos brace]
  case isFalse brace =>
    split
    case isTrue bracket => rw [outcome_array same, dispatch, if_neg brace, if_pos bracket]
    case isFalse => rw [outcome_ofExcept, plain]

end Outcome

theorem outcome_value (calls around : Nat) (s : Scanner) :
    (watchValue calls around s).outcome = value calls s := by
  induction calls generalizing around s with
  | zero => rfl
  | succ calls ih =>
      rw [watchValue, value, outcome_bind, outcome_note, ok_bind]
      dsimp only
      split
      · rfl
      · exact outcome_dispatch (fun s => ih (around + 1) s) (around + 1) _

theorem outcome_run (s : Scanner) : (watchRun s).outcome = s.run := by
  unfold watchRun run
  dsimp only
  split <;> simp only [outcome_bind, outcome_value, outcome_ofExcept]

def Within (m : Moment) : Prop :=
  m.calls ≤ maxJsonDepth + 1 ∧ m.scanner.stack.length ≤ maxJsonDepth

def StaysWithin (around : Nat) (watched : Scanner → Watch Scanner) : Prop :=
  ∀ ⦃s : Scanner⦄, Valid s → s.stack.length = around → Throughout Within (watched s)

theorem leave_within {calls : Nat} {s : Scanner} (room : calls ≤ maxJsonDepth)
    (open_calls : s.stack.length = calls) : Throughout Within (leave calls s) := by
  rw [leave, throughout_bind_iff, throughout_note_iff]
  refine ⟨⟨Nat.le_succ_of_le room, ?_⟩, fun _ _ => throughout_pure _⟩
  rw [pop, List.length_tail]
  omega

section Containers

variable {watched : Scanner → Watch Scanner} {value : Scanner → Except Halt Scanner} {calls : Nat}
  (same : ∀ s, (watched s).outcome = value s) (sound : Sound value)
  (stays : StaysWithin calls watched) (room : calls ≤ maxJsonDepth)

include same sound stays room

theorem arrayLoop_within {fuel before : Nat} {s : Scanner} (valid : Valid s)
    (nested : s.stack.length = calls) :
    Throughout Within (watchArrayLoop watched calls fuel before s) := by
  induction fuel generalizing before s with
  | zero => exact throughout_ofExcept _
  | succ fuel ih =>
      have validIndex : Valid (s.setIndex before) := by simpa [Valid] using valid
      rw [watchArrayLoop, throughout_bind_iff]
      refine ⟨throughout_ofExcept _, fun _ _ => throughout_bind_iff.mpr ⟨?_, ?_⟩⟩
      · exact stays validIndex (by simpa using nested)
      intro t ran
      rw [same] at ran
      rcases sound validIndex ran with ⟨_, _, _, _, _, _, reads⟩
      rcases skipWhitespace_reads t with ⟨after, _, skipped⟩
      have toMark := reads.trans skipped
      have length : t.skipWhitespace.stack.length = calls := by
        rw [toMark.stack, setIndex_length, nested]
      dsimp only
      split
      · rename_i comma
        refine ih ((toMark.trans (reads_bump (by decide) comma)).valid validIndex) ?_
        rw [bump_stack, length]
      split
      · exact leave_within room (by rw [bump_stack, length])
      · exact throughout_ofExcept _

theorem objectLoop_within {fuel : Nat} {s : Scanner} (valid : Valid s)
    (nested : s.stack.length = calls) :
    Throughout Within (watchObjectLoop watched calls fuel s) := by
  induction fuel generalizing s with
  | zero => exact throughout_ofExcept _
  | succ fuel ih =>
      rcases skipWhitespace_reads s with ⟨lead, _, skippedLead⟩
      rcases skippedLead.valid valid with ⟨text, held⟩
      rw [watchObjectLoop, throughout_bind_iff]
      refine ⟨throughout_ofExcept _, fun _ quoteFound => throughout_bind_iff.mpr
        ⟨throughout_ofExcept _, ?_⟩⟩
      have quote := not_not.mp (refuseIf_ok_iff.mp quoteFound)
      intro result ranName
      rcases scanString_reads held quote ranName with ⟨name, _, readName⟩
      rcases skipWhitespace_reads result.2 with ⟨gap, _, skippedGap⟩
      refine throughout_bind_iff.mpr ⟨throughout_ofExcept _, fun _ colonFound => ?_⟩
      have colon := not_not.mp (refuseIf_ok_iff.mp colonFound)
      have toValue := (skippedLead.trans readName).trans
        (skippedGap.trans (reads_bump (by decide) colon))
      refine throughout_bind_iff.mpr ⟨?_, ?_⟩
      · exact stays (toValue.valid valid) (by rw [toValue.stack, nested])
      intro t ran
      rw [same] at ran
      rcases sound (toValue.valid valid) ran with ⟨_, _, _, _, _, _, reads⟩
      rcases skipWhitespace_reads t with ⟨after, _, skipped⟩
      have toMark := toValue.trans (reads.trans skipped)
      have length : t.skipWhitespace.stack.length = calls := by rw [toMark.stack, nested]
      dsimp only
      split
      · rename_i comma
        have toNext := toMark.trans (reads_bump (by decide) comma)
        exact ih (toNext.valid valid) (by rw [toNext.stack, nested])
      split
      · exact leave_within room (by rw [bump_stack, length])
      · exact throughout_ofExcept _

theorem dispatch_within {s : Scanner} (valid : Valid s) (nested : s.stack.length + 1 = calls) :
    Throughout Within (watchDispatch watched calls s) := by
  have body : ∀ (c : Char) (frame : Frame), IsAscii c → s.peek = some c.toUInt8 →
      Valid (s.bump.push frame).skipWhitespace ∧
        (s.bump.push frame).skipWhitespace.stack.length = calls := by
    intro c frame low next
    rcases skipWhitespace_reads (s.bump.push frame) with ⟨blank, _, skipped⟩
    have pushed : Valid (s.bump.push frame) := (reads_bump low next).valid valid
    refine ⟨skipped.valid pushed, ?_⟩
    rw [skipped.stack, push_stack, bump_stack, List.length_cons, nested]
  have pushed : ∀ frame, Within ⟨.pushed, calls, s.bump.push frame⟩ := by
    intro frame
    refine ⟨Nat.le_succ_of_le room, ?_⟩
    rw [push_stack, bump_stack, List.length_cons, nested]
    exact room
  unfold watchDispatch
  split
  case isTrue brace =>
    rcases body '{' .object (by decide) brace with ⟨validBody, length⟩
    refine throughout_bind_iff.mpr ⟨throughout_note_iff.mpr (pushed _), fun _ _ => ?_⟩
    dsimp only
    split
    · exact leave_within room (by rw [bump_stack, length])
    · exact objectLoop_within same sound stays room validBody length
  split
  case isTrue bracket =>
    rcases body '[' (.array 0) (by decide) bracket with ⟨validBody, length⟩
    refine throughout_bind_iff.mpr ⟨throughout_note_iff.mpr (pushed _), fun _ _ => ?_⟩
    dsimp only
    split
    · exact leave_within room (by rw [bump_stack, length])
    · exact arrayLoop_within same sound stays room validBody length
  · exact throughout_ofExcept _

end Containers

theorem value_within {calls around : Nat} (room : around ≤ maxJsonDepth) :
    StaysWithin around (watchValue calls around) := by
  induction calls generalizing around with
  | zero => exact fun _ _ _ => throughout_ofExcept _
  | succ calls ih =>
      intro s valid nested
      rcases skipWhitespace_reads s with ⟨blank, _, skipped⟩
      rw [watchValue, throughout_bind_iff, throughout_note_iff]
      refine ⟨⟨Nat.succ_le_succ room, nested.le.trans room⟩, fun _ _ => ?_⟩
      dsimp only
      split
      · exact throughout_ofExcept _
      · rename_i shallow
        rw [skipped.stack, nested] at shallow
        exact dispatch_within (outcome_value calls (around + 1)) (value_sound calls)
          (ih (Nat.not_lt.mp shallow)) (Nat.not_lt.mp shallow) (skipped.valid valid)
          (by rw [skipped.stack, nested])

theorem run_within (text : String) : Throughout Within (watchRun (new text)) := by
  rcases skipWhitespace_reads (new text) with ⟨blank, _, skipped⟩
  have valid := skipped.valid (new_valid text)
  have outermost : (new text).skipWhitespace.stack.length = 0 := by
    rw [skipped.stack]
    rfl
  unfold watchRun
  dsimp only
  split
  · refine throughout_bind_iff.mpr ⟨?_, fun _ _ => throughout_ofExcept _⟩
    exact value_within (Nat.zero_le _) (s := { (new text).skipWhitespace with mode := .probe })
      valid outermost
  · refine throughout_bind_iff.mpr ⟨?_, fun _ _ => throughout_ofExcept _⟩
    exact value_within (Nat.zero_le _) valid outermost

end O7Formal.Contracts.Scanner
