import O7Formal.Contracts.Language

/-! Which rule a refusal names: a well-formed object that breaks a structural rule is
refused for a rule that one of its parts breaks. -/

namespace O7Formal.Contracts

open Fallible Utf8 Json

inductive Rule where
  | depth
  | null
  | array
  | string
  deriving DecidableEq, Repr

def ParseError.rule : ParseError → Option Rule
  | .depthExceeded _ => some .depth
  | .explicitNull _ => some .null
  | .arrayTooLong _ _ => some .array
  | .stringTooLong _ _ => some .string
  | _ => none

namespace Scanner

def ownFault : Value → Option Rule
  | .null => some .null
  | .string items => if decodedLength items > maxStringBytes then some .string else none
  | .array elements => if elements.length > maxArrayLen then some .array else none
  | _ => none

/-- The rule a value breaks where it stands: below the depth bound nothing else counts. -/
def fault (depth : Nat) (v : Value) : Option Rule :=
  if depth > maxJsonDepth then some .depth else ownFault v

def Breaks (frames : Nat) (v : Value) (rule : Rule) : Prop :=
  ∃ depth part, Occurs v depth part ∧ fault (frames + depth) part = some rule

theorem ownFault_none_iff {v : Value} : ownFault v = none ↔ Bounded v := by
  cases v <;> simp [ownFault, Bounded]

theorem fault_none_iff {depth : Nat} {v : Value} :
    fault depth v = none ↔ depth ≤ maxJsonDepth ∧ Bounded v := by
  unfold fault
  split_ifs with deep
  · simp only [false_iff]
    omega
  · rw [ownFault_none_iff]
    exact ⟨fun bounded => ⟨by omega, bounded⟩, fun both => both.2⟩

theorem fits_iff_breaks {frames : Nat} {v : Value} :
    Fits .admission frames v ↔ ∀ rule, ¬ Breaks frames v rule := by
  constructor
  · intro fits rule broken
    rcases broken with ⟨depth, part, occurs, faulty⟩
    have kept := fits depth part occurs
    rw [fault_none_iff.mpr ⟨kept.1, kept.2 rfl⟩] at faulty
    cases faulty
  · intro kept depth part occurs
    have sound : fault (frames + depth) part = none := by
      cases found : fault (frames + depth) part with
      | none => rfl
      | some rule => exact absurd ⟨depth, part, occurs, found⟩ (kept rule)
    have both := fault_none_iff.mp sound
    exact ⟨both.1, fun _ => both.2⟩

theorem breaks_child {frames : Nat} {v child : Value} {rule : Rule} (below : child ∈ v.children)
    (broken : Breaks (frames + 1) child rule) : Breaks frames v rule := by
  rcases broken with ⟨depth, part, inside, faulty⟩
  refine ⟨depth + 1, part, occurs_iff.mpr (.inr ⟨child, below, depth, rfl, inside⟩), ?_⟩
  rwa [show frames + (depth + 1) = frames + 1 + depth by omega]

/-- A run that stops at an error which names a rule that `v` breaks. -/
def RefusesFor (frames : Nat) (v : Value) {α : Type} (ran : Except Halt α) : Prop :=
  ∃ e rule, ran = .error (.refused e) ∧ e.rule = some rule ∧ Breaks frames v rule

/-- Every value the grammar spells and the rules forbid is refused for a broken rule. -/
def Refuses (frames : Nat) (value : Scanner → Except Halt Scanner) : Prop :=
  ∀ ⦃s : Scanner⦄ ⦃v : Value⦄ ⦃blank text : List Char⦄ ⦃r : List UInt8⦄,
    frames ≤ s.stack.length → s.stack.length ≤ maxJsonDepth → Blank blank → Spells v text →
    s.mode = .admission → ¬ Fits .admission s.stack.length v →
    s.rest = utf8 (blank ++ text) ++ r → Ends extendsNumber r →
    RefusesFor s.stack.length v (value s)

section Step

variable {value : Scanner → Except Halt Scanner} {fuel before : Nat} {s t : Scanner} {e : Halt}

theorem arrayLoop_first (within : ¬ before + 1 > maxArrayLen)
    (ran : value (s.setIndex before) = .error e) :
    arrayLoop value (fuel + 1) before s = .error e := by
  rw [arrayLoop, refuseIf, if_neg (fun full => within full.1), Nat.add_sub_cancel, ran]
  rfl

theorem arrayLoop_comma (within : ¬ before + 1 > maxArrayLen)
    (ran : value (s.setIndex before) = .ok t)
    (comma : t.skipWhitespace.peek = some ','.toUInt8) :
    arrayLoop value (fuel + 1) before s =
      arrayLoop value fuel (before + 1) t.skipWhitespace.bump := by
  rw [arrayLoop, refuseIf, if_neg (fun full => within full.1), Nat.add_sub_cancel, ran]
  exact if_pos comma

variable {named u : Scanner} {size : Nat} (quote : s.skipWhitespace.peek = some '"'.toUInt8)
  (ranName : s.skipWhitespace.scanString = .ok (size, named))
  (colon : named.skipWhitespace.peek = some ':'.toUInt8)

include quote ranName colon

theorem objectLoop_first (ran : value named.skipWhitespace.bump = .error e) :
    objectLoop value (fuel + 1) s = .error e := by
  simp only [objectLoop, refuseIf, quote, ranName, ne_eq, not_true, if_false, ok_bind, colon, ran,
    error_bind]

theorem objectLoop_comma (ran : value named.skipWhitespace.bump = .ok u)
    (comma : u.skipWhitespace.peek = some ','.toUInt8) :
    objectLoop value (fuel + 1) s = objectLoop value fuel u.skipWhitespace.bump := by
  simp only [objectLoop, refuseIf, quote, ranName, ne_eq, not_true, if_false, ok_bind, colon, ran,
    comma, if_true]

end Step

section Refuses

variable {value : Scanner → Except Halt Scanner} {frames : Nat} (complete : Complete frames value)
  (refuses : Refuses frames value)

include refuses

theorem value_refuses_at {s : Scanner} {v : Value} {blank text after later : List Char} {c : Char}
    {r : List UInt8} (deep : frames ≤ s.stack.length) (shallow : s.stack.length ≤ maxJsonDepth)
    (isBlank : Blank blank) (spelled : Spells v text) (admits : s.mode = .admission)
    (broken : ¬ Fits .admission s.stack.length v) (isAfter : Blank after)
    (mark : c ∈ [',', ']', '}'])
    (held : s.rest = utf8 (blank ++ (text ++ (after ++ c :: later))) ++ r) :
    RefusesFor s.stack.length v (value s) := by
  have front : s.rest = utf8 (blank ++ text) ++ (utf8 (after ++ c :: later) ++ r) := by
    rw [held]
    simp only [utf8_append, List.append_assoc]
  have facts : ∀ c ∈ [',', ']', '}'], IsAscii c ∧ extendsNumber c.toUInt8 = false :=
    forall_mem_of_all (by decide)
  rcases facts c mark with ⟨low, ended⟩
  have stops := ends_blank isAfter (ends_cons low ended later r)
  rw [← List.append_assoc, ← utf8_append] at stops
  exact refuses deep shallow isBlank spelled admits broken front stops

include complete

theorem arrayLoop_refuses {elements : List Value} {body : List Char} {fuel before : Nat}
    {s : Scanner} {r : List UInt8} (listed : Elements elements body)
    (deep : frames ≤ s.stack.length) (shallow : s.stack.length ≤ maxJsonDepth)
    (admits : s.mode = .admission)
    (broken : ¬ (before + elements.length ≤ maxArrayLen ∧
      ∀ v ∈ elements, Fits .admission s.stack.length v))
    (enough : (utf8 body).length < fuel) (held : s.rest = utf8 (body ++ [']']) ++ r) :
    ∃ e rule, arrayLoop value fuel before s = .error (.refused e) ∧ e.rule = some rule ∧
      ((rule = .array ∧ before + elements.length > maxArrayLen) ∨
        ∃ v ∈ elements, Breaks s.stack.length v rule) := by
  induction elements generalizing body fuel before s with
  | nil => cases listed
  | cons v elements ih =>
      cases fuel with
      | zero => exact absurd enough (Nat.not_lt_zero _)
      | succ fuel =>
          by_cases full : before + 1 > maxArrayLen
          · refine ⟨.arrayTooLong s.enclosingPath (before + 1), .array, ?_, rfl, ?_⟩
            · rw [arrayLoop, bind_error_iff]
              exact .inl (refuseIf_error_iff.mpr ⟨⟨full, admits⟩, rfl⟩)
            · exact .inl ⟨rfl, by rw [List.length_cons]; omega⟩
          have deepIndex : frames ≤ (s.setIndex before).stack.length := by
            rwa [setIndex_length]
          have shallowIndex : (s.setIndex before).stack.length ≤ maxJsonDepth := by
            rwa [setIndex_length]
          have admitsIndex : (s.setIndex before).mode = .admission := by rwa [setIndex_mode]
          by_cases fits : Fits (s.setIndex before).mode (s.setIndex before).stack.length v
          · cases listed with
            | last isBlank spelled isAfter =>
                exfalso
                apply broken
                rw [admitsIndex, setIndex_length] at fits
                refine ⟨by rw [List.length_singleton]; omega, ?_⟩
                intro w member
                rwa [List.mem_singleton.mp member]
            | @more _ _ blank text after later isBlank spelled isAfter others =>
                have front : (s.setIndex before).rest =
                    utf8 (blank ++ (text ++ (after ++ ',' :: (later ++ [']'])))) ++ r := by
                  rw [setIndex_rest, held]
                  simp
                rcases value_to_comma complete deepIndex isBlank spelled fits isAfter front with
                  ⟨t, ran, comma, toNext, next⟩
                have length : t.skipWhitespace.bump.stack.length = s.stack.length := by
                  rw [toNext.stack, setIndex_length]
                have room : (utf8 later).length < fuel := by
                  simp only [utf8_append, utf8_cons_ascii (show IsAscii ',' by decide),
                    List.length_append, List.length_cons] at enough
                  omega
                have stillBroken : ¬ (before + 1 + elements.length ≤ maxArrayLen ∧
                    ∀ w ∈ elements, Fits .admission t.skipWhitespace.bump.stack.length w) := by
                  intro kept
                  apply broken
                  rw [admitsIndex, setIndex_length] at fits
                  rw [length] at kept
                  refine ⟨by rw [List.length_cons]; omega, ?_⟩
                  exact List.forall_mem_cons.mpr ⟨fits, kept.2⟩
                rcases ih others (length ▸ deep) (length ▸ shallow)
                    (by rw [toNext.mode, setIndex_mode, admits]) stillBroken room next with
                  ⟨e, rule, ranOthers, names, reason⟩
                refine ⟨e, rule, (arrayLoop_comma full ran comma).trans ranOthers, names, ?_⟩
                rw [length] at reason
                rcases reason with ⟨isArray, long⟩ | ⟨w, member, breaks⟩
                · exact .inl ⟨isArray, by rw [List.length_cons]; omega⟩
                · exact .inr ⟨w, List.mem_cons_of_mem v member, breaks⟩
          · rw [admitsIndex] at fits
            rcases listed.first with
              ⟨blank, text, after, c, later, isBlank, spelled, isAfter, mark, split⟩
            have front : (s.setIndex before).rest =
                utf8 (blank ++ (text ++ (after ++ c :: later))) ++ r := by
              rw [setIndex_rest, held, split]
            rcases value_refuses_at refuses deepIndex shallowIndex isBlank spelled admitsIndex fits
              isAfter mark front with ⟨e, rule, ran, names, breaks⟩
            rw [setIndex_length] at breaks
            exact ⟨e, rule, arrayLoop_first full ran, names, .inr ⟨v, List.mem_cons_self, breaks⟩⟩

theorem objectLoop_refuses {members : List (List Item × Value)} {body : List Char} {fuel : Nat}
    {s : Scanner} {r : List UInt8} (listed : Members members body)
    (deep : frames ≤ s.stack.length) (shallow : s.stack.length ≤ maxJsonDepth)
    (admits : s.mode = .admission)
    (broken : ¬ ∀ member ∈ members, Fits .admission s.stack.length member.2)
    (enough : (utf8 body).length < fuel) (held : s.rest = utf8 (body ++ ['}']) ++ r) :
    ∃ e rule, objectLoop value fuel s = .error (.refused e) ∧ e.rule = some rule ∧
      ∃ member ∈ members, Breaks s.stack.length member.2 rule := by
  induction members generalizing body fuel s with
  | nil => cases listed
  | cons member members ih =>
      rcases member with ⟨name, v⟩
      cases fuel with
      | zero => exact absurd enough (Nat.not_lt_zero _)
      | succ fuel =>
          by_cases fits : Fits .admission s.stack.length v
          · cases listed with
            | last isLead isGap isBlank spelled isAfter =>
                exfalso
                apply broken
                intro other same
                rwa [List.mem_singleton.mp same]
            | @more _ _ _ lead gap blank text after later isLead isGap isBlank spelled isAfter
                others =>
                have front : s.rest = utf8 (lead ++ (quoted name ++ (gap ++ ':' ::
                    (blank ++ (text ++ (after ++ ',' :: (later ++ ['}']))))))) ++ r := by
                  rw [held]
                  simp
                rcases name_to_value isLead isGap front with
                  ⟨quote, size, named, ranName, colon, toValue, atValue⟩
                have inside := fits
                rw [← admits, ← toValue.mode, ← toValue.stack] at inside
                rcases value_to_comma complete (toValue.stack ▸ deep) isBlank spelled inside isAfter
                  atValue with ⟨t, ran, comma, reads, next⟩
                have toNext := toValue.trans reads
                have room : (utf8 later).length < fuel := by
                  simp only [utf8_append, utf8_cons_ascii (show IsAscii ':' by decide),
                    utf8_cons_ascii (show IsAscii ',' by decide), List.length_append,
                    List.length_cons] at enough
                  omega
                have stillBroken : ¬ ∀ other ∈ members,
                    Fits .admission t.skipWhitespace.bump.stack.length other.2 := by
                  intro kept
                  rw [toNext.stack] at kept
                  exact broken (List.forall_mem_cons.mpr ⟨fits, kept⟩)
                rcases ih others (toNext.stack ▸ deep) (toNext.stack ▸ shallow)
                    (by rw [toNext.mode, admits]) stillBroken room next with
                  ⟨e, rule, ranOthers, names, other, member, breaks⟩
                rw [toNext.stack] at breaks
                exact ⟨e, rule, (objectLoop_comma quote ranName colon ran comma).trans ranOthers,
                  names, other, List.mem_cons_of_mem _ member, breaks⟩
          · rcases listed.first with ⟨lead, gap, blank, text, after, c, later, isLead, isGap,
              isBlank, spelled, isAfter, mark, split⟩
            rw [split] at held
            rcases name_to_value isLead isGap held with
              ⟨quote, size, named, ranName, colon, toValue, atValue⟩
            rw [← toValue.stack] at fits
            rcases value_refuses_at refuses (toValue.stack ▸ deep) (toValue.stack ▸ shallow)
              isBlank spelled (by rw [toValue.mode, admits]) fits isAfter mark atValue with
              ⟨e, rule, ran, names, breaks⟩
            rw [toValue.stack] at breaks
            exact ⟨e, rule, objectLoop_first quote ranName colon ran, names, (name, v),
              List.mem_cons_self, breaks⟩

theorem array_refuses {s : Scanner} {elements : List Value} {text : List Char} {r : List UInt8}
    (spelled : Spells (.array elements) text) (deep : frames ≤ s.stack.length + 1)
    (room : s.stack.length + 1 ≤ maxJsonDepth) (admits : s.mode = .admission)
    (broken : ¬ Fits .admission s.stack.length (.array elements))
    (held : s.rest = utf8 text ++ r) : RefusesFor s.stack.length (.array elements) (s.array value) := by
  have rules : ¬ (elements.length ≤ maxArrayLen ∧
      ∀ v ∈ elements, Fits .admission (s.stack.length + 1) v) := by
    intro kept
    exact broken (fits_iff.mpr ⟨room, fun _ => kept.1, kept.2⟩)
  unfold array
  cases spelled with
  | emptyArray isBlank =>
      exfalso
      apply rules
      exact ⟨Nat.zero_le _, fun v member => absurd member List.not_mem_nil⟩
  | @array _ body listed =>
      rcases listed.lead with ⟨blank, c, later, isBlank, same, starts, trimmed⟩
      rcases startsValue_facts starts with ⟨low, nonblank, unclosed⟩
      rw [same, List.append_assoc] at held
      have ends : Ends isWhitespace (utf8 (c :: later ++ [']']) ++ r) := ends_cons low nonblank _ r
      rcases opened (.array 0) (by decide) isBlank ends held with ⟨_, rest, length, mode⟩
      have more : (s.bump.push (.array 0)).skipWhitespace.peek ≠ some ']'.toUInt8 := by
        rw [peek_of_rest low rest, ne_eq, Option.some_inj]
        exact unclosed
      have enough : (utf8 (c :: later)).length <
          (s.bump.push (.array 0)).skipWhitespace.rest.length + 1 := by
        rw [rest, utf8_append, List.length_append, List.length_append]
        omega
      rw [← length, ← Nat.zero_add elements.length] at rules
      rcases arrayLoop_refuses complete refuses trimmed (length ▸ deep) (length ▸ room)
          (mode.trans admits) rules enough rest with ⟨e, rule, ran, names, reason⟩
      refine ⟨e, rule, (if_neg more).trans ran, names, ?_⟩
      rcases reason with ⟨isArray, long⟩ | ⟨v, member, breaks⟩
      · refine ⟨1, _, .root _, ?_⟩
        rw [fault, if_neg (Nat.not_lt.mpr room), ownFault, if_pos (by omega), isArray]
      · rw [length] at breaks
        exact breaks_child member breaks

theorem object_refuses {s : Scanner} {members : List (List Item × Value)} {text : List Char}
    {r : List UInt8} (spelled : Spells (.object members) text)
    (deep : frames ≤ s.stack.length + 1) (room : s.stack.length + 1 ≤ maxJsonDepth)
    (admits : s.mode = .admission) (broken : ¬ Fits .admission s.stack.length (.object members))
    (held : s.rest = utf8 text ++ r) :
    RefusesFor s.stack.length (.object members) (s.object value) := by
  have rules : ¬ ∀ member ∈ members, Fits .admission (s.stack.length + 1) member.2 := by
    intro kept
    apply broken
    refine fits_iff.mpr ⟨room, fun _ => trivial, ?_⟩
    intro child below
    rcases List.mem_map.mp below with ⟨member, listed, same⟩
    rw [← same]
    exact kept member listed
  unfold object
  cases spelled with
  | emptyObject isBlank =>
      exfalso
      apply rules
      exact fun member listed => absurd listed List.not_mem_nil
  | @object _ body listed =>
      rcases listed.lead with ⟨blank, later, isBlank, same, trimmed⟩
      rw [same, List.append_assoc] at held
      have ends : Ends isWhitespace (utf8 ('"' :: later ++ ['}']) ++ r) :=
        ends_cons (by decide) (by decide) _ r
      rcases opened .object (by decide) isBlank ends held with ⟨_, rest, length, mode⟩
      have more : (s.bump.push .object).skipWhitespace.peek ≠ some '}'.toUInt8 := by
        rw [peek_of_rest (by decide) rest]
        decide
      have enough : (utf8 ('"' :: later)).length <
          (s.bump.push .object).skipWhitespace.rest.length + 1 := by
        rw [rest, utf8_append, List.length_append, List.length_append]
        omega
      rw [← length] at rules
      rcases objectLoop_refuses complete refuses trimmed (length ▸ deep) (length ▸ room)
          (mode.trans admits) rules enough rest with ⟨e, rule, ran, names, member, listed, breaks⟩
      refine ⟨e, rule, (if_neg more).trans ran, names, ?_⟩
      rw [length] at breaks
      exact breaks_child (List.mem_map.mpr ⟨member, listed, rfl⟩) breaks

theorem dispatch_refuses {s : Scanner} {v : Value} {text : List Char} {r : List UInt8}
    (deep : frames ≤ s.stack.length + 1) (room : s.stack.length + 1 ≤ maxJsonDepth)
    (spelled : Spells v text) (admits : s.mode = .admission)
    (broken : ¬ Fits .admission s.stack.length v) (held : s.rest = utf8 text ++ r) :
    RefusesFor s.stack.length v (s.dispatch value) := by
  have shallow : ¬ s.stack.length + 1 > maxJsonDepth := Nat.not_lt.mpr room
  cases v with
  | null =>
      cases spelled
      have next : s.peek = some 'n'.toUInt8 := peek_of_rest (by decide) held
      rcases literal_exact (forall_mem_of_all (by decide)) held with ⟨t, ran, reads⟩
      refine ⟨.explicitNull t.path, .null, ?_, rfl, 1, .null, .root _, ?_⟩
      · rw [dispatch, next, if_neg (by decide), if_neg (by decide), if_neg (by decide),
          if_neg (by decide), if_neg (by decide), if_pos rfl, ran, ok_bind, reads.mode, admits]
      · rw [fault, if_neg shallow, ownFault]
  | bool b =>
      exact (broken (fits_iff.mpr ⟨room, fun _ => trivial, by simp [Value.children]⟩)).elim
  | number literal =>
      exact (broken (fits_iff.mpr ⟨room, fun _ => trivial, by simp [Value.children]⟩)).elim
  | string items =>
      cases spelled
      have long : decodedLength items > maxStringBytes := by
        by_contra short
        apply broken
        exact fits_iff.mpr ⟨room, fun _ => Nat.not_lt.mp short, by simp [Value.children]⟩
      have next : s.peek = some '"'.toUInt8 := peek_of_rest (by decide) held
      rcases scanString_exact held with ⟨t, ran, reads⟩
      have refused : s.string = .error (.refused (.stringTooLong t.path (decodedLength items))) := by
        rw [string, ran, ok_bind]
        exact if_pos ⟨long, reads.mode.trans admits⟩
      refine ⟨.stringTooLong t.path (decodedLength items), .string, ?_, rfl, 1, _, .root _, ?_⟩
      · rw [dispatch, next, if_neg (by decide), if_neg (by decide), if_pos rfl, refused]
        rfl
      · rw [fault, if_neg shallow, ownFault, if_pos long]
  | array elements =>
      have next : s.peek = some '['.toUInt8 := by
        cases spelled <;> exact peek_of_rest (by decide) held
      rw [dispatch, next, if_neg (by decide), if_pos rfl]
      exact array_refuses complete refuses spelled deep room admits broken held
  | object members =>
      have next : s.peek = some '{'.toUInt8 := by
        cases spelled <;> exact peek_of_rest (by decide) held
      rw [dispatch, next, if_pos rfl]
      exact object_refuses complete refuses spelled deep room admits broken held

end Refuses

theorem value_refuses (calls : Nat) : Refuses (maxJsonDepth + 1 - calls) (value calls) := by
  induction calls with
  | zero =>
      intro s v blank text r deep shallow
      omega
  | succ calls ih =>
      intro s v blank text r deep shallow isBlank spelled admits broken held ends
      rcases spelled.lead with ⟨c, later, same, starts⟩
      rcases startsValue_facts starts with ⟨low, nonblank, _⟩
      rw [utf8_append, List.append_assoc] at held
      have front : Ends isWhitespace (utf8 text ++ r) := by
        rw [same]
        exact ends_cons low nonblank later r
      have skipped := skipWhitespace_exact isBlank front held
      rw [value, skipped.stack]
      by_cases full : s.stack.length + 1 > maxJsonDepth
      · refine ⟨.depthExceeded s.skipWhitespace.path, .depth, ?_, rfl, 1, v, .root v, ?_⟩
        · rw [if_pos full, skipped.mode, admits]
        · rw [fault, if_pos full]
      · rw [if_neg full]
        have below : maxJsonDepth + 1 - calls ≤ s.skipWhitespace.stack.length + 1 := by
          rw [skipped.stack]
          omega
        rw [← skipped.stack] at full broken ⊢
        exact dispatch_refuses (value_complete calls) ih below (Nat.not_lt.mp full) spelled
          (skipped.mode.trans admits) broken (skipped.rest_eq held)

theorem run_refuses {text : String} {v : Value} (document : Document v text.toList)
    (object : v.isObject = true) (broken : ¬ Admissible v) :
    ∃ e rule, (new text).run = .error (.refused e) ∧ e.rule = some rule ∧ Breaks 0 v rule := by
  rcases document_start document with
    ⟨spelled, after, isSpelled, isAfter, rest, stack, mode, brace⟩
  have front : (new text).skipWhitespace.rest = utf8 ([] ++ spelled) ++ (utf8 after ++ []) := by
    rw [rest, utf8_append, List.append_nil]
    rfl
  have ends := ends_blank isAfter (ends_nil extendsNumber)
  rw [admissible_iff] at broken
  rcases value_refuses maxValueCalls (by rw [stack]; decide) (by rw [stack]; decide) blank_nil
      isSpelled mode (by rwa [stack]) front ends with ⟨e, rule, ran, names, breaks⟩
  rw [stack] at breaks
  refine ⟨e, rule, ?_, names, breaks⟩
  unfold run
  dsimp only
  rw [if_neg (not_not.mpr (brace.mpr object)), ran, error_bind]

theorem run_ok_iff {text : String} {v : Value} (document : Document v text.toList) :
    (new text).run = .ok () ↔ v.isObject = true ∧ Admissible v := by
  constructor
  · intro ran
    have object : v.isObject = true := by
      rcases document_start document with ⟨_, _, _, _, _, _, _, brace⟩
      rw [← brace]
      by_contra other
      unfold run at ran
      dsimp only at ran
      rw [if_pos other] at ran
      rcases bind_ok_iff.mp ran with ⟨t, _, ended⟩
      split at ended <;> cases ended
    refine ⟨object, ?_⟩
    by_contra broken
    rcases run_refuses document object broken with ⟨e, rule, refused, _⟩
    rw [ran] at refused
    cases refused
  · intro both
    exact run_complete document both.1 both.2

end Scanner

end O7Formal.Contracts
