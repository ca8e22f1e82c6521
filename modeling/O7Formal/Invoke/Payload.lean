import O7Formal.Lib.JsonUnique
import O7Formal.Lib.Words

/-! The text that claude carries in the `result` field of its envelope: a bare JSON value, or one
fenced block of it. -/

namespace O7Formal.Invoke

open Json (Blank Document Spells)
open Words (Space Trimmed isWhitespace trim)

variable {V : Type}

/-- A JSON text of this value, for a reader that holds the value in this way. It may hold fewer
values than there are: the range of numbers and the depth of nesting are its own. -/
def JsonText (holds : Json.Value → Option V) (text : List Char) (v : V) : Prop :=
  ∃ value, Document value text ∧ holds value = some v

/-- `serde_json::from_str`, as a parser of RFC 8259. -/
structure Rfc8259 (fromStr : List Char → Option V) (holds : Json.Value → Option V) : Prop where
  reads : ∀ text v, fromStr text = some v ↔ JsonText holds text v

def fence : List Char := "```".toList

def opening : List Char := "```json\n".toList

def parseClaudeResultPayload (fromStr : List Char → Option V) (resultText : String) : Option V :=
  let trimmed := trim isWhitespace resultText.toList
  match fromStr trimmed with
  | some v => some v
  | none => do
      let rest ← opening.isPrefixOf? trimmed
      let body ← fence.isSuffixOf? rest
      if fence <:+: body then none
      else fromStr (trim isWhitespace body)

/-- A bare JSON text, or the line that opens a block, a JSON text without a fence in it, and the
line that closes it. -/
inductive Shape (holds : Json.Value → Option V) : List Char → V → Prop
  | bare {text : List Char} {v : V} (json : JsonText holds text v) : Shape holds text v
  | fenced {before text after : List Char} {v : V} (front : Space isWhitespace before)
      (json : JsonText holds text v) (single : ¬ fence <:+: text)
      (back : Space isWhitespace after) :
      Shape holds ("```json".toList ++ '\n' :: (before ++ (text ++ (after ++ '\n' :: fence)))) v

def FenceInLine (holds : Json.Value → Option V) (trimmed : List Char) : Prop :=
  ∃ before text after v, Space isWhitespace before ∧ JsonText holds text v ∧ ¬ fence <:+: text ∧
    Space isWhitespace after ∧ (before ++ (text ++ after)).getLast? ≠ some '\n' ∧
    trimmed = opening ++ (before ++ (text ++ after) ++ fence)

theorem isWhitespace_blank {c : Char} (blank : Json.isBlank c = true) : isWhitespace c = true := by
  simp only [Json.isBlank, Bool.or_eq_true, beq_iff_eq] at blank
  rcases blank with ((same | same) | same) | same
  all_goals
    rw [same]
    decide

theorem isWhitespace_visible {c : Char} (shown : Json.visible c = true) :
    isWhitespace c = false := by
  simp only [Json.visible, Bool.and_eq_true, decide_eq_true_eq] at shown
  simp only [isWhitespace, Bool.or_eq_false_iff, Bool.and_eq_false_iff, decide_eq_false_iff_not]
  omega

theorem space_of_blank {text : List Char} (blank : Blank text) : Space isWhitespace text :=
  fun c member => isWhitespace_blank (blank c member)

theorem trimmed_of_spells {value : Json.Value} {text : List Char} (spelled : Spells value text) :
    Trimmed isWhitespace text := by
  constructor
  · intro c first
    rcases spelled.lead with ⟨d, later, same, starts⟩
    rw [same] at first
    cases first
    exact isWhitespace_visible (Json.startsValue_visible starts)
  · exact fun c last => isWhitespace_visible (spelled.last c last)

theorem JsonText.trim {holds : Json.Value → Option V} {text : List Char} {v : V}
    (json : JsonText holds text v) : JsonText holds (Words.trim isWhitespace text) v := by
  rcases json with ⟨value, ⟨before, spelled, after, front, isSpelled, back, split⟩, held⟩
  have core := (trimmed_of_spells isSpelled).trim_padded (space_of_blank front)
    (space_of_blank back)
  rw [split, core]
  exact ⟨value, ⟨[], spelled, [], Json.blank_nil, isSpelled, Json.blank_nil, by simp⟩, held⟩

theorem JsonText.present {holds : Json.Value → Option V} {text : List Char} {v : V}
    (json : JsonText holds text v) : text ≠ [] := by
  rcases json with ⟨value, ⟨before, spelled, after, _, isSpelled, _, split⟩, _⟩
  rcases isSpelled.lead with ⟨c, later, same, _⟩
  rw [split, same]
  simp

theorem JsonText.not_opening {holds : Json.Value → Option V} {rest : List Char} {v : V} :
    ¬ JsonText holds (opening ++ rest) v := by
  rintro ⟨value, ⟨before, spelled, after, front, isSpelled, _, split⟩, _⟩
  rcases isSpelled.lead with ⟨c, later, same, starts⟩
  rw [same] at split
  cases before with
  | nil =>
      have first := (List.cons.inj split).1
      rw [← first] at starts
      exact absurd starts (by decide)
  | cons d before =>
      have first := (List.cons.inj split).1
      have blank := front d List.mem_cons_self
      rw [← first] at blank
      exact absurd blank (by decide)

theorem fence_solid : ∀ c ∈ fence, isWhitespace c = false := by
  intro c member
  have solid : (fence.all fun c => !isWhitespace c) = true := by decide
  simpa using List.all_eq_true.mp solid c member

theorem trim_json_iff {holds : Json.Value → Option V} {body : List Char} {v : V} :
    (¬ fence <:+: body ∧ JsonText holds (trim isWhitespace body) v) ↔
      ∃ before text after, Space isWhitespace before ∧ JsonText holds text v ∧ ¬ fence <:+: text ∧
        Space isWhitespace after ∧ body = before ++ (text ++ after) := by
  constructor
  · rintro ⟨single, json⟩
    rcases Words.exists_trim isWhitespace body with ⟨before, after, front, back, split⟩
    refine ⟨before, _, after, front, json, fun inside => single ?_, back, split⟩
    rw [split]
    exact (inside.trans (List.prefix_append _ _).isInfix).trans (List.suffix_append _ _).isInfix
  · rintro ⟨before, text, after, front, json, single, back, split⟩
    rw [split]
    refine ⟨fun inside => single ?_, ?_⟩
    · exact Words.infix_of_padded (by decide) fence_solid front back inside
    · rw [Words.trim_padded front back]
      exact json.trim

section Accepted

variable {fromStr : List Char → Option V} {holds : Json.Value → Option V} {resultText : String}

theorem payload_some_iff (reader : Rfc8259 fromStr holds) {v : V} :
    parseClaudeResultPayload fromStr resultText = some v ↔
      JsonText holds (trim isWhitespace resultText.toList) v ∨
        ∃ before text after, Space isWhitespace before ∧ JsonText holds text v ∧
          ¬ fence <:+: text ∧ Space isWhitespace after ∧ trim isWhitespace resultText.toList =
            opening ++ (before ++ (text ++ after) ++ fence) := by
  cases read : fromStr (trim isWhitespace resultText.toList) with
  | some w =>
      have json := (reader.reads _ w).mp read
      have bare : parseClaudeResultPayload fromStr resultText = some w := by
        rw [parseClaudeResultPayload, read]
      rw [bare, ← read, reader.reads]
      refine ⟨.inl, fun either => either.elim id ?_⟩
      rintro ⟨before, text, after, _, _, _, _, split⟩
      rw [split] at json
      exact absurd json JsonText.not_opening
  | none =>
      have notBare : ¬ JsonText holds (trim isWhitespace resultText.toList) v := by
        rw [← reader.reads, read]
        exact nofun
      simp only [parseClaudeResultPayload, read, Option.bind_eq_bind, Option.bind_eq_some_iff,
        List.isPrefixOf?_eq_some_iff_append_eq, List.isSuffixOf?_eq_some_iff_append_eq]
      constructor
      · rintro ⟨rest, opened, body, closed, accepted⟩
        split_ifs at accepted with single
        rw [reader.reads] at accepted
        rcases trim_json_iff.mp ⟨single, accepted⟩ with
          ⟨before, text, after, front, json, clear, back, split⟩
        refine .inr ⟨before, text, after, front, json, clear, back, ?_⟩
        rw [← opened, ← closed, split]
      · rintro (bare | ⟨before, text, after, front, json, clear, back, split⟩)
        · exact absurd bare notBare
        · rcases trim_json_iff.mpr ⟨before, text, after, front, json, clear, back, rfl⟩ with
            ⟨single, accepted⟩
          refine ⟨_, split.symm, _, rfl, ?_⟩
          rw [if_neg single, reader.reads]
          exact accepted

theorem block_eq (before text after : List Char) :
    "```json".toList ++ '\n' :: (before ++ (text ++ (after ++ '\n' :: fence))) =
      opening ++ (before ++ (text ++ (after ++ ['\n'])) ++ fence) := by
  have first : opening = "```json".toList ++ ['\n'] := by decide
  rw [first]
  simp only [List.append_assoc, List.singleton_append]

theorem shape_iff {trimmed : List Char} {v : V} : Shape holds trimmed v ↔
    JsonText holds trimmed v ∨ ∃ before text after, Space isWhitespace before ∧
      JsonText holds text v ∧ ¬ fence <:+: text ∧ Space isWhitespace after ∧
      trimmed = opening ++ (before ++ (text ++ (after ++ ['\n'])) ++ fence) := by
  constructor
  · intro shape
    cases shape with
    | bare json => exact .inl json
    | @fenced before text after _ front json single back =>
        exact .inr ⟨before, text, after, front, json, single, back, block_eq before text after⟩
  · rintro (json | ⟨before, text, after, front, json, single, back, rfl⟩)
    · exact .bare json
    · rw [← block_eq]
      exact .fenced front json single back

theorem space_newline : Space isWhitespace ['\n'] := by
  intro c member
  rw [List.mem_singleton.mp member]
  decide

theorem ends_newline {before text after : List Char} {v : V} (front : Space isWhitespace before)
    (json : JsonText holds text v) (single : ¬ fence <:+: text) (back : Space isWhitespace after)
    (ends : (before ++ (text ++ after)).getLast? = some '\n') :
    ∃ lead core tail, Space isWhitespace lead ∧ JsonText holds core v ∧ ¬ fence <:+: core ∧
      Space isWhitespace tail ∧ before ++ (text ++ after) = lead ++ (core ++ (tail ++ ['\n'])) := by
  rcases trim_json_iff.mpr ⟨before, text, after, front, json, single, back, rfl⟩ with
    ⟨clear, accepted⟩
  generalize before ++ (text ++ after) = body at *
  rcases Words.exists_trim isWhitespace body with ⟨lead, tail, isLead, isTail, split⟩
  have core : (trim isWhitespace body) ≠ [] := accepted.present
  have solid := (Words.trimmed_trim isWhitespace body).last
  cases tail using List.reverseRecOn with
  | nil =>
      have last := ends
      rw [split, List.append_nil, List.getLast?_append_of_ne_nil _ core] at last
      exact absurd (solid _ last) (by decide)
  | append_singleton tail c =>
      have newline : c = '\n' := by
        rw [split, ← List.append_assoc, ← List.append_assoc, List.getLast?_concat] at ends
        exact Option.some.inj ends
      refine ⟨lead, _, tail, isLead, accepted, fun inside => clear ?_,
        fun d member => isTail d (List.mem_append_left _ member), newline ▸ split⟩
      rw [split]
      exact (inside.trans (List.prefix_append _ _).isInfix).trans (List.suffix_append _ _).isInfix

theorem shape_accepted (reader : Rfc8259 fromStr holds) {v : V}
    (shape : Shape holds (trim isWhitespace resultText.toList) v) :
    parseClaudeResultPayload fromStr resultText = some v := by
  rw [payload_some_iff reader]
  rcases shape_iff.mp shape with json | ⟨before, text, after, front, json, single, back, split⟩
  · exact .inl json
  · exact .inr ⟨before, text, _, front, json, single, back.append space_newline, split⟩

theorem fence_misread (reader : Rfc8259 fromStr holds)
    (inLine : FenceInLine holds (trim isWhitespace resultText.toList)) :
    ∃ v, parseClaudeResultPayload fromStr resultText = some v ∧
      ¬ Shape holds (trim isWhitespace resultText.toList) v := by
  rcases inLine with ⟨before, text, after, v, front, json, single, back, shared, split⟩
  refine ⟨v, (payload_some_iff reader).mpr
    (.inr ⟨before, text, after, front, json, single, back, split⟩), fun shape => ?_⟩
  rw [split] at shape
  rcases shape_iff.mp shape with bare | ⟨lead, core, tail, _, _, _, _, same⟩
  · exact JsonText.not_opening bare
  · have body := List.append_cancel_right (List.append_cancel_left same)
    apply shared
    rw [body, ← List.append_assoc, ← List.append_assoc, List.getLast?_concat]

/-- The payload is read by the grammar exactly where no closing fence shares its line. -/
theorem payload_grammar_iff (reader : Rfc8259 fromStr holds) :
    (∀ v, parseClaudeResultPayload fromStr resultText = some v ↔
      Shape holds (trim isWhitespace resultText.toList) v) ↔
    ¬ FenceInLine holds (trim isWhitespace resultText.toList) := by
  constructor
  · intro exact inLine
    rcases fence_misread reader inLine with ⟨v, accepted, outside⟩
    exact outside ((exact v).mp accepted)
  · intro apart v
    refine ⟨fun accepted => ?_, shape_accepted reader⟩
    rcases (payload_some_iff reader).mp accepted with
      json | ⟨before, text, after, front, json, single, back, split⟩
    · exact .bare json
    · have ends : (before ++ (text ++ after)).getLast? = some '\n' := by
        by_contra shared
        exact apart ⟨before, text, after, v, front, json, single, back, shared, split⟩
      rcases ends_newline front json single back ends with
        ⟨lead, core, tail, isLead, isCore, clear, isTail, whole⟩
      rw [shape_iff, split, whole]
      exact .inr ⟨lead, core, tail, isLead, isCore, clear, isTail, rfl⟩

end Accepted

open Classical in
noncomputable def readTree (text : List Char) : Option Json.Tree :=
  if denotes : ∃ t, Json.Denotes text t then some denotes.choose else none

theorem readTree_reads : Rfc8259 readTree Json.Value.tree := by
  constructor
  intro text t
  change readTree text = some t ↔ Json.Denotes text t
  unfold readTree
  split_ifs with denotes
  · rw [Option.some.injEq]
    exact ⟨fun same => same ▸ denotes.choose_spec, denotes.choose_spec.unique⟩
  · exact ⟨nofun, fun here => absurd ⟨t, here⟩ denotes⟩

theorem emptyObject : JsonText Json.Value.tree "{}".toList (.object []) := by
  have spelled : Spells (.object []) ('{' :: ([] ++ ['}'])) := .emptyObject Json.blank_nil
  exact ⟨.object [], ⟨[], _, [], Json.blank_nil, spelled, Json.blank_nil, rfl⟩, rfl⟩

/-- A block whose fence stands right behind the JSON text is read all the same. -/
theorem payload_without_newline :
    ¬ ∀ (fromStr : List Char → Option Json.Tree) (holds : Json.Value → Option Json.Tree),
      Rfc8259 fromStr holds → ∀ (resultText : String) (v : Json.Tree),
        parseClaudeResultPayload fromStr resultText = some v ↔
          Shape holds (trim isWhitespace resultText.toList) v := by
  intro exact
  have shared : FenceInLine Json.Value.tree (trim isWhitespace "```json\n{}```".toList) :=
    ⟨[], "{}".toList, [], .object [], nofun, emptyObject, by decide, nofun, by decide, by decide⟩
  rcases fence_misread readTree_reads shared with ⟨v, accepted, outside⟩
  exact outside ((exact readTree _ readTree_reads _ v).mp accepted)

theorem payload_grammar_iff_block :
    parseClaudeResultPayload readTree "```json\n{}\n```" = some (.object []) ↔
      Shape Json.Value.tree (trim isWhitespace "```json\n{}\n```".toList) (.object []) := by
  have block : trim isWhitespace "```json\n{}\n```".toList =
      opening ++ ("{}\n".toList ++ fence) := by decide
  refine (payload_grammar_iff readTree_reads).mpr ?_ (.object [])
  rintro ⟨before, text, after, _, _, _, _, _, shared, split⟩
  rw [block] at split
  have body := List.append_cancel_right (List.append_cancel_left split)
  rw [← body] at shared
  exact shared (by decide)

end O7Formal.Invoke
