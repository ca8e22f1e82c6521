import Mathlib.Data.List.DropRight
import Mathlib.Tactic

/-! Texts cut into words at white space, or cleared of it at both ends, and what follows the last of
a character. -/

namespace O7Formal.Words

def isWhitespace (c : Char) : Bool :=
  let n := c.toNat
  (9 ≤ n && n ≤ 13) || n = 0x20 || n = 0x85 || n = 0xa0 || n = 0x1680 ||
    (0x2000 ≤ n && n ≤ 0x200a) || n = 0x2028 || n = 0x2029 || n = 0x202f || n = 0x205f ||
    n = 0x3000

variable (isSpace : Char → Bool)

/-- The words of a text of which `word` has been read. -/
def wordsFrom : List Char → List Char → List (List Char)
  | word, [] => if word = [] then [] else [word]
  | word, c :: rest =>
      if isSpace c then if word = [] then wordsFrom [] rest else word :: wordsFrom [] rest
      else wordsFrom (word ++ [c]) rest

def words (text : List Char) : List (List Char) := wordsFrom isSpace [] text

def IsWord (word : List Char) : Prop := word ≠ [] ∧ ∀ c ∈ word, isSpace c = false

variable {isSpace}

theorem wordsFrom_solid {word : List Char} (solid : ∀ c ∈ word, isSpace c = false)
    (carry rest : List Char) :
    wordsFrom isSpace carry (word ++ rest) = wordsFrom isSpace (carry ++ word) rest := by
  induction word generalizing carry with
  | nil => rw [List.nil_append, List.append_nil]
  | cons c word ih =>
      rw [List.forall_mem_cons] at solid
      rw [List.cons_append, wordsFrom, solid.1, if_neg Bool.false_ne_true, ih solid.2,
        List.append_assoc, List.singleton_append]

theorem words_space {c : Char} (space : isSpace c = true) (rest : List Char) :
    words isSpace (c :: rest) = words isSpace rest := by
  simp [words, wordsFrom, space]

theorem words_cons {word : List Char} (isWord : IsWord isSpace word) {c : Char}
    (space : isSpace c = true) (rest : List Char) :
    words isSpace (word ++ c :: rest) = word :: words isSpace rest := by
  rw [words, wordsFrom_solid isWord.2, List.nil_append, wordsFrom, if_pos space, if_neg isWord.1]
  rfl

theorem words_intercalate {c d : Char} (space : isSpace c = true) (ends : isSpace d = true)
    {ws : List (List Char)} (each : ∀ w ∈ ws, IsWord isSpace w) :
    words isSpace (List.intercalate [c] ws ++ [d]) = ws := by
  induction ws with
  | nil => exact words_space ends []
  | cons w ws ih =>
      rw [List.forall_mem_cons] at each
      cases ws with
      | nil =>
          rw [List.intercalate_singleton, words_cons each.1 ends]
          rfl
      | cons next ws =>
          rw [List.intercalate_cons_cons, List.append_assoc, List.append_assoc,
            List.singleton_append, words_cons each.1 space, ih each.2]

theorem wordsFrom_mem {word carry text : List Char} (solid : ∀ c ∈ carry, isSpace c = false)
    (member : word ∈ wordsFrom isSpace carry text) :
    IsWord isSpace word ∧ ∀ c ∈ word, c ∈ carry ∨ c ∈ text := by
  induction text generalizing carry with
  | nil =>
      rw [wordsFrom] at member
      split_ifs at member with empty
      · cases member
      · cases List.mem_singleton.mp member
        exact ⟨⟨empty, solid⟩, fun c among => .inl among⟩
  | cons d text ih =>
      have later : ∀ {c : Char}, c ∈ text → c ∈ d :: text := List.mem_cons_of_mem d
      rw [wordsFrom] at member
      split_ifs at member with space empty
      · rcases ih (List.forall_mem_nil _) member with ⟨isWord, each⟩
        exact ⟨isWord, fun c among => .inr (later ((each c among).resolve_left (List.not_mem_nil)))⟩
      · rcases List.mem_cons.mp member with rfl | other
        · exact ⟨⟨empty, solid⟩, fun c among => .inl among⟩
        · rcases ih (List.forall_mem_nil _) other with ⟨isWord, each⟩
          exact ⟨isWord, fun c among => .inr (later ((each c among).resolve_left (List.not_mem_nil)))⟩
      · have carried : ∀ c ∈ carry ++ [d], isSpace c = false := by
          rw [List.forall_mem_append, List.forall_mem_singleton]
          exact ⟨solid, Bool.eq_false_iff.mpr space⟩
        rcases ih carried member with ⟨isWord, each⟩
        refine ⟨isWord, fun c among => ?_⟩
        rcases each c among with earlier | rest
        · rcases List.mem_append.mp earlier with before | now
          · exact .inl before
          · exact .inr (List.mem_singleton.mp now ▸ List.mem_cons_self)
        · exact .inr (later rest)

theorem mem_words {word text : List Char} (member : word ∈ words isSpace text) :
    IsWord isSpace word ∧ ∀ c ∈ word, c ∈ text := by
  rcases wordsFrom_mem (List.forall_mem_nil _) member with ⟨isWord, each⟩
  exact ⟨isWord, fun c among => (each c among).resolve_left List.not_mem_nil⟩

/-- What follows the last `c` of the text. -/
def afterLast (c : Char) : List Char → Option (List Char)
  | [] => none
  | d :: rest =>
      match afterLast c rest with
      | some tail => some tail
      | none => if d = c then some rest else none

theorem afterLast_none {c : Char} {text : List Char} (absent : c ∉ text) :
    afterLast c text = none := by
  induction text with
  | nil => rfl
  | cons d rest ih =>
      rw [List.mem_cons, not_or] at absent
      rw [afterLast, ih absent.2]
      exact if_neg (Ne.symm absent.1)

theorem afterLast_append {c : Char} {tail : List Char} (absent : c ∉ tail) (before : List Char) :
    afterLast c (before ++ c :: tail) = some tail := by
  induction before with
  | nil =>
      rw [List.nil_append, afterLast, afterLast_none absent]
      exact if_pos rfl
  | cons d before ih => rw [List.cons_append, afterLast, ih]

theorem mem_intercalate {c d : Char} {ws : List (List Char)}
    (member : d ∈ List.intercalate [c] ws) : d = c ∨ ∃ w ∈ ws, d ∈ w := by
  induction ws with
  | nil => cases member
  | cons w ws ih =>
      cases ws with
      | nil =>
          rw [List.intercalate_singleton] at member
          exact .inr ⟨w, List.mem_cons_self, member⟩
      | cons next ws =>
          rw [List.intercalate_cons_cons, List.append_assoc, List.singleton_append] at member
          rcases List.mem_append.mp member with here | later
          · exact .inr ⟨w, List.mem_cons_self, here⟩
          · rcases List.mem_cons.mp later with same | later
            · exact .inl same
            · rcases ih later with same | ⟨v, among, inside⟩
              · exact .inl same
              · exact .inr ⟨v, List.mem_cons_of_mem _ among, inside⟩

variable (isSpace) in
def trim (text : List Char) : List Char := (text.dropWhile isSpace).rdropWhile isSpace

def Space (isSpace : Char → Bool) (text : List Char) : Prop := ∀ c ∈ text, isSpace c = true

theorem Space.append {before after : List Char} (first : Space isSpace before)
    (second : Space isSpace after) : Space isSpace (before ++ after) := by
  intro c member
  rcases List.mem_append.mp member with member | member
  · exact first c member
  · exact second c member

structure Trimmed (isSpace : Char → Bool) (text : List Char) : Prop where
  first : ∀ c ∈ text.head?, isSpace c = false
  last : ∀ c ∈ text.getLast?, isSpace c = false

theorem dropWhile_space {before : List Char} (space : Space isSpace before) (text : List Char) :
    (before ++ text).dropWhile isSpace = text.dropWhile isSpace := by
  rw [List.dropWhile_append, List.dropWhile_eq_nil_iff.mpr space]
  rfl

theorem rdropWhile_space {after : List Char} (space : Space isSpace after) (text : List Char) :
    (text ++ after).rdropWhile isSpace = text.rdropWhile isSpace := by
  rw [List.rdropWhile, List.reverse_append, dropWhile_space, ← List.rdropWhile]
  exact fun c member => space c (List.mem_reverse.mp member)

theorem Trimmed.trim_eq {text : List Char} (trimmed : Trimmed isSpace text) :
    trim isSpace text = text := by
  have front : text.dropWhile isSpace = text := by
    cases text with
    | nil => rfl
    | cons c rest => exact List.dropWhile_cons_of_neg (by simp [trimmed.first c rfl])
  rw [trim, front]
  refine List.rdropWhile_eq_self_iff.mpr fun present => ?_
  simp [trimmed.last _ (List.getLast?_eq_some_getLast present)]

variable (isSpace) in
theorem trimmed_trim (text : List Char) : Trimmed isSpace (trim isSpace text) := by
  constructor
  · intro c first
    have among : c ∈ (text.dropWhile isSpace).head? := by
      rcases List.head?_eq_some_iff.mp first with ⟨rest, split⟩
      rcases List.rdropWhile_prefix isSpace (text.dropWhile isSpace) with ⟨tail, whole⟩
      rw [← whole, ← trim, split]
      rfl
    have stops := List.head?_dropWhile_not isSpace text
    rw [Option.mem_def.mp among] at stops
    exact stops
  · intro c last
    rcases List.getLast?_eq_some_iff.mp last with ⟨rest, split⟩
    have present : trim isSpace text ≠ [] := by simp [split]
    have stops := List.rdropWhile_last_not isSpace (text.dropWhile isSpace) present
    rw [List.getLast?_eq_some_getLast present] at last
    rw [← Option.some.inj last]
    exact Bool.eq_false_iff.mpr stops

variable (isSpace) in
theorem exists_trim (text : List Char) : ∃ before after, Space isSpace before ∧
    Space isSpace after ∧ text = before ++ (trim isSpace text ++ after) := by
  refine ⟨text.takeWhile isSpace, (text.dropWhile isSpace).rtakeWhile isSpace, ?_, ?_, ?_⟩
  · exact fun c member => List.mem_takeWhile_imp member
  · exact fun c member => List.mem_rtakeWhile_imp member
  · rw [trim, List.rdropWhile_append_rtakeWhile, List.takeWhile_append_dropWhile]

theorem Trimmed.trim_padded {before text after : List Char} (trimmed : Trimmed isSpace text)
    (front : Space isSpace before) (back : Space isSpace after) :
    trim isSpace (before ++ (text ++ after)) = text := by
  rw [trim, dropWhile_space front]
  cases text with
  | nil => rw [List.nil_append, List.dropWhile_eq_nil_iff.mpr back, List.rdropWhile_nil]
  | cons c rest =>
      have solid : ¬ isSpace c = true := by simp [trimmed.first c rfl]
      have front : (c :: rest).dropWhile isSpace = c :: rest := List.dropWhile_cons_of_neg solid
      rw [List.cons_append, List.dropWhile_cons_of_neg solid, ← List.cons_append,
        rdropWhile_space back]
      have whole := trimmed.trim_eq
      rw [trim, front] at whole
      exact whole

theorem trim_padded {before after : List Char} (front : Space isSpace before)
    (back : Space isSpace after) (text : List Char) :
    trim isSpace (before ++ (text ++ after)) = trim isSpace text := by
  rcases exists_trim isSpace text with ⟨lead, tail, isLead, isTail, split⟩
  have whole : before ++ (text ++ after) =
      (before ++ lead) ++ (trim isSpace text ++ (tail ++ after)) := by
    conv_lhs => rw [split]
    simp only [List.append_assoc]
  rw [whole, (trimmed_trim isSpace text).trim_padded (front.append isLead) (isTail.append back)]

section Infix

variable {pattern : List Char} (present : pattern ≠ []) (solid : ∀ c ∈ pattern, isSpace c = false)

include present solid

theorem infix_of_front {before text : List Char} (front : Space isSpace before)
    (inside : pattern <:+: before ++ text) : pattern <:+: text := by
  induction before with
  | nil => exact inside
  | cons c before ih =>
      rw [Space, List.forall_mem_cons] at front
      rw [List.cons_append, List.infix_cons_iff, List.prefix_cons_iff] at inside
      rcases inside with (empty | ⟨rest, split, _⟩) | later
      · exact absurd empty present
      · have clear := solid c (by rw [split]; exact List.mem_cons_self)
        rw [front.1] at clear
        cases clear
      · exact ih front.2 later

theorem infix_of_back {text after : List Char} (back : Space isSpace after)
    (inside : pattern <:+: text ++ after) : pattern <:+: text := by
  induction after using List.reverseRecOn with
  | nil => simpa using inside
  | append_singleton after c ih =>
      rw [← List.append_assoc, List.infix_concat_iff, List.suffix_concat_iff] at inside
      rcases inside with (empty | ⟨rest, split, _⟩) | earlier
      · exact absurd empty present
      · have clear := solid c (by rw [split]; simp)
        rw [back c (by simp)] at clear
        cases clear
      · exact ih (fun d member => back d (List.mem_append_left _ member)) earlier

theorem infix_of_padded {before text after : List Char} (front : Space isSpace before)
    (back : Space isSpace after) (inside : pattern <:+: before ++ (text ++ after)) :
    pattern <:+: text :=
  infix_of_back present solid back (infix_of_front present solid front inside)

end Infix

end O7Formal.Words
