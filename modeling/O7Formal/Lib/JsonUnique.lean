import O7Formal.Lib.JsonTree

/-! A JSON text spells one value only, so that what a text denotes is a function of it. -/

namespace O7Formal.Json

theorem span_unique {p : Char → Bool} {a b r s : List Char} (insideA : ∀ c ∈ a, p c = true)
    (insideB : ∀ c ∈ b, p c = true) (stopsR : ∀ c ∈ r.head?, p c = false)
    (stopsS : ∀ c ∈ s.head?, p c = false) (same : a ++ r = b ++ s) : a = b ∧ r = s := by
  have longest : ∀ x y : List Char, (∀ c ∈ x, p c = true) → (∀ c ∈ y.head?, p c = false) →
      (x ++ y).takeWhile p = x := by
    intro x y inside stops
    rw [List.takeWhile_append_of_pos inside]
    cases y with
    | nil => simp
    | cons c y => simp [stops c rfl]
  have front : a = b := by
    calc
      a = (a ++ r).takeWhile p := (longest a r insideA stopsR).symm
      _ = (b ++ s).takeWhile p := by rw [same]
      _ = b := longest b s insideB stopsS
  rw [front] at same
  exact ⟨front, List.append_cancel_left same⟩

def numeric (c : Char) : Bool :=
  c.isDigit || c == '-' || c == '+' || c == '.' || c == 'e' || c == 'E'

theorem Digits.numeric {text : List Char} (digits : Digits text) :
    ∀ c ∈ text, Json.numeric c = true := by
  intro c member
  simp [Json.numeric, digits.2 c member]

theorem Whole.numeric {text : List Char} (whole : Whole text) :
    ∀ c ∈ text, Json.numeric c = true := by
  cases whole with
  | zero => exact List.all_eq_true.mp rfl
  | positive digits _ => exact digits.numeric

theorem Fraction.numeric {text : List Char} (fraction : Fraction text) :
    ∀ c ∈ text, Json.numeric c = true := by
  cases fraction with
  | absent => exact List.all_eq_true.mp rfl
  | present digits => exact List.forall_mem_cons.mpr ⟨by decide, digits.numeric⟩

theorem Exponent.numeric {text : List Char} (exponent : Exponent text) :
    ∀ c ∈ text, Json.numeric c = true := by
  cases exponent with
  | absent => exact List.all_eq_true.mp rfl
  | present letter signed digits =>
      rw [List.forall_mem_cons, List.forall_mem_append]
      refine ⟨?_, ?_, digits.numeric⟩
      · rcases letter with lower | upper
        · rw [lower]
          decide
        · rw [upper]
          decide
      · rcases signed with absent | plus | minus
        · rw [absent]
          exact List.all_eq_true.mp rfl
        · rw [plus]
          exact List.all_eq_true.mp rfl
        · rw [minus]
          exact List.all_eq_true.mp rfl

theorem Number.numeric {text : List Char} (number : Number text) :
    ∀ c ∈ text, Json.numeric c = true := by
  cases number with
  | mk negative whole fraction exponent =>
      rw [List.forall_mem_append, List.forall_mem_append, List.forall_mem_append]
      refine ⟨?_, whole.numeric, fraction.numeric, exponent.numeric⟩
      rcases negative with absent | present
      · rw [absent]
        exact List.all_eq_true.mp rfl
      · rw [present]
        exact List.all_eq_true.mp rfl

def Ends (r : List Char) : Prop := ∀ c ∈ r.head?, numeric c = false

theorem ends_blank {blank r : List Char} (isBlank : Blank blank) (ends : Ends r) :
    Ends (blank ++ r) := by
  cases blank with
  | nil => exact ends
  | cons c blank =>
      intro d first
      cases first
      have white := isBlank c List.mem_cons_self
      simp only [Json.isBlank, Bool.or_eq_true, beq_iff_eq] at white
      rcases white with ((space | tab) | line) | ret
      · rw [space]
        decide
      · rw [tab]
        decide
      · rw [line]
        decide
      · rw [ret]
        decide

theorem codeUnit_unique {u w : CodeUnit} (same : u.digits = w.digits) : u = w := by
  cases u with
  | mk digits value four names =>
      cases w with
      | mk digits' value' four' names' =>
          cases same
          have values : value = value' := Option.some.inj (names.symm.trans names')
          cases values
          rfl

theorem item_lead (item : Item) : ∃ c later, item.spell = c :: later ∧ c ≠ '"' := by
  cases item with
  | plain c unescaped => exact ⟨c, [], rfl, unescaped.2.1⟩
  | short c listed => exact ⟨'\\', [c], rfl, by decide⟩
  | unicode unit => exact ⟨'\\', _, rfl, by decide⟩

theorem item_unique {item other : Item} {r s : List Char}
    (same : item.spell ++ r = other.spell ++ s) : item = other ∧ r = s := by
  have notU : ∀ c, c ∈ shortEscapes → c ≠ 'u' := by
    rintro c listed rfl
    simp [shortEscapes] at listed
  cases item with
  | plain c unescaped =>
      cases other with
      | plain d unescaped' =>
          rcases List.cons.inj same with ⟨first, rest⟩
          cases first
          exact ⟨rfl, rest⟩
      | short d listed => exact absurd (List.cons.inj same).1 unescaped.2.2
      | unicode unit => exact absurd (List.cons.inj same).1 unescaped.2.2
  | short c listed =>
      cases other with
      | plain d unescaped => exact absurd (List.cons.inj same).1.symm unescaped.2.2
      | short d listed' =>
          rcases List.cons.inj (List.cons.inj same).2 with ⟨first, rest⟩
          cases first
          exact ⟨rfl, rest⟩
      | unicode unit => exact absurd (List.cons.inj (List.cons.inj same).2).1 (notU c listed)
  | unicode unit =>
      cases other with
      | plain d unescaped => exact absurd (List.cons.inj same).1.symm unescaped.2.2
      | short d listed =>
          exact absurd (List.cons.inj (List.cons.inj same).2).1.symm (notU d listed)
      | unicode unit' =>
          have tails := (List.cons.inj (List.cons.inj same).2).2
          have split := List.append_inj tails (by rw [unit.four, unit'.four])
          rw [codeUnit_unique split.1]
          exact ⟨rfl, split.2⟩

theorem spell_unique {items : List Item} : ∀ {others : List Item} {r s : List Char},
    spell items ++ '"' :: r = spell others ++ '"' :: s → items = others ∧ r = s := by
  induction items with
  | nil =>
      intro others r s same
      cases others with
      | nil => exact ⟨rfl, (List.cons.inj same).2⟩
      | cons other others =>
          rcases item_lead other with ⟨c, later, written, plain⟩
          simp only [spell, List.flatMap_cons, written, List.flatMap_nil, List.nil_append,
            List.cons_append, List.cons.injEq] at same
          exact absurd same.1.symm plain
  | cons item items ih =>
      intro others r s same
      cases others with
      | nil =>
          rcases item_lead item with ⟨c, later, written, plain⟩
          simp only [spell, List.flatMap_cons, written, List.flatMap_nil, List.nil_append,
            List.cons_append, List.cons.injEq] at same
          exact absurd same.1 plain
      | cons other others =>
          simp only [spell, List.flatMap_cons, List.append_assoc] at same
          rcases item_unique same with ⟨first, rest⟩
          rcases ih rest with ⟨tails, last⟩
          exact ⟨by rw [first, tails], last⟩

theorem quoted_unique {items others : List Item} {r s : List Char}
    (same : quoted items ++ r = quoted others ++ s) : items = others ∧ r = s := by
  apply spell_unique
  simpa [quoted] using same

def Value.starts : Value → Char → Bool
  | .null, c => c == 'n'
  | .bool b, c => c == if b then 't' else 'f'
  | .number _, c => c == '-' || c.isDigit
  | .string _, c => c == '"'
  | .array _, c => c == '['
  | .object _, c => c == '{'

theorem Spells.starts {v : Value} {text : List Char} (spelled : Spells v text) :
    ∃ c later, text = c :: later ∧ v.starts c = true := by
  cases spelled with
  | null => exact ⟨'n', _, rfl, rfl⟩
  | bool b => cases b <;> exact ⟨_, _, rfl, rfl⟩
  | number literal =>
      rcases literal.property.lead with ⟨c, later, same, first⟩
      refine ⟨c, later, same, ?_⟩
      simpa [Value.starts] using first
  | string items => exact ⟨'"', _, rfl, rfl⟩
  | emptyArray _ => exact ⟨'[', _, rfl, rfl⟩
  | array _ => exact ⟨'[', _, rfl, rfl⟩
  | emptyObject _ => exact ⟨'{', _, rfl, rfl⟩
  | object _ => exact ⟨'{', _, rfl, rfl⟩

def closes (c : Char) : Bool := c == ',' || c == ']' || c == '}'

theorem closes_facts {c : Char} (close : closes c = true) :
    isBlank c = false ∧ numeric c = false := by
  simp only [closes, Bool.or_eq_true, beq_iff_eq] at close
  rcases close with (comma | bracket) | brace
  · rw [comma]
    decide
  · rw [bracket]
    decide
  · rw [brace]
    decide

theorem startsValue_nonblank {c : Char} (starts : startsValue c = true) : isBlank c = false := by
  by_contra white
  rw [Bool.not_eq_false] at white
  simp only [isBlank, Bool.or_eq_true, beq_iff_eq] at white
  rcases white with ((space | tab) | line) | ret
  · rw [space] at starts
    exact absurd starts (by decide)
  · rw [tab] at starts
    exact absurd starts (by decide)
  · rw [line] at starts
    exact absurd starts (by decide)
  · rw [ret] at starts
    exact absurd starts (by decide)

theorem blank_unique {a b r s : List Char} (blankA : Blank a) (blankB : Blank b)
    (stopsR : ∀ c ∈ r.head?, isBlank c = false) (stopsS : ∀ c ∈ s.head?, isBlank c = false)
    (same : a ++ r = b ++ s) : r = s :=
  (span_unique blankA blankB stopsR stopsS same).2

theorem Spells.nonblank {v : Value} {text rest : List Char} (spelled : Spells v text) :
    ∀ c ∈ (text ++ rest).head?, isBlank c = false := by
  intro c first
  rcases spelled.lead with ⟨d, later, written, starts⟩
  rw [written] at first
  cases first
  exact startsValue_nonblank starts

/-- Two spellings with the same text in front agree, when the first is no longer than `n`. -/
def UniqueUpTo (n : Nat) : Prop :=
  ∀ {v w : Value} {a b r s : List Char}, a.length ≤ n → Spells v a → Spells w b → Ends r → Ends s →
    a ++ r = b ++ s → v = w ∧ r = s

theorem padded_unique {n : Nat} (unique : UniqueUpTo n) {v w : Value}
    {before text after before' text' after' r s : List Char} {c d : Char}
    (short : text.length ≤ n) (isBefore : Blank before) (spelled : Spells v text)
    (isAfter : Blank after) (isBefore' : Blank before') (spelled' : Spells w text')
    (isAfter' : Blank after') (close : closes c = true) (close' : closes d = true)
    (same : before ++ (text ++ (after ++ c :: r)) = before' ++ (text' ++ (after' ++ d :: s))) :
    v = w ∧ c = d ∧ r = s := by
  have mark : ∀ {e : Char} {rest : List Char}, closes e = true →
      ∀ f ∈ (e :: rest).head?, isBlank f = false ∧ numeric f = false := by
    intro e rest isClose f first
    cases first
    exact closes_facts isClose
  have texts := blank_unique isBefore isBefore' spelled.nonblank spelled'.nonblank same
  have endsC : Ends (after ++ c :: r) :=
    ends_blank isAfter (fun f first => (mark close f first).2)
  have endsD : Ends (after' ++ d :: s) :=
    ends_blank isAfter' (fun f first => (mark close' f first).2)
  rcases unique short spelled spelled' endsC endsD texts with ⟨values, tails⟩
  have rests := blank_unique isAfter isAfter' (fun f first => (mark close f first).1)
    (fun f first => (mark close' f first).1) tails
  exact ⟨values, List.cons.inj rests⟩

theorem elements_unique {n : Nat} (unique : UniqueUpTo n) {vs : List Value} :
    ∀ {ws : List Value} {body body' r s : List Char}, body.length ≤ n → Elements vs body →
      Elements ws body' → body ++ ']' :: r = body' ++ ']' :: s → vs = ws ∧ r = s := by
  induction vs with
  | nil =>
      intro ws body body' r s _ listed
      cases listed
  | cons v vs ih =>
      intro ws body body' r s short listed listed' same
      cases listed with
      | last before spelled after =>
          simp only [List.length_append] at short
          cases listed' with
          | last before' spelled' after' =>
              simp only [List.append_assoc] at same
              rcases padded_unique unique (by omega) before spelled after before' spelled' after'
                rfl rfl same with ⟨values, _, rests⟩
              exact ⟨by rw [values], rests⟩
          | more before' spelled' after' others' =>
              simp only [List.append_assoc, List.cons_append] at same
              rcases padded_unique unique (by omega) before spelled after before' spelled' after'
                rfl rfl same with ⟨_, clash, _⟩
              exact absurd clash (by decide)
      | more before spelled after others =>
          simp only [List.length_append, List.length_cons] at short
          cases listed' with
          | last before' spelled' after' =>
              simp only [List.append_assoc, List.cons_append] at same
              rcases padded_unique unique (by omega) before spelled after before' spelled' after'
                rfl rfl same with ⟨_, clash, _⟩
              exact absurd clash (by decide)
          | more before' spelled' after' others' =>
              simp only [List.append_assoc, List.cons_append] at same
              rcases padded_unique unique (by omega) before spelled after before' spelled' after'
                rfl rfl same with ⟨values, _, rests⟩
              rcases ih (by omega) others others' rests with ⟨tails, last⟩
              exact ⟨by rw [values, tails], last⟩

theorem name_unique {name name' : List Item} {lead gap lead' gap' r s : List Char}
    (isLead : Blank lead) (isGap : Blank gap) (isLead' : Blank lead') (isGap' : Blank gap')
    (same : lead ++ (quoted name ++ (gap ++ ':' :: r)) =
      lead' ++ (quoted name' ++ (gap' ++ ':' :: s))) : name = name' ∧ r = s := by
  have quotes : ∀ {items : List Item} {rest : List Char},
      ∀ c ∈ (quoted items ++ rest).head?, isBlank c = false := by
    intro items rest c first
    cases first
    rfl
  have colon : ∀ {rest : List Char}, ∀ c ∈ (':' :: rest).head?, isBlank c = false := by
    intro rest c first
    cases first
    rfl
  have names := blank_unique isLead isLead' quotes quotes same
  rcases quoted_unique names with ⟨first, rests⟩
  have tails := blank_unique isGap isGap' colon colon rests
  exact ⟨first, (List.cons.inj tails).2⟩

theorem members_unique {n : Nat} (unique : UniqueUpTo n) {ms : List (List Item × Value)} :
    ∀ {ns : List (List Item × Value)} {body body' r s : List Char}, body.length ≤ n →
      Members ms body → Members ns body' → body ++ '}' :: r = body' ++ '}' :: s →
      ms = ns ∧ r = s := by
  induction ms with
  | nil =>
      intro ns body body' r s _ listed
      cases listed
  | cons m ms ih =>
      intro ns body body' r s short listed listed' same
      cases listed with
      | last lead gap before spelled after =>
          simp only [List.length_append, List.length_cons] at short
          cases listed' with
          | last lead' gap' before' spelled' after' =>
              simp only [List.append_assoc, List.cons_append] at same
              rcases name_unique lead gap lead' gap' same with ⟨names, texts⟩
              rcases padded_unique unique (by omega) before spelled after before' spelled' after'
                rfl rfl texts with ⟨values, _, rests⟩
              exact ⟨by rw [names, values], rests⟩
          | more lead' gap' before' spelled' after' others' =>
              simp only [List.append_assoc, List.cons_append] at same
              rcases name_unique lead gap lead' gap' same with ⟨names, texts⟩
              rcases padded_unique unique (by omega) before spelled after before' spelled' after'
                rfl rfl texts with ⟨_, clash, _⟩
              exact absurd clash (by decide)
      | more lead gap before spelled after others =>
          simp only [List.length_append, List.length_cons] at short
          cases listed' with
          | last lead' gap' before' spelled' after' =>
              simp only [List.append_assoc, List.cons_append] at same
              rcases name_unique lead gap lead' gap' same with ⟨names, texts⟩
              rcases padded_unique unique (by omega) before spelled after before' spelled' after'
                rfl rfl texts with ⟨_, clash, _⟩
              exact absurd clash (by decide)
          | more lead' gap' before' spelled' after' others' =>
              simp only [List.append_assoc, List.cons_append] at same
              rcases name_unique lead gap lead' gap' same with ⟨names, texts⟩
              rcases padded_unique unique (by omega) before spelled after before' spelled' after'
                rfl rfl texts with ⟨values, _, rests⟩
              rcases ih (by omega) others others' rests with ⟨tails, last⟩
              exact ⟨by rw [names, values, tails], last⟩

theorem elements_not_blank {vs : List Value} {body blank r s : List Char}
    (listed : Elements vs body) (isBlank : Blank blank)
    (same : body ++ ']' :: r = blank ++ ']' :: s) : False := by
  rcases listed.lead with ⟨before, c, later, isBefore, split, starts, _⟩
  rw [split, List.append_assoc] at same
  have tails := blank_unique isBefore isBlank
    (fun d first => by cases first; exact startsValue_nonblank starts)
    (fun d first => by cases first; rfl) same
  rw [(List.cons.inj tails).1] at starts
  exact absurd starts (by decide)

theorem members_not_blank {ms : List (List Item × Value)} {body blank r s : List Char}
    (listed : Members ms body) (isBlank : Blank blank)
    (same : body ++ '}' :: r = blank ++ '}' :: s) : False := by
  rcases listed.lead with ⟨before, later, isBefore, split, _⟩
  rw [split, List.append_assoc] at same
  have tails := blank_unique isBefore isBlank (fun d first => by cases first; rfl)
    (fun d first => by cases first; rfl) same
  exact absurd (List.cons.inj tails).1 (by decide)

theorem closing_unique {c : Char} {a b r s : List Char} (nonblank : isBlank c = false)
    (blankA : Blank a) (blankB : Blank b) (same : a ++ c :: r = b ++ c :: s) : r = s := by
  have tails := blank_unique blankA blankB (fun d first => by cases first; exact nonblank)
    (fun d first => by cases first; exact nonblank) same
  exact (List.cons.inj tails).2

theorem starts_kind {v w : Value} {c : Char} (starts : v.starts c = true)
    (starts' : w.starts c = true) : v.ctorIdx = w.ctorIdx := by
  cases v <;> cases w <;> simp only [Value.starts, beq_iff_eq, Bool.or_eq_true] at starts starts'
  all_goals first
    | rfl
    | (exfalso; subst starts; revert starts'; first | decide | (split <;> decide))
    | (exfalso; subst starts'; revert starts; first | decide | (split <;> decide))

theorem spells_kind {v w : Value} {a b r s : List Char} (spelled : Spells v a)
    (spelled' : Spells w b) (same : a ++ r = b ++ s) : v.ctorIdx = w.ctorIdx := by
  rcases spelled.starts with ⟨c, later, written, starts⟩
  rcases spelled'.starts with ⟨d, later', written', starts'⟩
  rw [written, written'] at same
  rw [← (List.cons.inj same).1] at starts'
  exact starts_kind starts starts'

theorem array_unique {n : Nat} (unique : UniqueUpTo n) {vs ws : List Value} {a b r s : List Char}
    (short : a.length ≤ n + 1) (spelled : Spells (.array vs) a) (spelled' : Spells (.array ws) b)
    (same : a ++ r = b ++ s) : vs = ws ∧ r = s := by
  cases spelled with
  | emptyArray blank =>
      cases spelled' with
      | emptyArray blank' =>
          simp only [List.cons_append, List.append_assoc, List.nil_append, List.cons.injEq,
            true_and] at same
          exact ⟨rfl, closing_unique (by decide) blank blank' same⟩
      | array listed' =>
          simp only [List.cons_append, List.append_assoc, List.nil_append, List.cons.injEq,
            true_and] at same
          exact (elements_not_blank listed' blank same.symm).elim
  | array listed =>
      simp only [List.length_cons, List.length_append] at short
      cases spelled' with
      | emptyArray blank' =>
          simp only [List.cons_append, List.append_assoc, List.nil_append, List.cons.injEq,
            true_and] at same
          exact (elements_not_blank listed blank' same).elim
      | array listed' =>
          simp only [List.cons_append, List.append_assoc, List.nil_append, List.cons.injEq,
            true_and] at same
          exact elements_unique unique (by omega) listed listed' same

theorem object_unique {n : Nat} (unique : UniqueUpTo n) {ms ns : List (List Item × Value)}
    {a b r s : List Char} (short : a.length ≤ n + 1) (spelled : Spells (.object ms) a)
    (spelled' : Spells (.object ns) b) (same : a ++ r = b ++ s) : ms = ns ∧ r = s := by
  cases spelled with
  | emptyObject blank =>
      cases spelled' with
      | emptyObject blank' =>
          simp only [List.cons_append, List.append_assoc, List.nil_append, List.cons.injEq,
            true_and] at same
          exact ⟨rfl, closing_unique (by decide) blank blank' same⟩
      | object listed' =>
          simp only [List.cons_append, List.append_assoc, List.nil_append, List.cons.injEq,
            true_and] at same
          exact (members_not_blank listed' blank same.symm).elim
  | object listed =>
      simp only [List.length_cons, List.length_append] at short
      cases spelled' with
      | emptyObject blank' =>
          simp only [List.cons_append, List.append_assoc, List.nil_append, List.cons.injEq,
            true_and] at same
          exact (members_not_blank listed blank' same).elim
      | object listed' =>
          simp only [List.cons_append, List.append_assoc, List.nil_append, List.cons.injEq,
            true_and] at same
          exact members_unique unique (by omega) listed listed' same

/-- By induction on the length of the text: the parts of a value are spelled shorter. -/
theorem uniqueUpTo (n : Nat) : UniqueUpTo n := by
  induction n with
  | zero =>
      intro v w a b r s short spelled
      rcases spelled.lead with ⟨c, later, written, _⟩
      rw [written] at short
      simp at short
  | succ n ih =>
      intro v w a b r s short spelled spelled' ends ends' same
      have kind := spells_kind spelled spelled' same
      cases v with
      | null =>
          cases w <;> try cases kind
          cases spelled
          cases spelled'
          exact ⟨rfl, List.append_cancel_left same⟩
      | bool x =>
          cases w <;> try cases kind
          cases spelled
          cases spelled'
          rename_i y
          cases x <;> cases y <;> simp_all [boolWord]
      | number literal =>
          cases w <;> try cases kind
          cases spelled
          cases spelled'
          rename_i other
          rcases span_unique literal.property.numeric other.property.numeric ends ends' same with
            ⟨texts, rests⟩
          exact ⟨by rw [Subtype.ext texts], rests⟩
      | string items =>
          cases w <;> try cases kind
          cases spelled
          cases spelled'
          rcases quoted_unique same with ⟨texts, rests⟩
          exact ⟨by rw [texts], rests⟩
      | array elements =>
          cases w <;> try cases kind
          rcases array_unique ih short spelled spelled' same with ⟨parts, rests⟩
          exact ⟨by rw [parts], rests⟩
      | object members =>
          cases w <;> try cases kind
          rcases object_unique ih short spelled spelled' same with ⟨parts, rests⟩
          exact ⟨by rw [parts], rests⟩

theorem Document.unique {v w : Value} {text : List Char} (document : Document v text)
    (other : Document w text) : v = w := by
  rcases document with ⟨before, spelled, after, isBefore, isSpelled, isAfter, split⟩
  rcases other with ⟨before', spelled', after', isBefore', isSpelled', isAfter', split'⟩
  have ends : ∀ {blank : List Char}, Blank blank → Ends blank := by
    intro blank isBlank
    have nothing : Ends [] := by
      intro c first
      cases first
    have padded := ends_blank isBlank nothing
    rwa [List.append_nil] at padded
  have texts := blank_unique isBefore isBefore' isSpelled.nonblank isSpelled'.nonblank
    (split.symm.trans split')
  exact (uniqueUpTo spelled.length le_rfl isSpelled isSpelled' (ends isAfter) (ends isAfter')
    texts).1

def Denotes (text : List Char) (t : Tree) : Prop := ∃ v, Document v text ∧ v.tree = some t

theorem Denotes.unique {text : List Char} {t u : Tree} (denotes : Denotes text t)
    (other : Denotes text u) : t = u := by
  rcases denotes with ⟨v, document, tree⟩
  rcases other with ⟨w, document', tree'⟩
  rw [document.unique document', tree'] at tree
  exact (Option.some.inj tree).symm

def visible (c : Char) : Bool := 0x20 < c.toNat && c.toNat < 0x7f

theorem isDigit_visible {c : Char} (digit : c.isDigit = true) : visible c = true := by
  simp only [Char.isDigit, Bool.and_eq_true, decide_eq_true_eq, ge_iff_le, UInt32.le_iff_toNat_le]
    at digit
  have low : 48 ≤ c.toNat := digit.1
  have high : c.toNat ≤ 57 := digit.2
  simp only [visible, Bool.and_eq_true, decide_eq_true_eq]
  omega

theorem numeric_visible {c : Char} (inside : numeric c = true) : visible c = true := by
  simp only [numeric, Bool.or_eq_true, beq_iff_eq] at inside
  rcases inside with ((((digit | same) | same) | same) | same) | same
  · exact isDigit_visible digit
  all_goals
    rw [same]
    decide

theorem startsValue_visible {c : Char} (starts : startsValue c = true) : visible c = true := by
  simp only [startsValue, Bool.or_eq_true, beq_iff_eq] at starts
  rcases starts with ((((((same | same) | same) | same) | same) | same) | same) | digit
  case inr => exact isDigit_visible digit
  all_goals
    rw [same]
    decide

theorem Spells.last {v : Value} {text : List Char} (spelled : Spells v text) :
    ∀ c ∈ text.getLast?, visible c = true := by
  intro c last
  cases spelled with
  | null => cases last; decide
  | bool b => cases b <;> cases last <;> decide
  | number literal => exact numeric_visible (literal.property.numeric c (List.mem_of_getLast? last))
  | string items =>
      rw [quoted, ← List.cons_append, List.getLast?_concat] at last
      cases last
      decide
  | emptyArray _ | array _ | emptyObject _ | object _ =>
      rw [← List.cons_append, List.getLast?_concat] at last
      cases last
      decide

end O7Formal.Json
