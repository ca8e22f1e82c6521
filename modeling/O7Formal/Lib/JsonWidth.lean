import O7Formal.Lib.JsonTree

/-! How long JSON texts are. The compact text of an array or an object takes what its parts take, in
any order, and no text of a value is shorter than its compact text. -/

namespace O7Formal.Json

open Utf8 ByteCodec

def elementWidth (t : Tree) : Nat := t.bytes.length + 1

def memberWidth (p : String × Tree) : Nat := (quoteBytes p.1).length + p.2.bytes.length + 2

theorem moreElementBytes_length (rest : List Tree) :
    (moreElementBytes rest).length = (rest.map elementWidth).sum + 1 := by
  induction rest with
  | nil => rfl
  | cons t rest ih =>
      simp only [moreElementBytes, List.length_cons, List.length_append, ih, List.map_cons,
        List.sum_cons, elementWidth]
      omega

theorem moreMemberBytes_length (rest : List (String × Tree)) :
    (moreMemberBytes rest).length = (rest.map memberWidth).sum + 1 := by
  induction rest with
  | nil => rfl
  | cons p rest ih =>
      simp only [moreMemberBytes, List.length_cons, List.length_append, ih, List.map_cons,
        List.sum_cons, memberWidth]
      omega

theorem array_length {elements : List Tree} (nonempty : elements ≠ []) :
    (Tree.array elements).bytes.length = (elements.map elementWidth).sum + 1 := by
  cases elements with
  | nil => exact absurd rfl nonempty
  | cons t rest =>
      simp only [Tree.bytes, List.length_cons, List.length_append, moreElementBytes_length,
        List.map_cons, List.sum_cons, elementWidth]
      omega

theorem object_length {members : List (String × Tree)} (nonempty : members ≠ []) :
    (Tree.object members).bytes.length = (members.map memberWidth).sum + 1 := by
  cases members with
  | nil => exact absurd rfl nonempty
  | cons p rest =>
      simp only [Tree.bytes, List.length_cons, List.length_append, moreMemberBytes_length,
        List.map_cons, List.sum_cons, memberWidth]
      omega

theorem quoteBytes_length {s : String} (plain : ∀ c ∈ s.toList, escape c = [c]) :
    (quoteBytes s).length = (utf8Bytes s).length + 2 := by
  have kept : s.toList.flatMap escape = s.toList := by
    rw [List.flatMap_congr plain, List.flatMap_singleton']
  rw [← utf8_quote, quote, kept, utf8_cons, utf8_append, utf8Bytes]
  simp only [List.length_append]
  change 1 + ((utf8 s.toList).length + 1) = (utf8 s.toList).length + 2
  omega

theorem escape_unescaped {c : Char} (unescaped : Unescaped c) : escape c = [c] := by
  rcases unescaped with ⟨printable, mark, slash⟩
  have apart : ∀ d : Char, d.toNat < 0x20 → c ≠ d := by
    intro d control same
    rw [same] at printable
    omega
  rw [escape, if_neg mark, if_neg slash, if_neg (apart _ (by decide)), if_neg (apart _ (by decide)),
    if_neg (apart _ (by decide)), if_neg (apart _ (by decide)), if_neg (apart _ (by decide)),
    if_neg (by omega)]

theorem escape_short {c : Char} (listed : c ∈ shortEscapes) :
    (utf8 (escape (shortMeaning c))).length ≤ (utf8 ['\\', c]).length := by
  have all : ∀ c ∈ shortEscapes,
      (utf8 (escape (shortMeaning c))).length ≤ (utf8 ['\\', c]).length :=
    forall_mem_of_all (by decide)
  exact all c listed

theorem utf8EncodeChar_length (c : Char) : (String.utf8EncodeChar c).length ≤ 4 := by
  rw [String.length_utf8EncodeChar]
  exact Char.utf8Size_le_four c

theorem escape_length (c : Char) : (utf8 (escape c)).length ≤ 6 := by
  by_cases printable : 0x20 ≤ c.toNat
  · by_cases mark : c = '"'
    · rw [mark]
      decide
    · by_cases slash : c = '\\'
      · rw [slash]
        decide
      · rw [escape_unescaped ⟨printable, mark, slash⟩, utf8_cons, utf8_nil, List.append_nil]
        exact (utf8EncodeChar_length c).trans (by decide)
  · have all : ∀ n < 0x20, (utf8 (escape (Char.ofNat n))).length ≤ 6 := by decide +kernel
    have bound := all c.toNat (by omega)
    rwa [Char.ofNat_toNat] at bound

theorem CodeUnit.spelled_length (unit : CodeUnit) :
    (utf8 (Item.unicode unit).spell).length = 6 := by
  rw [Item.spell, utf8_cons, utf8_cons, List.length_append, List.length_append,
    length_utf8_ascii unit.ascii, unit.four]
  rfl

theorem escaped_length (items : List Item) :
    (utf8 ((decode items).flatMap escape)).length ≤ (utf8 (spell items)).length := by
  induction items using decode.induct with
  | case1 => rfl
  | case2 c unescaped items ih =>
      simp only [decode, spell, List.flatMap_cons, utf8_append, List.length_append, Item.spell,
        escape_unescaped unescaped] at ih ⊢
      omega
  | case3 c listed items ih =>
      have short := escape_short listed
      simp only [decode, spell, List.flatMap_cons, utf8_append, List.length_append, Item.spell] at ih ⊢
      omega
  | case4 high low items pair ih =>
      have char := escape_length (pairScalar high low)
      have first := high.spelled_length
      simp only [decode, pair, if_true, spell, List.flatMap_cons, utf8_append, List.length_append]
        at ih ⊢
      omega
  | case5 high low items alone ih =>
      have char := escape_length high.scalar
      have first := high.spelled_length
      simp only [decode, alone, Bool.false_eq_true, if_false, spell, List.flatMap_cons, utf8_append,
        List.length_append] at ih ⊢
      omega
  | case6 unit items alone ih =>
      have char := escape_length unit.scalar
      have first := unit.spelled_length
      have decoded : decode (.unicode unit :: items) = unit.scalar :: decode items := by
        rw [decode]
        exact alone
      simp only [decoded, spell, List.flatMap_cons, utf8_append, List.length_append] at ih ⊢
      omega

theorem quoteBytes_le {items : List Item} {s : String} (read : readString items = some s) :
    (quoteBytes s).length ≤ (utf8 (quoted items)).length := by
  unfold readString at read
  split_ifs at read
  have inside := escaped_length items
  rw [← utf8_quote, quote, ← Option.some.inj read, String.toList_ofList, quoted]
  simp only [utf8_cons, utf8_append, List.length_append]
  omega

theorem isDigit_ascii {c : Char} (digit : c.isDigit = true) : IsAscii c :=
  lt_of_le_of_lt (Char.isDigit_iff_toNat.mp digit).2 (by decide)

theorem ofDigitChars_lt {digits : List Char} (all : ∀ c ∈ digits, c.isDigit = true) (start : Nat) :
    Nat.ofDigitChars 10 digits start < (start + 1) * 10 ^ digits.length := by
  induction digits generalizing start with
  | nil => simp
  | cons c digits ih =>
      rw [List.forall_mem_cons] at all
      have bounds := Char.isDigit_iff_toNat.mp all.1
      rw [Nat.ofDigitChars_cons]
      calc Nat.ofDigitChars 10 digits (10 * start + (c.toNat - '0'.toNat))
          < (10 * start + (c.toNat - '0'.toNat) + 1) * 10 ^ digits.length := ih all.2 _
        _ ≤ ((start + 1) * 10) * 10 ^ digits.length := by
            apply Nat.mul_le_mul_right
            have zero : '0'.toNat = 48 := rfl
            have nine : '9'.toNat = 57 := rfl
            omega
        _ = (start + 1) * 10 ^ (c :: digits).length := by
            rw [List.length_cons]
            ring

theorem toDigits_length_le {digits : List Char} (nonempty : digits ≠ [])
    (all : ∀ c ∈ digits, c.isDigit = true) :
    (Nat.toDigits 10 (Nat.ofDigitChars 10 digits 0)).length ≤ digits.length := by
  refine (Nat.length_toDigits_le_iff (by decide) (List.length_pos_iff.mpr nonempty)).mpr ?_
  have bound := ofDigitChars_lt all 0
  omega

theorem length_le_utf8 (text : List Char) : text.length ≤ (utf8 text).length := by
  induction text with
  | nil => exact Nat.zero_le _
  | cons c text ih =>
      have positive := Char.utf8Size_pos c
      rw [utf8_cons, List.length_append, String.length_utf8EncodeChar, List.length_cons]
      omega

theorem utf8_toDigits (n : Nat) : (utf8 (Nat.toDigits 10 n)).length = (Nat.toDigits 10 n).length :=
  length_utf8_ascii fun c member => isDigit_ascii ((digits_toDigits n).2 c member)

theorem numeral_length {text : List Char} (nonempty : text ≠ []) :
    (utf8 (Numeral.ofLiteral text).write).length ≤ (utf8 text).length := by
  unfold Numeral.ofLiteral
  split
  · rename_i digits
    dsimp only
    split_ifs with integral
    · rcases integral with ⟨all, positive, _⟩
      have some : digits ≠ [] := by
        intro none
        rw [none] at positive
        exact absurd positive (by decide)
      have short := toDigits_length_le some (List.all_eq_true.mp all)
      have whole := length_le_utf8 digits
      have value : (-(Nat.ofDigitChars 10 digits 0 : Int)).natAbs = Nat.ofDigitChars 10 digits 0 := by
        omega
      rw [Numeral.write, writeInteger, if_pos (by omega), value, utf8_cons, utf8_cons,
        List.length_append, List.length_append, utf8_toDigits]
      omega
    · exact le_refl _
  · dsimp only
    split_ifs with integral
    · have short := toDigits_length_le nonempty (List.all_eq_true.mp integral.1)
      have whole := length_le_utf8 text
      rw [Numeral.write, writeInteger, if_neg (by omega), Int.natAbs_natCast, utf8_toDigits]
      omega
    · exact le_refl _

theorem utf8_bracketed {first last : Char} (low : IsAscii first) (low' : IsAscii last)
    (body : List Char) : (utf8 (first :: (body ++ [last]))).length = (utf8 body).length + 2 := by
  rw [utf8_cons_ascii low, utf8_append, utf8_cons_ascii low', utf8_nil, List.length_cons,
    List.length_append, List.length_singleton]

theorem comma_length : (String.utf8EncodeChar ',').length = 1 := rfl

theorem colon_length : (String.utf8EncodeChar ':').length = 1 := rfl

mutual

theorem Spells.bytes_le {v : Value} {text : List Char} (spelled : Spells v text) {t : Tree}
    (denotes : v.tree = some t) : t.bytes.length ≤ (utf8 text).length := by
  cases spelled with
  | null =>
      cases denotes
      exact le_refl _
  | bool b =>
      cases denotes
      exact le_refl _
  | number literal =>
      cases denotes
      rcases literal.property.lead with ⟨c, later, same, _⟩
      exact numeral_length (by simp [same])
  | string items =>
      rcases Option.map_eq_some_iff.mp denotes with ⟨s, read, rfl⟩
      exact quoteBytes_le read
  | @emptyArray body blank =>
      cases denotes
      rw [utf8_bracketed (by decide) (by decide)]
      exact Nat.le_add_left _ _
  | @array elements body listed =>
      rcases Option.map_eq_some_iff.mp denotes with ⟨ts, parts, rfl⟩
      rcases listed.bytes_le parts with ⟨nonempty, bound⟩
      rw [array_length nonempty, utf8_bracketed (by decide) (by decide)]
      omega
  | @emptyObject body blank =>
      cases denotes
      rw [utf8_bracketed (by decide) (by decide)]
      exact Nat.le_add_left _ _
  | @object members body listed =>
      rcases Option.map_eq_some_iff.mp denotes with ⟨ts, parts, rfl⟩
      rcases listed.bytes_le parts with ⟨nonempty, bound⟩
      rw [object_length nonempty, utf8_bracketed (by decide) (by decide)]
      omega

theorem Elements.bytes_le {vs : List Value} {body : List Char} (listed : Elements vs body)
    {ts : List Tree} (denotes : treeElements vs = some ts) :
    ts ≠ [] ∧ (ts.map elementWidth).sum ≤ (utf8 body).length + 1 := by
  cases listed with
  | @last v before text after _ spelled _ =>
      simp only [treeElements, Option.bind_eq_bind, Option.bind_eq_some_iff, Option.pure_def,
        Option.some.injEq] at denotes
      rcases denotes with ⟨t, here, _, rfl, rfl⟩
      have bound := spelled.bytes_le here
      refine ⟨List.cons_ne_nil _ _, ?_⟩
      simp only [utf8_append, List.length_append, List.map_cons, List.map_nil, List.sum_cons,
        List.sum_nil, elementWidth]
      omega
  | @more v vs before text after later _ spelled _ others =>
      simp only [treeElements, Option.bind_eq_bind, Option.bind_eq_some_iff, Option.pure_def,
        Option.some.injEq] at denotes
      rcases denotes with ⟨t, here, rest, parts, rfl⟩
      have bound := spelled.bytes_le here
      have below := (others.bytes_le parts).2
      refine ⟨List.cons_ne_nil _ _, ?_⟩
      simp only [utf8_append, utf8_cons, List.length_append, comma_length, List.map_cons,
        List.sum_cons, elementWidth]
      omega

theorem Members.bytes_le {ms : List (List Item × Value)} {body : List Char}
    (listed : Members ms body) {ts : List (String × Tree)} (denotes : treeMembers ms = some ts) :
    ts ≠ [] ∧ (ts.map memberWidth).sum ≤ (utf8 body).length + 1 := by
  cases listed with
  | @last name v lead gap before text after _ _ _ spelled _ =>
      simp only [treeMembers, Option.bind_eq_bind, Option.bind_eq_some_iff, Option.pure_def,
        Option.some.injEq] at denotes
      rcases denotes with ⟨key, read, t, here, _, rfl, rfl⟩
      have named := quoteBytes_le read
      have bound := spelled.bytes_le here
      refine ⟨List.cons_ne_nil _ _, ?_⟩
      simp only [utf8_append, utf8_cons, List.length_append, colon_length, List.map_cons,
        List.map_nil, List.sum_cons, List.sum_nil, memberWidth]
      omega
  | @more name v others lead gap before text after later _ _ _ spelled _ rest =>
      simp only [treeMembers, Option.bind_eq_bind, Option.bind_eq_some_iff, Option.pure_def,
        Option.some.injEq] at denotes
      rcases denotes with ⟨key, read, t, here, tail, parts, rfl⟩
      have named := quoteBytes_le read
      have bound := spelled.bytes_le here
      have below := (rest.bytes_le parts).2
      refine ⟨List.cons_ne_nil _ _, ?_⟩
      simp only [utf8_append, utf8_cons, List.length_append, comma_length, colon_length,
        List.map_cons, List.sum_cons, memberWidth]
      omega

end

theorem Document.bytes_le {v : Value} {text : List Char} (document : Document v text) {t : Tree}
    (denotes : v.tree = some t) : t.bytes.length ≤ (utf8 text).length := by
  rcases document with ⟨before, spelled, after, _, isSpelled, _, rfl⟩
  have inside := isSpelled.bytes_le denotes
  simp only [utf8_append, List.length_append]
  omega

end O7Formal.Json
