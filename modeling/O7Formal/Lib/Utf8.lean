import O7Formal.Lib.PrefixCode

/-! UTF-8 as a code over characters: ASCII characters are one byte each, every byte of
any other character is at least `0x80`, and the encoding can be read back from the front
of a longer byte string. -/

namespace O7Formal.Utf8

open PrefixCode

def utf8 (text : List Char) : List UInt8 := text.flatMap String.utf8EncodeChar

@[simp] theorem utf8_nil : utf8 [] = [] := rfl

@[simp] theorem utf8_append (before after : List Char) :
    utf8 (before ++ after) = utf8 before ++ utf8 after := by
  simp [utf8]

theorem utf8_cons (c : Char) (text : List Char) :
    utf8 (c :: text) = String.utf8EncodeChar c ++ utf8 text := by
  simp [utf8]

theorem utf8_eq_nil_iff {text : List Char} : utf8 text = [] ↔ text = [] := by
  cases text with
  | nil => simp
  | cons c text => simp [utf8_cons]

/-- One character is one byte exactly below `0x80`. -/
def IsAscii (c : Char) : Prop := c.toNat < 0x80

instance (c : Char) : Decidable (IsAscii c) := Nat.decLt _ _

theorem utf8EncodeChar_ascii {c : Char} (low : IsAscii c) :
    String.utf8EncodeChar c = [c.toUInt8] := by
  have small : c.val.toNat ≤ 0x7f := by
    have bound : c.val.toNat < 0x80 := low
    omega
  simp only [String.utf8EncodeChar, small, if_true]
  rfl

theorem utf8_cons_ascii {c : Char} (low : IsAscii c) (text : List Char) :
    utf8 (c :: text) = c.toUInt8 :: utf8 text := by
  rw [utf8_cons, utf8EncodeChar_ascii low]
  rfl

theorem toNat_toUInt8 {c : Char} (low : IsAscii c) : c.toUInt8.toNat = c.toNat := by
  have bound : c.val.toNat < 0x80 := low
  have residue : c.toUInt8.toNat = c.val.toNat % 2 ^ 8 := UInt32.toNat_toUInt8 c.val
  rw [residue]
  exact Nat.mod_eq_of_lt (by omega)

theorem length_utf8_ascii {text : List Char} (ascii : ∀ c ∈ text, IsAscii c) :
    (utf8 text).length = text.length := by
  induction text with
  | nil => rfl
  | cons c text ih =>
      rw [utf8_cons_ascii (ascii c List.mem_cons_self), List.length_cons, List.length_cons,
        ih (fun d member => ascii d (List.mem_cons_of_mem c member))]

theorem toUInt8_inj {c d : Char} (lowC : IsAscii c) (lowD : IsAscii d) :
    c.toUInt8 = d.toUInt8 ↔ c = d := by
  constructor
  · intro same
    have values : c.toNat = d.toNat := by
      rw [← toNat_toUInt8 lowC, ← toNat_toUInt8 lowD, same]
    exact Char.toNat_inj.mp values
  · intro same
    rw [same]

theorem toNat_ofNat {n : Nat} (valid : n.isValidChar) : (Char.ofNat n).toNat = n := by
  rw [Char.ofNat, dif_pos valid]
  rfl

theorem ascii_of_byte {b : UInt8} (low : b.toNat < 0x80) :
    IsAscii (Char.ofNat b.toNat) ∧ (Char.ofNat b.toNat).toUInt8 = b := by
  have value : (Char.ofNat b.toNat).toNat = b.toNat := toNat_ofNat (Or.inl (by omega))
  have ascii : IsAscii (Char.ofNat b.toNat) := by
    rw [IsAscii, value]
    exact low
  refine ⟨ascii, UInt8.toNat_inj.mp ?_⟩
  rw [toNat_toUInt8 ascii, value]

theorem ofNat_toUInt8 {c : Char} (low : IsAscii c) : Char.ofNat c.toUInt8.toNat = c := by
  rw [toNat_toUInt8 low, Char.ofNat_toNat]

theorem utf8_map_ofNat {bytes : List UInt8}
    (ascii : ∀ c ∈ bytes.map (fun b => Char.ofNat b.toNat), IsAscii c) :
    utf8 (bytes.map fun b => Char.ofNat b.toNat) = bytes := by
  induction bytes with
  | nil => rfl
  | cons b bytes ih =>
      rw [List.map_cons] at ascii ⊢
      have first := ascii _ List.mem_cons_self
      have low : b.toNat < 0x80 := by
        have size := b.toNat_lt
        rwa [IsAscii, toNat_ofNat (Or.inl (by omega))] at first
      rw [utf8_cons_ascii first, (ascii_of_byte low).2,
        ih (fun c member => ascii c (List.mem_cons_of_mem _ member))]

theorem ascii_forall {motive : Char → Prop} (checked : ∀ n < 0x80, motive (Char.ofNat n))
    {c : Char} (low : IsAscii c) : motive c := by
  have value := checked c.toNat low
  rwa [Char.ofNat_toNat] at value

theorem forall_mem_of_all {p : Char → Prop} [DecidablePred p] {text : List Char}
    (checked : text.all (fun c => decide (p c)) = true) : ∀ c ∈ text, p c := by
  simpa using checked

/-- Every byte of a character outside ASCII is at least `0x80`. -/
theorem utf8EncodeChar_high {c : Char} (high : ¬ IsAscii c) :
    ∀ b ∈ String.utf8EncodeChar c, 0x80 ≤ b := by
  have large : ¬ c.val.toNat ≤ 0x7f := by
    have bound : ¬ c.val.toNat < 0x80 := high
    omega
  have mark : ∀ n, 0x80 ≤ n → n < 256 → (0x80 : UInt8) ≤ UInt8.ofNat n := by
    intro n atLeast below
    rw [UInt8.le_iff_toNat_le, UInt8.toNat_ofNat', Nat.mod_eq_of_lt below]
    exact atLeast
  have limit : c.val.toNat < 0x110000 := by
    rcases c.valid with low | ⟨_, upper⟩
    · exact lt_trans low (by decide)
    · exact upper
  intro b member
  simp only [String.utf8EncodeChar, large, if_false] at member
  split at member
  · simp only [List.mem_cons, List.not_mem_nil, or_false] at member
    rcases member with same | same <;> subst same <;> exact mark _ (by omega) (by omega)
  · split at member
    · simp only [List.mem_cons, List.not_mem_nil, or_false] at member
      rcases member with same | same | same <;> subst same <;> exact mark _ (by omega) (by omega)
    · simp only [List.mem_cons, List.not_mem_nil, or_false] at member
      rcases member with same | same | same | same <;> subst same <;>
        exact mark _ (by omega) (by omega)

theorem decodes_utf8EncodeChar : Decodes (fun _ => True) String.utf8EncodeChar := by
  intro c d r t _ _ same
  have decoded : ∀ (e : Char) (rest : List UInt8),
      ByteArray.utf8DecodeChar? (String.utf8EncodeChar e ++ rest).toByteArray 0 = some e := by
    intro e rest
    rw [List.toByteArray_append]
    exact ByteArray.utf8DecodeChar?_utf8EncodeChar_append
  have first : c = d := by
    have both := decoded c r
    rw [same, decoded d t] at both
    exact (Option.some.inj both).symm
  subst first
  exact ⟨rfl, List.append_cancel_left same⟩

theorem utf8_split {text before : List Char} {r : List UInt8}
    (same : utf8 text = utf8 before ++ r) : ∃ after, text = before ++ after ∧ r = utf8 after := by
  induction before generalizing text with
  | nil => exact ⟨text, rfl, by simpa using same.symm⟩
  | cons c before ih =>
      rw [utf8_cons, List.append_assoc] at same
      cases text with
      | nil =>
          have nonempty := String.utf8EncodeChar_ne_nil (c := c)
          have empty := List.append_eq_nil_iff.mp same.symm
          exact absurd empty.1 nonempty
      | cons d text =>
          rw [utf8_cons] at same
          rcases decodes_utf8EncodeChar trivial trivial same with ⟨first, rest⟩
          rcases ih rest with ⟨after, split, tail⟩
          exact ⟨after, by rw [first, split]; rfl, tail⟩

theorem utf8_injective : Function.Injective utf8 := by
  intro a b same
  rw [← List.append_nil (utf8 b)] at same
  rcases utf8_split same with ⟨after, split, rest⟩
  rw [split, utf8_eq_nil_iff.mp rest.symm, List.append_nil]

theorem head_utf8_iff {c : Char} (low : IsAscii c) {text : List Char} :
    (utf8 text).head? = some c.toUInt8 ↔ text.head? = some c := by
  cases text with
  | nil => simp
  | cons d text =>
      by_cases ascii : IsAscii d
      · rw [utf8_cons_ascii ascii]
        simp [toUInt8_inj ascii low]
      · have differ : d ≠ c := by
          intro same
          exact ascii (same ▸ low)
        cases bytes : String.utf8EncodeChar d with
        | nil => exact absurd bytes String.utf8EncodeChar_ne_nil
        | cons b rest =>
            have high := utf8EncodeChar_high ascii b (by rw [bytes]; exact List.mem_cons_self)
            have apart : b ≠ c.toUInt8 := by
              intro same
              rw [same, UInt8.le_iff_toNat_le, toNat_toUInt8 low] at high
              exact absurd low (Nat.not_lt.mpr high)
            rw [utf8_cons, bytes]
            simp [apart, differ]

/-- `std::str::from_utf8` -/
def fromUtf8 (bytes : List UInt8) : Option String :=
  bytes.toByteArray.utf8Decode?.map fun chars => String.ofList chars.toList

theorem fromUtf8_utf8 (text : List Char) : fromUtf8 (utf8 text) = some (String.ofList text) := by
  have encoded : (utf8 text).toByteArray = text.utf8Encode := rfl
  rw [fromUtf8, encoded, List.utf8Decode?_utf8Encode]
  rfl

theorem fromUtf8_some {bytes : List UInt8} {text : String} (decoded : fromUtf8 bytes = some text) :
    bytes = utf8 text.toList := by
  have isSome : bytes.toByteArray.utf8Decode?.isSome := by
    rw [fromUtf8] at decoded
    rcases Option.map_eq_some_iff.mp decoded with ⟨chars, read, _⟩
    rw [read]
    rfl
  rcases ByteArray.isSome_utf8Decode?_iff.mp isSome with ⟨chars, encoded⟩
  have same : bytes = utf8 chars := by
    have lists := congrArg (fun b : ByteArray => b.data.toList) encoded
    simpa [List.utf8Encode, utf8] using lists
  rw [same, fromUtf8_utf8] at decoded
  rw [same, ← Option.some.inj decoded, String.toList_ofList]

def isContinuation (b : UInt8) : Bool := 0x80 ≤ b && b ≤ 0xbf

def opensThree (b x : UInt8) : Bool :=
  (b = 0xe0 && 0xa0 ≤ x && x ≤ 0xbf) || (0xe1 ≤ b && b ≤ 0xec && isContinuation x) ||
    (b = 0xed && 0x80 ≤ x && x ≤ 0x9f) || (0xee ≤ b && b ≤ 0xef && isContinuation x)

def opensFour (b x : UInt8) : Bool :=
  (b = 0xf0 && 0x90 ≤ x && x ≤ 0xbf) || (0xf1 ≤ b && b ≤ 0xf3 && isContinuation x) ||
    (b = 0xf4 && 0x80 ≤ x && x ≤ 0x8f)

/-- Of a front that is no character, how many bytes after the first belong to the one that was
begun. -/
def begun (b : UInt8) : List UInt8 → Nat
  | [] => 0
  | x :: rest =>
      if opensThree b x then 1
      else if opensFour b x then if (rest.head?.any isContinuation) then 2 else 1
      else 0

/-- The characters after the next `skip` bytes; what is begun and not ended is one replacement
character. -/
def lossyFrom : Nat → List UInt8 → List Char
  | _, [] => []
  | skip + 1, _ :: rest => lossyFrom skip rest
  | 0, b :: rest =>
      match (b :: rest).toByteArray.utf8DecodeChar? 0 with
      | some c => c :: lossyFrom (c.utf8Size - 1) rest
      | none => '\ufffd' :: lossyFrom (begun b rest) rest

/-- `String::from_utf8_lossy` -/
def fromUtf8Lossy (bytes : List UInt8) : String := String.ofList (lossyFrom 0 bytes)

theorem lossyFrom_skip (bytes rest : List UInt8) :
    lossyFrom bytes.length (bytes ++ rest) = lossyFrom 0 rest := by
  induction bytes with
  | nil => rfl
  | cons b bytes ih => exact ih

theorem fromUtf8Lossy_utf8 (text : List Char) : fromUtf8Lossy (utf8 text) = String.ofList text := by
  rw [fromUtf8Lossy]
  congr 1
  induction text with
  | nil => rfl
  | cons c text ih =>
      have decoded : (String.utf8EncodeChar c ++ utf8 text).toByteArray.utf8DecodeChar? 0 =
          some c := by
        rw [List.toByteArray_append]
        exact ByteArray.utf8DecodeChar?_utf8EncodeChar_append
      have width : (String.utf8EncodeChar c).length = c.utf8Size := String.length_utf8EncodeChar c
      rw [utf8_cons]
      cases encoded : String.utf8EncodeChar c with
      | nil => exact absurd encoded String.utf8EncodeChar_ne_nil
      | cons b bytes =>
          rw [encoded] at decoded width
          have more : c.utf8Size - 1 = bytes.length := by
            rw [← width, List.length_cons, Nat.add_sub_cancel]
          rw [List.cons_append] at decoded ⊢
          rw [lossyFrom, decoded]
          change c :: lossyFrom (c.utf8Size - 1) (bytes ++ utf8 text) = c :: text
          rw [more, lossyFrom_skip, ih]

end O7Formal.Utf8
