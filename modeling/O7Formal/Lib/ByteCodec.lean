import O7Formal.Lib.PrefixCode

/-! Byte codes of the primitive values a framed preimage is made of: little-endian
words, UTF-8 text, length-prefixed frames and lowercase hexadecimal. -/

namespace O7Formal.ByteCodec

open PrefixCode

/-- Exactly `width` little-endian bytes, keeping the value modulo `256 ^ width`. -/
def leBytes : Nat → Nat → List UInt8
  | 0, _ => []
  | width + 1, n => UInt8.ofNat n :: leBytes width (n / 256)

@[simp] theorem leBytes_length (width n : Nat) : (leBytes width n).length = width := by
  induction width generalizing n with
  | zero => rfl
  | succ width ih => simp [leBytes, ih]

theorem leBytes_inj_mod (width m n : Nat) (same : leBytes width m = leBytes width n) :
    m % 256 ^ width = n % 256 ^ width := by
  induction width generalizing m n with
  | zero => simp [Nat.mod_one]
  | succ width ih =>
      simp only [leBytes, List.cons.injEq] at same
      have low : m % 256 = n % 256 := by
        have values := congrArg UInt8.toNat same.1
        simpa using values
      have high := ih _ _ same.2
      rw [Nat.pow_succ, Nat.mul_comm, Nat.mod_mul, Nat.mod_mul, low, high]

theorem decodes_leBytes (width : Nat) : Decodes (fun n => n < 256 ^ width) (leBytes width) := by
  apply decodes_of_width width (leBytes_length width)
  intro m n boundM boundN same
  have residues := leBytes_inj_mod width m n same
  rwa [Nat.mod_eq_of_lt boundM, Nat.mod_eq_of_lt boundN] at residues

def utf8Bytes (s : String) : List UInt8 := s.toList.flatMap String.utf8EncodeChar

theorem utf8Bytes_eq_toByteArray (s : String) : (utf8Bytes s).toByteArray = s.toByteArray :=
  String.utf8Encode_toList

def storedBytes (s : String) : List UInt8 := s.toByteArray.data.toList

theorem utf8Bytes_eq_stored (s : String) : utf8Bytes s = storedBytes s := by
  rw [storedBytes, ← utf8Bytes_eq_toByteArray]
  simp

theorem utf8Bytes_append (s t : String) : utf8Bytes (s ++ t) = utf8Bytes s ++ utf8Bytes t := by
  simp [utf8Bytes]

theorem utf8Bytes_injective : Function.Injective utf8Bytes := by
  intro s t same
  apply String.toByteArray_inj.mp
  rw [← utf8Bytes_eq_toByteArray, ← utf8Bytes_eq_toByteArray, same]

theorem length_utf8Bytes_le (s : String) : (utf8Bytes s).length ≤ 4 * s.toList.length := by
  rw [utf8Bytes]
  induction s.toList with
  | nil => exact Nat.le_refl 0
  | cons c rest ih =>
      have width : (String.utf8EncodeChar c).length ≤ 4 := by
        rw [String.length_utf8EncodeChar]
        exact Char.utf8Size_le_four c
      rw [List.flatMap_cons, List.length_append, List.length_cons]
      omega

theorem length_utf8Bytes (s : String) : (utf8Bytes s).length = s.utf8ByteSize := by
  have size := congrArg ByteArray.size (utf8Bytes_eq_toByteArray s)
  rwa [List.size_toByteArray] at size

def frame (bytes : List UInt8) : List UInt8 := leBytes 8 bytes.length ++ bytes

def Framable (bytes : List UInt8) : Prop := bytes.length < 2 ^ 64

instance (bytes : List UInt8) : Decidable (Framable bytes) := Nat.decLt _ _

theorem decodes_frame : Decodes Framable frame := by
  intro a b r t boundA boundB same
  simp only [frame, List.append_assoc] at same
  obtain ⟨length, rest⟩ := decodes_leBytes 8 (by simpa [Framable] using boundA)
    (by simpa [Framable] using boundB) same
  exact List.append_inj rest length

theorem decodes_frame_leBytes (width : Nat) (short : width < 2 ^ 64) :
    Decodes (fun n => n < 256 ^ width) (fun n => frame (leBytes width n)) := by
  intro m n r t boundM boundN same
  have framable : ∀ k, Framable (leBytes width k) := by
    intro k
    simpa [Framable] using short
  obtain ⟨word, rest⟩ := decodes_frame (framable m) (framable n) same
  exact ⟨(decodes_leBytes width).injOn boundM boundN word, rest⟩

theorem decodes_frame_utf8 :
    Decodes (fun s => Framable (utf8Bytes s)) (fun s => frame (utf8Bytes s)) := by
  intro s u r t boundS boundU same
  obtain ⟨bytes, rest⟩ := decodes_frame boundS boundU same
  exact ⟨utf8Bytes_injective bytes, rest⟩

def hexDigits : List Char :=
  ['0', '1', '2', '3', '4', '5', '6', '7', '8', '9', 'a', 'b', 'c', 'd', 'e', 'f']

def hexDigit (nibble : Nat) : Char := hexDigits.getD nibble '0'

def hexByte (b : UInt8) : List Char := [hexDigit (b.toNat / 16), hexDigit (b.toNat % 16)]

def hexLower (bytes : List UInt8) : String := String.ofList (bytes.flatMap hexByte)

def isHexByte (b : UInt8) : Bool := (0x30 ≤ b && b ≤ 0x39) || (0x61 ≤ b && b ≤ 0x66)

private theorem hexDigit_utf8 : ∀ nibble < 16,
    (String.utf8EncodeChar (hexDigit nibble)).length = 1 ∧
      (String.utf8EncodeChar (hexDigit nibble)).all isHexByte = true := by
  decide

private theorem hexDigit_inj : ∀ m < 16, ∀ n < 16, hexDigit m = hexDigit n → m = n := by
  decide

theorem decodes_hexByte : Decodes (fun _ => True) hexByte := by
  apply decodes_of_width 2 (fun _ => rfl)
  intro a b _ _ same
  simp only [hexByte, List.cons.injEq, and_true] at same
  have boundA := a.toNat_lt
  have boundB := b.toNat_lt
  have high := hexDigit_inj _ (by omega) _ (by omega) same.1
  have low := hexDigit_inj _ (by omega) _ (by omega) same.2
  apply UInt8.toNat_inj.mp
  omega

@[simp] theorem hexLower_toList_length (bytes : List UInt8) :
    (hexLower bytes).toList.length = 2 * bytes.length := by
  have flat : (bytes.flatMap hexByte).length = 2 * bytes.length := by
    induction bytes with
    | nil => rfl
    | cons b bytes ih =>
        simp only [List.flatMap_cons, List.length_append, ih, List.length_cons]
        simp [hexByte]
        omega
  simpa [hexLower] using flat

theorem hexLower_inj {a b : List UInt8} (same : hexLower a = hexLower b) : a = b := by
  have lengths : a.length = b.length := by
    have counted := congrArg (fun s : String => s.toList.length) same
    simp only [hexLower_toList_length] at counted
    omega
  have chars : a.flatMap hexByte ++ [] = b.flatMap hexByte ++ [] := by
    simpa [hexLower] using congrArg String.toList same
  exact (decodes_hexByte.flatMap a b [] [] (fun _ _ => trivial) (fun _ _ => trivial)
    lengths chars).1

theorem utf8Bytes_hexLower_eq (bytes : List UInt8) :
    utf8Bytes (hexLower bytes) = (bytes.flatMap hexByte).flatMap String.utf8EncodeChar := by
  rw [utf8Bytes, hexLower, String.toList_ofList]

theorem utf8Bytes_hexLower (bytes : List UInt8) :
    (utf8Bytes (hexLower bytes)).length = 2 * bytes.length ∧
      (utf8Bytes (hexLower bytes)).all isHexByte = true := by
  simp only [utf8Bytes, hexLower, String.toList_ofList]
  induction bytes with
  | nil => exact ⟨rfl, rfl⟩
  | cons b bytes ih =>
      have bound := b.toNat_lt
      have high := hexDigit_utf8 (b.toNat / 16) (by omega)
      have low := hexDigit_utf8 (b.toNat % 16) (by omega)
      simp only [List.flatMap_cons, List.flatMap_append, List.length_append, List.all_append,
        Bool.and_eq_true, List.length_cons, ih.1, ih.2, and_true]
      simp only [hexByte, List.flatMap_cons, List.flatMap_nil, List.append_nil,
        List.length_append, List.all_append, Bool.and_eq_true, high.1, high.2, low.1, low.2]
      exact ⟨by omega, trivial, trivial⟩

/-- `n` is computed before it is handed on, by a reader that substitutes before it computes. -/
def strictly {α : Type} (n : Nat) (next : Nat → α) : α :=
  match n with
  | 0 => next 0
  | m + 1 => next (Nat.succ m)

@[simp] theorem strictly_eq {α : Type} (n : Nat) (next : Nat → α) : strictly n next = next n := by
  cases n <;> rfl

end O7Formal.ByteCodec
