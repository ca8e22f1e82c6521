import O7Formal.Lib.Fallible
import O7Formal.Lib.SetCode

/-! One message behind its length, a big-endian word of four bytes, and nothing after it. -/

namespace O7Formal.LengthFrame

open ByteCodec Fallible PrefixCode
open Sha2 (beBytes)

variable {ε : Type}

def beValue (bytes : List UInt8) : Nat := bytes.foldl (fun n b => n * 256 + b.toNat) 0

/-- The ways a frame is refused: with fewer bytes than it needs, behind a length above the limit,
and before further bytes. -/
structure Faults (ε : Type) where
  truncated : Nat → Nat → ε
  tooLarge : Nat → ε
  trailing : Nat → ε

def framed (body : List UInt8) : List UInt8 := beBytes 4 body.length ++ body

def writeFrame (faults : Faults ε) (max : Nat) (body : List UInt8) : Except ε (List UInt8) := do
  refuseIf (body.length > max) (faults.tooLarge body.length)
  .ok (framed body)

def readFrame (faults : Faults ε) (max : Nat) (bytes : List UInt8) : Except ε (List UInt8) := do
  refuseIf (bytes.length < 4) (faults.truncated bytes.length 4)
  let len := beValue (bytes.take 4)
  refuseIf (len > max) (faults.tooLarge len)
  let need := 4 + len
  refuseIf (bytes.length < need) (faults.truncated bytes.length need)
  refuseIf (bytes.length > need) (faults.trailing (bytes.length - need))
  .ok ((bytes.drop 4).take len)

theorem beValue_snoc (bytes : List UInt8) (b : UInt8) :
    beValue (bytes ++ [b]) = beValue bytes * 256 + b.toNat := by
  rw [beValue, List.foldl_append]
  rfl

theorem beBytes_succ (width n : Nat) :
    beBytes (width + 1) n = beBytes width (n / 256) ++ [UInt8.ofNat n] := by
  rw [beBytes, leBytes, List.reverse_cons]
  rfl

theorem beValue_beBytes (width n : Nat) : beValue (beBytes width n) = n % 256 ^ width := by
  induction width generalizing n with
  | zero =>
      rw [pow_zero, Nat.mod_one]
      rfl
  | succ width ih =>
      have byte : (UInt8.ofNat n).toNat = n % 256 := UInt8.toNat_ofNat'
      rw [beBytes_succ, beValue_snoc, ih, byte, pow_succ', Nat.mod_mul]
      omega

theorem beBytes_beValue (bytes : List UInt8) : beBytes bytes.length (beValue bytes) = bytes := by
  induction bytes using List.reverseRecOn with
  | nil => rfl
  | append_singleton bytes b ih =>
      have low := b.toNat_lt
      have above : (beValue bytes * 256 + b.toNat) / 256 = beValue bytes := by omega
      have byte : UInt8.ofNat (beValue bytes * 256 + b.toNat) = b := by
        apply UInt8.toNat_inj.mp
        rw [UInt8.toNat_ofNat']
        omega
      rw [List.length_append, List.length_singleton, beBytes_succ, beValue_snoc, above, byte, ih]

/-- A body no longer than a limit below `2 ^ 32` is the one message of its frame, and of nothing
else. -/
theorem readFrame_ok_iff {faults : Faults ε} {max : Nat} (small : max < 2 ^ 32)
    {bytes body : List UInt8} :
    readFrame faults max bytes = .ok body ↔ body.length ≤ max ∧ bytes = framed body := by
  have reads : readFrame faults max bytes = .ok body ↔ 4 ≤ bytes.length ∧
      beValue (bytes.take 4) ≤ max ∧ bytes.length = 4 + beValue (bytes.take 4) ∧
        (bytes.drop 4).take (beValue (bytes.take 4)) = body := by
    simp only [readFrame, bind_ok_iff, refuseIf_ok_iff, exists_const, not_lt, Except.ok.injEq]
    constructor
    · rintro ⟨long, fits, enough, whole, rfl⟩
      exact ⟨long, fits, by omega, rfl⟩
    · rintro ⟨long, fits, whole, rfl⟩
      exact ⟨long, fits, by omega, by omega, rfl⟩
  rw [reads]
  constructor
  · rintro ⟨long, fits, whole, rfl⟩
    have all : (bytes.drop 4).take (beValue (bytes.take 4)) = bytes.drop 4 :=
      List.take_of_length_le (by rw [List.length_drop]; omega)
    have length : (bytes.drop 4).length = beValue (bytes.take 4) := by
      rw [List.length_drop]
      omega
    have four : (bytes.take 4).length = 4 := by rw [List.length_take]; omega
    have word := beBytes_beValue (bytes.take 4)
    rw [four] at word
    rw [all, framed, length, word, List.take_append_drop]
    exact ⟨fits, rfl⟩
  · rintro ⟨fits, rfl⟩
    have four : (beBytes 4 body.length).length = 4 := length_beBytes 4 body.length
    have front : (framed body).take 4 = beBytes 4 body.length := List.take_left' four
    have back : (framed body).drop 4 = body := List.drop_left' four
    have narrow : body.length < 256 ^ 4 := by omega
    rw [front, back, beValue_beBytes, Nat.mod_eq_of_lt narrow, framed, List.length_append, four,
      List.take_length]
    exact ⟨by omega, fits, rfl, rfl⟩

theorem writeFrame_ok_iff {faults : Faults ε} {max : Nat} {body bytes : List UInt8} :
    writeFrame faults max body = .ok bytes ↔ body.length ≤ max ∧ framed body = bytes := by
  simp only [writeFrame, bind_ok_iff, refuseIf_ok_iff, exists_const, not_lt, Except.ok.injEq]

theorem decodes_framed : Decodes (fun body : List UInt8 => body.length < 2 ^ 32) framed := by
  intro a b r t shortA shortB same
  have wide : (256 : Nat) ^ 4 = 2 ^ 32 := by norm_num
  rw [framed, framed, List.append_assoc, List.append_assoc] at same
  rcases decodes_beBytes 4 (wide ▸ shortA) (wide ▸ shortB) same with ⟨length, rest⟩
  exact List.append_inj rest length

variable {α : Type}

/-- The frames that are accepted are exactly those around a body that is read as a supported
message, none of them goes on into another, and what was written is read back. -/
structure FrameCodec (max : Nat) (encode : α → Except ε (List UInt8))
    (decode : List UInt8 → Except ε α) (reads : List UInt8 → α → Prop) (supported : α → Prop) :
    Prop where
  exact : ∀ bytes a, decode bytes = .ok a ↔
    ∃ body, body.length ≤ max ∧ bytes = framed body ∧ reads body a ∧ supported a
  whole : ∀ bytes rest a b, decode bytes = .ok a → decode (bytes ++ rest) = .ok b → rest = []
  roundTrip : ∀ a bytes, encode a = .ok bytes → supported a → decode bytes = .ok a

theorem frameCodec_of {max : Nat} {encode : α → Except ε (List UInt8)}
    {decode : List UInt8 → Except ε α} {reads : List UInt8 → α → Prop} {supported : α → Prop}
    (small : max < 2 ^ 32)
    (exact : ∀ bytes a, decode bytes = .ok a ↔
      ∃ body, body.length ≤ max ∧ bytes = framed body ∧ reads body a ∧ supported a)
    (writes : ∀ a bytes, encode a = .ok bytes →
      ∃ body, body.length ≤ max ∧ framed body = bytes ∧ reads body a) :
    FrameCodec max encode decode reads supported where
  exact := exact
  whole := by
    intro bytes rest a b first second
    rcases (exact bytes a).mp first with ⟨body, short, rfl, _⟩
    rcases (exact _ b).mp second with ⟨other, shortToo, same, _⟩
    have both : framed body ++ rest = framed other ++ [] := by rw [same, List.append_nil]
    exact (decodes_framed (short.trans_lt small) (shortToo.trans_lt small) both).2
  roundTrip := by
    intro a bytes written supports
    rcases writes a bytes written with ⟨body, short, rfl, read⟩
    exact (exact _ a).mpr ⟨body, short, rfl, read, supports⟩

end O7Formal.LengthFrame
