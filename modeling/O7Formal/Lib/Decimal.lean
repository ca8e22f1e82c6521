import Mathlib.Tactic

/-! Natural numbers as decimal text, written and read back. -/

namespace O7Formal.Decimal

def decimal? (digits : List Char) : Option Nat :=
  if digits ≠ [] ∧ digits.all Char.isDigit then some (Nat.ofDigitChars 10 digits 0) else none

def unsigned? (limit : Nat) (text : String) : Option Nat := do
  let n ← match text.toList with
    | '+' :: digits => decimal? digits
    | digits => decimal? digits
  if n < limit then some n else none

theorem isDigit_toDigits (n : Nat) : ∀ c ∈ Nat.toDigits 10 n, c.isDigit = true := fun c =>
  Nat.isDigit_of_mem_toDigits (by norm_num) (by norm_num)

theorem isDigit_repr (n : Nat) : ∀ c ∈ n.repr.toList, c.isDigit = true := by
  rw [Nat.toList_repr]
  exact isDigit_toDigits n

theorem decimal?_toDigits (n : Nat) : decimal? (Nat.toDigits 10 n) = some n := by
  rw [decimal?, if_pos ⟨Nat.toDigits_ne_nil, List.all_eq_true.mpr (isDigit_toDigits n)⟩,
    Nat.ofDigitChars_ten_toDigits]

theorem toDigits_ne_cons {n : Nat} {c : Char} (sign : c.isDigit = false) (rest : List Char) :
    Nat.toDigits 10 n ≠ c :: rest := by
  intro equals
  have digit := isDigit_toDigits n c (equals ▸ List.mem_cons_self ..)
  rw [sign] at digit
  cases digit

theorem unsigned?_repr {limit n : Nat} (below : n < limit) : unsigned? limit n.repr = some n := by
  unfold unsigned?
  rw [Nat.toList_repr]
  split
  · rename_i rest equals
    exact absurd equals (toDigits_ne_cons (by decide) rest)
  · rw [decimal?_toDigits]
    exact if_pos below

def signedDigits : List Char → Option Int
  | '-' :: digits => (decimal? digits).map fun n => -Int.ofNat n
  | '+' :: digits => (decimal? digits).map Int.ofNat
  | digits => (decimal? digits).map Int.ofNat

def signed? (bound : Nat) (text : String) : Option Int :=
  (signedDigits text.toList).filter fun n => -(bound : Int) ≤ n ∧ n < bound

theorem signedDigits_toDigits (n : Nat) :
    signedDigits (Nat.toDigits 10 n) = some (Int.ofNat n) := by
  unfold signedDigits
  split
  · rename_i rest equals
    exact absurd equals (toDigits_ne_cons (by decide) rest)
  · rename_i rest equals
    exact absurd equals (toDigits_ne_cons (by decide) rest)
  · rw [decimal?_toDigits]
    rfl

theorem signedDigits_toString (n : Int) : signedDigits (toString n).toList = some n := by
  cases n with
  | ofNat n =>
      change signedDigits n.repr.toList = some (Int.ofNat n)
      rw [Nat.toList_repr, signedDigits_toDigits]
  | negSucc n =>
      change signedDigits ("-" ++ (n + 1).repr).toList = some (Int.negSucc n)
      rw [String.toList_append, Nat.toList_repr]
      change (decimal? (Nat.toDigits 10 (n + 1))).map _ = _
      rw [decimal?_toDigits]
      rfl

theorem isDigit_toString (n : Int) : ∀ c ∈ (toString n).toList, c.isDigit = true ∨ c = '-' := by
  intro c among
  cases n with
  | ofNat n => exact .inl (isDigit_repr n c among)
  | negSucc n =>
      have spelled : (toString (Int.negSucc n)).toList = '-' :: (n + 1).repr.toList :=
        String.toList_append ..
      rw [spelled, List.mem_cons] at among
      rcases among with sign | digit
      · exact .inr sign
      · exact .inl (isDigit_repr (n + 1) c digit)

theorem toString_ne_nil (n : Int) : (toString n).toList ≠ [] := by
  intro empty
  have read := signedDigits_toString n
  rw [empty] at read
  cases read

theorem signed?_toString {bound : Nat} {n : Int} (low : -(bound : Int) ≤ n) (high : n < bound) :
    signed? bound (toString n) = some n := by
  rw [signed?, signedDigits_toString, Option.filter_some, if_pos]
  exact decide_eq_true ⟨low, high⟩

end O7Formal.Decimal
