import Mathlib.Algebra.BigOperators.Intervals
import Mathlib.Tactic
import O7Formal.Lib.ByteCodec
import O7Formal.Lib.Utf8

/-! The proleptic Gregorian calendar: instants to the second, how many seconds have passed at one, and
decimal numbers of a fixed width, in which instants are in order as they are spelled. -/

namespace O7Formal.Calendar

open Finset (range)
open ByteCodec Utf8

def IsLeap (year : Nat) : Prop := 4 ∣ year ∧ (¬ 100 ∣ year ∨ 400 ∣ year)

instance : DecidablePred IsLeap := fun _ => inferInstanceAs (Decidable (_ ∧ _))

def daysInMonth (year : Nat) : Nat → Nat
  | 1 | 3 | 5 | 7 | 8 | 10 | 12 => 31
  | 4 | 6 | 9 | 11 => 30
  | 2 => if IsLeap year then 29 else 28
  | _ => 0

def daysInYear (year : Nat) : Nat := if IsLeap year then 366 else 365

@[ext]
structure Instant where
  year : Nat
  month : Nat
  day : Nat
  hour : Nat
  minute : Nat
  second : Nat
  dated : 1 ≤ day ∧ day ≤ daysInMonth year month
  timed : hour < 24 ∧ minute < 60 ∧ second < 60

namespace Instant

variable (i : Instant)

def dayOfYear : Nat := ∑ month ∈ range i.month, daysInMonth i.year month + (i.day - 1)

def days : Nat := ∑ year ∈ range i.year, daysInYear year + i.dayOfYear

def seconds : Nat := ((i.days * 24 + i.hour) * 60 + i.minute) * 60 + i.second

end Instant

theorem sum_add_lt_iff (length : Nat → Nat) {m n x y : Nat} (x_lt : x < length m)
    (y_lt : y < length n) : ∑ k ∈ range m, length k + x < ∑ k ∈ range n, length k + y ↔
      m < n ∨ m = n ∧ x < y := by
  have before : ∀ {a b z w : Nat}, z < length a → a < b →
      ∑ k ∈ range a, length k + z < ∑ k ∈ range b, length k + w := by
    intro a b z w z_lt a_lt
    calc
      ∑ k ∈ range a, length k + z < ∑ k ∈ range a, length k + length a := by omega
      _ = ∑ k ∈ range (a + 1), length k := (Finset.sum_range_succ length a).symm
      _ ≤ ∑ k ∈ range b, length k :=
        Finset.sum_le_sum_of_subset (Finset.range_subset_range.mpr a_lt)
      _ ≤ ∑ k ∈ range b, length k + w := Nat.le_add_right _ _
  rcases lt_trichotomy m n with less | rfl | more
  · simp [less, before x_lt less]
  · simp
  · have after := before (w := x) y_lt more
    omega

theorem sum_daysInMonth (year : Nat) : ∑ month ∈ range 13, daysInMonth year month = daysInYear year := by
  by_cases leap : IsLeap year <;> simp [Finset.sum_range_succ, daysInMonth, daysInYear, leap]

theorem month_le {year month : Nat} (some : 0 < daysInMonth year month) : month ≤ 12 := by
  by_contra high
  have none : daysInMonth year month = 0 := by
    unfold daysInMonth
    split <;> first | rfl | omega
  omega

namespace Instant

theorem dayOfYear_lt (i : Instant) : i.dayOfYear < daysInYear i.year := by
  have dated := i.dated
  have months : i.month + 1 ≤ 13 :=
    Nat.succ_le_succ (month_le (by omega : 0 < daysInMonth i.year i.month))
  calc
    i.dayOfYear < ∑ month ∈ range i.month, daysInMonth i.year month +
        daysInMonth i.year i.month := by
      rw [dayOfYear]
      omega
    _ = ∑ month ∈ range (i.month + 1), daysInMonth i.year month :=
      (Finset.sum_range_succ _ _).symm
    _ ≤ ∑ month ∈ range 13, daysInMonth i.year month :=
      Finset.sum_le_sum_of_subset (Finset.range_subset_range.mpr months)
    _ = daysInYear i.year := sum_daysInMonth i.year

theorem days_lt_iff (i j : Instant) : i.days < j.days ↔ i.year < j.year ∨ i.year = j.year ∧
    (i.month < j.month ∨ i.month = j.month ∧ i.day < j.day) := by
  have datedI := i.dated
  have datedJ := j.dated
  rw [days, days, sum_add_lt_iff daysInYear i.dayOfYear_lt j.dayOfYear_lt]
  refine or_congr_right (and_congr_right fun same => ?_)
  rw [dayOfYear, dayOfYear, same, sum_add_lt_iff (daysInMonth j.year) (by rw [← same]; omega)
    (by omega)]
  omega

theorem seconds_lt_iff (i j : Instant) : i.seconds < j.seconds ↔
    i.year < j.year ∨ i.year = j.year ∧ (i.month < j.month ∨ i.month = j.month ∧
      (i.day < j.day ∨ i.day = j.day ∧ (i.hour < j.hour ∨ i.hour = j.hour ∧
        (i.minute < j.minute ∨ i.minute = j.minute ∧ i.second < j.second)))) := by
  have timedI := i.timed
  have timedJ := j.timed
  have forth := days_lt_iff i j
  have back := days_lt_iff j i
  have same : i.days = j.days ↔ i.year = j.year ∧ i.month = j.month ∧ i.day = j.day := by omega
  rw [seconds, seconds]
  omega

theorem seconds_injective : Function.Injective seconds := by
  intro i j same
  have forth := seconds_lt_iff i j
  have back := seconds_lt_iff j i
  rw [same] at forth back
  ext <;> omega

end Instant

def digits : Nat → Nat → List Nat
  | 0, _ => []
  | width + 1, n => digits width (n / 10) ++ [48 + n % 10]

@[simp] theorem length_digits (width n : Nat) : (digits width n).length = width := by
  induction width generalizing n with
  | zero => rfl
  | succ width ih => simp [digits, ih]

theorem digits_low (width n : Nat) : ∀ d ∈ digits width n, d < 128 := by
  induction width generalizing n with
  | zero => nofun
  | succ width ih =>
      rw [digits, List.forall_mem_append, List.forall_mem_singleton]
      exact ⟨ih (n / 10), by omega⟩

theorem digits_lex_iff {width m n : Nat} (m_lt : m < 10 ^ width) (n_lt : n < 10 ^ width)
    (r s : List Nat) : List.Lex (· < ·) (digits width m ++ r) (digits width n ++ s) ↔
      m < n ∨ m = n ∧ List.Lex (· < ·) r s := by
  induction width generalizing m n r s with
  | zero =>
      have zeroM : m = 0 := by simpa using m_lt
      have zeroN : n = 0 := by simpa using n_lt
      simp [digits, zeroM, zeroN]
  | succ width ih =>
      rw [digits, digits, List.append_assoc, List.append_assoc, ih (by omega) (by omega),
        List.singleton_append, List.singleton_append, List.cons_lex_cons_iff]
      by_cases rest : List.Lex (· < ·) r s
      · simp only [rest, and_true]
        omega
      · simp only [rest, and_false, or_false]
        omega

theorem lex_map_iff {α : Type*} [LT α] {f : Nat → α} {xs ys : List Nat}
    (less : ∀ a ∈ xs, ∀ b ∈ ys, f a < f b ↔ a < b) (same : ∀ a ∈ xs, ∀ b ∈ ys, f a = f b ↔ a = b) :
    List.Lex (· < ·) (xs.map f) (ys.map f) ↔ List.Lex (· < ·) xs ys := by
  induction xs generalizing ys with
  | nil => cases ys <;> simp
  | cons a xs ih =>
      cases ys with
      | nil => simp
      | cons b ys =>
          simp only [List.forall_mem_cons] at less same
          rw [List.map_cons, List.map_cons, List.cons_lex_cons_iff, List.cons_lex_cons_iff,
            less.1.1, same.1.1, ih (fun c member => (less.2 c member).2)
            (fun c member => (same.2 c member).2)]

theorem utf8_codes {codes : List Nat} (low : ∀ n ∈ codes, n < 128) :
    utf8 (codes.map Char.ofNat) = codes.map UInt8.ofNat := by
  have same : codes.map Char.ofNat =
      (codes.map UInt8.ofNat).map fun b => Char.ofNat b.toNat := by
    rw [List.map_map]
    refine List.map_congr_left fun n member => ?_
    have small : n < 256 := (low n member).trans (by decide)
    rw [Function.comp_apply, UInt8.toNat_ofNat_of_lt' small]
  rw [same, utf8_map_ofNat]
  rw [← same, List.forall_mem_map]
  intro n member
  have small := low n member
  rw [IsAscii, toNat_ofNat (Or.inl (by omega))]
  exact small

namespace Instant

/-- `YYYY-MM-DDThh:mm:ssZ`, in ASCII. -/
def ascii (i : Instant) : List Nat :=
  digits 4 i.year ++ 45 :: (digits 2 i.month ++ 45 :: (digits 2 i.day ++ 84 ::
    (digits 2 i.hour ++ 58 :: (digits 2 i.minute ++ 58 :: (digits 2 i.second ++ [90])))))

theorem ascii_low (i : Instant) : ∀ n ∈ i.ascii, n < 128 := by
  simp only [ascii, List.forall_mem_append, List.forall_mem_cons]
  exact ⟨digits_low _ _, by decide, digits_low _ _, by decide, digits_low _ _, by decide,
    digits_low _ _, by decide, digits_low _ _, by decide, digits_low _ _, by decide, nofun⟩

theorem two_digits (i : Instant) : i.month < 10 ^ 2 ∧ i.day < 10 ^ 2 ∧ i.hour < 10 ^ 2 ∧
    i.minute < 10 ^ 2 ∧ i.second < 10 ^ 2 := by
  have dated := i.dated
  have timed := i.timed
  have months := month_le (by omega : 0 < daysInMonth i.year i.month)
  have days : daysInMonth i.year i.month ≤ 31 := by
    unfold daysInMonth
    split <;> first | omega | (split <;> omega)
  omega

theorem ascii_lex_iff {i j : Instant} (yearI : i.year < 10 ^ 4) (yearJ : j.year < 10 ^ 4) :
    List.Lex (· < ·) i.ascii j.ascii ↔ i.seconds < j.seconds := by
  rcases i.two_digits with ⟨monthI, dayI, hourI, minuteI, secondI⟩
  rcases j.two_digits with ⟨monthJ, dayJ, hourJ, minuteJ, secondJ⟩
  rw [ascii, ascii, digits_lex_iff yearI yearJ, List.lex_cons_iff, digits_lex_iff monthI monthJ,
    List.lex_cons_iff, digits_lex_iff dayI dayJ, List.lex_cons_iff, digits_lex_iff hourI hourJ,
    List.lex_cons_iff, digits_lex_iff minuteI minuteJ, List.lex_cons_iff,
    digits_lex_iff secondI secondJ, List.lex_cons_iff, seconds_lt_iff]
  simp only [List.not_lex_nil, and_false, or_false]

def text (i : Instant) : String := String.ofList (i.ascii.map Char.ofNat)

theorem toNat_char (i : Instant) : ∀ n ∈ i.ascii, (Char.ofNat n).toNat = n := by
  intro n member
  have low := i.ascii_low n member
  exact toNat_ofNat (Or.inl (by omega))

theorem toNat_byte (i : Instant) : ∀ n ∈ i.ascii, (UInt8.ofNat n).toNat = n := by
  intro n member
  have low := i.ascii_low n member
  exact UInt8.toNat_ofNat_of_lt' (by change n < 256; omega)

theorem text_lt_iff {i j : Instant} (yearI : i.year < 10 ^ 4) (yearJ : j.year < 10 ^ 4) :
    i.text < j.text ↔ i.seconds < j.seconds := by
  rw [← ascii_lex_iff yearI yearJ, String.lt_iff, text, text, String.toList_ofList,
    String.toList_ofList]
  refine lex_map_iff (fun a memberA b memberB => ?_) fun a memberA b memberB => ?_
  · rw [Char.lt_def, UInt32.lt_iff_toNat_lt]
    exact (congrArg₂ (· < ·) (i.toNat_char a memberA) (j.toNat_char b memberB)).to_iff
  · rw [← Char.toNat_inj, i.toNat_char a memberA, j.toNat_char b memberB]

theorem text_inj {i j : Instant} (yearI : i.year < 10 ^ 4) (yearJ : j.year < 10 ^ 4)
    (same : i.text = j.text) : i = j := by
  have forth := text_lt_iff yearI yearJ
  have back := text_lt_iff yearJ yearI
  rw [same] at forth back
  have unordered : ¬ j.text < j.text := String.lt_irrefl _
  rw [iff_false_left unordered] at forth back
  exact seconds_injective (by omega)

theorem utf8Bytes_text (i : Instant) : utf8Bytes i.text = i.ascii.map UInt8.ofNat := by
  rw [utf8Bytes, text, String.toList_ofList]
  exact utf8_codes i.ascii_low

theorem codes_text (i : Instant) : (utf8Bytes i.text).map UInt8.toNat = i.ascii := by
  rw [utf8Bytes_text, List.map_map]
  calc
    i.ascii.map (UInt8.toNat ∘ UInt8.ofNat) = i.ascii.map id := List.map_congr_left i.toNat_byte
    _ = i.ascii := List.map_id _

theorem bytes_lt_iff {i j : Instant} (yearI : i.year < 10 ^ 4) (yearJ : j.year < 10 ^ 4) :
    List.Lex (· < ·) (utf8Bytes i.text) (utf8Bytes j.text) ↔ i.seconds < j.seconds := by
  rw [← ascii_lex_iff yearI yearJ, utf8Bytes_text, utf8Bytes_text]
  refine lex_map_iff (fun a memberA b memberB => ?_) fun a memberA b memberB => ?_
  · rw [UInt8.lt_iff_toNat_lt, i.toNat_byte a memberA, j.toNat_byte b memberB]
  · rw [← UInt8.toNat_inj, i.toNat_byte a memberA, j.toNat_byte b memberB]

end Instant

end O7Formal.Calendar
