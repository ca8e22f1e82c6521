import O7Formal.Closure.Schema
import O7Formal.Lib.Calendar

/-! The accepted timestamps: the instants of four-digit years, each in its one spelling. -/

namespace O7Formal.Closure

open Calendar Fallible ByteCodec

theorem daysIn_eq (year month : Nat) : daysIn year month = daysInMonth year month := by
  have leap : (year % 4 = 0 ∧ (year % 100 ≠ 0 ∨ year % 400 = 0)) ↔ IsLeap year := by
    rw [IsLeap, Nat.dvd_iff_mod_eq_zero, Nat.dvd_iff_mod_eq_zero, Nat.dvd_iff_mod_eq_zero]
  unfold daysInMonth
  split <;> simp_all [daysIn]

theorem digitsAt_succ (bytes : List UInt8) (start len : Nat) :
    digitsAt bytes start (len + 1) = (digitsAt bytes start len).bind fun acc =>
      match bytes[start + len]? with
      | some b => if 48 ≤ b.toNat ∧ b.toNat ≤ 57 then some (acc * 10 + (b.toNat - 48)) else none
      | none => none := by
  rw [digitsAt, List.range_succ, List.foldlM_append]
  simp only [List.foldlM_cons, List.foldlM_nil, bind_pure]
  rfl

theorem digitsAt_eq_some_iff {bytes : List UInt8} {start len n : Nat} :
    digitsAt bytes start len = some n ↔
      n < 10 ^ len ∧ ((bytes.drop start).take len).map UInt8.toNat = digits len n := by
  induction len generalizing n with
  | zero => simp [digitsAt, digits, eq_comm]
  | succ len ih =>
      rw [digitsAt_succ, Option.bind_eq_some_iff, digits, List.take_add_one, List.getElem?_drop,
        List.map_append, pow_succ]
      simp only [ih]
      cases last : bytes[start + len]? with
      | none =>
          have shorter : ((bytes.drop start).take len).length ≤ len := List.length_take_le _ _
          constructor
          · rintro ⟨acc, _, none⟩
            cases none
          · rintro ⟨_, same⟩
            have lengths := congrArg List.length same
            rw [Option.toList_none, List.map_nil, List.append_nil, List.length_map,
              List.length_append, length_digits, List.length_singleton] at lengths
            omega
      | some b =>
          simp only [Option.ite_none_right_eq_some, Option.some.injEq, Option.toList_some,
            List.map_cons, List.map_nil]
          constructor
          · rintro ⟨acc, ⟨acc_lt, read⟩, ⟨low, high⟩, rfl⟩
            have whole : (acc * 10 + (b.toNat - 48)) / 10 = acc := by omega
            have rest : 48 + (acc * 10 + (b.toNat - 48)) % 10 = b.toNat := by omega
            rw [whole, rest, read]
            exact ⟨by omega, rfl⟩
          · rintro ⟨n_lt, same⟩
            rcases List.append_inj' same rfl with ⟨read, digit⟩
            have code := (List.cons.inj digit).1
            exact ⟨n / 10, ⟨by omega, read⟩, by omega, by omega⟩

theorem drop_field {bytes : List UInt8} {start width n : Nat} {mark : UInt8}
    (read : digitsAt bytes start width = some n) (marked : bytes[start + width]? = some mark) :
    (bytes.drop start).map UInt8.toNat =
      digits width n ++ mark.toNat :: (bytes.drop (start + width + 1)).map UInt8.toNat := by
  have tail : (bytes.drop start).drop width = mark :: bytes.drop (start + width + 1) := by
    rcases List.getElem?_eq_some_iff.mp marked with ⟨inside, value⟩
    rw [List.drop_drop, List.drop_eq_getElem_cons inside, value]
  conv_lhs => rw [← List.take_append_drop width (bytes.drop start)]
  rw [List.map_append, (digitsAt_eq_some_iff.mp read).2, tail, List.map_cons]

theorem text_of_fields {s : String} {i : Instant} (length : (utf8Bytes s).length = 20)
    (marks : ∀ mark ∈ ([(4, 45), (7, 45), (10, 84), (13, 58), (16, 58), (19, 90)] :
      List (Nat × UInt8)), (utf8Bytes s)[mark.1]? = some mark.2)
    (year : digitsAt (utf8Bytes s) 0 4 = some i.year)
    (month : digitsAt (utf8Bytes s) 5 2 = some i.month)
    (day : digitsAt (utf8Bytes s) 8 2 = some i.day)
    (hour : digitsAt (utf8Bytes s) 11 2 = some i.hour)
    (minute : digitsAt (utf8Bytes s) 14 2 = some i.minute)
    (second : digitsAt (utf8Bytes s) 17 2 = some i.second) : s = i.text := by
  simp only [List.forall_mem_cons] at marks
  rcases marks with ⟨mark4, mark7, mark10, mark13, mark16, mark19, -⟩
  have last : (utf8Bytes s).drop 20 = [] := List.drop_eq_nil_of_le (by omega)
  have codes : (utf8Bytes s).map UInt8.toNat = i.ascii := by
    calc
      (utf8Bytes s).map UInt8.toNat = ((utf8Bytes s).drop 0).map UInt8.toNat := rfl
      _ = i.ascii := by
        rw [drop_field year mark4, drop_field month mark7, drop_field day mark10,
          drop_field hour mark13, drop_field minute mark16, drop_field second mark19, last]
        rfl
  apply utf8Bytes_injective
  apply List.map_injective_iff.mpr fun _ _ same => UInt8.toNat_inj.mp same
  rw [codes, i.codes_text]

theorem mark_of_code {bytes : List UInt8} {k : Nat} {mark : UInt8}
    (code : (bytes.map UInt8.toNat)[k]? = some mark.toNat) : bytes[k]? = some mark := by
  rw [List.getElem?_map, Option.map_eq_some_iff] at code
  rcases code with ⟨b, held, same⟩
  rw [held, UInt8.toNat_inj.mp same]

theorem utcInstant_text {i : Instant} (year_lt : i.year < 10 ^ 4) :
    utcInstant i.text = .ok () := by
  rcases i.two_digits with ⟨month_lt, day_lt, hour_lt, minute_lt, second_lt⟩
  have codes := i.codes_text
  have length : (utf8Bytes i.text).length = 20 := by
    rw [← List.length_map UInt8.toNat, codes]
    simp [Instant.ascii]
  have marked : ∀ mark ∈ ([(4, 45), (7, 45), (10, 84), (13, 58), (16, 58), (19, 90)] :
      List (Nat × UInt8)), (utf8Bytes i.text)[mark.1]? = some mark.2 := by
    intro mark member
    apply mark_of_code
    rw [codes]
    fin_cases member <;> simp [Instant.ascii]
  have read : ∀ {start len n : Nat}, n < 10 ^ len →
      (i.ascii.drop start).take len = digits len n →
      digitsAt (utf8Bytes i.text) start len = some n := by
    intro start len n small spelled
    refine digitsAt_eq_some_iff.mpr ⟨small, ?_⟩
    rw [List.map_take, List.map_drop, codes, spelled]
  have year : digitsAt (utf8Bytes i.text) 0 4 = some i.year :=
    read year_lt (by simp [Instant.ascii])
  have month : digitsAt (utf8Bytes i.text) 5 2 = some i.month :=
    read month_lt (by simp [Instant.ascii, List.drop_append, List.drop_eq_nil_of_le])
  have day : digitsAt (utf8Bytes i.text) 8 2 = some i.day :=
    read day_lt (by simp [Instant.ascii, List.drop_append, List.drop_eq_nil_of_le])
  have hour : digitsAt (utf8Bytes i.text) 11 2 = some i.hour :=
    read hour_lt (by simp [Instant.ascii, List.drop_append, List.drop_eq_nil_of_le])
  have minute : digitsAt (utf8Bytes i.text) 14 2 = some i.minute :=
    read minute_lt (by simp [Instant.ascii, List.drop_append, List.drop_eq_nil_of_le])
  have second : digitsAt (utf8Bytes i.text) 17 2 = some i.second :=
    read second_lt (by simp [Instant.ascii, List.drop_append, List.drop_eq_nil_of_le])
  have dated := i.dated
  have timed := i.timed
  simp only [List.forall_mem_cons] at marked
  simp only [utcInstant, bind_ok_iff, refuseIf_ok_iff, foldlM_unit_ok_iff, not_not,
    List.forall_mem_cons, year, month, day, hour, minute, second, daysIn_eq, not_or, not_lt]
  exact ⟨(), length, (), ⟨marked.1, marked.2.1, marked.2.2.1, marked.2.2.2.1, marked.2.2.2.2.1,
    nofun⟩, (), marked.2.2.2.2.2.1, (), by omega, by omega⟩

theorem utcInstant_ok_iff {s : String} :
    utcInstant s = .ok () ↔ ∃ i : Instant, i.year < 10 ^ 4 ∧ s = i.text := by
  constructor
  · intro accepted
    simp only [utcInstant, bind_ok_iff, refuseIf_ok_iff, foldlM_unit_ok_iff, not_not] at accepted
    rcases accepted with ⟨_, length, _, marks, _, suffix, fields⟩
    split at fields
    case h_1 year month day hour minute second yearAt monthAt dayAt hourAt minuteAt secondAt =>
      simp only [bind_ok_iff, refuseIf_ok_iff, not_or, not_lt, daysIn_eq] at fields
      rcases fields with ⟨_, ⟨_, day_ne, day_le⟩, hour_le, minute_le, second_le⟩
      let i : Instant := ⟨year, month, day, hour, minute, second, ⟨by omega, day_le⟩, by omega⟩
      refine ⟨i, (digitsAt_eq_some_iff.mp yearAt).1, ?_⟩
      refine text_of_fields length ?_ yearAt monthAt dayAt hourAt minuteAt secondAt
      simp only [List.forall_mem_cons] at marks ⊢
      exact ⟨marks.1, marks.2.1, marks.2.2.1, marks.2.2.2.1, marks.2.2.2.2.1, suffix,
        List.forall_mem_nil _⟩
    case h_2 => cases fields
  · rintro ⟨i, year_lt, rfl⟩
    exact utcInstant_text year_lt

end O7Formal.Closure
