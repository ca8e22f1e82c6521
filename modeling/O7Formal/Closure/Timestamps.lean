import O7Formal.Closure.Instant
import O7Formal.Contracts.Scalars

/-! The two readers of timestamps: the date-times of RFC 3339 at offset zero, and the instants of
twenty bytes among them. -/

namespace O7Formal.Calendar

open ByteCodec Utf8

def IsZulu (zone : String) : Prop := zone = "Z" ∨ zone = "z" ∨ zone = "+00:00"

/-- A date-time at offset zero, as RFC 3339 spells it. The second 60 stands at the end of a day. -/
@[ext]
structure DateTime where
  year : Nat
  month : Nat
  day : Nat
  hour : Nat
  minute : Nat
  second : Nat
  separator : Char
  fraction : List Char
  zone : String
  year_lt : year < 10 ^ 4
  dated : 1 ≤ day ∧ day ≤ daysInMonth year month
  timed : hour ≤ 23 ∧ minute ≤ 59 ∧ (second ≤ 59 ∨ second = 60 ∧ hour = 23 ∧ minute = 59)
  separates : separator = 'T' ∨ separator = 't'
  decimals : ∀ c ∈ fraction, c.isDigit = true
  zulu : IsZulu zone

namespace DateTime

variable (d : DateTime)

/-- `YYYY-MM-DDThh:mm:ss`, in ASCII. -/
def stamp : List Nat :=
  digits 4 d.year ++ 45 :: (digits 2 d.month ++ 45 :: (digits 2 d.day ++ d.separator.toNat ::
    (digits 2 d.hour ++ 58 :: (digits 2 d.minute ++ 58 :: digits 2 d.second))))

def suffix : List Char := (if d.fraction = [] then [] else '.' :: d.fraction) ++ d.zone.toList

def text : String := String.ofList (d.stamp.map Char.ofNat ++ d.suffix)

def seconds : Nat :=
  (((∑ year ∈ Finset.range d.year, daysInYear year +
    (∑ month ∈ Finset.range d.month, daysInMonth d.year month + (d.day - 1))) * 24 + d.hour) * 60 +
      d.minute) * 60 + d.second

end DateTime

theorem digits_of_bytes {bytes : List UInt8}
    (decimals : ∀ b ∈ bytes, Contracts.isAsciiDigit b = true) :
    ∃ n < 10 ^ bytes.length, bytes = (digits bytes.length n).map UInt8.ofNat := by
  induction bytes using List.reverseRecOn with
  | nil => exact ⟨0, by decide, rfl⟩
  | append_singleton bytes b ih =>
      rw [List.forall_mem_append, List.forall_mem_singleton] at decimals
      rcases ih decimals.1 with ⟨n, n_lt, spelled⟩
      have digit := decimals.2
      simp only [Contracts.isAsciiDigit, Bool.and_eq_true, decide_eq_true_eq,
        UInt8.le_iff_toNat_le, UInt8.reduceToNat] at digit
      refine ⟨n * 10 + (b.toNat - 48), ?_, ?_⟩
      · rw [List.length_append, List.length_singleton, pow_succ]
        omega
      · have whole : (n * 10 + (b.toNat - 48)) / 10 = n := by omega
        have rest : 48 + (n * 10 + (b.toNat - 48)) % 10 = b.toNat := by omega
        rw [List.length_append, List.length_singleton, digits, whole, rest, List.map_append,
          ← spelled, List.map_singleton, UInt8.ofNat_toNat]

theorem decimal_digits {width n : Nat} (n_lt : n < 10 ^ width) :
    Contracts.decimal ((digits width n).map UInt8.ofNat) = n := by
  induction width generalizing n with
  | zero =>
      have zero : n = 0 := by simpa using n_lt
      rw [zero]
      rfl
  | succ width ih =>
      have inner := ih (n := n / 10) (by rw [pow_succ] at n_lt; omega)
      have low : 48 + n % 10 < 256 := by omega
      rw [Contracts.decimal] at inner ⊢
      rw [digits, List.map_append, List.foldl_append, inner]
      simp only [List.map_cons, List.map_nil, List.foldl_cons, List.foldl_nil,
        UInt8.toNat_ofNat_of_lt' low]
      omega

theorem isAsciiDigit_digits (width n : Nat) :
    ∀ b ∈ (digits width n).map UInt8.ofNat, Contracts.isAsciiDigit b = true := by
  induction width generalizing n with
  | zero => exact List.forall_mem_nil _
  | succ width ih =>
      rw [digits, List.map_append, List.forall_mem_append]
      refine ⟨ih (n / 10), List.forall_mem_singleton.mpr ?_⟩
      have low : 48 + n % 10 < 256 := by omega
      simp only [Contracts.isAsciiDigit, Bool.and_eq_true, decide_eq_true_eq,
        UInt8.le_iff_toNat_le, UInt8.toNat_ofNat_of_lt' low, UInt8.reduceToNat]
      omega

end O7Formal.Calendar

namespace O7Formal.Contracts

open ByteCodec Calendar

def stampBytes (year month day hour minute second : Nat) (separator : UInt8) : List UInt8 :=
  (digits 4 year).map UInt8.ofNat ++ 45 :: ((digits 2 month).map UInt8.ofNat ++ 45 ::
    ((digits 2 day).map UInt8.ofNat ++ separator :: ((digits 2 hour).map UInt8.ofNat ++ 58 ::
      ((digits 2 minute).map UInt8.ofNat ++ 58 :: (digits 2 second).map UInt8.ofNat))))

def Matches (b shape : UInt8) : Prop := matchesShape b shape = true

theorem shape_timestamp : timestampShape = List.replicate 4 100 ++ 45 :: (List.replicate 2 100 ++
    45 :: (List.replicate 2 100 ++ 84 :: (List.replicate 2 100 ++ 58 :: (List.replicate 2 100 ++
      58 :: (List.replicate 2 100 ++ []))))) := by
  decide

theorem matches_iff {b shape : UInt8} : Matches b shape ↔
    if shape = 100 then isAsciiDigit b = true
    else if shape = 84 then b = 84 ∨ b = 116 else b = shape := by
  have digit : 'd'.toUInt8 = 100 := rfl
  have upper : 'T'.toUInt8 = 84 := rfl
  have lower : 't'.toUInt8 = 116 := rfl
  rw [Matches, matchesShape, digit, upper, lower]
  split_ifs <;> simp

theorem matches_dash {b : UInt8} : Matches b 45 ↔ b = 45 := by
  simp [matches_iff]

theorem matches_colon {b : UInt8} : Matches b 58 ↔ b = 58 := by
  simp [matches_iff]

theorem matches_separator {b : UInt8} : Matches b 84 ↔ b = 84 ∨ b = 116 := by
  simp [matches_iff]

theorem matches_digits {bytes : List UInt8} {width : Nat} :
    List.Forall₂ Matches bytes (List.replicate width 100) ↔
      bytes.length = width ∧ ∀ b ∈ bytes, isAsciiDigit b = true := by
  induction width generalizing bytes with
  | zero => simp +contextual [List.forall₂_nil_right_iff, List.length_eq_zero_iff]
  | succ width ih =>
      cases bytes with
      | nil => simp [List.replicate_succ]
      | cons b bytes =>
          have digit : Matches b 100 ↔ isAsciiDigit b = true := by simp [matches_iff]
          rw [List.replicate_succ, List.forall₂_cons, ih, digit, List.length_cons,
            List.forall_mem_cons, Nat.succ_inj]
          tauto

/-- A field of digits stands where the shape has as many `d`. -/
theorem matches_field {bytes shape : List UInt8} {width : Nat} :
    List.Forall₂ Matches bytes (List.replicate width 100 ++ shape) ↔
      ∃ n < 10 ^ width, ∃ tail, List.Forall₂ Matches tail shape ∧
        bytes = (digits width n).map UInt8.ofNat ++ tail := by
  constructor
  · intro held
    have first := List.forall₂_take_append bytes _ shape held
    have later := List.forall₂_drop_append bytes _ shape held
    rw [List.length_replicate] at first later
    rcases matches_digits.mp first with ⟨length, decimals⟩
    rcases digits_of_bytes decimals with ⟨n, n_lt, spelled⟩
    rw [length] at n_lt spelled
    refine ⟨n, n_lt, bytes.drop width, later, ?_⟩
    rw [← spelled, List.take_append_drop]
  · rintro ⟨n, _, tail, held, rfl⟩
    refine List.rel_append (matches_digits.mpr ⟨?_, isAsciiDigit_digits width n⟩) held
    rw [List.length_map, length_digits]

theorem shaped_iff {stamp : List UInt8} :
    (stamp.length = timestampShape.length ∧
      (stamp.zip timestampShape).all (fun pair => matchesShape pair.1 pair.2) = true) ↔
    ∃ year month day hour minute second separator, year < 10 ^ 4 ∧ month < 10 ^ 2 ∧ day < 10 ^ 2 ∧
      hour < 10 ^ 2 ∧ minute < 10 ^ 2 ∧ second < 10 ^ 2 ∧ (separator = 84 ∨ separator = 116) ∧
      stamp = stampBytes year month day hour minute second separator := by
  have zipped : (stamp.length = timestampShape.length ∧
      (stamp.zip timestampShape).all (fun pair => matchesShape pair.1 pair.2) = true) ↔
      List.Forall₂ Matches stamp timestampShape := by
    rw [List.forall₂_iff_zip, List.all_eq_true, Prod.forall]
    rfl
  rw [zipped, shape_timestamp]
  simp only [matches_field, List.forall₂_cons_right_iff, matches_dash, matches_colon,
    matches_separator, List.forall₂_nil_right_iff]
  constructor
  · rintro ⟨year, year_lt, _, ⟨_, _, rfl, ⟨month, month_lt, _, ⟨_, _, rfl, ⟨day, day_lt, _,
      ⟨separator, _, separates, ⟨hour, hour_lt, _, ⟨_, _, rfl, ⟨minute, minute_lt, _,
        ⟨_, _, rfl, ⟨second, second_lt, _, rfl, rfl⟩, rfl⟩, rfl⟩, rfl⟩, rfl⟩, rfl⟩, rfl⟩, rfl⟩,
          rfl⟩, rfl⟩, rfl⟩
    exact ⟨year, month, day, hour, minute, second, separator, year_lt, month_lt, day_lt, hour_lt,
      minute_lt, second_lt, separates, by rw [List.append_nil, stampBytes]⟩
  · rintro ⟨year, month, day, hour, minute, second, separator, year_lt, month_lt, day_lt, hour_lt,
      minute_lt, second_lt, separates, rfl⟩
    exact ⟨year, year_lt, _, ⟨_, _, rfl, ⟨month, month_lt, _, ⟨_, _, rfl, ⟨day, day_lt, _,
      ⟨separator, _, separates, ⟨hour, hour_lt, _, ⟨_, _, rfl, ⟨minute, minute_lt, _,
        ⟨_, _, rfl, ⟨second, second_lt, _, rfl, rfl⟩, rfl⟩, rfl⟩, rfl⟩, rfl⟩, rfl⟩, rfl⟩, rfl⟩, rfl⟩,
          rfl⟩, by rw [List.append_nil, stampBytes]⟩

theorem daysInMonth_eq (year month : Nat) :
    daysInMonth year month = Calendar.daysInMonth year month := by
  unfold Calendar.daysInMonth
  split <;> simp_all [daysInMonth]
  exact if_congr Iff.rfl rfl rfl

theorem stamp_fields {year month day hour minute second : Nat} (separator : UInt8)
    (year_lt : year < 10 ^ 4) (month_lt : month < 10 ^ 2) (day_lt : day < 10 ^ 2)
    (hour_lt : hour < 10 ^ 2) (minute_lt : minute < 10 ^ 2) (second_lt : second < 10 ^ 2) :
    [(0, 4), (5, 2), (8, 2), (11, 2), (14, 2), (17, 2)].map (fun field =>
      decimal (((stampBytes year month day hour minute second separator).drop field.1).take
        field.2)) = [year, month, day, hour, minute, second] := by
  have read : ∀ (start : Nat) {width n : Nat}, n < 10 ^ width →
      ((stampBytes year month day hour minute second separator).drop start).take width =
        (digits width n).map UInt8.ofNat →
      decimal (((stampBytes year month day hour minute second separator).drop start).take width) =
        n := by
    intro start width n n_lt spelled
    rw [spelled, decimal_digits n_lt]
  have yearAt := read 0 year_lt (by simp [stampBytes])
  have monthAt := read 5 month_lt
    (by simp [stampBytes, List.drop_append, List.drop_eq_nil_of_le])
  have dayAt := read 8 day_lt
    (by simp [stampBytes, List.drop_append, List.drop_eq_nil_of_le])
  have hourAt := read 11 hour_lt
    (by simp [stampBytes, List.drop_append, List.drop_eq_nil_of_le])
  have minuteAt := read 14 minute_lt
    (by simp [stampBytes, List.drop_append, List.drop_eq_nil_of_le])
  have secondAt := read 17 second_lt
    (by simp [stampBytes, List.drop_append, List.drop_eq_nil_of_le])
  simp only [List.map_cons, List.map_nil, yearAt, monthAt, dayAt, hourAt, minuteAt, secondAt]

theorem separator_stampBytes (year month day hour minute second : Nat) (separator : UInt8) :
    (stampBytes year month day hour minute second separator)[10]? = some separator := by
  simp [stampBytes]

theorem isCalendarStamp_iff {year month day hour minute second : Nat} {separator : UInt8}
    (year_lt : year < 10 ^ 4) (month_lt : month < 10 ^ 2) (day_lt : day < 10 ^ 2)
    (hour_lt : hour < 10 ^ 2) (minute_lt : minute < 10 ^ 2) (second_lt : second < 10 ^ 2) :
    isCalendarStamp (stampBytes year month day hour minute second separator) = true ↔
      (1 ≤ day ∧ day ≤ Calendar.daysInMonth year month) ∧ hour ≤ 23 ∧ minute ≤ 59 ∧
        (second ≤ 59 ∨ second = 60 ∧ hour = 23 ∧ minute = 59) := by
  have fields := stamp_fields separator year_lt month_lt day_lt hour_lt minute_lt second_lt
  simp only [List.map_cons, List.map_nil, List.cons.injEq, and_true] at fields
  rcases fields with ⟨yearAt, monthAt, dayAt, hourAt, minuteAt, secondAt⟩
  simp only [isCalendarStamp, yearAt, monthAt, dayAt, hourAt, minuteAt, secondAt, daysInMonth_eq,
    Bool.and_eq_true, Bool.or_eq_true, decide_eq_true_eq, beq_iff_eq]
  constructor
  · rintro ⟨⟨⟨_, dated⟩, timed⟩, leap⟩
    exact ⟨dated, timed.1, timed.2, by tauto⟩
  · rintro ⟨dated, hour_le, minute_le, leap⟩
    have months := month_le (by omega : 0 < Calendar.daysInMonth year month)
    have month_pos : month ≠ 0 := by
      rintro rfl
      have none : Calendar.daysInMonth year 0 = 0 := rfl
      omega
    exact ⟨⟨⟨⟨by omega, months⟩, dated⟩, hour_le, minute_le⟩, by tauto⟩

theorem zulu_bytes {zone : String} (zulu : IsZulu zone) :
    ∃ b tail, utf8Bytes zone = b :: tail ∧ isAsciiDigit b = false ∧ b ≠ 46 := by
  rcases zulu with rfl | rfl | rfl
  · exact ⟨90, [], by decide, by decide, by decide⟩
  · exact ⟨122, [], by decide, by decide, by decide⟩
  · exact ⟨43, [48, 48, 58, 48, 48], by decide, by decide, by decide⟩

theorem isUtcSuffix_iff {rest : List UInt8} : isUtcSuffix rest = true ↔
    ∃ fraction zone, (∀ b ∈ fraction, isAsciiDigit b = true) ∧ IsZulu zone ∧
      rest = (if fraction = [] then [] else 46 :: fraction) ++ utf8Bytes zone := by
  have zoned : ∀ tail : List UInt8, (tail == utf8Bytes "Z" || tail == utf8Bytes "z" ||
      tail == utf8Bytes "+00:00") = true ↔ ∃ zone, IsZulu zone ∧ tail = utf8Bytes zone := by
    intro tail
    simp [IsZulu, or_assoc]
  have dot : '.'.toUInt8 = 46 := rfl
  cases rest with
  | nil =>
      refine iff_of_false Bool.false_ne_true ?_
      rintro ⟨fraction, zone, _, zulu, same⟩
      rcases zulu_bytes zulu with ⟨b, tail, first, _⟩
      rw [first] at same
      exact List.append_ne_nil_of_right_ne_nil _ (List.cons_ne_nil b tail) same.symm
  | cons b frac =>
      by_cases dotted : b = 46
      · rw [isUtcSuffix, dot, if_pos dotted, Bool.and_eq_true, zoned]
        constructor
        · rintro ⟨some, zone, zulu, same⟩
          refine ⟨frac.takeWhile isAsciiDigit, zone, List.all_eq_true.mp List.all_takeWhile, zulu, ?_⟩
          have nonempty : frac.takeWhile isAsciiDigit ≠ [] := by simpa using some
          rw [if_neg nonempty, ← same, List.cons_append, List.takeWhile_append_dropWhile, dotted]
        · rintro ⟨fraction, zone, decimals, zulu, same⟩
          rcases zulu_bytes zulu with ⟨z, tail, first, stop, undotted⟩
          by_cases empty : fraction = []
          · rw [if_pos empty, List.nil_append, first] at same
            exact absurd ((List.cons.inj same).1.symm.trans dotted) undotted
          · rw [if_neg empty, List.cons_append] at same
            have read := (List.cons.inj same).2
            rw [read, List.takeWhile_append_of_pos decimals, List.dropWhile_append_of_pos decimals,
              first, List.takeWhile_cons_of_neg (by rw [stop]; exact Bool.false_ne_true),
              List.dropWhile_cons_of_neg (by rw [stop]; exact Bool.false_ne_true), List.append_nil]
            exact ⟨by simpa using empty, zone, zulu, first.symm⟩
      · rw [isUtcSuffix, dot, if_neg dotted, zoned]
        constructor
        · rintro ⟨zone, zulu, same⟩
          exact ⟨[], zone, List.forall_mem_nil _, zulu, same⟩
        · rintro ⟨fraction, zone, _, zulu, same⟩
          by_cases empty : fraction = []
          · rw [if_pos empty, List.nil_append] at same
            exact ⟨zone, zulu, same⟩
          · rw [if_neg empty, List.cons_append] at same
            exact absurd (List.cons.inj same).1 dotted

end O7Formal.Contracts

namespace O7Formal.Calendar

open ByteCodec Utf8 Contracts

theorem isDigit_iff {c : Char} : c.isDigit = true ↔ IsAscii c ∧ isAsciiDigit c.toUInt8 = true := by
  simp only [Char.isDigit_iff_toNat, Char.reduceToNat]
  constructor
  · intro digit
    have low : IsAscii c := by
      rw [IsAscii]
      omega
    refine ⟨low, ?_⟩
    simpa only [isAsciiDigit, Bool.and_eq_true, decide_eq_true_eq, UInt8.le_iff_toNat_le,
      toNat_toUInt8 low, UInt8.reduceToNat] using digit
  · rintro ⟨low, digit⟩
    simpa only [isAsciiDigit, Bool.and_eq_true, decide_eq_true_eq, UInt8.le_iff_toNat_le,
      toNat_toUInt8 low, UInt8.reduceToNat] using digit

theorem digit_bytes {text : List Char} (decimals : ∀ c ∈ text, c.isDigit = true) :
    ∀ b ∈ utf8 text, isAsciiDigit b = true := by
  intro b member
  rcases List.mem_flatMap.mp member with ⟨c, held, inside⟩
  rcases isDigit_iff.mp (decimals c held) with ⟨low, digit⟩
  rw [utf8EncodeChar_ascii low, List.mem_singleton] at inside
  rw [inside]
  exact digit

namespace DateTime

variable (d : DateTime)

theorem two_digits : d.month < 10 ^ 2 ∧ d.day < 10 ^ 2 ∧ d.hour < 10 ^ 2 ∧ d.minute < 10 ^ 2 ∧
    d.second < 10 ^ 2 := by
  have dated := d.dated
  have timed := d.timed
  have months := month_le (by omega : 0 < Calendar.daysInMonth d.year d.month)
  have days : Calendar.daysInMonth d.year d.month ≤ 31 := by
    unfold Calendar.daysInMonth
    split <;> first | omega | (split <;> omega)
  omega

theorem stamp_low : ∀ n ∈ d.stamp, n < 128 := by
  have separator : d.separator.toNat < 128 := by
    rcases d.separates with same | same <;> rw [same] <;> decide
  simp only [stamp, List.forall_mem_append, List.forall_mem_cons]
  exact ⟨digits_low _ _, by decide, digits_low _ _, by decide, digits_low _ _, separator,
    digits_low _ _, by decide, digits_low _ _, by decide, digits_low _ _⟩

theorem stamp_bytes : d.stamp.map UInt8.ofNat =
    stampBytes d.year d.month d.day d.hour d.minute d.second d.separator.toUInt8 := by
  have separator : UInt8.ofNat d.separator.toNat = d.separator.toUInt8 := by
    rcases d.separates with same | same <;> rw [same] <;> rfl
  simp [stamp, stampBytes, separator]

theorem utf8Bytes_text : utf8Bytes d.text =
    stampBytes d.year d.month d.day d.hour d.minute d.second d.separator.toUInt8 ++
      ((if utf8 d.fraction = [] then [] else 46 :: utf8 d.fraction) ++ utf8Bytes d.zone) := by
  have dotted : utf8 (if d.fraction = [] then [] else '.' :: d.fraction) =
      if utf8 d.fraction = [] then [] else 46 :: utf8 d.fraction := by
    by_cases empty : d.fraction = []
    · rw [if_pos empty, if_pos (utf8_eq_nil_iff.mpr empty), utf8_nil]
    · rw [if_neg empty, if_neg (mt utf8_eq_nil_iff.mp empty), utf8_cons_ascii (by decide)]
      rfl
  calc
    utf8Bytes d.text = utf8 (d.stamp.map Char.ofNat ++ d.suffix) := by
      rw [text, utf8Bytes, String.toList_ofList, utf8]
    _ = _ := by
      rw [utf8_append, utf8_codes d.stamp_low, stamp_bytes, suffix, utf8_append, dotted]
      rfl

theorem isRfc3339Utc_text : isRfc3339Utc d.text = true := by
  rcases d.two_digits with ⟨month_lt, day_lt, hour_lt, minute_lt, second_lt⟩
  have length : ∀ separator, (stampBytes d.year d.month d.day d.hour d.minute d.second
      separator).length = timestampShape.length := by
    intro separator
    simp [stampBytes, shape_timestamp]
  have separator : d.separator.toUInt8 = 84 ∨ d.separator.toUInt8 = 116 :=
    d.separates.imp (fun same => by rw [same]; rfl) fun same => by rw [same]; rfl
  have shaped := shaped_iff.mpr ⟨d.year, d.month, d.day, d.hour, d.minute, d.second, _, d.year_lt,
    month_lt, day_lt, hour_lt, minute_lt, second_lt, separator, rfl⟩
  have stamped : isCalendarStamp (stampBytes d.year d.month d.day d.hour d.minute d.second
      d.separator.toUInt8) = true :=
    (isCalendarStamp_iff d.year_lt month_lt day_lt hour_lt minute_lt second_lt).mpr
      ⟨d.dated, d.timed⟩
  have ended := isUtcSuffix_iff.mpr
    ⟨utf8 d.fraction, d.zone, digit_bytes d.decimals, d.zulu, rfl⟩
  simp only [isRfc3339Utc, utf8Bytes_text, List.take_left' (length _), List.drop_left' (length _),
    Bool.and_eq_true, beq_iff_eq]
  exact ⟨⟨shaped, stamped⟩, ended⟩

theorem exists_text {s : String} (accepted : isRfc3339Utc s = true) :
    ∃ d : DateTime, d.text = s := by
  simp only [isRfc3339Utc, Bool.and_eq_true, beq_iff_eq] at accepted
  rcases accepted with ⟨⟨shaped, stamped⟩, ended⟩
  rcases shaped_iff.mp shaped with ⟨year, month, day, hour, minute, second, separator, year_lt,
    month_lt, day_lt, hour_lt, minute_lt, second_lt, separates, same⟩
  rcases isUtcSuffix_iff.mp ended with ⟨fraction, zone, decimals, zulu, rest⟩
  rw [same, isCalendarStamp_iff year_lt month_lt day_lt hour_lt minute_lt second_lt] at stamped
  have digits : ∀ b ∈ fraction, (Char.ofNat b.toNat).isDigit = true := by
    intro b member
    have digit := decimals b member
    have low : b.toNat < 0x80 := by
      simp only [isAsciiDigit, Bool.and_eq_true, decide_eq_true_eq, UInt8.le_iff_toNat_le,
        UInt8.reduceToNat] at digit
      omega
    rcases ascii_of_byte low with ⟨ascii, byte⟩
    exact isDigit_iff.mpr ⟨ascii, byte.symm ▸ digit⟩
  let d : DateTime :=
    { year, month, day, hour, minute, second, zone, year_lt, zulu
      separator := Char.ofNat separator.toNat
      fraction := fraction.map fun b => Char.ofNat b.toNat
      dated := stamped.1
      timed := stamped.2
      separates := separates.imp (fun upper => by rw [upper]; rfl) fun lower => by rw [lower]; rfl
      decimals := List.forall_mem_map.mpr digits }
  have separated : d.separator.toUInt8 = separator := by
    rcases separates with rfl | rfl <;> rfl
  have fractions : utf8 d.fraction = fraction :=
    utf8_map_ofNat fun c held => (isDigit_iff.mp (d.decimals c held)).1
  refine ⟨d, utf8Bytes_injective ?_⟩
  calc
    utf8Bytes d.text = stampBytes year month day hour minute second separator ++
        ((if fraction = [] then [] else 46 :: fraction) ++ utf8Bytes zone) := by
      rw [utf8Bytes_text, separated]
      simp only [fractions]
      rfl
    _ = (utf8Bytes s).take timestampShape.length ++ (utf8Bytes s).drop timestampShape.length := by
      rw [same, rest]
    _ = utf8Bytes s := List.take_append_drop _ _

end DateTime

theorem isRfc3339Utc_iff {s : String} : isRfc3339Utc s = true ↔ ∃ d : DateTime, d.text = s := by
  constructor
  · exact DateTime.exists_text
  · rintro ⟨d, rfl⟩
    exact d.isRfc3339Utc_text

theorem digits_then_inj {f g z w : List Char} (decimalsF : ∀ c ∈ f, c.isDigit = true)
    (decimalsG : ∀ c ∈ g, c.isDigit = true) (stopZ : ∀ c ∈ z.head?, c.isDigit = false)
    (stopW : ∀ c ∈ w.head?, c.isDigit = false) (same : f ++ z = g ++ w) : f = g ∧ z = w := by
  have stopped : ∀ {t : List Char}, (∀ c ∈ t.head?, c.isDigit = false) →
      t.takeWhile Char.isDigit = [] := by
    intro t stop
    cases t with
    | nil => rfl
    | cons c t =>
        exact List.takeWhile_cons_of_neg (by rw [stop c rfl]; exact Bool.false_ne_true)
  have first := congrArg (List.takeWhile Char.isDigit) same
  rw [List.takeWhile_append_of_pos decimalsF, List.takeWhile_append_of_pos decimalsG,
    stopped stopZ, stopped stopW, List.append_nil, List.append_nil] at first
  rw [first] at same
  exact ⟨first, List.append_cancel_left same⟩

theorem zulu_stops {zone : String} (zulu : IsZulu zone) :
    ∀ c ∈ zone.toList.head?, c.isDigit = false ∧ c ≠ '.' := by
  intro c first
  have marks : c = 'Z' ∨ c = 'z' ∨ c = '+' := by
    rcases zulu with rfl | rfl | rfl
    · have mark : "Z".toList.head? = some 'Z' := by decide
      exact .inl (Option.some.inj (first.symm.trans mark))
    · have mark : "z".toList.head? = some 'z' := by decide
      exact .inr (.inl (Option.some.inj (first.symm.trans mark)))
    · have mark : "+00:00".toList.head? = some '+' := by decide
      exact .inr (.inr (Option.some.inj (first.symm.trans mark)))
  rcases marks with rfl | rfl | rfl
  · exact ⟨by decide, by decide⟩
  · exact ⟨by decide, by decide⟩
  · exact ⟨by decide, by decide⟩

namespace DateTime

theorem suffix_inj {d e : DateTime} (same : d.suffix = e.suffix) :
    d.fraction = e.fraction ∧ d.zone = e.zone := by
  have undotted : ∀ {zone : String} {after : List Char}, IsZulu zone →
      zone.toList ≠ '.' :: after := by
    intro zone after zulu same
    exact (zulu_stops zulu '.' (by rw [same]; rfl)).2 rfl
  rw [suffix, suffix] at same
  by_cases emptyD : d.fraction = [] <;> by_cases emptyE : e.fraction = []
  · rw [if_pos emptyD, if_pos emptyE] at same
    exact ⟨emptyD.trans emptyE.symm, String.toList_inj.mp same⟩
  · rw [if_pos emptyD, if_neg emptyE] at same
    exact absurd same (undotted d.zulu)
  · rw [if_neg emptyD, if_pos emptyE] at same
    exact absurd same.symm (undotted e.zulu)
  · rw [if_neg emptyD, if_neg emptyE, List.cons_append, List.cons_append] at same
    rcases digits_then_inj d.decimals e.decimals (fun c first => (zulu_stops d.zulu c first).1)
      (fun c first => (zulu_stops e.zulu c first).1) (List.cons.inj same).2 with ⟨fraction, zone⟩
    exact ⟨fraction, String.toList_inj.mp zone⟩

theorem text_injective : Function.Injective text := by
  intro d e same
  have lengths : (d.stamp.map Char.ofNat).length = (e.stamp.map Char.ofNat).length := by
    simp [stamp]
  rcases List.append_inj (String.ofList_injective same) lengths with ⟨stamps, suffixes⟩
  rcases suffix_inj suffixes with ⟨fraction, zone⟩
  have bytes := congrArg utf8 stamps
  rw [utf8_codes d.stamp_low, utf8_codes e.stamp_low, stamp_bytes, stamp_bytes] at bytes
  rcases d.two_digits with ⟨monthD, dayD, hourD, minuteD, secondD⟩
  rcases e.two_digits with ⟨monthE, dayE, hourE, minuteE, secondE⟩
  have fields := stamp_fields d.separator.toUInt8 d.year_lt monthD dayD hourD minuteD secondD
  rw [bytes, stamp_fields _ e.year_lt monthE dayE hourE minuteE secondE] at fields
  have separators := congrArg (fun stamp => stamp[10]?) bytes
  simp only [separator_stampBytes, Option.some.injEq] at separators
  have ascii : ∀ {c : Char}, c = 'T' ∨ c = 't' → IsAscii c := by
    rintro c (rfl | rfl) <;> decide
  simp only [List.cons.injEq, and_true] at fields
  rcases fields with ⟨year, month, day, hour, minute, second⟩
  exact DateTime.ext year.symm month.symm day.symm hour.symm minute.symm second.symm
    ((toUInt8_inj (ascii d.separates) (ascii e.separates)).mp separators) fraction zone

def toInstant (d : DateTime) (ordinary : d.second ≤ 59) : Instant :=
  ⟨d.year, d.month, d.day, d.hour, d.minute, d.second, d.dated, by
    have timed := d.timed
    omega⟩

def ofInstant (i : Instant) (year_lt : i.year < 10 ^ 4) : DateTime :=
  { i with
    separator := 'T', fraction := [], zone := "Z", year_lt, separates := .inl rfl, zulu := .inl rfl
    timed := by
      have timed := i.timed
      omega
    decimals := List.forall_mem_nil _ }

theorem text_ofInstant (i : Instant) (year_lt : i.year < 10 ^ 4) :
    (ofInstant i year_lt).text = i.text := by
  have zone : "Z".toList = [90].map Char.ofNat := by decide
  have ended : (ofInstant i year_lt).suffix = "Z".toList := by
    simp [suffix, ofInstant]
  have ascii : i.ascii = (ofInstant i year_lt).stamp ++ [90] := by
    simp [Instant.ascii, stamp, ofInstant]
  rw [text, ended, zone, Instant.text, ascii, List.map_append]

theorem seconds_toInstant (d : DateTime) (ordinary : d.second ≤ 59) :
    (d.toInstant ordinary).seconds = d.seconds := rfl

/-- Twenty bytes, in upper case, without a fraction or an added second. -/
def IsInstant (d : DateTime) : Prop :=
  byteLength d.text = 20 ∧ d.separator = 'T' ∧ d.zone = "Z" ∧ d.fraction = [] ∧ d.second ≤ 59

theorem toInstant_text {d : DateTime} (ordinary : d.second ≤ 59) (upper : d.separator = 'T')
    (zone : d.zone = "Z") (whole : d.fraction = []) : (d.toInstant ordinary).text = d.text := by
  have same : ofInstant (d.toInstant ordinary) d.year_lt = d :=
    DateTime.ext rfl rfl rfl rfl rfl rfl upper.symm whole.symm zone.symm
  rw [← text_ofInstant _ d.year_lt, same]

theorem length_text (i : Instant) : byteLength i.text = 20 := by
  rw [byteLength, Instant.utf8Bytes_text]
  simp [Instant.ascii]

end DateTime

theorem utcInstant_iff {s : String} :
    Closure.utcInstant s = .ok () ↔ ∃ d : DateTime, d.text = s ∧ d.IsInstant := by
  rw [Closure.utcInstant_ok_iff]
  constructor
  · rintro ⟨i, year_lt, rfl⟩
    have timed := i.timed
    refine ⟨DateTime.ofInstant i year_lt, DateTime.text_ofInstant i year_lt, ?_, rfl, rfl, rfl, ?_⟩
    · rw [DateTime.text_ofInstant, DateTime.length_text]
    · exact Nat.le_of_lt_succ timed.2.2
  · rintro ⟨d, rfl, _, upper, zone, whole, ordinary⟩
    exact ⟨d.toInstant ordinary, d.year_lt,
      (DateTime.toInstant_text ordinary upper zone whole).symm⟩

theorem seconds_ne {d e : DateTime} (readD : Closure.utcInstant d.text = .ok ())
    (readE : Closure.utcInstant e.text = .ok ()) (distinct : d.text ≠ e.text) :
    d.seconds ≠ e.seconds := by
  rcases utcInstant_iff.mp readD with ⟨_, sameD, _, upperD, zoneD, wholeD, ordinaryD⟩
  rcases utcInstant_iff.mp readE with ⟨_, sameE, _, upperE, zoneE, wholeE, ordinaryE⟩
  cases DateTime.text_injective sameD
  cases DateTime.text_injective sameE
  intro same
  rw [← DateTime.seconds_toInstant d ordinaryD, ← DateTime.seconds_toInstant e ordinaryE] at same
  apply distinct
  rw [← DateTime.toInstant_text ordinaryD upperD zoneD wholeD, Instant.seconds_injective same,
    DateTime.toInstant_text ordinaryE upperE zoneE wholeE]

/-- What each reader of timestamps accepts: the closure crates one spelling of each instant, and
the contracts these among all date-times at offset zero. -/
theorem timestamp_languages :
    (∀ s, isRfc3339Utc s = true ↔ ∃ d : DateTime, d.text = s) ∧
    (∀ s, Closure.utcInstant s = .ok () ↔ ∃ d : DateTime, d.text = s ∧ d.IsInstant) ∧
    (∀ s, Closure.utcInstant s = .ok () → ∃ t, Timestamp.parse s = .ok t ∧ t.asStr = s) ∧
    ∀ d e : DateTime, Closure.utcInstant d.text = .ok () → Closure.utcInstant e.text = .ok () →
      d.text ≠ e.text → d.seconds ≠ e.seconds := by
  refine ⟨fun _ => isRfc3339Utc_iff, fun _ => utcInstant_iff, ?_, fun _ _ => seconds_ne⟩
  intro s accepted
  rcases utcInstant_iff.mp accepted with ⟨d, rfl, length, _⟩
  have fits : byteLength d.text ≤ maxTimestampBytes := by
    rw [length]
    decide
  refine ⟨⟨d.text, fits, d.isRfc3339Utc_text⟩, ?_, rfl⟩
  rw [Timestamp.parse, dif_pos fits, dif_pos d.isRfc3339Utc_text]

theorem timestamp_languages_leap_day :
    ∃ t, Timestamp.parse "2000-02-29T23:59:59Z" = .ok t ∧ t.asStr = "2000-02-29T23:59:59Z" :=
  timestamp_languages.2.2.1 _ (by decide +kernel)

example : isRfc3339Utc "1900-02-29T00:00:00Z" = false := by decide +kernel

example : isRfc3339Utc "2016-12-31t23:59:60.5+00:00" = true := by decide +kernel

end O7Formal.Calendar
