import FxToushi.Core.HealthCounters

namespace FxToushi.Core

open Calendar Data Py

/-! # Times in ISO format and back

`datetime.isoformat` of a time with any offset or none, and `datetime.fromisoformat` for the
dates of the calendar; week dates are not read.
-/

/-! ## Reading -/

def ofDigits (digits : List Char) : Nat :=
  digits.foldl (fun number char => 10 * number + (char.toNat - 48)) 0

/-- The number that the first so many characters are, if all of them are digits. -/
def takeNumber (width : Nat) (text : List Char) : Option (Nat × List Char) :=
  if (text.take width).length = width ∧ (text.take width).all Char.isDigit = true then
    some (ofDigits (text.take width), text.drop width)
  else none

/-- What is behind the mark, where the fields before have been separated by it. -/
def skipMark (separated : Bool) (mark : Char) (text : List Char) : Option (List Char) :=
  if !separated then some text
  else if text.head? = some mark then some text.tail
  else none

/-- Year, month and day. -/
structure Date where
  year : Nat
  month : Nat
  day : Nat

structure Clock where
  hour : Nat
  minute : Nat := 0
  second : Nat := 0
  micro : Nat := 0

def Clock.micros (clock : Clock) : Nat :=
  ((clock.hour * 60 + clock.minute) * 60 + clock.second) * 1000000 + clock.micro

/-- More than six digits are cut off. -/
def readFraction (digits : List Char) : Option Nat :=
  if digits ≠ [] ∧ digits.all Char.isDigit = true then
    some (ofDigits (digits.take 6) * 10 ^ (6 - digits.length))
  else none

def afterSecond (clock : Clock) : List Char → Option Clock
  | [] => some clock
  | mark :: digits =>
    if mark = '.' ∨ mark = ',' then
      (readFraction digits).map fun micro => { clock with micro }
    else none

/-- `_parse_hh_mm_ss_ff`. -/
def readClock (text : List Char) : Option Clock := do
  let (hour, rest) ← takeNumber 2 text
  if rest.isEmpty then some { hour }
  else
    let separated := rest.head? == some ':'
    let (minute, rest) ← takeNumber 2 (← skipMark separated ':' rest)
    if rest.isEmpty then some { hour, minute }
    else
      let (second, rest) ← takeNumber 2 (← skipMark separated ':' rest)
      afterSecond { hour, minute, second } rest

def readDate (text : List Char) : Option (Date × List Char) := do
  let (year, rest) ← takeNumber 4 text
  let separated := rest.head? == some '-'
  let (month, rest) ← takeNumber 2 (← skipMark separated '-' rest)
  let (day, rest) ← takeNumber 2 (← skipMark separated '-' rest)
  return ({ year, month, day }, rest)

/-- No offset, and one of less than a day. -/
def readZone : List Char → Option (Option Int)
  | [] => some none
  | sign :: rest =>
    if sign = 'Z' then if rest.isEmpty then some (some 0) else none
    else do
      let clock ← readClock rest
      if clock.micros < 86400000000 then
        some (some (if sign = '-' then -(clock.micros : Int) else clock.micros))
      else none

def Date.Valid (date : Date) : Prop :=
  1 ≤ date.year ∧ 1 ≤ date.month ∧ date.month ≤ 12 ∧ 1 ≤ date.day ∧
    date.day ≤ (UtcTime.monthLengths date.year).getD (date.month - 1) 0

instance (date : Date) : Decidable date.Valid := by
  unfold Date.Valid
  infer_instance

def Clock.Valid (clock : Clock) : Prop := clock.hour < 24 ∧ clock.minute < 60 ∧ clock.second < 60

instance (clock : Clock) : Decidable clock.Valid := by
  unfold Clock.Valid
  infer_instance

/-- The days before the date. -/
def Date.days (date : Date) : Nat :=
  UtcTime.daysBeforeYear date.year +
    ((UtcTime.monthLengths date.year).take (date.month - 1)).sum + (date.day - 1)

def dateTimeOf (date : Date) (clock : Clock) (offset : Option Int) : Option DateTime :=
  if date.Valid ∧ clock.Valid then
    if inRange : 0 ≤ ((date.days * 86400000000 + clock.micros : Nat) : Int) ∧
        ((date.days * 86400000000 + clock.micros : Nat) : Int) ≤ lastTime then
      some { time := (date.days * 86400000000 + clock.micros : Nat), offset, inRange }
    else none
  else none

def isZoneMark (char : Char) : Bool := char == '+' || char == '-' || char == 'Z'

def fromisoformat (text : String) : Option DateTime := do
  let (date, rest) ← readDate text.toList
  if rest.isEmpty then dateTimeOf date { hour := 0 } none
  else
    let clock ← readClock (rest.tail.takeWhile fun char => !isZoneMark char)
    let offset ← readZone (rest.tail.dropWhile fun char => !isZoneMark char)
    dateTimeOf date clock offset

/-! ## Writing -/

def fractionText (micro : Nat) : List Char :=
  if micro = 0 then [] else '.' :: UtcTime.padded 6 micro

def clockText (clock : Clock) : List Char :=
  UtcTime.padded 2 clock.hour ++ ':' :: (UtcTime.padded 2 clock.minute ++
    ':' :: (UtcTime.padded 2 clock.second ++ fractionText clock.micro))

/-- The seconds of an offset are only written where there are some. -/
def offsetText (clock : Clock) : List Char :=
  if clock.second = 0 ∧ clock.micro = 0 then
    UtcTime.padded 2 clock.hour ++ ':' :: UtcTime.padded 2 clock.minute
  else clockText clock

def clockOf (micros : Nat) : Clock where
  hour := micros / 3600000000
  minute := micros / 60000000 % 60
  second := micros / 1000000 % 60
  micro := micros % 1000000

def zoneText : Option Int → List Char
  | none => []
  | some offset =>
    (if offset < 0 then '-' else '+') :: offsetText (clockOf offset.natAbs)

def dateOf (day : Nat) : Date :=
  let (year, dayOfYear) := UtcTime.yearDay day
  let (month, day) := UtcTime.monthDay (UtcTime.monthLengths year) 1 dayOfYear
  { year, month, day }

def dateText (date : Date) : List Char :=
  UtcTime.padded 4 date.year ++ '-' :: (UtcTime.padded 2 date.month ++
    '-' :: UtcTime.padded 2 date.day)

def isoformat (moment : DateTime) : String :=
  String.ofList (dateText (dateOf (moment.time.toNat / 86400000000)) ++
    'T' :: (clockText (clockOf (moment.time.toNat % 86400000000)) ++ zoneText moment.offset))

def isoTexts : IsoTexts where
  isoformat
  fromisoformat

/-! ## Digits -/

section Digits

theorem isDigit_digitChar {digit : Nat} (small : digit < 10) :
    (Nat.digitChar digit).isDigit = true ∧ (Nat.digitChar digit).toNat - 48 = digit := by
  have every : ∀ digit < 10, (Nat.digitChar digit).isDigit = true ∧
      (Nat.digitChar digit).toNat - 48 = digit := by decide
  exact every digit small

theorem length_padded (width number : Nat) : (UtcTime.padded width number).length = width := by
  induction width generalizing number with
  | zero => rfl
  | succ width ih => rw [UtcTime.padded, List.length_append, ih, List.length_singleton]

theorem digits_padded (width number : Nat) :
    (UtcTime.padded width number).all Char.isDigit = true := by
  induction width generalizing number with
  | zero => rfl
  | succ width ih =>
    rw [UtcTime.padded, List.all_append, ih, List.all_cons,
      (isDigit_digitChar (Nat.mod_lt _ (by decide))).1]
    rfl

theorem ofDigits_padded {width number : Nat} (fits : number < 10 ^ width) :
    ofDigits (UtcTime.padded width number) = number := by
  induction width generalizing number with
  | zero =>
    obtain rfl : number = 0 := by omega
    rfl
  | succ width ih =>
    rw [UtcTime.padded, ofDigits, List.foldl_append, ← ofDigits, ih (by omega), List.foldl_cons,
      (isDigit_digitChar (Nat.mod_lt _ (by decide))).2, List.foldl_nil]
    omega

theorem takeNumber_padded {width number : Nat} (fits : number < 10 ^ width) (rest : List Char) :
    takeNumber width (UtcTime.padded width number ++ rest) = some (number, rest) := by
  have taken : (UtcTime.padded width number ++ rest).take width = UtcTime.padded width number :=
    List.take_left' (length_padded width number)
  have dropped : (UtcTime.padded width number ++ rest).drop width = rest :=
    List.drop_left' (length_padded width number)
  rw [takeNumber, taken, dropped, if_pos ⟨length_padded width number, digits_padded width number⟩,
    ofDigits_padded fits]

theorem readFraction_padded {micro : Nat} (fits : micro < 1000000) :
    readFraction (UtcTime.padded 6 micro) = some micro := by
  have length := length_padded 6 micro
  have some_digit : UtcTime.padded 6 micro ≠ [] := by
    intro empty
    rw [empty] at length
    cases length
  rw [readFraction, if_pos ⟨some_digit, digits_padded 6 micro⟩, length,
    List.take_of_length_le length.le, ofDigits_padded fits]
  simp

theorem afterSecond_fractionText {clock : Clock} (fits : clock.micro < 1000000) :
    afterSecond { clock with micro := 0 } (fractionText clock.micro) = some clock := by
  unfold fractionText
  split
  · rename_i none
    cases clock
    simp only at none
    rw [none]
    rfl
  · rw [afterSecond, if_pos (.inl rfl), readFraction_padded fits]
    rfl

end Digits

/-! ## Clocks -/

section Clocks

variable {clock : Clock}

/-- No field is wider than its digits. -/
structure Clock.Fits (clock : Clock) : Prop where
  hour : clock.hour < 100
  minute : clock.minute < 100
  second : clock.second < 100
  micro : clock.micro < 1000000

theorem readClock_clockText (fits : clock.Fits) : readClock (clockText clock) = some clock := by
  have hour := @takeNumber_padded 2 _ fits.hour
  have minute := @takeNumber_padded 2 _ fits.minute
  have second := @takeNumber_padded 2 _ fits.second
  have fraction := afterSecond_fractionText fits.micro
  simp [readClock, clockText, hour, minute, second, fraction, skipMark]

theorem readClock_offsetText (fits : clock.Fits) : readClock (offsetText clock) = some clock := by
  unfold offsetText
  split
  · rename_i whole
    have hour := @takeNumber_padded 2 _ fits.hour
    have minute := @takeNumber_padded 2 _ fits.minute []
    rw [List.append_nil] at minute
    cases clock
    simp only at whole
    obtain ⟨rfl, rfl⟩ := whole
    simp [readClock, hour, minute, skipMark]
  · exact readClock_clockText fits

theorem fits_clockOf {micros : Nat} (day : micros < 86400000000) : (clockOf micros).Fits := by
  unfold clockOf
  constructor
  · show micros / 3600000000 < 100
    omega
  · show micros / 60000000 % 60 < 100
    omega
  · show micros / 1000000 % 60 < 100
    omega
  · exact Nat.mod_lt _ (by decide)

theorem micros_clockOf (micros : Nat) : (clockOf micros).micros = micros := by
  unfold clockOf Clock.micros
  simp only
  omega

theorem valid_clockOf {micros : Nat} (day : micros < 86400000000) : (clockOf micros).Valid := by
  unfold clockOf Clock.Valid
  simp only
  omega

theorem not_zoneMark_of_digits {text : List Char} (digits : text.all Char.isDigit = true) :
    text.all (fun char => !isZoneMark char) = true := by
  refine List.all_eq_true.mpr fun char member => ?_
  have digit := List.all_eq_true.mp digits char member
  have marks : ['+', '-', 'Z'].all (fun mark => !mark.isDigit) = true := by decide
  rw [Bool.not_eq_true', Bool.eq_false_iff]
  intro mark
  have among : char ∈ ['+', '-', 'Z'] := by
    simpa [isZoneMark, or_assoc] using mark
  have other := List.all_eq_true.mp marks char among
  rw [digit] at other
  cases other

theorem not_zoneMark_clockText (clock : Clock) :
    (clockText clock).all (fun char => !isZoneMark char) = true := by
  have padded := fun width number => not_zoneMark_of_digits (digits_padded width number)
  have fraction : (fractionText clock.micro).all (fun char => !isZoneMark char) = true := by
    unfold fractionText
    split
    · rfl
    · rw [List.all_cons, padded]
      rfl
  simp only [clockText, List.all_append, List.all_cons, padded, fraction]
  rfl

theorem zone_head (offset : Option Int) :
    ∀ char ∈ (zoneText offset).head?, isZoneMark char = true := by
  intro char first
  cases offset with
  | none => cases first
  | some offset =>
    obtain rfl := Option.some.inj first
    split <;> rfl

/-- The zone starts at the first mark, which is no part of the clock. -/
theorem split_zone (clock : Clock) (offset : Option Int) :
    (clockText clock ++ zoneText offset).takeWhile (fun char => !isZoneMark char) =
        clockText clock ∧
      (clockText clock ++ zoneText offset).dropWhile (fun char => !isZoneMark char) =
        zoneText offset := by
  have inside := List.all_eq_true.mp (not_zoneMark_clockText clock)
  have marked := zone_head offset
  constructor
  · rw [List.takeWhile_append_of_pos inside]
    cases zone : zoneText offset with
    | nil => rw [List.takeWhile_nil, List.append_nil]
    | cons char rest =>
      rw [zone] at marked
      rw [List.takeWhile_cons_of_neg (by simp [marked char rfl]), List.append_nil]
  · rw [List.dropWhile_append_of_pos inside]
    cases zone : zoneText offset with
    | nil => rfl
    | cons char rest =>
      rw [zone] at marked
      exact List.dropWhile_cons_of_neg (by simp [marked char rfl])

theorem readZone_signed {sign : Char} (other : sign ≠ 'Z') {micros : Nat}
    (day : micros < 86400000000) : readZone (sign :: offsetText (clockOf micros)) =
      some (some (if sign = '-' then -(micros : Int) else micros)) := by
  have inDay : (clockOf micros).micros < 86400000000 := by
    rw [micros_clockOf]
    exact day
  rw [readZone, if_neg other, readClock_offsetText (fits_clockOf day), Option.bind_eq_bind,
    Option.bind_some, if_pos inDay, micros_clockOf]

theorem readZone_zoneText {offset : Option Int}
    (bounded : ∀ micros ∈ offset, micros.natAbs < 86400000000) :
    readZone (zoneText offset) = some offset := by
  cases offset with
  | none => rfl
  | some offset =>
    have day := bounded offset rfl
    rw [zoneText]
    by_cases negative : offset < 0
    · rw [if_pos negative, readZone_signed (by decide) day, if_pos rfl]
      have size : -(offset.natAbs : Int) = offset := by omega
      rw [size]
    · rw [if_neg negative, readZone_signed (by decide) day, if_neg (by decide)]
      have size : (offset.natAbs : Int) = offset := by omega
      rw [size]

end Clocks

/-! ## Dates -/

section Dates

/-- The days of the months before, and the day of the month. -/
theorem monthDay_spec {lengths : List Nat} (month : Nat) {day : Nat} (inside : day < lengths.sum) :
    month ≤ (UtcTime.monthDay lengths month day).1 ∧
      (UtcTime.monthDay lengths month day).1 < month + lengths.length ∧
        1 ≤ (UtcTime.monthDay lengths month day).2 ∧
          (UtcTime.monthDay lengths month day).2 ≤
              lengths.getD ((UtcTime.monthDay lengths month day).1 - month) 0 ∧
            (lengths.take ((UtcTime.monthDay lengths month day).1 - month)).sum +
              (UtcTime.monthDay lengths month day).2 = day + 1 := by
  induction lengths generalizing month day with
  | nil => exact absurd inside (Nat.not_lt_zero day)
  | cons length later ih =>
    rw [UtcTime.monthDay]
    split
    · rename_i here
      simp
      omega
    · rename_i beyond
      rw [List.sum_cons] at inside
      obtain ⟨after, before, first, last, total⟩ :=
        ih (month + 1) (show day - length < later.sum by omega)
      generalize UtcTime.monthDay later (month + 1) (day - length) = found at *
      obtain ⟨index, same⟩ : ∃ index, found.1 - month = index + 1 := ⟨found.1 - month - 1, by omega⟩
      have earlier : found.1 - (month + 1) = index := by omega
      rw [earlier] at last total
      rw [same, List.length_cons, List.getD_cons_succ, List.take_succ_cons, List.sum_cons]
      refine ⟨by omega, by omega, first, last, by omega⟩

theorem dateOf_spec {day : Nat} (covered : day < 3652059) :
    (dateOf day).Valid ∧ (dateOf day).days = day ∧ (dateOf day).year < 10000 ∧
      (dateOf day).day ≤ 31 := by
  obtain ⟨positive, total, -⟩ := UtcTime.yearDay_spec day
  obtain ⟨year, inside⟩ := UtcTime.yearDay_fits covered
  obtain ⟨after, before, first, last, sum⟩ := monthDay_spec 1 inside
  have short : ∀ length ∈ UtcTime.monthLengths (UtcTime.yearDay day).1, length ≤ 31 := by
    unfold UtcTime.monthLengths
    split <;> decide
  have bounded := (UtcTime.monthDay_fits short 1 inside).2
  have twelve : (UtcTime.monthLengths (UtcTime.yearDay day).1).length = 12 := rfl
  rw [twelve] at before
  have days : (dateOf day).days = UtcTime.daysBeforeYear (UtcTime.yearDay day).1 +
      ((UtcTime.monthLengths (UtcTime.yearDay day).1).take ((UtcTime.monthDay
        (UtcTime.monthLengths (UtcTime.yearDay day).1) 1 (UtcTime.yearDay day).2).1 - 1)).sum +
      ((UtcTime.monthDay (UtcTime.monthLengths (UtcTime.yearDay day).1) 1
        (UtcTime.yearDay day).2).2 - 1) := rfl
  refine ⟨⟨positive, after, ?_, first, last⟩, by omega, year, bounded⟩
  exact Nat.le_of_lt_succ before

theorem readDate_dateText {date : Date} (year : date.year < 10000) (month : date.month < 100)
    (day : date.day < 100) (rest : List Char) :
    readDate (dateText date ++ rest) = some (date, rest) := by
  have year := @takeNumber_padded 4 _ year
  have month := @takeNumber_padded 2 _ month
  have day := @takeNumber_padded 2 _ day
  simp [readDate, dateText, year, month, day, skipMark]

/-- What has been written of any time is read as this time. -/
theorem fromisoformat_isoformat {moment : DateTime}
    (bounded : ∀ micros ∈ moment.offset, micros.natAbs < 86400000000) :
    fromisoformat (isoformat moment) = some moment := by
  have range := moment.inRange
  unfold lastTime at range
  have covered : moment.time.toNat / 86400000000 < 3652059 := by omega
  have inDay : moment.time.toNat % 86400000000 < 86400000000 := Nat.mod_lt _ (by decide)
  obtain ⟨valid, days, year, day⟩ := dateOf_spec covered
  have date := @readDate_dateText (dateOf (moment.time.toNat / 86400000000)) year
    (lt_of_le_of_lt valid.2.2.1 (by decide)) (lt_of_le_of_lt day (by decide))
  obtain ⟨clock, zone⟩ := split_zone (clockOf (moment.time.toNat % 86400000000)) moment.offset
  have whole : moment.time.toNat / 86400000000 * 86400000000 +
      moment.time.toNat % 86400000000 = moment.time.toNat := by omega
  have time : ((moment.time.toNat : Nat) : Int) = moment.time := Int.toNat_of_nonneg range.1
  have read : dateTimeOf (dateOf (moment.time.toNat / 86400000000))
      (clockOf (moment.time.toNat % 86400000000)) moment.offset = some moment := by
    rw [dateTimeOf, if_pos ⟨valid, valid_clockOf inDay⟩]
    simp only [days, micros_clockOf, whole, time]
    rw [dif_pos moment.inRange]
  rw [fromisoformat, isoformat, String.toList_ofList, date]
  simp only [bind, Option.bind, List.isEmpty_cons, List.tail_cons, clock, zone,
    readClock_clockText (fits_clockOf inDay), readZone_zoneText bounded, read]
  rfl

end Dates

/-! ## Texts -/

section Texts

/-- What the text of a time is made of. -/
def isoSign (char : Char) : Bool := char.isDigit || "-T:.+".toList.contains char

theorem isoSign_digits {text : List Char} (digits : text.all Char.isDigit = true) :
    text.all isoSign = true :=
  List.all_eq_true.mpr fun char member =>
    Bool.or_eq_true_iff.mpr (.inl (List.all_eq_true.mp digits char member))

theorem isoSign_padded (width number : Nat) : (UtcTime.padded width number).all isoSign = true :=
  isoSign_digits (digits_padded width number)

theorem isoSign_clockText (clock : Clock) : (clockText clock).all isoSign = true := by
  have fraction : (fractionText clock.micro).all isoSign = true := by
    unfold fractionText
    split
    · rfl
    · rw [List.all_cons, isoSign_padded]
      rfl
  simp only [clockText, List.all_append, List.all_cons, isoSign_padded, fraction]
  rfl

theorem isoSign_zoneText (offset : Option Int) : (zoneText offset).all isoSign = true := by
  cases offset with
  | none => rfl
  | some offset =>
    have sign : isoSign (if offset < 0 then '-' else '+') = true := by
      split <;> rfl
    have text : (offsetText (clockOf offset.natAbs)).all isoSign = true := by
      unfold offsetText
      split
      · simp only [List.all_append, List.all_cons, isoSign_padded]
        rfl
      · exact isoSign_clockText _
    rw [zoneText, List.all_cons, sign, text]
    rfl

theorem isoSign_isoformat (moment : DateTime) :
    (isoformat moment).toList.all isoSign = true := by
  simp only [isoformat, String.toList_ofList, dateText, List.all_append, List.all_cons,
    isoSign_padded, isoSign_clockText, isoSign_zoneText]
  rfl

theorem low_of_isoSign {char : Char} (sign : isoSign char = true) :
    char.toNat < 128 ∧ char ≠ 'Z' := by
  rw [isoSign, Bool.or_eq_true, List.contains_iff_mem] at sign
  cases sign with
  | inl digit =>
    have bound := (Char.isDigit_iff_toNat.mp digit).2
    refine ⟨lt_of_le_of_lt bound (by decide), ?_⟩
    rintro rfl
    exact absurd digit (by decide)
  | inr mark =>
    have every : "-T:.+".toList.all (fun mark => mark.toNat < 128 && mark != 'Z') = true := by
      decide
    have found := List.all_eq_true.mp every char mark
    simpa using found

theorem readsBack_isoTexts {moment : DateTime}
    (bounded : ∀ micros ∈ moment.offset, micros.natAbs < 86400000000) :
    isoTexts.ReadsBack moment where
  inverse := fromisoformat_isoformat bounded
  nonempty := by
    intro empty
    have read := fromisoformat_isoformat bounded
    rw [show isoformat moment = "" from empty] at read
    cases read
  plain := by
    have sign := fun char member =>
      low_of_isoSign (List.all_eq_true.mp (isoSign_isoformat moment) char member)
    have plain := plainText_of_low fun char member => (sign char member).1
    exact fun char member => ⟨(sign char member).2, plain char member⟩

/-- The time of a reading of the clock. -/
def ofUtc (time : UtcTime) : DateTime where
  time := time.micros
  offset := some 0
  inRange := by
    have := time.covered
    unfold lastTime
    omega

theorem isoformat_ofUtc (time : UtcTime) : isoformat (ofUtc time) = time.isoformat := by
  have day : time.micros / 86400000000 = time.seconds / 86400 := by
    unfold UtcTime.seconds
    omega
  have hour : time.micros % 86400000000 / 3600000000 = time.seconds % 86400 / 3600 := by
    unfold UtcTime.seconds
    omega
  have minute : time.micros % 86400000000 / 60000000 % 60 = time.seconds % 3600 / 60 := by
    unfold UtcTime.seconds
    omega
  have second : time.micros % 86400000000 / 1000000 % 60 = time.seconds % 60 := by
    unfold UtcTime.seconds
    omega
  have fraction : time.micros % 86400000000 % 1000000 = time.fraction := by
    unfold UtcTime.fraction
    omega
  have zone : zoneText (some 0) = "+00:00".toList := by decide
  have micros : (ofUtc time).time.toNat = time.micros := rfl
  rw [isoformat, UtcTime.isoformat, micros, clockOf, hour, minute, second, fraction, day,
    UtcTime.fields_eq, show (ofUtc time).offset = some 0 from rfl, zone]
  simp [UtcTime.render, UtcTime.shape, dateText, dateOf, clockText, fractionText]

/-- A time that a store has written, with `Z` for the offset zero, is read by it as this time:
whatever its offset is, and also where it has none. -/
theorem parseTs_written {moment : DateTime}
    (bounded : ∀ micros ∈ moment.offset, micros.natAbs < 86400000000) :
    isoTexts.parseTs (.str (isoTexts.writeTs moment)) = some moment :=
  (readsBack_isoTexts bounded).parseTs_writeTs

/-- The last time there is, with an offset of five hours and a half. -/
theorem parseTs_lastTime :
    isoTexts.parseTs (.str (isoTexts.writeTs
      { time := lastTime, offset := some 19800000000, inRange := by decide })) =
      some { time := lastTime, offset := some 19800000000, inRange := by decide } :=
  parseTs_written fun micros same => by
    obtain rfl := Option.some.inj same
    decide

theorem fromisoformat_isoText (time : UtcTime) :
    fromisoformat (replaceText "Z" "+00:00" time.isoText) = some (ofUtc time) := by
  have bounded : ∀ micros ∈ (ofUtc time).offset, micros.natAbs < 86400000000 := by
    intro micros same
    obtain rfl := Option.some.inj same
    decide
  have written : isoTexts.writeTs (ofUtc time) = time.isoText := by
    rw [IsoTexts.writeTs, show isoTexts.isoformat (ofUtc time) = isoformat (ofUtc time) from rfl,
      isoformat_ofUtc, UtcTime.isoText]
  have filled : time.isoText ≠ "" := by
    intro empty
    have text := UtcTime.isoText_toList time
    rw [empty] at text
    cases (List.append_eq_nil_iff.mp text.symm).1
  have read := (readsBack_isoTexts bounded).parseTs_writeTs
  rw [written, IsoTexts.parseTs, if_neg filled] at read
  exact read

example : fromisoformat "2024-02-29T16:02:05.25+05:30" = some
    { time := 63844819325250000, offset := some 19800000000, inRange := by decide } := by decide

example : fromisoformat "20230229" = none := by decide

end Texts

end FxToushi.Core
