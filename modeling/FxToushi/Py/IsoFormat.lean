import FxToushi.Py.Text
import FxToushi.Py.Utf8
import Mathlib.Algebra.Ring.Nat

namespace FxToushi.Py

/-! # Times of day in ISO format

A time in UTC, from the year 1 to the year 9999.  Its text is as wide in every
field for every time, so up to the seconds texts have the order of the times.
-/

/-- A `datetime` in UTC, as the microseconds since the first day of the year 1. -/
structure UtcTime where
  micros : Nat
  covered : micros < 3652059 * 86400 * 1000000
deriving DecidableEq

namespace UtcTime

def seconds (time : UtcTime) : Nat := time.micros / 1000000

def fraction (time : UtcTime) : Nat := time.micros % 1000000

/-- `datetime.replace(microsecond=0)`. -/
def wholeSecond (time : UtcTime) : UtcTime where
  micros := time.micros - time.fraction
  covered := lt_of_le_of_lt (Nat.sub_le _ _) time.covered

/-! ## The calendar -/

def daysBeforeYear (year : Nat) : Nat :=
  (year - 1) * 365 + (year - 1) / 4 - (year - 1) / 100 + (year - 1) / 400

def leapYear (year : Nat) : Bool := year % 4 = 0 && (year % 100 ≠ 0 || year % 400 = 0)

/-- The year of a day that is counted from the first one, and the day in it. -/
def yearDay (day : Nat) : Nat × Nat :=
  let n400 := day / 146097
  let n100 := day % 146097 / 36524
  let n4 := day % 146097 % 36524 / 1461
  let n1 := day % 146097 % 36524 % 1461 / 365
  let year := n400 * 400 + 1 + n100 * 100 + n4 * 4 + n1
  -- the last day of a leap year, and of the last year of four hundred
  if n1 = 4 ∨ n100 = 4 then (year - 1, 365)
  else (year, day % 146097 % 36524 % 1461 % 365)

def monthLengths (year : Nat) : List Nat :=
  [31, if leapYear year then 29 else 28, 31, 30, 31, 30, 31, 31, 30, 31, 30, 31]

/-- The month that a day of the year falls into, and the day of the month. -/
def monthDay : List Nat → Nat → Nat → Nat × Nat
  | [], month, day => (month, day + 1)
  | length :: later, month, day =>
    if day < length then (month, day + 1) else monthDay later (month + 1) (day - length)

/-- Year, month, day, hour, minute and second. -/
def fields (seconds : Nat) : List Nat :=
  let (year, dayOfYear) := yearDay (seconds / 86400)
  let (month, day) := monthDay (monthLengths year) 1 dayOfYear
  [year, month, day, seconds % 86400 / 3600, seconds % 3600 / 60, seconds % 60]

example : fields 63844819325 = [2024, 2, 29, 16, 2, 5] := by decide

/-! ## Texts -/

/-- `format(number, "0{width}d")` for a number that is no wider. -/
def padded : Nat → Nat → List Char
  | 0, _ => []
  | width + 1, number => padded width (number / 10) ++ [Nat.digitChar (number % 10)]

/-- What is written before each field, and how wide the field is. -/
def shape : List (List Char × Nat) :=
  [([], 4), (['-'], 2), (['-'], 2), (['T'], 2), ([':'], 2), ([':'], 2)]

def render : List (List Char × Nat) → List Nat → List Char
  | (mark, width) :: shape, value :: values => mark ++ padded width value ++ render shape values
  | _, _ => []

def isoformat (time : UtcTime) : String :=
  let fraction := if time.fraction = 0 then [] else '.' :: padded 6 time.fraction
  String.ofList (render shape (fields time.seconds) ++ fraction ++ "+00:00".toList)

/-- `isoformat().replace("+00:00", "Z")`. -/
def isoText (time : UtcTime) : String := replaceText "+00:00" "Z" time.isoformat

/-! ## The order of the fields -/

theorem daysBeforeYear_parts {n400 n100 n4 n1 : Nat} (hundreds : n100 < 4) (fours : n4 < 25)
    (ones : n1 < 4) :
    daysBeforeYear (n400 * 400 + 1 + n100 * 100 + n4 * 4 + n1) =
      n400 * 146097 + n100 * 36524 + n4 * 1461 + n1 * 365 := by
  have year : n400 * 400 + 1 + n100 * 100 + n4 * 4 + n1 - 1 =
      n400 * 400 + n100 * 100 + n4 * 4 + n1 := by omega
  have four : (n400 * 400 + n100 * 100 + n4 * 4 + n1) / 4 = n400 * 100 + n100 * 25 + n4 := by omega
  have hundred : (n400 * 400 + n100 * 100 + n4 * 4 + n1) / 100 = n400 * 4 + n100 := by omega
  have all : (n400 * 400 + n100 * 100 + n4 * 4 + n1) / 400 = n400 := by omega
  rw [daysBeforeYear, year, four, hundred, all]
  omega

theorem leapYear_iff {year : Nat} :
    leapYear year = true ↔ 4 ∣ year ∧ (100 ∣ year → 400 ∣ year) := by
  rw [leapYear, Bool.and_eq_true, Bool.or_eq_true, decide_eq_true_eq, decide_eq_true_eq,
    decide_eq_true_eq, Nat.dvd_iff_mod_eq_zero, Nat.dvd_iff_mod_eq_zero, Nat.dvd_iff_mod_eq_zero,
    ← not_imp_not, ← or_iff_not_imp_right]

theorem daysBeforeYear_succ {year : Nat} (positive : 1 ≤ year) :
    daysBeforeYear (year + 1) = daysBeforeYear year + if leapYear year then 366 else 365 := by
  obtain ⟨before, rfl⟩ := Nat.exists_eq_add_of_le' positive
  have less : before / 100 ≤ before / 4 := Nat.div_le_div_left (by decide) (by decide)
  have hundred : 100 ∣ before + 1 → 4 ∣ before + 1 := Nat.dvd_trans (by decide)
  have all : 400 ∣ before + 1 → 100 ∣ before + 1 := Nat.dvd_trans (by decide)
  rw [daysBeforeYear, daysBeforeYear, Nat.add_sub_cancel, Nat.add_sub_cancel, Nat.succ_div,
    Nat.succ_div, Nat.succ_div]
  by_cases leap : leapYear (before + 1) = true
  · rw [if_pos leap]
    rw [leapYear_iff] at leap
    rw [if_pos leap.1]
    by_cases century : 100 ∣ before + 1
    · rw [if_pos century, if_pos (leap.2 century)]
      omega
    · rw [if_neg century, if_neg fun whole => century (all whole)]
      omega
  · rw [if_neg leap]
    rw [leapYear_iff, not_and_or, Classical.not_imp] at leap
    cases leap with
    | inl odd =>
      rw [if_neg odd, if_neg fun century => odd (hundred century),
        if_neg fun whole => odd (hundred (all whole))]
      omega
    | inr century =>
      rw [if_pos (hundred century.1), if_pos century.1, if_neg century.2]
      omega

theorem daysBeforeYear_mono {earlier later : Nat} (ordered : earlier ≤ later) :
    daysBeforeYear earlier ≤ daysBeforeYear later := by
  induction later, ordered using Nat.le_induction with
  | base => exact le_rfl
  | succ later _ ih =>
    refine ih.trans ?_
    unfold daysBeforeYear
    omega

/-- The days before the year and the day in it make up the day. -/
theorem yearDay_spec (day : Nat) :
    1 ≤ (yearDay day).1 ∧ daysBeforeYear (yearDay day).1 + (yearDay day).2 = day ∧
      day < daysBeforeYear ((yearDay day).1 + 1) := by
  have four_hundred := Nat.div_add_mod day 146097
  have hundred := Nat.div_add_mod (day % 146097) 36524
  have four := Nat.div_add_mod (day % 146097 % 36524) 1461
  have one := Nat.div_add_mod (day % 146097 % 36524 % 1461) 365
  unfold yearDay
  simp only
  generalize day / 146097 = n400 at *
  have rest := Nat.mod_lt day (show 0 < 146097 by decide)
  generalize day % 146097 = day400 at *
  generalize day400 / 36524 = n100 at *
  have rest := Nat.mod_lt day400 (show 0 < 36524 by decide)
  generalize day400 % 36524 = day100 at *
  generalize day100 / 1461 = n4 at *
  have rest := Nat.mod_lt day100 (show 0 < 1461 by decide)
  generalize day100 % 1461 = day4 at *
  generalize day4 / 365 = n1 at *
  have rest := Nat.mod_lt day4 (show 0 < 365 by decide)
  generalize day4 % 365 = day1 at *
  split
  · rename_i last
    by_cases whole : n100 = 4
    · have year : n400 * 400 + 1 + n100 * 100 + n4 * 4 + n1 - 1 =
          n400 * 400 + 1 + 3 * 100 + 24 * 4 + 3 := by omega
      have next : n400 * 400 + 1 + 3 * 100 + 24 * 4 + 3 + 1 =
          (n400 + 1) * 400 + 1 + 0 * 100 + 0 * 4 + 0 := by omega
      rw [year, next, daysBeforeYear_parts (by decide) (by decide) (by decide),
        daysBeforeYear_parts (by decide) (by decide) (by decide)]
      omega
    · have year : n400 * 400 + 1 + n100 * 100 + n4 * 4 + n1 - 1 =
          n400 * 400 + 1 + n100 * 100 + n4 * 4 + 3 := by omega
      have next : n400 * 400 + 1 + n100 * 100 + n4 * 4 + 3 + 1 =
          n400 * 400 + 1 + n100 * 100 + (n4 + 1) * 4 + 0 := by omega
      rw [year, next, daysBeforeYear_parts (by omega) (by omega) (by decide),
        daysBeforeYear_parts (by omega) (by omega) (by decide)]
      omega
  · rw [daysBeforeYear_succ (by omega), daysBeforeYear_parts (by omega) (by omega) (by omega)]
    split
    · omega
    · omega

theorem yearDay_lt {earlier later : Nat} (less : earlier < later) :
    (yearDay earlier).1 < (yearDay later).1 ∨
      (yearDay earlier).1 = (yearDay later).1 ∧ (yearDay earlier).2 < (yearDay later).2 := by
  obtain ⟨-, first, -⟩ := yearDay_spec earlier
  obtain ⟨-, second, bound⟩ := yearDay_spec later
  rcases lt_trichotomy (yearDay earlier).1 (yearDay later).1 with before | same | after
  · exact .inl before
  · rw [same] at first
    exact .inr ⟨same, by omega⟩
  · have passed : daysBeforeYear ((yearDay later).1 + 1) ≤ daysBeforeYear (yearDay earlier).1 :=
      daysBeforeYear_mono after
    omega

theorem yearDay_fits {day : Nat} (covered : day < 3652059) :
    (yearDay day).1 < 10000 ∧ (yearDay day).2 < (monthLengths (yearDay day).1).sum := by
  obtain ⟨positive, inside, bound⟩ := yearDay_spec day
  constructor
  · by_contra beyond
    have passed := daysBeforeYear_mono (not_lt.mp beyond)
    have all : daysBeforeYear 10000 = 3652059 := by decide
    omega
  · rw [daysBeforeYear_succ positive] at bound
    have sum : (monthLengths (yearDay day).1).sum =
        if leapYear (yearDay day).1 then 366 else 365 := by
      unfold monthLengths
      split
      · rfl
      · rfl
    omega

theorem month_le_monthDay (lengths : List Nat) (month day : Nat) :
    month ≤ (monthDay lengths month day).1 := by
  induction lengths generalizing month day with
  | nil => exact le_rfl
  | cons length later ih =>
    rw [monthDay]
    split
    · exact le_rfl
    · exact (Nat.le_succ month).trans (ih (month + 1) (day - length))

theorem monthDay_lt (lengths : List Nat) (month : Nat) {earlier later : Nat}
    (less : earlier < later) :
    (monthDay lengths month earlier).1 < (monthDay lengths month later).1 ∨
      (monthDay lengths month earlier).1 = (monthDay lengths month later).1 ∧
        (monthDay lengths month earlier).2 < (monthDay lengths month later).2 := by
  induction lengths generalizing month earlier later with
  | nil => exact .inr ⟨rfl, Nat.succ_lt_succ less⟩
  | cons length rest ih =>
    rw [monthDay, monthDay]
    by_cases first : earlier < length
    · rw [if_pos first]
      by_cases second : later < length
      · rw [if_pos second]
        exact .inr ⟨rfl, Nat.succ_lt_succ less⟩
      · rw [if_neg second]
        exact .inl (month_le_monthDay rest (month + 1) (later - length))
    · rw [if_neg first, if_neg (by omega)]
      exact ih (month + 1) (by omega)

theorem monthDay_fits {lengths : List Nat} (short : ∀ length ∈ lengths, length ≤ 31)
    (month : Nat) {day : Nat} (inside : day < lengths.sum) :
    (monthDay lengths month day).1 < month + lengths.length ∧
      (monthDay lengths month day).2 ≤ 31 := by
  induction lengths generalizing month day with
  | nil => exact absurd inside (Nat.not_lt_zero day)
  | cons length later ih =>
    rw [monthDay, List.length_cons]
    rw [List.sum_cons] at inside
    split
    · rename_i here
      have := short length List.mem_cons_self
      exact ⟨by omega, by simp only; omega⟩
    · have rest : day - length < later.sum := by omega
      have bounds := ih (fun other member => short other (List.mem_cons_of_mem _ member))
        (month + 1) rest
      exact ⟨by omega, bounds.2⟩

theorem fields_eq (seconds : Nat) : fields seconds =
    [(yearDay (seconds / 86400)).1,
      (monthDay (monthLengths (yearDay (seconds / 86400)).1) 1 (yearDay (seconds / 86400)).2).1,
      (monthDay (monthLengths (yearDay (seconds / 86400)).1) 1 (yearDay (seconds / 86400)).2).2,
      seconds % 86400 / 3600, seconds % 3600 / 60, seconds % 60] := rfl

theorem fields_lt {earlier later : Nat} (less : earlier < later) :
    fields earlier < fields later := by
  simp only [fields_eq, List.cons_lt_cons_iff]
  rcases Nat.lt_or_ge (earlier / 86400) (later / 86400) with day | day
  · rcases yearDay_lt day with year | ⟨year, dayOfYear⟩
    · exact .inl year
    · rw [year]
      refine .inr ⟨rfl, ?_⟩
      rcases monthDay_lt (monthLengths (yearDay (later / 86400)).1) 1 dayOfYear with
        month | ⟨month, dayOfMonth⟩
      · exact .inl month
      · exact .inr ⟨month, .inl dayOfMonth⟩
  · have same : earlier / 86400 = later / 86400 := by omega
    rw [same]
    refine .inr ⟨rfl, .inr ⟨rfl, .inr ⟨rfl, ?_⟩⟩⟩
    omega

theorem fields_fit {seconds : Nat} (covered : seconds < 3652059 * 86400) :
    List.Forall₂ (fun field value => value < 10 ^ field.2) shape (fields seconds) := by
  have covered : seconds / 86400 < 3652059 := by omega
  obtain ⟨year, inside⟩ := yearDay_fits covered
  have short : ∀ length ∈ monthLengths (yearDay (seconds / 86400)).1, length ≤ 31 := by
    unfold monthLengths
    split <;> decide
  obtain ⟨month, day⟩ := monthDay_fits short 1 inside
  have twelve : 1 + (monthLengths (yearDay (seconds / 86400)).1).length = 13 := rfl
  have small := lt_of_lt_of_eq month twelve
  rw [fields_eq]
  refine .cons year (.cons (lt_trans small (by decide)) (.cons (lt_of_le_of_lt day (by decide))
    (.cons ?_ (.cons ?_ (.cons ?_ .nil)))))
  · show _ < 100
    omega
  · show _ < 100
    omega
  · show _ < 100
    omega

/-! ## The order of the texts -/

theorem digitChar_lt {left right : Nat} (digit : right < 10) (less : left < right) :
    Nat.digitChar left < Nat.digitChar right := by
  have every : ∀ right < 10, ∀ left < right, Nat.digitChar left < Nat.digitChar right := by decide
  exact every right digit left less

theorem padded_lt {width left right : Nat} (fits : right < 10 ^ width) (less : left < right)
    (first second : List Char) : padded width left ++ first < padded width right ++ second := by
  induction width generalizing left right first second with
  | zero => omega
  | succ width ih =>
    rw [padded, padded, List.append_assoc, List.append_assoc]
    rcases Nat.lt_or_ge (left / 10) (right / 10) with leading | leading
    · exact ih (by omega) leading _ _
    · have same : left / 10 = right / 10 := by omega
      rw [same]
      refine List.append_left_lt (List.cons_lt_cons_iff.mpr (.inl ?_))
      exact digitChar_lt (Nat.mod_lt _ (by decide)) (by omega)

theorem render_lt {shape : List (List Char × Nat)} {left right : List Nat}
    (fits : List.Forall₂ (fun field value => value < 10 ^ field.2) shape right)
    (same : left.length = right.length) (less : left < right) (first second : List Char) :
    render shape left ++ first < render shape right ++ second := by
  induction fits generalizing left with
  | nil => exact absurd less (List.not_lt_nil left)
  | cons fit _ ih =>
    cases left with
    | nil => cases same
    | cons value left =>
      rw [render, render, List.append_assoc, List.append_assoc, List.append_assoc,
        List.append_assoc]
      refine List.append_left_lt ?_
      rcases List.cons_lt_cons_iff.mp less with leading | ⟨rfl, later⟩
      · exact padded_lt fit leading _ _
      · exact List.append_left_lt (ih (Nat.succ.inj same) later)

/-! ## The order of the bytes -/

/-- What a text in ISO format is made of. -/
def written (char : Char) : Bool := char.isDigit || "-T:.Z".toList.contains char

theorem low_of_written {char : Char} (sign : written char = true) : char.toNat < 128 := by
  rw [written, Bool.or_eq_true, List.contains_iff_mem] at sign
  cases sign with
  | inl digit =>
    have bound := (Char.isDigit_iff_toNat.mp digit).2
    exact lt_of_le_of_lt bound (by decide)
  | inr mark =>
    have every : "-T:.Z".toList.all (fun mark => mark.toNat < 128) = true := by decide
    exact of_decide_eq_true (List.all_eq_true.mp every char mark)

theorem written_padded (width number : Nat) : (padded width number).all written = true := by
  induction width generalizing number with
  | zero => rfl
  | succ width ih =>
    have every : ∀ digit < 10, written (Nat.digitChar digit) = true := by decide
    rw [padded, List.all_append, ih, List.all_cons, every _ (Nat.mod_lt _ (by decide))]
    rfl

theorem written_render {shape : List (List Char × Nat)}
    (marks : ∀ field ∈ shape, field.1.all written = true) (values : List Nat) :
    (render shape values).all written = true := by
  induction shape generalizing values with
  | nil => rfl
  | cons field shape ih =>
    cases values with
    | nil => rfl
    | cons value values =>
      rw [render, List.all_append, List.all_append, marks field List.mem_cons_self,
        written_padded, ih fun other member => marks other (List.mem_cons_of_mem _ member)]
      rfl

theorem replaceFrom_append {old new : List Char} {first : Char} (leads : old.head? = some first)
    {text : List Char} (absent : first ∉ text) (rest : List Char) :
    replaceFrom old new 0 (text ++ rest) = text ++ replaceFrom old new 0 rest := by
  obtain ⟨later, rfl⟩ := List.head?_eq_some_iff.mp leads
  induction text with
  | nil => rfl
  | cons char text ih =>
    rw [List.mem_cons, not_or] at absent
    have other : (first :: later).isPrefixOf (char :: (text ++ rest)) = false := by
      rw [List.isPrefixOf, beq_eq_false_iff_ne.mpr absent.1, Bool.false_and]
    rw [List.cons_append, replaceFrom, other, if_neg Bool.false_ne_true, ih absent.2]
    rfl

/-- The seconds' fraction and the zone. -/
def tail (time : UtcTime) : List Char :=
  (if time.fraction = 0 then [] else '.' :: padded 6 time.fraction) ++ ['Z']

theorem isoText_toList (time : UtcTime) :
    time.isoText.toList = render shape (fields time.seconds) ++ time.tail := by
  have body : (render shape (fields time.seconds)).all written = true :=
    written_render (by decide) _
  have end_of_second : (if time.fraction = 0 then [] else '.' :: padded 6 time.fraction).all written
      = true := by
    split
    · rfl
    · rw [List.all_cons, written_padded]
      rfl
  have absent : '+' ∉ render shape (fields time.seconds) ++
      if time.fraction = 0 then [] else '.' :: padded 6 time.fraction := by
    intro member
    have all := List.all_append.trans (Bool.and_eq_true_iff.mpr ⟨body, end_of_second⟩)
    exact absurd (List.all_eq_true.mp all '+' member) (by decide)
  have zone : replaceFrom "+00:00".toList "Z".toList 0 "+00:00".toList = ['Z'] := by decide
  have text : time.isoformat.toList = (render shape (fields time.seconds) ++
      if time.fraction = 0 then [] else '.' :: padded 6 time.fraction) ++ "+00:00".toList :=
    String.toList_ofList
  have replaced : time.isoText.toList =
      replaceFrom "+00:00".toList "Z".toList 0 time.isoformat.toList := String.toList_ofList
  rw [replaced, text, replaceFrom_append rfl absent, zone, tail, List.append_assoc]

theorem encode_lt {left right : List Char} (lowLeft : left.all written = true)
    (lowRight : right.all written = true) (less : left < right) :
    Utf8.encode left < Utf8.encode right := by
  induction left generalizing right with
  | nil =>
    cases right with
    | nil => exact absurd less (List.not_lt_nil [])
    | cons char right =>
      rw [List.all_cons, Bool.and_eq_true] at lowRight
      rw [Utf8.encode_cons_low (low_of_written lowRight.1)]
      exact List.nil_lt_cons _ _
  | cons first left ih =>
    cases right with
    | nil => exact absurd less (List.not_lt_nil _)
    | cons second right =>
      rw [List.all_cons, Bool.and_eq_true] at lowLeft lowRight
      have lowFirst := low_of_written lowLeft.1
      have lowSecond := low_of_written lowRight.1
      rw [Utf8.encode_cons_low lowFirst, Utf8.encode_cons_low lowSecond,
        List.cons_lt_cons_iff]
      rcases List.cons_lt_cons_iff.mp less with leading | ⟨rfl, later⟩
      · refine .inl ?_
        rw [UInt8.lt_iff_toNat_lt, Utf8.toNat_ofNat_of_lt (by omega),
          Utf8.toNat_ofNat_of_lt (by omega)]
        exact leading
      · exact .inr ⟨rfl, ih lowLeft.2 lowRight.2 later⟩

theorem written_isoText (time : UtcTime) : time.isoText.toList.all written = true := by
  rw [isoText_toList, List.all_append, written_render (by decide), tail]
  split
  · rfl
  · rw [List.all_append, List.all_cons, written_padded]
    rfl

theorem encode_isoText_lt {earlier later : UtcTime} (less : earlier.seconds < later.seconds) :
    Utf8.encode earlier.isoText.toList < Utf8.encode later.isoText.toList := by
  refine encode_lt (written_isoText earlier) (written_isoText later) ?_
  rw [isoText_toList, isoText_toList]
  have covered : later.seconds < 3652059 * 86400 := by
    have := later.covered
    unfold seconds
    omega
  have same : (fields earlier.seconds).length = (fields later.seconds).length := rfl
  exact render_lt (fields_fit covered) same (fields_lt less) _ _

theorem not_encode_isoText_lt {whole cutoff : UtcTime} (none : whole.fraction = 0)
    (same : whole.seconds = cutoff.seconds) :
    ¬ Utf8.encode whole.isoText.toList < Utf8.encode cutoff.isoText.toList := by
  by_cases also : cutoff.fraction = 0
  · rw [isoText_toList, isoText_toList, same, tail, tail, none, also]
    exact List.lt_irrefl _
  · refine List.lt_asymm (encode_lt (written_isoText cutoff) (written_isoText whole) ?_)
    rw [isoText_toList, isoText_toList, same, tail, tail, if_pos none, if_neg also]
    exact List.append_left_lt (List.cons_lt_cons_iff.mpr (.inl (by decide)))

theorem encode_isoText_lt_iff {whole cutoff : UtcTime} (none : whole.fraction = 0) :
    Utf8.encode whole.isoText.toList < Utf8.encode cutoff.isoText.toList ↔
      whole.seconds < cutoff.seconds := by
  constructor
  · intro less
    rcases lt_trichotomy whole.seconds cutoff.seconds with before | same | after
    · exact before
    · exact absurd less (not_encode_isoText_lt none same)
    · exact absurd less (List.lt_asymm (encode_isoText_lt after))
  · exact encode_isoText_lt

theorem isoText_ne_empty (time : UtcTime) : time.isoText ≠ "" := by
  intro empty
  have text := isoText_toList time
  rw [empty] at text
  cases (List.append_eq_nil_iff.mp text.symm).1

/-! ## Whole seconds -/

theorem seconds_wholeSecond (time : UtcTime) : time.wholeSecond.seconds = time.seconds := by
  unfold wholeSecond seconds fraction
  simp only
  omega

theorem fraction_wholeSecond (time : UtcTime) : time.wholeSecond.fraction = 0 := by
  unfold wholeSecond fraction
  simp only
  omega

/-- Texts of whole seconds are in the order of the times. -/
theorem isoText_lt_iff (first second : UtcTime) :
    first.wholeSecond.isoText < second.wholeSecond.isoText ↔ first.seconds < second.seconds := by
  have before : ∀ earlier later : UtcTime, earlier.seconds < later.seconds →
      earlier.wholeSecond.isoText.toList < later.wholeSecond.isoText.toList := by
    intro earlier later less
    rw [isoText_toList, isoText_toList, seconds_wholeSecond, seconds_wholeSecond]
    have covered : later.seconds < 3652059 * 86400 := by
      have := later.covered
      unfold seconds
      omega
    have same : (fields earlier.seconds).length = (fields later.seconds).length := rfl
    exact render_lt (fields_fit covered) same (fields_lt less) _ _
  rw [String.lt_iff]
  constructor
  · intro less
    rcases lt_trichotomy first.seconds second.seconds with ahead | same | behind
    · exact ahead
    · rw [isoText_toList, isoText_toList, seconds_wholeSecond, seconds_wholeSecond, same, tail,
        tail, fraction_wholeSecond, fraction_wholeSecond] at less
      exact absurd less (List.lt_irrefl _)
    · exact absurd less (List.lt_asymm (before second first behind))
  · exact before first second

end UtcTime

end FxToushi.Py
