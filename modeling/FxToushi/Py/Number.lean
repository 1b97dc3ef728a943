import Mathlib.Algebra.GroupWithZero.Nat
import Mathlib.Data.Rat.Defs

namespace FxToushi.Py

/-! # Python numbers

Floats are modelled by the rationals, so the arithmetic of the sources is
exact here.
-/

/-- `int(value)` of a float: the part before the point. -/
def truncate (value : Rat) : Int :=
  if 0 ≤ value then value.floor else -(-value).floor

/-- The nearest integer, the even one of two equally near. -/
def roundHalfEven (value : Rat) : Int :=
  let below := value.floor
  let part := value - below
  if part < 1 / 2 then below
  else if 1 / 2 < part then below + 1
  else if below % 2 = 0 then below else below + 1

def roundTo (value : Rat) (digits : Nat) : Rat :=
  (roundHalfEven (value * 10 ^ digits) : Rat) / 10 ^ digits

/-- `format(value, ".nf")`. -/
def formatFixed (digits : Nat) (value : Rat) : String :=
  let scaled := (roundHalfEven ((if value < 0 then -value else value) * 10 ^ digits)).toNat
  let sign := if value < 0 then "-" else ""
  let whole := toString (scaled / 10 ^ digits)
  if digits = 0 then sign ++ whole
  else
    let fraction := toString (scaled % 10 ^ digits)
    sign ++ whole ++ "." ++ String.ofList (List.replicate (digits - fraction.length) '0') ++
      fraction

end FxToushi.Py

namespace FxToushi.Py

/-! # Timestamps -/

/-- An aware timestamp, in microseconds since the epoch. -/
abbrev Timestamp := Int

namespace Timestamp

def fromMinutes (count : Int) : Int := count * 60000000

def hour (ts : Timestamp) : Int := ts / 3600000000 % 24

def weekday (ts : Timestamp) : Int := (ts / 86400000000 + 3) % 7

/-- Year and month of the civil calendar, as `%Y%m` writes them.  Years are
counted from March, in eras of 400 years. -/
def yearMonth (ts : Timestamp) : Int :=
  let shifted := ts / 86400000000 + 719468
  let era := shifted / 146097
  let dayOfEra := shifted % 146097
  let yearOfEra := (dayOfEra - dayOfEra / 1460 + dayOfEra / 36524 - dayOfEra / 146096) / 365
  let dayOfYear := dayOfEra - (365 * yearOfEra + yearOfEra / 4 - yearOfEra / 100)
  let fromMarch := (5 * dayOfYear + 2) / 153
  let month := if fromMarch < 10 then fromMarch + 3 else fromMarch - 9
  let year := era * 400 + yearOfEra + if month ≤ 2 then 1 else 0
  year * 100 + month

example : yearMonth (fromMinutes 28399680) = 202312 := by decide

end Timestamp

end FxToushi.Py
