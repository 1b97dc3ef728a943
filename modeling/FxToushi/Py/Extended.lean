import FxToushi.Py.Value
import Mathlib.Algebra.Order.Field.Rat

namespace FxToushi.Py

/-! # Floats with the infinities and the not-a-number

The finite ones stay rationals, so only the special values differ from them.
-/

inductive Extended where
  | finite (value : Rat)
  | infinite (negative : Bool)
  | nan
deriving Repr, DecidableEq

namespace Extended

instance : Zero Extended := ⟨.finite 0⟩

instance : One Extended := ⟨.finite 1⟩

def neg : Extended → Extended
  | .finite value => .finite (-value)
  | .infinite negative => .infinite (!negative)
  | .nan => .nan

instance : Neg Extended := ⟨neg⟩

def add : Extended → Extended → Extended
  | .finite left, .finite right => .finite (left + right)
  | .infinite left, .infinite right => if left = right then .infinite left else .nan
  | .nan, _ => .nan
  | _, .nan => .nan
  | .infinite left, _ => .infinite left
  | _, .infinite right => .infinite right

instance : Add Extended := ⟨add⟩

instance : Sub Extended := ⟨fun left right => left + -right⟩

def mul : Extended → Extended → Extended
  | .finite left, .finite right => .finite (left * right)
  | .infinite left, .infinite right => .infinite (left != right)
  | .infinite negative, .finite value =>
    if value = 0 then .nan else .infinite (negative != decide (value < 0))
  | .finite value, .infinite negative =>
    if value = 0 then .nan else .infinite (negative != decide (value < 0))
  | _, _ => .nan

instance : Mul Extended := ⟨mul⟩

def isNan : Extended → Bool
  | .nan => true
  | _ => false

/-- `round(value, digits)`. -/
def round (digits : Nat) : Extended → Extended
  | .finite value => .finite (roundTo value digits)
  | value => value

/-- The product with a finite number that is not zero. -/
def scale (factor : Rat) : Extended → Extended
  | .finite value => .finite (value * factor)
  | .infinite negative => .infinite (if factor < 0 then !negative else negative)
  | .nan => .nan

def le : Extended → Extended → Bool
  | .finite left, .finite right => left ≤ right
  | .infinite left, .infinite right => left || !right
  | .infinite left, .finite _ => left
  | .finite _, .infinite right => !right
  | _, _ => false

def lt : Extended → Extended → Bool
  | .finite left, .finite right => left < right
  | .infinite left, .infinite right => left && !right
  | .infinite left, .finite _ => left
  | .finite _, .infinite right => !right
  | _, _ => false

instance : LE Extended := ⟨fun left right => le left right = true⟩

instance : LT Extended := ⟨fun left right => lt left right = true⟩

instance (left right : Extended) : Decidable (left ≤ right) :=
  inferInstanceAs (Decidable (le left right = true))

instance (left right : Extended) : Decidable (left < right) :=
  inferInstanceAs (Decidable (lt left right = true))

/-- `max(first, second)`: the second only when it is greater. -/
def greater (first second : Extended) : Extended := if first < second then second else first

/-- A float under the text `str` gives it, which tells the special values. -/
def read (value : Rat) (text : String) : Extended :=
  if text = "nan" then .nan
  else if text = "inf" then .infinite false
  else if text = "-inf" then .infinite true
  else .finite value

/-- The float of a number that is written out: too large for one it is infinite,
too small it is nothing. -/
def ofWritten (value : Rat) : Extended :=
  let size := if value < 0 then -value else value
  if 2 ^ 1024 - 2 ^ 970 ≤ size then .infinite (decide (value < 0))
  else if size * 2 ^ 1075 ≤ 1 then .finite 0
  else .finite value

end Extended

/-- `float(text)`, with `none` for a `ValueError`. -/
def floatOfText (text : String) : Option Extended :=
  let (sign, chars) := splitSign (numberChars text)
  let word := lower (String.ofList chars)
  if word = "nan" then some .nan
  else if word = "inf" ∨ word = "infinity" then some (.infinite (decide (sign < 0)))
  else (parseFloat? text).map Extended.ofWritten

/-- The least magnitude of an integer that has no float: it rounds to 2 to the 1024. -/
def floatLimit : Nat := 2 ^ 1024 - 2 ^ 970

/-- The number of a finite float. -/
def Extended.number : Extended → Rat
  | .finite value => value
  | _ => 0

/-- `float(value)`. -/
def Value.toFloat : Value → Except PyError Extended
  | .bool value => .ok (.finite (if value then 1 else 0))
  | .int value => if value.natAbs < floatLimit then .ok (.finite value) else .error overflowError
  | .float value text => .ok (.read value text)
  | .str text =>
    match floatOfText text with
    | some number => .ok number
    | none => .error .valueError
  | _ => .error .typeError

/-- `float(value)` where only finite numbers are followed. -/
def Value.toRat (value : Value) : Except PyError Rat := value.toFloat.map Extended.number

namespace Extended

/-! ## Signs -/

theorem nonneg_finite {value : Rat} : (0 : Extended) ≤ .finite value ↔ 0 ≤ value :=
  decide_eq_true_iff

theorem pos_finite {value : Rat} : (0 : Extended) < .finite value ↔ 0 < value :=
  decide_eq_true_iff

theorem nonneg_infinite {negative : Bool} :
    (0 : Extended) ≤ .infinite negative ↔ negative = false := by
  cases negative <;> decide

theorem pos_infinite {negative : Bool} :
    (0 : Extended) < .infinite negative ↔ negative = false := by
  cases negative <;> decide

theorem not_nonneg_nan : ¬ (0 : Extended) ≤ .nan := by decide

theorem not_pos_nan : ¬ (0 : Extended) < .nan := by decide

theorem nonneg_zero : (0 : Extended) ≤ 0 := nonneg_finite.mpr (le_refl 0)

theorem not_pos_zero : ¬ (0 : Extended) < 0 := fun positive => lt_irrefl 0 (pos_finite.mp positive)

theorem nonneg_scale_iff {factor : Rat} (positive : 0 < factor) (number : Extended) :
    0 ≤ number.scale factor ↔ 0 ≤ number := by
  cases number with
  | finite value =>
    rw [scale, nonneg_finite, nonneg_finite]
    exact mul_nonneg_iff_of_pos_right positive
  | infinite negative => rw [scale, if_neg (not_lt_of_gt positive)]
  | nan => rfl

theorem pos_scale_iff {factor : Rat} (positive : 0 < factor) (number : Extended) :
    0 < number.scale factor ↔ 0 < number := by
  cases number with
  | finite value =>
    rw [scale, pos_finite, pos_finite]
    exact mul_pos_iff_of_pos_right positive
  | infinite negative => rw [scale, if_neg (not_lt_of_gt positive)]
  | nan => rfl

/-- Two numbers of which neither is negative are only cancelled by nothing. -/
theorem add_signs {left right : Extended} (nonnegLeft : 0 ≤ left) (nonnegRight : 0 ≤ right) :
    0 ≤ left + right ∧ (0 < left + right ↔ 0 < left ∨ 0 < right) := by
  cases left with
  | nan => exact absurd nonnegLeft not_nonneg_nan
  | infinite negative =>
    obtain rfl := nonneg_infinite.mp nonnegLeft
    cases right with
    | nan => exact absurd nonnegRight not_nonneg_nan
    | infinite negative =>
      obtain rfl := nonneg_infinite.mp nonnegRight
      decide
    | finite value => exact ⟨rfl, by simp [pos_infinite]; rfl⟩
  | finite left =>
    cases right with
    | nan => exact absurd nonnegRight not_nonneg_nan
    | infinite negative =>
      obtain rfl := nonneg_infinite.mp nonnegRight
      exact ⟨rfl, by simp [pos_infinite]; rfl⟩
    | finite right =>
      rw [nonneg_finite] at nonnegLeft nonnegRight
      have sum : Extended.finite left + .finite right = .finite (left + right) := rfl
      rw [sum, nonneg_finite, pos_finite, pos_finite, pos_finite]
      refine ⟨add_nonneg nonnegLeft nonnegRight, ?_⟩
      constructor
      · intro positive
        by_contra neither
        rw [not_or, not_lt, not_lt] at neither
        exact absurd positive (not_lt.mpr (add_nonpos neither.1 neither.2))
      · intro either
        cases either with
        | inl positive => exact add_pos_of_pos_of_nonneg positive nonnegRight
        | inr positive => exact add_pos_of_nonneg_of_pos nonnegLeft positive

theorem nonneg_greater_zero (number : Extended) : 0 ≤ greater 0 number := by
  rw [greater]
  split
  · rename_i positive
    cases number with
    | finite value => exact nonneg_finite.mpr (le_of_lt (pos_finite.mp positive))
    | infinite negative => exact nonneg_infinite.mpr (pos_infinite.mp positive)
    | nan => exact absurd positive not_pos_nan
  · exact nonneg_zero

theorem pos_greater_zero_iff (number : Extended) : 0 < greater 0 number ↔ 0 < number := by
  rw [greater]
  split
  · exact Iff.rfl
  · rename_i never
    exact iff_of_false not_pos_zero never

theorem pos_neg_iff (number : Extended) : 0 < -number ↔ number < 0 := by
  cases number with
  | finite value =>
    have negated : -Extended.finite value = .finite (-value) := rfl
    have below : Extended.finite value < 0 ↔ value < 0 := decide_eq_true_iff
    rw [negated, pos_finite, below]
    exact neg_pos
  | infinite negative => cases negative <;> decide
  | nan => decide

theorem isNan_of_nonneg {number : Extended} (nonneg : 0 ≤ number) : number.isNan = false := by
  cases number with
  | nan => exact absurd nonneg not_nonneg_nan
  | infinite negative => rfl
  | finite value => rfl

theorem mul_zero_cases (number : Extended) : number * 0 = 0 ∨ number * 0 = .nan := by
  cases number with
  | nan => exact .inr rfl
  | infinite negative =>
    have product : Extended.infinite negative * 0 =
      if (0 : Rat) = 0 then .nan else .infinite (negative != decide ((0 : Rat) < 0)) := rfl
    exact .inr (product.trans (if_pos rfl))
  | finite value =>
    have product : Extended.finite value * 0 = .finite (value * 0) := rfl
    rw [product, mul_zero]
    exact .inl rfl

/-! ## Numbers that can be compared -/

theorem not_lt_iff {left right : Extended} (leftNumber : left.isNan = false)
    (rightNumber : right.isNan = false) : ¬ left < right ↔ right ≤ left := by
  cases left with
  | nan => cases leftNumber
  | infinite negative =>
    cases right with
    | nan => cases rightNumber
    | infinite other => cases negative <;> cases other <;> decide
    | finite value => cases negative <;> simp [LT.lt, LE.le, lt, le]
  | finite value =>
    cases right with
    | nan => cases rightNumber
    | infinite negative => cases negative <;> simp [LT.lt, LE.le, lt, le]
    | finite other =>
      have below : Extended.finite value < .finite other ↔ value < other := decide_eq_true_iff
      have above : Extended.finite other ≤ .finite value ↔ other ≤ value := decide_eq_true_iff
      rw [below, above, not_lt]

theorem finite_le_finite {left right : Rat} :
    Extended.finite left ≤ .finite right ↔ left ≤ right := decide_eq_true_iff

theorem infinite_le_finite {negative : Bool} {value : Rat} :
    Extended.infinite negative ≤ .finite value ↔ negative = true := Iff.rfl

theorem finite_le_infinite {negative : Bool} {value : Rat} :
    Extended.finite value ≤ .infinite negative ↔ negative = false := by
  have same : Extended.finite value ≤ .infinite negative ↔ (!negative) = true := Iff.rfl
  rw [same, Bool.not_eq_true']

theorem infinite_le_infinite {left right : Bool} :
    Extended.infinite left ≤ .infinite right ↔ (left = true ∨ right = false) := by
  cases left <;> cases right <;> decide

theorem not_nan_le {number : Extended} : ¬ Extended.nan ≤ number := by
  cases number <;> exact Bool.false_ne_true

theorem not_le_nan {number : Extended} : ¬ number ≤ Extended.nan := by
  cases number <;> exact Bool.false_ne_true

theorem isNan_of_le {left right : Extended} (le : left ≤ right) :
    left.isNan = false ∧ right.isNan = false := by
  cases left with
  | nan => exact absurd le not_nan_le
  | infinite negative =>
    cases right with
    | nan => exact absurd le not_le_nan
    | infinite other => exact ⟨rfl, rfl⟩
    | finite value => exact ⟨rfl, rfl⟩
  | finite value =>
    cases right with
    | nan => exact absurd le not_le_nan
    | infinite other => exact ⟨rfl, rfl⟩
    | finite other => exact ⟨rfl, rfl⟩

theorem le_trans {first second third : Extended} (lower : first ≤ second) (upper : second ≤ third) :
    first ≤ third := by
  cases first with
  | nan => exact absurd lower not_nan_le
  | infinite negative =>
    cases second with
    | nan => exact absurd lower not_le_nan
    | infinite other =>
      cases third with
      | nan => exact absurd upper not_le_nan
      | infinite last =>
        rw [infinite_le_infinite] at lower upper ⊢
        grind
      | finite value =>
        rw [infinite_le_infinite] at lower
        rw [infinite_le_finite] at upper ⊢
        grind
    | finite value =>
      cases third with
      | nan => exact absurd upper not_le_nan
      | infinite last => exact infinite_le_infinite.mpr (.inl (infinite_le_finite.mp lower))
      | finite last => exact infinite_le_finite.mpr (infinite_le_finite.mp lower)
  | finite value =>
    cases second with
    | nan => exact absurd lower not_le_nan
    | infinite other =>
      obtain rfl := finite_le_infinite.mp lower
      cases third with
      | nan => exact absurd upper not_le_nan
      | infinite last =>
        rw [infinite_le_infinite] at upper
        exact finite_le_infinite.mpr (by simpa using upper)
      | finite last => exact absurd (infinite_le_finite.mp upper) (by decide)
    | finite other =>
      cases third with
      | nan => exact absurd upper not_le_nan
      | infinite last => exact finite_le_infinite.mpr (finite_le_infinite.mp upper)
      | finite last =>
        rw [finite_le_finite] at lower upper ⊢
        exact lower.trans upper

theorem le_of_lt {left right : Extended} (below : left < right) : left ≤ right := by
  cases left with
  | nan => cases right <;> cases below
  | infinite negative =>
    cases right with
    | nan => cases below
    | infinite other =>
      have same : (negative && !other) = true := below
      exact infinite_le_infinite.mpr (.inl (by simp at same; exact same.1))
    | finite value => exact below
  | finite value =>
    cases right with
    | nan => cases below
    | infinite negative => exact below
    | finite other => exact finite_le_finite.mpr (of_decide_eq_true below).le

theorem greater_le_iff {first second bound : Extended} (firstNumber : first.isNan = false)
    (secondNumber : second.isNan = false) :
    greater first second ≤ bound ↔ first ≤ bound ∧ second ≤ bound := by
  rw [greater]
  by_cases below : first < second
  · rw [if_pos below]
    exact ⟨fun upper => ⟨le_trans (le_of_lt below) upper, upper⟩, fun both => both.2⟩
  · rw [if_neg below]
    exact ⟨fun upper => ⟨upper, le_trans ((not_lt_iff firstNumber secondNumber).mp below) upper⟩,
      fun both => both.1⟩

theorem not_lt_greater_iff {number first second : Extended} (isNumber : number.isNan = false)
    (firstNumber : first.isNan = false) (secondNumber : second.isNan = false) :
    ¬ number < greater first second ↔ first ≤ number ∧ second ≤ number := by
  have greaterNumber : (greater first second).isNan = false := by
    rw [greater]
    split
    · exact secondNumber
    · exact firstNumber
  rw [not_lt_iff isNumber greaterNumber, greater_le_iff firstNumber secondNumber]

end Extended

end FxToushi.Py
