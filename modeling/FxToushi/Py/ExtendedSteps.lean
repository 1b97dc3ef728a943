import FxToushi.Py.Extended
import Mathlib.Algebra.Order.Group.Abs

namespace FxToushi.Py.Extended

/-! # Steps from a float

A float moves when a step is added to it or taken off exactly where it is finite
and the step is positive, infinite steps included.
-/

def isFinite : Extended → Bool
  | .finite _ => true
  | _ => false

/-- `min(first, second)`: the second only when it is smaller. -/
def lesser (first second : Extended) : Extended := if second < first then second else first

/-- `abs(value)`. -/
def abs : Extended → Extended
  | .finite value => .finite |value|
  | .infinite _ => .infinite false
  | .nan => .nan

theorem eq_nan {number : Extended} (same : number.isNan = true) : number = .nan := by
  cases number with
  | nan => rfl
  | infinite negative => cases same
  | finite value => cases same

theorem finite_lt_finite {left right : Rat} :
    Extended.finite left < .finite right ↔ left < right := decide_eq_true_iff

theorem infinite_lt_finite {negative : Bool} {value : Rat} :
    Extended.infinite negative < .finite value ↔ negative = true := Iff.rfl

theorem finite_lt_infinite {negative : Bool} {value : Rat} :
    Extended.finite value < .infinite negative ↔ negative = false := by
  have same : Extended.finite value < .infinite negative ↔ (!negative) = true := Iff.rfl
  rw [same, Bool.not_eq_true']

theorem finite_add (left right : Rat) :
    Extended.finite left + .finite right = .finite (left + right) := rfl

theorem finite_sub (left right : Rat) :
    Extended.finite left - .finite right = .finite (left - right) := by
  rw [sub_eq_add_neg]
  rfl

theorem not_lt_nan {number : Extended} : ¬ number < Extended.nan := by
  cases number <;> exact Bool.false_ne_true

theorem not_nan_lt {number : Extended} : ¬ Extended.nan < number := by
  cases number <;> exact Bool.false_ne_true

theorem neg_inj {left right : Extended} : -left = -right ↔ left = right := by
  have involutive : ∀ number : Extended, - -number = number := by
    intro number
    cases number with
    | nan => rfl
    | infinite negative => exact congrArg Extended.infinite (Bool.not_not negative)
    | finite value => exact congrArg Extended.finite (neg_neg value)
  exact ⟨fun same => by rw [← involutive left, same, involutive right], congrArg _⟩

theorem neg_lt_neg_iff {left right : Extended} : -left < -right ↔ right < left := by
  cases left with
  | nan => exact iff_of_false not_nan_lt not_lt_nan
  | infinite negative =>
    cases right with
    | nan => exact iff_of_false not_lt_nan not_nan_lt
    | infinite other => cases negative <;> cases other <;> decide
    | finite value =>
      have turned : -Extended.infinite negative = .infinite (!negative) := rfl
      have other : -Extended.finite value = .finite (-value) := rfl
      rw [turned, other, infinite_lt_finite, finite_lt_infinite, Bool.not_eq_true']
  | finite value =>
    have turned : -Extended.finite value = .finite (-value) := rfl
    cases right with
    | nan => exact iff_of_false not_lt_nan not_nan_lt
    | infinite negative =>
      have other : -Extended.infinite negative = .infinite (!negative) := rfl
      rw [turned, other, infinite_lt_finite, finite_lt_infinite, Bool.not_eq_false']
    | finite bound =>
      have other : -Extended.finite bound = .finite (-bound) := rfl
      rw [turned, other, finite_lt_finite, finite_lt_finite, Rat.neg_lt_neg_iff]

/-- Of two numbers that differ exactly one is the smaller; what is not a number is
neither smaller nor greater. -/
theorem lt_or_lt_iff {left right : Extended} (differ : left ≠ right ∨ left = .nan) :
    (left < right ∧ ¬ right < left) ∨ (right < left ∧ ¬ left < right) ↔
      left ≠ .nan ∧ right ≠ .nan := by
  cases left with
  | nan =>
    refine iff_of_false (fun either => ?_) fun numbers => numbers.1 rfl
    exact either.elim (fun less => not_nan_lt less.1) fun less => not_lt_nan less.1
  | infinite negative =>
    cases right with
    | nan =>
      refine iff_of_false (fun either => ?_) fun numbers => numbers.2 rfl
      exact either.elim (fun less => not_lt_nan less.1) fun less => not_nan_lt less.1
    | infinite other =>
      cases negative <;> cases other <;> simp at differ <;> decide
    | finite value =>
      rw [infinite_lt_finite, finite_lt_infinite]
      cases negative <;> simp
  | finite value =>
    cases right with
    | nan =>
      refine iff_of_false (fun either => ?_) fun numbers => numbers.2 rfl
      exact either.elim (fun less => not_lt_nan less.1) fun less => not_nan_lt less.1
    | infinite negative =>
      rw [infinite_lt_finite, finite_lt_infinite]
      cases negative <;> simp
    | finite other =>
      rw [finite_lt_finite, finite_lt_finite]
      have apart : value ≠ other := by simpa using differ
      refine iff_of_true ?_ ⟨nofun, nofun⟩
      exact (lt_or_gt_of_ne apart).imp (fun less => ⟨less, less.asymm⟩)
        fun less => ⟨less, less.asymm⟩

/-! ## Steps -/

theorem lt_add_iff (number step : Extended) :
    number < number + step ↔ number.isFinite = true ∧ 0 < step := by
  cases number with
  | nan => exact iff_of_false not_nan_lt fun absurdity => Bool.false_ne_true absurdity.1
  | infinite negative =>
    refine iff_of_false ?_ fun absurdity => Bool.false_ne_true absurdity.1
    cases step with
    | nan => exact not_lt_nan
    | infinite other => cases negative <;> cases other <;> decide
    | finite step => cases negative <;> exact Bool.false_ne_true
  | finite value =>
    refine Iff.trans ?_ (and_iff_right rfl).symm
    cases step with
    | nan => exact iff_of_false not_lt_nan not_lt_nan
    | infinite negative => exact Iff.rfl
    | finite step =>
      rw [finite_add, finite_lt_finite, pos_finite]
      exact lt_add_iff_pos_right value

theorem sub_lt_iff (number step : Extended) :
    number - step < number ↔ number.isFinite = true ∧ 0 < step := by
  cases number with
  | nan => exact iff_of_false not_lt_nan fun absurdity => Bool.false_ne_true absurdity.1
  | infinite negative =>
    refine iff_of_false ?_ fun absurdity => Bool.false_ne_true absurdity.1
    cases step with
    | nan => exact not_nan_lt
    | infinite other => cases negative <;> cases other <;> decide
    | finite step => cases negative <;> exact Bool.false_ne_true
  | finite value =>
    refine Iff.trans ?_ (and_iff_right rfl).symm
    cases step with
    | nan => exact iff_of_false not_nan_lt not_lt_nan
    | infinite negative => cases negative <;> exact Iff.rfl
    | finite step =>
      rw [finite_sub, finite_lt_finite, pos_finite]
      exact sub_lt_self_iff value

theorem mul_comm (left right : Extended) : left * right = right * left := by
  cases left with
  | nan => cases right <;> rfl
  | infinite negative =>
    cases right with
    | nan => rfl
    | infinite other => exact congrArg infinite (Bool.xor_comm negative other)
    | finite value => rfl
  | finite value =>
    cases right with
    | nan => rfl
    | infinite negative => rfl
    | finite other => exact congrArg finite (Rat.mul_comm value other)

/-- A step is scaled by a positive factor, which may be infinite. -/
theorem pos_mul_iff {factor : Extended} (positive : 0 < factor) (number : Extended) :
    0 < factor * number ↔ 0 < number := by
  cases factor with
  | nan => exact absurd positive not_pos_nan
  | infinite negative =>
    obtain rfl := pos_infinite.mp positive
    cases number with
    | nan => exact Iff.rfl
    | infinite other => cases other <;> decide
    | finite value =>
      have product : Extended.infinite false * .finite value =
        if value = 0 then .nan else .infinite (false != decide (value < 0)) := rfl
      rw [product, pos_finite]
      by_cases zero : value = 0
      · rw [if_pos zero, zero]
        exact iff_of_false not_pos_nan (lt_irrefl 0)
      · rw [if_neg zero, pos_infinite, Bool.false_bne, decide_eq_false_iff_not, not_lt]
        exact ⟨fun nonneg => lt_of_le_of_ne nonneg (Ne.symm zero), fun above => above.le⟩
  | finite factor =>
    have above := pos_finite.mp positive
    cases number with
    | nan => exact Iff.rfl
    | infinite negative =>
      have product : Extended.finite factor * .infinite negative =
        if factor = 0 then .nan else .infinite (negative != decide (factor < 0)) := rfl
      rw [product, if_neg above.ne', decide_eq_false (not_lt_of_gt above), Bool.bne_false]
    | finite value =>
      have product : Extended.finite factor * .finite value = .finite (factor * value) := rfl
      rw [product, pos_finite, pos_finite]
      exact mul_pos_iff_of_pos_left above

theorem pos_abs_sub {number other : Extended} (finite : number.isFinite = true)
    (apart : other < number ∨ number < other) : 0 < (number - other).abs := by
  cases number with
  | nan => cases finite
  | infinite negative => cases finite
  | finite value =>
    cases other with
    | nan => exact (apart.elim not_nan_lt not_lt_nan).elim
    | infinite negative => exact rfl
    | finite other =>
      rw [finite_sub]
      refine pos_finite.mpr (abs_pos.mpr (sub_ne_zero.mpr ?_))
      cases apart with
      | inl below => exact (finite_lt_finite.mp below).ne'
      | inr above => exact (finite_lt_finite.mp above).ne

/-! ## Clamped steps -/

theorem pos_of_le {low value : Extended} (positive : 0 < low) (reached : low ≤ value) :
    0 < value := by
  cases value with
  | nan => exact absurd reached not_le_nan
  | infinite negative =>
    cases low with
    | nan => exact absurd reached not_nan_le
    | infinite other =>
      obtain rfl := pos_infinite.mp positive
      exact pos_infinite.mpr ((infinite_le_infinite.mp reached).resolve_left Bool.false_ne_true)
    | finite low => exact pos_infinite.mpr (finite_le_infinite.mp reached)
  | finite value =>
    cases low with
    | nan => exact absurd reached not_nan_le
    | infinite other =>
      obtain rfl := pos_infinite.mp positive
      exact absurd (infinite_le_finite.mp reached) Bool.false_ne_true
    | finite low =>
      exact pos_finite.mpr (lt_of_lt_of_le (pos_finite.mp positive) (finite_le_finite.mp reached))

theorem isNan_of_pos {number : Extended} (positive : 0 < number) : number.isNan = false :=
  isNan_of_nonneg (le_of_lt positive)

theorem pos_greater {first second : Extended} (number : first.isNan = false)
    (positive : 0 < second) : 0 < greater first second := by
  rw [greater]
  split
  · exact positive
  · rename_i reached
    exact pos_of_le positive ((not_lt_iff number (isNan_of_pos positive)).mp reached)

theorem pos_greater_left {first : Extended} (positive : 0 < first) (second : Extended) :
    0 < greater first second := by
  rw [greater]
  split
  · rename_i above
    exact pos_of_le positive (le_of_lt above)
  · exact positive

theorem nan_greater (second : Extended) : greater .nan second = .nan := if_neg not_nan_lt

theorem greater_nan (first : Extended) : greater first .nan = first := if_neg not_lt_nan

theorem lesser_nan (first : Extended) : lesser first .nan = first := if_neg not_nan_lt

theorem nan_lesser (second : Extended) : lesser .nan second = .nan := if_neg not_lt_nan

theorem pos_lesser {first second : Extended} (firstPositive : 0 < first)
    (secondPositive : 0 < second) : 0 < lesser first second := by
  rw [lesser]
  split
  · exact secondPositive
  · exact firstPositive

theorem isNan_greater_zero (number : Extended) : (greater number 0).isNan = number.isNan := by
  rw [greater]
  split
  · rename_i below
    cases number with
    | nan => exact absurd below not_nan_lt
    | infinite negative => rfl
    | finite value => rfl
  · rfl

theorem pos_greater_zero (number : Extended) : 0 < greater number 0 ↔ 0 < number := by
  rw [greater]
  split
  · rename_i below
    refine iff_of_false not_pos_zero fun positive => ?_
    cases number with
    | nan => exact not_pos_nan positive
    | infinite negative =>
      obtain rfl := pos_infinite.mp positive
      exact Bool.false_ne_true below
    | finite value => exact lt_asymm (pos_finite.mp positive) (finite_lt_finite.mp below)
  · exact Iff.rfl

/-- A positive factor makes a number of every number but nothing. -/
theorem isNan_mul {number factor : Extended} (given : number ≠ 0) (positive : 0 < factor) :
    (number * factor).isNan = number.isNan := by
  cases number with
  | nan => cases factor <;> rfl
  | infinite negative =>
    cases factor with
    | nan => exact absurd positive not_pos_nan
    | infinite other => rfl
    | finite value =>
      have product : Extended.infinite negative * .finite value =
        if value = 0 then .nan else .infinite (negative != decide (value < 0)) := rfl
      rw [product, if_neg (pos_finite.mp positive).ne']
      rfl
  | finite value =>
    cases factor with
    | nan => exact absurd positive not_pos_nan
    | infinite other =>
      have product : Extended.finite value * .infinite other =
        if value = 0 then .nan else .infinite (other != decide (value < 0)) := rfl
      rw [product, if_neg fun zero => given (congrArg finite zero)]
      rfl
    | finite factor => rfl

theorem isNan_mul_finite {number : Extended} {factor : Rat} (positive : 0 < factor) :
    (number * .finite factor).isNan = number.isNan := by
  cases number with
  | nan => rfl
  | infinite negative => exact isNan_mul (fun same => nomatch same) (pos_finite.mpr positive)
  | finite value => rfl

end FxToushi.Py.Extended
