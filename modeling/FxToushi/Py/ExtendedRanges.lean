import FxToushi.Py.ExtendedSteps
import FxToushi.Py.Rounding

namespace FxToushi.Py.Extended

/-! # Ranges of floats

Where one float is at least another, taking the lower from the upper leaves
something that is not negative, unless both are the same infinity.
-/

/-- `left / right`, where the callers never divide by zero. -/
def div : Extended → Extended → Extended
  | .finite left, .finite right => .finite (left / right)
  | .finite _, .infinite _ => 0
  | .infinite negative, .finite right => .infinite (negative != decide (right < 0))
  | _, _ => .nan

instance : Div Extended := ⟨div⟩

theorem not_lt_self (number : Extended) : ¬ number < number := by
  cases number with
  | finite value => exact fun below => absurd (finite_lt_finite.mp below) (lt_irrefl value)
  | infinite negative => cases negative <;> decide
  | nan => exact not_nan_lt

theorem lt_trans {first second third : Extended} (lower : first < second) (upper : second < third) :
    first < third := by
  have numbers : first.isNan = false ∧ third.isNan = false := by
    constructor
    · cases first with
      | nan => exact absurd lower not_nan_lt
      | _ => rfl
    · cases third with
      | nan => exact absurd upper not_lt_nan
      | _ => rfl
  by_contra never
  have back := (not_lt_iff numbers.1 numbers.2).mp never
  have around := le_trans back (le_of_lt lower)
  have second_number : second.isNan = false := by
    cases second with
    | nan => exact absurd lower not_lt_nan
    | _ => rfl
  exact (not_lt_iff second_number numbers.2).mpr around upper

instance : IsStrictOrder Extended (· < ·) where
  irrefl := not_lt_self
  trans _ _ _ := lt_trans

instance : IsStrictOrder Extended (· > ·) where
  irrefl := not_lt_self
  trans _ _ _ above below := lt_trans below above

theorem pos_of_nonneg {number : Extended} (nonneg : 0 ≤ number) (some_left : number ≠ 0) :
    0 < number := by
  cases number with
  | nan => exact absurd nonneg not_nonneg_nan
  | infinite negative => exact pos_infinite.mpr (nonneg_infinite.mp nonneg)
  | finite value =>
    have apart : value ≠ 0 := fun none => some_left (congrArg finite none)
    exact pos_finite.mpr (lt_of_le_of_ne (nonneg_finite.mp nonneg) apart.symm)

theorem nonneg_greater {first : Extended} (nonneg : 0 ≤ first) (second : Extended) :
    0 ≤ greater first second := by
  rw [greater]
  split
  · rename_i above
    exact le_trans nonneg (le_of_lt above)
  · exact nonneg

theorem nonneg_round {number : Extended} (nonneg : 0 ≤ number) (digits : Nat) :
    0 ≤ number.round digits := by
  cases number with
  | nan => exact nonneg
  | infinite negative => exact nonneg
  | finite value =>
    rw [round, nonneg_finite]
    have nothing : roundTo 0 digits = 0 := @roundTo_of_whole 0 digits 0 (by simp)
    exact nothing ▸ roundTo_mono (nonneg_finite.mp nonneg) digits

theorem nonneg_sub {low high : Extended} (below : low ≤ high) (bounded : low ≠ .infinite false)
    (reached : high ≠ .infinite true) : 0 ≤ high - low := by
  cases low with
  | nan => exact absurd below not_nan_le
  | infinite negative =>
    obtain rfl : negative = true := by simpa using bounded
    cases high with
    | nan => exact absurd below not_le_nan
    | infinite negative =>
      obtain rfl : negative = false := by simpa using reached
      decide
    | finite value => exact rfl
  | finite value =>
    cases high with
    | nan => exact absurd below not_le_nan
    | infinite negative =>
      obtain rfl : negative = false := by simpa using reached
      exact rfl
    | finite other =>
      rw [finite_sub, nonneg_finite, sub_nonneg]
      exact finite_le_finite.mp below

theorem eq_infinite_of_le {number : Extended} (above : .infinite false ≤ number) :
    number = .infinite false := by
  cases number with
  | nan => exact absurd above not_le_nan
  | infinite negative => simpa using infinite_le_infinite.mp above
  | finite value => exact absurd above Bool.false_ne_true

theorem eq_infinite_of_ge {number : Extended} (below : number ≤ .infinite true) :
    number = .infinite true := by
  cases number with
  | nan => exact absurd below not_nan_le
  | infinite negative => simpa using infinite_le_infinite.mp below
  | finite value => exact absurd below Bool.false_ne_true

theorem not_infinite_of_lt {number bound : Extended} (below : number < bound) :
    number ≠ .infinite false := by
  rintro rfl
  cases bound <;> exact absurd below Bool.false_ne_true

theorem not_infinite_of_add_lt {number step bound : Extended} (nonneg : 0 ≤ step)
    (below : number + step < bound) : number ≠ .infinite false := by
  rintro rfl
  cases step with
  | nan => exact absurd nonneg not_nonneg_nan
  | infinite negative =>
    obtain rfl := nonneg_infinite.mp nonneg
    exact not_infinite_of_lt below rfl
  | finite value => exact not_infinite_of_lt below rfl

/-! ## Rounding to a float -/

/-- The float of a number: the nearest one, and past the largest an infinity. -/
def rounded : Extended → Extended
  | .finite value =>
    if (floatLimit : Rat) ≤ |value| then .infinite (decide (value < 0))
    else .finite (nearest value)
  | number => number

/-- `int(number)`. -/
def toInt : Extended → Except PyError Int
  | .finite value => .ok (truncate value)
  | .infinite _ => .error overflowError
  | .nan => .error .valueError

theorem rounded_of_lt {value : Rat} (small : |value| < floatLimit) :
    rounded (.finite value) = .finite (nearest value) := if_neg (not_le.mpr small)

theorem rounded_eq_finite {number : Extended} {value : Rat}
    (finite : number.rounded = .finite value) :
    ∃ exact, number = .finite exact ∧ |exact| < floatLimit ∧ value = nearest exact := by
  cases number with
  | nan => cases finite
  | infinite negative => cases finite
  | finite exact =>
    rw [rounded] at finite
    split at finite
    · cases finite
    · exact ⟨exact, rfl, not_le.mp ‹_›, (Extended.finite.inj finite).symm⟩

end FxToushi.Py.Extended

namespace FxToushi.Py.Extended

/-! # What is left of a float

One float loses more than another that started from the same number.  It is the
smaller one then, unless an infinite loss met an infinite number and what is left
is no number at all.
-/

/-- What is left after a loss, and after a smaller one. -/
inductive Outlived : Extended → Extended → Prop
  | nothing : Outlived .nan .nan
  | spent : Outlived .nan (.infinite false)
  | endless : Outlived (.infinite false) (.infinite false)
  | bottom : Outlived (.infinite true) (.infinite true)
  | sunk (value : Rat) : Outlived (.infinite true) (.finite value)
  | numbers {lower upper : Rat} (below : lower ≤ upper) : Outlived (.finite lower) (.finite upper)

theorem Outlived.refl (number : Extended) : Outlived number number := by
  cases number with
  | nan => exact .nothing
  | infinite negative =>
    cases negative with
    | true => exact .bottom
    | false => exact .endless
  | finite value => exact .numbers (le_refl value)

theorem Outlived.le {lower upper : Extended} (outlived : Outlived lower upper) :
    lower = .nan ∨ lower ≤ upper := by
  cases outlived with
  | nothing => exact .inl rfl
  | spent => exact .inl rfl
  | endless => exact .inr (infinite_le_infinite.mpr (.inr rfl))
  | bottom => exact .inr (infinite_le_infinite.mpr (.inl rfl))
  | sunk value => exact .inr (infinite_le_finite.mpr rfl)
  | numbers below => exact .inr (finite_le_finite.mpr below)

/-- A loss that is not negative, beside one that is at least as great. -/
theorem loss_cases {loss smaller : Extended} (nonneg : 0 ≤ smaller) (most : smaller ≤ loss) :
    (∃ small great, smaller = .finite small ∧ loss = .finite great ∧ small ≤ great) ∨
      ((∃ small, smaller = .finite small) ∨ smaller = .infinite false) ∧
        loss = .infinite false := by
  cases loss with
  | nan => exact absurd most not_le_nan
  | infinite negative =>
    cases smaller with
    | nan => exact absurd most not_nan_le
    | infinite other =>
      have positive : other = false := by simpa [nonneg_infinite] using nonneg
      subst positive
      have both : negative = false := by simpa [infinite_le_infinite] using most
      exact .inr ⟨.inr rfl, by rw [both]⟩
    | finite small =>
      have positive := finite_le_infinite.mp most
      exact .inr ⟨.inl ⟨small, rfl⟩, by rw [positive]⟩
  | finite great =>
    cases smaller with
    | nan => exact absurd most not_nan_le
    | infinite other =>
      have negative := infinite_le_finite.mp most
      rw [negative, nonneg_infinite] at nonneg
      cases nonneg
    | finite small => exact .inl ⟨small, great, rfl, rfl, finite_le_finite.mp most⟩

/-- The lower one goes on losing at least as much as the upper one. -/
theorem Outlived.sub {lower upper loss smaller : Extended} (outlived : Outlived lower upper)
    (nonneg : 0 ≤ smaller) (most : smaller ≤ loss) : Outlived (lower - loss) (upper - smaller) := by
  obtain ⟨small, great, rfl, rfl, atMost⟩ | ⟨⟨small, rfl⟩ | rfl, rfl⟩ := loss_cases nonneg most
  · cases outlived with
    | nothing => exact .nothing
    | spent => exact .spent
    | endless => exact .endless
    | bottom => exact .bottom
    | sunk value => exact .sunk _
    | numbers below =>
      rw [finite_sub, finite_sub]
      exact .numbers (sub_le_sub below atMost)
  · cases outlived with
    | nothing => exact .nothing
    | spent => exact .spent
    | endless => exact .spent
    | bottom => exact .bottom
    | sunk value => exact .sunk _
    | numbers below => exact .sunk _
  · cases outlived with
    | nothing => exact .nothing
    | spent => exact .nothing
    | endless => exact .nothing
    | bottom => exact .bottom
    | sunk value => exact .bottom
    | numbers below => exact .bottom

theorem sub_zero (number : Extended) : number - 0 = number := by
  cases number with
  | nan => rfl
  | infinite negative => rfl
  | finite value => exact (finite_sub value 0).trans (congrArg _ (by simp))

theorem Outlived.round {lower upper : Extended} (outlived : Outlived lower upper) (digits : Nat) :
    Outlived (lower.round digits) (upper.round digits) := by
  cases outlived with
  | nothing => exact .nothing
  | spent => exact .spent
  | endless => exact .endless
  | bottom => exact .bottom
  | sunk value => exact .sunk _
  | numbers below => exact .numbers (roundTo_mono below digits)

/-- A bound that the lower one is not below the upper one is not below either. -/
theorem Outlived.not_lt {lower upper bound : Extended} (outlived : Outlived lower upper)
    (reaches : ¬ lower < bound) : ¬ upper < bound := by
  have endless : ¬ Extended.infinite false < bound := by
    cases bound with
    | nan => exact not_lt_nan
    | infinite negative => cases negative <;> decide
    | finite value => simp [infinite_lt_finite]
  have sunk : ∀ value : Rat, ¬ Extended.infinite true < bound →
      ¬ Extended.finite value < bound := by
    intro value holds
    cases bound with
    | nan => exact not_lt_nan
    | infinite negative =>
      cases negative with
      | true => simp [finite_lt_infinite]
      | false => exact absurd (by decide) holds
    | finite other => exact absurd (infinite_lt_finite.mpr rfl) holds
  cases outlived with
  | nothing => exact not_nan_lt
  | spent => exact endless
  | endless => exact endless
  | bottom => exact reaches
  | sunk value => exact sunk value reaches
  | numbers below =>
    cases bound with
    | nan => exact not_lt_nan
    | infinite negative => exact reaches
    | finite value =>
      rw [finite_lt_finite] at reaches ⊢
      exact fun less => reaches (lt_of_le_of_lt below less)

end FxToushi.Py.Extended
