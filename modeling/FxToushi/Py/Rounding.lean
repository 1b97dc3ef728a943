import FxToushi.Py.Number
import Mathlib.Data.Int.Log
import Mathlib.Data.Rat.Floor
import Mathlib.Tactic.Positivity

namespace FxToushi.Py

/-! # Rounding keeps the order, and what has so few digits -/

theorem roundHalfEven_intCast (value : Int) : roundHalfEven (value : Rat) = value := by
  have whole : (value : Rat).floor = value := Rat.floor_intCast value
  simp [roundHalfEven, whole]

theorem roundTo_of_whole {value : Rat} {digits : Nat} {scaled : Int}
    (whole : value * 10 ^ digits = scaled) : roundTo value digits = value := by
  have power : (10 : Rat) ^ digits ≠ 0 := pow_ne_zero digits (by decide)
  rw [roundTo, whole, roundHalfEven_intCast, ← whole, mul_div_assoc, div_self power, mul_one]

theorem floor_le_roundHalfEven (value : Rat) : value.floor ≤ roundHalfEven value := by
  unfold roundHalfEven
  dsimp only
  split_ifs <;> omega

theorem roundHalfEven_le (value : Rat) : roundHalfEven value ≤ value.floor + 1 := by
  unfold roundHalfEven
  dsimp only
  split_ifs <;> omega

theorem roundHalfEven_mono {left right : Rat} (below : left ≤ right) :
    roundHalfEven left ≤ roundHalfEven right := by
  have floors : left.floor ≤ right.floor := Rat.floor_monotone below
  by_cases same : left.floor = right.floor
  · have parts : left - left.floor ≤ right - right.floor := by
      rw [same]
      exact sub_le_sub_right below _
    unfold roundHalfEven
    dsimp only
    rw [same] at parts ⊢
    split_ifs with small large even otherSmall otherLarge
    all_goals first
      | omega
      | exact absurd (lt_of_le_of_lt parts ‹_›) ‹_›
      | exact absurd (lt_of_lt_of_le ‹_› parts) ‹_›
  · calc roundHalfEven left ≤ left.floor + 1 := roundHalfEven_le left
      _ ≤ right.floor := by omega
      _ ≤ roundHalfEven right := floor_le_roundHalfEven right

/-- What a value is rounded to at least: a half goes up to an even number only. -/
theorem le_roundHalfEven_iff {whole : Int} {value : Rat} :
    whole ≤ roundHalfEven value ↔
      (whole : Rat) - 1 / 2 < value ∨ value = whole - 1 / 2 ∧ whole % 2 = 0 := by
  have below : (value.floor : Rat) ≤ value := Rat.floor_le value
  have above : value < value.floor + 1 := by
    exact_mod_cast Rat.lt_floor_add_one value
  obtain low | same | high :
      whole ≤ value.floor ∨ whole = value.floor + 1 ∨ value.floor + 2 ≤ whole := by omega
  · have lower : (whole : Rat) ≤ value.floor := by exact_mod_cast low
    exact iff_of_true (low.trans (floor_le_roundHalfEven value)) (.inl (by linarith))
  · subst same
    unfold roundHalfEven
    dsimp only
    push_cast
    split_ifs with small large even
    · exact iff_of_false (by omega) (by rintro (more | ⟨more, -⟩) <;> linarith)
    · exact iff_of_true le_rfl (.inl (by linarith))
    · refine iff_of_false (by omega) ?_
      rintro (more | ⟨-, odd⟩)
      · linarith
      · omega
    · exact iff_of_true le_rfl (.inr ⟨by linarith, by omega⟩)
  · have upper : (value.floor : Rat) + 2 ≤ whole := by exact_mod_cast high
    refine iff_of_false ?_ ?_
    · have := roundHalfEven_le value
      omega
    · rintro (more | ⟨more, -⟩) <;> linarith

theorem roundTo_mono {left right : Rat} (below : left ≤ right) (digits : Nat) :
    roundTo left digits ≤ roundTo right digits := by
  have power : (0 : Rat) < 10 ^ digits := pow_pos (by decide) digits
  unfold roundTo
  refine div_le_div_of_nonneg_right ?_ power.le
  exact_mod_cast roundHalfEven_mono (mul_le_mul_of_nonneg_right below power.le)

/-! ## The floats beside a number -/

/-- The exponent of the last bit: a float has 53 bits, and none below 2 to the -1074. -/
def lastBit (value : Rat) : Int := max (Int.log 2 |value| - 52) (-1074)

/-- The float nearest to a number, where no float is too large. -/
def nearest (value : Rat) : Rat :=
  roundHalfEven (value / 2 ^ lastBit value) * 2 ^ lastBit value

theorem roundHalfEven_near (value : Rat) : |(roundHalfEven value : Rat) - value| ≤ 1 / 2 := by
  have below : (value.floor : Rat) ≤ value := Rat.floor_le value
  have above : value < value.floor + 1 := by exact_mod_cast Rat.lt_floor_add_one value
  rw [abs_le]
  unfold roundHalfEven
  dsimp only
  split_ifs <;> push_cast <;> constructor <;> linarith

theorem two_zpow_pos (exponent : Int) : (0 : Rat) < 2 ^ exponent := zpow_pos (by decide) exponent

theorem lastBit_mono {left right : Rat} (positive : 0 < left) (below : left ≤ right) :
    lastBit left ≤ lastBit right := by
  have logs := Int.log_mono_right (b := 2) positive below
  unfold lastBit
  rw [abs_of_pos positive, abs_of_pos (positive.trans_le below)]
  omega

theorem nearest_le {value : Rat} (positive : 0 < value) :
    nearest value ≤ 2 ^ (lastBit value + 53) := by
  have unit := two_zpow_pos (lastBit value)
  have whole : (2 : Rat) ^ (lastBit value + 53) = ((2 ^ 53 : Int) : Rat) * 2 ^ lastBit value := by
    rw [zpow_add₀ (by decide), mul_comm]
    norm_num
  have below : value ≤ 2 ^ (lastBit value + 53) := by
    refine (Int.lt_zpow_succ_log_self (by decide : 1 < 2) value).le.trans ?_
    refine zpow_le_zpow_right₀ (by decide) ?_
    unfold lastBit
    rw [abs_of_pos positive]
    omega
  rw [whole] at below ⊢
  refine mul_le_mul_of_nonneg_right ?_ unit.le
  have rounded := roundHalfEven_mono ((div_le_iff₀ unit).mpr below)
  rw [roundHalfEven_intCast] at rounded
  exact_mod_cast rounded

theorem le_nearest {value : Rat} (positive : 0 < value) (normal : -1074 < lastBit value) :
    2 ^ (lastBit value + 52) ≤ nearest value := by
  have unit := two_zpow_pos (lastBit value)
  have whole : (2 : Rat) ^ (lastBit value + 52) = ((2 ^ 52 : Int) : Rat) * 2 ^ lastBit value := by
    rw [zpow_add₀ (by decide), mul_comm]
    norm_num
  have below : 2 ^ (lastBit value + 52) ≤ value := by
    have exponent : lastBit value + 52 = Int.log 2 value := by
      unfold lastBit at normal ⊢
      rw [abs_of_pos positive] at normal ⊢
      omega
    rw [exponent]
    exact Int.zpow_log_le_self (by decide : 1 < 2) positive
  rw [whole] at below ⊢
  refine mul_le_mul_of_nonneg_right ?_ unit.le
  have rounded := roundHalfEven_mono ((le_div_iff₀ unit).mpr below)
  rw [roundHalfEven_intCast] at rounded
  exact_mod_cast rounded

theorem nearest_mono {left right : Rat} (positive : 0 < left) (below : left ≤ right) :
    nearest left ≤ nearest right := by
  have bits := lastBit_mono positive below
  by_cases same : lastBit left = lastBit right
  · unfold nearest
    rw [same]
    have unit := two_zpow_pos (lastBit right)
    refine mul_le_mul_of_nonneg_right ?_ unit.le
    exact_mod_cast roundHalfEven_mono (div_le_div_of_nonneg_right below unit.le)
  · have least : -1074 ≤ lastBit left := le_max_right _ _
    calc nearest left ≤ 2 ^ (lastBit left + 53) := nearest_le positive
      _ ≤ 2 ^ (lastBit right + 52) := zpow_le_zpow_right₀ (by decide) (by omega)
      _ ≤ nearest right := le_nearest (positive.trans_le below) (by omega)

/-- A float is off by one part in 2 to the 53 at most, unless the number is tiny. -/
theorem nearest_near {value : Rat} (positive : 0 < value) (normal : 2 ^ (-1022 : Int) ≤ value) :
    |nearest value - value| ≤ value / 2 ^ 53 := by
  have unit := two_zpow_pos (lastBit value)
  have exponent : lastBit value = Int.log 2 value - 52 := by
    have large := (Int.zpow_le_iff_le_log (by decide : 1 < 2) positive).mp normal
    unfold lastBit
    rw [abs_of_pos positive]
    omega
  have small : (2 : Rat) ^ lastBit value * 2 ^ 52 ≤ value := by
    have whole := Int.zpow_log_le_self (by decide : 1 < 2) positive
    have sum : (2 : Rat) ^ Int.log 2 value = 2 ^ lastBit value * 2 ^ 52 := by
      rw [← zpow_natCast, ← zpow_add₀ (by decide), exponent]
      norm_num
    exact sum ▸ whole
  have near := roundHalfEven_near (value / 2 ^ lastBit value)
  have scaled : nearest value - value =
      ((roundHalfEven (value / 2 ^ lastBit value) : Rat) - value / 2 ^ lastBit value) *
        2 ^ lastBit value := by
    rw [nearest, sub_mul, div_mul_cancel₀ _ unit.ne']
  rw [scaled, abs_mul, abs_of_pos unit, le_div_iff₀ (by positivity)]
  calc |(roundHalfEven (value / 2 ^ lastBit value) : Rat) - value / 2 ^ lastBit value| *
        2 ^ lastBit value * 2 ^ 53
      ≤ 1 / 2 * 2 ^ lastBit value * 2 ^ 53 := by gcongr
    _ = 2 ^ lastBit value * 2 ^ 52 := by ring
    _ ≤ value := small

end FxToushi.Py

namespace FxToushi.Data

/-! # Rounding down to whole steps -/

variable {Number : Type*} [Field Number] [LinearOrder Number] [IsStrictOrderedRing Number]
  [FloorRing Number] {step value : Number}

/-- The greatest multiple of the step that is not above the value. -/
def floorTo (step value : Number) : Number := (⌊value / step⌋ : Number) * step

theorem floorTo_le (positive : 0 < step) (value : Number) : floorTo step value ≤ value :=
  (le_div_iff₀ positive).mp (Int.floor_le (value / step))

theorem floorTo_nonpos_iff (positive : 0 < step) : floorTo step value ≤ 0 ↔ value < step := by
  have whole : (⌊value / step⌋ : Number) ≤ 0 ↔ ⌊value / step⌋ < 1 := by
    rw [← Int.cast_zero, Int.cast_le]
    omega
  rw [floorTo, ← not_lt, mul_pos_iff_of_pos_right positive, not_lt, whole, Int.floor_lt,
    Int.cast_one, div_lt_one positive]

end FxToushi.Data
