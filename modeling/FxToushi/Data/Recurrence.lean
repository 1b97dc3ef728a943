import Mathlib.Data.Nat.Count

namespace FxToushi.Data

/-! # Instants that recur with a period

The instants with a given remainder by the period, and how many of those that
meet a condition lie in a half-open interval.
-/

def Recurs (period phase instant : Int) : Prop := instant % period = phase

instance (period phase instant : Int) : Decidable (Recurs period phase instant) :=
  inferInstanceAs (Decidable (_ = _))

/-- How many instants of `[start, stop)` recur and meet the condition. -/
def occurrences (period phase : Int) (wanted : Int → Prop) [DecidablePred wanted]
    (start stop : Int) : Nat :=
  Nat.count (fun offset => Recurs period phase (start + offset) ∧ wanted (start + offset))
    (stop - start).toNat

/-- The first recurring instant that is not before `instant`. -/
def nextRecurrence (period phase instant : Int) : Int := instant + (phase - instant) % period

variable {period phase start stop instant : Int} {wanted : Int → Prop} [DecidablePred wanted]

theorem le_nextRecurrence (positive : 0 < period) :
    instant ≤ nextRecurrence period phase instant := by
  have least := Int.emod_nonneg (phase - instant) positive.ne'
  unfold nextRecurrence
  omega

theorem nextRecurrence_lt (positive : 0 < period) :
    nextRecurrence period phase instant < instant + period := by
  have below := Int.emod_lt_of_pos (phase - instant) positive
  unfold nextRecurrence
  omega

theorem recurs_nextRecurrence (proper : phase % period = phase) :
    Recurs period phase (nextRecurrence period phase instant) := by
  unfold Recurs nextRecurrence
  rw [Int.add_emod_emod, show instant + (phase - instant) = phase by omega, proper]

theorem Recurs.add_period (recurs : Recurs period phase instant) :
    Recurs period phase (instant + period) := by
  unfold Recurs at recurs ⊢
  rw [Int.add_emod_right, recurs]

theorem Recurs.unique {other : Int} (recurs : Recurs period phase instant)
    (again : Recurs period phase other) (after : instant ≤ other)
    (close : other < instant + period) :
    other = instant := by
  have multiple : (other - instant) % period = 0 :=
    Int.emod_eq_emod_iff_emod_sub_eq_zero.mp (again.trans recurs.symm)
  rw [Int.emod_eq_of_lt (by omega) (by omega)] at multiple
  omega

theorem Recurs.unique_in {other low : Int} (recurs : Recurs period phase instant)
    (again : Recurs period phase other) (lower : low ≤ instant) (upper : instant < low + period)
    (otherLower : low ≤ other) (otherUpper : other < low + period) : other = instant := by
  rcases le_total instant other with after | before
  · exact recurs.unique again after (by omega)
  · exact (again.unique recurs before (by omega)).symm

theorem occurrences_of_le (done : stop ≤ start) :
    occurrences period phase wanted start stop = 0 := by
  rw [occurrences, Int.toNat_of_nonpos (by omega), Nat.count_zero]

theorem occurrences_eq_zero
    (none : ∀ instant, start ≤ instant → instant < stop → ¬ Recurs period phase instant) :
    occurrences period phase wanted start stop = 0 :=
  Nat.count_iff_forall_not.mpr fun offset inside both =>
    none (start + offset) (by omega) (by omega) both.1

theorem occurrences_split {middle : Int} (after : start ≤ middle) (before : middle ≤ stop) :
    occurrences period phase wanted start stop =
      occurrences period phase wanted start middle +
        occurrences period phase wanted middle stop := by
  have lengths : (stop - start).toNat = (middle - start).toNat + (stop - middle).toNat := by omega
  have shifted : ∀ offset : Nat,
      start + (((middle - start).toNat + offset : Nat) : Int) = middle + offset := by
    intro offset
    omega
  unfold occurrences
  rw [lengths, Nat.count_add]
  simp only [shifted]

theorem occurrences_eq_of_gap {middle : Int} (after : start ≤ middle)
    (gap : ∀ instant, start ≤ instant → instant < middle → ¬ Recurs period phase instant) :
    occurrences period phase wanted start stop = occurrences period phase wanted middle stop := by
  rcases le_total middle stop with inside | beyond
  · rw [occurrences_split after inside, occurrences_eq_zero gap, Nat.zero_add]
  · rw [occurrences_of_le beyond,
      occurrences_eq_zero fun instant lower upper => gap instant lower (by omega)]

theorem occurrences_next (positive : 0 < period) (recurs : Recurs period phase start)
    (more : start < stop) :
    occurrences period phase wanted start stop =
      occurrences period phase wanted (start + period) stop + if wanted start then 1 else 0 := by
  have first : occurrences period phase wanted start (start + 1) =
      if wanted start then 1 else 0 := by
    rw [occurrences, show (start + 1 - start).toNat = 1 by omega, Nat.count_one]
    simp [recurs]
  have skipped : occurrences period phase wanted (start + 1) stop =
      occurrences period phase wanted (start + period) stop := by
    refine occurrences_eq_of_gap (by omega) (fun instant lower upper again => ?_)
    have same := recurs.unique again (by omega) upper
    omega
  rw [occurrences_split (by omega) (show start + 1 ≤ stop by omega), first, skipped, Nat.add_comm]

end FxToushi.Data
