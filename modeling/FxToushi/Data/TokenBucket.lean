import Mathlib.Algebra.Order.Field.Basic
import Mathlib.Data.List.Basic
import Mathlib.Tactic.Linarith

namespace FxToushi.Data

/-! # Token buckets

A bucket of some capacity is refilled at a rate and drained by one unit a
grant.  `Funded` keeps the account: what was spent and what is left was put in
at the start or refilled since.  The bound on the grants up to a time follows
from the account and from how far the level may be overdrawn.
-/

variable {Amount : Type*} [Field Amount] [LinearOrder Amount]

/-- The account of a bucket at the time `now`. -/
def Funded (capacity rate start : Amount) (spent : Nat) (level now : Amount) : Prop :=
  spent + level ≤ capacity + rate * (now - start)

def grantsUntil (grants : List Amount) (time : Amount) : Nat :=
  (grants.filter (fun grant => decide (grant ≤ time))).length

/-- At every time since the start the grants stay within the capacity, the
refill and the debt. -/
def WithinBudget (capacity rate start debt : Amount) (grants : List Amount) : Prop :=
  ∀ time, start ≤ time → (grantsUntil grants time : Amount) ≤ capacity + debt +
    rate * (time - start)

theorem Funded.initial (capacity rate start : Amount) :
    Funded capacity rate start 0 capacity start := by
  simp [Funded]

section Rules

variable [IsStrictOrderedRing Amount] {capacity rate start debt level now : Amount} {spent : Nat}
  {grants : List Amount}

theorem Funded.refill {later refilled : Amount}
    (funded : Funded capacity rate start spent level now)
    (bounded : refilled ≤ level + rate * (later - now)) :
    Funded capacity rate start spent refilled later := by
  unfold Funded at funded ⊢
  linarith

theorem Funded.spend (funded : Funded capacity rate start spent level now) :
    Funded capacity rate start (spent + 1) (level - 1) now := by
  unfold Funded at funded ⊢
  push_cast
  linarith

theorem Funded.spent_le (funded : Funded capacity rate start spent level now)
    (overdraft : -debt ≤ level) : (spent : Amount) ≤ capacity + debt + rate * (now - start) := by
  unfold Funded at funded
  linarith

theorem WithinBudget.grant (within : WithinBudget capacity rate start debt grants)
    (rateNonneg : 0 ≤ rate)
    (funded : Funded capacity rate start (grants.length + 1) level now)
    (overdraft : -debt ≤ level) : WithinBudget capacity rate start debt (grants ++ [now]) := by
  intro time started
  by_cases reached : now ≤ time
  · have counted : (grantsUntil (grants ++ [now]) time : Amount) ≤ (grants.length + 1 : Nat) := by
      rw [← List.length_singleton (a := now), ← List.length_append]
      exact_mod_cast List.length_filter_le _ _
    have paid := funded.spent_le overdraft
    have elapsed : rate * (now - start) ≤ rate * (time - start) :=
      mul_le_mul_of_nonneg_left (by linarith) rateNonneg
    linarith
  · have same : grantsUntil (grants ++ [now]) time = grantsUntil grants time := by
      simp [grantsUntil, reached]
    rw [same]
    exact within time started

end Rules

end FxToushi.Data
