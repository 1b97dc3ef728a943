import FxToushi.Backtest.Conservation
import FxToushi.Strategies.Donchian
import Mathlib.Algebra.Order.Field.Basic

namespace FxToushi.Backtest

open Data Py Strategies

/-! # Geometry of positions

A position is meant to lie between its stop and its target.  The risk distance
is taken as an absolute value, so an entry beyond its own stop is not noticed.
-/

def Ordered (pos : Position) : Prop :=
  if pos.direction = "long" then pos.stop < pos.entry ∧ pos.entry < pos.target
  else pos.target < pos.entry ∧ pos.entry < pos.stop

instance (pos : Position) : Decidable (Ordered pos) :=
  inferInstanceAs (Decidable (if pos.direction = "long" then
    pos.stop < pos.entry ∧ pos.entry < pos.target
    else pos.target < pos.entry ∧ pos.entry < pos.stop))

/-! ## The level behind an entry -/

def basePrice (bar : Bar) (spec : EntrySpec) : Rat :=
  spec.entryBasePrice.getD (bar.row.openPrice.getD bar.row.close)

def entryCosts (config : PocConfig) (bar : Bar) (draws : Nat) (spec : EntrySpec) : Rat :=
  spreadFor spec.symbol bar.ts config.spreadPips +
    (slippageFor config draws spec.symbol bar.ts).1

def entryPrice (config : PocConfig) (bar : Bar) (draws : Nat) (spec : EntrySpec) : Rat :=
  if spec.signal.direction = "long" then basePrice bar spec + entryCosts config bar draws spec
  else basePrice bar spec - entryCosts config bar draws spec

theorem entryPrice_eq (config : PocConfig) (bar : Bar) (draws : Nat) (spec : EntrySpec) :
    entryPrice config bar draws spec =
      if spec.signal.direction = "long" then
        basePrice bar spec + spreadFor spec.symbol bar.ts config.spreadPips +
          (slippageFor config draws spec.symbol bar.ts).1
      else basePrice bar spec - spreadFor spec.symbol bar.ts config.spreadPips -
        (slippageFor config draws spec.symbol bar.ts).1 := by
  unfold entryPrice entryCosts
  rw [add_assoc, sub_sub]

def levelBuffer (row : Row) (spec : EntrySpec) : Rat :=
  let given := spec.signal.buffer.getD 0
  if given ≤ 0 then max (8 / 100) (spec.atrValue.getD (row.atr.getD 0) * (3 / 100)) else given

/-- How far the bar starts on the wrong side of the level. -/
def adverseGap (bar : Bar) (spec : EntrySpec) (level : Rat) : Rat :=
  if spec.signal.direction = "long" then level - basePrice bar spec
  else basePrice bar spec - level

/-- The bar does not start further beyond the signal's level than its buffer
and the costs reach, and the target lies in the signal's direction. -/
structure ProtectedEntry (config : PocConfig) (bar : Bar) (attempt : Attempt) : Prop where
  target : 0 < config.targetRMultiple
  gap : ∀ level, attempt.2.signal.level = some level →
    adverseGap bar attempt.2 level <
      levelBuffer bar.row attempt.2 + entryCosts config bar attempt.1.draws attempt.2

instance (config : PocConfig) (bar : Bar) (attempt : Attempt) :
    Decidable (ProtectedEntry config bar attempt) :=
  decidable_of_iff
    (0 < config.targetRMultiple ∧ ∀ level ∈ attempt.2.signal.level,
      adverseGap bar attempt.2 level <
        levelBuffer bar.row attempt.2 + entryCosts config bar attempt.1.draws attempt.2)
    ⟨fun holds => ⟨holds.1, holds.2⟩, fun entry => ⟨entry.target, entry.gap⟩⟩

/-- The stop is on the right side of the entry exactly when the gap to the level
is covered.  Without a level it is there by construction. -/
theorem stopFor_side_iff {config : PocConfig} {bar : Bar} {draws : Nat} {spec : EntrySpec}
    {atrSlMult stop : Rat} {buffer : Option Rat}
    (placed : stopFor spec (entryPrice config bar draws spec)
      (spec.atrValue.getD (bar.row.atr.getD 0)) atrSlMult = some (stop, buffer)) :
    (if spec.signal.direction = "long" then stop < entryPrice config bar draws spec
      else entryPrice config bar draws spec < stop) ↔
      ∀ level, spec.signal.level = some level →
        adverseGap bar spec level < levelBuffer bar.row spec +
          entryCosts config bar draws spec := by
  unfold stopFor at placed
  dsimp only at placed
  cases given : spec.signal.level with
  | none =>
    simp only [given] at placed
    split at placed
    · exact absurd placed (by simp)
    · rename_i positive
      obtain ⟨rfl, -⟩ := Prod.mk.inj (Option.some.inj placed)
      simp only [reduceCtorEq, false_implies, implies_true, iff_true]
      split <;> linarith
  | some level =>
    simp only [given] at placed
    obtain ⟨rfl, -⟩ := Prod.mk.inj (Option.some.inj placed)
    simp only [Option.some.injEq, forall_eq', adverseGap, entryPrice, levelBuffer]
    by_cases long : spec.signal.direction = "long" <;> simp only [if_pos, long, if_false] <;>
      constructor <;> intro side <;> linarith

theorem quoteEntry_some {config : PocConfig} {bar : Bar} {draws : Nat} {spec : EntrySpec}
    {atrSlMult : Rat} {quote : EntryQuote}
    (quoted : quoteEntry config bar.ts bar.row draws spec atrSlMult = some quote) :
    quote.entry = entryPrice config bar draws spec ∧
      (∃ buffer, stopFor spec quote.entry (spec.atrValue.getD (bar.row.atr.getD 0)) atrSlMult =
        some (quote.stop, buffer)) ∧
      0 < quote.riskDistance ∧
      quote.target = if spec.signal.direction = "long" then
        quote.entry + config.targetRMultiple * quote.riskDistance
        else quote.entry - config.targetRMultiple * quote.riskDistance := by
  have price := entryPrice_eq config bar draws spec
  unfold basePrice at price
  unfold quoteEntry at quoted
  dsimp only at quoted
  rw [← price] at quoted
  cases placed : stopFor spec (entryPrice config bar draws spec)
      (spec.atrValue.getD (bar.row.atr.getD 0)) atrSlMult with
  | none =>
    rw [placed] at quoted
    exact absurd quoted (by simp)
  | some pair =>
    obtain ⟨stop, buffer⟩ := pair
    rw [placed] at quoted
    simp only [Option.ite_none_left_eq_some, Option.some.injEq, not_le] at quoted
    obtain ⟨distance, rfl⟩ := quoted
    exact ⟨rfl, ⟨buffer, placed⟩, distance, rfl⟩

/-- An opened position is ordered exactly when its entry was protected. -/
theorem positionOf_ordered_iff {config : PocConfig} {bar : Bar} {attempt : Attempt}
    {atrSlMult : Rat} {quote : EntryQuote} (state : PocState) (ttlMinutes : Int)
    (quoted : quoteEntry config bar.ts bar.row attempt.1.draws attempt.2 atrSlMult = some quote) :
    Ordered (positionOf config bar.ts state attempt.2 quote ttlMinutes) ↔
      ProtectedEntry config bar attempt := by
  obtain ⟨entry, ⟨buffer, placed⟩, distance, target⟩ := quoteEntry_some quoted
  rw [entry] at placed
  have side := stopFor_side_iff placed
  have reward : 0 < config.targetRMultiple * quote.riskDistance ↔ 0 < config.targetRMultiple :=
    mul_pos_iff_of_pos_right distance
  have ordered : Ordered (positionOf config bar.ts state attempt.2 quote ttlMinutes) ↔
      0 < config.targetRMultiple ∧ if attempt.2.signal.direction = "long" then
        quote.stop < entryPrice config bar attempt.1.draws attempt.2
        else entryPrice config bar attempt.1.draws attempt.2 < quote.stop := by
    simp only [Ordered, positionOf, target, ← entry, ← reward]
    by_cases long : attempt.2.signal.direction = "long"
    · simp only [if_pos long, lt_add_iff_pos_right]
      exact and_comm
    · simp only [if_neg long, sub_lt_self_iff]
  rw [ordered, side]
  exact ⟨fun holds => ⟨holds.1, holds.2⟩, fun entry => ⟨entry.target, entry.gap⟩⟩

/-! ## Whole runs -/

def WellOpened (state : PocState) : Prop :=
  ∀ opening ∈ state.openings, Ordered opening.position ∧ 0 < opening.position.riskDistance

theorem attempt_wellOpened {config : PocConfig} {bar : Bar} {attempt : Attempt} {next : PocState}
    (guarded : ProtectedEntry config bar attempt) (opened : WellOpened attempt.1)
    (attempted : attemptOpenPosition config bar.ts bar.row attempt.1 attempt.2 = .ok next) :
    WellOpened next := by
  rcases attemptOpenPosition_cases attempted with rfl | rfl | ⟨_, ttlMinutes, quote, quoted, -, rfl⟩
  · exact opened
  · exact opened
  · intro opening member
    rcases List.mem_append.mp member with earlier | now
    · exact opened opening earlier
    · rw [List.mem_singleton.mp now]
      exact ⟨(positionOf_ordered_iff _ ttlMinutes quoted).mpr guarded,
        (quoteEntry_some quoted).2.2.1⟩

theorem stepBar_wellOpened {config : PocConfig} {bar : Bar} {state : PocState}
    (opened : WellOpened state)
    (guarded : ∀ attempt ∈ stepAttempts config state bar, ProtectedEntry config bar attempt) :
    WellOpened (stepBar config state bar) := by
  refine stepBar_preserves WellOpened ?_ ?_ ?_ opened
  · exact fun _ _ _ _ opened => opened
  · intro opened
    unfold WellOpened
    rwa [exitPass_openings]
  · intro attempt member next opened attempted
    exact attempt_wellOpened (guarded attempt member) opened attempted

def EntriesProtected (config : PocConfig) (bars : List Bar) : Prop :=
  EachStep (stepBar config)
    (fun state bar => ∀ attempt ∈ stepAttempts config state bar, ProtectedEntry config bar attempt)
    (initialState config) (eventStream bars)

/-- A position that leaves at its stop, not trailed since it was opened, loses
before costs. -/
def StopsLose (config : PocConfig) (bars : List Bar) : Prop :=
  EachStep (stepBar config)
    (fun state bar => ∀ exit ∈ barExits config bar state.positions,
      exit.level = exit.position.stop → exit.position ∈ state.openings.map (·.position) →
        rMultipleAt exit.position exit.level < 0)
    (initialState config) (eventStream bars)

theorem rMultipleAt_stop_neg {pos : Position} (ordered : Ordered pos)
    (distance : 0 < pos.riskDistance) : rMultipleAt pos pos.stop < 0 := by
  unfold rMultipleAt
  unfold Ordered at ordered
  refine div_neg_of_neg_of_pos ?_ distance
  split_ifs at ordered ⊢
  · linarith [ordered.1]
  · linarith [ordered.2]

/-- When no entry starts beyond what covers its level, every position lies between its stop and
its target. -/
theorem positions_ordered (config : PocConfig) (bars : List Bar)
    (guarded : EntriesProtected config bars) :
    (∀ opening ∈ (simulatePaperPoc config bars).openings, Ordered opening.position) ∧
      StopsLose config bars := by
  have start : WellOpened (initialState config) := fun _ member => absurd member List.not_mem_nil
  have run := throughout_of_eachStep
    (fun state bar opened guarded => stepBar_wellOpened opened guarded) start guarded
  refine ⟨?_, run.eachStep ?_⟩
  · intro opening member
    rw [simulate_openings] at member
    exact (run.final opening member).1
  · intro state bar opened exit _ stopped untrailed
    obtain ⟨opening, member, same⟩ := List.mem_map.mp untrailed
    obtain ⟨ordered, distance⟩ := opened opening member
    rw [stopped, ← same]
    exact rMultipleAt_stop_neg ordered distance

theorem positions_ordered_trailed :
    (simulatePaperPoc trailingPoc trailedBars).openings.length = 1 ∧
      (∀ opening ∈ (simulatePaperPoc trailingPoc trailedBars).openings, Ordered opening.position) ∧
      StopsLose trailingPoc trailedBars :=
  ⟨by decide +kernel, positions_ordered trailingPoc trailedBars
    (by unfold EntriesProtected; decide +kernel)⟩

def nextBarPoc : PocConfig where
  settings := { baseEquity := 1000, basePerTradePct := 1 }
  primaryStrategy := "m1"
  spreadPips := 0

/-- The signal of a long-only strategy whose close broke the lower band. -/
def lowerBreakTakenLong : PocSignal where
  strategyId := "m1"
  direction := "long"
  level := some 100
  buffer := some 1
  breakout := some "lower"

example :
    breakoutOf { upper := 110, lower := 100, close := 98, atr := 1 } 1 = some (.lower, 100) ∧
      resolveDirection .longOnly .lower = some lowerBreakTakenLong.direction := by
  decide +kernel

/-- The entry is below its own stop. -/
theorem positions_not_ordered :
    ¬ ∀ config bars, 0 ≤ config.spreadPips →
      ∀ opening ∈ (simulatePaperPoc config bars).openings, Ordered opening.position := by
  intro holds
  have ordered := holds nextBarPoc
    [morningBar 0 98 98 98 [lowerBreakTakenLong], morningBar 5 98 97 97 []] (by decide +kernel)
  exact absurd ordered (by decide +kernel)

end FxToushi.Backtest
