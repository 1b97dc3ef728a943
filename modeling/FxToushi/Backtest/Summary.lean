import FxToushi.Backtest.PaperPoc
import FxToushi.Data.Fallible
import Mathlib.Data.List.MinMax

namespace FxToushi.Backtest

open Data Py

/-! # The summary of a run

Trades are told apart by their rounded R multiple and added up by their rounded
profit.  Where a series has no value pandas has `NaN`, here `none`.
-/

/-- A division of floats. -/
def divide (numerator denominator : Rat) : Except PyError Rat :=
  if denominator = 0 then .error .zeroDivision else .ok (numerator / denominator)

def winsOf (trades : List TradeRecord) : List TradeRecord :=
  trades.filter fun trade => decide (0 < trade.rMultiple)

def lossesOf (trades : List TradeRecord) : List TradeRecord :=
  trades.filter fun trade => decide (trade.rMultiple ≤ 0)

def totalPnl (trades : List TradeRecord) : Rat := (trades.map (·.pnl)).sum

def pfAll (trades : List TradeRecord) : Except PyError Rat :=
  if trades = [] then .ok 1
  else if lossesOf trades = [] then .ok 1
  else divide (totalPnl (winsOf trades)) |totalPnl (lossesOf trades)|

def winRate (trades : List TradeRecord) : Except PyError Rat :=
  if trades = [] then .ok 0 else divide (winsOf trades).length trades.length

def avgR (trades : List TradeRecord) : Except PyError Rat :=
  if trades = [] then .ok 0 else divide (trades.map (·.rMultiple)).sum trades.length

/-- `series.cummax()`. -/
def cummax : List Rat → List Rat
  | [] => []
  | first :: rest => rest.scanl max first

/-- A running maximum of 0 is replaced by a missing value. -/
def drawdowns (curve : List Rat) : List (Option Rat) :=
  List.zipWith (fun equity runningMax =>
    if runningMax = 0 then none else some ((equity - runningMax) / runningMax)) curve (cummax curve)

/-- `min` passes over missing values. -/
def maxDrawdown (curve : List Rat) : Option Rat :=
  if drawdowns curve = [] then some 0 else ((drawdowns curve).filterMap id).min?.map (|·|)

structure Summary where
  pfAll : Rat
  winRate : Rat
  avgR : Rat
  maxDrawdown : Option Rat

def summary (trades : List TradeRecord) (curve : List Rat) : Except PyError Summary := do
  let pfAll ← pfAll trades
  let winRate ← winRate trades
  let avgR ← avgR trades
  return { pfAll, winRate, avgR, maxDrawdown := maxDrawdown curve }

structure PocMetrics where
  pfAll : Rat
  winRate : Rat
  avgR : Rat
  maxDrawdown : Option Rat
  trades : Nat
  startEquity : Rat
  endEquity : Rat

def PocState.metrics (config : PocConfig) (state : PocState) : Except PyError PocMetrics :=
  (summary state.trades state.curve).map fun summary => {
    pfAll := roundTo summary.pfAll 4
    winRate := roundTo summary.winRate 4
    avgR := roundTo summary.avgR 4
    maxDrawdown := summary.maxDrawdown.map (roundTo · 4)
    trades := state.trades.length
    startEquity := roundTo config.settings.baseEquity 2
    endEquity := roundTo state.equity 2 }

/-! ## When the summary exists -/

/-- The summary is computed, and its profit factor is not negative, and not 1 because
nothing was lost. -/
def SummaryExists (trades : List TradeRecord) (curve : List Rat) : Prop :=
  ∃ computed, summary trades curve = .ok computed ∧ 0 ≤ computed.pfAll ∧
    ¬ (winsOf trades ≠ [] ∧ lossesOf trades = [] ∧ computed.pfAll = 1)

theorem divide_ok {numerator denominator : Rat} (nonzero : denominator ≠ 0) :
    divide numerator denominator = .ok (numerator / denominator) := if_neg nonzero

theorem length_ne_zero {trades : List TradeRecord} (some : trades ≠ []) :
    (trades.length : Rat) ≠ 0 := by
  exact_mod_cast (List.length_pos_iff.mpr some).ne'

/-- Only the profit factor can raise. -/
theorem summary_ok_iff {trades : List TradeRecord} {curve : List Rat} {pf : Rat} :
    (∃ computed, summary trades curve = .ok computed ∧ computed.pfAll = pf) ↔
      pfAll trades = .ok pf := by
  have rates : ∃ rate, winRate trades = .ok rate := by
    rw [winRate]
    split
    next => exact ⟨0, rfl⟩
    next some => exact ⟨_, divide_ok (length_ne_zero some)⟩
  have averages : ∃ average, avgR trades = .ok average := by
    rw [avgR]
    split
    next => exact ⟨0, rfl⟩
    next some => exact ⟨_, divide_ok (length_ne_zero some)⟩
  obtain ⟨rate, rated⟩ := rates
  obtain ⟨average, averaged⟩ := averages
  constructor
  · rintro ⟨computed, returned, rfl⟩
    obtain ⟨found, factored, returned⟩ := bind_ok returned
    obtain ⟨_, -, returned⟩ := bind_ok returned
    obtain ⟨_, -, returned⟩ := bind_ok returned
    obtain rfl := Except.ok.inj returned
    exact factored
  · intro factored
    simp only [summary, factored, rated, averaged, bind, Except.bind, pure, Except.pure]
    exact ⟨_, rfl, rfl⟩

theorem wins_ne_nil {trades : List TradeRecord} (some : trades ≠ [])
    (none : lossesOf trades = []) :
    winsOf trades ≠ [] := by
  obtain ⟨trade, member⟩ := List.exists_mem_of_ne_nil trades some
  have won : ¬ trade.rMultiple ≤ 0 := by
    have := List.filter_eq_nil_iff.mp none trade member
    simpa using this
  exact List.ne_nil_of_mem (List.mem_filter.mpr ⟨member, decide_eq_true (not_le.mp won)⟩)

/-- A trade of an hour with such a result. -/
def tradeOf (rMultiple pnl : Rat) : TradeRecord where
  strategyId := "usd_jpy_breakout"
  openedAt := 0
  closedAt := 3600000000
  symbol := "USDJPY"
  direction := "long"
  entry := 150
  exitPrice := 150
  stop := 149
  target := 152
  rMultiple
  pnl
  signal := { strategyId := "usd_jpy_breakout" }
  buffer := none
  trendValue := 0
  atrValue := 0
  spreadUsed := 0
  slippageUsed := 0

end FxToushi.Backtest
