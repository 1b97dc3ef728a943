import FxToushi.Strategies.SignalTrade
import Mathlib.Tactic.NormNum

namespace FxToushi.Strategies.SignalTrade

open Data Py

/-! # The order of the prices

A price that is derived lies on its side of a finite entry; a price that is given
may lie anywhere, and prices may be missing.
-/

/-! ## Sides -/

namespace Side

/-- The first price is the better one for the trade. -/
def Beyond : Side → Extended → Extended → Prop
  | long, better, worse => worse < better
  | short, better, worse => better < worse

theorem beyond_ahead (side : Side) (price step : Extended) :
    side.Beyond (side.ahead price step) price ↔ price.isFinite = true ∧ 0 < step := by
  cases side with
  | long => exact Extended.lt_add_iff price step
  | short => exact Extended.sub_lt_iff price step

theorem beyond_behind (side : Side) (price step : Extended) :
    side.Beyond price (side.behind price step) ↔ price.isFinite = true ∧ 0 < step := by
  cases side with
  | long => exact Extended.sub_lt_iff price step
  | short => exact Extended.lt_add_iff price step

theorem pos_distance {side : Side} {entry stop : Extended} (finite : entry.isFinite = true)
    (beyond : side.Beyond entry stop) : 0 < (entry - stop).abs := by
  cases side with
  | long => exact Extended.pos_abs_sub finite (.inl beyond)
  | short => exact Extended.pos_abs_sub finite (.inr beyond)

theorem tradeSide_of_direction {signal : TradeSignal} {side : Side}
    (direction : signal.direction = .str side.text) : tradeSide signal = some side := by
  rw [tradeSide, direction]
  cases side <;> decide

end Side

/-- All prices are there, and the entry lies between the stop and the target. -/
def PricedTrade.InOrder (trade : PricedTrade) : Prop :=
  ∃ side entry stop target, trade.side = Side.text side ∧ trade.entry = some entry ∧
    trade.stop = some stop ∧ trade.target = some target ∧
    side.Beyond entry stop ∧ side.Beyond target entry

/-! ## The distance that goes by the price -/

namespace TradeInputs

variable {inputs : TradeInputs} {side : Side}

/-- The price and the range are numbers, or the price is none and the range positive. -/
def DistanceKnown (inputs : TradeInputs) (closePrice : Extended) : Prop :=
  if closePrice.isNan then 0 < inputs.atrValue.val else inputs.atrValue.val.isNan = false

theorem pos_clampedDistance_iff (closePrice : Extended) :
    0 < inputs.clampedDistance closePrice ↔ inputs.DistanceKnown closePrice := by
  have factor : 0 < Extended.greater (.finite (1 / 10)) inputs.atrSlMult :=
    Extended.pos_greater_left (Extended.pos_finite.mpr (by norm_num)) inputs.atrSlMult
  have half : (0 : Extended) < .finite (1 / 2000) := Extended.pos_finite.mpr (by norm_num)
  rw [DistanceKnown, clampedDistance]
  cases price : closePrice.isNan with
  | true =>
    obtain rfl : closePrice = .nan := Extended.eq_nan price
    have product (factor : Rat) : Extended.nan * .finite factor = .nan := rfl
    rw [if_pos rfl, product, product, Extended.nan_greater, Extended.nan_greater,
      Extended.greater_nan, Extended.lesser_nan, Extended.pos_greater_zero, Extended.mul_comm,
      Extended.pos_mul_iff factor]
  | false =>
    have low : 0 < (closePrice * .finite (1 / 5000)).greater (.finite (1 / 2000)) := by
      refine Extended.pos_greater ?_ half
      rw [Extended.isNan_mul_finite (by norm_num), price]
    have high := Extended.pos_greater
      ((Extended.isNan_mul_finite (show (0 : Rat) < 1 / 50 by norm_num)).trans price) low
    rw [if_neg Bool.false_ne_true]
    cases range : inputs.atrValue.val.isNan with
    | true =>
      have product : Extended.nan * Extended.greater (.finite (1 / 10)) inputs.atrSlMult =
        .nan := by cases Extended.greater (.finite (1 / 10)) inputs.atrSlMult <;> rfl
      rw [Extended.eq_nan range, product, Extended.nan_greater, Extended.nan_greater,
        Extended.nan_lesser]
      exact iff_of_false Extended.not_pos_nan Bool.noConfusion
    | false =>
      refine iff_of_true (Extended.pos_lesser (Extended.pos_greater ?_ low) high) rfl
      rw [Extended.isNan_greater_zero, Extended.isNan_mul inputs.atrValue.property factor, range]

/-! ## Quotes -/

/-- The entry lies ahead of a stop that is given and behind a target that is given; a
derived one needs a finite entry, and a derived stop a price and a distance. -/
structure WellQuoted (inputs : TradeInputs) (side : Side) (entry : Extended) : Prop where
  quoted : inputs.entry = some entry ∨ inputs.entry = none ∧
    ∃ closePrice, inputs.closePrice = some closePrice ∧
      entry = side.ahead (side.ahead closePrice inputs.spreadPips) inputs.slippagePips
  stop : ∀ stop, inputs.stop = some stop → side.Beyond entry stop
  target : ∀ target, inputs.target = some target → side.Beyond target entry
  derivedStop : inputs.stop = none → entry.isFinite = true ∧
    ∃ closePrice, inputs.closePrice = some closePrice ∧ inputs.DistanceKnown closePrice
  derivedTarget : inputs.target = none → entry.isFinite = true

theorem entryPrice_eq_some_iff {entry : Extended} : inputs.entryPrice (some side) = some entry ↔
    inputs.entry = some entry ∨ inputs.entry = none ∧
      ∃ closePrice, inputs.closePrice = some closePrice ∧
        entry = side.ahead (side.ahead closePrice inputs.spreadPips) inputs.slippagePips := by
  unfold entryPrice
  cases inputs.entry with
  | some given => simp
  | none =>
    cases inputs.closePrice with
    | none => simp
    | some closePrice => simp [eq_comm]

section Derived

variable {entry : Extended} (quoted : inputs.entryPrice (some side) = some entry)

include quoted

theorem riskDistance_of_stop {stop : Extended} (given : inputs.stop = some stop) :
    inputs.riskDistance (some side) = some (entry - stop).abs := by
  unfold riskDistance
  rw [quoted, given]

theorem riskDistance_of_none (absent : inputs.stop = none) :
    inputs.riskDistance (some side) = inputs.closePrice.map inputs.clampedDistance := by
  unfold riskDistance
  rw [quoted, absent]

theorem stopPrice_beyond_iff :
    (∃ stop, inputs.stopPrice (some side) = some stop ∧ side.Beyond entry stop) ↔
      (∀ stop, inputs.stop = some stop → side.Beyond entry stop) ∧
        (inputs.stop = none → entry.isFinite = true ∧
          ∃ closePrice, inputs.closePrice = some closePrice ∧ inputs.DistanceKnown closePrice) := by
  unfold stopPrice
  rw [quoted]
  cases stop : inputs.stop with
  | some stop => simp
  | none =>
    rw [riskDistance_of_none quoted stop]
    cases inputs.closePrice with
    | none => simp
    | some closePrice =>
      simp [Side.beyond_behind, pos_clampedDistance_iff]

theorem targetPrice_beyond_iff (positive : 0 < inputs.targetRMultiple)
    (stop : ∀ stop, inputs.stop = some stop → side.Beyond entry stop)
    (derivedStop : inputs.stop = none → entry.isFinite = true ∧
      ∃ closePrice, inputs.closePrice = some closePrice ∧ inputs.DistanceKnown closePrice) :
    (∃ target, inputs.targetPrice (some side) = some target ∧ side.Beyond target entry) ↔
      (∀ target, inputs.target = some target → side.Beyond target entry) ∧
        (inputs.target = none → entry.isFinite = true) := by
  have distance : ∃ risk, inputs.riskDistance (some side) = some risk ∧
      (entry.isFinite = true → 0 < risk) := by
    cases held : inputs.stop with
    | some found =>
      exact ⟨_, riskDistance_of_stop quoted held, fun finite =>
        Side.pos_distance finite (stop found held)⟩
    | none =>
      obtain ⟨-, closePrice, price, known⟩ := derivedStop held
      refine ⟨inputs.clampedDistance closePrice, ?_, fun _ =>
        (pos_clampedDistance_iff closePrice).mpr known⟩
      rw [riskDistance_of_none quoted held, price, Option.map_some]
  obtain ⟨risk, measured, away⟩ := distance
  unfold targetPrice
  rw [quoted, measured]
  cases inputs.target with
  | some target => simp
  | none =>
    simp only [Option.some.injEq, exists_eq_left', Side.beyond_ahead,
      Extended.pos_mul_iff positive, reduceCtorEq, false_implies, implies_true, true_and,
      forall_const]
    exact ⟨fun both => both.1, fun finite => ⟨finite, away finite⟩⟩

end Derived

/-- The derived prices are in order exactly where the given ones are. -/
theorem inOrder_iff (positive : 0 < inputs.targetRMultiple) :
    (∃ entry stop target, inputs.entryPrice (some side) = some entry ∧
      inputs.stopPrice (some side) = some stop ∧ inputs.targetPrice (some side) = some target ∧
      side.Beyond entry stop ∧ side.Beyond target entry) ↔
      ∃ entry, inputs.WellQuoted side entry := by
  constructor
  · intro ⟨entry, stop, target, quoted, stopped, aimed, behind, ahead⟩
    obtain ⟨given, derived⟩ := (stopPrice_beyond_iff quoted).mp ⟨stop, stopped, behind⟩
    obtain ⟨aim, derivedAim⟩ := (targetPrice_beyond_iff quoted positive given derived).mp
      ⟨target, aimed, ahead⟩
    exact ⟨entry, entryPrice_eq_some_iff.mp quoted, given, aim, derived, derivedAim⟩
  · intro ⟨entry, quote⟩
    have quoted := entryPrice_eq_some_iff.mpr quote.quoted
    obtain ⟨stop, stopped, behind⟩ :=
      (stopPrice_beyond_iff quoted).mpr ⟨quote.stop, quote.derivedStop⟩
    obtain ⟨target, aimed, ahead⟩ := (targetPrice_beyond_iff quoted positive quote.stop
      quote.derivedStop).mpr ⟨quote.target, quote.derivedTarget⟩
    exact ⟨entry, stop, target, quoted, stopped, aimed, behind, ahead⟩

end TradeInputs

/-! ## Trades that are passed on -/

section Passed

variable {builder : TradeBuilder} {strategyId : String} {signal : TradeSignal}
  {context : StrategyContext} {trade : PricedTrade}

theorem buildCandidateTrade_ok
    (built : builder.buildCandidateTrade strategyId signal context = .ok trade) :
    ∃ inputs, readInputs builder.isoformat signal context = .ok inputs ∧
      trade.side = TradeBuilder.normalized signal.direction lower "unknown" ∧
      trade.entry = inputs.entryPrice (tradeSide signal) ∧
      trade.stop = inputs.stopPrice (tradeSide signal) ∧
      trade.target = inputs.targetPrice (tradeSide signal) := by
  obtain ⟨fields, derived, built⟩ := bind_ok built
  obtain ⟨⟨portfolioGroup, exposureBucket, holding⟩, -, built⟩ := bind_ok built
  obtain ⟨confidence, -, built⟩ := bind_ok built
  obtain ⟨qualityScore, -, built⟩ := bind_ok built
  obtain ⟨regimeFit, -, built⟩ := bind_ok built
  obtain ⟨atrValue, -, built⟩ := bind_ok built
  obtain ⟨trendValue, -, built⟩ := bind_ok built
  obtain ⟨costRatio, -, built⟩ := bind_ok built
  obtain ⟨inputs, read, derived⟩ := bind_ok derived
  obtain ⟨expireAt, -, derived⟩ := bind_ok derived
  have fieldsSame := Except.ok.inj derived
  have tradeSame := Except.ok.inj built
  refine ⟨inputs, read, ?_⟩
  rw [← tradeSame, ← fieldsSame]
  dsimp only
  exact ⟨rfl, rfl, rfl, rfl⟩

/-- A long or short signal with a positive target multiple. -/
structure Posed (isoformat : Timestamp → String) (signal : TradeSignal)
    (context : StrategyContext) (side : Side) : Prop where
  direction : signal.direction = .str side.text
  positive : ∀ inputs, readInputs isoformat signal context = .ok inputs → 0 < inputs.targetRMultiple

theorem Side.text_injective {left right : Side} (same : left.text = right.text) : left = right := by
  cases left <;> cases right <;> first | rfl | exact absurd same (by decide)

/-- What is read for the trade of a signal is well quoted for its side. -/
def WellQuoted (isoformat : Timestamp → String) (signal : TradeSignal)
    (context : StrategyContext) : Prop :=
  ∃ side inputs entry, signal.direction = .str (Side.text side) ∧
    readInputs isoformat signal context = .ok inputs ∧ inputs.WellQuoted side entry

theorem inOrder_iff_wellQuoted {side : Side} (posed : Posed builder.isoformat signal context side)
    (built : builder.buildCandidateTrade strategyId signal context = .ok trade) :
    trade.InOrder ↔ WellQuoted builder.isoformat signal context := by
  obtain ⟨inputs, read, sided, entered, stopped, aimed⟩ := buildCandidateTrade_ok built
  have named : trade.side = side.text := by
    rw [sided, posed.direction]
    cases side <;> decide
  rw [Side.tradeSide_of_direction posed.direction] at entered stopped aimed
  have ordered := @TradeInputs.inOrder_iff inputs side (posed.positive inputs read)
  rw [PricedTrade.InOrder, entered, stopped, aimed]
  constructor
  · intro ⟨other, entry, stop, target, same, prices⟩
    obtain rfl := Side.text_injective (named.symm.trans same)
    obtain ⟨entry, quote⟩ := ordered.mp ⟨entry, stop, target, prices⟩
    exact ⟨side, inputs, entry, posed.direction, read, quote⟩
  · intro ⟨other, again, entry, direction, readAgain, quote⟩
    obtain rfl := Except.ok.inj (read.symm.trans readAgain)
    obtain rfl := Side.text_injective
      (Value.str.inj (posed.direction.symm.trans direction))
    obtain ⟨entry, stop, target, prices⟩ := ordered.mpr ⟨entry, quote⟩
    exact ⟨side, entry, stop, target, named, prices⟩

/-- Of the trades that a strategy's signals pass to the allocator, those are in order
whose signals are well quoted. -/
theorem passed_inOrder_iff {signals : List TradeSignal} {trades : List PricedTrade}
    (posed : ∀ signal ∈ signals, ∃ side, Posed builder.isoformat signal context side)
    (passed : builder.passedTrades strategyId context signals = .ok trades) :
    List.Forall₂ (fun signal trade => trade.InOrder ↔
      WellQuoted builder.isoformat signal context) signals trades := by
  induction signals generalizing trades with
  | nil =>
    obtain rfl := Except.ok.inj passed
    exact .nil
  | cons signal rest ih =>
    obtain ⟨⟨side, first⟩, later⟩ := List.forall_mem_cons.mp posed
    obtain ⟨trade, others, built, passedLater, rfl⟩ := tryMap_cons_ok passed
    exact .cons (inOrder_iff_wellQuoted first built) (ih later passedLater)

end Passed

/-! ## Two signals -/

def plainBuilder : TradeBuilder where
  allocationPolicy := none
  isoformat := fun _ => "2026-01-05T00:00:00Z"
  utcnow := "2026-01-05T00:00:00Z"
  candidateId := fun _ _ _ _ _ stop _ =>
    if stop = some (.finite 149) then "5a5d557f7928fb57" else "9c8bced43a589951"

def plainContext : StrategyContext where
  features := { symbols := ∅, availableKeys := ∅ }
  gate := Core.GateState.default
  config := {}
  openPositions := []
  watchlist := ∅
  now := 1767571200000000
  seed := 0
  parameters := []

def signalWithStop (stop : Value) : TradeSignal where
  symbol := .str "USDJPY"
  direction := .str "long"
  entry := .float 150 "150.0"
  stop
  target := .float 152 "152.0"
  expireAt := .text "2026-01-05T00:05:00Z"
  timestamp := .text "2026-01-05T00:00:00Z"

/-- A stop below the entry. -/
def sampleSignal : TradeSignal := signalWithStop (.float 149 "149.0")

/-- A stop between the entry and the target. -/
def crossedSignal : TradeSignal := signalWithStop (.float 151 "151.0")

theorem posed_sampleSignal : Posed plainBuilder.isoformat sampleSignal plainContext .long where
  direction := rfl
  positive := by
    intro inputs read
    have multiple : (readInputs plainBuilder.isoformat sampleSignal plainContext).toOption.all
        (fun inputs => decide (0 < inputs.targetRMultiple)) = true := by decide +kernel
    rw [read] at multiple
    exact of_decide_eq_true multiple

theorem wellQuoted_sampleSignal :
    WellQuoted plainBuilder.isoformat sampleSignal plainContext := by
  have built : (readInputs plainBuilder.isoformat sampleSignal plainContext).toOption.map
      (fun inputs => (inputs.entry, inputs.stop, inputs.target)) =
        some (some (.finite 150), some (.finite 149), some (.finite 152)) := by decide +kernel
  obtain ⟨inputs, found, quoted⟩ := Option.map_eq_some_iff.mp built
  obtain ⟨entry, quoted⟩ := Prod.mk.inj quoted
  obtain ⟨stop, target⟩ := Prod.mk.inj quoted
  refine ⟨.long, inputs, .finite 150, rfl, ok_of_toOption found, .inl entry, ?_, ?_, ?_, ?_⟩
  · intro own given
    obtain rfl := Option.some.inj (given.symm.trans stop)
    exact (by decide +kernel : Extended.finite 149 < .finite 150)
  · intro own given
    obtain rfl := Option.some.inj (given.symm.trans target)
    exact (by decide +kernel : Extended.finite 150 < .finite 152)
  · intro absent
    rw [absent] at stop
    cases stop
  · exact fun _ => rfl

theorem passed_sampleSignal :
    ∃ trade, plainBuilder.passedTrades "trend" plainContext [sampleSignal] = .ok [trade] ∧
      trade.InOrder := by
  obtain ⟨trades, passed⟩ := exists_ok
    (plainBuilder.passedTrades "trend" plainContext [sampleSignal]) (by decide +kernel)
  have inOrder := passed_inOrder_iff
    (List.forall_mem_singleton.mpr ⟨.long, posed_sampleSignal⟩) passed
  cases inOrder with
  | cons first rest =>
    cases rest
    exact ⟨_, passed, first.mpr wellQuoted_sampleSignal⟩

/-- A long trade with its stop above its entry is passed to the allocator. -/
theorem crossedSignal_passed :
    ∃ trade, plainBuilder.passedTrades "trend" plainContext [crossedSignal] = .ok [trade] ∧
      ¬ trade.InOrder := by
  have built : (plainBuilder.buildCandidateTrade "trend" crossedSignal plainContext).toOption.map
      (fun trade => (trade.side, trade.entry, trade.stop)) =
        some ("long", some (.finite 150), some (.finite 151)) := by decide +kernel
  obtain ⟨trade, found, quoted⟩ := Option.map_eq_some_iff.mp built
  have passed := ok_of_toOption found
  refine ⟨trade, ?_, ?_⟩
  · rw [TradeBuilder.passedTrades, tryMap, passed]
    rfl
  · intro ordered
    obtain ⟨side, entry, stop, target, sided, entered, stopped, aimed, behind, ahead⟩ := ordered
    rw [sided, entered, stopped] at quoted
    obtain ⟨named, quoted⟩ := Prod.mk.inj quoted
    obtain ⟨entrySame, stopSame⟩ := Prod.mk.inj quoted
    obtain rfl := Option.some.inj entrySame
    obtain rfl := Option.some.inj stopSame
    cases side with
    | long => exact absurd behind (show ¬ Extended.finite 151 < .finite 150 by decide +kernel)
    | short => exact absurd named (by decide)

end FxToushi.Strategies.SignalTrade
