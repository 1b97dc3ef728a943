import FxToushi.Backtest.Entries
import FxToushi.Backtest.Exits
import Mathlib.Data.List.Perm.Basic

namespace FxToushi.Backtest

open Data Py

/-! # Conservation of equity

Every position that is opened leaves one trade record, and the equity is what
the run started with and the results of these trades.
-/

/-- The result at a price after costs, in multiples of the risk. -/
def rMultipleAt (pos : Position) (price : Rat) : Rat :=
  (if pos.direction = "long" then price - pos.entry else pos.entry - price) / pos.riskDistance

def resultAt (config : PocConfig) (pos : Position) (price : Rat) : Rat :=
  rMultipleAt pos price * pos.riskAmount - pos.riskAmount * (config.commissionPct / 100)

/-- The trade record of a position, whose stop may have been trailed since. -/
structure Closes (config : PocConfig) (pos : Position) (trade : TradeRecord) : Prop where
  strategyId : trade.strategyId = pos.strategyId
  symbol : trade.symbol = pos.symbol
  direction : trade.direction = pos.direction
  entry : trade.entry = pos.entry
  target : trade.target = pos.target
  openedAt : trade.openedAt = pos.openedAt
  closedAt : pos.openedAt ≤ trade.closedAt
  rMultiple : trade.rMultiple = roundTo (rMultipleAt pos trade.exitPrice) 4
  pnl : trade.pnl = roundTo (resultAt config pos trade.exitPrice) 2

def results (config : PocConfig) (closed : List Position) (trades : List TradeRecord) : List Rat :=
  List.zipWith (fun pos trade => resultAt config pos trade.exitPrice) closed trades

/-- A position without its stop, which is all that changes while it is open. -/
def terms (pos : Position) : Position := { pos with stop := 0 }

@[simp] theorem terms_trailStop (config : PocConfig) (row : Row) (pos : Position) :
    terms (trailStop config row pos) = terms pos := by
  rw [trailStop_eq]
  rfl

/-- The books of a run: `closed` are the terms of the closed positions, in the
order of their trades. -/
structure Booked (config : PocConfig) (closed : List Position) (state : PocState) : Prop where
  records : List.Forall₂ (Closes config) closed state.trades
  equity : state.equity = config.settings.baseEquity + (results config closed state.trades).sum

theorem results_append {config : PocConfig} {closed : List Position} {trades : List TradeRecord}
    (lengths : closed.length = trades.length) (pos : Position) (trade : TradeRecord) :
    results config (closed ++ [pos]) (trades ++ [trade]) =
      results config closed trades ++ [resultAt config pos trade.exitPrice] := by
  rw [results, List.zipWith_append lengths]
  rfl

theorem closePosition_booked {config : PocConfig} {closed : List Position} {state : PocState}
    {ts : Timestamp} {pos : Position} (price : Rat) (opened : pos.openedAt ≤ ts)
    (booked : Booked config closed state) :
    Booked config (closed ++ [terms pos]) (closePosition config ts pos price state) := by
  have pnl (gross : Rat) : (if config.commissionPct ≠ 0 then
      gross - pos.riskAmount * (config.commissionPct / 100) else gross) =
        gross - pos.riskAmount * (config.commissionPct / 100) := by
    by_cases free : config.commissionPct = 0 <;> simp [free]
  have record : Closes config (terms pos)
      { strategyId := pos.strategyId, openedAt := pos.openedAt, closedAt := ts
        symbol := pos.symbol, direction := pos.direction, entry := pos.entry
        exitPrice := price, stop := pos.stop, target := pos.target
        rMultiple := roundTo (rMultipleAt pos price) 4
        pnl := roundTo (resultAt config pos price) 2
        signal := pos.signal, buffer := pos.buffer, trendValue := pos.trendValue
        atrValue := pos.atrValue, spreadUsed := pos.spreadUsed
        slippageUsed := pos.slippageUsed } :=
    ⟨rfl, rfl, rfl, rfl, rfl, rfl, opened, rfl, rfl⟩
  simp only [closePosition, pnl]
  refine ⟨List.rel_append booked.records (.cons record .nil), ?_⟩
  rw [results_append booked.records.length_eq, List.sum_append, List.sum_singleton, booked.equity,
    add_assoc]
  rfl

theorem settle_booked {config : PocConfig} {closed : List Position} {state : PocState}
    {ts : Timestamp} {pos : Position} (level : Rat) (opened : pos.openedAt ≤ ts)
    (booked : Booked config closed state) :
    Booked config (closed ++ [terms pos]) (settle config ts pos level state) :=
  closePosition_booked _ opened ⟨booked.records, booked.equity⟩

theorem settled_booked {config : PocConfig} {ts : Timestamp} {exits : List Exit}
    (opened : ∀ exit ∈ exits, exit.position.openedAt ≤ ts) {closed : List Position}
    {state : PocState} (booked : Booked config closed state) :
    Booked config (closed ++ exits.map (fun exit => terms exit.position))
      (exits.foldl (settleExit config ts) state) := by
  induction exits generalizing closed state with
  | nil => simpa using booked
  | cons exit rest ih =>
    obtain ⟨first, later⟩ := List.forall_mem_cons.mp opened
    have settled := ih later (settle_booked exit.level first booked)
    rwa [List.append_assoc] at settled

/-! ## Positions and exits -/

theorem barExits_staying_perm (config : PocConfig) (bar : Bar) (positions : List Position) :
    ((barExits config bar positions).map (fun exit => terms exit.position) ++
      (staying config bar positions).map terms).Perm (positions.map terms) := by
  induction positions with
  | nil => exact .refl _
  | cons pos rest ih =>
    by_cases same : pos.symbol = bar.symbol
    · cases reached : exitLevel bar.ts bar.row (trailStop config bar.row pos) with
      | some level =>
        simpa [barExits, staying, exitOf, staysAs, same, reached] using ih.cons (terms pos)
      | none =>
        simpa [barExits, staying, exitOf, staysAs, same, reached] using
          List.perm_middle.trans (ih.cons (terms pos))
    · simpa [barExits, staying, exitOf, staysAs, same] using
        List.perm_middle.trans (ih.cons (terms pos))

def OpenedBy (ts : Timestamp) (positions : List Position) : Prop :=
  ∀ pos ∈ positions, pos.openedAt ≤ ts

/-- The books are complete: every position that was opened is closed or open. -/
def Balanced (config : PocConfig) (state : PocState) : Prop :=
  ∃ closed, Booked config closed state ∧
    (closed ++ state.positions.map terms).Perm
      (state.openings.map (fun opening => terms opening.position))

theorem exitPass_balanced {config : PocConfig} {bar : Bar} {state : PocState}
    (opened : OpenedBy bar.ts state.positions) (balanced : Balanced config state) :
    Balanced config (exitPass config state bar) := by
  obtain ⟨closed, booked, complete⟩ := balanced
  rw [exitPass_eq]
  have before : ∀ exit ∈ barExits config bar state.positions, exit.position.openedAt ≤ bar.ts := by
    intro exit member
    obtain ⟨pos, held, left⟩ := List.mem_filterMap.mp member
    rw [(exitOf_level left).2.1, trailStop_eq]
    exact opened pos held
  have settled := settled_booked before booked
  refine ⟨_, ⟨settled.records, settled.equity⟩, ?_⟩
  dsimp only
  rw [settleExit_fold_openings, List.append_assoc]
  exact ((barExits_staying_perm config bar state.positions).append_left closed).trans complete

theorem exitPass_openedBy {config : PocConfig} {bar : Bar} {state : PocState} {ts : Timestamp}
    (opened : OpenedBy ts state.positions) :
    OpenedBy ts (exitPass config state bar).positions := by
  rw [exitPass_eq]
  intro pos member
  obtain ⟨original, held, stays⟩ := List.mem_filterMap.mp member
  have kept : pos.openedAt = original.openedAt := by
    unfold staysAs at stays
    split at stays
    · split at stays
      · exact absurd stays (by simp)
      · rw [← Option.some.inj stays, trailStop_eq]
    · rw [← Option.some.inj stays]
  exact kept ▸ opened original held

theorem attempt_balanced {config : PocConfig} {bar : Bar} {state next : PocState}
    {spec : EntrySpec} (balanced : Balanced config state)
    (attempted : attemptOpenPosition config bar.ts bar.row state spec = .ok next) :
    Balanced config next := by
  obtain ⟨closed, booked, complete⟩ := balanced
  rcases attemptOpenPosition_cases attempted with rfl | rfl | ⟨_, _, quote, -, -, rfl⟩
  · exact ⟨closed, booked, complete⟩
  · exact ⟨closed, ⟨booked.records, booked.equity⟩, complete⟩
  · refine ⟨closed, ⟨booked.records, booked.equity⟩, ?_⟩
    simp only [openPosition, afterDraw, List.map_append, List.map_singleton, ← List.append_assoc]
    exact complete.append_right _

theorem attempt_openedBy {config : PocConfig} {bar : Bar} {state next : PocState}
    {spec : EntrySpec} {ts : Timestamp} (reached : bar.ts ≤ ts)
    (opened : OpenedBy ts state.positions)
    (attempted : attemptOpenPosition config bar.ts bar.row state spec = .ok next) :
    OpenedBy ts next.positions := by
  rcases attemptOpenPosition_cases attempted with rfl | rfl | ⟨_, _, quote, -, -, rfl⟩
  · exact opened
  · exact opened
  · intro pos member
    rcases List.mem_append.mp member with earlier | now
    · exact opened pos earlier
    · rw [List.mem_singleton.mp now]
      exact reached

/-! ## Whole runs -/

theorem stepBar_balanced {config : PocConfig} {bar : Bar} {state : PocState}
    (opened : OpenedBy bar.ts state.positions) (balanced : Balanced config state) :
    Balanced config (stepBar config state bar) ∧
      OpenedBy bar.ts (stepBar config state bar).positions := by
  refine stepBar_preserves (fun state => Balanced config state ∧ OpenedBy bar.ts state.positions)
    ?_ ?_ ?_ ⟨balanced, opened⟩
  · rintro state pending curve failure ⟨⟨closed, booked, complete⟩, opened⟩
    exact ⟨⟨closed, ⟨booked.records, booked.equity⟩, complete⟩, opened⟩
  · rintro ⟨balanced, opened⟩
    exact ⟨exitPass_balanced opened balanced, exitPass_openedBy opened⟩
  · rintro attempt - next ⟨balanced, opened⟩ attempted
    exact ⟨attempt_balanced balanced attempted,
      attempt_openedBy (le_refl bar.ts) opened attempted⟩

/-- The event loop keeps the books complete, and no position is opened after
the last event. -/
theorem loop_balanced {config : PocConfig} {events : List Bar} {state : PocState}
    (sorted : events.Pairwise (fun left right => left.ts ≤ right.ts))
    (opened : ∀ bar ∈ events, OpenedBy bar.ts state.positions)
    (balanced : Balanced config state) :
    Balanced config (events.foldl (stepBar config) state) ∧
      ∀ last, events.getLast? = some last →
        OpenedBy last.ts (events.foldl (stepBar config) state).positions := by
  induction events generalizing state with
  | nil => exact ⟨balanced, fun last ended => by simp at ended⟩
  | cons bar rest ih =>
    obtain ⟨later, sorted⟩ := List.pairwise_cons.mp sorted
    obtain ⟨stepped, now⟩ := stepBar_balanced (opened bar List.mem_cons_self) balanced
    have before : ∀ other ∈ rest, OpenedBy other.ts (stepBar config state bar).positions :=
      fun other member pos held => (now pos held).trans (later other member)
    obtain ⟨looped, ended⟩ := ih sorted before stepped
    refine ⟨looped, fun last final => ?_⟩
    cases rest with
    | nil =>
      obtain rfl : bar = last := by simpa using final
      exact now
    | cons next others =>
      rw [List.getLast?_cons_cons] at final
      exact ended last final

theorem eventStream_sorted (bars : List Bar) :
    (eventStream bars).Pairwise (fun left right => left.ts ≤ right.ts) :=
  List.pairwise_insertionSort _ bars

theorem initialState_balanced (config : PocConfig) : Balanced config (initialState config) :=
  ⟨[], ⟨.nil, by simp [initialState, results]⟩, by simp [initialState]⟩

theorem closeResidual_balanced {config : PocConfig} {bars : List Bar} {ts : Timestamp}
    {state : PocState} (opened : OpenedBy ts state.positions) (balanced : Balanced config state) :
    Balanced config (closeResidual config bars ts state) := by
  obtain ⟨closed, booked, complete⟩ := balanced
  have before : ∀ exit ∈ residualExits bars state.positions, exit.position.openedAt ≤ ts := by
    intro exit member
    obtain ⟨pos, held, rfl⟩ := List.mem_map.mp member
    exact opened pos held
  have settled := settled_booked before booked
  rw [closeResidual_eq]
  refine ⟨_, ⟨settled.records, settled.equity⟩, ?_⟩
  dsimp only
  rw [settleExit_fold_openings]
  simpa [residualExits, Function.comp_def] using complete

theorem simulate_balanced (config : PocConfig) (bars : List Bar)
    (returned : (simulatePaperPoc config bars).failure = none) :
    (simulatePaperPoc config bars).positions = [] ∧
      Balanced config (simulatePaperPoc config bars) := by
  obtain ⟨looped, ended⟩ := loop_balanced (eventStream_sorted bars)
    (fun bar _ pos held => absurd held (by simp [initialState])) (initialState_balanced config)
  unfold simulatePaperPoc at returned ⊢
  dsimp only at returned ⊢
  cases final : (eventStream bars).getLast? with
  | none =>
    rw [List.getLast?_eq_none_iff.mp final] at looped ⊢
    exact ⟨rfl, looped⟩
  | some last =>
    simp only [final] at returned ⊢
    split
    · rename_i stopped
      rw [if_pos stopped] at returned
      rcases stopped with failed | empty
      · rw [returned] at failed
        exact absurd failed (by simp)
      · exact ⟨empty, looped⟩
    · exact ⟨rfl, closeResidual_balanced (ended last final) looped⟩

/-- No position is open, each that was opened has its one trade record, and
the equity is accounted for by these trades before rounding. -/
def Conserved (config : PocConfig) (run : PocState) : Prop :=
  run.positions = [] ∧ ∃ closed : List Position,
    closed.Perm (run.openings.map (·.position)) ∧
    List.Forall₂ (Closes config) closed run.trades ∧
    run.equity = config.settings.baseEquity + (results config closed run.trades).sum

theorem equity_conserved (config : PocConfig) (bars : List Bar)
    (returned : (simulatePaperPoc config bars).failure = none) :
    Conserved config (simulatePaperPoc config bars) := by
  obtain ⟨empty, closed, booked, complete⟩ := simulate_balanced config bars returned
  rw [empty, List.map_nil, List.append_nil] at complete
  have mapped : closed.Perm (((simulatePaperPoc config bars).openings.map (·.position)).map
      terms) := by
    rwa [List.map_map]
  obtain ⟨opened, rfl, lifted⟩ := (congrFun₂ (List.eq_map_comp_perm terms) closed _).mpr mapped
  refine ⟨empty, opened, lifted, ?_, ?_⟩
  · exact (List.forall₂_map_left_iff.mp booked.records).imp fun pos trade record =>
      ⟨record.strategyId, record.symbol, record.direction, record.entry, record.target,
        record.openedAt, record.closedAt, record.rMultiple, record.pnl⟩
  · rw [booked.equity, results, List.zipWith_map_left]
    rfl

/-- Two positions that are open at once: the yen is trailed, the euro stopped. -/
def pairBars : List Bar :=
  [morningBar 0 100 100 100 [{ strategyId := "m1" }],
    { morningBar 0 100 100 100 [{ strategyId := "m1" }] with symbol := "EURUSD" },
    morningBar 5 103 101 102 [], { morningBar 5 100 99 99 [] with symbol := "EURUSD" }]

theorem equity_conserved_pair :
    (((eventStream pairBars).take 2).foldl (stepBar trailingPoc)
        (initialState trailingPoc)).positions.length = 2 ∧
      (simulatePaperPoc trailingPoc pairBars).trades.length = 2 ∧
        Conserved trailingPoc (simulatePaperPoc trailingPoc pairBars) :=
  ⟨by decide +kernel, by decide +kernel, equity_conserved trailingPoc pairBars (by decide +kernel)⟩

end FxToushi.Backtest
