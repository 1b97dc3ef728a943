import FxToushi.Backtest.PaperPoc
import FxToushi.Data.Runs
import Mathlib.Tactic.Linarith

namespace FxToushi.Backtest

open Data Py

/-! # Exits of the bar loop

A bar closes the positions it takes out one after the other.  Here the pass is
split into the exits it makes and the positions that stay, and the prices of
the exits are compared with what was traded on the bar.
-/

/-- A position as it leaves, its stop trailed, with the price before costs. -/
structure Exit where
  position : Position
  level : Rat
deriving Repr, DecidableEq

def exitOf (config : PocConfig) (bar : Bar) (pos : Position) : Option Exit :=
  if pos.symbol = bar.symbol then
    (exitLevel bar.ts bar.row (trailStop config bar.row pos)).map
      (fun level => { position := trailStop config bar.row pos, level })
  else none

def staysAs (config : PocConfig) (bar : Bar) (pos : Position) : Option Position :=
  if pos.symbol = bar.symbol then
    match exitLevel bar.ts bar.row (trailStop config bar.row pos) with
    | some _ => none
    | none => some (trailStop config bar.row pos)
  else some pos

def barExits (config : PocConfig) (bar : Bar) (positions : List Position) : List Exit :=
  positions.filterMap (exitOf config bar)

def staying (config : PocConfig) (bar : Bar) (positions : List Position) : List Position :=
  positions.filterMap (staysAs config bar)

def settleExit (config : PocConfig) (ts : Timestamp) (state : PocState) (exit : Exit) : PocState :=
  settle config ts exit.position exit.level state

theorem managePositions_eq (config : PocConfig) (bar : Bar) (positions : List Position)
    (state : PocState) :
    managePositions config bar state positions =
      ((barExits config bar positions).foldl (settleExit config bar.ts) state,
        staying config bar positions) := by
  induction positions generalizing state with
  | nil => rfl
  | cons pos rest ih =>
    by_cases same : pos.symbol = bar.symbol
    · cases reached : exitLevel bar.ts bar.row (trailStop config bar.row pos) with
      | some level =>
        simp [managePositions, barExits, staying, exitOf, staysAs, settleExit, same, reached,
          ih]
      | none =>
        simp [managePositions, barExits, staying, exitOf, staysAs, same, reached, ih]
    · simp [managePositions, barExits, staying, exitOf, staysAs, same, ih]

theorem exitPass_eq (config : PocConfig) (state : PocState) (bar : Bar) :
    exitPass config state bar =
      { (barExits config bar state.positions).foldl (settleExit config bar.ts) state with
        positions := staying config bar state.positions } := by
  simp only [exitPass, managePositions_eq]

/-! ## Openings -/

theorem settleExit_fold_openings (config : PocConfig) (ts : Timestamp) (exits : List Exit)
    (state : PocState) :
    (exits.foldl (settleExit config ts) state).openings = state.openings := by
  induction exits generalizing state with
  | nil => rfl
  | cons exit rest ih => exact ih _

theorem exitPass_openings (config : PocConfig) (state : PocState) (bar : Bar) :
    (exitPass config state bar).openings = state.openings := by
  rw [exitPass_eq]
  exact settleExit_fold_openings config bar.ts _ state

/-- The positions left at the end, each at the last close of its symbol. -/
def residualExits (bars : List Bar) (positions : List Position) : List Exit :=
  positions.map (fun pos => { position := pos, level := lastClose bars pos.symbol })

theorem closeResidual_eq (config : PocConfig) (bars : List Bar) (ts : Timestamp)
    (state : PocState) :
    closeResidual config bars ts state =
      let settled := (residualExits bars state.positions).foldl (settleExit config ts) state
      { settled with positions := [], curve := settled.curve ++ [settled.equity] } := by
  simp only [closeResidual, residualExits, List.foldl_map]
  rfl

theorem simulate_openings (config : PocConfig) (bars : List Bar) :
    (simulatePaperPoc config bars).openings =
      (runFrom (stepBar config) (initialState config) (eventStream bars)).openings := by
  unfold simulatePaperPoc
  dsimp only
  split
  · split
    · rfl
    · rw [closeResidual_eq]
      exact settleExit_fold_openings ..
  · rfl

theorem exitOf_level {config : PocConfig} {bar : Bar} {pos : Position} {exit : Exit}
    (left : exitOf config bar pos = some exit) :
    pos.symbol = bar.symbol ∧ exit.position = trailStop config bar.row pos ∧
      exitLevel bar.ts bar.row (trailStop config bar.row pos) = some exit.level := by
  unfold exitOf at left
  split at left
  · rename_i same
    obtain ⟨level, reached, rfl⟩ := Option.map_eq_some_iff.mp left
    exact ⟨same, rfl, reached⟩
  · exact absurd left (by simp)

/-! ## Trailing -/

/-- The level the bar's own extreme pulls the stop to. -/
def trailLevel (config : PocConfig) (row : Row) (direction : String) : Option Rat :=
  config.trailAtrMult.bind fun multiple =>
    let atr := row.atr.getD 0
    if 0 < atr then
      let distance := max (5 / 100) (atr * multiple)
      some (if direction = "long" then row.high - distance else row.low + distance)
    else none

def pulledStop (pos : Position) : Option Rat → Rat
  | none => pos.stop
  | some level => if pos.direction = "long" then max pos.stop level else min pos.stop level

theorem trailStop_eq (config : PocConfig) (row : Row) (pos : Position) :
    trailStop config row pos =
      { pos with stop := pulledStop pos (trailLevel config row pos.direction) } := by
  unfold trailStop trailLevel
  cases config.trailAtrMult with
  | none => rfl
  | some multiple =>
    by_cases moving : 0 < row.atr.getD 0
    · by_cases long : pos.direction = "long" <;> simp [pulledStop, moving, long]
    · simp [pulledStop, moving]

@[simp] theorem trailStop_direction (config : PocConfig) (row : Row) (pos : Position) :
    (trailStop config row pos).direction = pos.direction := by rw [trailStop_eq]

@[simp] theorem trailStop_symbol (config : PocConfig) (row : Row) (pos : Position) :
    (trailStop config row pos).symbol = pos.symbol := by rw [trailStop_eq]

@[simp] theorem trailStop_target (config : PocConfig) (row : Row) (pos : Position) :
    (trailStop config row pos).target = pos.target := by rw [trailStop_eq]

/-! ## Prices within the bar -/

structure Row.Shaped (row : Row) : Prop where
  openWithin : ∀ price, row.openPrice = some price → row.low ≤ price ∧ price ≤ row.high
  closeWithin : row.low ≤ row.close ∧ row.close ≤ row.high

def hitsStop (row : Row) (pos : Position) : Prop :=
  if pos.direction = "long" then row.low ≤ pos.stop else pos.stop ≤ row.high

/-- The exit of a position that entered the bar as `pos`: its price was traded
on the bar, and a stop was in force before the bar could move it. -/
structure Achievable (row : Row) (pos : Position) (exit : Exit) : Prop where
  traded : row.low ≤ exit.level ∧ exit.level ≤ row.high
  inForce : hitsStop row exit.position → exit.level = pos.stop

instance (row : Row) (pos : Position) : Decidable (hitsStop row pos) :=
  inferInstanceAs
    (Decidable (if pos.direction = "long" then row.low ≤ pos.stop else pos.stop ≤ row.high))

instance (row : Row) (pos : Position) (exit : Exit) : Decidable (Achievable row pos exit) :=
  decidable_of_iff
    ((row.low ≤ exit.level ∧ exit.level ≤ row.high) ∧
      (hitsStop row exit.position → exit.level = pos.stop))
    ⟨fun holds => ⟨holds.1, holds.2⟩, fun holds => ⟨holds.traded, holds.inForce⟩⟩

/-- The bar does not gap over the stop or the target of a position, and does
not pull the stop to a price it trades at itself. -/
structure WithinReach (config : PocConfig) (row : Row) (pos : Position) : Prop where
  stop : if pos.direction = "long" then pos.stop ≤ row.high else row.low ≤ pos.stop
  target : if pos.direction = "long" then pos.stop < row.low → row.low ≤ pos.target
    else row.high < pos.stop → pos.target ≤ row.high
  trailed : ∀ level, trailLevel config row pos.direction = some level →
    if pos.direction = "long" then level ≤ pos.stop ∨ level < row.low
    else pos.stop ≤ level ∨ row.high < level

instance (config : PocConfig) (row : Row) (pos : Position) :
    Decidable (WithinReach config row pos) :=
  decidable_of_iff
    ((if pos.direction = "long" then pos.stop ≤ row.high else row.low ≤ pos.stop) ∧
      (if pos.direction = "long" then pos.stop < row.low → row.low ≤ pos.target
        else row.high < pos.stop → pos.target ≤ row.high) ∧
      ∀ level ∈ trailLevel config row pos.direction,
        if pos.direction = "long" then level ≤ pos.stop ∨ level < row.low
        else pos.stop ≤ level ∨ row.high < level)
    ⟨fun holds => ⟨holds.1, holds.2.1, holds.2.2⟩,
      fun reach => ⟨reach.stop, reach.target, reach.trailed⟩⟩

section Side

/-! ### One side of the market

A long position looks at the bar as it is, a short one with the order of
prices turned around.
-/

variable {Price : Type*} [LinearOrder Price] {low high stop pulled target : Price}
  {expired : Option Price}

def leaveAt (low high stop target : Price) (expired : Option Price) : Option Price :=
  if low ≤ stop then some stop else if target ≤ high then some target else expired

theorem leaveAt_achievable_iff (shape : low ≤ high) (moved : stop ≤ pulled)
    (closing : ∀ price, expired = some price → low ≤ price ∧ price ≤ high) :
    (∀ level, leaveAt low high pulled target expired = some level →
        (low ≤ level ∧ level ≤ high) ∧ (low ≤ pulled → level = stop)) ↔
      stop ≤ high ∧ (stop < low → low ≤ target) ∧ (pulled = stop ∨ pulled < low) := by
  rcases le_or_gt low pulled with hit | clear
  · have leaving : leaveAt low high pulled target expired = some pulled := if_pos hit
    simp only [leaving, Option.some.injEq, forall_eq', hit, true_implies, true_and]
    constructor
    · rintro ⟨traded, inForce⟩
      subst inForce
      exact ⟨traded, fun below => absurd hit (not_le.mpr below), .inl rfl⟩
    · rintro ⟨traded, -, same | below⟩
      · exact ⟨same ▸ traded, same⟩
      · exact absurd hit (not_le.mpr below)
  · have below : stop < low := lt_of_le_of_lt moved clear
    have missed : leaveAt low high pulled target expired =
        if target ≤ high then some target else expired := if_neg (not_le.mpr clear)
    have before : stop ≤ high := below.le.trans shape
    simp only [missed, before, below, clear, not_le.mpr clear, false_implies, true_implies,
      and_true, true_and, or_true]
    by_cases reached : target ≤ high
    · rw [if_pos reached]
      simp only [Option.some.injEq, forall_eq', reached, and_true]
    · rw [if_neg reached]
      exact ⟨fun _ => shape.trans (not_le.mp reached).le, fun _ => closing⟩

theorem max_kept_iff {level : Price} :
    (max stop level = stop ∨ max stop level < low) ↔ (level ≤ stop ∨ level < low) := by
  rw [max_eq_left_iff, max_lt_iff]
  constructor
  · rintro (kept | ⟨-, below⟩)
    · exact .inl kept
    · exact .inr below
  · rintro (kept | below)
    · exact .inl kept
    · rcases le_total level stop with kept | moved
      · exact .inl kept
      · exact .inr ⟨lt_of_le_of_lt moved below, below⟩

end Side

theorem exitLevel_long {ts : Timestamp} {row : Row} {pos : Position}
    (long : pos.direction = "long") :
    exitLevel ts row pos = leaveAt row.low row.high pos.stop pos.target
      (if pos.expireAt ≤ ts then some row.close else none) := by
  simp only [exitLevel, leaveAt, if_pos long]

open OrderDual in
theorem exitLevel_short {ts : Timestamp} {row : Row} {pos : Position}
    (short : pos.direction ≠ "long") :
    exitLevel ts row pos = leaveAt (toDual row.high) (toDual row.low) (toDual pos.stop)
      (toDual pos.target) (if pos.expireAt ≤ ts then some row.close else none) := by
  simp only [exitLevel, leaveAt, if_neg short, toDual_le_toDual]
  rfl

theorem forall_exitOf_iff {config : PocConfig} {bar : Bar} {pos : Position} {good : Exit → Prop}
    (same : pos.symbol = bar.symbol) :
    (∀ exit ∈ exitOf config bar pos, good exit) ↔
      ∀ level, exitLevel bar.ts bar.row (trailStop config bar.row pos) = some level →
        good { position := trailStop config bar.row pos, level } := by
  simp only [exitOf, if_pos same, Option.mem_def, Option.map_eq_some_iff]
  constructor
  · intro every level reached
    exact every _ ⟨level, reached, rfl⟩
  · rintro every exit ⟨level, reached, rfl⟩
    exact every level reached

theorem achievable_long {config : PocConfig} {row : Row} {pos : Position} {level : Rat}
    (long : pos.direction = "long") :
    Achievable row pos { position := trailStop config row pos, level } ↔
      (row.low ≤ level ∧ level ≤ row.high) ∧
        (row.low ≤ (trailStop config row pos).stop → level = pos.stop) := by
  have hit : hitsStop row (trailStop config row pos) ↔
      row.low ≤ (trailStop config row pos).stop := by
    rw [hitsStop, if_pos (by rwa [trailStop_direction])]
  exact ⟨fun holds => ⟨holds.traded, fun reached => holds.inForce (hit.mpr reached)⟩,
    fun holds => ⟨holds.1, fun reached => holds.2 (hit.mp reached)⟩⟩

theorem achievable_short {config : PocConfig} {row : Row} {pos : Position} {level : Rat}
    (short : pos.direction ≠ "long") :
    Achievable row pos { position := trailStop config row pos, level } ↔
      (level ≤ row.high ∧ row.low ≤ level) ∧
        ((trailStop config row pos).stop ≤ row.high → level = pos.stop) := by
  have hit : hitsStop row (trailStop config row pos) ↔
      (trailStop config row pos).stop ≤ row.high := by
    rw [hitsStop, if_neg (by rwa [trailStop_direction])]
  exact ⟨fun holds => ⟨holds.traded.symm, fun reached => holds.inForce (hit.mpr reached)⟩,
    fun holds => ⟨holds.1.symm, fun reached => holds.2 (hit.mp reached)⟩⟩

theorem trailStop_long {config : PocConfig} {row : Row} {pos : Position}
    (long : pos.direction = "long") :
    (trailStop config row pos).stop =
      (trailLevel config row pos.direction).elim pos.stop (max pos.stop) := by
  rw [trailStop_eq]
  cases trailLevel config row pos.direction with
  | none => rfl
  | some level => exact if_pos long

theorem trailStop_short {config : PocConfig} {row : Row} {pos : Position}
    (short : pos.direction ≠ "long") :
    (trailStop config row pos).stop =
      (trailLevel config row pos.direction).elim pos.stop (min pos.stop) := by
  rw [trailStop_eq]
  cases trailLevel config row pos.direction with
  | none => rfl
  | some level => exact if_neg short

theorem withinReach_long {config : PocConfig} {row : Row} {pos : Position}
    (long : pos.direction = "long") :
    WithinReach config row pos ↔ pos.stop ≤ row.high ∧ (pos.stop < row.low → row.low ≤ pos.target) ∧
      ((trailStop config row pos).stop = pos.stop ∨ (trailStop config row pos).stop < row.low) := by
  have trailed : (∀ level, trailLevel config row pos.direction = some level →
        level ≤ pos.stop ∨ level < row.low) ↔
      ((trailStop config row pos).stop = pos.stop ∨ (trailStop config row pos).stop < row.low) := by
    rw [trailStop_long long]
    cases trailLevel config row pos.direction with
    | none => simp
    | some level =>
      simp only [Option.some.injEq, forall_eq', Option.elim_some]
      exact max_kept_iff.symm
  rw [← trailed]
  constructor
  · rintro ⟨stop, target, moved⟩
    simp only [if_pos long] at stop target moved
    exact ⟨stop, target, moved⟩
  · rintro ⟨stop, target, moved⟩
    refine ⟨?_, ?_, ?_⟩ <;> simpa only [if_pos long]

theorem withinReach_short {config : PocConfig} {row : Row} {pos : Position}
    (short : pos.direction ≠ "long") :
    WithinReach config row pos ↔ row.low ≤ pos.stop ∧
      (row.high < pos.stop → pos.target ≤ row.high) ∧
      ((trailStop config row pos).stop = pos.stop ∨
        row.high < (trailStop config row pos).stop) := by
  have trailed : (∀ level, trailLevel config row pos.direction = some level →
        pos.stop ≤ level ∨ row.high < level) ↔
      ((trailStop config row pos).stop = pos.stop ∨
        row.high < (trailStop config row pos).stop) := by
    rw [trailStop_short short]
    cases trailLevel config row pos.direction with
    | none => simp
    | some level =>
      simp only [Option.some.injEq, forall_eq', Option.elim_some]
      exact (@max_kept_iff Ratᵒᵈ _ row.high pos.stop level).symm
  rw [← trailed]
  constructor
  · rintro ⟨stop, target, moved⟩
    simp only [if_neg short] at stop target moved
    exact ⟨stop, target, moved⟩
  · rintro ⟨stop, target, moved⟩
    refine ⟨?_, ?_, ?_⟩ <;> simpa only [if_neg short]

/-- The exit a bar makes of a position is achievable exactly when the position
is within the bar's reach. -/
theorem exit_achievable_iff {config : PocConfig} {bar : Bar} {pos : Position}
    (shaped : bar.row.Shaped) (same : pos.symbol = bar.symbol) :
    (∀ exit ∈ exitOf config bar pos, Achievable bar.row pos exit) ↔
      WithinReach config bar.row pos := by
  have shape : bar.row.low ≤ bar.row.high := shaped.closeWithin.1.trans shaped.closeWithin.2
  have closing : ∀ price,
      (if (trailStop config bar.row pos).expireAt ≤ bar.ts then some bar.row.close else none) =
        some price → bar.row.low ≤ price ∧ price ≤ bar.row.high := by
    intro price expired
    split at expired
    · exact Option.some.inj expired ▸ shaped.closeWithin
    · exact absurd expired (by simp)
  rw [forall_exitOf_iff same]
  by_cases long : pos.direction = "long"
  · have moved : pos.stop ≤ (trailStop config bar.row pos).stop := by
      rw [trailStop_long long]
      cases trailLevel config bar.row pos.direction with
      | none => exact le_refl _
      | some level => exact le_max_left _ _
    rw [exitLevel_long (by rwa [trailStop_direction]), withinReach_long long]
    simp only [achievable_long long]
    rw [leaveAt_achievable_iff shape moved closing, trailStop_target]
  · have moved : (trailStop config bar.row pos).stop ≤ pos.stop := by
      rw [trailStop_short long]
      cases trailLevel config bar.row pos.direction with
      | none => exact le_refl _
      | some level => exact min_le_left _ _
    rw [exitLevel_short (by rwa [trailStop_direction]), withinReach_short long,
      ← trailStop_target config bar.row pos]
    simp only [achievable_short long]
    exact @leaveAt_achievable_iff Ratᵒᵈ _ bar.row.high bar.row.low pos.stop
      (trailStop config bar.row pos).stop (trailStop config bar.row pos).target _ shape moved
      (fun price expired => (closing price expired).symm)

/-! ## Whole runs -/

def ExitsAchievable (config : PocConfig) (bars : List Bar) : Prop :=
  EachStep (stepBar config)
    (fun state bar => state.failure = none → ∀ pos ∈ state.positions,
      ∀ exit ∈ exitOf config bar pos, Achievable bar.row pos exit)
    (initialState config) (eventStream bars)

def StaysWithinReach (config : PocConfig) (bars : List Bar) : Prop :=
  EachStep (stepBar config)
    (fun state bar => state.failure = none → ∀ pos ∈ state.positions,
      pos.symbol = bar.symbol → WithinReach config bar.row pos)
    (initialState config) (eventStream bars)

theorem mem_eventStream {bars : List Bar} {bar : Bar} : bar ∈ eventStream bars ↔ bar ∈ bars :=
  List.mem_insertionSort _

theorem exitsAchievable_iff {config : PocConfig} {bars : List Bar}
    (shaped : ∀ bar ∈ bars, bar.row.Shaped) :
    ExitsAchievable config bars ↔ StaysWithinReach config bars := by
  refine eachStep_congr fun bar member state => ?_
  refine imp_congr_right fun _ => forall₂_congr fun pos _ => ?_
  by_cases same : pos.symbol = bar.symbol
  · rw [exit_achievable_iff (shaped bar (mem_eventStream.mp member)) same]
    exact ⟨fun reach _ => reach, fun reach => reach same⟩
  · have none : exitOf config bar pos = none := if_neg same
    simp [none, same]

def trailingPoc : PocConfig where
  settings := { baseEquity := 1000, basePerTradePct := 1 }
  primaryStrategy := "m1"
  spreadPips := 0
  entryOnNextBar := false
  trailAtrMult := some ⟨1, by norm_num⟩

def morningBar (minute : Int) (high low close : Rat) (signals : List PocSignal) : Bar where
  ts := Timestamp.fromMinutes (480 + minute)
  symbol := "USDJPY"
  row := { openPrice := some close, high, low, close, atr := some 1 }
  signals

theorem morningBar_shaped {minute : Int} {high low close : Rat} {signals : List PocSignal}
    (below : low ≤ close) (above : close ≤ high) :
    (morningBar minute high low close signals).row.Shaped :=
  ⟨fun _ opened => Option.some.inj opened ▸ ⟨below, above⟩, below, above⟩

/-- A long position that reaches its stop on the next bar. -/
theorem exitsAchievable_stopped :
    ExitsAchievable trailingPoc
      [morningBar 0 100 100 100 [{ strategyId := "m1" }], morningBar 5 100 99 99 []] := by
  refine (exitsAchievable_iff ?_).mpr ?_
  · refine List.forall_mem_cons.mpr ⟨morningBar_shaped ?_ ?_, List.forall_mem_singleton.mpr
      (morningBar_shaped ?_ ?_)⟩ <;> norm_num
  · unfold StaysWithinReach
    decide +kernel

def trailedBars : List Bar :=
  [morningBar 0 100 100 100 [{ strategyId := "m1" }], morningBar 5 103 101 102 []]

/-- The stop is pulled up by the high of the bar and then met by its low. -/
theorem exits_not_achievable :
    ¬ ∀ config bars, (∀ bar ∈ bars, bar.row.Shaped) → ExitsAchievable config bars := by
  intro holds
  have shaped : ∀ bar ∈ trailedBars, bar.row.Shaped := by
    refine List.forall_mem_cons.mpr ⟨morningBar_shaped ?_ ?_, List.forall_mem_singleton.mpr
      (morningBar_shaped ?_ ?_)⟩ <;> norm_num
  have achieved := holds trailingPoc trailedBars shaped
  unfold ExitsAchievable at achieved
  exact absurd achieved (by decide +kernel)

end FxToushi.Backtest
