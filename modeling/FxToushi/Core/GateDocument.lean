import FxToushi.Core.GateAggregator
import FxToushi.Py.Containers
import FxToushi.Py.Extended
import FxToushi.Py.JsonIndent
import FxToushi.Py.JsonSorted

namespace FxToushi.Core.GateDocument

open Data Py

/-! # The gate state as a document

The records of the gate as they are read from a file and written to one.  The
words and the reasons are read back unchecked, so they are values.  A reading
that raises, for whatever reason, has no result.
-/

/-- `datetime.isoformat` and `datetime.fromisoformat`. -/
structure IsoFormat (Moment : Type) where
  isoformat : Moment → String
  fromisoformat : String → Option Moment

/-- The text of every moment is read as this moment; it has an offset in digits and no blanks
around it. -/
class IsoFormat.ReadsBack {Moment : Type} (iso : IsoFormat Moment) : Prop where
  inverse : ∀ moment, iso.fromisoformat (iso.isoformat moment) = some moment
  unpadded : ∀ moment, strip (iso.isoformat moment) = iso.isoformat moment
  offset : ∀ moment, (iso.isoformat moment).toList.getLast? ≠ some 'Z'

/-- `bool(value)`; a float that is no number, or infinite, is true. -/
def isTrue : Value → Bool
  | .float value text =>
    match Extended.read value text with
    | .finite number => number != 0
    | _ => true
  | value => value.truth

/-- `data.get(key, default)`. -/
def getOr (data : Mapping) (key : String) (default : Value := .null) : Value :=
  (data.get? key).getD default

/-- `int(value)`, with no result for a `TypeError`, `ValueError` or `OverflowError`. -/
def intOf? : Value → Option Int
  | .float value text =>
    match Extended.read value text with
    | .finite number => some (truncate number)
    | _ => none
  | value => value.toInt?

section Dates

variable {Moment : Type} (iso : IsoFormat Moment)

def datetimeToIso : Option Moment → Value
  | none => .null
  | some moment => .str (iso.isoformat moment)

def withOffset (text : String) : String :=
  if text.toList.getLast? = some 'Z' then String.ofList (text.toList.dropLast ++ "+00:00".toList)
  else text

def datetimeFromIso : Value → Option (Option Moment)
  | .null => some none
  | .str text => (iso.fromisoformat (withOffset (strip text))).map some
  | _ => none

end Dates

/-! ## The records -/

structure NewsGateState (Moment : Type) where
  blocked : Bool
  reason : Value := .null
  releaseTs : Option Moment := none

structure CalendarGateState where
  blocked : Bool
  holidayBlock : Bool
  reason : Value := .null

structure SpreadGateState (Moment : Type) where
  state : Value
  reason : Value := .null
  cooldownEta : Option Moment := none

structure LiquidityGateState (Moment : Type) where
  state : Value
  recommendation : Value := .null
  updatedAt : Option Moment := none

structure GateBlockState (Moment : Type) where
  news : Option (NewsGateState Moment) := none
  calendar : Option CalendarGateState := none
  spread : Option (SpreadGateState Moment) := none

structure MarketGateState (Moment : Type) where
  news : NewsGateState Moment
  calendar : CalendarGateState
  spread : SpreadGateState Moment
  liquidity : LiquidityGateState Moment
  latencyDataStatus : Value := .str "ok"
  slippageDataStatus : Value := .str "ok"
  profitReadinessStatus : Value := .str "ok"
  perSymbol : List (String × GateBlockState Moment) := []

structure RiskGateState where
  reduceOnly : Bool
  reduceOnlyReason : Value := .null
  killSwitchRecommendation : Value := .null
  killSwitchReason : Value := .null

structure HumanGateState (Moment : Type) where
  doubleEntryRequired : Bool
  requiredRoles : List Value
  acknowledgedRoles : List Value
  manualCommentRequired : Bool
  commentMinLength : Int
  ackDeadline : Option Moment := none

structure GateState (Moment : Type) where
  market : MarketGateState Moment
  risk : RiskGateState
  human : HumanGateState Moment
  autoExecute : Bool := false
  cfgHash : Value := .null
  dataHash : Value := .null
  schemaVersion : Value := .null

section Records

variable {Moment : Type} (iso : IsoFormat Moment)

def NewsGateState.toDict (state : NewsGateState Moment) : Value :=
  .map [("blocked", .bool state.blocked), ("reason", state.reason),
    ("release_ts", datetimeToIso iso state.releaseTs)]

def NewsGateState.fromDict (data : Value) : Option (NewsGateState Moment) := do
  let data ← data.mapping?
  let blocked ← data.get? "blocked"
  let releaseTs ← datetimeFromIso iso (getOr data "release_ts")
  return { blocked := isTrue blocked, reason := getOr data "reason", releaseTs }

def CalendarGateState.toDict (state : CalendarGateState) : Value :=
  .map [("blocked", .bool state.blocked), ("holiday_block", .bool state.holidayBlock),
    ("reason", state.reason)]

def CalendarGateState.fromDict (data : Value) : Option CalendarGateState := do
  let data ← data.mapping?
  let blocked ← data.get? "blocked"
  let holidayBlock ← data.get? "holiday_block"
  return { blocked := isTrue blocked, holidayBlock := isTrue holidayBlock,
           reason := getOr data "reason" }

def SpreadGateState.toDict (state : SpreadGateState Moment) : Value :=
  .map [("state", state.state), ("reason", state.reason),
    ("cooldown_eta", datetimeToIso iso state.cooldownEta)]

def SpreadGateState.fromDict (data : Value) : Option (SpreadGateState Moment) := do
  let data ← data.mapping?
  let state ← data.get? "state"
  let cooldownEta ← datetimeFromIso iso (getOr data "cooldown_eta")
  return { state, reason := getOr data "reason", cooldownEta }

def LiquidityGateState.toDict (state : LiquidityGateState Moment) : Value :=
  .map [("state", state.state), ("recommendation", state.recommendation),
    ("updated_at", datetimeToIso iso state.updatedAt)]

def LiquidityGateState.fromDict (data : Value) : Option (LiquidityGateState Moment) := do
  let data ← data.mapping?
  let updatedAt ← datetimeFromIso iso (getOr data "updated_at")
  return { state := getOr data "state" (.str "normal"),
           recommendation := getOr data "recommendation", updatedAt }

namespace GateBlockState

/-- The components that are there, by name. -/
def toEntries (block : GateBlockState Moment) : Mapping :=
  (block.news.map (fun news => ("news", news.toDict iso))).toList ++
    (block.calendar.map (fun calendar => ("calendar", calendar.toDict))).toList ++
    (block.spread.map (fun spread => ("spread", spread.toDict iso))).toList

/-- `from_dict(value) if value else None`. -/
def ifTrue {Image : Type} (read : Value → Option Image) (value : Value) : Option (Option Image) :=
  if isTrue value then (read value).map some else some none

def fromDict (data : Value) : Option (GateBlockState Moment) := do
  let data ← data.mapping?
  let news ← ifTrue (NewsGateState.fromDict iso) (getOr data "news")
  let calendar ← ifTrue CalendarGateState.fromDict (getOr data "calendar")
  let spread ← ifTrue (SpreadGateState.fromDict iso) (getOr data "spread")
  return { news, calendar, spread }

end GateBlockState

namespace MarketGateState

def default : MarketGateState Moment where
  news := { blocked := false }
  calendar := { blocked := false, holidayBlock := false }
  spread := { state := .str "normal" }
  liquidity := { state := .str "normal" }

/-- The blocks by sorted symbol, without those that have no component. -/
def perSymbolDict (perSymbol : List (String × GateBlockState Moment)) : Mapping :=
  perSymbol.foldr (fun entry sorted =>
    if (entry.2.toEntries iso).isEmpty then sorted
    else Json.insertEntry entry.1 (.map (entry.2.toEntries iso)) sorted) []

def toDict (market : MarketGateState Moment) : Value :=
  .map [("news", market.news.toDict iso), ("calendar", market.calendar.toDict),
    ("spread", market.spread.toDict iso), ("liquidity", market.liquidity.toDict iso),
    ("latency_data_status", market.latencyDataStatus),
    ("slippage_data_status", market.slippageDataStatus),
    ("profit_readiness_status", market.profitReadinessStatus),
    ("per_symbol", .map (perSymbolDict iso market.perSymbol))]

def blocksFrom : Mapping → Option (List (String × GateBlockState Moment))
  | [] => some []
  | (symbol, block) :: rest => do
      let first ← GateBlockState.fromDict iso block
      let later ← blocksFrom rest
      return (symbol, first) :: later

/-- `data.get("per_symbol") or {}`, which has to be a mapping. -/
def perSymbolEntries (data : Mapping) : Option Mapping :=
  let value := getOr data "per_symbol"
  if isTrue value then value.mapping? else some []

def fromDict (data : Value) : Option (MarketGateState Moment) := do
  let data ← data.mapping?
  let entries ← perSymbolEntries data
  let perSymbol ← blocksFrom iso entries
  let news ← data.get? "news" >>= NewsGateState.fromDict iso
  let calendar ← data.get? "calendar" >>= CalendarGateState.fromDict
  let spread ← data.get? "spread" >>= SpreadGateState.fromDict iso
  let liquidity ← LiquidityGateState.fromDict iso (getOr data "liquidity" (.map []))
  return { news, calendar, spread, liquidity
           latencyDataStatus := getOr data "latency_data_status" (.str "ok")
           slippageDataStatus := getOr data "slippage_data_status" (.str "ok")
           profitReadinessStatus := getOr data "profit_readiness_status" (.str "ok")
           perSymbol }

end MarketGateState

namespace RiskGateState

def default : RiskGateState where
  reduceOnly := false

def toDict (risk : RiskGateState) : Value :=
  .map [("reduce_only", .bool risk.reduceOnly), ("reduce_only_reason", risk.reduceOnlyReason),
    ("kill_switch_recommendation", risk.killSwitchRecommendation),
    ("kill_switch_reason", risk.killSwitchReason)]

def fromDict (data : Value) : Option RiskGateState := do
  let data ← data.mapping?
  let reduceOnly ← data.get? "reduce_only"
  return { reduceOnly := isTrue reduceOnly
           reduceOnlyReason := getOr data "reduce_only_reason"
           killSwitchRecommendation := getOr data "kill_switch_recommendation"
           killSwitchReason := getOr data "kill_switch_reason" }

end RiskGateState

namespace HumanGateState

def default : HumanGateState Moment where
  doubleEntryRequired := false
  requiredRoles := []
  acknowledgedRoles := []
  manualCommentRequired := false
  commentMinLength := 0

def toDict (human : HumanGateState Moment) : Value :=
  .map [("double_entry_required", .bool human.doubleEntryRequired),
    ("required_roles", .list human.requiredRoles),
    ("acknowledged_roles", .list human.acknowledgedRoles),
    ("ack_deadline", datetimeToIso iso human.ackDeadline),
    ("manual_comment_required", .bool human.manualCommentRequired),
    ("comment_min_length", .int human.commentMinLength)]

def fromDict (data : Value) : Option (HumanGateState Moment) := do
  let data ← data.mapping?
  let doubleEntryRequired ← data.get? "double_entry_required"
  let requiredRoles ← (iterate (getOr data "required_roles" (.list []))).toOption
  let acknowledgedRoles ← (iterate (getOr data "acknowledged_roles" (.list []))).toOption
  let manualCommentRequired ← data.get? "manual_comment_required"
  let commentMinLength ← data.get? "comment_min_length" >>= intOf?
  let ackDeadline ← datetimeFromIso iso (getOr data "ack_deadline")
  return { doubleEntryRequired := isTrue doubleEntryRequired, requiredRoles, acknowledgedRoles
           manualCommentRequired := isTrue manualCommentRequired, commentMinLength, ackDeadline }

end HumanGateState

namespace GateState

def default : GateState Moment where
  market := MarketGateState.default
  risk := RiskGateState.default
  human := HumanGateState.default

/-- The entry of a value that is not `None`. -/
def given (key : String) : Value → Mapping
  | .null => []
  | value => [(key, value)]

def toDict (gate : GateState Moment) : Value :=
  .map ([("market", gate.market.toDict iso), ("risk", gate.risk.toDict),
    ("human", gate.human.toDict iso), ("auto_execute", .bool gate.autoExecute)] ++
    given "cfg_hash" gate.cfgHash ++ given "data_hash" gate.dataHash ++
    given "schema_version" gate.schemaVersion)

def fromDict (data : Value) : Option (GateState Moment) := do
  let data ← data.mapping?
  let market ← data.get? "market" >>= MarketGateState.fromDict iso
  let risk ← data.get? "risk" >>= RiskGateState.fromDict
  let human ← data.get? "human" >>= HumanGateState.fromDict iso
  return { market, risk, human
           autoExecute := isTrue (getOr data "auto_execute" (.bool false))
           cfgHash := getOr data "cfg_hash"
           dataHash := getOr data "data_hash"
           schemaVersion := getOr data "schema_version" }

def toJson (gate : GateState Moment) : List Char :=
  Json.dumpsIndented 0 (Json.sortKeys (gate.toDict iso))

def fromJson (text : List Char) : Option (GateState Moment) := Json.loads text >>= fromDict iso

end GateState

end Records

/-! ## The aggregator on documents -/

section Aggregator

variable {Moment : Type}

def setAutoExecute (gate : GateState Moment) (boardMode : String) : GateState Moment :=
  { gate with
    autoExecute := lower boardMode == "normal" &&
      gate.market.profitReadinessStatus.isText "ok" && !gate.risk.reduceOnly }

def updateLiquidity (gate : GateState Moment) (liquidity : LiquidityGateState Moment) :
    GateState Moment :=
  let updated := { gate with market := { gate.market with liquidity } }
  if liquidity.state.isText "guarded" || liquidity.state.isText "halted" then
    setAutoExecute updated "guarded"
  else updated

def setHashes (gate : GateState Moment) (cfgHash dataHash : Value) : GateState Moment :=
  { gate with
    cfgHash := if isTrue cfgHash then cfgHash else gate.cfgHash
    dataHash := if isTrue dataHash then dataHash else gate.dataHash }

end Aggregator

/-! ## Gates in memory

A gate whose words are texts, as the services build it, is one of these.
-/

def ofText (text : Option String) : Value := text.elim .null .str

def ofNews (news : Core.NewsGateState) : NewsGateState Timestamp :=
  { blocked := news.blocked, reason := ofText news.reason, releaseTs := news.releaseTs }

def ofCalendar (calendar : Core.CalendarGateState) : CalendarGateState :=
  { blocked := calendar.blocked, holidayBlock := calendar.holidayBlock,
    reason := ofText calendar.reason }

def ofSpread (spread : Core.SpreadGateState) : SpreadGateState Timestamp :=
  { state := .str spread.state, reason := ofText spread.reason, cooldownEta := spread.cooldownEta }

def ofLiquidity (liquidity : Core.LiquidityGateState) : LiquidityGateState Timestamp :=
  { state := .str liquidity.state, recommendation := ofText liquidity.recommendation,
    updatedAt := liquidity.updatedAt }

def ofBlock (block : Core.GateBlockState) : GateBlockState Timestamp :=
  { news := block.news.map ofNews, calendar := block.calendar.map ofCalendar,
    spread := block.spread.map ofSpread }

def ofMarket (market : Core.MarketGateState) : MarketGateState Timestamp where
  news := ofNews market.news
  calendar := ofCalendar market.calendar
  spread := ofSpread market.spread
  liquidity := ofLiquidity market.liquidity
  latencyDataStatus := .str market.latencyDataStatus
  slippageDataStatus := .str market.slippageDataStatus
  profitReadinessStatus := .str market.profitReadinessStatus
  perSymbol := market.perSymbol.entries.map (fun entry => (entry.1, ofBlock entry.2))

def ofRisk (risk : Core.RiskGateState) : RiskGateState :=
  { reduceOnly := risk.reduceOnly, reduceOnlyReason := ofText risk.reduceOnlyReason,
    killSwitchRecommendation := ofText risk.killSwitchRecommendation,
    killSwitchReason := ofText risk.killSwitchReason }

def ofHuman (human : Core.HumanGateState) : HumanGateState Timestamp where
  doubleEntryRequired := human.doubleEntryRequired
  requiredRoles := human.requiredRoles.map .str
  acknowledgedRoles := human.acknowledgedRoles.map .str
  manualCommentRequired := human.manualCommentRequired
  commentMinLength := human.commentMinLength
  ackDeadline := human.ackDeadline

def ofGate (gate : Core.GateState) : GateState Timestamp where
  market := ofMarket gate.market
  risk := ofRisk gate.risk
  human := ofHuman gate.human
  autoExecute := gate.autoExecute
  cfgHash := ofText gate.cfgHash
  dataHash := ofText gate.dataHash
  schemaVersion := ofText gate.schemaVersion

theorem ofGate_default : ofGate Core.GateState.default = GateState.default := rfl

theorem setAutoExecute_ofGate (gate : Core.GateState) (boardMode : String) :
    setAutoExecute (ofGate gate) boardMode =
      ofGate (GateAggregator.setAutoExecute gate boardMode) := rfl

theorem updateLiquidity_ofGate (gate : Core.GateState) (liquidity : Core.LiquidityGateState) :
    updateLiquidity (ofGate gate) (ofLiquidity liquidity) =
      ofGate (GateAggregator.updateLiquidity gate (some liquidity)) := by
  rw [updateLiquidity, GateAggregator.updateLiquidity]
  by_cases thin : liquidity.state ∈ ["guarded", "halted"]
  · have same : (ofLiquidity liquidity).state.isText "guarded" ||
        (ofLiquidity liquidity).state.isText "halted" := by
      simpa [ofLiquidity, Value.isText] using thin
    rw [if_pos thin, if_pos same]
    rfl
  · have same : ¬ ((ofLiquidity liquidity).state.isText "guarded" ||
        (ofLiquidity liquidity).state.isText "halted") := by
      simpa [ofLiquidity, Value.isText] using thin
    rw [if_neg thin, if_neg same]
    rfl

theorem setHashes_ofGate (gate : Core.GateState) (cfgHash dataHash : Option String) :
    setHashes (ofGate gate) (ofText cfgHash) (ofText dataHash) =
      ofGate (GateAggregator.setHashes gate cfgHash dataHash) := by
  have truth : ∀ text : Option String, isTrue (ofText text) = truthy text := by
    intro text
    cases text <;> rfl
  rw [setHashes, GateAggregator.setHashes, truth, truth]
  cases truthy cfgHash <;> cases truthy dataHash <;> rfl

end FxToushi.Core.GateDocument
