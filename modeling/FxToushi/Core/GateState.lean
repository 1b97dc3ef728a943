import FxToushi.Data.Dict
import FxToushi.Py.Number
import FxToushi.Py.Text

namespace FxToushi.Core

open Data Py

/-! # Gate state records

The dataclasses of the gate snapshot.  The state words are plain strings: the
sources annotate them with literal types but neither the constructors nor
`from_dict` check them, and the guard evaluators compare words, such as
`block`, that the annotations leave out.
-/

structure NewsGateState where
  blocked : Bool
  reason : Option String := none
  releaseTs : Option Timestamp := none
deriving Repr, DecidableEq

structure CalendarGateState where
  blocked : Bool
  holidayBlock : Bool
  reason : Option String := none
deriving Repr, DecidableEq

structure SpreadGateState where
  state : String
  reason : Option String := none
  cooldownEta : Option Timestamp := none
deriving Repr, DecidableEq

structure LiquidityGateState where
  state : String
  recommendation : Option String := none
  updatedAt : Option Timestamp := none
deriving Repr, DecidableEq

structure GateBlockState where
  news : Option NewsGateState := none
  calendar : Option CalendarGateState := none
  spread : Option SpreadGateState := none
deriving Repr, DecidableEq

def GateBlockState.isEmpty (block : GateBlockState) : Bool :=
  block.news.isNone && block.calendar.isNone && block.spread.isNone

structure MarketGateState where
  news : NewsGateState
  calendar : CalendarGateState
  spread : SpreadGateState
  liquidity : LiquidityGateState
  latencyDataStatus : String := "ok"
  slippageDataStatus : String := "ok"
  profitReadinessStatus : String := "ok"
  perSymbol : Dict String GateBlockState := Dict.empty
deriving DecidableEq

def MarketGateState.default : MarketGateState where
  news := { blocked := false }
  calendar := { blocked := false, holidayBlock := false }
  spread := { state := "normal" }
  liquidity := { state := "normal" }

structure RiskGateState where
  reduceOnly : Bool
  reduceOnlyReason : Option String := none
  killSwitchRecommendation : Option String := none
  killSwitchReason : Option String := none
deriving Repr, DecidableEq

def RiskGateState.default : RiskGateState where
  reduceOnly := false

structure HumanGateState where
  doubleEntryRequired : Bool
  requiredRoles : List String
  acknowledgedRoles : List String
  manualCommentRequired : Bool
  commentMinLength : Int
  ackDeadline : Option Timestamp := none
deriving Repr, DecidableEq

def HumanGateState.default : HumanGateState where
  doubleEntryRequired := false
  requiredRoles := []
  acknowledgedRoles := []
  manualCommentRequired := false
  commentMinLength := 0

structure GateState where
  market : MarketGateState := MarketGateState.default
  risk : RiskGateState := RiskGateState.default
  human : HumanGateState := HumanGateState.default
  autoExecute : Bool := false
  cfgHash : Option String := none
  dataHash : Option String := none
  schemaVersion : Option String := none
deriving DecidableEq

namespace GateState

def default : GateState := {}

end GateState

end FxToushi.Core

namespace FxToushi.Risk

open FxToushi.Core

structure RiskAssessment where
  riskState : RiskGateState
  killSwitchSuggestion : Option String
  killSwitchReason : Option String
  fundingRate : Option Rat := none
deriving Repr, DecidableEq

end FxToushi.Risk
