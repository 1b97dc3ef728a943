import FxToushi.Data.Dict
import FxToushi.Data.Fallible
import FxToushi.Data.Runs
import FxToushi.Py.Extended
import Mathlib.Algebra.Order.Group.Abs

namespace FxToushi.Execution

open Data Py

/-! # Spread monitors

A frame of spread metrics is classified and the class kept per symbol.  The
second monitor first fills in the clock drift and the news of a frame that
names none.
-/

inductive SpreadCooldownState where
  | normal
  | watch
  | cooldown
  | halt
  | block
deriving Repr, DecidableEq

def SpreadCooldownState.text : SpreadCooldownState → String
  | .normal => "normal"
  | .watch => "watch"
  | .cooldown => "cooldown"
  | .halt => "halt"
  | .block => "block"

structure SpreadState where
  state : SpreadCooldownState
  spreadPips : Extended
  percentile : Rat
  thresholdPips : Rat
  cooldownEta : Option Int
  lastUpdated : Int
  lookbackWindowSec : Int
  reason : Option String
deriving Repr, DecidableEq

structure SpreadEvaluation where
  status : SpreadCooldownState
  p95 : Extended
  p99 : Extended
  cooldownReason : Option String
  ntpDriftMs : Option Int
  newsId : Option String
  expiresAt : Option Int
deriving Repr, DecidableEq

inductive SpreadError where
  | degraded (message : String)
  | python (error : PyError)
  | invalidOperation
deriving Repr, DecidableEq

structure SimpleSpreadMonitor where
  cooldownThreshold : Rat := 9 / 5
  blockThreshold : Rat := 5 / 2
  ntpMaxMs : Int := 50
  cooldownMinutes : Int := 5
  lookbackWindowSec : Int := 1800
  states : Dict String SpreadState := Dict.empty

/-! ## Classification -/

def parseWindowSeconds (window : Value) : Except PyError (Option Int) :=
  if window.truth then
    match window with
    | .str text =>
      let token := (lower (strip text)).toList
      -- What is no number leaves the default, an infinite window raises.
      let seconds := fun (digits : List Char) (unit : Rat) =>
        match (floatOfText (String.ofList digits)).map (Extended.scale unit) with
        | some (.finite value) =>
          if |value| < floatLimit then .ok (some (truncate value)) else .error overflowError
        | some (.infinite _) => .error overflowError
        | _ => .ok none
      match token.getLast? with
      | some 'h' => seconds token.dropLast 3600
      | some 'm' => seconds token.dropLast 60
      | _ => seconds token 1
    | _ => .error .attributeError
  else .ok none

/-- A drift or a news event turns a state that is not blocked into a cooldown. -/
def escalate (raised : Bool) (status : SpreadCooldownState) : SpreadCooldownState :=
  if raised then (if status = .block then .block else .cooldown) else status

/-- The class of the percentiles.  Comparing a decimal that is no number raises. -/
def widthOf (monitor : SimpleSpreadMonitor) (p95 p99 : Extended) :
    Except SpreadError SpreadCooldownState :=
  if p99.isNan then .error .invalidOperation
  else if .finite monitor.blockThreshold ≤ p99 then .ok .block
  else if p95.isNan then .error .invalidOperation
  else if .finite monitor.cooldownThreshold ≤ p95 then .ok .cooldown
  else .ok .normal

def reasonsOf (wide drifting news : Bool) : List String :=
  (if wide then ["wide_spread"] else []) ++ (if drifting then ["ntp_drift"] else []) ++
    (if news then ["news_volatility"] else [])

def joined (reasons : List String) : Option String :=
  if reasons = [] then none else some (",".intercalate reasons)

def evaluateSpreadGuard (monitor : SimpleSpreadMonitor) (p95 p99 : Extended)
    (ntpDriftMs : Option Int) (newsEvent : Option String) (now : Int) :
    Except SpreadError SpreadEvaluation := do
  let wide ← widthOf monitor p95 p99
  let drifting := ntpDriftMs.any (fun drift => decide (monitor.ntpMaxMs < drift))
  let news := newsEvent.any (fun title => title != "")
  let status := escalate news (escalate drifting wide)
  return {
    status, p95, p99, ntpDriftMs
    cooldownReason := joined (reasonsOf (decide (wide ≠ .normal)) drifting news)
    newsId := newsEvent
    expiresAt :=
      if status = .normal then none else some (now + monitor.cooldownMinutes * 60000000) }

/-! ## The monitors -/

namespace SimpleSpreadMonitor

def cooldownState (monitor : SimpleSpreadMonitor) : SpreadCooldownState :=
  let labels := monitor.states.entries.map (fun entry => entry.2.state)
  if labels.any (fun label => decide (label ∈ [.block, .halt])) then .block
  else if labels.any (fun label => decide (label ∈ [.cooldown, .watch])) then .cooldown
  else .normal

def symbolOf (frame : Mapping) : String :=
  let symbol := (frame.get? "symbol").getD .null
  if symbol.truth then symbol.text else "*"

def toFloat (value : Value) : Except SpreadError Extended := value.toFloat.mapError .python

/-- `Decimal(str(value))` of a value that converts to a float. -/
def toDecimal : Value → Except SpreadError Extended
  | .bool _ => .error .invalidOperation
  | .str text =>
    match parseFloat? text with
    | some number => .ok (.finite number)
    | none => toFloat (.str text)
  | value => toFloat value

def toInt (value : Value) : Except SpreadError Int := value.toInt.mapError .python

/-- The two percentiles, under either of their names. -/
def metrics (frame : Mapping) : Except SpreadError (Value × Value) :=
  let p95 := (frame.get? "p95").getD ((frame.get? "spread_p95").getD .null)
  let p99 := (frame.get? "p99").getD ((frame.get? "spread_p99").getD p95)
  match p95, p99 with
  | .null, _ => .error (.degraded "spread metrics missing (p95/p99)")
  | _, .null => .error (.degraded "spread metrics missing (p95/p99)")
  | p95, p99 => .ok (p95, p99)

def ntpDrift (frame : Mapping) : Except SpreadError (Option Int) :=
  match frame.given? "ntp_drift_ms" with
  | none => .ok none
  | some drift => (toInt drift).map some

def windowSeconds (monitor : SimpleSpreadMonitor) (frame : Mapping) : Except SpreadError Int := do
  let window ← (parseWindowSeconds ((frame.get? "window").getD .null)).mapError .python
  return match window with
    | some seconds => if seconds = 0 then monitor.lookbackWindowSec else seconds
    | none => monitor.lookbackWindowSec

def newsOf (frame : Mapping) : Option String :=
  let news := orValue ((frame.get? "news_id").getD .null) ((frame.get? "news_event").getD .null)
  if news.truth then some news.text else none

def classify (monitor : SimpleSpreadMonitor) (frame : Mapping) (now : Int) :
    Except SpreadError SpreadState := do
  let (p95Value, p99Value) ← metrics frame
  let lookbackWindowSec ← monitor.windowSeconds frame
  let p95 ← toFloat p95Value
  let p99 ← toFloat p99Value
  let ntpDriftMs ← ntpDrift frame
  let evaluation ← evaluateSpreadGuard monitor p95 p99 ntpDriftMs (newsOf frame) now
  let spreadPips ← toDecimal p99Value
  return {
    state := evaluation.status
    spreadPips
    percentile := 99
    thresholdPips :=
      if evaluation.status = .block then monitor.blockThreshold else monitor.cooldownThreshold
    cooldownEta := evaluation.expiresAt
    lastUpdated := now
    lookbackWindowSec
    reason := evaluation.cooldownReason }

def update (monitor : SimpleSpreadMonitor) (frame : Mapping) (now : Int) :
    Except SpreadError (SpreadCooldownState × SimpleSpreadMonitor) := do
  let state ← monitor.classify frame now
  let next := { monitor with states := monitor.states.set (symbolOf frame) state }
  return (next.cooldownState, next)

end SimpleSpreadMonitor

/-- What the enriching monitor reads besides the frame: the last clock drift
that was logged and the news event around now. -/
structure Enrichment where
  drift : Option Int
  newsEvent : Option String
  enableNewsBlock : Bool := true
deriving Repr, DecidableEq

def enrich (enrichment : Enrichment) (frame : Mapping) : Mapping :=
  let timed := match frame.given? "ntp_drift_ms", enrichment.drift with
    | none, some drift => frame.set "ntp_drift_ms" (.int drift)
    | _, _ => frame
  let named := ((timed.get? "news_id").getD .null).truth ||
    ((timed.get? "news_event").getD .null).truth
  if enrichment.enableNewsBlock && !named then
    match enrichment.newsEvent with
    | some title => if title != "" then timed.set "news_event" (.str title) else timed
    | none => timed
  else timed

/-- One frame fed to a monitor, with what the enriching monitor adds to it. -/
structure Feed where
  frame : Mapping
  now : Int
  enrichment : Option Enrichment := none

def Feed.seen (feed : Feed) : Mapping :=
  match feed.enrichment with
  | none => feed.frame
  | some enrichment => enrich enrichment feed.frame

namespace SimpleSpreadMonitor

/-- A frame that raises leaves the states as they were. -/
def step (monitor : SimpleSpreadMonitor) (feed : Feed) : SimpleSpreadMonitor :=
  match monitor.update feed.seen feed.now with
  | .ok (_, next) => next
  | .error _ => monitor

/-! ## The labels a monitor uses -/

/-- Neither `watch` nor `halt`. -/
def Classified (monitor : SimpleSpreadMonitor) : Prop :=
  ∀ symbol state, monitor.states.get? symbol = some state →
    state.state ∈ [SpreadCooldownState.normal, .cooldown, .block]

theorem escalate_mem (raised : Bool) {status : SpreadCooldownState}
    (classified : status ∈ [SpreadCooldownState.normal, .cooldown, .block]) :
    escalate raised status ∈ [SpreadCooldownState.normal, .cooldown, .block] := by
  unfold escalate
  split
  · split <;> decide
  · exact classified

theorem widthOf_mem {monitor : SimpleSpreadMonitor} {p95 p99 : Extended}
    {wide : SpreadCooldownState} (measured : widthOf monitor p95 p99 = .ok wide) :
    wide ∈ [SpreadCooldownState.normal, .cooldown, .block] := by
  unfold widthOf at measured
  split_ifs at measured <;> cases measured <;> decide

theorem evaluateSpreadGuard_mem {monitor : SimpleSpreadMonitor} {p95 p99 : Extended}
    {ntpDriftMs : Option Int} {newsEvent : Option String} {now : Int}
    {evaluation : SpreadEvaluation}
    (evaluated : evaluateSpreadGuard monitor p95 p99 ntpDriftMs newsEvent now = .ok evaluation) :
    evaluation.status ∈ [SpreadCooldownState.normal, .cooldown, .block] := by
  obtain ⟨wide, measured, evaluated⟩ := bind_ok evaluated
  rw [← Except.ok.inj evaluated]
  exact escalate_mem _ (escalate_mem _ (widthOf_mem measured))

theorem classify_mem {monitor : SimpleSpreadMonitor} {frame : Mapping} {now : Int}
    {state : SpreadState} (classified : monitor.classify frame now = .ok state) :
    state.state ∈ [SpreadCooldownState.normal, .cooldown, .block] := by
  obtain ⟨values, -, classified⟩ := bind_ok classified
  obtain ⟨window, -, classified⟩ := bind_ok classified
  obtain ⟨p95, -, classified⟩ := bind_ok classified
  obtain ⟨p99, -, classified⟩ := bind_ok classified
  obtain ⟨drift, -, classified⟩ := bind_ok classified
  obtain ⟨evaluation, evaluated, classified⟩ := bind_ok classified
  obtain ⟨spread, -, classified⟩ := bind_ok classified
  rw [← Except.ok.inj classified]
  exact evaluateSpreadGuard_mem evaluated

theorem step_classified {monitor : SimpleSpreadMonitor} (classified : Classified monitor)
    (feed : Feed) : Classified (monitor.step feed) := by
  unfold step
  split
  · rename_i label next updated
    obtain ⟨state, assessed, returned⟩ := bind_ok updated
    obtain ⟨-, rfl⟩ := Prod.mk.inj (Except.ok.inj returned)
    intro symbol held found
    rw [Dict.get?_set] at found
    by_cases fed : symbolOf feed.seen = symbol
    · rw [if_pos fed] at found
      rw [← Option.some.inj found]
      exact classify_mem assessed
    · rw [if_neg fed] at found
      exact classified symbol held found
  · exact classified

/-- After any frames a state is labelled `normal`, `cooldown` or `block`. -/
theorem run_classified {monitor : SimpleSpreadMonitor} (classified : Classified monitor)
    (feeds : List Feed) : Classified (runFrom step monitor feeds) := by
  have kept : Throughout step Classified monitor feeds :=
    throughout_of_step (fun _ feed kept => step_classified kept feed) classified
  exact kept.final

end SimpleSpreadMonitor

end FxToushi.Execution
