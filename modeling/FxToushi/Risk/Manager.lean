import FxToushi.Core.GateState

namespace FxToushi.Risk

open FxToushi.Core Py

/-! # Ticket evaluation

`RiskManager.evaluate_ticket` and the sources it combines.  The decision log it
writes does not feed back into the decision.
-/

/-- What an advisor callback may return: a verdict with a reason, or a value
that is only read for its truth. -/
inductive AdvisorResult where
  | pair (reduceOnly : Bool) (reason : Option String)
  | verdict (reduceOnly : Bool)
deriving Repr, DecidableEq

abbrev ReduceOnlyAdvisor :=
  GateState → Option RiskAssessment → String → String → AdvisorResult

structure RiskDecision where
  allowed : Bool
  reduceOnly : Bool
  boardMode : String
  killSwitchState : String
  spreadStatus : String
  reason : Option String
  exitCode : Nat
deriving Repr, DecidableEq

namespace RiskManager

def normaliseSpreadState (spreadState : Option String) : String :=
  if spreadState = some "halt" ∨ spreadState = some "block" then "block"
  else if spreadState = some "cooldown" ∨ spreadState = some "watch" then "cooldown"
  else "normal"

def evaluateReduceOnlyAdvisor (advisor : Option ReduceOnlyAdvisor) (gate : GateState)
    (assessment : Option RiskAssessment) (spreadStatus killSwitchState : String) :
    Bool × Option String :=
  match advisor with
  | none => (false, none)
  | some advise =>
    match advise gate assessment spreadStatus killSwitchState with
    | .pair reduceOnly reason => (reduceOnly, reason)
    | .verdict reduceOnly => (reduceOnly, none)

def effectiveSpread (gate : GateState) (spreadStatus : Option String) : String :=
  normaliseSpreadState (orElse spreadStatus (some gate.market.spread.state))

def effectiveKillSwitch (gate : GateState) (assessment : Option RiskAssessment)
    (killSwitchState : Option String) : String :=
  orText (orElse (orElse killSwitchState (assessment.bind (·.killSwitchSuggestion)))
    gate.risk.killSwitchRecommendation) "none"

/-- The branch of the decision cascade: board mode, permission, reduce-only,
exit code and kill switch, with the reason the branch adds when none is known. -/
def decideTicket (spread killSwitch : String) (reduceOnly : Bool) (reason : Option String) :
    RiskDecision :=
  if killSwitch = "hard_stop" then
    { allowed := false, reduceOnly, boardMode := "halted", killSwitchState := killSwitch
      spreadStatus := spread, reason := orElse reason (some "kill_switch_hard_stop")
      exitCode := 63 }
  else if spread = "block" then
    { allowed := false, reduceOnly := true, boardMode := "guarded"
      killSwitchState := orText (some killSwitch) "soft_stop"
      spreadStatus := spread, reason := orElse reason (some "spread_block"), exitCode := 62 }
  else if killSwitch = "soft_stop" then
    { allowed := false, reduceOnly := true, boardMode := "guarded", killSwitchState := killSwitch
      spreadStatus := spread, reason := orElse reason (some "kill_switch_soft_stop")
      exitCode := 62 }
  else if spread = "cooldown" ∨ reduceOnly = true then
    { allowed := true, reduceOnly, boardMode := "guarded", killSwitchState := killSwitch
      spreadStatus := spread
      reason := orElse reason (some (if reduceOnly then "reduce_only" else "spread_cooldown"))
      exitCode := 21 }
  else
    { allowed := true, reduceOnly, boardMode := "normal", killSwitchState := killSwitch
      spreadStatus := spread, reason, exitCode := 0 }

def evaluateTicket (advisor : Option ReduceOnlyAdvisor) (gateState : Option GateState)
    (assessment : Option RiskAssessment) (spreadStatus killSwitchState : Option String) :
    RiskDecision :=
  let gate := gateState.getD GateState.default
  let spread := effectiveSpread gate spreadStatus
  let killSwitch := effectiveKillSwitch gate assessment killSwitchState
  let reduceOnly := gate.risk.reduceOnly ||
    (assessment.map (·.riskState.reduceOnly)).getD false
  let reduceOnlyReason := orElse (assessment.bind (·.riskState.reduceOnlyReason))
    gate.risk.reduceOnlyReason
  let advice := evaluateReduceOnlyAdvisor advisor gate assessment spread killSwitch
  let reduceOnlyReason := if advice.1 ∧ reduceOnlyReason = none then
    orElse advice.2 (some "reduce_only_advisor") else reduceOnlyReason
  let reason := orElse (orElse (orElse gate.market.spread.reason gate.risk.killSwitchReason)
    (assessment.bind (·.killSwitchReason))) reduceOnlyReason
  decideTicket spread killSwitch (reduceOnly || advice.1) reason

/-! ## What the cascade decides -/

theorem decideTicket_allowed (spread killSwitch : String) (reduceOnly : Bool)
    (reason : Option String) :
    (decideTicket spread killSwitch reduceOnly reason).allowed = false ↔
      killSwitch = "hard_stop" ∨ spread = "block" ∨ killSwitch = "soft_stop" := by
  unfold decideTicket
  split_ifs <;> simp_all

theorem decideTicket_exitCode (spread killSwitch : String) (reduceOnly : Bool)
    (reason : Option String) :
    (decideTicket spread killSwitch reduceOnly reason).exitCode = 63 ↔
      killSwitch = "hard_stop" := by
  unfold decideTicket
  split_ifs <;> simp_all

theorem decideTicket_stop_blocks (spread killSwitch : String) (reduceOnly : Bool)
    (reason : Option String) :
    (decideTicket spread killSwitch reduceOnly reason).exitCode ∈ [62, 63] →
      (decideTicket spread killSwitch reduceOnly reason).allowed = false := by
  unfold decideTicket
  split_ifs <;> simp

theorem evaluateTicket_allowed (advisor : Option ReduceOnlyAdvisor) (gate : GateState)
    (assessment : Option RiskAssessment) (spreadStatus killSwitchState : Option String) :
    (evaluateTicket advisor (some gate) assessment spreadStatus killSwitchState).allowed = false ↔
      effectiveKillSwitch gate assessment killSwitchState = "hard_stop" ∨
        effectiveSpread gate spreadStatus = "block" ∨
        effectiveKillSwitch gate assessment killSwitchState = "soft_stop" :=
  decideTicket_allowed ..

theorem evaluateTicket_exitCode (advisor : Option ReduceOnlyAdvisor) (gate : GateState)
    (assessment : Option RiskAssessment) (spreadStatus killSwitchState : Option String) :
    (evaluateTicket advisor (some gate) assessment spreadStatus killSwitchState).exitCode = 63 ↔
      effectiveKillSwitch gate assessment killSwitchState = "hard_stop" :=
  decideTicket_exitCode ..

theorem evaluateTicket_stop_blocks {advisor : Option ReduceOnlyAdvisor} {gate : GateState}
    {assessment : Option RiskAssessment} {spreadStatus killSwitchState : Option String}
    (stopped : (evaluateTicket advisor (some gate) assessment spreadStatus
      killSwitchState).exitCode ∈ [62, 63]) :
    (evaluateTicket advisor (some gate) assessment spreadStatus killSwitchState).allowed = false :=
  decideTicket_stop_blocks _ _ _ _ stopped

/-! ## Which source decides

The sources are chained by `or`, so the first one present decides alone, also
when a later one is more severe.
-/

def killSwitchSources (gate : GateState) (assessment : Option RiskAssessment)
    (killSwitchState : Option String) : List (Option String) :=
  [killSwitchState, assessment.bind (·.killSwitchSuggestion), gate.risk.killSwitchRecommendation]

def spreadSources (gate : GateState) (spreadStatus : Option String) : List (Option String) :=
  [spreadStatus, some gate.market.spread.state]

theorem effectiveKillSwitch_mem_iff (gate : GateState) (assessment : Option RiskAssessment)
    (killSwitchState : Option String) {words : List String} (stops : "none" ∉ words) :
    effectiveKillSwitch gate assessment killSwitchState ∈ words ↔
      leads words (killSwitchSources gate assessment killSwitchState) = true := by
  rw [← orText_firstPresent_mem_iff stops, effectiveKillSwitch, killSwitchSources, orElse_assoc]
  simp only [firstPresent, List.foldr, ← orElse_assoc, orText_orElse_none]

theorem effectiveSpread_block_iff (gate : GateState) (spreadStatus : Option String) :
    effectiveSpread gate spreadStatus = "block" ↔
      leads ["halt", "block"] (spreadSources gate spreadStatus) = true := by
  have other : "normal" ∉ ["halt", "block"] := by decide
  rw [← orText_firstPresent_mem_iff other, spreadSources]
  simp only [firstPresent, List.foldr, ← orElse_assoc, orText_orElse_none]
  rw [effectiveSpread]
  cases orElse spreadStatus (some gate.market.spread.state) with
  | none => decide
  | some word =>
    simp only [normaliseSpreadState, orText]
    split_ifs <;> simp_all

/-- The decision is at least as restrictive as each source taken alone. -/
structure MostSevereWins (gate : GateState) (assessment : Option RiskAssessment)
    (spreadStatus killSwitchState : Option String) (decision : RiskDecision) : Prop where
  hardStop : some "hard_stop" ∈ killSwitchSources gate assessment killSwitchState →
    decision.exitCode = 63 ∧ decision.allowed = false
  softStop : some "soft_stop" ∈ killSwitchSources gate assessment killSwitchState →
    decision.allowed = false
  spreadBlock : some "halt" ∈ spreadSources gate spreadStatus ∨
      some "block" ∈ spreadSources gate spreadStatus → decision.allowed = false

/-- No stop is hidden behind a weaker source: a hard stop anywhere leads its
chain, and a soft stop or a blocked spread anywhere comes with a stop at the
head of one of the two chains. -/
def StopsLead (gate : GateState) (assessment : Option RiskAssessment)
    (spreadStatus killSwitchState : Option String) : Prop :=
  let switches := killSwitchSources gate assessment killSwitchState
  let spreads := spreadSources gate spreadStatus
  (some "hard_stop" ∈ switches → leads ["hard_stop"] switches = true) ∧
    (some "soft_stop" ∈ switches ∨ some "halt" ∈ spreads ∨ some "block" ∈ spreads →
      leads ["hard_stop", "soft_stop"] switches = true ∨ leads ["halt", "block"] spreads = true)

theorem evaluateTicket_blocked_iff (advisor : Option ReduceOnlyAdvisor) (gate : GateState)
    (assessment : Option RiskAssessment) (spreadStatus killSwitchState : Option String) :
    (evaluateTicket advisor (some gate) assessment spreadStatus killSwitchState).allowed = false ↔
      leads ["hard_stop", "soft_stop"] (killSwitchSources gate assessment killSwitchState) = true ∨
        leads ["halt", "block"] (spreadSources gate spreadStatus) = true := by
  rw [evaluateTicket_allowed, ← effectiveSpread_block_iff,
    ← effectiveKillSwitch_mem_iff gate assessment killSwitchState (by decide)]
  simp only [List.mem_cons, List.not_mem_nil, or_false]
  tauto

theorem evaluateTicket_hardStop_iff (advisor : Option ReduceOnlyAdvisor) (gate : GateState)
    (assessment : Option RiskAssessment) (spreadStatus killSwitchState : Option String) :
    (evaluateTicket advisor (some gate) assessment spreadStatus killSwitchState).exitCode = 63 ↔
      leads ["hard_stop"] (killSwitchSources gate assessment killSwitchState) = true := by
  rw [evaluateTicket_exitCode,
    ← effectiveKillSwitch_mem_iff gate assessment killSwitchState (by decide), List.mem_singleton]

/-- The most severe source wins exactly when no stop is hidden behind a weaker
source. -/
theorem mostSevereWins_iff (advisor : Option ReduceOnlyAdvisor) (gate : GateState)
    (assessment : Option RiskAssessment) (spreadStatus killSwitchState : Option String) :
    MostSevereWins gate assessment spreadStatus killSwitchState
        (evaluateTicket advisor (some gate) assessment spreadStatus killSwitchState) ↔
      StopsLead gate assessment spreadStatus killSwitchState := by
  have blocked := evaluateTicket_blocked_iff advisor gate assessment spreadStatus killSwitchState
  have hard := evaluateTicket_hardStop_iff advisor gate assessment spreadStatus killSwitchState
  constructor
  · intro wins
    refine ⟨fun present => hard.mp (wins.hardStop present).1, ?_⟩
    rintro (soft | spread)
    · exact blocked.mp (wins.softStop soft)
    · exact blocked.mp (wins.spreadBlock spread)
  · intro lead
    refine ⟨fun present => ?_, fun soft => blocked.mpr (lead.2 (.inl soft)),
      fun spread => blocked.mpr (lead.2 (.inr spread))⟩
    have stopped := hard.mpr (lead.1 present)
    exact ⟨stopped, evaluateTicket_stop_blocks (by simp [stopped])⟩

/-- An explicit `soft_stop` hides the hard stop the gate recommends. -/
theorem explicit_soft_stop_hides_hard_stop :
    ¬ MostSevereWins
      { risk := { reduceOnly := false, killSwitchRecommendation := some "hard_stop" } } none none
      (some "soft_stop")
      (evaluateTicket none
        (some { risk := { reduceOnly := false, killSwitchRecommendation := some "hard_stop" } })
        none none (some "soft_stop")) := by
  intro wins
  exact absurd (wins.hardStop (by decide)).1 (by decide)

end RiskManager

end FxToushi.Risk
