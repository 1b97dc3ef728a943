import FxToushi.Data.Runs
import FxToushi.Execution.OrderReading

namespace FxToushi.Execution

open Data Py Brokers

/-! # The cap on open positions

The policy compares the reported count with the cap before the order is
counted, and a ticket's report does not reach it.
-/

namespace Submission

/-- The number of open positions that is reported with the order. -/
def reported : Submission → Except OrderError Int
  | .byPayload payload => openPositions payload
  | .byTicket ticket => openPositions ticket

/-- The number that the policy is told, of a number that is reported. -/
def seen : Submission → Int → Int
  | .byPayload _, positions => positions
  | .byTicket _, _ => 0

end Submission

/-- The policy caps the positions in the symbol. -/
def Capped (around : Surroundings) (symbol : String) (most : Int) : Prop :=
  ∃ rules, around.policyRules symbol = some rules ∧ rules.maxPositions = some most

/-- Under every policy with the cap, the order is not accepted while as many
positions are open. -/
def CapHolds (most : Int) (submission : Submission) (positions : Int) : Prop :=
  ∀ around killSwitch, Capped around submission.symbol most → most ≤ positions →
    ¬ (submission.dispatch around killSwitch).Accepted

/-- The count is under the cap, or what the policy is told is over it, or the
order is refused whatever the count. -/
def CapSeen (most : Int) (submission : Submission) (positions : Int) : Prop :=
  positions < most ∨ most < submission.seen positions ∨ ¬ Readable submission.handed ∨
    policySymbol submission.handed = ""

section Cap

variable {around : Surroundings} {killSwitch : JsonFile} {payload : Mapping}
  {submission : Submission} {most positions : Int}

theorem Submission.seen_read (reports : submission.reported = .ok positions) :
    openPositions submission.handed = .ok (submission.seen positions) := by
  cases submission with
  | byPayload payload => exact reports
  | byTicket ticket => rfl

theorem not_accepted_refused (error : OrderError) : ¬ (Dispatch.refused error).Accepted := by
  intro ⟨order, accepted⟩
  cases accepted

theorem policy_of_accepted (accepted : (submit around killSwitch payload).Accepted) :
    ∃ fields, orderFields payload = .ok fields ∧
      assertPolicy around.policyRules payload fields.profile = .ok () := by
  cases sent : sentRequest around killSwitch payload with
  | none =>
    obtain ⟨error, refused⟩ := submit_of_not_sent sent
    rw [refused] at accepted
    exact absurd accepted (not_accepted_refused error)
  | some request =>
    obtain ⟨fields, read, passed, -⟩ := fields_of_sent sent
    obtain ⟨_, -, passed⟩ := bind_ok passed
    obtain ⟨_, -, passed⟩ := bind_ok passed
    obtain ⟨_, policy, -⟩ := bind_ok passed
    exact ⟨fields, read, policy⟩

/-- A violation that is not about the session is raised in every profile. -/
theorem assertPolicy_of_violation {violation : BrokerPolicyViolation}
    {rules : String → Option SymbolRules} {violations : List BrokerPolicyViolation}
    (validated : validate rules payload = .ok violations) (violated : violation ∈ violations)
    (always : violation.code ≠ "trading_session_closed") (profile : String) :
    assertPolicy rules payload profile ≠ .ok () := by
  rw [assertPolicy, validated]
  simp only [bind, Except.bind]
  have kept : violation ∈ (if profile ≠ "live" then
      violations.filter (fun violation => violation.code ≠ "trading_session_closed")
      else violations) := by
    split
    · exact List.mem_filter.mpr ⟨violated, by simpa using always⟩
    · exact violated
  generalize (if profile ≠ "live" then
      violations.filter (fun violation => violation.code ≠ "trading_session_closed")
      else violations) = left at kept
  cases left with
  | nil => cases kept
  | cons primary rest => exact fun passed => by cases passed

theorem symbol_eq_policySymbol (present : policySymbol payload ≠ "") :
    textOr payload "symbol" "pair" "" = policySymbol payload := by
  unfold policySymbol textOr at *
  cases given : (valueAt payload "symbol").truth with
  | true => rw [orValue, orValue, if_pos given, if_pos given, orValue, if_pos given]
  | false =>
    rw [orValue, given] at present
    exact absurd rfl present

/-- What the rules of a symbol find. -/
def violationsUnder (rules : SymbolRules) (entryType : String) (positions : Int) :
    List BrokerPolicyViolation :=
  (if typeAllowed rules entryType then []
    else [⟨"order_type_invalid", rules.runbookLinks.head?⟩]) ++
    (if rules.maxPositions.any (fun most => decide (most < positions)) then
      [⟨"max_positions_exceeded", rules.runbookLinks.head?⟩] else []) ++
    (if rules.outsideWindows then [⟨"trading_session_closed", rules.runbookLinks.head?⟩] else [])

theorem validate_known {rules : String → Option SymbolRules} {symbolRules : SymbolRules}
    (counted : openPositions payload = .ok positions) (present : policySymbol payload ≠ "")
    (ruled : rules (policySymbol payload) = some symbolRules) :
    validate rules payload =
      .ok (violationsUnder symbolRules (textOr payload "entry_type" "order_type" "")
        positions) := by
  rw [validate, counted]
  simp only [bind, Except.bind, if_neg present, ruled]
  rfl

/-- A count over the cap is a violation, and so is a missing symbol. -/
theorem validate_violation (capped : Capped around (textOr payload "symbol" "pair" "") most)
    (counted : openPositions payload = .ok positions)
    (violates : most < positions ∨ policySymbol payload = "") :
    ∃ violations violation, validate around.policyRules payload = .ok violations ∧
      violation ∈ violations ∧ violation.code ≠ "trading_session_closed" := by
  by_cases absent : policySymbol payload = ""
  · refine ⟨[{ code := "symbol_missing" }], _, ?_, List.mem_singleton_self _, by decide⟩
    rw [validate, counted]
    exact if_pos absent
  · have exceeded := violates.resolve_right absent
    obtain ⟨rules, ruled, cap⟩ := capped
    rw [symbol_eq_policySymbol absent] at ruled
    have exceeds : rules.maxPositions.any (fun most => decide (most < positions)) = true := by
      rw [cap]
      exact decide_eq_true exceeded
    refine ⟨_, ⟨"max_positions_exceeded", rules.runbookLinks.head?⟩,
      validate_known counted absent ruled, ?_, by simp⟩
    rw [violationsUnder, if_pos exceeds]
    exact List.mem_append_left _ (List.mem_append_right _ (List.mem_singleton_self _))

theorem not_accepted_of_violation
    (capped : Capped around (textOr payload "symbol" "pair" "") most)
    (counted : openPositions payload = .ok positions)
    (violates : most < positions ∨ policySymbol payload = "") :
    ¬ (submit around killSwitch payload).Accepted := by
  intro accepted
  obtain ⟨fields, -, passed⟩ := policy_of_accepted accepted
  obtain ⟨violations, violation, validated, member, always⟩ :=
    validate_violation capped counted violates
  exact assertPolicy_of_violation validated member always fields.profile passed

/-- No restriction but the cap. -/
def cappedAt (most : Int) : Surroundings :=
  { permissive with policyRules := fun _ => some { pipSize := 0, maxPositions := some most } }

/-- With no restriction but the cap, a payload that is read is accepted up to and
including the cap. -/
theorem accepted_of_le (readable : Readable payload) (present : policySymbol payload ≠ "")
    (counted : openPositions payload = .ok positions) (within : positions ≤ most) :
    (submit (cappedAt most) .missing payload).Accepted := by
  obtain ⟨fields, read⟩ := orderFields_ok_iff_readable.mpr readable
  have validated : validate (cappedAt most).policyRules payload = .ok [] := by
    have under : (some most).any (fun most => decide (most < positions)) = false :=
      decide_eq_false (not_lt.mpr within)
    rw [validate_known counted present rfl, violationsUnder, under]
    rfl
  have policy : assertPolicy (cappedAt most).policyRules payload fields.profile = .ok () := by
    rw [assertPolicy, validated]
    simp only [bind, Except.bind, List.filter_nil, ite_self]
    rfl
  have unknown : ¬ ("none" = "stop" ∨ "none" = "reduce_only") := by decide
  have passed : guards (cappedAt most) .missing payload fields = .ok () := by
    have first : assertFailover (cappedAt most).failover = .ok () := rfl
    rw [guards, first, assertKillSwitch_unknown loadKillSwitchState_missing unknown, policy]
    rfl
  exact accepted_of_passed read passed

theorem capHolds_iff (reports : submission.reported = .ok positions) :
    CapHolds most submission positions ↔ CapSeen most submission positions := by
  have counted := submission.seen_read reports
  constructor
  · intro holds
    by_contra unseen
    unfold CapSeen at unseen
    rw [not_or, not_or, not_or, not_lt, not_lt, not_not] at unseen
    obtain ⟨full, within, readable, present⟩ := unseen
    have capped : Capped (cappedAt most) submission.symbol most := ⟨_, rfl, rfl⟩
    refine holds (cappedAt most) .missing capped full ?_
    rw [submission.dispatch_eq]
    exact accepted_of_le readable present counted within
  · intro seen around killSwitch capped full
    rw [submission.dispatch_eq]
    cases seen with
    | inl under => exact absurd full (not_le.mpr under)
    | inr seen =>
      cases seen with
      | inl exceeded => exact not_accepted_of_violation capped counted (.inl exceeded)
      | inr refused =>
        cases refused with
        | inl unreadable =>
          intro accepted
          obtain ⟨fields, read, -⟩ := policy_of_accepted accepted
          exact unreadable (orderFields_ok_iff_readable.mp ⟨fields, read⟩)
        | inr absent => exact not_accepted_of_violation capped counted (.inr absent)

end Cap

/-! ## Runs of orders -/

/-- What changes the number of open positions in a symbol: an order, in the
surroundings that it meets, or the close of a position. -/
inductive PositionEvent where
  | submitted (around : Surroundings) (killSwitch : JsonFile) (submission : Submission)
  | closed

/-- An accepted order opens a position, unless it only reduces one. -/
def positionsAfter (positions : Int) : PositionEvent → Int
  | .submitted around killSwitch submission =>
    if (submission.dispatch around killSwitch).placed.isSome ∧
        isReduceOnly submission.handed = false then
      positions + 1
    else positions
  | .closed => positions - 1

/-- An order is for the symbol, meets the cap and reports the true count. -/
def PositionEvent.Reports (symbol : String) (most positions : Int) : PositionEvent → Prop
  | .submitted around _ submission => submission.symbol = symbol ∧ Capped around symbol most ∧
      submission.reported = .ok positions
  | .closed => True

/-- An order that is not to reduce only is one for which the cap holds. -/
def PositionEvent.Seen (most positions : Int) : PositionEvent → Prop
  | .submitted _ _ submission =>
    isReduceOnly submission.handed = false → CapSeen most submission positions
  | .closed => True

theorem accepted_of_placed {around : Surroundings} {killSwitch : JsonFile} {payload : Mapping}
    (placed : (submit around killSwitch payload).placed.isSome = true) :
    (submit around killSwitch payload).Accepted := by
  cases sent : sentRequest around killSwitch payload with
  | none =>
    obtain ⟨error, refused⟩ := submit_of_not_sent sent
    rw [refused] at placed
    cases placed
  | some request =>
    obtain ⟨principalId, deviceId, submitted⟩ := submit_of_sent sent
    rw [submitted] at placed ⊢
    cases completed : SandboxAdapter.placeOrder killSwitch request principalId deviceId
        around.orderId around.utcnow with
    | error error =>
      rw [completed] at placed
      cases placed
    | ok order => exact ⟨order, rfl⟩

/-- One event does not carry the count over the cap. -/
theorem positionsAfter_le {symbol : String} {most positions : Int} {event : PositionEvent}
    (within : positions ≤ most) (reports : event.Reports symbol most positions)
    (seen : event.Seen most positions) : positionsAfter positions event ≤ most := by
  cases event with
  | closed =>
    rw [positionsAfter]
    omega
  | submitted around killSwitch submission =>
    obtain ⟨named, capped, counted⟩ := reports
    rw [positionsAfter]
    split
    · rename_i opened
      have holds := (capHolds_iff counted).mpr (seen opened.2)
      rw [← named] at capped
      have room : positions < most := by
        by_contra full
        refine holds around killSwitch capped (not_lt.mp full) ?_
        rw [submission.dispatch_eq]
        exact accepted_of_placed (submission.dispatch_eq around killSwitch ▸ opened.1)
      omega
    · exact within

/-- The cap holds for an order exactly where it is seen, and no run of orders for
which it is seen ever has more positions open. -/
theorem cap_holds_where_seen (symbol : String) (most : Int) :
    (∀ submission positions, submission.symbol = symbol → submission.reported = .ok positions →
      (CapHolds most submission positions ↔ CapSeen most submission positions)) ∧
    ∀ start events, start ≤ most →
      EachStep positionsAfter (fun positions event =>
        event.Reports symbol most positions ∧ event.Seen most positions) start events →
      Throughout positionsAfter (fun positions => positions ≤ most) start events := by
  refine ⟨fun submission positions _ reports => capHolds_iff reports, ?_⟩
  intro start events within meets
  exact throughout_of_eachStep
    (fun positions event holds both => positionsAfter_le holds both.1 both.2) within meets

/-! ## A full book -/

def sampleOrder : Mapping := ("open_positions", .int 1) :: sampleTicket

theorem sampleOrder_capped :
    (CapHolds 1 (.byPayload sampleOrder) 1 ↔ CapSeen 1 (.byPayload sampleOrder) 1) ∧
      Throughout positionsAfter (fun positions => positions ≤ 1) 0
        [.submitted (cappedAt 1) .missing (.byPayload sampleTicket), .closed] := by
  have law := cap_holds_where_seen "USDJPY" 1
  refine ⟨law.1 (.byPayload sampleOrder) 1 (by decide +kernel) (by decide +kernel), ?_⟩
  refine law.2 0 _ (by decide) ⟨⟨⟨?_, ⟨_, rfl, rfl⟩, ?_⟩, fun _ => .inl (by decide)⟩, ?_⟩
  · decide +kernel
  · decide +kernel
  · exact ⟨⟨trivial, trivial⟩, trivial⟩

/-- One position is open and one is the most: another is accepted, as a ticket even
when two are open. -/
theorem sampleOrder_over_cap :
    ¬ CapHolds 1 (.byPayload sampleOrder) 1 ∧
      ¬ CapHolds 1 (.byTicket (("open_positions", .int 2) :: sampleTicket)) 2 := by
  have capped (symbol : String) : Capped (cappedAt 1) symbol 1 := ⟨_, rfl, rfl⟩
  constructor
  · intro holds
    refine holds (cappedAt 1) .missing (capped _) (by decide) ?_
    rw [Submission.dispatch_eq]
    exact accepted_of_placed (by decide +kernel)
  · intro holds
    refine holds (cappedAt 1) .missing (capped _) (by decide) ?_
    rw [Submission.dispatch_eq]
    exact accepted_of_placed (by decide +kernel)

end FxToushi.Execution
