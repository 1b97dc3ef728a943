import FxToushi.Brokers.Sandbox

namespace FxToushi.Execution

open Data Py Brokers

/-! # The order router

A payload is read into a request, checked against the failover state, the kill
switch and the broker's rules, and placed with the adapter.
-/

/-! ## Reading a payload -/

/-- An integer has a float unless it rounds to 2 to the 1024. -/
def coerceFloat : Value → Except OrderError (Option Extended)
  | .bool value => .ok (some (.finite (if value then 1 else 0)))
  | .int value =>
    if value.natAbs < 2 ^ 1024 - 2 ^ 970 then .ok (some (.finite value))
    else .error .overflowError
  | .float value text => .ok (some (.read value text))
  | .str text => .ok (floatOfText text)
  | _ => .ok none

/-- `int(value)`; an infinity overflows. -/
def intOf : Value → Except OrderError Int
  | .float value text =>
    match Extended.read value text with
    | .finite number => .ok (truncate number)
    | .infinite _ => .error .overflowError
    | .nan => .error (.python .valueError)
  | value =>
    match value.toInt with
    | .ok number => .ok number
    | .error error => .error (.python error)

def coerceInt (value : Value) : Except OrderError (Option Int) :=
  match intOf value with
  | .ok number => .ok (some number)
  | .error (.python _) => .ok none
  | .error error => .error error

/-- The first value that is not falsy, as text. -/
def textOr (payload : Mapping) (key other default : String) : String :=
  (orValue (orValue (valueAt payload key) (valueAt payload other)) (.str default)).text

def normalizeSide (value : Value) : String :=
  let text := lower (orValue value (.str "")).text
  if text ∈ ["long", "buy"] then "buy"
  else if text ∈ ["short", "sell"] then "sell"
  else text

structure SymbolRules where
  pipSize : Rat
  protectPips : Option Rat := none
  allowedOrderTypes : List String := []
  maxPositions : Option Int := none
  outsideWindows : Bool := false
  runbookLinks : List String := []

/-- What is read from a payload, before a price is derived. -/
structure OrderFields where
  ticketId : String
  symbol : String
  side : String
  quantity : Extended
  entryType : String
  entryPrice : Option Extended
  price : Option Extended
  reduceOnly : Bool
  ttlSec : Option Int
  adapterName : String
  profile : String
  principalId : String
  deviceId : String

def isReduceOnly (payload : Mapping) : Bool :=
  ((payload.get? "reduce_only").getD (.bool false)).truth

def rejected {Result : Type} (reason : String) (runbookRef : String := "RUN-BROKER-API-01") :
    Except OrderError Result :=
  .error (.orderDispatchRejected reason runbookRef)

def orderFields (payload : Mapping) : Except OrderError OrderFields := do
  let ticketId := textOr payload "ticket_id" "id" ""
  let symbol := textOr payload "symbol" "pair" ""
  let side := normalizeSide (orValue (valueAt payload "side") (valueAt payload "direction"))
  let quantity ← coerceFloat (orValue (valueAt payload "quantity") (valueAt payload "size_lot"))
  let entryPrice ← coerceFloat (valueAt payload "entry_price")
  let ttlSec ← coerceInt (orValue (valueAt payload "ttl_sec") (valueAt payload "ttl_seconds"))
  let principalId := (orValue (valueAt payload "principal_id") (.str "")).text
  let deviceId := (orValue (valueAt payload "device_id") (.str "")).text
  if ticketId = "" then rejected "ticket_id_missing"
  else if symbol = "" then rejected "symbol_missing"
  else if side ∉ ["buy", "sell"] then rejected "side_missing"
  else match quantity with
    | none => rejected "quantity_missing"
    | some quantity =>
      if principalId = "" ∨ deviceId = "" then rejected "principal_or_device_missing"
      else do
        let price ← coerceFloat (valueAt payload "price")
        return {
          ticketId
          symbol
          side
          quantity
          entryType := textOr payload "entry_type" "entry_mode" "market"
          entryPrice
          price
          reduceOnly := isReduceOnly payload
          ttlSec
          adapterName := (orValue (valueAt payload "adapter") (.str "sandbox")).text
          profile := textOr payload "profile" "mode" "paper"
          principalId
          deviceId }

def deriveMarketableLimitPrice (rules : String → Option SymbolRules) (fields : OrderFields) :
    Option Extended :=
  match fields.entryPrice with
  | none => none
  | some entryPrice =>
    match (rules fields.symbol).bind fun rule => rule.protectPips.map (· * rule.pipSize) with
    | none => some entryPrice
    | some offset =>
      some (if fields.side = "buy" then entryPrice + .finite offset
        else entryPrice + -.finite offset)

def requestOf (rules : String → Option SymbolRules) (fields : OrderFields) :
    BrokerOrderRequest where
  ticketId := fields.ticketId
  symbol := fields.symbol
  side := fields.side
  quantity := fields.quantity
  price :=
    if fields.entryType = "marketable_limit" ∧ fields.price = none then
      deriveMarketableLimitPrice rules fields
    else fields.price
  reduceOnly := fields.reduceOnly
  ttlSec := fields.ttlSec

/-- A section of a ticket, where it is a mapping. -/
def sectionOf (ticket : Mapping) (key : String) : Mapping := (valueAt ticket key).asMapping

def payloadFromTicket (ticket : Mapping) : Mapping :=
  let entry := sectionOf ticket "entry"
  let position := sectionOf ticket "position"
  let protect := sectionOf ticket "protect"
  [("ticket_id", valueAt ticket "ticket_id"),
    ("symbol", orValue (valueAt ticket "pair") (valueAt ticket "symbol")),
    ("side", if (valueAt ticket "side").truth then valueAt ticket "side"
      else .str (normalizeSide (valueAt position "direction"))),
    ("quantity", if (valueAt ticket "quantity").truth then valueAt ticket "quantity"
      else orValue (valueAt position "size_lot") (valueAt position "quantity")),
    ("reduce_only", (position.get? "reduce_only").getD (.bool false)),
    ("entry_type", valueAt entry "type"), ("entry_price", valueAt entry "price"),
    ("price", valueAt entry "price"), ("ttl_seconds", valueAt protect "ttl_seconds"),
    ("principal_id", valueAt ticket "principal_id"), ("device_id", valueAt ticket "device_id"),
    ("adapter", orValue (valueAt ticket "adapter") (.str "sandbox")),
    ("profile", orValue (orValue (valueAt ticket "profile") (valueAt ticket "mode"))
      (.str "paper"))]

/-! ## The broker's rules -/

structure BrokerPolicyViolation where
  code : String
  runbookRef : Option String := none

def normalizeEntryType (entryType : String) : String :=
  if entryType = "marketable_limit" then "limit" else entryType

def typeAllowed (rules : SymbolRules) (entryType : String) : Bool :=
  if rules.allowedOrderTypes.isEmpty || normalizeEntryType entryType == "" then true
  else if entryType = "marketable_limit" then
    rules.allowedOrderTypes.contains "marketable_limit" || rules.allowedOrderTypes.contains "limit"
  else rules.allowedOrderTypes.contains (normalizeEntryType entryType)

def policySymbol (payload : Mapping) : String :=
  (orValue (valueAt payload "symbol") (.str "")).text

def openPositions (payload : Mapping) : Except OrderError Int :=
  intOf (orValue (valueAt payload "open_positions") (.int 0))

/-- `validate`, where whether the time is outside of the trading windows is among
the rules. -/
def validate (rules : String → Option SymbolRules) (payload : Mapping) :
    Except OrderError (List BrokerPolicyViolation) := do
  let entryType := textOr payload "entry_type" "order_type" ""
  let positions ← openPositions payload
  if policySymbol payload = "" then return [{ code := "symbol_missing" }]
  match rules (policySymbol payload) with
  | none => return [{ code := "symbol_unknown" }]
  | some rules =>
    let runbookRef := rules.runbookLinks.head?
    return (if typeAllowed rules entryType then [] else [⟨"order_type_invalid", runbookRef⟩]) ++
      (if rules.maxPositions.any (fun most => decide (most < positions)) then
        [⟨"max_positions_exceeded", runbookRef⟩] else []) ++
      (if rules.outsideWindows then [⟨"trading_session_closed", runbookRef⟩] else [])

/-! ## Submitting -/

/-- What a router runs in.  `reservation` tells whether a rate limiter allows the
order; `apiEnabled` and `sandboxOnly` are the feature flags of a profile. -/
structure Surroundings where
  failover : JsonFile := .missing
  failoverRead : ∃ status, failover.textField "status" "" = .ok status := by exact ⟨_, rfl⟩
  brokerRules : String → Option SymbolRules
  policyRules : String → Option SymbolRules
  reservation : Option Bool := none
  apiEnabled : String → Bool := fun _ => false
  sandboxOnly : String → Bool := fun _ => false
  orderId : String
  utcnow : String

/-- The order that an adapter completed, and what the router returns or raises. -/
structure Dispatch where
  placed : Option BrokerOrder
  result : Except OrderError BrokerOrder

def Dispatch.refused (error : OrderError) : Dispatch := ⟨none, .error error⟩

def assertFailover (failover : JsonFile) : Except OrderError Unit := do
  let status ← failover.textField "status" ""
  if status ∈ ["blocked", "active"] then rejected "broker_failover_active" "RUN-BROKER-API-02"

def loadKillSwitchState (file : JsonFile) : Except OrderError String :=
  (file.textField "state" "none").map lower

def assertKillSwitch (file : JsonFile) (reduceOnly : Bool) : Except OrderError Unit := do
  let state ← loadKillSwitchState file
  if state = "stop" then rejected "kill_switch_stop" "RUN-RISK-01"
  else if state = "reduce_only" ∧ reduceOnly = false then
    rejected "reduce_only_required" "RUN-RISK-01"

def assertPolicy (rules : String → Option SymbolRules) (payload : Mapping) (profile : String) :
    Except OrderError Unit := do
  let violations ← validate rules payload
  let violations := if profile ≠ "live" then
    violations.filter (fun violation => violation.code ≠ "trading_session_closed") else violations
  match violations with
  | [] => return ()
  | primary :: _ => rejected primary.code (orText primary.runbookRef "RUN-BROKER-API-02")

/-- The sandbox is the only adapter; it stands in where the interface is off. -/
def getAdapter (around : Surroundings) (adapter profile : String) : Except OrderError Unit :=
  let adapterName := if around.apiEnabled profile then adapter else "sandbox"
  if adapterName ≠ "sandbox" ∧ around.sandboxOnly profile then
    .error (.brokerAdapterError "broker api sandbox-only mode is enabled")
  else if adapterName = "sandbox" then .ok ()
  else .error (.brokerAdapterError ("unknown broker adapter: " ++ adapterName))

/-- The checks before an order is placed. -/
def guards (around : Surroundings) (killSwitch : JsonFile) (payload : Mapping)
    (fields : OrderFields) : Except OrderError Unit := do
  assertFailover around.failover
  assertKillSwitch killSwitch fields.reduceOnly
  assertPolicy around.policyRules payload fields.profile
  if around.reservation = some false then rejected "rate_limit_deferred" "RUN-BROKER-API-02"
  getAdapter around fields.adapterName fields.profile

/-- A refusal of the adapter is one of the router. -/
def dispatchError : OrderError → OrderError
  | .brokerAccessDenied _ => .orderDispatchRejected "broker_access_denied" "RUN-BROKER-API-02"
  | .brokerOrderRejected message => .orderDispatchRejected message "RUN-BROKER-API-02"
  | error => error

def submit (around : Surroundings) (killSwitch : JsonFile) (payload : Mapping) : Dispatch :=
  match orderFields payload with
  | .error error => .refused error
  | .ok fields =>
    match guards around killSwitch payload fields with
    | .error error => .refused error
    | .ok () =>
      match SandboxAdapter.placeOrder killSwitch (requestOf around.brokerRules fields)
          fields.principalId fields.deviceId around.orderId around.utcnow with
      | .error error => .refused (dispatchError error)
      | .ok order => ⟨some order, .ok order⟩

def submitTicket (around : Surroundings) (killSwitch : JsonFile) (ticket : Mapping) : Dispatch :=
  submit around killSwitch (payloadFromTicket ticket)

/-! ## What the kill switch stops -/

/-- The ways to an order. -/
inductive OrderPath where
  | submit (payload : Mapping)
  | submitTicket (ticket : Mapping)
  | placeOrder (request : BrokerOrderRequest)

def OrderPath.reduceOnly : OrderPath → Bool
  | .submit payload => isReduceOnly payload
  | .submitTicket ticket => isReduceOnly (payloadFromTicket ticket)
  | .placeOrder request => request.reduceOnly

def stopWords : List String := ["soft_stop", "hard_stop", "stop", "reduce_only"]

/-- The file says to stop, in any letter case, or cannot be parsed. -/
def saysStop : JsonFile → Bool
  | .missing => false
  | .undecodable => true
  | .text content =>
    match Json.loads content with
    | none => true
    | some (.map payload) =>
      stopWords.contains (lower (orValue (valueAt payload "state") (.str "none")).text)
    | some _ => false

def Stopping (file : JsonFile) : Prop := saysStop file = true

def IsRejection (error : OrderError) : Prop :=
  ∃ reason runbookRef, error = .orderDispatchRejected reason runbookRef

def Dispatch.Rejected (dispatch : Dispatch) : Prop :=
  dispatch.placed = none ∧ ∃ error, dispatch.result = .error error ∧ IsRejection error

/-- In no surroundings is an order placed, and the path's own rejection is raised. -/
def Stopped (killSwitch : JsonFile) : OrderPath → Prop
  | .submit payload => ∀ around, (submit around killSwitch payload).Rejected
  | .submitTicket ticket => ∀ around, (submitTicket around killSwitch ticket).Rejected
  | .placeOrder request => ∀ principalId deviceId orderId utcnow, ∃ message,
      SandboxAdapter.placeOrder killSwitch request principalId deviceId orderId utcnow =
        .error (.brokerOrderRejected message)

/-- The rules refuse a payload under no symbol of its own. -/
def Unsymboled (payload : Mapping) : Prop :=
  policySymbol payload = "" ∧ ∃ positions, openPositions payload = .ok positions

/-- The payload is refused when it is read; or it is read, and so is the state,
which is one of the two that the router knows unless the payload has no symbol. -/
def PayloadRefused (killSwitch : JsonFile) (payload : Mapping) : Prop :=
  match orderFields payload with
  | .error error => IsRejection error
  | .ok _ => ∃ state, loadKillSwitchState killSwitch = .ok state ∧
      (state = "stop" ∨ state = "reduce_only" ∨ Unsymboled payload)

/-- The adapter knows four spellings of two states. -/
def Known (killSwitch : JsonFile) : OrderPath → Prop
  | .submit payload => PayloadRefused killSwitch payload
  | .submitTicket ticket => PayloadRefused killSwitch (payloadFromTicket ticket)
  | .placeOrder _ => ∃ state, SandboxAdapter.killSwitchState killSwitch = .ok state ∧
      state ∈ ["stop", "STOP", "reduce_only", "REDUCE_ONLY"]

theorem textField_not_rejection {file : JsonFile} {key default : String} {error : OrderError}
    (raised : file.textField key default = .error error) : ¬ IsRejection error := by
  rintro ⟨reason, runbookRef, rfl⟩
  cases JsonFile.textField_error raised with
  | inl absurdity => cases absurdity
  | inr absurdity => cases absurdity

theorem intOf_not_rejection {value : Value} {error : OrderError}
    (raised : intOf value = .error error) : ¬ IsRejection error := by
  rintro ⟨reason, runbookRef, rfl⟩
  unfold intOf at raised
  split at raised
  · split at raised <;> cases raised
  · split at raised <;> cases raised

theorem orderFields_reduceOnly {payload : Mapping} {fields : OrderFields}
    (read : orderFields payload = .ok fields) : fields.reduceOnly = isReduceOnly payload := by
  unfold orderFields at read
  obtain ⟨quantity, -, read⟩ := bind_ok read
  obtain ⟨entryPrice, -, read⟩ := bind_ok read
  obtain ⟨ttlSec, -, read⟩ := bind_ok read
  split at read
  · cases read
  · split at read
    · cases read
    · split at read
      · cases read
      · split at read
        · cases read
        · dsimp only at read
          split at read
          · cases read
          · obtain ⟨price, -, read⟩ := bind_ok read
            cases read
            rfl

section Submit

variable {killSwitch : JsonFile} {payload : Mapping} {fields : OrderFields} {around : Surroundings}

theorem assertFailover_spec (around : Surroundings) :
    assertFailover around.failover = .ok () ∨
      ∃ error, assertFailover around.failover = .error error ∧ IsRejection error := by
  obtain ⟨status, read⟩ := around.failoverRead
  unfold assertFailover
  rw [read]
  by_cases active : status ∈ ["blocked", "active"]
  · exact .inr ⟨_, if_pos active, _, _, rfl⟩
  · exact .inl (if_neg active)

theorem submit_of_fields {error : OrderError} (refused : orderFields payload = .error error) :
    submit around killSwitch payload = .refused error := by
  rw [submit, refused]

theorem submit_of_guard {error : OrderError} (read : orderFields payload = .ok fields)
    (raised : guards around killSwitch payload fields = .error error) :
    submit around killSwitch payload = .refused error := by
  rw [submit, read]
  simp only [raised]

theorem refused_rejected_iff {error : OrderError} :
    (Dispatch.refused error).Rejected ↔ IsRejection error := by
  constructor
  · rintro ⟨-, raised, same, rejection⟩
    cases same
    exact rejection
  · exact fun rejection => ⟨rfl, error, rfl, rejection⟩

theorem guards_rejects (around : Surroundings)
    (rejects : assertFailover around.failover = .ok () →
      ∃ error, guards around killSwitch payload fields = .error error ∧ IsRejection error) :
    ∃ error, guards around killSwitch payload fields = .error error ∧ IsRejection error := by
  cases assertFailover_spec around with
  | inl passed => exact rejects passed
  | inr rejected =>
    obtain ⟨error, raised, rejection⟩ := rejected
    refine ⟨error, ?_, rejection⟩
    rw [guards, raised]
    rfl

theorem assertKillSwitch_known {state : String} (read : loadKillSwitchState killSwitch = .ok state)
    (known : state = "stop" ∨ state = "reduce_only") :
    ∃ error, assertKillSwitch killSwitch false = .error error ∧ IsRejection error := by
  rw [assertKillSwitch, read]
  cases known with
  | inl stop => exact ⟨_, if_pos stop, _, _, rfl⟩
  | inr reduces =>
    subst reduces
    exact ⟨_, rfl, _, _, rfl⟩

theorem assertKillSwitch_unknown {state : String}
    (read : loadKillSwitchState killSwitch = .ok state)
    (unknown : ¬ (state = "stop" ∨ state = "reduce_only")) (reduceOnly : Bool) :
    assertKillSwitch killSwitch reduceOnly = .ok () := by
  obtain ⟨notStop, notReduces⟩ := not_or.mp unknown
  rw [assertKillSwitch, read]
  simp only [bind, Except.bind, if_neg notStop,
    if_neg (fun both : state = "reduce_only" ∧ reduceOnly = false => notReduces both.1)]
  rfl

theorem assertPolicy_unsymboled (unsymboled : Unsymboled payload)
    (rules : String → Option SymbolRules) (profile : String) :
    ∃ error, assertPolicy rules payload profile = .error error ∧ IsRejection error := by
  obtain ⟨absent, positions, counted⟩ := unsymboled
  have violations : validate rules payload = .ok [{ code := "symbol_missing" }] := by
    rw [validate, counted]
    exact if_pos absent
  rw [assertPolicy, violations]
  by_cases live : profile ≠ "live"
  · simp only [bind, Except.bind, if_pos live]
    exact ⟨_, rfl, _, _, rfl⟩
  · simp only [bind, Except.bind, if_neg live]
    exact ⟨_, rfl, _, _, rfl⟩

/-- Rules without a restriction let every symbol pass. -/
def unrestricted (_symbol : String) : Option SymbolRules := some { pipSize := 0 }

theorem assertPolicy_unrestricted {positions : Int}
    (counted : openPositions payload = .ok positions) (present : policySymbol payload ≠ "")
    (profile : String) : assertPolicy unrestricted payload profile = .ok () := by
  have violations : validate unrestricted payload = .ok [] := by
    rw [validate, counted]
    exact if_neg present
  rw [assertPolicy, violations]
  by_cases live : profile ≠ "live"
  · simp only [bind, Except.bind, if_pos live]
    rfl
  · simp only [bind, Except.bind, if_neg live]
    rfl

/-- No failover, no limiter, no flag and no restriction. -/
def permissive : Surroundings where
  brokerRules := fun _ => none
  policyRules := unrestricted
  orderId := "sbx-000000000000"
  utcnow := "2024-01-02T00:00:00Z"

theorem guards_permissive (fields : OrderFields) :
    guards permissive killSwitch payload fields =
      (assertKillSwitch killSwitch fields.reduceOnly).bind fun _ =>
        assertPolicy unrestricted payload fields.profile := by
  unfold guards
  cases assertKillSwitch killSwitch fields.reduceOnly with
  | error error => rfl
  | ok passed =>
    have rules : permissive.policyRules = unrestricted := rfl
    simp only [rules]
    cases assertPolicy unrestricted payload fields.profile <;> rfl

theorem killSwitchState_of_load {state : String}
    (read : loadKillSwitchState killSwitch = .ok state) :
    ∃ spelled, SandboxAdapter.killSwitchState killSwitch = .ok spelled ∧ lower spelled = state := by
  unfold loadKillSwitchState at read
  cases spelling : killSwitch.textField "state" "none" with
  | error error =>
    rw [spelling] at read
    cases read
  | ok spelled =>
    rw [spelling] at read
    exact ⟨spelled, spelling, Except.ok.inj read⟩

theorem not_spelled_of_unknown {spelled : String}
    (unknown : ¬ (lower spelled = "stop" ∨ lower spelled = "reduce_only")) :
    spelled ∉ ["stop", "STOP", "reduce_only", "REDUCE_ONLY"] := by
  have known : ∀ other ∈ ["stop", "STOP", "reduce_only", "REDUCE_ONLY"],
      lower other = "stop" ∨ lower other = "reduce_only" := by decide
  exact fun member => unknown (known spelled member)

theorem submit_rejected (opens : isReduceOnly payload = false)
    (refused : PayloadRefused killSwitch payload) (around : Surroundings) :
    (submit around killSwitch payload).Rejected := by
  unfold PayloadRefused at refused
  cases read : orderFields payload with
  | error error =>
    rw [read] at refused
    rw [submit_of_fields read]
    exact refused_rejected_iff.mpr refused
  | ok fields =>
    rw [read] at refused
    obtain ⟨state, loaded, grounds⟩ := refused
    have opensRead := orderFields_reduceOnly read
    rw [opens] at opensRead
    have rejects : ∃ error, guards around killSwitch payload fields = .error error ∧
        IsRejection error := by
      refine guards_rejects around fun passed => ?_
      rw [guards, passed, opensRead]
      by_cases known : state = "stop" ∨ state = "reduce_only"
      · obtain ⟨error, raised, rejection⟩ := assertKillSwitch_known loaded known
        rw [raised]
        exact ⟨error, rfl, rejection⟩
      · have unsymboled := (or_assoc.mpr grounds).resolve_left known
        rw [assertKillSwitch_unknown loaded known]
        obtain ⟨error, raised, rejection⟩ :=
          assertPolicy_unsymboled unsymboled around.policyRules fields.profile
        rw [raised]
        exact ⟨error, rfl, rejection⟩
    obtain ⟨error, raised, rejection⟩ := rejects
    rw [submit_of_guard read raised]
    exact refused_rejected_iff.mpr rejection

theorem refused_of_permissive
    (rejected : (submit permissive killSwitch payload).Rejected) :
    PayloadRefused killSwitch payload := by
  unfold PayloadRefused
  cases read : orderFields payload with
  | error error =>
    rw [submit_of_fields read] at rejected
    exact refused_rejected_iff.mp rejected
  | ok fields =>
    have raises : ∀ error, guards permissive killSwitch payload fields = .error error →
        IsRejection error := by
      intro error raised
      rw [submit_of_guard read raised] at rejected
      exact refused_rejected_iff.mp rejected
    rw [guards_permissive] at raises
    cases loaded : loadKillSwitchState killSwitch with
    | error error =>
      have unread : killSwitch.textField "state" "none" = .error error := by
        unfold loadKillSwitchState at loaded
        cases spelling : killSwitch.textField "state" "none" with
        | error other =>
          rw [spelling] at loaded
          cases loaded
          rfl
        | ok spelled =>
          rw [spelling] at loaded
          cases loaded
      refine absurd (raises error ?_) (textField_not_rejection unread)
      rw [assertKillSwitch, loaded]
      rfl
    | ok state =>
      refine ⟨state, rfl, or_assoc.mp (or_iff_not_imp_left.mpr fun unknown => ?_)⟩
      rw [assertKillSwitch_unknown loaded unknown] at raises
      cases counted : openPositions payload with
      | error error =>
        refine absurd (raises error ?_) (intOf_not_rejection counted)
        change assertPolicy unrestricted payload fields.profile = .error error
        rw [assertPolicy, validate, counted]
        rfl
      | ok positions =>
        refine ⟨not_not.mp fun present => ?_, positions, counted⟩
        have passes : guards permissive killSwitch payload fields = .ok () := by
          rw [guards_permissive, assertKillSwitch_unknown loaded unknown]
          exact assertPolicy_unrestricted counted present fields.profile
        obtain ⟨spelled, spelling, lowered⟩ := killSwitchState_of_load loaded
        rw [← lowered] at unknown
        have placed := @SandboxAdapter.placeOrder_of_passed killSwitch
          (requestOf permissive.brokerRules fields) spelled spelling
          (not_spelled_of_unknown unknown) fields.principalId fields.deviceId
          permissive.orderId permissive.utcnow
        obtain ⟨order, placed⟩ := placed
        rw [submit, read] at rejected
        simp only [passes, placed] at rejected
        cases rejected.1

end Submit

/-- The kill switch stops a path to an order exactly where the path knows the
state of the file, or would refuse the order without it. -/
theorem killSwitch_stops_iff (killSwitch : JsonFile) (path : OrderPath) :
    (Stopping killSwitch → path.reduceOnly = false → Stopped killSwitch path) ↔
      (Stopping killSwitch → path.reduceOnly = false → Known killSwitch path) := by
  refine imp_congr_right fun _ => imp_congr_right fun opens => ?_
  cases path with
  | submit payload =>
    exact ⟨fun stopped => refused_of_permissive (stopped permissive), submit_rejected opens⟩
  | submitTicket ticket =>
    exact ⟨fun stopped => refused_of_permissive (stopped permissive), submit_rejected opens⟩
  | placeOrder request =>
    constructor
    · intro stopped
      obtain ⟨message, rejects⟩ := stopped "" "" "" ""
      cases read : SandboxAdapter.killSwitchState killSwitch with
      | error error =>
        rw [SandboxAdapter.placeOrder_of_unread read] at rejects
        cases rejects
        cases JsonFile.textField_error read with
        | inl absurdity => cases absurdity
        | inr absurdity => cases absurdity
      | ok state =>
        refine ⟨state, read, not_not.mp fun passed => ?_⟩
        have placed := @SandboxAdapter.placeOrder_of_passed killSwitch request state read
          passed "" "" "" ""
        obtain ⟨order, placed⟩ := placed
        rw [placed] at rejects
        cases rejects
    · rintro ⟨state, read, stopped⟩ principalId deviceId orderId utcnow
      exact SandboxAdapter.placeOrder_of_stopped read stopped opens principalId deviceId orderId
        utcnow

/-! ## States that pass -/

def stateFile (state : String) : JsonFile :=
  .text (Json.dumps true (.map [("state", .str state)]))

def sampleTicket : Mapping :=
  [("ticket_id", .str "ticket-1"), ("symbol", .str "USDJPY"), ("side", .str "buy"),
    ("quantity", .int 1), ("principal_id", .str "ops"), ("device_id", .str "desk")]

def sampleRequest : BrokerOrderRequest where
  ticketId := "ticket-1"
  symbol := "USDJPY"
  side := "buy"
  quantity := .finite 1

theorem not_rejected_of_placed {dispatch : Dispatch} (placed : dispatch.placed.isSome = true) :
    ¬ dispatch.Rejected := by
  intro rejected
  rw [rejected.1] at placed
  cases placed

/-- A soft stop and a file that does not parse stop neither path, and the adapter
does not know another spelling. -/
theorem soft_stop_passes :
    ¬ (Stopping (stateFile "soft_stop") → (OrderPath.submit sampleTicket).reduceOnly = false →
      Stopped (stateFile "soft_stop") (.submit sampleTicket)) ∧
    ¬ (Stopping (.text ['s', 't', 'o', 'p']) →
      (OrderPath.submit sampleTicket).reduceOnly = false →
      Stopped (.text ['s', 't', 'o', 'p']) (.submit sampleTicket)) ∧
    ¬ (Stopping (stateFile "Stop") → (OrderPath.placeOrder sampleRequest).reduceOnly = false →
      Stopped (stateFile "Stop") (.placeOrder sampleRequest)) := by
  refine ⟨fun law => ?_, fun law => ?_, fun law => ?_⟩
  · have stopping : saysStop (stateFile "soft_stop") = true := by decide +kernel
    exact not_rejected_of_placed (by decide +kernel) (law stopping rfl permissive)
  · have stopping : saysStop (.text ['s', 't', 'o', 'p']) = true := by decide +kernel
    exact not_rejected_of_placed (by decide +kernel) (law stopping rfl permissive)
  · have stopping : saysStop (stateFile "Stop") = true := by decide +kernel
    have read : SandboxAdapter.killSwitchState (stateFile "Stop") = .ok "Stop" := by
      decide +kernel
    obtain ⟨message, rejects⟩ := law stopping rfl "ops" "desk" "sbx-000000000000" ""
    have placed := @SandboxAdapter.placeOrder_of_passed (stateFile "Stop") sampleRequest "Stop" read
      (by decide) "ops" "desk" "sbx-000000000000" ""
    obtain ⟨order, placed⟩ := placed
    rw [placed] at rejects
    cases rejects

end FxToushi.Execution
