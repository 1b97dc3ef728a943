import FxToushi.Execution.OrderRouter

namespace FxToushi.Execution

open Data Py Brokers

/-! # What the router reads

When a payload is read, when it is refused, and what reaches the adapter.
-/

/-! ## The fields of a payload -/

def orderSide (payload : Mapping) : String :=
  normalizeSide (orValue (valueAt payload "side") (valueAt payload "direction"))

def quantityValue (payload : Mapping) : Value :=
  orValue (valueAt payload "quantity") (valueAt payload "size_lot")

def ttlValue (payload : Mapping) : Value :=
  orValue (valueAt payload "ttl_sec") (valueAt payload "ttl_seconds")

def principalOf (payload : Mapping) : String :=
  (orValue (valueAt payload "principal_id") (.str "")).text

def deviceOf (payload : Mapping) : String := (orValue (valueAt payload "device_id") (.str "")).text

def entryTypeOf (payload : Mapping) : String := textOr payload "entry_type" "entry_mode" "market"

/-- The fields, once the numbers among them are read. -/
def readFields (payload : Mapping) (quantity : Extended) (entryPrice : Option Extended)
    (ttlSec : Option Int) (price : Option Extended) : OrderFields where
  ticketId := textOr payload "ticket_id" "id" ""
  symbol := textOr payload "symbol" "pair" ""
  side := orderSide payload
  quantity
  entryType := entryTypeOf payload
  entryPrice
  price
  reduceOnly := isReduceOnly payload
  ttlSec
  adapterName := (orValue (valueAt payload "adapter") (.str "sandbox")).text
  profile := textOr payload "profile" "mode" "paper"
  principalId := principalOf payload
  deviceId := deviceOf payload

/-- No number overflows before the payload is checked. -/
structure Convertible (payload : Mapping) : Prop where
  quantity : ∃ number, coerceFloat (quantityValue payload) = .ok number
  entryPrice : ∃ number, coerceFloat (valueAt payload "entry_price") = .ok number
  ttlSec : ∃ number, coerceInt (ttlValue payload) = .ok number

/-- Nothing that the router asks for is missing. -/
structure Described (payload : Mapping) : Prop where
  ticketId : textOr payload "ticket_id" "id" "" ≠ ""
  symbol : textOr payload "symbol" "pair" "" ≠ ""
  side : orderSide payload ∈ ["buy", "sell"]
  quantity : coerceFloat (quantityValue payload) ≠ .ok none
  principalId : principalOf payload ≠ ""
  deviceId : deviceOf payload ≠ ""

/-- A payload that the router can read. -/
structure Readable (payload : Mapping) : Prop where
  convertible : Convertible payload
  described : Described payload
  price : ∃ number, coerceFloat (valueAt payload "price") = .ok number

/-- The checks of `_build_request_payload`, after the first numbers are read. -/
def checkedFields (payload : Mapping) (quantity entryPrice : Option Extended)
    (ttlSec : Option Int) : Except OrderError OrderFields :=
  if textOr payload "ticket_id" "id" "" = "" then rejected "ticket_id_missing"
  else if textOr payload "symbol" "pair" "" = "" then rejected "symbol_missing"
  else if orderSide payload ∉ ["buy", "sell"] then rejected "side_missing"
  else match quantity with
    | none => rejected "quantity_missing"
    | some quantity =>
      if principalOf payload = "" ∨ deviceOf payload = "" then
        rejected "principal_or_device_missing"
      else do
        let price ← coerceFloat (valueAt payload "price")
        return readFields payload quantity entryPrice ttlSec price

theorem orderFields_eq (payload : Mapping) :
    orderFields payload = (do
      let quantity ← coerceFloat (quantityValue payload)
      let entryPrice ← coerceFloat (valueAt payload "entry_price")
      let ttlSec ← coerceInt (ttlValue payload)
      checkedFields payload quantity entryPrice ttlSec) := rfl

section Fields

variable {payload : Mapping} {fields : OrderFields} {quantity : Extended}
  {entryPrice price : Option Extended} {ttlSec : Option Int}

theorem checkedFields_of_described (described : Described payload) (quantity : Extended)
    (entryPrice : Option Extended) (ttlSec : Option Int) :
    checkedFields payload (some quantity) entryPrice ttlSec = (do
      let price ← coerceFloat (valueAt payload "price")
      return readFields payload quantity entryPrice ttlSec price) := by
  have someone : ¬ (principalOf payload = "" ∨ deviceOf payload = "") :=
    not_or.mpr ⟨described.principalId, described.deviceId⟩
  rw [checkedFields, if_neg described.ticketId, if_neg described.symbol,
    if_neg (not_not.mpr described.side)]
  exact if_neg someone

/-- A payload that is not described is rejected, whatever its price. -/
theorem checkedFields_of_missing {quantity : Option Extended}
    (read : coerceFloat (quantityValue payload) = .ok quantity) (missing : ¬ Described payload)
    (entryPrice : Option Extended) (ttlSec : Option Int) :
    ∃ error, checkedFields payload quantity entryPrice ttlSec = .error error ∧
      IsRejection error := by
  unfold checkedFields
  by_cases ticketId : textOr payload "ticket_id" "id" "" = ""
  · exact ⟨_, if_pos ticketId, _, _, rfl⟩
  by_cases symbol : textOr payload "symbol" "pair" "" = ""
  · rw [if_neg ticketId]
    exact ⟨_, if_pos symbol, _, _, rfl⟩
  by_cases side : orderSide payload ∈ ["buy", "sell"]
  · rw [if_neg ticketId, if_neg symbol, if_neg (not_not.mpr side)]
    cases quantity with
    | none => exact ⟨_, rfl, _, _, rfl⟩
    | some quantity =>
      by_cases anyone : principalOf payload = "" ∨ deviceOf payload = ""
      · exact ⟨_, if_pos anyone, _, _, rfl⟩
      · obtain ⟨principalId, deviceId⟩ := not_or.mp anyone
        have counted : coerceFloat (quantityValue payload) ≠ .ok none := by
          rw [read]
          simp
        exact absurd ⟨ticketId, symbol, side, counted, principalId, deviceId⟩ missing
  · rw [if_neg ticketId, if_neg symbol]
    exact ⟨_, if_pos side, _, _, rfl⟩

theorem orderFields_ok_iff :
    orderFields payload = .ok fields ↔ ∃ quantity entryPrice ttlSec price,
      coerceFloat (quantityValue payload) = .ok (some quantity) ∧
      coerceFloat (valueAt payload "entry_price") = .ok entryPrice ∧
      coerceInt (ttlValue payload) = .ok ttlSec ∧
      coerceFloat (valueAt payload "price") = .ok price ∧ Described payload ∧
      fields = readFields payload quantity entryPrice ttlSec price := by
  rw [orderFields_eq]
  constructor
  · intro read
    obtain ⟨quantity, quantityRead, read⟩ := bind_ok read
    obtain ⟨entryPrice, entryRead, read⟩ := bind_ok read
    obtain ⟨ttlSec, ttlRead, read⟩ := bind_ok read
    by_cases described : Described payload
    · cases quantity with
      | none => exact absurd quantityRead described.quantity
      | some quantity =>
        rw [checkedFields_of_described described] at read
        obtain ⟨price, priceRead, read⟩ := bind_ok read
        exact ⟨quantity, entryPrice, ttlSec, price, quantityRead, entryRead, ttlRead, priceRead,
          described, (Except.ok.inj read).symm⟩
    · obtain ⟨error, raised, -⟩ := checkedFields_of_missing quantityRead described entryPrice ttlSec
      rw [raised] at read
      cases read
  · intro ⟨quantity, entryPrice, ttlSec, price, quantityRead, entryRead, ttlRead, priceRead,
      described, same⟩
    rw [quantityRead, entryRead, ttlRead, same]
    refine (checkedFields_of_described described quantity entryPrice ttlSec).trans ?_
    rw [priceRead]
    rfl

/-- Where the fields that make a request come from. -/
structure FieldsRead (payload : Mapping) (fields : OrderFields) : Prop where
  described : Described payload
  symbol : fields.symbol = textOr payload "symbol" "pair" ""
  side : fields.side = orderSide payload
  entryType : fields.entryType = entryTypeOf payload
  quantity : coerceFloat (quantityValue payload) = .ok (some fields.quantity)
  entryPrice : coerceFloat (valueAt payload "entry_price") = .ok fields.entryPrice
  price : coerceFloat (valueAt payload "price") = .ok fields.price

theorem fieldsRead_of_orderFields (read : orderFields payload = .ok fields) :
    FieldsRead payload fields := by
  obtain ⟨quantity, entryPrice, ttlSec, price, quantityRead, entryRead, -, priceRead, described,
    rfl⟩ := orderFields_ok_iff.mp read
  exact ⟨described, by simp only [readFields], by simp only [readFields],
    by simp only [readFields], quantityRead, entryRead, priceRead⟩

theorem orderFields_ok_iff_readable :
    (∃ fields, orderFields payload = .ok fields) ↔ Readable payload := by
  constructor
  · intro ⟨fields, read⟩
    obtain ⟨quantity, entryPrice, ttlSec, price, quantityRead, entryRead, ttlRead, priceRead,
      described, -⟩ := orderFields_ok_iff.mp read
    exact ⟨⟨⟨_, quantityRead⟩, ⟨_, entryRead⟩, _, ttlRead⟩, described, _, priceRead⟩
  · intro readable
    obtain ⟨quantity, quantityRead⟩ := readable.convertible.quantity
    obtain ⟨entryPrice, entryRead⟩ := readable.convertible.entryPrice
    obtain ⟨ttlSec, ttlRead⟩ := readable.convertible.ttlSec
    obtain ⟨price, priceRead⟩ := readable.price
    cases quantity with
    | none => exact absurd quantityRead readable.described.quantity
    | some quantity =>
      exact ⟨_, orderFields_ok_iff.mpr ⟨quantity, entryPrice, ttlSec, price, quantityRead,
        entryRead, ttlRead, priceRead, readable.described, rfl⟩⟩

theorem coerceFloat_not_rejection {value : Value} {error : OrderError}
    (raised : coerceFloat value = .error error) : ¬ IsRejection error := by
  intro ⟨reason, runbookRef, same⟩
  subst same
  unfold coerceFloat at raised
  split at raised
  case h_2 =>
    split at raised <;> cases raised
  all_goals cases raised

theorem coerceInt_not_rejection {value : Value} {error : OrderError}
    (raised : coerceInt value = .error error) : ¬ IsRejection error := by
  cases unread : intOf value with
  | ok number =>
    rw [coerceInt, unread] at raised
    cases raised
  | error other =>
    rw [coerceInt, unread] at raised
    have plain := intOf_not_rejection unread
    cases other with
    | python other => cases raised
    | _ =>
      cases raised
      exact plain

/-- The router itself refuses a payload in which something is missing, once the
numbers that it reads first are read. -/
theorem orderFields_rejection_iff :
    (∃ error, orderFields payload = .error error ∧ IsRejection error) ↔
      Convertible payload ∧ ¬ Described payload := by
  rw [orderFields_eq]
  constructor
  · intro ⟨error, raised, rejection⟩
    cases quantityRead : coerceFloat (quantityValue payload) with
    | error other =>
      rw [quantityRead] at raised
      cases raised
      exact absurd rejection (coerceFloat_not_rejection quantityRead)
    | ok quantity =>
      cases entryRead : coerceFloat (valueAt payload "entry_price") with
      | error other =>
        rw [quantityRead, entryRead] at raised
        cases raised
        exact absurd rejection (coerceFloat_not_rejection entryRead)
      | ok entryPrice =>
        cases ttlRead : coerceInt (ttlValue payload) with
        | error other =>
          rw [quantityRead, entryRead, ttlRead] at raised
          cases raised
          exact absurd rejection (coerceInt_not_rejection ttlRead)
        | ok ttlSec =>
          refine ⟨⟨⟨_, quantityRead⟩, ⟨_, entryRead⟩, _, ttlRead⟩, fun described => ?_⟩
          rw [quantityRead, entryRead, ttlRead] at raised
          cases quantity with
          | none => exact described.quantity quantityRead
          | some quantity =>
            have checked := (checkedFields_of_described described quantity entryPrice
              ttlSec).symm.trans raised
            cases priceRead : coerceFloat (valueAt payload "price") with
            | error other =>
              rw [priceRead] at checked
              cases checked
              exact coerceFloat_not_rejection priceRead rejection
            | ok price =>
              rw [priceRead] at checked
              cases checked
  · intro ⟨convertible, missing⟩
    obtain ⟨quantity, quantityRead⟩ := convertible.quantity
    obtain ⟨entryPrice, entryRead⟩ := convertible.entryPrice
    obtain ⟨ttlSec, ttlRead⟩ := convertible.ttlSec
    rw [quantityRead, entryRead, ttlRead]
    exact checkedFields_of_missing quantityRead missing entryPrice ttlSec

end Fields

/-! ## What reaches the adapter -/

def Dispatch.Accepted (dispatch : Dispatch) : Prop := ∃ order, dispatch.result = .ok order

/-- The request that the adapter is asked to place. -/
def sentRequest (around : Surroundings) (killSwitch : JsonFile) (payload : Mapping) :
    Option BrokerOrderRequest :=
  match orderFields payload with
  | .error _ => none
  | .ok fields =>
    match guards around killSwitch payload fields with
    | .error _ => none
    | .ok () => some (requestOf around.brokerRules fields)

/-- The checks before the limiter is asked for a token. -/
def checks (around : Surroundings) (killSwitch : JsonFile) (payload : Mapping)
    (fields : OrderFields) : Except OrderError Unit := do
  assertFailover around.failover
  assertKillSwitch killSwitch fields.reduceOnly
  assertPolicy around.policyRules payload fields.profile

/-- The limiter is asked for a token, and gives it. -/
def reservesToken (around : Surroundings) (killSwitch : JsonFile) (payload : Mapping) : Bool :=
  match orderFields payload with
  | .error _ => false
  | .ok fields => (checks around killSwitch payload fields).toBool &&
      around.reservation == some true

theorem guards_eq (around : Surroundings) (killSwitch : JsonFile) (payload : Mapping)
    (fields : OrderFields) :
    guards around killSwitch payload fields = (do
      checks around killSwitch payload fields
      if around.reservation = some false then
        rejected "rate_limit_deferred" "RUN-BROKER-API-02"
      getAdapter around fields.adapterName fields.profile) := by
  unfold guards checks
  cases assertFailover around.failover with
  | error error => rfl
  | ok passed =>
    cases assertKillSwitch killSwitch fields.reduceOnly with
    | error error => rfl
    | ok passed => rfl

theorem requestOf_price (rules : String → Option SymbolRules) (fields : OrderFields) :
    (requestOf rules fields).price =
      if fields.entryType = "marketable_limit" ∧ fields.price = none then
        deriveMarketableLimitPrice rules fields
      else fields.price := rfl

theorem requestOf_side (rules : String → Option SymbolRules) (fields : OrderFields) :
    (requestOf rules fields).side = fields.side := rfl

section Sent

variable {around : Surroundings} {killSwitch : JsonFile} {payload : Mapping}
  {fields : OrderFields} {request : BrokerOrderRequest}

theorem submit_of_sent (sent : sentRequest around killSwitch payload = some request) :
    ∃ principalId deviceId, submit around killSwitch payload =
      match SandboxAdapter.placeOrder killSwitch request principalId deviceId around.orderId
          around.utcnow with
      | .error error => .refused (dispatchError error)
      | .ok order => ⟨some order, .ok order⟩ := by
  unfold sentRequest at sent
  cases read : orderFields payload with
  | error error =>
    rw [read] at sent
    cases sent
  | ok fields =>
    cases guarded : guards around killSwitch payload fields with
    | error error =>
      simp only [read, guarded] at sent
      cases sent
    | ok passed =>
      simp only [read, guarded] at sent
      refine ⟨fields.principalId, fields.deviceId, ?_⟩
      rw [← Option.some.inj sent, submit, read]
      cases placed : SandboxAdapter.placeOrder killSwitch (requestOf around.brokerRules fields)
        fields.principalId fields.deviceId around.orderId around.utcnow <;>
        simp only [guarded, placed]

theorem submit_of_not_sent (unsent : sentRequest around killSwitch payload = none) :
    ∃ error, submit around killSwitch payload = .refused error := by
  unfold sentRequest at unsent
  cases read : orderFields payload with
  | error error => exact ⟨error, submit_of_fields read⟩
  | ok fields =>
    cases guarded : guards around killSwitch payload fields with
    | error error => exact ⟨error, submit_of_guard read guarded⟩
    | ok passed =>
      simp only [read, guarded] at unsent
      cases unsent

theorem sentRequest_of_passed (read : orderFields payload = .ok fields)
    (passed : guards around killSwitch payload fields = .ok ()) :
    sentRequest around killSwitch payload = some (requestOf around.brokerRules fields) := by
  rw [sentRequest, read]
  simp only [passed]

theorem fields_of_sent (sent : sentRequest around killSwitch payload = some request) :
    ∃ fields, orderFields payload = .ok fields ∧
      guards around killSwitch payload fields = .ok () ∧
      request = requestOf around.brokerRules fields := by
  unfold sentRequest at sent
  cases read : orderFields payload with
  | error error =>
    rw [read] at sent
    cases sent
  | ok fields =>
    cases guarded : guards around killSwitch payload fields with
    | error error =>
      simp only [read, guarded] at sent
      cases sent
    | ok passed =>
      simp only [read, guarded] at sent
      exact ⟨fields, rfl, guarded, (Option.some.inj sent).symm⟩

theorem accepted_of_passed (read : orderFields payload = .ok fields)
    (passed : guards around .missing payload fields = .ok ()) :
    (submit around .missing payload).Accepted := by
  have spelled : SandboxAdapter.killSwitchState .missing = .ok "none" := rfl
  obtain ⟨principalId, deviceId, submitted⟩ := submit_of_sent (sentRequest_of_passed read passed)
  obtain ⟨order, placed⟩ := @SandboxAdapter.placeOrder_of_passed .missing
    (requestOf around.brokerRules fields) "none" spelled (by decide) principalId deviceId
    around.orderId around.utcnow
  rw [placed] at submitted
  rw [submitted]
  exact ⟨order, rfl⟩

/-- No restriction but the prices of `rules`. -/
def permissiveWith (rules : String → Option SymbolRules) : Surroundings :=
  { permissive with brokerRules := rules }

theorem loadKillSwitchState_missing : loadKillSwitchState .missing = .ok "none" := by
  decide +kernel

theorem guards_permissiveWith (rules : String → Option SymbolRules) {positions : Int}
    (counted : openPositions payload = .ok positions) (present : policySymbol payload ≠ "")
    (fields : OrderFields) : guards (permissiveWith rules) .missing payload fields = .ok () := by
  have same : guards (permissiveWith rules) .missing payload fields =
      guards permissive .missing payload fields := rfl
  have unknown : ¬ ("none" = "stop" ∨ "none" = "reduce_only") := by decide
  rw [same, guards_permissive, assertKillSwitch_unknown loadKillSwitchState_missing unknown]
  exact assertPolicy_unrestricted counted present fields.profile

end Sent

/-! ## The two ways to the router -/

inductive Submission where
  | byPayload (payload : Mapping)
  | byTicket (ticket : Mapping)

namespace Submission

/-- The payload that is submitted. -/
def handed : Submission → Mapping
  | .byPayload payload => payload
  | .byTicket ticket => payloadFromTicket ticket

def dispatch (around : Surroundings) (killSwitch : JsonFile) : Submission → Dispatch
  | .byPayload payload => submit around killSwitch payload
  | .byTicket ticket => submitTicket around killSwitch ticket

def symbol (submission : Submission) : String := textOr submission.handed "symbol" "pair" ""

theorem dispatch_eq (submission : Submission) (around : Surroundings)
    (killSwitch : JsonFile) :
    submission.dispatch around killSwitch = submit around killSwitch submission.handed := by
  cases submission <;> rfl

/-- The value that the flag of the request is read from. -/
def flag : Submission → Value
  | .byPayload payload => (payload.get? "reduce_only").getD (.bool false)
  | .byTicket ticket => ((sectionOf ticket "position").get? "reduce_only").getD (.bool false)

theorem flag_truth (submission : Submission) :
    isReduceOnly submission.handed = submission.flag.truth := by
  cases submission <;> rfl

end Submission

end FxToushi.Execution
