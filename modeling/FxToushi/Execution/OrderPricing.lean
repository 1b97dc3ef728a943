import FxToushi.Execution.OrderReading

namespace FxToushi.Execution

open Data Py Brokers

/-! # The price of a marketable limit order

A ticket is turned into a payload in which the entry price is the price as
well, and a price is not protected again.
-/

/-! ## Alternatives -/

theorem orValue_of_true {left : Value} (present : left.truth = true) (right : Value) :
    orValue left right = left := if_pos present

theorem orValue_of_false {left : Value} (absent : left.truth = false) (right : Value) :
    orValue left right = right := by
  rw [orValue, absent]
  rfl

theorem orValue_skip {middle : Value} (absent : middle.truth = false) (left right : Value) :
    orValue (orValue left middle) right = orValue left right := by
  cases present : left.truth with
  | true => rw [orValue_of_true present, orValue_of_true present]
  | false => rw [orValue_of_false present, orValue_of_false present, orValue_of_false absent]

theorem orValue_again (left right : Value) :
    orValue (orValue left right) right = orValue left right := by
  cases present : left.truth with
  | true => rw [orValue_of_true present, orValue_of_true present]
  | false =>
    rw [orValue_of_false present]
    exact ite_self right

theorem normalizeSide_orValue_null (side : Value) :
    normalizeSide (orValue side .null) = normalizeSide side := by
  rw [normalizeSide, orValue_skip rfl]
  rfl

/-- A side that is normalized stays as it is. -/
theorem normalizeSide_again (side : Value) :
    normalizeSide (.str (normalizeSide side)) = normalizeSide side := by
  have plain (text : String) : (orValue (.str text) (.str "")).text = text := by
    by_cases empty : text = ""
    · subst empty
      rfl
    · rw [orValue_of_true (by simpa [Value.truth] using empty)]
      rfl
  have again (text : String) : normalizeSide (.str text) =
      if lower text ∈ ["long", "buy"] then "buy"
      else if lower text ∈ ["short", "sell"] then "sell" else lower text := by
    rw [normalizeSide, plain]
  have first : normalizeSide side = normalizeSide (.str (orValue side (.str "")).text) := by
    rw [again, normalizeSide]
  rw [first]
  generalize (orValue side (.str "")).text = text
  rw [again text]
  by_cases buys : lower text ∈ ["long", "buy"]
  · rw [if_pos buys]
    decide +kernel
  · by_cases sells : lower text ∈ ["short", "sell"]
    · rw [if_neg buys, if_pos sells]
      decide +kernel
    · rw [if_neg buys, if_neg sells, again, lower_lower, if_neg buys, if_neg sells]

/-! ## The protected price -/

/-- The price of a side, protected by an offset. -/
def protectedPrice (offset : Rat) (side : String) (entryPrice : Extended) : Extended :=
  if side = "buy" then entryPrice + .finite offset else entryPrice - .finite offset

theorem protectedPrice_special {entryPrice : Extended}
    (special : ∀ value, entryPrice ≠ .finite value) (offset : Rat) (side : String) :
    protectedPrice offset side entryPrice = entryPrice := by
  cases entryPrice with
  | finite value => exact absurd rfl (special value)
  | infinite negative => exact ite_self _
  | nan => exact ite_self _

theorem protectedPrice_finite_iff (offset : Rat) (side : String) (entryPrice : Rat) :
    protectedPrice offset side (.finite entryPrice) = .finite entryPrice ↔ offset = 0 := by
  rw [protectedPrice]
  split
  · have sum : Extended.finite entryPrice + .finite offset = .finite (entryPrice + offset) := rfl
    rw [sum, Extended.finite.injEq, add_eq_left]
  · have difference : Extended.finite entryPrice - .finite offset =
      .finite (entryPrice + -offset) := rfl
    rw [difference, Extended.finite.injEq, add_eq_left, neg_eq_zero]

theorem protectedPrice_map {number : Option Extended} {offset : Rat}
    (unprotectable : (∀ value : Rat, number ≠ some (.finite value)) ∨ offset = 0)
    (side : String) : number.map (protectedPrice offset side) = number := by
  cases number with
  | none => rfl
  | some number =>
    cases unprotectable with
    | inl special =>
      refine congrArg some (protectedPrice_special (fun value same => ?_) offset side)
      exact special value (congrArg some same)
    | inr nothing =>
      cases number with
      | finite value =>
        exact congrArg some ((protectedPrice_finite_iff offset side value).mpr nothing)
      | infinite negative =>
        exact congrArg some (protectedPrice_special (by simp) offset side)
      | nan => exact congrArg some (protectedPrice_special (by simp) offset side)

/-- What the rules of a symbol add to a price that is bought. -/
def protection (rules : String → Option SymbolRules) (symbol : String) : Rat :=
  ((rules symbol).bind fun rule => rule.protectPips.map (· * rule.pipSize)).getD 0

theorem deriveMarketableLimitPrice_eq (rules : String → Option SymbolRules)
    (fields : OrderFields) : deriveMarketableLimitPrice rules fields =
      fields.entryPrice.map (protectedPrice (protection rules fields.symbol) fields.side) := by
  rw [deriveMarketableLimitPrice, protection]
  cases fields.entryPrice with
  | none => rfl
  | some entryPrice =>
    cases (rules fields.symbol).bind fun rule => rule.protectPips.map (· * rule.pipSize) with
    | none => exact (@protectedPrice_map (some entryPrice) 0 (.inr rfl) fields.side).symm
    | some offset => rfl

/-! ## The two forms of an order -/

/-- A marketable limit order, by the values that describe it. -/
structure MarketableOrder where
  ticketId : Value
  symbol : Value
  side : Value
  quantity : Value
  entryPrice : Value
  principalId : Value
  deviceId : Value
  reduceOnly : Value := .bool false
  ttlSeconds : Value := .null
  adapter : Value := .null
  profile : Value := .null

namespace MarketableOrder

variable (order : MarketableOrder)

def payloadForm : Mapping :=
  [("ticket_id", order.ticketId), ("symbol", order.symbol), ("side", order.side),
    ("quantity", order.quantity), ("reduce_only", order.reduceOnly),
    ("entry_type", .str "marketable_limit"), ("entry_price", order.entryPrice),
    ("ttl_seconds", order.ttlSeconds), ("principal_id", order.principalId),
    ("device_id", order.deviceId), ("adapter", order.adapter), ("profile", order.profile)]

def ticketForm : Mapping :=
  [("ticket_id", order.ticketId), ("symbol", order.symbol),
    ("entry", .map [("type", .str "marketable_limit"), ("price", order.entryPrice)]),
    ("position", .map [("direction", order.side), ("size_lot", order.quantity),
      ("reduce_only", order.reduceOnly)]),
    ("protect", .map [("ttl_seconds", order.ttlSeconds)]), ("principal_id", order.principalId),
    ("device_id", order.deviceId), ("adapter", order.adapter), ("profile", order.profile)]

/-- The symbol whose rules apply. -/
def symbolText : String := textOr order.payloadForm "symbol" "pair" ""

/-- The payload that the router makes of the ticket. -/
def translated : Mapping := payloadFromTicket order.ticketForm

theorem translated_side : orderSide order.translated = orderSide order.payloadForm := by
  have ticket : orderSide order.translated =
    normalizeSide (orValue (.str (normalizeSide order.side)) .null) := rfl
  have payload : orderSide order.payloadForm = normalizeSide (orValue order.side .null) := rfl
  rw [ticket, payload, normalizeSide_orValue_null, normalizeSide_orValue_null, normalizeSide_again]

theorem translated_quantity : quantityValue order.translated = quantityValue order.payloadForm :=
  orValue_again order.quantity .null

theorem translated_adapter : (orValue (valueAt order.translated "adapter") (.str "sandbox")).text =
    (orValue (valueAt order.payloadForm "adapter") (.str "sandbox")).text :=
  congrArg Value.text (orValue_again order.adapter (.str "sandbox"))

theorem translated_profile : textOr order.translated "profile" "mode" "paper" =
    textOr order.payloadForm "profile" "mode" "paper" := by
  have ticket : textOr order.translated "profile" "mode" "paper" = (orValue (orValue (orValue
    (orValue order.profile .null) (.str "paper")) .null) (.str "paper")).text := rfl
  rw [ticket, orValue_skip rfl, orValue_again]
  rfl

theorem translated_readFields (quantity : Extended) (entryPrice : Option Extended)
    (ttlSec : Option Int) (price : Option Extended) :
    readFields order.translated quantity entryPrice ttlSec price =
      readFields order.payloadForm quantity entryPrice ttlSec price := by
  rw [readFields, translated_side, translated_adapter, translated_profile]
  rfl

theorem translated_text (key other default : String)
    (copied : (key, other) = ("ticket_id", "id") ∨ (key, other) = ("symbol", "pair")) :
    textOr order.translated key other default = textOr order.payloadForm key other default := by
  cases copied with
  | inl same =>
    cases same
    rfl
  | inr same =>
    cases same
    rfl

theorem readFields_price (payload : Mapping) (quantity : Extended) (entryPrice : Option Extended)
    (ttlSec : Option Int) (price : Option Extended) :
    readFields payload quantity entryPrice ttlSec price =
      { readFields payload quantity entryPrice ttlSec none with price } := by
  simp only [readFields]

theorem translated_checkedFields (quantity entryPrice : Option Extended) (ttlSec : Option Int) :
    checkedFields order.translated quantity entryPrice ttlSec =
      (checkedFields order.payloadForm quantity entryPrice ttlSec).bind fun fields =>
        (coerceFloat order.entryPrice).map fun price => { fields with price } := by
  have principalId : principalOf order.translated = principalOf order.payloadForm := rfl
  have deviceId : deviceOf order.translated = deviceOf order.payloadForm := rfl
  have price : valueAt order.translated "price" = order.entryPrice := rfl
  have unpriced : coerceFloat (valueAt order.payloadForm "price") = .ok none := rfl
  unfold checkedFields
  rw [order.translated_side, order.translated_text _ _ _ (.inl rfl),
    order.translated_text _ _ _ (.inr rfl)]
  simp only [order.translated_readFields, principalId, deviceId, price, unpriced]
  by_cases ticketId : textOr order.payloadForm "ticket_id" "id" "" = ""
  · rw [if_pos ticketId, if_pos ticketId]
    rfl
  rw [if_neg ticketId, if_neg ticketId]
  by_cases symbol : textOr order.payloadForm "symbol" "pair" "" = ""
  · rw [if_pos symbol, if_pos symbol]
    rfl
  rw [if_neg symbol, if_neg symbol]
  by_cases side : orderSide order.payloadForm ∈ ["buy", "sell"]
  · rw [if_neg (not_not.mpr side), if_neg (not_not.mpr side)]
    cases quantity with
    | none => rfl
    | some quantity =>
      by_cases anyone : principalOf order.payloadForm = "" ∨ deviceOf order.payloadForm = ""
      · simp only [if_pos anyone]
        rfl
      · simp only [if_neg anyone]
        cases coerceFloat order.entryPrice with
        | error error => rfl
        | ok price => exact congrArg Except.ok (readFields_price order.payloadForm _ _ _ price)
  · rw [if_pos side, if_pos side]
    rfl

/-- Read as a ticket, an order has its entry price as its price. -/
theorem translated_orderFields : orderFields order.translated =
    (orderFields order.payloadForm).map fun fields =>
      { fields with price := fields.entryPrice } := by
  have entryPrice : valueAt order.translated "entry_price" = order.entryPrice := rfl
  have entryKept : valueAt order.payloadForm "entry_price" = order.entryPrice := rfl
  have ttlSec : ttlValue order.translated = ttlValue order.payloadForm := rfl
  rw [orderFields_eq order.translated, order.translated_quantity, entryPrice, ttlSec]
  cases quantityRead : coerceFloat (quantityValue order.payloadForm) with
  | error error =>
    rw [orderFields_eq, quantityRead]
    rfl
  | ok quantity =>
    cases entryRead : coerceFloat order.entryPrice with
    | error error =>
      rw [orderFields_eq, quantityRead, entryKept, entryRead]
      rfl
    | ok entryPrice =>
      cases ttlRead : coerceInt (ttlValue order.payloadForm) with
      | error error =>
        rw [orderFields_eq, quantityRead, entryKept, entryRead, ttlRead]
        rfl
      | ok ttlSec =>
        have payload : orderFields order.payloadForm =
            checkedFields order.payloadForm quantity entryPrice ttlSec := by
          rw [orderFields_eq, quantityRead, entryKept, entryRead, ttlRead]
          rfl
        refine (order.translated_checkedFields quantity entryPrice ttlSec).trans ?_
        rw [← payload, entryRead]
        cases read : orderFields order.payloadForm with
        | error error => rfl
        | ok fields =>
          obtain ⟨_, entryPrice', _, _, -, entryAgain, -, -, -, same⟩ :=
            orderFields_ok_iff.mp read
          have kept : fields.entryPrice = entryPrice := by
            rw [same]
            exact Except.ok.inj (entryAgain.symm.trans entryRead)
          simp only [Except.bind, Except.map, kept]

theorem translated_guards (around : Surroundings) (killSwitch : JsonFile) (fields : OrderFields)
    (price : Option Extended) : guards around killSwitch order.translated { fields with price } =
      guards around killSwitch order.payloadForm fields := rfl

/-- The ticket is sent as the payload is, at its entry price. -/
theorem sentRequest_translated (around : Surroundings) (killSwitch : JsonFile) :
    sentRequest around killSwitch order.translated =
      (sentRequest around killSwitch order.payloadForm).map fun request =>
        { request with price := (coerceFloat order.entryPrice).toOption.join } := by
  rw [sentRequest, sentRequest, order.translated_orderFields]
  cases read : orderFields order.payloadForm with
  | error error => rfl
  | ok fields =>
    obtain ⟨quantity, entryPrice, ttlSec, price, -, entryRead, -, -, -, same⟩ :=
      orderFields_ok_iff.mp read
    have entryKept : valueAt order.payloadForm "entry_price" = order.entryPrice := rfl
    rw [entryKept] at entryRead
    simp only [Except.map, order.translated_guards]
    cases guards around killSwitch order.payloadForm fields with
    | error error => rfl
    | ok passed =>
      rw [entryRead, same]
      cases entryPrice <;> rfl

end MarketableOrder

/-! ## Both forms of an order -/

/-- Under the rules, both forms of an order are sent as one request, and at the
protected price. -/
structure PricedAlike (rules : String → Option SymbolRules) (offset : Rat)
    (order : MarketableOrder) : Prop where
  sameRequest : ∀ around killSwitch, around.brokerRules = rules →
    sentRequest around killSwitch (payloadFromTicket order.ticketForm) =
      sentRequest around killSwitch order.payloadForm
  protection : ∀ around killSwitch request entryPrice, around.brokerRules = rules →
    sentRequest around killSwitch (payloadFromTicket order.ticketForm) = some request ∨
      sentRequest around killSwitch order.payloadForm = some request →
    coerceFloat order.entryPrice = .ok (some entryPrice) →
    request.price = some (protectedPrice offset request.side entryPrice)

/-- There is nothing to protect, or nothing to protect it with. -/
def Unprotectable (offset : Rat) (order : MarketableOrder) : Prop :=
  ¬ Readable order.payloadForm ∨
    (∀ entryPrice : Rat, coerceFloat order.entryPrice ≠ .ok (some (.finite entryPrice))) ∨
    offset = 0

section Pricing

variable {rules : String → Option SymbolRules} {order : MarketableOrder} {rule : SymbolRules}
  {pips : Rat}

/-- The payload is sent at the protected price. -/
theorem price_of_sent {around : Surroundings} {killSwitch : JsonFile}
    {request : BrokerOrderRequest} (ruled : around.brokerRules order.symbolText = some rule)
    (protects : rule.protectPips = some pips)
    (sent : sentRequest around killSwitch order.payloadForm = some request) :
    request.price = (coerceFloat order.entryPrice).toOption.join.map
      (protectedPrice (pips * rule.pipSize) request.side) := by
  obtain ⟨fields, read, -, rfl⟩ := fields_of_sent sent
  obtain ⟨quantity, entryPrice, ttlSec, price, -, entryRead, -, priceRead, -, rfl⟩ :=
    orderFields_ok_iff.mp read
  obtain rfl : price = none := (Except.ok.inj priceRead).symm
  have entryKept : valueAt order.payloadForm "entry_price" = order.entryPrice := rfl
  have marketable : entryTypeOf order.payloadForm = "marketable_limit" := rfl
  rw [entryKept] at entryRead
  rw [entryRead]
  have symbol : (readFields order.payloadForm quantity entryPrice ttlSec none).symbol =
    order.symbolText := rfl
  have offset : protection around.brokerRules order.symbolText = pips * rule.pipSize := by
    rw [protection, ruled, Option.bind_some, protects]
    rfl
  rw [requestOf_price, if_pos ⟨marketable, rfl⟩, deriveMarketableLimitPrice_eq, symbol, offset,
    requestOf_side]
  rfl

theorem sent_permissiveWith (readable : Readable order.payloadForm) :
    ∃ request, sentRequest (permissiveWith rules) .missing order.payloadForm = some request := by
  obtain ⟨fields, read⟩ := orderFields_ok_iff_readable.mpr readable
  have counted : openPositions order.payloadForm = .ok 0 := rfl
  have present : policySymbol order.payloadForm ≠ "" := by
    have named := readable.described.symbol
    have skipped : textOr order.payloadForm "symbol" "pair" "" =
      (orValue (orValue order.symbol .null) (.str "")).text := rfl
    rw [skipped, orValue_skip rfl] at named
    exact named
  exact ⟨_, sentRequest_of_passed read (guards_permissiveWith rules counted present fields)⟩

theorem not_sent_of_unreadable (unreadable : ¬ Readable order.payloadForm)
    (around : Surroundings) (killSwitch : JsonFile) :
    sentRequest around killSwitch order.payloadForm = none := by
  cases sent : sentRequest around killSwitch order.payloadForm with
  | none => rfl
  | some request =>
    obtain ⟨fields, read, -, -⟩ := fields_of_sent sent
    exact absurd (orderFields_ok_iff_readable.mp ⟨fields, read⟩) unreadable

/-- Where the price cannot be protected, the ticket is sent as the payload is. -/
theorem sent_of_unprotectable {around : Surroundings}
    (ruled : around.brokerRules order.symbolText = some rule)
    (protects : rule.protectPips = some pips)
    (unprotectable : Unprotectable (pips * rule.pipSize) order) (killSwitch : JsonFile) :
    sentRequest around killSwitch (payloadFromTicket order.ticketForm) =
      sentRequest around killSwitch order.payloadForm := by
  refine (order.sentRequest_translated around killSwitch).trans ?_
  cases sent : sentRequest around killSwitch order.payloadForm with
  | none => rfl
  | some request =>
    cases unprotectable with
    | inl unreadable =>
      rw [not_sent_of_unreadable unreadable around killSwitch] at sent
      cases sent
    | inr unpriced =>
      have plain : (∀ value : Rat,
          (coerceFloat order.entryPrice).toOption.join ≠ some (.finite value)) ∨
          pips * rule.pipSize = 0 := by
        refine unpriced.imp_left fun special value same => special value ?_
        cases read : coerceFloat order.entryPrice with
        | error error =>
          rw [read] at same
          cases same
        | ok number =>
          rw [read] at same
          exact congrArg Except.ok same
      have priced := price_of_sent ruled protects sent
      rw [protectedPrice_map plain request.side] at priced
      rw [Option.map_some, ← priced]

/-- Both forms of an order are priced alike exactly where its price cannot be
protected. -/
theorem pricedAlike_iff (ruled : rules order.symbolText = some rule)
    (protects : rule.protectPips = some pips) :
    PricedAlike rules (pips * rule.pipSize) order ↔
      Unprotectable (pips * rule.pipSize) order := by
  constructor
  · intro alike
    by_cases readable : Readable order.payloadForm
    · refine .inr (or_iff_not_imp_left.mpr fun finite => ?_)
      obtain ⟨entryPrice, entryRead⟩ := not_forall_not.mp finite
      obtain ⟨request, sent⟩ : ∃ request, sentRequest (permissiveWith rules) .missing
        order.payloadForm = some request := sent_permissiveWith readable
      have ticket := order.sentRequest_translated (permissiveWith rules) .missing
      have same := alike.sameRequest (permissiveWith rules) .missing rfl
      have known : (permissiveWith rules).brokerRules order.symbolText = some rule := ruled
      have priced := price_of_sent known protects sent
      have unprotected := ticket.symm.trans same
      rw [sent, entryRead] at unprotected
      rw [entryRead] at priced
      have kept := congrArg BrokerOrderRequest.price (Option.some.inj unprotected)
      rw [priced] at kept
      exact (protectedPrice_finite_iff _ _ entryPrice).mp (Option.some.inj kept).symm
    · exact .inl readable
  · intro unprotectable
    have same : ∀ around killSwitch, around.brokerRules = rules →
        sentRequest around killSwitch (payloadFromTicket order.ticketForm) =
          sentRequest around killSwitch order.payloadForm := by
      intro around killSwitch follows
      have ruledAround : around.brokerRules order.symbolText = some rule := by rw [follows, ruled]
      exact sent_of_unprotectable ruledAround protects unprotectable killSwitch
    refine ⟨same, fun around killSwitch request entryPrice follows sent entryRead => ?_⟩
    rw [same around killSwitch follows, or_self] at sent
    have ruledAround : around.brokerRules order.symbolText = some rule := by rw [follows, ruled]
    have priced := price_of_sent ruledAround protects sent
    rw [entryRead] at priced
    exact priced

end Pricing

/-! ## A protected buy -/

/-- A pip and a half is added to what is bought. -/
def usdjpy : SymbolRules := { pipSize := 1 / 100, protectPips := some (3 / 2) }

def protectiveRules (symbol : String) : Option SymbolRules :=
  if symbol = "USDJPY" then some usdjpy else none

def sampleBuy : MarketableOrder where
  ticketId := .str "ticket-1"
  symbol := .str "USDJPY"
  side := .str "long"
  quantity := .float (1 / 10) "0.1"
  entryPrice := .float 150 "150.0"
  principalId := .str "ops"
  deviceId := .str "desk"

theorem pricedAlike_iff_of_sampleBuy :
    PricedAlike protectiveRules (3 / 2 * usdjpy.pipSize) sampleBuy ↔
      Unprotectable (3 / 2 * usdjpy.pipSize) sampleBuy :=
  have named : sampleBuy.symbolText = "USDJPY" := by decide +kernel
  pricedAlike_iff (if_pos named) rfl

/-- The payload is sent at 150.015, the ticket at 150. -/
theorem sampleBuy_priced_apart :
    ¬ PricedAlike protectiveRules (3 / 2 * usdjpy.pipSize) sampleBuy := by
  intro alike
  have same := alike.sameRequest (permissiveWith protectiveRules) .missing rfl
  have prices := congrArg (Option.map BrokerOrderRequest.price) same
  have apart : ¬ (sentRequest (permissiveWith protectiveRules) .missing
      (payloadFromTicket sampleBuy.ticketForm)).map BrokerOrderRequest.price =
    (sentRequest (permissiveWith protectiveRules) .missing sampleBuy.payloadForm).map
      BrokerOrderRequest.price := by decide +kernel
  exact apart prices

end FxToushi.Execution
