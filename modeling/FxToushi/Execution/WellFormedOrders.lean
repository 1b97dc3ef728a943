import FxToushi.Execution.OrderPricing

namespace FxToushi.Execution

open Data Py Brokers

/-! # Well-formed orders

The router asks whether a field is there, not whether it holds an amount or a
price that a broker can take.
-/

def Positive (number : Extended) : Prop := ∃ value, number = .finite value ∧ 0 < value

structure WellFormed (request : BrokerOrderRequest) : Prop where
  quantity : Positive request.quantity
  price : ∀ price, request.price = some price → Positive price
  side : request.side ∈ ["buy", "sell"]

/-- What is submitted can be read, and holds a positive quantity, no price but a
positive one and no flag but a boolean. -/
structure Sound (rules : String → Option SymbolRules) (submission : Submission) : Prop where
  readable : Readable submission.handed
  quantity : ∀ number, coerceFloat (quantityValue submission.handed) = .ok (some number) →
    Positive number
  price : ∀ number, coerceFloat (valueAt submission.handed "price") = .ok (some number) →
    Positive number
  derived : ∀ number, coerceFloat (valueAt submission.handed "price") = .ok none →
    entryTypeOf submission.handed = "marketable_limit" →
    coerceFloat (valueAt submission.handed "entry_price") = .ok (some number) →
    Positive (protectedPrice (protection rules submission.symbol) (orderSide submission.handed)
      number)
  flag : submission.flag.truth = true → submission.flag = .bool true

/-- The router refuses a payload in which something is missing, and the policy one
without a symbol of its own. -/
def Refused (payload : Mapping) : Prop :=
  Convertible payload ∧ ¬ Described payload ∨ Readable payload ∧ Unsymboled payload

/-- A request that is sent is well formed, and what is not sound is rejected before
a token is reserved, whatever the state of the kill switch that can be read. -/
structure WellHandled (rules : String → Option SymbolRules) (submission : Submission) : Prop where
  sent : ∀ around killSwitch request, around.brokerRules = rules →
    sentRequest around killSwitch submission.handed = some request →
    WellFormed request ∧ (request.reduceOnly = true → submission.flag = .bool true)
  others : ∀ around killSwitch state, around.brokerRules = rules →
    loadKillSwitchState killSwitch = .ok state → ¬ Sound rules submission →
    (submission.dispatch around killSwitch).Rejected ∧
      reservesToken around killSwitch submission.handed = false

section Handling

variable {rules : String → Option SymbolRules} {submission : Submission} {around : Surroundings}
  {killSwitch : JsonFile} {payload : Mapping}

/-- The request that a sound order is read into is well formed. -/
theorem wellFormed_of_sound {fields : OrderFields} (sound : Sound rules submission)
    (read : orderFields submission.handed = .ok fields) : WellFormed (requestOf rules fields) := by
  have fromPayload := fieldsRead_of_orderFields read
  have side : (requestOf rules fields).side = orderSide submission.handed := fromPayload.side
  refine ⟨sound.quantity fields.quantity fromPayload.quantity, fun sentPrice priced => ?_,
    side ▸ fromPayload.described.side⟩
  rw [requestOf_price] at priced
  split at priced
  · rename_i marketable
    have unpriced := fromPayload.price
    rw [marketable.2] at unpriced
    rw [deriveMarketableLimitPrice_eq, fromPayload.symbol, fromPayload.side] at priced
    obtain ⟨entryPrice, entered, protects⟩ := Option.map_eq_some_iff.mp priced
    have entryRead := fromPayload.entryPrice
    rw [entered] at entryRead
    rw [← protects]
    exact sound.derived entryPrice unpriced (fromPayload.entryType ▸ marketable.1) entryRead
  · have priceRead := fromPayload.price
    rw [priced] at priceRead
    exact sound.price sentPrice priceRead

theorem dispatch_rejected_of_fields {error : OrderError}
    (read : orderFields submission.handed = .error error) (rejection : IsRejection error) :
    (submission.dispatch around killSwitch).Rejected ∧
      reservesToken around killSwitch submission.handed = false := by
  constructor
  · rw [submission.dispatch_eq, submit_of_fields read]
    exact refused_rejected_iff.mpr rejection
  · rw [reservesToken, read]

theorem assertKillSwitch_spec {state : String} (read : loadKillSwitchState killSwitch = .ok state)
    (reduceOnly : Bool) : assertKillSwitch killSwitch reduceOnly = .ok () ∨
      ∃ error, assertKillSwitch killSwitch reduceOnly = .error error ∧ IsRejection error := by
  rw [assertKillSwitch, read]
  by_cases stop : state = "stop"
  · exact .inr ⟨_, if_pos stop, _, _, rfl⟩
  by_cases reduces : state = "reduce_only" ∧ reduceOnly = false
  · exact .inr ⟨_, (if_neg stop).trans (if_pos reduces), _, _, rfl⟩
  · exact .inl ((if_neg stop).trans (if_neg reduces))

/-- A payload without a symbol of its own meets one of three rejections. -/
theorem checks_of_unsymboled {state : String}
    (loaded : loadKillSwitchState killSwitch = .ok state) (unsymboled : Unsymboled payload)
    (around : Surroundings) (fields : OrderFields) :
    ∃ error, checks around killSwitch payload fields = .error error ∧ IsRejection error := by
  unfold checks
  cases assertFailover_spec around with
  | inr raised =>
    obtain ⟨error, raised, rejection⟩ := raised
    exact ⟨error, by rw [raised]; rfl, rejection⟩
  | inl passed =>
    rw [passed]
    cases assertKillSwitch_spec loaded fields.reduceOnly with
    | inr raised =>
      obtain ⟨error, raised, rejection⟩ := raised
      exact ⟨error, by rw [raised]; rfl, rejection⟩
    | inl passed =>
      rw [passed]
      exact assertPolicy_unsymboled unsymboled around.policyRules fields.profile

/-- What is refused is rejected before a token is reserved. -/
theorem rejected_of_refused {state : String}
    (loaded : loadKillSwitchState killSwitch = .ok state)
    (refused : Refused submission.handed) (around : Surroundings) :
    (submission.dispatch around killSwitch).Rejected ∧
      reservesToken around killSwitch submission.handed = false := by
  cases refused with
  | inl missing =>
    obtain ⟨error, read, rejection⟩ := orderFields_rejection_iff.mpr missing
    exact dispatch_rejected_of_fields read rejection
  | inr nameless =>
    obtain ⟨fields, read⟩ := orderFields_ok_iff_readable.mpr nameless.1
    obtain ⟨error, raised, rejection⟩ := checks_of_unsymboled loaded nameless.2 around fields
    constructor
    · have guarded : guards around killSwitch submission.handed fields = .error error := by
        rw [guards_eq, raised]
        rfl
      rw [submission.dispatch_eq, submit_of_guard read guarded]
      exact refused_rejected_iff.mpr rejection
    · rw [reservesToken, read]
      simp only [raised]
      rfl

theorem not_sent_of_refused {request : BrokerOrderRequest} (refused : Refused payload)
    (sent : sentRequest around killSwitch payload = some request) : False := by
  obtain ⟨fields, read, passed, -⟩ := fields_of_sent sent
  cases refused with
  | inl missing =>
    obtain ⟨error, unread, -⟩ := orderFields_rejection_iff.mpr missing
    rw [read] at unread
    cases unread
  | inr nameless =>
    obtain ⟨error, raised, -⟩ :=
      assertPolicy_unsymboled nameless.2 around.policyRules fields.profile
    obtain ⟨_, -, passed⟩ := bind_ok passed
    obtain ⟨_, -, passed⟩ := bind_ok passed
    obtain ⟨_, policy, -⟩ := bind_ok passed
    rw [raised] at policy
    cases policy

/-- What is rejected under no restriction is refused. -/
theorem refused_of_rejected (rejected : (submit (permissiveWith rules) .missing payload).Rejected) :
    Refused payload := by
  cases read : orderFields payload with
  | error error =>
    rw [submit_of_fields read] at rejected
    exact .inl (orderFields_rejection_iff.mp ⟨error, read, refused_rejected_iff.mp rejected⟩)
  | ok fields =>
    refine .inr ⟨orderFields_ok_iff_readable.mp ⟨fields, read⟩, ?_⟩
    cases counted : openPositions payload with
    | error error =>
      have guarded : guards (permissiveWith rules) .missing payload fields = .error error := by
        have same : guards (permissiveWith rules) .missing payload fields =
          guards permissive .missing payload fields := rfl
        have unknown : ¬ ("none" = "stop" ∨ "none" = "reduce_only") := by decide
        rw [same, guards_permissive,
          assertKillSwitch_unknown loadKillSwitchState_missing unknown]
        change assertPolicy unrestricted payload fields.profile = .error error
        rw [assertPolicy, validate, counted]
        rfl
      rw [submit_of_guard read guarded] at rejected
      exact absurd (refused_rejected_iff.mp rejected) (intOf_not_rejection counted)
    | ok positions =>
      refine ⟨not_not.mp fun present => ?_, positions, counted⟩
      have passed := guards_permissiveWith rules counted present fields
      have accepted := accepted_of_passed read passed
      obtain ⟨order, accepted⟩ := accepted
      obtain ⟨error, raised, -⟩ := rejected.2
      rw [accepted] at raised
      cases raised

/-- Every input is handled as a well-formed order or rejected, exactly where it is
sound or refused. -/
theorem wellHandled_iff (rules : String → Option SymbolRules) (submission : Submission) :
    WellHandled rules submission ↔ Sound rules submission ∨ Refused submission.handed := by
  constructor
  · intro handled
    refine or_iff_not_imp_left.mpr fun unsound => ?_
    have rejected := (handled.others (permissiveWith rules) .missing "none" rfl
      loadKillSwitchState_missing unsound).1
    rw [submission.dispatch_eq] at rejected
    exact refused_of_rejected rejected
  · intro either
    cases either with
    | inl sound =>
      refine ⟨fun around killSwitch request follows sent => ?_,
        fun around killSwitch state follows loaded unsound => absurd sound unsound⟩
      obtain ⟨fields, read, -, rfl⟩ := fields_of_sent sent
      have flagged : (requestOf around.brokerRules fields).reduceOnly = submission.flag.truth :=
        (orderFields_reduceOnly read).trans submission.flag_truth
      rw [flagged, follows]
      exact ⟨wellFormed_of_sound sound read, sound.flag⟩
    | inr refused =>
      refine ⟨fun around killSwitch request follows sent => ?_,
        fun around killSwitch state follows loaded _ =>
          rejected_of_refused loaded refused around⟩
      exact (not_sent_of_refused refused sent).elim

end Handling

/-! ## Orders that no broker can take -/

/-- A sale of minus one is sent, and so is one to reduce only by the text `false`. -/
theorem ill_formed_sent :
    ¬ WellHandled (fun _ => none) (.byPayload (("quantity", .int (-1)) :: sampleTicket)) ∧
    ¬ WellHandled (fun _ => none) (.byPayload (("reduce_only", .str "false") :: sampleTicket)) := by
  constructor
  · intro handled
    have quantity : ((sentRequest (permissiveWith fun _ => none) .missing
        (("quantity", .int (-1)) :: sampleTicket)).map BrokerOrderRequest.quantity) =
        some (.finite (-1)) := by decide +kernel
    obtain ⟨request, sent, amount⟩ := Option.map_eq_some_iff.mp quantity
    obtain ⟨value, same, positive⟩ :=
      (handled.sent (permissiveWith fun _ => none) .missing request rfl sent).1.quantity
    rw [amount] at same
    rw [← Extended.finite.inj same] at positive
    exact absurd positive (by decide)
  · intro handled
    have reduces : ((sentRequest (permissiveWith fun _ => none) .missing
        (("reduce_only", .str "false") :: sampleTicket)).map BrokerOrderRequest.reduceOnly) =
        some true := by decide +kernel
    obtain ⟨request, sent, flagged⟩ := Option.map_eq_some_iff.mp reduces
    have boolean :=
      (handled.sent (permissiveWith fun _ => none) .missing request rfl sent).2 flagged
    cases boolean

end FxToushi.Execution
