import FxToushi.Brokers.OrderRecords
import FxToushi.Py.Extended
import FxToushi.Py.Json

namespace FxToushi.Brokers

open Py

/-! # The sandbox adapter

Orders are acknowledged, unless the state file of the kill switch stops them.
Access is granted by the service that stands in for the archived one.
-/

inductive OrderError where
  | orderDispatchRejected (reason runbookRef : String)
  | brokerOrderRejected (message : String)
  | brokerAccessDenied (message : String)
  | brokerAdapterError (message : String)
  | unicodeDecodeError
  | overflowError
  | python (error : PyError)
deriving Repr, DecidableEq

/-- A state file: absent, no UTF-8, or a text that may be JSON. -/
inductive JsonFile where
  | missing
  | undecodable
  | text (content : List Char)
deriving Repr, DecidableEq

namespace JsonFile

/-- What does not parse is read as if the file were absent. -/
def read : JsonFile → Except OrderError (Option Value)
  | .missing => .ok none
  | .undecodable => .error .unicodeDecodeError
  | .text content => .ok (Json.loads content)

/-- `str(payload.get(key) or default)`. -/
def textField (file : JsonFile) (key default : String) : Except OrderError String :=
  match file.read with
  | .error error => .error error
  | .ok none => .ok default
  | .ok (some (.map payload)) => .ok (orValue (valueAt payload key) (.str default)).text
  | .ok (some _) => .error (.python .attributeError)

theorem textField_error {file : JsonFile} {key default : String} {error : OrderError}
    (raised : file.textField key default = .error error) :
    error = .unicodeDecodeError ∨ error = .python .attributeError := by
  unfold textField at raised
  split at raised
  · rename_i unread
    cases raised
    cases file with
    | undecodable => exact .inl (Except.error.inj unread).symm
    | _ => cases unread
  · cases raised
  · cases raised
  · exact .inr (Except.error.inj raised).symm

end JsonFile

structure BrokerOrderRequest where
  ticketId : String
  symbol : String
  side : String
  quantity : Extended
  price : Option Extended := none
  reduceOnly : Bool := false
  ttlSec : Option Int := none

structure OrderPayload where
  symbol : String
  side : String
  quantity : Extended
  price : Option Extended
  reduceOnly : Bool
  ttlSec : Option Int
  principalId : String
  deviceId : String

structure BrokerOrder where
  orderId : String
  ticketId : String
  status : String
  adapter : String
  submittedAt : String
  ackAt : Option String
  payload : OrderPayload
  schemaVersion : String := "broker.order.v1"

structure AccessResult where
  status : String := "allowed"
  reasons : List String := []
  runbookRef : Option String := none
  deviceId : Option String := none

/-- Every policy is met. -/
def enforcePolicy (_principalId : String) : AccessResult := {}

def requireAccess (principalId deviceId : String) : Except OrderError Unit :=
  let result := enforcePolicy principalId
  if result.status ≠ "allowed" then
    .error (.brokerAccessDenied ("access denied: " ++ ", ".intercalate result.reasons))
  else if truthy result.deviceId ∧ result.deviceId ≠ some deviceId then
    .error (.brokerAccessDenied "device mismatch")
  else .ok ()

namespace SandboxAdapter

def killSwitchState (file : JsonFile) : Except OrderError String := file.textField "state" "none"

/-- The spellings of each state are told apart from any other. -/
def placeOrder (file : JsonFile) (request : BrokerOrderRequest)
    (principalId deviceId orderId utcnow : String) : Except OrderError BrokerOrder := do
  requireAccess principalId deviceId
  let state ← killSwitchState file
  if state ∈ ["stop", "STOP"] then throw (.brokerOrderRejected "kill switch stop")
  if state ∈ ["reduce_only", "REDUCE_ONLY"] ∧ request.reduceOnly = false then
    throw (.brokerOrderRejected "reduce only required")
  return {
    orderId
    ticketId := request.ticketId
    status := "acknowledged"
    adapter := "sandbox"
    submittedAt := utcnow
    ackAt := some utcnow
    payload := {
      symbol := request.symbol
      side := request.side
      quantity := request.quantity
      price := request.price
      reduceOnly := request.reduceOnly
      ttlSec := request.ttlSec
      principalId
      deviceId } }

variable {file : JsonFile} {request : BrokerOrderRequest} {state : String}

theorem requireAccess_ok (principalId deviceId : String) :
    requireAccess principalId deviceId = .ok () := rfl

theorem placeOrder_of_unread {error : OrderError} (unread : killSwitchState file = .error error)
    (principalId deviceId orderId utcnow : String) :
    placeOrder file request principalId deviceId orderId utcnow = .error error := by
  rw [placeOrder, requireAccess_ok, unread]
  rfl

theorem placeOrder_of_stopped (read : killSwitchState file = .ok state)
    (stopped : state ∈ ["stop", "STOP", "reduce_only", "REDUCE_ONLY"])
    (opens : request.reduceOnly = false) (principalId deviceId orderId utcnow : String) :
    ∃ message, placeOrder file request principalId deviceId orderId utcnow =
      .error (.brokerOrderRejected message) := by
  rw [placeOrder, requireAccess_ok, read]
  by_cases stop : state ∈ ["stop", "STOP"]
  · exact ⟨_, if_pos stop⟩
  · have reduces : state ∈ ["reduce_only", "REDUCE_ONLY"] := by
      simp only [List.mem_cons, List.not_mem_nil, or_false, not_or] at stop stopped ⊢
      exact (stopped.resolve_left stop.1).resolve_left stop.2
    refine ⟨"reduce only required", ?_⟩
    simp only [bind, Except.bind, if_neg stop, if_pos (And.intro reduces opens)]
    rfl

theorem placeOrder_of_passed (read : killSwitchState file = .ok state)
    (passed : state ∉ ["stop", "STOP", "reduce_only", "REDUCE_ONLY"])
    (principalId deviceId orderId utcnow : String) :
    ∃ order, placeOrder file request principalId deviceId orderId utcnow = .ok order := by
  have stop : state ∉ ["stop", "STOP"] := fun member =>
    passed (List.mem_append_left ["reduce_only", "REDUCE_ONLY"] member)
  have reduces : state ∉ ["reduce_only", "REDUCE_ONLY"] := fun member =>
    passed (List.mem_append_right ["stop", "STOP"] member)
  rw [placeOrder, requireAccess_ok, read]
  simp only [bind, Except.bind, if_neg stop, if_neg (fun both : _ ∧ _ => reduces both.1)]
  exact ⟨_, rfl⟩

end SandboxAdapter

end FxToushi.Brokers
