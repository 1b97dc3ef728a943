import FxToushi.Data.Runs
import FxToushi.Py.Value

namespace FxToushi.ShadowGateway

open Data Py

/-! # Session supervisor of the shadow gateway

A session and the client it was started with.  The session's status and active
endpoint are changed by operations that do not touch the client.  What is
audited and measured is never read back.
-/

structure GatewaySession where
  sessionId : String
  primaryEndpoint : String
  secondaryEndpoint : String
  activeEndpoint : String
  protocol : String
  profile : String
  connected : Bool
  lastEventId : Option Int := none
  state : String
deriving Repr, DecidableEq

inductive ClientKind where
  | sse
  | ws
deriving Repr, DecidableEq

structure GatewayClient where
  kind : ClientKind
  endpoint : String
  connected : Bool := false
  lastEventId : Option Int := none
deriving Repr, DecidableEq

/-- The later of the last event and a new one. -/
def latestEvent (last : Option Int) (eventId : Int) : Option Int :=
  match last with
  | none => some eventId
  | some previous => if previous < eventId then some eventId else some previous

namespace GatewayClient

def connect (client : GatewayClient) : GatewayClient := { client with connected := true }

def recordEvent (client : GatewayClient) (eventId : Int) : GatewayClient :=
  { client with lastEventId := latestEvent client.lastEventId eventId }

end GatewayClient

/-- A feature flag in the parsed file. -/
def isEnabled (payload : Mapping) (flag mode : String) : Bool :=
  match payload.get? "defaults" with
  | some (.map defaults) =>
    match Mapping.get? defaults mode with
    | some (.map profileDefaults) =>
      ((Mapping.get? profileDefaults flag).getD (.bool false)).truth
    | _ => false
  | _ => false

structure SessionSupervisor where
  maxReconnectSeconds : Int := 30
  session : Option GatewaySession := none
  client : Option GatewayClient := none
deriving Repr, DecidableEq

structure StartRequest where
  primaryEndpoint : String
  secondaryEndpoint : String
  profile : String
  protocol : String := "sse"
  sessionId : String

namespace SessionSupervisor

def buildClient (protocol endpoint : String) : GatewayClient where
  kind := if protocol = "ws" then .ws else .sse
  endpoint

def buildSession (request : StartRequest) (activeEndpoint : String) (connected : Bool)
    (state : String) : GatewaySession where
  sessionId := request.sessionId
  primaryEndpoint := request.primaryEndpoint
  secondaryEndpoint := request.secondaryEndpoint
  activeEndpoint
  protocol := request.protocol
  profile := request.profile
  connected
  state

def startEndpoint (flags : Mapping) (request : StartRequest) : String :=
  if isEnabled flags "shadow.gateway.force_failover" request.profile then
    request.secondaryEndpoint
  else request.primaryEndpoint

/-- With the feature off the client of an earlier session stays. -/
def start (supervisor : SessionSupervisor) (flags : Mapping) (request : StartRequest) :
    SessionSupervisor :=
  if isEnabled flags "shadow.gateway.streaming" request.profile = false then
    { supervisor with
      session := some (buildSession request request.primaryEndpoint false "disabled") }
  else
    let activeEndpoint := startEndpoint flags request
    { supervisor with
      client := some (buildClient request.protocol activeEndpoint).connect
      session := some (buildSession request activeEndpoint true "active") }

def reconnectSeconds (supervisor : SessionSupervisor) : Int :=
  max 1 (min (supervisor.maxReconnectSeconds - 1) 5)

/-- What the operations answer without a session. -/
def sessionMissing : Value :=
  .map [("status", .str "error"), ("reason", .str "session_missing")]

def handleDisconnect (supervisor : SessionSupervisor) : SessionSupervisor × Value :=
  match supervisor.session with
  | none => (supervisor, sessionMissing)
  | some session =>
    ({ supervisor with session := some { session with connected := true, state := "active" } },
      .map [("status", .str "ok"), ("reconnect_seconds", .int supervisor.reconnectSeconds)])

def recordEvent (supervisor : SessionSupervisor) (eventId : Int) : SessionSupervisor :=
  match supervisor.session with
  | none => supervisor
  | some session =>
    { supervisor with
      client := supervisor.client.map (·.recordEvent eventId)
      session := some { session with lastEventId := latestEvent session.lastEventId eventId } }

def failover (supervisor : SessionSupervisor) : SessionSupervisor × Value :=
  match supervisor.session with
  | none => (supervisor, sessionMissing)
  | some session =>
    ({ supervisor with
        session := some { session with
          activeEndpoint := session.secondaryEndpoint, state := "failover" } },
      .map [("status", .str "ok"), ("active_endpoint", .str session.secondaryEndpoint)])

end SessionSupervisor

/-! ## Runs -/

inductive SessionAction where
  | start (flags : Mapping) (request : StartRequest)
  | handleDisconnect
  | failover
  | recordEvent (eventId : Int)

/-- A supervisor, and whether its last start found the streaming feature on. -/
structure Supervised where
  supervisor : SessionSupervisor := {}
  streaming : Bool := false

def Supervised.step (supervised : Supervised) : SessionAction → Supervised
  | .start flags request =>
    ⟨supervised.supervisor.start flags request,
      isEnabled flags "shadow.gateway.streaming" request.profile⟩
  | .handleDisconnect => { supervised with supervisor := supervised.supervisor.handleDisconnect.1 }
  | .failover => { supervised with supervisor := supervised.supervisor.failover.1 }
  | .recordEvent eventId =>
    { supervised with supervisor := supervised.supervisor.recordEvent eventId }

/-- Streaming was on and the client was built for the endpoint. -/
def ServedAt (supervised : Supervised) (endpoint : String) : Prop :=
  supervised.streaming = true ∧
    ∃ client, supervised.supervisor.client = some client ∧ client.endpoint = endpoint

/-- A session that is connected or active is served at its active endpoint. -/
def ConnectedToActive (supervised : Supervised) : Prop :=
  ∀ session, supervised.supervisor.session = some session →
    session.connected = true ∨ session.state = "active" →
      ServedAt supervised session.activeEndpoint

/-- A disconnect is handled where the client serves the active endpoint, and a
session that is connected fails over to the endpoint its client serves already. -/
def KeepsClient (supervised : Supervised) : SessionAction → Prop
  | .handleDisconnect => ∀ session, supervised.supervisor.session = some session →
      ServedAt supervised session.activeEndpoint
  | .failover => ∀ session, supervised.supervisor.session = some session →
      session.connected = true → ServedAt supervised session.secondaryEndpoint
  | _ => True

theorem start_connectedToActive (supervised : Supervised) (flags : Mapping)
    (request : StartRequest) : ConnectedToActive (supervised.step (.start flags request)) := by
  intro session held status
  cases streams : isEnabled flags "shadow.gateway.streaming" request.profile with
  | false =>
    simp only [Supervised.step, SessionSupervisor.start, streams, if_true,
      Option.some.injEq] at held
    subst held
    simp [SessionSupervisor.buildSession] at status
  | true =>
    simp only [Supervised.step, SessionSupervisor.start, streams, Bool.true_eq_false, if_false,
      Option.some.injEq] at held
    subst held
    refine ⟨streams, (SessionSupervisor.buildClient request.protocol
      (SessionSupervisor.startEndpoint flags request)).connect, ?_, rfl⟩
    simp [Supervised.step, SessionSupervisor.start, streams]

theorem recordEvent_connectedToActive {supervised : Supervised} (eventId : Int)
    (connected : ConnectedToActive supervised) :
    ConnectedToActive (supervised.step (.recordEvent eventId)) := by
  intro session held status
  cases found : supervised.supervisor.session with
  | none =>
    simp only [Supervised.step, SessionSupervisor.recordEvent, found] at held
    cases held
  | some before =>
    simp only [Supervised.step, SessionSupervisor.recordEvent, found, Option.some.injEq] at held
    subst held
    obtain ⟨streams, client, present, serves⟩ := connected before found status
    refine ⟨streams, client.recordEvent eventId, ?_, serves⟩
    simp [Supervised.step, SessionSupervisor.recordEvent, found, present]

theorem handleDisconnect_connectedToActive_iff (supervised : Supervised) :
    ConnectedToActive (supervised.step .handleDisconnect) ↔
      KeepsClient supervised .handleDisconnect := by
  cases found : supervised.supervisor.session with
  | none =>
    simp [ConnectedToActive, KeepsClient, Supervised.step, SessionSupervisor.handleDisconnect,
      found]
  | some before =>
    simp [ConnectedToActive, KeepsClient, ServedAt, Supervised.step,
      SessionSupervisor.handleDisconnect, found]

theorem failover_connectedToActive_iff (supervised : Supervised) :
    ConnectedToActive (supervised.step .failover) ↔ KeepsClient supervised .failover := by
  cases found : supervised.supervisor.session with
  | none =>
    simp [ConnectedToActive, KeepsClient, Supervised.step, SessionSupervisor.failover, found]
  | some before =>
    simp [ConnectedToActive, KeepsClient, ServedAt, Supervised.step, SessionSupervisor.failover,
      found]

/-- In every run from a new supervisor, connected means connected to the active
endpoint exactly when each step keeps to the client. -/
theorem connectedToActive_iff (maxReconnectSeconds : Int) (actions : List SessionAction) :
    Throughout Supervised.step ConnectedToActive { supervisor := { maxReconnectSeconds } } actions ↔
      EachStep Supervised.step KeepsClient { supervisor := { maxReconnectSeconds } } actions := by
  apply throughout_iff_eachStep ConnectedToActive (fun _ holds => holds)
  · intro supervised action connected keeps
    cases action with
    | start flags request => exact start_connectedToActive supervised flags request
    | handleDisconnect => exact (handleDisconnect_connectedToActive_iff supervised).mpr keeps
    | failover => exact (failover_connectedToActive_iff supervised).mpr keeps
    | recordEvent eventId => exact recordEvent_connectedToActive eventId connected
  · intro supervised action _ connected
    cases action with
    | start flags request => trivial
    | handleDisconnect => exact (handleDisconnect_connectedToActive_iff supervised).mp connected
    | failover => exact (failover_connectedToActive_iff supervised).mp connected
    | recordEvent eventId => trivial
  · intro session absurdity
    cases absurdity

def streamingFlags (enabled : Bool) : Mapping :=
  [("defaults", .map [("paper", .map [("shadow.gateway.streaming", .bool enabled)])])]

def twoEndpoints : StartRequest where
  primaryEndpoint := "https://primary"
  secondaryEndpoint := "https://secondary"
  profile := "paper"
  sessionId := "shadow-gw-00000000"

/-- A failover leaves the client at the primary endpoint, and a disconnect makes
a disabled session active. -/
theorem connected_without_client :
    ¬ Throughout Supervised.step ConnectedToActive {}
        [.start (streamingFlags true) twoEndpoints, .failover] ∧
      ¬ Throughout Supervised.step ConnectedToActive {}
        [.start (streamingFlags false) twoEndpoints, .handleDisconnect] := by
  constructor
  · intro holds
    obtain ⟨-, client, present, serves⟩ := holds.final _ rfl (.inl (by decide))
    cases present
    exact absurd serves (by decide)
  · intro holds
    obtain ⟨streams, -⟩ := holds.final _ rfl (.inl (by decide))
    exact absurd streams (by decide)

end FxToushi.ShadowGateway
