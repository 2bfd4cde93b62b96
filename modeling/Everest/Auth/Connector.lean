import Mathlib.Data.Int.Notation

namespace Everest.Auth

inductive ConnectorEvent
  | enable
  | disable
  | errorCleared
  | faulted
  | transactionStarted
  | sessionFinished
deriving DecidableEq, Repr

inductive ConnectorState
  | available
  | unavailable
  | faulted
  | occupied
  | unavailableFaulted
  | faultedOccupied
deriving DecidableEq, Repr

namespace ConnectorState

/-- The answer is false if the event has no transition in the current state. -/
def handleEvent (state : ConnectorState) (event : ConnectorEvent) : Bool × ConnectorState :=
  match state with
  | available =>
    match event with
    | .transactionStarted => (true, occupied)
    | .disable => (true, unavailable)
    | .faulted => (true, faulted)
    | _ => (false, state)
  | unavailable =>
    match event with
    | .enable => (true, available)
    | .faulted => (true, unavailableFaulted)
    | _ => (false, state)
  | faulted =>
    match event with
    | .errorCleared => (true, available)
    | .disable => (true, unavailableFaulted)
    | _ => (false, state)
  | occupied =>
    match event with
    | .sessionFinished => (true, available)
    | .faulted => (true, faultedOccupied)
    | _ => (false, state)
  | faultedOccupied =>
    match event with
    | .errorCleared => (true, occupied)
    | .sessionFinished => (true, faulted)
    | _ => (false, state)
  | unavailableFaulted =>
    match event with
    | .enable => (true, faulted)
    | .errorCleared => (true, unavailable)
    | _ => (false, state)

def next (state : ConnectorState) (event : ConnectorEvent) : ConnectorState :=
  (state.handleEvent event).2

end ConnectorState

inductive ConnectorTypeEnum
  | cCCS1
  | cCCS2
  | cG105
  | cMCS
  | cTesla
  | cType1
  | cType2
  | s309_1P_16A
  | s309_1P_32A
  | s309_3P_16A
  | s309_3P_32A
  | sBS1361
  | sCEE_7_7
  | sType2
  | sType3
  | other1PhMax16A
  | other1PhOver16A
  | other3Ph
  | pan
  | wInductive
  | wResonant
  | undetermined
  | unknown
deriving DecidableEq, Repr

structure Connector where
  id : ℤ
  state : ConnectorState := .available
  type : ConnectorTypeEnum := .unknown
deriving DecidableEq, Repr

namespace Connector

def submitEvent (connector : Connector) (event : ConnectorEvent) : Connector :=
  { connector with state := connector.state.next event }

def isUnavailable (connector : Connector) : Bool :=
  connector.state = .unavailable || connector.state = .unavailableFaulted

def isOccupied (connector : Connector) : Bool :=
  connector.state = .occupied || connector.state = .faultedOccupied

end Connector

inductive AuthorizationStatus
  | accepted
  | blocked
  | concurrentTx
  | expired
  | invalid
  | noCredit
  | notAllowedTypeEVSE
  | notAtThisLocation
  | notAtThisTime
  | unknown
  | pinRequired
  | timeout
deriving DecidableEq, Repr

inductive AuthorizationType
  | ocpp
  | rfid
  | autocharge
  | plugAndCharge
  | bankCard
deriving DecidableEq, Repr

inductive IdTokenType
  | central
  | eMAID
  | macAddress
  | iso14443
  | iso15693
  | keyCode
  | «local»
  | noAuthorization
deriving DecidableEq, Repr

structure IdToken where
  value : String
  type : IdTokenType := .central
deriving DecidableEq, Repr

def isEqualCaseInsensitive (a b : String) : Bool := a.toLower == b.toLower

def IdToken.isEqualCaseInsensitive (a b : IdToken) : Bool :=
  Auth.isEqualCaseInsensitive a.value b.value && a.type == b.type

structure Identifier where
  idToken : IdToken
  type : AuthorizationType
  authorizationStatus : Option AuthorizationStatus := none
  parentIdToken : Option IdToken := none
deriving DecidableEq, Repr

structure EVSEContext where
  transactionActive : Bool := false
  identifier : Option Identifier := none
  connectors : List Connector
  timeoutInProgress : Bool := false
  pluggedIn : Bool := false
  plugInTimeout : Bool := false
deriving DecidableEq, Repr

namespace EVSEContext

def isAvailable (evse : EVSEContext) : Bool :=
  if evse.plugInTimeout then false
  else if evse.identifier.isSome then false
  else if evse.connectors.any Connector.isOccupied then false
  else evse.connectors.any fun c => c.state != .unavailable && c.state != .faulted

def isUnavailable (evse : EVSEContext) : Bool := evse.connectors.all Connector.isUnavailable

end EVSEContext

end Everest.Auth
