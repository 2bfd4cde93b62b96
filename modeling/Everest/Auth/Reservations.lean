import Everest.Auth.Connector
import Everest.Lib.Permutations
import Everest.Lib.SortedMap

namespace Everest.Auth
open Permutations

inductive ReservationResult
  | accepted
  | faulted
  | occupied
  | rejected
  | unavailable
deriving DecidableEq, Repr

inductive ReservationEndReason
  | expired
  | cancelled
  | usedToStartCharging
deriving DecidableEq, Repr

structure Reservation where
  evseId : Option ℤ := none
  reservationId : ℤ
  idToken : String := ""
  expiryTime : ℤ := 0
  parentIdToken : Option String := none
  connectorType : Option ConnectorTypeEnum := none
deriving DecidableEq, Repr

abbrev Evses := SortedMap ℕ EVSEContext
abbrev EvseReservations := SortedMap ℕ Reservation

/-- The position in the enumeration, which `>` compares. -/
def ConnectorState.rank : ConnectorState → ℕ
  | available => 0
  | unavailable => 1
  | faulted => 2
  | occupied => 3
  | unavailableFaulted => 4
  | faultedOccupied => 5

def connectorStateToReservationResult : ConnectorState → ReservationResult
  | .available => .accepted
  | .unavailable => .unavailable
  | .faulted | .unavailableFaulted | .faultedOccupied => .faulted
  | .occupied => .occupied

def getNewConnectorState (currentState newState : ConnectorState) : ConnectorState :=
  if newState = .occupied then .occupied
  else if currentState.rank < newState.rank then
    if ConnectorState.occupied.rank < newState.rank then
      if newState = .faultedOccupied then .occupied
      else if newState = .unavailableFaulted ∧ currentState ≠ .occupied then .faulted
      else currentState
    else newState
  else currentState

def Connector.fits (type : ConnectorTypeEnum) (connector : Connector) : Bool :=
  connector.type = type || connector.type = .unknown || type = .unknown

def hasEvseConnectorType (connectors : List Connector) (type : ConnectorTypeEnum) : Bool :=
  if type = .unknown then true
  else connectors.any fun c => c.type = .unknown || c.type = type

def doesEvseConnectorTypeExist (evses : Evses) (type : ConnectorTypeEnum) : Bool :=
  evses.entries.any fun e => hasEvseConnectorType e.2.connectors type

def getEvseConnectorStateReservationResult (evses : Evses) (evseId : ℕ)
    (evseSpecificReservations : EvseReservations) : ReservationResult :=
  match evses.find? evseId with
  | none => .rejected
  | some evse =>
    if evse.pluggedIn then connectorStateToReservationResult .occupied
    else
      match evse.connectors.find? Connector.isOccupied with
      | some connector => connectorStateToReservationResult connector.state
      | none => if evseSpecificReservations.contains evseId then .occupied else .accepted

def connectorAvailability (type : ConnectorTypeEnum) :
    ConnectorState → List Connector → ReservationResult
  | connectorState, [] => connectorStateToReservationResult connectorState
  | connectorState, connector :: connectors =>
    if connector.fits type then
      if connector.state = .available then .accepted
      else connectorAvailability type (getNewConnectorState connectorState connector.state)
        connectors
    else connectorAvailability type connectorState connectors

def getConnectorAvailabilityReservationResult (evses : Evses) (evseId : ℕ)
    (type : ConnectorTypeEnum) : ReservationResult :=
  match evses.find? evseId with
  | none => .rejected
  | some evse => connectorAvailability type .unavailable evse.connectors

instance : LinearOrder ConnectorTypeEnum :=
  .lift' ConnectorTypeEnum.ctorIdx (Function.LeftInverse.injective ConnectorTypeEnum.ofNat_ctorIdx)

/-- The orders from `types` upwards, then those below. -/
def getAllPossibleOrders (types : List ConnectorTypeEnum) : List (List ConnectorTypeEnum) :=
  if types = [] then []
  else types :: collect nextPermutation nextPermutation_enumerates types ++
    collect prevPermutation prevPermutation_enumerates types

/-- The loop over the EVSEs. `accepts` says that the next car can stand there, `next` that all
cars after it find a place if it does. -/
def arrivalLoop (accepts : ℕ × EVSEContext → Bool) (isLast : Bool) (next : ℕ → Bool) :
    Bool → List (ℕ × EVSEContext) → Bool
  | isPossible, [] => isPossible
  | isPossible, evse :: evses =>
    if accepts evse then
      if isLast then true
      else if next evse.1 then arrivalLoop accepts isLast next true evses
      else false
    else arrivalLoop accepts isLast next isPossible evses

def virtualCarFits (evses : Evses) (evseSpecificReservations : EvseReservations)
    (usedEvseIds : List ℕ) (type : ConnectorTypeEnum) (evse : ℕ × EVSEContext) : Bool :=
  !usedEvseIds.contains evse.1 &&
    getEvseConnectorStateReservationResult evses evse.1 evseSpecificReservations = .accepted &&
    hasEvseConnectorType evse.2.connectors type &&
    getConnectorAvailabilityReservationResult evses evse.1 type = .accepted

/-- Never asked for an empty order. -/
def canVirtualCarArrive (evses : Evses) (evseSpecificReservations : EvseReservations) :
    List ℕ → List ConnectorTypeEnum → Bool
  | _, [] => false
  | usedEvseIds, type :: nextArrivalOrder =>
    arrivalLoop (virtualCarFits evses evseSpecificReservations usedEvseIds type)
      nextArrivalOrder.isEmpty
      (fun evseId => canVirtualCarArrive evses evseSpecificReservations (usedEvseIds ++ [evseId])
        nextArrivalOrder)
      false evses.entries

def Reservation.type (reservation : Reservation) : ConnectorTypeEnum :=
  reservation.connectorType.getD .unknown

def isReservationPossible (evses : Evses) (globalReservationType : Option ConnectorTypeEnum)
    (reservationsNoEvse : List Reservation) (evseSpecificReservations : EvseReservations) : Bool :=
  let types := reservationsNoEvse.map Reservation.type ++ globalReservationType.toList
  if evses.size < types.length + evseSpecificReservations.size then false
  else (getAllPossibleOrders types).all
    (canVirtualCarArrive evses evseSpecificReservations [])

end Everest.Auth
