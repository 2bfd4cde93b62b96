import Everest.Auth.Reservations

namespace Everest.Auth

structure StoredReservation where
  evseId : Option ℕ
  reservation : Reservation
deriving DecidableEq, Repr

structure ReservationCancelled where
  evseId : Option ℕ
  reservationId : ℤ
  reason : ReservationEndReason
deriving DecidableEq, Repr

structure ReservationHandler where
  evses : Evses
  evseReservations : EvseReservations := ∅
  globalReservations : List Reservation := []
  restoredReservations : SortedMap ℕ ℤ := ∅
  /-- `reservation_id_to_reservation_timeout_timer_map`: when the timers expire. -/
  timers : SortedMap ℤ ℤ := ∅
  /-- The list in the key value store, if there is one. -/
  store : Option (List StoredReservation) := some []
  /-- Newest first. -/
  out : List ReservationCancelled := []
deriving DecidableEq, Repr

namespace ReservationHandler

variable (evseId : ℕ) (reservation : Reservation) (reservationId : ℤ) (h : ReservationHandler)

def reservationList : List StoredReservation :=
  h.evseReservations.entries.map (fun e => ⟨some e.1, e.2⟩) ++ h.globalReservations.map (⟨none, ·⟩)

def storeReservations : ReservationHandler :=
  { h with store := h.store.map fun _ => h.reservationList }

def setReservationTimer : ReservationHandler :=
  { h with timers := h.timers.insert reservation.reservationId reservation.expiryTime }

def evseOfReservation (reservations : EvseReservations) : Option ℕ :=
  ((reservations.entries.filter (·.2.reservationId = reservationId)).getLast?).map (·.1)

def removeReservation : ReservationHandler :=
  match evseOfReservation reservationId h.evseReservations with
  | some evseId => { h with evseReservations := h.evseReservations.erase evseId }
  | none =>
    { h with globalReservations :=
      h.globalReservations.eraseP (·.reservationId = reservationId) }

def cancelReservation (executeCallback : Bool) (reason : ReservationEndReason)
    (h : ReservationHandler) : (Bool × Option ℕ) × ReservationHandler :=
  if h.timers.contains reservationId then
    let evseId := evseOfReservation reservationId h.evseReservations
    let h := { h with timers := h.timers.erase reservationId }
    let h := (h.removeReservation reservationId).storeReservations
    ((true, evseId),
      if executeCallback then { h with out := ⟨evseId, reservationId, reason⟩ :: h.out } else h)
  else ((false, none), h)

def cancelReservationOfEvse (executeCallback : Bool) (h : ReservationHandler) :
    Bool × ReservationHandler :=
  match h.evseReservations.find? evseId with
  | none => (false, h)
  | some reservation =>
    let (result, h) := h.cancelReservation reservation.reservationId executeCallback .cancelled
    (result.1, h)

def onReservationUsed : ReservationHandler :=
  (h.cancelReservation reservationId false .usedToStartCharging).2

def getAllEvsesWithConnectorType (evses : Evses) (type : ConnectorTypeEnum) : List EVSEContext :=
  (evses.entries.map (·.2)).filter fun evse => hasEvseConnectorType evse.connectors type

/-- The state of the connectors that fit, as a reason to refuse a reservation. -/
def getReservationEvseConnectorState (type : ConnectorTypeEnum) (h : ReservationHandler) :
    ReservationResult :=
  if h.globalReservations ≠ [] ∨ h.evseReservations.entries ≠ [] then .occupied
  else if h.evses.entries.any (·.2.pluggedIn) then
    connectorStateToReservationResult (getNewConnectorState .unavailable .occupied)
  else
    match getAllEvsesWithConnectorType h.evses type with
    | [] => .rejected
    | evses =>
      let connectors := (evses.flatMap (·.connectors)).filter (·.fits type)
      let states := (connectors.map (·.state)).filter (· ≠ .available)
      connectorStateToReservationResult (states.foldl getNewConnectorState .unavailable)

def makeEvseReservation : ReservationResult × ReservationHandler :=
  if h.evseReservations.contains evseId then (.occupied, h)
  else
    match h.evses.find? evseId with
    | none => (.rejected, h)
    | some evse =>
      let evseState := getEvseConnectorStateReservationResult h.evses evseId h.evseReservations
      let connectorState :=
        getConnectorAvailabilityReservationResult h.evses evseId reservation.type
      if !hasEvseConnectorType evse.connectors reservation.type then (.rejected, h)
      else if evseState ≠ .accepted then (evseState, h)
      else if connectorState ≠ .accepted then (connectorState, h)
      else if h.globalReservations = [] ∨ isReservationPossible h.evses none h.globalReservations
          (h.evseReservations.insert evseId reservation) then
        let h := { h with evseReservations := h.evseReservations.insert evseId reservation }
        (.accepted, h.storeReservations.setReservationTimer reservation)
      else (h.getReservationEvseConnectorState reservation.type, h)

def makeGlobalReservation : ReservationResult × ReservationHandler :=
  if reservation.connectorType.isSome &&
      !doesEvseConnectorTypeExist h.evses reservation.type then (.rejected, h)
  else if isReservationPossible h.evses (some reservation.type) h.globalReservations
      h.evseReservations then
    let h := { h with globalReservations := h.globalReservations ++ [reservation] }
    (.accepted, h.storeReservations.setReservationTimer reservation)
  else (h.getReservationEvseConnectorState reservation.type, h)

def makeReservation (now : ℤ) (evseId : Option ℕ) (reservation : Reservation)
    (h : ReservationHandler) : ReservationResult × ReservationHandler :=
  if reservation.expiryTime < now then (.rejected, h)
  else
    -- a reservation with the same id is replaced, even if the new one cannot be made
    let h := (h.cancelReservation reservation.reservationId false .cancelled).2
    match evseId with
    | some evseId => h.makeEvseReservation evseId reservation
    | none => h.makeGlobalReservation reservation

def loadReservation (now : ℤ) (h : ReservationHandler) (stored : StoredReservation) :
    ReservationHandler :=
  let id := stored.reservation.reservationId
  let (result, h) := h.makeReservation now stored.evseId stored.reservation
  if result ≠ .accepted then { h with out := ⟨stored.evseId, id, .cancelled⟩ :: h.out }
  else
    match stored.evseId with
    | some evseId => { h with restoredReservations := h.restoredReservations.insert evseId id }
    | none => h

def loadReservations (now : ℤ) (h : ReservationHandler) : ReservationHandler :=
  match h.store with
  | none => h
  | some stored => stored.foldl (loadReservation now) h

def checkEvseReservations (evses : Evses) :
    EvseReservations → List ℤ → List (ℕ × Reservation) → EvseReservations × List ℤ
  | kept, cancel, [] => (kept, cancel)
  | kept, cancel, (evseId, reservation) :: rest =>
    if isReservationPossible evses none [] (kept.insert evseId reservation) then
      checkEvseReservations evses (kept.insert evseId reservation) cancel rest
    else
      checkEvseReservations evses ((kept.insert evseId reservation).erase evseId)
        (cancel ++ [reservation.reservationId]) rest

/-- The loop over the other reservations. A reservation without a type is not counted when it is
tested itself. -/
def checkGlobalReservations (evses : Evses) (evseReservations : EvseReservations) :
    List Reservation → List ℤ → List Reservation → List Reservation × List ℤ
  | kept, cancel, [] => (kept, cancel)
  | kept, cancel, reservation :: rest =>
    if isReservationPossible evses reservation.connectorType kept evseReservations then
      checkGlobalReservations evses evseReservations (kept ++ [reservation]) cancel rest
    else checkGlobalReservations evses evseReservations kept
      (cancel ++ [reservation.reservationId]) rest

def checkReservationsAndCancelIfNotPossible : ReservationHandler :=
  let (evseReservations, cancel) :=
    checkEvseReservations h.evses ∅ [] h.evseReservations.entries
  let (_, cancel) :=
    checkGlobalReservations h.evses evseReservations [] cancel h.globalReservations
  cancel.foldl (fun h id => (h.cancelReservation id true .cancelled).2) h

def onConnectorStateChanged (connectorState : ConnectorState) (evseId : ℕ) (connectorId : ℤ)
    (h : ReservationHandler) : ReservationHandler :=
  if connectorState = .available then h
  else
    match h.evses.find? evseId with
    | none => h
    | some evse =>
      match evse.connectors.find? (·.id = connectorId) with
      | none => h
      | some connector =>
        match h.evseReservations.find? evseId with
        | none => h.checkReservationsAndCancelIfNotPossible
        | some reservation =>
          if reservation.connectorType.isSome && connector.fits reservation.type then
            (h.cancelReservation reservation.reservationId true .cancelled).2
          else h.checkReservationsAndCancelIfNotPossible

def submitToConnector (connectorId : ℤ) (event : ConnectorEvent) :
    List Connector → List Connector
  | [] => []
  | connector :: connectors =>
    if connector.id = connectorId then connector.submitEvent event :: connectors
    else connector :: submitToConnector connectorId event connectors

def submitEvent (connectorId : ℤ) (event : ConnectorEvent) (evses : Evses) : Evses :=
  evses.modify evseId fun evse =>
    { evse with connectors := submitToConnector connectorId event evse.connectors }

/-- `submit_event_for_connector` of the AuthHandler, which shares the EVSEs. -/
def submitEventForConnector (connectorId : ℤ) (event : ConnectorEvent) (h : ReservationHandler) :
    ReservationHandler :=
  match h.evses.find? evseId with
  | none => h
  | some evse =>
    match evse.connectors.find? (·.id = connectorId) with
    | none => h
    | some connector =>
      { h with evses := submitEvent evseId connectorId event h.evses }.onConnectorStateChanged
        (connector.state.next event) evseId connectorId

def isEvseReserved : Bool :=
  h.evseReservations.contains evseId

def dummyReservation : Reservation := { reservationId := 0 }

def isChargingPossible : Bool :=
  if h.evseReservations.contains evseId then false
  else if !h.evses.contains evseId then false
  else isReservationPossible h.evses none h.globalReservations
    (h.evseReservations.insert evseId dummyReservation)

def Reservation.isFor (idToken : String) (parentIdToken : Option String)
    (reservation : Reservation) : Bool :=
  isEqualCaseInsensitive reservation.idToken idToken ||
    match parentIdToken, reservation.parentIdToken with
    | some a, some b => isEqualCaseInsensitive a b
    | _, _ => false

def matchesReservedIdentifier (idToken : String) (evseId : Option ℕ)
    (parentIdToken : Option String) (h : ReservationHandler) : Option ℤ :=
  match evseId.bind h.evseReservations.find? with
  | some reservation =>
    if Reservation.isFor idToken parentIdToken reservation then some reservation.reservationId
    else none
  | none =>
    (h.globalReservations.find? (Reservation.isFor idToken parentIdToken)).map (·.reservationId)

def hasReservationParentId (evseId : Option ℕ) (h : ReservationHandler) : Bool :=
  match evseId with
  | none => h.globalReservations.any (·.parentIdToken.isSome)
  | some evseId =>
    if !h.evses.contains evseId then false
    else
      match h.evseReservations.find? evseId with
      | some reservation => reservation.parentIdToken.isSome
      | none => h.globalReservations.any (·.parentIdToken.isSome)

inductive Input
  | makeReservation (now : ℤ) (evseId : Option ℕ) (reservation : Reservation)
  | cancelReservation (reservationId : ℤ) (executeCallback : Bool) (reason : ReservationEndReason)
  | cancelReservationOfEvse (evseId : ℕ) (executeCallback : Bool)
  | onReservationUsed (reservationId : ℤ)
  /-- The timer of a reservation. Its callback may run late, when the timer is already gone. -/
  | expired (reservationId : ℤ)
  | submitEventForConnector (evseId : ℕ) (connectorId : ℤ) (event : ConnectorEvent)
deriving DecidableEq, Repr

def step : Input → ReservationHandler
  | .makeReservation now evseId reservation => (h.makeReservation now evseId reservation).2
  | .cancelReservation id executeCallback reason =>
    (h.cancelReservation id executeCallback reason).2
  | .cancelReservationOfEvse evseId executeCallback =>
    (h.cancelReservationOfEvse evseId executeCallback).2
  | .onReservationUsed id => h.onReservationUsed id
  | .expired id => (h.cancelReservation id true .expired).2
  | .submitEventForConnector evseId connectorId event =>
    h.submitEventForConnector evseId connectorId event

end ReservationHandler

end Everest.Auth
