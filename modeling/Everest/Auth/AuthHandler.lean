import Everest.Auth.ReservationHandler

/- The AuthHandler: tokens are validated, get an EVSE and are checked against the reservations.
A thread holds the event mutex except while a token is validated and while it waits on the
condition variable, so the state keeps the threads at these points and a step runs one thread from
one of them to the next. -/

namespace Everest.Auth

inductive SelectionAlgorithm
  | userInput
  | plugEvents
  | plugEventsLIFO
  | findFirst
deriving DecidableEq, Repr

inductive TokenValidationStatus
  | processing
  | accepted
  | rejected
  | timedOut
  | usedToStart
  | usedToStop
  | withdrawn
  | usedToReauthorize
deriving DecidableEq, Repr

inductive TokenHandlingResult
  | alreadyInProcess
  | rejected
  | usedToStartTransaction
  | usedToStopTransaction
  | timeout
  | noConnectorAvailable
  | withdrawn
  | usedToReauthorize
deriving DecidableEq, Repr

inductive StopTransactionReason
  | «local»
  | masterPass
deriving DecidableEq, Repr

structure ProvidedIdToken where
  idToken : IdToken
  authorizationType : AuthorizationType := .rfid
  connectors : Option (List ℕ) := none
  prevalidated : Option Bool := none
  parentIdToken : Option IdToken := none
deriving DecidableEq, Repr

structure ValidationResult where
  authorizationStatus : AuthorizationStatus
  parentIdToken : Option IdToken := none
  evseIds : Option (List ℕ) := none
  reservationId : Option ℤ := none
deriving DecidableEq, Repr

structure WithdrawAuthorizationRequest where
  evseId : Option ℕ := none
  idToken : Option IdToken := none
deriving DecidableEq, Repr

/-- What the timer of an EVSE does when it expires. -/
inductive Timeout
  | authorization (token : ProvidedIdToken)
  | plugIn
deriving DecidableEq, Repr

/-- A thread in `handle_token` that has released the mutex. -/
inductive TokenThread
  /-- In `validate_token_callback`. -/
  | validating (token : ProvidedIdToken) (referencedEvses : List ℕ)
  /-- In `select_evse`, until an EV is plugged in; the results after this one are still to be
  tried. -/
  | selecting (token : ProvidedIdToken) (referencedEvses : List ℕ) (result : ValidationResult)
    (results : List ValidationResult)
  /-- In `notify_evse`, until a running timeout task has finished. -/
  | notifying (token : ProvidedIdToken) (evseId : ℕ) (result : ValidationResult)
deriving DecidableEq, Repr

inductive SessionEvent
  | sessionStarted (evConnected : Bool)
  | transactionStarted
  | transactionFinished
  | sessionFinished
  | disabled
  | enabled
  | deauthorized
  | reservationEnd
  /-- The events that are ignored. -/
  | other
deriving DecidableEq, Repr

/-- The calls of the callbacks, and the steps that grant and take back an authorization. -/
inductive AuthEvent
  | published (token : ProvidedIdToken) (status : TokenValidationStatus)
  /-- `notify_evse` is called with an accepted result, which has this parent id. -/
  | granted (evseId : ℕ) (token : ProvidedIdToken) (parentIdToken : Option IdToken)
  | notified (evseId : ℕ) (token : ProvidedIdToken) (result : ValidationResult)
  | identifierReset (evseId : ℕ)
  | stopTransaction (evseId : ℕ) (reason : StopTransactionReason) (token : ProvidedIdToken)
  | withdrawAuthorization (evseId : ℕ)
  | handled (token : ProvidedIdToken) (result : TokenHandlingResult)
  /-- The exception of a selection algorithm that is not implemented. -/
  | notImplemented (token : ProvidedIdToken)
deriving DecidableEq, Repr

structure AuthConfig where
  plugInTimeoutEnabled : Bool := true
  prioritizeAuthorizationOverStoppingTransaction : Bool := true
  ignoreFaults : Bool := false
  stopTransactionOnReswipe : Bool := true
  masterPassGroupId : Option String := none
deriving DecidableEq, Repr

structure AuthHandler where
  selectionAlgorithm : SelectionAlgorithm
  config : AuthConfig := {}
  /-- It shares the EVSEs with the AuthHandler. -/
  reservationHandler : ReservationHandler
  /-- In the order of the plug-ins. -/
  plugInQueue : List ℕ := []
  tokensInProcess : List ProvidedIdToken := []
  withdrawRequest : Option WithdrawAuthorizationRequest := none
  /-- `timeout_timer` of the EVSEs, as far as they are running. -/
  timers : SortedMap ℕ Timeout := ∅
  /-- Expired timers whose task waits for the mutex. -/
  timeoutTasks : List (ℕ × Timeout) := []
  tokenThreads : List TokenThread := []
  /-- Threads in `handle_session_event` that wait for a running timeout task; the flag says that
  the session has finished. -/
  sessionThreads : List (ℕ × Bool) := []
  /-- Newest first. -/
  log : List AuthEvent := []
deriving DecidableEq, Repr

namespace AuthHandler

def evses (s : AuthHandler) : Evses := s.reservationHandler.evses

variable (token : ProvidedIdToken) (evseId : ℕ) (result : ValidationResult) (s : AuthHandler)

def modifyEvse (f : EVSEContext → EVSEContext) (s : AuthHandler) : AuthHandler :=
  { s with reservationHandler :=
    { s.reservationHandler with evses := s.evses.modify evseId f } }

def record (event : AuthEvent) (s : AuthHandler) : AuthHandler := { s with log := event :: s.log }

def publish (status : TokenValidationStatus) (s : AuthHandler) : AuthHandler :=
  s.record (.published token status)

def resetIdentifier : AuthHandler :=
  (s.modifyEvse evseId fun evse => { evse with identifier := none }).record
    (.identifierReset evseId)

def timeoutInProgress (evseId : ℕ) (s : AuthHandler) : Bool :=
  (s.evses.find? evseId).any (·.timeoutInProgress)

def identifier (evseId : ℕ) (s : AuthHandler) : Option Identifier :=
  (s.evses.find? evseId).bind (·.identifier)

def transactionActive (evseId : ℕ) (s : AuthHandler) : Bool :=
  (s.evses.find? evseId).any (·.transactionActive)

def getReferencedEvses : List ℕ :=
  match token.connectors with
  | some evseIds => evseIds.filter fun id => (s.evses.find? id).any (!·.isUnavailable)
  | none => (s.evses.entries.filter (!·.2.isUnavailable)).map (·.1)

def Identifier.isFor (token : String) (identifier : Identifier) : Bool :=
  isEqualCaseInsensitive identifier.idToken.value token ||
    identifier.parentIdToken.any fun parent => isEqualCaseInsensitive parent.value token

def usedForTransaction (evseIds : List ℕ) (token : String) (s : AuthHandler) : Option ℕ :=
  evseIds.find? fun id => (s.identifier id).any (Identifier.isFor token)

def isTokenAlreadyInProcess (referencedEvses : List ℕ) (s : AuthHandler) : Bool :=
  s.tokensInProcess.any (·.idToken.value = token.idToken.value) ||
    referencedEvses.any fun id =>
      (s.identifier id).any (·.idToken.isEqualCaseInsensitive token.idToken) &&
        !s.transactionActive id

def anyEvseAvailable (evseIds : List ℕ) (s : AuthHandler) : Bool :=
  evseIds.any fun id => (s.evses.find? id).any (·.isAvailable)

def anyParentIdPresent (evseIds : List ℕ) (s : AuthHandler) : Bool :=
  evseIds.any fun id => (s.identifier id).any (·.parentIdToken.isSome)

def equalsMasterPassGroupId (parentIdToken : Option IdToken) (s : AuthHandler) : Bool :=
  match s.config.masterPassGroupId, parentIdToken with
  | some group, some parent => isEqualCaseInsensitive parent.value group
  | _, _ => false

/-- `all_evses_reserved_and_tag_does_not_match` -/
def allEvsesReserved (referencedEvses : List ℕ) (s : AuthHandler) : Bool :=
  referencedEvses.all fun id =>
    !(!s.reservationHandler.isEvseReserved id && s.reservationHandler.isChargingPossible id) &&
    (s.reservationHandler.matchesReservedIdentifier token.idToken.value (some id) none).isNone &&
    !s.reservationHandler.hasReservationParentId (some id)

def getOldestPlugin (evseIds : List ℕ) (s : AuthHandler) : Option ℕ :=
  s.plugInQueue.find? (evseIds.contains ·)

def getLastPlugin (evseIds : List ℕ) (s : AuthHandler) : Option ℕ :=
  s.plugInQueue.reverse.find? (evseIds.contains ·)

def selectPluggedInEvse (evseIds : List ℕ) (s : AuthHandler) : Option ℕ :=
  if s.selectionAlgorithm = .plugEventsLIFO then s.getLastPlugin evseIds
  else s.getOldestPlugin evseIds

def doesWithdrawRequestMatch (request : WithdrawAuthorizationRequest) (selectedEvses : List ℕ)
    (idToken : IdToken) : Bool :=
  request.idToken.all (·.isEqualCaseInsensitive idToken) &&
    request.evseId.all (selectedEvses.contains ·)

def isAuthorizationWithdrawn (selectedEvses : List ℕ) (idToken : IdToken) (s : AuthHandler) :
    Bool :=
  s.withdrawRequest.any (doesWithdrawRequestMatch · selectedEvses idToken)

inductive SelectEvseResult
  | evseSelected (evseId : ℕ)
  | timeOut
  | interrupted
  /-- No EV has been plugged in yet. -/
  | waiting
  | notImplemented
deriving DecidableEq, Repr

/-- The wait for a plug-in ends, also at once, when one of the EVSEs is plugged in or the
authorization is withdrawn. -/
def selectAfterPlugIn (selectedEvses : List ℕ) (idToken : IdToken) (s : AuthHandler) :
    SelectEvseResult :=
  if s.isAuthorizationWithdrawn selectedEvses idToken then .interrupted
  else
    match s.selectPluggedInEvse selectedEvses with
    | some evseId => .evseSelected evseId
    | none => .waiting

def selectFirst (selectedEvses : List ℕ) (s : AuthHandler) : SelectEvseResult :=
  let available := selectedEvses.find? fun id => (s.evses.find? id).any (·.isAvailable)
  match s.getOldestPlugin selectedEvses, available with
  | some evseId, available =>
    if !s.transactionActive evseId then .evseSelected evseId
    else available.elim .timeOut .evseSelected
  | none, available => available.elim .timeOut .evseSelected

def selectEvse (selectedEvses : List ℕ) (idToken : IdToken) (s : AuthHandler) : SelectEvseResult :=
  match selectedEvses with
  | [evseId] => .evseSelected evseId
  | _ =>
    match s.selectionAlgorithm with
    | .plugEvents | .plugEventsLIFO => s.selectAfterPlugIn selectedEvses idToken
    | .findFirst => s.selectFirst selectedEvses
    | .userInput => .notImplemented

/-- The end of `on_token`. -/
def finish (result : TokenHandlingResult) (s : AuthHandler) : AuthHandler :=
  let s := match result with
    | .alreadyInProcess => s
    | .timeout => s.publish token .timedOut
    | .noConnectorAvailable | .rejected => s.publish token .rejected
    | .usedToStartTransaction => s.publish token .usedToStart
    | .usedToStopTransaction => s.publish token .usedToStop
    | .withdrawn => s.publish token .withdrawn
    | .usedToReauthorize => s.publish token .usedToReauthorize
  { s with
    tokensInProcess := s.tokensInProcess.filter (·.idToken.value ≠ token.idToken.value)
    log := .handled token result :: s.log }

def block (thread : TokenThread) (s : AuthHandler) : AuthHandler :=
  { s with tokenThreads := s.tokenThreads ++ [thread] }

/-- `notify_evse` after its wait, for an accepted result. -/
def completeGrant : AuthHandler :=
  { s with
    timers := s.timers.insert evseId (.authorization token)
    plugInQueue := s.plugInQueue.filter (· ≠ evseId)
    log := .notified evseId token result :: s.log }.finish token .usedToStartTransaction

def grantedIdentifier : Identifier where
  idToken := token.idToken
  type := token.authorizationType
  authorizationStatus := some result.authorizationStatus
  parentIdToken := result.parentIdToken

def emplaceIdentifier : AuthHandler :=
  (s.modifyEvse evseId fun evse =>
    { evse with identifier := some (grantedIdentifier token result) }).record
      (.granted evseId token result.parentIdToken)

def grant : AuthHandler :=
  let s := s.emplaceIdentifier token evseId result
  if s.timeoutInProgress evseId then s.block (.notifying token evseId result)
  else s.completeGrant token evseId result

/-- The token meets the reservations on the selected EVSE: whether it is authorized, with which
result, and the reservations that remain. -/
def assign (h : ReservationHandler) : Bool × ValidationResult × ReservationHandler :=
  let reservationId := h.matchesReservedIdentifier token.idToken.value (some evseId)
    (result.parentIdToken.map (·.value))
  if result.evseIds.any (!·.contains evseId) then
    (false, { result with authorizationStatus := .notAtThisLocation }, h)
  else if reservationId = none ∧ !h.isChargingPossible evseId then
    (false, { result with authorizationStatus := .notAtThisTime }, h)
  else if !h.isEvseReserved evseId ∧ reservationId = none then (true, result, h)
  else
    match reservationId with
    | some id => (true, { result with reservationId := some id }, h.onReservationUsed id)
    | none => (false, { result with authorizationStatus := .notAtThisTime }, h)

def reject : AuthHandler :=
  let told := (token.connectors.getD []).filter (s.evses.contains ·)
  (told.foldl (fun s id => s.record (.notified id token result)) s).finish token .rejected

def afterSelect (next : ValidationResult → AuthHandler → AuthHandler) (token : ProvidedIdToken)
    (referencedEvses : List ℕ) (result : ValidationResult) (results : List ValidationResult)
    (s : AuthHandler) : SelectEvseResult → AuthHandler
  | .waiting => s.block (.selecting token referencedEvses result results)
  | .timeOut => s.finish token .timeout
  | .interrupted => s.finish token .withdrawn
  | .notImplemented => s.record (.notImplemented token)
  | .evseSelected evseId =>
    match assign token evseId result s.reservationHandler with
    | (true, result, h) =>
      { s with reservationHandler := h }.grant { token with connectors := some [evseId] } evseId
        result
    | (false, result, h) =>
      next result ({ s with reservationHandler := h }.record (.notified evseId token result))

/-- The loop over the validation results. `last` is the one tried last. -/
def tryResults (referencedEvses : List ℕ) : List ValidationResult → ValidationResult →
    ProvidedIdToken → AuthHandler → AuthHandler
  | [], last, token, s => s.reject token last
  | result :: results, last, token, s =>
    if referencedEvses = [] then s.reject token last
    else if result.authorizationStatus ≠ .accepted then
      tryResults referencedEvses results result token s
    else if s.equalsMasterPassGroupId result.parentIdToken then s.finish token .rejected
    else
      let token := { token with parentIdToken := result.parentIdToken.or token.parentIdToken }
      let s := s.publish token .accepted
      s.afterSelect (fun last s => tryResults referencedEvses results last token s) token
        referencedEvses result results (s.selectEvse referencedEvses token.idToken)

def stopWithParentId (token : ProvidedIdToken) (referencedEvses : List ℕ) (s : AuthHandler) :
    List ValidationResult → Option AuthHandler
  | [] => none
  | result :: results =>
    match result.authorizationStatus, result.parentIdToken with
    | .accepted, some parent =>
      if s.equalsMasterPassGroupId (some parent) then
        let stopped := referencedEvses.filter (s.transactionActive ·)
        some ((stopped.foldl (fun s id =>
          s.record (.stopTransaction id .masterPass token)) s).finish
          { token with parentIdToken := some parent, connectors := some stopped }
          .usedToStopTransaction)
      else
        match s.usedForTransaction referencedEvses parent.value with
        | some evseId =>
          let token := { token with connectors := some [evseId] }
          if !s.transactionActive evseId then some (s.finish token .alreadyInProcess)
          else if !s.config.stopTransactionOnReswipe then
            some (s.finish { token with parentIdToken := some parent } .usedToReauthorize)
          else
            some ((s.record (.stopTransaction evseId .local token)).finish
              { token with parentIdToken := some parent } .usedToStopTransaction)
        | none => stopWithParentId token referencedEvses s results
    | _, _ => stopWithParentId token referencedEvses s results

/-- `handle_token` after the validation. -/
def handleValidated (referencedEvses : List ℕ) (results : List ValidationResult) (s : AuthHandler) :
    AuthHandler :=
  let attemptStop := !s.config.prioritizeAuthorizationOverStoppingTransaction ||
    !s.anyEvseAvailable referencedEvses
  match if attemptStop then s.stopWithParentId token referencedEvses results else none with
  | some s => s
  | none =>
    if !s.anyEvseAvailable referencedEvses then s.finish token .noConnectorAvailable
    else if results = [] then s.finish token .rejected
    else
      tryResults (referencedEvses.filter fun id => (s.identifier id).isNone) results
        { authorizationStatus := .unknown } token s

def handleToken : AuthHandler :=
  let referencedEvses := s.getReferencedEvses token
  let used := if token.authorizationType = .rfid ∨ token.authorizationType = .bankCard then
    s.usedForTransaction referencedEvses token.idToken.value else none
  match used with
  | some evseId =>
    let parent := ((s.identifier evseId).bind (·.parentIdToken)).or token.parentIdToken
    let used := { token with parentIdToken := parent, connectors := some [evseId] }
    if !s.config.stopTransactionOnReswipe then s.finish used .usedToReauthorize
    else (s.record (.stopTransaction evseId .local token)).finish used .usedToStopTransaction
  | none =>
    if !s.anyEvseAvailable referencedEvses && !s.anyParentIdPresent referencedEvses &&
        s.config.masterPassGroupId.isNone then s.finish token .noConnectorAvailable
    else if s.allEvsesReserved token referencedEvses then s.finish token .noConnectorAvailable
    else if token.prevalidated = some true then
      s.handleValidated token referencedEvses
        [{ authorizationStatus := .accepted, parentIdToken := token.parentIdToken }]
    else s.block (.validating token referencedEvses)

def onToken : AuthHandler :=
  if s.isTokenAlreadyInProcess token (s.getReferencedEvses token) then
    s.record (.handled token .alreadyInProcess)
  else
    ({ s with tokensInProcess := s.tokensInProcess ++ [token] }.publish token
      .processing).handleToken token

/-- The thread goes on if what it waits for has happened. `expired` says that the time to plug in
is over. -/
def resume (i : ℕ) (expired : Bool) (s : AuthHandler) : AuthHandler :=
  match s.tokenThreads[i]? with
  | some (.selecting token referencedEvses result results) =>
    let woken := { s with tokenThreads := s.tokenThreads.eraseIdx i }
    match s.selectAfterPlugIn referencedEvses token.idToken with
    | .waiting => if expired then woken.finish token .timeout else s
    | selected =>
      woken.afterSelect (fun last s => s.tryResults referencedEvses results last token) token
        referencedEvses result results selected
  | some (.notifying token evseId result) =>
    if s.timeoutInProgress evseId then s
    else { s with tokenThreads := s.tokenThreads.eraseIdx i }.completeGrant token evseId result
  | _ => s

def validated (i : ℕ) (results : List ValidationResult) (s : AuthHandler) : AuthHandler :=
  match s.tokenThreads[i]? with
  | some (.validating token referencedEvses) =>
    { s with tokenThreads := s.tokenThreads.eraseIdx i }.handleValidated token referencedEvses
      results
  | _ => s

def submitEventForConnector (evseId : ℕ) (connectorId : ℤ) (event : ConnectorEvent)
    (s : AuthHandler) : AuthHandler :=
  { s with reservationHandler :=
    s.reservationHandler.submitEventForConnector evseId connectorId event }

/-- The part of a session event after the wait for a timeout task. -/
def stopTimer (finished : Bool) (s : AuthHandler) : AuthHandler :=
  { s with
    timers := s.timers.erase evseId
    plugInQueue := if finished then s.plugInQueue.filter (· ≠ evseId) else s.plugInQueue }

def waitForTimeout (finished : Bool) (s : AuthHandler) : AuthHandler :=
  if s.timeoutInProgress evseId then
    { s with sessionThreads := s.sessionThreads ++ [(evseId, finished)] }
  else s.stopTimer evseId finished

def handleSessionEvent (connectorId : ℤ) (event : SessionEvent) (s : AuthHandler) : AuthHandler :=
  if connectorId ≤ 0 || !s.evses.contains evseId then s
  else
    match event with
    | .sessionStarted evConnected =>
      if evConnected then
        let s := { s with plugInQueue := s.plugInQueue ++ [evseId] }.modifyEvse evseId
          fun evse => { evse with pluggedIn := true }
        if s.evses.size = 1 || !s.config.plugInTimeoutEnabled then s
        else { s with timers := s.timers.insert evseId .plugIn }
      else s
    | .transactionStarted =>
      ((s.modifyEvse evseId fun evse =>
        { evse with pluggedIn := true, transactionActive := true }).submitEventForConnector evseId
          connectorId .transactionStarted).waitForTimeout evseId false
    | .transactionFinished =>
      (s.modifyEvse evseId fun evse => { evse with transactionActive := false }).resetIdentifier
        evseId
    | .sessionFinished =>
      (((s.modifyEvse evseId fun evse =>
        { evse with pluggedIn := false, plugInTimeout := false }).resetIdentifier
          evseId).submitEventForConnector evseId connectorId .sessionFinished).waitForTimeout
            evseId true
    | .disabled => s.submitEventForConnector evseId connectorId .disable
    | .enabled => s.submitEventForConnector evseId connectorId .enable
    | .deauthorized => (s.resetIdentifier evseId).waitForTimeout evseId false
    | .reservationEnd =>
      if s.reservationHandler.isEvseReserved evseId then
        { s with reservationHandler :=
          (s.reservationHandler.cancelReservationOfEvse evseId true).2 }
      else s
    | .other => s

def resumeSession (i : ℕ) (s : AuthHandler) : AuthHandler :=
  match s.sessionThreads[i]? with
  | some (evseId, finished) =>
    if s.timeoutInProgress evseId then s
    else { s with sessionThreads := s.sessionThreads.eraseIdx i }.stopTimer evseId finished
  | none => s

def timerExpired : AuthHandler :=
  match s.timers.find? evseId with
  | some timeout =>
    { s with
      timers := s.timers.erase evseId
      timeoutTasks := s.timeoutTasks ++ [(evseId, timeout)] }.modifyEvse evseId
        fun evse => { evse with timeoutInProgress := true }
  | none => s

def runTimeoutTask (i : ℕ) (s : AuthHandler) : AuthHandler :=
  match s.timeoutTasks[i]? with
  | some (evseId, timeout) =>
    let s := { s with timeoutTasks := s.timeoutTasks.eraseIdx i }
    match timeout with
    | .authorization token =>
      (((s.resetIdentifier evseId).record (.withdrawAuthorization evseId)).publish token
        .timedOut).modifyEvse evseId fun evse => { evse with timeoutInProgress := false }
    | .plugIn =>
      ({ s with plugInQueue := s.plugInQueue.filter (· ≠ evseId) }.record
        (.withdrawAuthorization evseId)).modifyEvse evseId
          fun evse => { evse with plugInTimeout := true, timeoutInProgress := false }
  | none => s

def handleTokenValidationResultUpdate (status : AuthorizationStatus)
    (parentIdToken : Option IdToken) (s : AuthHandler) : AuthHandler :=
  match s.identifier evseId with
  | some identifier =>
    (s.modifyEvse evseId fun evse =>
      { evse with identifier := evse.identifier.map fun identifier =>
        { identifier with
          authorizationStatus := some status
          parentIdToken := parentIdToken } }).publish
      { idToken := identifier.idToken
        authorizationType := identifier.type
        parentIdToken := parentIdToken
        connectors := some [evseId] } .accepted
  | none => s

inductive Input
  | token (token : ProvidedIdToken)
  | validated (i : ℕ) (results : List ValidationResult)
  | resume (i : ℕ) (expired : Bool)
  | sessionEvent (evseId : ℕ) (connectorId : ℤ) (event : SessionEvent)
  | resumeSession (i : ℕ)
  | timerExpired (evseId : ℕ)
  | runTimeoutTask (i : ℕ)
  | validationResultUpdate (evseId : ℕ) (status : AuthorizationStatus)
    (parentIdToken : Option IdToken)
  /-- What `handle_withdraw_authorization` asks for while it waits for the tokens it targets. -/
  | withdrawRequest (request : Option WithdrawAuthorizationRequest)
  | fault (evseId : ℕ) (connectorId : ℤ) (raised : Bool)
  /-- An operation on the reservations. -/
  | reservation (input : ReservationHandler.Input)
  | configure (config : AuthConfig)
deriving DecidableEq, Repr

def step (s : AuthHandler) : Input → AuthHandler
  | .token token => s.onToken token
  | .validated i results => s.validated i results
  | .resume i expired => s.resume i expired
  | .sessionEvent evseId connectorId event => s.handleSessionEvent evseId connectorId event
  | .resumeSession i => s.resumeSession i
  | .timerExpired evseId => s.timerExpired evseId
  | .runTimeoutTask i => s.runTimeoutTask i
  | .validationResultUpdate evseId status parentIdToken =>
    s.handleTokenValidationResultUpdate evseId status parentIdToken
  | .withdrawRequest request => { s with withdrawRequest := request }
  | .fault evseId connectorId raised =>
    if s.config.ignoreFaults then s
    else s.submitEventForConnector evseId connectorId (if raised then .faulted else .errorCleared)
  | .reservation input => { s with reservationHandler := s.reservationHandler.step input }
  | .configure config => { s with config := config }

end AuthHandler

end Everest.Auth
