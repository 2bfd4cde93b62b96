import Everest.Evse.Charger.Pilot

namespace Everest.Evse

namespace Charger

def setFlagAuthorized (value : Bool) (c : Charger) : Charger :=
  emit (.setAuthorized value) { c with shared.flagAuthorized := value }

def setState (s : EvseState) (c : Charger) : Charger := { c with shared.currentState := s }

variable (env : Env) (c : Charger)

def startSession (authfirst : Bool) (c : Charger) : Charger :=
  let c := setFlagAuthorized false
    { c with shared.sessionActive := true, shared.dlinkEstablished := false }
  let reason := if authfirst then .authorized else .evConnected
  emit (.sessionStarted reason (if authfirst then some c.shared.idToken else none))
    { c with
      shared.authorizedPnc := false
      shared.flagExternallyCancelled := false
      shared.sessionUuid := env.sessionId
      shared.lastStartSessionReason := reason }

def stopSession : Charger :=
  let c := setFlagAuthorized false { c with shared.sessionActive := false }
  let c := emit (.simpleEvent .sessionFinished)
    { c with
      shared.authorizedPnc := false
      shared.flagExternallyCancelled := false
      shared.flagPausedByEvse := false }
  { c with shared.sessionUuid := "" }

/-- Start the transaction on the first power meter that supports it. `false` if a meter fails
and charging must not go on without it. -/
def startOnMeters : List TransactionRequestStatus → Charger → Bool × Charger
  | [], c => (true, c)
  | status :: meters, c =>
    let c := c.emit (.meterStartTransaction c.shared.sessionUuid)
    match status with
    | .ok => (true, c)
    | .notSupported => startOnMeters meters c
    | .unexpectedError =>
      if c.config.failOnPowermeterErrors then
        (false, c.emit (.raiseError .powermeterTransactionStartFailed))
      else startOnMeters meters c

def forgetStopReason : Charger :=
  { c with shared.stopTransactionIdToken := none, shared.lastStopTransactionReason := none }

def beginTransaction : Charger :=
  let c := c.emit (.storeSession c.shared.sessionUuid)
  { c.emit (.transactionStarted c.shared.idToken) with shared.flagTransactionActive := true }

def startTransaction : Bool × Charger :=
  let meters := startOnMeters env.startResponses c.forgetStopReason
  (meters.1, if meters.1 then meters.2.beginTransaction else meters.2)

def stopOnMeters : List TransactionRequestStatus → Charger → Charger
  | [], c => c
  | status :: meters, c =>
    let c := c.emit (.meterStopTransaction c.shared.sessionUuid)
    if status = .notSupported then stopOnMeters meters c else c

/-- A reason that was set before, such as by `cancel_transaction`, is kept. -/
def endTransaction : Charger :=
  { c with
    shared.flagTransactionActive := false
    shared.lastStopTransactionReason :=
      some (c.shared.lastStopTransactionReason.getD .evDisconnected) }

def stopTransaction : Charger :=
  let c := stopOnMeters env.stopResponses c.endTransaction
  let c := (c.emit .clearSession).emit (.simpleEvent .chargingFinished)
  c.emit (.transactionFinished (c.shared.lastStopTransactionReason.getD .evDisconnected)
    c.shared.stopTransactionIdToken)

/-- Inform HLC, so that it escapes the authorization loop and stops the session. -/
def pluginTimeout (c : Charger) : Charger :=
  let c := c.emit (.simpleEvent .pluginTimeout)
  (if c.config.raiseMrec9 then c.emit (.raiseError .authorizationTimeout) else c).emit
    .hlcPlugInTimeout

def deauthorizeInternal : Bool × Charger :=
  if !c.shared.sessionActive then (false, c)
  else
    let c := c.emit (.simpleEvent .deauthorized)
    if c.shared.currentState ∈ [.disabled, .idle, .waitingForAuthentication] then
      -- we can safely remove auth as it is not in use right now
      if c.shared.flagAuthorized then (true, (c.setFlagAuthorized false).stopSession)
      else (false, c.pluginTimeout)
    else (false, c)

def dcSupplyOff (c : Charger) : Charger :=
  if c.config.chargeMode = .dc then c.emit .dcSupplyOff else c

def emergencyShutdown (env : Env) (c : Charger) : Charger :=
  let c := if c.shared.pwmRunning then c.cpStateX1 env else c
  let c := c.dcSupplyOff.emit (.allowPowerOn false .powerOff)
  c.emit (.hlcError .emergencyShutdown)

/-- The PWM stays on, so that the error can still be sent to the car. -/
def errorShutdown (c : Charger) : Charger :=
  let c := c.dcSupplyOff.emit (.allowPowerOn false .powerOff)
  c.emit (.hlcError .errorShutdown)

def startFatalErrorTimer : Charger :=
  { c with internal.fatalErrorBecameActive := env.steady }

def shutDown : Charger :=
  if c.shared.lastShutdownType = c.shared.shutdownType then c
  else
    match c.shared.shutdownType with
    | .none => c
    | .emergencyShutdown => (c.startFatalErrorTimer env).emergencyShutdown env
    | .errorShutdown => (c.startFatalErrorTimer env).errorShutdown

def stopChargingOnFatalErrorInternal : Bool × Charger :=
  let err : Bool := c.shared.shutdownType ≠ .none
  let c := c.shutDown env
  (err, { c with
    internal.fatalErrorTimerRunning := err
    shared.lastShutdownType := c.shared.shutdownType })

def enteredFatalErrorState : Bool :=
  c.shared.shutdownType ≠ .none ∧ c.shared.lastShutdownType = .none

def timeInFatalErrorStateMs : ℤ :=
  if c.internal.fatalErrorTimerRunning then env.steady - c.internal.fatalErrorBecameActive else 0

def clearErrors (errors : List ChargerError) (c : Charger) : Charger :=
  errors.foldl (fun c error => c.emit (.clearError error)) c

def clearErrorsOnUnplug : Charger :=
  let c := clearErrors [.overcurrent, .internal, .powermeterTransactionStartFailed,
    .authorizationTimeout, .isolationResistance, .isolationVoltageToEarth, .cableCheck,
    .overVoltage, .voltagePlausibility] c
  { c with shared.lastShutdownType := .none }

def evsePauseResumable : Bool :=
  c.shared.hlcSessionPausedByEvse && !c.shared.flagPausedByEvse

def resumeEvsePauseMarker : Charger :=
  let c := if c.shared.hlcChargingTerminatePause ≠ .pause then c.emit .slacStart else c
  { c with
    shared.hlcChargingTerminatePause := .unknown
    internal.sessionStopPwmOffDeadline := none }

def pncWithoutChargingLoop : Bool :=
  c.config.chargeMode = .ac ∧ c.shared.currentState = .waitingForAuthentication ∧
    c.shared.flagAuthorized ∧ c.shared.authorizedPnc ∧ !c.shared.hlcChargingActive

/-- Matching retries with 5 percent PWM (`C_sequ_retry`). -/
def cSequRetry : ℕ := 2

def prepareErrorSequence (limitRetries : Bool) (c : Charger) : Charger :=
  let c := { c with
    internal.tStepEFReturnState := c.shared.currentState
    internal.tStepEFReturnAmpere := 0 }
  if limitRetries ∧ cSequRetry ≤ c.internal.slacRetries then
    { c with
      internal.slacRetriesExhausted := true
      hlcUse5percentCurrentSession := false
      internal.tStepEFReturnPwm := 0 }
  else if c.hlcUse5percentCurrentSession then
    { c with
      internal.slacRetries :=
        if limitRetries then c.internal.slacRetries + 1 else c.internal.slacRetries
      internal.tStepEFReturnPwm := pwm5Percent }
  else { c with internal.tStepEFReturnPwm := 0 }

/-- A lost data link goes through X1 first; without a link, E/F directly. -/
def enterErrorSequence : Charger :=
  if c.shared.dlinkEstablished then
    { c with internal.tStepX1UntilUnmatched := true, shared.currentState := .tStepX1 }
  else (c.setState .tStepEF).emit .slacReset

def requestErrorSequenceInternal : Charger :=
  let limitRetries : Bool := c.config.acLimitSlacInitRetries ∧ c.config.chargeMode = .ac
  let c :=
    if c.shared.currentState ∈ [.waitingForAuthentication, .prepareCharging] then
      -- without 5 percent no SLAC will be performed, the PWM is kept as it is
      if limitRetries ∧ !c.hlcUse5percentCurrentSession then c
      else (c.prepareErrorSequence limitRetries).enterErrorSequence
    else c
  { c with shared.dlinkEstablished := false }

end Charger

end Everest.Evse
