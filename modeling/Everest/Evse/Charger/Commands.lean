import Everest.Evse.Charger.StateMachine

namespace Everest.Evse

namespace Charger

variable (env : Env) (event : CPEvent) (c : Charger)

/-- The plain facts that an event tells, whatever the state. -/
def processCpEventsIndependent : Charger :=
  match event with
  | .carRequestedStopPower => { c with shared.iecAllowCloseContactor := false }
  | .carUnplugged => { c with shared.flagEvPluggedIn := false }
  | .powerOff => { c with shared.contactorOpen := true }
  | .powerOn => { c with shared.contactorOpen := false }
  | _ => c

def stopPowerWhilePreparing : Charger :=
  let c := emit .dcSupplyOff
    { c with
      shared.iecAllowCloseContactor := false
      shared.hlcSessionPausedByEvse := false }
  -- in a renegotiation the car goes on with ChargeParameterDiscovery
  if c.shared.hlcDcRenegotiation then c else c.setState .chargingPausedEVSE

def powerRequestWhilePausedByEv : Charger :=
  let c := { c with shared.iecAllowCloseContactor := true }
  if c.config.chargeMode = .ac ∧ !c.shared.hlcChargingActive then c.setState .prepareCharging
  else if c.shared.pwmRunning then c
  else c.bcbToggleDetectStartPulse env

def processCpEventsState : Charger :=
  match c.shared.currentState, event with
  | .idle, .carPluggedIn =>
    { c with
      shared.currentState := .waitingForAuthentication
      shared.flagEvPluggedIn := true }
  | .waitingForAuthentication, .carRequestedPower =>
    { c with shared.iecAllowCloseContactor := true }
  | .waitingForAuthentication, .carRequestedStopPower =>
    { c with shared.iecAllowCloseContactor := false }
  | .prepareCharging, .carRequestedPower => { c with shared.iecAllowCloseContactor := true }
  | .prepareCharging, .carRequestedStopPower => c.stopPowerWhilePreparing
  | .charging, .carRequestedStopPower => { c with shared.iecAllowCloseContactor := false }
  | .charging, .bcdToE => { c with shared.iecAllowCloseContactor := false }
  | .chargingPausedEV, .carRequestedPower => c.powerRequestWhilePausedByEv env
  | .chargingPausedEV, .carRequestedStopPower =>
    if !c.shared.pwmRunning && c.shared.hlcChargingActive then c.bcbToggleDetectStopPulse env else c
  | .stoppingCharging, .carRequestedPower =>
    if c.shared.hlcChargingActive && !c.shared.pwmRunning then c.bcbToggleDetectStartPulse env
    else c
  | .stoppingCharging, .carRequestedStopPower =>
    if c.shared.hlcChargingActive && !c.shared.pwmRunning then c.bcbToggleDetectStopPulse env else c
  | _, _ => c

def processEvent (before : List Env) (env : Env) (after : List Env) (c : Charger) :
    Option Charger := do
  let c ← runStateMachine before (c.processCpEventsIndependent event)
  runStateMachine after (c.processCpEventsState env event)

def processError (event : ErrorHandlingEvents) (c : Charger) : Charger :=
  match event with
  | .forceErrorShutdown => { c with shared.shutdownType := .errorShutdown }
  | .forceEmergencyShutdown => { c with shared.shutdownType := .emergencyShutdown }
  | .allErrorsPreventingChargingCleared => { c with shared.shutdownType := .none }
  | .allErrorCleared => { c with shared.shutdownType := .none }

def setMaxCurrent (ampere : ℚ) (validUntil : ℤ) (c : Charger) : Bool × Charger :=
  if env.steady < validUntil then
    let c := { c with
      shared.maxCurrent := |ampere|
      shared.maxCurrentValidUntil := validUntil }
    let limit := c.getMaxCurrentInternal
    (true, (c.emit (.setOvercurrentLimit limit)).emit
      (.maxCurrent (if ampere < 0 then -limit else limit)))
  else (false, c)

def pauseCharging : Bool × Charger :=
  if c.shared.flagTransactionActive then (true, { c with shared.flagPausedByEvse := true })
  else (false, c)

def resumeCharging : Bool × Charger :=
  if c.shared.flagTransactionActive then (true, { c with shared.flagPausedByEvse := false })
  else (false, c)

def cancelTransaction (request : StopTransactionRequest) (c : Charger) : Bool × Charger :=
  if c.shared.flagTransactionActive then
    let c := if c.shared.hlcChargingActive then
        match request.reason with
        | .emergencyStop => c.emit (.hlcError .emergencyShutdown)
        | .powerLoss => c.emit (.hlcError .utilityInterruptEvent)
        | _ => c
      else c
    let c := setFlagAuthorized false { c with shared.flagExternallyCancelled := true }
    (true, { c with
      shared.authorizedPnc := false
      shared.lastStopTransactionReason := some request.reason
      shared.stopTransactionIdToken := request.idTag })
  else if c.shared.sessionActive ∧ c.shared.currentState = .waitingForAuthentication then
    -- still in the auth loop: escape it the same way as on a plug-in timeout
    (true, emit .hlcPlugInTimeout
      { c with
        shared.flagExternallyCancelled := true
        shared.lastStopTransactionReason := some request.reason
        shared.stopTransactionIdToken := request.idTag })
  else (false, c)

def authorize (a : Bool) (token : ProvidedIdToken) (c : Charger) : Bool × Charger :=
  if a then
    -- a delayed authorization after a cancellation, while disabled, or of the previous session
    if c.shared.flagExternallyCancelled || c.shared.flagDisableRequested then (false, c)
    else if !c.shared.sessionActive ∧ c.shared.currentState ≠ .idle then (false, c)
    else
      let c := { c with shared.idToken := token }
      let c := if c.shared.sessionActive then c else c.startSession env true
      let c := (c.emit (.simpleEvent .authorized)).setFlagAuthorized true
      (true, { c with
        shared.authorizedPnc :=
          decide (token.authorizationType = AuthorizationType.plugAndCharge) })
  else
    let c := if c.shared.sessionActive then c.stopSession else c
    (true, c.setFlagAuthorized false)

def deauthorize : Bool × Charger := c.deauthorizeInternal

def switchThreePhasesWhileCharging (n : Bool) (c : Charger) : Bool × Charger :=
  if c.shared.hlcChargingActive then (false, c)
  else
    match c.shared.currentState with
    | .charging => (true, { c with
        shared.switch3ph1phThreephase := n
        shared.switch3ph1phThreephaseOngoing := true
        internal.switchingPhasesReturnState := .prepareCharging
        shared.currentState := .switchPhases })
    | .switchPhases => (true, { c with shared.switch3ph1phThreephase := n })
    | _ => (true, c.emit (.switchThreePhasesWhileCharging n))

def startReinit : Bool × Charger :=
  if c.shared.currentState ∈ [.disabled, .idle] then (false, c)
  else if c.config.reinitMethod = .e ∧ !c.supportsCpStateE then (false, c)
  else if c.shared.reinitRunning then (false, c)
  else (true, { c with
    shared.reinitConfig := ⟨c.config.reinitMethod, c.config.reinitDurationMs⟩
    shared.reinitRequested := true })

def setup (setupConfig : SetupConfig) (c : Charger) : Charger :=
  let c := c.emit (.setup setupConfig.hasVentilation)
  let config := setupConfig.config
  { c with
    config := config
    acHlcEnabledCurrentSession := config.acHlcEnabled
    shared.acWithSocTimeout := setupConfig.acWithSocTimeout
    shared.acWithSocTimer := 3600000
    softOverCurrentTolerancePercent := setupConfig.softOverCurrentTolerancePercent
    softOverCurrentMeasurementNoiseA := setupConfig.softOverCurrentMeasurementNoiseA
    shared.hlcChargingActive :=
      if config.chargeMode = .dc then true
      else if config.acHlcEnabled then c.shared.hlcChargingActive
      else false }

def setSlacMatched (matched : Bool) (c : Charger) : Charger :=
  { c with
    shared.slacMatched := matched
    internal.slacRetries := if matched then 0 else c.internal.slacRetries
    shared.matchingStarted := matched || c.shared.matchingStarted }

def notifyCurrentdemandStarted : Charger :=
  if c.shared.currentState = .prepareCharging then
    { c with shared.hlcDcRenegotiation := false, shared.currentState := .charging }
  else c

def endHlcSession (how : HlcTerminatePause) (c : Charger) : Charger :=
  let c := { c with shared.hlcAllowCloseContactor := false }
  let c := if c.internal.sessionStopPwmOffDeadline = none then c.cpStateX1 env else c
  { c with shared.hlcChargingTerminatePause := how }

def dlinkPause : Charger :=
  if c.shared.currentState = .idle then c else c.endHlcSession env .pause

/-- Basic charging with the PnC authorization kept: E/F and then nominal PWM. -/
def leaveHlcForBasicCharging : Charger :=
  { c with
    internal.sessionStopPwmOffDeadline := none
    shared.hlcAllowCloseContactor := false
    hlcUse5percentCurrentSession := false
    internal.tStepEFReturnState := .prepareCharging
    internal.tStepEFReturnPwm := 0
    internal.tStepEFReturnAmpere := 0 }

/-- D-LINK_ERROR for a session that is stopping for good or over: not a communication error to
recover from. -/
def dlinkErrorWhileStopping : Charger :=
  let c := if c.shared.pwmRunning then c.cpStateX1 env else c
  c.dcSupplyOff.emit (.allowPowerOn false .powerOff)

/-- D-LINK_ERROR with 5 percent PWM. During the setup of the session the X1 and E/F sequence
follows, in the charging loop a reinit. -/
def dlinkErrorWith5Percent : Charger :=
  let c := c.cpStateX1 env
  if c.shared.currentState ∈ [.waitingForAuthentication, .prepareCharging] then
    { c with
      internal.tStepEFReturnState := .waitingForAuthentication
      internal.tStepEFReturnPwm := 0
      internal.tStepEFReturnAmpere := 0
      internal.tStepX1UntilUnmatched := true
      shared.currentState := .tStepX1 }
  else c.startReinit.2

def stoppingForGood : Bool :=
  c.shared.currentState = .stoppingCharging ∧
    (!c.shared.flagTransactionActive ∨ !c.shared.flagAuthorized ∨ c.shared.flagDisableRequested)

def dlinkErrorSequence : Charger :=
  if c.stoppingForGood ∨ c.shared.currentState = .finished then c.dlinkErrorWhileStopping env
  else if c.pncWithoutChargingLoop then
    { c.leaveHlcForBasicCharging with
      internal.tStepX1UntilUnmatched := true
      shared.currentState := .tStepX1 }
  else
    let c := if c.config.chargeMode = .ac then { c with shared.hlcChargingActive := false } else c
    if c.hlcUse5percentCurrentSession then c.dlinkErrorWith5Percent env else c

def dlinkError : Charger :=
  let c := { c with shared.dlinkEstablished := false }
  if c.shared.reinitRequested || c.shared.reinitRunning then c
  else if c.shared.currentState = .idle then c
  else dlinkErrorSequence env
    { c with
      internal.sessionStopPwmOffDeadline := none
      shared.hlcAllowCloseContactor := false
      hlcFailed := true }

def linkLostDuringSetup : Bool :=
  c.shared.currentState = .prepareCharging ∧ c.shared.flagEvPluggedIn ∧
    c.shared.hlcChargingTerminatePause = .unknown ∧ c.internal.sessionStopPwmOffDeadline = none

def dlinkTerminate : Bool × Charger :=
  let c := { c with shared.dlinkEstablished := false }
  if c.shared.currentState = .idle then (false, c)
  else if c.pncWithoutChargingLoop then (false, c.leaveHlcForBasicCharging.setState .tStepEF)
  else if c.linkLostDuringSetup then (true, c.dlinkError env)
  else (false, c.endHlcSession env .terminate)

def notifySessionStopResSent (action : SessionStopAction) (c : Charger) : Charger :=
  if c.shared.currentState = .idle ∨ !c.shared.hlcChargingActive then c
  else
    let c := { c with shared.hlcAllowCloseContactor := false }
    match action with
    | .failedTermination => cpStateX1 env { c with shared.hlcChargingTerminatePause := .terminate }
    | .pause => { c with
        shared.hlcChargingTerminatePause := .pause
        internal.sessionStopPwmOffDeadline := some (env.steady + 1550) }
    | .terminate => { c with
        shared.hlcChargingTerminatePause := .terminate
        internal.sessionStopPwmOffDeadline := some (env.steady + 1550) }

def notifyHlcSessionStartedByEv : Charger :=
  if c.shared.currentState = .chargingPausedEV ∧ c.shared.hlcChargingActive ∧
      c.shared.hlcChargingTerminatePause ≠ .unknown then
    { c with internal.hlcSessionRestartedByEv := true }
  else c

def dcOpenContactorRequest : Charger :=
  emit (.allowPowerOn false .powerOff) { c with shared.hlcAllowCloseContactor := false }

def dcRenegotiationStarted : Charger :=
  if c.shared.currentState = .charging then
    setState .prepareCharging
      (emit (.allowPowerOn false .powerOff)
        { c with
          shared.hlcDcRenegotiation := true
          shared.hlcAllowCloseContactor := false })
  else c

def enableDisableSourceTableUpdate (source : EnableDisableSource) :
    List EnableDisableSource → List EnableDisableSource
  | [] => [source]
  | entry :: table =>
    if entry.enableSource = source.enableSource then source :: table
    else entry :: enableDisableSourceTableUpdate source table

def parseEntry (result : Bool × EnableDisableSource) (entry : EnableDisableSource) :
    Bool × EnableDisableSource :=
  let winning := result.2
  if entry.enableState = .unassigned then result
  else if winning.enableState = .unassigned then (entry.enableState ≠ .disable, entry)
  else if entry.enablePriority = winning.enablePriority then
    -- at the same priority, disable has higher priority than enable
    if entry.enableState = .disable then (false, entry) else result
  else if entry.enablePriority < winning.enablePriority then (entry.enableState ≠ .disable, entry)
  else result

def parseEnableDisableSourceTable (table : List EnableDisableSource) : Bool × EnableDisableSource :=
  table.foldl parseEntry (true, ⟨.unspecified, .unassigned, 10000⟩)

def reEnable : Charger :=
  if c.shared.currentState = .disabled ∧ c.shared.connectorEnabled then
    setState .idle (emit (.enable true) { c with shared.flagDisableRequested := false })
  else c

def applyStateChange (enabled : Bool) : Charger :=
  if enabled then c.emit (.simpleEvent .enabled)
  else
    { c with
      shared.flagDisableRequested := true
      shared.lastStopTransactionReason := some .evseDisabled }

/-- For this check Unassigned and Enable are equivalent. -/
def stateChanged (previous current : EnableState) : Bool :=
  (current = .disable ∨ previous = .disable) ∧ current ≠ previous

def construct (connectorType : ConnectorType) : Charger :=
  setFlagAuthorized false
    { connectorType
      shared :=
        { maxCurrentCable :=
            if connectorType = .iec62196Type2Socket then env.ppAmpacity else none } }

def mainLoop (envs : List Env) (c : Charger) : Option Charger :=
  match envs with
  | [] => none
  | env :: _ => runStateMachine envs (c.powerAvailable env).2

inductive Input
  | mainLoop (envs : List Env)
  | cpEvent (event : CPEvent) (before : List Env) (env : Env) (after : List Env)
  | error (event : ErrorHandlingEvents)
  | setup (setupConfig : SetupConfig)
  | setMaxCurrent (env : Env) (ampere : ℚ) (validUntil : ℤ)
  | pauseCharging
  | resumeCharging
  | cancelTransaction (request : StopTransactionRequest)
  | authorize (env : Env) (a : Bool) (token : ProvidedIdToken)
  | deauthorize
  | switchThreePhasesWhileCharging (n : Bool)
  | startReinit
  | setCurrentDrawnByVehicle (l1 l2 l3 : ℚ)
  | requestErrorSequence
  | setDlinkReady (ready : Bool)
  | setMatchingStarted (m : Bool)
  | setSlacMatched (matched : Bool)
  | resetDcEnforceTargetLimitsTimer (env : Env)
  | notifyCurrentdemandStarted
  | informNewEvseMaxHlcLimits (limits : DcEvseMaximumLimits)
  | dlinkPause (env : Env)
  | dlinkTerminate (env : Env)
  | dlinkError (env : Env)
  | notifySessionStopResSent (env : Env) (action : SessionStopAction)
  | notifyHlcSessionStartedByEv
  | setHlcChargingActive
  | setHlcAllowCloseContactor (on : Bool)
  | dcOpenContactorRequest
  | dcRenegotiationStarted
  | setHlcD20Active (dynamicControlMode : Bool)
  | notifyHlcPauseNotified
  | updateDcPresentCurrent (ampere : ℚ)
  | stopChargingOnFatalError (env : Env)
  | setSupportsCpStateE (value : Bool)
  | setConnectorType (connectorType : ConnectorType)

/-- The charger after an input, `none` if the state machine did not return. -/
def handle : Input → Option Charger
  | .mainLoop envs => c.mainLoop envs
  | .cpEvent event before env after => c.processEvent event before env after
  | .error event => some (c.processError event)
  | .setup setupConfig => some (c.setup setupConfig)
  | .setMaxCurrent env ampere validUntil => some (c.setMaxCurrent env ampere validUntil).2
  | .pauseCharging => some c.pauseCharging.2
  | .resumeCharging => some c.resumeCharging.2
  | .cancelTransaction request => some (c.cancelTransaction request).2
  | .authorize env a token => some (c.authorize env a token).2
  | .deauthorize => some c.deauthorize.2
  | .switchThreePhasesWhileCharging n => some (c.switchThreePhasesWhileCharging n).2
  | .startReinit => some c.startReinit.2
  | .setCurrentDrawnByVehicle l1 l2 l3 =>
    some { c with shared.currentDrawnByVehicle := (l1, l2, l3) }
  | .requestErrorSequence => some c.requestErrorSequenceInternal
  | .setDlinkReady ready =>
    -- only the establishment is latched
    some { c with shared.dlinkEstablished := ready || c.shared.dlinkEstablished }
  | .setMatchingStarted m => some { c with shared.matchingStarted := m }
  | .setSlacMatched matched => some (c.setSlacMatched matched)
  | .resetDcEnforceTargetLimitsTimer env => some { c with lastDcEnforceTargetLimits := env.steady }
  | .notifyCurrentdemandStarted => some c.notifyCurrentdemandStarted
  | .informNewEvseMaxHlcLimits limits => some { c with shared.currentEvseMaxLimits := limits }
  | .dlinkPause env => some (c.dlinkPause env)
  | .dlinkTerminate env => some (c.dlinkTerminate env).2
  | .dlinkError env => some (c.dlinkError env)
  | .notifySessionStopResSent env action => some (c.notifySessionStopResSent env action)
  | .notifyHlcSessionStartedByEv => some c.notifyHlcSessionStartedByEv
  | .setHlcChargingActive => some { c with shared.hlcChargingActive := true }
  | .setHlcAllowCloseContactor on => some { c with shared.hlcAllowCloseContactor := on }
  | .dcOpenContactorRequest => some c.dcOpenContactorRequest
  | .dcRenegotiationStarted => some c.dcRenegotiationStarted
  | .setHlcD20Active dynamicControlMode =>
    some { c with
      shared.hlcD20Active := true
      shared.hlcD20DynamicMode := dynamicControlMode }
  | .notifyHlcPauseNotified =>
    some { c with
      internal.d20PauseConfirmed := c.internal.d20PauseRequested || c.internal.d20PauseConfirmed }
  | .updateDcPresentCurrent ampere => some { c with dcPresentCurrentA := ampere }
  | .stopChargingOnFatalError env => some (c.stopChargingOnFatalErrorInternal env).2
  | .setSupportsCpStateE value => some { c with supportsCpStateE := value }
  | .setConnectorType connectorType => some { c with connectorType }

end Charger

namespace SourcedCharger
open Charger

variable (source : EnableDisableSource) (c : SourcedCharger)

def updateSources : SourcedCharger :=
  let table := enableDisableSourceTableUpdate source c.enableDisableSourceTable
  { c with
    enableDisableSourceTable := table
    activeEnableDisableSource := (parseEnableDisableSourceTable table).2 }

def isEnabled : Bool := (parseEnableDisableSourceTable c.enableDisableSourceTable).1

def enableDisable (connectorId : ℤ) (source : EnableDisableSource) (envs : List Env)
    (c : SourcedCharger) : Option (Bool × SourcedCharger) := do
  let previous := c.activeEnableDisableSource.enableState
  let c := c.updateSources source
  -- update state to Idle only when applied to non-zero connector ID
  let c := if connectorId ≠ 0 then { c with shared.connectorEnabled := c.isEnabled } else c
  let c := { c with toCharger := c.toCharger.reEnable }
  if stateChanged previous c.activeEnableDisableSource.enableState then
    let after ← runStateMachine envs (c.toCharger.applyStateChange c.isEnabled)
    return (c.isEnabled, { c with toCharger := after })
  else return (c.isEnabled, c)

def enableDisableInitialStatePublish : SourcedCharger :=
  let disabled : Bool := c.shared.currentState = .disabled
  let source : EnableDisableSource :=
    ⟨.unspecified, if disabled then .disable else .enable, 10000⟩
  { c with
    toCharger := c.toCharger.emit (.simpleEvent (if disabled then .disabled else .enabled))
    enableDisableSourceTable := enableDisableSourceTableUpdate source c.enableDisableSourceTable
    activeEnableDisableSource := source }

def start (env : Env) (connectorType : ConnectorType) (setupConfig : SetupConfig) :
    SourcedCharger :=
  let c := ((construct env connectorType).setup setupConfig).emit (.enable true)
  let c := (c.emit (.maxCurrent c.getMaxCurrentInternal)).emit (.state c.shared.currentState)
  enableDisableInitialStatePublish { toCharger := c }

inductive Input
  | charger (input : Charger.Input)
  | enableDisable (connectorId : ℤ) (source : EnableDisableSource) (envs : List Env)

def handle : Input → Option SourcedCharger
  | .charger input => (c.toCharger.handle input).map fun charger => { c with toCharger := charger }
  | .enableDisable connectorId source envs =>
    (c.enableDisable connectorId source envs).map Prod.snd

end SourcedCharger

end Everest.Evse
