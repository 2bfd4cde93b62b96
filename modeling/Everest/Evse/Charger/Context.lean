import Everest.Evse.IecStateMachine

/- `Charger` of EvseManager runs one charging point: it reacts to the control pilot, to
authorizations, to the high level communication (HLC) with the car and to errors. This module
has its configuration, the contexts that its functions share, and everything it sends out. Times
are in milliseconds, currents in ampere. Values that are only logged are left out. -/

namespace Everest.Evse

inductive EvseState
  | disabled | idle | waitingForAuthentication | prepareCharging | charging | chargingPausedEV
  | chargingPausedEVSE | stoppingCharging | finished | tStepEF | tStepX1 | reinit | switchPhases
  deriving DecidableEq, Repr

inductive ChargeMode
  | ac | dc
  deriving DecidableEq, Repr

inductive HlcTerminatePause
  | unknown | terminate | pause
  deriving DecidableEq, Repr

inductive ShutdownType
  | none | errorShutdown | emergencyShutdown
  deriving DecidableEq, Repr

inductive ErrorHandlingEvents
  | forceErrorShutdown | forceEmergencyShutdown | allErrorsPreventingChargingCleared
  | allErrorCleared
  deriving DecidableEq, Repr

/-- A control pilot state that a setting names. The settings are strings; any other text means
the default of the setting. -/
inductive CpStateSetting
  | e | f | x1
  deriving DecidableEq, Repr

inductive ConnectorType
  | iec62196Type2Cable | iec62196Type2Socket
  deriving DecidableEq, Repr

inductive AuthorizationType
  | ocpp | rfid | autocharge | plugAndCharge | bankCard
  deriving DecidableEq, Repr

structure ProvidedIdToken where
  idToken : String
  authorizationType : AuthorizationType
  deriving DecidableEq, Repr

inductive StartSessionReason
  | evConnected | authorized
  deriving DecidableEq, Repr

inductive StopTransactionReason
  | emergencyStop | evDisconnected | hardReset | local | other | powerLoss | reboot | remote
  | softReset | unlockCommand | deAuthorized | energyLimitReached | groundFault | localOutOfCredit
  | masterPass | overcurrentFault | powerQuality | socLimitReached | stoppedByEV | timeLimitReached
  | timeout | reqEnergyTransferRejected | evseDisabled
  deriving DecidableEq, Repr

structure StopTransactionRequest where
  reason : StopTransactionReason
  idTag : Option ProvidedIdToken := none
  deriving DecidableEq, Repr

inductive PauseChargingEVSEReason
  | userPause | error | noEnergy
  deriving DecidableEq, Repr

inductive SessionStopAction
  | terminate | pause | failedTermination
  deriving DecidableEq, Repr

inductive SessionEventEnum
  | enabled | disabled | authRequired | authorized | deauthorized | pluginTimeout
  | switchingPhases | prepareCharging | chargingStarted | chargingPausedEV | stoppingCharging
  | chargingFinished | sessionFinished
  deriving DecidableEq, Repr

inductive EvseError
  | emergencyShutdown | errorShutdown | utilityInterruptEvent
  deriving DecidableEq, Repr

inductive ChargerError
  | overcurrent | internal | powermeterTransactionStartFailed | authorizationTimeout
  | isolationResistance | isolationVoltageToEarth | cableCheck | overVoltage | voltagePlausibility
  deriving DecidableEq, Repr

inductive TransactionRequestStatus
  | ok | notSupported | unexpectedError
  deriving DecidableEq, Repr

inductive EnableSource
  | unspecified | localAPI | localKeyLock | serviceTechnician | remoteKeyLock | mobileApp
  | firmwareUpdate | csms
  deriving DecidableEq, Repr

inductive EnableState
  | unassigned | disable | enable
  deriving DecidableEq, Repr

structure EnableDisableSource where
  enableSource : EnableSource
  enableState : EnableState
  enablePriority : ℤ
  deriving DecidableEq, Repr

structure DcEvseMaximumLimits where
  evseMaximumCurrentLimit : ℚ := 0
  evseMaximumPowerLimit : ℚ := 0
  evseMaximumVoltageLimit : ℚ := 0
  deriving DecidableEq, Repr

structure ReinitConfiguration where
  stateTransition : CpStateSetting := .f
  duration : ℤ := 3000
  deriving DecidableEq, Repr

structure ConfigContext where
  acEnforceHlc : Bool := false
  acLimitSlacInitRetries : Bool := true
  acHlcUse5percent : Bool := false
  acHlcEnabled : Bool := false
  chargeMode : ChargeMode := .ac
  switch3ph1phDelayS : ℤ := 10
  switch3ph1phCpState : CpStateSetting := .x1
  softOverCurrentTimeoutMs : ℤ := 7000
  stateFAfterFaultMs : ℤ := 300
  reinitDurationMs : ℤ := 3000
  reinitMethod : CpStateSetting := .f
  failOnPowermeterErrors : Bool := false
  raiseMrec9 : Bool := false
  hlcChargeLoopWithoutEnergyTimeoutS : ℤ := 300

structure SetupConfig where
  hasVentilation : Bool := false
  config : ConfigContext := {}
  acWithSocTimeout : Bool := false
  softOverCurrentTolerancePercent : ℚ := 0
  softOverCurrentMeasurementNoiseA : ℚ := 0

/-- What several threads use. -/
structure SharedContext where
  legacyWakeupDone : Bool := false
  hlcAllowCloseContactor : Bool := false
  iecAllowCloseContactor : Bool := false
  contactorOpen : Bool := true
  hlcChargingActive : Bool := false
  hlcChargingTerminatePause : HlcTerminatePause := .unknown
  hlcSessionPausedByEvse : Bool := false
  hlcDcRenegotiation : Bool := false
  currentEvseMaxLimits : DcEvseMaximumLimits := {}
  pwmRunning : Bool := false
  stopTransactionIdToken : Option ProvidedIdToken := none
  idToken : ProvidedIdToken := ⟨"", .ocpp⟩
  flagAuthorized : Bool := false
  flagExternallyCancelled : Bool := false
  flagPausedByEvse : Bool := false
  flagEvPluggedIn : Bool := false
  authorizedPnc : Bool := false
  matchingStarted : Bool := false
  slacMatched : Bool := false
  dlinkEstablished : Bool := false
  maxCurrent : ℚ := 6
  maxCurrentValidUntil : ℤ := 0
  maxCurrentCable : Option ℚ := none
  flagTransactionActive : Bool := false
  sessionActive : Bool := false
  sessionUuid : String := ""
  connectorEnabled : Bool := true
  flagDisableRequested : Bool := false
  currentState : EvseState := .idle
  lastStopTransactionReason : Option StopTransactionReason := none
  lastStartSessionReason : StartSessionReason := .evConnected
  currentDrawnByVehicle : ℚ × ℚ × ℚ := (0, 0, 0)
  shutdownType : ShutdownType := .none
  lastShutdownType : ShutdownType := .none
  acWithSocTimer : ℤ := 3600000
  acWithSocTimeout : Bool := false
  switch3ph1phThreephase : Bool := false
  switch3ph1phThreephaseOngoing : Bool := false
  reinitRequested : Bool := false
  reinitRunning : Bool := false
  reinitConfig : ReinitConfiguration := {}
  hlcD20Active : Bool := false
  hlcD20DynamicMode : Bool := false

structure InternalContext where
  hlcBcbSequenceStarted : Bool := false
  hlcEvPauseBcbCount : ℕ := 0
  hlcEvPauseStartOfBcb : ℤ := 0
  hlcEvPauseStartOfBcbSequence : ℤ := 0
  wakeupLinkDeadline : Option ℤ := none
  updatePwmLastDutyCycle : ℚ := 0
  lastPwmUpdate : ℤ := 0
  tStepEFReturnState : EvseState := .idle
  tStepEFReturnPwm : ℚ := 0
  tStepEFReturnAmpere : ℚ := 0
  switchingPhasesReturnState : EvseState := .idle
  tStepX1ReturnState : EvseState := .idle
  tStepX1ReturnPwm : ℚ := 0
  tStepX1UntilUnmatched : Bool := false
  lastOverCurrentEvent : ℤ := 0
  overCurrent : Bool := false
  lastShutdownType : ShutdownType := .none
  currentStateStarted : ℤ := 0
  lastStateDetectStateChange : EvseState := .idle
  lastState : EvseState := .disabled
  noEnergyWarningPrinted : Bool := false
  pwmSetLastAmpere : ℚ := 0
  tStepEfX1Pause : Bool := false
  cpStateFActive : Bool := false
  pwmSwitchedOffAt : Option ℤ := none
  slacRetries : ℕ := 0
  slacRetriesExhausted : Bool := false
  acX1FallbackNominalTimeoutRunning : Bool := false
  acX1FallbackNominalTimeoutStarted : ℤ := 0
  hlcChargeLoopNoEnergyTimeoutRunning : Bool := false
  isoChargeLoopNoEnergyTimeoutStarted : ℤ := 0
  fatalErrorBecameActive : ℤ := 0
  fatalErrorTimerRunning : Bool := false
  reinitTimerActive : Bool := false
  reinitDeadline : ℤ := 0
  lastChargingPausedEvseReasons : List PauseChargingEVSEReason := []
  sessionStopPwmOffDeadline : Option ℤ := none
  stoppingForEvsePause : Bool := false
  stoppingChargingTimeoutMs : ℤ := 20000
  hlcSessionRestartedByEv : Bool := false
  d20PauseRampStart : Option ℤ := none
  d20PauseNotified : Bool := false
  d20PauseRequested : Bool := false
  d20PauseConfirmed : Bool := false

/-- The calls and signals of the charger: to the board support (`IECStateMachine`), to the rest
of the EvseManager, to the power meters, the persistent store and the error handling. -/
inductive Charger.Output
  | setup (hasVentilation : Bool)
  | enable (value : Bool)
  | setAuthorized (value : Bool)
  | allowPowerOn (value : Bool) (reason : Reason)
  | setPwm (dutyCycle : ℚ)
  | setCpStateX1
  | setCpStateE
  | setCpStateF
  | switchThreePhasesWhileCharging (n : Bool)
  | setOvercurrentLimit (ampere : ℚ)
  | maxCurrent (ampere : ℚ)
  | state (s : EvseState)
  | simpleEvent (event : SessionEventEnum)
  | sessionStarted (reason : StartSessionReason) (idToken : Option ProvidedIdToken)
  | transactionStarted (idToken : ProvidedIdToken)
  | transactionFinished (reason : StopTransactionReason) (idToken : Option ProvidedIdToken)
  | chargingPausedEvse (reasons : List PauseChargingEVSEReason)
  | acWithSocTimeout
  | dcSupplyOff
  | dcEnforceTargetLimits (limits : DcEvseMaximumLimits)
  | slacReset
  | slacStart
  | hlcStopCharging
  | hlcPauseCharging
  | hlcResumeCharging
  | hlcError (error : EvseError)
  | hlcPlugInTimeout
  | hlcNoEnergyAvailable
  | meterStartTransaction (transactionId : String)
  | meterStopTransaction (transactionId : String)
  | storeSession (sessionUuid : String)
  | clearSession
  | raiseError (error : ChargerError)
  | clearError (error : ChargerError)
  deriving DecidableEq, Repr

structure Charger where
  shared : SharedContext := {}
  internal : InternalContext := {}
  config : ConfigContext := {}
  softOverCurrentTolerancePercent : ℚ := 10
  softOverCurrentMeasurementNoiseA : ℚ := 1 / 2
  dcPresentCurrentA : ℚ := 0
  supportsCpStateE : Bool := false
  hlcUse5percentCurrentSession : Bool := false
  acHlcEnabledCurrentSession : Bool := false
  hlcFailed : Bool := false
  lastDcEnforceTargetLimits : ℤ := 0
  dcPauseRampStart : Option ℤ := none
  connectorType : ConnectorType := .iec62196Type2Cable
  /-- What has been sent out, the latest first. -/
  out : List Charger.Output := []

def Charger.emit (output : Output) (c : Charger) : Charger := { c with out := output :: c.out }

/-- The charger with the sources that enable or disable it, which its states do not see. -/
structure SourcedCharger extends Charger where
  activeEnableDisableSource : EnableDisableSource := ⟨.unspecified, .unassigned, 10000⟩
  enableDisableSourceTable : List EnableDisableSource := []

/-- What a function reads from outside: the two clocks, the cable rating that the board support
measured, a fresh session id, and how the power meters answer, in their order. -/
structure Env where
  system : ℤ := 0
  steady : ℤ := 0
  ppAmpacity : Option ℚ := none
  sessionId : String := ""
  startResponses : List TransactionRequestStatus := []
  stopResponses : List TransactionRequestStatus := []

end Everest.Evse
