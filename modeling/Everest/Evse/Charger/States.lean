import Everest.Evse.Charger.Session

/- One function for each state of `Charger::run_state_machine`. `init` is set when the state has
just been entered, or when a fatal error has appeared or disappeared; `time` is the time in the
state. A state that goes on in several steps is cut where the source may leave it. -/

namespace Everest.Evse

namespace Charger

def tStepX1Ms : ℤ := 3000
def tpMatchLeaveMs : ℤ := 1000
def tStepEFMs : ℤ := 4000
def stayInX1AfterTStepEFMs : ℤ := 750
def waitForEnergyInAuthloopTimeoutMs : ℤ := 5000
def acX1FallbackToNominalTimeoutMs : ℤ := 10000
def legacyWakeupTimeout : ℤ := 30000
def preparingTimeoutPausedByEv : ℤ := 10000
def tConnMaxComm : ℤ := 8000
def stoppingChargingTimeout : ℤ := 20000
def stoppingChargingD20PauseTimeoutMs : ℤ := 65000
def d20PauseRampTimeoutMs : ℤ := 35000
def d20PauseZeroCurrentA : ℚ := 1
def dcEnforceTargetLimitsIntervalMs : ℤ := 5000

variable (env : Env) (init : Bool) (time : ℤ) (c : Charger)

def sessionLost : Bool :=
  !c.shared.flagTransactionActive || !c.shared.flagAuthorized || !c.shared.flagEvPluggedIn ||
    c.shared.flagDisableRequested

def disabledState : Charger :=
  let c := if init then ((c.cpStateF env).emit (.enable false)).emit (.simpleEvent .disabled) else c
  if c.shared.flagDisableRequested then c else c.setState .idle

def idleInit : Charger :=
  let c := { c.bcbToggleReset with
    shared.iecAllowCloseContactor := false
    shared.hlcChargingActive := decide (c.config.chargeMode = ChargeMode.dc)
    shared.hlcAllowCloseContactor := false
    shared.maxCurrentCable := none
    shared.hlcChargingTerminatePause := .unknown
    shared.hlcDcRenegotiation := false
    internal.sessionStopPwmOffDeadline := none
    shared.hlcSessionPausedByEvse := false
    internal.hlcSessionRestartedByEv := false
    shared.legacyWakeupDone := false
    shared.hlcD20Active := false
    shared.hlcD20DynamicMode := false
    internal.d20PauseRequested := false
    internal.d20PauseConfirmed := false }
  let c := { c.cpStateX1 env with internal.pwmSwitchedOffAt := none }
  let c := { c.deauthorizeInternal.2 with shared.flagTransactionActive := false }
  { c.clearErrorsOnUnplug with
    internal.slacRetries := 0
    internal.slacRetriesExhausted := false
    internal.wakeupLinkDeadline := none
    hlcFailed := false }

def idlePilot : Charger :=
  if c.shared.shutdownType ≠ .none then
    if c.internal.cpStateFActive then c else c.cpStateF env
  else if c.internal.cpStateFActive then c.cpStateX1 env
  else c

def idleState : Charger :=
  let c := if init then c.idleInit env else c
  if c.shared.flagDisableRequested then c.setState .disabled else c.idlePilot env

def chooseSignalling : Charger :=
  match c.config.chargeMode with
  | .ac =>
    let hlcEnabled := c.config.acHlcEnabled && !c.hlcFailed
    { c with
      acHlcEnabledCurrentSession := hlcEnabled
      hlcUse5percentCurrentSession :=
        hlcEnabled && c.config.acHlcUse5percent && !c.internal.slacRetriesExhausted }
  | .dc => { c with hlcUse5percentCurrentSession := true }

def enable5Percent : Charger :=
  if c.hlcUse5percentCurrentSession && c.shared.flagEvPluggedIn then
    -- if already authorized before plugin, do not use 5% PWM on AC HLC
    if c.shared.flagAuthorized ∧ c.config.chargeMode = .ac ∧ c.acHlcEnabledCurrentSession ∧
        !c.config.acEnforceHlc then
      { c with hlcUse5percentCurrentSession := false }
    else c.updatePwmNow env pwm5Percent
  else c

def waitingForAuthenticationInit : Charger :=
  let c := emit (.allowPowerOn false .powerOff)
    { c with
      internal.noEnergyWarningPrinted := false
      internal.acX1FallbackNominalTimeoutRunning := false }
  -- first user interaction was plug in of car? Start session here
  let c := if c.shared.sessionActive then c else c.startSession env false
  ((c.emit (.simpleEvent .authRequired)).chooseSignalling).enable5Percent env

def readCable : Charger :=
  if c.connectorType = .iec62196Type2Socket ∧ c.shared.maxCurrentCable = none then
    { c with shared.maxCurrentCable := env.ppAmpacity }
  else c

def waitForEnergy : Bool × Charger :=
  if c.config.chargeMode = .dc then
    let power := c.powerAvailable env
    let c := power.2
    if power.1 then (true, c)
    else if time < waitForEnergyInAuthloopTimeoutMs then (false, c)
    else if c.internal.noEnergyWarningPrinted then (true, c)
    else (true, emit .hlcNoEnergyAvailable { c with internal.noEnergyWarningPrinted := true })
  else (true, c)

/-- EIM with 5 percent PWM and matching already started: the HLC session gets some time to reach
the charging loop. -/
def eimFallback : Charger :=
  if c.shared.hlcChargingActive then c.setState .prepareCharging
  else if !c.internal.acX1FallbackNominalTimeoutRunning then
    { c with
      internal.acX1FallbackNominalTimeoutRunning := true
      internal.acX1FallbackNominalTimeoutStarted := env.steady }
  else if acX1FallbackToNominalTimeoutMs < env.steady - c.internal.acX1FallbackNominalTimeoutStarted
  then
    { c with
      internal.tStepX1ReturnState := .prepareCharging
      internal.tStepX1ReturnPwm := 0
      internal.tStepEFReturnAmpere := 0
      internal.tStepX1UntilUnmatched := false
      hlcUse5percentCurrentSession := false
      shared.currentState := .tStepX1 }
  else c

def eimAuthorized : Charger :=
  if c.config.chargeMode = .dc ∨ !c.acHlcEnabledCurrentSession then c.setState .prepareCharging
  else if c.config.acEnforceHlc && !c.internal.slacRetriesExhausted then
    { c with hlcUse5percentCurrentSession := true, shared.currentState := .prepareCharging }
  else if !c.hlcUse5percentCurrentSession then c.setState .prepareCharging
  else if c.shared.matchingStarted then c.eimFallback env
  else
    -- Figure 3 of ISO15118-3: 5 percent start, PnC and EIM
    { c with
      internal.tStepEFReturnState := .prepareCharging
      internal.tStepEFReturnPwm := 0
      internal.tStepEFReturnAmpere := 0
      shared.currentState := .tStepEF
      hlcUse5percentCurrentSession := false }

def pncAuthorized : Charger :=
  if c.config.chargeMode = .dc then c.setState .prepareCharging
  else if c.shared.hlcChargingActive then
    { c with hlcUse5percentCurrentSession := true, shared.currentState := .prepareCharging }
  else if !c.hlcUse5percentCurrentSession && !c.shared.dlinkEstablished then
    c.setState .prepareCharging
  else c

/-- Start the transaction, unless it is active since before a restart, and go on. -/
def authorizedSession : Charger :=
  let started := if c.shared.flagTransactionActive then (true, c) else c.startTransaction env
  let c := started.2
  if !started.1 then c
  else if c.shared.authorizedPnc then c.pncAuthorized
  else c.eimAuthorized env

def waitForAuthorization : Charger :=
  let c := c.readCable env
  if c.connectorType = .iec62196Type2Socket ∧ c.shared.maxCurrentCable = none then c
  else
    let energy := c.waitForEnergy env time
    let c := energy.2
    if energy.1 && c.shared.flagAuthorized then c.authorizedSession env else c

def waitingForAuthenticationState : Charger :=
  let c := if init then c.waitingForAuthenticationInit env else c
  let fatalError := c.stopChargingOnFatalErrorInternal env
  let c := fatalError.2
  if fatalError.1 then (c.emit .slacReset).setState .finished
  else if !c.shared.flagEvPluggedIn || c.shared.flagDisableRequested ||
      c.shared.flagExternallyCancelled then
    c.setState .finished
  else c.waitForAuthorization env time

def switchPhasesInit : Charger :=
  let c := c.emit (.simpleEvent .switchingPhases)
  match c.config.switch3ph1phCpState with
  | .e => c.cpStateE env
  | .f => c.cpStateF env
  | .x1 => c.cpStateX1 env

def switchPhasesState : Charger :=
  let c := if init then c.switchPhasesInit env else c
  let fatalError := c.stopChargingOnFatalErrorInternal env
  let c := fatalError.2
  if fatalError.1 || !c.shared.flagEvPluggedIn || c.shared.flagDisableRequested then
    c.setState c.internal.switchingPhasesReturnState
  else if c.config.switch3ph1phDelayS * 1000 ≤ time then
    setState c.internal.switchingPhasesReturnState
      (emit (.switchThreePhasesWhileCharging c.shared.switch3ph1phThreephase)
        { c with shared.switch3ph1phThreephaseOngoing := false })
  else c

def tStepEFExit : Charger :=
  if c.internal.tStepEFReturnPwm = 0 then c.cpStateX1 env
  else if c.hlcUse5percentCurrentSession then
    (c.updatePwmNow env pwm5Percent).setLastAmpere c.internal.tStepEFReturnAmpere
  else (c.updatePwmNow env c.internal.tStepEFReturnPwm).setLastAmpere c.internal.tStepEFReturnAmpere

def tStepEFState : Charger :=
  let c := if init then cpStateF env { c with internal.tStepEfX1Pause := false } else c
  let fatalError := c.stopChargingOnFatalErrorInternal env
  let c := fatalError.2
  if fatalError.1 || !c.shared.flagEvPluggedIn || c.shared.flagDisableRequested then
    (c.cpStateX1 env).setState c.internal.tStepEFReturnState
  else if tStepEFMs + stayInX1AfterTStepEFMs ≤ time then
    (c.tStepEFExit env).setState c.internal.tStepEFReturnState
  else if tStepEFMs ≤ time ∧ !c.internal.tStepEfX1Pause then
    -- stay in X1 for a little while as required by EV READY regulations
    cpStateX1 env { c with internal.tStepEfX1Pause := true }
  else c

def tStepX1Init : Charger :=
  let c := c.cpStateX1 env
  if c.internal.tStepX1UntilUnmatched then c.emit .slacReset else c

def tStepX1Exit : Charger :=
  if c.internal.tStepX1ReturnPwm = 0 then c.cpStateX1 env
  else (c.updatePwmNow env c.internal.tStepX1ReturnPwm).setLastAmpere c.internal.tStepEFReturnAmpere

def tStepX1State : Charger :=
  let c := if init then c.tStepX1Init env else c
  let fatalError := c.stopChargingOnFatalErrorInternal env
  let c := fatalError.2
  let untilUnmatched := c.internal.tStepX1UntilUnmatched
  if fatalError.1 || !c.shared.flagEvPluggedIn || c.shared.flagDisableRequested then
    setState
      (if untilUnmatched then c.internal.tStepEFReturnState else c.internal.tStepX1ReturnState)
      { c with internal.tStepX1UntilUnmatched := false }
  else if untilUnmatched then
    let unmatched := !c.shared.matchingStarted && !c.shared.slacMatched
    if (unmatched ∧ tpMatchLeaveMs ≤ time) ∨ tStepX1Ms ≤ time then
      setState .tStepEF { c with internal.tStepX1UntilUnmatched := false }
    else c
  else if tStepX1Ms ≤ time then (c.tStepX1Exit env).setState c.internal.tStepX1ReturnState
  else c

def reinitInit : Charger :=
  let c := applyConfiguredReinitMethod env
    { c with
      shared.reinitRunning := true
      shared.iecAllowCloseContactor := false
      shared.hlcAllowCloseContactor := false }
  if 0 < c.shared.reinitConfig.duration then
    { c with
      internal.reinitTimerActive := true
      internal.reinitDeadline := env.steady + c.shared.reinitConfig.duration }
  else { c with internal.reinitTimerActive := false }

def reinitState : Charger :=
  let c := if init then c.reinitInit env else c
  if !c.internal.reinitTimerActive ∨ c.internal.reinitDeadline ≤ env.steady then
    (cpStateX1 env
      { c with shared.reinitRunning := false, internal.reinitTimerActive := false }).setState
      .waitingForAuthentication
  else c

def prepareChargingInit : Charger :=
  let c := { (c.emit (.simpleEvent .prepareCharging)).bcbToggleReset with
    internal.hlcChargeLoopNoEnergyTimeoutRunning := false }
  if c.config.chargeMode = .dc then
    let power := c.powerAvailable env
    let c := power.2
    if !power.1 && !c.shared.hlcDcRenegotiation then c.emit .hlcNoEnergyAvailable else c
  else c

/-- PWM is on and there is power: wait for the car, with one legacy wake-up. -/
def waitForCar : Charger :=
  if c.shared.iecAllowCloseContactor &&
      (!c.hlcUse5percentCurrentSession || c.shared.hlcAllowCloseContactor) then
    c.setState .charging
  else if c.shared.hlcChargingActive then c
  else if !c.shared.legacyWakeupDone then
    if legacyWakeupTimeout < time then
      { c with
        shared.legacyWakeupDone := true
        internal.tStepEFReturnState := .prepareCharging
        internal.tStepEFReturnPwm := ampereToDutyCycle c.getMaxCurrentInternal
        internal.tStepEFReturnAmpere := c.getMaxCurrentInternal
        shared.currentState := .tStepEF }
    else c
  else if preparingTimeoutPausedByEv < time then c.setState .chargingPausedEV
  else c

/-- For DC, charging starts when CurrentDemand has started (`notify_currentdemand_started`). -/
def prepareAc : Charger :=
  if c.config.chargeMode = .ac then
    let power := c.powerAvailable env
    let c := power.2
    if !power.1 && !c.hlcUse5percentCurrentSession then c else c.waitForCar time
  else c

def preparePwm : Charger :=
  if c.config.chargeMode = .ac ∧ (!c.hlcUse5percentCurrentSession || c.hlcFailed) then
    let maxCurrent := c.getMaxCurrentInternal
    if ampereToDutyCycle maxCurrent < 1 ∧ c.mustWaitInX1BeforePwm env then c
    else (c.updatePwmNowIfChangedAmpere env maxCurrent).prepareAc env time
  else if c.mustWaitInX1BeforePwm env then c
  else (c.updatePwmNowIfChanged env pwm5Percent).prepareAc env time

/-- The wake-up link watchdog [V2G3-M07-27]. -/
def checkWakeupLink : Charger :=
  match c.internal.wakeupLinkDeadline with
  | none => c.preparePwm env time
  | some deadline =>
    if c.shared.dlinkEstablished then
      preparePwm env time { c with internal.wakeupLinkDeadline := none }
    else if deadline ≤ env.steady then
      requestErrorSequenceInternal { c with internal.wakeupLinkDeadline := none }
    else c.preparePwm env time

def prepareLink : Charger :=
  if c.shared.hlcChargingActive ∧ c.shared.hlcChargingTerminatePause ≠ .unknown then
    -- the HLC session was already ended by a SessionStop: never enable PWM here
    if c.evsePauseResumable then c.resumeEvsePauseMarker.checkWakeupLink env time
    else c.setState .chargingPausedEV
  else c.checkWakeupLink env time

def allowCableCheck : Charger :=
  if c.config.chargeMode = .dc ∧ c.shared.hlcAllowCloseContactor ∧ c.shared.iecAllowCloseContactor
  then c.emit (.allowPowerOn true .dcCableCheck)
  else c

def prepareChargingState : Charger :=
  let c := if init then c.prepareChargingInit env else c
  let fatalError := c.stopChargingOnFatalErrorInternal env
  let c := fatalError.2
  if fatalError.1 || c.sessionLost then c.setState .stoppingCharging
  else c.allowCableCheck.prepareLink env time

def chargingInit : Charger :=
  { c.emit (.simpleEvent .chargingStarted) with
    shared.hlcChargingTerminatePause := .unknown
    internal.sessionStopPwmOffDeadline := none
    shared.hlcSessionPausedByEvse := false }

/-- In ISO 15118-20 scheduled control mode charging goes on until the pause has been notified. -/
def requestScheduledPause : Bool × Charger :=
  if c.shared.hlcChargingActive ∧ c.shared.hlcD20Active ∧ !c.shared.hlcD20DynamicMode then
    let c :=
      if c.shared.flagPausedByEvse && !c.internal.d20PauseRequested then
        { c.emit .hlcPauseCharging with internal.d20PauseRequested := true }
      else if !c.shared.flagPausedByEvse && c.internal.d20PauseRequested &&
          !c.internal.d20PauseConfirmed then
        { c.emit .hlcResumeCharging with internal.d20PauseRequested := false }
      else c
    (c.internal.d20PauseConfirmed, c)
  else (c.shared.flagPausedByEvse, c)

def deliverAc : Charger :=
  let c := c.checkSoftOverCurrent env
  if init then
    let c := emit (.allowPowerOn true .fullPowerCharging)
      { c with shared.legacyWakeupDone := false }
    if c.hlcUse5percentCurrentSession then c.updatePwmNowIfChanged env pwm5Percent
    else c.updatePwmNowIfChangedAmpere env c.getMaxCurrentInternal
  else if c.hlcUse5percentCurrentSession then c
  else c.updatePwmMaxEvery5secondsAmpere env c.getMaxCurrentInternal

def deliverDc : Charger :=
  let c := if init then c.emit (.allowPowerOn true .fullPowerCharging) else c
  if dcEnforceTargetLimitsIntervalMs ≤ env.steady - c.lastDcEnforceTargetLimits then
    emit (.dcEnforceTargetLimits c.shared.currentEvseMaxLimits)
      { c with lastDcEnforceTargetLimits := env.steady }
  else c

def deliver : Charger :=
  match c.config.chargeMode with
  | .dc => c.deliverDc env init
  | .ac => c.deliverAc env init

def chargeWithoutEnergy : Charger :=
  if c.shared.hlcChargingActive || c.hlcUse5percentCurrentSession then
    if c.config.hlcChargeLoopWithoutEnergyTimeoutS ≤ 0 then c.setState .stoppingCharging
    else if !c.internal.hlcChargeLoopNoEnergyTimeoutRunning then
      deliver env init
        { c with
          internal.hlcChargeLoopNoEnergyTimeoutRunning := true
          internal.isoChargeLoopNoEnergyTimeoutStarted := env.steady }
    else if c.config.hlcChargeLoopWithoutEnergyTimeoutS * 1000 ≤
        env.steady - c.internal.isoChargeLoopNoEnergyTimeoutStarted then
      setState .stoppingCharging
        { c with internal.hlcChargeLoopNoEnergyTimeoutRunning := false }
    else c.deliver env init
  else if c.config.chargeMode = .ac then c.setState .stoppingCharging
  else c.deliver env init

def charge : Charger :=
  let power := c.powerAvailable env
  let c := power.2
  if power.1 then deliver env init { c with internal.hlcChargeLoopNoEnergyTimeoutRunning := false }
  else c.chargeWithoutEnergy env init

def chargingState : Charger :=
  let c := if init then c.chargingInit else c
  let fatalError := c.stopChargingOnFatalErrorInternal env
  let pause := fatalError.2.requestScheduledPause
  let c := pause.2
  if fatalError.1 || c.sessionLost || pause.1 || !c.shared.iecAllowCloseContactor then
    c.setState .stoppingCharging
  else c.charge env init

def restartByEv : Charger :=
  let restartedByEv := c.internal.hlcSessionRestartedByEv
  let toggle := bcbToggleDetected env { c with internal.hlcSessionRestartedByEv := false }
  let c := toggle.2
  if toggle.1 || restartedByEv then
    let start := if restartedByEv then env.steady else c.internal.hlcEvPauseStartOfBcbSequence
    emit .slacStart
      { c with
        shared.hlcChargingTerminatePause := .unknown
        internal.sessionStopPwmOffDeadline := none
        internal.wakeupLinkDeadline := some (start + tConnMaxComm)
        shared.currentState := .prepareCharging }
  else c

def pausedEVHlc : Charger :=
  let c := c.restartByEv env
  -- the PWM stays on until it is known whether the session was terminated or paused
  if c.shared.hlcChargingTerminatePause ≠ .unknown ∧ c.shared.pwmRunning ∧
      c.internal.sessionStopPwmOffDeadline = none then
    c.cpStateX1 env
  else c

def pausedEVBasic : Charger :=
  let power := c.powerAvailable env
  let c := power.2
  if !power.1 then c.setState .chargingPausedEVSE
  else if c.mustWaitInX1BeforePwm env then c
  else c.updatePwmMaxEvery5secondsAmpere env c.getMaxCurrentInternal

def chargingPausedEVState : Charger :=
  let c := if init then c.emit (.simpleEvent .chargingPausedEV) else c
  if c.sessionLost then c.setState .stoppingCharging
  else
    let c := if c.config.chargeMode = .ac then c.checkSoftOverCurrent env else c
    if c.shared.hlcChargingActive then c.pausedEVHlc env else c.pausedEVBasic env

def chargingPausedEVSEInit : Charger :=
  let c := if !c.shared.hlcChargingActive || !c.shared.flagTransactionActive then c.cpStateX1 env
    else c
  { c with internal.lastChargingPausedEvseReasons := [] }

/-- In basic charging a new fatal error is shown by state F for a short time. -/
def signalFault : Charger :=
  if 0 < c.config.stateFAfterFaultMs ∧ !c.shared.hlcChargingActive then
    let c := if c.enteredFatalErrorState then c.cpStateF env else c
    if c.internal.cpStateFActive ∧ c.config.stateFAfterFaultMs < c.timeInFatalErrorStateMs env then
      c.cpStateX1 env
    else c
  else c

def resumeFromEvsePause : Charger :=
  if c.shared.hlcChargingActive ∧ c.shared.hlcChargingTerminatePause ≠ .unknown then
    if c.evsePauseResumable then c.resumeEvsePauseMarker.setState .prepareCharging
    else c.setState .chargingPausedEV
  else if c.mustWaitInX1BeforePwm env then c
  else
    let c := if c.shared.hlcChargingTerminatePause ≠ .pause then c.emit .slacStart else c
    c.setState .prepareCharging

def signalPauseReasons (reasons : List PauseChargingEVSEReason) (c : Charger) : Charger :=
  if c.internal.lastChargingPausedEvseReasons ≠ reasons then
    { c.emit (.chargingPausedEvse reasons) with internal.lastChargingPausedEvseReasons := reasons }
  else c

def chargingPausedEVSEState : Charger :=
  let c := if init then c.chargingPausedEVSEInit env else c
  if c.sessionLost then c.setState .stoppingCharging
  else
    let fatalError := stopChargingOnFatalErrorInternal env
      ((c.signalFault env).emit (.clearError .cableCheck))
    let power := fatalError.2.powerAvailable env
    let c := power.2
    let reasons := (if fatalError.1 then [PauseChargingEVSEReason.error] else []) ++
      (if power.1 then [] else [PauseChargingEVSEReason.noEnergy]) ++
      (if c.shared.flagPausedByEvse then [PauseChargingEVSEReason.userPause] else [])
    if reasons = [] then c.resumeFromEvsePause env else c.signalPauseReasons reasons

def requestStop (evsePause pauseAlreadyNotified : Bool) (c : Charger) : Charger :=
  if !c.shared.hlcChargingActive then c.cpStateX1 env
  else if !(c.shared.hlcD20Active && evsePause) then c.emit .hlcStopCharging
  else if c.shared.hlcD20DynamicMode then
    { c with
      internal.d20PauseRampStart := some env.steady
      internal.stoppingChargingTimeoutMs := d20PauseRampTimeoutMs }
  else
    let c := if pauseAlreadyNotified then c else c.emit .hlcPauseCharging
    { c with
      internal.d20PauseNotified := true
      internal.stoppingChargingTimeoutMs := stoppingChargingD20PauseTimeoutMs }

def stoppingChargingInit : Charger :=
  let pauseAlreadyNotified := c.internal.d20PauseConfirmed
  let evsePause := c.shared.flagPausedByEvse || pauseAlreadyNotified
  let c := { c.bcbToggleReset.emit (.simpleEvent .stoppingCharging) with
    shared.hlcDcRenegotiation := false
    shared.legacyWakeupDone := false
    internal.d20PauseRequested := false
    internal.d20PauseConfirmed := false
    internal.stoppingForEvsePause := evsePause
    internal.stoppingChargingTimeoutMs := stoppingChargingTimeout
    internal.d20PauseRampStart := none
    internal.d20PauseNotified := false }
  c.requestStop env evsePause pauseAlreadyNotified

def requestPauseAtZeroCurrent : Charger :=
  if c.internal.d20PauseRampStart ≠ none ∧ !c.internal.d20PauseNotified ∧
      |c.dcPresentCurrentA| < d20PauseZeroCurrentA then
    { c.emit .hlcPauseCharging with
      internal.d20PauseNotified := true
      internal.stoppingChargingTimeoutMs := time + stoppingChargingD20PauseTimeoutMs }
  else c

def hardStop : Charger :=
  if c.internal.stoppingChargingTimeoutMs < time then
    (c.emit .dcSupplyOff).emit (.allowPowerOn false .powerOff)
  else c

/-- Charging is stopped, move on to a paused state. The fatal error check comes last. -/
def chargingStopped : Charger :=
  let power := c.powerAvailable env
  let c := power.2
  let pause := fun c : Charger => setState .chargingPausedEVSE
    { c with shared.hlcSessionPausedByEvse := c.shared.hlcChargingActive }
  if !power.1 || c.shared.flagPausedByEvse || c.internal.stoppingForEvsePause then pause c
  else
    let fatalError := c.stopChargingOnFatalErrorInternal env
    if fatalError.1 then pause fatalError.2 else fatalError.2.setState .chargingPausedEV

def stoppingChargingState : Charger :=
  let c := if init then c.stoppingChargingInit env else c
  let c := (c.requestPauseAtZeroCurrent time).hardStop time
  if !c.shared.contactorOpen then c
  else if c.sessionLost then c.setState .finished
  else c.chargingStopped env

def finishedInit : Charger :=
  let c := if c.shared.flagTransactionActive then c.stopTransaction env else c
  c.dcSupplyOff.emit (.allowPowerOn false .powerOff)

def finishedState : Charger :=
  let c := if init then c.finishedInit env else c
  if !c.shared.flagEvPluggedIn || c.shared.flagDisableRequested then
    c.stopSession.setState (if c.shared.flagDisableRequested then .disabled else .idle)
  else c

end Charger

end Everest.Evse
