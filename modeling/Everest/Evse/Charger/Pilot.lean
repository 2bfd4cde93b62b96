import Everest.Evse.Charger.Context

namespace Everest.Evse

namespace Charger

def pwm5Percent : ℚ := 1 / 20

/-- Milliseconds in X1 before PWM is enabled again (IEC 61851-1 Table A.6 sequence 9.2). -/
def iecMinX1BeforePwmMs : ℤ := 3000

def iecPwmMaxUpdateInterval : ℤ := 5000

variable (env : Env) (ampere : ℚ) (c : Charger)

def pwmSignalOff : Bool :=
  !c.shared.pwmRunning || decide (1 ≤ c.internal.updatePwmLastDutyCycle)

def notePwmSwitchedOff : Charger :=
  { c with
    internal.pwmSwitchedOffAt :=
      if c.pwmSignalOff then c.internal.pwmSwitchedOffAt else some env.steady }

def mustWaitInX1BeforePwm : Bool :=
  match c.internal.pwmSwitchedOffAt with
  | none => false
  | some switchedOff => c.pwmSignalOff && decide (env.steady - switchedOff < iecMinX1BeforePwmMs)

def cpStateX1 : Charger :=
  let c := c.notePwmSwitchedOff env
  emit .setCpStateX1
    { c with
      shared.pwmRunning := false
      internal.updatePwmLastDutyCycle := 1
      internal.pwmSetLastAmpere := 0
      internal.cpStateFActive := false }

def cpStateF : Charger :=
  let c := c.notePwmSwitchedOff env
  emit .setCpStateF
    { c with
      shared.pwmRunning := false
      internal.updatePwmLastDutyCycle := 0
      internal.pwmSetLastAmpere := 0
      internal.cpStateFActive := true }

def cpStateE : Charger :=
  let c := c.notePwmSwitchedOff env
  if c.supportsCpStateE then
    emit .setCpStateE
      { c with
        shared.pwmRunning := false
        internal.updatePwmLastDutyCycle := 0
        internal.pwmSetLastAmpere := 0
        internal.cpStateFActive := false }
  else c.cpStateX1 env

def updatePwmNow (dutyCycle : ℚ) (c : Charger) : Charger :=
  if 1 ≤ dutyCycle then c.cpStateX1 env
  else if dutyCycle ≤ 0 then c.cpStateF env
  else
    emit (.setPwm dutyCycle)
      { c with
        internal.updatePwmLastDutyCycle := dutyCycle
        shared.pwmRunning := true
        internal.lastPwmUpdate := env.steady
        internal.cpStateFActive := false }

def updatePwmNowIfChanged (dutyCycle : ℚ) (c : Charger) : Charger :=
  if c.internal.updatePwmLastDutyCycle ≠ dutyCycle then c.updatePwmNow env dutyCycle else c

def ampereToDutyCycle : ℚ :=
  if ampere < 59 / 10 then 1
  else if ampere ≤ 61 / 10 then 1 / 10
  -- 51 A to 52.5 A has no defined PWM
  else if ampere < 105 / 2 then min ampere 51 / (6 / 10) / 100
  else if ampere ≤ 80 then (ampere / (5 / 2) + 64) / 100
  else if ampere ≤ 801 / 10 then 97 / 100
  else 1

def setLastAmpere : Charger :=
  { c with internal.pwmSetLastAmpere := ampere }

def updatePwmNowIfChangedAmpere : Charger :=
  if c.internal.updatePwmLastDutyCycle ≠ ampereToDutyCycle ampere then
    (c.updatePwmNow env (ampereToDutyCycle ampere)).setLastAmpere ampere
  else c

def updatePwmMaxEvery5secondsAmpere : Charger :=
  if ampereToDutyCycle ampere ≠ c.internal.updatePwmLastDutyCycle ∧
      iecPwmMaxUpdateInterval ≤ env.steady - c.internal.lastPwmUpdate then
    (c.updatePwmNow env (ampereToDutyCycle ampere)).setLastAmpere ampere
  else c

def applyConfiguredReinitMethod : Charger :=
  match c.shared.reinitConfig.stateTransition with
  | .e => c.cpStateE env
  | .x1 => c.cpStateX1 env
  | .f => c.cpStateF env

def getMaxCurrentInternal : ℚ :=
  let maxCurrentCable := c.shared.maxCurrentCable.getD 0
  if c.connectorType = .iec62196Type2Socket ∧ maxCurrentCable < c.shared.maxCurrent ∧
      c.shared.currentState ≠ .idle then
    maxCurrentCable
  else c.shared.maxCurrent

def getMaxCurrentSignalledToEvInternal : ℚ :=
  if c.shared.hlcChargingActive then c.getMaxCurrentInternal else c.internal.pwmSetLastAmpere

/-- Once the limit of the energy manager has expired, for more than a full second, nothing is
available. -/
def expirePowerBudget : Charger :=
  if 0 < (env.steady - c.shared.maxCurrentValidUntil).tdiv 1000 ∧ 0 < c.shared.maxCurrent then
    emit (.maxCurrent 0) { c with shared.maxCurrent := 0 }
  else c

def powerAvailable : Bool × Charger :=
  let c := c.expirePowerBudget env
  let limits := c.shared.currentEvseMaxLimits
  match c.config.chargeMode with
  | .ac => (59 / 10 < c.getMaxCurrentInternal, c)
  | .dc => (0 < limits.evseMaximumCurrentLimit ∧ 0 < limits.evseMaximumPowerLimit, c)

def checkSoftOverCurrent : Charger :=
  let limit := (c.getMaxCurrentSignalledToEvInternal + c.softOverCurrentMeasurementNoiseA) *
    (1 + c.softOverCurrentTolerancePercent / 100)
  let (l1, l2, l3) := c.shared.currentDrawnByVehicle
  let exceeded : Bool := limit < |l1| ∨ limit < |l2| ∨ limit < |l3|
  let since :=
    if exceeded && !c.internal.overCurrent then env.steady else c.internal.lastOverCurrentEvent
  let c := { c with internal.overCurrent := exceeded, internal.lastOverCurrentEvent := since }
  if exceeded ∧ c.config.softOverCurrentTimeoutMs ≤ env.steady - since then
    c.emit (.raiseError .overcurrent)
  else c

def tpEvValdStateDurationMin : ℤ := 150
def tpEvValdStateDurationMax : ℤ := 450
def ttEvseValdToggle : ℤ := 3700

def bcbToggleReset : Charger :=
  { c with internal.hlcEvPauseBcbCount := 0, internal.hlcBcbSequenceStarted := false }

def bcbToggleDetectStartPulse : Charger :=
  let c := { c with internal.hlcEvPauseStartOfBcb := env.steady }
  if c.internal.hlcEvPauseBcbCount = 0 then
    { c with
      internal.hlcEvPauseStartOfBcbSequence := env.steady
      internal.hlcBcbSequenceStarted := true }
  else c

def bcbToggleDetectStopPulse : Charger :=
  let pulseLength := env.steady - c.internal.hlcEvPauseStartOfBcb
  if !c.internal.hlcBcbSequenceStarted then c
  else if tpEvValdStateDurationMin < pulseLength ∧ pulseLength < tpEvValdStateDurationMax then
    { c with internal.hlcEvPauseBcbCount := c.internal.hlcEvPauseBcbCount + 1 }
  else { c with internal.hlcEvPauseBcbCount := 0 }

def bcbToggleDetected : Bool × Charger :=
  let sequenceLength := env.steady - c.internal.hlcEvPauseStartOfBcbSequence
  if c.internal.hlcBcbSequenceStarted ∧
      (ttEvseValdToggle < sequenceLength ∨ 3 ≤ c.internal.hlcEvPauseBcbCount) then
    (true, { c with internal.hlcEvPauseBcbCount := 0 })
  else (false, c)

end Charger

end Everest.Evse
