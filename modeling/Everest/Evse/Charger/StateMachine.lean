import Everest.Evse.Charger.States

/- `run_state_machine` repeats its loop body until the state no longer changes. The readings of the
outside world come from a list with one entry for each turn of the loop; the result is `none` if
the list is used up before the loop ends. -/

namespace Everest.Evse

namespace Charger

variable (env : Env) (c : Charger)

def processPendingReinitRequest : Charger :=
  if !c.shared.reinitRequested then c
  else
    let c := if c.shared.currentState = .charging then c.setState .stoppingCharging else c
    if c.shared.slacMatched then
      if c.shared.reinitRunning then c
      else emit .hlcStopCharging { c with shared.reinitRunning := true }
    else
      { c with
        shared.reinitRequested := false
        shared.reinitRunning := true
        internal.tStepX1UntilUnmatched := false
        shared.currentState := .reinit }

def initializeState : Bool :=
  c.internal.lastStateDetectStateChange ≠ c.shared.currentState ∨
    c.internal.lastShutdownType ≠ c.shared.shutdownType

def noteState : Charger :=
  { c with
    internal.lastState := c.internal.lastStateDetectStateChange
    internal.lastStateDetectStateChange := c.shared.currentState
    internal.lastShutdownType := c.shared.shutdownType }

def finishPhaseSwitch : Charger :=
  if c.internal.lastState = .switchPhases ∧ c.shared.currentState ≠ .switchPhases ∧
      c.shared.switch3ph1phThreephaseOngoing then
    { c.emit (.switchThreePhasesWhileCharging c.shared.switch3ph1phThreephase) with
      shared.switch3ph1phThreephaseOngoing := false }
  else c

/-- [V2G-DC-968]: the oscillator goes off when its retain time has expired. -/
def expireOscillatorRetain : Charger :=
  match c.internal.sessionStopPwmOffDeadline with
  | none => c
  | some deadline =>
    if deadline ≤ env.steady then
      let c := { c with internal.sessionStopPwmOffDeadline := none }
      if c.shared.pwmRunning then c.cpStateX1 env else c
    else c

def beginState (init : Bool) (c : Charger) : Charger :=
  let c := if init then
      emit (.state c.shared.currentState) { c with internal.currentStateStarted := env.system }
    else c
  c.finishPhaseSwitch.expireOscillatorRetain env

def handleState (init : Bool) (time : ℤ) (c : Charger) : Charger :=
  match c.shared.currentState with
  | .disabled => c.disabledState env init
  | .idle => c.idleState env init
  | .waitingForAuthentication => c.waitingForAuthenticationState env init time
  | .switchPhases => c.switchPhasesState env init time
  | .tStepEF => c.tStepEFState env init time
  | .tStepX1 => c.tStepX1State env init time
  | .reinit => c.reinitState env init
  | .prepareCharging => c.prepareChargingState env init time
  | .charging => c.chargingState env init
  | .chargingPausedEV => c.chargingPausedEVState env init
  | .chargingPausedEVSE => c.chargingPausedEVSEState env init
  | .stoppingCharging => c.stoppingChargingState env init time
  | .finished => c.finishedState env init

/-- The AC with SoC timer runs down by 50 in every turn. -/
def socTimerExpires : Bool :=
  c.shared.acWithSocTimeout && decide (c.shared.acWithSocTimer - 50 < 0)

def countSocTimer : Charger :=
  if c.shared.acWithSocTimeout then
    { c with shared.acWithSocTimer := c.shared.acWithSocTimer - 50 }
  else c

def socTimeout : Charger :=
  emit .acWithSocTimeout
    { c with shared.acWithSocTimeout := false, shared.acWithSocTimer := 3600000 }

def turn : Charger :=
  let init := c.initializeState
  let c := c.noteState.countSocTimer.beginState env init
  c.handleState env init (env.system - c.internal.currentStateStarted)

def setDcPauseRamp : Charger :=
  { c with
    dcPauseRampStart :=
      if c.shared.currentState = .stoppingCharging then c.internal.d20PauseRampStart else none }

def runStateMachine : List Env → Charger → Option Charger
  | [], _ => none
  | env :: envs, c =>
    let c := c.processPendingReinitRequest
    if c.socTimerExpires then some c.noteState.socTimeout
    else
      let c := c.turn env
      if c.internal.lastStateDetectStateChange = c.shared.currentState then some c.setDcPauseRamp
      else runStateMachine envs c

end Charger

end Everest.Evse
