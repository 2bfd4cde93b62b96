import Mathlib.Algebra.Order.Ring.Rat
import Everest.Lib.Runs

/- The control pilot state machine of EvseManager (`IECStateMachine`), between the board
support driver and the charger. Calls are taken one after the other; every call carries the
steady clock in milliseconds. What the object calls and signals, and the calls it receives, are
kept in one trace. -/

namespace Everest.Evse

inductive RawCPState
  | disabled | a | b | c | d | e | f
  deriving DecidableEq, Repr

inductive CPEvent
  | carPluggedIn | carRequestedPower | powerOn | powerOff | carRequestedStopPower
  | carUnplugged | efToBcd | bcdToEf | bcdToE
  deriving DecidableEq, Repr

inductive AcPhases
  | singlePhase | twoPhases | threePhases
  deriving DecidableEq, Repr

/-- Why the contactors are switched (`evse_board_support::Reason`). -/
inductive Reason
  | dcCableCheck | dcPreCharge | fullPowerCharging | powerOff
  deriving DecidableEq, Repr

inductive BspEvent
  | a | b | c | d | e | f | powerOn | powerOff | disconnected
  deriving DecidableEq, Repr

inductive Ampacity
  | none | a13 | a20 | a32 | a63ThreePhases70SinglePhase
  deriving DecidableEq, Repr

inductive TimerControl
  | doNothing | start | stop
  deriving DecidableEq, Repr

def fromBspEvent : BspEvent → RawCPState ⊕ CPEvent
  | .a => .inl .a
  | .b => .inl .b
  | .c => .inl .c
  | .d => .inl .d
  | .e => .inl .e
  | .f => .inl .f
  | .powerOn => .inr .powerOn
  | .powerOff => .inr .powerOff
  | .disconnected => .inl .disabled

/-- A timeout with its own waiting thread. It keeps running after its expiry, until it is
stopped or started again. -/
structure AsyncTimeout where
  t : ℤ := 0
  startTime : ℤ := 0
  running : Bool := false
  deriving DecidableEq, Repr

namespace AsyncTimeout

def start (now t : ℤ) : AsyncTimeout := { t := t, startTime := now, running := true }

def stop (timer : AsyncTimeout) : AsyncTimeout := { timer with running := false }

def reached (timer : AsyncTimeout) (now : ℤ) : Bool :=
  timer.running && decide (timer.t < now - timer.startTime)

def control (timer : AsyncTimeout) (now t : ℤ) : TimerControl → AsyncTimeout
  | .doNothing => timer
  | .start => start now t
  | .stop => timer.stop

end AsyncTimeout

inductive Input
  | bspEvent (event : BspEvent)
  | processBspEvent (event : BspEvent)
  | timeoutStateC1
  | timeoutUnlockStateF
  | timeoutCaptiveLock
  | allowPowerOn (value : Bool) (reason : Reason)
  | setPwm (value : ℚ)
  | setCpStateX1
  | setCpStateE
  | setCpStateF
  | setPpAmpacity (ampacity : Ampacity)
  | setMaxPhases (phases : AcPhases)
  | setup (hasVentilation : Bool)
  | enable (en : Bool)
  | setOvercurrentLimit (amps : ℚ)
  | switchThreePhasesWhileCharging (n : Bool)
  | connectorForceUnlock
  | setAuthorized (a : Bool)
  | setKeepCableLocked (enabled : Bool)
  | setEvSimplifiedModeEvseLimit (l : Bool)
  deriving DecidableEq, Repr

inductive Output
  | allowPowerOn (value : Bool) (reason : Reason)
  | pwmOn (dutyCycle : ℚ)
  | cpStateX1
  | cpStateE
  | cpStateF
  | bspEnable (en : Bool)
  | overcurrentLimit (amps : ℚ)
  | switchThreePhases (n : Bool)
  | lock
  | unlock
  | pwmDutyCycle (percent : ℚ)
  | rawCpStateChanged (cp : RawCPState)
  | event (e : CPEvent)
  deriving DecidableEq, Repr

inductive Entry
  | call (input : Input)
  | out (output : Output)
  deriving DecidableEq, Repr

structure IECStateMachine where
  lockConnectorInStateB : Bool := true
  pwmRunning : Bool := false
  lastPwmRunning : Bool := false
  evSimplifiedModeEvseLimit : Bool := false
  evSimplifiedMode : Bool := false
  hasVentilation : Bool := false
  powerOnAllowed : Bool := false
  lastPowerOnAllowed : Bool := false
  lastPowerOnForwarded : Bool := false
  ppAmpacity : ℚ := 0
  lastAmps : ℚ := -1
  maxPhases : AcPhases := .threePhases
  carPluggedIn : Bool := false
  lastCpState : RawCPState := .disabled
  cpStateFRequested : Bool := false
  signalledRawCpState : RawCPState := .disabled
  timeoutStateC1 : AsyncTimeout := {}
  timeoutUnlockStateF : AsyncTimeout := {}
  timeoutCaptiveLock : AsyncTimeout := {}
  powerOnReason : Reason := .powerOff
  useAuthorized : Bool := false
  authorized : Bool := true
  keepCableLocked : Bool := false
  captiveUnlockWindow : Bool := false
  keepCableLockedLockDelayMs : ℤ := 500
  captiveLockDelayElapsed : Bool := false
  captiveLatched : Bool := false
  isLocked : Bool := false
  shouldBeLocked : Bool := false
  forceUnlocked : Bool := false
  enabled : Bool := false
  relaisOn : Bool := false
  stateETriggeredThroughHandle : Bool := false
  /-- Newest entry first. -/
  trace : List Entry := []
  deriving DecidableEq, Repr

structure IecConfig where
  lockConnectorInStateB : Bool
  useAuthorized : Bool
  keepCableLocked : Bool
  keepCableLockedLockDelayMs : ℤ
  deriving DecidableEq, Repr

def evSimplifiedModeEvseLimitPwm : ℚ := 10 / (6 / 10) / 100

def powerOffUnderLoadInC1Timeout : ℤ := 6000

def unlockInStateFTimeout : ℤ := 5000

namespace IECStateMachine

def init (config : IecConfig) : IECStateMachine where
  lockConnectorInStateB := config.lockConnectorInStateB
  useAuthorized := config.useAuthorized
  authorized := !config.useAuthorized
  keepCableLocked := config.keepCableLocked
  keepCableLockedLockDelayMs := config.keepCableLockedLockDelayMs

/-- A pass through the state machine before its common end: the events queued in order, and
what is to be done to the two timers once the lock is released. -/
structure Pass where
  sm : IECStateMachine
  events : List CPEvent := []
  timerStateC1 : TimerControl := .doNothing
  timerUnlockStateF : TimerControl := .doNothing

variable (now : ℤ) (p : Pass) (cpState : Option RawCPState) (s : IECStateMachine)

def emit (output : Output) : IECStateMachine :=
  { s with trace := .out output :: s.trace }

/-- Forwards the permission; a withdrawal also clears it here. -/
def callAllowPowerOnBsp (value : Bool) : IECStateMachine :=
  let s := if value then s else { s with powerOnAllowed := false, powerOnReason := .powerOff }
  { s with lastPowerOnForwarded := value }.emit (.allowPowerOn value s.powerOnReason)

def connectorLock : IECStateMachine := { s with shouldBeLocked := true }

def connectorUnlock : IECStateMachine :=
  { s with shouldBeLocked := false, forceUnlocked := false }

def latchCaptive : IECStateMachine :=
  if s.keepCableLocked && decide (0 < s.ppAmpacity) && s.captiveLockDelayElapsed &&
      !s.captiveUnlockWindow then
    { s with captiveLatched := true }
  else s

def lockWanted : Bool :=
  s.relaisOn || (s.shouldBeLocked && !s.forceUnlocked && s.authorized) ||
    (s.keepCableLocked && s.captiveLatched)

def checkConnectorLock : IECStateMachine :=
  let s := s.latchCaptive
  if !s.isLocked && s.lockWanted then { s with isLocked := true }.emit .lock
  else if s.isLocked && !s.lockWanted then { s with isLocked := false }.emit .unlock
  else s

/-- The automatic return to X1, held back while the charger asks for state F. -/
def resetToX1 : IECStateMachine :=
  if s.cpStateFRequested then s else (s.emit .cpStateX1).emit (.pwmDutyCycle 100)

def Pass.push (event : CPEvent) : Pass := { p with events := p.events ++ [event] }

def stateDisabled : Pass :=
  if s.lastCpState ≠ .disabled then
    let s := resetToX1 { s with pwmRunning := false }
    let s := { s with evSimplifiedMode := false }
    { sm := (s.callAllowPowerOnBsp false).connectorUnlock, timerStateC1 := .stop }
  else { sm := s }

def enterStateA : Pass :=
  if s.lastCpState ≠ .a then
    let s := resetToX1 { s with pwmRunning := false }
    let s := { s with evSimplifiedMode := false, carPluggedIn := false }
    { sm := (s.callAllowPowerOnBsp false).connectorUnlock, timerStateC1 := .stop }
  else { sm := s }

def stateA : Pass :=
  if s.lastCpState ≠ .a ∧ s.lastCpState ≠ .disabled then (enterStateA s).push .carUnplugged
  else enterStateA s

/-- The EV stops charging: power goes off within 100 ms. -/
def stopPowerInB : Pass :=
  if s.lastCpState = .c ∨ s.lastCpState = .d then
    { sm := s.callAllowPowerOnBsp false, events := [.carRequestedStopPower], timerStateC1 := .stop }
  else { sm := s }

/-- A plug-in may pass through a transient E. -/
def plugInAtB : Pass :=
  if p.sm.lastCpState = .a ∨ p.sm.lastCpState = .disabled ∨
      (p.sm.carPluggedIn = false ∧ (p.sm.lastCpState = .f ∨ p.sm.lastCpState = .e)) then
    { p with sm := { p.sm with carPluggedIn := true, evSimplifiedMode := false } }.push
      .carPluggedIn
  else p

def lockInStateB : IECStateMachine :=
  if s.lockConnectorInStateB then s.connectorLock else s.connectorUnlock

def stateB : Pass :=
  let p := plugInAtB (stopPowerInB s.lockInStateB)
  if s.lastCpState = .e ∨ s.lastCpState = .f then p.push .efToBcd else p

/-- A plug-in straight into C is the simplified mode. -/
def plugInAtC : Pass :=
  if p.sm.lastCpState = .a ∨ p.sm.lastCpState = .disabled ∨
      (p.sm.carPluggedIn = false ∧ p.sm.lastCpState = .f) then
    { p with sm := { p.sm with carPluggedIn := true, evSimplifiedMode := true } }.push .carPluggedIn
  else if p.sm.lastCpState = .b then p.push .carRequestedPower
  else p

/-- X2 to C1 starts the 6 s to power off under load; PWM coming back in C stops them and
switches on again where that is still allowed. -/
def pwmEdgesInC : Pass :=
  if !p.sm.pwmRunning && p.sm.lastPwmRunning then { p with timerStateC1 := .start }
  else if p.sm.pwmRunning && !p.sm.lastPwmRunning then
    { p with
      sm := if p.sm.powerOnAllowed then p.sm.callAllowPowerOnBsp true else p.sm
      timerStateC1 := .stop }
  else p

def timeoutInC1 : Pass :=
  if p.sm.timeoutStateC1.reached now then { p with sm := p.sm.callAllowPowerOnBsp false } else p

/-- Coming from B, or on a delayed permission. -/
def switchOnInC2 : IECStateMachine :=
  if s.powerOnAllowed && (!s.lastPowerOnAllowed || decide (s.lastCpState = .b)) then
    s.callAllowPowerOnBsp true
  else s

def powerOnInC2 : Pass :=
  if p.sm.pwmRunning then
    let p := { p with sm := p.sm.switchOnInC2 }
    if !p.sm.lastPwmRunning && p.sm.evSimplifiedMode then p.push .carRequestedPower else p
  else p

def stateC : Pass :=
  powerOnInC2 (timeoutInC1 now (pwmEdgesInC (plugInAtC { sm := s.connectorLock })))

def stateD : Pass :=
  let s := s.connectorLock
  if s.hasVentilation then stateC now s
  else { sm := s.callAllowPowerOnBsp false, timerStateC1 := .stop }

def enterStateE (triggeredByEvse : Bool) : Pass :=
  let s := s.callAllowPowerOnBsp false
  let s := { s with pwmRunning := false }
  let s := if triggeredByEvse then s else s.resetToX1
  { sm := s
    events :=
      if s.lastCpState = .b ∨ s.lastCpState = .c ∨ s.lastCpState = .d then
        if triggeredByEvse then [.bcdToEf] else [.bcdToEf, .bcdToE]
      else []
    timerStateC1 := .stop }

def stateE : Pass :=
  let triggeredByEvse := s.stateETriggeredThroughHandle
  let s := { s with stateETriggeredThroughHandle := false }
  let s := if triggeredByEvse then s else s.connectorUnlock
  if s.lastCpState ≠ .e then enterStateE s triggeredByEvse else { sm := s }

def stateF : Pass :=
  let entered := decide (s.lastCpState ≠ .f)
  let s := s.callAllowPowerOnBsp false
  let s := if entered then { s with pwmRunning := false } else s
  { sm := if s.timeoutUnlockStateF.reached now then s.connectorUnlock else s
    events :=
      if s.lastCpState = .b ∨ s.lastCpState = .c ∨ s.lastCpState = .d then [.bcdToEf] else []
    timerStateC1 := .stop
    timerUnlockStateF := if entered then .start else .doNothing }

def switchCpState : RawCPState → Pass
  | .disabled => stateDisabled s
  | .a => stateA s
  | .b => stateB s
  | .c => stateC now s
  | .d => stateD now s
  | .e => stateE s
  | .f => stateF now s

def finishPass (cp : RawCPState) (leavesF : Bool) (p : Pass) : IECStateMachine :=
  let s := p.sm.checkConnectorLock
  let timerF := if leavesF then .stop else p.timerUnlockStateF
  { s with
    lastCpState := cp
    lastPwmRunning := s.pwmRunning
    lastPowerOnAllowed := s.powerOnAllowed
    timeoutStateC1 := s.timeoutStateC1.control now powerOffUnderLoadInC1Timeout p.timerStateC1
    timeoutUnlockStateF := s.timeoutUnlockStateF.control now unlockInStateFTimeout timerF }

def stateMachine : IECStateMachine × List CPEvent :=
  let cp := cpState.getD s.lastCpState
  let p := switchCpState now s cp
  (finishPass now cp (decide (cp ≠ .f ∧ s.lastCpState = .f)) p, p.events)

def signalRawCpState : IECStateMachine :=
  match cpState with
  | some cp =>
    if cp ≠ s.signalledRawCpState then
      { s with signalledRawCpState := cp }.emit (.rawCpStateChanged cp)
    else s
  | none => s

def signalEvents (events : List CPEvent) (s : IECStateMachine) : IECStateMachine :=
  events.foldl (fun s e => s.emit (.event e)) s

/-- Runs the state machine, then publishes the raw state before the derived events. -/
def feedStateMachine : IECStateMachine :=
  let r := stateMachine now cpState s
  signalEvents r.2 (signalRawCpState cpState r.1)

def processBspEvent (event : BspEvent) (s : IECStateMachine) : IECStateMachine :=
  match fromBspEvent event with
  | .inl cp => feedStateMachine now (some cp) s
  | .inr e =>
    let s :=
      if e = .powerOn then { s with relaisOn := true }
      else if e = .powerOff then { s with relaisOn := false }
      else s
    s.checkConnectorLock.emit (.event e)

def setCpStateX1 : IECStateMachine :=
  let s := { s with pwmRunning := false, cpStateFRequested := false }
  feedStateMachine now none ((s.emit .cpStateX1).emit (.pwmDutyCycle 100))

def setCpStateF : IECStateMachine :=
  let s := { s with pwmRunning := false, cpStateFRequested := true }
  feedStateMachine now none ((s.emit .cpStateF).emit (.pwmDutyCycle 100))

def setCpStateE : IECStateMachine :=
  let s := { s with pwmRunning := false, stateETriggeredThroughHandle := true }
  feedStateMachine now none ((s.emit .cpStateE).emit (.pwmDutyCycle 100))

def limitedPwm (value : ℚ) : ℚ :=
  if s.evSimplifiedModeEvseLimit && s.evSimplifiedMode &&
      decide (evSimplifiedModeEvseLimitPwm < value) then
    evSimplifiedModeEvseLimitPwm
  else value

def setPwm (value : ℚ) (s : IECStateMachine) : IECStateMachine :=
  if 1 ≤ value then setCpStateX1 now s
  else if value ≤ 0 then setCpStateF now s
  else
    let s := { s with pwmRunning := true, cpStateFRequested := false }
    let duty := s.limitedPwm value * 100
    feedStateMachine now none ((s.emit (.pwmOn duty)).emit (.pwmDutyCycle duty))

def allowPowerOn (value : Bool) (reason : Reason) (s : IECStateMachine) : IECStateMachine :=
  let s := { s with powerOnAllowed := value, powerOnReason := reason }
  feedStateMachine now none (if value then s else s.callAllowPowerOnBsp false)

def ampacityValue (maxPhases : AcPhases) : Ampacity → ℚ
  | .a13 => 13
  | .a20 => 20
  | .a32 => 32
  | .a63ThreePhases70SinglePhase => if maxPhases = .singlePhase then 70 else 63
  | .none => 0

def setPpAmpacity (ampacity : Ampacity) (s : IECStateMachine) : IECStateMachine :=
  let plugWasPresent := decide (0 < s.ppAmpacity)
  let s := { s with ppAmpacity := ampacityValue s.maxPhases ampacity }
  if !s.keepCableLocked then s
  else if s.ppAmpacity = 0 then
    -- cable removed: the next insertion locks again, after the debounce
    let s := { s with captiveUnlockWindow := false, captiveLockDelayElapsed := false }
    let s := s.checkConnectorLock
    { s with timeoutCaptiveLock := s.timeoutCaptiveLock.stop }
  else if !plugWasPresent && !s.captiveLockDelayElapsed then
    if 0 < s.keepCableLockedLockDelayMs then
      { s.checkConnectorLock with
        timeoutCaptiveLock := AsyncTimeout.start now s.keepCableLockedLockDelayMs }
    else { s with captiveLockDelayElapsed := true }.checkConnectorLock
  else s.checkConnectorLock

def readPpAmpacity : Option ℚ :=
  if s.ppAmpacity = 0 then none else some s.ppAmpacity

def captiveLockDebounceReached : IECStateMachine :=
  if s.timeoutCaptiveLock.reached now then
    (if 0 < s.ppAmpacity then { s with captiveLockDelayElapsed := true } else s).checkConnectorLock
  else s

def enable (en : Bool) (s : IECStateMachine) : IECStateMachine :=
  { s with enabled := en }.emit (.bspEnable en)

def setOvercurrentLimit (amps : ℚ) (s : IECStateMachine) : IECStateMachine :=
  if amps ≠ s.lastAmps then { s.emit (.overcurrentLimit amps) with lastAmps := amps } else s

def connectorForceUnlock : IECStateMachine :=
  let s :=
    if s.keepCableLocked then
      { s with
        captiveUnlockWindow := if 0 < s.ppAmpacity then true else s.captiveUnlockWindow
        captiveLatched := false }
    else s
  let s := if s.relaisOn then s else { s.emit .unlock with isLocked := false }
  if s.lastCpState = .b ∨ s.lastCpState = .c then
    { s with forceUnlocked := true }.checkConnectorLock
  else s

def setAuthorized (a : Bool) (s : IECStateMachine) : IECStateMachine :=
  if s.useAuthorized then feedStateMachine now none { s with authorized := a } else s

def setKeepCableLocked (enabled : Bool) (s : IECStateMachine) : IECStateMachine :=
  if s.keepCableLocked = enabled then s
  else
    let s := { s with
      keepCableLocked := enabled
      captiveUnlockWindow := false
      captiveLatched := false
      captiveLockDelayElapsed := decide (0 < s.ppAmpacity) }
    let s := s.checkConnectorLock
    { s with timeoutCaptiveLock := s.timeoutCaptiveLock.stop }

def handle : Input → IECStateMachine
  | .bspEvent event => if s.enabled then processBspEvent now event s else s
  | .processBspEvent event => processBspEvent now event s
  | .timeoutStateC1 =>
    if s.timeoutStateC1.reached now then feedStateMachine now none s else s
  | .timeoutUnlockStateF =>
    if s.timeoutUnlockStateF.reached now then feedStateMachine now none s else s
  | .timeoutCaptiveLock => captiveLockDebounceReached now s
  | .allowPowerOn value reason => allowPowerOn now value reason s
  | .setPwm value => setPwm now value s
  | .setCpStateX1 => setCpStateX1 now s
  | .setCpStateE => setCpStateE now s
  | .setCpStateF => setCpStateF now s
  | .setPpAmpacity ampacity => setPpAmpacity now ampacity s
  | .setMaxPhases phases => { s with maxPhases := phases }
  | .setup hasVentilation => { s with hasVentilation := hasVentilation }
  | .enable en => enable en s
  | .setOvercurrentLimit amps => setOvercurrentLimit amps s
  | .switchThreePhasesWhileCharging n => s.emit (.switchThreePhases n)
  | .connectorForceUnlock => connectorForceUnlock s
  | .setAuthorized a => setAuthorized now a s
  | .setKeepCableLocked enabled => setKeepCableLocked enabled s
  | .setEvSimplifiedModeEvseLimit l => { s with evSimplifiedModeEvseLimit := l }

/-- One call at a time: the call is noted in the trace, then handled. -/
def step (i : ℤ × Input) : IECStateMachine :=
  handle i.1 { s with trace := .call i.2 :: s.trace } i.2

def run (config : IecConfig) (inputs : List (ℤ × Input)) : IECStateMachine :=
  Runs.run step (init config) inputs

end IECStateMachine

end Everest.Evse
