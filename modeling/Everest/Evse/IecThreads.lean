import Mathlib.Data.Fintype.Sum
import Everest.Evse.IecStateMachine

/- The control pilot state machine under concurrent callers. A call is a list of tasks: locked
sections, passes, and the starts and stops of timers that a section decides on and that are
carried out after it has released the mutex. Every timer has a mutex of its own and a wait
thread, which is joined under that mutex and whose callback runs tasks as well.

A step takes one mutex, makes one join, or finishes one task and releases its mutex. -/

namespace Everest.Evse
open IECStateMachine

inductive TimerId
  | stateC1 | unlockStateF | captiveLock
  deriving DecidableEq, Repr

instance : Fintype TimerId where
  elems := {.stateC1, .unlockStateF, .captiveLock}
  complete id := by cases id <;> decide

inductive ThreadId (n : ℕ)
  | caller (i : Fin n)
  | waiter (id : TimerId)
  deriving DecidableEq, Repr

instance (n : ℕ) : Fintype (ThreadId n) :=
  Fintype.ofEquiv (Fin n ⊕ TimerId)
    { toFun := fun a => a.elim .caller .waiter
      invFun := fun
        | .caller i => .inl i
        | .waiter id => .inr id
      left_inv := fun a => by cases a <;> rfl
      right_inv := fun a => by cases a <;> rfl }

inductive Mutex
  | stateMachine
  | timer (id : TimerId)
  deriving DecidableEq, Repr

inductive Task
  /-- The locked section of a call that is not a pass. -/
  | locked (input : Input)
  /-- A pass through the state machine, with the measured state if there is one. -/
  | pass (cpState : Option RawCPState)
  | control (id : TimerId) (action : TimerControl)
  /-- The captive lock timer is only touched if the mode is still on. -/
  | ifKept (action : TimerControl)
  | publish (cpState : Option RawCPState) (events : List CPEvent)
  deriving DecidableEq, Repr

def Task.mutex? : Task → Option Mutex
  | .locked _ => some .stateMachine
  | .pass _ => some .stateMachine
  | .control id _ => some (.timer id)
  | .ifKept _ => none
  | .publish _ _ => none

namespace IECStateMachine

variable (s : IECStateMachine)

def timer : TimerId → AsyncTimeout
  | .stateC1 => s.timeoutStateC1
  | .unlockStateF => s.timeoutUnlockStateF
  | .captiveLock => s.timeoutCaptiveLock

def setTimer (timer : AsyncTimeout) : TimerId → IECStateMachine
  | .stateC1 => { s with timeoutStateC1 := timer }
  | .unlockStateF => { s with timeoutUnlockStateF := timer }
  | .captiveLock => { s with timeoutCaptiveLock := timer }

def timerDuration : TimerId → ℤ
  | .stateC1 => powerOffUnderLoadInC1Timeout
  | .unlockStateF => unlockInStateFTimeout
  | .captiveLock => s.keepCableLockedLockDelayMs

/-- The timer whose `reached` a pass reads, under the mutex of that timer. -/
def queriedTimer (cpState : Option RawCPState) : Option TimerId :=
  match cpState.getD s.lastCpState with
  | .c => some .stateC1
  | .d => if s.hasVentilation then some .stateC1 else none
  | .f => some .unlockStateF
  | _ => none

def controlTask (id : TimerId) : TimerControl → List Task
  | .doNothing => []
  | .start => [.control id .start]
  | .stop => [.control id .stop]

/-- The locked section of a pass, and what it leaves to be done after it. -/
def lockedPass (now : ℤ) (cpState : Option RawCPState) (s : IECStateMachine) :
    IECStateMachine × List Task :=
  let cp := cpState.getD s.lastCpState
  let leavesF := decide (cp ≠ .f ∧ s.lastCpState = .f)
  let p := switchCpState now s cp
  let s := p.sm.checkConnectorLock
  ({ s with
      lastCpState := cp
      lastPwmRunning := s.pwmRunning
      lastPowerOnAllowed := s.powerOnAllowed },
    controlTask .stateC1 p.timerStateC1 ++
      controlTask .unlockStateF (if leavesF then .stop else p.timerUnlockStateF) ++
      [.publish cpState p.events])

def ppSection (ampacity : Ampacity) (s : IECStateMachine) : IECStateMachine × List Task :=
  let plugWasPresent := decide (0 < s.ppAmpacity)
  let s := { s with ppAmpacity := ampacityValue s.maxPhases ampacity }
  if !s.keepCableLocked then (s, [])
  else if s.ppAmpacity = 0 then
    ({ s with captiveUnlockWindow := false, captiveLockDelayElapsed := false }.checkConnectorLock,
      [.ifKept .stop])
  else if !plugWasPresent && !s.captiveLockDelayElapsed then
    if 0 < s.keepCableLockedLockDelayMs then (s.checkConnectorLock, [.ifKept .start])
    else ({ s with captiveLockDelayElapsed := true }.checkConnectorLock, [])
  else (s.checkConnectorLock, [])

/-- The locked sections of the other calls, with the driver calls made right after them. -/
def lockedSection : Input → IECStateMachine × List Task
  | .processBspEvent .powerOn => ({ s with relaisOn := true }.checkConnectorLock, [])
  | .processBspEvent .powerOff => ({ s with relaisOn := false }.checkConnectorLock, [])
  | .setCpStateX1 =>
    (({ s with pwmRunning := false, cpStateFRequested := false }.emit .cpStateX1).emit
      (.pwmDutyCycle 100), [])
  | .setCpStateF =>
    (({ s with pwmRunning := false, cpStateFRequested := true }.emit .cpStateF).emit
      (.pwmDutyCycle 100), [])
  | .setCpStateE =>
    (({ s with pwmRunning := false, stateETriggeredThroughHandle := true }.emit .cpStateE).emit
      (.pwmDutyCycle 100), [])
  | .setPwm value =>
    let s := { s with pwmRunning := true, cpStateFRequested := false }
    let duty : ℚ := s.limitedPwm value * 100
    ((s.emit (.pwmOn duty)).emit (.pwmDutyCycle duty), [])
  | .allowPowerOn value reason =>
    let s := { s with powerOnAllowed := value, powerOnReason := reason }
    (if value then s else s.callAllowPowerOnBsp false, [])
  | .setPpAmpacity ampacity => ppSection ampacity s
  | .timeoutCaptiveLock =>
    ((if 0 < s.ppAmpacity then { s with captiveLockDelayElapsed := true }
      else s).checkConnectorLock, [])
  | .connectorForceUnlock => (s.connectorForceUnlock, [])
  | .setKeepCableLocked enabled =>
    ({ s with
        keepCableLocked := enabled
        captiveUnlockWindow := false
        captiveLatched := false
        captiveLockDelayElapsed := decide (0 < s.ppAmpacity) }.checkConnectorLock,
      [.control .captiveLock .stop])
  | _ => (s, [])

end IECStateMachine

/-- What a task does once it has its mutex, and the tasks it decides on. -/
def Task.perform (now : ℤ) (s : IECStateMachine) : Task → IECStateMachine × List Task
  | .locked input => s.lockedSection input
  | .pass cpState => lockedPass now cpState s
  | .control id action =>
    (s.setTimer ((s.timer id).control now (s.timerDuration id) action) id, [])
  | .ifKept action => (s, if s.keepCableLocked then [.control .captiveLock action] else [])
  | .publish cpState events => (signalEvents events (signalRawCpState cpState s), [])

/-- The unlocked beginning of a call: what it writes at once, and its tasks. -/
def beginCall (s : IECStateMachine) : Input → IECStateMachine × List Task
  | .bspEvent event => (s, if s.enabled then eventTasks event else [])
  | .processBspEvent event => (s, eventTasks event)
  | .allowPowerOn value reason => (s, [.locked (.allowPowerOn value reason), .pass none])
  | .setPwm value =>
    if 1 ≤ value then (s, [.locked .setCpStateX1, .pass none])
    else if value ≤ 0 then (s, [.locked .setCpStateF, .pass none])
    else (s, [.locked (.setPwm value), .pass none])
  | .setCpStateX1 => (s, [.locked .setCpStateX1, .pass none])
  | .setCpStateE => (s, [.locked .setCpStateE, .pass none])
  | .setCpStateF => (s, [.locked .setCpStateF, .pass none])
  | .setPpAmpacity ampacity => (s, [.locked (.setPpAmpacity ampacity)])
  | .connectorForceUnlock => (s, [.locked .connectorForceUnlock])
  | .setAuthorized a =>
    if s.useAuthorized then ({ s with authorized := a }, [.pass none]) else (s, [])
  | .setKeepCableLocked enabled =>
    (s, if s.keepCableLocked = enabled then [] else [.locked (.setKeepCableLocked enabled)])
  | .setMaxPhases phases => ({ s with maxPhases := phases }, [])
  | .setup hasVentilation => ({ s with hasVentilation := hasVentilation }, [])
  | .enable en => (s.enable en, [])
  | .setOvercurrentLimit amps => (s.setOvercurrentLimit amps, [])
  | .switchThreePhasesWhileCharging phases => (s.emit (.switchThreePhases phases), [])
  | .setEvSimplifiedModeEvseLimit l => ({ s with evSimplifiedModeEvseLimit := l }, [])
  | .timeoutStateC1 => (s, [])
  | .timeoutUnlockStateF => (s, [])
  | .timeoutCaptiveLock => (s, [])
where
  /-- A raw state is run through the state machine, another event is passed on. -/
  eventTasks (event : BspEvent) : List Task :=
    match fromBspEvent event with
    | .inl cp => [.pass (some cp)]
    | .inr e => [.locked (.processBspEvent event), .publish none [e]]

def callback : TimerId → List Task
  | .stateC1 => [.pass none]
  | .unlockStateF => [.pass none]
  | .captiveLock => [.locked .timeoutCaptiveLock]

/-- How far a thread is with its first task: not begun, in it with its mutex, or in the join of
a wait thread, still with the mutex of the timer. -/
inductive Stage
  | free | entered | joining
  deriving DecidableEq, Repr

/-- A wait thread: not there, before the test of its exit signal, before the test whether the
timer is reached, in the callback, or terminated. -/
inductive Waiter
  | absent | atHead | asleep | busy | done
  deriving DecidableEq, Repr

structure IecSystem (n : ℕ) where
  clock : ℤ := 0
  sm : IECStateMachine
  todo : ThreadId n → List Task := fun _ => []
  stage : ThreadId n → Stage := fun _ => .free
  owner : Mutex → Option (ThreadId n) := fun _ => none
  waiter : TimerId → Waiter := fun _ => .absent
  exitSignal : TimerId → Bool := fun _ => false

inductive Move (n : ℕ)
  | call (i : Fin n) (input : Input)
  | run (thread : ThreadId n)
  deriving DecidableEq, Repr

namespace IecSystem

variable {n : ℕ}

def init (n : ℕ) (config : IecConfig) : IecSystem n where
  sm := IECStateMachine.init config

variable (σ : IecSystem n) (a : ThreadId n) (id : TimerId)

def enter (m : Mutex) : IecSystem n :=
  { σ with
    stage := Function.update σ.stage a .entered
    owner := Function.update σ.owner m (some a) }

def release (owner : Mutex → Option (ThreadId n)) : Option Mutex → Mutex → Option (ThreadId n)
  | none => owner
  | some m => Function.update owner m none

def started (waiter : TimerId → Waiter) : Task → TimerId → Waiter
  | .control id .start => Function.update waiter id .atHead
  | _ => waiter

def complete (task : Task) (rest : List Task) : IecSystem n :=
  let r := task.perform σ.clock σ.sm
  { σ with
    sm := r.1
    todo := Function.update σ.todo a (r.2 ++ rest)
    stage := Function.update σ.stage a .free
    owner := release σ.owner task.mutex?
    waiter := started σ.waiter task }

/-- `Thread::stop` up to its join. -/
def beginJoin : IecSystem n :=
  { σ with
    stage := Function.update σ.stage a .joining
    exitSignal := Function.update σ.exitSignal id true }

def joined : IecSystem n :=
  { σ with
    sm := σ.sm.setTimer (σ.sm.timer id).stop id
    stage := Function.update σ.stage a .entered
    waiter := Function.update σ.waiter id .absent
    exitSignal := Function.update σ.exitSignal id false }

/-- A pass waits for the mutex of the timer it reads. -/
def held : Task → Bool
  | .pass cpState =>
    match σ.sm.queriedTimer cpState with
    | some id => (σ.owner (.timer id)).isSome
    | none => false
  | _ => false

def joins : Task → Option TimerId
  | .control id _ => if (σ.sm.timer id).running then some id else none
  | _ => none

def advance : IecSystem n :=
  match σ.todo a with
  | [] => σ
  | task :: rest =>
    match σ.stage a, task.mutex? with
    | .free, none => σ.complete a task rest
    | .free, some m => if (σ.owner m).isSome then σ else σ.enter a m
    | .entered, _ =>
      match σ.joins task with
      | some id => σ.beginJoin a id
      | none => if σ.held task then σ else σ.complete a task rest
    | .joining, _ =>
      match σ.joins task with
      | some id => if σ.waiter id = .done then σ.joined a id else σ
      | none => σ

def setWaiter (w : Waiter) : IecSystem n :=
  { σ with waiter := Function.update σ.waiter id w }

def expire : IecSystem n :=
  { σ.setWaiter id .busy with todo := Function.update σ.todo (.waiter id) (callback id) }

/-- The loop of a wait thread. Once asleep it tests the timer, whatever its exit signal. -/
def waitLoop : IecSystem n :=
  match σ.waiter id with
  | .absent => σ
  | .atHead => σ.setWaiter id (if σ.exitSignal id then .done else .asleep)
  | .asleep =>
    if (σ.sm.timer id).reached σ.clock then σ.expire id else σ.setWaiter id .atHead
  | .busy =>
    if σ.todo (.waiter id) = [] then σ.setWaiter id .done else σ.advance (.waiter id)
  | .done => σ

def call (σ : IecSystem n) (i : Fin n) (input : Input) : IecSystem n :=
  if σ.todo (.caller i) = [] then
    let r := beginCall { σ.sm with trace := .call input :: σ.sm.trace } input
    { σ with sm := r.1, todo := Function.update σ.todo (.caller i) r.2 }
  else σ

def act : Move n → IecSystem n
  | .call i input => σ.call i input
  | .run (.caller i) => σ.advance (.caller i)
  | .run (.waiter id) => σ.waitLoop id

def tick (elapsed : ℕ) : IecSystem n := { σ with clock := σ.clock + elapsed }

/-- Some time passes on the steady clock, then one thread moves. -/
def step (i : ℕ × Move n) : IecSystem n := (σ.tick i.1).act i.2

end IecSystem

end Everest.Evse
