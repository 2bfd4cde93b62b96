import Mathlib.Data.Rat.Floor

/- The over-voltage watchdog of the EVSE manager with the threads that use it. A call is the
list of its accesses: one flag, one limit, or one section under the timer mutex at a time. Any
number of calls may be in progress, next to the thread of the error timer. -/

namespace Everest.Evse

inductive FaultType
  | error
  | emergency
  deriving DecidableEq, Repr

structure OverVoltageMonitor where
  running : Bool := false
  limitsValid : Bool := false
  faultLatched : Bool := false
  emergencyLimit : WithTop ℚ := ⊤
  errorLimit : WithTop ℚ := ⊤
  timerVoltageSnapshot : ℚ := 0
  timerDeadline : ℕ := 0
  timerArmed : Bool := false
  deriving DecidableEq

namespace OverVoltageMonitor

inductive Call
  | setLimits (emergencyLimit errorLimit : ℚ)
  | startMonitor
  | stopMonitor
  | reset
  | updateVoltage (voltage : ℚ)
  deriving DecidableEq

inductive Access
  | writeEmergencyLimit (limit : ℚ)
  | writeErrorLimit (limit : ℚ)
  | writeLimitsValid
  | writeFaultLatched (value : Bool)
  | writeRunning (value : Bool)
  | readRunning
  | readFaultLatched
  | readLimitsValid
  | compareEmergencyLimit (voltage : ℚ)
  | compareErrorLimit (voltage : ℚ)
  | cancelErrorTimer
  | armErrorTimer (voltage : ℚ)
  | describe (type : FaultType) (voltage : ℚ)
  | errorCallback (type : FaultType) (reason : String)
  deriving DecidableEq

/-- The accesses of a call up to its first branch. -/
def Call.accesses : Call → List Access
  | .setLimits emergencyLimit errorLimit =>
    [.writeEmergencyLimit emergencyLimit, .writeErrorLimit errorLimit, .writeLimitsValid]
  | .startMonitor => [.writeFaultLatched false, .cancelErrorTimer, .writeRunning true]
  | .stopMonitor => [.writeRunning false, .cancelErrorTimer]
  | .reset => [.writeFaultLatched false, .cancelErrorTimer]
  | .updateVoltage voltage =>
    [.readRunning, .readFaultLatched, .readLimitsValid, .compareEmergencyLimit voltage]

def triggerFault (type : FaultType) (reason : String) : List Access :=
  [.writeFaultLatched true, .writeRunning false, .cancelErrorTimer, .errorCallback type reason]

/-- Two digits after the point, ties to even. -/
def formatFixed2 (x : ℚ) : String :=
  let scaled := |x| * 100
  let low := ⌊scaled⌋.toNat
  let rest := scaled - low
  let n := if 1 / 2 < rest ∨ rest = 1 / 2 ∧ low % 2 = 1 then low + 1 else low
  let digits := toString (n % 100)
  (if x < 0 then "-" else "") ++ toString (n / 100) ++ "." ++
    (if n % 100 < 10 then "0" ++ digits else digits)

def formatLimit : WithTop ℚ → String
  | ⊤ => "inf"
  | (limit : ℚ) => formatFixed2 limit

def reason (duration : ℕ) (m : OverVoltageMonitor) (voltage : ℚ) : FaultType → String
  | .emergency => "Voltage " ++ formatFixed2 voltage ++ " V exceeded emergency limit " ++
      formatLimit m.emergencyLimit ++ " V."
  | .error => "Voltage " ++ formatFixed2 voltage ++ " V exceeded limit " ++
      formatLimit m.errorLimit ++ " V for at least " ++ toString duration ++ " ms."

/-- Milliseconds on the steady clock, which counts nanoseconds. -/
def onClock (duration : ℕ) : ℕ := duration * 1000000

def perform (duration now : ℕ) (m : OverVoltageMonitor) (rest : List Access) :
    Access → OverVoltageMonitor × List Access
  | .writeEmergencyLimit limit => ({ m with emergencyLimit := limit }, rest)
  | .writeErrorLimit limit => ({ m with errorLimit := limit }, rest)
  | .writeLimitsValid => ({ m with limitsValid := true }, rest)
  | .writeFaultLatched value => ({ m with faultLatched := value }, rest)
  | .writeRunning value => ({ m with running := value }, rest)
  | .readRunning => (m, if m.running then rest else [])
  | .readFaultLatched => (m, if m.faultLatched then [] else rest)
  | .readLimitsValid => (m, if m.limitsValid then rest else [])
  | .compareEmergencyLimit voltage =>
    (m, if m.emergencyLimit ≤ voltage then [.cancelErrorTimer, .describe .emergency voltage]
      else [.compareErrorLimit voltage])
  | .compareErrorLimit voltage =>
    (m, if m.errorLimit ≤ voltage then [.armErrorTimer voltage] else [.cancelErrorTimer])
  | .cancelErrorTimer => ({ m with timerArmed := false }, rest)
  | .armErrorTimer voltage =>
    if duration = 0 then (m, [.describe .error voltage])
    else if m.timerArmed then
      ({ m with timerVoltageSnapshot := max m.timerVoltageSnapshot voltage }, rest)
    else
      ({ m with
          timerArmed := true
          timerVoltageSnapshot := voltage
          timerDeadline := now + onClock duration }, rest)
  | .describe type voltage => (m, triggerFault type (m.reason duration voltage type))
  | .errorCallback _ _ => (m, rest)

/-- Where the timer thread stands: before a timer is armed, in the wait for a deadline, or,
with the mutex released, in the report of an expired timer. -/
inductive TimerThread
  | waiting
  | sleeping (deadline : ℕ)
  | reporting (todo : List Access)
  deriving DecidableEq

def TimerThread.todo : TimerThread → List Access
  | .reporting todo => todo
  | _ => []

structure Activity where
  call : Call
  todo : List Access
  deriving DecidableEq

/-- A call is noted with the error limit and the time it came at. -/
inductive Mark
  | called (call : Call) (errorLimit : WithTop ℚ) (time : ℕ)
  | returned (call : Call)
  | fault (type : FaultType) (reason : String) (time : ℕ)
  deriving DecidableEq

structure Threads where
  monitor : OverVoltageMonitor := {}
  calls : List Activity := []
  timer : TimerThread := .waiting
  now : ℕ := 0
  log : List Mark := []

/-- `proceed i` is one access of the call at position `i`, or its return. `wake` is a turn of
the timer thread; a wait for a deadline ends with or without a timeout. -/
inductive Move
  | elapse (nanoseconds : ℕ)
  | call (call : Call)
  | proceed (i : ℕ)
  | wake (timeout : Bool)
  deriving DecidableEq

namespace Threads

def noted (now : ℕ) (log : List Mark) : Access → List Mark
  | .errorCallback type reason => .fault type reason now :: log
  | _ => log

variable (duration : ℕ) (σ : Threads)

def awaitTimer : Threads :=
  { σ with timer := if σ.monitor.timerArmed then .sleeping σ.monitor.timerDeadline else .waiting }

/-- The armed timer has expired: it is disarmed under the mutex and reported without it. -/
def expire : Threads :=
  { σ with
    monitor := { σ.monitor with timerArmed := false }
    timer := .reporting [.describe .error σ.monitor.timerVoltageSnapshot] }

/-- The wait for `deadline` times out while the timer is still armed with it. -/
def expires (timeout : Bool) (deadline : ℕ) : Bool :=
  timeout && decide (deadline ≤ σ.now) && σ.monitor.timerArmed &&
    decide (σ.monitor.timerDeadline = deadline)

def timerStep (timeout : Bool) : Threads :=
  match σ.timer with
  | .waiting => σ.awaitTimer
  | .sleeping deadline => if σ.expires timeout deadline then σ.expire else σ.awaitTimer
  | .reporting [] => σ.awaitTimer
  | .reporting (a :: rest) =>
    let r := σ.monitor.perform duration σ.now rest a
    { σ with monitor := r.1, timer := .reporting r.2, log := noted σ.now σ.log a }

def proceed (i : ℕ) : Threads :=
  match σ.calls[i]? with
  | none => σ
  | some ⟨call, []⟩ =>
    { σ with calls := σ.calls.eraseIdx i, log := .returned call :: σ.log }
  | some ⟨call, a :: rest⟩ =>
    let r := σ.monitor.perform duration σ.now rest a
    { σ with
      monitor := r.1
      calls := σ.calls.set i ⟨call, r.2⟩
      log := noted σ.now σ.log a }

def step : Move → Threads
  | .elapse nanoseconds => { σ with now := σ.now + nanoseconds }
  | .call call =>
    { σ with
      calls := σ.calls ++ [⟨call, call.accesses⟩]
      log := .called call σ.monitor.errorLimit σ.now :: σ.log }
  | .proceed i => σ.proceed duration i
  | .wake timeout => σ.timerStep duration timeout

end Threads

end OverVoltageMonitor

end Everest.Evse
