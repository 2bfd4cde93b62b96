import Everest.Lib.Clock
import Everest.Lib.Timeline
import Mathlib.Algebra.Order.Ring.Rat

/- The use case "limitation of power consumption": the handler that follows the heartbeats and
limits of an energy guard and publishes the limit of its state. Times are in nanoseconds. -/

namespace Everest.Eebus

def heartbeatTimeout : ℤ := seconds 120
def lpcInitTimeout : ℤ := seconds 120
def lpcRecoveryTimeout : ℤ := seconds 120
def lpcDefaultFailsafeDuration : ℤ := seconds 7200
def lpcVendorConfigMin : ℤ := seconds 7200
def lpcCsMaximum : ℤ := seconds 86400

structure LoadLimit where
  value : ℚ := 0
  isActive : Bool := false
  duration : ℤ := 0
  deleteDuration : Bool := false

/-- An entry caps the leaves and the root alike. -/
structure ScheduleReqEntry where
  timestamp : ℤ
  totalPower : Option ℚ
  deriving DecidableEq

/-- The time stamps are texts that end with the milliseconds. -/
def translateToExternalLimits (now : ℤ) (limit : LoadLimit) : List ScheduleReqEntry :=
  if limit.isActive then
    ⟨rereadTime now, some limit.value⟩ ::
      if 0 < limit.duration then [⟨rereadTime (now + limit.duration), none⟩] else []
  else [⟨rereadTime now, none⟩]

def limitAt (schedule : List ScheduleReqEntry) (t : ℤ) : Option ℚ :=
  (Timeline.inForce ScheduleReqEntry.timestamp schedule t).bind (·.totalPower)

inductive State
  | init
  | unlimitedControlled
  | limited
  | failsafe
  | unlimitedAutonomous
  deriving DecidableEq

inductive UseCaseEvent
  | dataUpdateHeartbeat
  | dataUpdateLimit (read : Option LoadLimit)
  | dataUpdateFailsafeDurationMinimum (read : Option ℤ)
  /-- The value that the energy guard wrote, and whether reading it succeeds. -/
  | dataUpdateFailsafeConsumptionActivePowerLimit (written : ℚ) (ok : Bool)
  | writeApprovalRequired
  | useCaseSupportUpdate
  | unknown

def UseCaseEvent.isDataEvent : UseCaseEvent → Bool
  | useCaseSupportUpdate | unknown => false
  | _ => true

/-- Where the source has `TP::min()` for a time that was not set, this has `none`. -/
structure LpcUseCaseHandler (Ski : Type) where
  /-- The reading of `m_clock_fn`. -/
  clock : ℤ
  failsafeControlLimit : ℚ
  /-- The last valid failsafe limit that the energy guard wrote; nothing here reads it. -/
  writtenFailsafeLimit : ℚ
  state : State := .init
  stateChanged : Bool := false
  limitValueChanged : Bool := false
  currentLimit : Option LoadLimit := none
  activeEmsSki : Option Ski := none
  /-- Set by `start`, before it is read. -/
  lastHeartbeat : ℤ := 0
  initTimestamp : Option ℤ := none
  /-- Set on entry to the failsafe state, the only one that reads it. -/
  failsafeEntry : ℤ := 0
  firstHeartbeat : Option ℤ := none
  lastLimitReceived : Option ℤ := none
  failsafeDuration : ℤ := lpcDefaultFailsafeDuration
  /-- The schedules given to `update_limits_callback`, the last one first. -/
  published : List (List ScheduleReqEntry) := []

namespace LpcUseCaseHandler

variable {Ski : Type}

def create (clock : ℤ) (failsafeControlLimit : ℚ) : LpcUseCaseHandler Ski :=
  { clock, failsafeControlLimit, writtenFailsafeLimit := failsafeControlLimit }

variable (h : LpcUseCaseHandler Ski)

def failsafeLimit : LoadLimit :=
  { value := h.failsafeControlLimit, isActive := true }

/-- The limit that `apply_limit_for_current_state` translates. -/
def limitForCurrentState : LoadLimit :=
  match h.state with
  | .init | .failsafe => h.failsafeLimit
  | .limited => h.currentLimit.getD h.failsafeLimit
  | .unlimitedControlled | .unlimitedAutonomous => {}

def applyLimitForCurrentState : LpcUseCaseHandler Ski :=
  { h with
    published := translateToExternalLimits h.clock h.limitForCurrentState :: h.published }

def start : LpcUseCaseHandler Ski :=
  applyLimitForCurrentState { h with initTimestamp := some h.clock, lastHeartbeat := h.clock }

def setState (newState : State) : LpcUseCaseHandler Ski :=
  if h.state = newState then h
  else
    let h := { h with state := newState, stateChanged := true }
    let h := if newState = .failsafe then
      { h with failsafeEntry := h.clock, firstHeartbeat := none } else h
    if newState = .failsafe ∨ newState = .unlimitedAutonomous then
      { h with currentLimit := none, lastLimitReceived := none, activeEmsSki := none }
    else h

def heartbeatHasTimeout : Bool := heartbeatTimeout < h.clock - h.lastHeartbeat

def limitIsActive : Bool := h.currentLimit.any (·.isActive)

def limitIsDeactivated : Bool := h.currentLimit.any (!·.isActive)

def limitExpired : Bool :=
  h.currentLimit.any fun limit => !limit.deleteDuration && limit.duration != 0 &&
    h.lastLimitReceived.all (· + limit.duration ≤ h.clock)

def handleInitState (initTimestamp : ℤ) (limitIsActive limitIsDeactivated : Bool) :
    LpcUseCaseHandler Ski :=
  if lpcInitTimeout < h.clock - initTimestamp then h.setState .unlimitedAutonomous
  else if limitIsActive then h.setState .limited
  else if limitIsDeactivated then h.setState .unlimitedControlled
  else h

def handleLimitedState (limitIsDeactivated limitExpired : Bool) : LpcUseCaseHandler Ski :=
  if h.heartbeatHasTimeout then h.setState .failsafe
  else if limitIsDeactivated || limitExpired then h.setState .unlimitedControlled
  else h

def handleUnlimitedControlledState (limitIsActive : Bool) : LpcUseCaseHandler Ski :=
  if h.heartbeatHasTimeout then h.setState .failsafe
  else if limitIsActive then h.setState .limited
  else h

def handleUnlimitedAutonomousState (limitIsActive limitIsDeactivated : Bool) :
    LpcUseCaseHandler Ski :=
  if h.heartbeatHasTimeout then h
  else if limitIsDeactivated then h.setState .unlimitedControlled
  else if limitIsActive then h.setState .limited
  else h

def failsafeOver : Bool := h.failsafeEntry + h.failsafeDuration ≤ h.clock

def recoveryOver : Bool := h.firstHeartbeat.any (· + lpcRecoveryTimeout ≤ h.clock)

def limitSinceFailsafe : Bool := h.lastLimitReceived.any (h.failsafeEntry ≤ ·)

def handleFailsafeState (limitIsActive : Bool) : LpcUseCaseHandler Ski :=
  if h.failsafeOver || h.recoveryOver then h.setState .unlimitedAutonomous
  else if h.heartbeatHasTimeout then h
  else if h.limitSinceFailsafe then
    h.setState (if limitIsActive then .limited else .unlimitedControlled)
  else { h with firstHeartbeat := some (h.firstHeartbeat.getD h.lastHeartbeat) }

def dropExpired : LpcUseCaseHandler Ski :=
  if h.limitExpired then { h with currentLimit := none } else h

/-- The state handlers see the flags of the limit from before an expired one is dropped. -/
def transition (initTimestamp : ℤ) : LpcUseCaseHandler Ski :=
  match h.state with
  | .init => h.dropExpired.handleInitState initTimestamp h.limitIsActive h.limitIsDeactivated
  | .limited => h.dropExpired.handleLimitedState h.limitIsDeactivated h.limitExpired
  | .unlimitedControlled => h.dropExpired.handleUnlimitedControlledState h.limitIsActive
  | .unlimitedAutonomous =>
    h.dropExpired.handleUnlimitedAutonomousState h.limitIsActive h.limitIsDeactivated
  | .failsafe => h.dropExpired.handleFailsafeState h.limitIsActive

def publishChanges : LpcUseCaseHandler Ski :=
  if h.stateChanged || h.limitValueChanged then
    applyLimitForCurrentState { h with stateChanged := false, limitValueChanged := false }
  else h

def runStateMachine : LpcUseCaseHandler Ski :=
  match h.initTimestamp with
  | none => h
  | some initTimestamp => (h.transition initTimestamp).publishChanges

def processReceivedLimit (limit : LoadLimit) : LpcUseCaseHandler Ski :=
  runStateMachine { h with
    currentLimit := some limit, lastLimitReceived := some h.clock, limitValueChanged := true }

def failsafeDurationIsValid (duration : ℤ) : Bool :=
  lpcVendorConfigMin ≤ duration && duration ≤ lpcCsMaximum

def failsafeLimitIsValid (watts : ℚ) : Bool := 0 ≤ watts

/-- The handler of an event. Answering pending writes and pushing the configuration again change
nothing here. -/
def handler : UseCaseEvent → LpcUseCaseHandler Ski
  | .dataUpdateHeartbeat => { h with lastHeartbeat := h.clock }
  | .dataUpdateLimit (some limit) => h.processReceivedLimit limit
  | .dataUpdateFailsafeDurationMinimum (some duration) =>
    if failsafeDurationIsValid duration then { h with failsafeDuration := duration } else h
  | .dataUpdateFailsafeConsumptionActivePowerLimit written ok =>
    if failsafeLimitIsValid written then
      { h with
        writtenFailsafeLimit := written
        failsafeControlLimit := if ok then written else h.failsafeControlLimit }
    else h
  | _ => h

variable (ski : Ski) (event : UseCaseEvent)

/-- The first data event decides whose events count. -/
def connect : LpcUseCaseHandler Ski :=
  if h.activeEmsSki = none ∧ event.isDataEvent then { h with activeEmsSki := some ski } else h

lemma connect_eq : ∃ k, h.connect ski event = { h with activeEmsSki := k } := by
  unfold connect
  split_ifs
  · exact ⟨some ski, rfl⟩
  · exact ⟨h.activeEmsSki, rfl⟩

variable [DecidableEq Ski]

def ignores : Bool := (h.connect ski event).activeEmsSki.any (· ≠ ski)

def handleEvent : LpcUseCaseHandler Ski :=
  if h.ignores ski event then h.connect ski event
  else ((h.connect ski event).handler event).runStateMachine

end LpcUseCaseHandler

end Everest.Eebus
