import Mathlib.Data.List.Sort
import Mathlib.Data.Rat.Defs
import Everest.Lib.Runs

/- What the ISO 15118 engines share: the signals and control events, the timeouts of
`d20/timeout.cpp`, and the exchange of one request and one staged response. Durations and
points of time are in milliseconds. -/

namespace Everest.Iso15118

inductive Signal where
  | requireAuthEim | startCableCheck | setupFinished | preChargeStarted | chargeLoopStarted
  | chargeLoopFinished | dcOpenContactor | dcRenegotiationStarted | acCloseContactor
  | acOpenContactor | dlinkTerminate | dlinkError | dlinkPause | pauseNotified
  deriving DecidableEq, Repr

inductive SessionStopAction where
  | terminate | pause | failedTermination
  deriving DecidableEq, Repr

inductive CpState where
  | a | b | c | d | e | f
  deriving DecidableEq, Repr

inductive NoEnergyPauseMode where
  | none | beforeCableCheck | afterCableCheckPreCharge | allowEvToIgnorePause
  deriving DecidableEq, Repr

inductive EvseErrorCode where
  | none | contactor | rcd | utilityInterruptEvent | malfunction | emergencyShutdown
  deriving DecidableEq, Repr

inductive CertificateStatus where
  | accepted | signatureError | certificateExpired | certificateRevoked | noCertificateAvailable
  | certChainError | contractCancelled
  deriving DecidableEq, Repr

structure DcTransferLimits where
  maxPower : ℚ
  maxCurrent : ℚ
  maxVoltage : ℚ
  minCurrent : ℚ
  minVoltage : ℚ
  deriving DecidableEq, Repr

/-- A certificate response of the backend as the EXI decoder reads it: its size (0 if there is
nothing to decode), whether it answers an update or an installation if it is one of the two, and
whether its code is a `FAILED_*`. -/
structure RawResponse where
  size : ℕ
  update : Option Bool
  failed : Bool
  deriving DecidableEq, Repr

inductive ControlEvent where
  | cableCheckFinished (success : Bool)
  | presentVoltageCurrent
  | meterInfo
  | authorizationResponse (authorized : Bool) (status : CertificateStatus) (tokenUnknown : Bool)
  | stopCharging (stop : Bool)
  | pauseCharging (pause : Bool)
  | dcTransferLimits (limits : DcTransferLimits)
  | acTransferLimits (maxPower : ℚ)
  | updateDynamicModeParameters
  | closedContactor (closed : Bool)
  | acTargetPower
  | acPresentPower
  | energyServices
  | supportedVASs
  | certificateResponse (accepted : Bool) (raw : RawResponse)
  | evseError (code : EvseErrorCode)
  | cpStateChanged (state : CpState)
  | updateAcMaxCurrent
  | physicalValues (acNominalVoltage : Option ℚ)
  | noEnergyPause (mode : NoEnergyPauseMode)
  | updateIsolationStatus
  | updatePowersupplyLimits (limits : DcTransferLimits)
  | derSaeSetupConfig
  deriving DecidableEq, Repr

inductive TimeoutType where
  | sequence | performance | ongoing | contactor | cpState | stopCharging | emergencyShutdown
  deriving DecidableEq, Repr

def Timeouts : Type := TimeoutType → Option ℕ

namespace Timeouts

def none : Timeouts := fun _ => .none

variable (t : Timeouts) (type : TimeoutType)

def set (point : Option ℕ) : Timeouts :=
  fun type' => if type' = type then point else t type'

/-- A timeout that is already started keeps its point of time. -/
def startTimeout (now ms : ℕ) : Timeouts :=
  if (t type).isSome then t else t.set type (some (now + ms))

def stopTimeout : Timeouts := t.set type .none

def resetTimeout : Timeouts := t.set type .none

def types : List TimeoutType :=
  [.sequence, .performance, .ongoing, .contactor, .cpState, .stopCharging, .emergencyShutdown]

def check (now : ℕ) : List TimeoutType :=
  let reached := types.filterMap fun type => (t type).bind fun point =>
    if point ≤ now then some (point, type) else .none
  (reached.insertionSort fun a b => a.1 ≤ b.1).map Prod.snd

end Timeouts

/-- What an engine takes in and gives out, in the order in which it happens. -/
inductive Mark (Req Res : Type) where
  | request (req : Req)
  | event (event : ControlEvent)
  | timeout (type : TimeoutType)
  | signal (signal : Signal)
  | respond (res : Res)
  | requireAuthPnc
  | certificateRequest
  deriving DecidableEq, Repr

/-- The parts of an engine that the session around it reads: the staged response, the flags that
end the session, its timeouts, and the log of what happened, the newest first. -/
structure Exchange (Req Res : Type) where
  now : ℕ
  timeouts : Timeouts
  response : Option Res := none
  sessionStopped : Bool := false
  sessionPaused : Bool := false
  sessionEndedWithError : Bool := false
  sessionStopResPending : Option SessionStopAction := none
  log : List (Mark Req Res) := []

end Everest.Iso15118
