import Mathlib.Algebra.Ring.Nat
import Mathlib.Data.Prod.Lex
import Mathlib.Data.String.Basic
import Everest.Lib.SortedMap
import Everest.Evse.Charger.Commands

/- `ErrorHandling` of EvseManager watches the errors of the EVSE itself and of nine requirements,
raises `evse_manager/Inoperative` while one of them prevents charging, and tells the charger to
shut down. Errors are raised and cleared at the sources at any time; `process_error` runs later
and sees what is active then. The order in which a source lists its errors is the order of their
random ids, so a raised error may come in at any position. -/

namespace Everest.Evse

inductive Severity
  | low | medium | high
  deriving DecidableEq, Repr

structure Error where
  type : String
  subType : String := ""
  message : String := ""
  description : String := ""
  severity : Severity := .low
  vendorId : String := ""
  deriving DecidableEq, Repr

inductive ErrorSource
  | evse | bsp | connectorLock | acRcd | imd | powersupply | powermeter | slac | hlc
  | overVoltageMonitor
  deriving DecidableEq, Repr

/-- Which requirements are connected; the board support and the EVSE itself always are. -/
structure ErrorHandlingConfig where
  connected : ErrorSource → Bool
  inoperativeErrorUseVendorId : Bool
  evse_connected : connected .evse = true
  bsp_connected : connected .bsp = true

def inoperative : String := "evse_manager/Inoperative"

def ignoreErrors : ErrorSource → List String
  | .evse => [inoperative]
  | .bsp =>
    ["evse_board_support/MREC3HighTemperature", "evse_board_support/MREC18CableOverTempDerate",
      "evse_board_support/VendorWarning", "ac_rcd/VendorWarning"]
  | .connectorLock => ["connector_lock/VendorWarning"]
  | .acRcd => ["ac_rcd/VendorWarning"]
  | .imd => ["isolation_monitor/VendorWarning"]
  | .powersupply => ["power_supply_DC/VendorWarning"]
  | .powermeter => ["powermeter/VendorWarning"]
  | .slac => ["generic/VendorWarning"]
  | .hlc => ["generic/VendorWarning"]
  | .overVoltageMonitor => ["over_voltage_monitor/VendorWarning"]

variable (errors : List Error) (e : Error) (cfg : ErrorHandlingConfig)

def isErrorActive (type subType : String) : Bool :=
  errors.any fun e => e.type == type && e.subType == subType

def raiseError (error : Error) (position : ℕ) (errors : List Error) : List Error :=
  if isErrorActive errors error.type error.subType then errors
  else errors.take position ++ error :: errors.drop position

def clearError (type subType : String) (errors : List Error) : List Error :=
  errors.filter fun e => !(e.type == type && e.subType == subType)

/-- A `std::set` of errors in the order of type and sub-type, which are all it compares. -/
abbrev InoperativeCauses := SortedMap (String ×ₗ String) Error

def Error.cause : String ×ₗ String := toLex (e.type, e.subType)

/-- A `std::set` does not replace an element that is equivalent. -/
def InoperativeCauses.insert (causes : InoperativeCauses) (e : Error) : InoperativeCauses :=
  if causes.contains e.cause then causes else SortedMap.insert causes e.cause e

def InoperativeCauses.ofList : InoperativeCauses :=
  errors.foldl InoperativeCauses.insert ∅

def InoperativeCauses.toList (causes : InoperativeCauses) : List Error :=
  causes.entries.map (·.2)

def sameCauses (a b : InoperativeCauses) : Bool := a.keys = b.keys

def isEmergency : Bool := errors.any fun e => e.severity = .high

/-- The text after the first slash of the type, with the sub-type. -/
def generateDescription : String :=
  match e.type.toList.span (· ≠ '/') with
  | (_, []) => e.description
  | (before, _ :: after) =>
    let result :=
      if after = [] then before
      else if after.getLast? = some '/' then after.dropLast
      else after
    String.ofList result ++ if e.subType = "" then "" else "/" ++ e.subType

def inoperativeError (primary : Error) (others : List Error) : Error where
  type := inoperative
  message := primary.type
  description :=
    others.foldl (fun d e => d ++ ", " ++ generateDescription e) (generateDescription primary)
  severity := .high
  vendorId :=
    if cfg.inoperativeErrorUseVendorId ∧ primary.vendorId ≠ "" then primary.vendorId else "EVerest"

structure ErrorHandling where
  active : ErrorSource → List Error := fun _ => []
  inoperativeCauses : InoperativeCauses := ∅
  /-- What the charger was told, newest first. -/
  signals : List ErrorHandlingEvents := []

namespace ErrorHandling

variable (cfg : ErrorHandlingConfig) (s : ErrorHandling)

def getActiveErrors (source : ErrorSource) : List Error :=
  if cfg.connected source then s.active source else []

def sources : List ErrorSource :=
  [.evse, .bsp, .connectorLock, .acRcd, .imd, .powersupply, .powermeter, .slac, .hlc,
    .overVoltageMonitor]

def errorsPreventCharging : List Error :=
  sources.flatMap fun source =>
    (s.getActiveErrors cfg source).filter fun e => e.type ∉ ignoreErrors source

def signalError (event : ErrorHandlingEvents) (s : ErrorHandling) : ErrorHandling :=
  { s with signals := event :: s.signals }

def modifyEvse (f : List Error → List Error) (s : ErrorHandling) : ErrorHandling :=
  { s with active := Function.update s.active .evse (f (s.active .evse)) }

def isInoperative : Bool := isErrorActive (s.active .evse) inoperative ""

def raiseInoperativeError (causes : List Error) (s : ErrorHandling) : ErrorHandling :=
  match causes with
  | [] => s
  | primary :: others =>
    let current := InoperativeCauses.ofList causes
    let alreadyRaised := s.isInoperative
    if alreadyRaised && sameCauses current s.inoperativeCauses then s
    else
      let wasEmergency := isEmergency s.inoperativeCauses.toList
      let s := if alreadyRaised then s.modifyEvse (clearError inoperative "") else s
      let s := s.modifyEvse (raiseError (inoperativeError cfg primary others) 0)
      let s := { s with inoperativeCauses := current }
      let emergency := isEmergency causes
      if !alreadyRaised || emergency != wasEmergency then
        s.signalError (if emergency then .forceEmergencyShutdown else .forceErrorShutdown)
      else s

def clearInoperativeError : ErrorHandling :=
  if s.isInoperative then
    let s := s.modifyEvse (clearError inoperative "")
    { s with inoperativeCauses := ∅ }.signalError .allErrorsPreventingChargingCleared
  else s

def countedSources : List ErrorSource :=
  [.evse, .bsp, .connectorLock, .acRcd, .imd, .powersupply, .powermeter, .slac, .hlc]

def errorCount : ℕ :=
  (countedSources.map fun source => (s.getActiveErrors cfg source).length).sum

def updateInoperative : ErrorHandling :=
  let fatal := s.errorsPreventCharging cfg
  if fatal ≠ [] then s.raiseInoperativeError cfg fatal else s.clearInoperativeError

def processError : ErrorHandling :=
  let s := s.updateInoperative cfg
  if s.errorCount cfg = 0 then s.signalError .allErrorCleared else s

end ErrorHandling

inductive ErrorInput
  | raise (source : ErrorSource) (error : Error) (position : ℕ)
  | clear (source : ErrorSource) (type subType : String)
  | processError
  deriving DecidableEq, Repr

/-- `process_error` alone raises and clears `evse_manager/Inoperative`. -/
def ownError (source : ErrorSource) (type : String) : Bool :=
  source = .evse && type == inoperative

def ErrorHandling.step (s : ErrorHandling) (input : ErrorInput) : ErrorHandling :=
  match input with
  | .raise source error position =>
    if ownError source error.type then s
    else { s with
      active := Function.update s.active source (raiseError error position (s.active source)) }
  | .clear source type subType =>
    if ownError source type then s
    else { s with
      active := Function.update s.active source (clearError type subType (s.active source)) }
  | .processError => s.processError cfg

structure ErrorSystem where
  handling : ErrorHandling := {}
  /-- Oldest first. -/
  pending : List ErrorHandlingEvents := []
  charger : Charger

inductive SystemInput
  | errors (input : ErrorInput)
  | errorThread
  deriving DecidableEq, Repr

def newSignals (before after : List ErrorHandlingEvents) : List ErrorHandlingEvents :=
  (after.take (after.length - before.length)).reverse

def ErrorSystem.step (cfg : ErrorHandlingConfig) (s : ErrorSystem) (input : SystemInput) :
    ErrorSystem :=
  match input with
  | .errors input =>
    let handling := s.handling.step cfg input
    { s with
      handling := handling
      pending := s.pending ++ newSignals s.handling.signals handling.signals }
  | .errorThread =>
    { s with
      pending := []
      charger := s.pending.foldl (fun c event => c.processError event) s.charger }

end Everest.Evse
