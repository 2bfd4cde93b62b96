import Everest.Lib.Checks
import Everest.SmartCharging.StoreV2

/- The validation of a profile against the device model, the EVSEs and the profiles that are
stored already, and the requests that add and clear profiles. A check that fails stops the
validation with its result; `.ok` is the result `Valid`, together with the conformed profile. -/

namespace Everest.SmartCharging.V2.Store

open Checks

inductive ProfileValidationResult
  | evseDoesNotExist
  | existingChargingStationExternalConstraints
  | invalidProfileType
  | txProfileMissingTransactionId
  | txProfileEvseIdNotGreaterThanZero
  | txProfileTransactionNotOnEvse
  | txProfileEvseHasNoActiveTransaction
  | txProfileConflictingStackLevel
  | chargingProfileNoChargingSchedulePeriods
  | chargingProfileFirstStartScheduleIsNotZero
  | chargingProfileMissingRequiredStartSchedule
  | chargingProfileExtraneousStartSchedule
  | chargingProfileRateLimitExceeded
  | chargingProfileIdSmallerThanMaxExternalConstraintsId
  | chargingProfileUnsupportedPurpose
  | chargingProfileUnsupportedKind
  | chargingProfileNotDynamic
  | chargingProfileDynamicMustHaveSinglePeriod
  | chargingProfileDynamicMustHaveSingleSchedule
  | chargingScheduleChargingRateUnitUnsupported
  | chargingSchedulePriorityExtranousDuration
  | chargingScheduleRandomizedDelay
  | chargingScheduleUnsupportedLocalTime
  | chargingScheduleUnsupportedRandomizedDelay
  | chargingScheduleUnsupportedLimitAtSoC
  | chargingScheduleUnsupportedEvseSleep
  | chargingSchedulePeriodsOutOfOrder
  | chargingSchedulePeriodInvalidPhaseToUse
  | chargingSchedulePeriodUnsupportedNumberPhases
  | chargingSchedulePeriodExtraneousPhaseValues
  | chargingSchedulePeriodPhaseToUseACPhaseSwitchingUnsupported
  | chargingSchedulePeriodPriorityChargingNotChargingOnly
  | chargingSchedulePeriodUnsupportedOperationMode
  | chargingSchedulePeriodOperationModeNotInSupportedList
  | chargingSchedulePeriodLocalLoadBalancingNotSupported
  | chargingSchedulePeriodUnsupportedLimitSetpoint
  | chargingSchedulePeriodNoPhaseForDC
  | chargingSchedulePeriodNoFreqWattCurve
  | chargingSchedulePeriodSignDifference
  | chargingSchedulePeriodSetpointOutOfRange
  | chargingSchedulePeriodPhaseConflict
  | chargingStationMaxProfileCannotBeRelative
  | chargingStationMaxProfileEvseIdGreaterThanZero
  | duplicateTxDefaultProfileFound
  | duplicateProfileValidityPeriod
  | requestStartTransactionNonTxProfile
  | chargingProfileEmptyChargingSchedules
  deriving DecidableEq, Repr

def ProfileValidationResult.text : ProfileValidationResult → String
  | .evseDoesNotExist => "EvseDoesNotExist"
  | .existingChargingStationExternalConstraints => "ExstingChargingStationExternalConstraints"
  | .invalidProfileType => "InvalidProfileType"
  | .txProfileMissingTransactionId => "TxProfileMissingTransactionId"
  | .txProfileEvseIdNotGreaterThanZero => "TxProfileEvseIdNotGreaterThanZero"
  | .txProfileTransactionNotOnEvse => "TxProfileTransactionNotOnEvse"
  | .txProfileEvseHasNoActiveTransaction => "TxProfileEvseHasNoActiveTransaction"
  | .txProfileConflictingStackLevel => "TxProfileConflictingStackLevel"
  | .chargingProfileNoChargingSchedulePeriods => "ChargingProfileNoChargingSchedulePeriods"
  | .chargingProfileFirstStartScheduleIsNotZero => "ChargingProfileFirstStartScheduleIsNotZero"
  | .chargingProfileMissingRequiredStartSchedule => "ChargingProfileMissingRequiredStartSchedule"
  | .chargingProfileExtraneousStartSchedule => "ChargingProfileExtraneousStartSchedule"
  | .chargingProfileRateLimitExceeded => "ChargingProfileRateLimitExceeded"
  | .chargingProfileIdSmallerThanMaxExternalConstraintsId =>
    "ChargingProfileIdSmallerThanMaxExternalConstraintsId"
  | .chargingProfileUnsupportedPurpose => "ChargingProfileUnsupportedPurpose"
  | .chargingProfileUnsupportedKind => "ChargingProfileUnsupportedKind"
  | .chargingProfileNotDynamic => "ChargingProfileNotDynamic"
  | .chargingProfileDynamicMustHaveSinglePeriod => "ChargingProfileDynamicMustHaveSinglePeriod"
  | .chargingProfileDynamicMustHaveSingleSchedule => "ChargingProfileDynamicMustHaveSingleSchedule"
  | .chargingScheduleChargingRateUnitUnsupported => "ChargingScheduleChargingRateUnitUnsupported"
  | .chargingSchedulePriorityExtranousDuration => "ChargingSchedulePriorityExtranousDuration"
  | .chargingScheduleRandomizedDelay => "ChargingScheduleRandomizedDelay"
  | .chargingScheduleUnsupportedLocalTime => "ChargingScheduleUnsupportedLocalTime"
  | .chargingScheduleUnsupportedRandomizedDelay => "ChargingScheduleUnsupportedRandomizedDelay"
  | .chargingScheduleUnsupportedLimitAtSoC => "ChargingScheduleUnsupportedLimitAtSoC"
  | .chargingScheduleUnsupportedEvseSleep => "ChargingScheduleUnsupportedEvseSleep"
  | .chargingSchedulePeriodsOutOfOrder => "ChargingSchedulePeriodsOutOfOrder"
  | .chargingSchedulePeriodInvalidPhaseToUse => "ChargingSchedulePeriodInvalidPhaseToUse"
  | .chargingSchedulePeriodUnsupportedNumberPhases =>
    "ChargingSchedulePeriodUnsupportedNumberPhases"
  | .chargingSchedulePeriodExtraneousPhaseValues => "ChargingSchedulePeriodExtraneousPhaseValues"
  | .chargingSchedulePeriodPhaseToUseACPhaseSwitchingUnsupported =>
    "ChargingSchedulePeriodPhaseToUseACPhaseSwitchingUnsupported"
  | .chargingSchedulePeriodPriorityChargingNotChargingOnly =>
    "ChargingSchedulePeriodPriorityChargingNotChargingOnly"
  | .chargingSchedulePeriodUnsupportedOperationMode =>
    "ChargingSchedulePeriodUnsupportedOperationMode"
  | .chargingSchedulePeriodOperationModeNotInSupportedList =>
    "ChargingSchedulePeriodOperationModeNotInSupportedList"
  | .chargingSchedulePeriodLocalLoadBalancingNotSupported =>
    "ChargingSchedulePeriodLocalLoadBalancingNotSupported"
  | .chargingSchedulePeriodUnsupportedLimitSetpoint =>
    "ChargingSchedulePeriodUnsupportedLimitSetpoint"
  | .chargingSchedulePeriodNoPhaseForDC => "ChargingSchedulePeriodNoPhaseForDC"
  | .chargingSchedulePeriodNoFreqWattCurve => "ChargingSchedulePeriodNoFreqWattCurve"
  | .chargingSchedulePeriodSignDifference => "ChargingSchedulePeriodSignDifference"
  | .chargingSchedulePeriodSetpointOutOfRange => "ChargingSchedulePeriodSetpointOutOfRange"
  | .chargingSchedulePeriodPhaseConflict => "ChargingSchedulePeriodPhaseConflict"
  | .chargingStationMaxProfileCannotBeRelative => "ChargingStationMaxProfileCannotBeRelative"
  | .chargingStationMaxProfileEvseIdGreaterThanZero =>
    "ChargingStationMaxProfileEvseIdGreaterThanZero"
  | .duplicateTxDefaultProfileFound => "DuplicateTxDefaultProfileFound"
  | .duplicateProfileValidityPeriod => "DuplicateProfileValidityPeriod"
  | .requestStartTransactionNonTxProfile => "RequestStartTransactionNonTxProfile"
  | .chargingProfileEmptyChargingSchedules => "ChargingProfileEmptyChargingSchedules"

def ProfileValidationResult.reasonCode : ProfileValidationResult → String
  | .duplicateProfileValidityPeriod | .duplicateTxDefaultProfileFound
  | .existingChargingStationExternalConstraints => "DuplicateProfile"
  | .txProfileTransactionNotOnEvse | .txProfileEvseHasNoActiveTransaction => "TxNotFound"
  | .txProfileConflictingStackLevel => "InvalidStackLevel"
  | .chargingScheduleChargingRateUnitUnsupported => "UnsupportedRateUnit"
  | .chargingProfileRateLimitExceeded => "RateLimitExceeded"
  | .chargingProfileIdSmallerThanMaxExternalConstraintsId => "InvalidProfileId"
  | .chargingProfileUnsupportedPurpose => "UnsupportedPurpose"
  | .chargingProfileUnsupportedKind => "UnsupportedKind"
  | .chargingProfileNotDynamic => "InvalidProfile"
  | .chargingProfileDynamicMustHaveSinglePeriod | .chargingProfileDynamicMustHaveSingleSchedule
  | .chargingProfileNoChargingSchedulePeriods | .chargingProfileFirstStartScheduleIsNotZero
  | .chargingProfileMissingRequiredStartSchedule | .chargingProfileExtraneousStartSchedule
  | .chargingProfileEmptyChargingSchedules | .chargingSchedulePriorityExtranousDuration
  | .chargingScheduleRandomizedDelay | .chargingScheduleUnsupportedLocalTime
  | .chargingScheduleUnsupportedRandomizedDelay | .chargingScheduleUnsupportedLimitAtSoC
  | .chargingScheduleUnsupportedEvseSleep | .chargingSchedulePeriodsOutOfOrder
  | .chargingSchedulePeriodInvalidPhaseToUse | .chargingSchedulePeriodUnsupportedNumberPhases
  | .chargingSchedulePeriodExtraneousPhaseValues
  | .chargingSchedulePeriodPhaseToUseACPhaseSwitchingUnsupported
  | .chargingSchedulePeriodPriorityChargingNotChargingOnly
  | .chargingSchedulePeriodUnsupportedOperationMode
  | .chargingSchedulePeriodUnsupportedLimitSetpoint | .chargingSchedulePeriodSignDifference
  | .chargingSchedulePeriodSetpointOutOfRange => "InvalidSchedule"
  | .chargingSchedulePeriodLocalLoadBalancingNotSupported => "UnsupportedParam"
  | .chargingSchedulePeriodOperationModeNotInSupportedList => "InvalidOperationMode"
  | .chargingSchedulePeriodPhaseConflict => "PhaseConflict"
  | .chargingSchedulePeriodNoPhaseForDC => "NoPhaseForDC"
  | .chargingSchedulePeriodNoFreqWattCurve => "NoFreqWattCurve"
  | .txProfileMissingTransactionId => "MissingParam"
  | .evseDoesNotExist | .txProfileEvseIdNotGreaterThanZero
  | .chargingStationMaxProfileCannotBeRelative
  | .chargingStationMaxProfileEvseIdGreaterThanZero
  | .requestStartTransactionNonTxProfile => "InvalidValue"
  | .invalidProfileType => "InternalError"

inductive AddChargingProfileSource
  | setChargingProfile
  | requestStartTransactionRequest
  deriving DecidableEq, Repr

inductive CurrentPhaseType
  | ac
  | dc
  | unknown
  deriving DecidableEq, Repr

structure Evse where
  supplyPhases : Option ℤ := none
  supportedOperationModes : Option (List OperationMode) := none
  dcInputPhaseControl : Option Bool := none
  transactionId : Option String := none

/-- What the functional block reads of the station. The EVSEs have the ids 1, 2, … -/
structure Context where
  ocppVersion : OcppProtocolVersion
  evses : List Evse
  chargingStationSupplyPhases : ℤ
  chargingScheduleChargingRateUnit : List ChargingRateUnit
  supportedAdditionalPurposes : List ChargingProfilePurpose := []
  supportsDynamicProfiles : Option Bool := none
  supportsUseLocalTime : Option Bool := none
  supportsRandomizedDelay : Option Bool := none
  supportsLimitAtSoC : Option Bool := none
  acPhaseSwitchingSupported : Option Bool := none
  maxExternalConstraintsId : Option ℤ := none
  chargingProfileUpdateRateLimit : Option ℤ := none

namespace Context

variable (context : Context) (evseId : ℤ)

def evse? : Option Evse :=
  if 0 < evseId then context.evses[(evseId - 1).toNat]? else none

def doesEvseExist : Bool :=
  0 ≤ evseId ∧ evseId ≤ context.evses.length

def phaseType : ℤ → CurrentPhaseType
  | 1 => .ac
  | 3 => .ac
  | 0 => .dc
  | _ => .unknown

def getCurrentPhaseType : Option ℤ → CurrentPhaseType
  | some evseId =>
    match (context.evse? evseId).bind (·.supplyPhases) with
    | some supplyPhases => phaseType supplyPhases
    | none => .unknown
  | none => phaseType context.chargingStationSupplyPhases

def evseHasDcInputPhaseControl : Bool :=
  ((context.evse? evseId).bind (·.dcInputPhaseControl)).getD false

/-- The EVSE 0 stands for all EVSEs. -/
def hasDcInputPhaseControl : Bool :=
  if evseId = 0 then
    (List.range context.evses.length).all fun i => context.evseHasDcInputPhaseControl (i + 1)
  else context.evseHasDcInputPhaseControl evseId

def isOperationModeSupportedByEvse (operationMode : OperationMode) (evseId : ℤ) : Bool :=
  operationMode = .chargingOnly ∨
    ((context.evse? evseId).bind (·.supportedOperationModes)).any (operationMode ∈ ·)

def isOperationModeSupported (operationMode : OperationMode) : Option ℤ → Bool
  | some evseId => context.isOperationModeSupportedByEvse operationMode evseId
  | none => (List.range context.evses.length).all fun i =>
      context.isOperationModeSupportedByEvse operationMode (i + 1)

end Context

def operationModesForChargingProfilePurposes : ChargingProfilePurpose → List OperationMode
  | .txProfile | .txDefaultProfile =>
    [.chargingOnly, .centralSetpoint, .externalSetpoint, .externalLimits, .centralFrequency,
      .localFrequency, .localLoadBalancing, .idle]
  | .priorityCharging => [.chargingOnly]
  | .chargingStationMaxProfile => [.chargingOnly]
  | .chargingStationExternalConstraints => [.chargingOnly, .externalLimits, .externalSetpoint]
  | .localGeneration => [.chargingOnly, .externalLimits]

inductive LimitSetpointType
  | limit
  | dischargeLimit
  | setpoint
  | setpointReactive
  deriving DecidableEq, Repr

structure LimitsSetpointsForOperationMode where
  required : List LimitSetpointType
  optional : List LimitSetpointType

def limitsSetpointsPerOperationMode : OperationMode → LimitsSetpointsForOperationMode
  | .chargingOnly => ⟨[.limit], []⟩
  | .centralSetpoint => ⟨[.setpoint], [.limit, .dischargeLimit, .setpointReactive]⟩
  | .centralFrequency => ⟨[.setpoint], [.limit, .dischargeLimit]⟩
  | .localFrequency => ⟨[], []⟩
  | .externalSetpoint => ⟨[], [.limit, .dischargeLimit]⟩
  | .externalLimits => ⟨[], []⟩
  | .localLoadBalancing => ⟨[], []⟩
  | .idle => ⟨[], []⟩

def areLimitsAndSetpointsOfOperationModeCorrect (table : LimitsSetpointsForOperationMode)
    (type : LimitSetpointType) (limit limitL2 limitL3 : Option ℚ) : Bool :=
  ¬((type ∈ table.required ∧ limit = none) ∨
    ((limit.isSome ∨ limitL2.isSome ∨ limitL3.isSome) ∧
      type ∉ table.required ∧ type ∉ table.optional))

variable (period : ChargingSchedulePeriod)

def ChargingSchedulePeriod.mode : OperationMode :=
  effectiveMode period.operationMode

def checkLimitsAndSetpoints : Bool :=
  let table := limitsSetpointsPerOperationMode period.mode
  areLimitsAndSetpointsOfOperationModeCorrect table .limit
    period.limit period.limitL2 period.limitL3 &&
  areLimitsAndSetpointsOfOperationModeCorrect table .dischargeLimit
    period.dischargeLimit period.dischargeLimitL2 period.dischargeLimitL3 &&
  areLimitsAndSetpointsOfOperationModeCorrect table .setpoint
    period.setpoint period.setpointL2 period.setpointL3 &&
  areLimitsAndSetpointsOfOperationModeCorrect table .setpointReactive
    period.setpointReactive period.setpointReactiveL2 period.setpointReactiveL3

def allSetpointsSignsEqual : Bool :=
  match period.setpoint with
  | some setpoint =>
    ¬((0 < setpoint ∧ (period.setpointL2.any (· < 0) ∨ period.setpointL3.any (· < 0))) ∨
      (setpoint < 0 ∧ (period.setpointL2.any (0 < ·) ∨ period.setpointL3.any (0 < ·))))
  | none => true

/-- The period of an AC schedule has three phases if it names no number of phases. -/
def conformScheduleNumberPhases : ChargingSchedulePeriod :=
  { period with numberPhases := some (period.numberPhases.getD 3) }

section Schedules

variable (context : Context) (evse : Option ℤ) (profile : ChargingProfile)
  (schedule : ChargingSchedule)

def validateOperationMode (period : ChargingSchedulePeriod) :
    Except ProfileValidationResult Unit := do
  reject (profile.chargingProfilePurpose = .priorityCharging ∧ period.mode ≠ .chargingOnly)
    .chargingSchedulePeriodPriorityChargingNotChargingOnly
  reject (period.mode ∉ operationModesForChargingProfilePurposes profile.chargingProfilePurpose)
    .chargingSchedulePeriodUnsupportedOperationMode
  reject (context.isOperationModeSupported period.mode evse = false)
    (if period.mode = .localLoadBalancing then
      .chargingSchedulePeriodLocalLoadBalancingNotSupported
    else .chargingSchedulePeriodOperationModeNotInSupportedList)
  reject (period.mode = .localFrequency ∧ schedule.chargingRateUnit = .A)
    .chargingScheduleChargingRateUnitUnsupported
  reject (period.evseSleep.getD false ∧ period.mode ≠ .idle)
    .chargingScheduleUnsupportedEvseSleep
  reject (checkLimitsAndSetpoints period = false) .chargingSchedulePeriodUnsupportedLimitSetpoint
  reject (period.mode = .localFrequency ∧
      ((period.v2xFreqWattCurve.getD []).length < 2 ∨ period.v2xBaseline = none))
    .chargingSchedulePeriodNoFreqWattCurve
  reject (allSetpointsSignsEqual period = false) .chargingSchedulePeriodSignDifference

/-- One turn of the loop over the periods. `next` is the period after this one. -/
def validatePeriod (first : Bool) (next : Option ChargingSchedulePeriod)
    (period : ChargingSchedulePeriod) : Except ProfileValidationResult ChargingSchedulePeriod := do
  reject (period.numberPhases ≠ some 1 ∧ period.phaseToUse.isSome)
    .chargingSchedulePeriodInvalidPhaseToUse
  reject (period.phaseToUse.isSome ∧ ¬context.acPhaseSwitchingSupported.getD false)
    .chargingSchedulePeriodPhaseToUseACPhaseSwitchingUnsupported
  reject (first ∧ period.startPeriod ≠ 0) .chargingProfileFirstStartScheduleIsNotZero
  reject (next.any (·.startPeriod ≤ period.startPeriod)) .chargingSchedulePeriodsOutOfOrder
  under (context.getCurrentPhaseType evse = .dc ∧
      (period.numberPhases.isSome ∨ period.phaseToUse.isSome)) <|
    match context.ocppVersion with
    | .v201 => .error .chargingSchedulePeriodExtraneousPhaseValues
    | .v21 =>
      reject (context.hasDcInputPhaseControl (evse.getD 0) = false)
        .chargingSchedulePeriodNoPhaseForDC
  reject (context.getCurrentPhaseType evse = .ac ∧
      period.numberPhases.any (context.chargingStationSupplyPhases < ·))
    .chargingSchedulePeriodUnsupportedNumberPhases
  let conformed :=
    if context.getCurrentPhaseType evse = .ac then conformScheduleNumberPhases period else period
  under (context.ocppVersion = .v21) (validateOperationMode context evse profile schedule conformed)
  return conformed

def validatePeriods : Bool → List ChargingSchedulePeriod →
    Except ProfileValidationResult (List ChargingSchedulePeriod)
  | _, [] => .ok []
  | first, period :: periods => do
    let conformed ← validatePeriod context evse profile schedule first periods.head? period
    let rest ← validatePeriods false periods
    return conformed :: rest

def validateScheduleV21 : Except ProfileValidationResult Unit := do
  reject (profile.chargingProfilePurpose ≠ .txProfile ∧
      profile.chargingProfilePurpose ≠ .txDefaultProfile ∧ schedule.randomizedDelay.any (0 < ·))
    .chargingScheduleRandomizedDelay
  reject ((profile.chargingProfilePurpose = .priorityCharging ∨
        profile.chargingProfilePurpose = .localGeneration) ∧
      profile.chargingProfilePurpose ∉ context.supportedAdditionalPurposes)
    .chargingProfileUnsupportedPurpose
  reject (profile.chargingProfileKind = .dynamic ∧ ¬context.supportsDynamicProfiles.getD false)
    .chargingProfileUnsupportedKind
  reject ((profile.dynUpdateInterval.isSome ∨ profile.dynUpdateTime.isSome) ∧
      profile.chargingProfileKind ≠ .dynamic)
    .chargingProfileNotDynamic
  reject (profile.chargingProfileKind = .dynamic ∧ schedule.chargingSchedulePeriod.length ≠ 1)
    .chargingProfileDynamicMustHaveSinglePeriod
  reject (schedule.useLocalTime.getD false ∧ ¬context.supportsUseLocalTime.getD false)
    .chargingScheduleUnsupportedLocalTime
  reject (schedule.randomizedDelay.isSome ∧ ¬context.supportsRandomizedDelay.getD false)
    .chargingScheduleUnsupportedRandomizedDelay
  reject (schedule.limitAtSoC.isSome ∧ ¬context.supportsLimitAtSoC.getD false)
    .chargingScheduleUnsupportedLimitAtSoC

def validateSchedule : Except ProfileValidationResult ChargingSchedule := do
  reject (schedule.chargingRateUnit ∉ context.chargingScheduleChargingRateUnit)
    .chargingScheduleChargingRateUnitUnsupported
  reject (schedule.chargingSchedulePeriod = []) .chargingProfileNoChargingSchedulePeriods
  under (context.ocppVersion = .v21) (validateScheduleV21 context profile schedule)
  let periods ←
    validatePeriods context evse profile schedule true schedule.chargingSchedulePeriod
  reject ((profile.chargingProfileKind = .absolute ∨ profile.chargingProfileKind = .recurring) ∧
      schedule.startSchedule = none)
    .chargingProfileMissingRequiredStartSchedule
  reject (profile.chargingProfileKind = .relative ∧ schedule.startSchedule.isSome)
    .chargingProfileExtraneousStartSchedule
  return { schedule with chargingSchedulePeriod := periods }

def validateSchedules : List ChargingSchedule →
    Except ProfileValidationResult (List ChargingSchedule)
  | [] => .ok []
  | schedule :: schedules => do
    let conformed ← validateSchedule context evse profile schedule
    let rest ← validateSchedules schedules
    return conformed :: rest

def validateProfileSchedules : Except ProfileValidationResult ChargingProfile := do
  reject (profile.chargingSchedule = []) .chargingProfileEmptyChargingSchedules
  reject (profile.chargingProfileKind = .dynamic ∧ profile.chargingSchedule.length ≠ 1)
    .chargingProfileDynamicMustHaveSingleSchedule
  let schedules ← validateSchedules context evse profile profile.chargingSchedule
  return { profile with chargingSchedule := schedules }

end Schedules

/-- `<=` of two optional values: an absent value is the least. -/
def optionalLe : Option ℤ → Option ℤ → Bool
  | none, _ => true
  | some _, none => false
  | some a, some b => a ≤ b

def maxTime : ℤ := 2 ^ 63 - 1

def conformValidityPeriods (profile : ChargingProfile) : ChargingProfile :=
  { profile with
    validFrom := some (profile.validFrom.getD 0)
    validTo := some (profile.validTo.getD maxTime) }

/-- The `SELECT` of the rows that must not overlap with the candidate. -/
def concerns (candidate : ChargingProfile) (evseId : ℤ) (row : Row) : Bool :=
  row.profile.chargingProfilePurpose = candidate.chargingProfilePurpose ∧
  row.evseId = evseId ∧ row.profile.id ≠ candidate.id ∧
  row.profile.stackLevel = candidate.stackLevel

def isOverlappingValidityPeriod (database : Database) (candidate : ChargingProfile)
    (evseId : ℤ) : Bool :=
  if candidate.chargingProfilePurpose = .txProfile then false
  else (database.filter (concerns candidate evseId)).any fun row =>
    optionalLe candidate.validFrom row.profile.reread.validTo &&
      optionalLe row.profile.reread.validFrom candidate.validTo

section Profiles

variable (context : Context) (database : Database) (profile : ChargingProfile) (evseId : ℤ)

def validateEvseExists : Except ProfileValidationResult Unit :=
  reject (context.doesEvseExist evseId = false) .evseDoesNotExist

def verifyNoConflictingExternalConstraintsId : Except ProfileValidationResult Unit := do
  reject (context.ocppVersion = .v21 ∧ context.maxExternalConstraintsId.any (profile.id ≤ ·))
    .chargingProfileIdSmallerThanMaxExternalConstraintsId
  reject (database.any fun row => row.profile.id = profile.id ∧
      row.profile.chargingProfilePurpose = .chargingStationExternalConstraints)
    .existingChargingStationExternalConstraints

def validateChargingStationMaxProfile : Except ProfileValidationResult Unit := do
  reject (profile.chargingProfilePurpose ≠ .chargingStationMaxProfile) .invalidProfileType
  reject (0 < evseId) .chargingStationMaxProfileEvseIdGreaterThanZero
  reject (profile.chargingProfileKind = .relative) .chargingStationMaxProfileCannotBeRelative

def validateTxDefaultProfile : Except ProfileValidationResult Unit :=
  let profiles :=
    if evseId = 0 then database.getEvseSpecificTxDefaultProfiles
    else database.getStationWideTxDefaultProfiles
  reject (profiles.any fun candidate =>
      candidate.stackLevel = profile.stackLevel ∧ candidate.id ≠ profile.id)
    .duplicateTxDefaultProfileFound

/-- The `SELECT` of other profiles with the transaction id and the stack level. -/
def conflicts (row : Row) : Bool :=
  row.profile.transactionId.isSome ∧ row.profile.transactionId = profile.transactionId ∧
  row.profile.stackLevel = profile.stackLevel ∧ row.profile.id ≠ profile.id

variable (sourceOfRequest : AddChargingProfileSource)

def validateTxProfile : Except ProfileValidationResult Unit := do
  reject (evseId ≤ 0) .txProfileEvseIdNotGreaterThanZero
  validateEvseExists context evseId
  under (sourceOfRequest ≠ .requestStartTransactionRequest) do
    reject (profile.transactionId = none) .txProfileMissingTransactionId
    let transactionId := (context.evse? evseId).bind (·.transactionId)
    reject (transactionId = none) .txProfileEvseHasNoActiveTransaction
    reject (transactionId ≠ profile.transactionId) .txProfileTransactionNotOnEvse
    reject (database.any (conflicts profile)) .txProfileConflictingStackLevel

def validatePriorityChargingProfile : Except ProfileValidationResult Unit := do
  reject (profile.chargingProfilePurpose ≠ .priorityCharging) .invalidProfileType
  reject (profile.chargingSchedule.any (·.duration.isSome))
    .chargingSchedulePriorityExtranousDuration

def validatePurpose : Except ProfileValidationResult Unit :=
  match profile.chargingProfilePurpose with
  | .chargingStationMaxProfile => validateChargingStationMaxProfile profile evseId
  | .txDefaultProfile => validateTxDefaultProfile database profile evseId
  | .txProfile => validateTxProfile context database profile evseId sourceOfRequest
  | .chargingStationExternalConstraints => .ok ()
  | .priorityCharging => validatePriorityChargingProfile profile
  | .localGeneration => .error .invalidProfileType

/-- The validation, with the profile as it was conformed on the way. -/
def conformAndValidateProfile : Except ProfileValidationResult ChargingProfile := do
  under (sourceOfRequest = .requestStartTransactionRequest) <|
    reject (profile.chargingProfilePurpose ≠ .txProfile) .requestStartTransactionNonTxProfile
  let profile := conformValidityPeriods profile
  under (evseId ≠ 0) (validateEvseExists context evseId)
  verifyNoConflictingExternalConstraintsId context database profile
  let profile ← validateProfileSchedules context (if evseId = 0 then none else some evseId) profile
  reject (isOverlappingValidityPeriod database profile evseId) .duplicateProfileValidityPeriod
  validatePurpose context database profile evseId sourceOfRequest
  return profile

/-- Only a new profile is checked for this; a stored setpoint is capped when schedules are
merged. -/
def validateSetpointWithinLimitRange : Except ProfileValidationResult Unit :=
  under (context.ocppVersion = .v21) <|
    reject (profile.chargingSchedule.any fun schedule =>
        schedule.chargingSchedulePeriod.any fun period =>
          period.setpoint.any fun setpoint =>
            period.limit.any (· < setpoint) || period.dischargeLimit.any (setpoint < ·))
      .chargingSchedulePeriodSetpointOutOfRange

def validatePhaseConflict : Except ProfileValidationResult Unit :=
  under (context.ocppVersion = .v21 ∧ profile.chargingProfilePurpose ≠ .txProfile) <|
    reject (profile.chargingSchedule.any fun schedule =>
        schedule.chargingSchedulePeriod.any fun period =>
          period.dischargeLimitL2.isSome || period.dischargeLimitL3.isSome ||
          period.setpointL2.isSome || period.setpointL3.isSome ||
          period.setpointReactiveL2.isSome || period.setpointReactiveL3.isSome)
      .chargingSchedulePeriodPhaseConflict

end Profiles

structure SmartChargingBlock where
  database : Database
  lastChargingProfileUpdate : ChargingProfilePurpose → Option ℤ

def SmartChargingBlock.init : SmartChargingBlock := ⟨[], fun _ => none⟩

inductive ChargingProfileStatus
  | accepted
  | rejected
  deriving DecidableEq, Repr

structure StatusInfo where
  reasonCode : String
  additionalInfo : String
  deriving DecidableEq, Repr

structure SetChargingProfileResponse where
  status : ChargingProfileStatus
  statusInfo : Option StatusInfo := none
  deriving DecidableEq, Repr

inductive ClearChargingProfileStatus
  | accepted
  | unknown
  deriving DecidableEq, Repr

namespace SmartChargingBlock

variable (context : Context) (now : ℤ) (profile : ChargingProfile) (evseId : ℤ)

/-- Whether the last profile of the purpose is too recent. The time of this one is noted in
either case. -/
def verifyRateLimit (block : SmartChargingBlock) :
    Except ProfileValidationResult Unit × SmartChargingBlock :=
  match context.ocppVersion, context.chargingProfileUpdateRateLimit with
  | .v21, some limit =>
    (reject ((block.lastChargingProfileUpdate profile.chargingProfilePurpose).any
        fun last => (now - last).tdiv 1000000000 < limit) .chargingProfileRateLimitExceeded,
      { block with
        lastChargingProfileUpdate :=
          Function.update block.lastChargingProfileUpdate profile.chargingProfilePurpose
            (some now) })
  | _, _ => (.ok (), block)

def addProfile (chargingLimitSource : String) (block : SmartChargingBlock) :
    SetChargingProfileResponse × SmartChargingBlock :=
  ({ status := .accepted },
    { block with
      database :=
        block.database.insertOrUpdateChargingProfile evseId profile chargingLimitSource })

def checkProfile (sourceOfRequest : AddChargingProfileSource) (block : SmartChargingBlock) :
    Except ProfileValidationResult ChargingProfile := do
  let profile ←
    conformAndValidateProfile context block.database profile evseId sourceOfRequest
  validateSetpointWithinLimitRange context profile
  validatePhaseConflict context profile
  return profile

def populateDynUpdateTime : ChargingProfile :=
  if profile.chargingProfileKind = .dynamic then
    { profile with dynUpdateTime := some (profile.dynUpdateTime.getD now) }
  else profile

def rejectedWith (result : ProfileValidationResult) : SetChargingProfileResponse where
  status := .rejected
  statusInfo := some ⟨result.reasonCode, result.text⟩

def conformValidateAndAddProfile (chargingLimitSource : String)
    (sourceOfRequest : AddChargingProfileSource) (block : SmartChargingBlock) :
    SetChargingProfileResponse × SmartChargingBlock :=
  match block.checkProfile context profile evseId sourceOfRequest with
  | .error result => (rejectedWith result, block)
  | .ok profile =>
    match block.verifyRateLimit context now profile with
    | (.error result, block) => (rejectedWith result, block)
    | (.ok _, block) => block.addProfile (populateDynUpdateTime now profile) evseId
        chargingLimitSource

/-- The ids of the cleared profiles are returned too: their deadlines are dropped. -/
def clearProfiles (chargingProfileId : Option ℤ) (criteria : Option ClearChargingProfile)
    (block : SmartChargingBlock) :
    ClearChargingProfileStatus × List ℤ × SmartChargingBlock :=
  let (ids, database) :=
    block.database.clearChargingProfilesMatchingCriteria chargingProfileId criteria
  (if ids = [] then .unknown else .accepted, ids, { block with database })

end SmartChargingBlock

end Everest.SmartCharging.V2.Store
