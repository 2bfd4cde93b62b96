import Everest.SmartCharging.Combine
import Everest.SmartCharging.Entries

namespace Everest.SmartCharging.V2

open Timeline

inductive OcppProtocolVersion
  | v201
  | v21
  deriving DecidableEq, Repr

def noSetpointSpecified : ℚ := floatMax

def noDischargeLimitSpecified : ℚ := -floatMax

/-- The spacing of `double` at 1, the tolerance of `is_equal`. -/
def epsilon : ℚ := 1 / 2 ^ 52

def isEqual (value1 value2 : ℚ) : Bool := |value1 - value2| < epsilon

structure PeriodLimit where
  limit : ℚ
  limitL2 : ℚ
  limitL3 : ℚ
  deriving DecidableEq, Repr

def PeriodLimit.all (value : ℚ) : PeriodLimit := ⟨value, value, value⟩

def PeriodLimit.same (a b : PeriodLimit) : Bool :=
  isEqual a.limit b.limit && isEqual a.limitL2 b.limitL2 && isEqual a.limitL3 b.limitL3

inductive OperationMode
  | idle
  | chargingOnly
  | centralSetpoint
  | externalSetpoint
  | externalLimits
  | centralFrequency
  | localFrequency
  | localLoadBalancing
  deriving DecidableEq, Repr

def effectiveMode (mode : Option OperationMode) : OperationMode := mode.getD .chargingOnly

inductive ChargingProfilePurpose
  | chargingStationExternalConstraints
  | chargingStationMaxProfile
  | txDefaultProfile
  | txProfile
  | priorityCharging
  | localGeneration
  deriving DecidableEq, Repr

structure ChargingSchedulePeriod where
  startPeriod : ℤ
  limit : Option ℚ := none
  limitL2 : Option ℚ := none
  limitL3 : Option ℚ := none
  numberPhases : Option ℤ := none
  dischargeLimit : Option ℚ := none
  dischargeLimitL2 : Option ℚ := none
  dischargeLimitL3 : Option ℚ := none
  setpoint : Option ℚ := none
  setpointL2 : Option ℚ := none
  setpointL3 : Option ℚ := none
  operationMode : Option OperationMode := none

structure ChargingSchedule where
  chargingRateUnit : ChargingRateUnit
  chargingSchedulePeriod : List ChargingSchedulePeriod
  duration : Option ℤ
  startSchedule : Option ℤ
  minChargingRate : Option ℚ

/-- A charging profile. Of its schedules the code only reads the first. -/
structure ChargingProfile where
  stackLevel : ℤ
  chargingProfilePurpose : ChargingProfilePurpose
  chargingProfileKind : ChargingProfileKind
  recurrencyKind : Option RecurrencyKind
  validFrom : Option ℤ
  validTo : Option ℤ
  chargingSchedule : ChargingSchedule

def ChargingProfile.times (profile : ChargingProfile) : ProfileTimes where
  chargingProfileKind := profile.chargingProfileKind
  recurrencyKind := profile.recurrencyKind
  validFrom := profile.validFrom
  validTo := profile.validTo
  startSchedule := profile.chargingSchedule.startSchedule
  duration := profile.chargingSchedule.duration
  startPeriods := profile.chargingSchedule.chargingSchedulePeriod.map (·.startPeriod)

structure PeriodEntry where
  start : ℤ
  endTime : ℤ
  limit : PeriodLimit
  dischargeLimit : PeriodLimit
  setpoint : PeriodLimit
  numberPhases : Option ℤ
  phaseToUse : Option ℤ
  operationMode : Option OperationMode
  stackLevel : ℤ
  chargingRateUnit : ChargingRateUnit
  minChargingRate : Option ℚ
  deriving DecidableEq

/-- The limit of a period; one that only charges has the default limit if it gives none. -/
def ChargingSchedulePeriod.effectiveLimit (period : ChargingSchedulePeriod)
    (chargingRateUnit : ChargingRateUnit) : ℚ :=
  if period.limit = none ∧ effectiveMode period.operationMode = .chargingOnly then
    match chargingRateUnit with
    | .A => 48
    | .W => 33120
  else period.limit.getD noLimitSpecified

def PeriodEntry.init (slot : Slot) (period : ChargingSchedulePeriod) (profile : ChargingProfile) :
    PeriodEntry where
  start := slot.start
  endTime := slot.endTime
  limit :=
    { limit := period.effectiveLimit profile.chargingSchedule.chargingRateUnit
      limitL2 := period.limitL2.getD noLimitSpecified
      limitL3 := period.limitL3.getD noLimitSpecified }
  dischargeLimit :=
    { limit := period.dischargeLimit.getD noDischargeLimitSpecified
      limitL2 := period.dischargeLimitL2.getD noDischargeLimitSpecified
      limitL3 := period.dischargeLimitL3.getD noDischargeLimitSpecified }
  setpoint :=
    { limit := period.setpoint.getD noSetpointSpecified
      limitL2 := period.setpointL2.getD noSetpointSpecified
      limitL3 := period.setpointL3.getD noSetpointSpecified }
  numberPhases := period.numberPhases
  -- never assigned from the period
  phaseToUse := none
  operationMode := period.operationMode
  stackLevel := profile.stackLevel
  chargingRateUnit := profile.chargingSchedule.chargingRateUnit
  minChargingRate := profile.chargingSchedule.minChargingRate

structure IntermediatePeriod where
  startPeriod : ℤ
  currentLimit : PeriodLimit
  powerLimit : PeriodLimit
  currentDischargeLimit : PeriodLimit
  powerDischargeLimit : PeriodLimit
  currentSetpoint : PeriodLimit
  powerSetpoint : PeriodLimit
  stackLevelCurrent : ℤ
  stackLevelPower : ℤ
  numberPhases : Option ℤ
  phaseToUse : Option ℤ
  operationMode : Option OperationMode
  deriving DecidableEq

/-- The code leaves the stack levels of this period unset; nothing reads them. -/
def defaultIntermediatePeriod (startPeriod : ℤ) : IntermediatePeriod where
  startPeriod
  currentLimit := .all noLimitSpecified
  powerLimit := .all noLimitSpecified
  currentDischargeLimit := .all noDischargeLimitSpecified
  powerDischargeLimit := .all noDischargeLimitSpecified
  currentSetpoint := .all noSetpointSpecified
  powerSetpoint := .all noSetpointSpecified
  stackLevelCurrent := 0
  stackLevelPower := 0
  numberPhases := none
  phaseToUse := none
  operationMode := none

def IntermediatePeriod.differs (period back : IntermediatePeriod) : Bool :=
  !period.currentLimit.same back.currentLimit || !period.powerLimit.same back.powerLimit ||
    !period.currentDischargeLimit.same back.currentDischargeLimit ||
    !period.powerDischargeLimit.same back.powerDischargeLimit ||
    !period.currentSetpoint.same back.currentSetpoint ||
    !period.powerSetpoint.same back.powerSetpoint ||
    period.numberPhases ≠ back.numberPhases ||
    period.stackLevelCurrent ≠ back.stackLevelCurrent ||
    period.stackLevelPower ≠ back.stackLevelPower ||
    effectiveMode period.operationMode ≠ effectiveMode back.operationMode

lemma isEqual_self (value : ℚ) : isEqual value value = true := by
  simp [isEqual, epsilon]

lemma PeriodLimit.same_self (a : PeriodLimit) : a.same a = true := by
  simp [PeriodLimit.same, isEqual_self]

instance : PeriodOps IntermediatePeriod where
  startPeriod := IntermediatePeriod.startPeriod
  setStartPeriod startPeriod period := { period with startPeriod }
  differs := IntermediatePeriod.differs
  defaultPeriod := defaultIntermediatePeriod
  startPeriod_set _ _ := rfl
  set_startPeriod _ := rfl
  startPeriod_default _ := rfl
  differs_self _ := by simp [IntermediatePeriod.differs, PeriodLimit.same_self]
  differs_set _ _ _ := rfl

def PeriodEntry.intermediate (startPeriod : ℤ) (chosen : PeriodEntry) : IntermediatePeriod :=
  let period : IntermediatePeriod :=
    { defaultIntermediatePeriod startPeriod with
      numberPhases := chosen.numberPhases
      operationMode := chosen.operationMode
      phaseToUse := chosen.phaseToUse }
  match chosen.chargingRateUnit with
  | .A =>
    { period with
      currentLimit := chosen.limit
      currentSetpoint := chosen.setpoint
      currentDischargeLimit := chosen.dischargeLimit
      stackLevelCurrent := chosen.stackLevel }
  | .W =>
    { period with
      powerLimit := chosen.limit
      powerSetpoint := chosen.setpoint
      powerDischargeLimit := chosen.dischargeLimit
      stackLevelPower := chosen.stackLevel }

instance : EntryOps PeriodEntry IntermediatePeriod where
  start := PeriodEntry.start
  endTime := PeriodEntry.endTime
  stackLevel := PeriodEntry.stackLevel
  intermediate := PeriodEntry.intermediate
  startPeriod_intermediate s e := by
    unfold PeriodEntry.intermediate
    split <;> rfl

def calculateProfileUnsorted (now stop : ℤ) (sessionStart : Option ℤ) (profile : ChargingProfile) :
    List PeriodEntry :=
  profile.chargingSchedule.chargingSchedulePeriod.zipIdx.flatMap fun (period, index) =>
    ((calculateProfileEntry now stop sessionStart profile.times index).map fun slot =>
      PeriodEntry.init slot period profile).filter fun entry => entry.start ≤ stop

def calculateAllProfiles (std : StdSort) (now stop : ℤ) (sessionStart : Option ℤ)
    (profiles : List ChargingProfile) (purpose : ChargingProfilePurpose) : List PeriodEntry :=
  std.sort (fun a b => decide (a.start < b.start))
    ((profiles.filter fun profile => profile.chargingProfilePurpose = purpose).flatMap
      (calculateProfileUnsorted now stop sessionStart))

variable {sessionStart : Option ℤ} {profiles : List ChargingProfile}
  {purpose : ChargingProfilePurpose} {e : PeriodEntry} {std : StdSort} {inNow inEnd : ℤ}

lemma mem_calculateAllProfiles
    (h : e ∈ calculateAllProfiles std inNow inEnd sessionStart profiles purpose) :
    ∃ profile ∈ profiles, profile.chargingProfilePurpose = purpose ∧
      ∃ period ∈ profile.chargingSchedule.chargingSchedulePeriod, ∃ slot : Slot,
        slot.Delivered inNow ∧ slot.start ≤ inEnd ∧
          e = PeriodEntry.init slot period profile := by
  rw [calculateAllProfiles, (std.perm _ _).mem_iff, List.mem_flatMap] at h
  obtain ⟨profile, hprof, hunsorted⟩ := h
  rw [calculateProfileUnsorted, List.mem_flatMap] at hunsorted
  obtain ⟨⟨period, index⟩, hper, hentry⟩ := hunsorted
  obtain ⟨hslot, hstop⟩ := List.mem_filter.mp hentry
  obtain ⟨slot, hmem, rfl⟩ := List.mem_map.mp hslot
  have hstart : slot.start ≤ inEnd := of_decide_eq_true hstop
  obtain ⟨hprof, hpurp⟩ := List.mem_filter.mp hprof
  exact ⟨profile, hprof, of_decide_eq_true hpurp, period, List.fst_mem_of_mem_zipIdx hper,
    slot, calculateProfileEntry_delivered hmem, hstart, rfl⟩

lemma calculateAllProfiles_delivered
    (h : e ∈ calculateAllProfiles std inNow inEnd sessionStart profiles purpose) :
    Delivered (floorSeconds inNow) (floorSeconds inEnd) e := by
  obtain ⟨profile, -, -, period, -, slot, hslot, hle, rfl⟩ := mem_calculateAllProfiles h
  exact hslot.entry rfl rfl hle

def generateProfileFromPeriods (std : StdSort) (periods : List PeriodEntry) (inNow inEnd : ℤ) :
    Option (List IntermediatePeriod) :=
  SmartCharging.generateProfileFromPeriods std periods inNow inEnd

end Everest.SmartCharging.V2
