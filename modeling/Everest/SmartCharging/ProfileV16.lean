import Everest.SmartCharging.Combine
import Everest.SmartCharging.Entries

namespace Everest.SmartCharging.V16

open Timeline

inductive ChargingProfilePurposeType
  | chargePointMaxProfile
  | txDefaultProfile
  | txProfile
  deriving DecidableEq, Repr

inductive ChargingProfileKindType
  | absolute
  | recurring
  | relative
  deriving DecidableEq, Repr

def ChargingProfileKindType.kind : ChargingProfileKindType → ChargingProfileKind
  | .absolute => .absolute
  | .recurring => .recurring
  | .relative => .relative

structure ChargingSchedulePeriod where
  startPeriod : ℤ
  limit : ℚ
  numberPhases : Option ℤ

structure ChargingSchedule where
  chargingRateUnit : ChargingRateUnit
  chargingSchedulePeriod : List ChargingSchedulePeriod
  duration : Option ℤ
  startSchedule : Option ℤ
  minChargingRate : Option ℚ

structure ChargingProfile where
  transactionId : Option ℤ
  stackLevel : ℤ
  chargingProfilePurpose : ChargingProfilePurposeType
  chargingProfileKind : ChargingProfileKindType
  recurrencyKind : Option RecurrencyKind
  validFrom : Option ℤ
  validTo : Option ℤ
  chargingSchedule : ChargingSchedule

def ChargingProfile.times (profile : ChargingProfile) : ProfileTimes where
  chargingProfileKind := profile.chargingProfileKind.kind
  recurrencyKind := profile.recurrencyKind
  validFrom := profile.validFrom
  validTo := profile.validTo
  startSchedule := profile.chargingSchedule.startSchedule
  duration := profile.chargingSchedule.duration
  startPeriods := profile.chargingSchedule.chargingSchedulePeriod.map (·.startPeriod)

structure PeriodEntry where
  start : ℤ
  endTime : ℤ
  limit : ℚ
  numberPhases : Option ℤ
  stackLevel : ℤ
  chargingRateUnit : ChargingRateUnit
  minChargingRate : Option ℚ
  deriving DecidableEq

def PeriodEntry.init (slot : Slot) (period : ChargingSchedulePeriod) (profile : ChargingProfile) :
    PeriodEntry where
  start := slot.start
  endTime := slot.endTime
  limit := period.limit
  numberPhases := period.numberPhases
  stackLevel := profile.stackLevel
  chargingRateUnit := profile.chargingSchedule.chargingRateUnit
  minChargingRate := profile.chargingSchedule.minChargingRate

structure IntermediatePeriod where
  startPeriod : ℤ
  currentLimit : ℚ
  powerLimit : ℚ
  stackLevelCurrent : ℤ
  stackLevelPower : ℤ
  numberPhases : Option ℤ
  phaseToUse : Option ℤ
  deriving DecidableEq

/-- The period without a limit that the code writes out where nothing applies. -/
def defaultIntermediatePeriod (startPeriod : ℤ) : IntermediatePeriod where
  startPeriod
  currentLimit := noLimitSpecified
  powerLimit := noLimitSpecified
  stackLevelCurrent := 0
  stackLevelPower := 0
  numberPhases := none
  phaseToUse := none

def IntermediatePeriod.differs (period back : IntermediatePeriod) : Bool :=
  period.currentLimit ≠ back.currentLimit || period.powerLimit ≠ back.powerLimit ||
    period.numberPhases ≠ back.numberPhases ||
    period.stackLevelCurrent ≠ back.stackLevelCurrent ||
    period.stackLevelPower ≠ back.stackLevelPower

instance : PeriodOps IntermediatePeriod where
  startPeriod := IntermediatePeriod.startPeriod
  setStartPeriod startPeriod period := { period with startPeriod }
  differs := IntermediatePeriod.differs
  defaultPeriod := defaultIntermediatePeriod
  startPeriod_set _ _ := rfl
  set_startPeriod _ := rfl
  startPeriod_default _ := rfl
  differs_self _ := by simp [IntermediatePeriod.differs]
  differs_set _ _ _ := rfl

def PeriodEntry.intermediate (startPeriod : ℤ) (chosen : PeriodEntry) : IntermediatePeriod :=
  match chosen.chargingRateUnit with
  | .A =>
    { startPeriod, currentLimit := chosen.limit, powerLimit := noLimitSpecified,
      stackLevelCurrent := chosen.stackLevel, stackLevelPower := 0,
      numberPhases := chosen.numberPhases, phaseToUse := none }
  | .W =>
    { startPeriod, currentLimit := noLimitSpecified, powerLimit := chosen.limit,
      stackLevelCurrent := 0, stackLevelPower := chosen.stackLevel,
      numberPhases := chosen.numberPhases, phaseToUse := none }

instance : EntryOps PeriodEntry IntermediatePeriod where
  start := PeriodEntry.start
  endTime := PeriodEntry.endTime
  stackLevel := PeriodEntry.stackLevel
  intermediate := PeriodEntry.intermediate
  startPeriod_intermediate s e := by
    unfold PeriodEntry.intermediate
    split <;> rfl

def calculateProfileUnsorted (now stop : ℤ) (sessionStart : Option ℤ) (profile : ChargingProfile) :
    List PeriodEntry :=
  profile.chargingSchedule.chargingSchedulePeriod.zipIdx.flatMap fun (period, index) =>
    ((calculateProfileEntry now stop sessionStart profile.times index).map fun slot =>
      PeriodEntry.init slot period profile).filter fun entry => entry.start ≤ stop

def calculateAllProfiles (std : StdSort) (now stop : ℤ) (sessionStart : Option ℤ)
    (profiles : List ChargingProfile) (purpose : ChargingProfilePurposeType) : List PeriodEntry :=
  std.sort (fun a b => decide (a.start < b.start))
    ((profiles.filter fun profile => profile.chargingProfilePurpose = purpose).flatMap
      (calculateProfileUnsorted now stop sessionStart))

variable {sessionStart : Option ℤ} {profiles : List ChargingProfile}
  {purpose : ChargingProfilePurposeType} {e : PeriodEntry} {std : StdSort} {inNow inEnd : ℤ}

lemma mem_calculateAllProfiles
    (h : e ∈ calculateAllProfiles std inNow inEnd sessionStart profiles purpose) :
    ∃ profile ∈ profiles, ∃ period ∈ profile.chargingSchedule.chargingSchedulePeriod,
      ∃ slot : Slot, slot.Delivered inNow ∧ slot.start ≤ inEnd ∧
        e = PeriodEntry.init slot period profile := by
  rw [calculateAllProfiles, (std.perm _ _).mem_iff, List.mem_flatMap] at h
  obtain ⟨profile, hprof, hunsorted⟩ := h
  rw [calculateProfileUnsorted, List.mem_flatMap] at hunsorted
  obtain ⟨⟨period, index⟩, hper, hentry⟩ := hunsorted
  obtain ⟨hslot, hstop⟩ := List.mem_filter.mp hentry
  obtain ⟨slot, hmem, rfl⟩ := List.mem_map.mp hslot
  have hstart : slot.start ≤ inEnd := of_decide_eq_true hstop
  exact ⟨profile, (List.mem_filter.mp hprof).1, period, List.fst_mem_of_mem_zipIdx hper, slot,
    calculateProfileEntry_delivered hmem, hstart, rfl⟩

lemma calculateAllProfiles_delivered
    (h : e ∈ calculateAllProfiles std inNow inEnd sessionStart profiles purpose) :
    Delivered (floorSeconds inNow) (floorSeconds inEnd) e := by
  obtain ⟨profile, -, period, -, slot, hslot, hle, rfl⟩ := mem_calculateAllProfiles h
  exact hslot.entry rfl rfl hle

def generateProfileFromPeriods (std : StdSort) (periods : List PeriodEntry) (inNow inEnd : ℤ) :
    Option (List IntermediatePeriod) :=
  SmartCharging.generateProfileFromPeriods std periods inNow inEnd

variable (period : IntermediatePeriod) (currentDefault powerDefault : ℚ)
  (periods : List IntermediatePeriod)

def IntermediatePeriod.hasLimit : Bool :=
  period.currentLimit ≠ noLimitSpecified || period.powerLimit ≠ noLimitSpecified

def preferFirst : IntermediatePeriod :=
  match periods.find? IntermediatePeriod.hasLimit with
  | some it => { it with startPeriod := 0, phaseToUse := none }
  | none => defaultIntermediatePeriod 0

def mergeTxProfileWithTxDefaultProfile (txProfile txDefaultProfile : List IntermediatePeriod) :
    List IntermediatePeriod :=
  combineListOfProfiles [txProfile, txDefaultProfile] preferFirst

def lowerPeriod (period it : IntermediatePeriod) : IntermediatePeriod :=
  let lowersCurrent := 0 ≤ it.currentLimit ∧ it.currentLimit < period.currentLimit
  let lowersPower := 0 ≤ it.powerLimit ∧ it.powerLimit < period.powerLimit
  { period with
    currentLimit := if lowersCurrent then it.currentLimit else period.currentLimit
    stackLevelCurrent := if lowersCurrent then it.stackLevelCurrent else period.stackLevelCurrent
    powerLimit := if lowersPower then it.powerLimit else period.powerLimit
    stackLevelPower := if lowersPower then it.stackLevelPower else period.stackLevelPower
    numberPhases := lowerPhases period.numberPhases it.numberPhases }

def clearUnlowered : IntermediatePeriod :=
  { period with
    currentLimit := if period.currentLimit = floatMax then noLimitSpecified else period.currentLimit
    stackLevelCurrent := if period.currentLimit = floatMax then 0 else period.stackLevelCurrent
    powerLimit := if period.powerLimit = floatMax then noLimitSpecified else period.powerLimit
    stackLevelPower := if period.powerLimit = floatMax then 0 else period.stackLevelPower }

def lowestLimits : IntermediatePeriod :=
  clearUnlowered (periods.foldl lowerPeriod
    { defaultIntermediatePeriod 0 with currentLimit := floatMax, powerLimit := floatMax })

def mergeProfilesByLowestLimit (profiles : List (List IntermediatePeriod)) :
    List IntermediatePeriod :=
  combineListOfProfiles profiles lowestLimits

def addPeriod (period it : IntermediatePeriod) : IntermediatePeriod :=
  { period with
    currentLimit := period.currentLimit +
      if 0 ≤ it.currentLimit then it.currentLimit else currentDefault
    powerLimit := period.powerLimit + if 0 ≤ it.powerLimit then it.powerLimit else powerDefault
    numberPhases := higherPhases period.numberPhases it.numberPhases }

/-- The stack level cannot be determined when limits are summed. -/
def sumLimits : IntermediatePeriod :=
  periods.foldl (addPeriod currentDefault powerDefault)
    { defaultIntermediatePeriod 0 with currentLimit := 0, powerLimit := 0 }

def mergeProfilesBySummingLimits (profiles : List (List IntermediatePeriod))
    (currentDefault powerDefault : ℚ) : List IntermediatePeriod :=
  combineListOfProfiles profiles (sumLimits currentDefault powerDefault)

structure EnhancedChargingSchedulePeriod where
  startPeriod : ℤ
  limit : ℚ
  numberPhases : Option ℤ
  stackLevel : ℤ
  periodTransformed : Bool
  deriving DecidableEq, Repr

def EnhancedChargingSchedulePeriod.differs (period back : EnhancedChargingSchedulePeriod) : Bool :=
  period.limit ≠ back.limit || period.numberPhases ≠ back.numberPhases ||
    period.stackLevel ≠ back.stackLevel

def lowerOf (own other : ℚ) (ownStackLevel otherStackLevel : ℤ) (convert : ℚ → ℚ)
    (period : EnhancedChargingSchedulePeriod) : EnhancedChargingSchedulePeriod :=
  let period := if own ≠ noLimitSpecified then
      { period with limit := own, stackLevel := ownStackLevel, periodTransformed := false }
    else { period with limit := floatMax }
  if other ≠ noLimitSpecified ∧ convert other < period.limit then
    { period with limit := convert other, stackLevel := otherStackLevel, periodTransformed := true }
  else period

def convertPeriod (chargingRateUnit : ChargingRateUnit) (defaultLimit : ℚ)
    (defaultNumberPhases : ℤ) (supplyVoltage : ℚ) (period : IntermediatePeriod) :
    EnhancedChargingSchedulePeriod :=
  let periodOut : EnhancedChargingSchedulePeriod :=
    { startPeriod := period.startPeriod, limit := defaultLimit,
      numberPhases := period.numberPhases, stackLevel := 0, periodTransformed := false }
  if period.hasLimit then
    let transformValue := supplyVoltage * (period.numberPhases.getD defaultNumberPhases : ℤ)
    match chargingRateUnit with
    | .A => lowerOf period.currentLimit period.powerLimit period.stackLevelCurrent
        period.stackLevelPower (· / transformValue) periodOut
    | .W => lowerOf period.powerLimit period.currentLimit period.stackLevelPower
        period.stackLevelCurrent (· * transformValue) periodOut
  else periodOut

def convertIntermediateIntoSchedule (profile : List IntermediatePeriod)
    (chargingRateUnit : ChargingRateUnit) (defaultLimit : ℚ) (defaultNumberPhases : ℤ)
    (supplyVoltage : ℚ) : List EnhancedChargingSchedulePeriod :=
  compress EnhancedChargingSchedulePeriod.differs
    (profile.map (convertPeriod chargingRateUnit defaultLimit defaultNumberPhases supplyVoltage))

end Everest.SmartCharging.V16
