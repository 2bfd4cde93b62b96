import Everest.SmartCharging.ProfileV2

namespace Everest.SmartCharging.V2

open Timeline

/-- Whether a period says anything; an operation mode other than charging is enough. -/
def IntermediatePeriod.isSpecified (it : IntermediatePeriod) : Bool :=
  let default := defaultIntermediatePeriod 0
  !it.currentLimit.same default.currentLimit || !it.powerLimit.same default.powerLimit ||
    !it.currentDischargeLimit.same default.currentDischargeLimit ||
    !it.powerDischargeLimit.same default.powerDischargeLimit ||
    !it.currentSetpoint.same default.currentSetpoint ||
    !it.powerSetpoint.same default.powerSetpoint ||
    effectiveMode it.operationMode ≠ .chargingOnly

variable (period : IntermediatePeriod) (numberPhases : Option ℤ) (ocppVersion : OcppProtocolVersion)
  (periods : List IntermediatePeriod)

def preferFirst : IntermediatePeriod :=
  match periods.find? IntermediatePeriod.isSpecified with
  | some it => { it with startPeriod := 0, phaseToUse := none }
  | none => defaultIntermediatePeriod 0

def mergeTxProfileWithTxDefaultProfile (txProfile txDefaultProfile : List IntermediatePeriod) :
    List IntermediatePeriod :=
  combineListOfProfiles [txProfile, txDefaultProfile] preferFirst

def smallestMagnitude (value1 value2 : ℚ) : ℚ := if |value2| < |value1| then value2 else value1

/-- On one phase the most restrictive value is left. -/
def PeriodLimit.onOnePhase (value : PeriodLimit) (noLimit : ℚ) : PeriodLimit :=
  if isEqual value.limit noLimit then value
  else
    let value := if isEqual value.limitL2 noLimit then value
      else { value with limit := smallestMagnitude value.limit value.limitL2, limitL2 := noLimit }
    if isEqual value.limitL3 noLimit then value
    else { value with limit := smallestMagnitude value.limit value.limitL3, limitL3 := noLimit }

/-- A current on several phases: phases without a value get that of phase 1. -/
def PeriodLimit.fillCurrent (value : PeriodLimit) (noLimit : ℚ) (hasL3 : Bool) : PeriodLimit :=
  if isEqual value.limit noLimit then value
  else
    { value with
      limitL2 := if isEqual value.limitL2 noLimit then value.limit else value.limitL2
      limitL3 := if hasL3 && isEqual value.limitL3 noLimit then value.limit else value.limitL3 }

/-- A power on several phases: a total is divided by the number of phases. -/
def PeriodLimit.fillPower (value : PeriodLimit) (noLimit : ℚ) (hasL3 : Bool) (numberPhases : ℤ) :
    PeriodLimit :=
  if isEqual value.limit noLimit then value
  else if isEqual value.limitL2 noLimit && isEqual value.limitL3 noLimit then
    let perPhase := value.limit / numberPhases
    { limit := perPhase, limitL2 := perPhase, limitL3 := if hasL3 then perPhase else value.limitL3 }
  else
    { value with
      limitL2 := if isEqual value.limitL2 noLimit then value.limit else value.limitL2
      limitL3 := if hasL3 && isEqual value.limitL3 noLimit then value.limit else value.limitL3 }

def setSetpointLimitPhaseValues (current power : PeriodLimit) (noLimit : ℚ)
    (numberPhases : Option ℤ) (ocppVersion : OcppProtocolVersion) : PeriodLimit × PeriodLimit :=
  match ocppVersion, numberPhases with
  | .v201, _ => (current, power)
  | .v21, none => (current, power)
  | .v21, some n =>
    if n = 1 then (current.onOnePhase noLimit, power.onOnePhase noLimit)
    else if n < 1 then (current, power)
    else (current.fillCurrent noLimit (3 ≤ n), power.fillPower noLimit (3 ≤ n) n)

def usesThreePhaseValues : Bool :=
  !isEqual period.currentLimit.limitL2 noLimitSpecified ||
    !isEqual period.currentLimit.limitL3 noLimitSpecified ||
    !isEqual period.powerLimit.limitL2 noLimitSpecified ||
    !isEqual period.powerLimit.limitL3 noLimitSpecified ||
    !isEqual period.currentDischargeLimit.limitL2 noDischargeLimitSpecified ||
    !isEqual period.currentDischargeLimit.limitL3 noDischargeLimitSpecified ||
    !isEqual period.powerDischargeLimit.limitL2 noDischargeLimitSpecified ||
    !isEqual period.powerDischargeLimit.limitL3 noDischargeLimitSpecified ||
    !isEqual period.currentSetpoint.limitL2 noSetpointSpecified ||
    !isEqual period.currentSetpoint.limitL3 noSetpointSpecified ||
    !isEqual period.powerSetpoint.limitL2 noSetpointSpecified ||
    !isEqual period.powerSetpoint.limitL3 noSetpointSpecified

def IntermediatePeriod.perPhase : IntermediatePeriod :=
  let limits := setSetpointLimitPhaseValues period.currentLimit period.powerLimit
    noLimitSpecified numberPhases ocppVersion
  let dischargeLimits := setSetpointLimitPhaseValues period.currentDischargeLimit
    period.powerDischargeLimit noDischargeLimitSpecified numberPhases ocppVersion
  let setpoints := setSetpointLimitPhaseValues period.currentSetpoint period.powerSetpoint
    noSetpointSpecified numberPhases ocppVersion
  { period with
    currentLimit := limits.1, powerLimit := limits.2
    currentDischargeLimit := dischargeLimits.1, powerDischargeLimit := dischargeLimits.2
    currentSetpoint := setpoints.1, powerSetpoint := setpoints.2 }

/-- The maximum of two values, where the second counts only if it is negative, and of a cap. -/
def getMaxLimit (limit1 limit2 : ℚ) (capMax : Option ℚ) : ℚ :=
  let limit := if limit2 < 0 then max limit1 limit2 else limit1
  match capMax with
  | some cap => max limit cap
  | none => limit

/-- The minimum of two values, where the second counts unless it is negative, and of a cap. -/
def getMinLimit (limit1 limit2 : ℚ) (capMin : Option ℚ) : ℚ :=
  let limit := if 0 ≤ limit2 then min limit1 limit2 else limit1
  match capMin with
  | some cap => min limit cap
  | none => limit

def PeriodLimit.zipWith (f : ℚ → ℚ → Option ℚ → ℚ) (limit1 limit2 : PeriodLimit)
    (cap : Option PeriodLimit) : PeriodLimit where
  limit := f limit1.limit limit2.limit (cap.map (·.limit))
  limitL2 := f limit1.limitL2 limit2.limitL2 (cap.map (·.limitL2))
  limitL3 := f limit1.limitL3 limit2.limitL3 (cap.map (·.limitL3))

def PeriodLimit.isSetpoint (setpoint : PeriodLimit) : Bool :=
  !isEqual setpoint.limit noSetpointSpecified

/-- Of two setpoints that are set, the lower one for charging and the higher one for
discharging; the sign of the first decides which. -/
def mergedSetpoint (setpoint1 setpoint2 : PeriodLimit) : ℚ :=
  if setpoint1.isSetpoint && setpoint2.isSetpoint then
    if setpoint1.limit < 0 then max setpoint1.limit setpoint2.limit
    else min setpoint1.limit setpoint2.limit
  else if setpoint2.isSetpoint then setpoint2.limit
  else setpoint1.limit

/-- The merged setpoint within the limits: positive values are capped by the limit, negative ones
by the discharge limit. -/
def getSetSetpointLimit (setpoint1 setpoint2 capLimit capDischargeLimit : PeriodLimit) :
    PeriodLimit :=
  if setpoint1.isSetpoint || setpoint2.isSetpoint then
    let setpoint := { setpoint1 with limit := mergedSetpoint setpoint1 setpoint2 }
    if setpoint.limit < 0 then
      PeriodLimit.zipWith getMaxLimit setpoint setpoint2 (some capDischargeLimit)
    else PeriodLimit.zipWith getMinLimit setpoint setpoint2 (some capLimit)
  else setpoint1

/-- A mode other than charging replaces charging; of two such modes the first one stays. -/
def mergeMode (mode new : Option OperationMode) : Option OperationMode :=
  if effectiveMode new ≠ .chargingOnly ∧ effectiveMode mode = .chargingOnly then new else mode

def lowerPeriod (period new : IntermediatePeriod) : IntermediatePeriod :=
  let currentLimit := PeriodLimit.zipWith getMinLimit period.currentLimit new.currentLimit none
  let powerLimit := PeriodLimit.zipWith getMinLimit period.powerLimit new.powerLimit none
  let currentDischargeLimit :=
    PeriodLimit.zipWith getMaxLimit period.currentDischargeLimit new.currentDischargeLimit none
  let powerDischargeLimit :=
    PeriodLimit.zipWith getMaxLimit period.powerDischargeLimit new.powerDischargeLimit none
  { period with
    stackLevelCurrent :=
      if 0 ≤ new.currentLimit.limit ∧ new.currentLimit.limit < period.currentLimit.limit then
        new.stackLevelCurrent
      else period.stackLevelCurrent
    stackLevelPower :=
      if 0 ≤ new.powerLimit.limit ∧ new.powerLimit.limit < period.powerLimit.limit then
        new.stackLevelPower
      else period.stackLevelPower
    currentLimit, powerLimit, currentDischargeLimit, powerDischargeLimit
    currentSetpoint := getSetSetpointLimit period.currentSetpoint new.currentSetpoint currentLimit
      currentDischargeLimit
    powerSetpoint := getSetSetpointLimit period.powerSetpoint new.powerSetpoint powerLimit
      powerDischargeLimit
    operationMode := mergeMode period.operationMode new.operationMode }

def PeriodLimit.replaceMaxWithNoLimit (value : PeriodLimit) (maxValue replacement : ℚ) :
    PeriodLimit where
  limit := if isEqual value.limit maxValue then replacement else value.limit
  limitL2 := if isEqual value.limitL2 maxValue then replacement else value.limitL2
  limitL3 := if isEqual value.limitL3 maxValue then replacement else value.limitL3

def clearUnlowered : IntermediatePeriod :=
  { period with
    stackLevelCurrent :=
      if period.currentLimit.limit = floatMax then 0 else period.stackLevelCurrent
    stackLevelPower := if period.powerLimit.limit = floatMax then 0 else period.stackLevelPower
    currentLimit := period.currentLimit.replaceMaxWithNoLimit floatMax noLimitSpecified
    powerLimit := period.powerLimit.replaceMaxWithNoLimit floatMax noLimitSpecified
    currentSetpoint := period.currentSetpoint.replaceMaxWithNoLimit floatMax noSetpointSpecified
    powerSetpoint := period.powerSetpoint.replaceMaxWithNoLimit floatMax noSetpointSpecified
    currentDischargeLimit := period.currentDischargeLimit.replaceMaxWithNoLimit
      noDischargeLimitSpecified noDischargeLimitSpecified
    powerDischargeLimit := period.powerDischargeLimit.replaceMaxWithNoLimit
      noDischargeLimitSpecified noDischargeLimitSpecified }

def threePhasesUsed : Bool :=
  periods.any fun it => ocppVersion = .v21 && usesThreePhaseValues it

def IntermediatePeriod.prepared (threePhases : Bool) (it : IntermediatePeriod) :
    IntermediatePeriod :=
  if threePhases then it.perPhase numberPhases ocppVersion else it

def lowestLimits : IntermediatePeriod :=
  let numberPhases := (periods.map (·.numberPhases)).foldl lowerPhases none
  let prepared := periods.map
    (IntermediatePeriod.prepared numberPhases ocppVersion (threePhasesUsed ocppVersion periods))
  clearUnlowered (prepared.foldl lowerPeriod
    { defaultIntermediatePeriod 0 with
      currentLimit := .all floatMax, powerLimit := .all floatMax
      currentSetpoint := .all floatMax, powerSetpoint := .all floatMax
      numberPhases })

def mergeProfilesByLowestLimit (profiles : List (List IntermediatePeriod))
    (ocppVersion : OcppProtocolVersion) : List IntermediatePeriod :=
  combineListOfProfiles profiles (lowestLimits ocppVersion)

/-- Add the specified value or the default; without values per phase L2 and L3 stay unset. -/
def PeriodLimit.addLimit (threePhases : Bool) (default : ℚ) (sum new : PeriodLimit) :
    PeriodLimit where
  limit := sum.limit + if 0 ≤ new.limit then new.limit else default
  limitL2 := if threePhases then sum.limitL2 + if 0 ≤ new.limitL2 then new.limitL2 else default
    else noLimitSpecified
  limitL3 := if threePhases then sum.limitL3 + if 0 ≤ new.limitL3 then new.limitL3 else default
    else noLimitSpecified

def addPeriod (threePhases : Bool) (currentDefault powerDefault : ℚ)
    (period new : IntermediatePeriod) : IntermediatePeriod :=
  { period with
    currentLimit := period.currentLimit.addLimit threePhases currentDefault new.currentLimit
    powerLimit := period.powerLimit.addLimit threePhases powerDefault new.powerLimit }

def sumLimits (currentDefault powerDefault : ℚ) (ocppVersion : OcppProtocolVersion)
    (periods : List IntermediatePeriod) : IntermediatePeriod :=
  let numberPhases := (periods.map (·.numberPhases)).foldl higherPhases none
  let threePhases := threePhasesUsed ocppVersion periods
  let prepared := periods.map (IntermediatePeriod.prepared numberPhases ocppVersion threePhases)
  prepared.foldl (addPeriod threePhases currentDefault powerDefault)
    { defaultIntermediatePeriod 0 with
      currentLimit := .all 0, powerLimit := .all 0
      -- value-initialised and never written
      currentDischargeLimit := .all 0, powerDischargeLimit := .all 0
      numberPhases }

def mergeProfilesBySummingLimits (profiles : List (List IntermediatePeriod))
    (currentDefault powerDefault : ℚ) (ocppVersion : OcppProtocolVersion) :
    List IntermediatePeriod :=
  combineListOfProfiles profiles (sumLimits currentDefault powerDefault ocppVersion)

structure PhaseValues where
  value : Option ℚ
  valueL2 : Option ℚ
  valueL3 : Option ℚ
  deriving DecidableEq, Repr

structure EnhancedChargingSchedulePeriod where
  startPeriod : ℤ
  limit : PhaseValues
  numberPhases : Option ℤ
  dischargeLimit : PhaseValues
  setpoint : PhaseValues
  operationMode : Option OperationMode
  stackLevel : ℤ
  deriving DecidableEq, Repr

def EnhancedChargingSchedulePeriod.differs (period back : EnhancedChargingSchedulePeriod) : Bool :=
  period.limit.value ≠ back.limit.value || period.numberPhases ≠ back.numberPhases ||
    period.setpoint.value ≠ back.setpoint.value ||
    period.dischargeLimit.value ≠ back.dischargeLimit.value ||
    period.operationMode ≠ back.operationMode

def storeLimitToPhaseLimits (inputLimit : PeriodLimit) (notSpecified : ℚ) (values : PhaseValues) :
    PhaseValues where
  value := if isEqual inputLimit.limit notSpecified then values.value else some inputLimit.limit
  valueL2 := if isEqual inputLimit.limitL2 notSpecified then values.valueL2
    else some inputLimit.limitL2
  valueL3 := if isEqual inputLimit.limitL3 notSpecified then values.valueL3
    else some inputLimit.limitL3

def convertAndTransformLimitValue (input notSpecified transformValue : ℚ) (value : Option ℚ)
    (useMin useDivide : Bool) : Option ℚ :=
  if isEqual input notSpecified then value
  else
    let transformedValue := if useDivide then input / transformValue else input * transformValue
    match value with
    | some v => some (if useMin then min v transformedValue else max v transformedValue)
    | none => some transformedValue

def convertAndTransformLimitToPeriodSchedule (inputLimit : PeriodLimit)
    (notSpecified transformValue : ℚ) (numberPhases : ℤ) (values : PhaseValues)
    (useMin useDivide : Bool) : PhaseValues :=
  -- without values for L2 and L3 the limit is the total over all phases
  let t := if isEqual inputLimit.limitL2 notSpecified && isEqual inputLimit.limitL3 notSpecified
    then transformValue * numberPhases else transformValue
  { value := convertAndTransformLimitValue inputLimit.limit notSpecified t values.value useMin
      useDivide
    valueL2 := convertAndTransformLimitValue inputLimit.limitL2 notSpecified t values.valueL2 useMin
      useDivide
    valueL3 := convertAndTransformLimitValue inputLimit.limitL3 notSpecified t values.valueL3 useMin
      useDivide }

/-- The values in the requested unit, then those in the other unit converted. -/
def bothUnits (own other : PeriodLimit) (notSpecified supplyVoltage : ℚ) (numberPhases : ℤ)
    (values : PhaseValues) (useMin useDivide : Bool) : PhaseValues :=
  convertAndTransformLimitToPeriodSchedule other notSpecified supplyVoltage numberPhases
    (storeLimitToPhaseLimits own notSpecified values) useMin useDivide

/-- The limit before any value of the period is stored: the default if it has no limit at all. -/
def initialLimit (defaultLimit : ℚ) (period : IntermediatePeriod) : PhaseValues :=
  if isEqual period.currentLimit.limit noLimitSpecified &&
      isEqual period.powerLimit.limit noLimitSpecified then
    ⟨some defaultLimit, none, none⟩
  else ⟨some floatMax, none, none⟩

def convertPeriod (chargingRateUnit : ChargingRateUnit) (defaultLimit : ℚ)
    (defaultNumberPhases : ℤ) (supplyVoltage : ℚ) (period : IntermediatePeriod) :
    EnhancedChargingSchedulePeriod :=
  let numberPhases := period.numberPhases.getD defaultNumberPhases
  let unset : PhaseValues := ⟨none, none, none⟩
  let limit := initialLimit defaultLimit period
  match chargingRateUnit with
  | .A =>
    { startPeriod := period.startPeriod
      numberPhases := period.numberPhases
      operationMode := period.operationMode
      stackLevel :=
        if period.currentLimit.limit ≠ noLimitSpecified then period.stackLevelCurrent else 0
      limit := bothUnits period.currentLimit period.powerLimit noLimitSpecified supplyVoltage
        numberPhases limit true true
      dischargeLimit := bothUnits period.currentDischargeLimit period.powerDischargeLimit
        noDischargeLimitSpecified supplyVoltage numberPhases unset false true
      setpoint := bothUnits period.currentSetpoint period.powerSetpoint noSetpointSpecified
        supplyVoltage numberPhases unset true true }
  | .W =>
    { startPeriod := period.startPeriod
      numberPhases := period.numberPhases
      operationMode := period.operationMode
      stackLevel :=
        if period.powerLimit.limit ≠ noLimitSpecified then period.stackLevelPower else 0
      limit := bothUnits period.powerLimit period.currentLimit noLimitSpecified supplyVoltage
        numberPhases limit true false
      dischargeLimit := bothUnits period.powerDischargeLimit period.currentDischargeLimit
        noDischargeLimitSpecified supplyVoltage numberPhases unset false false
      setpoint := bothUnits period.powerSetpoint period.currentSetpoint noSetpointSpecified
        supplyVoltage numberPhases unset true false }

def convertIntermediateIntoSchedule (profile : List IntermediatePeriod)
    (chargingRateUnit : ChargingRateUnit) (defaultLimit : ℚ) (defaultNumberPhases : ℤ)
    (supplyVoltage : ℚ) : List EnhancedChargingSchedulePeriod :=
  compress EnhancedChargingSchedulePeriod.differs
    (profile.map (convertPeriod chargingRateUnit defaultLimit defaultNumberPhases supplyVoltage))

end Everest.SmartCharging.V2
