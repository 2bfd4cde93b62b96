import Everest.SmartCharging.MergeV2
import Everest.SmartCharging.ProfileV16

namespace Everest.SmartCharging

structure Configuration (Purpose : Type) where
  ignoredProfilePurposesOffline : List Purpose := []
  compositeScheduleDefaultLimitAmps : Option ℤ := none
  compositeScheduleDefaultLimitWatts : Option ℤ := none
  compositeScheduleDefaultNumberPhases : Option ℤ := none
  supplyVoltage : Option ℤ := none

structure CompositeScheduleConfig (Purpose : Type) where
  purposesToIgnore : List Purpose
  currentLimit : ℚ
  powerLimit : ℚ
  defaultNumberPhases : ℤ
  supplyVoltage : ℚ

def CompositeScheduleConfig.of {Purpose : Type} (configuration : Configuration Purpose)
    (isOffline : Bool) : CompositeScheduleConfig Purpose where
  purposesToIgnore := if isOffline then configuration.ignoredProfilePurposesOffline else []
  currentLimit := configuration.compositeScheduleDefaultLimitAmps.getD 48
  powerLimit := configuration.compositeScheduleDefaultLimitWatts.getD 33120
  defaultNumberPhases := configuration.compositeScheduleDefaultNumberPhases.getD 3
  supplyVoltage := configuration.supplyVoltage.getD 230

def CompositeScheduleConfig.defaultLimit {Purpose : Type} (config : CompositeScheduleConfig Purpose)
    (chargingRateUnit : ChargingRateUnit) : ℚ :=
  match chargingRateUnit with
  | .A => config.currentLimit
  | .W => config.powerLimit

namespace V16

structure Transaction where
  transactionId : Option ℤ
  /-- The timestamp of the energy at the start of the transaction. -/
  startTime : ℤ

structure Connector where
  transaction : Option Transaction
  txDefaultProfiles : List ChargingProfile
  txProfiles : List ChargingProfile

/-- The profiles installed at the charge point. Connector 0 stands for the whole charge point;
`connectors` are the others, in the order of their ids. -/
structure SmartChargingHandler where
  chargePointMaxProfiles : List ChargingProfile
  connectors : List Connector

variable (handler : SmartChargingHandler) (std : StdSort) (connectorId : ℤ)

def SmartChargingHandler.connector? : Option Connector :=
  if 0 < connectorId then handler.connectors[(connectorId - 1).toNat]? else none

def matchesTransaction (transactionId : Option ℤ) (profile : ChargingProfile) : Bool :=
  match profile.transactionId with
  | some id => transactionId = some id
  | none => true

def SmartChargingHandler.getValidProfiles (purposesToIgnore : List ChargingProfilePurposeType) :
    List ChargingProfile :=
  let chargePointMax :=
    if .chargePointMaxProfile ∈ purposesToIgnore then [] else handler.chargePointMaxProfiles
  match handler.connector? connectorId with
  | none => chargePointMax
  | some connector =>
    let transactionId := connector.transaction.bind (·.transactionId)
    let tx := if .txProfile ∈ purposesToIgnore then []
      else connector.txProfiles.filter (matchesTransaction transactionId)
    let txDefault :=
      if .txDefaultProfile ∈ purposesToIgnore then [] else connector.txDefaultProfiles
    chargePointMax ++ tx ++ txDefault

def SmartChargingHandler.sessionStart : Option ℤ :=
  ((handler.connector? connectorId).bind (·.transaction)).map fun transaction =>
    floorSeconds transaction.startTime

def purposeProfile (startTime endTime : ℤ) (sessionStart : Option ℤ)
    (profiles : List ChargingProfile) (purpose : ChargingProfilePurposeType) :
    Option (List IntermediatePeriod) :=
  generateProfileFromPeriods std
    (calculateAllProfiles std startTime endTime sessionStart profiles purpose) startTime endTime

def generateEvseIntermediates (evseProfiles stationWideProfiles : List ChargingProfile)
    (startTime endTime : ℤ) (sessionStart : Option ℤ) (simulateTransactionActive : Bool) :
    Option (List (List IntermediatePeriod)) :=
  -- combine the profiles with those from the station
  let profiles := evseProfiles ++ stationWideProfiles
  if sessionStart.isSome || simulateTransactionActive then do
    let txDefault ← purposeProfile std startTime endTime sessionStart profiles .txDefaultProfile
    let tx ← purposeProfile std startTime endTime sessionStart profiles .txProfile
    return [mergeTxProfileWithTxDefaultProfile tx txDefault]
  else return []

structure EnhancedChargingSchedule where
  startSchedule : ℤ
  duration : ℤ
  chargingRateUnit : ChargingRateUnit
  chargingSchedulePeriod : List EnhancedChargingSchedulePeriod

def SmartChargingHandler.combinedProfiles
    (config : CompositeScheduleConfig ChargingProfilePurposeType) (startTime endTime evseId : ℤ)
    (simulateTransactionActive : Bool) : Option (List (List IntermediatePeriod)) :=
  let stationWideProfiles := handler.getValidProfiles 0 config.purposesToIgnore
  let intermediates := fun evse : ℤ =>
    generateEvseIntermediates std (handler.getValidProfiles evse config.purposesToIgnore)
      stationWideProfiles startTime endTime (handler.sessionStart evse) simulateTransactionActive
  if evseId = 0 then do
    let evseSchedules ← (List.range handler.connectors.length).mapM fun n => do
      let profiles ← intermediates (n + 1)
      return mergeProfilesByLowestLimit profiles
    return [mergeProfilesBySummingLimits evseSchedules config.currentLimit config.powerLimit]
  else intermediates evseId

/-- The session start that the station wide profiles are placed with; for connector 0 it is left
over from the last connector. -/
def SmartChargingHandler.lastSessionStart (evseId : ℤ) : Option ℤ :=
  handler.sessionStart (if evseId = 0 then handler.connectors.length else evseId)

def SmartChargingHandler.calculateEnhancedCompositeSchedule
    (configuration : Configuration ChargingProfilePurposeType) (startTime endTime evseId : ℤ)
    (chargingRateUnit : ChargingRateUnit) (isOffline simulateTransactionActive : Bool) :
    Option EnhancedChargingSchedule := do
  let config := CompositeScheduleConfig.of configuration isOffline
  let combinedProfiles ←
    handler.combinedProfiles std config startTime endTime evseId simulateTransactionActive
  let chargePointMax ← purposeProfile std startTime endTime (handler.lastSessionStart evseId)
    (handler.getValidProfiles 0 config.purposesToIgnore) .chargePointMaxProfile
  let retval := mergeProfilesByLowestLimit (combinedProfiles ++ [chargePointMax])
  return {
    startSchedule := floorSeconds startTime
    duration := elapsedSeconds (floorSeconds endTime) (floorSeconds startTime)
    chargingRateUnit
    chargingSchedulePeriod := convertIntermediateIntoSchedule retval chargingRateUnit
      (config.defaultLimit chargingRateUnit) config.defaultNumberPhases config.supplyVoltage }

end V16

namespace V2

/-- The state that a composite schedule is calculated from. `validProfiles` are the profiles
stored for an EVSE, or for the station as EVSE 0, that pass validation and have not expired. -/
structure Station where
  validProfiles : ℤ → List ChargingProfile
  /-- For each EVSE the start of its transaction. -/
  evses : List (Option ℤ)
  ocppVersion : OcppProtocolVersion

variable (station : Station) (std : StdSort) (evseId : ℤ)

def Station.getValidProfilesForEvse (purposesToIgnore : List ChargingProfilePurpose) :
    List ChargingProfile :=
  (station.validProfiles evseId).filter fun profile =>
    profile.chargingProfilePurpose ∉ purposesToIgnore

def Station.sessionStart : Option ℤ :=
  if 0 < evseId then (station.evses[(evseId - 1).toNat]?).join else none

def purposeProfile (startTime endTime : ℤ) (sessionStart : Option ℤ)
    (profiles : List ChargingProfile) (purpose : ChargingProfilePurpose) :
    Option (List IntermediatePeriod) :=
  generateProfileFromPeriods std
    (calculateAllProfiles std startTime endTime sessionStart profiles purpose) startTime endTime

def generateEvseIntermediates (evseProfiles stationWideProfiles : List ChargingProfile)
    (startTime endTime : ℤ) (sessionStart : Option ℤ) (simulateTransactionActive : Bool) :
    Option (List (List IntermediatePeriod)) := do
  -- combine the profiles with those from the station
  let profiles := evseProfiles ++ stationWideProfiles
  let externalConstraints ← purposeProfile std startTime endTime sessionStart profiles
    .chargingStationExternalConstraints
  if sessionStart.isSome || simulateTransactionActive then
    let txDefault ← purposeProfile std startTime endTime sessionStart profiles .txDefaultProfile
    let tx ← purposeProfile std startTime endTime sessionStart profiles .txProfile
    return [externalConstraints, mergeTxProfileWithTxDefaultProfile tx txDefault]
  else return [externalConstraints]

structure EnhancedCompositeSchedule where
  evseId : ℤ
  duration : ℤ
  scheduleStart : ℤ
  chargingRateUnit : ChargingRateUnit
  chargingSchedulePeriod : List EnhancedChargingSchedulePeriod

def Station.combinedProfiles (config : CompositeScheduleConfig ChargingProfilePurpose)
    (startTime endTime evseId : ℤ) (simulateTransactionActive : Bool) :
    Option (List (List IntermediatePeriod)) :=
  let stationWideProfiles := station.getValidProfilesForEvse 0 config.purposesToIgnore
  let intermediates := fun evse : ℤ =>
    generateEvseIntermediates std (station.getValidProfilesForEvse evse config.purposesToIgnore)
      stationWideProfiles startTime endTime (station.sessionStart evse) simulateTransactionActive
  if evseId = 0 then do
    let evseSchedules ← (List.range station.evses.length).mapM fun n => do
      let profiles ← intermediates (n + 1)
      return mergeProfilesByLowestLimit profiles station.ocppVersion
    return [mergeProfilesBySummingLimits evseSchedules config.currentLimit config.powerLimit
      station.ocppVersion]
  else intermediates evseId

/-- The session start that the station wide profiles are placed with; for the station it is left
over from the last EVSE. -/
def Station.lastSessionStart : Option ℤ :=
  station.sessionStart (if evseId = 0 then station.evses.length else evseId)

def Station.calculateCompositeSchedule (configuration : Configuration ChargingProfilePurpose)
    (startT endTime evseId : ℤ) (chargingRateUnit : ChargingRateUnit)
    (isOffline simulateTransactionActive : Bool) : Option EnhancedCompositeSchedule := do
  -- handle edge case where start_time > end_time
  let startTime := if startT > endTime then endTime else startT
  let config := CompositeScheduleConfig.of configuration isOffline
  let combinedProfiles ←
    station.combinedProfiles std config startTime endTime evseId simulateTransactionActive
  let chargePointMax ← purposeProfile std startTime endTime (station.lastSessionStart evseId)
    (station.getValidProfilesForEvse 0 config.purposesToIgnore) .chargingStationMaxProfile
  let retval :=
    mergeProfilesByLowestLimit (combinedProfiles ++ [chargePointMax]) station.ocppVersion
  return {
    evseId
    duration := elapsedSeconds (floorSeconds endTime) (floorSeconds startTime)
    scheduleStart := floorSeconds startTime
    chargingRateUnit
    chargingSchedulePeriod := convertIntermediateIntoSchedule retval chargingRateUnit
      (config.defaultLimit chargingRateUnit) config.defaultNumberPhases config.supplyVoltage }

end V2

end Everest.SmartCharging
