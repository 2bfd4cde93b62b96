import Everest.SmartCharging.ProfileStore
import Everest.SmartCharging.ProfileV2

/- The profiles with all that is checked before they are stored, and the table of the database that
keeps them. A decimal that does not fit into a `float` is refused when a message is parsed, so
the values here are rational numbers and none of them is infinite. -/

namespace Everest.SmartCharging.V2

deriving instance DecidableEq for ChargingSchedulePeriod

namespace Store


structure V2XFreqWattPoint where
  frequency : ℚ
  power : ℚ
  deriving DecidableEq

structure LimitAtSoC where
  soc : ℤ
  limit : ℚ
  deriving DecidableEq

/-- A period with the values that only the validation reads. -/
structure ChargingSchedulePeriod extends V2.ChargingSchedulePeriod where
  phaseToUse : Option ℤ := none
  setpointReactive : Option ℚ := none
  setpointReactiveL2 : Option ℚ := none
  setpointReactiveL3 : Option ℚ := none
  evseSleep : Option Bool := none
  v2xBaseline : Option ℚ := none
  v2xFreqWattCurve : Option (List V2XFreqWattPoint) := none
  deriving DecidableEq

structure ChargingSchedule where
  chargingRateUnit : ChargingRateUnit
  chargingSchedulePeriod : List ChargingSchedulePeriod
  limitAtSoC : Option LimitAtSoC := none
  startSchedule : Option ℤ := none
  duration : Option ℤ := none
  useLocalTime : Option Bool := none
  randomizedDelay : Option ℤ := none
  deriving DecidableEq

/-- A charging profile. Points in time are nanoseconds, durations are seconds. -/
structure ChargingProfile where
  id : ℤ
  stackLevel : ℤ
  chargingProfilePurpose : ChargingProfilePurpose
  chargingProfileKind : ChargingProfileKind
  chargingSchedule : List ChargingSchedule
  validFrom : Option ℤ := none
  validTo : Option ℤ := none
  transactionId : Option String := none
  maxOfflineDuration : Option ℤ := none
  invalidAfterOfflineDuration : Option Bool := none
  dynUpdateInterval : Option ℤ := none
  dynUpdateTime : Option ℤ := none
  deriving DecidableEq

def ChargingSchedule.reread (schedule : ChargingSchedule) : ChargingSchedule :=
  { schedule with startSchedule := schedule.startSchedule.map rereadTime }

def ChargingProfile.reread (profile : ChargingProfile) : ChargingProfile :=
  { profile with
    chargingSchedule := profile.chargingSchedule.map (·.reread)
    validFrom := profile.validFrom.map rereadTime
    validTo := profile.validTo.map rereadTime
    dynUpdateTime := profile.dynUpdateTime.map rereadTime }

/-- A row of `CHARGING_PROFILES`. Its other columns repeat the id, the stack level, the purpose
and the transaction id of the profile. -/
structure Row where
  evseId : ℤ
  profile : ChargingProfile
  chargingLimitSource : String
  deriving DecidableEq

abbrev Database := List Row

structure ClearChargingProfile where
  evseId : Option ℤ := none
  chargingProfilePurpose : Option ChargingProfilePurpose := none
  stackLevel : Option ℤ := none

namespace Database

/-- `INSERT OR REPLACE`: the id is the primary key. -/
def insertOrUpdateChargingProfile (evseId : ℤ) (profile : ChargingProfile)
    (chargingLimitSource : String) (database : Database) : Database :=
  database.filter (·.profile.id ≠ profile.id) ++ [⟨evseId, profile, chargingLimitSource⟩]

def deleteChargingProfile (profileId : ℤ) (database : Database) : Database :=
  database.filter (·.profile.id ≠ profileId)

/-- The filter that the `SELECT` and the `DELETE` of a clear request share. -/
def matchesCriteria (criteria : ClearChargingProfile) (row : Row) : Bool :=
  row.profile.chargingProfilePurpose ≠ .chargingStationExternalConstraints ∧
  criteria.chargingProfilePurpose.all (row.profile.chargingProfilePurpose = ·) ∧
  criteria.stackLevel.all (row.profile.stackLevel = ·) ∧
  criteria.evseId.all (row.evseId = ·)

/-- The ids of the cleared rows and the table without them. -/
def clearChargingProfilesMatchingCriteria (profileId : Option ℤ)
    (criteria : Option ClearChargingProfile) (database : Database) : List ℤ × Database :=
  match profileId with
  | some id =>
    if database.any (·.profile.id = id) then ([id], database.deleteChargingProfile id)
    else ([], database)
  | none =>
    match criteria with
    | none => (database.map (·.profile.id), [])
    | some criteria =>
      if criteria.chargingProfilePurpose.isSome ∨ criteria.evseId.isSome ∨
          criteria.stackLevel.isSome then
        ((database.filter (matchesCriteria criteria)).map (·.profile.id),
          database.filter fun row => ¬matchesCriteria criteria row)
      else ([], database)

def getChargingProfile (id : ℤ) (database : Database) : Option Row :=
  (database.find? (·.profile.id = id)).map fun row => { row with profile := row.profile.reread }

def getChargingProfilesForEvse (evseId : ℤ) (database : Database) : List ChargingProfile :=
  (database.filter (·.evseId = evseId)).map (·.profile.reread)

def getEvseSpecificTxDefaultProfiles (database : Database) : List ChargingProfile :=
  (database.filter fun row =>
    row.evseId ≠ 0 ∧ row.profile.chargingProfilePurpose = .txDefaultProfile).map (·.profile.reread)

def getStationWideTxDefaultProfiles (database : Database) : List ChargingProfile :=
  (database.filter fun row =>
    row.evseId = 0 ∧ row.profile.chargingProfilePurpose = .txDefaultProfile).map (·.profile.reread)

end Database

end Store

end Everest.SmartCharging.V2
