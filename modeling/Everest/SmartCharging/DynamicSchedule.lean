import Everest.SmartCharging.ValidationV2

namespace Everest.SmartCharging.V2.Store

structure ChargingScheduleUpdate where
  limit : Option ℚ := none
  limitL2 : Option ℚ := none
  limitL3 : Option ℚ := none
  dischargeLimit : Option ℚ := none
  dischargeLimitL2 : Option ℚ := none
  dischargeLimitL3 : Option ℚ := none
  setpoint : Option ℚ := none
  setpointL2 : Option ℚ := none
  setpointL3 : Option ℚ := none
  setpointReactive : Option ℚ := none
  setpointReactiveL2 : Option ℚ := none
  setpointReactiveL3 : Option ℚ := none
  deriving DecidableEq

def ChargingScheduleUpdate.noFieldsSet (update : ChargingScheduleUpdate) : Bool := update = {}

def ChargingSchedulePeriod.update (period : ChargingSchedulePeriod)
    (update : ChargingScheduleUpdate) : ChargingSchedulePeriod :=
  { period with
    limit := update.limit <|> period.limit
    limitL2 := update.limitL2 <|> period.limitL2
    limitL3 := update.limitL3 <|> period.limitL3
    dischargeLimit := update.dischargeLimit <|> period.dischargeLimit
    dischargeLimitL2 := update.dischargeLimitL2 <|> period.dischargeLimitL2
    dischargeLimitL3 := update.dischargeLimitL3 <|> period.dischargeLimitL3
    setpoint := update.setpoint <|> period.setpoint
    setpointL2 := update.setpointL2 <|> period.setpointL2
    setpointL3 := update.setpointL3 <|> period.setpointL3
    setpointReactive := update.setpointReactive <|> period.setpointReactive
    setpointReactiveL2 := update.setpointReactiveL2 <|> period.setpointReactiveL2
    setpointReactiveL3 := update.setpointReactiveL3 <|> period.setpointReactiveL3 }

def updateSchedules (update : ChargingScheduleUpdate) :
    List ChargingSchedule → Option (List ChargingSchedule)
  | [] => none
  | schedule :: schedules =>
    match schedule.chargingSchedulePeriod with
    | [] => none
    | period :: periods =>
      some ({ schedule with
        chargingSchedulePeriod := period.update update :: periods } :: schedules)

/-- The profile that `apply_update` writes back, or `none` if its schedule is malformed. -/
def ChargingProfile.applyUpdate (profile : ChargingProfile) (update : ChargingScheduleUpdate)
    (now : ℤ) : Option ChargingProfile :=
  if update.noFieldsSet then some { profile with dynUpdateTime := some now }
  else (updateSchedules update profile.chargingSchedule).map fun schedules =>
    { profile with dynUpdateTime := some now, chargingSchedule := schedules }

structure UpdateDynamicScheduleResponse where
  status : ChargingProfileStatus
  statusInfo : Option StatusInfo := none
  deriving DecidableEq, Repr

structure PullDynamicScheduleUpdateResponse where
  status : ChargingProfileStatus
  scheduleUpdate : Option ChargingScheduleUpdate := none
  deriving DecidableEq

namespace SmartChargingBlock

def writeBack (matched : Row) (profile : ChargingProfile) (block : SmartChargingBlock) :
    SmartChargingBlock :=
  { block with
    database := block.database.insertOrUpdateChargingProfile matched.evseId profile
      matched.chargingLimitSource }

def handleUpdateDynamicScheduleRequest (now chargingProfileId : ℤ)
    (scheduleUpdate : ChargingScheduleUpdate) (block : SmartChargingBlock) :
    UpdateDynamicScheduleResponse × SmartChargingBlock :=
  match block.database.getChargingProfile chargingProfileId with
  | none => (⟨.rejected, some ⟨"InvalidProfile", "ProfileNotFound"⟩⟩, block)
  | some matched =>
    if matched.profile.chargingProfileKind = .dynamic then
      match matched.profile.applyUpdate scheduleUpdate now with
      | some profile => (⟨.accepted, none⟩, block.writeBack matched profile)
      | none => (⟨.rejected, some ⟨"InternalError", "ProfilePersistFailed"⟩⟩, block)
    else (⟨.rejected, some ⟨"InvalidProfile", "ProfileNotDynamic"⟩⟩, block)

/-- The response to a pull. Whatever cannot be applied is ignored. -/
def applyPullResponse (now chargingProfileId : ℤ) (response : PullDynamicScheduleUpdateResponse)
    (block : SmartChargingBlock) : SmartChargingBlock :=
  match response.status, response.scheduleUpdate with
  | .accepted, some update =>
    match block.database.getChargingProfile chargingProfileId with
    | none => block
    | some matched =>
      if matched.profile.chargingProfileKind = .dynamic then
        match matched.profile.applyUpdate update now with
        | some profile => block.writeBack matched profile
        | none => block
      else block
  | _, _ => block

end SmartChargingBlock

structure Connectivity where
  now : ℤ
  timeDisconnected : ℤ
  restored : ℤ
  pendingReconnect : Option ℤ

/-- Whether the profile is valid at this point of an outage, and whether it is to be cleared. -/
def validateProfileWithOfflineTime (connectivity : Connectivity) (profile : ChargingProfile) :
    Bool × Bool :=
  if profile.invalidAfterOfflineDuration.getD false ∧
      profile.maxOfflineDuration.any fun limit =>
        connectivity.pendingReconnect.any (seconds limit < ·) then (false, true)
  else if connectivity.timeDisconnected = 0 ∨
      connectivity.timeDisconnected = connectivity.restored then (true, false)
  else
    match profile.maxOfflineDuration with
    | none => (true, false)
    | some limit =>
      if connectivity.now - connectivity.timeDisconnected ≤ seconds limit then (true, false)
      else (false, profile.invalidAfterOfflineDuration.getD false)

def dynamicExpiryDeadline (profile : ChargingProfile) : Option ℤ :=
  match profile.chargingProfileKind, profile.chargingSchedule.head?, profile.dynUpdateTime with
  | .dynamic, some schedule, some dynUpdateTime =>
    match schedule.duration with
    | some duration => if 0 < duration then some (dynUpdateTime + seconds duration) else none
    | none => none
  | _, _, _ => none

/-- When the next update of a Dynamic profile is to be pulled: at once if it had none yet. -/
def dynamicPullDeadline (now : ℤ) (profile : ChargingProfile) : Option ℤ :=
  match profile.chargingProfileKind, profile.dynUpdateInterval with
  | .dynamic, some interval =>
    if 0 < interval then
      some (match profile.dynUpdateTime with
        | some dynUpdateTime => dynUpdateTime + seconds interval
        | none => now)
    else none
  | _, _ => none

def dynamicProfileExpired (profile : ChargingProfile) (now : ℤ) : Bool :=
  (dynamicExpiryDeadline profile).any (· ≤ now)

def collectValidProfile (context : Context) (connectivity : Connectivity) (now evseId : ℤ)
    (purposesToIgnore : List ChargingProfilePurpose)
    (found : List ChargingProfile × Database) (profile : ChargingProfile) :
    List ChargingProfile × Database :=
  match validateProfileWithOfflineTime connectivity profile with
  | (false, clear) =>
    if clear then
      (found.1, (found.2.clearChargingProfilesMatchingCriteria (some profile.id) none).2)
    else found
  | (true, _) =>
    if dynamicProfileExpired profile now then found
    else
      match conformAndValidateProfile context found.2 profile evseId .setChargingProfile with
      | .ok conformed =>
        if conformed.chargingProfilePurpose ∈ purposesToIgnore then found
        else (found.1 ++ [conformed], found.2)
      | .error _ => found

/-- The valid profiles of an EVSE, and the table without those that were cleared. -/
def getValidProfilesForEvse (context : Context) (connectivity : Connectivity) (now evseId : ℤ)
    (purposesToIgnore : List ChargingProfilePurpose) (database : Database) :
    List ChargingProfile × Database :=
  (database.getChargingProfilesForEvse evseId).foldl
    (collectValidProfile context connectivity now evseId purposesToIgnore) ([], database)

end Everest.SmartCharging.V2.Store
