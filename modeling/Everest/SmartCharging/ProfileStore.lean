import Everest.Lib.Runs
import Everest.Lib.SortedMap
import Everest.SmartCharging.ProfileV16

namespace Everest.SmartCharging.V16

deriving instance DecidableEq for ChargingSchedulePeriod
deriving instance DecidableEq for ChargingSchedule
deriving instance DecidableEq for ChargingProfile

namespace Store

structure ChargingProfile extends V16.ChargingProfile where
  chargingProfileId : ℤ
  deriving DecidableEq

variable (config : Configuration) (now : ℤ) (profile : ChargingProfile)

/-- What the JSON text of a profile is read back as. -/
def ChargingProfile.reread : ChargingProfile :=
  { profile with
    validFrom := profile.validFrom.map rereadTime
    validTo := profile.validTo.map rereadTime
    chargingSchedule :=
      { profile.chargingSchedule with
        startSchedule := profile.chargingSchedule.startSchedule.map rereadTime } }

structure Row where
  connectorId : ℤ
  profile : ChargingProfile
  deriving DecidableEq

/-- The table, in the order in which the rows were inserted. -/
abbrev Database := List Row

namespace Database

def insertOrUpdateChargingProfile (connectorId : ℤ) (profile : ChargingProfile)
    (database : Database) : Database :=
  let others := database.filter fun row =>
    ¬(row.profile.stackLevel = profile.stackLevel ∧
      row.profile.chargingProfilePurpose = profile.chargingProfilePurpose)
  others.filter (·.profile.chargingProfileId ≠ profile.chargingProfileId) ++
    [⟨connectorId, profile⟩]

def deleteChargingProfile (profileId : ℤ) (database : Database) : Database :=
  database.filter (·.profile.chargingProfileId ≠ profileId)

def getChargingProfiles (database : Database) : List ChargingProfile :=
  database.map (·.profile.reread)

def getConnectorId (profileId : ℤ) (database : Database) : Option ℤ :=
  (database.find? (·.profile.chargingProfileId = profileId)).map (·.connectorId)

def getChargingProfileIdsByConnectorId (connectorId : ℤ) (database : Database) : List ℤ :=
  (database.filter (·.connectorId = connectorId)).map (·.profile.chargingProfileId)

end Database

abbrev ProfilesMap := SortedMap ℤ ChargingProfile

structure Connector where
  /-- The transaction in progress, with its id as soon as it has one. -/
  transaction : Option (Option ℤ) := none
  stackLevelTxDefaultProfilesMap : ProfilesMap := ∅
  stackLevelTxProfilesMap : ProfilesMap := ∅

structure SmartChargingHandler where
  connectors : SortedMap ℤ Connector
  stackLevelChargePointMaxProfilesMap : ProfilesMap := ∅
  database : Database := []

inductive MapRef
  | chargePointMax
  | txDefault (connectorId : ℤ)
  | tx (connectorId : ℤ)
  deriving DecidableEq, Repr

def MapRef.connectorId : MapRef → ℤ
  | .chargePointMax => 0
  | .txDefault id => id
  | .tx id => id

def MapRef.purpose : MapRef → ChargingProfilePurposeType
  | .chargePointMax => .chargePointMaxProfile
  | .txDefault _ => .txDefaultProfile
  | .tx _ => .txProfile

namespace SmartChargingHandler

def profiles (handler : SmartChargingHandler) : MapRef → ProfilesMap
  | .chargePointMax => handler.stackLevelChargePointMaxProfilesMap
  | .txDefault id => (handler.connectors.find? id).elim ∅ (·.stackLevelTxDefaultProfilesMap)
  | .tx id => (handler.connectors.find? id).elim ∅ (·.stackLevelTxProfilesMap)

def modifyProfiles (handler : SmartChargingHandler) (ref : MapRef)
    (f : ProfilesMap → ProfilesMap) : SmartChargingHandler :=
  match ref with
  | .chargePointMax =>
    { handler with
      stackLevelChargePointMaxProfilesMap := f handler.stackLevelChargePointMaxProfilesMap }
  | .txDefault id =>
    { handler with
      connectors := handler.connectors.modify id fun connector =>
        { connector with
          stackLevelTxDefaultProfilesMap := f connector.stackLevelTxDefaultProfilesMap } }
  | .tx id =>
    { handler with
      connectors := handler.connectors.modify id fun connector =>
        { connector with stackLevelTxProfilesMap := f connector.stackLevelTxProfilesMap } }

def getNumberInstalledProfiles (handler : SmartChargingHandler) : ℕ :=
  handler.stackLevelChargePointMaxProfilesMap.size +
    (handler.connectors.entries.map fun e =>
      e.2.stackLevelTxDefaultProfilesMap.size + e.2.stackLevelTxProfilesMap.size).sum

end SmartChargingHandler

structure Configuration where
  numberOfConnectors : ℕ
  chargeProfileMaxStackLevel : ℤ
  maxChargingProfilesInstalled : ℤ
  chargingScheduleMaxPeriods : ℤ
  chargingScheduleAllowedChargingRateUnits : List ChargingRateUnit
  supportedChargingProfilePurposeTypes : List ChargingProfilePurposeType
  allowChargingProfileWithoutStartSchedule : Option Bool := none

/-- The number of periods is compared as an unsigned number. Every limit is finite here. -/
def validateSchedule (schedule : ChargingSchedule) (chargingScheduleMaxPeriods : ℤ)
    (allowedUnits : List ChargingRateUnit) : Bool :=
  if chargingScheduleMaxPeriods % 2 ^ 64 < schedule.chargingSchedulePeriod.length then false
  else if schedule.chargingRateUnit ∉ allowedUnits then false
  else schedule.chargingSchedulePeriod.all fun period =>
    period.numberPhases.all (fun phases => ¬(phases ≤ 0 ∨ 3 < phases)) && ¬period.limit < 0

/-- A profile that needs a start of its schedule and has none starts now, where that is
configured. -/
def withStartSchedule : Option ChargingProfile :=
  if profile.chargingSchedule.startSchedule.isSome then some profile
  else if config.allowChargingProfileWithoutStartSchedule.getD false then
    some { profile with
      chargingSchedule := { profile.chargingSchedule with startSchedule := some now } }
  else none

def maxRecurrencyDuration (recurrencyKind : RecurrencyKind) : ℤ :=
  if recurrencyKind = .daily then 86400 else 86400 * 7

def limitDuration (recurrencyKind : RecurrencyKind) (profile : ChargingProfile) :
    ChargingProfile :=
  { profile with
    chargingSchedule :=
      { profile.chargingSchedule with
        duration := profile.chargingSchedule.duration.map
          (min · (maxRecurrencyDuration recurrencyKind)) } }

def validateAbsolute : Option ChargingProfile :=
  if profile.chargingProfileKind = .absolute then withStartSchedule config now profile
  else some profile

def validateRecurring : Option ChargingProfile :=
  if profile.chargingProfileKind = .recurring then
    profile.recurrencyKind.bind fun recurrencyKind =>
      (withStartSchedule config now profile).map (limitDuration recurrencyKind)
  else some profile

structure Filter where
  profileIdOpt : Option ℤ := none
  connectorIdOpt : Option ℤ := none
  stackLevelOpt : Option ℤ := none
  chargingProfilePurposeOpt : Option ChargingProfilePurposeType := none
  checkIdOnly : Bool := false

/-- The test of `clear_profiles` for one entry of a map. -/
def Filter.clears (filter : Filter) (connectorId stackLevel : ℤ) (profile : ChargingProfile) :
    Bool :=
  filter.profileIdOpt = some profile.chargingProfileId ||
    (!filter.checkIdOnly && filter.connectorIdOpt.all (· = connectorId) &&
      filter.stackLevelOpt.all (· = stackLevel) &&
      filter.chargingProfilePurposeOpt.all (· = profile.chargingProfilePurpose))

def Filter.matches (filter : Filter) (profile : ChargingProfile) : Bool :=
  filter.stackLevelOpt.all (· = profile.stackLevel) &&
    filter.chargingProfilePurposeOpt.all (· = profile.chargingProfilePurpose)

inductive ChargingProfileStatus
  | accepted
  | rejected
  deriving DecidableEq, Repr

inductive ClearChargingProfileStatus
  | accepted
  | unknown
  deriving DecidableEq, Repr

namespace SmartChargingHandler

variable (profile : ChargingProfile) (connectorId : ℤ) (filter : Filter)
  (handler : SmartChargingHandler)

def transaction? (connectorId : ℤ) : Option (Option ℤ) :=
  (handler.connectors.find? connectorId).bind (·.transaction)

def hasTransactionFor (connectorId : ℤ) (ignoreNoTransaction : Bool) (profile : ChargingProfile) :
    Bool :=
  match handler.transaction? connectorId, profile.transactionId with
  | none, none => ignoreNoTransaction
  | none, some _ => false
  | some _, none => true
  | some transactionId, some id => transactionId = some id

def validatePurpose (connectorId : ℤ) (ignoreNoTransaction : Bool) (profile : ChargingProfile) :
    Bool :=
  match profile.chargingProfilePurpose with
  | .chargePointMaxProfile => connectorId = 0 && profile.chargingProfileKind ≠ .relative
  | .txDefaultProfile => true
  | .txProfile =>
    connectorId ≠ 0 && handler.hasTransactionFor connectorId ignoreNoTransaction profile

def validateProfile (config : Configuration) (now : ℤ) (connectorId : ℤ)
    (ignoreNoTransaction : Bool) (profile : ChargingProfile) : Option ChargingProfile :=
  if (handler.connectors.size : ℤ) ≤ connectorId ∨ connectorId < 0 ∨ profile.stackLevel < 0 ∨
      config.chargeProfileMaxStackLevel < profile.stackLevel then none
  else (validateAbsolute config now profile).bind fun profile =>
    if config.maxChargingProfilesInstalled ≤ handler.getNumberInstalledProfiles then none
    else if ¬validateSchedule profile.chargingSchedule config.chargingScheduleMaxPeriods
        config.chargingScheduleAllowedChargingRateUnits then none
    else (validateRecurring config now profile).bind fun profile =>
      if handler.validatePurpose connectorId ignoreNoTransaction profile then some profile
      else none

def putProfile (ref : MapRef) : SmartChargingHandler :=
  handler.modifyProfiles ref (·.insert profile.stackLevel profile)

def store : SmartChargingHandler :=
  { handler with
    database := handler.database.insertOrUpdateChargingProfile connectorId profile }

def addChargePointMaxProfile : SmartChargingHandler :=
  (handler.putProfile profile .chargePointMax).store profile 0

def physicalConnectors : List ℤ :=
  (List.range' 1 (handler.connectors.size - 1)).map Int.ofNat

/-- A profile for connector 0 is copied to every connector. -/
def addTxDefaultProfile : SmartChargingHandler :=
  ((if connectorId = 0 then handler.physicalConnectors.map .txDefault
    else [.txDefault connectorId]).foldl (putProfile profile) handler).store profile connectorId

def addTxProfile : SmartChargingHandler :=
  (handler.putProfile profile (.tx connectorId)).store profile connectorId

def addProfile : SmartChargingHandler :=
  match profile.chargingProfilePurpose with
  | .chargePointMaxProfile => handler.addChargePointMaxProfile profile
  | .txDefaultProfile => handler.addTxDefaultProfile profile connectorId
  | .txProfile => handler.addTxProfile profile connectorId

def removeProfiles (remove : ℤ → ChargingProfile → Bool) (ref : MapRef)
    (handler : SmartChargingHandler) : SmartChargingHandler :=
  let removed := (handler.profiles ref).entries.filter fun e => remove e.1 e.2
  { handler.modifyProfiles ref (·.filter fun stackLevel profile => !remove stackLevel profile) with
    database := removed.foldl
      (fun database e => database.deleteChargingProfile e.2.chargingProfileId) handler.database }

def hasExpired (now : ℤ) (profile : ChargingProfile) : Bool :=
  profile.validTo.any (· < now) ||
    (profile.chargingProfileKind = .absolute &&
      match profile.chargingSchedule.startSchedule, profile.chargingSchedule.duration with
      | some startSchedule, some duration => startSchedule + seconds duration < now
      | _, _ => false)

/-- The maps of the connectors, in the order in which the loops over the connectors visit
them. -/
def connectorRefs : List MapRef :=
  handler.connectors.keys.flatMap fun id => [.txDefault id, .tx id]

def clearExpiredProfiles (now : ℤ) (handler : SmartChargingHandler) : SmartChargingHandler :=
  (.chargePointMax :: handler.connectorRefs).foldl
    (fun handler ref => handler.removeProfiles (fun _ => hasExpired now) ref) handler

def clearProfiles (ref : MapRef) (handler : SmartChargingHandler) : SmartChargingHandler × Bool :=
  (handler.removeProfiles (filter.clears ref.connectorId) ref,
    (handler.profiles ref).entries.any fun e => filter.clears ref.connectorId e.1 e.2)

def idHasMatchingTxDefault (id : ℤ) : Bool :=
  handler.connectors.entries.any fun c => c.2.stackLevelTxDefaultProfilesMap.entries.any fun e =>
    e.2.chargingProfileId = id && filter.matches e.2

def eraseCopies (id : ℤ) (handler : SmartChargingHandler) : SmartChargingHandler :=
  { handler with
    connectors := handler.connectors.map fun connector =>
      { connector with
        stackLevelTxDefaultProfilesMap := connector.stackLevelTxDefaultProfilesMap.filter
          fun _ profile => profile.chargingProfileId ≠ id } }

/-- All copies of a profile that was installed for connector 0, and its row, are deleted. -/
def clearCopies (state : SmartChargingHandler × Bool) (id : ℤ) : SmartChargingHandler × Bool :=
  let (handler, erasedAtLeastOne) := state
  if handler.idHasMatchingTxDefault filter id then
    let erasedAnyCopy := handler.connectors.entries.any fun c =>
      c.2.stackLevelTxDefaultProfilesMap.entries.any fun e => e.2.chargingProfileId = id
    let erased := handler.eraseCopies id
    if erasedAnyCopy then
      ({ erased with database := erased.database.deleteChargingProfile id }, true)
    else (erased, erasedAtLeastOne)
  else (handler, erasedAtLeastOne)

def clearConnector (state : SmartChargingHandler × Bool) (connectorId : ℤ) :
    SmartChargingHandler × Bool :=
  let (handler, erasedAtLeastOne) := state
  let (handler, erasedTxDefault) := handler.clearProfiles filter (.txDefault connectorId)
  let (handler, erasedTx) := handler.clearProfiles filter (.tx connectorId)
  (handler, erasedAtLeastOne || erasedTxDefault || erasedTx)

/-- The copies of profiles for connector 0 are found through the table, which keeps the
connector id. -/
def clearChargePointCopies : SmartChargingHandler × Bool :=
  if filter.profileIdOpt = none ∧ filter.connectorIdOpt.getD 1 = 0 then
    (handler.database.getChargingProfileIdsByConnectorId 0).foldl (clearCopies filter)
      (handler, false)
  else (handler, false)

def clearConnectors (state : SmartChargingHandler × Bool) : SmartChargingHandler × Bool :=
  state.1.connectors.keys.foldl (clearConnector filter) state

def clearAllProfilesWithFilter : SmartChargingHandler × Bool :=
  let (handler, erasedChargePointMax) := handler.clearProfiles filter .chargePointMax
  let (handler, erasedTx) := clearConnectors filter (handler.clearChargePointCopies filter)
  (handler, erasedChargePointMax || erasedTx)

def clearAllProfiles : SmartChargingHandler where
  connectors := handler.connectors.map fun connector =>
    { connector with stackLevelTxDefaultProfilesMap := ∅, stackLevelTxProfilesMap := ∅ }

def start (config : Configuration) (database : Database) : SmartChargingHandler where
  connectors :=
    ⟨(List.range (config.numberOfConnectors + 1)).map fun id : ℕ => (Int.ofNat id, {}), by
      refine List.pairwise_map.2 (List.pairwise_lt_range.imp ?_)
      intro a b hab
      exact Int.ofNat_lt.2 hab⟩
  database

def loadChargingProfile (config : Configuration) (now : ℤ) (handler : SmartChargingHandler)
    (profile : ChargingProfile) : SmartChargingHandler :=
  match handler.database.getConnectorId profile.chargingProfileId with
  | none => handler
  | some connectorId =>
    match handler.validateProfile config now connectorId false profile with
    | some valid =>
      if valid.chargingProfilePurpose ∈ config.supportedChargingProfilePurposeTypes then
        handler.addProfile valid connectorId
      else
        { handler with
          database := handler.database.deleteChargingProfile profile.chargingProfileId }
    | none =>
      { handler with
        database := handler.database.deleteChargingProfile profile.chargingProfileId }

def loadChargingProfiles (config : Configuration) (now : ℤ) (handler : SmartChargingHandler) :
    SmartChargingHandler :=
  handler.database.getChargingProfiles.foldl (loadChargingProfile config now) handler

def accepted (config : Configuration) (now connectorId : ℤ) (profile : ChargingProfile) :
    Option ChargingProfile :=
  if profile.chargingProfilePurpose ∈ config.supportedChargingProfilePurposeTypes then
    handler.validateProfile config now connectorId false profile
  else none

def handleSetChargingProfileRequest (config : Configuration) (now connectorId : ℤ)
    (csChargingProfiles : ChargingProfile) (handler : SmartChargingHandler) :
    SmartChargingHandler × ChargingProfileStatus :=
  match handler.accepted config now connectorId csChargingProfiles with
  | none => (handler, .rejected)
  | some profile =>
    let byId : Filter :=
      { profileIdOpt := some profile.chargingProfileId, checkIdOnly := true }
    let byLevel : Filter :=
      { connectorIdOpt := some connectorId
        stackLevelOpt := some profile.stackLevel
        chargingProfilePurposeOpt := some profile.chargingProfilePurpose }
    (((handler.clearAllProfilesWithFilter byId).1.clearAllProfilesWithFilter byLevel).1.addProfile
      profile connectorId, .accepted)

structure ClearChargingProfileRequest where
  id : Option ℤ := none
  connectorId : Option ℤ := none
  chargingProfilePurpose : Option ChargingProfilePurposeType := none
  stackLevel : Option ℤ := none

def handleClearChargingProfileRequest (msg : ClearChargingProfileRequest)
    (handler : SmartChargingHandler) : SmartChargingHandler × ClearChargingProfileStatus :=
  if msg.id = none ∧ msg.connectorId = none ∧ msg.chargingProfilePurpose = none ∧
      msg.stackLevel = none then
    (handler.clearAllProfiles, .accepted)
  else
    let filter : Filter :=
      { profileIdOpt := msg.id
        connectorIdOpt := msg.connectorId
        stackLevelOpt := msg.stackLevel
        chargingProfilePurposeOpt := msg.chargingProfilePurpose
        checkIdOnly := msg.id.isSome }
    let (handler, cleared) := handler.clearAllProfilesWithFilter filter
    (handler, if cleared then .accepted else .unknown)

def setTransaction (transaction : Option (Option ℤ)) (handler : SmartChargingHandler) :
    SmartChargingHandler :=
  { handler with
    connectors := handler.connectors.modify connectorId fun connector =>
      { connector with transaction } }

def transactionStopped : SmartChargingHandler :=
  ((handler.setTransaction connectorId none).clearAllProfilesWithFilter
    { connectorIdOpt := some connectorId
      chargingProfilePurposeOpt := some .txProfile }).1

inductive Input
  | setChargingProfile (now connectorId : ℤ) (csChargingProfiles : ChargingProfile)
  | clearChargingProfile (msg : ClearChargingProfileRequest)
  | clearExpiredProfiles (now : ℤ)
  | transactionChanged (connectorId : ℤ) (transaction : Option ℤ)
  | transactionStopped (connectorId : ℤ)
  | restart (now : ℤ)

def restart (config : Configuration) (now : ℤ) (handler : SmartChargingHandler) :
    SmartChargingHandler :=
  (start config handler.database).loadChargingProfiles config now

def step (config : Configuration) (handler : SmartChargingHandler) :
    Input → SmartChargingHandler
  | .setChargingProfile now connectorId csChargingProfiles =>
    (handler.handleSetChargingProfileRequest config now connectorId csChargingProfiles).1
  | .clearChargingProfile msg => (handler.handleClearChargingProfileRequest msg).1
  | .clearExpiredProfiles now => handler.clearExpiredProfiles now
  | .transactionChanged connectorId transaction =>
    handler.setTransaction connectorId (some transaction)
  | .transactionStopped connectorId => handler.transactionStopped connectorId
  | .restart now => handler.restart config now

end SmartChargingHandler

end Store

end Everest.SmartCharging.V16
