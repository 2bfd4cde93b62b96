import Everest.SmartCharging.DynamicSchedule

namespace Everest.SmartCharging.V2.Store

open Checks Runs SmartChargingBlock Store.ChargingProfile List

def ChargingProfile.ValidAt (profile : ChargingProfile) (time : ℤ) : Prop :=
  (∀ validFrom ∈ profile.validFrom, validFrom ≤ time) ∧
    ∀ validTo ∈ profile.validTo, time ≤ validTo

/-- The two rows do not conflict with each other. -/
structure Compatible (row other : Row) : Prop where
  validity : row.profile.chargingProfilePurpose ≠ .txProfile →
    row.profile.chargingProfilePurpose = other.profile.chargingProfilePurpose →
    row.evseId = other.evseId → row.profile.stackLevel = other.profile.stackLevel →
    ¬∃ time, row.profile.reread.ValidAt time ∧ other.profile.reread.ValidAt time
  txDefault : row.profile.chargingProfilePurpose = .txDefaultProfile →
    other.profile.chargingProfilePurpose = .txDefaultProfile →
    (row.evseId = 0 ↔ other.evseId ≠ 0) → row.profile.stackLevel ≠ other.profile.stackLevel
  transaction : row.profile.chargingProfilePurpose = .txProfile →
    other.profile.chargingProfilePurpose = .txProfile →
    row.profile.stackLevel = other.profile.stackLevel →
    ¬∃ transactionId, row.profile.transactionId = some transactionId ∧
      other.profile.transactionId = some transactionId

def NoConflicts (block : SmartChargingBlock) : Prop :=
  ∀ row ∈ block.database, ∀ other ∈ block.database,
    row.profile.id ≠ other.profile.id → Compatible row other

variable {row other : Row}

lemma Compatible.symm (h : Compatible row other) : Compatible other row where
  validity hpurp hsame hevse hstack := by
    rintro ⟨time, hother, hrow⟩
    exact h.validity (hsame ▸ hpurp) hsame.symm hevse.symm hstack.symm ⟨time, hrow, hother⟩
  txDefault hother hrow hevse hstack := h.txDefault hrow hother (by tauto) hstack.symm
  transaction hother hrow hstack := by
    rintro ⟨transactionId, hother', hrow'⟩
    exact h.transaction hrow hother hstack.symm ⟨transactionId, hrow', hother'⟩

structure SameKey (row row' : Row) : Prop where
  evseId : row'.evseId = row.evseId
  id : row'.profile.id = row.profile.id
  purpose : row'.profile.chargingProfilePurpose = row.profile.chargingProfilePurpose
  stackLevel : row'.profile.stackLevel = row.profile.stackLevel
  transactionId : row'.profile.transactionId = row.profile.transactionId
  validFrom : row'.profile.reread.validFrom = row.profile.reread.validFrom
  validTo : row'.profile.reread.validTo = row.profile.reread.validTo

lemma Compatible.of_sameKey {row' : Row} (h : Compatible row other) (hkey : SameKey row row') :
    Compatible row' other where
  validity := by
    have hvalid (time : ℤ) :
        row'.profile.reread.ValidAt time ↔ row.profile.reread.ValidAt time := by
      unfold ChargingProfile.ValidAt
      rw [hkey.validFrom, hkey.validTo]
    simp only [hvalid, hkey.purpose, hkey.evseId, hkey.stackLevel]
    exact h.validity
  txDefault := by
    rw [hkey.purpose, hkey.evseId, hkey.stackLevel]
    exact h.txDefault
  transaction := by
    rw [hkey.purpose, hkey.stackLevel, hkey.transactionId]
    exact h.transaction

variable {profile : ChargingProfile} {source : String} {evseId : ℤ}

lemma mem_insertOrUpdate {database : Database} :
    row ∈ database.insertOrUpdateChargingProfile evseId profile source ↔
      row ∈ database ∧ row.profile.id ≠ profile.id ∨ row = ⟨evseId, profile, source⟩ := by
  simp [Database.insertOrUpdateChargingProfile]

lemma clear_subset {id : Option ℤ} {criteria : Option ClearChargingProfile} {database : Database} :
    (database.clearChargingProfilesMatchingCriteria id criteria).2 ⊆ database := by
  unfold Database.clearChargingProfilesMatchingCriteria
  split
  · split_ifs
    · exact filter_subset_self _
    · exact List.Subset.refl _
  · split
    · exact nil_subset _
    · split_ifs
      · exact filter_subset_self _
      · exact List.Subset.refl _

lemma getChargingProfile_eq_some {database : Database} {id : ℤ} {matched : Row}
    (h : database.getChargingProfile id = some matched) :
    ∃ row ∈ database, row.profile.id = id ∧
      matched = { row with profile := row.profile.reread } := by
  obtain ⟨row, hrow, rfl⟩ := Option.map_eq_some_iff.mp h
  exact ⟨row, mem_of_find?_eq_some hrow, by simpa using find?_some hrow, rfl⟩

section Accepted

variable {context : Context} {database : Database} {profile conformed : ChargingProfile}
  {evse : Option ℤ} {evseId : ℤ} {sourceOfRequest : AddChargingProfileSource}

lemma validateProfileSchedules_eq
    (h : validateProfileSchedules context evse profile = .ok conformed) :
    ∃ schedules, conformed = { profile with chargingSchedule := schedules } := by
  simp only [validateProfileSchedules, bind_eq_ok, Unique.exists_iff, pure_eq_ok] at h
  obtain ⟨-, -, schedules, -, h⟩ := h
  exact ⟨schedules, h.symm⟩

/-- What the validation changes in a profile, and what it has checked of the result. -/
structure Accepted (context : Context) (database : Database) (evseId : ℤ)
    (sourceOfRequest : AddChargingProfileSource) (profile conformed : ChargingProfile) : Prop where
  id : conformed.id = profile.id
  purpose : conformed.chargingProfilePurpose = profile.chargingProfilePurpose
  stackLevel : conformed.stackLevel = profile.stackLevel
  transactionId : conformed.transactionId = profile.transactionId
  validFrom : conformed.validFrom = some (profile.validFrom.getD 0)
  validTo : conformed.validTo = some (profile.validTo.getD maxTime)
  notOverlapping : isOverlappingValidityPeriod database conformed evseId = false
  validPurpose : validatePurpose context database conformed evseId sourceOfRequest = .ok ()

lemma conformAndValidateProfile_accepted
    (h : conformAndValidateProfile context database profile evseId sourceOfRequest =
      .ok conformed) :
    Accepted context database evseId sourceOfRequest profile conformed := by
  simp only [conformAndValidateProfile, bind_eq_ok, Unique.exists_iff, pure_eq_ok, reject_eq_ok,
    Bool.not_eq_true] at h
  obtain ⟨-, -, -, conformed', hscheds, hover, hpurp, rfl⟩ := h
  obtain ⟨schedules, rfl⟩ := validateProfileSchedules_eq hscheds
  exact ⟨rfl, rfl, rfl, rfl, rfl, rfl, hover, hpurp⟩

lemma Accepted.populate
    (h : Accepted context database evseId sourceOfRequest profile conformed) (now : ℤ) :
    let stored := populateDynUpdateTime now conformed
    stored.id = profile.id ∧
      stored.chargingProfilePurpose = profile.chargingProfilePurpose ∧
      stored.stackLevel = profile.stackLevel ∧ stored.transactionId = profile.transactionId ∧
      stored.validFrom = some (profile.validFrom.getD 0) ∧
      stored.validTo = some (profile.validTo.getD maxTime) := by
  unfold populateDynUpdateTime
  split_ifs <;> exact ⟨h.id, h.purpose, h.stackLevel, h.transactionId, h.validFrom, h.validTo⟩

end Accepted

def Row.Bounded (row : Row) : Prop :=
  row.profile.validFrom.isSome ∧ row.profile.validTo.isSome

section NewRow

variable {context : Context} {database : Database} {profile conformed stored : ChargingProfile}
  {evseId : ℤ} {sourceOfRequest : AddChargingProfileSource} {other : Row}

lemma validFrom_reread_eq (hdates : ∀ time ∈ profile.validFrom, WholeMilliseconds time) :
    rereadTime (profile.validFrom.getD 0) = profile.validFrom.getD 0 := by
  cases hfrom : profile.validFrom with
  | none => rfl
  | some validFrom => exact (hdates validFrom hfrom).reread

section

variable (hacc : Accepted context database evseId sourceOfRequest profile conformed)
include hacc

/-- The check before the profile is stored finds every row that is valid at the same time. -/
theorem isOverlapping_of_validAt (hfrom : ∀ time ∈ profile.validFrom, WholeMilliseconds time)
    (hto : ∀ time ∈ profile.validTo, WholeMilliseconds time)
    (hpurp : profile.chargingProfilePurpose ≠ .txProfile) (hother : other ∈ database)
    (hconcerns : concerns conformed evseId other) (hbd : other.Bounded) {time : ℤ}
    (hvalid : rereadTime (profile.validFrom.getD 0) ≤ time ∧
      time ≤ rereadTime (profile.validTo.getD maxTime))
    (hvalid' : other.profile.reread.ValidAt time) :
    isOverlappingValidityPeriod database conformed evseId := by
  obtain ⟨otherFrom, hotherFrom⟩ := Option.isSome_iff_exists.mp hbd.1
  obtain ⟨otherTo, hotherTo⟩ := Option.isSome_iff_exists.mp hbd.2
  have hrereadFrom : other.profile.reread.validFrom = some (rereadTime otherFrom) := by
    simp [reread, hotherFrom]
  have hrereadTo : other.profile.reread.validTo = some (rereadTime otherTo) := by
    simp [reread, hotherTo]
  have hstart : profile.validFrom.getD 0 ≤ rereadTime otherTo := by
    have := hvalid'.2 _ hrereadTo
    rw [validFrom_reread_eq hfrom] at hvalid
    omega
  have hend : rereadTime otherFrom ≤ profile.validTo.getD maxTime := by
    have := hvalid'.1 _ hrereadFrom
    have : rereadTime (profile.validTo.getD maxTime) ≤ profile.validTo.getD maxTime := by
      cases h : profile.validTo with
      | none => decide
      | some validTo => exact (hto validTo h).reread.le
    omega
  unfold isOverlappingValidityPeriod
  rw [if_neg (hacc.purpose ▸ hpurp), any_eq_true]
  refine ⟨other, mem_filter.mpr ⟨hother, hconcerns⟩, ?_⟩
  simp [hacc.validFrom, hacc.validTo, hrereadFrom, hrereadTo, optionalLe, hstart, hend]

lemma Accepted.txDefault_ne (hpurp : profile.chargingProfilePurpose = .txDefaultProfile)
    (hother : other ∈ database)
    (hotherPurpose : other.profile.chargingProfilePurpose = .txDefaultProfile)
    (hid : other.profile.id ≠ profile.id) (hevse : evseId = 0 ↔ other.evseId ≠ 0) :
    profile.stackLevel ≠ other.profile.stackLevel := by
  have hchecked := hacc.validPurpose
  simp only [validatePurpose, hacc.purpose, hpurp, validateTxDefaultProfile,
    reject_eq_ok, Bool.not_eq_true, any_eq_false, decide_eq_true_eq, not_and,
    hacc.stackLevel, hacc.id] at hchecked
  intro hstack
  refine hchecked other.profile.reread ?_ hstack.symm hid
  by_cases h0 : evseId = 0
  · rw [if_pos h0]
    exact mem_map_of_mem (mem_filter.mpr ⟨hother, by simp [hevse.mp h0, hotherPurpose]⟩)
  · have hwide : other.evseId = 0 := by
      by_contra hne
      exact h0 (hevse.mpr hne)
    rw [if_neg h0]
    exact mem_map_of_mem (mem_filter.mpr ⟨hother, by simp [hwide, hotherPurpose]⟩)

lemma Accepted.not_conflicts (hpurp : profile.chargingProfilePurpose = .txProfile)
    (hsource : sourceOfRequest = .setChargingProfile) (hother : other ∈ database) :
    ¬conflicts profile other := by
  have hchecked := hacc.validPurpose
  simp only [validatePurpose, hacc.purpose, hpurp, validateTxProfile, hsource,
    bind_eq_ok, Unique.exists_iff, reject_eq_ok, under_eq_ok, Bool.not_eq_true,
    any_eq_false] at hchecked
  have h := (hchecked.2.2 (by decide)).2.2.2 other hother
  simpa only [conflicts, hacc.transactionId, hacc.stackLevel, hacc.id,
    Bool.not_eq_true] using h

/-- The row of an accepted profile does not conflict with the rows that stay. -/
theorem Accepted.compatible (hfrom : ∀ time ∈ profile.validFrom, WholeMilliseconds time)
    (hto : ∀ time ∈ profile.validTo, WholeMilliseconds time)
    (hstart : sourceOfRequest = .requestStartTransactionRequest → ¬conflicts profile other)
    (hother : other ∈ database) (hbd : other.Bounded) (hid : other.profile.id ≠ profile.id)
    {now : ℤ} : Compatible ⟨evseId, populateDynUpdateTime now conformed, source⟩ other := by
  have hpopulate := hacc.populate now
  obtain ⟨-, hpurp, hstack, htransaction, hstoredFrom, hstoredTo⟩ := hpopulate
  constructor
  · rintro htx hsame hevse hlevel ⟨time, ⟨hge, hle⟩, hvalid⟩
    refine absurd hacc.notOverlapping (Bool.not_eq_false _ ▸ ?_)
    refine isOverlapping_of_validAt hacc hfrom hto (hpurp ▸ htx) hother ?_ hbd
      ⟨hge _ ?_, hle _ ?_⟩ hvalid
    · simp [concerns, hacc.purpose, hacc.id, hacc.stackLevel, ← hpurp, ← hsame,
        hid, ← hevse, ← hlevel, hstack]
    · simp [reread, hstoredFrom]
    · simp [reread, hstoredTo]
  · intro hdef hotherDefault hevse
    rw [hstack]
    exact hacc.txDefault_ne (hpurp ▸ hdef) hother hotherDefault hid hevse
  · rintro htx hotherTx hlevel ⟨transactionId, hid', hother'⟩
    dsimp only at htx hlevel hid'
    have hnot : ¬conflicts profile other := by
      cases sourceOfRequest with
      | setChargingProfile => exact hacc.not_conflicts (hpurp ▸ htx) rfl hother
      | requestStartTransactionRequest => exact hstart rfl
    apply hnot
    simp [conflicts, hother', ← htransaction, hid', ← hlevel, hstack, hid]

end

end NewRow

inductive Operation
  | add (context : Context) (now : ℤ) (profile : ChargingProfile) (evseId : ℤ)
      (chargingLimitSource : String) (sourceOfRequest : AddChargingProfileSource)
  | clear (chargingProfileId : Option ℤ) (criteria : Option ClearChargingProfile)
  | update (now chargingProfileId : ℤ) (scheduleUpdate : ChargingScheduleUpdate)
  | pullResponse (now chargingProfileId : ℤ) (response : PullDynamicScheduleUpdateResponse)

def SmartChargingBlock.operate (block : SmartChargingBlock) : Operation → SmartChargingBlock
  | .add context now profile evseId chargingLimitSource sourceOfRequest =>
    (block.conformValidateAndAddProfile context now profile evseId chargingLimitSource
      sourceOfRequest).2
  | .clear chargingProfileId criteria => (block.clearProfiles chargingProfileId criteria).2.2
  | .update now chargingProfileId scheduleUpdate =>
    (block.handleUpdateDynamicScheduleRequest now chargingProfileId scheduleUpdate).2
  | .pullResponse now chargingProfileId response =>
    block.applyPullResponse now chargingProfileId response

/-- The dates of an added profile have whole milliseconds, and a profile that comes with a
request to start a transaction does not name the transaction and stack level of another one. -/
def Undisputed (block : SmartChargingBlock) : Operation → Prop
  | .add _ _ profile _ _ sourceOfRequest =>
    (∀ time ∈ profile.validFrom, WholeMilliseconds time) ∧
    (∀ time ∈ profile.validTo, WholeMilliseconds time) ∧
    (sourceOfRequest = .requestStartTransactionRequest →
      ∀ row ∈ block.database, ¬conflicts profile row)
  | _ => True

structure Sound (block : SmartChargingBlock) : Prop where
  bounded : ∀ row ∈ block.database, row.Bounded
  compatible : NoConflicts block

variable {block block' : SmartChargingBlock}

lemma Sound.subset (h : Sound block) (hsub : block'.database ⊆ block.database) : Sound block' where
  bounded row hrow := h.bounded row (hsub hrow)
  compatible row hrow other hother := h.compatible row (hsub hrow) other (hsub hother)

lemma Sound.insert (h : Sound block) (hbd : Row.Bounded ⟨evseId, profile, source⟩)
    (hcompatible : ∀ other ∈ block.database, other.profile.id ≠ profile.id →
      Compatible ⟨evseId, profile, source⟩ other)
    (hblock' : block'.database =
      block.database.insertOrUpdateChargingProfile evseId profile source) :
    Sound block' where
  bounded row hrow := by
    rw [hblock'] at hrow
    obtain ⟨hrow, -⟩ | rfl := mem_insertOrUpdate.mp hrow
    · exact h.bounded row hrow
    · exact hbd
  compatible row hrow other hother hid := by
    rw [hblock'] at hrow hother
    obtain ⟨hrow, hrowId⟩ | rfl := mem_insertOrUpdate.mp hrow <;>
      obtain ⟨hother, hotherId⟩ | rfl := mem_insertOrUpdate.mp hother
    · exact h.compatible row hrow other hother hid
    · exact (hcompatible row hrow hrowId).symm
    · exact hcompatible other hother hotherId
    · exact absurd rfl hid

lemma Sound.add (h : Sound block) {context : Context} {now : ℤ}
    {sourceOfRequest : AddChargingProfileSource}
    (hundisputed : Undisputed block (.add context now profile evseId source sourceOfRequest)) :
    Sound (block.operate (.add context now profile evseId source sourceOfRequest)) := by
  obtain ⟨hfrom, hto, hstart⟩ := hundisputed
  simp only [operate, conformValidateAndAddProfile]
  split
  · exact h
  rename_i hchecked
  simp only [checkProfile, bind_eq_ok, Unique.exists_iff, pure_eq_ok] at hchecked
  obtain ⟨conformed, hvalid, -, -, rfl⟩ := hchecked
  have hacc := conformAndValidateProfile_accepted hvalid
  have hdb : (block.verifyRateLimit context now conformed).2.database = block.database := by
    unfold verifyRateLimit
    split <;> rfl
  split
  · rename_i hrate
    rw [hrate] at hdb
    exact h.subset (hdb ▸ List.Subset.refl _)
  · rename_i block' hrate
    rw [hrate] at hdb
    have hpopulate := hacc.populate now
    have hstored : (block'.addProfile (populateDynUpdateTime now conformed)
        evseId source).2.database =
          block.database.insertOrUpdateChargingProfile evseId
            (populateDynUpdateTime now conformed) source := by
      rw [← hdb]
      rfl
    refine h.insert ⟨?_, ?_⟩ ?_ hstored
    · simp [hpopulate.2.2.2.2.1]
    · simp [hpopulate.2.2.2.2.2]
    · intro other hother hid
      rw [hpopulate.1] at hid
      exact hacc.compatible hfrom hto (fun hs => hstart hs other hother) hother
        (h.bounded other hother) hid

variable {updated : ChargingProfile}

lemma rereadTime_idem (time : ℤ) : rereadTime (rereadTime time) = rereadTime time := by
  simp [rereadTime]

lemma Sound.writeBack (h : Sound block) {id now : ℤ} {matched : Row}
    {update : ChargingScheduleUpdate}
    (hmatch : block.database.getChargingProfile id = some matched)
    (hupd : matched.profile.applyUpdate update now = some updated) :
    Sound (block.writeBack matched updated) := by
  obtain ⟨row, hrow, -, rfl⟩ := getChargingProfile_eq_some hmatch
  obtain ⟨schedules, rfl⟩ : ∃ schedules, updated =
      { row.profile.reread with dynUpdateTime := some now, chargingSchedule := schedules } := by
    unfold applyUpdate at hupd
    split_ifs at hupd
    · exact ⟨_, (Option.some.inj hupd).symm⟩
    · obtain ⟨schedules, -, rfl⟩ := Option.map_eq_some_iff.mp hupd
      exact ⟨schedules, rfl⟩
  have hkey : SameKey row ⟨row.evseId,
      { row.profile.reread with dynUpdateTime := some now, chargingSchedule := schedules },
      row.chargingLimitSource⟩ :=
    ⟨rfl, rfl, rfl, rfl, rfl, by simp [reread, Function.comp_def, rereadTime_idem],
      by simp [reread, Function.comp_def, rereadTime_idem]⟩
  have hbd := h.bounded row hrow
  refine h.insert ⟨?_, ?_⟩ ?_ rfl
  · simpa [reread] using hbd.1
  · simpa [reread] using hbd.2
  · intro other hother hid
    exact (h.compatible row hrow other hother hid.symm).of_sameKey hkey

lemma Sound.update (h : Sound block) (now id : ℤ) (update : ChargingScheduleUpdate) :
    Sound (block.operate (.update now id update)) := by
  simp only [operate, handleUpdateDynamicScheduleRequest]
  split
  · exact h
  · rename_i matched hmatch
    split_ifs
    · split
      · exact h.writeBack hmatch ‹_›
      · exact h
    · exact h

lemma Sound.pullResponse (h : Sound block) (now id : ℤ)
    (response : PullDynamicScheduleUpdateResponse) :
    Sound (block.operate (.pullResponse now id response)) := by
  simp only [operate, applyPullResponse]
  split
  · split
    · exact h
    · rename_i matched hmatch
      split_ifs
      · split
        · exact h.writeBack hmatch ‹_›
        · exact h
      · exact h
  · exact h

lemma operate_sound (block : SmartChargingBlock) (operation : Operation) (h : Sound block)
    (hundisputed : Undisputed block operation) : Sound (block.operate operation) := by
  cases operation with
  | add => exact h.add hundisputed
  | clear id criteria => exact h.subset clear_subset
  | update now id update => exact h.update now id update
  | pullResponse now id response => exact h.pullResponse now id response

lemma init_sound : Sound init :=
  ⟨fun _ h => absurd h not_mem_nil, fun _ h => absurd h not_mem_nil⟩

/-- No two profiles that are ever stored together conflict. -/
theorem profiles_never_conflict {operations : List Operation}
    (h : AllSteps operate Undisputed .init operations) :
    AllStates operate NoConflicts .init operations :=
  (allStates_of_allSteps operate_sound init_sound h).mono fun _ => Sound.compatible

def oneEvse : Context where
  ocppVersion := .v21
  evses := [{ supplyPhases := some 3, transactionId := some "tx" }]
  chargingStationSupplyPhases := 3
  chargingScheduleChargingRateUnit := [.A]

def chargingOnlyTx (id : ℤ) : ChargingProfile where
  id := id
  stackLevel := 0
  chargingProfilePurpose := .txProfile
  chargingProfileKind := .relative
  chargingSchedule := [
    { chargingRateUnit := .A, chargingSchedulePeriod := [{ startPeriod := 0, limit := some 16 }] }]
  transactionId := some "tx"

theorem second_tx_profile_rejected :
    let block := run operate .init
      [.add oneEvse 0 (chargingOnlyTx 1) 1 "CSO" .setChargingProfile,
        .add oneEvse 0 (chargingOnlyTx 2) 1 "CSO" .setChargingProfile]
    block.database.map (·.profile.id) = [1] ∧ NoConflicts block := by
  refine ⟨by decide +kernel, (profiles_never_conflict ?_).last⟩
  simp [AllSteps, Undisputed, chargingOnlyTx]

/-- Two requests to start a transaction with profiles that name the same one. -/
def startedTwice : List Operation :=
  [.add oneEvse 0 (chargingOnlyTx 1) 1 "CSO" .requestStartTransactionRequest,
    .add oneEvse 0 (chargingOnlyTx 2) 1 "CSO" .requestStartTransactionRequest]

/-- The profile of a request to start a transaction is not checked against the profiles of the
transaction that it names. -/
theorem started_tx_profiles_conflict :
    ¬NoConflicts (run operate .init startedTwice) := by
  intro h
  have hrows : ∃ row ∈ (run operate .init startedTwice).database,
      ∃ other ∈ (run operate .init startedTwice).database,
      row.profile.id ≠ other.profile.id ∧ row.profile.chargingProfilePurpose = .txProfile ∧
        other.profile.chargingProfilePurpose = .txProfile ∧
        row.profile.stackLevel = other.profile.stackLevel ∧
        row.profile.transactionId = some "tx" ∧ other.profile.transactionId = some "tx" := by
    decide +kernel
  obtain ⟨row, hrow, other, hother, hid, htx, htx', hstack, hrowId, hotherId⟩ := hrows
  exact (h row hrow other hother hid).transaction htx htx' hstack ⟨"tx", hrowId, hotherId⟩

end Everest.SmartCharging.V2.Store
