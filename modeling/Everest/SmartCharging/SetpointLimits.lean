import Everest.SmartCharging.MergedSetpoints
import Everest.SmartCharging.ValidationV2

namespace Everest.SmartCharging.V2

open Timeline UnitValues List Option

/-- The operation mode of the period may be used for the purpose, and allows its values. -/
structure Store.ChargingSchedulePeriod.ModeAllows (purpose : ChargingProfilePurpose)
    (period : Store.ChargingSchedulePeriod) : Prop where
  mode : period.mode ∈ Store.operationModesForChargingProfilePurposes purpose
  values : Store.checkLimitsAndSetpoints period = true

section Validated

open Store Checks

variable {context : Context} {evse : Option ℤ} {profile : Store.ChargingProfile}
  {schedule : Store.ChargingSchedule} {first : Bool}

section

variable (hver : context.ocppVersion = .v21)
include hver

lemma validatePeriods_modeAllows {periods conformed : List Store.ChargingSchedulePeriod}
    (h : validatePeriods context evse profile schedule first periods = .ok conformed) :
    ∀ period ∈ conformed, period.ModeAllows profile.chargingProfilePurpose := by
  induction periods generalizing first conformed with
  | nil =>
    obtain rfl := Except.ok.inj h
    simp
  | cons period periods ih =>
    simp only [validatePeriods, bind_eq_ok, pure_eq_ok] at h
    obtain ⟨head, hhead, rest, hrest, rfl⟩ := h
    simp only [validatePeriod, validateOperationMode, bind_eq_ok, Unique.exists_iff, reject_eq_ok,
      under_eq_ok, pure_eq_ok, hver, forall_const, not_not, Bool.not_eq_false] at hhead
    obtain ⟨-, -, -, -, -, -, ⟨-, hmode, -, -, -, hvals, -⟩, rfl⟩ := hhead
    exact forall_mem_cons.mpr ⟨⟨hmode, hvals⟩, ih hrest⟩

lemma validateProfileSchedules_modeAllows {conformed : Store.ChargingProfile}
    (h : validateProfileSchedules context evse profile = .ok conformed) :
    ∀ schedule ∈ conformed.chargingSchedule, ∀ period ∈ schedule.chargingSchedulePeriod,
      period.ModeAllows conformed.chargingProfilePurpose := by
  simp only [validateProfileSchedules, bind_eq_ok, Unique.exists_iff, reject_eq_ok,
    pure_eq_ok] at h
  obtain ⟨-, -, schedules, hscheds, rfl⟩ := h
  dsimp only
  generalize profile.chargingSchedule = given at hscheds
  induction given generalizing schedules with
  | nil =>
    obtain rfl := Except.ok.inj hscheds
    simp
  | cons schedule given ih =>
    simp only [validateSchedules, validateSchedule, bind_eq_ok, Unique.exists_iff, reject_eq_ok,
      under_eq_ok, pure_eq_ok] at hscheds
    obtain ⟨head, ⟨-, -, -, periods, hpers, -, -, rfl⟩, rest, hrest, rfl⟩ := hscheds
    exact forall_mem_cons.mpr ⟨validatePeriods_modeAllows hver hpers, ih rest hrest⟩

end

end Validated

/-- What a period of a valid profile without values for L2 and L3 satisfies. It was validated
with what else it has; its values are not the markers for values that are not given. -/
structure ValidSetpoint (purpose : ChargingProfilePurpose) (period : ChargingSchedulePeriod) : Prop
    extends ValidPeriod period where
  validated : ∃ stored : Store.ChargingSchedulePeriod,
    stored.toChargingSchedulePeriod = period ∧ stored.ModeAllows purpose
  setpoint : ∀ x ∈ period.setpoint, 1 - floatMax ≤ x ∧ x ≤ floatMax - 1
  dischargeLimit : ∀ x ∈ period.dischargeLimit, 1 - floatMax ≤ x

def ValidSetpoints (profile : ChargingProfile) : Prop :=
  ∀ period ∈ profile.chargingSchedule.chargingSchedulePeriod,
    ValidSetpoint profile.chargingProfilePurpose period

lemma ValidSetpoints.valid {profile : ChargingProfile} (h : ValidSetpoints profile) :
    Valid profile := fun period hper => (h period hper).toValidPeriod

def mayHaveSetpoint (purpose : ChargingProfilePurpose) : Bool :=
  purpose = .txProfile ∨ purpose = .txDefaultProfile

variable {purpose : ChargingProfilePurpose} {period : IntermediatePeriod}
    {periods : List IntermediatePeriod}

lemma not_allowed_of_purpose {mode : OperationMode} (h : mayHaveSetpoint purpose = false)
    (hmode : mode ∈ Store.operationModesForChargingProfilePurposes purpose) :
    .setpoint ∉ (Store.limitsSetpointsPerOperationMode mode).required ∧
      .setpoint ∉ (Store.limitsSetpointsPerOperationMode mode).optional := by
  cases purpose <;> cases mode <;> revert h hmode <;> decide

def IntermediatePeriod.WithoutSetpoint (period : IntermediatePeriod) : Prop :=
  ∀ unit, (period.values unit).setpoint? = none

/-- The values of the period come from one valid profile. -/
structure IntermediatePeriod.Valued (period : IntermediatePeriod) : Prop where
  sound : ∀ unit, (period.values unit).Sound
  single : ∃ unit, (period.values (otherUnit unit)).setpoint? = none

lemma values_setStart {startPeriod : ℤ} {unit : ChargingRateUnit} :
    ({ period with startPeriod } : IntermediatePeriod).values unit = period.values unit := by
  cases unit <;> rfl

variable (startPeriod : ℤ) (unit : ChargingRateUnit)

lemma values_default :
    (defaultIntermediatePeriod startPeriod).values unit = unspecified := by
  cases unit <;> rfl

lemma setpoint?_unspecified : unspecified.setpoint? = none := by
  simp [unspecified, setpoint?]

lemma withoutSetpoint_default :
    (defaultIntermediatePeriod startPeriod).WithoutSetpoint := fun unit => by
  rw [values_default, setpoint?_unspecified]

lemma valued_default : (defaultIntermediatePeriod startPeriod).Valued where
  sound unit := by
    rw [values_default]
    exact sound_unspecified
  single := ⟨.A, withoutSetpoint_default startPeriod _⟩

lemma IntermediatePeriod.Valued.setStart (h : period.Valued) (startPeriod : ℤ) :
    ({ period with startPeriod } : IntermediatePeriod).Valued where
  sound unit := by
    rw [values_setStart]
    exact h.sound unit
  single := h.single.imp fun unit hnone => by rwa [values_setStart]

lemma valued_preferFirst (h : ∀ p ∈ periods, p.Valued) : (preferFirst periods).Valued := by
  unfold preferFirst
  split
  · rename_i it hit
    have hvalued := h it (mem_of_find?_eq_some hit)
    have hvals : ∀ unit, ({ it with startPeriod := 0, phaseToUse := none } :
        IntermediatePeriod).values unit = it.values unit := fun unit => by cases unit <;> rfl
    exact ⟨fun unit => by rw [hvals]; exact hvalued.sound unit,
      hvalued.single.imp fun unit hnone => by rwa [hvals]⟩
  · exact valued_default 0

lemma intermediate_values (slot : Slot) (period : ChargingSchedulePeriod)
    (profile : ChargingProfile) (startPeriod : ℤ) :
    let unit := profile.chargingSchedule.chargingRateUnit
    let intermediate := (PeriodEntry.init slot period profile).intermediate startPeriod
    intermediate.values unit =
        ⟨period.effectiveLimit unit, period.dischargeLimit.getD noDischargeLimitSpecified,
          period.setpoint.getD noSetpointSpecified⟩ ∧
      intermediate.values (otherUnit unit) = unspecified := by
  unfold PeriodEntry.intermediate
  cases hunit : profile.chargingSchedule.chargingRateUnit <;>
    simp [PeriodEntry.init, hunit, otherUnit, IntermediatePeriod.values, unspecified,
      defaultIntermediatePeriod, PeriodLimit.all]

section Entries

variable {std : StdSort} {startTime endTime : ℤ} {sessionStart : Option ℤ}
  {profiles : List ChargingProfile} {purpose : ChargingProfilePurpose} {e : PeriodEntry}

lemma entry_valued (hvalid : ∀ profile ∈ profiles, ValidSetpoints profile)
    (he : e ∈ calculateAllProfiles std startTime endTime sessionStart profiles purpose) (s : ℤ) :
    (e.intermediate s).Valued ∧
      (mayHaveSetpoint purpose = false → (e.intermediate s).WithoutSetpoint) := by
  obtain ⟨profile, hprof, rfl, period, hper, slot, -, -, rfl⟩ := mem_calculateAllProfiles he
  have hvals := intermediate_values slot period profile s
  generalize hunit : profile.chargingSchedule.chargingRateUnit = unit at hvals
  have hp := hvalid profile hprof period hper
  have hnone := hvals.2 ▸ setpoint?_unspecified
  refine ⟨⟨(forall_unit unit).mpr ⟨?_, ?_⟩, unit, hnone⟩, fun hpurp =>
    (forall_unit unit).mpr ⟨?_, hnone⟩⟩
  · rw [hvals.1]
    refine ⟨?_, ?_, ?_⟩
    · rcases effectiveLimit_cases hp.toValidPeriod unit with hrange | ⟨hmark, -⟩
      · exact .inr hrange
      · exact .inl hmark
    · cases hd : period.dischargeLimit with
      | none => exact .inl rfl
      | some x => exact .inr (hp.dischargeLimit x hd)
    · cases hs : period.setpoint with
      | none => exact .inl rfl
      | some x => exact .inr (hp.setpoint x hs)
  · rw [hvals.2]
    exact sound_unspecified
  · obtain ⟨stored, rfl, hallows⟩ := hp.validated
    have hnot := not_allowed_of_purpose hpurp hallows.mode
    have hcheck := hallows.values
    simp only [Store.checkLimitsAndSetpoints, Bool.and_eq_true,
      Store.areLimitsAndSetpointsOfOperationModeCorrect, decide_eq_true_eq, not_or,
      not_and] at hcheck
    have hnone : stored.setpoint = none := by
      by_contra hset
      exact hcheck.1.2.2 (.inl (isSome_iff_ne_none.mpr hset)) hnot.1 hnot.2
    rw [hvals.1]
    simp [setpoint?, hnone]

/-- What holds for the entries of one purpose, wherever they start, holds for its profile. -/
theorem purposeProfile_forall {Q : IntermediatePeriod → Prop} {profile : List IntermediatePeriod}
    (h : purposeProfile std startTime endTime sessionStart profiles purpose = some profile)
    (hdef : ∀ s, Q (defaultIntermediatePeriod s))
    (hentry : ∀ e ∈ calculateAllProfiles std startTime endTime sessionStart profiles purpose,
      ∀ s, Q (e.intermediate s)) : ∀ p ∈ profile, Q p := by
  intro p hp
  obtain ⟨c, choice, -, hchoice, rfl⟩ :=
    (generateProfileFromPeriods_rendered h p hp).exists_choice
  cases choice with
  | none => exact hdef _
  | some e => exact hentry e (hchoice e rfl) _

end Entries

lemma oneSetpoint_append {before after : List IntermediatePeriod}
    {middle : Option IntermediatePeriod} (hbef : ∀ p ∈ before, p.WithoutSetpoint)
    (hafter : ∀ p ∈ after, p.WithoutSetpoint) (hmiddle : ∀ p ∈ middle, p.Valued) :
    OneSetpoint (before ++ middle.toList ++ after) := by
  have hnone : ∀ {periods : List IntermediatePeriod}, (∀ p ∈ periods, p.WithoutSetpoint) →
      ∀ unit, (periods.map (·.values unit)).filterMap setpoint? = [] :=
    fun h unit => filterMap_setpoint?_of_none fun p hp => h p hp unit
  cases middle with
  | none =>
    refine ⟨.A, none, ?_, ?_⟩
    · simp [hnone hbef, hnone hafter]
    · intro p hp
      rcases mem_append.mp hp with hp | hp
      · exact hbef p (by simpa using hp) _
      · exact hafter p hp _
  | some q =>
    obtain ⟨unit, hsingle⟩ := (hmiddle q rfl).single
    refine ⟨unit, (q.values unit).setpoint?, ?_, ?_⟩
    · cases hset : (q.values unit).setpoint? with
      | none | some => simp [hnone hbef, hnone hafter, hset]
    · intro p hp
      simp only [mem_append, toList_some, mem_singleton] at hp
      rcases hp with (hp | rfl) | hp
      · exact hbef p hp _
      · exact hsingle
      · exact hafter p hp _

structure LimitsOnly (ocppVersion : OcppProtocolVersion) (profile : List IntermediatePeriod) :
    Prop where
  good : (merging ocppVersion).Good profile
  valued : ∀ p ∈ profile, p.Valued
  withoutSetpoint : ∀ p ∈ profile, p.WithoutSetpoint

structure WithSetpoints (ocppVersion : OcppProtocolVersion) (profile : List IntermediatePeriod) :
    Prop where
  good : (merging ocppVersion).Good profile
  valued : ∀ p ∈ profile, p.Valued

section Evse

variable {std : StdSort} {startTime endTime : ℤ} {sessionStart : Option ℤ}
  {ocppVersion : OcppProtocolVersion}

lemma headsAt_cons (profile : List IntermediatePeriod) (profiles : List (List IntermediatePeriod))
    (k : ℤ) : headsAt (profile :: profiles) k =
      (inForce (·.startPeriod) profile k).toList ++ headsAt profiles k := by
  cases hin : inForce (·.startPeriod) profile k with
  | none => exact filterMap_cons_none hin
  | some => exact filterMap_cons_some hin

lemma mergeable_headsAt {external chargePointMax : List IntermediatePeriod}
    {tx : Option (List IntermediatePeriod)} (hext : LimitsOnly ocppVersion external)
    (hmax : LimitsOnly ocppVersion chargePointMax)
    (htx : ∀ profile ∈ tx, WithSetpoints ocppVersion profile) {k : ℤ} :
    Mergeable (headsAt (external :: tx.toList ++ [chargePointMax]) k) := by
  have hall : ∀ profile ∈ external :: tx.toList ++ [chargePointMax],
      WithSetpoints ocppVersion profile := by
    intro profile hprof
    simp only [cons_append, mem_cons, mem_append, mem_toList,
      not_mem_nil, or_false] at hprof
    rcases hprof with rfl | hprof | rfl
    · exact ⟨hext.good, hext.valued⟩
    · exact htx profile hprof
    · exact ⟨hmax.good, hmax.valued⟩
  have hmem : ∀ {p}, p ∈ headsAt (external :: tx.toList ++ [chargePointMax]) k →
      ∃ profile ∈ external :: tx.toList ++ [chargePointMax], p ∈ profile := by
    intro p hp
    obtain ⟨profile, hprof, hin⟩ := mem_filterMap.mp hp
    exact ⟨profile, hprof, (mem_of_inForce hin).1⟩
  refine ⟨fun p hp => ?_, fun p hp => ?_, ?_⟩
  · obtain ⟨profile, hprof, hp⟩ := hmem hp
    exact (hall profile hprof).good.fine p hp
  · obtain ⟨profile, hprof, hp⟩ := hmem hp
    exact ((hall profile hprof).valued p hp).sound
  · have hheads : headsAt (external :: tx.toList ++ [chargePointMax]) k =
        (inForce (·.startPeriod) external k).toList ++
          (tx.bind fun profile => inForce (·.startPeriod) profile k).toList ++
          (inForce (·.startPeriod) chargePointMax k).toList := by
      have hnil : headsAt ([] : List (List IntermediatePeriod)) k = [] := rfl
      cases tx with
      | none | some => simp [headsAt_cons, hnil]
    rw [hheads]
    refine oneSetpoint_append ?_ ?_ ?_
    · intro p hp
      exact hext.withoutSetpoint p (mem_of_inForce (mem_toList.mp hp)).1
    · intro p hp
      exact hmax.withoutSetpoint p (mem_of_inForce (mem_toList.mp hp)).1
    · intro p hp
      obtain ⟨profile, hprof, hin⟩ := bind_eq_some_iff.mp hp
      exact (htx profile hprof).valued p (mem_of_inForce hin).1

variable {profiles : List ChargingProfile}

section

variable (hle : floorSeconds startTime ≤ floorSeconds endTime)
  (hwindow : floorSeconds endTime - floorSeconds startTime < seconds (2 ^ 31))
include hle hwindow

lemma purposeProfile_valued (ocppVersion : OcppProtocolVersion) (std : StdSort)
    (sessionStart : Option ℤ) (purpose : ChargingProfilePurpose)
    (hvalid : ∀ profile ∈ profiles, ValidSetpoints profile) :
    ∃ profile, purposeProfile std startTime endTime sessionStart profiles purpose = some profile ∧
      WithSetpoints ocppVersion profile ∧
      (mayHaveSetpoint purpose = false → LimitsOnly ocppVersion profile) := by
  obtain ⟨profile, hprof, hgood, -⟩ := (supplies ocppVersion std startTime endTime sessionStart
    purpose fun profile hmem => (hvalid profile hmem).valid).good hle hwindow
  have hvalued : ∀ p ∈ profile, p.Valued :=
    purposeProfile_forall hprof valued_default fun e he s => (entry_valued hvalid he s).1
  refine ⟨profile, hprof, ⟨hgood, hvalued⟩, fun hpurp => ⟨hgood, hvalued, ?_⟩⟩
  exact purposeProfile_forall hprof withoutSetpoint_default
    fun e he s => (entry_valued hvalid he s).2 hpurp

/-- The intermediate profiles of an EVSE: of those only the one of the transaction, if there is
any, may have setpoints. -/
theorem generateEvseIntermediates_eq {simulateTransactionActive : Bool}
    {evseProfiles stationWideProfiles : List ChargingProfile}
    (hvalid : ∀ profile ∈ evseProfiles ++ stationWideProfiles, ValidSetpoints profile) :
    ∃ external, ∃ tx : Option (List IntermediatePeriod),
      generateEvseIntermediates std evseProfiles stationWideProfiles startTime endTime sessionStart
        simulateTransactionActive = some (external :: tx.toList) ∧
      LimitsOnly ocppVersion external ∧ ∀ profile ∈ tx, WithSetpoints ocppVersion profile := by
  have hvalued (purpose : ChargingProfilePurpose) :=
    purposeProfile_valued hle hwindow ocppVersion std sessionStart purpose hvalid
  obtain ⟨external, hext, -, hexternalLimits⟩ := hvalued .chargingStationExternalConstraints
  obtain ⟨tx, htx, htxSet, -⟩ := hvalued .txProfile
  obtain ⟨txDefault, htxDef, htxDefaultSet, -⟩ := hvalued .txDefaultProfile
  unfold generateEvseIntermediates
  simp only [hext, htx, htxDef, bind_eq_bind, bind_some]
  by_cases hact : sessionStart.isSome || simulateTransactionActive
  · rw [if_pos hact]
    refine ⟨external, some (mergeTxProfileWithTxDefaultProfile tx txDefault), rfl,
      hexternalLimits rfl, ?_⟩
    intro profile hprof
    obtain rfl := some.inj hprof
    have hprofs : ∀ profile ∈ [tx, txDefault], WithSetpoints ocppVersion profile := by
      simpa using ⟨htxSet, htxDefaultSet⟩
    have hgood := fun profile hprof => (hprofs profile hprof).good
    have hpw := Merging.isPointwise (merging ocppVersion).prefer (by simp) hgood
    refine ⟨hpw.good hgood (merging ocppVersion).fine_prefer, ?_⟩
    exact combineListOfProfiles_forall (valued_default 0)
      (fun s periods h => (valued_preferFirst h).setStart s)
      fun profile hprof => (hprofs profile hprof).valued
  · rw [if_neg hact]
    exact ⟨external, none, rfl, hexternalLimits rfl, by simp⟩

end

end Evse

lemma withoutSetpoint_iff :
    period.WithoutSetpoint ↔ period.currentSetpoint.limit = noSetpointSpecified ∧
      period.powerSetpoint.limit = noSetpointSpecified :=
  (forall_unit .A).trans (and_congr setpoint?_eq_none setpoint?_eq_none)

variable {numberPhases : Option ℤ}

lemma withoutSetpoint_prepared (h : period.WithoutSetpoint) {ocppVersion : OcppProtocolVersion}
    {threePhases : Bool} :
    (period.prepared numberPhases ocppVersion threePhases).WithoutSetpoint := by
  obtain ⟨hcur, hpower⟩ := withoutSetpoint_iff.mp h
  unfold IntermediatePeriod.prepared
  split_ifs
  · refine withoutSetpoint_iff.mpr ?_
    unfold IntermediatePeriod.perPhase setSetpointLimitPhaseValues
    dsimp only
    split
    · exact ⟨hcur, hpower⟩
    · exact ⟨hcur, hpower⟩
    · split_ifs
      · simp [PeriodLimit.onOnePhase, hcur, hpower, isEqual_self]
      · exact ⟨hcur, hpower⟩
      · simp [PeriodLimit.fillCurrent, PeriodLimit.fillPower, hcur, hpower, isEqual_self]
  · exact h

lemma withoutSetpoint_lowestLimits (h : ∀ p ∈ periods, p.WithoutSetpoint)
    {ocppVersion : OcppProtocolVersion} : (lowestLimits ocppVersion periods).WithoutSetpoint := by
  intro unit
  unfold lowestLimits
  have hclear : ∀ {values : UnitValues}, values.setpoint = noSetpointSpecified →
      values.clear.setpoint = noSetpointSpecified := fun hnone => by
    simp [UnitValues.clear, hnone]
  rw [values_clearUnlowered, values_foldl, setpoint?_eq_none]
  refine hclear (foldlRecOn (motive := fun v : UnitValues => v.setpoint = noSetpointSpecified) _ _
    (by cases unit <;> rfl) fun values hvals => ?_)
  refine forall_mem_map.mpr (forall_mem_map.mpr fun p hp => ?_)
  rw [UnitValues.lower, hvals, setpoint?_eq_none.mp (withoutSetpoint_prepared (h p hp) unit)]
  exact cappedSetpoint_none

lemma withoutSetpoint_sumLimits (currentDefault powerDefault : ℚ)
    (ocppVersion : OcppProtocolVersion) (periods : List IntermediatePeriod) :
    (sumLimits currentDefault powerDefault ocppVersion periods).WithoutSetpoint := by
  have hfold : ∀ (threePhases : Bool) (periods : List IntermediatePeriod)
      (initial : IntermediatePeriod), initial.WithoutSetpoint →
      (periods.foldl (addPeriod threePhases currentDefault powerDefault)
        initial).WithoutSetpoint := by
    intro threePhases periods
    induction periods with
    | nil => exact fun initial h => h
    | cons first rest ih =>
      intro initial h
      have hset := withoutSetpoint_iff.mp h
      exact ih _ (withoutSetpoint_iff.mpr hset)
  exact hfold _ _ _ (withoutSetpoint_iff.mpr ⟨rfl, rfl⟩)

lemma convertPeriod_setpoint_none {defaultLimit : ℚ} {defaultNumberPhases : ℤ} {supplyVoltage : ℚ}
    (h : period.WithoutSetpoint) :
    (convertPeriod unit defaultLimit defaultNumberPhases supplyVoltage period).setpoint.value =
      none := by
  obtain ⟨hcur, hpower⟩ := withoutSetpoint_iff.mp h
  cases unit <;>
    simp [convertPeriod, bothUnits, convertAndTransformLimitToPeriodSchedule,
      storeLimitToPhaseLimits, convertAndTransformLimitValue, hcur, hpower, isEqual_self]

/-- The configuration variables are not below the lowest values that they may have. -/
structure SoundConfig (config : CompositeScheduleConfig ChargingProfilePurpose) : Prop where
  currentLimit : 0 ≤ config.currentLimit
  powerLimit : 0 ≤ config.powerLimit
  defaultNumberPhases : 1 ≤ config.defaultNumberPhases
  supplyVoltage : 0 < config.supplyVoltage

section Schedule

variable {station : Station} {std : StdSort} {startTime endTime evseId : ℤ}
  {config : CompositeScheduleConfig ChargingProfilePurpose} {simulateTransactionActive : Bool}

lemma mapM_exists {α β : Type} {f : α → Option β} (h : ∀ a, ∃ b, f a = some b) (l : List α) :
    ∃ bs, l.mapM f = some bs := by
  induction l with
  | nil => exact ⟨[], rfl⟩
  | cons a l ih =>
    obtain ⟨b, hb⟩ := h a
    obtain ⟨bs, hbs⟩ := ih
    exact ⟨b :: bs, by simp [mapM_cons, hb, hbs]⟩

section

variable (hle : floorSeconds startTime ≤ floorSeconds endTime)
  (hwindow : floorSeconds endTime - floorSeconds startTime < seconds (2 ^ 31))
  (hvalid : ∀ evse, ∀ profile ∈ station.validProfiles evse, ValidSetpoints profile)
include hvalid

lemma getValidProfilesForEvse_valid (evse : ℤ)
    (purposesToIgnore : List ChargingProfilePurpose) :
    ∀ profile ∈ station.getValidProfilesForEvse evse purposesToIgnore, ValidSetpoints profile :=
  fun profile hprof => hvalid evse profile (mem_filter.mp hprof).1

variable (std : StdSort) (config : CompositeScheduleConfig ChargingProfilePurpose)
  (simulateTransactionActive : Bool)
include hle hwindow

lemma evse_intermediates (evse : ℤ) :
    ∃ external, ∃ tx : Option (List IntermediatePeriod),
      generateEvseIntermediates std (station.getValidProfilesForEvse evse config.purposesToIgnore)
        (station.getValidProfilesForEvse 0 config.purposesToIgnore) startTime endTime
        (station.sessionStart evse) simulateTransactionActive = some (external :: tx.toList) ∧
      LimitsOnly station.ocppVersion external ∧
      ∀ profile ∈ tx, WithSetpoints station.ocppVersion profile := by
  refine generateEvseIntermediates_eq hle hwindow ?_
  intro profile hprof
  rcases mem_append.mp hprof with hmem | hmem
  · exact getValidProfilesForEvse_valid hvalid evse _ profile hmem
  · exact getValidProfilesForEvse_valid hvalid 0 _ profile hmem

lemma evse_schedule_exists (n : ℤ) :
    ∃ schedule, (do
      let profiles ← generateEvseIntermediates std
        (station.getValidProfilesForEvse (n + 1) config.purposesToIgnore)
        (station.getValidProfilesForEvse 0 config.purposesToIgnore) startTime endTime
        (station.sessionStart (n + 1)) simulateTransactionActive
      return mergeProfilesByLowestLimit profiles station.ocppVersion) = some schedule := by
  obtain ⟨external, tx, hevse, -⟩ :=
    evse_intermediates hle hwindow hvalid std config simulateTransactionActive (n + 1)
  rw [hevse]
  exact ⟨_, rfl⟩

lemma mergedProfiles_evse (hevse : evseId ≠ 0) :
    ∃ external chargePointMax, ∃ tx : Option (List IntermediatePeriod),
      station.mergedProfiles std config startTime endTime evseId simulateTransactionActive =
        some (external :: tx.toList ++ [chargePointMax]) ∧
      LimitsOnly station.ocppVersion external ∧ LimitsOnly station.ocppVersion chargePointMax ∧
      ∀ profile ∈ tx, WithSetpoints station.ocppVersion profile := by
  obtain ⟨external, tx, hevseProfiles, hext, htx⟩ :=
    evse_intermediates hle hwindow hvalid std config simulateTransactionActive evseId
  obtain ⟨chargePointMax, hmax, -, hmaxLimits⟩ := purposeProfile_valued hle hwindow
    station.ocppVersion std (station.lastSessionStart evseId) .chargingStationMaxProfile
    (getValidProfilesForEvse_valid hvalid 0 config.purposesToIgnore)
  refine ⟨external, chargePointMax, tx, ?_, hext, hmaxLimits rfl, htx⟩
  unfold Station.mergedProfiles Station.combinedProfiles
  simp only [if_neg hevse, hevseProfiles, hmax, bind_eq_bind, bind_some]
  rfl

lemma mergedProfiles_station :
    ∃ profiles,
      station.mergedProfiles std config startTime endTime 0 simulateTransactionActive =
        some profiles ∧
      ∀ profile ∈ profiles, ∀ p ∈ profile, p.WithoutSetpoint := by
  obtain ⟨chargePointMax, hmax, -, hmaxLimits⟩ := purposeProfile_valued hle hwindow
    station.ocppVersion std (station.lastSessionStart 0) .chargingStationMaxProfile
    (getValidProfilesForEvse_valid hvalid 0 config.purposesToIgnore)
  obtain ⟨evseSchedules, hcomb⟩ : ∃ evseSchedules,
      station.combinedProfiles std config startTime endTime 0 simulateTransactionActive =
        some [mergeProfilesBySummingLimits evseSchedules config.currentLimit config.powerLimit
          station.ocppVersion] := by
    obtain ⟨evseSchedules, hevses⟩ := mapM_exists
      (evse_schedule_exists hle hwindow hvalid std config simulateTransactionActive)
      (do let n ← range station.evses.length; pure (n : ℤ))
    refine ⟨evseSchedules, ?_⟩
    unfold Station.combinedProfiles
    simp only [if_true]
    rw [hevses]
    rfl
  refine ⟨[mergeProfilesBySummingLimits evseSchedules config.currentLimit config.powerLimit
    station.ocppVersion] ++ [chargePointMax], ?_, ?_⟩
  · unfold Station.mergedProfiles
    rw [hcomb, hmax]
    rfl
  · intro profile hprof
    simp only [cons_append, nil_append, mem_cons, not_mem_nil, or_false]
      at hprof
    rcases hprof with rfl | rfl
    · exact combineListOfProfiles_forall (R := fun _ => True) (withoutSetpoint_default 0)
        (fun s periods _ unit => withoutSetpoint_sumLimits _ _ _ periods unit)
        fun _ _ _ _ => trivial
    · exact (hmaxLimits rfl).withoutSetpoint

end

variable {defaultNumberPhases : ℤ} {period : EnhancedChargingSchedulePeriod}

lemma phasesInForce_pos (h : Mergeable periods) (hdef : 1 ≤ defaultNumberPhases) :
    1 ≤ phasesInForce defaultNumberPhases periods := by
  have hpos : ∀ n ∈ (periods.map (·.numberPhases)).foldl lowerPhases none, 1 ≤ n :=
    foldl_lowerPhases_pos _ _ (by simp)
      (forall_mem_map.mpr fun p hp => (h.fine p hp).sound.phases)
  unfold phasesInForce
  cases hph : (periods.map (·.numberPhases)).foldl lowerPhases none with
  | none => exact hdef
  | some n => exact hpos n hph

lemma exists_of_mem_schedule {profile : List IntermediatePeriod} {unit : ChargingRateUnit}
    {defaultLimit supplyVoltage : ℚ}
    (h : period ∈ convertIntermediateIntoSchedule profile unit defaultLimit defaultNumberPhases
      supplyVoltage) :
    ∃ m ∈ profile,
      convertPeriod unit defaultLimit defaultNumberPhases supplyVoltage m = period ∧
      m.startPeriod = period.startPeriod := by
  obtain ⟨m, hm, rfl⟩ := mem_map.mp (mem_of_mem_compress h)
  exact ⟨m, hm, rfl, (convertPeriod_startPeriod unit defaultLimit defaultNumberPhases
    supplyVoltage m).1.symm⟩

lemma schedule_within_iff (hconfig : SoundConfig config)
    {external chargePointMax : List IntermediatePeriod} {tx : Option (List IntermediatePeriod)}
    (hext : LimitsOnly station.ocppVersion external)
    (hmax : LimitsOnly station.ocppVersion chargePointMax)
    (htx : ∀ profile ∈ tx, WithSetpoints station.ocppVersion profile)
    (hper : period ∈ convertIntermediateIntoSchedule
      (mergeProfilesByLowestLimit (external :: tx.toList ++ [chargePointMax]) station.ocppVersion)
      unit (config.defaultLimit unit) config.defaultNumberPhases config.supplyVoltage) :
    let periods := headsAt (external :: tx.toList ++ [chargePointMax]) period.startPeriod
    period.SetpointWithinLimits ↔ SetpointsFit unit
      (config.supplyVoltage * (phasesInForce config.defaultNumberPhases periods : ℤ)) periods
      (config.defaultLimit unit) := by
  intro periods
  have hmergeable : Mergeable periods :=
    mergeable_headsAt hext hmax htx
  have hgood : ∀ profile ∈ external :: tx.toList ++ [chargePointMax],
      (merging station.ocppVersion).Good profile := by
    simpa [or_imp, forall_and] using
      ⟨hext.good, fun profile hprof => (htx profile hprof).good, hmax.good⟩
  have hpw := Merging.isPointwise (lowestLimits station.ocppVersion) (by simp) hgood
  obtain ⟨m, hm, hconv, hstart⟩ := exists_of_mem_schedule hper
  have hexact := hpw.exact m hm
  have hmerged : MergedFrom periods m := by
    rw [hexact]
    have hm' := hmergeable.mergedFrom station.ocppVersion m.startPeriod
    rwa [show periods = headsAt (external :: tx.toList ++ [chargePointMax]) m.startPeriod from
      by rw [hstart]] at hm' ⊢
  have hph := phasesInForce_pos hmergeable hconfig.defaultNumberPhases
  rw [← hconv]
  exact hmerged.setpointWithinLimits_iff hmergeable
    (by cases unit; exacts [hconfig.powerLimit, hconfig.currentLimit])
    (mul_pos hconfig.supplyVoltage (Int.cast_pos.mpr hph))

end Schedule

/-- For all valid profiles, a period of a composite schedule has its setpoint within its limits
just if the setpoint in force at its start fits the limits in force. -/
theorem setpoint_within_limits_iff (station : Station) (std : StdSort)
    (configuration : Configuration ChargingProfilePurpose) (startTime endTime evseId : ℤ)
    (unit : ChargingRateUnit) (isOffline simulateTransactionActive : Bool)
    (hvalid : ∀ evse, ∀ profile ∈ station.validProfiles evse, ValidSetpoints profile)
    (hconfig : SoundConfig (CompositeScheduleConfig.of configuration isOffline))
    (hwindow : floorSeconds endTime - floorSeconds startTime < seconds (2 ^ 31)) :
    let config := CompositeScheduleConfig.of configuration isOffline
    ∃ schedule profiles,
      station.calculateCompositeSchedule std configuration startTime endTime evseId unit isOffline
        simulateTransactionActive = some schedule ∧
      station.mergedProfiles std config (min startTime endTime) endTime evseId
        simulateTransactionActive = some profiles ∧
      ∀ period ∈ schedule.chargingSchedulePeriod,
        let periods := headsAt profiles period.startPeriod
        period.SetpointWithinLimits ↔ SetpointsFit unit
          (config.supplyVoltage * (phasesInForce config.defaultNumberPhases periods : ℤ)) periods
          (config.defaultLimit unit) := by
  intro config
  have hstart : min startTime endTime = if startTime > endTime then endTime else startTime := by
    simp only [min_def, gt_iff_lt]
    split_ifs <;> omega
  have hsched := calculateCompositeSchedule_eq_map station std configuration startTime evseId
    unit isOffline simulateTransactionActive hstart rfl
  have hle : floorSeconds (min startTime endTime) ≤ floorSeconds endTime :=
    floorSeconds_mono (min_le_right _ _)
  have hwindow' : floorSeconds endTime - floorSeconds (min startTime endTime) <
      seconds (2 ^ 31) := by
    rcases le_total startTime endTime with horder | horder
    · rwa [min_eq_left horder]
    · rw [min_eq_right horder, sub_self]
      decide
  by_cases hevse : evseId = 0
  · subst hevse
    obtain ⟨profiles, hprofs, hnone⟩ :=
      mergedProfiles_station hle hwindow' hvalid std config simulateTransactionActive
    rw [hprofs] at hsched
    refine ⟨_, profiles, hsched, hprofs, fun period hper => ?_⟩
    refine iff_of_true ?_ ?_
    · obtain ⟨m, hm, rfl, -⟩ := exists_of_mem_schedule hper
      have hwithout : m.WithoutSetpoint := combineListOfProfiles_forall (withoutSetpoint_default 0)
        (fun s periods hpers unit => withoutSetpoint_lowestLimits hpers unit) hnone m hm
      intro setpoint hsetpoint
      rw [convertPeriod_setpoint_none _ hwithout] at hsetpoint
      cases hsetpoint
    · intro p hp u setpoint hsetpoint
      obtain ⟨profile, hprof, hin⟩ := mem_filterMap.mp hp
      rw [hnone profile hprof p (mem_of_inForce hin).1 u] at hsetpoint
      cases hsetpoint
  · obtain ⟨external, chargePointMax, tx, hprofs, hext, hmax, htx⟩ :=
      mergedProfiles_evse hle hwindow' hvalid std config simulateTransactionActive hevse
    rw [hprofs] at hsched
    exact ⟨_, _, hsched, hprofs, fun period hper =>
      schedule_within_iff unit hconfig hext hmax htx hper⟩

def constantProfile (purpose : ChargingProfilePurpose) (unit : ChargingRateUnit)
    (period : ChargingSchedulePeriod) : ChargingProfile where
  stackLevel := 1
  chargingProfilePurpose := purpose
  chargingProfileKind := .absolute
  recurrencyKind := none
  validFrom := none
  validTo := none
  chargingSchedule :=
    { chargingRateUnit := unit
      chargingSchedulePeriod := [period]
      duration := none
      startSchedule := some 0
      minChargingRate := none }

def oneEvse (tx : ChargingProfile) (stationWide : List ChargingProfile) : Station where
  validProfiles evse := if evse = 0 then stationWide else if evse = 1 then [tx] else []
  evses := [some 0]
  ocppVersion := .v21

def setpointProfile (setpoint : ℚ) (limit : Option ℚ) : ChargingProfile :=
  constantProfile .txProfile .A
    { startPeriod := 0, numberPhases := some 1, operationMode := some .centralSetpoint
      setpoint := some setpoint, limit }

def maxProfile : ChargingProfile :=
  constantProfile .chargingStationMaxProfile .W
    { startPeriod := 0, numberPhases := some 1, limit := some 2300 }

def dischargeProfile : ChargingProfile :=
  constantProfile .chargingStationExternalConstraints .W
    { startPeriod := 0, numberPhases := some 1, operationMode := some .externalSetpoint
      dischargeLimit := some (-2300) }

lemma constantProfile_valid {period : ChargingSchedulePeriod} (h : ValidSetpoint purpose period) :
    ValidSetpoints (constantProfile purpose unit period) := by
  intro p hp
  rwa [mem_singleton.mp hp]

lemma setpointProfile_valid {setpoint : ℚ} {limit : Option ℚ}
    (hsetpoint : 1 - floatMax ≤ setpoint ∧ setpoint ≤ floatMax - 1)
    (hlimit : ∀ x ∈ limit, 0 ≤ x ∧ x ≤ floatMax - 1) :
    ValidSetpoints (setpointProfile setpoint limit) := by
  refine constantProfile_valid _ ⟨⟨hlimit, by simp, by simp, by simp, by simp⟩,
    ⟨⟨_, none, none, none, none, none, none, none⟩, rfl, .tail _ (.head _), ?_⟩, ?_,
    by simp⟩
  · cases limit <;> simp [Store.checkLimitsAndSetpoints,
      Store.areLimitsAndSetpointsOfOperationModeCorrect, Store.limitsSetpointsPerOperationMode,
      Store.ChargingSchedulePeriod.mode, effectiveMode]
  · intro x hx
    rwa [← some.inj hx]

lemma maxProfile_valid : ValidSetpoints maxProfile := by
  refine constantProfile_valid _ ⟨⟨?_, by simp, by simp, by simp, by simp⟩,
    ⟨⟨_, none, none, none, none, none, none, none⟩, rfl, by decide, by decide +kernel⟩, by simp,
    by simp⟩
  intro x hx
  rw [← some.inj hx]
  decide +kernel

lemma oneEvse_valid {tx : ChargingProfile} {stationWide : List ChargingProfile}
    (htx : ValidSetpoints tx) (hstat : ∀ profile ∈ stationWide, ValidSetpoints profile) :
    ∀ evse, ∀ profile ∈ (oneEvse tx stationWide).validProfiles evse, ValidSetpoints profile := by
  intro evse profile hprof
  simp only [oneEvse] at hprof
  split_ifs at hprof
  · exact hstat profile hprof
  · rwa [mem_singleton.mp hprof]
  · cases hprof

def plainConfig : CompositeScheduleConfig ChargingProfilePurpose := .of {} false

lemma plainConfig_sound : SoundConfig plainConfig :=
  ⟨by decide +kernel, by decide +kernel, by decide +kernel, by decide +kernel⟩

/-- A setpoint of 16 A together with a limit of 8 A and a station maximum of 10 A. -/
theorem capped_setpoint_fits :
    let station := oneEvse (setpointProfile 16 (some 8)) [maxProfile]
    ∃ schedule profiles,
      station.calculateCompositeSchedule StdSort.insertion {} 0 (seconds 60) 1 .A false false =
        some schedule ∧
      station.mergedProfiles StdSort.insertion plainConfig (min 0 (seconds 60)) (seconds 60) 1
        false = some profiles ∧
      ∀ period ∈ schedule.chargingSchedulePeriod,
        let periods := headsAt profiles period.startPeriod
        period.SetpointWithinLimits ↔ SetpointsFit .A (plainConfig.supplyVoltage *
          (phasesInForce plainConfig.defaultNumberPhases periods : ℤ)) periods
          (plainConfig.defaultLimit .A) :=
  setpoint_within_limits_iff _ StdSort.insertion {} 0 (seconds 60) 1 .A false false
    (oneEvse_valid (setpointProfile_valid (by decide +kernel) (by decide +kernel))
      (by simpa using maxProfile_valid))
    plainConfig_sound (by decide)

def setpointsAndLimits (station : Station) : Option (List (Option ℚ × Option ℚ × Option ℚ)) :=
  (station.calculateCompositeSchedule StdSort.insertion {} 0 (seconds 60) 1 .A false false).map
    (·.chargingSchedulePeriod.map fun p =>
      (p.dischargeLimit.value, p.setpoint.value, p.limit.value))

/-- A setpoint of 16 A exceeds a station maximum of 2300 W, which is written as 10 A. One of
-16 A exceeds a discharge limit of 2300 W. One of 64 A exceeds the default limit of 48 A. -/
theorem setpoint_exceeds_limits :
    (∀ evse, ∀ profile ∈ (oneEvse (setpointProfile 16 none) [maxProfile]).validProfiles evse,
      ValidSetpoints profile) ∧
    setpointsAndLimits (oneEvse (setpointProfile 16 none) [maxProfile]) =
      some [(none, some 16, some 10)] ∧
    setpointsAndLimits (oneEvse (setpointProfile (-16) none) [dischargeProfile]) =
      some [(some (-10), some (-16), some 48)] ∧
    setpointsAndLimits (oneEvse (setpointProfile 64 none) []) =
      some [(none, some 64, some 48)] := by
  refine ⟨oneEvse_valid (setpointProfile_valid (by decide +kernel) (by simp))
    (by simpa using maxProfile_valid), ?_, ?_, ?_⟩
  all_goals decide +kernel

end Everest.SmartCharging.V2
