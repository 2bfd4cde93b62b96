import Everest.SmartCharging.ConflictsV2

namespace Everest.SmartCharging.V2.Store

open Checks List Unique

/-- The update gives a value of the type, for one of the phases at least. -/
def ChargingScheduleUpdate.gives (update : ChargingScheduleUpdate) : LimitSetpointType → Prop
  | .limit => update.limit.isSome ∨ update.limitL2.isSome ∨ update.limitL3.isSome
  | .dischargeLimit =>
    update.dischargeLimit.isSome ∨ update.dischargeLimitL2.isSome ∨ update.dischargeLimitL3.isSome
  | .setpoint => update.setpoint.isSome ∨ update.setpointL2.isSome ∨ update.setpointL3.isSome
  | .setpointReactive =>
    update.setpointReactive.isSome ∨ update.setpointReactiveL2.isSome ∨
      update.setpointReactiveL3.isSome

def LimitsSetpointsForOperationMode.allows (table : LimitsSetpointsForOperationMode)
    (type : LimitSetpointType) : Prop :=
  type ∈ table.required ∨ type ∈ table.optional

/-- The operation mode of the period has every value that the update gives, and no setpoint of
another phase gets the opposite sign. -/
structure ChargingScheduleUpdate.Fits (update : ChargingScheduleUpdate)
    (period : ChargingSchedulePeriod) : Prop where
  allowed : ∀ type, update.gives type →
    (limitsSetpointsPerOperationMode period.mode).allows type
  signs : ∀ setpoint ∈ update.setpoint <|> period.setpoint,
    (∀ other ∈ update.setpointL2 <|> period.setpointL2, 0 ≤ setpoint * other) ∧
      ∀ other ∈ update.setpointL3 <|> period.setpointL3, 0 ≤ setpoint * other

lemma areCorrect_update {table : LimitsSetpointsForOperationMode} {type : LimitSetpointType}
    {limit limitL2 limitL3 : Option ℚ}
    (h : areLimitsAndSetpointsOfOperationModeCorrect table type limit limitL2 limitL3)
    (new newL2 newL3 : Option ℚ) :
    areLimitsAndSetpointsOfOperationModeCorrect table type (new <|> limit) (newL2 <|> limitL2)
        (newL3 <|> limitL3) ↔
      (new.isSome ∨ newL2.isSome ∨ newL3.isSome → table.allows type) := by
  unfold areLimitsAndSetpointsOfOperationModeCorrect LimitsSetpointsForOperationMode.allows at *
  by_cases hrequired : type ∈ table.required <;> by_cases hoptional : type ∈ table.optional <;>
    cases new <;> cases newL2 <;> cases newL3 <;> simp_all

@[simp] lemma mode_update (period : ChargingSchedulePeriod) (update : ChargingScheduleUpdate) :
    (period.update update).mode = period.mode := rfl

variable {period : ChargingSchedulePeriod}

lemma checkLimitsAndSetpoints_update (h : checkLimitsAndSetpoints period)
    (update : ChargingScheduleUpdate) :
    checkLimitsAndSetpoints (period.update update) ↔
      ∀ type, update.gives type → (limitsSetpointsPerOperationMode period.mode).allows type := by
  simp only [checkLimitsAndSetpoints, Bool.and_eq_true] at h
  obtain ⟨⟨⟨hlimit, hdis⟩, hset⟩, hreactive⟩ := h
  have hlimit' := areCorrect_update hlimit update.limit update.limitL2 update.limitL3
  have hdis' := areCorrect_update hdis update.dischargeLimit update.dischargeLimitL2
    update.dischargeLimitL3
  have hset' := areCorrect_update hset update.setpoint update.setpointL2
    update.setpointL3
  have hreactive' := areCorrect_update hreactive update.setpointReactive
    update.setpointReactiveL2 update.setpointReactiveL3
  simp only [checkLimitsAndSetpoints, Bool.and_eq_true, mode_update]
  constructor
  · rintro ⟨⟨⟨h1, h2⟩, h3⟩, h4⟩ type
    cases type with
    | limit => exact hlimit'.mp h1
    | dischargeLimit => exact hdis'.mp h2
    | setpoint => exact hset'.mp h3
    | setpointReactive => exact hreactive'.mp h4
  · intro h
    exact ⟨⟨⟨hlimit'.mpr (h .limit), hdis'.mpr (h .dischargeLimit)⟩,
      hset'.mpr (h .setpoint)⟩, hreactive'.mpr (h .setpointReactive)⟩

lemma allSetpointsSignsEqual_iff : allSetpointsSignsEqual period ↔ ∀ setpoint ∈ period.setpoint,
      (∀ other ∈ period.setpointL2, 0 ≤ setpoint * other) ∧
        ∀ other ∈ period.setpointL3, 0 ≤ setpoint * other := by
  unfold allSetpointsSignsEqual
  cases period.setpoint with
  | none => simp
  | some =>
    simp only [← not_lt, mul_neg_iff]
    cases period.setpointL2 <;> cases period.setpointL3 <;> simp [or_iff_not_imp_left]
    all_goals tauto

lemma fits_iff (h : checkLimitsAndSetpoints period) (update : ChargingScheduleUpdate) :
    (checkLimitsAndSetpoints (period.update update) ∧
      allSetpointsSignsEqual (period.update update)) ↔ update.Fits period := by
  rw [checkLimitsAndSetpoints_update h, allSetpointsSignsEqual_iff]
  exact ⟨fun h => ⟨h.1, h.2⟩, fun h => ⟨h.1, h.2⟩⟩

section Revalidated

variable {context : Context} {evse : Option ℤ} {profile profile' : ChargingProfile}
  {schedule schedule' : ChargingSchedule} {period : ChargingSchedulePeriod}

section

variable (update : ChargingScheduleUpdate)
  (hpurp : profile'.chargingProfilePurpose = profile.chargingProfilePurpose)
include hpurp

lemma validateOperationMode_update
    (h : validateOperationMode context evse profile schedule period = .ok ())
    (hunit : schedule'.chargingRateUnit = schedule.chargingRateUnit) :
    validateOperationMode context evse profile' schedule' (period.update update) = .ok () ↔
      update.Fits period := by
  simp only [validateOperationMode, bind_eq_ok, exists_iff, reject_eq_ok,
    Bool.not_eq_false] at h ⊢
  rw [hpurp, hunit, ← fits_iff h.2.2.2.2.2.1]
  constructor
  · intro h'
    exact ⟨h'.2.2.2.2.2.1, h'.2.2.2.2.2.2.2⟩
  · intro h'
    exact ⟨h.1, h.2.1, h.2.2.1, h.2.2.2.1, h.2.2.2.2.1, h'.1, h.2.2.2.2.2.2.1, h'.2⟩

lemma validatePeriod_update (hversion : context.ocppVersion = .v21)
    {first : Bool} {next : Option ChargingSchedulePeriod} {conformed : ChargingSchedulePeriod}
    (h : validatePeriod context evse profile schedule first next period = .ok conformed)
    (hunit : schedule'.chargingRateUnit = schedule.chargingRateUnit) :
    (∃ conformed', validatePeriod context evse profile' schedule' first next
      (period.update update) = .ok conformed') ↔ update.Fits period := by
  simp only [validatePeriod, bind_eq_ok, exists_iff, reject_eq_ok, under_eq_ok, pure_eq_ok,
    hversion, forall_const] at h ⊢
  obtain ⟨h1, h2, h3, h4, h5, h6, hmode, -⟩ := h
  -- Conforming the period adds a number of phases, which no update does.
  have hconform : (if context.getCurrentPhaseType evse = .ac then
        conformScheduleNumberPhases (period.update update) else period.update update) =
      (if context.getCurrentPhaseType evse = .ac then conformScheduleNumberPhases period
        else period).update update := by
    split_ifs <;> rfl
  have hfits : update.Fits (if context.getCurrentPhaseType evse = .ac then
      conformScheduleNumberPhases period else period) ↔ update.Fits period := by
    split_ifs
    · exact ⟨fun h => ⟨h.1, h.2⟩, fun h => ⟨h.1, h.2⟩⟩
    · rfl
  rw [hconform, ← hfits, ← validateOperationMode_update update hpurp hmode hunit]
  constructor
  · rintro ⟨_, -, -, -, -, -, -, h, -⟩
    exact h
  · intro h
    exact ⟨_, h1, h2, h3, h4, h5, h6, h, rfl⟩

variable (hpers : schedule.chargingSchedulePeriod = [period])
  (hdyn : profile.chargingProfileKind = .dynamic)
  (hkind : profile'.chargingProfileKind = .dynamic)
include hpers hdyn hkind

lemma validateSchedule_update (hversion : context.ocppVersion = .v21)
    {conformed : ChargingSchedule}
    (h : validateSchedule context evse profile schedule = .ok conformed) :
    (∃ conformed', validateSchedule context evse profile'
      { schedule with chargingSchedulePeriod := [period.update update] } = .ok conformed') ↔
      update.Fits period := by
  simp only [validateSchedule, validatePeriods, bind_eq_ok, exists_iff, reject_eq_ok,
    under_eq_ok, pure_eq_ok, hversion, forall_const, hpers, hdyn, hkind,
    head?_nil] at h ⊢
  obtain ⟨hunit, -, hv21, _, ⟨periodConformed, hper, -⟩, -⟩ := h
  have hfits : (∃ conformed', validatePeriod context evse profile'
      { schedule with chargingSchedulePeriod := [period.update update] } true none
      (period.update update) = .ok conformed') ↔ update.Fits period :=
    validatePeriod_update update hpurp hversion hper rfl
  rw [← hfits]
  constructor
  · rintro ⟨_, -, -, -, _, ⟨conformed', h, -⟩, -⟩
    exact ⟨conformed', h⟩
  · rintro ⟨conformed', h⟩
    refine ⟨_, hunit, cons_ne_nil _ _, ?_, [conformed'], ⟨conformed', h, [], rfl, rfl⟩,
      by simp, by simp, rfl⟩
    simp only [validateScheduleV21, bind_eq_ok, exists_iff, reject_eq_ok, hdyn, hkind,
      hpurp, hpers, ne_eq, not_true_eq_false, and_false, not_false_eq_true,
      length_singleton, true_and] at hv21 ⊢
    exact hv21

end

lemma validateProfileSchedules_single (hdyn : profile.chargingProfileKind = .dynamic)
    (hscheds : profile.chargingSchedule = [schedule]) :
    (∃ conformed, validateProfileSchedules context evse profile = .ok conformed) ↔
      ∃ conformed, validateSchedule context evse profile schedule = .ok conformed := by
  simp only [validateProfileSchedules, validateSchedules, bind_eq_ok, exists_iff,
    reject_eq_ok, pure_eq_ok, hscheds, hdyn]
  constructor
  · rintro ⟨_, -, -, _, ⟨conformed, h, -⟩, -⟩
    exact ⟨conformed, h⟩
  · rintro ⟨conformed, h⟩
    exact ⟨_, by simp, by simp, [conformed], ⟨conformed, h, [], rfl, rfl⟩, rfl⟩

/-- A valid Dynamic profile has one schedule with one period. -/
theorem single_of_dynamic (hversion : context.ocppVersion = .v21)
    (hdyn : profile.chargingProfileKind = .dynamic)
    (h : ∃ conformed, validateProfileSchedules context evse profile = .ok conformed) :
    ∃ schedule period, profile.chargingSchedule = [schedule] ∧
      schedule.chargingSchedulePeriod = [period] := by
  have hsingle : ∃ schedule, profile.chargingSchedule = [schedule] := by
    simp only [validateProfileSchedules, bind_eq_ok, exists_iff, reject_eq_ok,
      hdyn, true_and, not_not] at h
    obtain ⟨_, -, hlen, -⟩ := h
    exact length_eq_one_iff.mp hlen
  obtain ⟨schedule, hsched⟩ := hsingle
  obtain ⟨_, hvalid⟩ := (validateProfileSchedules_single hdyn hsched).mp h
  simp only [validateSchedule, validateScheduleV21, bind_eq_ok, exists_iff, reject_eq_ok,
    under_eq_ok, hversion, hdyn, true_and, forall_const, not_not] at hvalid
  obtain ⟨period, hper⟩ := length_eq_one_iff.mp hvalid.2.2.1.2.2.2.2.1
  exact ⟨schedule, period, hsched, hper⟩

lemma validateProfileSchedules_durations {conformed : ChargingProfile}
    (h : validateProfileSchedules context evse profile = .ok conformed) :
    conformed.chargingSchedule.map (·.duration) = profile.chargingSchedule.map (·.duration) := by
  simp only [validateProfileSchedules, bind_eq_ok, exists_iff, pure_eq_ok] at h
  obtain ⟨-, -, schedules, hall, rfl⟩ := h
  dsimp only
  generalize profile.chargingSchedule = given at hall ⊢
  induction given generalizing schedules with
  | nil =>
    cases hall
    rfl
  | cons schedule given ih =>
    simp only [validateSchedules, bind_eq_ok, pure_eq_ok] at hall
    obtain ⟨first, hfirst, rest, hrest, rfl⟩ := hall
    simp only [validateSchedule, bind_eq_ok, exists_iff, pure_eq_ok] at hfirst
    obtain ⟨-, -, -, periods, -, -, -, rfl⟩ := hfirst
    rw [map_cons, map_cons, ih rest hrest]

end Revalidated

/-- The profile passes the validation that the profiles of a composite schedule go through. -/
def Passes (context : Context) (database : Database) (evseId : ℤ) (profile : ChargingProfile) :
    Prop :=
  ∃ conformed,
    conformAndValidateProfile context database profile evseId .setChargingProfile = .ok conformed

instance (context : Context) (database : Database) (evseId : ℤ) (profile : ChargingProfile) :
    Decidable (Passes context database evseId profile) :=
  match h : conformAndValidateProfile context database profile evseId .setChargingProfile with
  | .ok conformed => isTrue ⟨conformed, h⟩
  | .error _ => isFalse fun ⟨_, h'⟩ => nomatch h.symm.trans h'

structure SameHead (profile profile' : ChargingProfile) : Prop where
  id : profile'.id = profile.id
  stackLevel : profile'.stackLevel = profile.stackLevel
  purpose : profile'.chargingProfilePurpose = profile.chargingProfilePurpose
  kind : profile'.chargingProfileKind = profile.chargingProfileKind
  transactionId : profile'.transactionId = profile.transactionId
  validFrom : profile'.validFrom = profile.validFrom
  validTo : profile'.validTo = profile.validTo

/-- The profile after an update of its only period, possibly read from the table again. -/
structure UpdateOf (profile : ChargingProfile) (schedule : ChargingSchedule)
    (period : ChargingSchedulePeriod) (update : ChargingScheduleUpdate)
    (updated : ChargingProfile) : Prop extends SameHead profile updated where
  schedules : updated.chargingSchedule =
    [{ schedule with chargingSchedulePeriod := [period.update update] }]

section Profile

variable {context : Context} {database database' : Database} {evseId : ℤ}
  {profile updated conformed conformed' : ChargingProfile} {schedule : ChargingSchedule}
  {period : ChargingSchedulePeriod} {update : ChargingScheduleUpdate}

lemma passes_iff : Passes context database evseId profile ↔
    (evseId ≠ 0 → validateEvseExists context evseId = .ok ()) ∧
    verifyNoConflictingExternalConstraintsId context database profile = .ok () ∧
    ∃ conformed, validateProfileSchedules context (if evseId = 0 then none else some evseId)
        (conformValidityPeriods profile) = .ok conformed ∧
      isOverlappingValidityPeriod database conformed evseId = false ∧
      validatePurpose context database conformed evseId .setChargingProfile = .ok () := by
  simp only [Passes, conformAndValidateProfile, bind_eq_ok, exists_iff, reject_eq_ok,
    under_eq_ok, pure_eq_ok, Bool.not_eq_true]
  constructor
  · rintro ⟨_, -, hex, hid, conformed, hscheds, hover, hpurp, -⟩
    exact ⟨hex, hid, conformed, hscheds, hover, hpurp⟩
  · rintro ⟨hex, hid, conformed, hscheds, hover, hpurp⟩
    exact ⟨conformed, by simp, hex, hid, conformed, hscheds, hover, hpurp, rfl⟩

/-- What the checks against the table and for the purpose read of a profile. -/
structure SameChecks (profile profile' : ChargingProfile) : Prop
    extends SameHead profile profile' where
  durations : profile'.chargingSchedule.map (·.duration) =
    profile.chargingSchedule.map (·.duration)

section

variable (hsame : SameChecks conformed conformed')
  (hrows : ∀ row ∈ database', row.profile.id ≠ conformed.id → row ∈ database)
include hsame hrows

lemma isOverlapping_transfer (h : isOverlappingValidityPeriod database conformed evseId = false) :
    isOverlappingValidityPeriod database' conformed' evseId = false := by
  have hconcerns : concerns conformed' evseId = concerns conformed evseId := by
    funext row
    simp only [concerns, hsame.purpose, hsame.id, hsame.stackLevel]
  unfold isOverlappingValidityPeriod at h ⊢
  rw [hsame.purpose]
  split_ifs at h ⊢ with htx
  · rfl
  · rw [any_eq_false] at h ⊢
    intro row hrow
    obtain ⟨hmem, hconcern⟩ := mem_filter.mp hrow
    rw [hconcerns] at hconcern
    have hid : row.profile.id ≠ conformed.id := by
      simp only [concerns, decide_eq_true_eq] at hconcern
      exact hconcern.2.2.1
    rw [hsame.validFrom, hsame.validTo]
    exact h row (mem_filter.mpr ⟨hrows row hmem hid, hconcern⟩)

lemma txDefault_transfer (h : validateTxDefaultProfile database conformed evseId = .ok ()) :
    validateTxDefaultProfile database' conformed' evseId = .ok () := by
  simp only [validateTxDefaultProfile, reject_eq_ok, Bool.not_eq_true, any_eq_false,
    decide_eq_true_eq, not_and, hsame.stackLevel, hsame.id] at h ⊢
  intro candidate hcandidate hstack hid
  refine h candidate ?_ hstack hid
  have hselect {P : Row → Bool} (hmem : candidate ∈ (database'.filter P).map (·.profile.reread)) :
      candidate ∈ (database.filter P).map (·.profile.reread) := by
    obtain ⟨row, hrow, rfl⟩ := mem_map.mp hmem
    obtain ⟨hrow, hP⟩ := mem_filter.mp hrow
    exact mem_map_of_mem (mem_filter.mpr ⟨hrows row hrow hid, hP⟩)
  split_ifs at hcandidate ⊢
  all_goals exact hselect hcandidate

lemma purpose_transfer
    (h : validatePurpose context database conformed evseId .setChargingProfile = .ok ()) :
    validatePurpose context database' conformed' evseId .setChargingProfile = .ok () := by
  unfold validatePurpose at h ⊢
  rw [hsame.purpose]
  cases hpurp : conformed.chargingProfilePurpose with
  | chargingStationMaxProfile =>
    simpa only [hpurp, validateChargingStationMaxProfile, hsame.purpose, hsame.kind] using h
  | txDefaultProfile =>
    rw [hpurp] at h
    exact txDefault_transfer hsame hrows h
  | txProfile =>
    simp only [hpurp, validateTxProfile, bind_eq_ok, exists_iff, reject_eq_ok,
      under_eq_ok, hsame.transactionId] at h ⊢
    refine ⟨h.1, h.2.1, fun hsource => ?_⟩
    obtain ⟨hgiven, hact, htransaction, hconflicts⟩ := h.2.2 hsource
    refine ⟨hgiven, hact, htransaction, ?_⟩
    rw [Bool.not_eq_true, any_eq_false] at hconflicts ⊢
    intro row hrow hconflict
    simp only [conflicts, decide_eq_true_eq, hsame.transactionId, hsame.stackLevel,
      hsame.id] at hconflict
    exact hconflicts row (hrows row hrow hconflict.2.2.2) (by simpa [conflicts] using hconflict)
  | chargingStationExternalConstraints => rfl
  | priorityCharging =>
    have hany (profile : ChargingProfile) : profile.chargingSchedule.any (·.duration.isSome) =
        (profile.chargingSchedule.map (·.duration)).any Option.isSome := by
      rw [any_map]
      rfl
    simpa only [hpurp, validatePriorityChargingProfile, hsame.purpose, hany,
      hsame.durations] using h
  | localGeneration => rw [hpurp] at h; cases h

end

/-- A profile that differs in its schedules only passes if they do, also with other profiles
gone and its own row written again. -/
theorem Passes.transfer (h : Passes context database evseId profile)
    (hupd : UpdateOf profile schedule period update updated)
    (hdur : profile.chargingSchedule.map (·.duration) = [schedule.duration])
    (hrows : ∀ row ∈ database', row.profile.id ≠ profile.id → row ∈ database)
    (hown : ∀ row ∈ database', row.profile.id = profile.id →
      row.profile.chargingProfilePurpose ≠ .chargingStationExternalConstraints)
    (hscheds : ∃ conformed, validateProfileSchedules context
      (if evseId = 0 then none else some evseId) (conformValidityPeriods updated) =
        .ok conformed) :
    Passes context database' evseId updated := by
  obtain ⟨hex, hext, conformed, hconf, hover, hpurp⟩ := passes_iff.mp h
  obtain ⟨conformed', hconf'⟩ := hscheds
  have hsame : SameChecks conformed conformed' := by
    have hdurations := validateProfileSchedules_durations hconf
    have hdurations' := validateProfileSchedules_durations hconf'
    obtain ⟨schedules, rfl⟩ := validateProfileSchedules_eq hconf
    obtain ⟨schedules', rfl⟩ := validateProfileSchedules_eq hconf'
    refine ⟨⟨hupd.id, hupd.stackLevel, hupd.purpose, hupd.kind,
      hupd.transactionId, ?_, ?_⟩, ?_⟩
    · simp only [conformValidityPeriods, hupd.validFrom]
    · simp only [conformValidityPeriods, hupd.validTo]
    · rw [hdurations, hdurations']
      simp only [conformValidityPeriods, hupd.schedules, hdur, map_cons, map_nil]
  have hid : conformed.id = profile.id := by
    obtain ⟨_, rfl⟩ := validateProfileSchedules_eq hconf
    rfl
  refine passes_iff.mpr ⟨hex, ?_, conformed', hconf', ?_, ?_⟩
  · simp only [verifyNoConflictingExternalConstraintsId, bind_eq_ok, exists_iff,
      reject_eq_ok, hupd.id] at hext ⊢
    refine ⟨hext.1, ?_⟩
    simp only [Bool.not_eq_true, any_eq_false, decide_eq_true_eq, not_and]
    exact hown
  · exact isOverlapping_transfer hsame (hid ▸ hrows) hover
  · exact purpose_transfer hsame (hid ▸ hrows) hpurp

section

variable (hversion : context.ocppVersion = .v21) (hdyn : profile.chargingProfileKind = .dynamic)
  (hsched : profile.chargingSchedule = [schedule])
  (hper : schedule.chargingSchedulePeriod = [period])
  (hupd : UpdateOf profile schedule period update updated)
include hversion hdyn hsched hper hupd

lemma UpdateOf.schedules_iff {evse : Option ℤ}
    (h : validateProfileSchedules context evse (conformValidityPeriods profile) = .ok conformed) :
    (∃ conformed', validateProfileSchedules context evse (conformValidityPeriods updated) =
      .ok conformed') ↔ update.Fits period := by
  have hdyn' : (conformValidityPeriods profile).chargingProfileKind = .dynamic := hdyn
  have hsched' : (conformValidityPeriods profile).chargingSchedule = [schedule] := hsched
  have hkind : (conformValidityPeriods updated).chargingProfileKind = .dynamic :=
    hupd.kind.trans hdyn
  have hpurp : (conformValidityPeriods updated).chargingProfilePurpose =
      (conformValidityPeriods profile).chargingProfilePurpose := hupd.purpose
  obtain ⟨_, hvalid⟩ := (validateProfileSchedules_single hdyn' hsched').mp ⟨_, h⟩
  exact (validateProfileSchedules_single hkind hupd.schedules).trans
    (validateSchedule_update update hpurp hper hdyn' hkind hversion hvalid)

/-- Whatever else was stored or cleared, the updated profile passes only if the update fits. -/
theorem UpdateOf.fits (h : Passes context database evseId profile)
    (hpasses : Passes context database' evseId updated) : update.Fits period := by
  obtain ⟨-, -, conformed, hconf, -⟩ := passes_iff.mp h
  obtain ⟨-, -, conformed', hconf', -⟩ := passes_iff.mp hpasses
  exact (hupd.schedules_iff hversion hdyn hsched hper hconf).mp
    ⟨_, hconf'⟩

lemma UpdateOf.passes (h : Passes context database evseId profile)
    (hrows : ∀ row ∈ database', row.profile.id ≠ profile.id → row ∈ database)
    (hown : ∀ row ∈ database', row.profile.id = profile.id →
      row.profile.chargingProfilePurpose ≠ .chargingStationExternalConstraints)
    (hfits : update.Fits period) : Passes context database' evseId updated := by
  obtain ⟨-, -, conformed, hconf, -⟩ := passes_iff.mp h
  refine h.transfer hupd (by rw [hsched]; rfl) hrows hown ?_
  exact (hupd.schedules_iff hversion hdyn hsched hper hconf).mpr hfits

end

end Profile

section Collected

variable {context : Context} {connectivity : Connectivity} {now evseId : ℤ}
  {ignored : List ChargingProfilePurpose} {found : List ChargingProfile × Database}
  {profile collected : ChargingProfile}

/-- The profile is neither out of date nor left out on purpose. -/
structure Current (connectivity : Connectivity) (now : ℤ)
    (ignored : List ChargingProfilePurpose) (profile : ChargingProfile) : Prop where
  online : (validateProfileWithOfflineTime connectivity profile).1 = true
  unexpired : dynamicProfileExpired profile now = false
  used : profile.chargingProfilePurpose ∉ ignored

structure Collects (context : Context) (evseId : ℤ) (profile : ChargingProfile)
    (found found' : List ChargingProfile × Database) : Prop where
  database : found'.2 ⊆ found.2
  keeps : found.1 ⊆ found'.1
  adds : ∀ collected ∈ found'.1, collected ∈ found.1 ∨
    collected.id = profile.id ∧ Passes context found.2 evseId profile

lemma collectValidProfile_collects :
    Collects context evseId profile found
      (collectValidProfile context connectivity now evseId ignored found profile) := by
  have hsame : Collects context evseId profile found found :=
    ⟨List.Subset.refl _, List.Subset.refl _, fun _ h => .inl h⟩
  unfold collectValidProfile
  split
  · split_ifs
    · exact ⟨clear_subset, List.Subset.refl _, fun _ h => .inl h⟩
    · exact hsame
  · split_ifs
    · exact hsame
    · split
      · rename_i conformed hconf
        split_ifs
        · exact hsame
        · refine ⟨List.Subset.refl _, subset_append_left _ _, fun collected h => ?_⟩
          obtain h | h := mem_append.mp h
          · exact .inl h
          · rw [mem_singleton.mp h]
            exact .inr ⟨(conformAndValidateProfile_accepted hconf).id, _, hconf⟩
      · exact hsame

lemma collectValidProfile_mem (hcur : Current connectivity now ignored profile)
    (hpasses : Passes context found.2 evseId profile) :
    ∃ collected ∈
        (collectValidProfile context connectivity now evseId ignored found profile).1,
      collected.id = profile.id := by
  obtain ⟨conformed, hconf⟩ := hpasses
  have hacc := conformAndValidateProfile_accepted hconf
  have hused : conformed.chargingProfilePurpose ∉ ignored := hacc.purpose ▸ hcur.used
  unfold collectValidProfile
  split
  · rename_i hoffline
    have honline := hcur.online
    rw [hoffline] at honline
    cases honline
  · simp only [hcur.unexpired, hconf, if_neg hused]
    exact ⟨conformed, by simp, hacc.id⟩

variable {profiles : List ChargingProfile}

/-- The whole loop. Every collected profile was valid in some part of the table. -/
theorem foldl_collect_adds (h : collected ∈ (profiles.foldl
      (collectValidProfile context connectivity now evseId ignored) found).1) :
    collected ∈ found.1 ∨ ∃ profile ∈ profiles, collected.id = profile.id ∧
      ∃ database, Passes context database evseId profile := by
  induction profiles generalizing found with
  | nil => exact .inl h
  | cons profile profiles ih =>
    obtain h | ⟨other, hother, h⟩ := ih h
    · obtain h | ⟨hid, hpasses⟩ := collectValidProfile_collects.adds collected h
      · exact .inl h
      · exact .inr ⟨profile, mem_cons_self, hid, _, hpasses⟩
    · exact .inr ⟨other, mem_cons_of_mem _ hother, h⟩

lemma foldl_collect_keeps (profiles : List ChargingProfile) :
    found.1 ⊆ (profiles.foldl
      (collectValidProfile context connectivity now evseId ignored) found).1 := by
  induction profiles generalizing found with
  | nil => exact List.Subset.refl _
  | cons profile profiles ih => exact List.Subset.trans collectValidProfile_collects.keeps ih

lemma foldl_collect_mem (hprof : profile ∈ profiles)
    (hcur : Current connectivity now ignored profile)
    (hpasses : ∀ database ⊆ found.2, Passes context database evseId profile) :
    ∃ collected ∈ (profiles.foldl
        (collectValidProfile context connectivity now evseId ignored) found).1,
      collected.id = profile.id := by
  induction profiles generalizing found with
  | nil => cases hprof
  | cons first profiles ih =>
    obtain rfl | hrest := mem_cons.mp hprof
    · obtain ⟨collected, hcoll, hid⟩ :=
        collectValidProfile_mem hcur (hpasses _ (List.Subset.refl _))
      exact ⟨collected, foldl_collect_keeps profiles hcoll, hid⟩
    · exact ih hrest fun database hsub =>
        hpasses database (List.Subset.trans hsub collectValidProfile_collects.database)

end Collected

section Written

variable {profile written : ChargingProfile} {schedule : ChargingSchedule}
  {period : ChargingSchedulePeriod} {update : ChargingScheduleUpdate} {now : ℤ}

lemma update_of_noFieldsSet (h : update.noFieldsSet) : period.update update = period := by
  simp only [ChargingScheduleUpdate.noFieldsSet, decide_eq_true_eq] at h
  subst h
  rfl

attribute [local simp] ChargingProfile.reread

lemma reread_idem : profile.reread.reread = profile.reread := by
  simp [ChargingSchedule.reread, Function.comp_def, rereadTime_idem]

lemma UpdateOf.reread (hprof : profile.reread = profile)
    (hsched : profile.chargingSchedule = [schedule])
    (h : UpdateOf profile schedule period update written) :
    UpdateOf profile schedule period update written.reread := by
  have hdates : schedule.reread = schedule := by
    have := congrArg ChargingProfile.chargingSchedule hprof
    simpa [hsched] using this
  have hstart : schedule.startSchedule.map rereadTime = schedule.startSchedule :=
    congrArg ChargingSchedule.startSchedule hdates
  refine ⟨⟨h.id, h.stackLevel, h.purpose, h.kind, h.transactionId, ?_, ?_⟩, ?_⟩
  · simpa [h.validFrom] using congrArg ChargingProfile.validFrom hprof
  · simpa [h.validTo] using congrArg ChargingProfile.validTo hprof
  · simp [h.schedules, ChargingSchedule.reread, hstart]

end Written

/-- The update fits each period of the profile. -/
def ChargingScheduleUpdate.FitsProfile (update : ChargingScheduleUpdate)
    (profile : ChargingProfile) : Prop :=
  ∀ schedule ∈ profile.chargingSchedule, ∀ period ∈ schedule.chargingSchedulePeriod,
    update.Fits period

/-- An update of the stored profile is accepted, on request of the CSMS or as the response to
a pull. -/
def UpdateAccepted (block : SmartChargingBlock) (now id : ℤ) (update : ChargingScheduleUpdate)
    (matched : Row) (block' : SmartChargingBlock) : Prop :=
  block.database.getChargingProfile id = some matched ∧
  matched.profile.chargingProfileKind = .dynamic ∧
  (block.handleUpdateDynamicScheduleRequest now id update = (⟨.accepted, none⟩, block') ∨
    block.applyPullResponse now id ⟨.accepted, some update⟩ = block')

section Main

variable {context : Context} {block block' : SmartChargingBlock} {now id : ℤ}
  {update : ChargingScheduleUpdate} {matched : Row}

lemma UpdateAccepted.writeBack {schedule : ChargingSchedule} {period : ChargingSchedulePeriod}
    (h : UpdateAccepted block now id update matched block')
    (hsched : matched.profile.chargingSchedule = [schedule])
    (hper : schedule.chargingSchedulePeriod = [period]) :
    ∃ written, UpdateOf matched.profile schedule period update written ∧
      block' = block.writeBack matched written := by
  obtain ⟨hmatch, hdyn, h⟩ := h
  obtain ⟨written, hwritten⟩ : ∃ written, matched.profile.applyUpdate update now =
      some written := by
    unfold ChargingProfile.applyUpdate
    split_ifs
    · exact ⟨_, rfl⟩
    · simp [hsched, updateSchedules, hper]
  refine ⟨written, ?_, ?_⟩
  · unfold ChargingProfile.applyUpdate at hwritten
    split_ifs at hwritten with hnone
    · cases hwritten
      refine ⟨⟨rfl, rfl, rfl, rfl, rfl, rfl, rfl⟩, ?_⟩
      rw [update_of_noFieldsSet hnone, ← hper]
      exact hsched
    · simp only [hsched, updateSchedules, hper, Option.map_some, Option.some.injEq] at hwritten
      cases hwritten
      exact ⟨⟨rfl, rfl, rfl, rfl, rfl, rfl, rfl⟩, rfl⟩
  obtain h | h := h
  · simp only [SmartChargingBlock.handleUpdateDynamicScheduleRequest, hmatch, hdyn,
      if_true, hwritten, Prod.mk.injEq, true_and] at h
    exact h.symm
  · simp only [SmartChargingBlock.applyPullResponse, hmatch, hdyn, if_true, hwritten] at h
    exact h.symm

lemma Passes.not_external {database : Database} {evseId : ℤ} {profile : ChargingProfile}
    (h : Passes context database evseId profile) {row : Row} (hrow : row ∈ database)
    (hid : row.profile.id = profile.id) :
    row.profile.chargingProfilePurpose ≠ .chargingStationExternalConstraints := by
  obtain ⟨-, hext, -⟩ := passes_iff.mp h
  simp only [verifyNoConflictingExternalConstraintsId, bind_eq_ok, exists_iff,
    reject_eq_ok, Bool.not_eq_true, any_eq_false, decide_eq_true_eq, not_and] at hext
  exact hext.2 row hrow hid

section Rows

variable {written : ChargingProfile} {row : Row}

def Row.withProfile (matched : Row) (written : ChargingProfile) : Row :=
  { matched with profile := written }

lemma mem_writeBack_self :
    matched.withProfile written ∈ (block.writeBack matched written).database :=
  mem_insertOrUpdate.mpr (.inr rfl)

lemma mem_of_mem_writeBack (hid : written.id = matched.profile.id)
    (hrow : row ∈ (block.writeBack matched written).database)
    (hne : row.profile.id ≠ matched.profile.id) : row ∈ block.database := by
  obtain ⟨hrow, -⟩ | rfl := mem_insertOrUpdate.mp hrow
  · exact hrow
  · exact absurd hid hne

lemma eq_of_mem_writeBack (hid : written.id = matched.profile.id)
    (hrow : row ∈ (block.writeBack matched written).database)
    (heq : row.profile.id = matched.profile.id) : row = matched.withProfile written := by
  obtain ⟨-, hne⟩ | rfl := mem_insertOrUpdate.mp hrow
  · exact absurd (heq.trans hid.symm) hne
  · rfl

end Rows

/-- After an accepted update the profile passes the validation, and is used for composite
schedules while it is current, exactly if the update fits its period. -/
theorem updated_profile_passes_iff (hversion : context.ocppVersion = .v21)
    (hpasses : Passes context block.database matched.evseId matched.profile)
    (hupdate : UpdateAccepted block now id update matched block') :
    ∃ row ∈ block'.database, row.profile.id = id ∧ row.evseId = matched.evseId ∧
      (Passes context block'.database row.evseId row.profile ↔
        update.FitsProfile matched.profile) ∧
      ∀ connectivity later ignored, Current connectivity later ignored row.profile.reread →
        ((∃ profile ∈ (getValidProfilesForEvse context connectivity later row.evseId ignored
            block'.database).1, profile.id = id) ↔ update.FitsProfile matched.profile) := by
  have hdyn := hupdate.2.1
  obtain ⟨schedule, period, hsched, hper⟩ : ∃ schedule period,
      matched.profile.chargingSchedule = [schedule] ∧
        schedule.chargingSchedulePeriod = [period] := by
    obtain ⟨-, -, conformed, hconf, -⟩ := passes_iff.mp hpasses
    have hkind : (conformValidityPeriods matched.profile).chargingProfileKind = .dynamic :=
      hdyn
    have hsingle := single_of_dynamic hversion hkind ⟨_, hconf⟩
    exact hsingle
  have hfits : update.FitsProfile matched.profile ↔ update.Fits period := by
    simp [ChargingScheduleUpdate.FitsProfile, hsched, hper]
  obtain ⟨written, hwritten, rfl⟩ := hupdate.writeBack hsched hper
  obtain ⟨stored, hstored, hid, hread⟩ := getChargingProfile_eq_some hupdate.1
  have hreread : UpdateOf matched.profile schedule period update written.reread := by
    refine hwritten.reread ?_ hsched
    rw [hread]
    exact reread_idem
  have hmatchedId : matched.profile.id = id := by
    rw [hread]
    exact hid
  have hpurp : matched.profile.chargingProfilePurpose ≠ .chargingStationExternalConstraints := by
    have := hpasses.not_external hstored (hid.trans hmatchedId.symm)
    rw [hread]
    exact this
  have hown : ∀ row ∈ (block.writeBack matched written).database,
      row.profile.id = matched.profile.id →
        row.profile.chargingProfilePurpose ≠ .chargingStationExternalConstraints := by
    intro row hrow heq
    rw [eq_of_mem_writeBack hwritten.id hrow heq]
    exact hwritten.purpose ▸ hpurp
  refine ⟨matched.withProfile written, mem_writeBack_self, hwritten.id.trans hmatchedId, rfl,
    ?_, ?_⟩
  · rw [hfits]
    exact ⟨hwritten.fits hversion hdyn hsched hper hpasses,
      hwritten.passes hversion hdyn hsched hper hpasses
        (fun _ => mem_of_mem_writeBack hwritten.id) hown⟩
  · intro connectivity later ignored hcur
    rw [hfits]
    constructor
    · rintro ⟨collected, hcoll, hcollectedId⟩
      obtain h | ⟨profile, hprof, hsame, _, hvalid⟩ := foldl_collect_adds hcoll
      · cases h
      · obtain ⟨row, hrow, rfl⟩ := List.mem_map.mp hprof
        have heq : row.profile.id = matched.profile.id :=
          (hsame.symm.trans hcollectedId).trans hmatchedId.symm
        rw [eq_of_mem_writeBack hwritten.id (List.mem_filter.mp hrow).1 heq] at hvalid
        exact hreread.fits hversion hdyn hsched hper hpasses hvalid
    · intro hfit
      have hlisted : written.reread ∈ Database.getChargingProfilesForEvse matched.evseId
          (block.writeBack matched written).database :=
        List.mem_map.mpr ⟨matched.withProfile written,
          List.mem_filter.mpr ⟨mem_writeBack_self, by simp [Row.withProfile]⟩, rfl⟩
      have hkept : ∀ database ⊆ (block.writeBack matched written).database,
          Passes context database matched.evseId written.reread := fun database hsub =>
        hreread.passes hversion hdyn hsched hper hpasses
          (fun row hrow => mem_of_mem_writeBack hwritten.id (hsub hrow))
          (fun row hrow => hown row (hsub hrow)) hfit
      have hcollect : ∃ collected ∈ (getValidProfilesForEvse context connectivity later
          matched.evseId ignored (block.writeBack matched written).database).1,
          collected.id = written.reread.id := foldl_collect_mem hlisted hcur hkept
      obtain ⟨collected, hcoll, hsame⟩ := hcollect
      exact ⟨collected, hcoll, hsame.trans (hwritten.id.trans hmatchedId)⟩

end Main

def dynamicStation : Context := { oneEvse with supportsDynamicProfiles := some true }

def dynamicRow : Row where
  evseId := 1
  profile :=
    { id := 1, stackLevel := 0, chargingProfilePurpose := .txDefaultProfile
      chargingProfileKind := .dynamic
      chargingSchedule := [
        { chargingRateUnit := .A
          chargingSchedulePeriod := [
            { startPeriod := 0, limit := some 16, numberPhases := some 3 }] }]
      validFrom := some 0, validTo := some 4000000000000000000, dynUpdateTime := some 0 }
  chargingLimitSource := "CSO"

def dynamicBlock : SmartChargingBlock := ⟨[dynamicRow], fun _ => none⟩

theorem lower_limit_passes :
    let block := (dynamicBlock.handleUpdateDynamicScheduleRequest 1000000000 1
      { limit := some 10 }).2
    ∃ row ∈ block.database, row.profile.id = 1 ∧
      Passes dynamicStation block.database row.evseId row.profile := by
  have hpasses : Passes dynamicStation dynamicBlock.database dynamicRow.evseId
      dynamicRow.profile := by decide +kernel
  have hresp : (dynamicBlock.handleUpdateDynamicScheduleRequest 1000000000 1
      { limit := some 10 }).1 = ⟨.accepted, none⟩ := by decide +kernel
  have hupdate : UpdateAccepted dynamicBlock 1000000000 1 { limit := some 10 } dynamicRow
      (dynamicBlock.handleUpdateDynamicScheduleRequest 1000000000 1 { limit := some 10 }).2 :=
    ⟨by decide +kernel, rfl, .inl (Prod.ext hresp rfl)⟩
  have hfits : ChargingScheduleUpdate.FitsProfile { limit := some 10 } dynamicRow.profile := by
    simp only [ChargingScheduleUpdate.FitsProfile, dynamicRow, List.mem_singleton, forall_eq]
    refine ⟨fun type => ?_, by simp⟩
    cases type <;> simp [ChargingScheduleUpdate.gives, ChargingSchedulePeriod.mode,
      effectiveMode, limitsSetpointsPerOperationMode, LimitsSetpointsForOperationMode.allows]
  obtain ⟨row, hrow, hid, -, hiff, -⟩ := updated_profile_passes_iff rfl hpasses hupdate
  exact ⟨row, hrow, hid, hiff.mpr hfits⟩

/-- A setpoint in a period that only charges is accepted, and the profile is not valid after. -/
theorem setpoint_update_invalidates :
    let update : ChargingScheduleUpdate := { setpoint := some 5 }
    let (response, block) := dynamicBlock.handleUpdateDynamicScheduleRequest 1000000000 1 update
    Passes dynamicStation dynamicBlock.database 1 dynamicRow.profile ∧
      response.status = .accepted ∧
      ∃ row ∈ block.database, row.profile.id = 1 ∧
        ¬Passes dynamicStation block.database row.evseId row.profile := by
  decide +kernel

end Everest.SmartCharging.V2.Store
