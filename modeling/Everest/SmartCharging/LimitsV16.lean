import Everest.SmartCharging.CompositeSchedule
import Everest.SmartCharging.MergedLimits

namespace Everest.SmartCharging.V16

open Timeline IntermediatePeriod CompositeScheduleConfig SmartChargingHandler

def IntermediatePeriod.limits (period : IntermediatePeriod) : Limits :=
  ⟨period.currentLimit, period.powerLimit, period.numberPhases⟩

variable (periods : List IntermediatePeriod)

lemma foldl_lowerPeriod (initial : IntermediatePeriod) :
    (periods.foldl lowerPeriod initial).limits =
      ⟨(periods.map (·.currentLimit)).foldl lower initial.currentLimit,
        (periods.map (·.powerLimit)).foldl lower initial.powerLimit,
        (periods.map (·.numberPhases)).foldl lowerPhases initial.numberPhases⟩ := by
  induction periods generalizing initial with
  | nil => rfl
  | cons first rest ih => exact ih (lowerPeriod initial first)

lemma limits_lowestLimits :
    (lowestLimits periods).limits = Limits.lowest (periods.map (·.limits)) := by
  have hfold := foldl_lowerPeriod periods
    { defaultIntermediatePeriod 0 with currentLimit := floatMax, powerLimit := floatMax }
  unfold lowestLimits clearUnlowered
  generalize periods.foldl lowerPeriod _ = folded at hfold ⊢
  simp only [limits, Limits.mk.injEq] at hfold
  obtain ⟨hcur, hpower, hph⟩ := hfold
  simp only [limits, Limits.lowest, lowestLimit, List.map_map, hcur, hpower,
    hph]
  rfl

variable {period : IntermediatePeriod} {own other : ℚ} {ownStackLevel otherStackLevel : ℤ}
    {convert : ℚ → ℚ} {configuration : Configuration ChargingProfilePurposeType} {isOffline : Bool}

lemma IntermediatePeriod.limits_of_not_hasLimit (h : period.hasLimit = false) :
    period.currentLimit = noLimitSpecified ∧ period.powerLimit = noLimitSpecified := by
  simpa [hasLimit] using h

lemma limits_preferFirst (p q : IntermediatePeriod) :
    (if p.hasLimit then p else q).limits.Close 0 (preferFirst [p, q]).limits := by
  unfold preferFirst
  rw [List.find?_cons]
  cases hp : p.hasLimit with
  | true => exact .of_eq le_rfl rfl rfl
  | false =>
    rw [List.find?_cons]
    cases hq : q.hasLimit with
    | true => exact .of_eq le_rfl rfl rfl
    | false =>
      obtain ⟨hcur, hpower⟩ := limits_of_not_hasLimit hq
      exact .of_eq le_rfl hcur hpower

lemma sound_preferFirst {periods : List IntermediatePeriod}
    (h : ∀ p ∈ periods, p.limits.Sound) : (preferFirst periods).limits.Sound := by
  unfold preferFirst
  split
  · rename_i it hit
    exact h it (List.mem_of_find?_eq_some hit)
  · exact Limits.sound_unspecified

def merging : Merging IntermediatePeriod where
  limits := IntermediatePeriod.limits
  Fine p := p.limits.Sound
  lowest := lowestLimits
  prefer := preferFirst
  specified := IntermediatePeriod.hasLimit
  tolerance := 0
  tolerance_nonneg := le_rfl
  tolerance_lt := zero_lt_one
  sound _ h := h
  fine_default _ := Limits.sound_unspecified
  fine_set _ _ h := h
  close_of_not_differs p q h := by
    simp only [PeriodOps.differs, IntermediatePeriod.differs, Bool.or_eq_false_iff,
      decide_eq_false_iff_not, not_not] at h
    exact .of_eq le_rfl h.1.1.1.1 h.1.1.1.2
  fine_lowest periods h := by
    rw [limits_lowestLimits]
    exact Limits.sound_lowest (by simpa using h)
  limits_lowest periods _ := limits_lowestLimits periods
  fine_prefer _ h := sound_preferFirst h
  close_prefer p q _ _ := limits_preferFirst p q

lemma lowerOf_limit {period : EnhancedChargingSchedulePeriod} :
    let out := lowerOf own other ownStackLevel otherStackLevel convert period
    (own ≠ noLimitSpecified → out.limit ≤ own) ∧
      (other ≠ noLimitSpecified → out.limit ≤ convert other) := by
  unfold lowerOf
  dsimp only
  split_ifs with hown hother hother'
  · exact ⟨fun _ => hother.2.le, fun _ => le_rfl⟩
  · exact ⟨fun _ => le_rfl, fun h => not_lt.mp fun hlt => hother ⟨h, hlt⟩⟩
  · exact ⟨fun h => absurd h hown, fun _ => le_rfl⟩
  · exact ⟨fun h => absurd h hown, fun h => not_lt.mp fun hlt => hother' ⟨h, hlt⟩⟩

variable (unit : ChargingRateUnit) (defaultLimit : ℚ) (defaultNumberPhases : ℤ) (supplyVoltage : ℚ)

lemma convertPeriod_converted : period.limits.Converted unit defaultLimit
      (supplyVoltage * (period.numberPhases.getD defaultNumberPhases : ℤ))
      (convertPeriod unit defaultLimit defaultNumberPhases supplyVoltage period).limit := by
  unfold convertPeriod
  split_ifs with hlimit
  · have hnone : period.limits.current = noLimitSpecified →
        period.limits.power ≠ noLimitSpecified := by
      intro hcur hpower
      simp only [limits] at hcur hpower
      simp [hasLimit, hcur, hpower] at hlimit
    cases unit with
    | A => exact ⟨lowerOf_limit.1, lowerOf_limit.2, fun hc hp => absurd hp (hnone hc)⟩
    | W => exact ⟨lowerOf_limit.2, lowerOf_limit.1, fun hc hp => absurd hp (hnone hc)⟩
  · obtain ⟨hcur, hpower⟩ :=
      limits_of_not_hasLimit (by simpa using hlimit)
    exact ⟨fun h => absurd hcur h, fun h => absurd hpower h, fun _ _ => rfl⟩

lemma convertPeriod_startPeriod (period : IntermediatePeriod) :
    let out := convertPeriod unit defaultLimit defaultNumberPhases supplyVoltage period
    out.startPeriod = period.startPeriod ∧ out.numberPhases = period.numberPhases := by
  unfold convertPeriod
  split_ifs
  · cases unit with
    | A | W =>
      unfold lowerOf
      dsimp only
      split_ifs <;> exact ⟨rfl, rfl⟩
  · exact ⟨rfl, rfl⟩

lemma convertIntermediateIntoSchedule_inForce {profile : List IntermediatePeriod} {k : ℤ}
    (hinc : Increasing (·.startPeriod) profile)
    (h : inForce (·.startPeriod) profile k = some period) : ∃ out, inForce (·.startPeriod)
        (convertIntermediateIntoSchedule profile unit defaultLimit defaultNumberPhases
          supplyVoltage) k = some out ∧
      out.limit = (convertPeriod unit defaultLimit defaultNumberPhases supplyVoltage period).limit ∧
      out.numberPhases = period.numberPhases := by
  have hdiff : ∀ p q : EnhancedChargingSchedulePeriod, p.differs q = false ↔
      (p.limit, p.numberPhases, p.stackLevel) = (q.limit, q.numberPhases, q.stackLevel) := by
    simp [EnhancedChargingSchedulePeriod.differs, and_assoc]
  have hconv := convertPeriod_startPeriod unit defaultLimit defaultNumberPhases supplyVoltage
  obtain ⟨out, hout, hkey⟩ :=
    inForce_compress_converted hdiff (fun p => (hconv p).1) hinc h
  simp only [Prod.mk.injEq] at hkey
  exact ⟨out, hout, hkey.1, hkey.2.1.trans (hconv period).2⟩

/-- What a period of a valid profile satisfies: its limit is not negative and not the largest
number, which stands for no limit, and it uses at least one phase. -/
structure ValidPeriod (period : ChargingSchedulePeriod) : Prop where
  nonneg : 0 ≤ period.limit
  le_max : period.limit ≤ floatMax - 1
  phases : ∀ n ∈ period.numberPhases, 1 ≤ n

def Valid (profile : ChargingProfile) : Prop :=
  ∀ period ∈ profile.chargingSchedule.chargingSchedulePeriod, ValidPeriod period

variable {std : StdSort} {startTime endTime t : ℤ} {sessionStart : Option ℤ}
  {profiles : List ChargingProfile} {purpose : ChargingProfilePurposeType}

lemma entry_limits (hvalid : ∀ profile ∈ profiles, Valid profile) {e : PeriodEntry}
    (he : e ∈ calculateAllProfiles std startTime endTime sessionStart profiles purpose) (s : ℤ) :
    (e.intermediate s).limits.Sound ∧ (e.intermediate s).hasLimit = true := by
  obtain ⟨profile, hprof, period, hper, slot, -, -, rfl⟩ := mem_calculateAllProfiles he
  have hp := hvalid profile hprof period hper
  have hspec := ne_noLimit_of_nonneg hp.nonneg
  unfold PeriodEntry.intermediate
  split
  · exact ⟨⟨.inr ⟨hp.nonneg, hp.le_max⟩, .inl rfl, hp.phases⟩,
      by simp [hasLimit, PeriodEntry.init, hspec]⟩
  · exact ⟨⟨.inl rfl, .inr ⟨hp.nonneg, hp.le_max⟩, hp.phases⟩,
      by simp [hasLimit, PeriodEntry.init, hspec]⟩

lemma supplies (std : StdSort) (startTime endTime : ℤ) (sessionStart : Option ℤ)
    (purpose : ChargingProfilePurposeType) (hvalid : ∀ profile ∈ profiles, Valid profile) :
    merging.Supplies startTime endTime
      (calculateAllProfiles std startTime endTime sessionStart profiles purpose) :=
  ⟨fun _ he => calculateAllProfiles_delivered he, fun _ he s => (entry_limits hvalid he s).1,
    fun _ he s => (entry_limits hvalid he s).2⟩

/-- The periods that constrain a connector at `t`: the one of the charge point maximum and,
while a transaction is active or simulated, the one of a TxProfile that applies, else the one
of the TxDefaultProfile. -/
def SmartChargingHandler.Constrains (handler : SmartChargingHandler) (std : StdSort)
    (purposesToIgnore : List ChargingProfilePurposeType) (startTime endTime evseId : ℤ)
    (simulateTransactionActive : Bool) (t : ℤ) (period : IntermediatePeriod) : Prop :=
  let sessionStart := handler.sessionStart evseId
  let stationWideProfiles := handler.getValidProfiles 0 purposesToIgnore
  let profiles := handler.getValidProfiles evseId purposesToIgnore ++ stationWideProfiles
  let alone := fun profiles purpose =>
    InForceIn (purposeProfile std startTime endTime sessionStart profiles purpose)
      (elapsedSeconds t (floorSeconds startTime)) period
  let txApplies :=
    Applies (calculateAllProfiles std startTime endTime sessionStart profiles .txProfile) t
  alone stationWideProfiles .chargePointMaxProfile ∨
    (sessionStart.isSome || simulateTransactionActive) ∧
      (txApplies ∧ alone profiles .txProfile ∨ ¬txApplies ∧ alone profiles .txDefaultProfile)

def SmartChargingHandler.Installed (handler : SmartChargingHandler) (profile : ChargingProfile) :
    Prop :=
  profile ∈ handler.chargePointMaxProfiles ∨
    ∃ connector ∈ handler.connectors,
      profile ∈ connector.txProfiles ∨ profile ∈ connector.txDefaultProfiles

lemma installed_of_mem_getValidProfiles {handler : SmartChargingHandler} {connectorId : ℤ}
    {purposesToIgnore : List ChargingProfilePurposeType} {profile : ChargingProfile}
    (h : profile ∈ handler.getValidProfiles connectorId purposesToIgnore) :
    handler.Installed profile := by
  have hmax : ∀ {p : Prop} [Decidable p],
      profile ∈ (if p then [] else handler.chargePointMaxProfiles) →
        handler.Installed profile := by
    intro p _ hmem
    split_ifs at hmem
    · cases hmem
    · exact .inl hmem
  unfold getValidProfiles at h
  dsimp only at h
  split at h
  · exact hmax h
  · rename_i connector hconn
    have hmem : connector ∈ handler.connectors := by
      unfold connector? at hconn
      split_ifs at hconn
      exact List.mem_of_getElem? hconn
    rcases List.mem_append.mp h with hleft | hdef
    · rcases List.mem_append.mp hleft with hmaximum | htx
      · exact hmax hmaximum
      · split_ifs at htx
        · cases htx
        · exact .inr ⟨connector, hmem, .inl (List.mem_filter.mp htx).1⟩
    · split_ifs at hdef
      · cases hdef
      · exact .inr ⟨connector, hmem, .inr hdef⟩

variable {handler : SmartChargingHandler} {evseId : ℤ} {simulateTransactionActive : Bool}
  {config : CompositeScheduleConfig ChargingProfilePurposeType}

lemma combinedProfiles_represents (hevse : 0 < evseId)
    (hvalid : ∀ profile, handler.Installed profile → Valid profile)
    (hin : InWindow startTime endTime t) :
    ∃ combined chargePointMax,
      handler.combinedProfiles std config startTime endTime evseId simulateTransactionActive =
        some combined ∧
      purposeProfile std startTime endTime (handler.lastSessionStart evseId)
        (handler.getValidProfiles 0 config.purposesToIgnore) .chargePointMaxProfile =
        some chargePointMax ∧
      merging.Represents (combined ++ [chargePointMax])
        (elapsedSeconds t (floorSeconds startTime))
        (handler.Constrains std config.purposesToIgnore startTime endTime evseId
          simulateTransactionActive t) := by
  have hlast : handler.lastSessionStart evseId = handler.sessionStart evseId := by
    rw [lastSessionStart, if_neg hevse.ne']
  have hstat : ∀ profile ∈ handler.getValidProfiles 0 config.purposesToIgnore, Valid profile :=
    fun profile hprof => hvalid profile (installed_of_mem_getValidProfiles hprof)
  have hprofs : ∀ profile ∈ handler.getValidProfiles evseId config.purposesToIgnore ++
      handler.getValidProfiles 0 config.purposesToIgnore, Valid profile := by
    intro profile hprof
    rcases List.mem_append.mp hprof with hmem | hmem
    · exact hvalid profile (installed_of_mem_getValidProfiles hmem)
    · exact hstat profile hmem
  obtain ⟨chargePointMax, hmax, hmaxRep⟩ := (supplies std startTime endTime
    (handler.sessionStart evseId) .chargePointMaxProfile hstat).represents hin.le hin.window std
    (elapsedSeconds t (floorSeconds startTime))
  have hsup (purpose) :=
    supplies std startTime endTime (handler.sessionStart evseId) purpose hprofs
  obtain ⟨tx, txDefault, htx, htxDef, htxRep⟩ := (hsup .txProfile).prefer std
    (hsup .txDefaultProfile) (fun _ => rfl) hin
  unfold combinedProfiles generateEvseIntermediates
    SmartChargingHandler.Constrains purposeProfile generateProfileFromPeriods
  simp only [if_neg hevse.ne', hlast, hmax, htx, htxDef]
  by_cases hact : (handler.sessionStart evseId).isSome || simulateTransactionActive
  · rw [if_pos hact]
    refine ⟨_, chargePointMax, rfl, rfl, (htxRep.append hmaxRep).congr fun q => ?_⟩
    simp only [hact, true_and, hmax, htx, htxDef]
    exact or_comm
  · rw [if_neg hact]
    refine ⟨_, chargePointMax, rfl, rfl, hmaxRep.congr fun q => ?_⟩
    simp only [hact, hmax, Bool.false_eq_true, false_and, or_false]

/-- At `t` the schedule has a limit that is no higher than any constraint allows. It is the
default if no constraint specifies a limit. -/
def SmartChargingHandler.WithinConstraints (handler : SmartChargingHandler) (std : StdSort)
    (configuration : Configuration ChargingProfilePurposeType) (startTime endTime evseId : ℤ)
    (unit : ChargingRateUnit) (isOffline simulateTransactionActive : Bool) (t : ℤ) : Prop :=
  let config := CompositeScheduleConfig.of configuration isOffline
  let constrains := handler.Constrains std config.purposesToIgnore startTime endTime evseId
    simulateTransactionActive t
  ∃ schedule period,
    handler.calculateEnhancedCompositeSchedule std configuration startTime endTime evseId unit
      isOffline simulateTransactionActive = some schedule ∧
    inForce (·.startPeriod) schedule.chargingSchedulePeriod
      (elapsedSeconds t (floorSeconds startTime)) = some period ∧
    (∀ q, constrains q → q.limits.Allows unit
      (config.supplyVoltage * (period.numberPhases.getD config.defaultNumberPhases : ℤ)) 0
      period.limit) ∧
    ((∀ q, constrains q → q.hasLimit = false) → period.limit = config.defaultLimit unit)

lemma calculateEnhancedCompositeSchedule_bounds (hevse : 0 < evseId)
    (hvalid : ∀ profile, handler.Installed profile → Valid profile)
    (hvolt : 0 < (of configuration isOffline).supplyVoltage)
    (hph : 1 ≤ (of configuration isOffline).defaultNumberPhases)
    (hin : InWindow startTime endTime t) :
    handler.WithinConstraints std configuration startTime endTime evseId unit isOffline
      simulateTransactionActive t := by
  unfold SmartChargingHandler.WithinConstraints
  generalize hcfg : of configuration isOffline = config at *
  obtain ⟨combined, chargePointMax, hcomb, hmax, hrep⟩ :=
    combinedProfiles_represents hevse hvalid hin
  have hne : combined ++ [chargePointMax] ≠ [] := by simp
  obtain ⟨p, hp, -, hbounds⟩ := hrep.bounds hne
    (elapsedSeconds_nonneg hin.start) hvolt hph
  have hretval := Merging.isPointwise merging.lowest hne hrep.good
  obtain ⟨period, hper, hlimit, hnumber⟩ := convertIntermediateIntoSchedule_inForce unit
    (config.defaultLimit unit) config.defaultNumberPhases config.supplyVoltage
    hretval.isProfile.timeline.increasing hp
  simp only [calculateEnhancedCompositeSchedule, hcfg]
  rw [hcomb, hmax]
  refine ⟨_, period, rfl, hper, ?_⟩
  have hbounds := hbounds _ (convertPeriod_converted unit (config.defaultLimit unit) _ _)
  rw [hlimit, hnumber]
  refine ⟨?_, fun hall => hbounds.2 fun q hq => ?_⟩
  · intro q hq
    have hallows := hbounds.1 q hq
    rwa [show 2 * merging.tolerance = 0 from mul_zero 2] at hallows
  · exact limits_of_not_hasLimit (hall q hq)

end Everest.SmartCharging.V16
