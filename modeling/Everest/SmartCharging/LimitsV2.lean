import Everest.SmartCharging.CompositeSchedule
import Everest.SmartCharging.MergedLimits

namespace Everest.SmartCharging.V2
open EnhancedChargingSchedulePeriod

open Timeline PeriodLimit IntermediatePeriod CompositeScheduleConfig PeriodEntry

def IntermediatePeriod.limits (period : IntermediatePeriod) : Limits :=
  ⟨period.currentLimit.limit, period.powerLimit.limit, period.numberPhases⟩

structure PeriodLimit.Others (value : ℚ) (limit : PeriodLimit) : Prop where
  l2 : limit.limitL2 = value
  l3 : limit.limitL3 = value

/-- L2 and L3 have the given values in the limits, discharge limits and setpoints. -/
structure IntermediatePeriod.Others (limit discharge setpoint : ℚ) (period : IntermediatePeriod) :
    Prop where
  currentLimit : period.currentLimit.Others limit
  powerLimit : period.powerLimit.Others limit
  currentDischargeLimit : period.currentDischargeLimit.Others discharge
  powerDischargeLimit : period.powerDischargeLimit.Others discharge
  currentSetpoint : period.currentSetpoint.Others setpoint
  powerSetpoint : period.powerSetpoint.Others setpoint

structure IntermediatePeriod.Fine (period : IntermediatePeriod) : Prop where
  sound : period.limits.Sound
  others : period.Others noLimitSpecified noDischargeLimitSpecified noSetpointSpecified

lemma isEqual_iff {a b : ℚ} : isEqual a b = true ↔ |a - b| < epsilon := by
  simp [isEqual]

lemma epsilon_lt_one : epsilon < 1 := by decide +kernel

lemma isEqual_noLimit {x : ℚ} (h : IsLimit x) :
    isEqual x noLimitSpecified = decide (x = noLimitSpecified) := by
  rw [Bool.eq_iff_iff, isEqual_iff, decide_eq_true_eq]
  constructor
  · intro hclose
    rw [abs_sub_comm] at hclose
    exact IsLimit.unspecified_of_close (.inl rfl) h epsilon_lt_one hclose.le rfl
  · rintro rfl
    simp [epsilon]

variable {period : IntermediatePeriod} {periods : List IntermediatePeriod} {a b cap : PeriodLimit}
    {configuration : Configuration ChargingProfilePurpose}
    {isOffline simulateTransactionActive : Bool}

lemma isSpecified_of_limit (h : period.limits.Sound) (hspec : period.isSpecified = false) :
    period.limits.current = noLimitSpecified ∧ period.limits.power = noLimitSpecified := by
  simp only [isSpecified, Bool.or_eq_false_iff, Bool.not_eq_false',
    same, Bool.and_eq_true] at hspec
  have hcurrent := isEqual_noLimit h.current
  have hpower := isEqual_noLimit h.power
  obtain ⟨⟨⟨⟨⟨⟨hc, hp⟩, -⟩, -⟩, -⟩, -⟩, -⟩ := hspec
  exact ⟨of_decide_eq_true (hcurrent.symm.trans hc.1.1),
    of_decide_eq_true (hpower.symm.trans hp.1.1)⟩

variable (ocppVersion : OcppProtocolVersion) (s : ℤ)

lemma isSpecified_default : (defaultIntermediatePeriod s).isSpecified = false := by
  simp [isSpecified, defaultIntermediatePeriod, same_self,
    effectiveMode]

lemma fine_default : (defaultIntermediatePeriod s).Fine :=
  ⟨Limits.sound_unspecified, ⟨⟨rfl, rfl⟩, ⟨rfl, rfl⟩, ⟨rfl, rfl⟩, ⟨rfl, rfl⟩, ⟨rfl, rfl⟩,
    ⟨rfl, rfl⟩⟩⟩

lemma fine_preferFirst (h : ∀ p ∈ periods, p.Fine) : (preferFirst periods).Fine := by
  unfold preferFirst
  split
  · rename_i it hit
    have hfine := h it (List.mem_of_find?_eq_some hit)
    exact ⟨hfine.sound, hfine.others.1, hfine.others.2, hfine.others.3, hfine.others.4,
      hfine.others.5, hfine.others.6⟩
  · exact fine_default 0

lemma limits_preferFirst {p q : IntermediatePeriod} (hq : q.Fine) :
    (if p.isSpecified then p else q).limits.Close 0 (preferFirst [p, q]).limits := by
  unfold preferFirst
  rw [List.find?_cons]
  cases hp : p.isSpecified with
  | true => exact .of_eq le_rfl rfl rfl
  | false =>
    rw [List.find?_cons]
    cases hspec : q.isSpecified with
    | true => exact .of_eq le_rfl rfl rfl
    | false =>
      obtain ⟨hcurrent, hpower⟩ := isSpecified_of_limit hq.sound hspec
      exact .of_eq le_rfl hcurrent hpower

lemma usesThreePhaseValues_of_fine (h : period.Fine) : usesThreePhaseValues period = false := by
  obtain ⟨⟨h1, h2⟩, ⟨h3, h4⟩, ⟨h5, h6⟩, ⟨h7, h8⟩, ⟨h9, h10⟩, ⟨h11, h12⟩⟩ := h.others
  simp [usesThreePhaseValues, isEqual_self, *]

lemma prepared_of_fine (h : ∀ p ∈ periods, p.Fine) (numberPhases : Option ℤ)
    (ocppVersion : OcppProtocolVersion) :
    periods.map (prepared numberPhases ocppVersion
      (threePhasesUsed ocppVersion periods)) = periods := by
  have hunused : threePhasesUsed ocppVersion periods = false := by
    simp only [threePhasesUsed, List.any_eq_false, Bool.and_eq_true, not_and]
    intro p hp _
    simp [usesThreePhaseValues_of_fine (h p hp)]
  rw [hunused]
  exact List.map_id periods

lemma getMinLimit_none (a b : ℚ) : getMinLimit a b none = lower a b := by
  unfold getMinLimit lower
  by_cases h0 : 0 ≤ b
  · split_ifs with h
    · exact min_eq_right h.2.le
    · exact min_eq_left (not_lt.mp fun hlt => h ⟨h0, hlt⟩)
  · rw [if_neg h0, if_neg fun h => h0 h.1]

lemma getMinLimit_unspecified {a : ℚ} : getMinLimit a noLimitSpecified none = a := by
  have hneg : ¬(0 : ℚ) ≤ noLimitSpecified := by decide +kernel
  simp [getMinLimit, hneg]

lemma others_min (ha : a.Others floatMax) (hb : b.Others noLimitSpecified) :
    (zipWith getMinLimit a b none).Others floatMax := by
  constructor
  · rw [zipWith, hb.l2, ha.l2]
    exact getMinLimit_unspecified
  · rw [zipWith, hb.l3, ha.l3]
    exact getMinLimit_unspecified

lemma others_max (ha : a.Others noDischargeLimitSpecified)
    (hb : b.Others noDischargeLimitSpecified) :
    (zipWith getMaxLimit a b none).Others noDischargeLimitSpecified := by
  have hself : getMaxLimit noDischargeLimitSpecified noDischargeLimitSpecified none =
      noDischargeLimitSpecified := by simp [getMaxLimit]
  constructor
  · rw [zipWith, hb.l2, ha.l2]
    exact hself
  · rw [zipWith, hb.l3, ha.l3]
    exact hself

lemma others_capped {f : ℚ → ℚ → Option ℚ → ℚ} {value capValue : ℚ}
    (hf : f value value (some capValue) = value) (ha : a.Others value) (hb : b.Others value)
    (hcap : cap.Others capValue) : (zipWith f a b (some cap)).Others value := by
  constructor
  · simp only [zipWith, Option.map_some, ha.l2, hb.l2, hcap.l2, hf]
  · simp only [zipWith, Option.map_some, ha.l3, hb.l3, hcap.l3, hf]

lemma others_setpoint {capDischarge : PeriodLimit} (ha : a.Others noSetpointSpecified)
    (hb : b.Others noSetpointSpecified) (hcap : cap.Others floatMax)
    (hdis : capDischarge.Others noDischargeLimitSpecified) :
    (getSetSetpointLimit a b cap capDischarge).Others noSetpointSpecified := by
  unfold getSetSetpointLimit
  dsimp only
  split_ifs
  · exact others_capped (by decide +kernel) ⟨ha.l2, ha.l3⟩ hb hdis
  · exact others_capped (by decide +kernel) ⟨ha.l2, ha.l3⟩ hb hcap
  · exact ha

lemma others_foldl {initial : IntermediatePeriod} (h : ∀ p ∈ periods, p.Fine)
    (hinit : initial.Others floatMax noDischargeLimitSpecified noSetpointSpecified) :
    (periods.foldl lowerPeriod initial).Others floatMax noDischargeLimitSpecified
      noSetpointSpecified := by
  refine List.foldlRecOn periods _ hinit ?_
  intro _ h' p hp
  have hnew := (h p hp).others
  have hcurrent := others_min h'.currentLimit hnew.currentLimit
  have hpower := others_min h'.powerLimit hnew.powerLimit
  have hcurrentDischarge := others_max h'.currentDischargeLimit hnew.currentDischargeLimit
  have hpowerDischarge := others_max h'.powerDischargeLimit hnew.powerDischargeLimit
  exact ⟨hcurrent, hpower, hcurrentDischarge, hpowerDischarge,
    others_setpoint h'.currentSetpoint hnew.currentSetpoint hcurrent hcurrentDischarge,
    others_setpoint h'.powerSetpoint hnew.powerSetpoint hpower hpowerDischarge⟩

lemma others_replaceMax {value : PeriodLimit} {maxValue replacement : ℚ}
    (h : value.Others maxValue) :
    (value.replaceMaxWithNoLimit maxValue replacement).Others replacement := by
  constructor
  · simp [replaceMaxWithNoLimit, h.l2, isEqual_self]
  · simp [replaceMaxWithNoLimit, h.l3, isEqual_self]

lemma others_clearUnlowered
    (h : period.Others floatMax noDischargeLimitSpecified noSetpointSpecified) :
    (clearUnlowered period).Others noLimitSpecified noDischargeLimitSpecified noSetpointSpecified :=
  ⟨others_replaceMax h.1, others_replaceMax h.2, others_replaceMax h.3, others_replaceMax h.4,
    others_replaceMax h.5, others_replaceMax h.6⟩

lemma foldl_lowerPeriod (periods : List IntermediatePeriod) (initial : IntermediatePeriod) :
    (periods.foldl lowerPeriod initial).limits =
      ⟨(periods.map (·.currentLimit.limit)).foldl lower initial.currentLimit.limit,
        (periods.map (·.powerLimit.limit)).foldl lower initial.powerLimit.limit,
        initial.numberPhases⟩ := by
  induction periods generalizing initial with
  | nil => rfl
  | cons first rest ih =>
    rw [List.foldl_cons, ih]
    simp [lowerPeriod, zipWith, getMinLimit_none]

lemma clear_foldl_lower {limits : List ℚ} (h : ∀ x ∈ limits, IsLimit x) :
    (if isEqual (limits.foldl lower floatMax) floatMax then noLimitSpecified
      else limits.foldl lower floatMax) = lowestLimit limits := by
  have hiff : isEqual (limits.foldl lower floatMax) floatMax = true ↔
      limits.foldl lower floatMax = floatMax := by
    rw [isEqual_iff]
    constructor
    · intro hclose
      refine (foldl_lower_range h).resolve_right fun hrange => ?_
      have habs := abs_lt.mp hclose
      have hepsilon := epsilon_lt_one
      linarith [hrange.2, habs.1]
    · intro heq
      simp [heq, epsilon]
  unfold lowestLimit
  simp only [hiff]

lemma limits_lowestLimits (h : ∀ p ∈ periods, p.Fine) :
    (lowestLimits ocppVersion periods).limits = Limits.lowest (periods.map (·.limits)) := by
  have hcurrent : ∀ x ∈ periods.map (·.currentLimit.limit), IsLimit x := by
    simp only [List.mem_map, forall_exists_index, and_imp, forall_apply_eq_imp_iff₂]
    exact fun p hp => (h p hp).sound.current
  have hpower : ∀ x ∈ periods.map (·.powerLimit.limit), IsLimit x := by
    simp only [List.mem_map, forall_exists_index, and_imp, forall_apply_eq_imp_iff₂]
    exact fun p hp => (h p hp).sound.power
  unfold lowestLimits
  dsimp only
  rw [prepared_of_fine h]
  generalize hinit : ({ defaultIntermediatePeriod 0 with
    currentLimit := .all floatMax, powerLimit := .all floatMax
    currentSetpoint := .all floatMax, powerSetpoint := .all floatMax
    numberPhases := (periods.map (·.numberPhases)).foldl lowerPhases none } :
      IntermediatePeriod) = initial
  have hfold := foldl_lowerPeriod periods initial
  generalize periods.foldl lowerPeriod initial = folded at hfold ⊢
  simp only [limits, ← hinit, all, Limits.mk.injEq] at hfold
  obtain ⟨hfoldCurrent, hfoldPower, hfoldPhases⟩ := hfold
  simp only [limits, clearUnlowered, replaceMaxWithNoLimit,
    hfoldCurrent, hfoldPower, hfoldPhases, clear_foldl_lower hcurrent, clear_foldl_lower hpower,
    Limits.lowest, List.map_map]
  rfl

lemma fine_lowestLimits (h : ∀ p ∈ periods, p.Fine) :
    (lowestLimits ocppVersion periods).Fine := by
  constructor
  · rw [limits_lowestLimits ocppVersion h]
    refine Limits.sound_lowest ?_
    simpa using fun p hp => (h p hp).sound
  · unfold lowestLimits
    dsimp only
    rw [prepared_of_fine h]
    exact others_clearUnlowered (others_foldl h
      ⟨⟨rfl, rfl⟩, ⟨rfl, rfl⟩, ⟨rfl, rfl⟩, ⟨rfl, rfl⟩, ⟨rfl, rfl⟩, ⟨rfl, rfl⟩⟩)

def merging (ocppVersion : OcppProtocolVersion) : Merging IntermediatePeriod where
  limits := IntermediatePeriod.limits
  Fine := IntermediatePeriod.Fine
  lowest := lowestLimits ocppVersion
  prefer := preferFirst
  specified := IntermediatePeriod.isSpecified
  tolerance := epsilon
  tolerance_nonneg := by decide +kernel
  tolerance_lt := epsilon_lt_one
  sound _ h := h.sound
  fine_default := fine_default
  fine_set _ _ h :=
    ⟨h.sound, h.others.1, h.others.2, h.others.3, h.others.4, h.others.5, h.others.6⟩
  close_of_not_differs p q h := by
    simp only [PeriodOps.differs, IntermediatePeriod.differs, Bool.or_eq_false_iff,
      Bool.not_eq_false', PeriodLimit.same, Bool.and_eq_true, isEqual_iff] at h
    obtain ⟨⟨⟨⟨⟨⟨⟨⟨⟨hcurrent, hpower⟩, -⟩, -⟩, -⟩, -⟩, -⟩, -⟩, -⟩, -⟩ := h
    exact ⟨hcurrent.1.1.le, hpower.1.1.le⟩
  fine_lowest _ h := fine_lowestLimits ocppVersion h
  limits_lowest _ h := limits_lowestLimits ocppVersion h
  fine_prefer _ h := fine_preferFirst h
  close_prefer _ _ _ hq := limits_preferFirst hq

lemma bothUnits_limit {own other : PeriodLimit} {supplyVoltage initial : ℚ} {numberPhases : ℤ}
    {values : PhaseValues} (useDivide : Bool) (hown : IsLimit own.limit)
    (hother : IsLimit other.limit)
    (hothers : other.Others noLimitSpecified) (hvalue : values.value = some initial) :
    let transformValue := supplyVoltage * numberPhases
    ∃ limit,
      (bothUnits own other noLimitSpecified supplyVoltage numberPhases values true
        useDivide).value = some limit ∧
      (own.limit ≠ noLimitSpecified → limit ≤ own.limit) ∧
      (other.limit ≠ noLimitSpecified → limit ≤
        if useDivide then other.limit / transformValue else other.limit * transformValue) ∧
      (own.limit = noLimitSpecified → other.limit = noLimitSpecified → limit = initial) := by
  simp only [bothUnits, convertAndTransformLimitToPeriodSchedule, storeLimitToPhaseLimits,
    convertAndTransformLimitValue, hothers.l2, hothers.l3, isEqual_self, isEqual_noLimit hown,
    isEqual_noLimit hother, hvalue, Bool.and_self, if_true]
  by_cases ho : own.limit = noLimitSpecified <;> by_cases hp : other.limit = noLimitSpecified
  all_goals simp [ho, hp]

lemma initialLimit_value (defaultLimit : ℚ) (period : IntermediatePeriod) :
    ∃ initial, (initialLimit defaultLimit period).value = some initial ∧
      (period.limits.current = noLimitSpecified → period.limits.power = noLimitSpecified →
        initial = defaultLimit) := by
  unfold initialLimit
  split_ifs with hnone
  · exact ⟨_, rfl, fun _ _ => rfl⟩
  · refine ⟨_, rfl, fun hcurrent hpower => absurd ?_ hnone⟩
    simp only [limits] at hcurrent hpower
    rw [hcurrent, hpower, isEqual_self]
    rfl

/-- The fields that decide whether a period is left out. -/
def EnhancedChargingSchedulePeriod.compared (period : EnhancedChargingSchedulePeriod) :
    Option ℚ × Option ℤ × Option ℚ × Option ℚ × Option OperationMode :=
  (period.limit.value, period.numberPhases, period.setpoint.value, period.dischargeLimit.value,
    period.operationMode)

lemma EnhancedChargingSchedulePeriod.differs_eq_false (p q : EnhancedChargingSchedulePeriod) :
    p.differs q = false ↔ p.compared = q.compared := by
  simp [differs, compared, and_assoc]

section

variable (unit : ChargingRateUnit) (defaultLimit : ℚ) (defaultNumberPhases : ℤ) (supplyVoltage : ℚ)
include unit defaultLimit defaultNumberPhases supplyVoltage

lemma convertPeriod_converted (h : period.Fine) :
    ∃ limit,
      (convertPeriod unit defaultLimit defaultNumberPhases supplyVoltage period).limit.value =
        some limit ∧
      period.limits.Converted unit defaultLimit
        (supplyVoltage * (period.numberPhases.getD defaultNumberPhases : ℤ)) limit := by
  obtain ⟨initial, hinit, hdef⟩ := initialLimit_value defaultLimit period
  cases unit with
  | A =>
    obtain ⟨limit, hlimit, hcurrent, hpower, hsame⟩ := bothUnits_limit true
      h.sound.current h.sound.power h.others.powerLimit hinit
    exact ⟨limit, hlimit, hcurrent, hpower, fun hc hp => (hsame hc hp).trans (hdef hc hp)⟩
  | W =>
    obtain ⟨limit, hlimit, hpower, hcurrent, hsame⟩ := bothUnits_limit false
      h.sound.power h.sound.current h.others.currentLimit hinit
    exact ⟨limit, hlimit, hcurrent, hpower, fun hc hp => (hsame hp hc).trans (hdef hc hp)⟩

lemma convertPeriod_startPeriod (period : IntermediatePeriod) :
    let out := convertPeriod unit defaultLimit defaultNumberPhases supplyVoltage period
    out.startPeriod = period.startPeriod ∧ out.numberPhases = period.numberPhases := by
  cases unit <;> exact ⟨rfl, rfl⟩

lemma convertIntermediateIntoSchedule_inForce {profile : List IntermediatePeriod} {k : ℤ}
    (hinc : Increasing (·.startPeriod) profile)
    (h : inForce (·.startPeriod) profile k = some period) :
    ∃ out, inForce (·.startPeriod)
        (convertIntermediateIntoSchedule profile unit defaultLimit defaultNumberPhases
          supplyVoltage) k = some out ∧
      out.limit.value =
        (convertPeriod unit defaultLimit defaultNumberPhases supplyVoltage period).limit.value ∧
      out.numberPhases = period.numberPhases := by
  have hconvert := convertPeriod_startPeriod unit defaultLimit defaultNumberPhases supplyVoltage
  obtain ⟨out, hout, hkey⟩ := inForce_compress_converted
    differs_eq_false (fun p => (hconvert p).1) hinc h
  simp only [compared, Prod.mk.injEq] at hkey
  exact ⟨out, hout, hkey.1, hkey.2.1.trans (hconvert period).2⟩

end

/-- What a period of a valid profile without values for L2 and L3 satisfies. Its limit is not
negative and not the largest number, which stands for no limit. -/
structure ValidPeriod (period : ChargingSchedulePeriod) : Prop where
  limit : ∀ x ∈ period.limit, 0 ≤ x ∧ x ≤ floatMax - 1
  phases : ∀ n ∈ period.numberPhases, 1 ≤ n
  limitOthers : period.limitL2 = none ∧ period.limitL3 = none
  dischargeOthers : period.dischargeLimitL2 = none ∧ period.dischargeLimitL3 = none
  setpointOthers : period.setpointL2 = none ∧ period.setpointL3 = none

def Valid (profile : ChargingProfile) : Prop :=
  ∀ period ∈ profile.chargingSchedule.chargingSchedulePeriod, ValidPeriod period

variable {std : StdSort} {startTime endTime t : ℤ} {sessionStart : Option ℤ}
  {profiles : List ChargingProfile} {purpose : ChargingProfilePurpose}

lemma effectiveLimit_cases {period : ChargingSchedulePeriod} (h : ValidPeriod period)
    (unit : ChargingRateUnit) :
    0 ≤ period.effectiveLimit unit ∧ period.effectiveLimit unit ≤ floatMax - 1 ∨
      period.effectiveLimit unit = noLimitSpecified ∧
        effectiveMode period.operationMode ≠ .chargingOnly := by
  unfold ChargingSchedulePeriod.effectiveLimit
  split_ifs with hdef
  · refine .inl ?_
    cases unit <;> decide +kernel
  · cases hlimit : period.limit with
    | none => exact .inr ⟨rfl, fun hmode => hdef ⟨hlimit, hmode⟩⟩
    | some x => exact .inl (h.limit x hlimit)

lemma isSpecified_of_current
    (h : 0 ≤ period.currentLimit.limit ∨ 0 ≤ period.powerLimit.limit ∨
      effectiveMode period.operationMode ≠ .chargingOnly) (hsound : period.limits.Sound) :
    period.isSpecified = true := by
  by_contra hnot
  have hfalse : period.isSpecified = false := by simpa using hnot
  obtain ⟨hcurrent, hpower⟩ := isSpecified_of_limit hsound hfalse
  rcases h with hc | hp | hmode
  · exact ne_noLimit_of_nonneg hc hcurrent
  · exact ne_noLimit_of_nonneg hp hpower
  · simp [isSpecified, hmode] at hfalse

lemma entry_limits (hvalid : ∀ profile ∈ profiles, Valid profile) {e : PeriodEntry}
    (he : e ∈ calculateAllProfiles std startTime endTime sessionStart profiles purpose) (s : ℤ) :
    (e.intermediate s).Fine ∧ (e.intermediate s).isSpecified = true := by
  obtain ⟨profile, hprof, -, period, hper, slot, -, -, rfl⟩ := mem_calculateAllProfiles he
  have hp := hvalid profile hprof period hper
  have hcases := effectiveLimit_cases hp profile.chargingSchedule.chargingRateUnit
  have hlimit : IsLimit (period.effectiveLimit profile.chargingSchedule.chargingRateUnit) := by
    rcases hcases with hrange | ⟨hnone, -⟩
    · exact .inr hrange
    · exact .inl hnone
  have hlimits : (init slot period profile).limit.Others noLimitSpecified := by
    constructor
    · simp [init, hp.limitOthers.1]
    · simp [init, hp.limitOthers.2]
  have hdis : (init slot period profile).dischargeLimit.Others
      noDischargeLimitSpecified := by
    constructor
    · simp [init, hp.dischargeOthers.1]
    · simp [init, hp.dischargeOthers.2]
  have hset : (init slot period profile).setpoint.Others noSetpointSpecified := by
    constructor
    · simp [init, hp.setpointOthers.1]
    · simp [init, hp.setpointOthers.2]
  unfold intermediate
  split
  · have hsound : Limits.Sound ⟨_, _, _⟩ := ⟨hlimit, .inl rfl, hp.phases⟩
    refine ⟨⟨hsound, hlimits, ⟨rfl, rfl⟩, hdis, ⟨rfl, rfl⟩, hset, ⟨rfl, rfl⟩⟩,
      isSpecified_of_current ?_ hsound⟩
    exact hcases.elim (fun h => .inl h.1) (fun h => .inr (.inr h.2))
  · have hsound : Limits.Sound ⟨_, _, _⟩ := ⟨.inl rfl, hlimit, hp.phases⟩
    refine ⟨⟨hsound, ⟨rfl, rfl⟩, hlimits, ⟨rfl, rfl⟩, hdis, ⟨rfl, rfl⟩, hset⟩,
      isSpecified_of_current ?_ hsound⟩
    exact hcases.elim (fun h => .inr (.inl h.1)) (fun h => .inr (.inr h.2))

lemma supplies (std : StdSort) (startTime endTime : ℤ) (sessionStart : Option ℤ)
    (purpose : ChargingProfilePurpose) (hvalid : ∀ profile ∈ profiles, Valid profile) :
    (merging ocppVersion).Supplies startTime endTime
      (calculateAllProfiles std startTime endTime sessionStart profiles purpose) :=
  ⟨fun _ he => calculateAllProfiles_delivered he, fun _ he s => (entry_limits hvalid he s).1,
    fun _ he s => (entry_limits hvalid he s).2⟩

/-- The periods that constrain an EVSE at `t`: those of the external constraints and of the
station maximum and, while a transaction is active or simulated, the one of a TxProfile that
applies, else the one of the TxDefaultProfile. -/
def Station.Constrains (station : Station) (std : StdSort)
    (purposesToIgnore : List ChargingProfilePurpose) (startTime endTime evseId : ℤ)
    (simulateTransactionActive : Bool) (t : ℤ) (period : IntermediatePeriod) : Prop :=
  let sessionStart := station.sessionStart evseId
  let stationWideProfiles := station.getValidProfilesForEvse 0 purposesToIgnore
  let profiles := station.getValidProfilesForEvse evseId purposesToIgnore ++ stationWideProfiles
  let alone := fun profiles purpose =>
    InForceIn (purposeProfile std startTime endTime sessionStart profiles purpose)
      (elapsedSeconds t (floorSeconds startTime)) period
  let txApplies :=
    Applies (calculateAllProfiles std startTime endTime sessionStart profiles .txProfile) t
  alone profiles .chargingStationExternalConstraints ∨
    alone stationWideProfiles .chargingStationMaxProfile ∨
    (sessionStart.isSome || simulateTransactionActive) ∧
      (txApplies ∧ alone profiles .txProfile ∨ ¬txApplies ∧ alone profiles .txDefaultProfile)

variable {station : Station} {evseId : ℤ}

def Station.mergedProfiles (station : Station) (std : StdSort)
    (config : CompositeScheduleConfig ChargingProfilePurpose) (startTime endTime evseId : ℤ)
    (simulateTransactionActive : Bool) : Option (List (List IntermediatePeriod)) := do
  let combinedProfiles ←
    station.combinedProfiles std config startTime endTime evseId simulateTransactionActive
  let chargePointMax ← purposeProfile std startTime endTime (station.lastSessionStart evseId)
    (station.getValidProfilesForEvse 0 config.purposesToIgnore) .chargingStationMaxProfile
  return combinedProfiles ++ [chargePointMax]

variable {config : CompositeScheduleConfig ChargingProfilePurpose}

lemma calculateCompositeSchedule_eq_map (station : Station) (std : StdSort)
    (configuration : Configuration ChargingProfilePurpose) (startT evseId : ℤ)
    (unit : ChargingRateUnit) (isOffline simulateTransactionActive : Bool)
    (hstart : startTime = if startT > endTime then endTime else startT)
    (hcfg : of configuration isOffline = config) :
    station.calculateCompositeSchedule std configuration startT endTime evseId unit isOffline
        simulateTransactionActive =
      (station.mergedProfiles std config startTime endTime evseId simulateTransactionActive).map
        fun profiles =>
          { evseId
            duration := elapsedSeconds (floorSeconds endTime) (floorSeconds startTime)
            scheduleStart := floorSeconds startTime
            chargingRateUnit := unit
            chargingSchedulePeriod := convertIntermediateIntoSchedule
              (mergeProfilesByLowestLimit profiles station.ocppVersion) unit
              (config.defaultLimit unit) config.defaultNumberPhases config.supplyVoltage } := by
  subst hstart hcfg
  unfold Station.calculateCompositeSchedule Station.mergedProfiles
  dsimp only
  cases station.combinedProfiles std (of configuration isOffline)
    (if startT > endTime then endTime else startT) endTime evseId simulateTransactionActive with
  | none => rfl
  | some =>
    cases purposeProfile std (if startT > endTime then endTime else startT) endTime
      (station.lastSessionStart evseId) (station.getValidProfilesForEvse 0
        (of configuration isOffline).purposesToIgnore)
      .chargingStationMaxProfile <;> rfl

lemma mergedProfiles_represents (hevse : 0 < evseId)
    (hvalid : ∀ evse, ∀ profile ∈ station.validProfiles evse, Valid profile)
    (hin : InWindow startTime endTime t) :
    ∃ profiles,
      station.mergedProfiles std config startTime endTime evseId simulateTransactionActive =
        some profiles ∧ profiles ≠ [] ∧
      (merging station.ocppVersion).Represents profiles
        (elapsedSeconds t (floorSeconds startTime))
        (station.Constrains std config.purposesToIgnore startTime endTime evseId
          simulateTransactionActive t) := by
  have hlast : station.lastSessionStart evseId = station.sessionStart evseId := by
    rw [Station.lastSessionStart, if_neg hevse.ne']
  have hstat : ∀ evse, ∀ profile ∈ station.getValidProfilesForEvse evse config.purposesToIgnore,
      Valid profile := fun evse profile hprof =>
    hvalid evse profile (List.mem_filter.mp hprof).1
  have hprofs : ∀ profile ∈ station.getValidProfilesForEvse evseId config.purposesToIgnore ++
      station.getValidProfilesForEvse 0 config.purposesToIgnore, Valid profile := by
    intro profile hprof
    rcases List.mem_append.mp hprof with hmem | hmem
    · exact hstat evseId profile hmem
    · exact hstat 0 profile hmem
  obtain ⟨chargePointMax, hmax, hmaxRep⟩ := (supplies station.ocppVersion std startTime endTime
    (station.sessionStart evseId) .chargingStationMaxProfile (hstat 0)).represents hin.le
    hin.window std (elapsedSeconds t (floorSeconds startTime))
  have hsup (purpose) := supplies station.ocppVersion std startTime endTime
    (station.sessionStart evseId) purpose hprofs
  obtain ⟨external, hext, hexternalRep⟩ :=
    (hsup .chargingStationExternalConstraints).represents hin.le hin.window std
      (elapsedSeconds t (floorSeconds startTime))
  obtain ⟨tx, txDefault, htx, htxDef, htxRep⟩ := (hsup .txProfile).prefer std
    (hsup .txDefaultProfile) isSpecified_default hin
  unfold Station.mergedProfiles Station.combinedProfiles generateEvseIntermediates
    Station.Constrains purposeProfile generateProfileFromPeriods
  simp only [if_neg hevse.ne', hlast, hmax, hext, htx, htxDef, Option.bind_eq_bind,
    Option.bind_some]
  by_cases hact : (station.sessionStart evseId).isSome || simulateTransactionActive
  · rw [if_pos hact]
    refine ⟨_, rfl, by simp, ((hexternalRep.append htxRep).append hmaxRep).congr fun q => ?_⟩
    simp only [hact, true_and, hmax, hext, htx, htxDef]
    exact or_assoc.trans (or_congr_right or_comm)
  · rw [if_neg hact]
    refine ⟨_, rfl, by simp, (hexternalRep.append hmaxRep).congr fun q => ?_⟩
    simp only [hact, hmax, hext, Bool.false_eq_true, false_and, or_false]

/-- At `t` the schedule has a limit that is no higher than any constraint allows, up to the
tolerance that limits are compared with. It is the default if no constraint specifies a limit. -/
def Station.WithinConstraints (station : Station) (std : StdSort)
    (configuration : Configuration ChargingProfilePurpose) (startTime endTime evseId : ℤ)
    (unit : ChargingRateUnit) (isOffline simulateTransactionActive : Bool) (t : ℤ) : Prop :=
  let config := CompositeScheduleConfig.of configuration isOffline
  let constrains := station.Constrains std config.purposesToIgnore startTime endTime evseId
    simulateTransactionActive t
  ∃ schedule period limit,
    station.calculateCompositeSchedule std configuration startTime endTime evseId unit isOffline
      simulateTransactionActive = some schedule ∧
    inForce (·.startPeriod) schedule.chargingSchedulePeriod
      (elapsedSeconds t (floorSeconds startTime)) = some period ∧
    period.limit.value = some limit ∧
    (∀ q, constrains q → q.limits.Allows unit
      (config.supplyVoltage * (period.numberPhases.getD config.defaultNumberPhases : ℤ))
      (2 * epsilon) limit) ∧
    ((∀ q, constrains q →
      q.limits.current = noLimitSpecified ∧ q.limits.power = noLimitSpecified) →
      limit = config.defaultLimit unit)

lemma calculateCompositeSchedule_bounds (unit : ChargingRateUnit) (hevse : 0 < evseId)
    (hvalid : ∀ evse, ∀ profile ∈ station.validProfiles evse, Valid profile)
    (hvolt : 0 < (of configuration isOffline).supplyVoltage)
    (hph : 1 ≤ (of configuration isOffline).defaultNumberPhases)
    (hin : InWindow startTime endTime t) :
    station.WithinConstraints std configuration startTime endTime evseId unit isOffline
      simulateTransactionActive t := by
  unfold Station.WithinConstraints
  generalize hcfg : of configuration isOffline = config at *
  obtain ⟨profiles, hprofs, hne, hrep⟩ :=
    mergedProfiles_represents hevse hvalid hin
  have hle : startTime ≤ endTime := by
    by_contra hlt
    exact absurd (hin.start.trans_lt hin.stop) (floorSeconds_mono (not_le.mp hlt).le).not_gt
  have hsched := calculateCompositeSchedule_eq_map station std configuration startTime evseId
    unit isOffline simulateTransactionActive (if_neg (not_lt.mpr hle)).symm hcfg
  rw [hprofs] at hsched
  obtain ⟨p, hp, hfine, hbounds⟩ := hrep.bounds hne
    (elapsedSeconds_nonneg hin.start) hvolt hph
  have hretval := Merging.isPointwise (merging station.ocppVersion).lowest hne hrep.good
  obtain ⟨period, hper, hlimit, hnumber⟩ := convertIntermediateIntoSchedule_inForce unit
    (config.defaultLimit unit) config.defaultNumberPhases config.supplyVoltage
    hretval.isProfile.timeline.increasing hp
  obtain ⟨limit, hvalue, hconv⟩ := convertPeriod_converted unit (config.defaultLimit unit)
    config.defaultNumberPhases config.supplyVoltage hfine
  refine ⟨_, period, limit, hsched, hper, hlimit.trans hvalue, ?_⟩
  rw [hnumber]
  exact hbounds limit hconv

end Everest.SmartCharging.V2
