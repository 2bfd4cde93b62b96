import Everest.SmartCharging.UnitValues

namespace Everest.SmartCharging.V2

open Timeline UnitValues Option

/-- A setpoint that the period carries is within the limits that it carries. -/
def EnhancedChargingSchedulePeriod.SetpointWithinLimits
    (period : EnhancedChargingSchedulePeriod) : Prop :=
  ∀ setpoint ∈ period.setpoint.value,
    (∀ limit ∈ period.limit.value, setpoint ≤ limit) ∧
    ∀ dischargeLimit ∈ period.dischargeLimit.value, dischargeLimit ≤ setpoint

section InForce

variable (requested : ChargingRateUnit) (transformValue : ℚ) (periods : List IntermediatePeriod)

/-- The setpoint, or a limit in force in the unit of the setpoint, is no higher than `bound`. -/
def SetpointBelow (unit : ChargingRateUnit) (setpoint bound : ℚ) : Prop :=
  inUnit requested unit transformValue setpoint ≤ bound ∨
    ∃ p ∈ periods, ∃ limit ∈ (p.values unit).limit?,
      inUnit requested unit transformValue limit ≤ bound

/-- The setpoint, or a discharge limit in force in its unit, is no lower than `bound`. -/
def SetpointAbove (unit : ChargingRateUnit) (setpoint bound : ℚ) : Prop :=
  bound ≤ inUnit requested unit transformValue setpoint ∨
    ∃ p ∈ periods, ∃ dischargeLimit ∈ (p.values unit).dischargeLimit?,
      bound ≤ inUnit requested unit transformValue dischargeLimit

/-- What makes the cap by the limits of the own unit enough. -/
structure SetpointFits (defaultLimit : ℚ) (unit : ChargingRateUnit) (setpoint : ℚ) : Prop where
  limits : ∀ p ∈ periods, ∀ limit ∈ (p.values (otherUnit unit)).limit?,
    SetpointBelow requested transformValue periods unit setpoint
      (inUnit requested (otherUnit unit) transformValue limit)
  dischargeLimits : ∀ p ∈ periods,
    ∀ dischargeLimit ∈ (p.values (otherUnit unit)).dischargeLimit?,
      SetpointAbove requested transformValue periods unit setpoint
        (inUnit requested (otherUnit unit) transformValue dischargeLimit)
  /-- Without a limit in force the schedule has the default limit. -/
  default : (∀ p ∈ periods, ∀ u, (p.values u).limit? = none) →
    inUnit requested unit transformValue setpoint ≤ defaultLimit
  /-- The search for the lowest limit starts at the largest number. -/
  representable : (∃ p ∈ periods, ∃ u, (p.values u).limit? ≠ none) →
    SetpointBelow requested transformValue periods unit setpoint floatMax

def SetpointsFit (defaultLimit : ℚ) : Prop :=
  ∀ p ∈ periods, ∀ unit, ∀ setpoint ∈ (p.values unit).setpoint?,
    SetpointFits requested transformValue periods defaultLimit unit setpoint

end InForce

lemma inUnit_zero {requested unit : ChargingRateUnit} {transformValue : ℚ} :
    inUnit requested unit transformValue 0 = 0 := by
  cases requested <;> cases unit <;> simp [inUnit]

lemma inUnit_self (unit : ChargingRateUnit) (transformValue value : ℚ) :
    inUnit unit unit transformValue value = value := by
  cases unit <;> rfl

section Clamp

variable {requested unit : ChargingRateUnit} {transformValue setpoint bound : ℚ}
  {periods : List IntermediatePeriod} {p : IntermediatePeriod}

lemma clampSetpoint_le_iff (htrans : 0 < transformValue) (hset : setpoint ≤ floatMax - 1)
    (hbound : 0 ≤ bound) :
    let merged := folded (periods.map (·.values unit))
    inUnit requested unit transformValue
        (clampSetpoint setpoint merged.limit merged.dischargeLimit) ≤ bound ↔
      SetpointBelow requested transformValue periods unit setpoint bound := by
  intro merged
  have hneg : ∀ x < 0, inUnit requested unit transformValue x ≤ bound := fun x hx =>
    ((inUnit_mono htrans hx.le).trans_eq inUnit_zero).trans hbound
  by_cases hs : setpoint < 0
  · refine iff_of_true (hneg _ ?_) (.inl (hneg _ hs))
    rw [clampSetpoint, if_pos hs]
    exact max_lt hs (inMerge_folded _).dischargeLimit.2
  rw [clampSetpoint, if_neg hs]
  constructor
  · intro h
    rcases le_total setpoint merged.limit with hle | hle
    · rw [min_eq_left hle] at h
      exact .inl h
    · rw [min_eq_right hle] at h
      rcases (foldedLimit_least (periods.map (·.values unit))).2 with hmax | ⟨v, hv, hlimit⟩
      · have : merged.limit = floatMax := hmax
        linarith
      · obtain ⟨p, hp, rfl⟩ := List.mem_map.mp hv
        exact .inr ⟨p, hp, _, hlimit, h⟩
  · rintro (h | ⟨p, hp, limit, hlimit, h⟩)
    · exact (inUnit_mono htrans (min_le_left _ _)).trans h
    · have hle := (foldedLimit_least (periods.map (·.values unit))).1 _ (List.mem_map_of_mem hp)
        limit hlimit
      exact (inUnit_mono htrans ((min_le_right _ _).trans hle)).trans h

lemma le_clampSetpoint_iff (htrans : 0 < transformValue)
    (hset : 1 - floatMax ≤ setpoint) (hbound : bound ≤ 0) :
    let merged := folded (periods.map (·.values unit))
    bound ≤ inUnit requested unit transformValue
        (clampSetpoint setpoint merged.limit merged.dischargeLimit) ↔
      SetpointAbove requested transformValue periods unit setpoint bound := by
  intro merged
  have hnn : ∀ x, 0 ≤ x → bound ≤ inUnit requested unit transformValue x := fun x hx =>
    hbound.trans (inUnit_zero.symm.trans_le (inUnit_mono htrans hx))
  by_cases hs : setpoint < 0
  · rw [clampSetpoint, if_pos hs]
    constructor
    · intro h
      rcases le_total merged.dischargeLimit setpoint with hle | hle
      · rw [max_eq_left hle] at h
        exact .inl h
      · rw [max_eq_right hle] at h
        rcases (foldedDischargeLimit_greatest (periods.map (·.values unit))).2 with
          hnone | ⟨v, hv, hlimit⟩
        · have : merged.dischargeLimit = -floatMax := hnone
          linarith
        · obtain ⟨p, hp, rfl⟩ := List.mem_map.mp hv
          exact .inr ⟨p, hp, _, hlimit, h⟩
    · rintro (h | ⟨p, hp, limit, hlimit, h⟩)
      · exact h.trans (inUnit_mono htrans (le_max_left _ _))
      · have hle := (foldedDischargeLimit_greatest (periods.map (·.values unit))).1 _
          (List.mem_map_of_mem hp) limit hlimit
        exact h.trans (inUnit_mono htrans (hle.trans (le_max_right _ _)))
  · refine iff_of_true (hnn _ ?_) (.inl (hnn _ (not_lt.mp hs)))
    rw [clampSetpoint, if_neg hs]
    exact le_min (not_lt.mp hs) (inMerge_folded _).limit.1

end Clamp

variable {a b : Option ℚ} {x : ℚ}

lemma le_merge_min : (∀ y ∈ merge min a b, x ≤ y) ↔ (∀ y ∈ a, x ≤ y) ∧ ∀ y ∈ b, x ≤ y := by
  cases a <;> cases b <;> simp [merge]

lemma merge_max_le : (∀ y ∈ merge max a b, y ≤ x) ↔ (∀ y ∈ a, y ≤ x) ∧ ∀ y ∈ b, y ≤ x := by
  cases a <;> cases b <;> simp [merge]

lemma forall_unit {P : ChargingRateUnit → Prop} (unit : ChargingRateUnit) :
    (∀ u, P u) ↔ P unit ∧ P (otherUnit unit) := by
  constructor
  · exact fun h => ⟨h unit, h (otherUnit unit)⟩
  · rintro ⟨hunit, hother⟩ u
    cases unit <;> cases u <;> assumption

section Written

variable {requested : ChargingRateUnit} {defaultLimit supplyVoltage : ℚ}
  {defaultNumberPhases : ℤ} {period : IntermediatePeriod}

lemma le_convertPeriod_limit (hfine : period.Fine) (hsound : ∀ unit, (period.values unit).Sound) :
    (∀ limit ∈ (convertPeriod requested defaultLimit defaultNumberPhases supplyVoltage
        period).limit.value, x ≤ limit) ↔
      ((∀ u, (period.values u).limit? = none) → x ≤ defaultLimit) ∧
      ((∃ u, (period.values u).limit? ≠ none) → x ≤ floatMax) ∧
      ∀ u, ∀ limit ∈ (period.values u).limit?, x ≤ inUnit requested u
        (supplyVoltage * (period.numberPhases.getD defaultNumberPhases : ℤ)) limit := by
  have hsome : (∃ u, (period.values u).limit? ≠ none) ↔ ¬∀ u, (period.values u).limit? = none := by
    simp
  have hfallback : fallbackLimit defaultLimit period =
      if (period.values requested).limit? = none ∧
        (period.values (otherUnit requested)).limit? = none then defaultLimit else floatMax := by
    cases requested with
    | A => rfl
    | W => exact if_congr and_comm rfl rfl
  rw [convertPeriod_limit _ _ _ _ hfine hsound, le_merge_min, hfallback, hsome]
  simp only [forall_unit requested, inUnit_self, convertOther, mem_map,
    forall_exists_index, and_imp, forall_apply_eq_imp_iff₂]
  cases hown : (period.values requested).limit? with
  | none =>
    cases hother : (period.values (otherUnit requested)).limit? with
    | none | some => simp
  | some own =>
    have hmax : x ≤ own → x ≤ floatMax := fun hle => by
      linarith [((hsound requested).limit_le hown).2]
    simp only [some_or, reduceCtorEq, false_and, mem_def, some.injEq,
      forall_eq', IsEmpty.forall_iff, not_false_eq_true, forall_const, true_and]
    tauto

lemma convertPeriod_dischargeLimit_le (hfine : period.Fine)
    (hsound : ∀ unit, (period.values unit).Sound)
    (hneg : ∀ unit, (period.values unit).dischargeLimit < 0) :
    (∀ dischargeLimit ∈ (convertPeriod requested defaultLimit defaultNumberPhases supplyVoltage
        period).dischargeLimit.value, dischargeLimit ≤ x) ↔
      ∀ u, ∀ dischargeLimit ∈ (period.values u).dischargeLimit?, inUnit requested u
        (supplyVoltage * (period.numberPhases.getD defaultNumberPhases : ℤ)) dischargeLimit ≤
          x := by
  rw [convertPeriod_dischargeLimit _ _ _ _ hfine hsound hneg, merge_max_le, forall_unit requested]
  simp only [inUnit_self, mem_map, forall_exists_index, and_imp, forall_apply_eq_imp_iff₂,
    convertOther]

end Written

def OneSetpoint (periods : List IntermediatePeriod) : Prop :=
  ∃ unit, ∃ setpoint : Option ℚ,
    (periods.map (·.values unit)).filterMap UnitValues.setpoint? = setpoint.toList ∧
    ∀ p ∈ periods, (p.values (otherUnit unit)).setpoint? = none

def phasesInForce (defaultNumberPhases : ℤ) (periods : List IntermediatePeriod) : ℤ :=
  ((periods.map (·.numberPhases)).foldl lowerPhases none).getD defaultNumberPhases

structure Mergeable (periods : List IntermediatePeriod) : Prop where
  fine : ∀ p ∈ periods, p.Fine
  sound : ∀ p ∈ periods, ∀ unit, (p.values unit).Sound
  one : OneSetpoint periods

/-- The values of `m` are those that the merge leaves of `periods`. -/
structure MergedFrom (periods : List IntermediatePeriod) (m : IntermediatePeriod) : Prop where
  fine : m.Fine
  sound : ∀ unit, (m.values unit).Sound
  values : ∀ unit, m.values unit = merged (periods.map (·.values unit))
  numberPhases : ∀ defaultNumberPhases, m.numberPhases.getD defaultNumberPhases =
    phasesInForce defaultNumberPhases periods

section Merged

variable {requested unit : ChargingRateUnit} {defaultLimit supplyVoltage x : ℚ}
  {defaultNumberPhases : ℤ} {periods : List IntermediatePeriod} {m : IntermediatePeriod}

lemma Mergeable.sound_values (h : Mergeable periods) : ∀ v ∈ periods.map (·.values unit), v.Sound :=
  List.forall_mem_map.mpr fun p hp => h.sound p hp unit

lemma filterMap_setpoint?_of_none (h : ∀ p ∈ periods, (p.values unit).setpoint? = none) :
    (periods.map (·.values unit)).filterMap UnitValues.setpoint? = (none : Option ℚ).toList := by
  change _ = []
  rw [List.filterMap_eq_nil_iff]
  exact List.forall_mem_map.mpr h

lemma Mergeable.merged_sound (h : Mergeable periods) (u : ChargingRateUnit) :
    (merged (periods.map (·.values u))).Sound := by
  obtain ⟨unit, setpoint, hown, hother⟩ := h.one
  have hall : ∀ u, (merged (periods.map (·.values u))).Sound := (forall_unit unit).mpr
    ⟨sound_merged h.sound_values hown,
      sound_merged h.sound_values (filterMap_setpoint?_of_none hother)⟩
  exact hall u

lemma Mergeable.mergedFrom (h : Mergeable periods) (ocppVersion : OcppProtocolVersion)
    (startPeriod : ℤ) :
    MergedFrom periods { lowestLimits ocppVersion periods with startPeriod } := by
  have hfine := fine_lowestLimits ocppVersion h.fine
  have hvals := fun unit => values_lowestLimits ocppVersion unit h.fine
  refine ⟨⟨hfine.sound, hfine.others.1, hfine.others.2, hfine.others.3, hfine.others.4,
    hfine.others.5, hfine.others.6⟩, fun unit => ?_, fun unit => ?_, ?_⟩
  · have hsound := h.merged_sound unit
    rw [← hvals unit] at hsound
    cases unit <;> exact hsound
  · rw [← hvals unit]
    cases unit <;> rfl
  · have hph := congrArg Limits.numberPhases (limits_lowestLimits ocppVersion h.fine)
    simp only [Limits.lowest, List.map_map] at hph
    exact fun n => congrArg (getD · n) hph

lemma Mergeable.merged_limit?_eq_none (h : Mergeable periods) :
    (merged (periods.map (·.values unit))).limit? = none ↔
      ∀ p ∈ periods, (p.values unit).limit? = none := by
  have hfalse : (∀ l ∈ (merged (periods.map (·.values unit))).limit?, False) ↔ _ :=
    forall_merged_limit h.sound_values fun _ _ _ hfalse => hfalse
  simpa [eq_none_iff_forall_not_mem] using hfalse

section

variable (hm : MergedFrom periods m) (h : Mergeable periods)
include hm h

/-- The limit that is written out bounds `x` just if the limits in force do. -/
theorem MergedFrom.le_limit_iff
    (hpos : 0 < supplyVoltage * (phasesInForce defaultNumberPhases periods : ℤ)) :
    (∀ limit ∈ (convertPeriod requested defaultLimit defaultNumberPhases supplyVoltage
        m).limit.value, x ≤ limit) ↔
      ((∀ p ∈ periods, ∀ u, (p.values u).limit? = none) → x ≤ defaultLimit) ∧
      ((∃ p ∈ periods, ∃ u, (p.values u).limit? ≠ none) → x ≤ floatMax) ∧
      ∀ u, ∀ p ∈ periods, ∀ limit ∈ (p.values u).limit?, x ≤ inUnit requested u
        (supplyVoltage * (phasesInForce defaultNumberPhases periods : ℤ)) limit := by
  have hnone : (∀ u, (m.values u).limit? = none) ↔
      ∀ p ∈ periods, ∀ u, (p.values u).limit? = none := by
    simp only [hm.values, h.merged_limit?_eq_none]
    exact ⟨fun hall p hp u => hall u p hp, fun hall u p hp => hall p hp u⟩
  have hsome : (∃ u, (m.values u).limit? ≠ none) ↔
      ∃ p ∈ periods, ∃ u, (p.values u).limit? ≠ none := by
    simpa using not_congr hnone
  rw [le_convertPeriod_limit hm.fine hm.sound, hnone, hsome, hm.numberPhases]
  refine and_congr_right fun _ => and_congr_right fun _ => forall_congr' fun u => ?_
  rw [hm.values, forall_merged_limit h.sound_values
    fun _ _ hle hx => hx.trans (inUnit_mono hpos hle)]
  exact List.forall_mem_map

/-- The only setpoint is written out, within the limits of its unit. -/
theorem MergedFrom.setpoint_eq {setpoint : Option ℚ}
    (hown : (periods.map (·.values unit)).filterMap UnitValues.setpoint? = setpoint.toList)
    (hother : ∀ p ∈ periods, (p.values (otherUnit unit)).setpoint? = none) :
    (convertPeriod requested defaultLimit defaultNumberPhases supplyVoltage m).setpoint.value =
      setpoint.map fun s => inUnit requested unit
        (supplyVoltage * (phasesInForce defaultNumberPhases periods : ℤ))
        (clampSetpoint s (folded (periods.map (·.values unit))).limit
          (folded (periods.map (·.values unit))).dischargeLimit) := by
  have hset := merged_setpoint? h.sound_values hown
  have hnone : (merged (periods.map (·.values (otherUnit unit)))).setpoint? = none :=
    merged_setpoint? h.sound_values (filterMap_setpoint?_of_none hother)
  rw [convertPeriod_setpoint _ _ _ _ hm.fine hm.sound, hm.values, hm.values]
  by_cases hrequested : requested = unit
  · subst hrequested
    rw [hset, hnone]
    simp only [inUnit_self]
    cases setpoint <;> rfl
  · obtain rfl : requested = otherUnit unit := by
      cases requested <;> cases unit <;> first | rfl | exact absurd rfl hrequested
    have hback : otherUnit (otherUnit unit) = unit := by cases unit <;> rfl
    rw [hnone, hback, hset, convertOther, hm.numberPhases, hback]
    cases setpoint <;> rfl

end

variable {transformValue : ℚ}

lemma setpointsFit_iff {s : ℚ}
    (hown : (periods.map (·.values unit)).filterMap UnitValues.setpoint? = (some s).toList)
    (hother : ∀ p ∈ periods, (p.values (otherUnit unit)).setpoint? = none) :
    SetpointsFit requested transformValue periods defaultLimit ↔
      SetpointFits requested transformValue periods defaultLimit unit s := by
  constructor
  · intro h
    obtain ⟨v, hv, hs⟩ := exists_of_one hown
    obtain ⟨p, hp, rfl⟩ := List.mem_map.mp hv
    exact h p hp unit s hs
  · intro h p hp
    refine (forall_unit unit).mpr ⟨fun y hy => ?_, fun y hy => ?_⟩
    · have hmem : y ∈ (periods.map (·.values unit)).filterMap UnitValues.setpoint? :=
        List.mem_filterMap.mpr ⟨_, List.mem_map_of_mem hp, hy⟩
      rw [hown] at hmem
      rwa [List.mem_singleton.mp hmem]
    · rw [hother p hp] at hy
      cases hy

lemma Mergeable.clampSetpoint_within_iff {s : ℚ} (h : Mergeable periods)
    (hpos : 0 < transformValue) (hrange : 1 - floatMax ≤ s ∧ s ≤ floatMax - 1)
    (hdef : 0 ≤ defaultLimit)
    (hx : x = inUnit requested unit transformValue
      (clampSetpoint s (folded (periods.map (·.values unit))).limit
        (folded (periods.map (·.values unit))).dischargeLimit)) :
    (((∀ p ∈ periods, ∀ u, (p.values u).limit? = none) → x ≤ defaultLimit) ∧
      ((∃ p ∈ periods, ∃ u, (p.values u).limit? ≠ none) → x ≤ floatMax) ∧
      ∀ u, ∀ p ∈ periods, ∀ limit ∈ (p.values u).limit?,
        x ≤ inUnit requested u transformValue limit) ∧
    (∀ u, ∀ p ∈ periods, ∀ dischargeLimit ∈ (p.values u).dischargeLimit?,
      inUnit requested u transformValue dischargeLimit ≤ x) ↔
      SetpointFits requested transformValue periods defaultLimit unit s := by
  have hbelow : ∀ {bound}, 0 ≤ bound →
      (x ≤ bound ↔ SetpointBelow requested transformValue periods unit s bound) := fun hbound =>
    hx ▸ clampSetpoint_le_iff hpos hrange.2 hbound
  have habove : ∀ {bound}, bound ≤ 0 →
      (bound ≤ x ↔ SetpointAbove requested transformValue periods unit s bound) := fun hbound =>
    hx ▸ le_clampSetpoint_iff hpos hrange.1 hbound
  have hlimit : ∀ u, ∀ p ∈ periods, ∀ limit ∈ (p.values u).limit?,
      0 ≤ inUnit requested u transformValue limit := fun u p hp limit hlimit =>
    inUnit_zero.symm.trans_le (inUnit_mono hpos ((h.sound p hp u).limit_le hlimit).1)
  have hdis : ∀ u, ∀ p ∈ periods, ∀ limit ∈ (p.values u).dischargeLimit?,
      inUnit requested u transformValue limit ≤ 0 := fun u p hp limit hlimit =>
    (inUnit_mono hpos ((h.sound p hp u).dischargeLimit_ge hlimit).2.le).trans_eq inUnit_zero
  have hmax : (0 : ℚ) ≤ floatMax := by decide +kernel
  constructor
  · rintro ⟨⟨hnoLimit, hsomeLimit, hlimits⟩, hdischargeLimits⟩
    constructor
    · exact fun p hp l hl => (hbelow (hlimit _ p hp l hl)).mp (hlimits _ p hp l hl)
    · exact fun p hp d hd => (habove (hdis _ p hp d hd)).mp (hdischargeLimits _ p hp d hd)
    · intro hnone
      rcases (hbelow hdef).mp (hnoLimit hnone) with hle | ⟨p, hp, l, hl, -⟩
      · exact hle
      · rw [hnone p hp unit] at hl
        cases hl
    · exact fun hsome => (hbelow hmax).mp (hsomeLimit hsome)
  · intro hfits
    refine ⟨⟨?_, ?_, ?_⟩, ?_⟩
    · exact fun hnone => (hbelow hdef).mpr (.inl (hfits.default hnone))
    · exact fun hsome => (hbelow hmax).mpr (hfits.representable hsome)
    · refine (forall_unit unit).mpr ⟨fun p hp l hl => ?_, fun p hp l hl => ?_⟩
      · exact (hbelow (hlimit _ p hp l hl)).mpr (.inr ⟨p, hp, l, hl, le_rfl⟩)
      · exact (hbelow (hlimit _ p hp l hl)).mpr (hfits.limits p hp l hl)
    · refine (forall_unit unit).mpr ⟨fun p hp d hd => ?_, fun p hp d hd => ?_⟩
      · exact (habove (hdis _ p hp d hd)).mpr (.inr ⟨p, hp, d, hd, le_rfl⟩)
      · exact (habove (hdis _ p hp d hd)).mpr (hfits.dischargeLimits p hp d hd)

/-- The merged period has its setpoint within its limits just if the setpoint in force fits. -/
theorem MergedFrom.setpointWithinLimits_iff (hm : MergedFrom periods m) (h : Mergeable periods)
    (hdef : 0 ≤ defaultLimit)
    (hpos : 0 < supplyVoltage * (phasesInForce defaultNumberPhases periods : ℤ)) :
    (convertPeriod requested defaultLimit defaultNumberPhases supplyVoltage
        m).SetpointWithinLimits ↔
      SetpointsFit requested (supplyVoltage * (phasesInForce defaultNumberPhases periods : ℤ))
        periods defaultLimit := by
  obtain ⟨unit, setpoint, hown, hother⟩ := h.one
  unfold EnhancedChargingSchedulePeriod.SetpointWithinLimits
  rw [hm.setpoint_eq h hown hother]
  cases setpoint with
  | none =>
    refine iff_of_true (by simp) fun p hp => ?_
    refine (forall_unit unit).mpr ⟨fun y hy => ?_, fun y hy => ?_⟩
    · have hnil := List.filterMap_eq_nil_iff.mp hown _ (List.mem_map_of_mem hp)
      rw [hnil] at hy
      cases hy
    · rw [hother p hp] at hy
      cases hy
  | some =>
    rw [setpointsFit_iff hown hother, map_some]
    simp only [mem_def, some.injEq, forall_eq']
    obtain ⟨v, hv, hs⟩ := exists_of_one hown
    have hrange := ((h.sound_values v hv).setpoint_range hs).2
    refine (and_congr (hm.le_limit_iff h hpos) ?_).trans
      (h.clampSetpoint_within_iff hpos hrange hdef rfl)
    have hneg : ∀ unit, (m.values unit).dischargeLimit < 0 := by
      intro unit
      rw [hm.values]
      exact merged_dischargeLimit_neg
    refine (convertPeriod_dischargeLimit_le hm.fine hm.sound hneg).trans
      (forall_congr' fun u => ?_)
    rw [hm.numberPhases, hm.values, forall_merged_dischargeLimit h.sound_values
      fun _ _ hle hx => (inUnit_mono hpos hle).trans hx]
    exact List.forall_mem_map

end Merged

end Everest.SmartCharging.V2
