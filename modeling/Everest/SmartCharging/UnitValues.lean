import Everest.SmartCharging.LimitsV2

namespace Everest.SmartCharging.V2
open PeriodLimit

structure UnitValues where
  limit : ℚ
  dischargeLimit : ℚ
  setpoint : ℚ

def IntermediatePeriod.values (period : IntermediatePeriod) : ChargingRateUnit → UnitValues
  | .A => ⟨period.currentLimit.limit, period.currentDischargeLimit.limit,
      period.currentSetpoint.limit⟩
  | .W => ⟨period.powerLimit.limit, period.powerDischargeLimit.limit, period.powerSetpoint.limit⟩

namespace UnitValues

def limit? (values : UnitValues) : Option ℚ :=
  if 0 ≤ values.limit then some values.limit else none

def dischargeLimit? (values : UnitValues) : Option ℚ :=
  if values.dischargeLimit < 0 ∧ values.dischargeLimit ≠ noDischargeLimitSpecified then
    some values.dischargeLimit
  else none

def setpoint? (values : UnitValues) : Option ℚ :=
  if values.setpoint = noSetpointSpecified then none else some values.setpoint

/-- Values that the code does not mistake for one of its markers. -/
structure Sound (values : UnitValues) : Prop where
  limit : IsLimit values.limit
  dischargeLimit : values.dischargeLimit = noDischargeLimitSpecified ∨
    1 - floatMax ≤ values.dischargeLimit
  setpoint : values.setpoint = noSetpointSpecified ∨
    1 - floatMax ≤ values.setpoint ∧ values.setpoint ≤ floatMax - 1

def unspecified : UnitValues := ⟨noLimitSpecified, noDischargeLimitSpecified, noSetpointSpecified⟩

lemma sound_unspecified : unspecified.Sound := ⟨.inl rfl, .inl rfl, .inl rfl⟩

def cappedSetpoint (setpoint1 setpoint2 capLimit capDischargeLimit : ℚ) : ℚ :=
  (getSetSetpointLimit (.all setpoint1) (.all setpoint2) (.all capLimit)
    (.all capDischargeLimit)).limit

def lower (values new : UnitValues) : UnitValues :=
  let limit := getMinLimit values.limit new.limit none
  let dischargeLimit := getMaxLimit values.dischargeLimit new.dischargeLimit none
  { limit, dischargeLimit
    setpoint := cappedSetpoint values.setpoint new.setpoint limit dischargeLimit }

def clampSetpoint (setpoint limit dischargeLimit : ℚ) : ℚ :=
  if setpoint < 0 then max setpoint dischargeLimit else min setpoint limit

/-- The values in the course of the merge: there is a limit, which need not come from a period. -/
structure InMerge (values : UnitValues) : Prop where
  limit : 0 ≤ values.limit ∧ values.limit ≤ floatMax
  dischargeLimit : noDischargeLimitSpecified ≤ values.dischargeLimit ∧ values.dischargeLimit < 0

/-- The setpoint of the merge so far is the given one, within the limits so far. -/
def Follows (values : UnitValues) (setpoint : Option ℚ) : Prop :=
  values.setpoint = setpoint.elim noSetpointSpecified
    (clampSetpoint · values.limit values.dischargeLimit)

lemma getSetSetpointLimit_limit (setpoint1 setpoint2 capLimit capDischargeLimit : PeriodLimit) :
    (getSetSetpointLimit setpoint1 setpoint2 capLimit capDischargeLimit).limit =
      cappedSetpoint setpoint1.limit setpoint2.limit capLimit.limit capDischargeLimit.limit := by
  have hset : ((all setpoint1.limit).isSetpoint ||
      (all setpoint2.limit).isSetpoint) =
        (setpoint1.isSetpoint || setpoint2.isSetpoint) := rfl
  have hmerged : mergedSetpoint (.all setpoint1.limit) (.all setpoint2.limit) =
      mergedSetpoint setpoint1 setpoint2 := rfl
  unfold cappedSetpoint getSetSetpointLimit
  rw [hset, hmerged]
  cases setpoint1.isSetpoint || setpoint2.isSetpoint
  · rfl
  · by_cases hneg : mergedSetpoint setpoint1 setpoint2 < 0
    · simp only [if_true, if_pos hneg]
      rfl
    · simp only [if_true, if_neg hneg]
      rfl

variable (unit : ChargingRateUnit)

lemma values_lowerPeriod (period new : IntermediatePeriod) :
    (lowerPeriod period new).values unit = (period.values unit).lower (new.values unit) := by
  cases unit
  all_goals
    simp only [IntermediatePeriod.values, lowerPeriod, lower, getSetSetpointLimit_limit,
      zipWith, Option.map_none]

lemma values_foldl (periods : List IntermediatePeriod) (initial : IntermediatePeriod) :
    (periods.foldl lowerPeriod initial).values unit =
      (periods.map (·.values unit)).foldl lower (initial.values unit) := by
  induction periods generalizing initial with
  | nil => rfl
  | cons first rest ih =>
    rw [List.foldl_cons, ih, values_lowerPeriod, List.map_cons, List.foldl_cons]

variable {values new : UnitValues} {x setpoint limit dischargeLimit y : ℚ}

lemma le_lower_limit :
    x ≤ (values.lower new).limit ↔ x ≤ values.limit ∧ ∀ y ∈ new.limit?, x ≤ y := by
  simp only [lower, getMinLimit, limit?]
  split_ifs
  · simp
  · simp

lemma lower_dischargeLimit_le (h : values.InMerge) :
    (values.lower new).dischargeLimit ≤ x ↔
      values.dischargeLimit ≤ x ∧ ∀ y ∈ new.dischargeLimit?, y ≤ x := by
  simp only [lower, getMaxLimit, dischargeLimit?]
  by_cases hneg : new.dischargeLimit < 0
  · by_cases hnone : new.dischargeLimit = noDischargeLimitSpecified
    · -- the marker is below every discharge limit of the merge
      rw [if_pos hneg, max_eq_left (hnone ▸ h.dischargeLimit.1)]
      simp [hnone]
    · simp [hneg, hnone]
  · simp [hneg]

lemma InMerge.lower (h : values.InMerge) : (values.lower new).InMerge := by
  constructor
  · constructor
    · rw [le_lower_limit]
      refine ⟨h.limit.1, fun y hy => ?_⟩
      simp only [limit?, Option.mem_def] at hy
      split_ifs at hy with hnn
      obtain rfl := Option.some.inj hy
      exact hnn
    · exact (le_lower_limit.mp le_rfl).1.trans h.limit.2
  · constructor
    · exact h.dischargeLimit.1.trans ((lower_dischargeLimit_le h).mp le_rfl).1
    · simp only [UnitValues.lower, getMaxLimit]
      split_ifs with hneg
      · exact max_lt h.dischargeLimit.2 hneg
      · exact h.dischargeLimit.2

lemma isEqual_marker {marker : ℚ} (h : x = marker ∨ 1 ≤ |x - marker|) :
    isEqual x marker = decide (x = marker) := by
  rw [Bool.eq_iff_iff, isEqual_iff, decide_eq_true_eq]
  refine ⟨fun hclose => h.resolve_right fun hfar => ?_, fun heq => by simp [heq, epsilon]⟩
  exact absurd hclose (not_lt.mpr (epsilon_lt_one.le.trans hfar))

lemma isEqual_floatMax (h : x = floatMax ∨ x ≤ floatMax - 1) :
    isEqual x floatMax = decide (x = floatMax) := by
  refine isEqual_marker (h.imp_right fun hle => ?_)
  rw [abs_sub_comm]
  exact (le_sub_comm.mp hle).trans (le_abs_self _)

lemma isEqual_dischargeLimit (h : x = noDischargeLimitSpecified ∨ 1 - floatMax ≤ x) :
    isEqual x noDischargeLimitSpecified = decide (x = noDischargeLimitSpecified) := by
  refine isEqual_marker (h.imp_right fun hle => le_trans ?_ (le_abs_self _))
  unfold noDischargeLimitSpecified
  linarith

lemma clampSetpoint_le (h : setpoint ≤ floatMax - 1) (hdis : dischargeLimit < 0) :
    clampSetpoint setpoint limit dischargeLimit ≤ floatMax - 1 := by
  have hmax : (0 : ℚ) ≤ floatMax - 1 := by decide +kernel
  unfold clampSetpoint
  split_ifs
  · exact max_le h (hdis.le.trans hmax)
  · exact (min_le_left _ _).trans h

lemma le_clampSetpoint (h : 1 - floatMax ≤ setpoint) (hlimit : 0 ≤ limit) :
    1 - floatMax ≤ clampSetpoint setpoint limit dischargeLimit := by
  have hmax : 1 - floatMax ≤ (0 : ℚ) := by decide +kernel
  unfold clampSetpoint
  split_ifs with hneg
  · exact h.trans (le_max_left _ _)
  · exact hmax.trans (le_min (not_lt.mp hneg) hlimit)

lemma ne_marker (h : x ≤ floatMax - 1) : x ≠ noSetpointSpecified := by
  rintro rfl
  unfold noSetpointSpecified at h
  linarith

section Capped

variable {setpoint limit dischargeLimit : ℚ}

lemma cappedSetpoint_none :
    cappedSetpoint noSetpointSpecified noSetpointSpecified limit dischargeLimit =
      noSetpointSpecified := by
  simp [cappedSetpoint, getSetSetpointLimit, isSetpoint, all, isEqual_self]

lemma isSetpoint_all (h : setpoint ≤ floatMax - 1) :
    (all setpoint).isSetpoint = true := by
  have hnot : isEqual setpoint noSetpointSpecified = false :=
    (isEqual_floatMax (.inr h)).trans (decide_eq_false (ne_marker h))
  simp [isSetpoint, all, hnot]

lemma isSetpoint_marker : (all noSetpointSpecified).isSetpoint = false := by
  simp [isSetpoint, all, isEqual_self]

lemma cappedSetpoint_first (h : setpoint ≤ floatMax - 1) :
    cappedSetpoint noSetpointSpecified setpoint limit dischargeLimit =
      clampSetpoint setpoint limit dischargeLimit := by
  simp only [cappedSetpoint, getSetSetpointLimit, mergedSetpoint, isSetpoint_all h,
    isSetpoint_marker, Bool.or_true, Bool.false_and, if_true, clampSetpoint]
  simp only [all, zipWith, getMaxLimit, getMinLimit, Option.map_some]
  by_cases hneg : setpoint < 0
  · simp [hneg]
  · simp [hneg, not_lt.mp hneg]

lemma cappedSetpoint_next (h : setpoint ≤ floatMax - 1) :
    cappedSetpoint setpoint noSetpointSpecified limit dischargeLimit =
      clampSetpoint setpoint limit dischargeLimit := by
  have hmark : (0 : ℚ) ≤ noSetpointSpecified := by decide +kernel
  have hle : setpoint ≤ noSetpointSpecified := by
    unfold noSetpointSpecified
    linarith
  simp only [cappedSetpoint, getSetSetpointLimit, mergedSetpoint, isSetpoint_all h,
    isSetpoint_marker, Bool.true_or, Bool.and_false, if_true, clampSetpoint]
  simp only [all, zipWith, getMaxLimit, getMinLimit, Option.map_some]
  by_cases hneg : setpoint < 0
  · simp [hneg, not_lt.mpr hmark]
  · simp [hneg, hmark, min_eq_left hle]

/-- Limits that became tighter leave the same as if they had been so from the start. -/
theorem clampSetpoint_clampSetpoint {limit' dischargeLimit' : ℚ} (hlimit : 0 ≤ limit)
    (hdis : dischargeLimit < 0) (hle : limit' ≤ limit)
    (hge : dischargeLimit ≤ dischargeLimit') :
    clampSetpoint (clampSetpoint setpoint limit dischargeLimit) limit' dischargeLimit' =
      clampSetpoint setpoint limit' dischargeLimit' := by
  unfold clampSetpoint
  by_cases hneg : setpoint < 0
  · rw [if_pos hneg, if_pos (max_lt hneg hdis), if_pos hneg, max_assoc, max_eq_right hge]
  · have hnn : ¬min setpoint limit < 0 := not_lt.mpr (le_min (not_lt.mp hneg) hlimit)
    rw [if_neg hneg, if_neg hnn, if_neg hneg, min_assoc, min_eq_right hle]

end Capped

lemma setpoint?_eq_none : values.setpoint? = none ↔ values.setpoint = noSetpointSpecified := by
  simp [setpoint?]

lemma eq_of_setpoint? (hy : values.setpoint? = some y) : values.setpoint = y := by
  simp only [setpoint?] at hy
  split_ifs at hy
  exact Option.some.inj hy

lemma Sound.setpoint_range (h : new.Sound) (hy : new.setpoint? = some y) :
    new.setpoint = y ∧ 1 - floatMax ≤ y ∧ y ≤ floatMax - 1 := by
  obtain rfl := eq_of_setpoint? hy
  have hnone : new.setpoint ≠ noSetpointSpecified := fun heq => by simp [setpoint?, heq] at hy
  exact ⟨rfl, h.setpoint.resolve_left hnone⟩

lemma Follows.lower_none {setpoint : Option ℚ} (h : values.Follows setpoint)
    (hmerge : values.InMerge) (hsound : ∀ y ∈ setpoint, y ≤ floatMax - 1)
    (hnone : new.setpoint? = none) : (values.lower new).Follows setpoint := by
  have hnew := setpoint?_eq_none.mp hnone
  have hle : (values.lower new).limit ≤ values.limit := (le_lower_limit.mp le_rfl).1
  have hge : values.dischargeLimit ≤ (values.lower new).dischargeLimit :=
    ((lower_dischargeLimit_le hmerge).mp le_rfl).1
  unfold Follows at h ⊢
  cases setpoint with
  | none =>
    rw [UnitValues.lower, h, hnew]
    exact cappedSetpoint_none
  | some s =>
    simp only [Option.elim_some] at h ⊢
    have hs := hsound s rfl
    rw [← clampSetpoint_clampSetpoint hmerge.limit.1 hmerge.dischargeLimit.2 hle hge, ← h]
    have hcur : values.setpoint ≤ floatMax - 1 :=
      h ▸ clampSetpoint_le hs hmerge.dischargeLimit.2
    simp only [UnitValues.lower, hnew]
    exact cappedSetpoint_next hcur

lemma Follows.lower_some (h : values.Follows none) (hsound : new.Sound)
    (hy : new.setpoint? = some y) : (values.lower new).Follows (some y) := by
  obtain ⟨heq, -, hle⟩ := hsound.setpoint_range hy
  have hnone : values.setpoint = noSetpointSpecified := h
  simp only [UnitValues.lower, hnone, heq]
  exact cappedSetpoint_first hle

def initial : UnitValues := ⟨floatMax, noDischargeLimitSpecified, noSetpointSpecified⟩

def clear (values : UnitValues) : UnitValues where
  limit := if isEqual values.limit floatMax then noLimitSpecified else values.limit
  dischargeLimit :=
    if isEqual values.dischargeLimit noDischargeLimitSpecified then noDischargeLimitSpecified
    else values.dischargeLimit
  setpoint :=
    if isEqual values.setpoint floatMax then noSetpointSpecified else values.setpoint

def folded (periods : List UnitValues) : UnitValues := periods.foldl lower initial

def merged (periods : List UnitValues) : UnitValues := (folded periods).clear

lemma values_clearUnlowered (period : IntermediatePeriod) :
    (clearUnlowered period).values unit = (period.values unit).clear := by
  cases unit <;> rfl

lemma values_lowestLimits (ocppVersion : OcppProtocolVersion) (unit : ChargingRateUnit)
    {periods : List IntermediatePeriod} (h : ∀ p ∈ periods, p.Fine) :
    (lowestLimits ocppVersion periods).values unit = merged (periods.map (·.values unit)) := by
  unfold lowestLimits
  dsimp only
  rw [prepared_of_fine h, values_clearUnlowered, values_foldl]
  cases unit <;> rfl

lemma inMerge_initial : initial.InMerge :=
  ⟨⟨by decide +kernel, le_rfl⟩, ⟨le_rfl, by decide +kernel⟩⟩

variable (periods : List UnitValues)

lemma InMerge.foldl (h : values.InMerge) :
    (periods.foldl UnitValues.lower values).InMerge := by
  exact List.foldlRecOn periods _ h fun _ h _ _ => h.lower

lemma inMerge_folded : (folded periods).InMerge :=
  inMerge_initial.foldl periods

section Least

variable {L : Type} [LinearOrder L] {value : UnitValues → L} {value? : UnitValues → Option L}
  (hlower : ∀ {values new : UnitValues} {x : L}, values.InMerge →
    (x ≤ value (values.lower new) ↔ x ≤ value values ∧ ∀ y ∈ value? new, x ≤ y))
include hlower

lemma lower_mem (h : values.InMerge) : value (values.lower new) = value values ∨
    value? new = some (value (values.lower new)) := by
  obtain ⟨hle, hnew⟩ := (hlower h).mp (le_refl (value (values.lower new)))
  cases hvalue : value? new with
  | none => exact .inl (hle.antisymm ((hlower h).mpr ⟨le_rfl, by simp [hvalue]⟩))
  | some y =>
    rcases le_total (value values) y with hy | hy
    · exact .inl (hle.antisymm ((hlower h).mpr ⟨le_rfl, by simpa [hvalue] using hy⟩))
    · exact .inr (congrArg some (((hlower h).mpr ⟨hy, by simp [hvalue]⟩).antisymm (hnew y hvalue)))

lemma foldl_least {periods : List UnitValues} (h : values.InMerge) :
    let least := value (periods.foldl lower values)
    least ≤ value values ∧ (∀ v ∈ periods, ∀ y ∈ value? v, least ≤ y) ∧
      (least = value values ∨ ∃ v ∈ periods, value? v = some least) := by
  induction periods generalizing values with
  | nil => simp
  | cons first rest ih =>
    obtain ⟨hle, hrest, hmem⟩ := ih h.lower
    obtain ⟨hvals, hfirst⟩ := (hlower h).mp hle
    refine ⟨hvals, List.forall_mem_cons.mpr ⟨hfirst, hrest⟩, ?_⟩
    rcases hmem with heq | ⟨v, hv, hvalue⟩
    · rw [List.foldl_cons, heq]
      exact (lower_mem hlower h).imp_right fun hnew => ⟨first, List.mem_cons_self, hnew⟩
    · exact .inr ⟨v, List.mem_cons_of_mem _ hv, hvalue⟩

/-- What holds for the least value and for every higher one holds for all values. -/
theorem forall_least {periods : List UnitValues} {P : L → Prop}
    (hmerged : value? (merged periods) =
      if value (folded periods) = value initial then none else some (value (folded periods)))
    (hlt : ∀ v ∈ periods, ∀ y ∈ value? v, y < value initial)
    (hmono : ∀ a b, a ≤ b → P a → P b) :
    (∀ l ∈ value? (merged periods), P l) ↔ ∀ v ∈ periods, ∀ y ∈ value? v, P y := by
  obtain ⟨-, hle, hmem⟩ := foldl_least hlower inMerge_initial
  rw [hmerged]
  split_ifs with hnone
  · -- a value would be lower than what the merge starts with
    exact iff_of_true (by simp) fun v hv y hy =>
      absurd (hlt v hv y hy) (not_lt.mpr (hnone ▸ hle v hv y hy))
  · obtain ⟨v, hv, hvalue⟩ := hmem.resolve_left hnone
    simp only [Option.mem_def, Option.some.injEq, forall_eq']
    exact ⟨fun h w hw y hy => hmono _ _ (hle w hw y hy) h, fun h => h v hv _ hvalue⟩

end Least

lemma foldedLimit_least :
    (∀ v ∈ periods, ∀ y ∈ v.limit?, (folded periods).limit ≤ y) ∧
      ((folded periods).limit = floatMax ∨ ∃ v ∈ periods, v.limit? = some (folded periods).limit) :=
  (foldl_least (fun _ => le_lower_limit) inMerge_initial).2

lemma foldedDischargeLimit_greatest :
    (∀ v ∈ periods, ∀ y ∈ v.dischargeLimit?, y ≤ (folded periods).dischargeLimit) ∧
      ((folded periods).dischargeLimit = noDischargeLimitSpecified ∨
        ∃ v ∈ periods, v.dischargeLimit? = some (folded periods).dischargeLimit) :=
  (foldl_least (L := ℚᵒᵈ) lower_dischargeLimit_le inMerge_initial).2

/-- The only setpoint of the periods is what is left of setpoints, within the limits of all. The
induction carries the setpoint that was met so far. -/
theorem Follows.foldl {periods : List UnitValues} {met setpoint : Option ℚ}
    (h : values.Follows met) (hmerge : values.InMerge) (hmet : ∀ y ∈ met, y ≤ floatMax - 1)
    (hsound : ∀ v ∈ periods, v.Sound)
    (hone : met.toList ++ periods.filterMap setpoint? = setpoint.toList) :
    (periods.foldl UnitValues.lower values).Follows setpoint := by
  induction periods generalizing values met with
  | nil =>
    obtain rfl : met = setpoint := by cases met <;> cases setpoint <;> simp_all
    exact h
  | cons first rest ih =>
    have hfirst := hsound first List.mem_cons_self
    have hrest := fun v hv => hsound v (List.mem_cons_of_mem first hv)
    cases hset : first.setpoint? with
    | none =>
      rw [List.filterMap_cons_none hset] at hone
      exact ih (h.lower_none hmerge hmet hset) hmerge.lower hmet hrest hone
    | some =>
      rw [List.filterMap_cons_some hset] at hone
      obtain rfl : met = none := by
        cases met with
        | none => rfl
        | some => cases setpoint <;> simp at hone
      refine ih (h.lower_some hfirst hset) hmerge.lower ?_ hrest hone
      intro z hz
      obtain rfl := Option.some.inj hz
      exact (hfirst.setpoint_range hset).2.2

section Merged

variable {periods : List UnitValues} {v : UnitValues} {y : ℚ} {setpoint : Option ℚ} {P : ℚ → Prop}

lemma Sound.limit_le (h : v.Sound) (hy : y ∈ v.limit?) : 0 ≤ y ∧ y ≤ floatMax - 1 := by
  simp only [limit?, Option.mem_def] at hy
  split_ifs at hy with hnn
  obtain rfl := Option.some.inj hy
  exact h.limit.resolve_left (ne_noLimit_of_nonneg hnn)

lemma Sound.dischargeLimit_ge (h : v.Sound) (hy : y ∈ v.dischargeLimit?) :
    1 - floatMax ≤ y ∧ y < 0 := by
  simp only [dischargeLimit?, Option.mem_def] at hy
  split_ifs at hy with hspec
  obtain rfl := Option.some.inj hy
  exact ⟨h.dischargeLimit.resolve_left hspec.2, hspec.1⟩

section

variable (hsound : ∀ v ∈ periods, v.Sound)
include hsound

lemma folded_limit_range :
    (folded periods).limit = floatMax ∨
      0 ≤ (folded periods).limit ∧ (folded periods).limit ≤ floatMax - 1 :=
  (foldedLimit_least periods).2.imp_right fun ⟨v, hv, hlimit⟩ => (hsound v hv).limit_le hlimit

lemma folded_dischargeLimit_range :
    (folded periods).dischargeLimit = noDischargeLimitSpecified ∨
      1 - floatMax ≤ (folded periods).dischargeLimit ∧ (folded periods).dischargeLimit < 0 :=
  (foldedDischargeLimit_greatest periods).2.imp_right fun ⟨v, hv, hlimit⟩ =>
    (hsound v hv).dischargeLimit_ge hlimit

lemma merged_limit? :
    (merged periods).limit? =
      if (folded periods).limit = floatMax then none else some (folded periods).limit := by
  have hrange := folded_limit_range hsound
  have hmark : ¬(0 : ℚ) ≤ noLimitSpecified := by decide +kernel
  simp only [merged, clear, limit?, isEqual_floatMax (hrange.imp_right And.right),
    decide_eq_true_eq]
  by_cases hmax : (folded periods).limit = floatMax
  · simp [hmax, hmark]
  · simp [hmax, (hrange.resolve_left hmax).1]

lemma merged_dischargeLimit? :
    (merged periods).dischargeLimit? =
      if (folded periods).dischargeLimit = noDischargeLimitSpecified then none
      else some (folded periods).dischargeLimit := by
  have hneg := (inMerge_folded periods).dischargeLimit.2
  have hrange := folded_dischargeLimit_range hsound
  simp only [merged, clear, dischargeLimit?, isEqual_dischargeLimit (hrange.imp_right And.left),
    decide_eq_true_eq]
  by_cases hnone : (folded periods).dischargeLimit = noDischargeLimitSpecified
  · simp [hnone]
  · simp [hnone, hneg]

end

lemma merged_dischargeLimit_neg : (merged periods).dischargeLimit < 0 := by
  unfold merged clear
  dsimp only
  split_ifs
  · decide +kernel
  · exact (inMerge_folded periods).dischargeLimit.2

lemma exists_of_one {s : ℚ}
    (hone : periods.filterMap UnitValues.setpoint? = (some s).toList) :
    ∃ v ∈ periods, v.setpoint? = some s := by
  have hmem : s ∈ periods.filterMap UnitValues.setpoint? := by
    rw [hone]
    exact List.mem_singleton_self s
  simpa using hmem

section

variable (hsound : ∀ v ∈ periods, v.Sound)
include hsound

lemma merged_setpoint? (hone : periods.filterMap UnitValues.setpoint? = setpoint.toList) :
    (merged periods).setpoint? = setpoint.map
      (clampSetpoint · (folded periods).limit (folded periods).dischargeLimit) := by
  have hinit : initial.Follows none := rfl
  have hfol : (folded periods).Follows setpoint :=
    hinit.foldl inMerge_initial (by simp) hsound hone
  cases setpoint with
  | none =>
    have hnone : (folded periods).setpoint = noSetpointSpecified := hfol
    simp [merged, clear, UnitValues.setpoint?, hnone]
  | some s =>
    have hsome : (folded periods).setpoint =
        clampSetpoint s (folded periods).limit (folded periods).dischargeLimit := hfol
    obtain ⟨v, hv, hs⟩ := exists_of_one hone
    have hset : (folded periods).setpoint ≤ floatMax - 1 := by
      rw [hsome]
      exact clampSetpoint_le ((hsound v hv).setpoint_range hs).2.2
        (inMerge_folded periods).dischargeLimit.2
    have hne : (folded periods).setpoint ≠ floatMax := ne_marker hset
    rw [Option.map_some, ← hsome]
    simp only [merged, clear, UnitValues.setpoint?, isEqual_floatMax (.inr hset),
      decide_eq_true_eq, if_neg hne]
    exact if_neg hne

lemma sound_merged (hone : periods.filterMap UnitValues.setpoint? = setpoint.toList) :
    (merged periods).Sound := by
  have hmerge := inMerge_folded periods
  refine ⟨?_, ?_, ?_⟩
  · unfold merged clear
    dsimp only
    split_ifs with hmax
    · exact .inl rfl
    · exact .inr ((folded_limit_range hsound).resolve_left fun heq =>
        hmax (by rw [heq, isEqual_self]))
  · unfold merged clear
    dsimp only
    split_ifs with hnone
    · exact .inl rfl
    · exact .inr ((folded_dischargeLimit_range hsound).resolve_left fun heq =>
        hnone (by rw [heq, isEqual_self])).1
  · have hset := merged_setpoint? hsound hone
    cases setpoint with
    | none => exact .inl (setpoint?_eq_none.mp hset)
    | some =>
      obtain ⟨v, hv, hs⟩ := exists_of_one hone
      obtain ⟨-, hge, hle⟩ := (hsound v hv).setpoint_range hs
      rw [eq_of_setpoint? hset]
      exact .inr ⟨le_clampSetpoint hge hmerge.limit.1,
        clampSetpoint_le hle hmerge.dischargeLimit.2⟩

lemma forall_merged_limit (hmono : ∀ a b, a ≤ b → P a → P b) :
    (∀ l ∈ (merged periods).limit?, P l) ↔ ∀ v ∈ periods, ∀ y ∈ v.limit?, P y := by
  refine forall_least (fun _ => le_lower_limit) (merged_limit? hsound) (fun v hv y hy => ?_) hmono
  exact ((hsound v hv).limit_le hy).2.trans_lt (sub_one_lt floatMax)

lemma forall_merged_dischargeLimit (hanti : ∀ a b, a ≤ b → P b → P a) :
    (∀ d ∈ (merged periods).dischargeLimit?, P d) ↔
      ∀ v ∈ periods, ∀ y ∈ v.dischargeLimit?, P y := by
  refine forall_least (L := ℚᵒᵈ) lower_dischargeLimit_le (merged_dischargeLimit? hsound)
    (fun v hv y hy => ?_) fun a b => hanti b a
  have hge := ((hsound v hv).dischargeLimit_ge hy).1
  exact (show -floatMax < 1 - floatMax by linarith).trans_le hge

end

end Merged

def otherUnit : ChargingRateUnit → ChargingRateUnit
  | .A => .W
  | .W => .A

def specified (marker value : ℚ) : Option ℚ := if value = marker then none else some value

lemma bothUnits_value {own other : PeriodLimit} {notSpecified supplyVoltage : ℚ}
    {numberPhases : ℤ} {values : PhaseValues} {useMin useDivide : Bool}
    (hown : isEqual own.limit notSpecified = decide (own.limit = notSpecified))
    (hother : isEqual other.limit notSpecified = decide (other.limit = notSpecified))
    (hothers : other.Others notSpecified) :
    (bothUnits own other notSpecified supplyVoltage numberPhases values useMin useDivide).value =
      Option.merge (bif useMin then min else max)
        ((specified notSpecified own.limit).or values.value)
        ((specified notSpecified other.limit).map fun x =>
          bif useDivide then x / (supplyVoltage * numberPhases)
          else x * (supplyVoltage * numberPhases)) := by
  have hfirst : (specified notSpecified own.limit).or values.value =
      if own.limit = notSpecified then values.value else some own.limit := by
    unfold specified
    split_ifs
    · rfl
    · rfl
  rw [hfirst]
  simp only [bothUnits, convertAndTransformLimitToPeriodSchedule, storeLimitToPhaseLimits,
    convertAndTransformLimitValue, hothers.l2, hothers.l3, isEqual_self, hown, hother,
    Bool.and_self, if_true, decide_eq_true_eq, specified]
  generalize (if own.limit = notSpecified then values.value else some own.limit) = first
  by_cases hnone : other.limit = notSpecified
  · cases first <;> simp [hnone]
  · cases first <;> cases useMin <;> cases useDivide <;> simp [hnone]

section Convert

variable (unit : ChargingRateUnit) (defaultLimit : ℚ) (defaultNumberPhases : ℤ)
  (supplyVoltage : ℚ) {period : IntermediatePeriod}

def convertOther (period : IntermediatePeriod) : ℚ → ℚ :=
  inUnit unit (otherUnit unit)
    (supplyVoltage * (period.numberPhases.getD defaultNumberPhases : ℤ))

lemma convertPeriod_setpoint (hfine : period.Fine)
    (hsound : ∀ unit, (period.values unit).Sound) :
    (convertPeriod unit defaultLimit defaultNumberPhases supplyVoltage period).setpoint.value =
      Option.merge min (period.values unit).setpoint?
        ((period.values (otherUnit unit)).setpoint?.map
          (convertOther unit defaultNumberPhases supplyVoltage period)) := by
  have hcur := isEqual_floatMax ((hsound .A).setpoint.imp_right And.right)
  have hpower := isEqual_floatMax ((hsound .W).setpoint.imp_right And.right)
  cases unit with
  | A =>
    refine (bothUnits_value hcur hpower hfine.others.powerSetpoint).trans ?_
    rw [Option.or_none]
    rfl
  | W =>
    refine (bothUnits_value hpower hcur hfine.others.currentSetpoint).trans ?_
    rw [Option.or_none]
    rfl

variable {values : UnitValues}

lemma dischargeLimit?_of_neg (h : values.dischargeLimit < 0) :
    values.dischargeLimit? = specified noDischargeLimitSpecified values.dischargeLimit := by
  by_cases hnone : values.dischargeLimit = noDischargeLimitSpecified
  · simp [dischargeLimit?, specified, hnone]
  · simp [dischargeLimit?, specified, hnone, h]

lemma convertPeriod_dischargeLimit (hfine : period.Fine)
    (hsound : ∀ unit, (period.values unit).Sound)
    (hneg : ∀ unit, (period.values unit).dischargeLimit < 0) :
    (convertPeriod unit defaultLimit defaultNumberPhases supplyVoltage
        period).dischargeLimit.value =
      Option.merge max (period.values unit).dischargeLimit?
        ((period.values (otherUnit unit)).dischargeLimit?.map
          (convertOther unit defaultNumberPhases supplyVoltage period)) := by
  have hcur := isEqual_dischargeLimit (hsound .A).dischargeLimit
  have hpower := isEqual_dischargeLimit (hsound .W).dischargeLimit
  rw [dischargeLimit?_of_neg (hneg unit), dischargeLimit?_of_neg (hneg (otherUnit unit))]
  cases unit with
  | A =>
    refine (bothUnits_value hcur hpower
      hfine.others.powerDischargeLimit).trans ?_
    rw [Option.or_none]
    rfl
  | W =>
    refine (bothUnits_value hpower hcur
      hfine.others.currentDischargeLimit).trans ?_
    rw [Option.or_none]
    rfl

lemma Sound.limit?_eq (h : values.Sound) :
    values.limit? = specified noLimitSpecified values.limit := by
  have hmark : ¬(0 : ℚ) ≤ noLimitSpecified := by decide +kernel
  by_cases hnone : values.limit = noLimitSpecified
  · simp [limit?, specified, hnone, hmark]
  · simp [limit?, specified, hnone, h.limit.nonneg hnone]

/-- The default if no unit has a limit, else the start value of the search for the lowest. -/
def fallbackLimit (period : IntermediatePeriod) : ℚ :=
  if (period.values .A).limit? = none ∧ (period.values .W).limit? = none then defaultLimit
  else floatMax

lemma convertPeriod_limit (hfine : period.Fine)
    (hsound : ∀ unit, (period.values unit).Sound) :
    (convertPeriod unit defaultLimit defaultNumberPhases supplyVoltage period).limit.value =
      Option.merge min ((period.values unit).limit?.or (some (fallbackLimit defaultLimit period)))
        ((period.values (otherUnit unit)).limit?.map
          (convertOther unit defaultNumberPhases supplyVoltage period)) := by
  have hcur := isEqual_noLimit (hsound .A).limit
  have hpower := isEqual_noLimit (hsound .W).limit
  have hnone : ∀ unit, isEqual (period.values unit).limit noLimitSpecified =
      decide ((period.values unit).limit? = none) := by
    intro unit
    rw [isEqual_noLimit (hsound unit).limit, (hsound unit).limit?_eq]
    simp [specified]
  have hinit : (initialLimit defaultLimit period).value =
      some (fallbackLimit defaultLimit period) := by
    have hnoCurrent : isEqual period.currentLimit.limit noLimitSpecified = _ := hnone .A
    have hnoPower : isEqual period.powerLimit.limit noLimitSpecified = _ := hnone .W
    simp only [initialLimit, fallbackLimit, hnoCurrent, hnoPower, Bool.and_eq_true,
      decide_eq_true_eq]
    split_ifs
    · rfl
    · rfl
  rw [(hsound unit).limit?_eq, (hsound (otherUnit unit)).limit?_eq, ← hinit]
  cases unit with
  | A => exact bothUnits_value hcur hpower hfine.others.powerLimit
  | W => exact bothUnits_value hpower hcur hfine.others.currentLimit

end Convert

end UnitValues

end Everest.SmartCharging.V2
