import Everest.SmartCharging.LimitsV2

namespace Everest.SmartCharging

open PeriodOps Timeline

section Merge

variable {P : Type} [PeriodOps P] {combinator : List P → P}

def NeighboursDiffer (profile : List P) : Prop := profile.IsChain fun p q => differs q p = true

lemma NeighboursDiffer.appendNew {combined : List P} (h : NeighboursDiffer combined) (p : P) :
    NeighboursDiffer (appendNew differs combined p) := by
  unfold Timeline.appendNew
  split
  · rename_i hnone
    rw [List.getLast?_eq_none_iff.mp hnone]
    exact .singleton p
  · rename_i back hback
    split_ifs with hdiff
    · refine List.isChain_append.mpr ⟨h, .singleton p, ?_⟩
      intro q hq r hr
      obtain rfl := Option.some.inj (hback.symm.trans hq)
      obtain rfl := Option.some.inj hr
      exact hdiff
    · exact h

lemma combineLoop_neighboursDiffer {current : ℤ} {cursors : List (Cursor P)} {combined : List P}
    (h : NeighboursDiffer combined) :
    NeighboursDiffer (combineLoop combinator current cursors combined) := by
  fun_induction combineLoop combinator current cursors combined with
  | case1 => exact h.appendNew _
  | case2 _ _ _ _ ih => exact ih (h.appendNew _)

/-- Whatever the combinator, the merged profile has at every second the combination of what is in
force, up to the comparison that also tells its neighbours apart. -/
theorem merging_is_pointwise {profiles : List (List P)} (hne : profiles ≠ [])
    (h : ∀ profile ∈ profiles, IsProfile profile) (combinator : List P → P) :
    IsPointwise combinator profiles (combineListOfProfiles profiles combinator) ∧
      NeighboursDiffer (combineListOfProfiles profiles combinator) := by
  refine ⟨combineListOfProfiles_isPointwise hne h, ?_⟩
  unfold combineListOfProfiles
  split
  · exact .singleton _
  · exact combineLoop_neighboursDiffer .nil

end Merge

namespace V2

def phaseCurrents (startPeriod : ℤ) (currentLimit : PeriodLimit) : IntermediatePeriod :=
  { defaultIntermediatePeriod startPeriod with currentLimit }

/-- The limits of the second profile count from 60 s to 120 s only: its period at 30 s is left out,
those at 60 s and 90 s show. -/
theorem merging_phase_currents :
    let txProfile := [phaseCurrents 0 (.all 16), defaultIntermediatePeriod 60,
      phaseCurrents 120 (.all 10)]
    let txDefaultProfile := [phaseCurrents 0 (.all 8), phaseCurrents 30 (.all 7),
      phaseCurrents 90 (.all 6)]
    let merged := mergeTxProfileWithTxDefaultProfile txProfile txDefaultProfile
    merged = [phaseCurrents 0 (.all 16), phaseCurrents 60 (.all 7), phaseCurrents 90 (.all 6),
      phaseCurrents 120 (.all 10)] ∧
      IsPointwise preferFirst [txProfile, txDefaultProfile] merged ∧ NeighboursDiffer merged := by
  intro txProfile txDefaultProfile merged
  have htx : IsProfile txProfile :=
    ⟨⟨rfl, by simp +decide [Increasing, txProfile]⟩, by decide +kernel⟩
  have htxDefault : IsProfile txDefaultProfile :=
    ⟨⟨rfl, by simp +decide [Increasing, txDefaultProfile]⟩, by decide +kernel⟩
  refine ⟨by decide +kernel, merging_is_pointwise (by simp) ?_ preferFirst⟩
  simp [htx, htxDefault]

/-- A period that only names the default mode, and one at the largest start, are left out. -/
theorem merged_periods_left_out :
    let period (mode : Option OperationMode) (start : ℤ) (limit : ℚ) : IntermediatePeriod :=
      { phaseCurrents start (.all limit) with operationMode := mode }
    let merged := fun p : IntermediatePeriod => inForce startPeriod
      (combineListOfProfiles [[period none 0 16, p]] preferFirst) p.startPeriod
    (preferFirst [period (some .chargingOnly) 60 16]).operationMode = some .chargingOnly ∧
      merged (period (some .chargingOnly) 60 16) = some (period none 0 16) ∧
      merged (period none int32Max 10) = some (period none 0 16) := by
  decide +kernel

open EnhancedChargingSchedulePeriod

def EnhancedChargingSchedulePeriod.reported (period : EnhancedChargingSchedulePeriod) :
    PhaseValues × PhaseValues × PhaseValues × Option ℤ :=
  (period.limit, period.setpoint, period.dischargeLimit, period.numberPhases)

def EnhancedChargingSchedulePeriod.otherPhases (period : EnhancedChargingSchedulePeriod) :
    List (Option ℚ) :=
  [period.limit, period.setpoint, period.dischargeLimit].flatMap fun values =>
    [values.valueL2, values.valueL3]

lemma reported_eq_iff {p q : EnhancedChargingSchedulePeriod} (h : p.compared = q.compared) :
    p.reported = q.reported ↔ p.otherPhases = q.otherPhases := by
  obtain ⟨_, ⟨⟩, _, ⟨⟩, ⟨⟩, _, _⟩ := p
  obtain ⟨_, ⟨⟩, _, ⟨⟩, ⟨⟩, _, _⟩ := q
  simp_all [compared, reported, otherPhases, and_assoc]

/-- The schedule reports at every second what the period in force converts to, exactly if
neighbours that agree in the compared fields also agree on L2 and L3. -/
theorem schedule_reports_every_period_iff {profile : List IntermediatePeriod}
    (hprofile : Increasing (·.startPeriod) profile) (chargingRateUnit : ChargingRateUnit)
    (defaultLimit : ℚ) (defaultNumberPhases : ℤ) (supplyVoltage : ℚ) :
    let convert := convertPeriod chargingRateUnit defaultLimit defaultNumberPhases supplyVoltage
    let schedule := convertIntermediateIntoSchedule profile chargingRateUnit defaultLimit
      defaultNumberPhases supplyVoltage
    (∀ t, (inForce (·.startPeriod) schedule t).map reported =
        (inForce (·.startPeriod) profile t).map fun p => (convert p).reported) ↔
      profile.IsChain fun p q => (convert q).differs (convert p) = false →
        (convert p).otherPhases = (convert q).otherPhases := by
  intro convert schedule
  have hstart := fun p => (convertPeriod_startPeriod chargingRateUnit defaultLimit
    defaultNumberPhases supplyVoltage p).1
  have hiff : (∀ t, (inForce (·.startPeriod) schedule t).map reported = _) ↔ _ :=
    inForce_compress_map_iff differs_eq_false (hprofile.map hstart)
  rw [List.isChain_map] at hiff
  simp only [inForce_map hstart, Option.map_map] at hiff
  refine hiff.trans (List.IsChain.iff fun p q => ?_)
  rw [differs_eq_false, eq_comm (b := (convert p).compared)]
  exact imp_congr_right reported_eq_iff

/-- The period at 60 s repeats the first one and is left out of the schedule. -/
theorem schedule_reports_phase_currents :
    let profile := [phaseCurrents 0 ⟨16, 16, 16⟩, phaseCurrents 60 ⟨16, 16, 16⟩,
      phaseCurrents 120 ⟨10, 16, 16⟩]
    let schedule := convertIntermediateIntoSchedule profile .A 48 3 230
    schedule.map (·.startPeriod) = [0, 120] ∧
      ∀ t, (inForce (·.startPeriod) schedule t).map reported =
        (inForce (·.startPeriod) profile t).map fun p => (convertPeriod .A 48 3 230 p).reported :=
  ⟨by decide +kernel, (schedule_reports_every_period_iff
    (by simp [Increasing, phaseCurrents, defaultIntermediatePeriod]) .A 48 3 230).2
    (by decide +kernel)⟩

/-- The current on L2 is lowered after a minute and the schedule goes on with the former one. -/
theorem schedule_misses_lower_current_on_L2 :
    let profile := [phaseCurrents 0 ⟨16, 16, 16⟩, phaseCurrents 60 ⟨16, 10, 16⟩]
    (inForce (·.startPeriod) (convertIntermediateIntoSchedule profile .A 48 3 230) 60).map
        (·.limit) = some ⟨some 16, some 16, some 16⟩ ∧
      (inForce (·.startPeriod) profile 60).map
        (fun p => (convertPeriod .A 48 3 230 p).limit) = some ⟨some 16, some 10, some 16⟩ := by
  decide +kernel

end V2

end Everest.SmartCharging
