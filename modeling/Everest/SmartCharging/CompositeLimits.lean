import Everest.SmartCharging.LimitsV16
import Everest.SmartCharging.LimitsV2

namespace Everest.SmartCharging

open Timeline

/-- A composite schedule exceeds no constraint at any second of its window. -/
theorem composite_schedule_within_constraints (std : StdSort) (unit : ChargingRateUnit)
    (isOffline simulateTransactionActive : Bool) (startTime endTime evseId t : ℤ)
    (hevse : 0 < evseId)
    (hwindow : floorSeconds endTime - floorSeconds startTime < seconds (2 ^ 31))
    (ht : WholeSeconds t) (hstart : floorSeconds startTime ≤ t) (hend : t < floorSeconds endTime) :
    (∀ (handler : V16.SmartChargingHandler)
      (configuration : Configuration V16.ChargingProfilePurposeType),
      (∀ profile, handler.Installed profile → V16.Valid profile) →
      0 < (CompositeScheduleConfig.of configuration isOffline).supplyVoltage →
      1 ≤ (CompositeScheduleConfig.of configuration isOffline).defaultNumberPhases →
      handler.WithinConstraints std configuration startTime endTime evseId unit isOffline
        simulateTransactionActive t) ∧
    (∀ (station : V2.Station) (configuration : Configuration V2.ChargingProfilePurpose),
      (∀ evse, ∀ profile ∈ station.validProfiles evse, V2.Valid profile) →
      0 < (CompositeScheduleConfig.of configuration isOffline).supplyVoltage →
      1 ≤ (CompositeScheduleConfig.of configuration isOffline).defaultNumberPhases →
      station.WithinConstraints std configuration startTime endTime evseId unit isOffline
        simulateTransactionActive t) := by
  refine ⟨fun handler configuration hvalid hvolt hph => ?_,
    fun station configuration hvalid hvolt hph => ?_⟩
  · exact V16.calculateEnhancedCompositeSchedule_bounds unit hevse hvalid hvolt hph
      ⟨hwindow, ht, hstart, hend⟩
  · exact V2.calculateCompositeSchedule_bounds unit hevse hvalid hvolt hph
      ⟨hwindow, ht, hstart, hend⟩

def V16.constantProfile (purpose : V16.ChargingProfilePurposeType) (unit : ChargingRateUnit)
    (limit : ℚ) (numberPhases : ℤ) : V16.ChargingProfile where
  transactionId := none
  stackLevel := 1
  chargingProfilePurpose := purpose
  chargingProfileKind := .absolute
  recurrencyKind := none
  validFrom := none
  validTo := none
  chargingSchedule :=
    { chargingRateUnit := unit
      chargingSchedulePeriod := [⟨0, limit, some numberPhases⟩]
      duration := none
      startSchedule := some 0
      minChargingRate := none }

lemma V16.constantProfile_valid {purpose : V16.ChargingProfilePurposeType}
    {unit : ChargingRateUnit} {limit : ℚ} {numberPhases : ℤ} (hnn : 0 ≤ limit)
    (hle : limit ≤ floatMax - 1) (hph : 1 ≤ numberPhases) :
    V16.Valid (V16.constantProfile purpose unit limit numberPhases) := by
  intro period hper
  rw [List.mem_singleton.mp hper]
  exact ⟨hnn, hle, fun n hn => by rwa [← Option.mem_some.mp hn]⟩

/-- A charge point limited to 11040 W on three phases, which is 16 A, with one connector that
has a TxProfile of 32 A on one phase. -/
def V16.mixedPhases (transaction : Option V16.Transaction) : V16.SmartChargingHandler where
  chargePointMaxProfiles := [V16.constantProfile .chargePointMaxProfile .W 11040 3]
  connectors := [⟨transaction, [], [V16.constantProfile .txProfile .A 32 1]⟩]

lemma V16.mixedPhases_valid (transaction : Option V16.Transaction) :
    ∀ profile, (V16.mixedPhases transaction).Installed profile → V16.Valid profile := by
  rintro profile (hmem | ⟨connector, hconn, hmem | hmem⟩)
  · rw [List.mem_singleton.mp hmem]
    exact V16.constantProfile_valid (by decide +kernel) (by decide +kernel) (by decide)
  · rw [List.mem_singleton.mp hconn] at hmem
    rw [List.mem_singleton.mp hmem]
    exact V16.constantProfile_valid (by decide +kernel) (by decide +kernel) (by decide)
  · rw [List.mem_singleton.mp hconn] at hmem
    exact absurd hmem List.not_mem_nil

/-- The station maximum and the transaction bound the schedule of a minute. -/
theorem mixedPhases_within_constraints :
    (V16.mixedPhases (some ⟨some 1, 0⟩)).WithinConstraints StdSort.insertion {} 0 (seconds 60) 1 .A
      false false 0 :=
  (composite_schedule_within_constraints StdSort.insertion .A false false 0 (seconds 60) 1 0
    (by decide) (by decide) (by decide) (by decide) (by decide)).1 _ {}
    (V16.mixedPhases_valid _) (by decide +kernel) (by decide +kernel)

/-- A connector without a transaction that has a TxDefaultProfile of 16 A. -/
def V16.idleConnector : V16.SmartChargingHandler where
  chargePointMaxProfiles := []
  connectors := [⟨none, [V16.constantProfile .txDefaultProfile .A 16 3], []⟩]

/-- The station maximum taken alone is 11040 W on three phases, which is 16 A, and the schedule
with the single-phase TxProfile is 32 A. The TxDefaultProfile taken alone is 16 A, and the
schedule of the connector without a transaction is the default of 48 A. -/
theorem composite_schedule_exceeds_limit_alone :
    let handler := V16.mixedPhases (some ⟨some 1, 0⟩)
    ((V16.purposeProfile StdSort.insertion 0 (seconds 60) (some 0)
        (handler.getValidProfiles 0 []) .chargePointMaxProfile).map
        (·.map fun p => (p.startPeriod, p.powerLimit, p.numberPhases)) =
        some [(0, 11040, some 3)] ∧
      inUnit .A .W (230 * 3) 11040 = 16 ∧
      (handler.calculateEnhancedCompositeSchedule StdSort.insertion {} 0 (seconds 60) 1 .A false
        false).map (·.chargingSchedulePeriod.map fun p => (p.startPeriod, p.limit)) =
        some [(0, 32)]) ∧
    (V16.purposeProfile StdSort.insertion 0 (seconds 60) none
        (V16.idleConnector.getValidProfiles 1 []) .txDefaultProfile).map
        (·.map fun p => (p.startPeriod, p.currentLimit)) = some [(0, 16)] ∧
      (V16.idleConnector.calculateEnhancedCompositeSchedule StdSort.insertion {} 0 (seconds 60) 1
        .A false false).map (·.chargingSchedulePeriod.map fun p => (p.startPeriod, p.limit)) =
        some [(0, 48)] := by
  decide +kernel

end Everest.SmartCharging
