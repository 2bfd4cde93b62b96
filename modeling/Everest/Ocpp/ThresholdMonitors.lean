import Everest.Lib.Runs
import Mathlib.Algebra.Order.Ring.Rat

namespace Everest.Ocpp.V2.Monitoring
open Runs

inductive MonitorEnum
  | upperThreshold
  | lowerThreshold
  deriving DecidableEq

inductive VariableMonitorType
  | hardWiredMonitor
  | preconfiguredMonitor
  | customMonitor
  deriving DecidableEq

inductive MonitoringBaseEnum
  | all
  | factoryDefault
  | hardWiredOnly
  deriving DecidableEq

structure VariableMonitoring where
  type : MonitorEnum
  value : ℚ
  severity : ℤ
  monitorType : VariableMonitorType
  isWriteOnly : Bool

/-- What `is_monitoring_enabled` and `get_monitoring_info` read. -/
structure MonitoringInfo where
  enabled : Bool
  offlineSeverity : ℤ
  activeMonitoringLevel : ℤ
  activeMonitoringBase : MonitoringBaseEnum

structure EventData where
  eventId : ℕ
  /-- Empty for a variable that is write-only. -/
  actualValue : Option ℚ
  cleared : Bool
  deriving DecidableEq

/-- Events are listed with the newest one first. -/
structure UpdaterMonitorMeta where
  valueCurrent : ℚ
  isCsmsSentTriggered : Bool := false
  isEventGenerated : Bool := false
  isCsmsSent : Bool := false
  isCleared : Bool := false
  generated : List EventData := []

structure MonitoringUpdater where
  /-- The value of the variable. -/
  value : ℚ
  uniqueId : ℕ := 0
  entry : Option UpdaterMonitorMeta := none
  sent : List EventData := []

inductive Input
  | changeValue (value : ℚ)
  | processMonitors (isOffline : Bool)

section

variable (m : VariableMonitoring) (info : MonitoringInfo)

def triggersMonitor (value : ℚ) : Bool :=
  match m.type with
  | .lowerThreshold => value < m.value
  | .upperThreshold => value > m.value

def isMonitorActive : Bool :=
  match info.activeMonitoringBase with
  | .all => true
  | .factoryDefault => m.monitorType ≠ .customMonitor
  | .hardWiredOnly => m.monitorType = .hardWiredMonitor

def UpdaterMonitorMeta.setTriggerClearState (data : UpdaterMonitorMeta)
    (isCleared : Bool) : UpdaterMonitorMeta :=
  if data.isCleared ≠ isCleared then
    { data with isCleared, isCsmsSent := false, isEventGenerated := false }
  else data

def evaluateMonitor (value : ℚ) : Option UpdaterMonitorMeta → Option UpdaterMonitorMeta
  | none => if triggersMonitor m value then some { valueCurrent := value } else none
  | some data =>
    some ({ data with valueCurrent := value }.setTriggerClearState !triggersMonitor m value)

def UpdaterMonitorMeta.event (data : UpdaterMonitorMeta) (uniqueId : ℕ) : EventData :=
  ⟨uniqueId, if m.isWriteOnly then none else some data.valueCurrent, data.isCleared⟩

def processMonitorMetaInternal (uniqueId : ℕ) (data : UpdaterMonitorMeta) :
    ℕ × UpdaterMonitorMeta :=
  if data.isEventGenerated then (uniqueId, data)
  else (uniqueId + 1, { data with
    isEventGenerated := true
    generated := data.event m uniqueId :: data.generated })

@[grind] def shouldRemoveMonitorMetaInternal (data : UpdaterMonitorMeta) : Bool :=
  !data.isCsmsSentTriggered && data.isCleared ||
    data.isCsmsSentTriggered && data.isCleared && data.isCsmsSent

def UpdaterMonitorMeta.send (data : UpdaterMonitorMeta) : UpdaterMonitorMeta :=
  if data.generated = [] then data
  else { data with
    generated := []
    isCsmsSent := true
    isCsmsSentTriggered := data.isCsmsSentTriggered || !data.isCleared }

def processMonitorsInternal (isOffline : Bool) (s : MonitoringUpdater) :
    MonitoringUpdater :=
  if !info.enabled then s
  else
    match s.entry with
    | none => s
    | some data =>
      let level := if isOffline then info.offlineSeverity else info.activeMonitoringLevel
      if !isMonitorActive m info || m.severity > level then { s with entry := none }
      else
        let (uniqueId, data) := processMonitorMetaInternal m s.uniqueId data
        let sentData := if isOffline then data else data.send
        { s with
          uniqueId
          entry := if shouldRemoveMonitorMetaInternal sentData then none else some sentData
          sent := if isOffline then s.sent else data.generated ++ s.sent }

def step (s : MonitoringUpdater) : Input → MonitoringUpdater
  | .changeValue value =>
    { s with value, entry := evaluateMonitor m value s.entry }
  | .processMonitors isOffline => processMonitorsInternal m info isOffline s

/-- A run without a value change that is lost offline. -/
def Queued : Input → Prop
  | .processMonitors true => m.severity ≤ info.offlineSeverity
  | _ => True

end

def reported : List EventData → Option Bool
  | [] => none
  | event :: _ => some event.cleared

structure Tracked (m : VariableMonitoring) (s : MonitoringUpdater) (data : UpdaterMonitorMeta) :
    Prop where
  isCleared : data.isCleared = !triggersMonitor m s.value
  generated : data.isEventGenerated →
    reported (data.generated ++ s.sent) = some data.isCleared
  untriggered : data.isCsmsSentTriggered = false → reported s.sent ≠ some false
  sent : data.isCsmsSent → data.isEventGenerated ∧ data.generated = []

/-- What the CSMS knows and what is still to be sent. -/
structure Sound (m : VariableMonitoring) (info : MonitoringInfo) (s : MonitoringUpdater) :
    Prop where
  inactive : (info.enabled && isMonitorActive m info) = false → reported s.sent = none
  absent : s.entry = none → reported s.sent ≠ some false ∧
    (reported s.sent ≠ none → triggersMonitor m s.value = false)
  tracked : ∀ data ∈ s.entry, Tracked m s data

variable {m : VariableMonitoring} {info : MonitoringInfo} {s : MonitoringUpdater}
  {data : UpdaterMonitorMeta}

lemma Tracked.congr (h : Tracked m s data) {s' : MonitoringUpdater} (hvalue : s'.value = s.value)
    (hsent : s'.sent = s.sent) : Tracked m s' data := by
  refine ⟨?_, ?_, ?_, h.sent⟩
  · rw [hvalue]
    exact h.isCleared
  · rw [hsent]
    exact h.generated
  · rw [hsent]
    exact h.untriggered

lemma Tracked.evaluate (h : Tracked m s data) (value : ℚ) :
    Tracked m { s with value } ({ data with valueCurrent := value }.setTriggerClearState
      !triggersMonitor m value) := by
  unfold UpdaterMonitorMeta.setTriggerClearState
  split_ifs with hchanged
  · exact ⟨rfl, nofun, h.untriggered, nofun⟩
  · exact ⟨not_not.1 hchanged, h.generated, h.untriggered, h.sent⟩

lemma Sound.changeValue (h : Sound m info s) (value : ℚ) :
    Sound m info (step m info s (.changeValue value)) := by
  simp only [step]
  cases hs : s.entry with
  | none =>
    obtain ⟨hlast, -⟩ := h.absent hs
    simp only [evaluateMonitor]
    split_ifs with htriggers
    · refine ⟨h.inactive, nofun, ?_⟩
      rintro _ ⟨rfl⟩
      exact ⟨by simp [htriggers], nofun, fun _ => hlast, nofun⟩
    · exact ⟨h.inactive, fun _ => ⟨hlast, fun _ => by simpa using htriggers⟩, nofun⟩
  | some before =>
    refine ⟨h.inactive, nofun, ?_⟩
    rintro _ ⟨rfl⟩
    exact ((h.tracked before hs).evaluate value).congr rfl rfl

/-- After the first half of a processing run the newest event reports the state of the entry. -/
lemma Tracked.generate (h : Tracked m s data) (uniqueId : ℕ) :
    Tracked m s (processMonitorMetaInternal m uniqueId data).2 ∧
      (processMonitorMetaInternal m uniqueId data).2.isEventGenerated = true := by
  unfold processMonitorMetaInternal
  split_ifs with hgenerated
  · exact ⟨h, hgenerated⟩
  · refine ⟨⟨h.isCleared, fun _ => rfl, h.untriggered, fun hsent => ?_⟩, rfl⟩
    exact absurd (h.sent hsent).1 hgenerated

lemma Tracked.send (h : Tracked m s data) (hgenerated : data.isEventGenerated = true) :
    Tracked m { s with sent := data.generated ++ s.sent } data.send := by
  have hlast := h.generated hgenerated
  unfold UpdaterMonitorMeta.send
  split_ifs with hempty
  · rw [hempty]
    exact h.congr rfl rfl
  · refine ⟨h.isCleared, fun _ => hlast, fun htriggered => ?_, fun _ => ⟨hgenerated, rfl⟩⟩
    -- only a trigger would have left the flag set
    simp only [Bool.or_eq_false_iff, Bool.not_eq_false'] at htriggered
    change reported (data.generated ++ s.sent) ≠ some false
    rw [hlast, htriggered.2]
    exact nofun

lemma Tracked.removed (h : Tracked m s data)
    (hremove : shouldRemoveMonitorMetaInternal data = true) :
    reported s.sent ≠ some false ∧ triggersMonitor m s.value = false := by
  have hcleared : data.isCleared = true := by grind
  refine ⟨?_, by simpa [hcleared] using h.isCleared⟩
  cases htriggered : data.isCsmsSentTriggered with
  | false => exact h.untriggered htriggered
  | true =>
    have hsent : data.isCsmsSent = true := by grind
    obtain ⟨hgenerated, hempty⟩ := h.sent hsent
    have hlast := h.generated hgenerated
    rw [hempty, hcleared, List.nil_append] at hlast
    simp [hlast]

lemma Tracked.sound (h : Tracked m s data)
    (hactive : (info.enabled && isMonitorActive m info) = true) {uniqueId : ℕ} :
    Sound m info { s with
      uniqueId, entry := if shouldRemoveMonitorMetaInternal data then none else some data } := by
  refine ⟨fun hinactive => absurd hactive (by simp [hinactive]), fun habsent => ?_, fun d hd => ?_⟩
  · have hremove : shouldRemoveMonitorMetaInternal data = true := by
      by_contra hkeep
      simp [hkeep] at habsent
    exact ⟨(h.removed hremove).1, fun _ => (h.removed hremove).2⟩
  · split_ifs at hd
    · cases hd
    · obtain rfl := Option.mem_some.1 hd
      exact h.congr rfl rfl

lemma Sound.discard (h : Sound m info s)
    (hinactive : (info.enabled && isMonitorActive m info) = false) :
    Sound m info { s with entry := none } := by
  have hnone := h.inactive hinactive
  exact ⟨h.inactive, fun _ => by simp [hnone], nofun⟩

/-- What a run does to an entry that it does not discard. -/
lemma processMonitors_some {before : UpdaterMonitorMeta} (hs : s.entry = some before)
    (hactive : (info.enabled && isMonitorActive m info) = true) {isOffline : Bool}
    (hlevel : m.severity ≤ info.activeMonitoringLevel)
    (hqueued : Queued m info (.processMonitors isOffline)) :
    step m info s (.processMonitors isOffline) =
      let (uniqueId, data) := processMonitorMetaInternal m s.uniqueId before
      let sentData := if isOffline then data else data.send
      { s with
        uniqueId
        entry := if shouldRemoveMonitorMetaInternal sentData then none else some sentData
        sent := if isOffline then s.sent else data.generated ++ s.sent } := by
  rw [Bool.and_eq_true] at hactive
  have hkept : ¬(if isOffline then info.offlineSeverity else info.activeMonitoringLevel) <
      m.severity := by
    cases isOffline with
    | true => exact not_lt.2 hqueued
    | false => exact not_lt.2 hlevel
  simp [step, processMonitorsInternal, hs, hactive, hkept]

lemma processMonitors_inactive (hactive : (info.enabled && isMonitorActive m info) = false)
    (isOffline : Bool) : step m info s (.processMonitors isOffline) = s ∨
      step m info s (.processMonitors isOffline) = { s with entry := none } := by
  cases henabled : info.enabled with
  | false => exact .inl (by simp [step, processMonitorsInternal, henabled])
  | true =>
    rw [henabled, Bool.true_and] at hactive
    cases hs : s.entry with
    | none => exact .inl (by simp [step, processMonitorsInternal, hs])
    | some => exact .inr (by simp [step, processMonitorsInternal, hs, henabled, hactive])

lemma Sound.processMonitors (h : Sound m info s) (hlevel : m.severity ≤ info.activeMonitoringLevel)
    {isOffline : Bool} (hqueued : Queued m info (.processMonitors isOffline)) :
    Sound m info (step m info s (.processMonitors isOffline)) := by
  cases hs : s.entry with
  | none =>
    have hsame : step m info s (.processMonitors isOffline) = s := by
      simp [step, processMonitorsInternal, hs]
    rwa [hsame]
  | some before =>
    by_cases hactive : (info.enabled && isMonitorActive m info) = true
    · rw [processMonitors_some hs hactive hlevel hqueued]
      obtain ⟨hevent, hgenerated⟩ := (h.tracked before hs).generate s.uniqueId
      cases isOffline with
      | true => exact hevent.sound hactive
      | false => exact (hevent.send hgenerated).sound hactive
    · rw [Bool.not_eq_true] at hactive
      obtain hsame | hdiscard := processMonitors_inactive (s := s) hactive isOffline
      · rwa [hsame]
      · rw [hdiscard]
        exact h.discard hactive

def keptOffline : { m : VariableMonitoring // m.severity ≤ 9 } :=
  ⟨⟨.upperThreshold, 10, 5, .customMonitor, false⟩, by decide⟩

end Everest.Ocpp.V2.Monitoring
