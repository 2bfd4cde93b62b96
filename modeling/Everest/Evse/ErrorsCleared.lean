import Everest.Evse.ErrorSignals

namespace Everest.Evse
open Runs ErrorHandling

namespace ErrorHandling

variable {cfg : ErrorHandlingConfig} {s : ErrorHandling}

def Announces (cfg : ErrorHandlingConfig) (s : ErrorHandling) (input : ErrorInput) : Prop :=
  s.signals.count .allErrorCleared < (s.step cfg input).signals.count .allErrorCleared

def NoErrors (cfg : ErrorHandlingConfig) (s : ErrorHandling) : Prop :=
  ∀ source, cfg.connected source = true → s.active source = []

/-- The over voltage monitor has warnings, and there is no other error but
`evse_manager/Inoperative`. -/
structure OnlyMonitorWarnings (cfg : ErrorHandlingConfig) (s : ErrorHandling) : Prop where
  connected : cfg.connected .overVoltageMonitor = true
  active : s.active .overVoltageMonitor ≠ []
  warnings : ∀ e ∈ s.active .overVoltageMonitor, e.type = "over_voltage_monitor/VendorWarning"
  evse : clearError inoperative "" (s.active .evse) = []
  others : ∀ source, source ≠ .overVoltageMonitor → source ≠ .evse →
    cfg.connected source = true → s.active source = []

lemma updateInoperative_signals (cfg : ErrorHandlingConfig) (s : ErrorHandling) :
    ∃ new, (s.updateInoperative cfg).signals = new ++ s.signals ∧
      new.count .allErrorCleared = 0 := by
  have hspec := (updateInoperative_spec cfg s).1
  generalize s.updateInoperative cfg = after at hspec
  cases hspec with
  | quiet | same => exact ⟨[], rfl, rfl⟩
  | clear _ _ _ hsigs => exact ⟨[_], hsigs, rfl⟩
  | raise _ _ _ hsigs =>
    split_ifs at hsigs
    · exact ⟨[_], hsigs, List.count_cons_of_ne (shutdownSignal_ne _)⟩
    · exact ⟨[], hsigs, rfl⟩

variable {input : ErrorInput}

lemma announces_iff : Announces cfg s input ↔
    input = .processError ∧ (s.updateInoperative cfg).errorCount cfg = 0 := by
  obtain ⟨new, hnew, hcount⟩ := updateInoperative_signals cfg s
  cases input with
  | raise | clear =>
    simp only [Announces, step]
    split_ifs <;> simp
  | processError =>
    simp only [Announces, step, processError, true_and]
    split_ifs with h <;> simp [signalError, hnew, hcount, h]

lemma errorCount_update_iff : (s.updateInoperative cfg).errorCount cfg = 0 ↔
    s.errorsPreventCharging cfg = [] ∧ clearError inoperative "" (s.active .evse) = [] ∧
      ∀ source, source ≠ .overVoltageMonitor → source ≠ .evse → cfg.connected source = true →
        s.active source = [] := by
  obtain ⟨hspec, hown⟩ := updateInoperative_spec cfg s
  constructor
  · intro hcount
    have hinop := isInoperative_of_errorCount hcount
    have hzero := errorCount_eq_zero.1 hcount
    refine ⟨not_not.1 (mt hspec.isInoperative_iff.2 (by simp [hinop])), ?_, ?_⟩
    · rw [← hown.evse, hzero .evse (by simp) cfg.evse_connected]
      rfl
    · intro source hm he hc
      rw [← hown.others source he]
      exact hzero source hm hc
  · rintro ⟨hnil, hevse, hothers⟩
    rw [errorCount_eq_zero]
    intro source hm hc
    by_cases he : source = .evse
    · subst he
      generalize s.updateInoperative cfg = after at hspec
      cases hspec with
      | quiet _ hinop =>
        rw [← hevse, clearError_of_not_active hinop]
      | clear _ _ hact => rw [hact, hevse]
      | same hne | raise hne => exact absurd hnil hne
    · rw [hown.others source he]
      exact hothers source hm he hc

lemma onlyMonitorWarnings_iff : OnlyMonitorWarnings cfg s ↔
    (s.updateInoperative cfg).errorCount cfg = 0 ∧ cfg.connected .overVoltageMonitor = true ∧
      s.active .overVoltageMonitor ≠ [] := by
  have hprevents : s.errorsPreventCharging cfg = [] ↔ ∀ e, ¬ PreventsCharging cfg s e := by
    rw [← not_exists, ← errorsPreventCharging_ne_nil, not_not]
  rw [errorCount_update_iff, hprevents]
  constructor
  · intro h
    refine ⟨⟨?_, h.evse, h.others⟩, h.connected, h.active⟩
    rintro e ⟨source, hc, he, hignore⟩
    by_cases hm : source = .overVoltageMonitor
    · subst hm
      exact hignore (by simp [ignoreErrors, h.warnings e he])
    · by_cases hevse : source = .evse
      · subst hevse
        have hmem : e ∈ clearError inoperative "" (s.active .evse) := by
          refine mem_clearError.2 ⟨he, ?_⟩
          rintro ⟨ht, -⟩
          exact hignore (by simp [ignoreErrors, ht])
        rw [h.evse] at hmem
        cases hmem
      · rw [h.others source hm hevse hc] at he
        cases he
  · rintro ⟨⟨hnone, hevse, hothers⟩, hc, hact⟩
    refine ⟨hc, hact, ?_, hevse, hothers⟩
    intro e he
    by_contra ht
    exact hnone e ⟨_, hc, he, by simp [ignoreErrors, ht]⟩

/-- A step announces too early exactly if the over voltage monitor is all that has errors. -/
theorem announces_noErrors_iff : (Announces cfg s input → NoErrors cfg (s.step cfg input)) ↔
      (input = .processError → ¬ OnlyMonitorWarnings cfg s) := by
  rw [announces_iff, and_imp]
  refine imp_congr_right ?_
  rintro rfl
  rw [onlyMonitorWarnings_iff, not_and]
  refine imp_congr_right fun hcount => ?_
  have hzero := errorCount_eq_zero.1 hcount
  have hmonitor : (s.step cfg .processError).active .overVoltageMonitor =
      s.active .overVoltageMonitor := by
    change (s.processError cfg).active _ = _
    rw [(processError_core cfg s).1]
    exact (updateInoperative_spec cfg s).2.others _ (by simp)
  rw [not_and, not_not, ← hmonitor]
  constructor
  · intro h hc
    exact h _ hc
  · intro h source hc
    by_cases hm : source = .overVoltageMonitor
    · subst hm
      exact h hc
    · change (s.processError cfg).active _ = _
      rw [(processError_core cfg s).1]
      exact hzero source hm hc

lemma signals_step (cfg : ErrorHandlingConfig) (s : ErrorHandling) (input : ErrorInput) :
    ∃ new, (s.step cfg input).signals = new ++ s.signals := by
  cases input with
  | raise | clear =>
    unfold step
    dsimp only
    split_ifs <;> exact ⟨[], rfl⟩
  | processError =>
    obtain ⟨new, hnew, -⟩ := updateInoperative_signals cfg s
    unfold step processError
    dsimp only
    split_ifs
    · exact ⟨.allErrorCleared :: new, congrArg (_ :: ·) hnew⟩
    · exact ⟨new, hnew⟩

end ErrorHandling

def ErrorHandlingEvents.shutdownType : ErrorHandlingEvents → ShutdownType
  | .forceErrorShutdown => .errorShutdown
  | .forceEmergencyShutdown => .emergencyShutdown
  | .allErrorsPreventingChargingCleared => .none
  | .allErrorCleared => .none

lemma shutdownType_foldl (events : List ErrorHandlingEvents) (c : Charger) :
    (events.foldl (fun c event => c.processError event) c).shared.shutdownType =
      events.getLast?.elim c.shared.shutdownType (·.shutdownType) := by
  cases List.eq_nil_or_concat events with
  | inl h => rw [h]; rfl
  | inr h =>
    obtain ⟨before, event, rfl⟩ := h
    cases event <;> simp [List.foldl_append] <;> rfl

namespace ErrorSystem

variable {cfg : ErrorHandlingConfig} {s : ErrorSystem}

/-- What the charger has been told and will be told is the log of the error handling. -/
structure InStep (s : ErrorSystem) : Prop where
  log : s.handling.LogOk
  shutdown : (s.pending.foldl (fun c event => c.processError event) s.charger).shared.shutdownType =
    s.handling.signals.head?.elim .none (·.shutdownType)

lemma InStep.step (h : InStep s) (cfg : ErrorHandlingConfig) (input : SystemInput) :
    InStep (s.step cfg input) := by
  cases input with
  | errorThread => exact ⟨h.log, h.shutdown⟩
  | errors input =>
    refine ⟨h.log.step cfg input, ?_⟩
    obtain ⟨new, hnew⟩ := s.handling.signals_step cfg input
    have hsigs : newSignals s.handling.signals (s.handling.step cfg input).signals =
        new.reverse := by
      simp [newSignals, hnew]
    simp only [ErrorSystem.step, hsigs, List.foldl_append]
    rw [shutdownType_foldl, h.shutdown, hnew, List.getLast?_reverse]
    cases new <;> rfl

lemma settle_handling : ((s.step cfg (.errors .processError)).step cfg .errorThread).handling =
    s.handling.processError cfg := rfl

/-- Once `process_error` has run and the error thread has emptied the queue, the charger is shut
down exactly if an error prevents charging. -/
theorem InStep.settled (h : InStep s) :
    ((s.step cfg (.errors .processError)).step cfg .errorThread).charger.shared.shutdownType =
        .none ↔
      ¬ ∃ e, PreventsCharging cfg (s.handling.processError cfg) e := by
  have h' := (h.step cfg (.errors .processError)).step cfg .errorThread
  have hlog := h'.log
  have hshutdown := h'.shutdown
  rw [settle_handling] at hlog hshutdown
  have hinop : (s.handling.processError cfg).isInoperative = true ↔
      ∃ e, PreventsCharging cfg (s.handling.processError cfg) e := by
    rw [isInoperative_processError, errorsPreventCharging_ne_nil]
    exact exists_congr fun e =>
      ((processError_ownChange cfg s.handling).preventsCharging).symm
  have hcharger : ((s.step cfg (.errors .processError)).step cfg .errorThread).pending = [] := rfl
  rw [hcharger, List.foldl_nil] at hshutdown
  rw [hshutdown, ← hinop]
  cases hraised : (s.handling.processError cfg).isInoperative with
  | true =>
    rcases hlog.raised hraised with hhead | hhead <;>
      simp [hhead, ErrorHandlingEvents.shutdownType]
  | false =>
    have hquiet := hlog.quiet hraised
    unfold lastSignal at hquiet
    generalize (s.handling.processError cfg).signals = log at hquiet
    cases log with
    | nil => simp
    | cons event => cases event <;> simp [ErrorHandlingEvents.shutdownType] at hquiet ⊢

end ErrorSystem

/-- 'All errors cleared' is announced only when no error is active, in the runs in which
`process_error` never finds warnings of the over voltage monitor alone. The charger does not
resume for it while an error prevents charging: after any run, once `process_error` has run and
the error thread has emptied the queue, the charger is shut down exactly if one does. -/
theorem all_errors_cleared_iff (cfg : ErrorHandlingConfig) :
    (∀ inputs, AllSteps (step cfg)
        (fun s input => s.Announces cfg input → (s.step cfg input).NoErrors cfg) {} inputs ↔
      AllSteps (step cfg)
        (fun s input => input = .processError → ¬ s.OnlyMonitorWarnings cfg) {} inputs) ∧
    ∀ (c : Charger) (inputs : List SystemInput),
      let s := run (ErrorSystem.step cfg)
        { charger := { c with shared.shutdownType := .none } } inputs
      ((s.step cfg (.errors .processError)).step cfg .errorThread).charger.shared.shutdownType =
          .none ↔
        ¬ ∃ e, PreventsCharging cfg (s.handling.processError cfg) e := by
  refine ⟨?_, ?_⟩
  · intro inputs
    simp only [announces_noErrors_iff]
  · intro c inputs s
    have hinit : ErrorSystem.InStep { charger := { c with shared.shutdownType := .none } } :=
      ⟨.empty, rfl⟩
    have hrun : s.InStep := run_inv (fun s input h => h.step cfg input) hinit inputs
    exact hrun.settled

/-- The over voltage monitor warns, and all errors are said to be cleared. -/
theorem all_errors_cleared_early :
    let warning : Error := { type := "over_voltage_monitor/VendorWarning" }
    let s := run (step allConnected) {}
      [.raise .overVoltageMonitor warning 0]
    s.active .overVoltageMonitor = [warning] ∧
      (s.step allConnected .processError).signals = [.allErrorCleared] ∧
      (s.step allConnected .processError).active .overVoltageMonitor = [warning] := by
  decide +kernel

end Everest.Evse
