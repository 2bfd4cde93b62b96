import Everest.Auth.Connector
import Everest.Lib.Runs
import Mathlib.Data.List.Forall2

namespace Everest.Auth
open Runs ConnectorState

def lastOf (kind : List ConnectorEvent) (events : List ConnectorEvent) : Option ConnectorEvent :=
  (events.filter (· ∈ kind)).getLast?

/-- After these events a connector is neither disabled nor faulted nor in use. -/
structure Offerable (events : List ConnectorEvent) : Prop where
  enabled : lastOf [.enable, .disable] events ≠ some .disable
  working : lastOf [.faulted, .errorCleared] events ≠ some .faulted
  free : lastOf [.transactionStarted, .sessionFinished] events ≠ some .transactionStarted

/-- The event has a transition, or nothing needs to be remembered of it. -/
def Heard (state : ConnectorState) (event : ConnectorEvent) : Prop :=
  (event = .disable → state ≠ .occupied ∧ state ≠ .faultedOccupied) ∧
  (event = .transactionStarted →
    state ≠ .unavailable ∧ state ≠ .faulted ∧ state ≠ .unavailableFaulted)

instance (state : ConnectorState) (event : ConnectorEvent) : Decidable (Heard state event) :=
  inferInstanceAs (Decidable (_ ∧ _))

variable {kind events : List ConnectorEvent} {event : ConnectorEvent} {state : ConnectorState}

lemma lastOf_append_of_mem (h : event ∈ kind) : lastOf kind (events ++ [event]) = some event := by
  simp [lastOf, List.filter_append, h]

lemma lastOf_append_of_not_mem (h : event ∉ kind) :
    lastOf kind (events ++ [event]) = lastOf kind events := by
  simp [lastOf, List.filter_append, h]

structure Reflects (state : ConnectorState) (events : List ConnectorEvent) : Prop where
  disabled : lastOf [.enable, .disable] events = some .disable →
    state = .unavailable ∨ state = .unavailableFaulted
  broken : lastOf [.faulted, .errorCleared] events = some .faulted →
    state = .faulted ∨ state = .unavailableFaulted ∨ state = .faultedOccupied
  busy : lastOf [.transactionStarted, .sessionFinished] events = some .transactionStarted →
    state = .occupied ∨ state = .faultedOccupied

lemma Reflects.next (h : Reflects state events) (hheard : Heard state event) :
    Reflects (state.next event) (events ++ [event]) := by
  refine ⟨fun hlast => ?_, fun hlast => ?_, fun hlast => ?_⟩
  · by_cases hevent : event ∈ [.enable, .disable]
    · rw [lastOf_append_of_mem hevent] at hlast
      obtain rfl := Option.some.inj hlast
      have hidle := hheard.1 rfl
      cases state <;> simp_all [next, handleEvent]
    · rw [lastOf_append_of_not_mem hevent] at hlast
      rcases h.disabled hlast with rfl | rfl <;> cases event <;> simp_all <;> decide
  · by_cases hevent : event ∈ [.faulted, .errorCleared]
    · rw [lastOf_append_of_mem hevent] at hlast
      obtain rfl := Option.some.inj hlast
      cases state <;> decide
    · rw [lastOf_append_of_not_mem hevent] at hlast
      rcases h.broken hlast with rfl | rfl | rfl <;> cases event <;> simp_all <;> decide
  · by_cases hevent : event ∈ [.transactionStarted, .sessionFinished]
    · rw [lastOf_append_of_mem hevent] at hlast
      obtain rfl := Option.some.inj hlast
      have hready := hheard.2 rfl
      cases state <;> simp_all [next, handleEvent]
    · rw [lastOf_append_of_not_mem hevent] at hlast
      rcases h.busy hlast with rfl | rfl <;> cases event <;> simp_all <;> decide

lemma Reflects.run {past : List ConnectorEvent} (h : Reflects state past)
    (hheard : AllSteps ConnectorState.next Heard state events) :
    Reflects (run ConnectorState.next state events) (past ++ events) := by
  induction events generalizing state past with
  | nil => simpa [Runs.run] using h
  | cons event events ih =>
    have hnext := ih (h.next hheard.1) hheard.2
    rwa [List.append_assoc] at hnext

lemma offerable_of_run (hheard : AllSteps next Heard .available events)
    (havail : run ConnectorState.next .available events = .available) : Offerable events := by
  have h : Reflects .available [] := ⟨by simp [lastOf], by simp [lastOf], by simp [lastOf]⟩
  have hrun := h.run hheard
  rw [havail] at hrun
  refine ⟨fun hlast => ?_, fun hlast => ?_, fun hlast => ?_⟩
  · simpa using hrun.disabled hlast
  · simpa using hrun.broken hlast
  · simpa using hrun.busy hlast

/-- A connector that the state machine holds for available is neither disabled nor faulted nor
in use, if no DISABLE came while it was occupied and no TRANSACTION_STARTED while it was disabled
or faulted; and an EVSE is available only if one of its connectors is such, if none of them is
disabled and faulted at once. -/
theorem available_connector_offerable (evse : EVSEContext)
    (histories : List (List ConnectorEvent))
    (hstates : List.Forall₂ (fun c events => c.state = run next .available events)
      evse.connectors histories)
    (hheard : ∀ events ∈ histories, AllSteps next Heard .available events) :
    (∀ events ∈ histories, run next .available events = .available →
      Offerable events) ∧
    ((∀ c ∈ evse.connectors, c.state ≠ .unavailableFaulted) → evse.isAvailable = true →
      ∃ events ∈ histories, Offerable events) := by
  refine ⟨fun events hmem => offerable_of_run (hheard events hmem), ?_⟩
  intro hconns havail
  unfold EVSEContext.isAvailable at havail
  split_ifs at havail with hto hidentifier hocc
  obtain ⟨c, hc, hstate⟩ := List.any_eq_true.1 havail
  have hfree : c.isOccupied = false := by
    rw [Bool.not_eq_true, List.any_eq_false] at hocc
    simpa using hocc c hc
  have hfaulted := hconns c hc
  have hstate : c.state = .available := by
    cases hc : c.state <;> simp_all [Connector.isOccupied]
  obtain ⟨i, hi, rfl⟩ := List.getElem_of_mem hc
  have hlen := hstates.length_eq
  refine ⟨histories[i], List.getElem_mem (hlen ▸ hi), ?_⟩
  refine offerable_of_run (hheard _ (List.getElem_mem _)) ?_
  have hrun : evse.connectors[i].state = run next .available histories[i] :=
    hstates.get hi (hlen ▸ hi)
  exact hrun.symm.trans hstate

/-- A connector that is disabled and enabled again, beside one that is faulted. -/
theorem repaired_evse_offerable :
    ∃ events ∈ [[ConnectorEvent.disable, .enable], [.faulted]], Offerable events :=
  (available_connector_offerable
    { connectors := [{ id := 1 }, { id := 2, state := .faulted }] }
    [[.disable, .enable], [.faulted]]
    (.cons rfl (.cons rfl .nil)) (by decide)).2 (by decide) (by decide)

/-- The DISABLE of an occupied connector is forgotten when its session ends, and an EVSE whose
only connector is disabled and faulted counts as available. -/
theorem disabled_connector_offered :
    (run next .available [.transactionStarted, .disable, .sessionFinished] =
      .available ∧ ¬Offerable [.transactionStarted, .disable, .sessionFinished]) ∧
    (({ connectors := [{ id := 1, state := .unavailableFaulted }] } : EVSEContext).isAvailable =
      true ∧ run next .available [.disable, .faulted] = .unavailableFaulted ∧
      ¬Offerable [.disable, .faulted]) := by
  refine ⟨⟨by decide, fun h => h.enabled (by decide)⟩, by decide, by decide, ?_⟩
  exact fun h => h.enabled (by decide)

end Everest.Auth
