import Everest.Evse.ErrorHandling

namespace Everest.Evse
open Runs List

/-- An active error that is not on the ignore list of its source. -/
def PreventsCharging (cfg : ErrorHandlingConfig) (s : ErrorHandling) (e : Error) : Prop :=
  ∃ source, cfg.connected source = true ∧ e ∈ s.active source ∧ e.type ∉ ignoreErrors source

def ErrorHandling.lastSignal (s : ErrorHandling) : Option ErrorHandlingEvents :=
  s.signals.find? (· ≠ .allErrorCleared)

def shutdownSignal (fatal : List Error) : ErrorHandlingEvents :=
  if isEmergency fatal then .forceEmergencyShutdown else .forceErrorShutdown

/-- The error raised and the signal sent say what the active errors say. -/
structure SignalsMatch (cfg : ErrorHandlingConfig) (s : ErrorHandling) : Prop where
  inoperative : s.isInoperative = true ↔ ∃ e, PreventsCharging cfg s e
  emergency : (∃ e, PreventsCharging cfg s e ∧ e.severity = .high) →
    s.lastSignal = some .forceEmergencyShutdown
  error : (∃ e, PreventsCharging cfg s e) →
    (¬ ∃ e, PreventsCharging cfg s e ∧ e.severity = .high) →
      s.lastSignal = some .forceErrorShutdown
  cleared : (¬ ∃ e, PreventsCharging cfg s e) →
    s.lastSignal = none ∨ s.lastSignal = some .allErrorsPreventingChargingCleared

variable {errors : List Error} {type subType : String} {e error : Error} {position : ℕ}

lemma isErrorActive_iff :
    isErrorActive errors type subType = true ↔
      ∃ e ∈ errors, e.type = type ∧ e.subType = subType := by
  simp [isErrorActive]

lemma mem_clearError :
    e ∈ clearError type subType errors ↔ e ∈ errors ∧ ¬ (e.type = type ∧ e.subType = subType) := by
  rw [clearError, mem_filter]
  refine and_congr_right fun _ => ?_
  rw [Bool.not_eq_true', ← Bool.not_eq_true, Bool.and_eq_true, beq_iff_eq, beq_iff_eq]

lemma clearError_of_not_active (h : isErrorActive errors type subType = false) :
    clearError type subType errors = errors := by
  apply filter_eq_self.2
  intro e he
  have hne := mt isErrorActive_iff.2 (by rw [h]; simp : ¬ isErrorActive errors type subType = true)
  simp only [not_exists, not_and] at hne
  by_cases ht : e.type = type
  · simp [ht, hne e he ht]
  · simp [ht]

lemma mem_raiseError (h : e ∈ raiseError error position errors) : e = error ∨ e ∈ errors := by
  unfold raiseError at h
  split_ifs at h
  · exact .inr h
  · rcases mem_append.1 h with h | h
    · exact .inr (mem_of_mem_take h)
    · rcases mem_cons.1 h with rfl | h
      · exact .inl rfl
      · exact .inr (mem_of_mem_drop h)

lemma subset_raiseError (h : e ∈ errors) : e ∈ raiseError error position errors := by
  unfold raiseError
  split_ifs
  · exact h
  · rw [← take_append_drop position errors] at h
    rcases mem_append.1 h with h | h
    · exact mem_append_left _ h
    · exact mem_append_right _ (mem_cons_of_mem _ h)

namespace ErrorHandling

variable {cfg : ErrorHandlingConfig} {s : ErrorHandling}

lemma mem_errorsPreventCharging : e ∈ s.errorsPreventCharging cfg ↔ PreventsCharging cfg s e := by
  simp only [errorsPreventCharging, mem_flatMap, mem_filter, decide_eq_true_eq,
    getActiveErrors, PreventsCharging]
  constructor
  · rintro ⟨source, -, he, hignore⟩
    split_ifs at he with hc
    · exact ⟨source, hc, he, hignore⟩
    · cases he
  · rintro ⟨source, hc, he, hignore⟩
    exact ⟨source, by cases source <;> simp [sources], by rwa [if_pos hc], hignore⟩

variable {source : ErrorSource} {after s' : ErrorHandling} {error : Error}

structure OwnChange (before after : ErrorHandling) : Prop where
  others : ∀ source, source ≠ .evse → after.active source = before.active source
  evse : clearError inoperative "" (after.active .evse) =
    clearError inoperative "" (before.active .evse)

lemma OwnChange.refl (s : ErrorHandling) : OwnChange s s := ⟨fun _ _ => rfl, rfl⟩

lemma OwnChange.preventsCharging (h : OwnChange s after) :
    PreventsCharging cfg after e ↔ PreventsCharging cfg s e := by
  have hevse (l : List Error) (hl : e.type ∉ ignoreErrors .evse) :
      e ∈ l ↔ e ∈ clearError inoperative "" l := by
    rw [mem_clearError]
    have ht : e.type ≠ inoperative := by simpa [ignoreErrors] using hl
    simp [ht]
  refine exists_congr fun source => and_congr_right fun _ => ?_
  by_cases hs : source = .evse
  · subst hs
    refine and_congr_left fun hl => ?_
    rw [hevse _ hl, h.evse, ← hevse _ hl]
  · rw [h.others source hs]

inductive Update (cfg : ErrorHandlingConfig) (s : ErrorHandling) : ErrorHandling → Prop
  | quiet : s.errorsPreventCharging cfg = [] → s.isInoperative = false → Update cfg s s
  | clear {after : ErrorHandling} : s.errorsPreventCharging cfg = [] → s.isInoperative = true →
      after.active .evse = clearError inoperative "" (s.active .evse) →
      after.signals = .allErrorsPreventingChargingCleared :: s.signals → Update cfg s after
  | same : s.errorsPreventCharging cfg ≠ [] → s.isInoperative = true →
      sameCauses (.ofList (s.errorsPreventCharging cfg)) s.inoperativeCauses = true →
      Update cfg s s
  | raise {after : ErrorHandling} : s.errorsPreventCharging cfg ≠ [] →
      after.isInoperative = true →
      (s.isInoperative = true →
        sameCauses (.ofList (s.errorsPreventCharging cfg)) s.inoperativeCauses = false) →
      after.signals = (if s.isInoperative = false ∨
          isEmergency (s.errorsPreventCharging cfg) ≠ isEmergency s.inoperativeCauses.toList then
        shutdownSignal (s.errorsPreventCharging cfg) :: s.signals else s.signals) →
      Update cfg s after

lemma Update.isInoperative_iff (h : Update cfg s after) :
    after.isInoperative = true ↔ s.errorsPreventCharging cfg ≠ [] := by
  cases h with
  | quiet hnil hquiet => simp [hnil, hquiet]
  | clear hnil _ hevse =>
    have hafter : after.isInoperative = false := by
      rw [isInoperative, hevse, Bool.eq_false_iff]
      intro h
      obtain ⟨e, he, ht⟩ := isErrorActive_iff.1 h
      exact (mem_clearError.1 he).2 ht
    simp [hnil, hafter]
  | same hne hraised | raise hne hraised => simp [hne, hraised]

attribute [local simp] ErrorHandling.modifyEvse

lemma OwnChange.modifyEvse {before : ErrorHandling} (h : OwnChange before s)
    {f : List Error → List Error}
    (hf : ∀ l, clearError inoperative "" (f l) = clearError inoperative "" l) :
    OwnChange before (s.modifyEvse f) := by
  refine ⟨?_, ?_⟩
  · intro source hs
    simpa [hs] using h.others source hs
  · rw [← h.evse, ← hf (s.active .evse)]
    simp

lemma clearError_raiseError (error : Error) (ht : error.type = inoperative)
    (hs : error.subType = "") (position : ℕ) (errors : List Error) :
    clearError inoperative "" (raiseError error position errors) =
      clearError inoperative "" errors := by
  unfold raiseError
  split_ifs
  · rfl
  · have hsplit := filter_append
      (p := fun e : Error => !(e.type == inoperative && e.subType == ""))
      (errors.take position) (errors.drop position)
    rw [take_append_drop] at hsplit
    simp only [clearError, filter_append, filter_cons, ht, hs] at hsplit ⊢
    simpa using hsplit.symm

lemma isInoperative_raise (ht : error.type = inoperative) (hs : error.subType = "") :
    (s.modifyEvse (raiseError error position)).isInoperative = true := by
  have h : isErrorActive (raiseError error position (s.active .evse)) error.type error.subType := by
    unfold raiseError
    split_ifs with h
    · exact h
    · exact isErrorActive_iff.2 ⟨error, by simp, rfl, rfl⟩
  rw [ht, hs] at h
  simpa [isInoperative] using h

lemma updateInoperative_spec (cfg : ErrorHandlingConfig) (s : ErrorHandling) :
    Update cfg s (s.updateInoperative cfg) ∧ OwnChange s (s.updateInoperative cfg) := by
  have hclear : OwnChange s (s.modifyEvse (clearError inoperative "")) :=
    (OwnChange.refl s).modifyEvse fun _ => by simp [clearError, filter_filter]
  unfold updateInoperative
  dsimp only
  split_ifs with hfatal
  · obtain ⟨primary, others, hcauses⟩ := exists_cons_of_ne_nil hfatal
    have hbase : OwnChange s
          (if s.isInoperative = true then s.modifyEvse (clearError inoperative "") else s) ∧
        (if s.isInoperative = true then s.modifyEvse (clearError inoperative "") else s).signals =
          s.signals := by
      split_ifs
      · exact ⟨hclear, rfl⟩
      · exact ⟨.refl s, rfl⟩
    unfold raiseInoperativeError
    rw [hcauses]
    dsimp only
    generalize (if s.isInoperative = true then s.modifyEvse (clearError inoperative "") else s) =
      base at hbase
    by_cases hsame : (s.isInoperative &&
        sameCauses (.ofList (primary :: others)) s.inoperativeCauses) = true
    · rw [if_pos hsame]
      rw [Bool.and_eq_true, ← hcauses] at hsame
      exact ⟨.same hfatal hsame.1 hsame.2, .refl s⟩
    · rw [if_neg hsame]
      have hown := hbase.1.modifyEvse
        (clearError_raiseError (inoperativeError cfg primary others) rfl rfl 0)
      have hraised : (base.modifyEvse
          (raiseError (inoperativeError cfg primary others) 0)).isInoperative = true :=
        isInoperative_raise rfl rfl
      have hnew : s.isInoperative = true →
          sameCauses (.ofList (s.errorsPreventCharging cfg)) s.inoperativeCauses = false := by
        intro h
        rw [hcauses]
        simpa [h] using hsame
      have hcond : ((!s.isInoperative || isEmergency (primary :: others) !=
          isEmergency s.inoperativeCauses.toList) = true) ↔ (s.isInoperative = false ∨
            isEmergency (s.errorsPreventCharging cfg) ≠
              isEmergency s.inoperativeCauses.toList) := by
        rw [hcauses]
        simp
      by_cases hsig : (!s.isInoperative || isEmergency (primary :: others) !=
          isEmergency s.inoperativeCauses.toList) = true
      · rw [if_pos hsig]
        refine ⟨.raise hfatal hraised hnew ?_, hown.others, hown.evse⟩
        rw [if_pos (hcond.1 hsig), hcauses]
        exact congrArg (_ :: ·) hbase.2
      · rw [if_neg hsig]
        refine ⟨.raise hfatal hraised hnew ?_, hown.others, hown.evse⟩
        rw [if_neg (mt hcond.2 hsig)]
        exact hbase.2
  · rw [not_not] at hfatal
    unfold clearInoperativeError
    split_ifs with hraised
    · exact ⟨.clear hfatal hraised (by simp [signalError]) rfl,
        hclear.others, hclear.evse⟩
    · rw [Bool.not_eq_true] at hraised
      exact ⟨.quiet hfatal hraised, .refl s⟩

lemma errorCount_eq_zero : s.errorCount cfg = 0 ↔
    ∀ source, source ≠ .overVoltageMonitor → cfg.connected source = true →
      s.active source = [] := by
  have hcounted (source : ErrorSource) :
      source ∈ countedSources ↔ source ≠ .overVoltageMonitor := by
    cases source <;> simp [countedSources]
  simp only [errorCount, List.sum_eq_zero_iff_forall_eq_nat, List.forall_mem_map,
    List.length_eq_zero_iff, hcounted, getActiveErrors]
  refine forall_congr' fun source => imp_congr_right fun _ => ?_
  split_ifs with hc <;> simp [hc]

/-- As long as the EVSE is inoperative, not all errors are cleared. -/
theorem isInoperative_of_errorCount (h : s.errorCount cfg = 0) : s.isInoperative = false := by
  have hevse := errorCount_eq_zero.1 h .evse (by simp) cfg.evse_connected
  simp [isInoperative, isErrorActive, hevse]

lemma lastSignal_eq (h : s'.signals = s.signals) : s'.lastSignal = s.lastSignal := by
  rw [lastSignal, h, lastSignal]

lemma lastSignal_cons {event : ErrorHandlingEvents} (h : s'.signals = event :: s.signals)
    (hne : event ≠ .allErrorCleared) : s'.lastSignal = some event := by
  simp [lastSignal, h, hne]

lemma shutdownSignal_ne (fatal : List Error) : shutdownSignal fatal ≠ .allErrorCleared := by
  unfold shutdownSignal
  split_ifs <;> simp

lemma lastSignal_signal_allErrorCleared :
    (s.signalError .allErrorCleared).lastSignal = s.lastSignal := by
  simp [lastSignal, signalError]

lemma processError_core (cfg : ErrorHandlingConfig) (s : ErrorHandling) :
    (s.processError cfg).active = (s.updateInoperative cfg).active ∧
      (s.processError cfg).lastSignal = (s.updateInoperative cfg).lastSignal := by
  unfold processError
  dsimp only
  split_ifs
  · exact ⟨rfl, lastSignal_signal_allErrorCleared⟩
  · exact ⟨rfl, rfl⟩

structure LogOk (s : ErrorHandling) : Prop where
  raised : s.isInoperative = true →
    s.signals.head? = some .forceEmergencyShutdown ∨ s.signals.head? = some .forceErrorShutdown
  quiet : s.isInoperative = false →
    s.lastSignal = none ∨ s.lastSignal = some .allErrorsPreventingChargingCleared

lemma LogOk.empty : LogOk {} := ⟨by decide, fun _ => .inl rfl⟩

lemma LogOk.updateInoperative (h : LogOk s) (cfg : ErrorHandlingConfig) :
    LogOk (s.updateInoperative cfg) := by
  have hspec := (updateInoperative_spec cfg s).1
  have hinop := hspec.isInoperative_iff
  generalize s.updateInoperative cfg = after at hspec hinop
  cases hspec with
  | quiet | same => exact h
  | clear hnil _ _ hsigs =>
    refine ⟨fun hr => absurd hnil (hinop.1 hr), ?_⟩
    intro _
    exact .inr (lastSignal_cons hsigs (by simp))
  | raise _ hraised _ hsigs =>
    refine ⟨?_, fun hr => absurd (hr.symm.trans hraised) (by simp)⟩
    intro _
    rw [hsigs]
    split_ifs with hnew
    · unfold shutdownSignal
      split_ifs <;> simp
    · rw [not_or, Bool.not_eq_false] at hnew
      exact h.raised hnew.1

lemma LogOk.processError (h : LogOk s) (cfg : ErrorHandlingConfig) :
    LogOk (s.processError cfg) := by
  have hup := h.updateInoperative cfg
  unfold ErrorHandling.processError
  dsimp only
  split_ifs with hcount
  · have hinop := isInoperative_of_errorCount hcount
    refine ⟨fun hr => absurd (hr.symm.trans hinop) (by simp), ?_⟩
    intro _
    rw [lastSignal_signal_allErrorCleared]
    exact hup.quiet hinop
  · exact hup

lemma isInoperative_update
    (h : source = .evse → isErrorActive errors inoperative "" =
      isErrorActive (s.active .evse) inoperative "") :
    ({ s with active := Function.update s.active source errors } : ErrorHandling).isInoperative =
      s.isInoperative := by
  unfold isInoperative
  by_cases hs : source = .evse
  · subst hs
    simpa using h rfl
  · simp [Function.update_of_ne (Ne.symm hs)]

lemma LogOk.step (h : LogOk s) (cfg : ErrorHandlingConfig) (input : ErrorInput) :
    LogOk (s.step cfg input) := by
  have hkeep {source : ErrorSource} {errors : List Error} (hs : source = .evse →
      isErrorActive errors inoperative "" = isErrorActive (s.active .evse) inoperative "") :
      LogOk { s with active := Function.update s.active source errors } := by
    have hinop := isInoperative_update hs
    exact ⟨fun hr => h.raised (hinop ▸ hr), fun hq => h.quiet (hinop ▸ hq)⟩
  cases input with
  | raise source error position =>
    unfold ErrorHandling.step
    dsimp only
    split_ifs with hown
    · exact h
    · apply hkeep
      rintro rfl
      rw [Bool.eq_iff_iff, isErrorActive_iff, isErrorActive_iff]
      constructor
      · rintro ⟨e, he, hmatch⟩
        rcases mem_raiseError he with rfl | he
        · exact absurd hmatch.1 (by simpa [ownError] using hown)
        · exact ⟨e, he, hmatch⟩
      · rintro ⟨e, he, hmatch⟩
        exact ⟨e, subset_raiseError he, hmatch⟩
  | clear source type subType =>
    unfold ErrorHandling.step
    dsimp only
    split_ifs with hown
    · exact h
    · apply hkeep
      rintro rfl
      rw [Bool.eq_iff_iff, isErrorActive_iff, isErrorActive_iff]
      constructor
      · rintro ⟨e, he, hmatch⟩
        exact ⟨e, (mem_clearError.1 he).1, hmatch⟩
      · rintro ⟨e, he, hmatch⟩
        refine ⟨e, mem_clearError.2 ⟨he, ?_⟩, hmatch⟩
        rintro ⟨rfl, -⟩
        simp [ownError, hmatch.1] at hown
  | processError => exact h.processError cfg

/-- The kind of shutdown that the active errors ask for is not the one signalled last, and it goes
unnoticed: their types and sub-types are those remembered, or the remembered errors ask for the
same kind. -/
def StaleShutdown (cfg : ErrorHandlingConfig) (s : ErrorHandling) : Prop :=
  s.isInoperative = true ∧ s.errorsPreventCharging cfg ≠ [] ∧
    s.lastSignal ≠ some (shutdownSignal (s.errorsPreventCharging cfg)) ∧
    (sameCauses (.ofList (s.errorsPreventCharging cfg)) s.inoperativeCauses = true ∨
      isEmergency (s.errorsPreventCharging cfg) = isEmergency s.inoperativeCauses.toList)

lemma isEmergency_iff : isEmergency (s.errorsPreventCharging cfg) = true ↔
    ∃ e, PreventsCharging cfg s e ∧ e.severity = .high := by
  simp only [isEmergency, any_eq_true, decide_eq_true_eq, mem_errorsPreventCharging]

lemma errorsPreventCharging_ne_nil :
    s.errorsPreventCharging cfg ≠ [] ↔ ∃ e, PreventsCharging cfg s e := by
  simp only [← mem_errorsPreventCharging (s := s)]
  exact ⟨exists_mem_of_ne_nil _, fun ⟨_, he⟩ => ne_nil_of_mem he⟩

lemma signalsMatch_iff : SignalsMatch cfg s ↔
    (s.isInoperative = true ↔ s.errorsPreventCharging cfg ≠ []) ∧
      (s.errorsPreventCharging cfg ≠ [] →
        s.lastSignal = some (shutdownSignal (s.errorsPreventCharging cfg))) ∧
      (s.errorsPreventCharging cfg = [] →
        s.lastSignal = none ∨ s.lastSignal = some .allErrorsPreventingChargingCleared) := by
  have hnone : s.errorsPreventCharging cfg = [] ↔ ¬ ∃ e, PreventsCharging cfg s e := by
    rw [← errorsPreventCharging_ne_nil, not_not]
  constructor
  · intro h
    refine ⟨h.inoperative.trans errorsPreventCharging_ne_nil.symm, ?_, ?_⟩
    · intro hfatal
      unfold shutdownSignal
      split_ifs with hhigh
      · exact h.emergency (isEmergency_iff.1 hhigh)
      · exact h.error (errorsPreventCharging_ne_nil.1 hfatal) (mt isEmergency_iff.2 hhigh)
    · exact fun hfatal => h.cleared (hnone.1 hfatal)
  · rintro ⟨hinop, hsig, hcleared⟩
    refine ⟨hinop.trans errorsPreventCharging_ne_nil, ?_, ?_, fun h => hcleared (hnone.2 h)⟩
    · intro hhigh
      rw [hsig (errorsPreventCharging_ne_nil.2 (hhigh.imp fun _ h => h.1)), shutdownSignal,
        if_pos (isEmergency_iff.2 hhigh)]
    · intro hfatal hlow
      rw [hsig (errorsPreventCharging_ne_nil.2 hfatal), shutdownSignal,
        if_neg (mt isEmergency_iff.1 hlow)]

lemma OwnChange.shutdownSignal (h : OwnChange s after) (cfg : ErrorHandlingConfig) :
    (after.errorsPreventCharging cfg ≠ [] ↔ s.errorsPreventCharging cfg ≠ []) ∧
      Evse.shutdownSignal (after.errorsPreventCharging cfg) =
        Evse.shutdownSignal (s.errorsPreventCharging cfg) := by
  have hemergency : isEmergency (after.errorsPreventCharging cfg) =
      isEmergency (s.errorsPreventCharging cfg) := by
    rw [Bool.eq_iff_iff, isEmergency_iff, isEmergency_iff]
    simp only [h.preventsCharging]
  refine ⟨?_, by rw [Evse.shutdownSignal, hemergency, Evse.shutdownSignal]⟩
  rw [errorsPreventCharging_ne_nil, errorsPreventCharging_ne_nil]
  simp only [h.preventsCharging]

lemma processError_ownChange (cfg : ErrorHandlingConfig) (s : ErrorHandling) :
    OwnChange s (s.processError cfg) := by
  obtain ⟨hact, -⟩ := processError_core cfg s
  have hown := (updateInoperative_spec cfg s).2
  refine ⟨?_, ?_⟩
  · intro source hs
    rw [hact]
    exact hown.others source hs
  · rw [hact]
    exact hown.evse

lemma isInoperative_processError : (s.processError cfg).isInoperative = true ↔
    s.errorsPreventCharging cfg ≠ [] := by
  rw [← (updateInoperative_spec cfg s).1.isInoperative_iff, isInoperative,
    (processError_core cfg s).1, isInoperative]

lemma processError_match_iff (h : LogOk s) :
    SignalsMatch cfg (s.processError cfg) ↔ ¬ StaleShutdown cfg s := by
  obtain ⟨-, hlast⟩ := processError_core cfg s
  obtain ⟨hfatal, hsig⟩ := (processError_ownChange cfg s).shutdownSignal cfg
  have hnil : (s.processError cfg).errorsPreventCharging cfg = [] ↔
      s.errorsPreventCharging cfg = [] := not_iff_not.1 hfatal
  have hspec := (updateInoperative_spec cfg s).1
  rw [signalsMatch_iff, isInoperative_processError, hfatal, hsig, hnil, hlast]
  generalize s.updateInoperative cfg = after at hspec
  unfold StaleShutdown
  cases hspec with
  | quiet hnil hquiet => simp [hnil, hquiet, h.quiet hquiet]
  | clear hnil _ _ hsigs => simp [hnil, lastSignal_cons hsigs]
  | same hne hraised hsame => simp [hne, hraised, hsame]
  | raise hne _ hnew hsigs =>
    by_cases hcond : s.isInoperative = false ∨
        isEmergency (s.errorsPreventCharging cfg) ≠ isEmergency s.inoperativeCauses.toList
    · rw [if_pos hcond] at hsigs
      have hstale : ¬ (s.isInoperative = true ∧
          (sameCauses (.ofList (s.errorsPreventCharging cfg)) s.inoperativeCauses = true ∨
            isEmergency (s.errorsPreventCharging cfg) =
              isEmergency s.inoperativeCauses.toList)) := by
        rintro ⟨hold, hsame | hsame⟩
        · exact absurd (hsame.symm.trans (hnew hold)) (by simp)
        · exact hcond.elim (fun h => absurd (h.symm.trans hold) (by simp)) (fun h => h hsame)
      simp only [hne, lastSignal_cons hsigs (shutdownSignal_ne _), ne_eq, not_false_eq_true,
        false_implies, and_true, true_and, implies_true, true_iff]
      exact fun h => hstale ⟨h.1, h.2.2⟩
    · rw [if_neg hcond] at hsigs
      rw [not_or, Bool.not_eq_false, not_not] at hcond
      simp [hne, lastSignal_eq hsigs, hcond.1, hcond.2]

/-- The signals match after every `process_error` exactly if none of them meets a stale
shutdown. -/
theorem shutdown_signal_matches_iff (cfg : ErrorHandlingConfig) (inputs : List ErrorInput) :
    AllSteps (step cfg) (fun s input => input = .processError → SignalsMatch cfg (s.step cfg input))
        {} inputs ↔
      AllSteps (step cfg) (fun s input => input = .processError → ¬ StaleShutdown cfg s)
        {} inputs := by
  have hinit : LogOk {} := .empty
  constructor
  · refine AllSteps.of_inv ?_ hinit
    intro s input h hmatch
    refine ⟨?_, h.step cfg input⟩
    rintro rfl
    exact (processError_match_iff h).1 (hmatch rfl)
  · refine AllSteps.of_inv ?_ hinit
    intro s input h hstale
    refine ⟨?_, h.step cfg input⟩
    rintro rfl
    exact (processError_match_iff h).2 (hstale rfl)

def communicationFault (severity : Severity) : Error :=
  { type := "generic/CommunicationFault", severity := severity }

def allConnected : ErrorHandlingConfig where
  connected := fun _ => true
  inoperativeErrorUseVendorId := false
  evse_connected := rfl
  bsp_connected := rfl

/-- A fault of medium severity is cleared and raised again with high severity before
`process_error` runs, or joined by one of high severity from another source: the charger is not
told to make an emergency shutdown. -/
theorem shutdown_signal_stale :
    let s := run (step allConnected) {}
      [.raise .slac (communicationFault .medium) 0, .processError,
        .clear .slac "generic/CommunicationFault" "",
        .raise .slac (communicationFault .high) 0, .processError]
    let s' := run (step allConnected) {}
      [.raise .slac (communicationFault .medium) 0, .processError,
        .raise .hlc (communicationFault .high) 0, .processError]
    (s.errorsPreventCharging allConnected = [communicationFault .high] ∧
        s.lastSignal = some .forceErrorShutdown) ∧
      s'.errorsPreventCharging allConnected =
          [communicationFault .medium, communicationFault .high] ∧
        s'.lastSignal = some .forceErrorShutdown := by
  decide +kernel

end ErrorHandling

end Everest.Evse
