import Everest.Evse.Charger.States

namespace Everest.Evse.Charger

open Runs

inductive Pulse
  | start | stop
  deriving DecidableEq

def pulse (c : Charger) : Pulse × Env → Charger
  | (.start, env) => c.bcbToggleDetectStartPulse env
  | (.stop, env) => c.bcbToggleDetectStopPulse env

def ValidLength (length : ℤ) : Prop :=
  tpEvValdStateDurationMin < length ∧ length < tpEvValdStateDurationMax

instance : DecidablePred ValidLength := fun _ => inferInstanceAs (Decidable (_ ∧ _))

/-- The latest completed pulse has a valid length. -/
def lastValid (lengths : List ℤ) : Bool := lengths.head?.any (ValidLength ·)

structure Measured where
  /-- The latest start pulse. -/
  start : Option ℤ := none
  /-- The lengths of the completed pulses, the latest first. -/
  lengths : List ℤ := []
  /-- The start pulse that began the sequence: the latest one that follows no valid pulse. -/
  sequence : Option ℤ := none

def measure (measured : Measured) : Pulse × Env → Measured
  | (.start, env) =>
    { measured with
      start := some env.steady
      sequence := if lastValid measured.lengths then measured.sequence else some env.steady }
  | (.stop, env) =>
    { measured with
      lengths := (measured.start.map (env.steady - ·)).toList ++ measured.lengths }

def measured (pulses : List (Pulse × Env)) : Measured := pulses.foldl measure {}

/-- A pulse of a valid length that no invalid pulse follows. -/
def ValidToggle (lengths : List ℤ) : Prop :=
  ∃ later length earlier, lengths = later ++ length :: earlier ∧
    ∀ l ∈ length :: later, ValidLength l

/-- The latest completed pulse is valid, or the query comes in time after the start pulse that
began the sequence, if there was one. -/
def InTime (pulses : List (Pulse × Env)) (env : Env) : Prop :=
  lastValid (measured pulses).lengths ∨
    ∀ t ∈ (measured pulses).sequence, env.steady - t ≤ ttEvseValdToggle

structure Counted (seen : Measured) (c : Charger) : Prop where
  started : c.internal.hlcBcbSequenceStarted = seen.start.isSome
  start : ∀ t ∈ seen.start, c.internal.hlcEvPauseStartOfBcb = t
  sequence : seen.sequence =
    if seen.start.isSome then some c.internal.hlcEvPauseStartOfBcbSequence else none
  count : 0 < c.internal.hlcEvPauseBcbCount ↔ lastValid seen.lengths
  unstarted : seen.start = none → seen.lengths = []

variable {seen : Measured} {c : Charger}

lemma Counted.pulse (h : Counted seen c) (p : Pulse × Env) :
    Counted (measure seen p) (c.pulse p) := by
  obtain ⟨start?, lengths, sequence⟩ := seen
  obtain ⟨_ | _, env⟩ := p
  · simp only [Charger.pulse, bcbToggleDetectStartPulse, measure]
    split_ifs with hvalid hcount hcount
    · exact absurd (h.count.2 hvalid) (by simp [hcount])
    · -- a pulse that counts was started
      cases start? with
      | none =>
        obtain rfl : lengths = [] := h.unstarted rfl
        cases hvalid
      | some => exact ⟨h.started, by simp, h.sequence, h.count, by simp⟩
    · exact ⟨rfl, by simp, by simp, h.count, by simp⟩
    · exact absurd (h.count.1 (Nat.pos_of_ne_zero hcount)) hvalid
  · simp only [Charger.pulse, bcbToggleDetectStopPulse, measure]
    cases start? with
    | none =>
      rw [if_pos (by simp [h.started])]
      exact h
    | some t =>
      have hvalid : ValidLength (env.steady - t) ↔
          tpEvValdStateDurationMin < env.steady - c.internal.hlcEvPauseStartOfBcb ∧
            env.steady - c.internal.hlcEvPauseStartOfBcb < tpEvValdStateDurationMax := by
        rw [h.start t rfl, ValidLength]
      rw [if_neg (by simp [h.started])]
      split_ifs with hlen
      · exact ⟨h.started, h.start, h.sequence, by simpa [lastValid] using hvalid.2 hlen, by simp⟩
      · exact ⟨h.started, h.start, h.sequence, by simpa [lastValid, hvalid] using hlen, by simp⟩

lemma counted_run {pulses : List (Pulse × Env)} :
    Counted (measured pulses) (run pulse c.bcbToggleReset pulses) := by
  suffices h : ∀ seen c, Counted seen c →
      Counted (pulses.foldl measure seen) (run pulse c pulses) from
    h _ _ ⟨rfl, by simp, rfl, by simp [bcbToggleReset, lastValid], fun _ => rfl⟩
  induction pulses with
  | nil => exact fun _ _ h => h
  | cons p pulses ih => exact fun _ _ h => ih _ _ (h.pulse p)

lemma validToggle_iff {lengths : List ℤ} :
    ValidToggle lengths ↔ lastValid lengths = true := by
  simp only [lastValid, Option.any_eq_true, decide_eq_true_eq]
  constructor
  · rintro ⟨later, length, earlier, rfl, hvalid⟩
    cases later with
    | nil => exact ⟨length, rfl, hvalid length (by simp)⟩
    | cons l later => exact ⟨l, rfl, hvalid l (by simp)⟩
  · rintro ⟨l, hl, hvalid⟩
    obtain ⟨earlier, rfl⟩ := List.head?_eq_some_iff.1 hl
    exact ⟨[], l, earlier, rfl, by simpa using hvalid⟩

variable {env : Env}

lemma bcbToggleDetected_fst : (bcbToggleDetected env c).1 =
    decide (c.internal.hlcBcbSequenceStarted ∧
      (ttEvseValdToggle < env.steady - c.internal.hlcEvPauseStartOfBcbSequence ∨
        3 ≤ c.internal.hlcEvPauseBcbCount)) := by
  simp only [bcbToggleDetected]
  split_ifs with h <;> simp [h]

lemma pausedEVHlc_currentState : (c.pausedEVHlc env).shared.currentState =
      if (bcbToggleDetected env c).1 || c.internal.hlcSessionRestartedByEv then .prepareCharging
      else c.shared.currentState := by
  have hsame : (bcbToggleDetected env
      { c with internal.hlcSessionRestartedByEv := false }).1 = (bcbToggleDetected env c).1 := by
    rw [bcbToggleDetected_fst, bcbToggleDetected_fst]
  have hrestarts : (c.restartByEv env).shared.currentState =
      if (bcbToggleDetected env c).1 || c.internal.hlcSessionRestartedByEv then .prepareCharging
      else c.shared.currentState := by
    unfold restartByEv
    dsimp only
    rw [hsame]
    by_cases h : ((bcbToggleDetected env c).1 || c.internal.hlcSessionRestartedByEv) = true
    · rw [if_pos h, if_pos h]
      rfl
    · rw [if_neg h, if_neg h]
      simp only [bcbToggleDetected]
      split_ifs <;> rfl
  rw [← hrestarts, pausedEVHlc]
  split_ifs <;> rfl

/-- The toggles are recognised as they should be, and only they resume the session, exactly if the
latest completed pulse is valid or the query does not come too late after the start pulse that
began the sequence. -/
theorem wakeup_needs_valid_toggle_iff (c : Charger) (pulses : List (Pulse × Env)) (env : Env) :
    let paused := run pulse c.bcbToggleReset pulses
    ((bcbToggleDetected env paused).1 → ValidToggle (measured pulses).lengths) ∧
      ((∀ l ∈ (measured pulses).lengths, ¬ValidLength l) →
        ¬paused.internal.hlcSessionRestartedByEv →
        (paused.pausedEVHlc env).shared.currentState = paused.shared.currentState) ↔
      InTime pulses env := by
  intro paused
  have hseen : Counted (measured pulses) paused := counted_run
  have hsequence := hseen.sequence
  rw [← hseen.started] at hsequence
  rw [InTime, ← validToggle_iff]
  constructor
  · rintro ⟨hdetected, -⟩
    by_cases hstarted : paused.internal.hlcBcbSequenceStarted = true
    · rw [hsequence, if_pos hstarted]
      by_cases hlong : ttEvseValdToggle <
          env.steady - paused.internal.hlcEvPauseStartOfBcbSequence
      · refine .inl (hdetected ?_)
        rw [bcbToggleDetected_fst, decide_eq_true_eq]
        exact ⟨hstarted, .inl hlong⟩
      · exact .inr (by simpa using hlong)
    · rw [hsequence, if_neg hstarted]
      exact .inr (by simp)
  · intro hintime
    have hvalid : (bcbToggleDetected env paused).1 → ValidToggle (measured pulses).lengths := by
      rw [bcbToggleDetected_fst, decide_eq_true_eq]
      rintro ⟨hstarted, hlong | hthree⟩
      · refine hintime.resolve_right fun hshort => ?_
        rw [hsequence, if_pos hstarted] at hshort
        have := hshort _ rfl
        omega
      · exact validToggle_iff.2 (hseen.count.1 (by omega))
    refine ⟨hvalid, fun hinvalid hrestart => ?_⟩
    rw [pausedEVHlc_currentState, if_neg]
    rw [Bool.or_eq_true, not_or]
    refine ⟨fun hdetected => ?_, hrestart⟩
    obtain ⟨later, l, earlier, heq, hl⟩ := hvalid hdetected
    exact hinvalid l (by simp [heq]) (hl l (by simp))

def longPulse : List (Pulse × Env) := [(.start, {}), (.stop, { steady := 1000 })]

theorem longPulse_resumes_session :
    (∀ l ∈ (measured longPulse).lengths, ¬ValidLength l) ∧
      ((run pulse ({ shared.currentState := .chargingPausedEV } : Charger).bcbToggleReset
        longPulse).pausedEVHlc { steady := 3701 }).shared.currentState = .prepareCharging := by
  decide

end Everest.Evse.Charger
