import Everest.Eebus.LpcUseCaseHandler
import Everest.Lib.Runs

namespace Everest.Eebus
open Runs Option

variable {now t : ℤ} {limit : LoadLimit}

lemma limitAt_of_inactive (hlimit : limit.isActive = false) (hnow : 0 ≤ now) (ht : now ≤ t) :
    limitAt (translateToExternalLimits now limit) t = none := by
  have hfirst := (rereadTime_le hnow).trans ht
  simp [translateToExternalLimits, limitAt, hlimit, Timeline.inForce, hfirst]

lemma limitAt_of_active (hlimit : limit.isActive) (hnow : 0 ≤ now) (ht : now ≤ t)
    (hend : 0 < limit.duration → t < rereadTime (now + limit.duration)) :
    limitAt (translateToExternalLimits now limit) t = some limit.value := by
  have hfirst : (⟨rereadTime now, some limit.value⟩ : ScheduleReqEntry).timestamp ≤ t :=
    (rereadTime_le hnow).trans ht
  rw [translateToExternalLimits, if_pos hlimit, limitAt,
    Timeline.inForce_cons_of_lt hfirst (by split <;> simp_all), bind_some]

/-- A limit with a duration that can pass, or with none. -/
def LoadLimit.timed (limit : LoadLimit) : Bool :=
  0 ≤ limit.duration && (!limit.deleteDuration || limit.duration = 0)

namespace LpcUseCaseHandler

inductive Input (Ski : Type)
  | tick (elapsed : ℕ)
  | event (elapsed : ℕ) (ski : Ski) (event : UseCaseEvent)

variable {Ski : Type} (h : LpcUseCaseHandler Ski)

def advance (elapsed : ℕ) : LpcUseCaseHandler Ski := { h with clock := h.clock + elapsed }

def limitEnd : Option ℤ :=
  h.currentLimit.bind fun limit =>
    if limit.deleteDuration || limit.duration = 0 then none
    else h.lastLimitReceived.map (· + limit.duration)

/-- The schedule published last gives, from now on, what the state prescribes, to the millisecond
in which a limit ends. -/
def Prescribed : Prop :=
  ∃ schedule ∈ h.published.head?,
    match h.state with
    | .init | .failsafe => ∀ t ≥ h.clock, limitAt schedule t = some h.writtenFailsafeLimit
    | .unlimitedControlled | .unlimitedAutonomous => ∀ t ≥ h.clock, limitAt schedule t = none
    | .limited => ∃ limit ∈ h.currentLimit, limit.isActive ∧ (∀ e ∈ h.limitEnd, h.clock < e) ∧
        ∀ t ≥ h.clock, (∀ e ∈ h.limitEnd, t < rereadTime e) → limitAt schedule t = some limit.value

/-- A stored limit that does not count has ended. -/
def stale : Bool :=
  (h.state = .failsafe || h.state = .unlimitedAutonomous) && h.limitIsActive && h.limitExpired

/-- A stored limit ends in the very run in which the heartbeat makes it count. -/
def lapses : Bool := h.stale && !h.heartbeatHasTimeout

/-- The same for the run that follows an event: a heartbeat is alive then, and a new limit takes
the place of the stored one. -/
def lapsesAt : UseCaseEvent → Bool
  | .dataUpdateHeartbeat => h.stale
  | .dataUpdateLimit (some _) => false
  | _ => h.lapses

/-- The event brings a limit with a sensible duration, or no failsafe limit that would have to
be published at once. -/
def admits : UseCaseEvent → Bool
  | .dataUpdateLimit (some limit) => limit.timed
  | .dataUpdateFailsafeConsumptionActivePowerLimit written ok =>
    !failsafeLimitIsValid written || written = h.failsafeControlLimit ||
      ok && h.state ≠ .init && h.state ≠ .failsafe
  | _ => true

def Shows : Prop :=
  ∃ p ≥ 0, p ≤ h.clock ∧
    h.published.head? = some (translateToExternalLimits p h.limitForCurrentState) ∧
    (h.state = .limited → ∀ r ∈ h.lastLimitReceived, r ≤ p)

/-- What holds of the data whenever the state machine runs, and after it. -/
structure Kept : Prop where
  clock : 0 ≤ h.clock
  started : h.initTimestamp.isSome
  timed : ∀ limit ∈ h.currentLimit, limit.timed ∧ ∃ r ∈ h.lastLimitReceived, 0 ≤ r ∧ r ≤ h.clock
  written : h.writtenFailsafeLimit = h.failsafeControlLimit

structure Ready : Prop extends Kept h where
  unchanged : h.stateChanged = false
  entering : h.limitIsActive → h.limitExpired → h.state = .limited ∨
    (h.state = .failsafe ∨ h.state = .unlimitedAutonomous) ∧ h.heartbeatHasTimeout
  held : h.state = .limited → h.currentLimit.isSome
  shows : h.limitValueChanged = false → h.Shows

structure Settled : Prop extends Kept h where
  init : h.state = .init → h.currentLimit.isSome = false
  controlled : h.state = .unlimitedControlled → h.limitIsActive = false
  limited : h.state = .limited → h.limitIsActive
  unexpired : h.limitExpired = false
  shows : h.stateChanged = false → h.limitValueChanged = false → h.Shows

structure Sound : Prop extends Settled h where
  published : h.stateChanged = false ∧ h.limitValueChanged = false

variable {h}

lemma Settled.publishChanges (hs : h.Settled) : h.publishChanges.Sound := by
  unfold LpcUseCaseHandler.publishChanges
  split_ifs with hchanged
  · refine { hs with
      published := ⟨rfl, rfl⟩, shows := fun _ _ => ⟨h.clock, hs.clock, le_rfl, rfl, ?_⟩ }
    intro hlimited r hr
    obtain ⟨limit, hlimit, -⟩ := (any_eq_true _ _).1 (hs.limited hlimited)
    obtain ⟨r', hr', -, hle⟩ := (hs.timed limit hlimit).2
    cases mem_unique hr hr'
    exact hle
  · simp only [Bool.or_eq_true, not_or, Bool.not_eq_true] at hchanged
    exact { hs with published := hchanged }

lemma Kept.setState_lost (hk : h.Kept) (newState : State) (hstate : h.state ≠ newState)
    (hnew : newState = .failsafe ∨ newState = .unlimitedAutonomous) :
    (h.setState newState).Settled := by
  simp only [setState, if_neg hstate, if_pos hnew]
  refine ⟨⟨?_, ?_, nofun, ?_⟩, fun _ => rfl, fun _ => rfl, ?_, rfl, ?_⟩ <;>
    rcases hnew with rfl | rfl <;> simp [hk.clock, hk.started, hk.written]

lemma Kept.setState_controlled (hk : h.Kept) (newState : State) (hstate : h.state ≠ newState)
    (hnew : newState = .limited ∧ h.limitIsActive ∨
      newState = .unlimitedControlled ∧ h.limitIsActive = false)
    (hexp : h.limitExpired = false) : (h.setState newState).Settled := by
  rcases hnew with ⟨rfl, hact⟩ | ⟨rfl, hact⟩ <;> simp only [setState, if_neg hstate]
  · exact ⟨⟨hk.clock, hk.started, hk.timed, hk.written⟩, nofun, nofun, fun _ => hact, hexp, nofun⟩
  · exact ⟨⟨hk.clock, hk.started, hk.timed, hk.written⟩, nofun, fun _ => hact, nofun, hexp, nofun⟩

lemma Kept.dropExpired (hk : h.Kept) : h.dropExpired.Kept := by
  unfold LpcUseCaseHandler.dropExpired
  split_ifs
  · exact ⟨hk.clock, hk.started, nofun, hk.written⟩
  · exact hk

lemma dropExpired_unexpired : h.dropExpired.limitExpired = false := by
  unfold dropExpired
  split_ifs with hexp
  · rfl
  · simpa using hexp

lemma dropExpired_active :
    h.dropExpired.limitIsActive = (h.limitIsActive && !h.limitExpired) := by
  unfold dropExpired
  split_ifs with hexp <;> simp [hexp, limitIsActive]

lemma dropExpired_fields : h.dropExpired.state = h.state ∧
    h.dropExpired.heartbeatHasTimeout = h.heartbeatHasTimeout := by
  unfold dropExpired
  split_ifs <;> exact ⟨rfl, rfl⟩

lemma limitIsDeactivated_eq :
    h.limitIsDeactivated = (h.currentLimit.isSome && !h.limitIsActive) := by
  unfold limitIsDeactivated limitIsActive
  cases h.currentLimit <;> simp

lemma Ready.dropExpired_settled (hr : h.Ready)
    (hinit : h.state = .init → h.currentLimit.isSome = false)
    (hcontrolled : h.state = .unlimitedControlled → h.limitIsActive = false)
    (hlimited : h.state = .limited → h.limitIsActive ∧ h.limitExpired = false) :
    h.dropExpired.Settled := by
  unfold LpcUseCaseHandler.dropExpired
  split_ifs with hexp
  · refine ⟨⟨hr.clock, hr.started, nofun, hr.written⟩, fun _ => rfl, fun _ => rfl, ?_, rfl, ?_⟩
    · intro hstate
      exact absurd hexp (by simp [(hlimited hstate).2])
    · intro _ hvalue
      obtain ⟨p, hpos, hp, hhead, -⟩ := hr.shows hvalue
      have hnot : h.state ≠ .limited := fun hstate => by simp [hlimited hstate] at hexp
      refine ⟨p, hpos, hp, ?_, fun hstate => absurd hstate hnot⟩
      rw [hhead]
      unfold limitForCurrentState
      cases hs : h.state <;> simp_all [failsafeLimit]
  · exact ⟨hr.toKept, hinit, hcontrolled, fun hs => (hlimited hs).1, by simpa using hexp,
      fun _ => hr.shows⟩

lemma Ready.transition (hr : h.Ready) (initTimestamp : ℤ) :
    (h.transition initTimestamp).Settled := by
  obtain ⟨hstate, hto⟩ := dropExpired_fields (h := h)
  have hact := dropExpired_active (h := h)
  have hdeactivated := limitIsDeactivated_eq (h := h)
  have hentering := hr.entering
  have hheld := hr.held
  have hlost := hr.toKept.dropExpired.setState_lost
  have hset := fun newState hne hnew =>
    hr.toKept.dropExpired.setState_controlled newState hne hnew dropExpired_unexpired
  rw [hstate] at hlost hset
  unfold LpcUseCaseHandler.transition
  split <;> rename_i hs
  · unfold handleInitState
    split_ifs
    · exact hlost _ (by simp [hs]) (.inr rfl)
    · exact hset _ (by simp [hs]) (by grind)
    · exact hset _ (by simp [hs]) (by grind)
    · exact hr.dropExpired_settled (by grind) (by grind) (by grind)
  · unfold handleLimitedState
    split_ifs
    · exact hlost _ (by simp [hs]) (.inl rfl)
    · exact hset _ (by simp [hs]) (by grind)
    · exact hr.dropExpired_settled (by grind) (by grind) (by grind)
  · unfold handleUnlimitedControlledState
    split_ifs
    · exact hlost _ (by simp [hs]) (.inl rfl)
    · exact hset _ (by simp [hs]) (by grind)
    · exact hr.dropExpired_settled (by grind) (by grind) (by grind)
  · unfold handleUnlimitedAutonomousState
    split_ifs
    · exact hr.dropExpired_settled (by grind) (by grind) (by grind)
    · exact hset _ (by simp [hs]) (by grind)
    · exact hset _ (by simp [hs]) (by grind)
    · exact hr.dropExpired_settled (by grind) (by grind) (by grind)
  · have hstay := hr.dropExpired_settled (by grind) (by grind) (by grind)
    unfold handleFailsafeState
    split_ifs
    · exact hlost _ (by simp [hs]) (.inr rfl)
    · exact hstay
    · exact hset _ (by simp [hs]) (by grind)
    · exact hset _ (by simp [hs]) (by grind)
    · exact { hstay with }

lemma Ready.run (hr : h.Ready) : h.runStateMachine.Sound := by
  obtain ⟨initTimestamp, hinit⟩ := isSome_iff_exists.1 hr.started
  rw [runStateMachine, hinit]
  exact (hr.transition initTimestamp).publishChanges

variable {c : ℤ} {k : Option Ski}

/-- Data other than the limits may change between runs, the failsafe limit only where it is not
published. -/
theorem Sound.ready (hs : h.Sound) {b d : ℤ} {f w : ℚ}
    (hl : lapses { h with
      clock := c, lastHeartbeat := b, activeEmsSki := k, failsafeDuration := d,
      failsafeControlLimit := f, writtenFailsafeLimit := w } = false)
    (hc : h.clock ≤ c) (hw : w = f)
    (hf : f = h.failsafeControlLimit ∨ h.state ≠ .init ∧ h.state ≠ .failsafe) :
    Ready { h with
      clock := c, lastHeartbeat := b, activeEmsSki := k, failsafeDuration := d,
      failsafeControlLimit := f, writtenFailsafeLimit := w } where
  clock := hs.clock.trans hc
  started := hs.started
  timed limit hlimit := by
    obtain ⟨htimed, r, hr, hpos, hle⟩ := hs.timed limit hlimit
    exact ⟨htimed, r, hr, hpos, hle.trans hc⟩
  written := hw
  unchanged := hs.published.1
  entering hact hexp := by
    obtain ⟨limit, hlimit, hlimitActive⟩ := (any_eq_true _ _).1 hact
    have hinit := hs.init
    have hcontrolled := hs.controlled
    simp only [limitIsActive] at hcontrolled
    simp only [lapses, stale, hact, hexp] at hl
    cases hstate : h.state <;> simp_all
  held hstate := by
    obtain ⟨limit, hlimit, -⟩ := (any_eq_true _ _).1 (hs.limited hstate)
    exact isSome_of_eq_some hlimit
  shows hvalue := by
    obtain ⟨p, hpos, hp, hhead, hlimited⟩ := hs.shows hs.published.1 hvalue
    refine ⟨p, hpos, hp.trans hc, ?_, hlimited⟩
    rw [hhead]
    cases hstate : h.state with
    | limited =>
      obtain ⟨limit, hlimit, -⟩ := (any_eq_true _ _).1 (hs.limited hstate)
      simp [limitForCurrentState, hstate, hlimit]
    | _ => simp_all [limitForCurrentState, failsafeLimit]

lemma Sound.receive (hs : h.Sound) (hc : h.clock ≤ c) (k : Option Ski) (htimed : limit.timed) :
    Ready { h with
      clock := c, activeEmsSki := k, currentLimit := some limit, lastLimitReceived := some c,
      limitValueChanged := true } where
  clock := hs.clock.trans hc
  started := hs.started
  timed := by simpa using ⟨htimed, hs.clock.trans hc⟩
  written := hs.written
  unchanged := hs.published.1
  entering _ hexp := by
    simp [limitExpired, LoadLimit.timed] at hexp htimed
    omega
  held _ := rfl
  shows := nofun

lemma Sound.prescribed (hs : h.Sound) : h.Prescribed := by
  obtain ⟨p, hpos, hp, hhead, hreceived⟩ := hs.shows hs.published.1 hs.published.2
  refine ⟨_, hhead, ?_⟩
  unfold limitForCurrentState
  cases hstate : h.state with
  | init | failsafe =>
    intro t ht
    rw [hs.written]
    exact limitAt_of_active (rfl : h.failsafeLimit.isActive = true) hpos (hp.trans ht) nofun
  | unlimitedControlled | unlimitedAutonomous =>
    exact fun t ht => limitAt_of_inactive rfl hpos (hp.trans ht)
  | limited =>
    obtain ⟨limit, hlimit, hact⟩ := (any_eq_true _ _).1 (hs.limited hstate)
    obtain ⟨htimed, r, hr, hrpos, -⟩ := hs.timed limit hlimit
    have hrp := hreceived hstate r hr
    have hexp := hs.unexpired
    rw [mem_def] at hr
    have hend : h.limitEnd = if limit.duration = 0 then none else some (r + limit.duration) := by
      by_cases hd : limit.duration = 0 <;> simp_all [limitEnd, LoadLimit.timed]
    refine ⟨limit, hlimit, hact, ?_, fun t ht hbef => ?_⟩
    · by_cases hd : limit.duration = 0 <;> simp_all [limitExpired, LoadLimit.timed]
    · simp only [hlimit, getD_some]
      refine limitAt_of_active hact hpos (hp.trans ht) fun hdur => ?_
      have hlast := hbef (r + limit.duration) (by rw [hend, if_neg (by omega)]; rfl)
      exact hlast.trans_le (rereadTime_mono (by omega) (by omega))

lemma sound_start {clock : ℤ} {limit : ℚ} (hclock : 0 ≤ clock) :
    (create clock limit : LpcUseCaseHandler Ski).start.Sound where
  clock := hclock
  started := rfl
  timed := nofun
  written := rfl
  init _ := rfl
  controlled := nofun
  limited := nofun
  unexpired := rfl
  shows _ _ := ⟨clock, hclock, le_rfl, rfl, nofun⟩
  published := ⟨rfl, rfl⟩

lemma lapses_of_unexpired (hexp : h.limitExpired = false) : h.lapses = false := by
  simp [lapses, stale, hexp]

lemma Sound.handler (hs : h.Sound) {event : UseCaseEvent} (hc : h.clock ≤ c)
    (hadmits : h.admits event)
    (hl : lapsesAt { h with clock := c, activeEmsSki := k } event = false) :
    (handler { h with clock := c, activeEmsSki := k } event).Ready := by
  cases event with
  | dataUpdateHeartbeat =>
    refine hs.ready ?_ hc hs.written (.inl rfl)
    have hstale : stale { h with clock := c, activeEmsSki := k } = false := hl
    exact Bool.and_eq_false_imp.2 fun h => absurd (hstale.symm.trans h) Bool.false_ne_true
  | dataUpdateLimit read =>
    cases read with
    | none => exact hs.ready hl hc hs.written (.inl rfl)
    | some =>
      have hrun := (hs.receive hc k hadmits).run
      exact hrun.ready (lapses_of_unexpired hrun.unexpired) le_rfl hrun.written (.inl rfl)
  | dataUpdateFailsafeDurationMinimum read =>
    cases read with
    | none => exact hs.ready hl hc hs.written (.inl rfl)
    | some =>
      simp only [LpcUseCaseHandler.handler]
      split_ifs <;> exact hs.ready hl hc hs.written (.inl rfl)
  | dataUpdateFailsafeConsumptionActivePowerLimit =>
    simp only [LpcUseCaseHandler.handler]
    split_ifs with hvalid hok
    · refine hs.ready hl hc rfl ?_
      simp_all [admits]
    · refine hs.ready hl hc ?_ (.inl rfl)
      simp_all [admits]
    · exact hs.ready hl hc hs.written (.inl rfl)
  | _ => exact hs.ready hl hc hs.written (.inl rfl)

variable [DecidableEq Ski]

/-- The events of a guard that is not the connected one are not handled. -/
def step (h : LpcUseCaseHandler Ski) : Input Ski → LpcUseCaseHandler Ski
  | .tick elapsed => (h.advance elapsed).runStateMachine
  | .event elapsed ski event =>
    if h.ignores ski event then h else (h.advance elapsed).handleEvent ski event

def orderly (h : LpcUseCaseHandler Ski) : Input Ski → Bool
  | .tick elapsed => !(h.advance elapsed).lapses
  | .event elapsed ski event =>
    h.ignores ski event || h.admits event && !(h.advance elapsed).lapsesAt event

lemma Sound.step (hs : h.Sound) (input : Input Ski) (hinput : h.orderly input) :
    (h.step input).Sound := by
  cases input with
  | tick =>
    simp only [orderly, Bool.not_eq_true'] at hinput
    exact (hs.ready hinput (by simp) hs.written (.inl rfl)).run
  | event elapsed ski event =>
    simp only [LpcUseCaseHandler.step, orderly, Bool.or_eq_true, Bool.and_eq_true,
      Bool.not_eq_true'] at hinput ⊢
    split_ifs with hignores
    · exact hs
    · obtain ⟨hadmits, hl⟩ := hinput.resolve_left hignores
      have hnot : ¬(h.advance elapsed).ignores ski event := by
        intro hi
        apply hignores
        unfold ignores connect at hi ⊢
        split_ifs at hi ⊢ <;> simp_all [advance]
      rw [handleEvent, if_neg hnot]
      obtain ⟨k, hk⟩ := (h.advance elapsed).connect_eq ski event
      rw [hk]
      refine (hs.handler (by simp [advance]) hadmits ?_).run
      cases event with
      | dataUpdateLimit read => cases read <;> exact hl
      | _ => exact hl

/-- A limit of a minute that runs out, then a failsafe limit for the loss of the guard. -/
def limitedMinute : List (Input ℕ) :=
  [.event 0 7 .dataUpdateHeartbeat,
    .event 5 7 (.dataUpdateLimit (some ⟨3000, true, seconds 60, false⟩)),
    .event 5 8 .dataUpdateHeartbeat,
    .tick (seconds 60).toNat,
    .event 0 7 (.dataUpdateFailsafeConsumptionActivePowerLimit 4000 true),
    .tick (seconds 61).toNat]

end LpcUseCaseHandler

end Everest.Eebus
