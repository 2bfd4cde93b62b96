import Everest.Evse.IecThreadSteps
import Everest.Lib.WaitsFor

namespace Everest.Evse
open IECStateMachine Runs WaitsFor IecSystem

variable {n : ℕ}

namespace IecSystem

/-- `a` cannot go on before `b` releases a mutex or terminates. -/
inductive Awaits (σ : IecSystem n) : ThreadId n → ThreadId n → Prop
  | mutex {a b : ThreadId n} {task : Task} {rest : List Task} {m : Mutex} :
      σ.todo a = task :: rest → σ.stage a = .free → task.mutex? = some m →
      σ.owner m = some b → Awaits σ a b
  | query {a b : ThreadId n} {cpState : Option RawCPState} {rest : List Task} {id : TimerId} :
      σ.todo a = .pass cpState :: rest → σ.stage a = .entered →
      σ.sm.queriedTimer cpState = some id → σ.owner (.timer id) = some b → Awaits σ a b
  | join {a : ThreadId n} {id : TimerId} {action : TimerControl} {rest : List Task} :
      σ.todo a = .control id action :: rest → σ.stage a = .joining → σ.waiter id ≠ .done →
      Awaits σ a (.waiter id)

def Deadlocked (σ : IecSystem n) : Prop := ∃ threads, Deadlock σ.Awaits threads

/-- The thread does not turn to a timer whose callback is in progress. The callback of the
captive lock reads no timer and is left out. -/
def stopsIdle (σ : IecSystem n) (a : ThreadId n) : Bool :=
  match σ.todo a, σ.stage a with
  | .control id _ :: _, .entered => decide (id = .captiveLock ∨ σ.waiter id ≠ .busy)
  | _, _ => true

/-- The timer does not expire while a thread joins its wait thread. -/
def expiresAlone (σ : IecSystem n) (elapsed : ℕ) : ThreadId n → Bool
  | .caller _ => true
  | .waiter id =>
    decide (id = .captiveLock) || !σ.exitSignal id ||
      !(decide (σ.waiter id = .asleep) && (σ.sm.timer id).reached (σ.clock + elapsed))

def Orderly (σ : IecSystem n) : ℕ × Move n → Prop
  | (_, .call _ _) => True
  | (elapsed, .run a) => σ.stopsIdle a = true ∧ σ.expiresAlone elapsed a = true

instance (σ : IecSystem n) : ∀ i, Decidable (σ.Orderly i)
  | (_, .call _ _) => isTrue trivial
  | (elapsed, .run a) =>
    inferInstanceAs (Decidable (σ.stopsIdle a = true ∧ σ.expiresAlone elapsed a = true))

/-- A joined wait thread is not in its callback, that of the captive lock apart, which has
nothing but its locked section to do. -/
structure Calm (σ : IecSystem n) : Prop extends Locks σ where
  calm : ∀ a id action rest, σ.todo a = .control id action :: rest → σ.stage a = .joining →
    id ≠ .captiveLock → σ.waiter id ≠ .busy
  captive : ∀ task ∈ σ.todo (.waiter .captiveLock), task = .locked .timeoutCaptiveLock

namespace Calm

variable {σ σ' : IecSystem n}

/-- The exit signal is set while a thread is in the join. -/
theorem calm_iff (h : Locks σ) : (∀ a id action rest, σ.todo a = .control id action :: rest →
      σ.stage a = .joining → id ≠ .captiveLock → σ.waiter id ≠ .busy) ↔
    ∀ id, σ.exitSignal id = true → id ≠ .captiveLock → σ.waiter id ≠ .busy := by
  constructor
  · intro hc id hexit hid
    obtain ⟨a, action, rest, htodo, hs⟩ := h.signalled id hexit
    exact hc a id action rest htodo hs hid
  · intro hc a id action rest htodo hs hid
    obtain ⟨id', action', rest', htodo', hexit⟩ := h.joining a hs
    rw [htodo] at htodo'
    cases htodo'
    exact hc id hexit hid

lemma started_busy {waiter : TimerId → Waiter} {task : Task} {id : TimerId}
    (h : started waiter task id = .busy) : waiter id = .busy := by
  cases task with
  | control id' action =>
    cases action with
    | start =>
      by_cases hid : id = id'
      · subst hid
        simp [started] at h
      · simpa [started, hid] using h
    | _ => exact h
  | _ => exact h

lemma captive_kept {todo : ThreadId n → List Task} {a : ThreadId n} {tasks : List Task}
    (h : ∀ task ∈ todo (.waiter .captiveLock), task = .locked .timeoutCaptiveLock)
    (ha : a = .waiter .captiveLock → ∀ task ∈ tasks, task = .locked .timeoutCaptiveLock) :
    ∀ task ∈ Function.update todo a tasks (.waiter .captiveLock),
      task = .locked .timeoutCaptiveLock := by
  by_cases hw : a = .waiter .captiveLock
  · subst hw
    simpa using ha rfl
  · rw [Function.update_of_ne (Ne.symm hw)]
    exact h

lemma moved {move : Move n} (h : Calm σ) (hm : Moved σ move σ')
    (hstops : ∀ a, move = .run a → σ.stopsIdle a = true)
    (halone : ∀ id, move = .run (.waiter id) → σ.expiresAlone 0 (.waiter id) = true) :
    Calm σ' := by
  have hl : Locks σ' := h.toLocks.moved hm
  have hcalm := (calm_iff h.toLocks).1 h.calm
  cases hm with
  | stay => exact h
  | call | enter =>
    exact ⟨hl, (calm_iff hl).2 hcalm, h.captive⟩
  | complete a task rest htodo =>
    refine ⟨hl, (calm_iff hl).2 fun id hexit hid hbusy => ?_, captive_kept h.captive ?_⟩
    · exact hcalm id hexit hid (started_busy hbusy)
    · rintro rfl task' ht
      have hmem := h.captive
      rw [htodo] at hmem
      obtain rfl := hmem task (by simp)
      exact hmem task' (by simpa [Task.perform, lockedSection] using .inr ht)
  | beginJoin a id action rest htodo hs =>
    refine ⟨hl, (calm_iff hl).2 fun id' hexit hid => ?_, h.captive⟩
    by_cases hne : id' = id
    · subst hne
      have hidle := hstops a rfl
      simp only [stopsIdle, htodo, hs, decide_eq_true_eq] at hidle
      exact hidle.resolve_left hid
    · exact hcalm id' (by simpa [beginJoin, hne] using hexit) hid
  | joined a id =>
    refine ⟨hl, (calm_iff hl).2 fun id' hexit hid => ?_, h.captive⟩
    by_cases hne : id' = id
    · subst hne
      simp [joined] at hexit
    · simpa [joined, hne] using
        hcalm id' (by simpa [joined, hne] using hexit) hid
  | sleep | leave | again | finish => exact ⟨hl, (calm_iff hl).2 (idle hcalm (by simp)), h.captive⟩
  | expire id hw hr =>
    refine ⟨hl, (calm_iff hl).2 fun id' hexit hid => ?_, captive_kept h.captive ?_⟩
    · by_cases hne : id' = id
      · subst hne
        have ha := halone id' rfl
        have hexit : σ.exitSignal id' = true := hexit
        simp [expiresAlone, hid, hexit, hw, hr] at ha
      · simpa [expire, setWaiter, hne] using hcalm id' hexit hid
    · intro hid task ht
      cases hid
      simpa [callback] using ht
where
  idle {id : TimerId} {w : Waiter}
      (hcalm : ∀ id, σ.exitSignal id = true → id ≠ .captiveLock → σ.waiter id ≠ .busy)
      (hw : w ≠ .busy) : ∀ id', (σ.setWaiter id w).exitSignal id' = true → id' ≠ .captiveLock →
        (σ.setWaiter id w).waiter id' ≠ .busy := by
    intro id' hexit hid
    by_cases hne : id' = id
    · subst hne
      simpa [setWaiter] using hw
    · simpa [setWaiter, hne] using hcalm id' hexit hid

lemma step (h : Calm σ) {i : ℕ × Move n} (hi : σ.Orderly i) : Calm (σ.step i) := by
  obtain ⟨elapsed, move⟩ := i
  have htick : Calm (σ.tick elapsed) :=
    ⟨⟨h.owner, h.entered, h.joining, h.signalled, h.resting, h.alive⟩, h.calm, h.captive⟩
  refine htick.moved act_moved ?_ ?_
  · rintro a rfl
    exact hi.1
  · rintro id rfl
    show (σ.tick elapsed).expiresAlone 0 (.waiter id) = true
    have hclock : (σ.tick elapsed).clock + (0 : ℕ) = σ.clock + elapsed := add_zero _
    unfold expiresAlone
    rw [hclock]
    exact hi.2

end Calm

/-- How far a thread is on the way that waiting takes: the captive lock timer, then the state
machine, then the timers that a pass reads, then what waits for nothing. -/
def rank (σ : IecSystem n) (a : ThreadId n) : ℕ :=
  match σ.todo a, σ.stage a with
  | .control .captiveLock _ :: _, .free => 0
  | .control .captiveLock _ :: _, _ => 1
  | .locked _ :: _, .free => 2
  | .pass _ :: _, .free => 2
  | .locked _ :: _, _ => 3
  | .pass _ :: _, _ => 3
  | .control _ _ :: _, .free => 3
  | .control _ _ :: _, _ => 4
  | _, _ => 5

lemma rank_le (σ : IecSystem n) (a : ThreadId n) : σ.rank a ≤ 5 := by
  unfold rank
  split <;> omega

variable {a : ThreadId n} {σ : IecSystem n}

lemma rank_stateMachine (h : σ.Holds a .stateMachine) : σ.rank a = 3 := by
  obtain ⟨hm, hs⟩ := h
  cases htodo : σ.todo a with
  | nil => simp [htodo] at hm
  | cons task =>
    rw [htodo] at hm
    cases hstage : σ.stage a with
    | free => exact absurd hstage hs
    | _ =>
      cases task with
      | locked | pass => simp [rank, htodo, hstage]
      | _ => simp [Task.mutex?] at hm

lemma rank_timer {id : TimerId} (h : σ.Holds a (.timer id)) :
    σ.rank a = if id = .captiveLock then 1 else 4 := by
  obtain ⟨hm, hs⟩ := h
  cases htodo : σ.todo a with
  | nil => simp [htodo] at hm
  | cons task =>
    rw [htodo] at hm
    cases hstage : σ.stage a with
    | free => exact absurd hstage hs
    | _ =>
      cases task with
      | control id' =>
        obtain rfl : id' = id := by simpa [Task.mutex?] using hm
        cases id' <;> simp [rank, htodo, hstage]
      | _ => simp [Task.mutex?] at hm

lemma rank_idle (h : σ.todo a = []) : σ.rank a = 5 := by
  simp [rank, h]

lemma queriedTimer_ne {s : IECStateMachine} {cpState : Option RawCPState} :
    s.queriedTimer cpState ≠ some .captiveLock := by
  unfold queriedTimer
  split
  · simp
  · split_ifs <;> simp
  · simp
  · simp

lemma Calm.rank_lt (h : Calm σ) {b : ThreadId n} (hab : σ.Awaits a b) :
    σ.rank a < σ.rank b := by
  cases hab with
  | @mutex _ task rest m htodo hs hm ho =>
    have hb := (h.owner m b).1 ho
    cases task with
    | locked | pass =>
      cases hm
      rw [rank_stateMachine hb]
      simp [rank, htodo, hs]
    | control id =>
      cases hm
      rw [rank_timer hb]
      cases id <;> simp [rank, htodo, hs]
    | _ => cases hm
  | @query _ cpState rest id htodo hs hq ho =>
    have hid : id ≠ .captiveLock := by
      rintro rfl
      exact queriedTimer_ne hq
    rw [rank_timer ((h.owner _ b).1 ho), if_neg hid]
    simp [rank, htodo, hs]
  | @join id action rest htodo hs hw =>
    have ha : σ.Holds a (.timer id) := ⟨by simp [htodo, Task.mutex?], by simp [hs]⟩
    rw [rank_timer ha]
    by_cases hid : id = .captiveLock
    · subst hid
      rw [if_pos rfl]
      cases hcap : σ.todo (.waiter .captiveLock) with
      | nil => simp [rank_idle hcap]
      | cons task =>
        obtain rfl := h.captive task (by simp [hcap])
        cases hst : σ.stage (.waiter .captiveLock) <;> simp [rank, hcap, hst]
    · have hrest := h.resting id (h.calm a id action rest htodo hs hid)
      rw [if_neg hid, rank_idle hrest]
      decide

lemma Calm.init (n : ℕ) (config : IecConfig) : Calm (init n config) :=
  ⟨Locks.init n config, nofun, nofun⟩

/-- Callers and timers of the control pilot state machine do not deadlock as long as no timer
of C1 or F is stopped or restarted during its own expiry. -/
theorem no_timer_deadlock (n : ℕ) (config : IecConfig) (moves : List (ℕ × Move n))
    (h : AllSteps step Orderly (IecSystem.init n config) moves) :
    AllStates step (fun σ => ¬Deadlocked σ) (IecSystem.init n config) moves := by
  have hcalm : AllStates step Calm (IecSystem.init n config) moves :=
    allStates_of_allSteps (fun _ _ hσ hi => hσ.step hi) (Calm.init n config) h
  refine hcalm.mono ?_
  rintro σ hσ ⟨threads, hdead⟩
  exact not_deadlock_of_rank σ.rank_le (fun _ _ => hσ.rank_lt) hdead

def alone (input : Input) (steps : ℕ) : List (ℕ × Move 1) :=
  (0, .call 0 input) :: List.replicate steps (0, .run (.caller 0))

/-- Charging is under way, then the PWM is switched off in C: the timer is started. -/
def pausedInC : List (ℕ × Move 1) :=
  alone (.processBspEvent .b) 3 ++ alone (.setPwm (1 / 2)) 5 ++
    alone (.processBspEvent .c) 3 ++ alone (.allowPowerOn true .fullPowerCharging) 5 ++
    alone .setCpStateX1 8

/-- The wait thread finds the 6 s over and runs its callback to the end. -/
theorem expiry_without_deadlock :
    AllStates step (fun σ => ¬Deadlocked σ) (IecSystem.init 1 ⟨true, false, false, 500⟩)
      (pausedInC ++ (0, .run (.waiter .stateC1)) :: (7000, .run (.waiter .stateC1)) ::
        List.replicate 4 (0, .run (.waiter .stateC1))) := by
  apply no_timer_deadlock
  decide +kernel

/-- The PWM comes back while the wait thread is in its last sleep: the caller stops the timer and
joins the thread, which finds the 6 s over and waits for the timer with the state machine locked. -/
theorem resumed_pwm_deadlocks :
    Deadlocked (Runs.run step (IecSystem.init 1 ⟨true, false, false, 500⟩)
      (pausedInC ++ (0, .run (.waiter .stateC1)) :: alone (.setPwm (1 / 2)) 6 ++
        [(7000, .run (.waiter .stateC1)), (0, .run (.waiter .stateC1))])) := by
  generalize hσ : Runs.run step _ _ = σ
  have hcaller : σ.todo (.caller 0) = [.control .stateC1 .stop, .publish none []] ∧
      σ.stage (.caller 0) = .joining ∧ σ.waiter .stateC1 ≠ .done := by
    rw [← hσ]
    decide +kernel
  have hwaiter : σ.todo (.waiter .stateC1) = [.pass none] ∧
      σ.stage (.waiter .stateC1) = .entered ∧ σ.sm.queriedTimer none = some .stateC1 ∧
      σ.owner (.timer .stateC1) = some (.caller 0) := by
    rw [← hσ]
    decide +kernel
  obtain ⟨htodo, hs, hw⟩ := hcaller
  obtain ⟨htodo', hs', hq, ho⟩ := hwaiter
  refine ⟨{.caller 0, .waiter .stateC1}, ⟨.caller 0, by simp⟩, ?_⟩
  rintro a (rfl | rfl)
  · exact ⟨.waiter .stateC1, by simp, by simp, .join htodo hs hw⟩
  · exact ⟨.caller 0, by simp, by simp, .query htodo' hs' hq ho⟩

end IecSystem

end Everest.Evse
