import Everest.Evse.ContactorPermission
import Everest.Evse.IecThreadSteps

namespace Everest.Evse
open IECStateMachine Runs IecSystem

section Decision

variable {s : IECStateMachine} (now : ℤ)

/-- In C without PWM a pass forwards nothing but the power off of an expired timer, and decides
to start the timer exactly when the PWM was running before. -/
theorem stateC_paused (hr : s.pwmRunning = false) : lastForwarded (stateC now s).sm.trace =
        (lastForwarded s.trace && !s.timeoutStateC1.reached now) ∧
      (stateC now s).timerStateC1 = if s.lastPwmRunning then .start else .doNothing := by
  have hplug : ∀ p : IECStateMachine.Pass, (plugInAtC p).timerStateC1 = p.timerStateC1 ∧
      (plugInAtC p).sm.trace = p.sm.trace ∧ (plugInAtC p).sm.pwmRunning = p.sm.pwmRunning ∧
      (plugInAtC p).sm.lastPwmRunning = p.sm.lastPwmRunning ∧
      (plugInAtC p).sm.timeoutStateC1 = p.sm.timeoutStateC1 := by
    intro p
    unfold plugInAtC
    split_ifs <;> exact ⟨rfl, rfl, rfl, rfl, rfl⟩
  obtain ⟨htimer, htrace, hpwm, hlast, hc1⟩ := hplug { sm := s.connectorLock }
  generalize hp : plugInAtC { sm := s.connectorLock } = p at htimer htrace hpwm hlast hc1
  have hpwm : p.sm.pwmRunning = false := hpwm.trans hr
  have hedges : pwmEdgesInC p =
      { p with timerStateC1 := if s.lastPwmRunning then .start else .doNothing } := by
    have hlast : p.sm.lastPwmRunning = s.lastPwmRunning := hlast
    have htimer : p.timerStateC1 = .doNothing := htimer
    unfold pwmEdgesInC
    rw [hpwm, hlast]
    cases s.lastPwmRunning with
    | true => rfl
    | false => simp [← htimer]
  have hc1 : p.sm.timeoutStateC1 = s.timeoutStateC1 := hc1
  have htrace : p.sm.trace = s.trace := htrace
  unfold stateC
  rw [hp, hedges]
  unfold timeoutInC1
  rw [hc1]
  cases hreached : s.timeoutStateC1.reached now with
  | true => simp [powerOnInC2, callAllowPowerOnBsp, emit, hpwm, lastForwarded]
  | false => simp [powerOnInC2, hpwm, htrace]

variable {cp : RawCPState} {cpState : Option RawCPState}

lemma switchCpState_paused (hcp : permitsPower cp s.hasVentilation = true)
    (hr : s.pwmRunning = false) : lastForwarded (switchCpState now s cp).sm.trace =
        (lastForwarded s.trace && !s.timeoutStateC1.reached now) ∧
      (switchCpState now s cp).timerStateC1 = if s.lastPwmRunning then .start else .doNothing := by
  cases cp with
  | c => exact stateC_paused now hr
  | d =>
    have hv : s.hasVentilation = true := by simpa [permitsPower] using hcp
    have hd : stateD now s = stateC now s.connectorLock := if_pos hv
    rw [switchCpState, hd]
    exact stateC_paused (s := s.connectorLock) now hr
  | _ => cases hcp

lemma lockedPass_lastForwarded : lastForwarded (lockedPass now cpState s).1.trace =
      lastForwarded (switchCpState now s (cpState.getD s.lastCpState)).sm.trace :=
  checkConnectorLock_lastForwarded

lemma lockedPass_permits (h : OnlyInCD s)
    (hf : lastForwarded (lockedPass now cpState s).1.trace = true) :
    permitsPower (cpState.getD s.lastCpState) s.hasVentilation = true := by
  by_contra hcp
  rw [lockedPass_lastForwarded, switchCpState_off h (by simpa using hcp)] at hf
  cases hf

lemma lockedPass_onlyInCD (h : OnlyInCD s) : OnlyInCD (lockedPass now cpState s).1 := by
  intro hf
  have hcp := lockedPass_permits now h hf
  show cpState.getD s.lastCpState = .c ∨ cpState.getD s.lastCpState = .d
  simp only [permitsPower, Bool.or_eq_true, Bool.and_eq_true, decide_eq_true_eq] at hcp
  exact hcp.imp id And.left

/-- After a pass that leaves power forwarded without PWM: the timer was not reached, and the
pass decided to start it, or found the same situation before. -/
theorem lockedPass_paused (h : OnlyInCD s)
    (hf : lastForwarded (lockedPass now cpState s).1.trace = true)
    (hr : (lockedPass now cpState s).1.pwmRunning = false) :
    permitsPower (cpState.getD s.lastCpState) s.hasVentilation = true ∧ s.pwmRunning = false ∧
      s.timeoutStateC1.reached now = false ∧ lastForwarded s.trace = true ∧
      (switchCpState now s (cpState.getD s.lastCpState)).timerStateC1 =
        if s.lastPwmRunning then .start else .doNothing := by
  have hcp := lockedPass_permits now h hf
  have hpwm : s.pwmRunning = false :=
    (switchCpState_pwmRunning hcp).symm.trans (checkConnectorLock_pwmRunning.symm.trans hr)
  obtain ⟨hforward, htimer⟩ := switchCpState_paused now hcp hpwm
  rw [lockedPass_lastForwarded, hforward, Bool.and_eq_true] at hf
  exact ⟨hcp, hpwm, by simpa using hf.2, hf.1, htimer⟩

end Decision

/-- The calls whose locked section writes `pwm_running`. -/
def Input.setsPwm : Input → Bool
  | .setPwm _ => true
  | .setCpStateX1 => true
  | .setCpStateE => true
  | .setCpStateF => true
  | _ => false

variable {ampacity : Ampacity} {input : Input}

section Sections

variable {s : IECStateMachine}

/-- Nothing is forwarded but a power off, and the pass before is left as it was. -/
structure Aside (s s' : IECStateMachine) : Prop where
  lastCpState : s'.lastCpState = s.lastCpState
  lastPwmRunning : s'.lastPwmRunning = s.lastPwmRunning
  forwarded : lastForwarded s'.trace = true → lastForwarded s.trace = true

lemma Aside.trans {s₁ s₂ : IECStateMachine} (h : Aside s s₁) (h' : Aside s₁ s₂) : Aside s s₂ :=
  ⟨h'.lastCpState.trans h.lastCpState, h'.lastPwmRunning.trans h.lastPwmRunning,
    fun hf => h.forwarded (h'.forwarded hf)⟩

variable {s' : IECStateMachine}

lemma Aside.onlyInCD (h : Aside s s') (hs : OnlyInCD s) : OnlyInCD s' := by
  intro hf
  rw [h.lastCpState]
  exact hs (h.forwarded hf)

lemma aside_checkConnectorLock : Aside s s.checkConnectorLock := by
  unfold checkConnectorLock latchCaptive
  dsimp only
  split_ifs <;> exact ⟨rfl, rfl, id⟩

lemma aside_thenCheck (h : Aside s s' ∧ s'.pwmRunning = s.pwmRunning) :
    Aside s s'.checkConnectorLock ∧ s'.checkConnectorLock.pwmRunning = s.pwmRunning :=
  ⟨h.1.trans aside_checkConnectorLock, checkConnectorLock_pwmRunning.trans h.2⟩

lemma lockedSection_aside : Aside s (s.lockedSection input).1 ∧
    (input.setsPwm = false → (s.lockedSection input).1.pwmRunning = s.pwmRunning) := by
  have hchecked {s' : IECStateMachine} (h : Aside s s' ∧ s'.pwmRunning = s.pwmRunning) :=
    (aside_thenCheck h).imp_right fun hpwm (_ : input.setsPwm = false) => hpwm
  cases input with
  | processBspEvent event =>
    cases event with
    | powerOn | powerOff => exact hchecked ⟨⟨rfl, rfl, id⟩, rfl⟩
    | _ => exact ⟨⟨rfl, rfl, id⟩, fun _ => rfl⟩
  | allowPowerOn value =>
    cases value with
    | true => exact ⟨⟨rfl, rfl, id⟩, fun _ => rfl⟩
    | false => exact ⟨⟨rfl, rfl, nofun⟩, fun _ => rfl⟩
  | setPpAmpacity ampacity =>
    refine And.imp_right (fun hpwm _ => hpwm) ?_
    dsimp only [lockedSection, ppSection]
    split_ifs <;> first | exact ⟨⟨rfl, rfl, id⟩, rfl⟩ | refine aside_thenCheck ?_
    all_goals exact ⟨⟨rfl, rfl, id⟩, rfl⟩
  | timeoutCaptiveLock =>
    refine hchecked ?_
    split_ifs <;> exact ⟨⟨rfl, rfl, id⟩, rfl⟩
  | connectorForceUnlock =>
    refine And.imp_right (fun hpwm _ => hpwm) ?_
    dsimp only [lockedSection, connectorForceUnlock]
    split_ifs <;> first | exact ⟨⟨rfl, rfl, id⟩, rfl⟩ | refine aside_thenCheck ?_
    all_goals exact ⟨⟨rfl, rfl, id⟩, rfl⟩
  | setKeepCableLocked => exact hchecked ⟨⟨rfl, rfl, id⟩, rfl⟩
  | setPwm | setCpStateX1 | setCpStateE | setCpStateF => exact ⟨⟨rfl, rfl, id⟩, nofun⟩
  | _ => exact ⟨⟨rfl, rfl, id⟩, fun _ => rfl⟩

lemma beginCall_aside :
    Aside s (beginCall s input).1 ∧ (beginCall s input).1.pwmRunning = s.pwmRunning := by
  cases input with
  | setPwm | setAuthorized =>
    simp only [beginCall]
    split_ifs <;> exact ⟨⟨rfl, rfl, id⟩, rfl⟩
  | setOvercurrentLimit =>
    simp only [beginCall, setOvercurrentLimit]
    split_ifs <;> exact ⟨⟨rfl, rfl, id⟩, rfl⟩
  | _ => exact ⟨⟨rfl, rfl, id⟩, rfl⟩

lemma publish_aside {cpState : Option RawCPState} {events : List CPEvent} :
    Aside s (signalEvents events (signalRawCpState cpState s)) := by
  refine ⟨by simp, ?_, by simp⟩
  have hevs (s : IECStateMachine) :
      (signalEvents events s).lastPwmRunning = s.lastPwmRunning := by
    induction events generalizing s with
    | nil => rfl
    | cons e events ih => exact ih _
  rw [hevs]
  unfold signalRawCpState
  split
  · split_ifs <;> rfl
  · rfl

end Sections

variable {n : ℕ}

def Paused (s : IECStateMachine) : Prop :=
  lastForwarded s.trace = true ∧ s.lastPwmRunning = false

variable {s : IECStateMachine}

lemma Aside.paused {s' : IECStateMachine} (h : Aside s s') (hp : Paused s') : Paused s :=
  ⟨h.forwarded hp.1, h.lastPwmRunning.symm.trans hp.2⟩

/-- A section that writes `pwm_running` is followed by a pass; the timer of C1 is started or
stopped. -/
def Ordered : List Task → Prop
  | [] => True
  | .locked input :: rest => (input.setsPwm = true → ∃ cpState, .pass cpState ∈ rest) ∧ Ordered rest
  | .control .stateC1 .doNothing :: _ => False
  | _ :: rest => Ordered rest

/-- Tasks that `Ordered` asks nothing of, and that neither start nor stop the timer of C1. -/
def Task.minor : Task → Bool
  | .locked _ => false
  | .pass _ => false
  | .control .stateC1 _ => false
  | _ => true

variable {task : Task} {rest : List Task}

lemma Ordered.tail (h : Ordered (task :: rest)) : Ordered rest := by
  cases task with
  | locked => exact h.2
  | control id action => cases id <;> cases action <;> first | exact h | exact h.elim
  | _ => exact h

lemma Ordered.minor_append {tasks : List Task} (h : Ordered rest)
    (hm : ∀ task ∈ tasks, task.minor = true) : Ordered (tasks ++ rest) := by
  induction tasks with
  | nil => exact h
  | cons task tasks ih =>
    have ht := hm task (by simp)
    have hrest := ih fun task' h' => hm task' (by simp [h'])
    cases task with
    | control id => cases id <;> first | exact hrest | cases ht
    | ifKept | publish => exact hrest
    | locked | pass => cases ht

lemma perform_minor (now : ℤ) (s : IECStateMachine) (h : ∀ cpState, task ≠ .pass cpState) :
    ∀ task' ∈ (task.perform now s).2, task'.minor = true := by
  cases task with
  | locked input =>
    dsimp only [Task.perform]
    cases input with
    | processBspEvent event => cases event <;> exact List.forall_mem_nil _
    | setPpAmpacity ampacity =>
      unfold lockedSection ppSection
      dsimp only
      split_ifs <;> simp [Task.minor]
    | setKeepCableLocked => simp [lockedSection, Task.minor]
    | _ => exact List.forall_mem_nil _
  | pass cpState => exact absurd rfl (h cpState)
  | control | publish => exact List.forall_mem_nil _
  | ifKept =>
    simp only [Task.perform]
    split_ifs <;> simp [Task.minor]

lemma beginCall_ordered : Ordered (beginCall s input).2 ∧
      ∀ task ∈ (beginCall s input).2, ∀ action, task ≠ .control .stateC1 action := by
  have hevent : ∀ event, Ordered (beginCall.eventTasks event) ∧
      ∀ task ∈ beginCall.eventTasks event, ∀ action, task ≠ .control .stateC1 action := by
    intro event
    cases event <;> simp [beginCall.eventTasks, fromBspEvent, Ordered, Input.setsPwm]
  cases input with
  | bspEvent event =>
    simp only [beginCall]
    split_ifs
    · exact hevent event
    · simp [Ordered]
  | processBspEvent event => exact hevent event
  | setPwm | setAuthorized =>
    simp only [beginCall]
    split_ifs <;> simp [Ordered]
  | setKeepCableLocked =>
    simp only [beginCall]
    split_ifs <;> simp [Ordered, Input.setsPwm]
  | _ => simp [beginCall, Ordered, Input.setsPwm]

namespace IecSystem

/-- The timer of C1 runs with its wait thread before it, or its expiry is being handled. -/
def timerArmed (σ : IecSystem n) : Prop :=
  (σ.sm.timeoutStateC1.running = true ∧
      (σ.waiter .stateC1 = .atHead ∨ σ.waiter .stateC1 = .asleep)) ∨
    σ.waiter .stateC1 = .busy

/-- With no call in progress, power in C without PWM is under the timer. -/
def PowerOffArmed (σ : IecSystem n) : Prop :=
  (∀ a, a ≠ .waiter .stateC1 → σ.todo a = []) → lastForwarded σ.sm.trace = true →
    σ.sm.lastCpState = .c → σ.sm.pwmRunning = false → σ.timerArmed

/-- The thread is about to run a pass that finds the PWM switched off in C, or D with
ventilation. -/
def findsPwmOff (σ : IecSystem n) (a : ThreadId n) : Bool :=
  match σ.todo a, σ.stage a with
  | .pass cpState :: _, .entered =>
    permitsPower (cpState.getD σ.sm.lastCpState) σ.sm.hasVentilation && !σ.sm.pwmRunning &&
      σ.sm.lastPwmRunning
  | _, _ => false

/-- A pass finds the PWM switched off only when every decided stop of the timer of C1 has been
carried out. -/
def StopsFirst (σ : IecSystem n) : ℕ × Move n → Prop
  | (_, .call _ _) => True
  | (_, .run a) => σ.findsPwmOff a = true → ∀ b, .control .stateC1 .stop ∉ σ.todo b

instance (σ : IecSystem n) : Decidable σ.timerArmed :=
  inferInstanceAs (Decidable (_ ∨ _))

instance (σ : IecSystem n) : Decidable σ.PowerOffArmed :=
  inferInstanceAs (Decidable ((∀ a, a ≠ .waiter .stateC1 → σ.todo a = []) →
    lastForwarded σ.sm.trace = true → σ.sm.lastCpState = .c → σ.sm.pwmRunning = false →
    σ.timerArmed))

instance (σ : IecSystem n) : ∀ i, Decidable (σ.StopsFirst i)
  | (_, .call _ _) => isTrue trivial
  | (_, .run a) =>
    inferInstanceAs (Decidable (σ.findsPwmOff a = true → ∀ b, .control .stateC1 .stop ∉ σ.todo b))

/-- While power is forwarded without PWM, no stop of the timer is left over, and its start is, or
it runs with its wait thread before its pass. -/
structure Guarded (σ : IecSystem n) : Prop extends Locks σ where
  onlyInCD : OnlyInCD σ.sm
  ordered : ∀ a, Ordered (σ.todo a)
  fresh : σ.sm.pwmRunning = σ.sm.lastPwmRunning ∨ ∃ a cpState, .pass cpState ∈ σ.todo a
  stops : Paused σ.sm → ∀ a, .control .stateC1 .stop ∉ σ.todo a
  armed : Paused σ.sm → (∃ a, .control .stateC1 .start ∈ σ.todo a) ∨
    σ.waiter .stateC1 = .atHead ∨ σ.waiter .stateC1 = .asleep ∨
    (σ.waiter .stateC1 = .busy ∧ σ.todo (.waiter .stateC1) = [.pass none])
  reached : σ.waiter .stateC1 = .busy → σ.sm.timeoutStateC1.reached σ.clock = true

section Tasks

variable {σ : IecSystem n} {a b : ThreadId n} {task x : Task} {rest : List Task}

lemma mem_complete (htodo : σ.todo a = task :: rest) (hx : x ∈ σ.todo b) (hne : x ≠ task) :
    x ∈ (σ.complete a task rest).todo b := by
  by_cases hb : b = a
  · subst hb
    rw [htodo] at hx
    have hrest : x ∈ rest := (List.mem_cons.1 hx).resolve_left hne
    simp [complete, hrest]
  · simpa [complete, hb] using hx

lemma mem_of_complete (htodo : σ.todo a = task :: rest)
    (hx : x ∈ (σ.complete a task rest).todo b) :
    x ∈ σ.todo b ∨ x ∈ (task.perform σ.clock σ.sm).2 := by
  by_cases hb : b = a
  · subst hb
    have hx : x ∈ (task.perform σ.clock σ.sm).2 ++ rest := by simpa [complete] using hx
    rcases List.mem_append.1 hx with hx | hx
    · exact .inr hx
    · exact .inl (by simp [htodo, hx])
  · exact .inl (by simpa [complete, hb] using hx)

end Tasks

namespace Guarded

variable {σ σ' : IecSystem n} {a : ThreadId n} {task : Task} {rest : List Task}

lemma tick (h : Guarded σ) (elapsed : ℕ) : Guarded (σ.tick elapsed) := by
  refine ⟨⟨h.owner, h.entered, h.joining, h.signalled, h.resting, h.alive⟩, h.onlyInCD, h.ordered,
    h.fresh, h.stops, h.armed, fun hb => ?_⟩
  have hr := h.reached hb
  simp only [AsyncTimeout.reached, Bool.and_eq_true, decide_eq_true_eq] at hr ⊢
  refine ⟨hr.1, ?_⟩
  have hclock : (σ.tick elapsed).clock = σ.clock + elapsed := rfl
  have hsm : (σ.tick elapsed).sm = σ.sm := rfl
  rw [hclock, hsm]
  omega

lemma complete_aside (h : Guarded σ) (hl : Locks (σ.complete a task rest))
    (htodo : σ.todo a = task :: rest) (hpass : ∀ cpState, task ≠ .pass cpState)
    (hc1 : ∀ action, task ≠ .control .stateC1 action)
    (haside : Aside σ.sm (task.perform σ.clock σ.sm).1)
    (hpwm : (task.perform σ.clock σ.sm).1.pwmRunning = σ.sm.pwmRunning ∨
      ∃ cpState, .pass cpState ∈ rest) :
    Guarded (σ.complete a task rest) := by
  have hminor := perform_minor σ.clock σ.sm hpass
  have hold (b : ThreadId n) (action : TimerControl)
      (hx : .control .stateC1 action ∈ (σ.complete a task rest).todo b) :
      .control .stateC1 action ∈ σ.todo b := by
    rcases mem_of_complete htodo hx with hx | hx
    · exact hx
    · exact nomatch hminor _ hx
  have hwaiter : (σ.complete a task rest).waiter .stateC1 = σ.waiter .stateC1 := by
    cases task with
    | control id action =>
      cases id with
      | stateC1 => exact absurd rfl (hc1 action)
      | _ => cases action <;> rfl
    | _ => rfl
  have htimer : (σ.complete a task rest).sm.timeoutStateC1 = σ.sm.timeoutStateC1 :=
    perform_timer .stateC1 σ.clock hc1
  refine ⟨hl, haside.onlyInCD h.onlyInCD, fun b => ?_, ?_, fun hp b hx => ?_, fun hp => ?_,
    fun hb => ?_⟩
  · by_cases hb : b = a
    · subst hb
      have ho : Ordered (task :: rest) := htodo ▸ h.ordered b
      simpa [complete] using ho.tail.minor_append hminor
    · simpa [complete, hb] using h.ordered b
  · rcases h.fresh with he | ⟨b, cpState, hb⟩
    · rcases hpwm with hpwm | ⟨cpState, hrest⟩
      · exact .inl (hpwm.trans (he.trans haside.lastPwmRunning.symm))
      · exact .inr ⟨a, cpState, by simp [complete, hrest]⟩
    · exact .inr ⟨b, cpState, mem_complete htodo hb (hpass cpState).symm⟩
  · exact h.stops (haside.paused hp) b (hold b .stop hx)
  · rw [hwaiter]
    rcases h.armed (haside.paused hp) with ⟨b, hb⟩ | hw | hw | ⟨hw, hidle⟩
    · exact .inl ⟨b, mem_complete htodo hb (hc1 .start).symm⟩
    · exact .inr (.inl hw)
    · exact .inr (.inr (.inl hw))
    · refine .inr (.inr (.inr ⟨hw, ?_⟩))
      have ha : ThreadId.waiter .stateC1 ≠ a := by
        rintro rfl
        rw [hidle] at htodo
        cases htodo
        exact hpass none rfl
      simpa [complete, ha] using hidle
  · rw [htimer]
    exact h.reached (hwaiter ▸ hb)

variable {cpState : Option RawCPState} {action : TimerControl} {id : TimerId}

lemma mem_lockedPass {now : ℤ} : .control .stateC1 action ∈ (lockedPass now cpState s).2 ↔
      action ≠ .doNothing ∧
        (switchCpState now s (cpState.getD s.lastCpState)).timerStateC1 = action := by
  have hf (control : TimerControl) :
      .control .stateC1 action ∉ controlTask .unlockStateF control := by
    cases control <;> simp [controlTask]
  simp only [lockedPass, List.mem_append, hf, or_false, List.mem_singleton, reduceCtorEq]
  cases (switchCpState now s (cpState.getD s.lastCpState)).timerStateC1 <;> cases action <;>
    simp [controlTask]

lemma lockedPass_ordered {now : ℤ} (h : Ordered rest) :
    Ordered ((lockedPass now cpState s).2 ++ rest) := by
  have hcontrol (id : TimerId) (control : TimerControl) {rest : List Task} (h : Ordered rest) :
      Ordered (controlTask id control ++ rest) := by
    cases control <;> cases id <;> exact h
  simp only [lockedPass, List.append_assoc]
  exact hcontrol _ _ (hcontrol _ _ h)

section

variable (h : Guarded σ)
include h

lemma complete_pass (hl : Locks (σ.complete a (.pass cpState) rest))
    (htodo : σ.todo a = .pass cpState :: rest) (hs : σ.stage a = .entered)
    (hfirst : σ.findsPwmOff a = true → ∀ b, .control .stateC1 .stop ∉ σ.todo b) :
    Guarded (σ.complete a (.pass cpState) rest) := by
  have htimer : (σ.complete a (.pass cpState) rest).sm.timeoutStateC1 = σ.sm.timeoutStateC1 :=
    lockedPass_timer .stateC1 σ.clock
  refine ⟨hl, lockedPass_onlyInCD σ.clock h.onlyInCD, fun b => ?_, .inl rfl,
    fun hp b hx => ?_, fun hp => ?_, fun hb => ?_⟩
  · by_cases hb : b = a
    · subst hb
      have ho : Ordered (.pass cpState :: rest) := htodo ▸ h.ordered b
      simpa [complete, Task.perform] using lockedPass_ordered ho.tail
    · simpa [complete, hb] using h.ordered b
  · obtain ⟨hcp, hpwm, -, hf, hdecided⟩ := lockedPass_paused σ.clock h.onlyInCD hp.1 hp.2
    rcases mem_of_complete htodo hx with hx | hx
    · cases hlast : σ.sm.lastPwmRunning with
      | true => exact hfirst (by simp [findsPwmOff, htodo, hs, hcp, hpwm, hlast]) b hx
      | false => exact h.stops ⟨hf, hlast⟩ b hx
    · -- a pass that leaves the pause on does not decide to stop the timer
      rw [(mem_lockedPass.1 hx).2] at hdecided
      cases hlast : σ.sm.lastPwmRunning <;> simp [hlast] at hdecided
  · obtain ⟨-, -, hreached, hf, hdecided⟩ := lockedPass_paused σ.clock h.onlyInCD hp.1 hp.2
    cases hlast : σ.sm.lastPwmRunning with
    | true =>
      rw [hlast] at hdecided
      have hmem : .control .stateC1 .start ∈ (lockedPass σ.clock cpState σ.sm).2 :=
        mem_lockedPass.2 ⟨by simp, hdecided⟩
      exact .inl ⟨a, by simp [complete, Task.perform, hmem]⟩
    | false =>
      rcases h.armed ⟨hf, hlast⟩ with ⟨b, hb⟩ | hw | hw | ⟨hw, -⟩
      · exact .inl ⟨b, mem_complete htodo hb (by simp)⟩
      · exact .inr (.inl hw)
      · exact .inr (.inr (.inl hw))
      · -- an expired timer would have switched the power off
        rw [h.reached hw] at hreached
        cases hreached
  · rw [htimer]
    exact h.reached hb

lemma complete_control (hl : Locks (σ.complete a (.control .stateC1 action) rest))
    (htodo : σ.todo a = .control .stateC1 action :: rest)
    (hjoins : σ.joins (.control .stateC1 action) = none) :
    Guarded (σ.complete a (.control .stateC1 action) rest) := by
  have hoff : σ.waiter .stateC1 = .absent := by
    by_contra hw
    have hr := (h.alive .stateC1).2 hw
    simp [joins, hr] at hjoins
  have ho : Ordered (.control .stateC1 action :: rest) := htodo ▸ h.ordered a
  have hnew (b : ThreadId n) (x : Task)
      (hx : x ∈ (σ.complete a (.control .stateC1 action) rest).todo b) : x ∈ σ.todo b := by
    rcases mem_of_complete htodo hx with hx | hx
    · exact hx
    · exact absurd hx (by simp [Task.perform])
  refine ⟨hl, h.onlyInCD, fun b => ?_, ?_, fun hp b hx => h.stops hp b (hnew b _ hx), fun hp => ?_,
    fun hb => ?_⟩
  · by_cases hb : b = a
    · subst hb
      simpa [complete, Task.perform] using ho.tail
    · simpa [complete, hb] using h.ordered b
  · rcases h.fresh with he | ⟨b, cpState, hb⟩
    · exact .inl he
    · exact .inr ⟨b, cpState, mem_complete htodo hb (by simp)⟩
  · cases action with
    | doNothing => exact ho.elim
    | stop => exact absurd (by simp [htodo]) (h.stops hp a)
    | start => exact .inr (.inl (by simp [complete, started]))
  · cases action with
    | start => simp [complete, started] at hb
    | doNothing | stop => exact absurd hb (by simp [complete, started, hoff])

lemma complete (hl : Locks (σ.complete a task rest)) (htodo : σ.todo a = task :: rest)
    (hready : σ.stage a = .free ∧ task.mutex? = none ∨
      σ.stage a = .entered ∧ σ.joins task = none ∧ σ.held task = false)
    (hfirst : σ.findsPwmOff a = true → ∀ b, .control .stateC1 .stop ∉ σ.todo b) :
    Guarded (σ.complete a task rest) := by
  cases task with
  | locked input =>
    refine h.complete_aside hl htodo (by simp) (by simp) lockedSection_aside.1 ?_
    have ho : Ordered (.locked input :: rest) := htodo ▸ h.ordered a
    cases hsets : input.setsPwm with
    | true => exact .inr (ho.1 hsets)
    | false => exact .inl (lockedSection_aside.2 hsets)
  | pass =>
    rcases hready with ⟨-, hm⟩ | ⟨hs, -⟩
    · cases hm
    · exact h.complete_pass hl htodo hs hfirst
  | control id =>
    cases id with
    | stateC1 => exact h.complete_control hl htodo (Locks.joins_of_ready hready)
    | _ => exact h.complete_aside hl htodo (by simp) (by simp) ⟨rfl, rfl, id⟩ (.inl rfl)
  | ifKept =>
    exact h.complete_aside hl htodo (by simp) (by simp) ⟨rfl, rfl, id⟩ (.inl rfl)
  | publish cpState events =>
    exact h.complete_aside hl htodo (by simp) (by simp) publish_aside
      (.inl (by simp [Task.perform]))

lemma call {i : Fin n} (hl : Locks (σ.called i input)) (hidle : σ.todo (.caller i) = []) :
    Guarded (σ.called i input) := by
  let s : IECStateMachine := { σ.sm with trace := .call input :: σ.sm.trace }
  have hcalled : Aside σ.sm s := ⟨rfl, rfl, id⟩
  have haside : Aside σ.sm (beginCall s input).1 := hcalled.trans beginCall_aside.1
  obtain ⟨hordered, hcontrol⟩ := beginCall_ordered
  have hkept (b : ThreadId n) (x : Task) (hx : x ∈ σ.todo b) : x ∈ (σ.called i input).todo b := by
    have hb : b ≠ .caller i := by
      rintro rfl
      simp [hidle] at hx
    simpa [called, hb] using hx
  refine ⟨hl, haside.onlyInCD h.onlyInCD, fun b => ?_, ?_, fun hp b hx => ?_, fun hp => ?_,
    fun hb => ?_⟩
  · by_cases hb : b = .caller i
    · subst hb
      simpa [called] using hordered
    · simpa [called, hb] using h.ordered b
  · rcases h.fresh with he | ⟨b, cpState, hb⟩
    · refine .inl ((beginCall_aside (s := s)).2.trans ?_)
      exact he.trans haside.lastPwmRunning.symm
    · exact .inr ⟨b, cpState, hkept b _ hb⟩
  · by_cases hb : b = .caller i
    · subst hb
      exact hcontrol _ (by simpa [called] using hx) _ rfl
    · exact h.stops (haside.paused hp) b (by simpa [called, hb] using hx)
  · rcases h.armed (haside.paused hp) with ⟨b, hb⟩ | hw
    · exact .inl ⟨b, hkept b _ hb⟩
    · exact .inr hw
  · have htimer : (σ.called i input).sm.timeoutStateC1 = σ.sm.timeoutStateC1 :=
      beginCall_timer .stateC1 input
    rw [htimer]
    exact h.reached hb

attribute [local simp] IecSystem.setWaiter

lemma setWaiter {w : Waiter} (hl : Locks (σ.setWaiter id w)) (hw : w ≠ .busy)
    (harmed : id = .stateC1 → Paused σ.sm → (∃ a, .control .stateC1 .start ∈ σ.todo a) ∨
      w = .atHead ∨ w = .asleep) : Guarded (σ.setWaiter id w) := by
  refine ⟨hl, h.onlyInCD, h.ordered, h.fresh, h.stops, fun hp => ?_, fun hb => ?_⟩
  · by_cases hid : id = .stateC1
    · subst hid
      rcases harmed rfl hp with hstart | rfl | rfl
      · exact .inl hstart
      · exact .inr (.inl (by simp [setWaiter]))
      · exact .inr (.inr (.inl (by simp [setWaiter])))
    · simpa [Ne.symm hid] using h.armed hp
  · by_cases hid : id = .stateC1
    · subst hid
      exact absurd (by simpa [setWaiter] using hb) hw
    · exact h.reached (by simpa [Ne.symm hid] using hb)

/-- Whoever is in the join of the timer's wait thread is about to start it again. -/
theorem start_of_control (hp : Paused σ.sm) (htodo : σ.todo a = .control .stateC1 action :: rest) :
    ∃ b, .control .stateC1 .start ∈ σ.todo b := by
  have ho : Ordered (.control .stateC1 action :: rest) := htodo ▸ h.ordered a
  cases action with
  | doNothing => exact ho.elim
  | stop => exact absurd (by simp [htodo]) (h.stops hp a)
  | start => exact ⟨a, by simp [htodo]⟩

lemma joined (hl : Locks (σ.joined a id)) (htodo : σ.todo a = .control id action :: rest) :
    Guarded (σ.joined a id) := by
  have hsm : Aside σ.sm (σ.joined a id).sm := by
    cases id <;> exact ⟨rfl, rfl, fun hf => hf⟩
  have hpwm : (σ.joined a id).sm.pwmRunning = σ.sm.pwmRunning := by cases id <;> rfl
  refine ⟨hl, hsm.onlyInCD h.onlyInCD, h.ordered, ?_, fun hp => h.stops (hsm.paused hp),
    fun hp => ?_, fun hb => ?_⟩
  · rcases h.fresh with he | hpass
    · exact .inl (hpwm.trans (he.trans hsm.lastPwmRunning.symm))
    · exact .inr hpass
  · by_cases hid : id = .stateC1
    · subst hid
      exact .inl (h.start_of_control (hsm.paused hp) htodo)
    · simpa [IecSystem.joined, Ne.symm hid] using h.armed (hsm.paused hp)
  · by_cases hid : id = .stateC1
    · subst hid
      simp [joined] at hb
    · have hb : σ.waiter .stateC1 = .busy := by simpa [IecSystem.joined, Ne.symm hid] using hb
      have htimer : (σ.joined a id).sm.timer .stateC1 = σ.sm.timer .stateC1 :=
        (setTimer_timer .stateC1).trans (if_neg (Ne.symm hid))
      have hr := h.reached hb
      exact (congrArg (fun t => AsyncTimeout.reached t σ.clock) htimer).trans hr

attribute [local simp] IecSystem.expire

lemma expire (hl : Locks (σ.expire id)) (hw : σ.waiter id = .asleep)
    (hr : (σ.sm.timer id).reached σ.clock = true) : Guarded (σ.expire id) := by
  have hidle := h.resting id (by simp [hw])
  have hkept (b : ThreadId n) (x : Task) (hx : x ∈ σ.todo b) : x ∈ (σ.expire id).todo b := by
    have hb : b ≠ .waiter id := by
      rintro rfl
      simp [hidle] at hx
    simpa [hb] using hx
  refine ⟨hl, h.onlyInCD, fun b => ?_, ?_, fun hp b hx => ?_, fun hp => ?_, fun hb => ?_⟩
  · by_cases hb : b = .waiter id
    · subst hb
      cases id <;> simp [expire, callback, Ordered, Input.setsPwm]
    · simpa [hb] using h.ordered b
  · rcases h.fresh with he | ⟨b, cpState, hb⟩
    · exact .inl he
    · exact .inr ⟨b, cpState, hkept b _ hb⟩
  · by_cases hb : b = .waiter id
    · subst hb
      cases id <;> simp [expire, callback] at hx
    · exact h.stops hp b (by simpa [hb] using hx)
  · by_cases hid : id = .stateC1
    · subst hid
      exact .inr (.inr (.inr ⟨by simp,
        by simp [expire, callback]⟩))
    · have hne : ThreadId.waiter (n := n) .stateC1 ≠ .waiter id := by simpa using Ne.symm hid
      rcases h.armed hp with ⟨b, hb⟩ | hw'
      · exact .inl ⟨b, hkept b _ hb⟩
      · refine .inr ?_
        simpa [Ne.symm hid, hne] using hw'
  · by_cases hid : id = .stateC1
    · subst hid
      exact hr
    · refine h.reached ?_
      simpa [Ne.symm hid] using hb

lemma moved {move : Move n} (hm : Moved σ move σ')
    (hfirst : ∀ a, move = .run a → σ.findsPwmOff a = true →
      ∀ b, .control .stateC1 .stop ∉ σ.todo b) : Guarded σ' := by
  have hl : Locks σ' := h.toLocks.moved hm
  cases hm with
  | stay => exact h
  | call i input hidle => exact h.call hl hidle
  | enter | beginJoin =>
    exact ⟨hl, h.onlyInCD, h.ordered, h.fresh, h.stops, h.armed, h.reached⟩
  | complete a task rest htodo hready => exact h.complete hl htodo hready (hfirst a rfl)
  | joined a id action rest htodo => exact h.joined hl htodo
  | sleep => exact h.setWaiter hl (by simp) fun _ _ => .inr (.inr rfl)
  | again => exact h.setWaiter hl (by simp) fun _ _ => .inr (.inl rfl)
  | leave id hw hexit =>
    -- the exit signal comes from the thread that joins
    refine h.setWaiter hl (by simp) ?_
    rintro rfl hp
    obtain ⟨a, action, rest, htodo, -⟩ := h.signalled .stateC1 hexit
    exact .inl (h.start_of_control hp htodo)
  | expire id hw hr => exact h.expire hl hw hr
  | finish id hw hidle =>
    -- the callback has run its pass, so the pause is over or the timer is to be started again
    refine h.setWaiter hl (by simp) ?_
    rintro rfl hp
    rcases h.armed hp with hstart | hw' | hw' | ⟨-, htodo⟩
    · exact .inl hstart
    · rw [hw] at hw'
      cases hw'
    · rw [hw] at hw'
      cases hw'
    · rw [hidle] at htodo
      cases htodo

lemma step {i : ℕ × Move n} (hi : σ.StopsFirst i) : Guarded (σ.step i) := by
  obtain ⟨elapsed, move⟩ := i
  refine (h.tick elapsed).moved act_moved ?_
  rintro a rfl
  exact hi

lemma powerOffArmed : σ.PowerOffArmed := by
  intro hidle hf _ hpwm
  by_cases hbusy : σ.waiter .stateC1 = .busy
  · exact .inr hbusy
  have hrest (a : ThreadId n) : σ.todo a = [] := by
    by_cases ha : a = .waiter .stateC1
    · exact ha ▸ h.resting .stateC1 hbusy
    · exact hidle a ha
  have hlast : σ.sm.lastPwmRunning = false := by
    rcases h.fresh with he | ⟨a, cpState, ha⟩
    · exact he.symm.trans hpwm
    · simp [hrest a] at ha
  rcases h.armed ⟨hf, hlast⟩ with ⟨a, ha⟩ | hw | hw | ⟨hw, -⟩
  · simp [hrest a] at ha
  · exact .inl ⟨(h.alive .stateC1).2 (by simp [hw]), .inl hw⟩
  · exact .inl ⟨(h.alive .stateC1).2 (by simp [hw]), .inr hw⟩
  · exact absurd hw hbusy

end

lemma init (n : ℕ) (config : IecConfig) : Guarded (init n config) := by
  refine ⟨Locks.init n config, nofun, fun _ => trivial, .inl rfl, fun _ _ => nofun, ?_, nofun⟩
  rintro ⟨hf, -⟩
  cases hf

end Guarded

/-- The power off after 6 s is armed in every state with no call in progress, power forwarded,
C and no PWM, if no pass finds the PWM switched off while a stop of the timer that another call
decided on is still to come. -/
theorem power_off_armed (n : ℕ) (config : IecConfig) (moves : List (ℕ × Move n))
    (h : AllSteps step StopsFirst (init n config) moves) :
    AllStates step PowerOffArmed (init n config) moves :=
  AllStates.mono (fun _ hσ => hσ.powerOffArmed)
    (allStates_of_allSteps (fun _ _ hσ hi => hσ.step hi) (Guarded.init n config) h)

def calling (i : Fin 2) (input : Input) (steps : ℕ) : List (ℕ × Move 2) :=
  (0, .call i input) :: List.replicate steps (0, .run (.caller i))

/-- Charging is under way, the PWM is switched off and on again in C: the second call has decided
to stop the timer that the first one started. -/
def resumedInC : List (ℕ × Move 2) :=
  calling 0 (.processBspEvent .b) 3 ++ calling 0 (.setPwm (1 / 2)) 5 ++
    calling 0 (.processBspEvent .c) 3 ++ calling 0 (.allowPowerOn true .fullPowerCharging) 5 ++
    calling 0 .setCpStateX1 8 ++ calling 0 (.setPwm (1 / 2)) 4

/-- A thread joins the wait thread of the timer and goes on with its task. -/
def joining (i : Fin 2) : List (ℕ × Move 2) :=
  [(0, .run (.caller i)), (0, .run (.caller i)), (0, .run (.waiter .stateC1)),
    (0, .run (.caller i)), (0, .run (.caller i)), (0, .run (.caller i))]

/-- The stop is carried out before the PWM is switched off again by another caller. -/
theorem power_off_armed_in_turn :
    AllStates step PowerOffArmed (init 2 ⟨true, false, false, 500⟩)
      (resumedInC ++ joining 0 ++ calling 1 .setCpStateX1 7) := by
  apply power_off_armed
  decide +kernel

/-- The PWM is switched off again by another caller before the stop is carried out: the start
comes first, then the stop, and nothing is left to switch the power off. -/
theorem overtaken_stop_disarms :
    ¬PowerOffArmed (Runs.run step (init 2 ⟨true, false, false, 500⟩)
      (resumedInC ++ calling 1 .setCpStateX1 4 ++ joining 1 ++ joining 0)) := by
  decide +kernel

end IecSystem

end Everest.Evse
