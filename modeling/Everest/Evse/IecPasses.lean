import Everest.Evse.IecStateMachine

namespace Everest.Evse
open Runs IECStateMachine

@[simp] lemma signalEvents_lastCpState (events : List CPEvent) (s : IECStateMachine) :
    (signalEvents events s).lastCpState = s.lastCpState := by
  induction events generalizing s with
  | nil => rfl
  | cons e events ih => exact ih _

@[simp] lemma signalRawCpState_lastCpState (cp : Option RawCPState) (s : IECStateMachine) :
    (signalRawCpState cp s).lastCpState = s.lastCpState := by
  unfold signalRawCpState
  split
  · split_ifs <;> rfl
  · rfl

@[simp] lemma feedStateMachine_lastCpState (now : ℤ) (cp : Option RawCPState)
    (s : IECStateMachine) :
    (feedStateMachine now cp s).lastCpState = cp.getD s.lastCpState := by
  simp [feedStateMachine, stateMachine, finishPass]

def eventCpState (event : BspEvent) : Option RawCPState := (fromBspEvent event).getLeft?

def passCpState (s : IECStateMachine) : ℤ × Input → Option RawCPState
  | (_, .bspEvent event) => if s.enabled then eventCpState event else none
  | (_, .processBspEvent event) => eventCpState event
  | (now, .timeoutStateC1) => if s.timeoutStateC1.reached now then some s.lastCpState else none
  | (now, .timeoutUnlockStateF) =>
    if s.timeoutUnlockStateF.reached now then some s.lastCpState else none
  | (_, .allowPowerOn _ _) => some s.lastCpState
  | (_, .setPwm _) => some s.lastCpState
  | (_, .setCpStateX1) => some s.lastCpState
  | (_, .setCpStateE) => some s.lastCpState
  | (_, .setCpStateF) => some s.lastCpState
  | (_, .setAuthorized _) => if s.useAuthorized then some s.lastCpState else none
  | _ => none

/-- Entries written outside a pass: no power on and no plug-in or unplug event. -/
def Entry.outside : Entry → Bool
  | .out (.allowPowerOn true _) => false
  | .out (.event .carPluggedIn) => false
  | .out (.event .carUnplugged) => false
  | _ => true

/-- `s'` differs from `s` by nothing that a pass alone may change. -/
structure Kept (s s' : IECStateMachine) : Prop where
  lastCpState : s'.lastCpState = s.lastCpState
  carPluggedIn : s'.carPluggedIn = s.carPluggedIn
  written : Grows (fun e _ => e.outside = true) s.trace s'.trace

namespace Kept

variable {s s₁ s₂ : IECStateMachine}

lemma trans (h : Kept s s₁) (h' : Kept s₁ s₂) : Kept s s₂ :=
  ⟨h'.lastCpState.trans h.lastCpState, h'.carPluggedIn.trans h.carPluggedIn,
    h.written.trans h'.written⟩

lemma of_eq (h : Kept s s₁) (hl : s₂.lastCpState = s₁.lastCpState)
    (hp : s₂.carPluggedIn = s₁.carPluggedIn) (ht : s₂.trace = s₁.trace) : Kept s s₂ :=
  h.trans ⟨hl, hp, ht ▸ .refl⟩

lemma emit (h : Kept s s₁) (o : Output) (ho : Entry.outside (.out o) = true) :
    Kept s (s₁.emit o) :=
  h.trans ⟨rfl, rfl, .cons .refl ho⟩

lemma off (h : Kept s s₁) : Kept s (s₁.callAllowPowerOnBsp false) :=
  h.trans ⟨rfl, rfl, .cons .refl rfl⟩

lemma checkConnectorLock (h : Kept s s₁) : Kept s s₁.checkConnectorLock := by
  have hl : Kept s s₁.latchCaptive := by
    unfold latchCaptive
    split_ifs
    · exact h.of_eq rfl rfl rfl
    · exact h
  unfold IECStateMachine.checkConnectorLock
  dsimp only
  split_ifs
  · refine Kept.emit ?_ .lock rfl
    exact hl.of_eq rfl rfl rfl
  · refine Kept.emit ?_ .unlock rfl
    exact hl.of_eq rfl rfl rfl
  · exact hl

end Kept

def permitsPower (cp : RawCPState) (hasVentilation : Bool) : Bool :=
  decide (cp = .c) || (decide (cp = .d) && hasVentilation)

def IECStateMachine.watched (s : IECStateMachine) : List Entry × Bool × Bool × Bool :=
  (s.trace, s.powerOnAllowed, s.enabled, s.relaisOn)

/-- A property that no branch breaks; the power is switched on only if `permits`. -/
structure PassClosed (permits : Prop) (P : IECStateMachine → Prop) : Prop where
  set {s s' : IECStateMachine} : P s → s'.watched = s.watched →
    (s'.pwmRunning = true → s.pwmRunning = true) → P s'
  off {s : IECStateMachine} : P s → P (s.callAllowPowerOnBsp false)
  on {s : IECStateMachine} : P s → permits → s.powerOnAllowed = true → s.pwmRunning = true →
    P (s.callAllowPowerOnBsp true)
  resetToX1 {s : IECStateMachine} : P s → s.pwmRunning = false → P s.resetToX1

section Branches

variable {permits : Prop} {P : IECStateMachine → Prop} {s : IECStateMachine} {p : Pass} (now : ℤ)

@[simp] lemma plugInAtC_pwmRunning : (plugInAtC p).sm.pwmRunning = p.sm.pwmRunning := by
  unfold plugInAtC
  split_ifs <;> rfl

@[simp] lemma pwmEdgesInC_pwmRunning : (pwmEdgesInC p).sm.pwmRunning = p.sm.pwmRunning := by
  unfold pwmEdgesInC
  split_ifs <;> rfl

@[simp] lemma timeoutInC1_pwmRunning : (timeoutInC1 now p).sm.pwmRunning = p.sm.pwmRunning := by
  unfold timeoutInC1
  split_ifs <;> rfl

@[simp] lemma powerOnInC2_pwmRunning : (powerOnInC2 p).sm.pwmRunning = p.sm.pwmRunning := by
  unfold powerOnInC2 switchOnInC2
  dsimp only
  split_ifs <;> rfl

@[simp] lemma stateC_pwmRunning : (stateC now s).sm.pwmRunning = s.pwmRunning := by
  simp [stateC, connectorLock]

namespace PassClosed

variable (h : PassClosed permits P)
include h

lemma stopPwm (hs : P s) : P (IECStateMachine.resetToX1 { s with pwmRunning := false }) := by
  have hset : P { s with pwmRunning := false } := h.set hs rfl nofun
  exact h.resetToX1 hset rfl

lemma stateDisabled (hs : P s) : P (stateDisabled s).sm := by
  unfold IECStateMachine.stateDisabled
  split_ifs
  · refine h.set (h.off ?_) rfl id
    exact h.set (h.stopPwm hs) rfl id
  · exact hs

lemma stateA (hs : P s) : P (stateA s).sm := by
  have henter : P (enterStateA s).sm := by
    unfold enterStateA
    split_ifs
    · refine h.set (h.off ?_) rfl id
      exact h.set (h.stopPwm hs) rfl id
    · exact hs
  unfold IECStateMachine.stateA
  split_ifs
  · exact henter
  · exact henter

lemma stateB (hs : P s) : P (stateB s).sm := by
  have hlock : P s.lockInStateB := by
    unfold lockInStateB
    split_ifs <;> exact h.set hs rfl id
  have hstop : P (stopPowerInB s.lockInStateB).sm := by
    unfold stopPowerInB
    split_ifs
    · exact h.off hlock
    · exact hlock
  have hplug : P (plugInAtB (stopPowerInB s.lockInStateB)).sm := by
    unfold plugInAtB
    split_ifs
    · exact h.set hstop rfl id
    · exact hstop
  unfold IECStateMachine.stateB
  split_ifs
  · exact hplug
  · exact hplug

lemma plugInAtC (hp : P p.sm) : P (plugInAtC p).sm := by
  unfold IECStateMachine.plugInAtC
  split_ifs
  · exact h.set hp rfl id
  · exact hp
  · exact hp

lemma pwmEdgesInC (hok : p.sm.pwmRunning = true → permits) (hp : P p.sm) :
    P (pwmEdgesInC p).sm := by
  unfold IECStateMachine.pwmEdgesInC
  split_ifs with _ hr ha
  · exact hp
  · rw [Bool.and_eq_true] at hr
    exact h.on hp (hok hr.1) ha hr.1
  · exact hp
  · exact hp

lemma timeoutInC1 (hp : P p.sm) : P (timeoutInC1 now p).sm := by
  unfold IECStateMachine.timeoutInC1
  split_ifs
  · exact h.off hp
  · exact hp

lemma powerOnInC2 (hok : p.sm.pwmRunning = true → permits) (hp : P p.sm) :
    P (powerOnInC2 p).sm := by
  have hon (hr : p.sm.pwmRunning = true) : P p.sm.switchOnInC2 := by
    unfold switchOnInC2
    split_ifs with ha
    · rw [Bool.and_eq_true] at ha
      exact h.on hp (hok hr) ha.1 hr
    · exact hp
  unfold IECStateMachine.powerOnInC2
  dsimp only
  split_ifs with hr
  · exact hon hr
  · exact hon hr
  · exact hp

lemma stateC (hok : s.pwmRunning = true → permits) (hs : P s) : P (stateC now s).sm := by
  have hlock : P s.connectorLock := h.set hs rfl id
  refine h.powerOnInC2 ?_ (h.timeoutInC1 now (h.pwmEdgesInC ?_ (h.plugInAtC hlock)))
  all_goals simpa [connectorLock] using hok

lemma stateD (hok : s.hasVentilation = true → s.pwmRunning = true → permits) (hs : P s) :
    P (stateD now s).sm := by
  have hlock : P s.connectorLock := h.set hs rfl id
  unfold IECStateMachine.stateD
  dsimp only
  split_ifs with hv
  · exact h.stateC now (hok hv) hlock
  · exact h.off hlock

lemma enterStateE (b : Bool) (hs : P s) : P (enterStateE s b).sm := by
  have hoff : P { s.callAllowPowerOnBsp false with pwmRunning := false } :=
    h.set (h.off hs) rfl nofun
  cases b with
  | false => exact h.resetToX1 hoff rfl
  | true => exact hoff

lemma stateE (hs : P s) : P (stateE s).sm := by
  unfold IECStateMachine.stateE
  dsimp only
  split_ifs
  · exact h.enterStateE _ (h.set hs rfl id)
  · exact h.set hs rfl id
  · exact h.enterStateE _ (h.set hs rfl id)
  · exact h.set hs rfl id

lemma stateF (hs : P s) : P (stateF now s).sm := by
  unfold IECStateMachine.stateF
  dsimp only
  split_ifs
  · exact h.set (h.off hs) rfl nofun
  · exact h.set (h.off hs) rfl nofun
  · exact h.set (h.off hs) rfl id
  · exact h.off hs

/-- Only the branch of C, reached from D with ventilation too, can pass a power on. -/
theorem switchCpState (cp : RawCPState)
    (hok : permitsPower cp s.hasVentilation = true → s.pwmRunning = true → permits) (hs : P s) :
    P (switchCpState now s cp).sm := by
  cases cp with
  | disabled => exact h.stateDisabled hs
  | a => exact h.stateA hs
  | b => exact h.stateB hs
  | c => exact h.stateC now (hok rfl) hs
  | d => exact h.stateD now (fun hv => hok (by simp [permitsPower, hv])) hs
  | e => exact h.stateE hs
  | f => exact h.stateF now hs

end PassClosed

end Branches

def IECStateMachine.held (s : IECStateMachine) :
    List Entry × Bool × Bool × Bool × Bool × Bool × RawCPState × Bool :=
  (s.trace, s.powerOnAllowed, s.pwmRunning, s.enabled, s.relaisOn, s.isLocked, s.lastCpState,
    s.carPluggedIn)

/-- A property that no call breaks which runs no pass and reports nothing of the driver. -/
structure LockClosed (P : IECStateMachine → Prop) : Prop where
  set {s s' : IECStateMachine} : P s → s'.held = s.held → P s'
  check {s : IECStateMachine} : P s → P s.checkConnectorLock
  unlock {s : IECStateMachine} : P s → s.relaisOn = false →
    P { s.emit .unlock with isLocked := false }
  overcurrentLimit {s : IECStateMachine} (amps : ℚ) : P s → P (s.emit (.overcurrentLimit amps))
  switchThreePhases {s : IECStateMachine} (n : Bool) : P s → P (s.emit (.switchThreePhases n))

/-- Calls that run no pass, report nothing of the driver and do not enable it. -/
def Input.aside : Input → Bool
  | .timeoutCaptiveLock | .setPpAmpacity _ | .setMaxPhases _ | .setup _ | .setOvercurrentLimit _
  | .switchThreePhasesWhileCharging _ | .connectorForceUnlock | .setKeepCableLocked _
  | .setEvSimplifiedModeEvseLimit _ => true
  | _ => false

namespace LockClosed

variable {P : IECStateMachine → Prop} {s : IECStateMachine} (h : LockClosed P) (now : ℤ)
include h

lemma setPpAmpacity (ampacity : Ampacity) (hs : P s) : P (setPpAmpacity now ampacity s) := by
  unfold IECStateMachine.setPpAmpacity
  dsimp only
  split_ifs
  · exact h.set hs rfl
  · refine h.set (h.check ?_) rfl
    exact h.set hs rfl
  · refine h.set (h.check ?_) rfl
    exact h.set hs rfl
  · exact h.check (h.set hs rfl)
  · exact h.check (h.set hs rfl)

lemma connectorForceUnlock (hs : P s) : P (connectorForceUnlock s) := by
  have hunlock {s₁ : IECStateMachine} (hs : P s₁) :
      P (if s₁.relaisOn then s₁ else { s₁.emit .unlock with isLocked := false }) := by
    split_ifs with hr
    · exact hs
    · exact h.unlock hs (by simpa using hr)
  have hrelease {s₁ : IECStateMachine} (hs : P s₁) :
      P (if s₁.lastCpState = .b ∨ s₁.lastCpState = .c then
        { s₁ with forceUnlocked := true }.checkConnectorLock else s₁) := by
    split_ifs
    · exact h.check (h.set hs rfl)
    · exact hs
  unfold IECStateMachine.connectorForceUnlock
  apply hrelease
  apply hunlock
  split_ifs
  · exact h.set hs rfl
  · exact h.set hs rfl
  · exact hs

lemma handle {input : Input} (hi : input.aside = true) (hs : P s) : P (handle now s input) := by
  cases input with
  | timeoutCaptiveLock =>
    simp only [IECStateMachine.handle, captiveLockDebounceReached]
    split_ifs
    · exact h.check (h.set hs rfl)
    · exact h.check hs
    · exact hs
  | setPpAmpacity ampacity => exact h.setPpAmpacity now ampacity hs
  | setOvercurrentLimit amps =>
    simp only [IECStateMachine.handle, setOvercurrentLimit]
    split_ifs
    · exact h.set (h.overcurrentLimit amps hs) rfl
    · exact hs
  | switchThreePhasesWhileCharging n => exact h.switchThreePhases n hs
  | connectorForceUnlock => exact h.connectorForceUnlock hs
  | setKeepCableLocked =>
    simp only [IECStateMachine.handle, setKeepCableLocked]
    split_ifs
    · exact hs
    · refine h.set (h.check ?_) rfl
      exact h.set hs rfl
  | setMaxPhases | setup | setEvSimplifiedModeEvseLimit => exact h.set hs rfl
  | _ => cases hi

end LockClosed

/-- Calls that change neither whether the driver is enabled nor what it reports of the relais. -/
def Input.plain : Input → Bool
  | .enable _ => false
  | .bspEvent .powerOn => false
  | .bspEvent .powerOff => false
  | .processBspEvent .powerOn => false
  | .processBspEvent .powerOff => false
  | _ => true

/-- Outputs about neither the power, the control pilot, the lock nor the plug. -/
def Output.calm : Output → Bool
  | .bspEnable _ | .overcurrentLimit _ | .switchThreePhases _ | .pwmDutyCycle _ => true
  | .event .powerOn | .event .powerOff => true
  | _ => false

def Reports (s : IECStateMachine) (i : Input) (on : Bool) : Prop :=
  i = .processBspEvent (if on then .powerOn else .powerOff) ∨
    i = .bspEvent (if on then .powerOn else .powerOff) ∧ s.enabled = true

def Output.pwm? : Output → Option Bool
  | .pwmOn _ => some true
  | .cpStateX1 | .cpStateE | .cpStateF => some false
  | _ => none

inductive Outside (s : IECStateMachine) : Input → IECStateMachine → Prop
  | call {i : Input} : i.plain = true → (∀ value reason, i ≠ .allowPowerOn value reason) →
      Outside s i { s with trace := .call i :: s.trace }
  | allow (value : Bool) (reason : Reason) : Outside s (.allowPowerOn value reason) { s with
      powerOnAllowed := value
      powerOnReason := reason
      trace := .call (.allowPowerOn value reason) :: s.trace }
  | enable (en : Bool) : Outside s (.enable en)
      { s with enabled := en, trace := .call (.enable en) :: s.trace }
  | ignored (event : BspEvent) : s.enabled = false → Outside s (.bspEvent event)
      { s with trace := .call (.bspEvent event) :: s.trace }
  | reported {i : Input} (on : Bool) : Reports s i on →
      Outside s i { s with relaisOn := on, trace := .call i :: s.trace }.checkConnectorLock
  | set {i : Input} {s₁ s₂ : IECStateMachine} : Outside s i s₁ → s₂.held = s₁.held →
      Outside s i s₂
  | check {i : Input} {s₁ : IECStateMachine} : Outside s i s₁ →
      Outside s i s₁.checkConnectorLock
  | unlock {i : Input} {s₁ : IECStateMachine} : Outside s i s₁ → s₁.relaisOn = false →
      Outside s i { s₁.emit .unlock with isLocked := false }
  | emit {i : Input} {s₁ : IECStateMachine} {o : Output} : Outside s i s₁ → o.calm = true →
      Outside s i (s₁.emit o)
  | command {i : Input} {s₁ s₂ : IECStateMachine} {running : Bool} (o : Output) :
      Outside s i s₁ → o.pwm? = some running →
      s₂.held = ({ s₁ with pwmRunning := running }.emit o).held → Outside s i s₂
  | off {i : Input} {s₁ : IECStateMachine} : Outside s i s₁ →
      Outside s i (s₁.callAllowPowerOnBsp false)

section Calls

variable {s s' s₁ s₂ : IECStateMachine} {i : Input}

lemma Outside.closed : LockClosed (Outside s i) where
  set h hheld := h.set hheld
  check h := h.check
  unlock h hr := h.unlock hr
  overcurrentLimit _ h := h.emit rfl
  switchThreePhases _ h := h.emit rfl

lemma Kept.of_held (h : Kept s s₁) (hheld : s₂.held = s₁.held) : Kept s s₂ := by
  simp only [IECStateMachine.held, Prod.mk.injEq] at hheld
  obtain ⟨ht, -, -, -, -, -, hl, hp⟩ := hheld
  exact h.of_eq hl hp ht

lemma Outside.kept (h : Outside s i s') : Kept s s' := by
  induction h with
  | call | allow | enable | ignored => exact ⟨rfl, rfl, .cons .refl rfl⟩
  | reported => exact Kept.checkConnectorLock ⟨rfl, rfl, .cons .refl rfl⟩
  | set _ hheld ih => exact ih.of_held hheld
  | check _ ih => exact ih.checkConnectorLock
  | unlock _ _ ih => exact (ih.emit .unlock rfl).of_eq rfl rfl rfl
  | @emit _ _ o _ ho ih =>
    refine ih.emit o ?_
    cases o with
    | event e => cases e <;> first | rfl | cases ho
    | _ => first | rfl | cases ho
  | @command _ s₁ _ running o _ ho hheld ih =>
    have hout : Kept s₁ ({ s₁ with pwmRunning := running }.emit o) := by
      cases o <;> first | exact ⟨rfl, rfl, .cons .refl rfl⟩ | cases ho
    exact (ih.trans hout).of_held hheld
  | off _ ih => exact ih.off

end Calls

def RunsPass (s : IECStateMachine) (i : ℤ × Input) : Prop :=
  ∃ cp s₁, passCpState s i = some (cp.getD s.lastCpState) ∧
    step s i = feedStateMachine i.1 cp s₁ ∧ Kept s s₁ ∧ s₁.hasVentilation = s.hasVentilation

def RunsNoPass (s : IECStateMachine) (i : ℤ × Input) : Prop :=
  passCpState s i = none ∧ Kept s (step s i)

attribute [local simp] passCpState

/-- Every call runs exactly the pass that `passCpState` names, or none. -/
theorem step_outside {s : IECStateMachine} {i : ℤ × Input} :
    (∃ cp s₁, passCpState s i = some (cp.getD s.lastCpState) ∧
        step s i = feedStateMachine i.1 cp s₁ ∧ Outside s i.2 s₁ ∧
        s₁.hasVentilation = s.hasVentilation) ∨
      passCpState s i = none ∧ Outside s i.2 (step s i) := by
  obtain ⟨now, input⟩ := i
  cases input with
  | bspEvent event =>
    cases he : s.enabled with
    | false =>
      have hstep : step s (now, .bspEvent event) =
          { s with trace := .call (.bspEvent event) :: s.trace } := by simp [step, handle, he]
      exact .inr ⟨by simp [he], hstep ▸ .ignored event he⟩
    | true =>
      have hstep : step s (now, .bspEvent event) =
          processBspEvent now event { s with trace := .call (.bspEvent event) :: s.trace } := by
        simp [step, handle, he]
      have hpass : passCpState s (now, .bspEvent event) = eventCpState event := by
        simp [he]
      rw [hstep, hpass]
      cases event with
      | powerOn => exact .inr ⟨rfl, (Outside.reported true (.inr ⟨rfl, he⟩)).emit rfl⟩
      | powerOff => exact .inr ⟨rfl, (Outside.reported false (.inr ⟨rfl, he⟩)).emit rfl⟩
      | _ => exact .inl ⟨some _, _, rfl, rfl, .call rfl nofun, rfl⟩
  | processBspEvent event =>
    cases event with
    | powerOn => exact .inr ⟨rfl, (Outside.reported true (.inl rfl)).emit rfl⟩
    | powerOff => exact .inr ⟨rfl, (Outside.reported false (.inl rfl)).emit rfl⟩
    | _ => exact .inl ⟨some _, _, rfl, rfl, .call rfl nofun, rfl⟩
  | timeoutStateC1 =>
    have hc : Outside s .timeoutStateC1 _ := .call rfl nofun
    cases hr : s.timeoutStateC1.reached now with
    | true => exact .inl ⟨none, _, by simp [hr], by simp [step, handle, hr], hc, rfl⟩
    | false => exact .inr ⟨by simp [hr], by simpa [step, handle, hr] using hc⟩
  | timeoutUnlockStateF =>
    have hc : Outside s .timeoutUnlockStateF _ := .call rfl nofun
    cases hr : s.timeoutUnlockStateF.reached now with
    | true => exact .inl ⟨none, _, by simp [hr], by simp [step, handle, hr], hc, rfl⟩
    | false => exact .inr ⟨by simp [hr], by simpa [step, handle, hr] using hc⟩
  | allowPowerOn value reason =>
    cases value with
    | true => exact .inl ⟨none, _, rfl, rfl, .allow true reason, rfl⟩
    | false => exact .inl ⟨none, _, rfl, rfl, .off (.allow false reason), rfl⟩
  | setPwm value =>
    have hc : Outside s (.setPwm value) _ := .call rfl nofun
    simp only [step, handle, setPwm]
    split_ifs
    · exact .inl ⟨none, _, rfl, rfl, .emit (hc.command .cpStateX1 rfl rfl) rfl, rfl⟩
    · exact .inl ⟨none, _, rfl, rfl, .emit (hc.command .cpStateF rfl rfl) rfl, rfl⟩
    · exact .inl ⟨none, _, rfl, rfl, .emit (hc.command (.pwmOn _) rfl rfl) rfl, rfl⟩
  | setCpStateX1 =>
    have hc : Outside s .setCpStateX1 _ := .call rfl nofun
    exact .inl ⟨none, _, rfl, rfl, .emit (hc.command .cpStateX1 rfl rfl) rfl, rfl⟩
  | setCpStateE =>
    have hc : Outside s .setCpStateE _ := .call rfl nofun
    exact .inl ⟨none, _, rfl, rfl, .emit (hc.command .cpStateE rfl rfl) rfl, rfl⟩
  | setCpStateF =>
    have hc : Outside s .setCpStateF _ := .call rfl nofun
    exact .inl ⟨none, _, rfl, rfl, .emit (hc.command .cpStateF rfl rfl) rfl, rfl⟩
  | enable en => exact .inr ⟨rfl, (Outside.enable en).emit rfl⟩
  | setAuthorized a =>
    have hc : Outside s (.setAuthorized a) _ := .call rfl nofun
    cases hu : s.useAuthorized with
    | true =>
      refine .inl ⟨none, { s with authorized := a, trace := .call (.setAuthorized a) :: s.trace },
        by simp [hu], by simp [step, handle, setAuthorized, hu], hc.set rfl, rfl⟩
    | false =>
      exact .inr ⟨by simp [hu], by simpa [step, handle, setAuthorized, hu] using hc⟩
  | _ => exact .inr ⟨rfl, (Outside.closed).handle now rfl (.call rfl nofun)⟩

lemma step_cases {s : IECStateMachine} {i : ℤ × Input} : RunsPass s i ∨ RunsNoPass s i := by
  rcases step_outside with ⟨cp, s₁, hcp, hstep, hout, hv⟩ | ⟨hcp, hout⟩
  · exact .inl ⟨cp, s₁, hcp, hstep, hout.kept, hv⟩
  · exact .inr ⟨hcp, hout.kept⟩

end Everest.Evse
