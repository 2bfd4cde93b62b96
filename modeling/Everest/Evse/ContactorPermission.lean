import Everest.Evse.IecPasses

namespace Everest.Evse
open Runs IECStateMachine

/-- The permission given by `allow_power_on(true)` and not revoked since, neither by
`allow_power_on(false)` nor by a withdrawal of the state machine itself. -/
def permitted : List Entry → Bool
  | [] => false
  | .call (.allowPowerOn value _) :: _ => value
  | .out (.allowPowerOn false _) :: _ => false
  | _ :: older => permitted older

def lastForwarded : List Entry → Bool
  | [] => false
  | .out (.allowPowerOn value _) :: _ => value
  | _ :: older => lastForwarded older

def pwmCommanded : List Entry → Bool
  | [] => false
  | .out (.pwmOn _) :: _ => true
  | .out .cpStateX1 :: _ => false
  | .out .cpStateE :: _ => false
  | .out .cpStateF :: _ => false
  | _ :: older => pwmCommanded older

/-- An entry is no power on, or one written under `ok` with the permission standing and PWM
commanded at that point of the trace. -/
def ForwardOk (ok : Prop) (e : Entry) (older : List Entry) : Prop :=
  ∀ reason, e = .out (.allowPowerOn true reason) →
    ok ∧ permitted older = true ∧ pwmCommanded older = true

/-- Outputs that are neither a permission nor a control pilot command. -/
def Output.quiet : Output → Bool
  | .allowPowerOn _ _ => false
  | .pwmOn _ => false
  | .cpStateX1 => false
  | .cpStateE => false
  | .cpStateF => false
  | _ => true

/-- `s` has written nothing on top of `old` but permitted power ons, and its two flags are
backed by the trace. -/
structure PassInv (old : List Entry) (ok : Prop) (s : IECStateMachine) : Prop where
  grows : Grows (ForwardOk ok) old s.trace
  allowed : s.powerOnAllowed = true → permitted s.trace = true
  pwm : s.pwmRunning = true → pwmCommanded s.trace = true

namespace PassInv

variable {old : List Entry} {ok : Prop} {s s' : IECStateMachine}

section

variable (h : PassInv old ok s)
include h

lemma of_eq (ht : s'.trace = s.trace) (ha : s'.powerOnAllowed = s.powerOnAllowed)
    (hp : s'.pwmRunning = true → s.pwmRunning = true) : PassInv old ok s' := by
  refine ⟨?_, ?_, ?_⟩
  · rw [ht]
    exact h.grows
  · rw [ht, ha]
    exact h.allowed
  · rw [ht]
    exact fun hr => h.pwm (hp hr)

lemma of_held (hheld : s'.held = s.held) : PassInv old ok s' := by
  simp only [held, Prod.mk.injEq] at hheld
  obtain ⟨ht, ha, hp, -⟩ := hheld
  exact h.of_eq ht ha (hp ▸ id)

lemma emit {o : Output} (ho : o.quiet = true) :
    PassInv old ok (s.emit o) := by
  refine ⟨h.grows.cons ?_, fun ha => ?_, fun hr => ?_⟩
  · rintro reason ⟨⟩
    cases ho
  · refine Eq.trans ?_ (h.allowed ha)
    cases o <;> first | rfl | cases ho
  · refine Eq.trans ?_ (h.pwm hr)
    cases o <;> first | rfl | cases ho

lemma command {o : Output} (ht : s'.trace = s.trace) (ha : s'.powerOnAllowed = s.powerOnAllowed)
    (ho : o.pwm? = some s'.pwmRunning) : PassInv old ok (s'.emit o) := by
  have hgrows : Grows (ForwardOk ok) old s'.trace := ht ▸ h.grows
  refine ⟨hgrows.cons ?_, ?_, ?_⟩
  · rintro reason ⟨⟩
    cases ho
  · intro hallow
    have hold := h.allowed (ha ▸ hallow)
    rw [← ht] at hold
    cases o <;> first | exact hold | cases ho
  · intro hr
    rw [show s'.pwmRunning = true from hr] at ho
    cases o <;> first | rfl | cases ho

lemma off : PassInv old ok (s.callAllowPowerOnBsp false) := by
  refine ⟨h.grows.cons ?_, ?_, h.pwm⟩
  · rintro reason ⟨⟩
  · intro ha
    cases ha

lemma on (hok : ok) (ha : s.powerOnAllowed = true) (hr : s.pwmRunning = true) :
    PassInv old ok (s.callAllowPowerOnBsp true) :=
  ⟨h.grows.cons fun _ _ => ⟨hok, h.allowed ha, h.pwm hr⟩, h.allowed, h.pwm⟩

lemma latchCaptive : PassInv old ok s.latchCaptive := by
  unfold IECStateMachine.latchCaptive
  split_ifs
  · exact h.of_eq rfl rfl id
  · exact h

lemma checkConnectorLock : PassInv old ok s.checkConnectorLock := by
  have h := h.latchCaptive
  unfold IECStateMachine.checkConnectorLock
  dsimp only
  split_ifs
  · refine PassInv.emit ?_ rfl
    exact h.of_eq rfl rfl id
  · refine PassInv.emit ?_ rfl
    exact h.of_eq rfl rfl id
  · exact h

lemma resetToX1 (hr : s.pwmRunning = false) :
    PassInv old ok s.resetToX1 := by
  unfold IECStateMachine.resetToX1
  split_ifs
  · exact h
  · exact (h.command rfl rfl (by rw [hr]; rfl)).emit rfl

lemma signalEvents (events : List CPEvent) :
    PassInv old ok (signalEvents events s) := by
  induction events generalizing s with
  | nil => exact h
  | cons e events ih => exact ih (h.emit rfl)

lemma signalRawCpState (cp : Option RawCPState) :
    PassInv old ok (signalRawCpState cp s) := by
  unfold IECStateMachine.signalRawCpState
  cases cp with
  | none => exact h
  | some =>
    dsimp only
    split_ifs
    · refine PassInv.emit ?_ rfl
      exact h.of_eq rfl rfl id
    · exact h

end

lemma passClosed : PassClosed ok (PassInv old ok) where
  set h hwatched hp := by
    simp only [watched, Prod.mk.injEq] at hwatched
    exact h.of_eq hwatched.1 hwatched.2.1 hp
  off h := h.off
  on h hok ha hr := h.on hok ha hr
  resetToX1 h hr := h.resetToX1 hr

end PassInv

def OnlyInCD (s : IECStateMachine) : Prop :=
  lastForwarded s.trace = true → s.lastCpState = .c ∨ s.lastCpState = .d

section PowerOff

variable {s : IECStateMachine}

lemma OnlyInCD.off (h : OnlyInCD s) (hc : s.lastCpState ≠ .c) (hd : s.lastCpState ≠ .d) :
    lastForwarded s.trace = false := by
  by_contra hf
  rcases h (Bool.not_eq_false _ ▸ hf) with hcd | hcd
  · exact hc hcd
  · exact hd hcd

lemma stateB_off (h : OnlyInCD s) : lastForwarded (stateB s).sm.trace = false := by
  have hl : OnlyInCD s.lockInStateB := by
    unfold lockInStateB
    split_ifs
    · exact h
    · exact h
  have hs : lastForwarded (stopPowerInB s.lockInStateB).sm.trace = false := by
    unfold stopPowerInB
    split_ifs with hcd
    · rfl
    · rw [not_or] at hcd
      exact hl.off hcd.1 hcd.2
  have hp : lastForwarded (plugInAtB (stopPowerInB s.lockInStateB)).sm.trace = false := by
    unfold plugInAtB
    split_ifs
    · exact hs
    · exact hs
  unfold stateB
  split_ifs
  · exact hp
  · exact hp

lemma stateE_off (h : OnlyInCD s) : lastForwarded (stateE s).sm.trace = false := by
  have he (s : IECStateMachine) (b : Bool) : lastForwarded (enterStateE s b).sm.trace = false := by
    unfold enterStateE resetToX1
    dsimp only
    split_ifs <;> rfl
  unfold stateE
  dsimp only
  split_ifs with _ hl hl
  · exact he _ _
  · exact h.off (by simp_all) (by simp_all)
  · exact he _ _
  · exact h.off (by simp_all [connectorUnlock]) (by simp_all [connectorUnlock])

lemma switchCpState_off {now : ℤ} {cp : RawCPState} (h : OnlyInCD s)
    (hcp : permitsPower cp s.hasVentilation = false) :
    lastForwarded (switchCpState now s cp).sm.trace = false := by
  cases cp with
  | disabled =>
    unfold switchCpState stateDisabled
    split_ifs with hl
    · rfl
    · exact h.off (by simp_all) (by simp_all)
  | a =>
    have he : lastForwarded (enterStateA s).sm.trace = false := by
      unfold enterStateA
      split_ifs with hl
      · rfl
      · exact h.off (by simp_all) (by simp_all)
    unfold switchCpState stateA
    split_ifs
    · exact he
    · exact he
  | b => exact stateB_off h
  | c => cases hcp
  | d =>
    have hv : s.hasVentilation = false := by simpa [permitsPower] using hcp
    simp [switchCpState, stateD, connectorLock, hv, callAllowPowerOnBsp, emit, lastForwarded]
  | e => exact stateE_off h
  | f =>
    unfold switchCpState stateF
    dsimp only
    split_ifs <;> rfl

end PowerOff

section Feed

variable {old : List Entry} {ok : Prop} {s : IECStateMachine}

@[simp] lemma checkConnectorLock_pwmRunning : s.checkConnectorLock.pwmRunning = s.pwmRunning := by
  unfold checkConnectorLock latchCaptive
  dsimp only
  split_ifs <;> rfl

@[simp] lemma checkConnectorLock_lastForwarded :
    lastForwarded s.checkConnectorLock.trace = lastForwarded s.trace := by
  unfold checkConnectorLock latchCaptive
  dsimp only
  split_ifs <;> rfl

variable (events : List CPEvent)

@[simp] lemma signalEvents_pwmRunning : (signalEvents events s).pwmRunning = s.pwmRunning := by
  induction events generalizing s with
  | nil => rfl
  | cons e events ih => exact ih

@[simp] lemma signalEvents_lastForwarded :
    lastForwarded (signalEvents events s).trace = lastForwarded s.trace := by
  induction events generalizing s with
  | nil => rfl
  | cons e events ih => exact ih

@[simp] lemma signalRawCpState_pwmRunning {cp : Option RawCPState} :
    (signalRawCpState cp s).pwmRunning = s.pwmRunning := by
  unfold signalRawCpState
  split
  · split_ifs <;> rfl
  · rfl

@[simp] lemma signalRawCpState_lastForwarded {cp : Option RawCPState} :
    lastForwarded (signalRawCpState cp s).trace = lastForwarded s.trace := by
  unfold signalRawCpState
  split
  · split_ifs <;> rfl
  · rfl

lemma switchCpState_pwmRunning {cp : RawCPState} {now : ℤ}
    (hcp : permitsPower cp s.hasVentilation = true) :
    (switchCpState now s cp).sm.pwmRunning = s.pwmRunning := by
  cases cp with
  | c => exact stateC_pwmRunning now
  | d =>
    have hv : s.hasVentilation = true := by simpa [permitsPower] using hcp
    simp [switchCpState, stateD, connectorLock, hv]
  | _ => cases hcp

section

variable (now : ℤ) (cp : Option RawCPState)
include now cp

lemma feedStateMachine_pwmRunning
    (hcp : permitsPower (cp.getD s.lastCpState) s.hasVentilation = true) :
    (feedStateMachine now cp s).pwmRunning = s.pwmRunning := by
  simp only [feedStateMachine, stateMachine, finishPass, signalEvents_pwmRunning,
    signalRawCpState_pwmRunning, checkConnectorLock_pwmRunning]
  exact switchCpState_pwmRunning hcp

lemma feedStateMachine_off (h : OnlyInCD s)
    (hcp : permitsPower (cp.getD s.lastCpState) s.hasVentilation = false) :
    lastForwarded (feedStateMachine now cp s).trace = false := by
  simpa [feedStateMachine, stateMachine, finishPass] using switchCpState_off h hcp

end

end Feed

structure StepInv (s : IECStateMachine) : Prop where
  allowed : s.powerOnAllowed = true → permitted s.trace = true
  pwm : s.pwmRunning = true → pwmCommanded s.trace = true
  onlyInCD : OnlyInCD s

section Step

variable {ok : Prop} {s s' : IECStateMachine} (config : IecConfig)

lemma init_inv : StepInv (init config) :=
  ⟨nofun, nofun, nofun⟩

lemma Outside.passInv {i : Input} (hout : Outside s i s') (h : StepInv s) :
    PassInv s.trace ok s' := by
  induction hout with
  | @call i _ hi =>
    refine ⟨.cons .refl nofun, fun ha => ?_, h.pwm⟩
    cases i with
    | allowPowerOn value reason => exact absurd rfl (hi value reason)
    | _ => exact h.allowed ha
  | allow => exact ⟨.cons .refl nofun, id, h.pwm⟩
  | enable | ignored => exact ⟨.cons .refl nofun, h.allowed, h.pwm⟩
  | reported on hon =>
    apply PassInv.checkConnectorLock
    rcases hon with rfl | ⟨rfl, -⟩ <;> cases on <;> exact ⟨.cons .refl nofun, h.allowed, h.pwm⟩
  | set _ hheld ih => exact ih.of_held hheld
  | check _ ih => exact ih.checkConnectorLock
  | unlock _ _ ih => exact (ih.emit rfl).of_eq rfl rfl id
  | @emit _ _ o _ ho ih =>
    apply ih.emit
    cases o <;> first | rfl | cases ho
  | @command _ s₁ _ running o _ ho hheld ih =>
    have hsent : PassInv s.trace ok ({ s₁ with pwmRunning := running }.emit o) :=
      ih.command rfl rfl ho
    exact hsent.of_held hheld
  | off _ ih => exact ih.off

/-- Every power on that a call writes is written under `ok`, where `ok` follows from the call
running a pass in a state that permits power, with PWM running. -/
theorem step_passInv (h : StepInv s) {i : ℤ × Input}
    (hok : ∀ cp, passCpState s i = some cp → permitsPower cp s.hasVentilation = true →
      (step s i).pwmRunning = true → ok) : PassInv s.trace ok (step s i) := by
  rcases step_outside with ⟨cp, s₁, hcp, hstep, hout, hv⟩ | ⟨-, hout⟩
  · rw [hstep] at hok ⊢
    apply PassInv.signalEvents
    apply PassInv.signalRawCpState
    have hsw : PassInv s.trace ok (switchCpState i.1 s₁ (cp.getD s₁.lastCpState)).sm := by
      refine PassInv.passClosed.switchCpState i.1 _ (fun hpermits hr => ?_) (hout.passInv h)
      have hpwm := (feedStateMachine_pwmRunning i.1 cp hpermits).trans hr
      rw [hout.kept.lastCpState, hv] at hpermits
      exact hok _ hcp hpermits hpwm
    exact hsw.checkConnectorLock.of_eq rfl rfl id
  · exact hout.passInv h

lemma Kept.lastForwarded (h : Kept s s') (hf : lastForwarded s'.trace = true) :
    lastForwarded s.trace = true := by
  have h := h.written
  generalize s'.trace = t at h hf
  induction h with
  | refl => exact hf
  | @cons e t _ he ih =>
    apply ih
    cases e with
    | call => exact hf
    | out o =>
      cases o with
      | allowPowerOn =>
        cases hf
        cases he
      | _ => exact hf

lemma Kept.onlyInCD (hk : Kept s s') (h : OnlyInCD s) : OnlyInCD s' := by
  intro hf
  rw [hk.lastCpState]
  exact h (hk.lastForwarded hf)

lemma step_onlyInCD (h : OnlyInCD s) (i : ℤ × Input) : OnlyInCD (step s i) := by
  rcases step_cases with ⟨cp, s₁, -, hs, hk, -⟩ | ⟨-, hk⟩
  · rw [hs]
    intro hf
    rw [feedStateMachine_lastCpState]
    by_contra! hcd
    have hcp : permitsPower (cp.getD s₁.lastCpState) s₁.hasVentilation = false := by
      simp [permitsPower, hcd]
    rw [feedStateMachine_off i.1 cp (hk.onlyInCD h) hcp] at hf
    cases hf
  · exact hk.onlyInCD h

lemma step_off (h : OnlyInCD s) (i : ℤ × Input) {cp : RawCPState}
    (hcp : passCpState s i = some cp) (hoff : permitsPower cp s.hasVentilation = false) :
    lastForwarded (step s i).trace = false := by
  rcases step_cases with ⟨raw, s₁, hraw, hs, hk, hv⟩ | ⟨hnone, -⟩
  · rw [hs]
    apply feedStateMachine_off i.1 raw (hk.onlyInCD h)
    rw [hk.lastCpState, hv, ← Option.some.inj (hcp.symm.trans hraw)]
    exact hoff
  · rw [hnone] at hcp
    cases hcp

end Step

/-- The contactor permission follows the control pilot, in every run: whatever call comes next,
a power on is forwarded only in a pass of C or of D with ventilation, with PWM running and
commanded and with a permission that has not been revoked; and after a pass in any other state
the last value forwarded is false. -/
theorem contactor_permission_follows_pilot (config : IecConfig) (inputs : List (ℤ × Input))
    (i : ℤ × Input) :
    let s := IECStateMachine.run config inputs
    let s' := step s i
    (∀ newer older reason,
      s'.trace = newer ++ .out (.allowPowerOn true reason) :: older →
      s.trace.length ≤ older.length →
        (∃ cp, passCpState s i = some cp ∧ s'.lastCpState = cp ∧
          permitsPower cp s.hasVentilation = true ∧ s'.pwmRunning = true) ∧
        pwmCommanded older = true ∧ permitted older = true) ∧
    (∀ cp, passCpState s i = some cp → permitsPower cp s.hasVentilation = false →
      lastForwarded s'.trace = false) := by
  intro s s'
  have h : StepInv s := by
    refine run_inv (fun s i (h : StepInv s) => ?_) (init_inv config) inputs
    have hp : PassInv s.trace True (step s i) := step_passInv h fun _ _ _ _ => trivial
    exact ⟨hp.allowed, hp.pwm, step_onlyInCD h.onlyInCD i⟩
  refine ⟨?_, fun cp => step_off h.onlyInCD i⟩
  intro newer older reason ht hlen
  have hlast : ∀ cp, passCpState s i = some cp → s'.lastCpState = cp := by
    intro cp hcp
    rcases step_cases with ⟨raw, s₁, hraw, hs, hk, -⟩ | ⟨hnone, -⟩
    · rw [show s' = step s i from rfl, hs, feedStateMachine_lastCpState, hk.lastCpState]
      exact Option.some.inj (hraw.symm.trans hcp)
    · rw [hnone] at hcp
      cases hcp
  have hp := step_passInv h (fun cp hcp hperm hr =>
    (⟨cp, hcp, hlast cp hcp, hperm, hr⟩ : ∃ cp, passCpState s i = some cp ∧ s'.lastCpState = cp ∧
      permitsPower cp s.hasVentilation = true ∧ s'.pwmRunning = true))
  obtain ⟨hok, hperm, hpwm⟩ := hp.grows.entry ht hlen reason rfl
  exact ⟨hok, hpwm, hperm⟩

example : lastForwarded (run ⟨true, false, false, 500⟩
    [(0, .enable true), (0, .bspEvent .b), (1, .setPwm (1 / 2)), (2, .bspEvent .c),
      (3, .allowPowerOn true .fullPowerCharging)]).trace = true := by
  decide +kernel

end Everest.Evse
