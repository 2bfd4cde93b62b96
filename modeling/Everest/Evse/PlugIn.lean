import Everest.Evse.IecPasses

namespace Everest.Evse
open Runs IECStateMachine

def CPEvent.isPlug : CPEvent → Bool
  | .carPluggedIn => true
  | .carUnplugged => true
  | _ => false

def plugTrace (t : List Entry) : List CPEvent :=
  t.filterMap fun
    | .out (.event e) => if e.isPlug then some e else none
    | _ => none

variable (s : IECStateMachine)

/-- A plug-in has been announced since the later of the start and the last unplug. -/
def announced : Bool :=
  decide ((plugTrace s.trace).head? = some .carPluggedIn)

/-- Each unplug ends a plug-in announced before it and not ended yet. -/
def unplugsMatched : List CPEvent → Bool
  | [] => true
  | .carUnplugged :: older =>
    decide (older.head? = some .carPluggedIn) && unplugsMatched older
  | _ :: older => unplugsMatched older

def ConnectedAnnounced : Prop :=
  (s.lastCpState = .b ∨ s.lastCpState = .c → announced s = true) ∧
    unplugsMatched (plugTrace s.trace) = true

instance (s : IECStateMachine) : Decidable (ConnectedAnnounced s) :=
  inferInstanceAs (Decidable (_ ∧ _))

def plugInFromB : Prop :=
  s.lastCpState = .a ∨ s.lastCpState = .disabled ∨
    (s.carPluggedIn = false ∧ (s.lastCpState = .f ∨ s.lastCpState = .e))

def plugInFromC : Prop :=
  s.lastCpState = .a ∨ s.lastCpState = .disabled ∨
    (s.carPluggedIn = false ∧ s.lastCpState = .f)

instance (s : IECStateMachine) : Decidable (plugInFromB s) := inferInstanceAs (Decidable (_ ∨ _))

instance (s : IECStateMachine) : Decidable (plugInFromC s) := inferInstanceAs (Decidable (_ ∨ _))

def plugEvent : RawCPState → Option CPEvent
  | .a => if s.lastCpState ≠ .a ∧ s.lastCpState ≠ .disabled then some .carUnplugged else none
  | .b => if plugInFromB s then some .carPluggedIn else none
  | .c => if plugInFromC s then some .carPluggedIn else none
  | .d => if s.hasVentilation = true ∧ plugInFromC s then some .carPluggedIn else none
  | _ => none

def plugFlag (cp : RawCPState) : Bool :=
  decide (plugEvent s cp = some .carPluggedIn) ||
    (s.carPluggedIn && !decide (cp = .a ∧ s.lastCpState ≠ .a))

def plugView (p : Pass) : List CPEvent × List CPEvent × Bool :=
  (p.events.filter CPEvent.isPlug, plugTrace p.sm.trace, p.sm.carPluggedIn)

section Pass

variable (now : ℤ) (s : IECStateMachine) (p : Pass)

lemma resetToX1_plug : plugTrace s.resetToX1.trace = plugTrace s.trace ∧
    s.resetToX1.carPluggedIn = s.carPluggedIn := by
  unfold resetToX1
  split_ifs <;> exact ⟨rfl, rfl⟩

lemma pwmEdgesInC_plug : plugView (pwmEdgesInC p) = plugView p := by
  unfold pwmEdgesInC
  split_ifs <;> rfl

lemma timeoutInC1_plug : plugView (timeoutInC1 now p) = plugView p := by
  unfold timeoutInC1
  split_ifs <;> rfl

lemma push_plug {e : CPEvent} (he : e.isPlug = false) : plugView (p.push e) = plugView p := by
  simp [plugView, Pass.push, he]

lemma powerOnInC2_plug : plugView (powerOnInC2 p) = plugView p := by
  have hs : plugView { p with sm := p.sm.switchOnInC2 } = plugView p := by
    unfold switchOnInC2
    split_ifs <;> rfl
  unfold powerOnInC2
  dsimp only
  split_ifs
  · exact (push_plug _ rfl).trans hs
  · exact hs
  · rfl

lemma plugInAtB_plug : plugView (plugInAtB p) =
    if plugInFromB p.sm then ((plugView p).1 ++ [.carPluggedIn], (plugView p).2.1, true)
    else plugView p := by
  unfold plugInAtB
  by_cases h : plugInFromB p.sm
  · rw [if_pos h, if_pos (show _ ∨ _ from h)]
    simp [plugView, Pass.push, CPEvent.isPlug]
  · rw [if_neg h, if_neg (show ¬(_ ∨ _) from h)]

lemma plugInAtC_plug : plugView (plugInAtC p) =
    if plugInFromC p.sm then ((plugView p).1 ++ [.carPluggedIn], (plugView p).2.1, true)
    else plugView p := by
  unfold plugInAtC
  by_cases h : plugInFromC p.sm
  · rw [if_pos h, if_pos (show _ ∨ _ from h)]
    simp [plugView, Pass.push, CPEvent.isPlug]
  · rw [if_neg h, if_neg (show ¬(_ ∨ _) from h)]
    split_ifs
    · exact push_plug p rfl
    · rfl

lemma stateC_plug : plugView (stateC now s) =
    if plugInFromC s then ([.carPluggedIn], plugTrace s.trace, true)
    else ([], plugTrace s.trace, s.carPluggedIn) := by
  unfold stateC
  rw [powerOnInC2_plug, timeoutInC1_plug, pwmEdgesInC_plug, plugInAtC_plug]
  rfl

lemma stateDisabled_plug :
    plugView (stateDisabled s) = ([], plugTrace s.trace, s.carPluggedIn) := by
  obtain ⟨ht, hf⟩ := resetToX1_plug { s with pwmRunning := false }
  unfold stateDisabled
  split_ifs
  · exact congrArg₂ (fun t f => ([], t, f)) ht hf
  · rfl

lemma stateA_plug : plugView (stateA s) =
    ((if s.lastCpState ≠ .a ∧ s.lastCpState ≠ .disabled then [.carUnplugged] else []),
      plugTrace s.trace, if s.lastCpState ≠ .a then false else s.carPluggedIn) := by
  have he : plugView (enterStateA s) =
      ([], plugTrace s.trace, if s.lastCpState ≠ .a then false else s.carPluggedIn) := by
    obtain ⟨ht, -⟩ := resetToX1_plug { s with pwmRunning := false }
    unfold enterStateA
    split_ifs
    · exact congrArg (fun t => ([], t, false)) ht
    · rfl
  have hpush (p : Pass) : plugView (p.push .carUnplugged) =
      ((plugView p).1 ++ [.carUnplugged], (plugView p).2) := by
    simp [plugView, Pass.push, CPEvent.isPlug]
  unfold stateA
  by_cases hu : s.lastCpState ≠ .a ∧ s.lastCpState ≠ .disabled
  · rw [if_pos hu, if_pos hu, hpush, he]
    rfl
  · rw [if_neg hu, if_neg hu, he]

lemma stateB_plug : plugView (stateB s) =
    if plugInFromB s then ([.carPluggedIn], plugTrace s.trace, true)
    else ([], plugTrace s.trace, s.carPluggedIn) := by
  have hl : plugInFromB (stopPowerInB s.lockInStateB).sm ↔ plugInFromB s := by
    unfold stopPowerInB lockInStateB
    split_ifs <;> rfl
  have hv : plugView (stopPowerInB s.lockInStateB) = ([], plugTrace s.trace, s.carPluggedIn) := by
    unfold stopPowerInB lockInStateB
    split_ifs <;> rfl
  have hp : plugView (plugInAtB (stopPowerInB s.lockInStateB)) =
      if plugInFromB s then ([.carPluggedIn], plugTrace s.trace, true)
      else ([], plugTrace s.trace, s.carPluggedIn) := by
    rw [plugInAtB_plug, hv]
    exact if_congr hl rfl rfl
  unfold stateB
  split
  · exact (push_plug _ rfl).trans hp
  · exact hp

lemma stateE_plug : plugView (stateE s) = ([], plugTrace s.trace, s.carPluggedIn) := by
  have he (s : IECStateMachine) (b : Bool) :
      plugView (enterStateE s b) = ([], plugTrace s.trace, s.carPluggedIn) := by
    unfold enterStateE resetToX1
    dsimp only
    split_ifs <;> rfl
  unfold stateE
  dsimp only
  split_ifs
  · exact he _ _
  · rfl
  · exact he _ _
  · rfl

lemma stateF_plug : plugView (stateF now s) = ([], plugTrace s.trace, s.carPluggedIn) := by
  unfold stateF
  dsimp only
  split_ifs <;> rfl

lemma stateD_plug : plugView (stateD now s) =
    if s.hasVentilation = true ∧ plugInFromC s then ([.carPluggedIn], plugTrace s.trace, true)
    else ([], plugTrace s.trace, s.carPluggedIn) := by
  cases hv : s.hasVentilation with
  | true =>
    have hd : stateD now s = stateC now s.connectorLock := by
      simp [stateD, connectorLock, hv]
    simp only [hd, stateC_plug, true_and]
    rfl
  | false =>
    have hd : stateD now s =
        { sm := s.connectorLock.callAllowPowerOnBsp false, timerStateC1 := .stop } := by
      simp [stateD, connectorLock, hv]
    rw [hd, if_neg (by simp)]
    rfl

lemma switchCpState_plug (cp : RawCPState) : plugView (switchCpState now s cp) =
    ((plugEvent s cp).toList, plugTrace s.trace, plugFlag s cp) := by
  cases cp with
  | disabled => simp [switchCpState, stateDisabled_plug, plugFlag, plugEvent]
  | a =>
    rw [switchCpState, stateA_plug]
    unfold plugFlag plugEvent
    split_ifs <;> simp_all
  | b =>
    rw [switchCpState, stateB_plug]
    unfold plugFlag plugEvent
    split_ifs <;> simp
  | c =>
    rw [switchCpState, stateC_plug]
    unfold plugFlag plugEvent
    split_ifs <;> simp
  | d =>
    rw [switchCpState, stateD_plug]
    unfold plugFlag plugEvent
    split_ifs <;> simp
  | e => simp [switchCpState, stateE_plug, plugFlag, plugEvent]
  | f => simp [switchCpState, stateF_plug, plugFlag, plugEvent]

end Pass

variable (events : List CPEvent)

lemma signalEvents_plugTrace (s : IECStateMachine) :
    plugTrace (signalEvents events s).trace =
      (events.filter CPEvent.isPlug).reverse ++ plugTrace s.trace := by
  induction events generalizing s with
  | nil => rfl
  | cons e events ih =>
    have he : plugTrace (s.emit (.event e)).trace =
        (if e.isPlug then [e] else []) ++ plugTrace s.trace := by
      cases h : e.isPlug <;> simp [plugTrace, emit, h]
    rw [show signalEvents (e :: events) s = signalEvents events (s.emit (.event e)) from rfl, ih,
      he]
    cases h : e.isPlug <;> simp [h]

lemma signalEvents_carPluggedIn (s : IECStateMachine) :
    (signalEvents events s).carPluggedIn = s.carPluggedIn := by
  induction events generalizing s with
  | nil => rfl
  | cons e events ih => exact ih _

lemma signalRawCpState_plug {cp : Option RawCPState} {s : IECStateMachine} :
    plugTrace (signalRawCpState cp s).trace = plugTrace s.trace ∧
      (signalRawCpState cp s).carPluggedIn = s.carPluggedIn := by
  unfold signalRawCpState
  split
  · split_ifs <;> exact ⟨rfl, rfl⟩
  · exact ⟨rfl, rfl⟩

lemma checkConnectorLock_plug :
    plugTrace s.checkConnectorLock.trace = plugTrace s.trace ∧
      s.checkConnectorLock.carPluggedIn = s.carPluggedIn := by
  unfold checkConnectorLock latchCaptive
  dsimp only
  split_ifs <;> exact ⟨rfl, rfl⟩

lemma feedStateMachine_plug {now : ℤ} {cp : Option RawCPState} {s : IECStateMachine} :
    plugTrace (feedStateMachine now cp s).trace =
        (plugEvent s (cp.getD s.lastCpState)).toList ++ plugTrace s.trace ∧
      (feedStateMachine now cp s).carPluggedIn = plugFlag s (cp.getD s.lastCpState) := by
  have h := switchCpState_plug now s (cp.getD s.lastCpState)
  simp only [plugView, Prod.mk.injEq] at h
  obtain ⟨he, ht, hf⟩ := h
  unfold feedStateMachine stateMachine
  rw [signalEvents_plugTrace, signalEvents_carPluggedIn, signalRawCpState_plug.1,
    signalRawCpState_plug.2, he]
  unfold finishPass
  rw [(checkConnectorLock_plug _).1, (checkConnectorLock_plug _).2, ht, hf]
  cases plugEvent s (cp.getD s.lastCpState) <;> exact ⟨rfl, rfl⟩

/-- Changes of the control pilot state in which the plug-in is missed, or an unplug is sent,
although no car has been announced. -/
def missesPlugIn : RawCPState → RawCPState → Bool
  | .d, .b => true
  | .d, .c => true
  | .e, .c => true
  | .d, .a => true
  | .e, .a => true
  | .f, .a => true
  | _, _ => false

def PlugInSeen (i : ℤ × Input) : Prop :=
  ∀ cp, passCpState s i = some cp → missesPlugIn s.lastCpState cp = true → announced s = true

def FlagAnnounced : Prop := s.carPluggedIn = true → announced s = true

section

variable {s s' : IECStateMachine} (h : Kept s s')
include h

lemma Kept.plugTrace_eq :
    plugTrace s'.trace = plugTrace s.trace := by
  have h := h.written
  generalize s'.trace = t at h
  induction h with
  | refl => rfl
  | @cons e t _ he ih =>
    rw [← ih]
    cases e with
    | call => rfl
    | out o =>
      cases o with
      | event e => cases e <;> first | rfl | cases he
      | _ => rfl

lemma Kept.announced_eq :
    announced s' = announced s := by
  simp only [announced, h.plugTrace_eq]

lemma Kept.connectedAnnounced_iff :
    ConnectedAnnounced s' ↔ ConnectedAnnounced s := by
  unfold ConnectedAnnounced
  rw [h.lastCpState, h.plugTrace_eq, h.announced_eq]

lemma Kept.flagAnnounced (hf : FlagAnnounced s) :
    FlagAnnounced s' := by
  unfold FlagAnnounced
  rw [h.carPluggedIn, h.announced_eq]
  exact hf

end

section Feed

variable {s : IECStateMachine}

lemma plugEvent_cases (s : IECStateMachine) (cp : RawCPState) :
    plugEvent s cp = none ∨ plugEvent s cp = some .carPluggedIn ∨
      (plugEvent s cp = some .carUnplugged ∧ cp = .a ∧ s.lastCpState ≠ .a ∧
        s.lastCpState ≠ .disabled) := by
  unfold plugEvent
  cases cp with
  | a =>
    by_cases hu : s.lastCpState ≠ .a ∧ s.lastCpState ≠ .disabled
    · exact .inr (.inr ⟨if_pos hu, rfl, hu⟩)
    · exact .inl (if_neg hu)
  | b | c | d => split_ifs <;> simp
  | _ => exact .inl rfl

lemma missesPlugIn_of_pluggedIn {cp : RawCPState} (he : plugEvent s cp = some .carPluggedIn) :
    missesPlugIn s.lastCpState cp = false := by
  unfold plugEvent plugInFromB plugInFromC at he
  cases cp <;> cases hl : s.lastCpState <;> first | rfl | simp [hl] at he

/-- A pass that reports nothing is right to do so in B and C if a car is announced already; the
changes that come without one are those of `missesPlugIn`. -/
theorem missesPlugIn_of_silent {cp : RawCPState} (he : plugEvent s cp = none)
    (h : FlagAnnounced s) (hc : s.lastCpState = .b ∨ s.lastCpState = .c → announced s = true) :
    (cp = .b ∨ cp = .c → announced s = true) ↔
      (missesPlugIn s.lastCpState cp = true → announced s = true) := by
  by_cases ha : announced s = true
  · simp [ha]
  · have hf : s.carPluggedIn = false := by
      by_contra hp
      exact ha (h (by simpa using hp))
    have hl : ¬(s.lastCpState = .b ∨ s.lastCpState = .c) := fun hbc => ha (hc hbc)
    have hm : (cp = .b ∨ cp = .c) ↔ missesPlugIn s.lastCpState cp = true := by
      unfold plugEvent plugInFromB plugInFromC at he
      cases cp <;> cases hs : s.lastCpState <;> simp_all [missesPlugIn]
    rw [hm]

lemma unplugged_announced (hu : s.lastCpState ≠ .a ∧ s.lastCpState ≠ .disabled)
    (hc : s.lastCpState = .b ∨ s.lastCpState = .c → announced s = true) :
    announced s = true ↔ (missesPlugIn s.lastCpState .a = true → announced s = true) := by
  cases hl : s.lastCpState <;> simp_all [missesPlugIn]

variable (now : ℤ) (cp : Option RawCPState)

lemma feedStateMachine_connectedAnnounced (h : FlagAnnounced s) (hc : ConnectedAnnounced s) :
    ConnectedAnnounced (feedStateMachine now cp s) ↔
      (missesPlugIn s.lastCpState (cp.getD s.lastCpState) = true → announced s = true) := by
  obtain ⟨ht, -⟩ := feedStateMachine_plug
  unfold ConnectedAnnounced
  rw [show announced (feedStateMachine now cp s) = decide (_ = _) from rfl, ht,
    feedStateMachine_lastCpState]
  generalize cp.getD s.lastCpState = cp
  rcases plugEvent_cases s cp with he | he | ⟨he, rfl, hu⟩
  · rw [← missesPlugIn_of_silent he h hc.1, he]
    exact and_iff_left hc.2
  · rw [he]
    simpa [missesPlugIn_of_pluggedIn he, unplugsMatched] using hc.2
  · rw [← unplugged_announced hu hc.1, he]
    simp [unplugsMatched, hc.2, announced]

end Feed

lemma step_flagAnnounced (i : ℤ × Input) (h : FlagAnnounced s) : FlagAnnounced (step s i) := by
  rcases step_cases with ⟨cp, s₁, -, hs, hk, -⟩ | ⟨-, hk⟩
  · have h₁ := hk.flagAnnounced h
    obtain ⟨ht, hf⟩ := feedStateMachine_plug
    rw [hs]
    unfold FlagAnnounced announced
    rw [ht, hf]
    generalize cp.getD s₁.lastCpState = cp
    intro hflag
    unfold plugFlag at hflag
    rcases plugEvent_cases s₁ cp with he | he | ⟨he, rfl, hl, -⟩
    · rw [he]
      simp only [he, reduceCtorEq, decide_false, Bool.false_or, Bool.and_eq_true] at hflag
      exact h₁ hflag.1
    · simp [he]
    · simp [he, hl] at hflag
  · exact hk.flagAnnounced h

lemma step_connectedAnnounced (i : ℤ × Input) (h : FlagAnnounced s) (hc : ConnectedAnnounced s) :
    ConnectedAnnounced (step s i) ↔ PlugInSeen s i := by
  unfold PlugInSeen
  rcases step_cases with ⟨cp, s₁, hcp, hs, hk, -⟩ | ⟨hnone, hk⟩
  · rw [hs, feedStateMachine_connectedAnnounced i.1 cp (hk.flagAnnounced h)
      (hk.connectedAnnounced_iff.2 hc), hk.lastCpState, hk.announced_eq]
    simp [hcp]
  · simp [hk.connectedAnnounced_iff, hc, hnone]

/-- A run announces every connected car, and unplugs none that it has not announced, exactly if
the control pilot never goes from D to B or C, from E to C, or from D, E or F to A while no car
is announced. -/
theorem connected_car_announced_iff (config : IecConfig) (inputs : List (ℤ × Input)) :
    AllStates step ConnectedAnnounced (init config) inputs ↔
      AllSteps step PlugInSeen (init config) inputs :=
  allStates_iff_allSteps step_flagAnnounced step_connectedAnnounced (fun h => by cases h)
    ⟨by simp [init], rfl⟩ inputs

/-- From E straight to C the car is connected and nobody is told; from F to A an unplug is sent
for a car that was never there. -/
theorem connected_car_not_announced :
    ¬ AllStates step ConnectedAnnounced (init ⟨true, false, false, 500⟩)
      [(0, .enable true), (0, .bspEvent .e), (0, .bspEvent .c)] ∧
    ¬ AllStates step ConnectedAnnounced (init ⟨true, false, false, 500⟩)
      [(0, .enable true), (0, .bspEvent .f), (0, .bspEvent .a)] := by
  decide

end Everest.Evse
