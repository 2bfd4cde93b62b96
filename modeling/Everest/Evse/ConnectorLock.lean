import Everest.Evse.IecPasses

namespace Everest.Evse
open Runs IECStateMachine

def enabledBy : List Entry → Bool
  | [] => false
  | .call (.enable en) :: _ => en
  | _ :: older => enabledBy older

/-- The relais state that the driver confirmed last, in an event that was not ignored. -/
def relaisConfirmed : List Entry → Bool
  | [] => false
  | .call (.processBspEvent .powerOn) :: _ => true
  | .call (.processBspEvent .powerOff) :: _ => false
  | .call (.bspEvent .powerOn) :: older => enabledBy older || relaisConfirmed older
  | .call (.bspEvent .powerOff) :: older => !enabledBy older && relaisConfirmed older
  | _ :: older => relaisConfirmed older

def UnlockOk (e : Entry) (older : List Entry) : Prop :=
  e = .out .unlock → relaisConfirmed older = false

def Output.keepsLock : Output → Bool
  | .unlock => false
  | _ => true

structure Traced (s : IECStateMachine) : Prop where
  enabled : s.enabled = enabledBy s.trace
  relaisOn : s.relaisOn = relaisConfirmed s.trace
  unlocks : Grows UnlockOk [] s.trace

structure Secured (s : IECStateMachine) : Prop extends Traced s where
  locked : s.relaisOn = true → s.isLocked = true

variable {o : Output} {i : Input}

namespace Traced

variable {s s' : IECStateMachine}

lemma of_eq (h : Traced s) (he : s'.enabled = s.enabled) (hr : s'.relaisOn = s.relaisOn)
    (ht : s'.trace = s.trace) : Traced s' := by
  refine ⟨?_, ?_, ?_⟩
  · rw [he, ht]
    exact h.enabled
  · rw [hr, ht]
    exact h.relaisOn
  · rw [ht]
    exact h.unlocks

lemma emit (h : Traced s) (ho : o.keepsLock = true) : Traced (s.emit o) := by
  refine ⟨h.enabled, h.relaisOn, h.unlocks.cons ?_⟩
  intro hu
  cases hu
  cases ho

lemma emit_unlock (h : Traced s) (hr : s.relaisOn = false) : Traced (s.emit .unlock) := by
  refine ⟨h.enabled, h.relaisOn, h.unlocks.cons ?_⟩
  intro _
  exact h.relaisOn.symm.trans hr

lemma call (h : Traced s) (hi : i.plain = true) :
    Traced { s with trace := .call i :: s.trace } := by
  refine ⟨h.enabled.trans ?_, h.relaisOn.trans ?_, h.unlocks.cons ?_⟩
  · cases i <;> first | rfl | cases hi
  · cases i with
    | bspEvent event | processBspEvent event => cases event <;> first | rfl | cases hi
    | _ => rfl
  · intro hu
    cases hu

lemma forward (h : Traced s) {value : Bool} : Traced (s.callAllowPowerOnBsp value) := by
  cases value with
  | false | true =>
    refine Traced.emit ?_ rfl
    exact h.of_eq rfl rfl rfl

lemma resetToX1 (h : Traced s) : Traced s.resetToX1 := by
  unfold IECStateMachine.resetToX1
  split_ifs
  · exact h
  · exact (h.emit rfl).emit rfl

lemma latchCaptive (h : Traced s) : Traced s.latchCaptive := by
  unfold IECStateMachine.latchCaptive
  split_ifs
  · exact h.of_eq rfl rfl rfl
  · exact h

lemma checkConnectorLock (h : Traced s) : Secured s.checkConnectorLock := by
  have h := h.latchCaptive
  unfold IECStateMachine.checkConnectorLock
  dsimp only
  generalize s.latchCaptive = s at h
  split_ifs with hlock hunlock
  · refine ⟨Traced.emit ?_ rfl, fun _ => rfl⟩
    exact h.of_eq rfl rfl rfl
  · -- an unlock is not wanted while the relais are closed
    have hr : s.relaisOn = false := by
      have := (Bool.and_eq_true _ _ ▸ hunlock).2
      cases hr : s.relaisOn with
      | false => rfl
      | true => simp [lockWanted, hr] at this
    refine ⟨Traced.emit_unlock ?_ hr, fun hon => ?_⟩
    · exact h.of_eq rfl rfl rfl
    rw [show s.relaisOn = true from hon] at hr
    cases hr
  · refine ⟨h, fun hon => ?_⟩
    simpa [lockWanted, hon] using hlock

end Traced

namespace Secured

variable {s s' : IECStateMachine}

lemma of_eq (h : Secured s) (he : s'.enabled = s.enabled) (hr : s'.relaisOn = s.relaisOn)
    (hl : s'.isLocked = s.isLocked) (ht : s'.trace = s.trace) : Secured s' := by
  refine ⟨h.toTraced.of_eq he hr ht, ?_⟩
  rw [hr, hl]
  exact h.locked

lemma emit (h : Secured s) (ho : o.keepsLock = true) : Secured (s.emit o) :=
  ⟨h.toTraced.emit ho, h.locked⟩

lemma call (h : Secured s) (hi : i.plain = true) : Secured { s with trace := .call i :: s.trace } :=
  ⟨h.toTraced.call hi, h.locked⟩

lemma signalEvents (h : Secured s) (events : List CPEvent) :
    Secured (signalEvents events s) := by
  induction events generalizing s with
  | nil => exact h
  | cons e events ih => exact ih (h.emit rfl)

lemma signalRawCpState (h : Secured s) (cp : Option RawCPState) :
    Secured (signalRawCpState cp s) := by
  unfold IECStateMachine.signalRawCpState
  split
  · split_ifs
    · refine Secured.emit ?_ rfl
      exact h.of_eq rfl rfl rfl rfl
    · exact h
  · exact h

end Secured

section Pass

variable {s : IECStateMachine}

lemma Traced.passClosed : PassClosed True Traced where
  set h hwatched _ := by
    simp only [watched, Prod.mk.injEq] at hwatched
    obtain ⟨ht, -, he, hr⟩ := hwatched
    exact h.of_eq he hr ht
  off h := h.forward
  on h _ _ _ := h.forward
  resetToX1 h _ := h.resetToX1

end Pass

section Call

variable {s s' : IECStateMachine}

lemma Secured.of_held (h : Secured s) (hheld : s'.held = s.held) : Secured s' := by
  simp only [held, Prod.mk.injEq] at hheld
  obtain ⟨ht, -, -, he, hr, hl, -⟩ := hheld
  exact h.of_eq he hr hl ht

lemma reported_traced {on : Bool} (h : Traced s) (hon : Reports s i on) :
    Traced { s with relaisOn := on, trace := .call i :: s.trace } := by
  rcases hon with rfl | ⟨rfl, hen⟩
  · cases on <;> exact ⟨h.enabled, rfl, h.unlocks.cons nofun⟩
  · have htrace : enabledBy s.trace = true := h.enabled.symm.trans hen
    cases on <;> exact ⟨h.enabled, by simp [relaisConfirmed, htrace], h.unlocks.cons nofun⟩

lemma Outside.secured (hout : Outside s i s') (h : Secured s) : Secured s' := by
  induction hout with
  | call hi => exact h.call hi
  | allow => exact ⟨⟨h.enabled, h.relaisOn, h.unlocks.cons nofun⟩, h.locked⟩
  | enable => exact ⟨⟨rfl, h.relaisOn, h.unlocks.cons nofun⟩, h.locked⟩
  | ignored event hoff =>
    have htrace : enabledBy s.trace = false := h.enabled.symm.trans hoff
    refine ⟨⟨h.enabled, h.relaisOn.trans ?_, h.unlocks.cons nofun⟩, h.locked⟩
    cases event <;> simp [relaisConfirmed, htrace]
  | reported on hon => exact (reported_traced h.toTraced hon).checkConnectorLock
  | set _ hheld ih => exact ih.of_held hheld
  | check _ ih => exact ih.toTraced.checkConnectorLock
  | unlock _ hr ih =>
    refine ⟨(ih.toTraced.emit_unlock hr).of_eq rfl rfl rfl, fun hon => ?_⟩
    exact absurd (hr.symm.trans hon) Bool.false_ne_true
  | @emit _ _ o _ ho ih =>
    apply ih.emit
    cases o <;> first | rfl | cases ho
  | @command _ s₁ _ running o _ ho hheld ih =>
    have hset : Secured { s₁ with pwmRunning := running } := ih.of_eq rfl rfl rfl rfl
    have hlock : o.keepsLock = true := by
      cases o <;> first | rfl | cases ho
    exact (hset.emit hlock).of_held hheld
  | off _ ih => exact ⟨ih.toTraced.forward, ih.locked⟩

end Call

lemma step_secured (s : IECStateMachine) (i : ℤ × Input) (h : Secured s) :
    Secured (step s i) := by
  rcases step_outside with ⟨cp, s₁, -, hstep, hout, -⟩ | ⟨-, hout⟩
  · rw [hstep]
    refine Secured.signalEvents (Secured.signalRawCpState ?_ cp) _
    exact (Traced.passClosed.switchCpState i.1 _ (fun _ _ => trivial)
      (hout.secured h).toTraced).checkConnectorLock.of_eq rfl rfl rfl rfl
  · exact hout.secured h

lemma init_secured {config : IecConfig} : Secured (init config) :=
  ⟨⟨rfl, rfl, .refl⟩, fun h => nomatch h⟩

/-- The connector is never unlocked under closed contactors: after every run the lock is
engaged if the relais are closed, and every unlock was signalled at a point of the trace at
which the relais were confirmed open. The flag is what the trace says at each of these points. -/
theorem never_unlocked_under_power (config : IecConfig) (inputs : List (ℤ × Input)) :
    let s := run config inputs
    (s.relaisOn = true → s.isLocked = true) ∧ s.relaisOn = relaisConfirmed s.trace ∧
      ∀ newer older, s.trace = newer ++ .out .unlock :: older → relaisConfirmed older = false := by
  intro s
  have h : Secured s := run_inv step_secured init_secured inputs
  refine ⟨h.locked, h.relaisOn, ?_⟩
  intro newer older ht
  exact h.unlocks.entry ht (Nat.zero_le _) rfl

example :
    let s := IECStateMachine.run ⟨true, false, false, 500⟩
      [(0, .enable true), (0, .bspEvent .powerOn), (1, .connectorForceUnlock)]
    s.relaisOn = true ∧ s.isLocked = true := by
  decide +kernel

end Everest.Evse
