import Everest.Eebus.LpcUseCaseHandler
import Everest.Lib.Runs

namespace Everest.Eebus
open Runs LpcUseCaseHandler

inductive EebusConnectionEvent
  | connected
  | disconnected
  | doneAddingUseCases
  | started
  deriving DecidableEq

inductive ConnectionState
  | init
  | disconnected
  | addingUseCases
  | readyToStart
  | running
  deriving DecidableEq

inductive Action
  | handle (event : EebusConnectionEvent)
  | startService
  deriving DecidableEq

structure EebusConnectionHandler (Ski : Type) where
  clock : ℤ
  failsafeControlLimit : ℚ
  state : ConnectionState
  lpcHandler : Option (LpcUseCaseHandler Ski)
  actions : List Action
  /-- Whether the two timers have a handler in the event loop. -/
  reconnectionTimer : Bool
  stateMachineTimer : Bool
  /-- The last handler that was destroyed, and what such handlers published. -/
  former : Option (LpcUseCaseHandler Ski)
  earlier : List (List ScheduleReqEntry)

/-- What the event loop does next; a `Bool` is the result of a call to the service. -/
inductive Input (Ski : Type)
  | tick
  | event (ski : Ski) (event : UseCaseEvent)
  /-- The stream of one of the event readers ends. -/
  | closed
  | action (ok : Bool)
  | reconnect (connected added : Bool)

namespace EebusConnectionHandler

variable {Ski : Type} (s : EebusConnectionHandler Ski)

def published : List (List ScheduleReqEntry) := (s.lpcHandler.elim [] (·.published)) ++ s.earlier

def reset : EebusConnectionHandler Ski :=
  { s with lpcHandler := none, former := s.lpcHandler <|> s.former, earlier := s.published }

def handleEvent : EebusConnectionEvent → EebusConnectionHandler Ski
  | .connected =>
    if s.state = .init ∨ s.state = .disconnected then { s with state := .addingUseCases } else s
  | .disconnected => { s.reset with state := .disconnected, reconnectionTimer := true }
  | .started =>
    if s.state = .readyToStart then { s with state := .running, stateMachineTimer := true } else s
  | .doneAddingUseCases =>
    if s.state = .addingUseCases then
      { s with state := .readyToStart, actions := s.actions ++ [.startService] }
    else s

def startService (ok : Bool) : EebusConnectionHandler Ski :=
  if ok then
    { s with
      lpcHandler := s.lpcHandler.map (·.start), actions := s.actions ++ [.handle .started] }
  else { s with actions := s.actions ++ [.handle .disconnected] }

/-- A use case that cannot be added leaves its new handler, and the timer without a handler. -/
def reconnect (connected added : Bool) : EebusConnectionHandler Ski :=
  if connected then
    { s.reset with
      reconnectionTimer := false
      lpcHandler := some (.create s.clock s.failsafeControlLimit)
      actions := s.actions ++ .handle .connected ::
        if added then [.handle .doneAddingUseCases] else [] }
  else s

def advance (elapsed : ℕ) : EebusConnectionHandler Ski :=
  { s with
    clock := s.clock + elapsed
    lpcHandler := s.lpcHandler.map fun h => { h with clock := s.clock + elapsed } }

/-- The step of the event loop that starts now. An event that finds no handler is undefined
behaviour of the source, and lost here. -/
def perform [DecidableEq Ski] : Input Ski → EebusConnectionHandler Ski
  | .tick =>
    if s.stateMachineTimer then { s with lpcHandler := s.lpcHandler.map (·.runStateMachine) }
    else s
  | .event ski event => { s with lpcHandler := s.lpcHandler.map (·.handleEvent ski event) }
  | .closed => { s with actions := s.actions ++ [.handle .disconnected] }
  | .action ok =>
    match s.actions with
    | [] => s
    | .handle event :: actions => handleEvent { s with actions } event
    | .startService :: actions => startService { s with actions } ok
  | .reconnect connected added =>
    if s.reconnectionTimer then s.reconnect connected added else s

def step [DecidableEq Ski] (s : EebusConnectionHandler Ski) (input : ℕ × Input Ski) :
    EebusConnectionHandler Ski :=
  (s.advance input.1).perform input.2

def started (clock : ℤ) (failsafeControlLimit : ℚ) : EebusConnectionHandler Ski where
  clock
  failsafeControlLimit
  state := .running
  lpcHandler := some (LpcUseCaseHandler.create clock failsafeControlLimit).start
  actions := []
  reconnectionTimer := false
  stateMachineTimer := true
  former := none
  earlier := []

/-- The handler in charge, or the last one that was. -/
def supervisor : Option (LpcUseCaseHandler Ski) := s.lpcHandler <|> s.former

end EebusConnectionHandler

namespace LpcUseCaseHandler

variable {Ski : Type} (h : LpcUseCaseHandler Ski)

/-- The failsafe state may end: its duration or the recovery window is over, or a limit was
written since and the heartbeat is back. -/
def mayLeaveFailsafe : Bool :=
  h.failsafeOver || h.recoveryOver || h.limitSinceFailsafe && !h.heartbeatHasTimeout

variable {h}

lemma dropExpired_eq : ∃ limit, h.dropExpired = { h with currentLimit := limit } ∧
    (h.currentLimit = none → limit = none) := by
  unfold dropExpired
  split_ifs
  · exact ⟨none, rfl, fun _ => rfl⟩
  · exact ⟨h.currentLimit, rfl, id⟩

lemma setState_initTimestamp (newState : State) :
    (h.setState newState).initTimestamp = h.initTimestamp := by
  unfold setState
  split_ifs <;> rfl

lemma runStateMachine_initTimestamp : h.runStateMachine.initTimestamp = h.initTimestamp := by
  have htransition (init : ℤ) : (h.transition init).initTimestamp = h.initTimestamp := by
    obtain ⟨limit, hd, -⟩ := dropExpired_eq (h := h)
    unfold transition handleInitState handleLimitedState handleUnlimitedControlledState
      handleUnlimitedAutonomousState handleFailsafeState
    rw [hd]
    split <;> split_ifs <;> first | exact setState_initTimestamp _ | rfl
  unfold runStateMachine publishChanges applyLimitForCurrentState
  split
  · rfl
  · split_ifs <;> exact htransition _

/-- The failsafe limit is still published, over `schedule`, or the failsafe state has ended. -/
def Held (schedule : Option (List ScheduleReqEntry)) (h : LpcUseCaseHandler Ski) : Prop :=
  h.state = .failsafe ∧ (h.published.head? = schedule ∨
      h.published.head? = some (translateToExternalLimits h.clock h.failsafeLimit)) ∨
    h.state = .unlimitedAutonomous ∧ h.currentLimit = none ∧ (h.failsafeOver || h.recoveryOver) ∨
    (h.state = .limited ∨ h.state = .unlimitedControlled) ∧ h.limitSinceFailsafe ∧
      h.heartbeatHasTimeout = false

variable {schedule : Option (List ScheduleReqEntry)}

lemma held_setState_controlled {newState : State}
    (hnew : newState = .limited ∨ newState = .unlimitedControlled)
    (hsince : h.limitSinceFailsafe) (hbeat : h.heartbeatHasTimeout = false) :
    Held schedule (h.setState newState) := by
  unfold setState
  split_ifs with hstate
  · exact .inr (.inr ⟨by rwa [hstate], hsince, hbeat⟩)
  all_goals rcases hnew with rfl | rfl <;> simp_all [Held, limitSinceFailsafe, heartbeatHasTimeout]

lemma Held.transition (hh : Held schedule h) (init : ℤ) :
    Held schedule (h.transition init) := by
  obtain ⟨limit, hd, hlimit⟩ := dropExpired_eq (h := h)
  unfold LpcUseCaseHandler.transition
  rw [hd]
  rcases hh with ⟨hstate, hpub⟩ | ⟨hstate, hnone, hover⟩ | ⟨hstate | hstate, hsince, hbeat⟩ <;>
    simp only [hstate]
  · unfold handleFailsafeState
    split_ifs with hover hbeat hsince hact
    · rw [setState, if_neg (by simp)]
      exact .inr (.inl ⟨rfl, rfl, hover⟩)
    · exact .inl ⟨rfl, hpub⟩
    · exact held_setState_controlled (.inl rfl) hsince (by simpa using hbeat)
    · exact held_setState_controlled (.inr rfl) hsince (by simpa using hbeat)
    · exact .inl ⟨rfl, hpub⟩
  · simp only [handleUnlimitedAutonomousState, limitIsDeactivated, limitIsActive, hnone,
      hlimit hnone, Option.any_none, Bool.false_eq_true, if_false, ite_self]
    exact .inr (.inl ⟨rfl, rfl, hover⟩)
  · unfold handleLimitedState
    split_ifs with hto
    · exact absurd (hto.symm.trans hbeat) nofun
    · exact held_setState_controlled (.inr rfl) hsince hbeat
    · exact .inr (.inr ⟨.inl rfl, hsince, hbeat⟩)
  · unfold handleUnlimitedControlledState
    split_ifs with hto
    · exact absurd (hto.symm.trans hbeat) nofun
    · exact held_setState_controlled (.inl rfl) hsince hbeat
    · exact .inr (.inr ⟨.inr rfl, hsince, hbeat⟩)

lemma Held.run (hh : Held schedule h) : Held schedule h.runStateMachine := by
  unfold runStateMachine publishChanges
  split
  · exact hh
  · rename_i init _
    have ht := hh.transition init
    split_ifs
    · refine ht.imp_left fun hfailsafe => ⟨hfailsafe.1, .inr ?_⟩
      simp [applyLimitForCurrentState, limitForCurrentState, hfailsafe.1, failsafeLimit]
    · exact ht

variable {event : UseCaseEvent}

lemma handler_spec : (h.handler event).initTimestamp = h.initTimestamp ∧
      (h.state = .failsafe → Held h.published.head? (h.handler event)) := by
  unfold handler
  split
  case h_2 limit =>
    exact ⟨runStateMachine_initTimestamp, fun hs => Held.run (.inl ⟨hs, .inl rfl⟩)⟩
  all_goals try split_ifs
  all_goals exact ⟨rfl, fun hs => .inl ⟨hs, .inl rfl⟩⟩

lemma run_entersFailsafe (hinit : h.initTimestamp.isSome) (hbeat : h.heartbeatHasTimeout)
    (hstate : h.state = .limited ∨ h.state = .unlimitedControlled) :
    h.runStateMachine.published.head? =
      some (translateToExternalLimits h.clock h.failsafeLimit) := by
  obtain ⟨init, hinit⟩ := Option.isSome_iff_exists.1 hinit
  obtain ⟨limit, hd, -⟩ := dropExpired_eq (h := h)
  have htransition : h.transition init = setState { h with currentLimit := limit } .failsafe := by
    unfold transition
    rcases hstate with hstate | hstate <;> simp only [hstate, hd] <;> exact if_pos hbeat
  have hne : h.state ≠ .failsafe := by rcases hstate with hstate | hstate <;> simp [hstate]
  simp only [runStateMachine, hinit, htransition, setState, if_neg hne]
  rfl

/-- A handler that was not started yet waits in its first state. -/
def Waits (h : LpcUseCaseHandler Ski) : Prop := h.initTimestamp = none ∧ h.state = .init

lemma Waits.run (hw : h.Waits) : h.runStateMachine = h := by
  rw [runStateMachine, hw.1]

lemma Waits.handler (hw : h.Waits) : (h.handler event).Waits := by
  unfold LpcUseCaseHandler.handler
  split
  case h_2 limit =>
    have hw' : Waits { h with
        currentLimit := some limit, lastLimitReceived := some h.clock
        limitValueChanged := true } := ⟨hw.1, hw.2⟩
    rw [processReceivedLimit, hw'.run]
    exact hw'
  all_goals try split_ifs
  all_goals exact ⟨hw.1, hw.2⟩

end LpcUseCaseHandler

namespace EebusConnectionHandler

variable {Ski : Type} [DecidableEq Ski] (s : EebusConnectionHandler Ski)

def EntersFailsafe (input : ℕ × Input Ski) : Prop :=
  input.2 = .tick → ∀ h ∈ s.supervisor, h.state = .limited ∨ h.state = .unlimitedControlled →
    heartbeatTimeout < (s.step input).clock - h.lastHeartbeat →
    (s.step input).published.head? =
      some (translateToExternalLimits (s.step input).clock h.failsafeLimit)

/-- The failsafe limit stays published until the failsafe state may end. -/
def KeepsFailsafe (input : ℕ × Input Ski) : Prop :=
  ∀ h ∈ s.supervisor, h.state = .failsafe →
    (s.step input).published.head? = s.published.head? ∨
    ∃ h' ∈ (s.step input).lpcHandler, h'.mayLeaveFailsafe ∨
      (s.step input).published.head? = some (translateToExternalLimits h'.clock h'.failsafeLimit)

def unsupervised : Bool :=
  s.supervisor.all fun h => h.state = .init || h.state = .unlimitedAutonomous

/-- The step takes no handler away that follows the heartbeat of a guard. -/
def keepsHandler (input : ℕ × Input Ski) : Bool :=
  match input.2 with
  | .action _ => s.actions.head? ≠ some (.handle .disconnected) || s.unsupervised
  | _ => true

structure Sound (s : EebusConnectionHandler Ski) : Prop where
  handler : ∀ h ∈ s.lpcHandler, h.initTimestamp.isSome ∨ h.Waits
  timer : s.stateMachineTimer
  reconnectionTimer : s.reconnectionTimer → s.lpcHandler = none
  unsupervised : s.lpcHandler = none → s.unsupervised

def after (h : LpcUseCaseHandler Ski) : Input Ski → LpcUseCaseHandler Ski
  | .tick => h.runStateMachine
  | .event ski event => h.handleEvent ski event
  | _ => h

/-- What a step does to the handler: it goes on or is started, it is lost, or there is a new one. -/
inductive Change (s : EebusConnectionHandler Ski) (elapsed : ℕ) :
    Input Ski → EebusConnectionHandler Ski → Prop
  | kept {input : Input Ski} {f : LpcUseCaseHandler Ski → LpcUseCaseHandler Ski}
      (hf : f = (after · input) ∨ f = LpcUseCaseHandler.start)
      (state : ConnectionState) (actions : List Action) {timer : Bool}
      (htimer : s.stateMachineTimer → timer) :
      Change s elapsed input { s with
        clock := s.clock + elapsed, state, actions, stateMachineTimer := timer
        lpcHandler := s.lpcHandler.map fun h => f { h with clock := s.clock + elapsed } }
  | lost {ok : Bool} (hhead : s.actions.head? = some (.handle .disconnected))
      (actions : List Action) :
      Change s elapsed (.action ok) { (s.advance elapsed).reset with
        state := .disconnected, actions, reconnectionTimer := true }
  | replaced {connected added : Bool} (htimer : s.reconnectionTimer) (actions : List Action) :
      Change s elapsed (.reconnect connected added) { (s.advance elapsed).reset with
        reconnectionTimer := false, actions
        lpcHandler := some (.create (s.clock + elapsed) s.failsafeControlLimit) }

variable {s}

lemma step_change (htimer : s.stateMachineTimer) (elapsed : ℕ) (input : Input Ski) :
    Change s elapsed input (s.step (elapsed, input)) := by
  have hmap : ∀ f : LpcUseCaseHandler Ski → LpcUseCaseHandler Ski,
      (s.advance elapsed).lpcHandler.map f =
        s.lpcHandler.map fun h => f { h with clock := s.clock + elapsed } :=
    fun f => Option.map_map ..
  have hkept (state actions) : Change s elapsed input _ := .kept (.inl rfl) state actions id
  cases input with
  | tick =>
    simp only [step, perform]
    rw [if_pos (by exact htimer), hmap]
    exact hkept s.state s.actions
  | event =>
    simp only [step, perform, hmap]
    exact hkept s.state s.actions
  | closed => exact hkept s.state (s.actions ++ [.handle .disconnected])
  | reconnect connected added =>
    have hreplaced (h : s.reconnectionTimer) (actions) :
        Change s elapsed (.reconnect connected added) _ := .replaced h actions
    simp only [step, perform, reconnect]
    split_ifs with hreconnect hconnected hadded
    · exact hreplaced hreconnect _
    · exact hreplaced hreconnect _
    · exact hkept s.state s.actions
    · exact hkept s.state s.actions
  | action ok =>
    have hactions : (s.advance elapsed).actions = s.actions := rfl
    simp only [step, perform, hactions]
    cases hhead : s.actions with
    | nil => exact hkept s.state s.actions
    | cons action actions =>
      cases action with
      | startService =>
        dsimp only [startService]
        split_ifs
        · rw [hmap]
          exact .kept (.inr rfl) s.state _ id
        · exact hkept s.state _
      | handle event =>
        cases event with
        | disconnected => exact .lost (by rw [hhead]; rfl) actions
        | started =>
          dsimp only [handleEvent]
          split_ifs
          · exact .kept (.inl rfl) .running actions fun _ => rfl
          · exact hkept s.state actions
        | connected | doneAddingUseCases =>
          dsimp only [handleEvent]
          split_ifs <;> exact hkept _ _

variable {h : LpcUseCaseHandler Ski}

lemma after_spec (input : Input Ski) : (after h input).initTimestamp = h.initTimestamp ∧
      (h.state = .failsafe → LpcUseCaseHandler.Held h.published.head? (after h input)) := by
  have hheld : h.state = .failsafe → LpcUseCaseHandler.Held h.published.head? h :=
    fun hstate => .inl ⟨hstate, .inl rfl⟩
  cases input with
  | tick => exact ⟨runStateMachine_initTimestamp, fun hs => (hheld hs).run⟩
  | event ski event =>
    obtain ⟨k, hk⟩ := h.connect_eq ski event
    dsimp only [after]
    rw [LpcUseCaseHandler.handleEvent, hk]
    split_ifs
    · exact ⟨rfl, hheld⟩
    · obtain ⟨hinit, hs⟩ := handler_spec (h := { h with activeEmsSki := k })
      exact ⟨runStateMachine_initTimestamp.trans hinit, fun h => (hs h).run⟩
  | closed | action | reconnect => exact ⟨rfl, hheld⟩

lemma waits_after (hw : h.Waits) (input : Input Ski) : (after h input).Waits := by
  cases input with
  | tick =>
    dsimp only [after]
    rwa [hw.run]
  | event ski event =>
    obtain ⟨k, hk⟩ := h.connect_eq ski event
    have hw' : Waits { h with activeEmsSki := k } := ⟨hw.1, hw.2⟩
    dsimp only [after]
    rw [LpcUseCaseHandler.handleEvent, hk]
    split_ifs
    · exact hw'
    · rw [hw'.handler.run]
      exact hw'.handler
  | closed | action | reconnect => exact hw

omit [DecidableEq Ski] in
/-- A handler in any other state has been started, and is there. -/
lemma Sound.exists_handler (hs : s.Sound) (hh : h ∈ s.supervisor)
    (hstate : h.state ≠ .init ∧ h.state ≠ .unlimitedAutonomous) :
    s.lpcHandler = some h ∧ h.initTimestamp.isSome := by
  cases hhandler : s.lpcHandler with
  | none =>
    have hnone := Option.all_eq_true _ _ |>.1 (hs.unsupervised hhandler) h hh
    simp [hstate.1, hstate.2] at hnone
  | some h' =>
    obtain rfl : h' = h := by simpa [supervisor, hhandler] using hh
    exact ⟨rfl, (hs.handler h' hhandler).resolve_right fun hw => hstate.1 hw.2⟩

lemma Sound.entersFailsafe (hs : s.Sound) (input : ℕ × Input Ski) : s.EntersFailsafe input := by
  obtain ⟨elapsed, input⟩ := input
  rintro rfl h hh hstate hbeat
  obtain ⟨hhandler, hinit⟩ := hs.exists_handler hh (by rcases hstate with h | h <;> simp [h])
  have hclock : (s.step (elapsed, .tick)).clock = s.clock + elapsed := by
    simp [step, perform, advance, hs.timer]
  rw [hclock] at hbeat ⊢
  have henters := run_entersFailsafe
    (h := { h with clock := s.clock + elapsed }) hinit (decide_eq_true hbeat) hstate
  have hstep : (s.step (elapsed, .tick)).published.head? =
      (({ h with clock := s.clock + elapsed }.runStateMachine).published ++ s.earlier).head? := by
    simp [step, perform, advance, published, hs.timer, hhandler]
  rw [hstep, List.head?_append, henters]
  rfl

lemma Sound.keepsFailsafe (hs : s.Sound) (input : ℕ × Input Ski) : s.KeepsFailsafe input := by
  obtain ⟨elapsed, input⟩ := input
  intro h hh hstate
  obtain ⟨hhandler, -⟩ := hs.exists_handler hh (by simp [hstate])
  have hchange := step_change hs.timer elapsed input
  generalize s.step (elapsed, input) = s' at hchange
  cases hchange with
  | lost | replaced =>
    -- what was published is remembered
    refine .inl ?_
    simp [published, reset, advance, hhandler, create]
  | kept hf =>
    simp only [published, hhandler, Option.map_some, Option.elim_some, List.head?_append]
    rcases hf with rfl | rfl
    · obtain ⟨-, hheld⟩ := after_spec (h := { h with clock := s.clock + elapsed }) input
      rcases hheld hstate with ⟨-, hpub | hpub⟩ | ⟨-, -, hover⟩ | ⟨-, hsince, hbeat⟩
      · exact .inl (by rw [hpub])
      · exact .inr ⟨_, rfl, .inr (by rw [hpub, Option.some_or])⟩
      · exact .inr ⟨_, rfl, .inl (by simp_all [mayLeaveFailsafe])⟩
      · exact .inr ⟨_, rfl, .inl (by simp_all [mayLeaveFailsafe])⟩
    · refine .inr ⟨_, rfl, .inr ?_⟩
      simp [LpcUseCaseHandler.start, applyLimitForCurrentState, limitForCurrentState, hstate,
        failsafeLimit]

lemma Sound.step (hs : s.Sound) (input : ℕ × Input Ski) (hinput : s.keepsHandler input) :
    (s.step input).Sound := by
  obtain ⟨elapsed, input⟩ := input
  have hchange := step_change hs.timer elapsed input
  generalize s.step (elapsed, input) = s' at hchange
  cases hchange with
  | kept hf state actions htimer =>
    refine ⟨?_, htimer hs.timer, fun h => ?_, fun h => ?_⟩
    · intro h' hh'
      obtain ⟨h, hh, rfl⟩ := Option.map_eq_some_iff.1 hh'
      rcases hf with rfl | rfl
      · refine (hs.handler h hh).imp (fun hinit => ?_) fun hw => waits_after ⟨hw.1, hw.2⟩ input
        rwa [(after_spec _).1]
      · exact .inl rfl
    · exact Option.map_eq_none_iff.2 (hs.reconnectionTimer h)
    · have hnone := Option.map_eq_none_iff.1 h
      have hformer := hs.unsupervised hnone
      simpa [EebusConnectionHandler.unsupervised, supervisor, hnone] using hformer
  | lost hhead actions =>
    refine ⟨fun h hh => ?_, hs.timer, fun _ => rfl, fun _ => ?_⟩
    · have hgone : (none : Option (LpcUseCaseHandler Ski)) = some h := hh
      cases hgone
    have hnone : s.unsupervised := by simpa [keepsHandler, hhead] using hinput
    cases hhandler : s.lpcHandler <;>
      simpa [EebusConnectionHandler.unsupervised, supervisor, reset, advance, hhandler]
        using hnone
  | replaced htimer actions =>
    refine ⟨fun h hh => ?_, hs.timer, fun h => ?_, fun h => ?_⟩
    · obtain rfl : LpcUseCaseHandler.create _ _ = h := Option.some.inj hh
      exact .inr ⟨rfl, rfl⟩
    · exact absurd h Bool.false_ne_true
    · exact absurd h (Option.some_ne_none _)

/-- While no loss of the connection takes a handler away that follows a guard, the loss of the
guard leads to the failsafe limit, and only the prescribed ends lead away from it. -/
theorem guard_loss_failsafe (clock : ℤ) (limit : ℚ) (inputs : List (ℕ × Input Ski))
    (hinputs : AllSteps step (fun s input => s.keepsHandler input) (started clock limit) inputs) :
    AllSteps step (fun s input => s.EntersFailsafe input ∧ s.KeepsFailsafe input)
      (started clock limit) inputs := by
  have hsound : (started clock limit : EebusConnectionHandler Ski).Sound := by
    refine ⟨?_, rfl, nofun, nofun⟩
    rintro _ ⟨rfl⟩
    exact .inl rfl
  refine AllSteps.of_inv (fun s input (hs : s.Sound) hinput => ?_) hsound hinputs
  exact ⟨⟨hs.entersFailsafe input, hs.keepsFailsafe input⟩, hs.step input hinput⟩

/-- The guard goes silent; the failsafe limit is published and the recovery window ends it. Then
the connection is lost and made again. -/
def silentGuard : List (ℕ × Input ℕ) :=
  [(0, .event 7 .dataUpdateHeartbeat),
    (5, .event 7 (.dataUpdateLimit (some ⟨3000, true, 0, false⟩))),
    ((seconds 121).toNat, .tick), (1, .closed), (0, .event 7 .dataUpdateHeartbeat),
    ((seconds 120).toNat, .tick), (0, .action true), (5, .reconnect true true),
    (0, .action true), (0, .action true), (0, .action true), (0, .action true)]

theorem guard_loss_failsafe_silentGuard :
    AllSteps step (fun s input => s.keepsHandler input) (started 0 4200) silentGuard ∧
      AllSteps step (fun s input => s.EntersFailsafe input ∧ s.KeepsFailsafe input)
        (started 0 4200) silentGuard :=
  have hinputs : AllSteps step (fun s input => s.keepsHandler input) (started 0 4200)
      silentGuard := by decide +kernel
  ⟨hinputs, guard_loss_failsafe 0 4200 silentGuard hinputs⟩

/-- The connection is lost while the station is not limited. The guard stays silent, and no
failsafe limit follows. -/
def lostConnection : List (ℕ × Input ℕ) :=
  [(0, .event 7 .dataUpdateHeartbeat), (0, .event 7 (.dataUpdateLimit (some {}))),
    (1, .closed), (0, .action true), ((seconds 60).toNat, .reconnect false false),
    ((seconds 61).toNat, .tick)]

theorem guard_loss_without_failsafe :
    ¬AllSteps step (fun s input => s.EntersFailsafe input ∧ s.KeepsFailsafe input)
      (started 0 4200) lostConnection := by
  rintro ⟨-, -, -, -, -, ⟨henters, -⟩, -⟩
  exact absurd (henters rfl _ rfl (by decide +kernel) (by decide +kernel)) (by decide +kernel)

end EebusConnectionHandler

end Everest.Eebus
