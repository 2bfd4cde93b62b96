import Everest.Evse.IecThreads

namespace Everest.Evse
open IECStateMachine IecSystem Function

section Timers

variable {s : IECStateMachine} {p : IECStateMachine.Pass} (id : TimerId)

@[simp] lemma emit_timer (o : Output) : (s.emit o).timer id = s.timer id := by
  cases id <;> rfl

@[simp] lemma checkConnectorLock_timer : s.checkConnectorLock.timer id = s.timer id := by
  unfold checkConnectorLock latchCaptive
  dsimp only
  split_ifs <;> cases id <;> rfl

lemma plugInAtC_timer : (plugInAtC p).sm.timer id = p.sm.timer id := by
  unfold plugInAtC
  split_ifs <;> cases id <;> rfl

lemma pwmEdgesInC_timer : (pwmEdgesInC p).sm.timer id = p.sm.timer id := by
  unfold pwmEdgesInC
  split_ifs <;> cases id <;> rfl

variable (now : ℤ)

lemma timeoutInC1_timer : (timeoutInC1 now p).sm.timer id = p.sm.timer id := by
  unfold timeoutInC1
  split_ifs <;> cases id <;> rfl

lemma powerOnInC2_timer : (powerOnInC2 p).sm.timer id = p.sm.timer id := by
  unfold powerOnInC2 switchOnInC2
  dsimp only
  split_ifs <;> cases id <;> rfl

lemma stateC_timer : (stateC now s).sm.timer id = s.timer id := by
  rw [stateC, powerOnInC2_timer, timeoutInC1_timer, pwmEdgesInC_timer, plugInAtC_timer]
  cases id <;> rfl

lemma switchCpState_timer (cp : RawCPState) :
    (switchCpState now s cp).sm.timer id = s.timer id := by
  cases cp with
  | disabled =>
    unfold switchCpState stateDisabled resetToX1
    split_ifs <;> cases id <;> rfl
  | a =>
    unfold switchCpState stateA enterStateA resetToX1
    split_ifs <;> cases id <;> rfl
  | b =>
    unfold switchCpState stateB plugInAtB stopPowerInB lockInStateB
    split_ifs <;> cases id <;> rfl
  | c => exact stateC_timer id now
  | d =>
    unfold switchCpState stateD
    dsimp only
    split_ifs
    · rw [stateC_timer]
      cases id <;> rfl
    · cases id <;> rfl
  | e =>
    unfold switchCpState stateE enterStateE resetToX1
    dsimp only
    split_ifs <;> cases id <;> rfl
  | f =>
    unfold switchCpState stateF
    dsimp only
    split_ifs <;> cases id <;> rfl

lemma lockedPass_timer {cpState : Option RawCPState} :
    (lockedPass now cpState s).1.timer id = s.timer id := by
  have h := (checkConnectorLock_timer id).trans
    (switchCpState_timer (s := s) id now (cpState.getD s.lastCpState))
  cases id <;> exact h

lemma lockedSection_timer {input : Input} : (s.lockedSection input).1.timer id = s.timer id := by
  cases input with
  | processBspEvent event =>
    cases event with
    | powerOn | powerOff => exact (checkConnectorLock_timer id).trans (by cases id <;> rfl)
    | _ => rfl
  | setPpAmpacity ampacity =>
    unfold lockedSection ppSection
    dsimp only
    split_ifs <;> first | rw [checkConnectorLock_timer] | skip
    all_goals cases id <;> rfl
  | allowPowerOn value => cases value <;> cases id <;> rfl
  | timeoutCaptiveLock =>
    refine (checkConnectorLock_timer id).trans ?_
    split_ifs
    · cases id <;> rfl
    · rfl
  | connectorForceUnlock =>
    unfold lockedSection connectorForceUnlock
    dsimp only
    split_ifs <;> first | rw [checkConnectorLock_timer] | skip
    all_goals cases id <;> rfl
  | setKeepCableLocked => exact (checkConnectorLock_timer id).trans (by cases id <;> rfl)
  | _ => cases id <;> rfl

@[simp] lemma signalEvents_timer (events : List CPEvent) :
    (signalEvents events s).timer id = s.timer id := by
  induction events generalizing s with
  | nil => rfl
  | cons e events ih => exact ih.trans (emit_timer id _)

@[simp] lemma signalRawCpState_timer (cpState : Option RawCPState) :
    (signalRawCpState cpState s).timer id = s.timer id := by
  unfold signalRawCpState
  split
  · split_ifs <;> cases id <;> rfl
  · rfl

lemma setTimer_timer {timer : AsyncTimeout} {id' : TimerId} :
    (s.setTimer timer id').timer id = if id = id' then timer else s.timer id := by
  cases id <;> cases id' <;> rfl

lemma perform_timer {task : Task} (h : ∀ action, task ≠ .control id action) :
    (task.perform now s).1.timer id = s.timer id := by
  cases task with
  | locked input => exact lockedSection_timer id
  | pass cpState => exact lockedPass_timer id now
  | control id' action =>
    refine (setTimer_timer id).trans (if_neg ?_)
    rintro rfl
    exact h action rfl
  | ifKept => rfl
  | publish => simp [Task.perform]

lemma beginCall_timer (input : Input) : (beginCall s input).1.timer id = s.timer id := by
  cases input with
  | setPwm =>
    simp only [beginCall]
    split_ifs <;> rfl
  | setAuthorized =>
    simp only [beginCall]
    split_ifs
    · cases id <;> rfl
    · rfl
  | setOvercurrentLimit =>
    simp only [beginCall, setOvercurrentLimit]
    split_ifs
    · cases id <;> rfl
    · rfl
  | _ => cases id <;> rfl

end Timers

variable {n : ℕ}

namespace IecSystem

def called (σ : IecSystem n) (i : Fin n) (input : Input) : IecSystem n :=
  let r := beginCall { σ.sm with trace := .call input :: σ.sm.trace } input
  { σ with sm := r.1, todo := Function.update σ.todo (.caller i) r.2 }

inductive Moved (σ : IecSystem n) : Move n → IecSystem n → Prop
  | stay (move : Move n) : Moved σ move σ
  | call (i : Fin n) (input : Input) : σ.todo (.caller i) = [] →
      Moved σ (.call i input) (σ.called i input)
  | enter (a : ThreadId n) (task : Task) (rest : List Task) (m : Mutex) :
      σ.todo a = task :: rest → σ.stage a = .free → task.mutex? = some m → σ.owner m = none →
      Moved σ (.run a) (σ.enter a m)
  | complete (a : ThreadId n) (task : Task) (rest : List Task) :
      σ.todo a = task :: rest →
      (σ.stage a = .free ∧ task.mutex? = none ∨
        σ.stage a = .entered ∧ σ.joins task = none ∧ σ.held task = false) →
      Moved σ (.run a) (σ.complete a task rest)
  | beginJoin (a : ThreadId n) (id : TimerId) (action : TimerControl) (rest : List Task) :
      σ.todo a = .control id action :: rest → σ.stage a = .entered →
      (σ.sm.timer id).running = true → Moved σ (.run a) (σ.beginJoin a id)
  | joined (a : ThreadId n) (id : TimerId) (action : TimerControl) (rest : List Task) :
      σ.todo a = .control id action :: rest → σ.stage a = .joining → σ.waiter id = .done →
      Moved σ (.run a) (σ.joined a id)
  | sleep (id : TimerId) : σ.waiter id = .atHead → σ.exitSignal id = false →
      Moved σ (.run (.waiter id)) (σ.setWaiter id .asleep)
  | leave (id : TimerId) : σ.waiter id = .atHead → σ.exitSignal id = true →
      Moved σ (.run (.waiter id)) (σ.setWaiter id .done)
  | expire (id : TimerId) : σ.waiter id = .asleep → (σ.sm.timer id).reached σ.clock = true →
      Moved σ (.run (.waiter id)) (σ.expire id)
  | again (id : TimerId) : σ.waiter id = .asleep →
      Moved σ (.run (.waiter id)) (σ.setWaiter id .atHead)
  | finish (id : TimerId) : σ.waiter id = .busy → σ.todo (.waiter id) = [] →
      Moved σ (.run (.waiter id)) (σ.setWaiter id .done)

lemma joins_eq_some {σ : IecSystem n} {task : Task} {id : TimerId} (h : σ.joins task = some id) :
    (∃ action, task = .control id action) ∧ (σ.sm.timer id).running = true := by
  cases task with
  | control id' action =>
    simp only [joins] at h
    split_ifs at h with hr
    cases h
    exact ⟨⟨action, rfl⟩, hr⟩
  | _ => cases h

lemma advance_moved {σ : IecSystem n} {a : ThreadId n} : Moved σ (.run a) (σ.advance a) := by
  unfold advance
  cases htodo : σ.todo a with
  | nil => exact .stay _
  | cons task rest =>
    dsimp only
    cases hstage : σ.stage a with
    | free =>
      cases hm : task.mutex? with
      | none => exact .complete a task rest htodo (.inl ⟨hstage, hm⟩)
      | some m =>
        dsimp only
        cases ho : σ.owner m with
        | none => exact .enter a task rest m htodo hstage hm ho
        | some => exact .stay _
    | entered =>
      cases hj : σ.joins task with
      | none =>
        split_ifs with hheld
        · exact .stay _
        · exact .complete a task rest htodo (.inr ⟨hstage, hj, by simpa using hheld⟩)
      | some id =>
        obtain ⟨⟨action, rfl⟩, hr⟩ := joins_eq_some hj
        exact .beginJoin a id action rest htodo hstage hr
    | joining =>
      cases hj : σ.joins task with
      | none => exact .stay _
      | some id =>
        obtain ⟨⟨action, rfl⟩, -⟩ := joins_eq_some hj
        dsimp only
        split_ifs with hdone
        · exact .joined a id action rest htodo hstage hdone
        · exact .stay _

lemma act_moved {σ : IecSystem n} {move : Move n} : Moved σ move (σ.act move) := by
  cases move with
  | call i input =>
    simp only [act, call]
    split_ifs with hidle
    · exact .call i input hidle
    · exact .stay _
  | run a =>
    cases a with
    | caller => exact advance_moved
    | waiter id =>
      simp only [act, waitLoop]
      cases hw : σ.waiter id with
      | absent | done => exact .stay _
      | atHead =>
        dsimp only
        split_ifs with hexit
        · exact .leave id hw hexit
        · exact .sleep id hw (by simpa using hexit)
      | asleep =>
        dsimp only
        split_ifs with hr
        · exact .expire id hw hr
        · exact .again id hw
      | busy =>
        dsimp only
        split_ifs with hnil
        · exact .finish id hw hnil
        · exact advance_moved

/-- The thread is in its first task, and that task is done under `m`. -/
def Holds (σ : IecSystem n) (a : ThreadId n) (m : Mutex) : Prop :=
  (σ.todo a).head?.bind Task.mutex? = some m ∧ σ.stage a ≠ .free

structure Locks (σ : IecSystem n) : Prop where
  owner : ∀ m a, σ.owner m = some a ↔ σ.Holds a m
  entered : ∀ a, σ.stage a ≠ .free → ∃ m, σ.Holds a m
  joining : ∀ a, σ.stage a = .joining →
    ∃ id action rest, σ.todo a = .control id action :: rest ∧ σ.exitSignal id = true
  signalled : ∀ id, σ.exitSignal id = true →
    ∃ a action rest, σ.todo a = .control id action :: rest ∧ σ.stage a = .joining
  resting : ∀ id, σ.waiter id ≠ .busy → σ.todo (.waiter id) = []
  alive : ∀ id, (σ.sm.timer id).running = true ↔ σ.waiter id ≠ .absent

namespace Locks

variable {σ : IecSystem n} {a b : ThreadId n}

lemma free_of_idle (h : Locks σ) (hidle : σ.todo a = []) : σ.stage a = .free := by
  by_contra hs
  obtain ⟨m, hm, -⟩ := h.entered a hs
  rw [hidle] at hm
  cases hm

variable {m : Mutex} {id : TimerId} {task : Task} {rest : List Task} {action : TimerControl}

lemma unique (h : Locks σ) (ha : σ.Holds a m) (hb : σ.Holds b m) : a = b := by
  have hab := ((h.owner m a).2 ha).symm.trans ((h.owner m b).2 hb)
  exact Option.some.inj hab

lemma assign (h : Locks σ) (hidle : σ.todo a = []) {tasks : List Task} {sm : IECStateMachine}
    {waiter : TimerId → Waiter}
    (hrest : ∀ id, waiter id ≠ .busy → a ≠ .waiter id ∧ σ.waiter id ≠ .busy)
    (halive : ∀ id, (sm.timer id).running = true ↔ waiter id ≠ .absent) :
    Locks { σ with sm := sm, todo := update σ.todo a tasks, waiter := waiter } := by
  have hfree := h.free_of_idle hidle
  have hsame (b : ThreadId n) (hb : b ≠ a) : update σ.todo a tasks b = σ.todo b :=
    update_of_ne hb _ _
  have hholds (b : ThreadId n) (m : Mutex) :
      Holds { σ with sm := sm, todo := update σ.todo a tasks, waiter := waiter } b m ↔
        σ.Holds b m := by
    unfold Holds
    by_cases hb : b = a
    · subst hb
      simp [hfree]
    · simp [hsame b hb]
  refine ⟨fun m b => (h.owner m b).trans (hholds b m).symm, ?_, ?_, ?_, ?_, halive⟩
  · intro b hb
    obtain ⟨m, hm⟩ := h.entered b hb
    exact ⟨m, (hholds b m).2 hm⟩
  · intro b hb
    obtain ⟨id, action, rest, htodo, hexit⟩ := h.joining b hb
    refine ⟨id, action, rest, (hsame b ?_).trans htodo, hexit⟩
    rintro rfl
    rw [hidle] at htodo
    cases htodo
  · intro id hexit
    obtain ⟨b, action, rest, htodo, hb⟩ := h.signalled id hexit
    refine ⟨b, action, rest, (hsame b ?_).trans htodo, hb⟩
    rintro rfl
    rw [hidle] at htodo
    cases htodo
  · intro id hw
    obtain ⟨ha, hw⟩ := hrest id hw
    exact (hsame _ ha.symm).trans (h.resting id hw)

lemma call (h : Locks σ) (i : Fin n) (input : Input) (hidle : σ.todo (.caller i) = []) :
    Locks (σ.called i input) := by
  refine h.assign hidle (fun id hw => ⟨by simp, hw⟩) fun id => ?_
  rw [beginCall_timer, ← h.alive]
  cases id <;> rfl

lemma expire (h : Locks σ) (hw : σ.waiter id = .asleep) : Locks (σ.expire id) := by
  refine h.assign (h.resting id (by simp [hw])) (fun id' hw' => ?_) fun id' => ?_
  · by_cases hid : id' = id
    · subst hid
      simp [setWaiter] at hw'
    · exact ⟨by simpa using Ne.symm hid, by simpa [setWaiter, hid] using hw'⟩
  · by_cases hid : id' = id
    · subst hid
      simp [setWaiter, h.alive, hw]
    · simp [setWaiter, h.alive, hid]

lemma setWaiter (h : Locks σ) {w : Waiter} (hidle : σ.todo (.waiter id) = [])
    (hold : σ.waiter id ≠ .absent) (hw : w ≠ .absent) : Locks (σ.setWaiter id w) := by
  refine ⟨h.owner, h.entered, h.joining, h.signalled, fun id' hw' => ?_, fun id' => ?_⟩
  · by_cases hid : id' = id
    · subst hid
      exact hidle
    · exact h.resting id' (by simpa [IecSystem.setWaiter, hid] using hw')
  · by_cases hid : id' = id
    · subst hid
      simpa [setWaiter, hw] using (h.alive id').2 hold
    · simpa [IecSystem.setWaiter, hid] using h.alive id'

lemma enter (h : Locks σ) (htodo : σ.todo a = task :: rest) (hfree : σ.stage a = .free)
    (hm : task.mutex? = some m) (ho : σ.owner m = none) : Locks (σ.enter a m) := by
  have hstage (b : ThreadId n) (hb : b ≠ a) : (σ.enter a m).stage b = σ.stage b :=
    update_of_ne hb _ _
  have hself : (σ.enter a m).stage a = .entered := update_self _ _ _
  have hother (b : ThreadId n) (hb : b ≠ a) (m' : Mutex) :
      (σ.enter a m).Holds b m' ↔ σ.Holds b m' := by
    unfold Holds
    rw [hstage b hb]
    rfl
  have hmine (m' : Mutex) : (σ.enter a m).Holds a m' ↔ m = m' := by
    simp [Holds, IecSystem.enter, htodo, hm]
  refine ⟨?_, ?_, ?_, ?_, h.resting, h.alive⟩
  · intro m' b
    have howner : (σ.enter a m).owner m' = if m' = m then some a else σ.owner m' := by
      simp [IecSystem.enter, update_apply]
    rw [howner]
    by_cases hb : b = a
    · subst hb
      rw [hmine]
      split_ifs with hm'
      · simp [hm']
      · refine iff_of_false ?_ (fun he => hm' he.symm)
        rw [h.owner]
        exact fun hh => hh.2 hfree
    · rw [hother b hb]
      split_ifs with hm'
      · subst hm'
        refine iff_of_false (fun he => hb (Option.some.inj he).symm) ?_
        rw [← h.owner, ho]
        exact nofun
      · exact h.owner m' b
  · intro b hb
    by_cases hba : b = a
    · subst hba
      exact ⟨m, (hmine m).2 rfl⟩
    · obtain ⟨m', hm'⟩ := h.entered b (by rwa [hstage b hba] at hb)
      exact ⟨m', (hother b hba m').2 hm'⟩
  · intro b hb
    by_cases hba : b = a
    · subst hba
      rw [hself] at hb
      cases hb
    · exact h.joining b (by rwa [hstage b hba] at hb)
  · intro id hexit
    obtain ⟨b, action, rest', htodo', hb⟩ := h.signalled id hexit
    have hba : b ≠ a := by
      rintro rfl
      rw [hfree] at hb
      cases hb
    exact ⟨b, action, rest', htodo', (hstage b hba).trans hb⟩

lemma release_apply {owner : Mutex → Option (ThreadId n)} {m : Option Mutex} {m' : Mutex} :
    release owner m m' = if m = some m' then none else owner m' := by
  cases m with
  | none => simp [release]
  | some m =>
    by_cases hm : m' = m
    · subst hm
      simp [release]
    · have hm' : ¬m = m' := Ne.symm hm
      simp [release, update_of_ne hm, hm']

lemma started_of_ready (h : Locks σ) (hjoins : σ.joins task = none)
    (hne : started σ.waiter task id ≠ σ.waiter id) :
    task = .control id .start ∧ σ.waiter id = .absent := by
  cases task with
  | control id' action =>
    cases action with
    | start =>
      have hid : id = id' := by
        by_contra hid
        exact hne (by simp [started, hid])
      subst hid
      refine ⟨rfl, ?_⟩
      by_contra hw
      have hr := (h.alive id).2 hw
      simp [joins, hr] at hjoins
    | doNothing | stop => exact absurd rfl hne
  | _ => exact absurd rfl hne

lemma joins_of_ready (hready : σ.stage a = .free ∧ task.mutex? = none ∨
      σ.stage a = .entered ∧ σ.joins task = none ∧ σ.held task = false) : σ.joins task = none := by
  rcases hready with ⟨-, hm⟩ | ⟨-, hj, -⟩
  · cases task with
    | control => cases hm
    | _ => rfl
  · exact hj

lemma complete_alive (h : Locks σ) (hjoins : σ.joins task = none) (id : TimerId) :
    ((σ.complete a task rest).sm.timer id).running = true ↔
      (σ.complete a task rest).waiter id ≠ .absent := by
  by_cases hc : ∃ action, task = .control id action
  · obtain ⟨action, rfl⟩ := hc
    have hoff : (σ.sm.timer id).running = false := by
      by_contra hr
      simp [joins, hr] at hjoins
    have hw : σ.waiter id = .absent := by
      by_contra hw
      rw [(h.alive id).2 hw] at hoff
      cases hoff
    have htimer : (σ.complete a (.control id action) rest).sm.timer id =
        (σ.sm.timer id).control σ.clock (σ.sm.timerDuration id) action :=
      (setTimer_timer id).trans (if_pos rfl)
    rw [htimer]
    cases action with
    | start => simp [AsyncTimeout.control, AsyncTimeout.start, complete, started]
    | doNothing => simp [AsyncTimeout.control, complete, started, hoff, hw]
    | stop => simp [AsyncTimeout.control, AsyncTimeout.stop, complete, started, hw]
  · have hne : ∀ action, task ≠ .control id action := fun action he => hc ⟨action, he⟩
    have htimer : (σ.complete a task rest).sm.timer id = σ.sm.timer id :=
      perform_timer id σ.clock hne
    have hwaiter : (σ.complete a task rest).waiter id = σ.waiter id := by
      by_contra hw
      exact hne _ (h.started_of_ready hjoins hw).1
    rw [htimer, hwaiter]
    exact h.alive id

lemma complete (h : Locks σ) (htodo : σ.todo a = task :: rest)
    (hready : σ.stage a = .free ∧ task.mutex? = none ∨
      σ.stage a = .entered ∧ σ.joins task = none ∧ σ.held task = false) :
    Locks (σ.complete a task rest) := by
  have hjoins := joins_of_ready hready
  have hnot : σ.stage a ≠ .joining := by
    rcases hready with ⟨hs, -⟩ | ⟨hs, -⟩ <;> simp [hs]
  have hstage (b : ThreadId n) (hb : b ≠ a) : (σ.complete a task rest).stage b = σ.stage b :=
    update_of_ne hb _ _
  have hself : (σ.complete a task rest).stage a = .free := update_self _ _ _
  have htodo' (b : ThreadId n) (hb : b ≠ a) : (σ.complete a task rest).todo b = σ.todo b :=
    update_of_ne hb _ _
  have hother (b : ThreadId n) (hb : b ≠ a) (m : Mutex) :
      (σ.complete a task rest).Holds b m ↔ σ.Holds b m := by
    unfold Holds
    rw [hstage b hb, htodo' b hb]
  refine ⟨?_, ?_, ?_, ?_, ?_, h.complete_alive hjoins⟩
  · intro m b
    have howner : (σ.complete a task rest).owner m =
        if task.mutex? = some m then none else σ.owner m := release_apply
    rw [howner]
    by_cases hb : b = a
    · subst hb
      refine iff_of_false ?_ fun hh => hh.2 hself
      split_ifs with hm
      · exact nofun
      · rw [h.owner]
        rintro ⟨hh, -⟩
        exact hm (by simpa [htodo] using hh)
    · rw [hother b hb]
      split_ifs with hm
      · refine iff_of_false nofun fun hh => ?_
        rcases hready with ⟨-, hnone⟩ | ⟨hs, -⟩
        · rw [hnone] at hm
          cases hm
        · exact hb (h.unique hh ⟨by simp [htodo, hm], by simp [hs]⟩)
      · exact h.owner m b
  · intro b hb
    by_cases hba : b = a
    · subst hba
      exact absurd hself hb
    · obtain ⟨m, hm⟩ := h.entered b (by rwa [hstage b hba] at hb)
      exact ⟨m, (hother b hba m).2 hm⟩
  · intro b hb
    by_cases hba : b = a
    · subst hba
      rw [hself] at hb
      cases hb
    · obtain ⟨id, action, rest', ht, hexit⟩ := h.joining b (by rwa [hstage b hba] at hb)
      exact ⟨id, action, rest', (htodo' b hba).trans ht, hexit⟩
  · intro id hexit
    obtain ⟨b, action, rest', ht, hb⟩ := h.signalled id hexit
    have hba : b ≠ a := by
      rintro rfl
      exact hnot hb
    exact ⟨b, action, rest', (htodo' b hba).trans ht, (hstage b hba).trans hb⟩
  · intro id hw
    have hcalm : σ.waiter id ≠ .busy := by
      intro hbusy
      by_cases he : started σ.waiter task id = σ.waiter id
      · exact hw (he.trans hbusy)
      · rw [(h.started_of_ready hjoins he).2] at hbusy
        cases hbusy
    have ha : .waiter id ≠ a := by
      intro ha
      rw [← ha, h.resting id hcalm] at htodo
      cases htodo
    exact (htodo' _ ha).trans (h.resting id hcalm)

section

variable (h : Locks σ) (htodo : σ.todo a = .control id action :: rest)
include h htodo

/-- A thread goes on within its timer: nobody's mutex changes. -/
theorem within (hin : σ.stage a ≠ .free) {stage : Stage} (hstage : stage ≠ .free)
    {sm : IECStateMachine} {waiter : TimerId → Waiter}
    (hwaiter : ∀ id, waiter id ≠ .busy → σ.waiter id ≠ .busy)
    (halive : ∀ id, (sm.timer id).running = true ↔ waiter id ≠ .absent) : Locks { σ with
      sm := sm
      stage := update σ.stage a stage
      waiter := waiter
      exitSignal := update σ.exitSignal id (decide (stage = .joining)) } := by
  have hholds (b : ThreadId n) (m : Mutex) :
      Holds { σ with
        sm := sm
        stage := update σ.stage a stage
        waiter := waiter
        exitSignal := update σ.exitSignal id (decide (stage = .joining)) } b m ↔
        σ.Holds b m := by
    unfold Holds
    by_cases hb : b = a
    · subst hb
      simp [hstage, hin]
    · simp [update_of_ne hb]
  -- nobody else is in the join of this timer
  have hid (b : ThreadId n) (action' : TimerControl) (rest' : List Task) {id' : TimerId}
      (hb : b ≠ a) (ht : σ.todo b = .control id' action' :: rest') (hs : σ.stage b = .joining) :
      id' ≠ id := by
    rintro rfl
    exact hb (h.unique ⟨by simp [ht, Task.mutex?], by simp [hs]⟩
      (⟨by simp [htodo, Task.mutex?], hin⟩ : σ.Holds a (.timer id')))
  refine ⟨fun m b => (h.owner m b).trans (hholds b m).symm, ?_, ?_, ?_, ?_, halive⟩
  · intro b hb
    have hb' : σ.stage b ≠ .free := by
      by_cases hba : b = a
      · exact hba ▸ hin
      · simpa [update_of_ne hba] using hb
    obtain ⟨m, hm⟩ := h.entered b hb'
    exact ⟨m, (hholds b m).2 hm⟩
  · intro b hb
    by_cases hba : b = a
    · subst hba
      refine ⟨id, action, rest, htodo, ?_⟩
      simpa using hb
    · have hs : σ.stage b = .joining := by simpa [update_of_ne hba] using hb
      obtain ⟨id', action', rest', ht, hexit⟩ := h.joining b hs
      refine ⟨id', action', rest', ht, ?_⟩
      simpa [update_of_ne (hid b action' rest' hba ht hs)] using hexit
  · intro id' hexit
    by_cases hne : id' = id
    · subst hne
      exact ⟨a, action, rest, htodo, by simpa using hexit⟩
    · obtain ⟨b, action', rest', ht, hs⟩ := h.signalled id'
        (by simpa [update_of_ne hne] using hexit)
      have hba : b ≠ a := by
        rintro rfl
        rw [htodo] at ht
        cases ht
        exact hne rfl
      exact ⟨b, action', rest', ht, by simpa [update_of_ne hba] using hs⟩
  · intro id' hw
    exact h.resting id' (hwaiter id' hw)

lemma beginJoin (hs : σ.stage a = .entered) : Locks (σ.beginJoin a id) :=
  h.within htodo (by simp [hs]) (by simp) (fun _ hw => hw) h.alive

lemma joined (hs : σ.stage a = .joining) (hdone : σ.waiter id = .done) :
    Locks (σ.joined a id) := by
  refine h.within htodo (by simp [hs]) (by simp) (fun id' hw => ?_) fun id' => ?_
  · by_cases hid : id' = id
    · subst hid
      simp [hdone]
    · simpa [hid] using hw
  · rw [setTimer_timer]
    by_cases hid : id' = id
    · subst hid
      simp [AsyncTimeout.stop]
    · simpa [hid] using h.alive id'

end

lemma moved {σ' : IecSystem n} {move : Move n} (h : Locks σ) (hm : Moved σ move σ') : Locks σ' := by
  cases hm with
  | stay => exact h
  | call i input hidle => exact h.call i input hidle
  | enter a task rest m htodo hfree hmutex ho => exact h.enter htodo hfree hmutex ho
  | complete a task rest htodo hready => exact h.complete htodo hready
  | beginJoin a id action rest htodo hs => exact h.beginJoin htodo hs
  | joined a id action rest htodo hs hdone => exact h.joined htodo hs hdone
  | sleep id hw | leave id hw | again id hw =>
    exact h.setWaiter (h.resting id (by simp [hw])) (by simp [hw]) (by simp)
  | expire id hw => exact h.expire hw
  | finish id hw hidle => exact h.setWaiter hidle (by simp [hw]) (by simp)

lemma init (n : ℕ) (config : IecConfig) : Locks (init n config) := by
  refine ⟨?_, ?_, ?_, ?_, ?_, ?_⟩
  · intro m a
    exact iff_of_false nofun fun h => h.2 rfl
  · intro a h
    exact absurd rfl h
  · intro a h
    cases h
  · intro id h
    cases h
  · intro id _
    rfl
  · intro id
    cases id <;> exact iff_of_false nofun fun h => h rfl

lemma run (config : IecConfig) (moves : List (ℕ × Move n)) :
    Locks (Runs.run step (IecSystem.init n config) moves) := by
  have hstep : ∀ (σ : IecSystem n) i, Locks σ → Locks (σ.step i) :=
    fun σ i h => Locks.moved (σ := σ.tick i.1) { h with } act_moved
  exact Runs.run_inv hstep (Locks.init n config) moves

end Locks

/-- Whatever the threads do: two threads are not in sections under the same mutex, and a timer runs
exactly while it has its wait thread. -/
theorem sections_exclusive (n : ℕ) (config : IecConfig) (moves : List (ℕ × Move n)) :
    let σ := Runs.run step (init n config) moves
    (∀ m a b, σ.Holds a m → σ.Holds b m → a = b) ∧
      ∀ id, (σ.sm.timer id).running = true ↔ σ.waiter id ≠ .absent := by
  intro σ
  have h : Locks σ := Locks.run config moves
  exact ⟨fun m a b => h.unique, h.alive⟩

end IecSystem

end Everest.Evse
