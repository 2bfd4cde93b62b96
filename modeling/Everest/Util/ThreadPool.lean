import Everest.Lib.Runs
import Mathlib.Data.List.Perm.Basic

/- The scaling thread pool. A step is one section under the lock of the queue or of the worker
registry, or one access to an atomic counter. -/

namespace Everest.Util
open Runs

/-- `Oldest` is what a policy may take from the clock and the arrival of the oldest task. -/
structure PoolConfig (Oldest : Type) where
  minThreads : ℕ
  maxThreads : ℕ
  maxThreads_pos : 0 < maxThreads
  min_le_max : minThreads ≤ maxThreads
  queueLimit : ℕ
  supervisor : Bool
  shouldGrow : (currentWorkers queueSize : ℕ) → Oldest → Bool

/-- `GreedyScaling`, which has no supervisor. -/
def PoolConfig.greedy {Oldest : Type} (c : PoolConfig Oldest) : PoolConfig Oldest :=
  { c with supervisor := false, shouldGrow := fun _ queueSize _ => queueSize > 0 }

inductive Stage
  | running
  | shutdown
  | draining
  | joining
  | returned
  deriving DecidableEq

/-- Workers differ only in what they are about to do, so that they are counted. -/
structure ThreadPool (Task : Type) where
  queue : List Task := []
  /-- Registered, before the thread runs. -/
  starting : ℕ := 0
  /-- In front of `next_task`. -/
  ready : ℕ := 0
  /-- In front of the queue, without and with the idle timeout. -/
  popping : ℕ := 0
  poppingIdle : ℕ := 0
  waiting : ℕ := 0
  waitingIdle : ℕ := 0
  executing : List Task := []
  /-- Without a task, in front of `idle_worker_leaves`. -/
  unserved : ℕ := 0
  /-- Ended under shutdown, and still registered. -/
  left : ℕ := 0
  /-- Submissions between the push and `grow_if_needed`. -/
  submitting : ℕ := 0
  /-- The queue is stopped and the flag is set in one section. -/
  stage : Stage := .running
  accepted : List Task := []
  executed : List Task := []

inductive PoolEvent (Task Oldest : Type)
  | submit (task : Task)
  | grow (oldest : Oldest) (starts : Bool)
  | supervise (oldest : Oldest) (starts : Bool)
  | runWorker
  | nextTask
  | pop
  | popIdle
  | wake
  | wakeIdle
  | timeout
  | finish (i : ℕ)
  | idleWorkerLeaves
  | announceShutdown
  | joinSupervisor
  | drain (starts : Bool)
  | drained
  | joined

namespace ThreadPool

variable {Task Oldest : Type} (c : PoolConfig Oldest) (s : ThreadPool Task)

@[grind] def free : ℕ :=
  s.starting + s.ready + s.popping + s.poppingIdle + s.waiting + s.waitingIdle + s.unserved

@[grind] def running : ℕ := s.free + s.executing.length

@[grind] def registered : ℕ := s.running + s.left

@[grind] def waitingConsumers : ℕ := s.waiting + s.waitingIdle

@[grind] def hasUnclaimedTask : Bool := s.queue.length > s.waitingConsumers + s.starting

@[grind] def canGrow : Bool := s.stage = .running ∧ s.registered < c.maxThreads

@[grind] def spawnWorker : ThreadPool Task := { s with starting := s.starting + 1 }

@[grind] def takeLocked : ThreadPool Task :=
  match s.queue with
  | [] => { s with unserved := s.unserved + 1 }
  | task :: queue => { s with queue, executing := task :: s.executing }

@[grind] def hasDataOrStopped : Bool := s.queue ≠ [] ∨ s.stage ≠ .running

@[grind] def submit (task : Task) : ThreadPool Task :=
  if s.stage ≠ .running ∨ 0 < c.queueLimit ∧ c.queueLimit ≤ s.queue.length then s
  else
    let s := { s with queue := s.queue ++ [task], accepted := task :: s.accepted }
    if s.queue.length ≤ s.waitingConsumers then s else { s with submitting := s.submitting + 1 }

/-- Without a supervisor a submission retries a failed start. -/
@[grind] def growIfNeeded (oldest : Oldest) (starts : Bool) : ThreadPool Task :=
  if s.submitting = 0 then s
  else
    let done := { s with submitting := s.submitting - 1 }
    if s.hasUnclaimedTask && s.canGrow c && c.shouldGrow s.registered s.queue.length oldest then
      if starts then done.spawnWorker else if c.supervisor then done else s
    else done

@[grind] def supervise (oldest : Oldest) (starts : Bool) : ThreadPool Task :=
  if c.supervisor && s.canGrow c && s.hasUnclaimedTask &&
      c.shouldGrow s.registered s.queue.length oldest && starts then s.spawnWorker
  else s

@[grind] def nextTask : ThreadPool Task :=
  if s.ready = 0 then s
  -- `join_workers` sets the count of workers to zero
  else if s.stage ≠ .joining ∧ c.minThreads < s.registered then
    { s with ready := s.ready - 1, poppingIdle := s.poppingIdle + 1 }
  else { s with ready := s.ready - 1, popping := s.popping + 1 }

@[grind] def pop : ThreadPool Task :=
  if s.popping = 0 then s
  else
    let s := { s with popping := s.popping - 1 }
    if s.hasDataOrStopped then s.takeLocked else { s with waiting := s.waiting + 1 }

@[grind] def popIdle : ThreadPool Task :=
  if s.poppingIdle = 0 then s
  else
    let s := { s with poppingIdle := s.poppingIdle - 1 }
    if s.hasDataOrStopped then s.takeLocked else { s with waitingIdle := s.waitingIdle + 1 }

@[grind] def wake : ThreadPool Task :=
  if s.waiting ≠ 0 ∧ s.hasDataOrStopped then { s with waiting := s.waiting - 1 }.takeLocked else s

@[grind] def timeout : ThreadPool Task :=
  if s.waitingIdle ≠ 0 then { s with waitingIdle := s.waitingIdle - 1 }.takeLocked else s

@[grind] def finish (i : ℕ) : ThreadPool Task :=
  match s.executing[i]? with
  | none => s
  | some task => { s with
      executing := s.executing.eraseIdx i, executed := task :: s.executed, ready := s.ready + 1 }

@[grind] def idleWorkerLeaves : ThreadPool Task :=
  if s.unserved = 0 then s
  else
    let gone := { s with unserved := s.unserved - 1 }
    let stays := { gone with ready := s.ready + 1 }
    if s.stage ≠ .running then if s.queue = [] then { gone with left := s.left + 1 } else stays
    else if s.registered ≤ c.minThreads ∨ s.queue ≠ [] then stays
    else gone

@[grind] def drain (starts : Bool) : ThreadPool Task :=
  if s.stage = .draining ∧ s.queue ≠ [] ∧ s.hasUnclaimedTask ∧ s.registered < c.maxThreads ∧ starts
  then s.spawnWorker
  else s

@[grind] def step : PoolEvent Task Oldest → ThreadPool Task
  | .submit task => s.submit c task
  | .grow oldest starts => s.growIfNeeded c oldest starts
  | .supervise oldest starts => s.supervise c oldest starts
  | .runWorker =>
    if s.starting = 0 then s else { s with starting := s.starting - 1, ready := s.ready + 1 }
  | .nextTask => s.nextTask c
  | .pop => s.pop
  | .popIdle => s.popIdle
  | .wake => s.wake
  | .wakeIdle => if s.hasDataOrStopped then s.timeout else s
  | .timeout => s.timeout
  | .finish i => s.finish i
  | .idleWorkerLeaves => s.idleWorkerLeaves c
  | .announceShutdown => if s.stage = .running then { s with stage := .shutdown } else s
  | .joinSupervisor => if s.stage = .shutdown then { s with stage := .draining } else s
  | .drain starts => s.drain c starts
  | .drained => if s.stage = .draining ∧ s.queue = [] then { s with stage := .joining } else s
  | .joined => if s.stage = .joining ∧ s.running = 0 then { s with stage := .returned } else s

def create : ThreadPool Task := { starting := c.minThreads }

/-- The state with the workers that do not execute a task at the places they have in `w`. -/
@[grind] def seat (w : ThreadPool Task) : ThreadPool Task :=
  { s with
    starting := w.starting, ready := w.ready, popping := w.popping, poppingIdle := w.poppingIdle
    waiting := w.waiting, waitingIdle := w.waitingIdle, unserved := w.unserved }

/-- How far the workers without a task are from their end, for a queue that gets no more tasks. -/
@[grind] def idleToDo (queue : List Task) (w : ThreadPool Task) : ℕ :=
  6 * w.starting + 5 * w.ready + 4 * (w.popping + w.poppingIdle) +
    3 * (w.waiting + w.waitingIdle) + (if queue = [] then 1 else 6) * w.unserved

inductive NextStage (s : ThreadPool Task) : Stage → Prop
  | shutdown (h : s.stage = .running) : NextStage s .shutdown
  | draining (h : s.stage = .shutdown) : NextStage s .draining
  | joining (h : s.stage = .draining) (hqueue : s.queue = []) : NextStage s .joining
  | returned (h : s.stage = .joining) (hrunning : s.running = 0) : NextStage s .returned

inductive Change : ThreadPool Task → Prop
  | same : Change s
  | accept (task : Task) {submitting : ℕ} (hstage : s.stage = .running)
      (hserved : submitting = s.submitting ∧ s.queue.length < s.free ∨
        submitting = s.submitting + 1) :
      Change { s with queue := s.queue ++ [task], accepted := task :: s.accepted, submitting }
  | decline {submitting : ℕ} (hone : s.submitting = submitting + 1)
      (hno : s.queue.length ≤ s.free ∨ s.canGrow c = false ∨ c.supervisor = true ∨
        ∃ oldest, c.shouldGrow s.registered s.queue.length oldest = false) :
      Change { s with submitting }
  | spawn {submitting : ℕ} (hmax : s.registered < c.maxThreads)
      (hstage : s.stage = .running ∨ s.stage = .draining)
      (hle : submitting ≤ s.submitting) (hone : s.submitting ≤ submitting + 1) :
      Change { s.spawnWorker with submitting }
  | move (w : ThreadPool Task) (hfree : w.free = s.free)
      (hless : s.stage ≠ .running → idleToDo s.queue w < idleToDo s.queue s) : Change (s.seat w)
  | take (w : ThreadPool Task) {task : Task} {queue : List Task} (hqueue : s.queue = task :: queue)
      (hfree : w.free + 1 = s.free) (hless : idleToDo s.queue w + 3 ≤ idleToDo s.queue s) :
      Change { s.seat w with queue, executing := task :: s.executing }
  | finish (i : Fin s.executing.length) :
      Change { s with
        executing := s.executing.eraseIdx i, executed := s.executing.get i :: s.executed
        ready := s.ready + 1 }
  | exit {unserved : ℕ} (hone : s.unserved = unserved + 1) (hstage : s.stage = .running)
      (hmin : c.minThreads < s.registered) (hqueue : s.queue = []) : Change { s with unserved }
  | leave {unserved : ℕ} (hone : s.unserved = unserved + 1) (hstage : s.stage ≠ .running)
      (hqueue : s.queue = []) : Change { s with unserved, left := s.left + 1 }
  | advance {stage : Stage} (hnext : NextStage s stage) : Change { s with stage }

variable {c s}

/-- A worker that comes to the queue leaves with its oldest task or without one. -/
lemma Change.takeLocked (w : ThreadPool Task) (hfree : w.free + 1 = s.free)
    (hless : ∀ queue, idleToDo queue w + 3 ≤ idleToDo queue s) :
    Change c s (s.seat w).takeLocked := by
  unfold ThreadPool.takeLocked
  split
  · rename_i hqueue
    have hqueue : s.queue = [] := hqueue
    refine .move { w with unserved := w.unserved + 1 } (by grind) fun _ => ?_
    have hless := hless []
    rw [hqueue]
    grind
  · rename_i task queue hqueue
    exact .take w hqueue hfree (hless _)

lemma change_growIfNeeded (oldest : Oldest) (starts : Bool) :
    Change c s (s.growIfNeeded c oldest starts) := by
  unfold growIfNeeded
  split_ifs with hnone hgrow hstarts hsupervisor
  · exact .same
  · exact .spawn (by grind) (by grind) (Nat.sub_le _ _) (by grind)
  · exact .decline (by omega) (.inr (.inr (.inl hsupervisor)))
  · exact .same
  · refine .decline (by omega) ?_
    -- Without an unclaimed task the waiting workers and those that start are enough.
    by_cases hunclaimed : s.hasUnclaimedTask = true
    · by_cases hcan : s.canGrow c = true
      · exact .inr (.inr (.inr ⟨oldest, by simpa [hunclaimed, hcan] using hgrow⟩))
      · exact .inr (.inl (by simpa using hcan))
    · exact .inl (by grind)

lemma change_pop : Change c s s.pop := by
  simp only [pop]
  split_ifs with hnone
  · exact .same
  · exact Change.takeLocked (s := s) { s with popping := s.popping - 1 } (by grind) (by grind)
  · exact .move { s with popping := s.popping - 1, waiting := s.waiting + 1 } (by grind) (by grind)

lemma change_popIdle : Change c s s.popIdle := by
  simp only [popIdle]
  split_ifs with hnone
  · exact .same
  · exact Change.takeLocked (s := s) { s with poppingIdle := s.poppingIdle - 1 }
      (by grind) (by grind)
  · exact .move
      { s with poppingIdle := s.poppingIdle - 1, waitingIdle := s.waitingIdle + 1 }
      (by grind) (by grind)

lemma change_timeout : Change c s s.timeout := by
  unfold timeout
  split_ifs with hwaiting
  · exact Change.takeLocked (s := s) { s with waitingIdle := s.waitingIdle - 1 }
      (by grind) (by grind)
  · exact .same

lemma change_idleWorkerLeaves : Change c s (s.idleWorkerLeaves c) := by
  have hstays (hnone : s.unserved ≠ 0) (hqueue : s.stage ≠ .running → s.queue ≠ []) :
      Change c s { s with unserved := s.unserved - 1, ready := s.ready + 1 } :=
    .move { s with unserved := s.unserved - 1, ready := s.ready + 1 } (by grind) (by grind)
  simp only [idleWorkerLeaves]
  split_ifs with hnone hstage hqueue hmin
  · exact .same
  · exact .leave (by omega) hstage hqueue
  · exact hstays hnone fun _ => hqueue
  · exact hstays hnone fun hne => absurd hne hstage
  · exact .exit (by omega) (not_not.1 hstage) (by grind) (by grind)

lemma step_change (e : PoolEvent Task Oldest) : Change c s (s.step c e) := by
  cases e with
  | submit task =>
    simp only [step, submit]
    split_ifs with hfull hwaiting
    · exact .same
    · exact .accept task (by grind) (.inl ⟨rfl, by grind⟩)
    · exact .accept task (by grind) (.inr rfl)
  | grow oldest starts => exact change_growIfNeeded oldest starts
  | supervise oldest starts =>
    simp only [step, supervise]
    split_ifs with hgrow
    · exact .spawn (by grind) (by grind) (Nat.le_refl _) (Nat.le_succ _)
    · exact .same
  | runWorker =>
    simp only [step]
    split_ifs with hnone
    · exact .same
    · exact .move { s with starting := s.starting - 1, ready := s.ready + 1 } (by grind) (by grind)
  | nextTask =>
    simp only [step, nextTask]
    split_ifs with hnone hidle
    · exact .same
    · exact .move { s with ready := s.ready - 1, poppingIdle := s.poppingIdle + 1 }
        (by grind) (by grind)
    · exact .move { s with ready := s.ready - 1, popping := s.popping + 1 } (by grind) (by grind)
  | pop => exact change_pop
  | popIdle => exact change_popIdle
  | wake =>
    simp only [step, wake]
    split_ifs with hwaiting
    · exact Change.takeLocked (s := s) { s with waiting := s.waiting - 1 } (by grind) (by grind)
    · exact .same
  | wakeIdle =>
    simp only [step]
    split_ifs
    · exact change_timeout
    · exact .same
  | timeout => exact change_timeout
  | finish i =>
    simp only [step, finish]
    cases hi : s.executing[i]? with
    | none => exact .same
    | some task =>
      obtain ⟨hlt, rfl⟩ := List.getElem?_eq_some_iff.1 hi
      exact .finish ⟨i, hlt⟩
  | idleWorkerLeaves => exact change_idleWorkerLeaves
  | announceShutdown =>
    simp only [step]
    split_ifs with hstage
    · exact .advance (.shutdown hstage)
    · exact .same
  | joinSupervisor =>
    simp only [step]
    split_ifs with hstage
    · exact .advance (.draining hstage)
    · exact .same
  | drain starts =>
    simp only [step, drain]
    split_ifs with hgrow
    · exact .spawn hgrow.2.2.2.1 (.inr hgrow.1) (Nat.le_refl _) (Nat.le_succ _)
    · exact .same
  | drained =>
    simp only [step]
    split_ifs with hstage
    · exact .advance (.joining hstage.1 hstage.2)
    · exact .same
  | joined =>
    simp only [step]
    split_ifs with hstage
    · exact .advance (.returned hstage.1 hstage.2)
    · exact .same

/-- A step without shutdown in which a thread that is wanted starts. -/
def Smooth : PoolEvent Task Oldest → Prop
  | .grow _ starts => starts
  | .announceShutdown => False
  | _ => True

lemma Smooth.running {e : PoolEvent Task Oldest} (he : Smooth e) (h : s.stage = .running) :
    (s.step c e).stage = .running := by
  cases e with
  | announceShutdown => exact he.elim
  | _ => grind

/-- Below the maximum, a queued task has a free worker or a submission that still decides. -/
structure Staffed (c : PoolConfig Oldest) (s : ThreadPool Task) : Prop where
  stage : s.stage = .running
  left : s.left = 0
  min_le : c.minThreads ≤ s.registered
  le_max : s.registered ≤ c.maxThreads
  served : s.registered < c.maxThreads → s.queue.length ≤ s.free + s.submitting

lemma Staffed.change (h : Staffed c.greedy s) {t : ThreadPool Task} (hchange : Change c.greedy s t)
    (hstage : t.stage = .running) : Staffed c.greedy t := by
  obtain ⟨hrunning, hleft, hmin, hmax, hserved⟩ := h
  cases hchange with
  | same => exact ⟨hrunning, hleft, hmin, hmax, hserved⟩
  | accept task _ hserves =>
    refine ⟨hrunning, hleft, hmin, hmax, fun hlt => ?_⟩
    have hserved := hserved hlt
    rw [List.length_append, List.length_singleton]
    grind
  | decline hone hno =>
    refine ⟨hrunning, hleft, hmin, hmax, fun hlt => ?_⟩
    change s.queue.length ≤ s.free + _
    obtain hfree | hcan | hsup | ⟨oldest, hshould⟩ := hno
    · omega
    · have hlt : s.registered < c.greedy.maxThreads := hlt
      simp [canGrow, hrunning, hlt] at hcan
    · simp [PoolConfig.greedy] at hsup
    · have hempty : s.queue.length = 0 := by simpa [PoolConfig.greedy] using hshould
      omega
  | spawn hlt =>
    have hserved := hserved hlt
    exact ⟨hrunning, hleft, by grind, by grind, by grind⟩
  | move w hfree =>
    exact ⟨hrunning, hleft, by grind, by grind, by grind⟩
  | take w hqueue hfree =>
    exact ⟨hrunning, hleft, by grind, by grind, by grind⟩
  | finish i =>
    exact ⟨hrunning, hleft, by grind, by grind, by grind⟩
  | exit hone _ hlt hqueue =>
    exact ⟨hrunning, hleft, by grind, by grind, by grind⟩
  | leave _ hne => exact absurd hrunning hne
  | advance hnext => cases hnext <;> nomatch hstage

/-- Greedily a task does not wait for a busy worker while the pool may grow. -/
theorem greedy_pool_staffed (c : PoolConfig Oldest)
    (events : List { e : PoolEvent Task Oldest // Smooth e }) :
    let s := run (step c.greedy) (create c.greedy) (events.map (·.1))
    c.minThreads ≤ s.registered ∧ s.registered ≤ c.maxThreads ∧
      (s.submitting = 0 → s.registered < c.maxThreads → s.queue.length ≤ s.free) := by
  intro s
  have hrun : ∀ {s : ThreadPool Task}, Staffed c.greedy s →
      Staffed c.greedy (run (step c.greedy) s (events.map (·.1))) := by
    induction events with
    | nil => exact id
    | cons e events ih => exact fun h => ih (h.change (step_change e.1) (e.2.running h.stage))
  have h := hrun (s := create c.greedy) (by
    constructor <;> simp [create, registered, running, free, PoolConfig.greedy, c.min_le_max])
  refine ⟨h.min_le, h.le_max, fun hsubmitting hlt => ?_⟩
  have hserved := h.served hlt
  rwa [show (run (step c.greedy) (create c.greedy) (events.map (·.1))).submitting = 0 from
    hsubmitting] at hserved

def busyWorker : List { e : PoolEvent ℕ Unit // Smooth e } :=
  [⟨.runWorker, trivial⟩, ⟨.nextTask, trivial⟩, ⟨.submit 1, trivial⟩, ⟨.pop, trivial⟩,
    ⟨.grow () true, rfl⟩, ⟨.submit 2, trivial⟩, ⟨.grow () true, rfl⟩]

theorem busy_pool_staffed :
    let c : PoolConfig Unit := ⟨1, 3, by decide, by decide, 0, false, fun _ _ _ => false⟩
    let s := run (step c.greedy) (create c.greedy) (busyWorker.map (·.1))
    s.executing = [1] ∧ s.queue = [2] ∧ s.registered = 2 ∧ s.queue.length ≤ s.free := by
  intro c s
  have hsubmitting : s.submitting = 0 := by decide
  have hlt : s.registered < c.maxThreads := by decide
  refine ⟨by decide, by decide, by decide, ?_⟩
  exact (greedy_pool_staffed c busyWorker).2.2 hsubmitting hlt

def InOrder (s : ThreadPool Task) : Prop :=
  ∃ taken, s.accepted.reverse = taken ++ s.queue ∧ taken.Perm (s.executing ++ s.executed)

lemma InOrder.change (h : s.InOrder) {t : ThreadPool Task} (hchange : Change c s t) :
    t.InOrder := by
  obtain ⟨taken, haccepted, htaken⟩ := h
  cases hchange with
  | accept task =>
    refine ⟨taken, ?_, htaken⟩
    rw [List.reverse_cons, haccepted, List.append_assoc]
  | @take w task queue hqueue =>
    rw [hqueue] at haccepted
    refine ⟨taken ++ [task], ?_, ?_⟩
    · rw [List.append_assoc]
      exact haccepted
    · exact (List.perm_append_singleton task taken).trans (htaken.cons task)
  | finish i =>
    refine ⟨taken, haccepted, htaken.trans ?_⟩
    exact ((List.getElem_cons_eraseIdx_perm i.2).symm.append_right _).trans List.perm_middle.symm
  | _ => exact ⟨taken, haccepted, htaken⟩

lemma InOrder.perm (h : s.InOrder) (hqueue : s.queue = []) :
    s.accepted.Perm (s.executing ++ s.executed) := by
  obtain ⟨taken, haccepted, htaken⟩ := h
  rw [hqueue, List.append_nil] at haccepted
  exact (List.reverse_perm _).symm.trans (haccepted ▸ htaken)

/-- What the end of a worker and the stages of the destructor say about the queue. -/
structure Kept (c : PoolConfig Oldest) (s : ThreadPool Task) : Prop where
  le_max : s.registered ≤ c.maxThreads
  order : s.InOrder
  left : 0 < s.left → s.stage ≠ .running ∧ s.queue = []
  joining : s.stage = .joining ∨ s.stage = .returned → s.queue = []
  returned : s.stage = .returned → s.running = 0

lemma Kept.change (h : Kept c s) {t : ThreadPool Task} (hchange : Change c s t) : Kept c t := by
  have horder := h.order.change hchange
  obtain ⟨hmax, -, hleft, hjoining, hreturned⟩ := h
  cases hchange with
  | same => exact ⟨hmax, horder, hleft, hjoining, hreturned⟩
  | accept task hstage => exact ⟨hmax, horder, by grind, by grind, by grind⟩
  | decline => exact ⟨hmax, horder, hleft, hjoining, hreturned⟩
  | spawn hlt hstage => exact ⟨by grind, horder, hleft, hjoining, by grind⟩
  | move w hfree => exact ⟨by grind, horder, hleft, hjoining, by grind⟩
  | take w hqueue hfree => exact ⟨by grind, horder, by grind, by grind, by grind⟩
  | finish i => exact ⟨by grind, horder, hleft, hjoining, by grind⟩
  | exit hone hstage => exact ⟨by grind, horder, hleft, hjoining, by grind⟩
  | leave hone hstage hqueue =>
    exact ⟨by grind, horder, fun _ => ⟨hstage, hqueue⟩, hjoining, by grind⟩
  | advance hnext =>
    cases hnext with
    | shutdown hstage => exact ⟨hmax, horder, by grind, by grind, by grind⟩
    | draining hstage => exact ⟨hmax, horder, by grind, by grind, by grind⟩
    | joining hstage hqueue => exact ⟨hmax, horder, by grind, fun _ => hqueue, by grind⟩
    | returned hstage hrunning => exact ⟨hmax, horder, by grind, by grind, fun _ => hrunning⟩

def stageRank : Stage → ℕ
  | .running => 4
  | .shutdown => 3
  | .draining => 2
  | .joining => 1
  | .returned => 0

def toDo (c : PoolConfig Oldest) (s : ThreadPool Task) : ℕ :=
  s.submitting + 10 * s.queue.length + 8 * s.executing.length + 6 * s.starting + 5 * s.ready +
    4 * (s.popping + s.poppingIdle) + 3 * (s.waiting + s.waitingIdle) +
    (if s.queue = [] then 1 else 6) * s.unserved + 7 * (c.maxThreads - s.registered) +
    stageRank s.stage

lemma toDo_eq (c : PoolConfig Oldest) (s : ThreadPool Task) :
    toDo c s = s.submitting + 10 * s.queue.length + 8 * s.executing.length + idleToDo s.queue s +
      7 * (c.maxThreads - s.registered) + stageRank s.stage := by
  unfold toDo idleToDo
  omega

lemma idleToDo_le (task : Task) (queue : List Task) (w : ThreadPool Task) :
    idleToDo queue w ≤ idleToDo (task :: queue) w := by
  grind

lemma NextStage.lowers {stage : Stage} (h : NextStage s stage) :
    stageRank stage < stageRank s.stage := by
  cases h <;> simp [stageRank, *]

lemma Change.lowers {t : ThreadPool Task} (hchange : Change c s t)
    (hmax : s.registered ≤ c.maxThreads) (hstage : s.stage ≠ .running) :
    t = s ∨ toDo c t < toDo c s := by
  rw [toDo_eq, toDo_eq]
  cases hchange with
  | same => exact .inl rfl
  | accept task hrunning => exact absurd hrunning hstage
  | decline hone => grind
  | spawn hlt => grind
  | move w hfree hless =>
    have hless := hless hstage
    grind
  | @take w task queue hqueue hfree hless =>
    have hle := idleToDo_le task queue w
    rw [← hqueue] at hle
    grind
  | finish i => grind
  | exit hone hrunning => exact absurd hrunning hstage
  | leave hone => grind
  | advance hnext =>
    have hlt := hnext.lowers
    grind

/-- Before the destructor has returned there is something that can be done. -/
lemma exists_step (h : Kept c s) (hstage : s.stage ≠ .running) (hreturned : s.stage ≠ .returned) :
    ∃ e, s.step c e ≠ s := by
  obtain ⟨hmax, -, hleft, hjoining, -⟩ := h
  have hpos := c.maxThreads_pos
  by_contra! hsame
  -- No worker can be anywhere but at its end.
  have hstarting : s.starting = 0 := by grind [congrArg starting (hsame .runWorker)]
  have hready : s.ready = 0 := by grind [congrArg ready (hsame .nextTask)]
  have hpopping : s.popping = 0 := by grind [congrArg popping (hsame .pop)]
  have hpoppingIdle : s.poppingIdle = 0 := by grind [congrArg poppingIdle (hsame .popIdle)]
  have hwaiting : s.waiting = 0 := by grind [congrArg waiting (hsame .wake)]
  have hwaitingIdle : s.waitingIdle = 0 := by grind [congrArg waitingIdle (hsame .wakeIdle)]
  have hunserved : s.unserved = 0 := by grind [congrArg unserved (hsame .idleWorkerLeaves)]
  have hexecuting : s.executing = [] := by
    have hexecuted := congrArg (·.executed.length) (hsame (.finish 0))
    cases hlist : s.executing with
    | nil => rfl
    | cons => simp [step, finish, hlist] at hexecuted
  have hrunning : s.running = 0 := by simp [running, free, *]
  cases hs : s.stage with
  | running => exact hstage hs
  | shutdown => grind [congrArg stage (hsame .joinSupervisor)]
  | draining =>
    by_cases hqueue : s.queue = []
    · grind [congrArg stage (hsame .drained)]
    · have hlength : 0 < s.queue.length := List.length_pos_iff.2 hqueue
      grind [congrArg starting (hsame (.drain true))]
  | joining => grind [congrArg stage (hsame .joined)]
  | returned => exact hreturned hs

lemma Kept.run (h : Kept c s) (events : List (PoolEvent Task Oldest)) :
    Kept c (Runs.run (step c) s events) := by
  have hstep : ∀ (s : ThreadPool Task) (e : PoolEvent Task Oldest),
      Kept c s → Kept c (s.step c e) :=
    fun _ e h => h.change (step_change e)
  exact run_inv hstep h events

lemma kept_create : Kept c (create c : ThreadPool Task) :=
  ⟨by simp [create, registered, running, free, c.min_le_max], ⟨[], rfl, .nil⟩,
    by simp [create], by simp [create], by simp [create]⟩

lemma Kept.executing_eq_nil (h : Kept c s) (hreturned : s.stage = .returned) :
    s.executing = [] := by
  have hrunning := h.returned hreturned
  exact List.length_eq_zero_iff.1 (by grind)

lemma Kept.executed (h : Kept c s) (hreturned : s.stage = .returned) :
    s.accepted.Perm s.executed := by
  have hperm := h.order.perm (h.joining (.inr hreturned))
  rwa [h.executing_eq_nil hreturned] at hperm

lemma Change.stopped {t : ThreadPool Task} (hchange : Change c s t) (hstage : s.stage ≠ .running) :
    t.accepted = s.accepted ∧ t.stage ≠ .running := by
  cases hchange with
  | accept task hrunning => exact absurd hrunning hstage
  | advance hnext => exact ⟨rfl, by cases hnext <;> nofun⟩
  | _ => exact ⟨rfl, hstage⟩

/-- For every policy and whatever starts fail, no accepted task is lost. Once the pool is shut
down, every step that changes anything leaves less to do, and there is one until all is done. -/
theorem accepted_tasks_executed (c : PoolConfig Oldest) (events : List (PoolEvent Task Oldest)) :
    let s := run (step c) (create c) events
    s.running ≤ c.maxThreads ∧ (s.stage = .returned → s.accepted.Perm s.executed) ∧
    (s.stage ≠ .running →
      (∀ e, (s.step c e).accepted = s.accepted ∧ (s.step c e).stage ≠ .running ∧
        (s.step c e = s ∨ toDo c (s.step c e) < toDo c s)) ∧
      (s.stage ≠ .returned → ∃ e, s.step c e ≠ s)) := by
  intro s
  have h : Kept c s := kept_create.run events
  refine ⟨Nat.le_trans (Nat.le_add_right _ _) h.le_max, h.executed, fun hstage =>
    ⟨fun e => ?_, exists_step h hstage⟩⟩
  have hchange : Change c s (s.step c e) := step_change e
  obtain ⟨haccepted, hstopped⟩ := hchange.stopped hstage
  exact ⟨haccepted, hstopped, hchange.lowers h.le_max hstage⟩

def shutDownPool : List (PoolEvent ℕ Unit) :=
  [.runWorker, .nextTask, .submit 1, .submit 2, .announceShutdown, .pop, .joinSupervisor,
    .finish 0, .nextTask, .pop, .drained, .finish 0, .nextTask, .pop, .idleWorkerLeaves, .joined]

theorem shut_down_pool_executed :
    let c : PoolConfig Unit := ⟨1, 1, Nat.one_pos, Nat.le_refl 1, 0, false, fun _ _ _ => true⟩
    let s := run (step c) (create c) shutDownPool
    s.stage = .returned ∧ s.executed = [2, 1] ∧ s.accepted.Perm s.executed := by
  intro c s
  have hreturned : s.stage = .returned := by decide
  exact ⟨hreturned, by decide, (accepted_tasks_executed c shutDownPool).2.1 hreturned⟩

lemma exists_return (h : Kept c s) (hstage : s.stage ≠ .running) :
    ∃ events, (run (step c) s events).stage = .returned ∧
      (run (step c) s events).accepted = s.accepted := by
  -- Every step that changes the state leaves less to do.
  induction hn : toDo c s using Nat.strongRecOn generalizing s with
  | ind n ih =>
    subst hn
    by_cases hreturned : s.stage = .returned
    · exact ⟨[], hreturned, rfl⟩
    · obtain ⟨e, hne⟩ := exists_step h hstage hreturned
      have hchange : Change c s (s.step c e) := step_change e
      obtain ⟨haccepted, hstopped⟩ := hchange.stopped hstage
      have hlt := (hchange.lowers h.le_max hstage).resolve_left hne
      obtain ⟨events, hend, hsame⟩ := ih _ hlt (h.change hchange) hstopped rfl
      exact ⟨e :: events, hend, hsame.trans haccepted⟩

/-- The executed tasks, the one in execution and the queued ones are in the order in which they
were accepted. -/
def InSequence (s : ThreadPool Task) : Prop :=
  s.accepted.reverse = s.executed.reverse ++ (s.executing ++ s.queue)

lemma InSequence.change (h : s.InSequence) (hone : s.registered ≤ 1) {t : ThreadPool Task}
    (hchange : Change c s t) : t.InSequence := by
  have hexecuting : s.free + s.executing.length ≤ 1 := Nat.le_trans (Nat.le_add_right _ _) hone
  cases hchange with
  | accept task =>
    simp only [InSequence, List.reverse_cons]
    rw [show s.accepted.reverse = _ from h]
    simp
  | @take w task queue hqueue hfree =>
    have hnone : s.executing = [] := List.length_eq_zero_iff.1 (by omega)
    simp only [InSequence, hqueue, hnone] at h ⊢
    exact h
  | finish i =>
    have hlength : s.executing.length = 1 := by
      have hi := i.isLt
      omega
    obtain ⟨task, htask⟩ := List.length_eq_one_iff.1 hlength
    have hget : s.executing.get i = task :=
      List.mem_singleton.1 (by rw [← htask]; exact List.get_mem s.executing i)
    have herase : s.executing.eraseIdx i = [] :=
      List.length_eq_zero_iff.1 (by rw [List.length_eraseIdx_of_lt i.isLt, hlength])
    simp only [InSequence, hget, herase, List.reverse_cons, List.append_assoc, List.nil_append]
    simpa only [InSequence, htask] using h
  | _ => exact h

lemma Kept.inSequence (h : Kept c s) (hone : c.maxThreads = 1) (hs : s.InSequence)
    (events : List (PoolEvent Task Oldest)) :
    (Runs.run (step c) s events).InSequence := by
  have hstep : ∀ (s : ThreadPool Task) (e : PoolEvent Task Oldest),
      Kept c s ∧ s.InSequence → Kept c (s.step c e) ∧ (s.step c e).InSequence :=
    fun _ e hs => ⟨hs.1.change (step_change e),
      hs.2.change (hone ▸ hs.1.le_max) (step_change (c := c) e)⟩
  exact (run_inv hstep ⟨h, hs⟩ events).2

/-- Under every policy the tasks are taken up in the order in which they were accepted, and a
single worker executes them in it. A shutdown that is announced now can be brought to its end,
with all of them executed. -/
theorem tasks_taken_in_order (c : PoolConfig Oldest) (events : List (PoolEvent Task Oldest)) :
    let s : ThreadPool Task := run (step c) (create c) events
    s.InOrder ∧ (c.maxThreads = 1 → s.InSequence) ∧
      ∃ more, let t := run (step c) s (.announceShutdown :: more)
        t.stage = .returned ∧ s.accepted.Perm t.executed ∧
          (c.maxThreads = 1 → t.executed = s.accepted) := by
  intro s
  have h : Kept c s := kept_create.run events
  have hsequence (hone : c.maxThreads = 1) : s.InSequence :=
    kept_create.inSequence hone rfl events
  refine ⟨h.order, hsequence, ?_⟩
  have hstopped : (s.step c .announceShutdown).stage ≠ .running := by grind
  have haccepted : (s.step c .announceShutdown).accepted = s.accepted := by grind
  obtain ⟨more, hreturned, hsame⟩ := exists_return (h.change (step_change _)) hstopped
  have ht := h.run (.announceShutdown :: more)
  refine ⟨more, hreturned, ?_, fun hone => ?_⟩
  · rw [← haccepted, ← hsame]
    exact ht.executed hreturned
  · have htasks := h.inSequence hone (hsequence hone) (.announceShutdown :: more)
    rw [InSequence, ht.executing_eq_nil hreturned, ht.joining (.inr hreturned), List.append_nil,
      List.append_nil] at htasks
    exact (List.reverse_injective htasks).symm.trans (hsame.trans haccepted)

theorem single_worker_keeps_order :
    let c : PoolConfig Unit := ⟨1, 1, Nat.one_pos, Nat.le_refl 1, 0, false, fun _ _ _ => true⟩
    let s := run (step c) (create c) (shutDownPool.take 4)
    s.queue = [1, 2] ∧ ∃ more, (run (step c) s (.announceShutdown :: more)).executed = [2, 1] := by
  intro c s
  obtain ⟨more, -, -, hexecuted⟩ := (tasks_taken_in_order c (shutDownPool.take 4)).2.2
  have haccepted : s.accepted = [2, 1] := by decide
  exact ⟨by decide, more, (hexecuted rfl).trans haccepted⟩

end ThreadPool

end Everest.Util
