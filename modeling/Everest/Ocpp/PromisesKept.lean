import Everest.Ocpp.Outcomes
import Everest.Ocpp.TransactionOrder

namespace Everest.Ocpp
open Queues Runs MessageQueue

variable {M : Type}

def Accounted (q : Queues M) : Prop := ∀ a, q.entries a = q.allocated a

lemma Accounted.of_entries {q q' : Queues M} (h : Accounted q)
    (hents : ∀ a, q'.entries a + q.allocated a = q.entries a + q'.allocated a) :
    Accounted q' := by
  intro a
  have hbef := h a
  have hstep := hents a
  omega

lemma loadMessage_lossless {queue : QueueType} {row : DBTransactionMessage M} {q : Queues M} :
    Lossless q (q.loadMessage queue row) := by
  cases queue with
  | normal =>
    have hnew : ∀ m : ControlMessage M, m.address = q.nextAddress →
        Lossless q { q with
          nextAddress := q.nextAddress + 1
          normalMessageQueue := q.normalMessageQueue ++ [m] } := fun m hm =>
      .of_pushed hm ⟨rfl, rfl, rfl⟩ (fun a => by simp [held]; omega) rfl
    exact hnew _ rfl
  | transaction =>
    have hnew : ∀ m : ControlMessage M, m.address = q.nextAddress →
        Lossless q { q with
          nextAddress := q.nextAddress + 1
          transactionMessageQueue := q.transactionMessageQueue ++ [m] } := fun m hm =>
      .of_pushed hm ⟨rfl, rfl, rfl⟩ (fun a => by simp [held]; omega) rfl
    exact hnew _ rfl

variable [DecidableEq M] [MessageType M]

def startedQueue (config : MessageQueueConfig M) (database : Database M) (env : Env)
    (ignoreSecurityEventNotifications : Bool) : MessageQueue M :=
  (emptyQueue config database).restart config env ignoreSecurityEventNotifications

lemma startedQueue_accounted (config : MessageQueueConfig M) (database : Database M)
    (env : Env) (ignoreSecurityEventNotifications : Bool) :
    Accounted (startedQueue config database env ignoreSecurityEventNotifications).toQueues := by
  have hempty : Accounted ({ database := database } : Queues M) := fun a => rfl
  have hloaded : Lossless { database := database }
      (startedQueue config database env ignoreSecurityEventNotifications).toQueues :=
    getPersistedMessagesFromDb_inv config env _ (fun _ _ _ h => h.trans loadMessage_lossless)
      (fun _ _ htidied h => h.trans htidied.lossless) (.refl _)
  exact hempty.of_entries hloaded.entries

lemma step_accounted {s : MessageQueue M} (input : MessageQueue.Input M)
    (h : Accounted s.toQueues) :
    Accounted (s.step input).toQueues ∧ s.nextAddress ≤ (s.step input).nextAddress := by
  rcases s.step_outcome with ⟨hbal, -⟩ | ⟨env, m, queue, -, -, hsends⟩
  · exact ⟨h.of_entries hbal.entries, hbal.nextAddress⟩
  · exact ⟨h.of_entries hsends.entries, hsends.nextAddress⟩

variable {s : MessageQueue M}

lemma step_dropped {input : MessageQueue.Input M} (h : MessageQueue.Roomy s input) :
    (s.step input).dropped = s.dropped := by
  rcases s.step_outcome with ⟨-, hdrop⟩ | ⟨env, m, queue, -, -, hsends⟩
  · exact hdrop h
  · exact hsends.dropped

lemma run_accounted (h : Accounted s.toQueues) (inputs : List (MessageQueue.Input M)) :
    Accounted (run step s inputs).toQueues ∧
      s.nextAddress ≤ (run step s inputs).nextAddress := by
  have hstep : ∀ (s' : MessageQueue M) input,
      Accounted s'.toQueues ∧ s.nextAddress ≤ s'.nextAddress →
      Accounted (s'.step input).toQueues ∧ s.nextAddress ≤ (s'.step input).nextAddress := by
    intro s' input h'
    obtain ⟨haccounted, hnext⟩ := step_accounted input h'.1
    exact ⟨haccounted, h'.2.trans hnext⟩
  exact run_inv hstep ⟨h, le_rfl⟩ inputs

lemma run_dropped {inputs : List (MessageQueue.Input M)}
    (h : AllSteps step MessageQueue.Roomy s inputs) :
    (run step s inputs).dropped = s.dropped := by
  induction inputs generalizing s with
  | nil => rfl
  | cons input inputs ih => exact (ih h.2).trans (step_dropped h.1)

/-- The promise of a message that `push_call_async` makes is given a value at most once. If
calls are pushed only while there is room for them, it has a value as soon as the message is
neither queued nor in flight. -/
theorem async_call_resolved (config : MessageQueueConfig M) (database : Database M)
    (startEnv : Env) (ignoreSecurityEventNotifications : Bool)
    (before after : List (MessageQueue.Input M)) (env : Env) (call : Call M) :
    let s := run step
      (startedQueue config database startEnv ignoreSecurityEventNotifications) before
    let s' := run step s (.pushCallAsync env call :: after)
    occurrences s.nextAddress s'.resolved ≤ 1 ∧
      (AllSteps step MessageQueue.Roomy s (.pushCallAsync env call :: after) →
        (∀ m ∈ s'.held, m.address ≠ s.nextAddress) →
          occurrences s.nextAddress s'.resolved = 1) := by
  intro s s'
  have hs : Accounted s.toQueues :=
    (run_accounted (startedQueue_accounted config database startEnv _) before).1
  have hs' := (run_accounted hs (.pushCallAsync env call :: after)).1
  have hlt : s.nextAddress < s'.nextAddress :=
    (pushCallAsync_pushes env).2.trans_le
      (run_accounted (step_accounted (.pushCallAsync env call) hs).1 after).2
  have htotal : occurrences s.nextAddress s'.held + occurrences s.nextAddress s'.resolved +
      occurrences s.nextAddress s'.dropped = 1 := by
    have hents := hs' s.nextAddress
    rwa [allocated, if_pos hlt] at hents
  refine ⟨by omega, fun hroomy hleft => ?_⟩
  have hheld : occurrences s.nextAddress s'.held = 0 :=
    List.countP_eq_zero.2 fun m hm => by simpa using hleft m hm
  have hdrop : occurrences s.nextAddress s'.dropped = 0 := by
    have hbef := hs s.nextAddress
    rw [allocated, if_neg (lt_irrefl _), Queues.entries] at hbef
    rw [run_dropped hroomy]
    omega
  omega

def onlineQueue : MessageQueue V16.MessageType :=
  run MessageQueue.step (startedQueue {} {} {} false) [.resume 0]

def sentAndAnswered : List (MessageQueue.Input V16.MessageType) :=
  [.workerIteration {}, .receive {} { messageTypeId := .callResult, uniqueId := "a" }]

theorem answered_call_resolved :
    occurrences onlineQueue.nextAddress (run step onlineQueue
      (.pushCallAsync {} ⟨"a", .heartbeat, {}⟩ :: sentAndAnswered)).resolved = 1 := by
  have hroomy : AllSteps step MessageQueue.Roomy onlineQueue
      (.pushCallAsync {} ⟨"a", .heartbeat, {}⟩ :: sentAndAnswered) := by decide +kernel
  have hleft : ∀ m ∈ (run step onlineQueue
      (.pushCallAsync {} ⟨"a", .heartbeat, {}⟩ :: sentAndAnswered)).held,
        m.address ≠ onlineQueue.nextAddress := by decide +kernel
  exact (async_call_resolved {} {} {} false [.resume 0] sentAndAnswered {}
    ⟨"a", .heartbeat, {}⟩).2 hroomy hleft

def crowdedQueue : MessageQueue V16.MessageType :=
  run MessageQueue.step (startedQueue { queuesTotalSizeThreshold := 1 } {} {} false)
    [.resume 0, .pushCallAsync {} ⟨"a", .heartbeat, {}⟩, .pushCallAsync {} ⟨"b", .heartbeat, {}⟩]

/-- The first call is dropped, and nobody is told. -/
theorem dropped_call_unresolved :
    (∀ m ∈ crowdedQueue.held, m.address ≠ 0) ∧ occurrences 0 crowdedQueue.resolved = 0 := by
  constructor
  · decide +kernel
  · decide +kernel

end Everest.Ocpp
