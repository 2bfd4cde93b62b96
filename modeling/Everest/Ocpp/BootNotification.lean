import Everest.Ocpp.QueueThinning
import Everest.Ocpp.TransactionOrder

namespace Everest.Ocpp
open Queues Runs MessageQueue MessageType

variable {M : Type}

def Event.answers (a : ℕ) : Event M → Bool
  | .answered m => m.address = a
  | _ => false

def Answered (a : ℕ) (q : Queues M) : Prop := ∃ e ∈ q.log, e.answers a

variable [DecidableEq M] [MessageType M]

def IsBoot (a : ℕ) (m : ControlMessage M) : Prop :=
  m.address = a ∧ isBootNotificationMessage m.messageType = true

def BootPending (a : ℕ) (q : Queues M) : Prop :=
  (∃ m ∈ q.normalMessageQueue, IsBoot a m) ∨ ∃ m ∈ q.inFlight, IsBoot a m

/-- Should the next attempt fail, a BootNotification is tried again: it is not among the
messages that `check_queue` covers, or it has attempts left. -/
def BootRetried (s : MessageQueue M) : Prop :=
  s.config.checkQueue (MessageType.bootNotification : M) = false ∨
    (∀ m ∈ s.normalMessageQueue, isBootNotificationMessage m.messageType = true →
      (m.messageAttempts : ℤ) + 1 < s.config.transactionMessageAttempts) ∧
    ∀ m ∈ s.inFlight, isBootNotificationMessage m.messageType = true →
      (m.messageAttempts : ℤ) < s.config.transactionMessageAttempts

instance (a : ℕ) (q : Queues M) : Decidable (Answered a q) :=
  inferInstanceAs (Decidable (∃ e ∈ q.log, _))

instance (a : ℕ) (m : ControlMessage M) : Decidable (IsBoot a m) :=
  inferInstanceAs (Decidable (_ ∧ _))

instance (a : ℕ) (q : Queues M) : Decidable (BootPending a q) :=
  inferInstanceAs (Decidable (_ ∨ _))

instance (s : MessageQueue M) : Decidable (BootRetried s) :=
  inferInstanceAs (Decidable (_ ∨ _))

variable {a : ℕ} {q q' : Queues M}

omit [DecidableEq M] [MessageType M] in
lemma Answered.of_suffix (h : Answered a q) (hlog : q.log <:+ q'.log) : Answered a q' := by
  obtain ⟨e, he, ha⟩ := h
  exact ⟨e, hlog.subset he, ha⟩

lemma BootPending.of_subset (h : BootPending a q)
    (hnormal : ∀ m ∈ q.normalMessageQueue, IsBoot a m → m ∈ q'.normalMessageQueue)
    (hflight : q'.inFlight = q.inFlight) : BootPending a q' := by
  rcases h with ⟨m, hm, hboot⟩ | hfly
  · exact .inl ⟨m, hnormal m hm hboot, hboot⟩
  · exact .inr (hflight ▸ hfly)

lemma BootPending.of_frame (h : BootPending a q)
    (hq : ∃ database log, q' = { q with database := database, log := log }) :
    BootPending a q' := by
  obtain ⟨database, log, rfl⟩ := hq
  exact h

variable (config : MessageQueueConfig M) (env : Env) (value : Resolution)

lemma checkQueueSizes_keeps_boot (h : BootPending a q) :
    BootPending a (q.checkQueueSizes config env) := by
  have hthinned := checkQueueSizes_thinned config env q
  refine h.of_subset (fun m hm hboot => ?_) hthinned.inFlight
  have hkept := hthinned.boots.symm ▸ List.mem_filter.2 ⟨hm, hboot.2⟩
  exact (List.mem_filter.1 hkept).1

variable {m : ControlMessage M}

omit [DecidableEq M] in
lemma retry_normalMessageQueue : (q.retry config env m).normalMessageQueue =
      if isTransactionMessage m.messageType then q.normalMessageQueue
      else retryOf config env m :: q.normalMessageQueue := by
  have htype : (retryOf config env m).messageType = m.messageType := rfl
  unfold retry
  cases hm : isTransactionMessage m.messageType with
  | true =>
    rw [pushFront_transaction (by rw [htype]; exact hm), if_pos rfl]
    split_ifs <;> rfl
  | false =>
    rw [pushFront_normal (by rw [htype]; exact hm), if_neg Bool.false_ne_true]
    split_ifs <;> rfl

omit [DecidableEq M] in
lemma giveUp_normalMessageQueue {value : Resolution} :
    (q.giveUp config env m value).normalMessageQueue = q.normalMessageQueue := by
  unfold giveUp
  obtain ⟨database, log, h⟩ :=
    (removeRow_tidied env (queueTypeOf m) m.initialUniqueId (q.emit (.resolved m value))).frame
  rw [h]
  rfl

lemma handleTimeoutOrCallerror_queue :
    q.normalMessageQueue ⊆ (q.handleTimeoutOrCallerror config env value).normalMessageQueue := by
  unfold handleTimeoutOrCallerror
  split
  · exact List.Subset.refl _
  · dsimp only
    split_ifs
    · rw [retry_normalMessageQueue]
      split_ifs
      · exact List.Subset.refl _
      · exact List.subset_cons_self _ _
    · rw [giveUp_normalMessageQueue]
      exact List.Subset.refl _
    · exact List.subset_cons_self _ _
    · exact List.Subset.refl _

variable {queue : QueueType}

namespace MessageQueue

variable {s : MessageQueue M}

lemma transmit_queue : (s.eraseSelected env.now queue).normalMessageQueue ⊆
      (s.transmit env m queue).normalMessageQueue := by
  unfold transmit
  split_ifs
  · exact List.Subset.refl _
  · intro n hn
    apply handleTimeoutOrCallerror_queue s.config env .offline
    exact hn

lemma addMessage_keeps_boot (h : BootPending a s.toQueues) :
    BootPending a (s.addMessage env m).toQueues := by
  unfold addMessage
  split_ifs
  · refine checkQueueSizes_keeps_boot s.config env ?_
    refine BootPending.of_frame ?_ (insertRow_tidied env .transaction).frame
    exact h.of_subset (fun m hm _ => hm) rfl
  · refine checkQueueSizes_keeps_boot s.config env ?_
    refine BootPending.of_frame ?_ (enqueueNormal_tidied s.config env m _).frame
    refine h.of_subset (fun n hn _ => ?_) rfl
    exact (addToNormal_perm m).mem_iff.2 (List.mem_cons_of_mem _ hn)

lemma handleCallResult_keeps_boot {env : Env} {uniqueId : MessageId} (h : BootPending a q) :
    BootPending a (q.handleCallResult config env uniqueId) ∨
      Answered a (q.handleCallResult config env uniqueId) := by
  unfold handleCallResult
  split
  · exact .inl h
  · rename_i m hm
    split_ifs
    · rcases h with hqueued | ⟨n, hn, hboot⟩
      · refine .inl (.inl ?_)
        obtain ⟨q₀, htidied, heq⟩ := acknowledge_cases env (persisted config m) m q
        obtain ⟨database, log, rfl⟩ := htidied.frame
        rw [heq]
        exact hqueued
      · obtain rfl : m = n := by simpa [hm] using hn
        exact .inr ⟨.answered m, List.mem_cons_self, by simp [Event.answers, hboot.1]⟩
    · exact .inl h

end MessageQueue

section Retried

variable (hnormal : isTransactionMessage (MessageType.bootNotification : M) = false)
include hnormal

variable {config : MessageQueueConfig M}

/-- A BootNotification with attempts left comes back under a new id. -/
theorem handleTimeoutOrCallerror_boot (hm : q.inFlight = some m)
    (hboot : isBootNotificationMessage m.messageType = true)
    (hretried : config.checkQueue (bootNotification : M) = false ∨
      (m.messageAttempts : ℤ) < config.transactionMessageAttempts) :
    ∃ m' ∈ (q.handleTimeoutOrCallerror config env value).normalMessageQueue, SameMessage m m' := by
  have htype : m.messageType = bootNotification := by
    simpa [isBootNotificationMessage] using hboot
  unfold handleTimeoutOrCallerror
  rw [hm]
  dsimp only
  split_ifs with hpers hatt
  · rw [retry_normalMessageQueue, htype, hnormal]
    exact ⟨_, List.mem_cons_self, rfl, rfl, rfl, rfl⟩
  · rw [persisted, htype, hnormal, Bool.false_or] at hpers
    simp [hpers, hatt] at hretried
  · exact ⟨_, List.mem_cons_self, rfl, rfl, rfl, rfl⟩

lemma handleTimeoutOrCallerror_keeps_boot
    (hretried : config.checkQueue (bootNotification : M) = false ∨
      ∀ m ∈ q.inFlight, isBootNotificationMessage m.messageType = true →
        (m.messageAttempts : ℤ) < config.transactionMessageAttempts) (h : BootPending a q) :
    BootPending a (q.handleTimeoutOrCallerror config env value) := by
  rcases h with ⟨m, hm, hboot⟩ | ⟨m, hm, hboot⟩
  · exact .inl ⟨m, handleTimeoutOrCallerror_queue config env value hm, hboot⟩
  · obtain ⟨m', hm', hsame⟩ := handleTimeoutOrCallerror_boot env value hnormal hm hboot.2
      (hretried.imp_right fun hleft => hleft m hm hboot.2)
    refine .inl ⟨m', hm', hsame.address.trans hboot.1, ?_⟩
    rw [hsame.messageType]
    exact hboot.2

namespace MessageQueue

variable {s : MessageQueue M} (hretried : BootRetried s)
include hretried

variable {m : ControlMessage M}

lemma transmit_boot (hm : m ∈ s.normalMessageQueue) (hboot : IsBoot a m) :
    BootPending a (s.transmit env m queue).toQueues := by
  have hout := s.outgoing_sentAs m
  have houtBoot : IsBoot a (s.outgoing m) := by
    refine ⟨hout.address.trans hboot.1, ?_⟩
    rw [hout.messageType]
    exact hboot.2
  unfold transmit
  split_ifs
  · exact .inr ⟨s.outgoing m, rfl, houtBoot⟩
  · refine handleTimeoutOrCallerror_keeps_boot env .offline hnormal ?_
      (.inr ⟨s.outgoing m, rfl, houtBoot⟩)
    refine hretried.imp_right ?_
    rintro ⟨hqueued, -⟩ n hn -
    obtain rfl : s.outgoing m = n := by simpa [emit] using hn
    have hatt : (s.outgoing m).messageAttempts = m.messageAttempts + 1 := hout.messageAttempts
    have := hqueued m hm hboot.2
    rw [hatt]
    push_cast
    exact this

lemma transmit_keeps_boot (hnone : s.inFlight = none)
    (hselect : s.selectMessage env.now = some (m, queue)) (h : BootPending a s.toQueues) :
    BootPending a (s.transmit env m queue).toQueues := by
  obtain ⟨n, hn, hboot⟩ : ∃ n ∈ s.normalMessageQueue, IsBoot a n := by
    rcases h with hqueued | ⟨n, hn, -⟩
    · exact hqueued
    · simp [hnone] at hn
  rcases selectMessage_cases hselect with ⟨rfl, -⟩ | ⟨rfl, hfind⟩
  · exact .inl ⟨n, transmit_queue env hn, hboot⟩
  · have hperm := perm_cons_eraseP hfind
    rcases List.mem_cons.1 (hperm.subset hn) with rfl | hrest
    · exact transmit_boot env hnormal hretried hn hboot
    · exact .inl ⟨n, transmit_queue env hrest, hboot⟩

end MessageQueue

end Retried

/-- A BootNotification in the normal queue stays there or in flight until its CALLRESULT
arrives, on every run in which a BootNotification that `check_queue` covers never comes to its
last attempt. -/
theorem boot_notification_kept
    (hnormal : isTransactionMessage (bootNotification : M) = false)
    (s : MessageQueue M) (inputs : List (MessageQueue.Input M))
    (hretried : AllSteps step (fun s _ => BootRetried s) s inputs)
    (m : ControlMessage M) (hm : m ∈ s.normalMessageQueue)
    (hboot : isBootNotificationMessage m.messageType = true) :
    AllStates step
      (fun s' => BootPending m.address s'.toQueues ∨ Answered m.address s'.toQueues) s inputs := by
  refine allStates_of_allSteps ?_ (.inl (.inl ⟨m, hm, rfl, hboot⟩)) hretried
  rintro s' input (hpend | hans) hstep
  · have heff := s'.step_effect input
    generalize (s'.step input).toQueues = q' at heff ⊢
    cases heff with
    | nothing | respond | relabel | refuse => exact .inl hpend
    | push env => exact .inl (addMessage_keeps_boot env hpend)
    | fail value =>
      exact .inl (handleTimeoutOrCallerror_keeps_boot _ value hnormal (hstep.imp_right (·.2)) hpend)
    | answer env uniqueId => exact handleCallResult_keeps_boot s'.config hpend
    | send hpicks =>
      exact .inl (transmit_keeps_boot _ hnormal hstep hpicks.inFlight
        hpicks.selected hpend)
  · exact .inr (hans.of_suffix (Moves.log_suffix (step_moves s' input)))

def bootInputs : List (MessageQueue.Input V16.MessageType) :=
  [.resume 0, .workerIteration { newMessageId := "again", sendOk := false }, .notifyQueueTimer,
    .workerIteration { now := 40 * 10 ^ 9 },
    .receive {} { messageTypeId := .callResult, uniqueId := "again" }]

def bootQueued (attempts : ℤ) : MessageQueue V16.MessageType :=
  run MessageQueue.step
    (emptyQueue { queueAllMessages := true, transactionMessageAttempts := attempts } {})
    [.pushCall {} { uniqueId := "boot", action := .bootNotification } false]

def bootMessage : ControlMessage V16.MessageType :=
  .make 0 0 { uniqueId := "boot", action := .bootNotification }

theorem boot_notification_kept_until_answered :
    Answered 0 (run step (bootQueued 3) bootInputs).toQueues :=
  ((boot_notification_kept (by decide) (bootQueued 3) bootInputs (by decide +kernel) bootMessage
    (by decide +kernel) (by decide)).last).resolve_left (by decide +kernel)

/-- With `queue_all_messages` the BootNotification is given up like any other message. -/
theorem boot_notification_given_up :
    bootMessage ∈ (bootQueued 1).normalMessageQueue ∧
    ¬AllStates step
      (fun s =>
        BootPending bootMessage.address s.toQueues ∨ Answered bootMessage.address s.toQueues)
      (bootQueued 1) [.resume 0, .workerIteration { sendOk := false }] := by
  decide +kernel

end Everest.Ocpp
