import Everest.Ocpp.MessageTypes
import Everest.Ocpp.QueueMoves

namespace Everest.Ocpp
namespace Queues

variable {M : Type} [DecidableEq M] [MessageType M] {q q' : Queues M}

/-- The messages that stay keep their order. The others are no BootNotifications in one queue and
updates of a transaction in the other one. -/
structure Thinned (q q' : Queues M) : Prop where
  normal : q'.normalMessageQueue.Sublist q.normalMessageQueue
  boots : q'.normalMessageQueue.filter (isBootNotificationMessage ·.messageType) =
    q.normalMessageQueue.filter (isBootNotificationMessage ·.messageType)
  transaction : q'.transactionMessageQueue.Sublist q.transactionMessageQueue
  others : q'.transactionMessageQueue.filter (!·.isTransactionUpdateMessage) =
    q.transactionMessageQueue.filter (!·.isTransactionUpdateMessage)
  inFlight : q'.inFlight = q.inFlight

variable {n : ℕ} {queue : List (ControlMessage M)} (config : MessageQueueConfig M) (env : Env)

lemma Thinned.of_tidied {p : Queues M} {gone : List (ControlMessage M)} (h : Thinned q q')
    (ht : Tidied q' gone p) : Thinned q p := by
  obtain ⟨_, _, rfl⟩ := ht.frame
  exact ⟨h.normal, h.boots, h.transaction, h.others, h.inFlight⟩

lemma Thinned.dropNormal (h : Thinned q q') :
    Thinned q (q'.dropMessagesFromNormalMessageQueue config env) := by
  refine Thinned.of_tidied ?_ (discard_tidied env .normal config.queueAllMessages _ _)
  have hsplit := splitNormal_split (q'.numberOfDroppedMessages config) q'.normalMessageQueue
  exact ⟨hsplit.sublist.trans h.normal, hsplit.filter.trans h.boots, h.transaction, h.others,
    h.inFlight⟩

lemma checkQueueSizes_thinned (q : Queues M) : Thinned q (q.checkQueueSizes config env) := by
  refine checkQueueSizes_inv config env (fun _ h => h.dropNormal config env) (fun q' h => ?_)
    ⟨.refl _, rfl, .refl _, rfl, rfl⟩
  refine .of_tidied ?_ (discard_tidied env .transaction true _ _)
  have hsplit := splitUpdates_split true q'.transactionMessageQueue
  exact ⟨h.normal, h.boots, hsplit.sublist.trans h.transaction, hsplit.filter.trans h.others,
    h.inFlight⟩

lemma boot_of_splitNormal_nil (hn : 0 < n) (h : (splitNormal n queue).2 = []) :
    ∀ m ∈ queue, isBootNotificationMessage m.messageType = true := by
  fun_induction splitNormal n queue with
  | case1 => omega
  | case2 => simp
  | case3 n m queue hboot kept gone heq ih =>
    rw [heq] at ih
    exact List.forall_mem_cons.2 ⟨hboot, ih hn h⟩
  | case4 => simp at h

lemma dropMessages_of_boot
    (h : ∀ m ∈ q.normalMessageQueue, isBootNotificationMessage m.messageType = true) :
    (q.dropMessagesFromNormalMessageQueue config env).normalMessageQueue =
      q.normalMessageQueue := by
  have hpass := (show Thinned q q from ⟨.refl _, rfl, .refl _, rfl, rfl⟩).dropNormal config env
  have hboots := hpass.boots
  rw [List.filter_eq_self.2 h] at hboots
  refine hpass.normal.antisymm ?_
  rw [← hboots]
  exact List.filter_sublist

lemma dropNormalLoop_done : (dropNormalLoop config env q).size ≤ config.threshold ∨
      ∀ m ∈ (dropNormalLoop config env q).normalMessageQueue,
        isBootNotificationMessage m.messageType = true := by
  fun_induction dropNormalLoop config env q with
  | case1 q hover hsame =>
    right
    have hpos : 0 < q.numberOfDroppedMessages config := by
      have := List.length_pos_iff.2 hover.2
      unfold numberOfDroppedMessages
      omega
    have hsplit := splitNormal_split (q.numberOfDroppedMessages config) q.normalMessageQueue
    have hlen := hsplit.perm.length_eq
    rw [List.length_append] at hlen
    simp only [dropMessagesFromNormalMessageQueue, discard_normalMessageQueue] at hsame ⊢
    have hboot := @boot_of_splitNormal_nil _ _ _ _ q.normalMessageQueue hpos
      (List.length_eq_zero_iff.1 (by omega))
    exact fun m hm => hboot m (hsplit.sublist.subset hm)
  | case2 q hover hless ih => exact ih
  | case3 q hdone =>
    by_cases hempty : q.normalMessageQueue = []
    · simp [hempty]
    · exact .inl (not_lt.1 fun hover => hdone ⟨hover, hempty⟩)

omit [DecidableEq M] in
lemma no_update_of_splitUpdates_nil (h : (splitUpdates true queue).2 = []) :
    ∀ m ∈ queue.dropLast.dropLast, m.isTransactionUpdateMessage = false := by
  induction queue with
  | nil => simp
  | cons m queue ih =>
    rw [splitUpdates] at h
    split_ifs at h with hgoes
    rcases queue with _ | ⟨a, _ | ⟨b, rest⟩⟩
    · simp
    · simp
    · have hm : m.isTransactionUpdateMessage = false := by simpa using hgoes
      exact List.forall_mem_cons.2 ⟨hm, ih h⟩

omit [DecidableEq M] in
lemma dropUpdateLoop_done :
    (dropUpdateLoop config env q).normalMessageQueue = q.normalMessageQueue ∧
      ((dropUpdateLoop config env q).size ≤ config.threshold ∨ config.threshold < q.size ∧
        ((dropUpdateLoop config env q).dropUpdateMessagesFromTransactionalMessageQueue
          env).1.transactionMessageQueue =
          (dropUpdateLoop config env q).transactionMessageQueue ∧
        ∀ m ∈ (dropUpdateLoop config env q).transactionMessageQueue.dropLast.dropLast,
          m.isTransactionUpdateMessage = false) := by
  have hnorm : ∀ q : Queues M, (q.dropUpdateMessagesFromTransactionalMessageQueue
      env).1.normalMessageQueue = q.normalMessageQueue := fun q => by
    simp [dropUpdateMessagesFromTransactionalMessageQueue]
  fun_induction dropUpdateLoop config env q with
  | case1 q hover hdropped ih =>
    exact ⟨ih.1.trans (hnorm q), ih.2.imp_right fun h => ⟨hover, h.2⟩⟩
  | case2 q hover hnone =>
    have hsplit := splitUpdates_split true q.transactionMessageQueue
    have hlen := hsplit.perm.length_eq
    simp only [dropUpdateMessagesFromTransactionalMessageQueue, Bool.not_eq_true,
      Bool.not_eq_false', List.isEmpty_iff] at hnone
    have hsame : (splitUpdates true q.transactionMessageQueue).1 = q.transactionMessageQueue := by
      refine hsplit.sublist.eq_of_length ?_
      simpa [hnone] using hlen.symm
    refine ⟨hnorm q, .inr ⟨hover, ?_⟩⟩
    simp only [dropUpdateMessagesFromTransactionalMessageQueue, discard_transactionMessageQueue,
      hsame, true_and]
    exact no_update_of_splitUpdates_nil hnone
  | case3 q hdone => exact ⟨rfl, .inl (not_lt.1 hdone)⟩

end Queues

open Queues

/-- Only messages that can be spared are dropped, no start and no end of a transaction among
them. Afterwards there is room, or nothing is left to drop: the normal queue has only
BootNotifications, the other one has updates at most among its last two messages. -/
theorem thinned_queues_keep_needed_messages {M : Type} [DecidableEq M] [MessageType M]
    (config : MessageQueueConfig M) (env : Env) (q : Queues M) :
    let q' := q.checkQueueSizes config env
    Thinned q q' ∧
    (q'.size ≤ config.threshold ∨
      (q'.dropMessagesFromNormalMessageQueue config env).normalMessageQueue =
        q'.normalMessageQueue ∧
      (q'.dropUpdateMessagesFromTransactionalMessageQueue env).1.transactionMessageQueue =
        q'.transactionMessageQueue ∧
      (∀ m ∈ q'.normalMessageQueue, isBootNotificationMessage m.messageType = true) ∧
      ∀ m ∈ q'.transactionMessageQueue.dropLast.dropLast,
        m.isTransactionUpdateMessage = false) ∧
    (∀ m : ControlMessage V16.MessageType, m.isTransactionUpdateMessage = true →
      m.messageType ≠ .startTransaction ∧ m.messageType ≠ .stopTransaction) ∧
    ∀ m : ControlMessage V2.MessageType, m.isTransactionUpdateMessage = true →
      m.message.payload.eventType ≠ some .started ∧
        m.message.payload.eventType ≠ some .ended := by
  intro q'
  refine ⟨checkQueueSizes_thinned config env q, ?_, fun m hm => ?_, fun m hm => ?_⟩
  · unfold q' checkQueueSizes
    split_ifs with hroom
    · exact .inl hroom
    · obtain ⟨hsame, hroom | ⟨hover, hupdates, hlast⟩⟩ :=
        dropUpdateLoop_done config env
      · exact .inl hroom
      · have hboots := (dropNormalLoop_done config env).resolve_left (not_le.2 hover)
        rw [← hsame] at hboots
        exact .inr ⟨dropMessages_of_boot config env hboots, hupdates, hboots, hlast⟩
  · have htype : m.messageType = .meterValues := of_decide_eq_true hm
    simp [htype]
  · have htype : m.messageType = .transactionEvent ∧
      m.message.payload.eventType = some .updated := of_decide_eq_true hm
    simp [htype.2]

end Everest.Ocpp
