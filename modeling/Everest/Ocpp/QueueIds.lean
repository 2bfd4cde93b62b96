import Everest.Ocpp.QueueMoves
import Mathlib.Algebra.Order.Group.Multiset

namespace Everest.Ocpp
open Queues Multiset ControlMessage

variable {M : Type}

structure Tag (M : Type) where
  initialUniqueId : MessageId
  uniqueId : MessageId
  messageType : M

def ControlMessage.tag (m : ControlMessage M) : Tag M :=
  ⟨m.initialUniqueId, m.uniqueId, m.messageType⟩

def Event.retriedStart? : Event M → Option (MessageId × MessageId)
  | .startTransactionRetried newMessageId oldMessageId => some (newMessageId, oldMessageId)
  | _ => none

namespace Queues

def tags (q : Queues M) : Multiset (Tag M) :=
  ((q.inFlight.map (·.tag)).toList : List (Tag M)) +
    ((q.transactionMessageQueue.map (·.tag) : List (Tag M)) + q.normalMessageQueue.map (·.tag))

def startRetries (q : Queues M) : List (MessageId × MessageId) :=
  q.log.filterMap Event.retriedStart?

/-- Messages may have left the queue. -/
structure Fewer (q q' : Queues M) : Prop where
  tags : q'.tags ≤ q.tags
  startRetries : q'.startRetries = q.startRetries

lemma Fewer.refl {q : Queues M} : Fewer q q := ⟨le_rfl, rfl⟩

variable {q q' : Queues M}

lemma Fewer.trans {q'' : Queues M} (h : Fewer q q') (h' : Fewer q' q'') : Fewer q q'' :=
  ⟨h'.tags.trans h.tags, h'.startRetries.trans h.startRetries⟩

lemma Fewer.of_log (htx : q'.transactionMessageQueue = q.transactionMessageQueue)
    (hnorm : q'.normalMessageQueue = q.normalMessageQueue) (hflight : q'.inFlight = q.inFlight)
    (hlog : q'.startRetries = q.startRetries) : Fewer q q' :=
  ⟨by simp [Queues.tags, htx, hnorm, hflight], hlog⟩

lemma emit_fewer {e : Event M} (he : e.retriedStart? = none) (q : Queues M) :
    Fewer q (q.emit e) :=
  .of_log rfl rfl rfl (by simp [startRetries, emit, he])

lemma Tidied.fewer {gone : List (ControlMessage M)} (h : Tidied q gone q') : Fewer q q' := by
  induction h with
  | refl => exact .refl
  | table _ _ ih => exact ih.trans (.of_log rfl rfl rfl rfl)
  | failed _ ih | ignored _ _ ih | dropped _ _ ih => exact ih.trans (emit_fewer rfl _)

lemma tags_mono (htx : q'.transactionMessageQueue.Sublist q.transactionMessageQueue)
    (hnorm : q'.normalMessageQueue.Sublist q.normalMessageQueue)
    (hflight : q'.inFlight = q.inFlight) : q'.tags ≤ q.tags := by
  unfold tags
  rw [hflight]
  exact add_le_add le_rfl
    (add_le_add (htx.map _).subperm (hnorm.map _).subperm)

/-- A retry puts one message back under a new id. -/
structure Retried [MessageType M] (newMessageId : MessageId) (m : Tag M)
    (rest : Multiset (Tag M)) (q q' : Queues M) : Prop where
  before : q.tags = m ::ₘ rest
  tags : q'.tags = { m with uniqueId := newMessageId } ::ₘ rest
  startRetries : q'.startRetries =
    (if isStartTransactionMessage m.messageType then [(newMessageId, m.uniqueId)] else []) ++
      q.startRetries

section Operations

variable [DecidableEq M] [MessageType M]

/-- What an operation that adds no message can do to the ids: a call that it hits may come
back under a new one. -/
def Kept (newMessageId : MessageId) (hit : Option (ControlMessage M)) (q q' : Queues M) : Prop :=
  Fewer q q' ∨ ∃ m ∈ hit, ∃ rest, Retried newMessageId m.tag rest q q'

variable (config : MessageQueueConfig M) (env : Env)

lemma dropNormal_fewer : Fewer q (q.dropMessagesFromNormalMessageQueue config env) := by
  refine Fewer.trans ⟨?_, ?_⟩ (discard_tidied env .normal _ _ _).fewer
  · exact tags_mono (List.Sublist.refl _) (splitNormal_split _ _).sublist rfl
  · rfl

omit [DecidableEq M] in
lemma dropUpdates_fewer : Fewer q (q.dropUpdateMessagesFromTransactionalMessageQueue env).1 := by
  refine Fewer.trans ⟨?_, ?_⟩ (discard_tidied env .transaction true _ _).fewer
  · exact tags_mono (splitUpdates_split _ _).sublist (List.Sublist.refl _) rfl
  · rfl

lemma checkQueueSizes_fewer : Fewer q (q.checkQueueSizes config env) :=
  checkQueueSizes_inv config env (fun _ h => h.trans (dropNormal_fewer config env))
    (fun _ h => h.trans (dropUpdates_fewer env)) .refl

structure Entered (m : ControlMessage M) (q q' : Queues M) : Prop where
  tags : q'.tags ≤ m.tag ::ₘ q.tags
  startRetries : q'.startRetries = q.startRetries

variable {m : ControlMessage M} {q q' : Queues M}

omit [DecidableEq M] [MessageType M] in
lemma Entered.fewer {q'' : Queues M} (h : Entered m q q') (h' : Fewer q' q'') : Entered m q q'' :=
  ⟨h'.tags.trans h.tags, h'.startRetries.trans h.startRetries⟩

omit [DecidableEq M] [MessageType M] in
lemma Fewer.entered (h : Fewer q q') : Entered m q q' :=
  ⟨h.tags.trans (le_cons_self _ _), h.startRetries⟩

omit [DecidableEq M] [MessageType M] in
lemma Entered.of_perm (hperm : (q'.transactionMessageQueue ++ q'.normalMessageQueue).Perm
      (m :: (q.transactionMessageQueue ++ q.normalMessageQueue)))
    (hflight : q'.inFlight = q.inFlight) (hlog : q'.startRetries = q.startRetries) :
    Entered m q q' := by
  refine ⟨le_of_eq ?_, hlog⟩
  have htags := coe_eq_coe.2 (hperm.map (·.tag))
  simp only [List.map_append, List.map_cons, ← coe_add, ← cons_coe] at htags
  rw [Queues.tags, htags, hflight, add_cons, Queues.tags]

omit [DecidableEq M] [MessageType M] in
lemma tags_inFlight (h : q.inFlight = some m) :
    q.tags = m.tag ::ₘ { q with inFlight := none }.tags := by
  simp [tags, h]

omit [DecidableEq M] [MessageType M] in
lemma unsent_fewer : Fewer q { q with inFlight := none } := by
  refine ⟨?_, rfl⟩
  cases h : q.inFlight with
  | none => exact le_of_eq (by simp [tags, h])
  | some =>
    rw [tags_inFlight h]
    exact le_cons_self _ _

omit [DecidableEq M] in
lemma pushFront_tags : (q.pushFront m).tags = m.tag ::ₘ q.tags := by
  unfold pushFront
  split <;> simp [tags, ← cons_coe]

omit [DecidableEq M] in
lemma retry_retried (h : q.inFlight = some m) :
    Retried env.newMessageId m.tag { q with inFlight := none }.tags q
      ((q.settleUnanswered m).retry config env m) := by
  have htags : ((q.settleUnanswered m).pushFront (retryOf config env m)).tags =
      { m.tag with uniqueId := env.newMessageId } ::ₘ { q with inFlight := none }.tags :=
    pushFront_tags
  have hretries : ((q.settleUnanswered m).pushFront (retryOf config env m)).startRetries =
      q.startRetries := by
    unfold pushFront
    split <;> rfl
  refine ⟨tags_inFlight h, ?_, ?_⟩
  · unfold retry
    split_ifs
    · exact htags
    · exact htags
  · by_cases hstart : isStartTransactionMessage m.messageType
    · rw [retry, if_pos hstart,
        if_pos (show isStartTransactionMessage m.tag.messageType from hstart)]
      rw [← hretries]
      rfl
    · rw [retry, if_neg hstart,
        if_neg (show ¬isStartTransactionMessage m.tag.messageType from hstart)]
      exact hretries

section Calls

-- of the message types, the one of the boot notification does not start a transaction
variable (hboot : isStartTransactionMessage (MessageType.bootNotification : M) = false)
include hboot

lemma handleTimeoutOrCallerror_kept {config : MessageQueueConfig M} {env : Env}
    {value : Resolution} :
    Kept env.newMessageId q.inFlight q (q.handleTimeoutOrCallerror config env value) := by
  unfold handleTimeoutOrCallerror
  split
  · exact .inl (.refl)
  · rename_i m hm
    have hsettl : Fewer q (q.settleUnanswered m) :=
      unsent_fewer.trans (emit_fewer (e := .unanswered m) rfl _)
    split_ifs with hpers hatt htype
    · exact .inr ⟨m, hm, _, retry_retried config env hm⟩
    · exact .inl (((hsettl.trans (emit_fewer rfl _)).trans
        (removeRow_tidied env _ _ _).fewer).trans (emit_fewer rfl _))
    · refine .inr ⟨m, hm, _, tags_inFlight hm, ?_, ?_⟩
      · simp [tags, settleUnanswered, emit, ← cons_coe, bootRetryOf, tag, uniqueId]
      · have hm : m.tag.messageType = MessageType.bootNotification := of_decide_eq_true htype
        rw [hm, hboot]
        rfl
    · exact .inl (hsettl.trans (emit_fewer rfl _))

end Calls

omit [DecidableEq M] in
lemma acknowledge_tags {remove : Bool} (h : q.inFlight = some m) :
    q.tags = m.tag ::ₘ (q.acknowledge env remove m).tags ∧
      (q.acknowledge env remove m).startRetries = q.startRetries := by
  obtain ⟨q₀, htidied, heq⟩ := acknowledge_cases env remove m q
  rw [heq]
  constructor
  · obtain ⟨database, log, rfl⟩ := htidied.frame
    exact tags_inFlight h
  · exact (((emit_fewer (e := .resolved m .callResult) rfl { q with inFlight := none }).trans
      htidied.fewer).trans (emit_fewer (e := .answered m) rfl _)).startRetries

lemma handleCallResult_fewer {uniqueId : MessageId} :
    Fewer q (q.handleCallResult config env uniqueId) := by
  unfold handleCallResult
  split
  · exact .refl
  · rename_i m hm
    split_ifs
    · obtain ⟨htags, hretries⟩ := acknowledge_tags env hm
      exact ⟨htags ▸ le_cons_self _ _, hretries⟩
    · exact .refl

end Operations

end Queues

namespace MessageQueue

variable [DecidableEq M] [MessageType M]

def answeredCall (received : Received) (s : MessageQueue M) : Option (ControlMessage M) :=
  s.inFlight.filter fun m => m.uniqueId = received.uniqueId ∧
    received.messageTypeId = .callResult ∧ received.payloadIsObject = true

omit [DecidableEq M] [MessageType M] in
lemma outgoing_tag (s : MessageQueue M) (m : ControlMessage M) : (s.outgoing m).tag = m.tag := by
  unfold outgoing replaceTransactionId
  split <;> rfl

variable {m : ControlMessage M} {s : MessageQueue M}

lemma eraseSelected_tags {now : ℤ} {out : ControlMessage M} {queue : QueueType}
    (hnone : s.inFlight = none) (h : s.selectMessage now = some (m, queue))
    (hout : out.tag = m.tag) :
    { s.eraseSelected now queue with inFlight := some out }.tags = s.toQueues.tags := by
  rw [tags_inFlight (q := { s.eraseSelected now queue with inFlight := some out }) rfl, hout]
  rcases selectMessage_cases h with ⟨rfl, rest, hqueue⟩ | ⟨rfl, hfind⟩
  · simp [tags, eraseSelected, hqueue, hnone, ← cons_coe]
  · have hperm := (perm_cons_eraseP hfind).map tag
    simp only [tags, eraseSelected, hnone]
    rw [coe_eq_coe.2 hperm]
    simp [← cons_coe]

section Calls

variable (hboot : isStartTransactionMessage (MessageType.bootNotification : M) = false)
include hboot

lemma transmit_kept {env : Env} {m : ControlMessage M} {queue : QueueType} {s : MessageQueue M}
    (hnone : s.inFlight = none) (h : s.selectMessage env.now = some (m, queue)) :
    Kept env.newMessageId (if env.sendOk then none else some m) s.toQueues
      (s.transmit env m queue).toQueues := by
  have htags := eraseSelected_tags hnone h (s.outgoing_tag m)
  have hretries : (s.eraseSelected env.now queue).startRetries = s.startRetries := by
    cases queue <;> rfl
  unfold transmit
  split_ifs with hok
  · exact .inl (Fewer.trans ⟨htags.le, hretries⟩ (emit_fewer rfl _))
  · rcases handleTimeoutOrCallerror_kept hboot with hfewer | ⟨n, hn, rest, hretried⟩
    · exact .inl ((Fewer.trans ⟨htags.le, hretries⟩ (emit_fewer rfl _)).trans hfewer)
    · obtain rfl : s.outgoing m = n := Option.some.inj hn
      rw [outgoing_tag] at hretried
      refine .inr ⟨m, rfl, rest, htags.symm.trans hretried.before, hretried.tags, ?_⟩
      exact hretried.startRetries.trans (congrArg _ hretries)

end Calls

variable (env : Env)

lemma receive_answered {received : Received} (h : s.answeredCall received = some m) :
    s.inFlight = some m ∧ m.uniqueId = received.uniqueId ∧
      s.tags = m.tag ::ₘ (s.receive env received).tags ∧
      (s.receive env received).startRetries = s.startRetries := by
  obtain ⟨hm, hanswer⟩ := Option.filter_eq_some_iff.1 h
  obtain ⟨hid, htype, hobject⟩ := of_decide_eq_true hanswer
  have hsame : received.uniqueId.iequals received.uniqueId = true := by
    simp [CiString.iequals]
  refine ⟨hm, hid, ?_⟩
  have hreceive : (s.receive env received).toQueues =
      s.toQueues.acknowledge env (persisted s.config m) m := by
    simp only [receive, htype, receiveAnswer, hobject, hm, hid, bne_self_eq_false, handleCallResult,
      Bool.false_eq_true, if_false, if_true, hsame]
  rw [hreceive]
  exact acknowledge_tags env hm

lemma addMessage_entered : Entered m s.toQueues (s.addMessage env m).toQueues := by
  unfold addMessage
  split_ifs
  · have hent : Entered m s.toQueues ({ s.toQueues with
        transactionMessageQueue := s.transactionMessageQueue ++ [m]
        nextAddress := s.nextAddress + 1 }.emit (.pushed m)) :=
      .of_perm ((List.perm_append_singleton m _).append_right _) rfl rfl
    exact (hent.fewer (insertRow_tidied env .transaction).fewer).fewer
      (checkQueueSizes_fewer s.config env)
  · have hent : Entered m s.toQueues (s.joinNormal m) :=
      .of_perm (((addToNormal_perm m).append_left _).trans List.perm_middle) rfl rfl
    exact (hent.fewer (enqueueNormal_tidied s.config env m _).fewer).fewer
      (checkQueueSizes_fewer s.config env)

lemma pushCall_entered (call : Call M) (stallUntilAccepted : Bool) (s : MessageQueue M) :
    Entered (.make s.nextAddress env.now call stallUntilAccepted) s.toQueues
      (s.pushCall env call stallUntilAccepted).toQueues := by
  unfold pushCall
  dsimp only
  split_ifs
  · exact (Fewer.refl).entered
  · exact addMessage_entered env
  · exact (Fewer.refl).entered

lemma pushCallAsync_entered {call : Call M} :
    Entered (.make s.nextAddress env.now call) s.toQueues (s.pushCallAsync env call).toQueues := by
  have hfewer : Fewer s.toQueues (s.refuse (.make s.nextAddress env.now call)).toQueues :=
    .of_log rfl rfl rfl rfl
  unfold pushCallAsync
  dsimp only
  split_ifs
  · exact hfewer.entered
  · exact addMessage_entered env
  · exact hfewer.entered
  · exact addMessage_entered env

/-- An operation that pushes no call lets messages go, or puts the call it hits back. -/
theorem step_kept (hboot : isStartTransactionMessage (MessageType.bootNotification : M) = false)
    (s : MessageQueue M) (input : Input M) (h : input.pushes = false) :
    Kept input.newMessageId (s.hit input) s.toQueues (s.step input).toQueues := by
  have heff := s.step_effect input
  generalize (s.step input).toQueues = q' at heff ⊢
  cases heff with
  | nothing => exact .inl (.refl)
  | respond => exact .inl (emit_fewer rfl _)
  | relabel start transactionId =>
    have htag : ∀ ids, tag ∘ addTransactionId (M := M) ids transactionId = tag := by
      intro ids
      funext m
      simp only [Function.comp_apply, addTransactionId]
      split_ifs <;> rfl
    refine .inl ⟨le_of_eq ?_, rfl⟩
    simp only [tags, notifyStartTransactionHandled, List.map_map]
    rw [show (fun m : ControlMessage M => m.tag) = tag from rfl, htag]
  | push _ hpushes | refuse hpushes => simp [hpushes] at h
  | fail value hid hm hhit =>
    rw [← hid, hhit, ← hm]
    exact handleTimeoutOrCallerror_kept hboot
  | answer env uniqueId => exact .inl (handleCallResult_fewer s.config env)
  | send hpicks =>
    simpa [hit, Input.newMessageId, hpicks.selected] using
      transmit_kept hboot hpicks.inFlight hpicks.selected

end MessageQueue

end Everest.Ocpp
