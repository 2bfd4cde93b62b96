import Everest.Ocpp.MessageQueue

/- What an operation of the message queue does to the messages, as a sequence of small
moves: messages enter, go out, come back, are settled or are discarded. -/

namespace Everest.Ocpp
open Queues Relation List List.Subset

variable {M : Type}

structure SameMessage (m m' : ControlMessage M) : Prop where
  address : m'.address = m.address
  messageType : m'.messageType = m.messageType
  messageAttempts : m'.messageAttempts = m.messageAttempts
  initialUniqueId : m'.initialUniqueId = m.initialUniqueId

def SentAs (m out : ControlMessage M) : Prop :=
  SameMessage { m with messageAttempts := m.messageAttempts + 1 } out

/-- Events that neither move a message nor report on the database. -/
def Event.silent : Event M → Bool
  | .resolved .. => true
  | .startTransactionRetried .. => true
  | .response .. => true
  | _ => false

structure FreshMessage (q : Queues M) (m : ControlMessage M) : Prop where
  address : m.address = q.nextAddress
  messageAttempts : m.messageAttempts = 0
  initialUniqueId : m.initialUniqueId = m.uniqueId

lemma make_fresh (now : ℤ) (call : Call M) (stallUntilAccepted : Bool) (q : Queues M) :
    FreshMessage q (.make q.nextAddress now call stallUntilAccepted) := ⟨rfl, rfl, rfl⟩

lemma MessageQueue.outgoing_sentAs (s : MessageQueue M) (m : ControlMessage M) :
    SentAs m (s.outgoing m) := by
  unfold outgoing replaceTransactionId
  split <;> exact ⟨rfl, rfl, rfl, rfl⟩

lemma MessageQueue.addTransactionId_same (ids : List MessageId) (transactionId : ℤ)
    (m : ControlMessage M) :
    SameMessage m (addTransactionId ids transactionId m) := by
  unfold addTransactionId
  split_ifs <;> exact ⟨rfl, rfl, rfl, rfl⟩

lemma perm_cons_eraseP {α : Type*} {p : α → Bool} {l : List α} {a : α}
    (h : l.find? p = some a) : l.Perm (a :: l.eraseP p) := by
  induction l with
  | nil => simp at h
  | cons b l ih =>
    by_cases hb : p b
    · obtain rfl : b = a := by simpa [find?, hb] using h
      simp [hb]
    · have htail : l.find? p = some a := by simpa [find?, hb] using h
      simpa [hb] using ((ih htail).cons b).trans (.swap a b _)

@[simp] lemma MessageQueue.resumeNow_toQueues (expected : ℕ) (s : MessageQueue M) :
    (s.resumeNow expected).toQueues = s.toQueues := by
  unfold resumeNow
  split_ifs <;> rfl

@[simp] lemma MessageQueue.resume_toQueues {delayOnReconnect : ℤ} {s : MessageQueue M} :
    (s.resume delayOnReconnect).toQueues = s.toQueues := by
  unfold resume
  dsimp only
  split_ifs <;> simp

@[simp] lemma MessageQueue.idleActionDone_toQueues (stillConnected : Bool) (s : MessageQueue M) :
    (s.idleActionDone stillConnected).toQueues = s.toQueues := by
  unfold idleActionDone
  split
  · split_ifs
    · exact resume_toQueues
    · rfl
  · rfl

variable [DecidableEq M] [MessageType M]

inductive Move : Queues M → Queues M → Prop
  | note {q : Queues M} (e : Event M) : e.silent = true → Move q (q.emit e)
  | relabel {q : Queues M} (f : ControlMessage M → ControlMessage M) :
      (∀ m, SameMessage m (f m)) →
      Move q { q with transactionMessageQueue := q.transactionMessageQueue.map f }
  | skipAddress {q : Queues M} : Move q { q with nextAddress := q.nextAddress + 1 }
  | enqueueTransaction {q : Queues M} (env : Env) {m : ControlMessage M} :
      isTransactionMessage m.messageType = true → FreshMessage q m →
      Move q (q.enqueueTransaction env m)
  | enqueueNormal {q : Queues M} (config : MessageQueueConfig M) (env : Env)
      {m : ControlMessage M} :
      isTransactionMessage m.messageType = false → FreshMessage q m →
      Move q (q.enqueueNormal config env m)
  | discardUpdates {q : Queues M} (env : Env) {kept gone : List (ControlMessage M)} :
      kept.Sublist q.transactionMessageQueue → q.transactionMessageQueue.Perm (kept ++ gone) →
      Move q ({ q with transactionMessageQueue := kept }.discard env .transaction true gone)
  | discardNormal {q : Queues M} (env : Env) (persisted : Bool)
      {kept gone : List (ControlMessage M)} :
      kept.Sublist q.normalMessageQueue → q.normalMessageQueue.Perm (kept ++ gone) →
      Move q ({ q with normalMessageQueue := kept }.discard env .normal persisted gone)
  | sendTransaction {q : Queues M} {m out : ControlMessage M} {rest : List (ControlMessage M)}
      (sent : Bool) :
      q.inFlight = none → q.transactionMessageQueue = m :: rest → SentAs m out →
      Move q ({ q with transactionMessageQueue := rest, inFlight := some out }.emit
        (.transmitted out sent))
  | sendNormal {q : Queues M} {m out : ControlMessage M} {rest : List (ControlMessage M)}
      (sent : Bool) :
      q.inFlight = none → q.normalMessageQueue.Perm (m :: rest) → SentAs m out →
      Move q ({ q with normalMessageQueue := rest, inFlight := some out }.emit
        (.transmitted out sent))
  | retryTransaction {q : Queues M} {m m' : ControlMessage M} :
      q.inFlight = some m → isTransactionMessage m.messageType = true → SameMessage m m' →
      Move q { q.settleUnanswered m with
        transactionMessageQueue := m' :: q.transactionMessageQueue }
  | retryNormal {q : Queues M} {m m' : ControlMessage M} :
      q.inFlight = some m → isTransactionMessage m.messageType = false → SameMessage m m' →
      Move q { q.settleUnanswered m with normalMessageQueue := m' :: q.normalMessageQueue }
  | abandon {q : Queues M} {m : ControlMessage M} :
      q.inFlight = some m → isTransactionMessage m.messageType = false →
      Move q (q.settleUnanswered m)
  | giveUp {q : Queues M} (config : MessageQueueConfig M) (env : Env) {m : ControlMessage M}
      (value : Resolution) :
      q.inFlight = some m → config.transactionMessageAttempts ≤ m.messageAttempts →
      Move q ((q.settleUnanswered m).giveUp config env m value)
  | acknowledge {q : Queues M} (env : Env) (remove : Bool) {m : ControlMessage M} :
      q.inFlight = some m → (isTransactionMessage m.messageType = true → remove = true) →
      Move q (q.acknowledge env remove m)

abbrev Moves : Queues M → Queues M → Prop := ReflTransGen Move

variable {q q' : Queues M} {m : ControlMessage M}

lemma Moves.inv {Inv : Queues M → Prop} (hmove : ∀ q q', Inv q → Move q q' → Inv q')
    (moves : Moves q q') (h : Inv q) : Inv q' := by
  induction moves with
  | refl => exact h
  | tail _ move ih => exact hmove _ _ ih move

variable (config : MessageQueueConfig M) (env : Env) (queue : QueueType)

omit [DecidableEq M] [MessageType M] in
lemma Queues.Tidied.log_suffix {gone : List (ControlMessage M)} (h : Tidied q gone q') :
    q.log <:+ q'.log := by
  induction h with
  | refl => exact suffix_refl _
  | table _ _ ih => exact ih
  | failed _ ih | ignored _ _ ih | dropped _ _ ih => exact ih.trans (suffix_cons _ _)

lemma Move.log_suffix (move : Move q q') : q.log <:+ q'.log := by
  cases move with
  | note | sendTransaction | sendNormal | retryTransaction | retryNormal | abandon =>
    exact suffix_cons _ _
  | relabel | skipAddress => exact suffix_refl _
  | enqueueTransaction env =>
    refine List.IsSuffix.trans ?_ (insertRow_tidied env .transaction).log_suffix
    exact suffix_cons _ _
  | @enqueueNormal config env m htype hm =>
    refine List.IsSuffix.trans ?_ (enqueueNormal_tidied config env m q).log_suffix
    exact suffix_cons _ _
  | @discardUpdates env kept gone hkept hperm =>
    exact (discard_tidied env .transaction true gone
      { q with transactionMessageQueue := kept }).log_suffix
  | @discardNormal env persisted kept gone hkept hperm =>
    exact (discard_tidied env .normal persisted gone
      { q with normalMessageQueue := kept }).log_suffix
  | @giveUp config env m value hm hatt =>
    have hsettl : q.log <:+ ((q.settleUnanswered m).emit (.resolved m value)).log :=
      (suffix_cons _ _).trans (suffix_cons _ _)
    exact (hsettl.trans (removeRow_tidied env _ _ _).log_suffix).trans (suffix_cons _ _)
  | @acknowledge env remove m hm htype =>
    obtain ⟨q₀, htidied, heq⟩ := acknowledge_cases env remove m q
    rw [heq]
    exact ((suffix_cons _ _).trans htidied.log_suffix).trans (suffix_cons _ _)

lemma Moves.log_suffix (moves : Moves q q') : q.log <:+ q'.log := by
  induction moves with
  | refl => exact suffix_refl _
  | tail _ move ih => exact ih.trans move.log_suffix

/-- Transaction messages and the others are kept apart. -/
structure Sorted (q : Queues M) : Prop where
  transaction : ∀ m ∈ q.transactionMessageQueue, isTransactionMessage m.messageType = true
  normal : ∀ m ∈ q.normalMessageQueue, isTransactionMessage m.messageType = false

namespace Sorted

variable {q q' : Queues M} {m : ControlMessage M}

omit [DecidableEq M] in
lemma of_subset (h : Sorted q)
    (htx : q'.transactionMessageQueue ⊆ q.transactionMessageQueue)
    (hnorm : q'.normalMessageQueue ⊆ q.normalMessageQueue) : Sorted q' :=
  ⟨fun m hm => h.transaction m (htx hm), fun m hm => h.normal m (hnorm hm)⟩

omit [DecidableEq M] in
lemma of_frame (h : Sorted q)
    (hq : ∃ database log, q' = { q with database := database, log := log }) : Sorted q' := by
  obtain ⟨database, log, rfl⟩ := hq
  exact ⟨h.transaction, h.normal⟩

omit [DecidableEq M] in
lemma addTransaction (h : Sorted q) (hm : isTransactionMessage m.messageType = true)
    (hqueue : q'.transactionMessageQueue ⊆ m :: q.transactionMessageQueue)
    (hnorm : q'.normalMessageQueue ⊆ q.normalMessageQueue) : Sorted q' := by
  refine ⟨?_, fun n hn => h.normal n (hnorm hn)⟩
  intro n hn
  rcases mem_cons.1 (hqueue hn) with rfl | hn
  · exact hm
  · exact h.transaction n hn

omit [DecidableEq M] in
lemma addNormal (h : Sorted q) (hm : isTransactionMessage m.messageType = false)
    (htx : q'.transactionMessageQueue ⊆ q.transactionMessageQueue)
    (hqueue : q'.normalMessageQueue ⊆ m :: q.normalMessageQueue) : Sorted q' := by
  refine ⟨fun n hn => h.transaction n (htx hn), ?_⟩
  intro n hn
  rcases mem_cons.1 (hqueue hn) with rfl | hn
  · exact hm
  · exact h.normal n hn

end Sorted

lemma Move.sorted (h : Sorted q) (move : Move q q') : Sorted q' := by
  cases move with
  | note | skipAddress | abandon => exact ⟨h.transaction, h.normal⟩
  | relabel f hf =>
    refine ⟨?_, h.normal⟩
    intro m hm
    obtain ⟨n, hn, rfl⟩ := mem_map.1 hm
    rw [(hf n).messageType]
    exact h.transaction n hn
  | @enqueueTransaction env m htype hm =>
    refine Sorted.of_frame ?_ (insertRow_tidied env .transaction).frame
    refine h.addTransaction htype ?_ (refl _)
    intro n hn
    simpa [emit, or_comm] using hn
  | @enqueueNormal config env m htype hm =>
    refine Sorted.of_frame ?_ (enqueueNormal_tidied config env m q).frame
    exact h.addNormal htype (refl _) (addToNormal_perm m).subset
  | discardUpdates env hkept =>
    refine Sorted.of_frame ?_ (discard_tidied env .transaction true _ _).frame
    exact h.of_subset hkept.subset (refl _)
  | discardNormal env persisted hkept =>
    refine Sorted.of_frame ?_ (discard_tidied env .normal persisted _ _).frame
    exact h.of_subset (refl _) hkept.subset
  | sendTransaction sent hnone hqueue =>
    refine h.of_subset ?_ (refl _)
    rw [hqueue]
    exact subset_cons_self _ _
  | sendNormal sent hnone hqueue =>
    refine h.of_subset (refl _) ?_
    exact List.Subset.trans (subset_cons_self _ _) hqueue.symm.subset
  | retryTransaction hm htype hsame =>
    exact h.addTransaction (by rw [hsame.messageType]; exact htype) (refl _)
      (refl _)
  | retryNormal hm htype hsame =>
    exact h.addNormal (by rw [hsame.messageType]; exact htype) (refl _)
      (refl _)
  | @giveUp config env m value hm hatt =>
    have hsettl : Sorted ((q.settleUnanswered m).emit (.resolved m value)) :=
      ⟨h.transaction, h.normal⟩
    have hrow := hsettl.of_frame (removeRow_tidied env (queueTypeOf m) m.initialUniqueId _).frame
    exact ⟨hrow.transaction, hrow.normal⟩
  | @acknowledge env remove m hm htype =>
    obtain ⟨q₀, htidied, heq⟩ := acknowledge_cases env remove m q
    obtain ⟨database, log, rfl⟩ := htidied.frame
    rw [heq]
    exact ⟨h.transaction, h.normal⟩

lemma checkQueueSizes_moves : Moves q (q.checkQueueSizes config env) :=
  checkQueueSizes_inv config env
    (fun _ h => h.tail
      (.discardNormal env _ (splitNormal_split _ _).sublist (splitNormal_split _ _).perm))
    (fun _ h => h.tail
      (.discardUpdates env (splitUpdates_split _ _).sublist (splitUpdates_split _ _).perm)) .refl

omit [DecidableEq M] in
lemma pushFront_transaction (hm : isTransactionMessage m.messageType = true) :
    q.pushFront m = { q with transactionMessageQueue := m :: q.transactionMessageQueue } := by
  simp [pushFront, queueTypeOf, hm]

omit [DecidableEq M] in
lemma pushFront_normal (hm : isTransactionMessage m.messageType = false) :
    q.pushFront m = { q with normalMessageQueue := m :: q.normalMessageQueue } := by
  simp [pushFront, queueTypeOf, hm]

lemma retry_moves (hm : q.inFlight = some m) :
    Moves q ((q.settleUnanswered m).retry config env m) := by
  -- the message goes back to the front, then the charge point may be told its new id
  have hfront : Move q ((q.settleUnanswered m).pushFront (retryOf config env m)) := by
    have hsame : SameMessage m (retryOf config env m) := ⟨rfl, rfl, rfl, rfl⟩
    cases htype : isTransactionMessage m.messageType with
    | true =>
      rw [pushFront_transaction (by simpa [retryOf] using htype)]
      exact .retryTransaction hm htype hsame
    | false =>
      rw [pushFront_normal (by simpa [retryOf] using htype)]
      exact .retryNormal hm htype hsame
  unfold retry
  split_ifs
  · exact .tail (.single hfront) (.note _ rfl)
  · exact .single hfront

lemma handleTimeoutOrCallerror_moves {value : Resolution} :
    Moves q (q.handleTimeoutOrCallerror config env value) := by
  unfold handleTimeoutOrCallerror
  split
  · exact .refl
  · rename_i m hm
    split_ifs with hpers hatt hboot
    · exact retry_moves config env hm
    · exact .single (.giveUp config env value hm (not_lt.1 hatt))
    · have htype : isTransactionMessage m.messageType = false := by
        simp only [persisted, Bool.or_eq_true, not_or, Bool.not_eq_true] at hpers
        exact hpers.1
      exact .single (.retryNormal hm htype ⟨rfl, rfl, rfl, rfl⟩)
    · have htype : isTransactionMessage m.messageType = false := by
        simp only [persisted, Bool.or_eq_true, not_or, Bool.not_eq_true] at hpers
        exact hpers.1
      exact .tail (.single (.abandon hm htype)) (.note _ rfl)

namespace MessageQueue

variable {s : MessageQueue M} {m : ControlMessage M} {queue : QueueType}

/-- The selected message is the first of its deque that may go out. -/
theorem selectMessage_cases {now : ℤ} (h : s.selectMessage now = some (m, queue)) :
    (queue = .transaction ∧ ∃ rest, s.transactionMessageQueue = m :: rest) ∨
    (queue = .normal ∧ s.normalMessageQueue.find?
      (allowedToSendMessage · now s.isRegistrationStatusAccepted) = some m) := by
  have hnorm : ∀ {o : Option (ControlMessage M)},
      o.map (·, QueueType.normal) = some (m, queue) → queue = .normal ∧ o = some m := by
    intro o ho
    obtain ⟨n, hn, heq⟩ := Option.map_eq_some_iff.1 ho
    obtain ⟨rfl, rfl⟩ := Prod.mk.inj heq
    exact ⟨rfl, hn⟩
  unfold selectMessage at h
  dsimp only at h
  split at h
  · rename_i first rest hqueue
    split_ifs at h
    · obtain ⟨rfl, rfl⟩ := Prod.mk.inj (Option.some.inj h)
      exact .inl ⟨rfl, rest, hqueue⟩
    · exact .inr (hnorm h)
  · exact .inr (hnorm h)

lemma transmit_moves {env : Env} (hnone : s.inFlight = none)
    (h : s.selectMessage env.now = some (m, queue)) :
    Moves s.toQueues (s.transmit env m queue).toQueues := by
  have hsend : Move s.toQueues ({ s.eraseSelected env.now queue with
      inFlight := some (s.outgoing m) }.emit (.transmitted (s.outgoing m) env.sendOk)) := by
    rcases selectMessage_cases h with ⟨rfl, rest, hqueue⟩ | ⟨rfl, hfind⟩
    · simpa [eraseSelected, hqueue] using
        Move.sendTransaction env.sendOk hnone hqueue (s.outgoing_sentAs m)
    · exact .sendNormal env.sendOk hnone (perm_cons_eraseP hfind) (s.outgoing_sentAs m)
  unfold transmit
  split_ifs
  · exact .single hsend
  · exact .head hsend (handleTimeoutOrCallerror_moves s.config env)

def Input.newMessageId : Input M → MessageId
  | .pushCall env .. | .pushCallAsync env .. | .workerIteration env | .receive env ..
  | .inFlightTimeout env .. | .pause env => env.newMessageId
  | _ => ""

def Input.pushes : Input M → Bool
  | .pushCall .. | .pushCallAsync .. => true
  | _ => false

/-- The call that an operation leaves without an answer. -/
def hit (s : MessageQueue M) : Input M → Option (ControlMessage M)
  | .inFlightTimeout _ address messageId =>
    s.inFlight.filter fun m => m.address = address ∧ m.uniqueId = messageId
  | .pause _ => s.inFlight
  | .receive _ received =>
    s.inFlight.filter fun m => m.uniqueId = received.uniqueId ∧
      (received.messageTypeId = .callError ∨
        received.messageTypeId = .callResult ∧ received.payloadIsObject = false)
  | .workerIteration env =>
    if env.sendOk then none else (s.selectMessage env.now).map (·.1)
  | _ => none

structure Picks (s : MessageQueue M) (env : Env) (m : ControlMessage M) (queue : QueueType) :
    Prop where
  worker : s.worker = .waiting
  wakeUp : s.wakeUp = true
  paused : s.paused = false
  inFlight : s.inFlight = none
  selected : s.selectMessage env.now = some (m, queue)
  notHeldBack : s.heldBack m = false

/-- What an operation does to the messages. -/
inductive Effect (s : MessageQueue M) : Input M → Queues M → Prop
  | nothing {input : Input M} : Effect s input s.toQueues
  | respond {input : Input M} (uniqueId : MessageId) :
      Effect s input (s.toQueues.emit (.response uniqueId))
  | relabel {input : Input M} (start : MessageId) (transactionId : ℤ) :
      Effect s input (s.notifyStartTransactionHandled start transactionId).toQueues
  | push {input : Input M} (env : Env) {m : ControlMessage M} :
      input.pushes = true → FreshMessage s.toQueues m → Effect s input (s.addMessage env m).toQueues
  | refuse {input : Input M} {m : ControlMessage M} :
      input.pushes = true → FreshMessage s.toQueues m → Effect s input (s.refuse m).toQueues
  | fail {input : Input M} {env : Env} {m : ControlMessage M} (value : Resolution) :
      env.newMessageId = input.newMessageId → s.inFlight = some m → s.hit input = some m →
      Effect s input (s.toQueues.handleTimeoutOrCallerror s.config env value)
  | answer {input : Input M} (env : Env) (uniqueId : MessageId) :
      Effect s input (s.toQueues.handleCallResult s.config env uniqueId)
  | send {env : Env} {m : ControlMessage M} {queue : QueueType} : Picks s env m queue →
      Effect s (.workerIteration env) (s.transmit env m queue).toQueues

variable (env : Env) (s : MessageQueue M)

lemma workerIteration_effect :
    Effect s (.workerIteration env) (s.workerIteration env).toQueues := by
  unfold workerIteration
  by_cases hready : s.worker = .waiting ∧ s.wakeUp
  swap
  · rw [if_neg hready]
    exact .nothing
  rw [if_pos hready]
  split_ifs with hidle
  · -- pausing does nothing, as no call is in flight
    have hnone : s.inFlight = none := by simp_all
    simp only [startIdleAction]
    split_ifs
    · simpa [pause, handleTimeoutOrCallerror, hnone] using Effect.nothing (s := s)
    · exact .nothing
  · change Effect s _ (s.sendNext env).toQueues
    unfold sendNext
    by_cases hbusy : s.paused || s.inFlight.isSome
    · rw [if_pos hbusy]
      exact .nothing
    rw [if_neg hbusy]
    obtain ⟨hpaused, hnone⟩ : s.paused = false ∧ s.inFlight = none := by simpa using hbusy
    split
    · exact .nothing
    · rename_i m queue hselect
      cases hheld : s.heldBack m with
      | true => exact .nothing
      | false => exact .send ⟨hready.1, hready.2, hpaused, hnone, hselect, hheld⟩

lemma receiveAnswer_effect {received : Received} {isCallResult : Bool}
    (hhit : isCallResult = false → ∀ m, s.inFlight = some m → m.uniqueId = received.uniqueId →
      s.hit (.receive env received) = some m) : Effect s (.receive env received)
        (s.receiveAnswer env isCallResult received.uniqueId).toQueues := by
  unfold receiveAnswer
  dsimp only
  split
  · exact .nothing
  · rename_i m hm
    split_ifs with hid hresult
    · exact .nothing
    · exact .answer env received.uniqueId
    · exact .fail .callError rfl hm (hhit (by simpa using hresult) m hm (by simpa using hid))

theorem step_effect (input : Input M) : Effect s input (s.step input).toQueues := by
  cases input with
  | pushCall env call stallUntilAccepted =>
    simp only [step, pushCall]
    split_ifs
    · exact .nothing
    · exact .push env rfl (make_fresh env.now call stallUntilAccepted s.toQueues)
    · exact .nothing
  | pushCallAsync env call =>
    have hfresh := make_fresh env.now call false s.toQueues
    simp only [step, pushCallAsync]
    split_ifs
    · exact .refuse rfl hfresh
    · exact .push env rfl hfresh
    · exact .refuse rfl hfresh
    · exact .push env rfl hfresh
  | pushCallResult uniqueId | pushCallError uniqueId =>
    simp only [step, pushResponse]
    split_ifs
    · exact .nothing
    · exact .respond uniqueId
  | workerIteration env => exact workerIteration_effect env s
  | receive env received =>
    simp only [step, receive]
    split
    · split_ifs <;> exact .nothing
    · rename_i htype
      exact receiveAnswer_effect env s fun hobject m hm hid => by
        simp [hit, hm, hid, htype, hobject]
    · rename_i htype
      exact receiveAnswer_effect env s fun _ m hm hid => by simp [hit, hm, hid, htype]
    · exact .nothing
  | inFlightTimeout env address messageId =>
    simp only [step, inFlightTimeout]
    split
    · exact .nothing
    · rename_i m hm
      split_ifs with hsame
      · exact .fail .offline rfl hm (by simp [hit, hm, hsame])
      · exact .nothing
  | pause env =>
    cases hm : s.inFlight with
    | none => simpa [step, pause, handleTimeoutOrCallerror, hm] using Effect.nothing (s := s)
    | some m => exact .fail .offline rfl hm hm
  | idleActionDone | resume | resumeTimer => simpa [step] using Effect.nothing (s := s)
  | notifyStartTransactionHandled start transactionId => exact .relabel start transactionId
  | resetNextMessageToSend | notifyQueueTimer | runWhenIdle | setRegistrationStatusAccepted | stop
  | addStoppedTransactionId | addMeterValueMessageId | updateTransactionMessageAttempts
  | updateTransactionMessageRetryInterval => exact .nothing

lemma step_moves (input : Input M) : Moves s.toQueues (s.step input).toQueues := by
  have heff := s.step_effect input
  generalize (s.step input).toQueues = q' at heff ⊢
  cases heff with
  | nothing => exact .refl
  | respond => exact .single (.note _ rfl)
  | relabel => exact .single (.relabel _ (addTransactionId_same _ _))
  | push env _ hm =>
    unfold addMessage
    split_ifs with htype
    · exact .head (.enqueueTransaction env htype hm) (checkQueueSizes_moves s.config env)
    · rw [Bool.not_eq_true] at htype
      exact .head (.enqueueNormal s.config env htype hm) (checkQueueSizes_moves s.config env)
  | refuse => exact .tail (.single .skipAddress) (.note _ rfl)
  | fail value => exact handleTimeoutOrCallerror_moves s.config _
  | answer env uniqueId =>
    unfold handleCallResult
    split
    · exact .refl
    · rename_i m hm
      split_ifs
      · exact .single (.acknowledge env _ hm (fun htype => by simp [persisted, htype]))
      · exact .refl
  | send hpicks => exact transmit_moves hpicks.inFlight hpicks.selected

end MessageQueue
end Everest.Ocpp
