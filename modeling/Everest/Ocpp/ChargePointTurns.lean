import Everest.Ocpp.ChargePoint

namespace Everest.Ocpp

def MessageQueue.Input.call? {M : Type} : Input M → Option (Call M)
  | .pushCall _ call _ | .pushCallAsync _ call => some call
  | _ => none

namespace V16.ChargePoint

variable {s : ChargePoint} {messageId : MessageId}

def dispatched (env : Env) (registrationAccepted : Bool) (call : Call MessageType)
    (triggered : Bool) (s : ChargePoint) : Option (MessageQueue.Input MessageType) :=
  match getMessageTransmissionPriority (isBootNotificationMessage call.action) triggered
    registrationAccepted (isTransactionMessage call.action) s.queue.config.queueAllMessages with
  | .sendImmediately => some (.pushCall env call false)
  | .sendAfterRegistrationStatusAccepted => some (.pushCall env call true)
  | .discard => none

def operation (messageId : MessageId) (s : ChargePoint) :
    Input → Option (MessageQueue.Input MessageType)
  | .session env registrationAccepted =>
    match s.session with
    | .startNumbered _ startMessageId =>
      s.dispatched env registrationAccepted ⟨startMessageId, .startTransaction, {}⟩ false
    | .stopPrepared _ _ stopMessageId transactionId =>
      s.dispatched env registrationAccepted
        ⟨stopMessageId, .stopTransaction, { transactionId := some transactionId }⟩ false
    | _ => none
  | .sender n env registrationAccepted => (s.senders[n]?).bind fun sender =>
    match sender.stage with
    | .filing startTransactionMessageId =>
      some (.addMeterValueMessageId startTransactionMessageId sender.messageId)
    | .ready transactionId =>
      s.dispatched env registrationAccepted
        ⟨sender.messageId, .meterValues, { transactionId := transactionId }⟩
        sender.initiatedByTriggerMessage
    | _ => none
  | .receive env received _ =>
    if s.websocket = .idle then some (.receive env received) else none
  | .handle =>
    match s.websocket with
    | .startFound _ transactionId t => (s.handler.transactions[t]?).bind fun transaction =>
      if transaction.finished then
        some (.addStoppedTransactionId transaction.stopTransactionMessageId transactionId)
      else none
    | .startNotified call transactionId _ =>
      some (.notifyStartTransactionHandled call.uniqueId transactionId)
    | _ => none
  | .worker env =>
    if s.awake ∧ s.queue.worker = .waiting ∧ s.queue.wakeUp then some (.workerIteration env)
    else none
  | .pushCall env action payload stallUntilAccepted =>
    if ofTransaction action then none
    else some (.pushCall env ⟨messageId, action, payload⟩ stallUntilAccepted)
  | .pushCallAsync env action payload =>
    if ofTransaction action then none
    else some (.pushCallAsync env ⟨messageId, action, payload⟩)
  | .queue input => if external input then some input else none
  | _ => none

def operate (messageId : MessageId) (s : ChargePoint)
    (operation : Option (MessageQueue.Input MessageType)) : ChargePoint :=
  operation.elim s (s.useQueue messageId ·)

variable {registrationAccepted triggered : Bool}

lemma dispatchCall_operate {env : Env} {call : Call MessageType} :
    s.dispatchCall messageId env registrationAccepted call triggered =
      s.operate messageId (s.dispatched env registrationAccepted call triggered) := by
  unfold dispatchCall dispatched
  generalize getMessageTransmissionPriority _ _ _ _ _ = priority
  cases priority <;> rfl

lemma dispatched_call? {env : Env} {call : Call MessageType}
    {op : MessageQueue.Input MessageType}
    (h : s.dispatched env registrationAccepted call triggered = some op) :
    op.call? = some call := by
  unfold dispatched at h
  split at h <;> cases h <;> rfl

section

variable (messageId : MessageId) (s : ChargePoint) (op : Option (MessageQueue.Input MessageType))

@[simp] lemma operate_session : (s.operate messageId op).session = s.session := by
  cases op <;> rfl

@[simp] lemma operate_senders : (s.operate messageId op).senders = s.senders := by
  cases op <;> rfl

@[simp] lemma operate_websocket : (s.operate messageId op).websocket = s.websocket := by
  cases op <;> rfl

@[simp] lemma operate_settled : (s.operate messageId op).settled = s.settled := by
  cases op <;> rfl

end

inductive Thread
  | session
  | sender
  | websocket
deriving DecidableEq, Repr

/-- The thread that takes the step; the worker and the timers have nothing in hand. -/
def Input.thread? : Input → Option Thread
  | .transactionStarted .. | .transactionStopped _ | .session .. => some .session
  | .sendMeterValue .. | .sender .. => some .sender
  | .receive .. | .handle | .abandon => some .websocket
  | _ => none

section

variable (messageId : MessageId) (s : ChargePoint)

/-- What a step can do: its operation of the queue and the state it leads to. -/
inductive Turn : Input → Option (MessageQueue.Input MessageType) → ChargePoint → Prop
  | aside {input} changeAvailabilityQueue executedChanges :
    Turn input none { s with changeAvailabilityQueue, executedChanges }
  | sleep {env} : Turn (.worker env) none { s with awake := false }
  | wakeUp : Turn .wakeUp none { s with awake := true }
  | work {env} (hawake : s.awake = true) : Turn (.worker env)
      (some (.workerIteration env)) (s.useQueue messageId (.workerIteration env))
  | push {env action payload stall} (haction : ofTransaction action = false) :
    Turn (.pushCall env action payload stall)
      (some (.pushCall env ⟨messageId, action, payload⟩ stall))
      (s.useQueue messageId (.pushCall env ⟨messageId, action, payload⟩ stall))
  | pushAsync {env action payload} (haction : ofTransaction action = false) :
    Turn (.pushCallAsync env action payload)
      (some (.pushCallAsync env ⟨messageId, action, payload⟩))
      (s.useQueue messageId (.pushCallAsync env ⟨messageId, action, payload⟩))
  | queue {op} (hexternal : external op = true) :
    Turn (.queue op) (some op) (s.useQueue messageId op)
  | start {connector internalTransactionId} (hidle : s.session = .idle) :
    Turn (.transactionStarted connector internalTransactionId) none
      { s with
        handler := s.handler.addTransaction { connector, internalTransactionId }
        session := .startAdded s.handler.transactions.length messageId
        issued := (messageId, .start s.handler.transactions.length) :: s.issued }
  | stop {connector t} transactionId (hidle : s.session = .idle)
      (ht : s.handler.activeTransaction connector = some t) :
    Turn (.transactionStopped connector) none
      { s with
        session := .stopPrepared connector t messageId transactionId
        issued := (messageId, .stop t) :: s.issued }
  | numberStart {env accepted t i} (hs : s.session = .startAdded t i) :
    Turn (.session env accepted) none
      { s with
        handler := s.handler.update t fun transaction =>
          { transaction with startTransactionMessageId := i }
        session := .startNumbered t i }
  | queueStart {env accepted i op} t (hs : s.session = .startNumbered t i)
      (hop : s.dispatched env accepted ⟨i, .startTransaction, {}⟩ false = op) :
    Turn (.session env accepted) op
      { s.operate messageId op with session := .idle }
  | queueStop {env accepted connector i transactionId op} t
      (hs : s.session = .stopPrepared connector t i transactionId)
      (hop : s.dispatched env accepted
        ⟨i, .stopTransaction, { transactionId := some transactionId }⟩ false = op) :
    Turn (.session env accepted) op
      { s.operate messageId op with session := .stopDispatched connector t i }
  | finish {env accepted connector t i} (hs : s.session = .stopDispatched connector t i) :
    Turn (.session env accepted) none
      { s with
        handler := s.handler.update t fun transaction => { transaction with finished := true }
        session := .stopFinished connector t i }
  | numberStop {env accepted connector t i} (hs : s.session = .stopFinished connector t i) :
    Turn (.session env accepted) none
      { s with
        handler := s.handler.update t fun transaction =>
          { transaction with stopTransactionMessageId := i }
        session := .stopRecorded connector t i }
  | putAway {env accepted connector t i} (hs : s.session = .stopRecorded connector t i) :
    Turn (.session env accepted) none
      { s with handler := s.handler.addStoppedTransaction connector
               session := .stopMoved connector }
  | release {env accepted connector} (hs : s.session = .stopMoved connector) :
    Turn (.session env accepted) none
      { s with handler := s.handler.removeActiveTransaction connector, session := .idle }
  | meter {connector initiatedByTriggerMessage transaction}
      (ht : ∀ t, transaction = some t → s.handler.activeTransaction connector = some t) :
    Turn (.sendMeterValue connector initiatedByTriggerMessage) none
      { s with
        senders := s.senders ++ [{ messageId, transaction, initiatedByTriggerMessage }]
        issued := (messageId, .meterValues transaction) :: s.issued }
  | stage {n env accepted sender stage} (hn : s.senders[n]? = some sender)
      (hready : ∀ transactionId, stage = .ready transactionId → sender.stage = .found ∧
        ∀ transaction, sender.transaction.bind (s.handler.transactions[·]?) = some transaction →
          transaction.transactionId ≠ none) :
    Turn (.sender n env accepted) none (s.setStage n stage)
  | file {n env accepted sender i} (hn : s.senders[n]? = some sender)
      (hstage : sender.stage = .filing i) :
    Turn (.sender n env accepted) (some (.addMeterValueMessageId i sender.messageId))
      ((s.useQueue messageId (.addMeterValueMessageId i sender.messageId)).setStage n (.ready none))
  | send {n env accepted sender transactionId op} (hn : s.senders[n]? = some sender)
      (hstage : sender.stage = .ready transactionId)
      (hop : s.dispatched env accepted ⟨sender.messageId, .meterValues, { transactionId }⟩
        sender.initiatedByTriggerMessage = op) :
    Turn (.sender n env accepted) op
      { s.operate messageId op with senders := s.senders.eraseIdx n }
  | receive {env received transactionId} (hidle : s.websocket = .idle) :
    Turn (.receive env received transactionId) (some (.receive env received))
      (s.useQueue messageId (.receive env received))
  | answer {env received transactionId call websocket} (hidle : s.websocket = .idle)
      (hcall : s.queue.answeredCall received = some call)
      (hw : call.messageType = .startTransaction ∧ websocket = .startReceived call transactionId ∨
        call.messageType = .stopTransaction ∧ websocket = .stopReceived call) :
    Turn (.receive env received transactionId) (some (.receive env received))
      { s.useQueue messageId (.receive env received) with
        websocket
        settled := call.initialUniqueId :: s.settled }
  | find {call transactionId t} (hw : s.websocket = .startReceived call transactionId)
      (ht : s.handler.getTransaction call.uniqueId = some t) :
    Turn .handle none { s with websocket := .startFound call transactionId t }
  | notify {op} call transactionId t (hw : s.websocket = .startFound call transactionId t)
      (hop : ∀ o ∈ op, ∃ i, o = .addStoppedTransactionId i transactionId) :
    Turn .handle op
      { s.operate messageId op with
        websocket := .startNotified call transactionId t, awake := true }
  | replace {call transactionId t} (hw : s.websocket = .startNotified call transactionId t) :
    Turn .handle (some (.notifyStartTransactionHandled call.uniqueId transactionId))
      { s.useQueue messageId (.notifyStartTransactionHandled call.uniqueId transactionId) with
        websocket := .startReplaced transactionId t }
  | number {transactionId t} (hw : s.websocket = .startReplaced transactionId t) :
    Turn .handle none
      { s with
        handler := s.handler.update t fun transaction =>
          { transaction with transactionId := some transactionId }
        websocket := .idle }
  | lookUp call changeAvailabilityQueue executedChanges (hw : s.websocket = .stopReceived call) :
    Turn .handle none
      { s with changeAvailabilityQueue, executedChanges, websocket := .stopLookedUp call }
  | erase {call} (hw : s.websocket = .stopLookedUp call) :
    Turn .handle none
      { s with handler := s.handler.eraseStoppedTransaction call.uniqueId, websocket := .idle }
  | drop {input} (hinput : input.thread? = some .websocket) :
    Turn input none { s with websocket := .idle }

end

theorem act_turn (messageId : MessageId) (s : ChargePoint) (input : Input) :
    Turn messageId s input (s.operation messageId input) (s.act messageId input) := by
  cases input with
  | transactionStarted =>
    dsimp only [operation, act, startTransaction]
    split_ifs with hidle
    · exact .start hidle.1
    · exact .aside _ _
  | transactionStopped connector =>
    dsimp only [operation, act, stopTransaction]
    split_ifs with hidle
    · cases ht : s.handler.activeTransaction connector with
      | none => exact .aside _ _
      | some => exact .stop _ hidle ht
    · exact .aside _ _
  | session =>
    dsimp only [operation, act, sessionStep]
    cases hs : s.session with
    | idle => exact .aside _ _
    | startAdded => exact .numberStart hs
    | startNumbered =>
      simp only [dispatchCall_operate]
      exact .queueStart _ hs rfl
    | stopPrepared =>
      simp only [dispatchCall_operate]
      exact .queueStop _ hs rfl
    | stopDispatched => exact .finish hs
    | stopFinished => exact .numberStop hs
    | stopRecorded => exact .putAway hs
    | stopMoved => exact .release hs
  | sendMeterValue =>
    refine .meter fun t ht => ?_
    split_ifs at ht
    exact ht
  | sender n =>
    dsimp only [operation, act, senderStep]
    cases hn : s.senders[n]? with
    | none => exact .aside _ _
    | some sender =>
      simp only [Option.bind_some]
      cases hstage : sender.stage with
      | found =>
        dsimp only
        split
        · rename_i hnone
          exact .stage hn fun _ _ => ⟨hstage, by simp [hnone]⟩
        · rename_i transaction hsome
          split
          · rename_i hid
            exact .stage hn fun _ _ => ⟨hstage, by simp [hsome, hid]⟩
          · exact .stage hn (by simp)
      | unnumbered => exact .stage hn (by simp)
      | filing => exact .file hn hstage
      | ready =>
        simp only [dispatchCall_operate]
        exact .send hn hstage rfl
  | receive env received =>
    dsimp only [operation, act, ChargePoint.receive]
    split_ifs with hidle
    · cases hcall : s.queue.answeredCall received with
      | none => exact .receive hidle
      | some call =>
        dsimp only
        split_ifs with hstart hstop
        · exact .answer hidle hcall (.inl ⟨hstart, rfl⟩)
        · exact .answer hidle hcall (.inr ⟨hstop, rfl⟩)
        · exact .receive hidle
    · exact .aside _ _
  | handle =>
    dsimp only [operation, act, handleStep]
    cases hw : s.websocket with
    | idle => exact .aside _ _
    | startReceived call =>
      dsimp only
      cases ht : s.handler.getTransaction call.uniqueId with
      | none => exact .drop rfl
      | some => exact .find hw ht
    | startFound call transactionId t =>
      dsimp only
      cases s.handler.transactions[t]? with
      | none => exact .notify _ _ _ hw (by simp)
      | some transaction =>
        simp only [Option.bind_some]
        split_ifs
        · exact .notify _ _ _ hw (by simp)
        · exact .notify _ _ _ hw (by simp)
    | startNotified => exact .replace hw
    | startReplaced => exact .number hw
    | stopReceived =>
      dsimp only
      split
      · exact .lookUp _ _ _ hw
      · split <;> exact .lookUp _ _ _ hw
    | stopLookedUp => exact .erase hw
  | abandon =>
    dsimp only [operation, act, ChargePoint.abandon]
    split
    · exact .drop rfl
    · exact .drop rfl
    · exact .aside _ _
  | worker =>
    dsimp only [operation, act, workerStep]
    by_cases hawake : s.awake ∧ s.queue.worker = .waiting
    · by_cases hwake : s.queue.wakeUp
      · rw [if_pos hawake, if_pos hwake, if_pos ⟨hawake.1, hawake.2, hwake⟩]
        exact .work hawake.1
      · rw [if_pos hawake, if_neg hwake, if_neg fun h => hwake h.2.2]
        exact .sleep
    · rw [if_neg hawake, if_neg fun h => hawake ⟨h.1, h.2.1⟩]
      exact .aside _ _
  | wakeUp => exact .wakeUp
  | pushCall =>
    dsimp only [operation, act]
    split_ifs with haction
    · exact .aside _ _
    · exact .push (by simpa using haction)
  | pushCallAsync =>
    dsimp only [operation, act]
    split_ifs with haction
    · exact .aside _ _
    · exact .pushAsync (by simpa using haction)
  | queue =>
    dsimp only [operation, act]
    split_ifs with hexternal
    · exact .queue hexternal
    · exact .aside _ _
  | queueAvailabilityChange | sessionStopped => exact .aside _ _

variable {input : Input} {op : Option (MessageQueue.Input MessageType)} {s' : ChargePoint}

end V16.ChargePoint
end Everest.Ocpp
