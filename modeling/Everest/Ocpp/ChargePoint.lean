import Everest.Lib.SortedMap
import Everest.Ocpp.MessageTypes
import Everest.Ocpp.QueueIds

/- The OCPP 1.6 charge point around its message queue: the transaction handler, the thread
that processes session events, the senders of meter values and the websocket thread that
handles the answers of the CSMS. A step is what one thread does between two points at which
another thread can get in between. -/

namespace Everest.Ocpp

/-- An operation that asks for a message id gets this one. -/
def MessageQueue.Input.renumber {M : Type} (messageId : MessageId) : Input M → Input M
  | .pushCall env call stallUntilAccepted =>
    .pushCall { env with newMessageId := messageId } call stallUntilAccepted
  | .pushCallAsync env call => .pushCallAsync { env with newMessageId := messageId } call
  | .workerIteration env => .workerIteration { env with newMessageId := messageId }
  | .receive env received => .receive { env with newMessageId := messageId } received
  | .inFlightTimeout env address uniqueId =>
    .inFlightTimeout { env with newMessageId := messageId } address uniqueId
  | .pause env => .pause { env with newMessageId := messageId }
  | input => input

namespace V16

/-- What `create_message_id` returns, call by call: UUIDs, none of them twice. -/
structure MessageIds where
  create : ℕ → MessageId
  injective : Function.Injective create
  ne_empty : ∀ n, create n ≠ ""

def unaryIds : MessageIds where
  create n := String.ofList (List.replicate (n + 1) 'a')
  injective := by
    intro m n h
    have hlist := String.ofList_injective h
    simpa using congrArg List.length hlist
  ne_empty n := by simp [List.replicate_succ]

structure Transaction where
  connector : ℕ
  internalTransactionId : ℤ
  transactionId : Option ℤ := none
  startTransactionMessageId : MessageId := ""
  stopTransactionMessageId : MessageId := ""
  finished : Bool := false
deriving DecidableEq, Repr

structure TransactionHandler where
  /-- Every transaction made so far. A pointer to a transaction is its position here. -/
  transactions : List Transaction := []
  /-- One entry for each connector, and one for connector 0. -/
  activeTransactions : List (Option ℕ) := []
  stoppedTransactions : List ℕ := []
deriving DecidableEq, Repr

namespace TransactionHandler

variable (connector : ℕ) (h : TransactionHandler)

def activeTransaction : Option ℕ :=
  (h.activeTransactions[connector]?).join

def update (t : ℕ) (f : Transaction → Transaction) (h : TransactionHandler) :
    TransactionHandler :=
  { h with transactions := h.transactions.modify t f }

def reachable : List ℕ :=
  h.activeTransactions.reduceOption ++ h.stoppedTransactions

def named (messageId : MessageId) (h : TransactionHandler) (t : ℕ) : Bool :=
  (h.transactions[t]?).any fun transaction =>
    transaction.startTransactionMessageId = messageId ∨
      transaction.stopTransactionMessageId = messageId

def getTransaction (transactionMessageId : MessageId) (h : TransactionHandler) : Option ℕ :=
  h.reachable.find? (h.named transactionMessageId)

def addTransaction (transaction : Transaction) (h : TransactionHandler) : TransactionHandler :=
  { h with
    transactions := h.transactions ++ [transaction]
    activeTransactions :=
      h.activeTransactions.set transaction.connector (some h.transactions.length) }

/-- The pointer is moved out of `active_transactions`. -/
def addStoppedTransaction : TransactionHandler :=
  { h with
    stoppedTransactions := h.stoppedTransactions ++ (h.activeTransaction connector).toList
    activeTransactions := h.activeTransactions.set connector none }

def removeActiveTransaction : TransactionHandler :=
  if connector = 0 then h
  else { h with activeTransactions := h.activeTransactions.set connector none }

def eraseStoppedTransaction (stopTransactionMessageId : MessageId) (h : TransactionHandler) :
    TransactionHandler :=
  { h with
    stoppedTransactions := h.stoppedTransactions.filter fun t =>
      !(h.transactions[t]?).any (·.stopTransactionMessageId = stopTransactionMessageId) }

def startTransactionMessageRetryCallback (newMessageId oldMessageId : MessageId)
    (h : TransactionHandler) : TransactionHandler :=
  match h.getTransaction oldMessageId with
  | some t => h.update t fun transaction =>
      { transaction with startTransactionMessageId := newMessageId }
  | none => h

end TransactionHandler

/-- The thread that processes session events, one at a time. -/
inductive SessionThread
  | idle
  /-- In `start_transaction`, after `add_transaction`. -/
  | startAdded (t : ℕ) (messageId : MessageId)
  /-- After `set_start_transaction_message_id`. -/
  | startNumbered (t : ℕ) (messageId : MessageId)
  /-- In `stop_transaction`, with the request made. -/
  | stopPrepared (connector t : ℕ) (messageId : MessageId) (transactionId : ℤ)
  | stopDispatched (connector t : ℕ) (messageId : MessageId)
  /-- After `set_finished`. -/
  | stopFinished (connector t : ℕ) (messageId : MessageId)
  /-- After `set_stop_transaction_message_id`. -/
  | stopRecorded (connector t : ℕ) (messageId : MessageId)
  /-- Back in `on_transaction_stopped`. -/
  | stopMoved (connector : ℕ)
deriving DecidableEq, Repr

inductive SenderStage
  /-- After `get_transaction(connector)`. -/
  | found
  /-- `get_transaction_id` had no value. -/
  | unnumbered
  | filing (startTransactionMessageId : MessageId)
  | ready (transactionId : Option ℤ)
deriving DecidableEq, Repr

structure MeterValueSender where
  messageId : MessageId
  transaction : Option ℕ
  initiatedByTriggerMessage : Bool := false
  stage : SenderStage := .found
deriving DecidableEq, Repr

/-- The websocket thread, which handles one message after the other. -/
inductive WebsocketThread
  | idle
  /-- `receive` has returned a StartTransaction.conf. -/
  | startReceived (call : ControlMessage MessageType) (transactionId : ℤ)
  /-- In `handleStartTransactionResponse`, with the transaction found. -/
  | startFound (call : ControlMessage MessageType) (transactionId : ℤ) (t : ℕ)
  /-- In `notify_start_transaction_handled`, before it has the lock. -/
  | startNotified (call : ControlMessage MessageType) (transactionId : ℤ) (t : ℕ)
  /-- Back from `notify_start_transaction_handled`. -/
  | startReplaced (transactionId : ℤ) (t : ℕ)
  | stopReceived (call : ControlMessage MessageType)
  /-- In `handleStopTransactionResponse`, before `erase_stopped_transaction`. -/
  | stopLookedUp (call : ControlMessage MessageType)
deriving DecidableEq, Repr

inductive AvailabilityType
  | operative
  | inoperative
deriving DecidableEq, Repr

structure AvailabilityChange where
  availability : AvailabilityType
  persist : Bool
deriving DecidableEq, Repr

inductive Purpose
  | start (t : ℕ)
  | stop (t : ℕ)
  | meterValues (transaction : Option ℕ)
  | other
  /-- Another attempt of the message that was queued under this id. -/
  | retry (initialUniqueId : MessageId)
deriving DecidableEq, Repr

structure ChargePoint where
  queue : MessageQueue MessageType := {}
  /-- The worker evaluates the predicate of `cv.wait` next; otherwise it sleeps. -/
  awake : Bool := true
  handler : TransactionHandler := {}
  changeAvailabilityQueue : SortedMap ℕ AvailabilityChange := .empty
  /-- The changes handed to `execute_connectors_availability_change`, newest first. -/
  executedChanges : List (ℕ × AvailabilityChange) := []
  session : SessionThread := .idle
  senders : List MeterValueSender := []
  websocket : WebsocketThread := .idle
  /-- Number of the ids created so far. -/
  created : ℕ := 0
  /-- The ids in use and what they were made for, newest first. No thread reads this. -/
  issued : List (MessageId × Purpose) := []
  /-- The first ids of the answered StartTransactions and StopTransactions. No thread reads
  this. -/
  settled : List MessageId := []

/-- The operation notifies the worker. A StartTransaction.conf does not: its handler will. -/
def notifies (q : MessageQueue MessageType) : MessageQueue.Input MessageType → Bool
  | .pushCall .. => q.running
  | .pushCallAsync _ call =>
    q.running && (isTransactionMessage call.action ||
      !(q.paused && !q.config.checkQueue call.action && !q.resuming &&
        !isBootNotificationMessage call.action))
  | .pushCallResult _ | .pushCallError _ => q.running
  | .receive env received =>
    (q.hit (.receive env received)).isSome ||
      (q.answeredCall received).any (·.messageType ≠ .startTransaction)
  | .inFlightTimeout env address messageId =>
    (q.hit (.inFlightTimeout env address messageId)).isSome
  | .resume delayOnReconnect =>
    q.paused && !(decide (1 < q.pauseResumeCtr + 1) && decide (0 < delayOnReconnect))
  | .resumeTimer expected => q.pauseResumeCtr = expected
  | .pause _ | .notifyQueueTimer | .runWhenIdle | .setRegistrationStatusAccepted | .stop => true
  | _ => false

def retriedStart? (before after : Queues MessageType) : Option (MessageId × MessageId) :=
  if before.startRetries.length < after.startRetries.length then after.startRetries.head?
  else none

/-- What the new id was used for in the queue. -/
def usedFor (messageId : MessageId) (q : Queues MessageType) : List (MessageId × Purpose) :=
  ((q.inFlight.toList ++ q.transactionMessageQueue ++ q.normalMessageQueue).find?
    (·.uniqueId = messageId)).toList.map fun m =>
      (messageId, if m.initialUniqueId = messageId then .other else .retry m.initialUniqueId)

inductive MessageTransmissionPriority
  | sendImmediately
  | sendAfterRegistrationStatusAccepted
  | discard
deriving DecidableEq, Repr

def getMessageTransmissionPriority (isBootNotificationMessage triggered
    registrationAlreadyAccepted isTransactionRelated queueAllMessage : Bool) :
    MessageTransmissionPriority :=
  if registrationAlreadyAccepted || isBootNotificationMessage || triggered then .sendImmediately
  else if isTransactionRelated || queueAllMessage then .sendAfterRegistrationStatusAccepted
  else .discard

/-- Operations of other threads and timers that do not concern transactions. -/
def external : MessageQueue.Input MessageType → Bool
  | .pushCallResult _ | .pushCallError _ | .resetNextMessageToSend | .idleActionDone _
  | .inFlightTimeout .. | .notifyQueueTimer | .pause _ | .resume _ | .resumeTimer _
  | .runWhenIdle | .setRegistrationStatusAccepted | .stop
  | .updateTransactionMessageAttempts _ | .updateTransactionMessageRetryInterval _ => true
  | _ => false

/-- Requests that only `start_transaction`, `stop_transaction` and `send_meter_value` make. -/
def ofTransaction (action : MessageType) : Bool :=
  action = .startTransaction ∨ action = .stopTransaction ∨ action = .meterValues

namespace ChargePoint

variable (messageId : MessageId) (env : Env) (connector : ℕ) (s : ChargePoint)

def useQueue (input : MessageQueue.Input MessageType) (s : ChargePoint) : ChargePoint :=
  let queue := s.queue.step (input.renumber messageId)
  { s with
    queue := queue
    awake := s.awake || notifies s.queue input
    handler :=
      match retriedStart? s.queue.toQueues queue.toQueues with
      | some (newMessageId, oldMessageId) =>
        s.handler.startTransactionMessageRetryCallback newMessageId oldMessageId
      | none => s.handler
    issued := usedFor messageId queue.toQueues ++ s.issued }

def executeQueuedAvailabilityChange : ChargePoint :=
  { s with
    executedChanges := ((s.changeAvailabilityQueue.find? connector).map (connector, ·)).toList ++
      s.executedChanges
    changeAvailabilityQueue := s.changeAvailabilityQueue.erase connector }

def startTransaction (internalTransactionId : ℤ) (s : ChargePoint) : ChargePoint :=
  if s.session = .idle ∧ connector < s.handler.activeTransactions.length then
    let t := s.handler.transactions.length
    { s with
      handler := s.handler.addTransaction
        { connector := connector, internalTransactionId := internalTransactionId }
      session := .startAdded t messageId
      issued := (messageId, .start t) :: s.issued }
  else s

def stopTransaction : ChargePoint :=
  if s.session = .idle then
    match s.handler.activeTransaction connector with
    | none => s
    | some t =>
      let transactionId := ((s.handler.transactions[t]?).map fun transaction =>
        transaction.transactionId.getD transaction.internalTransactionId).getD 0
      { s with
        session := .stopPrepared connector t messageId transactionId
        issued := (messageId, .stop t) :: s.issued }
  else s

def dispatchCall (registrationAccepted : Bool) (call : Call MessageType) (triggered : Bool)
    (s : ChargePoint) : ChargePoint :=
  match getMessageTransmissionPriority (isBootNotificationMessage call.action) triggered
    registrationAccepted (isTransactionMessage call.action) s.queue.config.queueAllMessages with
  | .sendImmediately => s.useQueue messageId (.pushCall env call false)
  | .sendAfterRegistrationStatusAccepted => s.useQueue messageId (.pushCall env call true)
  | .discard => s

def sessionStep (registrationAccepted : Bool) (s : ChargePoint) : ChargePoint :=
  match s.session with
  | .idle => s
  | .startAdded t startMessageId =>
    { s with
      handler := s.handler.update t fun transaction =>
        { transaction with startTransactionMessageId := startMessageId }
      session := .startNumbered t startMessageId }
  | .startNumbered _ startMessageId =>
    { s.dispatchCall messageId env registrationAccepted
        ⟨startMessageId, .startTransaction, {}⟩ false with
      session := .idle }
  | .stopPrepared connector t stopMessageId transactionId =>
    { s.dispatchCall messageId env registrationAccepted
        ⟨stopMessageId, .stopTransaction, { transactionId := some transactionId }⟩ false with
      session := .stopDispatched connector t stopMessageId }
  | .stopDispatched connector t stopMessageId =>
    { s with
      handler := s.handler.update t fun transaction => { transaction with finished := true }
      session := .stopFinished connector t stopMessageId }
  | .stopFinished connector t stopMessageId =>
    { s with
      handler := s.handler.update t fun transaction =>
        { transaction with stopTransactionMessageId := stopMessageId }
      session := .stopRecorded connector t stopMessageId }
  | .stopRecorded connector _ _ =>
    { s with
      handler := s.handler.addStoppedTransaction connector
      session := .stopMoved connector }
  | .stopMoved connector =>
    { s with
      handler := s.handler.removeActiveTransaction connector
      session := .idle }

/-- `connector` 0 is the main measurement and has no transaction. -/
def sendMeterValue (initiatedByTriggerMessage : Bool) (s : ChargePoint) : ChargePoint :=
  let transaction := if 0 < connector then s.handler.activeTransaction connector else none
  { s with
    senders := s.senders ++ [{
      messageId := messageId
      transaction := transaction
      initiatedByTriggerMessage := initiatedByTriggerMessage }]
    issued := (messageId, .meterValues transaction) :: s.issued }

def setStage (n : ℕ) (stage : SenderStage) (s : ChargePoint) : ChargePoint :=
  { s with senders := s.senders.modify n fun sender => { sender with stage := stage } }

def senderStep (n : ℕ) (env : Env) (registrationAccepted : Bool) (s : ChargePoint) : ChargePoint :=
  match s.senders[n]? with
  | none => s
  | some sender =>
    let transaction := sender.transaction.bind (s.handler.transactions[·]?)
    match sender.stage with
    | .found =>
      match transaction with
      | none => s.setStage n (.ready none)
      | some transaction =>
        match transaction.transactionId with
        | some transactionId => s.setStage n (.ready (some transactionId))
        | none => s.setStage n .unnumbered
    | .unnumbered =>
      s.setStage n (.filing ((transaction.map (·.startTransactionMessageId)).getD ""))
    | .filing startTransactionMessageId =>
      (s.useQueue messageId
        (.addMeterValueMessageId startTransactionMessageId sender.messageId)).setStage n
          (.ready none)
    | .ready transactionId =>
      { s.dispatchCall messageId env registrationAccepted
          ⟨sender.messageId, .meterValues, { transactionId := transactionId }⟩
          sender.initiatedByTriggerMessage with
        senders := s.senders.eraseIdx n }

/-- The worker wakes up if it sleeps, or evaluates the predicate and goes on. -/
def workerStep : ChargePoint :=
  if s.awake ∧ s.queue.worker = .waiting then
    if s.queue.wakeUp then s.useQueue messageId (.workerIteration env)
    else { s with awake := false }
  else s

/-- The websocket thread receives a message; `transactionId` is the one of a
StartTransaction.conf. -/
def receive (messageId : MessageId) (env : Env) (received : Received) (transactionId : ℤ)
    (s : ChargePoint) : ChargePoint :=
  if s.websocket = .idle then
    let s' := s.useQueue messageId (.receive env received)
    match s.queue.answeredCall received with
    | none => s'
    | some call =>
      if call.messageType = .startTransaction then
        { s' with
          websocket := .startReceived call transactionId
          settled := call.initialUniqueId :: s.settled }
      else if call.messageType = .stopTransaction then
        { s' with
          websocket := .stopReceived call
          settled := call.initialUniqueId :: s.settled }
      else s'
  else s

/-- The next step of `handleStartTransactionResponse` or `handleStopTransactionResponse`. -/
def handleStep : ChargePoint :=
  match s.websocket with
  | .idle => s
  | .startReceived call transactionId =>
    match s.handler.getTransaction call.uniqueId with
    | none => { s with websocket := .idle }
    | some t => { s with websocket := .startFound call transactionId t }
  | .startFound call transactionId t =>
    let s' := match s.handler.transactions[t]? with
      | none => s
      | some transaction =>
        -- the StopTransaction is already queued
        if transaction.finished then
          s.useQueue messageId
            (.addStoppedTransactionId transaction.stopTransactionMessageId transactionId)
        else s
    { s' with websocket := .startNotified call transactionId t, awake := true }
  | .startNotified call transactionId t =>
    { s.useQueue messageId (.notifyStartTransactionHandled call.uniqueId transactionId) with
      websocket := .startReplaced transactionId t }
  | .startReplaced transactionId t =>
    { s with
      handler := s.handler.update t fun transaction =>
        { transaction with transactionId := some transactionId }
      websocket := .idle }
  | .stopReceived call =>
    match s.handler.getTransaction call.uniqueId with
    | none => { s with websocket := .stopLookedUp call }
    | some t =>
      match s.handler.transactions[t]? with
      | none => { s with websocket := .stopLookedUp call }
      | some transaction =>
        { s.executeQueuedAvailabilityChange transaction.connector with
          websocket := .stopLookedUp call }
  | .stopLookedUp call =>
    { s with
      handler := s.handler.eraseStoppedTransaction call.uniqueId
      websocket := .idle }

inductive Input
  /-- `on_transaction_started` and `on_transaction_stopped` begin. -/
  | transactionStarted (connector : ℕ) (internalTransactionId : ℤ)
  | transactionStopped (connector : ℕ)
  | session (env : Env) (registrationAccepted : Bool)
  | sendMeterValue (connector : ℕ) (initiatedByTriggerMessage : Bool)
  | sender (n : ℕ) (env : Env) (registrationAccepted : Bool)
  | receive (env : Env) (received : Received) (transactionId : ℤ)
  | handle
  /-- A conf that is not handled: it is malformed or comes in the wrong connection state. -/
  | abandon
  | worker (env : Env)
  /-- A spurious wake-up, or a notification that comes late: most operations notify after
  they have given up the lock. -/
  | wakeUp
  | pushCall (env : Env) (action : MessageType) (payload : Payload) (stallUntilAccepted : Bool)
  | pushCallAsync (env : Env) (action : MessageType) (payload : Payload)
  | queue (input : MessageQueue.Input MessageType)
  /-- `change_availability_queue[connector] = change`. -/
  | queueAvailabilityChange (connector : ℕ) (change : AvailabilityChange)
  /-- `on_session_stopped`. -/
  | sessionStopped (connector : ℕ)

def abandon : ChargePoint :=
  match s.websocket with
  | .startReceived .. | .stopReceived .. => { s with websocket := .idle }
  | _ => s

def act : Input → ChargePoint
  | .transactionStarted connector internalTransactionId =>
    s.startTransaction messageId connector internalTransactionId
  | .transactionStopped connector => s.stopTransaction messageId connector
  | .session env registrationAccepted => s.sessionStep messageId env registrationAccepted
  | .sendMeterValue connector initiatedByTriggerMessage =>
    s.sendMeterValue messageId connector initiatedByTriggerMessage
  | .sender n env registrationAccepted => s.senderStep messageId n env registrationAccepted
  | .receive env received transactionId => s.receive messageId env received transactionId
  | .handle => s.handleStep messageId
  | .abandon => s.abandon
  | .worker env => s.workerStep messageId env
  | .wakeUp => { s with awake := true }
  | .pushCall env action payload stallUntilAccepted =>
    if ofTransaction action then s
    else s.useQueue messageId (.pushCall env ⟨messageId, action, payload⟩ stallUntilAccepted)
  | .pushCallAsync env action payload =>
    if ofTransaction action then s
    else s.useQueue messageId (.pushCallAsync env ⟨messageId, action, payload⟩)
  | .queue input => if external input then s.useQueue messageId input else s
  | .queueAvailabilityChange connector change =>
    { s with changeAvailabilityQueue := s.changeAvailabilityQueue.insert connector change }
  | .sessionStopped connector => s.executeQueuedAvailabilityChange connector

def step (ids : MessageIds) (s : ChargePoint) (input : Input) : ChargePoint :=
  { s.act (ids.create s.created) input with created := s.created + 1 }

/-- A charge point with `connectors` connectors that has just been started, with nothing left
over from an earlier run. -/
def start (connectors : ℕ) (config : MessageQueueConfig MessageType) : ChargePoint where
  queue := { config := config }
  handler := { activeTransactions := List.replicate (connectors + 1) none }

end ChargePoint
end V16
end Everest.Ocpp
