import Everest.Lib.Runs
import Everest.Ocpp.Queues

/- The OCPP message queue with its worker thread. Every operation runs under
`message_mutex`, so an interleaving of the threads and timers is a list of operations. -/

namespace Everest.Ocpp

variable {M : Type}

inductive Worker
  /-- In `cv.wait` at the top of the loop. -/
  | waiting
  /-- Running an idle action, without the lock. -/
  | idleAction (pausedForAction : Bool) (pauseResumeCtrBefore : ℕ)
  | stopped
deriving DecidableEq, Repr

structure MessageQueue (M : Type) extends Queues M where
  config : MessageQueueConfig M := {}
  paused : Bool := true
  resuming : Bool := false
  /-- Number of the actions that wait for an idle queue. -/
  idleActions : ℕ := 0
  running : Bool := true
  newMessage : Bool := false
  isRegistrationStatusAccepted : Bool := false
  nextMessageToSend : Option MessageId := none
  pauseResumeCtr : ℕ := 0
  messageIdTransactionIdMap : List (MessageId × ℤ) := []
  startTransactionMidMeterValuesMidMap : List (MessageId × List MessageId) := []
  worker : Worker := .waiting

inductive MessageTypeId
  | call
  | callResult
  | callError
  | unknown
deriving DecidableEq, Repr

structure Received where
  messageTypeId : MessageTypeId
  uniqueId : MessageId
  /-- `string_to_messagetype` knows the action of a CALL. -/
  knownAction : Bool := true
  payloadIsObject : Bool := true
deriving DecidableEq, Repr

namespace MessageQueue

variable [DecidableEq M] [MessageType M] (env : Env) (now : ℤ) (s : MessageQueue M)
  (m : ControlMessage M)

def pause : MessageQueue M :=
  { s with
    pauseResumeCtr := s.pauseResumeCtr + 1
    paused := true
    resuming := false
    toQueues := s.toQueues.handleTimeoutOrCallerror s.config env .offline }

def resumeNow (expected : ℕ) (s : MessageQueue M) : MessageQueue M :=
  if s.pauseResumeCtr = expected then { s with paused := false, resuming := false } else s

def resume (delayOnReconnect : ℤ) (s : MessageQueue M) : MessageQueue M :=
  if !s.paused then s
  else
    let s := { s with pauseResumeCtr := s.pauseResumeCtr + 1 }
    if 1 < s.pauseResumeCtr ∧ 0 < delayOnReconnect then { s with resuming := true }
    else s.resumeNow s.pauseResumeCtr

/-- The predicate of `cv.wait`. -/
def wakeUp : Bool :=
  !s.running || (decide (0 < s.idleActions) && s.inFlight.isNone) ||
    (!s.paused && s.newMessage && s.inFlight.isNone)

def allowedToSendMessage (time : ℤ) (accepted : Bool) : Bool :=
  !(m.stallUntilAccepted && !accepted) && !decide (time < m.timestamp)

def isTransactionMessageAvailable (accepted : Bool) (normal : Option (ControlMessage M))
    (m : ControlMessage M) : Bool :=
  allowedToSendMessage m now accepted &&
    match normal with
    | none => true
    | some n => !isBootNotificationMessage n.messageType && decide (m.timestamp ≤ n.timestamp)

def selectMessage : Option (ControlMessage M × QueueType) :=
  let accepted := s.isRegistrationStatusAccepted
  let normal := s.normalMessageQueue.find? (allowedToSendMessage · now accepted)
  match s.transactionMessageQueue with
  | m :: _ =>
    if isTransactionMessageAvailable now accepted normal m then some (m, .transaction)
    else normal.map (·, .normal)
  | [] => normal.map (·, .normal)

def eraseSelected (queue : QueueType) (s : MessageQueue M) : Queues M :=
  match queue with
  | .normal =>
    { s.toQueues with
      normalMessageQueue := s.normalMessageQueue.eraseP
        (allowedToSendMessage · now s.isRegistrationStatusAccepted) }
  | .transaction =>
    { s.toQueues with transactionMessageQueue := s.transactionMessageQueue.tail }

def replaceTransactionId : ControlMessage M :=
  match s.messageIdTransactionIdMap.lookup m.uniqueId with
  | none => m
  | some transactionId =>
    { m with message := { m.message with
      payload := { m.message.payload with transactionId := some transactionId } } }

def outgoing : ControlMessage M :=
  s.replaceTransactionId { m with messageAttempts := m.messageAttempts + 1 }

def transmit (queue : QueueType) (s : MessageQueue M) : MessageQueue M :=
  let out := s.outgoing m
  let q := { s.eraseSelected env.now queue with inFlight := some out }.emit
    (.transmitted out env.sendOk)
  let q := if env.sendOk then q else q.handleTimeoutOrCallerror s.config env .offline
  { s with
    toQueues := q
    messageIdTransactionIdMap := s.messageIdTransactionIdMap.filter (·.1 != m.uniqueId)
    newMessage := s.newMessage &&
      !(q.transactionMessageQueue.isEmpty && q.normalMessageQueue.isEmpty) }

/-- The response to a received CALL is still to be sent. -/
def heldBack : Bool :=
  match s.nextMessageToSend with
  | none => false
  | some uniqueId => uniqueId != m.uniqueId

def sendNext : MessageQueue M :=
  if s.paused || s.inFlight.isSome then s
  else
    match s.selectMessage env.now with
    | none => { s with newMessage := false }
    | some (m, queue) => if s.heldBack m then s else s.transmit env m queue

def startIdleAction : MessageQueue M :=
  let pausedForAction := !s.paused
  let s := { s with idleActions := s.idleActions - 1 }
  let s := if pausedForAction then s.pause env else s
  { s with worker := .idleAction pausedForAction s.pauseResumeCtr }

def loopTop : MessageQueue M :=
  { s with worker := if s.running then .waiting else .stopped }

def workerIteration : MessageQueue M :=
  if s.worker = .waiting ∧ s.wakeUp then
    if s.running && decide (0 < s.idleActions) && s.inFlight.isNone then s.startIdleAction env
    else (s.sendNext env).loopTop
  else s

def idleActionDone (stillConnected : Bool) (s : MessageQueue M) : MessageQueue M :=
  match s.worker with
  | .idleAction pausedForAction before =>
    if pausedForAction && stillConnected && decide (before = s.pauseResumeCtr) then
      (s.resume 0).loopTop
    else s.loopTop
  | _ => s

def addMessage (s : MessageQueue M) : MessageQueue M :=
  if isTransactionMessage m.messageType then
    { s with
      toQueues := s.toQueues.addToTransactionMessageQueue s.config env m
      newMessage := true }
  else
    { s with toQueues := s.toQueues.addToNormalMessageQueue s.config env m, newMessage := true }

def pushCall (call : Call M) (stallUntilAccepted : Bool) (s : MessageQueue M) : MessageQueue M :=
  if !s.running then s
  else
    let m := ControlMessage.make s.nextAddress env.now call stallUntilAccepted
    if isTransactionMessage m.messageType || !s.paused || s.resuming || m.stallUntilAccepted ||
        s.config.checkQueue m.messageType || isBootNotificationMessage m.messageType then
      s.addMessage env m
    else s

def refuse (s : MessageQueue M) : MessageQueue M :=
  { s with
    toQueues := { s.toQueues with nextAddress := s.nextAddress + 1 }.emit (.resolved m .offline) }

def pushCallAsync (call : Call M) (s : MessageQueue M) : MessageQueue M :=
  let m := ControlMessage.make s.nextAddress env.now call
  if !s.running then s.refuse m
  else if isTransactionMessage m.messageType then s.addMessage env m
  else if s.paused && !s.config.checkQueue m.messageType && !s.resuming &&
      !isBootNotificationMessage m.messageType then
    s.refuse m
  else s.addMessage env m

def pushResponse (uniqueId : MessageId) (s : MessageQueue M) : MessageQueue M :=
  if !s.running then s
  else
    { s with
      toQueues := s.toQueues.emit (.response uniqueId)
      nextMessageToSend := s.nextMessageToSend.filter (!·.iequals uniqueId) }

def receiveAnswer (isCallResult : Bool) (uniqueId : MessageId) (s : MessageQueue M) :
    MessageQueue M :=
  let s := { s with nextMessageToSend := none }
  match s.inFlight with
  | none => s
  | some m =>
    if m.uniqueId != uniqueId then s
    else if isCallResult then
      { s with toQueues := s.toQueues.handleCallResult s.config env uniqueId }
    else { s with toQueues := s.toQueues.handleTimeoutOrCallerror s.config env .callError }

def receive (received : Received) (s : MessageQueue M) : MessageQueue M :=
  match received.messageTypeId with
  | .call =>
    if received.knownAction then { s with nextMessageToSend := some received.uniqueId } else s
  -- a CALLRESULT without an object as payload is treated as a CALLERROR
  | .callResult => s.receiveAnswer env received.payloadIsObject received.uniqueId
  | .callError => s.receiveAnswer env false received.uniqueId
  | .unknown => s

/-- The callback of `in_flight_timeout_timer`, armed for this message under this id. -/
def inFlightTimeout (address : ℕ) (messageId : MessageId) (s : MessageQueue M) : MessageQueue M :=
  match s.inFlight with
  | none => s
  | some m =>
    if m.address = address ∧ m.uniqueId = messageId then
      { s with toQueues := s.toQueues.handleTimeoutOrCallerror s.config env .offline }
    else s

def addMeterValueMessageId (startTransactionMessageId meterValueMessageId : MessageId)
    (s : MessageQueue M) : MessageQueue M :=
  let known := (s.startTransactionMidMeterValuesMidMap.lookup startTransactionMessageId).getD []
  { s with startTransactionMidMeterValuesMidMap :=
    (startTransactionMessageId, known ++ [meterValueMessageId]) ::
      s.startTransactionMidMeterValuesMidMap.filter (·.1 != startTransactionMessageId) }

/-- The transaction id enters the MeterValues whose ids are listed. -/
def addTransactionId (meterValueMessageIds : List MessageId) (transactionId : ℤ)
    (m : ControlMessage M) : ControlMessage M :=
  if meterValueMessageIds.contains m.uniqueId then
    { m with message := { m.message with
      payload := { m.message.payload with transactionId := some transactionId } } }
  else m

def notifyStartTransactionHandled (startTransactionMessageId : MessageId) (transactionId : ℤ)
    (s : MessageQueue M) : MessageQueue M :=
  let ids := (s.startTransactionMidMeterValuesMidMap.lookup startTransactionMessageId).getD []
  { s with
    transactionMessageQueue := s.transactionMessageQueue.map (addTransactionId ids transactionId)
    startTransactionMidMeterValuesMidMap :=
      s.startTransactionMidMeterValuesMidMap.filter (·.1 != startTransactionMessageId) }

/-- The operations of the threads and timers that use the queue. A timer may fire late, so
its callbacks may come at any time and with any of the values it was armed with. -/
inductive Input (M : Type)
  | pushCall (env : Env) (call : Call M) (stallUntilAccepted : Bool)
  | pushCallAsync (env : Env) (call : Call M)
  | pushCallResult (uniqueId : MessageId)
  | pushCallError (uniqueId : MessageId)
  | resetNextMessageToSend
  | workerIteration (env : Env)
  | idleActionDone (stillConnected : Bool)
  | receive (env : Env) (received : Received)
  | inFlightTimeout (env : Env) (address : ℕ) (messageId : MessageId)
  | notifyQueueTimer
  | pause (env : Env)
  | resume (delayOnReconnect : ℤ)
  | resumeTimer (expectedPauseResumeCtr : ℕ)
  | runWhenIdle
  | setRegistrationStatusAccepted
  | stop
  | addStoppedTransactionId (stopTransactionMessageId : MessageId) (transactionId : ℤ)
  | addMeterValueMessageId (startTransactionMessageId meterValueMessageId : MessageId)
  | notifyStartTransactionHandled (startTransactionMessageId : MessageId) (transactionId : ℤ)
  | updateTransactionMessageAttempts (attempts : ℤ)
  | updateTransactionMessageRetryInterval (interval : ℤ)

def step : Input M → MessageQueue M
  | .pushCall env call stallUntilAccepted => s.pushCall env call stallUntilAccepted
  | .pushCallAsync env call => s.pushCallAsync env call
  | .pushCallResult uniqueId => s.pushResponse uniqueId
  | .pushCallError uniqueId => s.pushResponse uniqueId
  | .resetNextMessageToSend => { s with nextMessageToSend := none }
  | .workerIteration env => s.workerIteration env
  | .idleActionDone stillConnected => s.idleActionDone stillConnected
  | .receive env received => s.receive env received
  | .inFlightTimeout env address messageId => s.inFlightTimeout env address messageId
  | .notifyQueueTimer => { s with newMessage := true }
  | .pause env => s.pause env
  | .resume delayOnReconnect => s.resume delayOnReconnect
  | .resumeTimer expected => s.resumeNow expected
  | .runWhenIdle => { s with idleActions := s.idleActions + 1 }
  | .setRegistrationStatusAccepted =>
    { s with isRegistrationStatusAccepted := true, newMessage := true }
  | .stop => { s with running := false, idleActions := 0 }
  | .addStoppedTransactionId messageId transactionId =>
    { s with messageIdTransactionIdMap := (messageId, transactionId) ::
      s.messageIdTransactionIdMap.filter (·.1 != messageId) }
  | .addMeterValueMessageId start meterValue => s.addMeterValueMessageId start meterValue
  | .notifyStartTransactionHandled start transactionId =>
    s.notifyStartTransactionHandled start transactionId
  | .updateTransactionMessageAttempts attempts =>
    { s with config := { s.config with transactionMessageAttempts := attempts } }
  | .updateTransactionMessageRetryInterval interval =>
    { s with config := { s.config with transactionMessageRetryInterval := interval } }

/-- The process ends at some point between two operations, whatever the reason, and a new
queue reads the tables. -/
def restart (config : MessageQueueConfig M) (env : Env) (ignoreSecurityEventNotifications : Bool)
    (s : MessageQueue M) : MessageQueue M :=
  let q : Queues M := { database := s.database, nextAddress := s.nextAddress, log := s.log }
  { toQueues := q.getPersistedMessagesFromDb config env ignoreSecurityEventNotifications
    config := config
    newMessage := QueueType.all.any fun queue =>
      !env.selectFails queue && !(s.database.table queue).isEmpty }

end MessageQueue
end Everest.Ocpp
