import Everest.Lib.Clock
import Mathlib.Data.List.Sort

namespace Everest.Ocpp
open List

abbrev CiString := String

/-- Comparison with `==`; `!=` compares exactly. -/
def CiString.iequals (a b : CiString) : Bool := a.toLower == b.toLower

abbrev MessageId := CiString

inductive TransactionEventEnum
  | ended
  | started
  | updated
deriving DecidableEq, Repr

/-- The parts of a payload that the queue reads or writes: `transactionId` of OCPP 1.6 and
`eventType` of an OCPP 2.x TransactionEvent. -/
structure Payload where
  transactionId : Option ℤ := none
  eventType : Option TransactionEventEnum := none
deriving DecidableEq, Repr

/-- What the queue asks of the message types of one OCPP version. -/
class MessageType (M : Type) where
  bootNotification : M
  securityEventNotification : M
  isTransactionMessage : M → Bool
  isStartTransactionMessage : M → Bool
  isTransactionUpdateMessage : M → Payload → Bool

export MessageType (isTransactionMessage isStartTransactionMessage)

variable {M : Type}

def isBootNotificationMessage [DecidableEq M] [MessageType M] (messageType : M) : Bool :=
  messageType = MessageType.bootNotification

structure Call (M : Type) where
  uniqueId : MessageId
  action : M
  payload : Payload := {}
deriving DecidableEq, Repr

structure ControlMessage (M : Type) where
  /-- Identity of the object that the deques and `in_flight` share. -/
  address : ℕ
  message : Call M
  messageType : M
  messageAttempts : ℕ := 0
  timestamp : ℤ
  initialUniqueId : MessageId
  stallUntilAccepted : Bool := false
deriving DecidableEq, Repr

namespace ControlMessage

def uniqueId (m : ControlMessage M) : MessageId := m.message.uniqueId

def isTransactionUpdateMessage [MessageType M] (m : ControlMessage M) : Bool :=
  MessageType.isTransactionUpdateMessage m.messageType m.message.payload

def make (address : ℕ) (now : ℤ) (call : Call M) (stallUntilAccepted : Bool := false) :
    ControlMessage M where
  address := address
  message := call
  messageType := call.action
  timestamp := now
  initialUniqueId := call.uniqueId
  stallUntilAccepted := stallUntilAccepted

end ControlMessage

structure MessageQueueConfig (M : Type) where
  transactionMessageAttempts : ℤ := 3
  transactionMessageRetryInterval : ℤ := 30
  queuesTotalSizeThreshold : ℤ := 500
  queueAllMessages : Bool := false
  messageTypesDiscardForQueueing : List M := []
  bootNotificationRetryIntervalSeconds : ℤ := 60

def MessageQueueConfig.checkQueue [DecidableEq M] (config : MessageQueueConfig M)
    (messageType : M) : Bool :=
  config.queueAllMessages && !config.messageTypesDiscardForQueueing.contains messageType

/-- The threshold as the `size_t` it is compared with. -/
def MessageQueueConfig.threshold (config : MessageQueueConfig M) : ℕ :=
  (config.queuesTotalSizeThreshold % 2 ^ 64).toNat

inductive QueueType
  | normal
  | transaction
deriving DecidableEq, Repr

def QueueType.all : List QueueType := [.normal, .transaction]

structure DBTransactionMessage (M : Type) where
  jsonMessage : Call M
  messageType : M
  messageAttempts : ℕ
  timestamp : ℤ
  uniqueId : MessageId
deriving DecidableEq, Repr

structure Database (M : Type) where
  normalQueue : List (DBTransactionMessage M) := []
  transactionQueue : List (DBTransactionMessage M) := []
deriving DecidableEq, Repr

namespace Database

def table (db : Database M) : QueueType → List (DBTransactionMessage M)
  | .normal => db.normalQueue
  | .transaction => db.transactionQueue

def setTable (db : Database M) (rows : List (DBTransactionMessage M)) : QueueType → Database M
  | .normal => { db with normalQueue := rows }
  | .transaction => { db with transactionQueue := rows }

/-- UNIQUE_ID is the primary key: inserting a second row with it fails. -/
def insertMessageQueueMessage (db : Database M) (row : DBTransactionMessage M) (queue : QueueType) :
    Option (Database M) :=
  if (db.table queue).any (·.uniqueId == row.uniqueId) then none
  else some (db.setTable (db.table queue ++ [row]) queue)

def removeMessageQueueMessage (db : Database M) (uniqueId : MessageId) (queue : QueueType) :
    Database M :=
  db.setTable ((db.table queue).filter (·.uniqueId != uniqueId)) queue

end Database

def ControlMessage.row (m : ControlMessage M) : DBTransactionMessage M where
  jsonMessage := m.message
  messageType := m.messageType
  messageAttempts := m.messageAttempts
  timestamp := m.timestamp
  uniqueId := m.uniqueId

inductive Resolution
  | callResult
  | callError
  | offline
deriving DecidableEq, Repr

inductive Event (M : Type)
  | pushed (m : ControlMessage M)
  | transmitted (m : ControlMessage M) (sent : Bool)
  /-- A CALLRESULT took the message out of flight. -/
  | answered (m : ControlMessage M)
  /-- A timeout, a CALLERROR, a pause or a failed send took the message out of flight. -/
  | unanswered (m : ControlMessage M)
  | exhausted (m : ControlMessage M) (attempts : ℤ)
  | dropped (m : ControlMessage M)
  | resolved (m : ControlMessage M) (value : Resolution)
  | startTransactionRetried (newMessageId oldMessageId : MessageId)
  | response (uniqueId : MessageId)
  /-- A stored SecurityEventNotification is deleted instead of being read back. -/
  | ignored (row : DBTransactionMessage M)
  | databaseFailed
deriving DecidableEq, Repr

/-- What an operation finds in its surroundings. -/
structure Env where
  now : ℤ := 0
  /-- The id that `create_message_id` returns. -/
  newMessageId : MessageId := ""
  /-- The answer of `send_callback`. -/
  sendOk : Bool := true
  insertFails : Bool := false
  removeFails : MessageId → Bool := fun _ => false
  selectFails : QueueType → Bool := fun _ => false
  clearFails : Bool := false

structure Queues (M : Type) where
  transactionMessageQueue : List (ControlMessage M) := []
  normalMessageQueue : List (ControlMessage M) := []
  inFlight : Option (ControlMessage M) := none
  database : Database M := {}
  nextAddress : ℕ := 0
  /-- Newest event first. -/
  log : List (Event M) := []
deriving DecidableEq, Repr

namespace Queues

def emit (e : Event M) (q : Queues M) : Queues M := { q with log := e :: q.log }

def insertRow (env : Env) (queue : QueueType) (m : ControlMessage M) (q : Queues M) : Queues M :=
  match if env.insertFails then none else q.database.insertMessageQueueMessage m.row queue with
  | some database => { q with database := database }
  | none => q.emit .databaseFailed

def removeRow (env : Env) (queue : QueueType) (uniqueId : MessageId) (q : Queues M) : Queues M :=
  if env.removeFails uniqueId then q.emit .databaseFailed
  else { q with database := q.database.removeMessageQueueMessage uniqueId queue }

variable (env : Env) (queue : QueueType)

/-- The tables have been written and the messages of `gone` dropped, nothing else. -/
inductive Tidied (q : Queues M) : List (ControlMessage M) → Queues M → Prop
  | refl : Tidied q [] q
  | table {gone : List (ControlMessage M)} {q' : Queues M} (database : Database M) :
      Tidied q gone q' → Tidied q gone { q' with database := database }
  | failed {gone : List (ControlMessage M)} {q' : Queues M} :
      Tidied q gone q' → Tidied q gone (q'.emit .databaseFailed)
  | ignored {gone : List (ControlMessage M)} {q' : Queues M} (row : DBTransactionMessage M) :
      Tidied q gone q' → Tidied q gone (q'.emit (.ignored row))
  | dropped {gone : List (ControlMessage M)} {q' : Queues M} (m : ControlMessage M) :
      Tidied q gone q' → Tidied q (gone ++ [m]) (q'.emit (.dropped m))

lemma insertRow_tidied {m : ControlMessage M} {q : Queues M} :
    Tidied q [] (q.insertRow env queue m) := by
  unfold insertRow
  split
  · exact .table _ .refl
  · exact .failed .refl

lemma removeRow_tidied (uniqueId : MessageId) (q : Queues M) :
    Tidied q [] (q.removeRow env queue uniqueId) := by
  unfold removeRow
  split_ifs
  · exact .failed .refl
  · exact .table _ .refl

lemma Tidied.frame {q q' : Queues M} {gone : List (ControlMessage M)} (h : Tidied q gone q') :
    ∃ database log, q' = { q with database := database, log := log } := by
  induction h with
  | refl => exact ⟨_, _, rfl⟩
  | table _ _ ih | failed _ ih | ignored _ _ ih | dropped _ _ ih =>
    obtain ⟨_, _, rfl⟩ := ih
    exact ⟨_, _, rfl⟩

def size (q : Queues M) : ℕ := q.transactionMessageQueue.length + q.normalMessageQueue.length

def discardMessage (env : Env) (queue : QueueType) (persisted : Bool) (q : Queues M)
    (m : ControlMessage M) : Queues M :=
  (if persisted then q.removeRow env queue m.initialUniqueId else q).emit (.dropped m)

def discard (env : Env) (queue : QueueType) (persisted : Bool) (gone : List (ControlMessage M))
    (q : Queues M) : Queues M :=
  gone.foldl (discardMessage env queue persisted) q

lemma Tidied.discard {q q' : Queues M} {before : List (ControlMessage M)}
    (h : Tidied q before q') (persisted : Bool) (gone : List (ControlMessage M)) :
    Tidied q (before ++ gone) (q'.discard env queue persisted gone) := by
  induction gone generalizing before q' with
  | nil => exact (append_nil before).symm ▸ h
  | cons m gone ih =>
    have hm : Tidied q (before ++ [m]) (q'.discardMessage env queue persisted m) := by
      unfold discardMessage removeRow
      split_ifs
      · exact h.failed.dropped m
      · exact (h.table _).dropped m
      · exact h.dropped m
    rw [append_cons]
    exact ih hm

lemma discard_tidied (persisted : Bool) (gone : List (ControlMessage M)) (q : Queues M) :
    Tidied q gone (q.discard env queue persisted gone) :=
  Tidied.refl.discard env queue persisted gone

@[simp] lemma discard_transactionMessageQueue (persisted : Bool) (gone : List (ControlMessage M))
    (q : Queues M) :
    (q.discard env queue persisted gone).transactionMessageQueue = q.transactionMessageQueue := by
  obtain ⟨_, _, h⟩ := (discard_tidied env queue persisted gone q).frame
  rw [h]

@[simp] lemma discard_normalMessageQueue (persisted : Bool) (gone : List (ControlMessage M))
    (q : Queues M) :
    (q.discard env queue persisted gone).normalMessageQueue = q.normalMessageQueue := by
  obtain ⟨_, _, h⟩ := (discard_tidied env queue persisted gone q).frame
  rw [h]

@[simp] lemma discard_inFlight (persisted : Bool) (gone : List (ControlMessage M))
    (q : Queues M) : (q.discard env queue persisted gone).inFlight = q.inFlight := by
  obtain ⟨_, _, h⟩ := (discard_tidied env queue persisted gone q).frame
  rw [h]

variable [DecidableEq M] [MessageType M] (config : MessageQueueConfig M) (env : Env)
  (m : ControlMessage M) (q : Queues M)

/-- The first `n` messages that are no BootNotification are taken out: what stays, what goes. -/
def splitNormal : ℕ → List (ControlMessage M) → List (ControlMessage M) × List (ControlMessage M)
  | 0, queue => (queue, [])
  | _, [] => ([], [])
  | n + 1, m :: queue =>
    if isBootNotificationMessage m.messageType then
      let (kept, gone) := splitNormal (n + 1) queue
      (m :: kept, gone)
    else
      let (kept, gone) := splitNormal n queue
      (kept, m :: gone)

def numberOfDroppedMessages : ℕ :=
  min q.normalMessageQueue.length (max (config.queuesTotalSizeThreshold.tdiv 10) 1).toNat

def dropMessagesFromNormalMessageQueue : Queues M :=
  let (kept, gone) := splitNormal (q.numberOfDroppedMessages config) q.normalMessageQueue
  { q with normalMessageQueue := kept }.discard env .normal config.queueAllMessages gone

/-- Every second update message goes, but neither of the last two messages. -/
def splitUpdates (removeNext : Bool) :
    List (ControlMessage M) → List (ControlMessage M) × List (ControlMessage M)
  | [] => ([], [])
  | m :: queue =>
    if removeNext && m.isTransactionUpdateMessage && decide (1 < queue.length) then
      let (kept, gone) := splitUpdates false queue
      (kept, m :: gone)
    else
      let (kept, gone) := splitUpdates true queue
      (m :: kept, gone)

def dropUpdateMessagesFromTransactionalMessageQueue : Queues M × Bool :=
  let (kept, gone) := splitUpdates true q.transactionMessageQueue
  ({ q with transactionMessageQueue := kept }.discard env .transaction true gone, !gone.isEmpty)

/-- What stays and what goes of a list, each in its order, where only some values can go. -/
inductive Split {α : Type*} (canGo : α → Prop) : List α → List α → List α → Prop
  | rest (xs : List α) : Split canGo xs xs []
  | keep {xs kept gone : List α} (a : α) (h : Split canGo xs kept gone) :
    Split canGo (a :: xs) (a :: kept) gone
  | drop {xs kept gone : List α} {a : α} (ha : canGo a) (h : Split canGo xs kept gone) :
    Split canGo (a :: xs) kept (a :: gone)

section Split

variable {α : Type*} {canGo : α → Prop} {xs kept gone : List α}

lemma Split.perm (h : Split canGo xs kept gone) : xs.Perm (kept ++ gone) := by
  induction h with
  | rest xs => simp
  | keep a _ ih => exact ih.cons a
  | drop _ _ ih => exact (ih.cons _).trans perm_middle.symm

lemma Split.sublist (h : Split canGo xs kept gone) : kept.Sublist xs := by
  induction h with
  | rest xs => exact List.Sublist.refl xs
  | keep a _ ih => exact ih.cons_cons a
  | drop _ _ ih => exact ih.cons _

lemma Split.filter {p : α → Bool} (h : Split (p · = false) xs kept gone) :
    kept.filter p = xs.filter p := by
  induction h with
  | rest xs => rfl
  | keep a _ ih => rw [filter_cons, filter_cons, ih]
  | drop ha _ ih => simpa [filter_cons, ha] using ih

end Split

lemma splitNormal_split (n : ℕ) (queue : List (ControlMessage M)) :
    Split (isBootNotificationMessage ·.messageType = false) queue (splitNormal n queue).1
      (splitNormal n queue).2 := by
  fun_induction splitNormal n queue with
  | case1 | case2 => exact .rest _
  | case3 n m queue hboot kept gone heq ih =>
    rw [heq] at ih
    exact ih.keep m
  | case4 n m queue hboot kept gone heq ih =>
    rw [heq] at ih
    exact ih.drop (Bool.eq_false_of_not_eq_true hboot)

omit [DecidableEq M] in
lemma splitUpdates_split (removeNext : Bool) (queue : List (ControlMessage M)) :
    Split (fun m => (!m.isTransactionUpdateMessage) = false) queue (splitUpdates removeNext queue).1
      (splitUpdates removeNext queue).2 := by
  fun_induction splitUpdates removeNext queue with
  | case1 => exact .rest _
  | case2 removeNext m queue hdrop kept gone heq ih =>
    rw [heq] at ih
    exact ih.drop (by simp_all)
  | case3 removeNext m queue hkeep kept gone heq ih =>
    rw [heq] at ih
    exact ih.keep m

lemma dropMessages_length_le (q : Queues M) :
    (q.dropMessagesFromNormalMessageQueue config env).normalMessageQueue.length ≤
      q.normalMessageQueue.length := by
  have h := (splitNormal_split (q.numberOfDroppedMessages config)
    q.normalMessageQueue).perm.length_eq
  rw [length_append] at h
  simp only [dropMessagesFromNormalMessageQueue, discard_normalMessageQueue]
  omega

omit [DecidableEq M] in
lemma dropUpdates_length_lt (q : Queues M)
    (h : (q.dropUpdateMessagesFromTransactionalMessageQueue env).2 = true) :
    (q.dropUpdateMessagesFromTransactionalMessageQueue env).1.transactionMessageQueue.length <
      q.transactionMessageQueue.length := by
  have hlen := (splitUpdates_split true q.transactionMessageQueue).perm.length_eq
  rw [length_append] at hlen
  simp only [dropUpdateMessagesFromTransactionalMessageQueue, Bool.not_eq_true',
    isEmpty_eq_false_iff] at h
  have hpos := length_pos_iff.2 h
  simp only [dropUpdateMessagesFromTransactionalMessageQueue, discard_transactionMessageQueue]
  omega

def dropNormalLoop (config : MessageQueueConfig M) (env : Env) (q : Queues M) : Queues M :=
  if config.threshold < q.size ∧ q.normalMessageQueue ≠ [] then
    if (q.dropMessagesFromNormalMessageQueue config env).normalMessageQueue.length =
        q.normalMessageQueue.length then
      q.dropMessagesFromNormalMessageQueue config env
    else dropNormalLoop config env (q.dropMessagesFromNormalMessageQueue config env)
  else q
termination_by q.normalMessageQueue.length
decreasing_by
  have := dropMessages_length_le config env q
  omega

def dropUpdateLoop (config : MessageQueueConfig M) (env : Env) (q : Queues M) : Queues M :=
  if config.threshold < q.size then
    if (q.dropUpdateMessagesFromTransactionalMessageQueue env).2 = true then
      dropUpdateLoop config env (q.dropUpdateMessagesFromTransactionalMessageQueue env).1
    else (q.dropUpdateMessagesFromTransactionalMessageQueue env).1
  else q
termination_by q.transactionMessageQueue.length
decreasing_by exact dropUpdates_length_lt env q ‹_›

def checkQueueSizes : Queues M :=
  if q.size ≤ config.threshold then q
  else dropUpdateLoop config env (dropNormalLoop config env q)

/-- What is kept whenever messages are dropped is kept by `check_queue_sizes`. -/
theorem checkQueueSizes_inv {P : Queues M → Prop} {q : Queues M}
    (hnorm : ∀ q : Queues M, P q → P (q.dropMessagesFromNormalMessageQueue config env))
    (hupdates : ∀ q : Queues M, P q → P (q.dropUpdateMessagesFromTransactionalMessageQueue env).1)
    (h : P q) : P (q.checkQueueSizes config env) := by
  have hfirst : ∀ q : Queues M, P q → P (dropNormalLoop config env q) := by
    intro q hq
    fun_induction dropNormalLoop config env q with
    | case1 q => exact hnorm q hq
    | case2 q hover hless ih => exact ih (hnorm q hq)
    | case3 => exact hq
  have hsecond : ∀ q : Queues M, P q → P (dropUpdateLoop config env q) := by
    intro q hq
    fun_induction dropUpdateLoop config env q with
    | case1 q hover hdropped ih => exact ih (hupdates q hq)
    | case2 q => exact hupdates q hq
    | case3 => exact hq
  unfold checkQueueSizes
  split_ifs
  · exact h
  · exact hsecond _ (hfirst _ h)

def addToNormal (queue : List (ControlMessage M)) : List (ControlMessage M) :=
  if isBootNotificationMessage m.messageType then m :: queue else queue ++ [m]

lemma addToNormal_perm {queue : List (ControlMessage M)} :
    (addToNormal m queue).Perm (m :: queue) := by
  unfold addToNormal
  split_ifs
  · exact .refl _
  · exact perm_append_singleton _ _

/-- The message in its deque, before it is written to the table. -/
def joinNormal : Queues M :=
  { q with
    normalMessageQueue := addToNormal m q.normalMessageQueue
    nextAddress := q.nextAddress + 1 }.emit (.pushed m)

/-- A new message enters its deque and its table. -/
def enqueueNormal : Queues M :=
  let q := q.joinNormal m
  if config.checkQueue m.messageType then q.insertRow env .normal m else q

lemma enqueueNormal_tidied : Tidied (q.joinNormal m) [] (q.enqueueNormal config env m) := by
  unfold enqueueNormal
  split_ifs
  · exact insertRow_tidied env .normal
  · exact .refl

def enqueueTransaction : Queues M :=
  ({ q with
    transactionMessageQueue := q.transactionMessageQueue ++ [m]
    nextAddress := q.nextAddress + 1 }.emit (.pushed m)).insertRow env .transaction m

def addToNormalMessageQueue : Queues M :=
  (q.enqueueNormal config env m).checkQueueSizes config env

def addToTransactionMessageQueue : Queues M :=
  (q.enqueueTransaction env m).checkQueueSizes config env

def queueTypeOf : QueueType :=
  if isTransactionMessage m.messageType then .transaction else .normal

def persisted : Bool :=
  isTransactionMessage m.messageType || config.checkQueue m.messageType

def retryOf : ControlMessage M :=
  { m with
    message := { m.message with uniqueId := env.newMessageId }
    timestamp :=
      if 0 < config.transactionMessageRetryInterval then
        m.timestamp + seconds config.transactionMessageRetryInterval * m.messageAttempts
      else env.now }

def pushFront : Queues M :=
  match queueTypeOf m with
  | .transaction => { q with transactionMessageQueue := m :: q.transactionMessageQueue }
  | .normal => { q with normalMessageQueue := m :: q.normalMessageQueue }

def retry : Queues M :=
  let q := q.pushFront (retryOf config env m)
  if isStartTransactionMessage m.messageType then
    q.emit (.startTransactionRetried env.newMessageId m.uniqueId)
  else q

/-- All attempts are used up: the message leaves the queue and its table. -/
def giveUp (value : Resolution) (q : Queues M) : Queues M :=
  ((q.emit (.resolved m value)).removeRow env (queueTypeOf m) m.initialUniqueId).emit
    (.exhausted m config.transactionMessageAttempts)

def bootRetryOf : ControlMessage M :=
  { m with
    message := { m.message with uniqueId := env.newMessageId }
    timestamp := m.timestamp + seconds config.bootNotificationRetryIntervalSeconds }

/-- The message in flight is no longer waited for. Nothing that the source does between this
and `reset_in_flight` reads `in_flight` again. -/
def settleUnanswered : Queues M :=
  { q with inFlight := none }.emit (.unanswered m)

/-- `value` is `callError` after a CALLERROR and `offline` after a timeout. -/
def handleTimeoutOrCallerror (value : Resolution) (q : Queues M) : Queues M :=
  match q.inFlight with
  | none => q
  | some m =>
    let q := q.settleUnanswered m
    if persisted config m then
      if (m.messageAttempts : ℤ) < config.transactionMessageAttempts then q.retry config env m
      else q.giveUp config env m value
    else if isBootNotificationMessage m.messageType then
      { q with normalMessageQueue := bootRetryOf config env m :: q.normalMessageQueue }
    else q.emit (.resolved m value)

def acknowledge (remove : Bool) (m : ControlMessage M) (q : Queues M) : Queues M :=
  let q := { q with inFlight := none }.emit (.resolved m .callResult)
  let q := if remove then q.removeRow env (queueTypeOf m) m.initialUniqueId else q
  q.emit (.answered m)

omit [DecidableEq M] in
lemma acknowledge_cases (remove : Bool) (m : ControlMessage M) (q : Queues M) :
    ∃ q₀, Tidied ({ q with inFlight := none }.emit (.resolved m .callResult)) [] q₀ ∧
      q.acknowledge env remove m = q₀.emit (.answered m) := by
  unfold acknowledge
  split_ifs
  · exact ⟨_, removeRow_tidied env _ _ _, rfl⟩
  · exact ⟨_, .refl, rfl⟩

def handleCallResult (uniqueId : MessageId) (q : Queues M) : Queues M :=
  match q.inFlight with
  | none => q
  | some m =>
    if m.uniqueId.iequals uniqueId then q.acknowledge env (persisted config m) m else q

def loadMessage (queue : QueueType) (row : DBTransactionMessage M) (q : Queues M) : Queues M :=
  let m := { ControlMessage.make q.nextAddress row.timestamp row.jsonMessage true with
    messageType := row.messageType
    messageAttempts := row.messageAttempts }
  let q := { q with nextAddress := q.nextAddress + 1 }
  match queue with
  | .normal => { q with normalMessageQueue := q.normalMessageQueue ++ [m] }
  | .transaction => { q with transactionMessageQueue := q.transactionMessageQueue ++ [m] }

def loadRow (ignoreSecurityEventNotifications : Bool) (queue : QueueType) (q : Queues M)
    (row : DBTransactionMessage M) : Queues M :=
  if ignoreSecurityEventNotifications ∧ row.messageType = MessageType.securityEventNotification
  then (q.removeRow env queue row.uniqueId).emit (.ignored row)
  else q.loadMessage queue row

def loadTable (ignoreSecurityEventNotifications : Bool) (queue : QueueType) (q : Queues M) :
    Queues M :=
  if env.selectFails queue then q.emit .databaseFailed
  else (q.database.table queue).foldl (loadRow env ignoreSecurityEventNotifications queue) q

def clearNormalTable : Queues M :=
  if env.clearFails then q.emit .databaseFailed
  else { q with database := { q.database with normalQueue := [] } }

def getPersistedMessagesFromDb (ignoreSecurityEventNotifications : Bool) (q : Queues M) :
    Queues M :=
  let q := q.loadTable env ignoreSecurityEventNotifications .normal
  let q := q.loadTable env ignoreSecurityEventNotifications .transaction
  if config.queueAllMessages then q else q.clearNormalTable env

omit [DecidableEq M] [MessageType M] in
lemma clearNormalTable_tidied : Tidied q [] (q.clearNormalTable env) := by
  unfold clearNormalTable
  split_ifs
  · exact .failed .refl
  · exact .table _ .refl

section

variable {P : Queues M → Prop} (hload : ∀ queue row q, P q → P (q.loadMessage queue row))
  (htidied : ∀ q q', Tidied q [] q' → P q → P q')
include hload htidied

lemma loadRows_inv {ignore : Bool} {rows : List (DBTransactionMessage M)} (h : P q) :
    P (rows.foldl (loadRow env ignore queue) q) := by
  refine foldlRecOn rows _ h fun q h row _ => ?_
  unfold loadRow
  split_ifs
  · exact htidied _ _ ((removeRow_tidied env queue row.uniqueId q).ignored row) h
  · exact hload queue row q h

lemma getPersistedMessagesFromDb_inv {ignore : Bool} (h : P q) :
    P (q.getPersistedMessagesFromDb config env ignore) := by
  have htable : ∀ queue q, P q → P (q.loadTable env ignore queue) := by
    intro queue q h
    unfold loadTable
    split_ifs
    · exact htidied _ _ (.failed .refl) h
    · exact loadRows_inv queue env q hload htidied h
  have htables := htable .transaction _ (htable .normal q h)
  unfold getPersistedMessagesFromDb
  split_ifs
  · exact htables
  · exact htidied _ _ (clearNormalTable_tidied env _) htables

end

end Queues

end Everest.Ocpp
