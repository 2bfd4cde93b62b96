import Everest.Ocpp.PersistedQueue

namespace Everest.Ocpp
open Queues Runs

variable {M : Type} [DecidableEq M] [MessageType M]

/-- Everything that holds between two moves as long as no database call fails. -/
structure Intact (q : Queues M) : Prop where
  sorted : Sorted q
  mirrored : Mirrored q
  owing : Owing q
  normalRows : NormalRows q

def IntactIfOk (q : Queues M) : Prop := DatabaseOk q → Intact q

variable {q : Queues M} {ignore : Bool} {r : DBTransactionMessage M}
    {rows done rest : List (DBTransactionMessage M)} {env : Env}

def readBack (ignore : Bool) (r : DBTransactionMessage M) : Bool :=
  !(ignore && decide (r.messageType = MessageType.securityEventNotification))

lemma readBack_iff :
    readBack ignore r = true ↔
      ¬(ignore = true ∧ r.messageType = MessageType.securityEventNotification) := by
  cases ignore <;> simp [readBack]

variable {queue : QueueType}

lemma loadRow_eq : q.loadRow env ignore queue r =
      if readBack ignore r then q.loadMessage queue r
      else (q.removeRow env queue r.uniqueId).emit (.ignored r) := by
  unfold loadRow
  simp only [readBack_iff]
  split_ifs <;> simp_all

omit [DecidableEq M] [MessageType M] in
lemma loadMessage_log : (q.loadMessage queue r).log = q.log := by
  cases queue <;> rfl

lemma loadRows_suffix (env : Env) (ignore : Bool) (queue : QueueType)
    (rows : List (DBTransactionMessage M)) (q : Queues M) :
    q.log <:+ (rows.foldl (loadRow env ignore queue) q).log := by
  refine loadRows_inv (P := (q.log <:+ ·.log)) queue env q (fun queue r q' h => ?_)
    (fun _ _ htidied h => h.trans htidied.log_suffix) (List.suffix_refl _)
  exact loadMessage_log.symm ▸ h

/-- A row that is ignored is no longer owed. -/
lemma Owing.loadRow (h : Owing q)
    (hr : queue = if isTransactionMessage r.messageType then .transaction else .normal)
    (hok : DatabaseOk (q.loadRow env ignore queue r)) : Owing (q.loadRow env ignore queue r) := by
  rw [loadRow_eq] at hok ⊢
  split_ifs at hok ⊢
  · cases queue <;> exact h
  · rw [removeRow_ok hok.of_emit]
    exact h.settled hr rfl rfl

lemma Owing.loadRows (h : Owing q)
    (hrows : ∀ r ∈ rows, queue = if isTransactionMessage r.messageType then .transaction
      else .normal)
    (hok : DatabaseOk (rows.foldl (Queues.loadRow env ignore queue) q)) :
    Owing (rows.foldl (Queues.loadRow env ignore queue) q) := by
  induction rows generalizing q with
  | nil => exact h
  | cons r rows ih =>
    have hrow := hok.of_suffix (loadRows_suffix env ignore queue rows _)
    exact ih (h.loadRow (hrows r (by simp)) hrow) (fun r hr => hrows r (by simp [hr])) hok

/-- While NORMAL_QUEUE is read, the transaction side is left alone. -/
structure ReadingNormal (rows : List (DBTransactionMessage M)) (q : Queues M) : Prop where
  idle : q.inFlight = none
  empty : q.transactionMessageQueue = []
  table : q.database.transactionQueue = rows
  normal : ∀ m ∈ q.normalMessageQueue, isTransactionMessage m.messageType = false
  normalRows : NormalRows q

lemma ReadingNormal.loadRow (h : ReadingNormal rows q) (env : Env) (ignore : Bool)
    (hr : isTransactionMessage r.messageType = false) :
    ReadingNormal rows (q.loadRow env ignore .normal r) := by
  rw [loadRow_eq]
  split_ifs
  · refine ⟨h.idle, h.empty, h.table, ?_, h.normalRows⟩
    intro m hm
    rcases List.mem_append.1 hm with hm | hm
    · exact h.normal m hm
    · rw [List.mem_singleton.1 hm]
      exact hr
  · have hrows := h.normalRows.removeRow env .normal r.uniqueId
    unfold removeRow at hrows ⊢
    split_ifs at hrows ⊢
    all_goals exact ⟨h.idle, h.empty, h.table, h.normal, hrows⟩

lemma ReadingNormal.loadRows {normalRows : List (DBTransactionMessage M)}
    (h : ReadingNormal rows q) (env : Env) (ignore : Bool)
    (hrows : ∀ r ∈ normalRows, isTransactionMessage r.messageType = false) :
    ReadingNormal rows (normalRows.foldl (Queues.loadRow env ignore .normal) q) := by
  refine List.foldlRecOn normalRows _ h ?_
  exact fun _ h r hr => h.loadRow env ignore (hrows r hr)

/-- While TRANSACTION_QUEUE is read, of which `rest` is still to come, the table holds what is
in the queue and what is to come. -/
structure Reading (ignore : Bool) (done rest : List (DBTransactionMessage M)) (q : Queues M) :
    Prop where
  idle : q.inFlight = none
  sorted : Sorted q
  normalRows : NormalRows q
  restored : q.transactionMessageQueue.map (·.row) = done.filter (readBack ignore)
  mirror : Mirror q.database.transactionQueue
    (q.transactionMessageQueue.map (·.key) ++ rest.map (·.key))
  typed : ∀ r ∈ rest, isTransactionMessage r.messageType = true ∧
    r.jsonMessage.uniqueId = r.uniqueId

lemma Reading.loadRow (h : Reading ignore done (r :: rest) q) (env : Env)
    (hok : DatabaseOk (q.loadRow env ignore .transaction r)) :
    Reading ignore (done ++ [r]) rest (q.loadRow env ignore .transaction r) := by
  have hr := h.typed r (by simp)
  have htyped : ∀ r ∈ rest, isTransactionMessage r.messageType = true ∧
      r.jsonMessage.uniqueId = r.uniqueId := fun r hr => h.typed r (by simp [hr])
  rw [loadRow_eq] at hok ⊢
  split_ifs at hok ⊢ with hread
  · -- the row becomes the last message of the queue
    have hkeys : (q.loadMessage .transaction r).transactionMessageQueue.map (·.key) =
        q.transactionMessageQueue.map (·.key) ++ [r.key] := by
      simp [loadMessage, ControlMessage.key, ControlMessage.make, DBTransactionMessage.key, hr.2]
    refine ⟨h.idle, ⟨?_, h.sorted.normal⟩, h.normalRows, ?_, ?_, htyped⟩
    · intro m hm
      rcases List.mem_append.1 hm with hm | hm
      · exact h.sorted.transaction m hm
      · rw [List.mem_singleton.1 hm]
        exact hr.1
    · have hrow : (q.loadMessage .transaction r).transactionMessageQueue.map (·.row) =
          q.transactionMessageQueue.map (·.row) ++ [r] := by
        simp [loadMessage, ControlMessage.row, ControlMessage.make, ControlMessage.uniqueId,
          hr.2]
      rw [hrow, h.restored]
      simp [hread]
    · rw [hkeys, List.append_assoc]
      exact h.mirror
  · -- the row is deleted
    have hrow := removeRow_ok hok.of_emit
    have hnormalRows : NormalRows ((q.removeRow env .transaction r.uniqueId).emit (.ignored r)) :=
      h.normalRows.removeRow env _ _
    refine ⟨?_, ?_, hnormalRows, ?_, ?_, htyped⟩
    · rw [hrow]
      exact h.idle
    · rw [hrow]
      exact ⟨h.sorted.transaction, h.sorted.normal⟩
    · rw [hrow]
      simpa [hread, emit] using h.restored
    · rw [hrow]
      have hperm : (q.transactionMessageQueue.map (·.key) ++ (r :: rest).map (·.key)).Perm
          ((q.transactionMessageQueue.map (·.key) ++ rest.map (·.key)) ++ [r.key]) := by
        rw [List.append_assoc]
        exact (List.perm_append_singleton r.key _).symm.append_left _
      have hremoved := (h.mirror.perm hperm).remove
      simpa [Database.removeMessageQueueMessage, Database.setTable, Database.table, emit,
        DBTransactionMessage.key, bne, beq_eq_decide] using hremoved

lemma Reading.loadRows (h : Reading ignore done rest q) (env : Env)
    (hok : DatabaseOk (rest.foldl (Queues.loadRow env ignore .transaction) q)) :
    Reading ignore (done ++ rest) [] (rest.foldl (Queues.loadRow env ignore .transaction) q) := by
  induction rest generalizing done q with
  | nil => simpa using h
  | cons r rest ih =>
    have hrow := hok.of_suffix (loadRows_suffix env ignore .transaction rest _)
    have hrest := ih (h.loadRow env hrow) hok
    simpa using hrest

omit [DecidableEq M] in
lemma Intact.transactionRows (h : Intact q) :
    ∀ r ∈ q.database.transactionQueue, isTransactionMessage r.messageType = true := by
  intro r hr
  have hkey : r.key ∈ q.liveKeys := h.mirrored.same.mem_iff.1 (List.mem_map_of_mem hr)
  obtain ⟨m, hm, hmr⟩ := List.mem_map.1 hkey
  have htype : m.messageType = r.messageType := congrArg Prod.snd hmr
  rw [← htype]
  rcases List.mem_append.1 hm with hfly | hqueue
  · exact (List.mem_filter.1 hfly).2
  · exact h.sorted.transaction m hqueue

lemma loadTable_ok (h : DatabaseOk (q.loadTable env ignore queue)) :
    DatabaseOk q ∧ q.loadTable env ignore queue =
      (q.database.table queue).foldl (loadRow env ignore queue) q := by
  unfold loadTable at h ⊢
  split_ifs at h ⊢
  · exact absurd List.mem_cons_self h
  · exact ⟨h.of_suffix (loadRows_suffix env ignore queue _ q), rfl⟩

/-- `r` is a new queue that has read the tables of `q`. -/
structure Reloaded (ignore : Bool) (q r : Queues M) : Prop where
  intact : Intact r
  idle : r.inFlight = none
  restored : r.transactionMessageQueue.map (·.row) =
    q.database.transactionQueue.filter (readBack ignore)

lemma ReadingNormal.reading {q₁ : Queues M} (h : Intact q)
    (hread : ReadingNormal q.database.transactionQueue q₁) :
    Reading ignore [] q.database.transactionQueue q₁ := by
  refine ⟨hread.idle, ⟨by simp [hread.empty], hread.normal⟩, hread.normalRows,
    by simp [hread.empty], ?_, ?_⟩
  · have hmirror : Mirror q.database.transactionQueue (q.database.transactionQueue.map (·.key)) :=
      Mirror.perm h.mirrored h.mirrored.same.symm
    simpa [hread.empty, hread.table] using hmirror
  · exact fun r hr => ⟨h.transactionRows r hr, h.mirrored.ids r hr⟩

lemma Reading.reloaded {q₂ : Queues M} (h : Reading ignore q.database.transactionQueue [] q₂)
    (howing : Owing q₂) : Reloaded ignore q q₂ := by
  refine ⟨⟨h.sorted, ?_, howing, h.normalRows⟩, h.idle, h.restored⟩
  have hmirror := h.mirror
  rw [List.map_nil, List.append_nil, ← liveKeys_idle h.idle] at hmirror
  exact hmirror

omit [DecidableEq M] in
lemma clearNormalTable_intact (h : Intact q) : Intact (q.clearNormalTable env) := by
  unfold clearNormalTable
  split_ifs
  · exact ⟨⟨h.sorted.transaction, h.sorted.normal⟩, h.mirrored, h.owing, h.normalRows⟩
  · exact ⟨⟨h.sorted.transaction, h.sorted.normal⟩, h.mirrored, h.owing, by simp [NormalRows]⟩

variable {config : MessageQueueConfig M}

/-- A new queue that reads the tables of an intact one restores what was to be answered. -/
theorem Intact.reload (h : Intact q) {address : ℕ}
    (hok : DatabaseOk (Queues.getPersistedMessagesFromDb config env ignore
      { database := q.database, nextAddress := address, log := q.log })) :
    Reloaded ignore q (Queues.getPersistedMessagesFromDb config env ignore
      { database := q.database, nextAddress := address, log := q.log }) := by
  set q₀ : Queues M := { database := q.database, nextAddress := address, log := q.log }
  have hok₂ : DatabaseOk ((q₀.loadTable env ignore .normal).loadTable env ignore .transaction) := by
    unfold Queues.getPersistedMessagesFromDb at hok
    split_ifs at hok
    · exact hok
    · exact hok.of_suffix (clearNormalTable_tidied env _).log_suffix
  obtain ⟨hok₁, hload₂⟩ := loadTable_ok hok₂
  obtain ⟨-, hload₁⟩ := loadTable_ok hok₁
  have hstart : ReadingNormal q.database.transactionQueue q₀ :=
    ⟨rfl, rfl, rfl, by simp [q₀], h.normalRows⟩
  have hnorm : ReadingNormal q.database.transactionQueue (q₀.loadTable env ignore .normal) := by
    rw [hload₁]
    exact hstart.loadRows env ignore h.normalRows
  have howing₀ : Owing q₀ := h.owing
  have howing₁ : Owing (q₀.loadTable env ignore .normal) := by
    rw [hload₁] at hok₁ ⊢
    refine howing₀.loadRows (fun r hr => ?_) hok₁
    rw [if_neg (by simp [h.normalRows r hr])]
  have hrel : Reloaded ignore q
      ((q₀.loadTable env ignore .normal).loadTable env ignore .transaction) := by
    have hrows : (q₀.loadTable env ignore .normal).database.table .transaction =
        q.database.transactionQueue := hnorm.table
    rw [hload₂, hrows] at hok₂ ⊢
    refine ((hnorm.reading h).loadRows env hok₂).reloaded (howing₁.loadRows (fun r hr => ?_) hok₂)
    rw [if_pos (h.transactionRows r hr)]
  unfold Queues.getPersistedMessagesFromDb
  split_ifs
  · exact hrel
  · refine ⟨clearNormalTable_intact hrel.intact, ?_, ?_⟩
    · unfold clearNormalTable
      split_ifs <;> exact hrel.idle
    · unfold clearNormalTable
      split_ifs <;> exact hrel.restored

inductive Life (M : Type)
  | operation (input : MessageQueue.Input M)
  | restart (config : MessageQueueConfig M) (env : Env) (ignoreSecurityEventNotifications : Bool)

def lifeStep (s : MessageQueue M) : Life M → MessageQueue M
  | .operation input => s.step input
  | .restart config env ignore => s.restart config env ignore

lemma getPersisted_suffix : q.log <:+ (q.getPersistedMessagesFromDb config env ignore).log := by
  refine getPersistedMessagesFromDb_inv (P := (q.log <:+ ·.log)) config env q
    (fun queue r q' h => ?_) (fun _ _ htidied h => h.trans htidied.log_suffix)
    (List.suffix_refl _)
  exact loadMessage_log.symm ▸ h

lemma IntactIfOk.lifeStep {s : MessageQueue M} (h : IntactIfOk s.toQueues) (life : Life M) :
    IntactIfOk (Everest.Ocpp.lifeStep s life).toQueues := by
  cases life with
  | operation input =>
    refine Moves.inv (fun q q' h move hok => ?_) (MessageQueue.step_moves s input) h
    obtain ⟨hsort, hmirrored, howing, hrows⟩ := h (hok.of_suffix move.log_suffix)
    exact ⟨move.sorted hsort, move.mirrored hsort hmirrored hok, move.owing hsort howing hok,
      move.normalRows hrows⟩
  | restart config env ignore =>
    intro hok
    have hread : DatabaseOk (Queues.getPersistedMessagesFromDb config env ignore
        { database := s.database, nextAddress := s.nextAddress, log := s.log }) := hok
    have hbef : DatabaseOk
        ({ database := s.database, nextAddress := s.nextAddress, log := s.log } : Queues M) :=
      hread.of_suffix getPersisted_suffix
    exact ((h hbef).reload hread).intact

lemma intact_of_lives {lives : List (Life M)} :
    IntactIfOk (run lifeStep { config := config } lives).toQueues := by
  have hstep : ∀ (s : MessageQueue M) (life : Life M),
      IntactIfOk s.toQueues → IntactIfOk (lifeStep s life).toQueues :=
    fun _ life h => h.lifeStep life
  refine run_inv hstep ?_ lives
  intro _
  exact ⟨⟨by simp, by simp⟩, ⟨.refl _, by simp [liveKeys, unanswered], by simp⟩, rfl,
    by simp [NormalRows]⟩

omit [DecidableEq M] in
lemma mem_unanswered {m : ControlMessage M} :
    m ∈ q.unanswered ↔ m ∈ q.transactionMessageQueue ∨
      q.inFlight = some m ∧ isTransactionMessage m.messageType = true := by
  simp only [unanswered, List.mem_append, List.mem_filter, Option.mem_toList]
  exact or_comm

omit [DecidableEq M] in
lemma Intact.mem_ids (h : Intact q) {id : MessageId} :
    id ∈ q.database.transactionQueue.map (·.uniqueId) ↔
      ∃ m, (m ∈ q.transactionMessageQueue ∨
        q.inFlight = some m ∧ isTransactionMessage m.messageType = true) ∧
        m.initialUniqueId = id := by
  rw [h.mirrored.mem_ids]
  simp [liveKeys, ControlMessage.key, ← mem_unanswered]

omit [DecidableEq M] in
lemma Intact.mem_owed (h : Intact q) {id : MessageId} :
    id ∈ (owed q.log).map (·.uniqueId) ↔ id ∈ q.database.transactionQueue.map (·.uniqueId) := by
  rw [h.owing, List.map_map]
  rfl

namespace MessageQueue

def lastAttempt (s : MessageQueue M) (m : ControlMessage M) : Bool :=
  s.config.transactionMessageAttempts ≤ m.messageAttempts

/-- The operation settles the message in flight: it brings the answer, or the last attempt to
send the message has failed. -/
def settles (s : MessageQueue M) (m : ControlMessage M) : Input M → Bool
  | .receive _ received =>
    match received.messageTypeId with
    | .callResult =>
      received.uniqueId = m.uniqueId && (received.payloadIsObject || s.lastAttempt m)
    | .callError => received.uniqueId = m.uniqueId && s.lastAttempt m
    | .call | .unknown => false
  | .inFlightTimeout _ address messageId =>
    address = m.address && messageId = m.uniqueId && s.lastAttempt m
  | .pause _ => s.lastAttempt m
  | _ => false

end MessageQueue

structure Gone (q q' : Queues M) : Prop where
  inFlight : q'.inFlight = none
  queue : q'.transactionMessageQueue = q.transactionMessageQueue

def Stays (m : ControlMessage M) (q' : Queues M) : Prop :=
  q'.inFlight = some m ∨ ∃ m' ∈ q'.transactionMessageQueue, m'.initialUniqueId = m.initialUniqueId

section Flying

variable {m : ControlMessage M} (hm : q.inFlight = some m)
  (htype : isTransactionMessage m.messageType = true)
include hm htype

variable (env config) in
lemma handleTimeoutOrCallerror_flying (value : Resolution) :
    let q' := q.handleTimeoutOrCallerror config env value
    if config.transactionMessageAttempts ≤ m.messageAttempts then Gone q q' else Stays m q' := by
  have hqueue : queueTypeOf m = .transaction := by rw [queueTypeOf, if_pos htype]
  simp only [handleTimeoutOrCallerror, hm, persisted, htype, Bool.true_or, if_true]
  split_ifs with hlast hagain hagain
  · omega
  · obtain ⟨_, _, hframe⟩ := (removeRow_tidied env (queueTypeOf m) m.initialUniqueId
      ((q.settleUnanswered m).emit (.resolved m value))).frame
    rw [giveUp, hframe]
    exact ⟨rfl, rfl⟩
  · refine .inr ⟨retryOf config env m, ?_, rfl⟩
    have hretry : queueTypeOf (retryOf config env m) = .transaction := hqueue
    unfold retry pushFront
    rw [hretry]
    split_ifs <;> exact List.mem_cons_self
  · omega

omit htype in
lemma handleCallResult_flying :
    Gone q (q.handleCallResult config env m.uniqueId) := by
  have hsame : m.uniqueId.iequals m.uniqueId = true := beq_self_eq_true _
  obtain ⟨q₀, htidied, heq⟩ := acknowledge_cases env (persisted config m) m q
  obtain ⟨_, _, hframe⟩ := htidied.frame
  simp only [handleCallResult, hm, hsame, if_true, heq, hframe]
  exact ⟨rfl, rfl⟩

end Flying

namespace MessageQueue

variable {s : MessageQueue M} {m : ControlMessage M}

lemma checkQueueSizes_inFlight (q : Queues M) :
    (q.checkQueueSizes config env).inFlight = q.inFlight := by
  refine checkQueueSizes_inv (P := (·.inFlight = q.inFlight)) config env (fun q' h => ?_)
    (fun q' h => ?_) rfl
  · simpa [dropMessagesFromNormalMessageQueue] using h
  · simpa [dropUpdateMessagesFromTransactionalMessageQueue] using h

lemma addMessage_inFlight (m' : ControlMessage M) :
    (s.addMessage env m').inFlight = s.inFlight := by
  unfold addMessage
  split_ifs
  · obtain ⟨_, _, hframe⟩ := (insertRow_tidied (m := m') env .transaction (q := _)).frame
    rw [addToTransactionMessageQueue, checkQueueSizes_inFlight, enqueueTransaction, hframe]
    rfl
  · obtain ⟨_, _, hframe⟩ := (enqueueNormal_tidied s.config env m' s.toQueues).frame
    rw [addToNormalMessageQueue, checkQueueSizes_inFlight, hframe]
    rfl

variable (hm : s.inFlight = some m) (htype : isTransactionMessage m.messageType = true)
include hm htype

variable (env) in
lemma receiveAnswer_flying (isCallResult : Bool) (uniqueId : MessageId) :
    if uniqueId = m.uniqueId && (isCallResult || s.lastAttempt m) then
      Gone s.toQueues (s.receiveAnswer env isCallResult uniqueId).toQueues
    else Stays m (s.receiveAnswer env isCallResult uniqueId).toQueues := by
  unfold receiveAnswer
  simp only [hm]
  by_cases hid : uniqueId = m.uniqueId
  · subst hid
    cases isCallResult with
    | true => simpa using handleCallResult_flying hm
    | false =>
      have hfailed := handleTimeoutOrCallerror_flying env s.config hm htype .callError
      simpa [lastAttempt] using hfailed
  · have hother : (m.uniqueId != uniqueId) = true := by simpa using Ne.symm hid
    simp only [hid, hother, decide_false, Bool.false_and, Bool.false_eq_true, if_false, if_true]
    exact .inl hm

/-- The message in flight is settled exactly by the operations that are said to settle it. -/
theorem step_flying (input : Input M) :
    if s.settles m input then Gone s.toQueues (s.step input).toQueues
    else Stays m (s.step input).toQueues := by
  have hstays : ∀ s' : MessageQueue M, s'.inFlight = s.inFlight → Stays m s'.toQueues :=
    fun s' h => .inl (h.trans hm)
  have hfailed := fun env => handleTimeoutOrCallerror_flying env s.config hm htype .offline
  cases input with
  | pushCall env call stall =>
    refine hstays _ ?_
    simp only [step, pushCall]
    split_ifs <;> simp [addMessage_inFlight]
  | pushCallAsync env call =>
    refine hstays _ ?_
    simp only [step, pushCallAsync, refuse]
    split_ifs <;> first | rfl | simp [addMessage_inFlight]
  | pushCallResult | pushCallError =>
    refine hstays _ ?_
    simp only [step, pushResponse]
    split_ifs <;> rfl
  | workerIteration env =>
    -- the worker does nothing while a message is in flight
    refine hstays _ ?_
    simp only [step, workerIteration, sendNext, hm]
    split_ifs <;> simp_all [loopTop]
  | idleActionDone | resume | resumeTimer =>
    refine hstays _ ?_
    simp [step]
  | receive env received =>
    have hanswer := fun isCallResult => receiveAnswer_flying env hm htype isCallResult
      received.uniqueId
    cases hid : received.messageTypeId with
    | call =>
      simp only [settles, step, receive, hid, Bool.false_eq_true, if_false]
      split_ifs <;> exact hstays _ rfl
    | unknown =>
      simp only [settles, step, receive, hid, Bool.false_eq_true, if_false]
      exact hstays _ rfl
    | callResult =>
      simpa only [settles, step, receive, hid] using hanswer received.payloadIsObject
    | callError =>
      simpa only [settles, step, receive, hid, Bool.false_or] using hanswer false
  | inFlightTimeout env address messageId =>
    simp only [settles, step, inFlightTimeout, hm]
    by_cases hown : m.address = address ∧ m.uniqueId = messageId
    · obtain ⟨rfl, rfl⟩ := hown
      simpa [lastAttempt] using hfailed env
    · rw [if_neg hown, if_neg (by grind)]
      exact hstays _ rfl
  | pause env => simpa [settles, step, pause, lastAttempt] using hfailed env
  | _ => exact hstays _ rfl

end MessageQueue

/-- Of two calls the first is answered. The second goes out with the id of its transaction,
cannot be sent and waits for its second attempt. -/
def unsentStop : List (Life V16.MessageType) :=
  [.operation (.pushCall {} { uniqueId := "start", action := .startTransaction } false),
    .operation (.pushCall {} { uniqueId := "stop", action := .stopTransaction } false),
    .operation (.resume 0),
    .operation (.workerIteration {}),
    .operation (.receive {} ⟨.callResult, "start", true, true⟩),
    .operation (.addStoppedTransactionId "stop" 7),
    .operation (.workerIteration { newMessageId := "again", sendOk := false })]

end Everest.Ocpp
