import Everest.Ocpp.ChargePointSteps

namespace Everest.Ocpp.V16
open Runs Queues TransactionHandler List

def SessionThread.stopping : SessionThread → Option (ℕ × ℕ × MessageId)
  | .stopPrepared connector t messageId _ | .stopDispatched connector t messageId
  | .stopFinished connector t messageId | .stopRecorded connector t messageId =>
    some (connector, t, messageId)
  | _ => none

namespace TransactionHandler

variable {h : TransactionHandler} {t : ℕ}

/-- What the transactions know about where and under which id they stopped. -/
def stops (h : TransactionHandler) : List (ℕ × MessageId) :=
  h.transactions.map fun transaction =>
    (transaction.connector, transaction.stopTransactionMessageId)

lemma update_stops {f : Transaction → Transaction} (hf : ∀ transaction,
      (f transaction).connector = transaction.connector ∧
        (f transaction).stopTransactionMessageId = transaction.stopTransactionMessageId) :
    (h.update t f).stops = h.stops :=
  ChargePoint.map_modify (fun transaction => Prod.ext (hf transaction).1 (hf transaction).2) _ _

end TransactionHandler

namespace ChargePoint

variable {ids : MessageIds} {bound : ℕ} {s s' : ChargePoint}

/-- Where the transactions with a StopTransaction are. -/
structure Stops (s : ChargePoint) : Prop where
  active : ∀ connector t, s.handler.activeTransaction connector = some t →
    ∃ messageId, s.handler.stops[t]? = some (connector, messageId)
  stopping : ∀ connector t messageId, s.session.stopping = some (connector, t, messageId) →
    s.handler.activeTransaction connector = some t
  unique : ∀ connector t messageId, s.handler.activeTransaction connector = some t →
    (messageId, .stop t) ∈ s.issued → s.session.stopping = some (connector, t, messageId)
  made : ∀ messageId t, (messageId, .stop t) ∈ s.issued → t < s.handler.stops.length
  noted : ∀ connector t messageId, s.session = .stopRecorded connector t messageId →
    ∃ c, s.handler.stops[t]? = some (c, messageId)
  kept : ∀ messageId t, (messageId, .stop t) ∈ s.issued →
    (∃ connector, s.session.stopping = some (connector, t, messageId)) ∨
      ∃ connector, s.handler.stops[t]? = some (connector, messageId) ∧
        (t ∈ s.handler.stoppedTransactions ∨ messageId ∈ s.settled ∧ ¬s.Handling messageId)

structure SameStops (s s' : ChargePoint) : Prop where
  stops : s'.handler.stops = s.handler.stops
  activeTransactions : s'.handler.activeTransactions = s.handler.activeTransactions
  stoppedTransactions : s'.handler.stoppedTransactions = s.handler.stoppedTransactions
  issued : ∀ messageId t, (messageId, .stop t) ∈ s'.issued → (messageId, .stop t) ∈ s.issued
  settled : s'.settled = s.settled
  websocket : s'.websocket = s.websocket

lemma SameStops.refl : SameStops s s :=
  ⟨rfl, rfl, rfl, fun _ _ h => h, rfl, rfl⟩

lemma useQueue_sameStops (messageId : MessageId) (input : MessageQueue.Input MessageType)
    (s : ChargePoint) : SameStops s (s.useQueue messageId input) := by
  have hcallback : ∀ (h : TransactionHandler) newMessageId oldMessageId, ∃ transactions,
      h.startTransactionMessageRetryCallback newMessageId oldMessageId =
        { h with transactions := transactions } ∧
      { h with transactions := transactions }.stops = h.stops := by
    intro h newMessageId oldMessageId
    unfold startTransactionMessageRetryCallback
    split
    · exact ⟨_, rfl, update_stops fun _ => ⟨rfl, rfl⟩⟩
    · exact ⟨h.transactions, rfl, rfl⟩
  have hhandler : ∃ transactions, (s.useQueue messageId input).handler =
      { s.handler with transactions := transactions } ∧
      { s.handler with transactions := transactions }.stops = s.handler.stops := by
    simp only [useQueue]
    split
    · exact hcallback _ _ _
    · exact ⟨s.handler.transactions, rfl, rfl⟩
  obtain ⟨transactions, hhandler, hstops⟩ := hhandler
  refine ⟨hhandler ▸ hstops, by rw [hhandler], by rw [hhandler], ?_, rfl, rfl⟩
  intro messageId' t hmem
  rcases mem_append.1 hmem with hnew | hold
  · obtain ⟨m, -, heq⟩ := mem_map.1 hnew
    split_ifs at heq <;> simp at heq
  · exact hold

lemma operate_sameStops (messageId : MessageId) (op : Option (MessageQueue.Input MessageType))
    (s : ChargePoint) : SameStops s (s.operate messageId op) := by
  cases op with
  | none => exact .refl
  | some op => exact useQueue_sameStops messageId op s

/-- The threads may go on, as long as the session thread keeps stopping what it stops and no
answer is handled again. -/
theorem Stops.congr (h : Stops s)
    (hstops : s'.handler.stops = s.handler.stops)
    (hactive : s'.handler.activeTransactions = s.handler.activeTransactions)
    (hstopped : s'.handler.stoppedTransactions = s.handler.stoppedTransactions)
    (hiss : ∀ messageId t, (messageId, .stop t) ∈ s'.issued → (messageId, .stop t) ∈ s.issued)
    (hsettl : s.settled ⊆ s'.settled)
    (hhandling : ∀ messageId ∈ s.settled, s'.Handling messageId → s.Handling messageId)
    (hstopping : s'.session.stopping = s.session.stopping)
    (hnoted : ∀ connector t messageId, s'.session = .stopRecorded connector t messageId →
      ∃ c, s.handler.stops[t]? = some (c, messageId)) : Stops s' := by
  have hactive' : ∀ c, s'.handler.activeTransaction c = s.handler.activeTransaction c := fun c => by
    rw [activeTransaction, hactive, activeTransaction]
  refine
    { active := fun c t hc => hstops ▸ h.active c t (hactive' c ▸ hc)
      stopping := fun c t i hc => hactive' c ▸ h.stopping c t i (hstopping ▸ hc)
      unique := fun c t i hc hi => hstopping ▸ h.unique c t i (hactive' c ▸ hc) (hiss i t hi)
      made := fun i t hi => hstops ▸ h.made i t (hiss i t hi)
      noted := fun c t i hs => hstops ▸ hnoted c t i hs
      kept := fun i t hi => ?_ }
  rcases h.kept i t (hiss i t hi) with hstop | ⟨c, hc, hstop⟩
  · exact .inl (hstopping ▸ hstop)
  · refine .inr ⟨c, hstops ▸ hc, hstop.imp (fun ht => hstopped ▸ ht) fun hdone => ?_⟩
    exact ⟨hsettl hdone.1, fun hhandle => hdone.2 (hhandling i hdone.1 hhandle)⟩

lemma Stops.of_same (h : Stops s) (same : SameStops s s')
    (hsess : s'.session = s.session) : Stops s' :=
  h.congr same.stops same.activeTransactions same.stoppedTransactions same.issued
    (fun _ hmem => same.settled ▸ hmem) (fun _ _ ⟨call, messageType, hcall⟩ =>
      ⟨call, messageType, same.websocket ▸ hcall⟩) (by rw [hsess])
    fun c t i hs => h.noted c t i (hsess ▸ hs)

variable {t : ℕ}

lemma stops_lt {h : TransactionHandler} {e : ℕ × MessageId} (he : h.stops[t]? = some e) :
    t < h.stops.length :=
  (List.getElem?_eq_some_iff.1 he).1

section

variable (h : Stops s)
include h

lemma Stops.startTransaction (messageId : MessageId) (connector : ℕ) (internalTransactionId : ℤ)
    (hidle : s.session = .idle) :
    Stops { s with
      handler := s.handler.addTransaction { connector, internalTransactionId }
      session := .startAdded s.handler.transactions.length messageId
      issued := (messageId, .start s.handler.transactions.length) :: s.issued } := by
  have hnone : s.session.stopping = none := by simp [hidle, SessionThread.stopping]
  have hlen : s.handler.stops.length = s.handler.transactions.length := length_map ..
  have hstops : (s.handler.addTransaction
      { connector := connector, internalTransactionId := internalTransactionId }).stops =
        s.handler.stops ++ [(connector, "")] := by
    simp [stops, addTransaction]
  have hold : ∀ {t : ℕ} {e}, s.handler.stops[t]? = some e → (s.handler.addTransaction
      { connector := connector, internalTransactionId := internalTransactionId }).stops[t]? =
        some e := by
    intro t e he
    rw [hstops, getElem?_append_left (stops_lt he)]
    exact he
  have hactive := fun c => s.handler.activeTransaction_set connector c
    (some s.handler.transactions.length)
  have hiss : ∀ i t, (i, Purpose.stop t) ∈
      (messageId, Purpose.start s.handler.transactions.length) :: s.issued →
        (i, .stop t) ∈ s.issued := by simp
  refine
    { active := fun c t hc => ?_
      stopping := by simp [SessionThread.stopping]
      unique := fun c t i hc hi => ?_
      made := fun i t hi => ?_
      noted := by simp
      kept := fun i t hi => ?_ }
  · replace hc := (hactive c).symm.trans hc
    split_ifs at hc with hset
    · cases hc
      exact ⟨"", by simp [hstops, hlen, ← hset.1]⟩
    · obtain ⟨i, hi⟩ := h.active c t hc
      exact ⟨i, hold hi⟩
  · replace hc := (hactive c).symm.trans hc
    split_ifs at hc with hset
    · cases hc
      exact absurd (h.made i _ (hiss i _ hi)) (by simp [hlen])
    · exact absurd (h.unique c t i hc (hiss i t hi)) (by simp [hnone])
  · rw [hstops, length_append]
    exact (h.made i t (hiss i t hi)).trans_le (Nat.le_add_right _ _)
  · obtain ⟨c, hc⟩ | ⟨c, hc, hstop⟩ := h.kept i t (hiss i t hi)
    · simp [hnone] at hc
    · exact .inr ⟨c, hold hc, hstop⟩

lemma Stops.stopTransaction {connector : ℕ} (messageId : MessageId) (transactionId : ℤ)
    (hidle : s.session = .idle) (ht : s.handler.activeTransaction connector = some t) :
    Stops { s with
      session := .stopPrepared connector t messageId transactionId
      issued := (messageId, .stop t) :: s.issued } := by
  have hnone : s.session.stopping = none := by simp [hidle, SessionThread.stopping]
  obtain ⟨i₀, hi₀⟩ := h.active connector t ht
  have hiss : ∀ {i t'}, (i, Purpose.stop t') ∈ (messageId, Purpose.stop t) :: s.issued →
      i = messageId ∧ t' = t ∨ (i, .stop t') ∈ s.issued := by simp
  refine
    { active := h.active
      stopping := ?_
      unique := fun c t' i hc hi => ?_
      made := fun i t' hi => ?_
      noted := by simp
      kept := fun i t' hi => ?_ }
  · intro c t' i hstop
    cases hstop
    exact ht
  · rcases hiss hi with ⟨rfl, rfl⟩ | hold
    · obtain ⟨i, hi⟩ := h.active c t' hc
      obtain rfl : c = connector := congrArg Prod.fst (Option.some.inj (hi.symm.trans hi₀))
      rfl
    · exact absurd (h.unique c t' i hc hold) (by simp [hnone])
  · rcases hiss hi with ⟨rfl, rfl⟩ | hold
    · exact stops_lt hi₀
    · exact h.made i t' hold
  · rcases hiss hi with ⟨rfl, rfl⟩ | hold
    · exact .inl ⟨connector, rfl⟩
    · obtain ⟨c, hc⟩ | hstop := h.kept i t' hold
      · simp [hnone] at hc
      · exact .inr hstop

variable {connector : ℕ} {messageId : MessageId}

lemma Stops.record (hs : s.session = .stopFinished connector t messageId) : Stops { s with
      handler := s.handler.update t fun transaction =>
        { transaction with stopTransactionMessageId := messageId }
      session := .stopRecorded connector t messageId } := by
  have hstopping : s.session.stopping = some (connector, t, messageId) := by
    simp [hs, SessionThread.stopping]
  have hstops : ∀ j, (s.handler.update t fun transaction =>
      { transaction with stopTransactionMessageId := messageId }).stops[j]? =
        if t = j then (s.handler.stops[j]?).map fun e => (e.1, messageId)
        else s.handler.stops[j]? := by
    intro j
    rw [stops, getElem?_map, update_getElem?,
      stops, getElem?_map]
    split_ifs <;> simp [Option.map_map, Function.comp_def]
  have hlen : (s.handler.update t fun transaction =>
      { transaction with stopTransactionMessageId := messageId }).stops.length =
        s.handler.stops.length := by simp [stops]
  obtain ⟨i₀, hi₀⟩ := h.active connector t (h.stopping _ _ _ hstopping)
  refine
    { active := fun c t' hc => ?_
      stopping := fun c t' i hstop => h.stopping c t' i (hstopping.trans hstop)
      unique := fun c t' i hc hi => hstopping.symm.trans (h.unique c t' i hc hi)
      made := fun i t' hi => hlen ▸ h.made i t' hi
      noted := ?_
      kept := fun i t' hi => ?_ }
  · obtain ⟨i, hi⟩ := h.active c t' hc
    rw [hstops]
    split_ifs
    · exact ⟨messageId, by simp [hi]⟩
    · exact ⟨i, hi⟩
  · intro c t' i hrec
    cases hrec
    exact ⟨connector, by simp [hstops, hi₀]⟩
  · by_cases ht : t = t'
    · -- this transaction is being stopped, and it is stopped once
      subst ht
      have hsame := h.unique connector t i (h.stopping _ _ _ hstopping) hi
      exact .inl ⟨connector, hstopping.symm.trans hsame⟩
    · obtain ⟨c, hc⟩ | ⟨c, hc, hstop⟩ := h.kept i t' hi
      · exact .inl ⟨c, hstopping.symm.trans hc⟩
      · exact .inr ⟨c, by rw [hstops, if_neg ht, hc], hstop⟩

lemma Stops.putAway (hs : s.session = .stopRecorded connector t messageId) : Stops { s with
      handler := s.handler.addStoppedTransaction connector
      session := .stopMoved connector } := by
  have hstopping : s.session.stopping = some (connector, t, messageId) := by
    simp [hs, SessionThread.stopping]
  have ht := h.stopping _ _ _ hstopping
  obtain ⟨c₀, hc₀⟩ := h.noted connector t messageId hs
  have hactive : ∀ {c t'},
      (s.handler.addStoppedTransaction connector).activeTransaction c = some t' →
        connector ≠ c ∧ s.handler.activeTransaction c = some t' :=
    active_of_cleared
  refine
    { active := fun c t' hc => h.active c t' (hactive hc).2
      stopping := by simp [SessionThread.stopping]
      unique := fun c t' i hc hi => ?_
      made := h.made
      noted := by simp
      kept := fun i t' hi => ?_ }
  · have hother := h.unique c t' i (hactive hc).2 hi
    rw [hstopping] at hother
    exact absurd (congrArg Prod.fst (Option.some.inj hother)) (hactive hc).1
  · refine .inr ?_
    obtain ⟨c, hc⟩ | ⟨c, hc, hstop⟩ := h.kept i t' hi
    · rw [hstopping] at hc
      cases hc
      refine ⟨c₀, hc₀, .inl ?_⟩
      simp [addStoppedTransaction, ht]
    · exact ⟨c, hc, hstop.imp_left fun hmem => mem_append_left _ hmem⟩

lemma Stops.advance {handler : TransactionHandler} {session : SessionThread}
    (hstops : handler.stops = s.handler.stops)
    (hactive : handler.activeTransactions = s.handler.activeTransactions)
    (hstopped : handler.stoppedTransactions = s.handler.stoppedTransactions)
    (hstopping : session.stopping = s.session.stopping)
    (hnot : ∀ c t i, session ≠ .stopRecorded c t i) :
    Stops { s with handler := handler, session := session } :=
  h.congr hstops hactive hstopped (fun _ _ hi => hi) (List.Subset.refl _)
    (fun _ _ hhandle => hhandle) hstopping fun c t i hs => absurd hs (hnot c t i)

lemma Stops.release (hs : s.session = .stopMoved connector) :
    Stops { s with
      handler := s.handler.removeActiveTransaction connector
      session := .idle } := by
  have hnone : s.session.stopping = none := by simp [hs, SessionThread.stopping]
  have hidle : Stops { s with session := .idle } :=
    h.advance rfl rfl rfl (by simp [hs, SessionThread.stopping]) (by simp)
  unfold removeActiveTransaction
  split_ifs
  · exact hidle
  · exact
      { hidle with
        active := fun c t hc => h.active c t (active_of_cleared hc).2
        stopping := by simp [SessionThread.stopping]
        unique := fun c t i hc hi => absurd
          (h.unique c t i (active_of_cleared hc).2 hi) (by simp [hnone]) }

variable {call : ControlMessage MessageType}

lemma Stops.settle (hsound : Sound ids bound s) {env : Env} {received : Received}
    {websocket : WebsocketThread} (hcall : s.queue.answeredCall received = some call)
    (hans : ∀ call' messageType, websocket.answered = some (call', messageType) →
      call' = call) :
    Stops { s.useQueue (ids.create bound) (.receive env received) with
      websocket := websocket, settled := call.initialUniqueId :: s.settled } := by
  have same := useQueue_sameStops (ids.create bound) (.receive env received) s
  obtain ⟨-, -, htags, -⟩ := MessageQueue.receive_answered env hcall
  have hnot : call.initialUniqueId ∉ s.settled :=
    hsound.not_settled (htags ▸ Multiset.mem_cons_self call.tag _)
  refine h.congr same.stops same.activeTransactions same.stoppedTransactions same.issued
    (subset_cons_self _ _) ?_ rfl h.noted
  rintro messageId hmem ⟨call', messageType, hcall', rfl⟩
  obtain rfl := hans call' messageType hcall'
  exact absurd hmem hnot

lemma Stops.websocket (websocket : WebsocketThread)
    (hans : ∀ call, websocket.answered = some call → s.websocket.answered = some call) :
    Stops { s with websocket := websocket } :=
  h.congr rfl rfl rfl (fun _ _ hi => hi) (List.Subset.refl _)
    (fun _ _ ⟨call, messageType, hcall, hid⟩ => ⟨call, messageType, hans _ hcall, hid⟩) rfl
    h.noted

lemma Stops.erase (hsound : Sound ids bound s) (hw : s.websocket = .stopLookedUp call) :
    Stops { s with
      handler := s.handler.eraseStoppedTransaction call.uniqueId
      websocket := .idle } := by
  obtain ⟨hknown, htype, hsettl⟩ := hsound.answered call .stopTransaction
    (by simp [hw])
  have hidle : Stops { s with websocket := .idle } :=
    h.websocket .idle (by simp)
  refine { hidle with kept := fun i t hi => ?_ }
  obtain hstop | ⟨c, hc, hstop⟩ := hidle.kept i t hi
  · exact .inl hstop
  refine .inr ⟨c, hc, ?_⟩
  by_cases heq : i = call.uniqueId
  · -- the id that the transaction knows is the one the answered call was queued under
    refine .inr ⟨?_, by simp [Handling]⟩
    rcases hknown.attempt with hfirst | hretry
    · have hid : call.uniqueId = call.initialUniqueId := hfirst
      rw [heq, hid]
      exact hsettl
    · exact absurd (hsound.ledger.unique (heq ▸ hi) hretry) (by simp)
  · refine hstop.imp_left fun hmem => ?_
    obtain ⟨transaction, htx, hids⟩ := Option.map_eq_some_iff.1
      ((getElem?_map ..).symm.trans hc)
    have hid : transaction.stopTransactionMessageId = i := congrArg Prod.snd hids
    exact mem_filter.2 ⟨hmem, by simp [htx, hid, heq]⟩

lemma Stops.act (hsound : Sound ids bound s) (input : Input) :
    Stops (s.act (ids.create bound) input) := by
  have hturn := act_turn (ids.create bound) s input
  generalize s.operation (ids.create bound) input = op, s.act (ids.create bound) input = s'
    at hturn ⊢
  have hoperate := h.of_same (operate_sameStops (ids.create bound) op s) (by simp)
  cases hturn with
  | start hidle => exact h.startTransaction _ _ _ hidle
  | stop _ hidle ht => exact h.stopTransaction _ _ hidle ht
  | numberStart hs | finish hs =>
    exact h.advance (update_stops fun _ => ⟨rfl, rfl⟩) rfl rfl
      (by simp [hs, SessionThread.stopping]) (by simp)
  | queueStart _ hs | queueStop _ hs =>
    exact hoperate.advance rfl rfl rfl (by simp [hs, SessionThread.stopping]) (by simp)
  | numberStop hs => exact h.record hs
  | putAway hs => exact h.putAway hs
  | release hs => exact h.release hs
  | meter =>
    exact h.congr rfl rfl rfl (by simp) (List.Subset.refl _) (fun _ _ hhandle => hhandle) rfl
      h.noted
  | answer _ hcall hw =>
    rcases hw with ⟨-, rfl⟩ | ⟨-, rfl⟩
    · exact h.settle hsound hcall (by simp [eq_comm])
    · exact h.settle hsound hcall (by simp [eq_comm])
  | find hw => exact h.websocket _ (by simp [hw])
  | notify call transactionId t hw =>
    have hmoved := hoperate.websocket (.startNotified call transactionId t) (by simp [hw])
    exact { hmoved with }
  | replace => exact hoperate.websocket _ (by simp)
  | number =>
    exact h.congr (update_stops fun _ => ⟨rfl, rfl⟩) rfl rfl
      (fun _ _ hi => hi) (List.Subset.refl _) (by simp [Handling]) rfl h.noted
  | lookUp call _ _ hw =>
    have hlooked := h.websocket (.stopLookedUp call) (by simp [hw])
    exact { hlooked with }
  | erase hw => exact h.erase hsound hw
  | drop => exact h.websocket .idle (by simp)
  | _ => exact { hoperate with }

end

/-- No StopTransaction has been given another id. -/
structure FirstAttempts (s : ChargePoint) : Prop where
  tags : ∀ g ∈ s.queue.tags, g.messageType = .stopTransaction → g.uniqueId = g.initialUniqueId
  answered : ∀ call messageType, s.websocket.answered = some (call, messageType) →
    call.messageType = .stopTransaction → call.uniqueId = call.initialUniqueId

/-- No StopTransaction is left without an answer, and its answer is not handled before
`stop_transaction` has put the transaction away. -/
def CarefulStop (s : ChargePoint) (input : Input) : Prop :=
  (s.unanswered input).all (·.messageType ≠ .stopTransaction) = true ∧
    match input with
    | .handle => (s.websocket.answered.all fun (call, messageType) =>
        messageType ≠ .stopTransaction ∨
          s.session.stopping.all fun (_, _, messageId) =>
            messageId ≠ call.initialUniqueId) = true
    | _ => True

instance (s : ChargePoint) (input : Input) : Decidable (CarefulStop s input) := by
  unfold CarefulStop
  split <;> infer_instance

lemma FirstAttempts.act (h : FirstAttempts s) (hsound : Sound ids bound s) {input : Input}
    (hcare : CarefulStop s input) : FirstAttempts (s.act (ids.create bound) input) := by
  constructor
  · intro g hg htype
    rcases act_tags hsound g hg with hold | ⟨hfirst, -⟩ | ⟨m, hm, hmem, rfl⟩
    · exact h.tags g hold htype
    · exact hfirst
    · have hnot := hcare.1
      rw [Option.mem_def.1 hm] at hnot
      exact absurd htype (by simpa [ControlMessage.tag] using hnot)
  · intro call messageType hcall htype
    rcases (act_effect _ s input).answered call messageType hcall with hold | hmem
    · exact h.answered call messageType hold htype
    · exact h.tags call.tag hmem htype

/-- What is expected of the two steps that handle a StopTransaction.conf: the transaction is
found, a queued availability change of its connector is executed, and the transaction is
removed from the stopped ones. -/
def Recognised (s s' : ChargePoint) : Input → Prop
  | .handle =>
    (∀ call, s.websocket = .stopReceived call → ∃ t transaction,
      (call.initialUniqueId, .stop t) ∈ s.issued ∧
      s.handler.transactions[t]? = some transaction ∧
      s.handler.getTransaction call.uniqueId = some t ∧
      ∀ change, s.changeAvailabilityQueue.find? transaction.connector = some change →
        s'.executedChanges = (transaction.connector, change) :: s.executedChanges) ∧
    ∀ call, s.websocket = .stopLookedUp call → ∃ t, (call.initialUniqueId, .stop t) ∈ s.issued ∧
      t ∉ s'.handler.stoppedTransactions
  | _ => True

variable {call : ControlMessage MessageType}

lemma stopped_of_answered (h : Stops s) (hsound : Sound ids bound s) (hfirst : FirstAttempts s)
    (hcall : s.websocket.answered = some (call, .stopTransaction))
    (hcare : CarefulStop s .handle) :
    call.uniqueId = call.initialUniqueId ∧ ∃ t transaction,
      (call.initialUniqueId, .stop t) ∈ s.issued ∧
      s.handler.transactions[t]? = some transaction ∧
      transaction.stopTransactionMessageId = call.initialUniqueId ∧
      t ∈ s.handler.stoppedTransactions := by
  obtain ⟨hknown, htype, -⟩ := hsound.answered call _ hcall
  obtain ⟨t, ht⟩ := hknown.stop htype
  have hnot : ∀ connector, s.session.stopping ≠ some (connector, t, call.initialUniqueId) := by
    intro connector hstopping
    have hdone := hcare.2
    simp [hcall, hstopping, -WebsocketThread.answered] at hdone
  refine ⟨hfirst.answered call _ hcall htype, t, ?_⟩
  obtain ⟨connector, hstopping⟩ | ⟨connector, hstops, hkept⟩ := h.kept _ t ht
  · exact absurd hstopping (hnot connector)
  · obtain ⟨transaction, htx, hids⟩ := Option.map_eq_some_iff.1
      ((getElem?_map ..).symm.trans hstops)
    refine ⟨transaction, ht, htx, congrArg Prod.snd hids, hkept.resolve_right ?_⟩
    exact fun ⟨_, hdone⟩ => hdone ⟨call, _, hcall, rfl⟩

/-- The id of the answer leads to the transaction and to no other. -/
theorem getTransaction_of_stopped (hsound : Sound ids bound s) {transaction : Transaction}
    (hknown : Known s.issued call.tag) (htype : call.messageType = .stopTransaction)
    (hiss : (call.initialUniqueId, .stop t) ∈ s.issued)
    (ht : s.handler.transactions[t]? = some transaction)
    (hid : transaction.stopTransactionMessageId = call.uniqueId)
    (hmem : t ∈ s.handler.stoppedTransactions) :
    s.handler.getTransaction call.uniqueId = some t := by
  have hnamed : s.handler.named call.uniqueId t = true :=
    named_iff.2 ⟨transaction, ht, .inr hid⟩
  obtain ⟨t', hfound⟩ := Option.isSome_iff_exists.1
    (find?_isSome.2 ⟨t, mem_append_right _ hmem, hnamed⟩ :
      (s.handler.getTransaction call.uniqueId).isSome)
  have hnamed' : s.handler.named call.tag.uniqueId t' = true := find?_some hfound
  rcases named_cases hsound.ledger hsound.recorded hknown hnamed' with hstart | ⟨-, hstop⟩
  · cases htype.symm.trans (hknown.fits hsound.ledger hstart)
  · have heq := hsound.ledger.unique hiss hstop
    cases heq
    exact hfound

lemma handle_recognised (h : Stops s) (hsound : Sound ids bound s) (hfirst : FirstAttempts s)
    (hcare : CarefulStop s .handle) (messageId : MessageId) :
    Recognised s (s.handleStep messageId) .handle := by
  constructor
  · intro call hw
    have hcall : s.websocket.answered = some (call, .stopTransaction) := by
      simp [hw]
    obtain ⟨heq, t, transaction, hiss, ht, hid, hmem⟩ :=
      stopped_of_answered h hsound hfirst hcall hcare
    obtain ⟨hknown, htype, -⟩ := hsound.answered call _ hcall
    have hfound := getTransaction_of_stopped hsound hknown htype hiss ht
      (hid.trans heq.symm) hmem
    refine ⟨t, transaction, hiss, ht, hfound, fun change hchange => ?_⟩
    simp [handleStep, hw, hfound, ht, executeQueuedAvailabilityChange, hchange]
  · intro call hw
    have hcall : s.websocket.answered = some (call, .stopTransaction) := by
      simp [hw]
    obtain ⟨heq, t, transaction, hiss, ht, hid, -⟩ :=
      stopped_of_answered h hsound hfirst hcall hcare
    refine ⟨t, hiss, ?_⟩
    simp [handleStep, hw, eraseStoppedTransaction, ht, hid, heq]

lemma start_stops {connectors : ℕ} {config : MessageQueueConfig MessageType} :
    Stops (start connectors config) := by
  have hnone := start_activeTransaction connectors config
  refine ⟨?_, ?_, ?_, ?_, ?_, ?_⟩
  · simp [hnone]
  · simp [start, SessionThread.stopping]
  · simp [hnone]
  · simp [start]
  · simp [start]
  · simp [start]

/-- As long as no StopTransaction is left without an answer, and no answer overtakes the call
that made it, every acknowledged stop is recognised. -/
theorem acknowledged_stop_recognised (ids : MessageIds) (connectors : ℕ)
    (config : MessageQueueConfig MessageType) (inputs : List Input)
    (h : AllSteps (step ids) CarefulStop (start connectors config) inputs) :
    AllSteps (step ids) (fun s input => Recognised s (step ids s input) input)
      (start connectors config) inputs := by
  have hstep : ∀ s input, (Sound ids s.created s ∧ Stops s ∧ FirstAttempts s) →
      CarefulStop s input → Recognised s (step ids s input) input ∧
        (Sound ids (step ids s input).created (step ids s input) ∧ Stops (step ids s input) ∧
          FirstAttempts (step ids s input)) := by
    rintro s input ⟨hsound, hstops, hfirst⟩ hcare
    refine ⟨?_, step_sound hsound, ?_, ?_⟩
    · cases input with
      | handle => exact handle_recognised hstops hsound hfirst hcare _
      | _ => trivial
    · have hact := hstops.act hsound input
      exact { hact with }
    · have hact := hfirst.act hsound hcare
      exact { hact with }
  refine AllSteps.of_inv hstep ⟨start_sound, start_stops,
    ?_⟩ h
  constructor
  · simp [start, Queues.tags]
  · simp [start]

end ChargePoint

namespace ChargePoint

/-- A transaction of connector 1 is started and acknowledged, a change of the availability is
queued, and the transaction is stopped. -/
def startAndStop : List Input :=
  [.queue (.resume 0), .transactionStarted 1 (-1), .session {} true, .session {} true, .worker {},
    .receive {} { messageTypeId := .callResult, uniqueId := unaryIds.create 1 } 7,
    .handle, .handle, .handle, .handle,
    .queueAvailabilityChange 1 ⟨.inoperative, true⟩,
    .transactionStopped 1, .session {} true, .session {} true, .session {} true,
    .session {} true, .session {} true, .worker {}]

def acknowledgedAtOnce : List Input := startAndStop ++
  [.receive {} { messageTypeId := .callResult, uniqueId := unaryIds.create 11 } 0, .handle,
    .handle]

theorem first_attempt_recognised :
    AllSteps (step unaryIds) (fun s input => Recognised s (step unaryIds s input) input)
        (start 1 {}) acknowledgedAtOnce ∧
      (run (step unaryIds) (start 1 {}) acknowledgedAtOnce).executedChanges =
        [(1, ⟨.inoperative, true⟩)] :=
  ⟨acknowledged_stop_recognised unaryIds 1 {} acknowledgedAtOnce (by decide +kernel),
    by decide +kernel⟩

/-- The first attempt times out and the second one is answered. -/
def acknowledgedLater : List Input := startAndStop ++
  [.queue (.inFlightTimeout {} 1 (unaryIds.create 11)), .queue .notifyQueueTimer,
    .worker { now := seconds 30 },
    .receive {} { messageTypeId := .callResult, uniqueId := unaryIds.create 18 } 0]

/-- The StopTransaction.conf of the second attempt finds no transaction. -/
theorem retried_stop_unknown :
    ¬AllSteps (step unaryIds) (fun s input => Recognised s (step unaryIds s input) input)
      (start 1 {}) (acknowledgedLater ++ [.handle, .handle]) := by
  intro h
  have hw : (run (step unaryIds) (start 1 {}) acknowledgedLater).websocket =
      .stopReceived
        { address := 1
          message := ⟨unaryIds.create 18, .stopTransaction, { transactionId := some 7 }⟩
          messageType := .stopTransaction
          messageAttempts := 2
          timestamp := seconds 30
          initialUniqueId := unaryIds.create 11 } := by decide +kernel
  obtain ⟨t, transaction, -, -, hfound, -⟩ := h.mid.1 _ hw
  have hnone : (run (step unaryIds) (start 1 {}) acknowledgedLater).handler.getTransaction
      (unaryIds.create 18) = none := by decide +kernel
  exact absurd (hnone.symm.trans hfound) (by simp)

end ChargePoint

end Everest.Ocpp.V16
