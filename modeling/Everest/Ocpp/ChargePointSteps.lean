import Everest.Ocpp.MessagePurposes

namespace Everest.Ocpp
open Multiset

lemma V16.TransactionHandler.activeTransaction_set {h : V16.TransactionHandler}
    (connector c : ℕ) (pointer : Option ℕ) :
    (h.activeTransactions.set connector pointer)[c]?.join =
      if connector = c ∧ c < h.activeTransactions.length then pointer
      else h.activeTransaction c := by
  unfold activeTransaction
  rw [List.getElem?_set]
  split_ifs <;> simp_all

lemma V16.TransactionHandler.active_of_cleared {h : V16.TransactionHandler} {connector c t : ℕ}
    (ht : (h.activeTransactions.set connector none)[c]?.join = some t) :
    connector ≠ c ∧ h.activeTransaction c = some t := by
  rw [List.getElem?_set] at ht
  split_ifs at ht with heq
  · cases ht
  · cases ht
  · exact ⟨heq, ht⟩

namespace V16.ChargePoint
open Queues

variable {ids : MessageIds} {bound : ℕ} {s : ChargePoint} {messageId : MessageId}
  {input : Input}

/-- What a step adds to its operation of the queue. -/
structure Effect (messageId : MessageId) (s : ChargePoint) (input : Input)
    (op : Option (MessageQueue.Input MessageType)) (before after : ChargePoint) : Prop where
  queue : after.queue = before.queue
  /-- A message is made. One with MeterValues names the transaction that is active then. -/
  issued : ∃ new, after.issued = new ++ before.issued ∧ ∀ e ∈ new, e.1 = messageId ∧ op = none ∧
    ∀ t, e.2 = .meterValues (some t) → ∃ connector, s.handler.activeTransaction connector = some t
  transactions : ∀ t transaction, before.handler.transactions[t]? = some transaction →
    ∃ transaction', after.handler.transactions[t]? = some transaction' ∧
      (transaction'.startTransactionMessageId = transaction.startTransactionMessageId ∨
        s.session = .startAdded t transaction'.startTransactionMessageId ∧
          after.session = .startNumbered t transaction'.startTransactionMessageId) ∧
      (transaction'.transactionId = transaction.transactionId ∨
        ∃ transactionId, s.websocket = .startReplaced transactionId t)
  fresh : ∀ t transaction, after.handler.transactions[t]? = some transaction →
    t < before.handler.transactions.length ∨
      transaction.startTransactionMessageId = "" ∧ transaction.transactionId = none
  active : ∀ connector t, after.handler.activeTransaction connector = some t →
    before.handler.activeTransaction connector = some t ∨ t < after.handler.transactions.length
  settled : before.settled ⊆ after.settled
  answered : ∀ call messageType, after.websocket.answered = some (call, messageType) →
    s.websocket.answered = some (call, messageType) ∨ call.tag ∈ s.queue.tags

/-- What a step does: its operation of the queue, and little more. -/
def Acts (messageId : MessageId) (s : ChargePoint) (input : Input) : Prop :=
  Effect messageId s input (s.operation messageId input)
    (s.operate messageId (s.operation messageId input)) (s.act messageId input)

section Effects

variable {input : Input} {op : Option (MessageQueue.Input MessageType)} {before after : ChargePoint}

lemma Effect.of_eq (hqueue : after.queue = before.queue) (hiss : after.issued = before.issued)
    (htransactions : after.handler.transactions = before.handler.transactions)
    (hact : ∀ connector t, after.handler.activeTransaction connector = some t →
      before.handler.activeTransaction connector = some t)
    (hsettl : before.settled ⊆ after.settled)
    (hans : ∀ call messageType, after.websocket.answered = some (call, messageType) →
      s.websocket.answered = some (call, messageType) ∨ call.tag ∈ s.queue.tags) :
    Effect messageId s input op before after where
  queue := hqueue
  issued := ⟨[], hiss, by simp⟩
  transactions t transaction ht := ⟨transaction, htransactions ▸ ht, .inl rfl, .inl rfl⟩
  fresh t transaction ht := .inl (htransactions ▸ (List.getElem?_eq_some_iff.1 ht).1)
  active connector t ht := .inl (hact connector t ht)
  settled := hsettl
  answered := hans

lemma Effect.of_frame (hqueue : after.queue = before.queue)
    (hiss : after.issued = before.issued) (hhandler : after.handler = before.handler)
    (hsettl : after.settled = before.settled) (hws : after.websocket = s.websocket) :
    Effect messageId s input op before after :=
  .of_eq hqueue hiss (by rw [hhandler]) (fun _ _ h => hhandler ▸ h) (by rw [hsettl]; simp)
    fun _ _ h => .inl (hws ▸ h)

lemma Effect.of_issue {p : Purpose} (hiss : after.issued = (messageId, p) :: s.issued)
    (hp : ∀ t, p = .meterValues (some t) →
      ∃ connector, s.handler.activeTransaction connector = some t)
    (hqueue : after.queue = s.queue) (hhandler : after.handler = s.handler)
    (hsettl : after.settled = s.settled) (hws : after.websocket = s.websocket) :
    Effect messageId s input none s after where
  queue := hqueue
  issued := ⟨[(messageId, p)], hiss, by simpa using hp⟩
  transactions t transaction ht := ⟨transaction, hhandler ▸ ht, .inl rfl, .inl rfl⟩
  fresh t transaction ht := .inl (hhandler ▸ (List.getElem?_eq_some_iff.1 ht).1)
  active _ _ h := .inl (hhandler ▸ h)
  settled := by rw [hsettl]; simp
  answered _ _ h := .inl (hws ▸ h)

lemma Effect.of_update {t : ℕ} {f : Transaction → Transaction} {session : SessionThread}
    {websocket : WebsocketThread}
    (hstart : ∀ transaction, (f transaction).startTransactionMessageId =
        transaction.startTransactionMessageId ∨
      s.session = .startAdded t (f transaction).startTransactionMessageId ∧
        session = .startNumbered t (f transaction).startTransactionMessageId)
    (hid : ∀ transaction, (f transaction).transactionId = transaction.transactionId ∨
      ∃ transactionId, s.websocket = .startReplaced transactionId t)
    (hws : ∀ call, websocket.answered = some call → s.websocket.answered = some call) :
    Effect messageId s input op s
      { s with handler := s.handler.update t f, session := session, websocket := websocket } where
  queue := rfl
  issued := ⟨[], rfl, by simp⟩
  transactions j transaction hj := by
    rw [TransactionHandler.update_getElem?, hj]
    split_ifs with heq
    · subst heq
      exact ⟨f transaction, rfl, hstart transaction, hid transaction⟩
    · exact ⟨transaction, rfl, .inl rfl, .inl rfl⟩
  fresh j transaction hj :=
    .inl (TransactionHandler.update_length ▸ (List.getElem?_eq_some_iff.1 hj).1)
  active _ _ h := .inl h
  settled := List.Subset.refl _
  answered _ _ h := .inl (hws _ h)

end Effects

variable {input : Input} {g : Tag MessageType} {t : ℕ} {transaction : Transaction} {i : MessageId}

lemma addTransaction_effect {connector : ℕ} {internalTransactionId : ℤ} {session : SessionThread} :
    Effect messageId s input none s
      { s with
        handler := s.handler.addTransaction { connector, internalTransactionId }
        session := session
        issued := (messageId, .start s.handler.transactions.length) :: s.issued } := by
  refine
    { queue := rfl
      issued := ⟨[_], rfl, by simp⟩
      transactions := fun t transaction ht => ⟨transaction, ?_, .inl rfl, .inl rfl⟩
      fresh := fun t transaction ht => ?_
      active := fun c t ht => ?_
      settled := List.Subset.refl _
      answered := fun _ _ h => .inl h }
  · exact (List.getElem?_append_left (List.getElem?_eq_some_iff.1 ht).1).trans ht
  · rcases TransactionHandler.addTransaction_getElem? ht with hold | rfl
    · exact .inl (List.getElem?_eq_some_iff.1 hold).1
    · exact .inr ⟨rfl, rfl⟩
  · simp only [TransactionHandler.addTransaction, TransactionHandler.activeTransaction,
      List.getElem?_set] at ht
    split_ifs at ht
    · cases ht
      exact .inr (by simp [TransactionHandler.addTransaction])
    · cases ht
    · exact .inl ht

lemma act_effect (messageId : MessageId) (s : ChargePoint) (input : Input) :
    Acts messageId s input := by
  have hturn := act_turn messageId s input
  unfold Acts
  generalize s.operation messageId input = op, s.act messageId input = s' at hturn ⊢
  have hclear : ∀ {connector c t}, (s.handler.activeTransactions.set connector none)[c]?.join =
      some t → s.handler.activeTransaction c = some t := fun ht =>
    (TransactionHandler.active_of_cleared ht).2
  cases hturn with
  | start => exact addTransaction_effect
  | stop => exact .of_issue rfl (by simp) rfl rfl rfl rfl
  | meter ht =>
    refine .of_issue rfl (fun t heq => ⟨_, ht t ?_⟩) rfl rfl rfl rfl
    exact Purpose.meterValues.inj heq
  | numberStart hs =>
    exact .of_update (fun _ => .inr ⟨hs, rfl⟩) (fun _ => .inl rfl) fun _ h => h
  | finish | numberStop =>
    exact .of_update (fun _ => .inl rfl) (fun _ => .inl rfl) fun _ h => h
  | putAway =>
    exact .of_eq rfl rfl rfl (fun _ _ => hclear) (List.Subset.refl _) fun _ _ h => .inl h
  | release =>
    unfold TransactionHandler.removeActiveTransaction
    split_ifs
    · exact .of_frame rfl rfl rfl rfl rfl
    · exact .of_eq rfl rfl rfl (fun _ _ => hclear) (List.Subset.refl _) fun _ _ h => .inl h
  | queueStart | queueStop | send => exact .of_frame rfl rfl rfl rfl (by simp)
  | answer _ hcall hw =>
    obtain ⟨-, -, htags, -⟩ := MessageQueue.receive_answered {} hcall
    have hmem := htags ▸ mem_cons_self _ _
    refine .of_eq rfl rfl rfl (fun _ _ h => h) (List.subset_cons_self _ _) fun call' _ h => .inr ?_
    obtain rfl : call' = _ := by rcases hw with ⟨-, rfl⟩ | ⟨-, rfl⟩ <;> cases h <;> rfl
    exact hmem
  | find | lookUp | notify | replace | erase | drop =>
    exact .of_eq rfl rfl rfl (fun _ _ h => h) (List.Subset.refl _) (by simp [*])
  | number hw => exact .of_update (fun _ => .inl rfl) (fun _ => .inr ⟨_, hw⟩) (by simp)
  | _ => exact .of_frame rfl rfl rfl rfl rfl

def unanswered (s : ChargePoint) (input : Input) : Option (ControlMessage MessageType) :=
  (s.operation "" input).bind s.queue.hit

lemma operation_hit : (s.operation messageId input).bind s.queue.hit = s.unanswered input := by
  cases input with
  | pushCall | pushCallAsync =>
    dsimp only [unanswered, operation]
    split_ifs <;> rfl
  | _ => rfl

def pushed (messageId : MessageId) (s : ChargePoint) (input : Input) : Option MessageId :=
  ((s.operation messageId input).bind (·.call?)).map (·.uniqueId)

lemma entered_of_pushes {op : MessageQueue.Input MessageType} (h : ¬op.pushes = false) :
    ∃ call m, Entered m s.queue.toQueues (s.queue.step (op.renumber messageId)).toQueues ∧
      op.call? = some call ∧ m.tag = ⟨call.uniqueId, call.uniqueId, call.action⟩ := by
  cases op with
  | pushCall _ call => exact ⟨call, _, MessageQueue.pushCall_entered _ call _ _, rfl, rfl⟩
  | pushCallAsync _ call => exact ⟨call, _, MessageQueue.pushCallAsync_entered _, rfl, rfl⟩
  | _ => exact absurd rfl h

/-- A message in the queue was there before, is new, or is the unanswered call under its next
id. -/
theorem act_tags (h : Sound ids bound s) :
    ∀ g ∈ (s.act (ids.create bound) input).queue.tags, g ∈ s.queue.tags ∨
      g.uniqueId = g.initialUniqueId ∧ g.initialUniqueId ∈ s.pushed (ids.create bound) input ∨
      ∃ m ∈ s.unanswered input, m.tag ∈ s.queue.tags ∧
        g = { m.tag with uniqueId := ids.create bound } := by
  intro g hg
  rw [(act_effect _ s input).queue] at hg
  rw [← operation_hit, pushed]
  cases hop : s.operation (ids.create bound) input with
  | none =>
    rw [hop] at hg
    exact .inl hg
  | some op =>
    rw [hop] at hg
    by_cases hpush : op.pushes = false
    · rcases useQueue_kept op h.tags_fresh hpush with ⟨htags, -, -⟩ |
        ⟨m, hm, rest, hbef, hafter, -, -⟩
      · exact .inl (mem_of_le htags hg)
      · rcases mem_cons.1 (hafter ▸ hg) with rfl | hg
        · exact .inr (.inr ⟨m, hm, hbef ▸ mem_cons_self _ _, rfl⟩)
        · exact .inl (hbef ▸ mem_cons_of_mem hg)
    · obtain ⟨call, m, hent, hcall, htag⟩ := @entered_of_pushes s (ids.create bound) op hpush
      rcases mem_cons.1 (mem_of_le hent.tags hg) with rfl | hg
      · exact .inr (.inl ⟨by rw [htag], by simp [hcall, htag]⟩)
      · exact .inl hg

section

variable (h : Sound ids bound s)
include h

lemma operate_handler {op : Option (MessageQueue.Input MessageType)} :
    (s.operate (ids.create bound) op).handler = s.handler ∨
      ∃ m ∈ op.bind s.queue.hit, m.messageType = .startTransaction ∧ m.tag ∈ s.queue.tags ∧
        (s.operate (ids.create bound) op).handler =
          s.handler.startTransactionMessageRetryCallback (ids.create bound) m.uniqueId := by
  cases op with
  | none => exact .inl rfl
  | some op =>
    by_cases hpush : op.pushes = false
    · rcases useQueue_kept op h.tags_fresh hpush with ⟨-, -, hhandler⟩ |
        ⟨m, hm, rest, hbef, -, -, hhandler⟩
      · exact .inl hhandler
      · split_ifs at hhandler with htype
        · exact .inr ⟨m, hm, htype, hbef ▸ mem_cons_self _ _, hhandler⟩
        · exact .inl hhandler
    · obtain ⟨_, _, hent, -⟩ := @entered_of_pushes s (ids.create bound) op hpush
      exact .inl (by simp [operate, useQueue, retriedStart?_eq_none hent.startRetries])

/-- Under the id of a StartTransaction, `get_transaction` finds the transaction by the id that
it remembers for its start. -/
theorem startId_of_named (hknown : Known s.issued g) (htype : g.messageType = .startTransaction)
    (hnamed : s.handler.named g.uniqueId t = true) :
    ∃ transaction, s.handler.transactions[t]? = some transaction ∧
      transaction.startTransactionMessageId = g.uniqueId := by
  obtain ⟨transaction, ht, hid⟩ := TransactionHandler.named_iff.1 hnamed
  refine ⟨transaction, ht, hid.resolve_right fun hstop => ?_⟩
  -- a StartTransaction has no id that a transaction was stopped under
  have hiss := (h.recorded.stop t transaction ht).resolve_left (by
    rw [hstop]
    obtain ⟨e, he, hid⟩ := List.mem_map.1 hknown.uniqueId_mem
    exact hid ▸ h.ledger.ne_empty he)
  rw [hstop] at hiss
  rcases hknown.attempt with hfirst | hretry
  · exact hknown.startsTransaction h.ledger htype (hfirst ▸ hiss)
  · exact absurd (h.ledger.unique hiss hretry) (by simp)

lemma callback_transactions {m : ControlMessage MessageType}
    (htype : m.messageType = .startTransaction) (hm : m.tag ∈ s.queue.tags)
    (ht : s.handler.transactions[t]? = some transaction) {newMessageId : MessageId} :
    ∃ transaction', (s.handler.startTransactionMessageRetryCallback newMessageId
        m.uniqueId).transactions[t]? = some transaction' ∧
      transaction'.transactionId = transaction.transactionId ∧
      (transaction'.startTransactionMessageId = transaction.startTransactionMessageId ∨
        transaction.startTransactionMessageId = m.uniqueId) := by
  unfold TransactionHandler.startTransactionMessageRetryCallback
  split
  swap
  · exact ⟨transaction, ht, rfl, .inl rfl⟩
  rename_i t' hfound
  rw [TransactionHandler.update_getElem?, ht]
  split_ifs with heq
  swap
  · exact ⟨transaction, rfl, rfl, .inl rfl⟩
  subst heq
  refine ⟨_, rfl, rfl, .inr ?_⟩
  obtain ⟨found, hfound, hid⟩ := startId_of_named h (h.tags _ hm) htype (List.find?_some hfound)
  obtain rfl : transaction = found := Option.some.inj (ht.symm.trans hfound)
  exact hid

/-- A transaction keeps its ids, except that `start_transaction` and a retry set the one of
the StartTransaction, and the handler of the conf sets the transaction id. -/
theorem act_transactions (ht : s.handler.transactions[t]? = some transaction) :
    ∃ transaction', (s.act (ids.create bound) input).handler.transactions[t]? =
        some transaction' ∧
      (transaction'.startTransactionMessageId = transaction.startTransactionMessageId ∨
        s.session = .startAdded t transaction'.startTransactionMessageId ∧
          (s.act (ids.create bound) input).session =
            .startNumbered t transaction'.startTransactionMessageId ∨
        ∃ m ∈ s.unanswered input, m.messageType = .startTransaction ∧ m.tag ∈ s.queue.tags ∧
          transaction.startTransactionMessageId = m.uniqueId) ∧
      (transaction'.transactionId = transaction.transactionId ∨
        ∃ transactionId, s.websocket = .startReplaced transactionId t) := by
  have heff := act_effect (ids.create bound) s input
  rcases operate_handler h with hsame |
    ⟨m, hm, htype, htag, hcallback⟩
  · obtain ⟨transaction', ht', hstart, hid⟩ :=
      heff.transactions t transaction (hsame ▸ ht)
    exact ⟨transaction', ht', hstart.imp_right .inl, hid⟩
  · rw [operation_hit] at hm
    obtain ⟨between, hbetween, hid, hstart⟩ :=
      callback_transactions h htype htag ht
    obtain ⟨transaction', ht', hstart', hid'⟩ :=
      heff.transactions t between (hcallback ▸ hbetween)
    refine ⟨transaction', ht', ?_, hid'.imp_left (·.trans hid)⟩
    rcases hstart' with hsame | hadded
    · exact hstart.imp (hsame.trans ·) fun heq => .inr ⟨m, hm, htype, htag, heq⟩
    · exact .inr (.inl hadded)

lemma act_fresh
    (ht : (s.act (ids.create bound) input).handler.transactions[t]? = some transaction) :
    t < s.handler.transactions.length ∨
      transaction.startTransactionMessageId = "" ∧ transaction.transactionId = none := by
  refine ((act_effect (ids.create bound) s input).fresh t transaction ht).imp_left fun hlt => ?_
  rcases operate_handler h with hsame | ⟨m, -, -, -, heq⟩
  · rwa [hsame] at hlt
  · rwa [heq, TransactionHandler.callback_length] at hlt

lemma act_length : s.handler.transactions.length ≤
    (s.act (ids.create bound) input).handler.transactions.length := by
  refine Nat.le_of_not_lt fun hlt => ?_
  obtain ⟨_, ht, -⟩ := act_transactions h (List.getElem?_eq_getElem hlt)
  exact absurd (List.getElem?_eq_some_iff.1 ht).1 (lt_irrefl _)

lemma Sound.not_settled (hg : g ∈ s.queue.tags) :
    g.initialUniqueId ∉ s.settled := by
  have honce := h.once
  rw [initials, nodup_add] at honce
  intro hmem
  exact disjoint_left.1 honce.2.2 (mem_map_of_mem _ hg)
    (mem_add.2 (.inr hmem))

lemma Sound.handling {initial : MessageId} (hmem : initial ∈ s.settled)
    (hhandle : (s.act messageId input).Handling initial) : s.Handling initial := by
  obtain ⟨call, messageType, hcall, rfl⟩ := hhandle
  rcases (act_effect messageId s input).answered call messageType hcall with hold | htag
  · exact ⟨call, messageType, hold, rfl⟩
  · exact absurd hmem (h.not_settled htag)

end

lemma act_meterValues (h : (i, .meterValues (some t)) ∈ (s.act messageId input).issued) :
    (i, .meterValues (some t)) ∈ s.issued ∨
      i = messageId ∧ s.operation messageId input = none ∧
        ∃ connector, s.handler.activeTransaction connector = some t := by
  obtain ⟨new, hiss, hnew⟩ := (act_effect messageId s input).issued
  rw [hiss, List.mem_append] at h
  rcases h with h | h
  · obtain ⟨rfl, hop, hact⟩ := hnew _ h
    exact .inr ⟨rfl, hop, hact t rfl⟩
  · refine .inl ?_
    cases hop : s.operation messageId input with
    | none => rwa [hop] at h
    | some =>
      rw [hop] at h
      rcases List.mem_append.1 h with hused | hold
      · obtain ⟨m, -, heq⟩ := List.mem_map.1 hused
        split_ifs at heq <;> simp at heq
      · exact hold

/-- The id of a pushed call is new, or it is the one that the session thread or a sender of
MeterValues has ready. -/
theorem mem_pushed (h : i ∈ s.pushed messageId input) :
    i = messageId ∧ (s.operation messageId input).isSome ∨
      (∃ p ∈ [Purpose.start, Purpose.stop], ∃ t, (i, p t) ∈ s.session.ids) ∨
      ∃ sender ∈ s.senders, sender.messageId = i ∧
        ∃ transactionId, sender.stage = .ready transactionId := by
  obtain ⟨call, hbind, rfl⟩ := Option.map_eq_some_iff.1 h
  obtain ⟨op, hop, hcall⟩ := Option.bind_eq_some_iff.1 hbind
  have hturn := act_turn messageId s input
  rw [hop] at hturn ⊢
  generalize s.act messageId input = s' at hturn
  cases hturn with
  | push | pushAsync =>
    cases hcall
    exact .inl ⟨rfl, rfl⟩
  | queue hext =>
    have hpush := external_pushes hext
    cases op with
    | pushCall | pushCallAsync => cases hpush
    | _ => cases hcall
  | queueStart t hs hop =>
    cases hcall.symm.trans (dispatched_call? hop)
    exact .inr (.inl ⟨.start, by simp, t, by simp [hs]⟩)
  | queueStop t hs hop =>
    cases hcall.symm.trans (dispatched_call? hop)
    exact .inr (.inl ⟨.stop, by simp, t, by simp [hs]⟩)
  | send hn hstage hop =>
    cases hcall.symm.trans (dispatched_call? hop)
    exact .inr (.inr ⟨_, List.mem_of_getElem? hn, rfl, _, hstage⟩)
  | notify _ _ _ _ hop =>
    obtain ⟨_, rfl⟩ := hop op rfl
    cases hcall
  | _ => cases hcall

lemma start_activeTransaction (connectors : ℕ) (config : MessageQueueConfig MessageType)
    (connector : ℕ) : (start connectors config).handler.activeTransaction connector = none := by
  simp only [start, TransactionHandler.activeTransaction, List.getElem?_replicate]
  split_ifs <;> rfl

end V16.ChargePoint

end Everest.Ocpp
