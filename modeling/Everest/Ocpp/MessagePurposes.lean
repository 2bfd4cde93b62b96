import Everest.Ocpp.ChargePointTurns

namespace Everest.Ocpp.V16
open Queues Multiset TransactionHandler MessageQueue

def Purpose.Fits (messageType : MessageType) : Purpose → Prop
  | .start _ => messageType = .startTransaction
  | .stop _ => messageType = .stopTransaction
  | .meterValues _ => messageType = .meterValues
  | .other => ofTransaction messageType = false
  | .retry _ => False

/-- The ids handed out so far, each for one purpose. -/
structure Ledger (ids : MessageIds) (created : ℕ) (issued : List (MessageId × Purpose)) :
    Prop where
  created : ∀ e ∈ issued, ∃ n < created, e.1 = ids.create n
  nodup : (issued.map (·.1)).Nodup

namespace Ledger

variable {ids : MessageIds} {created : ℕ} {issued : List (MessageId × Purpose)}

section

variable (h : Ledger ids created issued)
include h

lemma unique {messageId : MessageId} {p p' : Purpose} (hp : (messageId, p) ∈ issued)
    (hp' : (messageId, p') ∈ issued) : p = p' :=
  congrArg Prod.snd (List.inj_on_of_nodup_map h.nodup hp hp' rfl)

lemma fresh : ids.create created ∉ issued.map (·.1) := by
  intro hmem
  obtain ⟨e, he, heq⟩ := List.mem_map.1 hmem
  obtain ⟨n, hn, hcreate⟩ := h.created e he
  exact absurd (ids.injective (hcreate.symm.trans heq)) hn.ne

lemma ne_empty {e : MessageId × Purpose} (he : e ∈ issued) : e.1 ≠ "" := by
  obtain ⟨n, -, hcreate⟩ := h.created e he
  exact hcreate ▸ ids.ne_empty n

lemma skip : Ledger ids (created + 1) issued :=
  ⟨fun e he => (h.created e he).imp fun _ hn => ⟨hn.1.trans (Nat.lt_succ_self _), hn.2⟩, h.nodup⟩

lemma issue (p : Purpose) : Ledger ids (created + 1) ((ids.create created, p) :: issued) := by
  refine ⟨?_, List.nodup_cons.2 ⟨h.fresh, h.nodup⟩⟩
  intro e he
  rcases List.mem_cons.1 he with rfl | he
  · exact ⟨created, Nat.lt_succ_self _, rfl⟩
  · exact h.skip.created e he

end

end Ledger

/-- The message was queued under an id made for it, and any other id it has is that of a
further attempt. -/
structure Known (issued : List (MessageId × Purpose)) (g : Tag MessageType) : Prop where
  purpose : ∃ p, (g.initialUniqueId, p) ∈ issued ∧ p.Fits g.messageType
  attempt : g.uniqueId = g.initialUniqueId ∨ (g.uniqueId, .retry g.initialUniqueId) ∈ issued

def StartId (issued : List (MessageId × Purpose)) (t : ℕ) (messageId : MessageId) : Prop :=
  (messageId, .start t) ∈ issued ∨
    ∃ initial, (messageId, .retry initial) ∈ issued ∧ (initial, .start t) ∈ issued

/-- The ids that a transaction remembers are those of its own messages. -/
structure Recorded (issued : List (MessageId × Purpose)) (transactions : List Transaction) :
    Prop where
  start : ∀ t transaction, transactions[t]? = some transaction →
    transaction.startTransactionMessageId = "" ∨
      StartId issued t transaction.startTransactionMessageId
  stop : ∀ t transaction, transactions[t]? = some transaction →
    transaction.stopTransactionMessageId = "" ∨
      (transaction.stopTransactionMessageId, .stop t) ∈ issued

section Lookup

variable {issued issued' : List (MessageId × Purpose)} {g : Tag MessageType}
  {ids : MessageIds} {created t : ℕ} {h : TransactionHandler}

lemma Known.mono (hg : Known issued g) (hsub : issued ⊆ issued') : Known issued' g :=
  ⟨hg.purpose.imp fun _ hp => ⟨hsub hp.1, hp.2⟩, hg.attempt.imp_right fun hr => hsub hr⟩

variable {messageId : MessageId}

lemma StartId.mono (hid : StartId issued t messageId) (hsub : issued ⊆ issued') :
    StartId issued' t messageId :=
  hid.imp (fun hs => hsub hs) fun ⟨initial, hretry, hstart⟩ => ⟨initial, hsub hretry, hsub hstart⟩

lemma Recorded.mono {transactions : List Transaction} (hr : Recorded issued transactions)
    (hsub : issued ⊆ issued') : Recorded issued' transactions :=
  ⟨fun t transaction ht => (hr.start t transaction ht).imp_right (·.mono hsub),
    fun t transaction ht => (hr.stop t transaction ht).imp_right fun hs => hsub hs⟩

lemma Known.uniqueId_mem (hg : Known issued g) : g.uniqueId ∈ issued.map (·.1) := by
  obtain ⟨p, hp, -⟩ := hg.purpose
  rcases hg.attempt with heq | hretry
  · exact heq ▸ List.mem_map_of_mem hp
  · exact List.mem_map_of_mem hretry

section

variable (hl : Ledger ids created issued) (hg : Known issued g)
include hl hg

lemma Known.fits {p : Purpose} (hp : (g.initialUniqueId, p) ∈ issued) : p.Fits g.messageType := by
  obtain ⟨p', hp', hfits⟩ := hg.purpose
  exact hl.unique hp' hp ▸ hfits

lemma Known.not_retry {initial : MessageId} : (g.initialUniqueId, .retry initial) ∉ issued :=
  fun hretry => hg.fits hl hretry

lemma Known.initial_eq {g' : Tag MessageType} (hg' : Known issued g')
    (heq : g.uniqueId = g'.uniqueId) :
    g.initialUniqueId = g'.initialUniqueId := by
  rcases hg.attempt with hfirst | hretry <;> rcases hg'.attempt with hfirst' | hretry'
  · exact hfirst.symm.trans (heq.trans hfirst')
  · rw [← heq, hfirst] at hretry'
    exact absurd hretry' (hg.not_retry hl)
  · rw [heq, hfirst'] at hretry
    exact absurd hretry (hg'.not_retry hl)
  · rw [heq] at hretry
    exact Purpose.retry.inj (hl.unique hretry hretry')

lemma StartId.initial (hid : StartId issued t g.uniqueId) :
    (g.initialUniqueId, .start t) ∈ issued := by
  rcases hid with hstart | ⟨initial, hretry, hstart⟩ <;> rcases hg.attempt with heq | hagain
  · exact heq ▸ hstart
  · exact absurd (hl.unique hstart hagain) (by simp)
  · rw [heq] at hretry
    exact absurd hretry (hg.not_retry hl)
  · obtain rfl := Purpose.retry.inj (hl.unique hretry hagain)
    exact hstart

end

lemma TransactionHandler.named_iff :
    h.named messageId t = true ↔ ∃ transaction, h.transactions[t]? = some transaction ∧
      (transaction.startTransactionMessageId = messageId ∨
        transaction.stopTransactionMessageId = messageId) := by
  unfold named
  cases h.transactions[t]? <;> simp

/-- What `get_transaction` can find under the id of a message. -/
theorem named_cases (hl : Ledger ids created issued) (hr : Recorded issued h.transactions)
    (hg : Known issued g) (hnamed : h.named g.uniqueId t = true) :
    (g.initialUniqueId, .start t) ∈ issued ∨
      g.uniqueId = g.initialUniqueId ∧ (g.initialUniqueId, .stop t) ∈ issued := by
  have hne : g.uniqueId ≠ "" := by
    obtain ⟨e, he, heq⟩ := List.mem_map.1 hg.uniqueId_mem
    exact heq ▸ hl.ne_empty he
  obtain ⟨transaction, ht, hid | hid⟩ := named_iff.1 hnamed
  · have hstart := (hr.start t transaction ht).resolve_left (hid ▸ hne)
    rw [hid] at hstart
    exact .inl (hstart.initial hl hg)
  · have hstop := (hr.stop t transaction ht).resolve_left (hid ▸ hne)
    rw [hid] at hstop
    rcases hg.attempt with heq | hretry
    · exact .inr ⟨heq, heq ▸ hstop⟩
    · exact absurd (hl.unique hstop hretry) (by simp)

end Lookup

lemma mem_tags {M : Type} {q : Queues M} {g : Tag M} :
    g ∈ q.tags ↔ ∃ m ∈ q.inFlight.toList ++ q.transactionMessageQueue ++ q.normalMessageQueue,
      m.tag = g := by
  have hflight : g ∈ (q.inFlight.map (·.tag)).toList ↔ ∃ m ∈ q.inFlight.toList, m.tag = g := by
    cases q.inFlight <;> simp [eq_comm]
  simp only [tags, mem_add, mem_coe, hflight, List.mem_map, List.mem_append,
    or_and_right, exists_or, or_assoc]

variable {q : Queues MessageType} (messageId : MessageId)

lemma usedFor_eq_nil (h : ∀ g ∈ q.tags, g.uniqueId ≠ messageId) : usedFor messageId q = [] := by
  have hnone : (q.inFlight.toList ++ q.transactionMessageQueue ++ q.normalMessageQueue).find?
      (·.uniqueId = messageId) = none := by
    refine List.find?_eq_none.2 fun m hm hid => ?_
    exact h m.tag (mem_tags.2 ⟨m, hm, rfl⟩) (of_decide_eq_true hid)
  rw [usedFor, hnone]
  rfl

lemma usedFor_eq {g : Tag MessageType} (hg : g ∈ q.tags) (hid : g.uniqueId = messageId)
    (honly : ∀ g' ∈ q.tags, g'.uniqueId = messageId → g'.initialUniqueId = g.initialUniqueId) :
    usedFor messageId q = [(messageId, if g.initialUniqueId = messageId then .other
        else .retry g.initialUniqueId)] := by
  obtain ⟨m, hm, rfl⟩ := mem_tags.1 hg
  obtain ⟨n, hn⟩ : ∃ n, (q.inFlight.toList ++ q.transactionMessageQueue ++
      q.normalMessageQueue).find? (·.uniqueId = messageId) = some n :=
    Option.isSome_iff_exists.1 (List.find?_isSome.2 ⟨m, hm, decide_eq_true hid⟩)
  have hsame := List.find?_some hn
  have hinit : n.initialUniqueId = m.initialUniqueId :=
    honly n.tag (mem_tags.2 ⟨n, List.mem_of_find?_eq_some hn, rfl⟩)
      (by simpa [ControlMessage.tag] using hsame)
  rw [usedFor, hn, Option.toList_some, List.map_singleton, hinit]
  rfl

lemma retriedStart?_eq_none {before after : Queues MessageType}
    (h : after.startRetries = before.startRetries) : retriedStart? before after = none := by
  simp [retriedStart?, h]

namespace ChargePoint

variable {ids : MessageIds} {messageId : MessageId} {s : ChargePoint}
  {input : MessageQueue.Input MessageType}

attribute [local simp] useQueue

/-- An operation that pushes no call lets messages go, or puts the call it hits back under
the new id. -/
theorem useQueue_kept (input : MessageQueue.Input MessageType)
    (htags : ∀ g ∈ s.queue.tags, g.initialUniqueId ≠ messageId ∧ g.uniqueId ≠ messageId)
    (hpush : input.pushes = false) :
    ((s.useQueue messageId input).queue.tags ≤ s.queue.tags ∧
      (s.useQueue messageId input).issued = s.issued ∧
      (s.useQueue messageId input).handler = s.handler) ∨
    ∃ m ∈ s.queue.hit input, ∃ rest, s.queue.tags = m.tag ::ₘ rest ∧
      (s.useQueue messageId input).queue.tags = { m.tag with uniqueId := messageId } ::ₘ rest ∧
      (s.useQueue messageId input).issued = (messageId, .retry m.initialUniqueId) :: s.issued ∧
      (s.useQueue messageId input).handler = if m.messageType = .startTransaction then
          s.handler.startTransactionMessageRetryCallback messageId m.uniqueId
        else s.handler := by
  have hhit : s.queue.hit (input.renumber messageId) = s.queue.hit input := by
    cases input <;> rfl
  have hkept := step_kept rfl s.queue (input.renumber messageId) (by cases input <;> exact hpush)
  rw [hhit] at hkept
  rcases hkept with hfewer | ⟨m, hm, rest, hretried⟩
  · refine .inl ⟨hfewer.tags, ?_, ?_⟩
    · have hnil := usedFor_eq_nil messageId fun g hg =>
        (htags g (mem_of_le hfewer.tags hg)).2
      simp [hnil]
    · simp [retriedStart?_eq_none hfewer.startRetries]
  · have hid : (input.renumber messageId).newMessageId = messageId := by
      cases input with
      | workerIteration | receive | inFlightTimeout | pause => rfl
      | _ => exact absurd hm (by simp [hit])
    rw [hid] at hretried
    refine .inr ⟨m, hm, rest, hretried.before, hretried.tags, ?_, ?_⟩
    · have hrest : ∀ g ∈ rest, g.uniqueId ≠ messageId := fun g hg =>
        (htags g (hretried.before ▸ mem_cons_of_mem hg)).2
      have hused := usedFor_eq messageId (hretried.tags ▸ mem_cons_self _ _) rfl fun g hg hid => by
          rw [hretried.tags, mem_cons] at hg
          exact hg.elim (congrArg Tag.initialUniqueId) fun hg => absurd hid (hrest g hg)
      have hm' : m.tag.initialUniqueId ≠ messageId :=
        (htags m.tag (hretried.before ▸ mem_cons_self _ _)).1
      simp only [useQueue, hused]
      rw [if_neg hm']
      rfl
    · have hstart : (isStartTransactionMessage m.tag.messageType = true) ↔
          m.messageType = .startTransaction := decide_eq_true_iff
      by_cases htype : m.messageType = .startTransaction
      · have hretries := hretried.startRetries
        rw [if_pos (hstart.2 htype)] at hretries
        rw [if_pos htype]
        simp [retriedStart?, hretries, ControlMessage.tag]
      · have hretries := hretried.startRetries
        rw [if_neg (mt hstart.1 htype)] at hretries
        rw [if_neg htype]
        simp [retriedStart?_eq_none (by simpa using hretries)]

lemma useQueue_pushCall {env : Env} {call : Call MessageType} {stallUntilAccepted : Bool}
    (htags : ∀ g ∈ s.queue.tags, g.uniqueId ≠ messageId) (hcall : call.uniqueId ≠ messageId) :
    (s.useQueue messageId (.pushCall env call stallUntilAccepted)).queue.tags ≤
        ⟨call.uniqueId, call.uniqueId, call.action⟩ ::ₘ s.queue.tags ∧
      (s.useQueue messageId (.pushCall env call stallUntilAccepted)).issued = s.issued ∧
      (s.useQueue messageId (.pushCall env call stallUntilAccepted)).handler = s.handler := by
  have hent := pushCall_entered { env with newMessageId := messageId } call
    stallUntilAccepted s.queue
  refine ⟨hent.tags, ?_, ?_⟩
  · have hnil := usedFor_eq_nil messageId
      (q := (s.queue.pushCall { env with newMessageId := messageId } call
        stallUntilAccepted).toQueues) fun g hg => by
        rcases mem_cons.1 (mem_of_le hent.tags hg) with rfl | hg
        · exact hcall
        · exact htags g hg
    simp [MessageQueue.Input.renumber, MessageQueue.step, hnil]
  · simp [MessageQueue.Input.renumber, MessageQueue.step,
      retriedStart?_eq_none hent.startRetries]

lemma useQueue_other {action : MessageType} {m : ControlMessage MessageType}
    (htags : ∀ g ∈ s.queue.tags, g.uniqueId ≠ messageId)
    (hm : m.tag = ⟨messageId, messageId, action⟩)
    (hent : Entered m s.queue.toQueues (s.queue.step (input.renumber messageId)).toQueues) :
    ((s.useQueue messageId input).queue.tags ≤ s.queue.tags ∧
        (s.useQueue messageId input).issued = s.issued ∨
      (s.useQueue messageId input).queue.tags ≤ ⟨messageId, messageId, action⟩ ::ₘ s.queue.tags ∧
        (s.useQueue messageId input).issued = (messageId, .other) :: s.issued) ∧
      (s.useQueue messageId input).handler = s.handler := by
  have hle := hent.tags
  rw [hm] at hle
  constructor
  · by_cases hmem : ⟨messageId, messageId, action⟩ ∈
        (s.queue.step (input.renumber messageId)).tags
    · refine .inr ⟨hle, ?_⟩
      have hused := usedFor_eq messageId hmem rfl fun g hg hid => by
        rcases mem_cons.1 (mem_of_le hle hg) with rfl | hg
        · rfl
        · exact absurd hid (htags g hg)
      simp [hused]
    · have hle' := (le_cons_of_notMem hmem).1 hle
      have hnil := usedFor_eq_nil messageId fun g hg => htags g (mem_of_le hle' hg)
      exact .inl ⟨hle', by simp [hnil]⟩
  · simp [retriedStart?_eq_none hent.startRetries]

end ChargePoint

@[simp] def SessionThread.pending : SessionThread → List MessageId
  | .startAdded _ messageId | .startNumbered _ messageId
  | .stopPrepared _ _ messageId _ => [messageId]
  | _ => []

@[simp] def SessionThread.ids : SessionThread → List (MessageId × Purpose)
  | .startAdded t messageId | .startNumbered t messageId => [(messageId, .start t)]
  | .stopPrepared _ t messageId _ | .stopDispatched _ t messageId | .stopFinished _ t messageId
  | .stopRecorded _ t messageId => [(messageId, .stop t)]
  | .idle | .stopMoved _ => []

@[simp] def WebsocketThread.answered :
    WebsocketThread → Option (ControlMessage MessageType × MessageType)
  | .startReceived call _ | .startFound call _ _ | .startNotified call _ _ =>
    some (call, .startTransaction)
  | .stopReceived call | .stopLookedUp call => some (call, .stopTransaction)
  | .idle | .startReplaced .. => none

namespace ChargePoint

/-- The first ids of all messages that are made, queued or answered. -/
def initials (s : ChargePoint) : Multiset MessageId :=
  s.queue.tags.map (·.initialUniqueId) +
    ((s.session.pending ++ s.senders.map (·.messageId) : List MessageId) + s.settled)

/-- The answer to the message that was queued under this id is being handled. -/
def Handling (s : ChargePoint) (initialUniqueId : MessageId) : Prop :=
  ∃ call messageType, s.websocket.answered = some (call, messageType) ∧
    call.initialUniqueId = initialUniqueId

/-- Fewer than `bound` ids have been created. -/
structure Sound (ids : MessageIds) (bound : ℕ) (s : ChargePoint) : Prop where
  ledger : Ledger ids bound s.issued
  tags : ∀ g ∈ s.queue.tags, Known s.issued g
  session : ∀ e ∈ s.session.ids, e ∈ s.issued
  senders : ∀ sender ∈ s.senders, (sender.messageId, .meterValues sender.transaction) ∈ s.issued
  settled : ∀ messageId ∈ s.settled, messageId ∈ s.issued.map (·.1)
  once : s.initials.Nodup
  recorded : Recorded s.issued s.handler.transactions
  started : ∀ messageId t, (messageId, .start t) ∈ s.issued → t < s.handler.transactions.length
  startOnce : ∀ messageId messageId' t, (messageId, .start t) ∈ s.issued →
    (messageId', .start t) ∈ s.issued → messageId = messageId'
  answered : ∀ call messageType, s.websocket.answered = some (call, messageType) →
    Known s.issued call.tag ∧ call.messageType = messageType ∧ call.initialUniqueId ∈ s.settled

end ChargePoint

namespace TransactionHandler

variable {h : TransactionHandler} {t j : ℕ} {f : Transaction → Transaction}

lemma update_getElem? : (h.update t f).transactions[j]? =
    if t = j then (h.transactions[j]?).map f else h.transactions[j]? := by
  unfold update
  rw [List.getElem?_modify]
  split_ifs <;> simp

@[simp] lemma update_length : (h.update t f).transactions.length = h.transactions.length :=
  List.length_modify ..

lemma addTransaction_getElem? {new transaction : Transaction}
    (ht : (h.addTransaction new).transactions[t]? = some transaction) :
    h.transactions[t]? = some transaction ∨ new = transaction := by
  rw [addTransaction, List.getElem?_append, List.getElem?_singleton] at ht
  split_ifs at ht
  · exact .inl ht
  · exact .inr (Option.some.inj ht)

lemma callback_length (newMessageId oldMessageId : MessageId) :
    (h.startTransactionMessageRetryCallback newMessageId oldMessageId).transactions.length =
      h.transactions.length := by
  unfold startTransactionMessageRetryCallback
  split
  · exact update_length
  · rfl

end TransactionHandler

section Recorded

variable {issued : List (MessageId × Purpose)} {g : Tag MessageType} {ids : MessageIds}
  {bound t : ℕ} {h : TransactionHandler}

lemma Recorded.update (hr : Recorded issued h.transactions) {f : Transaction → Transaction}
    (hstart : ∀ transaction, h.transactions[t]? = some transaction →
      (f transaction).startTransactionMessageId = transaction.startTransactionMessageId ∨
        StartId issued t (f transaction).startTransactionMessageId)
    (hstop : ∀ transaction, h.transactions[t]? = some transaction →
      (f transaction).stopTransactionMessageId = transaction.stopTransactionMessageId ∨
        ((f transaction).stopTransactionMessageId, .stop t) ∈ issued) :
    Recorded issued (h.update t f).transactions := by
  have hcases : ∀ j transaction, (h.update t f).transactions[j]? = some transaction →
      h.transactions[j]? = some transaction ∨
        t = j ∧ ∃ before, h.transactions[j]? = some before ∧ f before = transaction := by
    intro j transaction hj
    rw [update_getElem?] at hj
    split_ifs at hj with heq
    · exact .inr ⟨heq, Option.map_eq_some_iff.1 hj⟩
    · exact .inl hj
  constructor
  · intro j transaction hj
    rcases hcases j transaction hj with hold | ⟨rfl, before, hbef, rfl⟩
    · exact hr.start j transaction hold
    · rcases hstart before hbef with heq | hnew
      · exact heq ▸ hr.start t before hbef
      · exact .inr hnew
  · intro j transaction hj
    rcases hcases j transaction hj with hold | ⟨rfl, before, hbef, rfl⟩
    · exact hr.stop j transaction hold
    · rcases hstop before hbef with heq | hnew
      · exact heq ▸ hr.stop t before hbef
      · exact .inr hnew

lemma Known.startsTransaction (hl : Ledger ids bound issued) (hg : Known issued g)
    (htype : g.messageType = .startTransaction) : (g.initialUniqueId, .stop t) ∉ issued := by
  intro hstop
  cases htype.symm.trans (hg.fits hl hstop)

lemma Known.stop (hg : Known issued g) (htype : g.messageType = .stopTransaction) :
    ∃ t, (g.initialUniqueId, .stop t) ∈ issued := by
  obtain ⟨p, hp, hfits⟩ := hg.purpose
  cases p <;> simp_all [Purpose.Fits, ofTransaction]
  exact ⟨_, hp⟩

lemma Recorded.callback (hl : Ledger ids bound issued) (hr : Recorded issued h.transactions)
    (hg : Known issued g) (htype : g.messageType = .startTransaction) (messageId : MessageId) :
    Recorded ((messageId, .retry g.initialUniqueId) :: issued)
      (h.startTransactionMessageRetryCallback messageId g.uniqueId).transactions := by
  have hsub : issued ⊆ (messageId, .retry g.initialUniqueId) :: issued := List.subset_cons_self _ _
  unfold startTransactionMessageRetryCallback
  split
  · rename_i t hfound
    have hnamed : h.named g.uniqueId t = true := List.find?_some hfound
    have hstart := (named_cases hl hr hg hnamed).resolve_right fun hstop =>
      hg.startsTransaction hl htype hstop.2
    refine (hr.mono hsub).update (fun transaction _ => ?_) fun transaction _ => .inl rfl
    exact .inr (.inr ⟨g.initialUniqueId, List.mem_cons_self, hsub hstart⟩)
  · exact hr.mono hsub

end Recorded

namespace ChargePoint

variable {ids : MessageIds} {bound : ℕ} {s : ChargePoint}
  {input : MessageQueue.Input MessageType}

lemma Sound.skip (h : Sound ids bound s) : Sound ids (bound + 1) s :=
  { h with ledger := h.ledger.skip }

lemma Sound.tags_fresh (h : Sound ids bound s) : ∀ g ∈ s.queue.tags,
    g.initialUniqueId ≠ ids.create bound ∧ g.uniqueId ≠ ids.create bound := by
  intro g hg
  obtain ⟨p, hp, -⟩ := (h.tags g hg).purpose
  exact ⟨fun heq => h.ledger.fresh (heq ▸ List.mem_map_of_mem hp),
    fun heq => h.ledger.fresh (heq ▸ (h.tags g hg).uniqueId_mem)⟩

variable {messageId : MessageId} {s' : ChargePoint} {p : Purpose} {received : Received}
    {call : ControlMessage MessageType} {session : SessionThread}

section

variable (h : Sound ids bound s)
include h

lemma Sound.initials_issued (hmem : messageId ∈ s.initials) : messageId ∈ s.issued.map (·.1) := by
  simp only [initials, mem_add, mem_map, mem_coe, List.mem_append, List.mem_map] at hmem
  rcases hmem with ⟨g, hg, rfl⟩ | (hsess | ⟨sender, hsend, rfl⟩) | hsettl
  · obtain ⟨p, hp, -⟩ := (h.tags g hg).purpose
    exact List.mem_map_of_mem hp
  · obtain ⟨p, hp⟩ : ∃ p, (messageId, p) ∈ s.session.ids := by
      cases hs : s.session <;> simp_all
    exact List.mem_map_of_mem (h.session _ hp)
  · exact List.mem_map_of_mem (h.senders sender hsend)
  · exact h.settled messageId hsettl

lemma Sound.once_cons : (ids.create bound ::ₘ s.initials).Nodup :=
  nodup_cons.2 ⟨fun hmem => h.ledger.fresh (h.initials_issued hmem), h.once⟩

lemma Sound.of_queue {bound' : ℕ} (hsess : s'.session = s.session)
    (hsenders : s'.senders = s.senders) (hsettl : s'.settled = s.settled)
    (hws : s'.websocket = s.websocket) (hledger : Ledger ids bound' s'.issued)
    (hsub : s.issued ⊆ s'.issued)
    (hstart : ∀ messageId t, (messageId, .start t) ∈ s'.issued → (messageId, .start t) ∈ s.issued)
    (htags : ∀ g ∈ s'.queue.tags, Known s'.issued g) (honce : s'.initials.Nodup)
    (hrec : Recorded s'.issued s'.handler.transactions)
    (hlen : s'.handler.transactions.length = s.handler.transactions.length) :
    Sound ids bound' s' where
  ledger := hledger
  tags := htags
  session e he := hsub (h.session e (hsess ▸ he))
  senders sender hsend := hsub (h.senders sender (hsenders ▸ hsend))
  settled messageId hmem := List.map_subset _ hsub (h.settled messageId (hsettl ▸ hmem))
  once := honce
  recorded := hrec
  started messageId t hmem := hlen ▸ h.started messageId t (hstart messageId t hmem)
  startOnce messageId messageId' t hmem hmem' :=
    h.startOnce messageId messageId' t (hstart _ t hmem) (hstart _ t hmem')
  answered call messageType hcall := by
    obtain ⟨hknown, htype, hmem⟩ := h.answered call messageType (hws ▸ hcall)
    exact ⟨hknown.mono hsub, htype, hsettl ▸ hmem⟩

lemma Sound.fewer (htags : (s.useQueue (ids.create bound) input).queue.tags ≤ s.queue.tags)
    (hiss : (s.useQueue (ids.create bound) input).issued = s.issued)
    (hhandler : (s.useQueue (ids.create bound) input).handler = s.handler) :
    Sound ids (bound + 1) (s.useQueue (ids.create bound) input) := by
  refine h.of_queue rfl rfl rfl rfl (hiss ▸ h.ledger.skip) (hiss ▸ List.Subset.refl _)
    (fun _ _ hmem => hiss ▸ hmem) ?_ ?_ ?_ (by rw [hhandler])
  · intro g hg
    exact hiss ▸ h.tags g (mem_of_le htags hg)
  · refine nodup_of_le ?_ h.once
    exact add_le_add (map_le_map htags) le_rfl
  · rw [hiss, hhandler]
    exact h.recorded

lemma Sound.useQueue (input : MessageQueue.Input MessageType) (hpush : input.pushes = false) :
    Sound ids (bound + 1) (s.useQueue (ids.create bound) input) := by
  rcases useQueue_kept input h.tags_fresh hpush with ⟨htags, hiss, hhandler⟩ |
    ⟨m, hm, rest, hbef, hafter, hiss, hhandler⟩
  · exact h.fewer htags hiss hhandler
  · have hknown : Known s.issued m.tag := h.tags _ (hbef ▸ mem_cons_self _ _)
    have hsub : s.issued ⊆ (ids.create bound, .retry m.initialUniqueId) :: s.issued :=
      List.subset_cons_self _ _
    refine h.of_queue rfl rfl rfl rfl (hiss ▸ h.ledger.issue _) (hiss ▸ hsub) ?_ ?_ ?_ ?_ ?_
    · intro messageId t hmem
      rw [hiss] at hmem
      exact (List.mem_cons.1 hmem).resolve_left (by simp)
    · intro g hg
      rw [hiss]
      rcases mem_cons.1 (hafter ▸ hg) with rfl | hg
      · exact ⟨(hknown.mono hsub).purpose, .inr List.mem_cons_self⟩
      · exact (h.tags g (hbef ▸ mem_cons_of_mem hg)).mono hsub
    · have hsame : (s.useQueue (ids.create bound) input).initials = s.initials := by
        unfold initials
        rw [hafter, hbef, map_cons, map_cons]
        rfl
      exact hsame ▸ h.once
    · rw [hiss, hhandler]
      split_ifs with htype
      · exact h.recorded.callback h.ledger hknown htype _
      · exact h.recorded.mono hsub
    · rw [hhandler]
      split_ifs
      · exact callback_length _ _
      · rfl

lemma Sound.other (action : MessageType) (haction : ofTransaction action = false)
    {m : ControlMessage MessageType} (hm : m.tag = ⟨ids.create bound, ids.create bound, action⟩)
    (hent : Entered m s.queue.toQueues
      (s.queue.step (input.renumber (ids.create bound))).toQueues) :
    Sound ids (bound + 1) (s.useQueue (ids.create bound) input) := by
  obtain ⟨hcases, hhandler⟩ := useQueue_other (fun g hg => (h.tags_fresh g hg).2) hm hent
  rcases hcases with ⟨htags, hiss⟩ | ⟨htags, hiss⟩
  · exact h.fewer htags hiss hhandler
  · have hsub : s.issued ⊆ (ids.create bound, .other) :: s.issued := List.subset_cons_self _ _
    refine h.of_queue rfl rfl rfl rfl (hiss ▸ h.ledger.issue _) (hiss ▸ hsub) ?_ ?_ ?_ ?_
      (by rw [hhandler])
    · intro messageId t hmem
      rw [hiss] at hmem
      exact (List.mem_cons.1 hmem).resolve_left (by simp)
    · intro g hg
      rw [hiss]
      rcases mem_cons.1 (mem_of_le htags hg) with rfl | hg
      · exact ⟨⟨.other, List.mem_cons_self, haction⟩, .inl rfl⟩
      · exact (h.tags g hg).mono hsub
    · refine nodup_of_le ?_ h.once_cons
      refine (add_le_add (map_le_map htags) le_rfl).trans ?_
      rw [map_cons, cons_add]
      exact le_rfl
    · rw [hiss, hhandler]
      exact h.recorded.mono hsub

lemma Sound.issue (hqueue : s'.queue = s.queue)
    (hiss : s'.issued = (ids.create bound, p) :: s.issued) (hsettl : s'.settled = s.settled)
    (hws : s'.websocket = s.websocket)
    (hinitials : s'.initials = ids.create bound ::ₘ s.initials)
    (hsess : ∀ e ∈ s'.session.ids, e ∈ s'.issued)
    (hsenders : ∀ sender ∈ s'.senders,
      (sender.messageId, .meterValues sender.transaction) ∈ s'.issued)
    (hrec : Recorded s.issued s'.handler.transactions)
    (hlen : s.handler.transactions.length ≤ s'.handler.transactions.length)
    (hp : ∀ t, p = .start t → t = s.handler.transactions.length ∧
      t < s'.handler.transactions.length) : Sound ids (bound + 1) s' := by
  have hsub : s.issued ⊆ s'.issued := hiss ▸ List.subset_cons_self _ _
  have hstarted : ∀ messageId t, (messageId, .start t) ∈ s'.issued →
      messageId = ids.create bound ∧ p = .start t ∨ (messageId, .start t) ∈ s.issued := by
    intro messageId t hmem
    rw [hiss, List.mem_cons] at hmem
    exact hmem.imp_left fun heq => ⟨congrArg Prod.fst heq, (congrArg Prod.snd heq).symm⟩
  refine
    { ledger := hiss ▸ h.ledger.issue p
      tags := fun g hg => (h.tags g (hqueue ▸ hg)).mono hsub
      session := hsess
      senders := hsenders
      settled := fun messageId hmem =>
        List.map_subset _ hsub (h.settled messageId (hsettl ▸ hmem))
      once := ?_
      recorded := hrec.mono hsub
      started := ?_
      startOnce := ?_
      answered := ?_ }
  · exact hinitials ▸ h.once_cons
  · intro messageId t hmem
    rcases hstarted messageId t hmem with ⟨-, heq⟩ | hold
    · exact (hp t heq).2
    · exact (h.started messageId t hold).trans_le hlen
  · -- the transaction started now is new
    intro messageId messageId' t hmem hmem'
    rcases hstarted messageId t hmem with ⟨rfl, heq⟩ | hold <;>
      rcases hstarted messageId' t hmem' with ⟨rfl, heq'⟩ | hold'
    · rfl
    · exact absurd (h.started _ t hold') (by rw [(hp t heq).1]; exact lt_irrefl _)
    · exact absurd (h.started _ t hold) (by rw [(hp t heq').1]; exact lt_irrefl _)
    · exact h.startOnce messageId messageId' t hold hold'
  · intro call messageType hcall
    obtain ⟨hknown, htype, hmem⟩ := h.answered call messageType (hws ▸ hcall)
    exact ⟨hknown.mono hsub, htype, hsettl ▸ hmem⟩

end

variable {op : Option (MessageQueue.Input MessageType)} {registrationAccepted triggered : Bool}

lemma operate_dispatched {call : Call MessageType} {env : Env}
    (htags : ∀ g ∈ s.queue.tags, g.uniqueId ≠ messageId) (hcall : call.uniqueId ≠ messageId)
    (hop : s.dispatched env registrationAccepted call triggered = op) :
    ∃ queue awake, s.operate messageId op = { s with queue := queue, awake := awake } ∧
      queue.tags ≤ ⟨call.uniqueId, call.uniqueId, call.action⟩ ::ₘ s.queue.tags := by
  have hpush : ∀ stallUntilAccepted, ∃ queue awake,
      s.useQueue messageId (.pushCall env call stallUntilAccepted) =
        { s with queue := queue, awake := awake } ∧
      queue.tags ≤ ⟨call.uniqueId, call.uniqueId, call.action⟩ ::ₘ s.queue.tags := by
    intro stallUntilAccepted
    obtain ⟨hle, hiss, hhandler⟩ := useQueue_pushCall htags hcall
    refine ⟨_, (s.useQueue messageId (.pushCall env call stallUntilAccepted)).awake, ?_, hle⟩
    rw [← hiss, ← hhandler]
    rfl
  subst hop
  unfold dispatched
  split
  · exact hpush false
  · exact hpush true
  · exact ⟨s.queue, s.awake, rfl, le_cons_self _ _⟩

lemma Sound.dispatch (h : Sound ids bound s) {call : Call MessageType} {env : Env}
    (hop : s.dispatched env registrationAccepted call triggered = op)
    (hiss : (call.uniqueId, p) ∈ s.issued) (hp : p.Fits call.action)
    {senders : List MeterValueSender} (hids : session.ids ⊆ s.session.ids)
    (hsub : senders ⊆ s.senders)
    (hpend : (call.uniqueId :: (session.pending ++ senders.map (·.messageId))).Perm
      (s.session.pending ++ s.senders.map (·.messageId))) :
    Sound ids (bound + 1)
      { s.operate (ids.create bound) op with session := session, senders := senders } := by
  have hcall : call.uniqueId ≠ ids.create bound := fun heq =>
    h.ledger.fresh (heq ▸ List.mem_map_of_mem hiss)
  obtain ⟨queue, awake, heq, htags⟩ :=
    operate_dispatched (fun g hg => (h.tags_fresh g hg).2) hcall hop
  rw [heq]
  refine { h.skip with tags := ?_, session := ?_, senders := ?_, once := ?_ }
  · intro g hg
    rcases mem_cons.1 (mem_of_le htags hg) with rfl | hg
    · exact ⟨⟨p, hiss, hp⟩, .inl rfl⟩
    · exact h.tags g hg
  · exact fun e he => h.session e (hids he)
  · exact fun sender hsend => h.senders sender (hsub hsend)
  · refine nodup_of_le ?_ h.once
    have hle := map_le_map (f := (·.initialUniqueId)) htags
    refine (add_le_add hle le_rfl).trans (le_of_eq ?_)
    simp only [initials]
    rw [← coe_eq_coe.2 hpend, map_cons, ← cons_coe]
    simp only [cons_add, add_cons]

lemma Sound.advance (h : Sound ids bound s) {handler : TransactionHandler}
    (hids : session.ids ⊆ s.session.ids) (hpend : session.pending.Sublist s.session.pending)
    (hrec : Recorded s.issued handler.transactions)
    (hlen : handler.transactions.length = s.handler.transactions.length) :
    Sound ids (bound + 1) { s with handler := handler, session := session } := by
  refine { h.skip with session := ?_, once := ?_, recorded := hrec, started := ?_ }
  · exact fun e he => h.session e (hids he)
  · refine nodup_of_le ?_ h.once
    exact add_le_add le_rfl (add_le_add ((hpend.append_right _).subperm) le_rfl)
  · exact fun messageId t hmem => hlen ▸ h.started messageId t hmem

lemma map_modify {α β : Type*} {f : α → α} {g : α → β} (hg : ∀ a, g (f a) = g a) (l : List α)
    (n : ℕ) : (l.modify n f).map g = l.map g := by
  refine List.ext_getElem? fun i => ?_
  simp only [List.getElem?_map, List.getElem?_modify]
  cases l[i]? <;> simp only [Option.map_eq_map, Option.map_none, Option.map_some]
  split_ifs
  · rw [hg]
  · rfl

lemma Sound.setStage (h : Sound ids bound s) (n : ℕ) (stage : SenderStage) :
    Sound ids bound (s.setStage n stage) := by
  have hmap := map_modify (f := fun sender : MeterValueSender => { sender with stage := stage })
    (g := fun sender => (sender.messageId, Purpose.meterValues sender.transaction))
    (fun _ => rfl) s.senders n
  refine { h with senders := ?_, once := ?_ }
  · intro sender hsend
    have hmem : (sender.messageId, Purpose.meterValues sender.transaction) ∈
        (s.setStage n stage).senders.map fun sender =>
          (sender.messageId, Purpose.meterValues sender.transaction) :=
      List.mem_map.2 ⟨sender, hsend, rfl⟩
    rw [ChargePoint.setStage, hmap] at hmem
    obtain ⟨sender', hsend', heq⟩ := List.mem_map.1 hmem
    exact heq ▸ h.senders sender' hsend'
  · have hids : (s.setStage n stage).senders.map (·.messageId) = s.senders.map (·.messageId) :=
      map_modify (f := fun sender : MeterValueSender => { sender with stage := stage })
        (fun _ => rfl) s.senders n
    rw [initials, hids]
    exact h.once

lemma Sound.websocket (h : Sound ids bound s) (websocket : WebsocketThread)
    (hans : ∀ call, websocket.answered = some call → s.websocket.answered = some call) :
    Sound ids bound { s with websocket := websocket } :=
  { h with
    answered := fun call messageType hcall => h.answered call messageType (hans _ hcall) }

lemma hit_of_answeredCall {q : MessageQueue MessageType} (h : q.answeredCall received = some call)
    (env : Env) : q.hit (.receive env received) = none := by
  obtain ⟨-, hanswer⟩ := Option.filter_eq_some_iff.1 h
  obtain ⟨-, htype, hobject⟩ := of_decide_eq_true hanswer
  simp [hit, htype, hobject]

lemma Sound.settle (h : Sound ids bound s) {env : Env} {websocket : WebsocketThread}
    (hcall : s.queue.answeredCall received = some call)
    (hans : ∀ call' messageType, websocket.answered = some (call', messageType) →
      call' = call ∧ call.messageType = messageType) :
    Sound ids (bound + 1) { s.useQueue (ids.create bound) (.receive env received) with
      websocket := websocket, settled := call.initialUniqueId :: s.settled } := by
  obtain ⟨-, -, htags, -⟩ := receive_answered
    { env with newMessageId := ids.create bound } hcall
  have hafter : s.queue.tags = call.tag ::ₘ
      (s.useQueue (ids.create bound) (.receive env received)).queue.tags := htags
  have hknown : Known s.issued call.tag := h.tags _ (hafter ▸ mem_cons_self _ _)
  obtain ⟨-, hiss, hhandler⟩ := (useQueue_kept (.receive env received)
    h.tags_fresh rfl).resolve_right fun ⟨m, hm, _⟩ => by
      simp [hit_of_answeredCall hcall] at hm
  have hqueue := h.useQueue (.receive env received) rfl
  refine { hqueue with settled := ?_, once := ?_, answered := ?_ }
  · intro messageId hmem
    rcases List.mem_cons.1 hmem with rfl | hmem
    · obtain ⟨p, hp, -⟩ := hknown.purpose
      exact hiss ▸ List.mem_map_of_mem hp
    · exact hqueue.settled messageId hmem
  · have honce := h.once
    rw [initials, hafter, map_cons] at honce
    rw [initials, ← cons_coe, add_cons, add_cons]
    rw [cons_add] at honce
    exact honce
  · intro call' messageType hcall'
    obtain ⟨rfl, htype⟩ := hans call' messageType hcall'
    exact ⟨hiss ▸ hknown, htype, List.mem_cons_self⟩

lemma external_pushes (h : external input = true) : input.pushes = false := by
  cases input <;> simp_all [external, MessageQueue.Input.pushes]

lemma Sound.act (h : Sound ids bound s) (input : Input) :
    Sound ids (bound + 1) (s.act (ids.create bound) input) := by
  have hturn := act_turn (ids.create bound) s input
  generalize s.operation (ids.create bound) input = op, s.act (ids.create bound) input = s'
    at hturn ⊢
  have hids := h.session
  have hsenders : ∀ {p sender}, sender ∈ s.senders → (sender.messageId,
      .meterValues sender.transaction) ∈ (ids.create bound, p) :: s.issued :=
    fun hsend => List.mem_cons_of_mem _ (h.senders _ hsend)
  cases hturn with
  | aside | sleep | wakeUp => exact { h.skip with }
  | work | receive => exact h.useQueue _ rfl
  | push haction => exact h.other _ haction rfl (pushCall_entered _ _ _ _)
  | pushAsync haction => exact h.other _ haction rfl (pushCallAsync_entered _)
  | queue hext => exact h.useQueue _ (external_pushes hext)
  | start hidle =>
    refine h.issue rfl rfl rfl rfl ?_ (by simp) (fun _ => hsenders) ?_ ?_ fun t heq => ?_
    · simp [initials, hidle, ← cons_coe]
    · constructor <;> intro t transaction ht
      all_goals rcases addTransaction_getElem? ht with hold | rfl
      · exact h.recorded.start t transaction hold
      · exact .inl rfl
      · exact h.recorded.stop t transaction hold
      · exact .inl rfl
    · simp [addTransaction]
    · cases heq
      simp [addTransaction]
  | stop _ hidle =>
    refine h.issue rfl rfl rfl rfl ?_ (by simp) (fun _ => hsenders) h.recorded le_rfl (by simp)
    simp [initials, hidle, ← cons_coe]
  | numberStart hs =>
    refine h.advance (by simp [hs]) (by simp [hs]) ?_ update_length
    exact h.recorded.update (fun _ _ => .inr (.inl (hids _ (by simp [hs])))) fun _ _ => .inl rfl
  | queueStart t hs hop =>
    exact h.dispatch (p := .start t) hop (hids _ (by simp [hs])) rfl (by simp) (by simp)
      (by simp [hs])
  | queueStop t hs hop =>
    exact h.dispatch (p := .stop t) hop (hids _ (by simp [hs])) rfl (by simp [hs]) (by simp)
      (by simp [hs])
  | finish hs =>
    refine h.advance (by simp [hs]) (by simp [hs]) ?_ update_length
    exact h.recorded.update (fun _ _ => .inl rfl) fun _ _ => .inl rfl
  | numberStop hs =>
    refine h.advance (by simp [hs]) (by simp [hs]) ?_ update_length
    exact h.recorded.update (fun _ _ => .inl rfl) fun _ _ => .inr (hids _ (by simp [hs]))
  | putAway => exact h.advance (by simp) (by simp) h.recorded rfl
  | release =>
    refine h.advance (by simp) (by simp) ?_ ?_
    all_goals
      unfold removeActiveTransaction
      split_ifs
    · exact h.recorded
    · exact h.recorded
    · rfl
    · rfl
  | meter =>
    refine h.issue rfl rfl rfl rfl ?_ ?_ ?_ h.recorded le_rfl (by simp)
    · simp only [initials, List.map_append, List.map_singleton, ← List.append_assoc]
      rw [coe_eq_coe.2 (List.perm_append_singleton _ _), ← cons_coe, cons_add, add_cons]
    · exact fun e he => List.mem_cons_of_mem _ (hids e he)
    · intro sender hsend
      rcases List.mem_append.1 hsend with hold | hnew
      · exact hsenders hold
      · obtain rfl := List.mem_singleton.1 hnew
        exact List.mem_cons_self
  | stage => exact (h.setStage _ _).skip
  | file => exact (h.useQueue _ rfl).setStage _ _
  | send hn _ hop =>
    obtain ⟨hlt, hget⟩ := List.getElem?_eq_some_iff.1 hn
    refine h.dispatch hop (h.senders _ (List.mem_of_getElem? hn)) rfl (by simp)
      List.eraseIdx_subset ?_
    have hperm := (List.getElem_cons_eraseIdx_perm hlt).map (·.messageId)
    rw [hget, List.map_cons] at hperm
    simpa using List.perm_middle.symm.trans (hperm.append_left s.session.pending)
  | answer _ hcall hw =>
    rcases hw with ⟨htype, rfl⟩ | ⟨htype, rfl⟩
    · exact h.settle hcall (by simp [htype, eq_comm])
    · exact h.settle hcall (by simp [htype, eq_comm])
  | find hw => exact (h.websocket _ (by simp [hw])).skip
  | lookUp call _ _ hw =>
    have hlooked := (h.websocket (.stopLookedUp call) (by simp [hw])).skip
    exact { hlooked with }
  | notify call transactionId t hw hop =>
    have hoperated : Sound ids (bound + 1) (s.operate (ids.create bound) op) := by
      cases op with
      | none => exact h.skip
      | some o =>
        obtain ⟨i, rfl⟩ := hop o rfl
        exact h.useQueue _ rfl
    have hmoved := hoperated.websocket (.startNotified call transactionId t) (by simp [hw])
    exact { hmoved with }
  | replace hw => exact (h.useQueue _ rfl).websocket _ (by simp)
  | number =>
    exact (h.websocket .idle (by simp)).advance (List.Subset.refl _)
      (List.Sublist.refl _) (h.recorded.update (fun _ _ => .inl rfl) fun _ _ => .inl rfl)
      update_length
  | erase | drop =>
    have hidle := (h.websocket .idle (by simp)).skip
    exact { hidle with }

/-- The ids are in order in every reachable state. -/
theorem step_sound {input : Input} (h : Sound ids s.created s) :
    Sound ids (step ids s input).created (step ids s input) :=
  { h.act input with }

attribute [local simp] start

lemma start_sound {connectors : ℕ} {config : MessageQueueConfig MessageType} :
    Sound ids (start connectors config).created (start connectors config) where
  ledger := ⟨by simp, by simp⟩
  tags := by simp [Queues.tags]
  session := by simp
  senders := by simp
  settled := by simp
  once := by simp [initials, Queues.tags]
  recorded := ⟨by simp, by simp⟩
  started := by simp
  startOnce := by simp
  answered := by simp

lemma run_sound (ids : MessageIds) (connectors : ℕ) (config : MessageQueueConfig MessageType)
    (inputs : List Input) :
    let s := Runs.run (step ids) (start connectors config) inputs
    Sound ids s.created s := by
  have hstep : ∀ (s : ChargePoint) input, Sound ids s.created s →
      Sound ids (step ids s input).created (step ids s input) := fun _ _ h => step_sound h
  exact Runs.run_inv hstep start_sound inputs

/-- Whatever the threads do: no id is handed out twice, and a message is made, queued or answered
under its first id once. In particular an answered StartTransaction or StopTransaction is not in
the queue again. -/
theorem message_ids_used_once (ids : MessageIds) (connectors : ℕ)
    (config : MessageQueueConfig MessageType) (inputs : List Input) :
    let s := Runs.run (step ids) (start connectors config) inputs
    (s.issued.map (·.1)).Nodup ∧ s.initials.Nodup :=
  let h := run_sound ids connectors config inputs
  ⟨h.ledger.nodup, h.once⟩

/-- A message that the queue holds, or the call whose answer is being handled. -/
def Held (s : ChargePoint) (g : Tag MessageType) : Prop :=
  g ∈ s.queue.tags ∨ ∃ call messageType, s.websocket.answered = some (call, messageType) ∧
    call.tag = g

/-- Whatever the threads do: `get_transaction` finds at most one transaction under the id of a
message, and only under that of a StartTransaction or a StopTransaction. -/
theorem transaction_found_unique (ids : MessageIds) (connectors : ℕ)
    (config : MessageQueueConfig MessageType) (inputs : List Input) :
    let s := Runs.run (step ids) (start connectors config) inputs
    ∀ g, s.Held g → ∀ t, s.handler.named g.uniqueId t = true →
      (g.messageType = .startTransaction ∨ g.messageType = .stopTransaction) ∧
        ∀ t', s.handler.named g.uniqueId t' = true → t = t' := by
  intro s g hheld t ht
  have h : Sound ids s.created s := run_sound ids connectors config inputs
  have hg : Known s.issued g := by
    rcases hheld with hg | ⟨call, messageType, hcall, rfl⟩
    · exact h.tags g hg
    · exact (h.answered call messageType hcall).1
  have hcases {t : ℕ} (ht : s.handler.named g.uniqueId t = true) :
      (g.initialUniqueId, .start t) ∈ s.issued ∨ (g.initialUniqueId, .stop t) ∈ s.issued :=
    (named_cases h.ledger h.recorded hg ht).imp_right And.right
  constructor
  · exact (hcases ht).imp (hg.fits h.ledger) (hg.fits h.ledger)
  · intro t' ht'
    rcases hcases ht with hp | hp <;> rcases hcases ht' with hp' | hp' <;>
      cases h.ledger.unique hp hp' <;> rfl

end ChargePoint

end Everest.Ocpp.V16
