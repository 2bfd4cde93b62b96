import Everest.Ocpp.ChargePointSteps

namespace Everest.Ocpp
open List MessageQueue

namespace MessageQueue

variable {M : Type} [DecidableEq M] [MessageType M]

def meterValueIds (startTransactionMessageId : MessageId) (s : MessageQueue M) :
    List MessageId :=
  (s.startTransactionMidMeterValuesMidMap.lookup startTransactionMessageId).getD []

/-- The ids in the map: those of StartTransactions and those listed under them. -/
def filedIds (s : MessageQueue M) : List MessageId :=
  s.startTransactionMidMeterValuesMidMap.flatMap fun e => e.1 :: e.2

omit [DecidableEq M] [MessageType M] in
lemma mem_filedIds {start messageId : MessageId} {s : MessageQueue M}
    (h : messageId ∈ s.meterValueIds start) : start ∈ s.filedIds ∧ messageId ∈ s.filedIds := by
  unfold meterValueIds at h
  cases hlookup : s.startTransactionMidMeterValuesMidMap.lookup start with
  | none => simp [hlookup] at h
  | some messageIds =>
    obtain ⟨before, after, heq, -⟩ := lookup_eq_some_iff.1 hlookup
    have hmem : (start, messageIds) ∈ s.startTransactionMidMeterValuesMidMap := by simp [heq]
    simp only [hlookup, Option.getD_some] at h
    exact ⟨mem_flatMap.2 ⟨_, hmem, mem_cons_self⟩,
      mem_flatMap.2 ⟨_, hmem, mem_cons_of_mem _ h⟩⟩

/-- Only MeterValues that are listed and a StartTransaction that is handled change the map. -/
theorem step_map {s : MessageQueue M} {input : Input M}
    (hlisted : ∀ start meterValue, input ≠ .addMeterValueMessageId start meterValue)
    (hhandled : ∀ start transactionId, input ≠ .notifyStartTransactionHandled start transactionId) :
    (s.step input).startTransactionMidMeterValuesMidMap =
      s.startTransactionMidMeterValuesMidMap := by
  have hresume : ∀ expected (s : MessageQueue M),
      (s.resumeNow expected).startTransactionMidMeterValuesMidMap =
        s.startTransactionMidMeterValuesMidMap := by
    intro expected s
    unfold resumeNow
    split_ifs <;> rfl
  cases input with
  | pushCall | pushCallAsync =>
    dsimp only [step, pushCall, pushCallAsync, addMessage]
    split_ifs <;> rfl
  | pushCallResult | pushCallError =>
    dsimp only [step, pushResponse]
    split_ifs <;> rfl
  | workerIteration =>
    dsimp only [step, workerIteration, startIdleAction, sendNext]
    split_ifs
    · rfl
    · rfl
    · rfl
    · split
      · rfl
      · split <;> rfl
    · rfl
  | idleActionDone =>
    dsimp only [step, idleActionDone, resume]
    split
    · split_ifs <;> first | rfl | exact hresume _ _
    · rfl
  | resume =>
    dsimp only [step, resume]
    split_ifs <;> first | rfl | exact hresume _ _
  | resumeTimer => exact hresume _ _
  | receive =>
    dsimp only [step, receive, receiveAnswer]
    split
    · split_ifs <;> rfl
    · split
      · rfl
      · split_ifs <;> rfl
    · split
      · rfl
      · split_ifs <;> rfl
    · rfl
  | inFlightTimeout =>
    dsimp only [step, inFlightTimeout]
    split
    · rfl
    · split_ifs <;> rfl
  | addMeterValueMessageId start meterValue => exact absurd rfl (hlisted start meterValue)
  | notifyStartTransactionHandled start transactionId =>
    exact absurd rfl (hhandled start transactionId)
  | _ => rfl

lemma lookup_filter_ne {V : Type*} {entries : List (MessageId × V)} {k k' : MessageId}
    (h : k ≠ k') : (entries.filter (·.1 != k')).lookup k = entries.lookup k := by
  induction entries with
  | nil => rfl
  | cons e entries ih =>
    obtain ⟨k'', v⟩ := e
    by_cases heq : k'' = k'
    · subst heq
      simp [lookup_cons, ih, beq_eq_false_iff_ne.2 h]
    · rw [filter_cons_of_pos (by simpa using heq), lookup_cons, lookup_cons, ih]

omit [DecidableEq M] [MessageType M] in
lemma addMeterValueMessageId_lookup (start meterValue key : MessageId) (s : MessageQueue M) :
    (s.addMeterValueMessageId start meterValue).meterValueIds key =
      s.meterValueIds key ++ if key = start then [meterValue] else [] := by
  unfold meterValueIds addMeterValueMessageId
  by_cases heq : key = start
  · subst heq
    simp
  · rw [lookup_cons, beq_eq_false_iff_ne.2 heq, lookup_filter_ne heq, if_neg heq]
    simp

lemma step_meterValueIds {s : MessageQueue M} {start meterValue : MessageId} (input : Input M)
    (h : meterValue ∈ s.meterValueIds start)
    (hnot : ∀ transactionId, input ≠ .notifyStartTransactionHandled start transactionId) :
    meterValue ∈ (s.step input).meterValueIds start := by
  cases input with
  | addMeterValueMessageId =>
    rw [step, addMeterValueMessageId_lookup]
    exact mem_append_left _ h
  | notifyStartTransactionHandled start' transactionId =>
    have hne : start ≠ start' := by
      rintro rfl
      exact hnot transactionId rfl
    simpa [step, notifyStartTransactionHandled, meterValueIds, lookup_filter_ne hne] using h
  | _ => rwa [meterValueIds, step_map (by simp) (by simp)]

end MessageQueue

namespace V16

def WebsocketThread.found : WebsocketThread → Option (ControlMessage MessageType × ℕ)
  | .startFound call _ t | .startNotified call _ t => some (call, t)
  | _ => none

namespace ChargePoint
open Runs Queues

variable {ids : MessageIds} {bound t : ℕ} {s s' : ChargePoint} {messageId : MessageId}
  {input : Input}

/-- The MeterValues are listed under the id that the transaction remembers for its start. -/
def Filed (s : ChargePoint) (t : ℕ) (meterValue : MessageId) : Prop :=
  ∃ transaction, s.handler.transactions[t]? = some transaction ∧
    transaction.startTransactionMessageId ≠ "" ∧
    meterValue ∈ s.queue.meterValueIds transaction.startTransactionMessageId

/-- The conf of the transaction's StartTransaction has come, and the queue is done with it. -/
def Done (s : ChargePoint) (t : ℕ) : Prop :=
  ∃ initial, (initial, .start t) ∈ s.issued ∧ initial ∈ s.settled ∧ ¬s.Handling initial

/-- No StartTransaction with MeterValues listed under it, and none of these MeterValues, is
left without an answer. MeterValues are listed under the id that their transaction has. -/
def CarefulFiling (s : ChargePoint) (input : Input) : Prop :=
  (s.unanswered input).all (·.uniqueId ∉ s.queue.filedIds) = true ∧
    match input with
    | .sender n _ _ => ((s.senders[n]?).all fun sender =>
        match sender.stage with
        | .filing startTransactionMessageId =>
          startTransactionMessageId ≠ "" ∧ (sender.transaction.bind
            (s.handler.transactions[·]?)).all
              (·.startTransactionMessageId = startTransactionMessageId)
        | _ => true) = true
    | _ => True

instance (s : ChargePoint) (input : Input) : Decidable (CarefulFiling s input) := by
  unfold CarefulFiling
  split <;> infer_instance

/-- As long as the conf is not handled, the MeterValues of the transaction are listed. -/
structure Meters (s : ChargePoint) : Prop where
  active : ∀ connector t, s.handler.activeTransaction connector = some t →
    t < s.handler.transactions.length
  made : ∀ messageId t, (messageId, .meterValues (some t)) ∈ s.issued →
    t < s.handler.transactions.length
  unnumbered : ∀ t transaction, s.handler.transactions[t]? = some transaction → ¬s.Done t →
    transaction.transactionId = none
  queued : ∀ g ∈ s.queue.tags, ∀ t, (g.initialUniqueId, .meterValues (some t)) ∈ s.issued →
    ¬s.Done t → g.uniqueId = g.initialUniqueId ∧ s.Filed t g.initialUniqueId
  ready : ∀ sender ∈ s.senders, ∀ t, sender.transaction = some t → ¬s.Done t →
    (∃ transactionId, sender.stage = .ready transactionId) → s.Filed t sender.messageId
  added : ∀ t messageId transaction, s.session = .startAdded t messageId →
    s.handler.transactions[t]? = some transaction → transaction.startTransactionMessageId = ""
  found : ∀ call t, s.websocket.found = some (call, t) →
    (call.initialUniqueId, .start t) ∈ s.issued ∧ ∃ transaction,
      s.handler.transactions[t]? = some transaction ∧
        transaction.startTransactionMessageId = call.uniqueId
  replaced : ∀ transactionId t, s.websocket = .startReplaced transactionId t →
    ∃ initial, (initial, .start t) ∈ s.issued ∧ initial ∈ s.settled

lemma act_issued : s.issued ⊆ (s.act messageId input).issued := by
  obtain ⟨new, hiss, -⟩ := (act_effect messageId s input).issued
  rw [hiss]
  intro e he
  refine mem_append_right _ ?_
  cases s.operation messageId input with
  | none => exact he
  | some => exact mem_append_right _ he

lemma act_settled : s.settled ⊆ (s.act messageId input).settled := by
  have hsettl := (act_effect messageId s input).settled
  rwa [operate_settled] at hsettl

lemma Done.act (h : s.Done t) (hsound : Sound ids bound s) (messageId : MessageId)
    (input : Input) : (s.act messageId input).Done t := by
  obtain ⟨initial, hiss, hsettl, hnot⟩ := h
  exact ⟨initial, act_issued hiss, act_settled hsettl,
    fun hhandle => hnot (hsound.handling hsettl hhandle)⟩

variable {op : Option (MessageQueue.Input MessageType)}

lemma Turn.startAdded {i : MessageId} (hturn : Turn messageId s input op s')
    (h : s'.session = .startAdded t i) :
    s.session = .startAdded t i ∨ s.handler.transactions.length ≤ t := by
  cases hturn with
  | start =>
    cases h
    exact .inr le_rfl
  | stop | numberStart | queueStart | queueStop | finish | numberStop | putAway | release => cases h
  | _ => exact .inl (by simpa [useQueue, setStage] using h)

variable {call : ControlMessage MessageType}

lemma Turn.found (hturn : Turn messageId s input op s') (h : s'.websocket.found = some (call, t)) :
    s.websocket.found = some (call, t) ∨
      (∃ transactionId, s.websocket = .startReceived call transactionId) ∧
        s.handler.getTransaction call.uniqueId = some t ∧ s'.handler = s.handler := by
  cases hturn with
  | find hw ht =>
    cases h
    exact .inr ⟨⟨_, hw⟩, ht, rfl⟩
  | notify _ _ _ hw => exact .inl (by rw [hw]; exact h)
  | answer _ _ hw => rcases hw with ⟨-, rfl⟩ | ⟨-, rfl⟩ <;> cases h
  | replace | number | lookUp | erase | drop => cases h
  | _ => exact .inl (by simpa [useQueue, setStage] using h)

variable {transactionId : ℤ}

lemma Turn.replaced (hturn : Turn messageId s input op s')
    (h : s'.websocket = .startReplaced transactionId t) :
    s.websocket = .startReplaced transactionId t ∨
      ∃ call, s.websocket = .startNotified call transactionId t := by
  cases hturn with
  | replace hw =>
    cases h
    exact .inr ⟨_, hw⟩
  | answer _ _ hw => rcases hw with ⟨-, rfl⟩ | ⟨-, rfl⟩ <;> cases h
  | find | notify | number | lookUp | erase | drop => cases h
  | _ => exact .inl (by simpa [useQueue, setStage] using h)

lemma Turn.ready {sender : MeterValueSender} (hturn : Turn messageId s input op s')
    (h : sender ∈ s'.senders) (hready : ∃ transactionId, sender.stage = .ready transactionId) :
    sender ∈ s.senders ∨ ∃ n env registrationAccepted before,
      input = .sender n env registrationAccepted ∧ s.senders[n]? = some before ∧
      before.messageId = sender.messageId ∧ before.transaction = sender.transaction ∧
      (before.stage = .found ∧ (∀ transaction, before.transaction.bind
          (s.handler.transactions[·]?) = some transaction → transaction.transactionId ≠ none) ∨
        ∃ startTransactionMessageId, before.stage = .filing startTransactionMessageId) := by
  obtain ⟨transactionId, hready⟩ := hready
  have hset : ∀ {n before} {stage : SenderStage}, s.senders[n]? = some before →
      sender ∈ s.senders.modify n (fun sender => { sender with stage := stage }) →
        sender ∈ s.senders ∨ sender = { before with stage := stage } := by
    intro n before stage hn hmem
    obtain ⟨k, hk⟩ := mem_iff_getElem?.1 hmem
    rw [getElem?_modify] at hk
    split_ifs at hk with heq
    · subst heq
      rw [hn] at hk
      exact .inr (Option.some.inj hk).symm
    · exact .inl (mem_of_getElem? (by simpa using hk))
  cases hturn with
  | meter =>
    refine (mem_append.1 h).imp_right fun hnew => ?_
    rw [mem_singleton.1 hnew] at hready
    cases hready
  | stage hn hfound =>
    refine (hset hn h).imp_right ?_
    rintro rfl
    exact ⟨_, _, _, _, rfl, hn, rfl, rfl, .inl (hfound _ hready)⟩
  | file hn hstage =>
    refine (hset hn h).imp_right ?_
    rintro rfl
    exact ⟨_, _, _, _, rfl, hn, rfl, rfl, .inr ⟨_, hstage⟩⟩
  | send => exact .inl (mem_of_mem_eraseIdx h)
  | _ => exact .inl (by simpa [useQueue, setStage] using h)

lemma Turn.notified {start : MessageId} (hturn : Turn messageId s input
      (some (.notifyStartTransactionHandled start transactionId)) s') :
    input = .handle ∧ ∃ call t, s.websocket = .startNotified call transactionId t ∧
      call.uniqueId = start := by
  cases hturn with
  | replace hw => exact ⟨rfl, _, _, hw, rfl⟩
  | queue hext => cases hext
  | queueStart _ _ hop | queueStop _ _ hop | send _ _ hop =>
    exact absurd (dispatched_call? hop) (by simp [MessageQueue.Input.call?])
  | notify _ _ _ _ hop =>
    obtain ⟨_, heq⟩ := hop _ rfl
    cases heq

lemma Sound.uniqueId_ne_empty (h : Sound ids bound s) {g : Tag MessageType}
    (hg : Known s.issued g) : g.uniqueId ≠ "" := by
  obtain ⟨e, he, hid⟩ := mem_map.1 hg.uniqueId_mem
  exact hid ▸ h.ledger.ne_empty he

/-- A transaction keeps the id of its StartTransaction if this one is not tried again. -/
theorem startId_kept (hsound : Sound ids bound s) (hmet : Meters s) (input : Input)
    {transaction : Transaction} (ht : s.handler.transactions[t]? = some transaction)
    (hne : transaction.startTransactionMessageId ≠ "")
    (hans : ∀ m ∈ s.unanswered input, m.tag ∈ s.queue.tags →
      transaction.startTransactionMessageId ≠ m.uniqueId) :
    ∃ transaction', (s.act (ids.create bound) input).handler.transactions[t]? =
        some transaction' ∧
      transaction'.startTransactionMessageId = transaction.startTransactionMessageId := by
  obtain ⟨transaction', ht', hstart, -⟩ := act_transactions hsound ht
  refine ⟨transaction', ht', ?_⟩
  rcases hstart with hsame | ⟨hadded, -⟩ | ⟨m, hm, -, htag, hid⟩
  · exact hsame
  · exact absurd (hmet.added t _ transaction hadded ht) hne
  · exact absurd hid (hans m hm htag)

lemma CarefulFiling.not_filed (h : CarefulFiling s input) {m : ControlMessage MessageType}
    (hm : m ∈ s.unanswered input) : m.uniqueId ∉ s.queue.filedIds := by
  have hnot := h.1
  rw [Option.mem_def.1 hm] at hnot
  simpa using hnot

attribute [local simp] WebsocketThread.found

lemma Filed.act {meterValue : MessageId} (h : s.Filed t meterValue)
    (hsound : Sound ids bound s) (hmet : Meters s) (hcare : CarefulFiling s input)
    (hdone : ¬(s.act (ids.create bound) input).Done t) :
    (s.act (ids.create bound) input).Filed t meterValue := by
  obtain ⟨transaction, ht, hne, hmem⟩ := h
  obtain ⟨transaction', ht', hsame⟩ := startId_kept hsound hmet input ht hne
    fun m hm _ hid => hcare.not_filed hm (hid ▸ (mem_filedIds hmem).1)
  refine ⟨transaction', ht', hsame ▸ hne, ?_⟩
  rw [hsame, (act_effect _ s input).queue]
  cases hop : s.operation (ids.create bound) input with
  | none => exact hmem
  | some op =>
    refine step_meterValueIds _ hmem fun transactionId hnotify => hdone ?_
    have hop' : op = .notifyStartTransactionHandled transaction.startTransactionMessageId
        transactionId := by
      cases op <;> simp_all [MessageQueue.Input.renumber]
    obtain ⟨rfl, call, t', hw, hid⟩ := (hop' ▸ hop ▸ act_turn (ids.create bound) s input).notified
    -- the ids under which another transaction was started are not those of this one
    have hknown := (hsound.answered call .startTransaction
      (by simp [hw])).1
    have hstarted := (hsound.recorded.start t transaction ht).resolve_left hne
    have hinit := StartId.initial hsound.ledger hknown (by rwa [← hid] at hstarted)
    have hfound := (hmet.found call t' (by simp [hw])).1
    cases hsound.ledger.unique hinit hfound
    have hsettl := (hsound.answered call .startTransaction (by simp [hw])).2.2
    refine ⟨call.initialUniqueId, act_issued hfound, act_settled hsettl, ?_⟩
    simp [Handling, act, handleStep, hw]

lemma Sound.meterValues_of_act (h : Sound ids bound s) {g : Tag MessageType}
    (hg : Known s.issued g)
    (hiss : (g.initialUniqueId, .meterValues (some t)) ∈
      (s.act (ids.create bound) input).issued) :
    (g.initialUniqueId, .meterValues (some t)) ∈ s.issued := by
  obtain ⟨p, hp, -⟩ := hg.purpose
  have hsame := (h.act input).ledger.unique (act_issued hp) hiss
  exact hsame ▸ hp

section

variable (h : Meters s) (hsound : Sound ids bound s)
include h hsound

lemma Meters.queued_act (hcare : CarefulFiling s input) {g : Tag MessageType}
    (hg : g ∈ (s.act (ids.create bound) input).queue.tags)
    (hiss : (g.initialUniqueId, .meterValues (some t)) ∈ (s.act (ids.create bound) input).issued)
    (hdone : ¬(s.act (ids.create bound) input).Done t) :
    g.uniqueId = g.initialUniqueId ∧
      (s.act (ids.create bound) input).Filed t g.initialUniqueId := by
  have hnot : ¬s.Done t := fun hd => hdone (hd.act hsound _ _)
  rcases act_tags hsound g hg with hold | ⟨hfirst, hpushed⟩ | ⟨m, hm, hold, rfl⟩
  · obtain ⟨hfirst, hfiled⟩ := h.queued g hold t
      (hsound.meterValues_of_act (hsound.tags g hold) hiss) hnot
    exact ⟨hfirst, hfiled.act hsound h hcare hdone⟩
  · refine ⟨hfirst, ?_⟩
    rcases mem_pushed hpushed with ⟨hnew, hop⟩ | ⟨p, hp, t', hsess⟩ |
      ⟨sender, hsend, hid, hready⟩
    · rcases act_meterValues hiss with hold | ⟨-, hnone, -⟩
      · exact absurd (mem_map_of_mem hold) (hnew ▸ hsound.ledger.fresh)
      · simp [hnone] at hop
    · have heq := (hsound.act input).ledger.unique
        (act_issued (hsound.session _ hsess)) hiss
      rcases mem_cons.1 hp with rfl | hp
      · cases heq
      · rw [mem_singleton.1 hp] at heq
        cases heq
    · have heq := (hsound.act input).ledger.unique
        (act_issued (hsound.senders sender hsend)) (hid ▸ hiss)
      rw [← hid]
      exact (h.ready sender hsend t (Purpose.meterValues.inj heq) hnot hready).act hsound h
        hcare hdone
  · -- listed MeterValues are answered at their first attempt
    obtain ⟨hfirst, transaction, -, -, hmem⟩ := h.queued m.tag hold t
      (hsound.meterValues_of_act (hsound.tags _ hold) hiss) hnot
    have hid : m.uniqueId = m.tag.initialUniqueId := hfirst
    exact absurd (hid ▸ (mem_filedIds hmem).2) (hcare.not_filed hm)

lemma Meters.ready_act (hcare : CarefulFiling s input) {sender : MeterValueSender}
    (hsend : sender ∈ (s.act (ids.create bound) input).senders) (ht : sender.transaction = some t)
    (hdone : ¬(s.act (ids.create bound) input).Done t)
    (hready : ∃ transactionId, sender.stage = .ready transactionId) :
    (s.act (ids.create bound) input).Filed t sender.messageId := by
  have hnot : ¬s.Done t := fun hd => hdone (hd.act hsound _ _)
  rcases (act_turn _ s input).ready hsend hready with hold |
    ⟨n, env, registrationAccepted, before, rfl, hn, hid, htx, hstage⟩
  · exact (h.ready sender hold t ht hnot hready).act hsound h hcare hdone
  obtain ⟨transaction, hlookup⟩ : ∃ transaction,
      s.handler.transactions[t]? = some transaction := by
    have hiss := hsound.senders before (mem_of_getElem? hn)
    rw [htx, ht] at hiss
    exact ⟨_, getElem?_eq_getElem (h.made _ t hiss)⟩
  have hbind : before.transaction.bind (s.handler.transactions[·]?) = some transaction := by
    rw [htx, ht, Option.bind_some, hlookup]
  rcases hstage with ⟨-, hnumbered⟩ | ⟨start, hfiling⟩
  · exact absurd (h.unnumbered t transaction hlookup hnot) (hnumbered transaction hbind)
  · obtain ⟨hne, hstart⟩ : start ≠ "" ∧ transaction.startTransactionMessageId = start := by
      simpa [hn, hfiling, hbind] using hcare.2
    have hop : ∀ i, s.operation i (.sender n env registrationAccepted) =
        some (.addMeterValueMessageId start before.messageId) := by
      simp [operation, hn, hfiling]
    obtain ⟨transaction', ht', hsame⟩ := startId_kept hsound h
      (.sender n env registrationAccepted) hlookup (hstart ▸ hne)
      (by simp [unanswered, hop, hit])
    refine ⟨transaction', ht', by rwa [hsame, hstart], ?_⟩
    have hqueue : (s.act (ids.create bound) (.sender n env registrationAccepted)).queue =
        s.queue.addMeterValueMessageId start before.messageId := by
      rw [(act_effect _ s _).queue, hop]
      rfl
    rw [hqueue, hsame, hstart, addMeterValueMessageId_lookup, hid]
    simp

lemma Meters.added_act {i : MessageId} {transaction : Transaction}
    (hsess : (s.act (ids.create bound) input).session = .startAdded t i)
    (ht : (s.act (ids.create bound) input).handler.transactions[t]? = some transaction) :
    transaction.startTransactionMessageId = "" := by
  rcases act_fresh hsound ht with hlt | ⟨hempty, -⟩
  swap
  · exact hempty
  have hadded := ((act_turn _ s input).startAdded hsess).resolve_right (not_le.2 hlt)
  have hempty := h.added t i _ hadded (getElem?_eq_getElem hlt)
  obtain ⟨transaction', ht', hstart, -⟩ :=
    act_transactions hsound (getElem?_eq_getElem hlt)
  cases Option.some.inj (ht.symm.trans ht')
  rcases hstart with hsame | ⟨-, hnumbered⟩ | ⟨m, -, -, htag, hid⟩
  · exact hsame.trans hempty
  · rw [hsess] at hnumbered
    cases hnumbered
  · exact absurd (hid.symm.trans hempty) (hsound.uniqueId_ne_empty (hsound.tags _ htag))

lemma Meters.found_act {call : ControlMessage MessageType}
    (hfound : (s.act (ids.create bound) input).websocket.found = some (call, t)) :
    (call.initialUniqueId, .start t) ∈ (s.act (ids.create bound) input).issued ∧
      ∃ transaction, (s.act (ids.create bound) input).handler.transactions[t]? =
          some transaction ∧ transaction.startTransactionMessageId = call.uniqueId := by
  rcases (act_turn _ s input).found hfound with hold | ⟨⟨transactionId, hw⟩, hget, hhandler⟩
  · obtain ⟨hiss, transaction, ht, hid⟩ := h.found call t hold
    refine ⟨act_issued hiss, ?_⟩
    have hans : s.websocket.answered = some (call, .startTransaction) := by
      cases hw : s.websocket <;> simp_all
    obtain ⟨hknown, -, hsettl⟩ := hsound.answered call _ hans
    have hne := hsound.uniqueId_ne_empty hknown
    obtain ⟨transaction', ht', hsame⟩ := startId_kept hsound h input ht (hid ▸ hne)
      fun m _ htag heq => by
        have hinit := hknown.initial_eq hsound.ledger (hsound.tags _ htag)
          (hid.symm.trans heq)
        exact hsound.not_settled htag (hinit ▸ hsettl)
    exact ⟨transaction', ht', hsame.trans hid⟩
  · obtain ⟨hknown, htype, -⟩ := hsound.answered call .startTransaction
      (by simp [hw])
    have hnamed : s.handler.named call.tag.uniqueId t = true := find?_some hget
    obtain ⟨transaction, ht, hid⟩ := startId_of_named hsound hknown htype hnamed
    have hiss := (named_cases hsound.ledger hsound.recorded hknown hnamed).resolve_right
      fun hstop => hknown.startsTransaction hsound.ledger htype hstop.2
    rw [hhandler]
    exact ⟨act_issued hiss, transaction, ht, hid⟩

lemma Meters.act (hcare : CarefulFiling s input) :
    Meters (s.act (ids.create bound) input) where
  active connector t ht := by
    rcases (act_effect (ids.create bound) s input).active connector t ht with hold | hnew
    · refine (h.active connector t ?_).trans_le (act_length hsound)
      rcases operate_handler hsound with hsame | ⟨m, -, -, -, heq⟩
      · rwa [hsame] at hold
      · rw [heq] at hold
        unfold TransactionHandler.startTransactionMessageRetryCallback at hold
        split at hold <;> exact hold
    · exact hnew
  made messageId t hiss := by
    refine lt_of_lt_of_le ?_ (act_length hsound)
    rcases act_meterValues hiss with hold | ⟨-, -, connector, hactive⟩
    · exact h.made messageId t hold
    · exact h.active connector t hactive
  unnumbered t transaction ht hdone := by
    rcases act_fresh hsound ht with hlt | ⟨-, hnone⟩
    swap
    · exact hnone
    have hnot : ¬s.Done t := fun hd => hdone (hd.act hsound _ _)
    obtain ⟨transaction', ht', -, hid⟩ :=
      act_transactions hsound (getElem?_eq_getElem hlt)
    cases Option.some.inj (ht.symm.trans ht')
    rcases hid with hsame | ⟨transactionId, hw⟩
    · exact hsame.trans (h.unnumbered t _ (getElem?_eq_getElem hlt) hnot)
    · obtain ⟨initial, hiss, hsettl⟩ := h.replaced transactionId t hw
      exact absurd ⟨initial, hiss, hsettl, by simp [Handling, hw]⟩
        hnot
  queued g hg t hiss hdone := h.queued_act hsound hcare hg hiss hdone
  ready sender hsend t ht hdone hready :=
    h.ready_act hsound hcare hsend ht hdone hready
  added t i transaction hsess ht := h.added_act hsound hsess ht
  found call t hfound := h.found_act hsound hfound
  replaced transactionId t hw := by
    rcases (act_turn _ s input).replaced hw with hold | ⟨call, hold⟩
    · obtain ⟨initial, hiss, hsettl⟩ := h.replaced transactionId t hold
      exact ⟨initial, act_issued hiss, act_settled hsettl⟩
    · refine ⟨call.initialUniqueId, act_issued ?_, act_settled ?_⟩
      · exact (h.found call t (by simp [hold])).1
      · exact (hsound.answered call .startTransaction
          (by simp [hold])).2.2

end

/-- What is expected of the step in which `notify_start_transaction_handled` runs: the
MeterValues of the transaction that are in the queue afterwards carry the id of the conf. -/
def Completed (s s' : ChargePoint) : Input → Prop
  | .handle => ∀ call transactionId t', s.websocket = .startNotified call transactionId t' →
    ∀ t, (call.initialUniqueId, .start t) ∈ s.issued →
    ∀ m ∈ s'.queue.transactionMessageQueue,
      (m.initialUniqueId, .meterValues (some t)) ∈ s'.issued →
        m.message.payload.transactionId = some transactionId
  | _ => True

lemma handle_completed (hsound : Sound ids bound s) (h : Meters s) :
    Completed s (s.act (ids.create bound) .handle) .handle := by
  intro call transactionId t' hw t hstart m hm hiss
  have hqueue : (s.act (ids.create bound) .handle).queue =
      s.queue.notifyStartTransactionHandled call.uniqueId transactionId := by
    rw [(act_effect _ s _).queue]
    simp [operation, hw]
    rfl
  have hans : s.websocket.answered = some (call, .startTransaction) := by
    simp [hw]
  obtain ⟨hfound, transaction, ht, hid⟩ :=
    h.found call t' (by simp [hw])
  cases hsound.ledger.unique hstart hfound
  have hnot : ¬s.Done t' := by
    rintro ⟨initial, hinit, -, hhandling⟩
    exact hhandling ⟨call, _, hans, hsound.startOnce _ _ t' hstart hinit⟩
  rw [hqueue] at hm
  obtain ⟨m', hm', rfl⟩ := mem_map.1 hm
  have htag : m'.tag ∈ s.queue.tags :=
    mem_tags.2 ⟨m', mem_append_left _ (mem_append_right _ hm'), rfl⟩
  have hinit : (addTransactionId (s.queue.meterValueIds call.uniqueId)
      transactionId m').initialUniqueId = m'.initialUniqueId := by
    unfold addTransactionId
    split_ifs <;> rfl
  obtain ⟨hfirst, transaction'', ht', -, hmem⟩ := h.queued m'.tag htag t'
    (hsound.meterValues_of_act (hsound.tags _ htag) (hinit ▸ hiss)) hnot
  cases Option.some.inj (ht.symm.trans ht')
  rw [hid, ← hfirst] at hmem
  have hlisted : ((s.queue.startTransactionMidMeterValuesMidMap.lookup
      call.uniqueId).getD []).contains m'.uniqueId = true := contains_iff_mem.2 hmem
  rw [addTransactionId, if_pos hlisted]

lemma start_meters {connectors : ℕ} {config : MessageQueueConfig MessageType} :
    Meters (start connectors config) := by
  refine
    { active := fun c t ht => ?_
      made := by simp [start]
      unnumbered := by simp [start]
      queued := by simp [start, Queues.tags]
      ready := by simp [start]
      added := by simp [start]
      found := by simp [start]
      replaced := by simp [start] }
  rw [start_activeTransaction] at ht
  cases ht

/-- As long as no StartTransaction is tried again after MeterValues have been listed under its
id, the conf reaches all of them. -/
theorem queued_meterValues_completed (ids : MessageIds) (connectors : ℕ)
    (config : MessageQueueConfig MessageType) (inputs : List Input)
    (h : AllSteps (step ids) CarefulFiling (start connectors config) inputs) :
    AllSteps (step ids) (fun s input => Completed s (step ids s input) input)
      (start connectors config) inputs := by
  have hstep : ∀ s input, (Sound ids s.created s ∧ Meters s) → CarefulFiling s input →
      Completed s (step ids s input) input ∧
        (Sound ids (step ids s input).created (step ids s input) ∧ Meters (step ids s input)) := by
    rintro s input ⟨hsound, hmet⟩ hcare
    refine ⟨?_, step_sound hsound, ?_⟩
    · cases input with
      | handle => exact handle_completed hsound hmet
      | _ => trivial
    · have hact := hmet.act hsound hcare
      exact { hact with }
  exact AllSteps.of_inv hstep ⟨start_sound, start_meters⟩ h

def startAndMeter : List Input :=
  [.queue (.resume 0), .transactionStarted 1 (-1), .session {} true, .session {} true, .worker {},
    .sendMeterValue 1 false, .sender 0 {} true, .sender 0 {} true, .sender 0 {} true,
    .sender 0 {} true]

def confirmedAtOnce : List Input := startAndMeter ++
  [.receive {} { messageTypeId := .callResult, uniqueId := unaryIds.create 1 } 7, .handle,
    .handle, .handle]

theorem first_attempt_completed :
    AllSteps (step unaryIds) (fun s input => Completed s (step unaryIds s input) input)
        (start 1 {}) confirmedAtOnce ∧
      (run (step unaryIds) (start 1 {}) confirmedAtOnce).queue.transactionMessageQueue.map
        (fun m => (m.messageType, m.message.payload.transactionId)) = [(.meterValues, some 7)] :=
  ⟨queued_meterValues_completed unaryIds 1 {} confirmedAtOnce (by decide +kernel),
    by decide +kernel⟩

/-- The first attempt times out and the second one is answered. -/
def confirmedLater : List Input := startAndMeter ++
  [.queue (.inFlightTimeout {} 0 (unaryIds.create 1)), .queue .notifyQueueTimer,
    .worker { now := seconds 30 },
    .receive {} { messageTypeId := .callResult, uniqueId := unaryIds.create 10 } 7,
    .handle, .handle]

/-- The conf of the second attempt leaves the MeterValues without a transaction id. -/
theorem retried_start_incomplete :
    ¬AllSteps (step unaryIds) (fun s input => Completed s (step unaryIds s input) input)
      (start 1 {}) (confirmedLater ++ [.handle]) := by
  intro h
  have hw : (run (step unaryIds) (start 1 {}) confirmedLater).websocket =
      .startNotified
        { address := 0
          message := ⟨unaryIds.create 10, .startTransaction, {}⟩
          messageType := .startTransaction
          messageAttempts := 2
          timestamp := seconds 30
          initialUniqueId := unaryIds.create 1 } 7 0 := by decide +kernel
  have hid := h.mid _ _ _ hw 0 (by decide +kernel)
    { address := 1
      message := ⟨unaryIds.create 5, .meterValues, {}⟩
      messageType := .meterValues
      timestamp := 0
      initialUniqueId := unaryIds.create 5 } (by decide +kernel) (by decide +kernel)
  cases hid

end ChargePoint
end V16

end Everest.Ocpp
