import Everest.Ocpp.MessageTypes
import Everest.Ocpp.QueueMoves

namespace Everest.Ocpp
open Queues Runs ControlMessage Database

variable {M : Type}

/-- What a row and the message that it stands for have in common. -/
abbrev Key (M : Type) := MessageId × M

def DBTransactionMessage.key (r : DBTransactionMessage M) : Key M := (r.uniqueId, r.messageType)

def ControlMessage.key (m : ControlMessage M) : Key M := (m.initialUniqueId, m.messageType)

structure Mirror (rows : List (DBTransactionMessage M)) (live : List (Key M)) : Prop where
  same : (rows.map (·.key)).Perm live
  distinct : (live.map Prod.fst).Nodup
  /-- The id of the stored call is the key of its row. -/
  ids : ∀ r ∈ rows, r.jsonMessage.uniqueId = r.uniqueId

namespace Mirror

variable {rows : List (DBTransactionMessage M)} {live live' : List (Key M)}

lemma perm (h : Mirror rows live) (hp : live.Perm live') : Mirror rows live' :=
  ⟨h.same.trans hp, (hp.map _).nodup_iff.1 h.distinct, h.ids⟩

lemma mem_ids (h : Mirror rows live) {id : MessageId} :
    id ∈ rows.map (·.uniqueId) ↔ id ∈ live.map Prod.fst := by
  have hfst := (h.same.map Prod.fst).mem_iff (a := id)
  rw [List.map_map] at hfst
  exact hfst

lemma insert (h : Mirror rows live) {m : ControlMessage M} (hm : m.initialUniqueId = m.uniqueId)
    (hnew : m.uniqueId ∉ rows.map (·.uniqueId)) : Mirror (rows ++ [m.row]) (live ++ [m.key]) := by
  refine ⟨?_, ?_, ?_⟩
  · have hkey : m.row.key = m.key := by simp [DBTransactionMessage.key, key,
      row, hm]
    simpa [hkey] using h.same.append_right [m.key]
  · rw [h.mem_ids] at hnew
    have hperm : (live ++ [m.key]).Perm (m.key :: live) := List.perm_append_singleton _ _
    rw [(hperm.map Prod.fst).nodup_iff, List.map_cons]
    refine List.nodup_cons.2 ⟨?_, h.distinct⟩
    simpa [key, hm] using hnew
  · intro r hr
    rcases List.mem_append.1 hr with hr | hr
    · exact h.ids r hr
    · obtain rfl : r = m.row := by simpa using hr
      rfl

/-- Removing the rows of some messages leaves those of the others. -/
theorem remove {kept gone : List (Key M)} (h : Mirror rows (kept ++ gone)) :
    Mirror (rows.filter fun r => r.uniqueId ∉ gone.map Prod.fst) kept := by
  have hdist := h.distinct
  rw [List.map_append] at hdist
  have hdisj := List.disjoint_of_nodup_append hdist
  refine ⟨?_, (List.nodup_append.1 hdist).1, fun r hr => h.ids r (List.mem_filter.1 hr).1⟩
  have hfilter := h.same.filter fun k => k.1 ∉ gone.map Prod.fst
  have hkept : (kept.filter fun k => k.1 ∉ gone.map Prod.fst) = kept := by
    refine List.filter_eq_self.2 fun k hk => ?_
    have hnot : k.1 ∉ gone.map Prod.fst := hdisj (List.mem_map_of_mem hk)
    simpa using hnot
  have hgone : (gone.filter fun k => k.1 ∉ gone.map Prod.fst) = [] := by
    refine List.filter_eq_nil_iff.2 fun k hk => ?_
    have hmem : k.1 ∈ gone.map Prod.fst := List.mem_map_of_mem hk
    simpa using hmem
  rw [List.filter_append, hkept, hgone, List.append_nil, List.filter_map] at hfilter
  exact hfilter

end Mirror

def DatabaseOk (q : Queues M) : Prop := Event.databaseFailed ∉ q.log

variable {q q' : Queues M} {env : Env} {queue : QueueType} {m : ControlMessage M}
    {gone : List (ControlMessage M)}

lemma DatabaseOk.of_suffix (h : DatabaseOk q') (hlog : q.log <:+ q'.log) :
    DatabaseOk q := fun hq => h (hlog.subset hq)

lemma DatabaseOk.of_emit {e : Event M} (h : DatabaseOk (q.emit e)) :
    DatabaseOk q := h.of_suffix (List.suffix_cons _ _)

lemma insertRow_ok (h : DatabaseOk (q.insertRow env queue m)) :
    m.uniqueId ∉ (q.database.table queue).map (·.uniqueId) ∧
      q.insertRow env queue m = { q with
        database := q.database.setTable (q.database.table queue ++ [m.row]) queue } := by
  unfold insertRow at h ⊢
  split at h
  · rename_i database hins
    split_ifs at hins
    unfold insertMessageQueueMessage at hins
    split_ifs at hins with hany
    obtain rfl := Option.some.inj hins
    refine ⟨?_, rfl⟩
    intro hmem
    obtain ⟨r, hr, hid⟩ := List.mem_map.1 hmem
    exact hany (List.any_eq_true.2 ⟨r, hr, by simpa [row] using hid⟩)
  · exact absurd List.mem_cons_self h

lemma removeRow_ok {uniqueId : MessageId} (h : DatabaseOk (q.removeRow env queue uniqueId)) :
    q.removeRow env queue uniqueId = { q with
      database := q.database.removeMessageQueueMessage uniqueId queue } := by
  unfold removeRow at h ⊢
  split_ifs at h ⊢
  · exact absurd List.mem_cons_self h
  · rfl

lemma discard_normal_rows {persisted : Bool}
    (h : DatabaseOk (q.discard env .normal persisted gone)) :
    (q.discard env .normal persisted gone).database.transactionQueue =
      q.database.transactionQueue := by
  induction gone generalizing q with
  | nil => rfl
  | cons m gone ih =>
    refine (ih h).trans ?_
    have hm := h.of_suffix (discard_tidied env .normal persisted gone _).log_suffix
    unfold discardMessage at hm ⊢
    have hrow := hm.of_emit
    split_ifs at hrow ⊢
    · rw [removeRow_ok hrow]
      rfl
    · rfl

lemma discard_transaction_rows (h : DatabaseOk (q.discard env .transaction true gone)) :
    (q.discard env .transaction true gone).database.transactionQueue =
      q.database.transactionQueue.filter
        fun r => r.uniqueId ∉ (gone.map (·.key)).map Prod.fst := by
  induction gone generalizing q with
  | nil => simp [Queues.discard]
  | cons m gone ih =>
    refine (ih h).trans ?_
    have hm := h.of_suffix (discard_tidied env .transaction true gone _).log_suffix
    unfold discardMessage at hm ⊢
    have hrow := hm.of_emit
    rw [if_pos rfl] at hrow ⊢
    rw [removeRow_ok hrow]
    simp only [emit, removeMessageQueueMessage, setTable, table,
      List.filter_filter]
    refine List.filter_congr fun r _ => ?_
    by_cases hid : r.uniqueId = m.initialUniqueId <;> simp [hid, key]

variable [MessageType M]

def Queues.unanswered (q : Queues M) : List (ControlMessage M) :=
  q.inFlight.toList.filter (fun m => isTransactionMessage m.messageType) ++
    q.transactionMessageQueue

def Queues.liveKeys (q : Queues M) : List (Key M) := q.unanswered.map (·.key)

def Mirrored (q : Queues M) : Prop := Mirror q.database.transactionQueue q.liveKeys

lemma liveKeys_flying (hm : q.inFlight = some m)
    (htype : isTransactionMessage m.messageType = true) :
    q.liveKeys = m.key :: q.transactionMessageQueue.map (·.key) := by
  simp [liveKeys, unanswered, hm, htype]

lemma liveKeys_other (hm : q.inFlight = some m)
    (htype : isTransactionMessage m.messageType = false) :
    q.liveKeys = q.transactionMessageQueue.map (·.key) := by
  simp [liveKeys, unanswered, hm, htype]

lemma liveKeys_idle (hnone : q.inFlight = none) :
    q.liveKeys = q.transactionMessageQueue.map (·.key) := by
  simp [liveKeys, unanswered, hnone]

lemma Mirrored.of_same (h : Mirrored q)
    (hrows : q'.database.transactionQueue = q.database.transactionQueue)
    (hkeys : q'.liveKeys = q.liveKeys) : Mirrored q' := by
  unfold Mirrored
  rw [hrows, hkeys]
  exact h

lemma Mirrored.of_removed (h : Mirrored q) (hm : q.inFlight = some m)
    (hq' : q'.database = q.database.removeMessageQueueMessage m.initialUniqueId (queueTypeOf m))
    (hfly : q'.inFlight = none) (hqueue : q'.transactionMessageQueue = q.transactionMessageQueue) :
    Mirrored q' := by
  unfold Mirrored at h ⊢
  rw [hq', liveKeys_idle hfly, hqueue]
  cases htype : isTransactionMessage m.messageType with
  | true =>
    rw [liveKeys_flying hm htype] at h
    have hremoved := (h.perm (List.perm_append_singleton m.key _).symm).remove
    simpa [removeMessageQueueMessage, setTable, table, queueTypeOf,
      htype, key, bne, beq_eq_decide] using hremoved
  | false =>
    rw [liveKeys_other hm htype] at h
    simpa [removeMessageQueueMessage, setTable, queueTypeOf, htype] using h

lemma Move.mirrored [DecidableEq M] (hs : Sorted q) (h : Mirrored q) (move : Move q q')
    (hok : DatabaseOk q') : Mirrored q' := by
  cases move with
  | note | skipAddress => exact h
  | relabel f hf =>
    refine h.of_same rfl ?_
    have hkey : key ∘ f = key := by
      funext m
      simp [key, (hf m).initialUniqueId, (hf m).messageType]
    simp [liveKeys, unanswered, hkey]
  | @enqueueTransaction env m htype hm =>
    obtain ⟨hnew, hrow⟩ := insertRow_ok hok
    have hmirror := Mirror.insert h hm.initialUniqueId hnew
    rw [Queues.enqueueTransaction, hrow]
    simpa [Mirrored, setTable, table, liveKeys, unanswered, emit] using hmirror
  | enqueueNormal =>
    unfold Queues.enqueueNormal at hok ⊢
    dsimp only at hok ⊢
    split_ifs at hok ⊢
    · rw [(insertRow_ok hok).2]
      exact h
    · exact h
  | @discardUpdates env kept gone hkept hperm =>
    have hlive : q.liveKeys.Perm ({ q with transactionMessageQueue := kept }.liveKeys ++
        gone.map (·.key)) := by
      have := (hperm.map key).append_left
        ((q.inFlight.toList.filter fun m => isTransactionMessage m.messageType).map (·.key))
      simpa [liveKeys, unanswered] using this
    obtain ⟨database, log, hframe⟩ := (discard_tidied env .transaction true gone
      { q with transactionMessageQueue := kept }).frame
    unfold Mirrored
    rw [discard_transaction_rows hok, hframe]
    exact (Mirror.perm h hlive).remove
  | @discardNormal env persisted kept gone hkept hperm =>
    obtain ⟨database, log, hframe⟩ := (discard_tidied env .normal persisted gone
      { q with normalMessageQueue := kept }).frame
    refine h.of_same (discard_normal_rows hok) ?_
    rw [hframe]
    rfl
  | @sendTransaction m out rest sent hnone hqueue hout =>
    have htype : isTransactionMessage out.messageType = true := by
      rw [hout.messageType]
      exact hs.transaction m (by simp [hqueue])
    refine h.of_same rfl ?_
    rw [liveKeys_flying rfl htype, liveKeys_idle hnone, hqueue]
    simp [key, emit, hout.initialUniqueId, hout.messageType]
  | @sendNormal m out rest sent hnone hqueue hout =>
    have htype : isTransactionMessage out.messageType = false := by
      rw [hout.messageType]
      exact hs.normal m (hqueue.mem_iff.2 (by simp))
    refine h.of_same rfl ?_
    rw [liveKeys_other rfl htype, liveKeys_idle hnone]
    rfl
  | @retryTransaction m m' hm htype hsame =>
    refine h.of_same rfl ?_
    rw [liveKeys_flying hm htype, liveKeys_idle rfl]
    simp [key, hsame.initialUniqueId, hsame.messageType]
  | @retryNormal m m' hm htype hsame | @abandon m hm htype =>
    refine h.of_same rfl ?_
    rw [liveKeys_other hm htype, liveKeys_idle rfl]
    rfl
  | @giveUp config env m value hm hatt =>
    have hrow := removeRow_ok hok.of_emit
    refine h.of_removed hm ?_ ?_ ?_ <;> rw [Queues.giveUp, hrow] <;> rfl
  | @acknowledge env remove m hm htype =>
    cases remove with
    | true =>
      have hremoved : DatabaseOk (Queues.removeRow env (queueTypeOf m) m.initialUniqueId
        ({ q with inFlight := none }.emit (.resolved m .callResult))) := hok.of_emit
      refine h.of_removed hm ?_ ?_ ?_ <;>
        rw [Queues.acknowledge, if_pos rfl, removeRow_ok hremoved] <;> rfl
    | false =>
      -- a message that is not removed from its table is no transaction message
      have hnorm : isTransactionMessage m.messageType = false := by
        rw [← Bool.not_eq_true]
        intro htrue
        cases htype htrue
      refine h.of_same rfl ?_
      rw [liveKeys_other hm hnorm, liveKeys_idle rfl]
      rfl

/-- What is left to be answered once this transaction message is settled. -/
def settle (initialUniqueId : MessageId) (messageType : M) (messages : List (ControlMessage M)) :
    List (ControlMessage M) :=
  if isTransactionMessage messageType then messages.filter (·.uniqueId != initialUniqueId)
  else messages

/-- What the log says is still to be answered: the transaction messages that were pushed, as
they were pushed, each until it is answered, given up, dropped or ignored at a restart. -/
def owed : List (Event M) → List (ControlMessage M)
  | [] => []
  | .pushed m :: log => if isTransactionMessage m.messageType then owed log ++ [m] else owed log
  | .answered m :: log => settle m.initialUniqueId m.messageType (owed log)
  | .exhausted m _ :: log => settle m.initialUniqueId m.messageType (owed log)
  | .dropped m :: log => settle m.initialUniqueId m.messageType (owed log)
  | .ignored row :: log => settle row.uniqueId row.messageType (owed log)
  | _ :: log => owed log

/-- TRANSACTION_QUEUE holds what is owed, in the order and with the values of the pushes. -/
def Owing (q : Queues M) : Prop := q.database.transactionQueue = (owed q.log).map (·.row)

namespace Owing

variable {q q' : Queues M} {id : MessageId} {messageType : M}

lemma of_same (h : Owing q) (hrows : q'.database.transactionQueue = q.database.transactionQueue)
    (hlog : owed q'.log = owed q.log) : Owing q' := by
  unfold Owing
  rw [hrows, hlog]
  exact h

/-- A message and its row go together. -/
lemma settled (h : Owing q)
    (hqueue : queue = if isTransactionMessage messageType then .transaction else .normal)
    (hdatabase : q'.database = q.database.removeMessageQueueMessage id queue)
    (hlog : owed q'.log = settle id messageType (owed q.log)) : Owing q' := by
  unfold Owing at h ⊢
  rw [hdatabase, hlog, hqueue, settle]
  split_ifs
  · simp only [removeMessageQueueMessage, setTable, table, h, List.filter_map]
    rfl
  · exact h

lemma discard (h : Owing q) (persisted : Bool)
    (htype : ∀ m ∈ gone, queueTypeOf m = queue) (hpersisted : queue = .transaction → persisted)
    (hok : DatabaseOk (q.discard env queue persisted gone)) :
    Owing (q.discard env queue persisted gone) := by
  induction gone generalizing q with
  | nil => exact h
  | cons m gone ih =>
    have hm := htype m (by simp)
    refine ih ?_ (fun m hm => htype m (by simp [hm])) hok
    have hmessage := hok.of_suffix (discard_tidied env queue persisted gone _).log_suffix
    unfold discardMessage at hmessage ⊢
    have hrow := hmessage.of_emit
    split_ifs at hrow ⊢ with hpers
    · rw [removeRow_ok hrow]
      exact h.settled hm.symm rfl rfl
    · -- only messages of the other table are dropped without their rows
      refine h.of_same rfl ?_
      have hnorm : isTransactionMessage m.messageType = false := by
        rw [← Bool.not_eq_true]
        intro htrue
        exact hpers (hpersisted (by rw [← hm, queueTypeOf, if_pos htrue]))
      simp [emit, owed, settle, hnorm]

end Owing

lemma Move.owing [DecidableEq M] (hs : Sorted q) (h : Owing q) (move : Move q q')
    (hok : DatabaseOk q') : Owing q' := by
  cases move with
  | note e he =>
    refine h.of_same rfl ?_
    cases e <;> first | rfl | cases he
  | relabel | skipAddress | sendTransaction | sendNormal | retryTransaction | retryNormal
    | abandon => exact h
  | @enqueueTransaction env m htype hm =>
    rw [Queues.enqueueTransaction, (insertRow_ok hok).2]
    have hrows : q.database.transactionQueue = (owed q.log).map (·.row) := h
    simp [Owing, setTable, table, emit, owed, htype, hrows]
  | @enqueueNormal config env m htype hm =>
    have hjoined : Owing (q.joinNormal m) := h.of_same rfl (by simp [joinNormal, emit, owed, htype])
    unfold Queues.enqueueNormal at hok ⊢
    dsimp only at hok ⊢
    split_ifs at hok ⊢
    · rw [(insertRow_ok hok).2]
      exact hjoined
    · exact hjoined
  | @discardUpdates env kept gone hkept hperm =>
    refine Owing.discard (q := { q with transactionMessageQueue := kept }) h true ?_
      (fun _ => rfl) hok
    intro m hm
    rw [queueTypeOf, if_pos (hs.transaction m (hperm.mem_iff.2 (by simp [hm])))]
  | @discardNormal env persisted kept gone hkept hperm =>
    refine Owing.discard (q := { q with normalMessageQueue := kept }) h persisted ?_
      (fun heq => by cases heq) hok
    intro m hm
    rw [queueTypeOf, if_neg (by simp [hs.normal m (hperm.mem_iff.2 (by simp [hm]))])]
  | @giveUp config env m value hm hatt =>
    have hrow := removeRow_ok hok.of_emit
    rw [Queues.giveUp, hrow]
    exact h.settled (Eq.refl (queueTypeOf m)) rfl rfl
  | @acknowledge env remove m hm htype =>
    cases remove with
    | true =>
      have hremoved : DatabaseOk (Queues.removeRow env (queueTypeOf m) m.initialUniqueId
        ({ q with inFlight := none }.emit (.resolved m .callResult))) := hok.of_emit
      rw [Queues.acknowledge, if_pos rfl, removeRow_ok hremoved]
      exact h.settled (Eq.refl (queueTypeOf m)) rfl rfl
    | false =>
      have hnorm : isTransactionMessage m.messageType = false := by
        rw [← Bool.not_eq_true]
        intro htrue
        cases htype htrue
      exact h.of_same rfl (by simp [Queues.acknowledge, emit, owed, settle, hnorm])

def NormalRows (q : Queues M) : Prop :=
  ∀ r ∈ q.database.normalQueue, isTransactionMessage r.messageType = false

namespace NormalRows

variable {q : Queues M}

lemma insertRow (h : NormalRows q) (env : Env)
    (hm : queue = .normal → isTransactionMessage m.messageType = false) :
    NormalRows (q.insertRow env queue m) := by
  unfold Queues.insertRow
  split
  · rename_i database hins
    split_ifs at hins
    unfold insertMessageQueueMessage at hins
    split_ifs at hins
    obtain rfl := Option.some.inj hins
    cases queue with
    | transaction => exact h
    | normal =>
      intro r hr
      rcases List.mem_append.1 hr with hr | hr
      · exact h r hr
      · obtain rfl : r = m.row := by simpa using hr
        exact hm rfl
  · exact h

lemma removeRow (h : NormalRows q) (env : Env) (queue : QueueType) (uniqueId : MessageId) :
    NormalRows (q.removeRow env queue uniqueId) := by
  unfold Queues.removeRow
  split_ifs
  · exact h
  · cases queue with
    | transaction => exact h
    | normal => exact fun r hr => h r (List.mem_filter.1 hr).1

lemma discard (h : NormalRows q) (env : Env) (queue : QueueType) (persisted : Bool)
    (gone : List (ControlMessage M)) : NormalRows (q.discard env queue persisted gone) := by
  induction gone generalizing q with
  | nil => exact h
  | cons m gone ih =>
    apply ih
    unfold discardMessage
    split_ifs
    · exact h.removeRow env queue m.initialUniqueId
    · exact h

end NormalRows

lemma Move.normalRows [DecidableEq M] (h : NormalRows q) (move : Move q q') : NormalRows q' := by
  cases move with
  | @enqueueTransaction env m htype hm =>
    refine NormalRows.insertRow ?_ env (by simp)
    exact h
  | @enqueueNormal config env m htype hm =>
    unfold Queues.enqueueNormal
    split_ifs
    · refine NormalRows.insertRow ?_ env fun _ => htype
      exact h
    · exact h
  | @discardUpdates env kept gone hkept hperm =>
    exact NormalRows.discard (q := { q with transactionMessageQueue := kept }) h env _ _ _
  | @discardNormal env persisted kept gone hkept hperm =>
    exact NormalRows.discard (q := { q with normalMessageQueue := kept }) h env _ _ _
  | @giveUp config env m value hm hatt =>
    exact NormalRows.removeRow (q := (q.settleUnanswered m).emit (.resolved m value)) h env _ _
  | @acknowledge env remove m hm htype =>
    cases remove with
    | true =>
      exact NormalRows.removeRow
        (q := { q with inFlight := none }.emit (.resolved m .callResult)) h env _ _
    | false => exact h
  | _ => exact h

end Everest.Ocpp
