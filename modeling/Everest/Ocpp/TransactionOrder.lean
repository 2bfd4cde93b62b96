import Everest.Lib.RetryQueue
import Everest.Ocpp.CallsInFlight
import Everest.Ocpp.MessageTypes

namespace Everest.Ocpp
open Queues Relation Runs

variable {M : Type} [MessageType M]

def ofTransaction (m : ControlMessage M) (e : RetryQueue.Event ℕ) : Option (RetryQueue.Event ℕ) :=
  if isTransactionMessage m.messageType then some e else none

def Event.abs : Event M → Option (RetryQueue.Event ℕ)
  | .pushed m => ofTransaction m (.pushed m.address)
  | .transmitted m _ => ofTransaction m (.sent m.address)
  | .answered m => ofTransaction m (.closed m.address)
  | .exhausted m _ => ofTransaction m (.closed m.address)
  | .dropped m => ofTransaction m (.closed m.address)
  | _ => none

def transactionInFlight : Option (ControlMessage M) → Option ℕ
  | some m => if isTransactionMessage m.messageType then some m.address else none
  | none => none

def Queues.abs (q : Queues M) : RetryQueue.State ℕ where
  waiting := q.transactionMessageQueue.map (·.address)
  inFlight := transactionInFlight q.inFlight
  history := q.log.filterMap Event.abs

variable (env : Env) (queue : QueueType) (persisted : Bool)

lemma Queues.Tidied.abs_eq {q q' : Queues M} (h : Tidied q [] q') : q'.abs = q.abs := by
  generalize hgone : [] = gone at h
  induction h with
  | refl => rfl
  | table _ _ ih | failed _ ih | ignored _ _ ih => exact ih hgone
  | dropped => simp at hgone

lemma emit_abs (e : Event M) (q : Queues M) :
    (q.emit e).abs = { q.abs with history := e.abs.toList ++ q.abs.history } := by
  cases h : e.abs <;> simp [Queues.abs, emit, h]

lemma discardMessage_abs (q : Queues M) (m : ControlMessage M) :
    (q.discardMessage env queue persisted m).abs = (q.emit (.dropped m)).abs := by
  unfold discardMessage
  split_ifs
  · rw [emit_abs, (removeRow_tidied env queue _ q).abs_eq, emit_abs]
  · rfl

lemma discard_abs (gone : List (ControlMessage M)) (q : Queues M) :
    (q.discard env queue persisted gone).abs = { q.abs with
      history := ((gone.filter (isTransactionMessage ·.messageType)).map
        (·.address)).reverse.map .closed ++ q.abs.history } := by
  induction gone generalizing q with
  | nil => rfl
  | cons m gone ih =>
    refine (ih _).trans ?_
    rw [discardMessage_abs, emit_abs]
    cases hm : isTransactionMessage m.messageType <;> simp [Event.abs, ofTransaction, hm]

variable {log : List (Event M)} {a : ℕ}

lemma mem_pushes_abs (h : a ∈ RetryQueue.pushes (log.filterMap Event.abs)) :
    ∃ m, Event.pushed m ∈ log ∧ m.address = a := by
  obtain ⟨e, he, hea⟩ := List.mem_filterMap.1 (RetryQueue.mem_pushes.1 h)
  cases e with
  | pushed m =>
    refine ⟨m, he, ?_⟩
    have := (Option.ite_none_right_eq_some.1 hea).2
    simpa using this
  | transmitted | answered | exhausted | dropped => cases (Option.ite_none_right_eq_some.1 hea).2
  | _ => cases hea

variable {q q' : Queues M}

lemma close_simulates {m : ControlMessage M} (hm : q.inFlight = some m)
    (habs : q'.abs = { q.abs with
      inFlight := none
      history := (ofTransaction m (.closed m.address)).toList ++ q.abs.history }) :
    ReflTransGen RetryQueue.Step q.abs q'.abs := by
  rw [habs]
  cases htype : isTransactionMessage m.messageType with
  | true =>
    have hfly : q.abs.inFlight = some m.address := by
      simp [Queues.abs, transactionInFlight, hm, htype]
    simpa [ofTransaction, htype] using ReflTransGen.single (RetryQueue.Step.close _ hfly)
  | false =>
    have hfly : q.abs.inFlight = none := by simp [Queues.abs, transactionInFlight, hm, htype]
    have hsame : q.abs = { q.abs with inFlight := none } := by rw [← hfly]
    simp only [ofTransaction, htype, Bool.false_eq_true, if_false, Option.toList_none,
      List.nil_append]
    rw [← hsame]

/-- Every move of the message queue is one of the queue with retries, or none. -/
theorem Move.simulates [DecidableEq M] (hs : Sorted q) (hf : Flight q) (move : Move q q') :
    ReflTransGen RetryQueue.Step q.abs q'.abs := by
  cases move with
  | note e he =>
    have : e.abs = none := by
      cases e with
      | resolved | startTransactionRetried | response => rfl
      | _ => cases he
    rw [emit_abs, this]
    exact .refl
  | relabel f hf =>
    have : { q with transactionMessageQueue := q.transactionMessageQueue.map f }.abs = q.abs := by
      simp [Queues.abs, Function.comp_def, (hf _).address]
    rw [this]
  | skipAddress => exact .refl
  | @enqueueTransaction env m htype hm =>
    have hnew : m.address ∉ RetryQueue.pushes q.abs.history := by
      intro hmem
      obtain ⟨n, hn, hna⟩ := mem_pushes_abs hmem
      have := (hf.counted.typed n hn).1
      rw [hna, hm.address] at this
      omega
    have hstep := RetryQueue.Step.push (s := q.abs) m.address hnew
    rw [Queues.enqueueTransaction, (insertRow_tidied env .transaction).abs_eq, emit_abs]
    simpa [Event.abs, ofTransaction, htype, Queues.abs] using ReflTransGen.single hstep
  | @enqueueNormal config env m htype hm =>
    have hpushed : (q.joinNormal m).abs = q.abs := by
      simp [Queues.abs, joinNormal, emit, Event.abs, ofTransaction, htype]
    rw [(enqueueNormal_tidied config env m q).abs_eq, hpushed]
  | @discardUpdates env kept gone hkept hperm =>
    have hgone : ∀ m ∈ gone, isTransactionMessage m.messageType = true :=
      fun m hm => hs.transaction m (hperm.mem_iff.2 (by simp [hm]))
    rw [discard_abs, List.filter_eq_self.2 hgone]
    refine .single (RetryQueue.Step.discard (s := q.abs) _ _ (hkept.map _) ?_)
    intro a ha
    obtain ⟨m, hm, rfl⟩ := List.mem_map.1 ha
    rcases List.mem_append.1 (hperm.mem_iff.1 hm) with hk | hg
    · exact .inl (List.mem_map.2 ⟨m, hk, rfl⟩)
    · exact .inr (List.mem_reverse.2 (List.mem_map.2 ⟨m, hg, rfl⟩))
  | @discardNormal env persisted kept gone hkept hperm =>
    have hgone : ∀ m ∈ gone, isTransactionMessage m.messageType = false :=
      fun m hm => hs.normal m (hperm.mem_iff.2 (by simp [hm]))
    rw [discard_abs, List.filter_eq_nil_iff.2 (by simpa using hgone)]
    exact .refl
  | @sendTransaction m out rest sent hnone hqueue hout =>
    have htype : isTransactionMessage out.messageType = true := by
      rw [hout.messageType]
      exact hs.transaction m (by simp [hqueue])
    have haddr : out.address = m.address := hout.address
    have hstep := RetryQueue.Step.send (s := q.abs) m.address (rest.map (·.address))
      (by simp [Queues.abs, hqueue]) (by simp [Queues.abs, transactionInFlight, hnone])
    simpa [Queues.abs, emit, transactionInFlight, Event.abs, ofTransaction, htype, haddr] using
      ReflTransGen.single hstep
  | @sendNormal m out rest sent hnone hqueue hout =>
    have htype : isTransactionMessage out.messageType = false := by
      rw [hout.messageType]
      exact hs.normal m (hqueue.mem_iff.2 (by simp))
    simp [Queues.abs, emit, transactionInFlight, Event.abs, ofTransaction, htype, hnone]
    exact .refl
  | @retryTransaction m m' hm htype hsame =>
    have hstep := RetryQueue.Step.retry (s := q.abs) m.address
      (by simp [Queues.abs, transactionInFlight, hm, htype])
    simpa [Queues.abs, settleUnanswered, emit, transactionInFlight, List.filterMap_cons, Event.abs,
      hsame.address] using ReflTransGen.single hstep
  | @retryNormal m m' hm htype hsame | @abandon m hm htype =>
    simp [Queues.abs, settleUnanswered, emit, transactionInFlight, Event.abs, hm, htype]
    exact .refl
  | @giveUp config env m value hm hatt =>
    refine close_simulates hm ?_
    rw [Queues.giveUp, emit_abs, (removeRow_tidied env _ _ _).abs_eq, emit_abs, settleUnanswered,
      emit_abs]
    rfl
  | @acknowledge env remove m hm htype =>
    refine close_simulates hm ?_
    obtain ⟨q₀, htidied, heq⟩ := acknowledge_cases env remove m q
    rw [heq, emit_abs, htidied.abs_eq]
    rfl

structure Orderly (q : Queues M) : Prop where
  sorted : Sorted q
  flight : Flight q
  fifo : RetryQueue.Inv q.abs

lemma Move.orderly [DecidableEq M] (h : Orderly q) (move : Move q q') :
    Orderly q' :=
  ⟨move.sorted h.sorted, move.flight h.flight,
    RetryQueue.inv_of_steps h.fifo (move.simulates h.sorted h.flight)⟩

lemma orderly_empty {database : Database M} : Orderly ({ database := database } : Queues M) where
  sorted := ⟨by simp, by simp⟩
  flight := ⟨rfl, .refl, ⟨by simp [cards], by simp [cards], fun _ _ => rfl, by simp⟩⟩
  fifo := RetryQueue.inv_empty

/-- The message object `a` is done with: answered by a CALLRESULT, sent as often as is
configured, or dropped because the queues grew too large. -/
def Done (a : ℕ) (log : List (Event M)) : Prop :=
  ∃ m : ControlMessage M, m.address = a ∧
    (.answered m ∈ log ∨ .dropped m ∈ log ∨
      ∃ attempts : ℤ, .exhausted m attempts ∈ log ∧ attempts ≤ transmissions a log)

lemma done_of_closed (hlog : Grows Allowed [] log)
    (h : RetryQueue.Event.closed a ∈ log.filterMap Event.abs) : Done a log := by
  obtain ⟨e, he, hea⟩ := List.mem_filterMap.1 h
  have hclosed : ∀ {m : ControlMessage M} {b : ℕ},
      ofTransaction m (.closed b) = some (.closed a) → b = a := by
    intro m b hb
    simpa using (Option.ite_none_right_eq_some.1 hb).2
  cases e with
  | answered m => exact ⟨m, hclosed hea, .inl he⟩
  | dropped m => exact ⟨m, hclosed hea, .inr (.inl he)⟩
  | exhausted m attempts =>
    obtain ⟨newer, older, rfl⟩ := List.append_of_mem he
    have hallow : attempts ≤ transmissions m.address older := hlog.entry rfl (Nat.zero_le _)
    refine ⟨m, hclosed hea, .inr (.inr ⟨attempts, he, ?_⟩)⟩
    rw [← hclosed hea, transmissions_append]
    simp only [transmissions]
    omega
  | pushed | transmitted => cases (Option.ite_none_right_eq_some.1 hea).2
  | _ => cases hea

variable [DecidableEq M]

def emptyQueue (config : MessageQueueConfig M) (database : Database M) : MessageQueue M :=
  { toQueues := { database := database }, config := config }

/-- At most one call is outstanding at any time; and whenever a transaction message is sent,
every transaction message that was pushed before it is done with. -/
theorem transaction_messages_in_order (config : MessageQueueConfig M) (database : Database M)
    (inputs : List (MessageQueue.Input M)) :
    let log := (run MessageQueue.step (emptyQueue config database) inputs).log
    (∀ later earlier, log = later ++ earlier → (outstanding earlier).length ≤ 1) ∧
    ∀ later earlier (p₁ p₂ m₂ : ControlMessage M) (sent : Bool),
      isTransactionMessage p₁.messageType = true → isTransactionMessage p₂.messageType = true →
      [.pushed p₂, .pushed p₁].Sublist log → log = later ++ .transmitted m₂ sent :: earlier →
      m₂.address = p₂.address → Done p₁.address earlier := by
  have hstep : ∀ (s : MessageQueue M) (input : MessageQueue.Input M),
      Orderly s.toQueues → Orderly (s.step input).toQueues :=
    fun s input h => Moves.inv (fun _ _ => Move.orderly) (MessageQueue.step_moves s input) h
  set q := (run MessageQueue.step (emptyQueue config database) inputs).toQueues
  have h : Orderly q := run_inv hstep orderly_empty inputs
  refine ⟨?_, ?_⟩
  · intro later earlier hlog
    have hwritten := h.flight.written
    rw [hlog] at hwritten
    exact outstanding_length_le hwritten.of_append
  · intro later earlier p₁ p₂ m₂ sent h₁ h₂ horder hlog haddr
    have hwritten := h.flight.written
    rw [hlog] at hwritten
    have htype : isTransactionMessage m₂.messageType = true := by
      have hp₂ : Event.pushed p₂ ∈ q.log := horder.subset (by simp)
      rw [← transmitted_type hwritten (hlog ▸ hp₂) haddr.symm]
      exact h₂
    -- the same facts about the queue with retries
    have hhistory : q.abs.history = later.filterMap Event.abs ++
        .sent p₂.address :: earlier.filterMap Event.abs := by
      change q.log.filterMap Event.abs = _
      rw [hlog]
      simp [List.filterMap_append, Event.abs, ofTransaction, htype, haddr]
    have hpushes : [p₂.address, p₁.address].Sublist (RetryQueue.pushes q.abs.history) := by
      apply RetryQueue.sublist_pushes
      have := horder.filterMap Event.abs
      simpa [Event.abs, ofTransaction, h₁, h₂, Queues.abs] using this
    have hclosed := h.fifo.closed_before_sent hhistory hpushes
    have hearlier : Grows Allowed [] earlier := by
      cases hwritten.of_append with
      | cons hgrows => exact hgrows
    exact done_of_closed hearlier hclosed

/-- A transaction starts and stops while the charge point is offline; both messages go out
once it is online again. -/
def offlineTransaction : List (MessageQueue.Input V16.MessageType) :=
  [.pushCall { now := 0 } { uniqueId := "start", action := .startTransaction } false,
    .pushCall { now := 1 } { uniqueId := "stop", action := .stopTransaction } false,
    .resume 0, .workerIteration { now := 2 },
    .receive {} { messageTypeId := .callResult, uniqueId := "start" },
    .workerIteration { now := 3 }]

theorem offline_transaction_in_order :
    Done 0 (run MessageQueue.step (emptyQueue {} {}) offlineTransaction).log.tail :=
  let start : Call V16.MessageType := { uniqueId := "start", action := .startTransaction }
  let stop : Call V16.MessageType := { uniqueId := "stop", action := .stopTransaction }
  (transaction_messages_in_order {} {} offlineTransaction).2 [] _ (.make 0 0 start) (.make 1 1 stop)
    { ControlMessage.make 1 1 stop with messageAttempts := 1 } true (by decide) (by decide)
    (by decide +kernel) (by decide +kernel) rfl

end Everest.Ocpp
