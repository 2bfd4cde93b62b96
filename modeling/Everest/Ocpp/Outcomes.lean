import Everest.Ocpp.QueueIds

namespace Everest.Ocpp
open Queues Queues

variable {M : Type}

def Event.transmitted? : Event M → Option (ControlMessage M)
  | .transmitted m _ => some m
  | _ => none

def Event.resolved? : Event M → Option (ControlMessage M)
  | .resolved m _ => some m
  | _ => none

def Event.dropped? : Event M → Option (ControlMessage M)
  | .dropped m => some m
  | _ => none

/-- Events that concern neither a transmission nor the end of a message. -/
def Event.neutral (e : Event M) : Prop :=
  e.transmitted? = none ∧ e.resolved? = none ∧ e.dropped? = none

def occurrences (address : ℕ) (messages : List (ControlMessage M)) : ℕ :=
  messages.countP (·.address = address)

section Occurrences

variable (a : ℕ) (m : ControlMessage M) (l l' : List (ControlMessage M))

@[simp] lemma occurrences_nil : occurrences a ([] : List (ControlMessage M)) = 0 := rfl

@[simp] lemma occurrences_cons : occurrences a (m :: l) =
    occurrences a l + if m.address = a then 1 else 0 := by
  simp [occurrences, List.countP_cons]

@[simp] lemma occurrences_append :
    occurrences a (l ++ l') = occurrences a l + occurrences a l' := List.countP_append

lemma occurrences_perm {l l' : List (ControlMessage M)} (h : l.Perm l') :
    occurrences a l = occurrences a l' := h.countP_eq _

lemma occurrences_map {f : ControlMessage M → ControlMessage M}
    (hf : ∀ m, (f m).address = m.address) : occurrences a (l.map f) = occurrences a l := by
  simp [occurrences, List.countP_map, Function.comp_def, hf]

end Occurrences

namespace Queues

/-- Newest first, as in the log. -/
def transmitted (q : Queues M) : List (ControlMessage M) := q.log.filterMap Event.transmitted?

def resolved (q : Queues M) : List (ControlMessage M) := q.log.filterMap Event.resolved?

def dropped (q : Queues M) : List (ControlMessage M) := q.log.filterMap Event.dropped?

def held (q : Queues M) : List (ControlMessage M) :=
  q.inFlight.toList ++ q.transactionMessageQueue ++ q.normalMessageQueue

/-- A message object is held, resolved or dropped. -/
def entries (q : Queues M) (a : ℕ) : ℕ :=
  occurrences a q.held + occurrences a q.resolved + occurrences a q.dropped

def allocated (q : Queues M) (a : ℕ) : ℕ := if a < q.nextAddress then 1 else 0

lemma allocated_succ {q q' : Queues M} (hnext : q'.nextAddress = q.nextAddress + 1) (a : ℕ) :
    q'.allocated a = q.allocated a + if q.nextAddress = a then 1 else 0 := by
  simp only [allocated, hnext]
  split_ifs <;> omega

structure Balanced (q q' : Queues M) : Prop where
  transmitted : q'.transmitted = q.transmitted
  entries : ∀ a, q'.entries a + q.allocated a = q.entries a + q'.allocated a
  nextAddress : q.nextAddress ≤ q'.nextAddress

structure Lossless (q q' : Queues M) : Prop extends Balanced q q' where
  dropped : q'.dropped = q.dropped

variable (q : Queues M) (env : Env) (queue : QueueType)

lemma Balanced.refl : Balanced q q := ⟨rfl, fun _ => rfl, le_rfl⟩

lemma Balanced.trans {q q' q'' : Queues M} (h : Balanced q q') (h' : Balanced q' q'') :
    Balanced q q'' := by
  refine ⟨h'.transmitted.trans h.transmitted, fun a => ?_, h.nextAddress.trans h'.nextAddress⟩
  have hfirst := h.entries a
  have hsecond := h'.entries a
  omega

lemma Lossless.refl : Lossless q q := ⟨.refl q, rfl⟩

lemma Lossless.trans {q q' q'' : Queues M} (h : Lossless q q') (h' : Lossless q' q'') :
    Lossless q q'' :=
  ⟨h.toBalanced.trans h'.toBalanced, h'.dropped.trans h.dropped⟩

structure Neutral (q q' : Queues M) : Prop where
  transmitted : q'.transmitted = q.transmitted
  resolved : q'.resolved = q.resolved
  dropped : q'.dropped = q.dropped

lemma Neutral.lossless {q q' : Queues M} (h : Neutral q q')
    (hheld : ∀ a, occurrences a q'.held = occurrences a q.held)
    (hnext : q'.nextAddress = q.nextAddress) : Lossless q q' where
  transmitted := h.transmitted
  entries a := by simp [entries, allocated, h.resolved, h.dropped, hheld, hnext]
  nextAddress := hnext.ge
  dropped := h.dropped

lemma emit_neutral {e : Event M} (he : e.neutral) {q : Queues M} : Neutral q (q.emit e) := by
  obtain ⟨htrm, hreso, hdrop⟩ := he
  constructor
  · simp [transmitted, emit, htrm]
  · simp [resolved, emit, hreso]
  · simp [dropped, emit, hdrop]

lemma Tidied.log_eq {q q' : Queues M} {gone : List (ControlMessage M)} (h : Tidied q gone q') :
    q'.transmitted = q.transmitted ∧ q'.resolved = q.resolved ∧
      q'.dropped = gone.reverse ++ q.dropped := by
  induction h with
  | refl => exact ⟨rfl, rfl, rfl⟩
  | table _ _ ih | failed _ ih | ignored _ _ ih => exact ih
  | dropped m _ ih =>
    refine ⟨ih.1, ih.2.1, ?_⟩
    rw [List.reverse_append, List.append_assoc, ← ih.2.2]
    rfl

lemma Tidied.lossless {q q' : Queues M} (h : Tidied q [] q') : Lossless q q' := by
  obtain ⟨htrm, hreso, hdrop⟩ := h.log_eq
  obtain ⟨database, log, rfl⟩ := h.frame
  exact Neutral.lossless ⟨htrm, hreso, hdrop⟩ (fun _ => rfl) rfl

lemma Lossless.of_resolved {q q' : Queues M} {m : ControlMessage M} (hm : q.inFlight = some m)
    (hq' : ∃ database log, q' = { q with inFlight := none, database := database, log := log })
    (htrm : q'.transmitted = q.transmitted) (hreso : q'.resolved = m :: q.resolved)
    (hdrop : q'.dropped = q.dropped) : Lossless q q' where
  transmitted := htrm
  entries a := by
    obtain ⟨database, log, rfl⟩ := hq'
    simp only [entries, hreso, hdrop]
    simp [held, allocated, hm]
    omega
  nextAddress := by
    obtain ⟨database, log, rfl⟩ := hq'
    exact le_rfl
  dropped := hdrop

lemma discard_balanced {persisted : Bool} {transaction normal gone : List (ControlMessage M)}
    {q : Queues M}
    (hperm : (q.transactionMessageQueue ++ q.normalMessageQueue).Perm
      (transaction ++ normal ++ gone)) :
    Balanced q ({ q with
      transactionMessageQueue := transaction
      normalMessageQueue := normal }.discard env queue persisted gone) := by
  have htidied := discard_tidied env queue persisted gone
    { q with transactionMessageQueue := transaction, normalMessageQueue := normal }
  obtain ⟨htrm, hreso, hdrop⟩ := htidied.log_eq
  obtain ⟨database, log, hframe⟩ := htidied.frame
  refine ⟨htrm, fun a => ?_, by rw [hframe]⟩
  have hcount := occurrences_perm a hperm
  simp only [occurrences_append] at hcount
  simp only [entries, hreso, hdrop, occurrences_append,
    occurrences_perm a gone.reverse_perm]
  rw [hframe]
  simp only [held, allocated, occurrences_append, resolved, dropped]
  omega

section Operations

variable [DecidableEq M] [MessageType M] (config : MessageQueueConfig M) (env : Env) (q : Queues M)

lemma dropNormal_balanced : Balanced q (q.dropMessagesFromNormalMessageQueue config env) := by
  have hperm := (splitNormal_split (q.numberOfDroppedMessages config) q.normalMessageQueue).perm
  refine discard_balanced env .normal ?_
  rw [List.append_assoc]
  exact hperm.append_left _

omit [DecidableEq M] in
lemma dropUpdates_balanced :
    Balanced q (q.dropUpdateMessagesFromTransactionalMessageQueue env).1 := by
  have hperm := (splitUpdates_split true q.transactionMessageQueue).perm
  refine discard_balanced env .transaction ?_
  refine (hperm.append_right _).trans ?_
  rw [List.append_assoc, List.append_assoc]
  exact List.perm_append_comm.append_left _

lemma checkQueueSizes_balanced : Balanced q (q.checkQueueSizes config env) :=
  checkQueueSizes_inv config env (fun q h => h.trans (dropNormal_balanced config env q))
    (fun q h => h.trans (dropUpdates_balanced env q)) (.refl q)

variable {m : ControlMessage M}

omit [DecidableEq M] [MessageType M] in
lemma Lossless.of_pushed {q q' : Queues M} (hm : m.address = q.nextAddress)
    (hneutral : Neutral q q')
    (hheld : ∀ a, occurrences a q'.held = occurrences a q.held + if m.address = a then 1 else 0)
    (hnext : q'.nextAddress = q.nextAddress + 1) : Lossless q q' where
  transmitted := hneutral.transmitted
  entries a := by
    simp only [entries, hneutral.resolved, hneutral.dropped, hheld,
      allocated_succ hnext, hm]
    omega
  nextAddress := by omega
  dropped := hneutral.dropped

lemma enqueueNormal_lossless {q : Queues M} (hm : FreshMessage q m) :
    Lossless q (q.enqueueNormal config env m) := by
  refine Lossless.trans ?_ (enqueueNormal_tidied config env m q).lossless
  refine .of_pushed hm.address ⟨rfl, rfl, rfl⟩ (fun a => ?_) rfl
  simp only [held, joinNormal, emit, occurrences_append, occurrences_cons,
    occurrences_perm a (addToNormal_perm m)]
  omega

omit [DecidableEq M] [MessageType M] in
lemma enqueueTransaction_lossless {q : Queues M} (hm : FreshMessage q m) :
    Lossless q (q.enqueueTransaction env m) := by
  refine Lossless.trans ?_ (insertRow_tidied env .transaction).lossless
  refine .of_pushed hm.address ⟨rfl, rfl, rfl⟩ (fun a => ?_) rfl
  simp only [held, emit, occurrences_append, occurrences_cons, occurrences_nil]
  omega

omit [DecidableEq M] in
lemma retry_lossless {q : Queues M} (hm : q.inFlight = some m) :
    Lossless q ((q.settleUnanswered m).retry config env m) := by
  have hfront : Lossless q ((q.settleUnanswered m).pushFront (retryOf config env m)) := by
    unfold pushFront
    split
    · refine Neutral.lossless ⟨rfl, rfl, rfl⟩ (fun a => ?_) rfl
      simp [held, settleUnanswered, emit, hm, retryOf]
    · refine Neutral.lossless ⟨rfl, rfl, rfl⟩ (fun a => ?_) rfl
      simp [held, settleUnanswered, emit, hm, retryOf]
      omega
  unfold retry
  split_ifs
  · exact hfront.trans ((emit_neutral ⟨rfl, rfl, rfl⟩).lossless (fun _ => rfl) rfl)
  · exact hfront

lemma handleTimeoutOrCallerror_lossless {value : Resolution} {q : Queues M} :
    Lossless q (q.handleTimeoutOrCallerror config env value) := by
  unfold handleTimeoutOrCallerror
  split
  · exact .refl q
  · rename_i m hm
    split_ifs
    · exact retry_lossless config env hm
    · have hreso : Lossless q ((q.settleUnanswered m).emit (.resolved m value)) :=
        .of_resolved hm ⟨_, _, rfl⟩ rfl rfl rfl
      exact (hreso.trans (removeRow_tidied env _ _ _).lossless).trans
        ((emit_neutral ⟨rfl, rfl, rfl⟩).lossless (fun _ => rfl) rfl)
    · refine Neutral.lossless ⟨rfl, rfl, rfl⟩ (fun a => ?_) rfl
      simp [held, settleUnanswered, emit, hm, bootRetryOf]
      omega
    · exact .of_resolved hm ⟨_, _, rfl⟩ rfl rfl rfl

lemma handleCallResult_lossless {uniqueId : MessageId} {q : Queues M} :
    Lossless q (q.handleCallResult config env uniqueId) := by
  unfold handleCallResult
  split
  · exact .refl q
  · rename_i m hm
    split_ifs
    · have hreso : Lossless q ({ q with inFlight := none }.emit (.resolved m .callResult)) :=
        .of_resolved hm ⟨_, _, rfl⟩ rfl rfl rfl
      obtain ⟨q₀, htidied, heq⟩ := acknowledge_cases env _ m q
      rw [heq]
      exact (hreso.trans htidied.lossless).trans
        ((emit_neutral ⟨rfl, rfl, rfl⟩).lossless (fun _ => rfl) rfl)
    · exact .refl q

end Operations

end Queues

namespace MessageQueue

variable [DecidableEq M] [MessageType M]

structure Sends (s : MessageQueue M) (m : ControlMessage M) (q' : Queues M) : Prop where
  transmitted : q'.transmitted = s.outgoing m :: s.transmitted
  entries : ∀ a, q'.entries a + s.allocated a = s.entries a + q'.allocated a
  nextAddress : s.nextAddress ≤ q'.nextAddress
  dropped : q'.dropped = s.dropped

variable {m : ControlMessage M}

omit [DecidableEq M] [MessageType M] in
lemma Sends.of_held {s : MessageQueue M} {sent : Bool} {q' : Queues M}
    (hlog : q'.log = .transmitted (s.outgoing m) sent :: s.log)
    (hnext : q'.nextAddress = s.nextAddress)
    (hheld : ∀ a, occurrences a q'.held = occurrences a s.held) : Sends s m q' := by
  have hreso : q'.resolved = s.resolved := by
    rw [resolved, hlog]
    rfl
  have hdrop : q'.dropped = s.dropped := by
    rw [Queues.dropped, hlog]
    rfl
  refine ⟨?_, fun a => ?_, hnext.ge, hdrop⟩
  · rw [Queues.transmitted, hlog]
    rfl
  · simp [Queues.entries, allocated, hreso, hdrop, hheld, hnext]

omit [DecidableEq M] [MessageType M] in
lemma Sends.lossless {s : MessageQueue M} {q q' : Queues M} (h : Sends s m q) (h' : Lossless q q') :
    Sends s m q' := by
  refine ⟨h'.transmitted.trans h.transmitted, fun a => ?_, h.nextAddress.trans h'.nextAddress,
    h'.dropped.trans h.dropped⟩
  have hfirst := h.entries a
  have hsecond := h'.entries a
  omega

lemma transmit_sends {env : Env} {queue : QueueType} {s : MessageQueue M}
    (hnone : s.inFlight = none) (h : s.selectMessage env.now = some (m, queue)) :
    Sends s m (s.transmit env m queue).toQueues := by
  have hout : (s.outgoing m).address = m.address := (s.outgoing_sentAs m).address
  have hsent : Sends s m ({ s.eraseSelected env.now queue with
      inFlight := some (s.outgoing m) }.emit (.transmitted (s.outgoing m) env.sendOk)) := by
    rcases selectMessage_cases h with ⟨rfl, rest, hqueue⟩ | ⟨rfl, hfind⟩
    · refine .of_held rfl rfl fun a => ?_
      simp [held, emit, eraseSelected, hqueue, hnone, hout]
    · refine .of_held rfl rfl fun a => ?_
      simp [held, emit, eraseSelected, hnone, hout, occurrences_perm a (perm_cons_eraseP hfind)]
      omega
  unfold transmit
  split_ifs
  · exact hsent
  · exact hsent.lossless (handleTimeoutOrCallerror_lossless s.config env)

variable (env : Env) (s : MessageQueue M)

/-- What a push can do: the message objects stay accounted for, and nothing is dropped while
there is room. -/
structure Pushes (s : MessageQueue M) (q' : Queues M) : Prop where
  balanced : Balanced s.toQueues q'
  lossless : s.size < s.config.threshold → Lossless s.toQueues q'

lemma addMessage_pushes {s : MessageQueue M} (hm : FreshMessage s.toQueues m) :
    Pushes s (s.addMessage env m).toQueues ∧
      s.nextAddress < (s.addMessage env m).nextAddress := by
  have hcheck : ∀ {q : Queues M}, Lossless s.toQueues q → q.size = s.size + 1 →
      q.nextAddress = s.nextAddress + 1 → Pushes s (q.checkQueueSizes s.config env) ∧
        s.nextAddress < (q.checkQueueSizes s.config env).nextAddress := by
    intro q hq hsize hnext
    have hbal := checkQueueSizes_balanced s.config env q
    refine ⟨⟨hq.toBalanced.trans hbal, fun hroom => ?_⟩, ?_⟩
    · rw [checkQueueSizes, if_pos (by omega)]
      exact hq
    · have hle := hbal.nextAddress
      omega
  unfold addMessage
  split_ifs
  · have hq := enqueueTransaction_lossless env hm
    obtain ⟨database, log, hrow⟩ := (insertRow_tidied env .transaction).frame
    rw [enqueueTransaction, hrow] at hq
    unfold addToTransactionMessageQueue
    rw [enqueueTransaction, hrow]
    refine hcheck hq ?_ rfl
    simp [size, emit]
    omega
  · have hq := enqueueNormal_lossless s.config env hm
    obtain ⟨database, log, hframe⟩ := (enqueueNormal_tidied s.config env m s.toQueues).frame
    rw [hframe] at hq
    unfold addToNormalMessageQueue
    rw [hframe]
    refine hcheck hq ?_ rfl
    simp [size, joinNormal, emit, (addToNormal_perm m).length_eq]
    omega

omit [DecidableEq M] [MessageType M] in
lemma refuse_lossless {s : MessageQueue M} (hm : FreshMessage s.toQueues m) :
    Lossless s.toQueues (s.refuse m).toQueues where
  transmitted := rfl
  entries a := by
    have hallocated : (s.refuse m).allocated a =
        s.allocated a + if s.nextAddress = a then 1 else 0 := allocated_succ rfl a
    have hreso : (s.refuse m).resolved = m :: s.resolved := rfl
    have hheld : (s.refuse m).held = s.held := rfl
    have hdrop : (s.refuse m).dropped = s.dropped := rfl
    simp only [entries, hreso, hheld, hdrop, hallocated, occurrences_cons,
      hm.address]
    omega
  nextAddress := Nat.le_succ _
  dropped := rfl

/-- A call is pushed while there is room for it. -/
def Roomy (s : MessageQueue M) (input : Input M) : Prop :=
  input.pushes = true → s.size < s.config.threshold

instance (s : MessageQueue M) (input : Input M) : Decidable (Roomy s input) :=
  inferInstanceAs (Decidable (_ → _))

lemma pushCallAsync_pushes {call : Call M} {s : MessageQueue M} :
    Pushes s (s.pushCallAsync env call).toQueues ∧
      s.nextAddress < (s.pushCallAsync env call).nextAddress := by
  have hfresh := make_fresh env.now call false s.toQueues
  have hrefuse := refuse_lossless hfresh
  unfold pushCallAsync
  dsimp only
  split_ifs
  · exact ⟨⟨hrefuse.toBalanced, fun _ => hrefuse⟩, Nat.lt_succ_self _⟩
  · exact addMessage_pushes env hfresh
  · exact ⟨⟨hrefuse.toBalanced, fun _ => hrefuse⟩, Nat.lt_succ_self _⟩
  · exact addMessage_pushes env hfresh

/-- Only the worker transmits, and only a push drops messages. -/
theorem step_outcome {input : Input M} : Balanced s.toQueues (s.step input).toQueues ∧
        (Roomy s input → (s.step input).dropped = s.dropped) ∨
      ∃ env m queue, input = .workerIteration env ∧ Picks s env m queue ∧
        Sends s m (s.step input).toQueues := by
  have hloss : ∀ {q : Queues M}, Lossless s.toQueues q →
      Balanced s.toQueues q ∧ (Roomy s input → q.dropped = s.dropped) :=
    fun h => ⟨h.toBalanced, fun _ => h.dropped⟩
  have heff := s.step_effect input
  generalize (s.step input).toQueues = q' at heff ⊢
  cases heff with
  | nothing => exact .inl (hloss (.refl _))
  | respond =>
    exact .inl (hloss ((emit_neutral ⟨rfl, rfl, rfl⟩).lossless (fun _ => rfl) rfl))
  | relabel start transactionId =>
    refine .inl (hloss (Neutral.lossless ⟨rfl, rfl, rfl⟩ (fun a => ?_) rfl))
    simp only [notifyStartTransactionHandled, held, occurrences_append]
    rw [occurrences_map _ _ fun m => (addTransactionId_same _ transactionId m).address]
  | push env hpush hm =>
    have hpushes := (addMessage_pushes env hm).1
    exact .inl ⟨hpushes.balanced, fun hroomy => (hpushes.lossless (hroomy hpush)).dropped⟩
  | refuse _ hm => exact .inl (hloss (refuse_lossless hm))
  | fail value =>
    exact .inl (hloss (handleTimeoutOrCallerror_lossless s.config _))
  | answer env uniqueId =>
    exact .inl (hloss (handleCallResult_lossless s.config env))
  | send hpicks =>
    exact .inr ⟨_, _, _, rfl, hpicks, transmit_sends hpicks.inFlight hpicks.selected⟩

end MessageQueue

end Everest.Ocpp
