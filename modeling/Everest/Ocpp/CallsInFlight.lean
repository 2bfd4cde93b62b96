import Everest.Ocpp.QueueMoves
import Mathlib.Algebra.Order.Group.Multiset
import Mathlib.Tactic.Abel

namespace Everest.Ocpp
open Queues Runs Multiset

variable {M : Type}

def outstanding : List (Event M) → List ℕ
  | [] => []
  | .transmitted m _ :: log => m.address :: outstanding log
  | .answered m :: log => (outstanding log).erase m.address
  | .unanswered m :: log => (outstanding log).erase m.address
  | _ :: log => outstanding log

def transmissions (address : ℕ) : List (Event M) → ℕ
  | [] => 0
  | .transmitted m _ :: log =>
    (if m.address = address then 1 else 0) + transmissions address log
  | _ :: log => transmissions address log

/-- Events that tell of no message entering the queue, going out or leaving flight. -/
def Event.quiet : Event M → Bool
  | .pushed _ => false
  | .transmitted .. => false
  | .answered _ => false
  | .unanswered _ => false
  | .exhausted .. => false
  | _ => true

/-- A message is pushed before it is sent; it goes out as what it was pushed as, and only when
no call is outstanding; and it is exhausted only after as many transmissions as are
configured. -/
def Allowed : Event M → List (Event M) → Prop
  | .pushed m, earlier => transmissions m.address earlier = 0
  | .transmitted m _, earlier => outstanding earlier = [] ∧
    ∀ p, Event.pushed p ∈ earlier → p.address = m.address → p.messageType = m.messageType
  | .exhausted m attempts, earlier => attempts ≤ transmissions m.address earlier
  | _, _ => True

def QuietAfter (old log : List (Event M)) : Prop :=
  Grows (fun e _ => e.quiet = true) old log

variable {p : ControlMessage M}

namespace QuietAfter

variable {old log : List (Event M)}

lemma outstanding (h : QuietAfter old log) : outstanding log = outstanding old := by
  induction h with
  | refl => rfl
  | @cons e log _ he ih =>
    cases e with
    | transmitted | answered | unanswered => cases he
    | _ => exact ih

lemma transmissions (h : QuietAfter old log) (a : ℕ) :
    transmissions a log = transmissions a old := by
  induction h with
  | refl => rfl
  | @cons e log _ he ih =>
    cases e with
    | transmitted => cases he
    | _ => exact ih

lemma pushed (h : QuietAfter old log) (hp : Event.pushed p ∈ log) : Event.pushed p ∈ old := by
  induction h with
  | refl => exact hp
  | @cons e log _ he ih =>
    rcases List.mem_cons.1 hp with rfl | hp
    · cases he
    · exact ih hp

lemma allowed (h : QuietAfter old log) : Grows Allowed old log := by
  refine h.mono ?_
  intro e log he
  cases e with
  | pushed | transmitted | exhausted => cases he
  | _ => trivial

end QuietAfter

attribute [local simp] transmissions

lemma transmissions_append (a : ℕ) (log log' : List (Event M)) :
    transmissions a (log ++ log') = transmissions a log + transmissions a log' := by
  induction log with
  | nil => simp
  | cons e log ih =>
    cases e with
    | transmitted => simp [ih, Nat.add_assoc]
    | _ => exact ih

lemma outstanding_length_le {log : List (Event M)} (h : Grows Allowed [] log) :
    (outstanding log).length ≤ 1 := by
  induction h with
  | refl => simp [outstanding]
  | @cons e log _ he ih =>
    cases e with
    | transmitted => simp [outstanding, he.1]
    | answered | unanswered => exact (List.length_erase_le).trans ih
    | _ => exact ih

variable {m : ControlMessage M}

/-- A message goes out as what it was pushed as, also if only the later log tells of the push. -/
theorem transmitted_type {later earlier : List (Event M)} {sent : Bool}
    (hlog : Grows Allowed [] (later ++ .transmitted m sent :: earlier))
    (hp : Event.pushed p ∈ later ++ .transmitted m sent :: earlier) (hpm : p.address = m.address) :
    p.messageType = m.messageType := by
  rcases List.mem_append.1 hp with hlater | hearlier
  · obtain ⟨newer, older, rfl⟩ := List.append_of_mem hlater
    have hallow : Allowed (.pushed p) (older ++ .transmitted m sent :: earlier) :=
      hlog.entry (List.append_assoc newer _ _) (Nat.zero_le _)
    have hzero : transmissions p.address (older ++ .transmitted m sent :: earlier) = 0 := hallow
    simp [transmissions_append, hpm] at hzero
  · have hallow : Allowed (.transmitted m sent) earlier := hlog.entry rfl (Nat.zero_le _)
    exact hallow.2 p (by simpa using hearlier) hpm

variable {q q' : Queues M} {gone : List (ControlMessage M)}

lemma Queues.Tidied.quiet (h : Tidied q gone q') : QuietAfter q.log q'.log := by
  induction h with
  | refl => exact .refl
  | table _ _ ih => exact ih
  | failed _ ih | ignored _ _ ih | dropped _ _ ih => exact ih.cons rfl

structure Card (M : Type) where
  address : ℕ
  messageType : M
  attempts : ℕ

def card (m : ControlMessage M) : Card M := ⟨m.address, m.messageType, m.messageAttempts⟩

def cardsOf (queue : List (ControlMessage M)) : Multiset (Card M) :=
  Multiset.ofList (queue.map card)

@[simp] lemma cardsOf_nil : cardsOf ([] : List (ControlMessage M)) = 0 := rfl

@[simp] lemma cardsOf_cons (m : ControlMessage M) (queue : List (ControlMessage M)) :
    cardsOf (m :: queue) = {card m} + cardsOf queue := rfl

@[simp] lemma cardsOf_append (queue queue' : List (ControlMessage M)) :
    cardsOf (queue ++ queue') = cardsOf queue + cardsOf queue' := by
  simp [cardsOf]

variable {queue : List (ControlMessage M)}

lemma cardsOf_perm {queue' : List (ControlMessage M)} (h : queue.Perm queue') :
    cardsOf queue = cardsOf queue' :=
  coe_eq_coe.2 (h.map card)

lemma cardsOf_le {kept : List (ControlMessage M)} (h : kept.Sublist queue) :
    cardsOf kept ≤ cardsOf queue :=
  coe_le.2 (h.map card).subperm

lemma cardsOf_map {f : ControlMessage M → ControlMessage M} (hf : ∀ m, SameMessage m (f m)) :
    cardsOf (queue.map f) = cardsOf queue := by
  have hcard : card ∘ f = card := by
    funext m
    simp [card, (hf m).address, (hf m).messageType, (hf m).messageAttempts]
  rw [cardsOf, List.map_map, hcard, cardsOf]

def Queues.cards (q : Queues M) : Multiset (Card M) :=
  cardsOf q.inFlight.toList + (cardsOf q.transactionMessageQueue + cardsOf q.normalMessageQueue)

/-- Every message counts its own transmissions and is what it was pushed as. -/
structure Counted (cards : Multiset (Card M)) (nextAddress : ℕ) (log : List (Event M)) :
    Prop where
  counted : ∀ c ∈ cards, c.attempts = transmissions c.address log ∧ c.address < nextAddress
  distinct : (cards.map Card.address).Nodup
  unused : ∀ a, nextAddress ≤ a → transmissions a log = 0
  typed : ∀ p, Event.pushed p ∈ log → p.address < nextAddress ∧
    ∀ c ∈ cards, p.address = c.address → p.messageType = c.messageType

variable {out : ControlMessage M}

namespace Counted

variable {cards cards' : Multiset (Card M)} {n : ℕ} {log log' : List (Event M)}

lemma mono (h : Counted cards n log) (hle : cards' ≤ cards) : Counted cards' n log where
  counted c hc := h.counted c (mem_of_le hle hc)
  distinct := nodup_of_le (map_le_map hle) h.distinct
  unused := h.unused
  typed p hp := ⟨(h.typed p hp).1, fun c hc => (h.typed p hp).2 c (mem_of_le hle hc)⟩

lemma of_log (h : Counted cards n log) (hlog : ∀ a, transmissions a log' = transmissions a log)
    (hpushed : ∀ p, Event.pushed p ∈ log' → Event.pushed p ∈ log) : Counted cards n log' where
  counted c hc := by rw [hlog]; exact h.counted c hc
  distinct := h.distinct
  unused a ha := by rw [hlog]; exact h.unused a ha
  typed p hp := h.typed p (hpushed p hp)

lemma skip (h : Counted cards n log) : Counted cards (n + 1) log where
  counted c hc := ⟨(h.counted c hc).1, Nat.lt_succ_of_lt (h.counted c hc).2⟩
  distinct := h.distinct
  unused a ha := h.unused a (Nat.le_of_succ_le ha)
  typed p hp := ⟨Nat.lt_succ_of_lt (h.typed p hp).1, (h.typed p hp).2⟩

lemma add (h : Counted cards n log) (hm : m.address = n) (hatt : m.messageAttempts = 0) :
    Counted ({card m} + cards) (n + 1) (.pushed m :: log) := by
  have hbelow : ∀ c ∈ cards, c.address ≠ m.address := by
    intro c hc hcm
    have := (h.counted c hc).2
    omega
  refine ⟨?_, ?_, h.skip.unused, ?_⟩
  · intro c hc
    rcases mem_cons.1 (singleton_add _ _ ▸ hc) with rfl | hc
    · have hzero := h.unused m.address (by omega)
      exact ⟨by simp [card, hatt, hzero], by simp [card, hm]⟩
    · exact h.skip.counted c hc
  · rw [singleton_add, map_cons]
    refine nodup_cons.2 ⟨?_, h.distinct⟩
    intro hmem
    obtain ⟨c, hc, hcm⟩ := mem_map.1 hmem
    exact hbelow c hc hcm
  · intro p hp
    rcases List.mem_cons.1 hp with hpm | hp
    · obtain rfl : p = m := by simpa using hpm
      refine ⟨by omega, ?_⟩
      intro c hc hpc
      rcases mem_cons.1 (singleton_add _ _ ▸ hc) with rfl | hc
      · rfl
      · exact absurd hpc.symm (hbelow c hc)
    · have hp' := h.typed p hp
      refine ⟨Nat.lt_succ_of_lt hp'.1, ?_⟩
      intro c hc hpc
      rcases mem_cons.1 (singleton_add _ _ ▸ hc) with rfl | hc
      · have : p.address = m.address := hpc
        omega
      · exact hp'.2 c hc hpc

lemma send (h : Counted ({card m} + cards) n log) (hout : SentAs m out) (sent : Bool) :
    Counted ({card out} + cards) n (.transmitted out sent :: log) := by
  have haddr : out.address = m.address := hout.address
  have htype : out.messageType = m.messageType := hout.messageType
  have hatt : out.messageAttempts = m.messageAttempts + 1 := hout.messageAttempts
  have hm := h.counted (card m) (by simp)
  have hdist : m.address ∉ cards.map Card.address ∧ (cards.map Card.address).Nodup := by
    simpa [card] using h.distinct
  have hnot : ∀ c ∈ cards, m.address ≠ c.address := by
    intro c hc hmc
    exact hdist.1 (mem_map.2 ⟨c, hc, hmc.symm⟩)
  refine ⟨?_, ?_, ?_, ?_⟩
  · intro c hc
    rcases mem_cons.1 (singleton_add _ _ ▸ hc) with rfl | hc
    · have hcount : m.messageAttempts = transmissions m.address log := hm.1
      refine ⟨?_, by simpa [card, haddr] using hm.2⟩
      simp only [card, transmissions, if_true, haddr, hatt, ← hcount]
      omega
    · simpa [haddr, hnot c hc] using h.counted c (by simp [hc])
  · rw [singleton_add, map_cons]
    exact nodup_cons.2 (by simpa [card, haddr] using hdist)
  · intro b hb
    have hmb : m.address ≠ b := by
      have : m.address < n := hm.2
      omega
    simpa [haddr, hmb] using h.unused b hb
  · intro p hp
    have hp' := h.typed p (by simpa using hp)
    refine ⟨hp'.1, ?_⟩
    intro c hc hpc
    rcases mem_cons.1 (singleton_add _ _ ▸ hc) with rfl | hc
    · simpa [card, htype] using hp'.2 (card m) (by simp) (by simpa [card, haddr] using hpc)
    · exact hp'.2 c (by simp [hc]) hpc

end Counted

variable {m : ControlMessage M} {q : Queues M}

lemma cards_settle_le (hm : q.inFlight = some m) :
    (q.settleUnanswered m).cards ≤ q.cards := by
  simp only [cards, settleUnanswered, emit, hm]
  exact add_le_add_left (zero_le _) _

structure Flight (q : Queues M) : Prop where
  one : outstanding q.log = q.inFlight.toList.map (·.address)
  written : Grows Allowed [] q.log
  counted : Counted q.cards q.nextAddress q.log

namespace Flight

variable {q q' : Queues M} {m : ControlMessage M}

lemma of_quiet (h : Flight q) (hlog : QuietAfter q.log q'.log)
    (hfly : q'.inFlight = q.inFlight) (hcounted : Counted q'.cards q'.nextAddress q.log) :
    Flight q' :=
  ⟨by rw [hlog.outstanding, h.one, hfly], h.written.trans hlog.allowed,
    hcounted.of_log hlog.transmissions fun _ => hlog.pushed⟩

lemma of_tidied (h : Flight q) (ht : Tidied q gone q') : Flight q' := by
  obtain ⟨database, log, rfl⟩ := ht.frame
  exact h.of_quiet ht.quiet rfl h.counted

lemma of_pushed (h : Flight q) (hm : FreshMessage q m) (hlog : q'.log = .pushed m :: q.log)
    (hfly : q'.inFlight = q.inFlight) (hnext : q'.nextAddress = q.nextAddress + 1)
    (hcards : q'.cards = {card m} + q.cards) : Flight q' := by
  refine ⟨?_, ?_, ?_⟩
  · rw [hlog, hfly]
    exact h.one
  · rw [hlog]
    exact h.written.cons (h.counted.unused m.address (by rw [hm.address]))
  · rw [hlog, hcards, hnext]
    exact h.counted.add hm.address hm.messageAttempts

lemma of_sent (h : Flight q) (sent : Bool) (rest : Multiset (Card M))
    (hnone : q.inFlight = none) (hlog : q'.log = .transmitted out sent :: q.log)
    (hfly : q'.inFlight = some out) (hnext : q'.nextAddress = q.nextAddress) (hout : SentAs m out)
    (hcards : q.cards = {card m} + rest) (hcards' : q'.cards = {card out} + rest) : Flight q' := by
  have hone : outstanding q.log = [] := by simp [h.one, hnone]
  have hcounted := h.counted
  rw [hcards] at hcounted
  refine ⟨?_, ?_, ?_⟩
  · simp [hlog, hfly, outstanding, hone]
  · rw [hlog]
    refine h.written.cons ⟨hone, ?_⟩
    intro p hp hpo
    rw [hout.messageType]
    exact (hcounted.typed p hp).2 (card m) (by simp) (hpo.trans hout.address)
  · rw [hlog, hnext, hcards']
    exact hcounted.send hout sent

lemma settleUnanswered (h : Flight q) (hm : q.inFlight = some m) :
    Flight (q.settleUnanswered m) := by
  refine ⟨?_, h.written.cons trivial, ?_⟩
  · simp [Queues.settleUnanswered, emit, outstanding, h.one, hm]
  · refine (h.counted.mono (cards_settle_le hm)).of_log (fun a => rfl) ?_
    intro p hp
    simpa [Queues.settleUnanswered, emit] using hp

lemma putBack {m' : ControlMessage M} (h : Flight q) (hm : q.inFlight = some m)
    (hsame : SameMessage m m') (hfly : q'.inFlight = none)
    (hlog : q'.log = .unanswered m :: q.log) (hnext : q'.nextAddress = q.nextAddress)
    (hcards : q'.cards = {card m'} + (q.settleUnanswered m).cards) : Flight q' := by
  have hsettl := h.settleUnanswered hm
  refine ⟨?_, by rw [hlog]; exact hsettl.written, ?_⟩
  · rw [hlog, hfly]
    exact hsettl.one
  · have hq : q'.cards = q.cards := by
      rw [hcards]
      simp [Queues.cards, Queues.settleUnanswered, emit, hm, card, hsame.address,
        hsame.messageType, hsame.messageAttempts]
    rw [hlog, hnext, hq]
    exact h.counted.of_log (fun a => rfl) (fun p hp => by simpa using hp)

end Flight

variable [DecidableEq M] [MessageType M] {config : MessageQueueConfig M} {env : Env}

omit [DecidableEq M] in
lemma giveUp_flight (h : Flight q) {value : Resolution} (hm : q.inFlight = some m)
    (hatt : config.transactionMessageAttempts ≤ m.messageAttempts) :
    Flight ((q.settleUnanswered m).giveUp config env m value) := by
  have hsettl := h.settleUnanswered hm
  have hreso : Flight ((q.settleUnanswered m).emit (.resolved m value)) :=
    hsettl.of_quiet (.cons .refl rfl) rfl hsettl.counted
  have htidied := removeRow_tidied env (queueTypeOf m) m.initialUniqueId
    ((q.settleUnanswered m).emit (.resolved m value))
  have hrow := hreso.of_tidied htidied
  refine ⟨hrow.one, hrow.written.cons ?_, hrow.counted.of_log (fun a => rfl) ?_⟩
  swap
  · intro p hp
    exact (List.mem_cons.1 hp).resolve_left (by simp)
  have hcount : m.messageAttempts = transmissions m.address q.log := by
    refine (h.counted.counted (card m) ?_).1
    simp [cards, hm]
  change config.transactionMessageAttempts ≤ (transmissions m.address _ : ℕ)
  rw [htidied.quiet.transmissions m.address]
  change config.transactionMessageAttempts ≤ (transmissions m.address q.log : ℕ)
  omega

omit [DecidableEq M] in
lemma acknowledge_flight (h : Flight q) {remove : Bool} (hm : q.inFlight = some m) :
    Flight (q.acknowledge env remove m) := by
  obtain ⟨q₀, htidied, heq⟩ := acknowledge_cases env remove m q
  have hquiet : QuietAfter q.log q₀.log := Grows.trans (.cons .refl rfl) htidied.quiet
  obtain ⟨database, log, rfl⟩ := htidied.frame
  rw [heq]
  refine ⟨?_, ?_, ?_⟩
  · simp [emit, outstanding, hquiet.outstanding, h.one, hm]
  · exact (h.written.trans hquiet.allowed).cons trivial
  · refine (h.counted.mono (cards_settle_le hm)).of_log hquiet.transmissions ?_
    intro p hp
    exact hquiet.pushed (by simpa [emit] using hp)

lemma Move.flight (h : Flight q) (move : Move q q') : Flight q' := by
  cases move with
  | note e he =>
    refine h.of_quiet (.cons .refl ?_) rfl h.counted
    cases e <;> first | rfl | cases he
  | relabel f hf =>
    refine h.of_quiet .refl rfl ?_
    simpa [cards, cardsOf_map hf] using h.counted
  | skipAddress => exact h.of_quiet .refl rfl h.counted.skip
  | enqueueTransaction env htype hm =>
    refine Flight.of_tidied ?_ (insertRow_tidied env .transaction)
    refine h.of_pushed hm rfl rfl rfl ?_
    simp only [cards, emit, cardsOf_append, cardsOf_cons, cardsOf_nil]
    abel
  | @enqueueNormal config env m htype hm =>
    refine Flight.of_tidied ?_ (enqueueNormal_tidied config env m q)
    refine h.of_pushed hm rfl rfl rfl ?_
    simp only [cards, joinNormal, emit, cardsOf_perm (addToNormal_perm m), cardsOf_cons]
    abel
  | discardUpdates env hkept =>
    refine Flight.of_tidied ?_ (discard_tidied env .transaction true _ _)
    refine h.of_quiet .refl rfl ?_
    exact h.counted.mono (add_le_add_right (add_le_add_left (cardsOf_le hkept) _) _)
  | discardNormal env persisted hkept =>
    refine Flight.of_tidied ?_ (discard_tidied env .normal persisted _ _)
    refine h.of_quiet .refl rfl ?_
    exact h.counted.mono (add_le_add_right (add_le_add_right (cardsOf_le hkept) _) _)
  | @sendTransaction m out rest sent hnone hqueue hout =>
    refine h.of_sent sent (cardsOf rest + cardsOf q.normalMessageQueue) hnone rfl rfl rfl hout ?_ ?_
    · simp only [cards, hnone, hqueue, Option.toList_none, cardsOf_nil, cardsOf_cons]
      abel
    · simp only [cards, emit, Option.toList_some, cardsOf_nil, cardsOf_cons]
      abel
  | @sendNormal m out rest sent hnone hqueue hout =>
    refine h.of_sent sent (cardsOf q.transactionMessageQueue + cardsOf rest) hnone rfl rfl rfl hout
      ?_ ?_
    · simp only [cards, hnone, cardsOf_perm hqueue, Option.toList_none, cardsOf_nil,
        cardsOf_cons]
      abel
    · simp only [cards, emit, Option.toList_some, cardsOf_nil, cardsOf_cons]
      abel
  | retryTransaction hm htype hsame | retryNormal hm htype hsame =>
    refine h.putBack hm hsame rfl rfl rfl ?_
    simp only [cards, settleUnanswered, emit, cardsOf_cons]
    abel
  | abandon hm => exact h.settleUnanswered hm
  | giveUp config env value hm hatt => exact giveUp_flight h hm hatt
  | acknowledge env remove hm => exact acknowledge_flight h hm

end Everest.Ocpp
