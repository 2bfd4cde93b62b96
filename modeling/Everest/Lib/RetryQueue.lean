import Mathlib.Data.List.Nodup
import Mathlib.Logic.Relation

/- A first-in first-out queue that hands out one item at a time. An item that comes back is
put at the front again, an item that is closed is gone for good, and waiting items may be
discarded. Histories have their newest entry first. -/

namespace Everest.RetryQueue
open List

variable {α : Type*}

inductive Event (α : Type*)
  | pushed (a : α)
  | sent (a : α)
  | closed (a : α)

structure State (α : Type*) where
  waiting : List α
  inFlight : Option α
  history : List (Event α)

def pushes : List (Event α) → List α
  | [] => []
  | .pushed a :: h => a :: pushes h
  | .sent _ :: h => pushes h
  | .closed _ :: h => pushes h

lemma pushes_eq_filterMap (h : List (Event α)) :
    pushes h = h.filterMap fun
      | .pushed a => some a
      | _ => none := by
  induction h with
  | nil => rfl
  | cons e h ih => cases e <;> simp [pushes, ih]

variable {h later earlier : List (Event α)} {a b : α} {l : List α} {s t : State α}

lemma mem_pushes : a ∈ pushes h ↔ Event.pushed a ∈ h := by
  rw [pushes_eq_filterMap, mem_filterMap]
  constructor
  · rintro ⟨e, he, hea⟩
    cases e with
    | pushed => simpa [← Option.some.inj hea] using he
    | sent | closed => cases hea
  · intro ha
    exact ⟨_, ha, rfl⟩

lemma sublist_pushes (hl : (l.map .pushed).Sublist h) : l.Sublist (pushes h) := by
  rw [pushes_eq_filterMap]
  have := hl.filterMap (fun | .pushed a => some a | _ => none : Event α → Option α)
  simpa [filterMap_map, Function.comp_def] using this

inductive Step : State α → State α → Prop
  | push {s : State α} (a : α) : a ∉ pushes s.history →
      Step s { s with waiting := s.waiting ++ [a], history := .pushed a :: s.history }
  | send {s : State α} (a : α) (rest : List α) : s.waiting = a :: rest → s.inFlight = none →
      Step s { waiting := rest, inFlight := some a, history := .sent a :: s.history }
  | retry {s : State α} (a : α) : s.inFlight = some a →
      Step s { s with waiting := a :: s.waiting, inFlight := none }
  | close {s : State α} (a : α) : s.inFlight = some a →
      Step s { s with inFlight := none, history := .closed a :: s.history }
  | discard {s : State α} (kept dropped : List α) : kept.Sublist s.waiting →
      (∀ a ∈ s.waiting, a ∈ kept ∨ a ∈ dropped) →
      Step s { s with waiting := kept, history := dropped.map .closed ++ s.history }

/-- The items that are not closed, oldest first. -/
def State.live (s : State α) : List α := s.inFlight.toList ++ s.waiting

/-- An item is sent only after it was pushed, and after every item pushed before it was
closed. -/
def Sequential : List (Event α) → Prop
  | [] => True
  | .sent b :: h =>
    (b ∈ pushes h ∧ ∀ a, [b, a].Sublist (pushes h) → Event.closed a ∈ h) ∧ Sequential h
  | .pushed _ :: h => Sequential h
  | .closed _ :: h => Sequential h

structure Inv (s : State α) : Prop where
  /-- No item is pushed twice. -/
  once : (pushes s.history).Nodup
  /-- The live items stand in the order of their pushes. -/
  inOrder : s.live.reverse.Sublist (pushes s.history)
  /-- Nothing is lost: an item that was pushed is live or closed. -/
  kept : ∀ a ∈ pushes s.history, a ∈ s.live ∨ Event.closed a ∈ s.history
  sequential : Sequential s.history

variable {dropped : List α}

@[simp] lemma pushes_closed_append : pushes (dropped.map .closed ++ h) = pushes h := by
  induction dropped with
  | nil => rfl
  | cons a dropped ih => simpa [pushes] using ih

lemma sequential_closed_append (hs : Sequential h) : Sequential (dropped.map .closed ++ h) := by
  induction dropped with
  | nil => exact hs
  | cons a dropped ih => exact ih

lemma pushes_append (h h' : List (Event α)) : pushes (h ++ h') = pushes h ++ pushes h' := by
  induction h with
  | nil => rfl
  | cons e h ih => cases e <;> simp [pushes, ih]

lemma not_both_orders (hl : l.Nodup) (hab : [a, b].Sublist l) (hba : [b, a].Sublist l) :
    False := by
  induction l with
  | nil => simp at hab
  | cons x l ih =>
    obtain ⟨hx, hl⟩ := nodup_cons.1 hl
    rcases sublist_cons_iff.1 hab with hab' | ⟨r, hr, hab'⟩
    · rcases sublist_cons_iff.1 hba with hba' | ⟨r, hr, hba'⟩
      · exact ih hl hab' hba'
      · obtain ⟨rfl, rfl⟩ := cons.inj hr
        exact hx (hab'.subset (by simp))
    · obtain ⟨rfl, rfl⟩ := cons.inj hr
      rcases sublist_cons_iff.1 hba with hba' | ⟨r, hr, hba'⟩
      · exact hx (hba'.subset (by simp))
      · obtain ⟨rfl, rfl⟩ := cons.inj hr
        exact hx (hab'.subset (by simp))

lemma closed_before_front (h : Inv s) {rest : List α} (hb : s.live = b :: rest)
    (hab : [b, a].Sublist (pushes s.history)) : Event.closed a ∈ s.history := by
  have ha : a ∈ pushes s.history := hab.subset (by simp)
  rcases h.kept a ha with hlive | hclosed
  · -- `a` would stand behind `b` in the queue and before it among the pushes
    have hne : a ≠ b := by
      rintro rfl
      have := h.once.sublist hab
      simp at this
    have hrest : a ∈ rest := by
      rw [hb] at hlive
      exact (mem_cons.1 hlive).resolve_left hne
    have horder : [a, b].Sublist s.live.reverse := by
      have : [b, a].Sublist s.live := by
        rw [hb]
        exact (singleton_sublist.2 hrest).cons_cons b
      simpa using this.reverse
    exact (not_both_orders h.once (horder.trans h.inOrder) hab).elim
  · exact hclosed

lemma Step.inv (h : Inv s) (step : Step s t) : Inv t := by
  cases step with
  | push a hnew =>
    refine ⟨nodup_cons.2 ⟨hnew, h.once⟩, ?_, ?_, h.sequential⟩
    · have := h.inOrder.cons_cons a
      simpa [State.live, pushes] using this
    · intro b hb
      rcases mem_cons.1 hb with rfl | hb
      · simp [State.live]
      · rcases h.kept b hb with hlive | hclosed
        · left
          simp only [State.live, mem_append] at hlive ⊢
          tauto
        · exact .inr (mem_cons_of_mem _ hclosed)
  | send a rest hwait hnone =>
    have hlive : s.live = a :: rest := by simp [State.live, hwait, hnone]
    refine ⟨h.once, ?_, ?_, ⟨⟨?_, ?_⟩, h.sequential⟩⟩
    · simpa [State.live, hwait, hnone, pushes] using h.inOrder
    · intro b hb
      have := h.kept b hb
      rw [hlive] at this
      simpa [State.live] using this
    · exact h.inOrder.subset (by simp [hlive])
    · intro b hb
      exact closed_before_front h hlive hb
  | retry a hfly =>
    have hlive : s.live = a :: s.waiting := by simp [State.live, hfly]
    refine ⟨h.once, ?_, ?_, h.sequential⟩
    · simpa [State.live, hfly] using h.inOrder
    · intro b hb
      have := h.kept b hb
      rw [hlive] at this
      simpa [State.live] using this
  | close a hfly =>
    refine ⟨h.once, ?_, ?_, h.sequential⟩
    · have hsub : s.waiting.reverse.Sublist s.live.reverse := by
        simp [State.live]
      simpa [State.live, pushes] using hsub.trans h.inOrder
    · intro b hb
      rcases h.kept b hb with hlive | hclosed
      · by_cases hba : b = a
        · simp [hba]
        · left
          simpa [State.live, hfly, hba] using hlive
      · exact .inr (mem_cons_of_mem _ hclosed)
  | discard kept dropped hkept hsplit =>
    refine ⟨by simpa using h.once, ?_, ?_, sequential_closed_append h.sequential⟩
    · have hsub : (s.inFlight.toList ++ kept).reverse.Sublist s.live.reverse :=
        (hkept.append_left _).reverse
      simpa [State.live] using hsub.trans h.inOrder
    · intro b hb
      rw [pushes_closed_append] at hb
      rcases h.kept b hb with hlive | hclosed
      · rcases mem_append.1 hlive with hfly | hwait
        · exact .inl (mem_append.2 (.inl hfly))
        · rcases hsplit b hwait with hk | hd
          · exact .inl (mem_append.2 (.inr hk))
          · exact .inr (by simp [hd])
      · exact .inr (by simp [hclosed])

lemma inv_of_steps (h : Inv s) (steps : Relation.ReflTransGen Step s t) : Inv t := by
  induction steps with
  | refl => exact h
  | tail _ step ih => exact step.inv ih

lemma inv_empty : Inv ({ waiting := [], inFlight := none, history := [] } : State α) :=
  ⟨nodup_nil, by simp [State.live, pushes], by simp [pushes], trivial⟩

lemma Sequential.sent (h : Sequential (later ++ .sent b :: earlier)) :
    b ∈ pushes earlier ∧ ∀ a, [b, a].Sublist (pushes earlier) → Event.closed a ∈ earlier := by
  induction later with
  | nil => exact h.1
  | cons e later ih =>
    cases e with
    | sent => exact ih h.2
    | pushed | closed => exact ih h

lemma pair_sublist_append {l' : List α} (hb : b ∉ l) (h : [b, a].Sublist (l ++ l')) :
    [b, a].Sublist l' := by
  induction l with
  | nil => exact h
  | cons x l ih =>
    simp only [mem_cons, not_or] at hb
    rcases sublist_cons_iff.1 h with h | ⟨r, hr, -⟩
    · exact ih hb.2 h
    · exact absurd (cons.inj hr).1 hb.1

/-- Whenever an item is sent, all items pushed before it are closed. -/
theorem Inv.closed_before_sent (h : Inv s) (hs : s.history = later ++ .sent b :: earlier)
    (hab : [b, a].Sublist (pushes s.history)) : Event.closed a ∈ earlier := by
  obtain ⟨hb, hclosed⟩ := (hs ▸ h.sequential).sent
  have hsplit : pushes s.history = pushes later ++ pushes earlier := by
    rw [hs, pushes_append]
    rfl
  have hnot : b ∉ pushes later := by
    have hdisj := disjoint_of_nodup_append (hsplit ▸ h.once)
    exact fun hl => hdisj hl hb
  rw [hsplit] at hab
  exact hclosed a (pair_sublist_append hnot hab)

end Everest.RetryQueue
