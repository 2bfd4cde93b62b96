import Everest.Energy.Optimizer
import Everest.Lib.Timeline

namespace Everest.Energy
open Timeline List

section ActiveSlot

variable {now t : ℤ} {before after : List ℤ} {offer : ScheduleReq}

lemma activeSlotBetween_of_lt {n : ℕ} (hafter : ∀ a ∈ after, now < a) :
    activeSlotBetween now n after = none := by
  fun_induction activeSlotBetween now n after with
  | case1 n a a' rest h => exact absurd (hafter a mem_cons_self) (by omega)
  | case2 n a a' rest h ih => exact ih fun b hb => hafter b (mem_cons_of_mem _ hb)
  | case3 => rfl

/-- The search wants `now` strictly inside a slot that has a successor. -/
lemma activeSlotBetween_eq (n : ℕ) (hbef : ∀ b ∈ before, b < t) (ht : t ≤ now)
    (hafter : ∀ a ∈ after, now < a) :
    activeSlotBetween now n (before ++ t :: after) =
      if t < now ∧ after ≠ [] then some (n + before.length) else none := by
  induction before generalizing n with
  | nil =>
    cases after with
    | nil => simp [activeSlotBetween]
    | cons a after =>
      have hlt := hafter a mem_cons_self
      simp [activeSlotBetween, hlt, activeSlotBetween_of_lt hafter]
  | cons b before ih =>
    have ih := ih (n + 1) fun x hx => hbef x (mem_cons_of_mem _ hx)
    -- whichever slot comes next has begun as well
    obtain ⟨t', rest, hnext, hle⟩ : ∃ t' rest, before ++ t :: after = t' :: rest ∧ t' ≤ now := by
      cases before with
      | nil => exact ⟨t, after, rfl, ht⟩
      | cons b' before => exact ⟨b', _, rfl, (hbef b' (by simp)).le.trans ht⟩
    rw [cons_append, hnext, activeSlotBetween, if_neg (by omega), ← hnext, ih,
      length_cons, Nat.add_assoc, Nat.add_comm 1]

lemma activeSlot_eq (hoffer : offer.map (·.timestamp) = before ++ t :: after)
    (hbef : ∀ b ∈ before, b < t) (ht : t ≤ now) (hafter : ∀ a ∈ after, now < a) :
    activeSlot now offer = if t < now then before.length else 0 := by
  have hhead : ∀ h ∈ (before ++ t :: after).head?, ¬ now < h := by
    cases before with
    | nil => simpa using ht
    | cons b before => simpa using (hbef b mem_cons_self).le.trans ht
  simp only [activeSlot, hoffer, activeSlotBetween_eq 0 hbef ht hafter]
  rw [if_neg (by simpa using hhead)]
  cases after using reverseRecOn with
  | nil => simp
  | append_singleton after a =>
    have hlast : (before ++ t :: (after ++ [a])).getLast? = some a := by
      simp [getLast?_cons]
    have ha := hafter a (by simp)
    rw [hlast, if_neg (by simpa using ha.le)]
    by_cases hlt : t < now <;> simp [hlt]

lemma selectSchedule_eq {selected s : ScheduleResEntry} {before after : ScheduleRes}
    (hbef : ∀ b ∈ before, b.timestamp ≤ now) (hs : s.timestamp ≤ now)
    (hafter : ∀ a ∈ after, now < a.timestamp) :
    selectSchedule now selected (before ++ s :: after) = s := by
  induction before generalizing selected with
  | nil =>
    rw [nil_append, selectSchedule, if_neg (by omega)]
    cases after with
    | nil => rfl
    | cons a after => rw [selectSchedule, if_pos (hafter a mem_cons_self)]
  | cons b before ih =>
    obtain ⟨hb, hbef⟩ := forall_mem_cons.mp hbef
    rw [cons_append, selectSchedule, if_neg (by omega), ih hbef]

/-- The optimizer enforces the slot in force, or the first one. The brokers take the same slot
for the active one unless the start time is the beginning of a later slot. -/
theorem active_slot_is_enforced_iff {first : ScheduleResEntry} {rest : ScheduleRes}
    (hsold : Increasing ScheduleResEntry.timestamp (first :: rest))
    (hoffer : offer.map (·.timestamp) = (first :: rest).map (·.timestamp)) :
    let selected := selectSchedule now first (first :: rest)
    selected = (inForce ScheduleResEntry.timestamp (first :: rest) now).getD first ∧
      (∃! i, i < offer.length ∧ timeSlotActive now i offer = true) ∧
      ((∀ i, timeSlotActive now i offer = true → (first :: rest)[i]? = some selected) ↔
        ∀ s ∈ rest, s.timestamp ≠ now) := by
  simp only [timeSlotActive, decide_eq_true_eq, forall_eq']
  have hlen : offer.length = (first :: rest).length := by
    simpa using congrArg length hoffer
  by_cases hfirst : first.timestamp ≤ now
  · obtain ⟨before, s, after, hsplit, hs, hafter⟩ := hsold.split hfirst
    have hbef : ∀ b ∈ before, b.timestamp < s.timestamp := by
      rw [hsplit] at hsold
      exact fun b hb => (pairwise_append.mp hsold).2.2 b hb s mem_cons_self
    rw [hsplit, map_append, map_cons] at hoffer
    have hact := activeSlot_eq hoffer (by simpa using hbef) hs (by simpa using hafter)
    rw [length_map] at hact
    have hsel : selectSchedule now first (first :: rest) = s := by
      rw [hsplit, selectSchedule_eq (fun b hb => (hbef b hb).le.trans hs) hs hafter]
    refine ⟨?_, ?_, ?_⟩
    · rw [hsel, hsplit, inForce_append_cons hs hafter]
      rfl
    · refine ⟨activeSlot now offer, ⟨?_, rfl⟩, fun i hi => hi.2.symm⟩
      rw [hact, hlen, hsplit]
      split_ifs <;> simp
    · rw [hact, hsel]
      split_ifs with hlt
      · refine iff_of_true (by simp [hsplit]) fun r hr => ?_
        have hmem : r ∈ before ++ s :: after := hsplit ▸ mem_cons_of_mem _ hr
        rcases mem_append.mp hmem with hr | hr
        · exact ((hbef r hr).trans hlt).ne
        · rcases mem_cons.mp hr with rfl | hr
          · exact hlt.ne
          · exact (hafter r hr).ne'
      · -- a slot that begins now is enforced, but the first one counts as active
        have hnow : s.timestamp = now := by omega
        have hmem : s ∈ first :: rest := by simp [hsplit]
        rw [getElem?_cons_zero, Option.some_inj]
        constructor
        · rintro rfl r hr
          have := rel_of_pairwise_cons hsold hr
          omega
        · intro hne
          rcases mem_cons.mp hmem with rfl | hs
          · rfl
          · exact absurd hnow (hne s hs)
  · have hnone : ∀ s ∈ first :: rest, now < s.timestamp := by
      refine forall_mem_cons.mpr ⟨by omega, fun s hs => ?_⟩
      have := rel_of_pairwise_cons hsold hs
      omega
    have hfuture : now < first.timestamp := hnone first mem_cons_self
    have hsel : selectSchedule now first (first :: rest) = first := if_pos hfuture
    have hact : activeSlot now offer = 0 := by
      simp [activeSlot, hoffer, hfuture]
    refine ⟨?_, ⟨0, ⟨by simp [hlen], hact⟩, fun i hi => hi.2.symm.trans hact⟩, ?_⟩
    · rw [hsel, inForce, filter_eq_nil_iff.mpr (by simpa using hnone)]
      rfl
    · rw [hsel, hact]
      exact iff_of_true rfl fun s hs => (hnone s (mem_cons_of_mem _ hs)).ne'

theorem active_slot_is_enforced_between :
    let offer : ScheduleReq := [⟨0, {}, {}, none⟩, ⟨10, {}, {}, none⟩]
    ∀ i, timeSlotActive 15 i offer = true → [ScheduleResEntry.mk 0 {}, ⟨10, {}⟩][i]? =
      some (selectSchedule 15 ⟨0, {}⟩ [⟨0, {}⟩, ⟨10, {}⟩]) :=
  (active_slot_is_enforced_iff (by simp [Increasing]) rfl).2.2.mpr (by decide)

/-- At the beginning of the second slot the first one still counts as active. -/
theorem slot_beginning_not_active :
    let offer : ScheduleReq := [⟨0, {}, {}, none⟩, ⟨10, {}, {}, none⟩]
    timeSlotActive 10 0 offer = true ∧ timeSlotActive 10 1 offer = false ∧
      selectSchedule 10 ⟨0, {}⟩ [⟨0, {}⟩, ⟨10, {}⟩] = ⟨10, {}⟩ := by
  decide

end ActiveSlot

end Everest.Energy
