import Mathlib.Data.List.Perm.Subperm

/- Cars arrive one after the other and each takes any free place that serves it. Whether all
of them find a place in every order depends on what the others may have taken. -/

namespace Everest.Arrivals
open List

variable {Place Car : Type*}

/-- Whatever places the cars choose, the next one finds a place. -/
def AllServed (serves : Place → Car → Prop) : List Place → List Car → Prop
  | _, [] => True
  | used, car :: cars => (∃ p, serves p car ∧ p ∉ used) ∧
      ∀ p, serves p car → p ∉ used → AllServed serves (p :: used) cars

structure Placed (serves : Place → Car → Prop) (cars : List Car) (places : List Place) : Prop where
  served : List.Forall₂ (fun car p => serves p car) cars places
  distinct : places.Nodup

/-- Some of the cars may have taken every place for another one. -/
def Blocked (serves : Place → Car → Prop) (cars : List Car) : Prop :=
  ∃ placed places car, (car :: placed).Subperm cars ∧ Placed serves placed places ∧
    ∀ p, serves p car → p ∈ places

variable {serves : Place → Car → Prop}

lemma Placed.nil : Placed serves ([] : List Car) [] := ⟨.nil, nodup_nil⟩

variable {cars : List Car} {places used : List Place} {car : Car} {p taken : Place}

lemma Placed.cons (h : Placed serves cars places) (hp : serves p car) (hnew : p ∉ places) :
    Placed serves (car :: cars) (p :: places) :=
  ⟨.cons hp h.served, nodup_cons.2 ⟨hnew, h.distinct⟩⟩

lemma AllServed.congr {used' : List Place} (h : AllServed serves used cars)
    (hused : ∀ p, p ∈ used ↔ p ∈ used') : AllServed serves used' cars := by
  induction cars generalizing used used' with
  | nil => trivial
  | cons car cars ih =>
    obtain ⟨⟨p, hp, hfree⟩, hrest⟩ := h
    refine ⟨⟨p, hp, fun hmem => hfree ((hused p).2 hmem)⟩, ?_⟩
    intro q hq hqfree
    refine ih (hrest q hq fun hmem => hqfree ((hused q).1 hmem)) ?_
    intro r
    simp only [mem_cons, hused r]

lemma AllServed.next {placed rest : List Car} (h : AllServed serves used (placed ++ car :: rest))
    (hplaced : Placed serves placed places) (hfree : ∀ p ∈ places, p ∉ used) :
    ∃ p, serves p car ∧ p ∉ used ∧ p ∉ places := by
  induction placed generalizing used places with
  | nil =>
    obtain ⟨⟨p, hp, hused⟩, -⟩ := h
    cases hplaced.served
    exact ⟨p, hp, hused, not_mem_nil⟩
  | cons first placed ih =>
    obtain ⟨served, distinct⟩ := hplaced
    cases served with
    | @cons _ q _ places hq hrest =>
      obtain ⟨hqnew, hdist⟩ := nodup_cons.1 distinct
      have hafter := h.2 q hq (hfree q mem_cons_self)
      obtain ⟨p, hp, hused, hplaces⟩ := ih hafter ⟨hrest, hdist⟩ (by
        intro p hp hmem
        rcases mem_cons.1 hmem with rfl | hmem
        · exact hqnew hp
        · exact hfree p (mem_cons_of_mem _ hp) hmem)
      simp only [mem_cons, not_or] at hused ⊢
      exact ⟨p, hp, hused.2, hused.1, hplaces⟩

lemma allServed_of_next
    (h : ∀ placed car rest places, cars = placed ++ car :: rest → Placed serves placed places →
      (∀ p ∈ places, p ∉ used) → ∃ p, serves p car ∧ p ∉ used ∧ p ∉ places) :
    AllServed serves used cars := by
  induction cars generalizing used with
  | nil => trivial
  | cons car cars ih =>
    refine ⟨?_, ?_⟩
    · obtain ⟨p, hp, hused, -⟩ := h [] car cars [] rfl .nil (by simp)
      exact ⟨p, hp, hused⟩
    · intro q hq hqused
      refine ih ?_
      intro placed next rest places hcars hplaced hfree
      have hqnew : q ∉ places := fun hmem => hfree q hmem mem_cons_self
      obtain ⟨p, hp, hused, hplaces⟩ := h (car :: placed) next rest (q :: places) (by simp [hcars])
        (hplaced.cons hq hqnew) (by
          intro p hp
          rcases mem_cons.1 hp with rfl | hp
          · exact hqused
          · exact fun hmem => hfree p hp (mem_cons_of_mem _ hmem))
      simp only [mem_cons, not_or] at hplaces ⊢
      exact ⟨p, hp, ⟨hplaces.1, hused⟩, hplaces.2⟩

/-- Every order of arrival works out exactly if no car can be blocked by others. -/
theorem allServed_iff_not_blocked :
    (∀ order : List Car, order.Perm cars → AllServed serves [] order) ↔ ¬Blocked serves cars := by
  constructor
  · rintro h ⟨placed, places, car, hcars, hplaced, hall⟩
    obtain ⟨some, hsome, hsub⟩ := hcars
    obtain ⟨rest, hrest⟩ := hsub.exists_perm_append
    have horder : (placed ++ car :: rest).Perm cars :=
      (perm_middle.trans (hsome.symm.append_right rest)).trans hrest.symm
    obtain ⟨p, hp, -, hnew⟩ := (h _ horder).next hplaced (by simp)
    exact hnew (hall p hp)
  · intro h order hperm
    refine allServed_of_next ?_
    intro placed car rest places horder hplaced _
    by_contra hnone
    refine h ⟨placed, places, car, ?_, hplaced, ?_⟩
    · refine List.Subperm.trans ?_ hperm.subperm
      rw [horder]
      exact (sublist_append_left (car :: placed) rest).subperm.trans
        perm_middle.symm.subperm
    · intro p hp
      by_contra hp'
      exact hnone ⟨p, hp, not_mem_nil, hp'⟩

lemma Blocked.of_subperm {cars' : List Car} (h : Blocked serves cars)
    (hcars : cars.Subperm cars') : Blocked serves cars' := by
  obtain ⟨placed, places, car, hsub, hplaced, hall⟩ := h
  exact ⟨placed, places, car, hsub.trans hcars, hplaced, hall⟩

lemma exists_serves_of_not_blocked (h : ¬Blocked serves cars) (hcar : car ∈ cars) :
    ∃ p, serves p car := by
  by_contra hnone
  refine h ⟨[], [], car, ?_, .nil, fun p hp => absurd ⟨p, hp⟩ hnone⟩
  exact (singleton_sublist.2 hcar).subperm

lemma Placed.restrict (h : Placed serves cars places) (keep : Place → Prop) [DecidablePred keep] :
    ∃ kept : List Car, kept.Sublist cars ∧
      Placed (fun p car => serves p car ∧ keep p) kept (places.filter keep) := by
  obtain ⟨served, distinct⟩ := h
  induction served with
  | nil => exact ⟨[], .slnil, .nil⟩
  | @cons car p cars places hp _ ih =>
    obtain ⟨hnew, hdist⟩ := nodup_cons.1 distinct
    obtain ⟨kept, hkept, hplaced⟩ := ih hdist
    by_cases hkeep : keep p
    · rw [filter_cons_of_pos (by simpa using hkeep)]
      exact ⟨car :: kept, hkept.cons_cons car,
        hplaced.cons ⟨hp, hkeep⟩ (fun hmem => hnew (mem_filter.1 hmem).1)⟩
    · rw [filter_cons_of_neg (by simpa using hkeep)]
      exact ⟨kept, hkept.cons car, hplaced⟩

lemma Blocked.restrict (h : Blocked serves cars) (keep : Place → Prop) :
    Blocked (fun p car => serves p car ∧ keep p) cars := by
  classical
  obtain ⟨placed, places, car, hsub, hplaced, hall⟩ := h
  obtain ⟨kept, hkept, hrest⟩ := hplaced.restrict keep
  refine ⟨kept, places.filter keep, car, ?_, hrest, ?_⟩
  · exact (hkept.cons_cons car).subperm.trans hsub
  · rintro p ⟨hp, hkeep⟩
    exact mem_filter.2 ⟨hall p hp, by simpa using hkeep⟩

lemma Placed.of_imp {serves' : Place → Car → Prop} (h : Placed serves cars places)
    (himp : ∀ p car, serves p car → serves' p car) : Placed serves' cars places :=
  ⟨h.served.imp fun {_ _} hp => himp _ _ hp, h.distinct⟩

lemma Placed.mem (h : Placed serves cars places) (hp : p ∈ places) : ∃ car, serves p car := by
  obtain ⟨served, -⟩ := h
  induction served with
  | nil => cases hp
  | cons hfirst _ ih =>
    rcases mem_cons.1 hp with rfl | hp
    · exact ⟨_, hfirst⟩
    · exact ih hp

lemma Blocked.of_taken (htaken : serves taken car)
    (h : Blocked (fun p car => serves p car ∧ p ≠ taken) cars) : Blocked serves (car :: cars) := by
  obtain ⟨placed, places, next, hsub, hplaced, hall⟩ := h
  refine ⟨car :: placed, taken :: places, next, ?_, ?_, ?_⟩
  · exact (List.Perm.swap car next placed).subperm.trans ((subperm_cons car).2 hsub)
  · refine (hplaced.of_imp fun p car hp => hp.1).cons htaken ?_
    intro hmem
    obtain ⟨_, -, hne⟩ := hplaced.mem hmem
    exact hne rfl
  · intro p hp
    by_cases hne : p = taken
    · exact hne ▸ mem_cons_self
    · exact mem_cons_of_mem _ (hall p ⟨hp, hne⟩)

end Everest.Arrivals
