import Mathlib.Algebra.Ring.Nat
import Everest.SmartCharging.Periods

namespace Everest.SmartCharging

open PeriodOps Timeline List Cursor

section Combine

variable {P : Type} [PeriodOps P]

/-- An iterator into a profile: the period it points at and those that follow. -/
structure Cursor (P : Type) where
  it : P
  rest : List P

def Cursor.begin : List P → Option (Cursor P)
  | [] => none
  | it :: rest => some ⟨it, rest⟩

def lowerStart (current lowest : ℤ) (cursor : Cursor P) : ℤ :=
  match cursor.rest with
  | [] => lowest
  | next :: _ =>
    if current < startPeriod next ∧ startPeriod next < lowest then startPeriod next else lowest

def nextLowestPeriod (current : ℤ) (cursors : List (Cursor P)) : ℤ :=
  cursors.foldl (lowerStart current) int32Max

def Cursor.advance (period : ℤ) (cursor : Cursor P) : Cursor P :=
  match cursor.rest with
  | [] => cursor
  | next :: rest => if startPeriod next = period then ⟨next, rest⟩ else cursor

def heads (cursors : List (Cursor P)) : List P := cursors.map Cursor.it

def advanceTo (period : ℤ) (cursors : List (Cursor P)) : List (Cursor P) :=
  cursors.map (Cursor.advance period)

/-- `next` is the period after the one that the iterator points at. -/
def Cursor.HasNext (cursor : Cursor P) (next : P) : Prop := cursor.rest.head? = some next

lemma foldl_lowerStart (current lowest : ℤ) (cursors : List (Cursor P)) :
    cursors.foldl (lowerStart current) lowest = lowest ∨
      ∃ cursor ∈ cursors, ∃ next, cursor.HasNext next ∧ current < startPeriod next ∧
        cursors.foldl (lowerStart current) lowest = startPeriod next := by
  induction cursors generalizing lowest with
  | nil => exact .inl rfl
  | cons cursor cursors ih =>
    rw [foldl_cons]
    rcases ih (lowerStart current lowest cursor) with heq | ⟨other, hother, next, hnext, hlt, heq⟩
    · rw [heq]
      unfold lowerStart
      split
      · exact .inl rfl
      · rename_i next rest hrest
        split_ifs with hlower
        · exact .inr ⟨cursor, mem_cons_self, next, by simp [Cursor.HasNext, hrest], hlower.1, rfl⟩
        · exact .inl rfl
    · exact .inr ⟨other, mem_cons_of_mem _ hother, next, hnext, hlt, heq⟩

lemma foldl_lowerStart_le (current lowest : ℤ) (cursors : List (Cursor P)) :
    cursors.foldl (lowerStart current) lowest ≤ lowest ∧
      ∀ cursor ∈ cursors, ∀ next, cursor.HasNext next → current < startPeriod next →
        cursors.foldl (lowerStart current) lowest ≤ startPeriod next := by
  induction cursors generalizing lowest with
  | nil => simp
  | cons cursor cursors ih =>
    rw [foldl_cons]
    obtain ⟨hle, hcurs⟩ := ih (lowerStart current lowest cursor)
    have hstep : lowerStart current lowest cursor ≤ lowest ∧
        ∀ next, cursor.HasNext next → current < startPeriod next →
          lowerStart current lowest cursor ≤ startPeriod next := by
      unfold lowerStart Cursor.HasNext
      split
      · rename_i hrest
        simp [hrest]
      · rename_i first rest hrest
        rw [hrest]
        simp only [head?_cons, Option.some.injEq, forall_eq']
        split_ifs with hlower
        · exact ⟨hlower.2.le, fun _ => le_rfl⟩
        · exact ⟨le_rfl, fun hlt => by omega⟩
    refine ⟨hle.trans hstep.1, ?_⟩
    intro other hother next hnext hlt
    rcases mem_cons.mp hother with rfl | hmem
    · exact hle.trans (hstep.2 next hnext hlt)
    · exact hcurs other hmem next hnext hlt

lemma Cursor.advance_rest_le (period : ℤ) (cursor : Cursor P) :
    (cursor.advance period).rest.length ≤ cursor.rest.length := by
  unfold advance
  split
  · exact le_rfl
  · rename_i next rest hrest
    split_ifs
    · simp [hrest]
    · exact le_rfl

variable {cursor : Cursor P} {period : ℤ}

def Cursor.remaining (cursors : List (Cursor P)) : ℕ :=
  (cursors.map fun cursor => cursor.rest.length).sum

lemma Cursor.remaining_advance_le (period : ℤ) (cursors : List (Cursor P)) :
    remaining (advanceTo period cursors) ≤ remaining cursors := by
  induction cursors with
  | nil => exact le_rfl
  | cons cursor cursors ih =>
    have hcursor := cursor.advance_rest_le period
    simp only [remaining, advanceTo, map_cons, sum_cons] at ih ⊢
    omega

variable {cursors : List (Cursor P)}

lemma Cursor.remaining_advance_lt {next : P} (hmem : cursor ∈ cursors)
    (hnext : cursor.HasNext next) (hper : period = startPeriod next) :
    remaining (advanceTo period cursors) < remaining cursors := by
  induction cursors with
  | nil => cases hmem
  | cons first cursors ih =>
    have hfirst := first.advance_rest_le period
    have hrest := remaining_advance_le period cursors
    rcases mem_cons.mp hmem with rfl | hlater
    · have hlt : (cursor.advance period).rest.length < cursor.rest.length := by
        unfold Cursor.HasNext at hnext
        unfold advance
        split
        · rename_i hrest
          simp [hrest] at hnext
        · rename_i first rest hrest
          obtain rfl : first = next := by simpa [hrest] using hnext
          simp [hrest, hper]
      simp only [remaining, advanceTo, map_cons, sum_cons] at hrest ⊢
      omega
    · have hlt := ih hlater
      simp only [remaining, advanceTo, map_cons, sum_cons] at hlt ⊢
      omega

/-- The `while` loop. Every iterator points at a period, since an iterator is advanced only
when another period follows. -/
def combineLoop (combinator : List P → P) (current : ℤ) (cursors : List (Cursor P))
    (combined : List P) : List P :=
  if _hdone : nextLowestPeriod current cursors = int32Max then
    appendNew differs combined (setStartPeriod current (combinator (heads cursors)))
  else
    combineLoop combinator (nextLowestPeriod current cursors)
      (advanceTo (nextLowestPeriod current cursors) cursors)
      (appendNew differs combined (setStartPeriod current (combinator (heads cursors))))
termination_by Cursor.remaining cursors
decreasing_by
  rcases foldl_lowerStart current int32Max cursors with hmax | ⟨cursor, hmem, next, hnext, -, heq⟩
  · exact absurd hmax _hdone
  · exact Cursor.remaining_advance_lt hmem hnext heq

def combineListOfProfiles (profiles : List (List P)) (combinator : List P → P) : List P :=
  match profiles.filterMap Cursor.begin with
  -- no profile has a period: the loop is not entered
  | [] => [defaultPeriod 0]
  | cursors => combineLoop combinator 0 cursors []

lemma Cursor.mem_advance {p : P}
    (h : p ∈ (cursor.advance period).it :: (cursor.advance period).rest) :
    p ∈ cursor.it :: cursor.rest := by
  unfold advance at h
  split at h
  · exact h
  · rename_i next rest hrest
    split_ifs at h
    · rw [hrest]
      exact mem_cons_of_mem _ h
    · exact h

section Forall

variable {R Q : P → Prop} {combinator : List P → P}

lemma combineLoop_forall
    (hcombinator : ∀ s periods, (∀ p ∈ periods, R p) → Q (setStartPeriod s (combinator periods)))
    {current : ℤ} {combined : List P}
    (hcurs : ∀ cursor ∈ cursors, ∀ p ∈ cursor.it :: cursor.rest, R p)
    (hcomb : ∀ p ∈ combined, Q p) :
    ∀ p ∈ combineLoop combinator current cursors combined, Q p := by
  have hstep : ∀ {current : ℤ} {cursors : List (Cursor P)} {combined : List P},
      (∀ cursor ∈ cursors, ∀ p ∈ cursor.it :: cursor.rest, R p) → (∀ p ∈ combined, Q p) →
      ∀ p ∈ appendNew differs combined (setStartPeriod current (combinator (heads cursors))),
        Q p := by
    intro current cursors combined hcurs hcomb p hp
    rcases mem_appendNew hp with hold | rfl
    · exact hcomb p hold
    · refine hcombinator current _ (forall_mem_map.mpr fun cursor hcursor => ?_)
      exact hcurs cursor hcursor _ mem_cons_self
  fun_induction combineLoop combinator current cursors combined with
  | case1 => exact hstep hcurs hcomb
  | case2 current cursors combined hmore ih =>
    refine ih (forall_mem_map.mpr fun cursor hcursor p hp => ?_) (hstep hcurs hcomb)
    exact hcurs cursor hcursor p (Cursor.mem_advance hp)

/-- What the combinator gives for periods of the profiles holds for every combined period. -/
theorem combineListOfProfiles_forall {profiles : List (List P)} (hdef : Q (defaultPeriod 0))
    (hcombinator : ∀ s periods, (∀ p ∈ periods, R p) → Q (setStartPeriod s (combinator periods)))
    (h : ∀ profile ∈ profiles, ∀ p ∈ profile, R p) :
    ∀ p ∈ combineListOfProfiles profiles combinator, Q p := by
  have hcurs : ∀ cursor ∈ profiles.filterMap Cursor.begin,
      ∀ p ∈ cursor.it :: cursor.rest, R p := by
    intro cursor hcursor
    obtain ⟨profile, hprof, hbegin⟩ := mem_filterMap.mp hcursor
    cases profile with
    | nil => cases hbegin
    | cons =>
      obtain rfl := Option.some.inj hbegin
      exact h _ hprof
  unfold combineListOfProfiles
  split
  · intro p hp
    rwa [mem_singleton.mp hp]
  · exact combineLoop_forall hcombinator hcurs (by simp)

end Forall

structure IsProfile (profile : List P) : Prop where
  timeline : From startPeriod 0 profile
  bounded : ∀ p ∈ profile, startPeriod p < int32Max

def headsAt (profiles : List (List P)) (t : ℤ) : List P :=
  profiles.filterMap fun profile => inForce startPeriod profile t

/-- The iterator points at the period of the profile that is in force at `current`. -/
structure Cursor.PointsInto (current : ℤ) (profile : List P) (cursor : Cursor P) : Prop where
  split : ∃ before, profile = before ++ cursor.it :: cursor.rest
  increasing : Increasing startPeriod (cursor.it :: cursor.rest)
  started : startPeriod cursor.it ≤ current
  later : ∀ r ∈ cursor.rest, current < startPeriod r
  bounded : ∀ r ∈ cursor.rest, startPeriod r < int32Max

variable {current next upto t : ℤ} {profile : List P} {profiles : List (List P)}
  {cursor : Cursor P} {cursors : List (Cursor P)} {combined : List P} {combinator : List P → P}

lemma Cursor.PointsInto.inForce (h : cursor.PointsInto current profile) (ht : current ≤ t)
    (hlater : ∀ r ∈ cursor.rest, t < startPeriod r) :
    inForce startPeriod profile t = some cursor.it := by
  obtain ⟨before, rfl⟩ := h.split
  exact inForce_append_cons (h.started.trans ht) hlater

lemma Cursor.PointsInto.advance (h : cursor.PointsInto current profile) (hlt : current < next)
    (hnext : ∀ r, cursor.HasNext r → next ≤ startPeriod r) :
    (cursor.advance next).PointsInto next profile := by
  obtain ⟨it, rest⟩ := cursor
  cases rest with
  | nil =>
    exact ⟨h.split, h.increasing, h.started.trans hlt.le, fun r hr => absurd hr not_mem_nil,
      h.bounded⟩
  | cons r rest =>
    have hr := hnext r rfl
    have hinc : Increasing startPeriod (r :: rest) := List.Pairwise.of_cons h.increasing
    have hafter : ∀ r' ∈ rest, startPeriod r < startPeriod r' := fun r' hr' =>
      rel_of_pairwise_cons hinc hr'
    unfold advance
    dsimp only
    split_ifs with heq
    · obtain ⟨before, hbef⟩ := h.split
      refine ⟨⟨before ++ [it], by simp [hbef]⟩, hinc, heq.le, ?_, ?_⟩
      · exact fun r' hr' => heq ▸ hafter r' hr'
      · exact fun r' hr' => h.bounded r' (mem_cons_of_mem _ hr')
    · refine ⟨h.split, h.increasing, h.started.trans hlt.le, ?_, h.bounded⟩
      intro r' hr'
      rcases mem_cons.mp hr' with rfl | hrest
      · exact lt_of_le_of_ne hr (Ne.symm heq)
      · exact lt_of_le_of_lt hr (hafter r' hrest)

/-- As long as no next period has started, the iterators point at what is in force. -/
theorem headsAt_of_pointsInto (h : List.Forall₂ (Cursor.PointsInto current) profiles cursors)
    (ht : current ≤ t) (hlater : ∀ cursor ∈ cursors, ∀ r ∈ cursor.rest, t < startPeriod r) :
    headsAt profiles t = heads cursors := by
  induction h with
  | nil => rfl
  | cons hcursor _ ih =>
    have hhead := hcursor.inForce ht (hlater _ mem_cons_self)
    have htail := ih fun cursor hmem => hlater cursor (mem_cons_of_mem _ hmem)
    unfold headsAt heads at htail ⊢
    rw [filterMap_cons, hhead, htail]
    rfl

structure Combined (combinator : List P → P) (profiles : List (List P)) (upto : ℤ)
    (combined : List P) : Prop where
  timeline : From startPeriod 0 combined
  started : ∀ p ∈ combined, startPeriod p < upto
  /-- Every period is the combination of what is in force at its start. -/
  exact : ∀ p ∈ combined,
    p = setStartPeriod (startPeriod p) (combinator (headsAt profiles (startPeriod p)))
  pointwise : ∀ t, 0 ≤ t → t < upto → ∃ p, inForce startPeriod combined t = some p ∧
    differs (combinator (headsAt profiles t)) p = false

/-- One turn extends what is built up to the time at which the periods in force change. -/
theorem Combined.step (hcomb : combined = [] ∧ current = 0 ∨
      Combined combinator profiles current combined)
    (hlt : current < upto)
    (hheads : ∀ t, current ≤ t → t < upto → headsAt profiles t = heads cursors) :
    Combined combinator profiles upto
      (appendNew differs combined (setStartPeriod current (combinator (heads cursors)))) := by
  have hnow := hheads current le_rfl hlt
  generalize hper : setStartPeriod current (combinator (heads cursors)) = period
  have hstart : startPeriod period = current := by rw [← hper, startPeriod_set]
  have hbef : ∀ p ∈ combined, startPeriod p < current := by
    rcases hcomb with ⟨rfl, -⟩ | h
    · simp
    · exact h.started
  have hcases := fun {q : P} (hq : q ∈ appendNew differs combined period) => mem_appendNew hq
  constructor
  · rcases hcomb with ⟨rfl, hzero⟩ | h
    · exact From.singleton (hstart.trans hzero)
    · exact h.timeline.appendNew fun q hq => hstart.symm ▸ hbef q hq
  · intro p hp
    rcases hcases hp with hold | rfl
    · exact (hbef p hold).trans hlt
    · exact hstart.symm ▸ hlt
  · intro p hp
    rcases hcases hp with hold | rfl
    · rcases hcomb with ⟨rfl, -⟩ | h
      · cases hold
      · exact h.exact p hold
    · rw [hstart, hnow, hper]
  · intro t h0 ht
    rcases lt_or_ge t current with hearly | hlate
    · rw [inForce_appendNew_of_lt (hstart.symm ▸ hearly)]
      rcases hcomb with ⟨-, hzero⟩ | h
      · omega
      · exact h.pointwise t h0 hearly
    · obtain ⟨back, hback, hsame⟩ := inForce_appendNew_of_le (differs_self period)
        (fun q hq => (hbef q hq).le.trans hlate) (hstart.le.trans hlate)
      refine ⟨back, hback, ?_⟩
      rw [← hper, differs_set] at hsame
      rwa [hheads t hlate ht]

lemma forall₂_advanceTo (h : List.Forall₂ (Cursor.PointsInto current) profiles cursors)
    (hlt : current < next)
    (hnext : ∀ cursor ∈ cursors, ∀ r, cursor.HasNext r → next ≤ startPeriod r) :
    List.Forall₂ (Cursor.PointsInto next) profiles (advanceTo next cursors) := by
  induction h with
  | nil => exact .nil
  | cons hcursor _ ih =>
    refine .cons (hcursor.advance hlt (hnext _ mem_cons_self)) (ih ?_)
    exact fun cursor hmem => hnext cursor (mem_cons_of_mem _ hmem)

lemma Cursor.PointsInto.nextLowest_le (h : cursor.PointsInto current profile)
    (hmem : cursor ∈ cursors) :
    ∀ r ∈ cursor.rest, nextLowestPeriod current cursors ≤ startPeriod r := by
  intro r hr
  obtain ⟨it, rest⟩ := cursor
  cases rest with
  | nil => cases hr
  | cons first rest =>
    have hfirst : nextLowestPeriod current cursors ≤ startPeriod first :=
      (foldl_lowerStart_le current int32Max cursors).2 _ hmem first rfl
        (h.later first mem_cons_self)
    rcases mem_cons.mp hr with rfl | hrest
    · exact hfirst
    · have hinc : Increasing startPeriod (first :: rest) := List.Pairwise.of_cons h.increasing
      have hlt := rel_of_pairwise_cons hinc hrest
      omega

omit [PeriodOps P] in
lemma exists_of_forall₂ {α : Type} {R : α → Cursor P → Prop} {left : List α}
    (h : List.Forall₂ R left cursors) (hmem : cursor ∈ cursors) : ∃ a, R a cursor := by
  induction h with
  | nil => cases hmem
  | cons hhead _ ih =>
    rcases mem_cons.mp hmem with rfl | hrest
    · exact ⟨_, hhead⟩
    · exact ih hrest

/-- The whole loop: by induction on the periods that the iterators have before them. -/
theorem combineLoop_combined (hcurs : List.Forall₂ (Cursor.PointsInto current) profiles cursors)
    (hcur : current < int32Max)
    (hcomb : combined = [] ∧ current = 0 ∨ Combined combinator profiles current combined)
    (hupto : int32Max ≤ upto) :
    Combined combinator profiles upto (combineLoop combinator current cursors combined) := by
  fun_induction combineLoop combinator current cursors combined with
  | case1 =>
    refine Combined.step hcomb (by omega) ?_
    intro t ht _
    -- no iterator has a period before it, since that one would start before the largest number
    refine headsAt_of_pointsInto hcurs ht ?_
    intro cursor hmem r hr
    obtain ⟨profile, hpoints⟩ := exists_of_forall₂ hcurs hmem
    have hle := hpoints.nextLowest_le hmem r hr
    have hbound := hpoints.bounded r hr
    omega
  | case2 current cursors combined hmore ih =>
    have hlt : current < nextLowestPeriod current cursors := by
      rcases foldl_lowerStart current int32Max cursors with hmax | ⟨_, _, next, _, hlater, heq⟩
      · exact absurd hmax hmore
      · unfold nextLowestPeriod
        omega
    have hmax := (foldl_lowerStart_le current int32Max cursors).1
    refine ih ?_ (lt_of_le_of_ne hmax hmore) (.inr (Combined.step hcomb hlt ?_))
    · refine forall₂_advanceTo hcurs hlt ?_
      intro cursor hmem r hr
      obtain ⟨profile, hpoints⟩ := exists_of_forall₂ hcurs hmem
      exact hpoints.nextLowest_le hmem r (mem_of_head? hr)
    · intro t ht htnext
      refine headsAt_of_pointsInto hcurs ht ?_
      intro cursor hmem r hr
      obtain ⟨profile, hpoints⟩ := exists_of_forall₂ hcurs hmem
      exact lt_of_lt_of_le htnext (hpoints.nextLowest_le hmem r hr)

lemma begin_pointsInto (h : ∀ profile ∈ profiles, IsProfile profile) :
    List.Forall₂ (Cursor.PointsInto 0) profiles (profiles.filterMap Cursor.begin) := by
  induction profiles with
  | nil => exact .nil
  | cons profile profiles ih =>
    have hprof := h profile mem_cons_self
    cases profile with
    | nil => exact absurd rfl hprof.timeline.ne_nil
    | cons =>
      have hhead := hprof.timeline.head_eq
      refine .cons ⟨⟨[], rfl⟩, hprof.timeline.increasing, hhead.le, ?_, ?_⟩ (ih ?_)
      · intro r hr
        rw [← hhead]
        exact rel_of_pairwise_cons hprof.timeline.increasing hr
      · exact fun r hr => hprof.bounded r (mem_cons_of_mem _ hr)
      · exact fun l hl => h l (mem_cons_of_mem _ hl)

/-- The relation between profiles and what `combine_list_of_profiles` makes of them. -/
structure IsPointwise (combinator : List P → P) (profiles : List (List P)) (combined : List P) :
    Prop where
  isProfile : IsProfile combined
  /-- Every period is the combination of what is in force at its start. -/
  exact : ∀ p ∈ combined,
    p = setStartPeriod (startPeriod p) (combinator (headsAt profiles (startPeriod p)))
  /-- The period in force does not differ from the combination of those in force. -/
  pointwise : ∀ t, 0 ≤ t → ∃ p, inForce startPeriod combined t = some p ∧
    differs (combinator (headsAt profiles t)) p = false

lemma combineListOfProfiles_isPointwise (hne : profiles ≠ [])
    (h : ∀ profile ∈ profiles, IsProfile profile) :
    IsPointwise combinator profiles (combineListOfProfiles profiles combinator) := by
  have hbegin := begin_pointsInto h
  unfold combineListOfProfiles
  split
  · rename_i hnil
    rw [hnil] at hbegin
    exact absurd (forall₂_nil_right_iff.mp hbegin) hne
  · have hloop : ∀ upto, int32Max ≤ upto → Combined combinator profiles upto
        (combineLoop combinator 0 (profiles.filterMap Cursor.begin) []) := fun upto hupto =>
      combineLoop_combined hbegin (by decide) (.inl ⟨rfl, rfl⟩) hupto
    have hmax := hloop int32Max le_rfl
    refine ⟨⟨hmax.timeline, hmax.started⟩, hmax.exact, ?_⟩
    intro t ht
    exact (hloop (max int32Max (t + 1)) (le_max_left _ _)).pointwise t ht (by omega)

end Combine

end Everest.SmartCharging
