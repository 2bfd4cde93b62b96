import Everest.Lib.Timeline
import Mathlib.Data.Rat.Defs

namespace Everest.Energy.EnergyNode
open Timeline

structure PricePerkWh where
  timestamp : ℤ
  value : ℚ
  currency : String
  deriving DecidableEq

structure ScheduleReqEntry (Limits : Type) where
  timestamp : ℤ
  limits : Limits
  pricePerKwh : Option PricePerkWh

abbrev Schedule (Limits : Type) := List (ScheduleReqEntry Limits)

variable {Limits : Type}

/-- The loop of `merge_price_into_schedule`: the lists hold what the iterators have ahead. The loop
is left with the joined schedule, or not at all within the given number of turns. -/
def mergeLoop (currentSchedule : ScheduleReqEntry Limits) (currentPrice : PricePerkWh)
    (joined : Schedule Limits) : ℕ → Schedule Limits →
    List PricePerkWh → Option (Schedule Limits)
  | 0, _, _ => none
  | turns + 1, s :: schedule, p :: price =>
    if s.timestamp < p.timestamp then
      let entry := { s with pricePerKwh := some currentPrice }
      mergeLoop s currentPrice (joined ++ [entry]) turns schedule (p :: price)
    else if p.timestamp < s.timestamp then
      let entry := { currentSchedule with pricePerKwh := some p, timestamp := p.timestamp }
      mergeLoop currentSchedule p (joined ++ [entry]) turns (s :: schedule) price
    else mergeLoop currentSchedule currentPrice joined turns (s :: schedule) (p :: price)
  | _ + 1, _, _ => some joined

/-- What the merge makes of the schedule, which it never assigns the joined one. -/
def mergePriceIntoSchedule (turns : ℕ) (schedule : Schedule Limits)
    (price : List PricePerkWh) : Option (Schedule Limits) :=
  match schedule, price with
  | s :: _, p :: _ => (mergeLoop s p [] turns schedule price).map fun _ => schedule
  | _, _ => none

def publishCompleteEnergyObject (turns : ℕ) (schedule : Schedule Limits)
    (price : List PricePerkWh) : Option (Schedule Limits) :=
  if schedule ≠ [] ∧ price ≠ [] then mergePriceIntoSchedule turns schedule price
  else some schedule

/-- The first entry of a list is valid also before its time. -/
def validAt {P : Type} (start : P → ℤ) (entries : List P) (t : ℤ) : Option P :=
  (inForce start entries t).or entries.head?

def scheduledAt (schedule : Schedule Limits) (t : ℤ) :
    Option (ScheduleReqEntry Limits) := validAt (·.timestamp) schedule t

def priceAt (price : List PricePerkWh) (t : ℤ) : Option PricePerkWh := validAt (·.timestamp) price t

/-- The published schedule has the limits and the prices of every time. -/
def Joins (schedule : Schedule Limits) (price : List PricePerkWh)
    (published : Schedule Limits) : Prop :=
  ∀ t, (scheduledAt published t).map (·.limits) = (scheduledAt schedule t).map (·.limits) ∧
    (scheduledAt published t).bind (·.pricePerKwh) = priceAt price t

def PublishesPrices (schedule : Schedule Limits) (price : List PricePerkWh) : Prop :=
  ∃ turns, ∃ published ∈ publishCompleteEnergyObject turns schedule price,
    Joins schedule price published

/-- No entry that is later than all before it starts together with a price. -/
def Apart (schedule : Schedule Limits) (price : List PricePerkWh) : Prop :=
  ∀ before e after, schedule = before ++ e :: after → (∀ b ∈ before, b.timestamp < e.timestamp) →
    ∀ p ∈ price, p.timestamp ≠ e.timestamp

variable {s : ScheduleReqEntry Limits} {schedule : Schedule Limits}
  {p : PricePerkWh} {price : List PricePerkWh}

lemma apart_cons : Apart (s :: schedule) price ↔ (∀ p ∈ price, p.timestamp ≠ s.timestamp) ∧
    ∀ before e after, schedule = before ++ e :: after → s.timestamp < e.timestamp →
      (∀ b ∈ before, b.timestamp < e.timestamp) → ∀ p ∈ price, p.timestamp ≠ e.timestamp := by
  simp [Apart, List.cons_eq_append_iff, or_imp, forall_and]
  grind

/-- The loop ends exactly if it never meets two equal times. -/
theorem exists_mergeLoop_iff (hinc : Increasing (·.timestamp) price)
    {current : ScheduleReqEntry Limits} {currentPrice : PricePerkWh} {joined : Schedule Limits} :
    (∃ turns, (mergeLoop current currentPrice joined turns schedule price).isSome) ↔
      Apart schedule price := by
  induction schedule generalizing price current currentPrice joined with
  | nil => exact iff_of_true ⟨1, rfl⟩ (by simp [Apart])
  | cons s schedule ih =>
    induction price generalizing current currentPrice joined with
    | nil => exact iff_of_true ⟨1, rfl⟩ (by simp [Apart])
    | cons p price ih' =>
      have hrest := (List.pairwise_cons.1 hinc).1
      rw [← Nat.or_exists_add_one]
      rcases lt_trichotomy s.timestamp p.timestamp with hlt | heq | hlt
      · simp only [mergeLoop, if_pos hlt, ih hinc]
        have hprice : ∀ q ∈ p :: price, s.timestamp < q.timestamp :=
          List.forall_mem_cons.2 ⟨hlt, fun q hq => hlt.trans (hrest q hq)⟩
        rw [apart_cons]
        refine ⟨fun h => ⟨fun q hq => (hprice q hq).ne', ?_⟩, fun h => .inr ?_⟩
        · exact fun before e after hsplit _ => h.resolve_left nofun before e after hsplit
        · intro before e after hsplit hbefore q hq heq
          exact h.2 before e after hsplit (heq ▸ hprice q hq) hbefore q hq heq
      · have hstuck (turns : ℕ) : mergeLoop current currentPrice joined turns (s :: schedule)
            (p :: price) = none := by
          induction turns with
          | zero => rfl
          | succ turns ih => simpa [mergeLoop, heq] using ih
        refine iff_of_false (by simp [hstuck]) fun h => ?_
        exact h [] s schedule rfl nofun p List.mem_cons_self heq.symm
      · simp only [mergeLoop, if_neg hlt.not_gt, if_pos hlt, ih' (List.Pairwise.of_cons hinc)]
        simp only [apart_cons, List.forall_mem_cons]
        grind

structure Priced (Limits : Type) where
  schedule : Schedule Limits
  price : List PricePerkWh
  schedule_ne : schedule ≠ []
  price_ne : price ≠ []
  increasing : Increasing (·.timestamp) price

/-- The publication ends and is right exactly if no two times meet and the schedule comes with the
prices already. -/
theorem published_prices_join_iff (input : Priced Limits) :
    PublishesPrices input.schedule input.price ↔ Apart input.schedule input.price ∧
      ∀ t, (scheduledAt input.schedule t).bind (·.pricePerKwh) = priceAt input.price t := by
  obtain ⟨s, schedule, hs⟩ := List.exists_cons_of_ne_nil input.schedule_ne
  obtain ⟨p, price, hp⟩ := List.exists_cons_of_ne_nil input.price_ne
  have hends : (∃ turns, (mergeLoop s p [] turns input.schedule input.price).isSome) ↔ _ :=
    exists_mergeLoop_iff input.increasing
  rw [← hends, PublishesPrices]
  simp only [publishCompleteEnergyObject, if_pos (And.intro input.schedule_ne input.price_ne)]
  simp +contextual [hs, hp, mergePriceIntoSchedule, Joins, Option.isSome_iff_exists]

/-- The loop does not end for an entry and a price that start together, and with a later price it
ends without it. -/
theorem published_prices_lost :
    (∀ turns, publishCompleteEnergyObject turns [⟨0, (), none⟩] [⟨0, 1, "EUR"⟩] = none) ∧
      ¬PublishesPrices [⟨0, (), none⟩] [⟨1, 1, "EUR"⟩] := by
  refine ⟨fun turns => ?_, ?_⟩
  · induction turns with
    | zero => rfl
    | succ turns ih => exact ih
  · rintro ⟨turns, published, hpub, hjoins⟩
    obtain ⟨_, -, rfl⟩ := Option.map_eq_some_iff.1 hpub
    exact absurd (hjoins 0).2 (by decide)

end Everest.Energy.EnergyNode
