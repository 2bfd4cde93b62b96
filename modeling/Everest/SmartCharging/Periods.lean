import Mathlib.Data.List.Sort
import Mathlib.Algebra.Order.Ring.Rat
import Everest.Lib.Clock
import Everest.Lib.Timeline

/- The OCPP 1.6 and 2.x libraries compute a composite schedule with the same algorithm over their
own period types. This module holds what the two share: time, the scan that turns the entries
of one purpose into an intermediate profile (`generate_profile_from_periods`) and the walk
that combines several intermediate profiles (`combine_list_of_profiles`). Limits are exact
numbers. -/

namespace Everest.SmartCharging

def int32Max : ℤ := 2147483647

/-- `clamp_to`: only a value that is too large is clamped, one that is too small wraps around. -/
def clampInt32 (n : ℤ) : ℤ := if n ≤ int32Max then n.bmod (2 ^ 32) else int32Max

lemma clampInt32_of_le {n : ℤ} (h : -2147483648 ≤ n) : clampInt32 n = min n int32Max := by
  unfold clampInt32 int32Max
  split_ifs with hle
  · rw [Int.bmod_eq_of_le (by omega) (by omega), min_eq_left hle]
  · rw [min_eq_right (by omega)]

/-- Whole seconds in a duration; `duration_cast` rounds towards zero. -/
def durationSeconds (d : ℤ) : ℤ := d.tdiv ticksPerSecond

def elapsedSeconds (later since : ℤ) : ℤ := clampInt32 (durationSeconds (later - since))

def floorSeconds (dt : ℤ) : ℤ := seconds (dt / ticksPerSecond)

def noLimitSpecified : ℚ := -1

def floatMax : ℚ := 340282346638528859811704183484516925440

inductive ChargingRateUnit
  | W
  | A
  deriving DecidableEq, Repr

def lowerPhases (phases it : Option ℤ) : Option ℤ :=
  match phases, it with
  | none, _ => it
  | some n, some m => if m < n then some m else some n
  | some n, none => some n

def higherPhases (phases it : Option ℤ) : Option ℤ :=
  match phases, it with
  | none, _ => it
  | some n, some m => if m > n then some m else some n
  | some n, none => some n

/-- What `std::sort` asks of a comparison. -/
structure StrictWeakOrder {α : Type} (less : α → α → Bool) : Prop where
  asymm : ∀ a b, less a b = true → less b a = false
  split : ∀ a b c, less a b = true → less a c = true ∨ less c b = true

/-- `std::sort`. The order it leaves equivalent elements in is not specified. -/
structure StdSort where
  sort : {α : Type} → (α → α → Bool) → List α → List α
  perm : ∀ {α : Type} (less : α → α → Bool) (l : List α), (sort less l).Perm l
  sorted : ∀ {α : Type} (less : α → α → Bool) (l : List α), StrictWeakOrder less →
    (sort less l).Pairwise fun a b => less b a = false

def StdSort.insertion : StdSort where
  sort less l := l.insertionSort fun a b => less b a = false
  perm _ l := List.perm_insertionSort _ l
  sorted less l h := by
    have htotal : Std.Total fun a b => less b a = false := by
      refine ⟨fun a b => ?_⟩
      cases hba : less b a with
      | false => exact .inl rfl
      | true => exact .inr (h.asymm b a hba)
    have htrans : IsTrans _ fun a b => less b a = false := by
      refine ⟨fun a b c hab hbc => ?_⟩
      by_contra hca
      rcases h.split c a b (by simpa using hca) with hcb | hba
      · exact absurd hcb (by simp [hbc])
      · exact absurd hba (by simp [hab])
    exact List.pairwise_insertionSort _ l

lemma strictWeakOrder_key {α : Type} (key : α → ℤ) :
    StrictWeakOrder fun a b => decide (key a < key b) := by
  constructor
  · intro a b hab
    simp only [decide_eq_true_eq, decide_eq_false_iff_not] at hab ⊢
    omega
  · intro a b c hab
    simp only [decide_eq_true_eq] at hab ⊢
    omega

/-- What an `IntermediatePeriod` offers: limits that hold from `startPeriod` seconds on. -/
class PeriodOps (P : Type) where
  startPeriod : P → ℤ
  setStartPeriod : ℤ → P → P
  /-- The comparison with which `combine_list_of_profiles` leaves out a repeated period. -/
  differs : P → P → Bool
  /-- The period without any limit. -/
  defaultPeriod : ℤ → P
  startPeriod_set : ∀ s p, startPeriod (setStartPeriod s p) = s
  set_startPeriod : ∀ p, setStartPeriod (startPeriod p) p = p
  startPeriod_default : ∀ s, startPeriod (defaultPeriod s) = s
  differs_self : ∀ p, differs p p = false
  differs_set : ∀ s p q, differs (setStartPeriod s p) q = differs p q

/-- What a `period_entry_t` offers: one period of one profile, placed in time. -/
class EntryOps (E : Type) (P : outParam Type) [PeriodOps P] where
  start : E → ℤ
  endTime : E → ℤ
  stackLevel : E → ℤ
  /-- The intermediate period that an entry gives from a number of seconds on. -/
  intermediate : ℤ → E → P
  startPeriod_intermediate : ∀ s e, PeriodOps.startPeriod (intermediate s e) = s

open PeriodOps EntryOps

attribute [simp] startPeriod_set set_startPeriod startPeriod_default differs_self differs_set
  startPeriod_intermediate

section Generate

variable {E P : Type} [PeriodOps P] [EntryOps E P]

/-- The variables of the search for the schedule to use at one time. -/
structure Choice (E : Type) where
  earliest : ℤ
  nextEarliest : ℤ
  chosen : Option E

def findSchedule (current : ℤ) : List E → Choice E → Choice E
  | [], choice => choice
  | schedule :: rest, choice =>
    if start schedule ≤ choice.earliest then
      -- ensure the earlier schedule is valid at the current time
      if endTime schedule > current then
        if start schedule ≤ current then ⟨start schedule, choice.earliest, some schedule⟩
        else findSchedule current rest ⟨start schedule, choice.earliest, some schedule⟩
      else findSchedule current rest choice
    else findSchedule current rest choice

/-- One turn of the `do` loop: the period it appends and the next value of `current`. The
result is `none` where the code would dereference an unset `chosen`. -/
def scanStep (periods : List E) (now stop current : ℤ) : Option (P × ℤ) :=
  let choice := findSchedule current periods ⟨stop, stop, none⟩
  if choice.earliest > current then
    -- there is a gap to fill
    some (defaultPeriod (elapsedSeconds current now), choice.earliest)
  else
    choice.chosen.map fun chosen =>
      (intermediate (elapsedSeconds current now) chosen,
        if endTime chosen < choice.nextEarliest then endTime chosen else choice.nextEarliest)

lemma findSchedule_bounds (current stop : ℤ) (periods : List E) (choice : Choice E)
    (hnext : current < choice.nextEarliest ∨ choice.nextEarliest = stop)
    (hearliest : current < choice.earliest ∨ choice.earliest = stop)
    (hchosen : ∀ e ∈ choice.chosen, current < endTime e) :
    let found := findSchedule current periods choice
    (current < found.nextEarliest ∨ found.nextEarliest = stop) ∧
      ∀ e ∈ found.chosen, current < endTime e := by
  induction periods generalizing choice with
  | nil => exact ⟨hnext, hchosen⟩
  | cons schedule rest ih =>
    unfold findSchedule
    split_ifs with hstart hend hcover
    · refine ⟨hearliest, ?_⟩
      intro e he
      obtain rfl : schedule = e := by simpa using he
      exact hend
    · refine ih _ hearliest (.inl (by simpa using hcover)) ?_
      intro e he
      obtain rfl : schedule = e := by simpa using he
      exact hend
    · exact ih _ hnext hearliest hchosen
    · exact ih _ hnext hearliest hchosen

/-- Every turn that does not end the loop moves `current` forward. -/
theorem scanStep_progress {periods : List E} {now stop current next : ℤ} {p : P}
    (h : scanStep periods now stop current = some (p, next)) (hnext : next < stop) :
    current < next := by
  have hbounds := findSchedule_bounds current stop periods
    ⟨stop, stop, none⟩ (.inr rfl) (.inr rfl) (by simp)
  unfold scanStep at h
  dsimp only at h
  split_ifs at h with hgap
  · simp only [Option.some.injEq, Prod.mk.injEq] at h
    omega
  · obtain ⟨chosen, hchosen, heq⟩ := Option.map_eq_some_iff.mp h
    simp only [Prod.mk.injEq] at heq
    have hend := hbounds.2 chosen hchosen
    rcases heq with ⟨-, hif⟩
    split_ifs at hif
    · omega
    · rcases hbounds.1 with hlt | hstop
      · omega
      · omega

/-- The `do` loop from the time `current` on. -/
def scan (periods : List E) (now stop current : ℤ) : Option (List P) :=
  match _h : scanStep periods now stop current with
  | none => none
  | some (p, next) =>
    if _hnext : next < stop then (scan periods now stop next).map (p :: ·) else some [p]
termination_by (stop - current).toNat
decreasing_by
  have := scanStep_progress _h _hnext
  omega

def generateProfileFromPeriods (std : StdSort) (periods : List E) (inNow inEnd : ℤ) :
    Option (List P) :=
  if periods.isEmpty then some [defaultPeriod 0]
  else
    -- sort the combined schedules in stack priority order
    scan (std.sort (fun a b => decide (stackLevel a > stackLevel b)) periods)
      (floorSeconds inNow) (floorSeconds inEnd) (floorSeconds inNow)

end Generate

end Everest.SmartCharging
