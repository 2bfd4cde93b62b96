import Mathlib.Algebra.Group.Int.Defs

namespace Everest

/-- Points in time and durations are numbers of nanoseconds. -/
def ticksPerSecond : ℤ := 1000000000

def seconds (n : ℤ) : ℤ := n * ticksPerSecond

/-- A point in time as its text has it, which ends with the milliseconds; `time_point_cast`
rounds towards zero. -/
def rereadTime (time : ℤ) : ℤ := time.tdiv 1000000 * 1000000

lemma rereadTime_le {time : ℤ} (h : 0 ≤ time) : rereadTime time ≤ time := by
  rw [rereadTime, Int.tdiv_eq_ediv_of_nonneg h]
  omega

lemma rereadTime_mono {time later : ℤ} (h : 0 ≤ time) (hle : time ≤ later) :
    rereadTime time ≤ rereadTime later := by
  rw [rereadTime, rereadTime, Int.tdiv_eq_ediv_of_nonneg h,
    Int.tdiv_eq_ediv_of_nonneg (by omega)]
  omega

/-- The text of the date has all of it. -/
def WholeMilliseconds (time : ℤ) : Prop := 1000000 ∣ time

instance (time : ℤ) : Decidable (WholeMilliseconds time) :=
  inferInstanceAs (Decidable (1000000 ∣ time))

lemma WholeMilliseconds.reread {time : ℤ} (h : WholeMilliseconds time) :
    rereadTime time = time := Int.tdiv_mul_cancel h

end Everest
