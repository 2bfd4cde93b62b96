import Mathlib.Data.Int.Log
import Mathlib.Data.Rat.Floor

namespace Everest.Iso15118

/-- `RationalNumber` of ISO 15118-20, and `PhysicalValue` of ISO 15118-2 with its multiplier. -/
structure RationalNumber where
  exponent : ℤ
  value : ℤ
  deriving DecidableEq, Repr

def RationalNumber.toRat (number : RationalNumber) : ℚ := number.value * 10 ^ number.exponent

def decade (x : ℚ) : ℤ := Int.log 10 |x|

/-- `std::round`: to the nearest integer, a half away from zero. -/
def roundAway (x : ℚ) : ℤ := if 0 ≤ x then ⌊x + 1 / 2⌋ else ⌈x - 1 / 2⌉

def fromFloat (x : ℚ) : RationalNumber :=
  if x = 0 then ⟨0, 0⟩
  else
    let exponent := (decade x - 3).bmod (2 ^ 8)
    let value := roundAway (x * 10 ^ (-exponent))
    if 10000 ≤ |value| then ⟨(exponent + 1).bmod (2 ^ 8), (value.tdiv 10).bmod (2 ^ 16)⟩
    else ⟨exponent, value.bmod (2 ^ 16)⟩

def toPhysicalValue (x : ℚ) : RationalNumber :=
  if x = 0 then ⟨0, 0⟩
  else
    let multiplier := max (-3) (min (decade x - 3) 3)
    let scaled := roundAway (x * 10 ^ (-multiplier))
    ⟨multiplier, max (-32768) (min scaled 32767)⟩

variable {x y : ℚ}

lemma abs_roundAway_sub_le (x : ℚ) : |roundAway x - x| ≤ 1 / 2 := by
  unfold roundAway
  split_ifs with hx
  · have := Int.floor_le (x + 1 / 2)
    have := Int.lt_floor_add_one (x + 1 / 2)
    rw [abs_le]
    constructor <;> linarith
  · have := Int.le_ceil (x - 1 / 2)
    have := Int.ceil_lt_add_one (x - 1 / 2)
    rw [abs_le]
    constructor <;> linarith

lemma abs_roundAway_le {n : ℤ} (h : |x| ≤ n) : |roundAway x| ≤ n := by
  have hsub := abs_roundAway_sub_le x
  have hlt : (|roundAway x| : ℚ) < n + 1 := by
    have := abs_sub_abs_le_abs_sub (roundAway x : ℚ) x
    linarith
  have : |roundAway x| < n + 1 := by exact_mod_cast hlt
  omega

lemma abs_scaled_sub_le (x : ℚ) (e : ℤ) :
    |roundAway (x * 10 ^ (-e)) * 10 ^ e - x| ≤ (10 : ℚ) ^ e / 2 := by
  have hpos : (0 : ℚ) < 10 ^ e := zpow_pos (by norm_num) e
  have hx : x = x * 10 ^ (-e) * 10 ^ e := by
    rw [zpow_neg, mul_assoc, inv_mul_cancel₀ hpos.ne', mul_one]
  calc |roundAway (x * 10 ^ (-e)) * 10 ^ e - x|
      = |roundAway (x * 10 ^ (-e)) - x * 10 ^ (-e)| * 10 ^ e := by
        rw [← abs_of_pos hpos, ← abs_mul, abs_of_pos hpos, sub_mul, ← hx]
    _ ≤ 1 / 2 * 10 ^ e := by
        gcongr
        exact abs_roundAway_sub_le _
    _ = 10 ^ e / 2 := by ring

lemma abs_roundAway_decade_le (x : ℚ) : |roundAway (x * 10 ^ (-(decade x - 3)))| ≤ 10000 := by
  have hlt : |x| < (10 : ℚ) ^ (decade x + 1) := by
    exact_mod_cast Int.lt_zpow_succ_log_self (by norm_num : 1 < 10) |x|
  have hpos : (0 : ℚ) < 10 ^ (-(decade x - 3)) := zpow_pos (by norm_num) _
  refine abs_roundAway_le ?_
  calc |x * 10 ^ (-(decade x - 3))|
      ≤ 10 ^ (decade x + 1) * 10 ^ (-(decade x - 3)) := by
        rw [abs_mul, abs_of_pos hpos]
        gcongr
    _ = 10 ^ (4 : ℤ) := by
        rw [← zpow_add₀ (by norm_num)]
        congr 1
        omega
    _ = (10000 : ℤ) := by norm_num

section

variable (hx : 0 < |x|) {k : ℤ}
include hx

lemma le_decade : (10 : ℚ) ^ k ≤ |x| ↔ k ≤ decade x := by
  exact_mod_cast Int.zpow_le_iff_le_log (by norm_num : 1 < 10) hx

lemma decade_lt : |x| < (10 : ℚ) ^ k ↔ decade x < k := by
  exact_mod_cast Int.lt_zpow_iff_log_lt (by norm_num : 1 < 10) hx

end

/-- The number on the wire is as near to `x` as four digits allow, and fits 16 bits. -/
def FourDigits (x : ℚ) (number : RationalNumber) : Prop :=
  |number.toRat - x| ≤ 10 ^ (decade x - 3) / 2 ∧ |number.value| < 2 ^ 15

lemma fromFloat_fourDigits (hmin : 10 ^ (-100 : ℤ) ≤ |x|) (hmax : |x| ≤ 10 ^ (100 : ℤ)) :
    FourDigits x (fromFloat x) := by
  have hx : 0 < |x| := (zpow_pos (by norm_num) _).trans_le hmin
  have hlow := (le_decade hx).1 hmin
  have hhigh := (decade_lt hx).1
    (hmax.trans_lt (zpow_lt_zpow_right₀ (by norm_num) (lt_add_one 100)))
  have hround := abs_roundAway_decade_le x
  have herr := abs_scaled_sub_le x (decade x - 3)
  have hexp : (decade x - 3).bmod (2 ^ 8) = decade x - 3 := Int.bmod_eq_of_le (by omega) (by omega)
  simp only [fromFloat, if_neg (abs_pos.1 hx), hexp]
  generalize roundAway (x * 10 ^ (-(decade x - 3))) = value at *
  split_ifs with hcarry
  · -- the rounding has carried into a fifth digit
    obtain ⟨digits, hdigits, rfl⟩ : ∃ v : ℤ, |v| = 1000 ∧ value = 10 * v := by
      rcases (abs_eq (by norm_num)).1 (hround.antisymm hcarry) with rfl | rfl
      · exact ⟨1000, rfl, rfl⟩
      · exact ⟨-1000, rfl, rfl⟩
    have hle := abs_le.1 hdigits.le
    rw [Int.mul_tdiv_cancel_left _ (by norm_num), Int.bmod_eq_of_le (by omega) (by omega),
      Int.bmod_eq_of_le (by omega) (by omega)]
    refine ⟨?_, hdigits.trans_lt (by norm_num)⟩
    rw [RationalNumber.toRat, zpow_add_one₀ (by norm_num), mul_comm _ (10 : ℚ), ← mul_assoc,
      mul_comm _ (10 : ℚ)]
    exact_mod_cast herr
  · rw [not_le] at hcarry
    have hle := abs_lt.1 hcarry
    rw [Int.bmod_eq_of_le (by omega) (by omega)]
    exact ⟨herr, hcarry.trans (by norm_num)⟩

lemma toPhysicalValue_fourDigits (hmin : 1 ≤ |x|) (hmax : |x| ≤ 32767000) :
    FourDigits x (toPhysicalValue x) := by
  have hx : 0 < |x| := one_pos.trans_le hmin
  have hlow := (le_decade hx (k := 0)).1 (by simpa using hmin)
  have hhigh := (decade_lt hx (k := 8)).1 (hmax.trans_lt (by norm_num))
  obtain ⟨e, he, hle, hround⟩ : ∃ e, max (-3) (min (decade x - 3) 3) = e ∧ e ≤ decade x - 3 ∧
      |roundAway (x * 10 ^ (-e))| ≤ 32767 := by
    by_cases hbig : decade x = 7
    · -- the multiplier is the largest one, and the value has five digits
      refine ⟨3, by omega, by omega, abs_roundAway_le ?_⟩
      rw [abs_mul, abs_of_pos (zpow_pos (by norm_num) _ : (0 : ℚ) < 10 ^ (-3 : ℤ))]
      norm_num1
      linarith
    · exact ⟨decade x - 3, by omega, le_rfl, (abs_roundAway_decade_le x).trans (by norm_num)⟩
  have hvalue := abs_le.1 hround
  simp only [toPhysicalValue, if_neg (abs_pos.1 hx), he]
  rw [min_eq_left hvalue.2, max_eq_right (by omega)]
  refine ⟨(abs_scaled_sub_le x e).trans ?_, hround.trans_lt (by norm_num)⟩
  gcongr
  norm_num

/-- Values keep four digits on the wire, over the whole range of each of the two formats. -/
theorem wire_values_four_digits :
    (∀ x : ℚ, 10 ^ (-100 : ℤ) ≤ |x| → |x| ≤ 10 ^ (100 : ℤ) → FourDigits x (fromFloat x)) ∧
      (∀ x : ℚ, 1 ≤ |x| → |x| ≤ 32767000 → FourDigits x (toPhysicalValue x)) ∧
      ∀ x : ℚ, -3 ≤ (toPhysicalValue x).exponent ∧ (toPhysicalValue x).exponent ≤ 3 := by
  refine ⟨fun x => fromFloat_fourDigits, fun x => toPhysicalValue_fourDigits, fun x => ?_⟩
  unfold toPhysicalValue
  split_ifs <;> simp

end Everest.Iso15118
