import Mathlib.Algebra.Order.Field.Basic
import Mathlib.Tactic.Linarith
import Everest.SmartCharging.Periods

namespace Everest.SmartCharging

/-- A limit as a field of an intermediate period holds it: unspecified, or a number that the
code does not mistake for one of its markers. -/
def IsLimit (x : ℚ) : Prop := x = noLimitSpecified ∨ 0 ≤ x ∧ x ≤ floatMax - 1

lemma IsLimit.nonneg {x : ℚ} (h : IsLimit x) (hx : x ≠ noLimitSpecified) : 0 ≤ x :=
  (h.resolve_left hx).1

lemma ne_noLimit_of_nonneg {x : ℚ} (h : 0 ≤ x) : x ≠ noLimitSpecified := by
  rintro rfl
  exact absurd h (by decide +kernel)

/-- Values within less than 1 of each other are both specified or both not. -/
theorem IsLimit.specified_of_close {a b tolerance : ℚ} (ha : IsLimit a) (hb : IsLimit b)
    (htol : tolerance < 1) (hclose : |a - b| ≤ tolerance) (hspec : a ≠ noLimitSpecified) :
    b ≠ noLimitSpecified ∧ b ≤ a + tolerance := by
  have hnn := ha.nonneg hspec
  have habs := abs_le.mp hclose
  constructor
  · rintro rfl
    unfold noLimitSpecified at habs
    linarith
  · linarith

lemma IsLimit.unspecified_of_close {a b tolerance : ℚ} (ha : IsLimit a) (hb : IsLimit b)
    (htol : tolerance < 1) (hclose : |a - b| ≤ tolerance) (h : a = noLimitSpecified) :
    b = noLimitSpecified := by
  by_contra hne
  rw [abs_sub_comm] at hclose
  exact (hb.specified_of_close ha htol hclose hne).1 h

/-- One step of the search for the lowest limit; unspecified values are negative. -/
def lower (lowest x : ℚ) : ℚ := if 0 ≤ x ∧ x < lowest then x else lowest

lemma lower_eq (lowest x : ℚ) : lower lowest x = if 0 ≤ x then min lowest x else lowest := by
  unfold lower
  by_cases h0 : 0 ≤ x
  · rcases lt_or_ge x lowest with hlt | hge
    · simp [h0, hlt, hlt.le]
    · simp [h0, hge, not_lt.mpr hge]
  · simp [h0]

lemma foldl_lower_least (limits : List ℚ) (lowest : ℚ) :
    limits.foldl lower lowest ∈ lowest :: limits.filter (0 ≤ ·) ∧
      ∀ x ∈ lowest :: limits.filter (0 ≤ ·), limits.foldl lower lowest ≤ x := by
  have hfold : (limits.filter (0 ≤ ·)).foldl min lowest = limits.foldl lower lowest := by
    rw [List.foldl_filter]
    simp only [decide_eq_true_eq, ← lower_eq]
  rw [← hfold]
  exact List.min?_eq_some_iff.mp List.min?_cons'

lemma foldl_lower_mem {limits : List ℚ} {lowest : ℚ} : limits.foldl lower lowest = lowest ∨
      limits.foldl lower lowest ∈ limits ∧ 0 ≤ limits.foldl lower lowest := by
  simpa using (foldl_lower_least limits lowest).1

def lowestLimit (limits : List ℚ) : ℚ :=
  if limits.foldl lower floatMax = floatMax then noLimitSpecified
  else limits.foldl lower floatMax

structure LowestOf (tolerance : ℚ) (limits : List ℚ) (lowest : ℚ) : Prop where
  le : ∀ x ∈ limits, x ≠ noLimitSpecified → lowest ≠ noLimitSpecified ∧ lowest ≤ x + tolerance
  unspecified : (∀ x ∈ limits, x = noLimitSpecified) → lowest = noLimitSpecified

variable {limits : List ℚ}

lemma foldl_lower_range (h : ∀ x ∈ limits, IsLimit x) :
    limits.foldl lower floatMax = floatMax ∨
      0 ≤ limits.foldl lower floatMax ∧ limits.foldl lower floatMax ≤ floatMax - 1 := by
  rcases foldl_lower_mem with heq | ⟨hmem, h0⟩
  · exact .inl heq
  · exact .inr ⟨h0, ((h _ hmem).resolve_left (ne_noLimit_of_nonneg h0)).2⟩

lemma isLimit_lowestLimit (h : ∀ x ∈ limits, IsLimit x) :
    IsLimit (lowestLimit limits) := by
  unfold lowestLimit
  split_ifs with hmax
  · exact .inl rfl
  · exact .inr ((foldl_lower_range h).resolve_left hmax)

lemma lowestOf_lowestLimit (h : ∀ x ∈ limits, IsLimit x) :
    LowestOf 0 limits (lowestLimit limits) := by
  constructor
  · intro x hx hspec
    have hrange := (h x hx).resolve_left hspec
    have hle := (foldl_lower_least limits floatMax).2 x (by simp [hx, hrange.1])
    have hmax : limits.foldl lower floatMax ≠ floatMax := by
      intro hmax
      linarith
    rw [lowestLimit, if_neg hmax]
    exact ⟨ne_noLimit_of_nonneg ((foldl_lower_range h).resolve_left hmax).1, by linarith⟩
  · intro hall
    rw [lowestLimit, if_pos]
    rcases foldl_lower_mem with heq | ⟨hmem, h0⟩
    · exact heq
    · exact absurd (hall _ hmem) (ne_noLimit_of_nonneg h0)

lemma LowestOf.close {lowest kept tolerance : ℚ} (h : LowestOf 0 limits lowest)
    (hlowest : IsLimit lowest) (hkept : IsLimit kept) (htol : tolerance < 1)
    (hclose : |lowest - kept| ≤ tolerance) : LowestOf tolerance limits kept := by
  constructor
  · intro x hx hspec
    obtain ⟨hne, hle⟩ := h.le x hx hspec
    obtain ⟨hkeptne, hkeptle⟩ := hlowest.specified_of_close hkept htol hclose hne
    exact ⟨hkeptne, by linarith⟩
  · intro hall
    exact hlowest.unspecified_of_close hkept htol hclose (h.unspecified hall)

/-- A limit of the given unit in the requested unit; `transformValue` is the supply voltage
times the number of phases. -/
def inUnit (requested unit : ChargingRateUnit) (transformValue limit : ℚ) : ℚ :=
  match requested, unit with
  | .A, .A => limit
  | .A, .W => limit / transformValue
  | .W, .A => limit * transformValue
  | .W, .W => limit

lemma inUnit_mono {requested unit : ChargingRateUnit} {transformValue a b : ℚ}
    (htrans : 0 < transformValue) (h : a ≤ b) :
    inUnit requested unit transformValue a ≤ inUnit requested unit transformValue b := by
  cases requested <;> cases unit <;> unfold inUnit
  · exact h
  · exact mul_le_mul_of_nonneg_right h htrans.le
  · exact div_le_div_of_nonneg_right h htrans.le
  · exact h

structure Limits where
  current : ℚ
  power : ℚ
  numberPhases : Option ℤ

structure Limits.Sound (limits : Limits) : Prop where
  current : IsLimit limits.current
  power : IsLimit limits.power
  phases : ∀ n ∈ limits.numberPhases, 1 ≤ n

def Limits.unspecified : Limits := ⟨noLimitSpecified, noLimitSpecified, none⟩

lemma Limits.sound_unspecified : Limits.unspecified.Sound :=
  ⟨.inl rfl, .inl rfl, by simp [Limits.unspecified]⟩

def Limits.lowest (limits : List Limits) : Limits where
  current := lowestLimit (limits.map (·.current))
  power := lowestLimit (limits.map (·.power))
  numberPhases := (limits.map (·.numberPhases)).foldl lowerPhases none

lemma foldl_lowerPhases_pos (phases : List (Option ℤ)) (initial : Option ℤ)
    (hinit : ∀ n ∈ initial, 1 ≤ n) (h : ∀ p ∈ phases, ∀ n ∈ p, 1 ≤ n) :
    ∀ n ∈ phases.foldl lowerPhases initial, 1 ≤ n := by
  induction phases generalizing initial with
  | nil => exact hinit
  | cons first rest ih =>
    refine ih _ ?_ fun p hp => h p (List.mem_cons_of_mem _ hp)
    have hfirst := h first List.mem_cons_self
    unfold lowerPhases
    split
    · exact hfirst
    · split_ifs
      · exact hfirst
      · exact hinit
    · exact hinit

lemma Limits.sound_lowest {limits : List Limits} (h : ∀ l ∈ limits, l.Sound) :
    (Limits.lowest limits).Sound := by
  refine ⟨isLimit_lowestLimit ?_, isLimit_lowestLimit ?_, foldl_lowerPhases_pos _ _ (by simp) ?_⟩
  · simpa using fun l hl => (h l hl).current
  · simpa using fun l hl => (h l hl).power
  · simpa using fun l hl => (h l hl).phases

structure Limits.Close (tolerance : ℚ) (a b : Limits) : Prop where
  current : |a.current - b.current| ≤ tolerance
  power : |a.power - b.power| ≤ tolerance

/-- `limit` is what converting `limits` into the requested unit gives. -/
structure Limits.Converted (limits : Limits) (requested : ChargingRateUnit)
    (defaultLimit transformValue limit : ℚ) : Prop where
  current : limits.current ≠ noLimitSpecified →
    limit ≤ inUnit requested .A transformValue limits.current
  power : limits.power ≠ noLimitSpecified →
    limit ≤ inUnit requested .W transformValue limits.power
  default : limits.current = noLimitSpecified → limits.power = noLimitSpecified →
    limit = defaultLimit

/-- `limit` is no higher than what `limits` allows in the requested unit. -/
structure Limits.Allows (limits : Limits) (requested : ChargingRateUnit)
    (transformValue tolerance limit : ℚ) : Prop where
  current : limits.current ≠ noLimitSpecified →
    limit ≤ inUnit requested .A transformValue (limits.current + tolerance)
  power : limits.power ≠ noLimitSpecified →
    limit ≤ inUnit requested .W transformValue (limits.power + tolerance)

variable {heads : List Limits} {kept q m : Limits} {requested : ChargingRateUnit}
  {defaultLimit transformValue limit tolerance : ℚ}

/-- The period kept by the lowest-limit merge is close to the lowest of the limits. -/
theorem Limits.lowestOf_kept (hheads : ∀ l ∈ heads, l.Sound) (hkept : kept.Sound)
    (htol : tolerance < 1) (hclose : (Limits.lowest heads).Close tolerance kept) :
    LowestOf tolerance (heads.map (·.current)) kept.current ∧
      LowestOf tolerance (heads.map (·.power)) kept.power := by
  have hcur : ∀ x ∈ heads.map (·.current), IsLimit x := by
    simpa using fun l hl => (hheads l hl).current
  have hpower : ∀ x ∈ heads.map (·.power), IsLimit x := by
    simpa using fun l hl => (hheads l hl).power
  exact ⟨(lowestOf_lowestLimit hcur).close (isLimit_lowestLimit hcur) hkept.current
      htol hclose.current,
    (lowestOf_lowestLimit hpower).close (isLimit_lowestLimit hpower) hkept.power
      htol hclose.power⟩

/-- A converted minimum is no higher than any limit that is close to one of the merged ones. -/
theorem Limits.allows_of_lowest (hheads : ∀ l ∈ heads, l.Sound) (hkept : kept.Sound)
    (htrans : 0 < transformValue) (htol : tolerance < 1)
    (hclose : (Limits.lowest heads).Close tolerance kept)
    (hconv : kept.Converted requested defaultLimit transformValue limit)
    (hm : m ∈ heads) (hq : q.Sound) (hqm : q.Close tolerance m) :
    q.Allows requested transformValue (2 * tolerance) limit := by
  obtain ⟨hcur, hpower⟩ := Limits.lowestOf_kept hheads hkept htol hclose
  constructor
  · intro hspec
    obtain ⟨hmne, hmle⟩ := hq.current.specified_of_close (hheads m hm).current htol
      hqm.current hspec
    obtain ⟨hne, hle⟩ := hcur.le m.current (List.mem_map_of_mem hm) hmne
    exact (hconv.current hne).trans (inUnit_mono htrans (by linarith))
  · intro hspec
    obtain ⟨hmne, hmle⟩ := hq.power.specified_of_close (hheads m hm).power htol
      hqm.power hspec
    obtain ⟨hne, hle⟩ := hpower.le m.power (List.mem_map_of_mem hm) hmne
    exact (hconv.power hne).trans (inUnit_mono htrans (by linarith))

lemma Limits.default_of_lowest (hheads : ∀ l ∈ heads, l.Sound) (hkept : kept.Sound)
    (htol : tolerance < 1) (hclose : (Limits.lowest heads).Close tolerance kept)
    (hconv : kept.Converted requested defaultLimit transformValue limit)
    (hunspecified : ∀ l ∈ heads, l.current = noLimitSpecified ∧ l.power = noLimitSpecified) :
    limit = defaultLimit := by
  obtain ⟨hcur, hpower⟩ := Limits.lowestOf_kept hheads hkept htol hclose
  refine hconv.default (hcur.unspecified ?_) (hpower.unspecified ?_)
  · simpa using fun l hl => (hunspecified l hl).1
  · simpa using fun l hl => (hunspecified l hl).2

end Everest.SmartCharging
