import Everest.SmartCharging.Limits
import Everest.SmartCharging.StackPriority

namespace Everest.SmartCharging

open PeriodOps EntryOps Timeline List

/-- A period type together with what its two combinators do to limits. -/
structure Merging (P : Type) [PeriodOps P] where
  limits : P → Limits
  /-- The periods that the profiles in question consist of. -/
  Fine : P → Prop
  lowest : List P → P
  prefer : List P → P
  specified : P → Bool
  /-- Up to this difference two limits count as equal. -/
  tolerance : ℚ
  tolerance_nonneg : 0 ≤ tolerance
  tolerance_lt : tolerance < 1
  sound : ∀ p, Fine p → (limits p).Sound
  fine_default : ∀ s, Fine (defaultPeriod s)
  fine_set : ∀ s p, Fine p → Fine (setStartPeriod s p)
  close_of_not_differs : ∀ p q, differs p q = false → (limits p).Close tolerance (limits q)
  fine_lowest : ∀ periods, (∀ p ∈ periods, Fine p) → Fine (lowest periods)
  limits_lowest : ∀ periods, (∀ p ∈ periods, Fine p) →
    limits (lowest periods) = Limits.lowest (periods.map limits)
  fine_prefer : ∀ periods, (∀ p ∈ periods, Fine p) → Fine (prefer periods)
  close_prefer : ∀ p q, Fine p → Fine q →
    (limits (if specified p then p else q)).Close 0 (limits (prefer [p, q]))

variable {P : Type} [PeriodOps P]

structure Merging.Good (merging : Merging P) (profile : List P) : Prop where
  isProfile : IsProfile profile
  fine : ∀ p ∈ profile, merging.Fine p

variable {merging : Merging P} {profiles : List (List P)} {k : ℤ}

lemma fine_of_mem_headsAt (h : ∀ profile ∈ profiles, merging.Good profile) :
    ∀ p ∈ headsAt profiles k, merging.Fine p := by
  intro p hp
  obtain ⟨profile, hprof, hin⟩ := mem_filterMap.mp hp
  exact (h profile hprof).fine p (mem_of_inForce hin).1

lemma IsPointwise.good {combinator : List P → P} {combined : List P}
    (h : IsPointwise combinator profiles combined)
    (hprofs : ∀ profile ∈ profiles, merging.Good profile)
    (hcomb : ∀ periods, (∀ p ∈ periods, merging.Fine p) → merging.Fine (combinator periods)) :
    merging.Good combined := by
  refine ⟨h.isProfile, ?_⟩
  intro p hp
  rw [h.exact p hp]
  exact merging.fine_set _ _ (hcomb _ (fine_of_mem_headsAt hprofs))

lemma Merging.isPointwise (combinator : List P → P) (hne : profiles ≠ [])
    (hprofs : ∀ profile ∈ profiles, merging.Good profile) :
    IsPointwise combinator profiles (combineListOfProfiles profiles combinator) :=
  combineListOfProfiles_isPointwise hne (fun profile hprof => (hprofs profile hprof).isProfile)

/-- At every second the lowest-limit merge has the lowest of the limits in force. -/
theorem Merging.lowest_inForce (hne : profiles ≠ [])
    (hprofs : ∀ profile ∈ profiles, merging.Good profile) (hk : 0 ≤ k) :
    ∃ p, inForce startPeriod (combineListOfProfiles profiles merging.lowest) k = some p ∧
      merging.Fine p ∧
      (Limits.lowest ((headsAt profiles k).map merging.limits)).Close merging.tolerance
        (merging.limits p) := by
  have hpw := Merging.isPointwise merging.lowest hne hprofs
  obtain ⟨p, hin, hdiff⟩ := hpw.pointwise k hk
  refine ⟨p, hin, ?_, ?_⟩
  · exact (hpw.good hprofs merging.fine_lowest).fine p (mem_of_inForce hin).1
  · rw [← merging.limits_lowest _ (fine_of_mem_headsAt hprofs)]
    exact merging.close_of_not_differs _ _ hdiff

lemma Limits.Close.trans {a b c : Limits} {d e : ℚ} (hab : a.Close d b) (hbc : b.Close e c) :
    a.Close (d + e) c :=
  ⟨(abs_sub_le _ _ _).trans (add_le_add hab.current hbc.current),
    (abs_sub_le _ _ _).trans (add_le_add hab.power hbc.power)⟩

lemma Limits.Close.of_eq {a b : Limits} {d : ℚ} (hd : 0 ≤ d) (hcur : a.current = b.current)
    (hpower : a.power = b.power) : a.Close d b :=
  ⟨by simpa [hcur] using hd, by simpa [hpower] using hd⟩

variable {tx txDefault : List P}

/-- At every second the merge with the default profile has the limits of the first profile if
it says anything there, else those of the second. -/
theorem Merging.prefer_inForce {p q : P} (htx : merging.Good tx)
    (htxDef : merging.Good txDefault) (hk : 0 ≤ k) (hp : inForce startPeriod tx k = some p)
    (hq : inForce startPeriod txDefault k = some q) :
    merging.Good (combineListOfProfiles [tx, txDefault] merging.prefer) ∧
      ∃ m, inForce startPeriod (combineListOfProfiles [tx, txDefault] merging.prefer) k = some m ∧
        (merging.limits (if merging.specified p then p else q)).Close merging.tolerance
          (merging.limits m) := by
  have hprofs : ∀ profile ∈ [tx, txDefault], merging.Good profile := by
    simpa using ⟨htx, htxDef⟩
  have hpw := Merging.isPointwise merging.prefer (by simp) hprofs
  have hgood := hpw.good hprofs merging.fine_prefer
  obtain ⟨m, hin, hdiff⟩ := hpw.pointwise k hk
  have hheads : headsAt [tx, txDefault] k = [p, q] := by simp [headsAt, hp, hq]
  rw [hheads] at hdiff
  refine ⟨hgood, m, hin, ?_⟩
  have hprefer := merging.close_prefer p q (htx.fine p (mem_of_inForce hp).1)
    (htxDef.fine q (mem_of_inForce hq).1)
  have hclose := hprefer.trans (merging.close_of_not_differs _ _ hdiff)
  rwa [zero_add] at hclose

/-- The profiles have in force at the second `k`, up to the tolerance, just the limits of the
constraining periods. -/
structure Merging.Represents (merging : Merging P) (profiles : List (List P)) (k : ℤ)
    (constrains : P → Prop) : Prop where
  good : ∀ profile ∈ profiles, merging.Good profile
  fine : ∀ q, constrains q → merging.Fine q
  covered : ∀ q, constrains q → ∃ profile ∈ profiles, ∃ m, inForce startPeriod profile k = some m ∧
    (merging.limits q).Close merging.tolerance (merging.limits m)
  justified : ∀ profile ∈ profiles, ∀ m, inForce startPeriod profile k = some m →
    ∃ q, constrains q ∧ (merging.limits q).Close merging.tolerance (merging.limits m)

lemma Merging.Represents.single {profile : List P} (hgood : merging.Good profile) :
    merging.Represents [profile] k fun q => inForce startPeriod profile k = some q where
  good := by simpa using hgood
  fine q hq := hgood.fine q (mem_of_inForce hq).1
  covered q hq := ⟨profile, mem_singleton_self _, q, hq,
    .of_eq merging.tolerance_nonneg rfl rfl⟩
  justified profile' hprof m hm := by
    obtain rfl := mem_singleton.mp hprof
    exact ⟨m, hm, .of_eq merging.tolerance_nonneg rfl rfl⟩

variable {constrains constrains' : P → Prop}

lemma Merging.Represents.congr (h : merging.Represents profiles k constrains)
    (hiff : ∀ q, constrains q ↔ constrains' q) : merging.Represents profiles k constrains' := by
  obtain rfl : constrains = constrains' := funext fun q => propext (hiff q)
  exact h

lemma Merging.Represents.append {others : List (List P)}
    (h : merging.Represents profiles k constrains) (h' : merging.Represents others k constrains') :
    merging.Represents (profiles ++ others) k fun q => constrains q ∨ constrains' q where
  good profile hprof := by
    rcases mem_append.mp hprof with hmem | hmem
    · exact h.good profile hmem
    · exact h'.good profile hmem
  fine q hq := hq.elim (h.fine q) (h'.fine q)
  covered q hq := by
    rcases hq with hq | hq
    · obtain ⟨profile, hmem, hrest⟩ := h.covered q hq
      exact ⟨profile, mem_append_left _ hmem, hrest⟩
    · obtain ⟨profile, hmem, hrest⟩ := h'.covered q hq
      exact ⟨profile, mem_append_right _ hmem, hrest⟩
  justified profile hprof m hm := by
    rcases mem_append.mp hprof with hmem | hmem
    · obtain ⟨q, hq, hclose⟩ := h.justified profile hmem m hm
      exact ⟨q, .inl hq, hclose⟩
    · obtain ⟨q, hq, hclose⟩ := h'.justified profile hmem m hm
      exact ⟨q, .inr hq, hclose⟩

lemma Merging.Represents.prefer {applies : Prop} (htx : merging.Good tx)
    (htxDef : merging.Good txDefault) (hk : 0 ≤ k)
    (happlies : ∀ p, inForce startPeriod tx k = some p → (merging.specified p = true ↔ applies)) :
    merging.Represents [combineListOfProfiles [tx, txDefault] merging.prefer] k fun q =>
      applies ∧ inForce startPeriod tx k = some q ∨
        ¬applies ∧ inForce startPeriod txDefault k = some q := by
  obtain ⟨p, hp⟩ := htx.isProfile.timeline.exists_inForce hk
  obtain ⟨q, hq⟩ := htxDef.isProfile.timeline.exists_inForce hk
  obtain ⟨hgood, m, hm, hclose⟩ := Merging.prefer_inForce htx htxDef hk hp hq
  have hiff := happlies p hp
  -- the constraining period is the one that the merge prefers
  have hconstrains : ∀ r, (applies ∧ inForce startPeriod tx k = some r ∨
      ¬applies ∧ inForce startPeriod txDefault k = some r) ↔
        r = if merging.specified p then p else q := by
    intro r
    by_cases h : applies
    · simp [h, hiff.mpr h, hp, eq_comm]
    · have hnot : merging.specified p = false := by simpa using fun hs => h (hiff.mp hs)
      simp [h, hnot, hq, eq_comm]
  simp only [hconstrains]
  refine ⟨by simpa using hgood, ?_, ?_, ?_⟩
  · rintro r rfl
    split_ifs
    · exact htx.fine p (mem_of_inForce hp).1
    · exact htxDef.fine q (mem_of_inForce hq).1
  · rintro r rfl
    exact ⟨_, mem_singleton_self _, m, hm, hclose⟩
  · intro profile hprof m' hm'
    obtain rfl := mem_singleton.mp hprof
    obtain rfl := Option.some.inj (hm.symm.trans hm')
    exact ⟨_, rfl, hclose⟩

/-- The lowest-limit merge, converted, exceeds no constraint, and is the default where no
constraint specifies a limit. -/
theorem Merging.Represents.bounds {requested : ChargingRateUnit} {defaultLimit : ℚ}
    {supplyVoltage : ℚ} {defaultNumberPhases : ℤ} (h : merging.Represents profiles k constrains)
    (hne : profiles ≠ []) (hk : 0 ≤ k) (hvolt : 0 < supplyVoltage)
    (hph : 1 ≤ defaultNumberPhases) :
    ∃ p, inForce startPeriod (combineListOfProfiles profiles merging.lowest) k = some p ∧
      merging.Fine p ∧
      let transformValue :=
        supplyVoltage * ((merging.limits p).numberPhases.getD defaultNumberPhases : ℤ)
      ∀ limit, (merging.limits p).Converted requested defaultLimit transformValue limit →
        (∀ q, constrains q →
          (merging.limits q).Allows requested transformValue (2 * merging.tolerance) limit) ∧
        ((∀ q, constrains q → (merging.limits q).current = noLimitSpecified ∧
          (merging.limits q).power = noLimitSpecified) → limit = defaultLimit) := by
  obtain ⟨p, hp, hfine, hclose⟩ := Merging.lowest_inForce hne h.good hk
  have hheads : ∀ l ∈ (headsAt profiles k).map merging.limits, l.Sound := by
    simpa using fun p hp => merging.sound p (fine_of_mem_headsAt h.good p hp)
  have hsound := merging.sound p hfine
  have htrans : 0 < supplyVoltage *
      ((merging.limits p).numberPhases.getD defaultNumberPhases : ℤ) := by
    refine mul_pos hvolt (Int.cast_pos.mpr ?_)
    cases hn : (merging.limits p).numberPhases with
    | none => exact hph
    | some n => exact hsound.phases n hn
  refine ⟨p, hp, hfine, fun limit hconv => ⟨?_, ?_⟩⟩
  · intro q hq
    obtain ⟨profile, hprof, m, hm, hqm⟩ := h.covered q hq
    have hmem : merging.limits m ∈ (headsAt profiles k).map merging.limits :=
      mem_map_of_mem (mem_filterMap.mpr ⟨profile, hprof, hm⟩)
    exact Limits.allows_of_lowest hheads hsound htrans merging.tolerance_lt hclose hconv
      hmem (merging.sound q (h.fine q hq)) hqm
  · intro hall
    refine Limits.default_of_lowest hheads hsound merging.tolerance_lt hclose hconv ?_
    intro l hl
    obtain ⟨m, hm, rfl⟩ := mem_map.mp hl
    obtain ⟨profile, hprof, hin⟩ := mem_filterMap.mp hm
    obtain ⟨q, hq, hqm⟩ := h.justified profile hprof m hin
    have hqsound := merging.sound q (h.fine q hq)
    have hmsound := hheads _ hl
    exact ⟨hqsound.current.unspecified_of_close hmsound.current merging.tolerance_lt hqm.current
        (hall q hq).1,
      hqsound.power.unspecified_of_close hmsound.power merging.tolerance_lt hqm.power
        (hall q hq).2⟩

def InForceIn (profile : Option (List P)) (k : ℤ) (period : P) : Prop :=
  ∃ periods, profile = some periods ∧ inForce startPeriod periods k = some period

lemma inForceIn_some {periods : List P} {period : P} :
    InForceIn (some periods) k period ↔ inForce startPeriod periods k = some period := by
  simp [InForceIn]

section Purpose

variable {E : Type} [EntryOps E P] {periods : List E} {startTime endTime t : ℤ}

def Applies (periods : List E) (t : ℤ) : Prop := ∃ e ∈ periods, Covers e t

/-- The entries of one purpose: they are placed in the window, fine, and say something. -/
structure Merging.Supplies (merging : Merging P) (startTime endTime : ℤ) (periods : List E) :
    Prop where
  delivered : ∀ e ∈ periods, Delivered (floorSeconds startTime) (floorSeconds endTime) e
  fine : ∀ e ∈ periods, ∀ s, merging.Fine (intermediate s e)
  specified : ∀ e ∈ periods, ∀ s, merging.specified (intermediate s e) = true

section Window

variable (hle : floorSeconds startTime ≤ floorSeconds endTime)
  (hwin : floorSeconds endTime - floorSeconds startTime < seconds (2 ^ 31))
include hle hwin

lemma Merging.Supplies.good {std : StdSort} (h : merging.Supplies startTime endTime periods) :
    ∃ profile, generateProfileFromPeriods std periods startTime endTime = some profile ∧
      merging.Good profile ∧
      FollowsStack periods (floorSeconds startTime) (floorSeconds endTime) profile := by
  obtain ⟨profile, hgen, hfol⟩ := generateProfileFromPeriods_followsStack (P := P)
    h.delivered wholeSeconds_floor wholeSeconds_floor hle hwin
  rw [generateProfileFromPeriods_floor] at hgen
  have hrendered := generateProfileFromPeriods_rendered hgen
  have hbound : floorSeconds endTime - floorSeconds startTime ≤ seconds int32Max := by
    unfold floorSeconds seconds ticksPerSecond int32Max at *
    omega
  refine ⟨profile, hgen, ⟨⟨hfol.timeline, ?_⟩, ?_⟩, hfol⟩
  · exact fun p hp => (hrendered p hp).startPeriod_lt hbound
  · intro p hp
    obtain ⟨c, choice, -, hchoice, rfl⟩ := (hrendered p hp).exists_choice
    cases choice with
    | none => exact merging.fine_default _
    | some e => exact h.fine e (hchoice e rfl) _

lemma Merging.Supplies.represents (std : StdSort) (k : ℤ)
    (h : merging.Supplies startTime endTime periods) :
    ∃ profile, generateProfileFromPeriods std periods startTime endTime = some profile ∧
      merging.Represents [profile] k
        (InForceIn (generateProfileFromPeriods std periods startTime endTime) k) := by
  obtain ⟨profile, hgen, hgood, -⟩ := h.good hle hwin
  refine ⟨profile, hgen, ?_⟩
  rw [hgen]
  exact (Represents.single hgood).congr fun q => inForceIn_some.symm

end Window

lemma elapsedSeconds_nonneg {now : ℤ} (h : now ≤ t) : 0 ≤ elapsedSeconds t now := by
  have hdur : 0 ≤ durationSeconds (t - now) := Int.tdiv_nonneg (by omega) (by decide)
  rw [elapsedSeconds, clampInt32_of_le (by omega)]
  unfold int32Max
  omega

/-- Where an entry covers `t` the period in force says something, elsewhere it does not. -/
theorem Merging.specified_iff_covered {profile : List P} {now stop : ℤ} {p : P}
    (hfol : FollowsStack periods now stop profile)
    (hents : ∀ e ∈ periods, ∀ s, merging.specified (intermediate s e) = true)
    (hdef : ∀ s, merging.specified (defaultPeriod s) = false)
    (ht : WholeSeconds t) (hnow : now ≤ t) (hstop : t < stop)
    (hp : inForce startPeriod profile (elapsedSeconds t now) = some p) :
    merging.specified p = true ↔ Applies periods t := by
  obtain ⟨choice, s, hprio, hin⟩ := hfol.priority t ht hnow hstop
  obtain rfl := Option.some.inj (hp.symm.trans hin)
  cases choice with
  | none =>
    refine iff_of_false (by simp [periodFor, hdef]) ?_
    rintro ⟨e, he, hcovers⟩
    exact hprio e he hcovers
  | some e => exact iff_of_true (hents e hprio.1 s) ⟨e, hprio.1, hprio.2.1⟩

structure InWindow (startTime endTime t : ℤ) : Prop where
  window : floorSeconds endTime - floorSeconds startTime < seconds (2 ^ 31)
  whole : WholeSeconds t
  start : floorSeconds startTime ≤ t
  stop : t < floorSeconds endTime

lemma InWindow.le (h : InWindow startTime endTime t) :
    floorSeconds startTime ≤ floorSeconds endTime :=
  h.start.trans h.stop.le

lemma Merging.Supplies.prefer {others : List E} (std : StdSort)
    (htx : merging.Supplies startTime endTime periods)
    (htxDef : merging.Supplies startTime endTime others)
    (hdef : ∀ s, merging.specified (defaultPeriod s) = false)
    (hin : InWindow startTime endTime t) :
    let inForceAt := fun periods : List E => InForceIn
      (generateProfileFromPeriods std periods startTime endTime)
      (elapsedSeconds t (floorSeconds startTime))
    ∃ tx txDefault, generateProfileFromPeriods std periods startTime endTime = some tx ∧
      generateProfileFromPeriods std others startTime endTime = some txDefault ∧
      merging.Represents [combineListOfProfiles [tx, txDefault] merging.prefer]
        (elapsedSeconds t (floorSeconds startTime)) fun q =>
          Applies periods t ∧ inForceAt periods q ∨ ¬Applies periods t ∧ inForceAt others q := by
  obtain ⟨tx, hgen, hgood, hfol⟩ := htx.good hin.le hin.window
  obtain ⟨txDefault, hgen', hgood', -⟩ := htxDef.good hin.le hin.window
  refine ⟨tx, txDefault, hgen, hgen', ?_⟩
  have happlies := fun p hp => merging.specified_iff_covered (p := p) hfol htx.specified
    hdef hin.whole hin.start hin.stop hp
  simp only [hgen, hgen', inForceIn_some]
  exact .prefer hgood hgood' (elapsedSeconds_nonneg hin.start) happlies

end Purpose

end Everest.SmartCharging
