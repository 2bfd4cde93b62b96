import Everest.SmartCharging.ProfileV16
import Everest.SmartCharging.ProfileV2

namespace Everest.SmartCharging

open PeriodOps EntryOps Timeline List Option

section Scan

variable {E P : Type} [PeriodOps P] [EntryOps E P]

def Covers (e : E) (t : ℤ) : Prop := start e ≤ t ∧ t < endTime e

/-- The entry that has priority at `t`, or `none` when nothing covers `t`. -/
def HasPriority (periods : List E) (t : ℤ) : Option E → Prop
  | none => ∀ e ∈ periods, ¬Covers e t
  | some e => e ∈ periods ∧ Covers e t ∧ ∀ other ∈ periods, Covers other t →
      stackLevel other ≤ stackLevel e

def periodFor (startPeriod : ℤ) : Option E → P
  | none => defaultPeriod startPeriod
  | some e => intermediate startPeriod e

lemma startPeriod_periodFor (s : ℤ) (choice : Option E) :
    startPeriod (periodFor s choice : P) = s := by
  cases choice with
  | none => exact startPeriod_default s
  | some e => exact startPeriod_intermediate s e

inductive Searched (current bound : ℤ) (periods : List E) (found : Choice E) : Prop
  /-- No entry covers the current time and `earliest` is when the next one starts. -/
  | gap (later : current < found.earliest) (le_bound : found.earliest ≤ bound)
      (first : ∀ e ∈ periods, current < endTime e → found.earliest ≤ start e)
      (attained : found.earliest = bound ∨ ∃ e ∈ periods, found.earliest = start e)
  /-- The first entry that covers the current time is chosen, and `nextEarliest` is when one
  before it starts. -/
  | covered (before : List E) (e : E) (after : List E) (split : periods = before ++ e :: after)
      (chosen : found.chosen = some e) (started : found.earliest ≤ current)
      (covers : Covers e current) (later : current < found.nextEarliest)
      (le_bound : found.nextEarliest ≤ bound)
      (first : ∀ b ∈ before, current < endTime b → found.nextEarliest ≤ start b)
      (attained : found.nextEarliest = bound ∨ ∃ b ∈ before, found.nextEarliest = start b)

variable {rest : List E}

lemma Searched.cons {current bound bound' : ℤ} {schedule : E} {found : Choice E}
    (h : Searched current bound rest found) (hle : bound ≤ bound')
    (hbound : bound = bound' ∨ bound = start schedule)
    (hsched : current < endTime schedule → bound ≤ start schedule) :
    Searched current bound' (schedule :: rest) found := by
  have hattained : ∀ {x : ℤ} {seen : List E}, (x = bound ∨ ∃ e ∈ seen, x = start e) →
      x = bound' ∨ ∃ e ∈ schedule :: seen, x = start e := by
    rintro x seen (rfl | ⟨e, he, rfl⟩)
    · rcases hbound with rfl | hstart
      · exact .inl rfl
      · exact .inr ⟨schedule, mem_cons_self, hstart⟩
    · exact .inr ⟨e, mem_cons_of_mem _ he, rfl⟩
  cases h with
  | gap later le_bound first attained =>
    refine .gap later (le_bound.trans hle) ?_ (hattained attained)
    rintro e he hend
    rcases mem_cons.mp he with rfl | hrest
    · exact le_bound.trans (hsched hend)
    · exact first e hrest hend
  | covered before e after split chosen started covers later le_bound first attained =>
    refine .covered (schedule :: before) e after (by rw [split]; rfl) chosen started covers later
      (le_bound.trans hle) ?_ (hattained attained)
    rintro b hb hend
    rcases mem_cons.mp hb with rfl | hbef
    · exact le_bound.trans (hsched hend)
    · exact first b hbef hend

lemma findSchedule_spec (current : ℤ) (periods : List E) (choice : Choice E)
    (hopen : current < choice.earliest) :
    Searched current choice.earliest periods (findSchedule current periods choice) := by
  induction periods generalizing choice with
  | nil => exact .gap hopen le_rfl (by simp) (.inl rfl)
  | cons schedule rest ih =>
    unfold findSchedule
    split_ifs with hstart hend hcover
    · -- this entry covers the current time: the search stops here
      exact .covered [] schedule rest rfl rfl hcover ⟨hcover, hend⟩ hopen le_rfl (by simp)
        (.inl rfl)
    · -- this entry starts later and bounds the time that the choice holds for
      have hrest := ih ⟨start schedule, choice.earliest, some schedule⟩ (by simpa using hcover)
      exact hrest.cons hstart (.inr rfl) fun _ => le_rfl
    · exact (ih choice hopen).cons le_rfl (.inl rfl) fun h => absurd h hend
    · exact (ih choice hopen).cons le_rfl (.inl rfl) fun _ => by omega

variable {periods : List E} {now stop current : ℤ}

/-- One turn: the period it appends holds until the time at which the next turn looks. -/
theorem scanStep_spec (hdel : ∀ e ∈ periods, Delivered now stop e)
    (hsort : periods.Pairwise fun a b => stackLevel b ≤ stackLevel a)
    (hstop : WholeSeconds stop) (hcur : current < stop) :
    ∃ choice next,
      scanStep periods now stop current =
        some (periodFor (elapsedSeconds current now) choice, next) ∧
      current < next ∧ next ≤ stop ∧ WholeSeconds next ∧
      ∀ t, current ≤ t → t < next → HasPriority periods t choice := by
  have hsearch := findSchedule_spec current periods ⟨stop, stop, none⟩ hcur
  unfold scanStep
  dsimp only at hsearch ⊢
  generalize findSchedule current periods ⟨stop, stop, none⟩ = found at hsearch ⊢
  cases hsearch with
  | gap later le_bound first attained =>
    rw [if_pos later]
    refine ⟨none, found.earliest, rfl, later, le_bound, ?_, ?_⟩
    · rcases attained with heq | ⟨e, he, heq⟩
      · exact heq ▸ hstop
      · exact heq ▸ (hdel e he).whole_start
    · intro t hle hlt e he hcovers
      have hearliest := first e he (lt_of_le_of_lt hle hcovers.2)
      have hstarted := hcovers.1
      omega
  | covered before e after split chosen started covers later le_bound first attained =>
    have hmem : e ∈ periods := by simp [split]
    rw [if_neg (by omega), chosen]
    refine ⟨some e, _, rfl, ?_, ?_, ?_, ?_⟩
    · have hend := covers.2
      split_ifs <;> omega
    · split_ifs <;> omega
    · split_ifs
      · exact (hdel e hmem).whole_end
      · rcases attained with heq | ⟨b, hb, heq⟩
        · exact heq ▸ hstop
        · exact heq ▸ (hdel b (by simp [split, hb])).whole_start
    · intro t hle hlt
      have hnext : t < endTime e ∧ t < found.nextEarliest := by
        split_ifs at hlt <;> omega
      refine ⟨hmem, ⟨covers.1.trans hle, hnext.1⟩, ?_⟩
      intro other hother hcovers
      -- an entry of a higher stack level would have ended the search or bounded `nextEarliest`
      rw [split] at hother hsort
      rcases mem_append.mp hother with hbef | hafter
      · have hearliest := first other hbef (lt_of_le_of_lt hle hcovers.2)
        have hstarted := hcovers.1
        omega
      · rcases mem_cons.mp hafter with rfl | hlater
        · exact le_rfl
        · exact rel_of_pairwise_cons (pairwise_append.mp hsort).2.1 hlater

lemma elapsedSeconds_whole (m n : ℤ) :
    elapsedSeconds (ticksPerSecond * m) (ticksPerSecond * n) = clampInt32 (m - n) := by
  unfold elapsedSeconds durationSeconds
  rw [← Int.mul_sub, Int.mul_tdiv_cancel_left _ (by decide)]

variable {t : ℤ}

lemma elapsedSeconds_self : elapsedSeconds t t = 0 := by
  simp [elapsedSeconds, durationSeconds, clampInt32, int32Max]

lemma elapsedSeconds_lt {s : ℤ} (hnow : WholeSeconds now) (hs : WholeSeconds s)
    (ht : WholeSeconds t) (hle : now ≤ s) (hlt : s < t) (hwindow : t - now < seconds (2 ^ 31)) :
    elapsedSeconds s now < elapsedSeconds t now := by
  obtain ⟨n, rfl⟩ := hnow
  obtain ⟨a, rfl⟩ := hs
  obtain ⟨b, rfl⟩ := ht
  rw [elapsedSeconds_whole, elapsedSeconds_whole]
  unfold seconds ticksPerSecond at *
  rw [clampInt32_of_le (by omega), clampInt32_of_le (by omega)]
  unfold int32Max
  omega

lemma elapsedSeconds_le {s : ℤ} (hnow : WholeSeconds now) (hs : WholeSeconds s)
    (ht : WholeSeconds t) (hle : now ≤ s) (hst : s ≤ t) (hwindow : t - now < seconds (2 ^ 31)) :
    elapsedSeconds s now ≤ elapsedSeconds t now := by
  rcases hst.eq_or_lt with rfl | hlt
  · exact le_rfl
  · exact (elapsedSeconds_lt hnow hs ht hle hlt hwindow).le

/-- The whole loop, from any time that it looks at. -/
theorem scan_spec (hdel : ∀ e ∈ periods, Delivered now stop e)
    (hsort : periods.Pairwise fun a b => stackLevel b ≤ stackLevel a)
    (hnow : WholeSeconds now) (hstop : WholeSeconds stop) (hwindow : stop - now < seconds (2 ^ 31))
    (hwhole : WholeSeconds current) (hle : now ≤ current) (hcur : current < stop) :
    ∃ profile : List P, scan periods now stop current = some profile ∧
      From startPeriod (elapsedSeconds current now) profile ∧
      ∀ t, WholeSeconds t → current ≤ t → t < stop →
        ∃ choice s, HasPriority periods t choice ∧
          inForce startPeriod profile (elapsedSeconds t now) = some (periodFor s choice) := by
  induction hn : (stop - current).toNat using Nat.strong_induction_on generalizing current with
  | _ n ih =>
    obtain ⟨choice, next, hstep, hlt, hnext, hwholeNext, hholds⟩ :=
      scanStep_spec hdel hsort hstop hcur
    have hstart := startPeriod_periodFor (P := P) (elapsedSeconds current now) choice
    have helapsed := elapsedSeconds_lt hnow hwhole hwholeNext hle hlt (by omega)
    rw [scan]
    split
    · rename_i hnone
      exact absurd (hstep.symm.trans hnone) (by simp)
    rename_i p next' hsome
    obtain ⟨rfl, rfl⟩ : periodFor (elapsedSeconds current now) choice = p ∧ next = next' := by
      simpa using hstep.symm.trans hsome
    split_ifs with hmore
    · obtain ⟨rest, hscan, hfrom, hrest⟩ := ih _ (by omega) hwholeNext (by omega) hmore rfl
      refine ⟨_, by rw [hscan]; rfl, hfrom.cons hstart helapsed, ?_⟩
      intro t ht hcurrentt htstop
      rcases lt_or_ge t next with hbef | hafter
      · refine ⟨choice, _, hholds t hcurrentt hbef, inForce_cons_of_lt ?_ ?_⟩
        · rw [hstart]
          exact elapsedSeconds_le hnow hwhole ht hle hcurrentt (by omega)
        · intro r hr
          have hfirst := elapsedSeconds_lt hnow ht hwholeNext (hle.trans hcurrentt) hbef
            (by omega)
          exact lt_of_lt_of_le hfirst (hfrom.le hr)
      · obtain ⟨choice', s, hprio, hin⟩ := hrest t ht hafter htstop
        exact ⟨choice', s, hprio, inForce_cons_of_some hin⟩
    · refine ⟨_, rfl, From.singleton hstart, ?_⟩
      intro t ht hcurrentt htstop
      refine ⟨choice, _, hholds t hcurrentt (by omega), inForce_cons_of_lt ?_ (by simp)⟩
      rw [hstart]
      exact elapsedSeconds_le hnow hwhole ht hle hcurrentt (by omega)

/-- The search at a time at which the window is over takes the first entry. -/
theorem scan_of_ended {e : E} (hstart : start e ≤ stop) (hend : stop < endTime e) :
    scan (e :: rest) stop stop stop = some [(intermediate 0 e : P)] := by
  have hfound : findSchedule stop (e :: rest) ⟨stop, stop, none⟩ = ⟨start e, stop, some e⟩ := by
    simp [findSchedule, hstart, hend]
  have hstep : scanStep (e :: rest) stop stop stop = some ((intermediate 0 e : P), stop) := by
    simp only [scanStep, hfound, elapsedSeconds_self]
    rw [if_neg (by omega)]
    simp only [map_some]
    rw [if_neg (by omega)]
  rw [scan]
  split
  · rename_i hnone
    exact absurd (hstep.symm.trans hnone) (by simp)
  · rename_i p next hsome
    obtain ⟨rfl, rfl⟩ : intermediate 0 e = p ∧ stop = next := by
      simpa using hstep.symm.trans hsome
    rw [dif_neg (lt_irrefl _)]

structure FollowsStack (periods : List E) (now stop : ℤ) (profile : List P) : Prop where
  first : profile.head?.map startPeriod = some 0
  increasing : profile.Pairwise fun p q => startPeriod p < startPeriod q
  /-- At every second the period in force comes from the entry that has priority. -/
  priority : ∀ t, WholeSeconds t → now ≤ t → t < stop →
    ∃ choice s, HasPriority periods t choice ∧
      inForce startPeriod profile (elapsedSeconds t now) = some (periodFor s choice)

variable {profile : List P}

lemma FollowsStack.timeline (h : FollowsStack periods now stop profile) :
    From startPeriod 0 profile := ⟨h.first, h.increasing⟩

lemma HasPriority.of_perm {other : List E} {choice : Option E} (hperm : other.Perm periods)
    (h : HasPriority other t choice) : HasPriority periods t choice := by
  cases choice with
  | none => exact fun e he => h e (hperm.mem_iff.mpr he)
  | some => exact ⟨hperm.mem_iff.mp h.1, h.2.1, fun e' he' => h.2.2 e' (hperm.mem_iff.mpr he')⟩

/-- `generate_profile_from_periods` never uses an unset entry, and follows the stack. -/
theorem generateProfileFromPeriods_followsStack {std : StdSort}
    (hdel : ∀ e ∈ periods, Delivered now stop e) (hnow : WholeSeconds now)
    (hstop : WholeSeconds stop) (hle : now ≤ stop) (hwindow : stop - now < seconds (2 ^ 31)) :
    ∃ profile : List P, generateProfileFromPeriods std periods now stop = some profile ∧
      FollowsStack periods now stop profile := by
  unfold generateProfileFromPeriods
  rw [hnow.floor_eq, hstop.floor_eq]
  split_ifs with hempty
  · obtain rfl : periods = [] := by simpa using hempty
    refine ⟨_, rfl, by simp, pairwise_singleton _ _, ?_⟩
    intro t ht hnowt htstop
    refine ⟨none, 0, by simp [HasPriority], inForce_cons_of_lt ?_ (by simp)⟩
    rw [startPeriod_default, ← elapsedSeconds_self]
    exact elapsedSeconds_le hnow hnow ht le_rfl hnowt (by omega)
  · have hperm := std.perm (fun a b => decide (stackLevel a > stackLevel b)) periods
    have hsort := std.sorted (fun a b => decide (stackLevel a > stackLevel b)) periods
      (by simpa using strictWeakOrder_key fun e : E => -stackLevel e)
    generalize std.sort (fun a b => decide (stackLevel a > stackLevel b)) periods = sorted
      at hperm hsort ⊢
    have hsort' : sorted.Pairwise fun a b => stackLevel b ≤ stackLevel a := by
      simpa using hsort
    have hdel' : ∀ e ∈ sorted, Delivered now stop e := fun e he =>
      hdel e (hperm.mem_iff.mp he)
    rcases hle.eq_or_lt with rfl | hlt
    · -- the window is empty: the loop runs once and takes the first entry
      cases sorted with
      | nil =>
        have hnil := hperm.symm.eq_nil
        simp [hnil] at hempty
      | cons e =>
        have he := hdel' e mem_cons_self
        refine ⟨_, scan_of_ended he.start_le he.not_expired, by simp, pairwise_singleton _ _, ?_⟩
        intro t _ hnowt htstop
        omega
    · obtain ⟨profile, hscan, hfrom, hholds⟩ :=
        scan_spec (P := P) hdel' hsort' hnow hstop hwindow hnow le_rfl hlt
      rw [elapsedSeconds_self] at hfrom
      refine ⟨profile, hscan, hfrom.head, hfrom.increasing, ?_⟩
      intro t ht hnowt htstop
      obtain ⟨choice, s, hprio, hin⟩ := hholds t ht hnowt htstop
      exact ⟨choice, s, hprio.of_perm hperm, hin⟩

lemma generateProfileFromPeriods_floor {std : StdSort} {inNow inEnd : ℤ} :
    generateProfileFromPeriods std periods (floorSeconds inNow) (floorSeconds inEnd) =
      (generateProfileFromPeriods std periods inNow inEnd : Option (List P)) := by
  unfold generateProfileFromPeriods
  rw [wholeSeconds_floor.floor_eq, wholeSeconds_floor.floor_eq]

lemma findSchedule_chosen_mem {choice : Choice E} {e : E}
    (h : (findSchedule current periods choice).chosen = some e) :
    e ∈ periods ∨ choice.chosen = some e := by
  induction periods generalizing choice with
  | nil => exact .inr h
  | cons schedule rest ih =>
    unfold findSchedule at h
    split_ifs at h
    · obtain rfl := some.inj h
      exact .inl mem_cons_self
    · rcases ih h with hrest | hsched
      · exact .inl (mem_cons_of_mem _ hrest)
      · obtain rfl := some.inj hsched
        exact .inl mem_cons_self
    · exact (ih h).imp_left (mem_cons_of_mem _)
    · exact (ih h).imp_left (mem_cons_of_mem _)

/-- A period of a generated profile: it starts within the window and has the values of one of
the entries or none. -/
structure Rendered (periods : List E) (now stop first : ℤ) (p : P) : Prop where
  exists_choice : ∃ c choice, (c = first ∨ first < c ∧ c < stop) ∧
    (∀ e ∈ choice, e ∈ periods) ∧ p = periodFor (elapsedSeconds c now) choice

lemma scanStep_rendered {p : P} {next : ℤ}
    (h : scanStep periods now stop current = some (p, next)) :
    ∃ choice : Option E, (∀ e ∈ choice, e ∈ periods) ∧
      p = periodFor (elapsedSeconds current now) choice := by
  unfold scanStep at h
  dsimp only at h
  split_ifs at h
  · simp only [some.injEq, Prod.mk.injEq] at h
    exact ⟨none, by simp, h.1.symm⟩
  · obtain ⟨e, he, heq⟩ := map_eq_some_iff.mp h
    refine ⟨some e, ?_, (congrArg Prod.fst heq).symm⟩
    rintro _ ⟨⟩
    exact (findSchedule_chosen_mem he).resolve_right (by simp)

lemma scan_rendered (h : scan periods now stop current = some profile) :
    ∀ p ∈ profile, Rendered periods now stop current p := by
  fun_induction scan periods now stop current generalizing profile with
  | case1 => simp at h
  | case2 current p next hstep hnext ih =>
    obtain ⟨rest, hrest, rfl⟩ := map_eq_some_iff.mp h
    intro q hq
    rcases mem_cons.mp hq with rfl | hmem
    · obtain ⟨choice, hmem, hp⟩ := scanStep_rendered hstep
      exact ⟨current, choice, .inl rfl, hmem, hp⟩
    · obtain ⟨c, choice, hc, hchoice, hq⟩ := (ih hrest q hmem).exists_choice
      have hprogress := scanStep_progress hstep hnext
      refine ⟨c, choice, .inr ?_, hchoice, hq⟩
      rcases hc with rfl | ⟨hlater, hlt⟩
      · exact ⟨hprogress, hnext⟩
      · exact ⟨hprogress.trans hlater, hlt⟩
  | case3 current p next hstep =>
    obtain rfl := some.inj h
    intro q hq
    obtain rfl := mem_singleton.mp hq
    obtain ⟨choice, hmem, hp⟩ := scanStep_rendered hstep
    exact ⟨current, choice, .inl rfl, hmem, hp⟩

lemma generateProfileFromPeriods_rendered {std : StdSort} {inNow inEnd : ℤ}
    (h : generateProfileFromPeriods std periods inNow inEnd = some profile) :
    ∀ p ∈ profile, Rendered periods (floorSeconds inNow) (floorSeconds inEnd) (floorSeconds inNow)
      p := by
  unfold generateProfileFromPeriods at h
  split_ifs at h
  · obtain rfl := some.inj h
    intro p hp
    obtain rfl := mem_singleton.mp hp
    exact ⟨floorSeconds inNow, none, .inl rfl, by simp, by rw [elapsedSeconds_self]; rfl⟩
  · intro p hp
    obtain ⟨c, choice, hc, hchoice, heq⟩ := (scan_rendered h p hp).exists_choice
    refine ⟨c, choice, hc, ?_, heq⟩
    exact fun e he => (std.perm _ _).mem_iff.mp (hchoice e he)

lemma durationSeconds_lt {d n : ℤ} (hn : 0 < n) (h : d < seconds n) : durationSeconds d < n := by
  unfold seconds ticksPerSecond at h
  unfold durationSeconds ticksPerSecond
  rw [Int.tdiv_eq_ediv, show Int.sign 1000000000 = 1 from rfl]
  split_ifs <;> omega

lemma Rendered.startPeriod_lt {p : P} (h : Rendered periods now stop now p)
    (hwindow : stop - now ≤ seconds int32Max) : startPeriod p < int32Max := by
  obtain ⟨c, choice, hc, -, rfl⟩ := h.exists_choice
  rw [startPeriod_periodFor]
  rcases hc with rfl | ⟨hlater, hlt⟩
  · rw [elapsedSeconds_self]
    decide
  · have hdur : durationSeconds (c - now) < int32Max :=
      durationSeconds_lt (by decide) (by omega)
    have hnonneg : 0 ≤ durationSeconds (c - now) := Int.tdiv_nonneg (by omega) (by decide)
    rw [elapsedSeconds, clampInt32_of_le (by omega)]
    unfold int32Max at *
    omega

/-- The period without a limit is in force exactly where no entry applies. The condition leaves
out entries whose own values spell that period. -/
def NoLimitExactly (periods : List E) (now stop : ℤ) (profile : List P) : Prop :=
  ∀ t p, WholeSeconds t → now ≤ t → t < stop →
    inForce startPeriod profile (elapsedSeconds t now) = some p →
    (∀ e ∈ periods, Covers e t →
      intermediate (startPeriod p) e ≠ defaultPeriod (startPeriod p)) →
    (p = defaultPeriod (startPeriod p) ↔ ∀ e ∈ periods, ¬Covers e t)

lemma FollowsStack.noLimitExactly (h : FollowsStack periods now stop profile) :
    NoLimitExactly periods now stop profile := by
  intro t p ht hnowt htstop hin hspelled
  obtain ⟨choice, s, hprio, hin'⟩ := h.priority t ht hnowt htstop
  obtain rfl := some.inj (hin.symm.trans hin')
  rw [startPeriod_periodFor] at hspelled ⊢
  cases choice with
  | none => exact iff_of_true rfl hprio
  | some e =>
    refine iff_of_false (hspelled e hprio.1 hprio.2.1) ?_
    intro hnone
    exact hnone e hprio.1 hprio.2.1

end Scan

/-- For every order in which the entries are given and every way to sort them, both versions
of `generate_profile_from_periods` return a profile that starts at 0, has strictly increasing
periods and follows the stack at every second of the window. -/
theorem generated_profile_has_stack_priority (std : StdSort) (now stop : ℤ)
    (hnow : WholeSeconds now) (hstop : WholeSeconds stop) (hle : now ≤ stop)
    (hwindow : stop - now < seconds (2 ^ 31)) :
    (∀ periods : List V2.PeriodEntry, (∀ e ∈ periods, Delivered now stop e) →
      ∃ profile, V2.generateProfileFromPeriods std periods now stop = some profile ∧
        FollowsStack periods now stop profile ∧ NoLimitExactly periods now stop profile) ∧
    (∀ periods : List V16.PeriodEntry, (∀ e ∈ periods, Delivered now stop e) →
      ∃ profile, V16.generateProfileFromPeriods std periods now stop = some profile ∧
        FollowsStack periods now stop profile ∧ NoLimitExactly periods now stop profile) := by
  constructor
  all_goals
    intro periods hdel
    obtain ⟨profile, hgen, hfol⟩ :=
      generateProfileFromPeriods_followsStack hdel hnow hstop hle hwindow
    exact ⟨profile, hgen, hfol, hfol.noLimitExactly⟩

def V16.shortEntry : V16.PeriodEntry :=
  { start := 0, endTime := seconds 60, limit := 16, numberPhases := some 3, stackLevel := 2,
    chargingRateUnit := .A, minChargingRate := none }

def V16.longEntry : V16.PeriodEntry :=
  { start := seconds (-10), endTime := seconds 600, limit := 32, numberPhases := some 3,
    stackLevel := 1, chargingRateUnit := .A, minChargingRate := none }

/-- Two overlapping profiles in a window of two minutes. -/
theorem overlapping_entries_have_stack_priority :
    ∃ profile,
      V16.generateProfileFromPeriods StdSort.insertion [V16.longEntry, V16.shortEntry] 0
        (seconds 120) = some profile ∧
      FollowsStack [V16.longEntry, V16.shortEntry] 0 (seconds 120) profile ∧
      NoLimitExactly [V16.longEntry, V16.shortEntry] 0 (seconds 120) profile := by
  have hdel : ∀ e ∈ [V16.longEntry, V16.shortEntry], Delivered 0 (seconds 120) e := by
    intro e he
    rcases List.mem_pair.mp he with rfl | rfl
    all_goals exact ⟨by decide, by decide, by decide, by decide, by decide⟩
  exact (generated_profile_has_stack_priority StdSort.insertion 0 (seconds 120) (by decide)
    (by decide) (by decide) (by decide)).2 _ hdel

end Everest.SmartCharging
