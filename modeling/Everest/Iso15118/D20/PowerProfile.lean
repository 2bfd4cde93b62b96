import Mathlib.Algebra.Order.Field.Rat
import Mathlib.Data.Fin.VecNotation
import Mathlib.Data.List.FinRange

namespace Everest.Iso15118.D20

/-- The rational numbers of the messages are taken as exact. -/
structure PowerScheduleEntry where
  duration : ℕ
  power : ℚ
  powerL2 : Option ℚ
  powerL3 : Option ℚ

inductive Progress
  | start
  | stop
  | standby
  | scheduleRenegotiation

inductive ControlMode
  | dynamic
  | scheduled (selectedSchedule : ℕ)

structure PowerProfile where
  timeAnchor : ℕ
  controlMode : ControlMode
  entries : List PowerScheduleEntry

structure PowerDeliveryRequest where
  chargeProgress : Progress
  powerProfile : Option PowerProfile

inductive ResponseCode
  | failedScheduleSelectionInvalid
  | failedEVPowerProfileInvalid

structure Entry where
  durationS : ℕ := 0
  powerW : ℚ := 0
  phasePowerW : Option (Fin 3 → ℚ) := none

structure PowerTimeline where
  timeAnchorS : ℕ := 0
  entries : List Entry := []

structure OfferedSchedule where
  charge : PowerTimeline
  discharge : PowerTimeline

structure Session where
  isThreePhase : Bool
  offeredSchedules : ℕ → Option OfferedSchedule

def Entry.phases (entry : Entry) : Fin 3 → ℚ :=
  entry.phasePowerW.getD fun _ => entry.powerW / 3

def Entry.beyond (compare : ℚ → ℚ → Bool) (demand limit : Entry) : Bool :=
  if demand.phasePowerW.isNone && limit.phasePowerW.isNone then compare demand.powerW limit.powerW
  else (List.finRange 3).any fun i => compare (demand.phases i) (limit.phases i)

def Entry.exceeds : Entry → Entry → Bool := beyond (· > ·)

def Entry.fallsBelow : Entry → Entry → Bool := beyond (· < ·)

def Entry.ofMessage (threePhase : Bool) (entry : PowerScheduleEntry) : Entry :=
  if !threePhase || entry.powerL2.isNone && entry.powerL3.isNone then
    { durationS := entry.duration, powerW := entry.power }
  else
    let phases := ![entry.power, entry.powerL2.getD 0, entry.powerL3.getD 0]
    ⟨entry.duration, phases 0 + phases 1 + phases 2, some phases⟩

def PowerTimeline.ofMessage (timeAnchorS : ℕ) (entries : List PowerScheduleEntry)
    (threePhase : Bool) : PowerTimeline :=
  ⟨timeAnchorS, entries.map (Entry.ofMessage threePhase)⟩

def PowerTimeline.violatedFrom (timeline : PowerTimeline) (startS endS : ℕ)
    (violates : Entry → Bool) : ℕ → List Entry → Bool
  | slotStart, [] => (startS < timeline.timeAnchorS || endS > slotStart) && violates {}
  | slotStart, entry :: entries =>
    startS < slotStart + entry.durationS && slotStart < endS && violates entry ||
      violatedFrom timeline startS endS violates (slotStart + entry.durationS) entries

def PowerTimeline.violatedBy (timeline : PowerTimeline) (startS endS : ℕ)
    (violates : Entry → Bool) : Bool :=
  if startS ≥ endS then false
  else timeline.violatedFrom startS endS violates timeline.timeAnchorS timeline.entries

def slots : ℕ → List Entry → List (ℕ × Entry)
  | _, [] => []
  | start, entry :: entries => (start, entry) :: slots (start + entry.durationS) entries

def clockTolerance (entry : Entry) : ℕ :=
  if entry.durationS > 0 then min 5 ((entry.durationS - 1) / 2) else 0

def powerProfileError (req : PowerDeliveryRequest) (session : Session) : Option ResponseCode :=
  match req.chargeProgress, req.powerProfile with
  | .start, some ⟨timeAnchor, .scheduled selectedSchedule, entries⟩ =>
    match session.offeredSchedules selectedSchedule with
    | none => some .failedScheduleSelectionInvalid
    | some ⟨charge, discharge⟩ =>
      let profile := PowerTimeline.ofMessage (timeAnchor / 1000000) entries session.isThreePhase
      let invalid := (slots profile.timeAnchorS profile.entries).any fun (entryStartS, entry) =>
        let checkedStartS := entryStartS + clockTolerance entry
        let checkedEndS := entryStartS + entry.durationS - clockTolerance entry
        charge.violatedBy checkedStartS checkedEndS entry.exceeds ||
          discharge.violatedBy checkedStartS checkedEndS entry.fallsBelow
      if invalid then some .failedEVPowerProfileInvalid else none
  | _, _ => none

def appliedFrom : ℕ → List Entry → ℕ → Entry
  | _, [], _ => {}
  | start, entry :: entries, t =>
    if t < start + entry.durationS then entry else appliedFrom (start + entry.durationS) entries t

/-- The entry at a second, where time without one has zero power. -/
def PowerTimeline.appliedAt (timeline : PowerTimeline) (t : ℕ) : Entry :=
  if t < timeline.timeAnchorS then {} else appliedFrom timeline.timeAnchorS timeline.entries t

def comparedPowers (demand limit : Entry) : List (ℚ × ℚ) :=
  if demand.phasePowerW.isNone ∧ limit.phasePowerW.isNone then [(demand.powerW, limit.powerW)]
  else (List.finRange 3).map fun i => (demand.phases i, limit.phases i)

lemma beyond_iff {compare : ℚ → ℚ → Bool} {demand limit : Entry} :
    demand.beyond compare limit ↔ ∃ p ∈ comparedPowers demand limit, compare p.1 p.2 := by
  unfold Entry.beyond comparedPowers
  simp only [Bool.and_eq_true]
  split_ifs <;> simp

variable {timeline : PowerTimeline} {startS endS : ℕ} {violates : Entry → Bool}

lemma violatedFrom_iff (hchecked : startS < endS) {entries : List Entry}
    (hpos : ∀ entry ∈ entries, 0 < entry.durationS) (slotStart : ℕ) :
    timeline.violatedFrom startS endS violates slotStart entries ↔
      startS < timeline.timeAnchorS ∧ violates {} ∨
        ∃ t, startS ≤ t ∧ t < endS ∧ slotStart ≤ t ∧
          violates (appliedFrom slotStart entries t) := by
  induction entries generalizing slotStart with
  | nil =>
    simp only [PowerTimeline.violatedFrom, appliedFrom, Bool.and_eq_true, Bool.or_eq_true,
      decide_eq_true_eq]
    constructor
    · rintro ⟨hbefore | hafter, hv⟩
      · exact .inl ⟨hbefore, hv⟩
      · exact .inr ⟨max startS slotStart, by omega, by omega, by omega, hv⟩
    · rintro (⟨hbefore, hv⟩ | ⟨t, _, _, _, hv⟩)
      · exact ⟨.inl hbefore, hv⟩
      · exact ⟨.inr (by omega), hv⟩
  | cons entry entries ih =>
    have hdur := hpos entry List.mem_cons_self
    simp only [PowerTimeline.violatedFrom, appliedFrom, Bool.or_eq_true, Bool.and_eq_true,
      decide_eq_true_eq, ih (List.forall_mem_of_forall_mem_cons hpos)]
    constructor
    · rintro (⟨⟨_, _⟩, hv⟩ | hbefore | ⟨t, hs, he, hslot, hv⟩)
      · -- The first second that the slot and the checked time share.
        refine .inr ⟨max startS slotStart, by omega, by omega, by omega, ?_⟩
        rwa [if_pos (by omega)]
      · exact .inl hbefore
      · refine .inr ⟨t, hs, he, by omega, ?_⟩
        rwa [if_neg (by omega)]
    · rintro (hbefore | ⟨t, hs, he, hslot, hv⟩)
      · exact .inr (.inl hbefore)
      · split_ifs at hv with ht
        · exact .inl ⟨⟨by omega, by omega⟩, hv⟩
        · exact .inr (.inr ⟨t, hs, he, by omega, hv⟩)

lemma violatedBy_iff (hpos : ∀ entry ∈ timeline.entries, 0 < entry.durationS) :
    timeline.violatedBy startS endS violates ↔
      ∃ t, startS ≤ t ∧ t < endS ∧ violates (timeline.appliedAt t) := by
  unfold PowerTimeline.violatedBy PowerTimeline.appliedAt
  split_ifs with hchecked
  · exact iff_of_false nofun fun ⟨t, _, _, _⟩ => by omega
  · rw [violatedFrom_iff (by omega) hpos]
    constructor
    · rintro (⟨hbefore, hv⟩ | ⟨t, hs, he, hslot, hv⟩)
      · exact ⟨startS, by omega, by omega, by rwa [if_pos hbefore]⟩
      · exact ⟨t, hs, he, by rwa [if_neg (by omega)]⟩
    · rintro ⟨t, hs, he, hv⟩
      split_ifs at hv with ht
      · exact .inl ⟨by omega, hv⟩
      · exact .inr ⟨t, hs, he, by omega, hv⟩

/-- A scheduled profile is rejected exactly for a second of an entry, away from its ends by the
tolerance, at which a compared power is beyond what is offered. -/
theorem scheduled_profile_rejected_iff (session : Session) (timeAnchor selectedSchedule : ℕ)
    (entries : List PowerScheduleEntry)
    (charge discharge : { timeline : PowerTimeline // ∀ entry ∈ timeline.entries,
      0 < entry.durationS }) :
    let offeredSchedules := Function.update session.offeredSchedules selectedSchedule
      (some ⟨charge, discharge⟩)
    let profile := PowerTimeline.ofMessage (timeAnchor / 1000000) entries session.isThreePhase
    (powerProfileError ⟨.start, some ⟨timeAnchor, .scheduled selectedSchedule, entries⟩⟩
      { session with offeredSchedules }).isSome ↔
      ∃ slot ∈ slots profile.timeAnchorS profile.entries, ∃ t,
        slot.1 + clockTolerance slot.2 ≤ t ∧
        t + clockTolerance slot.2 < slot.1 + slot.2.durationS ∧
        ((∃ p ∈ comparedPowers slot.2 (charge.1.appliedAt t), p.1 > p.2) ∨
          ∃ p ∈ comparedPowers slot.2 (discharge.1.appliedAt t), p.1 < p.2) := by
  intro offeredSchedules profile
  simp only [powerProfileError, offeredSchedules, Function.update_self, Option.isSome_ite]
  simp only [List.any_eq_true, Bool.or_eq_true, violatedBy_iff charge.2, violatedBy_iff discharge.2,
    Entry.exceeds, Entry.fallsBelow, beyond_iff, decide_eq_true_eq, Nat.lt_sub_iff_add_lt,
    and_or_left, exists_or]
  rfl

def offeredCharge : { timeline : PowerTimeline // ∀ entry ∈ timeline.entries,
    0 < entry.durationS } :=
  ⟨⟨0, [⟨60, 11000, none⟩, ⟨60, 5000, none⟩]⟩, by simp⟩

def offeredDischarge : { timeline : PowerTimeline // ∀ entry ∈ timeline.entries,
    0 < entry.durationS } :=
  ⟨⟨0, [⟨120, 0, none⟩]⟩, by simp⟩

def lateProfile (first second : ℕ) : PowerDeliveryRequest :=
  ⟨.start, some ⟨0, .scheduled 1, [⟨first, 11000, none, none⟩, ⟨second, 5000, none, none⟩]⟩⟩

/-- Going down four seconds late is tolerated, ten seconds late is not. -/
theorem late_profile_rejected :
    let session : Session :=
      ⟨false, Function.update (fun _ => none) 1 (some ⟨offeredCharge, offeredDischarge⟩)⟩
    (powerProfileError (lateProfile 64 56) session).isSome = false ∧
      (powerProfileError (lateProfile 70 50) session).isSome = true := by
  refine ⟨by decide +kernel, ?_⟩
  refine (scheduled_profile_rejected_iff ⟨false, fun _ => none⟩ 0 1 _ offeredCharge
    offeredDischarge).2 ⟨(0, ⟨70, 11000, none⟩), List.mem_cons_self, 62, by decide, by decide, ?_⟩
  exact .inl ⟨(11000, 5000), List.mem_cons_self, by decide +kernel⟩

end Everest.Iso15118.D20
