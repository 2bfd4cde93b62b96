import Everest.SmartCharging.Periods

/- `calculate_start`, `calculate_profile_entry` and `calculate_all_profiles` place every period of
a profile on the time axis. The two protocol versions agree on this part; they differ in the
values an entry carries, so that the functions here take the fields that place a profile in
time and leave the entry to the caller. -/

namespace Everest.SmartCharging

inductive ChargingProfileKind
  | absolute
  | recurring
  | relative
  | dynamic
  deriving DecidableEq, Repr

inductive RecurrencyKind
  | daily
  | weekly
  deriving DecidableEq, Repr

def RecurrencyKind.secondsToGoForward : RecurrencyKind → ℤ
  | .daily => 24 * 3600
  | .weekly => 86400 * 7

/-- The fields of a charging profile that decide when its periods apply. -/
structure ProfileTimes where
  chargingProfileKind : ChargingProfileKind
  recurrencyKind : Option RecurrencyKind
  validFrom : Option ℤ
  validTo : Option ℤ
  startSchedule : Option ℤ
  duration : Option ℤ
  /-- The `startPeriod` of each period of the schedule. -/
  startPeriods : List ℤ

structure Slot where
  start : ℤ
  endTime : ℤ
  deriving DecidableEq, Repr

/-- The starts of a recurring schedule from `start` up to the end of the window. -/
def occurrences (kind : RecurrencyKind) (stop start : ℤ) : List ℤ :=
  if _h : start ≤ stop then start :: occurrences kind stop (start + seconds kind.secondsToGoForward)
  else []
termination_by (stop + 1 - start).toNat
decreasing_by
  have : 0 < seconds kind.secondsToGoForward := by cases kind <;> decide
  omega

/-- The seconds since the latest occurrence of a recurring schedule. The remainder takes the
sign of the elapsed time, which is negative before the first occurrence. -/
def secondsToGoBack (kind : RecurrencyKind) (now startSchedule : ℤ) : ℤ :=
  let back := (durationSeconds (now - startSchedule)).tmod kind.secondsToGoForward
  if back < 0 then back + kind.secondsToGoForward else back

def calculateStart (inNow inEnd : ℤ) (inSessionStart : Option ℤ) (profile : ProfileTimes) :
    List ℤ :=
  let start := floorSeconds inNow
  match profile.chargingProfileKind with
  | .absolute =>
    match profile.startSchedule, profile.validFrom with
    | some startSchedule, _ => [floorSeconds startSchedule]
    -- an absolute profile should have a startSchedule: use validFrom where available
    | none, some validFrom => [floorSeconds validFrom]
    | none, none => [floorSeconds start]
  | .recurring =>
    match profile.recurrencyKind, profile.startSchedule with
    | some kind, some startSchedule =>
      occurrences kind (floorSeconds inEnd)
        (start - seconds (secondsToGoBack kind start (floorSeconds startSchedule)))
    | _, _ => []
  | .relative =>
    match inSessionStart with
    | some sessionStart => [floorSeconds sessionStart]
    -- if there isn't a session start then assume the session starts now
    | none => [start]
  | .dynamic => [floorSeconds start]

/-- The time from the start of the schedule to the end of a period: the sooner of forever, the
next period, the duration, the next recurrence and `validTo`. -/
def periodDuration (profile : ProfileTimes) (nextPeriod nextOccurrence : Option ℤ)
    (entryStart : ℤ) : ℤ :=
  let duration := nextPeriod.getD int32Max
  let duration := match profile.duration with
    | some d => if d < duration then d else duration
    | none => duration
  let duration := match nextOccurrence with
    | some next =>
      let nextStart := clampInt32 (durationSeconds (next - entryStart))
      if nextStart < duration then nextStart else duration
    | none => duration
  match profile.validTo with
  | some validTo =>
    -- note can be negative
    let validToSeconds := clampInt32 (durationSeconds (floorSeconds validTo - entryStart))
    if validToSeconds < duration then validToSeconds else duration
  | none => duration

/-- `period_entry_t::init`, as far as it concerns time. -/
def Slot.init (inStart inDuration startPeriod : ℤ) : Slot where
  start := floorSeconds inStart + seconds startPeriod
  endTime := floorSeconds inStart + seconds inDuration

/-- `period_entry_t::validate`: the slot within the validity of the profile, if any of it is
left. -/
def Slot.validate (slot : Slot) (profile : ProfileTimes) (now : ℤ) : Option Slot :=
  let start := match profile.validFrom with
    | some validFrom =>
      -- the calculated start is before the profile is valid
      if floorSeconds validFrom > slot.start then floorSeconds validFrom else slot.start
    | none => slot.start
  if slot.endTime > start ∧ slot.endTime > now then some { slot with start } else none

def entrySlots (inNow : ℤ) (profile : ProfileTimes) (startPeriod : ℤ)
    (nextPeriod : Option ℤ) : List ℤ → List Slot
  | [] => []
  | entryStart :: later =>
    let duration := periodDuration profile nextPeriod later.head? entryStart
    ((Slot.init entryStart duration startPeriod).validate profile (floorSeconds inNow)).toList ++
      entrySlots inNow profile startPeriod nextPeriod later

/-- Whether `calculate_profile_entry` accepts the period: the first one starts at 0, any other
one after the one before it. -/
def validIndex (startPeriods : List ℤ) (index : ℕ) (startPeriod : ℤ) : Bool :=
  match index with
  | 0 => startPeriod == 0
  | previous + 1 => (startPeriods[previous]?).all fun before => before < startPeriod

def calculateProfileEntry (inNow inEnd : ℤ) (inSessionStart : Option ℤ) (profile : ProfileTimes)
    (index : ℕ) : List Slot :=
  match profile.startPeriods[index]? with
  | none => []
  | some startPeriod =>
    if validIndex profile.startPeriods index startPeriod then
      entrySlots inNow profile startPeriod profile.startPeriods[index + 1]?
        (calculateStart inNow inEnd inSessionStart profile)
    else []

def WholeSeconds (t : ℤ) : Prop := ticksPerSecond ∣ t

instance (t : ℤ) : Decidable (WholeSeconds t) := inferInstanceAs (Decidable (_ ∣ _))

lemma wholeSeconds_seconds {n : ℤ} : WholeSeconds (seconds n) := Int.dvd_mul_left _ _

lemma wholeSeconds_floor {t : ℤ} : WholeSeconds (floorSeconds t) := wholeSeconds_seconds

variable {s t inNow inEnd : ℤ} {slot : Slot} {profile : ProfileTimes}

lemma WholeSeconds.add (hs : WholeSeconds s) (ht : WholeSeconds t) :
    WholeSeconds (s + t) := Int.dvd_add hs ht

lemma WholeSeconds.floor_eq (ht : WholeSeconds t) : floorSeconds t = t :=
  Int.ediv_mul_cancel ht

lemma floorSeconds_mono (h : s ≤ t) : floorSeconds s ≤ floorSeconds t := by
  unfold floorSeconds seconds ticksPerSecond
  omega

lemma WholeSeconds.le_floor (hs : WholeSeconds s) (h : s ≤ t) : s ≤ floorSeconds t := by
  obtain ⟨n, rfl⟩ := hs
  unfold floorSeconds seconds ticksPerSecond at *
  omega

/-- What the code relies on of a slot that it keeps. -/
structure Slot.Delivered (inNow : ℤ) (slot : Slot) : Prop where
  start_lt : slot.start < slot.endTime
  not_expired : floorSeconds inNow < slot.endTime
  whole_start : WholeSeconds slot.start
  whole_end : WholeSeconds slot.endTime

lemma Slot.validate_delivered {result : Slot} (hstart : WholeSeconds slot.start)
    (hend : WholeSeconds slot.endTime)
    (h : slot.validate profile (floorSeconds inNow) = some result) : result.Delivered inNow := by
  unfold Slot.validate at h
  dsimp only at h
  split_ifs at h with hvalid
  obtain rfl := Option.some.inj h
  refine ⟨hvalid.1, hvalid.2, ?_, hend⟩
  split
  · split_ifs
    · exact wholeSeconds_floor
    · exact hstart
  · exact hstart

lemma entrySlots_delivered {startPeriod : ℤ} {nextPeriod : Option ℤ} {starts : List ℤ}
    (h : slot ∈ entrySlots inNow profile startPeriod nextPeriod starts) : slot.Delivered inNow := by
  induction starts with
  | nil => cases h
  | cons entryStart later ih =>
    unfold entrySlots at h
    rcases List.mem_append.mp h with hhere | hlater
    · refine Slot.validate_delivered ?_ ?_ (Option.mem_toList.mp hhere)
      all_goals exact wholeSeconds_floor.add wholeSeconds_seconds
    · exact ih hlater

lemma calculateProfileEntry_delivered {inSessionStart : Option ℤ} {index : ℕ}
    (h : slot ∈ calculateProfileEntry inNow inEnd inSessionStart profile index) :
    slot.Delivered inNow := by
  unfold calculateProfileEntry at h
  split at h
  · cases h
  · split_ifs at h
    · exact entrySlots_delivered h
    · cases h

structure Delivered {E P : Type} [PeriodOps P] [EntryOps E P] (now stop : ℤ) (e : E) : Prop where
  start_lt : EntryOps.start e < EntryOps.endTime e
  start_le : EntryOps.start e ≤ stop
  not_expired : now < EntryOps.endTime e
  whole_start : WholeSeconds (EntryOps.start e)
  whole_end : WholeSeconds (EntryOps.endTime e)

lemma Slot.Delivered.entry {E P : Type} [PeriodOps P] [EntryOps E P] {e : E}
    (h : slot.Delivered inNow) (hstart : EntryOps.start e = slot.start)
    (hend : EntryOps.endTime e = slot.endTime) (hle : slot.start ≤ inEnd) :
    SmartCharging.Delivered (floorSeconds inNow) (floorSeconds inEnd) e := by
  constructor
  · rw [hstart, hend]
    exact h.start_lt
  · rw [hstart]
    exact h.whole_start.le_floor hle
  · rw [hend]
    exact h.not_expired
  · rw [hstart]
    exact h.whole_start
  · rw [hend]
    exact h.whole_end

end Everest.SmartCharging
