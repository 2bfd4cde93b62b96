import Everest.SmartCharging.DynamicSchedule

/- The handlers of requests write and erase the deadlines of a profile, and the thread of a timer
pulls updates and notices expiries when they are due. Each takes the monitor of the map for one
access at a time; in between the other may do anything. The timer thread drops an id whose
profile it no longer finds without a look at the deadlines that are there by then. -/

namespace Everest.SmartCharging.V2.Store

open Runs SortedMap

structure ProfileDeadlines where
  pull : Option ℤ := none
  expire : Option ℤ := none
  deriving DecidableEq

abbrev Deadlines := SortedMap ℤ ProfileDeadlines

namespace Deadlines

variable (now : ℤ) (deadlines : Deadlines) (id : ℤ)

def pull? : Option ℤ := (deadlines.find? id).bind (·.pull)

def expire? : Option ℤ := (deadlines.find? id).bind (·.expire)

def writeDeadlines (profile : ChargingProfile) (deadlines : Deadlines) : Bool × Deadlines :=
  let pull := dynamicPullDeadline now profile
  let expire := dynamicExpiryDeadline profile
  if pull.isSome ∨ expire.isSome then
    if deadlines.find? profile.id = some ⟨pull, expire⟩ then (false, deadlines)
    else (true, deadlines.insert profile.id ⟨pull, expire⟩)
  else (deadlines.contains profile.id, deadlines.erase profile.id)

def postponePull (now next id : ℤ) (deadlines : Deadlines) : Deadlines :=
  deadlines.modify id fun entry =>
    if entry.pull.any (· ≤ now) then { entry with pull := some next } else entry

def clearExpired : Deadlines :=
  match deadlines.find? id with
  | none => deadlines
  | some entry =>
    if entry.expire.any (· ≤ now) then
      if entry.pull = none then deadlines.erase id
      else deadlines.insert id { entry with expire := none }
    else deadlines

def duePulls : List ℤ :=
  (deadlines.filter fun _ entry => entry.pull.any (· ≤ now)).keys

def dueExpiries : List ℤ :=
  (deadlines.filter fun _ entry => entry.expire.any (· ≤ now)).keys

def earlier : Option ℤ → Option ℤ → Option ℤ
  | some a, some b => some (min a b)
  | some a, none => some a
  | none, b => b

def earliestDeadline : Option ℤ :=
  deadlines.entries.foldl
    (fun earliest (_, entry) => earlier (earlier earliest entry.pull) entry.expire) none

end Deadlines

inductive DynamicProfileLookup
  | dbError
  | profile (found : Option ChargingProfile)

/-- The interval of the pulls, if the profile was found and has a positive one. -/
def DynamicProfileLookup.interval? (found : Option ChargingProfile) : Option ℤ :=
  (found.bind (·.dynUpdateInterval)).filter (0 < ·)

/-- Where the timer thread stands in `on_deadline`. -/
inductive TimerThread
  | idle
  | pulling (now : ℤ) (due : List ℤ)
  | lookedUp (now id : ℤ) (lookup : DynamicProfileLookup) (due : List ℤ)
  | dispatched (now id next : ℤ) (due : List ℤ)
  | expired (now : ℤ) (ids : List ℤ)
  | committing (now : ℤ) (ids : List ℤ)
  | rearming

structure DynamicScheduleManager where
  database : Database
  deadlines : Deadlines
  timer : TimerThread
  armed : Option ℤ

namespace DynamicScheduleManager

def rescheduleTimer (manager : DynamicScheduleManager) : DynamicScheduleManager :=
  { manager with armed := manager.deadlines.earliestDeadline }

def rebuildFromDb (now : ℤ) (database : Database) : DynamicScheduleManager :=
  let deadlines := database.foldl
    (fun deadlines row => (deadlines.writeDeadlines now row.profile.reread).2) ∅
  rescheduleTimer ⟨database, deadlines, .idle, none⟩

def lookupDynamicProfile (id : ℤ) (failed : Bool) (manager : DynamicScheduleManager) :
    DynamicProfileLookup :=
  if failed then .dbError
  else .profile (((manager.database.getChargingProfile id).map (·.profile)).filter
    (·.chargingProfileKind = .dynamic))

/-- What the timer thread does next, up to its next access to the map. The call it makes on the
way, to the database, the dispatcher or the callback, may have failed. -/
def timerStep (failed : Bool) (manager : DynamicScheduleManager) : DynamicScheduleManager :=
  match manager.timer with
  | .idle => manager
  | .pulling now (id :: due) =>
    { manager with timer := .lookedUp now id (manager.lookupDynamicProfile id failed) due }
  | .lookedUp now id .dbError due =>
    { manager with
      deadlines := manager.deadlines.postponePull now (now + seconds 1) id
      timer := .pulling now due }
  | .lookedUp now id (.profile found) due =>
    match DynamicProfileLookup.interval? found with
    | none =>
      { manager with deadlines := manager.deadlines.erase id, timer := .pulling now due }
    | some interval =>
      { manager with
        timer := .dispatched now id
          (if failed then now + seconds 1 else now + seconds interval) due }
  | .dispatched now id next due =>
    { manager with
      deadlines := manager.deadlines.postponePull now next id
      timer := .pulling now due }
  | .pulling now [] =>
    match manager.deadlines.dueExpiries now with
    | [] => { manager with timer := .rearming }
    | id :: ids => { manager with timer := .expired now (id :: ids) }
  | .expired now ids =>
    { manager with timer := if failed then .rearming else .committing now ids }
  | .committing now ids =>
    { manager with
      deadlines := ids.foldl (Deadlines.clearExpired now) manager.deadlines
      timer := .rearming }
  | .rearming => { manager.rescheduleTimer with timer := .idle }

inductive Action
  | insertProfile (evseId : ℤ) (profile : ChargingProfile) (chargingLimitSource : String)
  | deleteProfile (id : ℤ)
  | updateTracking (now : ℤ) (profile : ChargingProfile)
  | eraseTracking (id : ℤ)
  | rescheduleTimer
  | onDeadline (now : ℤ)
  | timer (failed : Bool)

def step (manager : DynamicScheduleManager) : Action → DynamicScheduleManager
  | .insertProfile evseId profile chargingLimitSource =>
    { manager with
      database :=
        manager.database.insertOrUpdateChargingProfile evseId profile chargingLimitSource }
  | .deleteProfile id => { manager with database := manager.database.deleteChargingProfile id }
  | .updateTracking now profile =>
    { manager with deadlines := (manager.deadlines.writeDeadlines now profile).2 }
  | .eraseTracking id => { manager with deadlines := manager.deadlines.erase id }
  | .rescheduleTimer => manager.rescheduleTimer
  | .onDeadline now =>
    match manager.timer with
    | .idle => { manager with timer := .pulling now (manager.deadlines.duePulls now) }
    | _ => manager
  | .timer failed => manager.timerStep failed

end DynamicScheduleManager

/-- The timer thread has looked up the profile of a due pull, in a tick at `now`. -/
def TimerThread.pulls (now id : ℤ) : TimerThread → Prop
  | .lookedUp tick due _ _ => tick = now ∧ due = id
  | .dispatched tick due _ _ => tick = now ∧ due = id
  | _ => False

/-- The timer thread has announced the expiry of the id, in a tick at `now`. -/
def TimerThread.expires (now id : ℤ) : TimerThread → Prop
  | .committing tick ids => tick = now ∧ id ∈ ids
  | _ => False

/-- The tick and the id that the timer thread is about to drop. -/
def TimerThread.drops : TimerThread → Option (ℤ × ℤ)
  | .lookedUp now id (.profile found) _ =>
    if DynamicProfileLookup.interval? found = none then some (now, id) else none
  | _ => none

namespace DynamicScheduleManager

/-- A handler replaces or removes the deadlines of the id. -/
def Action.tracks (id : ℤ) : Action → Prop
  | .updateTracking _ profile => profile.id = id
  | .eraseTracking erased => erased = id
  | _ => False

/-- A step keeps every deadline that no handler replaces or removes and that the timer thread
does not process because it is due. -/
structure KeepsDeadlines (manager : DynamicScheduleManager) (action : Action) : Prop where
  pull : ∀ id deadline, manager.deadlines.pull? id = some deadline →
    (manager.step action).deadlines.pull? id = some deadline ∨ action.tracks id ∨
      ∃ failed now, action = .timer failed ∧ manager.timer.pulls now id ∧ deadline ≤ now
  expire : ∀ id deadline, manager.deadlines.expire? id = some deadline →
    (manager.step action).deadlines.expire? id = some deadline ∨ action.tracks id ∨
      ∃ failed now, action = .timer failed ∧ manager.timer.expires now id ∧ deadline ≤ now

def Action.ofTimer : Action → Bool
  | .timer _ => true
  | _ => false

/-- When the timer thread drops an id whose profile has no updates to pull, the id has no expiry
deadline and no pull deadline after the tick. -/
def DropsDue (manager : DynamicScheduleManager) (action : Action) : Prop :=
  action.ofTimer → ∀ dropped ∈ manager.timer.drops,
    (∀ deadline ∈ manager.deadlines.pull? dropped.2, deadline ≤ dropped.1) ∧
      manager.deadlines.expire? dropped.2 = none

instance (manager : DynamicScheduleManager) (action : Action) :
    Decidable (DropsDue manager action) :=
  inferInstanceAs (Decidable (action.ofTimer → ∀ dropped ∈ manager.timer.drops,
    (∀ deadline ∈ manager.deadlines.pull? dropped.2, deadline ≤ dropped.1) ∧
      manager.deadlines.expire? dropped.2 = none))

section Map

variable {deadlines : Deadlines} {now next id other deadline : ℤ} {profile : ChargingProfile}

lemma expire?_postponePull :
    (deadlines.postponePull now next id).expire? other = deadlines.expire? other := by
  unfold Deadlines.expire? Deadlines.postponePull
  rw [find?_modify]
  cases deadlines.find? other with
  | none => rfl
  | some =>
    simp only [Option.map_some, Option.bind_some]
    split_ifs <;> rfl

lemma pull?_postponePull (now next id : ℤ) (h : deadlines.pull? other = some deadline) :
    (deadlines.postponePull now next id).pull? other = some deadline ∨
      other = id ∧ deadline ≤ now := by
  unfold Deadlines.pull? at h
  unfold Deadlines.pull? Deadlines.postponePull
  rw [find?_modify]
  cases hfound : deadlines.find? other with
  | none =>
    rw [hfound] at h
    cases h
  | some =>
    rw [hfound, Option.bind_some] at h
    simp only [Option.map_some, Option.bind_some]
    by_cases heq : other = id
    · by_cases hdue : deadline ≤ now
      · exact .inr ⟨heq, hdue⟩
      · rw [if_pos heq, if_neg (by simp [h, hdue])]
        exact .inl h
    · rw [if_neg heq]
      exact .inl h

lemma find?_clearExpired_of_ne (h : other ≠ id) :
    (deadlines.clearExpired now id).find? other = deadlines.find? other := by
  unfold Deadlines.clearExpired
  split
  · rfl
  · split_ifs
    · rw [find?_erase, if_neg h]
    · rw [find?_insert, if_neg h]
    · rfl

lemma pull?_clearExpired : (deadlines.clearExpired now id).pull? other =
    deadlines.pull? other := by
  by_cases h : other = id
  · subst h
    unfold Deadlines.pull? Deadlines.clearExpired
    split
    · rfl
    · rename_i entry hfound
      split_ifs with _ hpull
      · rw [find?_erase, if_pos rfl, hfound]
        exact hpull.symm
      · rw [find?_insert, if_pos rfl, hfound]
        rfl
      · rfl
  · unfold Deadlines.pull?
    rw [find?_clearExpired_of_ne h]

lemma expire?_clearExpired (now id : ℤ) (h : deadlines.expire? other = some deadline) :
    (deadlines.clearExpired now id).expire? other = some deadline ∨
      other = id ∧ deadline ≤ now := by
  by_cases heq : other = id
  · subst heq
    by_cases hdue : deadline ≤ now
    · exact .inr ⟨rfl, hdue⟩
    · left
      unfold Deadlines.expire? at h
      unfold Deadlines.clearExpired
      cases hfound : deadlines.find? other with
      | none =>
        rw [hfound] at h
        cases h
      | some =>
        rw [hfound, Option.bind_some] at h
        simp only [h, Option.any_some, decide_eq_true_eq, if_neg hdue]
        unfold Deadlines.expire?
        rw [hfound]
        exact h
  · left
    unfold Deadlines.expire? at h ⊢
    rw [find?_clearExpired_of_ne heq]
    exact h

/-- The whole commit. The deadlines of all its ids that are still due are cleared. -/
theorem foldl_clearExpired (deadlines : Deadlines) (now : ℤ) (ids : List ℤ) :
    (∀ other, (ids.foldl (Deadlines.clearExpired now) deadlines).pull? other =
      deadlines.pull? other) ∧
    ∀ other deadline, deadlines.expire? other = some deadline →
      (ids.foldl (Deadlines.clearExpired now) deadlines).expire? other = some deadline ∨
        other ∈ ids ∧ deadline ≤ now := by
  induction ids generalizing deadlines with
  | nil => exact ⟨fun _ => rfl, fun _ _ h => .inl h⟩
  | cons id ids ih =>
    refine ⟨fun other => ((ih _).1 other).trans pull?_clearExpired, fun other deadline h => ?_⟩
    obtain h | ⟨rfl, hdue⟩ := expire?_clearExpired now id h
    · exact ((ih _).2 other deadline h).imp_right fun ⟨hmem, hdue⟩ =>
        ⟨List.mem_cons_of_mem _ hmem, hdue⟩
    · exact .inr ⟨List.mem_cons_self, hdue⟩

end Map

section Steps

variable {manager : DynamicScheduleManager} {action : Action}

lemma KeepsDeadlines.of_eq (h : (manager.step action).deadlines = manager.deadlines) :
    KeepsDeadlines manager action where
  pull id deadline hdeadline := .inl (by rw [h, hdeadline])
  expire id deadline hdeadline := .inl (by rw [h, hdeadline])

variable {id : ℤ}

lemma KeepsDeadlines.of_tracks (hid : action.tracks id)
    (h : ∀ other ≠ id, (manager.step action).deadlines.find? other =
      manager.deadlines.find? other) : KeepsDeadlines manager action where
  pull other deadline hdeadline := by
    by_cases heq : other = id
    · exact .inr (.inl (heq ▸ hid))
    · left
      unfold Deadlines.pull? at hdeadline ⊢
      rw [h other heq, hdeadline]
  expire other deadline hdeadline := by
    by_cases heq : other = id
    · exact .inr (.inl (heq ▸ hid))
    · left
      unfold Deadlines.expire? at hdeadline ⊢
      rw [h other heq, hdeadline]

variable {failed : Bool} {now : ℤ}

lemma KeepsDeadlines.of_postponePull {next : ℤ}
    (htimer : manager.timer.pulls now id)
    (h : (manager.step (.timer failed)).deadlines =
      manager.deadlines.postponePull now next id) : KeepsDeadlines manager (.timer failed) where
  pull other deadline hdeadline := by
    rw [h]
    obtain hkept | ⟨rfl, hdue⟩ := pull?_postponePull now next id hdeadline
    · exact .inl hkept
    · exact .inr (.inr ⟨failed, now, rfl, htimer, hdue⟩)
  expire other deadline hdeadline := .inl (by rw [h, expire?_postponePull, hdeadline])

lemma keepsDeadlines_drop {found : Option ChargingProfile} {due : List ℤ}
    (htimer : manager.timer = .lookedUp now id (.profile found) due)
    (h : (manager.step (.timer failed)).deadlines = manager.deadlines.erase id) :
    KeepsDeadlines manager (.timer failed) ↔
      (∀ deadline ∈ manager.deadlines.pull? id, deadline ≤ now) ∧
        manager.deadlines.expire? id = none := by
  have hpull : (manager.step (.timer failed)).deadlines.pull? id = none := by
    unfold Deadlines.pull?
    rw [h, find?_erase, if_pos rfl]
    rfl
  have hexpire : (manager.step (.timer failed)).deadlines.expire? id = none := by
    unfold Deadlines.expire?
    rw [h, find?_erase, if_pos rfl]
    rfl
  constructor
  · intro hkeeps
    constructor
    · intro deadline hdeadline
      obtain hkept | htracks | ⟨_, now', _, hpulls, hdue⟩ := hkeeps.pull id deadline hdeadline
      · rw [hpull] at hkept
        cases hkept
      · cases htracks
      · rw [htimer] at hpulls
        exact hpulls.1 ▸ hdue
    · by_contra hne
      obtain ⟨deadline, hdeadline⟩ := Option.ne_none_iff_exists'.mp hne
      obtain hkept | htracks | ⟨_, _, _, hexpires, _⟩ := hkeeps.expire id deadline hdeadline
      · rw [hexpire] at hkept
        cases hkept
      · cases htracks
      · rw [htimer] at hexpires
        cases hexpires
  · rintro ⟨hdue, hnone⟩
    constructor
    · intro other deadline hdeadline
      by_cases heq : other = id
      · subst heq
        refine .inr (.inr ⟨failed, now, rfl, ?_, hdue deadline hdeadline⟩)
        rw [htimer]
        exact ⟨rfl, rfl⟩
      · left
        unfold Deadlines.pull? at hdeadline ⊢
        rw [h, find?_erase, if_neg heq, hdeadline]
    · intro other deadline hdeadline
      have hne : other ≠ id := by
        rintro rfl
        rw [hnone] at hdeadline
        cases hdeadline
      left
      unfold Deadlines.expire? at hdeadline ⊢
      rw [h, find?_erase, if_neg hne, hdeadline]

lemma dropsDue_of_drops (h : manager.timer.drops = none) : DropsDue manager action := by
  intro _ dropped hdrop
  rw [h] at hdrop
  cases hdrop

lemma timer_keepsDeadlines_iff :
    KeepsDeadlines manager (.timer failed) ↔ DropsDue manager (.timer failed) := by
  obtain ⟨database, deadlines, timer, armed⟩ := manager
  cases timer with
  | idle | expired | rearming => exact iff_of_true (.of_eq rfl) (dropsDue_of_drops rfl)
  | pulling now due =>
    refine iff_of_true (.of_eq ?_) (dropsDue_of_drops rfl)
    cases due with
    | nil =>
      simp only [step, timerStep]
      split <;> rfl
    | cons => rfl
  | lookedUp now id lookup =>
    cases lookup with
    | dbError => exact iff_of_true (.of_postponePull ⟨rfl, rfl⟩ rfl) (dropsDue_of_drops rfl)
    | profile found =>
      cases hival : DynamicProfileLookup.interval? found with
      | none =>
        rw [keepsDeadlines_drop rfl (by simp only [step, timerStep, hival])]
        simp [DropsDue, Action.ofTimer, TimerThread.drops, hival]
      | some =>
        refine iff_of_true (.of_eq ?_) (dropsDue_of_drops ?_)
        · simp only [step, timerStep, hival]
        · simp [TimerThread.drops, hival]
  | dispatched =>
    exact iff_of_true (.of_postponePull ⟨rfl, rfl⟩ rfl) (dropsDue_of_drops rfl)
  | committing now ids =>
    obtain ⟨hpull, hexpire⟩ := foldl_clearExpired deadlines now ids
    refine iff_of_true ⟨fun id deadline h => .inl ((hpull id).trans h), ?_⟩
      (dropsDue_of_drops rfl)
    intro id deadline h
    obtain hkept | ⟨hmem, hdue⟩ := hexpire id deadline h
    · exact .inl hkept
    · exact .inr (.inr ⟨failed, now, rfl, ⟨rfl, hmem⟩, hdue⟩)

lemma keepsDeadlines_iff : KeepsDeadlines manager action ↔ DropsDue manager action := by
  cases action with
  | insertProfile | deleteProfile | rescheduleTimer =>
    exact iff_of_true (.of_eq rfl) fun h => nomatch h
  | updateTracking =>
    refine iff_of_true (.of_tracks rfl fun other h => ?_) fun h => nomatch h
    change (Deadlines.writeDeadlines _ _ _).2.find? other = _
    unfold Deadlines.writeDeadlines
    dsimp only
    split_ifs
    · rfl
    · rw [find?_insert, if_neg h]
    · rw [find?_erase, if_neg h]
  | eraseTracking =>
    refine iff_of_true (.of_tracks rfl fun other h => ?_) fun h => nomatch h
    exact find?_erase.trans (if_neg h)
  | onDeadline =>
    refine iff_of_true (.of_eq ?_) fun h => nomatch h
    simp only [step]
    split <;> rfl
  | timer failed => exact timer_keepsDeadlines_iff

end Steps

def pulledProfile (dynUpdateTime : ℤ) : ChargingProfile where
  id := 1
  stackLevel := 0
  chargingProfilePurpose := .txDefaultProfile
  chargingProfileKind := .dynamic
  chargingSchedule := [
    { chargingRateUnit := .A, chargingSchedulePeriod := [{ startPeriod := 0, limit := some 16 }] }]
  dynUpdateInterval := some 60
  dynUpdateTime := some dynUpdateTime

/-- The pull of a profile is due when the profile is cleared. The timer thread no longer finds
it, and before it drops the id the profile is set again. -/
def clearedAndSetAgain : List Action :=
  [.onDeadline (seconds 60), .deleteProfile 1, .timer false, .eraseTracking 1,
    .insertProfile 1 (pulledProfile (seconds 61)) "CSO",
    .updateTracking (seconds 61) (pulledProfile (seconds 61))]

end DynamicScheduleManager

end Everest.SmartCharging.V2.Store
