import Everest.SmartCharging.StoredProfiles

namespace Everest.SmartCharging.V16.Store

open Store.SmartChargingHandler Option

variable {config : Configuration} {handler : SmartChargingHandler} {now connectorId : ℤ}
  {profile : ChargingProfile}

def Restored (config : Configuration) (handler : SmartChargingHandler) : Prop :=
  ∀ now ref stackLevel, ((handler.restart config now).profiles ref).find? stackLevel =
    (handler.profiles ref).find? stackLevel

/-- Every installed profile has its row, from which it can be read back. -/
def Stable (config : Configuration) (handler : SmartChargingHandler) : Prop :=
  ∀ ⦃ref stackLevel profile⦄, handler.Held ref stackLevel profile → profile.Lasting ∧
    ∃ row ∈ handler.database, row.profile = profile ∧
      ref ∈ config.targets row.connectorId row.profile

lemma mem_restorable_of_lasting {rows : Database} {row : Row} (hrow : row ∈ rows)
    (h : row.profile.Lasting) : row ∈ restorable rows := by
  refine List.mem_map.2 ⟨row, List.mem_filter.2 ⟨hrow, decide_eq_true h.2⟩, ?_⟩
  rw [h.1]

lemma restored_iff_stable (h : Sound config handler) :
    Restored config handler ↔ Stable config handler := by
  have hloading := fun now => restart_loading now h.loadable
  constructor
  · intro hrestored ref stackLevel profile hheld
    have hheld' : (handler.restart config 0).Held ref stackLevel profile :=
      (hrestored 0 ref stackLevel).trans hheld
    obtain ⟨row, hrow, htarget, hlevel, rfl⟩ := ((hloading 0).shows ..).1 hheld'
    obtain ⟨row', hrow', hpurp, rfl⟩ := mem_restorable hrow
    subst hlevel
    have hsame := (h.stored row' hrow' ref htarget).unique hheld
    exact ⟨⟨reread_reread, hpurp⟩, row', hrow', hsame, htarget⟩
  · intro hstab now ref stackLevel
    refine ext fun profile => ?_
    refine ((hloading now).shows ref stackLevel profile).trans ?_
    constructor
    · rintro ⟨row, hrow, htarget, rfl, rfl⟩
      obtain ⟨row', hrow', -, rfl⟩ := mem_restorable hrow
      have hheld := h.stored row' hrow' ref htarget
      have hreread : row'.profile.reread = row'.profile := (hstab hheld).1.1
      rw [hreread]
      exact hheld
    · intro hheld
      obtain ⟨hlasting, row, hrow, rfl, htarget⟩ := hstab hheld
      exact ⟨row, mem_restorable_of_lasting hrow hlasting, htarget, (h.fitting hheld).1, rfl⟩

/-- A restart leaves a state that the next restart gives back. -/
theorem restart_stable (h : Sound config handler) :
    Sound config (handler.restart config now) ∧ Stable config (handler.restart config now) := by
  have hloading := restart_loading now h.loadable
  have hrows := h.loadable.restorable
  have hdb : (handler.restart config now).database = restorable handler.database :=
    hloading.database
  refine ⟨⟨hloading.configured, hdb ▸ hrows, ?_, ?_, ?_⟩, ?_⟩
  · intro row hrow ref href
    rw [hdb] at hrow
    exact (hloading.shows ..).2 ⟨row, hrow, href, rfl, rfl⟩
  · intro ref stackLevel profile hheld
    obtain ⟨row, hrow, htarget, rfl, rfl⟩ := (hloading.shows ..).1 hheld
    exact ⟨rfl, targets_proper (hrows.valid row hrow) htarget⟩
  · intro ref stackLevel profile ref' stackLevel' profile' hheld hheld' hid
    obtain ⟨row, hrow, -, -, rfl⟩ := (hloading.shows ..).1 hheld
    obtain ⟨row', hrow', -, -, rfl⟩ := (hloading.shows ..).1 hheld'
    have hnodup : ((restorable handler.database).map (·.profile.chargingProfileId)).Nodup :=
      List.pairwise_map.2 hrows.ids
    rw [List.inj_on_of_nodup_map hnodup hrow hrow' hid]
  · intro ref stackLevel profile hheld
    obtain ⟨row, hrow, htarget, rfl, rfl⟩ := (hloading.shows ..).1 hheld
    obtain ⟨row', hrow', hpurp, rfl⟩ := mem_restorable hrow
    exact ⟨⟨reread_reread, hpurp⟩, _, hdb ▸ hrow, rfl, htarget⟩

variable {P : MapRef → ℤ → ChargingProfile → Prop} {handler' : SmartChargingHandler}
    {stackLevel : ℤ} {ids : List ℤ} {ref : MapRef}

lemma Stable.removes_iff (hsound : Sound config handler) (hstab : Stable config handler)
    (hrem : Removes P handler handler') :
    Stable config handler' ↔ ∀ ref stackLevel ref' stackLevel' profile,
      handler.Held ref stackLevel profile → P ref stackLevel profile →
      handler.Held ref' stackLevel' profile → P ref' stackLevel' profile := by
  constructor
  · intro hstab' ref stackLevel ref' stackLevel' profile hheld hP hheld'
    by_contra hkept
    obtain ⟨-, row, hrow, rfl, -⟩ := hstab' ((hrem.held ..).2 ⟨hheld', hkept⟩)
    exact (hrem.mem row (hrem.sublist.subset hrow)).1 hrow _ _ _ hheld hP rfl
  · intro hclosed ref stackLevel profile hheld
    obtain ⟨hheld, hkept⟩ := (hrem.held ..).1 hheld
    obtain ⟨hlasting, row, hrow, rfl, htarget⟩ := hstab hheld
    refine ⟨hlasting, row, (hrem.mem row hrow).2 ?_, rfl, htarget⟩
    intro ref' stackLevel' profile' hheld' hP hid
    obtain rfl := hsound.unique hheld' hheld hid
    exact hkept (hclosed _ _ _ _ _ hheld' hP hheld)

lemma Stable.replaces_iff {removed added : SmartChargingHandler} (hsound : Sound config handler)
    (hstab : Stable config handler) (hvalid : Valid config connectorId profile)
    (hrem : Removes P handler removed) (hadds : Adds connectorId profile removed added)
    (hid : ∀ ref stackLevel other, handler.Held ref stackLevel other →
      other.chargingProfileId = profile.chargingProfileId → P ref stackLevel other)
    (hP : ∀ ref stackLevel other, handler.Held ref stackLevel other → P ref stackLevel other →
      other.chargingProfileId ≠ profile.chargingProfileId →
      ref ∈ config.targets connectorId profile ∧ stackLevel = profile.stackLevel) :
    Stable config added ↔
      (config.targets connectorId profile ≠ [] → profile.Lasting) ∧
      ∀ ref other, handler.Held ref profile.stackLevel other →
        other.chargingProfilePurpose = profile.chargingProfilePurpose →
        other.chargingProfileId ≠ profile.chargingProfileId →
        ref ∈ config.targets connectorId profile := by
  have htargets : removed.targets connectorId profile = config.targets connectorId profile :=
    Configured.targets (hrem.keys.trans hsound.configured) _ _
  constructor
  · intro hstab'
    constructor
    · intro hne
      obtain ⟨ref, href⟩ := List.exists_mem_of_ne_nil _ hne
      exact (hstab' ((hadds.held ..).2 (.inl ⟨htargets ▸ href, rfl, rfl⟩))).1
    · intro ref other hheld hpurp hne
      by_contra href
      have hkept : removed.Held ref profile.stackLevel other :=
        (hrem.held ..).2 ⟨hheld, fun h => href (hP _ _ _ hheld h hne).1⟩
      obtain ⟨-, row, hrow, rfl, -⟩ :=
        hstab' ((hadds.held ..).2 (.inr ⟨fun h => href (htargets ▸ h.1), hkept⟩))
      rw [hadds.database] at hrow
      rcases mem_insertOrUpdate.1 hrow with ⟨-, hdiff, -⟩ | rfl
      · exact hdiff ⟨(hsound.fitting hheld).1.symm, hpurp⟩
      · exact hne rfl
  · rintro ⟨hlasting, hothers⟩ ref stackLevel other hheld
    rcases (hadds.held ..).1 hheld with ⟨href, rfl, rfl⟩ | ⟨hnot, hheld⟩
    · rw [htargets] at href
      refine ⟨hlasting (List.ne_nil_of_mem href), ⟨connectorId, other⟩, ?_, rfl, href⟩
      rw [hadds.database]
      exact mem_insertOrUpdate.2 (.inr rfl)
    · rw [htargets] at hnot
      obtain ⟨hheld, hkept⟩ := (hrem.held ..).1 hheld
      obtain ⟨hother, row, hrow, rfl, htarget⟩ := hstab hheld
      have hne := fun h => hkept (hid _ _ _ hheld h)
      have hdiff : ¬row.profile.Rivals profile := by
        rintro ⟨hlevel, hpurp⟩
        obtain rfl := (hsound.fitting hheld).1.trans hlevel
        exact hnot ⟨hothers ref row.profile hheld hpurp hne, rfl⟩
      refine ⟨hother, row, ?_, rfl, htarget⟩
      rw [hadds.database]
      refine mem_insertOrUpdate.2 (.inl ⟨(hrem.mem row hrow).2 ?_, hdiff, hne⟩)
      intro ref' stackLevel' other' hheld' hP' hsame
      obtain rfl := hsound.unique hheld' hheld hsame
      obtain ⟨href', hlevel'⟩ := hP _ _ _ hheld' hP' hne
      obtain ⟨hfits, hpurp, -⟩ := hsound.fitting hheld'
      exact hdiff ⟨hfits.symm.trans hlevel',
        hpurp.symm.trans (targets_proper hvalid href').1⟩

def requestFilter (msg : ClearChargingProfileRequest) : Filter where
  profileIdOpt := msg.id
  connectorIdOpt := msg.connectorId
  stackLevelOpt := msg.stackLevel
  chargingProfilePurposeOpt := msg.chargingProfilePurpose
  checkIdOnly := msg.id.isSome

/-- The requests that a restart does not undo. A profile that is installed can be read back as
it is, and no map other than those it is written into holds one of the same purpose and stack
level, unless under the same id. A request to clear the profiles of a connector finds no
`TxDefaultProfile` that another connector also holds. -/
def Careful (config : Configuration) (handler : SmartChargingHandler) : Input → Prop
  | .setChargingProfile now connectorId csChargingProfiles =>
    ∀ profile ∈ handler.accepted config now connectorId csChargingProfiles,
      (config.targets connectorId profile ≠ [] → profile.Lasting) ∧
      ∀ ref other, handler.Held ref profile.stackLevel other →
        other.chargingProfilePurpose = profile.chargingProfilePurpose →
        other.chargingProfileId ≠ profile.chargingProfileId →
        ref ∈ config.targets connectorId profile
  | .clearChargingProfile msg =>
    msg.id = none → ∀ connectorId ∈ msg.connectorId, ∀ other stackLevel profile,
      handler.Held (.txDefault connectorId) stackLevel profile →
      (requestFilter msg).matches profile = true →
      handler.Held (.txDefault other) stackLevel profile → other = connectorId
  | _ => True

/-- The step is sound, and a restart undoes it exactly if the input is not careful. -/
def Faithful (config : Configuration) (handler : SmartChargingHandler) (input : Input) : Prop :=
  Sound config (handler.step config input) ∧ (Stable config handler →
    (Stable config (handler.step config input) ↔ Careful config handler input))

lemma cleared_byId {id : ℤ} :
    Cleared { profileIdOpt := some id, checkIdOnly := true } ids ref stackLevel profile ↔
      profile.chargingProfileId = id := by
  simp only [Cleared, Filter.clears, Bool.not_true, Bool.false_and, Bool.or_false,
    decide_eq_true_eq, some.injEq, reduceCtorEq, false_and, or_false]
  exact eq_comm

lemma setChargingProfile_step (h : Sound config handler) {csChargingProfiles : ChargingProfile} :
    Faithful config handler (.setChargingProfile now connectorId csChargingProfiles) := by
  simp only [Faithful, step, handleSetChargingProfileRequest, Careful]
  cases hacc : handler.accepted config now connectorId csChargingProfiles with
  | none => simp [h]
  | some profile =>
    obtain ⟨hvalid, hroom⟩ := accepted_valid h.configured.size hacc
    simp only [mem_some_iff, forall_eq']
    obtain ⟨ids, hbyId⟩ := clearAllProfilesWithFilter_removes
      { profileIdOpt := some profile.chargingProfileId, checkIdOnly := true } h.unique
    obtain ⟨ids', hbyLevel⟩ := clearAllProfilesWithFilter_removes
      { connectorIdOpt := some connectorId
        stackLevelOpt := some profile.stackLevel
        chargingProfilePurposeOpt := some profile.chargingProfilePurpose }
      (hbyId.uniqueIds h.unique)
    have hrem := hbyId.trans hbyLevel
    have hsound := h.removes hrem
    have hadds := addProfile_adds (fun hmax => (hvalid.chargePointMax hmax).1) (by
      intro ref href
      rw [hsound.configured.targets] at href
      exact (targets_proper hvalid href).2.has hsound.configured)
    refine ⟨hsound.adds hvalid ?_ ?_ hadds, ?_⟩
    · refine ⟨handler, h.configured, hroom, ?_⟩
      intro row hrow ref href
      exact ⟨_, h.stored row (hrem.sublist.subset hrow) ref href⟩
    · intro ref stackLevel other hheld hid
      exact ((hrem.held ..).1 hheld).2 (.inl (cleared_byId.2 hid))
    · intro hstab
      refine hstab.replaces_iff h hvalid hrem hadds ?_ ?_
      · intro ref stackLevel other _ hid
        exact .inl (cleared_byId.2 hid)
      · intro ref stackLevel other hheld hclear hne
        obtain ⟨hlevel, hpurp, hproper⟩ := h.fitting hheld
        have hclear := hclear.resolve_left fun hid => hne (cleared_byId.1 hid)
        rcases hclear with h | ⟨-, hzero, -, -, h⟩
        · simp only [Filter.clears, reduceCtorEq, decide_false, Bool.not_false, all_some,
            Bool.true_and, Bool.false_or, Bool.and_eq_true, decide_eq_true_eq] at h
          exact ⟨mem_targets hvalid hproper (hpurp.trans h.2.symm) fun _ => h.1.1.symm,
            h.1.2.symm⟩
        · simp only [Filter.matches, all_some, Bool.and_eq_true, decide_eq_true_eq] at h
          exact ⟨mem_targets hvalid hproper (hpurp.trans h.2.symm)
            fun hne => absurd (some.inj hzero) hne, hlevel.trans h.1.symm⟩

lemma clearAllProfiles_profiles (ref : MapRef) : handler.clearAllProfiles.profiles ref = ∅ := by
  cases ref with
  | chargePointMax => rfl
  | txDefault id | tx id =>
    rw [profiles, clearAllProfiles, SortedMap.find?_map]
    cases handler.connectors.find? id <;> rfl

lemma empty_sound (hcfgd : Configured config handler) (hdb : handler.database = [])
    (hprofs : ∀ ref, handler.profiles ref = ∅) :
    Sound config handler ∧ Stable config handler := by
  have hnone : ∀ ref stackLevel profile, ¬handler.Held ref stackLevel profile := by
    intro ref stackLevel profile hheld
    rw [Held, hprofs] at hheld
    cases hheld
  refine ⟨⟨hcfgd, ?_, ?_, ?_, ?_⟩, ?_⟩
  · rw [hdb]
    exact ⟨.nil, .nil, by simp, by simp⟩
  · simp [hdb]
  · exact fun ref stackLevel profile hheld => (hnone _ _ _ hheld).elim
  · exact fun ref stackLevel profile _ _ _ hheld => (hnone _ _ _ hheld).elim
  · exact fun ref stackLevel profile hheld => (hnone _ _ _ hheld).elim

variable {msg : ClearChargingProfileRequest}

lemma cleared_request (hlevel : stackLevel = profile.stackLevel) :
    Cleared (requestFilter msg) ids ref stackLevel profile ↔
      msg.id = some profile.chargingProfileId ∨
      msg.id = none ∧ (requestFilter msg).matches profile = true ∧
        (msg.connectorId.all (· = ref.connectorId) = true ∨
          msg.connectorId = some 0 ∧ ref.purpose = .txDefaultProfile ∧
            profile.chargingProfileId ∈ ids) := by
  subst hlevel
  cases hid : msg.id with
  | some => simp [Cleared, Filter.clears, requestFilter, hid]
  | none =>
    simp [Cleared, Filter.clears, Filter.matches, requestFilter, hid]
    tauto

lemma clearChargingProfile_step (h : Sound config handler) :
    Faithful config handler (.clearChargingProfile msg) := by
  simp only [Faithful, step, handleClearChargingProfileRequest, Careful]
  by_cases hall : msg.id = none ∧ msg.connectorId = none ∧ msg.chargingProfilePurpose = none ∧
      msg.stackLevel = none
  · rw [if_pos hall]
    obtain ⟨hsound, hstab⟩ := @empty_sound config handler.clearAllProfiles
      ((SortedMap.keys_map ..).trans h.configured) rfl clearAllProfiles_profiles
    exact ⟨hsound, fun _ => by simp [hstab, hall.2.1]⟩
  rw [if_neg hall]
  obtain ⟨ids, hrem⟩ := clearAllProfilesWithFilter_removes (requestFilter msg) h.unique
  refine ⟨h.removes hrem, fun hstab => (hstab.removes_iff h hrem).trans ?_⟩
  constructor
  · intro hclosed hid connectorId hconn other stackLevel profile hheld hmat hother
    obtain ⟨hlevel, -, hproper⟩ := h.fitting hheld
    have hclear := (cleared_request hlevel).1 (hclosed _ _ _ _ _ hheld
      ((cleared_request hlevel).2 (.inr ⟨hid, hmat, .inl (by
        rw [mem_def.1 hconn]
        exact decide_eq_true rfl)⟩)) hother)
    rw [hid, mem_def.1 hconn] at hclear
    rcases hclear with hsome | ⟨-, -, hsame | ⟨hzero, -⟩⟩
    · cases hsome
    · exact (of_decide_eq_true hsame).symm
    · -- Connector 0 holds no profile of its own.
      obtain rfl := some.inj hzero
      have hpositive := (hproper.resolve_left (by simp)).1
      simp [MapRef.connectorId] at hpositive
  · intro hcare ref stackLevel ref' stackLevel' profile hheld hclear hheld'
    obtain ⟨hlevel, hpurp, -⟩ := h.fitting hheld
    obtain ⟨hlevel', hpurp', -⟩ := h.fitting hheld'
    rw [cleared_request hlevel] at hclear
    rw [cleared_request hlevel']
    rcases hclear with hid | ⟨hid, hmat, hconn | ⟨hzero, href, hids⟩⟩
    · exact .inl hid
    · refine .inr ⟨hid, hmat, .inl ?_⟩
      cases hc : msg.connectorId with
      | none => rfl
      | some =>
        rw [hc] at hconn
        obtain rfl := of_decide_eq_true hconn
        cases ref with
        | chargePointMax =>
          cases ref' with
          | chargePointMax => exact decide_eq_true (rfl : MapRef.chargePointMax.connectorId = 0)
          | txDefault | tx => cases hpurp.trans hpurp'.symm
        | txDefault id =>
          cases ref' with
          | chargePointMax | tx => cases hpurp.trans hpurp'.symm
          | txDefault id' =>
            subst hlevel hlevel'
            exact decide_eq_true (hcare hid id hc id' _ _ hheld hmat hheld').symm
        | tx => exact absurd hpurp.symm (hstab hheld).1.2
    · exact .inr ⟨hid, hmat, .inr ⟨hzero, hpurp'.trans (hpurp.symm.trans href), hids⟩⟩

lemma steady_step (h : Sound config handler) (hrem : Removes P handler handler')
    (hclosed : ∀ ref stackLevel ref' stackLevel' profile, profile.Lasting →
      handler.Held ref stackLevel profile → P ref stackLevel profile →
      P ref' stackLevel' profile) :
    Sound config handler' ∧ (Stable config handler → Stable config handler') := by
  refine ⟨h.removes hrem, fun hstab => (hstab.removes_iff h hrem).2 ?_⟩
  intro ref stackLevel ref' stackLevel' profile hheld hP _
  exact hclosed ref stackLevel ref' stackLevel' profile (hstab hheld).1 hheld hP

lemma setTransaction_removes (connectorId : ℤ) (transaction : Option (Option ℤ)) :
    Removes (fun _ _ _ => False) handler (handler.setTransaction connectorId transaction) := by
  refine .nothing ?_ rfl (SortedMap.keys_modify ..)
  intro ref
  cases ref with
  | chargePointMax => rfl
  | txDefault id | tx id => exact SortedMap.elim_find?_modify (by simp) _

lemma transactionStopped_step (h : Sound config handler) :
    Sound config (handler.transactionStopped connectorId) ∧
      (Stable config handler → Stable config (handler.transactionStopped connectorId)) := by
  have hset := @setTransaction_removes handler connectorId none
  obtain ⟨ids, hclear⟩ := clearAllProfilesWithFilter_removes
    { connectorIdOpt := some connectorId, chargingProfilePurposeOpt := some .txProfile }
    (hset.uniqueIds h.unique)
  refine steady_step h (hset.trans hclear) ?_
  rintro ref stackLevel ref' stackLevel' profile hlasting -
    (hfalse | hclears | ⟨-, -, -, -, hmat⟩)
  · exact hfalse.elim
  · simp [Filter.clears] at hclears
    exact absurd hclears.2.symm hlasting.2
  · simp [Filter.matches] at hmat
    exact absurd hmat.symm hlasting.2

lemma step_faithful (h : Sound config handler) {input : Input} :
    Faithful config handler input := by
  cases input with
  | setChargingProfile now connectorId profile =>
    exact setChargingProfile_step h
  | clearChargingProfile msg => exact clearChargingProfile_step h
  | clearExpiredProfiles now =>
    obtain ⟨hsound, hstab⟩ := steady_step h (clearExpiredProfiles_removes now h.unique)
      fun _ _ _ _ _ _ _ hexp => hexp
    exact ⟨hsound, fun h => iff_of_true (hstab h) trivial⟩
  | transactionChanged connectorId transaction =>
    obtain ⟨hsound, hstab⟩ := steady_step h
      (setTransaction_removes connectorId (some transaction)) fun _ _ _ _ _ _ _ hfalse => hfalse
    exact ⟨hsound, fun h => iff_of_true (hstab h) trivial⟩
  | transactionStopped connectorId =>
    obtain ⟨hsound, hstab⟩ := transactionStopped_step h
    exact ⟨hsound, fun h => iff_of_true (hstab h) trivial⟩
  | restart now =>
    obtain ⟨hsound, hstab⟩ := restart_stable h
    exact ⟨hsound, fun _ => iff_of_true hstab trivial⟩

/-- In every state of a run a restart gives the maps back exactly if all requests are careful. -/
theorem profiles_survive_restart (config : Configuration) (inputs : List Input) :
    Runs.AllStates (step config) (Restored config) (start config []) inputs ↔
      Runs.AllSteps (step config) (Careful config) (start config []) inputs := by
  obtain ⟨hsound, hstab⟩ := empty_sound (start_configured config []) rfl (start_profiles [])
  have hrestored := (restored_iff_stable hsound).2 hstab
  have hinv : ∀ handler input, Sound config handler → Sound config (handler.step config input) :=
    fun _ input h => (step_faithful h).1
  refine Runs.allStates_iff_allSteps hinv ?_ hsound hrestored inputs
  intro handler input h hrestored
  rw [restored_iff_stable (step_faithful h).1]
  exact (step_faithful h).2 ((restored_iff_stable h).1 hrestored)

def twoConnectors : Configuration where
  numberOfConnectors := 2
  chargeProfileMaxStackLevel := 10
  maxChargingProfilesInstalled := 10
  chargingScheduleMaxPeriods := 5
  chargingScheduleAllowedChargingRateUnits := [.A]
  supportedChargingProfilePurposeTypes := [.chargePointMaxProfile, .txDefaultProfile, .txProfile]

def txDefaultLimit (chargingProfileId : ℤ) (limit : ℚ) : ChargingProfile where
  chargingProfileId
  transactionId := none
  stackLevel := 0
  chargingProfilePurpose := .txDefaultProfile
  chargingProfileKind := .relative
  recurrencyKind := none
  validFrom := none
  validTo := none
  chargingSchedule :=
    { chargingRateUnit := .A
      chargingSchedulePeriod := [⟨0, limit, none⟩]
      duration := none
      startSchedule := none
      minChargingRate := none }

/-- Both connectors get a limit of their own, and the second request deletes the row of the
first. -/
theorem connector_profile_lost :
    let handler := Runs.run (step twoConnectors) (start twoConnectors [])
      [.setChargingProfile 0 1 (txDefaultLimit 1 16), .setChargingProfile 0 2 (txDefaultLimit 2 32)]
    (handler.profiles (.txDefault 1)).find? 0 = some (txDefaultLimit 1 16) ∧
      ((handler.restart twoConnectors 0).profiles (.txDefault 1)).find? 0 = none ∧
      ¬Restored twoConnectors handler := by
  intro handler
  have hbef : (handler.profiles (.txDefault 1)).find? 0 = some (txDefaultLimit 1 16) := by
    decide +kernel
  have hafter : ((handler.restart twoConnectors 0).profiles (.txDefault 1)).find? 0 = none := by
    decide +kernel
  refine ⟨hbef, hafter, fun hrestored => ?_⟩
  have hsame := hrestored 0 (.txDefault 1) 0
  cases hsame

/-- After any requests and restarts: no two rows have the same profile id, every profile in the
table is installed wherever it belongs, and profiles installed with the same id are the same. -/
theorem stored_profiles_installed (config : Configuration) (inputs : List Input) :
    let handler := Runs.run (step config) (start config []) inputs
    handler.database.Pairwise
        (fun a b => a.profile.chargingProfileId ≠ b.profile.chargingProfileId) ∧
      (∀ row ∈ handler.database, ∀ ref ∈ config.targets row.connectorId row.profile,
        handler.Held ref row.profile.stackLevel row.profile) ∧ handler.UniqueIds := by
  intro handler
  have h : Sound config handler := by
    refine Runs.run_inv (fun handler _ (h : Sound config handler) => (step_faithful h).1) ?_ inputs
    exact (empty_sound (start_configured config []) rfl (start_profiles [])).1
  exact ⟨h.loadable.ids, h.stored, h.unique⟩

end Everest.SmartCharging.V16.Store
