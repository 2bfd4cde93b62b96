import Everest.SmartCharging.InstalledProfiles

namespace Everest.SmartCharging.V16.Store

open Store.SmartChargingHandler List Store.ChargingProfile

/-- What the validation establishes, the transaction apart. -/
structure Valid (config : Configuration) (connectorId : ℤ) (profile : ChargingProfile) : Prop where
  connector : 0 ≤ connectorId ∧ connectorId ≤ config.numberOfConnectors
  level : 0 ≤ profile.stackLevel ∧ profile.stackLevel ≤ config.chargeProfileMaxStackLevel
  absolute : profile.chargingProfileKind = .absolute →
    profile.chargingSchedule.startSchedule.isSome = true
  schedule : validateSchedule profile.chargingSchedule config.chargingScheduleMaxPeriods
    config.chargingScheduleAllowedChargingRateUnits = true
  recurring : profile.chargingProfileKind = .recurring → ∃ kind,
    profile.recurrencyKind = some kind ∧ profile.chargingSchedule.startSchedule.isSome = true ∧
      ∀ duration ∈ profile.chargingSchedule.duration, duration ≤ maxRecurrencyDuration kind
  chargePointMax : profile.chargingProfilePurpose = .chargePointMaxProfile →
    connectorId = 0 ∧ profile.chargingProfileKind ≠ .relative
  tx : profile.chargingProfilePurpose = .txProfile → connectorId ≠ 0
  supported : profile.chargingProfilePurpose ∈ config.supportedChargingProfilePurposeTypes

variable {config : Configuration} {handler : SmartChargingHandler} {now connectorId : ℤ}
  {profile profile' : ChargingProfile}

def ChargingProfile.timed (profile : ChargingProfile) (start duration : Option ℤ) :
    ChargingProfile :=
  { profile with
    chargingSchedule :=
      { profile.chargingSchedule with startSchedule := start, duration := duration } }

lemma withStartSchedule_eq_some (h : withStartSchedule config now profile = some profile') :
    ∃ start : ℤ, profile' = profile.timed (some start) profile.chargingSchedule.duration := by
  unfold withStartSchedule at h
  split_ifs at h with hstart
  · obtain ⟨start, hstart⟩ := Option.isSome_iff_exists.1 hstart
    refine ⟨start, ?_⟩
    obtain rfl := Option.some.inj h
    rw [timed, ← hstart]
  · exact ⟨now, (Option.some.inj h).symm⟩

lemma withStartSchedule_of_isSome (h : profile.chargingSchedule.startSchedule.isSome = true) :
    withStartSchedule config now profile = some profile := by
  rw [withStartSchedule, if_pos h]

lemma validateAbsolute_eq_some (h : validateAbsolute config now profile = some profile') :
    ∃ start, profile' = profile.timed start profile.chargingSchedule.duration ∧
      (profile.chargingProfileKind = .absolute → start.isSome = true) := by
  unfold validateAbsolute at h
  split_ifs at h with hkind
  · obtain ⟨start, hstart⟩ := withStartSchedule_eq_some h
    exact ⟨some start, hstart, fun _ => rfl⟩
  · exact ⟨_, (Option.some.inj h).symm, fun h => absurd h hkind⟩

lemma validateRecurring_eq_some (h : validateRecurring config now profile = some profile') :
    ∃ start duration, profile' = profile.timed start duration ∧
      (profile.chargingSchedule.startSchedule.isSome = true → start.isSome = true) ∧
      (profile.chargingProfileKind = .recurring → ∃ kind, profile.recurrencyKind = some kind ∧
        start.isSome = true ∧ ∀ d ∈ duration, d ≤ maxRecurrencyDuration kind) := by
  unfold validateRecurring at h
  split_ifs at h with hrecu
  · obtain ⟨kind, hkind, h⟩ := Option.bind_eq_some_iff.1 h
    obtain ⟨started, hstarted, rfl⟩ := Option.map_eq_some_iff.1 h
    obtain ⟨start, rfl⟩ := withStartSchedule_eq_some hstarted
    refine ⟨some start, _, rfl, fun _ => rfl, fun _ => ⟨kind, hkind, rfl, ?_⟩⟩
    intro d hd
    obtain ⟨d, -, rfl⟩ := Option.map_eq_some_iff.1 hd
    exact min_le_right _ _
  · exact ⟨_, _, (Option.some.inj h).symm, id, fun h => absurd h hrecu⟩

lemma accepted_valid (hsize : handler.connectors.size = config.numberOfConnectors + 1)
    (h : handler.accepted config now connectorId profile = some profile') :
    Valid config connectorId profile' ∧
      (handler.getNumberInstalledProfiles : ℤ) < config.maxChargingProfilesInstalled := by
  rw [accepted] at h
  split_ifs at h with hsupported
  rw [validateProfile] at h
  by_cases hrange : (handler.connectors.size : ℤ) ≤ connectorId ∨ connectorId < 0 ∨
      profile.stackLevel < 0 ∨ config.chargeProfileMaxStackLevel < profile.stackLevel
  · rw [if_pos hrange] at h
    cases h
  rw [if_neg hrange] at h
  obtain ⟨p, hp, h⟩ := Option.bind_eq_some_iff.1 h
  by_cases hroom : config.maxChargingProfilesInstalled ≤ handler.getNumberInstalledProfiles
  · rw [if_pos hroom] at h
    cases h
  split_ifs at h with hsched
  obtain ⟨q, hq, h⟩ := Option.bind_eq_some_iff.1 h
  split_ifs at h with hpurp
  obtain rfl := Option.some.inj h
  obtain ⟨start, rfl, habsolute⟩ := validateAbsolute_eq_some hp
  obtain ⟨start', duration, rfl, hsome, hrecu⟩ := validateRecurring_eq_some hq
  rw [validatePurpose] at hpurp
  refine ⟨⟨by omega, ⟨?_, ?_⟩, fun hkind => hsome (habsolute hkind), hsched, hrecu, ?_, ?_,
    hsupported⟩, by omega⟩
  · change 0 ≤ profile.stackLevel
    omega
  · change profile.stackLevel ≤ _
    omega
  · intro hmax
    rw [hmax] at hpurp
    simpa using hpurp
  · intro htx
    rw [htx] at hpurp
    simp only [ne_eq, decide_not, Bool.and_eq_true, Bool.not_eq_true',
      decide_eq_false_iff_not] at hpurp
    exact hpurp.1

lemma validateProfile_of_valid (hsize : handler.connectors.size = config.numberOfConnectors + 1)
    (hvalid : Valid config connectorId profile)
    (hroom : (handler.getNumberInstalledProfiles : ℤ) < config.maxChargingProfilesInstalled)
    (hpurp : profile.chargingProfilePurpose ≠ .txProfile) :
    handler.validateProfile config now connectorId false profile = some profile := by
  have habsolute : validateAbsolute config now profile = some profile := by
    unfold validateAbsolute
    split_ifs with hkind
    · exact withStartSchedule_of_isSome (hvalid.absolute hkind)
    · rfl
  have hrecu : validateRecurring config now profile = some profile := by
    unfold validateRecurring
    split_ifs with hkind
    · obtain ⟨kind, hsome, hstart, hdur⟩ := hvalid.recurring hkind
      have hlimited : profile.chargingSchedule.duration.map (min · (maxRecurrencyDuration kind)) =
          profile.chargingSchedule.duration := by
        cases hd : profile.chargingSchedule.duration with
        | none => rfl
        | some duration => simp [min_eq_left (hdur duration hd)]
      rw [hsome, Option.bind_some, withStartSchedule_of_isSome hstart, Option.map_some,
        limitDuration, hlimited]
    · rfl
  have hvalidPurpose : handler.validatePurpose connectorId false profile = true := by
    unfold validatePurpose
    cases hp : profile.chargingProfilePurpose with
    | chargePointMaxProfile => simpa using hvalid.chargePointMax hp
    | txDefaultProfile => rfl
    | txProfile => exact absurd hp hpurp
  have hconn := hvalid.connector
  have hlevel := hvalid.level
  rw [validateProfile, if_neg (by omega), habsolute, Option.bind_some, if_neg (by omega),
    if_neg (not_not.2 hvalid.schedule), hrecu, Option.bind_some, if_pos hvalidPurpose]

lemma validateProfile_tx (hpurp : profile.chargingProfilePurpose = .txProfile)
    (htransaction : handler.transaction? connectorId = none) :
    handler.validateProfile config now connectorId false profile = none := by
  by_contra hsome
  obtain ⟨profile', h⟩ := Option.ne_none_iff_exists'.1 hsome
  rw [validateProfile] at h
  split at h
  · cases h
  obtain ⟨p, hp, h⟩ := Option.bind_eq_some_iff.1 h
  split at h
  · cases h
  split at h
  · cases h
  obtain ⟨q, hq, h⟩ := Option.bind_eq_some_iff.1 h
  obtain ⟨start, rfl, -⟩ := validateAbsolute_eq_some hp
  obtain ⟨start', duration, rfl, -⟩ := validateRecurring_eq_some hq
  have hinvalid : handler.validatePurpose connectorId false
      ((profile.timed start profile.chargingSchedule.duration).timed start' duration) = false := by
    have hp : ((profile.timed start profile.chargingSchedule.duration).timed start'
      duration).chargingProfilePurpose = .txProfile := hpurp
    rw [validatePurpose, hp]
    rw [hasTransactionFor, htransaction]
    cases ((profile.timed start profile.chargingSchedule.duration).timed start'
      duration).transactionId <;> simp
  rw [hinvalid] at h
  cases h

lemma reread_reread : profile.reread.reread = profile.reread := by
  have htime : rereadTime ∘ rereadTime = rereadTime := by
    funext time
    rw [Function.comp_apply, rereadTime, rereadTime, Int.mul_tdiv_cancel _ (by decide)]
  simp [reread, Option.map_map, htime]

lemma Valid.reread (h : Valid config connectorId profile) :
    Valid config connectorId profile.reread where
  connector := h.connector
  level := h.level
  absolute hkind := by
    rw [← h.absolute hkind]
    exact Option.isSome_map
  schedule := h.schedule
  recurring hkind := by
    obtain ⟨kind, hsome, hstart, hdur⟩ := h.recurring hkind
    refine ⟨kind, hsome, ?_, hdur⟩
    rw [← hstart]
    exact Option.isSome_map
  chargePointMax := h.chargePointMax
  tx := h.tx
  supported := h.supported

/-- A restart can give the profile back as it is. -/
def ChargingProfile.Lasting (profile : ChargingProfile) : Prop :=
  profile.reread = profile ∧ profile.chargingProfilePurpose ≠ .txProfile

def Configured (config : Configuration) (handler : SmartChargingHandler) : Prop :=
  handler.connectors.keys = (List.range (config.numberOfConnectors + 1)).map Int.ofNat

def Configuration.targets (config : Configuration) (connectorId : ℤ) (profile : ChargingProfile) :
    List MapRef :=
  (start config []).targets connectorId profile

lemma start_configured (config : Configuration) (database : Database) :
    Configured config (start config database) := by
  simp [Configured, start, SortedMap.keys]

lemma Configured.size (h : Configured config handler) :
    handler.connectors.size = config.numberOfConnectors + 1 := by
  have hlen := congrArg length h
  simpa [SortedMap.keys, SortedMap.size] using hlen

variable {id : ℤ} {ref : MapRef} {rows rows' database : Database} {handler' : SmartChargingHandler}
    {row : Row}

lemma Configured.mem (h : Configured config handler) :
    id ∈ handler.connectors.keys ↔ 0 ≤ id ∧ id ≤ config.numberOfConnectors := by
  rw [h, mem_map]
  constructor
  · rintro ⟨n, hn, rfl⟩
    have := mem_range.1 hn
    simp only [Int.ofNat_eq_natCast]
    omega
  · rintro ⟨hlow, hhigh⟩
    exact ⟨id.toNat, mem_range.2 (by omega), by simp [hlow]⟩

lemma Configured.targets (h : Configured config handler) (connectorId : ℤ)
    (profile : ChargingProfile) :
    handler.targets connectorId profile = config.targets connectorId profile := by
  rw [Configuration.targets, SmartChargingHandler.targets, SmartChargingHandler.targets,
    physicalConnectors, physicalConnectors, h.size, (start_configured config []).size]

lemma mem_physicalConnectors :
    id ∈ (start config []).physicalConnectors ↔ 1 ≤ id ∧ id ≤ config.numberOfConnectors := by
  rw [physicalConnectors, (start_configured config []).size, mem_map]
  constructor
  · rintro ⟨n, hn, rfl⟩
    have := mem_range'_1.1 hn
    simp only [Int.ofNat_eq_natCast]
    omega
  · rintro ⟨hlow, hhigh⟩
    exact ⟨id.toNat, mem_range'_1.2 (by omega), by simp; omega⟩

/-- A map that profiles of its purpose can be installed in. -/
def MapRef.Proper (config : Configuration) (ref : MapRef) : Prop :=
  ref = .chargePointMax ∨ 1 ≤ ref.connectorId ∧ ref.connectorId ≤ config.numberOfConnectors

lemma targets_proper (hvalid : Valid config connectorId profile)
    (h : ref ∈ config.targets connectorId profile) :
    ref.purpose = profile.chargingProfilePurpose ∧ ref.Proper config := by
  have hconn := hvalid.connector
  rw [Configuration.targets, targets] at h
  cases hpurp : profile.chargingProfilePurpose with
  | chargePointMaxProfile =>
    rw [hpurp] at h
    obtain rfl := mem_singleton.1 h
    exact ⟨rfl, .inl rfl⟩
  | txDefaultProfile =>
    rw [hpurp] at h
    split_ifs at h with hzero
    · obtain ⟨id, hid, rfl⟩ := mem_map.1 h
      exact ⟨rfl, .inr (mem_physicalConnectors.1 hid)⟩
    · obtain rfl := mem_singleton.1 h
      refine ⟨rfl, .inr ?_⟩
      simp only [MapRef.connectorId]
      omega
  | txProfile =>
    rw [hpurp] at h
    obtain rfl := mem_singleton.1 h
    have hne := hvalid.tx hpurp
    refine ⟨rfl, .inr ?_⟩
    simp only [MapRef.connectorId]
    omega

/-- A proper map of the right purpose is a target unless it belongs to another connector than
the one that the profile is for. -/
theorem mem_targets (hvalid : Valid config connectorId profile) (hproper : ref.Proper config)
    (hpurp : ref.purpose = profile.chargingProfilePurpose)
    (hconn : connectorId ≠ 0 → ref.connectorId = connectorId) :
    ref ∈ config.targets connectorId profile := by
  rw [Configuration.targets, targets, ← hpurp]
  cases ref with
  | chargePointMax => exact mem_singleton.2 rfl
  | txDefault =>
    split_ifs with hzero
    · exact mem_map_of_mem (mem_physicalConnectors.2 (hproper.resolve_left (by simp)))
    · exact mem_singleton.2 (congrArg MapRef.txDefault (hconn hzero))
  | tx =>
    exact mem_singleton.2 (congrArg MapRef.tx (hconn (hvalid.tx hpurp.symm)))

lemma MapRef.Proper.has (h : ref.Proper config) (hc : Configured config handler) :
    handler.Has ref := by
  cases ref with
  | chargePointMax => trivial
  | txDefault | tx =>
    have hid := h.resolve_left (by simp)
    simp only [MapRef.connectorId] at hid
    exact hc.mem.2 (by omega)

/-- There was room for the next profile when those of `rows` were installed. -/
def Room (config : Configuration) (rows : Database) : Prop :=
  ∃ handler, Configured config handler ∧
    (handler.getNumberInstalledProfiles : ℤ) < config.maxChargingProfilesInstalled ∧
    ∀ row ∈ rows, ∀ ref ∈ config.targets row.connectorId row.profile,
      ∃ profile, handler.Held ref row.profile.stackLevel profile

/-- The rows of a table that loads without a conflict. -/
structure Loadable (config : Configuration) (rows : Database) : Prop where
  ids : rows.Pairwise fun a b => a.profile.chargingProfileId ≠ b.profile.chargingProfileId
  levels : rows.Pairwise fun a b => ¬(a.profile.stackLevel = b.profile.stackLevel ∧
    a.profile.chargingProfilePurpose = b.profile.chargingProfilePurpose)
  valid : ∀ row ∈ rows, Valid config row.connectorId row.profile
  room : ∀ before row after, rows = before ++ row :: after → Room config before

/-- The maps hold what the table says, and possibly more. -/
structure Sound (config : Configuration) (handler : SmartChargingHandler) : Prop where
  configured : Configured config handler
  loadable : Loadable config handler.database
  stored : ∀ row ∈ handler.database, ∀ ref ∈ config.targets row.connectorId row.profile,
    handler.Held ref row.profile.stackLevel row.profile
  fitting : ∀ ⦃ref stackLevel profile⦄, handler.Held ref stackLevel profile →
    stackLevel = profile.stackLevel ∧ ref.purpose = profile.chargingProfilePurpose ∧
      ref.Proper config
  unique : handler.UniqueIds

lemma Room.mono (h : Room config rows) (hsub : rows' ⊆ rows) : Room config rows' := by
  obtain ⟨handler, hcfgd, hcount, hheld⟩ := h
  exact ⟨handler, hcfgd, hcount, fun row hrow => hheld row (hsub hrow)⟩

lemma Loadable.sublist (h : Loadable config rows) (hsub : rows'.Sublist rows) :
    Loadable config rows' where
  ids := h.ids.sublist hsub
  levels := h.levels.sublist hsub
  valid row hrow := h.valid row (hsub.subset hrow)
  room before row after heq := by
    subst heq
    obtain ⟨first, rest, rfl, hfirst, hrest⟩ := append_sublist_iff.1 hsub
    obtain ⟨skipped, tail, rfl, hrow, -⟩ := cons_sublist_iff.1 hrest
    obtain ⟨skipped, others, rfl⟩ := append_of_mem hrow
    refine (h.room (first ++ skipped) row (others ++ tail) (by simp)).mono ?_
    exact fun other hother => mem_append_left _ (hfirst.subset hother)

lemma Sound.removes {P : MapRef → ℤ → ChargingProfile → Prop} (h : Sound config handler)
    (hrem : Removes P handler handler') :
    Sound config handler' where
  configured := hrem.keys.trans h.configured
  loadable := h.loadable.sublist hrem.sublist
  stored row hrow ref href := by
    have hrow' := hrem.sublist.subset hrow
    have hheld := h.stored row hrow' ref href
    refine (hrem.held ..).2 ⟨hheld, ?_⟩
    intro hP
    exact (hrem.mem row hrow').1 hrow _ _ _ hheld hP rfl
  fitting ref stackLevel profile hheld := h.fitting ((hrem.held ..).1 hheld).1
  unique := hrem.uniqueIds h.unique

abbrev ChargingProfile.Rivals (a b : ChargingProfile) : Prop :=
  a.stackLevel = b.stackLevel ∧ a.chargingProfilePurpose = b.chargingProfilePurpose

lemma mem_insertOrUpdate : row ∈ database.insertOrUpdateChargingProfile connectorId profile ↔
      (row ∈ database ∧ ¬row.profile.Rivals profile ∧
        row.profile.chargingProfileId ≠ profile.chargingProfileId) ∨
      row = ⟨connectorId, profile⟩ := by
  simp only [Database.insertOrUpdateChargingProfile, mem_append, mem_filter,
    mem_singleton, decide_eq_true_eq, and_assoc]

lemma insertOrUpdate_loadable (h : Loadable config database)
    (hvalid : Valid config connectorId profile) (hroom : Room config database) :
    Loadable config (database.insertOrUpdateChargingProfile connectorId profile) := by
  have hsub : ((database.filter (¬·.profile.Rivals profile)).filter
      (·.profile.chargingProfileId ≠ profile.chargingProfileId)).Sublist database :=
    filter_sublist.trans filter_sublist
  have hkept := h.sublist hsub
  refine ⟨?_, ?_, ?_, ?_⟩
  · refine pairwise_append.2 ⟨hkept.ids, pairwise_singleton _ _, ?_⟩
    intro row hrow new hnew
    obtain rfl := mem_singleton.1 hnew
    simpa using (mem_filter.1 hrow).2
  · refine pairwise_append.2 ⟨hkept.levels, pairwise_singleton _ _, ?_⟩
    intro row hrow new hnew
    obtain rfl := mem_singleton.1 hnew
    exact of_decide_eq_true (mem_filter.1 (mem_filter.1 hrow).1).2
  · intro row hrow
    rcases mem_append.1 hrow with hrow | hrow
    · exact hkept.valid row hrow
    · obtain rfl := mem_singleton.1 hrow
      exact hvalid
  · intro before row after heq
    refine hroom.mono fun other hother => hsub.subset ?_
    rcases append_eq_append_iff.1 heq with ⟨rest, rfl, hrest⟩ | ⟨rest, hkeptEq, -⟩
    · obtain rfl : rest = [] := by
        have hlen := congrArg length hrest
        simp only [length_cons, length_nil, length_append] at hlen
        exact length_eq_zero_iff.1 (by omega)
      rwa [append_nil] at hother
    · rw [hkeptEq]
      exact mem_append_left _ hother

lemma Sound.adds (h : Sound config handler) (hvalid : Valid config connectorId profile)
    (hroom : Room config handler.database)
    (hnew : ∀ ref stackLevel other, handler.Held ref stackLevel other →
      other.chargingProfileId ≠ profile.chargingProfileId)
    (hadds : Adds connectorId profile handler handler') :
    Sound config handler' where
  configured := hadds.keys.trans h.configured
  loadable := hadds.database ▸ insertOrUpdate_loadable h.loadable hvalid hroom
  stored row hrow ref href := by
    rw [hadds.database] at hrow
    rcases mem_insertOrUpdate.1 hrow with ⟨hrow, hdiff, -⟩ | rfl
    · refine (hadds.held ..).2 (.inr ⟨?_, h.stored row hrow ref href⟩)
      rw [h.configured.targets]
      rintro ⟨htarget, hlevel⟩
      refine hdiff ⟨hlevel, ?_⟩
      rw [← (targets_proper (h.loadable.valid row hrow) href).1]
      exact (targets_proper hvalid htarget).1
    · refine (hadds.held ..).2 (.inl ⟨?_, rfl, rfl⟩)
      rwa [h.configured.targets]
  fitting ref stackLevel other hheld := by
    rcases (hadds.held ..).1 hheld with ⟨htarget, rfl, rfl⟩ | ⟨-, hheld⟩
    · rw [h.configured.targets] at htarget
      exact ⟨rfl, targets_proper hvalid htarget⟩
    · exact h.fitting hheld
  unique ref stackLevel other ref' stackLevel' other' hheld hheld' hid := by
    rcases (hadds.held ..).1 hheld with ⟨-, -, rfl⟩ | ⟨-, hheld⟩
    · rcases (hadds.held ..).1 hheld' with ⟨-, -, rfl⟩ | ⟨-, hheld'⟩
      · rfl
      · exact absurd hid.symm (hnew _ _ _ hheld')
    · rcases (hadds.held ..).1 hheld' with ⟨-, -, rfl⟩ | ⟨-, hheld'⟩
      · exact absurd hid (hnew _ _ _ hheld)
      · exact h.unique hheld hheld' hid

def restorable (rows : Database) : Database :=
  (rows.filter fun row => row.profile.chargingProfilePurpose ≠ .txProfile).map fun row =>
    ⟨row.connectorId, row.profile.reread⟩

def Shows (config : Configuration) (rows : Database) (handler : SmartChargingHandler) : Prop :=
  ∀ ref stackLevel profile, handler.Held ref stackLevel profile ↔
    ∃ row ∈ rows, ref ∈ config.targets row.connectorId row.profile ∧
      stackLevel = row.profile.stackLevel ∧ profile = row.profile

/-- The rows `todo` are still to be loaded, and `loaded` are. -/
structure Loading (config : Configuration) (todo loaded : Database)
    (handler : SmartChargingHandler) : Prop where
  configured : Configured config handler
  idle : ∀ id, handler.transaction? id = none
  database : handler.database = todo ++ loaded
  shows : Shows config loaded handler

lemma mem_restorable (h : row ∈ restorable rows) :
    ∃ row' ∈ rows, row'.profile.chargingProfilePurpose ≠ .txProfile ∧
      row = ⟨row'.connectorId, row'.profile.reread⟩ := by
  obtain ⟨row', hrow', rfl⟩ := mem_map.1 h
  obtain ⟨hmem, hpurp⟩ := mem_filter.1 hrow'
  exact ⟨row', hmem, of_decide_eq_true hpurp, rfl⟩

lemma Room.restorable (h : Room config rows) : Room config (restorable rows) := by
  obtain ⟨handler, hcfgd, hcount, hheld⟩ := h
  refine ⟨handler, hcfgd, hcount, ?_⟩
  intro row hrow ref href
  obtain ⟨row', hrow', -, rfl⟩ := mem_restorable hrow
  exact hheld row' hrow' ref href

lemma transaction?_modifyProfiles {f : ProfilesMap → ProfilesMap} :
    (handler.modifyProfiles ref f).transaction? id = handler.transaction? id := by
  cases ref with
  | chargePointMax => rfl
  | txDefault | tx =>
    simp only [transaction?, modifyProfiles, SortedMap.find?_modify]
    cases handler.connectors.find? id with
    | none => rfl
    | some =>
      split_ifs <;> rfl

lemma transaction?_foldl_putProfile {refs : List MapRef} :
    (refs.foldl (putProfile profile) handler).transaction? id = handler.transaction? id := by
  induction refs generalizing handler with
  | nil => rfl
  | cons ref refs ih => exact ih.trans (transaction?_modifyProfiles ..)

lemma insertOrUpdate_head
    (hids : ∀ other ∈ rows, row.profile.chargingProfileId ≠ other.profile.chargingProfileId)
    (hlevels : ∀ other ∈ rows, ¬row.profile.Rivals other.profile) :
    Database.insertOrUpdateChargingProfile row.connectorId row.profile.reread (row :: rows) =
      rows ++ [⟨row.connectorId, row.profile.reread⟩] := by
  have hrest : (row :: rows).filter (¬·.profile.Rivals row.profile.reread) = rows := by
    rw [filter_cons_of_neg (by simp [reread])]
    refine filter_eq_self.2 ?_
    intro other hother
    refine decide_eq_true ?_
    rintro ⟨hlevel, hpurp⟩
    exact hlevels other hother ⟨hlevel.symm, hpurp.symm⟩
  have hself : rows.filter (fun other =>
      other.profile.chargingProfileId ≠ row.profile.reread.chargingProfileId) = rows := by
    refine filter_eq_self.2 ?_
    intro other hother
    exact decide_eq_true (hids other hother).symm
  rw [Database.insertOrUpdateChargingProfile, hrest, hself]

lemma Shows.adds (h : Shows config rows handler) (hcfgd : Configured config handler)
    (hlevels : ∀ row ∈ rows, ¬profile.Rivals row.profile)
    (hvalid : Valid config connectorId profile)
    (hvalids : ∀ row ∈ rows, Valid config row.connectorId row.profile)
    (hadds : Adds connectorId profile handler handler') :
    Shows config (rows ++ [⟨connectorId, profile⟩]) handler' := by
  intro ref stackLevel other
  rw [hadds.held, h, hcfgd.targets]
  constructor
  · rintro (⟨htarget, hlevel, hother⟩ | ⟨-, row, hrow, hrest⟩)
    · exact ⟨⟨connectorId, profile⟩, by simp, htarget, hlevel, hother⟩
    · exact ⟨row, mem_append_left _ hrow, hrest⟩
  · rintro ⟨row, hrow, htarget, hlevel, hother⟩
    rcases mem_append.1 hrow with hrow | hrow
    · refine .inr ⟨?_, row, hrow, htarget, hlevel, hother⟩
      rintro ⟨htarget', hlevel'⟩
      refine hlevels row hrow ⟨hlevel'.symm.trans hlevel, ?_⟩
      rw [← (targets_proper hvalid htarget').1]
      exact (targets_proper (hvalids row hrow) htarget).1
    · obtain rfl := mem_singleton.1 hrow
      exact .inl ⟨htarget, hlevel, hother⟩

lemma loadChargingProfile_loading (now : ℤ) {before after : Database}
    (hrows : Loadable config (before ++ row :: after))
    (h : Loading config (row :: after) (restorable before) handler) :
    Loading config after (restorable (before ++ [row]))
      (loadChargingProfile config now handler row.profile.reread) := by
  have hvalid : Valid config row.connectorId row.profile.reread :=
    (hrows.valid row (by simp)).reread
  -- No other row has the id, nor the stack level together with the purpose.
  have hids : ∀ other ∈ after ++ restorable before,
      row.profile.chargingProfileId ≠ other.profile.chargingProfileId := by
    obtain ⟨-, hafter, hbef⟩ := pairwise_append.1 hrows.ids
    intro other hother
    rcases mem_append.1 hother with hother | hother
    · exact (pairwise_cons.1 hafter).1 other hother
    · obtain ⟨other', hother', -, rfl⟩ := mem_restorable hother
      exact (hbef other' hother' row mem_cons_self).symm
  have hlevels : ∀ other ∈ after ++ restorable before, ¬row.profile.Rivals other.profile := by
    obtain ⟨-, hafter, hbef⟩ := pairwise_append.1 hrows.levels
    intro other hother
    rcases mem_append.1 hother with hother | hother
    · exact (pairwise_cons.1 hafter).1 other hother
    · obtain ⟨other', hother', -, rfl⟩ := mem_restorable hother
      rintro ⟨hlevel, hpurp⟩
      exact hbef other' hother' row mem_cons_self ⟨hlevel.symm, hpurp.symm⟩
  have hconn : handler.database.getConnectorId row.profile.reread.chargingProfileId =
      some row.connectorId := by
    rw [h.database]
    simp [Database.getConnectorId, reread]
  rw [loadChargingProfile, hconn]
  dsimp only
  by_cases htx : row.profile.chargingProfilePurpose = .txProfile
  · have hinvalid : handler.validateProfile config now row.connectorId false row.profile.reread =
        none := validateProfile_tx htx (h.idle _)
    have hsame : restorable (before ++ [row]) = restorable before := by
      simp [restorable, htx]
    rw [hinvalid, hsame]
    refine ⟨h.configured, h.idle, ?_, ?_⟩
    · change Database.deleteChargingProfile _ handler.database = _
      rw [h.database]
      refine (filter_cons_of_neg ?_).trans (filter_eq_self.2 ?_)
      · simp [reread]
      · intro other hother
        exact decide_eq_true (hids other hother).symm
    · intro ref stackLevel profile
      exact h.shows ref stackLevel profile
  · have hroom : (handler.getNumberInstalledProfiles : ℤ) <
        config.maxChargingProfilesInstalled := by
      obtain ⟨full, hfull, hcount, hheld⟩ := (hrows.room before row after rfl).restorable
      refine lt_of_le_of_lt (Int.ofNat_le.2 (getNumberInstalledProfiles_le ?_ ?_)) hcount
      · rw [h.configured, hfull]
      · intro ref stackLevel profile hprof
        obtain ⟨other, hother, htarget, rfl, rfl⟩ := (h.shows ..).1 hprof
        exact hheld other hother ref htarget
    rw [validateProfile_of_valid h.configured.size hvalid hroom htx]
    dsimp only
    rw [if_pos hvalid.supported]
    have hsnoc : restorable (before ++ [row]) =
        restorable before ++ [⟨row.connectorId, row.profile.reread⟩] := by
      simp [restorable, htx]
    have hmax := fun hmax => (hvalid.chargePointMax hmax).1
    have hadds := addProfile_adds hmax (by
      intro ref href
      rw [h.configured.targets] at href
      exact (targets_proper hvalid href).2.has h.configured)
    rw [hsnoc]
    refine ⟨hadds.keys.trans h.configured, ?_, ?_, ?_⟩
    · intro id
      rw [addProfile_eq hmax]
      exact transaction?_foldl_putProfile.trans (h.idle id)
    · rw [hadds.database, h.database, ← append_assoc]
      exact insertOrUpdate_head hids hlevels
    · refine h.shows.adds h.configured ?_ hvalid ?_ hadds
      · intro other hother
        exact hlevels other (mem_append_right _ hother)
      · intro other hother
        obtain ⟨other', hother', -, rfl⟩ := mem_restorable hother
        exact (hrows.valid other' (mem_append_left _ hother')).reread

lemma foldl_loadChargingProfile (before : Database) {todo : Database}
    (hrows : Loadable config (before ++ todo))
    (h : Loading config todo (restorable before) handler) :
    Loading config [] (restorable (before ++ todo))
      (todo.getChargingProfiles.foldl (loadChargingProfile config now) handler) := by
  induction todo generalizing before handler with
  | nil => simpa [Database.getChargingProfiles] using h
  | cons row todo ih =>
    have hround := loadChargingProfile_loading now hrows h
    have hsplit : before ++ row :: todo = (before ++ [row]) ++ todo := by simp
    rw [hsplit] at hrows ⊢
    exact ih (before ++ [row]) hrows hround

lemma start_connector {connector : Connector}
    (h : (start config database).connectors.find? id = some connector) : connector = {} := by
  obtain ⟨n, -, heq⟩ := mem_map.1 (SortedMap.find?_eq_some.1 h)
  exact (congrArg Prod.snd heq).symm

lemma start_profiles (database : Database) (ref : MapRef) :
    (start config database).profiles ref = ∅ := by
  cases ref with
  | chargePointMax => rfl
  | txDefault id | tx id =>
    rw [profiles]
    cases hid : (start config database).connectors.find? id with
    | none => rfl
    | some => rw [start_connector hid, Option.elim_some]

lemma restart_loading (now : ℤ) (h : Loadable config handler.database) :
    Loading config [] (restorable handler.database) (handler.restart config now) := by
  refine foldl_loadChargingProfile [] h ⟨start_configured _ _, ?_, ?_, ?_⟩
  · intro id
    rw [transaction?]
    cases hid : (start config handler.database).connectors.find? id with
    | none => rfl
    | some => rw [start_connector hid, Option.bind_some]
  · exact (append_nil _).symm
  · intro ref stackLevel profile
    rw [Held, start_profiles]
    simp [restorable]

lemma Loadable.restorable (h : Loadable config rows) : Loadable config (restorable rows) := by
  have hkept := h.sublist (filter_sublist (l := rows)
    (p := fun row => row.profile.chargingProfilePurpose ≠ .txProfile))
  refine ⟨pairwise_map.2 hkept.ids, pairwise_map.2 hkept.levels, ?_, ?_⟩
  · intro row hrow
    obtain ⟨row', hrow', -, rfl⟩ := mem_restorable hrow
    exact (h.valid row' hrow').reread
  · intro before row after heq
    obtain ⟨before', rest, hrows, rfl, hrest⟩ := map_eq_append_iff.1 heq
    obtain ⟨row', after', rfl, -, -⟩ := map_eq_cons_iff.1 hrest
    obtain ⟨full, hfull, hcount, hheld⟩ := hkept.room before' row' after' hrows
    refine ⟨full, hfull, hcount, ?_⟩
    intro other hother ref href
    obtain ⟨other', hother', rfl⟩ := mem_map.1 hother
    exact hheld other' hother' ref href

end Everest.SmartCharging.V16.Store
