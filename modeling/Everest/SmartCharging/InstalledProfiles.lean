import Everest.SmartCharging.ProfileStore
import Mathlib.Algebra.Order.BigOperators.Group.List
import Mathlib.Algebra.Order.Group.Nat

namespace Everest.SmartCharging.V16.Store
open SortedMap

variable {id : ℤ} {ref' : MapRef}

namespace SmartChargingHandler

def Held (handler : SmartChargingHandler) (ref : MapRef) (stackLevel : ℤ)
    (profile : ChargingProfile) : Prop :=
  (handler.profiles ref).find? stackLevel = some profile

def Has (handler : SmartChargingHandler) : MapRef → Prop
  | .chargePointMax => True
  | .txDefault id => id ∈ handler.connectors.keys
  | .tx id => id ∈ handler.connectors.keys

def UniqueIds (handler : SmartChargingHandler) : Prop :=
  ∀ ⦃ref stackLevel profile ref' stackLevel' profile'⦄, handler.Held ref stackLevel profile →
    handler.Held ref' stackLevel' profile' →
    profile.chargingProfileId = profile'.chargingProfileId → profile = profile'

variable {handler handler' handler'' : SmartChargingHandler} {ref : MapRef} {stackLevel : ℤ}
  {profile profile' : ChargingProfile}

lemma Held.unique (h : handler.Held ref stackLevel profile)
    (h' : handler.Held ref stackLevel profile') : profile = profile' :=
  Option.some.inj (h.symm.trans h')

lemma profiles_withDatabase {database : Database} :
    { handler with database }.profiles ref = handler.profiles ref := by
  cases ref <;> rfl

section Modify

variable {f : ProfilesMap → ProfilesMap}

lemma profiles_modifyProfiles_of_ne (h : ref' ≠ ref) :
    (handler.modifyProfiles ref f).profiles ref' = handler.profiles ref' := by
  cases ref with
  | chargePointMax => cases ref' <;> first | exact absurd rfl h | rfl
  | txDefault id =>
    cases ref' with
    | chargePointMax => rfl
    | txDefault id' =>
      have hid : id' ≠ id := fun hid => h (congrArg MapRef.txDefault hid)
      simp [modifyProfiles, profiles, find?_modify, hid]
    | tx id' => exact elim_find?_modify (by simp) _
  | tx id =>
    cases ref' with
    | chargePointMax => rfl
    | tx id' =>
      have hid : id' ≠ id := fun hid => h (congrArg MapRef.tx hid)
      simp [modifyProfiles, profiles, find?_modify, hid]
    | txDefault id' => exact elim_find?_modify (by simp) _

lemma profiles_modifyProfiles_self (h : f ∅ = ∅ ∨ handler.Has ref) :
    (handler.modifyProfiles ref f).profiles ref = f (handler.profiles ref) := by
  have hmissing : ∀ id, handler.connectors.find? id = none → id ∉ handler.connectors.keys := by
    intro id hid
    rw [← contains_eq_false, contains, hid]
    rfl
  cases ref with
  | chargePointMax => rfl
  | txDefault id | tx id =>
    simp only [modifyProfiles, profiles, find?_modify]
    cases hid : handler.connectors.find? id with
    | none => exact (h.resolve_right (hmissing id hid)).symm
    | some => simp

lemma keys_modifyProfiles (handler : SmartChargingHandler) (ref : MapRef)
    (f : ProfilesMap → ProfilesMap) :
    (handler.modifyProfiles ref f).connectors.keys = handler.connectors.keys := by
  cases ref with
  | chargePointMax => rfl
  | txDefault | tx => exact keys_modify ..

end Modify

/-- `handler'` is `handler` without the profiles chosen by `P` and the rows with their ids. -/
structure Removes (P : MapRef → ℤ → ChargingProfile → Prop)
    (handler handler' : SmartChargingHandler) : Prop where
  held : ∀ ref stackLevel profile, handler'.Held ref stackLevel profile ↔
    handler.Held ref stackLevel profile ∧ ¬P ref stackLevel profile
  sublist : handler'.database.Sublist handler.database
  mem : ∀ row ∈ handler.database, row ∈ handler'.database ↔
    ∀ ref stackLevel profile, handler.Held ref stackLevel profile → P ref stackLevel profile →
      profile.chargingProfileId ≠ row.profile.chargingProfileId
  keys : handler'.connectors.keys = handler.connectors.keys

namespace Removes

variable {P Q : MapRef → ℤ → ChargingProfile → Prop}

lemma nothing (hprofs : ∀ ref, handler'.profiles ref = handler.profiles ref)
    (hdb : handler'.database = handler.database)
    (hkeys : handler'.connectors.keys = handler.connectors.keys) :
    Removes (fun _ _ _ => False) handler handler' where
  held ref stackLevel profile := by simp [Held, hprofs]
  sublist := hdb ▸ .refl _
  mem row hrow := by simp [hdb, hrow]
  keys := hkeys

lemma congr (h : Removes P handler handler')
    (hPQ : ∀ ref stackLevel profile, handler.Held ref stackLevel profile →
      (P ref stackLevel profile ↔ Q ref stackLevel profile)) : Removes Q handler handler' where
  held ref stackLevel profile := by
    rw [h.held]
    exact and_congr_right fun hheld => not_congr (hPQ _ _ _ hheld)
  sublist := h.sublist
  mem row hrow := by
    rw [h.mem row hrow]
    exact forall₃_congr fun _ _ _ => forall_congr' fun hheld => by rw [hPQ _ _ _ hheld]
  keys := h.keys

lemma trans (h : Removes P handler handler') (h' : Removes Q handler' handler'') :
    Removes (fun ref stackLevel profile => P ref stackLevel profile ∨ Q ref stackLevel profile)
      handler handler'' where
  held ref stackLevel profile := by
    rw [h'.held, h.held, and_assoc, not_or]
  sublist := h'.sublist.trans h.sublist
  mem row hrow := by
    constructor
    · intro hrow'' ref stackLevel profile hheld hPQ
      have hrow' := h'.sublist.subset hrow''
      by_cases hP : P ref stackLevel profile
      · exact (h.mem row hrow).1 hrow' ref stackLevel profile hheld hP
      · exact (h'.mem row hrow').1 hrow'' ref stackLevel profile
          ((h.held ..).2 ⟨hheld, hP⟩) (hPQ.resolve_left hP)
    · intro hnone
      have hrow' : row ∈ handler'.database :=
        (h.mem row hrow).2 fun ref stackLevel profile hheld hP =>
          hnone ref stackLevel profile hheld (.inl hP)
      refine (h'.mem row hrow').2 ?_
      intro ref stackLevel profile hheld hQ
      exact hnone ref stackLevel profile ((h.held ..).1 hheld).1 (.inr hQ)
  keys := h'.keys.trans h.keys

lemma uniqueIds (h : Removes P handler handler') (huniq : handler.UniqueIds) :
    handler'.UniqueIds :=
  fun _ _ _ _ _ _ hp hq => huniq ((h.held ..).1 hp).1 ((h.held ..).1 hq).1

lemma foldl {α σ : Type*} (toHandler : σ → SmartChargingHandler) {round : σ → α → σ}
    {P : α → MapRef → ℤ → ChargingProfile → Prop}
    (hround : ∀ state a, (toHandler state).UniqueIds →
      Removes (P a) (toHandler state) (toHandler (round state a)))
    (as : List α) (state : σ) (huniq : (toHandler state).UniqueIds) :
    Removes (fun ref stackLevel profile => ∃ a ∈ as, P a ref stackLevel profile)
      (toHandler state) (toHandler (as.foldl round state)) := by
  induction as generalizing state with
  | nil =>
    refine (nothing (fun _ => rfl) rfl rfl).congr ?_
    simp
  | cons a as ih =>
    have hfirst := hround state a huniq
    refine (hfirst.trans (ih _ (hfirst.uniqueIds huniq))).congr ?_
    simp

end Removes

end SmartChargingHandler

lemma foldl_deleteChargingProfile (removed : List (ℤ × ChargingProfile)) (database : Database) :
    removed.foldl (fun database e => database.deleteChargingProfile e.2.chargingProfileId)
      database = database.filter fun row =>
        ∀ e ∈ removed, row.profile.chargingProfileId ≠ e.2.chargingProfileId := by
  induction removed generalizing database with
  | nil => simp
  | cons e removed ih =>
    rw [List.foldl_cons, ih, Database.deleteChargingProfile, List.filter_filter]
    refine List.filter_congr ?_
    intro row _
    rw [Bool.eq_iff_iff]
    simp [and_comm]

namespace SmartChargingHandler

variable {handler : SmartChargingHandler}

lemma removeProfiles_removes (remove : ℤ → ChargingProfile → Bool) (ref : MapRef)
    (handler : SmartChargingHandler) :
    Removes (fun ref' stackLevel profile => ref' = ref ∧ remove stackLevel profile = true) handler
      (handler.removeProfiles remove ref) where
  held ref' stackLevel profile := by
    rw [Held, removeProfiles, profiles_withDatabase]
    by_cases href : ref' = ref
    · subst href
      rw [profiles_modifyProfiles_self (.inl rfl), find?_filter]
      simp [Held]
    · rw [profiles_modifyProfiles_of_ne href]
      simp [Held, href]
  sublist := by
    rw [removeProfiles, foldl_deleteChargingProfile]
    exact List.filter_sublist
  mem row hrow := by
    rw [removeProfiles, foldl_deleteChargingProfile, List.mem_filter]
    simp only [hrow, true_and, decide_eq_true_eq, List.mem_filter, and_imp]
    constructor
    · rintro h ref' stackLevel profile hheld rfl hremove
      exact (h (stackLevel, profile) (find?_eq_some.1 hheld) hremove).symm
    · intro h e he hremove
      exact (h ref e.1 e.2 (find?_eq_some.2 he) rfl hremove).symm
  keys := keys_modifyProfiles ..

variable {ref : MapRef} {stackLevel : ℤ} {profile : ChargingProfile}
    {handler' : SmartChargingHandler}

lemma mem_connectorRefs :
    ref ∈ handler.connectorRefs ↔ ref ≠ .chargePointMax ∧ handler.Has ref := by
  cases ref <;> simp [connectorRefs, Has]

lemma Held.has (h : handler.Held ref stackLevel profile) : handler.Has ref := by
  cases ref with
  | chargePointMax => trivial
  | txDefault id | tx id =>
    cases hid : handler.connectors.find? id with
    | none => simp [Held, profiles, hid] at h
    | some connector => exact List.mem_map.2 ⟨(id, connector), find?_eq_some.1 hid, rfl⟩

lemma clearExpiredProfiles_removes (now : ℤ) (huniq : handler.UniqueIds) :
    Removes (fun _ _ profile => hasExpired now profile = true) handler
      (handler.clearExpiredProfiles now) := by
  refine (Removes.foldl id
    (fun handler ref _ => removeProfiles_removes (fun _ => hasExpired now) ref handler) _ _
    huniq).congr ?_
  intro ref stackLevel profile hheld
  have href : ref ∈ MapRef.chargePointMax :: handler.connectorRefs := by
    rw [List.mem_cons, mem_connectorRefs]
    by_cases h : ref = .chargePointMax
    · exact .inl h
    · exact .inr ⟨h, hheld.has⟩
  constructor
  · rintro ⟨_, _, -, hexp⟩
    exact hexp
  · intro hexp
    exact ⟨ref, href, rfl, hexp⟩

variable (filter : Filter) (state : SmartChargingHandler × Bool)

lemma clearConnector_removes :
    Removes (fun ref stackLevel profile => (ref = .txDefault id ∨ ref = .tx id) ∧
      filter.clears ref.connectorId stackLevel profile = true) state.1
      (clearConnector filter state id).1 := by
  refine ((removeProfiles_removes (filter.clears id) (.txDefault id) state.1).trans
    (removeProfiles_removes (filter.clears id) (.tx id) _)).congr ?_
  intro ref stackLevel profile _
  constructor
  · rintro (⟨rfl, hclears⟩ | ⟨rfl, hclears⟩)
    · exact ⟨.inl rfl, hclears⟩
    · exact ⟨.inr rfl, hclears⟩
  · rintro ⟨rfl | rfl, hclears⟩
    · exact .inl ⟨rfl, hclears⟩
    · exact .inr ⟨rfl, hclears⟩

lemma exists_txDefault_iff (test : ChargingProfile → Bool) :
    (handler.connectors.entries.any fun c =>
      c.2.stackLevelTxDefaultProfilesMap.entries.any fun e => test e.2) = true ↔
      ∃ id stackLevel profile, handler.Held (.txDefault id) stackLevel profile ∧
        test profile = true := by
  simp only [List.any_eq_true]
  constructor
  · rintro ⟨c, hc, e, he, htest⟩
    refine ⟨c.1, e.1, e.2, ?_, htest⟩
    rw [Held, profiles, find?_eq_some.2 hc]
    exact find?_eq_some.2 he
  · rintro ⟨id, stackLevel, profile, hheld, htest⟩
    cases hid : handler.connectors.find? id with
    | none => simp [Held, profiles, hid] at hheld
    | some connector =>
      rw [Held, profiles, hid] at hheld
      exact ⟨(id, connector), find?_eq_some.1 hid, (stackLevel, profile),
        find?_eq_some.1 hheld, htest⟩

lemma held_eraseCopies : (handler.eraseCopies id).Held ref stackLevel profile ↔
      handler.Held ref stackLevel profile ∧
        ¬(ref.purpose = .txDefaultProfile ∧ profile.chargingProfileId = id) := by
  unfold eraseCopies
  cases ref with
  | chargePointMax => simp [Held, profiles, MapRef.purpose]
  | txDefault c =>
    cases hc : handler.connectors.find? c with
    | none => simp [Held, profiles, find?_map, hc]
    | some =>
      simp [Held, profiles, find?_map, hc, find?_filter, MapRef.purpose]
  | tx c =>
    cases hc : handler.connectors.find? c with
    | none => simp [Held, profiles, find?_map, hc]
    | some => simp [Held, profiles, find?_map, hc, MapRef.purpose]

lemma clearCopies_removes (id : ℤ) (huniq : state.1.UniqueIds) :
    Removes (fun ref _ profile => ref.purpose = .txDefaultProfile ∧
      profile.chargingProfileId = id ∧ filter.matches profile = true) state.1
      (clearCopies filter state id).1 := by
  obtain ⟨handler, erased⟩ := state
  have hmatching : handler.idHasMatchingTxDefault filter id = true ↔
      ∃ c stackLevel profile, handler.Held (.txDefault c) stackLevel profile ∧
        profile.chargingProfileId = id ∧ filter.matches profile = true := by
    rw [idHasMatchingTxDefault, exists_txDefault_iff
      (fun profile => profile.chargingProfileId = id && filter.matches profile)]
    simp only [Bool.and_eq_true, decide_eq_true_eq]
  by_cases h : handler.idHasMatchingTxDefault filter id = true
  · obtain ⟨c, level, matching, hheld, hid, hmat⟩ := hmatching.1 h
    have hany := (exists_txDefault_iff (fun profile => profile.chargingProfileId = id)).2
      ⟨c, level, matching, hheld, by simpa using hid⟩
    dsimp only [clearCopies]
    rw [if_pos h, if_pos hany]
    constructor
    · intro ref stackLevel profile
      rw [Held, profiles_withDatabase]
      refine held_eraseCopies.trans (and_congr_right fun hprof => not_congr ?_)
      constructor
      · rintro ⟨href, hpid⟩
        obtain rfl := huniq hprof hheld (hpid.trans hid.symm)
        exact ⟨href, hpid, hmat⟩
      · rintro ⟨href, hpid, -⟩
        exact ⟨href, hpid⟩
    · exact List.filter_sublist
    · intro row hrow
      have hdb : (handler.eraseCopies id).database = handler.database := rfl
      dsimp only [Database.deleteChargingProfile]
      rw [List.mem_filter, hdb]
      simp only [hrow, true_and, decide_eq_true_eq, ne_eq]
      constructor
      · rintro hne ref stackLevel profile - ⟨-, hpid, -⟩ heq
        exact hne (heq.symm.trans hpid)
      · intro hnone heq
        exact hnone (.txDefault c) level matching hheld ⟨rfl, hid, hmat⟩ (hid.trans heq.symm)
    · exact keys_map ..
  · dsimp only [clearCopies]
    rw [if_neg h]
    refine (Removes.nothing (fun _ => rfl) rfl rfl).congr ?_
    rintro ref stackLevel profile hheld
    simp only [false_iff]
    rintro ⟨href, hid, hmat⟩
    cases ref with
    | chargePointMax | tx => cases href
    | txDefault c => exact h (hmatching.2 ⟨c, stackLevel, profile, hheld, hid, hmat⟩)

lemma clearChargePointCopies_removes (huniq : handler.UniqueIds) :
    ∃ ids : List ℤ, Removes (fun ref _ profile => filter.profileIdOpt = none ∧
      filter.connectorIdOpt = some 0 ∧ ref.purpose = .txDefaultProfile ∧
      profile.chargingProfileId ∈ ids ∧ filter.matches profile = true) handler
      (handler.clearChargePointCopies filter).1 := by
  by_cases h : filter.profileIdOpt = none ∧ filter.connectorIdOpt.getD 1 = 0
  · have hzero : filter.connectorIdOpt = some 0 := by
      cases hc : filter.connectorIdOpt with
      | none => simp [hc] at h
      | some => simpa [hc] using h.2
    rw [clearChargePointCopies, if_pos h]
    refine ⟨handler.database.getChargingProfileIdsByConnectorId 0, ?_⟩
    refine (Removes.foldl Prod.fst (clearCopies_removes filter) _ (handler, false)
      huniq).congr ?_
    simp [h.1, hzero, and_left_comm]
  · rw [clearChargePointCopies, if_neg h]
    refine ⟨[], (Removes.nothing (fun _ => rfl) rfl rfl).congr ?_⟩
    simp

lemma clearConnectors_removes (huniq : state.1.UniqueIds) :
    Removes (fun ref stackLevel profile => ref ≠ .chargePointMax ∧
      filter.clears ref.connectorId stackLevel profile = true) state.1
      (clearConnectors filter state).1 := by
  refine (Removes.foldl Prod.fst (fun state id _ => clearConnector_removes filter state) _ _
    huniq).congr ?_
  intro ref stackLevel profile hheld
  have hhas := hheld.has
  cases ref <;> simp_all [Has]

/-- A filter for connector 0 also clears the copies of the profiles in `ids`. -/
def Cleared (filter : Filter) (ids : List ℤ) (ref : MapRef) (stackLevel : ℤ)
    (profile : ChargingProfile) : Prop :=
  filter.clears ref.connectorId stackLevel profile = true ∨
    filter.profileIdOpt = none ∧ filter.connectorIdOpt = some 0 ∧
      ref.purpose = .txDefaultProfile ∧ profile.chargingProfileId ∈ ids ∧
      filter.matches profile = true

lemma clearAllProfilesWithFilter_removes (huniq : handler.UniqueIds) :
    ∃ ids, Removes (Cleared filter ids) handler (handler.clearAllProfilesWithFilter filter).1 := by
  have hmax := removeProfiles_removes (filter.clears 0) .chargePointMax handler
  obtain ⟨ids, hcopies⟩ := clearChargePointCopies_removes filter (hmax.uniqueIds huniq)
  have hconns := clearConnectors_removes filter _
    (hcopies.uniqueIds (hmax.uniqueIds huniq))
  refine ⟨ids, ((hmax.trans hcopies).trans hconns).congr ?_⟩
  intro ref stackLevel profile _
  rw [or_right_comm, Cleared]
  refine or_congr_left ?_
  cases ref <;> simp [MapRef.connectorId]

/-- The maps that a profile for a connector is written into. -/
def targets (handler : SmartChargingHandler) (connectorId : ℤ) (profile : ChargingProfile) :
    List MapRef :=
  match profile.chargingProfilePurpose with
  | .chargePointMaxProfile => [.chargePointMax]
  | .txDefaultProfile =>
    if connectorId = 0 then handler.physicalConnectors.map .txDefault else [.txDefault connectorId]
  | .txProfile => [.tx connectorId]

lemma addProfile_eq {connectorId : ℤ}
    (hmax : profile.chargingProfilePurpose = .chargePointMaxProfile → connectorId = 0) :
    handler.addProfile profile connectorId =
      ((handler.targets connectorId profile).foldl (putProfile profile) handler).store profile
        connectorId := by
  unfold addProfile targets
  cases hpurp : profile.chargingProfilePurpose with
  | chargePointMaxProfile =>
    rw [hmax hpurp]
    rfl
  | txDefaultProfile => rfl
  | txProfile => rfl

lemma has_iff_of_keys (h : handler'.connectors.keys = handler.connectors.keys) :
    handler'.Has ref ↔ handler.Has ref := by
  cases ref <;> simp [Has, h]

lemma foldl_putProfile_frame (profile : ChargingProfile) (refs : List MapRef)
    (handler : SmartChargingHandler) :
    (refs.foldl (putProfile profile) handler).connectors.keys = handler.connectors.keys ∧
      (refs.foldl (putProfile profile) handler).database = handler.database := by
  induction refs generalizing handler with
  | nil => exact ⟨rfl, rfl⟩
  | cons ref refs ih =>
    obtain ⟨hkeys, hdb⟩ := ih (handler.putProfile profile ref)
    exact ⟨hkeys.trans (keys_modifyProfiles ..), hdb.trans (by cases ref <;> rfl)⟩

lemma putProfile_find? (hhas : handler.Has ref) :
    ((handler.putProfile profile ref).profiles ref').find? stackLevel =
      if ref' = ref ∧ stackLevel = profile.stackLevel then some profile
      else (handler.profiles ref').find? stackLevel := by
  unfold putProfile
  by_cases href : ref' = ref
  · subst href
    rw [profiles_modifyProfiles_self (.inr hhas), find?_insert]
    simp
  · rw [profiles_modifyProfiles_of_ne href]
    simp [href]

lemma foldl_putProfile_find? {refs : List MapRef} (hhas : ∀ ref ∈ refs, handler.Has ref) :
    ((refs.foldl (putProfile profile) handler).profiles ref').find? stackLevel =
      if ref' ∈ refs ∧ stackLevel = profile.stackLevel then some profile
      else (handler.profiles ref').find? stackLevel := by
  induction refs generalizing handler with
  | nil => simp
  | cons ref refs ih =>
    have hkeys : (handler.putProfile profile ref).connectors.keys = handler.connectors.keys :=
      keys_modifyProfiles ..
    rw [List.foldl_cons, ih, putProfile_find? (hhas ref List.mem_cons_self)]
    · by_cases hlevel : stackLevel = profile.stackLevel
      · by_cases href : ref' ∈ refs
        all_goals simp [hlevel, href]
      · simp [hlevel]
    · intro other hother
      exact (has_iff_of_keys hkeys).2 (hhas other (List.mem_cons_of_mem _ hother))

/-- What adding a profile does: it stands in its maps, and nothing else is written. -/
structure Adds (connectorId : ℤ) (profile : ChargingProfile)
    (handler handler' : SmartChargingHandler) : Prop where
  held : ∀ ref stackLevel other, handler'.Held ref stackLevel other ↔
    (ref ∈ handler.targets connectorId profile ∧ stackLevel = profile.stackLevel ∧
      other = profile) ∨
    (¬(ref ∈ handler.targets connectorId profile ∧ stackLevel = profile.stackLevel) ∧
      handler.Held ref stackLevel other)
  database : handler'.database =
    handler.database.insertOrUpdateChargingProfile connectorId profile
  keys : handler'.connectors.keys = handler.connectors.keys

lemma addProfile_adds {connectorId : ℤ}
    (hmax : profile.chargingProfilePurpose = .chargePointMaxProfile → connectorId = 0)
    (hhas : ∀ ref ∈ handler.targets connectorId profile, handler.Has ref) :
    Adds connectorId profile handler (handler.addProfile profile connectorId) := by
  rw [addProfile_eq hmax]
  constructor
  · intro ref stackLevel other
    rw [Held, store, profiles_withDatabase, foldl_putProfile_find? hhas]
    by_cases h : ref ∈ handler.targets connectorId profile ∧ stackLevel = profile.stackLevel
    · simp [h, eq_comm]
    · rw [if_neg h]
      constructor
      · intro hheld
        exact .inr ⟨h, hheld⟩
      · rintro (⟨href, hlevel, -⟩ | ⟨-, hheld⟩)
        · exact absurd ⟨href, hlevel⟩ h
        · exact hheld
  · rw [store, (foldl_putProfile_frame ..).2]
  · exact (foldl_putProfile_frame ..).1

lemma getNumberInstalledProfiles_eq :
    handler.getNumberInstalledProfiles = (handler.profiles .chargePointMax).size +
      (handler.connectors.keys.map fun id =>
        (handler.profiles (.txDefault id)).size + (handler.profiles (.tx id)).size).sum := by
  rw [getNumberInstalledProfiles, keys, List.map_map]
  congr 2
  refine List.map_congr_left ?_
  intro e he
  have hfind := find?_eq_some.2 he
  simp [profiles, hfind]

lemma getNumberInstalledProfiles_le (hkeys : handler.connectors.keys = handler'.connectors.keys)
    (hheld : ∀ ref stackLevel profile, handler.Held ref stackLevel profile →
      ∃ profile', handler'.Held ref stackLevel profile') :
    handler.getNumberInstalledProfiles ≤ handler'.getNumberInstalledProfiles := by
  have hsize : ∀ ref, (handler.profiles ref).size ≤ (handler'.profiles ref).size := by
    intro ref
    refine size_le_of_keys_subset ?_
    intro stackLevel hlevel
    obtain ⟨e, he, rfl⟩ := List.mem_map.1 hlevel
    obtain ⟨profile', hprof'⟩ := hheld ref e.1 e.2 (find?_eq_some.2 he)
    exact List.mem_map.2 ⟨(e.1, profile'), find?_eq_some.1 hprof', rfl⟩
  rw [getNumberInstalledProfiles_eq, getNumberInstalledProfiles_eq, hkeys]
  refine Nat.add_le_add (hsize _) (List.sum_le_sum ?_)
  intro id _
  exact Nat.add_le_add (hsize _) (hsize _)

end SmartChargingHandler

end Everest.SmartCharging.V16.Store
