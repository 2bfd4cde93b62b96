import Everest.Auth.Feasibility
import Everest.Auth.ReservationHandler
import Everest.Lib.Runs

namespace Everest.Auth
open List SortedMap

namespace ReservationHandler
open Runs Arrivals

variable {configured : Bool}

def ids (h : ReservationHandler) : List ℤ :=
  h.reservationList.map (·.reservation.reservationId)

/-- No id is used twice, and each reservation has its timer. -/
structure Booked (h : ReservationHandler) : Prop where
  unique : h.ids.Nodup
  timed : ∀ id, id ∈ h.timers.keys ↔ id ∈ h.ids

def Persisted (configured : Bool) (h : ReservationHandler) : Prop :=
  h.store = if configured then some h.reservationList else none

def Fitting (h : ReservationHandler) : Prop :=
  ∀ e ∈ h.evseReservations.entries, ∃ evse, h.evses.find? e.1 = some evse ∧
    ∃ c ∈ evse.connectors, c.fits e.2.type = true

lemma ids_eq (h : ReservationHandler) : h.ids =
    h.evseReservations.entries.map (·.2.reservationId) ++
      h.globalReservations.map (·.reservationId) := by
  simp [ids, reservationList, Function.comp_def]

/-- The reservations with these ids are gone, the others stay. -/
structure Dropped (gone : List ℤ) (h h' : ReservationHandler) : Prop where
  evses : h'.evses = h.evses
  evseReservations : h'.evseReservations.entries =
    h.evseReservations.entries.filter (·.2.reservationId ∉ gone)
  globalReservations : h'.globalReservations =
    h.globalReservations.filter (·.reservationId ∉ gone)

lemma Dropped.refl (h : ReservationHandler) : Dropped [] h h :=
  ⟨rfl, by simp, by simp⟩

variable {h h' : ReservationHandler} {gone : List ℤ} {id : ℤ} {evseId : Option ℕ}
    {reservation : Reservation} {type : ConnectorTypeEnum} {evse : EVSEContext}

lemma Dropped.trans {a b : List ℤ} {h'' : ReservationHandler} (hd : Dropped a h h')
    (hd' : Dropped b h' h'') : Dropped (a ++ b) h h'' := by
  refine ⟨hd'.evses.trans hd.evses, ?_, ?_⟩
  · rw [hd'.evseReservations, hd.evseReservations, filter_filter]
    refine filter_congr fun e _ => ?_
    simp [Bool.and_comm]
  · rw [hd'.globalReservations, hd.globalReservations, filter_filter]
    refine filter_congr fun r _ => ?_
    simp [Bool.and_comm]

lemma Dropped.ids_eq (hd : Dropped gone h h') : h'.ids = h.ids.filter (· ∉ gone) := by
  rw [ReservationHandler.ids_eq, ReservationHandler.ids_eq, hd.evseReservations,
    hd.globalReservations, filter_append, filter_map, filter_map]
  rfl

variable {α : Type*} {l : List α}

lemma eraseP_eq_filter {β : Type*} [DecidableEq β] {f : α → β} {b : β} (h : (l.map f).Nodup) :
    l.eraseP (f · = b) = l.filter (f · ≠ b) := by
  induction l with
  | nil => rfl
  | cons a l ih =>
    obtain ⟨hnew, hrest⟩ := nodup_cons.1 h
    by_cases ha : f a = b
    · have hall : ∀ x ∈ l, f x ≠ b := fun x hx hb =>
        hnew (mem_map.2 ⟨x, hx, hb.trans ha.symm⟩)
      rw [eraseP_cons_of_pos (by simpa using ha), filter_cons_of_neg (by simpa using ha),
        filter_eq_self.2 (by simpa using hall)]
    · rw [eraseP_cons_of_neg (by simpa using ha), filter_cons_of_pos (by simpa using ha),
        ih hrest]

lemma filter_ids_eq_self {f : α → ℤ} (h : ∀ i ∈ l.map f, i ∉ gone) : l.filter (f · ∉ gone) = l :=
  filter_eq_self.2 fun x hx => by simpa using h _ (mem_map_of_mem hx)

lemma removeReservation_dropped (huniq : h.ids.Nodup) :
    Dropped [id] h (h.removeReservation id) := by
  rw [ids_eq, nodup_append'] at huniq
  obtain ⟨hevse, hglob, hdisj⟩ := huniq
  unfold removeReservation evseOfReservation
  cases hlast : (h.evseReservations.entries.filter (·.2.reservationId = id)).getLast? with
  | none =>
    have hnone := filter_eq_nil_iff.1 (getLast?_eq_none_iff.1 hlast)
    refine ⟨rfl, ?_, ?_⟩
    · exact (filter_eq_self.2 (by simpa using hnone)).symm
    · simpa using eraseP_eq_filter hglob
  | some e =>
    obtain ⟨he, hid⟩ := mem_filter.1 (mem_of_getLast? hlast)
    replace hid : e.2.reservationId = id := by simpa using hid
    refine ⟨rfl, ?_, ?_⟩
    · -- the key and the id single out the same entry
      refine filter_congr fun x hx => decide_eq_decide.2 (not_congr ?_)
      rw [mem_singleton]
      constructor
      · intro hkey
        have hfind := find?_eq_some.2 he
        have hxfind := find?_eq_some.2 hx
        rw [hkey, hfind] at hxfind
        rw [← hid, Option.some.inj hxfind]
      · intro hxid
        rw [inj_on_of_nodup_map hevse hx he (hxid.trans hid.symm)]
    · refine (filter_ids_eq_self fun i hi hmem => ?_).symm
      exact hdisj (mem_map.2 ⟨e, he, hid⟩) (mem_singleton.1 hmem ▸ hi)

lemma cancelReservation_of_notMem (hb : h.Booked) (hid : id ∉ h.ids) (callback : Bool)
    (reason : ReservationEndReason) : (h.cancelReservation id callback reason).2 = h := by
  rw [cancelReservation, if_neg]
  rwa [SortedMap.contains_iff, hb.timed]

structure Removed (id : ℤ) (h h' : ReservationHandler) : Prop where
  evses : h'.evses = h.evses
  evseReservations : h'.evseReservations = (h.removeReservation id).evseReservations
  globalReservations : h'.globalReservations = (h.removeReservation id).globalReservations
  timers : h'.timers = h.timers.erase id
  store : h'.store = h.store.map fun _ => h'.reservationList

lemma cancelReservation_removed (hid : h.timers.contains id = true) (callback : Bool)
    (reason : ReservationEndReason) : Removed id h (h.cancelReservation id callback reason).2 := by
  have hremove : removeReservation id { h with timers := h.timers.erase id } =
      { h with
        evseReservations := (h.removeReservation id).evseReservations
        globalReservations := (h.removeReservation id).globalReservations
        timers := h.timers.erase id } := by
    unfold removeReservation
    cases evseOfReservation id h.evseReservations <;> rfl
  rw [cancelReservation, if_pos hid]
  dsimp only
  rw [hremove]
  cases callback <;> exact ⟨rfl, rfl, rfl, rfl, rfl⟩

lemma cancelReservation_dropped (hb : h.Booked) (id : ℤ) (callback : Bool)
    (reason : ReservationEndReason) :
    Dropped [id] h (h.cancelReservation id callback reason).2 := by
  by_cases hid : id ∈ h.ids
  · have hremoved := cancelReservation_removed
      (contains_iff.2 ((hb.timed id).2 hid)) callback reason
    obtain ⟨-, hevse, hglob⟩ := removeReservation_dropped hb.unique
    exact ⟨hremoved.evses, by rw [hremoved.evseReservations, hevse],
      hremoved.globalReservations.trans hglob⟩
  · rw [cancelReservation_of_notMem hb hid]
    rw [ids_eq, mem_append, not_or] at hid
    refine ⟨rfl, (filter_ids_eq_self fun i hi hmem => ?_).symm,
      (filter_ids_eq_self fun i hi hmem => ?_).symm⟩
    · exact hid.1 (mem_singleton.1 hmem ▸ hi)
    · exact hid.2 (mem_singleton.1 hmem ▸ hi)

lemma cancelReservation_booked (hb : h.Booked) (id : ℤ) (callback : Bool)
    (reason : ReservationEndReason) : (h.cancelReservation id callback reason).2.Booked := by
  have hids := (cancelReservation_dropped hb id callback reason).ids_eq
  by_cases hid : id ∈ h.ids
  · have hremoved := cancelReservation_removed
      (contains_iff.2 ((hb.timed id).2 hid)) callback reason
    refine ⟨hids ▸ hb.unique.filter _, fun i => ?_⟩
    rw [hremoved.timers, mem_keys_erase, hb.timed, hids, mem_filter]
    simp
  · rwa [cancelReservation_of_notMem hb hid]

lemma cancelReservation_persisted (hp : h.Persisted configured) (id : ℤ) (callback : Bool)
    (reason : ReservationEndReason) :
    (h.cancelReservation id callback reason).2.Persisted configured := by
  by_cases hid : h.timers.contains id = true
  · have hremoved := cancelReservation_removed hid callback reason
    rw [Persisted, hremoved.store, hp]
    cases configured <;> rfl
  · rwa [cancelReservation, if_neg hid]

lemma Dropped.fitting (hd : Dropped gone h h') (hf : h.Fitting) : h'.Fitting := by
  intro e he
  rw [hd.evseReservations] at he
  rw [hd.evses]
  exact hf e (mem_filter.1 he).1

lemma cancelAll_spec (hb : h.Booked) (gone : List ℤ) :
    let h' := gone.foldl (fun h id => (h.cancelReservation id true .cancelled).2) h
    Dropped gone h h' ∧ h'.Booked ∧ (h.Persisted configured → h'.Persisted configured) := by
  induction gone generalizing h with
  | nil => exact ⟨.refl h, hb, id⟩
  | cons id gone ih =>
    obtain ⟨hdrop, hbooked, hpers⟩ := ih (cancelReservation_booked hb id true .cancelled)
    exact ⟨(cancelReservation_dropped hb id true .cancelled).trans hdrop, hbooked,
      fun hp => hpers (cancelReservation_persisted hp id true .cancelled)⟩

structure Added (evseId : Option ℕ) (reservation : Reservation) (h h' : ReservationHandler) :
    Prop where
  evses : h'.evses = h.evses
  list : h'.reservationList.Perm (⟨evseId, reservation⟩ :: h.reservationList)
  timers : h'.timers = h.timers.insert reservation.reservationId reservation.expiryTime
  store : h'.store = h.store.map fun _ => h'.reservationList

lemma Added.booked (ha : Added evseId reservation h h') (hb : h.Booked)
    (hnew : reservation.reservationId ∉ h.ids) : h'.Booked := by
  have hids : h'.ids.Perm (reservation.reservationId :: h.ids) := ha.list.map _
  refine ⟨hids.nodup_iff.2 (nodup_cons.2 ⟨hnew, hb.unique⟩), fun id => ?_⟩
  rw [ha.timers, mem_keys_insert, hids.mem_iff, mem_cons, hb.timed]

def storeForEvse (evseId : ℕ) (reservation : Reservation) (h : ReservationHandler) :
    ReservationHandler :=
  ({ h with evseReservations := h.evseReservations.insert evseId reservation
    }.storeReservations).setReservationTimer reservation

def storeForAll (reservation : Reservation) (h : ReservationHandler) : ReservationHandler :=
  ({ h with globalReservations := h.globalReservations ++ [reservation]
    }.storeReservations).setReservationTimer reservation

lemma storeForEvse_added {evseId : ℕ} (hnew : evseId ∉ h.evseReservations.keys)
    (reservation : Reservation) :
    Added (some evseId) reservation h (h.storeForEvse evseId reservation) := by
  refine ⟨rfl, ?_, rfl, rfl⟩
  have hents := (insert_perm hnew reservation).map
    fun e => (⟨some e.1, e.2⟩ : StoredReservation)
  exact hents.append_right _

lemma storeForAll_added : Added none reservation h (h.storeForAll reservation) := by
  refine ⟨rfl, ?_, rfl, rfl⟩
  simp only [reservationList, storeForAll, storeReservations, setReservationTimer, map_append,
    map_cons, map_nil, ← append_assoc]
  exact perm_append_singleton _ _

lemma makeEvseReservation_cases {evseId : ℕ} : (h.makeEvseReservation evseId reservation).2 = h ∨
      evseId ∉ h.evseReservations.keys ∧
      (∃ evse, h.evses.find? evseId = some evse ∧ evse.IsFree ∧ evse.Offers reservation.type) ∧
      (h.globalReservations = [] ∨ isReservationPossible h.evses none h.globalReservations
        (h.evseReservations.insert evseId reservation) = true) ∧
      h.makeEvseReservation evseId reservation =
        (.accepted, h.storeForEvse evseId reservation) := by
  unfold makeEvseReservation
  by_cases hresv : h.evseReservations.contains evseId = true
  · exact .inl (by rw [if_pos hresv])
  rw [if_neg hresv]
  cases hfind : h.evses.find? evseId with
  | none => exact .inl rfl
  | some evse =>
    dsimp only
    split_ifs with htype hstate hconn hposs
    · exact .inl rfl
    · exact .inl rfl
    · exact .inl rfl
    · refine .inr ⟨?_, ⟨evse, rfl, ?_, ?_⟩, hposs, rfl⟩
      · simpa [SortedMap.contains_iff] using hresv
      · exact ((evseState_accepted hfind).1 (not_not.1 hstate)).1
      · have hacc := not_not.1 hconn
        rw [getConnectorAvailabilityReservationResult, hfind] at hacc
        exact (connectorAvailability_accepted (by decide)).1 hacc
    · exact .inl rfl

lemma makeGlobalReservation_cases : (h.makeGlobalReservation reservation).2 = h ∨
      isReservationPossible h.evses (some reservation.type) h.globalReservations
        h.evseReservations = true ∧
      h.makeGlobalReservation reservation = (.accepted, h.storeForAll reservation) := by
  unfold makeGlobalReservation
  split_ifs with htype hposs
  · exact .inl rfl
  · exact .inr ⟨hposs, rfl⟩
  · exact .inl rfl

/-- Cancelling comes first, so the id is free when the reservation is stored. -/
theorem makeReservation_cases (hb : h.Booked) {now : ℤ} :
    let cancelled := (h.cancelReservation reservation.reservationId false .cancelled).2
    let h' := (h.makeReservation now evseId reservation).2
    h' = h ∨ h' = cancelled ∨
      reservation.reservationId ∉ cancelled.ids ∧ Added evseId reservation cancelled h' ∧
      match evseId with
      | some id => h' = cancelled.storeForEvse id reservation ∧
          id ∉ cancelled.evseReservations.keys ∧
          (∃ evse, cancelled.evses.find? id = some evse ∧ evse.IsFree ∧
            evse.Offers reservation.type) ∧
          (cancelled.globalReservations = [] ∨
            isReservationPossible cancelled.evses none cancelled.globalReservations
              (cancelled.evseReservations.insert id reservation) = true)
      | none => h' = cancelled.storeForAll reservation ∧
          isReservationPossible cancelled.evses (some reservation.type)
            cancelled.globalReservations cancelled.evseReservations = true := by
  intro cancelled h'
  have hnew : reservation.reservationId ∉ cancelled.ids := by
    rw [(cancelReservation_dropped hb _ _ _).ids_eq]
    simp
  by_cases hexp : reservation.expiryTime < now
  · exact .inl (by simp only [h', makeReservation, if_pos hexp])
  right
  cases evseId with
  | some id =>
    have hmake : h' = (cancelled.makeEvseReservation id reservation).2 := by
      simp only [h', cancelled, makeReservation, if_neg hexp]
    rw [hmake]
    rcases makeEvseReservation_cases with hsame | ⟨hkey, hevse, hok, heq⟩
    · exact .inl hsame
    · rw [heq]
      exact .inr ⟨hnew, storeForEvse_added hkey reservation, rfl, hkey, hevse, hok⟩
  | none =>
    have hmake : h' = (cancelled.makeGlobalReservation reservation).2 := by
      simp only [h', cancelled, makeReservation, if_neg hexp]
    rw [hmake]
    rcases makeGlobalReservation_cases with hsame | ⟨hok, heq⟩
    · exact .inl hsame
    · rw [heq]
      exact .inr ⟨hnew, storeForAll_added, rfl, hok⟩

lemma onConnectorStateChanged_cancels {state : ConnectorState} {evseId : ℕ} {connectorId : ℤ} :
    ∃ gone : List ℤ, h.onConnectorStateChanged state evseId connectorId =
      gone.foldl (fun h id => (h.cancelReservation id true .cancelled).2) h := by
  unfold onConnectorStateChanged
  split_ifs
  · exact ⟨[], rfl⟩
  cases h.evses.find? evseId with
  | none => exact ⟨[], rfl⟩
  | some evse =>
    dsimp only
    cases evse.connectors.find? (·.id = connectorId) with
    | none => exact ⟨[], rfl⟩
    | some =>
      cases h.evseReservations.find? evseId with
      | none => exact ⟨_, rfl⟩
      | some reservation =>
        dsimp only
        split_ifs
        · exact ⟨[reservation.reservationId], rfl⟩
        · exact ⟨_, rfl⟩

lemma onConnectorStateChanged_spec (hb : h.Booked) (state : ConnectorState) (evseId : ℕ)
    (connectorId : ℤ) : let h' := h.onConnectorStateChanged state evseId connectorId
    ∃ gone, Dropped gone h h' ∧ h'.Booked ∧ (h.Persisted configured → h'.Persisted configured) := by
  obtain ⟨gone, heq⟩ := onConnectorStateChanged_cancels
  exact ⟨gone, heq ▸ cancelAll_spec hb gone⟩

lemma exists_fits_submitToConnector {connectors : List Connector}
    (h : ∃ c ∈ connectors, c.fits type = true) {connectorId : ℤ} {event : ConnectorEvent} :
    ∃ c ∈ submitToConnector connectorId event connectors, c.fits type = true := by
  induction connectors with
  | nil => simp at h
  | cons first connectors ih =>
    unfold submitToConnector
    rw [exists_mem_cons_iff] at h
    split_ifs <;> rw [exists_mem_cons_iff]
    · exact h
    · exact h.imp_right ih

lemma submitEventForConnector_cases {evseId : ℕ} {connectorId : ℤ} {event : ConnectorEvent} :
    h.submitEventForConnector evseId connectorId event = h ∨
      ∃ evse connector, h.evses.find? evseId = some evse ∧
        evse.connectors.find? (·.id = connectorId) = some connector ∧
        h.submitEventForConnector evseId connectorId event =
          onConnectorStateChanged (connector.state.next event) evseId connectorId
            { h with evses := submitEvent evseId connectorId event h.evses } := by
  unfold submitEventForConnector
  cases hevse : h.evses.find? evseId with
  | none => exact .inl rfl
  | some evse =>
    dsimp only
    cases hconn : evse.connectors.find? (·.id = connectorId) with
    | none => exact .inl rfl
    | some connector => exact .inr ⟨evse, connector, rfl, hconn, rfl⟩

lemma fitting_of_submit (hf : h.Fitting) (evseId : ℕ) (connectorId : ℤ) (event : ConnectorEvent) :
    Fitting { h with evses := submitEvent evseId connectorId event h.evses } := by
  intro e he
  obtain ⟨evse, hfind, hfits⟩ := hf e he
  refine ⟨_, by rw [submitEvent, find?_modify, hfind, Option.map_some], ?_⟩
  split_ifs
  · exact exists_fits_submitToConnector hfits
  · exact hfits

lemma Added.fitting (ha : Added evseId reservation h h') (hf : h.Fitting)
    (hfits : ∀ id, evseId = some id → ∃ evse, h.evses.find? id = some evse ∧
      ∃ c ∈ evse.connectors, c.fits reservation.type = true) : h'.Fitting := by
  intro e he
  have hmem : (⟨some e.1, e.2⟩ : StoredReservation) ∈ h'.reservationList :=
    mem_append_left _ (mem_map.2 ⟨e, he, rfl⟩)
  rw [ha.evses]
  rcases mem_cons.1 (ha.list.mem_iff.1 hmem) with heq | hold
  · obtain ⟨hid, hres⟩ := StoredReservation.mk.inj heq
    rw [hres]
    exact hfits e.1 hid.symm
  · refine hf e ?_
    simpa [reservationList] using hold

structure InOrder (configured : Bool) (h : ReservationHandler) : Prop where
  booked : h.Booked
  persisted : h.Persisted configured
  fitting : h.Fitting

lemma makeReservation_inOrder (ho : h.InOrder configured) (now : ℤ) (evseId : Option ℕ)
    (reservation : Reservation) :
    (h.makeReservation now evseId reservation).2.InOrder configured := by
  obtain ⟨hb, hp, hf⟩ := ho
  have hdrop := cancelReservation_dropped hb reservation.reservationId false .cancelled
  have hbooked := cancelReservation_booked hb reservation.reservationId false .cancelled
  have hpers := cancelReservation_persisted hp reservation.reservationId false .cancelled
  rcases makeReservation_cases hb with hsame | hsame | ⟨hnew, hadded, hmade⟩
  · rw [hsame]
    exact ⟨hb, hp, hf⟩
  · rw [hsame]
    exact ⟨hbooked, hpers, hdrop.fitting hf⟩
  · refine ⟨hadded.booked hbooked hnew, ?_, hadded.fitting (hdrop.fitting hf) ?_⟩
    · rw [Persisted, hadded.store, hpers]
      cases configured <;> rfl
    · rintro id rfl
      obtain ⟨-, -, ⟨evse, hfind, -, c, hc, hfits, -⟩, -⟩ := hmade
      exact ⟨evse, hfind, c, hc, hfits⟩

lemma cancelReservation_inOrder (ho : h.InOrder configured) {callback : Bool}
    {reason : ReservationEndReason} :
    (h.cancelReservation id callback reason).2.InOrder configured :=
  ⟨cancelReservation_booked ho.booked _ _ _, cancelReservation_persisted ho.persisted _ _ _,
    (cancelReservation_dropped ho.booked _ _ _).fitting ho.fitting⟩

lemma step_inOrder (ho : h.InOrder configured) (input : Input) :
    (h.step input).InOrder configured := by
  cases input with
  | makeReservation now evseId reservation =>
    exact makeReservation_inOrder ho now evseId reservation
  | cancelReservation id callback reason => exact cancelReservation_inOrder ho
  | onReservationUsed id => exact cancelReservation_inOrder ho
  | expired id => exact cancelReservation_inOrder ho
  | cancelReservationOfEvse evseId callback =>
    dsimp only [step, cancelReservationOfEvse]
    cases h.evseReservations.find? evseId with
    | none => exact ho
    | some => exact cancelReservation_inOrder ho
  | submitEventForConnector evseId connectorId event =>
    dsimp only [step]
    rcases submitEventForConnector_cases with
      hsame | ⟨evse, connector, -, -, heq⟩
    · rwa [hsame]
    · rw [heq]
      obtain ⟨gone, hdrop, hbooked, hpers⟩ := onConnectorStateChanged_spec
        (h := { h with evses := submitEvent evseId connectorId event h.evses })
        ⟨ho.booked.unique, ho.booked.timed⟩ (connector.state.next event) evseId connectorId
      exact ⟨hbooked, hpers ho.persisted,
        hdrop.fitting (fitting_of_submit ho.fitting evseId connectorId event)⟩

def vacant (evse : EVSEContext) : EVSEContext :=
  { evse with
    connectors := evse.connectors.map fun c => { c with state := .available }
    pluggedIn := false }

def restarted (h : ReservationHandler) : ReservationHandler :=
  { evses := h.evses.map vacant, store := h.store }

lemma vacant_isFree : (vacant evse).IsFree :=
  ⟨rfl, by simp [vacant, Connector.isOccupied]⟩

lemma vacant_offers (h : ∃ c ∈ evse.connectors, c.fits type = true) :
    (vacant evse).Offers type := by
  obtain ⟨c, hc, hfits⟩ := h
  exact ⟨{ c with state := .available }, mem_map_of_mem hc, hfits, rfl⟩

structure Loaded (evses : Evses) (evseReservations : EvseReservations)
    (globalReservations : List Reservation) (h : ReservationHandler) : Prop where
  evses : h.evses = evses
  evseReservations : h.evseReservations = evseReservations
  globalReservations : h.globalReservations = globalReservations
  booked : h.Booked

variable {evses : Evses} {m : EvseReservations} {globals : List Reservation}
  {h : ReservationHandler} {now : ℤ}

lemma Loaded.ids_eq (hl : Loaded evses m globals h) :
    h.ids = m.entries.map (·.2.reservationId) ++ globals.map (·.reservationId) := by
  rw [ReservationHandler.ids_eq, hl.evseReservations, hl.globalReservations]

lemma makeReservation_new (hb : h.Booked) (hnew : reservation.reservationId ∉ h.ids)
    (hexpiry : now ≤ reservation.expiryTime) :
    h.makeReservation now evseId reservation =
      match evseId with
      | some evseId => h.makeEvseReservation evseId reservation
      | none => h.makeGlobalReservation reservation := by
  cases evseId <;>
    simp only [makeReservation, if_neg hexpiry.not_gt, cancelReservation_of_notMem hb hnew]

lemma loadReservation_evse (hl : Loaded evses m [] h) {evseId : ℕ}
    (hlast : ∀ e ∈ m.entries, e.1 < evseId)
    (hnew : reservation.reservationId ∉ m.entries.map (·.2.reservationId))
    (hexpiry : now ≤ reservation.expiryTime)
    (hevse : ∃ evse, evses.find? evseId = some evse ∧ evse.IsFree ∧ evse.Offers reservation.type) :
    Loaded evses (m.insert evseId reservation) []
      (h.loadReservation now ⟨some evseId, reservation⟩) := by
  obtain ⟨evse, hfind, hfree, hoff⟩ := hevse
  have hnew' : reservation.reservationId ∉ h.ids := by simpa [hl.ids_eq] using hnew
  have hkey : evseId ∉ h.evseReservations.keys := by
    rw [hl.evseReservations]
    intro hmem
    obtain ⟨e, he, heq⟩ := mem_map.1 hmem
    exact (hlast e he).ne heq
  have hmake : h.makeReservation now (some evseId) reservation =
      (.accepted, h.storeForEvse evseId reservation) := by
    rw [makeReservation_new hl.booked hnew' hexpiry]
    have hfind' : h.evses.find? evseId = some evse := hl.evses ▸ hfind
    have hresv := contains_eq_false.2 hkey
    have hstate := (evseState_accepted hfind').2 ⟨hfree, hresv⟩
    have hconn : getConnectorAvailabilityReservationResult h.evses evseId reservation.type =
        .accepted := by
      rw [getConnectorAvailabilityReservationResult, hfind']
      exact (connectorAvailability_accepted (by decide)).2 hoff
    simp [makeEvseReservation, hresv, hfind', hasEvseConnectorType_of_offers hoff, hstate,
      hconn, hl.globalReservations, storeForEvse]
  have hadded := storeForEvse_added hkey reservation
  obtain ⟨huniq, htimed⟩ := hadded.booked hl.booked hnew'
  unfold loadReservation
  rw [hmake]
  refine ⟨hl.evses, ?_, hl.globalReservations, ⟨huniq, htimed⟩⟩
  rw [← hl.evseReservations]
  rfl

lemma loadReservation_global (hl : Loaded evses m globals h)
    (hnew : reservation.reservationId ∉
      m.entries.map (·.2.reservationId) ++ globals.map (·.reservationId))
    (hexpiry : now ≤ reservation.expiryTime)
    (hposs : isReservationPossible evses (some reservation.type) globals m = true) :
    Loaded evses m (globals ++ [reservation]) (h.loadReservation now ⟨none, reservation⟩) := by
  have hnew' : reservation.reservationId ∉ h.ids := hl.ids_eq ▸ hnew
  have htype : doesEvseConnectorTypeExist evses reservation.type = true := by
    obtain ⟨id, evse, hfind, -, -, hoff⟩ := exists_serves_of_not_blocked
      (isReservationPossible_iff.1 hposs).2 (mem_append_right _ (mem_singleton_self _))
    exact any_eq_true.2
      ⟨(id, evse), find?_eq_some.1 hfind, hasEvseConnectorType_of_offers hoff⟩
  have hmake : h.makeReservation now none reservation = (.accepted, h.storeForAll reservation) := by
    rw [← hl.evses, ← hl.evseReservations, ← hl.globalReservations] at hposs
    rw [← hl.evses] at htype
    rw [makeReservation_new hl.booked hnew' hexpiry]
    simp [makeGlobalReservation, htype, hposs, storeForAll]
  unfold loadReservation
  rw [hmake]
  refine ⟨hl.evses, hl.evseReservations, ?_, storeForAll_added.booked hl.booked hnew'⟩
  rw [← hl.globalReservations]
  rfl

lemma loadReservations_evses {rest : List (ℕ × Reservation)} (hl : Loaded evses m [] h)
    (hsort : (m.entries ++ rest).Pairwise fun a b => a.1 < b.1)
    (huniq : ((m.entries ++ rest).map (·.2.reservationId)).Nodup)
    (hrest : ∀ e ∈ rest, now ≤ e.2.expiryTime ∧
      ∃ evse, evses.find? e.1 = some evse ∧ evse.IsFree ∧ evse.Offers e.2.type) :
    ∃ m' : EvseReservations, m'.entries = m.entries ++ rest ∧ Loaded evses m' []
      ((rest.map fun e => (⟨some e.1, e.2⟩ : StoredReservation)).foldl
        (loadReservation now) h) := by
  induction rest generalizing m h with
  | nil => exact ⟨m, (append_nil _).symm, hl⟩
  | cons e rest ih =>
    obtain ⟨⟨hexpiry, hevse⟩, hrest⟩ := forall_mem_cons.1 hrest
    have hlast : ∀ x ∈ m.entries, x.1 < e.1 := fun x hx =>
      (pairwise_append.1 hsort).2.2 x hx e mem_cons_self
    have hnew : e.2.reservationId ∉ m.entries.map (·.2.reservationId) := by
      rw [map_append, nodup_append'] at huniq
      exact fun hmem => huniq.2.2 hmem mem_cons_self
    have hins : (m.insert e.1 e.2).entries = m.entries ++ [e] := insertEntry_last hlast
    have happ : (m.insert e.1 e.2).entries ++ rest = m.entries ++ e :: rest := by
      rw [hins, append_assoc, singleton_append]
    obtain ⟨m', hm', hl'⟩ := ih (loadReservation_evse hl hlast hnew hexpiry hevse)
      (happ ▸ hsort) (happ ▸ huniq) hrest
    exact ⟨m', hm'.trans happ, hl'⟩

variable {rest : List Reservation}

/-- Each prefix of a feasible list is feasible, so none of its reservations is refused. -/
theorem isReservationPossible_next
    (hposs : isReservationPossible evses none (globals ++ reservation :: rest) m = true) :
    isReservationPossible evses (some reservation.type) globals m = true := by
  rw [← isReservationPossible_append]
  rw [append_cons] at hposs
  exact isReservationPossible_of_fewer (fun _ _ => rfl) rfl (.refl _)
    (sublist_append_left _ _) hposs

lemma loadReservations_globals (hl : Loaded evses m globals h)
    (huniq : (m.entries.map (·.2.reservationId) ++
      (globals ++ rest).map (·.reservationId)).Nodup)
    (hexpiry : ∀ r ∈ rest, now ≤ r.expiryTime)
    (hposs : isReservationPossible evses none (globals ++ rest) m = true) :
    Loaded evses m (globals ++ rest)
      ((rest.map fun r => (⟨none, r⟩ : StoredReservation)).foldl (loadReservation now) h) := by
  induction rest generalizing globals h with
  | nil => simpa using hl
  | cons r rest ih =>
    obtain ⟨hr, hrest⟩ := forall_mem_cons.1 hexpiry
    have happ : globals ++ r :: rest = globals ++ [r] ++ rest := by simp
    have hnew : r.reservationId ∉
        m.entries.map (·.2.reservationId) ++ globals.map (·.reservationId) := by
      rw [map_append, ← append_assoc, nodup_append'] at huniq
      exact fun hmem => huniq.2.2 hmem mem_cons_self
    have hl' := loadReservation_global hl hnew hr (isReservationPossible_next hposs)
    rw [happ] at huniq hposs ⊢
    exact ih hl' huniq hrest hposs

lemma loadReservations_restarted (ho : h.InOrder true)
    (hexpiry : ∀ s ∈ h.reservationList, now ≤ s.reservation.expiryTime)
    (hposs : isReservationPossible (h.evses.map vacant) none h.globalReservations
      h.evseReservations = true) :
    Loaded (h.evses.map vacant) h.evseReservations h.globalReservations
      (h.restarted.loadReservations now) := by
  have huniq := ids_eq h ▸ ho.booked.unique
  have hempty : Loaded (h.evses.map vacant) ∅ [] h.restarted :=
    ⟨rfl, rfl, rfl, ⟨nodup_nil, fun _ => .rfl⟩⟩
  obtain ⟨m, hm, hl⟩ := loadReservations_evses hempty
    h.evseReservations.sorted (nodup_append'.1 huniq).1 (by
      intro e he
      obtain ⟨evse, hfind, hfits⟩ := ho.fitting e he
      refine ⟨?_, vacant evse, by rw [SortedMap.find?_map, hfind]; rfl, vacant_isFree,
        vacant_offers hfits⟩
      exact hexpiry ⟨some e.1, e.2⟩ (mem_append_left _ (mem_map.2 ⟨e, he, rfl⟩)))
  obtain rfl : m = h.evseReservations := ext_entries hm
  have hall := loadReservations_globals hl huniq
    (fun r hr => hexpiry ⟨none, r⟩ (mem_append_right _ (mem_map.2 ⟨r, hr, rfl⟩))) hposs
  have hstore : h.restarted.store = some h.reservationList := ho.persisted
  rw [loadReservations, hstore]
  dsimp only
  rw [reservationList, foldl_append]
  exact hall

end ReservationHandler

open ReservationHandler Runs in
/-- In every reachable state no id is used twice, each reservation has its timer and the key value
store holds the reservations; a restart with available EVSEs restores them. -/
theorem reservation_books_consistent (evses : Evses) (configured : Bool) (inputs : List Input) :
    let h := run step { evses := evses, store := if configured then some [] else none } inputs
    h.ids.Nodup ∧ (∀ id, id ∈ h.timers.keys ↔ id ∈ h.ids) ∧
      (h.store = if configured then some h.reservationList else none) ∧
      ∀ now, configured = true → (∀ s ∈ h.reservationList, now ≤ s.reservation.expiryTime) →
        isReservationPossible (h.evses.map vacant) none h.globalReservations
          h.evseReservations = true →
        (h.restarted.loadReservations now).evseReservations = h.evseReservations ∧
        (h.restarted.loadReservations now).globalReservations = h.globalReservations := by
  intro h
  have hstep : ∀ (h : ReservationHandler) input, h.InOrder configured →
      (h.step input).InOrder configured := fun _ input ho => step_inOrder ho input
  have hfresh : InOrder configured
      { evses := evses, store := if configured then some [] else none } :=
    ⟨⟨List.nodup_nil, fun _ => .rfl⟩, rfl, fun _ he => absurd he List.not_mem_nil⟩
  have ho : h.InOrder configured := run_inv hstep hfresh inputs
  refine ⟨ho.booked.unique, ho.booked.timed, ho.persisted, ?_⟩
  rintro now rfl hexpiry hposs
  have hl := loadReservations_restarted ho hexpiry hposs
  exact ⟨hl.evseReservations, hl.globalReservations⟩

def twoEvses : Evses :=
  ⟨[(1, { connectors := [{ id := 1, type := .cCCS2 }] }),
    (2, { connectors := [{ id := 1, type := .cType2 }, { id := 2, type := .cCCS2 }] })], by simp⟩

open ReservationHandler Runs in
/-- An id is moved from EVSE 1 to EVSE 2 and a second reservation is for any EVSE. -/
theorem moved_reservation_restored :
    let h := run step { evses := twoEvses } [
      .makeReservation 0 (some 1) { reservationId := 7, expiryTime := 60 },
      .makeReservation 0 (some 2) { reservationId := 7, expiryTime := 60 },
      .makeReservation 0 none
        { reservationId := 8, expiryTime := 90, connectorType := some .cCCS2 }]
    h.reservationList.length = 2 ∧
      (h.restarted.loadReservations 30).evseReservations = h.evseReservations ∧
      (h.restarted.loadReservations 30).globalReservations = h.globalReservations := by
  refine ⟨by decide +kernel, ?_⟩
  exact (reservation_books_consistent twoEvses true _).2.2.2 30 rfl (by decide +kernel)
    (by decide +kernel)

end Everest.Auth
