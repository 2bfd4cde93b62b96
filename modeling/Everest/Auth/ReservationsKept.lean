import Everest.Auth.ReservationBooks

namespace Everest.Auth
open List SortedMap

namespace ReservationHandler
open Runs Arrivals

/-- All reservations can be honoured, and an EVSE with a reservation of its own has a connector
for it. -/
structure Fulfillable (h : ReservationHandler) : Prop where
  possible : isReservationPossible h.evses none h.globalReservations h.evseReservations = true
  offered : ∀ e ∈ h.evseReservations.entries, ∃ evse ∈ h.evses.find? e.1, evse.Offers e.2.type

def Typed (h : ReservationHandler) : Prop :=
  ∀ s ∈ h.reservationList, s.reservation.connectorType.isSome = true

variable {configured : Bool} {evses evses' : Evses} {m m' : EvseReservations}
  {globals globals' : List Reservation} {h h' : ReservationHandler} {gone : List ℤ}

lemma Dropped.fulfillable (hd : Dropped gone h h') (hf : h.Fulfillable) : h'.Fulfillable := by
  refine ⟨?_, fun e he => ?_⟩
  · rw [hd.evses]
    exact isReservationPossible_of_fewer (fun _ _ => rfl) rfl
      (hd.evseReservations ▸ filter_sublist) (hd.globalReservations ▸ filter_sublist)
      hf.possible
  · rw [hd.evseReservations] at he
    rw [hd.evses]
    exact hf.offered e (mem_filter.1 he).1

lemma Dropped.typed (hd : Dropped gone h h') (ht : h.Typed) : h'.Typed := by
  intro s hs
  refine ht s ?_
  rw [reservationList, hd.evseReservations, hd.globalReservations] at hs
  exact ((filter_sublist.map _).append (filter_sublist.map _)).subset hs

variable {evseId : Option ℕ} {reservation : Reservation}

lemma Added.typed (ha : Added evseId reservation h h') (ht : h.Typed)
    (hres : reservation.connectorType.isSome = true) : h'.Typed := by
  intro s hs
  rcases mem_cons.1 (ha.list.mem_iff.1 hs) with rfl | hold
  · exact hres
  · exact ht s hold

lemma isReservationPossible_nil :
    isReservationPossible evses none [] m = true ↔ m.size ≤ evses.size := by
  simp [isReservationPossible, getAllPossibleOrders]

lemma Fitting.size_le (hf : h.Fitting) : h.evseReservations.size ≤ h.evses.size := by
  refine size_le_of_keys_subset fun k hk => ?_
  obtain ⟨e, he, rfl⟩ := mem_map.1 hk
  obtain ⟨evse, hfind, -⟩ := hf e he
  exact SortedMap.contains_iff.1 (by rw [SortedMap.contains, hfind]; rfl)

lemma makeReservation_fulfillable (ho : h.InOrder configured) (hf : h.Fulfillable) {now : ℤ} :
    (h.makeReservation now evseId reservation).2.Fulfillable := by
  have hfits := (makeReservation_inOrder ho now evseId reservation).fitting
  have hcancelled :=
    (cancelReservation_dropped ho.booked reservation.reservationId false .cancelled).fulfillable hf
  rcases makeReservation_cases ho.booked with hsame | hsame | ⟨-, -, hmade⟩
  · rwa [hsame]
  · rwa [hsame]
  cases evseId with
  | none =>
    obtain ⟨heq, hposs⟩ := hmade
    rw [heq]
    refine ⟨?_, hcancelled.offered⟩
    exact isReservationPossible_append.trans hposs
  | some =>
    obtain ⟨heq, -, ⟨evse, hfind, -, hoff⟩, hposs⟩ := hmade
    rw [heq] at hfits ⊢
    refine ⟨?_, fun e he => ?_⟩
    · rcases hposs with hnone | hposs
      · have hsize := hfits.size_le
        dsimp only [storeForEvse, storeReservations, setReservationTimer] at hsize ⊢
        rw [hnone]
        exact isReservationPossible_nil.2 hsize
      · exact hposs
    · rcases mem_insertEntry he with rfl | hold
      · exact ⟨evse, hfind, hoff⟩
      · exact hcancelled.offered e hold

lemma checkEvseReservations_all (rest : List (ℕ × Reservation)) (cancel : List ℤ)
    (hsort : (m.entries ++ rest).Pairwise fun a b => a.1 < b.1)
    (hsize : (m.entries ++ rest).length ≤ evses.size) :
    (checkEvseReservations evses m cancel rest).1.entries = m.entries ++ rest ∧
      (checkEvseReservations evses m cancel rest).2 = cancel := by
  induction rest generalizing m with
  | nil => exact ⟨(append_nil _).symm, rfl⟩
  | cons e rest ih =>
    have hins : (m.insert e.1 e.2).entries = m.entries ++ [e] :=
      insertEntry_last fun x hx =>
        (pairwise_append.1 hsort).2.2 x hx e mem_cons_self
    have happ : m.entries ++ e :: rest = (m.insert e.1 e.2).entries ++ rest := by
      rw [hins, append_assoc, singleton_append]
    rw [happ] at hsort hsize ⊢
    have hposs : isReservationPossible evses none [] (m.insert e.1 e.2) = true := by
      rw [isReservationPossible_nil, size]
      rw [length_append] at hsize
      omega
    rw [checkEvseReservations, if_pos hposs]
    exact ih hsort hsize

/-- The reservations that stay can be honoured, the ids of the others are collected. -/
theorem checkGlobalReservations_spec (kept : List Reservation) {rest : List Reservation}
    (cancel : List ℤ)
    (htyped : ∀ r ∈ rest, r.connectorType.isSome = true)
    (huniq : (rest.map (·.reservationId)).Nodup)
    (hposs : isReservationPossible evses none kept m = true) :
    ∃ gone, (checkGlobalReservations evses m kept cancel rest).2 = cancel ++ gone ∧
      (∀ id ∈ gone, id ∈ rest.map (·.reservationId)) ∧
      isReservationPossible evses none (kept ++ rest.filter (·.reservationId ∉ gone)) m = true := by
  induction rest generalizing kept cancel with
  | nil => exact ⟨[], by simp [checkGlobalReservations], by simp, by simpa using hposs⟩
  | cons r rest ih =>
    obtain ⟨hr, htyped⟩ := forall_mem_cons.1 htyped
    obtain ⟨hnew, huniq⟩ := nodup_cons.1 huniq
    have htype : r.connectorType = some r.type := by
      obtain ⟨type, htype⟩ := Option.isSome_iff_exists.1 hr
      simp [Reservation.type, htype]
    rw [checkGlobalReservations, htype, ← isReservationPossible_append]
    split_ifs with hfits
    · obtain ⟨gone, hcancel, hgone, hkept⟩ := ih _ cancel htyped huniq hfits
      have hstays : r.reservationId ∉ gone := fun hmem => hnew (hgone _ hmem)
      refine ⟨gone, hcancel, fun id hid => mem_cons_of_mem _ (hgone id hid), ?_⟩
      rwa [filter_cons_of_pos (by simpa using hstays), append_cons]
    · obtain ⟨gone, hcancel, hgone, hkept⟩ :=
        ih kept (cancel ++ [r.reservationId]) htyped huniq hposs
      refine ⟨r.reservationId :: gone, hcancel.trans (append_assoc _ _ _), ?_, ?_⟩
      · exact forall_mem_cons.2
          ⟨mem_cons_self, fun id hid => mem_cons_of_mem _ (hgone id hid)⟩
      · rw [filter_cons_of_neg (by simp)]
        have hothers : rest.filter (·.reservationId ∉ r.reservationId :: gone) =
            rest.filter (·.reservationId ∉ gone) := by
          refine filter_congr fun x hx => ?_
          have hne : x.reservationId ≠ r.reservationId := fun heq =>
            hnew (mem_map.2 ⟨x, hx, heq⟩)
          simp [hne]
        rwa [hothers]

lemma checkReservations_spec (hb : h.Booked) (ht : h.Typed)
    (hsize : h.evseReservations.size ≤ h.evses.size) :
    let h' := h.checkReservationsAndCancelIfNotPossible
    h'.evses = h.evses ∧ h'.evseReservations = h.evseReservations ∧
      isReservationPossible h.evses none h'.globalReservations h.evseReservations = true := by
  intro h'
  have huniq := ids_eq h ▸ hb.unique
  rw [nodup_append'] at huniq
  obtain ⟨hents, hcancel⟩ := @checkEvseReservations_all h.evses ∅ h.evseReservations.entries []
    h.evseReservations.sorted hsize
  have hkept : (checkEvseReservations h.evses ∅ [] h.evseReservations.entries).1 =
      h.evseReservations := ext_entries hents
  have htyped : ∀ r ∈ h.globalReservations, r.connectorType.isSome = true := fun r hr =>
    ht ⟨none, r⟩ (mem_append_right _ (mem_map.2 ⟨r, hr, rfl⟩))
  obtain ⟨gone, hgone, hids, hposs⟩ := checkGlobalReservations_spec [] []
    htyped huniq.2.1 (isReservationPossible_nil.2 hsize)
  have heq : h' = gone.foldl (fun h id => (h.cancelReservation id true .cancelled).2) h := by
    simp only [h', checkReservationsAndCancelIfNotPossible, hkept, hcancel, hgone, nil_append]
  obtain ⟨hdrop, -, -⟩ := @cancelAll_spec true h hb gone
  rw [← heq] at hdrop
  refine ⟨hdrop.evses, ext_entries ?_, ?_⟩
  · refine hdrop.evseReservations.trans (filter_ids_eq_self fun i hi hmem => ?_)
    exact huniq.2.2 hi (hids i hmem)
  · rw [hdrop.globalReservations]
    exact hposs

lemma submitToConnector_split {connectorId : ℤ} (event : ConnectorEvent) {connector : Connector}
    {connectors : List Connector}
    (hfind : connectors.find? (·.id = connectorId) = some connector) :
    ∃ before after, connectors = before ++ connector :: after ∧ connector.id = connectorId ∧
      (∀ c ∈ before, c.id ≠ connectorId) ∧ submitToConnector connectorId event connectors =
        before ++ connector.submitEvent event :: after := by
  obtain ⟨hid, before, after, rfl, hbef⟩ := find?_eq_some_iff_append.1 hfind
  replace hid : connector.id = connectorId := by simpa using hid
  replace hbef : ∀ c ∈ before, c.id ≠ connectorId := by simpa using hbef
  refine ⟨before, after, rfl, hid, hbef, ?_⟩
  clear hfind
  induction before with
  | nil => rw [nil_append, submitToConnector, if_pos hid, nil_append]
  | cons first before ih =>
    obtain ⟨hfirst, hbef⟩ := forall_mem_cons.1 hbef
    rw [cons_append, submitToConnector, if_neg hfirst, ih hbef, cons_append]

section Event

variable {evseId : ℕ} {connectorId : ℤ} {event : ConnectorEvent} {evse : EVSEContext}
  {connector : Connector}

def submitted (connectorId : ℤ) (event : ConnectorEvent) (evse : EVSEContext) : EVSEContext :=
  { evse with connectors := submitToConnector connectorId event evse.connectors }

lemma find?_submitEvent (hevse : evses.find? evseId = some evse) :
    (submitEvent evseId connectorId event evses).find? evseId =
      some (submitted connectorId event evse) := by
  rw [submitEvent, find?_modify, hevse, Option.map_some, if_pos rfl, submitted]

lemma find?_submitEvent_ne {id : ℕ} (hid : id ≠ evseId) :
    (submitEvent evseId connectorId event evses).find? id = evses.find? id := by
  rw [submitEvent, find?_modify]
  simp [hid]

lemma size_submitEvent : (submitEvent evseId connectorId event evses).size = evses.size :=
  size_modify

variable {type : ConnectorTypeEnum}

lemma submitted_offers
    (hconn : evse.connectors.find? (·.id = connectorId) = some connector)
    (hkeeps : connector.fits type = true → connector.state.next event = .available)
    (hoff : evse.Offers type) : (submitted connectorId event evse).Offers type := by
  obtain ⟨before, after, heq, -, -, hsubmit⟩ := submitToConnector_split event hconn
  obtain ⟨c, hc, hfits, havail⟩ := hoff
  rw [EVSEContext.Offers, submitted, hsubmit]
  rw [heq, mem_append, mem_cons] at hc
  rcases hc with hc | rfl | hc
  · exact ⟨c, by simp [hc], hfits, havail⟩
  · exact ⟨c.submitEvent event, by simp, hfits, hkeeps hfits⟩
  · exact ⟨c, by simp [hc], hfits, havail⟩

lemma submitEvent_self (hevse : evses.find? evseId = some evse)
    (hconn : evse.connectors.find? (·.id = connectorId) = some connector)
    (hnext : connector.state.next event = connector.state) {id : ℕ} :
    (submitEvent evseId connectorId event evses).find? id = evses.find? id := by
  by_cases hid : id = evseId
  · subst hid
    obtain ⟨before, after, heq, -, -, hsubmit⟩ := submitToConnector_split event hconn
    rw [find?_submitEvent hevse, hevse, submitted, hsubmit, Connector.submitEvent, hnext, ← heq]
  · exact find?_submitEvent_ne hid

/-- A reservation of a single EVSE, after an event that takes no connector from it. -/
theorem offered_submit {e : ℕ × Reservation} (hevse : evses.find? evseId = some evse)
    (hconn : evse.connectors.find? (·.id = connectorId) = some connector)
    (hkeeps : e.1 = evseId → connector.fits e.2.type = true →
      connector.state.next event = .available)
    (hoffered : ∃ evse ∈ evses.find? e.1, evse.Offers e.2.type) :
    ∃ evse ∈ (submitEvent evseId connectorId event evses).find? e.1, evse.Offers e.2.type := by
  obtain ⟨evse', hevse', hoff⟩ := hoffered
  by_cases hid : e.1 = evseId
  · rw [hid] at hevse' ⊢
    obtain rfl := Option.some.inj (hevse.symm.trans hevse')
    exact ⟨_, find?_submitEvent hevse, submitted_offers hconn (hkeeps hid) hoff⟩
  · exact ⟨evse', (find?_submitEvent_ne hid).trans hevse', hoff⟩

/-- Before the event no car of a reservation can stand at the EVSE, or the connector was
available already. -/
def AddsPlace (evseId : ℕ) (connectorId : ℤ) (event : ConnectorEvent) (h : ReservationHandler) :
    Prop :=
  ∀ evse ∈ h.evses.find? evseId, ∀ c ∈ evse.connectors.find? (·.id = connectorId),
    c.state.next event = .available → c.state = .available ∨ h.globalReservations = [] ∨
      evse.pluggedIn = true ∨ (∃ c ∈ evse.connectors, c.isOccupied = true) ∨
      h.evseReservations.contains evseId = true ∨ ∀ c ∈ evse.connectors, c.state ≠ .available

instance : Decidable (AddsPlace evseId connectorId event h) := by
  unfold AddsPlace
  infer_instance

lemma available_fulfillable (hf : h.Fulfillable) (hplace : AddsPlace evseId connectorId event h)
    (hevse : h.evses.find? evseId = some evse)
    (hconn : evse.connectors.find? (·.id = connectorId) = some connector)
    (hnext : connector.state.next event = .available) :
    Fulfillable { h with evses := submitEvent evseId connectorId event h.evses } := by
  refine ⟨?_, fun e he => ?_⟩
  · have hcount := (isReservationPossible_iff.1 hf.possible).1
    rcases hplace evse hevse connector hconn hnext with hsame | hnone | hplace
    · refine isReservationPossible_of_fewer (fun id _ => ?_) size_submitEvent (.refl _) (.refl _)
        hf.possible
      exact submitEvent_self hevse hconn (hnext.trans hsame.symm)
    · rw [hnone] at hcount ⊢
      exact isReservationPossible_nil.2 (by simpa [size_submitEvent] using hcount)
    · refine isReservationPossible_mono ?_ size_submitEvent.ge (fun _ => id) (.refl _) hf.possible
      rintro id type ⟨evse', hevse', ⟨hplug, hocc⟩, hresv, c, hc, -, havail⟩
      refine find?_submitEvent_ne ?_
      rintro rfl
      obtain rfl := Option.some.inj (hevse.symm.trans hevse')
      rcases hplace with h | ⟨c', hc', h⟩ | h | h
      · simp [h] at hplug
      · simp [hocc c' hc'] at h
      · simp [h] at hresv
      · exact h c hc havail
  · exact offered_submit hevse hconn (fun _ => fun _ => hnext) (hf.offered e he)

lemma onConnectorStateChanged_fulfillable (ho : h.InOrder configured) (ht : h.Typed)
    (hf : h.Fulfillable) (hevse : h.evses.find? evseId = some evse)
    (hconn : evse.connectors.find? (·.id = connectorId) = some connector)
    (hnext : connector.state.next event ≠ .available) :
    (onConnectorStateChanged (connector.state.next event) evseId connectorId
      { h with evses := submitEvent evseId connectorId event h.evses }).Fulfillable := by
  set h₁ : ReservationHandler := { h with evses := submitEvent evseId connectorId event h.evses }
    with hh₁
  have hb₁ : h₁.Booked := ⟨ho.booked.unique, ho.booked.timed⟩
  have hsize₁ := (fitting_of_submit ho.fitting evseId connectorId event).size_le
  have hevse₁ : h₁.evses.find? evseId = some (submitted connectorId event evse) :=
    find?_submitEvent hevse
  have hconnector₁ : (submitted connectorId event evse).connectors.find? (·.id = connectorId) =
      some (connector.submitEvent event) := by
    obtain ⟨before, after, -, hid, hbef, hsubmit⟩ := submitToConnector_split event hconn
    rw [submitted, hsubmit]
    exact find?_eq_some_iff_append.2
      ⟨decide_eq_true hid, before, after, rfl, by simpa using hbef⟩
  have hchecked : (∀ e ∈ h.evseReservations.entries, e.1 = evseId →
      connector.fits e.2.type = true → connector.state.next event = .available) →
      h₁.checkReservationsAndCancelIfNotPossible.Fulfillable := by
    intro hkeeps
    obtain ⟨hevses, hm, hposs⟩ := checkReservations_spec hb₁ ht hsize₁
    refine ⟨by rwa [hevses, hm], fun e he => ?_⟩
    rw [hevses]
    rw [hm] at he
    exact offered_submit hevse hconn (hkeeps e he) (hf.offered e he)
  unfold onConnectorStateChanged
  rw [if_neg hnext, hevse₁]
  dsimp only
  rw [hconnector₁]
  cases hres : h₁.evseReservations.find? evseId with
  | none =>
    refine hchecked fun e he hid => ?_
    have hfind := find?_eq_some.2 he
    rw [hid, hres] at hfind
    cases hfind
  | some reservation =>
    dsimp only
    have hmem := find?_eq_some.1 hres
    have htyped := ht ⟨some evseId, reservation⟩
      (mem_append_left _ (mem_map.2 ⟨_, hmem, rfl⟩))
    have hfits₁ : (connector.submitEvent event).fits reservation.type =
      connector.fits reservation.type := rfl
    rw [htyped, Bool.true_and, hfits₁]
    split_ifs with hfits
    · have hdrop := cancelReservation_dropped hb₁ reservation.reservationId true .cancelled
      refine ⟨?_, fun e he => ?_⟩
      · rw [hdrop.evses]
        refine isReservationPossible_of_fewer (fun id hid => ?_) size_submitEvent
          (hdrop.evseReservations ▸ filter_sublist)
          (hdrop.globalReservations ▸ filter_sublist) hf.possible
        refine find?_submitEvent_ne ?_
        rintro rfl
        exact hid (mem_map.2 ⟨_, hmem, rfl⟩)
      · rw [hdrop.evseReservations] at he
        rw [hdrop.evses]
        obtain ⟨he, hother⟩ := mem_filter.1 he
        refine offered_submit hevse hconn (fun hid _ => ?_) (hf.offered e he)
        have hfind := find?_eq_some.2 he
        rw [hid] at hfind
        obtain rfl := Option.some.inj (hres.symm.trans hfind)
        simp at hother
    · refine hchecked fun e he hid hfits' => ?_
      have hfind := find?_eq_some.2 he
      rw [hid] at hfind
      obtain rfl := Option.some.inj (hres.symm.trans hfind)
      exact absurd hfits' hfits

end Event

/-- A reservation names a connector type, and a connector becomes available only where that gives
the EVSE its first car. -/
def Careful (h : ReservationHandler) : Input → Prop
  | .makeReservation _ _ reservation => reservation.connectorType.isSome = true
  | .submitEventForConnector evseId connectorId event => AddsPlace evseId connectorId event h
  | _ => True

instance (input : Input) : Decidable (Careful h input) := by
  cases input <;> unfold Careful <;> infer_instance

structure Kept (configured : Bool) (h : ReservationHandler) : Prop where
  inOrder : h.InOrder configured
  typed : h.Typed
  fulfillable : h.Fulfillable

lemma cancelReservation_kept (hk : h.Kept configured) (id : ℤ) (callback : Bool)
    (reason : ReservationEndReason) :
    (h.cancelReservation id callback reason).2.Kept configured := by
  have hdrop := cancelReservation_dropped hk.inOrder.booked id callback reason
  exact ⟨cancelReservation_inOrder hk.inOrder, hdrop.typed hk.typed,
    hdrop.fulfillable hk.fulfillable⟩

lemma submitEventForConnector_kept (hk : h.Kept configured) {evseId : ℕ} {event : ConnectorEvent}
    (hplace : AddsPlace evseId connectorId event h) :
    (h.submitEventForConnector evseId connectorId event).Typed ∧
      (h.submitEventForConnector evseId connectorId event).Fulfillable := by
  rcases submitEventForConnector_cases with
    hsame | ⟨evse, connector, hevse, hconn, heq⟩
  · rw [hsame]
    exact ⟨hk.typed, hk.fulfillable⟩
  have hb : Booked { h with evses := submitEvent evseId connectorId event h.evses } :=
    ⟨hk.inOrder.booked.unique, hk.inOrder.booked.timed⟩
  rw [heq]
  constructor
  · obtain ⟨gone, hdrop, -⟩ := @onConnectorStateChanged_spec configured _ hb
      (connector.state.next event) evseId connectorId
    exact hdrop.typed hk.typed
  · by_cases hnext : connector.state.next event = .available
    · rw [onConnectorStateChanged, if_pos hnext]
      exact available_fulfillable hk.fulfillable hplace hevse hconn hnext
    · exact onConnectorStateChanged_fulfillable hk.inOrder hk.typed hk.fulfillable hevse
        hconn hnext

lemma step_kept (hk : h.Kept configured) {input : Input} (hc : Careful h input) :
    (h.step input).Kept configured := by
  have ho := step_inOrder hk.inOrder input
  cases input with
  | makeReservation now evseId reservation =>
    refine ⟨ho, ?_, makeReservation_fulfillable hk.inOrder hk.fulfillable⟩
    have hcancelled := (cancelReservation_kept hk reservation.reservationId false .cancelled).typed
    dsimp only [step]
    rcases makeReservation_cases hk.inOrder.booked with hsame | hsame | ⟨-, hadded, -⟩
    · rw [hsame]
      exact hk.typed
    · rwa [hsame]
    · exact hadded.typed hcancelled hc
  | cancelReservation id callback reason => exact cancelReservation_kept hk id callback reason
  | onReservationUsed id => exact cancelReservation_kept hk id false .usedToStartCharging
  | expired id => exact cancelReservation_kept hk id true .expired
  | cancelReservationOfEvse evseId callback =>
    dsimp only [step, cancelReservationOfEvse]
    cases h.evseReservations.find? evseId with
    | none => exact hk
    | some => exact cancelReservation_kept hk _ callback .cancelled
  | submitEventForConnector =>
    obtain ⟨htyped, hfulfillable⟩ := submitEventForConnector_kept hk hc
    exact ⟨ho, htyped, hfulfillable⟩

lemma fresh_kept :
    Kept configured { evses := evses, store := if configured then some [] else none } := by
  refine ⟨⟨⟨nodup_nil, fun _ => .rfl⟩, rfl, ?_⟩, ?_, ?_, ?_⟩
  · exact fun _ he => absurd he not_mem_nil
  · exact fun _ hs => absurd hs not_mem_nil
  · exact isReservationPossible_nil.2 (Nat.zero_le _)
  · exact fun _ he => absurd he not_mem_nil

end ReservationHandler

open ReservationHandler Runs

/-- With types and careful connectors, all reservations can be honoured in every reachable
state. -/
theorem reservations_stay_fulfillable (evses : Evses) (configured : Bool) (inputs : List Input)
    (hinputs : AllSteps step Careful
      { evses := evses, store := if configured then some [] else none } inputs) :
    AllStates step Fulfillable
      { evses := evses, store := if configured then some [] else none } inputs := by
  have hstep : ∀ (h : ReservationHandler) input, h.Kept configured → Careful h input →
      (h.step input).Kept configured := fun _ _ hk hc => step_kept hk hc
  exact (allStates_of_allSteps hstep fresh_kept hinputs).mono
    fun _ hk => hk.fulfillable

/-- A fault cancels the reservation that has lost its EVSE. -/
theorem faulted_evse_fulfillable :
    AllStates step Fulfillable { evses := twoEvses } [
      .makeReservation 0 none { reservationId := 1, connectorType := some .cCCS2 },
      .makeReservation 0 none { reservationId := 2, connectorType := some .cCCS2 },
      .submitEventForConnector 1 1 .faulted, .submitEventForConnector 1 1 .errorCleared] :=
  reservations_stay_fulfillable twoEvses true _ (by decide +kernel)

/-- Reservations without a type survive the fault of the EVSE they need, and a connector that
becomes available next to another one lets a car take the only place of the other reservation. -/
theorem reservations_broken :
    ¬Fulfillable (run step { evses := twoEvses } [
        .makeReservation 0 none { reservationId := 1 },
        .makeReservation 0 none { reservationId := 2 },
        .submitEventForConnector 1 1 .faulted]) ∧
      ¬Fulfillable (run step { evses := twoEvses } [
        .makeReservation 0 (some 1) { reservationId := 1 },
        .submitEventForConnector 1 1 .faulted]) ∧
      ¬Fulfillable (run step { evses := twoEvses } [
        .submitEventForConnector 2 2 .faulted,
        .makeReservation 0 none { reservationId := 1, connectorType := some .cCCS2 },
        .makeReservation 0 none { reservationId := 2, connectorType := some .cType2 },
        .submitEventForConnector 2 2 .errorCleared]) := by
  refine ⟨fun h => absurd h.possible ?_, fun h => absurd h.offered ?_,
    fun h => absurd h.possible ?_⟩
  all_goals decide +kernel

end Everest.Auth
