import Everest.Auth.Reservations
import Everest.Lib.Arrivals

namespace Everest.Auth
open Arrivals List Permutations SortedMap

def EVSEContext.IsFree (evse : EVSEContext) : Prop :=
  evse.pluggedIn = false ∧ ∀ c ∈ evse.connectors, c.isOccupied = false

def EVSEContext.Offers (evse : EVSEContext) (type : ConnectorTypeEnum) : Prop :=
  ∃ c ∈ evse.connectors, c.fits type = true ∧ c.state = .available

instance (evse : EVSEContext) (type : ConnectorTypeEnum) : Decidable (evse.Offers type) :=
  inferInstanceAs (Decidable (∃ c ∈ evse.connectors, c.fits type = true ∧ c.state = .available))

/-- A car with this connector type can stand at the EVSE. -/
def Serves (evses : Evses) (evseReservations : EvseReservations) (evseId : ℕ)
    (type : ConnectorTypeEnum) : Prop :=
  ∃ evse, evses.find? evseId = some evse ∧ evse.IsFree ∧
    evseReservations.contains evseId = false ∧ evse.Offers type

variable {state : ConnectorState} {type : ConnectorTypeEnum} {evses : Evses}
    {evseReservations : EvseReservations} {evse : EVSEContext} {used : List ℕ}
    {order types : List ConnectorTypeEnum}

lemma connectorStateToReservationResult_accepted :
    connectorStateToReservationResult state = .accepted ↔ state = .available := by
  cases state <;> decide

lemma connectorAvailability_accepted (hstate : state ≠ .available) {connectors : List Connector} :
    connectorAvailability type state connectors = .accepted ↔
      ∃ c ∈ connectors, c.fits type = true ∧ c.state = .available := by
  induction connectors generalizing state with
  | nil => simp [connectorAvailability, connectorStateToReservationResult_accepted, hstate]
  | cons c connectors ih =>
    unfold connectorAvailability
    split_ifs with hfits havail
    · simp [hfits, havail]
    · have hnew : getNewConnectorState state c.state ≠ .available := by
        revert hstate
        cases state <;> cases c.state <;> decide
      rw [ih hnew]
      simp [havail]
    · rw [ih hstate]
      simp [hfits]

lemma evseState_accepted {evseId : ℕ} (hevse : evses.find? evseId = some evse) :
    getEvseConnectorStateReservationResult evses evseId evseReservations = .accepted ↔
      evse.IsFree ∧ evseReservations.contains evseId = false := by
  have hfind : (∀ c ∈ evse.connectors, c.isOccupied = false) ↔
      evse.connectors.find? Connector.isOccupied = none := by
    simp [find?_eq_none]
  rw [getEvseConnectorStateReservationResult, hevse, EVSEContext.IsFree, hfind]
  dsimp only
  cases hplug : evse.pluggedIn with
  | true => simp [connectorStateToReservationResult]
  | false =>
    cases hocc : evse.connectors.find? Connector.isOccupied with
    | none => simp
    | some =>
      have hstate := find?_some hocc
      simp only [connectorStateToReservationResult_accepted, reduceCtorEq, Bool.false_eq_true,
        if_false, and_false, false_and, iff_false]
      intro h
      simp [Connector.isOccupied, h] at hstate

lemma hasEvseConnectorType_of_offers (h : evse.Offers type) :
    hasEvseConnectorType evse.connectors type = true := by
  obtain ⟨c, hc, hfits, -⟩ := h
  unfold hasEvseConnectorType
  split_ifs with hunknown
  · rfl
  · refine any_eq_true.2 ⟨c, hc, ?_⟩
    simpa [Connector.fits, hunknown, or_comm] using hfits

lemma virtualCarFits_iff {evse : ℕ × EVSEContext} (hevse : evse ∈ evses.entries) :
    virtualCarFits evses evseReservations used type evse = true ↔
      evse.1 ∉ used ∧ Serves evses evseReservations evse.1 type := by
  have hfind : evses.find? evse.1 = some evse.2 := find?_eq_some.2 hevse
  have havail : getConnectorAvailabilityReservationResult evses evse.1 type = .accepted ↔
      evse.2.Offers type := by
    rw [getConnectorAvailabilityReservationResult, hfind]
    exact connectorAvailability_accepted (by decide)
  have hserves : Serves evses evseReservations evse.1 type ↔
      evse.2.IsFree ∧ evseReservations.contains evse.1 = false ∧ evse.2.Offers type := by
    simp [Serves, hfind]
  rw [hserves]
  simp only [virtualCarFits, Bool.and_eq_true, decide_eq_true_eq, havail,
    evseState_accepted hfind, Bool.not_eq_true', contains_eq_mem, decide_eq_false_iff_not]
  constructor
  · rintro ⟨⟨⟨hused, hfree, hresv⟩, -⟩, hoff⟩
    exact ⟨hused, hfree, hresv, hoff⟩
  · rintro ⟨hused, hfree, hresv, hoff⟩
    exact ⟨⟨⟨hused, hfree, hresv⟩, hasEvseConnectorType_of_offers hoff⟩, hoff⟩

variable (accepts : ℕ × EVSEContext → Bool)

attribute [local simp] arrivalLoop

lemma arrivalLoop_last (next : ℕ → Bool) (evses : List (ℕ × EVSEContext)) :
    arrivalLoop accepts true next false evses = true ↔ ∃ e ∈ evses, accepts e = true := by
  induction evses with
  | nil => simp
  | cons e evses ih =>
    cases haccepts : accepts e with
    | true => simp [haccepts]
    | false => simp [haccepts, ih]

lemma arrivalLoop_next (next : ℕ → Bool) (isPossible : Bool) (evses : List (ℕ × EVSEContext)) :
    arrivalLoop accepts false next isPossible evses = true ↔
      (isPossible = true ∨ ∃ e ∈ evses, accepts e = true) ∧
        ∀ e ∈ evses, accepts e = true → next e.1 = true := by
  induction evses generalizing isPossible with
  | nil => simp
  | cons e evses ih =>
    cases haccepts : accepts e with
    | true => cases hnext : next e.1 <;> simp [haccepts, hnext, ih]
    | false => simp [haccepts, ih]

lemma exists_fits_iff :
    (∃ e ∈ evses.entries, virtualCarFits evses evseReservations used type e = true) ↔
      ∃ p, Serves evses evseReservations p type ∧ p ∉ used := by
  constructor
  · rintro ⟨e, he, hfits⟩
    obtain ⟨hused, hserves⟩ := (virtualCarFits_iff he).1 hfits
    exact ⟨e.1, hserves, hused⟩
  · rintro ⟨p, hserves, hused⟩
    obtain ⟨evse, hfind, -⟩ := id hserves
    have he : (p, evse) ∈ evses.entries := find?_eq_some.1 hfind
    exact ⟨_, he, (virtualCarFits_iff he).2 ⟨hused, hserves⟩⟩

lemma canVirtualCarArrive_iff (horder : order ≠ []) :
    canVirtualCarArrive evses evseReservations used order = true ↔
      AllServed (Serves evses evseReservations) used order := by
  induction order generalizing used with
  | nil => contradiction
  | cons type order ih =>
    unfold canVirtualCarArrive
    cases order with
    | nil =>
      rw [isEmpty_nil, arrivalLoop_last, exists_fits_iff]
      simp [AllServed]
    | cons next order =>
      rw [isEmpty_cons, arrivalLoop_next, exists_fits_iff, AllServed]
      simp only [Bool.false_eq_true, false_or]
      refine and_congr_right' ?_
      -- the code appends the place it tries, only which places are used matters
      have happ : ∀ p, AllServed (Serves evses evseReservations) (used ++ [p]) (next :: order) ↔
          AllServed (Serves evses evseReservations) (p :: used) (next :: order) := by
        intro p
        constructor <;> intro h <;> refine h.congr fun q => ?_ <;> simp [or_comm]
      constructor
      · intro h p hserves hused
        obtain ⟨evse, hfind, -⟩ := id hserves
        have he : (p, evse) ∈ evses.entries := find?_eq_some.1 hfind
        have harrive := h _ he ((virtualCarFits_iff he).2 ⟨hused, hserves⟩)
        exact (happ p).1 ((ih (by simp)).1 harrive)
      · intro h e he hfits
        obtain ⟨hused, hserves⟩ := (virtualCarFits_iff he).1 hfits
        exact (ih (by simp)).2 ((happ e.1).2 (h e.1 hserves hused))

lemma mem_getAllPossibleOrders :
    order ∈ getAllPossibleOrders types ↔ types ≠ [] ∧ order.Perm types := by
  unfold getAllPossibleOrders
  split_ifs with htypes
  · simp [htypes]
  · rw [collect_eq_filter, collect_eq_filter, cons_append, mem_cons, mem_append, mem_filter,
      mem_filter, Function.comp_apply, mem_reverse, mem_sortedOrders]
    simp only [decide_eq_true_eq, htypes, ne_eq, not_false_eq_true, true_and]
    constructor
    · rintro (rfl | ⟨h, -⟩ | ⟨h, -⟩)
      · exact .refl _
      · exact h
      · exact h
    · intro h
      obtain hlt | heq | hgt := lt_trichotomy types order
      · exact .inr (.inl ⟨h, hlt⟩)
      · exact .inl heq.symm
      · exact .inr (.inr ⟨h, hgt⟩)

lemma nodup_getAllPossibleOrders : (getAllPossibleOrders types).Nodup := by
  have hsort : (sortedOrders types).Nodup := (sortedOrders_pairwise types).nodup
  unfold getAllPossibleOrders
  split_ifs
  · exact nodup_nil
  · rw [collect_eq_filter, collect_eq_filter, cons_append, nodup_cons]
    refine ⟨by simp, (hsort.filter _).append ((nodup_reverse.2 hsort).filter _) ?_⟩
    intro order hup hdown
    have habove : types < order := of_decide_eq_true (mem_filter.1 hup).2
    exact habove.asymm (of_decide_eq_true (mem_filter.1 hdown).2)

/-- The test accepts the reservations if there are enough EVSEs and no car can be blocked by
others. -/
theorem isReservationPossible_iff {type : Option ConnectorTypeEnum}
    {reservations : List Reservation} :
    isReservationPossible evses type reservations evseReservations = true ↔
      (reservations.map Reservation.type ++ type.toList).length + evseReservations.size ≤
          evses.size ∧
        ¬Blocked (Serves evses evseReservations)
          (reservations.map Reservation.type ++ type.toList) := by
  unfold isReservationPossible
  generalize reservations.map Reservation.type ++ type.toList = types
  dsimp only
  split_ifs with hsize
  · refine iff_of_false id ?_
    omega
  · simp only [not_lt.1 hsize, true_and, all_eq_true]
    by_cases htypes : types = []
    · subst htypes
      refine iff_of_true (by simp [getAllPossibleOrders]) ?_
      rintro ⟨_, _, _, hsub, -⟩
      simpa using hsub.length_le
    · rw [← allServed_iff_not_blocked]
      refine forall_congr' fun order => ?_
      rw [mem_getAllPossibleOrders, and_iff_right htypes]
      refine imp_congr_right fun hperm => canVirtualCarArrive_iff ?_
      rintro rfl
      exact htypes hperm.nil_eq.symm

variable {evses' : Evses} {m m' : EvseReservations} {globals globals' : List Reservation}

lemma isReservationPossible_mono {type type' : Option ConnectorTypeEnum}
    (hserves : ∀ id type, Serves evses m id type → evses'.find? id = evses.find? id)
    (hsize : evses.size ≤ evses'.size) (hkeys : ∀ id ∈ m'.keys, id ∈ m.keys)
    (htypes : (globals'.map Reservation.type ++ type'.toList).Subperm
      (globals.map Reservation.type ++ type.toList))
    (hposs : isReservationPossible evses type globals m = true) :
    isReservationPossible evses' type' globals' m' = true := by
  rw [isReservationPossible_iff] at hposs ⊢
  obtain ⟨hcount, hblocked⟩ := hposs
  refine ⟨?_, fun hb => hblocked ?_⟩
  · have hlen := htypes.length_le
    have hresv : m'.size ≤ m.size := size_le_of_keys_subset hkeys
    omega
  · have hkept : (fun id type => Serves evses' m' id type ∧ ∃ type, Serves evses m id type) =
        Serves evses m := by
      funext id type
      refine propext ⟨?_, fun hold => ⟨?_, type, hold⟩⟩
      · rintro ⟨⟨evse, hevse, hfree, -, hoff⟩, other, hold⟩
        rw [hserves id other hold] at hevse
        obtain ⟨-, -, -, hresv, -⟩ := hold
        exact ⟨evse, hevse, hfree, hresv, hoff⟩
      · have hsame := hserves id type hold
        obtain ⟨evse, hevse, hfree, hresv, hoff⟩ := hold
        rw [contains_eq_false] at hresv
        exact ⟨evse, hsame.trans hevse, hfree,
          contains_eq_false.2 fun hmem => hresv (hkeys id hmem), hoff⟩
    exact hkept ▸ (hb.restrict _).of_subperm htypes

lemma isReservationPossible_of_fewer (hfind : ∀ id ∉ m.keys, evses'.find? id = evses.find? id)
    (hsize : evses'.size = evses.size) (hm : m'.entries.Sublist m.entries)
    (hglobals : globals'.Sublist globals)
    (hposs : isReservationPossible evses none globals m = true) :
    isReservationPossible evses' none globals' m' = true := by
  refine isReservationPossible_mono ?_ hsize.ge (fun _ hid => (hm.map _).subset hid)
    ((hglobals.map _).append_right _).subperm hposs
  rintro id type ⟨-, -, -, hresv, -⟩
  exact hfind id (contains_eq_false.1 hresv)

lemma isReservationPossible_append {reservation : Reservation} :
    isReservationPossible evses none (globals ++ [reservation]) m =
      isReservationPossible evses (some reservation.type) globals m := by
  simp [isReservationPossible]

/-- The test says that whatever the cars do each of them finds a place, it looks at each order
once, and it still succeeds with fewer reservations and more free EVSEs. -/
theorem reservation_possible_iff_all_served (evses : Evses) (type : Option ConnectorTypeEnum)
    (reservations : List Reservation) (evseReservations : EvseReservations) :
    let cars := reservations.map Reservation.type ++ type.toList
    (isReservationPossible evses type reservations evseReservations = true ↔
      cars.length + evseReservations.size ≤ evses.size ∧
      ∀ order : List ConnectorTypeEnum, order.Perm cars →
        AllServed (Serves evses evseReservations) [] order) ∧
    (∀ types, (getAllPossibleOrders types).Nodup ∧
      ∀ order, order ∈ getAllPossibleOrders types ↔ types ≠ [] ∧ order.Perm types) ∧
    (isReservationPossible evses type reservations evseReservations = true →
      ∀ (evses' : Evses) type' reservations' (evseReservations' : EvseReservations),
        (reservations'.map Reservation.type ++ type'.toList).Subperm cars →
        (∀ id ∈ evseReservations'.keys, id ∈ evseReservations.keys) →
        evses.size ≤ evses'.size →
        (∀ id evse, evses.find? id = some evse → evse.IsFree → evses'.find? id = some evse) →
        isReservationPossible evses' type' reservations' evseReservations' = true) := by
  intro cars
  refine ⟨?_, fun types => ⟨nodup_getAllPossibleOrders, fun _ => mem_getAllPossibleOrders⟩,
    ?_⟩
  · rw [allServed_iff_not_blocked]
    exact isReservationPossible_iff
  · intro hposs evses' type' reservations' evseReservations' htypes hkeys hsize hfree
    refine isReservationPossible_mono ?_ hsize hkeys htypes hposs
    rintro id _ ⟨evse, hfind, hevse, -⟩
    exact (hfree id evse hfind hevse).trans hfind.symm

/-- Without types there is no order at all. -/
theorem no_order_of_no_types :
    ([] : List ConnectorTypeEnum).Perm [] ∧ [] ∉ getAllPossibleOrders [] := by
  decide

end Everest.Auth
