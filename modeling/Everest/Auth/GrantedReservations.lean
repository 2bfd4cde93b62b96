import Everest.Auth.OneAuthorization

namespace Everest.Auth
open Arrivals ReservationHandler AuthHandler SortedMap LogGrows

variable {evses : Evses} {m : EvseReservations} {globals : List Reservation} {evseId : ℕ}
  {h : ReservationHandler}

lemma serves_insert (r : Reservation) :
    Serves evses (m.insert evseId r) = fun id type => Serves evses m id type ∧ id ≠ evseId := by
  funext id type
  refine propext ⟨?_, ?_⟩
  · rintro ⟨evse, hfind, hfree, hresv, hoff⟩
    rw [contains_eq_false, mem_keys_insert, not_or] at hresv
    exact ⟨⟨evse, hfind, hfree, contains_eq_false.2 hresv.2, hoff⟩, hresv.1⟩
  · rintro ⟨⟨evse, hfind, hfree, hresv, hoff⟩, hne⟩
    refine ⟨evse, hfind, hfree, ?_, hoff⟩
    rw [contains_eq_false, mem_keys_insert, not_or]
    exact ⟨hne, contains_eq_false.1 hresv⟩

lemma possible_after_global {r : Reservation} {remaining : List Reservation}
    (hfeasible : isReservationPossible evses none globals m = true)
    (hrema : globals.Perm (r :: remaining)) (hkey : evseId ∉ m.keys)
    (hserves : Serves evses m evseId r.type) (dummy : Reservation) :
    isReservationPossible evses none remaining (m.insert evseId dummy) = true := by
  simp only [isReservationPossible_iff, Option.toList_none, List.append_nil,
    List.length_map] at hfeasible ⊢
  obtain ⟨hcount, hblocked⟩ := hfeasible
  have hsize : (m.insert evseId dummy).size = m.size + 1 :=
    (insert_perm hkey dummy).length_eq
  have hlen := hrema.length_eq
  have htypes : (globals.map Reservation.type).Perm (r.type :: remaining.map Reservation.type) :=
    hrema.map _
  rw [List.length_cons] at hlen
  rw [serves_insert, hsize]
  refine ⟨by omega, fun hb => hblocked ?_⟩
  -- the EVSE is where the car of the used reservation could have gone
  exact (Blocked.of_taken hserves hb).of_subperm htypes.symm.subperm

lemma possible_after_evse {m' : EvseReservations}
    (hfeasible : isReservationPossible evses none globals m = true) (hkey : evseId ∈ m.keys)
    (hkeys : ∀ id, id ∈ m'.keys ↔ id ∈ m.keys ∧ id ≠ evseId) (dummy : Reservation) :
    isReservationPossible evses none globals (m'.insert evseId dummy) = true := by
  have hsame : ∀ id, id ∈ (m'.insert evseId dummy).keys ↔ id ∈ m.keys := by
    intro id
    rw [mem_keys_insert, hkeys]
    constructor
    · rintro (rfl | ⟨hid, -⟩)
      · exact hkey
      · exact hid
    · intro hid
      by_cases heq : id = evseId
      · exact .inl heq
      · exact .inr ⟨hid, heq⟩
  exact isReservationPossible_mono (fun _ _ _ => rfl) le_rfl (fun id => (hsame id).1) (.refl _)
    hfeasible

lemma matchesReservedIdentifier_some {idToken : String} {parent : Option String} {id : ℤ}
    (hmatch : h.matchesReservedIdentifier idToken (some evseId) parent = some id) :
    (∃ r, (evseId, r) ∈ h.evseReservations.entries ∧ r.reservationId = id) ∨
      evseId ∉ h.evseReservations.keys ∧ ∃ r ∈ h.globalReservations, r.reservationId = id := by
  unfold matchesReservedIdentifier at hmatch
  rw [Option.bind_some] at hmatch
  cases hfind : h.evseReservations.find? evseId with
  | some r =>
    rw [hfind] at hmatch
    dsimp only at hmatch
    split_ifs at hmatch
    exact .inl ⟨r, find?_eq_some.1 hfind, Option.some.inj hmatch⟩
  | none =>
    rw [hfind] at hmatch
    obtain ⟨r, hr, hid⟩ := Option.map_eq_some_iff.1 hmatch
    refine .inr ⟨?_, r, List.mem_of_find?_eq_some hr, hid⟩
    rw [← contains_eq_false, contains, hfind]
    rfl

variable {token : ProvidedIdToken}

/-- An authorized token uses a reservation that matches it, or the others leave room. -/
theorem assign_authorized {result : ValidationResult}
    (hauth : (assign token evseId result h).1 = true) :
    (h.isChargingPossible evseId = true ∧
        (assign token evseId result h).2.2 = h) ∨
      ∃ id, h.matchesReservedIdentifier token.idToken.value (some evseId)
          (result.parentIdToken.map (·.value)) = some id ∧
        (assign token evseId result h).2.2 = h.onReservationUsed id := by
  unfold assign at hauth ⊢
  dsimp only at hauth ⊢
  generalize h.matchesReservedIdentifier token.idToken.value (some evseId)
    (result.parentIdToken.map (·.value)) = reservationId at hauth ⊢
  cases reservationId with
  | none =>
    split_ifs at hauth ⊢ with hlocation htime hfree
    refine .inl ⟨?_, rfl⟩
    simpa using htime
  | some id =>
    split_ifs at hauth ⊢ with hlocation htime hfree
    · simp at hfree
    · exact .inr ⟨id, rfl, rfl⟩

lemma assign_unauthorized {result : ValidationResult}
    (hauth : (assign token evseId result h).1 = false) :
    (assign token evseId result h).2.2 = h := by
  unfold assign at hauth ⊢
  dsimp only at hauth ⊢
  split_ifs at hauth ⊢
  · rfl
  · rfl
  · split at hauth
    · cases hauth
    · rfl

lemma assign_parent {result : ValidationResult} :
    (assign token evseId result h).2.1.parentIdToken = result.parentIdToken := by
  unfold assign
  dsimp only
  split_ifs
  · rfl
  · rfl
  · rfl
  · split <;> rfl

lemma perm_cons_filter {α β : Type*} [DecidableEq β] {f : α → β} {a : α} {l : List α}
    (huniq : (l.map f).Nodup) (ha : a ∈ l) : l.Perm (a :: l.filter (f · ≠ f a)) := by
  rw [← eraseP_eq_filter huniq]
  obtain ⟨b, before, after, -, hb, heq, herase⟩ :=
    List.exists_of_eraseP (p := fun x => decide (f x = f a)) ha (by simp)
  have hba : b = a := List.inj_on_of_nodup_map huniq (by simp [heq]) ha (by simpa using hb)
  rw [herase]
  subst hba
  rw [heq]
  exact List.perm_middle

/-- If there is a reservation for any EVSE that the token uses, it is for a type of this one. -/
def FitsUsed (h : ReservationHandler) (evseId : ℕ) (idToken : IdToken)
    (parentIdToken : Option IdToken) : Prop :=
  ∀ id, h.matchesReservedIdentifier idToken.value (some evseId)
      (parentIdToken.map (·.value)) = some id →
    ∀ r ∈ h.globalReservations, r.reservationId = id →
      Serves h.evses h.evseReservations evseId r.type

lemma assign_possible (hb : h.Booked)
    (hfeasible : isReservationPossible h.evses none h.globalReservations h.evseReservations = true)
    {result : ValidationResult} (hfits : FitsUsed h evseId token.idToken result.parentIdToken)
    {h' : ReservationHandler} (hauth : (assign token evseId result h).1 = true)
    (hasg : (assign token evseId result h).2.2 = h') :
    isReservationPossible h.evses none h'.globalReservations
      (h'.evseReservations.insert evseId dummyReservation) = true := by
  have huniq := ids_eq h ▸ hb.unique
  rw [List.nodup_append'] at huniq
  obtain ⟨hevseIds, hglobalIds, hdisj⟩ := huniq
  rcases assign_authorized hauth with ⟨hcharging, hsame⟩ | ⟨id, hmatch, hused⟩
  · obtain rfl := hsame.symm.trans hasg
    unfold isChargingPossible at hcharging
    split_ifs at hcharging
    exact hcharging
  obtain rfl := hused.symm.trans hasg
  have hd : Dropped [id] h (h.onReservationUsed id) := cancelReservation_dropped hb id _ _
  rcases matchesReservedIdentifier_some hmatch with ⟨r, hr, rfl⟩ | ⟨hkey, r, hr, rfl⟩
  · -- the reservation of the EVSE is used
    have hglobals : (h.onReservationUsed r.reservationId).globalReservations =
        h.globalReservations := by
      refine hd.globalReservations.trans (filter_ids_eq_self fun i hi hmem => ?_)
      exact hdisj (List.mem_map.2 ⟨_, hr, rfl⟩) (List.mem_singleton.1 hmem ▸ hi)
    rw [hglobals]
    refine possible_after_evse hfeasible (List.mem_map.2 ⟨_, hr, rfl⟩) (fun key => ?_) _
    rw [keys, hd.evseReservations, keys, List.mem_map, List.mem_map]
    constructor
    · rintro ⟨e, he, rfl⟩
      obtain ⟨he, hother⟩ := List.mem_filter.1 he
      refine ⟨⟨e, he, rfl⟩, fun heq => ?_⟩
      have hfind := find?_eq_some.2 he
      rw [heq, find?_eq_some.2 hr] at hfind
      simp [Option.some.inj hfind] at hother
    · rintro ⟨⟨e, he, rfl⟩, hne⟩
      refine ⟨e, List.mem_filter.2 ⟨he, ?_⟩, rfl⟩
      have hother : e.2.reservationId ≠ r.reservationId := fun heq =>
        hne (congrArg Prod.fst (List.inj_on_of_nodup_map hevseIds he hr heq))
      simpa using hother
  · -- a reservation for any EVSE is used
    have hevse : (h.onReservationUsed r.reservationId).evseReservations = h.evseReservations := by
      refine ext_entries (hd.evseReservations.trans (filter_ids_eq_self ?_))
      intro i hi hmem
      exact hdisj (List.mem_singleton.1 hmem ▸ hi) (List.mem_map.2 ⟨r, hr, rfl⟩)
    have hrema : (h.onReservationUsed r.reservationId).globalReservations =
        h.globalReservations.filter (·.reservationId ≠ r.reservationId) := by
      simpa using hd.globalReservations
    have hperm : h.globalReservations.Perm
        (r :: (h.onReservationUsed r.reservationId).globalReservations) :=
      hrema ▸ perm_cons_filter hglobalIds hr
    rw [hevse]
    exact possible_after_global hfeasible hperm hkey (hfits _ hmatch r hr rfl) _

namespace AuthHandler

def standing (evse : EVSEContext) : Bool × List Connector := (evse.pluggedIn, evse.connectors)

def NoGrant (event : AuthEvent) : Prop :=
  ∀ evseId token parent, event ≠ .granted evseId token parent

/-- The EVSE was granted to the token in the step, after its decision about the reservations. -/
structure Assigned (evseId : ℕ) (idToken : IdToken) (parentIdToken : Option IdToken)
    (s s' : AuthHandler) : Prop where
  decision : ∃ token result, token.idToken = idToken ∧ result.parentIdToken = parentIdToken ∧
    (assign token evseId result s.reservationHandler).1 = true ∧
    s'.reservationHandler.evseReservations =
      (assign token evseId result s.reservationHandler).2.2.evseReservations ∧
    s'.reservationHandler.globalReservations =
      (assign token evseId result s.reservationHandler).2.2.globalReservations
  evses : ∀ id, (s'.evses.find? id).map standing = (s.evses.find? id).map standing
  size : s'.evses.size = s.evses.size
  log : LogGrows (fun event => ∀ id token parent, event = .granted id token parent →
    id = evseId ∧ token.idToken = idToken ∧ parent = parentIdToken) s s'

def GrantsAtMostOne (s s' : AuthHandler) : Prop :=
  LogGrows NoGrant s s' ∨ ∃ evseId idToken parent, Assigned evseId idToken parent s s'

variable {s s' s'' : AuthHandler} {P : AuthEvent → Prop}

lemma LogGrows.mono {P Q : AuthEvent → Prop} (hg : LogGrows P s s')
    (himp : ∀ event, P event → Q event) : LogGrows Q s s' := by
  obtain ⟨events, hlog, hevs⟩ := hg
  exact ⟨events, hlog, fun event hmem => himp event (hevs event hmem)⟩

lemma LogGrows.of_eq (hlog : s'.log = s.log) : LogGrows P s s' :=
  ⟨[], hlog, by simp⟩

lemma Quiet.noGrant (hq : Quiet s s') : LogGrows NoGrant s s' := by
  obtain ⟨events, hlog, hquiet⟩ := hq.log
  refine ⟨events, hlog, fun event hmem evseId token parent heq => ?_⟩
  have hevent := hquiet event hmem
  rw [heq] at hevent
  cases hevent

lemma resetIdentifier_noGrant : LogGrows NoGrant s (s.resetIdentifier evseId) :=
  ⟨[.identifierReset evseId], rfl, by simp [NoGrant]⟩

lemma GrantsAtMostOne.after (hg : GrantsAtMostOne s' s'')
    (hsame : s'.reservationHandler = s.reservationHandler) (hlog : LogGrows NoGrant s s') :
    GrantsAtMostOne s s'' := by
  rcases hg with hg | ⟨evseId, idToken, parent, hd, hevses, hsize, hg⟩
  · exact .inl (hlog.trans hg)
  · refine .inr ⟨evseId, idToken, parent, hsame ▸ hd, ?_, ?_, trans (hlog.mono ?_) hg⟩
    · rwa [evses, evses, ← hsame]
    · rwa [evses, evses, ← hsame]
    · exact fun event hno id token parent heq => absurd heq (hno id token parent)

lemma grant_assigned {token : ProvidedIdToken} {result : ValidationResult} {evseId : ℕ}
    (hauth : (assign token evseId result s.reservationHandler).1 = true)
    {token' : ProvidedIdToken} (htoken : token'.idToken = token.idToken)
    {result' : ValidationResult} (hparent : result'.parentIdToken = result.parentIdToken) :
    Assigned evseId token.idToken result.parentIdToken s ({ s with
      reservationHandler := (assign token evseId result s.reservationHandler).2.2 }.grant token'
        evseId result') := by
  have hevses := assign_evses token evseId result s.reservationHandler
  generalize hasg : (assign token evseId result s.reservationHandler).2.2 = h at hevses
  have hgranted : (grant token' evseId result' { s with reservationHandler := h }).evses =
      s.evses.modify evseId fun evse =>
        { evse with identifier := some (grantedIdentifier token' result') } := by
    rw [evses, evses, ← hevses]
    unfold grant
    dsimp only
    split_ifs <;> rfl
  have hreservations : ∀ s' : AuthHandler,
      s' = grant token' evseId result' { s with reservationHandler := h } →
      s'.reservationHandler.evseReservations = h.evseReservations ∧
      s'.reservationHandler.globalReservations = h.globalReservations := by
    rintro _ rfl
    unfold grant
    dsimp only
    split_ifs <;> exact ⟨rfl, rfl⟩
  obtain ⟨hevse, hglob⟩ := hreservations _ rfl
  refine ⟨⟨token, result, rfl, rfl, hauth, hasg ▸ hevse, hasg ▸ hglob⟩, ?_, ?_, ?_⟩
  · intro id
    rw [hgranted, find?_modify, Option.map_map]
    congr 1
    funext evse
    split_ifs <;> rfl
  · rw [hgranted, size_modify]
  · unfold grant
    dsimp only
    split_ifs
    · refine ⟨[.granted evseId token' result'.parentIdToken], rfl, ?_⟩
      simp +contextual [htoken, hparent]
    · refine ⟨[.handled token' .usedToStartTransaction, .published token' .usedToStart,
        .notified evseId token' result', .granted evseId token' result'.parentIdToken], rfl, ?_⟩
      simp +contextual [htoken, hparent]

lemma afterSelect_grants {next : ValidationResult → AuthHandler → AuthHandler}
    (hnext : ∀ result s, GrantsAtMostOne s (next result s)) (token : ProvidedIdToken)
    (refs : List ℕ) (result : ValidationResult) (results : List ValidationResult)
    (selected : SelectEvseResult) :
    GrantsAtMostOne s (s.afterSelect next token refs result results selected) := by
  cases selected with
  | timeOut => exact .inl (finish_quiet token .timeout s).noGrant
  | interrupted => exact .inl (finish_quiet token .withdrawn s).noGrant
  | notImplemented => exact .inl (record_quiet rfl).noGrant
  | waiting => exact .inl (of_eq rfl)
  | evseSelected evseId =>
    have hgrant := fun hauth => @grant_assigned s token result evseId hauth
      { token with connectors := some [evseId] } rfl
      (assign token evseId result s.reservationHandler).2.1 assign_parent
    have hno := @assign_unauthorized evseId s.reservationHandler token result
    dsimp only [afterSelect]
    generalize assign token evseId result s.reservationHandler = assigned at hgrant hno
    obtain ⟨authorized, result, reservations⟩ := assigned
    cases authorized with
    | true => exact .inr ⟨evseId, _, _, hgrant rfl⟩
    | false =>
      refine (hnext result _).after ?_ ⟨[.notified evseId token result], rfl, by simp [NoGrant]⟩
      exact hno rfl

variable (token : ProvidedIdToken) (refs : List ℕ) (results : List ValidationResult)

lemma tryResults_grants (last : ValidationResult) (token : ProvidedIdToken) (s : AuthHandler) :
    GrantsAtMostOne s (s.tryResults refs results last token) := by
  induction results generalizing s last token with
  | nil => exact .inl reject_quiet.noGrant
  | cons result results ih =>
    unfold tryResults
    split_ifs
    · exact .inl reject_quiet.noGrant
    · exact ih result token s
    · exact .inl (finish_quiet token .rejected s).noGrant
    · exact (afterSelect_grants (fun last s => ih last _ s) _ _ _ _ _).after rfl
        (record_quiet rfl).noGrant

lemma handleValidated_grants : GrantsAtMostOne s (s.handleValidated token refs results) := by
  unfold handleValidated
  dsimp only
  split
  · rename_i s' hstop
    split_ifs at hstop
    exact .inl (stopWithParentId_quiet hstop).noGrant
  · split_ifs
    · exact .inl (finish_quiet _ _ s).noGrant
    · exact .inl (finish_quiet _ _ s).noGrant
    · exact tryResults_grants _ results _ token s

lemma handleToken_grants : GrantsAtMostOne s (s.handleToken token) := by
  unfold handleToken
  dsimp only
  split
  · split_ifs
    · exact .inl (finish_quiet _ _ s).noGrant
    · exact .inl ((record_quiet rfl).trans (finish_quiet _ _ _)).noGrant
  · split_ifs
    · exact .inl (finish_quiet _ _ s).noGrant
    · exact .inl (finish_quiet _ _ s).noGrant
    · exact handleValidated_grants token _ _
    · exact .inl (of_eq rfl)

lemma resume_grants {i : ℕ} {expired : Bool} : GrantsAtMostOne s (s.resume i expired) := by
  unfold resume
  split
  · rename_i token refs result results _
    have hwoken : LogGrows NoGrant s { s with tokenThreads := s.tokenThreads.eraseIdx i } :=
      of_eq rfl
    split
    · split_ifs
      · exact .inl (hwoken.trans (finish_quiet token .timeout _).noGrant)
      · exact .inl (of_eq rfl)
    · exact (afterSelect_grants (fun last s => tryResults_grants refs results last token s)
        _ _ _ _ _).after rfl hwoken
  · split_ifs
    · exact .inl (of_eq rfl)
    · exact .inl (trans (of_eq rfl) (completeGrant_quiet _ _ _ _).noGrant)
  · exact .inl (of_eq rfl)

lemma handleSessionEvent_noGrant {connectorId : ℤ} {event : SessionEvent} :
    LogGrows NoGrant s (s.handleSessionEvent evseId connectorId event) := by
  unfold handleSessionEvent
  by_cases hguard : (decide (connectorId ≤ 0) || !s.evses.contains evseId) = true
  · rw [if_pos hguard]
    exact of_eq rfl
  rw [if_neg hguard]
  cases event with
  | sessionStarted =>
    dsimp only
    split_ifs <;> exact of_eq rfl
  | transactionStarted =>
    exact trans (of_eq rfl) waitForTimeout_quiet.noGrant
  | transactionFinished =>
    exact trans (of_eq rfl) resetIdentifier_noGrant
  | sessionFinished =>
    exact (trans (of_eq rfl) resetIdentifier_noGrant).trans
      (trans (of_eq rfl) waitForTimeout_quiet.noGrant)
  | deauthorized => exact resetIdentifier_noGrant.trans waitForTimeout_quiet.noGrant
  | reservationEnd =>
    split_ifs <;> exact of_eq rfl
  | _ => exact of_eq rfl

lemma runTimeoutTask_noGrant {i : ℕ} : LogGrows NoGrant s (s.runTimeoutTask i) := by
  unfold runTimeoutTask
  split
  · rename_i evseId timeout _
    cases timeout with
    | authorization token =>
      exact ⟨[.published token .timedOut, .withdrawAuthorization evseId, .identifierReset evseId],
        rfl, by simp [NoGrant]⟩
    | plugIn => exact ⟨[.withdrawAuthorization evseId], rfl, by simp [NoGrant]⟩
  · exact of_eq rfl

lemma step_grants {input : Input} : GrantsAtMostOne s (s.step input) := by
  cases input with
  | token token =>
    dsimp only [step, onToken]
    split_ifs
    · exact .inl (record_quiet rfl).noGrant
    · exact (handleToken_grants token).after rfl
        ⟨[.published token .processing], rfl, by simp [NoGrant]⟩
  | validated i results =>
    dsimp only [step, validated]
    split
    · exact (handleValidated_grants _ _ results).after rfl (of_eq rfl)
    · exact .inl (of_eq rfl)
  | resume i expired => exact resume_grants
  | sessionEvent evseId connectorId event =>
    exact .inl handleSessionEvent_noGrant
  | resumeSession i => exact .inl resumeSession_quiet.noGrant
  | timerExpired evseId => exact .inl timerExpired_quiet.noGrant
  | runTimeoutTask i => exact .inl runTimeoutTask_noGrant
  | validationResultUpdate evseId status parentIdToken =>
    exact .inl validationResultUpdate_quiet.noGrant
  | fault =>
    dsimp only [step]
    split_ifs <;> exact .inl (of_eq rfl)
  | _ => exact .inl (of_eq rfl)

end AuthHandler

open AuthHandler Runs

lemma serves_of_standing {evses' : Evses}
    (hstanding : ∀ id, (evses'.find? id).map standing = (evses.find? id).map standing) {id : ℕ}
    {type : ConnectorTypeEnum} (hserves : Serves evses' m id type) : Serves evses m id type := by
  obtain ⟨evse', hfind', hfree, hresv, hoff⟩ := hserves
  have heq := hstanding id
  rw [hfind', Option.map_some] at heq
  obtain ⟨evse, hfind, hevse⟩ := Option.map_eq_some_iff.1 heq.symm
  obtain ⟨hplug, hconns⟩ := Prod.mk.inj hevse
  refine ⟨evse, hfind, ?_, hresv, ?_⟩
  · rwa [EVSEContext.IsFree, hplug, hconns]
  · rwa [EVSEContext.Offers, hconns]

lemma isReservationPossible_congr {evses' : Evses}
    (hstanding : ∀ id, (evses'.find? id).map standing = (evses.find? id).map standing)
    (hsize : evses'.size = evses.size) :
    isReservationPossible evses' none globals m = isReservationPossible evses none globals m := by
  have hserves : Serves evses' m = Serves evses m := by
    funext id type
    exact propext ⟨serves_of_standing hstanding, serves_of_standing fun id => (hstanding id).symm⟩
  rw [Bool.eq_iff_iff, isReservationPossible_iff, isReservationPossible_iff, hserves, hsize]

def separateEvses : Evses :=
  ⟨[(1, { connectors := [{ id := 1, type := .cCCS2 }] }),
    (2, { connectors := [{ id := 1, type := .cType2 }] })], by simp⟩

def reservedForTokenA (type other : ConnectorTypeEnum) : AuthHandler :=
  run AuthHandler.step
    { selectionAlgorithm := .findFirst, reservationHandler := { evses := separateEvses } } [
      .reservation (.makeReservation 0 none
        { reservationId := 1, idToken := "A", connectorType := some type }),
      .reservation (.makeReservation 0 none
        { reservationId := 2, idToken := "B", connectorType := some other }),
      .token { idToken := { value := "A" } }]

def acceptsTokenA : AuthHandler.Input := .validated 0 [{ authorizationStatus := .accepted }]

end Everest.Auth
