import Everest.Auth.AuthHandler
import Everest.Auth.ReservationBooks

namespace Everest.Auth
open List Option

variable {h : ReservationHandler}

namespace ReservationHandler

lemma cancelReservation_evses (id : ℤ) (callback : Bool) (reason : ReservationEndReason)
    (h : ReservationHandler) : (h.cancelReservation id callback reason).2.evses = h.evses := by
  by_cases hid : h.timers.contains id = true
  · exact (cancelReservation_removed hid callback reason).evses
  · rw [cancelReservation, if_neg hid]

lemma cancelReservationOfEvse_evses {evseId : ℕ} {callback : Bool} :
    (h.cancelReservationOfEvse evseId callback).2.evses = h.evses := by
  unfold cancelReservationOfEvse
  cases h.evseReservations.find? evseId with
  | none => rfl
  | some => exact cancelReservation_evses _ _ _ h

lemma makeReservation_evses {now : ℤ} {evseId : Option ℕ} {reservation : Reservation} :
    (h.makeReservation now evseId reservation).2.evses = h.evses := by
  unfold makeReservation
  split_ifs
  · rfl
  rw [← cancelReservation_evses reservation.reservationId false .cancelled h]
  generalize (h.cancelReservation reservation.reservationId false .cancelled).2 = h
  cases evseId with
  | some id =>
    rcases makeEvseReservation_cases with hsame | ⟨-, -, -, hadded⟩
    · exact congrArg evses hsame
    · exact congrArg (evses ·.2) hadded
  | none =>
    rcases makeGlobalReservation_cases with hsame | ⟨-, hadded⟩
    · exact congrArg evses hsame
    · exact congrArg (evses ·.2) hadded

lemma onConnectorStateChanged_evses {state : ConnectorState} {evseId : ℕ} {connectorId : ℤ} :
    (h.onConnectorStateChanged state evseId connectorId).evses = h.evses := by
  obtain ⟨gone, heq⟩ := onConnectorStateChanged_cancels
  rw [heq]
  clear heq
  induction gone generalizing h with
  | nil => rfl
  | cons id gone ih => exact ih.trans (cancelReservation_evses id _ _ h)

lemma submitEventForConnector_identifier (evseId : ℕ) (connectorId : ℤ) (event : ConnectorEvent)
    (h : ReservationHandler) (id : ℕ) :
    ((h.submitEventForConnector evseId connectorId event).evses.find? id).map (·.identifier) =
      (h.evses.find? id).map (·.identifier) := by
  rcases submitEventForConnector_cases with hsame | ⟨_, _, -, -, heq⟩
  · rw [hsame]
  · rw [heq, onConnectorStateChanged_evses, submitEvent, SortedMap.find?_modify, Option.map_map]
    congr 1
    funext evse
    split_ifs <;> rfl

lemma step_identifier (input : Input) (h : ReservationHandler) (id : ℕ) :
    ((h.step input).evses.find? id).map (·.identifier) = (h.evses.find? id).map (·.identifier) := by
  have hsame : ∀ {m : Evses}, m = h.evses →
      (m.find? id).map (·.identifier) = (h.evses.find? id).map (·.identifier) :=
    fun heq => heq ▸ rfl
  cases input with
  | submitEventForConnector evseId connectorId event =>
    exact submitEventForConnector_identifier evseId connectorId event h id
  | makeReservation now evseId reservation =>
    exact hsame makeReservation_evses
  | cancelReservationOfEvse evseId callback =>
    exact hsame cancelReservationOfEvse_evses
  | _ => exact hsame (cancelReservation_evses _ _ _ h)

end ReservationHandler

namespace AuthHandler
open Runs ReservationHandler

def openGrant (evseId : ℕ) : List AuthEvent → Bool
  | [] => false
  | .granted id _ _ :: log => if id = evseId then true else openGrant evseId log
  | .identifierReset id :: log => if id = evseId then false else openGrant evseId log
  | _ :: log => openGrant evseId log

/-- Between two grants of an EVSE its identifier is reset. -/
def OneGrantPerReset (log : List AuthEvent) : Prop :=
  ∀ evseId newer token parent between token' parent' older,
    log = newer ++ .granted evseId token parent :: between ++
      .granted evseId token' parent' :: older →
      .identifierReset evseId ∈ between

def AuthEvent.isQuiet : AuthEvent → Bool
  | .granted _ _ _ | .identifierReset _ => false
  | _ => true

variable {evseId id i : ℕ} {event : AuthEvent} {events log : List AuthEvent}
    {token : ProvidedIdToken} {s : AuthHandler} {f : EVSEContext → EVSEContext}
    {thread : TokenThread} {idToken : IdToken}

lemma openGrant_quiet (hquiet : AuthEvent.isQuiet event = true) :
    openGrant evseId (event :: log) = openGrant evseId log := by
  cases event <;> first | rfl | cases hquiet

lemma openGrant_append_quiet (hquiet : ∀ event ∈ events, AuthEvent.isQuiet event = true) :
    openGrant evseId (events ++ log) = openGrant evseId log := by
  induction events with
  | nil => rfl
  | cons event events ih =>
    obtain ⟨hevent, hevs⟩ := forall_mem_cons.1 hquiet
    rw [cons_append, openGrant_quiet hevent, ih hevs]

lemma openGrant_of_no_reset {parent : Option IdToken} {between older : List AuthEvent}
    (hreset : .identifierReset evseId ∉ between) :
    openGrant evseId (between ++ .granted evseId token parent :: older) = true := by
  induction between with
  | nil => simp [openGrant]
  | cons event between ih =>
    obtain ⟨hevent, hbetween⟩ := not_or.1 (fun h => hreset (mem_cons.2 h))
    rw [cons_append]
    cases event with
    | granted =>
      unfold openGrant
      split_ifs
      · rfl
      · exact ih hbetween
    | identifierReset =>
      unfold openGrant
      rw [if_neg fun h => hevent (by rw [h])]
      exact ih hbetween
    | _ => exact ih hbetween

lemma OneGrantPerReset.cons (h : OneGrantPerReset log)
    (hevent : ∀ evseId token parent, event = .granted evseId token parent →
      openGrant evseId log = false) :
    OneGrantPerReset (event :: log) := by
  intro evseId newer token parent between token' parent' older heq
  cases newer with
  | nil =>
    obtain ⟨rfl, rfl⟩ := cons.inj heq
    by_contra hreset
    have hclosed := hevent evseId token parent rfl
    exact Bool.false_ne_true (hclosed.symm.trans (openGrant_of_no_reset hreset))
  | cons first newer =>
    exact h evseId newer token parent between token' parent' older (cons.inj heq).2

lemma OneGrantPerReset.append_quiet (h : OneGrantPerReset log)
    (hquiet : ∀ event ∈ events, AuthEvent.isQuiet event = true) :
    OneGrantPerReset (events ++ log) := by
  induction events with
  | nil => exact h
  | cons event events ih =>
    obtain ⟨hevent, hevs⟩ := forall_mem_cons.1 hquiet
    refine (ih hevs).cons ?_
    rintro evseId token parent rfl
    cases hevent

def LogGrows (P : AuthEvent → Prop) (s s' : AuthHandler) : Prop :=
  ∃ events, s'.log = events ++ s.log ∧ ∀ event ∈ events, P event

variable {s' s'' : AuthHandler}

lemma LogGrows.trans {P : AuthEvent → Prop} (hg : LogGrows P s s') (hg' : LogGrows P s' s'') :
    LogGrows P s s'' := by
  obtain ⟨events, hlog, hevs⟩ := hg
  obtain ⟨events', hlog', hevs'⟩ := hg'
  refine ⟨events' ++ events, by rw [hlog', hlog, append_assoc], fun event hmem => ?_⟩
  exact (mem_append.1 hmem).elim (hevs' event) (hevs event)

structure Quiet (s s' : AuthHandler) : Prop where
  algorithm : s'.selectionAlgorithm = s.selectionAlgorithm
  evses : ∀ id, s'.evses.contains id = s.evses.contains id
  identifiers : ∀ id, (s'.identifier id).isSome = (s.identifier id).isSome
  plugInQueue : ∀ id ∈ s'.plugInQueue, id ∈ s.plugInQueue
  tokenThreads : s'.tokenThreads = s.tokenThreads
  log : ∃ events, s'.log = events ++ s.log ∧ ∀ event ∈ events, AuthEvent.isQuiet event = true

lemma Quiet.refl (s : AuthHandler) : Quiet s s :=
  ⟨rfl, fun _ => rfl, fun _ => rfl, fun _ h => h, rfl, [], rfl, by simp⟩

lemma Quiet.trans (h : Quiet s s') (h' : Quiet s' s'') : Quiet s s'' :=
  ⟨h'.algorithm.trans h.algorithm, fun id => (h'.evses id).trans (h.evses id),
    fun id => (h'.identifiers id).trans (h.identifiers id),
    fun id hid => h.plugInQueue id (h'.plugInQueue id hid), h'.tokenThreads.trans h.tokenThreads,
    LogGrows.trans h.log h'.log⟩

lemma record_quiet (hevent : AuthEvent.isQuiet event = true) : Quiet s (s.record event) :=
  ⟨rfl, fun _ => rfl, fun _ => rfl, fun _ h => h, rfl, [event], rfl, by simpa using hevent⟩

section

variable (f : EVSEContext → EVSEContext) (s : AuthHandler) (evseId id : ℕ)

lemma find?_modifyEvse : (s.modifyEvse evseId f).evses.find? id =
    (s.evses.find? id).map fun evse => if id = evseId then f evse else evse :=
  SortedMap.find?_modify

lemma contains_modifyEvse : (s.modifyEvse evseId f).evses.contains id = s.evses.contains id := by
  rw [SortedMap.contains, find?_modifyEvse, SortedMap.contains, isSome_map]

lemma identifier_modifyEvse :
    (s.modifyEvse evseId f).identifier id = (s.evses.find? id).bind fun evse =>
      (if id = evseId then f evse else evse).identifier := by
  rw [identifier, find?_modifyEvse]
  cases s.evses.find? id <;> rfl

end

lemma modifyEvse_quiet (evseId : ℕ) (s : AuthHandler)
    (hf : ∀ evse, (f evse).identifier.isSome = evse.identifier.isSome := by exact fun _ => rfl) :
    Quiet s (s.modifyEvse evseId f) := by
  refine ⟨rfl, contains_modifyEvse f s evseId, fun id => ?_, fun _ h => h, rfl, [], rfl, by simp⟩
  rw [identifier_modifyEvse, identifier]
  cases s.evses.find? id with
  | none => rfl
  | some evse =>
    split_ifs
    · exact hf evse
    · rfl

lemma finish_quiet (token : ProvidedIdToken) (result : TokenHandlingResult) (s : AuthHandler) :
    Quiet s (s.finish token result) := by
  cases result
  case alreadyInProcess =>
    exact ⟨rfl, fun _ => rfl, fun _ => rfl, fun _ h => h, rfl,
      [.handled token .alreadyInProcess], rfl, by simp [AuthEvent.isQuiet]⟩
  all_goals exact ⟨rfl, fun _ => rfl, fun _ => rfl, fun _ h => h, rfl,
    [.handled token _, .published token _], rfl, by simp [AuthEvent.isQuiet]⟩

lemma reservations_quiet
    (hevses : ∀ id, (h.evses.find? id).map (·.identifier) = (s.evses.find? id).map (·.identifier)) :
    Quiet s { s with reservationHandler := h } := by
  refine ⟨rfl, fun id => ?_, fun id => ?_, fun _ h => h, rfl, [], rfl, by simp⟩
  · have hsome := congrArg isSome (hevses id)
    rwa [isSome_map, isSome_map] at hsome
  · have hjoin := congrArg join (hevses id)
    have hbind : ∀ o : Option EVSEContext, (o.map (·.identifier)).join = o.bind (·.identifier) :=
      fun o => by cases o <;> rfl
    rw [hbind, hbind] at hjoin
    exact congrArg isSome hjoin

def SelectionAlgorithm.waitsForPlugIn (algorithm : SelectionAlgorithm) : Prop :=
  algorithm = .plugEvents ∨ algorithm = .plugEventsLIFO

/-- A token that waits for a plug-in would find the EVSE although it is granted, and no grant of it
is about to take it out of the queue. -/
structure Exposed (s : AuthHandler) (evseId : ℕ) : Prop where
  plugged : evseId ∈ s.plugInQueue
  taken : (s.identifier evseId).isSome = true
  settled : ∀ token result, .notifying token evseId result ∉ s.tokenThreads

def ThreadSafe (s : AuthHandler) : TokenThread → Prop
  | .validating _ referencedEvses => ∀ id ∈ referencedEvses, s.evses.contains id = true
  | .selecting _ referencedEvses _ _ =>
    (referencedEvses.length ≠ 1 ∧ SelectionAlgorithm.waitsForPlugIn s.selectionAlgorithm) ∧
      ∀ id ∈ referencedEvses, s.evses.contains id = true ∧ ¬s.Exposed id
  | .notifying _ _ _ => True

structure Safe (s : AuthHandler) : Prop where
  granted : ∀ id, openGrant id s.log = true → (s.identifier id).isSome = true
  once : OneGrantPerReset s.log
  threads : ∀ thread ∈ s.tokenThreads, s.ThreadSafe thread

variable {s s' : AuthHandler} {evseId : ℕ} {refs : List ℕ}

lemma ThreadSafe.mono (h : s.ThreadSafe thread)
    (halg : s'.selectionAlgorithm = s.selectionAlgorithm)
    (hevses : ∀ id, s'.evses.contains id = s.evses.contains id)
    (hexposed : ∀ id, s'.Exposed id → s.Exposed id) : s'.ThreadSafe thread := by
  cases thread with
  | validating => exact fun id hid => (hevses id).trans (h id hid)
  | selecting =>
    refine ⟨⟨h.1.1, halg ▸ h.1.2⟩, fun id hid => ?_⟩
    obtain ⟨hcontains, hsafe⟩ := h.2 id hid
    exact ⟨(hevses id).trans hcontains, fun he => hsafe (hexposed id he)⟩
  | notifying => trivial

lemma Quiet.exposed (hq : Quiet s s') (h : s'.Exposed id) : s.Exposed id :=
  ⟨hq.plugInQueue id h.plugged, (hq.identifiers id).symm.trans h.taken,
    fun token result => hq.tokenThreads ▸ h.settled token result⟩

lemma Quiet.safe_of (hq : Quiet s s')
    (hgranted : ∀ id, openGrant id s.log = true → (s.identifier id).isSome = true)
    (honce : OneGrantPerReset s.log) (hthreads : ∀ thread ∈ s.tokenThreads, s'.ThreadSafe thread) :
    s'.Safe := by
  obtain ⟨events, hlog, hquiet⟩ := hq.log
  refine ⟨fun id hid => ?_, hlog ▸ honce.append_quiet hquiet, hq.tokenThreads ▸ hthreads⟩
  rw [hlog, openGrant_append_quiet hquiet] at hid
  exact (hq.identifiers id).trans (hgranted id hid)

lemma Quiet.safe (hq : Quiet s s') (h : s.Safe) : s'.Safe :=
  hq.safe_of h.granted h.once fun thread hthr =>
    (h.threads thread hthr).mono hq.algorithm hq.evses fun _ => hq.exposed

lemma block_safe (h : s.Safe) (hthr : s.ThreadSafe thread) : (s.block thread).Safe := by
  have hexposed : ∀ id, (s.block thread).Exposed id → s.Exposed id := fun id he =>
    ⟨he.plugged, he.taken, fun token result hmem =>
      he.settled token result (mem_append_left _ hmem)⟩
  refine ⟨h.granted, h.once, fun other hother => ?_⟩
  have hold : s.ThreadSafe other := by
    rcases mem_append.1 hother with hother | hother
    · exact h.threads other hother
    · exact mem_singleton.1 hother ▸ hthr
  exact hold.mono rfl (fun _ => rfl) hexposed

lemma mem_eraseIdx_of_ne {threads : List TokenThread} {other : TokenThread}
    (hi : threads[i]? = some thread) (hne : thread ≠ other) (hmem : other ∈ threads) :
    other ∈ threads.eraseIdx i := by
  obtain ⟨j, hj⟩ := mem_iff_getElem?.1 hmem
  refine mem_eraseIdx_iff_getElem?.2 ⟨j, ?_, hj⟩
  rintro rfl
  exact hne (some.inj (hi.symm.trans hj))

/-- A thread that is not about to complete a grant leaves its waiting point. -/
theorem wake_safe (h : s.Safe) (hi : s.tokenThreads[i]? = some thread)
    (hthr : ∀ token id result, thread ≠ .notifying token id result) :
    Safe { s with tokenThreads := s.tokenThreads.eraseIdx i } := by
  refine ⟨h.granted, h.once, fun other hother => ?_⟩
  refine (h.threads other (mem_of_mem_eraseIdx hother)).mono rfl (fun _ => rfl) ?_
  intro id he
  exact ⟨he.plugged, he.taken, fun token result hmem =>
    he.settled token result (mem_eraseIdx_of_ne hi (hthr token id result) hmem)⟩

lemma identifier_modifyEvse_ne (hid : id ≠ evseId) :
    (s.modifyEvse evseId f).identifier id = s.identifier id := by
  rw [identifier_modifyEvse, identifier]
  simp [hid]

lemma resetIdentifier_safe (h : s.Safe) (evseId : ℕ) : (s.resetIdentifier evseId).Safe := by
  have hnone : ((s.resetIdentifier evseId).identifier evseId).isSome = false := by
    have heq : (s.resetIdentifier evseId).identifier evseId = none := by
      refine (identifier_modifyEvse _ s evseId evseId).trans ?_
      cases s.evses.find? evseId <;> simp
    rw [heq]
    rfl
  have hother : ∀ id, id ≠ evseId → (s.resetIdentifier evseId).identifier id = s.identifier id :=
    fun id hid => identifier_modifyEvse_ne hid
  refine ⟨fun id hid => ?_, ?_, fun thread hthr => ?_⟩
  · have hopen : openGrant id (.identifierReset evseId :: s.log) = true := hid
    rw [openGrant] at hopen
    split_ifs at hopen with heq
    rw [hother id (Ne.symm heq)]
    exact h.granted id hopen
  · refine h.once.cons ?_
    rintro id token parent heq
    cases heq
  · refine (h.threads thread hthr).mono rfl
      (contains_modifyEvse (fun evse => { evse with identifier := none }) s evseId) ?_
    intro id he
    by_cases hid : id = evseId
    · subst hid
      exact absurd he.taken (by rw [hnone]; exact Bool.false_ne_true)
    · exact ⟨he.plugged, hother id hid ▸ he.taken, he.settled⟩

lemma completeGrant_quiet (token : ProvidedIdToken) (evseId : ℕ) (result : ValidationResult)
    (s : AuthHandler) : Quiet s (s.completeGrant token evseId result) := by
  refine Quiet.trans ?_ (finish_quiet token .usedToStartTransaction _)
  exact ⟨rfl, fun _ => rfl, fun _ => rfl, fun _ h => mem_of_mem_filter h, rfl,
    [.notified evseId token result], rfl, by simp [AuthEvent.isQuiet]⟩

variable {result : ValidationResult}

lemma notMem_completeGrant : evseId ∉ (s.completeGrant token evseId result).plugInQueue := by
  intro hmem
  have hfilter : evseId ∈ s.plugInQueue.filter (· ≠ evseId) := hmem
  simp at hfilter

structure Emplaced (evseId : ℕ) (s s' : AuthHandler) : Prop where
  algorithm : s'.selectionAlgorithm = s.selectionAlgorithm
  evses : ∀ id, s'.evses.contains id = s.evses.contains id
  taken : s.evses.contains evseId = true → (s'.identifier evseId).isSome = true
  others : ∀ id, id ≠ evseId → s'.identifier id = s.identifier id
  plugInQueue : s'.plugInQueue = s.plugInQueue
  tokenThreads : s'.tokenThreads = s.tokenThreads
  log : ∃ token parent, s'.log = .granted evseId token parent :: s.log

lemma Emplaced.granted (he : Emplaced evseId s s') (h : s.Safe)
    (hevse : s.evses.contains evseId = true) (id : ℕ) (hopen : openGrant id s'.log = true) :
    (s'.identifier id).isSome = true := by
  by_cases heq : id = evseId
  · exact heq ▸ he.taken hevse
  · obtain ⟨token, parent, hlog⟩ := he.log
    rw [hlog, openGrant, if_neg (Ne.symm heq)] at hopen
    exact he.others id heq ▸ h.granted id hopen

lemma Emplaced.once (he : Emplaced evseId s s') (h : s.Safe)
    (hfree : (s.identifier evseId).isSome = false) : OneGrantPerReset s'.log := by
  obtain ⟨token, parent, hlog⟩ := he.log
  rw [hlog]
  refine h.once.cons ?_
  rintro id token' parent' heq
  obtain ⟨rfl, -⟩ := AuthEvent.granted.inj heq
  by_contra hopen
  rw [Bool.not_eq_false] at hopen
  exact Bool.false_ne_true (hfree.symm.trans (h.granted _ hopen))

lemma Emplaced.exposed (he : Emplaced evseId s s') (hid : id ≠ evseId) (h : s'.Exposed id) :
    s.Exposed id :=
  ⟨he.plugInQueue ▸ h.plugged, he.others id hid ▸ h.taken, he.tokenThreads ▸ h.settled⟩

lemma grant_safe (h : s.Safe) (hevse : s.evses.contains evseId = true)
    (hfree : (s.identifier evseId).isSome = false) : (s.grant token evseId result).Safe := by
  have he : Emplaced evseId s (s.emplaceIdentifier token evseId result) := by
    refine ⟨rfl, contains_modifyEvse
      (fun evse => { evse with identifier := some (grantedIdentifier token result) }) s evseId,
      fun hevse => ?_, fun id hid => identifier_modifyEvse_ne hid, rfl, rfl, _, _, rfl⟩
    obtain ⟨evse, hfind⟩ := isSome_iff_exists.1 hevse
    refine (congrArg isSome (identifier_modifyEvse _ s evseId evseId)).trans ?_
    rw [hfind]
    simp
  unfold grant
  dsimp only
  generalize s.emplaceIdentifier token evseId result = s₁ at he
  split_ifs with hto
  · -- the EVSE stays in the queue, but the thread that will take it out is there
    refine ⟨he.granted h hevse, he.once h hfree, fun thread hthr => ?_⟩
    rcases mem_append.1 hthr with hthr | hthr
    · refine (h.threads thread (he.tokenThreads ▸ hthr)).mono he.algorithm he.evses ?_
      intro id hexposed
      have hid : id ≠ evseId := by
        rintro rfl
        exact hexposed.settled token result (mem_append_right _ (mem_singleton_self _))
      exact he.exposed hid ⟨hexposed.plugged, hexposed.taken, fun token result hmem =>
        hexposed.settled token result (mem_append_left _ hmem)⟩
    · rw [mem_singleton.1 hthr]
      trivial
  · have hq := completeGrant_quiet token evseId result s₁
    refine hq.safe_of (he.granted h hevse) (he.once h hfree) fun thread hthr => ?_
    rw [he.tokenThreads] at hthr
    refine (h.threads thread hthr).mono (hq.algorithm.trans he.algorithm)
      (fun id => (hq.evses id).trans (he.evses id)) fun id hexposed => ?_
    have hid : id ≠ evseId := by
      rintro rfl
      exact notMem_completeGrant hexposed.plugged
    exact he.exposed hid (hq.exposed hexposed)

/-- Whatever EVSE `select_evse` chooses now has no identifier. -/
structure Ready (refs : List ℕ) (s : AuthHandler) : Prop where
  known : ∀ id ∈ refs, s.evses.contains id = true
  free : ∀ id ∈ refs, (refs.length ≠ 1 →
    SelectionAlgorithm.waitsForPlugIn s.selectionAlgorithm → id ∈ s.plugInQueue) →
    (s.identifier id).isSome = false

lemma Ready.quiet (hr : Ready refs s) (hq : Quiet s s') (hqueue : s'.plugInQueue = s.plugInQueue) :
    Ready refs s' := by
  refine ⟨fun id hid => (hq.evses id).trans (hr.known id hid), fun id hid hplug => ?_⟩
  rw [hq.algorithm, hqueue] at hplug
  exact (hq.identifiers id).trans (hr.free id hid hplug)

lemma selectPluggedInEvse_some (h : s.selectPluggedInEvse refs = some id) :
    id ∈ refs ∧ id ∈ s.plugInQueue := by
  unfold selectPluggedInEvse getLastPlugin getOldestPlugin at h
  split_ifs at h
  · exact ⟨by simpa using find?_some h, mem_reverse.1 (mem_of_find?_eq_some h)⟩
  · exact ⟨by simpa using find?_some h, mem_of_find?_eq_some h⟩

lemma selectPluggedInEvse_none (h : s.selectPluggedInEvse refs = none) (hid : id ∈ refs) :
    id ∉ s.plugInQueue := by
  intro hplug
  unfold selectPluggedInEvse getLastPlugin getOldestPlugin at h
  split_ifs at h
  · have hnone := find?_eq_none.1 h id (mem_reverse.2 hplug)
    simp [hid] at hnone
  · have hnone := find?_eq_none.1 h id hplug
    simp [hid] at hnone

lemma selectAfterPlugIn_selected (h : s.selectAfterPlugIn refs idToken = .evseSelected id) :
    id ∈ refs ∧ id ∈ s.plugInQueue := by
  unfold selectAfterPlugIn at h
  split_ifs at h
  cases hselect : s.selectPluggedInEvse refs with
  | none => simp [hselect] at h
  | some =>
    rw [hselect] at h
    obtain rfl := SelectEvseResult.evseSelected.inj h
    exact selectPluggedInEvse_some hselect

lemma selectAfterPlugIn_waiting (h : s.selectAfterPlugIn refs idToken = .waiting)
    (hid : id ∈ refs) : id ∉ s.plugInQueue := by
  unfold selectAfterPlugIn at h
  split_ifs at h
  cases hselect : s.selectPluggedInEvse refs with
  | none => exact selectPluggedInEvse_none hselect hid
  | some => simp [hselect] at h

lemma selectFirst_cases :
    s.selectFirst refs = .timeOut ∨ ∃ id ∈ refs, s.selectFirst refs = .evseSelected id := by
  have havail : ∀ o, o = refs.find? (fun id => (s.evses.find? id).any (·.isAvailable)) →
      o.elim SelectEvseResult.timeOut .evseSelected = .timeOut ∨
      ∃ id ∈ refs, o.elim SelectEvseResult.timeOut .evseSelected = .evseSelected id := by
    rintro o ho
    cases o with
    | none => exact .inl rfl
    | some id => exact .inr ⟨id, mem_of_find?_eq_some ho.symm, rfl⟩
  unfold selectFirst
  cases hplugin : s.getOldestPlugin refs with
  | none => exact havail _ rfl
  | some id =>
    dsimp only
    split_ifs
    · exact .inr ⟨id, by simpa using find?_some hplugin, rfl⟩
    · exact havail _ rfl

lemma selectEvse_selected (h : s.selectEvse refs idToken = .evseSelected id) :
    id ∈ refs ∧ (refs.length ≠ 1 → SelectionAlgorithm.waitsForPlugIn s.selectionAlgorithm →
      id ∈ s.plugInQueue) := by
  unfold selectEvse at h
  split at h
  · obtain rfl := SelectEvseResult.evseSelected.inj h
    exact ⟨mem_singleton_self _, fun hlen => absurd rfl hlen⟩
  · split at h
    · obtain ⟨hid, hplug⟩ := selectAfterPlugIn_selected h
      exact ⟨hid, fun _ _ => hplug⟩
    · obtain ⟨hid, hplug⟩ := selectAfterPlugIn_selected h
      exact ⟨hid, fun _ _ => hplug⟩
    · rename_i halg
      refine ⟨?_, fun _ hwaits => ?_⟩
      · rcases selectFirst_cases with htime | ⟨id', hid', hsel⟩
        · rw [htime] at h
          cases h
        · rw [hsel] at h
          obtain rfl := SelectEvseResult.evseSelected.inj h
          exact hid'
      · rw [halg] at hwaits
        simp [SelectionAlgorithm.waitsForPlugIn] at hwaits
    · cases h

lemma selectEvse_waiting (h : s.selectEvse refs idToken = .waiting) :
    (refs.length ≠ 1 ∧ SelectionAlgorithm.waitsForPlugIn s.selectionAlgorithm) ∧
      ∀ id ∈ refs, id ∉ s.plugInQueue := by
  unfold selectEvse at h
  split at h
  · cases h
  · rename_i hlen
    have hlen : refs.length ≠ 1 := by
      intro hone
      obtain ⟨id, rfl⟩ := length_eq_one_iff.1 hone
      exact hlen id rfl
    split at h
    · rename_i halg
      exact ⟨⟨hlen, .inl halg⟩, fun _ => selectAfterPlugIn_waiting h⟩
    · rename_i halg
      exact ⟨⟨hlen, .inr halg⟩, fun _ => selectAfterPlugIn_waiting h⟩
    · rcases selectFirst_cases with htime | ⟨id, -, hsel⟩
      · rw [htime] at h
        cases h
      · rw [hsel] at h
        cases h
    · cases h

lemma assign_evses (token : ProvidedIdToken) (evseId : ℕ) (result : ValidationResult)
    (h : ReservationHandler) : (assign token evseId result h).2.2.evses = h.evses := by
  unfold assign
  dsimp only
  split_ifs
  · rfl
  · rfl
  · rfl
  · split
    · exact cancelReservation_evses _ _ _ h
    · rfl

lemma foldl_record_quiet {events : ℕ → AuthEvent}
    (hevs : ∀ id, AuthEvent.isQuiet (events id) = true) {ids : List ℕ} :
    Quiet s (ids.foldl (fun s id => s.record (events id)) s) := by
  refine List.foldlRecOn ids _ (.refl s) ?_
  exact fun _ h id _ => h.trans (record_quiet (hevs id))

lemma reject_quiet : Quiet s (s.reject token result) :=
  (foldl_record_quiet (fun _ => rfl)).trans (finish_quiet token .rejected _)

lemma afterSelect_safe {next : ValidationResult → AuthHandler → AuthHandler}
    (hnext : ∀ result s, Safe s → Ready refs s → Safe (next result s)) (h : s.Safe)
    (hr : Ready refs s) (token : ProvidedIdToken) (result : ValidationResult)
    (results : List ValidationResult) {selected : SelectEvseResult}
    (hsel : ∀ id, selected = .evseSelected id → id ∈ refs ∧ (refs.length ≠ 1 →
      SelectionAlgorithm.waitsForPlugIn s.selectionAlgorithm → id ∈ s.plugInQueue))
    (hwaiting : selected = .waiting → (refs.length ≠ 1 ∧
      SelectionAlgorithm.waitsForPlugIn s.selectionAlgorithm) ∧ ∀ id ∈ refs, id ∉ s.plugInQueue) :
    (s.afterSelect next token refs result results selected).Safe := by
  cases selected with
  | timeOut => exact (finish_quiet token .timeout s).safe h
  | interrupted => exact (finish_quiet token .withdrawn s).safe h
  | notImplemented => exact (record_quiet rfl).safe h
  | waiting =>
    obtain ⟨hwaits, hunplugged⟩ := hwaiting rfl
    refine block_safe h ⟨hwaits, fun id hid => ⟨hr.known id hid, fun he => ?_⟩⟩
    exact hunplugged id hid he.plugged
  | evseSelected evseId =>
    obtain ⟨hmem, hplug⟩ := hsel evseId rfl
    have hq : Quiet s { s with
        reservationHandler := (assign token evseId result s.reservationHandler).2.2 } :=
      reservations_quiet fun id => by rw [assign_evses]; rfl
    dsimp only [afterSelect]
    generalize assign token evseId result s.reservationHandler = assigned at hq
    obtain ⟨authorized, result, reservations⟩ := assigned
    have hr' := hr.quiet hq rfl
    cases authorized with
    | true =>
      refine grant_safe (hq.safe h) (hr'.known evseId hmem) (hr'.free evseId hmem hplug)
    | false =>
      have hq' : Quiet { s with reservationHandler := reservations }
          (record (.notified evseId token result) { s with reservationHandler := reservations }) :=
        record_quiet rfl
      exact hnext _ _ (hq'.safe (hq.safe h)) (hr'.quiet hq' rfl)

lemma tryResults_safe (h : s.Safe) (hr : Ready refs s) (results : List ValidationResult)
    (last : ValidationResult) (token : ProvidedIdToken) :
    (s.tryResults refs results last token).Safe := by
  induction results generalizing s last token with
  | nil => exact reject_quiet.safe h
  | cons result results ih =>
    unfold tryResults
    split_ifs
    · exact reject_quiet.safe h
    · exact ih h hr result token
    · exact (finish_quiet token .rejected s).safe h
    · have hq : Quiet s (s.publish
          { token with parentIdToken := result.parentIdToken.or token.parentIdToken } .accepted) :=
        record_quiet rfl
      refine afterSelect_safe (fun last s h hr => ih h hr last _) (hq.safe h) (hr.quiet hq rfl)
        _ _ _ ?_ ?_
      · exact fun id => selectEvse_selected
      · exact selectEvse_waiting

variable {results : List ValidationResult}

lemma stopWithParentId_quiet (hstop : s.stopWithParentId token refs results = some s') :
    Quiet s s' := by
  induction results with
  | nil => cases hstop
  | cons result results ih =>
    unfold stopWithParentId at hstop
    split at hstop
    · split at hstop
      · obtain rfl := some.inj hstop
        exact (foldl_record_quiet (fun _ => rfl)).trans (finish_quiet _ _ _)
      · split at hstop
        · split_ifs at hstop
          · exact some.inj hstop ▸ finish_quiet _ _ s
          · exact some.inj hstop ▸ finish_quiet _ _ s
          · exact some.inj hstop ▸ (record_quiet rfl).trans (finish_quiet _ _ _)
        · exact ih hstop
    · exact ih hstop

lemma handleValidated_safe (h : s.Safe) (hrefs : ∀ id ∈ refs, s.evses.contains id = true) :
    (s.handleValidated token refs results).Safe := by
  unfold handleValidated
  dsimp only
  split
  · rename_i s' hstop
    split_ifs at hstop
    exact (stopWithParentId_quiet hstop).safe h
  · split_ifs
    · exact (finish_quiet _ _ s).safe h
    · exact (finish_quiet _ _ s).safe h
    · refine tryResults_safe h ⟨fun id hid => ?_, fun id hid _ => ?_⟩ results _ token
      · exact hrefs id (mem_filter.1 hid).1
      · simpa using (mem_filter.1 hid).2

lemma getReferencedEvses_known (hid : id ∈ s.getReferencedEvses token) :
    s.evses.contains id = true := by
  unfold getReferencedEvses at hid
  split at hid
  · obtain ⟨-, hany⟩ := mem_filter.1 hid
    cases hfind : s.evses.find? id with
    | none => simp [hfind] at hany
    | some => simp [SortedMap.contains, hfind]
  · obtain ⟨e, he, rfl⟩ := mem_map.1 hid
    exact SortedMap.contains_iff.2 (mem_map.2 ⟨e, (mem_filter.1 he).1, rfl⟩)

lemma handleToken_safe (h : s.Safe) : (s.handleToken token).Safe := by
  unfold handleToken
  dsimp only
  split
  · split_ifs
    · exact (finish_quiet _ _ s).safe h
    · exact ((record_quiet rfl).trans (finish_quiet _ _ _)).safe h
  · split_ifs
    · exact (finish_quiet _ _ s).safe h
    · exact (finish_quiet _ _ s).safe h
    · exact handleValidated_safe h (fun _ => getReferencedEvses_known)
    · exact block_safe h fun _ => getReferencedEvses_known

lemma onToken_safe (h : s.Safe) : (s.onToken token).Safe := by
  unfold onToken
  split_ifs
  · exact (record_quiet rfl).safe h
  · have hq : Quiet s { s with tokensInProcess := s.tokensInProcess ++ [token] } :=
      { Quiet.refl s with }
    exact handleToken_safe ((hq.trans (record_quiet rfl)).safe h)

def TokenThread.awaits (evseId : ℕ) : TokenThread → Bool
  | .selecting _ referencedEvses _ _ => referencedEvses.contains evseId
  | _ => false

/-- The EVSE whose grant waits for a running timeout task. -/
def TokenThread.granting : TokenThread → Option ℕ
  | .notifying _ evseId _ => some evseId
  | _ => none

/-- A token that waits for a plug-in goes on while none of its EVSEs is in the hands of a grant
that waits for a timeout task. -/
def Undisturbed (s : AuthHandler) (i : ℕ) : Prop :=
  ∀ waiting ∈ s.tokenThreads[i]?, ∀ thread ∈ s.tokenThreads,
    ∀ evseId ∈ TokenThread.granting thread, TokenThread.awaits evseId waiting = false

lemma resume_safe (h : s.Safe) (hi : s.Undisturbed i) {expired : Bool} :
    (s.resume i expired).Safe := by
  unfold resume
  split
  · rename_i token refs result results hthr
    have hwoken := wake_safe h hthr fun _ _ _ => by simp
    obtain ⟨⟨hlen, hwaits⟩, hrefs⟩ := h.threads _ (mem_of_getElem? hthr)
    have hready : Ready refs { s with tokenThreads := s.tokenThreads.eraseIdx i } := by
      refine ⟨fun id hid => (hrefs id hid).1, fun id hid hplug => ?_⟩
      by_contra htaken
      refine (hrefs id hid).2 ⟨hplug hlen hwaits, eq_true_of_ne_false htaken, ?_⟩
      intro token result hmem
      have hawaits := hi _ hthr _ hmem id rfl
      simp [TokenThread.awaits, hid] at hawaits
    split
    · split_ifs
      · exact (finish_quiet token .timeout _).safe hwoken
      · exact h
    · rename_i hnot
      refine afterSelect_safe (fun last s h hr => tryResults_safe h hr results last token) hwoken
        hready token result results ?_ ?_
      · intro id hid
        obtain ⟨hmem, hplug⟩ := selectAfterPlugIn_selected hid
        exact ⟨hmem, fun _ _ => hplug⟩
      · exact fun hwaiting => absurd hwaiting hnot
  · rename_i token evseId result hthr
    split_ifs
    · exact h
    · -- the thread that protected the EVSE is gone, and so is the EVSE from the queue
      have hq := completeGrant_quiet token evseId result
        { s with tokenThreads := s.tokenThreads.eraseIdx i }
      refine hq.safe_of h.granted h.once fun thread hmem => ?_
      refine (h.threads thread (mem_of_mem_eraseIdx hmem)).mono hq.algorithm hq.evses ?_
      intro id he
      have hid : evseId ≠ id := by
        rintro rfl
        exact notMem_completeGrant he.plugged
      have he' := hq.exposed he
      exact ⟨he'.plugged, he'.taken, fun token' result' hold =>
        he'.settled token' result' (mem_eraseIdx_of_ne hthr (by simp [hid]) hold)⟩
  · exact h

lemma stopTimer_quiet {finished : Bool} : Quiet s (s.stopTimer evseId finished) := by
  refine ⟨rfl, fun _ => rfl, fun _ => rfl, fun id hid => ?_, rfl, [], rfl, by simp⟩
  cases finished with
  | true => exact mem_of_mem_filter hid
  | false => exact hid

lemma waitForTimeout_quiet {finished : Bool} : Quiet s (s.waitForTimeout evseId finished) := by
  unfold waitForTimeout
  split_ifs
  · exact { Quiet.refl s with }
  · exact stopTimer_quiet

lemma submitEventForConnector_quiet (evseId : ℕ) (connectorId : ℤ) (event : ConnectorEvent)
    (s : AuthHandler) : Quiet s (s.submitEventForConnector evseId connectorId event) :=
  reservations_quiet (submitEventForConnector_identifier evseId connectorId event _)

lemma timers_quiet (timers : SortedMap ℕ Timeout) (s : AuthHandler) :
    Quiet s { s with timers := timers } :=
  { Quiet.refl s with }

/-- An EV is plugged in where no token was granted, or no token waits for it. -/
def PlugInExpected (s : AuthHandler) (evseId : ℕ) : Prop :=
  (s.identifier evseId).isSome = true → ∀ thread ∈ s.tokenThreads,
    TokenThread.awaits evseId thread = false

lemma plugIn_safe (h : s.Safe) (hplugIn : s.PlugInExpected evseId) :
    Safe { s with plugInQueue := s.plugInQueue ++ [evseId] } := by
  refine ⟨h.granted, h.once, fun thread hthr => ?_⟩
  have hold := h.threads thread hthr
  cases thread with
  | validating => exact hold
  | notifying => trivial
  | selecting =>
    refine ⟨hold.1, fun id hid => ⟨(hold.2 id hid).1, fun he => ?_⟩⟩
    rcases mem_append.1 he.plugged with hplug | hnew
    · exact (hold.2 id hid).2 ⟨hplug, he.taken, he.settled⟩
    · obtain rfl := mem_singleton.1 hnew
      have hawaits := hplugIn he.taken _ hthr
      simp [TokenThread.awaits, hid] at hawaits

lemma handleSessionEvent_safe (h : s.Safe) {connectorId : ℤ} {event : SessionEvent}
    (hplugIn : event = .sessionStarted true → s.PlugInExpected evseId) :
    (s.handleSessionEvent evseId connectorId event).Safe := by
  unfold handleSessionEvent
  by_cases hguard : (decide (connectorId ≤ 0) || !s.evses.contains evseId) = true
  · rw [if_pos hguard]
    exact h
  rw [if_neg hguard]
  cases event with
  | sessionStarted evConnected =>
    cases evConnected with
    | false => exact h
    | true =>
      have hsafe := plugIn_safe h (hplugIn rfl)
      dsimp only
      rw [if_pos rfl]
      split_ifs
      · exact (modifyEvse_quiet evseId _).safe hsafe
      · exact (timers_quiet _ _).safe ((modifyEvse_quiet evseId _).safe hsafe)
  | transactionStarted =>
    exact waitForTimeout_quiet.safe ((submitEventForConnector_quiet _ _ _ _).safe
      ((modifyEvse_quiet evseId s).safe h))
  | transactionFinished =>
    exact resetIdentifier_safe ((modifyEvse_quiet evseId s).safe h) evseId
  | sessionFinished =>
    exact waitForTimeout_quiet.safe ((submitEventForConnector_quiet _ _ _ _).safe
      (resetIdentifier_safe ((modifyEvse_quiet evseId s).safe h) evseId))
  | disabled | enabled => exact (submitEventForConnector_quiet _ _ _ _).safe h
  | deauthorized => exact waitForTimeout_quiet.safe (resetIdentifier_safe h evseId)
  | reservationEnd =>
    split_ifs
    · refine (reservations_quiet fun id => ?_).safe h
      rw [cancelReservationOfEvse_evses]
      rfl
    · exact h
  | other => exact h

lemma timerExpired_quiet : Quiet s (s.timerExpired evseId) := by
  unfold timerExpired
  split
  · rename_i timeout _
    have hq : Quiet s { s with
        timers := s.timers.erase evseId
        timeoutTasks := s.timeoutTasks ++ [(evseId, timeout)] } :=
      { Quiet.refl s with }
    exact hq.trans (modifyEvse_quiet evseId _)
  · exact .refl s

lemma runTimeoutTask_safe (h : s.Safe) : (s.runTimeoutTask i).Safe := by
  unfold runTimeoutTask
  split
  · rename_i evseId timeout _
    have hq : Quiet s { s with timeoutTasks := s.timeoutTasks.eraseIdx i } := { Quiet.refl s with }
    cases timeout with
    | authorization =>
      exact (modifyEvse_quiet evseId _).safe (((record_quiet rfl).trans
        (record_quiet rfl)).safe (resetIdentifier_safe (hq.safe h) evseId))
    | plugIn =>
      have hq' : Quiet s { s with
          timeoutTasks := s.timeoutTasks.eraseIdx i
          plugInQueue := s.plugInQueue.filter (· ≠ evseId) } :=
        ⟨rfl, fun _ => rfl, fun _ => rfl, fun _ h => mem_of_mem_filter h, rfl, [], rfl, by simp⟩
      exact (modifyEvse_quiet evseId _).safe ((hq'.trans (record_quiet rfl)).safe h)
  · exact h

lemma resumeSession_quiet : Quiet s (s.resumeSession i) := by
  unfold resumeSession
  split
  · rename_i evseId finished _
    split_ifs
    · exact .refl s
    · have hq : Quiet s { s with sessionThreads := s.sessionThreads.eraseIdx i } :=
        { Quiet.refl s with }
      exact hq.trans stopTimer_quiet
  · exact .refl s

lemma validationResultUpdate_quiet {status : AuthorizationStatus} {parentIdToken : Option IdToken} :
    Quiet s (s.handleTokenValidationResultUpdate evseId status parentIdToken) := by
  unfold handleTokenValidationResultUpdate
  split
  · exact (modifyEvse_quiet evseId s fun _ => isSome_map).trans (record_quiet rfl)
  · exact .refl s

/-- An EV is plugged in only where no waiting token could take over a grant, and a waiting token
goes on only while no grant of its EVSEs is incomplete. -/
def Orderly (s : AuthHandler) : Input → Prop
  | .resume i _ => s.Undisturbed i
  | .sessionEvent evseId _ (.sessionStarted true) => s.PlugInExpected evseId
  | _ => True

instance (input : Input) : Decidable (s.Orderly input) := by
  unfold Orderly Undisturbed PlugInExpected
  split <;> infer_instance

lemma step_safe (h : s.Safe) {input : Input} (hinput : s.Orderly input) : (s.step input).Safe := by
  cases input with
  | token token => exact onToken_safe h
  | validated i results =>
    dsimp only [step, validated]
    split
    · rename_i token refs hi
      have hrefs := h.threads _ (mem_of_getElem? hi)
      exact handleValidated_safe (wake_safe h hi fun _ _ _ => by simp) hrefs
    · exact h
  | resume i expired => exact resume_safe h hinput
  | sessionEvent =>
    refine handleSessionEvent_safe h ?_
    rintro rfl
    exact hinput
  | resumeSession i => exact resumeSession_quiet.safe h
  | timerExpired evseId => exact timerExpired_quiet.safe h
  | runTimeoutTask i => exact runTimeoutTask_safe h
  | validationResultUpdate evseId status parentIdToken =>
    exact validationResultUpdate_quiet.safe h
  | withdrawRequest | configure =>
    refine Quiet.safe (s := s) ?_ h
    exact { Quiet.refl s with }
  | fault =>
    dsimp only [step]
    split_ifs
    · exact h
    · exact (submitEventForConnector_quiet _ _ _ s).safe h
    · exact (submitEventForConnector_quiet _ _ _ s).safe h
  | reservation input => exact (reservations_quiet (step_identifier input _)).safe h

end AuthHandler

open AuthHandler Runs

/-- Between two grants of an EVSE its identifier is reset, if the run is orderly. -/
theorem one_authorization_per_evse (algorithm : SelectionAlgorithm) (config : AuthConfig)
    (reservationHandler : ReservationHandler) (inputs : List AuthHandler.Input)
    (hinputs : AllSteps AuthHandler.step Orderly
      { selectionAlgorithm := algorithm, config := config
        reservationHandler := reservationHandler } inputs) :
    AllStates AuthHandler.step (fun s => OneGrantPerReset s.log)
      { selectionAlgorithm := algorithm, config := config
        reservationHandler := reservationHandler } inputs := by
  have hstep : ∀ (s : AuthHandler) input, s.Safe → s.Orderly input → (s.step input).Safe :=
    fun _ _ h ho => step_safe h ho
  refine (allStates_of_allSteps hstep ⟨?_, ?_, ?_⟩ hinputs).mono fun _ h => h.once
  · intro id hid
    cases hid
  · intro evseId newer token parent between token' parent' older heq
    have hlen := congrArg List.length heq
    simp at hlen
  · exact fun thread hthr => absurd hthr List.not_mem_nil

def tokenA : ProvidedIdToken := { idToken := { value := "A" } }

def tokenZ : ProvidedIdToken := { idToken := { value := "Z" }, connectors := some [1] }

/-- The EV is plugged in, charges and leaves before the next token comes. -/
theorem successive_tokens_authorized :
    AllStates AuthHandler.step (fun s => OneGrantPerReset s.log)
      { selectionAlgorithm := .plugEvents, reservationHandler := { evses := twoEvses } } [
      .token tokenZ, .validated 0 [{ authorizationStatus := .accepted }],
      .sessionEvent 1 1 (.sessionStarted true), .sessionEvent 1 1 .transactionStarted,
      .sessionEvent 1 1 .transactionFinished, .sessionEvent 1 1 .sessionFinished,
      .token tokenA, .validated 0 [{ authorizationStatus := .accepted }],
      .sessionEvent 1 1 (.sessionStarted true), .resume 0 false] :=
  one_authorization_per_evse .plugEvents {} { evses := twoEvses } _ (by decide +kernel)

/-- Token A waits for a plug-in at either EVSE, token Z is granted EVSE 1, and when its EV is
plugged in, A takes the EVSE over. -/
theorem granted_evse_taken_over :
    let log := (run AuthHandler.step
      { selectionAlgorithm := .plugEvents, reservationHandler := { evses := twoEvses } } [
        .token tokenA, .validated 0 [{ authorizationStatus := .accepted }],
        .token tokenZ, .validated 1 [{ authorizationStatus := .accepted }],
        .sessionEvent 1 1 (.sessionStarted true), .resume 0 false]).log
    ∃ newer token parent between token' parent' older,
      log = newer ++ .granted 1 token parent :: between ++ .granted 1 token' parent' :: older ∧
      token.idToken ≠ token'.idToken ∧ .identifierReset 1 ∉ between := by
  intro log
  refine ⟨log.take 3, { tokenA with connectors := some [1] }, none, (log.drop 4).take 3, tokenZ,
    none, log.drop 8, ?_, ?_, ?_⟩
  · decide +kernel
  · decide
  · decide +kernel

end Everest.Auth
