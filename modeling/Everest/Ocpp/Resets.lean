import Everest.Lib.Runs
import Mathlib.Data.Finset.Basic

namespace Everest.Ocpp.V2

open Runs Option List

inductive Event
  | reset (evseId : Option ℤ)
  | stopTransaction (evseId : ℤ)
  | resetScheduled (evseId : Option ℤ)
  | transactionFinished (evseId : ℤ) (transactionActive : Bool)
  deriving DecidableEq

structure Station where
  /-- The number of connectors of each EVSE; both are numbered from 1. -/
  evses : List ℕ
  hasActiveTransaction : ℤ → Bool := fun _ => false
  /-- The connectors of an EVSE that are set inoperative. -/
  unavailable : ℤ → ℤ → Bool := fun _ _ => false
  resetScheduled : Bool := false
  resetScheduledEvseids : Finset ℤ := ∅
  log : List Event := []

inductive ResetEnum
  | immediate | onIdle
  deriving DecidableEq

inductive ResetStatusEnum
  | accepted | rejected | scheduled
  deriving DecidableEq

/-- A request, with what the callback and the variable AllowReset of the EVSE say to it. -/
structure ResetRequest where
  type : ResetEnum
  evseId : Option ℤ
  callbackAllows : Bool := true
  allowReset : Option Bool := none

def ResetRequest.isResetAllowed (msg : ResetRequest) : Bool :=
  msg.callbackAllows && (msg.evseId.isNone || msg.allowReset.getD true)

namespace Station

variable (s : Station)

def emit (event : Event) : Station := { s with log := event :: s.log }

def evseIds : List ℤ := (List.range s.evses.length).map fun i => i + 1

def anyTransactionActive : Bool := s.evseIds.any s.hasActiveTransaction

def setEvseConnectorsUnavailable (evseId : ℤ) : Station :=
  { s with unavailable := fun k connectorId =>
      k = evseId && 1 ≤ connectorId && connectorId ≤ s.evses.getD (evseId - 1).toNat 0 ||
        s.unavailable k connectorId }

def scheduleReset (evseId : Option ℤ) : Station :=
  { s.emit (.resetScheduled evseId) with
    resetScheduled := true
    resetScheduledEvseids :=
      evseId.elim s.resetScheduledEvseids (insert · s.resetScheduledEvseids) }

def evseActiveTransactions (evseId : Option ℤ) : List ℤ :=
  (evseId.filter s.hasActiveTransaction).elim (s.evseIds.filter s.hasActiveTransaction) ([·])

def evseNoTransactions (evseId : Option ℤ) : List ℤ :=
  (evseId.filter s.hasActiveTransaction).elim (s.evseIds.filter (!s.hasActiveTransaction ·))
    fun _ => []

def resetStatus (msg : ResetRequest) : ResetStatusEnum :=
  if !msg.isResetAllowed then .rejected
  else if s.evseActiveTransactions msg.evseId ≠ [] ∧ msg.type = .onIdle then .scheduled
  else .accepted

/-- The answer and the new state; `none` if the EVSE does not exist. -/
def handleResetReq (msg : ResetRequest) : Option (ResetStatusEnum × Station) :=
  let status := s.resetStatus msg
  let active := s.evseActiveTransactions msg.evseId
  let idle := s.evseNoTransactions msg.evseId
  if ∃ k ∈ msg.evseId, k ∉ s.evseIds then none
  else
    let s := if status = .scheduled then s.scheduleReset msg.evseId else s
    let s :=
      if status ≠ .rejected ∧ active ≠ [] then
        match msg.type with
        | .immediate => active.foldl (fun s k => s.emit (.stopTransaction k)) s
        | .onIdle => idle.foldl setEvseConnectorsUnavailable s
      else s
    some (status, if status = .accepted then s.emit (.reset msg.evseId) else s)

def onTransactionStarted (evseId : ℤ) : Station :=
  -- other ids throw
  if evseId ∈ s.evseIds then
    { s with hasActiveTransaction := Function.update s.hasActiveTransaction evseId true }
  else s

def handleScheduledResets (evseId : ℤ) : Station :=
  if !s.resetScheduled then s
  else if s.resetScheduledEvseids = ∅ then
    if s.anyTransactionActive then s.setEvseConnectorsUnavailable evseId
    else { s.emit (.reset none) with resetScheduled := false }
  else if evseId ∈ s.resetScheduledEvseids then
    { s.emit (.reset (some evseId)) with
      resetScheduledEvseids := s.resetScheduledEvseids.erase evseId
      resetScheduled := s.resetScheduledEvseids.erase evseId ≠ ∅ }
  else s

/-- No request to change the availability waits for the end of the transaction. -/
def onTransactionFinished (evseId : ℤ) : Station :=
  if !s.hasActiveTransaction evseId then s
  else
    let s := { s with hasActiveTransaction := Function.update s.hasActiveTransaction evseId false }
    let s := s.handleScheduledResets evseId
    s.emit (.transactionFinished evseId s.anyTransactionActive)

/-- What is required of the answer `status` to a reset of EVSE `k` and of the new state `s'`. -/
structure StaysWithin (k : ℤ) (msg : ResetRequest) (s : Station) (status : ResetStatusEnum)
    (s' : Station) : Prop where
  stopped : ∀ j ≠ k, s'.log.count (.stopTransaction j) = s.log.count (.stopTransaction j)
  connectors : ∀ j ≠ k, s'.unavailable j = s.unavailable j
  idle : s.hasActiveTransaction k = false → msg.isResetAllowed →
    status = .accepted ∧ s'.log.head? = some (.reset (some k)) ∧
      s'.resetScheduledEvseids = s.resetScheduledEvseids

lemma foldl_stopTransaction (evses : List ℤ) (s : Station) :
    evses.foldl (fun s k => s.emit (.stopTransaction k)) s =
      { s with log := (evses.map .stopTransaction).reverse ++ s.log } := by
  induction evses generalizing s with
  | nil => rfl
  | cons k evses ih =>
    rw [foldl_cons, ih]
    simp [emit]

attribute [local simp] handleResetReq resetStatus scheduleReset

/-- A reset of an EVSE stays within it unless the EVSE is idle while another one is not. -/
theorem reset_stays_within_evse_iff (msg : ResetRequest) :
    (∀ k ∈ msg.evseId, ∀ answer ∈ s.handleResetReq msg, StaysWithin k msg s answer.1 answer.2) ↔
      ∀ k ∈ msg.evseId, k ∈ s.evseIds → msg.isResetAllowed →
        s.hasActiveTransaction k ∨ s.anyTransactionActive = false := by
  refine forall₂_congr fun k hmsg => ?_
  rw [mem_def] at hmsg
  by_cases hk : k ∈ s.evseIds
  swap
  · simp [hmsg, hk]
  cases hallow : msg.isResetAllowed with
  | false =>
    have hreq : s.handleResetReq msg = some (.rejected, s) := by
      simp [hmsg, hk, hallow]
    simp only [hreq, mem_def, some.injEq, forall_eq']
    exact iff_of_true ⟨fun _ _ => rfl, fun _ _ => rfl, by simp [hallow]⟩ (by simp)
  | true =>
    cases hbusy : s.hasActiveTransaction k with
    | true =>
      -- only EVSE `k` itself is taken into account
      refine iff_of_true ?_ fun _ _ => .inl rfl
      rintro ⟨status, s'⟩ hreq
      cases htype : msg.type with
      | immediate =>
        obtain ⟨rfl, rfl⟩ : status = .accepted ∧
            s' = (s.emit (.stopTransaction k)).emit (.reset (some k)) := by
          simpa [evseActiveTransactions, evseNoTransactions, hmsg, hk,
            hallow, hbusy, htype, Option.filter, eq_comm] using hreq
        exact ⟨fun j hj => by simp [emit, hj.symm], fun _ _ => rfl, by simp [hbusy]⟩
      | onIdle =>
        obtain ⟨rfl, rfl⟩ : status = .scheduled ∧ s' = s.scheduleReset (some k) := by
          simpa [evseActiveTransactions, evseNoTransactions, hmsg, hk,
            hallow, hbusy, htype, Option.filter, eq_comm] using hreq
        exact ⟨fun j _ => by simp [emit], fun _ _ => rfl, by simp [hbusy]⟩
    | false =>
      have hact : s.evseActiveTransactions (some k) =
          s.evseIds.filter s.hasActiveTransaction := by
        simp [evseActiveTransactions, Option.filter, hbusy]
      cases hany : s.anyTransactionActive with
      | true =>
        -- the transactions of the other EVSEs are stopped or waited for
        obtain ⟨j, hj, hbusy'⟩ := any_eq_true.1 hany
        have hmem : j ∈ s.evseIds.filter s.hasActiveTransaction := mem_filter.2 ⟨hj, hbusy'⟩
        have hne : s.evseIds.filter s.hasActiveTransaction ≠ [] := ne_nil_of_mem hmem
        refine iff_of_false (fun hstays => ?_) (by simp [hk])
        cases htype : msg.type with
        | immediate =>
          have hcount := (hstays (.accepted, emit { s with
            log := ((s.evseIds.filter s.hasActiveTransaction).map .stopTransaction).reverse ++
              s.log } (.reset (some k))) (by
            simp [hact, hmsg, hk, hallow, htype, hne,
              foldl_stopTransaction])).stopped j (by rintro rfl; simp [hbusy] at hbusy')
          have hpos := count_pos_iff.2 (mem_map_of_mem (f := Event.stopTransaction) hmem)
          simp only [emit, count_cons, count_append, count_reverse] at hcount
          simp at hcount
          omega
        | onIdle =>
          have hstatus : (s.handleResetReq msg).map Prod.fst = some .scheduled := by
            simp [hact, hmsg, hk, hallow, htype, hne]
          obtain ⟨answer, hanswer, hsched⟩ := map_eq_some_iff.1 hstatus
          simpa [hsched] using ((hstays answer hanswer).idle hbusy hallow).1
      | false =>
        have hnone : s.evseIds.filter s.hasActiveTransaction = [] := by
          simpa [anyTransactionActive] using hany
        have hreq : s.handleResetReq msg = some (.accepted, s.emit (.reset (some k))) := by
          simp [hact, hmsg, hk, hallow, hnone]
        simp only [hreq, mem_def, some.injEq, forall_eq']
        exact iff_of_true ⟨fun j _ => by simp [emit], fun _ _ => rfl, fun _ _ => ⟨rfl, rfl, rfl⟩⟩
          fun _ _ => .inr trivial

/-- The reset of the idle EVSE 1 stops the transaction of EVSE 2. -/
theorem reset_stops_other_evse :
    let s : Station := { evses := [1, 1], hasActiveTransaction := (· = 2) }
    (s.handleResetReq { type := .immediate, evseId := some 1 }).map (·.2.log) =
      some [.reset (some 1), .stopTransaction 2] := by
  decide

/-- The scheduled resets that have not been executed, as the log tells. -/
def outstanding : List Event → List (Option ℤ)
  | [] => []
  | .resetScheduled evseId :: log => evseId :: outstanding log
  | .reset none :: _ => []
  | .reset (some k) :: log => (outstanding log).filter (· ≠ some k)
  | _ :: log => outstanding log

/-- Only scheduled resets are executed, and none is overdue when a transaction has ended. -/
def Due : Event → List Event → Prop
  | .reset evseId, log => evseId ∈ outstanding log
  | .transactionFinished k active, log =>
    some k ∉ outstanding log ∧ (none ∈ outstanding log → active)
  | _, _ => True

instance : (event : Event) → (log : List Event) → Decidable (Due event log)
  | .reset _, _ => inferInstanceAs (Decidable (_ ∈ _))
  | .transactionFinished _ _, _ => inferInstanceAs (Decidable (_ ∧ _))
  | .stopTransaction _, _ | .resetScheduled _, _ => isTrue trivial

inductive ResetInput
  | reset (msg : ResetRequest)
  | started (evseId : ℤ)
  | finished (evseId : ℤ)

/-- Of the requests, those that are answered Scheduled. -/
def resetStep (s : Station) : ResetInput → Station
  | .reset msg =>
    match s.handleResetReq msg with
    | some (.scheduled, s') => s'
    | _ => s
  | .started evseId => s.onTransactionStarted evseId
  | .finished evseId => s.onTransactionFinished evseId

/-- Requests for the station and for single EVSEs are not scheduled at the same time. -/
def Unmixed (s : Station) : ResetInput → Prop
  | .reset msg => s.resetScheduled → (msg.evseId = none ↔ s.resetScheduledEvseids = ∅)
  | _ => True

instance (s : Station) : (i : ResetInput) → Decidable (s.Unmixed i)
  | .reset _ => inferInstanceAs (Decidable (_ → _))
  | .started _ | .finished _ => isTrue trivial

/-- The flag and the ids say which resets are outstanding. -/
structure Booked (s : Station) : Prop where
  evse : ∀ k, some k ∈ outstanding s.log ↔ k ∈ s.resetScheduledEvseids
  station : none ∈ outstanding s.log ↔ s.resetScheduled ∧ s.resetScheduledEvseids = ∅
  flag : s.resetScheduledEvseids ≠ ∅ → s.resetScheduled
  due : Grows Due [] s.log

def Waiting (s : Station) : Prop := none ∈ outstanding s.log → s.anyTransactionActive

variable {s} {msg : ResetRequest}

attribute [local simp] outstanding

lemma handleScheduledResets_booked (k : ℤ) (h : Booked s) :
    Booked (s.handleScheduledResets k) ∧ Waiting (s.handleScheduledResets k) ∧
      some k ∉ outstanding (s.handleScheduledResets k).log := by
  unfold handleScheduledResets
  split_ifs with hsched hids hact hk
  · have hoff : s.resetScheduled = false := by simpa using hsched
    have hids : s.resetScheduledEvseids = ∅ := by simpa [hoff] using h.flag
    exact ⟨h, by simp [Waiting, h.station, hoff], by simp [h.evse, hids]⟩
  · have hk : some k ∉ outstanding s.log := by simp [h.evse, hids]
    exact ⟨⟨h.evse, h.station, h.flag, h.due⟩, fun _ => hact, hk⟩
  · have hmem : none ∈ outstanding s.log := h.station.2 ⟨by simpa using hsched, hids⟩
    refine ⟨⟨?_, ?_, ?_, h.due.cons hmem⟩, ?_, ?_⟩ <;> simp [Waiting, emit, hids]
  · have hnone : none ∉ outstanding s.log := by simp [h.station, hids]
    refine ⟨⟨fun j => ?_, ?_, ?_, h.due.cons ((h.evse k).2 hk)⟩, ?_, ?_⟩
    · simp [emit, h.evse, and_comm]
    · simp [emit, hnone]
    · simp
    · simp [Waiting, emit, hnone]
    · simp [emit]
  · exact ⟨h, by simp [Waiting, h.station, hids], by simpa [h.evse] using hk⟩

lemma foldl_setEvseConnectorsUnavailable (evses : List ℤ) (s : Station) : ∃ unavailable,
    evses.foldl setEvseConnectorsUnavailable s = { s with unavailable } := by
  induction evses generalizing s with
  | nil => exact ⟨_, rfl⟩
  | cons k evses ih => exact ih (s.setEvseConnectorsUnavailable k)

lemma handleResetReq_scheduled {s' : Station}
    (h : s.handleResetReq msg = some (.scheduled, s')) :
    (∃ unavailable, s' = { s.scheduleReset msg.evseId with unavailable }) ∧
      s.anyTransactionActive := by
  simp only [handleResetReq] at h
  by_cases hex : ∃ k ∈ msg.evseId, k ∉ s.evseIds
  · rw [if_pos hex] at h
    cases h
  rw [if_neg hex] at h
  obtain ⟨hstatus, rfl⟩ := Prod.mk.inj (some.inj h)
  have hpend : s.evseActiveTransactions msg.evseId ≠ [] ∧ msg.type = .onIdle := by
    by_contra hpend
    rw [resetStatus, if_neg hpend] at hstatus
    split_ifs at hstatus
  constructor
  · rw [hstatus, hpend.2]
    simpa [hpend.1] using foldl_setEvseConnectorsUnavailable _ (s.scheduleReset msg.evseId)
  · obtain ⟨j, hj⟩ := exists_mem_of_ne_nil _ hpend.1
    refine any_eq_true.2 ⟨j, ?_⟩
    unfold evseActiveTransactions at hj
    cases hbusy : msg.evseId.filter s.hasActiveTransaction with
    | none => simpa [hbusy] using hj
    | some k =>
      obtain ⟨hk, hact⟩ := filter_eq_some_iff.1 hbusy
      obtain rfl : j = k := by simpa [hbusy] using hj
      have hknown : ∀ k ∈ msg.evseId, k ∈ s.evseIds := by simpa using hex
      exact ⟨hknown j hk, hact⟩

lemma scheduleReset_booked (h : Booked s) (hunmixed : s.Unmixed (.reset msg)) :
    Booked (s.scheduleReset msg.evseId) := by
  cases hid : msg.evseId with
  | none =>
    have hids : s.resetScheduledEvseids = ∅ := by
      by_contra hne
      exact hne ((hunmixed (h.flag hne)).1 hid)
    exact ⟨fun k => by simp [emit, h.evse],
      by simp [emit, hids], fun _ => rfl, h.due.cons trivial⟩
  | some k =>
    have hnone : none ∉ outstanding s.log := by
      rw [h.station]
      rintro ⟨hsched, hids⟩
      simpa [hid] using (hunmixed hsched).2 hids
    exact ⟨fun j => by simp [emit, h.evse],
      by simp [emit, hnone], fun _ => rfl, h.due.cons trivial⟩

lemma resetStep_booked (i : ResetInput) (h : Booked s ∧ Waiting s) (hunmixed : s.Unmixed i) :
    Booked (s.resetStep i) ∧ Waiting (s.resetStep i) := by
  obtain ⟨hbooked, hwaiting⟩ := h
  cases i with
  | started k =>
    simp only [resetStep, onTransactionStarted]
    split_ifs
    · refine ⟨⟨hbooked.evse, hbooked.station, hbooked.flag, hbooked.due⟩, fun hnone => ?_⟩
      obtain ⟨j, hj, hact⟩ := any_eq_true.1 (hwaiting hnone)
      refine any_eq_true.2 ⟨j, hj, ?_⟩
      by_cases hjk : j = k <;> simp [hjk, hact]
    · exact ⟨hbooked, hwaiting⟩
  | finished k =>
    simp only [resetStep, onTransactionFinished]
    split_ifs
    · exact ⟨hbooked, hwaiting⟩
    · obtain ⟨hended, hwaiting', hdue⟩ := handleScheduledResets_booked k (s := { s with
        hasActiveTransaction := Function.update s.hasActiveTransaction k false })
        ⟨hbooked.evse, hbooked.station, hbooked.flag, hbooked.due⟩
      exact ⟨⟨hended.evse, hended.station, hended.flag, hended.due.cons ⟨hdue, hwaiting'⟩⟩,
        hwaiting'⟩
  | reset msg =>
    simp only [resetStep]
    split
    · rename_i s' hreq
      obtain ⟨⟨_, rfl⟩, hact⟩ := handleResetReq_scheduled hreq
      have hsched := scheduleReset_booked hbooked hunmixed
      exact ⟨⟨hsched.evse, hsched.station, hsched.flag, hsched.due⟩,
        fun _ => hact⟩
    · exact ⟨hbooked, hwaiting⟩

/-- If requests for the station and for single EVSEs do not meet, every scheduled reset is executed
in time and no other. -/
theorem scheduled_resets_executed (evses : List ℕ) (inputs : List ResetInput)
    (hinputs : AllSteps resetStep Unmixed { evses } inputs) :
    Grows Due [] (run resetStep { evses } inputs).log := by
  have hstart : Booked { evses } ∧ Waiting { evses } :=
    ⟨⟨by simp, by simp, by simp, .refl⟩, by simp [Waiting]⟩
  have hall := allStates_of_allSteps
    (fun s i (h : Booked s ∧ Waiting s) hC => resetStep_booked i h hC) hstart hinputs
  exact hall.last.1.due

def bothScheduled (first second : Option ℤ) : List ResetInput :=
  [.started 1, .started 2, .reset ⟨.onIdle, first, true, none⟩,
    .reset ⟨.onIdle, second, true, none⟩, .finished 1, .finished 2]

theorem scheduled_resets_executed_each :
    Grows Due [] (run resetStep { evses := [1, 1] } (bothScheduled (some 2) (some 1))).log ∧
      Event.reset (some 2) ∈
        (run resetStep { evses := [1, 1] } (bothScheduled (some 2) (some 1))).log :=
  ⟨scheduled_resets_executed [1, 1] (bothScheduled (some 2) (some 1)) (by decide +kernel),
    by decide +kernel⟩

/-- The reset of the station is forgotten when the one of EVSE 1 is executed. -/
theorem station_reset_forgotten :
    ¬Grows Due [] (run resetStep { evses := [1, 1] } (bothScheduled none (some 1))).log := by
  decide +kernel

end Station
end Everest.Ocpp.V2
