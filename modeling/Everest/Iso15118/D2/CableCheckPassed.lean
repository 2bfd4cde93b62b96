import Everest.Iso15118.D2.Engine

namespace Everest.Iso15118.D2

open Runs Context Bool Result

def lastRequest : List Mark → Option Body
  | [] => none
  | .request req :: _ => some req.body
  | _ :: older => lastRequest older

def Body.startsDelivery : Body → Bool
  | .powerDelivery req => req.chargeProgress = .start
  | _ => false

def Body.endsDelivery : Body → Bool
  | .powerDelivery req => req.chargeProgress ≠ .start
  | _ => false

def Response.deliveryAccepted (r : Response) : Bool := r.type = .powerDelivery && !r.code.isFailed

/-- A passed cable check was reported after the newest start of one, and no power delivery was
stopped or renegotiated since. -/
def cableChecked : List Mark → Bool
  | [] => false
  | .signal .startCableCheck :: _ => false
  | .event (.cableCheckFinished true) :: older => older.contains (.signal .startCableCheck)
  | .respond r :: older =>
    !(r.deliveryAccepted && (lastRequest older).any Body.endsDelivery) && cableChecked older
  | _ :: older => cableChecked older

/-- A positive answer to a DC `PowerDeliveryReq(Start)` is given only after a passed cable
check. -/
def StartChecked : Mark → List Mark → Prop
  | .respond r, older =>
    r.deliveryAccepted → r.dcEvseStatus → (lastRequest older).any Body.startsDelivery →
      cableChecked older
  | _, _ => True

instance : ∀ m older, Decidable (StartChecked m older)
  | .respond r, older => inferInstanceAs (Decidable (r.deliveryAccepted → r.dcEvseStatus →
      (lastRequest older).any Body.startsDelivery → cableChecked older))
  | .request _, _ | .event _, _ | .timeout _, _ | .signal _, _ | .requireAuthPnc, _
  | .certificateRequest, _ => isTrue trivial

variable {log : List Mark}

lemma startCableCheck_mem (h : cableChecked log = true) : .signal .startCableCheck ∈ log := by
  fun_induction cableChecked log with
  | case1 => exact absurd h false_ne_true
  | case2 => exact List.mem_cons_self
  | case3 => exact List.mem_cons_of_mem _ (List.contains_iff_mem.1 h)
  | case4 r older ih =>
    rw [and_eq_true] at h
    exact List.mem_cons_of_mem _ (ih h.2)
  | case5 m older _ _ _ ih => exact List.mem_cons_of_mem _ (ih h)

variable {event : ControlEvent}

lemma cableChecked_event (h : cableChecked log = true) :
    cableChecked (.event event :: log) = true := by
  by_cases he : event = .cableCheckFinished true
  · subst he
    exact List.contains_iff_mem.2 (startCableCheck_mem h)
  · rw [cableChecked]
    · exact h
    all_goals simp_all

lemma cableChecked_respond {r : Response}
    (h : r.deliveryAccepted = false ∨ (lastRequest log).any Body.endsDelivery = false) :
    cableChecked (.respond r :: log) = cableChecked log := by
  rcases h with h | h <;> simp [cableChecked, h]

/-- Outside the states from the cable check to the charge loop no cable check counts; a skipped
one leaves the session in a pre-charge that refuses to start. -/
def Verified (c : Context) : State → Prop
  | .cableCheck initiated _ =>
    (c.evse.cableCheckDone → initiated ∧ cableChecked c.log) ∧
      (initiated → .signal .startCableCheck ∈ c.log)
  | .preChargeStart | .preCharge =>
    (c.evse.cableCheckDone → cableChecked c.log) ∧ (¬ c.evse.cableCheckDone → c.startRefused)
  | .dcChargeLoop | .meteringReceipt true => cableChecked c.log
  | _ => c.evse.cableCheckDone = false

structure Kept (c : Context) (s : State) : Prop where
  log : Grows StartChecked [] c.log
  verified : Verified c s

abbrev KeptAfter (r : Context × Result) : Prop := Kept r.1 r.2.state

variable {c c' : Context} {s s' : State} {r : Response}

lemma Kept.mono (h : Kept c s) (hevse : c'.evse.cableCheckDone = c.evse.cableCheckDone)
    (hcfg : c'.config.noEnergyPause = c.config.noEnergyPause)
    (hlog : Grows StartChecked [] c'.log) (hchecked : cableChecked c.log → cableChecked c'.log)
    (hmem : .signal .startCableCheck ∈ c.log → .signal .startCableCheck ∈ c'.log) :
    Kept c' s := by
  have hrefused : c'.startRefused = c.startRefused := by simp [startRefused, hcfg]
  refine ⟨hlog, ?_⟩
  have hv := h.verified
  unfold Verified at hv ⊢
  rw [hevse, hrefused]
  split at hv
  · exact ⟨fun hd => (hv.1 hd).imp_right hchecked, fun hi => hmem (hv.2 hi)⟩
  · exact hv.imp_left fun hv hd => hchecked (hv hd)
  · exact hv.imp_left fun hv hd => hchecked (hv hd)
  · exact hchecked hv
  · exact hchecked hv
  · exact hv

lemma Kept.congr (h : Kept c s) (hevse : c'.evse.cableCheckDone = c.evse.cableCheckDone)
    (hcfg : c'.config.noEnergyPause = c.config.noEnergyPause) (hlog : c'.log = c.log) :
    Kept c' s :=
  h.mono hevse hcfg (hlog ▸ h.log) (hlog ▸ id) (hlog ▸ id)

lemma Kept.mark (h : Kept c s) {m : Mark} (hm : StartChecked m c.log)
    (hchecked : cableChecked c.log → cableChecked (m :: c.log))
    (hevse : c'.evse.cableCheckDone = c.evse.cableCheckDone)
    (hcfg : c'.config.noEnergyPause = c.config.noEnergyPause) (hlog : c'.log = m :: c.log) :
    Kept c' s :=
  h.mono hevse hcfg (hlog ▸ h.log.cons hm) (hlog ▸ hchecked) (hlog ▸ List.mem_cons_of_mem _)

lemma answered_of_accepted (h : (c.answered r).deliveryAccepted = true) : c.answered r = r := by
  simp only [Response.deliveryAccepted, and_eq_true, not_eq_true'] at h
  exact c.answered_of_ok r h.2

lemma answered_not_accepted (h : r.deliveryAccepted = false) :
    (c.answered r).deliveryAccepted = false := by
  by_contra hacc
  rw [not_eq_false] at hacc
  rw [answered_of_accepted hacc, h] at hacc
  exact false_ne_true hacc

lemma Kept.respond (h : Kept c s) (hr : r.deliveryAccepted = false) : Kept (c.respond r) s := by
  have hr' := answered_not_accepted (c := c) hr
  refine h.mark (m := .respond (c.answered r)) ?_ ?_ (by simp) (by simp) (by simp)
  · intro hacc
    rw [hr'] at hacc
    exact absurd hacc false_ne_true
  · rw [cableChecked_respond (.inl hr')]
    exact id

lemma Kept.stop (h : Kept c s) : Kept c.stop s := h.congr rfl rfl rfl

lemma Kept.signal (h : Kept c s) (signal : Signal) (hs : signal ≠ .startCableCheck) :
    Kept (c.signal signal) s := by
  refine h.mark (m := .signal signal) trivial ?_ rfl rfl rfl
  intro hc
  rw [cableChecked]
  · exact hc
  all_goals simp_all

attribute [local simp] Response.deliveryAccepted

lemma Kept.respondAndTerminate (h : Kept c s) (type : MessageType) {code : ResponseCode}
    (hcode : code.isFailed = true) : Kept (c.respondAndTerminate type code) s := by
  have hr := h.respond (r := { type, code }) (by simp [hcode])
  have hlog := c.respondAndTerminate_log type code
  split_ifs at hlog
  · exact h.congr (by simp) (by simp) hlog
  · exact hr.congr (by simp) (by simp) (by rw [hlog, respond_log])

variable {req : PowerDeliveryRequest}

lemma respondPowerDelivery_kept {isDc : Bool} {next : Context → Context × Result} (h : Kept c s)
    (hnext : KeptAfter (next (c.answerPowerDelivery isDc .ok))) :
    KeptAfter (respondPowerDelivery c s req isDc next) := by
  unfold respondPowerDelivery
  dsimp only
  split_ifs with hcode
  · exact (h.respond (by simp [hcode])).stop
  · have hok : powerDeliveryCode c req isDc = .ok := by
      unfold powerDeliveryCode at hcode ⊢
      split_ifs at hcode ⊢ <;> first | rfl | exact absurd rfl hcode
    rw [hok]
    exact hnext

attribute [local simp] answerPowerDelivery grows_nil_cons StartChecked Verified state

lemma processAcPowerDelivery_kept (h : Kept c s) (hdone : c.evse.cableCheckDone = false) :
    KeptAfter (processAcPowerDelivery c s req) := by
  unfold processAcPowerDelivery renegotiate
  split
  · have hstarted : Kept c.markPowerDeliveryStarted s :=
      (h.signal .setupFinished (by decide)).congr rfl rfl rfl
    refine respondPowerDelivery_kept hstarted ⟨?_, ?_⟩
    · simp [h.log]
    · simpa using hdone
  · split
    · exact (h.respond rfl).stop
    · refine respondPowerDelivery_kept h ⟨?_, ?_⟩
      · simp [h.log]
      · simpa using hdone
  · refine respondPowerDelivery_kept h ⟨?_, ?_⟩
    · simp [h.log]
    · simpa using hdone

lemma Kept.checked (h : Kept c s) (hs : s = .preCharge ∨ s = .dcChargeLoop)
    (hstart : c.startRefused = false) : cableChecked c.log = true := by
  rcases hs with rfl | rfl
  · by_cases hdone : c.evse.cableCheckDone
    · exact h.verified.1 hdone
    · exact absurd (h.verified.2 hdone) (by simp [hstart])
  · exact h.verified

/-- A DC start is accepted with the cable check passed; a stop or a renegotiation takes the check
back. -/
theorem processDcPowerDelivery_kept (hreq : lastRequest c.log = some (.powerDelivery req))
    (hs : s = .preCharge ∨ s = .dcChargeLoop) (h : Kept c s) :
    KeptAfter (processDcPowerDelivery c s req) := by
  unfold processDcPowerDelivery renegotiate
  split
  · next hprogress =>
    split_ifs with hrefused
    · exact ((h.respond rfl).signal _ (by decide)).stop
    · have hchecked := h.checked hs (eq_false_of_not_eq_true hrefused)
      have hstarted : Kept c.markPowerDeliveryStarted s :=
        (h.signal .setupFinished (by decide)).congr rfl rfl rfl
      refine respondPowerDelivery_kept hstarted ?_
      -- the newest request is this start, and the check was passed before it
      have hends : (lastRequest c.markPowerDeliveryStarted.log).any Body.endsDelivery = false := by
        simp [lastRequest, hreq, Body.endsDelivery, hprogress]
      refine ⟨?_, ?_⟩
      · simp only [answerPowerDelivery, respond_log]
        exact hstarted.log.cons fun _ _ _ => hchecked
      · simp only [state, Verified, answerPowerDelivery, respond_log]
        rw [cableChecked_respond (.inr hends)]
        exact hchecked
  · next hprogress =>
    split
    · exact (h.respond rfl).stop
    · refine respondPowerDelivery_kept h ⟨?_, by simp⟩
      have hstarts : (lastRequest c.log).any Body.startsDelivery = false := by
        simp [hreq, Body.startsDelivery, hprogress]
      simp [h.log, hstarts]
  · next hprogress =>
    refine respondPowerDelivery_kept (h.signal _ (by decide))
      ⟨?_, by simp⟩
    have hstarts : (lastRequest c.log).any Body.startsDelivery = false := by
      simp [hreq, Body.startsDelivery, hprogress]
    simp [h.log, lastRequest, hstarts]

variable {pending : Bool}

lemma answerCableCheck_kept (h : Kept c (.cableCheck true pending)) :
    KeptAfter (processCableCheck c true pending) := by
  have hfailed := h.respond (r := { type := .cableCheck, code := .failed }) rfl
  have hongoing := h.respond
    (r := { type := .cableCheck, code := .ok, evseProcessing := .ongoing }) rfl
  unfold processCableCheck
  simp only [if_true]
  split_ifs with hfault hdone
  · exact hfailed.congr rfl rfl rfl
  · have hstart : Kept c .preChargeStart :=
      ⟨h.log, fun _ => (h.verified.1 hdone).2, fun hn => absurd hdone hn⟩
    exact (hstart.respond (r := { type := .cableCheck, code := .ok }) rfl).congr rfl rfl rfl
  · exact hongoing

variable {initiated : Bool}

lemma processCableCheck_kept {pending' : Bool} (h : Kept c (.cableCheck initiated pending')) :
    KeptAfter (processCableCheck c initiated pending) := by
  cases initiated with
  | true => exact answerCableCheck_kept ⟨h.log, h.verified⟩
  | false =>
    -- the check is started now, so no result of it can be known
    have hdone : c.evse.cableCheckDone = false := by
      by_contra hd
      exact absurd (h.verified.1 (eq_true_of_not_eq_false hd)).1 false_ne_true
    have hstarted : Kept ((c.signal .startCableCheck).startTimeout .ongoing timeoutCableCheckMs)
        (.cableCheck true pending) :=
      ⟨h.log.cons trivial, fun hd => absurd (hdone.symm.trans hd) false_ne_true,
        fun _ => List.mem_cons_self⟩
    exact answerCableCheck_kept hstarted

lemma onCableCheckControl_kept (h : Kept c (.cableCheck initiated pending))
    (hevent : event = .cableCheckFinished true → initiated = true ∧ cableChecked c.log = true) :
    KeptAfter (onCableCheckControl c initiated pending event) := by
  unfold onCableCheckControl
  extract_lets _ c'
  have h' : Kept c' (.cableCheck initiated pending) := by
    unfold c'
    split
    · exact ⟨h.log, fun _ => hevent rfl, h.verified.2⟩
    · exact h.congr rfl rfl rfl
    · exact h
  split_ifs
  · have hstopped : Kept (c'.stopTimeout .cpState) (.cableCheck initiated pending) :=
      h'.congr rfl rfl rfl
    exact processCableCheck_kept hstopped
  · exact h'

lemma processSessionStop_kept (h : Kept c s) {chargingSession : ChargingSession} :
    KeptAfter (processSessionStop c s chargingSession) := by
  have hr := h.respond (r := { type := .sessionStop, code := .ok }) rfl
  cases chargingSession with
  | pause => exact hr.congr rfl rfl rfl
  | terminate => exact hr.congr rfl rfl rfl

/-- Charge parameters lead to a cable check that is still to be done, or past it to a pre-charge
that refuses to start. -/
theorem processChargeParameterDiscovery_kept (h : Kept c s)
    (hdone : c.evse.cableCheckDone = false) {req : ChargeParameterDiscoveryRequest} :
    KeptAfter (processChargeParameterDiscovery c s req) := by
  have hr := h.respond
    (r := { type := .chargeParameterDiscovery, code := chargeParameterCode c.config req }) rfl
  have hdone' : ¬ c.evse.cableCheckDone := eq_false_iff.1 hdone
  unfold processChargeParameterDiscovery
  dsimp only
  split_ifs with hfailed hdc hmode
  · exact hr.stop
  · refine ⟨hr.log, fun hd => ?_, fun _ => ?_⟩
    · exact absurd (by simpa using hd) hdone'
    · simp only [startRefused, hmode, decide_true, Bool.true_or]
  · refine ⟨hr.log, fun hd => ?_, fun hi => ?_⟩
    · exact absurd (by simpa using hd) hdone'
    · exact absurd hi Bool.false_ne_true
  · exact ⟨hr.log, by simpa using hdone⟩

variable {crypto : Crypto} {exiPayload : List UInt8}

lemma processAuthorization_kept {a : AuthorizationState} (h : Kept c (.authorization a))
    {genChallenge : Option ℕ} :
    KeptAfter (processAuthorization crypto c a genChallenge exiPayload) := by
  unfold processAuthorization
  split
  · exact (h.respond rfl).stop
  · next c' a' hfirst =>
    have h' : Kept c' (.authorization a') := by
      unfold firstAuthorizationRequest requestAuthorization at hfirst
      split_ifs at hfirst <;> cases hfirst
      · exact ⟨by simpa using h.log, by simpa using h.verified⟩
      · exact ⟨by simpa using h.log,
          by simpa using h.verified⟩
      · exact ⟨by simpa using h.log,
          by simpa using h.verified⟩
      · exact h
    have hr : Kept (c'.respond (authorizationResponse c' a')) (.authorization a') := by
      refine h'.respond ?_
      unfold authorizationResponse
      split_ifs <;> rfl
    dsimp only
    split_ifs
    · exact hr.stop
    · exact ⟨hr.log, hr.verified⟩
    · exact hr

lemma onMeteringReceipt_kept {dc : Bool} (h : Kept c (.meteringReceipt dc))
    {sessionId : SessionId} : KeptAfter (onMeteringReceipt crypto c dc sessionId exiPayload) := by
  have hr : Kept (handleMeteringReceipt crypto c dc sessionId exiPayload)
      (.meteringReceipt dc) := by
    unfold handleMeteringReceipt
    split_ifs
    · exact (h.respond rfl).stop
    · exact (h.respond rfl).stop
    · exact Kept.respond (h.congr rfl rfl rfl) rfl
  unfold onMeteringReceipt
  dsimp only
  split_ifs with _ hdc
  · exact hr
  · subst hdc
    exact ⟨hr.log, hr.verified⟩
  · rw [not_eq_true] at hdc
    subst hdc
    exact ⟨hr.log, hr.verified⟩

variable {fresh : Fresh}

lemma onRequest_kept {req : Request} (hreq : lastRequest c.log = some req.body) (h : Kept c s) :
    KeptAfter (s.onRequest crypto c fresh req) := by
  have hv := h.verified
  unfold State.onRequest
  split
  case h_9 a _ _ => exact processAuthorization_kept h
  case h_10 => exact processChargeParameterDiscovery_kept h hv
  case h_11 savedStartReq r _ =>
    unfold onAcPowerDeliveryRequest
    split_ifs
    · exact ⟨by simpa using h.log, hv⟩
    · exact processAcPowerDelivery_kept h hv
  case h_12 => exact onMeteringReceipt_kept h
  case h_13 => exact processSessionStop_kept h
  case h_14 initiated pending _ =>
    unfold onCableCheckRequest
    split_ifs
    · exact processCableCheck_kept h
    · exact ⟨h.log, hv⟩
  case h_15 =>
    exact Kept.respond ((⟨h.log, hv⟩ : Kept c .preCharge).signal _ (by decide)) rfl
  case h_16 => exact h.respond rfl
  case h_17 hbody =>
    exact processDcPowerDelivery_kept (hreq.trans (congrArg some hbody)) (.inl rfl) h
  case h_18 =>
    have hr : Kept (processCurrentDemand c).1 .dcChargeLoop := by
      refine Kept.respond ?_ rfl
      split_ifs
      · exact h
      · exact (h.signal .chargeLoopStarted (by decide)).congr rfl rfl rfl
    refine ⟨hr.log, ?_⟩
    have hstate : (processCurrentDemand c).2.state = .meteringReceipt true ∨
        (processCurrentDemand c).2.state = .dcChargeLoop := by
      unfold processCurrentDemand
      dsimp only
      split_ifs <;> simp
    rcases hstate with hstate | hstate <;> (rw [hstate]; exact hr.verified)
  case h_19 hbody =>
    exact processDcPowerDelivery_kept (hreq.trans (congrArg some hbody)) (.inr rfl) h
  case h_21 => exact processChargeParameterDiscovery_kept h hv
  case h_22 =>
    unfold acceptSessionStop
    split_ifs
    · exact ⟨h.log, hv⟩
    · exact processSessionStop_kept h
  case h_24 => exact processSessionStop_kept h
  case h_27 r _ => exact processAcPowerDelivery_kept h hv
  case h_28 => exact h.respondAndTerminate _ rfl
  case h_2 | h_23 =>
    exact Kept.respond ⟨h.log, hv⟩ rfl
  case h_6 | h_7 =>
    unfold forwardToBackend
    split_ifs
    · exact h.respondAndTerminate _ rfl
    · exact h.stop
    · exact ⟨h.log.cons trivial, hv⟩
  -- the other requests are answered in states that no cable check counts in
  all_goals
    simp only [onSessionSetup, processServiceDetail, processPaymentSelection,
      processPaymentDetails, acceptWeldingDetection, answerWeldingDetection,
      answerChargingStatus]
    split_ifs <;>
      exact ⟨by simpa using h.log,
        by simpa using hv⟩

lemma onControlEvent_kept (h : Kept c s)
    (hevent : event = .cableCheckFinished true → ∀ initiated pending,
      s = .cableCheck initiated pending → initiated = true ∧ cableChecked c.log = true) :
    KeptAfter (s.onControlEvent c event) := by
  have hv := h.verified
  unfold State.onControlEvent
  split
  · next accepted raw =>
    have hr : Kept (c.respondRaw raw) (.identification false) := by
      refine ⟨?_, by simpa using hv⟩
      unfold respondRaw
      split
      · exact h.log
      · refine h.log.cons fun hacc => ?_
        rcases h : raw.update with _ | _ | _ <;> simp [h] at hacc
    unfold onCertificateResponse
    split_ifs
    · exact h.stop
    · exact ⟨hr.log, hr.verified⟩
    · exact ⟨hr.log, hr.verified⟩
  · exact ⟨h.log, hv⟩
  · next savedStartReq closed =>
    unfold onClosedContactor
    split
    · exact ⟨h.log, hv⟩
    · split
      · refine respondPowerDelivery_kept ⟨h.log, hv⟩ ⟨?_, ?_⟩
        · simp [h.log]
        · simpa using hv
      · exact ⟨h.log, hv⟩
  · exact onCableCheckControl_kept h fun he => hevent he _ _ rfl
  · next weld stop =>
    unfold onPostChargeControl
    split
    · split
      · exact ⟨by simpa [answerWeldingDetection] using h.log,
          by simpa [answerWeldingDetection] using hv⟩
      · split
        · have hself : Kept (c.stopTimeout .cpState) (.postCharge weld none) := ⟨h.log, hv⟩
          exact processSessionStop_kept hself
        · exact h
    · exact h
  · exact h

variable {type : TimeoutType}

lemma onTimeout_kept (h : Kept c s) : KeptAfter (s.onTimeout c type) := by
  have hv := h.verified
  unfold State.onTimeout
  split
  · exact ⟨h.log, hv⟩
  · exact (h.respond rfl).stop
  · exact h.stop
  · next initiated pending =>
    unfold onCableCheckCpTimeout
    split_ifs
    · have hself : Kept c (.cableCheck initiated false) := ⟨h.log, hv⟩
      exact (hself.respond rfl).stop
    · exact h
  · next weld stop =>
    unfold onPostChargeCpTimeout
    split_ifs
    · have hself : Kept c (.postCharge false stop) := ⟨h.log, hv⟩
      exact (hself.respond rfl).stop
    · have hself : Kept c (.postCharge weld none) := ⟨h.log, hv⟩
      exact (hself.respond rfl).stop
    · exact h
  · exact h

def State.beforeCableCheck : State → Bool
  | .cableCheck initiated _ => !initiated
  | _ => false

def State.preCharging : State → Bool
  | .preChargeStart | .preCharge => true
  | _ => false

namespace Engine

/-- The state of the session knows of the cable check. -/
abbrev IsKept (e : Engine) : Prop := Kept e.ctx e.state

variable {e : Engine}

lemma settle_kept {r : Context × Result} (h : KeptAfter r) : (e.settle r).IsKept := by
  obtain ⟨c', s | s⟩ := r
  · exact h
  · exact h.congr (by simp [settle]) (by simp [settle]) (by simp [settle])

lemma onPacket_kept (h : e.IsKept) {req : Request} : (e.onPacket crypto req fresh).IsKept := by
  have hself : Kept { e.ctx with log := .request req :: e.ctx.log } e.state :=
    h.mark (m := .request req) trivial id rfl rfl rfl
  unfold onPacket
  dsimp only
  split_ifs
  · exact hself.respondAndTerminate _ rfl
  · exact settle_kept (onRequest_kept rfl hself)

/-- A passed cable check is not reported before it was started, and a session that skipped it is
not told during the pre-charge that there is energy again. -/
def checksInOrder (e : Engine) : Input → Bool
  | .control (.cableCheckFinished true) => !e.state.beforeCableCheck
  | .control (.noEnergyPause mode) =>
    !e.state.preCharging || e.ctx.evse.cableCheckDone ||
      mode = .beforeCableCheck || mode = .afterCableCheckPreCharge
  | _ => true

lemma noEnergyPause_kept {mode : NoEnergyPauseMode} (h : Kept c s)
    (hmode : (!s.preCharging || c.evse.cableCheckDone ||
      mode = .beforeCableCheck || mode = .afterCableCheckPreCharge) = true) :
    Kept { c with config := { c.config with noEnergyPause := mode } } s := by
  refine ⟨h.log, ?_⟩
  have hv := h.verified
  cases s
  case preChargeStart | preCharge =>
    refine ⟨hv.1, fun hdone => ?_⟩
    dsimp only at hdone
    simpa [State.preCharging, hdone, startRefused] using hmode
  case meteringReceipt dc => cases dc <;> exact hv
  all_goals exact hv

lemma onControlEvent_ctx_kept (h : e.IsKept) (hC : checksInOrder e (.control event) = true) :
    (e.onControlEvent event).IsKept := by
  have hself : Kept { e.ctx with log := .event event :: e.ctx.log } e.state :=
    h.mark (m := .event event) trivial (fun hc => cableChecked_event hc) rfl rfl rfl
  unfold onControlEvent
  dsimp only
  split
  · unfold onStopCharging
    split_ifs <;> exact hself.congr rfl rfl rfl
  · exact hself
  · exact hself
  · exact hself
  · exact hself
  · exact hself.congr rfl rfl rfl
  · refine hself.congr rfl ?_ rfl
    unfold applyAcLimits
    split_ifs <;> rfl
  · refine hself.congr rfl ?_ rfl
    unfold applyPhysicalValues
    split
    · split_ifs <;> rfl
    · rfl
  · exact noEnergyPause_kept hself hC
  · exact hself.congr rfl rfl rfl
  · unfold onEvseError
    dsimp only
    split_ifs <;> exact hself.congr rfl rfl rfl
  · unfold onCpStateChanged
    split_ifs <;> exact settle_kept (onControlEvent_kept (hself.congr rfl rfl rfl) (by simp))
  · refine settle_kept (onControlEvent_kept hself ?_)
    rintro rfl initiated pending hs
    have hinitiated : initiated = true := by
      simpa [checksInOrder, State.beforeCableCheck, hs] using hC
    have hv := h.verified
    rw [hs] at hv
    exact ⟨hinitiated, List.contains_iff_mem.2 (hv.2 hinitiated)⟩

lemma onTimeout_ctx_kept (h : e.IsKept) : (e.onTimeout type).IsKept := by
  have hself : Kept { e.ctx with log := .timeout type :: e.ctx.log } e.state :=
    h.mark (m := .timeout type) trivial id rfl rfl rfl
  unfold onTimeout
  dsimp only
  split
  · exact hself.stop
  · split_ifs <;> exact hself.congr rfl rfl rfl
  · split_ifs <;> exact hself.congr rfl rfl rfl
  · exact settle_kept (onTimeout_kept hself)

lemma step_kept (e : Engine) (i : Input) (h : e.IsKept) (hC : checksInOrder e i = true) :
    (e.step crypto i).IsKept := by
  cases i with
  | packet req fresh => exact onPacket_kept h
  | control => exact onControlEvent_ctx_kept h hC
  | timeout type => exact onTimeout_ctx_kept h
  | takeOutgoing | elapse => exact h.congr rfl rfl rfl

/-- In a run whose cable checks are in order, every positive answer to a DC
`PowerDeliveryReq(Start)` comes after a cable check that was started, passed, and not taken back
by an accepted stop or renegotiation. -/
theorem dc_start_after_passed_cable_check (crypto : Crypto) (config : SessionConfig)
    (pauseCtx : Option PauseContext) (now : ℕ) (inputs : List Input)
    (h : AllSteps (step crypto) (fun e i => checksInOrder e i) (init config pauseCtx now) inputs) :
    AllStates (step crypto) (fun e => Grows StartChecked [] e.ctx.log)
      (init config pauseCtx now) inputs := by
  have hinit : (init config pauseCtx now).IsKept := ⟨.refl, rfl⟩
  exact (allStates_of_allSteps step_kept hinit h).mono fun _ h => h.log

def fixedFresh : Fresh := ⟨1, Nat.one_ne_zero, 0⟩

def fixedCrypto : Crypto where
  validateContractChain _ _ _ := ⟨.ok, false⟩
  verifyAuthorizationSignature _ _ := true
  verifyMeteringReceiptSignature _ _ := true

def fixedRequest (sessionId : SessionId) (body : Body) : Input :=
  .packet ⟨sessionId, body, []⟩ fixedFresh

def dcSetup : List Input :=
  [fixedRequest 0 .sessionSetup, fixedRequest 1 .serviceDiscovery,
    fixedRequest 1 (.paymentServiceSelection .externalPayment [⟨1⟩]),
    fixedRequest 1 (.authorization none),
    .control (.authorizationResponse true .accepted false), fixedRequest 1 (.authorization none),
    fixedRequest 1 (.chargeParameterDiscovery
      ⟨.dcExtended, some ⟨⟨0, 100⟩, ⟨0, 400⟩, none⟩, none⟩)]

def checkedStart : List Input :=
  dcSetup ++ [.control (.cpStateChanged .c), fixedRequest 1 .cableCheck,
    .control (.cableCheckFinished true), fixedRequest 1 .cableCheck, fixedRequest 1 .preCharge,
    fixedRequest 1 (.powerDelivery ⟨.start, 1, none⟩)]

/-- The cable check is skipped for lack of energy, and the energy returns during the
pre-charge. -/
def skippedCableCheck : List Input :=
  dcSetup ++ [fixedRequest 1 .preCharge, .control (.noEnergyPause .none),
    fixedRequest 1 (.powerDelivery ⟨.start, 1, none⟩)]

def dcConfig (mode : NoEnergyPauseMode) : SessionConfig :=
  { supportedEnergyTransferModes := [.dcExtended], noEnergyPause := mode }

theorem checkedStart_in_order :
    AllSteps (step fixedCrypto) (fun e i => checksInOrder e i) (init (dcConfig .none) none 0)
        checkedStart ∧
      (run (step fixedCrypto) (init (dcConfig .none) none 0) checkedStart).ctx.response =
        some { type := .powerDelivery, code := .ok, dcEvseStatus := true } ∧
      AllStates (step fixedCrypto) (fun e => Grows StartChecked [] e.ctx.log)
        (init (dcConfig .none) none 0) checkedStart := by
  have h : AllSteps (step fixedCrypto) (fun e i => checksInOrder e i)
      (init (dcConfig .none) none 0) checkedStart := by
    decide +kernel
  exact ⟨h, by decide +kernel, dc_start_after_passed_cable_check _ _ _ _ _ h⟩

/-- Without a cable check the start is answered positively. -/
theorem dc_start_without_cable_check :
    ¬ AllStates (step fixedCrypto) (fun e => Grows StartChecked [] e.ctx.log)
      (init (dcConfig .beforeCableCheck) none 0) skippedCableCheck := by
  decide +kernel

end Engine

end Everest.Iso15118.D2
