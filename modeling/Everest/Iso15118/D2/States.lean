import Everest.Iso15118.D2.Context

namespace Everest.Iso15118.D2

structure AuthorizationState where
  authorized : Bool := false
  certificateRevoked : Bool := false
  authResponseReceived : Bool := false
  timeoutOngoingReached : Bool := false
  firstReqMsg : Bool := true
  genChallenge : Option ℕ
  deriving DecidableEq, Repr

inductive State where
  | sessionSetup
  | serviceDiscovery
  | serviceSelection
  | identification (requestForwarded : Bool)
  | paymentDetails
  | authorization (a : AuthorizationState)
  | chargeParameterDiscovery
  | acPowerDelivery (savedStartReq : Option PowerDeliveryRequest)
  | meteringReceipt (dc : Bool)
  | sessionStop
  | cableCheck (cableCheckInitiated pendingReq : Bool)
  | preChargeStart
  | preCharge
  | dcChargeLoop
  | postCharge (pendingWeld : Bool) (pendingStop : Option ChargingSession)
  | weldingDetection
  | acChargeLoopStart
  | acChargeLoop
  deriving DecidableEq, Repr

inductive Result where
  | stay (s : State)
  | enter (s : State)
  deriving DecidableEq, Repr

def Result.state : Result → State
  | .stay s | .enter s => s

structure Fresh where
  sessionId : SessionId
  sessionId_ne_zero : sessionId ≠ 0
  genChallenge : ℕ

variable (crypto : Crypto) (c : Context) (self : State) (req : PowerDeliveryRequest)

def Context.resumes (receivedId : SessionId) : Bool :=
  match c.pauseCtx with
  | none => false
  | some p => receivedId != 0 && receivedId == p.oldSessionId

def onSessionSetup (fresh : Fresh) (receivedId : SessionId) : Context × Result :=
  if c.resumes receivedId then
    let c := { c with
      sessionId := some receivedId, session := { c.session with sessionResumed := true } }
    (c.respond { type := .sessionSetup, code := .okOldSessionJoined }, .enter .serviceDiscovery)
  else
    let c := { c with sessionId := some fresh.sessionId }
    (c.respond { type := .sessionSetup, code := .okNewSessionEstablished },
      .enter .serviceDiscovery)

def Context.allowContract : Bool := c.config.pncEnabled && c.config.tlsActive

def Context.allowEim : Bool := c.config.eimEnabled || !c.allowContract

def Context.certServiceOffered : Bool :=
  c.allowContract && c.config.certInstallService

def certificateServiceId : ℕ := 2

def processServiceDetail (serviceId : ℕ) : Context × Result :=
  if serviceId = c.config.chargeServiceId ∨
      (c.certServiceOffered ∧ serviceId = certificateServiceId) ∨
      serviceId ∈ c.config.offeredVasServices then
    (c.respond { type := .serviceDetail, code := .ok }, .stay .serviceSelection)
  else
    ((c.respond { type := .serviceDetail, code := .failedServiceIdInvalid }).stop,
      .stay .serviceSelection)

/-- A resumed session has to select the payment option of the paused one, unless that was a
contract and the connection is not encrypted. -/
def Context.resumedPaymentOption : Option PaymentOption :=
  match c.pauseCtx with
  | none => none
  | some p =>
    if c.session.sessionResumed && (p.selectedPaymentOption != .contract || c.config.tlsActive)
    then some p.selectedPaymentOption else none

def Context.selectionAllowed (option : PaymentOption) : Bool :=
  match c.resumedPaymentOption with
  | some resumed => option == resumed
  | none => (option == .externalPayment && c.allowEim) || (option == .contract && c.allowContract)

def paymentSelectionCode (option : PaymentOption) (services : List SelectedService) :
    ResponseCode :=
  if !c.selectionAllowed option then .failedPaymentSelectionInvalid
  else if !services.any (·.serviceId == c.config.chargeServiceId) then
    .failedNoChargeServiceSelected
  else if services.all fun s => s.serviceId == c.config.chargeServiceId ||
      (c.certServiceOffered && s.serviceId == certificateServiceId) ||
      c.config.offeredVasServices.contains s.serviceId then .ok
  else .failedServiceSelectionInvalid

def processPaymentSelection (option : PaymentOption) (services : List SelectedService) :
    Context × Result :=
  let code := paymentSelectionCode c option services
  let c := c.respond { type := .paymentServiceSelection, code }
  if code.isFailed then (c.stop, .stay .serviceSelection)
  else if option = .contract then
    ({ c with session := { c.session with contractSelected := true } },
      .enter (.identification false))
  else (c, .enter (.authorization { genChallenge := none }))

/-- A contract chain without a local trust anchor may be left to the central system. -/
def Context.contractAccepted (v : ContractValidation) : Bool :=
  v.responseCode == .ok || (v.forwardable && c.config.centralContractValidationAllowed)

def processPaymentDetails (fresh : Fresh) (self : State) (contractCertificate : Der)
    (subCertificates : List Der) (emaid : String) : Context × Result :=
  let validation := crypto.validateContractChain contractCertificate subCertificates emaid
  if c.contractAccepted validation then
    let c := { c with session := { c.session with contractLeafDer := contractCertificate } }
    (c.respond { type := .paymentDetails, code := .ok },
      .enter (.authorization { genChallenge := some fresh.genChallenge }))
  else
    ((c.respond { type := .paymentDetails, code := validation.responseCode }).stop, .stay self)

/-- The request goes to the backend, and is not answered before the backend is. -/
def forwardToBackend (req : Request) : Context × Result :=
  if !c.config.certInstallService then
    (c.respondSequenceError req.body.type, .stay (.identification false))
  else if req.exiPayload = [] then (c.stop, .stay (.identification false))
  else ({ c with log := .certificateRequest :: c.log }, .stay (.identification true))

def onCertificateResponse (requestForwarded accepted : Bool) (raw : RawResponse) :
    Context × Result :=
  if !accepted || raw.size == 0 then (c.stop, .stay (.identification requestForwarded))
  else
    let c := c.respondRaw raw
    if raw.update.isSome && raw.failed then
      ({ c.stop with sessionStopResPending := some .failedTermination },
        .stay (.identification requestForwarded))
    else (c, .enter .paymentDetails)

/-- Checks the contract and asks for the authorization, unless a paused session is resumed. -/
def requestAuthorization (a : AuthorizationState) (genChallenge : Option ℕ)
    (exiPayload : List UInt8) : Except ResponseCode (Context × AuthorizationState) :=
  if c.session.contractSelected then
    if genChallenge = none ∨ genChallenge ≠ a.genChallenge then .error .failedChallengeInvalid
    else if !crypto.verifyAuthorizationSignature exiPayload c.session.contractLeafDer then
      .error .failedSignatureError
    else if c.session.sessionResumed then .ok (c, { a with authorized := true })
    else .ok ({ c with log := .requireAuthPnc :: c.log }, a)
  else .ok (c.signal .requireAuthEim, a)

def Context.authTimeoutMs : ℕ :=
  if c.session.contractSelected then c.config.authTimeoutPncMs else c.config.authTimeoutEimMs

/-- A timeout of 0 waits without end. -/
def Context.startAuthorizationTimeout : Context :=
  if 0 < c.authTimeoutMs then c.startTimeout .ongoing c.authTimeoutMs else c

section StartAuthorizationTimeout

variable (c : Context)

@[simp]
lemma Context.startAuthorizationTimeout_evse : c.startAuthorizationTimeout.evse = c.evse := by
  unfold startAuthorizationTimeout
  split_ifs <;> rfl

@[simp]
lemma Context.startAuthorizationTimeout_log : c.startAuthorizationTimeout.log = c.log := by
  unfold startAuthorizationTimeout
  split_ifs <;> rfl

end StartAuthorizationTimeout

def firstAuthorizationRequest (a : AuthorizationState) (genChallenge : Option ℕ)
    (exiPayload : List UInt8) : Except ResponseCode (Context × AuthorizationState) :=
  if a.firstReqMsg then
    match requestAuthorization crypto c a genChallenge exiPayload with
    | .error code => .error code
    | .ok (c, a) => .ok (c.startAuthorizationTimeout, { a with firstReqMsg := false })
  else .ok (c, a)

def authorizationResponse (a : AuthorizationState) : Response :=
  if a.timeoutOngoingReached || (a.authResponseReceived && !a.authorized) then
    { type := .authorization,
      code := if a.authResponseReceived && !a.authorized && c.session.contractSelected &&
        a.certificateRevoked then .failedCertificateRevoked else .failed }
  else
    { type := .authorization, code := .ok,
      evseProcessing := if a.authorized then .finished
        else if c.session.contractSelected then .ongoing
        else .ongoingWaitingForCustomerInteraction }

def processAuthorization (a : AuthorizationState) (genChallenge : Option ℕ)
    (exiPayload : List UInt8) : Context × Result :=
  match firstAuthorizationRequest crypto c a genChallenge exiPayload with
  | .error code => ((c.respond { type := .authorization, code }).stop, .stay (.authorization a))
  | .ok (c, a) =>
    let res := authorizationResponse c a
    let c := c.respond res
    if res.code.isFailed then (c.stop, .stay (.authorization a))
    else if res.evseProcessing = .finished then
      (c.stopTimeout .ongoing, .enter .chargeParameterDiscovery)
    else (c, .stay (.authorization a))

def buildSaScheduleList (config : SessionConfig) (mode : EnergyTransferMode) :
    List SAScheduleTuple :=
  let acPhases : ℚ := if mode = .acSinglePhaseCore then 1 else 3
  let pmax := if isDcMode mode then config.dcCapabilityMaxPower
    else config.acCapabilityMaxCurrent * config.acNominalVoltage * acPhases
  [⟨1, [toPhysicalValue pmax]⟩]

def chargeParameterCode (config : SessionConfig) (req : ChargeParameterDiscoveryRequest) :
    ResponseCode :=
  if !config.supportedEnergyTransferModes.contains req.requestedEnergyTransferMode then
    .failedWrongEnergyTransferMode
  else if isDcMode req.requestedEnergyTransferMode then
    match req.dcEvChargeParameter with
    | none => .failedWrongChargeParameter
    | some evp =>
      if fromPhysicalValue evp.evMaximumCurrentLimit < 0 ∨
          fromPhysicalValue evp.evMaximumVoltageLimit < 0 ∨
          (∃ p ∈ evp.evMaximumPowerLimit, fromPhysicalValue p < 0) then .failedWrongChargeParameter
      else if fromPhysicalValue evp.evMaximumCurrentLimit ≤ config.dcMinCurrent ∨
          fromPhysicalValue evp.evMaximumVoltageLimit ≤ config.dcMinVoltage then
        .failedWrongChargeParameter
      else .ok
  else
    match req.acEvChargeParameter with
    | none => .failedWrongChargeParameter
    | some evp =>
      if fromPhysicalValue evp.evMaxCurrent < 0 ∨ fromPhysicalValue evp.evMinCurrent < 0 ∨
          fromPhysicalValue evp.evMaxVoltage < 0 ∨ fromPhysicalValue evp.eAmount < 0 then
        .failedWrongChargeParameter
      else .ok

def processChargeParameterDiscovery (req : ChargeParameterDiscoveryRequest) : Context × Result :=
  let code := chargeParameterCode c.config req
  let c := c.respond { type := .chargeParameterDiscovery, code }
  if code.isFailed then (c.stop, .stay self)
  else
    let c := { c with session := { c.session with
      saScheduleList := buildSaScheduleList c.config req.requestedEnergyTransferMode,
      saScheduleTupleId := 1 } }
    if isDcMode req.requestedEnergyTransferMode then
      if c.config.noEnergyPause = .beforeCableCheck then (c, .enter .preChargeStart)
      else (c, .enter (.cableCheck false false))
    else (c, .enter (.acPowerDelivery none))

def contactorPerformanceTimeMs : ℕ := 4500

def chargingProfileWithinLimits (profile : List PhysicalValue) (list : List SAScheduleTuple)
    (advertised : ℕ) : Bool :=
  match (list.find? (·.saScheduleTupleId == advertised)).or list.head? with
  | none => true
  | some tuple =>
    if tuple.pmaxSchedule = [] then true else
    let maxPmax := tuple.pmaxSchedule.foldl (fun m p => max m (fromPhysicalValue p)) 0
    profile.all fun p => fromPhysicalValue p ≤ maxPmax

def powerDeliveryCode (isDc : Bool) : ResponseCode :=
  if req.saScheduleTupleId ≠ c.session.saScheduleTupleId then .failedTariffSelectionInvalid
  else if req.chargeProgress = .start then
    if ∃ profile ∈ req.chargingProfile, ¬ chargingProfileWithinLimits profile
        c.session.saScheduleList c.session.saScheduleTupleId then .failedChargingProfileInvalid
    else if isDc && c.hasErrorStatusCode then .failedPowerDeliveryNotApplied
    else .ok
  else .ok

def Context.answerPowerDelivery (isDc : Bool) (code : ResponseCode) : Context :=
  c.respond { type := .powerDelivery, code, dcEvseStatus := isDc }

@[simps! evse session config pauseCtx sessionId log]
def Context.markPowerDeliveryStarted : Context :=
  let c := c.signal .setupFinished
  { c with session := { c.session with powerDeliveryStarted := true } }

/-- A negative answer ends the session and the state stays; otherwise `next` goes on. -/
def respondPowerDelivery (isDc : Bool) (next : Context → Context × Result) : Context × Result :=
  let code := powerDeliveryCode c req isDc
  let c := c.answerPowerDelivery isDc code
  if code.isFailed then (c.stop, .stay self) else next c

def renegotiate (isDc : Bool) : Context × Result :=
  if !c.session.powerDeliveryStarted then ((c.answerPowerDelivery isDc .failed).stop, .stay self)
  else
    respondPowerDelivery c self req isDc fun c =>
      (if isDc then
        ((c.signal .chargeLoopFinished).signal .dcRenegotiationStarted).invalidateCableCheck
      else c, .enter .chargeParameterDiscovery)

def processAcPowerDelivery : Context × Result :=
  match req.chargeProgress with
  | .start =>
    respondPowerDelivery c.markPowerDeliveryStarted self req false
      fun c => (c, .enter .acChargeLoopStart)
  | .renegotiate => renegotiate c self req false
  | .stop =>
    respondPowerDelivery c self req false fun c =>
      let c := { c with evse := { c.evse with acContactorClosed := false } }
      (c.signal .acOpenContactor, .enter .sessionStop)

/-- The EV was told that no energy is available, and must not start. -/
def Context.startRefused : Bool :=
  c.config.noEnergyPause = .beforeCableCheck || c.config.noEnergyPause = .afterCableCheckPreCharge

def processDcPowerDelivery : Context × Result :=
  match req.chargeProgress with
  | .start =>
    if c.startRefused then
      (((c.answerPowerDelivery true .failed).signal .dcOpenContactor).stop, .stay self)
    else
      respondPowerDelivery c.markPowerDeliveryStarted self req true fun c =>
        ({ c with session := { c.session with chargeLoopStarted := false } }, .enter .dcChargeLoop)
  | .renegotiate => renegotiate c self req true
  | .stop =>
    respondPowerDelivery (c.signal .chargeLoopFinished) self req true fun c =>
      let c := { c with session := { c.session with cpStateBGateArmed := true } }
      (c.invalidateCableCheck.signal .dcOpenContactor, .enter (.postCharge false none))

def onAcPowerDeliveryRequest (savedStartReq : Option PowerDeliveryRequest)
    (req : PowerDeliveryRequest) : Context × Result :=
  if req.chargeProgress = .start ∧ ¬ c.evse.acContactorClosed then
    (((c.markPowerDeliveryStarted).signal .acCloseContactor).startTimeout .contactor
      contactorPerformanceTimeMs, .stay (.acPowerDelivery (some req)))
  else processAcPowerDelivery c (.acPowerDelivery savedStartReq) req

def onClosedContactor (savedStartReq : Option PowerDeliveryRequest) (closed : Bool) :
    Context × Result :=
  let c := { c with evse := { c.evse with acContactorClosed := closed } }
  match savedStartReq with
  | none => (c, .stay (.acPowerDelivery none))
  | some req =>
    if closed then
      respondPowerDelivery (c.stopTimeout .contactor) (.acPowerDelivery none) req false
        fun c => (c, .enter .acChargeLoopStart)
    else (c, .stay (.acPowerDelivery (some req)))

def onContactorTimeout (savedStartReq : Option PowerDeliveryRequest) : Context × Result :=
  ((c.respond { type := .powerDelivery, code := .failedContactorError }).stop,
    .stay (.acPowerDelivery savedStartReq))

def timeoutCableCheckMs : ℕ := 38000

def cpStatePerformanceTimeMs : ℕ := 1500

def processCableCheck (cableCheckInitiated pendingReq : Bool) : Context × Result :=
  let c := if cableCheckInitiated then c
    else (c.signal .startCableCheck).startTimeout .ongoing timeoutCableCheckMs
  if c.evse.cableCheckFault then
    (((c.respond { type := .cableCheck, code := .failed }).stopTimeout .ongoing).stop,
      .stay (.cableCheck true pendingReq))
  else if c.evse.cableCheckDone then
    ((c.respond { type := .cableCheck, code := .ok }).stopTimeout .ongoing, .enter .preChargeStart)
  else
    (c.respond { type := .cableCheck, code := .ok, evseProcessing := .ongoing },
      .stay (.cableCheck true pendingReq))

def Context.cpStateCOrD : Bool :=
  c.evse.currentCpState = .c || c.evse.currentCpState = .d

def onCableCheckRequest (cableCheckInitiated pendingReq : Bool) : Context × Result :=
  if c.cpStateCOrD then processCableCheck c cableCheckInitiated pendingReq
  else
    (c.armCpStateTimeout cpStatePerformanceTimeMs, .stay (.cableCheck cableCheckInitiated true))

/-- A parked request is processed as soon as the control pilot is in state C or D. -/
def onCableCheckControl (cableCheckInitiated pendingReq : Bool) (event : ControlEvent) :
    Context × Result :=
  let c := match event with
    | .cableCheckFinished true => { c with evse := { c.evse with cableCheckDone := true } }
    | .cableCheckFinished false => { c with evse := { c.evse with cableCheckFault := true } }
    | _ => c
  if pendingReq && c.cpStateCOrD then
    processCableCheck (c.stopTimeout .cpState) cableCheckInitiated false
  else (c, .stay (.cableCheck cableCheckInitiated pendingReq))

def onCableCheckCpTimeout (cableCheckInitiated pendingReq : Bool) : Context × Result :=
  if pendingReq then
    ((c.respond { type := .cableCheck, code := .failed }).stop,
      .stay (.cableCheck cableCheckInitiated false))
  else (c, .stay (.cableCheck cableCheckInitiated pendingReq))

def Context.answerPreCharge : Context :=
  c.respond { type := .preCharge, code := .ok }

def Context.requestReceipt : Bool :=
  c.config.receiptRequired && c.session.contractSelected && !c.session.receiptReceived &&
    c.evse.latestMeterInfo

def processCurrentDemand : Context × Result :=
  let c := if c.session.chargeLoopStarted then c
    else
      let c := c.signal .chargeLoopStarted
      { c with session := { c.session with chargeLoopStarted := true } }
  let requestReceipt := c.requestReceipt
  (c.respond { type := .currentDemand, code := .ok },
    if requestReceipt then .enter (.meteringReceipt true) else .stay .dcChargeLoop)

/-- A charging status request is answered in `self` or leads to the receipt. -/
def answerChargingStatus (next : Result) : Context × Result :=
  let requestReceipt := c.requestReceipt
  (c.respond { type := .chargingStatus, code := .ok },
    if requestReceipt then .enter (.meteringReceipt false) else next)

def handleMeteringReceipt (dc : Bool) (sessionId : SessionId) (exiPayload : List UInt8) : Context :=
  if sessionId ≠ c.getSessionId then
    (c.respond { type := .meteringReceipt, code := .failedUnknownSession, dcEvseStatus := dc }).stop
  else if !crypto.verifyMeteringReceiptSignature exiPayload c.session.contractLeafDer then
    (c.respond
      { type := .meteringReceipt, code := .failedMeteringSignatureNotValid,
        dcEvseStatus := dc }).stop
  else
    let c := { c with session := { c.session with receiptReceived := true } }
    c.respond { type := .meteringReceipt, code := .ok, dcEvseStatus := dc }

def onMeteringReceipt (dc : Bool) (sessionId : SessionId) (exiPayload : List UInt8) :
    Context × Result :=
  let c := handleMeteringReceipt crypto c dc sessionId exiPayload
  (c, if c.sessionStopped then .stay (.meteringReceipt dc)
    else .enter (if dc then .dcChargeLoop else .acChargeLoop))

def processSessionStop (chargingSession : ChargingSession) : Context × Result :=
  let c := c.respond { type := .sessionStop, code := .ok }
  match chargingSession with
  | .pause =>
    ({ c with
      sessionPaused := true,
      pauseCtx := some ⟨c.getSessionId,
        if c.session.contractSelected then .contract else .externalPayment⟩,
      sessionStopResPending := some .pause }, .stay self)
  | .terminate =>
    ({ c with sessionStopped := true, pauseCtx := none, sessionStopResPending := some .terminate },
      .stay self)

def Context.answerWeldingDetection : Context :=
  c.respond { type := .weldingDetection, code := .ok }

def acceptWeldingDetection (pendingStop : Option ChargingSession) : Context × Result :=
  if c.cpStateBOutstanding then
    (c.armCpStateTimeout cpStatePerformanceTimeMs, .stay (.postCharge true pendingStop))
  else (c.answerWeldingDetection, .enter .weldingDetection)

def acceptSessionStop (pendingWeld : Bool) (pendingStop : Option ChargingSession)
    (chargingSession : ChargingSession) : Context × Result :=
  if chargingSession ≠ .pause ∧ c.cpStateBOutstanding then
    (c.armCpStateTimeout cpStatePerformanceTimeMs,
      .stay (.postCharge pendingWeld (some chargingSession)))
  else processSessionStop c (.postCharge pendingWeld pendingStop) chargingSession

/-- A parked request is processed as soon as the control pilot is in state B. -/
def onPostChargeControl (pendingWeld : Bool) (pendingStop : Option ChargingSession) :
    Context × Result :=
  if c.evse.currentCpState = .b then
    if pendingWeld then
      ((c.stopTimeout .cpState).answerWeldingDetection, .enter .weldingDetection)
    else
      match pendingStop with
      | some chargingSession =>
        processSessionStop (c.stopTimeout .cpState) (.postCharge pendingWeld none) chargingSession
      | none => (c, .stay (.postCharge pendingWeld pendingStop))
  else (c, .stay (.postCharge pendingWeld pendingStop))

def onPostChargeCpTimeout (pendingWeld : Bool) (pendingStop : Option ChargingSession) :
    Context × Result :=
  if pendingWeld then
    ((c.respond { type := .weldingDetection, code := .failed }).stop,
      .stay (.postCharge false pendingStop))
  else if pendingStop.isSome then
    ((c.respond { type := .sessionStop, code := .failed }).stop,
      .stay (.postCharge pendingWeld none))
  else (c, .stay (.postCharge pendingWeld pendingStop))

/-- Each state has its requests in sequence; any other one is a sequence error. -/
def State.onRequest (fresh : Fresh) (s : State) (req : Request) : Context × Result :=
  match s, req.body with
  | .sessionSetup, .sessionSetup => onSessionSetup c fresh req.sessionId
  | .serviceDiscovery, .serviceDiscovery =>
    (c.respond { type := .serviceDiscovery, code := .ok }, .enter .serviceSelection)
  | .serviceSelection, .serviceDetail serviceId => processServiceDetail c serviceId
  | .serviceSelection, .paymentServiceSelection option services =>
    processPaymentSelection c option services
  | .identification false, .paymentDetails cert sub emaid =>
    processPaymentDetails crypto c fresh (.identification false) cert sub emaid
  | .identification false, .certificateInstallation => forwardToBackend c req
  | .identification false, .certificateUpdate => forwardToBackend c req
  | .paymentDetails, .paymentDetails cert sub emaid =>
    processPaymentDetails crypto c fresh .paymentDetails cert sub emaid
  | .authorization a, .authorization genChallenge =>
    processAuthorization crypto c a genChallenge req.exiPayload
  | .chargeParameterDiscovery, .chargeParameterDiscovery r =>
    processChargeParameterDiscovery c .chargeParameterDiscovery r
  | .acPowerDelivery savedStartReq, .powerDelivery r => onAcPowerDeliveryRequest c savedStartReq r
  | .meteringReceipt dc, .meteringReceipt sessionId =>
    onMeteringReceipt crypto c dc sessionId req.exiPayload
  | .sessionStop, .sessionStop chargingSession => processSessionStop c .sessionStop chargingSession
  | .cableCheck cableCheckInitiated pendingReq, .cableCheck =>
    onCableCheckRequest c cableCheckInitiated pendingReq
  | .preChargeStart, .preCharge =>
    ((c.signal .preChargeStarted).answerPreCharge, .enter .preCharge)
  | .preCharge, .preCharge => (c.answerPreCharge, .stay .preCharge)
  | .preCharge, .powerDelivery r => processDcPowerDelivery c .preCharge r
  | .dcChargeLoop, .currentDemand => processCurrentDemand c
  | .dcChargeLoop, .powerDelivery r => processDcPowerDelivery c .dcChargeLoop r
  | .postCharge _ pendingStop, .weldingDetection => acceptWeldingDetection c pendingStop
  | .postCharge pendingWeld pendingStop, .chargeParameterDiscovery r =>
    processChargeParameterDiscovery c (.postCharge pendingWeld pendingStop) r
  | .postCharge pendingWeld pendingStop, .sessionStop chargingSession =>
    acceptSessionStop c pendingWeld pendingStop chargingSession
  | .weldingDetection, .weldingDetection => (c.answerWeldingDetection, .stay .weldingDetection)
  | .weldingDetection, .sessionStop chargingSession =>
    processSessionStop c .weldingDetection chargingSession
  | .acChargeLoopStart, .chargingStatus => answerChargingStatus c (.enter .acChargeLoop)
  | .acChargeLoop, .chargingStatus => answerChargingStatus c (.stay .acChargeLoop)
  | .acChargeLoop, .powerDelivery r => processAcPowerDelivery c .acChargeLoop r
  | s, body => (c.respondSequenceError body.type, .stay s)

def State.onControlEvent (s : State) (event : ControlEvent) : Context × Result :=
  match s, event with
  | .identification requestForwarded, .certificateResponse accepted raw =>
    onCertificateResponse c requestForwarded accepted raw
  | .authorization a, .authorizationResponse authorized status _ =>
    (c, .stay (.authorization { a with
      authorized, certificateRevoked := status = .certificateRevoked,
      authResponseReceived := true }))
  | .acPowerDelivery savedStartReq, .closedContactor closed =>
    onClosedContactor c savedStartReq closed
  | .cableCheck cableCheckInitiated pendingReq, event =>
    onCableCheckControl c cableCheckInitiated pendingReq event
  | .postCharge pendingWeld pendingStop, _ => onPostChargeControl c pendingWeld pendingStop
  | s, _ => (c, .stay s)

def State.onTimeout (s : State) (type : TimeoutType) : Context × Result :=
  match s, type with
  | .authorization a, .ongoing =>
    (c, .stay (.authorization { a with timeoutOngoingReached := true }))
  | .acPowerDelivery savedStartReq, .contactor => onContactorTimeout c savedStartReq
  | .cableCheck cableCheckInitiated pendingReq, .ongoing =>
    (c.stop, .stay (.cableCheck cableCheckInitiated pendingReq))
  | .cableCheck cableCheckInitiated pendingReq, .cpState =>
    onCableCheckCpTimeout c cableCheckInitiated pendingReq
  | .postCharge pendingWeld pendingStop, .cpState => onPostChargeCpTimeout c pendingWeld pendingStop
  | s, _ => (c, .stay s)

end Everest.Iso15118.D2
