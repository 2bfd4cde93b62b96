import Everest.Iso15118.D2.Messages

namespace Everest.Iso15118.D2

structure SessionConfig where
  chargeServiceId : ℕ := 1
  supportedEnergyTransferModes : List EnergyTransferMode := []
  /-- The ids of the offered value added services. -/
  offeredVasServices : List ℕ := []
  acNominalVoltage : ℚ := 230
  acCapabilityMaxCurrent : ℚ := 0
  dcCapabilityMaxPower : ℚ := 0
  dcMinCurrent : ℚ := 0
  dcMinVoltage : ℚ := 0
  pncEnabled : Bool := false
  eimEnabled : Bool := true
  centralContractValidationAllowed : Bool := false
  certInstallService : Bool := false
  tlsActive : Bool := false
  receiptRequired : Bool := false
  noEnergyPause : NoEnergyPauseMode := .none
  authTimeoutEimMs : ℕ := 300000
  authTimeoutPncMs : ℕ := 55000
  /-- The size of the buffer a response is staged in. -/
  outputSize : ℕ := 16376
  deriving DecidableEq, Repr

structure PauseContext where
  oldSessionId : SessionId
  selectedPaymentOption : PaymentOption
  deriving DecidableEq, Repr

structure EvseStatus where
  latestMeterInfo : Bool := false
  activeError : EvseErrorCode := .none
  emergencyShutdown : Bool := false
  acContactorClosed : Bool := false
  cableCheckDone : Bool := false
  cableCheckFault : Bool := false
  chargerStopRequested : Bool := false
  currentCpState : CpState := .a
  deriving DecidableEq, Repr

structure SAScheduleTuple where
  saScheduleTupleId : ℕ
  pmaxSchedule : List PhysicalValue
  deriving DecidableEq, Repr

structure SessionParameters where
  sessionResumed : Bool := false
  contractSelected : Bool := false
  contractLeafDer : Der := []
  saScheduleTupleId : ℕ := 1
  saScheduleList : List SAScheduleTuple := []
  chargeLoopStarted : Bool := false
  receiptReceived : Bool := false
  powerDeliveryStarted : Bool := false
  cpStateBGateArmed : Bool := false
  deriving DecidableEq, Repr

structure Context extends Exchange Request Response where
  config : SessionConfig
  pauseCtx : Option PauseContext
  sessionId : Option SessionId := none
  evse : EvseStatus := {}
  session : SessionParameters := {}
  chargerStopIgnored : Bool := false

/-- What the cryptographic library answers. -/
structure ContractValidation where
  responseCode : ResponseCode
  forwardable : Bool
  deriving DecidableEq, Repr

structure Crypto where
  validateContractChain : Der → List Der → String → ContractValidation
  verifyAuthorizationSignature : List UInt8 → Der → Bool
  verifyMeteringReceiptSignature : List UInt8 → Der → Bool

namespace Context

@[simps]
def signal (c : Context) (s : Signal) : Context := { c with log := .signal s :: c.log }

variable (c : Context) (type : MessageType) (res : Response)

@[simps]
def stop : Context := { c with sessionStopped := true }

@[simps]
def startTimeout (c : Context) (type : TimeoutType) (ms : ℕ) : Context :=
  { c with timeouts := c.timeouts.startTimeout type c.now ms }

@[simps]
def stopTimeout (c : Context) (type : TimeoutType) : Context :=
  { c with timeouts := c.timeouts.stopTimeout type }

@[simps]
def armCpStateTimeout (ms : ℕ) : Context :=
  { c with timeouts := (c.timeouts.resetTimeout .cpState).startTimeout .cpState c.now ms }

@[simps]
def clearCpStateTimeout : Context :=
  { c with timeouts := c.timeouts.resetTimeout .cpState }

@[simps]
def setResponse : Context :=
  { c with response := some res, log := .respond res :: c.log }

/-- Answers `FAILED` and ends the session when the EV ignored a stop or the EVSE shuts down. -/
def respond : Context :=
  if (c.chargerStopIgnored || c.evse.emergencyShutdown) && !res.code.isFailed then
    { c with
      sessionStopped := true,
      sessionStopResPending := some .failedTermination }.setResponse { res with code := .failed }
  else if res.code.isFailed then
    { c with sessionStopResPending := some .failedTermination }.setResponse res
  else
    c.setResponse res

def answered : Response :=
  if (c.chargerStopIgnored || c.evse.emergencyShutdown) && !res.code.isFailed then
    { res with code := .failed }
  else res

section Respond

variable (c : Context) (res : Response)

@[simp]
lemma respond_log : (c.respond res).log = .respond (c.answered res) :: c.log := by
  unfold respond answered
  split_ifs <;> rfl

@[simp]
lemma respond_response : (c.respond res).response = some (c.answered res) := by
  unfold respond answered
  split_ifs <;> rfl

@[simp]
lemma respond_evse : (c.respond res).evse = c.evse := by
  unfold respond
  split_ifs <;> rfl

@[simp]
lemma respond_session : (c.respond res).session = c.session := by
  unfold respond
  split_ifs <;> rfl

@[simp]
lemma respond_config : (c.respond res).config = c.config := by
  unfold respond
  split_ifs <;> rfl

@[simp]
lemma respond_pauseCtx : (c.respond res).pauseCtx = c.pauseCtx := by
  unfold respond
  split_ifs <;> rfl

@[simp]
lemma respond_sessionId : (c.respond res).sessionId = c.sessionId := by
  unfold respond
  split_ifs <;> rfl

@[simp]
lemma answered_type : (c.answered res).type = res.type := by
  unfold answered
  split_ifs <;> rfl

@[simp]
lemma answered_dcEvseStatus : (c.answered res).dcEvseStatus = res.dcEvseStatus := by
  unfold answered
  split_ifs <;> rfl

lemma answered_of_ok (h : (c.answered res).code.isFailed = false) : c.answered res = res := by
  unfold answered at h ⊢
  split_ifs at h ⊢ with hc
  · exact absurd h Bool.false_ne_true.symm
  · rfl

end Respond

/-- An answer of the backend is staged as it is, unless it is empty or does not fit. -/
def respondRaw (raw : RawResponse) : Context :=
  if raw.size = 0 ∨ c.config.outputSize < raw.size then c else
    c.setResponse
      { type := match raw.update with
          | none => .none
          | some false => .certificateInstallation
          | some true => .certificateUpdate,
        code := if raw.failed then .failed else .ok }

section RespondRaw

variable (c : Context) (raw : RawResponse)

@[simp]
lemma respondRaw_evse : (c.respondRaw raw).evse = c.evse := by
  unfold respondRaw
  split_ifs <;> rfl

end RespondRaw

def getSessionId : SessionId := c.sessionId.getD 0

/-- The EVSE reports an error that a DC status code names (`error_status_code`). -/
def hasErrorStatusCode : Bool :=
  c.evse.activeError = .utilityInterruptEvent || c.evse.activeError = .malfunction ||
    c.evse.activeError = .emergencyShutdown

@[simps evse session config pauseCtx sessionId toExchange]
def invalidateCableCheck : Context :=
  { c with evse := { c.evse with cableCheckDone := false, cableCheckFault := false } }

def cpStateBOutstanding : Bool :=
  c.session.cpStateBGateArmed && c.evse.currentCpState != .b

/-- Answers in the response type of the request; a frame of no known type gets no answer. -/
def respondWithCode (code : ResponseCode) : Context :=
  match type with
  | .none => c
  | type => c.respond { type, code }

def respondAndTerminate (code : ResponseCode) : Context :=
  { c.respondWithCode type code with
    sessionStopped := true, sessionStopResPending := some .failedTermination }

def respondSequenceError : Context :=
  c.respondAndTerminate type .failedSequenceError

section RespondAndTerminate

variable (c : Context) (type : MessageType) (code : ResponseCode)

@[simp]
lemma respondAndTerminate_evse : (c.respondAndTerminate type code).evse = c.evse := by
  cases type <;> simp [respondAndTerminate, respondWithCode]

@[simp]
lemma respondAndTerminate_config : (c.respondAndTerminate type code).config = c.config := by
  cases type <;> simp [respondAndTerminate, respondWithCode]

lemma respondAndTerminate_log :
    (c.respondAndTerminate type code).log =
      if type = .none then c.log else .respond (c.answered { type, code }) :: c.log := by
  cases type <;> simp [respondAndTerminate, respondWithCode]

end RespondAndTerminate

def unknownSession (receivedId : SessionId) : Bool :=
  c.sessionId.isSome && type != .sessionSetup && receivedId != c.getSessionId

end Context

def isDcMode : EnergyTransferMode → Bool
  | .dcCore | .dcExtended | .dcComboCore | .dcUnique => true
  | _ => false

end Everest.Iso15118.D2
