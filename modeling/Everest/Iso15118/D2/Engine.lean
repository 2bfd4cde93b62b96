import Everest.Iso15118.D2.States

namespace Everest.Iso15118.D2

def timeoutStopChargingGuard : ℕ := 10000

def timeoutEmergencyShutdownGuard : ℕ := 2000

structure Engine where
  ctx : Context
  state : State
  stopChargingGuardArmed : Bool := false

namespace Engine

variable (e : Engine) (config : SessionConfig) (c : Context)

def init (pauseCtx : Option PauseContext) (now : ℕ) : Engine where
  ctx := { now, timeouts := .none, config, pauseCtx }
  state := .sessionSetup

def leave (s : State) (c : Context) : Context :=
  match s with
  | .cableCheck .. | .postCharge .. => c.clearCpStateTimeout
  | _ => c

section Leave

variable (s : State) (c : Context)

@[simp]
lemma leave_log : (leave s c).log = c.log := by cases s <;> rfl

@[simp]
lemma leave_evse : (leave s c).evse = c.evse := by cases s <;> rfl

@[simp]
lemma leave_config : (leave s c).config = c.config := by cases s <;> rfl

end Leave

def settle : Context × Result → Engine
  | (c, .stay s) => { e with ctx := c, state := s }
  | (c, .enter s) => { e with ctx := leave e.state c, state := s }

/-- A request that names another session is refused before the state sees it. -/
def onPacket (crypto : Crypto) (e : Engine) (req : Request) (fresh : Fresh) : Engine :=
  let c := { e.ctx with log := .request req :: e.ctx.log }
  if c.unknownSession req.body.type req.sessionId then
    { e with ctx := c.respondAndTerminate req.body.type .failedUnknownSession }
  else e.settle (e.state.onRequest crypto c fresh req)

def applyDcCapabilities (limits : DcTransferLimits) : SessionConfig :=
  { config with
    dcCapabilityMaxPower := max 0 limits.maxPower,
    dcMinCurrent := max 0 limits.minCurrent,
    dcMinVoltage := max 0 limits.minVoltage }

def applyPhysicalValues (acNominalVoltage : Option ℚ) : SessionConfig :=
  match acNominalVoltage with
  | some v => if 0 < v then { config with acNominalVoltage := v } else config
  | none => config

def acCapabilityPhaseCount : ℚ :=
  if config.supportedEnergyTransferModes.contains .acThreePhaseCore then 3 else 1

def applyAcLimits (maxPower : ℚ) : SessionConfig :=
  if 0 < maxPower ∧ 0 < config.acNominalVoltage then
    { config with
      acCapabilityMaxCurrent :=
        maxPower / (config.acNominalVoltage * acCapabilityPhaseCount config) }
  else config

/-- A stop is kept in the context; the guard fails the session if the EV ignores it. -/
def onStopCharging (requested : Bool) : Engine :=
  let c := { e.ctx with evse := { e.ctx.evse with chargerStopRequested := requested } }
  if requested then
    if e.stopChargingGuardArmed then { e with ctx := c }
    else { e with
      ctx := c.startTimeout .stopCharging timeoutStopChargingGuard, stopChargingGuardArmed := true }
  else
    let c := { c with chargerStopIgnored := false }
    if e.stopChargingGuardArmed then
      { e with ctx := c.stopTimeout .stopCharging, stopChargingGuardArmed := false }
    else { e with ctx := c }

def onEvseError (code : EvseErrorCode) : Context :=
  let c := { c with evse := { c.evse with activeError := code } }
  if code = .emergencyShutdown ∧ ¬ c.evse.emergencyShutdown then
    { c with evse := { c.evse with emergencyShutdown := true } }.startTimeout .emergencyShutdown
      timeoutEmergencyShutdownGuard
  else c

def onCpStateChanged (state : CpState) : Context :=
  let c := { c with evse := { c.evse with currentCpState := state } }
  if state = .a then { c with sessionStopped := true, sessionEndedWithError := true } else c

def onControlEvent (e : Engine) (event : ControlEvent) : Engine :=
  let e := { e with ctx := { e.ctx with log := .event event :: e.ctx.log } }
  match event with
  | .stopCharging requested => e.onStopCharging requested
  | .updateAcMaxCurrent | .dcTransferLimits _ | .updateIsolationStatus | .pauseCharging true => e
  | .updatePowersupplyLimits limits =>
    { e with ctx := { e.ctx with config := applyDcCapabilities e.ctx.config limits } }
  | .acTransferLimits maxPower =>
    { e with ctx := { e.ctx with config := applyAcLimits e.ctx.config maxPower } }
  | .physicalValues acNominalVoltage =>
    { e with ctx := { e.ctx with config := applyPhysicalValues e.ctx.config acNominalVoltage } }
  | .noEnergyPause mode =>
    { e with ctx := { e.ctx with config := { e.ctx.config with noEnergyPause := mode } } }
  | .meterInfo =>
    { e with ctx := { e.ctx with evse := { e.ctx.evse with latestMeterInfo := true } } }
  | .evseError code => { e with ctx := onEvseError e.ctx code }
  | .cpStateChanged state =>
    e.settle (e.state.onControlEvent (onCpStateChanged e.ctx state) event)
  | event => e.settle (e.state.onControlEvent e.ctx event)

def onTimeout (e : Engine) (type : TimeoutType) : Engine :=
  let e := { e with ctx := { e.ctx with log := .timeout type :: e.ctx.log } }
  match type with
  | .sequence => { e with ctx := e.ctx.stop }
  | .emergencyShutdown =>
    if e.ctx.sessionStopped then e
    else { e with ctx := { e.ctx with sessionStopped := true, sessionEndedWithError := true } }
  | .stopCharging =>
    { e with
      ctx := if e.ctx.sessionStopped || e.ctx.sessionPaused then e.ctx
        else { e.ctx with chargerStopIgnored := true },
      stopChargingGuardArmed := false }
  | type => e.settle (e.state.onTimeout e.ctx type)

def hasOutgoing : Bool := e.ctx.response.isSome

def takeOutgoing : Engine := { e with ctx := { e.ctx with response := none } }

def isFinished : Bool :=
  (e.ctx.sessionStopped || e.ctx.sessionPaused) && !e.hasOutgoing

inductive Input where
  | packet (req : Request) (fresh : Fresh)
  | control (event : ControlEvent)
  | timeout (type : TimeoutType)
  | takeOutgoing
  | elapse (ms : ℕ)

def step (crypto : Crypto) (e : Engine) : Input → Engine
  | .packet req fresh => e.onPacket crypto req fresh
  | .control event => e.onControlEvent event
  | .timeout type => e.onTimeout type
  | .takeOutgoing => e.takeOutgoing
  | .elapse ms => { e with ctx := { e.ctx with now := e.ctx.now + ms } }

end Engine

end Everest.Iso15118.D2
