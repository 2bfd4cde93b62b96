import Everest.Energy.Broker
import Everest.Lib.Runs

/- The trading loop of `EnergyManagerImpl::run_optimizer`: brokers trade in turn until none of
them wants to, or for a bounded number of rounds. Clock readings are inputs. -/

namespace Everest.Energy

/-- The module configuration. Voltage and slices are checked where a value is made. -/
structure EnergyManagerConfig where
  nominalAcVoltage : ℚ
  updateInterval : ℤ
  scheduleIntervalDuration : ℤ
  scheduleTotalDuration : ℤ
  sliceAmpere : ℚ
  sliceWatt : ℚ
  switch3ph1phWhileChargingMode : String
  switch3ph1phMaxNrOfSwitchesPerSession : ℤ
  switch3ph1phSwitchLimitStickyness : String
  switch3ph1phPowerHysteresisW : ℤ
  switch3ph1phTimeHysteresisS : ℤ
  voltage_nonneg : 0 ≤ nominalAcVoltage
  sliceAmpere_pos : 0 < sliceAmpere
  sliceWatt_pos : 0 < sliceWatt

def toSwitch1ph3phMode (m : String) : Switch1ph3phMode :=
  if m = "Both" then .both else if m = "Oneway" then .oneway else .never

def toStickyness (m : String) : StickyNess :=
  if m = "DontChange" then .dontChange else if m = "SinglePhase" then .singlePhase
  else .threePhase

variable (config : EnergyManagerConfig)

def toBrokerFastChargingConfig : BrokerConfig where
  maxNrOfSwitchesPerSession := config.switch3ph1phMaxNrOfSwitchesPerSession
  powerHysteresisW := config.switch3ph1phPowerHysteresisW
  switch1ph3phMode := toSwitch1ph3phMode config.switch3ph1phWhileChargingMode
  timeHysteresisS := config.switch3ph1phTimeHysteresisS
  stickyness := toStickyness config.switch3ph1phSwitchLimitStickyness

def Globals.init (startTime leapElapsed : ℤ) (request : EnergyFlowRequest) : Globals where
  startTime := startTime
  sliceAmpere := config.sliceAmpere
  sliceWatt := config.sliceWatt
  timestamps :=
    createTimestamps startTime leapElapsed (config.scheduleIntervalDuration * 60000)
      ((config.scheduleTotalDuration * 60).tdiv config.scheduleIntervalDuration).toNat request

structure Broker where
  address : List ℕ
  uuid : String
  slots : List BrokerSlot
  deriving DecidableEq, Repr

abbrev Contexts := String → Option BrokerContext

structure Optimizer where
  globals : Globals
  market : Market
  brokers : List Broker
  contexts : Contexts

/-- The context of an EVSE is made on first use, and afresh when no car is charging there. -/
def openContext (g : Globals) (created : String → ℤ) (n : RequestNode) (contexts : Contexts) :
    Contexts :=
  if n.evseState = some .unplugged ∨ n.evseState = some .finished then
    Function.update contexts n.uuid
      (some { ts1phOptimal := g.startTime - config.switch3ph1phTimeHysteresisS * 1000 })
  else if (contexts n.uuid).isSome then contexts
  else Function.update contexts n.uuid (some { ts1phOptimal := created n.uuid })

namespace Optimizer

def create (config : EnergyManagerConfig) (startTime leapElapsed : ℤ)
    (request : EnergyFlowRequest) (contexts : Contexts) (created : String → ℤ) : Optimizer :=
  let g := Globals.init config startTime leapElapsed request
  let market := Market.create g request
  let evses := market.getListOfEvses
  { globals := g
    market := market
    brokers := evses.map fun x =>
      { address := x.1, uuid := x.2.request.uuid, slots := List.replicate g.scheduleLength {} }
    contexts := evses.foldl (fun c x => openContext config g created x.2.request c) contexts }

def tradeEnv (config : EnergyManagerConfig) (s : Optimizer) (now : ℤ) : TradeEnv where
  voltage := config.nominalAcVoltage
  config := toBrokerFastChargingConfig config
  globals := s.globals
  now := now

def trade (config : EnergyManagerConfig) (s : Optimizer) (turn : ℕ × ℤ) : Optimizer × Bool :=
  match s.brokers[turn.1]? with
  | none => (s, false)
  | some b =>
    let offer := Offer.create s.globals (s.market.path b.address)
    let ctx := (s.contexts b.uuid).getD { ts1phOptimal := turn.2 }
    let r := brokerTrade (s.tradeEnv config turn.2) b.slots ctx offer
    ({ s with
        market := s.market.trade r.trading b.address
        brokers := s.brokers.set turn.1 { b with slots := r.slots }
        contexts := Function.update s.contexts b.uuid (some r.context) },
      r.traded)

def tradingRound (config : EnergyManagerConfig) (clock : ℕ → ℤ) (s : Optimizer) :
    Optimizer × Bool :=
  (List.range s.brokers.length).foldl
    (fun acc k =>
      let r := trade config acc.1 (k, clock k)
      (r.1, acc.2 || r.2))
    (s, false)

def tradingRounds (config : EnergyManagerConfig) (clock : ℕ → ℕ → ℤ) : ℕ → Optimizer → Optimizer
  | 0, s => s
  | n + 1, s =>
    let r := tradingRound config (clock n) s
    if r.2 then tradingRounds config clock n r.1 else r.1

end Optimizer

def maxNumberOfTradingRounds : ℕ := 100

structure EnforcedLimits where
  uuid : String
  validFor : ℤ
  schedule : ScheduleRes
  limitsRootSide : LimitsRes
  deriving DecidableEq, Repr

/-- The slot that counts now: the last one that has started, or the first. -/
def selectSchedule (startTime : ℤ) (selected : ScheduleResEntry) : ScheduleRes → ScheduleResEntry
  | [] => selected
  | s :: rest => if startTime < s.timestamp then selected else selectSchedule startTime s rest

def enforcedLimits (s : Optimizer) (b : Broker) : Option EnforcedLimits :=
  match (s.market.path b.address).getLast? with
  | some { soldRoot := first :: rest, .. } =>
    some
      { uuid := b.uuid
        validFor := config.updateInterval * 10
        schedule := first :: rest
        limitsRootSide :=
          (selectSchedule s.globals.startTime first (first :: rest)).limitsToRoot }
  | _ => none

def runOptimizer (startTime leapElapsed : ℤ) (request : EnergyFlowRequest) (contexts : Contexts)
    (created : String → ℤ) (clock : ℕ → ℕ → ℤ) : List EnforcedLimits × Contexts :=
  let s := (Optimizer.create config startTime leapElapsed request contexts created).tradingRounds
    config clock maxNumberOfTradingRounds
  (s.brokers.filterMap (enforcedLimits config s), s.contexts)

end Everest.Energy
