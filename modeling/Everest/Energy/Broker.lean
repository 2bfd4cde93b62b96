import Everest.Energy.Market

namespace Everest.Energy

section OneLimit

variable {α : Type} [LT α] [DecidableLT α] [DecidableEq α]

def applyOneLimitIfSmaller : Option (WithSource α) → Option (WithSource α) → Option (WithSource α)
  | a, none => a
  | none, some b => some b
  | some a, some b =>
    if b.value < a.value then some b
    else if a.value = b.value then some { a with source := a.source ++ "," ++ b.source }
    else some a

def applyOneLimitIfGreater : Option (WithSource α) → Option (WithSource α) → Option (WithSource α)
  | a, none => a
  | none, some b => some b
  | some a, some b =>
    if a.value < b.value then some b
    else if a.value = b.value then some { a with source := a.source ++ "," ++ b.source }
    else some a

end OneLimit

def applyLimitsEntry (a b : LimitsReq) : LimitsReq where
  acMaxCurrentA := applyOneLimitIfSmaller a.acMaxCurrentA b.acMaxCurrentA
  acMaxPhaseCount := applyOneLimitIfSmaller a.acMaxPhaseCount b.acMaxPhaseCount
  totalPowerW := applyOneLimitIfSmaller a.totalPowerW b.totalPowerW
  acMinPhaseCount := applyOneLimitIfGreater a.acMinPhaseCount b.acMinPhaseCount
  acMinCurrentA := applyOneLimitIfGreater a.acMinCurrentA b.acMinCurrentA
  acNumberOfActivePhases := b.acNumberOfActivePhases

def applyLimits (a b : ScheduleReq) : ScheduleReq :=
  if a.length ≠ b.length then a
  else List.zipWith (fun x y => { x with
    limitsToRoot := applyLimitsEntry x.limitsToRoot y.limitsToRoot }) a b

structure Offer where
  importOffer : ScheduleReq
  exportOffer : ScheduleReq
  deriving DecidableEq, Repr

/-- The limits of the nodes on the path are applied from the root down to the leaf. -/
def Offer.create (g : Globals) (path : List MarketNode) : Offer :=
  path.foldl
    (fun o n =>
      { importOffer := applyLimits o.importOffer n.getAvailableEnergyImport
        exportOffer := applyLimits o.exportOffer n.getAvailableEnergyExport })
    { importOffer := g.emptyScheduleReq, exportOffer := g.emptyScheduleReq }

structure Purchase where
  ampere : Option (NumberWithSource × IntegerWithSource) := none
  watt : Option NumberWithSource := none
  deriving DecidableEq, Repr

def signed (imp : Bool) (x : ℚ) : ℚ := if imp then x else -x

def buyAmpereFull (voltage : ℚ) (maxCurrent : NumberWithSource)
    (totalPower : Option NumberWithSource) (ampere : ℚ) (imp : Bool)
    (phases : IntegerWithSource) : Option Purchase :=
  if ampere ≤ maxCurrent.value then
    match totalPower with
    | some p =>
      if ampere * phases.value * voltage ≤ p.value then
        some
          { ampere := some (⟨signed imp ampere, maxCurrent.source⟩, phases)
            watt := some ⟨signed imp ampere * phases.value * voltage, maxCurrent.source⟩ }
      else none
    | none => some { ampere := some (⟨signed imp ampere, maxCurrent.source⟩, phases) }
  else none

/-- The rest of the current, reduced where the power does not suffice for it. -/
def buyAmpereLeftovers (voltage : ℚ) (maxCurrent : NumberWithSource)
    (totalPower : Option NumberWithSource) (imp : Bool) (phases : IntegerWithSource) :
    Option Purchase :=
  match totalPower with
  | some p =>
    if 0 < p.value then
      if maxCurrent.value * phases.value * voltage ≤ p.value then
        some
          { ampere := some (⟨signed imp maxCurrent.value, maxCurrent.source⟩, phases)
            watt :=
              some ⟨signed imp maxCurrent.value * phases.value * voltage, maxCurrent.source⟩ }
      else
        let reducedAmpere := p.value / phases.value / voltage
        some
          { ampere := some (⟨signed imp reducedAmpere, p.source⟩, phases)
            watt := some ⟨signed imp reducedAmpere * phases.value * voltage, p.source⟩ }
    else none
  | none => some { ampere := some (⟨signed imp maxCurrent.value, maxCurrent.source⟩, phases) }

def buyAmpere (voltage : ℚ) (offer : LimitsReq) (ampere : ℚ) (allowLess imp : Bool)
    (phases : IntegerWithSource) : Option Purchase :=
  match offer.acMaxCurrentA with
  | none => none
  | some maxCurrent =>
    match buyAmpereFull voltage maxCurrent offer.totalPowerW ampere imp phases with
    | some p => some p
    | none =>
      if allowLess = true ∧ 0 < maxCurrent.value then
        buyAmpereLeftovers voltage maxCurrent offer.totalPowerW imp phases
      else none

inductive SlotType
  | imp | exp | undecided
  deriving DecidableEq, Repr

inductive Switch1ph3phMode
  | never | oneway | both
  deriving DecidableEq, Repr

inductive StickyNess
  | singlePhase | threePhase | dontChange
  deriving DecidableEq, Repr

structure BrokerConfig where
  switch1ph3phMode : Switch1ph3phMode := .never
  stickyness : StickyNess := .dontChange
  maxNrOfSwitchesPerSession : ℤ := 0
  powerHysteresisW : ℤ := 200
  timeHysteresisS : ℤ := 600
  deriving DecidableEq, Repr

structure BrokerContext where
  number1ph3phCycles : ℤ := 0
  lastAcNumberOfActivePhasesImport : ℤ := 0
  ts1phOptimal : ℤ
  deriving DecidableEq, Repr

structure BrokerSlot where
  firstTrade : Bool := true
  slotType : SlotType := .undecided
  numPhases : IntegerWithSource := ⟨0, "empty"⟩
  deriving DecidableEq, Repr

/-- What a trade reads besides the offer: `now` is the clock, read in the active slot only. -/
structure TradeEnv where
  voltage : ℚ
  config : BrokerConfig
  globals : Globals
  now : ℤ

variable (env : TradeEnv) (active : Bool) (offer : LimitsReq) (slot : BrokerSlot)

def buyWatt (watt : ℚ) (allowLess imp : Bool) : Option Purchase :=
  match offer.totalPowerW with
  | none => none
  | some p =>
    if watt ≤ p.value then some { watt := some ⟨signed imp watt, p.source⟩ }
    else if allowLess = true ∧ 0 < p.value then
      some { watt := some ⟨signed imp p.value, p.source⟩ }
    else none

def activeSlotBetween (now : ℤ) (n : ℕ) : List ℤ → Option ℕ
  | t :: t' :: rest =>
    if t < now ∧ now < t' then some n else activeSlotBetween now (n + 1) (t' :: rest)
  | _ => none

def activeSlot (now : ℤ) (offer : ScheduleReq) : ℕ :=
  let times := offer.map (·.timestamp)
  if times.head?.any fun t => decide (now < t) then 0
  else if times.getLast?.any fun t => decide (t < now) then times.length - 1
  else (activeSlotBetween now 0 times).getD 0

def timeSlotActive (now : ℤ) (i : ℕ) (offer : ScheduleReq) : Bool :=
  decide (activeSlot now offer = i)

def isZero (x : Option NumberWithSource) : Bool := x.any (fun v => decide (v.value = 0))

def canTrade : Bool :=
  !(isZero offer.totalPowerW || isZero offer.acMaxCurrentA)

def decideSlotType (imp exp : LimitsReq) (slotType : SlotType) : SlotType :=
  if slotType = .undecided then
    if canTrade imp then .imp else if canTrade exp then .exp else .undecided
  else slotType

def activePhases : ℤ := offer.acNumberOfActivePhases.getD 3

def maxPhases : IntegerWithSource :=
  offer.acMaxPhaseCount.getD ⟨3, "BrokerFastCharging_Fallback"⟩

def minPhases : IntegerWithSource :=
  offer.acMinPhaseCount.getD ⟨3, "BrokerFastCharging_Fallback"⟩

def minPower3ph (voltage : ℚ) (offer : LimitsReq) : ℚ :=
  offer.acMinCurrentA.elim 0 fun m => m.value * (maxPhases offer).value * voltage

def optimalPhases (power : NumberWithSource) : IntegerWithSource :=
  if power.value < minPower3ph env.voltage offer then ⟨(minPhases offer).value, power.source⟩
  else if env.config.switch1ph3phMode = .both ∧
      minPower3ph env.voltage offer + env.config.powerHysteresisW < power.value then
    maxPhases offer
  else ⟨activePhases offer, "BrokerFastCharging_KeepNrOfPhases"⟩

def switchingCyclesReached (ctx : BrokerContext) : Bool :=
  decide (0 < env.config.maxNrOfSwitchesPerSession ∧
    env.config.maxNrOfSwitchesPerSession < ctx.number1ph3phCycles)

def stickyPhases (ctx : BrokerContext) (offer : LimitsReq) (phases : IntegerWithSource) :
    IntegerWithSource :=
  if switchingCyclesReached env ctx then
    match env.config.stickyness with
    | .singlePhase => minPhases offer
    | .threePhase => maxPhases offer
    | .dontChange => ⟨activePhases offer, "BrokerFastCharging_KeepNrOfPhases"⟩
  else phases

/-- Three phases only after they have been optimal for the configured time. -/
def timeHysteresis (ctx : BrokerContext) (offer : LimitsReq) (phases : IntegerWithSource) :
    IntegerWithSource :=
  if 0 < env.config.timeHysteresisS ∧ active = true ∧
      (env.globals.startTime - ctx.ts1phOptimal).tdiv 1000 < env.config.timeHysteresisS ∧
      phases.value = (maxPhases offer).value then
    minPhases offer
  else phases

def noteSinglePhase (phases : IntegerWithSource) (ctx : BrokerContext) : BrokerContext :=
  if phases.value = (minPhases offer).value ∧ active = true then
    { ctx with ts1phOptimal := env.now }
  else ctx

/-- Phases for an import, whether the limit of switches was found reached, and the context. -/
def chooseNumberOfPhases (ctx : BrokerContext) (offer : LimitsReq) :
    IntegerWithSource × Bool × BrokerContext :=
  if slot.firstTrade then
    match offer.totalPowerW with
    | some power =>
      if env.config.switch1ph3phMode ≠ .never ∧ 0 < minPower3ph env.voltage offer then
        let phases := stickyPhases env ctx offer (optimalPhases env offer power)
        let ctx' := noteSinglePhase env active offer phases ctx
        (timeHysteresis env active ctx' offer phases, switchingCyclesReached env ctx, ctx')
      else (maxPhases offer, false, ctx)
    | none => (maxPhases offer, false, ctx)
  else (⟨activePhases offer, "BrokerFastCharging_Default"⟩, false, ctx)

def countSwitches (ctx : BrokerContext) : BrokerContext :=
  { ctx with
    number1ph3phCycles :=
      if activePhases offer ≠ ctx.lastAcNumberOfActivePhasesImport then ctx.number1ph3phCycles + 1
      else ctx.number1ph3phCycles
    lastAcNumberOfActivePhasesImport := activePhases offer }

def minCurrentWanted (offer : LimitsReq) : Option ℚ :=
  match offer.acMinCurrentA with
  | some m => if slot.firstTrade = true ∧ 0 < m.value then some m.value else none
  | none => none

structure SlotTrade where
  purchase : Option Purchase := none
  slot : BrokerSlot
  context : BrokerContext

def importAmpere (ctx : BrokerContext) (offer : LimitsReq) : SlotTrade :=
  let (phases, cyclesReached, ctx) := chooseNumberOfPhases env active slot ctx offer
  let ctx := countSwitches offer ctx
  match minCurrentWanted slot offer with
  | some m =>
    match buyAmpere env.voltage offer m false true phases with
    | some p => { purchase := some p, slot := { slot with numPhases := phases }, context := ctx }
    | none =>
      if env.config.switch1ph3phMode ≠ .never ∧ cyclesReached = false then
        -- it may be due to a watt limit only: try again with a single phase
        let single : IntegerWithSource := ⟨1, "BrokerFastCharging_Buy3phFailed"⟩
        { purchase := buyAmpere env.voltage offer m false true single
          slot := { slot with numPhases := single }
          context := ctx }
      else { slot := { slot with numPhases := phases }, context := ctx }
  | none =>
    { purchase := buyAmpere env.voltage offer env.globals.sliceAmpere true true slot.numPhases
      slot := slot
      context := ctx }

def tradeImport (ctx : BrokerContext) (offer : LimitsReq) : SlotTrade :=
  if offer.acMaxCurrentA.isSome then importAmpere env active slot ctx offer
  else
    { purchase := buyWatt offer env.globals.sliceWatt true true, slot := slot, context := ctx }

def fixedPhases : IntegerWithSource := ⟨3, "BrokerFastCharging_FixedValue"⟩

def tradeExport (ctx : BrokerContext) (offer : LimitsReq) : SlotTrade :=
  if offer.acMaxCurrentA.isSome then
    match minCurrentWanted slot offer with
    | some m =>
      { purchase := buyAmpere env.voltage offer m false false fixedPhases
        slot := slot
        context := ctx }
    | none =>
      { purchase := buyAmpere env.voltage offer env.globals.sliceAmpere true false fixedPhases
        slot := slot
        context := ctx }
  else
    { purchase := buyWatt offer env.globals.sliceWatt true false, slot := slot, context := ctx }

def initNumPhases : BrokerSlot :=
  if slot.numPhases.value = 0 then
    { slot with numPhases := ⟨activePhases offer, "BrokerFastCharging_NumPhasesActive"⟩ }
  else slot

def tradeSlot (ctx : BrokerContext) (imp exp : LimitsReq) : SlotTrade :=
  let slot := { slot with slotType := decideSlotType imp exp slot.slotType }
  let slot := initNumPhases imp slot
  match slot.slotType with
  | .imp => tradeImport env active slot ctx imp
  | .exp => tradeExport env slot ctx exp
  | .undecided => { slot := slot, context := ctx }

def zeroTrade (imp : LimitsReq) : LimitsRes where
  acMaxCurrentA := imp.acMaxCurrentA.map fun _ => ⟨0, ""⟩
  totalPowerW := imp.totalPowerW.map fun _ => ⟨0, ""⟩

def applyPurchase (trading : LimitsRes) (p : Purchase) : LimitsRes where
  acMaxCurrentA := (p.ampere.map (·.1)).or trading.acMaxCurrentA
  acMaxPhaseCount := (p.ampere.map (·.2)).or trading.acMaxPhaseCount
  totalPowerW := p.watt.or trading.totalPowerW

def slotAfter (p : Option Purchase) : BrokerSlot :=
  match p with
  | some { ampere := some _, .. } => { slot with firstTrade := false }
  | _ => slot

structure TradeResult where
  trading : ScheduleRes := []
  slots : List BrokerSlot := []
  context : BrokerContext
  traded : Bool := false

/-- The slots from position `i` on, one after the other; only the context passes from one to
the next. -/
def tradeSlots (env : TradeEnv) (active : ℕ → Bool) (i : ℕ) :
    List BrokerSlot → BrokerContext → List (ScheduleReqEntry × ScheduleReqEntry) → TradeResult
  | slot :: slots, ctx, (imp, exp) :: offers =>
    let r := tradeSlot env (active i) slot ctx imp.limitsToRoot exp.limitsToRoot
    let rest := tradeSlots env active (i + 1) slots r.context offers
    let zero := zeroTrade imp.limitsToRoot
    { trading :=
        { timestamp := imp.timestamp
          limitsToRoot := r.purchase.elim zero (applyPurchase zero) } :: rest.trading
      slots := slotAfter r.slot r.purchase :: rest.slots
      context := rest.context
      traded := r.purchase.isSome || rest.traded }
  | _, ctx, _ => { context := ctx }

def brokerTrade (slots : List BrokerSlot) (ctx : BrokerContext) (offer : Offer) : TradeResult :=
  tradeSlots env (timeSlotActive env.globals.startTime · offer.importOffer) 0 slots ctx
    (offer.importOffer.zip offer.exportOffer)

end Everest.Energy
