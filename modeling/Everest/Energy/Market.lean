import Mathlib.Data.List.Sort
import Mathlib.Data.List.Destutter
import Mathlib.Algebra.Order.Field.Rat
import Everest.Lib.RoseTree

/- The market of the EnergyManager: one node for each node of the request tree, with what may
flow through it in either direction in each time slot and what has been sold so far. Numbers
are exact; times are milliseconds. -/

namespace Everest.Energy

structure WithSource (α : Type) where
  value : α
  source : String := ""
  deriving DecidableEq, Repr

abbrev NumberWithSource := WithSource ℚ

abbrev IntegerWithSource := WithSource ℤ

inductive NodeType
  | undefined | evse | generic
  deriving DecidableEq, Repr

inductive EvseState
  | unplugged | waitForAuth | waitForEnergy | prepareCharging | pausedEV | pausedEVSE
  | charging | finished | disabled
  deriving DecidableEq, Repr

structure LimitsReq where
  totalPowerW : Option NumberWithSource := none
  acMaxCurrentA : Option NumberWithSource := none
  acMinCurrentA : Option NumberWithSource := none
  acMaxPhaseCount : Option IntegerWithSource := none
  acMinPhaseCount : Option IntegerWithSource := none
  acNumberOfActivePhases : Option ℤ := none
  deriving DecidableEq, Repr

structure LimitsRes where
  totalPowerW : Option NumberWithSource := none
  acMaxCurrentA : Option NumberWithSource := none
  acMaxPhaseCount : Option IntegerWithSource := none
  deriving DecidableEq, Repr

structure ScheduleReqEntry where
  timestamp : ℤ
  limitsToRoot : LimitsReq := {}
  limitsToLeaves : LimitsReq := {}
  conversionEfficiency : Option ℚ := none
  deriving DecidableEq, Repr

structure ScheduleResEntry where
  timestamp : ℤ
  limitsToRoot : LimitsRes := {}
  deriving DecidableEq, Repr

structure FrequencyWattPoint where
  frequencyHz : ℚ
  totalPowerW : ℚ
  deriving DecidableEq, Repr

structure SetpointType where
  acCurrentA : Option ℚ := none
  totalPowerW : Option ℚ := none
  frequencyTable : Option (List FrequencyWattPoint) := none
  source : String := ""
  deriving DecidableEq, Repr

structure ScheduleSetpointEntry where
  timestamp : ℤ
  setpoint : Option SetpointType := none
  deriving DecidableEq, Repr

abbrev ScheduleReq := List ScheduleReqEntry

abbrev ScheduleRes := List ScheduleResEntry

abbrev ScheduleSetpoints := List ScheduleSetpointEntry

/-- One node of an `EnergyFlowRequest`, without its children. The two meters are read for their
frequency on L1 only. -/
structure RequestNode where
  uuid : String
  nodeType : NodeType
  evseState : Option EvseState := none
  scheduleImport : ScheduleReq := []
  scheduleExport : ScheduleReq := []
  scheduleSetpoints : ScheduleSetpoints := []
  frequencyRoot : Option ℚ := none
  frequencyLeaves : Option ℚ := none
  deriving DecidableEq, Repr

abbrev EnergyFlowRequest := Tree RequestNode

structure Globals where
  startTime : ℤ
  sliceAmpere : ℚ
  sliceWatt : ℚ
  timestamps : List ℤ
  deriving DecidableEq, Repr

namespace Globals

def scheduleLength (g : Globals) : ℕ := g.timestamps.length

def emptyScheduleReq (g : Globals) : ScheduleReq := g.timestamps.map fun t => { timestamp := t }

def emptyScheduleRes (g : Globals) : ScheduleRes := g.timestamps.map fun t => { timestamp := t }

def emptyScheduleSetpoints (g : Globals) : ScheduleSetpoints :=
  g.timestamps.map fun t => { timestamp := t }

def zeroScheduleReq (g : Globals) : ScheduleReq :=
  g.timestamps.map fun t =>
    { timestamp := t
      limitsToRoot := { acMaxCurrentA := some ⟨0, ""⟩, totalPowerW := some ⟨0, ""⟩ } }

/-- The regular slots from the start of the interval that `startTime` lies in, moved by the leap
seconds elapsed. -/
def predefinedTimestamps (startTime leapElapsed interval : ℤ) (scheduleLength : ℕ) : List ℤ :=
  (List.range scheduleLength).map fun i =>
    startTime - startTime.tmod interval + leapElapsed + i * interval

def nodeTimestamps (n : RequestNode) : List ℤ :=
  n.scheduleImport.map (·.timestamp) ++ n.scheduleExport.map (·.timestamp) ++
    n.scheduleSetpoints.map (·.timestamp)

def createTimestamps (startTime leapElapsed interval : ℤ) (scheduleLength : ℕ)
    (request : EnergyFlowRequest) : List ℤ :=
  ((predefinedTimestamps startTime leapElapsed interval scheduleLength ++
    request.addressed.flatMap fun x => nodeTimestamps x.2).insertionSort (· ≤ ·)).destutter (· ≠ ·)

end Globals

section Optional

variable {α : Type} [LT α] [DecidableLT α]

def minOptional : Option (WithSource α) → Option (WithSource α) → Option (WithSource α)
  | some a, some b => if a.value < b.value then some a else some b
  | some a, none => some a
  | none, b => b

def maxOptional : Option (WithSource α) → Option (WithSource α) → Option (WithSource α)
  | some a, some b => if b.value < a.value then some a else some b
  | some a, none => some a
  | none, b => b

end Optional

/-- The entry of a schedule in force at `t`: the last one not after `t`, the first one before
them all. -/
def entryAt {γ : Type} (timestamp : γ → ℤ) (first : Bool) : List γ → ℤ → Option γ
  | [], _ => none
  | [r], _ => some r
  | r :: r' :: rest, t =>
    if (timestamp r ≤ t ∧ t < timestamp r') ∨ (first = true ∧ t < timestamp r) then some r
    else entryAt timestamp false (r' :: rest) t

def resample (g : Globals) (request : ScheduleSetpoints) : ScheduleSetpoints :=
  g.emptyScheduleSetpoints.map fun s =>
    match entryAt (·.timestamp) true request s.timestamp with
    | some r => { s with setpoint := r.setpoint }
    | none => s

def mergeToRoot (r : ScheduleReqEntry) : LimitsReq where
  totalPowerW :=
    minOptional (r.limitsToLeaves.totalPowerW.map fun p =>
      { p with value := p.value / r.conversionEfficiency.getD 1 }) r.limitsToRoot.totalPowerW
  acMaxCurrentA := minOptional r.limitsToLeaves.acMaxCurrentA r.limitsToRoot.acMaxCurrentA
  acMinPhaseCount := maxOptional r.limitsToRoot.acMinPhaseCount r.limitsToLeaves.acMinPhaseCount
  acMaxPhaseCount := minOptional r.limitsToRoot.acMaxPhaseCount r.limitsToLeaves.acMaxPhaseCount
  acMinCurrentA := maxOptional r.limitsToRoot.acMinCurrentA r.limitsToLeaves.acMinCurrentA
  acNumberOfActivePhases := r.limitsToRoot.acNumberOfActivePhases

def getMaxAvailableEnergy (g : Globals) (request : ScheduleReq) : ScheduleReq :=
  g.emptyScheduleReq.map fun a =>
    match entryAt (·.timestamp) true request a.timestamp with
    | some r => { a with limitsToRoot := mergeToRoot r }
    | none => a

/-- The state is the last point not above `freq` (frequency and power) and the power of the
point after it. -/
def freqScan (freq : ℚ) : List FrequencyWattPoint → ℚ × ℚ × ℚ → ℚ × ℚ × ℚ
  | [], s => s
  | e :: table, (watt1, _, freq1) =>
    if freq < e.frequencyHz then (watt1, e.totalPowerW, freq1)
    else freqScan freq table (e.totalPowerW, e.totalPowerW, e.frequencyHz)

def getWattFromFreqTable (table : List FrequencyWattPoint) (freq : ℚ) : ℚ :=
  match table with
  | [] => 0
  | [e] => e.totalPowerW
  | e :: rest =>
    let (watt1, watt2, freq1) := freqScan freq (e :: rest) (e.totalPowerW, 0, 0)
    watt1 + (freq - freq1) * (watt2 - watt1)

def applyLimitIfSmaller (base : Option NumberWithSource) (limit : ℚ) (source : String) :
    Option NumberWithSource :=
  match base with
  | none => some ⟨limit, source⟩
  | some b => if limit < b.value then some ⟨limit, source⟩ else some b

/-- A setpoint limits its own direction and closes the other one. -/
def applySetpointCurrent (value : ℚ) (source : String) (l : LimitsReq × LimitsReq) :
    LimitsReq × LimitsReq :=
  if 0 ≤ value then
    ({ l.1 with acMaxCurrentA := applyLimitIfSmaller l.1.acMaxCurrentA value source },
      { l.2 with acMaxCurrentA := some ⟨0, source⟩ })
  else
    ({ l.1 with acMaxCurrentA := some ⟨0, source⟩ },
      { l.2 with acMaxCurrentA := applyLimitIfSmaller l.2.acMaxCurrentA (-value) source })

def applySetpointPower (value : ℚ) (source : String) (l : LimitsReq × LimitsReq) :
    LimitsReq × LimitsReq :=
  if 0 ≤ value then
    ({ l.1 with totalPowerW := applyLimitIfSmaller l.1.totalPowerW value source },
      { l.2 with totalPowerW := some ⟨0, source⟩ })
  else
    ({ l.1 with totalPowerW := some ⟨0, source⟩ },
      { l.2 with totalPowerW := applyLimitIfSmaller l.2.totalPowerW (-value) source })

/-- Only one of the three kinds of setpoint counts, in this order. -/
def applySetpoint (freq : Option ℚ) (sp : SetpointType) (l : LimitsReq × LimitsReq) :
    LimitsReq × LimitsReq :=
  match sp.acCurrentA, sp.totalPowerW, sp.frequencyTable, freq with
  | some amps, _, _, _ => applySetpointCurrent amps sp.source l
  | none, some watts, _, _ => applySetpointPower watts sp.source l
  | none, none, some table, some f => applySetpointPower (getWattFromFreqTable table f) sp.source l
  | _, _, _, _ => l

def applySetpointEntry (freq : Option ℚ) (sp : ScheduleSetpointEntry) (imp exp : ScheduleReqEntry) :
    ScheduleReqEntry × ScheduleReqEntry :=
  match sp.setpoint with
  | none => (imp, exp)
  | some p =>
    let l := applySetpoint freq p (imp.limitsToRoot, exp.limitsToRoot)
    ({ imp with limitsToRoot := l.1 }, { exp with limitsToRoot := l.2 })

def applySetpoints (imp exp : ScheduleReq) (setpoints : ScheduleSetpoints) (freq : Option ℚ) :
    ScheduleReq × ScheduleReq :=
  if setpoints.length ≠ imp.length ∨ setpoints.length ≠ exp.length then (imp, exp)
  else
    let limits := (setpoints.zip (imp.zip exp)).map fun x => applySetpointEntry freq x.1 x.2.1 x.2.2
    (limits.map (·.1), limits.map (·.2))

structure MarketNode where
  request : RequestNode
  importMaxAvailable : ScheduleReq
  exportMaxAvailable : ScheduleReq
  setpoints : ScheduleSetpoints
  soldRoot : ScheduleRes
  deriving DecidableEq, Repr

abbrev Market := Tree MarketNode

namespace MarketNode

def create (g : Globals) (request : RequestNode) : MarketNode :=
  let imp :=
    if request.scheduleImport.isEmpty then g.zeroScheduleReq
    else getMaxAvailableEnergy g request.scheduleImport
  let exp :=
    if request.scheduleExport.isEmpty then g.zeroScheduleReq
    else getMaxAvailableEnergy g request.scheduleExport
  let setpoints :=
    if request.scheduleSetpoints.isEmpty then g.emptyScheduleSetpoints
    else resample g request.scheduleSetpoints
  let limits := applySetpoints imp exp setpoints (request.frequencyRoot.or request.frequencyLeaves)
  { request := request
    importMaxAvailable := limits.1
    exportMaxAvailable := limits.2
    setpoints := setpoints
    soldRoot := g.emptyScheduleRes }

end MarketNode

def Market.create (g : Globals) (request : EnergyFlowRequest) : Market :=
  request.map (MarketNode.create g)

/-- What is sold in the other direction does not add to what is available. -/
def soldReducing (addSold : Bool) (sold : Option NumberWithSource) : ℚ :=
  match sold with
  | none => 0
  | some s =>
    let v := (if addSold then 1 else -1) * s.value
    if 0 < v then 0 else v

def availableLimits (addSold : Bool) (limits : LimitsReq) (sold : LimitsRes) : LimitsReq :=
  { limits with
    acMaxCurrentA := limits.acMaxCurrentA.map fun a =>
      { a with value := a.value + soldReducing addSold sold.acMaxCurrentA }
    totalPowerW := limits.totalPowerW.map fun p =>
      { p with value := p.value + soldReducing addSold sold.totalPowerW } }

def getAvailableEnergy (addSold : Bool) (maxAvailable : ScheduleReq) (sold : ScheduleRes) :
    ScheduleReq :=
  List.zipWith (fun a s => { a with
    limitsToRoot := availableLimits addSold a.limitsToRoot s.limitsToRoot }) maxAvailable sold

namespace MarketNode

def getAvailableEnergyImport (n : MarketNode) : ScheduleReq :=
  getAvailableEnergy false n.importMaxAvailable n.soldRoot

def getAvailableEnergyExport (n : MarketNode) : ScheduleReq :=
  getAvailableEnergy true n.exportMaxAvailable n.soldRoot

end MarketNode

def addNumber (a b : Option NumberWithSource) : Option NumberWithSource :=
  match b with
  | none => a
  | some y =>
    some
      { value := y.value + (a.elim 0 (·.value))
        source := if y.value ≠ 0 then y.source else a.elim "" (·.source) }

def addPhaseCount (a b : Option IntegerWithSource) : Option IntegerWithSource :=
  match a, b with
  | a, none => a
  | none, some y => some y
  | some x, some y => if x.value < y.value then some y else some x

def addLimits (a b : LimitsRes) : LimitsRes where
  acMaxCurrentA := addNumber a.acMaxCurrentA b.acMaxCurrentA
  totalPowerW := addNumber a.totalPowerW b.totalPowerW
  acMaxPhaseCount := addPhaseCount a.acMaxPhaseCount b.acMaxPhaseCount

def scheduleAdd (a b : ScheduleRes) : ScheduleRes :=
  if a.length ≠ b.length then a
  else List.zipWith (fun x y => { x with
    limitsToRoot := addLimits x.limitsToRoot y.limitsToRoot }) a b

/-- A trade at a node counts there and at all nodes up to the root. -/
def Market.trade (traded : ScheduleRes) (address : List ℕ) (m : Market) : Market :=
  m.modifyPath (fun n => { n with soldRoot := scheduleAdd n.soldRoot traded }) address

def Market.getListOfEvses (m : Market) : List (List ℕ × MarketNode) :=
  m.addressed.filter fun x => x.2.request.nodeType = .evse

end Everest.Energy
