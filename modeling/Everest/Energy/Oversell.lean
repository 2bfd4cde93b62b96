import Everest.Energy.Optimizer
import Everest.Energy.Purchases

namespace Everest.Energy
open Runs List

/-- In every slot the node has sold no more than it may pass on, in either direction. -/
def NotOversold (n : MarketNode) : Prop :=
  n.soldRoot.length = n.importMaxAvailable.length ∧
    n.soldRoot.length = n.exportMaxAvailable.length ∧
    ∀ (i : ℕ) (imp exp : ScheduleReqEntry) (sold : ScheduleResEntry),
      n.importMaxAvailable[i]? = some imp → n.exportMaxAvailable[i]? = some exp →
        n.soldRoot[i]? = some sold →
          LimitsBounded imp.limitsToRoot exp.limitsToRoot sold.limitsToRoot

structure NodeOk (N : ℕ) (n : MarketNode) : Prop where
  length_import : n.importMaxAvailable.length = N
  length_export : n.exportMaxAvailable.length = N
  length_sold : n.soldRoot.length = N
  bounded : ∀ (i : ℕ) (imp exp : ScheduleReqEntry) (sold : ScheduleResEntry),
    n.importMaxAvailable[i]? = some imp → n.exportMaxAvailable[i]? = some exp →
      n.soldRoot[i]? = some sold →
        LimitsBounded imp.limitsToRoot exp.limitsToRoot sold.limitsToRoot
  phases : ∀ e ∈ n.importMaxAvailable, PhasesNonneg e.limitsToRoot

variable {N : ℕ} {n : MarketNode}

lemma NodeOk.notOversold (h : NodeOk N n) : NotOversold n :=
  ⟨h.length_sold.trans h.length_import.symm, h.length_sold.trans h.length_export.symm, h.bounded⟩

lemma NodeOk.trade (h : NodeOk N n) {traded : ScheduleRes} (hlen : traded.length = N)
    (ht : ∀ (i : ℕ) (imp exp : ScheduleReqEntry) (t : ScheduleResEntry),
      n.getAvailableEnergyImport[i]? = some imp → n.getAvailableEnergyExport[i]? = some exp →
        traded[i]? = some t → LimitsWithin imp.limitsToRoot exp.limitsToRoot t.limitsToRoot) :
    NodeOk N { n with soldRoot := scheduleAdd n.soldRoot traded } := by
  have hl : n.soldRoot.length = traded.length := h.length_sold.trans hlen.symm
  have hadd : scheduleAdd n.soldRoot traded = zipWith (fun x y => { x with
      limitsToRoot := addLimits x.limitsToRoot y.limitsToRoot }) n.soldRoot traded :=
    if_neg (not_not.2 hl)
  refine ⟨h.length_import, h.length_export, ?_, ?_, h.phases⟩
  · simp [hadd, h.length_sold, hlen]
  · intro i imp exp sold himp hexp hsold
    simp only [hadd, getElem?_zipWith] at hsold
    cases hs : n.soldRoot[i]? with
    | none => simp [hs] at hsold
    | some s =>
      cases hr : traded[i]? with
      | none => simp [hs, hr] at hsold
      | some t =>
        simp only [hs, hr, Option.some.injEq] at hsold
        subst hsold
        apply (h.bounded i imp exp s himp hexp hs).add
        exact ht i _ _ t (getElem?_getAvailableEnergy himp hs)
          (getElem?_getAvailableEnergy hexp hs) hr

section Among

variable {α : Type} {P : α → Prop} {a b r : Option (WithSource α)}

def Among (a b r : Option (WithSource α)) : Prop :=
  r.map (·.value) = a.map (·.value) ∨ r.map (·.value) = b.map (·.value)

lemma Among.of (h : Among a b r) (ha : ∀ m, a = some m → P m.value)
    (hb : ∀ m, b = some m → P m.value) : ∀ m, r = some m → P m.value := by
  rintro m rfl
  rcases h with h | h
  · obtain ⟨x, hx, hvalue⟩ := Option.map_eq_some_iff.1 h.symm
    exact (congrArg P hvalue).mp (ha x hx)
  · obtain ⟨x, hx, hvalue⟩ := Option.map_eq_some_iff.1 h.symm
    exact (congrArg P hvalue).mp (hb x hx)

variable [LT α] [DecidableLT α] (a b)

lemma among_minOptional : Among a b (minOptional a b) := by
  unfold Among
  cases a <;> cases b <;> simp [minOptional]
  split_ifs <;> simp

lemma among_maxOptional : Among a b (maxOptional a b) := by
  unfold Among
  cases a <;> cases b <;> simp [maxOptional]
  split_ifs <;> simp

variable [DecidableEq α]

lemma among_applyOneLimitIfSmaller : Among a b (applyOneLimitIfSmaller a b) := by
  unfold Among
  cases a <;> cases b <;> simp [applyOneLimitIfSmaller]
  split_ifs <;> simp

lemma among_applyOneLimitIfGreater : Among a b (applyOneLimitIfGreater a b) := by
  unfold Among
  cases a <;> cases b <;> simp [applyOneLimitIfGreater]
  split_ifs <;> simp

end Among

lemma PhasesNonneg.applyLimits {a b : LimitsReq} (ha : PhasesNonneg a) (hb : PhasesNonneg b) :
    PhasesNonneg (applyLimitsEntry a b) :=
  ⟨(among_applyOneLimitIfSmaller _ _).of ha.maxCount hb.maxCount,
    (among_applyOneLimitIfGreater _ _).of ha.minCount hb.minCount, hb.active⟩

lemma phasesNonneg_foldl {f : MarketNode → ScheduleReq} {path : List MarketNode}
    {start : ScheduleReq} (hstart : ∀ e ∈ start, PhasesNonneg e.limitsToRoot)
    (hpath : ∀ n ∈ path, ∀ e ∈ f n, PhasesNonneg e.limitsToRoot) :
    ∀ e ∈ path.foldl (fun o n => applyLimits o (f n)) start, PhasesNonneg e.limitsToRoot := by
  induction path generalizing start with
  | nil => exact hstart
  | cons n path ih =>
    refine ih ?_ fun k hk => hpath k (mem_cons_of_mem _ hk)
    intro e he
    by_cases hlen : start.length = (f n).length
    · obtain ⟨i, hi⟩ := mem_iff_getElem?.1 he
      obtain ⟨x, z, hx, hz, hxz⟩ := getElem?_applyLimits hlen hi
      rw [hxz]
      exact (hstart x (mem_of_getElem? hx)).applyLimits
        (hpath n mem_cons_self z (mem_of_getElem? hz))
    · change e ∈ applyLimits start (f n) at he
      rw [applyLimits, if_pos hlen] at he
      exact hstart e he

lemma phasesNonneg_available (h : NodeOk N n) :
    ∀ e ∈ n.getAvailableEnergyImport, PhasesNonneg e.limitsToRoot := by
  intro e he
  obtain ⟨i, hi⟩ := mem_iff_getElem?.1 he
  simp only [MarketNode.getAvailableEnergyImport, getAvailableEnergy, getElem?_zipWith] at hi
  cases hm : n.importMaxAvailable[i]? with
  | none => simp [hm] at hi
  | some x =>
    cases hs : n.soldRoot[i]? with
    | none => simp [hm, hs] at hi
    | some =>
      simp only [hm, hs, Option.some.injEq] at hi
      subst hi
      have hx := h.phases x (mem_of_getElem? hm)
      exact ⟨hx.maxCount, hx.minCount, hx.active⟩

variable {slots : List BrokerSlot}

lemma brokerTrade_slots (env : TradeEnv) {g : Globals} (path : List MarketNode)
    (hslots : slots.length = g.scheduleLength) (ctx : BrokerContext) :
    (brokerTrade env slots ctx (Offer.create g path)).trading.length = g.scheduleLength ∧
      (brokerTrade env slots ctx (Offer.create g path)).slots.length = g.scheduleLength := by
  obtain ⟨hi, he⟩ := offer_length g path
  have hlen := tradeSlots_length env
    (timeSlotActive env.globals.startTime · (Offer.create g path).importOffer) 0 slots ctx
    ((Offer.create g path).importOffer.zip (Offer.create g path).exportOffer)
  rw [length_zip, hi, he, hslots, min_self, min_self] at hlen
  exact hlen

section Path

variable {g : Globals} {path : List MarketNode}
  (h : ∀ n ∈ path, NodeOk g.scheduleLength n)
include h

lemma offer_phases : ∀ e ∈ (Offer.create g path).importOffer, PhasesNonneg e.limitsToRoot := by
  rw [Offer.create, foldl_offer]
  apply phasesNonneg_foldl
  · intro e he
    obtain ⟨t, -, rfl⟩ := mem_map.1 he
    constructor <;> simp
  · exact fun n hn => phasesNonneg_available (h n hn)

/-- A trade made on the offer of a path fits every node of that path. -/
theorem brokerTrade_fits {env : TradeEnv} (he : EnvOk env)
    (hslots : slots.length = g.scheduleLength) (hs : ∀ s ∈ slots, 0 ≤ s.numPhases.value)
    {ctx : BrokerContext} : let r := brokerTrade env slots ctx (Offer.create g path)
    r.trading.length = g.scheduleLength ∧ r.slots.length = g.scheduleLength ∧
      (∀ s ∈ r.slots, 0 ≤ s.numPhases.value) ∧
      ∀ n ∈ path, ∀ (i : ℕ) (imp exp : ScheduleReqEntry) (t : ScheduleResEntry),
        n.getAvailableEnergyImport[i]? = some imp → n.getAvailableEnergyExport[i]? = some exp →
          r.trading[i]? = some t →
            LimitsWithin imp.limitsToRoot exp.limitsToRoot t.limitsToRoot := by
  have hsized : ∀ n ∈ path, Sized g.scheduleLength n := fun n hn =>
    ⟨(h n hn).length_import, (h n hn).length_export, (h n hn).length_sold⟩
  have hlen := brokerTrade_slots env path hslots ctx
  obtain ⟨hin, hph⟩ := tradeSlots_ok
    (timeSlotActive env.globals.startTime · (Offer.create g path).importOffer) he 0 slots ctx
    ((Offer.create g path).importOffer.zip (Offer.create g path).exportOffer) hs
    (fun o ho => offer_phases h o.1 (of_mem_zip ho).1)
  refine ⟨hlen.1, hlen.2, hph, ?_⟩
  intro n hn i imp exp t himp hexp ht
  obtain ⟨⟨oi, oe⟩, ho, hw⟩ := hin i t ht
  obtain ⟨hoi, hoe⟩ := getElem?_zip_eq_some.1 ho
  exact hw.loosen ((offer_import hsized n hn).2 i imp oi himp hoi)
    ((offer_export hsized n hn).2 i exp oe hexp hoe)

end Path

structure OptimizerOk (s : Optimizer) : Prop where
  ampere : 0 ≤ s.globals.sliceAmpere
  watt : 0 ≤ s.globals.sliceWatt
  market : s.market.Every (NodeOk s.globals.scheduleLength)
  slots : ∀ b ∈ s.brokers, b.slots.length = s.globals.scheduleLength ∧
    ∀ slot ∈ b.slots, 0 ≤ slot.numPhases.value

variable {config : EnergyManagerConfig} {s : Optimizer}

lemma OptimizerOk.trade (h : OptimizerOk s) (turn : ℕ × ℤ) :
    OptimizerOk (s.trade config turn).1 := by
  unfold Optimizer.trade
  cases hb : s.brokers[turn.1]? with
  | none => exact h
  | some b =>
    have hmem : b ∈ s.brokers := mem_of_getElem? hb
    have henv : EnvOk (s.tradeEnv config turn.2) := ⟨config.voltage_nonneg, h.ampere, h.watt⟩
    have hpath : ∀ n ∈ s.market.path b.address, NodeOk s.globals.scheduleLength n :=
      h.market.path b.address
    obtain ⟨hlen, hslots, hph, hfits⟩ := brokerTrade_fits hpath henv (h.slots b hmem).1
      (h.slots b hmem).2
    refine ⟨h.ampere, h.watt, ?_, ?_⟩
    · apply h.market.modifyPath
      intro n hn hok
      exact hok.trade hlen (hfits n hn)
    · intro c hc
      rcases mem_or_eq_of_mem_set hc with hc | rfl
      · exact h.slots c hc
      · exact ⟨hslots, hph⟩

def Optimizer.trades (config : EnergyManagerConfig) (s : Optimizer) (turns : List (ℕ × ℤ)) :
    Optimizer :=
  run (fun s turn => (Optimizer.trade config s turn).1) s turns

lemma OptimizerOk.trades (h : OptimizerOk s) (turns : List (ℕ × ℤ)) :
    OptimizerOk (s.trades config turns) := by
  have hstep : ∀ s turn, OptimizerOk s → OptimizerOk (Optimizer.trade config s turn).1 :=
    fun s turn h => h.trade turn
  exact run_inv hstep h turns

lemma tradingRound_eq_trades {clock : ℕ → ℤ} :
    ∃ turns, (s.tradingRound config clock).1 = s.trades config turns := by
  refine ⟨(range s.brokers.length).map fun k => (k, clock k), ?_⟩
  unfold Optimizer.tradingRound Optimizer.trades run
  generalize range s.brokers.length = ks
  generalize false = b
  induction ks generalizing s b with
  | nil => rfl
  | cons k ks ih => exact ih _

lemma tradingRounds_eq_trades (config : EnergyManagerConfig) (clock : ℕ → ℕ → ℤ) (n : ℕ)
    (s : Optimizer) :
    ∃ turns, Optimizer.tradingRounds config clock n s = s.trades config turns := by
  induction n generalizing s with
  | zero => exact ⟨[], rfl⟩
  | succ n ih =>
    obtain ⟨turns, ht⟩ := tradingRound_eq_trades
    rw [Optimizer.tradingRounds]
    split_ifs
    · obtain ⟨rest, hr⟩ := ih (s.tradingRound config (clock n)).1
      refine ⟨turns ++ rest, ?_⟩
      rw [hr, ht]
      exact foldl_append.symm
    · exact ⟨turns, ht⟩

def NonnegLimit (l : Option NumberWithSource) : Prop := ∀ m, l = some m → 0 ≤ m.value

structure LimitsNonneg (l : LimitsReq) : Prop where
  power : NonnegLimit l.totalPowerW
  current : NonnegLimit l.acMaxCurrentA
  phases : PhasesNonneg l

structure EntryNonneg (e : ScheduleReqEntry) : Prop where
  root : LimitsNonneg e.limitsToRoot
  leaves : LimitsNonneg e.limitsToLeaves
  efficiency : ∀ c, e.conversionEfficiency = some c → 0 ≤ c

def RequestNonneg (n : RequestNode) : Prop :=
  (∀ e ∈ n.scheduleImport, EntryNonneg e) ∧ ∀ e ∈ n.scheduleExport, EntryNonneg e

lemma EntryNonneg.mergeToRoot {e : ScheduleReqEntry} (h : EntryNonneg e) :
    LimitsNonneg (mergeToRoot e) := by
  refine ⟨?_, ?_, ?_, ?_, h.root.phases.active⟩
  · refine (among_minOptional _ _).of (P := (0 ≤ ·)) ?_ h.root.power
    intro m hm
    obtain ⟨p, hp, rfl⟩ := Option.map_eq_some_iff.1 hm
    refine div_nonneg (h.leaves.power p hp) ?_
    cases hc : e.conversionEfficiency with
    | none => simp
    | some c => exact h.efficiency c hc
  · exact (among_minOptional _ _).of h.leaves.current h.root.current
  · exact (among_minOptional _ _).of h.root.phases.maxCount h.leaves.phases.maxCount
  · exact (among_maxOptional _ _).of h.root.phases.minCount h.leaves.phases.minCount

lemma mem_of_entryAt {γ : Type} {timestamp : γ → ℤ} {first : Bool} {l : List γ} {t : ℤ} {r : γ}
    (h : entryAt timestamp first l t = some r) : r ∈ l := by
  induction l generalizing first with
  | nil => cases h
  | cons x l ih =>
    cases l with
    | nil =>
      cases h
      exact mem_singleton_self _
    | cons =>
      rw [entryAt] at h
      split_ifs at h
      · cases h
        exact mem_cons_self
      · exact mem_cons_of_mem _ (ih h)

variable (g : Globals) {source : String}

lemma applyLimitIfSmaller_nonneg {base : Option NumberWithSource} {limit : ℚ}
    (hb : NonnegLimit base) (hl : 0 ≤ limit) :
    NonnegLimit (applyLimitIfSmaller base limit source) := by
  intro m hm
  cases base with
  | none =>
    cases hm
    exact hl
  | some =>
    simp only [applyLimitIfSmaller] at hm
    split_ifs at hm <;> cases hm
    · exact hl
    · exact hb _ rfl

lemma nonnegLimit_zero : NonnegLimit (some ⟨0, source⟩) := by
  rintro m ⟨⟩
  exact le_rfl

variable {l : LimitsReq}

lemma LimitsNonneg.setCurrent {c : Option NumberWithSource} (h : LimitsNonneg l)
    (hc : NonnegLimit c) : LimitsNonneg { l with acMaxCurrentA := c } :=
  ⟨h.power, hc, h.phases.maxCount, h.phases.minCount, h.phases.active⟩

lemma LimitsNonneg.setPower {p : Option NumberWithSource} (h : LimitsNonneg l)
    (hp : NonnegLimit p) : LimitsNonneg { l with totalPowerW := p } :=
  ⟨hp, h.current, h.phases.maxCount, h.phases.minCount, h.phases.active⟩

variable {freq : Option ℚ}

lemma applySetpoint_nonneg {sp : SetpointType} {l : LimitsReq × LimitsReq} (hi : LimitsNonneg l.1)
    (he : LimitsNonneg l.2) :
    LimitsNonneg (applySetpoint freq sp l).1 ∧ LimitsNonneg (applySetpoint freq sp l).2 := by
  have hcur (v : ℚ) (src : String) : LimitsNonneg (applySetpointCurrent v src l).1 ∧
      LimitsNonneg (applySetpointCurrent v src l).2 := by
    unfold applySetpointCurrent
    split_ifs with hv
    · exact ⟨hi.setCurrent (applyLimitIfSmaller_nonneg hi.current hv),
        he.setCurrent nonnegLimit_zero⟩
    · exact ⟨hi.setCurrent nonnegLimit_zero,
        he.setCurrent (applyLimitIfSmaller_nonneg he.current (by linarith))⟩
  have hpow (v : ℚ) (src : String) : LimitsNonneg (applySetpointPower v src l).1 ∧
      LimitsNonneg (applySetpointPower v src l).2 := by
    unfold applySetpointPower
    split_ifs with hv
    · exact ⟨hi.setPower (applyLimitIfSmaller_nonneg hi.power hv),
        he.setPower nonnegLimit_zero⟩
    · exact ⟨hi.setPower nonnegLimit_zero,
        he.setPower (applyLimitIfSmaller_nonneg he.power (by linarith))⟩
  unfold applySetpoint
  split
  · exact hcur _ _
  · exact hpow _ _
  · exact hpow _ _
  · exact ⟨hi, he⟩

variable {imp exp : ScheduleReq} {sp : ScheduleSetpoints}

lemma applySetpoints_length : (applySetpoints imp exp sp freq).1.length = imp.length ∧
      (applySetpoints imp exp sp freq).2.length = exp.length := by
  unfold applySetpoints
  split_ifs with hlen
  · exact ⟨rfl, rfl⟩
  · rw [not_or, not_not, not_not] at hlen
    simp only [length_map, length_zip]
    omega

lemma applySetpoints_nonneg (hi : ∀ e ∈ imp, LimitsNonneg e.limitsToRoot)
    (he : ∀ e ∈ exp, LimitsNonneg e.limitsToRoot) :
    (∀ e ∈ (applySetpoints imp exp sp freq).1, LimitsNonneg e.limitsToRoot) ∧
      ∀ e ∈ (applySetpoints imp exp sp freq).2, LimitsNonneg e.limitsToRoot := by
  unfold applySetpoints
  split_ifs with hlen
  · exact ⟨hi, he⟩
  · have hentry : ∀ x ∈ sp.zip (imp.zip exp),
        LimitsNonneg (applySetpointEntry freq x.1 x.2.1 x.2.2).1.limitsToRoot ∧
          LimitsNonneg (applySetpointEntry freq x.1 x.2.1 x.2.2).2.limitsToRoot := by
      intro x hx
      obtain ⟨hxi, hxe⟩ := of_mem_zip (of_mem_zip hx).2
      unfold applySetpointEntry
      split
      · exact ⟨hi _ hxi, he _ hxe⟩
      · exact applySetpoint_nonneg (hi _ hxi) (he _ hxe)
    simp only [map_map]
    refine ⟨?_, ?_⟩
    · intro e hmem
      obtain ⟨x, hx, rfl⟩ := mem_map.1 hmem
      exact (hentry x hx).1
    · intro e hmem
      obtain ⟨x, hx, rfl⟩ := mem_map.1 hmem
      exact (hentry x hx).2

lemma create_sized (n : RequestNode) : Sized g.scheduleLength (MarketNode.create g n) := by
  have side (schedule : ScheduleReq) :
      (if schedule.isEmpty then g.zeroScheduleReq
        else getMaxAvailableEnergy g schedule).length = g.scheduleLength := by
    split_ifs
    · simp [Globals.zeroScheduleReq, Globals.scheduleLength]
    · simp [getMaxAvailableEnergy, Globals.emptyScheduleReq, Globals.scheduleLength]
  refine ⟨?_, ?_, ?_⟩
  · exact applySetpoints_length.1.trans (side n.scheduleImport)
  · exact applySetpoints_length.2.trans (side n.scheduleExport)
  · simp [MarketNode.create, Globals.emptyScheduleRes, Globals.scheduleLength]

lemma create_nodeOk {n : RequestNode} (h : RequestNonneg n) :
    NodeOk g.scheduleLength (MarketNode.create g n) := by
  have side (schedule : ScheduleReq) (hs : ∀ e ∈ schedule, EntryNonneg e) :
      ∀ e ∈ (if schedule.isEmpty then g.zeroScheduleReq else getMaxAvailableEnergy g schedule),
        LimitsNonneg e.limitsToRoot := by
    split_ifs
    · intro e he
      obtain ⟨t, -, rfl⟩ := mem_map.1 he
      refine ⟨?_, ?_, nofun, nofun, nofun⟩ <;>
      · rintro m ⟨⟩
        exact le_rfl
    · intro e he
      obtain ⟨a, ha, rfl⟩ := mem_map.1 he
      obtain ⟨t, -, rfl⟩ := mem_map.1 ha
      split
      · rename_i r hr
        exact (hs r (mem_of_entryAt hr)).mergeToRoot
      · exact ⟨nofun, nofun, nofun, nofun, nofun⟩
  obtain ⟨hi, he⟩ := applySetpoints_nonneg (side n.scheduleImport h.1) (side n.scheduleExport h.2)
  have hsized := create_sized g n
  refine ⟨hsized.length_import, hsized.length_export, hsized.length_sold, ?_,
    fun e hmem => (hi e hmem).phases⟩
  intro i imp exp sold himp hexp hsold
  -- nothing is sold yet, so the bounds say that the limits are not negative
  obtain ⟨t, -, rfl⟩ := mem_map.1 (mem_of_getElem? hsold)
  have hx := hi imp (mem_of_getElem? himp)
  have hy := he exp (mem_of_getElem? hexp)
  refine ⟨⟨hx.current, ?_⟩, ⟨hx.power, ?_⟩⟩
  · intro m hm
    exact neg_nonpos.2 (hy.current m hm)
  · intro m hm
    exact neg_nonpos.2 (hy.power m hm)

/-- The energy manager never oversells: whatever the request tree, the slices and the clock, no
node of the market has sold more than its limits in any slot, after any number of broker turns in
any order, and the trading rounds of `run_optimizer` are such turns. -/
theorem never_oversells (config : EnergyManagerConfig) (startTime leapElapsed : ℤ)
    (request : EnergyFlowRequest) (h : request.Every RequestNonneg) (contexts : Contexts)
    (created : String → ℤ) :
    let s := Optimizer.create config startTime leapElapsed request contexts created
    (∀ turns, (s.trades config turns).market.Every NotOversold) ∧
      ∀ clock rounds, ∃ turns, s.tradingRounds config clock rounds = s.trades config turns := by
  intro s
  refine ⟨?_, fun clock rounds => tradingRounds_eq_trades config clock rounds s⟩
  intro turns
  have hok : OptimizerOk s := by
    refine ⟨config.sliceAmpere_pos.le, config.sliceWatt_pos.le, ?_, ?_⟩
    · exact h.map fun n hn => create_nodeOk _ hn
    · intro b hb
      obtain ⟨x, -, rfl⟩ := mem_map.1 hb
      refine ⟨by simp [s, Optimizer.create], ?_⟩
      intro slot hs
      rw [eq_of_mem_replicate hs]
  exact (hok.trades turns).market.mono fun n hn => hn.notOversold

/-- A house connection of 16 A with one EVSE below it that needs at least 6 A. -/
def house : EnergyFlowRequest :=
  .node
    { uuid := "house"
      nodeType := .generic
      scheduleImport :=
        [{ timestamp := 0, limitsToRoot := { acMaxCurrentA := some ⟨16, "fuse"⟩ } }] }
    [.node
      { uuid := "evse"
        nodeType := .evse
        scheduleImport := [{
          timestamp := 0
          limitsToRoot := {
            acMaxCurrentA := some ⟨32, "cable"⟩
            acMinCurrentA := some ⟨6, "ev"⟩ } }] }
      []]

def houseConfig : EnergyManagerConfig where
  nominalAcVoltage := 230
  updateInterval := 1
  scheduleIntervalDuration := 60
  scheduleTotalDuration := 1
  sliceAmpere := 1 / 2
  sliceWatt := 500
  switch3ph1phWhileChargingMode := "Never"
  switch3ph1phMaxNrOfSwitchesPerSession := 0
  switch3ph1phSwitchLimitStickyness := "DontChange"
  switch3ph1phPowerHysteresisW := 200
  switch3ph1phTimeHysteresisS := 600
  voltage_nonneg := by norm_num
  sliceAmpere_pos := by norm_num
  sliceWatt_pos := by norm_num

/-- Two turns sell 6.5 A in the house, which is not oversold by it. -/
theorem house_never_oversells :
    let s := Optimizer.create houseConfig 0 0 house (fun _ => none) (fun _ => 0)
    house.Every RequestNonneg ∧
      (s.trades houseConfig [(0, 0), (0, 0)]).market.Every NotOversold ∧
      ((s.trades houseConfig [(0, 0), (0, 0)]).market.path []).map (fun n =>
        n.soldRoot.map fun e => soldValue e.limitsToRoot.acMaxCurrentA) = [[13 / 2]] := by
  have h : house.Every RequestNonneg := by
    have limit (a : ℚ) (ha : 0 ≤ a) (src : String) : NonnegLimit (some ⟨a, src⟩) := by
      rintro m ⟨⟩
      exact ha
    refine .intro ⟨?_, by simp⟩ ?_
    · intro e he
      rw [List.mem_singleton.1 he]
      exact ⟨⟨nofun, limit 16 (by norm_num) _, nofun, nofun, nofun⟩,
        ⟨nofun, nofun, nofun, nofun, nofun⟩, nofun⟩
    · intro t ht
      rw [List.mem_singleton.1 ht]
      refine .intro ⟨?_, by simp⟩ (by simp)
      intro e he
      rw [List.mem_singleton.1 he]
      exact ⟨⟨nofun, limit 32 (by norm_num) _, nofun, nofun, nofun⟩,
        ⟨nofun, nofun, nofun, nofun, nofun⟩, nofun⟩
  refine ⟨h, (never_oversells houseConfig 0 0 house h (fun _ => none) (fun _ => 0)).1 _, ?_⟩
  decide +kernel

end Everest.Energy
