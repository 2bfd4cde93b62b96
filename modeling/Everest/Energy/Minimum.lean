import Everest.Energy.Oversell
import Everest.Energy.SlotBooks

namespace Everest.Energy
open Runs Optimizer List

/-- What the nodes from the root to an address allow to be imported in a slot. -/
def Optimizer.importLimits (s : Optimizer) (address : List ℕ) (i : ℕ) : List LimitsReq :=
  (s.market.path address).filterMap fun n => (n.importMaxAvailable[i]?).map (·.limitsToRoot)

def Optimizer.slotBook? (s : Optimizer) (k i : ℕ) : Option SlotBook :=
  (s.brokers[k]?).bind fun b => (b.slots[i]?).bind fun slot =>
    ((s.market.label? b.address).bind fun n => n.soldRoot[i]?).map fun e =>
      { slot := slot, sold := e.limitsToRoot }

/-- Broker `k` trades for a leaf of the market, and no other broker does. -/
structure Seat (k : ℕ) (address : List ℕ) (s : Optimizer) : Prop where
  slice : 0 ≤ s.globals.sliceAmpere
  broker : ∃ b, s.brokers[k]? = some b ∧ b.address = address
  alone : ∀ (j : ℕ) (b : Broker), s.brokers[j]? = some b → address <+: b.address → j = k
  slots : ∀ b ∈ s.brokers, b.slots.length = s.globals.scheduleLength
  market : s.market.Every (Sized s.globals.scheduleLength)

variable {a b : ScheduleRes}

lemma scheduleAdd_length : (scheduleAdd a b).length = a.length := by
  unfold scheduleAdd
  split_ifs with h
  · rfl
  · simp [not_not.1 h]

variable {i : ℕ}

lemma Sized.trade {N : ℕ} {n : MarketNode} (h : Sized N n) (traded : ScheduleRes) :
    Sized N { n with soldRoot := scheduleAdd n.soldRoot traded } :=
  ⟨h.length_import, h.length_export, scheduleAdd_length.trans h.length_sold⟩

section Turn

variable {config : EnergyManagerConfig} {s : Optimizer} {k : ℕ} {address : List ℕ}

def Optimizer.turnTrade (config : EnergyManagerConfig) (s : Optimizer) (now : ℤ) (b : Broker) :
    TradeResult :=
  brokerTrade (s.tradeEnv config now) b.slots ((s.contexts b.uuid).getD { ts1phOptimal := now })
    (Offer.create s.globals (s.market.path b.address))

variable {turn : ℕ × ℤ}

lemma trade_eq {b : Broker} (hb : s.brokers[turn.1]? = some b) : (s.trade config turn).1 = { s with
      market := s.market.trade (s.turnTrade config turn.2 b).trading b.address
      brokers := s.brokers.set turn.1 { b with slots := (s.turnTrade config turn.2 b).slots }
      contexts := Function.update s.contexts b.uuid (s.turnTrade config turn.2 b).context } := by
  simp only [trade, hb, turnTrade]

lemma Seat.trade (h : Seat k address s) (turn : ℕ × ℤ) :
    Seat k address (s.trade config turn).1 := by
  cases hb : s.brokers[turn.1]? with
  | none =>
    have hidle : (s.trade config turn).1 = s := by simp only [Optimizer.trade, hb]
    rw [hidle]
    exact h
  | some b =>
    have hlength : (s.turnTrade config turn.2 b).slots.length = s.globals.scheduleLength :=
      (brokerTrade_slots _ _ (h.slots b (mem_of_getElem? hb)) _).2
    have hbrokers (j : ℕ) (c : Broker)
        (hc : (s.brokers.set turn.1 { b with slots := (s.turnTrade config turn.2 b).slots })[j]? =
          some c) : ∃ d, s.brokers[j]? = some d ∧ c.address = d.address := by
      rw [getElem?_set] at hc
      split_ifs at hc with hj
      · cases hc
        exact ⟨b, hj ▸ hb, rfl⟩
      · exact ⟨c, hc, rfl⟩
    rw [trade_eq hb]
    refine ⟨h.slice, ?_, ?_, ?_, ?_⟩
    · obtain ⟨c, hc, haddr⟩ := h.broker
      by_cases hk : turn.1 = k
      · subst hk
        refine ⟨_, List.getElem?_set_self (List.getElem?_eq_some_iff.1 hc).1, ?_⟩
        rw [← haddr, ← Option.some.inj (hb.symm.trans hc)]
      · exact ⟨c, by rw [getElem?_set_ne hk]; exact hc, haddr⟩
    · intro j c hc hpre
      obtain ⟨d, hd, heq⟩ := hbrokers j c hc
      exact h.alone j d hd (heq ▸ hpre)
    · intro c hc
      rcases mem_or_eq_of_mem_set hc with hc | rfl
      · exact h.slots c hc
      · exact hlength
    · apply h.market.modifyPath
      intro n _ hn
      exact hn.trade _

lemma importLimits_trade :
    (s.trade config turn).1.importLimits address i = s.importLimits address i := by
  cases hb : s.brokers[turn.1]? with
  | none => simp only [trade, hb]
  | some b =>
    rw [trade_eq hb]
    have hpath := Tree.map_path_modifyPath (f := fun n : MarketNode =>
        { n with soldRoot := scheduleAdd n.soldRoot (s.turnTrade config turn.2 b).trading })
      (g := fun n : MarketNode => (n.importMaxAvailable[i]?).map (·.limitsToRoot))
      (fun _ => rfl) s.market address b.address
    have hlimits (l : List MarketNode) :
        (l.filterMap fun n => (n.importMaxAvailable[i]?).map (·.limitsToRoot)) =
          (l.map fun n => (n.importMaxAvailable[i]?).map (·.limitsToRoot)).filterMap id := by
      simp [filterMap_map]
    unfold importLimits
    rw [hlimits, hlimits]
    exact congrArg (filterMap id) hpath

variable {m : NumberWithSource} {imp : LimitsReq} {limits : List LimitsReq}

lemma Seat.slotBook_other (h : Seat k address s) (hturn : turn.1 ≠ k) (i : ℕ) :
    (s.trade config turn).1.slotBook? k i = s.slotBook? k i := by
  cases hb : s.brokers[turn.1]? with
  | none => simp only [Optimizer.trade, hb]
  | some b =>
    obtain ⟨c, hc, haddr⟩ := h.broker
    have hpre : ¬ c.address <+: b.address := by
      rw [haddr]
      intro hpre
      exact hturn (h.alone turn.1 b hb hpre)
    rw [trade_eq hb]
    unfold slotBook?
    simp only [Market.trade, getElem?_set_ne hturn, hc, Option.bind_some,
      Tree.label?_modifyPath, if_neg hpre]

/-- The import offer of a slot, before broker `k` trades. -/
def Optimizer.importOffer? (s : Optimizer) (address : List ℕ) (i : ℕ) : Option LimitsReq :=
  ((Offer.create s.globals (s.market.path address)).importOffer[i]?).map (·.limitsToRoot)

lemma Seat.slotBook_self (h : Seat k address s) (config : EnergyManagerConfig) (now : ℤ)
    {book : SlotBook} (hbook : s.slotBook? k i = some book) :
    ∃ active ctx imp exp, s.importOffer? address i = some imp ∧
      (s.trade config (k, now)).1.slotBook? k i =
        some (book.trade (s.tradeEnv config now) active ctx imp exp) := by
  obtain ⟨b, hb, haddr⟩ := h.broker
  simp only [slotBook?, hb, Option.bind_some, haddr] at hbook
  obtain ⟨slot, hslot, hbook⟩ := Option.bind_eq_some_iff.1 hbook
  obtain ⟨e, he, rfl⟩ := Option.map_eq_some_iff.1 hbook
  obtain ⟨n, hn, he⟩ := Option.bind_eq_some_iff.1 he
  have hslots := h.slots b (mem_of_getElem? hb)
  have hi : i < s.globals.scheduleLength := by
    rw [← hslots]
    exact (List.getElem?_eq_some_iff.1 hslot).1
  obtain ⟨hli, hle⟩ := offer_length s.globals (s.market.path address)
  unfold importOffer?
  set offer := Offer.create s.globals (s.market.path address) with hoffer
  obtain ⟨oi, hoi⟩ : ∃ o, offer.importOffer[i]? = some o :=
    ⟨_, getElem?_eq_getElem (hli.symm ▸ hi)⟩
  obtain ⟨oe, hoe⟩ : ∃ o, offer.exportOffer[i]? = some o :=
    ⟨_, getElem?_eq_getElem (hle.symm ▸ hi)⟩
  have ho : (offer.importOffer.zip offer.exportOffer)[i]? = some (oi, oe) :=
    getElem?_zip_eq_some.2 ⟨hoi, hoe⟩
  obtain ⟨ctx, htrading, hafter⟩ := getElem?_tradeSlots (s.tradeEnv config now)
    (timeSlotActive s.globals.startTime · offer.importOffer) 0 b.slots
    ((s.contexts b.uuid).getD { ts1phOptimal := now })
    (offer.importOffer.zip offer.exportOffer) hslot ho
  have htrade : s.turnTrade config now b = tradeSlots (s.tradeEnv config now)
      (timeSlotActive s.globals.startTime · offer.importOffer) 0 b.slots
      ((s.contexts b.uuid).getD { ts1phOptimal := now })
      (offer.importOffer.zip offer.exportOffer) := by
    rw [hoffer, ← haddr]
    rfl
  rw [← htrade] at htrading hafter
  refine ⟨timeSlotActive s.globals.startTime (0 + i) offer.importOffer, ctx, oi.limitsToRoot,
    oe.limitsToRoot, congrArg (Option.map _) hoi, ?_⟩
  have hlength : n.soldRoot.length = (s.turnTrade config now b).trading.length := by
    rw [(h.market.path address n (Tree.label?_mem_path hn)).length_sold]
    exact (brokerTrade_slots _ _ hslots _).1.symm
  have hk : k < s.brokers.length := (List.getElem?_eq_some_iff.1 hb).1
  rw [trade_eq hb]
  simp only [slotBook?, Market.trade, getElem?_set_self hk, Option.bind_some,
    hafter, haddr, Tree.label?_modifyPath, prefix_rfl, if_true, hn, Option.map_some, scheduleAdd,
    if_neg (not_not.2 hlength), getElem?_zipWith, he, htrading,
    SlotBook.trade, booked]

lemma minimum_applyOneLimit {a b : Option NumberWithSource} (h : a = some m ∨ b = some m) :
    ∃ m', applyOneLimitIfGreater a b = some m' ∧ m.value ≤ m'.value := by
  rcases h with rfl | rfl
  · cases b with
    | none => exact ⟨m, rfl, le_rfl⟩
    | some y =>
      simp only [applyOneLimitIfGreater]
      split_ifs with hlt heq
      · exact ⟨y, rfl, hlt.le⟩
      · exact ⟨_, rfl, le_rfl⟩
      · exact ⟨m, rfl, le_rfl⟩
  · cases a with
    | none => exact ⟨m, rfl, le_rfl⟩
    | some x =>
      simp only [applyOneLimitIfGreater]
      split_ifs with hlt heq
      · exact ⟨m, rfl, le_rfl⟩
      · exact ⟨_, rfl, heq.ge⟩
      · exact ⟨x, rfl, not_lt.1 hlt⟩

lemma Seat.node (h : Seat k address s) {l : LimitsReq} (hl : l ∈ s.importLimits address i) :
    ∃ n ∈ s.market.path address, ∃ x e, n.importMaxAvailable[i]? = some x ∧
      x.limitsToRoot = l ∧ n.soldRoot[i]? = some e := by
  obtain ⟨n, hn, hl⟩ := mem_filterMap.1 hl
  obtain ⟨x, hx, rfl⟩ := Option.map_eq_some_iff.1 hl
  have hsized := h.market.path address n hn
  have hi : i < n.soldRoot.length := by
    rw [hsized.length_sold, ← hsized.length_import]
    exact (List.getElem?_eq_some_iff.1 hx).1
  exact ⟨n, hn, x, _, hx, rfl, getElem?_eq_getElem hi⟩

lemma Seat.minimumOf (h : Seat k address s) (himp : s.importOffer? address i = some imp) :
    MinimumOf (s.importLimits address i) imp := by
  obtain ⟨o, ho, rfl⟩ := Option.map_eq_some_iff.1 himp
  intro l hl m hm
  obtain ⟨n, hn, x, e, hx, rfl, he⟩ := h.node hl
  rw [Offer.create, foldl_offer] at ho
  obtain ⟨x', -, ho'⟩ :=
    getElem?_foldl_applyLimits (availableImport_length (h.market.path address)) ho
  have havail : n.getAvailableEnergyImport[i]? = _ := getElem?_getAvailableEnergy hx he
  rw [ho', foldl_applyLimitsEntry.2.2]
  exact foldl_better (r := (· ≥ ·)) (f := fun e : ScheduleReqEntry => e.limitsToRoot.acMinCurrentA)
    minimum_applyOneLimit (.inr ⟨_, mem_filterMap.2 ⟨n, hn, havail⟩, hm⟩)

/-- The EVSE has bought no more current than any node above it has sold. -/
def NetImports (s : Optimizer) (address : List ℕ) (i : ℕ) (sold : LimitsRes) : Prop :=
  ∀ n ∈ s.market.path address, ∀ e ∈ n.soldRoot[i]?,
    soldValue sold.acMaxCurrentA ≤ soldValue e.limitsToRoot.acMaxCurrentA

instance (s : Optimizer) (address : List ℕ) (i : ℕ) (sold : LimitsRes) :
    Decidable (NetImports s address i sold) :=
  inferInstanceAs (Decidable (∀ n ∈ s.market.path address, ∀ e ∈ n.soldRoot[i]?,
    soldValue sold.acMaxCurrentA ≤ soldValue e.limitsToRoot.acMaxCurrentA))

lemma Seat.roomFor (h : Seat k address s) {sold : LimitsRes}
    (himp : s.importOffer? address i = some imp) (hnet : NetImports s address i sold) :
    RoomFor (s.importLimits address i) sold imp := by
  obtain ⟨o, ho, rfl⟩ := Option.map_eq_some_iff.1 himp
  intro l hl m hm
  obtain ⟨n, hn, x, e, hx, rfl, he⟩ := h.node hl
  have hof := (offer_import (h.market.path address) n hn).2 i _ o
    (getElem?_getAvailableEnergy hx he) ho
  obtain ⟨m', hm', hle⟩ := hof.current _ (by rw [availableLimits, hm]; rfl)
  refine ⟨m', hm', ?_⟩
  have hsold := hnet n hn e he
  simp only [soldReducing_import] at hle
  linarith [le_max_left (soldValue e.limitsToRoot.acMaxCurrentA) 0]

structure RunOk (k : ℕ) (address : List ℕ) (i : ℕ) (limits : List LimitsReq) (s : Optimizer) :
    Prop where
  seat : Seat k address s
  limits_eq : s.importLimits address i = limits
  book : ∃ book, s.slotBook? k i = some book ∧ (book.slot.slotType ≠ .exp → BookOk limits book)

/-- One turn: the books stay as they are, or the slot has traded once. -/
theorem RunOk.trade_cases (h : RunOk k address i limits s) :
    ∃ book, s.slotBook? k i = some book ∧ (book.slot.slotType ≠ .exp → BookOk limits book) ∧
      ((s.trade config turn).1.slotBook? k i = some book ∨
        turn.1 = k ∧ ∃ active ctx imp exp, s.importOffer? address i = some imp ∧
          MinimumOf limits imp ∧ (s.trade config turn).1.slotBook? k i =
            some (book.trade (s.tradeEnv config turn.2) active ctx imp exp)) := by
  obtain ⟨book, hbook, hok⟩ := h.book
  refine ⟨book, hbook, hok, ?_⟩
  by_cases hturn : turn.1 = k
  · obtain ⟨active, ctx, imp, exp, himp, hafter⟩ := h.seat.slotBook_self config turn.2 hbook
    have hmin := h.seat.minimumOf himp
    rw [h.limits_eq] at hmin
    subst hturn
    exact .inr ⟨rfl, active, ctx, imp, exp, himp, hmin, hafter⟩
  · left
    rw [h.seat.slotBook_other hturn]
    exact hbook

lemma RunOk.trade (h : RunOk k address i limits s) (turn : ℕ × ℤ) :
    RunOk k address i limits (s.trade config turn).1 := by
  refine ⟨h.seat.trade turn, ?_, ?_⟩
  · rw [importLimits_trade]
    exact h.limits_eq
  · obtain ⟨book, -, hok, hidle | ⟨-, active, ctx, imp, exp, -, hmin, hafter⟩⟩ :=
      h.trade_cases
    · exact ⟨book, hidle, hok⟩
    · exact ⟨_, hafter, fun htype => BookOk.trade hok h.seat.slice hmin htype⟩

def ImportBook (k i : ℕ) (P : SlotBook → Prop) (s : Optimizer) : Prop :=
  ∀ book, s.slotBook? k i = some book → book.slot.slotType ≠ .exp → P book

/-- When the EVSE has its turn, no node above it has sold less current than the EVSE bought: the
others below that node do not export more than they import. -/
def NetImportTurn (k : ℕ) (address : List ℕ) (i : ℕ) (s : Optimizer) (turn : ℕ × ℤ) : Prop :=
  turn.1 = k → ∀ book ∈ s.slotBook? k i, NetImports s address i book.sold

instance (k : ℕ) (address : List ℕ) (i : ℕ) (s : Optimizer) (turn : ℕ × ℤ) :
    Decidable (NetImportTurn k address i s turn) :=
  inferInstanceAs (Decidable (turn.1 = k →
    ∀ book ∈ s.slotBook? k i, NetImports s address i book.sold))

/-- When the EVSE has its turn, every phase count its broker may choose is asked for. -/
def PhasesFitTurn (mode : Switch1ph3phMode) (k : ℕ) (address : List ℕ) (i : ℕ) (s : Optimizer)
    (turn : ℕ × ℤ) : Prop :=
  turn.1 = k → ∀ imp ∈ s.importOffer? address i, PhasesFit mode (s.importLimits address i) imp

instance (mode : Switch1ph3phMode) (k : ℕ) (address : List ℕ) (i : ℕ) (s : Optimizer)
    (turn : ℕ × ℤ) : Decidable (PhasesFitTurn mode k address i s turn) :=
  inferInstanceAs (Decidable (turn.1 = k → ∀ imp ∈ s.importOffer? address i,
    PhasesFit mode (s.importLimits address i) imp))

lemma RunOk.importBook_trades {P : SlotBook → Prop} {C : Optimizer → ℕ × ℤ → Prop}
    (hstep : ∀ s turn, RunOk k address i limits s → ImportBook k i P s → C s turn →
      ImportBook k i P (s.trade config turn).1) (h : RunOk k address i limits s)
    (hstart : ImportBook k i P s) {turns : List (ℕ × ℤ)}
    (hC : AllSteps (fun s turn => (Optimizer.trade config s turn).1) C s turns) :
    ImportBook k i P (s.trades config turns) := by
  have hall : AllStates (fun s turn => (Optimizer.trade config s turn).1)
      (fun s => RunOk k address i limits s ∧ ImportBook k i P s) s turns := by
    refine allStates_of_allSteps ?_ ⟨h, hstart⟩ hC
    intro s turn h hC
    exact ⟨h.1.trade turn, hstep s turn h.1 h.2 hC⟩
  exact hall.last.2

end Turn

section Create

variable (config : EnergyManagerConfig) (startTime leapElapsed : ℤ) {request : EnergyFlowRequest}
  (contexts : Contexts) (created : String → ℤ) {address : List ℕ} {node : RequestNode}

lemma create_seat (hnode : (address, node) ∈ request.addressed) (hevse : node.nodeType = .evse)
    (hleaf : request.IsLeaf address) :
    ∃ k, Seat k address
      (create config startTime leapElapsed request contexts created) := by
  let g := Globals.init config startTime leapElapsed request
  let evses := request.addressed.filter fun x => x.2.nodeType = .evse
  have hbrokers : (create config startTime leapElapsed request contexts created).brokers =
      evses.map fun x =>
        { address := x.1, uuid := x.2.uuid, slots := replicate g.scheduleLength {} } := by
    simp only [create, Market.getListOfEvses, Market.create, Tree.addressed_map, filter_map,
      map_map]
    rfl
  have hnodup : (evses.map (·.1)).Nodup :=
    request.nodup_addressed.sublist (filter_sublist.map _)
  have hmem : (address, node) ∈ evses := mem_filter.2 ⟨hnode, by simpa using hevse⟩
  obtain ⟨k, hk⟩ := mem_iff_getElem?.1 hmem
  refine ⟨k, config.sliceAmpere_pos.le, ?_, ?_, ?_, ?_⟩
  · rw [hbrokers, getElem?_map, hk]
    exact ⟨_, rfl, rfl⟩
  · intro j b hb hpre
    rw [hbrokers, getElem?_map] at hb
    obtain ⟨x, hx, rfl⟩ := Option.map_eq_some_iff.1 hb
    have haddr : x.1 = address :=
      hleaf x (mem_filter.1 (mem_of_getElem? hx)).1 hpre
    have hj : j < (evses.map (·.1)).length := by
      rw [length_map]
      exact (List.getElem?_eq_some_iff.1 hx).1
    apply (getElem?_inj hj hnodup).1
    rw [getElem?_map, getElem?_map, hx, hk]
    exact congrArg some haddr
  · rw [hbrokers]
    intro b hb
    obtain ⟨x, -, rfl⟩ := mem_map.1 hb
    simp only [length_replicate]
    rfl
  · have hevery : request.Every fun _ => True := request.every_of_forall fun _ => trivial
    exact hevery.map fun n _ => create_sized g n

lemma create_runOk (hnode : (address, node) ∈ request.addressed) {k : ℕ}
    (hseat : Seat k address
      (create config startTime leapElapsed request contexts created))
    (hi : i < (Globals.init config startTime leapElapsed request).scheduleLength) :
    let s := create config startTime leapElapsed request contexts created
    s.slotBook? k i = some { slot := {}, sold := {} } ∧
      RunOk k address i (s.importLimits address i) s := by
  intro s
  have hbook : s.slotBook? k i = some { slot := {}, sold := {} } := by
    obtain ⟨b, hb, haddr⟩ := hseat.broker
    have hslots : b.slots[i]? = some {} := by
      obtain ⟨x, -, rfl⟩ := mem_map.1 (mem_of_getElem? hb)
      simp [hi]
    have hlabel : s.market.label? b.address =
        some (MarketNode.create (Globals.init config startTime leapElapsed request) node) := by
      rw [haddr]
      apply Tree.label?_of_mem_addressed
      change _ ∈ (request.map _).addressed
      rw [Tree.addressed_map]
      exact mem_map_of_mem hnode
    have hsold (g : Globals) (hi : i < g.scheduleLength) :
        g.emptyScheduleRes[i]? = some { timestamp := g.timestamps[i] } := by
      simp [Globals.emptyScheduleRes, getElem?_eq_getElem hi]
    have hb' : s.brokers[k]? = some b := hb
    simp only [slotBook?, hb', hslots, hlabel, Option.bind_some, MarketNode.create,
      hsold _ hi, Option.map_some]
  refine ⟨hbook, hseat, rfl, _, hbook, ?_⟩
  intro _
  exact ⟨fun _ => ⟨rfl, rfl⟩, by simp⟩

end Create

/-- An EVSE is off or above its minimum, after any turns of the brokers in any order, in each slot
in which it does not export. It also stays below the ampere limits on its path if the EVSEs next
to it do not export more than they import while it buys, and within the phase counts asked for
if all phase counts are that its broker may choose. -/
theorem evse_off_or_above_minimum (config : EnergyManagerConfig) (startTime leapElapsed : ℤ)
    (request : EnergyFlowRequest) (contexts : Contexts) (created : String → ℤ)
    (address : List ℕ) (node : RequestNode) (hnode : (address, node) ∈ request.addressed)
    (hevse : node.nodeType = .evse) (hleaf : request.IsLeaf address) (i : ℕ)
    (hi : i < (Globals.init config startTime leapElapsed request).scheduleLength) :
    let s := Optimizer.create config startTime leapElapsed request contexts created
    let mode := toSwitch1ph3phMode config.switch3ph1phWhileChargingMode
    let limits := s.importLimits address i
    let step := fun s turn => (Optimizer.trade config s turn).1
    (∃ k, (s.brokers[k]?).map (·.address) = some address ∧ ∀ turns,
      (s.trades config turns).importLimits address i = limits ∧
      ∃ book, (s.trades config turns).slotBook? k i = some book ∧
        (book.slot.slotType ≠ .exp →
          OffOrAboveMinimum limits book.sold ∧
          ((∀ l ∈ limits, ∀ m, l.acMaxCurrentA = some m → 0 ≤ m.value) →
            AllSteps step (NetImportTurn k address i) s turns → BelowLimits limits book.sold) ∧
          ((∃ l ∈ limits, ∃ m, l.acMinCurrentA = some m ∧ 0 < m.value) →
            AllSteps step (PhasesFitTurn mode k address i) s turns →
              PhasesWithin limits book.sold))) ∧
      ∀ clock rounds, ∃ turns, s.tradingRounds config clock rounds = s.trades config turns := by
  intro s mode limits step
  refine ⟨?_, fun clock rounds => tradingRounds_eq_trades config clock rounds s⟩
  obtain ⟨k, hseat⟩ :=
    create_seat config startTime leapElapsed contexts created hnode hevse hleaf
  obtain ⟨hempty, hrun⟩ := create_runOk config startTime leapElapsed contexts created hnode hseat hi
  refine ⟨k, ?_, ?_⟩
  · obtain ⟨b, hb, haddr⟩ := hseat.broker
    rw [hb, Option.map_some, haddr]
  · intro turns
    have hend : RunOk k address i limits (s.trades config turns) := by
      have hstep : ∀ s turn, RunOk k address i limits s → RunOk k address i limits (step s turn) :=
        fun s turn h => h.trade turn
      exact run_inv hstep hrun turns
    obtain ⟨book, hbook, hok⟩ := hend.book
    refine ⟨hend.limits_eq, book, hbook, ?_⟩
    intro htype
    refine ⟨(hok htype).offOrAboveMinimum, ?_, ?_⟩
    · intro hnn hsteps
      have hstart : ImportBook k i (fun book => BelowLimits limits book.sold) s := by
        intro b hb _
        cases Option.some.inj (hempty.symm.trans hb)
        exact hnn
      refine hrun.importBook_trades ?_ hstart hsteps book hbook htype
      intro s turn h hbelow hnet after hafter htype
      obtain ⟨book, hbook, -, hidle | ⟨hturn, active, ctx, imp, exp, himp, -, htrade⟩⟩ :=
        h.trade_cases
      · cases Option.some.inj (hafter.symm.trans hidle)
        exact hbelow _ hbook htype
      · cases Option.some.inj (hafter.symm.trans htrade)
        have hroom := h.seat.roomFor himp (hnet hturn book hbook)
        rw [h.limits_eq] at hroom
        exact BelowLimits.trade (hbelow book hbook) h.seat.slice hroom htype
    · intro hpos hsteps
      have hstart : ImportBook k i (BookPhases mode limits) s := by
        intro b hb _
        cases Option.some.inj (hempty.symm.trans hb)
        exact ⟨nofun, nofun⟩
      refine (hrun.importBook_trades ?_ hstart hsteps book hbook htype).sold
      intro s turn h hph hfit after hafter htype
      obtain ⟨book, hbook, -, hidle | ⟨hturn, active, ctx, imp, exp, himp, hmin, htrade⟩⟩ :=
        h.trade_cases
      · cases Option.some.inj (hafter.symm.trans hidle)
        exact hph _ hbook htype
      · cases Option.some.inj (hafter.symm.trans htrade)
        have hfit' := hfit hturn imp himp
        rw [h.limits_eq] at hfit'
        exact BookPhases.trade (hph book hbook) h.seat.slice hmin hpos hfit' htype

/-- Two EVSEs behind a fuse of 16 A: the first one exports 10 A, the second one imports. -/
def garage : EnergyFlowRequest :=
  .node
    { uuid := "garage"
      nodeType := .generic
      scheduleImport :=
        [{ timestamp := 0, limitsToRoot := { acMaxCurrentA := some ⟨16, "fuse"⟩ } }]
      scheduleExport :=
        [{ timestamp := 0, limitsToRoot := { acMaxCurrentA := some ⟨16, "fuse"⟩ } }] }
    [.node
      { uuid := "exporting"
        nodeType := .evse
        scheduleExport :=
          [{ timestamp := 0, limitsToRoot := { acMaxCurrentA := some ⟨10, "ev"⟩ } }] }
      [],
    .node
      { uuid := "importing"
        nodeType := .evse
        scheduleImport := [{
          timestamp := 0
          limitsToRoot := {
            acMaxCurrentA := some ⟨32, "cable"⟩
            acMinCurrentA := some ⟨6, "ev"⟩ } }] }
      []]

def threePhaseOnly : EnergyFlowRequest :=
  .node
    { uuid := "limit"
      nodeType := .generic
      scheduleImport :=
        [{ timestamp := 0, limitsToRoot := { totalPowerW := some ⟨2000, "grid"⟩ } }] }
    [.node
      { uuid := "evse"
        nodeType := .evse
        scheduleImport := [{
          timestamp := 0
          limitsToRoot := {
            acMaxCurrentA := some ⟨16, "cable"⟩
            acMinCurrentA := some ⟨6, "ev"⟩
            acMinPhaseCount := some ⟨3, "evse"⟩
            acMaxPhaseCount := some ⟨3, "evse"⟩ } }] }
      []]

/-- When the optimizer ends, 26 A are sold behind the fuse of 16 A, and the EVSE with three phases
only is to charge with one. -/
theorem evse_misses_its_limits :
    let config := { houseConfig with sliceAmpere := 10, sliceAmpere_pos := by decide }
    let s := (Optimizer.create config 0 0 garage (fun _ => none) fun _ => 0).tradingRounds config
      (fun _ _ => 0) maxNumberOfTradingRounds
    let switching := { houseConfig with switch3ph1phWhileChargingMode := "Both" }
    let s' :=
      (Optimizer.create switching 0 0 threePhaseOnly (fun _ => none) fun _ => 0).tradingRounds
        switching (fun _ _ => 0) maxNumberOfTradingRounds
    ((s.slotBook? 1 0).map (fun b => (b.slot.slotType, soldValue b.sold.acMaxCurrentA)) =
        some (.imp, 26) ∧
      (s.importLimits [1] 0).map (fun l => l.acMaxCurrentA.map (·.value)) = [some 16, some 32]) ∧
    (s'.slotBook? 0 0).map (fun b => (b.slot.slotType, b.sold.acMaxPhaseCount.map (·.value))) =
        some (.imp, some 1) ∧
      (s'.importLimits [0] 0).map (fun l => l.acMinPhaseCount.map (·.value)) = [none, some 3] := by
  decide +kernel

/-- In the house the EVSE buys its 6 A and then a slice, and stays in its limits. -/
theorem house_off_or_above_minimum :
    let s := Optimizer.create houseConfig 0 0 house (fun _ => none) fun _ => 0
    ∃ book, (s.trades houseConfig [(0, 0), (0, 0)]).slotBook? 0 0 = some book ∧
      book.slot.slotType = .imp ∧ soldValue book.sold.acMaxCurrentA = 13 / 2 ∧
      OffOrAboveMinimum (s.importLimits [0] 0) book.sold ∧
      BelowLimits (s.importLimits [0] 0) book.sold ∧
      PhasesWithin (s.importLimits [0] 0) book.sold := by
  intro s
  obtain ⟨⟨k, hk, hrun⟩, -⟩ := evse_off_or_above_minimum houseConfig 0 0 house (fun _ => none)
    (fun _ => 0) [0] _ (.tail _ (.head _)) rfl (by decide +kernel) 0 (by decide +kernel)
  obtain rfl : k = 0 := by
    have hlen : s.brokers.length = 1 := by decide +kernel
    obtain ⟨b, hb, -⟩ := Option.map_eq_some_iff.1 hk
    have hlt : k < s.brokers.length := (List.getElem?_eq_some_iff.1 hb).1
    omega
  obtain ⟨-, book, hbook, h⟩ := hrun [(0, 0), (0, 0)]
  have hvals : ∀ b ∈ (s.trades houseConfig [(0, 0), (0, 0)]).slotBook? 0 0,
      b.slot.slotType = .imp ∧ soldValue b.sold.acMaxCurrentA = 13 / 2 := by decide +kernel
  obtain ⟨htype, hsold⟩ := hvals book hbook
  have hnn : ∀ l ∈ s.importLimits [0] 0, ∀ m ∈ l.acMaxCurrentA, 0 ≤ m.value := by
    decide +kernel
  have hpos : ∃ l ∈ s.importLimits [0] 0, ∃ m ∈ l.acMinCurrentA, 0 < m.value := by
    decide +kernel
  obtain ⟨hmin, hbelow, hph⟩ := h (by rw [htype]; simp)
  exact ⟨book, hbook, htype, hsold, hmin, hbelow hnn (by decide +kernel),
    hph hpos (by decide +kernel)⟩

end Everest.Energy
