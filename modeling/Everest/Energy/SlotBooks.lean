import Everest.Energy.Purchases

namespace Everest.Energy
open Option

def phaseChoices (mode : Switch1ph3phMode) (offer : LimitsReq) : List ℤ :=
  (maxPhases offer).value ::
    if mode = .never then [] else [(minPhases offer).value, activePhases offer, 1]

def FitsPhases (limits : LimitsReq) (v : ℤ) : Prop :=
  (∀ lo ∈ limits.acMinPhaseCount, lo.value ≤ v) ∧ ∀ hi ∈ limits.acMaxPhaseCount, v ≤ hi.value

instance (limits : LimitsReq) (v : ℤ) : Decidable (FitsPhases limits v) :=
  inferInstanceAs (Decidable ((∀ lo ∈ limits.acMinPhaseCount, lo.value ≤ v) ∧
    ∀ hi ∈ limits.acMaxPhaseCount, v ≤ hi.value))

lemma switched_mem {mode : Switch1ph3phMode} (hmode : mode ≠ .never) {offer : LimitsReq} {v : ℤ}
    (hv : v ∈ [(minPhases offer).value, activePhases offer, 1]) : v ∈ phaseChoices mode offer := by
  rw [phaseChoices, if_neg hmode]
  exact List.mem_cons_of_mem _ hv

lemma chooseNumberOfPhases_mem (env : TradeEnv) (active : Bool) (slot : BrokerSlot)
    (ctx : BrokerContext) (offer : LimitsReq) (h : slot.firstTrade = true) :
    (chooseNumberOfPhases env active slot ctx offer).1.value ∈
      phaseChoices env.config.switch1ph3phMode offer := by
  obtain ⟨hpicked, hnever⟩ := chooseNumberOfPhases_picked env active slot ctx offer
  by_cases hmode : env.config.switch1ph3phMode = .never
  · rw [hnever h hmode]
    exact List.mem_cons_self
  · simp only [pickedPhases, List.mem_cons, List.not_mem_nil, or_false] at hpicked
    rcases hpicked with hv | hv | hv
    · exact switched_mem hmode (by simp [hv])
    · rw [hv]
      exact List.mem_cons_self
    · exact switched_mem hmode (by simp [hv])

structure Imported (env : TradeEnv) (imp : LimitsReq) (slot after : BrokerSlot)
    (x : NumberWithSource × IntegerWithSource) : Prop where
  offered : ∀ m, imp.acMaxCurrentA = some m → x.1.value ≤ m.value
  numPhases : after.numPhases = x.2
  first : slot.firstTrade = true → ∀ m, imp.acMinCurrentA = some m → 0 < m.value →
    x.1.value = m.value ∧ x.2.value ∈ phaseChoices env.config.switch1ph3phMode imp
  later : slot.firstTrade = false → 0 ≤ x.1.value ∧ x.2 = slot.numPhases

section Slot

variable (env : TradeEnv) (active : Bool) (slot : BrokerSlot) (ctx : BrokerContext)
  (imp exp : LimitsReq)

lemma importAmpere_slot :
    ∃ n, (importAmpere env active slot ctx imp).slot = { slot with numPhases := n } := by
  unfold importAmpere
  dsimp only
  split
  · split
    · exact ⟨_, rfl⟩
    · split_ifs <;> exact ⟨_, rfl⟩
  · exact ⟨slot.numPhases, rfl⟩

def openSlot : BrokerSlot :=
  initNumPhases imp { slot with slotType := decideSlotType imp exp slot.slotType }

lemma openSlot_eq : ∃ n, openSlot slot imp exp =
    { slot with slotType := decideSlotType imp exp slot.slotType, numPhases := n } := by
  unfold openSlot initNumPhases
  split_ifs <;> exact ⟨_, rfl⟩

lemma openSlot_numPhases : (openSlot slot imp exp).numPhases.value =
    if slot.numPhases.value = 0 then activePhases imp else slot.numPhases.value := by
  unfold openSlot initNumPhases
  split_ifs <;> rfl

lemma tradeSlot_eq : tradeSlot env active slot ctx imp exp =
    match decideSlotType imp exp slot.slotType with
    | .imp => tradeImport env active (openSlot slot imp exp) ctx imp
    | .exp => tradeExport env (openSlot slot imp exp) ctx exp
    | .undecided => { slot := openSlot slot imp exp, context := ctx } := by
  obtain ⟨n, hn⟩ := openSlot_eq slot imp exp
  have htype : (openSlot slot imp exp).slotType = decideSlotType imp exp slot.slotType := by
    rw [hn]
  rw [← htype]
  rfl

/-- A trade decides the type of the slot and its phases, and leaves the rest to `slotAfter`. -/
theorem tradeSlot_slot : ∃ n, (tradeSlot env active slot ctx imp exp).slot =
    { slot with slotType := decideSlotType imp exp slot.slotType, numPhases := n } := by
  obtain ⟨n, hn⟩ := openSlot_eq slot imp exp
  rw [tradeSlot_eq]
  split
  · unfold tradeImport
    split_ifs
    · obtain ⟨k, hk⟩ := importAmpere_slot env active (openSlot slot imp exp) ctx imp
      exact ⟨k, by rw [hk, hn]⟩
    · exact ⟨n, hn⟩
  · unfold tradeExport
    split_ifs
    · split <;> exact ⟨n, hn⟩
    · exact ⟨n, hn⟩
  · exact ⟨n, hn⟩

lemma tradeSlot_numPhases (h : slot.firstTrade = false) :
    (tradeSlot env active slot ctx imp exp).slot.numPhases = (openSlot slot imp exp).numPhases := by
  obtain ⟨n, hn⟩ := openSlot_eq slot imp exp
  have hwanted : minCurrentWanted (openSlot slot imp exp) imp = none := by
    unfold minCurrentWanted
    rw [hn]
    split <;> simp [h]
  rw [tradeSlot_eq]
  split
  · unfold tradeImport
    split_ifs
    · unfold importAmpere
      simp only [hwanted]
    · rfl
  · unfold tradeExport
    split_ifs
    · split <;> rfl
    · rfl
  · rfl

lemma importAmpere_imported (hslice : 0 ≤ env.globals.sliceAmpere) {p : Purchase}
    (hp : (importAmpere env active slot ctx imp).purchase = some p) :
    ∃ x, p.ampere = some x ∧
      Imported env imp slot (importAmpere env active slot ctx imp).slot x := by
  have hch := chooseNumberOfPhases_mem env active slot ctx imp
  unfold importAmpere at hp ⊢
  generalize chooseNumberOfPhases env active slot ctx imp = c at hch hp
  obtain ⟨phases, reached, ctx'⟩ := c
  cases hwanted : minCurrentWanted slot imp with
  | none =>
    -- no minimum to start with, or the minimum is bought already
    simp only [hwanted] at hp ⊢
    obtain ⟨a, src, hx, ha, hle, -⟩ := buyAmpere_eq_some hp
    refine ⟨_, hx, hle, rfl, ?_, ?_⟩
    · intro hfirst m hm hpos
      simp [minCurrentWanted, hm, hfirst, hpos] at hwanted
    · intro _
      refine ⟨?_, rfl⟩
      rcases ha with rfl | ⟨-, ha⟩
      · exact hslice
      · exact ha
  | some m =>
    obtain ⟨hfirst, hmin⟩ : slot.firstTrade = true ∧
        ∀ m', imp.acMinCurrentA = some m' → m'.value = m := by
      unfold minCurrentWanted at hwanted
      split at hwanted
      · rename_i m' hm'
        split_ifs at hwanted with hpos
        refine ⟨hpos.1, ?_⟩
        intro m'' hm''
        rw [← some.inj (hm'.symm.trans hm''), some.inj hwanted]
      · cases hwanted
    -- the minimum is bought in full, with the phases chosen or with a single one
    have hbuy {phases : IntegerWithSource} {after : BrokerSlot} {q : Purchase}
        (hq : buyAmpere env.voltage imp m false true phases = some q)
        (hafter : after.numPhases = phases)
        (hchoice : phases.value ∈ phaseChoices env.config.switch1ph3phMode imp) :
        ∃ x, q.ampere = some x ∧ Imported env imp slot after x := by
      obtain ⟨a, src, hx, ha, hle, -⟩ := buyAmpere_eq_some hq
      have ham : a = m := by simpa using ha
      subst ham
      refine ⟨_, hx, hle, hafter, ?_, fun h => absurd (h.symm.trans hfirst) (by simp)⟩
      intro _ m' hm' _
      exact ⟨(hmin m' hm').symm, hchoice⟩
    simp only [hwanted] at hp ⊢
    cases hq : buyAmpere env.voltage imp m false true phases with
    | some =>
      simp only [hq, some.injEq] at hp ⊢
      subst hp
      exact hbuy hq rfl (hch hfirst)
    | none =>
      simp only [hq] at hp ⊢
      split_ifs at hp ⊢ with hretry
      exact hbuy hp rfl (switched_mem hretry.1 (by simp))

lemma tradeSlot_imported (hslice : 0 ≤ env.globals.sliceAmpere)
    (htype : decideSlotType imp exp slot.slotType ≠ .exp) {p : Purchase}
    (hp : (tradeSlot env active slot ctx imp exp).purchase = some p)
    {x : NumberWithSource × IntegerWithSource} (hx : p.ampere = some x) :
    Imported env imp (openSlot slot imp exp) (tradeSlot env active slot ctx imp exp).slot x := by
  rw [tradeSlot_eq] at hp ⊢
  cases hd : decideSlotType imp exp slot.slotType with
  | imp =>
    simp only [hd] at hp ⊢
    unfold tradeImport at hp ⊢
    split_ifs at hp ⊢
    · obtain ⟨y, hy, h⟩ :=
        importAmpere_imported env active (openSlot slot imp exp) ctx imp hslice hp
      rw [← some.inj (hx.symm.trans hy)] at h
      exact h
    · unfold buyWatt at hp
      split at hp
      · cases hp
      · split_ifs at hp <;> cases hp <;> cases hx
  | exp => exact absurd hd htype
  | undecided => simp [hd] at hp

end Slot

/-- One slot of an EVSE: what its broker remembers of it and what is sold there. -/
structure SlotBook where
  slot : BrokerSlot
  sold : LimitsRes
  deriving DecidableEq, Repr

def booked (imp : LimitsReq) (p : Option Purchase) : LimitsRes :=
  p.elim (zeroTrade imp) (applyPurchase (zeroTrade imp))

def SlotBook.trade (env : TradeEnv) (active : Bool) (ctx : BrokerContext) (imp exp : LimitsReq)
    (l : SlotBook) : SlotBook :=
  let r := tradeSlot env active l.slot ctx imp exp
  { slot := slotAfter r.slot r.purchase
    sold := addLimits l.sold (booked imp r.purchase) }

variable (limits : List LimitsReq) (sold : LimitsRes)

/-- The current sold is zero, or at least every minimum asked for. -/
def OffOrAboveMinimum : Prop :=
  ∀ l ∈ limits, ∀ m, l.acMinCurrentA = some m → 0 < m.value →
    soldValue sold.acMaxCurrentA = 0 ∨ m.value ≤ soldValue sold.acMaxCurrentA

def BelowLimits : Prop :=
  ∀ l ∈ limits, ∀ m, l.acMaxCurrentA = some m → soldValue sold.acMaxCurrentA ≤ m.value

def PhasesWithin : Prop :=
  ∀ p, sold.acMaxPhaseCount = some p → ∀ l ∈ limits, FitsPhases l p.value

/-- An offer asks for at least the minimum current of every request it was made from. -/
def MinimumOf (offer : LimitsReq) : Prop :=
  ∀ l ∈ limits, ∀ m, l.acMinCurrentA = some m →
    ∃ m', offer.acMinCurrentA = some m' ∧ m.value ≤ m'.value

structure BookOk (limits : List LimitsReq) (b : SlotBook) : Prop where
  nothing : b.slot.firstTrade = true →
    soldValue b.sold.acMaxCurrentA = 0 ∧ b.sold.acMaxPhaseCount = none
  minimum : b.slot.firstTrade = false → ∀ l ∈ limits, ∀ m, l.acMinCurrentA = some m →
    0 < m.value → m.value ≤ soldValue b.sold.acMaxCurrentA

lemma BookOk.offOrAboveMinimum {limits : List LimitsReq} {b : SlotBook} (h : BookOk limits b) :
    OffOrAboveMinimum limits b.sold := by
  intro l hl m hm hpos
  cases hfirst : b.slot.firstTrade with
  | true => exact .inl (h.nothing hfirst).1
  | false => exact .inr (h.minimum hfirst l hl m hm hpos)

section Book

variable {env : TradeEnv} {active : Bool} {ctx : BrokerContext} {imp exp : LimitsReq}
  {limits : List LimitsReq} {b : SlotBook} {p : Option Purchase}

lemma booked_none (h : p.bind (·.ampere) = none) (sold : LimitsRes) :
    soldValue (addLimits sold (booked imp p)).acMaxCurrentA =
        soldValue sold.acMaxCurrentA ∧
      (addLimits sold (booked imp p)).acMaxPhaseCount =
        sold.acMaxPhaseCount := by
  have hzero : soldValue (addNumber sold.acMaxCurrentA (imp.acMaxCurrentA.map fun _ => ⟨0, ""⟩)) =
      soldValue sold.acMaxCurrentA := by
    cases imp.acMaxCurrentA with
    | none => rfl
    | some => simp [soldValue_addNumber]
  have hph : addPhaseCount sold.acMaxPhaseCount none = sold.acMaxPhaseCount := by
    cases sold.acMaxPhaseCount <;> rfl
  cases p with
  | none => exact ⟨hzero, hph⟩
  | some p =>
    have ha : p.ampere = none := h
    simp only [booked, Option.elim, addLimits, applyPurchase, zeroTrade, ha, Option.map_none,
      none_or]
    exact ⟨hzero, hph⟩

variable {x : NumberWithSource × IntegerWithSource}

lemma slotAfter_none (h : p.bind (·.ampere) = none) (slot : BrokerSlot) :
    slotAfter slot p = slot := by
  cases p with
  | none => rfl
  | some p =>
    have ha : p.ampere = none := h
    obtain ⟨ampere, watt⟩ := p
    cases ha
    rfl

lemma slotAfter_some (h : p.bind (·.ampere) = some x) (slot : BrokerSlot) :
    slotAfter slot p = { slot with firstTrade := false } := by
  obtain ⟨⟨ampere, watt⟩, rfl, ha⟩ := bind_eq_some_iff.1 h
  cases ha
  rfl

/-- What a trade does to the books of a slot that it does not use for export: nothing, or one
import. -/
theorem SlotBook.trade_cases {b' : SlotBook} (h : b.trade env active ctx imp exp = b')
    (hslice : 0 ≤ env.globals.sliceAmpere) (htype : b'.slot.slotType ≠ .exp) :
    (b.slot.slotType ≠ .exp ∧
        (b.slot.firstTrade = false → b'.slot.numPhases = (openSlot b.slot imp exp).numPhases)) ∧
      (b'.slot.firstTrade = b.slot.firstTrade ∧
          soldValue b'.sold.acMaxCurrentA = soldValue b.sold.acMaxCurrentA ∧
          b'.sold.acMaxPhaseCount = b.sold.acMaxPhaseCount ∨
        ∃ x, Imported env imp (openSlot b.slot imp exp) b'.slot x ∧
          b'.slot.firstTrade = false ∧
          soldValue b'.sold.acMaxCurrentA = soldValue b.sold.acMaxCurrentA + x.1.value ∧
          b'.sold.acMaxPhaseCount = addPhaseCount b.sold.acMaxPhaseCount (some x.2)) := by
  subst h
  have hph := tradeSlot_numPhases env active b.slot ctx imp exp
  have himported := @tradeSlot_imported env active b.slot ctx imp exp hslice
  obtain ⟨n, hn⟩ := tradeSlot_slot env active b.slot ctx imp exp
  have hkeep (h : decideSlotType imp exp b.slot.slotType ≠ .exp) : b.slot.slotType ≠ .exp := by
    intro hexp
    exact h (by simp [decideSlotType, hexp])
  unfold SlotBook.trade at htype ⊢
  generalize tradeSlot env active b.slot ctx imp exp = r at htype hph himported hn
  dsimp only at htype ⊢
  cases hbought : r.purchase.bind (·.ampere) with
  | none =>
    rw [slotAfter_none hbought] at htype ⊢
    have hd : decideSlotType imp exp b.slot.slotType ≠ .exp := by simpa [hn] using htype
    refine ⟨⟨hkeep hd, hph⟩, .inl ⟨by rw [hn], booked_none hbought _⟩⟩
  | some x =>
    rw [slotAfter_some hbought] at htype ⊢
    have hd : decideSlotType imp exp b.slot.slotType ≠ .exp := by simpa [hn] using htype
    obtain ⟨p, hp, hx⟩ := bind_eq_some_iff.1 hbought
    have h := himported hd hp hx
    refine ⟨⟨hkeep hd, hph⟩, .inr ⟨x, ⟨h.offered, h.numPhases, h.first, h.later⟩, rfl, ?_⟩⟩
    simp only [booked, hp, Option.elim, addLimits, applyPurchase, hx, Option.map_some,
      some_or, soldValue_addNumber, and_self]

lemma BookOk.trade (h : b.slot.slotType ≠ .exp → BookOk limits b)
    (hslice : 0 ≤ env.globals.sliceAmpere) (hmin : MinimumOf limits imp)
    (htype : (b.trade env active ctx imp exp).slot.slotType ≠ .exp) :
    BookOk limits (b.trade env active ctx imp exp) := by
  obtain ⟨⟨hbef, -⟩, hcases⟩ := SlotBook.trade_cases rfl hslice htype
  have hb := h hbef
  obtain ⟨n, hopen⟩ := openSlot_eq b.slot imp exp
  rcases hcases with ⟨hfirst, hsold, hph⟩ | ⟨x, himp, hfirst, hsold, -⟩
  · refine ⟨?_, ?_⟩
    · rw [hfirst, hsold, hph]
      exact hb.nothing
    · rw [hfirst, hsold]
      exact hb.minimum
  · refine ⟨fun h => absurd (h.symm.trans hfirst) (by simp), ?_⟩
    intro _ l hl m hm hpos
    rw [hsold]
    cases hold : b.slot.firstTrade with
    | true =>
      obtain ⟨m', hm', hle⟩ := hmin l hl m hm
      have hx := (himp.first (by rw [hopen]; exact hold) m' hm' (hpos.trans_le hle)).1
      rw [(hb.nothing hold).1, hx, zero_add]
      exact hle
    | false =>
      have hx := (himp.later (by rw [hopen]; exact hold)).1
      linarith [hb.minimum hold l hl m hm hpos]

structure PhasesFit (mode : Switch1ph3phMode) (limits : List LimitsReq) (offer : LimitsReq) :
    Prop where
  choice : ∀ v ∈ phaseChoices mode offer, ∀ l ∈ limits, FitsPhases l v
  some_phase : (maxPhases offer).value ≠ 0

instance (mode : Switch1ph3phMode) (limits : List LimitsReq) (offer : LimitsReq) :
    Decidable (PhasesFit mode limits offer) :=
  decidable_of_iff ((∀ v ∈ phaseChoices mode offer, ∀ l ∈ limits, FitsPhases l v) ∧
    (maxPhases offer).value ≠ 0) ⟨fun h => ⟨h.1, h.2⟩, fun h => ⟨h.choice, h.some_phase⟩⟩

structure BookPhases (mode : Switch1ph3phMode) (limits : List LimitsReq) (b : SlotBook) :
    Prop where
  sold : PhasesWithin limits b.sold
  numPhases : b.slot.firstTrade = false → (∀ l ∈ limits, FitsPhases l b.slot.numPhases.value) ∧
    (b.slot.numPhases.value = 0 → mode ≠ .never)

lemma BookPhases.trade
    (h : b.slot.slotType ≠ .exp → BookPhases env.config.switch1ph3phMode limits b)
    (hslice : 0 ≤ env.globals.sliceAmpere) (hmin : MinimumOf limits imp)
    (hpos : ∃ l ∈ limits, ∃ m, l.acMinCurrentA = some m ∧ 0 < m.value)
    (hfit : PhasesFit env.config.switch1ph3phMode limits imp)
    (htype : (b.trade env active ctx imp exp).slot.slotType ≠ .exp) :
    BookPhases env.config.switch1ph3phMode limits (b.trade env active ctx imp exp) := by
  obtain ⟨⟨hbef, hkeep⟩, hcases⟩ := SlotBook.trade_cases rfl hslice htype
  have hb := h hbef
  obtain ⟨n, hopen⟩ := openSlot_eq b.slot imp exp
  have hold (hfirst : b.slot.firstTrade = false) :
      (∀ l ∈ limits, FitsPhases l (openSlot b.slot imp exp).numPhases.value) ∧
        ((openSlot b.slot imp exp).numPhases.value = 0 →
          env.config.switch1ph3phMode ≠ .never) := by
    obtain ⟨hfits, hzero⟩ := hb.numPhases hfirst
    rw [openSlot_numPhases]
    split_ifs with hz
    · have hmode := hzero hz
      exact ⟨hfit.choice _ (switched_mem hmode (by simp)), fun _ => hmode⟩
    · exact ⟨hfits, hzero⟩
  rcases hcases with ⟨hfirst, -, hph⟩ | ⟨x, himp, -, -, hph⟩
  · refine ⟨?_, ?_⟩
    · intro p hp
      exact hb.sold p (hph ▸ hp)
    · intro hlater
      rw [hfirst] at hlater
      rw [hkeep hlater]
      exact hold hlater
  · have hx : (∀ l ∈ limits, FitsPhases l x.2.value) ∧
        (x.2.value = 0 → env.config.switch1ph3phMode ≠ .never) := by
      cases hfirst : b.slot.firstTrade with
      | true =>
        obtain ⟨l, hl, m, hm, hm0⟩ := hpos
        obtain ⟨m', hm', hle⟩ := hmin l hl m hm
        have hchoice := (himp.first (by rw [hopen]; exact hfirst) m' hm' (hm0.trans_le hle)).2
        refine ⟨hfit.choice _ hchoice, ?_⟩
        intro hz hmode
        rw [hmode, phaseChoices, if_pos rfl, List.mem_singleton] at hchoice
        exact hfit.some_phase (hchoice.symm.trans hz)
      | false =>
        rw [(himp.later (by rw [hopen]; exact hfirst)).2]
        exact hold hfirst
    refine ⟨?_, ?_⟩
    · intro p hp l hl
      rw [hph] at hp
      cases hsold : b.sold.acMaxPhaseCount with
      | none =>
        rw [hsold] at hp
        cases hp
        exact hx.1 l hl
      | some =>
        rw [hsold] at hp
        simp only [addPhaseCount] at hp
        split_ifs at hp
        · cases hp
          exact hx.1 l hl
        · cases hp
          exact hb.sold _ hsold l hl
    · intro _
      rw [himp.numPhases]
      exact hx

/-- There is room for the whole offer below every limit. -/
def RoomFor (limits : List LimitsReq) (sold : LimitsRes) (offer : LimitsReq) : Prop :=
  ∀ l ∈ limits, ∀ m, l.acMaxCurrentA = some m →
    ∃ m', offer.acMaxCurrentA = some m' ∧ soldValue sold.acMaxCurrentA + m'.value ≤ m.value

lemma BelowLimits.trade (h : b.slot.slotType ≠ .exp → BelowLimits limits b.sold)
    (hslice : 0 ≤ env.globals.sliceAmpere) (hroom : RoomFor limits b.sold imp)
    (htype : (b.trade env active ctx imp exp).slot.slotType ≠ .exp) :
    BelowLimits limits (b.trade env active ctx imp exp).sold := by
  obtain ⟨⟨hbef, -⟩, hcases⟩ := SlotBook.trade_cases rfl hslice htype
  intro l hl m hm
  rcases hcases with ⟨-, hsold, -⟩ | ⟨x, himp, -, hsold, -⟩
  · rw [hsold]
    exact h hbef l hl m hm
  · obtain ⟨m', hm', hle⟩ := hroom l hl m hm
    linarith [himp.offered m' hm']

end Book

end Everest.Energy
