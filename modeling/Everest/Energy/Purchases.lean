import Mathlib.Tactic.FieldSimp
import Everest.Energy.Offers

namespace Everest.Energy

/-- A purchase inside an offer for one direction: its current and its power have the sign of the
direction and do not exceed the offer. -/
structure PurchaseWithin (imp : Bool) (offer : LimitsReq) (p : Purchase) : Prop where
  current : ∀ x, p.ampere = some x → 0 ≤ signed imp x.1.value ∧
    ∀ m, offer.acMaxCurrentA = some m → signed imp x.1.value ≤ m.value
  power : ∀ x, p.watt = some x → 0 ≤ signed imp x.value ∧
    ∀ m, offer.totalPowerW = some m → signed imp x.value ≤ m.value

lemma signed_signed (imp : Bool) (x : ℚ) : signed imp (signed imp x) = x := by
  cases imp <;> simp [signed]

lemma signed_mul (imp : Bool) (x y : ℚ) : signed imp (x * y) = signed imp x * y := by
  cases imp <;> simp [signed]

section Buy

variable {voltage ampere : ℚ} {offer : LimitsReq} {allowLess imp : Bool}
  {phases : IntegerWithSource} {p : Purchase}

/-- Where the power does not suffice for the rest of the current, the reduced current is exactly
what it pays for. -/
theorem reducedAmpere_bounds {m w : ℚ} (hm : 0 < m) (hw : 0 < w)
    (h : w < m * phases.value * voltage) :
    0 ≤ w / phases.value / voltage ∧ w / phases.value / voltage ≤ m ∧
      w / phases.value / voltage * phases.value * voltage = w := by
  have hpv : 0 < m * (phases.value * voltage) := by
    rw [← mul_assoc]
    exact hw.trans h
  have hpos : 0 < phases.value * voltage := (mul_pos_iff_of_pos_left hm).1 hpv
  have hne : (phases.value : ℚ) ≠ 0 := left_ne_zero_of_mul hpos.ne'
  have hne' : voltage ≠ 0 := right_ne_zero_of_mul hpos.ne'
  refine ⟨?_, ?_, by field_simp⟩
  · rw [div_div]
    exact div_nonneg hw.le hpos.le
  · rw [div_div, div_le_iff₀ hpos, ← mul_assoc]
    exact h.le

/-- A purchase of current is the amount asked for, or what is left where less is accepted. In
either case neither the current nor the power bought with it is more than the offer. -/
theorem buyAmpere_eq_some (h : buyAmpere voltage offer ampere allowLess imp phases = some p) :
    ∃ a src, p.ampere = some (⟨signed imp a, src⟩, phases) ∧
      (a = ampere ∨ allowLess = true ∧ 0 ≤ a) ∧
      (∀ m, offer.acMaxCurrentA = some m → a ≤ m.value) ∧
      ∀ x, p.watt = some x → x.value = signed imp a * phases.value * voltage ∧
        ∀ w, offer.totalPowerW = some w → a * phases.value * voltage ≤ w.value := by
  unfold buyAmpere at h
  cases hcur : offer.acMaxCurrentA with
  | none => simp [hcur] at h
  | some m =>
    have current {a : ℚ} (ha : a ≤ m.value) : ∀ m', some m = some m' → a ≤ m'.value := by
      rintro _ ⟨⟩
      exact ha
    have power {a : ℚ} {w x : NumberWithSource} (ha : a * phases.value * voltage ≤ w.value)
        (hx : x.value = signed imp a * phases.value * voltage) :
        ∀ x', some x = some x' → x'.value = signed imp a * phases.value * voltage ∧
          ∀ w', some w = some w' → a * phases.value * voltage ≤ w'.value := by
      rintro _ ⟨⟩
      refine ⟨hx, ?_⟩
      rintro _ ⟨⟩
      exact ha
    simp only [hcur] at h
    generalize offer.totalPowerW = limit at h ⊢
    cases hfull : buyAmpereFull voltage m limit ampere imp phases with
    | some =>
      simp only [hfull, Option.some.injEq] at h
      subst h
      unfold buyAmpereFull at hfull
      split_ifs at hfull with ham
      split at hfull
      · split_ifs at hfull with haw
        cases hfull
        exact ⟨ampere, _, rfl, .inl rfl, current ham, power haw rfl⟩
      · cases hfull
        exact ⟨ampere, _, rfl, .inl rfl, current ham, nofun⟩
    | none =>
      simp only [hfull] at h
      split_ifs at h with hless
      unfold buyAmpereLeftovers at h
      split at h
      · split_ifs at h with hw hmw
        · cases h
          exact ⟨m.value, _, rfl, .inr ⟨hless.1, hless.2.le⟩, current le_rfl, power hmw rfl⟩
        · cases h
          obtain ⟨hnn, hle, hall⟩ := reducedAmpere_bounds hless.2 hw (not_le.1 hmw)
          exact ⟨_, _, rfl, .inr ⟨hless.1, hnn⟩, current hle, power hall.le rfl⟩
      · cases h
        exact ⟨m.value, _, rfl, .inr ⟨hless.1, hless.2.le⟩, current le_rfl, nofun⟩

lemma buyAmpere_within (ha : 0 ≤ ampere) (hv : 0 ≤ voltage) (hp : 0 ≤ phases.value)
    (h : buyAmpere voltage offer ampere allowLess imp phases = some p) :
    PurchaseWithin imp offer p := by
  obtain ⟨a, src, hcur, hamount, ham, hpow⟩ := buyAmpere_eq_some h
  have ha0 : 0 ≤ a := by
    rcases hamount with rfl | ⟨-, h0⟩
    · exact ha
    · exact h0
  refine ⟨?_, ?_⟩
  · intro x hx
    cases hcur.symm.trans hx
    rw [signed_signed]
    exact ⟨ha0, ham⟩
  · intro x hx
    obtain ⟨hvalue, haw⟩ := hpow x hx
    have hp' : (0 : ℚ) ≤ phases.value := by exact_mod_cast hp
    rw [hvalue, mul_assoc, ← signed_mul, signed_signed, ← mul_assoc]
    exact ⟨mul_nonneg (mul_nonneg ha0 hp') hv, haw⟩

lemma buyWatt_within {watt : ℚ} (hw : 0 ≤ watt) (h : buyWatt offer watt allowLess imp = some p) :
    PurchaseWithin imp offer p := by
  have hwatt {a : ℚ} {src : String} {w : NumberWithSource} (hpow : offer.totalPowerW = some w)
      (ha : 0 ≤ a) (haw : a ≤ w.value) :
      PurchaseWithin imp offer { watt := some ⟨signed imp a, src⟩ } := by
    refine ⟨by simp, ?_⟩
    rintro x ⟨⟩
    rw [signed_signed]
    refine ⟨ha, ?_⟩
    intro w' hw'
    rw [← Option.some.inj (hpow.symm.trans hw')]
    exact haw
  unfold buyWatt at h
  cases hpow : offer.totalPowerW with
  | none => simp [hpow] at h
  | some =>
    simp only [hpow] at h
    split_ifs at h with hle hpos
    · cases h
      exact hwatt hpow hw hle
    · cases h
      exact hwatt hpow hpos.2.le le_rfl

end Buy

lemma PurchaseWithin.limitsWithin {imp exp : LimitsReq} {d : Bool} {p : Purchase}
    (h : PurchaseWithin d (if d then imp else exp) p) :
    LimitsWithin imp exp (applyPurchase (zeroTrade imp) p) := by
  have zero (l imp exp : Option NumberWithSource) :
      Within imp exp (l.map fun _ => ⟨0, ""⟩) := by
    cases l with
    | none => exact nofun
    | some =>
      rintro x ⟨⟩
      simp
  have amount {imp exp : Option NumberWithSource} {x : NumberWithSource}
      (h0 : 0 ≤ signed d x.value)
      (hm : ∀ m, (if d then imp else exp) = some m → signed d x.value ≤ m.value) :
      Within imp exp (some x) := by
    rintro y ⟨⟩
    cases d with
    | true =>
      simp only [signed, if_true] at h0 hm
      exact ⟨fun _ => hm, fun hneg => absurd hneg (not_lt.2 h0)⟩
    | false =>
      simp only [signed, Bool.false_eq_true, if_false] at h0 hm
      refine ⟨fun hpos => absurd hpos (by linarith), ?_⟩
      intro _ m hm'
      linarith [hm m hm']
  refine ⟨?_, ?_⟩
  · cases ha : p.ampere with
    | none => simpa [applyPurchase, zeroTrade, ha] using zero imp.acMaxCurrentA _ _
    | some x =>
      obtain ⟨h0, hm⟩ := h.current x ha
      have hx : Within imp.acMaxCurrentA exp.acMaxCurrentA (some x.1) := by
        apply amount h0
        intro m hm'
        apply hm
        cases d <;> exact hm'
      simpa [applyPurchase, ha] using hx
  · cases hw : p.watt with
    | none => simpa [applyPurchase, zeroTrade, hw] using zero imp.totalPowerW _ _
    | some x =>
      obtain ⟨h0, hm⟩ := h.power x hw
      have hx : Within imp.totalPowerW exp.totalPowerW (some x) := by
        apply amount h0
        intro m hm'
        apply hm
        cases d <;> exact hm'
      simpa [applyPurchase, hw] using hx

structure PhasesNonneg (l : LimitsReq) : Prop where
  maxCount : ∀ m, l.acMaxPhaseCount = some m → 0 ≤ m.value
  minCount : ∀ m, l.acMinPhaseCount = some m → 0 ≤ m.value
  active : ∀ n, l.acNumberOfActivePhases = some n → 0 ≤ n

def pickedPhases (offer : LimitsReq) : List ℤ :=
  [(minPhases offer).value, (maxPhases offer).value, activePhases offer]

lemma chooseNumberOfPhases_picked (env : TradeEnv) (active : Bool) (slot : BrokerSlot)
    (ctx : BrokerContext) (offer : LimitsReq) :
    (chooseNumberOfPhases env active slot ctx offer).1.value ∈ pickedPhases offer ∧
      (slot.firstTrade = true → env.config.switch1ph3phMode = .never →
        (chooseNumberOfPhases env active slot ctx offer).1.value = (maxPhases offer).value) := by
  have hmax : (maxPhases offer).value ∈ pickedPhases offer := by simp [pickedPhases]
  unfold chooseNumberOfPhases
  split
  · split
    · split_ifs with hmode
      · refine ⟨?_, fun _ hnever => absurd hnever hmode.1⟩
        dsimp only
        unfold timeHysteresis
        split_ifs
        · simp [pickedPhases]
        · unfold stickyPhases pickedPhases
          split_ifs
          · split <;> simp
          · unfold optimalPhases
            split_ifs <;> simp
      · exact ⟨hmax, fun _ _ => rfl⟩
    · exact ⟨hmax, fun _ _ => rfl⟩
  · rename_i hfirst
    exact ⟨by simp [pickedPhases], fun h => absurd h hfirst⟩

section Phases

variable {offer : LimitsReq} (h : PhasesNonneg offer)
include h

lemma activePhases_nonneg : 0 ≤ activePhases offer := by
  unfold activePhases
  cases ha : offer.acNumberOfActivePhases with
  | none => simp
  | some n => exact h.active n ha

lemma maxPhases_nonneg : 0 ≤ (maxPhases offer).value := by
  unfold maxPhases
  cases hm : offer.acMaxPhaseCount with
  | none => simp
  | some m => exact h.maxCount m hm

lemma minPhases_nonneg : 0 ≤ (minPhases offer).value := by
  unfold minPhases
  cases hm : offer.acMinPhaseCount with
  | none => simp
  | some m => exact h.minCount m hm

lemma PhasesNonneg.picked : ∀ v ∈ pickedPhases offer, 0 ≤ v := by
  simp only [pickedPhases, List.forall_mem_cons]
  exact ⟨minPhases_nonneg h, maxPhases_nonneg h, activePhases_nonneg h, nofun⟩

end Phases

structure EnvOk (env : TradeEnv) : Prop where
  voltage : 0 ≤ env.voltage
  ampere : 0 ≤ env.globals.sliceAmpere
  watt : 0 ≤ env.globals.sliceWatt

structure SlotTradeOk (imp exp : LimitsReq) (r : SlotTrade) : Prop where
  purchase : ∀ p, r.purchase = some p → ∃ d : Bool, PurchaseWithin d (if d then imp else exp) p
  phases : 0 ≤ r.slot.numPhases.value

lemma minCurrentWanted_nonneg {slot : BrokerSlot} {offer : LimitsReq} {m : ℚ}
    (hm : minCurrentWanted slot offer = some m) : 0 ≤ m := by
  unfold minCurrentWanted at hm
  split at hm
  · split_ifs at hm with hpos
    cases hm
    exact hpos.2.le
  · cases hm

section Slot

variable {env : TradeEnv} {active : Bool} {slot : BrokerSlot} {ctx : BrokerContext}
  {imp exp : LimitsReq} (he : EnvOk env) (hi : PhasesNonneg imp)
  (hs : 0 ≤ slot.numPhases.value)
include he

include hi hs in
lemma importAmpere_ok : SlotTradeOk imp exp (importAmpere env active slot ctx imp) := by
  have hch := hi.picked _ (chooseNumberOfPhases_picked env active slot ctx imp).1
  unfold importAmpere
  generalize chooseNumberOfPhases env active slot ctx imp = c at hch
  obtain ⟨phases, reached, ctx'⟩ := c
  cases hm : minCurrentWanted slot imp with
  | none =>
    refine ⟨?_, hs⟩
    intro p hp
    exact ⟨true, buyAmpere_within he.ampere he.voltage hs hp⟩
  | some =>
    have hm0 := minCurrentWanted_nonneg hm
    dsimp only
    split
    · rename_i q hq
      refine ⟨?_, hch⟩
      rintro p ⟨⟩
      exact ⟨true, buyAmpere_within hm0 he.voltage hch hq⟩
    · split_ifs
      · refine ⟨?_, by simp⟩
        intro p hp
        exact ⟨true, buyAmpere_within hm0 he.voltage (by simp) hp⟩
      · exact ⟨nofun, hch⟩

include hs in
lemma tradeExport_ok : SlotTradeOk imp exp (tradeExport env slot ctx exp) := by
  unfold tradeExport
  split_ifs
  · split
    · rename_i m hm
      refine ⟨?_, hs⟩
      intro p hp
      exact ⟨false,
        buyAmpere_within (minCurrentWanted_nonneg hm) he.voltage (by simp [fixedPhases]) hp⟩
    · refine ⟨?_, hs⟩
      intro p hp
      exact ⟨false, buyAmpere_within he.ampere he.voltage (by simp [fixedPhases]) hp⟩
  · exact ⟨fun p hp => ⟨false, buyWatt_within he.watt hp⟩, hs⟩

include hi hs in
lemma tradeSlot_ok : SlotTradeOk imp exp (tradeSlot env active slot ctx imp exp) := by
  unfold tradeSlot
  have hs' : 0 ≤ (initNumPhases imp
      { slot with slotType := decideSlotType imp exp slot.slotType }).numPhases.value := by
    unfold initNumPhases
    split_ifs
    · exact activePhases_nonneg hi
    · exact hs
  dsimp only
  split
  · unfold tradeImport
    split_ifs
    · exact importAmpere_ok he hi hs'
    · exact ⟨fun p hp => ⟨true, buyWatt_within he.watt hp⟩, hs'⟩
  · exact tradeExport_ok he hs'
  · exact ⟨nofun, hs'⟩

end Slot

section Trade

variable (env : TradeEnv) (active : ℕ → Bool)

lemma tradeSlots_length (i : ℕ) (slots : List BrokerSlot) (ctx : BrokerContext)
    (offers : List (ScheduleReqEntry × ScheduleReqEntry)) :
    (tradeSlots env active i slots ctx offers).trading.length = min slots.length offers.length ∧
      (tradeSlots env active i slots ctx offers).slots.length =
        min slots.length offers.length := by
  induction slots generalizing i ctx offers with
  | nil => simp [tradeSlots]
  | cons slot slots ih =>
    cases offers with
    | nil => simp [tradeSlots]
    | cons =>
      simp only [tradeSlots, List.length_cons, ih]
      omega

/-- What a trade puts into one slot: only the context comes from the slots before it. -/
theorem getElem?_tradeSlots (i : ℕ) (slots : List BrokerSlot) (ctx : BrokerContext)
    (offers : List (ScheduleReqEntry × ScheduleReqEntry)) {j : ℕ} {slot : BrokerSlot}
    {o : ScheduleReqEntry × ScheduleReqEntry} (hslot : slots[j]? = some slot)
    (ho : offers[j]? = some o) :
    ∃ ctx', let r := tradeSlot env (active (i + j)) slot ctx' o.1.limitsToRoot o.2.limitsToRoot
      (tradeSlots env active i slots ctx offers).trading[j]? = some
          { timestamp := o.1.timestamp
            limitsToRoot := r.purchase.elim (zeroTrade o.1.limitsToRoot)
              (applyPurchase (zeroTrade o.1.limitsToRoot)) } ∧
        (tradeSlots env active i slots ctx offers).slots[j]? =
          some (slotAfter r.slot r.purchase) := by
  induction slots generalizing i j ctx offers with
  | nil => simp at hslot
  | cons s slots ih =>
    cases offers with
    | nil => simp at ho
    | cons p offers =>
      obtain ⟨imp, exp⟩ := p
      cases j with
      | zero =>
        cases hslot
        cases ho
        exact ⟨ctx, rfl, rfl⟩
      | succ j =>
        obtain ⟨ctx', h⟩ := ih (i + 1)
          (tradeSlot env (active i) s ctx imp.limitsToRoot exp.limitsToRoot).context offers hslot ho
        rw [show i + 1 + j = i + (j + 1) by omega] at h
        exact ⟨ctx', h⟩

lemma tradeSlots_ok {env : TradeEnv} (he : EnvOk env) (i : ℕ) (slots : List BrokerSlot)
    (ctx : BrokerContext) (offers : List (ScheduleReqEntry × ScheduleReqEntry))
    (hs : ∀ s ∈ slots, 0 ≤ s.numPhases.value)
    (hi : ∀ o ∈ offers, PhasesNonneg o.1.limitsToRoot) :
    (∀ (j : ℕ) (t : ScheduleResEntry),
      (tradeSlots env active i slots ctx offers).trading[j]? = some t →
        ∃ o, offers[j]? = some o ∧
          LimitsWithin o.1.limitsToRoot o.2.limitsToRoot t.limitsToRoot) ∧
      ∀ s ∈ (tradeSlots env active i slots ctx offers).slots, 0 ≤ s.numPhases.value := by
  induction slots generalizing i ctx offers with
  | nil => simp [tradeSlots]
  | cons slot slots ih =>
    cases offers with
    | nil => simp [tradeSlots]
    | cons o offers =>
      obtain ⟨imp, exp⟩ := o
      have hr : SlotTradeOk imp.limitsToRoot exp.limitsToRoot
          (tradeSlot env (active i) slot ctx imp.limitsToRoot exp.limitsToRoot) :=
        tradeSlot_ok he (hi (imp, exp) List.mem_cons_self) (hs slot List.mem_cons_self)
      obtain ⟨htrading, hslots⟩ := ih (i + 1)
        (tradeSlot env (active i) slot ctx imp.limitsToRoot exp.limitsToRoot).context offers
        (fun s h => hs s (List.mem_cons_of_mem _ h)) (fun o h => hi o (List.mem_cons_of_mem _ h))
      simp only [tradeSlots]
      refine ⟨?_, ?_⟩
      · intro j t ht
        cases j with
        | succ j => exact htrading j t ht
        | zero =>
          refine ⟨(imp, exp), rfl, ?_⟩
          obtain rfl := Option.some.inj ht
          cases hp : (tradeSlot env (active i) slot ctx imp.limitsToRoot
              exp.limitsToRoot).purchase with
          | none => exact PurchaseWithin.limitsWithin (d := true) (p := {}) ⟨nofun, nofun⟩
          | some p =>
            obtain ⟨d, hd⟩ := hr.purchase p hp
            exact hd.limitsWithin
      · intro s hmem
        rcases List.mem_cons.1 hmem with rfl | hmem
        · unfold slotAfter
          split <;> exact hr.phases
        · exact hslots s hmem

end Trade

end Everest.Energy
