import Mathlib.Tactic.Linarith
import Mathlib.Tactic.Ring
import Everest.Energy.Broker

namespace Everest.Energy

def soldValue (sold : Option NumberWithSource) : ℚ := sold.elim 0 (·.value)

/-- The net amount sold lies between minus the export limit and the import limit, where these
are set. -/
def Bounded (imp exp sold : Option NumberWithSource) : Prop :=
  (∀ m, imp = some m → soldValue sold ≤ m.value) ∧ (∀ m, exp = some m → -m.value ≤ soldValue sold)

def LimitsBounded (imp exp : LimitsReq) (sold : LimitsRes) : Prop :=
  Bounded imp.acMaxCurrentA exp.acMaxCurrentA sold.acMaxCurrentA ∧
    Bounded imp.totalPowerW exp.totalPowerW sold.totalPowerW

/-- A traded amount that an import offer and an export offer allow: positive amounts are
imports, negative ones exports. -/
def Within (imp exp traded : Option NumberWithSource) : Prop :=
  ∀ x, traded = some x →
    (0 < x.value → ∀ m, imp = some m → x.value ≤ m.value) ∧
      (x.value < 0 → ∀ m, exp = some m → -m.value ≤ x.value)

def LimitsWithin (imp exp : LimitsReq) (traded : LimitsRes) : Prop :=
  Within imp.acMaxCurrentA exp.acMaxCurrentA traded.acMaxCurrentA ∧
    Within imp.totalPowerW exp.totalPowerW traded.totalPowerW

def leftOf (addSold : Bool) (limit sold : Option NumberWithSource) : Option NumberWithSource :=
  limit.map fun a => { a with value := a.value + soldReducing addSold sold }

variable (sold : Option NumberWithSource)

lemma soldReducing_import :
    soldReducing false sold = -max (soldValue sold) 0 := by
  cases sold with
  | none => simp [soldReducing, soldValue]
  | some =>
    simp only [soldReducing, soldValue, Option.elim, Bool.false_eq_true, if_false]
    split_ifs with h
    · rw [max_eq_right (by linarith)]
      simp
    · rw [max_eq_left (by linarith)]
      ring

lemma soldReducing_export :
    soldReducing true sold = min (soldValue sold) 0 := by
  cases sold with
  | none => simp [soldReducing, soldValue]
  | some =>
    simp only [soldReducing, soldValue, Option.elim, if_true, one_mul]
    split_ifs with h
    · rw [min_eq_right h.le]
    · rw [min_eq_left (by linarith)]

lemma soldValue_addNumber (x : NumberWithSource) :
    soldValue (addNumber sold (some x)) = soldValue sold + x.value := by
  cases sold <;> simp [soldValue, addNumber, add_comm]

variable {imp exp traded : Option NumberWithSource} {a b start m : ScheduleReq} {i : ℕ}
    {y x : ScheduleReqEntry} {f : MarketNode → ScheduleReq} {path : List MarketNode}
    {addSold : Bool} {sold : ScheduleRes}

lemma Bounded.add {sold : Option NumberWithSource} (h : Bounded imp exp sold)
    (ht : Within (leftOf false imp sold) (leftOf true exp sold) traded) :
    Bounded imp exp (addNumber sold traded) := by
  cases traded with
  | none => exact h
  | some x =>
    obtain ⟨hpos, hneg⟩ := ht x rfl
    refine ⟨?_, ?_⟩
    · rintro m rfl
      rw [soldValue_addNumber]
      have hs := h.1 m rfl
      rcases le_or_gt x.value 0 with hx | hx
      · linarith
      · have hx' := hpos hx _ rfl
        simp only [soldReducing_import] at hx'
        linarith [le_max_left (soldValue sold) 0]
    · rintro m rfl
      rw [soldValue_addNumber]
      have hs := h.2 m rfl
      rcases le_or_gt 0 x.value with hx | hx
      · linarith
      · have hx' := hneg hx _ rfl
        simp only [soldReducing_export] at hx'
        linarith [min_le_left (soldValue sold) 0]

lemma LimitsBounded.add {imp exp : LimitsReq} {sold traded : LimitsRes}
    (h : LimitsBounded imp exp sold)
    (ht : LimitsWithin (availableLimits false imp sold) (availableLimits true exp sold) traded) :
    LimitsBounded imp exp (addLimits sold traded) :=
  ⟨h.1.add ht.1, h.2.add ht.2⟩

/-- Wherever `a` sets a limit, `o` sets one that is no higher. -/
def Tighter (a o : Option NumberWithSource) : Prop :=
  ∀ m, a = some m → ∃ m', o = some m' ∧ m'.value ≤ m.value

lemma tighter_applyOneLimit {a b : Option NumberWithSource} {m : NumberWithSource}
    (h : a = some m ∨ b = some m) :
    ∃ m', applyOneLimitIfSmaller a b = some m' ∧ m'.value ≤ m.value := by
  rcases h with rfl | rfl
  · cases b with
    | none => exact ⟨m, rfl, le_rfl⟩
    | some b =>
      simp only [applyOneLimitIfSmaller]
      split_ifs with hlt heq
      · exact ⟨b, rfl, hlt.le⟩
      · exact ⟨_, rfl, le_rfl⟩
      · exact ⟨m, rfl, le_rfl⟩
  · cases a with
    | none => exact ⟨m, rfl, le_rfl⟩
    | some a =>
      simp only [applyOneLimitIfSmaller]
      split_ifs with hlt heq
      · exact ⟨m, rfl, le_rfl⟩
      · exact ⟨_, rfl, heq.le⟩
      · exact ⟨a, rfl, not_lt.1 hlt⟩

lemma Within.loosen {imp' exp' : Option NumberWithSource} (hi : Tighter imp' imp)
    (he : Tighter exp' exp) (h : Within imp exp traded) : Within imp' exp' traded := by
  intro x hx
  refine ⟨?_, ?_⟩
  · intro hpos m hm
    obtain ⟨m', hm', hle⟩ := hi m hm
    exact ((h x hx).1 hpos m' hm').trans hle
  · intro hneg m hm
    obtain ⟨m', hm', hle⟩ := he m hm
    linarith [(h x hx).2 hneg m' hm']

structure OfferOf (a o : LimitsReq) : Prop where
  current : Tighter a.acMaxCurrentA o.acMaxCurrentA
  power : Tighter a.totalPowerW o.totalPowerW

lemma LimitsWithin.loosen {imp exp imp' exp' : LimitsReq} {traded : LimitsRes}
    (hi : OfferOf imp' imp) (he : OfferOf exp' exp) (h : LimitsWithin imp exp traded) :
    LimitsWithin imp' exp' traded :=
  ⟨h.1.loosen hi.current he.current, h.2.loosen hi.power he.power⟩

def ScheduleOfferOf (a o : ScheduleReq) : Prop :=
  a.length = o.length ∧ ∀ (i : ℕ) (x y : ScheduleReqEntry), a[i]? = some x → o[i]? = some y →
    OfferOf x.limitsToRoot y.limitsToRoot

lemma applyLimits_length (a b : ScheduleReq) : (applyLimits a b).length = a.length := by
  unfold applyLimits
  split_ifs with h
  · rfl
  · rw [not_not] at h
    simp [h]

lemma getElem?_applyLimits (h : a.length = b.length) (hy : (applyLimits a b)[i]? = some y) :
    ∃ x z, a[i]? = some x ∧ b[i]? = some z ∧
      y.limitsToRoot = applyLimitsEntry x.limitsToRoot z.limitsToRoot := by
  rw [applyLimits, if_neg (not_not.2 h), List.getElem?_zipWith] at hy
  cases ha : a[i]? with
  | none => simp [ha] at hy
  | some x =>
    cases hb : b[i]? with
    | none => simp [ha, hb] at hy
    | some z =>
      simp only [ha, hb, Option.some.injEq] at hy
      exact ⟨x, z, rfl, rfl, by rw [← hy]⟩

lemma foldl_applyLimits_length :
    (path.foldl (fun o n => applyLimits o (f n)) start).length = start.length := by
  induction path generalizing start with
  | nil => rfl
  | cons n path ih => exact ih.trans (applyLimits_length _ _)

/-- One slot of an offer is made of that slot of the schedules that went in. -/
theorem getElem?_foldl_applyLimits (hlen : ∀ n ∈ path, (f n).length = start.length)
    (hy : (path.foldl (fun o n => applyLimits o (f n)) start)[i]? = some y) :
    ∃ x, start[i]? = some x ∧ y.limitsToRoot = (path.filterMap fun n => (f n)[i]?).foldl
      (fun l e => applyLimitsEntry l e.limitsToRoot) x.limitsToRoot := by
  induction path generalizing start with
  | nil => exact ⟨y, hy, rfl⟩
  | cons n path ih =>
    have hrest : ∀ k ∈ path, (f k).length = (applyLimits start (f n)).length := by
      intro k hk
      rw [applyLimits_length]
      exact hlen k (List.mem_cons_of_mem _ hk)
    obtain ⟨x', hx', hfold⟩ := ih hrest hy
    obtain ⟨x, z, hx, hz, he⟩ := getElem?_applyLimits (hlen n List.mem_cons_self).symm hx'
    have hcons : ((n :: path).filterMap fun n => (f n)[i]?) =
        z :: path.filterMap fun n => (f n)[i]? := by
      simp [hz]
    exact ⟨x, hx, by rw [hfold, he, hcons, List.foldl_cons]⟩

section Best

variable {β : Type} {r : ℚ → ℚ → Prop} [IsPreorder ℚ r]
  {op : Option NumberWithSource → Option NumberWithSource → Option NumberWithSource}
  (hop : ∀ {a b m}, a = some m ∨ b = some m → ∃ m', op a b = some m' ∧ r m'.value m.value)
include hop

lemma foldl_better {f : β → Option NumberWithSource} {entries : List β}
    {start : Option NumberWithSource} {m : NumberWithSource}
    (h : start = some m ∨ ∃ e ∈ entries, f e = some m) :
    ∃ m', entries.foldl (fun l e => op l (f e)) start = some m' ∧ r m'.value m.value := by
  induction entries generalizing start m with
  | nil =>
    rcases h with h | ⟨e, he, -⟩
    · exact ⟨m, h, refl m.value⟩
    · cases he
  | cons e entries ih =>
    have hfirst (h : start = some m ∨ f e = some m) :
        ∃ m', entries.foldl (fun l e => op l (f e)) (op start (f e)) = some m' ∧
          r m'.value m.value := by
      obtain ⟨m', hm', hle⟩ := hop h
      obtain ⟨m'', hm'', hle'⟩ := ih (.inl hm')
      exact ⟨m'', hm'', IsTrans.trans _ _ _ hle' hle⟩
    rw [List.foldl_cons]
    rcases h with h | ⟨e', he', h⟩
    · exact hfirst (.inl h)
    · rcases List.mem_cons.1 he' with rfl | he'
      · exact hfirst (.inr h)
      · exact ih (.inr ⟨e', he', h⟩)

end Best

lemma foldl_applyLimitsEntry {entries : List ScheduleReqEntry} {start : LimitsReq} :
    let o := entries.foldl (fun l e => applyLimitsEntry l e.limitsToRoot) start
    o.acMaxCurrentA = entries.foldl (fun l e =>
        applyOneLimitIfSmaller l e.limitsToRoot.acMaxCurrentA) start.acMaxCurrentA ∧
      o.totalPowerW = entries.foldl (fun l e =>
        applyOneLimitIfSmaller l e.limitsToRoot.totalPowerW) start.totalPowerW ∧
      o.acMinCurrentA = entries.foldl (fun l e =>
        applyOneLimitIfGreater l e.limitsToRoot.acMinCurrentA) start.acMinCurrentA := by
  induction entries generalizing start with
  | nil => exact ⟨rfl, rfl, rfl⟩
  | cons e entries ih => exact ih

lemma foldl_applyLimits (hlen : ∀ n ∈ path, (f n).length = start.length) :
    ∀ n ∈ path, ScheduleOfferOf (f n) (path.foldl (fun o n => applyLimits o (f n)) start) := by
  intro n hn
  refine ⟨(hlen n hn).trans (foldl_applyLimits_length).symm, ?_⟩
  intro i x y hx hy
  obtain ⟨x', -, hy'⟩ := getElem?_foldl_applyLimits hlen hy
  have hmem : x ∈ path.filterMap fun n => (f n)[i]? := List.mem_filterMap.2 ⟨n, hn, hx⟩
  obtain ⟨hcur, hpower, -⟩ := foldl_applyLimitsEntry
  rw [hy']
  refine ⟨?_, ?_⟩
  · rw [hcur]
    intro m hm
    exact foldl_better (r := (· ≤ ·)) (f := (·.limitsToRoot.acMaxCurrentA)) tighter_applyOneLimit
      (.inr ⟨x, hmem, hm⟩)
  · rw [hpower]
    intro m hm
    exact foldl_better (r := (· ≤ ·)) (f := (·.limitsToRoot.totalPowerW)) tighter_applyOneLimit
      (.inr ⟨x, hmem, hm⟩)

lemma foldl_offer {o : Offer} : path.foldl (fun o n =>
      { importOffer := applyLimits o.importOffer n.getAvailableEnergyImport
        exportOffer := applyLimits o.exportOffer n.getAvailableEnergyExport }) o =
      { importOffer :=
          path.foldl (fun o n => applyLimits o n.getAvailableEnergyImport) o.importOffer
        exportOffer :=
          path.foldl (fun o n => applyLimits o n.getAvailableEnergyExport) o.exportOffer } := by
  induction path generalizing o with
  | nil => rfl
  | cons n path ih => exact ih

structure Sized (N : ℕ) (n : MarketNode) : Prop where
  length_import : n.importMaxAvailable.length = N
  length_export : n.exportMaxAvailable.length = N
  length_sold : n.soldRoot.length = N

lemma getElem?_getAvailableEnergy {s : ScheduleResEntry} (hx : m[i]? = some x)
    (hs : sold[i]? = some s) :
    (getAvailableEnergy addSold m sold)[i]? = some { x with
      limitsToRoot := availableLimits addSold x.limitsToRoot s.limitsToRoot } := by
  simp [getAvailableEnergy, List.getElem?_zipWith, hx, hs]

lemma offer_length (g : Globals) (path : List MarketNode) :
    (Offer.create g path).importOffer.length = g.scheduleLength ∧
      (Offer.create g path).exportOffer.length = g.scheduleLength := by
  rw [Offer.create, foldl_offer, foldl_applyLimits_length, foldl_applyLimits_length]
  simp [Globals.emptyScheduleReq, Globals.scheduleLength]

section Path

variable {g : Globals} {path : List MarketNode} (h : ∀ n ∈ path, Sized g.scheduleLength n)
include h

lemma availableImport_length : ∀ n ∈ path,
    n.getAvailableEnergyImport.length = g.emptyScheduleReq.length := by
  intro n hn
  obtain ⟨himport, -, hsold⟩ := h n hn
  simp [MarketNode.getAvailableEnergyImport, getAvailableEnergy, himport, hsold,
    Globals.emptyScheduleReq, Globals.scheduleLength]

lemma availableExport_length : ∀ n ∈ path,
    n.getAvailableEnergyExport.length = g.emptyScheduleReq.length := by
  intro n hn
  obtain ⟨-, hexport, hsold⟩ := h n hn
  simp [MarketNode.getAvailableEnergyExport, getAvailableEnergy, hexport, hsold,
    Globals.emptyScheduleReq, Globals.scheduleLength]

lemma offer_import : ∀ n ∈ path,
    ScheduleOfferOf n.getAvailableEnergyImport (Offer.create g path).importOffer := by
  rw [Offer.create, foldl_offer]
  exact foldl_applyLimits (availableImport_length h)

lemma offer_export : ∀ n ∈ path,
    ScheduleOfferOf n.getAvailableEnergyExport (Offer.create g path).exportOffer := by
  rw [Offer.create, foldl_offer]
  exact foldl_applyLimits (availableExport_length h)

end Path

end Everest.Energy
