import Mathlib.Data.List.Dedup
import Mathlib.Data.List.Lex
import Mathlib.Data.List.Permutation
import Mathlib.Data.List.Sort

/- The orders of a list, one after the other as `std::next_permutation` and
`std::prev_permutation` give them. -/

namespace Everest.Permutations
open List

section Enumeration

variable {β : Type*} {orders : β → List β} {r : β → β → Prop} [DecidableRel r]
  {next : β → Option β} {x y : β}

/-- `next` goes to the first of the orders that comes after the current one; all of them have
the same sorted list of orders. -/
structure Enumerates (orders : β → List β) (r : β → β → Prop) [DecidableRel r]
    (next : β → Option β) : Prop where
  sorted : ∀ x, (orders x).Pairwise r
  same : ∀ x, ∀ y ∈ orders x, orders y = orders x
  next_eq : ∀ x, next x = (orders x).find? (r x ·)

lemma filter_of_find? [IsTrans β r] [Std.Asymm r] {ys : List β} (hsorted : ys.Pairwise r)
    (h : ys.find? (r x ·) = some y) : ys.filter (r x ·) = y :: ys.filter (r y ·) := by
  obtain ⟨hxy, before, after, rfl, hbefore⟩ := find?_eq_some_iff_append.1 h
  have hxy : r x y := of_decide_eq_true hxy
  obtain ⟨-, hafter, hcross⟩ := pairwise_append.1 hsorted
  have hyz : ∀ z ∈ after, r y z := (pairwise_cons.1 hafter).1
  have hleft : before.filter (r x ·) = [] ∧ before.filter (r y ·) = [] := by
    constructor <;> refine filter_eq_nil_iff.2 fun z hz => ?_
    · simpa using hbefore z hz
    · simpa using asymm_of r (hcross z hz y mem_cons_self)
  have hright : after.filter (r x ·) = after ∧ after.filter (r y ·) = after := by
    constructor <;> refine filter_eq_self.2 fun z hz => ?_
    · simpa using trans_of r hxy (hyz z hz)
    · simpa using hyz z hz
  have hyy : ¬r y y := irrefl_of r y
  simp [filter_append, hleft, hright, hxy, hyy]

lemma Enumerates.filter_next [IsTrans β r] [Std.Asymm r] (henum : Enumerates orders r next)
    (h : next x = some y) :
    (orders x).filter (r x ·) = y :: (orders y).filter (r y ·) := by
  have hfind := (henum.next_eq x).symm.trans h
  rw [filter_of_find? (henum.sorted x) hfind, henum.same x y (mem_of_find?_eq_some hfind)]

/-- What a loop collects that goes on with `next` as long as there is one. -/
def collect [IsTrans β r] [Std.Asymm r] (next : β → Option β)
    (henum : Enumerates orders r next) (x : β) : List β :=
  match h : next x with
  | some y => y :: collect next henum y
  | none => []
termination_by ((orders x).filter (r x ·)).length
decreasing_by
  rw [henum.filter_next h]
  exact Nat.lt_succ_self _

theorem collect_eq_filter [IsTrans β r] [Std.Asymm r] (henum : Enumerates orders r next)
    (x : β) : collect next henum x = (orders x).filter (r x ·) := by
  fun_induction collect next henum x with
  | case1 x y h ih => rw [ih, henum.filter_next h]
  | case2 x h =>
    rw [henum.next_eq] at h
    exact (filter_eq_nil_iff.2 (find?_eq_none.1 h)).symm

end Enumeration

variable {α : Type*} [LinearOrder α] {l order : List α}

/-- All distinct orders, ascending. -/
def sortedOrders (l : List α) : List (List α) :=
  l.permutations'.dedup.insertionSort (· ≤ ·)

/-- The least greater order; `none` is the answer false. -/
def nextPermutation (l : List α) : Option (List α) := (sortedOrders l).find? (l < ·)

def prevPermutation (l : List α) : Option (List α) := (sortedOrders l).reverse.find? (l > ·)

lemma mem_sortedOrders : order ∈ sortedOrders l ↔ order.Perm l := by
  rw [sortedOrders, mem_insertionSort, mem_dedup, mem_permutations']

lemma sortedOrders_pairwise (l : List α) : (sortedOrders l).Pairwise (· < ·) := by
  have hnodup : (sortedOrders l).Nodup := (perm_insertionSort _ _).nodup_iff.2 (nodup_dedup _)
  have hle : (sortedOrders l).Pairwise (· ≤ ·) := pairwise_insertionSort _ _
  exact (hle.and hnodup).imp fun h => lt_of_le_of_ne h.1 h.2

lemma sortedOrders_eq (h : order ∈ sortedOrders l) : sortedOrders order = sortedOrders l := by
  have hperm := mem_sortedOrders.1 h
  have hsame : (sortedOrders order).Perm (sortedOrders l) := by
    refine (perm_ext_iff_of_nodup (sortedOrders_pairwise order).nodup
      (sortedOrders_pairwise l).nodup).2 fun o => ?_
    rw [mem_sortedOrders, mem_sortedOrders]
    exact ⟨fun ho => ho.trans hperm, fun ho => ho.trans hperm.symm⟩
  exact hsame.eq_of_pairwise (fun _ _ _ _ hab hba => absurd hba hab.asymm)
    (sortedOrders_pairwise order) (sortedOrders_pairwise l)

lemma nextPermutation_enumerates :
    Enumerates sortedOrders (· < ·) (nextPermutation : List α → _) :=
  ⟨sortedOrders_pairwise, fun _ _ => sortedOrders_eq, fun _ => rfl⟩

lemma prevPermutation_enumerates :
    Enumerates (reverse ∘ sortedOrders) (· > ·) (prevPermutation : List α → _) :=
  ⟨fun l => pairwise_reverse.2 (sortedOrders_pairwise l),
    fun _ _ h => congrArg reverse (sortedOrders_eq (mem_reverse.1 h)), fun _ => rfl⟩

end Everest.Permutations
