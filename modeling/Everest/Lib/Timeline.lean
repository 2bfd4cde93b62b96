import Mathlib.Data.Int.Order.Basic
import Mathlib.Data.List.Chain

/- A timeline is a list of values with start times. Each value is in force from its own start
until the next one starts, so that a timeline stands for a piecewise constant function of time. -/

namespace Everest.Timeline
open List

variable {P : Type*} (start : P → ℤ)

/-- The value in force at `t` is the last one that has started by then. -/
def inForce (values : List P) (t : ℤ) : Option P :=
  (values.filter fun p => start p ≤ t).getLast?

def Increasing (values : List P) : Prop :=
  values.Pairwise fun p q => start p < start q

/-- A timeline that has a value from `origin` on. -/
structure From (origin : ℤ) (values : List P) : Prop where
  head : values.head?.map start = some origin
  increasing : Increasing start values

variable {start} {values rest : List P} {p q : P} {s t : ℤ}

lemma inForce_concat :
    inForce start (values ++ [p]) t = if start p ≤ t then some p else inForce start values t := by
  unfold inForce
  split_ifs with hp <;> simp [filter_append, hp]

lemma inForce_cons_of_lt (hp : start p ≤ t) (hrest : ∀ r ∈ rest, t < start r) :
    inForce start (p :: rest) t = some p := by
  have hnone : rest.filter (fun r => start r ≤ t) = [] := by
    rw [filter_eq_nil_iff]
    intro r hr
    have := hrest r hr
    simp only [decide_eq_true_eq]
    omega
  simp [inForce, hp, hnone]

lemma inForce_cons_of_some (hq : inForce start rest t = some q) :
    inForce start (p :: rest) t = some q := by
  unfold inForce at hq ⊢
  rw [filter_cons]
  split_ifs with hp
  · rw [getLast?_cons, hq]
    rfl
  · exact hq

/-- The value in force splits the timeline into what was before and what has not started. -/
theorem inForce_append_cons {before : List P} (hp : start p ≤ t) (hrest : ∀ r ∈ rest, t < start r) :
    inForce start (before ++ p :: rest) t = some p := by
  induction before with
  | nil => exact inForce_cons_of_lt hp hrest
  | cons first before ih => exact inForce_cons_of_some ih

lemma Increasing.split (h : Increasing start (p :: rest)) (hp : start p ≤ t) :
    ∃ before q after, p :: rest = before ++ q :: after ∧ start q ≤ t ∧
      ∀ r ∈ after, t < start r := by
  induction rest generalizing p with
  | nil => exact ⟨[], p, [], rfl, hp, by simp⟩
  | cons r rest ih =>
    have hrest := List.Pairwise.of_cons h
    by_cases hr : start r ≤ t
    · obtain ⟨before, q, after, hsplit, hq, hafter⟩ := ih hrest hr
      exact ⟨p :: before, q, after, by rw [hsplit]; rfl, hq, hafter⟩
    · refine ⟨[], p, r :: rest, rfl, hp, forall_mem_cons.mpr ⟨by omega, fun x hx => ?_⟩⟩
      have := rel_of_pairwise_cons hrest hx
      omega

lemma mem_of_inForce (h : inForce start values t = some p) : p ∈ values ∧ start p ≤ t := by
  have hp := mem_of_getLast? h
  simpa using mem_filter.mp hp

lemma inForce_eq_none (h : inForce start values t = none) : ∀ p ∈ values, t < start p := by
  intro p hp
  rw [inForce, getLast?_eq_none_iff, filter_eq_nil_iff] at h
  simpa using h p hp

lemma From.ne_nil (h : From start s values) : values ≠ [] := by
  rintro rfl
  exact absurd h.head (by simp)

lemma From.head_eq (h : From start s (p :: rest)) : start p = s := by
  simpa using h.head

lemma From.le (h : From start s values) (hp : p ∈ values) : s ≤ start p := by
  cases values with
  | nil => cases hp
  | cons =>
    rcases mem_cons.mp hp with rfl | hrest
    · exact h.head_eq.ge
    · have hlt := rel_of_pairwise_cons h.increasing hrest
      have hs := h.head_eq
      omega

lemma From.exists_inForce (h : From start s values) (ht : s ≤ t) :
    ∃ p, inForce start values t = some p := by
  cases hin : inForce start values t with
  | some p => exact ⟨p, rfl⟩
  | none =>
    cases values with
    | nil => exact absurd rfl h.ne_nil
    | cons first =>
      have hlt := inForce_eq_none hin first mem_cons_self
      have hs := h.head_eq
      omega

lemma From.cons {origin : ℤ} (h : From start s rest) (hp : start p = origin) (hlt : origin < s) :
    From start origin (p :: rest) := by
  refine ⟨by simp [hp], pairwise_cons.mpr ⟨?_, h.increasing⟩⟩
  intro r hr
  have := h.le hr
  omega

lemma From.singleton (hp : start p = s) : From start s [p] :=
  ⟨by simp [hp], pairwise_singleton _ _⟩

lemma inForce_of_started (h : ∀ p ∈ values, start p ≤ t) :
    inForce start values t = values.getLast? := by
  have hall : values.filter (fun p => start p ≤ t) = values := by
    rw [filter_eq_self]
    simpa using h
  rw [inForce, hall]

variable {Q : Type*} {start' : Q → ℤ} {f : P → Q}

lemma inForce_map (hf : ∀ p, start' (f p) = start p) :
    inForce start' (values.map f) t = (inForce start values t).map f := by
  have hfilter : (fun q => decide (start' q ≤ t)) ∘ f = fun p => decide (start p ≤ t) := by
    funext p
    simp [hf]
  rw [inForce, filter_map, hfilter, getLast?_map, inForce]

lemma Increasing.map (hf : ∀ p, start' (f p) = start p) (h : Increasing start values) :
    Increasing start' (values.map f) := by
  refine pairwise_map.mpr (h.imp ?_)
  intro p q hpq
  rwa [hf, hf]

section Append

variable (differs : P → P → Bool)

/-- Append a value unless it repeats the last one. -/
def appendNew (values : List P) (p : P) : List P :=
  match values.getLast? with
  | none => values ++ [p]
  | some back => if differs p back then values ++ [p] else values

def compress (values : List P) : List P :=
  values.foldl (appendNew differs) []

variable {differs} {origin : ℤ}

lemma appendNew_cases (differs : P → P → Bool) (values : List P) (p : P) :
    appendNew differs values p = values ++ [p] ∨
      appendNew differs values p = values ∧
        ∃ back, values.getLast? = some back ∧ differs p back = false := by
  unfold appendNew
  split
  · exact .inl rfl
  · rename_i back hback
    split_ifs with hdiff
    · exact .inl rfl
    · exact .inr ⟨rfl, back, hback, by simpa using hdiff⟩

lemma inForce_appendNew_of_lt (ht : t < start p) :
    inForce start (appendNew differs values p) t = inForce start values t := by
  rcases appendNew_cases differs values p with happ | ⟨hkeep, -⟩
  · rw [happ, inForce_concat, if_neg (by omega)]
  · rw [hkeep]

lemma inForce_appendNew_of_le (hself : differs p p = false) (hbef : ∀ q ∈ values, start q ≤ t)
    (ht : start p ≤ t) :
    ∃ back, inForce start (appendNew differs values p) t = some back ∧
      differs p back = false := by
  rcases appendNew_cases differs values p with happ | ⟨hkeep, back, hback, hsame⟩
  · exact ⟨p, by rw [happ, inForce_concat, if_pos ht], hself⟩
  · exact ⟨back, by rw [hkeep, inForce_of_started hbef, hback], hsame⟩

lemma mem_appendNew (h : q ∈ appendNew differs values p) : q ∈ values ∨ q = p := by
  rcases appendNew_cases differs values p with happ | ⟨hkeep, -⟩
  · simpa [happ] using h
  · exact .inl (hkeep ▸ h)

lemma Increasing.appendNew (h : Increasing start values) (hlt : ∀ q ∈ values, start q < start p) :
    Increasing start (appendNew differs values p) := by
  rcases appendNew_cases differs values p with happ | ⟨hkeep, -⟩
  · rw [happ]
    exact pairwise_append.mpr ⟨h, pairwise_singleton _ _, by simpa using hlt⟩
  · exact hkeep.symm ▸ h

lemma head?_appendNew (hne : values ≠ []) : (appendNew differs values p).head? = values.head? := by
  rcases appendNew_cases differs values p with happ | ⟨hkeep, -⟩
  · rw [happ, head?_append_of_ne_nil _ hne]
  · rw [hkeep]

lemma From.appendNew (h : From start origin values) (hlt : ∀ q ∈ values, start q < start p) :
    From start origin (appendNew differs values p) :=
  ⟨(head?_appendNew h.ne_nil).symm ▸ h.head, h.increasing.appendNew hlt⟩

lemma compress_concat :
    compress differs (values ++ [p]) = appendNew differs (compress differs values) p := by
  simp [compress, foldl_append]

lemma mem_of_mem_compress (h : q ∈ compress differs values) : q ∈ values := by
  induction values using reverseRecOn with
  | nil => exact h
  | append_singleton init p ih =>
    rw [compress_concat] at h
    rcases mem_appendNew h with hinit | rfl
    · exact mem_append_left _ (ih hinit)
    · simp

lemma inForce_compress_append (hrest : ∀ r ∈ rest, t < start r) :
    inForce start (compress differs (values ++ rest)) t =
      inForce start (compress differs values) t := by
  induction rest using reverseRecOn with
  | nil => rw [append_nil]
  | append_singleton init last ih =>
    rw [← append_assoc, compress_concat, inForce_appendNew_of_lt (hrest last (by simp))]
    exact ih fun r hr => hrest r (mem_append_left _ hr)

end Append

section Lossless

variable {differs : P → P → Bool} {K V : Type*} {key : P → K} {view : P → V}
  (hdiff : ∀ p q, differs p q = false ↔ key p = key q)
include hdiff

lemma key_compress (values : List P) :
    (compress differs values).getLast?.map key = values.getLast?.map key := by
  induction values using reverseRecOn with
  | nil => rfl
  | append_singleton init last =>
    rw [compress_concat]
    rcases appendNew_cases differs (compress differs init) last with
      happ | ⟨hkeep, back, hback, hsame⟩
    · simp [happ]
    · simp [hkeep, hback, (hdiff last back).mp hsame]

lemma inForce_compress_map (hinc : Increasing start values)
    (hchain : values.IsChain fun p q => key p = key q → view p = view q) (t : ℤ) :
    (inForce start (compress differs values) t).map view = (inForce start values t).map view := by
  induction values using reverseRecOn with
  | nil => rfl
  | append_singleton init last ih =>
    obtain ⟨hinit, -, hlink⟩ := isChain_append.mp hchain
    obtain ⟨hbef, -, hlt⟩ := pairwise_append.mp hinc
    have hih := ih hbef hinit
    rw [inForce_concat, compress_concat]
    split_ifs with hlast
    · rcases appendNew_cases differs (compress differs init) last with
        happ | ⟨hkeep, back, hback, hsame⟩
      · rw [happ, inForce_concat, if_pos hlast]
      · -- the predecessor has the same key, and its values are in force
        have hstarted : inForce start init t = init.getLast? := by
          refine inForce_of_started fun p hp => ?_
          have := hlt p hp last (by simp)
          omega
        obtain ⟨prev, hprev, hkey⟩ : ∃ prev, init.getLast? = some prev ∧ key prev = key back := by
          simpa [hback] using (key_compress hdiff init).symm
        rw [hkeep, hih, hstarted, hprev]
        exact congrArg some
          (hlink prev hprev last rfl (hkey.trans ((hdiff last back).mp hsame).symm))
    · rw [inForce_appendNew_of_lt (by omega), hih]

lemma inForce_compress_converted {convert : Q → P} {q : Q}
    (hstart : ∀ q, start (convert q) = start' q) {values : List Q}
    (hinc : Increasing start' values) (h : inForce start' values t = some q) :
    ∃ p, inForce start (compress differs (values.map convert)) t = some p ∧
      key p = key (convert q) := by
  have hkey : (inForce start (compress differs (values.map convert)) t).map key = _ :=
    inForce_compress_map hdiff (hinc.map hstart)
      (pairwise_of_forall fun _ _ heq => heq).isChain t
  rw [inForce_map hstart, h] at hkey
  exact Option.map_eq_some_iff.mp hkey

/-- Leaving out values with the key of the value before loses nothing exactly if such neighbours
are the same. -/
theorem inForce_compress_map_iff (hinc : Increasing start values) :
    (∀ t, (inForce start (compress differs values) t).map view =
        (inForce start values t).map view) ↔
      values.IsChain fun p q => key p = key q → view p = view q := by
  refine ⟨fun h => ?_, inForce_compress_map hdiff hinc⟩
  rw [isChain_iff_forall_rel_of_append_cons_cons]
  intro p q before after heq hsame
  subst heq
  obtain ⟨-, hlater, hlt⟩ := pairwise_append.mp hinc
  obtain ⟨hp, hlater⟩ := pairwise_cons.mp hlater
  obtain ⟨hq, -⟩ := pairwise_cons.mp hlater
  have hpq := hp q (by simp)
  obtain ⟨back, hback, hkey⟩ : ∃ back, (compress differs (before ++ [p])).getLast? = some back ∧
      key back = key p := by
    simpa using key_compress hdiff (before ++ [p])
  have hno : differs q back = false := (hdiff q back).mpr (hkey.trans hsame).symm
  have hforce : ∀ t, start p ≤ t → (∀ r ∈ after, t < start r) →
      inForce start (compress differs (before ++ p :: q :: after)) t = some back := by
    intro t ht hafter
    have hdrop : compress differs (before ++ [p] ++ [q]) = compress differs (before ++ [p]) := by
      rw [compress_concat]
      simp [appendNew, hback, hno]
    have hsplit : before ++ p :: q :: after = before ++ [p] ++ [q] ++ after := by simp
    rw [hsplit, inForce_compress_append hafter, hdrop, inForce_of_started, hback]
    intro r hr
    rcases mem_append.mp (mem_of_mem_compress hr) with hold | hnew
    · exact (hlt r hold p (by simp)).le.trans ht
    · exact mem_singleton.mp hnew ▸ ht
  have hview := (h (start p)).trans (congrArg (Option.map view)
    (inForce_append_cons le_rfl hp))
  have hview' := h (start q)
  rw [hforce _ le_rfl fun r hr => hp r (mem_cons_of_mem _ hr)] at hview
  rw [hforce _ hpq.le hq, append_cons, inForce_append_cons le_rfl hq] at hview'
  exact Option.some.inj (hview.symm.trans hview')

end Lossless

end Everest.Timeline
