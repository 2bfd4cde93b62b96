import Mathlib.Data.List.Sort

namespace Everest
open List

variable {K V : Type*}

structure SortedMap (K V : Type*) [LT K] where
  entries : List (K × V)
  sorted : entries.Pairwise (fun a b => a.1 < b.1)

namespace SortedMap

instance [LT K] [DecidableEq K] [DecidableEq V] : DecidableEq (SortedMap K V) := fun m m' =>
  decidable_of_iff (m.entries = m'.entries) (by cases m; cases m'; simp)

instance [LT K] [Repr K] [Repr V] : Repr (SortedMap K V) := ⟨fun m => reprPrec m.entries⟩

@[ext] lemma ext_entries [LT K] {m m' : SortedMap K V} (h : m.entries = m'.entries) : m = m' := by
  cases m
  cases m'
  simpa using h

def empty [LT K] : SortedMap K V := ⟨[], .nil⟩

instance [LT K] : EmptyCollection (SortedMap K V) := ⟨empty⟩

def keys [LT K] (m : SortedMap K V) : List K := m.entries.map (·.1)

def size [LT K] (m : SortedMap K V) : ℕ := m.entries.length

variable [LinearOrder K]

def find? (m : SortedMap K V) (k : K) : Option V := m.entries.lookup k

def contains (m : SortedMap K V) (k : K) : Bool := (m.find? k).isSome

def insertEntry (k : K) (v : V) : List (K × V) → List (K × V)
  | [] => [(k, v)]
  | e :: entries =>
    if k < e.1 then (k, v) :: e :: entries
    else if k = e.1 then (k, v) :: entries
    else e :: insertEntry k v entries

variable {entries : List (K × V)} {k : K} {v : V}

lemma mem_insertEntry {e : K × V} (h : e ∈ insertEntry k v entries) :
    e = (k, v) ∨ e ∈ entries := by
  induction entries with
  | nil => simpa [insertEntry] using h
  | cons first entries ih =>
    unfold insertEntry at h
    split_ifs at h
    · simpa using h
    · rcases mem_cons.1 h with rfl | h
      · exact .inl rfl
      · exact .inr (mem_cons_of_mem _ h)
    · rcases mem_cons.1 h with rfl | h
      · exact .inr mem_cons_self
      · exact (ih h).imp_right (mem_cons_of_mem _)

lemma insertEntry_sorted (h : entries.Pairwise (fun a b => a.1 < b.1)) :
    (insertEntry k v entries).Pairwise (fun a b => a.1 < b.1) := by
  induction entries with
  | nil => simp [insertEntry]
  | cons first entries ih =>
    obtain ⟨hfirst, hrest⟩ := pairwise_cons.1 h
    unfold insertEntry
    split_ifs with hless heq
    · refine pairwise_cons.2 ⟨?_, h⟩
      intro e he
      rcases mem_cons.1 he with rfl | he
      · exact hless
      · exact hless.trans (hfirst e he)
    · exact pairwise_cons.2 ⟨fun e he => heq ▸ hfirst e he, hrest⟩
    · refine pairwise_cons.2 ⟨?_, ih hrest⟩
      intro e he
      rcases mem_insertEntry he with rfl | he
      · exact lt_of_le_of_ne (not_lt.1 hless) (Ne.symm heq)
      · exact hfirst e he

def insert (m : SortedMap K V) (k : K) (v : V) : SortedMap K V :=
  ⟨insertEntry k v m.entries, insertEntry_sorted m.sorted⟩

def erase (m : SortedMap K V) (k : K) : SortedMap K V :=
  ⟨m.entries.filter (·.1 ≠ k), m.sorted.filter _⟩

def filter (m : SortedMap K V) (keep : K → V → Bool) : SortedMap K V :=
  ⟨m.entries.filter fun e => keep e.1 e.2, m.sorted.filter _⟩

def map (m : SortedMap K V) (f : V → V) : SortedMap K V :=
  ⟨m.entries.map fun e => (e.1, f e.2), List.pairwise_map.2 m.sorted⟩

def modify (m : SortedMap K V) (k : K) (f : V → V) : SortedMap K V :=
  ⟨m.entries.map fun e => if e.1 = k then (e.1, f e.2) else e, by
    refine List.pairwise_map.2 (m.sorted.imp ?_)
    intro a b h
    split_ifs <;> exact h⟩

lemma mem_of_lookup (h : entries.lookup k = some v) :
    (k, v) ∈ entries := by
  induction entries with
  | nil => simp at h
  | cons e entries ih =>
    rw [lookup_cons] at h
    split at h
    · rename_i hk
      obtain rfl : k = e.1 := by simpa using hk
      obtain rfl := Option.some.inj h
      exact mem_cons_self
    · exact mem_cons_of_mem _ (ih h)

lemma lookup_of_mem (hs : entries.Pairwise (fun a b => a.1 < b.1)) (h : (k, v) ∈ entries) :
    entries.lookup k = some v := by
  induction entries with
  | nil => cases h
  | cons e entries ih =>
    obtain ⟨hfirst, hrest⟩ := pairwise_cons.1 hs
    rcases mem_cons.1 h with rfl | h
    · simp
    · have hne : (k == e.1) = false := by simpa using (hfirst _ h).ne'
      rw [lookup_cons, hne]
      exact ih hrest h

variable {m : SortedMap K V}

lemma find?_eq_some :
    m.find? k = some v ↔ (k, v) ∈ m.entries :=
  ⟨mem_of_lookup, lookup_of_mem m.sorted⟩

@[simp] lemma find?_empty : (∅ : SortedMap K V).find? k = none := rfl

lemma find?_filter {keep : K → V → Bool} :
    (m.filter keep).find? k = some v ↔ m.find? k = some v ∧ keep k v = true := by
  rw [find?_eq_some, find?_eq_some, filter, mem_filter]

lemma find?_erase {k' : K} : (m.erase k).find? k' = if k' = k then none else m.find? k' := by
  ext v
  rw [find?_eq_some, erase, mem_filter]
  split_ifs with hk
  · simp [hk]
  · simp [hk, find?_eq_some]

lemma contains_iff : m.contains k = true ↔ k ∈ m.keys := by
  rw [contains, Option.isSome_iff_exists, keys, mem_map]
  constructor
  · rintro ⟨v, hv⟩
    exact ⟨(k, v), find?_eq_some.1 hv, rfl⟩
  · rintro ⟨e, he, rfl⟩
    exact ⟨e.2, find?_eq_some.2 he⟩

lemma contains_eq_false : m.contains k = false ↔ k ∉ m.keys := by
  rw [← contains_iff, Bool.not_eq_true]

lemma lookup_map {f : V → V} :
    (entries.map fun e => (e.1, f e.2)).lookup k = (entries.lookup k).map f := by
  induction entries with
  | nil => rfl
  | cons e entries ih =>
    rw [map_cons, lookup_cons, lookup_cons, ih]
    by_cases hk : k = e.1
    · simp [hk]
    · rw [beq_false_of_ne hk]

lemma find?_map {f : V → V} : (m.map f).find? k = (m.find? k).map f :=
  lookup_map

variable {k' : K}

lemma lookup_modify {f : V → V} :
    (entries.map fun e => if e.1 = k then (e.1, f e.2) else e).lookup k' =
      (entries.lookup k').map fun v => if k' = k then f v else v := by
  induction entries with
  | nil => rfl
  | cons e entries ih =>
    have hkey : (if e.1 = k then (e.1, f e.2) else e).1 = e.1 := by split_ifs <;> rfl
    rw [map_cons, lookup_cons, lookup_cons, hkey, ih]
    by_cases hk : k' = e.1
    · subst hk
      simp only [BEq.rfl, Option.map_some]
      split_ifs <;> rfl
    · rw [beq_false_of_ne hk]

lemma find?_modify {f : V → V} :
    (m.modify k f).find? k' = (m.find? k').map fun v => if k' = k then f v else v :=
  lookup_modify

lemma elim_find?_modify {W : Type*} {f : V → V} {g : V → W} (hg : ∀ v, g (f v) = g v) (d : W) :
    ((m.modify k f).find? k').elim d g = (m.find? k').elim d g := by
  rw [find?_modify]
  cases m.find? k' with
  | none => rfl
  | some v =>
    rw [Option.map_some, Option.elim_some]
    split_ifs
    · exact hg v
    · rfl

lemma keys_modify {f : V → V} : (m.modify k f).keys = m.keys := by
  rw [keys, keys, modify, map_map]
  refine map_congr_left ?_
  intro e _
  by_cases h : e.1 = k
  · simp [h]
  · simp [h]

lemma keys_map {f : V → V} : (m.map f).keys = m.keys := by
  rw [keys, keys, map, map_map]
  rfl

lemma size_modify {f : V → V} : (m.modify k f).size = m.size :=
  length_map _

lemma keys_nodup (m : SortedMap K V) : m.keys.Nodup :=
  pairwise_map.2 (m.sorted.imp fun h => h.ne)

lemma size_le_of_keys_subset {W : Type*} {m' : SortedMap K W} (h : ∀ k ∈ m.keys, k ∈ m'.keys) :
    m.size ≤ m'.size := by
  have hlen := (subperm_of_subset m.keys_nodup h).length_le
  simpa [keys, size] using hlen

variable {k : K}

lemma mem_keys_erase : k' ∈ (m.erase k).keys ↔ k' ∈ m.keys ∧ k' ≠ k := by
  simp only [keys, erase, mem_map, mem_filter, decide_eq_true_eq]
  constructor
  · rintro ⟨e, ⟨he, hne⟩, rfl⟩
    exact ⟨⟨e, he, rfl⟩, hne⟩
  · rintro ⟨⟨e, he, rfl⟩, hne⟩
    exact ⟨e, ⟨he, hne⟩, rfl⟩

lemma insertEntry_perm (h : ∀ e ∈ entries, e.1 ≠ k) :
    (insertEntry k v entries).Perm ((k, v) :: entries) := by
  induction entries with
  | nil => exact .refl _
  | cons e entries ih =>
    obtain ⟨hne, hrest⟩ := forall_mem_cons.1 h
    unfold insertEntry
    split_ifs with hless heq
    · exact .refl _
    · exact absurd heq.symm hne
    · exact ((ih hrest).cons e).trans (.swap _ _ _)

lemma insertEntry_last (h : ∀ e ∈ entries, e.1 < k) :
    insertEntry k v entries = entries ++ [(k, v)] := by
  induction entries with
  | nil => rfl
  | cons e entries ih =>
    obtain ⟨hless, hrest⟩ := forall_mem_cons.1 h
    rw [insertEntry, if_neg hless.not_gt, if_neg hless.ne', ih hrest, cons_append]

lemma insert_perm (h : k ∉ m.keys) (v : V) :
    (m.insert k v).entries.Perm ((k, v) :: m.entries) :=
  insertEntry_perm fun _ he hk => h (mem_map.2 ⟨_, he, hk⟩)

lemma lookup_insertEntry :
    (insertEntry k v entries).lookup k' = if k' = k then some v else entries.lookup k' := by
  induction entries with
  | nil =>
    rw [insertEntry, lookup_cons]
    by_cases hk : k' = k
    · simp [hk]
    · simp [hk, beq_false_of_ne hk]
  | cons e entries ih =>
    unfold insertEntry
    by_cases hk : k' = k
    · subst hk
      rw [if_pos rfl] at ih ⊢
      split_ifs with hless heq
      · simp
      · simp
      · rw [lookup_cons, beq_false_of_ne heq, ih]
    · rw [if_neg hk] at ih ⊢
      split_ifs with hless heq
      · rw [lookup_cons, beq_false_of_ne hk]
      · rw [lookup_cons, lookup_cons, beq_false_of_ne hk, ← heq, beq_false_of_ne hk]
      · rw [lookup_cons, lookup_cons, ih]

lemma find?_insert : (m.insert k v).find? k' = if k' = k then some v else m.find? k' :=
  lookup_insertEntry

lemma mem_keys_insertEntry :
    k' ∈ (insertEntry k v entries).map (·.1) ↔ k' = k ∨ k' ∈ entries.map (·.1) := by
  induction entries with
  | nil => simp [insertEntry]
  | cons e entries ih =>
    unfold insertEntry
    split_ifs with hless heq
    · simp
    · simp [heq]
    · rw [map_cons, mem_cons, ih, map_cons, mem_cons]
      tauto

lemma mem_keys_insert : k' ∈ (m.insert k v).keys ↔ k' = k ∨ k' ∈ m.keys :=
  mem_keys_insertEntry

end SortedMap

end Everest
