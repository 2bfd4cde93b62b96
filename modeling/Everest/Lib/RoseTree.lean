import Mathlib.Data.List.Nodup

/- Finitely branching trees whose nodes are addressed by the list of child positions on the
way down from the root. -/

namespace Everest
open List

inductive Tree (α : Type*) where
  | node (label : α) (children : List (Tree α))

namespace Tree

variable {α β : Type*}

mutual

def map (f : α → β) : Tree α → Tree β
  | node a children => node (f a) (mapForest f children)

def mapForest (f : α → β) : List (Tree α) → List (Tree β)
  | [] => []
  | t :: ts => t.map f :: mapForest f ts

end

mutual

/-- The nodes in preorder, each with its address. -/
def addressed : Tree α → List (List ℕ × α)
  | node a children => ([], a) :: addressedForest 0 children

def addressedForest (i : ℕ) : List (Tree α) → List (List ℕ × α)
  | [] => []
  | t :: ts => t.addressed.map (fun x => (i :: x.1, x.2)) ++ addressedForest (i + 1) ts

end

def path : List ℕ → Tree α → List α
  | [], node a _ => [a]
  | i :: address, node a children =>
    a :: match children[i]? with
      | some t => path address t
      | none => []

/-- Changes every label from the root down to an address. -/
def modifyPath (f : α → α) : List ℕ → Tree α → Tree α
  | [], node a children => node (f a) children
  | i :: address, node a children => node (f a) (children.modify i (modifyPath f address))

def label? : List ℕ → Tree α → Option α
  | [], node a _ => some a
  | i :: address, node _ children => children[i]?.bind (label? address)

/-- No node lies below the address. -/
def IsLeaf (t : Tree α) (address : List ℕ) : Prop :=
  ∀ x ∈ t.addressed, address <+: x.1 → x.1 = address

instance (t : Tree α) (address : List ℕ) : Decidable (t.IsLeaf address) :=
  inferInstanceAs (Decidable (∀ x ∈ t.addressed, address <+: x.1 → x.1 = address))

inductive Every (P : α → Prop) : Tree α → Prop
  | intro {a : α} {children : List (Tree α)} :
      P a → (∀ t ∈ children, Every P t) → Every P (node a children)

variable {P : α → Prop} {children : List (Tree α)}

lemma Every.label {a : α} (h : Every P (node a children)) : P a := by
  cases h
  assumption

variable {t : Tree α}

lemma Every.child {a : α} (h : Every P (node a children)) (ht : t ∈ children) : Every P t := by
  cases h with
  | intro _ hc => exact hc t ht

lemma Every.mono {P Q : α → Prop} (hPQ : ∀ a, P a → Q a) (h : Every P t) :
    Every Q t := by
  induction h with
  | intro ha _ ih => exact .intro (hPQ _ ha) ih

lemma every_of_forall (h : ∀ a, P a) : ∀ t : Tree α, Every P t
  | node a children => .intro (h a) fun t _ => every_of_forall h t

lemma mem_mapForest {f : α → β} {ts : List (Tree α)} {t : Tree β} (h : t ∈ mapForest f ts) :
    ∃ u ∈ ts, t = u.map f := by
  induction ts with
  | nil => cases h
  | cons u ts ih =>
    rcases mem_cons.1 h with rfl | h
    · exact ⟨u, mem_cons_self, rfl⟩
    · obtain ⟨v, hv, rfl⟩ := ih h
      exact ⟨v, mem_cons_of_mem _ hv, rfl⟩

lemma Every.map {Q : β → Prop} {f : α → β} (hPQ : ∀ a, P a → Q (f a)) (h : Every P t) :
    Every Q (t.map f) := by
  induction h with
  | intro ha _ ih =>
    rw [Tree.map]
    refine .intro (hPQ _ ha) ?_
    intro t ht
    obtain ⟨u, hu, rfl⟩ := mem_mapForest ht
    exact ih u hu

lemma Every.path (h : Every P t) (address : List ℕ) :
    ∀ a ∈ t.path address, P a := by
  induction address generalizing t with
  | nil =>
    cases t with
    | node b children =>
      intro a ha
      rw [mem_singleton.1 ha]
      exact h.label
  | cons i address ih =>
    cases t with
    | node b children =>
      intro a ha
      rcases mem_cons.1 ha with rfl | ha
      · exact h.label
      · cases hi : children[i]? with
        | none =>
          rw [hi] at ha
          cases ha
        | some t =>
          rw [hi] at ha
          exact ih (h.child (mem_of_getElem? hi)) a ha

/-- A change along a path keeps `P` if it does so at each label of that path. -/
theorem Every.modifyPath {f : α → α} (h : Every P t) (address : List ℕ)
    (hf : ∀ a ∈ t.path address, P a → P (f a)) :
    Every P (t.modifyPath f address) := by
  induction address generalizing t with
  | nil =>
    cases t with
    | node a children =>
      exact .intro (hf a (mem_singleton_self a) h.label) fun t ht => h.child ht
  | cons i address ih =>
    cases t with
    | node a children =>
      refine .intro (hf a mem_cons_self h.label) ?_
      intro t ht
      obtain ⟨j, hj⟩ := mem_iff_getElem?.1 ht
      rw [getElem?_modify] at hj
      by_cases hij : i = j
      · subst hij
        cases hi : children[i]? with
        | none => simp [hi] at hj
        | some u =>
          simp only [hi, if_true, Option.map_eq_map, Option.map_some, Option.some.injEq] at hj
          subst hj
          apply ih (h.child (mem_of_getElem? hi))
          intro b hb
          apply hf
          rw [Tree.path, hi]
          exact mem_cons_of_mem _ hb
      · simp only [hij, if_false, id_map'] at hj
        exact h.child (mem_of_getElem? (by simpa using hj))

mutual

lemma addressed_map (f : α → β) : ∀ t : Tree α,
    (t.map f).addressed = t.addressed.map fun x => (x.1, f x.2)
  | node a children => by
    simp only [map, addressed, map_cons, addressedForest_map children]

lemma addressedForest_map {f : α → β} {i : ℕ} : ∀ ts : List (Tree α),
    addressedForest i (mapForest f ts) = (addressedForest i ts).map fun x => (x.1, f x.2)
  | [] => rfl
  | t :: ts => by
    simp only [mapForest, addressedForest, addressed_map f t, addressedForest_map ts,
      map_append, map_map, Function.comp_def]

end

mutual

lemma nodup_addressed : ∀ t : Tree α, (t.addressed.map (·.1)).Nodup
  | node a children => by
    obtain ⟨hnodup, hhead⟩ := nodup_addressedForest children
    rw [addressed, map_cons, nodup_cons]
    refine ⟨?_, hnodup⟩
    intro hmem
    obtain ⟨j, address, -, h⟩ := hhead [] hmem
    cases h

lemma nodup_addressedForest {i : ℕ} : ∀ ts : List (Tree α),
    ((addressedForest i ts).map (·.1)).Nodup ∧
      ∀ address ∈ (addressedForest i ts).map (·.1), ∃ j rest, i ≤ j ∧ address = j :: rest
  | [] => by simp [addressedForest]
  | t :: ts => by
    obtain ⟨hnodup, hhead⟩ := nodup_addressedForest ts
    have ht := nodup_addressed t
    simp only [addressedForest, map_append, map_map, Function.comp_def]
    have hfirst : (t.addressed.map fun x => i :: x.1) = (t.addressed.map (·.1)).map (i :: ·) := by
      simp
    rw [hfirst]
    refine ⟨?_, ?_⟩
    · rw [nodup_append]
      refine ⟨ht.map cons_injective, hnodup, ?_⟩
      rintro address hmem other hother rfl
      obtain ⟨rest, -, rfl⟩ := mem_map.1 hmem
      obtain ⟨j, rest', hj, h⟩ := hhead _ hother
      cases h
      omega
    · intro address hmem
      rcases mem_append.1 hmem with hmem | hmem
      · obtain ⟨rest, -, rfl⟩ := mem_map.1 hmem
        exact ⟨i, rest, Nat.le_refl i, rfl⟩
      · obtain ⟨j, rest, hj, rfl⟩ := hhead address hmem
        exact ⟨j, rest, by omega, rfl⟩

end

mutual

lemma label?_of_mem_addressed {address : List ℕ} {a : α} : ∀ t : Tree α,
    (address, a) ∈ t.addressed → t.label? address = some a
  | node b children, h => by
    rw [addressed] at h
    rcases mem_cons.1 h with h | h
    · cases h
      rfl
    · obtain ⟨j, rest, t, rfl, ht, hlabel⟩ := label?_of_mem_addressedForest children h
      rw [label?, Nat.zero_add, ht]
      exact hlabel

lemma label?_of_mem_addressedForest {address : List ℕ} {a : α} {i : ℕ} : ∀ ts : List (Tree α),
    (address, a) ∈ addressedForest i ts →
      ∃ j rest t, address = (i + j) :: rest ∧ ts[j]? = some t ∧ t.label? rest = some a
  | [], h => by simp [addressedForest] at h
  | t :: ts, h => by
    rw [addressedForest] at h
    rcases mem_append.1 h with h | h
    · obtain ⟨⟨rest, b⟩, hmem, heq⟩ := mem_map.1 h
      cases heq
      exact ⟨0, rest, t, rfl, rfl, label?_of_mem_addressed t hmem⟩
    · obtain ⟨j, rest, u, rfl, hu, hlabel⟩ := label?_of_mem_addressedForest ts h
      exact ⟨j + 1, rest, u, by rw [Nat.add_right_comm, Nat.add_assoc], hu, hlabel⟩

end

lemma label?_mem_path {address : List ℕ} {a : α} (h : t.label? address = some a) :
    a ∈ t.path address := by
  induction address generalizing t with
  | nil =>
    cases t with
    | node b children =>
      cases h
      exact mem_singleton_self _
  | cons i address ih =>
    cases t with
    | node b children =>
      obtain ⟨t, ht, h⟩ := Option.bind_eq_some_iff.1 h
      rw [path, ht]
      exact mem_cons_of_mem _ (ih h)

/-- A change along a path reaches the addresses above its end, and no others. -/
theorem label?_modifyPath {f : α → α} {address other : List ℕ} :
    (t.modifyPath f other).label? address =
      if address <+: other then (t.label? address).map f else t.label? address := by
  induction address generalizing t other with
  | nil => cases t with | node a children => cases other <;> simp [label?, modifyPath]
  | cons i address ih =>
    cases t with
    | node a children =>
      cases other with
      | nil => simp [label?, modifyPath]
      | cons j other =>
        simp only [label?, modifyPath, getElem?_modify, cons_prefix_cons]
        by_cases hij : i = j
        · subst hij
          cases children[i]? <;> simp [ih]
        · simp [hij, Ne.symm hij]

lemma map_path_modifyPath {f : α → α} {g : α → β} (hg : ∀ a, g (f a) = g a) (t : Tree α)
    (address other : List ℕ) :
    ((t.modifyPath f other).path address).map g = (t.path address).map g := by
  induction address generalizing t other with
  | nil => cases t with | node a children => cases other <;> simp [path, modifyPath, hg]
  | cons i address ih =>
    cases t with
    | node a children =>
      cases other with
      | nil => simp [path, modifyPath, hg]
      | cons j other =>
        simp only [path, modifyPath, getElem?_modify, map_cons, hg]
        by_cases hij : i = j
        · subst hij
          cases children[i]? <;> simp [ih]
        · simp [Ne.symm hij]

end Tree

end Everest
