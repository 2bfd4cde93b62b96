import Everest.Evse.Charger.Commands
import Mathlib.Data.List.Induction

namespace Everest.Evse.SourcedCharger
open Charger

section Table

variable {table : List EnableDisableSource} {source e : EnableDisableSource}
  {result : Bool × EnableDisableSource}

lemma mem_tableUpdate (h : (table.map (·.enableSource)).Nodup) :
    e ∈ enableDisableSourceTableUpdate source table ↔
      e = source ∨ e ∈ table ∧ e.enableSource ≠ source.enableSource := by
  induction table with
  | nil => simp [enableDisableSourceTableUpdate]
  | cons entry table ih =>
    obtain ⟨hnew, hrest⟩ := List.nodup_cons.1 h
    unfold enableDisableSourceTableUpdate
    split_ifs with hsame
    · -- the other entries are of other sources
      have hothers : ∀ x ∈ table, x.enableSource ≠ source.enableSource := by
        intro x hx heq
        exact hnew (List.mem_map.2 ⟨x, hx, heq.trans hsame.symm⟩)
      grind
    · rw [List.mem_cons, ih hrest, List.mem_cons]
      grind

lemma tableUpdate_nodup (h : (table.map (·.enableSource)).Nodup) :
    ((enableDisableSourceTableUpdate source table).map (·.enableSource)).Nodup := by
  induction table with
  | nil => simp [enableDisableSourceTableUpdate]
  | cons entry table ih =>
    obtain ⟨hnew, hrest⟩ := List.nodup_cons.1 h
    unfold enableDisableSourceTableUpdate
    split_ifs with hsame
    · rw [List.map_cons, ← hsame]
      exact h
    · refine List.nodup_cons.2 ⟨?_, ih hrest⟩
      rw [List.mem_map]
      rintro ⟨x, hx, heq⟩
      rcases (mem_tableUpdate hrest).1 hx with rfl | ⟨hx, -⟩
      · exact hsame heq.symm
      · exact hnew (List.mem_map.2 ⟨x, hx, heq⟩)

structure Decided (table : List EnableDisableSource) (result : Bool × EnableDisableSource) :
    Prop where
  enabled : result.1 = true ↔ result.2.enableState ≠ .disable
  found : result.2.enableState = .unassigned ∨ result.2 ∈ table
  least : ∀ e ∈ table, e.enableState ≠ .unassigned → result.2.enableState ≠ .unassigned ∧
    (result.2.enablePriority < e.enablePriority ∨ result.2.enablePriority = e.enablePriority ∧
      (e.enableState = .disable → result.2.enableState = .disable))

/-- An entry that is no worse than the one that decided so far decides from now on. -/
lemma Decided.entry (h : Decided table result) {b : Bool}
    (hb : b = true ↔ e.enableState ≠ .disable) (he : e.enableState ≠ .unassigned)
    (hle : result.2.enableState ≠ .unassigned → e.enablePriority < result.2.enablePriority ∨
      e.enablePriority = result.2.enablePriority ∧ e.enableState = .disable) :
    Decided (table ++ [e]) (b, e) := by
  refine ⟨hb, .inr (by simp), fun x hx hassigned => ⟨he, ?_⟩⟩
  dsimp only
  rcases List.mem_append.1 hx with hx | hx
  · obtain ⟨hresult, hprio⟩ := h.least x hx hassigned
    rcases hle hresult with hlt | ⟨heq, hdisable⟩
    · left
      omega
    · rcases hprio with hprio | ⟨hprio, -⟩
      · left
        omega
      · exact .inr ⟨heq.trans hprio, fun _ => hdisable⟩
  · obtain rfl := List.mem_singleton.1 hx
    exact .inr ⟨rfl, id⟩

/-- An entry that says nothing, or is worse, changes nothing. -/
lemma Decided.skip (h : Decided table result)
    (hle : e.enableState ≠ .unassigned → result.2.enableState ≠ .unassigned ∧
      (result.2.enablePriority < e.enablePriority ∨
        result.2.enablePriority = e.enablePriority ∧ e.enableState ≠ .disable)) :
    Decided (table ++ [e]) result := by
  refine ⟨h.enabled, h.found.imp_right (List.mem_append_left _), fun x hx hassigned => ?_⟩
  rcases List.mem_append.1 hx with hx | hx
  · exact h.least x hx hassigned
  · obtain rfl := List.mem_singleton.1 hx
    obtain ⟨hresult, hprio⟩ := hle hassigned
    exact ⟨hresult, hprio.imp_right fun heq => ⟨heq.1, fun hdisable => absurd hdisable heq.2⟩⟩

lemma parse_decided : Decided table (parseEnableDisableSourceTable table) := by
  unfold parseEnableDisableSourceTable
  induction table using List.reverseRecOn with
  | nil => exact ⟨by simp, .inl rfl, by simp⟩
  | append_singleton table e ih =>
    rw [List.foldl_append, List.foldl_cons, List.foldl_nil]
    generalize table.foldl parseEntry _ = result at ih
    unfold parseEntry
    dsimp only
    split_ifs with hunassigned hfirst heq hdisable hlt
    · exact ih.skip fun h => absurd hunassigned h
    · exact ih.entry (by simp) hunassigned fun h => absurd hfirst h
    · exact ih.entry (by simp [hdisable]) hunassigned fun _ => .inr ⟨heq, hdisable⟩
    · exact ih.skip fun _ => ⟨hfirst, .inr ⟨heq.symm, hdisable⟩⟩
    · exact ih.entry (by simp) hunassigned fun _ => .inl hlt
    · exact ih.skip fun _ => ⟨hfirst, .inl (by omega)⟩

lemma Decided.iff_overruled (h : Decided table result) : result.1 = true ↔
    ∀ r ∈ table, r.enableState = .disable →
      ∃ o ∈ table, o.enableState = .enable ∧ o.enablePriority < r.enablePriority := by
  obtain ⟨henabled, hfound, hleast⟩ := h
  rw [henabled]
  constructor
  · intro hwins r hr hdis
    obtain ⟨hassigned, hprio⟩ := hleast r hr (by simp [hdis])
    have hstate : result.2.enableState = .enable := by
      cases hs : result.2.enableState <;> simp_all
    refine ⟨_, hfound.resolve_left hassigned, hstate, hprio.resolve_right fun heq => ?_⟩
    exact hwins (heq.2 hdis)
  · intro hoverruled hdis
    have hmem := hfound.resolve_left (by simp [hdis])
    obtain ⟨o, ho, henable, hlt⟩ := hoverruled _ hmem hdis
    rcases (hleast o ho (by simp [henable])).2 with hprio | ⟨hprio, -⟩ <;> omega

end Table

/-- The latest request of its source. In the beginning an unspecified source enables. -/
def Latest (requests : List EnableDisableSource) (r : EnableDisableSource) : Prop :=
  List.find? (·.enableSource = r.enableSource)
    (requests.reverse ++ [⟨.unspecified, .enable, 10000⟩]) = some r

def Input.request? : Input → Option EnableDisableSource
  | .charger _ => none
  | .enableDisable _ source _ => some source

/-- The table has the latest request of each source, once. -/
structure Listed (requests : List EnableDisableSource) (c : SourcedCharger) : Prop where
  once : (c.enableDisableSourceTable.map (·.enableSource)).Nodup
  latest : ∀ e, e ∈ c.enableDisableSourceTable ↔ Latest requests e

variable {requests : List EnableDisableSource} {source : EnableDisableSource}
  {c c' : SourcedCharger}

lemma latest_concat {e : EnableDisableSource} :
    Latest (requests ++ [source]) e ↔
      e = source ∨ Latest requests e ∧ e.enableSource ≠ source.enableSource := by
  unfold Latest
  rw [List.reverse_append, List.reverse_singleton, List.singleton_append, List.cons_append,
    List.find?_cons]
  by_cases hsame : source.enableSource = e.enableSource
  · simp [hsame, eq_comm]
  · have hne : e ≠ source := fun heq => hsame (by rw [heq])
    simp [hsame, Ne.symm hsame, hne]

lemma Listed.update (h : Listed requests c)
    (htable : c'.enableDisableSourceTable =
      enableDisableSourceTableUpdate source c.enableDisableSourceTable) :
    Listed (requests ++ [source]) c' := by
  refine ⟨htable ▸ tableUpdate_nodup h.once, fun e => ?_⟩
  rw [htable, mem_tableUpdate h.once, h.latest, latest_concat]

lemma enableDisable_spec {connectorId : ℤ} {envs : List Env} {answer : Bool}
    (h : c.enableDisable connectorId source envs = some (answer, c')) :
    c'.enableDisableSourceTable =
        enableDisableSourceTableUpdate source c.enableDisableSourceTable ∧
      answer = c'.isEnabled := by
  unfold enableDisable at h
  dsimp only at h
  split_ifs at h with hconnector hchanged hchanged
  · obtain ⟨after, -, hafter⟩ := Option.bind_eq_some_iff.1 h
    obtain ⟨rfl, rfl⟩ := Prod.mk.inj (Option.some.inj hafter)
    exact ⟨rfl, rfl⟩
  · obtain ⟨rfl, rfl⟩ := Prod.mk.inj (Option.some.inj h)
    exact ⟨rfl, rfl⟩
  · obtain ⟨after, -, hafter⟩ := Option.bind_eq_some_iff.1 h
    obtain ⟨rfl, rfl⟩ := Prod.mk.inj (Option.some.inj hafter)
    exact ⟨rfl, rfl⟩
  · obtain ⟨rfl, rfl⟩ := Prod.mk.inj (Option.some.inj h)
    exact ⟨rfl, rfl⟩

lemma Listed.handle (h : Listed requests c) {input : Input} (hc' : c.handle input = some c') :
    Listed (requests ++ input.request?.toList) c' := by
  cases input with
  | charger input =>
    obtain ⟨charger, -, rfl⟩ := Option.map_eq_some_iff.1 hc'
    rw [Input.request?, Option.toList_none, List.append_nil]
    exact ⟨h.once, h.latest⟩
  | enableDisable connectorId source envs =>
    obtain ⟨⟨answer, c'⟩, henable, rfl⟩ := Option.map_eq_some_iff.1 hc'
    exact h.update (enableDisable_spec henable).1

lemma Listed.run (h : Listed requests c) {inputs : List Input}
    (hrun : inputs.foldlM SourcedCharger.handle c = some c') :
    Listed (requests ++ inputs.filterMap Input.request?) c' := by
  induction inputs generalizing requests c with
  | nil =>
    obtain rfl := Option.some.inj hrun
    rwa [List.filterMap_nil, List.append_nil]
  | cons input inputs ih =>
    rw [List.foldlM_cons] at hrun
    obtain ⟨c₁, hstep, hrest⟩ := Option.bind_eq_some_iff.1 hrun
    have hlisted := ih (h.handle hstep) hrest
    rw [List.append_assoc] at hlisted
    cases hreq : input.request? <;> simpa [List.filterMap_cons, hreq] using hlisted

lemma listed_start (env : Env) (connectorType : ConnectorType) (setupConfig : SetupConfig) :
    Listed [] (start env connectorType setupConfig) := by
  have htable : (start env connectorType setupConfig).enableDisableSourceTable =
    [⟨.unspecified, .enable, 10000⟩] := rfl
  refine ⟨by simp [htable], fun e => ?_⟩
  rw [htable, List.mem_singleton]
  constructor
  · rintro rfl
    rfl
  · intro hlatest
    have hmem := List.mem_of_find?_eq_some hlatest
    exact List.mem_singleton.1 hmem

def lockOverrulesCsms : List Input :=
  [.enableDisable 1 ⟨.csms, .disable, 100⟩ [{}, {}, {}], .charger (.mainLoop [{}, {}]),
    .enableDisable 1 ⟨.localKeyLock, .enable, 50⟩ [{}, {}, {}]]

end Everest.Evse.SourcedCharger
