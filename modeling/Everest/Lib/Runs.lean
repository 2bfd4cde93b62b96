import Mathlib.Data.List.Basic

/- Runs of a deterministic machine over a list of inputs, and the logs such a
machine writes. A log is a list with its newest entry first. -/

namespace Everest.Runs

section Machine

variable {S I : Type*} (step : S → I → S)

/-- The state after a list of inputs, fed one after the other. -/
def run (s : S) (inputs : List I) : S := inputs.foldl step s

/-- `P` holds in every state of the run, the first and the last included. -/
def AllStates (P : S → Prop) : S → List I → Prop
  | s, [] => P s
  | s, i :: inputs => P s ∧ AllStates P (step s i) inputs

/-- Every step of the run is taken from a state and with an input that meet `C`. -/
def AllSteps (C : S → I → Prop) : S → List I → Prop
  | _, [] => True
  | s, i :: inputs => C s i ∧ AllSteps C (step s i) inputs

instance decidableAllStates {P : S → Prop} [DecidablePred P] :
    ∀ s (inputs : List I), Decidable (AllStates step P s inputs)
  | s, [] => inferInstanceAs (Decidable (P s))
  | s, i :: inputs =>
    have := decidableAllStates (P := P) (step s i) inputs
    inferInstanceAs (Decidable (P s ∧ AllStates step P (step s i) inputs))

instance decidableAllSteps {C : S → I → Prop} [∀ s i, Decidable (C s i)] :
    ∀ s inputs, Decidable (AllSteps step C s inputs)
  | _, [] => isTrue trivial
  | s, i :: inputs =>
    have := decidableAllSteps (C := C) (step s i) inputs
    inferInstanceAs (Decidable (C s i ∧ AllSteps step C (step s i) inputs))

variable {step} {Inv P : S → Prop} {s : S} {inputs : List I} {C : S → I → Prop}

lemma run_inv (hstep : ∀ s i, Inv s → Inv (step s i)) (h : Inv s) (inputs : List I) :
    Inv (run step s inputs) := by
  induction inputs generalizing s with
  | nil => exact h
  | cons i inputs ih => exact ih (hstep s i h)

lemma AllStates.last (h : AllStates step P s inputs) : P (run step s inputs) := by
  induction inputs generalizing s with
  | nil => exact h
  | cons i inputs ih => exact ih h.2

lemma AllStates.mono {Q : S → Prop} (hPQ : ∀ s, P s → Q s) (h : AllStates step P s inputs) :
    AllStates step Q s inputs := by
  induction inputs generalizing s with
  | nil => exact hPQ s h
  | cons i inputs ih => exact ⟨hPQ s h.1, ih h.2⟩

/-- An invariant that needs a condition on each step holds along the runs that meet it. -/
theorem allStates_of_allSteps (hstep : ∀ s i, Inv s → C s i → Inv (step s i)) (h : Inv s)
    (hC : AllSteps step C s inputs) : AllStates step Inv s inputs := by
  induction inputs generalizing s with
  | nil => exact h
  | cons i inputs ih => exact ⟨h, ih (hstep s i h hC.1) hC.2⟩

lemma AllSteps.of_inv {D : S → I → Prop} (hstep : ∀ s i, Inv s → C s i → D s i ∧ Inv (step s i))
    (h : Inv s) (hC : AllSteps step C s inputs) : AllSteps step D s inputs := by
  induction inputs generalizing s with
  | nil => trivial
  | cons i inputs ih =>
    obtain ⟨hD, h'⟩ := hstep s i h hC.1
    exact ⟨hD, ih h' hC.2⟩

lemma AllSteps.mid {before after : List I} {i : I}
    (h : AllSteps step C s (before ++ i :: after)) : C (run step s before) i := by
  induction before generalizing s with
  | nil => exact h.1
  | cons j before ih => exact ih h.2

/-- When each step keeps `P` exactly under `C`, a run stays in `P` exactly if all its steps
meet `C`. `Inv` collects what holds in every reachable state. -/
theorem allStates_iff_allSteps (hinv : ∀ s i, Inv s → Inv (step s i))
    (hstep : ∀ s i, Inv s → P s → (P (step s i) ↔ C s i)) (hI : Inv s) (hP : P s)
    (inputs : List I) : AllStates step P s inputs ↔ AllSteps step C s inputs := by
  induction inputs generalizing s with
  | nil => simp [AllStates, AllSteps, hP]
  | cons i inputs ih =>
    simp only [AllStates, AllSteps, hP, true_and]
    constructor
    · intro h
      have hP' : P (step s i) := by
        cases inputs with
        | nil => exact h
        | cons => exact h.1
      exact ⟨(hstep s i hI hP).1 hP', (ih (hinv s i hI) hP').1 h⟩
    · rintro ⟨hC, h⟩
      exact (ih (hinv s i hI) ((hstep s i hI hP).2 hC)).2 h

end Machine

section Log

variable {E : Type*}

/-- `new` is `old` with further entries on top, each of which met `P` together with the log
below it when it was written. -/
inductive Grows (P : E → List E → Prop) (old : List E) : List E → Prop
  | refl : Grows P old old
  | cons {e : E} {log : List E} : Grows P old log → P e log → Grows P old (e :: log)

variable {P Q : E → List E → Prop} {a b c : List E}

lemma Grows.trans (h : Grows P a b) (h' : Grows P b c) : Grows P a c := by
  induction h' with
  | refl => exact h
  | cons _ hP ih => exact ih.cons hP

lemma Grows.mono (hPQ : ∀ e log, P e log → Q e log) (h : Grows P a b) : Grows Q a b := by
  induction h with
  | refl => exact .refl
  | cons _ hP ih => exact ih.cons (hPQ _ _ hP)

variable {e : E}

lemma grows_nil_cons {log : List E} : Grows P [] (e :: log) ↔ Grows P [] log ∧ P e log := by
  constructor
  · intro h
    cases h with
    | cons h hP => exact ⟨h, hP⟩
  · exact fun h => h.1.cons h.2

instance decidableGrows [∀ e log, Decidable (P e log)] :
    ∀ log : List E, Decidable (Grows P [] log)
  | [] => isTrue .refl
  | e :: log =>
    have := decidableGrows log
    decidable_of_iff (Grows P [] log ∧ P e log) grows_nil_cons.symm

lemma Grows.of_append (h : Grows P [] (a ++ b)) : Grows P [] b := by
  induction a with
  | nil => exact h
  | cons e a ih =>
    cases h with
    | cons h => exact ih h

lemma Grows.entry (h : Grows P a b) {newer older : List E} (hb : b = newer ++ e :: older)
    (hlen : a.length ≤ older.length) : P e older := by
  induction h generalizing newer with
  | refl =>
    have := congrArg List.length hb
    simp at this
    omega
  | cons _ hP ih =>
    cases newer with
    | nil =>
      obtain ⟨rfl, rfl⟩ := List.cons.inj hb
      exact hP
    | cons => exact ih (List.cons.inj hb).2

end Log

end Everest.Runs
