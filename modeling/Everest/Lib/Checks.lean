import Mathlib.Logic.Unique
import Mathlib.Tactic.SplitIfs

namespace Everest.Checks

variable {ε : Type*} {α β : Type}

def reject (bad : Prop) [Decidable bad] (e : ε) : Except ε Unit :=
  if bad then .error e else .ok ()

def under (c : Prop) [Decidable c] (x : Except ε Unit) : Except ε Unit :=
  if c then x else .ok ()

variable {bad c : Prop} [Decidable bad] [Decidable c] {e : ε} {x : Except ε Unit}

@[simp] lemma reject_eq_ok {u : Unit} : reject bad e = .ok u ↔ ¬bad := by
  unfold reject
  split_ifs with h <;> simp [h]

@[simp] lemma under_eq_ok {u : Unit} : under c x = .ok u ↔ (c → x = .ok ()) := by
  unfold under
  split_ifs with h <;> simp [h]

lemma bind_eq_ok {x : Except ε α} {f : α → Except ε β} {b : β} :
    (x >>= f) = .ok b ↔ ∃ a, x = .ok a ∧ f a = .ok b := by
  cases x with
  | error | ok => simp [bind, Except.bind]

@[simp] lemma pure_eq_ok {a b : α} : (pure a : Except ε α) = .ok b ↔ a = b := by
  simp [pure, Except.pure]

end Everest.Checks
