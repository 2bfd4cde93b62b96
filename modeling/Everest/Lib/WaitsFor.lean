import Mathlib.Data.Set.Basic

namespace Everest.WaitsFor

variable {T : Type*} {W : T → T → Prop}

/-- Every thread of the set waits for another one of it. -/
def Deadlock (W : T → T → Prop) (threads : Set T) : Prop :=
  threads.Nonempty ∧ ∀ a ∈ threads, ∃ b ∈ threads, b ≠ a ∧ W a b

/-- Threads that only wait for threads of a higher rank do not deadlock, if the ranks are
bounded. -/
theorem not_deadlock_of_rank {rank : T → ℕ} {bound : ℕ} (hbound : ∀ a, rank a ≤ bound)
    (hW : ∀ a b, W a b → rank a < rank b) {threads : Set T} : ¬Deadlock W threads := by
  rintro ⟨⟨a₀, ha₀⟩, hwait⟩
  have climb : ∀ n, ∃ a ∈ threads, n ≤ rank a := by
    intro n
    induction n with
    | zero => exact ⟨a₀, ha₀, Nat.zero_le _⟩
    | succ n ih =>
      obtain ⟨a, ha, hn⟩ := ih
      obtain ⟨b, hb, -, hab⟩ := hwait a ha
      exact ⟨b, hb, hn.trans_lt (hW a b hab)⟩
  obtain ⟨a, -, ha⟩ := climb (bound + 1)
  exact absurd (hbound a) (by omega)

end Everest.WaitsFor
