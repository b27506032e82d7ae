import Mathlib.Logic.Basic

/-!
# Chains of guards

A check is a chain of guards, each of which refuses or passes on to the next. The
chain accepts exactly when no guard refuses, and whatever it refuses with is the
refusal of one of its guards.
-/

namespace Guards

variable {α ε : Type*} {p : Prop} [Decidable p]

theorem ite_eq_iff_of_ne {refusal rest accepted : α} (h : refusal ≠ accepted) :
    (if p then refusal else rest) = accepted ↔ ¬p ∧ rest = accepted := by
  by_cases hp : p <;> simp [hp, h]

theorem ite_error_eq_ok {refusal : ε} {rest : Except ε α} {a : α} :
    (if p then .error refusal else rest) = .ok a ↔ ¬p ∧ rest = .ok a :=
  ite_eq_iff_of_ne nofun

/-- Whatever the result is refused with satisfies `P`. -/
def Refuses (P : ε → Prop) (result : Except ε α) : Prop := ∀ error, result = .error error → P error

variable {P : ε → Prop} {refusal : ε} {rest : Except ε α}

theorem Refuses.ok (a : α) : Refuses P (.ok a : Except ε α) := nofun

theorem Refuses.error (h : P refusal) : Refuses P (.error refusal : Except ε α) := by
  rintro _ ⟨⟩
  exact h

theorem Refuses.ite (h : p → P refusal) (hrest : Refuses P rest) :
    Refuses P (if p then .error refusal else rest) := by
  split
  next hp => exact .error (h hp)
  · exact hrest

theorem Refuses.unless (h : ¬p → P refusal) (hrest : Refuses P rest) :
    Refuses P (if p then rest else .error refusal) := by
  split
  · exact hrest
  next hp => exact .error (h hp)

end Guards
