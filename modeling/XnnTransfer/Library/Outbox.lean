import Mathlib.Logic.Function.Basic

/-!
# Outboxes

Several parties make events and publish them later, each from an outbox of its own. If
events are only made while no outbox holds any, they are published in the order in which
they were made.
-/

namespace Outbox

variable {τ ε : Type*} {pending : τ → List ε} {made published : List ε}

/-- At most one party has something in its outbox, and what was made is what is published
followed by that. -/
def Serial (pending : τ → List ε) (made published : List ε) : Prop :=
  ∃ holder : Option τ, (∀ party, holder ≠ some party → pending party = []) ∧
    made = published ++ holder.elim [] pending

theorem serial_nil : Serial (fun _ : τ => ([] : List ε)) [] [] :=
  ⟨none, fun _ _ => rfl, rfl⟩

/-- Once all outboxes are empty, everything is published. -/
theorem Serial.eq_of_empty (h : Serial pending made published)
    (hempty : ∀ party, pending party = []) : made = published := by
  obtain ⟨holder, -, rfl⟩ := h
  cases holder with
  | none => exact List.append_nil _
  | some party => rw [Option.elim_some, hempty, List.append_nil]

variable [DecidableEq τ]

theorem Serial.make (h : Serial pending made published) (hempty : ∀ party, pending party = [])
    (party : τ) (events : List ε) :
    Serial (Function.update pending party events) (made ++ events) published := by
  refine ⟨some party, fun other hother => ?_, ?_⟩
  · have hne : other ≠ party := fun heq => hother (congrArg some heq.symm)
    rw [Function.update_of_ne hne, hempty]
  · rw [h.eq_of_empty hempty, Option.elim_some, Function.update_self]

theorem Serial.publish (h : Serial pending made published) {party : τ} {event : ε}
    {rest : List ε} (hpending : pending party = event :: rest) :
    Serial (Function.update pending party rest) made (published ++ [event]) := by
  obtain ⟨holder, hothers, hmade⟩ := h
  have hholder : holder = some party := by
    by_contra hne
    rw [hothers party hne] at hpending
    cases hpending
  subst hholder
  refine ⟨some party, fun other hother => ?_, ?_⟩
  · have hne : other ≠ party := fun heq => hother (congrArg some heq.symm)
    rw [Function.update_of_ne hne, hothers other hother]
  rw [hmade, Option.elim_some, Option.elim_some, hpending, Function.update_self,
    List.append_assoc, List.singleton_append]

end Outbox
