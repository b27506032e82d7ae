import Mathlib.Data.List.Basic

/-!
# Move-only handles

Objects that own a resource and can be moved but not copied. A program's handles
are a list of slots; a slot is empty once its handle was moved away, spent or
destroyed. Whatever is moved where, no two slots hold the same resource.
-/

namespace Handles

variable {α : Type*} {slots : List (Option α)}

/-- What a slot holds. -/
def held (slots : List (Option α)) (slot : Nat) : Option α := slots.getD slot none

/-- The handle in a slot is spent or destroyed. -/
def clear (slots : List (Option α)) (slot : Nat) : List (Option α) := slots.set slot none

/-- A new handle. -/
def push (slots : List (Option α)) (value : Option α) : List (Option α) := slots ++ [value]

/-- A new handle that takes over what a slot holds. -/
def moveConstruct (slots : List (Option α)) (slot : Nat) : List (Option α) :=
  push (clear slots slot) (held slots slot)

/-- Two different handles, of which the first takes over what the second holds. -/
def Movable (slots : List (Option α)) (target source : Nat) : Prop :=
  target < slots.length ∧ source < slots.length ∧ target ≠ source

instance (slots : List (Option α)) (target source : Nat) :
    Decidable (Movable slots target source) :=
  inferInstanceAs (Decidable (_ ∧ _ ∧ _))

def moveAssign (slots : List (Option α)) (target source : Nat) : List (Option α) :=
  clear (slots.set target (held slots source)) source

/-- No two slots hold the same resource. -/
def Distinct (slots : List (Option α)) : Prop :=
  ∀ slot slot' value, held slots slot = some value → held slots slot' = some value → slot = slot'

/-- Some slot holds the resource. -/
def Live (slots : List (Option α)) (value : α) : Prop := ∃ slot, held slots slot = some value

theorem held_clear (slots : List (Option α)) (slot other : Nat) :
    held (clear slots slot) other = if other = slot then none else held slots other := by
  rw [held, held, clear, List.getD_eq_getElem?_getD, List.getD_eq_getElem?_getD, List.getElem?_set]
  by_cases hsame : slot = other
  · subst hsame
    by_cases hlt : slot < slots.length <;> simp [hlt]
  · rw [if_neg hsame, if_neg (Ne.symm hsame)]

theorem held_push (slots : List (Option α)) (value : Option α) (slot : Nat) :
    held (push slots value) slot = if slot = slots.length then value else held slots slot := by
  rw [held, held, push, List.getD_eq_getElem?_getD, List.getD_eq_getElem?_getD]
  rcases Nat.lt_trichotomy slot slots.length with hlt | rfl | hgt
  · rw [List.getElem?_append_left hlt, if_neg (Nat.ne_of_lt hlt)]
  · simp
  · rw [if_neg (Nat.ne_of_gt hgt), List.getElem?_eq_none (by simp; omega), List.getElem?_eq_none (by omega)]

theorem held_length (slots : List (Option α)) : held slots slots.length = none := by
  simp [held]

variable {source target : Nat}

theorem held_moveAssign (h : Movable slots target source) (slot : Nat) :
    held (moveAssign slots target source) slot =
      if slot = source then none else if slot = target then held slots source
      else held slots slot := by
  have hassign : held (slots.set target (held slots source)) slot =
      if slot = target then held slots source else held slots slot := by
    rw [held, List.getD_eq_getElem?_getD, List.getElem?_set]
    by_cases hsame : target = slot
    · subst hsame
      simp [h.1]
    · rw [if_neg hsame, if_neg (Ne.symm hsame), held, List.getD_eq_getElem?_getD]
  rw [moveAssign, held_clear, hassign]

theorem Distinct.clear (h : Distinct slots) (slot : Nat) : Distinct (clear slots slot) := by
  intro first second value hfirst hsecond
  rw [held_clear] at hfirst hsecond
  split at hfirst
  · cases hfirst
  split at hsecond
  · cases hsecond
  · exact h first second value hfirst hsecond

theorem live_clear_iff (h : Distinct slots) (slot : Nat) (value : α) :
    Live (Handles.clear slots slot) value ↔ Live slots value ∧ held slots slot ≠ some value := by
  constructor
  · rintro ⟨other, hother⟩
    rw [held_clear] at hother
    split at hother
    · cases hother
    next hne => exact ⟨⟨other, hother⟩, fun hsame => hne (h other slot value hother hsame)⟩
  rintro ⟨⟨other, hother⟩, hne⟩
  refine ⟨other, ?_⟩
  rw [held_clear, if_neg]
  · exact hother
  rintro rfl
  exact hne hother

theorem Distinct.push (h : Distinct slots) {value : Option α}
    (hfresh : ∀ v, value = some v → ¬ Live slots v) : Distinct (push slots value) := by
  intro first second v hfirst hsecond
  rw [held_push] at hfirst hsecond
  split at hfirst
  next hlast =>
    split at hsecond
    next hlast' => exact hlast.trans hlast'.symm
    · exact absurd ⟨second, hsecond⟩ (hfresh v hfirst)
  rename_i hinner
  split at hsecond
  · exact absurd ⟨first, hfirst⟩ (hfresh v hsecond)
  · exact h first second v hfirst hsecond

theorem live_push_iff (slots : List (Option α)) (value : Option α) (v : α) :
    Live (push slots value) v ↔ Live slots v ∨ value = some v := by
  constructor
  · rintro ⟨slot, hslot⟩
    rw [held_push] at hslot
    split at hslot
    · exact .inr hslot
    · exact .inl ⟨slot, hslot⟩
  rintro (⟨slot, hslot⟩ | rfl)
  · refine ⟨slot, ?_⟩
    rw [held_push, if_neg]
    · exact hslot
    rintro rfl
    rw [held_length] at hslot
    cases hslot
  · exact ⟨slots.length, by rw [held_push, if_pos rfl]⟩

theorem Distinct.moveConstruct (h : Distinct slots) (slot : Nat) :
    Distinct (moveConstruct slots slot) := by
  refine (h.clear slot).push fun value hvalue hlive => ?_
  exact ((live_clear_iff h slot value).mp hlive).2 hvalue

theorem live_moveConstruct_iff (h : Distinct slots) (slot : Nat) (value : α) :
    Live (Handles.moveConstruct slots slot) value ↔ Live slots value := by
  rw [Handles.moveConstruct, live_push_iff, live_clear_iff h]
  constructor
  · rintro (⟨hlive, -⟩ | hheld)
    · exact hlive
    · exact ⟨slot, hheld⟩
  intro hlive
  by_cases hheld : held slots slot = some value
  · exact .inr hheld
  · exact .inl ⟨hlive, hheld⟩

theorem Distinct.moveAssign (h : Distinct slots) (hmovable : Movable slots target source) :
    Distinct (moveAssign slots target source) := by
  intro first second value hfirst hsecond
  rw [held_moveAssign hmovable] at hfirst hsecond
  split at hfirst
  · cases hfirst
  rename_i hsource
  split at hsecond
  · cases hsecond
  rename_i hsource'
  split at hfirst
  next htarget =>
    split at hsecond
    next htarget' => exact htarget.trans htarget'.symm
    · exact absurd (h second source value hsecond hfirst) hsource'
  · split at hsecond
    · exact absurd (h first source value hfirst hsecond) hsource
    · exact h first second value hfirst hsecond

/-- Only what the target held is gone after a move. -/
theorem live_moveAssign_iff (h : Distinct slots) (hmovable : Movable slots target source)
    (value : α) :
    Live (Handles.moveAssign slots target source) value ↔
      Live slots value ∧ held slots target ≠ some value := by
  constructor
  · rintro ⟨slot, hslot⟩
    rw [held_moveAssign hmovable] at hslot
    split at hslot
    · cases hslot
    rename_i hsource
    split at hslot
    · refine ⟨⟨source, hslot⟩, fun hsame => hmovable.2.2 ?_⟩
      exact h target source value hsame hslot
    next hother =>
      exact ⟨⟨slot, hslot⟩, fun hsame => hother (h slot target value hslot hsame)⟩
  rintro ⟨⟨slot, hslot⟩, hold⟩
  by_cases hsource : slot = source
  · subst hsource
    exact ⟨target, by rw [held_moveAssign hmovable, if_neg hmovable.2.2, if_pos rfl, hslot]⟩
  refine ⟨slot, ?_⟩
  rw [held_moveAssign hmovable, if_neg hsource, if_neg]
  · exact hslot
  rintro rfl
  exact hold hslot

end Handles
