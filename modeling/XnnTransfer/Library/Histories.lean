import Mathlib.Data.List.Basic
import Mathlib.Data.List.Infix

/-!
# Properties along a history

A history is a list that grows at its end. `Along P` says that every entry of a
history stands in the relation `P` to the entries before it, which is how a
property of the form "only after" or "never after" is stated.
-/

namespace Histories

variable {α : Type*}

/-- Every entry is related by `P` to the part of the history before it. -/
def Along (P : List α → α → Prop) (history : List α) : Prop :=
  ∀ before entry, before ++ [entry] <+: history → P before entry

/-- The property of every entry and the entries before it, by position. -/
theorem along_iff_get {P : List α → α → Prop} {history : List α} :
    Along P history ↔ ∀ i : Fin history.length, P (history.take i) (history.get i) := by
  constructor
  · intro h i
    apply h
    rw [List.get_eq_getElem, List.take_concat_get' history i i.isLt]
    exact List.take_prefix _ _
  rintro h before entry ⟨rest, rfl⟩
  have hlength : before.length < (before ++ [entry] ++ rest).length := by simp
  have hentry := h ⟨before.length, hlength⟩
  simpa using hentry

instance {P : List α → α → Prop} [∀ before entry, Decidable (P before entry)]
    (history : List α) : Decidable (Along P history) :=
  decidable_of_iff _ along_iff_get.symm

theorem along_nil (P : List α → α → Prop) : Along P [] := by
  intro before entry h
  simp at h

/-- A history keeps the property when its new last entry has it. -/
theorem along_concat {P : List α → α → Prop} {history : List α} {last : α} :
    Along P (history ++ [last]) ↔ Along P history ∧ P history last := by
  constructor
  · intro h
    refine ⟨fun before entry hpre => h before entry ?_, h history last List.prefix_rfl⟩
    exact hpre.trans (List.prefix_append _ _)
  rintro ⟨hold, hlast⟩ before entry hpre
  rcases List.prefix_concat_iff.mp hpre with heq | hpre
  · obtain ⟨rfl, hentry⟩ := List.append_inj' heq rfl
    cases hentry
    exact hlast
  · exact hold before entry hpre

/-- A history keeps the property when every entry of what is appended has it. -/
theorem along_append {P : List α → α → Prop} {history more : List α} (h : Along P history)
    (hmore : ∀ before entry, before ++ [entry] <+: more → P (history ++ before) entry) :
    Along P (history ++ more) := by
  induction more using List.reverseRecOn with
  | nil => simpa using h
  | append_singleton init last ih =>
    rw [← List.append_assoc, along_concat]
    refine ⟨ih fun before entry hentry => ?_, hmore init last List.prefix_rfl⟩
    exact hmore before entry (hentry.trans (List.prefix_append _ _))

/-- An entry of a history with a new last entry is that entry or was there before. -/
theorem concat_eq_append_cons {history before after : List α} {last entry : α}
    (h : history ++ [last] = before ++ entry :: after) :
    (after = [] ∧ before = history ∧ entry = last) ∨
      ∃ earlier, after = earlier ++ [last] ∧ history = before ++ entry :: earlier := by
  rcases List.eq_nil_or_concat after with rfl | ⟨earlier, final, rfl⟩
  · obtain ⟨hbefore, hentry⟩ := List.append_inj' h rfl
    cases hentry
    exact .inl ⟨rfl, hbefore.symm, rfl⟩
  right
  rw [List.concat_eq_append, ← List.cons_append, ← List.append_assoc] at h
  obtain ⟨hbefore, hlast⟩ := List.append_inj' h rfl
  cases hlast
  exact ⟨earlier, List.concat_eq_append .., hbefore⟩

/-- An earlier entry and the new one, in this order. -/
theorem pair_sublist_concat {first second : α} {history : List α} (hfirst : first ∈ history) :
    [first, second].Sublist (history ++ [second]) := by
  have hsingle : [first].Sublist history := List.singleton_sublist.mpr hfirst
  exact hsingle.append (List.Sublist.refl [second])

/-- A list in which no two elements of one kind may follow each other has at most one. -/
theorem countP_le_one {R : α → α → Prop} {kind : α → Bool} {history : List α}
    (h : history.Pairwise R) (hkind : ∀ a b, kind a = true → kind b = true → ¬ R a b) :
    history.countP kind ≤ 1 := by
  induction history with
  | nil => exact Nat.zero_le 1
  | cons a rest ih =>
    obtain ⟨hfirst, hrest⟩ := List.pairwise_cons.mp h
    by_cases ha : kind a = true
    · have hnone : rest.countP kind = 0 := by
        rw [List.countP_eq_zero]
        intro b hb hb'
        exact hkind a b ha hb' (hfirst b hb)
      rw [List.countP_cons_of_pos ha, hnone]
    rw [List.countP_cons_of_neg ha]
    exact ih hrest

/-- What may be followed by nothing stands last. -/
theorem not_mem_dropLast {R : α → α → Prop} {history : List α} {entry : α}
    (h : history.Pairwise R) (hlast : ∀ b, ¬ R entry b) : entry ∉ history.dropLast := by
  rcases List.eq_nil_or_concat history with rfl | ⟨init, last, rfl⟩
  · simp
  intro hmem
  rw [List.concat_eq_append] at h hmem
  rw [List.dropLast_concat] at hmem
  have hcross := (List.pairwise_append.mp h).2.2
  exact hlast last (hcross entry hmem last (List.mem_singleton_self last))

end Histories
