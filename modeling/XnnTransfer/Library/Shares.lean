import Mathlib.Algebra.BigOperators.Group.List.Basic

/-!
# Shares of a common resource

Several parties hold shares of one resource, and the resource keeps books about
what is held in total. A change of the books and of one share preserves the
frame if the books stay right whatever the other parties hold. Such changes
compose, and a party that makes one keeps the books right for everybody.
-/

namespace Shares

variable {σ M α : Type*} [AddCommMonoid M]

/-- Whatever else is held, books that were right with `m` are right with `m'`. -/
def Updates (Books : σ → M → Prop) (s : σ) (m : M) (s' : σ) (m' : M) : Prop :=
  ∀ frame, Books s (m + frame) → Books s' (m' + frame)

variable {Books : σ → M → Prop} {s s' s'' : σ} {m m' m'' : M}

theorem Updates.refl : Updates Books s m s m := fun _ h => h

theorem Updates.trans (h : Updates Books s m s' m') (h' : Updates Books s' m' s'' m'') :
    Updates Books s m s'' m'' :=
  fun frame hbooks => h' frame (h frame hbooks)

/-- What all parties hold together. -/
def total (share : α → M) (parties : List α) : M := (parties.map share).sum

@[simp] theorem total_nil (share : α → M) : total share [] = 0 := rfl

@[simp] theorem total_cons (share : α → M) (p : α) (parties : List α) :
    total share (p :: parties) = share p + total share parties := by
  simp [total]

theorem total_concat (share : α → M) (parties : List α) (p : α) :
    total share (parties ++ [p]) = share p + total share parties := by
  simp [total, add_comm]

variable {i : Nat} {others : M}

/-- The total splits into the share of one party and what the others hold. -/
theorem exists_frame (share : α → M) {parties : List α} {p : α} (hi : parties[i]? = some p) :
    ∃ frame, total share parties = share p + frame ∧
      (∀ p', total share (parties.set i p') = share p' + frame) ∧
      total share (parties.eraseIdx i) = frame := by
  induction parties generalizing i with
  | nil => cases hi
  | cons q rest ih =>
    cases i with
    | zero =>
      cases hi
      exact ⟨total share rest, total_cons .., fun p' => total_cons .., rfl⟩
    | succ i =>
      obtain ⟨frame, htotal, hset, herase⟩ := ih hi
      refine ⟨share q + frame, ?_, fun p' => ?_, ?_⟩
      · rw [total_cons, htotal, add_left_comm]
      · rw [List.set_cons_succ, total_cons, hset, add_left_comm]
      · rw [List.eraseIdx_cons_succ, total_cons, herase]

/-- A party that preserves the frame keeps the books right. -/
theorem Updates.set {share : α → M} {parties : List α} {p p' : α}
    (h : Updates Books s (share p) s' (share p')) (hi : parties[i]? = some p)
    (hbooks : Books s (total share parties + others)) :
    Books s' (total share (parties.set i p') + others) := by
  obtain ⟨frame, htotal, hset, -⟩ := exists_frame share hi
  rw [htotal, add_assoc] at hbooks
  rw [hset, add_assoc]
  exact h _ hbooks

/-- A party that gives back everything can leave. -/
theorem Updates.eraseIdx {share : α → M} {parties : List α} {p : α}
    (h : Updates Books s (share p) s' 0) (hi : parties[i]? = some p)
    (hbooks : Books s (total share parties + others)) :
    Books s' (total share (parties.eraseIdx i) + others) := by
  obtain ⟨frame, htotal, -, herase⟩ := exists_frame share hi
  rw [htotal, add_assoc] at hbooks
  rw [herase, ← zero_add (frame + others)]
  exact h _ hbooks

/-- A new party can join with what it took. -/
theorem Updates.concat {share : α → M} {parties : List α} {p : α}
    (h : Updates Books s 0 s' (share p)) (hbooks : Books s (total share parties + others)) :
    Books s' (total share (parties ++ [p]) + others) := by
  rw [total_concat, add_assoc]
  exact h _ (by rwa [zero_add])

end Shares
