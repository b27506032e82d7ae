import Mathlib.Data.List.Induction

/-!
# Runs of a transition function

A system is a function from a state and an action to the next state. A run is
the fold of that function over a list of actions. The rules below turn what one
step preserves into what every run preserves: for a property of states, for a
reflexive and transitive relation between states, and for a relation between
what a run has emitted and the state it has reached.
-/

namespace Runs

variable {σ α ω : Type*}

/-- The state reached from `s` by the actions in order. -/
def run (step : σ → α → σ) (s : σ) (actions : List α) : σ :=
  actions.foldl step s

@[simp] theorem run_nil (step : σ → α → σ) (s : σ) : run step s [] = s := rfl

@[simp] theorem run_cons (step : σ → α → σ) (s : σ) (a : α) (rest : List α) :
    run step s (a :: rest) = run step (step s a) rest := rfl

theorem run_append (step : σ → α → σ) (s : σ) (first second : List α) :
    run step s (first ++ second) = run step (run step s first) second := by
  simp [run, List.foldl_append]

/-- Every action of the list is admitted by the state it is taken in. -/
def Admits (step : σ → α → σ) (ok : σ → α → Prop) : σ → List α → Prop
  | _, [] => True
  | s, a :: rest => ok s a ∧ Admits step ok (step s a) rest

instance decidableAdmits (step : σ → α → σ) (ok : σ → α → Prop)
    [∀ s a, Decidable (ok s a)] : ∀ s actions, Decidable (Admits step ok s actions)
  | _, [] => isTrue trivial
  | s, a :: rest =>
    have := decidableAdmits step ok (step s a) rest
    inferInstanceAs (Decidable (ok s a ∧ Admits step ok (step s a) rest))

theorem admits_append {step : σ → α → σ} {ok : σ → α → Prop} {s : σ}
    {first second : List α} :
    Admits step ok s (first ++ second) ↔
      Admits step ok s first ∧ Admits step ok (run step s first) second := by
  induction first generalizing s with
  | nil => simp [Admits]
  | cons a rest ih => simp [Admits, ih, and_assoc]

theorem admits_of_forall {step : σ → α → σ} {ok : α → Prop} {actions : List α}
    (h : ∀ a ∈ actions, ok a) (s : σ) : Admits step (fun _ a => ok a) s actions := by
  induction actions generalizing s with
  | nil => trivial
  | cons a rest ih =>
    exact ⟨h a List.mem_cons_self, ih (fun b hb => h b (List.mem_cons_of_mem _ hb)) _⟩

theorem Admits.and {step : σ → α → σ} {ok ok' : σ → α → Prop} {s : σ} {actions : List α}
    (h : Admits step ok s actions) (h' : Admits step ok' s actions) :
    Admits step (fun s a => ok s a ∧ ok' s a) s actions := by
  induction actions generalizing s with
  | nil => trivial
  | cons a rest ih => exact ⟨⟨h.1, h'.1⟩, ih h.2 h'.2⟩

/-- An invariant of the admitted steps holds after every admitted run. -/
theorem run_invariant {step : σ → α → σ} {ok : σ → α → Prop} {P : σ → Prop}
    (hstep : ∀ s a, P s → ok s a → P (step s a)) {s : σ} (hs : P s)
    {actions : List α} (hok : Admits step ok s actions) :
    P (run step s actions) := by
  induction actions generalizing s with
  | nil => exact hs
  | cons a rest ih => exact ih (hstep s a hs hok.1) hok.2

/-- An invariant of every step holds after every run. -/
theorem run_invariant_all {step : σ → α → σ} {P : σ → Prop}
    (hstep : ∀ s a, P s → P (step s a)) {s : σ} (hs : P s) (actions : List α) :
    P (run step s actions) := by
  induction actions generalizing s with
  | nil => exact hs
  | cons a rest ih => exact ih (hstep s a hs)

/-- A reflexive and transitive relation that every step from an invariant state
extends relates the two ends of every run. -/
theorem run_related {step : σ → α → σ} {P : σ → Prop} {R : σ → σ → Prop}
    (hrefl : ∀ s, R s s) (htrans : ∀ s t u, R s t → R t u → R s u)
    (hinv : ∀ s a, P s → P (step s a)) (hstep : ∀ s a, P s → R s (step s a))
    {s : σ} (hs : P s) (actions : List α) : R s (run step s actions) := by
  induction actions generalizing s with
  | nil => exact hrefl s
  | cons a rest ih => exact htrans _ _ _ (hstep s a hs) (ih (hinv s a hs))

/-- What the steps of a run emit, in order. -/
def emitted (step : σ → α → σ) (out : σ → α → List ω) : σ → List α → List ω
  | _, [] => []
  | s, a :: rest => out s a ++ emitted step out (step s a) rest

theorem emitted_append (step : σ → α → σ) (out : σ → α → List ω) (s : σ)
    (first second : List α) :
    emitted step out s (first ++ second) =
      emitted step out s first ++ emitted step out (run step s first) second := by
  induction first generalizing s with
  | nil => rfl
  | cons a rest ih => simp [emitted, ih]

theorem emitted_concat (step : σ → α → σ) (out : σ → α → List ω) (s : σ)
    (actions : List α) (last : α) :
    emitted step out s (actions ++ [last]) =
      emitted step out s actions ++ out (run step s actions) last := by
  simp [emitted_append, emitted]

/-- A relation between a history and a state that every admitted step extends holds
between what an admitted run has emitted and the state it has reached. -/
theorem run_history {step : σ → α → σ} {out : σ → α → List ω} {ok : σ → α → Prop}
    {P : List ω → σ → Prop} (hstep : ∀ h s a, P h s → ok s a → P (h ++ out s a) (step s a))
    {s : σ} (hs : P [] s) {actions : List α} (hok : Admits step ok s actions) :
    P (emitted step out s actions) (run step s actions) := by
  induction actions using List.reverseRecOn with
  | nil => exact hs
  | append_singleton actions last ih =>
    obtain ⟨hbefore, hlast⟩ := admits_append.mp hok
    rw [emitted_concat, run_append]
    exact hstep _ _ _ (ih hbefore) hlast.1

/-- The same for a relation that every step extends. -/
theorem run_history_all {step : σ → α → σ} {out : σ → α → List ω} {P : List ω → σ → Prop}
    (hstep : ∀ h s a, P h s → P (h ++ out s a) (step s a)) {s : σ} (hs : P [] s)
    (actions : List α) : P (emitted step out s actions) (run step s actions) := by
  induction actions using List.reverseRecOn with
  | nil => exact hs
  | append_singleton actions last ih =>
    rw [emitted_concat, run_append]
    exact hstep _ _ _ ih

end Runs
