import Mathlib.Logic.Function.Basic
import XnnTransfer.Library.Runs

/-!
# Logs of keyed events

A log tells how a map from keys to values changes: a key appears with a value, its
value is updated, or the key expires with the value it had. Folding the log gives
the map that its reader believes in. A log is orderly when each event fits the map
that the events before it have left; for each key an orderly log then alternates
between appearance and expiry.
-/

namespace KeyedLog

variable {κ β : Type*} [DecidableEq κ]

inductive Event (κ β : Type*)
  | appeared (key : κ) (value : β)
  | updated (key : κ) (value : β)
  | expired (key : κ) (value : β)

namespace Event

def key : Event κ β → κ
  | .appeared key _ | .updated key _ | .expired key _ => key

/-- The value that the event publishes. -/
def value? : Event κ β → Option β
  | .appeared _ value | .updated _ value => some value
  | .expired _ _ => none

end Event

/-- The map after one more event. -/
def apply (view : κ → Option β) (event : Event κ β) : κ → Option β :=
  Function.update view event.key event.value?

/-- The event tells the truth about the map it changes. -/
def Fits (view : κ → Option β) : Event κ β → Prop
  | .appeared key _ => view key = none
  | .updated key _ => view key ≠ none
  | .expired key value => view key = some value

/-- The events lead from one map to the other, and each fits the map it is applied to. -/
def Leads (before : κ → Option β) (events : List (Event κ β)) (after : κ → Option β) : Prop :=
  Runs.Admits apply Fits before events ∧ Runs.run apply before events = after

/-- The map that a log describes. -/
def view (log : List (Event κ β)) : κ → Option β := Runs.run apply (fun _ => none) log

theorem Leads.refl (view : κ → Option β) : Leads view [] view := ⟨trivial, rfl⟩

theorem Leads.trans {before between after : κ → Option β} {first second : List (Event κ β)}
    (hfirst : Leads before first between) (hsecond : Leads between second after) :
    Leads before (first ++ second) after := by
  obtain ⟨hadmits, rfl⟩ := hfirst
  obtain ⟨hadmits', rfl⟩ := hsecond
  exact ⟨Runs.admits_append.mpr ⟨hadmits, hadmits'⟩, Runs.run_append _ _ _ _⟩

theorem Leads.single {before : κ → Option β} {event : Event κ β} (h : Fits before event) :
    Leads before [event] (apply before event) :=
  ⟨⟨h, trivial⟩, rfl⟩

/-- The expiry of distinct keys, each with its value, removes these keys. -/
theorem leads_expired {before : κ → Option β} {gone : List (κ × β)}
    (hkeys : (gone.map Prod.fst).Nodup) (hvalues : ∀ pair ∈ gone, before pair.1 = some pair.2) :
    Leads before (gone.map fun pair => .expired pair.1 pair.2)
      (fun key => if key ∈ gone.map Prod.fst then none else before key) := by
  induction gone generalizing before with
  | nil => simpa using Leads.refl before
  | cons pair rest ih =>
    rw [List.map_cons, List.nodup_cons] at hkeys
    have hhead : Fits before (.expired pair.1 pair.2) := hvalues pair List.mem_cons_self
    have hothers : ∀ other ∈ rest,
        apply before (.expired pair.1 pair.2) other.1 = some other.2 := by
      intro other hother
      have hne : other.1 ≠ pair.1 := fun heq => hkeys.1 (heq ▸ List.mem_map_of_mem hother)
      exact (Function.update_of_ne hne _ _).trans (hvalues other (List.mem_cons_of_mem _ hother))
    refine ((Leads.single hhead).trans (ih hkeys.2 hothers)).imp_right fun hrun => ?_
    refine hrun.trans (funext fun key => ?_)
    by_cases hkey : key = pair.1
    · simp [hkey, apply, Event.key, Event.value?]
    refine if_congr ?_ rfl (Function.update_of_ne hkey _ _)
    rw [List.map_cons, List.mem_cons, or_iff_right hkey]

/-! ### One key of a log -/

/-- The value that was published last for the key. -/
def lastPublished (key : κ) (log : List (Event κ β)) : Option β :=
  log.reverse.findSome? fun event => if event.key = key then event.value? else none

/-- What a log describes for a key is what it published last. -/
theorem lastPublished_of_view {key : κ} {log : List (Event κ β)} {value : β}
    (h : view log key = some value) : lastPublished key log = some value := by
  induction log using List.reverseRecOn with
  | nil => cases h
  | append_singleton log event ih =>
    rw [view, Runs.run_append, Runs.run_cons, Runs.run_nil, apply] at h
    rw [lastPublished, List.reverse_concat, List.findSome?_cons]
    by_cases hkey : event.key = key
    · subst hkey
      rw [Function.update_self] at h
      simp [h]
    rw [Function.update_of_ne (Ne.symm hkey)] at h
    simpa [hkey, lastPublished] using ih h

inductive Kind
  | appeared
  | updated
  | expired
  deriving DecidableEq, Repr

def Event.kind : Event κ β → Kind
  | .appeared _ _ => .appeared
  | .updated _ _ => .updated
  | .expired _ _ => .expired

/-- The kinds of the events of a key, in order. -/
def kindsOf (key : κ) (log : List (Event κ β)) : List Kind :=
  (log.filter fun event => event.key = key).map Event.kind

/-- A key that is present may be updated and then expires; one that is absent appears. -/
def Alternates : Bool → List Kind → Prop
  | _, [] => True
  | false, .appeared :: rest => Alternates true rest
  | true, .updated :: rest => Alternates true rest
  | true, .expired :: rest => Alternates false rest
  | _, _ => False

/-- For every key, a log of fitting events alternates between appearance and expiry. -/
theorem alternates_of_admits {before : κ → Option β} {log : List (Event κ β)}
    (h : Runs.Admits apply Fits before log) (key : κ) :
    Alternates (before key).isSome (kindsOf key log) := by
  induction log generalizing before with
  | nil => trivial
  | cons event rest ih =>
    have hrest := ih h.2
    rw [apply] at hrest
    unfold kindsOf at hrest ⊢
    by_cases hkey : event.key = key
    · subst hkey
      rw [Function.update_self] at hrest
      rw [List.filter_cons_of_pos (by simp), List.map_cons]
      have hfits := h.1
      cases event with
      | appeared key value =>
        have habsent : (before key).isSome = false := Option.isSome_eq_false_iff.mpr
          (Option.isNone_iff_eq_none.mpr hfits)
        rw [Event.key, habsent]
        exact hrest
      | updated key value =>
        have hpresent : (before key).isSome = true := Option.isSome_iff_ne_none.mpr hfits
        rw [Event.key, hpresent]
        exact hrest
      | expired key value =>
        have hpresent : (before key).isSome = true := Option.isSome_of_eq_some hfits
        rw [Event.key, hpresent]
        exact hrest
    rw [Function.update_of_ne (Ne.symm hkey)] at hrest
    rwa [List.filter_cons_of_neg (by simpa using hkey)]

/-- Each expiry of an orderly log carries the value that was published last for its key. -/
theorem lastPublished_of_expired {log before after : List (Event κ β)} {key : κ} {value : β}
    (h : Runs.Admits apply Fits (fun _ => none) log)
    (hlog : log = before ++ .expired key value :: after) :
    lastPublished key before = some value := by
  rw [hlog] at h
  exact lastPublished_of_view (Runs.admits_append.mp h).2.1

end KeyedLog
