import Mathlib.Data.Fintype.Basic
import Mathlib.Logic.Function.Basic

/-!
# The fates of crossed pairing connections

Two devices pair with each other, and each of them has opened a connection to the
other. Both devices shall keep the connection that the device with the smaller key
has opened. Each device decides when it binds the second connection, from what it
has bound and shown so far; what becomes of a connection at a device is its fate.

A connection is named after the device that has opened it. What a device does with
the two connections is described here without its entries and leases.
-/

namespace XnnTransfer.Admission

/-- The two devices, by their keys. -/
inductive Side
  | low
  | high
  deriving DecidableEq, Repr

instance : Fintype Side := ⟨{Side.low, Side.high}, fun side => by cases side <;> simp⟩

def Side.other : Side → Side
  | .low => .high
  | .high => .low

@[simp] theorem Side.other_other (side : Side) : side.other.other = side := by
  cases side <;> rfl

theorem Side.other_ne (side : Side) : side.other ≠ side := by
  cases side <;> decide

variable {connection second : Side}

theorem Side.eq_other {side : Side} (h : second ≠ side) : second = side.other := by
  cases side <;> cases second <;> first | rfl | exact absurd rfl h

/-! ### Fates -/

/-- What has become of a connection at a device. -/
inductive Fate
  | waiting
  | refused
  | kept (visible : Bool)
  | displaced
  deriving DecidableEq, Repr

/-- `Bind` has bound the connection at some time. -/
def Fate.wasBound : Fate → Bool
  | .kept _ | .displaced => true
  | .waiting | .refused => false

/-- The fates of the two connections at a device. -/
abbrev Fates := Side → Fate

variable {fates : Fates}

/-- Whether the connection is refused in favour of the other one. -/
def Fates.refuses (fates : Fates) (connection : Side) : Bool :=
  match fates connection.other with
  | .kept visible => visible || connection = .high
  | .waiting | .refused | .displaced => false

def Fates.bind (fates : Fates) (connection : Side) : Fates :=
  if fates.refuses connection then Function.update fates connection .refused
  else fun second =>
    if second = connection then .kept false
    else match fates second with
      | .kept _ => .displaced
      | fate => fate

def Fates.show (fates : Fates) (connection : Side) : Fates :=
  Function.update fates connection (.kept true)

inductive CrossingEvent
  | bind (device connection : Side) (nowMs : UInt64)
  | markVisible (device connection : Side)
  deriving DecidableEq, Repr

/-- What an event does to the fates at the two devices. -/
inductive Moves (fates : Side → Fates) : CrossingEvent → (Side → Fates) → Prop
  | bind {device connection : Side} {nowMs : UInt64}
      (hwaiting : fates device connection = .waiting) :
      Moves fates (.bind device connection nowMs)
        (Function.update fates device ((fates device).bind connection))
  | stays {device connection : Side} : Moves fates (.markVisible device connection) fates
  | shows {device connection : Side} {visible : Bool}
      (hboth : ∀ other, (fates other connection).wasBound = true)
      (hkept : fates device connection = .kept visible) :
      Moves fates (.markVisible device connection)
        (Function.update fates device ((fates device).show connection))

/-- What each device makes sure of by itself. -/
structure Settled (fates : Fates) : Prop where
  upheld : fates .low ≠ .displaced
  frozen : fates .low = .refused → fates .high = .kept true
  lost : fates .high = .refused ∨ fates .high = .displaced → ∃ visible, fates .low = .kept visible
  single : ∀ visible visible', fates .low = .kept visible → fates .high ≠ .kept visible'

theorem Settled.bind {fates : Fates} (h : Settled fates) {connection : Side}
    (hwaiting : fates connection = .waiting) : Settled (fates.bind connection) := by
  cases connection with
  | low =>
    rcases hhigh : fates .high with _ | _ | visible | _
    · constructor <;> simp [Fates.bind, Fates.refuses, Side.other, hhigh]
    · constructor <;> simp [Fates.bind, Fates.refuses, Side.other, hhigh]
    · cases visible <;> constructor <;>
        simp [Fates.bind, Fates.refuses, Side.other, hhigh]
    · constructor <;> simp [Fates.bind, Fates.refuses, Side.other, hhigh]
  | high =>
    rcases hlow : fates .low with _ | _ | visible | _
    · constructor <;> simp [Fates.bind, Fates.refuses, Side.other, hlow]
    · exact absurd (h.frozen hlow) (by simp [hwaiting])
    · constructor <;> simp [Fates.bind, Fates.refuses, Side.other, hlow]
    · exact absurd hlow h.upheld

theorem Settled.show (h : Settled fates) {visible : Bool} (hkept : fates connection = .kept visible) :
    Settled (fates.show connection) := by
  cases connection with
  | low =>
    have hhigh := h.single visible
    constructor <;> simp_all [Fates.show]
  | high =>
    have hlow : ∀ visible', fates .low ≠ .kept visible' := fun visible' hlow =>
      h.single visible' visible hlow hkept
    refine ⟨?_, ?_, ?_, ?_⟩
    · simpa [Fates.show] using h.upheld
    · simp [Fates.show]
    · simp [Fates.show]
    intro visible' _ hlow'
    exact absurd (by simpa [Fates.show] using hlow') (hlow visible')

/-- Nothing becomes visible by a binding. -/
theorem Fates.kept_of_bind (h : fates.bind connection second = .kept true) :
    fates second = .kept true := by
  unfold Fates.bind at h
  split at h
  · by_cases hsame : second = connection
    · subst hsame
      simp at h
    · rwa [Function.update_of_ne hsame] at h
  dsimp only at h
  split at h
  · simp at h
  split at h
  · cases h
  · exact h

theorem Moves.settled {fates fates' : Side → Fates} {event : CrossingEvent}
    (h : Moves fates event fates') (hsettled : ∀ device, Settled (fates device)) :
    ∀ device, Settled (fates' device) := by
  cases h with
  | bind hwaiting =>
    rw [Function.forall_update_iff fates fun _ => Settled]
    exact ⟨(hsettled _).bind hwaiting, fun device _ => hsettled device⟩
  | stays => exact hsettled
  | shows _ hkept =>
    rw [Function.forall_update_iff fates fun _ => Settled]
    exact ⟨(hsettled _).show hkept, fun device _ => hsettled device⟩

/-- No device binds the connection to keep while only its peer shows the other one, and
no device shows the other one while its peer has bound the connection to keep. -/
def Steady (fates : Side → Fates) : CrossingEvent → Prop
  | .bind device .low _ =>
    fates device.other .high = .kept true → fates device .high = .kept true
  | .markVisible device .high => ∀ visible, fates device.other .low ≠ .kept visible
  | .bind _ .high _ | .markVisible _ .low => True

/-- A device shows the other connection only while its peer keeps it. -/
structure Agreed (fates : Side → Fates) : Prop where
  settled : ∀ device, Settled (fates device)
  shared : ∀ device, fates device .high = .kept true →
    ∃ visible, fates device.other .high = .kept visible

theorem Agreed.moves {fates fates' : Side → Fates} {event : CrossingEvent} (h : Agreed fates)
    (hmoves : Moves fates event fates') (hsteady : Steady fates event) : Agreed fates' := by
  refine ⟨hmoves.settled h.settled, fun device hshown => ?_⟩
  cases hmoves with
  | @bind own connection _ hwaiting =>
    by_cases hown : device = own
    · subst hown
      rw [Function.update_self] at hshown
      rw [Function.update_of_ne device.other_ne]
      exact h.shared device (Fates.kept_of_bind hshown)
    obtain rfl := Side.eq_other hown
    rw [Function.update_of_ne own.other_ne] at hshown
    obtain ⟨visible, hkept⟩ := h.shared _ hshown
    rw [Side.other_other] at hkept ⊢
    rw [Function.update_self]
    cases connection with
    | low =>
      -- the peer shows the other connection, so this device does so as well
      have hown := hsteady hshown
      exact ⟨true, by simp [Fates.bind, Fates.refuses, Side.other, hown]⟩
    | high => exact absurd hwaiting (by simp [hkept])
  | stays => exact h.shared device hshown
  | @shows own connection visible hboth hkept =>
    cases connection with
    | low =>
      have hsame : ∀ second, Function.update fates own ((fates own).show .low) second .high =
          fates second .high := by
        intro second
        by_cases hown : second = own
        · subst hown
          rw [Function.update_self]
          simp [Fates.show]
        · rw [Function.update_of_ne hown]
      rw [hsame] at hshown ⊢
      exact h.shared device hshown
    | high =>
      by_cases hown : device = own
      · subst hown
        rw [Function.update_of_ne device.other_ne]
        rcases hother : fates device.other .high with _ | _ | visible' | _
        · have := hboth device.other
          simp [hother, Fate.wasBound] at this
        · have := hboth device.other
          simp [hother, Fate.wasBound] at this
        · exact ⟨visible', rfl⟩
        obtain ⟨visible', hlow⟩ := (h.settled device.other).lost (.inr hother)
        exact absurd hlow (hsteady visible')
      obtain rfl := Side.eq_other hown
      rw [Side.other_other, Function.update_self]
      exact ⟨true, by simp [Fates.show]⟩

/-- The peer of a device that has lost the other connection has not refused the one to keep. -/
theorem Agreed.not_refused {fates : Side → Fates} (h : Agreed fates) {device : Side}
    (hlost : fates device .high = .refused ∨ fates device .high = .displaced) :
    fates device.other .low ≠ .refused := by
  intro hrefused
  obtain ⟨visible, hkept⟩ := h.shared _ ((h.settled device.other).frozen hrefused)
  rw [Side.other_other] at hkept
  rcases hlost with hlost | hlost <;> simp [hkept] at hlost

/-- Nothing is shown before every connection was offered at every device. -/
structure Hidden (fates : Side → Fates) : Prop where
  settled : ∀ device, Settled (fates device)
  upheld : ∀ device, fates device .low ≠ .refused
  hidden : (∀ device connection, fates device connection ≠ .waiting) ∨
    ∀ device connection, fates device connection ≠ .kept true

theorem Hidden.moves {fates fates' : Side → Fates} {event : CrossingEvent} (h : Hidden fates)
    (hmoves : Moves fates event fates')
    (hhidden : (∀ device connection, fates' device connection ≠ .waiting) ∨
      ∀ device connection, fates' device connection ≠ .kept true) : Hidden fates' := by
  refine ⟨hmoves.settled h.settled, ?_, hhidden⟩
  cases hmoves with
  | @bind device connection _ hwaiting =>
    rw [Function.forall_update_iff fates fun _ fates => fates .low ≠ .refused]
    refine ⟨?_, fun other _ => h.upheld other⟩
    have hnone : ∀ connection, fates device connection ≠ .kept true := by
      rcases h.hidden with hoffered | hhidden
      · exact absurd hwaiting (hoffered device connection)
      · exact hhidden device
    cases connection with
    | low =>
      have hrefuses : (fates device).refuses .low = false := by
        rcases hhigh : fates device .high with _ | _ | visible | _ <;>
          simp [Fates.refuses, Side.other, hhigh]
        cases visible
        · rfl
        · exact absurd hhigh (hnone .high)
      simp [Fates.bind, hrefuses]
    | high =>
      have hlow := h.upheld device
      rcases hfate : fates device .low with _ | _ | visible | _ <;>
        simp_all [Fates.bind, Fates.refuses, Side.other]
  | stays => exact h.upheld
  | @shows device connection _ _ hkept =>
    rw [Function.forall_update_iff fates fun _ fates => fates .low ≠ .refused]
    refine ⟨?_, fun other _ => h.upheld other⟩
    cases connection with
    | low => simp [Fates.show]
    | high => simpa [Fates.show] using h.upheld device

/-- Once every connection was offered, each device has kept the right one. -/
theorem Hidden.decided {fates : Side → Fates} (h : Hidden fates)
    (hoffered : ∀ device connection, fates device connection ≠ .waiting) (device : Side) :
    (∃ visible, fates device .low = .kept visible) ∧
      (fates device .high = .refused ∨ fates device .high = .displaced) := by
  have hlow : ∃ visible, fates device .low = .kept visible := by
    rcases hfate : fates device .low with _ | _ | visible | _
    · exact absurd hfate (hoffered device .low)
    · exact absurd hfate (h.upheld device)
    · exact ⟨visible, rfl⟩
    · exact absurd hfate (h.settled device).upheld
  refine ⟨hlow, ?_⟩
  obtain ⟨visible, hkept⟩ := hlow
  rcases hfate : fates device .high with _ | _ | visible' | _
  · exact absurd hfate (hoffered device .high)
  · exact .inl rfl
  · exact absurd hfate ((h.settled device).single visible visible' hkept)
  · exact .inr rfl

end XnnTransfer.Admission
