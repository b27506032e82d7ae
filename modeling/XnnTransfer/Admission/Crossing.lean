import XnnTransfer.Admission.Fates
import XnnTransfer.Admission.Visibility

/-!
# Crossed pairing connections

The two devices of a crossed pairing, each with its controllers and leases, and how
their entries follow the fates of the two connections.

The devices may decide differently. A device that shows the prompt of the other
connection refuses the one that it should keep, while its peer, which shows nothing
yet, drops the other connection in favour of it. This is the only way in which they
disagree.
-/

namespace XnnTransfer.Admission

open Handles Pairing Security

/-- The keys of the two devices, and where each device has its two connections. -/
structure Crossing where
  key : Side → PublicKey
  ordered : (key .low).val < (key .high).val
  owner : Side → UInt64
  windowGeneration : Side → UInt64
  slot : Side → Side → Nat
  connectionId : Side → Side → AttemptHandle
  source : Side → Side → SourceToken
  userInitiated : Side → Side → Bool

/-- The devices, and what `Bind` has answered for each connection. -/
structure World where
  device : Side → System
  result : Side → Side → Option Result := fun _ _ => none

namespace Crossing

variable {x : Crossing} {device connection : Side}

def role (device connection : Side) : Role :=
  if connection = device then .initiator else .responder

def request (x : Crossing) (device connection : Side) (nowMs : UInt64) : Request :=
  { connectionId := x.connectionId device connection
    source := x.source device connection
    localKey := x.key device
    peerKey := x.key device.other
    localRole := role device connection
    userInitiated := x.userInitiated device connection
    nowMs := nowMs }

def step (x : Crossing) (w : World) : CrossingEvent → World
  | .bind device connection nowMs =>
    let bound := (w.device device).bindLease (x.owner device) (x.slot device connection)
      (x.request device connection nowMs) (x.windowGeneration device)
    { device := Function.update w.device device bound.2
      result := Function.update w.result device
        (Function.update (w.result device) connection (some bound.1)) }
  | .markVisible device connection =>
    let marked := (w.device device).step (.markVisible (x.slot device connection))
    { w with device := Function.update w.device device marked }

/-! ### The keys -/

theorem key_ne (x : Crossing) (side : Side) : x.key side.other ≠ x.key side := by
  have hne : x.key .low ≠ x.key .high := by
    intro hsame
    have hlt := x.ordered
    rw [hsame] at hlt
    exact absurd hlt (List.lt_irrefl _)
  cases side with
  | low => exact hne.symm
  | high => exact hne

theorem minKey_eq (x : Crossing) (side : Side) :
    minKey (x.key side) (x.key side.other) = x.key .low := by
  cases side with
  | low => exact if_neg (List.lt_asymm x.ordered)
  | high => exact if_pos x.ordered

theorem initiatorKey_eq (x : Crossing) (device connection : Side) :
    (if role device connection = .initiator then x.key device else x.key device.other) =
      x.key connection := by
  by_cases hown : connection = device
  · subst hown
    simp [role]
  obtain rfl := Side.eq_other hown
  simp [role, hown]

theorem keyPair_request (x : Crossing) (device connection : Side) (nowMs : UInt64) :
    (x.request device connection nowMs).keyPair = s(x.key .low, x.key .high) := by
  cases device with
  | low => rfl
  | high => exact Sym2.eq_swap

/-! ### The entries of a device -/

/-- The entry of a connection at a device, with its lease. -/
structure Has (x : Crossing) (device connection : Side) (s : System) (entry : Entry) : Prop where
  mem : entry ∈ s.state.entries
  backed : held s.leases (x.slot device connection) = some entry.lease
  named : entry.connectionId = x.connectionId device connection
  owned : entry.ownerGeneration = x.owner device

/-- A connection that is reserved. -/
structure Reserved (x : Crossing) (device connection : Side) (s : System) (entry : Entry) : Prop
    extends x.Has device connection s entry where
  source : entry.source = x.source device connection
  initiated : entry.userInitiated = x.userInitiated device connection
  unbound : entry.bound = false
  invisible : entry.visible = false

/-- A connection that is bound to the two keys. -/
structure Bound (x : Crossing) (device connection : Side) (s : System) (visible : Bool)
    (entry : Entry) : Prop extends x.Has device connection s entry where
  bound : entry.bound = true
  shown : entry.visible = visible
  localKey : entry.localKey = x.key device
  peerKey : entry.peerKey = x.key device.other
  localRole : entry.localRole = role device connection

/-- A connection that has no entry. -/
def Gone (x : Crossing) (device connection : Side) (s : System) : Prop :=
  (∀ entry ∈ s.state.entries, entry.connectionId ≠ x.connectionId device connection) ∧
    ∀ lease, held s.leases (x.slot device connection) = some lease →
      lease.connectionId = x.connectionId device connection

/-- The answer and the entry of a connection that has met a fate. -/
def Meets (x : Crossing) (device connection : Side) (s : System) (result : Option Result) :
    Fate → Prop
  | .waiting => result = none ∧ ∃ entry, x.Reserved device connection s entry
  | .refused => (∃ answer, result = some answer ∧ answer.error ≠ .none) ∧
      x.Gone device connection s
  | .kept visible => (∃ answer, result = some answer ∧ answer.error = .none) ∧
      ∃ entry, x.Bound device connection s visible entry
  | .displaced => (∃ answer, result = some answer ∧ answer.error = .none) ∧
      x.Gone device connection s

/-- The entries of a device follow the fates of the connections. -/
structure Stands (x : Crossing) (device : Side) (s : System) (result : Side → Option Result)
    (fates : Fates) : Prop where
  consistent : s.Consistent
  ids : ∀ connection, x.connectionId device connection.other ≠ x.connectionId device connection
  slots : ∀ connection, x.slot device connection.other ≠ x.slot device connection
  meets : ∀ connection, x.Meets device connection s (result connection) (fates connection)
  only : ∀ entry ∈ s.state.entries, entry.ownerGeneration = x.owner device →
    entry.bound = true → entry.keyPair = s(x.key .low, x.key .high) →
    ∃ connection visible, fates connection = .kept visible ∧
      entry.connectionId = x.connectionId device connection

variable {s : System} {visible : Bool} {entry : Entry}

/-- What is left alone of a connection does not change its fate. -/
theorem Meets.congr {s' : System} {result : Option Result} {fate : Fate}
    (h : x.Meets device connection s result fate)
    (hheld : held s'.leases (x.slot device connection) = held s.leases (x.slot device connection))
    (hentries : ∀ entry, entry.connectionId = x.connectionId device connection →
      (entry ∈ s'.state.entries ↔ entry ∈ s.state.entries)) :
    x.Meets device connection s' result fate := by
  have hgone : x.Gone device connection s → x.Gone device connection s' := by
    rintro ⟨hentry, hlease⟩
    refine ⟨fun entry hmem hid => hentry entry ((hentries entry hid).mp hmem) hid, ?_⟩
    rwa [hheld]
  cases fate with
  | waiting | kept =>
    obtain ⟨hresult, entry, hentry⟩ := h
    exact ⟨hresult, entry, { hentry with
      mem := (hentries entry hentry.named).mpr hentry.mem
      backed := hheld.trans hentry.backed }⟩
  | refused | displaced => exact ⟨h.1, hgone h.2⟩

/-- The connection of the smaller key gives way to a visible one only, the other one
always. -/
theorem Bound.givesWay_iff (h : x.Bound device connection.other s visible entry) (nowMs : UInt64) :
    State.givesWay (x.request device connection nowMs) entry = (visible || connection = .high) := by
  have hinitiator : (x.request device connection nowMs).initiatorKey = x.key connection :=
    initiatorKey_eq x device connection
  have hmin : minKey (x.request device connection nowMs).localKey
      (x.request device connection nowMs).peerKey = x.key .low := x.minKey_eq device
  have hne := x.key_ne connection
  rw [State.givesWay, hinitiator, hmin, Entry.initiatorKey, h.localRole, h.localKey, h.peerKey,
    initiatorKey_eq, h.shown]
  cases connection with
  | low => simp [hne]
  | high =>
    have hlow : x.key .high ≠ x.key .low := (x.key_ne .high).symm
    simp [hlow]

/-- The search of `Bind` finds the other connection if it is kept. -/
theorem Stands.duplicate_cases {result : Side → Option Result} {fates : Fates}
    (h : x.Stands device s result fates) (hwaiting : fates connection = .waiting) (nowMs : UInt64) :
    (∃ visible entry, fates connection.other = .kept visible ∧
      x.Bound device connection.other s visible entry ∧
      s.state.duplicate (x.owner device) (x.request device connection nowMs) = some entry) ∨
    ((∀ visible, fates connection.other ≠ .kept visible) ∧
      s.state.duplicate (x.owner device) (x.request device connection nowMs) = none) := by
  have hsound := h.consistent.ordered.sound
  rcases hduplicate : s.state.duplicate (x.owner device) (x.request device connection nowMs) with
    _ | found
  · refine .inr ⟨fun visible hkept => ?_, rfl⟩
    have hmeets := h.meets connection.other
    rw [hkept] at hmeets
    obtain ⟨-, entry, hentry⟩ := hmeets
    rw [State.duplicate, List.find?_eq_none] at hduplicate
    refine hduplicate entry hentry.mem (decide_eq_true ⟨hentry.owned, hentry.bound, ?_⟩)
    rw [sameKeyPair_iff, keyPair_request, Entry.keyPair, hentry.localKey, hentry.peerKey]
    exact x.keyPair_request device connection.other 0
  obtain ⟨hmem, howner, hbound, hpair⟩ := State.mem_duplicate hduplicate
  rw [keyPair_request] at hpair
  obtain ⟨second, visible, hkept, hid⟩ := h.only found hmem howner hbound hpair
  have hother : second = connection.other := by
    refine Side.eq_other ?_
    rintro rfl
    rw [hwaiting] at hkept
    cases hkept
  subst hother
  have hmeets := h.meets connection.other
  rw [hkept] at hmeets
  obtain ⟨-, entry, hentry⟩ := hmeets
  obtain rfl := hsound.eq_of_connectionId hmem hentry.mem (hid.trans hentry.named.symm)
  exact .inl ⟨visible, found, hkept, hentry, rfl⟩

section Device

variable {s : System} {result : Side → Option Result} {fates : Fates}

/-- A connection that is refused loses its entry and its lease. -/
theorem Stands.refused (h : x.Stands device s result fates) {entry : Entry}
    (hentry : x.Has device connection s entry) (hwaiting : fates connection = .waiting)
    {answer : Result} (hanswer : answer.error ≠ .none)
    (hconsistent : System.Consistent
      ⟨s.state.release entry.lease, clear s.leases (x.slot device connection)⟩) :
    x.Stands device ⟨s.state.release entry.lease, clear s.leases (x.slot device connection)⟩
      (Function.update result connection (some answer))
      (Function.update fates connection .refused) where
  consistent := hconsistent
  ids := h.ids
  slots := h.slots
  meets second := by
    by_cases hown : second = connection
    · subst hown
      rw [Function.update_self, Function.update_self]
      refine ⟨⟨answer, rfl, hanswer⟩, fun found hfound hid => ?_, fun lease hlease => ?_⟩
      · obtain ⟨hmem, hne⟩ := State.mem_release_iff.mp hfound
        have hsame := h.consistent.ordered.sound.eq_of_connectionId hmem hentry.mem
          (hid.trans hentry.named.symm)
        exact hne (congrArg Entry.lease hsame)
      rw [held_clear, if_pos rfl] at hlease
      cases hlease
    obtain rfl := Side.eq_other hown
    rw [Function.update_of_ne hown, Function.update_of_ne hown]
    refine (h.meets connection.other).congr ?_ fun found hid => ?_
    · rw [held_clear, if_neg (h.slots connection)]
    refine State.mem_release_iff.trans (and_iff_left fun hlease => ?_)
    have hsame := congrArg Lease.connectionId hlease
    exact h.ids connection (hid.symm.trans (hsame.trans hentry.named))
  only found hfound howner hbound hpair := by
    obtain ⟨hmem, -⟩ := State.mem_release_iff.mp hfound
    obtain ⟨second, visible, hkept, hid⟩ := h.only found hmem howner hbound hpair
    refine ⟨second, visible, ?_, hid⟩
    rw [Function.update_of_ne, hkept]
    rintro rfl
    rw [hwaiting] at hkept
    cases hkept

/-- A connection that is bound takes the place of the other one. -/
theorem Stands.bound (h : x.Stands device s result fates) {entry : Entry} {state : State}
    {nowMs deadline : UInt64} {displaced : Option Entry}
    (hentry : x.Reserved device connection s entry) (hwaiting : fates connection = .waiting)
    (hrefuses : fates.refuses connection = false)
    (hbinds : s.state.Binds (x.owner device) entry.lease (x.request device connection nowMs)
      (x.windowGeneration device) entry deadline displaced state)
    {answer : Result} (hanswer : answer.error = .none)
    (hconsistent : System.Consistent ⟨state, s.leases⟩) :
    x.Stands device ⟨state, s.leases⟩ (Function.update result connection (some answer))
      (fates.bind connection) := by
  have hsound := h.consistent.ordered.sound
  have hcases := h.duplicate_cases hwaiting nowMs
  rw [hbinds.duplicate] at hcases
  have hnew : (entry.bindTo (x.request device connection nowMs) deadline) ∈ state.entries := by
    refine (hbinds.mem_iff hsound).mpr ⟨.inr rfl, fun other hother hid => ?_⟩
    rcases hcases with ⟨visible, found, -, hfound, rfl⟩ | ⟨-, rfl⟩
    · cases hother
      exact h.ids connection (hfound.named.symm.trans (hid.symm.trans hentry.named))
    · cases hother
  have hself : fates.bind connection connection = .kept false := by
    simp [Fates.bind, hrefuses]
  refine ⟨hconsistent, h.ids, h.slots, fun second => ?_, ?_⟩
  · by_cases hown : second = connection
    · subst hown
      rw [Function.update_self, hself]
      exact ⟨⟨answer, rfl, hanswer⟩, _,
        ⟨⟨hnew, hentry.backed, hentry.named, hentry.owned⟩, rfl, hentry.invisible, rfl, rfl, rfl⟩⟩
    obtain rfl := Side.eq_other hown
    rw [Function.update_of_ne hown]
    have hmeets := h.meets connection.other
    rcases hcases with ⟨visible, other, hkept, hother, rfl⟩ | ⟨hkept, rfl⟩
    · have hfate : fates.bind connection connection.other = .displaced := by
        simp [Fates.bind, hrefuses, hown, hkept]
      rw [hkept] at hmeets
      rw [hfate]
      refine ⟨hmeets.1, fun found hfound hid => ?_, fun lease hlease => ?_⟩
      · exact ((hbinds.mem_iff hsound).mp hfound).2 other rfl (hid.trans hother.named.symm)
      rw [hother.backed] at hlease
      rw [← Option.some.inj hlease]
      exact hother.named
    have hfate : fates.bind connection connection.other = fates connection.other := by
      rcases hother : fates connection.other with _ | _ | visible | _
      · simp [Fates.bind, hrefuses, hown, hother]
      · simp [Fates.bind, hrefuses, hown, hother]
      · exact absurd hother (hkept visible)
      · simp [Fates.bind, hrefuses, hown, hother]
    rw [hfate]
    refine hmeets.congr rfl fun found hid => ?_
    rw [hbinds.mem_iff hsound]
    constructor
    · rintro ⟨⟨hold, -⟩ | rfl, -⟩
      · exact hold
      · exact absurd (hid.symm.trans hentry.named) (h.ids connection)
    intro hold
    refine ⟨.inl ⟨hold, fun hsame => ?_⟩, by simp⟩
    exact h.ids connection (hid.symm.trans (hsame.trans hentry.named))
  intro found hfound howner hbound hpair
  obtain ⟨⟨hold, -⟩ | rfl, hstays⟩ := (hbinds.mem_iff hsound).mp hfound
  · obtain ⟨second, visible, hkept, hid⟩ := h.only found hold howner hbound hpair
    have hother : second = connection.other := by
      refine Side.eq_other ?_
      rintro rfl
      rw [hwaiting] at hkept
      cases hkept
    subst hother
    rcases hcases with ⟨_, other, -, hother, rfl⟩ | ⟨hnone, -⟩
    · exact absurd (hid.trans hother.named.symm) (hstays other rfl)
    · exact absurd hkept (hnone visible)
  · exact ⟨connection, false, hself, hentry.named⟩

theorem Stands.bind (h : x.Stands device s result fates) {nowMs : UInt64}
    (hwaiting : fates connection = .waiting) (hgeneration : x.windowGeneration device ≠ 0)
    (hwindow : s.state.WindowOpen (x.owner device) (x.windowGeneration device) nowMs) :
    let bound := s.bindLease (x.owner device) (x.slot device connection)
      (x.request device connection nowMs) (x.windowGeneration device)
    x.Stands device bound.2 (Function.update result connection (some bound.1))
      (fates.bind connection) := by
  intro bound
  have hmeets := h.meets connection
  rw [hwaiting] at hmeets
  obtain ⟨-, entry, hentry⟩ := hmeets
  obtain ⟨found, hfound, henabled, hopened, hdeadline⟩ := hwindow
  have hpasses : s.state.Passes (x.owner device) entry.lease (x.request device connection nowMs)
      (x.windowGeneration device) entry found :=
    ⟨h.consistent.ordered.sound.findLease_of_mem hentry.mem, hfound,
      decide_eq_true ⟨hentry.unbound, hentry.owned, hentry.named, hentry.source, hentry.initiated,
        henabled, hdeadline, hgeneration, hopened.symm⟩, (x.key_ne device).symm⟩
  have hrefused : bound.1.error ≠ .none ↔ fates.refuses connection = true := by
    rw [System.bindLease_result, hentry.backed, hpasses.refused_iff]
    rcases h.duplicate_cases hwaiting nowMs with
      ⟨visible, other, hkept, hother, hdup⟩ | ⟨hkept, hdup⟩
    · simp [hdup, hother.givesWay_iff, Fates.refuses, hkept]
    rcases hother : fates connection.other with _ | _ | visible | _
    · simp [hdup, Fates.refuses, hother]
    · simp [hdup, Fates.refuses, hother]
    · exact absurd hother (hkept visible)
    · simp [hdup, Fates.refuses, hother]
  have hconsistent : bound.2.Consistent := h.consistent.bindLease _ _ _ _
  rcases s.bindLease_cases (x.owner device) (x.slot device connection)
      (x.request device connection nowMs) (x.windowGeneration device) with
    ⟨herror, hdropped⟩ | ⟨own, reserved, deadline, displaced, hheld, hanswer, hbinds, hleases⟩
  · have hfates : fates.bind connection = Function.update fates connection .refused := by
      rw [Fates.bind, if_pos (hrefused.mp herror)]
    have hrelease : bound.2 =
        ⟨s.state.release entry.lease, clear s.leases (x.slot device connection)⟩ := by
      rw [show bound.2 = _ from hdropped, hentry.backed]
      rfl
    rw [hrelease] at hconsistent
    rw [hfates, hrelease]
    exact h.refused hentry.toHas hwaiting herror hconsistent
  have hnone : bound.1.error = .none := by
    rw [show bound.1 = _ from hanswer]
  have hrefuses : fates.refuses connection = false :=
    Bool.eq_false_of_not_eq_true fun hrefuses => hrefused.mpr hrefuses hnone
  have hown : own = entry.lease := Option.some.inj (hheld.symm.trans hentry.backed)
  have hsame : reserved = entry := by
    have hfound := hbinds.found
    rw [hown, hpasses.reserves] at hfound
    exact (Option.some.inj hfound).symm
  subst hown hsame
  have hsystem : bound.2 = ⟨bound.2.state, s.leases⟩ := by
    rw [← show bound.2.leases = s.leases from hleases]
  rw [hsystem] at hconsistent ⊢
  exact h.bound hentry hwaiting hrefuses hbinds hnone hconsistent

/-- A mark changes nothing, or the connection is kept and is visible now. -/
theorem Stands.markVisible (h : x.Stands device s result fates)
    (hbound : (fates connection).wasBound = true) :
    x.Stands device (s.step (.markVisible (x.slot device connection))) result fates ∨
    ∃ visible, fates connection = .kept visible ∧
      x.Stands device (s.step (.markVisible (x.slot device connection))) result
        (fates.show connection) := by
  have hsound := h.consistent.ordered.sound
  have hconsistent := h.consistent.step (.markVisible (x.slot device connection))
  rcases s.state.markVisible_cases (held s.leases (x.slot device connection)) with
    hsame | ⟨own, marked, hheld, hfound, hmarked, -, -, hshown⟩
  · refine .inl ?_
    rw [System.step, hsame]
    exact h
  rw [System.step, hshown] at hconsistent ⊢
  obtain ⟨hmem, hlease⟩ := State.mem_of_findLease hfound
  have hmeets := h.meets connection
  rcases hfate : fates connection with _ | _ | visible | _
  · simp [hfate, Fate.wasBound] at hbound
  · simp [hfate, Fate.wasBound] at hbound
  · rw [hfate] at hmeets
    obtain ⟨hanswer, entry, hentry⟩ := hmeets
    have hown : own = entry.lease := Option.some.inj (hheld.symm.trans hentry.backed)
    have hsame : marked = entry := by
      rw [hown, hsound.findLease_of_mem hentry.mem] at hfound
      exact (Option.some.inj hfound).symm
    subst hown hsame
    refine .inr ⟨visible, rfl, hconsistent, h.ids, h.slots, fun second => ?_, ?_⟩
    · by_cases hown : second = connection
      · subst hown
        rw [Fates.show, Function.update_self]
        exact ⟨hanswer, _, ⟨(hsound.mem_shows_iff hfound).mpr (.inr rfl), hentry.backed,
          hentry.named, hentry.owned⟩, hentry.bound, rfl, hentry.localKey, hentry.peerKey,
          hentry.localRole⟩
      obtain rfl := Side.eq_other hown
      rw [Fates.show, Function.update_of_ne hown]
      refine (h.meets connection.other).congr rfl fun found hid => ?_
      rw [hsound.mem_shows_iff hfound]
      constructor
      · rintro (⟨hold, -⟩ | rfl)
        · exact hold
        · exact absurd (hid.symm.trans hentry.named) (h.ids connection)
      intro hold
      refine .inl ⟨hold, fun hsame => ?_⟩
      exact h.ids connection (hid.symm.trans (hsame.trans hentry.named))
    intro found hmem' howner hbound' hpair
    rcases (hsound.mem_shows_iff hfound).mp hmem' with ⟨hold, -⟩ | rfl
    · obtain ⟨second, visible', hkept, hid⟩ := h.only found hold howner hbound' hpair
      by_cases hown : second = connection
      · subst hown
        exact ⟨second, true, by rw [Fates.show, Function.update_self], hid⟩
      · exact ⟨second, visible', by rw [Fates.show, Function.update_of_ne hown, hkept], hid⟩
    · exact ⟨connection, true, by rw [Fates.show, Function.update_self], hentry.named⟩
  rw [hfate] at hmeets
  have hid := hmeets.2.2 own hheld
  exact absurd (congrArg Lease.connectionId hlease) fun hsame =>
    hmeets.2.1 marked hmem (hsame.trans hid)

end Device

/-! ### The two devices -/

/-- `Bind` has bound the connection at some time. -/
def WasBound (w : World) (device connection : Side) : Prop :=
  ∃ answer, w.result device connection = some answer ∧ answer.error = .none

def Refused (w : World) (device connection : Side) : Prop :=
  ∃ answer, w.result device connection = some answer ∧ answer.error ≠ .none

/-- The connection was offered to `Bind` and is not there any more. -/
def Dropped (x : Crossing) (w : World) (device connection : Side) : Prop :=
  (w.result device connection).isSome = true ∧ ∀ entry ∈ (w.device device).state.entries,
    entry.connectionId ≠ x.connectionId device connection

def Kept (x : Crossing) (w : World) (device connection : Side) : Prop :=
  ∃ entry ∈ (w.device device).state.entries,
    entry.connectionId = x.connectionId device connection ∧ entry.bound = true

def Visible (x : Crossing) (w : World) (device connection : Side) : Prop :=
  ∃ entry ∈ (w.device device).state.entries,
    entry.connectionId = x.connectionId device connection ∧ entry.visible = true

def Offered (w : World) : Prop := ∀ device connection, (w.result device connection).isSome = true

/-- Each connection is offered once at each device, while the window of the device is open,
and is marked as visible after both devices have bound it. -/
def Allowed (x : Crossing) (w : World) : CrossingEvent → Prop
  | .bind device connection nowMs => w.result device connection = none ∧
      (w.device device).state.WindowOpen (x.owner device) (x.windowGeneration device) nowMs
  | .markVisible _ connection => ∀ device, WasBound w device connection

/-- No device binds the connection to keep while only its peer shows the other one, and
no device shows the other one while its peer has bound the connection to keep. -/
def Calm (x : Crossing) (w : World) : CrossingEvent → Prop
  | .bind device .low _ => x.Visible w device.other .high → x.Visible w device .high
  | .markVisible device .high => ¬ x.Kept w device.other .low
  | .bind _ .high _ | .markVisible _ .low => True

/-- After the event every connection was offered, or none is visible. -/
def Patient (x : Crossing) (w : World) (event : CrossingEvent) : Prop :=
  Offered (x.step w event) ∨ ∀ device connection, ¬ x.Visible (x.step w event) device connection

section Decidable

variable (x : Crossing) (w : World) (device connection : Side)

instance : Decidable (WasBound w device connection) :=
  inferInstanceAs (Decidable (∃ answer ∈ w.result device connection, answer.error = .none))

instance : Decidable (Refused w device connection) :=
  inferInstanceAs (Decidable (∃ answer ∈ w.result device connection, answer.error ≠ .none))

instance : Decidable (x.Dropped w device connection) := inferInstanceAs (Decidable (_ ∧ _))

instance : Decidable (x.Kept w device connection) :=
  inferInstanceAs (Decidable (∃ entry ∈ (w.device device).state.entries, _))

instance : Decidable (x.Visible w device connection) :=
  inferInstanceAs (Decidable (∃ entry ∈ (w.device device).state.entries, _))

instance : Decidable (Offered w) := inferInstanceAs (Decidable (∀ _ _, _))

instance : ∀ event, Decidable (x.Allowed w event)
  | .bind _ _ _ => inferInstanceAs (Decidable (_ ∧ _))
  | .markVisible _ connection => inferInstanceAs (Decidable (∀ device, WasBound w device connection))

instance : ∀ event, Decidable (x.Calm w event)
  | .bind _ .low _ => inferInstanceAs (Decidable (_ → _))
  | .markVisible _ .high => inferInstanceAs (Decidable (¬ _))
  | .bind _ .high _ | .markVisible _ .low => isTrue trivial

instance (event : CrossingEvent) : Decidable (x.Patient w event) :=
  inferInstanceAs (Decidable (_ ∨ _))

end Decidable

/-- The windows are there, both connections are reserved at both devices, and no other
connection is bound to the two keys. -/
structure Ready (x : Crossing) (w : World) : Prop where
  unoffered : ∀ device connection, w.result device connection = none
  generations : ∀ device, x.windowGeneration device ≠ 0
  consistent : ∀ device, (w.device device).Consistent
  ids : ∀ device, x.connectionId device .low ≠ x.connectionId device .high
  reserved : ∀ device connection, ∃ entry, x.Reserved device connection (w.device device) entry
  others : ∀ device, ∀ entry ∈ (w.device device).state.entries,
    entry.ownerGeneration = x.owner device → entry.bound = true →
    entry.keyPair ≠ s(x.key .low, x.key .high)

/-- The devices follow the fates. -/
def Follows (x : Crossing) (w : World) (fates : Side → Fates) : Prop :=
  ∀ device, x.Stands device (w.device device) (w.result device) (fates device)

section World

variable {w : World} {fates : Side → Fates}

theorem Ready.follows (h : x.Ready w) : x.Follows w fun _ _ => .waiting := by
  intro device
  have hids : ∀ connection,
      x.connectionId device connection.other ≠ x.connectionId device connection := by
    intro connection
    cases connection with
    | low => exact (h.ids device).symm
    | high => exact h.ids device
  refine ⟨h.consistent device, hids, fun connection hsame => ?_, fun connection => ?_, ?_⟩
  · obtain ⟨entry, hentry⟩ := h.reserved device connection
    obtain ⟨other, hother⟩ := h.reserved device connection.other
    have hlease := hother.backed
    rw [hsame, hentry.backed] at hlease
    have hid := congrArg Lease.connectionId (Option.some.inj hlease)
    exact hids connection (hother.named.symm.trans (hid.symm.trans hentry.named))
  · exact ⟨h.unoffered device connection, h.reserved device connection⟩
  intro entry hentry howner hbound hpair
  exact absurd hpair (h.others device entry hentry howner hbound)

theorem Follows.wasBound (h : x.Follows w fates) (hbound : WasBound w device connection) :
    (fates device connection).wasBound = true := by
  have hmeets := (h device).meets connection
  obtain ⟨answer, hanswer, hnone⟩ := hbound
  rw [hanswer] at hmeets
  generalize fates device connection = fate at hmeets ⊢
  cases fate with
  | waiting => cases hmeets.1
  | refused =>
    obtain ⟨⟨_, ⟨⟩, herror⟩, -⟩ := hmeets
    exact absurd hnone herror
  | kept | displaced => rfl

theorem Follows.waiting (h : x.Follows w fates) (hnone : w.result device connection = none) :
    fates device connection = .waiting := by
  have hmeets := (h device).meets connection
  rw [hnone] at hmeets
  generalize fates device connection = fate at hmeets ⊢
  cases fate with
  | waiting => rfl
  | refused | kept | displaced => obtain ⟨⟨_, ⟨⟩, _⟩, -⟩ := hmeets

theorem Follows.offered (h : x.Follows w fates)
    (hsome : (w.result device connection).isSome = true) :
    fates device connection ≠ .waiting := by
  intro hwaiting
  have hmeets := (h device).meets connection
  rw [hwaiting] at hmeets
  rw [hmeets.1] at hsome
  cases hsome

variable {visible : Bool} {event : CrossingEvent}

theorem Follows.entry_of_kept (h : x.Follows w fates)
    (hkept : fates device connection = .kept visible) :
    ∃ entry, x.Bound device connection (w.device device) visible entry := by
  have hmeets := (h device).meets connection
  rw [hkept] at hmeets
  exact hmeets.2

theorem Follows.visible_iff (h : x.Follows w fates) :
    x.Visible w device connection ↔ fates device connection = .kept true := by
  constructor
  · rintro ⟨entry, hentry, hid, hvisible⟩
    have hmeets := (h device).meets connection
    have hsound := (h device).consistent.ordered.sound
    generalize fates device connection = fate at hmeets ⊢
    cases fate with
    | waiting =>
      obtain ⟨-, other, hother⟩ := hmeets
      obtain rfl := hsound.eq_of_connectionId hentry hother.mem (hid.trans hother.named.symm)
      cases hother.invisible.symm.trans hvisible
    | kept visible =>
      obtain ⟨-, other, hother⟩ := hmeets
      obtain rfl := hsound.eq_of_connectionId hentry hother.mem (hid.trans hother.named.symm)
      rw [← hother.shown, hvisible]
    | refused | displaced => exact absurd hid (hmeets.2.1 entry hentry)
  intro hkept
  obtain ⟨entry, hentry⟩ := h.entry_of_kept hkept
  exact ⟨entry, hentry.mem, hentry.named, hentry.shown⟩

theorem Follows.kept (h : x.Follows w fates) (hkept : fates device connection = .kept visible) :
    x.Kept w device connection := by
  obtain ⟨entry, hentry⟩ := h.entry_of_kept hkept
  exact ⟨entry, hentry.mem, hentry.named, hentry.bound⟩

theorem Follows.dropped_iff (h : x.Follows w fates) :
    x.Dropped w device connection ↔
      fates device connection = .refused ∨ fates device connection = .displaced := by
  have hmeets := (h device).meets connection
  generalize fates device connection = fate at hmeets ⊢
  cases fate with
  | waiting =>
    refine ⟨fun ⟨hsome, _⟩ => ?_, by simp⟩
    rw [hmeets.1] at hsome
    cases hsome
  | kept visible =>
    obtain ⟨-, entry, hentry⟩ := hmeets
    exact ⟨fun ⟨_, hgone⟩ => absurd hentry.named (hgone entry hentry.mem), by simp⟩
  | refused | displaced =>
    obtain ⟨⟨answer, hanswer, -⟩, hgone, -⟩ := hmeets
    exact ⟨fun _ => by simp, fun _ => ⟨by rw [hanswer]; rfl, hgone⟩⟩

theorem Follows.refused (h : x.Follows w fates) (hrefused : Refused w device connection) :
    fates device connection = .refused := by
  have hmeets := (h device).meets connection
  obtain ⟨answer, hanswer, herror⟩ := hrefused
  rw [hanswer] at hmeets
  generalize fates device connection = fate at hmeets ⊢
  cases fate with
  | waiting => cases hmeets.1
  | refused => rfl
  | kept | displaced =>
    obtain ⟨⟨_, ⟨⟩, hnone⟩, -⟩ := hmeets
    exact absurd hnone herror

/-- What the devices do is what their fates do. -/
theorem Follows.step (h : x.Follows w fates) (hgeneration : ∀ device, x.windowGeneration device ≠ 0)
    (hallowed : x.Allowed w event) :
    ∃ fates', x.Follows (x.step w event) fates' ∧ Moves fates event fates' := by
  cases event with
  | bind own connection nowMs =>
    have hwaiting := h.waiting hallowed.1
    refine ⟨_, fun device => ?_, .bind hwaiting⟩
    by_cases hown : device = own
    · subst hown
      simp only [Crossing.step, Function.update_self]
      exact (h device).bind hwaiting (hgeneration device) hallowed.2
    simp only [Crossing.step, Function.update_of_ne hown]
    exact h device
  | markVisible own connection =>
    have hboth : ∀ device, (fates device connection).wasBound = true := fun device =>
      h.wasBound (hallowed device)
    rcases (h own).markVisible (hboth own) with hstays | ⟨visible, hkept, hshows⟩
    · refine ⟨fates, fun device => ?_, .stays⟩
      by_cases hown : device = own
      · subst hown
        simpa only [Crossing.step, Function.update_self] using hstays
      simp only [Crossing.step, Function.update_of_ne hown]
      exact h device
    refine ⟨_, fun device => ?_, .shows hboth hkept⟩
    by_cases hown : device = own
    · subst hown
      simpa only [Crossing.step, Function.update_self] using hshows
    simp only [Crossing.step, Function.update_of_ne hown]
    exact h device

theorem Follows.steady (h : x.Follows w fates) (hcalm : x.Calm w event) : Steady fates event := by
  cases event with
  | bind own connection nowMs =>
    cases connection with
    | low => exact fun hother => h.visible_iff.mp (hcalm (h.visible_iff.mpr hother))
    | high => trivial
  | markVisible own connection =>
    cases connection with
    | low => trivial
    | high => exact fun visible hkept => hcalm (h.kept hkept)

end World

theorem settled_waiting : Settled fun _ => .waiting := by
  constructor <;> simp

/-- From two devices that have reserved both connections, whatever they do in whatever
order: while no device acts on the crossing before it knows what its peer shows, they do
not decide for different connections; and if nothing is visible before every connection
was offered at both devices, both keep the connection of the smaller key. -/
theorem run_converges {w : World} (hready : x.Ready w) {events : List CrossingEvent}
    (hallowed : Runs.Admits x.step x.Allowed w events) :
    (Runs.Admits x.step x.Calm w events → ∀ device,
      x.Dropped (Runs.run x.step w events) device .high →
      ¬ Refused (Runs.run x.step w events) device.other .low) ∧
    (Runs.Admits x.step x.Patient w events → Offered (Runs.run x.step w events) → ∀ device,
      x.Kept (Runs.run x.step w events) device .low ∧
      x.Dropped (Runs.run x.step w events) device .high) := by
  constructor
  · intro hcalm device hdropped hrefused
    obtain ⟨fates, hfollows, hagreed⟩ : ∃ fates,
        x.Follows (Runs.run x.step w events) fates ∧ Agreed fates := by
      refine Runs.run_invariant (P := fun w => ∃ fates, x.Follows w fates ∧ Agreed fates) ?_
        ⟨_, hready.follows, fun _ => settled_waiting, by simp⟩ (hallowed.and hcalm)
      rintro w event ⟨fates, hfollows, hagreed⟩ ⟨hallowed, hcalm⟩
      obtain ⟨fates', hfollows', hmoves⟩ := hfollows.step hready.generations hallowed
      exact ⟨fates', hfollows', hagreed.moves hmoves (hfollows.steady hcalm)⟩
    exact hagreed.not_refused (hfollows.dropped_iff.mp hdropped) (hfollows.refused hrefused)
  intro hpatient hoffered device
  obtain ⟨fates, hfollows, hhidden⟩ : ∃ fates,
      x.Follows (Runs.run x.step w events) fates ∧ Hidden fates := by
    refine Runs.run_invariant (P := fun w => ∃ fates, x.Follows w fates ∧ Hidden fates) ?_
      ⟨_, hready.follows, fun _ => settled_waiting, by simp, by simp⟩ (hallowed.and hpatient)
    rintro w event ⟨fates, hfollows, hhidden⟩ ⟨hallowed, hpatient⟩
    obtain ⟨fates', hfollows', hmoves⟩ := hfollows.step hready.generations hallowed
    refine ⟨fates', hfollows', hhidden.moves hmoves (hpatient.imp ?_ ?_)⟩
    · exact fun hoffered device connection => hfollows'.offered (hoffered device connection)
    exact fun hnone device connection hkept =>
      hnone device connection (hfollows'.visible_iff.mpr hkept)
  obtain ⟨⟨visible, hkept⟩, hlost⟩ := hhidden.decided
    (fun device connection => hfollows.offered (hoffered device connection)) device
  exact ⟨hfollows.kept hkept, hfollows.dropped_iff.mpr hlost⟩

/-! ### Two devices that have reserved both connections -/

/-- The byte that fills the key of a device and the identifier of its connection. -/
def plainByte : Side → UInt8
  | .low => 1
  | .high => 2

def plainCrossing : Crossing where
  key side := System.octets 32 (plainByte side)
  ordered := by decide +kernel
  owner _ := 1
  windowGeneration _ := 1
  slot _ connection := if connection = .low then 0 else 1
  connectionId _ connection := System.octets 16 (plainByte connection)
  source _ _ := System.octets 16 1
  userInitiated _ _ := true

def plainDevice : System :=
  Runs.run System.step {} [.registerOwner, .openWindow 1 0 60000,
    .reserveHandshake {} 1 (System.octets 16 1) (System.octets 16 1) true 0,
    .reserveHandshake {} 1 (System.octets 16 2) (System.octets 16 1) true 0]

def plainWorld : World := { device := fun _ => plainDevice }

theorem plain_ready : plainCrossing.Ready plainWorld where
  unoffered _ _ := rfl
  generations := by decide
  consistent _ := Runs.run_invariant_all (P := System.Consistent)
    (fun _ action h => h.step action) System.consistent_start _
  ids := by decide +kernel
  reserved device connection := by
    refine ⟨{ connectionId := System.octets 16 (plainByte connection)
              leaseGeneration := if connection = .low then 1 else 2
              ownerGeneration := 1
              source := System.octets 16 1
              userInitiated := true
              admittedAtMs := 0 }, ?_⟩
    cases device <;> cases connection <;> refine ⟨⟨?_, ?_, ?_, ?_⟩, ?_, ?_, ?_, ?_⟩ <;>
      decide +kernel
  others := by decide +kernel

/-- Both connections are offered at both devices, and nothing is shown. -/
def plainCrossingEvents : List CrossingEvent :=
  [.bind .low .high 0, .bind .high .low 0, .bind .low .low 0, .bind .high .high 0]

theorem run_converges_plain :
    ¬ Refused (Runs.run plainCrossing.step plainWorld plainCrossingEvents) .low .low ∧
    plainCrossing.Kept (Runs.run plainCrossing.step plainWorld plainCrossingEvents) .high .low ∧
    plainCrossing.Dropped (Runs.run plainCrossing.step plainWorld plainCrossingEvents)
      .high .high := by
  obtain ⟨hagree, hdecide⟩ := run_converges plain_ready
    (show Runs.Admits plainCrossing.step plainCrossing.Allowed plainWorld plainCrossingEvents by
      decide +kernel)
  have hdecided := hdecide (by decide +kernel) (by decide +kernel) .high
  exact ⟨hagree (by decide +kernel) .high hdecided.2, hdecided⟩

/-- Both devices bind the other connection, and one of them shows it before the
connection to keep is offered. -/
def shownEarly : List CrossingEvent :=
  [.bind .low .high 0, .bind .high .high 0, .markVisible .low .high, .bind .low .low 0,
    .bind .high .low 0]

/-- One device has dropped the other connection for the one to keep, and its peer has
refused that one. -/
theorem decides_differently :
    plainCrossing.Ready plainWorld ∧
    Runs.Admits plainCrossing.step plainCrossing.Allowed plainWorld shownEarly ∧
    plainCrossing.Dropped (Runs.run plainCrossing.step plainWorld shownEarly) .high .high ∧
    plainCrossing.Kept (Runs.run plainCrossing.step plainWorld shownEarly) .high .low ∧
    Refused (Runs.run plainCrossing.step plainWorld shownEarly) .low .low ∧
    plainCrossing.Kept (Runs.run plainCrossing.step plainWorld shownEarly) .low .high :=
  ⟨plain_ready, by decide +kernel, by decide +kernel, by decide +kernel, by decide +kernel,
    by decide +kernel⟩

end Crossing

end XnnTransfer.Admission
