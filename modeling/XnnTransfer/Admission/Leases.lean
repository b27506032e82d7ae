import XnnTransfer.Library.Runs
import XnnTransfer.Admission.Invariants

/-!
# The controllers of an admission state and their leases

Any number of controllers share one admission state, and the leases that they
hand out are moved and destroyed at any time. Whatever they do, the limits on the
entries hold, an entry is only removed by those who may remove it, and it becomes
bound only while the window of its owner is open.

## Implementation notes

`Admit` locks the state once for each of its three parts. What another thread does
in between is covered as well, since `Bind` is given any window generation here.
-/

namespace XnnTransfer.Admission

open Handles Pairing Security

structure System where
  state : State := {}
  leases : List (Option Lease) := []
  deriving DecidableEq, Repr

inductive Action
  | registerOwner
  | retireOwner (owner : UInt64)
  | openWindow (owner nowMs durationMs : UInt64)
  | closeWindow (owner : UInt64)
  | reserveHandshake (memory : ReserveMemory) (owner : UInt64) (connectionId : AttemptHandle)
      (source : SourceToken) (userInitiated : Bool) (nowMs : UInt64)
  | bind (owner : UInt64) (slot : Nat) (request : Request) (windowGeneration : UInt64)
  | admitConnection (memory : ReserveMemory) (owner : UInt64) (request : Request)
  | markVisible (slot : Nat)
  | destroy (slot : Nat)
  | moveConstruct (slot : Nat)
  | moveAssign (target source : Nat)

/-- `~PairingAdmissionLease`, for a lease that was not moved away. -/
def State.drop (state : State) (lease : Option Lease) : State :=
  match lease with
  | none => state
  | some lease => state.release lease

namespace System

/-- The lease that `Bind` is given comes back with the result or is destroyed. -/
def bindLease (s : System) (owner : UInt64) (slot : Nat) (request : Request)
    (windowGeneration : UInt64) : Result × System :=
  let lease := held s.leases slot
  let bound := s.state.bind owner lease request windowGeneration
  if bound.1.error = .none then (bound.1, { s with state := bound.2 })
  else (bound.1, ⟨bound.2.drop lease, clear s.leases slot⟩)

/-- `Admit`. -/
def admitConnection (s : System) (memory : ReserveMemory) (owner : UInt64) (request : Request) :
    Result × System :=
  if request.connectionId.allZero = true ∨ request.localKey = request.peerKey then
    ({ error := .certificateRejected }, s)
  else
    match s.state.reserveHandshake memory owner request.connectionId request.source
        request.userInitiated request.nowMs with
    | (none, state) => ({ error := .busy }, { s with state := state })
    | (some lease, state) =>
      bindLease ⟨state, push s.leases (some lease)⟩ owner s.leases.length request
        (s.state.windowGeneration owner request.nowMs)

def step (s : System) : Action → System
  | .registerOwner => { s with state := s.state.registerOwner.2 }
  | .retireOwner owner => { s with state := s.state.retireOwner owner }
  | .openWindow owner nowMs durationMs =>
    { s with state := (s.state.openWindow owner nowMs durationMs).2 }
  | .closeWindow owner => { s with state := s.state.closeWindow owner }
  | .reserveHandshake memory owner connectionId source userInitiated nowMs =>
    let reserved :=
      s.state.reserveHandshake memory owner connectionId source userInitiated nowMs
    ⟨reserved.2, push s.leases reserved.1⟩
  | .bind owner slot request windowGeneration =>
    (s.bindLease owner slot request windowGeneration).2
  | .admitConnection memory owner request => (s.admitConnection memory owner request).2
  | .markVisible slot => { s with state := (s.state.markVisible (held s.leases slot)).2 }
  | .destroy slot => ⟨s.state.drop (held s.leases slot), clear s.leases slot⟩
  | .moveConstruct slot => { s with leases := moveConstruct s.leases slot }
  | .moveAssign target source =>
    if Movable s.leases target source then
      ⟨s.state.drop (held s.leases target), moveAssign s.leases target source⟩
    else s

end System

/-- The owner, the window generation and the time for which a call binds an entry. -/
def Action.supplies (s : System) :
    Action → Option (UInt64 × UInt64 × UInt64)
  | .bind owner _ request windowGeneration => some (owner, windowGeneration, request.nowMs)
  | .admitConnection _ owner request =>
    some (owner, s.state.windowGeneration owner request.nowMs, request.nowMs)
  | _ => none

/-- The calls that rewrite no entry. -/
def Action.isQuiet : Action → Bool
  | .bind _ _ _ _ | .admitConnection _ _ _ | .markVisible _ => false
  | _ => true

variable (state : State) (lease : Option Lease) (owner : UInt64)

theorem State.drop_sublist : (state.drop lease).entries.Sublist state.entries := by
  cases lease with
  | none => exact List.Sublist.refl _
  | some lease => exact List.filter_sublist

theorem State.drop_quiet : Quiet state (state.drop lease) := by
  refine .drops (state.drop_sublist lease) ?_
  cases lease with
  | none | some => rfl

theorem State.SameEntries.quiet {state state' : State} (h : state.SameEntries state') :
    Quiet state state' := .drops (h.entries ▸ List.Sublist.refl _) h.next

theorem State.openWindow_same (nowMs durationMs : UInt64) :
    (state.openWindow owner nowMs durationMs).2.entries = state.entries ∧
      (state.openWindow owner nowMs durationMs).2.nextLeaseGeneration =
        state.nextLeaseGeneration := by
  unfold State.openWindow
  split
  · exact ⟨rfl, rfl⟩
  split
  · exact ⟨rfl, rfl⟩
  split
  · exact ⟨rfl, rfl⟩
  · exact ⟨(state.start_same nowMs).entries, (state.start_same nowMs).next⟩

theorem State.closeWindow_cases :
    (state.closeWindow owner).nextLeaseGeneration = state.nextLeaseGeneration ∧
      ((state.closeWindow owner).entries = state.entries ∨
        (state.closeWindow owner).entries = state.entries.filter fun entry =>
          !(entry.ownerGeneration = owner ∧ entry.bound = true)) := by
  unfold State.closeWindow
  split
  · exact ⟨rfl, .inl rfl⟩
  · exact ⟨rfl, .inr rfl⟩

namespace System

variable {s : System}

theorem bindLease_result (s : System) (owner : UInt64) (slot : Nat) (request : Request)
    (windowGeneration : UInt64) :
    (s.bindLease owner slot request windowGeneration).1 =
      (s.state.bind owner (held s.leases slot) request windowGeneration).1 := by
  unfold bindLease
  dsimp only
  split <;> rfl

/-- What is left of the system after `Bind`: a lease that is refused is destroyed. -/
theorem bindLease_cases (s : System) (owner : UInt64) (slot : Nat) (request : Request)
    (windowGeneration : UInt64) :
    ((s.bindLease owner slot request windowGeneration).1.error ≠ .none ∧
      (s.bindLease owner slot request windowGeneration).2 =
        ⟨s.state.drop (held s.leases slot), clear s.leases slot⟩) ∨
    ∃ own reserved deadline displaced, held s.leases slot = some own ∧
      (s.bindLease owner slot request windowGeneration).1 =
        { displacedConnection := displaced.map Entry.connectionId } ∧
      s.state.Binds owner own request windowGeneration reserved deadline displaced
        (s.bindLease owner slot request windowGeneration).2.state ∧
      (s.bindLease owner slot request windowGeneration).2.leases = s.leases := by
  rcases s.state.bind_cases owner (held s.leases slot) request windowGeneration with
    ⟨herror, hstate⟩ | ⟨own, reserved, deadline, displaced, hheld, hresult, hbinds⟩
  · refine .inl ?_
    simp only [bindLease, if_neg herror, hstate]
    exact ⟨herror, trivial⟩
  refine .inr ⟨own, reserved, deadline, displaced, hheld, ?_⟩
  have herror : (s.state.bind owner (held s.leases slot) request windowGeneration).1.error =
      .none := by rw [hresult]
  simp only [bindLease, if_pos herror]
  exact ⟨hresult, hbinds, trivial⟩

theorem bindLease_advances (s : System) (owner : UInt64) (slot : Nat) (request : Request)
    (windowGeneration : UInt64) :
    Advances s.state (s.bindLease owner slot request windowGeneration).2.state := by
  rcases s.bindLease_cases owner slot request windowGeneration with
    ⟨-, hdropped⟩ | ⟨own, reserved, deadline, displaced, -, -, hbinds, -⟩
  · rw [hdropped]
    exact .quiet (s.state.drop_quiet _)
  · exact .binds _ _ _ _ _ _ _ hbinds

/-- `Admit` does nothing, reserves nothing, or reserves an entry and binds it. -/
theorem admitConnection_cases (s : System) (memory : ReserveMemory) (owner : UInt64) (request : Request) :
    (s.state.SameEntries (s.admitConnection memory owner request).2.state ∧
      (s.admitConnection memory owner request).2.leases = s.leases) ∨
    ∃ entry state, s.state.Reserves entry state ∧
      entry.ownerGeneration = owner ∧
      s.admitConnection memory owner request =
        bindLease ⟨state, push s.leases (some entry.lease)⟩ owner s.leases.length request
          (s.state.windowGeneration owner request.nowMs) := by
  unfold admitConnection
  split
  · exact .inl ⟨⟨rfl, rfl, rfl⟩, rfl⟩
  rcases s.state.reserveHandshake_cases memory owner request.connectionId request.source
      request.userInitiated request.nowMs with
    ⟨hnone, hsame⟩ | ⟨entry, -, howner, hlease, hreserves⟩
  · split
    next state hreserved =>
      rw [hreserved] at hsame
      exact .inl ⟨hsame, rfl⟩
    rename_i lease state hreserved
    rw [hreserved] at hnone
    cases hnone
  split
  next state hreserved =>
    rw [hreserved] at hlease
    cases hlease
  rename_i lease state hreserved
  rw [hreserved] at hlease hreserves
  obtain rfl : lease = entry.lease := Option.some.inj hlease
  exact .inr ⟨entry, state, hreserves, howner, rfl⟩

theorem step_quiet (s : System) {action : Action} (h : action.isQuiet = true) :
    Quiet s.state (s.step action).state := by
  cases action with
  | registerOwner =>
    refine .drops ?_ ?_
    all_goals
      simp only [step, State.registerOwner]
      split
    all_goals simp
  | retireOwner owner =>
    simp only [step, State.retireOwner]
    split
    · exact .refl _
    · exact .drops List.filter_sublist rfl
  | openWindow owner nowMs durationMs =>
    obtain ⟨hentries, hnext⟩ := s.state.openWindow_same owner nowMs durationMs
    exact .drops (hentries ▸ List.Sublist.refl _) hnext
  | closeWindow owner =>
    obtain ⟨hnext, hentries | hentries⟩ := s.state.closeWindow_cases owner
    · exact .drops (hentries ▸ List.Sublist.refl _) hnext
    · exact .drops (hentries ▸ List.filter_sublist) hnext
  | reserveHandshake memory owner connectionId source userInitiated nowMs =>
    rcases s.state.reserveHandshake_cases memory owner connectionId source userInitiated
        nowMs with ⟨-, hsame⟩ | ⟨entry, -, -, -, hreserves⟩
    · exact hsame.quiet
    · exact .reserves entry hreserves
  | bind | admitConnection | markVisible => cases h
  | destroy slot => exact s.state.drop_quiet _
  | moveConstruct slot => exact .refl _
  | moveAssign target source =>
    simp only [step]
    split
    · exact s.state.drop_quiet _
    · exact .refl _

theorem step_advances (s : System) (action : Action) :
    Relation.ReflTransGen Advances s.state (s.step action).state := by
  cases action with
  | bind owner slot request windowGeneration =>
    exact .single (s.bindLease_advances owner slot request windowGeneration)
  | admitConnection memory owner request =>
    rcases s.admitConnection_cases memory owner request with ⟨hsame, -⟩ | ⟨entry, state, h, -, hadmitted⟩
    · exact .single (.quiet hsame.quiet)
    simp only [step, hadmitted]
    exact .tail (.single (.quiet (.reserves entry h)))
      (bindLease_advances ⟨state, push s.leases (some entry.lease)⟩ _ _ _ _)
  | markVisible slot =>
    rcases s.state.markVisible_cases (held s.leases slot) with
      hsame | ⟨own, marked, -, hfound, -, -, -, hmarked⟩
    · simp only [step, hsame]
      exact .refl
    · exact .single (.shows own marked hfound hmarked)
  | _ => exact .single (.quiet (s.step_quiet rfl))

/-! ### Leases that have lost their entry -/

/-- The entries are in order, and no two of the leases are the same. -/
structure Consistent (s : System) : Prop where
  ordered : Ordered s.state
  distinct : Distinct s.leases
  handed : ∀ lease, Live s.leases lease → Spent s.state.nextLeaseGeneration lease.leaseGeneration

variable {state state' : State} {lease : Lease}

theorem ordered_of_advances (h : Relation.ReflTransGen Advances state state')
    (hordered : Ordered state) : Ordered state' := by
  induction h with
  | refl => exact hordered
  | tail _ hlast ih => exact hlast.ordered ih

theorem spent_of_advances (h : Relation.ReflTransGen Advances state state') {generation : UInt64}
    (hspent : Spent state.nextLeaseGeneration generation) :
    Spent state'.nextLeaseGeneration generation := by
  induction h with
  | refl => exact hspent
  | tail _ hlast ih => exact hlast.spent ih

theorem stale_of_advances (h : Relation.ReflTransGen Advances state state')
    (hordered : Ordered state) (hstale : Stale state lease) : Stale state' lease := by
  induction h with
  | refl => exact hstale
  | tail hfirst hlast ih => exact hlast.stale (ordered_of_advances hfirst hordered) ih

theorem Consistent.of_live {s s' : System} (h : Consistent s)
    (hstate : Relation.ReflTransGen Advances s.state s'.state) (hdistinct : Distinct s'.leases)
    (hlive : ∀ lease, Live s'.leases lease → Live s.leases lease) : Consistent s' where
  ordered := ordered_of_advances hstate h.ordered
  distinct := hdistinct
  handed lease hlease := spent_of_advances hstate (h.handed lease (hlive lease hlease))

theorem Consistent.reserves {entry : Entry} (h : Consistent s)
    (hreserves : s.state.Reserves entry state) :
    Consistent ⟨state, push s.leases (some entry.lease)⟩ where
  ordered := h.ordered.reserves hreserves
  distinct := by
    refine h.distinct.push fun lease hlease hlive => ?_
    have hspent := h.handed lease hlive
    rw [← Option.some.inj hlease] at hspent
    exact not_spent_self hreserves.nonzero (hreserves.generation ▸ hspent)
  handed lease hlease := by
    rw [hreserves.next, spent_succ_iff hreserves.nonzero]
    rcases (live_push_iff _ _ _).mp hlease with hold | hnew
    · exact .inl (h.handed lease hold)
    rw [← Option.some.inj hnew]
    exact .inr hreserves.generation

theorem Consistent.bindLease (h : Consistent s) (owner : UInt64) (slot : Nat) (request : Request)
    (windowGeneration : UInt64) :
    Consistent (s.bindLease owner slot request windowGeneration).2 := by
  have hstate := Relation.ReflTransGen.single
    (s.bindLease_advances owner slot request windowGeneration)
  rcases s.bindLease_cases owner slot request windowGeneration with
    ⟨-, hdropped⟩ | ⟨own, reserved, deadline, displaced, -, -, -, hleases⟩
  · rw [hdropped] at hstate ⊢
    exact h.of_live hstate (h.distinct.clear slot) fun lease hlive =>
      ((live_clear_iff h.distinct slot lease).mp hlive).1
  · exact h.of_live hstate (hleases ▸ h.distinct) fun lease hlive => hleases ▸ hlive

theorem Consistent.step (h : Consistent s) (action : Action) : Consistent (s.step action) := by
  have hstate := s.step_advances action
  cases action with
  | registerOwner | retireOwner | openWindow | closeWindow | markVisible =>
    exact h.of_live hstate h.distinct fun _ hlive => hlive
  | reserveHandshake memory owner connectionId source userInitiated nowMs =>
    rcases s.state.reserveHandshake_cases memory owner connectionId source userInitiated
        nowMs with ⟨hnone, -⟩ | ⟨entry, -, -, hlease, hreserves⟩
    · simp only [System.step, hnone] at hstate ⊢
      refine h.of_live hstate (h.distinct.push fun _ hnone => absurd hnone (by simp)) ?_
      intro lease hlive
      rcases (live_push_iff _ _ _).mp hlive with hold | hnew
      · exact hold
      · cases hnew
    simp only [System.step, hlease]
    exact h.reserves hreserves
  | bind owner slot request windowGeneration =>
    exact h.bindLease owner slot request windowGeneration
  | admitConnection memory owner request =>
    rcases s.admitConnection_cases memory owner request with
      ⟨-, hleases⟩ | ⟨entry, state, hreserves, -, hadmitted⟩
    · exact h.of_live hstate (hleases ▸ h.distinct) fun lease hlive => hleases ▸ hlive
    simp only [System.step, hadmitted]
    exact (h.reserves hreserves).bindLease _ _ _ _
  | destroy slot =>
    exact h.of_live hstate (h.distinct.clear slot) fun lease hlive =>
      ((live_clear_iff h.distinct slot lease).mp hlive).1
  | moveConstruct slot =>
    exact h.of_live hstate (h.distinct.moveConstruct slot) fun lease hlive =>
      (live_moveConstruct_iff h.distinct slot lease).mp hlive
  | moveAssign target source =>
    by_cases hmovable : Movable s.leases target source
    · simp only [System.step, if_pos hmovable] at hstate ⊢
      exact h.of_live hstate (h.distinct.moveAssign hmovable) fun lease hlive =>
        ((live_moveAssign_iff h.distinct hmovable lease).mp hlive).1
    simp only [System.step, if_neg hmovable]
    exact h

theorem consistent_start : Consistent {} where
  ordered := ⟨Sound.nil, fun _ hentry => absurd hentry List.not_mem_nil⟩
  distinct first second value hfirst := by simp [held] at hfirst
  handed := by
    rintro lease ⟨slot, hslot⟩
    simp [held] at hslot

/-- A lease that has lost its entry does nothing when it is destroyed, whatever happened
since. -/
theorem Consistent.release_stale (h : Consistent s) (hlive : Live s.leases lease)
    (hgone : ∀ entry ∈ s.state.entries, entry.lease ≠ lease) (later : List Action) :
    (Runs.run System.step s later).state.release lease = (Runs.run System.step s later).state := by
  have hstale : Ordered (Runs.run System.step s later).state ∧
      Stale (Runs.run System.step s later).state lease := by
    refine Runs.run_invariant_all (P := fun s : System => Ordered s.state ∧ Stale s.state lease)
      ?_ ⟨h.ordered, h.handed lease hlive, hgone⟩ later
    rintro s action ⟨hordered, hstale⟩
    exact ⟨ordered_of_advances (s.step_advances action) hordered,
      stale_of_advances (s.step_advances action) hordered hstale⟩
  rw [State.release, List.filter_eq_self.mpr]
  intro entry hentry
  have hne := hstale.2.2 entry hentry
  rw [ne_eq, Entry.lease_eq_iff] at hne
  rw [Bool.not_eq_true', decide_eq_false_iff_not]
  exact hne

end System

/-! ### Who removes an entry, and who binds one -/

/-- The ways in which a call removes an entry that another call has made. -/
def Action.Removes (s : System) (entry : Entry) : Action → Prop
  | .destroy slot => held s.leases slot = some entry.lease
  | .moveAssign target _ => held s.leases target = some entry.lease
  | .bind owner slot request windowGeneration =>
    (held s.leases slot = some entry.lease ∧
      (s.bindLease owner slot request windowGeneration).1.error ≠ .none) ∨
    (s.bindLease owner slot request windowGeneration).1.displacedConnection =
      some entry.connectionId
  | .admitConnection memory owner request =>
    (s.admitConnection memory owner request).1.displacedConnection = some entry.connectionId
  | .closeWindow owner => entry.ownerGeneration = owner ∧ entry.bound = true
  | .retireOwner owner => entry.ownerGeneration = owner
  | .registerOwner | .openWindow _ _ _ | .reserveHandshake _ _ _ _ _ _ | .markVisible _
  | .moveConstruct _ => False

namespace System

variable {s : System}

/-- The entry is still there, perhaps rewritten. -/
def Keeps (state : State) (entry : Entry) : Prop := ∃ kept ∈ state.entries, kept.lease = entry.lease

variable {entry : Entry}

theorem drop_keeps {state : State} (hentry : entry ∈ state.entries) (lease : Option Lease) :
    Keeps (state.drop lease) entry ∨ lease = some entry.lease := by
  cases lease with
  | none => exact .inl ⟨entry, hentry, rfl⟩
  | some own =>
    by_cases hown : entry.lease = own
    · exact .inr (congrArg some hown.symm)
    · exact .inl ⟨entry, State.mem_release_iff.mpr ⟨hentry, hown⟩, rfl⟩

theorem bindLease_keeps (hsound : Sound s.state.entries) (hentry : entry ∈ s.state.entries)
    (owner : UInt64) (slot : Nat) (request : Request) (windowGeneration : UInt64) :
    Keeps (s.bindLease owner slot request windowGeneration).2.state entry ∨
      Action.Removes s entry (.bind owner slot request windowGeneration) := by
  rcases s.bindLease_cases owner slot request windowGeneration with
    ⟨herror, hdropped⟩ | ⟨own, reserved, deadline, displaced, -, hresult, hbinds, -⟩
  · rw [hdropped]
    exact (drop_keeps hentry _).imp id fun hheld => .inl ⟨hheld, herror⟩
  by_cases hdisplaced : ∃ other ∈ displaced, entry.connectionId = other.connectionId
  · obtain ⟨other, hother, hsame⟩ := hdisplaced
    refine .inr (.inr ?_)
    rw [hresult, hsame, hother]
    rfl
  refine .inl ?_
  have hstays : ∀ other ∈ displaced, entry.connectionId ≠ other.connectionId :=
    fun other hother hsame => hdisplaced ⟨other, hother, hsame⟩
  obtain ⟨hreserved, hlease⟩ := State.mem_of_findLease hbinds.found
  by_cases hown : entry.connectionId = own.connectionId
  · have hsame : entry = reserved := by
      refine hsound.eq_of_connectionId hentry hreserved ?_
      rw [hown, ← hlease]
      rfl
    subst hsame
    exact ⟨entry.bindTo request deadline, (hbinds.mem_iff hsound).mpr ⟨.inr rfl, hstays⟩, rfl⟩
  · exact ⟨entry, (hbinds.mem_iff hsound).mpr ⟨.inl ⟨hentry, hown⟩, hstays⟩, rfl⟩

theorem step_keeps (h : Consistent s) (action : Action) (hentry : entry ∈ s.state.entries) :
    Keeps (s.step action).state entry ∨ action.Removes s entry := by
  have hsound := h.ordered.sound
  cases action with
  | registerOwner =>
    refine .inl ⟨entry, ?_, rfl⟩
    simp only [step, State.registerOwner]
    split <;> exact hentry
  | retireOwner owner =>
    simp only [step, State.retireOwner, Action.Removes]
    split
    · exact .inl ⟨entry, hentry, rfl⟩
    by_cases howner : entry.ownerGeneration = owner
    · exact .inr howner
    · exact .inl ⟨entry, List.mem_filter.mpr ⟨hentry, by simpa using howner⟩, rfl⟩
  | openWindow owner nowMs durationMs =>
    refine .inl ⟨entry, ?_, rfl⟩
    simp only [step, (s.state.openWindow_same owner nowMs durationMs).1]
    exact hentry
  | closeWindow owner =>
    obtain ⟨-, hentries | hentries⟩ := s.state.closeWindow_cases owner
    · exact .inl ⟨entry, hentries ▸ hentry, rfl⟩
    by_cases hremoved : entry.ownerGeneration = owner ∧ entry.bound = true
    · exact .inr hremoved
    refine .inl ⟨entry, ?_, rfl⟩
    simp only [step, hentries]
    exact List.mem_filter.mpr ⟨hentry, by rw [decide_eq_false hremoved]; rfl⟩
  | reserveHandshake memory owner connectionId source userInitiated nowMs =>
    refine .inl ⟨entry, ?_, rfl⟩
    rcases s.state.reserveHandshake_cases memory owner connectionId source userInitiated
        nowMs with ⟨-, hsame⟩ | ⟨added, -, -, -, hreserves⟩
    · exact hsame.entries ▸ hentry
    · exact hreserves.entries ▸ List.mem_append_left _ hentry
  | bind owner slot request windowGeneration =>
    exact bindLease_keeps hsound hentry owner slot request windowGeneration
  | admitConnection memory owner request =>
    rcases s.admitConnection_cases memory owner request with
      ⟨hsame, -⟩ | ⟨added, state, hreserves, -, hadmitted⟩
    · exact .inl ⟨entry, hsame.entries ▸ hentry, rfl⟩
    have hentry' : entry ∈ state.entries := hreserves.entries ▸ List.mem_append_left _ hentry
    have hafter := h.reserves hreserves
    simp only [step, Action.Removes, hadmitted]
    refine (bindLease_keeps hafter.ordered.sound hentry' _ _ _ _).imp id ?_
    rintro (⟨hheld, -⟩ | hdisplaced)
    · -- the lease that is destroyed is the new one
      rw [held_push, if_pos rfl] at hheld
      have hid := congrArg Lease.connectionId (Option.some.inj hheld)
      exact absurd hid.symm (hreserves.fresh entry hentry)
    · exact hdisplaced
  | markVisible slot =>
    refine .inl ?_
    rcases s.state.markVisible_cases (held s.leases slot) with
      hsame | ⟨own, marked, -, hfound, -, -, -, hmarked⟩
    · exact ⟨entry, by simpa only [step, hsame] using hentry, rfl⟩
    simp only [step, hmarked]
    obtain ⟨hmem, hlease⟩ := State.mem_of_findLease hfound
    by_cases hown : entry.connectionId = own.connectionId
    · have hsame : entry = marked :=
        hsound.eq_of_connectionId hentry hmem (hown.trans (hlease ▸ rfl))
      subst hsame
      exact ⟨_, (hsound.mem_shows_iff hfound).mpr (.inr rfl), rfl⟩
    · exact ⟨entry, (hsound.mem_shows_iff hfound).mpr (.inl ⟨hentry, hown⟩), rfl⟩
  | destroy slot => exact drop_keeps hentry _
  | moveConstruct slot => exact .inl ⟨entry, hentry, rfl⟩
  | moveAssign target source =>
    simp only [step]
    split
    · exact drop_keeps hentry _
    · exact .inl ⟨entry, hentry, rfl⟩

theorem bindLease_bound (hsound : Sound s.state.entries) {owner : UInt64} {slot : Nat}
    {request : Request} {windowGeneration : UInt64}
    (hentry : entry ∈ (s.bindLease owner slot request windowGeneration).2.state.entries) :
    entry ∈ s.state.entries ∨ (entry.ownerGeneration = owner ∧
      s.state.WindowOpen owner windowGeneration request.nowMs) := by
  rcases s.bindLease_cases owner slot request windowGeneration with
    ⟨-, hdropped⟩ | ⟨own, reserved, deadline, displaced, -, -, hbinds, -⟩
  · rw [hdropped] at hentry
    exact .inl ((s.state.drop_sublist _).subset hentry)
  rcases ((hbinds.mem_iff hsound).mp hentry).1 with ⟨hold, -⟩ | rfl
  · exact .inl hold
  · exact .inr ⟨hbinds.owned, hbinds.window⟩

/-- An entry that is bound after a step was bound before, or the call has bound it while
the window of its owner was open. -/
theorem step_bound (h : Consistent s) {action : Action}
    (hentry : entry ∈ (s.step action).state.entries) (hbound : entry.bound = true) :
    (∃ old ∈ s.state.entries, old.lease = entry.lease ∧ old.bound = true) ∨
    ∃ generation nowMs, action.supplies s = some (entry.ownerGeneration, generation, nowMs) ∧
      s.state.WindowOpen entry.ownerGeneration generation nowMs := by
  have hquiet : Quiet s.state (s.step action).state →
      ∃ old ∈ s.state.entries, old.lease = entry.lease ∧ old.bound = true := by
    intro hquiet
    rcases hquiet.mem_cases hentry with hold | ⟨-, -, hnew⟩
    · exact ⟨entry, hold, rfl, hbound⟩
    rw [hnew] at hbound
    cases hbound
  cases action with
  | bind owner slot request windowGeneration =>
    rcases bindLease_bound h.ordered.sound hentry with hold | ⟨rfl, hwindow⟩
    · exact .inl ⟨entry, hold, rfl, hbound⟩
    · exact .inr ⟨windowGeneration, request.nowMs, rfl, hwindow⟩
  | admitConnection memory owner request =>
    rcases s.admitConnection_cases memory owner request with
      ⟨hsame, -⟩ | ⟨added, state, hreserves, -, hadmitted⟩
    · exact .inl (hquiet hsame.quiet)
    simp only [step, hadmitted] at hentry
    rcases bindLease_bound (h.reserves hreserves).ordered.sound hentry with
      hold | ⟨rfl, found, hfound, hopen⟩
    · rw [hreserves.entries] at hold
      rcases List.mem_append.mp hold with hold | hnew
      · exact .inl ⟨entry, hold, rfl, hbound⟩
      rw [List.mem_singleton.mp hnew, hreserves.unbound] at hbound
      cases hbound
    refine .inr ⟨_, _, rfl, found, ?_, hopen⟩
    rw [← hfound, State.findOwner, State.findOwner, hreserves.owners]
  | markVisible slot =>
    refine .inl ?_
    rcases s.state.markVisible_cases (held s.leases slot) with
      hsame | ⟨own, marked, -, hfound, hmarked, -, -, hshown⟩
    · simp only [step, hsame] at hentry
      exact ⟨entry, hentry, rfl, hbound⟩
    simp only [step, hshown] at hentry
    rcases (h.ordered.sound.mem_shows_iff hfound).mp hentry with ⟨hold, -⟩ | rfl
    · exact ⟨entry, hold, rfl, hbound⟩
    · exact ⟨marked, (State.mem_of_findLease hfound).1, rfl, hmarked⟩
  | _ => exact .inl (hquiet (s.step_quiet rfl))

/-- Along every run of any number of controllers on one state, the limits hold, an entry
is only removed by those who may remove it, a lease that has lost its entry never removes
one again, and an entry becomes bound only while the window of its owner is open. -/
theorem run_limits (actions : List Action) :
    let s := Runs.run step {} actions
    Sound s.state.entries ∧
    (∀ action, ∀ entry ∈ s.state.entries,
      (∀ kept ∈ (s.step action).state.entries, kept.lease ≠ entry.lease) →
      action.Removes s entry) ∧
    (∀ lease, Live s.leases lease → (∀ entry ∈ s.state.entries, entry.lease ≠ lease) →
      ∀ later, (Runs.run step s later).state.release lease = (Runs.run step s later).state) ∧
    (∀ action, ∀ entry ∈ (s.step action).state.entries, entry.bound = true →
      (∃ old ∈ s.state.entries, old.lease = entry.lease ∧ old.bound = true) ∨
      ∃ generation nowMs, action.supplies s = some (entry.ownerGeneration, generation, nowMs) ∧
        s.state.WindowOpen entry.ownerGeneration generation nowMs) := by
  intro s
  have hs : Consistent s :=
    Runs.run_invariant_all (fun _ action h => h.step action) consistent_start actions
  refine ⟨hs.ordered.sound, ?_, ?_, ?_⟩
  · intro action entry hentry hgone
    rcases step_keeps hs action hentry with ⟨kept, hkept, hsame⟩ | hremoves
    · exact absurd hsame (hgone kept hkept)
    · exact hremoves
  · intro lease hlive hgone later
    exact hs.release_stale hlive hgone later
  intro action entry hentry hbound
  exact step_bound hs hentry hbound

end System

end XnnTransfer.Admission
