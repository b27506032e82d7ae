import Mathlib.Data.Sym.Sym2
import XnnTransfer.Admission.Controller

/-!
# What the admission operations do to the entries

One statement for each operation that changes the entries. A reservation adds one
entry or none, a binding rewrites one entry and may drop another one, and every
other operation only drops entries or marks one as visible.
-/

namespace XnnTransfer.Admission

open FirstMatch Pairing Security

/-- The lease that is handed out for an entry. -/
def Entry.lease (entry : Entry) : Lease := ⟨entry.connectionId, entry.leaseGeneration⟩

theorem Entry.lease_eq_iff {entry : Entry} {lease : Lease} :
    entry.lease = lease ↔
      entry.connectionId = lease.connectionId ∧ entry.leaseGeneration = lease.leaseGeneration := by
  cases lease
  exact Lease.mk.injEq _ _ _ _ ▸ Iff.rfl

/-- The two keys of an entry, in no order. -/
def Entry.keyPair (entry : Entry) : Sym2 PublicKey := s(entry.localKey, entry.peerKey)

def Request.keyPair (request : Request) : Sym2 PublicKey := s(request.localKey, request.peerKey)

/-- What `Bind` writes into the reserved entry. -/
def Entry.bindTo (entry : Entry) (request : Request) (windowDeadlineMs : UInt64) : Entry :=
  { entry with
    localKey := request.localKey
    peerKey := request.peerKey
    localRole := request.localRole
    windowDeadlineMs := windowDeadlineMs
    bound := true }

theorem sameKeyPair_iff {entry : Entry} {request : Request} :
    sameKeyPair entry request = true ↔ entry.keyPair = request.keyPair := by
  simp [sameKeyPair, Entry.keyPair, Request.keyPair]

namespace State

variable {state : State} {connectionId : AttemptHandle} {lease : Lease} {entry : Entry}

theorem mem_of_find (h : state.find connectionId = some entry) :
    entry ∈ state.entries ∧ entry.connectionId = connectionId :=
  ⟨List.mem_of_find?_eq_some h, by simpa using List.find?_some h⟩

theorem mem_of_findLease (h : state.findLease lease = some entry) :
    entry ∈ state.entries ∧ entry.lease = lease := by
  obtain ⟨hfind, hgeneration⟩ := Option.filter_eq_some_iff.mp h
  obtain ⟨hmem, hconnection⟩ := mem_of_find hfind
  refine ⟨hmem, ?_⟩
  rw [Entry.lease, hconnection, of_decide_eq_true hgeneration]

theorem mem_release_iff : entry ∈ (state.release lease).entries ↔
    entry ∈ state.entries ∧ entry.lease ≠ lease := by
  rw [release, List.mem_filter, ne_eq, Entry.lease_eq_iff, Bool.not_eq_true',
    decide_eq_false_iff_not]

/-- The window that was opened with the generation is enabled and has not passed. -/
def WindowOpen (state : State) (owner generation nowMs : UInt64) : Prop :=
  ∃ found, state.findOwner owner = some found ∧ found.windowEnabled = true ∧
    found.windowGeneration = generation ∧ nowMs < found.windowDeadlineMs

instance (state : State) (owner generation nowMs : UInt64) :
    Decidable (state.WindowOpen owner generation nowMs) :=
  inferInstanceAs (Decidable (∃ found ∈ state.findOwner owner, found.windowEnabled = true ∧
    found.windowGeneration = generation ∧ nowMs < found.windowDeadlineMs))

/-- `Bind` without an error: the reserved entry is bound, and the entry that gave way
to it is gone. -/
structure Binds (state : State) (owner : UInt64) (lease : Lease) (request : Request)
    (windowGeneration : UInt64) (reserved : Entry) (deadline : UInt64)
    (displaced : Option Entry) (state' : State) : Prop where
  found : state.findLease lease = some reserved
  unbound : reserved.bound = false
  owned : reserved.ownerGeneration = owner
  window : state.WindowOpen owner windowGeneration request.nowMs
  duplicate : state.duplicate owner request = displaced
  wins : ∀ other ∈ displaced, givesWay request other = false
  entries : state'.entries =
    (modifyFirst (fun entry => entry.connectionId = lease.connectionId)
      (Entry.bindTo · request deadline) state.entries).filter
        fun entry => ∀ other ∈ displaced, entry.connectionId ≠ other.connectionId
  owners : state'.owners = state.owners
  next : state'.nextLeaseGeneration = state.nextLeaseGeneration

/-- The reserved entry and the owner pass all the checks of `Bind` before the search for
another connection with the same keys. -/
structure Passes (state : State) (owner : UInt64) (lease : Lease) (request : Request)
    (windowGeneration : UInt64) (reserved : Entry) (found : Owner) : Prop where
  reserves : state.findLease lease = some reserved
  owns : state.findOwner owner = some found
  permitted : permits reserved found owner request windowGeneration = true
  keys : request.localKey ≠ request.peerKey

variable {owner windowGeneration : UInt64} {request : Request} {reserved : Entry} {found : Owner}
  {state' state'' : State} {source : SourceToken}

theorem Passes.bind_eq (h : state.Passes owner lease request windowGeneration reserved found) :
    state.bind owner (some lease) request windowGeneration =
      match state.duplicate owner request with
      | none => ({}, state.modify lease.connectionId
          (Entry.bindTo · request found.windowDeadlineMs))
      | some other =>
        if givesWay request other then ({ error := .busy }, state)
        else ({ displacedConnection := some other.connectionId },
          (state.modify lease.connectionId
            (Entry.bindTo · request found.windowDeadlineMs)).releaseConnection
              other.connectionId) := by
  simp only [bind, h.reserves, h.owns, h.permitted, Bool.true_eq_false, if_false, h.keys]
  rfl

/-- A connection that passes the checks is refused only in favour of another one. -/
theorem Passes.refused_iff (h : state.Passes owner lease request windowGeneration reserved found) :
    (state.bind owner (some lease) request windowGeneration).1.error ≠ .none ↔
      ∃ other, state.duplicate owner request = some other ∧ givesWay request other = true := by
  rw [h.bind_eq]
  rcases hduplicate : state.duplicate owner request with _ | other
  · simp
  · by_cases hgives : givesWay request other = true <;> simp [hgives]

theorem bind_refuses_or_passes (state : State) (owner : UInt64) (lease : Option Lease)
    (request : Request) (windowGeneration : UInt64) :
    ((state.bind owner lease request windowGeneration).1.error ≠ .none ∧
      (state.bind owner lease request windowGeneration).2 = state) ∨
    ∃ own reserved found, lease = some own ∧
      state.Passes owner own request windowGeneration reserved found := by
  cases lease with
  | none => exact .inl ⟨by simp [bind], rfl⟩
  | some own =>
    rcases hfound : state.findLease own with _ | reserved
    · exact .inl (by simp [bind, hfound])
    rcases howner : state.findOwner owner with _ | found
    · exact .inl (by simp [bind, hfound, howner])
    by_cases hpermits : permits reserved found owner request windowGeneration = true
    · by_cases hkeys : request.localKey = request.peerKey
      · exact .inl (by simp [bind, hfound, howner, hpermits, hkeys])
      · exact .inr ⟨own, reserved, found, rfl, hfound, howner, hpermits, hkeys⟩
    · exact .inl (by simp [bind, hfound, howner, hpermits])

theorem bind_cases (state : State) (owner : UInt64) (lease : Option Lease) (request : Request)
    (windowGeneration : UInt64) :
    ((state.bind owner lease request windowGeneration).1.error ≠ .none ∧
      (state.bind owner lease request windowGeneration).2 = state) ∨
    ∃ own reserved deadline displaced, lease = some own ∧
      (state.bind owner lease request windowGeneration).1 =
        { displacedConnection := displaced.map Entry.connectionId } ∧
      state.Binds owner own request windowGeneration reserved deadline displaced
        (state.bind owner lease request windowGeneration).2 := by
  rcases state.bind_refuses_or_passes owner lease request windowGeneration with
    hrefused | ⟨own, reserved, found, rfl, hpasses⟩
  · exact .inl hrefused
  have hguards := hpasses.permitted
  simp only [permits, decide_eq_true_eq] at hguards
  obtain ⟨hunbound, howned, -, -, -, henabled, hdeadline, -, hgeneration⟩ := hguards
  have hwindow : state.WindowOpen owner windowGeneration request.nowMs :=
    ⟨found, hpasses.owns, henabled, hgeneration.symm, hdeadline⟩
  rw [hpasses.bind_eq]
  rcases hduplicate : state.duplicate owner request with _ | other
  · refine .inr ⟨own, reserved, found.windowDeadlineMs, none, rfl, rfl, ?_⟩
    exact ⟨hpasses.reserves, hunbound, howned, hwindow, hduplicate, by simp, by simp [modify], rfl,
      rfl⟩
  by_cases hgives : givesWay request other = true
  · exact .inl (by simp [hgives])
  simp only [if_neg hgives]
  refine .inr ⟨own, reserved, found.windowDeadlineMs, some other, rfl, rfl, ?_⟩
  exact ⟨hpasses.reserves, hunbound, howned, hwindow, hduplicate, by simpa using hgives,
    by simp [modify, releaseConnection], rfl, rfl⟩

/-- The entries, the owners and the next generation of a state are those of another. -/
structure SameEntries (state state' : State) : Prop where
  entries : state'.entries = state.entries
  owners : state'.owners = state.owners
  next : state'.nextLeaseGeneration = state.nextLeaseGeneration

/-- `ReserveHandshake` with a lease: there was room for the entry that it adds. -/
structure Reserves (state : State) (entry : Entry) (state' : State) : Prop where
  fresh : ∀ other ∈ state.entries, other.connectionId ≠ entry.connectionId
  generation : entry.leaseGeneration = state.nextLeaseGeneration
  nonzero : state.nextLeaseGeneration ≠ 0
  unbound : entry.bound = false
  invisible : entry.visible = false
  room : state.hasRoom entry.source entry.userInitiated = true
  entries : state'.entries = state.entries ++ [entry]
  owners : state'.owners = state.owners
  next : state'.nextLeaseGeneration = state.nextLeaseGeneration + 1

theorem SameEntries.trans {state : State} (h : SameEntries state state')
    (h' : SameEntries state' state'') : SameEntries state state'' :=
  ⟨h'.entries.trans h.entries, h'.owners.trans h.owners, h'.next.trans h.next⟩

theorem SameEntries.hasRoom {state : State} (h : SameEntries state state') (source : SourceToken)
    (userInitiated : Bool) :
    state'.hasRoom source userInitiated = state.hasRoom source userInitiated := by
  rw [State.hasRoom, State.hasRoom, activeForSource, activeForSource, h.entries]

theorem Reserves.of_same {state : State} (hsame : SameEntries state state')
    (h : state'.Reserves entry state'') : state.Reserves entry state'' where
  fresh := hsame.entries ▸ h.fresh
  generation := h.generation.trans hsame.next
  nonzero := hsame.next ▸ h.nonzero
  unbound := h.unbound
  invisible := h.invisible
  room := (hsame.hasRoom _ _).symm.trans h.room
  entries := by rw [h.entries, hsame.entries]
  owners := h.owners.trans hsame.owners
  next := by rw [h.next, hsame.next]

theorem start_same (state : State) (nowMs : UInt64) : SameEntries state (state.start nowMs) := by
  unfold start
  split
  · exact ⟨rfl, rfl, rfl⟩
  · exact ⟨rfl, rfl, rfl⟩

theorem trackSource_same {memory : Bool} {nowMs : UInt64}
    (h : state.trackSource memory source nowMs = some state') : SameEntries state state' := by
  unfold trackSource at h
  split at h
  · cases h
    exact ⟨rfl, rfl, rfl⟩
  split at h
  · cases h
  cases h
  exact ⟨rfl, rfl, rfl⟩

theorem reserveHandshake_cases (state : State) (memory : ReserveMemory) (owner : UInt64)
    (connectionId : AttemptHandle) (source : SourceToken) (userInitiated : Bool)
    (nowMs : UInt64) :
    ((state.reserveHandshake memory owner connectionId source userInitiated nowMs).1 = none ∧
      SameEntries state
        (state.reserveHandshake memory owner connectionId source userInitiated nowMs).2) ∨
    ∃ entry, entry.connectionId = connectionId ∧ entry.ownerGeneration = owner ∧
      (state.reserveHandshake memory owner connectionId source userInitiated nowMs).1 =
        some entry.lease ∧
      state.Reserves entry
        (state.reserveHandshake memory owner connectionId source userInitiated nowMs).2 := by
  simp only [reserveHandshake]
  split
  · exact .inl ⟨rfl, rfl, rfl, rfl⟩
  rename_i hpasses
  have hfresh : ∀ other ∈ state.entries, other.connectionId ≠ connectionId := by
    intro other hother hsame
    refine hpasses (.inr (.inr (.inr ?_)))
    rw [find, List.find?_isSome]
    exact ⟨other, hother, decide_eq_true hsame⟩
  have hpruned : SameEntries state (({ state.start nowMs with
      globalBucket := (state.start nowMs).globalBucket.refill nowMs globalAdmissionRefillMs
        globalAdmissionBucketCapacity }).pruneSourceBuckets nowMs) :=
    ⟨(start_same state nowMs).entries, (start_same state nowMs).owners,
      (start_same state nowMs).next⟩
  generalize ({ state.start nowMs with
      globalBucket := (state.start nowMs).globalBucket.refill nowMs globalAdmissionRefillMs
        globalAdmissionBucketCapacity }).pruneSourceBuckets nowMs = pruned at hpruned ⊢
  split
  · exact .inl ⟨rfl, hpruned⟩
  rename_i hlimits
  split
  · exact .inl ⟨rfl, hpruned⟩
  rename_i tracked htracked
  have hsame : SameEntries state tracked := hpruned.trans (trackSource_same htracked)
  have hroom : tracked.hasRoom source userInitiated = true := by
    rw [(trackSource_same htracked).hasRoom]
    exact Bool.eq_true_of_not_eq_false fun hfull => hlimits (.inl hfull)
  rw [← hsame.entries] at hfresh
  simp only [grant]
  split
  · exact .inl ⟨rfl, hsame⟩
  rename_i hgranted
  have hnonzero : tracked.nextLeaseGeneration ≠ 0 := fun hzero =>
    hgranted (.inr (.inl hzero))
  split
  · -- the lease could not be allocated, and the entry is released again
    refine .inl ⟨rfl, hsame.trans ⟨?_, rfl, rfl⟩⟩
    simp only [release, List.filter_append]
    rw [List.filter_eq_self.mpr]
    · simp
    intro other hother
    simp [hfresh other hother]
  · exact .inr ⟨_, rfl, rfl, rfl,
      .of_same hsame ⟨hfresh, rfl, hnonzero, rfl, rfl, hroom, rfl, rfl, rfl⟩⟩

/-- What `MarkVisible` does: nothing, or it marks a bound entry while no other entry of
its owner is marked. -/
theorem markVisible_cases (state : State) (lease : Option Lease) :
    (state.markVisible lease).2 = state ∨
    ∃ own entry, lease = some own ∧ state.findLease own = some entry ∧ entry.bound = true ∧
      (state.entries.countP fun candidate =>
        candidate.ownerGeneration = entry.ownerGeneration ∧ candidate.visible = true) ≠
          maxVisiblePairingAttempts ∧
      (state.markVisible lease).1 = .none ∧
      (state.markVisible lease).2 =
        state.modify own.connectionId fun entry => { entry with visible := true } := by
  cases lease with
  | none => exact .inl rfl
  | some own =>
    rcases hfound : state.findLease own with _ | entry
    · exact .inl (by simp [markVisible, hfound])
    cases hbound : entry.bound with
    | false => exact .inl (by simp [markVisible, hfound, hbound])
    | true =>
      by_cases hvisible : entry.visible = true
      · exact .inl (by simp [markVisible, hfound, hbound, hvisible])
      simp only [markVisible, hfound, hbound, Bool.true_eq_false, if_false, hvisible,
        Bool.false_eq_true]
      split
      · exact .inl rfl
      next hcount => exact .inr ⟨own, entry, rfl, hfound, hbound, hcount, rfl, rfl⟩

end State

end XnnTransfer.Admission
