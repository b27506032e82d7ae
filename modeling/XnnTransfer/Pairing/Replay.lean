import XnnTransfer.Library.FirstMatch
import XnnTransfer.Pairing.Negotiation

/-!
# The replay cache of pairing contexts

`PairingReplayCache` and `PairingReplayReservation` of
`native/src/session/pairing.cpp`. An attempt reserves an entry when it begins,
binds it to its pairing context, and commits it when it ends: a bound entry is
kept for a while, an unbound one disappears.

## Implementation notes

A reservation is its identifier; a reservation that was committed or moved away
is no reservation. The pointer that `Find` returns denotes the first entry with
the identifier, so a write through it changes the first match. The mutex makes
each operation one step.
-/

namespace XnnTransfer.Pairing

open FirstMatch Protocol Security

def maxReplayEntries : Nat := 1024
def maxReplayEntriesPerPeer : Nat := 32
def replayRetentionMs : UInt64 := 600000

def checkedDeadline (base duration : UInt64) : UInt64 :=
  if 0xffffffffffffffff - duration < base then 0xffffffffffffffff else base + duration

structure ReplayEntry where
  reservationId : UInt64 := 0
  context : Digest256 := .zero 32
  peerKey : PublicKey := .zero 32
  expiresAtMs : UInt64 := 0
  bound : Bool := false
  reserved : Bool := false
  deriving DecidableEq, Repr

/-- `PairingReplayState`. -/
structure ReplayCache where
  nextReservationId : UInt64 := 1
  entries : List ReplayEntry := []
  deriving DecidableEq, Repr

namespace ReplayCache

variable (cache : ReplayCache) (peerKey : PublicKey) (reservationId : UInt64) (context : Digest256)
  (nowMs : UInt64)

def prune : ReplayCache :=
  { cache with entries := cache.entries.filter fun entry =>
      entry.reserved || !decide (entry.expiresAtMs ≤ nowMs) }

def countPeer : Nat :=
  cache.entries.countP fun entry => entry.peerKey = peerKey

def find (cache : ReplayCache) (reservationId : UInt64) : Option ReplayEntry :=
  cache.entries.find? fun entry => entry.reservationId = reservationId

def release : ReplayCache :=
  { cache with entries := cache.entries.filter fun entry =>
      !(entry.reserved && decide (entry.reservationId = reservationId)) }

/-- A write through the pointer that `Find` returned. -/
def modify (change : ReplayEntry → ReplayEntry) : ReplayCache :=
  { cache with entries :=
      modifyFirst (fun entry => entry.reservationId = reservationId) change cache.entries }

/-- The search loop of `Reserve`. -/
def freeId (cache : ReplayCache) : Nat → UInt64 → UInt64
  | 0, reservationId => reservationId
  | tries + 1, reservationId =>
    let candidate := if reservationId = 0 then 1 else reservationId
    if (cache.find candidate).isNone then candidate else cache.freeId tries (candidate + 1)

/-- `Reserve`; `memory` tells whether the entry and the reservation can be allocated. -/
def reserve (memory : Bool × Bool) (peerKey : PublicKey) (nowMs : UInt64) :
    Option UInt64 × ReplayCache :=
  let pruned := cache.prune nowMs
  if maxReplayEntries ≤ pruned.entries.length ∨
      maxReplayEntriesPerPeer ≤ pruned.countPeer peerKey then (none, pruned)
  else
    let reservationId := pruned.freeId (maxReplayEntries + 1) pruned.nextReservationId
    if reservationId = 0 ∨ (pruned.find reservationId).isSome = true then (none, pruned)
    else if memory.1 = false then (none, pruned)
    else
      let entry : ReplayEntry :=
        { reservationId := reservationId, peerKey := peerKey, reserved := true }
      let pushed := { pruned with entries := pruned.entries ++ [entry] }
      if memory.2 = false then (none, pushed.release reservationId)
      else (some reservationId, { pushed with nextReservationId := reservationId + 1 })

/-- `Contains`. -/
def contains (peerKey : PublicKey) (nowMs : UInt64) : Bool × ReplayCache :=
  let pruned := cache.prune nowMs
  (pruned.entries.any fun entry =>
    entry.bound = true ∧ entry.context = context ∧ entry.peerKey = peerKey, pruned)

/-- `PairingReplayReservation::Bind`. -/
def bind : PairingError × ReplayCache :=
  if reservationId = 0 then (.stateViolation, cache)
  else
    let pruned := cache.prune nowMs
    match pruned.find reservationId with
    | none => (.stateViolation, pruned)
    | some entry =>
      if entry.reserved = false ∨ entry.bound = true then (.stateViolation, pruned)
      else if pruned.entries.any fun candidate =>
          candidate.reservationId ≠ reservationId ∧ candidate.bound = true ∧
            candidate.peerKey = entry.peerKey ∧ candidate.context = context then
        (.replayDetected, pruned)
      else (.none, pruned.modify reservationId fun entry =>
        { entry with context := context, bound := true })

/-- `PairingReplayReservation::Commit`, after which the reservation is spent. -/
def commit : ReplayCache :=
  if reservationId = 0 then cache
  else
    match cache.find reservationId with
    | none => cache
    | some entry =>
      if entry.bound = false then cache.release reservationId
      else cache.modify reservationId fun entry =>
        { entry with expiresAtMs := checkedDeadline nowMs replayRetentionMs, reserved := false }

/-- `Remember`; `memory` tells whether the entry can be allocated. -/
def remember (memory : Bool) (context : Digest256) (peerKey : PublicKey) (nowMs : UInt64) :
    Bool × ReplayCache :=
  let pruned := cache.prune nowMs
  if pruned.entries.any fun entry =>
      entry.bound = true ∧ entry.context = context ∧ entry.peerKey = peerKey then (true, pruned)
  else if pruned.entries.length = maxReplayEntries ∨
      pruned.countPeer peerKey = maxReplayEntriesPerPeer then (false, pruned)
  else if memory = false then (false, pruned)
  else
    let entry : ReplayEntry :=
      { context := context, peerKey := peerKey
        expiresAtMs := checkedDeadline nowMs replayRetentionMs, bound := true }
    (true, { pruned with entries := pruned.entries ++ [entry] })

end ReplayCache

/-- What the other users of a cache can do to it. `contains` stands for the pruning that
every lookup does, `release` for the end of a reservation that was not committed. -/
inductive ReplayOperation
  | contains (nowMs : UInt64)
  | reserve (memory : Bool × Bool) (peerKey : PublicKey) (nowMs : UInt64)
  | bind (reservationId : UInt64) (context : Digest256) (nowMs : UInt64)
  | commit (reservationId : UInt64) (nowMs : UInt64)
  | release (reservationId : UInt64)
  | remember (memory : Bool) (context : Digest256) (peerKey : PublicKey) (nowMs : UInt64)

/-- The reservation on which an operation acts. -/
def ReplayOperation.reservationId : ReplayOperation → Option UInt64
  | .contains _ | .reserve _ _ _ | .remember _ _ _ _ => none
  | .bind reservationId _ _ | .commit reservationId _ | .release reservationId =>
    some reservationId

def ReplayCache.apply (cache : ReplayCache) : ReplayOperation → ReplayCache
  | .contains nowMs => cache.prune nowMs
  | .reserve memory peerKey nowMs => (cache.reserve memory peerKey nowMs).2
  | .bind reservationId context nowMs => (cache.bind reservationId context nowMs).2
  | .commit reservationId nowMs => cache.commit reservationId nowMs
  | .release reservationId => cache.release reservationId
  | .remember memory context peerKey nowMs => (cache.remember memory context peerKey nowMs).2

/-! ### Entries of one reservation -/

namespace ReplayCache

variable {cache : ReplayCache} {reservationId other : UInt64} {entry : ReplayEntry}

/-- The entries with the identifier. -/
def entriesOf (cache : ReplayCache) (reservationId : UInt64) : List ReplayEntry :=
  cache.entries.filter fun entry => entry.reservationId = reservationId

/-- A reservation owns exactly one entry, which is marked as reserved. -/
structure Holds (cache : ReplayCache) (reservationId : UInt64) (entry : ReplayEntry) : Prop where
  nonzero : reservationId ≠ 0
  entries : cache.entriesOf reservationId = [entry]
  reserved : entry.reserved = true

/-- The entry is bound to the context for the peer. -/
def boundTo (context : Digest256) (peerKey : PublicKey) (entry : ReplayEntry) : Bool :=
  entry.bound = true ∧ entry.context = context ∧ entry.peerKey = peerKey

variable {candidate : ReplayEntry} {nowMs own : UInt64} {granted : Option UInt64}
  {next : ReplayCache}

theorem mem_entriesOf : entry ∈ cache.entriesOf reservationId ↔
    entry ∈ cache.entries ∧ entry.reservationId = reservationId := by
  simp [entriesOf]

theorem find_eq_none_iff : cache.find reservationId = none ↔ cache.entriesOf reservationId = [] := by
  simp [find, entriesOf, List.find?_eq_none, List.filter_eq_nil_iff]

theorem Holds.find (h : cache.Holds reservationId entry) :
    cache.find reservationId = some entry := by
  rw [ReplayCache.find, ← List.head?_filter]
  exact congrArg List.head? h.entries

theorem Holds.mem (h : cache.Holds reservationId entry) :
    entry ∈ cache.entries ∧ entry.reservationId = reservationId :=
  mem_entriesOf.mp (h.entries ▸ List.mem_singleton_self entry)

theorem Holds.eq_of_mem (h : cache.Holds reservationId entry) (hmem : candidate ∈ cache.entries)
    (hid : candidate.reservationId = reservationId) : candidate = entry :=
  List.mem_singleton.mp (h.entries ▸ mem_entriesOf.mpr ⟨hmem, hid⟩)

theorem Holds.filter (h : cache.Holds reservationId entry) {keep : ReplayEntry → Bool}
    (hkeep : keep entry = true) :
    Holds { cache with entries := cache.entries.filter keep } reservationId entry := by
  refine { h with entries := Eq.trans ?_ h.entries }
  rw [entriesOf, List.filter_filter]
  apply List.filter_congr
  intro candidate hcandidate
  by_cases hid : candidate.reservationId = reservationId
  · simp [h.eq_of_mem hcandidate hid, hkeep]
  · simp [hid]

/-- Pruning leaves the entry of a held reservation alone. -/
theorem Holds.prune (h : cache.Holds reservationId entry) (nowMs : UInt64) :
    (cache.prune nowMs).Holds reservationId entry :=
  h.filter (by simp [h.reserved])

theorem Holds.release_other (h : cache.Holds reservationId entry) (hne : other ≠ reservationId) :
    (cache.release other).Holds reservationId entry :=
  h.filter (by simp [h.mem.2, hne.symm])

theorem Holds.modify_other (h : cache.Holds reservationId entry) (hne : other ≠ reservationId)
    {change : ReplayEntry → ReplayEntry}
    (hchange : ∀ entry, (change entry).reservationId = entry.reservationId) :
    (cache.modify other change).Holds reservationId entry := by
  refine { h with entries := (filter_modifyFirst_of_disjoint ?_ ?_ _).trans h.entries }
  · intro candidate hcandidate
    have hid : candidate.reservationId = other := by simpa using hcandidate
    simp [hid, hne]
  intro candidate hcandidate
  have hid : candidate.reservationId = other := by simpa using hcandidate
  simp [hchange, hid, hne]

/-- A write through the pointer of a held reservation changes its one entry. -/
theorem Holds.modify_same (h : cache.Holds reservationId entry)
    {change : ReplayEntry → ReplayEntry}
    (hchange : ∀ entry, (change entry).reservationId = entry.reservationId) :
    (cache.modify reservationId change).entriesOf reservationId = [change entry] := by
  refine filter_modifyFirst_same (fun candidate htest => ?_) h.entries
  simpa [hchange] using htest

theorem Holds.append_other (h : cache.Holds reservationId entry)
    (hne : candidate.reservationId ≠ reservationId) (nextReservationId : UInt64) :
    Holds ⟨nextReservationId, cache.entries ++ [candidate]⟩ reservationId entry := by
  refine { h with entries := ?_ }
  rw [entriesOf, List.filter_append, List.filter_cons_of_neg (by simpa using hne), List.filter_nil,
    List.append_nil]
  exact h.entries

/-- The entry of a reservation that cannot be handed out is taken back. -/
theorem release_pushed (hfree : cache.find reservationId = none)
    (hentry : entry.reserved = true ∧ entry.reservationId = reservationId) :
    ({ cache with entries := cache.entries ++ [entry] } : ReplayCache).release reservationId =
      cache := by
  have hkept : cache.entries.filter (fun entry =>
      !(entry.reserved && decide (entry.reservationId = reservationId))) = cache.entries := by
    rw [List.filter_eq_self]
    intro candidate hcandidate
    have hother := List.find?_eq_none.mp hfree candidate hcandidate
    simp_all
  rw [release, List.filter_append, hkept]
  simp [hentry]

/-! ### What the operations do -/

theorem reserve_cases (cache : ReplayCache) (memory : Bool × Bool) (peerKey : PublicKey)
    (nowMs : UInt64) :
    cache.reserve memory peerKey nowMs = (none, cache.prune nowMs) ∨
      ∃ reservationId, reservationId ≠ 0 ∧ (cache.prune nowMs).find reservationId = none ∧
        (cache.prune nowMs).entries.length < maxReplayEntries ∧
        (cache.prune nowMs).countPeer peerKey < maxReplayEntriesPerPeer ∧
        cache.reserve memory peerKey nowMs = (some reservationId, ⟨reservationId + 1,
          (cache.prune nowMs).entries ++
            [{ reservationId := reservationId, peerKey := peerKey, reserved := true }]⟩) := by
  unfold reserve
  simp only
  split
  · exact .inl rfl
  rename_i hroom
  split
  · exact .inl rfl
  rename_i hfree
  push Not at hroom hfree
  have hfind := Option.not_isSome_iff_eq_none.mp hfree.2
  split
  · exact .inl rfl
  split
  · exact .inl (congrArg (none, ·) (release_pushed hfind ⟨rfl, rfl⟩))
  · exact .inr ⟨_, hfree.1, hfind, hroom.1, hroom.2, rfl⟩

/-- What an operation at the time may do to the cache: `own` is the reservation on which it
acts, `granted` the one that it begins. -/
inductive Change (cache : ReplayCache) (own : UInt64) (granted : Option UInt64) (nowMs : UInt64) :
    ReplayCache → Prop
  | same : Change cache own granted nowMs cache
  | pruned : Change cache own granted nowMs (cache.prune nowMs)
  | pushed (entry : ReplayEntry) (nextReservationId : UInt64)
      (hid : entry.reservationId = 0 ∨ (cache.prune nowMs).find entry.reservationId = none)
      (hsize : (cache.prune nowMs).entries.length ≠ maxReplayEntries)
      (hpeer : (cache.prune nowMs).countPeer entry.peerKey ≠ maxReplayEntriesPerPeer)
      (hfresh : entry.bound = true →
        (cache.prune nowMs).entries.any (boundTo entry.context entry.peerKey) = false)
      (hgranted : entry.reserved = true → granted = some entry.reservationId) :
      Change cache own granted nowMs ⟨nextReservationId, (cache.prune nowMs).entries ++ [entry]⟩
  | bound (entry : ReplayEntry) (context : Digest256) (hnonzero : own ≠ 0)
      (hfind : (cache.prune nowMs).find own = some entry) (hunbound : entry.bound = false)
      (hfresh : ∀ candidate ∈ (cache.prune nowMs).entries, candidate.reservationId ≠ own →
        boundTo context entry.peerKey candidate = false) :
      Change cache own granted nowMs ((cache.prune nowMs).modify own fun entry =>
        { entry with context := context, bound := true })
  | released : Change cache own granted nowMs (cache.release own)
  | committed (hnonzero : own ≠ 0) : Change cache own granted nowMs (cache.modify own fun entry =>
      { entry with expiresAtMs := checkedDeadline nowMs replayRetentionMs, reserved := false })

theorem change_reserve (memory : Bool × Bool) (peerKey : PublicKey) (nowMs : UInt64) :
    Change cache own (cache.reserve memory peerKey nowMs).1 nowMs
      (cache.reserve memory peerKey nowMs).2 := by
  rcases cache.reserve_cases memory peerKey nowMs with heq | ⟨_, _, hfree, hsize, hpeer, heq⟩
  · rw [heq]
    exact .pruned
  rw [heq]
  exact .pushed _ _ (.inr hfree) hsize.ne hpeer.ne nofun fun _ => rfl

theorem change_bind (reservationId : UInt64) (context : Digest256) (nowMs : UInt64) :
    Change cache reservationId none nowMs (cache.bind reservationId context nowMs).2 := by
  unfold bind
  simp only
  split
  · exact .same
  rename_i hnonzero
  split
  · exact .pruned
  rename_i entry hfind
  split
  · exact .pruned
  rename_i hunbound
  split
  · exact .pruned
  rename_i hfresh
  push Not at hunbound
  refine .bound entry context hnonzero hfind (by simpa using hunbound.2) ?_
  intro candidate hcandidate hother
  simp only [Bool.not_eq_true, List.any_eq_false, decide_eq_true_eq] at hfresh
  have hnot := hfresh candidate hcandidate
  rw [boundTo, decide_eq_false_iff_not]
  exact fun hbound => hnot ⟨hother, hbound.1, hbound.2.2, hbound.2.1⟩

theorem change_commit (reservationId nowMs : UInt64) :
    Change cache reservationId none nowMs (cache.commit reservationId nowMs) := by
  unfold commit
  split
  · exact .same
  rename_i hnonzero
  split
  · exact .same
  split
  · exact .released
  · exact .committed hnonzero

theorem change_remember (memory : Bool) (context : Digest256) (peerKey : PublicKey)
    (nowMs : UInt64) :
    Change cache own none nowMs (cache.remember memory context peerKey nowMs).2 := by
  unfold remember
  simp only
  split
  · exact .pruned
  rename_i hfresh
  split
  · exact .pruned
  rename_i hroom
  push Not at hroom
  split
  · exact .pruned
  exact .pushed _ _ (.inl rfl) hroom.1 hroom.2 (fun _ => (Bool.not_eq_true _).mp hfresh) nofun

/-- A reservation keeps its entry when the cache is changed for another one. -/
theorem Holds.change (h : cache.Holds reservationId entry)
    (hchange : cache.Change own granted nowMs next) (hne : own ≠ reservationId) :
    next.Holds reservationId entry := by
  have hpruned := h.prune nowMs
  cases hchange with
  | same => exact h
  | pruned => exact hpruned
  | pushed added _ hid =>
    refine hpruned.append_other (fun heq => ?_) _
    rcases hid with hzero | hfree
    · exact h.nonzero (heq.symm.trans hzero)
    rw [heq, hpruned.find] at hfree
    cases hfree
  | bound => exact hpruned.modify_other hne fun _ => rfl
  | released => exact h.release_other hne
  | committed => exact h.modify_other hne fun _ => rfl

/-- Whatever the other users of the cache do, a reservation keeps its entry. -/
theorem Holds.apply (h : cache.Holds reservationId entry) {operation : ReplayOperation}
    (hne : operation.reservationId ≠ some reservationId) :
    (cache.apply operation).Holds reservationId entry := by
  have hother : ∀ own, some own ≠ some reservationId → own ≠ reservationId :=
    fun own hne heq => hne (congrArg some heq)
  cases operation with
  | contains nowMs => exact h.prune nowMs
  | reserve memory peerKey nowMs =>
    exact h.change (change_reserve memory peerKey nowMs) h.nonzero.symm
  | bind own context nowMs => exact h.change (change_bind own context nowMs) (hother own hne)
  | commit own nowMs => exact h.change (change_commit own nowMs) (hother own hne)
  | release own => exact h.release_other (hother own hne)
  | remember memory context peerKey nowMs =>
    exact h.change (change_remember memory context peerKey nowMs) h.nonzero.symm

/-- A reservation that was granted holds a new entry for the peer. -/
theorem reserve_holds {memory : Bool × Bool} {peerKey : PublicKey} {nowMs : UInt64}
    {next : ReplayCache} (h : cache.reserve memory peerKey nowMs = (some reservationId, next)) :
    next.Holds reservationId
      { reservationId := reservationId, peerKey := peerKey, reserved := true } := by
  rcases cache.reserve_cases memory peerKey nowMs with heq | ⟨id, hnonzero, hfree, -, -, heq⟩
  · rw [heq] at h
    cases h
  rw [heq] at h
  cases h
  refine ⟨hnonzero, ?_, rfl⟩
  have hnone := find_eq_none_iff.mp hfree
  rw [entriesOf] at hnone ⊢
  rw [List.filter_append, hnone]
  simp

/-- Binding an unbound reservation either succeeds or changes nothing but what is pruned. -/
theorem Holds.bind (h : cache.Holds reservationId entry) (hbound : entry.bound = false)
    (context : Digest256) (nowMs : UInt64) :
    ((cache.bind reservationId context nowMs).1 = .replayDetected ∧
        (cache.bind reservationId context nowMs).2.Holds reservationId entry) ∨
      ((cache.bind reservationId context nowMs).1 = .none ∧
        (cache.bind reservationId context nowMs).2.Holds reservationId
          { entry with context := context, bound := true }) := by
  have hpruned := h.prune nowMs
  unfold ReplayCache.bind
  simp only
  rw [if_neg h.nonzero, hpruned.find]
  simp only
  rw [if_neg (by simp [h.reserved, hbound])]
  split
  · exact .inl ⟨rfl, hpruned⟩
  refine .inr ⟨rfl, h.nonzero, ?_, h.reserved⟩
  exact hpruned.modify_same fun _ => rfl

/-- Committing a bound reservation keeps its entry until it expires. -/
theorem Holds.commit_bound (h : cache.Holds reservationId entry) (hbound : entry.bound = true)
    (nowMs : UInt64) :
    (cache.commit reservationId nowMs).entriesOf reservationId =
      [{ entry with
        expiresAtMs := checkedDeadline nowMs replayRetentionMs, reserved := false }] := by
  unfold ReplayCache.commit
  rw [if_neg h.nonzero, h.find]
  simp only
  rw [if_neg (by simp [hbound])]
  exact h.modify_same fun _ => rfl

/-- Releasing a held reservation removes its entry. -/
theorem Holds.release_same (h : cache.Holds reservationId entry) :
    (cache.release reservationId).entriesOf reservationId = [] := by
  rw [entriesOf, List.filter_eq_nil_iff]
  intro candidate hcandidate htest
  obtain ⟨hmem, hkept⟩ := List.mem_filter.mp hcandidate
  rw [h.eq_of_mem hmem (by simpa using htest), h.reserved, h.mem.2] at hkept
  simp at hkept

/-- Committing an unbound reservation removes its entry. -/
theorem Holds.commit_unbound (h : cache.Holds reservationId entry) (hbound : entry.bound = false)
    (nowMs : UInt64) : (cache.commit reservationId nowMs).entriesOf reservationId = [] := by
  unfold ReplayCache.commit
  rw [if_neg h.nonzero, h.find]
  simp only [hbound, if_true]
  exact h.release_same

end ReplayCache

end XnnTransfer.Pairing
