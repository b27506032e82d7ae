import XnnTransfer.Library.Handles
import XnnTransfer.Library.Runs
import XnnTransfer.Pairing.Replay

/-!
# The replay cache and its reservations

A cache together with the reservation objects that point into it. Whatever its
users do, the cache stays within its bounds, every reservation owns one entry,
and a context that was committed is refused for as long as it is retained.

## Implementation notes

A reservation object is a slot that holds its identifier until the reservation
is committed, destroyed or moved away. `clock` is the time of the last call that
was given one.
-/

namespace XnnTransfer.Pairing

open FirstMatch Handles Protocol Security

structure ReplaySystem where
  cache : ReplayCache := {}
  slots : List (Option UInt64) := []
  clock : UInt64 := 0
  deriving DecidableEq, Repr

inductive ReplayAction
  | contains (context : Digest256) (peerKey : PublicKey) (nowMs : UInt64)
  | reserve (memory : Bool × Bool) (peerKey : PublicKey) (nowMs : UInt64)
  | remember (memory : Bool) (context : Digest256) (peerKey : PublicKey) (nowMs : UInt64)
  | bind (slot : Nat) (context : Digest256) (nowMs : UInt64)
  | commit (slot : Nat) (nowMs : UInt64)
  | destroy (slot : Nat)
  | moveConstruct (slot : Nat)
  | moveAssign (target source : Nat)

def ReplayAction.nowMs : ReplayAction → Option UInt64
  | .contains _ _ nowMs | .reserve _ _ nowMs | .remember _ _ _ nowMs | .bind _ _ nowMs
  | .commit _ nowMs => some nowMs
  | .destroy _ | .moveConstruct _ | .moveAssign _ _ => none

namespace ReplaySystem

variable (s : ReplaySystem) (slot : Nat)

/-- The identifier of the reservation object in a slot. -/
def reservationId : UInt64 := (held s.slots slot).getD 0

/-- `~PairingReplayReservation` of the object in a slot. -/
def drop : ReplayCache :=
  if s.reservationId slot = 0 then s.cache else s.cache.release (s.reservationId slot)

def step : ReplayAction → ReplaySystem
  | .contains context peerKey nowMs =>
    { s with cache := (s.cache.contains context peerKey nowMs).2, clock := nowMs }
  | .reserve memory peerKey nowMs =>
    { cache := (s.cache.reserve memory peerKey nowMs).2
      slots := push s.slots (s.cache.reserve memory peerKey nowMs).1
      clock := nowMs }
  | .remember memory context peerKey nowMs =>
    { s with cache := (s.cache.remember memory context peerKey nowMs).2, clock := nowMs }
  | .bind slot context nowMs =>
    { s with cache := (s.cache.bind (s.reservationId slot) context nowMs).2, clock := nowMs }
  | .commit slot nowMs =>
    { cache := s.cache.commit (s.reservationId slot) nowMs
      slots := clear s.slots slot
      clock := nowMs }
  | .destroy slot => { s with cache := s.drop slot, slots := clear s.slots slot }
  | .moveConstruct slot => { s with slots := moveConstruct s.slots slot }
  | .moveAssign target source =>
    if Movable s.slots target source then
      { s with cache := s.drop target, slots := moveAssign s.slots target source }
    else s

/-- Time does not run backwards. -/
def Timely (action : ReplayAction) : Prop :=
  ∀ nowMs ∈ action.nowMs, s.clock ≤ nowMs

instance (s : ReplaySystem) (action : ReplayAction) : Decidable (s.Timely action) :=
  decidable_of_iff ((action.nowMs.all fun nowMs => s.clock ≤ nowMs) = true) (by
    simp [Timely, Option.all_eq_true])

end ReplaySystem

/-! ### Bounds -/

namespace ReplayCache

variable {cache : ReplayCache}

/-- The bounds on the entries of a cache. -/
structure Bounded (entries : List ReplayEntry) : Prop where
  size : entries.length ≤ maxReplayEntries
  perPeer : ∀ peerKey, (entries.countP fun entry => entry.peerKey = peerKey) ≤
    maxReplayEntriesPerPeer
  unique : ∀ context peerKey, entries.countP (boundTo context peerKey) ≤ 1

theorem Bounded.sublist {entries fewer : List ReplayEntry} (h : Bounded entries)
    (hfewer : fewer.Sublist entries) : Bounded fewer where
  size := hfewer.length_le.trans h.size
  perPeer peerKey := hfewer.countP_le.trans (h.perPeer peerKey)
  unique context peerKey := hfewer.countP_le.trans (h.unique context peerKey)

theorem Bounded.append {entries : List ReplayEntry} {entry : ReplayEntry} (h : Bounded entries)
    (hsize : entries.length < maxReplayEntries)
    (hpeer : (entries.countP fun other => other.peerKey = entry.peerKey) < maxReplayEntriesPerPeer)
    (hfresh : entry.bound = true → entries.any (boundTo entry.context entry.peerKey) = false) :
    Bounded (entries ++ [entry]) where
  size := by
    rw [List.length_append]
    exact hsize
  perPeer peerKey := by
    rw [List.countP_append]
    by_cases hsame : entry.peerKey = peerKey
    · subst hsame
      simpa [Nat.succ_le_iff] using hpeer
    · simpa [hsame] using h.perPeer peerKey
  unique context peerKey := by
    rw [List.countP_append]
    by_cases hbound : boundTo context peerKey entry = true
    · simp only [boundTo, decide_eq_true_eq] at hbound
      obtain ⟨hbound, rfl, rfl⟩ := hbound
      have hnone : entries.countP (boundTo entry.context entry.peerKey) = 0 := by
        simpa [List.countP_eq_zero] using hfresh hbound
      rw [hnone, Nat.zero_add]
      exact List.countP_le_length
    · simpa [List.countP_cons, hbound] using h.unique context peerKey

/-- A successful bind makes its context the only one of its kind. -/
theorem Bounded.bind (h : Bounded cache.entries) {reservationId : UInt64} {entry : ReplayEntry}
    (hheld : cache.Holds reservationId entry) (hunbound : entry.bound = false)
    {context : Digest256}
    (hfresh : ∀ candidate ∈ cache.entries, candidate.reservationId ≠ reservationId →
      boundTo context entry.peerKey candidate = false) :
    Bounded (cache.modify reservationId fun entry =>
      { entry with context := context, bound := true }).entries := by
  refine ⟨?_, fun peerKey => ?_, fun context' peerKey => ?_⟩
  · rw [ReplayCache.modify, length_modifyFirst]
    exact h.size
  · refine le_of_eq_of_le (countP_modifyFirst_eq ?_ _) (h.perPeer peerKey)
    exact fun _ => rfl
  by_cases hsame : context' = context ∧ peerKey = entry.peerKey
  · obtain ⟨rfl, rfl⟩ := hsame
    have hnone : cache.entries.countP (boundTo context' entry.peerKey) = 0 := by
      rw [List.countP_eq_zero]
      intro candidate hcandidate
      by_cases hid : candidate.reservationId = reservationId
      · rw [hheld.eq_of_mem hcandidate hid]
        simp [boundTo, hunbound]
      · simp [hfresh candidate hcandidate hid]
    have hle := @countP_modifyFirst_le _
      (fun candidate : ReplayEntry => candidate.reservationId = reservationId)
      (boundTo context' entry.peerKey)
      (fun candidate => { candidate with context := context', bound := true }) cache.entries
    rw [hnone] at hle
    exact hle
  refine (countP_modifyFirst_mono ?_).trans (h.unique context' peerKey)
  intro candidate hcandidate hid hboundTo
  rw [hheld.eq_of_mem hcandidate (by simpa using hid)] at hboundTo
  simp only [boundTo, decide_eq_true_eq] at hboundTo
  exact absurd ⟨hboundTo.2.1.symm, hboundTo.2.2.symm⟩ hsame

variable {own nowMs : UInt64} {granted : Option UInt64} {next : ReplayCache}

theorem Bounded.change (h : Bounded cache.entries)
    (hchange : cache.Change own granted nowMs next)
    (hheld : own ≠ 0 → ∃ entry, cache.Holds own entry) : Bounded next.entries := by
  have hpruned : Bounded (cache.prune nowMs).entries := h.sublist List.filter_sublist
  cases hchange with
  | same => exact h
  | pruned => exact hpruned
  | pushed entry _ _ hsize hpeer hfresh =>
    exact hpruned.append (lt_of_le_of_ne hpruned.size hsize)
      (lt_of_le_of_ne (hpruned.perPeer _) hpeer) hfresh
  | bound entry context hnonzero hfind hunbound hfresh =>
    obtain ⟨held, hheld⟩ := hheld hnonzero
    have hheld := hheld.prune nowMs
    obtain rfl := Option.some.inj (hheld.find.symm.trans hfind)
    exact hpruned.bind hheld hunbound hfresh
  | released => exact h.sublist List.filter_sublist
  | committed =>
    refine ⟨?_, fun peerKey => ?_, fun context peerKey => ?_⟩
    · rw [ReplayCache.modify, length_modifyFirst]
      exact h.size
    · refine (countP_modifyFirst_eq ?_ _).trans_le (h.perPeer peerKey)
      exact fun _ => rfl
    · refine (countP_modifyFirst_eq ?_ _).trans_le (h.unique context peerKey)
      exact fun _ => rfl

end ReplayCache

/-! ### Reservations -/

namespace ReplayCache

variable {cache : ReplayCache} {reservationId other : UInt64}

/-- Some entry is reserved under the identifier. -/
def Reserves (cache : ReplayCache) (reservationId : UInt64) : Prop :=
  ∃ entry ∈ cache.entries, entry.reserved = true ∧ entry.reservationId = reservationId

variable {own nowMs : UInt64} {granted : Option UInt64} {next : ReplayCache}

/-- A write that keeps the identifier of an entry and reserves nothing. -/
theorem Reserves.of_modify {change : ReplayEntry → ReplayEntry}
    (hid : ∀ entry, (change entry).reservationId = entry.reservationId)
    (hreserved : ∀ entry, (change entry).reserved = true → entry.reserved = true)
    (h : (cache.modify reservationId change).Reserves other) : cache.Reserves other := by
  obtain ⟨entry, hentry, hmarked, rfl⟩ := h
  rcases mem_of_mem_modifyFirst hentry with hmem | ⟨old, hmem, -, rfl⟩
  · exact ⟨entry, hmem, hmarked, rfl⟩
  · exact ⟨old, hmem, hreserved old hmarked, (hid old).symm⟩

/-- A change begins no reservation but the one that is granted. -/
theorem Reserves.of_change (h : next.Reserves other)
    (hchange : cache.Change own granted nowMs next) :
    cache.Reserves other ∨ granted = some other := by
  cases hchange with
  | same => exact .inl h
  | pruned | released =>
    obtain ⟨entry, hentry, hreserved⟩ := h
    exact .inl ⟨entry, (List.mem_filter.mp hentry).1, hreserved⟩
  | pushed entry _ _ _ _ _ hgranted =>
    obtain ⟨found, hfound, hmarked, rfl⟩ := h
    rcases List.mem_append.mp hfound with hmem | hmem
    · exact .inl ⟨found, (List.mem_filter.mp hmem).1, hmarked, rfl⟩
    obtain rfl := List.mem_singleton.mp hmem
    exact .inr (hgranted hmarked)
  | bound =>
    have hpruned : (cache.prune nowMs).Reserves other := by
      refine h.of_modify ?_ ?_
      · exact fun _ => rfl
      · exact fun _ hmarked => hmarked
    obtain ⟨entry, hentry, hreserved⟩ := hpruned
    exact .inl ⟨entry, (List.mem_filter.mp hentry).1, hreserved⟩
  | committed =>
    refine .inl (h.of_modify ?_ ?_)
    · exact fun _ => rfl
    · exact fun _ hmarked => absurd hmarked Bool.false_ne_true

end ReplayCache

namespace ReplaySystem

open ReplayCache

variable {s : ReplaySystem}

/-- Every reservation owns its entry, and every reserved entry belongs to a reservation. -/
structure Owned (s : ReplaySystem) : Prop where
  distinct : Distinct s.slots
  backed : ∀ reservationId, Live s.slots reservationId → ∃ entry, s.cache.Holds reservationId entry
  owned : ∀ reservationId, s.cache.Reserves reservationId → Live s.slots reservationId

variable {cache : ReplayCache} {clock nowMs reservationId : UInt64} {slot : Nat}
  {slots : List (Option UInt64)} {entry : ReplayEntry} {peerKey : PublicKey} {context : Digest256}
  {actions : List ReplayAction}

/-- An operation on the cache that ends no reservation and begins none. -/
theorem Owned.keeps (h : s.Owned) {own : UInt64} (hchange : s.cache.Change own none nowMs cache)
    (hown : ∀ entry, s.cache.Holds own entry → ∃ entry, cache.Holds own entry) :
    Owned ⟨cache, s.slots, clock⟩ := by
  refine ⟨h.distinct, fun reservationId hlive => ?_, fun reservationId hreserves => ?_⟩
  · obtain ⟨entry, hentry⟩ := h.backed _ hlive
    by_cases hsame : own = reservationId
    · exact hsame ▸ hown entry (hsame ▸ hentry)
    · exact ⟨entry, hentry.change hchange hsame⟩
  rcases hreserves.of_change hchange with hold | hnew
  · exact h.owned _ hold
  · cases hnew

theorem Owned.live_of_held (h : s.Owned) (hslot : held s.slots slot = some reservationId) :
    s.reservationId slot = reservationId ∧ reservationId ≠ 0 ∧
      ∃ entry, s.cache.Holds reservationId entry := by
  obtain ⟨entry, hentry⟩ := h.backed _ ⟨slot, hslot⟩
  exact ⟨by rw [ReplaySystem.reservationId, hslot]; rfl, hentry.nonzero, entry, hentry⟩

theorem reservationId_of_none (hslot : held s.slots slot = none) : s.reservationId slot = 0 := by
  rw [ReplaySystem.reservationId, hslot]
  rfl

theorem Owned.reserve (h : s.Owned) (memory : Bool × Bool) (peerKey : PublicKey)
    (nowMs : UInt64) : (s.step (.reserve memory peerKey nowMs)).Owned := by
  have hfresh : ∀ reservationId, (s.cache.reserve memory peerKey nowMs).1 = some reservationId →
      ¬ Live s.slots reservationId := by
    intro reservationId hgranted hlive
    obtain ⟨entry, hentry⟩ := h.backed _ hlive
    rcases s.cache.reserve_cases memory peerKey nowMs with heq | ⟨id, -, hfree, -, -, heq⟩
    · rw [heq] at hgranted
      cases hgranted
    rw [heq] at hgranted
    rw [Option.some.inj hgranted, (hentry.prune nowMs).find] at hfree
    cases hfree
  have hchange : s.cache.Change 0 _ nowMs _ := change_reserve memory peerKey nowMs
  refine ⟨h.distinct.push hfresh, ?_, ?_⟩
  · intro reservationId hlive
    rcases (live_push_iff _ _ _).mp hlive with hold | hnew
    · obtain ⟨entry, hentry⟩ := h.backed _ hold
      exact ⟨entry, hentry.change hchange hentry.nonzero.symm⟩
    · exact ⟨_, reserve_holds (Prod.ext hnew rfl)⟩
  intro reservationId hreserves
  rw [ReplaySystem.step, live_push_iff]
  exact (hreserves.of_change hchange).imp_left (h.owned _)

theorem Owned.bind (h : s.Owned) (slot : Nat) (context : Digest256) (nowMs : UInt64) :
    (s.step (.bind slot context nowMs)).Owned := by
  refine h.keeps (change_bind (s.reservationId slot) context nowMs) fun entry hentry => ?_
  by_cases hbound : entry.bound = true
  · refine ⟨entry, ?_⟩
    unfold ReplayCache.bind
    simp only
    rw [if_neg hentry.nonzero, (hentry.prune nowMs).find]
    simp only
    rw [if_pos (.inr hbound)]
    exact hentry.prune nowMs
  rcases hentry.bind (by simpa using hbound) context nowMs with ⟨-, hkept⟩ | ⟨-, hkept⟩
  · exact ⟨_, hkept⟩
  · exact ⟨_, hkept⟩

/-- A commit or the end of the reservation object in a slot takes its entry out of the
reservations, whatever becomes of the slot. -/
theorem Owned.ends (h : s.Owned)
    (hchange : s.cache.Change (s.reservationId slot) none nowMs cache)
    (hended : ∀ entry, s.cache.Holds (s.reservationId slot) entry →
      ∀ left ∈ cache.entriesOf (s.reservationId slot), left.reserved = false)
    (hdistinct : Distinct slots)
    (hlive : ∀ other, Live slots other ↔ Live s.slots other ∧ held s.slots slot ≠ some other) :
    Owned ⟨cache, slots, clock⟩ := by
  have hsame : ∀ other, Live s.slots other →
      (held s.slots slot ≠ some other ↔ s.reservationId slot ≠ other) := by
    intro other hother
    obtain ⟨entry, hentry⟩ := h.backed other hother
    cases hslot : held s.slots slot with
    | none => simp [reservationId_of_none hslot, hentry.nonzero.symm]
    | some reservationId => simp [(h.live_of_held hslot).1]
  refine ⟨hdistinct, fun other hother => ?_, fun other hreserves => ?_⟩
  · obtain ⟨hold, hne⟩ := (hlive other).mp hother
    obtain ⟨entry, hentry⟩ := h.backed other hold
    exact ⟨entry, hentry.change hchange ((hsame other hold).mp hne)⟩
  have hold : Live s.slots other := by
    rcases hreserves.of_change hchange with hold | hnew
    · exact h.owned other hold
    · cases hnew
  refine (hlive other).mpr ⟨hold, (hsame other hold).mpr ?_⟩
  rintro rfl
  obtain ⟨entry, hentry⟩ := h.backed _ hold
  obtain ⟨found, hfound, hmarked, hid⟩ := hreserves
  rw [hended entry hentry found (mem_entriesOf.mpr ⟨hfound, hid⟩)] at hmarked
  cases hmarked

theorem Owned.commit (h : s.Owned) (slot : Nat) (nowMs : UInt64) :
    (s.step (.commit slot nowMs)).Owned := by
  refine h.ends (change_commit _ nowMs) (fun entry hentry left hleft => ?_)
    (h.distinct.clear slot) (live_clear_iff h.distinct slot)
  by_cases hbound : entry.bound = true
  · rw [hentry.commit_bound hbound, List.mem_singleton] at hleft
    rw [hleft]
  rw [hentry.commit_unbound (by simpa using hbound)] at hleft
  cases hleft

theorem change_drop (s : ReplaySystem) (slot : Nat) (nowMs : UInt64) :
    s.cache.Change (s.reservationId slot) none nowMs (s.drop slot) := by
  unfold ReplaySystem.drop
  split
  · exact .same
  · exact .released

theorem Owned.drop (h : s.Owned) (hdistinct : Distinct slots)
    (hlive : ∀ other, Live slots other ↔ Live s.slots other ∧ held s.slots slot ≠ some other) :
    Owned ⟨s.drop slot, slots, clock⟩ := by
  refine h.ends (s.change_drop slot 0) (fun entry hentry left hleft => ?_) hdistinct hlive
  rw [ReplaySystem.drop, if_neg hentry.nonzero, hentry.release_same] at hleft
  cases hleft

theorem Owned.step (h : s.Owned) (action : ReplayAction) : (s.step action).Owned := by
  cases action with
  | contains context peerKey nowMs =>
    exact h.keeps .pruned fun entry hentry => absurd rfl hentry.nonzero
  | reserve memory peerKey nowMs => exact h.reserve memory peerKey nowMs
  | remember memory context peerKey nowMs =>
    exact h.keeps (change_remember memory context peerKey nowMs) fun entry hentry =>
      absurd rfl hentry.nonzero
  | bind slot context nowMs => exact h.bind slot context nowMs
  | commit slot nowMs => exact h.commit slot nowMs
  | destroy slot => exact h.drop (h.distinct.clear slot) (live_clear_iff h.distinct slot)
  | moveConstruct slot =>
    refine ⟨h.distinct.moveConstruct slot, fun other hother => ?_, fun other hreserves => ?_⟩
    · exact h.backed other ((live_moveConstruct_iff h.distinct slot other).mp hother)
    · exact (live_moveConstruct_iff h.distinct slot other).mpr (h.owned other hreserves)
  | moveAssign target source =>
    rw [ReplaySystem.step]
    split
    next hmovable =>
      exact h.drop (h.distinct.moveAssign hmovable) (live_moveAssign_iff h.distinct hmovable)
    · exact h

theorem mem_prune (hentry : entry ∈ cache.entries) (hunexpired : nowMs < entry.expiresAtMs) :
    entry ∈ (cache.prune nowMs).entries := by
  refine List.mem_filter.mpr ⟨hentry, ?_⟩
  simp [UInt64.not_le.mpr hunexpired]

/-- The slot holds a reservation for the peer, bound to the context. -/
def BoundTo (s : ReplaySystem) (slot : Nat) (context : Digest256) (peerKey : PublicKey) : Prop :=
  ∃ reservationId entry, held s.slots slot = some reservationId ∧
    entry ∈ s.cache.entries ∧ entry.reservationId = reservationId ∧
    boundTo context peerKey entry = true

/-- The slot holds a reservation for the peer that is not bound yet. -/
def Unbound (s : ReplaySystem) (slot : Nat) (peerKey : PublicKey) : Prop :=
  ∃ reservationId entry, held s.slots slot = some reservationId ∧
    entry ∈ s.cache.entries ∧ entry.reservationId = reservationId ∧ entry.bound = false ∧
    entry.peerKey = peerKey

/-- No entry is left of what a slot held. -/
def Gone (s next : ReplaySystem) (slot : Nat) : Prop :=
  ∀ reservationId, held s.slots slot = some reservationId →
    ∀ entry ∈ next.cache.entries, entry.reservationId ≠ reservationId

/-- The context is refused for the peer: lookups find it and reservations for the peer
cannot be bound to it. -/
structure Refuses (s : ReplaySystem) (context : Digest256) (peerKey : PublicKey)
    (nowMs : UInt64) : Prop where
  found : (s.cache.contains context peerKey nowMs).1 = true
  refused : ∀ slot, s.Unbound slot peerKey →
    (s.cache.bind (s.reservationId slot) context nowMs).1 = .replayDetected

/-- The one entry of a reservation. -/
theorem Owned.eq_of_mem (h : s.Owned) (hslot : held s.slots slot = some reservationId)
    (hentry : entry ∈ s.cache.entries) (hid : entry.reservationId = reservationId) :
    s.reservationId slot = reservationId ∧ s.cache.Holds reservationId entry := by
  obtain ⟨hsame, -, other, hother⟩ := h.live_of_held hslot
  exact ⟨hsame, hother.eq_of_mem hentry hid ▸ hother⟩

/-- A retained entry refuses its context. -/
theorem Owned.refuses (h : s.Owned) (hentry : entry ∈ s.cache.entries)
    (hcommitted : entry.reserved = false) (hbound : boundTo context peerKey entry = true)
    (hunexpired : nowMs < entry.expiresAtMs) : s.Refuses context peerKey nowMs := by
  have hpruned := mem_prune hentry hunexpired
  refine ⟨List.any_eq_true.mpr ⟨entry, hpruned, hbound⟩, fun slot hunbound => ?_⟩
  obtain ⟨reservationId, own, hslot, hown, hid, hfree, hpeer⟩ := hunbound
  obtain ⟨hsame, hheld⟩ := h.eq_of_mem hslot hown hid
  have hpruned' := hheld.prune nowMs
  simp only [boundTo, decide_eq_true_eq] at hbound
  have hother : entry.reservationId ≠ reservationId := by
    intro hclash
    have hsame' := (h.eq_of_mem hslot hentry hclash).2.reserved
    rw [hcommitted] at hsame'
    cases hsame'
  rw [hsame]
  unfold ReplayCache.bind
  simp only
  rw [if_neg hheld.nonzero, hpruned'.find]
  simp only
  rw [if_neg (by simp [hheld.reserved, hfree]), if_pos]
  rw [List.any_eq_true]
  exact ⟨entry, hpruned, by simp [hother, hbound, hpeer]⟩

/-- The entry that a commit leaves behind. -/
theorem Owned.committed (h : s.Owned) {slot : Nat} {context : Digest256} {peerKey : PublicKey}
    (hbound : s.BoundTo slot context peerKey) (nowMs : UInt64) :
    ∃ entry ∈ (s.step (.commit slot nowMs)).cache.entries, entry.reserved = false ∧
      boundTo context peerKey entry = true ∧
      entry.expiresAtMs = checkedDeadline nowMs replayRetentionMs := by
  obtain ⟨reservationId, entry, hslot, hentry, hid, hboundTo⟩ := hbound
  obtain ⟨hsame, hheld⟩ := h.eq_of_mem hslot hentry hid
  have hbound : entry.bound = true := by
    simp only [boundTo, decide_eq_true_eq] at hboundTo
    exact hboundTo.1
  have hmem := List.mem_singleton_self ({ entry with
    expiresAtMs := checkedDeadline nowMs replayRetentionMs, reserved := false } : ReplayEntry)
  rw [← hheld.commit_bound hbound nowMs] at hmem
  rw [ReplaySystem.step, hsame]
  exact ⟨_, (mem_entriesOf.mp hmem).1, rfl, hboundTo, rfl⟩

end ReplaySystem

end XnnTransfer.Pairing
