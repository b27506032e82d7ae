import XnnTransfer.Admission.Effects

/-!
# What holds of the admission entries

The limits on the entries, and what tells them apart. Entries leave the state in
four ways while leases still refer to them: a crossed connection displaces one,
its window closes, its owner retires, or its lease is destroyed. The limits hold
after each of these, and a lease that has lost its entry never fits another one.
-/

namespace XnnTransfer.Admission

open FirstMatch Pairing Security

/-- The limits on the entries and what tells the entries apart. -/
structure Sound (entries : List Entry) : Prop where
  size : entries.length ≤ maxIncompletePairingHandshakes
  strangers : (entries.countP fun entry => entry.userInitiated = false) ≤
    maxIncompletePairingHandshakes - reservedUserInitiatedPairingSlots
  perSource : ∀ source, (entries.countP fun entry => entry.source = source) ≤
    maxIncompletePairingHandshakesPerSource
  connections : (entries.map Entry.connectionId).Nodup
  generations : (entries.map Entry.leaseGeneration).Nodup
  pairs : ∀ first ∈ entries, ∀ second ∈ entries, first.bound = true → second.bound = true →
    first.ownerGeneration = second.ownerGeneration → first.keyPair = second.keyPair →
    first = second

theorem Sound.nil : Sound [] where
  size := Nat.zero_le _
  strangers := Nat.zero_le _
  perSource _ := Nat.zero_le _
  connections := List.nodup_nil
  generations := List.nodup_nil
  pairs _ hfirst := absurd hfirst List.not_mem_nil

variable {entries : List Entry} {state : State} {entry : Entry}

variable {fewer : List Entry} {next : UInt64} {state' : State} {change : Entry → Entry}

theorem Sound.sublist (h : Sound entries) (hfewer : fewer.Sublist entries) : Sound fewer where
  size := hfewer.length_le.trans h.size
  strangers := hfewer.countP_le.trans h.strangers
  perSource source := hfewer.countP_le.trans (h.perSource source)
  connections := (hfewer.map _).nodup h.connections
  generations := (hfewer.map _).nodup h.generations
  pairs first hfirst second hsecond :=
    h.pairs first (hfewer.subset hfirst) second (hfewer.subset hsecond)

theorem Sound.eq_of_connectionId (h : Sound entries) {first second : Entry}
    (hfirst : first ∈ entries) (hsecond : second ∈ entries)
    (hsame : first.connectionId = second.connectionId) : first = second :=
  List.inj_on_of_nodup_map h.connections hfirst hsecond hsame

theorem Sound.findLease_of_mem (h : Sound state.entries) (hentry : entry ∈ state.entries) :
    state.findLease entry.lease = some entry := by
  rcases hfind : state.find entry.connectionId with _ | found
  · rw [State.find, List.find?_eq_none] at hfind
    exact absurd (decide_eq_true rfl) (hfind entry hentry)
  obtain ⟨hfound, hsame⟩ := State.mem_of_find hfind
  obtain rfl := h.eq_of_connectionId hfound hentry hsame
  rw [State.findLease, Entry.lease, hfind]
  simp

/-- A generation that was handed out before `next`, which is zero once all were. -/
def Spent (next generation : UInt64) : Prop := generation ≠ 0 ∧ (next = 0 ∨ generation < next)

theorem not_spent_self (h : next ≠ 0) : ¬ Spent next next := by
  rintro ⟨-, hzero | hlt⟩
  · exact h hzero
  · exact absurd hlt (UInt64.lt_irrefl next)

theorem spent_succ_iff {generation : UInt64} (h : next ≠ 0) :
    Spent (next + 1) generation ↔ Spent next generation ∨ generation = next := by
  simp only [Spent, ne_eq, ← UInt64.toNat_inj, UInt64.lt_iff_toNat_lt, UInt64.toNat_add,
    UInt64.toNat_zero, UInt64.toNat_one] at h ⊢
  have hnext := next.toNat_lt
  have hgeneration := generation.toNat_lt
  omega

/-- The entries are sound and all their generations were handed out. -/
structure Ordered (state : State) : Prop where
  sound : Sound state.entries
  spent : ∀ entry ∈ state.entries, Spent state.nextLeaseGeneration entry.leaseGeneration

theorem Ordered.sublist (h : Ordered state) (hentries : state'.entries.Sublist state.entries)
    (hnext : state'.nextLeaseGeneration = state.nextLeaseGeneration) : Ordered state' :=
  ⟨h.sound.sublist hentries, fun entry hentry =>
    hnext ▸ h.spent entry (hentries.subset hentry)⟩

theorem Ordered.reserves (h : Ordered state) (hreserves : state.Reserves entry state') :
    Ordered state' := by
  obtain ⟨hsize, hstranger, hsource⟩ := of_decide_eq_true hreserves.room
  have hgeneration : ∀ other ∈ state.entries, other.leaseGeneration ≠ entry.leaseGeneration := by
    intro other hother hsame
    have hspent := h.spent other hother
    rw [hsame, hreserves.generation] at hspent
    exact not_spent_self hreserves.nonzero hspent
  refine ⟨?_, ?_⟩
  · rw [hreserves.entries]
    refine ⟨?_, ?_, fun source => ?_, ?_, ?_, ?_⟩
    · rw [List.length_append]
      exact hsize
    · rw [List.countP_append]
      cases huser : entry.userInitiated with
      | true => simpa [huser] using h.sound.strangers
      | false =>
        rcases hstranger with hinitiated | hstranger
        · rw [huser] at hinitiated
          cases hinitiated
        · simpa [huser, Nat.succ_le_iff] using hstranger
    · rw [List.countP_append]
      have hold := h.sound.perSource source
      by_cases hsame : entry.source = source
      · subst hsame
        rw [State.activeForSource] at hsource
        simpa [Nat.succ_le_iff] using hsource
      · simpa [hsame] using hold
    · exact nodup_append_of_fresh h.sound.connections (lookup_eq_none_iff.mpr hreserves.fresh)
    · exact nodup_append_of_fresh h.sound.generations (lookup_eq_none_iff.mpr hgeneration)
    intro first hfirst second hsecond hbound hbound'
    have hold : ∀ other ∈ state.entries ++ [entry], other.bound = true →
        other ∈ state.entries := by
      intro other hother hbound
      rcases List.mem_append.mp hother with hother | hother
      · exact hother
      rw [List.mem_singleton.mp hother, hreserves.unbound] at hbound
      cases hbound
    exact h.sound.pairs first (hold first hfirst hbound) second (hold second hsecond hbound')
      hbound hbound'
  intro other hother
  rw [hreserves.entries] at hother
  rw [hreserves.next, spent_succ_iff hreserves.nonzero]
  rcases List.mem_append.mp hother with hother | hother
  · exact .inl (h.spent other hother)
  rw [List.mem_singleton.mp hother]
  exact .inr hreserves.generation

/-- A write through a pointer that leaves the identity of an entry as it is. -/
structure Faithful (change : Entry → Entry) : Prop where
  lease : ∀ entry, (change entry).lease = entry.lease
  owner : ∀ entry, (change entry).ownerGeneration = entry.ownerGeneration
  source : ∀ entry, (change entry).source = entry.source
  initiated : ∀ entry, (change entry).userInitiated = entry.userInitiated

theorem faithful_bindTo (request : Request) (deadline : UInt64) :
    Faithful (Entry.bindTo · request deadline) :=
  ⟨fun _ => rfl, fun _ => rfl, fun _ => rfl, fun _ => rfl⟩

theorem faithful_visible : Faithful fun entry => { entry with visible := true } :=
  ⟨fun _ => rfl, fun _ => rfl, fun _ => rfl, fun _ => rfl⟩

theorem Sound.mem_modifyFirst_iff (h : Sound entries) {lease : Lease} {reserved : Entry}
    (hreserved : reserved ∈ entries) (hlease : reserved.lease = lease) :
    entry ∈ FirstMatch.modifyFirst (fun entry => entry.connectionId = lease.connectionId) change
        entries ↔
      entry ∈ entries ∧ entry.connectionId ≠ lease.connectionId ∨ entry = change reserved := by
  subst hlease
  exact FirstMatch.mem_modifyFirst_iff h.connections hreserved

/-- A rewritten entry leaves all the limits as they are; what is left to check is that no
other bound entry has its keys. -/
theorem Ordered.rewrites {lease : Lease} {reserved : Entry} (h : Ordered state)
    (hchange : Faithful change) (hfound : state.findLease lease = some reserved)
    (hfewer : state'.entries.Sublist
      (modifyFirst (fun entry => entry.connectionId = lease.connectionId) change state.entries))
    (hnext : state'.nextLeaseGeneration = state.nextLeaseGeneration)
    (hkeys : ∀ other ∈ state'.entries, other ∈ state.entries → other.lease ≠ lease →
      other.bound = true → (change reserved).bound = true →
      other.ownerGeneration = reserved.ownerGeneration →
      other.keyPair ≠ (change reserved).keyPair) : Ordered state' := by
  obtain ⟨hreserved, hlease⟩ := State.mem_of_findLease hfound
  have hmem : ∀ entry ∈ state'.entries,
      entry ∈ state.entries ∧ entry.lease ≠ lease ∨ entry = change reserved := by
    intro entry hentry
    refine ((h.sound.mem_modifyFirst_iff hreserved hlease).mp (hfewer.subset hentry)).imp_left ?_
    exact fun ⟨hold, hne⟩ => ⟨hold, fun hsame => hne (congrArg Lease.connectionId hsame)⟩
  have hconnection : ∀ entry, (change entry).connectionId = entry.connectionId := fun entry =>
    congrArg Lease.connectionId (hchange.lease entry)
  have hgeneration : ∀ entry, (change entry).leaseGeneration = entry.leaseGeneration :=
    fun entry => congrArg Lease.leaseGeneration (hchange.lease entry)
  refine ⟨⟨?_, ?_, fun source => ?_, ?_, ?_, ?_⟩, fun entry hentry => ?_⟩
  · exact hfewer.length_le.trans ((length_modifyFirst state.entries).le.trans h.sound.size)
  · refine hfewer.countP_le.trans (le_trans (le_of_eq ?_) h.sound.strangers)
    exact countP_modifyFirst_eq (fun entry => by rw [hchange.initiated]) state.entries
  · refine hfewer.countP_le.trans (le_trans (le_of_eq ?_) (h.sound.perSource source))
    exact countP_modifyFirst_eq (fun entry => by rw [hchange.source]) state.entries
  · refine (hfewer.map _).nodup ?_
    rw [map_modifyFirst hconnection]
    exact h.sound.connections
  · refine (hfewer.map _).nodup ?_
    rw [map_modifyFirst hgeneration]
    exact h.sound.generations
  · intro first hfirst second hsecond hbound hbound' howner hpair
    rcases hmem first hfirst with ⟨hold, hne⟩ | rfl
    · rcases hmem second hsecond with ⟨hold', -⟩ | rfl
      · exact h.sound.pairs first hold second hold' hbound hbound' howner hpair
      rw [hchange.owner] at howner
      exact absurd hpair (hkeys first hfirst hold hne hbound hbound' howner)
    rcases hmem second hsecond with ⟨hold', hne⟩ | rfl
    · rw [hchange.owner] at howner
      exact absurd hpair.symm (hkeys second hsecond hold' hne hbound' hbound howner.symm)
    · rfl
  rw [hnext]
  rcases hmem entry hentry with ⟨hold, -⟩ | rfl
  · exact h.spent entry hold
  · exact hgeneration reserved ▸ h.spent reserved hreserved

theorem State.mem_duplicate {owner : UInt64} {request : Request} {other : Entry}
    (h : state.duplicate owner request = some other) :
    other ∈ state.entries ∧ other.ownerGeneration = owner ∧ other.bound = true ∧
      other.keyPair = request.keyPair := by
  have htest := List.find?_some h
  obtain ⟨howner, hbound, hpair⟩ := of_decide_eq_true htest
  exact ⟨List.mem_of_find?_eq_some h, howner, hbound, sameKeyPair_iff.mp hpair⟩

namespace State.Binds

variable {state state' : State} {owner windowGeneration deadline : UInt64} {lease : Lease}
  {request : Request} {reserved entry : Entry} {displaced : Option Entry}

/-- The entries after a binding: those there were, without the one that gave way, and
the one that is bound now. -/
theorem mem_iff
    (h : state.Binds owner lease request windowGeneration reserved deadline displaced state')
    (hsound : Sound state.entries) :
    entry ∈ state'.entries ↔
      (entry ∈ state.entries ∧ entry.connectionId ≠ lease.connectionId ∨
        entry = reserved.bindTo request deadline) ∧
      ∀ other ∈ displaced, entry.connectionId ≠ other.connectionId := by
  obtain ⟨hreserved, hlease⟩ := State.mem_of_findLease h.found
  rw [h.entries, List.mem_filter, hsound.mem_modifyFirst_iff hreserved hlease]
  exact and_congr_right fun _ => ⟨of_decide_eq_true, decide_eq_true⟩

/-- Any entry that was bound to the same keys has given way. -/
theorem displaced_eq
    (h : state.Binds owner lease request windowGeneration reserved deadline displaced state')
    (hsound : Sound state.entries) (hentry : entry ∈ state.entries)
    (howner : entry.ownerGeneration = owner) (hbound : entry.bound = true)
    (hpair : entry.keyPair = request.keyPair) : displaced = some entry := by
  cases hdisplaced : displaced with
  | none =>
    have hnone := h.duplicate.trans hdisplaced
    rw [State.duplicate, List.find?_eq_none] at hnone
    exact absurd (decide_eq_true ⟨howner, hbound, sameKeyPair_iff.mpr hpair⟩) (hnone entry hentry)
  | some other =>
    obtain ⟨hother, howner', hbound', hpair'⟩ :=
      State.mem_duplicate (h.duplicate.trans hdisplaced)
    rw [hsound.pairs entry hentry other hother hbound hbound' (howner.trans howner'.symm)
      (hpair.trans hpair'.symm)]

theorem ordered
    (h : state.Binds owner lease request windowGeneration reserved deadline displaced state')
    (hordered : Ordered state) : Ordered state' := by
  refine hordered.rewrites (faithful_bindTo request deadline) h.found
    (h.entries ▸ List.filter_sublist) h.next ?_
  -- an entry with the same keys would have given way to the new one
  intro other hother hold _ hbound _ howner hpair
  have hgone := h.displaced_eq hordered.sound hold (howner.trans h.owned) hbound hpair
  exact ((h.mem_iff hordered.sound).mp hother).2 other hgone rfl

end State.Binds

theorem Sound.mem_shows_iff {state : State} {lease : Lease} {marked entry : Entry}
    (h : Sound state.entries) (hfound : state.findLease lease = some marked) :
    entry ∈ (state.modify lease.connectionId fun entry => { entry with visible := true }).entries ↔
      entry ∈ state.entries ∧ entry.connectionId ≠ lease.connectionId ∨
        entry = { marked with visible := true } := by
  obtain ⟨hmarked, hlease⟩ := State.mem_of_findLease hfound
  exact h.mem_modifyFirst_iff hmarked hlease

/-- A bound entry is marked as visible. -/
theorem Ordered.shows {state : State} {lease : Lease} {marked : Entry} (h : Ordered state)
    (hfound : state.findLease lease = some marked) :
    Ordered (state.modify lease.connectionId fun entry => { entry with visible := true }) := by
  obtain ⟨hmarked, hlease⟩ := State.mem_of_findLease hfound
  refine h.rewrites faithful_visible hfound (List.Sublist.refl _) rfl ?_
  intro other _ hold hne hbound hbound' howner hpair
  have hsame := h.sound.pairs other hold marked hmarked hbound hbound' howner hpair
  exact hne (hsame ▸ hlease)

/-- What a locked section of the code does when it rewrites no entry. -/
inductive Quiet (state state' : State) : Prop
  | drops (hentries : state'.entries.Sublist state.entries)
      (hnext : state'.nextLeaseGeneration = state.nextLeaseGeneration)
  | reserves (entry : Entry) (h : state.Reserves entry state')

/-- What a locked section of the code does to the entries. -/
inductive Advances (state state' : State) : Prop
  | quiet (h : Quiet state state')
  | shows (lease : Lease) (marked : Entry) (hfound : state.findLease lease = some marked)
      (h : state' = state.modify lease.connectionId fun entry => { entry with visible := true })
  | binds (owner : UInt64) (lease : Lease) (request : Request) (windowGeneration : UInt64)
      (reserved : Entry) (deadline : UInt64) (displaced : Option Entry)
      (h : state.Binds owner lease request windowGeneration reserved deadline displaced state')

variable {state state' : State}

theorem Quiet.refl (state : State) : Quiet state state := .drops (List.Sublist.refl _) rfl

/-- Each entry was there before, or it is new. -/
theorem Quiet.mem_cases (h : Quiet state state') {entry : Entry} (hentry : entry ∈ state'.entries) :
    entry ∈ state.entries ∨
      (entry.leaseGeneration = state.nextLeaseGeneration ∧ state.nextLeaseGeneration ≠ 0 ∧
        entry.bound = false) := by
  cases h with
  | drops hentries hnext => exact .inl (hentries.subset hentry)
  | reserves added h =>
    rw [h.entries] at hentry
    rcases List.mem_append.mp hentry with hold | hnew
    · exact .inl hold
    rw [List.mem_singleton.mp hnew]
    exact .inr ⟨h.generation, h.nonzero, h.unbound⟩

/-- A lease whose entry is gone. -/
def Stale (state : State) (lease : Lease) : Prop :=
  Spent state.nextLeaseGeneration lease.leaseGeneration ∧
    ∀ entry ∈ state.entries, entry.lease ≠ lease

namespace Advances

theorem ordered (h : Advances state state') (hordered : Ordered state) : Ordered state' := by
  cases h with
  | quiet h =>
    cases h with
    | drops hentries hnext => exact hordered.sublist hentries hnext
    | reserves entry h => exact hordered.reserves h
  | shows lease marked hfound h =>
    subst h
    exact hordered.shows hfound
  | binds owner lease request windowGeneration reserved deadline displaced h =>
    exact h.ordered hordered

theorem spent (h : Advances state state') {generation : UInt64}
    (hspent : Spent state.nextLeaseGeneration generation) :
    Spent state'.nextLeaseGeneration generation := by
  cases h with
  | quiet h =>
    cases h with
    | drops hentries hnext => rwa [hnext]
    | reserves entry h =>
      rw [h.next, spent_succ_iff h.nonzero]
      exact .inl hspent
  | shows lease marked hfound h =>
    subst h
    exact hspent
  | binds owner lease request windowGeneration reserved deadline displaced h => rwa [h.next]

/-- The generation of a new entry was not handed out before, so no lease becomes valid again. -/
theorem stale (h : Advances state state') (hordered : Ordered state) {lease : Lease}
    (hstale : Stale state lease) : Stale state' lease := by
  refine ⟨h.spent hstale.1, fun entry hentry => ?_⟩
  cases h with
  | quiet h =>
    rcases h.mem_cases hentry with hold | ⟨hnew, hnonzero, -⟩
    · exact hstale.2 entry hold
    rintro rfl
    exact not_spent_self hnonzero (hnew ▸ hstale.1)
  | shows own marked hfound h =>
    subst h
    rcases (hordered.sound.mem_shows_iff hfound).mp hentry with ⟨hold, -⟩ | rfl
    · exact hstale.2 entry hold
    · exact hstale.2 marked (State.mem_of_findLease hfound).1
  | binds owner own request windowGeneration reserved deadline displaced h =>
    rcases ((h.mem_iff hordered.sound).mp hentry).1 with ⟨hold, -⟩ | rfl
    · exact hstale.2 entry hold
    · exact hstale.2 reserved (State.mem_of_findLease h.found).1

end Advances

end XnnTransfer.Admission
