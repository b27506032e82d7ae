import XnnTransfer.Discovery.CacheBounds

/-!
# Replay suppression by the discovery cache

An accepted datagram is remembered: as long as its key has an entry, only a newer
announcement is accepted for the key. The entry is forgotten when its scope is
removed, or a minute after the key stopped being a candidate or was withdrawn.

`SlotStep` says what a call may do with the entry of one key. `Remembered` is the
invariant that it keeps: the entry still carries the sequence number, or a retention
time that some earlier lapse has set has passed.
-/

namespace XnnTransfer.Discovery

open FirstMatch

/-- The time that is passed to a call. -/
def Call.nowMs? : Call → Option UInt64
  | .start _ nowMs | .receive _ _ nowMs | .advance nowMs | .applyInterfaceSnapshot _ nowMs
  | .wake _ nowMs => some nowMs
  | .stop | .setLocalToken _ _ => none

/-- The tombstone is kept at the time, or the entry is a candidate. -/
def Entry.heldAt (entry : Entry) (nowMs : UInt64) : Bool :=
  !(!entry.candidate && entry.retainUntilMs ≤ nowMs)

variable {entry : Entry} {nowMs : UInt64}

theorem Entry.heldAt_iff :
    entry.heldAt nowMs = true ↔ entry.candidate = true ∨ nowMs < entry.retainUntilMs := by
  unfold Entry.heldAt
  cases entry.candidate <;> simp

theorem parseAdvertisement_ttl {payload : Bytes} {validator : DisplayLabelValidator}
    {advertisement : Advertisement} (h : parseAdvertisement payload validator = .ok advertisement)
    (htype : advertisement.type = .announce) : minimumTtlSeconds ≤ advertisement.ttlSeconds := by
  unfold parseAdvertisement at h
  dsimp only at h
  split at h
  · cases h
  split at h
  · cases h
  split at h
  · cases h
  split at h
  · cases h
  split at h
  · cases h
  rename_i hmessage
  split at h
  · cases h
  obtain rfl := Except.ok.inj h
  subst htype
  simp only [not_not, checkMessage] at hmessage
  split at hmessage
  · cases hmessage
  next hvalid => exact not_lt.mp (not_or.mp (not_or.mp hvalid).2).1

theorem toNat_ttl (ttlSeconds : UInt16) :
    (ttlSeconds.toUInt64 * 1000).toNat = ttlSeconds.toNat * 1000 := by
  have hbound := ttlSeconds.toNat_lt
  rw [UInt64.toNat_mul, UInt16.toNat_toUInt64]
  exact Nat.mod_eq_of_lt (by simp; omega)

/-- The time of an announcement with a deadline is not the last one. -/
theorem lt_of_deadline {deadlineMs : UInt64} {ttlSeconds : UInt16}
    (httl : minimumTtlSeconds ≤ ttlSeconds)
    (h : addMilliseconds nowMs (ttlSeconds.toUInt64 * 1000) = some deadlineMs) :
    nowMs.toNat < 2 ^ 64 - 1 := by
  have hsum := addMilliseconds_eq_some_iff.mp h
  have hminimum : 5 ≤ ttlSeconds.toNat := UInt16.le_iff_toNat_le.mp httl
  have hrange := deadlineMs.toNat_lt
  rw [toNat_ttl] at hsum
  omega

namespace Cache

variable {ν : Type} {cache : Cache ν}

/-- The key is a candidate. -/
def Presents (cache : Cache ν) (key : CandidateKey) : Prop :=
  ∃ entry, cache.findEntry key = some entry ∧ entry.candidate = true

/-! ### The entry of one key -/

theorem findEntry_erase (h : Kept cache) (nowMs : UInt64) (key : CandidateKey) :
    (cache.eraseExpiredTombstones nowMs).findEntry key =
      (cache.findEntry key).filter fun entry => entry.heldAt nowMs :=
  lookup_filter h.entries.keys _ key

/-- What is left of the entry of a key when a datagram is looked at. -/
theorem findEntry_gate (h : Kept cache) {nowMs : UInt64} {gate : Cache ν}
    (hmeters : Meters (cache.observe nowMs) gate) (key : CandidateKey) :
    gate.findEntry key = (cache.findEntry key).filter fun entry => entry.heldAt nowMs := by
  rw [hmeters.frame]
  exact findEntry_erase h nowMs key

theorem mem_gate {nowMs : UInt64} {gate : Cache ν} (hmeters : Meters (cache.observe nowMs) gate)
    {entry : Entry} : entry ∈ gate.entries ↔ entry ∈ cache.entries ∧ entry.heldAt nowMs = true := by
  rw [hmeters.frame]
  exact List.mem_filter

variable {nowMs : UInt64} {key : CandidateKey} {advertisement : Advertisement}

theorem findEntry_sweepEntries (h : Kept cache) {body : Entry → Option Entry × Option ExpiryReason}
    (hfate : ∀ entry, Fate nowMs entry (body entry)) (key : CandidateKey) :
    (cache.sweepEntries body).2.findEntry key =
      (cache.findEntry key).bind fun entry => (body entry).1 := by
  have hentries : (cache.sweepEntries body).2.entries =
      cache.entries.filterMap fun entry => (body entry).1 := sweep_entries _ _ _
  rw [findEntry, hentries]
  exact lookup_filterMap h.entries.keys (fun entry left => (hfate entry).key) key

theorem purgeEntry_left (nowMs : UInt64) (entry : Entry) :
    (purgeEntry nowMs entry).1 = some (if entry.candidate = true ∧
      entry.value.deadlineMs ≤ nowMs then entry.lapse nowMs else entry) := by
  unfold purgeEntry
  split
  next h => rw [if_neg (by rintro ⟨hcandidate, hdue⟩; simp [hcandidate, hdue.not_gt] at h)]
  rename_i h
  simp only [not_or, Bool.not_eq_false, not_lt] at h
  rw [if_pos h]

theorem wakeEntry_left (nowMs : UInt64) (entry : Entry) :
    (wakeEntry nowMs entry).1 =
      some (if entry.candidate = true then entry.lapse nowMs else entry) := by
  unfold wakeEntry
  split
  next h => rw [if_neg (by simp [h])]
  next h => rw [if_pos (by simpa using h)]

/-- An entry in a scope that stays is left alone by the removal of the others. -/
theorem findEntry_removeAbsentScopes (h : Kept cache) {scopes : List InterfaceScope}
    (hpresent : key.observer ∈ canonicalScopes scopes) (reason : ExpiryReason) :
    (cache.removeAbsentScopes (canonicalScopes scopes) reason).2.findEntry key =
      cache.findEntry key := by
  refine (findEntry_sweepEntries h (removeAbsentEntry_fate 0 _ reason) key).trans ?_
  cases hfind : cache.findEntry key with
  | none => rfl
  | some entry =>
    rw [Option.bind_some, removeAbsentEntry, (mem_of_lookup hfind).2,
      if_pos ((present_iff scopes key.observer).mpr hpresent)]

/-- What a call at the time may do with the entry of a key. A datagram for the key that is
accepted files a new entry where there is none, or replaces the entry by a newer one. -/
inductive SlotStep (withdraws : Prop) (nowMs : UInt64) : Option Entry → Option Entry → Prop
  | same (slot : Option Entry) : SlotStep withdraws nowMs slot slot
  | forgotten {entry : Entry} (hexpired : entry.heldAt nowMs = false) :
      SlotStep withdraws nowMs (some entry) none
  | lapsed {entry : Entry} (hcandidate : entry.candidate = true) :
      SlotStep withdraws nowMs (some entry) (some (entry.lapse nowMs))
  | vanished {entry : Entry} (hcandidate : entry.candidate = true)
      (hlast : retention nowMs ≤ nowMs) : SlotStep withdraws nowMs (some entry) none
  | filed {slot : Option Entry} (entry : Entry) (hfree : ∀ old, slot = some old →
      old.heldAt nowMs = false) : SlotStep withdraws nowMs slot (some entry)
  | renewed {old : Entry} (entry : Entry)
      (hnewer : old.value.highestSequence < entry.value.highestSequence)
      (hcandidate : entry.candidate = true ∨ withdraws ∧ entry.retainUntilMs = retention nowMs) :
      SlotStep withdraws nowMs (some old) (some entry)

/-- The erasure of expired tombstones, as the only thing that a call does. -/
theorem SlotStep.erase (withdraws : Prop) (nowMs : UInt64) (slot : Option Entry) :
    SlotStep withdraws nowMs slot (slot.filter fun entry => entry.heldAt nowMs) := by
  cases slot with
  | none => exact .same none
  | some entry =>
    cases hheld : entry.heldAt nowMs with
    | true =>
      rw [Option.filter_some, if_pos hheld]
      exact .same _
    | false =>
      rw [Option.filter_some, if_neg (by simp [hheld])]
      exact .forgotten hheld

variable {withdraws : Prop} {slot : Option Entry}

/-- A candidate that lapses after the expired tombstones are gone. -/
theorem SlotStep.lapse_after_erase (due : Entry → Prop) [DecidablePred due]
    (hdue : ∀ entry, due entry → entry.candidate = true) :
    SlotStep withdraws nowMs slot ((slot.filter fun entry => entry.heldAt nowMs).bind fun entry =>
      some (if due entry then entry.lapse nowMs else entry)) := by
  cases slot with
  | none => exact .same none
  | some entry =>
    cases hheld : entry.heldAt nowMs with
    | false =>
      rw [Option.filter_some, if_neg (by simp [hheld])]
      exact .forgotten hheld
    | true =>
      rw [Option.filter_some, if_pos hheld, Option.bind_some]
      split
      next h => exact .lapsed (hdue entry h)
      · exact .same _

/-- A candidate that lapses before the expired tombstones are erased. -/
theorem SlotStep.erase_after_lapse (due : Entry → Prop) [DecidablePred due]
    (hdue : ∀ entry, due entry → entry.candidate = true) :
    SlotStep withdraws nowMs slot ((slot.bind fun entry =>
      some (if due entry then entry.lapse nowMs else entry)).filter fun entry =>
        entry.heldAt nowMs) := by
  cases slot with
  | none => exact .same none
  | some entry =>
    rw [Option.bind_some]
    split
    next h =>
      have hlapsed := hdue entry h
      cases hheld : (entry.lapse nowMs).heldAt nowMs with
      | true =>
        rw [Option.filter_some, if_pos hheld]
        exact .lapsed hlapsed
      | false =>
        rw [Option.filter_some, if_neg (by simp [hheld])]
        have hlast : retention nowMs ≤ nowMs := by
          by_contra hlater
          rw [Entry.heldAt_iff.mpr (.inr (not_le.mp hlater))] at hheld
          cases hheld
        exact .vanished hlapsed hlast
    · exact .erase withdraws nowMs (some entry)

theorem Heard.accepted {outcome : ReceiveResult × Cache ν}
    (h : Heard cache key advertisement nowMs outcome) : outcome.1.disposition.accepted = true := by
  cases h with
  | appeared | tombstoned | withdrawn => rfl
  | renewed deadlineMs entry disposition events _ _ _ _ _ _ hresult => cases hresult <;> rfl

/-- An accepted datagram files an entry with its sequence number under its key, in place of
an older one, and leaves the entries of the other keys. -/
theorem Heard.files {outcome : ReceiveResult × Cache ν}
    (h : Heard cache key advertisement nowMs outcome) :
    ∃ entry : Entry, (∀ other, outcome.2.findEntry other =
        if other = key then some entry else cache.findEntry other) ∧
      entry.value.highestSequence = advertisement.sequence ∧
      (advertisement.type = .announce ∧ entry.candidate = true ∨
        advertisement.type = .withdraw ∧ entry.candidate = false ∧
          entry.retainUntilMs = retention nowMs) ∧
      ∀ old, cache.findEntry key = some old →
        old.value.highestSequence < advertisement.sequence := by
  have hpushed : ∀ entry : Entry, entry.key = key → cache.findEntry key = none → ∀ other,
      lookup Entry.key (cache.entries ++ [entry]) other =
        if other = key then some entry else cache.findEntry other :=
    fun entry hkey hfresh other => lookup_append_of_fresh hfresh hkey other
  have hmodified : ∀ (change : Entry → Entry) (entry : Entry),
      (∀ other : Entry, other.key = key → (change other).key = key) →
      cache.findEntry key = some entry → ∀ other,
      lookup Entry.key (cache.modifyEntry key change) other =
        if other = key then some (change entry) else cache.findEntry other := by
    intro change entry hsame hfind other
    refine (lookup_modifyFirst change hsame other).trans ?_
    rw [show lookup Entry.key cache.entries key = some entry from hfind, Option.map_some]
    rfl
  have hfirst : cache.findEntry key = none → ∀ old, cache.findEntry key = some old →
      old.value.highestSequence < advertisement.sequence := by
    intro hfresh old hold
    rw [hfresh] at hold
    cases hold
  have hlater : ∀ entry : Entry, cache.findEntry key = some entry →
      entry.value.highestSequence < advertisement.sequence → ∀ old,
      cache.findEntry key = some old → old.value.highestSequence < advertisement.sequence := by
    intro entry hfind hnewer old hold
    rwa [← Option.some.inj (hfind.symm.trans hold)]
  cases h with
  | appeared deadlineMs htype _ hfresh =>
    exact ⟨entryFrom key advertisement deadlineMs, hpushed _ rfl hfresh, rfl,
      .inl ⟨htype, rfl⟩, hfirst hfresh⟩
  | renewed deadlineMs entry disposition events htype _ hfind hnewer =>
    exact ⟨entryFrom key advertisement deadlineMs, hmodified _ entry (fun _ _ => rfl) hfind, rfl,
      .inl ⟨htype, rfl⟩, hlater entry hfind hnewer⟩
  | tombstoned retainUntilMs htype hretain hfresh =>
    exact ⟨tombstoneOf key advertisement.sequence retainUntilMs, hpushed _ rfl hfresh, rfl,
      .inr ⟨htype, rfl, by rw [retention, hretain]; rfl⟩, hfirst hfresh⟩
  | withdrawn retainUntilMs entry htype hretain hfind hnewer =>
    exact ⟨withdrawnEntry advertisement.sequence retainUntilMs entry,
      hmodified _ entry (fun _ hkey => hkey) hfind, rfl,
      .inr ⟨htype, rfl, by rw [retention, hretain]; rfl⟩, hlater entry hfind hnewer⟩

/-- A datagram changes only the entries and the bytes counted for them. -/
theorem Heard.frame {outcome : ReceiveResult × Cache ν}
    (h : Heard cache key advertisement nowMs outcome) :
    outcome.2 = { cache with
      entries := outcome.2.entries
      retainedPayloadBytes := outcome.2.retainedPayloadBytes } := by
  cases h <;> rfl

theorem Heard.nowMs_eq {outcome : ReceiveResult × Cache ν}
    (h : Heard cache key advertisement nowMs outcome) : outcome.2.nowMs = cache.nowMs := by
  rw [h.frame]

theorem Heard.state_eq {outcome : ReceiveResult × Cache ν}
    (h : Heard cache key advertisement nowMs outcome) : outcome.2.state = cache.state := by
  rw [h.frame]

theorem Meters.state_eq {before after : Cache ν} (h : Meters before after) :
    after.state = before.state := by
  rw [h.frame]

section Calls

variable [NatCast ν] [Add ν] [Sub ν] [Mul ν] [Div ν] [LT ν] [DecidableLT ν]

/-- The call delivers a datagram for the key at the time, and the cache accepts it. -/
def Accepts (cache : Cache ν) (action : Call) (key : CandidateKey) (type : MessageType)
    (sequence nowMs : UInt64) : Prop :=
  ∃ metadata payload advertisement, action = .receive metadata payload nowMs ∧
    (cache.receive metadata payload nowMs).1.disposition.accepted = true ∧
    parseAdvertisement payload (cache.labelValidator.getD fun _ => false) = .ok advertisement ∧
    keyOf metadata advertisement = key ∧ advertisement.type = type ∧
    advertisement.sequence = sequence

/-- At the call, at its time, the key stops being a candidate or is withdrawn. -/
def Lapses (cache : Cache ν) (action : Call) (key : CandidateKey) (nowMs : UInt64) : Prop :=
  action.nowMs? = some nowMs ∧
    (cache.Presents key ∧ ¬ (cache.step action).Presents key ∨
      ∃ sequence, cache.Accepts action key .withdraw sequence nowMs)

/-- The call is refused and changes nothing, or it is made at a time that is not before the
last one. -/
theorem step_slot (h : Kept cache) (hstarted : cache.state ≠ .created) (action : Call)
    (key : CandidateKey) :
    key.observer ∉ (cache.step action).installed ∨ (cache.step action).state = cache.state ∧
      ((cache.step action).findEntry key = cache.findEntry key ∧
        (cache.step action).nowMs = cache.nowMs ∨
      ∃ nowMs, action.nowMs? = some nowMs ∧ (cache.step action).nowMs = nowMs ∧
        cache.nowMs ≤ nowMs ∧
        SlotStep (∃ sequence, cache.Accepts action key .withdraw sequence nowMs) nowMs
          (cache.findEntry key) ((cache.step action).findEntry key)) := by
  cases action with
  | start scopes nowMs =>
    simp only [step, call, start, ne_eq, hstarted, not_false_eq_true, true_or, if_true, and_self,
      or_true]
  | stop => exact .inl List.not_mem_nil
  | setLocalToken scope token =>
    simp only [step, call, setLocalToken]
    split
    · exact .inr ⟨rfl, .inl ⟨rfl, rfl⟩⟩
    split
    · exact .inr ⟨rfl, .inl ⟨rfl, rfl⟩⟩
    · split <;> exact .inr ⟨rfl, .inl ⟨rfl, rfl⟩⟩
  | receive metadata payload nowMs =>
    have hcases := receive_cases cache metadata payload nowMs
    have haccepts : ∀ advertisement,
        (cache.receive metadata payload nowMs).1.disposition.accepted = true →
        parseAdvertisement payload (cache.labelValidator.getD fun _ => false) =
          .ok advertisement → keyOf metadata advertisement = key →
        cache.Accepts (.receive metadata payload nowMs) key advertisement.type
          advertisement.sequence nowMs := fun advertisement haccepted hparse hkey =>
      ⟨metadata, payload, advertisement, rfl, haccepted, hparse, hkey, rfl, rfl⟩
    simp only [step, call, Call.nowMs?]
    generalize cache.receive metadata payload nowMs = outcome at hcases haccepts
    cases hcases with
    | ignored => exact .inr ⟨rfl, .inl ⟨rfl, rfl⟩⟩
    | screened result gate _ htime hmeters =>
      refine .inr ⟨hmeters.state_eq, .inr ⟨nowMs, rfl, congrArg Cache.nowMs hmeters.frame,
        htime, ?_⟩⟩
      rw [findEntry_gate h hmeters]
      exact .erase _ nowMs _
    | heard advertisement gate _ _ htime hmeters _ hparse hheard =>
      have hslot := findEntry_gate h hmeters key
      obtain ⟨entry, hfiles, hsequence, htype, hnewer⟩ := hheard.files
      refine .inr ⟨hheard.state_eq.trans hmeters.state_eq, .inr ⟨nowMs, rfl,
        hheard.nowMs_eq.trans (congrArg Cache.nowMs hmeters.frame), htime, ?_⟩⟩
      rw [hfiles key, hslot]
      split
      next hkey =>
        subst hkey
        rw [hslot] at hnewer
        cases hfind : cache.findEntry (keyOf metadata advertisement) with
        | none => exact .filed entry (by simp)
        | some old =>
          cases hheld : old.heldAt nowMs with
          | false =>
            refine .filed entry fun other hother => ?_
            rwa [← Option.some.inj hother]
          | true =>
            have hkept : (some old).filter (fun entry => entry.heldAt nowMs) = some old :=
              if_pos hheld
            refine .renewed entry (hsequence ▸ hnewer old (hfind ▸ hkept)) ?_
            rcases htype with ⟨-, hcandidate⟩ | ⟨htype, -, hretain⟩
            · exact .inl hcandidate
            have haccepted := haccepts advertisement hheard.accepted hparse rfl
            exact .inr ⟨⟨_, htype ▸ haccepted⟩, hretain⟩
      · exact .erase _ nowMs _
  | advance nowMs =>
    simp only [step, call, advance, Call.nowMs?]
    split
    · exact .inr ⟨rfl, .inl ⟨rfl, rfl⟩⟩
    rename_i hrunning
    have hnow : Kept { cache with nowMs := nowMs } := { h with }
    have hswept := (hnow.sweepEntries (purgeEntry_fate nowMs)).1
    refine .inr ⟨rfl, .inr ⟨nowMs, rfl, rfl, not_lt.mp (not_or.mp hrunning).2, ?_⟩⟩
    refine (findEntry_erase hswept nowMs key).symm ▸ ?_
    rw [findEntry_sweepEntries hnow (purgeEntry_fate nowMs)]
    simp only [purgeEntry_left]
    exact .erase_after_lapse
      (fun entry => entry.candidate = true ∧ entry.value.deadlineMs ≤ nowMs)
      fun entry hdue => hdue.1
  | applyInterfaceSnapshot scopes nowMs =>
    simp only [step, call, applyInterfaceSnapshot, Call.nowMs?]
    split
    · exact .inr ⟨rfl, .inl ⟨rfl, rfl⟩⟩
    rename_i hrunning
    by_cases hpresent : key.observer ∈ canonicalScopes scopes
    · refine .inr ⟨rfl, .inr ⟨nowMs, rfl, rfl, not_lt.mp (not_or.mp hrunning).2, ?_⟩⟩
      have hslot := findEntry_removeAbsentScopes (h.observe nowMs) hpresent .interfaceRemoved
      refine hslot.symm ▸ ?_
      exact (findEntry_erase h nowMs key).symm ▸ .erase _ nowMs _
    refine .inl ?_
    rwa [installed_installScopes]
  | wake scopes nowMs =>
    simp only [step, call, wake, Call.nowMs?]
    split
    · exact .inr ⟨rfl, .inl ⟨rfl, rfl⟩⟩
    rename_i hrunning
    by_cases hpresent : key.observer ∈ canonicalScopes scopes
    · refine .inr ⟨rfl, .inr ⟨nowMs, rfl, rfl, not_lt.mp (not_or.mp hrunning).2, ?_⟩⟩
      have hlapsed := ((h.observe nowMs).sweepEntries (wakeEntry_fate nowMs)).1
      have hslot := findEntry_removeAbsentScopes hlapsed hpresent .interfaceRemoved
      rw [findEntry_sweepEntries (h.observe nowMs) (wakeEntry_fate nowMs)] at hslot
      simp only [wakeEntry_left] at hslot
      refine hslot.symm ▸ ?_
      refine (findEntry_erase h nowMs key).symm ▸ ?_
      exact .lapse_after_erase (fun entry => entry.candidate = true) fun entry hdue => hdue
    refine .inl ?_
    rwa [installed_installScopes]

end Calls

/-! ### What is remembered -/

/-- The entry carries the sequence number and is a candidate or a tombstone that a lapse has
left, or the retention time of a lapse has passed. -/
def Remembered (lapsed : UInt64 → Prop) (sequence nowMs : UInt64) (slot : Option Entry) : Prop :=
  (∃ entry, slot = some entry ∧ sequence ≤ entry.value.highestSequence ∧
    (entry.candidate = true ∨ ∃ lapse, lapsed lapse ∧ entry.retainUntilMs = retention lapse)) ∨
  ∃ lapse, lapsed lapse ∧ retention lapse ≤ nowMs

theorem Remembered.slotStep {lapsed lapsed' : UInt64 → Prop} {sequence lastMs nowMs : UInt64}
    {slot slot' : Option Entry} {withdraws : Prop} (h : Remembered lapsed sequence lastMs slot)
    (hmore : ∀ lapse, lapsed lapse → lapsed' lapse) (htime : lastMs ≤ nowMs)
    (hstep : SlotStep withdraws nowMs slot slot') (hwithdraws : withdraws → lapsed' nowMs)
    (hgone : ∀ entry, slot = some entry → entry.candidate = true →
      (∀ left, slot' = some left → left.candidate = false) → lapsed' nowMs) :
    Remembered lapsed' sequence nowMs slot' := by
  rcases h with ⟨entry, rfl, hsequence, hretained⟩ | ⟨lapse, hlapse, hpassed⟩
  · -- An entry that is no longer held is a tombstone whose retention time has passed.
    have hexpired : entry.heldAt nowMs = false → Remembered lapsed' sequence nowMs slot' := by
      intro hheld
      simp only [Entry.heldAt, Bool.not_eq_false', Bool.and_eq_true, Bool.not_eq_true',
        decide_eq_true_eq] at hheld
      rcases hretained with hcandidate | ⟨lapse, hlapse, hretain⟩
      · cases hcandidate.symm.trans hheld.1
      · exact .inr ⟨lapse, hmore lapse hlapse, hretain ▸ hheld.2⟩
    cases hstep with
    | same =>
      refine .inl ⟨entry, rfl, hsequence, hretained.imp_right ?_⟩
      rintro ⟨lapse, hlapse, hretain⟩
      exact ⟨lapse, hmore lapse hlapse, hretain⟩
    | forgotten hheld => exact hexpired hheld
    | lapsed hcandidate =>
      have hlapse := hgone entry rfl hcandidate fun left hleft => by
        obtain rfl := Option.some.inj hleft
        rfl
      exact .inl ⟨entry.lapse nowMs, rfl, hsequence, .inr ⟨nowMs, hlapse, rfl⟩⟩
    | vanished hcandidate hlast => exact .inr ⟨nowMs, hgone entry rfl hcandidate nofun, hlast⟩
    | filed filed hfree => exact hexpired (hfree entry rfl)
    | renewed newer hnewer hcandidate =>
      refine .inl ⟨newer, rfl, hsequence.trans hnewer.le, hcandidate.imp_right ?_⟩
      exact fun hretain => ⟨nowMs, hwithdraws hretain.1, hretain.2⟩
  · exact .inr ⟨lapse, hmore lapse hlapse, hpassed.trans htime⟩

section Runs

variable [NatCast ν] [Add ν] [Sub ν] [Mul ν] [Div ν] [LT ν] [DecidableLT ν]

variable {key : CandidateKey} {nowMs sequence : UInt64} {type : MessageType}

variable {lapsed : UInt64 → Prop} {action first : Call} {entry : Entry}
  {metadata : DatagramMetadata} {payload : Bytes}

theorem step_remembered (h : Kept cache) (hstarted : cache.state ≠ .created) (action : Call)
    (hremembered : Remembered lapsed sequence cache.nowMs (cache.findEntry key)) :
    key.observer ∉ (cache.step action).installed ∨
      (cache.step action).state = cache.state ∧ cache.nowMs ≤ (cache.step action).nowMs ∧
      Remembered (fun lapse => lapsed lapse ∨ cache.nowMs ≤ lapse ∧ cache.Lapses action key lapse)
        sequence (cache.step action).nowMs ((cache.step action).findEntry key) := by
  rcases step_slot h hstarted action key with
    hgone | ⟨hstate, ⟨hslot, hnow⟩ | ⟨nowMs, hcall, hnow, htime, hstep⟩⟩
  · exact .inl hgone
  · refine .inr ⟨hstate, hnow.ge, ?_⟩
    rw [hslot, hnow]
    exact hremembered.slotStep (fun lapse hlapse => .inl hlapse) le_rfl (.same _) False.elim
      (fun entry hentry hcandidate hnot => absurd hcandidate (by simp [hnot entry hentry]))
  refine .inr ⟨hstate, hnow ▸ htime, ?_⟩
  rw [hnow]
  refine hremembered.slotStep (fun lapse hlapse => .inl hlapse) htime hstep ?_ ?_
  · exact fun hwithdraws => .inr ⟨htime, hcall, .inr hwithdraws⟩
  refine fun entry hentry hcandidate hnot => .inr ⟨htime, hcall, .inl ?_⟩
  refine ⟨⟨entry, hentry, hcandidate⟩, ?_⟩
  rintro ⟨left, hleft, hpresent⟩
  rw [hnot left hleft] at hpresent
  cases hpresent

/-- What the acceptance of a datagram comes from. -/
theorem Accepts.heard (h : cache.Accepts action key type sequence nowMs) :
    ∃ gate outcome advertisement payload validator, Meters (cache.observe nowMs) gate ∧
      cache.state = .running ∧ cache.nowMs ≤ nowMs ∧
      parseAdvertisement payload validator = .ok advertisement ∧
      Heard gate key advertisement nowMs outcome ∧ cache.step action = outcome.2 ∧
      advertisement.type = type ∧ advertisement.sequence = sequence := by
  obtain ⟨metadata, payload, advertisement, rfl, haccepted, hparse, rfl, rfl, rfl⟩ := h
  have hcases := receive_cases cache metadata payload nowMs
  have hstep : cache.step (.receive metadata payload nowMs) =
      (cache.receive metadata payload nowMs).2 := rfl
  rw [hstep]
  generalize cache.receive metadata payload nowMs = outcome at hcases haccepted
  cases hcases with
  | ignored result hdropped | screened result gate _ _ _ hdropped =>
    rw [hdropped] at haccepted
    cases haccepted
  | heard heard gate _ hrunning htime hmeters _ hparsed hheard =>
    obtain rfl := Except.ok.inj (hparsed.symm.trans hparse)
    exact ⟨gate, outcome, heard, payload, _, hmeters, hrunning, htime, hparse, hheard, rfl, rfl,
      rfl⟩

/-- The key lapses at the time in one of the calls. -/
def LapsesWithin (cache : Cache ν) (actions : List Call) (key : CandidateKey) (nowMs : UInt64) :
    Prop :=
  ∃ passed action rest, actions = passed ++ action :: rest ∧
    (Runs.run step cache passed).Lapses action key nowMs

/-- The state after an accepted datagram remembers it. -/
theorem Accepts.remembered (haccepts : cache.Accepts first key type sequence nowMs) :
    (cache.step first).nowMs = nowMs ∧ (cache.step first).state ≠ .created ∧
      Remembered (fun lapse => nowMs ≤ lapse ∧ cache.LapsesWithin [first] key lapse) sequence
        nowMs ((cache.step first).findEntry key) := by
  obtain ⟨gate, outcome, advertisement, _, _, hmeters, hrunning, htime, -, hheard, hstep, rfl,
    rfl⟩ := haccepts.heard
  obtain ⟨entry, hfiles, hsequence, htype, -⟩ := hheard.files
  rw [hstep]
  refine ⟨hheard.nowMs_eq.trans (congrArg Cache.nowMs hmeters.frame), ?_, .inl ?_⟩
  · rw [hheard.state_eq, hmeters.frame]
    exact hrunning ▸ nofun
  refine ⟨entry, (hfiles key).trans (if_pos rfl), hsequence.ge, ?_⟩
  rcases htype with ⟨-, hcandidate⟩ | ⟨hwithdraw, -, hretain⟩
  · exact .inl hcandidate
  rw [hwithdraw] at haccepts
  have hcall : first.nowMs? = some nowMs := by
    obtain ⟨_, _, _, rfl, -⟩ := haccepts
    rfl
  refine .inr ⟨nowMs, ⟨le_rfl, [], first, [], rfl, hcall, .inr ⟨_, haccepts⟩⟩, hretain⟩

/-- Along the calls that follow an accepted datagram it stays remembered, unless the scope of
its key is removed. -/
theorem run_remembered (h : Kept cache) (haccepts : cache.Accepts first key type sequence nowMs)
    (between : List Call) :
    let later := Runs.run step (cache.step first) between
    (∃ passed, passed <+: between ∧
      key.observer ∉ (Runs.run step (cache.step first) passed).installed) ∨
    nowMs ≤ later.nowMs ∧ later.state ≠ .created ∧
      Remembered (fun lapse => nowMs ≤ lapse ∧ cache.LapsesWithin (first :: between) key lapse)
        sequence later.nowMs (later.findEntry key) := by
  induction between using List.reverseRecOn with
  | nil =>
    obtain ⟨hnow, hstarted, hremembered⟩ := haccepts.remembered
    exact .inr ⟨hnow.ge, hstarted, hnow.symm ▸ hremembered⟩
  | append_singleton between last ih =>
    rcases ih with ⟨passed, hpassed, hgone⟩ | ⟨hnow, hstarted, hremembered⟩
    · exact .inl ⟨passed, hpassed.trans (List.prefix_append _ _), hgone⟩
    have hkept := (h.step first).run between
    have hlast : Runs.run step (cache.step first) (between ++ [last]) =
        (Runs.run step (cache.step first) between).step last := Runs.run_append _ _ _ _
    rcases step_remembered hkept hstarted last hremembered with
      hgone | ⟨hstate, htime, hremembered⟩
    · exact .inl ⟨between ++ [last], List.prefix_rfl, hlast ▸ hgone⟩
    refine .inr ?_
    rw [hlast]
    refine ⟨hnow.trans htime, hstate ▸ hstarted, ?_⟩
    refine hremembered.slotStep ?_ le_rfl (.same _) False.elim ?_
    · rintro lapse (⟨hle, passed, action, rest, hpassed, hlapses⟩ | ⟨hle, hlapses⟩)
      · refine ⟨hle, passed, action, rest ++ [last], ?_, hlapses⟩
        rw [← List.cons_append, hpassed, List.append_assoc, List.cons_append]
      · exact ⟨hnow.trans hle, first :: between, last, [], rfl, hlapses⟩
    exact fun entry hentry hcandidate hnot =>
      absurd hcandidate (by simp [hnot entry hentry])

/-- An announcement that is accepted in a state that remembers a sequence number which is not
older finds the entry forgotten. -/
theorem Accepts.forgotten (h : Kept cache) {replayed : UInt64}
    (haccepts : cache.Accepts action key .announce replayed nowMs) (hold : replayed ≤ sequence)
    (hremembered : Remembered lapsed sequence cache.nowMs (cache.findEntry key)) :
    ∃ lapse, lapsed lapse ∧ lapse.toNat + 60000 ≤ nowMs.toNat := by
  obtain ⟨gate, outcome, advertisement, _, _, hmeters, hrunning, htime, hparse, hheard, -, htype,
    rfl⟩ := haccepts.heard
  -- After the erasure no entry is left that carries the sequence number.
  have hpassed : ∃ lapse, lapsed lapse ∧ retention lapse ≤ nowMs := by
    have herased := hremembered.slotStep (fun _ hlapse => hlapse) htime
      (SlotStep.erase False nowMs _) False.elim ?_
    · rw [← findEntry_gate h hmeters] at herased
      rcases herased with ⟨entry, hentry, hsequence, -⟩ | hpassed
      · obtain ⟨-, -, -, -, hnewer⟩ := hheard.files
        exact absurd ((hnewer entry hentry).trans_le hold) hsequence.not_gt
      · exact hpassed
    intro entry hentry hcandidate hnot
    rw [hentry, Option.filter_some, if_pos (Entry.heldAt_iff.mpr (.inl hcandidate))] at hnot
    rw [hnot entry rfl] at hcandidate
    cases hcandidate
  -- The deadline of the announcement is in range, so the retention time was not cut off.
  have hearly : nowMs.toNat < 2 ^ 64 - 1 := by
    have hdeadline : ∃ deadlineMs, addMilliseconds nowMs
        (advertisement.ttlSeconds.toUInt64 * 1000) = some deadlineMs := by
      cases hheard with
      | appeared deadlineMs _ hdeadline | renewed deadlineMs _ _ _ _ hdeadline =>
        exact ⟨deadlineMs, hdeadline⟩
      | tombstoned _ hwithdraw | withdrawn _ _ hwithdraw => cases htype.symm.trans hwithdraw
    obtain ⟨deadlineMs, hdeadline⟩ := hdeadline
    exact lt_of_deadline (parseAdvertisement_ttl hparse htype) hdeadline
  obtain ⟨lapse, hlapse, hretention⟩ := hpassed
  rw [UInt64.le_iff_toNat_le, toNat_retention] at hretention
  exact ⟨lapse, hlapse, by omega⟩

/-- A call at which the entry is held does not lower its sequence number. -/
theorem step_highestSequence (h : Kept cache) (hstarted : cache.state ≠ .created) (action : Call)
    {left : Entry} (hentry : entry ∈ cache.entries)
    (hheld : ∀ nowMs, action.nowMs? = some nowMs → entry.heldAt nowMs = true)
    (hleft : left ∈ (cache.step action).entries) (hkey : left.key = entry.key) :
    entry.value.highestSequence ≤ left.value.highestSequence := by
  have hkept := h.step action
  have hbefore : cache.findEntry entry.key = some entry :=
    (lookup_eq_some_iff h.entries.keys).mpr ⟨hentry, rfl⟩
  have hafter : (cache.step action).findEntry entry.key = some left :=
    (lookup_eq_some_iff hkept.entries.keys).mpr ⟨hleft, hkey⟩
  rcases step_slot h hstarted action entry.key with
    hgone | ⟨-, ⟨hslot, -⟩ | ⟨nowMs, hcall, -, -, hstep⟩⟩
  · exact absurd (hkey ▸ hkept.entryScopes left hleft) hgone
  · rw [hbefore, hafter] at hslot
    rw [Option.some.inj hslot]
  rw [hbefore, hafter] at hstep
  cases hstep with
  | same | lapsed => exact le_rfl
  | filed _ hfree =>
    have hfree := hfree entry rfl
    rw [hheld nowMs hcall] at hfree
    cases hfree
  | renewed _ hnewer => exact hnewer.le

/-- A dropped datagram leaves the entries that are held at its time. -/
theorem receive_dropped
    (hdropped : (cache.receive metadata payload nowMs).1.disposition.accepted = false)
    (hheld : entry.heldAt nowMs = true) :
    entry ∈ cache.entries ↔ entry ∈ (cache.receive metadata payload nowMs).2.entries := by
  have hcases := receive_cases cache metadata payload nowMs
  generalize cache.receive metadata payload nowMs = outcome at hcases hdropped
  cases hcases with
  | ignored => exact Iff.rfl
  | screened result gate _ _ hmeters =>
    rw [mem_gate hmeters, and_iff_left hheld]
  | heard advertisement gate _ _ _ _ _ _ hheard =>
    rw [hheard.accepted] at hdropped
    cases hdropped

/-- A datagram that refreshes or updates a candidate is newer than the candidate. -/
theorem receive_refreshed
    (hrefreshed : (cache.receive metadata payload nowMs).1.disposition = .refreshed ∨
      (cache.receive metadata payload nowMs).1.disposition = .updated) :
    ∃ advertisement entry,
      parseAdvertisement payload (cache.labelValidator.getD fun _ => false) =
        .ok advertisement ∧
      entry ∈ cache.entries ∧ entry.candidate = true ∧ entry.key = keyOf metadata advertisement ∧
      entry.value.highestSequence < advertisement.sequence := by
  have hcases := receive_cases cache metadata payload nowMs
  generalize cache.receive metadata payload nowMs = outcome at hcases hrefreshed
  have hnot : ∀ result : ReceiveResult, result.disposition.accepted = false →
      ¬ (result.disposition = .refreshed ∨ result.disposition = .updated) := by
    rintro result hdropped (hsame | hsame) <;> simp [hsame, ReceiveDisposition.accepted] at hdropped
  cases hcases with
  | ignored result hdropped | screened result _ _ _ _ hdropped =>
    exact absurd hrefreshed (hnot result hdropped)
  | heard advertisement gate _ _ _ hmeters _ hparse hheard =>
    cases hheard with
    | appeared | tombstoned | withdrawn => rcases hrefreshed with hsame | hsame <;> cases hsame
    | renewed deadlineMs entry disposition events _ _ hfind hnewer _ _ hresult =>
      obtain ⟨hmem, hkey⟩ := mem_of_lookup hfind
      have hcandidate : entry.candidate = true := by
        cases hresult with
        | appeared => rcases hrefreshed with hsame | hsame <;> cases hsame
        | updated hcandidate | refreshed hcandidate => exact hcandidate
      exact ⟨advertisement, entry, hparse, ((mem_gate hmeters).mp hmem).1, hcandidate, hkey, hnewer⟩

/-- Whatever calls lead to a state: a datagram that is accepted there suppresses announcements
that are not newer, until the scope of the key is removed or a minute has passed since the key
stopped being a candidate or was withdrawn. No call lowers the sequence number of an entry that
is held at its time, only newer datagrams refresh a candidate, and a dropped datagram leaves
every entry that is held at its time. -/
theorem run_suppresses_replay (validator : Option DisplayLabelValidator) (history : List Call) :
    let cache := Runs.run step (create validator : Cache ν) history
    (∀ first between second key type sequence replayed nowMs laterMs,
      cache.Accepts first key type sequence nowMs →
      (Runs.run step (cache.step first) between).Accepts second key .announce replayed laterMs →
      replayed ≤ sequence →
      (∃ passed, passed <+: between ∧
        key.observer ∉ (Runs.run step (cache.step first) passed).installed) ∨
      ∃ lapse, cache.LapsesWithin (first :: between) key lapse ∧ nowMs ≤ lapse ∧
        lapse.toNat + 60000 ≤ laterMs.toNat) ∧
    (∀ action entry left, entry ∈ cache.entries →
      (∀ nowMs, action.nowMs? = some nowMs → entry.heldAt nowMs = true) →
      left ∈ (cache.step action).entries → left.key = entry.key →
      entry.value.highestSequence ≤ left.value.highestSequence) ∧
    (∀ metadata payload nowMs,
      (cache.receive metadata payload nowMs).1.disposition = .refreshed ∨
        (cache.receive metadata payload nowMs).1.disposition = .updated →
      ∃ advertisement entry,
        parseAdvertisement payload (cache.labelValidator.getD fun _ => false) =
          .ok advertisement ∧
        entry ∈ cache.entries ∧ entry.candidate = true ∧
        entry.key = keyOf metadata advertisement ∧
        entry.value.highestSequence < advertisement.sequence) ∧
    ∀ metadata payload nowMs,
      (cache.receive metadata payload nowMs).1.disposition.accepted = false →
      ∀ entry : Entry, entry.candidate = true ∨ nowMs < entry.retainUntilMs →
        (entry ∈ cache.entries ↔ entry ∈ (cache.receive metadata payload nowMs).2.entries) := by
  intro cache
  have hkept : Kept cache := (Kept.create validator).run history
  refine ⟨?_, ?_, ?_, ?_⟩
  · intro first between second key type sequence replayed nowMs laterMs hfirst hsecond hold
    rcases run_remembered hkept hfirst between with hgone | ⟨-, -, hremembered⟩
    · exact .inl hgone
    obtain ⟨lapse, ⟨hle, hlapses⟩, hpassed⟩ :=
      hsecond.forgotten ((hkept.step first).run between) hold hremembered
    exact .inr ⟨lapse, hlapses, hle, hpassed⟩
  · intro action entry left hentry hheld hleft hkey
    refine step_highestSequence hkept ?_ action hentry hheld hleft hkey
    intro hcreated
    have hscope := hkept.entryScopes entry hentry
    rw [hkept.created hcreated] at hscope
    cases hscope
  · exact fun metadata payload nowMs hrefreshed => receive_refreshed hrefreshed
  intro metadata payload nowMs hdropped entry hheld
  exact receive_dropped hdropped (Entry.heldAt_iff.mpr hheld)

end Runs

/-- The calls of a cache that hears one announcement twice: it appears, expires, and appears
again when its tombstone is gone. -/
def plainReplay : List Call :=
  [.start [plainScope] 0, .receive plainMetadata (plainAnnouncement 1) 0, .advance 15000,
    .receive plainMetadata (plainAnnouncement 1) 75000]

theorem replay_after_expiry :
    (∃ passed, passed <+: [Call.advance 15000] ∧ plainKey.observer ∉
      (Runs.run step (Runs.run step (create (some fun _ => true) : Cache Nat)
        (plainReplay.take 2)) passed).installed) ∨
      ∃ lapse, ((Runs.run step (create (some fun _ => true) : Cache Nat)
        (plainReplay.take 1))).LapsesWithin
          [.receive plainMetadata (plainAnnouncement 1) 0, .advance 15000] plainKey lapse ∧
        0 ≤ lapse ∧ lapse.toNat + 60000 ≤ (75000 : UInt64).toNat := by
  have hparse : ∃ advertisement,
      parseAdvertisement (plainAnnouncement 1) (fun _ => true) = .ok advertisement ∧
      keyOf plainMetadata advertisement = plainKey ∧ advertisement.type = .announce ∧
      advertisement.sequence = 1 := ⟨_, by rfl, by decide +kernel, by decide +kernel, by decide +kernel⟩
  obtain ⟨advertisement, hparsed, hkey, htype, hsequence⟩ := hparse
  refine (run_suppresses_replay (some fun _ => true) [.start [plainScope] 0]).1
    (.receive plainMetadata (plainAnnouncement 1) 0) [.advance 15000]
    (.receive plainMetadata (plainAnnouncement 1) 75000) plainKey .announce 1 1 0 75000 ?_ ?_ le_rfl
  · exact ⟨plainMetadata, plainAnnouncement 1, advertisement, rfl, by decide +kernel, hparsed, hkey,
      htype, hsequence⟩
  exact ⟨plainMetadata, plainAnnouncement 1, advertisement, rfl, by decide +kernel, hparsed, hkey,
    htype, hsequence⟩

end Cache

end XnnTransfer.Discovery
