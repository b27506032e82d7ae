import XnnTransfer.Discovery.CacheBounds
import XnnTransfer.Library.KeyedLog

/-!
# The events of the discovery cache

The events that the calls of a cache return are a log of what the cache shows: each
event fits what the events before it have told, and folding all of them gives the
contents of `Snapshot`. Every change of the entries is one of those of
`CacheEffects`, and each of them leads from the contents before to the contents
after it.
-/

namespace XnnTransfer.Discovery

open FirstMatch KeyedLog

/-- What a candidate shows besides its key. -/
abbrev Shown := UInt16 × Bytes

/-- The change that an event tells of. -/
def CandidateEvent.change (event : CandidateEvent) : KeyedLog.Event CandidateKey Shown :=
  let shown := (event.candidate.servicePort, event.candidate.displayLabel)
  match event.kind with
  | .appeared => .appeared event.candidate.key shown
  | .updated => .updated event.candidate.key shown
  | .expired => .expired event.candidate.key shown

/-- What an entry shows, if it is a candidate. -/
def Entry.shown (entry : Entry) : Option Shown :=
  if entry.candidate then some (entry.value.servicePort, entry.value.displayLabel) else none

variable {entry : Entry} {entries : List Entry} {key : CandidateKey}

theorem Entry.shown_of_candidate (h : entry.candidate = true) :
    entry.shown = some (entry.value.servicePort, entry.value.displayLabel) := if_pos h

theorem Entry.shown_of_tombstone (h : entry.candidate = false) :
    entry.shown = none := if_neg (by simp [h])

/-- What the entries show for each key. -/
def contents (entries : List Entry) (key : CandidateKey) : Option Shown :=
  (lookup Entry.key entries key).bind Entry.shown

theorem contents_of_lookup (h : lookup Entry.key entries key = some entry) :
    contents entries key = entry.shown := by
  rw [contents, h, Option.bind_some]

theorem contents_of_fresh (h : lookup Entry.key entries key = none) :
    contents entries key = none := by
  rw [contents, h, Option.bind_none]

/-! ### How the contents change -/

section Changes

variable {entries : List Entry}

variable {key : CandidateKey} {entry : Entry}

theorem contents_push (hfresh : lookup Entry.key entries key = none) (hkey : entry.key = key) :
    contents (entries ++ [entry]) = Function.update (contents entries) key entry.shown := by
  funext other
  rw [contents, lookup_append_of_fresh hfresh hkey, Function.update_apply]
  split
  · exact Option.bind_some _ _
  · rfl

theorem contents_modify (hfind : lookup Entry.key entries key = some entry) {change : Entry → Entry}
    (hsame : ∀ other : Entry, other.key = key → (change other).key = key) :
    contents (modifyFirst (fun other => other.key = key) change entries) =
      Function.update (contents entries) key (change entry).shown := by
  funext other
  rw [contents, lookup_modifyFirst change hsame, Function.update_apply]
  split
  · rw [hfind, Option.map_some, Option.bind_some]
  · rfl

/-- An update with what is there already changes nothing. -/
theorem leads_nil {before : CandidateKey → Option Shown} {shown : Option Shown}
    (h : before key = shown) : Leads before [] (Function.update before key shown) := by
  rw [← h, Function.update_eq_self]
  exact Leads.refl before

/-- The erasure of tombstones shows nowhere. -/
theorem contents_erase (hkeys : (entries.map Entry.key).Nodup) (nowMs : UInt64) :
    contents (entries.filter fun entry =>
      !(!entry.candidate && entry.retainUntilMs ≤ nowMs)) = contents entries := by
  funext key
  rw [contents, contents, lookup_filter hkeys]
  cases hfind : lookup Entry.key entries key with
  | none => rfl
  | some entry =>
    cases hcandidate : entry.candidate with
    | true => simp [Option.filter, hcandidate]
    | false =>
      rw [Option.bind_some, Entry.shown_of_tombstone hcandidate, Option.bind_eq_none_iff]
      intro left hleft
      rw [Option.filter_eq_some_iff] at hleft
      obtain rfl := Option.some.inj hleft.1
      exact Entry.shown_of_tombstone hcandidate

/-- The events of a pass are the expiries of the entries that it publishes. -/
theorem sweep_changes (body : Entry → Option Entry × Option ExpiryReason) (retained : UInt64) :
    (sweep body entries retained).2.2.map CandidateEvent.change =
      ((entries.filter fun entry => (body entry).2.isSome).map fun entry =>
        (entry.key, (entry.value.servicePort, entry.value.displayLabel))).map fun pair =>
          KeyedLog.Event.expired pair.1 pair.2 := by
  rw [sweep_events, List.map_map]
  induction entries with
  | nil => rfl
  | cons entry rest ih =>
    cases hbody : (body entry).2 with
    | none =>
      rw [List.filterMap_cons_none (hbody ▸ rfl), List.filter_cons_of_neg (by simp [hbody])]
      exact ih
    | some reason =>
      rw [List.filterMap_cons_some (by rw [hbody]; rfl),
        List.filter_cons_of_pos (by simp [hbody]), List.map_cons, List.map_cons, ih]
      rfl

theorem sweep_leads (hkeys : (entries.map Entry.key).Nodup)
    {body : Entry → Option Entry × Option ExpiryReason} {nowMs : UInt64}
    (hfate : ∀ entry, Fate nowMs entry (body entry)) (retained : UInt64) :
    Leads (contents entries) ((sweep body entries retained).2.2.map CandidateEvent.change)
      (contents (sweep body entries retained).1) := by
  have hkeysOf : ((entries.filter fun entry => (body entry).2.isSome).map fun entry =>
      (entry.key, (entry.value.servicePort, entry.value.displayLabel))).map Prod.fst =
        (entries.filter fun entry => (body entry).2.isSome).map Entry.key := by
    rw [List.map_map]
    rfl
  rw [sweep_changes]
  refine (leads_expired ?_ ?_).imp_right fun hrun => hrun.trans (funext fun key => ?_)
  · rw [hkeysOf]
    exact (List.filter_sublist.map _).nodup hkeys
  · intro pair hpair
    obtain ⟨entry, hmem, rfl⟩ := List.mem_map.mp hpair
    obtain ⟨hmem, hpublished⟩ := List.mem_filter.mp hmem
    rw [contents_of_lookup ((lookup_eq_some_iff hkeys).mpr ⟨hmem, rfl⟩)]
    apply Entry.shown_of_candidate
    have houtcome := hfate entry
    generalize body entry = outcome at houtcome hpublished
    cases houtcome with
    | kept | forgotten => cases hpublished
    | lapsed _ hcandidate | expelled _ hcandidate => exact hcandidate
  rw [hkeysOf, sweep_entries, contents, contents,
    lookup_filterMap hkeys fun entry left => (hfate entry).key]
  cases hfind : lookup Entry.key entries key with
  | none => simp
  | some entry =>
    obtain ⟨hmem, rfl⟩ := mem_of_lookup hfind
    have hpublished : entry.key ∈ (entries.filter fun entry => (body entry).2.isSome).map
        Entry.key ↔ (body entry).2.isSome = true := by
      constructor
      · intro hkey
        obtain ⟨other, hother, hsame⟩ := List.mem_map.mp hkey
        obtain ⟨hother, hpublished⟩ := List.mem_filter.mp hother
        rwa [← List.inj_on_of_nodup_map hkeys hother hmem hsame]
      · exact fun hpublished => List.mem_map_of_mem (List.mem_filter.mpr ⟨hmem, hpublished⟩)
    simp only [hpublished, Option.bind_some]
    have houtcome := hfate entry
    generalize body entry = outcome at houtcome
    cases houtcome with
    | kept | lapsed | expelled => rfl
    | forgotten htombstone => exact (Entry.shown_of_tombstone htombstone)

end Changes

namespace Cache

variable {ν : Type} {cache : Cache ν}

variable {key : CandidateKey} {nowMs : UInt64}

theorem heard_leads {advertisement : Advertisement} {outcome : ReceiveResult × Cache ν}
    (h : Heard cache key advertisement nowMs outcome) :
    Leads (contents cache.entries) (outcome.1.events.map CandidateEvent.change)
      (contents outcome.2.entries) := by
  cases h with
  | appeared deadlineMs _ _ hfresh =>
    rw [contents_push hfresh rfl]
    exact Leads.single (contents_of_fresh hfresh)
  | renewed deadlineMs entry disposition events _ _ hfind _ _ _ hresult =>
    rw [modifyEntry, contents_modify hfind fun _ _ => rfl]
    have hbefore := contents_of_lookup hfind
    cases hresult with
    | appeared htombstone =>
      exact Leads.single (hbefore.trans (Entry.shown_of_tombstone htombstone))
    | updated hcandidate =>
      refine Leads.single (?_ : contents cache.entries key ≠ none)
      rw [hbefore, Entry.shown_of_candidate hcandidate]
      nofun
    | refreshed hcandidate hport hlabel =>
      refine leads_nil (hbefore.trans ?_)
      rw [Entry.shown_of_candidate hcandidate, hport, hlabel]
      rfl
  | tombstoned retainUntilMs _ _ hfresh =>
    rw [contents_push hfresh rfl]
    exact leads_nil (contents_of_fresh hfresh)
  | withdrawn retainUntilMs entry _ _ hfind =>
    rw [modifyEntry, contents_modify hfind (by exact fun _ hkey => hkey)]
    have hbefore := contents_of_lookup hfind
    have hkey := (mem_of_lookup hfind).2
    cases hcandidate : entry.candidate with
    | true =>
      rw [Entry.shown_of_candidate hcandidate, ← hkey] at hbefore
      rw [← hkey]
      exact Leads.single hbefore
    | false =>
      rw [Entry.shown_of_tombstone hcandidate] at hbefore
      exact leads_nil hbefore

theorem sweepEntries_leads (h : Kept cache) {body : Entry → Option Entry × Option ExpiryReason}
    (hfate : ∀ entry, Fate nowMs entry (body entry)) :
    Leads (contents cache.entries) ((cache.sweepEntries body).1.map CandidateEvent.change)
      (contents (cache.sweepEntries body).2.entries) :=
  sweep_leads h.entries.keys hfate cache.retainedPayloadBytes

theorem contents_observe (h : Kept cache) (nowMs : UInt64) :
    contents (cache.observe nowMs).entries = contents cache.entries :=
  contents_erase h.entries.keys nowMs

theorem mem_snapshot {candidate : Candidate} :
    candidate ∈ cache.snapshot ↔
      ∃ entry ∈ cache.entries, entry.candidate = true ∧ entry.value = candidate := by
  simp [snapshot, and_assoc]

/-- The contents are what `Snapshot` returns. -/
theorem contents_iff_snapshot (h : Kept cache) {port : UInt16} {label : Bytes} :
    contents cache.entries key = some (port, label) ↔
      ∃ candidate ∈ cache.snapshot, candidate.key = key ∧ candidate.servicePort = port ∧
        candidate.displayLabel = label := by
  constructor
  · intro hshown
    obtain ⟨entry, hfind, hshown⟩ := Option.bind_eq_some_iff.mp hshown
    obtain ⟨hmem, hkey⟩ := mem_of_lookup hfind
    cases hcandidate : entry.candidate with
    | false =>
      rw [Entry.shown_of_tombstone hcandidate] at hshown
      cases hshown
    | true =>
      rw [Entry.shown_of_candidate hcandidate] at hshown
      obtain ⟨hport, hlabel⟩ := Prod.mk.inj (Option.some.inj hshown)
      exact ⟨entry.value, mem_snapshot.mpr ⟨entry, hmem, hcandidate, rfl⟩, hkey, hport, hlabel⟩
  rintro ⟨candidate, hmem, rfl, rfl, rfl⟩
  obtain ⟨entry, hentry, hcandidate, rfl⟩ := mem_snapshot.mp hmem
  have hfind := (lookup_eq_some_iff h.entries.keys).mpr ⟨hentry, rfl⟩
  exact (contents_of_lookup hfind).trans (Entry.shown_of_candidate hcandidate)

theorem snapshot_keys_nodup (h : Kept cache) :
    (cache.snapshot.map fun candidate => candidate.key).Nodup := by
  have hperm := (List.mergeSort_perm ((cache.entries.filter fun entry => entry.candidate).map
    fun entry => entry.value) fun left right => left.key ≤ right.key).map
      fun candidate => candidate.key
  rw [snapshot, hperm.nodup_iff, List.map_map]
  exact (List.filter_sublist.map _).nodup h.entries.keys

section Calls

variable [NatCast ν] [Add ν] [Sub ν] [Mul ν] [Div ν] [LT ν] [DecidableLT ν]

theorem receive_leads (h : Kept cache) (metadata : DatagramMetadata) (payload : Bytes)
    (nowMs : UInt64) :
    Leads (contents cache.entries)
      ((cache.receive metadata payload nowMs).1.events.map CandidateEvent.change)
      (contents (cache.receive metadata payload nowMs).2.entries) := by
  have hcases := receive_cases cache metadata payload nowMs
  generalize cache.receive metadata payload nowMs = outcome at hcases
  have hgate : ∀ gate : Cache ν, Meters (cache.observe nowMs) gate →
      contents gate.entries = contents cache.entries := by
    intro gate hmeters
    rw [hmeters.frame, ← contents_observe h nowMs]
  cases hcases with
  | ignored result _ hevents =>
    rw [hevents]
    exact Leads.refl _
  | screened result gate _ _ hmeters _ hevents =>
    rw [hevents, hgate gate hmeters]
    exact Leads.refl _
  | heard advertisement gate _ _ _ hmeters _ _ hheard =>
    rw [← hgate gate hmeters]
    exact heard_leads hheard

/-- Each call but `Stop` publishes how it changes the contents. -/
theorem published_leads (h : Kept cache) {action : Call} (hstop : action ≠ .stop) :
    Leads (contents cache.entries) ((cache.published action).map CandidateEvent.change)
      (contents (cache.step action).entries) := by
  cases action with
  | stop => exact absurd rfl hstop
  | start scopes nowMs =>
    simp only [published, step, call, start]
    split <;> exact Leads.refl _
  | setLocalToken scope token =>
    simp only [published, step, call, setLocalToken]
    split
    · exact Leads.refl _
    split
    · exact Leads.refl _
    · split <;> exact Leads.refl _
  | receive metadata payload nowMs => exact receive_leads h metadata payload nowMs
  | advance nowMs =>
    simp only [published, step, call, advance]
    split
    · exact Leads.refl _
    have hnow : Kept { cache with nowMs := nowMs } := { h with }
    have hswept := (hnow.sweepEntries (purgeEntry_fate nowMs)).1
    have hleads := sweepEntries_leads hnow (purgeEntry_fate nowMs)
    rw [← contents_observe hswept nowMs] at hleads
    exact hleads
  | applyInterfaceSnapshot scopes nowMs =>
    simp only [published, step, call, applyInterfaceSnapshot]
    split
    · exact Leads.refl _
    rw [← contents_observe h nowMs]
    exact sweepEntries_leads (h.observe nowMs) (removeAbsentEntry_fate nowMs _ _)
  | wake scopes nowMs =>
    simp only [published, step, call, wake]
    split
    · exact Leads.refl _
    rw [← contents_observe h nowMs, List.map_append]
    have hlapsed := ((h.observe nowMs).sweepEntries (wakeEntry_fate nowMs)).1
    exact (sweepEntries_leads (h.observe nowMs) (wakeEntry_fate nowMs)).trans
      (sweepEntries_leads hlapsed (removeAbsentEntry_fate nowMs _ _))

/-- From a started cache, as long as it is not stopped, the published events are an orderly
log whose fold is the snapshot. -/
theorem run_log (validator : Option DisplayLabelValidator) (scopes : List InterfaceScope)
    (nowMs : UInt64) (actions : List Call) (hsteady : ∀ action ∈ actions, action ≠ .stop) :
    let started := ((create validator : Cache ν).start scopes nowMs).2
    let cache := Runs.run step started actions
    let log := (Runs.emitted step published started actions).map CandidateEvent.change
    (∀ key port label, view log key = some (port, label) ↔
      ∃ candidate ∈ cache.snapshot, candidate.key = key ∧ candidate.servicePort = port ∧
        candidate.displayLabel = label) ∧
    (cache.snapshot.map fun candidate => candidate.key).Nodup ∧
    (∀ key, Alternates false (kindsOf key log)) ∧
    ∀ key shown before after, log = before ++ .expired key shown :: after →
      lastPublished key before = some shown := by
  intro started cache log
  have hstarted : Kept started := (Kept.create validator).start scopes nowMs
  have hempty : contents started.entries = fun _ => none := by
    have hentries : started.entries = [] := by
      simp only [started, start]
      split <;> rfl
    rw [hentries]
    rfl
  have hrun : Kept cache ∧ Leads (contents started.entries) log (contents cache.entries) := by
    refine Runs.run_history (P := fun history state => Kept state ∧
      Leads (contents started.entries) (history.map CandidateEvent.change)
        (contents state.entries)) ?_ ⟨hstarted, Leads.refl _⟩
      (Runs.admits_of_forall hsteady started)
    rintro history state action ⟨hkept, hleads⟩ hstop
    rw [List.map_append]
    exact ⟨hkept.step action, hleads.trans (published_leads hkept hstop)⟩
  obtain ⟨hkept, horderly, hview⟩ := hrun
  rw [hempty] at horderly hview
  refine ⟨?_, snapshot_keys_nodup hkept, ?_, ?_⟩
  · intro key port label
    rw [← contents_iff_snapshot hkept, ← hview]
    rfl
  · exact fun key => alternates_of_admits horderly key
  · exact fun key shown before after hlog => lastPublished_of_expired horderly hlog

end Calls

/-- An announcement appears and expires. -/
theorem run_log_plain :
    kindsOf plainKey ((Runs.emitted step published
      ((create (some fun _ => true) : Cache Nat).start [plainScope] 0).2
      [.receive plainMetadata (plainAnnouncement 1) 0, .advance 15000]).map
        CandidateEvent.change) = [.appeared, .expired] ∧
    Alternates false (kindsOf plainKey ((Runs.emitted step published
      ((create (some fun _ => true) : Cache Nat).start [plainScope] 0).2
      [.receive plainMetadata (plainAnnouncement 1) 0, .advance 15000]).map
        CandidateEvent.change)) :=
  ⟨by decide +kernel,
    (run_log (some fun _ => true) [plainScope] 0
      [.receive plainMetadata (plainAnnouncement 1) 0, .advance 15000] (by simp)).2.2.1 plainKey⟩

end Cache

end XnnTransfer.Discovery
