import XnnTransfer.Discovery.Cache
import XnnTransfer.Library.Runs

/-!
# What the operations of the discovery cache do

For each operation of the cache, the ways in which it can change the state and
what it publishes. `Fate` lists what a pass over the entries may do with one
entry, `Heard` what an admitted datagram may do, and `Received` what a call of
`Receive` may do. Every later result about the cache is a case analysis over these.
-/

namespace XnnTransfer.Discovery

open FirstMatch

/-! ### Times -/

theorem toNat_maxMs : maxMs.toNat = 2 ^ 64 - 1 := by decide

theorem addMilliseconds_eq_some_iff {nowMs durationMs result : UInt64} :
    addMilliseconds nowMs durationMs = some result ↔
      result.toNat = nowMs.toNat + durationMs.toNat := by
  have hnow := nowMs.toNat_lt
  have hresult := result.toNat_lt
  unfold addMilliseconds
  rw [toNat_maxMs]
  split
  next h =>
    simp only [reduceCtorEq, false_iff]
    omega
  rename_i h
  rw [Option.some.injEq, ← UInt64.toNat_inj, UInt64.toNat_add]
  omega

variable (nowMs : UInt64) (entry : Entry)

/-- A tombstone is kept for a minute, or up to the last time there is. -/
theorem toNat_retention : (retention nowMs).toNat = min (nowMs.toNat + 60000) (2 ^ 64 - 1) := by
  have hlifetime : tombstoneLifetimeMs.toNat = 60000 := by decide
  rw [retention, addMilliseconds, toNat_maxMs, hlifetime]
  split
  · rw [Option.getD_none, toNat_maxMs]
    omega
  · rw [Option.getD_some, UInt64.toNat_add, hlifetime]
    omega

/-! ### Passes over the entries -/

/-- What a pass may do with an entry. -/
inductive Fate (nowMs : UInt64) (entry : Entry) : Option Entry × Option ExpiryReason → Prop
  | kept : Fate nowMs entry (some entry, none)
  | lapsed (reason : ExpiryReason) (hcandidate : entry.candidate = true) :
      Fate nowMs entry (some (entry.lapse nowMs), some reason)
  | expelled (reason : ExpiryReason) (hcandidate : entry.candidate = true) :
      Fate nowMs entry (none, some reason)
  | forgotten (htombstone : entry.candidate = false) : Fate nowMs entry (none, none)

theorem purgeEntry_fate : Fate nowMs entry (purgeEntry nowMs entry) := by
  unfold purgeEntry
  split
  · exact .kept
  next h => exact .lapsed .ttl (by simpa using fun hfalse => h (.inl hfalse))

theorem wakeEntry_fate : Fate nowMs entry (wakeEntry nowMs entry) := by
  unfold wakeEntry
  split
  · exact .kept
  next h => exact .lapsed .wake (by simpa using h)

theorem removeAbsentEntry_fate (replacement : List InterfaceScope) (reason : ExpiryReason)
    (entry : Entry) : Fate nowMs entry (removeAbsentEntry replacement reason entry) := by
  unfold removeAbsentEntry
  split
  · exact .kept
  split
  next hcandidate => exact .expelled reason hcandidate
  next htombstone => exact .forgotten (by simpa using htombstone)

theorem Fate.key {nowMs : UInt64} {entry left : Entry} {outcome : Option Entry × Option ExpiryReason}
    (h : Fate nowMs entry outcome) (hleft : outcome.1 = some left) : left.key = entry.key := by
  cases h with
  | kept | lapsed =>
    obtain rfl := Option.some.inj hleft
    rfl
  | expelled | forgotten => cases hleft

section Sweep

variable (body : Entry → Option Entry × Option ExpiryReason) (entries : List Entry)
  (retained : UInt64)

theorem sweep_entries : (sweep body entries retained).1 = entries.filterMap fun entry =>
    (body entry).1 := by
  induction entries generalizing retained with
  | nil => rfl
  | cons entry rest ih =>
    have hleft : (entry :: rest).filterMap (fun entry => (body entry).1) =
        (body entry).1.toList ++ rest.filterMap fun entry => (body entry).1 := by
      cases hbody : (body entry).1 <;> simp [hbody]
    rw [hleft, sweep]
    split <;> simp only [ih]

theorem sweep_events : (sweep body entries retained).2.2 = entries.filterMap fun entry =>
    (body entry).2.map fun reason => makeEvent .expired entry.value reason := by
  induction entries generalizing retained with
  | nil => rfl
  | cons entry rest ih =>
    rw [sweep]
    split
    next hbody => rw [List.filterMap_cons_none (by simp [hbody]), ih]
    rename_i reason hbody
    rw [List.filterMap_cons_some (by simp [hbody]; rfl)]
    exact congrArg (makeEvent .expired entry.value reason :: ·) (ih _)

end Sweep

/-! ### Calls -/

inductive Call
  | start (scopes : List InterfaceScope) (nowMs : UInt64)
  | stop
  | setLocalToken (scope : InterfaceScope) (token : InstanceToken)
  | receive (metadata : DatagramMetadata) (payload : Bytes) (nowMs : UInt64)
  | advance (nowMs : UInt64)
  | applyInterfaceSnapshot (scopes : List InterfaceScope) (nowMs : UInt64)
  | wake (scopes : List InterfaceScope) (nowMs : UInt64)
  deriving DecidableEq, Repr

/-- The datagram had an effect on the entries. -/
def ReceiveDisposition.accepted : ReceiveDisposition → Bool
  | .appeared | .updated | .refreshed | .withdrawn | .tombstoned => true
  | _ => false

namespace Cache

variable {ν : Type}

/-- The keys of the source buckets. -/
def bucketKeys (cache : Cache ν) : List (InterfaceScope × IpAddress) :=
  cache.sourceBuckets.map fun item => (item.scope, item.source)

/-- The installed scopes. -/
def installed (cache : Cache ν) : List InterfaceScope := cache.scopes.map fun item => item.scope

theorem hasScope_iff {cache : Cache ν} {scope : InterfaceScope} :
    cache.hasScope scope = true ↔ scope ∈ cache.installed := by
  simp [hasScope, installed]

@[simp] theorem installed_installScopes [NatCast ν] (cache : Cache ν)
    (scopes : List InterfaceScope) (nowMs : UInt64) :
    (cache.installScopes scopes nowMs).installed = scopes := by
  unfold installed installScopes
  rw [List.map_map]
  refine (List.map_congr_left fun scope _ => ?_).trans (List.map_id scopes)
  cases h : cache.scopes.find? fun item => item.scope = scope with
  | none => simp [h]
  | some item => simpa [h] using List.find?_some h

/-- What an admission changes: the buckets, and of their keys only that a new one may come
for which there is room. -/
structure Meters (before after : Cache ν) : Prop where
  frame : after = { before with
    globalBucket := after.globalBucket
    scopes := after.scopes
    sourceBuckets := after.sourceBuckets }
  installed : after.installed = before.installed
  keys : ∃ kept, kept.Sublist before.bucketKeys ∧
    (after.bucketKeys = kept ∨
      ∃ key, key ∉ kept ∧ kept.length < maxSourceBuckets ∧
        (kept.countP fun other => other.1 = key.1) < maxSourceBucketsPerScope ∧
        key.1 ∈ before.installed ∧ after.bucketKeys = kept ++ [key])

theorem Meters.refl (cache : Cache ν) : Meters cache cache :=
  ⟨rfl, rfl, cache.bucketKeys, List.Sublist.refl _, .inl rfl⟩

/-- The result that a newer announcement of an entry returns. -/
inductive Renews (entry : Entry) (replacement : Candidate) :
    ReceiveDisposition → List CandidateEvent → Prop
  | appeared (htombstone : entry.candidate = false) :
      Renews entry replacement .appeared [makeEvent .appeared replacement]
  | updated (hcandidate : entry.candidate = true)
      (hchanged : ¬ (entry.value.servicePort = replacement.servicePort ∧
        entry.value.displayLabel = replacement.displayLabel)) :
      Renews entry replacement .updated [makeEvent .updated replacement]
  | refreshed (hcandidate : entry.candidate = true)
      (hport : entry.value.servicePort = replacement.servicePort)
      (hlabel : entry.value.displayLabel = replacement.displayLabel) :
      Renews entry replacement .refreshed []

/-- The tombstone of an instance that was never a candidate. -/
def tombstoneOf (key : CandidateKey) (sequence retainUntilMs : UInt64) : Entry :=
  { candidate := false
    value := { key := key, highestSequence := sequence }
    retainUntilMs := retainUntilMs }

/-- What an accepted datagram does. -/
inductive Heard (cache : Cache ν) (key : CandidateKey) (advertisement : Advertisement)
    (nowMs : UInt64) : ReceiveResult × Cache ν → Prop
  | appeared (deadlineMs : UInt64) (htype : advertisement.type = .announce)
      (hdeadline : addMilliseconds nowMs (advertisement.ttlSeconds.toUInt64 * 1000) =
        some deadlineMs)
      (hfresh : cache.findEntry key = none)
      (hcandidates : cache.candidateCapacity key.observer = true)
      (hentries : cache.entryCapacity key.observer = true)
      (hpayload : cache.retainedPayloadBytes + advertisement.rawSize.toUInt64 ≤
        maximumRetainedPayloadBytes) :
      Heard cache key advertisement nowMs
        ({ disposition := .appeared
           events := [makeEvent .appeared (candidateFrom key advertisement deadlineMs)] },
          { cache with
            entries := cache.entries ++ [entryFrom key advertisement deadlineMs]
            retainedPayloadBytes :=
              cache.retainedPayloadBytes + advertisement.rawSize.toUInt64 })
  | renewed (deadlineMs : UInt64) (entry : Entry) (disposition : ReceiveDisposition)
      (events : List CandidateEvent) (htype : advertisement.type = .announce)
      (hdeadline : addMilliseconds nowMs (advertisement.ttlSeconds.toUInt64 * 1000) =
        some deadlineMs)
      (hfind : cache.findEntry key = some entry)
      (hnewer : entry.value.highestSequence < advertisement.sequence)
      (hcandidates : entry.candidate = false → cache.candidateCapacity key.observer = true)
      (hpayload : cache.retainedPayloadBytes - entry.rawSize.toUInt64 +
        advertisement.rawSize.toUInt64 ≤ maximumRetainedPayloadBytes)
      (hresult : Renews entry (candidateFrom key advertisement deadlineMs) disposition events) :
      Heard cache key advertisement nowMs
        ({ disposition := disposition, events := events },
          { cache with
            entries := cache.modifyEntry key fun _ => entryFrom key advertisement deadlineMs
            retainedPayloadBytes := cache.retainedPayloadBytes - entry.rawSize.toUInt64 +
              advertisement.rawSize.toUInt64 })
  | tombstoned (retainUntilMs : UInt64) (htype : advertisement.type = .withdraw)
      (hretain : addMilliseconds nowMs tombstoneLifetimeMs = some retainUntilMs)
      (hfresh : cache.findEntry key = none)
      (hentries : cache.entryCapacity key.observer = true) :
      Heard cache key advertisement nowMs
        ({ disposition := .tombstoned },
          { cache with entries :=
              cache.entries ++ [tombstoneOf key advertisement.sequence retainUntilMs] })
  | withdrawn (retainUntilMs : UInt64) (entry : Entry) (htype : advertisement.type = .withdraw)
      (hretain : addMilliseconds nowMs tombstoneLifetimeMs = some retainUntilMs)
      (hfind : cache.findEntry key = some entry)
      (hnewer : entry.value.highestSequence < advertisement.sequence) :
      Heard cache key advertisement nowMs
        ({ disposition := .withdrawn
           events := if entry.candidate then
             [makeEvent .expired entry.value .withdrawn] else [] },
          { cache with
            entries :=
              cache.modifyEntry key (withdrawnEntry advertisement.sequence retainUntilMs)
            retainedPayloadBytes := if entry.candidate then
              cache.retainedPayloadBytes - entry.rawSize.toUInt64
              else cache.retainedPayloadBytes })

/-- A datagram that is dropped publishes nothing and leaves the cache alone. -/
def Drops (cache : Cache ν) (outcome : ReceiveResult × Cache ν) : Prop :=
  outcome.1.disposition.accepted = false ∧ outcome.1.events = [] ∧ outcome.2 = cache

theorem drops_of_not_accepted (cache : Cache ν) {disposition : ReceiveDisposition}
    (hdropped : disposition.accepted = false) (error : ParseError) :
    Drops cache ({ disposition := disposition, parseError := error }, cache) :=
  ⟨hdropped, rfl, rfl⟩

variable {advertisement : Advertisement}

theorem replaceEntry_cases (cache : Cache ν) {key : CandidateKey} {entry : Entry}
    {deadlineMs nowMs : UInt64} (htype : advertisement.type = .announce)
    (hdeadline : addMilliseconds nowMs (advertisement.ttlSeconds.toUInt64 * 1000) =
      some deadlineMs) (hfind : cache.findEntry key = some entry)
    (hnewer : entry.value.highestSequence < advertisement.sequence)
    (hcandidates : entry.candidate = false → cache.candidateCapacity key.observer = true) :
    Drops cache (cache.replaceEntry key advertisement entry deadlineMs) ∨
      Heard cache key advertisement nowMs
        (cache.replaceEntry key advertisement entry deadlineMs) := by
  unfold replaceEntry
  split
  · exact .inl (drops_of_not_accepted cache rfl _)
  rename_i hpayload
  right
  have hrenewed := fun disposition events => Heard.renewed deadlineMs entry disposition events
    htype hdeadline hfind hnewer hcandidates (not_lt.mp hpayload)
  dsimp only
  split
  next htombstone =>
    exact hrenewed _ _ (.appeared (by simpa using htombstone))
  rename_i hcandidate
  have hcandidate : entry.candidate = true := by simpa using hcandidate
  split
  next hchanged =>
    refine hrenewed _ _ (.updated hcandidate ?_)
    rintro ⟨hport, hlabel⟩
    simp [hcandidate, hport, hlabel, entryFrom] at hchanged
  rename_i hsame
  simp only [hcandidate, Bool.not_true, Bool.false_or, Bool.or_eq_true, decide_eq_true_eq,
    not_or, not_not] at hsame
  exact hrenewed _ _ (.refreshed hcandidate hsame.1 hsame.2)

theorem announce_cases (cache : Cache ν) (key : CandidateKey)
    (htype : advertisement.type = .announce) (nowMs : UInt64) :
    Drops cache (cache.announce key advertisement (cache.findEntry key) nowMs) ∨
      Heard cache key advertisement nowMs
        (cache.announce key advertisement (cache.findEntry key) nowMs) := by
  unfold announce
  split
  · exact .inl (drops_of_not_accepted cache rfl _)
  rename_i deadlineMs hdeadline
  split
  next hfresh =>
    split
    · exact .inl (drops_of_not_accepted cache rfl _)
    rename_i hroom
    simp only [not_or, Bool.not_eq_false, not_lt] at hroom
    exact .inr (.appeared deadlineMs htype hdeadline hfresh hroom.1 hroom.2.1 hroom.2.2)
  rename_i entry hfind
  split
  · exact .inl (drops_of_not_accepted cache rfl _)
  split
  · exact .inl (drops_of_not_accepted cache rfl _)
  rename_i hnotOlder
  split
  · dsimp only
    split <;> exact .inl (drops_of_not_accepted cache rfl _)
  rename_i hother
  have hnewer := lt_of_le_of_ne (not_lt.mp hnotOlder) (Ne.symm hother)
  split
  · exact .inl (drops_of_not_accepted cache rfl _)
  rename_i hroom
  refine replaceEntry_cases cache htype hdeadline hfind hnewer ?_
  intro htombstone
  simpa [htombstone] using hroom

theorem withdraw_cases (cache : Cache ν) (key : CandidateKey)
    (htype : advertisement.type = .withdraw) (nowMs : UInt64) :
    Drops cache (cache.withdraw key advertisement (cache.findEntry key) nowMs) ∨
      Heard cache key advertisement nowMs
        (cache.withdraw key advertisement (cache.findEntry key) nowMs) := by
  unfold withdraw
  split
  · exact .inl (drops_of_not_accepted cache rfl _)
  rename_i retainUntilMs hretain
  split
  next hfresh =>
    split
    · exact .inl (drops_of_not_accepted cache rfl _)
    next hroom =>
      exact .inr (.tombstoned retainUntilMs htype hretain hfresh (by simpa using hroom))
  rename_i entry hfind
  split
  · exact .inl (drops_of_not_accepted cache rfl _)
  next hnewer =>
    exact .inr (.withdrawn retainUntilMs entry htype hretain hfind (not_le.mp hnewer))

/-- The key that a datagram with the token is filed under. -/
def keyOf (metadata : DatagramMetadata) (advertisement : Advertisement) : CandidateKey :=
  { observer := metadata.observer, source := metadata.source, token := advertisement.token }

theorem hear_cases (cache : Cache ν) (metadata : DatagramMetadata) (payload : Bytes)
    (nowMs : UInt64) :
    Drops cache (cache.hear metadata payload nowMs) ∨
      ∃ advertisement,
        parseAdvertisement payload (cache.labelValidator.getD fun _ => false) =
          .ok advertisement ∧
        Heard cache (keyOf metadata advertisement) advertisement nowMs
          (cache.hear metadata payload nowMs) := by
  unfold hear
  split
  · exact .inl (drops_of_not_accepted cache rfl _)
  split
  · exact .inl (drops_of_not_accepted cache rfl _)
  rename_i advertisement hparse
  split
  · exact .inl (drops_of_not_accepted cache rfl _)
  split
  next htype =>
    refine (withdraw_cases cache (keyOf metadata advertisement) htype nowMs).imp_right ?_
    exact fun hheard => ⟨advertisement, hparse, hheard⟩
  rename_i htype
  refine (announce_cases cache (keyOf metadata advertisement) htype nowMs).imp_right ?_
  exact fun hheard => ⟨advertisement, hparse, hheard⟩

section Receive

variable [NatCast ν] [Add ν] [Sub ν] [Mul ν] [Div ν] [LT ν] [DecidableLT ν]

theorem takeTokens_meters {before after : Cache ν} (h : Meters before after)
    (scope : InterfaceScope) (source : IpAddress) (scopeState : ScopeState ν)
    (sourceBucket : SourceBucket ν) (nowMs : UInt64) :
    Meters before (after.takeTokens scope source scopeState sourceBucket nowMs).2 := by
  unfold takeTokens
  dsimp only
  split
  · exact h
  -- The buckets that are written to keep their scopes and keys.
  obtain ⟨kept, hkept, hkeys⟩ := h.keys
  refine ⟨by conv_lhs => rw [h.frame], ?_, kept, hkept, ?_⟩
  · rw [← h.installed]
    apply map_modifyFirst
    exact fun _ => rfl
  rw [show bucketKeys _ = after.bucketKeys from ?_]
  · exact hkeys
  apply map_modifyFirst
  exact fun _ => rfl

theorem admitDatagram_meters (cache : Cache ν) (scope : InterfaceScope) (source : IpAddress)
    (nowMs : UInt64) : Meters cache (cache.admitDatagram scope source nowMs).2 := by
  let kept := { cache with sourceBuckets := cache.sourceBuckets.filter fun item =>
    !(sourceBucketIdleMs ≤ nowMs - item.bucket.updatedMs) }
  have hsublist : kept.bucketKeys.Sublist cache.bucketKeys := List.filter_sublist.map _
  have hkept : Meters cache kept := ⟨rfl, rfl, kept.bucketKeys, hsublist, .inl rfl⟩
  unfold admitDatagram
  dsimp only
  split
  · exact hkept
  rename_i scopeState hscope
  split
  · exact takeTokens_meters hkept ..
  rename_i hfresh
  split
  · exact hkept
  rename_i hroom
  simp only [not_or, not_le] at hroom
  apply takeTokens_meters
  refine ⟨rfl, rfl, kept.bucketKeys, hsublist, .inr ?_⟩
  refine ⟨(scope, source), ?_, ?_, ?_, ?_, List.map_append⟩
  · intro hmem
    obtain ⟨item, hitem, heq⟩ := List.mem_map.mp hmem
    have hnone := List.find?_eq_none.mp hfresh item hitem
    simp only [Prod.mk.injEq] at heq
    simp [heq] at hnone
  · simpa [bucketKeys, kept] using hroom.1
  · simpa [bucketKeys, kept, List.countP_map, Function.comp_def] using hroom.2
  refine List.mem_map.mpr ⟨scopeState, List.mem_of_find?_eq_some hscope, ?_⟩
  simpa using List.find?_some hscope

/-- What a call of `Receive` does. -/
inductive Received (cache : Cache ν) (metadata : DatagramMetadata) (payload : Bytes)
    (nowMs : UInt64) : ReceiveResult × Cache ν → Prop
  | ignored (result : ReceiveResult) (hdropped : result.disposition.accepted = false)
      (hevents : result.events = []) : Received cache metadata payload nowMs (result, cache)
  | screened (result : ReceiveResult) (gate : Cache ν) (hrunning : cache.state = .running)
      (htime : cache.nowMs ≤ nowMs) (hmeters : Meters (cache.observe nowMs) gate)
      (hdropped : result.disposition.accepted = false) (hevents : result.events = []) :
      Received cache metadata payload nowMs (result, gate)
  | heard (advertisement : Advertisement) (gate : Cache ν) (outcome : ReceiveResult × Cache ν)
      (hrunning : cache.state = .running) (htime : cache.nowMs ≤ nowMs)
      (hmeters : Meters (cache.observe nowMs) gate)
      (hscope : metadata.observer ∈ cache.installed)
      (hparse : parseAdvertisement payload (cache.labelValidator.getD fun _ => false) =
        .ok advertisement)
      (hheard : Heard gate (keyOf metadata advertisement) advertisement nowMs outcome) :
      Received cache metadata payload nowMs outcome

theorem receive_cases (cache : Cache ν) (metadata : DatagramMetadata) (payload : Bytes)
    (nowMs : UInt64) :
    Received cache metadata payload nowMs (cache.receive metadata payload nowMs) := by
  unfold receive
  split
  · exact .ignored _ rfl rfl
  rename_i hrunning
  have hrunning : cache.state = .running := not_not.mp hrunning
  split
  · exact .ignored _ rfl rfl
  rename_i htime
  have htime := not_lt.mp htime
  dsimp only
  split
  · exact .screened _ _ hrunning htime (Meters.refl _) rfl rfl
  rename_i hscreen
  simp only [not_or, Bool.not_eq_false] at hscreen
  have hscope : metadata.observer ∈ cache.installed := hasScope_iff.mp hscreen.2.1
  have hmeters := admitDatagram_meters (cache.observe nowMs) metadata.observer metadata.source nowMs
  split
  · exact .screened _ _ hrunning htime hmeters rfl rfl
  rcases hear_cases _ metadata payload nowMs with ⟨hdropped, hevents, hsame⟩ |
    ⟨advertisement, hparse, hheard⟩
  · rw [← Prod.mk.eta (p := hear _ metadata payload nowMs), hsame]
    exact .screened _ _ hrunning htime hmeters hdropped hevents
  refine .heard advertisement _ _ hrunning htime hmeters hscope ?_ hheard
  rwa [hmeters.frame] at hparse

/-- A call, and the events that it returns. -/
def call (cache : Cache ν) : Call → List CandidateEvent × Cache ν
  | .start scopes nowMs => ([], (cache.start scopes nowMs).2)
  | .stop => ([], cache.stop)
  | .setLocalToken scope token => ([], (cache.setLocalToken scope token).2)
  | .receive metadata payload nowMs =>
    let outcome := cache.receive metadata payload nowMs
    (outcome.1.events, outcome.2)
  | .advance nowMs => cache.advance nowMs
  | .applyInterfaceSnapshot scopes nowMs => cache.applyInterfaceSnapshot scopes nowMs
  | .wake scopes nowMs => cache.wake scopes nowMs

def step (cache : Cache ν) (action : Call) : Cache ν := (cache.call action).2

def published (cache : Cache ν) (action : Call) : List CandidateEvent := (cache.call action).1

end Receive

end Cache

/-! ### A plain datagram -/

def plainScope : InterfaceScope := { generation := 1, family := .ipv4 }

def plainMetadata : DatagramMetadata :=
  { observer := plainScope
    source := .v4 ⟨[10, 0, 0, 1], rfl⟩
    destination := .v4 ⟨ipv4Group, rfl⟩ }

def plainToken : InstanceToken := ⟨List.replicate 16 1, rfl⟩

def plainKey : CandidateKey :=
  { observer := plainScope, source := plainMetadata.source, token := plainToken }

def plainAnnouncement (sequence : UInt64) : Bytes :=
  (encodeAdvertisement .announce sequence plainToken 9000 15 [] fun _ => true).getD []

end XnnTransfer.Discovery
