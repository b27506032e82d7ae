import XnnTransfer.Discovery.Wire
import XnnTransfer.Library.FirstMatch
import XnnTransfer.Library.SortedRanges

/-!
# The discovery cache

`DiscoveryCache` of `native/src/discovery/cache.cpp`. The cache holds an entry for
every advertised instance that it has heard of: a candidate, or the tombstone of an
instance that is gone, whose sequence number is remembered for a while.

## Implementation notes

The mutex makes each operation one step. The token buckets count in `double`; the
model is over any type `ν` with the operations that the buckets use, since no
result depends on how they round. `retained_payload_bytes_` is a machine word, so
that its subtractions can wrap. The iterator that `FindEntry` returns denotes the
first entry with the key, and a write through it changes the first match. `Purge`,
the loop of `Wake` and `RemoveAbsentScopes` are one pass over the entries, `sweep`,
with different bodies. The validator is only dereferenced while the cache runs,
when `Start` has seen that it is there.
-/

namespace XnnTransfer.Discovery

open FirstMatch

def globalRate : Nat := 256
def globalBurst : Nat := 512
def scopeRate : Nat := 128
def scopeBurst : Nat := 256
def sourceRate : Nat := 8
def sourceBurst : Nat := 16
def maximumRetainedPayloadBytes : UInt64 := 131072

def ipv4Group : Bytes := [239, 255, 88, 78]
def ipv6Group : Bytes := [0xff, 0x12, 0, 0, 0, 0, 0, 0, 0, 0, 0, 0, 0x58, 0x4e, 0x4e, 0x44]

/-- `std::numeric_limits<std::uint64_t>::max()`. -/
def maxMs : UInt64 := 0xffffffffffffffff

inductive CacheState
  | created
  | running
  | stopped
  deriving DecidableEq, Repr

/-! ### Token buckets -/

structure TokenBucket (ν : Type) where
  rate : ν
  burst : ν
  tokens : ν
  updatedMs : UInt64
  deriving DecidableEq, Repr

section Buckets

variable {ν : Type} [NatCast ν] [Add ν] [Sub ν] [Mul ν] [Div ν] [LT ν] [DecidableLT ν]

namespace TokenBucket

def available (bucket : TokenBucket ν) (nowMs : UInt64) : ν :=
  let elapsedMs := nowMs - bucket.updatedMs
  let refill := (elapsedMs.toNat : ν) * bucket.rate / ((1000 : Nat) : ν)
  if bucket.tokens + refill < bucket.burst then bucket.tokens + refill else bucket.burst

def consume (bucket : TokenBucket ν) (nowMs : UInt64) : TokenBucket ν :=
  { bucket with tokens := bucket.available nowMs - ((1 : Nat) : ν), updatedMs := nowMs }

end TokenBucket

omit [Add ν] [Sub ν] [Mul ν] [Div ν] [LT ν] [DecidableLT ν] in
def fullBucket (rate burst : Nat) (nowMs : UInt64) : TokenBucket ν :=
  { rate := rate, burst := burst, tokens := burst, updatedMs := nowMs }

end Buckets

/-! ### Entries -/

structure ScopeState (ν : Type) where
  scope : InterfaceScope
  bucket : TokenBucket ν
  deriving DecidableEq, Repr

structure LocalToken where
  scope : InterfaceScope
  token : InstanceToken
  deriving DecidableEq, Repr

structure SourceBucket (ν : Type) where
  scope : InterfaceScope
  source : IpAddress
  bucket : TokenBucket ν
  deriving DecidableEq, Repr

structure Entry where
  candidate : Bool
  value : Candidate
  raw : Bytes := []
  rawSize : UInt16 := 0
  retainUntilMs : UInt64 := 0
  deriving DecidableEq, Repr

def Entry.key (entry : Entry) : CandidateKey := entry.value.key

variable (nowMs : UInt64) (entry : Entry)

def addMilliseconds (durationMs : UInt64) : Option UInt64 :=
  if maxMs.toNat - nowMs.toNat < durationMs.toNat then none else some (nowMs + durationMs)

/-- The sum, or the last time there is. -/
def retention : UInt64 :=
  (addMilliseconds nowMs tombstoneLifetimeMs).getD maxMs

def isValidSource (metadata : DatagramMetadata) : Bool :=
  if metadata.source.family ≠ metadata.observer.family ∨
      metadata.destination.family ≠ metadata.observer.family ∨
      metadata.sourceIsBroadcast = true then false
  else
    match metadata.source with
    | .v4 source =>
      let first := source.val.getD 0 0
      first ≠ 0 ∧ first ≠ 127 ∧ first ≠ 255 ∧ (first < 224 ∨ 239 < first)
    | .v6 source =>
      if source.allZero = true ∨ source.val.getD 0 0 = 0xff then false
      else
        let loopback := (source.val.take 15).all (· = 0) && source.val.getD 15 0 = 1
        let ipv4Mapped := (source.val.take 10).all (· = 0) && source.val.getD 10 0 = 0xff &&
          source.val.getD 11 0 = 0xff
        !loopback && !ipv4Mapped

def isDiscoveryDestination (metadata : DatagramMetadata) : Bool :=
  if metadata.destinationPort ≠ discoveryPort then false
  else
    match metadata.destination with
    | .v4 destination => destination.val = ipv4Group
    | .v6 destination => destination.val = ipv6Group

def makeEvent (kind : EventKind) (candidate : Candidate) (reason : ExpiryReason := .ttl) :
    CandidateEvent :=
  { kind := kind, candidate := candidate, expiryReason := reason }

/-- What `Purge` and `Wake` make of a candidate: the tombstone that keeps its key and its
sequence number. -/
def Entry.lapse (nowMs : UInt64) : Entry :=
  { entry with
    candidate := false
    value := { entry.value with servicePort := 0, displayLabel := [], deadlineMs := 0 }
    rawSize := 0
    retainUntilMs := retention nowMs }

/-- A pass over the entries. The body gives what is left of an entry, and the reason of the
expiry that is published for it; a published entry gives back its payload bytes. -/
def sweep (body : Entry → Option Entry × Option ExpiryReason) :
    List Entry → UInt64 → List Entry × UInt64 × List CandidateEvent
  | [], retained => ([], retained, [])
  | entry :: rest, retained =>
    let left := (body entry).1.toList
    match (body entry).2 with
    | none =>
      let (entries, retained, events) := sweep body rest retained
      (left ++ entries, retained, events)
    | some reason =>
      let (entries, retained, events) :=
        sweep body rest (retained - entry.rawSize.toUInt64)
      (left ++ entries, retained, makeEvent .expired entry.value reason :: events)

/-- The body of the loop of `Purge`. -/
def purgeEntry : Option Entry × Option ExpiryReason :=
  if entry.candidate = false ∨ nowMs < entry.value.deadlineMs then (some entry, none)
  else (some (entry.lapse nowMs), some .ttl)

/-- The body of the loop of `Wake`. -/
def wakeEntry : Option Entry × Option ExpiryReason :=
  if entry.candidate = false then (some entry, none)
  else (some (entry.lapse nowMs), some .wake)

/-- The body of the loop of `RemoveAbsentScopes`. -/
def removeAbsentEntry (replacement : List InterfaceScope) (reason : ExpiryReason)
    (entry : Entry) : Option Entry × Option ExpiryReason :=
  if SortedRanges.binarySearch replacement entry.key.observer = true then (some entry, none)
  else (none, if entry.candidate = true then some reason else none)

/-- The body of the loop of `CanonicalScopes`. -/
def insertScope (result : List InterfaceScope) (scope : InterfaceScope) : List InterfaceScope :=
  if (SortedRanges.fromLowerBound result scope).head? = some scope then result
  else SortedRanges.insertCapped maxScopes result scope

def canonicalScopes (scopes : List InterfaceScope) : List InterfaceScope :=
  scopes.foldl insertScope []

structure Cache (ν : Type) where
  labelValidator : Option DisplayLabelValidator
  state : CacheState := .created
  nowMs : UInt64 := 0
  globalBucket : TokenBucket ν
  scopes : List (ScopeState ν) := []
  localTokens : List LocalToken := []
  sourceBuckets : List (SourceBucket ν) := []
  entries : List Entry := []
  retainedPayloadBytes : UInt64 := 0

structure CacheStats where
  candidates : Nat
  tombstones : Nat
  sourceBuckets : Nat
  retainedPayloadBytes : UInt64
  deriving DecidableEq, Repr

namespace Cache

variable {ν : Type} [NatCast ν]

/-- The cache as it is constructed. -/
def create (validator : Option DisplayLabelValidator) : Cache ν :=
  { labelValidator := validator
    globalBucket := { rate := (0 : Nat), burst := (0 : Nat), tokens := (0 : Nat), updatedMs := 0 } }

/-- `InstallScopes`. -/
def installScopes (cache : Cache ν) (scopes : List InterfaceScope) (nowMs : UInt64) : Cache ν :=
  let replacement := scopes.map fun scope =>
    (cache.scopes.find? fun item => item.scope = scope).getD
      { scope := scope, bucket := fullBucket scopeRate scopeBurst nowMs }
  { cache with scopes := replacement }

/-- `Start`. -/
def start (cache : Cache ν) (scopes : List InterfaceScope) (nowMs : UInt64) : Bool × Cache ν :=
  if cache.state ≠ .created ∨ cache.labelValidator.isNone = true then (false, cache)
  else
    let cache := { cache with
      nowMs := nowMs
      globalBucket := fullBucket globalRate globalBurst nowMs }
    (true, { cache.installScopes (canonicalScopes scopes) nowMs with state := .running })

section Operations

omit [NatCast ν]

/-- `Stop`. -/
def stop (cache : Cache ν) : Cache ν :=
  { cache with
    state := .stopped
    scopes := []
    localTokens := []
    sourceBuckets := []
    entries := []
    retainedPayloadBytes := 0 }

def hasScope (cache : Cache ν) (scope : InterfaceScope) : Bool :=
  cache.scopes.any fun item => item.scope = scope

/-- `SetLocalToken`. -/
def setLocalToken (cache : Cache ν) (scope : InterfaceScope) (token : InstanceToken) :
    Bool × Cache ν :=
  if cache.state ≠ .running ∨ token.allZero = true ∨ cache.hasScope scope = false then
    (false, cache)
  else if (cache.localTokens.find? fun item => item.scope = scope).isSome = true then
    let replaced := modifyFirst (fun item => item.scope = scope)
      (fun item : LocalToken => { item with token := token }) cache.localTokens
    (true, { cache with localTokens := replaced })
  else if cache.localTokens.length = maxScopes then (false, cache)
  else (true, { cache with localTokens := cache.localTokens ++ [{ scope, token }] })

def isSelf (cache : Cache ν) (scope : InterfaceScope) (token : InstanceToken) : Bool :=
  cache.localTokens.any fun item => item.scope = scope ∧ item.token = token

/-- `FindEntry`. -/
def findEntry (cache : Cache ν) (key : CandidateKey) : Option Entry :=
  lookup Entry.key cache.entries key

/-- A write through the iterator that `FindEntry` returned. -/
def modifyEntry (cache : Cache ν) (key : CandidateKey) (change : Entry → Entry) :
    List Entry :=
  modifyFirst (fun entry => entry.key = key) change cache.entries

def candidateCount (cache : Cache ν) : Nat := cache.entries.countP fun entry => entry.candidate

def candidateCountOf (cache : Cache ν) (scope : InterfaceScope) : Nat :=
  cache.entries.countP fun entry => entry.candidate ∧ entry.key.observer = scope

def entryCount (cache : Cache ν) (scope : InterfaceScope) : Nat :=
  cache.entries.countP fun entry => entry.key.observer = scope

def candidateCapacity (cache : Cache ν) (scope : InterfaceScope) : Bool :=
  cache.candidateCount < maxCandidates ∧ cache.candidateCountOf scope < maxCandidatesPerScope

def entryCapacity (cache : Cache ν) (scope : InterfaceScope) : Bool :=
  cache.entries.length < maxEntries ∧ cache.entryCount scope < maxEntriesPerScope

variable (key : CandidateKey) (advertisement : Advertisement) (deadlineMs : UInt64)

/-- `CandidateFrom`. -/
def candidateFrom : Candidate :=
  { key := key
    servicePort := advertisement.servicePort
    displayLabel := advertisement.label
    deadlineMs := deadlineMs
    highestSequence := advertisement.sequence }

/-- The entry of a candidate. -/
def entryFrom : Entry :=
  { candidate := true
    value := candidateFrom key advertisement deadlineMs
    raw := advertisement.raw
    rawSize := advertisement.rawSize }

/-- The part of `Announce` that replaces an entry by a newer announcement. -/
def replaceEntry (cache : Cache ν) (key : CandidateKey) (advertisement : Advertisement)
    (entry : Entry) (deadlineMs : UInt64) : ReceiveResult × Cache ν :=
  let replacement := entryFrom key advertisement deadlineMs
  let wasTombstone := !entry.candidate
  let visibleChanged := wasTombstone ||
    entry.value.servicePort ≠ replacement.value.servicePort ||
    entry.value.displayLabel ≠ replacement.value.displayLabel
  if maximumRetainedPayloadBytes <
      cache.retainedPayloadBytes - entry.rawSize.toUInt64 + advertisement.rawSize.toUInt64 then
    ({ disposition := .droppedCapacity }, cache)
  else
    let cache := { cache with
      entries := cache.modifyEntry key fun _ => replacement
      retainedPayloadBytes :=
        cache.retainedPayloadBytes - entry.rawSize.toUInt64 + replacement.rawSize.toUInt64 }
    if wasTombstone then
      ({ disposition := .appeared, events := [makeEvent .appeared replacement.value] }, cache)
    else if visibleChanged then
      ({ disposition := .updated, events := [makeEvent .updated replacement.value] }, cache)
    else ({ disposition := .refreshed }, cache)

/-- `Announce`. -/
def announce (cache : Cache ν) (key : CandidateKey) (advertisement : Advertisement)
    (iterator : Option Entry) (nowMs : UInt64) : ReceiveResult × Cache ν :=
  match addMilliseconds nowMs (advertisement.ttlSeconds.toUInt64 * 1000) with
  | none => ({ disposition := .droppedTimeOverflow }, cache)
  | some deadlineMs =>
    match iterator with
    | none =>
      let entry := entryFrom key advertisement deadlineMs
      if cache.candidateCapacity key.observer = false ∨
          cache.entryCapacity key.observer = false ∨
          maximumRetainedPayloadBytes <
            cache.retainedPayloadBytes + advertisement.rawSize.toUInt64 then
        ({ disposition := .droppedCapacity }, cache)
      else
        ({ disposition := .appeared, events := [makeEvent .appeared entry.value] },
          { cache with
            entries := cache.entries ++ [entry]
            retainedPayloadBytes := cache.retainedPayloadBytes + entry.rawSize.toUInt64 })
    | some entry =>
      if entry.candidate = false ∧
          advertisement.sequence ≤ entry.value.highestSequence then
        ({ disposition := .droppedStale }, cache)
      else if advertisement.sequence < entry.value.highestSequence then
        ({ disposition := .droppedStale }, cache)
      else if advertisement.sequence = entry.value.highestSequence then
        let size := advertisement.rawSize.toNat
        if entry.candidate = true ∧ entry.rawSize = advertisement.rawSize ∧
            advertisement.raw.take size = entry.raw.take size then
          ({ disposition := .droppedDuplicate }, cache)
        else ({ disposition := .droppedSequenceConflict }, cache)
      else if entry.candidate = false ∧ cache.candidateCapacity key.observer = false then
        ({ disposition := .droppedCapacity }, cache)
      else cache.replaceEntry key advertisement entry deadlineMs

/-- What a withdrawal makes of an entry. -/
def withdrawnEntry (sequence retainUntilMs : UInt64) (entry : Entry) : Entry :=
  { entry with
    candidate := false
    value := { entry.value with
      servicePort := 0, displayLabel := [], deadlineMs := 0, highestSequence := sequence }
    rawSize := 0
    retainUntilMs := retainUntilMs }

/-- `Withdraw`. -/
def withdraw (cache : Cache ν) (key : CandidateKey) (advertisement : Advertisement)
    (iterator : Option Entry) (nowMs : UInt64) : ReceiveResult × Cache ν :=
  match addMilliseconds nowMs tombstoneLifetimeMs with
  | none => ({ disposition := .droppedTimeOverflow }, cache)
  | some retainUntilMs =>
    match iterator with
    | none =>
      if cache.entryCapacity key.observer = false then
        ({ disposition := .droppedCapacity }, cache)
      else
        ({ disposition := .tombstoned },
          { cache with entries := cache.entries ++
            [{ candidate := false
               value := { key := key, highestSequence := advertisement.sequence }
               retainUntilMs := retainUntilMs }] })
    | some entry =>
      if advertisement.sequence ≤ entry.value.highestSequence then
        ({ disposition := .droppedStale }, cache)
      else
        ({ disposition := .withdrawn
           events := if entry.candidate then
             [makeEvent .expired entry.value .withdrawn] else [] },
          { cache with
            entries :=
              cache.modifyEntry key (withdrawnEntry advertisement.sequence retainUntilMs)
            retainedPayloadBytes := if entry.candidate then
              cache.retainedPayloadBytes - entry.rawSize.toUInt64
              else cache.retainedPayloadBytes })

/-- `EraseExpiredTombstones`. -/
def eraseExpiredTombstones (cache : Cache ν) (nowMs : UInt64) : Cache ν :=
  { cache with entries := cache.entries.filter fun entry =>
      !(!entry.candidate && entry.retainUntilMs ≤ nowMs) }

/-- The time of the call is noted, and the tombstones that have expired by then are erased. -/
def observe (cache : Cache ν) (nowMs : UInt64) : Cache ν :=
  { cache with nowMs := nowMs }.eraseExpiredTombstones nowMs

/-- A pass over the entries of the cache. -/
def sweepEntries (cache : Cache ν) (body : Entry → Option Entry × Option ExpiryReason) :
    List CandidateEvent × Cache ν :=
  let swept := sweep body cache.entries cache.retainedPayloadBytes
  (swept.2.2, { cache with entries := swept.1, retainedPayloadBytes := swept.2.1 })

/-- `Purge`. -/
def purge (cache : Cache ν) (nowMs : UInt64) : List CandidateEvent × Cache ν :=
  let (events, cache) := cache.sweepEntries (purgeEntry nowMs)
  (events, cache.eraseExpiredTombstones nowMs)

/-- `RemoveAbsentScopes`. -/
def removeAbsentScopes (cache : Cache ν) (replacement : List InterfaceScope)
    (reason : ExpiryReason) : List CandidateEvent × Cache ν :=
  let present := SortedRanges.binarySearch replacement
  let (events, cache) := cache.sweepEntries (removeAbsentEntry replacement reason)
  (events, { cache with
    localTokens := cache.localTokens.filter fun item => present item.scope
    sourceBuckets := cache.sourceBuckets.filter fun item => present item.scope })

/-- `Advance`. -/
def advance (cache : Cache ν) (nowMs : UInt64) : List CandidateEvent × Cache ν :=
  if cache.state ≠ .running ∨ nowMs < cache.nowMs then ([], cache)
  else { cache with nowMs := nowMs }.purge nowMs

/-- `Snapshot`. -/
def snapshot (cache : Cache ν) : List Candidate :=
  ((cache.entries.filter fun entry => entry.candidate).map fun entry => entry.value).mergeSort
    fun left right => left.key ≤ right.key

/-- `NextDeadlineMs`. -/
def nextDeadlineMs (cache : Cache ν) : Option UInt64 :=
  if cache.state ≠ .running then none
  else
    cache.entries.foldl (fun deadline entry =>
      if entry.candidate = true ∧ deadline.all (fun deadline => entry.value.deadlineMs < deadline)
      then some entry.value.deadlineMs else deadline) none

def stats (cache : Cache ν) : CacheStats :=
  { candidates := cache.candidateCount
    tombstones := cache.entries.length - cache.candidateCount
    sourceBuckets := cache.sourceBuckets.length
    retainedPayloadBytes := cache.retainedPayloadBytes }

end Operations

/-- `ApplyInterfaceSnapshot`. -/
def applyInterfaceSnapshot (cache : Cache ν) (scopes : List InterfaceScope) (nowMs : UInt64) :
    List CandidateEvent × Cache ν :=
  if cache.state ≠ .running ∨ nowMs < cache.nowMs then ([], cache)
  else
    let cache := cache.observe nowMs
    let replacement := canonicalScopes scopes
    let (events, cache) := cache.removeAbsentScopes replacement .interfaceRemoved
    (events, cache.installScopes replacement nowMs)

/-- `Wake`. -/
def wake (cache : Cache ν) (scopes : List InterfaceScope) (nowMs : UInt64) :
    List CandidateEvent × Cache ν :=
  if cache.state ≠ .running ∨ nowMs < cache.nowMs then ([], cache)
  else
    let cache := cache.observe nowMs
    let (lapsed, cache) := cache.sweepEntries (wakeEntry nowMs)
    let replacement := canonicalScopes scopes
    let (removed, cache) := cache.removeAbsentScopes replacement .interfaceRemoved
    (lapsed ++ removed, { cache with localTokens := [] }.installScopes replacement nowMs)

section Receive

variable [Add ν] [Sub ν] [Mul ν] [Div ν] [LT ν] [DecidableLT ν]

/-- The part of `Admit` that takes a token from each of the three buckets. -/
def takeTokens (cache : Cache ν) (scope : InterfaceScope) (source : IpAddress)
    (scopeState : ScopeState ν) (sourceBucket : SourceBucket ν) (nowMs : UInt64) :
    Bool × Cache ν :=
  let one : ν := ((1 : Nat) : ν)
  if cache.globalBucket.available nowMs < one ∨ scopeState.bucket.available nowMs < one ∨
      sourceBucket.bucket.available nowMs < one then (false, cache)
  else
    (true, { cache with
      globalBucket := cache.globalBucket.consume nowMs
      scopes := modifyFirst (fun item => item.scope = scope)
        (fun item => { item with bucket := item.bucket.consume nowMs }) cache.scopes
      sourceBuckets := modifyFirst (fun item => item.scope = scope ∧ item.source = source)
        (fun item => { item with bucket := item.bucket.consume nowMs }) cache.sourceBuckets })

/-- `Admit`. -/
def admitDatagram (cache : Cache ν) (scope : InterfaceScope) (source : IpAddress)
    (nowMs : UInt64) : Bool × Cache ν :=
  let cache := { cache with sourceBuckets := cache.sourceBuckets.filter fun item =>
    !(sourceBucketIdleMs ≤ nowMs - item.bucket.updatedMs) }
  match cache.scopes.find? fun item => item.scope = scope with
  | none => (false, cache)
  | some scopeState =>
    match cache.sourceBuckets.find? fun item => item.scope = scope ∧ item.source = source with
    | some sourceBucket => cache.takeTokens scope source scopeState sourceBucket nowMs
    | none =>
      if maxSourceBuckets ≤ cache.sourceBuckets.length ∨
          maxSourceBucketsPerScope ≤
            cache.sourceBuckets.countP fun item => item.scope = scope then (false, cache)
      else
        let sourceBucket : SourceBucket ν :=
          { scope := scope, source := source
            bucket := fullBucket sourceRate sourceBurst nowMs }
        let cache := { cache with sourceBuckets := cache.sourceBuckets ++ [sourceBucket] }
        cache.takeTokens scope source scopeState sourceBucket nowMs

/-- The part of `Receive` that handles an admitted datagram. -/
def hear (cache : Cache ν) (metadata : DatagramMetadata) (payload : Bytes) (nowMs : UInt64) :
    ReceiveResult × Cache ν :=
  if metadata.truncated = true then ({ disposition := .droppedTruncated }, cache)
  else
    match parseAdvertisement payload (cache.labelValidator.getD fun _ => false) with
    | .error error => ({ disposition := .droppedMalformed, parseError := error }, cache)
    | .ok advertisement =>
      if cache.isSelf metadata.observer advertisement.token = true then
        ({ disposition := .droppedSelf }, cache)
      else
        let key : CandidateKey :=
          { observer := metadata.observer, source := metadata.source
            token := advertisement.token }
        let iterator := cache.findEntry key
        match advertisement.type with
        | .withdraw => cache.withdraw key advertisement iterator nowMs
        | .announce => cache.announce key advertisement iterator nowMs

/-- `Receive`. -/
def receive (cache : Cache ν) (metadata : DatagramMetadata) (payload : Bytes) (nowMs : UInt64) :
    ReceiveResult × Cache ν :=
  if cache.state ≠ .running then ({ disposition := .droppedStopped }, cache)
  else if nowMs < cache.nowMs then ({ disposition := .droppedClockRegression }, cache)
  else
    let cache := cache.observe nowMs
    if metadata.observerEligible = false ∨ cache.hasScope metadata.observer = false ∨
        isValidSource metadata = false ∨ isDiscoveryDestination metadata = false then
      ({ disposition := .droppedMetadata }, cache)
    else
      let (admitted, cache) := cache.admitDatagram metadata.observer metadata.source nowMs
      if admitted = false then ({ disposition := .droppedRateLimit }, cache)
      else cache.hear metadata payload nowMs

end Receive

end Cache

end XnnTransfer.Discovery
