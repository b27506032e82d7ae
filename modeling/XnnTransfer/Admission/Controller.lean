import XnnTransfer.Library.Handles
import XnnTransfer.Pairing.Attempt

/-!
# The admission of pairing connections

`PairingAdmissionState`, `PairingAdmissionLease` and `PairingAdmissionController`
of `native/src/session/admission.cpp`. A connection reserves an entry before its
handshake, binds the entry to the two identity keys once they are known, and may
show its prompt when the entry is marked visible. The lease that was handed out
for an entry removes it when the lease is destroyed.

## Implementation notes

A controller is its owner generation: a retired or moved-from controller has one
that no owner carries. The mutex makes each operation one step. The pointers that
`Find` and `FindSource` return denote the first match, so a write through them
changes the first match. In `Bind` the loop skips the entry that is being bound;
that entry is not bound yet, so the test for bound entries skips it as well.
-/

namespace XnnTransfer.Admission

open FirstMatch Pairing Security

abbrev SourceToken := Octets 16

def maxIncompletePairingHandshakes : Nat := 8
def maxIncompletePairingHandshakesPerSource : Nat := 2
def reservedUserInitiatedPairingSlots : Nat := 1
def maxVisiblePairingAttempts : Nat := 1
def maxTrackedSourceBuckets : Nat := 64
def globalAdmissionBucketCapacity : Nat := 16
def sourceAdmissionBucketCapacity : Nat := 4
def globalAdmissionRefillMs : UInt64 := 1000
def sourceAdmissionRefillMs : UInt64 := 15000

structure Bucket where
  tokens : Nat := 0
  lastRefillMs : UInt64 := 0
  deriving DecidableEq, Repr

structure SourceBucket where
  source : SourceToken
  bucket : Bucket
  deriving DecidableEq, Repr

structure Owner where
  generation : UInt64
  windowGeneration : UInt64 := 0
  windowEnabled : Bool := false
  windowDeadlineMs : UInt64 := 0
  deriving DecidableEq, Repr

structure Entry where
  connectionId : AttemptHandle
  leaseGeneration : UInt64
  ownerGeneration : UInt64
  source : SourceToken
  localKey : PublicKey := .zero 32
  peerKey : PublicKey := .zero 32
  localRole : Role := .initiator
  userInitiated : Bool
  visible : Bool := false
  bound : Bool := false
  admittedAtMs : UInt64
  windowDeadlineMs : UInt64 := 0
  deriving DecidableEq, Repr

structure Request where
  connectionId : AttemptHandle
  source : SourceToken
  localKey : PublicKey
  peerKey : PublicKey
  localRole : Role
  userInitiated : Bool
  nowMs : UInt64
  deriving DecidableEq, Repr

structure Lease where
  connectionId : AttemptHandle
  leaseGeneration : UInt64
  deriving DecidableEq, Repr

/-- `PairingAdmissionResult` without its lease, which is kept when there is no error. -/
structure Result where
  error : PairingError := .none
  displacedConnection : Option AttemptHandle := none
  deriving DecidableEq, Repr

structure State where
  initialized : Bool := false
  globalBucket : Bucket := {}
  nextLeaseGeneration : UInt64 := 1
  nextOwnerGeneration : UInt64 := 1
  nextWindowGeneration : UInt64 := 1
  sourceBuckets : List SourceBucket := []
  entries : List Entry := []
  owners : List Owner := []
  deriving DecidableEq, Repr

/-- Whether the source bucket, the entry and the lease of a reservation can be allocated. -/
structure ReserveMemory where
  bucket : Bool := true
  entry : Bool := true
  lease : Bool := true
  deriving DecidableEq, Repr

def Bucket.refill (bucket : Bucket) (nowMs intervalMs : UInt64) (capacity : Nat) : Bucket :=
  if nowMs ≤ bucket.lastRefillMs ∨ bucket.tokens = capacity then
    if bucket.lastRefillMs < nowMs ∧ bucket.tokens = capacity then
      { bucket with lastRefillMs := nowMs }
    else bucket
  else
    let intervals := (nowMs - bucket.lastRefillMs) / intervalMs
    if intervals = 0 then bucket
    else
      let refill := if capacity ≤ intervals.toNat then capacity else intervals.toNat
      { tokens := min capacity (bucket.tokens + refill)
        lastRefillMs := checkedDeadline bucket.lastRefillMs (intervals * intervalMs) }

/-- `std::min` of two keys, which compares them byte by byte. -/
def minKey (first second : PublicKey) : PublicKey :=
  if second.val < first.val then second else first

def sameKeyPair (entry : Entry) (request : Request) : Bool :=
  (entry.localKey = request.localKey ∧ entry.peerKey = request.peerKey) ∨
    (entry.localKey = request.peerKey ∧ entry.peerKey = request.localKey)

def Entry.initiatorKey (entry : Entry) : PublicKey :=
  if entry.localRole = .initiator then entry.localKey else entry.peerKey

def Request.initiatorKey (request : Request) : PublicKey :=
  if request.localRole = .initiator then request.localKey else request.peerKey

namespace State

variable (state : State) (owner : UInt64) (source : SourceToken) (userInitiated : Bool)
  (nowMs generation : UInt64) (connectionId : AttemptHandle) (request : Request)

def activeForSource : Nat :=
  state.entries.countP fun entry => entry.source = source

def pruneSourceBuckets : State :=
  let refilled := state.sourceBuckets.map fun source =>
    { source with bucket :=
        source.bucket.refill nowMs sourceAdmissionRefillMs sourceAdmissionBucketCapacity }
  { state with sourceBuckets := refilled.filter fun source =>
      !(source.bucket.tokens = sourceAdmissionBucketCapacity ∧
        state.activeForSource source.source = 0) }

def findSource : Option SourceBucket :=
  state.sourceBuckets.find? fun candidate => candidate.source = source

def find (state : State) (connectionId : AttemptHandle) : Option Entry :=
  state.entries.find? fun entry => entry.connectionId = connectionId

/-- `Find` with a lease generation. -/
def findLease (lease : Lease) : Option Entry :=
  (state.find lease.connectionId).filter fun entry => entry.leaseGeneration = lease.leaseGeneration

def findOwner : Option Owner :=
  state.owners.find? fun owner => owner.generation = generation

def registerOwner : UInt64 × State :=
  if state.nextOwnerGeneration = 0 then (0, state)
  else (state.nextOwnerGeneration,
    { state with
      owners := state.owners ++ [{ generation := state.nextOwnerGeneration }]
      nextOwnerGeneration := state.nextOwnerGeneration + 1 })

/-- `Release` of every entry of a connection. -/
def releaseConnection : State :=
  { state with entries := state.entries.filter fun entry => entry.connectionId ≠ connectionId }

/-- `Release` of the entry that a lease was handed out for. -/
def release (lease : Lease) : State :=
  { state with entries := state.entries.filter fun entry =>
      !(entry.connectionId = lease.connectionId ∧ entry.leaseGeneration = lease.leaseGeneration) }

def releaseOwner : State :=
  { state with
    entries := state.entries.filter fun entry => entry.ownerGeneration ≠ generation
    owners := state.owners.filter fun owner => owner.generation ≠ generation }

/-- A write through the pointer that `Find` returned. -/
def modify (change : Entry → Entry) : State :=
  { state with entries :=
      modifyFirst (fun entry => entry.connectionId = connectionId) change state.entries }

/-- A write through the pointer that `FindOwner` returned. -/
def modifyOwner (change : Owner → Owner) : State :=
  { state with owners :=
      modifyFirst (fun owner => owner.generation = generation) change state.owners }

/-- `MarkVisible` of a lease; there is none when the lease was moved away. -/
def markVisible (lease : Option Lease) : PairingError × State :=
  match lease with
  | none => (.stateViolation, state)
  | some lease =>
    match state.findLease lease with
    | none => (.busy, state)
    | some entry =>
      if entry.bound = false then (.busy, state)
      else if entry.visible then (.none, state)
      else if (state.entries.countP fun candidate =>
          candidate.ownerGeneration = entry.ownerGeneration ∧ candidate.visible = true) =
          maxVisiblePairingAttempts then (.busy, state)
      else (.none, state.modify lease.connectionId fun entry => { entry with visible := true })

def retireOwner : State :=
  if owner = 0 then state else state.releaseOwner owner

/-- The full bucket that the first use of the state starts with. -/
def start : State :=
  if state.initialized then state
  else { state with
    initialized := true
    globalBucket := { tokens := globalAdmissionBucketCapacity, lastRefillMs := nowMs } }

def openWindow (durationMs : UInt64) : Bool × State :=
  if durationMs = 0 ∨ maximumPairingWindowMs < durationMs then (false, state)
  else
    match state.findOwner owner with
    | none => (false, state)
    | some found =>
      if (found.windowEnabled = true ∧ nowMs < found.windowDeadlineMs) ∨
          state.nextWindowGeneration = 0 then (false, state)
      else
        let opened := (state.start nowMs).modifyOwner owner fun found =>
          { found with
            windowGeneration := state.nextWindowGeneration
            windowEnabled := true
            windowDeadlineMs := checkedDeadline nowMs durationMs }
        (true, { opened with nextWindowGeneration := state.nextWindowGeneration + 1 })

def closeWindow : State :=
  match state.findOwner owner with
  | none => state
  | some _ =>
    let closed := state.modifyOwner owner fun found => { found with windowEnabled := false }
    { closed with entries := closed.entries.filter fun entry =>
        !(entry.ownerGeneration = owner ∧ entry.bound = true) }

/-- The limits that `ReserveHandshake` puts on the entries. -/
def hasRoom : Bool :=
  state.entries.length < maxIncompletePairingHandshakes ∧
    (userInitiated = true ∨ (state.entries.countP fun entry => entry.userInitiated = false) <
      maxIncompletePairingHandshakes - reservedUserInitiatedPairingSlots) ∧
    state.activeForSource source < maxIncompletePairingHandshakesPerSource

/-- The bucket of the source, which is added when there is none yet. -/
def trackSource (memory : Bool) (source : SourceToken) (nowMs : UInt64) : Option State :=
  match state.findSource source with
  | some _ => some state
  | none =>
    if state.sourceBuckets.length = maxTrackedSourceBuckets ∨ memory = false then none
    else some { state with sourceBuckets := state.sourceBuckets ++
      [⟨source, { tokens := sourceAdmissionBucketCapacity, lastRefillMs := nowMs }⟩] }

/-- The end of `ReserveHandshake`, where the entry and its lease are made. -/
def grant (memory : ReserveMemory) (owner : UInt64) (connectionId : AttemptHandle)
    (source : SourceToken) (userInitiated : Bool) (nowMs : UInt64) : Option Lease × State :=
  let lease : Lease := ⟨connectionId, state.nextLeaseGeneration⟩
  if ((state.findSource source).map fun found => found.bucket.tokens) = some 0 ∨
      state.nextLeaseGeneration = 0 ∨ memory.entry = false then (none, state)
  else
    let entry : Entry :=
      { connectionId := connectionId
        leaseGeneration := state.nextLeaseGeneration
        ownerGeneration := owner
        source := source
        userInitiated := userInitiated
        admittedAtMs := nowMs }
    let pushed := { state with entries := state.entries ++ [entry] }
    if memory.lease = false then (none, pushed.release lease)
    else (some lease, { pushed with
      nextLeaseGeneration := state.nextLeaseGeneration + 1
      globalBucket := { state.globalBucket with tokens := state.globalBucket.tokens - 1 }
      sourceBuckets := modifyFirst (fun found => found.source = source)
        (fun found => { found with
          bucket := { found.bucket with tokens := found.bucket.tokens - 1 } })
        state.sourceBuckets })

def reserveHandshake (memory : ReserveMemory) (owner : UInt64) (connectionId : AttemptHandle)
    (source : SourceToken) (userInitiated : Bool) (nowMs : UInt64) : Option Lease × State :=
  if (state.findOwner owner).isNone = true ∨ connectionId.allZero = true ∨
      source.allZero = true ∨ (state.find connectionId).isSome = true then (none, state)
  else
    let started := state.start nowMs
    let bucket := started.globalBucket.refill nowMs globalAdmissionRefillMs
      globalAdmissionBucketCapacity
    let refilled := { started with globalBucket := bucket }
    let pruned := refilled.pruneSourceBuckets nowMs
    if pruned.hasRoom source userInitiated = false ∨ pruned.globalBucket.tokens = 0 then
      (none, pruned)
    else
      match pruned.trackSource memory.bucket source nowMs with
      | none => (none, pruned)
      | some tracked =>
        tracked.grant memory owner connectionId source userInitiated nowMs

/-- What `Bind` asks of the reserved entry, the owner and the request. -/
def permits (reserved : Entry) (owner : Owner) (generation : UInt64)
    (request : Request) (windowGeneration : UInt64) : Bool :=
  reserved.bound = false ∧ reserved.ownerGeneration = generation ∧
    reserved.connectionId = request.connectionId ∧ reserved.source = request.source ∧
    reserved.userInitiated = request.userInitiated ∧ owner.windowEnabled = true ∧
    request.nowMs < owner.windowDeadlineMs ∧ windowGeneration ≠ 0 ∧
    windowGeneration = owner.windowGeneration

/-- The first other connection that is bound to the same two keys. -/
def duplicate : Option Entry :=
  state.entries.find? fun entry =>
    entry.ownerGeneration = owner ∧ entry.bound = true ∧ sameKeyPair entry request = true

/-- Whether the connection of the request gives way to another one. -/
def givesWay (other : Entry) : Bool :=
  other.visible = true ∨ other.initiatorKey = request.initiatorKey ∨
    request.initiatorKey ≠ minKey request.localKey request.peerKey

/-- `Bind`; there is no lease when it is null or was moved away. -/
def bind (lease : Option Lease) (request : Request) (windowGeneration : UInt64) : Result × State :=
  match lease with
  | none => ({ error := .busy }, state)
  | some lease =>
    match state.findLease lease, state.findOwner owner with
    | some reserved, some found =>
      if permits reserved found owner request windowGeneration = false then
        ({ error := .busy }, state)
      else if request.localKey = request.peerKey then
        ({ error := .certificateRejected }, state)
      else
        let bound := state.modify lease.connectionId fun entry =>
          { entry with
            localKey := request.localKey
            peerKey := request.peerKey
            localRole := request.localRole
            windowDeadlineMs := found.windowDeadlineMs
            bound := true }
        match state.duplicate owner request with
        | none => ({}, bound)
        | some other =>
          if givesWay request other then ({ error := .busy }, state)
          else ({ displacedConnection := some other.connectionId },
            bound.releaseConnection other.connectionId)
    | _, _ => ({ error := .busy }, state)

def windowGeneration (state : State) (owner : UInt64) (nowMs : UInt64) : UInt64 :=
  match state.findOwner owner with
  | none => 0
  | some found =>
    if found.windowEnabled = true ∧ nowMs < found.windowDeadlineMs then found.windowGeneration
    else 0

end State

end XnnTransfer.Admission
