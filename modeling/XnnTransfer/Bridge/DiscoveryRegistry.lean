import Mathlib.Data.List.Sort
import XnnTransfer.Bridge.TransferBridge
import XnnTransfer.Discovery.Types

/-!
# The peers that discovery shows

`DiscoveryPeerRegistry` of `native/src/bridge/discovery_bridge.hpp`: each candidate that
appears is given a peer ID of its own, and each change is told in an event.

## Implementation notes

The map of peers is the list of its pairs in the order of the keys. An address and a
label are their bytes, and the sizes that go with them are the lengths of these. An
event does not carry the key of its candidate; it is kept beside the event.
-/

namespace XnnTransfer.Bridge

open Discovery FirstMatch

def discoveryDisplayLabelMaxSize : Nat := 96

inductive PeerChange
  | appeared
  | updated
  | expired
  deriving DecidableEq, Repr

inductive PeerExpiry
  | none
  | ttl
  | withdrawn
  | interfaceRemoved
  | wake
  | discoveryStopped
  deriving DecidableEq, Repr

def expiryReason : ExpiryReason → PeerExpiry
  | .ttl => .ttl
  | .withdrawn => .withdrawn
  | .interfaceRemoved => .interfaceRemoved
  | .wake => .wake

structure DiscoveryPeer where
  peerId : Nat
  servicePort : UInt16
  addressFamily : AddressFamily
  address : Bytes
  displayLabel : Bytes
  deriving DecidableEq, Repr

structure PeerEvent where
  change : PeerChange
  snapshotRevision : Nat
  expiryReason : PeerExpiry
  peer : DiscoveryPeer
  deriving DecidableEq, Repr

structure PeerEntry where
  peerId : Nat
  candidate : Candidate
  deriving DecidableEq, Repr

def makePeer (entry : PeerEntry) : DiscoveryPeer where
  peerId := entry.peerId
  servicePort := entry.candidate.servicePort
  addressFamily := entry.candidate.key.source.family
  address := entry.candidate.key.source.encoded
  displayLabel := entry.candidate.displayLabel.take discoveryDisplayLabelMaxSize

structure DiscoveryPeerRegistry where
  peers : List (CandidateKey × PeerEntry) := []
  revision : Nat := 1
  nextPeerId : Nat := 1
  deriving DecidableEq, Repr

inductive PeerCall
  | apply (event : CandidateEvent)
  | clear (expiryReason : PeerExpiry)
  deriving DecidableEq, Repr

namespace DiscoveryPeerRegistry

variable (registry : DiscoveryPeerRegistry)

def advanceRevision : DiscoveryPeerRegistry :=
  { registry with revision := nextRevision registry.revision }

def makeEvent (change : PeerChange) (reason : PeerExpiry) (entry : PeerEntry) : PeerEvent :=
  ⟨change, registry.revision, reason, makePeer entry⟩

def apply (event : CandidateEvent) : DiscoveryPeerRegistry × Option PeerEvent :=
  let key := event.candidate.key
  match lookup Prod.fst registry.peers key with
  | none =>
    if event.kind = .expired then (registry, none)
    else if registry.peers.length ≥ maxCandidates ∨ registry.nextPeerId = 0 then (registry, none)
    else
      let entry := ⟨registry.nextPeerId, event.candidate⟩
      let registry := { registry with
        peers := registry.peers.orderedInsert (fun left right => left.1 ≤ right.1) (key, entry)
        nextPeerId := (registry.nextPeerId + 1) % 2 ^ 64 }.advanceRevision
      (registry, some (registry.makeEvent .appeared .none entry))
  | some (_, existing) =>
    if event.kind = .expired then
      let registry := { registry with
        peers := registry.peers.eraseP fun pair => pair.1 = key }.advanceRevision
      (registry, some (registry.makeEvent .expired (expiryReason event.expiryReason) existing))
    else
      let entry := { existing with candidate := event.candidate }
      let registry := { registry with
        peers := modifyFirst (fun pair => pair.1 = key) (fun pair => (pair.1, entry))
          registry.peers }.advanceRevision
      (registry, some (registry.makeEvent .updated .none entry))

/-- The loop of `Clear`, with the events that are handed to the handler. -/
def clearAll (reason : PeerExpiry) (revision : Nat) :
    List (CandidateKey × PeerEntry) → Nat × List (CandidateKey × PeerEvent)
  | [] => (revision, [])
  | (key, entry) :: rest =>
    let next := nextRevision revision
    let (last, events) := clearAll reason next rest
    (last, (key, ⟨.expired, next, reason, makePeer entry⟩) :: events)

def clear (reason : PeerExpiry) : DiscoveryPeerRegistry × List (CandidateKey × PeerEvent) :=
  let (revision, events) := clearAll reason registry.revision registry.peers
  ({ registry with peers := [], revision := revision }, events)

def call : PeerCall → DiscoveryPeerRegistry × List (CandidateKey × PeerEvent)
  | .apply event =>
    let (registry, told) := registry.apply event
    (registry, told.toList.map fun told => (event.candidate.key, told))
  | .clear reason => registry.clear reason

def step (call : PeerCall) : DiscoveryPeerRegistry := (registry.call call).1

def published (call : PeerCall) : List (CandidateKey × PeerEvent) := (registry.call call).2

/-- The candidates by their keys. -/
def candidates (key : CandidateKey) : Option Candidate :=
  (lookup Prod.fst registry.peers key).map fun pair => pair.2.candidate

/-! ### What the candidate events and the peer events say -/

/-- What a reader of the candidate events holds after one more call. -/
def fold (view : CandidateKey → Option Candidate) : PeerCall → CandidateKey → Option Candidate
  | .apply event => Function.update view event.candidate.key
      (if event.kind = .expired then none else some event.candidate)
  | .clear _ => fun _ => none

/-- What a reader of the peer events holds. -/
structure Shown where
  ids : CandidateKey → Option Nat := fun _ => none
  revision : Nat := 1
  nextPeerId : Nat := 1

namespace Shown

variable (shown : Shown) (told : CandidateKey × PeerEvent)

def tell : Shown where
  ids := Function.update shown.ids told.1
    (if told.2.change = .expired then none else some told.2.peer.peerId)
  revision := told.2.snapshotRevision
  nextPeerId := if told.2.change = .appeared then shown.nextPeerId + 1 else shown.nextPeerId

/-- The event carries the next revision, and a new ID if and only if its key is new. -/
def Fits : Prop :=
  told.2.snapshotRevision = nextRevision shown.revision ∧
    if told.2.change = .appeared then
      shown.ids told.1 = none ∧ told.2.peer.peerId = shown.nextPeerId
    else shown.ids told.1 = some told.2.peer.peerId

end Shown

def shown : Shown where
  ids key := (lookup Prod.fst registry.peers key).map fun pair => pair.2.peerId
  revision := registry.revision
  nextPeerId := registry.nextPeerId

/-- What a call does, by what is told of it. -/
structure Leads (call : PeerCall) (events : List (CandidateKey × PeerEvent))
    (registry' : DiscoveryPeerRegistry) : Prop where
  keys : (registry'.peers.map Prod.fst).Nodup
  candidates : registry'.candidates = fold registry.candidates call
  fits : Runs.Admits Shown.tell Shown.Fits registry.shown events
  shown : Runs.run Shown.tell registry.shown events = registry'.shown
  next : registry.nextPeerId ≤ registry'.nextPeerId ∧
    registry'.nextPeerId ≤ registry.nextPeerId + 1

variable {registry}

theorem map_lookup_update {β : Type*} {peers peers' : List (CandidateKey × PeerEntry)}
    {key : CandidateKey} {value : Option (CandidateKey × PeerEntry)}
    (h : ∀ other, lookup Prod.fst peers' other =
      if other = key then value else lookup Prod.fst peers other)
    (f : CandidateKey × PeerEntry → β) :
    (fun other => (lookup Prod.fst peers' other).map f) =
      Function.update (fun other => (lookup Prod.fst peers other).map f) key (value.map f) := by
  funext other
  rw [h, Function.update_apply]
  split <;> rfl

/-- One change of the map, with the event that tells of it. -/
theorem Leads.single {call : PeerCall} {key : CandidateKey} {entry : PeerEntry}
    (change : PeerChange) {reason : PeerExpiry} {registry' : DiscoveryPeerRegistry}
    (hkeys : (registry'.peers.map Prod.fst).Nodup)
    (hlookup : ∀ other, lookup Prod.fst registry'.peers other =
      if other = key then if change = .expired then none else some (key, entry)
      else lookup Prod.fst registry.peers other)
    (hfold : fold registry.candidates call = Function.update registry.candidates key
      (if change = .expired then none else some entry.candidate))
    (hid : if change = .appeared then registry.shown.ids key = none ∧
      entry.peerId = registry.nextPeerId else registry.shown.ids key = some entry.peerId)
    (hrevision : registry'.revision = nextRevision registry.revision)
    (hnext : registry'.nextPeerId =
      if change = .appeared then registry.nextPeerId + 1 else registry.nextPeerId) :
    registry.Leads call [(key, registry'.makeEvent change reason entry)] registry' where
  keys := hkeys
  candidates := by
    rw [hfold]
    refine (map_lookup_update hlookup _).trans ?_
    split <;> rfl
  fits := ⟨⟨hrevision, hid⟩, trivial⟩
  shown := by
    have hids := map_lookup_update hlookup fun pair => pair.2.peerId
    rw [DiscoveryPeerRegistry.shown.eq_1 registry', hids, hnext]
    cases change <;> rfl
  next := by
    rw [hnext]
    split <;> omega

/-- The events of one key: a presence begins, goes on and ends under one peer ID. -/
def Presents : Option Nat → List PeerEvent → Prop
  | _, [] => True
  | none, event :: rest =>
    event.change = .appeared ∧ Presents (some event.peer.peerId) rest
  | some peerId, event :: rest =>
    event.change ≠ .appeared ∧ event.peer.peerId = peerId ∧
      Presents (if event.change = .expired then none else some peerId) rest

variable {shown : Shown} {events : List (CandidateKey × PeerEvent)}

end DiscoveryPeerRegistry

end XnnTransfer.Bridge
