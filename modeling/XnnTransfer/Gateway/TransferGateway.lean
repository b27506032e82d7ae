import XnnTransfer.Bridge.EventChannel
import XnnTransfer.Bridge.TransferBridge

/-!
# The transfer gateway of the desktop application

`NativeTransferGateway` of `apps/desktop/lib/core/native/native_engine_gateway.dart` keeps
a copy of the native transfer records. It is fed by two streams of `NativeEngine`: the
transfer events that were polled, and snapshots that are read after an event says that
others were dropped.

## Implementation notes

A Dart map is the list of its values in the order of insertion; a transfer ID is its own
key, without the encoding as a hexadecimal string. A snapshot is read as a whole at one
moment. The gateway is not disposed. A native mutation and the enqueueing of its event are
two steps, and so are the poll of a flagged event and the read of the snapshot that
follows it, since the native side does not wait for either.
-/

namespace XnnTransfer.Gateway

open Protocol Bridge

inductive TransferStatus
  | queued
  | running
  | paused
  | cancelled
  | failed
  | completed
  deriving DecidableEq, Repr

structure IncomingTransferOffer where
  id : Bytes
  peerName : Bytes
  fileCount : Nat := 1
  totalBytes : Nat
  deriving DecidableEq, Repr

structure TransferFailure where
  code : String
  message : String
  deriving DecidableEq, Repr

structure TransferEntry where
  id : Bytes
  direction : RecordDirection
  peerName : Bytes
  fileCount : Nat := 1
  totalBytes : Nat
  transferredBytes : Nat
  status : TransferStatus
  failure : Option TransferFailure := none
  deriving DecidableEq, Repr

inductive TransferGatewayEvent
  | incomingOfferReceived (offer : IncomingTransferOffer)
  | incomingOfferWithdrawn (id : Bytes)
  | transferUpdated (entry : TransferEntry)
  deriving DecidableEq, Repr

def peerName (record : Record) : Bytes :=
  if record.peerLabel = [] then "Trusted peer".toUTF8.toList else record.peerLabel

def errorCode : RecordError → String
  | .none => "none"
  | .rejected => "rejected"
  | .cancelled => "cancelled"
  | .timedOut => "timed_out"
  | .busy => "busy"
  | .noSpace => "no_space"
  | .policyRejected => "policy_rejected"
  | .ioFailure => "io_failure"
  | .integrityFailed => "integrity_failed"
  | .unavailable => "unavailable"
  | .failed => "failed"

def toIncomingOffer (record : Record) : IncomingTransferOffer :=
  { id := record.transferId, peerName := peerName record, totalBytes := record.totalBytes }

def transferStatus : RecordState → TransferStatus
  | .offered | .queued => .queued
  | .running | .cancelling => .running
  | .completed => .completed
  | .cancelled => .cancelled
  | .rejected | .failed => .failed

def toTransferEntry (record : Record) : TransferEntry :=
  { id := record.transferId
    direction := record.direction
    peerName := peerName record
    totalBytes := record.totalBytes
    transferredBytes := record.transferredBytes
    status := transferStatus record.state
    failure :=
      if transferStatus record.state = .failed then
        some { code := errorCode record.error, message := "Native transfer failed" }
      else none }

structure NativeTransferEvent where
  eventsDroppedBefore : Bool
  record : EventPayload
  deriving DecidableEq, Repr

structure NativeTransferSnapshot where
  revision : Nat
  records : List EventPayload
  deriving DecidableEq, Repr

/-- `map[id] = record`. -/
def putRecord (records : List EventPayload) (record : EventPayload) : List EventPayload :=
  if records.any fun other => other.transferId = record.transferId then
    FirstMatch.modifyFirst (fun other => other.transferId = record.transferId)
      (fun _ => record) records
  else records ++ [record]

structure TransferGateway where
  records : List EventPayload := []
  revision : Nat := 0
  deriving DecidableEq, Repr

namespace TransferGateway

variable (gateway : TransferGateway)

def find (id : Bytes) : Option EventPayload :=
  FirstMatch.lookup (fun record => record.transferId) gateway.records id

def applyRecord (record : EventPayload) : TransferGateway × List TransferGatewayEvent :=
  let previous := (gateway.find record.transferId).map fun previous => previous.state
  let withdrawn :=
    if previous = some .offered then [.incomingOfferWithdrawn record.transferId] else []
  if record.change = .removed then
    ({ gateway with
        records := gateway.records.eraseP fun other => other.transferId = record.transferId },
      withdrawn)
  else
    ({ gateway with records := putRecord gateway.records record },
      if record.state = .offered then
        if previous ≠ some .offered then
          [.incomingOfferReceived (toIncomingOffer record.toRecord)]
        else []
      else withdrawn ++ [.transferUpdated (toTransferEntry record.toRecord)])

/-- What is shown of a record of a snapshot. -/
def shown (record : EventPayload) : TransferGatewayEvent :=
  if record.state = .offered then .incomingOfferReceived (toIncomingOffer record.toRecord)
  else .transferUpdated (toTransferEntry record.toRecord)

def reconcileSnapshot (snapshot : NativeTransferSnapshot) :
    TransferGateway × List TransferGatewayEvent :=
  if snapshot.revision < gateway.revision then (gateway, [])
  else
    let next := snapshot.records.foldl putRecord []
    let gone := gateway.records.filter fun previous =>
      !(next.any fun record => record.transferId = previous.transferId) &&
        decide (previous.state = .offered)
    ({ records := next, revision := snapshot.revision },
      gone.map (fun previous => .incomingOfferWithdrawn previous.transferId) ++
        snapshot.records.map shown)

/-- `_onTransferEvent`; `current` is what `transferSnapshot` returns if it is called. -/
def onTransferEvent (event : NativeTransferEvent) (current : NativeTransferSnapshot) :
    TransferGateway × List TransferGatewayEvent :=
  if event.eventsDroppedBefore then (gateway, [])
  else if event.record.snapshotRevision ≤ gateway.revision then (gateway, [])
  else if gateway.revision ≠ 0 ∧ event.record.snapshotRevision ≠ gateway.revision + 1 then
    gateway.reconcileSnapshot current
  else { gateway with revision := event.record.snapshotRevision }.applyRecord event.record

end TransferGateway

/-- The native records, their way through the event queue, and the gateway. -/
structure Relay where
  native : TransferBridge := {}
  /-- Events of mutations that are still to be enqueued. -/
  unsent : List EventPayload := []
  channel : EventChannel (Option EventPayload) Unit Unit := .new (eventOf .transferChanged none)
  /-- `NativeEngine` has polled a flagged event and not yet read the snapshot. -/
  recovering : Bool := false
  /-- The gateway listens and has taken its first snapshot. -/
  attached : Bool := false
  /-- What the two streams have still to deliver. -/
  transferEvents : List NativeTransferEvent := []
  transferSnapshots : List NativeTransferSnapshot := []
  gateway : TransferGateway := {}

namespace Relay

inductive Action
  /-- A native record is made or changed. -/
  | upsert (record : Record)
  | remove (record : Record)
  /-- The event of the oldest mutation without one is enqueued. -/
  | enqueue
  /-- Another event than one of a transfer is enqueued. -/
  | enqueueOther (type : EventType)
  | poll
  /-- The snapshot after a flagged event is read. -/
  | recover
  | attach
  | deliverEvent
  | deliverSnapshot
  deriving DecidableEq, Repr

/-- `_readTransferSnapshot`. -/
def readSnapshot (native : TransferBridge) : NativeTransferSnapshot :=
  { revision := native.revision
    records := native.records.map fun record => native.payload record .upserted }

/-- The native records after a mutation, with its event. -/
def upserted (native : TransferBridge) (record : Record) : TransferBridge × EventPayload :=
  let native :=
    if (native.find record.transferId).isSome then native.amend record else native.insert record
  (native, native.payload record .upserted)

def removed (native : TransferBridge) (record : Record) : TransferBridge × EventPayload :=
  (native.remove record, (native.remove record).payload record .removed)

variable (relay : Relay)

/-- The native side goes on after a mutation. -/
def mutate (result : TransferBridge × EventPayload) : Relay :=
  { relay with native := result.1, unsent := relay.unsent ++ [result.2] }

variable (event : QueuedEvent (Option EventPayload)) (actions : List Action)

def send : Relay :=
  { relay with channel := (relay.channel.enqueueLocked event ()).2 }

/-- A polled event as it goes to the streams. A stream without a listener drops it. -/
def polled : Relay :=
  { relay with
    recovering := relay.recovering || event.eventsDroppedBefore
    transferEvents := relay.transferEvents ++
      match event.payload with
      | some record => if relay.attached then [⟨event.eventsDroppedBefore, record⟩] else []
      | none => [] }

def step : Action → Relay
  | .upsert record => relay.mutate (upserted relay.native record)
  | .remove record => relay.mutate (removed relay.native record)
  | .enqueue =>
    match relay.unsent with
    | [] => relay
    | event :: rest =>
      { relay with unsent := rest }.send (eventOf .transferChanged (some event))
  | .enqueueOther type => relay.send (eventOf type none)
  | .poll =>
    if relay.recovering then relay
    else
      match relay.channel.poll with
      | none => relay
      | some (event, channel) => { relay with channel := channel }.polled event
  | .recover =>
    if relay.recovering then
      { relay with
        recovering := false
        transferSnapshots := relay.transferSnapshots ++
          if relay.attached then [readSnapshot relay.native] else [] }
    else relay
  | .attach =>
    if relay.attached then relay
    else
      { relay with
        attached := true
        gateway := (relay.gateway.reconcileSnapshot (readSnapshot relay.native)).1 }
  | .deliverEvent =>
    match relay.transferEvents with
    | [] => relay
    | event :: rest =>
      { relay with
        transferEvents := rest
        gateway := (relay.gateway.onTransferEvent event (readSnapshot relay.native)).1 }
  | .deliverSnapshot =>
    match relay.transferSnapshots with
    | [] => relay
    | snapshot :: rest =>
      { relay with
        transferSnapshots := rest
        gateway := (relay.gateway.reconcileSnapshot snapshot).1 }

/-- The events of the mutations of a step. -/
def made : Action → List EventPayload
  | .upsert record => [(upserted relay.native record).2]
  | .remove record => [(removed relay.native record).2]
  | .enqueue | .enqueueOther _ | .poll | .recover | .attach | .deliverEvent | .deliverSnapshot => []

def after : Relay := Runs.run step {} actions

/-- The events of all mutations, in their order. -/
def changes : List EventPayload := Runs.emitted step made {} actions

/-- Everything is polled and delivered, and no event of a mutation is missing. -/
structure Settled (relay : Relay) : Prop where
  attached : relay.attached = true
  sent : relay.unsent = []
  queue : relay.channel.queue.size = 0
  recovered : relay.recovering = false
  events : relay.transferEvents = []
  snapshots : relay.transferSnapshots = []

end Relay

end XnnTransfer.Gateway
