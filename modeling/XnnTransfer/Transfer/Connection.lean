import XnnTransfer.Transfer.Types

/-!
# What the streams of one endpoint share

`ConnectionMessageSequence` and `ConnectionCreditBudget` of
`native/src/transfer/frame_codec.cpp`. Their methods run under a mutex, so a
call is one step.

## Implementation notes

The prefix of `active_stream_ids_` in use is a list. `refusedReleases` is not a
field of the source: it counts how often `Release` or `TryAdjust` returned early
because more was given back than was reserved.
-/

namespace XnnTransfer.Transfer

structure ConnectionMessageSequence where
  nextOutboundId : UInt64 := 1
  nextInboundId : UInt64 := 1
  outboundExhausted : Bool := false
  inboundExhausted : Bool := false
  deriving DecidableEq, Repr

namespace ConnectionMessageSequence

def maximumId : UInt64 := 0xffffffffffffffff

def create (nextOutbound nextInbound : UInt64) : ConnectionMessageSequence :=
  ⟨nextOutbound, nextInbound, nextOutbound = 0, nextInbound = 0⟩

def nextOutbound (ids : ConnectionMessageSequence) :
    Option UInt64 × ConnectionMessageSequence :=
  if ids.outboundExhausted then (none, ids)
  else if ids.nextOutboundId = maximumId then
    (some ids.nextOutboundId, { ids with outboundExhausted := true })
  else (some ids.nextOutboundId, { ids with nextOutboundId := ids.nextOutboundId + 1 })

def observeInbound (ids : ConnectionMessageSequence) (messageId : Nat) :
    Bool × ConnectionMessageSequence :=
  if ids.inboundExhausted then (false, ids)
  else if messageId ≠ ids.nextInboundId.toNat then (false, { ids with inboundExhausted := true })
  else if ids.nextInboundId = maximumId then (true, { ids with inboundExhausted := true })
  else (true, { ids with nextInboundId := ids.nextInboundId + 1 })

end ConnectionMessageSequence

inductive CreditDirection
  | outbound
  | inbound
  deriving DecidableEq, Repr

inductive StreamOpenResult
  | opened
  | capacityRejected
  | invalid
  deriving DecidableEq, Repr

structure ConnectionCreditBudget where
  limitBytes : Nat
  outboundReserved : Nat := 0
  inboundReserved : Nat := 0
  maximumStreams : Nat
  activeStreamIds : List Nat := []
  localRole : Option Role := none
  nextLocalStreamId : Nat := 0
  nextPeerStreamId : Nat := 0
  localStreamIdsExhausted : Bool := false
  peerStreamIdsExhausted : Bool := false
  refusedReleases : Nat := 0
  deriving DecidableEq, Repr

namespace ConnectionCreditBudget

def create (limitBytes maximumStreams : Nat) : ConnectionCreditBudget :=
  { limitBytes := min limitBytes maximumConnectionWindow
    maximumStreams := min maximumStreams 32 }

variable (budget : ConnectionCreditBudget) (direction : CreditDirection) (bytes streamId : Nat)
  (localIsCreator : Bool) (role : Role)

def activeStreams : Nat := budget.activeStreamIds.length

def reservedBytes : CreditDirection → Nat
  | .outbound => budget.outboundReserved
  | .inbound => budget.inboundReserved

def setReserved : ConnectionCreditBudget :=
  match direction with
  | .outbound => { budget with outboundReserved := bytes }
  | .inbound => { budget with inboundReserved := bytes }

/-- The role check of `OpenStream`, which fixes the role on the first call. -/
def initializeRole : Option ConnectionCreditBudget :=
  match budget.localRole with
  | none =>
    some
      { budget with
        localRole := some role
        nextLocalStreamId := if role = .initiator then 1 else 2
        nextPeerStreamId := if role = .initiator then 2 else 1 }
  | some current => if current = role then some budget else none

def expectedStreamId : Nat :=
  if localIsCreator then budget.nextLocalStreamId else budget.nextPeerStreamId

def streamIdsExhausted : Bool :=
  if localIsCreator then budget.localStreamIdsExhausted else budget.peerStreamIdsExhausted

/-- The lambda `consume_id`. -/
def consumeId : ConnectionCreditBudget :=
  if localIsCreator then
    if 2 ^ 32 - 1 - 2 < budget.nextLocalStreamId then
      { budget with localStreamIdsExhausted := true }
    else { budget with nextLocalStreamId := budget.nextLocalStreamId + 2 }
  else
    if 2 ^ 32 - 1 - 2 < budget.nextPeerStreamId then
      { budget with peerStreamIdsExhausted := true }
    else { budget with nextPeerStreamId := budget.nextPeerStreamId + 2 }

def openStream : StreamOpenResult × ConnectionCreditBudget :=
  if streamId = 0 then (.invalid, budget)
  else
    match budget.initializeRole role with
    | none => (.invalid, budget)
    | some budget =>
      if budget.streamIdsExhausted localIsCreator = true ∨
          streamId ≠ budget.expectedStreamId localIsCreator ∨
          streamId ∈ budget.activeStreamIds then
        (.invalid, budget)
      else if budget.maximumStreams ≤ budget.activeStreams then
        (.capacityRejected, if localIsCreator then budget else budget.consumeId false)
      else
        (.opened,
          { budget with activeStreamIds := budget.activeStreamIds ++ [streamId] }.consumeId
            localIsCreator)

def tryOpenStream : Bool × ConnectionCreditBudget :=
  let opened := budget.openStream streamId localIsCreator role
  (opened.1 = .opened, opened.2)

/-- Overwrite the slot of the identifier with the last slot and drop the last slot. -/
def removeSlot (ids : List Nat) (streamId : Nat) : List Nat :=
  (ids.set (ids.idxOf streamId) (ids.getLastD 0)).dropLast

def closeStream : ConnectionCreditBudget :=
  if streamId ∈ budget.activeStreamIds then
    { budget with activeStreamIds := removeSlot budget.activeStreamIds streamId }
  else budget

def tryReserve : Bool × ConnectionCreditBudget :=
  if budget.limitBytes < bytes ∨ budget.limitBytes - bytes < budget.reservedBytes direction then
    (false, budget)
  else (true, budget.setReserved direction (budget.reservedBytes direction + bytes))

theorem tryReserve_refused {budget : ConnectionCreditBudget} {direction : CreditDirection}
    {bytes : Nat} (h : (budget.tryReserve direction bytes).1 = false) :
    (budget.tryReserve direction bytes).2 = budget := by
  unfold tryReserve at h ⊢
  split
  · rfl
  rename_i hroom
  rw [if_neg hroom] at h
  cases h

def tryAdjust (releaseBytes reserveBytes : Nat) : Bool × ConnectionCreditBudget :=
  if budget.reservedBytes direction < releaseBytes then
    (false, { budget with refusedReleases := budget.refusedReleases + 1 })
  else
    let afterRelease := budget.reservedBytes direction - releaseBytes
    if budget.limitBytes < reserveBytes ∨ budget.limitBytes - reserveBytes < afterRelease then
      (false, budget)
    else (true, budget.setReserved direction (afterRelease + reserveBytes))

def release : ConnectionCreditBudget :=
  if budget.reservedBytes direction < bytes then
    { budget with refusedReleases := budget.refusedReleases + 1 }
  else budget.setReserved direction (budget.reservedBytes direction - bytes)

end ConnectionCreditBudget

end XnnTransfer.Transfer
