import XnnTransfer.Library.FirstMatch
import XnnTransfer.Library.Runs
import XnnTransfer.Storage.Path
import XnnTransfer.Transfer.Types

/-!
# The transfer bridge

`TransferBridge` of `native/src/bridge/transfer_bridge.hpp`: the public records of the
transfers, changed by commands of the API and by updates of the network owner, and
published as events.

## Implementation notes

A section under `mutex_` is one function on the bridge. Between two sections of one call
other threads may come in. A thread is therefore in a phase of its call, and a phase says
which of `backend_mutex_` and `mutation_mutex_` the thread holds. A mutex is taken with
the section that follows and given back with the section before, since the thread does
nothing in between. The backend answers as it likes; what it calls back runs as a thread
of its own.

The publication of an event is the call of `EnqueueTransfer`. Whether the text of a label
is canonical is decided elsewhere and is a parameter.
-/

namespace XnnTransfer.Bridge

open Protocol Transfer

def maximumTransferRecords : Nat := 256
def transferPathMaxSize : Nat := 1024
def transferPeerLabelMaxSize : Nat := 96
def transferSnapshotPageCapacity : Nat := 4

/-- The largest value of a revision. -/
def maximumRevision : Nat := 18446744073709551615

inductive Status
  | ok
  | invalidArgument
  | incompatibleAbi
  | invalidState
  | internalError
  | eventQueueEmpty
  | staleSnapshot
  | unavailable
  | staleHandle
  deriving DecidableEq, Repr

inductive RecordDirection
  | incoming
  | outgoing
  deriving DecidableEq, Repr

inductive RecordState
  | offered
  | queued
  | running
  | cancelling
  | completed
  | cancelled
  | rejected
  | failed
  deriving DecidableEq, Repr

inductive RecordError
  | none
  | rejected
  | cancelled
  | timedOut
  | busy
  | noSpace
  | policyRejected
  | ioFailure
  | integrityFailed
  | unavailable
  | failed
  deriving DecidableEq, Repr

def RecordState.terminal : RecordState → Bool
  | .completed | .cancelled | .rejected | .failed => true
  | _ => false

def publicState : TransferState → RecordState
  | .created => .queued
  | .sendingManifest | .receivingManifest | .awaitingDecision | .sendingFile | .receivingFile
  | .rejecting | .awaitingFileCommit | .awaitingCompletion | .completing => .running
  | .cancelling => .cancelling
  | .committed | .completed => .completed
  | .cancelled => .cancelled
  | .rejected => .rejected
  | .failed => .failed

def publicError (error : TransferError) (state : RecordState) : RecordError :=
  if state = .completed then .none
  else if state = .cancelled then .cancelled
  else if state = .rejected then .rejected
  else
    match error with
    | .none => if state = .failed then .failed else .none
    | .policyRejected => .policyRejected
    | .noSpace => .noSpace
    | .busy => .busy
    | .ioFailure | .sourceFailure => .ioFailure
    | .integrityFailed => .integrityFailed
    | .timeout => .timedOut
    | .cancelled => .cancelled
    | .invalidArgument | .unauthenticated | .malformedFrame | .malformedMessage
    | .stateViolation | .messageIdViolation | .limitExceeded | .invalidOffer
    | .invalidManifest | .idempotencyConflict | .internalFailure => .failed

structure Record where
  transferId : Bytes
  direction : RecordDirection
  state : RecordState
  error : RecordError := .none
  totalBytes : Nat
  transferredBytes : Nat := 0
  peerLabel : Bytes
  deriving DecidableEq, Repr

inductive Change
  | upserted
  | removed
  deriving DecidableEq, Repr

/-- A record as an event or a page carries it. -/
structure EventPayload extends Record where
  change : Change
  snapshotRevision : Nat
  deriving DecidableEq, Repr

structure TransferStartResult where
  status : Status := .internalError
  transferId : Bytes := List.replicate transferIdSize 0
  totalBytes : Nat := 0
  peerLabel : Bytes := []
  deriving DecidableEq, Repr

structure SnapshotPage where
  snapshotRevision : Nat
  offset : Nat
  totalCount : Nat
  records : List EventPayload
  deriving DecidableEq, Repr

/-- The commands on a transfer that there is a record of. -/
inductive Command
  | accept
  | reject
  | cancel
  deriving DecidableEq, Repr

/-- What a method of the bridge returns. -/
inductive Outcome
  /-- A status, and the reference that `Send` has written. -/
  | status (status : Status) (reference : Option Bytes)
  | accepted (accepted : Bool)
  | done
  deriving DecidableEq, Repr

def Outcome.succeeded : Outcome → Bool
  | .status value _ => value = .ok
  | .accepted value => value
  | .done => true

/-- How a call that publishes an event answers. -/
inductive Reply
  | reference
  | status
  | accepted
  deriving DecidableEq, Repr

def Reply.published (reply : Reply) (event : EventPayload) : Outcome :=
  match reply with
  | .reference => .status .ok (some event.transferId)
  | .status => .status .ok none
  | .accepted => .accepted true

/-- The answer when the bridge is closed at the time of publication. -/
def Reply.unpublished (reply : Reply) (event : EventPayload) : Outcome :=
  match reply with
  | .reference => .status .invalidState (some event.transferId)
  | .status => .status .invalidState none
  | .accepted => .accepted false

/-- How a section under `mutation_mutex_` ends. -/
inductive Ending
  | returns (outcome : Outcome)
  /-- `Send` has to take a result back that it cannot use. -/
  | undoes (transferId : Bytes)
  | publishes (event : EventPayload) (reply : Reply)
  deriving DecidableEq, Repr

structure TransferBridge where
  records : List Record := []
  revision : Nat := 1
  pendingStarts : Nat := 0
  updatesOpen : Bool := true
  deriving DecidableEq, Repr

/-- The revision after the given one. -/
def nextRevision (revision : Nat) : Nat := if revision = maximumRevision then 1 else revision + 1

def makePayload (record : Record) (change : Change) (revision : Nat) : EventPayload :=
  { record with change := change, snapshotRevision := revision }

def validPeerLabel (canonical : Bytes → Bool) (label : Bytes) : Bool :=
  label.isEmpty || (label.length ≤ transferPeerLabelMaxSize && canonical label)

namespace TransferBridge

variable (bridge : TransferBridge) (command : Command) (transferId : Bytes) (record : Record)
  (peerLabel : Bytes) (offer : IncomingOffer) (update : TransferUpdate) (transferredBytes : Nat)

def find : Option Record :=
  FirstMatch.lookup Record.transferId bridge.records transferId

/-! ### The three ways to change the records -/

/-- A new record at the end. -/
def insert : TransferBridge :=
  { bridge with
    records := bridge.records ++ [record]
    revision := nextRevision bridge.revision }

/-- The record takes the place of the one with its ID. -/
def amend : TransferBridge :=
  { bridge with
    records := FirstMatch.modifyFirst (fun other => other.transferId = record.transferId)
      (fun _ => record) bridge.records
    revision := nextRevision bridge.revision }

def remove : TransferBridge :=
  { bridge with
    records := bridge.records.eraseP fun other => other.transferId = record.transferId
    revision := nextRevision bridge.revision }

/-- The event for the change that has just been made. -/
def payload (change : Change) : EventPayload :=
  makePayload record change bridge.revision

/-! ### `Send` -/

/-- The first section of `Send`. -/
def reserveStart : Except Status TransferBridge :=
  if bridge.updatesOpen = false then .error .invalidState
  else if bridge.records.length + bridge.pendingStarts ≥ maximumTransferRecords then
    .error .unavailable
  else .ok { bridge with pendingStarts := bridge.pendingStarts + 1 }

variable (canonical : Bytes → Bool) (result : TransferStartResult)

/-- The record of a transfer that the backend has started. -/
def startedRecord : Record :=
  { transferId := result.transferId
    direction := .outgoing
    state := .queued
    totalBytes := result.totalBytes
    peerLabel := result.peerLabel }

/-- The section of `Send` after the backend has answered. -/
def finishSend (bridge : TransferBridge) : TransferBridge × Ending :=
  let bridge := { bridge with pendingStarts := bridge.pendingStarts - 1 }
  if bridge.updatesOpen = false then (bridge, .returns (.status .invalidState none))
  else if result.status ≠ .ok then (bridge, .returns (.status result.status none))
  else if allZero result.transferId ∨ result.totalBytes > Storage.maxFileBytes ∨
      validPeerLabel canonical result.peerLabel = false ∨
      (bridge.find result.transferId).isSome ∨
      bridge.records.length ≥ maximumTransferRecords then
    (bridge, .undoes result.transferId)
  else
    let bridge := bridge.insert (startedRecord result)
    (bridge, .publishes (bridge.payload (startedRecord result) .upserted) .reference)

/-! ### `Accept`, `Reject` and `Cancel` -/

/-- The check that `Accept` and `Reject` make before and after the backend is called. -/
def offeredOnly : Option Record → Option Status
  | none => some .staleHandle
  | some record => if record.state ≠ .offered then some .staleHandle else none

/-- The check that `Cancel` makes; a transfer that is being cancelled is left alone. -/
def activeOnly : Option Record → Option Status
  | none => some .staleHandle
  | some record =>
    if record.state = .offered ∨ record.state.terminal then some .staleHandle
    else if record.state = .cancelling then some .ok
    else none

/-- The status with which the command ends here, if it does. -/
def commandEnds : Option Status :=
  if bridge.updatesOpen = false then some .invalidState
  else
    match command with
    | .accept | .reject => offeredOnly (bridge.find transferId)
    | .cancel => activeOnly (bridge.find transferId)

/-- The change that a command makes to its record, and the event for it. -/
def carryOut : TransferBridge × EventPayload :=
  match command with
  | .accept =>
    let record := { record with state := .queued }
    let bridge := bridge.amend record
    (bridge, bridge.payload record .upserted)
  | .reject =>
    let bridge := bridge.remove record
    (bridge, bridge.payload record .removed)
  | .cancel =>
    let record := { record with state := .cancelling }
    let bridge := bridge.amend record
    (bridge, bridge.payload record .upserted)

/-- The section of a command after the backend has agreed. -/
def finishCommand (bridge : TransferBridge) : TransferBridge × Ending :=
  match bridge.commandEnds command transferId, bridge.find transferId with
  | some status, _ => (bridge, .returns (.status status none))
  | none, none => (bridge, .returns (.status .staleHandle none))
  | none, some record =>
    let (bridge, event) := bridge.carryOut command record
    (bridge, .publishes event .status)

/-! ### `ApplyIncomingOffer` and `Apply` -/

/-- The check of `ApplyIncomingOffer` before it takes a lock. -/
def refusesOffer (peerLabel : Bytes) (offer : IncomingOffer) : Bool :=
  allZero offer.transferId || decide (offer.fileSize > Storage.maxFileBytes) ||
    !validPeerLabel canonical peerLabel

def offeredRecord : Record :=
  { transferId := offer.transferId
    direction := .incoming
    state := .offered
    totalBytes := offer.fileSize
    peerLabel := peerLabel }

def applyIncomingOffer (bridge : TransferBridge) : TransferBridge × Ending :=
  if bridge.updatesOpen = false then (bridge, .returns (.accepted false))
  else
    match bridge.find offer.transferId with
    | some existing =>
      (bridge, .returns (.accepted (decide (existing.state = .offered ∧
        existing.totalBytes = offer.fileSize ∧ existing.peerLabel = peerLabel))))
    | none =>
      if bridge.records.length + bridge.pendingStarts ≥ maximumTransferRecords then
        (bridge, .returns (.accepted false))
      else
        let bridge := bridge.insert (offeredRecord peerLabel offer)
        (bridge, .publishes (bridge.payload (offeredRecord peerLabel offer) .upserted) .accepted)

/-- The record is not there to be updated, or the count does not fit it. -/
def refusesCount : Bool :=
  record.state = .offered || record.state.terminal ||
    decide (transferredBytes < record.transferredBytes) ||
    decide (transferredBytes > record.totalBytes)

/-- The state of the update does not go with its flag or with the count. -/
def refusesState : Bool :=
  let state := publicState update.state
  decide (state = .offered) ||
    (decide (state = .completed) && decide (transferredBytes ≠ record.totalBytes)) ||
    (!state.terminal && update.terminal) || (state.terminal && !update.terminal)

/-- The error does not go with the state. -/
def refusesError : Bool :=
  let state := publicState update.state
  let error := publicError update.error state
  let failureState := decide (state = .failed) || decide (state = .rejected)
  (failureState && decide (error = .none)) ||
    (!failureState && decide (state ≠ .cancelled) && decide (error ≠ .none))

def updatedRecord : Record :=
  { record with
    state := publicState update.state
    error := publicError update.error (publicState update.state)
    transferredBytes := transferredBytes }

def apply (bridge : TransferBridge) : TransferBridge × Ending :=
  if bridge.updatesOpen = false then (bridge, .returns (.accepted false))
  else
    match bridge.find transferId with
    | none => (bridge, .returns (.accepted false))
    | some record =>
      if refusesCount record transferredBytes || refusesState record update transferredBytes ||
          refusesError update then
        (bridge, .returns (.accepted false))
      else
        let record := updatedRecord record update transferredBytes
        let bridge := bridge.amend record
        (bridge, .publishes (bridge.payload record .upserted) .accepted)

/-! ### `Snapshot` and `Shutdown` -/

/-- `Snapshot`; `present` says that there is a page to write to. -/
def snapshot (expectedRevision offset : Nat) (present : Bool) : Except Status SnapshotPage :=
  if present = false then .error .invalidArgument
  else if expectedRevision = 0 ∧ offset ≠ 0 then .error .invalidArgument
  else if expectedRevision ≠ 0 ∧ expectedRevision ≠ bridge.revision then .error .staleSnapshot
  else if offset > bridge.records.length then .error .invalidArgument
  else
    .ok {
      snapshotRevision := bridge.revision
      offset := offset
      totalCount := bridge.records.length
      records := ((bridge.records.drop offset).take transferSnapshotPageCapacity).map
        fun record => bridge.payload record .upserted }

/-- What `Shutdown` makes of a record: nothing, for one that is only offered. -/
def abandoned : Option Record :=
  if record.state = .offered then none
  else if record.state.terminal then some record
  else some { record with state := .cancelled, error := .cancelled }

/-- The event for it, at the given revision. -/
def abandonEvent (revision : Nat) : EventPayload :=
  match abandoned record with
  | none => makePayload record .removed revision
  | some record => makePayload record .upserted revision

/-- The events of the loop of `Shutdown`, and the revision after it. -/
def abandonAll (revision : Nat) : List Record → Nat × List EventPayload
  | [] => (revision, [])
  | record :: rest =>
    if record.state.terminal then abandonAll revision rest
    else
      let (last, events) := abandonAll (nextRevision revision) rest
      (last, abandonEvent record (nextRevision revision) :: events)

/-- The last section of `Shutdown`. -/
def abandon : TransferBridge × List EventPayload :=
  let (revision, events) := abandonAll bridge.revision bridge.records
  ({ bridge with records := bridge.records.filterMap abandoned, revision := revision }, events)

end TransferBridge

/-! ### Threads -/

/-- What is left to do of a call once it has `mutation_mutex_`. -/
inductive Work
  | send (result : TransferStartResult)
  | command (command : Command) (transferId : Bytes)
  | offer (peerLabel : Bytes) (offer : IncomingOffer)
  | apply (transferId : Bytes) (update : TransferUpdate) (transferredBytes : Nat)
  deriving DecidableEq, Repr

def Work.perform (canonical : Bytes → Bool) : Work → TransferBridge → TransferBridge × Ending
  | .send result => TransferBridge.finishSend canonical result
  | .command verb transferId => TransferBridge.finishCommand verb transferId
  | .offer peerLabel received => TransferBridge.applyIncomingOffer peerLabel received
  | .apply transferId update transferredBytes =>
    TransferBridge.apply transferId update transferredBytes

/-- Where a thread is. -/
inductive Phase
  | idle
  /-- `Send` waits for `backend_mutex_`. -/
  | starting
  /-- The backend is asked to send. -/
  | sending
  /-- The backend is asked to cancel what it has started. -/
  | undoing
  | commanding (command : Command) (transferId : Bytes)
  | asking (command : Command) (transferId : Bytes)
  /-- The thread waits for `mutation_mutex_`. -/
  | working (work : Work)
  /-- The change is made and its event is not yet published. -/
  | publishing (event : EventPayload) (reply : Reply)
  /-- `Shutdown` waits for both mutexes. -/
  | closing
  /-- The backend is told to shut down. -/
  | stopping
  /-- `Shutdown` waits for `mutation_mutex_`. -/
  | abandoning
  /-- `Shutdown` publishes these events. -/
  | flushing (events : List EventPayload)
  deriving DecidableEq, Repr

namespace Phase

/-- The thread holds `backend_mutex_`. -/
def holdsBackend : Phase → Bool
  | .sending | .undoing | .asking _ _ | .stopping => true
  | .working (.send _) | .working (.command _ _) => true
  | _ => false

/-- The thread holds `mutation_mutex_`. -/
def holdsMutation : Phase → Bool
  | .undoing | .publishing _ _ | .flushing _ => true
  | _ => false

/-- The thread has reserved a place for a record. -/
def reserves : Phase → Bool
  | .sending | .working (.send _) => true
  | _ => false

/-- The events of changes that the thread has made and not yet published. -/
def outbox : Phase → List EventPayload
  | .publishing event _ => [event]
  | .flushing events => events
  | _ => []

end Phase

/-- A call of a method with its arguments. -/
inductive Request
  /-- `present` says that there is a reference to write to. -/
  | send (path : Bytes) (present : Bool)
  | command (command : Command) (transferId : Bytes)
  | applyIncomingOffer (peerLabel : Bytes) (offer : IncomingOffer)
  | apply (transferId : Bytes) (update : TransferUpdate) (transferredBytes : Nat)
  | shutdown
  deriving DecidableEq, Repr

/-- The beginning of a call, up to the first mutex. -/
def Request.begin (canonical : Bytes → Bool) : Request → Except Outcome Phase
  | .send path present =>
    if present = false ∨ path = [] ∨ path.length > transferPathMaxSize ∨ 0 ∈ path then
      .error (.status .invalidArgument none)
    else .ok .starting
  | .command verb transferId => .ok (.commanding verb transferId)
  | .applyIncomingOffer peerLabel offer =>
    if TransferBridge.refusesOffer canonical peerLabel offer then .error (.accepted false)
    else .ok (.working (.offer peerLabel offer))
  | .apply transferId update transferredBytes =>
    .ok (.working (.apply transferId update transferredBytes))
  | .shutdown => .ok .closing

/-- What the backend answers. -/
inductive Answer
  | started (result : TransferStartResult)
  | status (status : Status)
  deriving DecidableEq, Repr

/-- The bridge, who holds its mutexes, and what every thread is doing. -/
structure TransferThreads (τ : Type*) where
  bridge : TransferBridge := {}
  backendOwner : Option τ := none
  mutationOwner : Option τ := none
  phases : τ → Phase := fun _ => .idle

namespace TransferThreads

variable {τ : Type*}

inductive Action (τ : Type*)
  | call (thread : τ) (request : Request)
  /-- The thread runs its next section, if it does not have to wait. -/
  | proceed (thread : τ)
  /-- The backend answers the thread. -/
  | answer (thread : τ) (answer : Answer)
  | snapshot (expectedRevision offset : Nat) (present : Bool)

inductive Mark (τ : Type*)
  | called (thread : τ) (request : Request)
  /-- The records were changed; this is the event for it. -/
  | mutated (thread : τ) (event : EventPayload)
  | enqueued (thread : τ) (event : EventPayload)
  | returned (thread : τ) (outcome : Outcome)
  | page (result : Except Status SnapshotPage)

variable [DecidableEq τ]

/-- The owner of a mutex after the thread holds it or does not. -/
def ownerAfter (owner : Option τ) (thread : τ) (holds : Bool) : Option τ :=
  if holds then some thread else if owner = some thread then none else owner

/-- The thread takes up another phase, with the mutexes that belong to it. -/
def become (threads : TransferThreads τ) (thread : τ) (phase : Phase) : TransferThreads τ :=
  { threads with
    backendOwner := ownerAfter threads.backendOwner thread phase.holdsBackend
    mutationOwner := ownerAfter threads.mutationOwner thread phase.holdsMutation
    phases := Function.update threads.phases thread phase }

/-- The call returns. -/
def leave (threads : TransferThreads τ) (thread : τ) (outcome : Outcome) :
    TransferThreads τ × List (Mark τ) :=
  (threads.become thread .idle, [.returned thread outcome])

/-- Go on after a section under `mutation_mutex_`. -/
def conclude (threads : TransferThreads τ) (thread : τ) :
    TransferBridge × Ending → TransferThreads τ × List (Mark τ)
  | (bridge, .returns outcome) => { threads with bridge := bridge }.leave thread outcome
  | (bridge, .undoes _) => ({ threads with bridge := bridge }.become thread .undoing, [])
  | (bridge, .publishes event reply) =>
    ({ threads with bridge := bridge }.become thread (.publishing event reply),
      [.mutated thread event])

variable (canonical : Bytes → Bool)

/-- The next section of a thread, in each of its phases. -/
def proceed (threads : TransferThreads τ) (thread : τ) : TransferThreads τ × List (Mark τ) :=
  match threads.phases thread with
  | .starting =>
    if threads.backendOwner.isSome then (threads, [])
    else
      match threads.bridge.reserveStart with
      | .error status => threads.leave thread (.status status none)
      | .ok bridge => ({ threads with bridge := bridge }.become thread .sending, [])
  | .commanding command transferId =>
    if threads.backendOwner.isSome then (threads, [])
    else
      match threads.bridge.commandEnds command transferId with
      | some status => threads.leave thread (.status status none)
      | none => (threads.become thread (.asking command transferId), [])
  | .working work =>
    if threads.mutationOwner.isSome then (threads, [])
    else threads.conclude thread (work.perform canonical threads.bridge)
  | .publishing event reply =>
    if threads.bridge.updatesOpen then
      (threads.become thread .idle,
        [.enqueued thread event, .returned thread (reply.published event)])
    else threads.leave thread (reply.unpublished event)
  | .closing =>
    if threads.backendOwner.isSome ∨ threads.mutationOwner.isSome then (threads, [])
    else if threads.bridge.updatesOpen = false then threads.leave thread .done
    else
      ({ threads with bridge := { threads.bridge with updatesOpen := false } }.become thread
        .stopping, [])
  | .abandoning =>
    if threads.mutationOwner.isSome then (threads, [])
    else
      let (bridge, events) := threads.bridge.abandon
      ({ threads with bridge := bridge }.become thread (.flushing events),
        events.map (.mutated thread))
  | .flushing (event :: rest) =>
    (threads.become thread (.flushing rest), [.enqueued thread event])
  | .flushing [] => threads.leave thread .done
  | _ => (threads, [])

/-- The backend answers the thread that is calling it. -/
def answered (threads : TransferThreads τ) (thread : τ) :
    Answer → TransferThreads τ × List (Mark τ)
  | .started result =>
    match threads.phases thread with
    | .sending => (threads.become thread (.working (.send result)), [])
    | _ => (threads, [])
  | .status status =>
    match threads.phases thread with
    | .asking command transferId =>
      if status ≠ .ok then threads.leave thread (.status status none)
      else (threads.become thread (.working (.command command transferId)), [])
    | .undoing => threads.leave thread (.status .internalError none)
    | .stopping => (threads.become thread .abandoning, [])
    | _ => (threads, [])

def act (threads : TransferThreads τ) :
    Action τ → TransferThreads τ × List (Mark τ)
  | .call thread request =>
    match threads.phases thread with
    | .idle =>
      match request.begin canonical with
      | .error outcome => (threads, [.called thread request, .returned thread outcome])
      | .ok phase => (threads.become thread phase, [.called thread request])
    | _ => (threads, [])
  | .proceed thread => threads.proceed canonical thread
  | .answer thread answer => threads.answered thread answer
  | .snapshot expectedRevision offset present =>
    (threads, [.page (threads.bridge.snapshot expectedRevision offset present)])

def step (threads : TransferThreads τ) (action : Action τ) : TransferThreads τ :=
  (threads.act canonical action).1

def marks (threads : TransferThreads τ) (action : Action τ) : List (Mark τ) :=
  (threads.act canonical action).2

/-- The state after the actions, from a new bridge. -/
def after (actions : List (Action τ)) : TransferThreads τ :=
  Runs.run (step canonical) {} actions

/-- What is to be seen of the run of the actions. -/
def observed (actions : List (Action τ)) : List (Mark τ) :=
  Runs.emitted (step canonical) (marks canonical) {} actions

end TransferThreads

end XnnTransfer.Bridge
