import XnnTransfer.Bridge.TransferBridge
import XnnTransfer.Pairing.Attempt

/-!
# The pairing bridge

`PairingBridge` of `native/src/bridge/pairing_bridge.hpp`: the pairing attempt that the
user sees and the trusted peers, changed by commands of the API and by updates of the
network owner.

## Implementation notes

There is one mutex. A section under it is one function on the bridge, and a thread is in
a phase of its call between two sections. The events of a section are enqueued after the
mutex is free again, one call of the event channel after the other.

`OpenWindow` and `Start` only ask the backend and are left out. A call of `Apply` inside
`Decide` differs from one of the network owner in what it returns.
-/

namespace XnnTransfer.Bridge

open Protocol Security Pairing

def maxPeerRecords : Nat := 256
def trustSnapshotPageCapacity : Nat := 8
def pairingSasWordCount : Nat := 5

inductive AttemptState
  | starting
  | awaitingConfirmation
  | paired
  | closed
  deriving DecidableEq, Repr

def AttemptState.terminal : AttemptState → Bool
  | .paired | .closed => true
  | _ => false

inductive AttemptError
  | none
  | rejected
  | cancelled
  | timedOut
  | busy
  | unavailable
  | failed
  deriving DecidableEq, Repr

inductive TrustState
  | active
  | revoked
  deriving DecidableEq, Repr

def attemptError : PairingError → AttemptError
  | .none => .none
  | .authenticatedReject | .localReject => .rejected
  | .cancelled => .cancelled
  | .timeout => .timedOut
  | .busy => .busy
  | .malformed | .limitExceeded | .sequenceViolation | .unsupportedVersion
  | .unsupportedProfile | .downgradeDetected | .roleMismatch | .stateViolation
  | .replayDetected | .confirmationFailed | .alreadyDecided | .certificateRejected
  | .internalFailure => .failed

structure AttemptPayload where
  state : AttemptState
  peerId : Nat
  deadlineMs : UInt64
  attemptId : AttemptHandle
  sasWordIndices : List UInt16
  sasWordCount : Nat
  error : AttemptError
  deriving DecidableEq, Repr

def makeAttemptPayload (state : AttemptState) (peerId : Nat) (deadlineMs : UInt64)
    (attempt : AttemptHandle) (sasWords : List UInt16) (error : AttemptError) : AttemptPayload :=
  { state := state
    peerId := peerId
    deadlineMs := deadlineMs
    attemptId := attempt
    sasWordIndices := sasWords
    sasWordCount := if state = .awaitingConfirmation then pairingSasWordCount else 0
    error := error }

/-- The words of an attempt without words. -/
def noSasWords : List UInt16 := List.replicate pairingSasWordCount 0

structure TrustEntry where
  trustId : Nat
  peerId : Nat
  deviceId : DeviceId
  state : TrustState := .active
  deriving DecidableEq, Repr

structure TrustPayload where
  state : TrustState
  trustId : Nat
  peerId : Nat
  deriving DecidableEq, Repr

def makeTrustPayload (entry : TrustEntry) : TrustPayload :=
  { state := entry.state, trustId := entry.trustId, peerId := entry.peerId }

/-- What the bridge enqueues. -/
inductive PairingEvent
  | pairing (payload : AttemptPayload)
  | trust (payload : TrustPayload)
  deriving DecidableEq, Repr

structure PairingSnapshot where
  snapshotRevision : Nat
  attempt : Option AttemptPayload
  deriving DecidableEq, Repr

structure TrustSnapshotPage where
  snapshotRevision : Nat
  offset : Nat
  totalCount : Nat
  records : List TrustPayload
  deriving DecidableEq, Repr

structure PairingBridge where
  activeAttempt : Option AttemptPayload := none
  trustEntries : List TrustEntry := []
  pairingRevision : Nat := 1
  trustRevision : Nat := 1
  nextTrustId : Nat := 1
  updatesOpen : Bool := true
  deriving DecidableEq, Repr

namespace PairingBridge

variable (bridge : PairingBridge) (deviceId : DeviceId) (peerId : Nat) (attempt : AttemptHandle)
  (entry : TrustEntry) (update : PairingUpdate)

def findTrust (trustId : Nat) : Option TrustEntry :=
  FirstMatch.lookup TrustEntry.trustId bridge.trustEntries trustId

def findDevice : Option TrustEntry :=
  bridge.trustEntries.find? fun entry => entry.deviceId = deviceId

/-- `ClearActive`. -/
def clearActive (error : AttemptError) : PairingBridge × Option AttemptPayload :=
  match bridge.activeAttempt with
  | none => (bridge, none)
  | some active =>
    ({ bridge with
        activeAttempt := none
        pairingRevision := nextRevision bridge.pairingRevision },
      some { active with
        state := .closed
        deadlineMs := 0
        sasWordIndices := noSasWords
        sasWordCount := 0
        error := error })

/-- The update is taken: the bridge is open and shows no other attempt. -/
def accepts : Bool :=
  bridge.updatesOpen && bridge.activeAttempt.all fun active => active.attemptId = attempt

/-- The attempt as an event shows it. -/
def showAttempt (payload : AttemptPayload) : PairingBridge :=
  { bridge with
    activeAttempt := some payload
    pairingRevision := nextRevision bridge.pairingRevision }

/-- The end of an attempt, before its peer is trusted. -/
def endAttempt : PairingBridge :=
  { bridge with
    activeAttempt := none
    pairingRevision := nextRevision bridge.pairingRevision }

/-- No further peer can be trusted. -/
def trustFull : Bool :=
  decide (bridge.trustEntries.length ≥ maxPeerRecords) || decide (bridge.nextTrustId = 0)

def addTrust : PairingBridge :=
  { bridge with
    trustEntries := bridge.trustEntries ++ [entry]
    nextTrustId := (bridge.nextTrustId + 1) % (maximumRevision + 1)
    trustRevision := nextRevision bridge.trustRevision }

/-- The entry of the device is active again, now for this peer. -/
def renewed : TrustEntry :=
  { entry with peerId := peerId, state := .active }

def renewTrust : PairingBridge :=
  { bridge with
    trustEntries := FirstMatch.modifyFirst (fun entry => entry.deviceId = deviceId)
      (renewed peerId) bridge.trustEntries
    trustRevision := nextRevision bridge.trustRevision }

/-- The part of `Apply` that trusts the peer of a finished attempt; `none` if there is no
room. -/
def trustPeer (deviceId : DeviceId) : Option (PairingBridge × TrustPayload) :=
  match bridge.findDevice deviceId with
  | none =>
    if bridge.trustFull then none
    else
      let entry : TrustEntry :=
        { trustId := bridge.nextTrustId, peerId := peerId, deviceId := deviceId }
      some (bridge.addTrust entry, makeTrustPayload entry)
  | some entry =>
    some (bridge.renewTrust deviceId peerId, makeTrustPayload (renewed peerId entry))

/-- The first section of `Apply`: the events to enqueue, or none if it returns false. The
attempt is over even where the peer cannot be trusted. -/
def apply (bridge : PairingBridge) : PairingBridge × Option (List PairingEvent) :=
  if bridge.accepts attempt = false then (bridge, none)
  else
    match update.prompt with
    | some prompt =>
      if prompt.handle ≠ attempt then (bridge, none)
      else
        let payload := makeAttemptPayload .awaitingConfirmation peerId prompt.deadlineMs attempt
          prompt.sasWordIndices .none
        (bridge.showAttempt payload, some [.pairing payload])
    | none =>
      if update.terminal then
        let state := if update.state = .pairedLocal then AttemptState.paired else .closed
        let payload := makeAttemptPayload state peerId 0 attempt noSasWords
          (attemptError update.error)
        match update.pairedPeer with
        | none => (bridge.endAttempt, some [.pairing payload])
        | some deviceId =>
          match bridge.endAttempt.trustPeer peerId deviceId with
          | none => (bridge.endAttempt, none)
          | some (bridge, trust) => (bridge, some [.pairing payload, .trust trust])
      else if bridge.activeAttempt.isNone then
        let payload := makeAttemptPayload .starting peerId 0 attempt noSasWords .none
        (bridge.showAttempt payload, some [.pairing payload])
      else (bridge, some [])

/-- `Apply` takes the update as the end of the attempt. -/
def endsAttempt : Bool :=
  bridge.accepts attempt && update.prompt.isNone && update.terminal

/-- `Apply` ends the attempt and then finds no room for the peer. -/
def losesTrust : Bool :=
  bridge.endsAttempt attempt update &&
    update.pairedPeer.any fun deviceId => (bridge.findDevice deviceId).isNone && bridge.trustFull

def revokedEntry : TrustEntry := { entry with state := .revoked }

/-- The second section of `Revoke`. -/
def revoke (trustId : Nat) (bridge : PairingBridge) : PairingBridge × Option TrustPayload :=
  match bridge.findTrust trustId with
  | none => (bridge, none)
  | some entry =>
    if entry.state = .revoked then (bridge, none)
    else
      ({ bridge with
          trustEntries := FirstMatch.modifyFirst (fun entry => entry.trustId = trustId)
            revokedEntry bridge.trustEntries
          trustRevision := nextRevision bridge.trustRevision },
        some (makeTrustPayload (revokedEntry entry)))

/-- `Snapshot`; `present` says that there is a snapshot to write to. -/
def snapshot (present : Bool) : Except Status PairingSnapshot :=
  if present = false then .error .invalidArgument
  else .ok { snapshotRevision := bridge.pairingRevision, attempt := bridge.activeAttempt }

def trustSnapshot (expectedRevision offset : Nat) (present : Bool) :
    Except Status TrustSnapshotPage :=
  if present = false then .error .invalidArgument
  else if expectedRevision = 0 ∧ offset ≠ 0 then .error .invalidArgument
  else if expectedRevision ≠ 0 ∧ expectedRevision ≠ bridge.trustRevision then
    .error .staleSnapshot
  else if offset > bridge.trustEntries.length then .error .invalidArgument
  else
    .ok {
      snapshotRevision := bridge.trustRevision
      offset := offset
      totalCount := bridge.trustEntries.length
      records := ((bridge.trustEntries.drop offset).take trustSnapshotPageCapacity).map
        makeTrustPayload }

end PairingBridge

/-- Where a thread is. -/
inductive PairingPhase
  | idle
  /-- The backend is asked for the decision. -/
  | deciding (attempt : AttemptHandle) (peerId : Nat)
  /-- The first section of `Apply` comes next; `command` if it is called by `Decide`. -/
  | applying (peerId : Nat) (attempt : AttemptHandle) (update : PairingUpdate) (command : Bool)
  /-- The second section of `Apply` comes next. -/
  | checking (events : List PairingEvent) (command : Bool)
  /-- The backend is asked to revoke. -/
  | asking (trustId : Nat)
  | revoking (trustId : Nat)
  /-- The backend closes the window or shuts down. -/
  | ending (outcome : Outcome)
  | clearing (outcome : Outcome)
  | publishing (events : List PairingEvent) (outcome : Outcome)
  deriving DecidableEq, Repr

/-- The events that the thread has made and not yet enqueued. -/
def PairingPhase.outbox : PairingPhase → List PairingEvent
  | .checking events _ | .publishing events _ => events
  | _ => []

inductive PairingRequest
  | closeWindow
  | decide (attemptId : AttemptHandle)
  | revoke (trustId : Nat)
  | apply (peerId : Nat) (attempt : AttemptHandle) (update : PairingUpdate)
  | shutdown
  deriving DecidableEq, Repr

inductive PairingAnswer
  | update (update : PairingUpdate)
  | status (status : Status)
  | done
  deriving DecidableEq, Repr

/-- What `Apply` means to its caller. -/
def applyOutcome (command accepted : Bool) : Outcome :=
  if command then .status (if accepted then .ok else .staleHandle) none else .accepted accepted

/-- The bridge and what every thread is doing. -/
structure PairingThreads (τ : Type*) where
  bridge : PairingBridge := {}
  phases : τ → PairingPhase := fun _ => .idle

namespace PairingThreads

variable {τ : Type*}

inductive Action (τ : Type*)
  | call (thread : τ) (request : PairingRequest)
  /-- The thread runs its next section. -/
  | proceed (thread : τ)
  /-- The backend answers the thread. -/
  | answer (thread : τ) (answer : PairingAnswer)
  deriving DecidableEq, Repr

inductive Mark (τ : Type*)
  | returned (thread : τ) (outcome : Outcome)
  /-- The attempt is over: its terminal update was applied, or the window was closed. -/
  | ended (attempt : AttemptHandle)
  | made (thread : τ) (event : PairingEvent)
  | enqueued (thread : τ) (event : PairingEvent)
  deriving DecidableEq, Repr

variable [DecidableEq τ]

def become (threads : PairingThreads τ) (thread : τ) (phase : PairingPhase) :
    PairingThreads τ :=
  { threads with phases := Function.update threads.phases thread phase }

def leave (threads : PairingThreads τ) (thread : τ) (outcome : Outcome) :
    PairingThreads τ × List (Mark τ) :=
  (threads.become thread .idle, [.returned thread outcome])

/-- The beginning of a call with its first section, if it has one before the backend is
called. -/
def call (threads : PairingThreads τ) (thread : τ) :
    PairingRequest → PairingThreads τ × List (Mark τ)
  | .closeWindow => (threads.become thread (.ending (.status .ok none)), [])
  | .decide attemptId =>
    match threads.bridge.activeAttempt with
    | none => threads.leave thread (.status .staleHandle none)
    | some active =>
      if active.attemptId ≠ attemptId then threads.leave thread (.status .staleHandle none)
      else (threads.become thread (.deciding attemptId active.peerId), [])
  | .revoke trustId =>
    match threads.bridge.findTrust trustId with
    | none => threads.leave thread (.status .ok none)
    | some entry =>
      if entry.state = .revoked then threads.leave thread (.status .ok none)
      else (threads.become thread (.asking trustId), [])
  | .apply peerId attempt update =>
    if Octets.allZero attempt then threads.leave thread (.accepted false)
    else (threads.become thread (.applying peerId attempt update false), [])
  | .shutdown =>
    ({ threads with bridge := { threads.bridge with updatesOpen := false } }.become thread
      (.ending .done), [])

/-- The backend answers the thread that is calling it. -/
def answered (threads : PairingThreads τ) (thread : τ) (answer : PairingAnswer) :
    PairingThreads τ × List (Mark τ) :=
  match threads.phases thread, answer with
  | .deciding attempt peerId, .update update =>
    if update.terminal = false ∧ update.error ≠ .none then
      threads.leave thread
        (.status (if update.error = .stateViolation then .staleHandle else .invalidState) none)
    else if Octets.allZero attempt then threads.leave thread (applyOutcome true false)
    else (threads.become thread (.applying peerId attempt update true), [])
  | .asking trustId, .status status =>
    if status ≠ .ok then threads.leave thread (.status status none)
    else (threads.become thread (.revoking trustId), [])
  | .ending outcome, .done => (threads.become thread (.clearing outcome), [])
  | _, _ => (threads, [])

/-- The next section of a thread, in each of its phases. -/
def proceed (threads : PairingThreads τ) (thread : τ) : PairingThreads τ × List (Mark τ) :=
  match threads.phases thread with
  | .applying peerId attempt update command =>
    let ended := if threads.bridge.endsAttempt attempt update then [.ended attempt] else []
    match threads.bridge.apply peerId attempt update with
    | (bridge, none) =>
      let (threads, marks) :=
        { threads with bridge := bridge }.leave thread (applyOutcome command false)
      (threads, ended ++ marks)
    | (bridge, some events) =>
      ({ threads with bridge := bridge }.become thread (.checking events command),
        ended ++ events.map (.made thread))
  | .checking events command =>
    if threads.bridge.updatesOpen = false then
      threads.leave thread (applyOutcome command false)
    else (threads.become thread (.publishing events (applyOutcome command true)), [])
  | .revoking trustId =>
    match threads.bridge.revoke trustId with
    | (_, none) => threads.leave thread (.status .ok none)
    | (bridge, some payload) =>
      ({ threads with bridge := bridge }.become thread
          (.publishing [.trust payload] (.status .ok none)),
        [.made thread (.trust payload)])
  | .clearing outcome =>
    match threads.bridge.clearActive .cancelled with
    | (_, none) => threads.leave thread outcome
    | (bridge, some payload) =>
      ({ threads with bridge := bridge }.become thread
          (.publishing [.pairing payload] outcome),
        [.ended payload.attemptId, .made thread (.pairing payload)])
  | .publishing (event :: rest) outcome =>
    (threads.become thread (.publishing rest outcome), [.enqueued thread event])
  | .publishing [] outcome => threads.leave thread outcome
  | _ => (threads, [])

def act (threads : PairingThreads τ) : Action τ → PairingThreads τ × List (Mark τ)
  | .call thread request =>
    match threads.phases thread with
    | .idle => threads.call thread request
    | _ => (threads, [])
  | .proceed thread => threads.proceed thread
  | .answer thread answer => threads.answered thread answer

def step (threads : PairingThreads τ) (action : Action τ) : PairingThreads τ :=
  (threads.act action).1

def marks (threads : PairingThreads τ) (action : Action τ) : List (Mark τ) :=
  (threads.act action).2

/-- The state after the actions, from a new bridge. -/
def after (actions : List (Action τ)) : PairingThreads τ := Runs.run step {} actions

/-- What is to be seen of the run of the actions. -/
def observed (actions : List (Action τ)) : List (Mark τ) := Runs.emitted step marks {} actions

/-- No call is in progress. -/
def Quiet (threads : PairingThreads τ) : Prop := ∀ thread, threads.phases thread = .idle

end PairingThreads

end XnnTransfer.Bridge
