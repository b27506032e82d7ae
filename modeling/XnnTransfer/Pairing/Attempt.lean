import XnnTransfer.Pairing.Replay
import XnnTransfer.Pairing.Wire
import XnnTransfer.Security.Confirmation

/-!
# A pairing attempt

`PairingAttempt` of `native/src/session/pairing.cpp`: the state machine of one
end of a pairing, from the first hello to the committed peer.

## Implementation notes

A method is a function of the surroundings of the call, the attempt and the
replay cache, and returns an `Outcome`. The surroundings hold what the attempt
takes from elsewhere: the primitives, the state of the admission lease, the
exporters of the channel, the repository and the memory. `PairingEnvironment.memory`
tells for each group of allocations whether it succeeds; `ReceiveFrame`, `Start`
and `Decide` turn a failure into `kLimitExceeded`. In the two methods that do
not catch allocation failures there are none. The destructor of an attempt does
what `Shutdown` does.
-/

namespace XnnTransfer.Pairing

open Protocol Security

def maxInboundPairingFrames : Nat := 16
def maxInboundPairingBytes : Nat := 65536
def maximumPairingWindowMs : UInt64 := 120000
def firstPairingFrameTimeoutMs : UInt64 := 5000
def selectionTimeoutMs : UInt64 := 10000
def pairingIdleTimeoutMs : UInt64 := 30000
def decisionTimeoutMs : UInt64 := 90000
def completePairingTimeoutMs : UInt64 := 120000
def maxDisplayLabelBytes : Nat := 96

abbrev AttemptHandle := Octets 16

inductive PairingState
  | pairingTls
  | exchangingHellos
  | selecting
  | awaitingDecisions
  | readyToCommit
  | committing
  | pairedLocal
  | closed
  deriving DecidableEq, Repr

/-- The two states that an attempt does not leave. -/
def PairingState.terminal (state : PairingState) : Bool :=
  state = .closed ∨ state = .pairedLocal

def mapSecurityError : SecurityError → PairingError
  | .none => .none
  | .unsupportedVersion => .unsupportedVersion
  | .unsupportedProfile => .unsupportedProfile
  | .downgradeDetected => .downgradeDetected
  | .roleMismatch => .roleMismatch
  | .replayDetected => .replayDetected
  | .contextMismatch | .confirmationMismatch | .invalidDecision | .authenticatedReject =>
    .confirmationFailed
  | .invalidPublicKey | .peerCertificateMismatch | .pinMismatch => .certificateRejected
  | .limitExceeded => .limitExceeded
  | .invalidLength | .malformedEncoding | .nonCanonicalEncoding | .unknownKind | .unknownField
  | .duplicateField | .missingField | .trailingData | .domainMismatch | .invalidNegotiation
  | .unsupportedCapability | .malformedTranscript => .malformed
  | .cryptoFailure | .localReject | .deviceIdentifierMismatch | .transportFinishedMismatch
  | .invalidRotation | .outputMismatch | .identityUnavailable | .tlsConfigurationFailure
  | .handshakeIncomplete | .tlsVersionMismatch | .cipherMismatch | .groupMismatch
  | .signatureMismatch | .alpnMismatch | .resumptionDetected | .earlyDataDetected
  | .exporterFailure => .internalFailure

structure PeerCommit where
  publicKey : PublicKey
  securityProfile : Nat
  displayLabel : Bytes
  deriving DecidableEq, Repr

structure PairingAttemptOptions where
  offer : NegotiationOffer
  peerDisplayLabel : Bytes
  deriving DecidableEq, Repr

structure PairingPrompt where
  handle : AttemptHandle
  sasWordIndices : List UInt16
  deadlineMs : UInt64
  deriving DecidableEq, Repr

structure PairingUpdate where
  state : PairingState := .pairingTls
  error : PairingError := .none
  outboundFrame : Bytes := []
  prompt : Option PairingPrompt := none
  pairedPeer : Option DeviceId := none
  terminal : Bool := false
  deriving DecidableEq, Repr

/-- The groups of allocations of a call. `context` comes before the replay reservation is
bound, `secrets` after it. -/
inductive Allocation
  | decode
  | encode
  | context
  | secrets
  | confirmation
  | commit
  deriving DecidableEq, Repr

/-- What one call takes from its surroundings. -/
structure PairingEnvironment where
  prims : Primitives
  admissionActive : Bool
  markVisible : PairingError
  exportPairing : PairingContext → Option Bytes
  exportConfirmation : PairingContext → Option Bytes
  commitPeer : PeerCommit → Option DeviceId
  storableFields : Nat
  memory : Allocation → Bool

/-- The surroundings without a failing allocation. -/
def PairingEnvironment.unbounded (env : PairingEnvironment) : PairingEnvironment :=
  { env with memory := fun _ => true }

/-- `PairingAttempt::Implementation`. The unique pointers to the channel, the lease and the
replay reservation are what is left of them when they are reset. -/
structure PairingAttempt where
  peerPublicKey : PublicKey
  channelOpen : Bool := true
  admissionHeld : Bool := true
  replayReservation : Option UInt64
  options : PairingAttemptOptions
  localRole : Role
  handle : AttemptHandle
  localNonce : Nonce256
  localKey : PublicKey
  localHello : Option Hello := none
  remoteHello : Option Hello := none
  selection : Option Selection := none
  context : Option PairingContext := none
  confirmationExporter : Bytes := []
  sasIndices : List UInt16 := [0, 0, 0, 0, 0]
  state : PairingState := .pairingTls
  localDecision : Option ConfirmationDecision := none
  selectionAckPending : Bool := false
  decisionWritten : Bool := false
  peerConfirmed : Bool := false
  nextOutboundSequence : UInt32 := 1
  nextInboundSequence : UInt32 := 1
  inboundFrames : Nat := 0
  inboundBytes : Nat := 0
  absoluteDeadlineMs : UInt64
  firstFrameDeadlineMs : UInt64 := 0
  selectionDeadlineMs : UInt64 := 0
  decisionDeadlineMs : UInt64 := 0
  idleDeadlineMs : UInt64 := 0
  lastNowMs : UInt64
  deriving DecidableEq, Repr

/-- What an attempt does beyond its own fields: the binding of its reservation and the answer,
a confirmation that it authenticates, one of the peer that passes the verification, and the
commit it asks of the repository, with the answer. -/
inductive PairingEvent
  | bind (context : PairingContext) (error : PairingError)
  | issue (confirmationExporter : Bytes) (confirmation : ConfirmationValue)
  | verify (confirmationExporter : Bytes) (decision : Decision) (context : PairingContext)
      (verification : ConfirmationVerification)
  | commitPeer (request : PeerCommit) (answer : Option DeviceId)
  deriving DecidableEq, Repr

/-- What a call leaves behind. -/
structure Outcome where
  update : PairingUpdate
  attempt : PairingAttempt
  cache : ReplayCache
  events : List PairingEvent := []

/-- The outcome of a call that did this before. -/
@[simps] def Outcome.after (o : Outcome) (event : PairingEvent) : Outcome :=
  { o with events := event :: o.events }

namespace PairingAttempt

variable (env : PairingEnvironment) (attempt : PairingAttempt) (cache : ReplayCache)
  (context : PairingContext) (frame : Frame) (handle : AttemptHandle)
  (decision : ConfirmationDecision) (nowMs : UInt64)

/-- `Update`. -/
@[simps] def update : PairingUpdate :=
  { state := attempt.state, terminal := attempt.state.terminal }

/-- The call that changes nothing more. -/
@[simps] def keep : Outcome :=
  ⟨attempt.update, attempt, cache, []⟩

/-- `FinalizeResources`, as far as the replay cache is concerned. -/
def settleReservation : ReplayCache :=
  match attempt.replayReservation with
  | some reservationId => cache.commit reservationId attempt.lastNowMs
  | none => cache

/-- What `Close`, `Paired` and the `FinalizeResources` that they call leave of an attempt. -/
@[simps] def ended (state : PairingState) : PairingAttempt :=
  { attempt with
    confirmationExporter := []
    handle := .zero 16
    state := state
    replayReservation := none
    localNonce := .zero 32
    sasIndices := [0, 0, 0, 0, 0]
    localHello := none
    remoteHello := none
    selection := none
    context := none
    localDecision := none
    selectionAckPending := false
    decisionWritten := false
    peerConfirmed := false
    admissionHeld := false
    channelOpen := false }

@[simps] def close (error : PairingError) : Outcome :=
  ⟨{ state := .closed, error := error, terminal := true }, attempt.ended .closed,
    attempt.settleReservation cache, []⟩

@[simps] def paired (peerDeviceId : DeviceId) : Outcome :=
  ⟨{ state := .pairedLocal, pairedPeer := some peerDeviceId, terminal := true },
    attempt.ended .pairedLocal, attempt.settleReservation cache, []⟩

def handleMatches (candidate : AttemptHandle) : Bool :=
  candidate = attempt.handle ∧ attempt.handle.allZero = false

/-- The deadline that `CheckDeadline` computes for the state. -/
def deadline : UInt64 :=
  match attempt.state with
  | .exchangingHellos =>
    min (min (min attempt.absoluteDeadlineMs attempt.firstFrameDeadlineMs)
      attempt.selectionDeadlineMs) attempt.idleDeadlineMs
  | .selecting =>
    min (min attempt.absoluteDeadlineMs attempt.selectionDeadlineMs) attempt.idleDeadlineMs
  | .awaitingDecisions =>
    min (min attempt.absoluteDeadlineMs attempt.decisionDeadlineMs) attempt.idleDeadlineMs
  | _ => attempt.absoluteDeadlineMs

/-- The deadline that lies this far ahead, but not after the absolute one. -/
@[irreducible] def deadlineIn (duration : UInt64) : UInt64 :=
  min attempt.absoluteDeadlineMs (checkedDeadline nowMs duration)

/-- The outcome with an abort frame, if there is memory for one. -/
def withAbort (o : Outcome) (publicCode : Nat) : Outcome :=
  { o with update := { o.update with
      outboundFrame :=
        if env.memory .encode then encodeAbort o.attempt.nextOutboundSequence publicCode
        else [] } }

@[simps] def atTime : PairingAttempt :=
  { attempt with lastNowMs := max attempt.lastNowMs nowMs }

def checkDeadline : Outcome :=
  let attempt := attempt.atTime nowMs
  if attempt.state.terminal then attempt.keep cache
  else if attempt.admissionHeld = false ∨ env.admissionActive = false then
    attempt.close cache .busy
  else if nowMs < attempt.deadline then attempt.keep cache
  else withAbort env (attempt.close cache .timeout) 4

/-- The commit that `MaybeCommit` asks of the repository. -/
def peerCommit : PeerCommit where
  publicKey := attempt.peerPublicKey
  securityProfile := securityProfileV1
  displayLabel := attempt.options.peerDisplayLabel

def maybeCommit : Outcome :=
  if attempt.state ≠ .awaitingDecisions ∨ attempt.localDecision ≠ some .confirm ∨
      attempt.decisionWritten = false ∨ attempt.peerConfirmed = false ∨
      attempt.context = none then attempt.keep cache
  else if env.memory .commit = false then attempt.close cache .limitExceeded
  else
    match env.commitPeer attempt.peerCommit with
    | none =>
      (attempt.close cache .internalFailure).after (.commitPeer attempt.peerCommit none)
    | some peerDeviceId =>
      (attempt.paired cache peerDeviceId).after (.commitPeer attempt.peerCommit (some peerDeviceId))

/-- The hello of the initiator and that of the responder, if both are known. -/
def hellos : Option (Hello × Hello) :=
  match attempt.localHello, attempt.remoteHello with
  | some localHello, some remoteHello =>
    some (if attempt.localRole = .initiator then localHello else remoteHello,
      if attempt.localRole = .responder then localHello else remoteHello)
  | _, _ => none

/-- The part of `CompleteSelection` that builds the pairing context. -/
def buildContext : Except PairingError PairingContext :=
  match attempt.hellos, attempt.selection with
  | some (initiator, responder), some selection =>
    if env.memory .context = false then .error .limitExceeded
    else
      match buildNormalizedNegotiation env.prims initiator.offer responder.offer selection with
      | .error error => .error (mapSecurityError error)
      | .ok negotiation =>
        match buildPairingContext env.prims ⟨initiator.nonce, responder.nonce, initiator.key,
            responder.key, negotiation⟩ with
        | .error error => .error (mapSecurityError error)
        | .ok context => .ok context
  | _, _ => .error .internalFailure

/-- The part of `CompleteSelection` that derives the word indices and fetches the exporter
of the confirmations. -/
def deriveSecrets : Except PairingError (List UInt16 × Bytes) :=
  if env.memory .secrets = false then .error .limitExceeded
  else
    match env.exportPairing context with
    | none => .error .internalFailure
    | some pairingExporter =>
      if pairingExporter.length ≠ sha256Size then .error .internalFailure
      else
        match deriveSasWords env.prims pairingExporter context with
        | .error error => .error (mapSecurityError error)
        | .ok indices =>
          match env.exportConfirmation context with
          | none => .error .internalFailure
          | some confirmationExporter =>
            if confirmationExporter.length ≠ sha256Size then .error .internalFailure
            else .ok (indices, confirmationExporter)

/-- The attempt that waits for the decisions about a context. -/
@[simps] def awaiting (indices : List UInt16) (confirmationExporter : Bytes) (nowMs : UInt64) :
    PairingAttempt :=
  { attempt with
    context := some context
    sasIndices := indices
    confirmationExporter := confirmationExporter
    state := .awaitingDecisions
    decisionDeadlineMs := attempt.deadlineIn nowMs decisionTimeoutMs
    idleDeadlineMs := attempt.deadlineIn nowMs pairingIdleTimeoutMs
    lastNowMs := nowMs }

def prompt : PairingPrompt :=
  ⟨attempt.handle, attempt.sasIndices, attempt.decisionDeadlineMs⟩

/-- `CompleteSelection` after the reservation was bound, or not. -/
def completeBound (replayError : PairingError) (nowMs : UInt64) : Outcome :=
  if replayError ≠ .none then attempt.close cache replayError
  else if attempt.admissionHeld = false ∨ env.markVisible ≠ .none then attempt.close cache .busy
  else
    match deriveSecrets env context with
    | .error error => attempt.close cache error
    | .ok (indices, confirmationExporter) =>
      let attempt := attempt.awaiting context indices confirmationExporter nowMs
      ⟨{ attempt.update with prompt := some attempt.prompt }, attempt, cache, []⟩

def completeSelection : Outcome :=
  match attempt.buildContext env with
  | .error error => attempt.close cache error
  | .ok context =>
    match attempt.replayReservation with
    | none => attempt.close cache .internalFailure
    | some reservationId =>
      let (replayError, cache) := cache.bind reservationId context.digest nowMs
      (attempt.completeBound env cache context replayError nowMs).after (.bind context replayError)

/-- The attempt that has used up an outbound number. -/
@[simps] def sequenced : PairingAttempt :=
  { attempt with nextOutboundSequence := attempt.nextOutboundSequence + 1 }

/-- The emission of a frame. The attempt closes if the frame cannot be encoded and is
changed by `next` otherwise. -/
def emit (frame : UInt32 → Bytes) (next : PairingAttempt → PairingAttempt) : Outcome :=
  let outbound := frame attempt.nextOutboundSequence
  let attempt := attempt.sequenced
  if env.memory .encode = false then attempt.close cache .limitExceeded
  else if outbound = [] then attempt.close cache .internalFailure
  else ⟨{ (next attempt).update with outboundFrame := outbound }, next attempt, cache, []⟩

/-- The attempt that knows the peer's hello and the selection. -/
@[simps] def heard (hello : Hello) (selection : Selection) (nowMs : UInt64) : PairingAttempt :=
  { attempt with
    remoteHello := some hello
    selection := some selection
    state := .selecting
    idleDeadlineMs := attempt.deadlineIn nowMs pairingIdleTimeoutMs
    lastNowMs := nowMs }

def receiveHello : Outcome :=
  if attempt.state ≠ .exchangingHellos ∨ attempt.remoteHello.isSome = true then
    attempt.close cache .stateViolation
  else if env.memory .decode = false then attempt.close cache .limitExceeded
  else
    match decodeHello env.prims frame attempt.localRole.opposite attempt.peerPublicKey with
    | .error error => attempt.close cache error
    | .ok hello =>
      if attempt.localKey = hello.key then attempt.close cache .certificateRejected
      else
        match select
            (if attempt.localRole = .initiator then attempt.options.offer else hello.offer)
            (if attempt.localRole = .responder then attempt.options.offer else hello.offer) with
        | .error error => attempt.close cache error
        | .ok selection =>
          let attempt := attempt.heard hello selection nowMs
          if attempt.localRole = .initiator then
            attempt.emit env cache (fun sequence => encodeSelection .select sequence selection) id
          else attempt.keep cache

/-- The responder that has sent its acknowledgement. -/
@[simps] def answering : PairingAttempt :=
  { attempt with selectionAckPending := true, lastNowMs := nowMs }

/-- The peer answered with another selection. -/
def selectionMismatch (received expected : Selection) : PairingError :=
  if versionLess received.selectedVersion expected.selectedVersion then .downgradeDetected
  else .malformed

def receiveSelection : Outcome :=
  match attempt.selection with
  | none => attempt.close cache .stateViolation
  | some selection =>
    if attempt.state ≠ .selecting then attempt.close cache .stateViolation
    else if ¬ (attempt.localRole = .responder ∧ frame.type = .select) ∧
        ¬ (attempt.localRole = .initiator ∧ frame.type = .selectAck) then
      attempt.close cache .stateViolation
    else if env.memory .decode = false then attempt.close cache .limitExceeded
    else
      match decodeSelection frame with
      | .error error => attempt.close cache error
      | .ok received =>
        if received ≠ selection then
          attempt.close cache (selectionMismatch received selection)
        else if attempt.localRole = .responder then
          attempt.emit env cache
            (fun sequence => encodeSelection .selectAck sequence selection)
            fun attempt => attempt.answering nowMs
        else attempt.completeSelection env cache nowMs

/-- The attempt that knows that the peer has confirmed. -/
@[simps] def confirmedByPeer : PairingAttempt :=
  { attempt with
    peerConfirmed := true
    idleDeadlineMs := attempt.deadlineIn nowMs pairingIdleTimeoutMs
    lastNowMs := nowMs }

def receiveDecision : Outcome :=
  match attempt.context with
  | none => attempt.close cache .stateViolation
  | some context =>
    if attempt.state ≠ .awaitingDecisions ∨ attempt.peerConfirmed = true then
      attempt.close cache .stateViolation
    else
      match decodeDecision frame with
      | .error error => attempt.close cache error
      | .ok decision =>
        if env.memory .confirmation = false then attempt.close cache .limitExceeded
        else
          match verifyConfirmation env.prims attempt.confirmationExporter
              decision.message.val decision.authenticator.val context
              attempt.localRole.opposite with
          | .error error => attempt.close cache (mapSecurityError error)
          | .ok verification =>
            let verified : Outcome :=
              if verification.outcome = .authenticatedReject then
                attempt.close cache .authenticatedReject
              else (attempt.confirmedByPeer nowMs).maybeCommit env cache
            verified.after (.verify attempt.confirmationExporter decision context verification)

/-! ### The public operations -/

/-- Every operation but `Shutdown` first looks at the clock. -/
def afterDeadline (operation : PairingAttempt → Outcome) : Outcome :=
  let checked := attempt.checkDeadline env cache nowMs
  if checked.update.terminal then checked else operation checked.attempt

/-- An operation that is only for the holder of the handle. -/
def withHandle (candidate : AttemptHandle) (operation : Outcome) : Outcome :=
  if attempt.handleMatches candidate then operation
  else ⟨{ attempt.update with error := .stateViolation }, attempt, cache, []⟩

/-- The hello of the attempt itself. -/
def ownHello : Hello :=
  ⟨attempt.localRole, attempt.localNonce, attempt.localKey, attempt.options.offer⟩

/-- The attempt that keeps its own hello. -/
@[simps] def introduced : PairingAttempt :=
  { attempt with localHello := some attempt.ownHello }

/-- The attempt that has sent its hello. -/
@[simps] def greeting : PairingAttempt :=
  { attempt with
    state := .exchangingHellos
    firstFrameDeadlineMs := attempt.deadlineIn nowMs firstPairingFrameTimeoutMs
    selectionDeadlineMs := attempt.deadlineIn nowMs selectionTimeoutMs
    idleDeadlineMs := attempt.deadlineIn nowMs pairingIdleTimeoutMs
    lastNowMs := nowMs }

def start : Outcome :=
  attempt.afterDeadline env cache nowMs fun attempt =>
    if attempt.state ≠ .pairingTls then attempt.close cache .stateViolation
    else
      attempt.introduced.emit env cache
        (fun sequence => encodeHello sequence attempt.localRole attempt.localKey
          attempt.localNonce attempt.options.offer)
        fun attempt => attempt.greeting nowMs

/-- The error that an abort frame of the peer stands for. -/
def abortError : Nat → PairingError
  | 2 => .busy
  | 3 => .cancelled
  | 4 => .timeout
  | _ => .internalFailure

/-- The dispatch of `ReceiveFrame` on the type of the frame. -/
def dispatch : Outcome :=
  match frame.type with
  | .abort =>
    match decodeAbort frame with
    | .error error => attempt.close cache error
    | .ok code => attempt.close cache (abortError code)
  | .hello => attempt.receiveHello env cache frame nowMs
  | .select | .selectAck => attempt.receiveSelection env cache frame nowMs
  | .decision => attempt.receiveDecision env cache frame nowMs

/-- The attempt with one more frame on its inbound account. -/
@[simps] def charged (encoded : Bytes) : PairingAttempt :=
  { attempt with
    inboundFrames := attempt.inboundFrames + 1
    inboundBytes := attempt.inboundBytes + encoded.length }

/-- The attempt that expects the next inbound number. -/
@[simps] def counted : PairingAttempt :=
  { attempt with nextInboundSequence := attempt.nextInboundSequence + 1 }

def receiveFrame (encoded : Bytes) (nowMs : UInt64) : Outcome :=
  attempt.afterDeadline env cache nowMs fun attempt =>
    if attempt.state = .pairingTls then attempt.close cache .stateViolation
    else if attempt.inboundFrames = maxInboundPairingFrames ∨
        maxInboundPairingBytes - attempt.inboundBytes < encoded.length then
      attempt.close cache .limitExceeded
    else
      let attempt := attempt.charged encoded
      match Pairing.parseFrame env.storableFields encoded with
      | .error error => attempt.close cache error
      | .ok frame =>
        if frame.sequence ≠ attempt.nextInboundSequence ∨
            attempt.nextInboundSequence = (0xffffffff : UInt32) then
          attempt.close cache .sequenceViolation
        else
          attempt.counted.dispatch env cache frame nowMs

/-- The responder whose acknowledgement has been written. -/
@[simps] def ackReported : PairingAttempt :=
  { attempt with selectionAckPending := false, lastNowMs := nowMs }

def localSelectionAckWritten : Outcome :=
  attempt.afterDeadline env cache nowMs fun attempt =>
    attempt.withHandle cache handle <|
      if attempt.localRole ≠ .responder ∨ attempt.state ≠ .selecting ∨
          attempt.selectionAckPending = false then attempt.close cache .stateViolation
      else
        (attempt.ackReported nowMs).completeSelection env.unbounded cache nowMs

@[simps] def deciding : PairingAttempt :=
  { attempt with localDecision := some decision }

@[simps] def touched : PairingAttempt :=
  { attempt with lastNowMs := nowMs }

/-- The part of `Decide` that authenticates a decision and sends it. -/
def sendDecision : Outcome :=
  if env.memory .confirmation = false then attempt.close cache .limitExceeded
  else
    match buildConfirmation env.prims attempt.confirmationExporter context attempt.localRole
        decision with
    | .error error => attempt.close cache (mapSecurityError error)
    | .ok confirmation =>
      let sent := (attempt.deciding decision).emit env cache
        (fun sequence =>
          encodeDecision sequence ⟨confirmation.message, confirmation.authenticator⟩) id
      let issued : Outcome :=
        if sent.update.terminal = true then sent
        else if decision = .reject then
          let closed := sent.attempt.close cache .localReject
          { closed with update := { closed.update with
              outboundFrame := sent.update.outboundFrame } }
        else { sent with attempt := sent.attempt.touched nowMs }
      issued.after (.issue attempt.confirmationExporter confirmation)

def decide : Outcome :=
  attempt.afterDeadline env cache nowMs fun attempt =>
    attempt.withHandle cache handle <|
      match attempt.context with
      | none => attempt.close cache .stateViolation
      | some context =>
        if attempt.state ≠ .awaitingDecisions then attempt.close cache .stateViolation
        else
          match attempt.localDecision with
          | some previous =>
            let error := if previous ≠ decision then .alreadyDecided else .none
            ⟨{ attempt.update with error := error }, attempt, cache, []⟩
          | none =>
            if decision ≠ .reject ∧ decision ≠ .confirm then
              attempt.close cache .stateViolation
            else attempt.sendDecision env cache context decision nowMs

/-- The attempt whose decision has been written. -/
@[simps] def decisionReported : PairingAttempt :=
  { attempt with decisionWritten := true, lastNowMs := nowMs }

def localDecisionWritten : Outcome :=
  attempt.afterDeadline env cache nowMs fun attempt =>
    attempt.withHandle cache handle <|
      if attempt.state ≠ .awaitingDecisions ∨ attempt.localDecision ≠ some .confirm then
        attempt.close cache .stateViolation
      else
        (attempt.decisionReported nowMs).maybeCommit env.unbounded cache

def cancel : Outcome :=
  attempt.afterDeadline env cache nowMs fun attempt =>
    attempt.withHandle cache handle (withAbort env (attempt.close cache .cancelled) 3)

def advance : Outcome :=
  attempt.checkDeadline env cache nowMs

def shutdown : Outcome :=
  if attempt.state.terminal then attempt.keep cache else attempt.close cache .cancelled

end PairingAttempt

/-- The calls that can be made on an attempt. -/
inductive PairingCall
  | start (nowMs : UInt64)
  | receiveFrame (encoded : Bytes) (nowMs : UInt64)
  | localSelectionAckWritten (handle : AttemptHandle) (nowMs : UInt64)
  | decide (handle : AttemptHandle) (decision : ConfirmationDecision) (nowMs : UInt64)
  | localDecisionWritten (handle : AttemptHandle) (nowMs : UInt64)
  | cancel (handle : AttemptHandle) (nowMs : UInt64)
  | advance (nowMs : UInt64)
  | shutdown
  deriving DecidableEq, Repr

def PairingAttempt.call (env : PairingEnvironment) (attempt : PairingAttempt)
    (cache : ReplayCache) : PairingCall → Outcome
  | .start nowMs => attempt.start env cache nowMs
  | .receiveFrame encoded nowMs => attempt.receiveFrame env cache encoded nowMs
  | .localSelectionAckWritten handle nowMs =>
    attempt.localSelectionAckWritten env cache handle nowMs
  | .decide handle decision nowMs => attempt.decide env cache handle decision nowMs
  | .localDecisionWritten handle nowMs => attempt.localDecisionWritten env cache handle nowMs
  | .cancel handle nowMs => attempt.cancel env cache handle nowMs
  | .advance nowMs => attempt.advance env cache nowMs
  | .shutdown => attempt.shutdown cache

/-! ### Creation -/

/-- What `Create` reads from an admission lease. -/
structure AdmissionLease where
  active : Bool
  bound : Bool
  localRole : Role
  localKey : PublicKey
  peerKey : PublicKey
  admittedAtMs : UInt64
  windowDeadlineMs : UInt64
  deriving DecidableEq, Repr

/-- What `Create` takes from the repository, the source of randomness and the memory. -/
structure CreationEnvironment where
  prims : Primitives
  ready : Bool
  rootPublicKey : Option PublicKey
  handleEntropy : Option AttemptHandle
  nonceEntropy : Option Nonce256
  reservationMemory : Bool × Bool
  memory : Bool

/-- The update of a creation that failed. -/
def creationFailure (error : PairingError) : PairingUpdate :=
  { state := .closed, error := error, terminal := true }

/-- `Create` after the replay reservation has been made. -/
def PairingAttempt.createReserved (env : CreationEnvironment) (peerPublicKey localKey : PublicKey)
    (lease : AdmissionLease) (options : PairingAttemptOptions) (reservationId : UInt64)
    (cache : ReplayCache) : PairingUpdate × Option PairingAttempt × ReplayCache :=
  if env.memory = false then
    (creationFailure .limitExceeded, none, cache.release reservationId)
  else
    match env.handleEntropy, env.nonceEntropy with
    | some handle, some nonce =>
      if handle.allZero = true ∨ nonce.allZero = true then
        (creationFailure .internalFailure, none, cache.release reservationId)
      else
        ({ state := .pairingTls }, some
          { peerPublicKey := peerPublicKey
            replayReservation := some reservationId
            options := options
            localRole := lease.localRole
            handle := handle
            localNonce := nonce
            localKey := localKey
            absoluteDeadlineMs := min lease.windowDeadlineMs
              (checkedDeadline lease.admittedAtMs completePairingTimeoutMs)
            lastNowMs := lease.admittedAtMs }, cache)
    | _, _ => (creationFailure .internalFailure, none, cache.release reservationId)

def PairingAttempt.create (env : CreationEnvironment) (channel : Option PublicKey)
    (admission : Option AdmissionLease) (options : PairingAttemptOptions) (cache : ReplayCache) :
    PairingUpdate × Option PairingAttempt × ReplayCache :=
  match env.rootPublicKey, channel, admission with
  | some localPublicKey, some peerPublicKey, some lease =>
    if env.ready = false ∨ lease.active = false ∨ lease.bound = false then
      (creationFailure .busy, none, cache)
    else if maxDisplayLabelBytes < options.peerDisplayLabel.length ∨
        lease.windowDeadlineMs ≤ lease.admittedAtMs ∨
        checkedDeadline lease.admittedAtMs maximumPairingWindowMs < lease.windowDeadlineMs ∨
        validateOffer options.offer ≠ .none then
      (creationFailure .internalFailure, none, cache)
    else if validateEd25519PublicKey env.prims localPublicKey.val ≠ .ok localPublicKey ∨
        localPublicKey ≠ lease.localKey ∨ peerPublicKey ≠ lease.peerKey ∨
        localPublicKey = peerPublicKey then
      (creationFailure .certificateRejected, none, cache)
    else
      match cache.reserve env.reservationMemory lease.peerKey lease.admittedAtMs with
      | (none, cache) => (creationFailure .busy, none, cache)
      | (some reservationId, cache) =>
        createReserved env peerPublicKey localPublicKey lease options reservationId cache
  | _, _, _ => (creationFailure .busy, none, cache)

end XnnTransfer.Pairing
