import XnnTransfer.Transfer.Engine

/-!
# The sending engine

`OneFileSender` of `native/src/transfer/sender.cpp`.

## Implementation notes

Every public method runs under the object's mutex, so a call is one step. The
file source is present or absent (`sourceOpen`); what it reads is part of the
environment of the call.
-/

namespace XnnTransfer.Transfer

open Protocol Storage

structure Sender where
  context : TransferContext
  manifest : OneFileManifest
  sourceOpen : Bool := true
  state : TransferState := .created
  cancelOriginState : TransferState := .created
  manifestStage : Nat := 0
  fileBeginSent : Bool := false
  fileEndSent : Bool := false
  chunkSize : Nat := 0
  reservedCredit : Nat := 0
  availableCredit : Nat := 0
  unacknowledged : Nat := 0
  bytesSent : Nat := 0
  acknowledgedOffset : Nat := 0
  lastNowMs : Nat := 0
  manifestDeadlineMs : Nat := 0
  manifestProgressDeadlineMs : Nat := 0
  decisionDeadlineMs : Nat := 0
  acknowledgementDeadlineMs : Nat := 0
  dataDeadlineMs : Nat := 0
  streamReserved : Bool := false
  creditReserved : Bool := false
  cancellation : Cancellation := {}
  isShutdown : Bool := false
  terminal : TerminalRecord := {}

/-- `AllowedInbound` without its first three tests, at the state whose answers count. -/
def senderAnswerAllowed (state : TransferState) (type : MessageType) : Bool :=
  match state with
  | .awaitingDecision => type = .transferAccept || type = .transferReject
  | .sendingFile => type = .chunkAck
  | .awaitingFileCommit => type = .fileCommit
  | .completing => type = .transferCompleteAck
  | _ => false

def senderAllowedInbound (state : TransferState) (type : MessageType)
    (cancelOriginState : TransferState) : Bool :=
  if type = .error then true
  else if type = .cancel then state ≠ .created
  else if type = .cancelAck then state = .cancelling
  else if state = .cancelling then senderAnswerAllowed cancelOriginState type
  else senderAnswerAllowed state type

namespace Sender

variable (env : Environment) (s : Sender) (manifest : OneFileManifest) (sh : Shared)
  (frame : ParsedFrame) (nowMs : Nat)

def update : TransferUpdate := engineUpdate s.state s.terminal

/-- A call that only reports the present state. -/
def stay : Outcome Sender := ⟨s.update, s, sh⟩

variable (error : TransferError) (wireError : WireErrorCode) (connectionFatal : Bool)
  (code : WireErrorCode) (encoded : Bytes)

def rememberTerminal (retryable : Bool) : Sender :=
  { s with terminal := ⟨error, wireError, connectionFatal, retryable⟩ }

def releaseResources : Sender × Shared :=
  let s := { s with sourceOpen := false }
  let (s, sh) :=
    if s.creditReserved then
      ({ s with creditReserved := false, reservedCredit := 0 },
        { sh with credit := sh.credit.release .outbound s.reservedCredit })
    else (s, sh)
  if s.streamReserved then
    ({ s with streamReserved := false },
      { sh with credit := sh.credit.closeStream s.context.streamId })
  else (s, sh)

def fail : Outcome Sender :=
  let (s, sh) := s.releaseResources sh
  let s :=
    { s with cancellation := s.cancellation.clear, state := .failed }.rememberTerminal error
      wireError connectionFatal (wireErrorMayRetry wireError)
  let update :=
    { failureUpdate s.state error wireError connectionFatal with
      retryable := wireErrorMayRetry wireError }
  if connectionFatal = false ∧ wireError ≠ .none ∧ env.authorizedToReport = true then
    let (frame, ids) := encodeErrorFrame env.memoryToReport s.context sh.messageIds wireError
      update.retryable
    ⟨{ update with outboundFrame := frame.getD [] }, s, { sh with messageIds := ids }⟩
  else ⟨update, s, sh⟩

/-- `CancelTimeout`, which leaves `cancel_ack_failure_is_terminal` as it is. -/
def cancelTimeout : Outcome Sender :=
  let (s, sh) := s.releaseResources sh
  let s :=
    { s with
      cancellation :=
        { s.cancellation with
          framePending := false
          ackPending := false
          sent := false
          deadlineMs := 0 }
      state := .failed }.rememberTerminal .timeout .timeout false false
  let update := failureUpdate s.state .timeout .timeout false
  if env.authorizedToReport then
    let (frame, ids) := encodeErrorFrame env.memoryToReport s.context sh.messageIds .timeout false
    ⟨{ update with outboundFrame := frame.getD [] }, s, { sh with messageIds := ids }⟩
  else ⟨update, s, sh⟩

def observe : Option Sender :=
  if nowMs < s.lastNowMs then none else some { s with lastNowMs := nowMs }

/-- The conditions of `CheckTimeout` that end in `Fail`. -/
def deadlinePassed : Bool :=
  match s.state with
  | .sendingManifest =>
    deadlineReached nowMs s.manifestDeadlineMs || deadlineReached nowMs s.manifestProgressDeadlineMs
  | .awaitingDecision => deadlineReached nowMs s.decisionDeadlineMs
  | .sendingFile =>
    (s.unacknowledged ≠ 0 && deadlineReached nowMs s.acknowledgementDeadlineMs) ||
      deadlineReached nowMs s.dataDeadlineMs
  | .awaitingFileCommit | .completing => deadlineReached nowMs s.dataDeadlineMs
  | _ => false

def checkTimeout : Outcome Sender :=
  if s.deadlinePassed nowMs then s.fail env sh .timeout .timeout false
  else if s.state = .cancelling ∧ s.cancellation.sent = true ∧
      deadlineReached nowMs s.cancellation.deadlineMs = true then
    s.cancelTimeout env sh
  else s.stay sh

def offerFields : List FieldView :=
  [bytesField 1 manifest.transferId, u32Field 2 1, u64Field 3 manifest.fileSize,
    bytesField 4 manifest.manifestCommitment] ++
    if manifest.displayName = [] then [] else [utf8Field 5 manifest.displayName false]

def manifestEntryFields : List FieldView :=
  [bytesField 1 manifest.transferId, u32Field 2 0, u8Field 3 1,
    utf8Field 4 manifest.relativePath true, u64Field 5 manifest.fileSize,
    bytesField 6 manifest.fileCommitment]

def manifestEndFields : List FieldView :=
  [bytesField 1 manifest.transferId, u32Field 2 1, u64Field 3 manifest.fileSize,
    bytesField 4 manifest.manifestCommitment]

def fileBeginFields (chunkSize : Nat) : List FieldView :=
  [bytesField 1 manifest.transferId, u32Field 2 0, u64Field 3 manifest.fileSize,
    u32Field 4 chunkSize]

def fileEndFields : List FieldView :=
  [bytesField 1 manifest.transferId, u32Field 2 0, u64Field 3 manifest.fileSize,
    bytesField 4 manifest.fileCommitment]

def completeFields : List FieldView :=
  [bytesField 1 manifest.transferId, bytesField 2 manifest.manifestCommitment]

/-- The `Encode…` methods of the sender, which differ in the type and the fields. -/
def encode (type : MessageType) (fields : List FieldView) : Option Bytes × Shared :=
  let (frame, ids) := encodeFrame env.memory s.context type sh.messageIds (.ofFields fields)
  (frame, { sh with messageIds := ids })

def cancellationEncodingFailure : Outcome Sender :=
  if sh.messageIds.outboundExhausted then
    let s :=
      { s with
        cancellation :=
          { s.cancellation with framePending := false, ackPending := false, sent := false } }
    let (s, sh) := s.releaseResources sh
    ({ s with state := .cancelled }.rememberTerminal .messageIdViolation .messageIdViolation
      true false).stay sh
  else ⟨s.update.asEncodingBusy, s, sh⟩

def cancelAckEncodingFailure : Outcome Sender :=
  if sh.messageIds.outboundExhausted then
    let cleared := { s with cancellation := { s.cancellation with ackPending := false } }
    if s.cancellation.ackFailureIsTerminal then
      (cleared.rememberTerminal .messageIdViolation .messageIdViolation true false).stay sh
    else
      ⟨{ s.update with
          error := .messageIdViolation
          wireError := .messageIdViolation
          connectionFatal := true }, cleared, sh⟩
  else ⟨s.update.asEncodingBusy, s, sh⟩

def emitCancel : Outcome Sender :=
  let (frame, ids) := encodeCancelFrame env.memory s.context sh.messageIds s.manifest.transferId
  let sh := { sh with messageIds := ids }
  match frame with
  | none => s.cancellationEncodingFailure sh
  | some frame =>
    ⟨{ s.update with outboundFrame := frame },
      { s with
        cancellation :=
          { s.cancellation with
            framePending := false
            sent := true
            deadlineMs := checkedDeadline s.lastNowMs cancelAcknowledgementTimeoutMs } },
      sh⟩

def emitCancelAck : Outcome Sender :=
  let (frame, ids) := encodeCancelAckFrame env.memory s.context sh.messageIds
    s.manifest.transferId s.cancellation.pendingAckCode
  let sh := { sh with messageIds := ids }
  match frame with
  | none => s.cancelAckEncodingFailure sh
  | some frame =>
    ⟨{ s.update with outboundFrame := frame },
      { s with
        cancellation :=
          { s.cancellation with ackPending := false, ackFailureIsTerminal := false } },
      sh⟩

/-- `FinishCancelled` up to its update. -/
def finishCancelled : Sender × Shared :=
  let (s, sh) := { s with cancellation := s.cancellation.clear }.releaseResources sh
  ({ s with state := .cancelled }.rememberTerminal .cancelled .cancelled false false, sh)

def beginRemoteCancel : Outcome Sender :=
  let localCancelWasSent := s.cancellation.sent
  let (s, sh) := s.finishCancelled sh
  emitCancelAck env
    { s with
      cancellation :=
        { s.cancellation with
          sent := localCancelWasSent
          ackPending := true
          ackFailureIsTerminal := true
          pendingAckCode := .cancelled } }
    sh

/-- The state and the record in which a cancel acknowledgement ends the sender. -/
def cancelAckEnd : TransferState × TerminalRecord :=
  if code = .completed then (.completed, {})
  else if code = .cancelled then (.cancelled, ⟨.cancelled, .cancelled, false, false⟩)
  else if wireErrorIsRejectReason code then
    (.rejected, ⟨transferErrorForWire code, code, false, wireErrorMayRetry code⟩)
  else
    (.failed,
      ⟨transferErrorForWire code, code, wireErrorIsConnectionFatal code, wireErrorMayRetry code⟩)

def applyCancelAck : Outcome Sender :=
  let (s, sh) := { s with cancellation := s.cancellation.clear }.releaseResources sh
  { s with state := (cancelAckEnd code).1, terminal := (cancelAckEnd code).2 }.stay sh

def create (context : TransferContext) (manifest : OneFileManifest) (sourceSize : Option Nat)
    (sh : Shared) : TransferUpdate × Option Sender × Shared :=
  if validateContext context true = false ∨ env.authorized = false ∨
      allZero manifest.transferId = true ∨ maxFileBytes < manifest.fileSize ∨
      validCommitment manifest.fileCommitment = false ∨
      validCommitment manifest.manifestCommitment = false ∨
      255 < manifest.displayName.length ∨ sourceSize ≠ some manifest.fileSize ∨
      sh.credit.limitBytes = 0 ∨ context.limits.maximumInFlight < sh.credit.limitBytes ∨
      sh.credit.maximumStreams = 0 ∨
      context.limits.maximumActiveStreams < sh.credit.maximumStreams then
    (failureUpdate .failed .invalidArgument .invalidOffer false, none, sh)
  else
    match validateReceiveRequest env.unicode manifest.relativePath manifest.fileSize
        maxFileBytes with
    | .error _ => (failureUpdate .failed .invalidArgument .invalidManifest false, none, sh)
    | .ok _ =>
      if (encodeFrame env.memory context .transferOffer {}
          (.ofFields (offerFields manifest))).1 = none then
        (failureUpdate .failed .invalidArgument .invalidOffer false, none, sh)
      else
        let (opened, credit) :=
          sh.credit.tryOpenStream context.streamId true context.localRole
        let sh := { sh with credit := credit }
        if opened = false then (failureUpdate .failed .busy .busy false, none, sh)
        else if env.copies = 0 then
          (failureUpdate .failed .internalFailure .busy false, none,
            { sh with credit := sh.credit.closeStream context.streamId })
        else
          let s : Sender := { context := context, manifest := manifest, streamReserved := true }
          (s.update, some s, sh)

def start : Outcome Sender :=
  if isTerminal s.state then s.stay sh
  else
    match s.observe nowMs with
    | none => s.fail env sh .stateViolation .stateViolation false
    | some s =>
      if s.state ≠ .created then s.fail env sh .stateViolation .stateViolation false
      else if env.authorized = false then s.fail env sh .unauthenticated .none true
      else
        match s.encode env sh .transferOffer (offerFields s.manifest) with
        | (none, sh) => s.fail env sh .internalFailure .busy false
        | (some frame, sh) =>
          ⟨{ state := .sendingManifest, outboundFrame := frame },
            { s with
              state := .sendingManifest
              manifestDeadlineMs := checkedDeadline nowMs manifestTimeoutMs
              manifestProgressDeadlineMs :=
                checkedDeadline nowMs manifestProgressTimeoutMs },
            sh⟩

/-- The manifest branch of `NextOutbound`. -/
def nextManifest : Outcome Sender :=
  if s.manifestStage = 0 then
    match s.encode env sh .manifestEntry (manifestEntryFields s.manifest) with
    | (none, sh) => s.fail env sh .internalFailure .busy false
    | (some frame, sh) =>
      ⟨{ s.update with outboundFrame := frame },
        { s with
          manifestStage := s.manifestStage + 1
          manifestProgressDeadlineMs := checkedDeadline nowMs manifestProgressTimeoutMs },
        sh⟩
  else if s.manifestStage = 1 then
    match s.encode env sh .manifestEnd (manifestEndFields s.manifest) with
    | (none, sh) => s.fail env sh .internalFailure .busy false
    | (some frame, sh) =>
      ⟨{ s.update with outboundFrame := frame, state := .awaitingDecision },
        { s with
          manifestStage := s.manifestStage + 1
          state := .awaitingDecision
          decisionDeadlineMs := checkedDeadline nowMs decisionTimeoutMs },
        sh⟩
  else s.fail env sh .internalFailure .busy false

/-- The chunk branch of `NextOutbound`. -/
def nextChunk : Outcome Sender :=
  let remaining := s.manifest.fileSize - s.bytesSent
  let wanted := min s.chunkSize remaining
  if s.availableCredit < wanted then s.stay sh
  else
    let read := env.read s.bytesSent wanted
    if read.ok = false ∨ read.data.length ≠ wanted then
      s.fail env sh .sourceFailure .ioFailure false
    else
      match env.buildChunkCommitment s.manifest.transferId 0 s.bytesSent read.data with
      | none => s.fail env sh .internalFailure .integrityFailed false
      | some commitment =>
        if validCommitment commitment = false then
          s.fail env sh .internalFailure .integrityFailed false
        else
          match encodeFileChunkFrame env.memory s.context sh.messageIds s.manifest.transferId
              s.bytesSent read.data commitment with
          | (none, ids) =>
            s.fail env { sh with messageIds := ids } .internalFailure .busy false
          | (some frame, ids) =>
            ⟨{ s.update with outboundFrame := frame },
              { s with
                bytesSent := s.bytesSent + wanted
                availableCredit := s.availableCredit - wanted
                unacknowledged := add64 s.unacknowledged wanted
                acknowledgementDeadlineMs :=
                  if s.unacknowledged = 0 then
                    checkedDeadline nowMs acknowledgementTimeoutMs
                  else s.acknowledgementDeadlineMs
                dataDeadlineMs := checkedDeadline nowMs dataProgressTimeoutMs },
              { sh with messageIds := ids }⟩

/-- The file branch of `NextOutbound`. -/
def nextFile : Outcome Sender :=
  if s.fileBeginSent = false then
    match s.encode env sh .fileBegin (fileBeginFields s.manifest s.chunkSize) with
    | (none, sh) => s.fail env sh .internalFailure .busy false
    | (some frame, sh) =>
      ⟨{ s.update with outboundFrame := frame }, { s with fileBeginSent := true }, sh⟩
  else if s.bytesSent < s.manifest.fileSize then s.nextChunk env sh nowMs
  else if s.unacknowledged = 0 ∧ s.fileEndSent = false then
    match s.encode env sh .fileEnd (fileEndFields s.manifest) with
    | (none, sh) => s.fail env sh .internalFailure .busy false
    | (some frame, sh) =>
      ⟨{ s.update with outboundFrame := frame, state := .awaitingFileCommit },
        { s with
          fileEndSent := true
          state := .awaitingFileCommit
          dataDeadlineMs := checkedDeadline nowMs dataProgressTimeoutMs },
        sh⟩
  else s.stay sh

def nextOutbound : Outcome Sender :=
  if s.isShutdown then s.stay sh
  else if isTerminal s.state = true ∧ s.cancellation.ackPending = false then s.stay sh
  else
    match s.observe nowMs with
    | none =>
      if isTerminal s.state then ⟨s.update.asStateViolation, s, sh⟩
      else s.fail env sh .stateViolation .stateViolation false
    | some s =>
      if env.authorized = false then
        if isTerminal s.state then
          ⟨{ s.update with error := .unauthenticated, connectionFatal := true },
            { s with cancellation := { s.cancellation with ackPending := false } }, sh⟩
        else s.fail env sh .unauthenticated .none true
      else if s.cancellation.ackPending then s.emitCancelAck env sh
      else if isTerminal s.state then s.stay sh
      else
        unlessTimeout (s.checkTimeout env sh nowMs) fun s sh =>
          if s.state = .cancelling then
            if s.cancellation.framePending then s.emitCancel env sh else s.stay sh
          else if s.state = .sendingManifest then s.nextManifest env sh nowMs
          else if s.state ≠ .sendingFile then s.stay sh
          else s.nextFile env sh nowMs

/-- The terminal branch of `ReceiveFrame`. -/
def receiveTerminal : Outcome Sender :=
  let (parsed, ids) := parseInbound env.authorized s.context sh.messageIds encoded
  let sh := { sh with messageIds := ids }
  let update := { s.update with retryable := false, connectionFatal := false }
  let refuse (refusal : Refusal) : Outcome Sender :=
    ⟨{ update with
        error := refusal.error
        wireError := refusal.wireError
        connectionFatal := refusal.connectionFatal }, s, sh⟩
  match parsed.bind parseBody with
  | .error refusal => refuse refusal
  | .ok frame =>
    let code := decodeWireError (unsigned frame 2)
    if readTransferId frame ≠ some s.manifest.transferId then
      ⟨{ update with error := .idempotencyConflict, wireError := .idempotencyConflict }, s, sh⟩
    else if frame.header.messageType = .cancel ∧ code = some .cancelled then
      emitCancelAck env
        { s with
          cancellation :=
            { s.cancellation with
              ackFailureIsTerminal :=
                s.cancellation.ackPending && s.cancellation.ackFailureIsTerminal
              ackPending := true
              pendingAckCode := cachedTerminalCode s.state s.terminal } }
        sh
    else
      match frame.header.messageType, s.cancellation.sent, code with
      | .cancelAck, true, some code => s.applyCancelAck sh code
      | _, _, _ => ⟨update.asStateViolation, s, sh⟩

def receiveError : Outcome Sender :=
  match readErrorReport frame with
  | none => s.fail env sh .malformedMessage .malformedMessage false
  | some report =>
    let (s, sh) := s.releaseResources sh
    ({ s with state := .failed }.rememberTerminal (transferErrorForWire report.wireError)
      report.wireError (wireErrorIsConnectionFatal report.wireError) report.retryable).stay sh

def receiveCancel : Outcome Sender :=
  if decodeWireError (unsigned frame 2) ≠ some .cancelled then
    s.fail env sh .malformedMessage .malformedMessage false
  else s.beginRemoteCancel env sh

def receiveCancelAck : Outcome Sender :=
  match s.cancellation.sent, decodeWireError (unsigned frame 2) with
  | true, some code => s.applyCancelAck sh code
  | _, _ => s.fail env sh .malformedMessage .malformedMessage false

/-- An answer that arrives while the sender is cancelling. -/
def receiveWhileCancelling : Outcome Sender :=
  if s.cancelOriginState = .completing then
    if frame.header.messageType ≠ .transferCompleteAck ∨
        fieldBytes frame 2 ≠ s.manifest.manifestCommitment then
      ⟨s.update.asStateViolation, s, sh⟩
    else
      let s :=
        { s with
          state := .completed
          cancellation :=
            { s.cancellation with framePending := false, sent := false, deadlineMs := 0 } }
          |>.rememberTerminal .none .none false false
      let (s, sh) := s.releaseResources sh
      s.stay sh
  else s.stay sh

def receiveReject : Outcome Sender :=
  let retryable : Bool := unsigned frame 3 ≠ 0
  match decodeWireError (unsigned frame 2) with
  | none => s.fail env sh .malformedMessage .malformedMessage false
  | some wireError =>
    if wireErrorIsRejectReason wireError = false ∨
        (retryable = true ∧ wireErrorMayRetry wireError = false) ∨
        ((fieldOf frame 4).isSome = true ∧ 60000 < unsigned frame 4) then
      s.fail env sh .malformedMessage .malformedMessage false
    else
      let (s, sh) := s.releaseResources sh
      ({ s with state := .rejected }.rememberTerminal (transferErrorForWire wireError)
        wireError false retryable).stay sh

/-- The bounds both ends put on a chunk size and a window. -/
def windowRefused (limits : TransferLimits) (chunk window : Nat) : Prop :=
  chunk < minimumChunkSize ∨ maximumChunkSize < chunk ∨
    limits.maximumBody ≤ maximumChunkBodyOverhead ∨
    limits.maximumBody - maximumChunkBodyOverhead < chunk ∨
    window < chunk ∨ maximumTransferWindow < window ∨ limits.maximumInFlight < window

instance (limits : TransferLimits) (chunk window : Nat) :
    Decidable (windowRefused limits chunk window) := by
  unfold windowRefused
  infer_instance

def receiveAccept : Outcome Sender :=
  if frame.header.messageType ≠ .transferAccept ∨ (fieldOf frame 4).isSome = true ∨
      (fieldOf frame 5).isSome = true then
    s.fail env sh .stateViolation .stateViolation false
  else
    let selectedChunk := unsigned frame 2
    let selectedWindow := unsigned frame 3
    if windowRefused s.context.limits selectedChunk selectedWindow then
      s.fail env sh .limitExceeded .limitExceeded false
    else
      let (reserved, credit) := sh.credit.tryReserve .outbound selectedWindow
      let sh := { sh with credit := credit }
      if reserved = false then s.fail env sh .busy .busy false
      else
        { s with
          chunkSize := selectedChunk
          reservedCredit := selectedWindow
          availableCredit := selectedWindow
          creditReserved := true
          state := .sendingFile
          dataDeadlineMs := checkedDeadline nowMs dataProgressTimeoutMs }.stay sh

def receiveChunkAck : Outcome Sender :=
  let nextOffset := unsigned frame 3
  let increment := unsigned frame 4
  if frame.header.messageType ≠ .chunkAck ∨ unsigned frame 2 ≠ 0 then
    s.fail env sh .stateViolation .stateViolation false
  else if nextOffset < s.acknowledgedOffset ∨ s.bytesSent < nextOffset ∨
      (nextOffset = s.acknowledgedOffset ∧ increment = 0) then
    s.fail env sh .stateViolation .stateViolation false
  else
    let newlyAcknowledged := nextOffset - s.acknowledgedOffset
    if s.unacknowledged < newlyAcknowledged ∨ maxU32 < increment then
      s.fail env sh .limitExceeded .limitExceeded false
    else
      let newUnacknowledged := s.unacknowledged - newlyAcknowledged
      let newAvailable := s.availableCredit + increment
      let newReservation := add64 newAvailable newUnacknowledged
      if maximumTransferWindow < newReservation ∨ maxU32 < newlyAcknowledged then
        s.fail env sh .limitExceeded .limitExceeded false
      else
        let (adjusted, credit) := sh.credit.tryAdjust .outbound newlyAcknowledged increment
        let sh := { sh with credit := credit }
        if adjusted = false then s.fail env sh .limitExceeded .limitExceeded false
        else
          { s with
            acknowledgedOffset := nextOffset
            unacknowledged := newUnacknowledged
            availableCredit := newAvailable % 2 ^ 32
            reservedCredit := newReservation % 2 ^ 32
            acknowledgementDeadlineMs :=
              if newlyAcknowledged = 0 then s.acknowledgementDeadlineMs
              else if newUnacknowledged = 0 then 0
              else checkedDeadline nowMs acknowledgementTimeoutMs
            dataDeadlineMs := checkedDeadline nowMs dataProgressTimeoutMs }.stay sh

def receiveFileCommit : Outcome Sender :=
  if frame.header.messageType ≠ .fileCommit ∨ unsigned frame 2 ≠ 0 ∨
      unsigned frame 3 ≠ s.manifest.fileSize then
    s.fail env sh .stateViolation .stateViolation false
  else
    match s.encode env sh .transferComplete (completeFields s.manifest) with
    | (none, sh) => s.fail env sh .internalFailure .busy false
    | (some frame, sh) =>
      ⟨{ state := .completing, outboundFrame := frame },
        { s with
          state := .completing
          dataDeadlineMs := checkedDeadline nowMs dataProgressTimeoutMs },
        sh⟩

def receiveCompleteAck : Outcome Sender :=
  if frame.header.messageType ≠ .transferCompleteAck ∨
      fieldBytes frame 2 ≠ s.manifest.manifestCommitment then
    s.fail env sh .stateViolation .stateViolation false
  else
    let (s, sh) :=
      ({ s with state := .completed }.rememberTerminal .none .none false false).releaseResources sh
    s.stay sh

/-- `ReceiveFrame` from the point where the body is parsed. -/
def receiveBody : Outcome Sender :=
  if frame.header.messageType = .error then s.receiveError env sh frame
  else if readTransferId frame = none then
    s.fail env sh .malformedMessage .malformedMessage false
  else if readTransferId frame ≠ some s.manifest.transferId then
    s.fail env sh .idempotencyConflict .idempotencyConflict false
  else if frame.header.messageType = .cancel then s.receiveCancel env sh frame
  else if frame.header.messageType = .cancelAck then s.receiveCancelAck env sh frame
  else
    match s.state with
    | .cancelling => s.receiveWhileCancelling sh frame
    | .awaitingDecision =>
      if frame.header.messageType = .transferReject then s.receiveReject env sh frame
      else s.receiveAccept env sh frame nowMs
    | .sendingFile => s.receiveChunkAck env sh frame nowMs
    | .awaitingFileCommit => s.receiveFileCommit env sh frame nowMs
    | .completing => s.receiveCompleteAck env sh frame
    | _ => s.fail env sh .stateViolation .stateViolation false

def receiveFrame (nowMs : Nat) : Outcome Sender :=
  if s.isShutdown then s.stay sh
  else if isTerminal s.state then s.receiveTerminal env sh encoded
  else
    match s.observe nowMs with
    | none => s.fail env sh .stateViolation .stateViolation false
    | some s =>
      let (parsed, ids) := parseInbound env.authorized s.context sh.messageIds encoded
      let sh := { sh with messageIds := ids }
      match parsed with
      | .error refusal =>
        s.fail env sh refusal.error refusal.wireError refusal.connectionFatal
      | .ok frame =>
        unlessTimeout (s.checkTimeout env sh nowMs) fun s sh =>
          if senderAllowedInbound s.state frame.header.messageType s.cancelOriginState =
              false then
            s.fail env sh .stateViolation .stateViolation false
          else
            match parseBody frame with
            | .error refusal =>
              s.fail env sh refusal.error refusal.wireError refusal.connectionFatal
            | .ok frame => s.receiveBody env sh frame nowMs

def advance : Outcome Sender :=
  if isTerminal s.state then s.stay sh
  else
    match s.observe nowMs with
    | none => s.fail env sh .stateViolation .stateViolation false
    | some s =>
      if env.authorized = false then s.fail env sh .unauthenticated .none true
      else s.checkTimeout env sh nowMs

def cancel : Outcome Sender :=
  if isTerminal s.state then s.stay sh
  else if s.state = .cancelling then s.stay sh
  else
    match s.observe nowMs with
    | none => s.fail env sh .stateViolation .stateViolation false
    | some s =>
      let s := { s with sourceOpen := false }
      if s.state = .created ∨ env.authorized = false then
        let (s, sh) := s.finishCancelled sh
        s.stay sh
      else
        emitCancel env
          ({ s with
              cancelOriginState := s.state
              state := .cancelling
              cancellation := { s.cancellation with framePending := true, ackPending := false }
            }.rememberTerminal .none .none false false)
          sh

def shutdown : Outcome Sender :=
  let s := { s with isShutdown := true, cancellation := s.cancellation.clear }
  if isTerminal s.state then s.stay sh
  else
    let (s, sh) := s.finishCancelled sh
    s.stay sh

end Sender

end XnnTransfer.Transfer
