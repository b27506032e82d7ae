import XnnTransfer.Transfer.Sender

/-!
# The receiving engine

`OneFileReceiver` of `native/src/transfer/receiver.cpp`.

## Implementation notes

`log` is not a field of the source. It records, in order, the calls of `Accept`
with the state they found, the questions put to the integrity provider and the
calls the transaction made to the platform and to the file verifier.
-/

namespace XnnTransfer.Transfer

open Protocol Storage

inductive LogEntry
  | accept (state : TransferState)
  | verifyManifest (input : ManifestVerificationInput) (ok : Bool)
  | verifyChunk (offset : Nat) (data commitment : Bytes) (ok : Bool)
  | storage (call : StorageCall)
  deriving DecidableEq, Repr

structure Receiver where
  context : TransferContext
  state : TransferState := .created
  cancelOriginState : TransferState := .created
  manifest : OneFileManifest := {}
  request : Option ValidatedReceiveRequest := none
  transaction : Option ReceiveTransaction := none
  rawOfferFrame : Bytes := []
  rawEntryFrame : Bytes := []
  rawEndFrame : Bytes := []
  chunkSize : Nat := 0
  initialWindow : Nat := 0
  availableCredit : Nat := 0
  lastChunkSize : Nat := 0
  nextOffset : Nat := 0
  lastAckEncodedOffset : Nat := 0
  lastAckWrittenOffset : Nat := 0
  lastNowMs : Nat := 0
  manifestDeadlineMs : Nat := 0
  manifestProgressDeadlineMs : Nat := 0
  decisionDeadlineMs : Nat := 0
  dataDeadlineMs : Nat := 0
  manifestEntryReceived : Bool := false
  fileBeginReceived : Bool := false
  fileCommitSent : Bool := false
  completionAckPending : Bool := false
  pendingReject : Bool := false
  streamReserved : Bool := false
  creditReserved : Bool := false
  cancellation : Cancellation := {}
  isShutdown : Bool := false
  pendingRejectError : TransferError := .none
  pendingRejectCode : WireErrorCode := .none
  pendingRejectRetryable : Bool := false
  terminal : TerminalRecord := {}
  log : List LogEntry := []

variable (result : TransactionResult) (state : TransferState) (type : MessageType)
  (manifestEntryReceived fileBeginReceived : Bool)

def transferErrorForTransaction : TransferError :=
  match result.error with
  | .none => .none
  | .temporaryBudgetExceeded => .busy
  | .noSpace => .noSpace
  | .integrityFailed => .integrityFailed
  | _ => .ioFailure

def wireErrorForTransaction : WireErrorCode :=
  match result.error with
  | .temporaryBudgetExceeded => .busy
  | .noSpace => .noSpace
  | .integrityFailed => .integrityFailed
  | .none => .none
  | _ => .ioFailure

def localRejectCode (code : WireErrorCode) : Bool :=
  code = .policyRejected || code = .noSpace || code = .busy || code = .ioFailure

/-- The frames of the manifest and of the file that a receiving state takes. -/
def receiverDataAllowed : Bool :=
  match state with
  | .receivingManifest =>
    if manifestEntryReceived then type = .manifestEnd else type = .manifestEntry
  | .receivingFile =>
    if fileBeginReceived then type = .fileChunk || type = .fileEnd else type = .fileBegin
  | _ => false

def receiverAllowedInbound (cancelOriginState : TransferState) : Bool :=
  if type = .error then true
  else if type = .cancel then state ≠ .created
  else if type = .cancelAck then state = .cancelling
  else
    match state with
    | .cancelling =>
      receiverDataAllowed cancelOriginState type manifestEntryReceived fileBeginReceived
    | .created => type = .transferOffer
    | .awaitingCompletion => type = .transferComplete
    | state => receiverDataAllowed state type manifestEntryReceived fileBeginReceived

namespace Receiver

variable (env : Environment) (r : Receiver) (sh : Shared) (error : TransferError)
  (wireError code : WireErrorCode) (retryable : Bool) (frame : ParsedFrame) (nowMs : Nat)

def update : TransferUpdate := engineUpdate r.state r.terminal

/-- A call that only reports the present state. -/
def stay : Outcome Receiver := ⟨r.update, r, sh⟩

def rememberTerminal (connectionFatal retryable : Bool) : Receiver :=
  { r with terminal := ⟨error, wireError, connectionFatal, retryable⟩ }

def releaseCredit : Receiver × Shared :=
  if r.creditReserved then
    ({ r with creditReserved := false },
      { sh with credit := sh.credit.release .inbound r.initialWindow })
  else (r, sh)

def releaseStream : Receiver × Shared :=
  if r.streamReserved then
    ({ r with streamReserved := false },
      { sh with credit := sh.credit.closeStream r.context.streamId })
  else (r, sh)

/-- `ReleaseCredit` followed by `ReleaseStream`. -/
def releaseBoth : Receiver × Shared :=
  let (r, sh) := r.releaseCredit sh
  r.releaseStream sh

/-- Take over what a transaction method left behind. -/
def applyStep (step : TransactionStep) : Receiver × Shared :=
  ({ r with
      transaction := some step.transaction
      log := r.log ++ step.calls.map .storage },
    { sh with temporaryBudget := step.budget })

def abortTransaction : Receiver × Shared :=
  match r.transaction with
  | none => (r, sh)
  | some tx => r.applyStep sh (tx.abort env.toBackend sh.temporaryBudget)

def durableCommit : Bool :=
  match r.transaction with
  | none => false
  | some tx => tx.state = .committed

def fail (connectionFatal : Bool) : Outcome Receiver :=
  let durable := r.durableCommit
  let (r, sh) := if durable then (r, sh) else r.abortTransaction env sh
  let (r, sh) := r.releaseBoth sh
  let r :=
    { r with
      cancellation := r.cancellation.clear
      state := if durable then .committed else .failed }.rememberTerminal error wireError
        connectionFatal (wireErrorMayRetry wireError)
  let update :=
    { failureUpdate r.state error wireError connectionFatal with
      retryable := wireErrorMayRetry wireError }
  if connectionFatal = false ∧ wireError ≠ .none ∧ env.authorizedToReport = true then
    let (frame, ids) := encodeErrorFrame env.memoryToReport r.context sh.messageIds wireError
      update.retryable
    ⟨{ update with outboundFrame := frame.getD [] }, r, { sh with messageIds := ids }⟩
  else ⟨update, r, sh⟩

/-- `CancelTimeout`, which leaves `cancel_ack_failure_is_terminal` as it is. -/
def cancelTimeout : Outcome Receiver :=
  let (r, sh) := r.abortTransaction env sh
  let (r, sh) := r.releaseBoth sh
  let r :=
    { r with
      cancellation :=
        { r.cancellation with
          framePending := false
          ackPending := false
          sent := false
          deadlineMs := 0 }
      state := .failed }.rememberTerminal .timeout .timeout false false
  let update := failureUpdate r.state .timeout .timeout false
  if env.authorizedToReport then
    let (frame, ids) := encodeErrorFrame env.memoryToReport r.context sh.messageIds .timeout false
    ⟨{ update with outboundFrame := frame.getD [] }, r, { sh with messageIds := ids }⟩
  else ⟨update, r, sh⟩

def observe : Option Receiver :=
  if nowMs < r.lastNowMs then none else some { r with lastNowMs := nowMs }

/-- The conditions of `CheckTimeout` that end in `Fail`. -/
def deadlinePassed : Bool :=
  match r.state with
  | .receivingManifest =>
    deadlineReached nowMs r.manifestDeadlineMs || deadlineReached nowMs r.manifestProgressDeadlineMs
  | .awaitingDecision => deadlineReached nowMs r.decisionDeadlineMs
  | .rejecting | .receivingFile | .awaitingCompletion => deadlineReached nowMs r.dataDeadlineMs
  | _ => false

def checkTimeout : Outcome Receiver :=
  if r.deadlinePassed nowMs then r.fail env sh .timeout .timeout false
  else if r.state = .cancelling ∧ r.cancellation.sent = true ∧
      deadlineReached nowMs r.cancellation.deadlineMs = true then
    r.cancelTimeout env sh
  else r.stay sh

def acceptFields : List FieldView :=
  [bytesField 1 r.manifest.transferId, u32Field 2 r.chunkSize, u32Field 3 r.initialWindow]

def rejectFields : List FieldView :=
  [bytesField 1 r.manifest.transferId, u16Field 2 code.code, boolField 3 retryable true]

def chunkAckFields : List FieldView :=
  [bytesField 1 r.manifest.transferId, u32Field 2 0, u64Field 3 r.nextOffset,
    u32Field 4 r.lastChunkSize]

def fileCommitFields : List FieldView :=
  [bytesField 1 r.manifest.transferId, u32Field 2 0, u64Field 3 r.manifest.fileSize]

def completeAckFields : List FieldView :=
  [bytesField 1 r.manifest.transferId, bytesField 2 r.manifest.manifestCommitment]

/-- The `Encode…` methods of the receiver, which differ in the type and the fields. -/
def encode (type : MessageType) (fields : List FieldView) : Option Bytes × Shared :=
  let (frame, ids) := encodeFrame env.memory r.context type sh.messageIds (.ofFields fields)
  (frame, { sh with messageIds := ids })

def cancellationEncodingFailure : Outcome Receiver :=
  if sh.messageIds.outboundExhausted then
    let r :=
      { r with
        cancellation :=
          { r.cancellation with framePending := false, ackPending := false, sent := false } }
    let (r, sh) := r.releaseBoth sh
    ({ r with state := .cancelled }.rememberTerminal .messageIdViolation .messageIdViolation
      true false).stay sh
  else ⟨r.update.asEncodingBusy, r, sh⟩

def cancelAckEncodingFailure : Outcome Receiver :=
  if sh.messageIds.outboundExhausted then
    let cleared := { r with cancellation := { r.cancellation with ackPending := false } }
    if r.cancellation.ackFailureIsTerminal then
      (cleared.rememberTerminal .messageIdViolation .messageIdViolation true false).stay sh
    else
      ⟨{ r.update with
          error := .messageIdViolation
          wireError := .messageIdViolation
          connectionFatal := true }, cleared, sh⟩
  else ⟨r.update.asEncodingBusy, r, sh⟩

def emitCancel : Outcome Receiver :=
  let (frame, ids) := encodeCancelFrame env.memory r.context sh.messageIds r.manifest.transferId
  let sh := { sh with messageIds := ids }
  match frame with
  | none => r.cancellationEncodingFailure sh
  | some frame =>
    ⟨{ r.update with outboundFrame := frame },
      { r with
        cancellation :=
          { r.cancellation with
            framePending := false
            sent := true
            deadlineMs := checkedDeadline r.lastNowMs cancelAcknowledgementTimeoutMs } },
      sh⟩

def emitCancelAck : Outcome Receiver :=
  let (frame, ids) := encodeCancelAckFrame env.memory r.context sh.messageIds
    r.manifest.transferId r.cancellation.pendingAckCode
  let sh := { sh with messageIds := ids }
  match frame with
  | none => r.cancelAckEncodingFailure sh
  | some frame =>
    ⟨{ r.update with outboundFrame := frame },
      { r with
        cancellation :=
          { r.cancellation with ackPending := false, ackFailureIsTerminal := false } },
      sh⟩

/-- `FinishCancelled` up to its update. -/
def finishCancelled : Receiver × Shared :=
  let (r, sh) := { r with cancellation := r.cancellation.clear }.abortTransaction env sh
  let (r, sh) := r.releaseBoth sh
  ({ r with state := .cancelled }.rememberTerminal .cancelled .cancelled false false, sh)

/-- `FinishCommitted` up to its update. -/
def finishCommitted : Receiver × Shared :=
  let (r, sh) := { r with cancellation := r.cancellation.clear }.releaseBoth sh
  ({ r with state := .committed }.rememberTerminal .none .none false false, sh)

def beginRemoteCancel : Outcome Receiver :=
  let localCancelWasSent := r.cancellation.sent
  let committed := r.durableCommit
  let (r, sh) := if committed then r.finishCommitted sh else r.finishCancelled env sh
  emitCancelAck env
    { r with
      cancellation :=
        { r.cancellation with
          sent := localCancelWasSent
          ackPending := true
          ackFailureIsTerminal := true
          pendingAckCode := if committed then .completed else .cancelled } }
    sh

def applyCancelAck : Outcome Receiver :=
  let (r, sh) := { r with cancellation := r.cancellation.clear }.releaseBoth sh
  if code = .completed then
    if r.durableCommit = false then
      let (r, sh) := r.abortTransaction env sh
      ({ r with state := .failed }.rememberTerminal .stateViolation .stateViolation false
        false).stay sh
    else ({ r with state := .completed }.rememberTerminal .none .none false false).stay sh
  else
    let (r, sh) := r.abortTransaction env sh
    { r with
      state := (Sender.cancelAckEnd code).1
      terminal := (Sender.cancelAckEnd code).2 }.stay sh

def pendingEncodingFailure : Outcome Receiver :=
  if sh.messageIds.outboundExhausted then
    r.fail env sh .messageIdViolation .messageIdViolation true
  else ⟨r.update.asEncodingBusy, r, sh⟩

def emitPendingReject : Outcome Receiver :=
  match r.encode env sh .transferReject
      (r.rejectFields r.pendingRejectCode r.pendingRejectRetryable) with
  | (none, sh) => r.pendingEncodingFailure env sh
  | (some frame, sh) =>
    let (released, sh) :=
      ({ r with state := .rejected }.rememberTerminal r.pendingRejectError
        r.pendingRejectCode false r.pendingRejectRetryable).releaseStream sh
    ⟨{ r.update with
        outboundFrame := frame
        state := .rejected
        error := r.pendingRejectError
        wireError := r.pendingRejectCode
        terminal := true
        retryable := r.pendingRejectRetryable },
      { released with pendingReject := false }, sh⟩

def beginReject : Outcome Receiver :=
  let (r, sh) := r.abortTransaction env sh
  let (r, sh) := r.releaseCredit sh
  emitPendingReject env
    { r with
      state := .rejecting
      pendingReject := true
      pendingRejectError := error
      pendingRejectCode := wireError
      pendingRejectRetryable := retryable
      dataDeadlineMs := checkedDeadline nowMs dataProgressTimeoutMs }
    sh

def emitPendingFileCommit : Outcome Receiver :=
  match r.encode env sh .fileCommit r.fileCommitFields with
  | (none, sh) => r.pendingEncodingFailure env sh
  | (some frame, sh) =>
    ⟨{ r.update with outboundFrame := frame }, { r with fileCommitSent := true }, sh⟩

def emitPendingCompletionAck : Outcome Receiver :=
  match r.encode env sh .transferCompleteAck r.completeAckFields with
  | (none, sh) => r.pendingEncodingFailure env sh
  | (some frame, sh) =>
    let (released, sh) := { r with completionAckPending := false }.releaseBoth sh
    ⟨{ r.update with outboundFrame := frame, state := .completed, terminal := true },
      { released with state := .completed }.rememberTerminal .none .none false false, sh⟩

def rejectForStorage (result : TransactionResult) (nowMs : Nat) : Outcome Receiver :=
  let error := transferErrorForTransaction result
  let wireError := wireErrorForTransaction result
  let retryable := wireError = .busy || wireError = .noSpace || wireError = .ioFailure
  if wireErrorIsRejectReason wireError = false then r.fail env sh error wireError false
  else r.beginReject env sh error wireError retryable nowMs

def create (context : TransferContext) (sh : Shared) : TransferUpdate × Option Receiver :=
  if validateContext context false = false ∨ env.authorized = false ∨
      sh.credit.limitBytes = 0 ∨ context.limits.maximumInFlight < sh.credit.limitBytes ∨
      sh.credit.maximumStreams = 0 ∨
      context.limits.maximumActiveStreams < sh.credit.maximumStreams then
    (failureUpdate .failed .invalidArgument .invalidOffer false, none)
  else if env.copies = 0 then (failureUpdate .failed .internalFailure .busy false, none)
  else
    let r : Receiver := { context := context }
    (r.update, some r)

/-- The terminal branch of `ReceiveFrame`. -/
def receiveTerminal (encoded : Bytes) : Outcome Receiver :=
  let (parsed, ids) := parseInbound env.authorized r.context sh.messageIds encoded
  let sh := { sh with messageIds := ids }
  let update := { r.update with retryable := false, connectionFatal := false }
  let refuse (refusal : Refusal) : Outcome Receiver :=
    ⟨{ update with
        error := refusal.error
        wireError := refusal.wireError
        connectionFatal := refusal.connectionFatal }, r, sh⟩
  match parsed.bind parseBody with
  | .error refusal => refuse refusal
  | .ok frame =>
    let code := decodeWireError (unsigned frame 2)
    if readTransferId frame ≠ some r.manifest.transferId then
      ⟨{ update with error := .idempotencyConflict, wireError := .idempotencyConflict }, r, sh⟩
    else if frame.header.messageType = .cancel ∧ code = some .cancelled then
      emitCancelAck env
        { r with
          cancellation :=
            { r.cancellation with
              ackFailureIsTerminal :=
                r.cancellation.ackPending && r.cancellation.ackFailureIsTerminal
              ackPending := true
              pendingAckCode := cachedTerminalCode r.state r.terminal } }
        sh
    else
      match frame.header.messageType, r.cancellation.sent, code with
      | .cancelAck, true, some code => r.applyCancelAck env sh code
      | _, _, _ => ⟨update.asStateViolation, r, sh⟩

def receiveError : Outcome Receiver :=
  match readErrorReport frame with
  | none => r.fail env sh .malformedMessage .malformedMessage false
  | some report =>
    let durable := r.durableCommit
    let (r, sh) := if durable then (r, sh) else r.abortTransaction env sh
    let (r, sh) := r.releaseBoth sh
    ({ r with state := if durable then .committed else .failed }.rememberTerminal
      (transferErrorForWire report.wireError) report.wireError
      (wireErrorIsConnectionFatal report.wireError) report.retryable).stay sh

/-- The copies the offer branch makes, and whether memory sufficed for all of them. -/
def recordOffer (copies : Nat) (frame : ParsedFrame) (transferId : Bytes) : Receiver × Bool :=
  let manifest := { r.manifest with transferId := transferId, fileSize := unsigned frame 3 }
  let manifest :=
    if copies < 1 then manifest
    else { manifest with manifestCommitment := fieldBytes frame 4 }
  let manifest :=
    if copies < 2 then manifest else { manifest with displayName := fieldBytes frame 5 }
  if copies < 3 then ({ r with manifest := manifest }, false)
  else ({ r with manifest := manifest, rawOfferFrame := frame.raw }, true)

def receiveOffer (transferId : Bytes) (nowMs : Nat) : Outcome Receiver :=
  if frame.header.messageType ≠ .transferOffer then
    r.fail env sh .stateViolation .stateViolation false
  else if allZero transferId = true ∨ unsigned frame 2 ≠ 1 ∨ maxFileBytes < unsigned frame 3 ∨
      validCommitment (fieldBytes frame 4) = false then
    r.fail env sh .invalidOffer .invalidOffer false
  else
    match r.recordOffer env.copies frame transferId with
    | (r, false) => r.fail env sh .internalFailure .busy false
    | (r, true) =>
      { r with
        state := .receivingManifest
        manifestDeadlineMs := checkedDeadline nowMs manifestTimeoutMs
        manifestProgressDeadlineMs := checkedDeadline nowMs manifestProgressTimeoutMs }.stay sh

def receiveCancel : Outcome Receiver :=
  if decodeWireError (unsigned frame 2) ≠ some .cancelled then
    r.fail env sh .malformedMessage .malformedMessage false
  else r.beginRemoteCancel env sh

def receiveCancelAck : Outcome Receiver :=
  match r.cancellation.sent, decodeWireError (unsigned frame 2) with
  | true, some code => r.applyCancelAck env sh code
  | _, _ => r.fail env sh .malformedMessage .malformedMessage false

/-- The copies the manifest entry branch makes. The first one is the validated request. -/
def recordEntry (copies : Nat) (frame : ParsedFrame) (request : ValidatedReceiveRequest) :
    Receiver × Bool :=
  let r := if copies < 1 then r else { r with request := some request }
  let manifest :=
    if copies < 2 then r.manifest else { r.manifest with relativePath := fieldBytes frame 4 }
  let manifest :=
    if copies < 3 then manifest else { manifest with fileCommitment := fieldBytes frame 6 }
  if copies < 4 then ({ r with manifest := manifest }, false)
  else ({ r with manifest := manifest, rawEntryFrame := frame.raw }, true)

def receiveManifestEntry : Outcome Receiver :=
  if frame.header.messageType ≠ .manifestEntry ∨ unsigned frame 2 ≠ 0 ∨ unsigned frame 3 ≠ 1 ∨
      unsigned frame 5 ≠ r.manifest.fileSize ∨
      validCommitment (fieldBytes frame 6) = false then
    r.fail env sh .invalidManifest .invalidManifest false
  else
    match validateReceiveRequest env.unicode (fieldBytes frame 4) r.manifest.fileSize
        maxFileBytes with
    | .error _ => r.fail env sh .invalidManifest .invalidManifest false
    | .ok request =>
      match r.recordEntry env.copies frame request with
      | (r, false) => r.fail env sh .internalFailure .busy false
      | (r, true) =>
        { r with
          manifestEntryReceived := true
          manifestProgressDeadlineMs :=
            checkedDeadline nowMs manifestProgressTimeoutMs }.stay sh

def receiveManifestEnd : Outcome Receiver :=
  if frame.header.messageType ≠ .manifestEnd ∨ unsigned frame 2 ≠ 1 ∨
      unsigned frame 3 ≠ r.manifest.fileSize ∨
      fieldBytes frame 4 ≠ r.manifest.manifestCommitment then
    r.fail env sh .invalidManifest .invalidManifest false
  else if env.copies < 1 then r.fail env sh .internalFailure .busy false
  else
    let input : ManifestVerificationInput :=
      ⟨r.manifest, r.rawOfferFrame, r.rawEntryFrame, frame.raw⟩
    let accepted := env.verifyManifest input
    let r :=
      { r with
        rawEndFrame := frame.raw
        log := r.log ++ [LogEntry.verifyManifest input accepted] }
    if accepted = false then r.fail env sh .integrityFailed .integrityFailed false
    else
      let r :=
        { r with
          state := .awaitingDecision
          decisionDeadlineMs := checkedDeadline nowMs decisionTimeoutMs }
      if env.copies < 2 then r.fail env sh .internalFailure .busy false
      else
        ⟨{ r.update with
            offer :=
              some ⟨r.manifest.transferId, r.manifest.relativePath, r.manifest.fileSize,
                r.manifest.displayName⟩ }, r, sh⟩

def receiveFileBegin : Outcome Receiver :=
  if frame.header.messageType ≠ .fileBegin ∨ unsigned frame 2 ≠ 0 ∨
      unsigned frame 3 ≠ r.manifest.fileSize ∨ unsigned frame 4 ≠ r.chunkSize then
    r.fail env sh .stateViolation .stateViolation false
  else { r with fileBeginReceived := true }.stay sh

/-- The chunk does not continue the file as the accepted sizes ask. -/
def chunkMisplaced : Prop :=
  let data := fieldBytes frame 4
  unsigned frame 2 ≠ 0 ∨ unsigned frame 3 ≠ r.nextOffset ∨ data = [] ∨
    r.chunkSize < data.length ∨ sub64 r.manifest.fileSize r.nextOffset < data.length ∨
    (add64 r.nextOffset data.length < r.manifest.fileSize ∧ data.length ≠ r.chunkSize) ∨
    validCommitment (fieldBytes frame 5) = false

instance (r : Receiver) (frame : ParsedFrame) : Decidable (r.chunkMisplaced frame) := by
  unfold chunkMisplaced
  infer_instance

def receiveFileChunk : Outcome Receiver :=
  let data := fieldBytes frame 4
  let commitment := fieldBytes frame 5
  if r.chunkMisplaced frame then r.fail env sh .stateViolation .stateViolation false
  else if r.availableCredit < data.length then
    r.fail env sh .limitExceeded .limitExceeded false
  else
    let accepted :=
      env.verifyChunkCommitment r.manifest.transferId 0 r.nextOffset data commitment
    let r :=
      { r with
        log := r.log ++ [LogEntry.verifyChunk r.nextOffset data commitment accepted] }
    if accepted = false then r.fail env sh .integrityFailed .integrityFailed false
    else
      match r.transaction with
      -- the file is only received with a transaction in place
      | none => r.stay sh
      | some tx =>
        let written := tx.write env.toBackend sh.temporaryBudget data
        let (r, sh) := r.applyStep sh written
        if written.result.ok = false then
          r.fail env sh (transferErrorForTransaction written.result)
            (wireErrorForTransaction written.result) false
        else
          let r :=
            { r with
              availableCredit := r.availableCredit - data.length
              nextOffset := add64 r.nextOffset data.length
              lastChunkSize := data.length }
          match r.encode env sh .chunkAck r.chunkAckFields with
          | (none, sh) => r.fail env sh .internalFailure .busy false
          | (some ack, sh) =>
            ⟨{ r.update with outboundFrame := ack },
              { r with
                lastAckEncodedOffset := r.nextOffset
                dataDeadlineMs := checkedDeadline nowMs dataProgressTimeoutMs },
              sh⟩

def receiveFileEnd : Outcome Receiver :=
  if unsigned frame 2 ≠ 0 ∨ unsigned frame 3 ≠ r.manifest.fileSize ∨
      r.nextOffset ≠ r.manifest.fileSize ∨ fieldBytes frame 4 ≠ r.manifest.fileCommitment then
    r.fail env sh .stateViolation .stateViolation false
  else
    match r.transaction with
    -- the file is only received with a transaction in place
    | none => r.stay sh
    | some tx =>
      let committed := tx.sealAndCommit env.toBackend sh.temporaryBudget
      let (r, sh) := r.applyStep sh committed
      if committed.result.ok = false then
        r.fail env sh (transferErrorForTransaction committed.result)
          (wireErrorForTransaction committed.result) false
      else
        emitPendingFileCommit env
          { r with
            state := .awaitingCompletion
            dataDeadlineMs := checkedDeadline nowMs dataProgressTimeoutMs }
          sh

def receiveComplete : Outcome Receiver :=
  if r.fileCommitSent = false ∨ frame.header.messageType ≠ .transferComplete ∨
      fieldBytes frame 2 ≠ r.manifest.manifestCommitment then
    r.fail env sh .stateViolation .stateViolation false
  else
    emitPendingCompletionAck env
      { r with
        completionAckPending := true
        dataDeadlineMs := checkedDeadline nowMs dataProgressTimeoutMs }
      sh

/-- The file branch of `ReceiveFrame`. -/
def receiveFile : Outcome Receiver :=
  if r.fileBeginReceived = false then r.receiveFileBegin env sh frame
  else if frame.header.messageType = .fileChunk then r.receiveFileChunk env sh frame nowMs
  else if frame.header.messageType = .fileEnd then r.receiveFileEnd env sh frame nowMs
  else r.fail env sh .stateViolation .stateViolation false

/-- `ReceiveFrame` from the point where the body is parsed. -/
def receiveBody : Outcome Receiver :=
  if frame.header.messageType = .error then r.receiveError env sh frame
  else
    match readTransferId frame with
    | none => r.fail env sh .malformedMessage .malformedMessage false
    | some transferId =>
      if r.state = .created then r.receiveOffer env sh frame transferId nowMs
      else if transferId ≠ r.manifest.transferId then
        r.fail env sh .idempotencyConflict .idempotencyConflict false
      else if frame.header.messageType = .cancel then r.receiveCancel env sh frame
      else if frame.header.messageType = .cancelAck then r.receiveCancelAck env sh frame
      else
        match r.state with
        | .cancelling => r.stay sh
        | .receivingManifest =>
          if r.manifestEntryReceived = false then r.receiveManifestEntry env sh frame nowMs
          else r.receiveManifestEnd env sh frame nowMs
        | .receivingFile => r.receiveFile env sh frame nowMs
        | .awaitingCompletion => r.receiveComplete env sh frame nowMs
        | _ => r.fail env sh .stateViolation .stateViolation false

/-- The stream is opened by the first frame the receiver can attribute to it. -/
def openStream (r : Receiver) (sh : Shared) : StreamOpenResult × Receiver × Shared :=
  if r.streamReserved = false ∧ r.state = .created then
    let (result, credit) := sh.credit.openStream r.context.streamId false r.context.localRole
    let sh := { sh with credit := credit }
    if result = .opened then (.opened, { r with streamReserved := true }, sh)
    else (result, r, sh)
  else (.opened, r, sh)

def receiveFrame (encoded : Bytes) (nowMs : Nat) : Outcome Receiver :=
  if r.isShutdown then r.stay sh
  else if isTerminal r.state then r.receiveTerminal env sh encoded
  else
    match r.observe nowMs with
    | none => r.fail env sh .stateViolation .stateViolation false
    | some r =>
      let (parsed, ids) := parseInbound env.authorized r.context sh.messageIds encoded
      let sh := { sh with messageIds := ids }
      match parsed with
      | .error refusal =>
        r.fail env sh refusal.error refusal.wireError refusal.connectionFatal
      | .ok frame =>
        match r.openStream sh with
        | (.capacityRejected, r, sh) => r.fail env sh .busy .busy false
        | (.invalid, r, sh) => r.fail env sh .stateViolation .stateViolation false
        | (.opened, r, sh) =>
          unlessTimeout (r.checkTimeout env sh nowMs) fun r sh =>
            if receiverAllowedInbound r.state frame.header.messageType
                r.manifestEntryReceived r.fileBeginReceived r.cancelOriginState = false then
              r.fail env sh .stateViolation .stateViolation false
            else
              match parseBody frame with
              | .error refusal =>
                r.fail env sh refusal.error refusal.wireError refusal.connectionFatal
              | .ok frame => r.receiveBody env sh frame nowMs

/-- The part of `NextOutbound` that sends what a state still owes. -/
def nextPending : Outcome Receiver :=
  if r.state = .cancelling then
    if r.cancellation.framePending then r.emitCancel env sh else r.stay sh
  else if r.state = .rejecting then r.emitPendingReject env sh
  else if r.completionAckPending then r.emitPendingCompletionAck env sh
  else if r.fileCommitSent = false then
    let outcome := r.emitPendingFileCommit env sh
    if outcome.update.outboundFrame = [] then outcome
    else
      { outcome with
        engine :=
          { outcome.engine with
            dataDeadlineMs := checkedDeadline nowMs dataProgressTimeoutMs } }
  else r.stay sh

def nextOutbound : Outcome Receiver :=
  if r.isShutdown then r.stay sh
  else if isTerminal r.state = true ∧ r.cancellation.ackPending = false then r.stay sh
  else if r.state ≠ .rejecting ∧ r.state ≠ .awaitingCompletion ∧ r.state ≠ .cancelling ∧
      r.cancellation.ackPending = false then
    r.stay sh
  else
    match r.observe nowMs with
    | none =>
      if isTerminal r.state then ⟨r.update.asStateViolation, r, sh⟩
      else r.fail env sh .stateViolation .stateViolation false
    | some r =>
      if env.authorized = false then
        if isTerminal r.state then
          ⟨{ r.update with error := .unauthenticated, connectionFatal := true },
            { r with cancellation := { r.cancellation with ackPending := false } }, sh⟩
        else r.fail env sh .unauthenticated .none true
      else if r.cancellation.ackPending then r.emitCancelAck env sh
      else if isTerminal r.state then r.stay sh
      else
        unlessTimeout (r.checkTimeout env sh nowMs) fun r sh => r.nextPending env sh nowMs

def confirmChunkAckWritten (nextOffset nowMs : Nat) : Outcome Receiver :=
  if isTerminal r.state then r.stay sh
  else
    match r.observe nowMs with
    | none => r.fail env sh .stateViolation .stateViolation false
    | some r =>
      if env.authorized = false then r.fail env sh .unauthenticated .none true
      else if (r.state ≠ .receivingFile ∧ r.state ≠ .awaitingCompletion) ∨
          nextOffset ≤ r.lastAckWrittenOffset ∨ r.lastAckEncodedOffset < nextOffset then
        r.fail env sh .stateViolation .stateViolation false
      else
        let restored := nextOffset - r.lastAckWrittenOffset
        if sub32 r.initialWindow r.availableCredit < restored then
          r.fail env sh .limitExceeded .limitExceeded false
        else
          { r with
            availableCredit := add32 r.availableCredit restored
            lastAckWrittenOffset := nextOffset
            dataDeadlineMs := checkedDeadline nowMs dataProgressTimeoutMs }.stay sh

/-- The last part of `Accept`, once the transaction has begun. -/
def emitAccept : Outcome Receiver :=
  match r.encode env sh .transferAccept r.acceptFields with
  | (none, sh) => r.fail env sh .internalFailure .busy false
  | (some frame, sh) =>
    ⟨{ state := .receivingFile, outboundFrame := frame },
      { r with
        state := .receivingFile
        dataDeadlineMs := checkedDeadline nowMs dataProgressTimeoutMs },
      sh⟩

/-- The middle part of `Accept`: the credit is reserved and the transaction begun. -/
def openFile (request : ValidatedReceiveRequest) (chunkSize initialWindow nowMs : Nat) :
    Outcome Receiver :=
  let (reserved, credit) := sh.credit.tryReserve .inbound initialWindow
  let sh := { sh with credit := credit }
  if reserved = false then
    r.rejectForStorage env sh { error := .temporaryBudgetExceeded } nowMs
  else
    let r := { r with initialWindow := initialWindow, creditReserved := true }
    if env.createFileVerifier r.manifest.transferId 0 r.manifest.fileCommitment = false then
      r.rejectForStorage env sh { error := .integrityFailed } nowMs
    else if env.copies < 1 then r.rejectForStorage env sh { error := .openFailed } nowMs
    else
      let begun :=
        ReceiveTransaction.start env.toBackend { request := request } sh.temporaryBudget
      let (r, sh) := r.applyStep sh begun
      if begun.result.ok = false then r.rejectForStorage env sh begun.result nowMs
      else
        emitAccept env { r with chunkSize := chunkSize, availableCredit := initialWindow } sh nowMs

def accept (env : Environment) (r : Receiver) (sh : Shared)
    (chunkSize initialWindow nowMs : Nat) : Outcome Receiver :=
  let r := { r with log := r.log ++ [.accept r.state] }
  if isTerminal r.state then r.stay sh
  else if r.state = .receivingFile ∧ r.request ≠ none then
    if r.chunkSize = chunkSize ∧ r.initialWindow = initialWindow then r.stay sh
    else ⟨r.update.asStateViolation, r, sh⟩
  else
    match r.request with
    | none => ⟨r.update.asStateViolation, r, sh⟩
    | some request =>
      if r.state ≠ .awaitingDecision then ⟨r.update.asStateViolation, r, sh⟩
      else
        match r.observe nowMs with
        | none => r.fail env sh .stateViolation .stateViolation false
        | some r =>
          unlessTimeout (r.checkTimeout env sh nowMs) fun r sh =>
            if env.authorized = false then r.fail env sh .unauthenticated .none true
            else if Sender.windowRefused r.context.limits chunkSize initialWindow then
              r.fail env sh .limitExceeded .limitExceeded false
            else r.openFile env sh request chunkSize initialWindow nowMs

def reject : Outcome Receiver :=
  if isTerminal r.state then r.stay sh
  else if r.state = .rejecting then
    if r.pendingReject = true ∧ r.pendingRejectCode = code ∧
        r.pendingRejectRetryable = retryable then
      r.stay sh
    else ⟨r.update.asStateViolation, r, sh⟩
  else if r.state ≠ .awaitingDecision ∨ localRejectCode code = false ∨
      (retryable = true ∧ wireErrorMayRetry code = false) then
    ⟨r.update.asStateViolation, r, sh⟩
  else
    match r.observe nowMs with
    | none => r.fail env sh .stateViolation .stateViolation false
    | some r =>
      unlessTimeout (r.checkTimeout env sh nowMs) fun r sh =>
        if env.authorized = false then r.fail env sh .unauthenticated .none true
        else r.beginReject env sh (transferErrorForWire code) code retryable nowMs

def advance : Outcome Receiver :=
  if isTerminal r.state then r.stay sh
  else
    match r.observe nowMs with
    | none => r.fail env sh .stateViolation .stateViolation false
    | some r =>
      if env.authorized = false then r.fail env sh .unauthenticated .none true
      else r.checkTimeout env sh nowMs

def cancel : Outcome Receiver :=
  if isTerminal r.state then r.stay sh
  else if r.state = .cancelling then r.stay sh
  else
    match r.observe nowMs with
    | none => r.fail env sh .stateViolation .stateViolation false
    | some r =>
      if r.durableCommit then
        let (r, sh) := r.finishCommitted sh
        r.stay sh
      else
        let (r, sh) := r.abortTransaction env sh
        if r.state = .created ∨ env.authorized = false then
          let (r, sh) := r.finishCancelled env sh
          r.stay sh
        else
          emitCancel env
            ({ r with
                cancelOriginState := r.state
                state := .cancelling
                cancellation := { r.cancellation with framePending := true, ackPending := false }
              }.rememberTerminal .none .none false false)
            sh

def shutdown : Outcome Receiver :=
  let r := { r with isShutdown := true, cancellation := r.cancellation.clear }
  if isTerminal r.state then r.stay sh
  else
    let (r, sh) := if r.durableCommit then r.finishCommitted sh else r.finishCancelled env sh
    r.stay sh

end Receiver

end XnnTransfer.Transfer
