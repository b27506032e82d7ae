import XnnTransfer.Transfer.Receiver
import XnnTransfer.Transfer.SenderStep

/-!
# What one call does to the receiver

A call on the receiver makes a few silent moves and then ends. `Receiver.Silent`
lists the moves, `Receiver.Final` the ways to end, both with the exact new state.
`Receiver.ends_of_call` shows that every call is of this form, and that it draws at
most one number from the sequence of its connection. An invariant of the receiver is
therefore one that each move and each ending keeps.
-/

namespace XnnTransfer.Transfer

open Protocol Storage

inductive ReceiverCall
  | receiveFrame (encoded : Bytes) (nowMs : Nat)
  | nextOutbound (nowMs : Nat)
  | confirmChunkAckWritten (nextOffset nowMs : Nat)
  | accept (chunkSize initialWindow nowMs : Nat)
  | reject (code : WireErrorCode) (retryable : Bool) (nowMs : Nat)
  | advance (nowMs : Nat)
  | cancel (nowMs : Nat)
  | shutdown
  deriving DecidableEq, Repr

/-- The bytes a call is given. -/
def ReceiverCall.inbound : ReceiverCall → Option Bytes
  | .receiveFrame encoded _ => some encoded
  | _ => none

namespace Receiver

def call (env : Environment) (r : Receiver) (sh : Shared) : ReceiverCall → Outcome Receiver
  | .receiveFrame encoded nowMs => r.receiveFrame env sh encoded nowMs
  | .nextOutbound nowMs => r.nextOutbound env sh nowMs
  | .confirmChunkAckWritten nextOffset nowMs => r.confirmChunkAckWritten env sh nextOffset nowMs
  | .accept chunkSize initialWindow nowMs => r.accept env sh chunkSize initialWindow nowMs
  | .reject code retryable nowMs => r.reject env sh code retryable nowMs
  | .advance nowMs => r.advance env sh nowMs
  | .cancel nowMs => r.cancel env sh nowMs
  | .shutdown => r.shutdown env sh

/-! ### The parts a call is made of -/

def atTime (r : Receiver) (nowMs : Nat) : Receiver := { r with lastNowMs := nowMs }

/-- The receiver with its transaction and its log replaced. -/
def withTransaction (r : Receiver) (tx : Option ReceiveTransaction) (log : List LogEntry) :
    Receiver :=
  { r with transaction := tx, log := log }

/-- What `AbortTransaction` makes of the transaction and of the log. -/
structure Aborts (r : Receiver) (tx : Option ReceiveTransaction) (log : List LogEntry) :
    Prop where
  absent : r.transaction = none → tx = none ∧ log = r.log
  present : ∀ old, r.transaction = some old → ∃ new calls, tx = some new ∧
    log = r.log ++ calls.map .storage ∧ (old.state = .committed → new = old ∧ calls = []) ∧
    (old.state ≠ .committed → new.Ended) ∧ old.SameContent new ∧
    ∀ call ∈ calls, ReceiveTransaction.IsCleanup call

/-- The receiver after `ReleaseCredit`. -/
def creditReleased (r : Receiver) : Receiver := { r with creditReserved := false }

def releasedInbound (r : Receiver) (credit : ConnectionCreditBudget) : ConnectionCreditBudget :=
  if r.creditReserved then credit.release .inbound r.initialWindow else credit

/-- The receiver after `ReleaseStream`. -/
def streamReleased (r : Receiver) : Receiver := { r with streamReserved := false }

def releasedStream (r : Receiver) (credit : ConnectionCreditBudget) : ConnectionCreditBudget :=
  if r.streamReserved then credit.closeStream r.context.streamId else credit

/-- The receiver after `ReleaseCredit` and `ReleaseStream`. -/
def released (r : Receiver) : Receiver :=
  { r with creditReserved := false, streamReserved := false }

def releasedCredit (r : Receiver) (credit : ConnectionCreditBudget) : ConnectionCreditBudget :=
  r.releasedStream (r.releasedInbound credit)

/-- The state in which a failure leaves the receiver. -/
def failureState (r : Receiver) : TransferState :=
  if r.durableCommit then .committed else .failed

/-- The receiver after `Fail`. -/
def failedWith (r : Receiver) (tx : Option ReceiveTransaction) (log : List LogEntry)
    (error : TransferError) (wireError : WireErrorCode) (connectionFatal : Bool) : Receiver :=
  { (r.withTransaction tx log).released with
    cancellation := r.cancellation.clear
    state := r.failureState
    terminal := ⟨error, wireError, connectionFatal, wireErrorMayRetry wireError⟩ }

/-- The receiver after `CancelTimeout`. -/
def cancelTimedOut (r : Receiver) (tx : Option ReceiveTransaction) (log : List LogEntry) :
    Receiver :=
  { (r.withTransaction tx log).released with
    cancellation :=
      { r.cancellation with
        framePending := false
        ackPending := false
        sent := false
        deadlineMs := 0 }
    state := .failed
    terminal := ⟨.timeout, .timeout, false, false⟩ }

/-- The receiver once its `CANCEL` frame is out. -/
def cancelSent (r : Receiver) : Receiver :=
  { r with
    cancellation :=
      { r.cancellation with
        framePending := false
        sent := true
        deadlineMs := checkedDeadline r.lastNowMs cancelAcknowledgementTimeoutMs } }

/-- The receiver that could not number its `CANCEL` frame. -/
def cancelExhausted (r : Receiver) : Receiver :=
  { r.released with
    cancellation :=
      { r.cancellation with framePending := false, ackPending := false, sent := false }
    state := .cancelled
    terminal := ⟨.messageIdViolation, .messageIdViolation, true, false⟩ }

/-- The receiver once its `CANCEL_ACK` frame is out. -/
def cancelAckSent (r : Receiver) : Receiver :=
  { r with
    cancellation := { r.cancellation with ackPending := false, ackFailureIsTerminal := false } }

/-- The receiver that gave up its `CANCEL_ACK` frame. -/
def cancelAckDropped (r : Receiver) : Receiver :=
  { r with cancellation := { r.cancellation with ackPending := false } }

/-- The receiver after `FinishCancelled`. -/
def finished (r : Receiver) (tx : Option ReceiveTransaction) (log : List LogEntry) : Receiver :=
  { (r.withTransaction tx log).released with
    cancellation := r.cancellation.clear
    state := .cancelled
    terminal := ⟨.cancelled, .cancelled, false, false⟩ }

/-- The receiver after `FinishCommitted`. -/
def finishedCommitted (r : Receiver) : Receiver :=
  { r.released with
    cancellation := r.cancellation.clear
    state := .committed
    terminal := {} }

/-- The receiver before the acknowledgement of a remote cancel is emitted. -/
def remotelyCancelled (r : Receiver) (tx : Option ReceiveTransaction) (log : List LogEntry) :
    Receiver :=
  { (if r.durableCommit then r.finishedCommitted else r.finished tx log) with
    cancellation :=
      { r.cancellation.clear with
        sent := r.cancellation.sent
        ackPending := true
        ackFailureIsTerminal := true
        pendingAckCode := if r.durableCommit then .completed else .cancelled } }

/-- The receiver before a terminal state acknowledges a cancel again. -/
def reacknowledging (r : Receiver) : Receiver :=
  { r with
    cancellation :=
      { r.cancellation with
        ackFailureIsTerminal :=
          r.cancellation.ackPending && r.cancellation.ackFailureIsTerminal
        ackPending := true
        pendingAckCode := cachedTerminalCode r.state r.terminal } }

/-- The state and the record in which a cancel acknowledgement ends the receiver. -/
def acknowledgedEnd (r : Receiver) (code : WireErrorCode) : TransferState × TerminalRecord :=
  if code = .completed then
    if r.durableCommit then (.completed, {})
    else (.failed, ⟨.stateViolation, .stateViolation, false, false⟩)
  else Sender.cancelAckEnd code

/-- The receiver after `ApplyCancelAck`. -/
def acknowledged (r : Receiver) (tx : Option ReceiveTransaction) (log : List LogEntry)
    (code : WireErrorCode) : Receiver :=
  { (r.withTransaction tx log).released with
    cancellation := r.cancellation.clear
    state := (r.acknowledgedEnd code).1
    terminal := (r.acknowledgedEnd code).2 }

/-- The receiver in which `Cancel` tries to emit its frame. -/
def cancelling (r : Receiver) (tx : Option ReceiveTransaction) (log : List LogEntry) :
    Receiver :=
  { r.withTransaction tx log with
    cancelOriginState := r.state
    state := .cancelling
    cancellation := { r.cancellation with framePending := true, ackPending := false }
    terminal := {} }

/-- The receiver that still has to emit its reject. -/
def rejecting (r : Receiver) (tx : Option ReceiveTransaction) (log : List LogEntry)
    (error : TransferError) (wireError : WireErrorCode) (retryable : Bool) (deadlineMs : Nat) :
    Receiver :=
  { (r.withTransaction tx log).creditReleased with
    state := .rejecting
    pendingReject := true
    pendingRejectError := error
    pendingRejectCode := wireError
    pendingRejectRetryable := retryable
    dataDeadlineMs := deadlineMs }

/-- The receiver after it was told that the peer failed. -/
def remotelyFailed (r : Receiver) (tx : Option ReceiveTransaction) (log : List LogEntry)
    (report : ErrorReport) : Receiver :=
  { (r.withTransaction tx log).released with
    state := r.failureState
    terminal := ⟨transferErrorForWire report.wireError, report.wireError,
      wireErrorIsConnectionFatal report.wireError, report.retryable⟩ }

section Specifications

variable (env : Environment) (r : Receiver) (sh : Shared)

theorem aborts_of_committed {r : Receiver} (h : r.durableCommit = true) :
    r.Aborts r.transaction r.log := by
  unfold durableCommit at h
  refine ⟨fun hnone => ⟨hnone, rfl⟩, fun old hold => ⟨old, [], hold, by simp, ?_, ?_, ⟨rfl, rfl⟩,
    by simp⟩⟩
  · exact fun _ => ⟨rfl, rfl⟩
  intro hne
  rw [hold] at h
  exact absurd (by simpa using h) hne

theorem abortTransaction_spec :
    ∃ tx log budget, r.abortTransaction env sh =
        (r.withTransaction tx log, { sh with temporaryBudget := budget }) ∧ r.Aborts tx log := by
  unfold abortTransaction
  cases htx : r.transaction with
  | none =>
    refine ⟨r.transaction, r.log, sh.temporaryBudget, ?_, fun _ => ⟨htx, rfl⟩, fun old hold => ?_⟩
    · have hsame : r.withTransaction r.transaction r.log = r := rfl
      rw [hsame]
    rw [htx] at hold
    cases hold
  | some tx =>
    obtain ⟨hcommitted, hother, hsame, hcalls⟩ :=
      @ReceiveTransaction.abort_spec env.toBackend tx sh.temporaryBudget
    refine ⟨_, _, _, rfl, fun hnone => ?_, fun old hold => ?_⟩
    · rw [htx] at hnone
      cases hnone
    rw [htx] at hold
    cases hold
    exact ⟨_, _, rfl, rfl, hcommitted, hother, hsame, hcalls⟩

theorem releaseCredit_eq :
    r.releaseCredit sh =
      (r.creditReleased, { sh with credit := r.releasedInbound sh.credit }) := by
  unfold releaseCredit creditReleased releasedInbound
  cases hreserved : r.creditReserved with
  | false =>
    cases r
    cases hreserved
    rfl
  | true => rfl

theorem releaseStream_eq :
    r.releaseStream sh =
      (r.streamReleased, { sh with credit := r.releasedStream sh.credit }) := by
  unfold releaseStream streamReleased releasedStream
  cases hreserved : r.streamReserved with
  | false =>
    cases r
    cases hreserved
    rfl
  | true => rfl

theorem releaseBoth_eq :
    r.releaseBoth sh = (r.released, { sh with credit := r.releasedCredit sh.credit }) := by
  simp only [releaseBoth, releaseCredit_eq, releaseStream_eq]
  rfl

/-- The abort that `Fail` and `ReceiveError` leave out after a durable commit. -/
theorem abortUnlessDurable_spec :
    ∃ tx log budget,
      (if r.durableCommit = true then (r, sh) else r.abortTransaction env sh) =
        (r.withTransaction tx log, { sh with temporaryBudget := budget }) ∧ r.Aborts tx log := by
  split
  · exact ⟨r.transaction, r.log, sh.temporaryBudget, rfl, aborts_of_committed ‹_›⟩
  · exact abortTransaction_spec env r sh

theorem fail_spec (error : TransferError) (wireError : WireErrorCode) (connectionFatal : Bool) :
    ∃ tx log budget frame ids, r.fail env sh error wireError connectionFatal =
        ⟨{ failureUpdate r.failureState error wireError connectionFatal with
            retryable := wireErrorMayRetry wireError, outboundFrame := frame },
          r.failedWith tx log error wireError connectionFatal,
          ⟨ids, r.releasedCredit sh.credit, budget⟩⟩ ∧ r.Aborts tx log ∧
      Sender.Reports r.context wireError (wireErrorMayRetry wireError) frame ∧
      Draws sh.messageIds (r.fail env sh error wireError connectionFatal) := by
  obtain ⟨tx, log, budget, habort, haborts⟩ := abortUnlessDurable_spec env r sh
  simp only [fail, habort, releaseBoth_eq]
  split
  · rename_i hreport
    exact ⟨tx, log, budget, _, _, rfl, haborts, Sender.reports_encodeErrorFrame hreport.2.1 _,
      .reported rfl rfl⟩
  · exact ⟨tx, log, budget, [], sh.messageIds, rfl, haborts, .inl rfl, .silent rfl rfl⟩

theorem cancelTimeout_spec :
    ∃ tx log budget frame ids, r.cancelTimeout env sh =
        ⟨{ failureUpdate .failed .timeout .timeout false with outboundFrame := frame },
          r.cancelTimedOut tx log, ⟨ids, r.releasedCredit sh.credit, budget⟩⟩ ∧
      r.Aborts tx log ∧ Sender.Reports r.context .timeout false frame ∧
      Draws sh.messageIds (r.cancelTimeout env sh) := by
  obtain ⟨tx, log, budget, habort, haborts⟩ := abortTransaction_spec env r sh
  simp only [cancelTimeout, habort, releaseBoth_eq]
  split
  · exact ⟨tx, log, budget, _, _, rfl, haborts, Sender.reports_encodeErrorFrame (by decide) _,
      .reported rfl rfl⟩
  · exact ⟨tx, log, budget, [], sh.messageIds, rfl, haborts, .inl rfl, .silent rfl rfl⟩

/-- What `EmitCancel` can return. -/
inductive EmitsCancel : Outcome Receiver → Prop
  | emitted {frame ids} (h : Carries r.context .cancel (cancelFields r.manifest.transferId) frame) :
      EmitsCancel ⟨{ r.update with outboundFrame := frame }, r.cancelSent,
        { sh with messageIds := ids }⟩
  | busy {ids} :
      EmitsCancel ⟨r.update.asEncodingBusy, r, { sh with messageIds := ids }⟩
  | exhausted {ids} :
      EmitsCancel ⟨r.cancelExhausted.update, r.cancelExhausted,
        { sh with messageIds := ids, credit := r.releasedCredit sh.credit }⟩

theorem emitCancel_spec :
    EmitsCancel r sh (r.emitCancel env sh) ∧ Draws sh.messageIds (r.emitCancel env sh) := by
  unfold emitCancel
  cases hframe : encodeCancelFrame env.memory r.context sh.messageIds r.manifest.transferId with
  | mk frame ids =>
    have hencodes := encodes_encodeFrame hframe
    cases frame with
    | none =>
      simp only [cancellationEncodingFailure, releaseBoth_eq]
      split
      · exact ⟨.exhausted, hencodes.refused (.silent rfl rfl)⟩
      · exact ⟨.busy, hencodes.refused (.silent rfl rfl)⟩
    | some frame =>
      exact ⟨.emitted (encodeFrame_carries (Sender.listed_cancelFields _) hframe),
        hencodes.issued rfl rfl⟩

/-- What `EmitCancelAck` can return. -/
inductive EmitsCancelAck : Outcome Receiver → Prop
  | emitted {frame ids}
      (h : Carries r.context .cancelAck
        (cancelAckFields r.manifest.transferId r.cancellation.pendingAckCode) frame) :
      EmitsCancelAck ⟨{ r.update with outboundFrame := frame }, r.cancelAckSent,
        { sh with messageIds := ids }⟩
  | busy {ids} :
      EmitsCancelAck ⟨r.update.asEncodingBusy, r, { sh with messageIds := ids }⟩
  | exhausted {ids} :
      EmitsCancelAck ⟨{ r.update with
          error := .messageIdViolation
          wireError := .messageIdViolation
          connectionFatal := true }, r.cancelAckDropped, { sh with messageIds := ids }⟩
  | exhaustedTerminal {ids} (hterminal : r.cancellation.ackFailureIsTerminal = true) :
      EmitsCancelAck
        ⟨{ r.cancelAckDropped with
            terminal := ⟨.messageIdViolation, .messageIdViolation, true, false⟩ }.update,
          { r.cancelAckDropped with
            terminal := ⟨.messageIdViolation, .messageIdViolation, true, false⟩ },
          { sh with messageIds := ids }⟩

theorem emitCancelAck_spec :
    EmitsCancelAck r sh (r.emitCancelAck env sh) ∧
      Draws sh.messageIds (r.emitCancelAck env sh) := by
  unfold emitCancelAck
  cases hframe : encodeCancelAckFrame env.memory r.context sh.messageIds r.manifest.transferId
      r.cancellation.pendingAckCode with
  | mk frame ids =>
    have hencodes := encodes_encodeCancelAckFrame hframe
    cases frame with
    | none =>
      simp only [cancelAckEncodingFailure]
      split
      · split
        · exact ⟨.exhaustedTerminal ‹_›, hencodes.refused (.silent rfl rfl)⟩
        · exact ⟨.exhausted, hencodes.refused (.silent rfl rfl)⟩
      · exact ⟨.busy, hencodes.refused (.silent rfl rfl)⟩
    | some frame =>
      refine ⟨?_, hencodes.issued rfl rfl⟩
      unfold encodeCancelAckFrame at hframe
      split at hframe
      · cases hframe
      · exact .emitted (encodeFrame_carries (Sender.listed_cancelAckFields _ _) hframe)

theorem finishCancelled_spec :
    ∃ tx log budget, r.finishCancelled env sh =
        (r.finished tx log,
          { sh with credit := r.releasedCredit sh.credit, temporaryBudget := budget }) ∧
      r.Aborts tx log := by
  obtain ⟨tx, log, budget, habort, haborts⟩ :=
    abortTransaction_spec env { r with cancellation := r.cancellation.clear } sh
  refine ⟨tx, log, budget, ?_, haborts.absent, haborts.present⟩
  simp only [finishCancelled, habort, releaseBoth_eq]
  rfl

theorem finishCommitted_eq :
    r.finishCommitted sh =
      (r.finishedCommitted, { sh with credit := r.releasedCredit sh.credit }) := by
  simp only [finishCommitted, releaseBoth_eq]
  rfl

theorem beginRemoteCancel_spec :
    ∃ tx log budget, r.beginRemoteCancel env sh =
        (r.remotelyCancelled tx log).emitCancelAck env
          { sh with credit := r.releasedCredit sh.credit, temporaryBudget := budget } ∧
      r.Aborts tx log := by
  unfold beginRemoteCancel remotelyCancelled
  cases hdurable : r.durableCommit with
  | true =>
    refine ⟨r.transaction, r.log, sh.temporaryBudget, ?_, aborts_of_committed hdurable⟩
    simp only [if_true, finishCommitted_eq]
    rfl
  | false =>
    obtain ⟨tx, log, budget, hfinish, haborts⟩ := finishCancelled_spec env r sh
    refine ⟨tx, log, budget, ?_, haborts⟩
    simp only [Bool.false_eq_true, if_false, hfinish]
    rfl

theorem applyCancelAck_spec (code : WireErrorCode) :
    ∃ tx log budget, r.applyCancelAck env sh code =
        (r.acknowledged tx log code).stay
          { sh with credit := r.releasedCredit sh.credit, temporaryBudget := budget } ∧
      r.Aborts tx log := by
  let cleared : Receiver := { r with cancellation := r.cancellation.clear }
  obtain ⟨tx, log, budget, habort, haborts⟩ := abortTransaction_spec env cleared.released
    { sh with credit := cleared.releasedCredit sh.credit }
  have haborts : r.Aborts tx log := ⟨haborts.absent, haborts.present⟩
  simp only [applyCancelAck, releaseBoth_eq, acknowledged, acknowledgedEnd]
  have hdurable : cleared.released.durableCommit = r.durableCommit := rfl
  split
  · rename_i hcode
    rw [hdurable]
    split
    · rename_i hnot
      refine ⟨tx, log, budget, ?_, haborts⟩
      rw [habort]
      simp only [hnot, Bool.false_eq_true, if_false]
      rfl
    rename_i hyes
    have hyes : r.durableCommit = true := by simpa using hyes
    refine ⟨r.transaction, r.log, sh.temporaryBudget, ?_, aborts_of_committed hyes⟩
    simp only [hyes, if_true]
    rfl
  refine ⟨tx, log, budget, ?_, haborts⟩
  rw [habort]
  rfl

theorem checkTimeout_cases (nowMs : Nat) :
    (r.deadlinePassed nowMs = true ∧ r.checkTimeout env sh nowMs =
        r.fail env sh .timeout .timeout false) ∨
      ((r.state = .cancelling ∧ r.cancellation.sent = true) ∧
        r.checkTimeout env sh nowMs = r.cancelTimeout env sh) ∨
      r.checkTimeout env sh nowMs = r.stay sh := by
  unfold checkTimeout
  split
  · exact .inl ⟨‹_›, rfl⟩
  split
  · rename_i h
    exact .inr (.inl ⟨⟨h.1, h.2.1⟩, rfl⟩)
  · exact .inr (.inr rfl)

end Specifications

/-! ### The moves and the endings -/

/-- The frame that the bytes of a call parse to. -/
structure Decoded (r : Receiver) (encoded : Bytes) (frame : ParsedFrame) : Prop where
  message : decodeFrame r.context.version encoded = some (messageOf frame)
  raw : frame.raw = encoded

/-- The receiver after the offer is taken over. -/
def offerTaken (r : Receiver) (frame : ParsedFrame) (transferId : Bytes) (nowMs : Nat) :
    Receiver :=
  { r with
    manifest :=
      { r.manifest with
        transferId := transferId
        fileSize := unsigned frame 3
        manifestCommitment := fieldBytes frame 4
        displayName := fieldBytes frame 5 }
    rawOfferFrame := frame.raw
    state := .receivingManifest
    manifestDeadlineMs := checkedDeadline nowMs manifestTimeoutMs
    manifestProgressDeadlineMs := checkedDeadline nowMs manifestProgressTimeoutMs }

/-- The receiver after the manifest entry is taken over. -/
def entryTaken (r : Receiver) (frame : ParsedFrame) (request : ValidatedReceiveRequest)
    (nowMs : Nat) : Receiver :=
  { r with
    manifest :=
      { r.manifest with
        relativePath := fieldBytes frame 4
        fileCommitment := fieldBytes frame 6 }
    request := some request
    rawEntryFrame := frame.raw
    manifestEntryReceived := true
    manifestProgressDeadlineMs := checkedDeadline nowMs manifestProgressTimeoutMs }

/-- What the provider is asked about the manifest. -/
def manifestInput (r : Receiver) (endFrame : Bytes) : ManifestVerificationInput :=
  ⟨r.manifest, r.rawOfferFrame, r.rawEntryFrame, endFrame⟩

/-- The receiver after the provider refused or accepted the manifest. -/
def manifestChecked (r : Receiver) (endFrame : Bytes) (accepted : Bool) : Receiver :=
  { r with
    rawEndFrame := endFrame
    log := r.log ++ [.verifyManifest (r.manifestInput endFrame) accepted] }

/-- The receiver once the manifest is verified. -/
def manifestVerified (r : Receiver) (endFrame : Bytes) (nowMs : Nat) : Receiver :=
  { r.manifestChecked endFrame true with
    state := .awaitingDecision
    decisionDeadlineMs := checkedDeadline nowMs decisionTimeoutMs }

/-- The receiver after the provider was asked about a chunk. -/
def chunkChecked (r : Receiver) (data commitment : Bytes) (accepted : Bool) : Receiver :=
  { r with log := r.log ++ [.verifyChunk r.nextOffset data commitment accepted] }

/-- The receiver after a chunk is written. -/
def chunkWritten (r : Receiver) (data commitment : Bytes) (tx : ReceiveTransaction)
    (result : PlatformWriteResult) : Receiver :=
  { r with
    transaction := some { tx with receivedBytes := add64 tx.receivedBytes data.length }
    log := r.log ++ [.verifyChunk r.nextOffset data commitment true] ++
      [.storage (.writeTemporary tx.temporary data result), .storage (.updateVerifier data true)]
    availableCredit := r.availableCredit - data.length
    nextOffset := add64 r.nextOffset data.length
    lastChunkSize := data.length }

/-- The receiver after the file is committed. -/
def fileCommitted (r : Receiver) (tx new : ReceiveTransaction) (result : PlatformCommitResult)
    (nowMs : Nat) : Receiver :=
  { r with
    transaction := some new
    log := r.log ++ [.storage (.sealVerifier true), .storage (.flushTemporary tx.temporary .none),
      .storage (.commitTemporary tx.temporary result)]
    state := .awaitingCompletion
    dataDeadlineMs := checkedDeadline nowMs dataProgressTimeoutMs }

/-- The receiver once its transaction has begun. -/
def transactionBegun (r : Receiver) (request : ValidatedReceiveRequest) (handle : Nat)
    (chunkSize : Nat) : Receiver :=
  { r with
    transaction := some (({ request := request } : ReceiveTransaction).opened handle)
    log := r.log ++ [.storage (.createTemporary request.path request.declaredSize .none handle)]
    chunkSize := chunkSize
    availableCredit := r.initialWindow }

/-- The receiver after a written acknowledgement was confirmed. -/
def confirmed (r : Receiver) (nextOffset nowMs : Nat) : Receiver :=
  { r with
    availableCredit := add32 r.availableCredit (nextOffset - r.lastAckWrittenOffset)
    lastAckWrittenOffset := nextOffset
    dataDeadlineMs := checkedDeadline nowMs dataProgressTimeoutMs }

/-- The decision about the offer has not been made. -/
def Undecided (r : Receiver) : Prop :=
  r.state = .created ∨ r.state = .receivingManifest ∨ r.state = .awaitingDecision

/-- Before the decision the receiver holds neither credit nor a transaction. -/
def Settled (r : Receiver) : Prop :=
  r.Undecided → r.creditReserved = false ∧ r.transaction = none

/-- The changes a call makes before it ends. -/
inductive Silent (call : ReceiverCall) (r : Receiver) (sh : Shared) : Receiver → Shared → Prop
  | tick {t ids} : Silent call r sh (r.atTime t) { sh with messageIds := ids }
  | streamOpened (hstate : r.state = .created) (hreserved : r.streamReserved = false)
      (hopened : (sh.credit.openStream r.context.streamId false r.context.localRole).1 = .opened) :
      Silent call r sh { r with streamReserved := true }
        { sh with
          credit := (sh.credit.openStream r.context.streamId false r.context.localRole).2 }
  | streamRefused (hstate : r.state = .created) (hreserved : r.streamReserved = false)
      (hrefused : (sh.credit.openStream r.context.streamId false r.context.localRole).1 ≠ .opened) :
      Silent call r sh r
        { sh with
          credit := (sh.credit.openStream r.context.streamId false r.context.localRole).2 }
  | acceptEntered {chunkSize initialWindow nowMs}
      (hcall : call = .accept chunkSize initialWindow nowMs) :
      Silent call r sh { r with log := r.log ++ [.accept r.state] } sh
  | offerRecorded {manifest} (hstate : r.state = .created) :
      Silent call r sh { r with manifest := manifest } sh
  | offerTaken {encoded nowMs frame transferId} (hcall : call = .receiveFrame encoded nowMs)
      (hstate : r.state = .created) (hframe : r.Decoded encoded frame)
      (htype : frame.header.messageType = .transferOffer)
      (hid : readTransferId frame = some transferId) (hsize : unsigned frame 3 ≤ maxFileBytes) :
      Silent call r sh (r.offerTaken frame transferId nowMs) sh
  | entryRecorded {path commitment request} (hstate : r.state = .receivingManifest)
      (hentry : r.manifestEntryReceived = false)
      (hrequest : request = r.request ∨
        ∃ q, request = some q ∧ q.declaredSize = r.manifest.fileSize) :
      Silent call r sh
        { r with
          manifest := { r.manifest with relativePath := path, fileCommitment := commitment }
          request := request } sh
  | entryTaken {encoded nowMs frame request} (hcall : call = .receiveFrame encoded nowMs)
      (hstate : r.state = .receivingManifest) (hentry : r.manifestEntryReceived = false)
      (hframe : r.Decoded encoded frame) (htype : frame.header.messageType = .manifestEntry)
      (hrequest : request.declaredSize = r.manifest.fileSize) :
      Silent call r sh (r.entryTaken frame request nowMs) sh
  | manifestRefused {endFrame} (hstate : r.state = .receivingManifest)
      (hentry : r.manifestEntryReceived = true) :
      Silent call r sh (r.manifestChecked endFrame false) sh
  | manifestVerified {encoded nowMs frame} (hcall : call = .receiveFrame encoded nowMs)
      (hstate : r.state = .receivingManifest) (hentry : r.manifestEntryReceived = true)
      (hframe : r.Decoded encoded frame) (htype : frame.header.messageType = .manifestEnd) :
      Silent call r sh (r.manifestVerified encoded nowMs) sh
  | fileBegun (hstate : r.state = .receivingFile) (hbegun : r.fileBeginReceived = false) :
      Silent call r sh { r with fileBeginReceived := true } sh
  | chunkChecked {data commitment accepted} (hstate : r.state = .receivingFile)
      (haccepted : accepted = true → r.transaction = none) :
      Silent call r sh (r.chunkChecked data commitment accepted) sh
  | chunkBroken {data commitment tx new calls budget} (hstate : r.state = .receivingFile)
      (htx : r.transaction = some tx) (hbreaks : tx.Breaks new calls) :
      Silent call r sh
        { r.chunkChecked data commitment true with
          transaction := some new
          log := (r.chunkChecked data commitment true).log ++ calls.map .storage }
        { sh with temporaryBudget := budget }
  | commitBroken {tx new calls budget} (hstate : r.state = .receivingFile)
      (htx : r.transaction = some tx) (hbreaks : tx.Breaks new calls) :
      Silent call r sh
        { r with transaction := some new, log := r.log ++ calls.map .storage }
        { sh with temporaryBudget := budget }
  | fileCommitted {encoded nowMs frame tx new result budget}
      (hcall : call = .receiveFrame encoded nowMs) (hframe : r.Decoded encoded frame)
      (htype : frame.header.messageType = .fileEnd) (hstate : r.state = .receivingFile)
      (hbegun : r.fileBeginReceived = true) (hall : r.nextOffset = r.manifest.fileSize)
      (htx : r.transaction = some tx) (hreceiving : tx.state = .receiving)
      (hreceived : tx.receivedBytes = tx.request.declaredSize)
      (hcommitted : new.state = .committed) (hsame : tx.SameContent new)
      (hresult : result.disposition = .committed) :
      Silent call r sh (r.fileCommitted tx new result nowMs) { sh with temporaryBudget := budget }
  | completionPending {nowMs} (hstate : r.state = .awaitingCompletion)
      (hsent : r.fileCommitSent = true) :
      Silent call r sh
        { r with
          completionAckPending := true
          dataDeadlineMs := checkedDeadline nowMs dataProgressTimeoutMs } sh
  | confirmed {nextOffset nowMs}
      (hcall : call = .confirmChunkAckWritten nextOffset nowMs)
      (hstate : r.state = .receivingFile ∨ r.state = .awaitingCompletion)
      (hnew : r.lastAckWrittenOffset < nextOffset) (hsent : nextOffset ≤ r.lastAckEncodedOffset)
      (hroom : nextOffset - r.lastAckWrittenOffset ≤ sub32 r.initialWindow r.availableCredit) :
      Silent call r sh (r.confirmed nextOffset nowMs) sh
  | creditReserved {window} (hstate : r.state = .awaitingDecision)
      (hfree : r.creditReserved = false) (hwindow : window ≤ maximumTransferWindow)
      (hreserved : (sh.credit.tryReserve .inbound window).1 = true) :
      Silent call r sh { r with initialWindow := window, creditReserved := true }
        { sh with credit := (sh.credit.tryReserve .inbound window).2 }
  | transactionRefused {new : ReceiveTransaction} {calls : List StorageCall} {budget}
      (hstate : r.state = .awaitingDecision) (hnone : r.transaction = none)
      (hlog : .accept .awaitingDecision ∈ r.log) (hended : new.Ended)
      (hcalls : ∀ call ∈ calls, ReceiveTransaction.IsCreate call ∨
        ReceiveTransaction.IsCleanup call) :
      Silent call r sh
        { r with transaction := some new, log := r.log ++ calls.map .storage }
        { sh with temporaryBudget := budget }
  | transactionBegun {request handle chunkSize budget} (hstate : r.state = .awaitingDecision)
      (hnone : r.transaction = none) (hlog : .accept .awaitingDecision ∈ r.log)
      (hreserved : r.creditReserved = true)
      (hrequest : r.request = some request) (hhandle : handle ≠ 0)
      (hchunk : minimumChunkSize ≤ chunkSize) (hwindow : chunkSize ≤ r.initialWindow) :
      Silent call r sh (r.transactionBegun request handle chunkSize)
        { sh with temporaryBudget := budget }
  | rejectBegun {tx log error code retryable deadlineMs budget}
      (hstate : r.state = .awaitingDecision) (haborts : r.Aborts tx log)
      (hreason : wireErrorIsRejectReason code = true) :
      Silent call r sh (r.rejecting tx log error code retryable deadlineMs)
        { sh with credit := r.releasedInbound sh.credit, temporaryBudget := budget }
  | cancelBegun {tx log nowMs budget} (hcall : call = .cancel nowMs)
      (hterm : isTerminal r.state = false) (hcreated : r.state ≠ .created)
      (hcancelling : r.state ≠ .cancelling) (hdurable : r.durableCommit = false)
      (haborts : r.Aborts tx log) :
      Silent call r sh (r.cancelling tx log) { sh with temporaryBudget := budget }
  | remotelyCancelled {encoded nowMs frame tx log budget}
      (hcall : call = .receiveFrame encoded nowMs) (hterm : isTerminal r.state = false)
      (hcreated : r.state ≠ .created) (hframe : r.Decoded encoded frame)
      (htype : frame.header.messageType = .cancel) (haborts : r.Aborts tx log) :
      Silent call r sh (r.remotelyCancelled tx log)
        { sh with credit := r.releasedCredit sh.credit, temporaryBudget := budget }
  | reacknowledging {encoded nowMs frame} (hcall : call = .receiveFrame encoded nowMs)
      (hterm : isTerminal r.state = true) (hframe : r.Decoded encoded frame)
      (htype : frame.header.messageType = .cancel) : Silent call r sh r.reacknowledging sh

/-- A sequence of silent moves. -/
inductive Moves (call : ReceiverCall) : Receiver → Shared → Receiver → Shared → Prop
  | refl {r sh} : Moves call r sh r sh
  | head {r sh r' sh' r'' sh''} (hmove : Silent call r sh r' sh')
      (hrest : Moves call r' sh' r'' sh'') : Moves call r sh r'' sh''

/-- The chunk in a frame is written to the file. -/
structure Writes (r : Receiver) (call : ReceiverCall) (frame : ParsedFrame)
    (tx : ReceiveTransaction) (result : PlatformWriteResult) : Prop where
  called : ∃ encoded nowMs, call = .receiveFrame encoded nowMs ∧ r.Decoded encoded frame
  state : r.state = .receivingFile
  begun : r.fileBeginReceived = true
  type : frame.header.messageType = .fileChunk
  placed : ¬ r.chunkMisplaced frame
  credit : (fieldBytes frame 4).length ≤ r.availableCredit
  transaction : r.transaction = some tx
  receiving : tx.state = .receiving
  room : (fieldBytes frame 4).length ≤ sub64 tx.request.declaredSize tx.receivedBytes
  result : result.error = .none ∧ result.bytesWritten = (fieldBytes frame 4).length

/-- A call that changed nothing took no chunk and left no decision half made. -/
structure Rests (r : Receiver) (call : ReceiverCall) (update : TransferUpdate) : Prop where
  chunk : ∀ encoded nowMs message, call = .receiveFrame encoded nowMs → update.error = .none →
    r.state = .receivingFile → decodeFrame r.context.version encoded = some message →
    message.type = .fileChunk → r.isShutdown = true ∨ r.transaction = none
  settled : r.Settled

/-- The ways a call ends. -/
inductive Final (call : ReceiverCall) (r : Receiver) (sh : Shared) : Outcome Receiver → Prop
  | quiet {update} (hstate : update.state = r.state)
      (hterminal : update.terminal = isTerminal r.state) (hframe : update.outboundFrame = [])
      (hrests : r.Rests call update) : Final call r sh ⟨update, r, sh⟩
  | ackDropped {update} (hterm : isTerminal r.state = true) (hstate : update.state = r.state)
      (hterminal : update.terminal = isTerminal r.state) (hframe : update.outboundFrame = []) :
      Final call r sh ⟨update, r.cancelAckDropped, sh⟩
  | failed {tx log budget frame ids} (error : TransferError) (wireError : WireErrorCode)
      (connectionFatal : Bool) (hterm : isTerminal r.state = false) (haborts : r.Aborts tx log)
      (hframe : Sender.Reports r.context wireError (wireErrorMayRetry wireError) frame)
      (hwire : wireError ≠ .completed) :
      Final call r sh
        ⟨{ failureUpdate r.failureState error wireError connectionFatal with
            retryable := wireErrorMayRetry wireError, outboundFrame := frame },
          r.failedWith tx log error wireError connectionFatal,
          ⟨ids, r.releasedCredit sh.credit, budget⟩⟩
  | cancelTimeout {tx log budget frame ids} (hstate : r.state = .cancelling)
      (hsent : r.cancellation.sent = true) (haborts : r.Aborts tx log)
      (hframe : Sender.Reports r.context .timeout false frame) :
      Final call r sh
        ⟨{ failureUpdate .failed .timeout .timeout false with outboundFrame := frame },
          r.cancelTimedOut tx log, ⟨ids, r.releasedCredit sh.credit, budget⟩⟩
  | rejectEmitted {frame ids} (hstate : r.state = .rejecting)
      (hframe : Carries r.context .transferReject
        (r.rejectFields r.pendingRejectCode r.pendingRejectRetryable) frame) :
      Final call r sh
        ⟨{ r.update with
            outboundFrame := frame
            state := .rejected
            error := r.pendingRejectError
            wireError := r.pendingRejectCode
            terminal := true
            retryable := r.pendingRejectRetryable },
          { r.streamReleased with
            state := .rejected
            terminal :=
              ⟨r.pendingRejectError, r.pendingRejectCode, false, r.pendingRejectRetryable⟩
            pendingReject := false },
          { sh with messageIds := ids, credit := r.releasedStream sh.credit }⟩
  | fileCommitEmitted {frame ids deadlineMs} (hstate : r.state = .awaitingCompletion)
      (hframe : Carries r.context .fileCommit r.fileCommitFields frame) :
      Final call r sh
        ⟨{ r.update with outboundFrame := frame },
          { r with fileCommitSent := true, dataDeadlineMs := deadlineMs },
          { sh with messageIds := ids }⟩
  | completionAckEmitted {frame ids} (hstate : r.state = .awaitingCompletion)
      (hpending : r.completionAckPending = true)
      (hframe : Carries r.context .transferCompleteAck r.completeAckFields frame) :
      Final call r sh
        ⟨{ r.update with outboundFrame := frame, state := .completed, terminal := true },
          { r.released with completionAckPending := false, state := .completed, terminal := {} },
          { sh with messageIds := ids, credit := r.releasedCredit sh.credit }⟩
  | chunkTaken {frame tx result new ack ids deadlineMs budget}
      (hwrites : r.Writes call frame tx result)
      (hnew : new = r.chunkWritten (fieldBytes frame 4) (fieldBytes frame 5) tx result)
      (hack : Carries r.context .chunkAck new.chunkAckFields ack) :
      Final call r sh
        ⟨{ r.update with outboundFrame := ack },
          { new with lastAckEncodedOffset := new.nextOffset, dataDeadlineMs := deadlineMs },
          { sh with messageIds := ids, temporaryBudget := budget }⟩
  | chunkUnanswered {frame tx result new tx' log budget report ids}
      (hwrites : r.Writes call frame tx result)
      (hnew : new = r.chunkWritten (fieldBytes frame 4) (fieldBytes frame 5) tx result)
      (haborts : new.Aborts tx' log)
      (hframe : Sender.Reports r.context .busy (wireErrorMayRetry .busy) report) :
      Final call r sh
        ⟨{ failureUpdate new.failureState .internalFailure .busy false with
            retryable := wireErrorMayRetry .busy, outboundFrame := report },
          new.failedWith tx' log .internalFailure .busy false,
          ⟨ids, new.releasedCredit sh.credit, budget⟩⟩
  | acceptEmitted {frame ids deadlineMs tx chunkSize initialWindow nowMs}
      (hcall : call = .accept chunkSize initialWindow nowMs) (hstate : r.state = .awaitingDecision)
      (htx : r.transaction = some tx) (hreceiving : tx.state = .receiving)
      (hframe : Carries r.context .transferAccept r.acceptFields frame) :
      Final call r sh
        ⟨{ state := .receivingFile, outboundFrame := frame },
          { r with state := .receivingFile, dataDeadlineMs := deadlineMs },
          { sh with messageIds := ids }⟩
  | cancelEmission {o} (hcall : call.inbound = none) (hstate : r.state = .cancelling)
      (hpending : r.cancellation.framePending = true) (ho : EmitsCancel r sh o) :
      Final call r sh o
  | ackEmission {o} (hpending : r.cancellation.ackPending = true) (ho : EmitsCancelAck r sh o) :
      Final call r sh o
  | finishedCommitted (hterm : isTerminal r.state = false) (hdurable : r.durableCommit = true) :
      Final call r sh (r.finishedCommitted.stay { sh with credit := r.releasedCredit sh.credit })
  | finished {tx log budget} (hterm : isTerminal r.state = false)
      (hdurable : r.durableCommit = false) (haborts : r.Aborts tx log) :
      Final call r sh
        ((r.finished tx log).stay
          { sh with credit := r.releasedCredit sh.credit, temporaryBudget := budget })
  | shutdownTerminal (hcall : call = .shutdown) (hterm : isTerminal r.state = true) :
      Final call r sh ({ r with isShutdown := true, cancellation := r.cancellation.clear }.stay sh)
  | shutdownCommitted (hcall : call = .shutdown) (hterm : isTerminal r.state = false)
      (hdurable : r.durableCommit = true) :
      Final call r sh
        ({ r.finishedCommitted with isShutdown := true }.stay
          { sh with credit := r.releasedCredit sh.credit })
  | shutdownFinished {tx log budget} (hcall : call = .shutdown)
      (hterm : isTerminal r.state = false) (hdurable : r.durableCommit = false)
      (haborts : r.Aborts tx log) :
      Final call r sh
        ({ r.finished tx log with isShutdown := true }.stay
          { sh with credit := r.releasedCredit sh.credit, temporaryBudget := budget })
  | ackApplied {encoded nowMs frame code tx log budget}
      (hcall : call = .receiveFrame encoded nowMs) (hsent : r.cancellation.sent = true)
      (hstate : isTerminal r.state = true ∨ r.state = .cancelling)
      (hframe : r.Decoded encoded frame) (htype : frame.header.messageType = .cancelAck)
      (hcode : decodeWireError (unsigned frame 2) = some code) (haborts : r.Aborts tx log) :
      Final call r sh
        ((r.acknowledged tx log code).stay
          { sh with credit := r.releasedCredit sh.credit, temporaryBudget := budget })
  | remoteError {encoded nowMs frame report tx log budget}
      (hcall : call = .receiveFrame encoded nowMs) (hterm : isTerminal r.state = false)
      (hframe : r.Decoded encoded frame) (htype : frame.header.messageType = .error)
      (hreport : readErrorReport frame = some report) (haborts : r.Aborts tx log) :
      Final call r sh
        ((r.remotelyFailed tx log report).stay
          { sh with credit := r.releasedCredit sh.credit, temporaryBudget := budget })

/-- A call: silent moves, then an ending. -/
def Step (r : Receiver) (sh : Shared) (call : ReceiverCall) (o : Outcome Receiver) : Prop :=
  ∃ r' sh', Moves call r sh r' sh' ∧ Final call r' sh' o

/-! ### Every call is of this form -/

/-- A call is made of moves and an ending, and draws from the sequence that it finds. -/
structure Ends (r : Receiver) (sh : Shared) (call : ReceiverCall) (o : Outcome Receiver) :
    Prop where
  step : Step r sh call o
  draws : Draws sh.messageIds o

section Complete

variable {env : Environment} {r r' : Receiver} {sh sh' : Shared} {call : ReceiverCall}
  {o : Outcome Receiver} {nowMs : Nat}

theorem Step.of_final (h : Final call r sh o) : Step r sh call o := ⟨r, sh, .refl, h⟩

theorem Step.move (hmove : Silent call r sh r' sh') (h : Step r' sh' call o) :
    Step r sh call o := by
  obtain ⟨r'', sh'', hmoves, hfinal⟩ := h
  exact ⟨r'', sh'', .head hmove hmoves, hfinal⟩

/-- An ending without a frame. -/
theorem Ends.silent (h : Final call r sh o) (hids : o.shared.messageIds = sh.messageIds)
    (hframe : o.update.outboundFrame = []) : Ends r sh call o :=
  ⟨.of_final h, .silent hids hframe⟩

theorem Ends.move (hmove : Silent call r sh r' sh') (h : Ends r' sh' call o)
    (hids : sh'.messageIds = sh.messageIds) : Ends r sh call o :=
  ⟨.move hmove h.step, hids ▸ h.draws⟩

theorem Ends.both (h : Ends r sh call o) : Step r sh call o ∧ Draws sh.messageIds o :=
  ⟨h.step, h.draws⟩

theorem Ends.tick (nowMs : Nat) (h : Ends (r.atTime nowMs) sh call o) : Ends r sh call o :=
  .move (@Silent.tick call r sh nowMs sh.messageIds) h rfl

/-- Reading a frame moves the sequence. -/
theorem Ends.renumbered {ids : ConnectionMessageSequence}
    (h : Ends r { sh with messageIds := ids } call o) : Step r sh call o ∧ Draws ids o :=
  ⟨.move (@Silent.tick call r sh r.lastNowMs ids) h.step, h.draws⟩

theorem rests_of_state {update : TransferUpdate} (h : r.state ≠ .receivingFile)
    (hsettled : r.Settled) : r.Rests call update :=
  ⟨fun _ _ _ _ _ hstate => absurd hstate h, hsettled⟩

theorem settled_of_state (h : ¬ r.Undecided) : r.Settled := fun hother => absurd hother h

theorem Ends.quiet {update : TransferUpdate} (h : r.Rests call update)
    (hstate : update.state = r.state) (hterminal : update.terminal = isTerminal r.state)
    (hframe : update.outboundFrame = []) : Ends r sh call ⟨update, r, sh⟩ :=
  .silent (.quiet hstate hterminal hframe h) rfl hframe

theorem Ends.stay (h : r.Rests call r.update) : Ends r sh call (r.stay sh) := .quiet h rfl rfl rfl

theorem Ends.fail {error : TransferError} {wireError : WireErrorCode} {connectionFatal : Bool}
    (hterm : isTerminal r.state = false) (hwire : wireError ≠ .completed) :
    Ends r sh call (r.fail env sh error wireError connectionFatal) := by
  obtain ⟨tx, log, budget, frame, ids, hfail, haborts, hframe, hdraws⟩ :=
    fail_spec env r sh error wireError connectionFatal
  rw [hfail] at hdraws ⊢
  exact ⟨.of_final (.failed error wireError connectionFatal hterm haborts hframe hwire), hdraws⟩

theorem Ends.cancelTimeout (hstate : r.state = .cancelling) (hsent : r.cancellation.sent = true) :
    Ends r sh call (r.cancelTimeout env sh) := by
  obtain ⟨tx, log, budget, frame, ids, hfail, haborts, hframe, hdraws⟩ :=
    cancelTimeout_spec env r sh
  rw [hfail] at hdraws ⊢
  exact ⟨.of_final (.cancelTimeout hstate hsent haborts hframe), hdraws⟩

/-- A call at a time that is not over. -/
theorem Ends.observed {next : Receiver → Outcome Receiver} (hterm : isTerminal r.state = false)
    (hnext : Ends (r.atTime nowMs) sh call (next (r.atTime nowMs))) :
    Ends r sh call
      (match r.observe nowMs with
        | none => r.fail env sh .stateViolation .stateViolation false
        | some r => next r) := by
  unfold observe
  split
  · exact .fail hterm (by decide)
  rename_i h
  split at h <;> cases h
  exact .tick nowMs hnext

theorem wireErrorForTransaction_ne_completed (result : TransactionResult) :
    wireErrorForTransaction result ≠ .completed := by
  unfold wireErrorForTransaction
  split <;> decide

theorem Ends.unlessTimeout {next : Receiver → Shared → Outcome Receiver}
    (hterm : isTerminal r.state = false) (hsettled : r.Settled)
    (hnext : Ends r sh call (next r sh)) :
    Ends r sh call (unlessTimeout (r.checkTimeout env sh nowMs) next) := by
  unfold Transfer.unlessTimeout
  rcases checkTimeout_cases env r sh nowMs with ⟨-, h⟩ | ⟨⟨hstate, hsent⟩, h⟩ | h
  · obtain ⟨tx, log, budget, frame, ids, hfail, -⟩ := fail_spec env r sh .timeout .timeout false
    rw [h, if_pos (by rw [hfail]; simp [failureUpdate])]
    exact .fail hterm (by decide)
  · obtain ⟨tx, log, budget, frame, ids, hfail, -⟩ := cancelTimeout_spec env r sh
    rw [h, if_pos (by rw [hfail]; simp [failureUpdate])]
    exact .cancelTimeout hstate hsent
  rw [h]
  split
  · exact .stay ⟨fun _ _ _ _ hnone => absurd hnone ‹_›, hsettled⟩
  · exact hnext

theorem ends_checkTimeout (hterm : isTerminal r.state = false) (hrests : r.Rests call r.update) :
    Ends r sh call (r.checkTimeout env sh nowMs) := by
  rcases checkTimeout_cases env r sh nowMs with ⟨-, h⟩ | ⟨⟨hstate, hsent⟩, h⟩ | h
  · rw [h]
    exact .fail hterm (by decide)
  · rw [h]
    exact .cancelTimeout hstate hsent
  rw [h]
  exact .stay hrests

theorem Aborts.trans {tx tx' : Option ReceiveTransaction} {log log' : List LogEntry}
    (h : r.Aborts tx log) (h' : (r.withTransaction tx log).Aborts tx' log') :
    r.Aborts tx' log' := by
  constructor
  · intro hnone
    obtain ⟨htx, hlog⟩ := h.absent hnone
    obtain ⟨htx', hlog'⟩ := h'.absent htx
    exact ⟨htx', hlog'.trans hlog⟩
  intro old hold
  obtain ⟨new, calls, htx, hlog, hkept, hended, hsame, hcalls⟩ := h.present old hold
  obtain ⟨new', calls', htx', hlog', hkept', hended', hsame', hcalls'⟩ := h'.present new htx
  refine ⟨new', calls ++ calls', htx', ?_, ?_, ?_, ?_, ?_⟩
  · rw [hlog', show (r.withTransaction tx log).log = log from rfl, hlog]
    simp
  · intro hcommitted
    obtain ⟨rfl, rfl⟩ := hkept hcommitted
    obtain ⟨rfl, rfl⟩ := hkept' hcommitted
    exact ⟨rfl, rfl⟩
  · intro hother
    refine hended' fun hcommitted => ?_
    have := hended hother
    rw [ReceiveTransaction.Ended, hcommitted] at this
    simp at this
  · exact ⟨hsame'.1.trans hsame.1, hsame'.2.trans hsame.2⟩
  intro call hcall
  rcases List.mem_append.mp hcall with hcall | hcall
  · exact hcalls call hcall
  · exact hcalls' call hcall

theorem reason_of_localRejectCode {code : WireErrorCode} (h : localRejectCode code ≠ false) :
    wireErrorIsRejectReason code = true := by
  cases code <;> simp_all [localRejectCode, wireErrorIsRejectReason]

theorem encode_spec {type : MessageType} {fields : List FieldView} {result : Option Bytes}
    {next : Shared} (hlisted : Listed type fields)
    (h : r.encode env sh type fields = (result, next)) :
    ∃ ids, next = { sh with messageIds := ids } ∧ Encodes sh.messageIds result ids ∧
      ∀ frame, result = some frame → Carries r.context type fields frame := by
  cases h
  refine ⟨_, rfl, encodes_encodeFrame rfl, fun frame hframe => ?_⟩
  exact encodeFrame_carries hlisted (Prod.ext hframe rfl)

/-- A frame is sent, or the call goes on without it. -/
theorem Ends.encoded {type : MessageType} {fields : List FieldView}
    {refused : Shared → Outcome Receiver} {sent : Bytes → Shared → Outcome Receiver}
    (hlisted : Listed type fields)
    (hout : ∀ frame sh, (sent frame sh).shared.messageIds = sh.messageIds ∧
      (sent frame sh).update.outboundFrame = frame)
    (hrefused : ∀ ids, Ends r { sh with messageIds := ids } call
      (refused { sh with messageIds := ids }))
    (hsent : ∀ frame ids, Carries r.context type fields frame →
      Final call r sh (sent frame { sh with messageIds := ids })) :
    Ends r sh call
      (match r.encode env sh type fields with
        | (none, sh) => refused sh
        | (some frame, sh) => sent frame sh) := by
  split
  all_goals
    rename_i hencode
    obtain ⟨ids, rfl, hencodes, hcarries⟩ := encode_spec hlisted hencode
  · exact ⟨.move (@Silent.tick call r sh r.lastNowMs ids) (hrefused ids).step,
      hencodes.refused (hrefused ids).draws⟩
  · obtain ⟨hids, hemitted⟩ := hout _ _
    exact ⟨.of_final (hsent _ ids (hcarries _ rfl)), hencodes.issued hids hemitted⟩

theorem listed_fileCommitFields (r : Receiver) : Listed .fileCommit r.fileCommitFields :=
  listed_of [(1, 1), (2, 1), (3, 1)] rfl (by decide)

theorem ends_pendingEncodingFailure (hterm : isTerminal r.state = false)
    (hstate : r.state ≠ .receivingFile) (hundecided : ¬ r.Undecided) :
    Ends r sh call (r.pendingEncodingFailure env sh) := by
  unfold pendingEncodingFailure
  split
  · exact .fail hterm (by decide)
  · exact .quiet (rests_of_state hstate (settled_of_state hundecided)) rfl rfl rfl

theorem ends_emitPendingReject (hstate : r.state = .rejecting) :
    Ends r sh call (r.emitPendingReject env sh) := by
  simp only [emitPendingReject, releaseStream_eq]
  refine .encoded (listed_of [(1, 1), (2, 1), (3, 1)] rfl (by decide)) (fun _ _ => ⟨rfl, rfl⟩)
    (fun _ => ?_) fun _ _ => .rejectEmitted hstate
  exact ends_pendingEncodingFailure (hstate ▸ rfl) (by simp [hstate])
    (by simp [Undecided, hstate])

theorem ends_emitPendingFileCommit (hstate : r.state = .awaitingCompletion) :
    Ends r sh call (r.emitPendingFileCommit env sh) := by
  refine .encoded (listed_fileCommitFields _) (fun _ _ => ⟨rfl, rfl⟩) (fun _ => ?_) fun _ _ =>
    .fileCommitEmitted hstate
  exact ends_pendingEncodingFailure (hstate ▸ rfl) (by simp [hstate])
    (by simp [Undecided, hstate])

theorem ends_emitPendingCompletionAck (hstate : r.state = .awaitingCompletion)
    (hpending : r.completionAckPending = true) :
    Ends r sh call (r.emitPendingCompletionAck env sh) := by
  simp only [emitPendingCompletionAck, releaseBoth_eq]
  refine .encoded (listed_of [(1, 1), (2, 1)] rfl (by decide)) (fun _ _ => ⟨rfl, rfl⟩)
    (fun _ => ?_) fun _ _ => .completionAckEmitted hstate hpending
  exact ends_pendingEncodingFailure (hstate ▸ rfl) (by simp [hstate])
    (by simp [Undecided, hstate])

theorem ends_beginReject {error : TransferError} {code : WireErrorCode} {retryable : Bool}
    (hstate : r.state = .awaitingDecision) (hreason : wireErrorIsRejectReason code = true) :
    Ends r sh call (r.beginReject env sh error code retryable nowMs) := by
  obtain ⟨tx, log, budget, habort, haborts⟩ := abortTransaction_spec env r sh
  simp only [beginReject, habort, releaseCredit_eq]
  exact .move (.rejectBegun hstate haborts hreason) (ends_emitPendingReject rfl) rfl

theorem ends_rejectForStorage {result : TransactionResult} (hstate : r.state = .awaitingDecision) :
    Ends r sh call (r.rejectForStorage env sh result nowMs) := by
  simp only [rejectForStorage]
  split
  · exact .fail (hstate ▸ rfl) (wireErrorForTransaction_ne_completed _)
  · exact ends_beginReject hstate ((Bool.not_eq_false _).mp ‹_›)

theorem Ends.ackEmission (hpending : r.cancellation.ackPending = true) :
    Ends r sh call (r.emitCancelAck env sh) := by
  obtain ⟨hemits, hdraws⟩ := emitCancelAck_spec env r sh
  exact ⟨.of_final (.ackEmission hpending hemits), hdraws⟩

theorem Ends.cancelEmission (hcall : call.inbound = none) (hstate : r.state = .cancelling)
    (hpending : r.cancellation.framePending = true) : Ends r sh call (r.emitCancel env sh) := by
  obtain ⟨hemits, hdraws⟩ := emitCancel_spec env r sh
  exact ⟨.of_final (.cancelEmission hcall hstate hpending hemits), hdraws⟩

theorem pendingEncodingFailure_frame :
    (r.pendingEncodingFailure env sh).update.outboundFrame = [] := by
  unfold pendingEncodingFailure
  split
  · simp [fail, failureUpdate]
  · rfl

theorem ends_nextPending (hcall : call.inbound = none)
    (hstate : r.state = .rejecting ∨ r.state = .awaitingCompletion ∨ r.state = .cancelling) :
    Ends r sh call (r.nextPending env sh nowMs) := by
  simp only [nextPending]
  split
  · split
    · exact .cancelEmission hcall ‹_› ‹_›
    · exact .stay (rests_of_state (by simp [*]) (settled_of_state (by simp [Undecided, *])))
  split
  · exact ends_emitPendingReject ‹_›
  have hcompletion : r.state = .awaitingCompletion := by
    rcases hstate with h | h | h
    · exact absurd h ‹_›
    · exact h
    · exact absurd h ‹_›
  split
  · exact ends_emitPendingCompletionAck hcompletion ‹_›
  split
  · split
    · exact ends_emitPendingFileCommit hcompletion
    rename_i hframe
    unfold emitPendingFileCommit at hframe ⊢
    split at hframe
    · exact absurd pendingEncodingFailure_frame hframe
    rename_i hencode
    obtain ⟨ids, rfl, hencodes, hcarries⟩ := encode_spec (listed_fileCommitFields _) hencode
    exact ⟨.of_final (.fileCommitEmitted hcompletion (hcarries _ rfl)), hencodes.issued rfl rfl⟩
  · exact .stay (rests_of_state (by simp [*]) (settled_of_state (by simp [Undecided, *])))

theorem ends_nextOutbound (hsettled : r.Settled) (nowMs : Nat) :
    Ends r sh (.nextOutbound nowMs) (r.nextOutbound env sh nowMs) := by
  unfold nextOutbound
  split
  · exact .stay ⟨nofun, hsettled⟩
  split
  · exact .stay ⟨nofun, hsettled⟩
  split
  · exact .stay ⟨nofun, hsettled⟩
  rename_i hwaiting
  split
  · split
    · exact .quiet ⟨nofun, hsettled⟩ rfl rfl rfl
    · exact .fail (Bool.eq_false_iff.mpr ‹_›) (by decide)
  rename_i observed hobserved
  obtain rfl : observed = r.atTime nowMs := by
    unfold observe at hobserved
    split at hobserved <;> cases hobserved
    rfl
  refine .tick nowMs ?_
  split
  · split
    · exact .silent (.ackDropped ‹_› rfl rfl rfl) rfl rfl
    · exact .fail (Bool.eq_false_iff.mpr ‹_›) (by decide)
  split
  · exact .ackEmission ‹_›
  rename_i hack
  split
  · exact .stay ⟨nofun, hsettled⟩
  refine .unlessTimeout (Bool.eq_false_iff.mpr ‹_›) hsettled (ends_nextPending rfl ?_)
  by_contra hstates
  push Not at hstates
  refine hwaiting ⟨hstates.1, hstates.2.1, hstates.2.2, ?_⟩
  exact Bool.eq_false_iff.mpr hack

theorem ends_receiveTerminal {encoded : Bytes} (hterm : isTerminal r.state = true) :
    Step r sh (.receiveFrame encoded nowMs) (r.receiveTerminal env sh encoded) ∧
      Draws (parseInbound env.authorized r.context sh.messageIds encoded).2
        (r.receiveTerminal env sh encoded) := by
  have hrests {update : TransferUpdate} : r.Rests (.receiveFrame encoded nowMs) update :=
    rests_of_state (fun hstate => by simp [hstate, isTerminal] at hterm) (settled_of_state (by
      rintro (hstate | hstate | hstate) <;> simp [hstate, isTerminal] at hterm))
  simp only [receiveTerminal]
  cases hparsed : parseInbound env.authorized r.context sh.messageIds encoded with
  | mk parsed ids =>
    apply Ends.renumbered
    cases parsed with
    | error refusal => exact .quiet hrests rfl rfl rfl
    | ok envelope =>
      simp only [Except.bind]
      cases hbody : parseBody envelope with
      | error refusal => exact .quiet hrests rfl rfl rfl
      | ok frame =>
        have hinbound : Inbound env.authorized r.context sh.messageIds encoded frame :=
          ⟨envelope, congrArg Prod.fst hparsed, hbody⟩
        have hframe : r.Decoded encoded frame :=
          ⟨hinbound.decodeFrame_eq, hinbound.raw_eq⟩
        simp only
        split
        · exact .quiet hrests rfl rfl rfl
        split
        · rename_i htype
          exact .move (.reacknowledging rfl hterm hframe htype.1) (.ackEmission rfl) rfl
        split
        · rename_i htype hsent hcode
          obtain ⟨tx, log, budget, happly, haborts⟩ :=
            applyCancelAck_spec env r { sh with messageIds := ids } ‹_›
          rw [happly]
          exact .silent (.ackApplied rfl hsent (.inl hterm) hframe htype hcode haborts) rfl rfl
        · exact .quiet hrests rfl rfl rfl

section Body

variable {encoded : Bytes} {nowMs : Nat} {frame : ParsedFrame} {transferId : Bytes}

theorem ends_receiveError (hterm : isTerminal r.state = false)
    (hframe : r.Decoded encoded frame) (htype : frame.header.messageType = .error) :
    Ends r sh (.receiveFrame encoded nowMs) (r.receiveError env sh frame) := by
  simp only [receiveError]
  split
  · exact .fail hterm (by decide)
  obtain ⟨tx, log, budget, habort, haborts⟩ := abortUnlessDurable_spec env r sh
  simp only [habort, releaseBoth_eq]
  exact .silent (.remoteError rfl hterm hframe htype ‹_› haborts) rfl rfl

theorem ends_receiveOffer (hstate : r.state = .created) (hsettled : r.Settled)
    (hframe : r.Decoded encoded frame)
    (hid : readTransferId frame = some transferId) :
    Ends r sh (.receiveFrame encoded nowMs) (r.receiveOffer env sh frame transferId nowMs) := by
  have hterm : isTerminal r.state = false := hstate ▸ rfl
  unfold receiveOffer
  split
  · exact .fail hterm (by decide)
  rename_i htype
  split
  · exact .fail hterm (by decide)
  rename_i hvalid
  push Not at hvalid
  by_cases hcopies : env.copies < 3
  · simp only [recordOffer, if_pos hcopies]
    exact .move (.offerRecorded hstate) (.fail (by exact hterm) (by decide)) rfl
  simp only [recordOffer, if_neg hcopies, if_neg (show ¬ env.copies < 1 by omega),
    if_neg (show ¬ env.copies < 2 by omega)]
  exact .move (.offerTaken rfl hstate hframe (not_not.mp htype) hid hvalid.2.2.1)
    (.stay (rests_of_state (by simp [offerTaken])
    fun _ => hsettled (.inl hstate))) rfl

theorem ends_receiveCancel (hterm : isTerminal r.state = false) (hcreated : r.state ≠ .created)
    (hframe : r.Decoded encoded frame) (htype : frame.header.messageType = .cancel) :
    Ends r sh (.receiveFrame encoded nowMs) (r.receiveCancel env sh frame) := by
  unfold receiveCancel
  split
  · exact .fail hterm (by decide)
  obtain ⟨tx, log, budget, hbegin, haborts⟩ := beginRemoteCancel_spec env r sh
  rw [hbegin]
  exact .move (.remotelyCancelled rfl hterm hcreated hframe htype haborts) (.ackEmission rfl) rfl

theorem ends_receiveCancelAck (hterm : isTerminal r.state = false)
    (hstate : r.state = .cancelling) (hframe : r.Decoded encoded frame)
    (htype : frame.header.messageType = .cancelAck) :
    Ends r sh (.receiveFrame encoded nowMs) (r.receiveCancelAck env sh frame) := by
  unfold receiveCancelAck
  split
  · rename_i code hsent hcode
    obtain ⟨tx, log, budget, happly, haborts⟩ := applyCancelAck_spec env r sh code
    rw [happly]
    exact .silent (.ackApplied rfl hsent (.inr hstate) hframe htype hcode haborts) rfl rfl
  · exact .fail hterm (by decide)

theorem recordEntry_false {copies : Nat} (request : ValidatedReceiveRequest) (h : copies < 4) :
    ∃ path commitment recorded, r.recordEntry copies frame request =
        ({ r with
          manifest := { r.manifest with relativePath := path, fileCommitment := commitment }
          request := recorded }, false) ∧ (recorded = r.request ∨ recorded = some request) := by
  refine ⟨if copies < 2 then r.manifest.relativePath else fieldBytes frame 4,
    if copies < 3 then r.manifest.fileCommitment else fieldBytes frame 6,
    if copies < 1 then r.request else some request, ?_, by split <;> simp⟩
  simp only [recordEntry, if_pos h]
  split_ifs <;> rfl

theorem ends_receiveManifestEntry (hstate : r.state = .receivingManifest) (hsettled : r.Settled)
    (hentry : r.manifestEntryReceived = false) (hframe : r.Decoded encoded frame) :
    Ends r sh (.receiveFrame encoded nowMs) (r.receiveManifestEntry env sh frame nowMs) := by
  have hterm : isTerminal r.state = false := hstate ▸ rfl
  unfold receiveManifestEntry
  split
  · exact .fail hterm (by decide)
  rename_i hmatch
  push Not at hmatch
  split
  · exact .fail hterm (by decide)
  rename_i request hrequest
  have hsize := validateReceiveRequest_ok hrequest
  by_cases hcopies : env.copies < 4
  · obtain ⟨path, commitment, kept, hkept, hcases⟩ := recordEntry_false request hcopies
    rw [hkept]
    refine .move (.entryRecorded hstate hentry ?_) (.fail (by exact hterm) (by decide)) rfl
    exact hcases.imp id fun h => ⟨request, h, hsize⟩
  simp only [recordEntry, if_neg hcopies, if_neg (show ¬ env.copies < 1 by omega),
    if_neg (show ¬ env.copies < 2 by omega), if_neg (show ¬ env.copies < 3 by omega)]
  exact .move (.entryTaken rfl hstate hentry hframe hmatch.1 hsize) (.stay (rests_of_state
    (by simp [Receiver.entryTaken, hstate]) fun _ => hsettled (.inr (.inl hstate)))) rfl

theorem ends_receiveManifestEnd (hstate : r.state = .receivingManifest) (hsettled : r.Settled)
    (hentry : r.manifestEntryReceived = true) (hframe : r.Decoded encoded frame) :
    Ends r sh (.receiveFrame encoded nowMs) (r.receiveManifestEnd env sh frame nowMs) := by
  have hterm : isTerminal r.state = false := hstate ▸ rfl
  simp only [receiveManifestEnd]
  split
  · exact .fail hterm (by decide)
  rename_i hmatch
  push Not at hmatch
  split
  · exact .fail hterm (by decide)
  split
  · rename_i hrefused
    rw [hrefused]
    exact .move (.manifestRefused hstate hentry) (.fail (by exact hterm) (by decide)) rfl
  rename_i haccepted
  have haccepted : env.verifyManifest
      ⟨r.manifest, r.rawOfferFrame, r.rawEntryFrame, frame.raw⟩ = true := by
    simpa using haccepted
  rw [haccepted, hframe.raw]
  refine .move (.manifestVerified rfl hstate hentry hframe hmatch.1) ?_ rfl
  split
  · exact .fail rfl (by decide)
  exact .quiet (rests_of_state (by simp [Receiver.manifestVerified])
    fun _ => hsettled (.inr (.inl hstate))) rfl rfl rfl

theorem ends_receiveFileBegin (hstate : r.state = .receivingFile)
    (hbegun : r.fileBeginReceived = false) (hframe : r.Decoded encoded frame) :
    Ends r sh (.receiveFrame encoded nowMs) (r.receiveFileBegin env sh frame) := by
  unfold receiveFileBegin
  split
  · exact .fail (hstate ▸ rfl) (by decide)
  rename_i hmatch
  push Not at hmatch
  refine .move (.fileBegun hstate hbegun) (.stay ⟨fun encoded' nowMs' message hcall _ _
    hmessage htype => ?_, settled_of_state (by simp [Undecided, hstate])⟩) rfl
  cases hcall
  cases hframe.message.symm.trans hmessage
  cases hmatch.1.symm.trans htype

theorem ends_receiveFileChunk (hstate : r.state = .receivingFile)
    (hbegun : r.fileBeginReceived = true) (hframe : r.Decoded encoded frame)
    (htype : frame.header.messageType = .fileChunk) :
    Ends r sh (.receiveFrame encoded nowMs) (r.receiveFileChunk env sh frame nowMs) := by
  have hterm : isTerminal r.state = false := hstate ▸ rfl
  simp only [receiveFileChunk]
  split
  · exact .fail hterm (by decide)
  rename_i hplaced
  split
  · exact .fail hterm (by decide)
  rename_i hcredit
  split
  · rename_i hrefused
    rw [hrefused]
    exact .move (.chunkChecked hstate (by simp)) (.fail (by exact hterm) (by decide)) rfl
  rename_i haccepted
  rw [(Bool.not_eq_false _).mp haccepted]
  split
  · exact .move (.chunkChecked hstate fun _ => ‹_›) (.stay
      ⟨fun _ _ _ _ _ _ _ _ => .inr ‹_›,
        settled_of_state (by simp [Undecided, Receiver.chunkChecked, hstate])⟩) rfl
  rename_i tx htx
  have hspec := @ReceiveTransaction.write_spec env.toBackend tx sh.temporaryBudget
    (fieldBytes frame 4)
  split
  · rename_i hbroken
    exact .move (.chunkBroken hstate htx (hspec.2 hbroken))
      (.fail (by exact hterm) (wireErrorForTransaction_ne_completed _)) rfl
  rename_i hwritten
  have hdata : fieldBytes frame 4 ≠ [] := by
    intro hempty
    exact hplaced (.inr (.inr (.inl hempty)))
  obtain ⟨hreceiving, hroom, hnew, result, herror, hbytes, hcalls⟩ :=
    hspec.1 ((Bool.not_eq_false _).mp hwritten) hdata
  have hwrites : r.Writes (.receiveFrame encoded nowMs) frame tx result :=
    ⟨⟨encoded, nowMs, rfl, hframe⟩, hstate, hbegun, htype, hplaced,
      Nat.not_lt.mp hcredit, htx, hreceiving, hroom, herror, hbytes⟩
  simp only [applyStep, hnew, hcalls]
  split
  all_goals
    rename_i hencode
    obtain ⟨ids, rfl, hencodes, hcarries⟩ :=
      encode_spec (listed_of [(1, 1), (2, 1), (3, 1), (4, 1)] rfl (by decide)) hencode
  · obtain ⟨tx', log, budget, report, ids', hfail, haborts, hreport, hdraws⟩ :=
      fail_spec env (r.chunkWritten (fieldBytes frame 4) (fieldBytes frame 5) tx result)
        _ .internalFailure .busy false
    exact ⟨hfail ▸ .of_final (.chunkUnanswered hwrites rfl haborts hreport),
      hencodes.refused hdraws⟩
  · exact ⟨.of_final (.chunkTaken hwrites rfl (hcarries _ rfl)), hencodes.issued rfl rfl⟩

theorem ends_receiveFileEnd (hstate : r.state = .receivingFile)
    (hbegun : r.fileBeginReceived = true) (hframe : r.Decoded encoded frame)
    (htype : frame.header.messageType = .fileEnd) :
    Ends r sh (.receiveFrame encoded nowMs) (r.receiveFileEnd env sh frame nowMs) := by
  have hterm : isTerminal r.state = false := hstate ▸ rfl
  simp only [receiveFileEnd]
  split
  · exact .fail hterm (by decide)
  rename_i hmatch
  push Not at hmatch
  split
  · exact .stay ⟨fun _ _ _ _ _ _ _ _ => .inr ‹_›, settled_of_state (by simp [Undecided, hstate])⟩
  rename_i tx htx
  have hspec := @ReceiveTransaction.sealAndCommit_spec env.toBackend tx sh.temporaryBudget
  split
  · rename_i hbroken
    exact .move (.commitBroken hstate htx (hspec.2 hbroken))
      (.fail (by exact hterm) (wireErrorForTransaction_ne_completed _)) rfl
  rename_i hcommitted
  obtain ⟨hreceiving, hreceived, hnew, hsame, result, hresult, hcalls⟩ :=
    hspec.1 ((Bool.not_eq_false _).mp hcommitted)
  simp only [applyStep, hcalls]
  exact .move (.fileCommitted rfl hframe htype hstate hbegun hmatch.2.2.1 htx hreceiving
    hreceived hnew hsame hresult) (ends_emitPendingFileCommit rfl) rfl

theorem ends_receiveComplete (hstate : r.state = .awaitingCompletion) :
    Ends r sh (.receiveFrame encoded nowMs) (r.receiveComplete env sh frame nowMs) := by
  unfold receiveComplete
  split
  · exact .fail (hstate ▸ rfl) (by decide)
  rename_i hmatch
  push Not at hmatch
  exact .move (.completionPending hstate (Bool.eq_true_of_not_eq_false hmatch.1))
    (ends_emitPendingCompletionAck hstate rfl) rfl

theorem ends_receiveFile (hstate : r.state = .receivingFile) (hframe : r.Decoded encoded frame) :
    Ends r sh (.receiveFrame encoded nowMs) (r.receiveFile env sh frame nowMs) := by
  unfold receiveFile
  split
  · exact ends_receiveFileBegin hstate ‹_› hframe
  rename_i hbegun
  have hbegun : r.fileBeginReceived = true := (Bool.not_eq_false _).mp hbegun
  split
  · exact ends_receiveFileChunk hstate hbegun hframe ‹_›
  split
  · exact ends_receiveFileEnd hstate hbegun hframe ‹_›
  · exact .fail (hstate ▸ rfl) (by decide)

theorem ends_receiveBody (hterm : isTerminal r.state = false) (hsettled : r.Settled)
    (hallowed : receiverAllowedInbound r.state frame.header.messageType r.manifestEntryReceived
      r.fileBeginReceived r.cancelOriginState = true)
    (hframe : r.Decoded encoded frame) :
    Ends r sh (.receiveFrame encoded nowMs) (r.receiveBody env sh frame nowMs) := by
  unfold receiveBody
  split
  · exact ends_receiveError hterm hframe ‹_›
  split
  · exact .fail hterm (by decide)
  rename_i transferId hid
  split
  · exact ends_receiveOffer ‹_› hsettled hframe hid
  split
  · exact .fail hterm (by decide)
  split
  · rename_i htype
    rw [htype] at hallowed
    exact ends_receiveCancel hterm (by simpa [receiverAllowedInbound] using hallowed) hframe htype
  split
  · rename_i htype
    rw [htype] at hallowed
    exact ends_receiveCancelAck hterm (by simpa [receiverAllowedInbound] using hallowed) hframe
      htype
  split
  · exact .stay (rests_of_state (by simp [*]) hsettled)
  · rename_i hstate
    split
    · exact ends_receiveManifestEntry hstate hsettled ‹_› hframe
    rename_i hentry
    exact ends_receiveManifestEnd hstate hsettled ((Bool.not_eq_false _).mp hentry) hframe
  · exact ends_receiveFile ‹_› hframe
  · exact ends_receiveComplete ‹_›
  · exact .fail hterm (by decide)

end Body

/-- Opening the stream is at most one move. -/
theorem ends_openStream {result : StreamOpenResult} {opened : Receiver}
    (h : r.openStream sh = (result, opened, sh')) :
    opened.state = r.state ∧ opened.context = r.context ∧ (r.Settled → opened.Settled) ∧
      (Ends opened sh' call o → Ends r sh call o) := by
  simp only [openStream] at h
  split at h
  · rename_i hnew
    split at h
    · cases h
      exact ⟨rfl, rfl, id, fun hends => .move (.streamOpened hnew.2 hnew.1 ‹_›) hends rfl⟩
    cases h
    exact ⟨rfl, rfl, id, fun hends => .move (.streamRefused hnew.2 hnew.1 ‹_›) hends rfl⟩
  cases h
  exact ⟨rfl, rfl, id, id⟩

/-- The sequence that a call finds: the frame that it is given may have moved it. -/
def found (env : Environment) (r : Receiver) (sh : Shared) :
    ReceiverCall → ConnectionMessageSequence
  | .receiveFrame encoded nowMs =>
    if r.isShutdown = false ∧ (isTerminal r.state = true ∨ r.lastNowMs ≤ nowMs) then
      (parseInbound env.authorized r.context sh.messageIds encoded).2
    else sh.messageIds
  | _ => sh.messageIds

theorem ends_receiveFrame (hsettled : r.Settled) (encoded : Bytes) (nowMs : Nat) :
    Step r sh (.receiveFrame encoded nowMs) (r.receiveFrame env sh encoded nowMs) ∧
      Draws (r.found env sh (.receiveFrame encoded nowMs))
        (r.receiveFrame env sh encoded nowMs) := by
  rw [found]
  unfold receiveFrame
  by_cases hshutdown : r.isShutdown = true
  · rw [if_pos hshutdown, if_neg (by simp [hshutdown])]
    exact Ends.both (.stay ⟨fun _ _ _ _ _ _ _ _ => .inl hshutdown, hsettled⟩)
  simp only [hshutdown, true_and, Bool.false_eq_true, if_false]
  by_cases hterm : isTerminal r.state = true
  · rw [if_pos hterm, if_pos (.inl hterm)]
    exact ends_receiveTerminal hterm
  rw [if_neg hterm]
  rw [Bool.not_eq_true] at hterm
  by_cases hbefore : nowMs < r.lastNowMs
  · rw [observe, if_pos hbefore,
      if_neg (show ¬ (isTerminal r.state = true ∨ r.lastNowMs ≤ nowMs) by simp [hterm, hbefore])]
    exact Ends.both (.fail hterm (by decide))
  rw [observe, if_neg hbefore, if_pos (.inr (Nat.not_lt.mp hbefore))]
  simp only
  cases hparsed : parseInbound env.authorized r.context sh.messageIds encoded with
  | mk parsed ids =>
    apply Ends.renumbered
    refine .tick nowMs ?_
    cases parsed with
    | error refusal =>
      exact .fail (by exact hterm) (parseInbound_wireError (congrArg Prod.fst hparsed))
    | ok envelope =>
      simp only
      split
      all_goals
        rename_i opened next hopen
        obtain ⟨hstate, hcontext, hkept, hmove⟩ := ends_openStream hopen
        have hsettled := hkept hsettled
        have hopened : isTerminal opened.state = false := by rw [hstate]; exact hterm
        refine hmove ?_
      · exact .fail hopened (by decide)
      · exact .fail hopened (by decide)
      refine .unlessTimeout hopened hsettled ?_
      split
      · exact .fail hopened (by decide)
      rename_i hallowed
      split
      · exact .fail hopened (parseBody_wireError ‹_›)
      rename_i frame hbody
      have hinbound : Inbound env.authorized opened.context sh.messageIds encoded frame :=
        ⟨envelope, by rw [hcontext]; exact congrArg Prod.fst hparsed, hbody⟩
      refine ends_receiveBody hopened hsettled ?_ ⟨hinbound.decodeFrame_eq, hinbound.raw_eq⟩
      rw [show frame.header = envelope.header by rw [parseBody_frame hbody]]
      exact (Bool.not_eq_false _).mp hallowed

theorem ends_confirmChunkAckWritten (hsettled : r.Settled) (nextOffset nowMs : Nat) :
    Ends r sh (.confirmChunkAckWritten nextOffset nowMs)
      (r.confirmChunkAckWritten env sh nextOffset nowMs) := by
  unfold confirmChunkAckWritten
  split
  · exact .stay ⟨nofun, hsettled⟩
  rename_i hterm
  rw [Bool.not_eq_true] at hterm
  refine .observed hterm ?_
  split
  · exact .fail (by exact hterm) (by decide)
  split
  · exact .fail (by exact hterm) (by decide)
  rename_i hvalid
  push Not at hvalid
  simp only
  split
  · exact .fail (by exact hterm) (by decide)
  rename_i hroom
  refine .move (.confirmed rfl ?_ hvalid.2.1 hvalid.2.2 (Nat.not_lt.mp hroom))
    (.stay ⟨nofun, hsettled⟩) rfl
  exact (Decidable.em _).imp_right hvalid.1

theorem ends_emitAccept {chunkSize initialWindow nowMs : Nat} {tx : ReceiveTransaction}
    (hcall : call = .accept chunkSize initialWindow nowMs) (hstate : r.state = .awaitingDecision)
    (htx : r.transaction = some tx) (hreceiving : tx.state = .receiving) :
    Ends r sh call (r.emitAccept env sh nowMs) := by
  exact .encoded (listed_of [(1, 1), (2, 1), (3, 1)] rfl (by decide)) (fun _ _ => ⟨rfl, rfl⟩)
    (fun _ => .fail (hstate ▸ rfl) (by decide)) fun _ _ =>
    .acceptEmitted hcall hstate htx hreceiving

theorem ends_openFile {request : ValidatedReceiveRequest} {chunkSize initialWindow nowMs : Nat}
    (hcall : call = .accept chunkSize initialWindow nowMs)
    (hstate : r.state = .awaitingDecision) (hsettled : r.Settled)
    (hlog : .accept .awaitingDecision ∈ r.log)
    (hrequest : r.request = some request) (hchunk : minimumChunkSize ≤ chunkSize)
    (hwindow : chunkSize ≤ initialWindow) (hlimit : initialWindow ≤ maximumTransferWindow) :
    Ends r sh call (r.openFile env sh request chunkSize initialWindow nowMs) := by
  simp only [openFile]
  split
  · rename_i hrefused
    rw [ConnectionCreditBudget.tryReserve_refused hrefused]
    exact ends_rejectForStorage hstate
  rename_i hreserved
  refine .move (.creditReserved hstate (hsettled (.inr (.inr hstate))).1 hlimit
    ((Bool.not_eq_false _).mp hreserved)) ?_ rfl
  split
  · exact ends_rejectForStorage hstate
  split
  · exact ends_rejectForStorage hstate
  have hspec := @ReceiveTransaction.start_spec env.toBackend
    { request := request } sh.temporaryBudget rfl
  split
  · rename_i hbroken
    obtain ⟨hended, -, hcalls⟩ := hspec.2 hbroken
    exact .move (.transactionRefused hstate (hsettled (.inr (.inr hstate))).2 hlog hended
      hcalls)
      (ends_rejectForStorage hstate) rfl
  rename_i hbegun
  obtain ⟨handle, hhandle, hnew, hcalls⟩ := hspec.1 ((Bool.not_eq_false _).mp hbegun)
  simp only [applyStep, hnew, hcalls]
  exact .move (.transactionBegun hstate (hsettled (.inr (.inr hstate))).2 hlog rfl
    hrequest hhandle hchunk hwindow) (ends_emitAccept hcall hstate rfl rfl) rfl

theorem ends_accept (hsettled : r.Settled) (chunkSize initialWindow nowMs : Nat) :
    Ends r sh (.accept chunkSize initialWindow nowMs)
      (r.accept env sh chunkSize initialWindow nowMs) := by
  simp only [accept]
  refine .move (.acceptEntered rfl) ?_ rfl
  split
  · exact .stay ⟨nofun, hsettled⟩
  rename_i hterm
  rw [Bool.not_eq_true] at hterm
  split
  · split
    · exact .stay ⟨nofun, hsettled⟩
    · exact .quiet ⟨nofun, hsettled⟩ rfl rfl rfl
  split
  · exact .quiet ⟨nofun, hsettled⟩ rfl rfl rfl
  rename_i request hrequest
  split
  · exact .quiet ⟨nofun, hsettled⟩ rfl rfl rfl
  rename_i hdecision
  have hdecision : r.state = .awaitingDecision := not_not.mp hdecision
  refine .observed hterm (.unlessTimeout (by exact hterm) hsettled ?_)
  split
  · exact .fail (by exact hterm) (by decide)
  split
  · exact .fail (by exact hterm) (by decide)
  rename_i hpermitted
  unfold Sender.windowRefused at hpermitted
  push Not at hpermitted
  obtain ⟨hchunk, -, -, -, hwindow, hlimit, -⟩ := hpermitted
  refine ends_openFile rfl hdecision hsettled ?_ hrequest hchunk hwindow hlimit
  simp [atTime, hdecision]

theorem ends_reject (hsettled : r.Settled) (code : WireErrorCode) (retryable : Bool) (nowMs : Nat) :
    Ends r sh (.reject code retryable nowMs) (r.reject env sh code retryable nowMs) := by
  unfold reject
  split
  · exact .stay ⟨nofun, hsettled⟩
  rename_i hterm
  rw [Bool.not_eq_true] at hterm
  split
  · split
    · exact .stay ⟨nofun, hsettled⟩
    · exact .quiet ⟨nofun, hsettled⟩ rfl rfl rfl
  split
  · exact .quiet ⟨nofun, hsettled⟩ rfl rfl rfl
  rename_i hvalid
  push Not at hvalid
  refine .observed hterm (.unlessTimeout (by exact hterm) hsettled ?_)
  split
  · exact .fail (by exact hterm) (by decide)
  · exact ends_beginReject hvalid.1 (reason_of_localRejectCode hvalid.2.1)

theorem ends_advance (hsettled : r.Settled) (nowMs : Nat) :
    Ends r sh (.advance nowMs) (r.advance env sh nowMs) := by
  unfold advance
  split
  · exact .stay ⟨nofun, hsettled⟩
  rename_i hterm
  rw [Bool.not_eq_true] at hterm
  refine .observed hterm ?_
  split
  · exact .fail (by exact hterm) (by decide)
  · exact ends_checkTimeout hterm ⟨nofun, hsettled⟩

theorem ends_cancel (hsettled : r.Settled) (nowMs : Nat) :
    Ends r sh (.cancel nowMs) (r.cancel env sh nowMs) := by
  unfold cancel
  split
  · exact .stay ⟨nofun, hsettled⟩
  rename_i hterm
  rw [Bool.not_eq_true] at hterm
  split
  · exact .stay ⟨nofun, hsettled⟩
  rename_i hcancelling
  refine .observed hterm ?_
  split
  · simp only [finishCommitted_eq]
    exact .silent (.finishedCommitted hterm ‹_›) rfl rfl
  rename_i hdurable
  have hdurable : (r.atTime nowMs).durableCommit = false := Bool.eq_false_iff.mpr hdurable
  obtain ⟨tx, log, budget, habort, haborts⟩ := abortTransaction_spec env (r.atTime nowMs) sh
  simp only [habort]
  split
  · obtain ⟨tx', log', budget', hfinish, haborts'⟩ :=
      finishCancelled_spec env ((r.atTime nowMs).withTransaction tx log)
        { sh with temporaryBudget := budget }
    rw [hfinish]
    exact .silent (.finished hterm hdurable (haborts.trans haborts')) rfl rfl
  rename_i hcreated
  push Not at hcreated
  exact .move (.cancelBegun rfl hterm hcreated.1 hcancelling hdurable haborts)
    (.cancelEmission rfl rfl rfl) rfl

theorem ends_shutdown : Ends r sh .shutdown (r.shutdown env sh) := by
  simp only [shutdown]
  split
  · exact .silent (.shutdownTerminal rfl ‹_›) rfl rfl
  rename_i hterm
  rw [Bool.not_eq_true] at hterm
  split
  · simp only [finishCommitted_eq]
    exact .silent (.shutdownCommitted rfl hterm ‹_›) rfl rfl
  rename_i hdurable
  obtain ⟨tx, log, budget, hfinish, haborts⟩ := finishCancelled_spec env
    { r with isShutdown := true, cancellation := r.cancellation.clear } sh
  rw [hfinish]
  exact .silent (.shutdownFinished rfl hterm (Bool.eq_false_iff.mpr hdurable)
    ⟨haborts.absent, haborts.present⟩) rfl rfl

/-- The lists of moves and endings are complete. -/
theorem ends_of_call (env : Environment) (r : Receiver) (sh : Shared) (hsettled : r.Settled)
    (call : ReceiverCall) :
    Step r sh call (r.call env sh call) ∧ Draws (r.found env sh call) (r.call env sh call) := by
  cases call with
  | receiveFrame encoded nowMs => exact ends_receiveFrame hsettled encoded nowMs
  | nextOutbound nowMs => exact (ends_nextOutbound hsettled nowMs).both
  | confirmChunkAckWritten nextOffset nowMs =>
    exact (ends_confirmChunkAckWritten hsettled nextOffset nowMs).both
  | accept chunkSize initialWindow nowMs =>
    exact (ends_accept hsettled chunkSize initialWindow nowMs).both
  | reject code retryable nowMs => exact (ends_reject hsettled code retryable nowMs).both
  | advance nowMs => exact (ends_advance hsettled nowMs).both
  | cancel nowMs => exact (ends_cancel hsettled nowMs).both
  | shutdown => exact ends_shutdown.both

theorem step_of_call (env : Environment) (r : Receiver) (sh : Shared) (hsettled : r.Settled)
    (call : ReceiverCall) : Step r sh call (r.call env sh call) :=
  (ends_of_call env r sh hsettled call).1

end Complete

end Receiver

end XnnTransfer.Transfer
