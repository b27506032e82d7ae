import XnnTransfer.Transfer.MessageIds
import XnnTransfer.Transfer.Sender

/-!
# What one call does to the sender

`Sender.Step` lists every way a call can end, with the exact new state.
`Sender.ends_of_call` shows that the list is complete, and that a call draws at most
one number from the sequence of its connection. Everything proved about runs of the
sender goes through it.
-/

namespace XnnTransfer.Transfer

open Protocol Storage

inductive SenderCall
  | start (nowMs : Nat)
  | nextOutbound (nowMs : Nat)
  | receiveFrame (encoded : Bytes) (nowMs : Nat)
  | advance (nowMs : Nat)
  | cancel (nowMs : Nat)
  | shutdown
  deriving DecidableEq, Repr

/-- The bytes a call is given. -/
def SenderCall.inbound : SenderCall → Option Bytes
  | .receiveFrame encoded _ => some encoded
  | _ => none

namespace Sender

def call (env : Environment) (s : Sender) (sh : Shared) : SenderCall → Outcome Sender
  | .start nowMs => s.start env sh nowMs
  | .nextOutbound nowMs => s.nextOutbound env sh nowMs
  | .receiveFrame encoded nowMs => s.receiveFrame env sh encoded nowMs
  | .advance nowMs => s.advance env sh nowMs
  | .cancel nowMs => s.cancel env sh nowMs
  | .shutdown => s.shutdown sh

/-! ### The parts a call is made of -/

/-- The sender after `ReleaseResources`. -/
def released (s : Sender) : Sender :=
  { s with
    sourceOpen := false
    creditReserved := false
    reservedCredit := if s.creditReserved then 0 else s.reservedCredit
    streamReserved := false }

/-- The credit budget after `ReleaseResources`. -/
def releasedCredit (s : Sender) (credit : ConnectionCreditBudget) : ConnectionCreditBudget :=
  let credit :=
    if s.creditReserved then credit.release .outbound s.reservedCredit else credit
  if s.streamReserved then credit.closeStream s.context.streamId else credit

theorem releaseResources_eq (s : Sender) (sh : Shared) :
    s.releaseResources sh = (s.released, { sh with credit := s.releasedCredit sh.credit }) := by
  unfold releaseResources released releasedCredit
  cases s.creditReserved <;> cases s.streamReserved <;> simp

/-- The sender after `Fail`. -/
def failedWith (s : Sender) (error : TransferError) (wireError : WireErrorCode)
    (connectionFatal : Bool) : Sender :=
  { s.released with
    cancellation := s.cancellation.clear
    state := .failed
    terminal := ⟨error, wireError, connectionFatal, wireErrorMayRetry wireError⟩ }

/-- The sender after `CancelTimeout`. -/
def cancelTimedOut (s : Sender) : Sender :=
  { s.released with
    cancellation :=
      { s.cancellation with
        framePending := false
        ackPending := false
        sent := false
        deadlineMs := 0 }
    state := .failed
    terminal := ⟨.timeout, .timeout, false, false⟩ }

/-- The sender once its `CANCEL` frame is out. -/
def cancelSent (s : Sender) : Sender :=
  { s with
    cancellation :=
      { s.cancellation with
        framePending := false
        sent := true
        deadlineMs := checkedDeadline s.lastNowMs cancelAcknowledgementTimeoutMs } }

/-- The sender that could not number its `CANCEL` frame. -/
def cancelExhausted (s : Sender) : Sender :=
  { s.released with
    cancellation :=
      { s.cancellation with framePending := false, ackPending := false, sent := false }
    state := .cancelled
    terminal := ⟨.messageIdViolation, .messageIdViolation, true, false⟩ }

/-- The sender once its `CANCEL_ACK` frame is out. -/
def cancelAckSent (s : Sender) : Sender :=
  { s with
    cancellation := { s.cancellation with ackPending := false, ackFailureIsTerminal := false } }

/-- The sender that gave up its `CANCEL_ACK` frame. -/
def cancelAckDropped (s : Sender) : Sender :=
  { s with cancellation := { s.cancellation with ackPending := false } }

/-- The sender after `FinishCancelled`. -/
def finished (s : Sender) : Sender :=
  { s.released with
    cancellation := s.cancellation.clear
    state := .cancelled
    terminal := ⟨.cancelled, .cancelled, false, false⟩ }

/-- The sender before the acknowledgement of a remote cancel is emitted. -/
def remotelyCancelled (s : Sender) : Sender :=
  { s.finished with
    cancellation :=
      { s.cancellation.clear with
        sent := s.cancellation.sent
        ackPending := true
        ackFailureIsTerminal := true
        pendingAckCode := .cancelled } }

/-- The sender before a terminal state acknowledges a cancel again. -/
def reacknowledging (s : Sender) : Sender :=
  { s with
    cancellation :=
      { s.cancellation with
        ackFailureIsTerminal :=
          s.cancellation.ackPending && s.cancellation.ackFailureIsTerminal
        ackPending := true
        pendingAckCode := cachedTerminalCode s.state s.terminal } }

/-- The sender after `ApplyCancelAck`. -/
def acknowledged (s : Sender) (code : WireErrorCode) : Sender :=
  { s.released with
    cancellation := s.cancellation.clear
    state := (cancelAckEnd code).1
    terminal := (cancelAckEnd code).2 }

/-- The sender in which `Cancel` tries to emit its frame. -/
def cancelling (s : Sender) : Sender :=
  { s with
    sourceOpen := false
    cancelOriginState := s.state
    state := .cancelling
    cancellation := { s.cancellation with framePending := true, ackPending := false }
    terminal := {} }

/-- The frame is absent or an `ERROR` frame with the code. -/
def Reports (context : TransferContext) (code : WireErrorCode) (retryable : Bool)
    (frame : Bytes) : Prop :=
  frame = [] ∨ (code ≠ .none ∧ Carries context .error (errorFields code retryable) frame)

theorem listed_errorFields (code : WireErrorCode) (retryable : Bool) :
    Listed .error (errorFields code retryable) := by
  cases retryable
  · exact listed_of [(1, 1), (2, 1)] rfl (by decide)
  · exact listed_of [(1, 1), (2, 1), (3, 0)] rfl (by decide)

theorem listed_cancelFields (transferId : Bytes) : Listed .cancel (cancelFields transferId) :=
  listed_of [(1, 1), (2, 1)] rfl (by decide)

theorem listed_cancelAckFields (transferId : Bytes) (code : WireErrorCode) :
    Listed .cancelAck (cancelAckFields transferId code) :=
  listed_of [(1, 1), (2, 1)] rfl (by decide)

theorem reports_encodeErrorFrame {memory : Bool} {context : TransferContext}
    {ids : ConnectionMessageSequence} {code : WireErrorCode} (hcode : code ≠ .none)
    (retryable : Bool) :
    Reports context code retryable
      ((encodeErrorFrame memory context ids code retryable).1.getD []) := by
  cases hframe : encodeErrorFrame memory context ids code retryable with
  | mk frame next =>
    cases frame with
    | none => exact .inl rfl
    | some frame =>
      exact .inr ⟨hcode, encodeFrame_carries (listed_errorFields code retryable) hframe⟩

section Specifications

variable (env : Environment) (s : Sender) (sh : Shared)

/-- The call failed: the sender is left as `after`, and the error is reported at most once. -/
structure Fails (error : TransferError) (code : WireErrorCode) (retryable : Bool) (after : Sender)
    (o : Outcome Sender) : Prop where
  engine : o.engine = after
  credit : o.shared.credit = s.releasedCredit sh.credit
  state : o.update.state = .failed
  error_eq : o.update.error = error
  reports : Reports s.context code retryable o.update.outboundFrame
  draws : Draws sh.messageIds o

theorem fails_fail {error : TransferError} {wireError : WireErrorCode} {connectionFatal : Bool} :
    Fails s sh error wireError (wireErrorMayRetry wireError)
      (s.failedWith error wireError connectionFatal)
      (s.fail env sh error wireError connectionFatal) := by
  simp only [fail, releaseResources_eq]
  split
  · rename_i hreport
    exact ⟨rfl, rfl, rfl, rfl, reports_encodeErrorFrame hreport.2.1 _, .reported rfl rfl⟩
  · exact ⟨rfl, rfl, rfl, rfl, .inl rfl, .silent rfl rfl⟩

theorem fails_cancelTimeout :
    Fails s sh .timeout .timeout false s.cancelTimedOut (s.cancelTimeout env sh) := by
  simp only [cancelTimeout, releaseResources_eq]
  split
  · exact ⟨rfl, rfl, rfl, rfl, reports_encodeErrorFrame (by decide) _, .reported rfl rfl⟩
  · exact ⟨rfl, rfl, rfl, rfl, .inl rfl, .silent rfl rfl⟩

/-- What `EmitCancel` can return. -/
inductive EmitsCancel : Outcome Sender → Prop
  | emitted {frame ids} (h : Carries s.context .cancel (cancelFields s.manifest.transferId) frame) :
      EmitsCancel ⟨{ s.update with outboundFrame := frame }, s.cancelSent,
        { sh with messageIds := ids }⟩
  | busy {ids} :
      EmitsCancel ⟨s.update.asEncodingBusy, s, { sh with messageIds := ids }⟩
  | exhausted {ids} :
      EmitsCancel ⟨s.cancelExhausted.update, s.cancelExhausted,
        { sh with messageIds := ids, credit := s.releasedCredit sh.credit }⟩

theorem emitCancel_spec :
    EmitsCancel s sh (s.emitCancel env sh) ∧ Draws sh.messageIds (s.emitCancel env sh) := by
  unfold emitCancel
  cases hframe : encodeCancelFrame env.memory s.context sh.messageIds s.manifest.transferId with
  | mk frame ids =>
    have hencodes := encodes_encodeFrame hframe
    cases frame with
    | none =>
      simp only [cancellationEncodingFailure, releaseResources_eq]
      split
      · exact ⟨.exhausted, hencodes.refused (.silent rfl rfl)⟩
      · exact ⟨.busy, hencodes.refused (.silent rfl rfl)⟩
    | some frame =>
      exact ⟨.emitted (encodeFrame_carries (listed_cancelFields _) hframe), hencodes.issued rfl rfl⟩

/-- What `EmitCancelAck` can return. -/
inductive EmitsCancelAck : Outcome Sender → Prop
  | emitted {frame ids}
      (h : Carries s.context .cancelAck
        (cancelAckFields s.manifest.transferId s.cancellation.pendingAckCode) frame) :
      EmitsCancelAck ⟨{ s.update with outboundFrame := frame }, s.cancelAckSent,
        { sh with messageIds := ids }⟩
  | busy {ids} :
      EmitsCancelAck ⟨s.update.asEncodingBusy, s, { sh with messageIds := ids }⟩
  | exhausted {ids} :
      EmitsCancelAck ⟨{ s.update with
          error := .messageIdViolation
          wireError := .messageIdViolation
          connectionFatal := true }, s.cancelAckDropped, { sh with messageIds := ids }⟩
  | exhaustedTerminal {ids} (terminal : TerminalRecord) :
      EmitsCancelAck ⟨{ s.cancelAckDropped with terminal := terminal }.update,
        { s.cancelAckDropped with terminal := terminal }, { sh with messageIds := ids }⟩

theorem emitCancelAck_spec :
    EmitsCancelAck s sh (s.emitCancelAck env sh) ∧
      Draws sh.messageIds (s.emitCancelAck env sh) := by
  unfold emitCancelAck
  cases hframe : encodeCancelAckFrame env.memory s.context sh.messageIds s.manifest.transferId
      s.cancellation.pendingAckCode with
  | mk frame ids =>
    have hencodes := encodes_encodeCancelAckFrame hframe
    cases frame with
    | none =>
      simp only [cancelAckEncodingFailure]
      split
      · split
        · exact ⟨.exhaustedTerminal _, hencodes.refused (.silent rfl rfl)⟩
        · exact ⟨.exhausted, hencodes.refused (.silent rfl rfl)⟩
      · exact ⟨.busy, hencodes.refused (.silent rfl rfl)⟩
    | some frame =>
      refine ⟨?_, hencodes.issued rfl rfl⟩
      unfold encodeCancelAckFrame at hframe
      split at hframe
      · cases hframe
      · exact .emitted (encodeFrame_carries (listed_cancelAckFields _ _) hframe)

theorem finishCancelled_eq :
    s.finishCancelled sh = (s.finished, { sh with credit := s.releasedCredit sh.credit }) := by
  simp only [finishCancelled, releaseResources_eq]
  rfl

theorem applyCancelAck_eq (code : WireErrorCode) :
    s.applyCancelAck sh code =
      (s.acknowledged code).stay { sh with credit := s.releasedCredit sh.credit } := by
  simp only [applyCancelAck, releaseResources_eq]
  rfl

/-- `CheckTimeout` either ends the call or changes nothing. -/
theorem checkTimeout_cases (nowMs : Nat) :
    (s.deadlinePassed nowMs = true ∧ s.checkTimeout env sh nowMs =
        s.fail env sh .timeout .timeout false) ∨
      ((s.state = .cancelling ∧ s.cancellation.sent = true) ∧
        s.checkTimeout env sh nowMs = s.cancelTimeout env sh) ∨
      s.checkTimeout env sh nowMs = s.stay sh := by
  unfold checkTimeout
  split
  · exact .inl ⟨‹_›, rfl⟩
  split
  · rename_i h
    exact .inr (.inl ⟨⟨h.1, h.2.1⟩, rfl⟩)
  · exact .inr (.inr rfl)

end Specifications

/-! ### The list of steps -/

/-- The sender after a successful `Observe`. -/
def atTime (s : Sender) (nowMs : Nat) : Sender := { s with lastNowMs := nowMs }

/-- The inbound frame of a call, read with the sender's context. -/
def Reads (env : Environment) (s : Sender) (sh : Shared) (encoded : Bytes)
    (frame : ParsedFrame) : Prop :=
  Inbound env.authorized s.context sh.messageIds encoded frame

/-- The number of bytes the next chunk has. -/
def wanted (s : Sender) : Nat := min s.chunkSize (s.manifest.fileSize - s.bytesSent)

/-- The sender after its next chunk. -/
def chunkSent (s : Sender) (nowMs : Nat) : Sender :=
  { s with
    bytesSent := s.bytesSent + s.wanted
    availableCredit := s.availableCredit - s.wanted
    unacknowledged := add64 s.unacknowledged s.wanted
    acknowledgementDeadlineMs :=
      if s.unacknowledged = 0 then checkedDeadline nowMs acknowledgementTimeoutMs
      else s.acknowledgementDeadlineMs
    dataDeadlineMs := checkedDeadline nowMs dataProgressTimeoutMs }

/-- The sender after a chunk acknowledgement with these two values. -/
def chunkAcked (s : Sender) (nextOffset increment nowMs : Nat) : Sender :=
  let newlyAcknowledged := nextOffset - s.acknowledgedOffset
  let newUnacknowledged := s.unacknowledged - newlyAcknowledged
  let newAvailable := s.availableCredit + increment
  { s with
    acknowledgedOffset := nextOffset
    unacknowledged := newUnacknowledged
    availableCredit := newAvailable % 2 ^ 32
    reservedCredit := add64 newAvailable newUnacknowledged % 2 ^ 32
    acknowledgementDeadlineMs :=
      if newlyAcknowledged = 0 then s.acknowledgementDeadlineMs
      else if newUnacknowledged = 0 then 0
      else checkedDeadline nowMs acknowledgementTimeoutMs
    dataDeadlineMs := checkedDeadline nowMs dataProgressTimeoutMs }

/-- The sender after an accept with these two values. -/
def acceptedWith (s : Sender) (chunk window nowMs : Nat) : Sender :=
  { s with
    chunkSize := chunk
    reservedCredit := window
    availableCredit := window
    creditReserved := true
    state := .sendingFile
    dataDeadlineMs := checkedDeadline nowMs dataProgressTimeoutMs }

/-- The sender after it was told how the transfer ended. -/
def endedAs (s : Sender) (state : TransferState) (terminal : TerminalRecord) : Sender :=
  { s.released with state := state, terminal := terminal }

/-- A frame that changed nothing and was not refused found the sender past its active states. -/
def Idle (s : Sender) (call : SenderCall) (update : TransferUpdate) : Prop :=
  ∀ encoded nowMs, call = .receiveFrame encoded nowMs → update.error = .none →
    isTerminal s.state = true ∨ s.state = .cancelling ∨ s.isShutdown = true

/-- Every way a call on the sender can end. -/
inductive Step (env : Environment) (s : Sender) (sh : Shared) :
    SenderCall → Outcome Sender → Prop
  | quiet {call update t ids} (hstate : update.state = s.state)
      (hterminal : update.terminal = isTerminal s.state) (hframe : update.outboundFrame = [])
      (hidle : s.Idle call update) :
      Step env s sh call ⟨update, s.atTime t, { sh with messageIds := ids }⟩
  | ackDropped {call update t} (hterm : isTerminal s.state = true)
      (hstate : update.state = s.state) (hterminal : update.terminal = isTerminal s.state)
      (hframe : update.outboundFrame = []) :
      Step env s sh call ⟨update, (s.atTime t).cancelAckDropped, sh⟩
  | failed {call t ids} (error : TransferError) (wireError : WireErrorCode)
      (connectionFatal : Bool) (hterm : isTerminal s.state = false)
      (hwire : wireError ≠ .completed) :
      Step env s sh call
        ((s.atTime t).fail env { sh with messageIds := ids } error wireError connectionFatal)
  | adjustRefused {encoded nowMs ids} {nextOffset increment : Nat}
      (hstate : s.state = .sendingFile) (hsent : nextOffset ≤ s.bytesSent)
      (hle : nextOffset - s.acknowledgedOffset ≤ s.unacknowledged)
      (hrefused : (sh.credit.tryAdjust .outbound (nextOffset - s.acknowledgedOffset)
        increment).1 = false) :
      Step env s sh (.receiveFrame encoded nowMs)
        ((s.atTime nowMs).fail env
          { sh with
            messageIds := ids
            credit := (sh.credit.tryAdjust .outbound (nextOffset - s.acknowledgedOffset)
              increment).2 }
          .limitExceeded .limitExceeded false)
  | cancelTimeout {call t ids} (hstate : s.state = .cancelling)
      (hsent : s.cancellation.sent = true) :
      Step env s sh call ((s.atTime t).cancelTimeout env { sh with messageIds := ids })
  | offered {nowMs frame ids} (hstate : s.state = .created)
      (hframe : Carries s.context .transferOffer (offerFields s.manifest) frame) :
      Step env s sh (.start nowMs)
        ⟨{ state := .sendingManifest, outboundFrame := frame },
          { s.atTime nowMs with
            state := .sendingManifest
            manifestDeadlineMs := checkedDeadline nowMs manifestTimeoutMs
            manifestProgressDeadlineMs := checkedDeadline nowMs manifestProgressTimeoutMs },
          { sh with messageIds := ids }⟩
  | entrySent {nowMs frame ids} (hstate : s.state = .sendingManifest)
      (hstage : s.manifestStage = 0)
      (hframe : Carries s.context .manifestEntry (manifestEntryFields s.manifest) frame) :
      Step env s sh (.nextOutbound nowMs)
        ⟨{ s.update with outboundFrame := frame },
          { s.atTime nowMs with
            manifestStage := s.manifestStage + 1
            manifestProgressDeadlineMs := checkedDeadline nowMs manifestProgressTimeoutMs },
          { sh with messageIds := ids }⟩
  | endSent {nowMs frame ids} (hstate : s.state = .sendingManifest)
      (hstage : s.manifestStage = 1)
      (hframe : Carries s.context .manifestEnd (manifestEndFields s.manifest) frame) :
      Step env s sh (.nextOutbound nowMs)
        ⟨{ s.update with outboundFrame := frame, state := .awaitingDecision },
          { s.atTime nowMs with
            manifestStage := s.manifestStage + 1
            state := .awaitingDecision
            decisionDeadlineMs := checkedDeadline nowMs decisionTimeoutMs },
          { sh with messageIds := ids }⟩
  | beginSent {nowMs frame ids} (hstate : s.state = .sendingFile)
      (hbegun : s.fileBeginSent = false)
      (hframe : Carries s.context .fileBegin (fileBeginFields s.manifest s.chunkSize) frame) :
      Step env s sh (.nextOutbound nowMs)
        ⟨{ s.update with outboundFrame := frame }, { s.atTime nowMs with fileBeginSent := true },
          { sh with messageIds := ids }⟩
  | chunkSent {nowMs commitment frame ids} (hstate : s.state = .sendingFile)
      (hbegun : s.fileBeginSent = true) (hleft : s.bytesSent < s.manifest.fileSize)
      (hcredit : s.wanted ≤ s.availableCredit)
      (hread : (env.read s.bytesSent s.wanted).ok = true)
      (hlength : (env.read s.bytesSent s.wanted).data.length = s.wanted)
      (hframe : Carries s.context .fileChunk
        (chunkFields s.manifest.transferId s.bytesSent (env.read s.bytesSent s.wanted).data
          commitment) frame) :
      Step env s sh (.nextOutbound nowMs)
        ⟨{ s.update with outboundFrame := frame }, (s.atTime nowMs).chunkSent nowMs,
          { sh with messageIds := ids }⟩
  | fileEndSent {nowMs frame ids} (hstate : s.state = .sendingFile)
      (hbegun : s.fileBeginSent = true) (hall : s.manifest.fileSize ≤ s.bytesSent)
      (hunacknowledged : s.unacknowledged = 0) (hend : s.fileEndSent = false)
      (hframe : Carries s.context .fileEnd (fileEndFields s.manifest) frame) :
      Step env s sh (.nextOutbound nowMs)
        ⟨{ s.update with outboundFrame := frame, state := .awaitingFileCommit },
          { s.atTime nowMs with
            fileEndSent := true
            state := .awaitingFileCommit
            dataDeadlineMs := checkedDeadline nowMs dataProgressTimeoutMs },
          { sh with messageIds := ids }⟩
  | cancelEmission {nowMs o} (hstate : s.state = .cancelling)
      (hpending : s.cancellation.framePending = true) (ho : EmitsCancel (s.atTime nowMs) sh o) :
      Step env s sh (.nextOutbound nowMs) o
  | ackEmission {nowMs o} (hpending : s.cancellation.ackPending = true)
      (ho : EmitsCancelAck (s.atTime nowMs) sh o) : Step env s sh (.nextOutbound nowMs) o
  | reacknowledged {encoded nowMs ids frame o} (hterm : isTerminal s.state = true)
      (hreads : Reads env s sh encoded frame) (htype : frame.header.messageType = .cancel)
      (ho : EmitsCancelAck s.reacknowledging { sh with messageIds := ids } o) :
      Step env s sh (.receiveFrame encoded nowMs) o
  | cancelBegun {nowMs o} (hterm : isTerminal s.state = false)
      (hcancelling : s.state ≠ .cancelling) (hcreated : s.state ≠ .created)
      (ho : EmitsCancel (s.atTime nowMs).cancelling sh o) : Step env s sh (.cancel nowMs) o
  | finished {nowMs} (hterm : isTerminal s.state = false) :
      Step env s sh (.cancel nowMs)
        ((s.atTime nowMs).finished.stay { sh with credit := s.releasedCredit sh.credit })
  | shutdownTerminal (hterm : isTerminal s.state = true) :
      Step env s sh .shutdown
        ({ s with isShutdown := true, cancellation := s.cancellation.clear }.stay sh)
  | shutdownFinished (hterm : isTerminal s.state = false) :
      Step env s sh .shutdown
        ({ s.finished with isShutdown := true }.stay
          { sh with credit := s.releasedCredit sh.credit })
  | ackApplied {encoded nowMs t ids frame code} (hsent : s.cancellation.sent = true)
      (hstate : isTerminal s.state = true ∨ s.state = .cancelling)
      (hreads : Reads env s sh encoded frame) (htype : frame.header.messageType = .cancelAck)
      (hcode : decodeWireError (unsigned frame 2) = some code) :
      Step env s sh (.receiveFrame encoded nowMs)
        (((s.atTime t).acknowledged code).stay
          { sh with messageIds := ids, credit := s.releasedCredit sh.credit })
  | remoteCancel {encoded nowMs ids frame o} (hterm : isTerminal s.state = false)
      (hcreated : s.state ≠ .created) (hreads : Reads env s sh encoded frame)
      (htype : frame.header.messageType = .cancel)
      (ho : EmitsCancelAck (s.atTime nowMs).remotelyCancelled
        { sh with messageIds := ids, credit := s.releasedCredit sh.credit } o) :
      Step env s sh (.receiveFrame encoded nowMs) o
  | remoteError {encoded nowMs ids frame report} (hterm : isTerminal s.state = false)
      (hreads : Reads env s sh encoded frame) (htype : frame.header.messageType = .error)
      (hreport : readErrorReport frame = some report) :
      Step env s sh (.receiveFrame encoded nowMs)
        (((s.atTime nowMs).endedAs .failed ⟨transferErrorForWire report.wireError,
            report.wireError, wireErrorIsConnectionFatal report.wireError,
            report.retryable⟩).stay
          { sh with messageIds := ids, credit := s.releasedCredit sh.credit })
  | completedCancelling {encoded nowMs ids frame} (hstate : s.state = .cancelling)
      (horigin : s.cancelOriginState = .completing) (hreads : Reads env s sh encoded frame)
      (htype : frame.header.messageType = .transferCompleteAck) :
      Step env s sh (.receiveFrame encoded nowMs)
        ({ (s.atTime nowMs).endedAs .completed {} with
            cancellation :=
              { s.cancellation with framePending := false, sent := false, deadlineMs := 0 }
          }.stay { sh with messageIds := ids, credit := s.releasedCredit sh.credit })
  | rejected {encoded nowMs ids frame code retryable} (hstate : s.state = .awaitingDecision)
      (hreads : Reads env s sh encoded frame)
      (htype : frame.header.messageType = .transferReject)
      (hcode : decodeWireError (unsigned frame 2) = some code)
      (hreason : wireErrorIsRejectReason code = true) :
      Step env s sh (.receiveFrame encoded nowMs)
        (((s.atTime nowMs).endedAs .rejected
            ⟨transferErrorForWire code, code, false, retryable⟩).stay
          { sh with messageIds := ids, credit := s.releasedCredit sh.credit })
  | accepted {encoded nowMs ids frame} (hstate : s.state = .awaitingDecision)
      (hreads : Reads env s sh encoded frame)
      (htype : frame.header.messageType = .transferAccept)
      (hid : readTransferId frame = some s.manifest.transferId)
      (hwindow : ¬ windowRefused s.context.limits (unsigned frame 2) (unsigned frame 3))
      (hreserved : (sh.credit.tryReserve .outbound (unsigned frame 3)).1 = true) :
      Step env s sh (.receiveFrame encoded nowMs)
        (((s.atTime nowMs).acceptedWith (unsigned frame 2) (unsigned frame 3) nowMs).stay
          { sh with
            messageIds := ids
            credit := (sh.credit.tryReserve .outbound (unsigned frame 3)).2 })
  | acked {encoded nowMs ids frame} (hstate : s.state = .sendingFile)
      (hreads : Reads env s sh encoded frame) (htype : frame.header.messageType = .chunkAck)
      (hid : readTransferId frame = some s.manifest.transferId)
      (hfirst : s.acknowledgedOffset ≤ unsigned frame 3) (hlast : unsigned frame 3 ≤ s.bytesSent)
      (hle : unsigned frame 3 - s.acknowledgedOffset ≤ s.unacknowledged)
      (hincrement : unsigned frame 4 ≤ maxU32)
      (hreservation : add64 (s.availableCredit + unsigned frame 4)
        (s.unacknowledged - (unsigned frame 3 - s.acknowledgedOffset)) ≤ maximumTransferWindow)
      (hadjusted : (sh.credit.tryAdjust .outbound (unsigned frame 3 - s.acknowledgedOffset)
        (unsigned frame 4)).1 = true) :
      Step env s sh (.receiveFrame encoded nowMs)
        (((s.atTime nowMs).chunkAcked (unsigned frame 3) (unsigned frame 4) nowMs).stay
          { sh with
            messageIds := ids
            credit := (sh.credit.tryAdjust .outbound (unsigned frame 3 - s.acknowledgedOffset)
              (unsigned frame 4)).2 })
  | completeSent {encoded nowMs ids frame complete} (hstate : s.state = .awaitingFileCommit)
      (hreads : Reads env s sh encoded frame) (htype : frame.header.messageType = .fileCommit)
      (hid : readTransferId frame = some s.manifest.transferId)
      (hindex : unsigned frame 2 = 0) (hsize : unsigned frame 3 = s.manifest.fileSize)
      (hframe : Carries s.context .transferComplete (completeFields s.manifest) complete) :
      Step env s sh (.receiveFrame encoded nowMs)
        ⟨{ state := .completing, outboundFrame := complete },
          { s.atTime nowMs with
            state := .completing
            dataDeadlineMs := checkedDeadline nowMs dataProgressTimeoutMs },
          { sh with messageIds := ids }⟩
  | completed {encoded nowMs ids frame} (hstate : s.state = .completing)
      (hreads : Reads env s sh encoded frame)
      (htype : frame.header.messageType = .transferCompleteAck)
      (hid : readTransferId frame = some s.manifest.transferId)
      (hcommitment : fieldBytes frame 2 = s.manifest.manifestCommitment) :
      Step env s sh (.receiveFrame encoded nowMs)
        (((s.atTime nowMs).endedAs .completed {}).stay
          { sh with messageIds := ids, credit := s.releasedCredit sh.credit })

/-! ### The list is complete -/

/-- A call ends in a way that is listed, and draws from the sequence that it finds. -/
structure Ends (env : Environment) (s : Sender) (sh : Shared) (ids : ConnectionMessageSequence)
    (call : SenderCall) (o : Outcome Sender) : Prop where
  step : Step env s sh call o
  draws : Draws ids o

section Complete

variable {env : Environment} {s : Sender} {sh : Shared} {ids : ConnectionMessageSequence}
  {call : SenderCall} {o : Outcome Sender} {t nowMs : Nat}

theorem Ends.silent (hstep : Step env s sh call o) (hids : o.shared.messageIds = ids)
    (hframe : o.update.outboundFrame = []) : Ends env s sh ids call o :=
  ⟨hstep, .silent hids hframe⟩

theorem Ends.stay (t : Nat) (hidle : s.Idle call (s.atTime t).update) :
    Ends env s sh ids call ((s.atTime t).stay { sh with messageIds := ids }) :=
  .silent (.quiet rfl rfl rfl hidle) rfl rfl

theorem Ends.fail {error : TransferError} {wireError : WireErrorCode} {connectionFatal : Bool}
    (hterm : isTerminal s.state = false) (hwire : wireError ≠ .completed) :
    Ends env s sh ids call
      ((s.atTime t).fail env { sh with messageIds := ids } error wireError connectionFatal) :=
  ⟨.failed error wireError connectionFatal hterm hwire,
    (fails_fail _ _ { sh with messageIds := ids }).draws⟩

/-- A call at a time that is not over. -/
theorem Ends.observed {next : Sender → Outcome Sender} (hterm : isTerminal s.state = false)
    (hnext : s.lastNowMs ≤ nowMs → Ends env s sh ids call (next (s.atTime nowMs)))
    (hids : nowMs < s.lastNowMs → ids = sh.messageIds) :
    Ends env s sh ids call
      (match s.observe nowMs with
        | none => s.fail env sh .stateViolation .stateViolation false
        | some s => next s) := by
  unfold observe
  split
  next h =>
    split at h <;> cases h
    rename_i hbefore
    obtain rfl := hids hbefore
    exact @Ends.fail env s sh sh.messageIds call s.lastNowMs _ _ _ hterm (by decide)
  rename_i h
  split at h <;> cases h
  exact hnext (Nat.not_lt.mp ‹_›)

theorem Ends.unlessTimeout {next : Sender → Shared → Outcome Sender}
    (hterm : isTerminal s.state = false)
    (hnext : Ends env s sh ids call (next (s.atTime t) { sh with messageIds := ids })) :
    Ends env s sh ids call
      (unlessTimeout ((s.atTime t).checkTimeout env { sh with messageIds := ids } nowMs) next) := by
  unfold Transfer.unlessTimeout
  rcases checkTimeout_cases env (s.atTime t) { sh with messageIds := ids } nowMs with
    ⟨-, h⟩ | ⟨⟨hstate, hsent⟩, h⟩ | h
  · rw [h, if_pos (by simp [(fails_fail ..).error_eq])]
    exact .fail hterm (by decide)
  · rw [h, if_pos (by simp [(fails_cancelTimeout ..).error_eq])]
    exact ⟨.cancelTimeout hstate hsent,
      (fails_cancelTimeout _ _ { sh with messageIds := ids }).draws⟩
  rw [h]
  split
  · exact .stay t fun _ _ _ hnone => absurd hnone ‹_›
  · exact hnext

/-- A frame is sent, or the call fails. -/
theorem Ends.encoded {type : MessageType} {fields : List FieldView}
    {sent : Bytes → Shared → Outcome Sender} (hterm : isTerminal s.state = false)
    (hlisted : Listed type fields)
    (hout : ∀ frame sh, (sent frame sh).shared = sh ∧ (sent frame sh).update.outboundFrame = frame)
    (hsent : ∀ frame after, Carries s.context type fields frame →
      Step env s sh call (sent frame { sh with messageIds := after })) :
    Ends env s sh ids call
      (match (s.atTime t).encode env { sh with messageIds := ids } type fields with
        | (none, sh) => (s.atTime t).fail env sh .internalFailure .busy false
        | (some frame, sh) => sent frame sh) := by
  unfold encode
  cases hframe : encodeFrame env.memory (s.atTime t).context type ids (.ofFields fields) with
  | mk frame after =>
    have hencodes := encodes_encodeFrame hframe
    cases frame with
    | none =>
      have hends : Ends env s sh after call _ :=
        @fail _ _ _ _ _ t .internalFailure .busy false hterm (by decide)
      exact ⟨hends.step, hencodes.refused hends.draws⟩
    | some frame =>
      refine ⟨hsent frame after (encodeFrame_carries hlisted hframe), hencodes.issued ?_ ?_⟩
      · exact congrArg Shared.messageIds (hout frame { sh with messageIds := after }).1
      · exact (hout frame { sh with messageIds := after }).2

theorem listed_offerFields (manifest : OneFileManifest) :
    Listed .transferOffer (offerFields manifest) := by
  unfold offerFields
  split
  · exact listed_of [(1, 1), (2, 1), (3, 1), (4, 1)] rfl (by decide)
  · exact listed_of [(1, 1), (2, 1), (3, 1), (4, 1), (5, 0)] rfl (by decide)

theorem ends_start (nowMs : Nat) :
    Ends env s sh sh.messageIds (.start nowMs) (s.start env sh nowMs) := by
  unfold start
  split
  · exact .silent (.quiet rfl rfl rfl (fun _ _ h => nomatch h)) rfl rfl
  rename_i hterm
  have hterm : isTerminal s.state = false := by simpa using hterm
  refine .observed hterm (fun _ => ?_) fun _ => rfl
  split
  · exact .fail hterm (by decide)
  rename_i hcreated
  split
  · exact .fail hterm (by decide)
  · exact .encoded hterm (listed_offerFields _) (fun _ _ => ⟨rfl, rfl⟩) fun _ _ =>
      .offered (not_not.mp hcreated)

theorem ends_nextManifest (hstate : s.state = .sendingManifest) :
    Ends env s sh sh.messageIds (.nextOutbound nowMs)
      ((s.atTime nowMs).nextManifest env sh nowMs) := by
  have hterm : isTerminal s.state = false := hstate ▸ rfl
  unfold nextManifest
  split
  · exact .encoded hterm (listed_of [(1, 1), (2, 1), (3, 1), (4, 1), (5, 1), (6, 1)] rfl (by decide))
      (fun _ _ => ⟨rfl, rfl⟩) fun _ _ => .entrySent hstate ‹_›
  split
  · exact .encoded hterm (listed_of [(1, 1), (2, 1), (3, 1), (4, 1)] rfl (by decide))
      (fun _ _ => ⟨rfl, rfl⟩) fun _ _ => .endSent hstate ‹_›
  · exact .fail hterm (by decide)

theorem ends_nextChunk (hstate : s.state = .sendingFile) (hbegun : s.fileBeginSent = true)
    (hleft : s.bytesSent < s.manifest.fileSize) :
    Ends env s sh sh.messageIds (.nextOutbound nowMs)
      ((s.atTime nowMs).nextChunk env sh nowMs) := by
  have hterm : isTerminal s.state = false := hstate ▸ rfl
  simp only [nextChunk]
  split
  · exact .stay nowMs (fun _ _ h => nomatch h)
  rename_i hcredit
  split
  · exact .fail hterm (by decide)
  rename_i hread
  push Not at hread
  split
  · exact .fail hterm (by decide)
  split
  · exact .fail hterm (by decide)
  split
  · rename_i ids hencode
    have hends : Ends env s sh ids (.nextOutbound nowMs) _ :=
      @Ends.fail _ _ _ _ _ nowMs .internalFailure .busy false hterm (by decide)
    exact ⟨hends.step, (encodes_encodeFileChunkFrame hencode).refused hends.draws⟩
  rename_i frame ids hencode
  refine ⟨?_, (encodes_encodeFileChunkFrame hencode).issued rfl rfl⟩
  exact .chunkSent hstate hbegun hleft (Nat.not_lt.mp hcredit)
    ((Bool.not_eq_false _).mp hread.1) hread.2 (encodeFileChunkFrame_carries hencode)

theorem ends_nextFile (hstate : s.state = .sendingFile) :
    Ends env s sh sh.messageIds (.nextOutbound nowMs)
      ((s.atTime nowMs).nextFile env sh nowMs) := by
  have hterm : isTerminal s.state = false := hstate ▸ rfl
  unfold nextFile
  split
  · exact .encoded hterm (listed_of [(1, 1), (2, 1), (3, 1), (4, 1)] rfl (by decide))
      (fun _ _ => ⟨rfl, rfl⟩) fun _ _ => .beginSent hstate ‹_›
  rename_i hbegun
  have hbegun : s.fileBeginSent = true := (Bool.not_eq_false _).mp hbegun
  split
  · exact ends_nextChunk hstate hbegun ‹_›
  rename_i hall
  split
  · rename_i hend
    exact .encoded hterm (listed_of [(1, 1), (2, 1), (3, 1), (4, 1)] rfl (by decide))
      (fun _ _ => ⟨rfl, rfl⟩) fun _ _ =>
        .fileEndSent hstate hbegun (Nat.not_lt.mp hall) hend.1 hend.2
  · exact .stay nowMs (fun _ _ h => nomatch h)

theorem ends_nextOutbound (nowMs : Nat) :
    Ends env s sh sh.messageIds (.nextOutbound nowMs) (s.nextOutbound env sh nowMs) := by
  unfold nextOutbound
  split
  · exact .silent (.quiet rfl rfl rfl (fun _ _ h => nomatch h)) rfl rfl
  split
  · exact .silent (.quiet rfl rfl rfl (fun _ _ h => nomatch h)) rfl rfl
  split
  · split
    · exact .silent (.quiet rfl rfl rfl (fun _ _ h => nomatch h)) rfl rfl
    · exact @Ends.fail env s sh sh.messageIds _ s.lastNowMs _ _ _ (Bool.eq_false_iff.mpr ‹_›)
        (by decide)
  rename_i observed hobserved
  obtain rfl : observed = s.atTime nowMs := by
    unfold observe at hobserved
    split at hobserved <;> cases hobserved
    rfl
  split
  · split
    · exact .silent (.ackDropped ‹_› rfl rfl rfl) rfl rfl
    · exact .fail (Bool.eq_false_iff.mpr ‹_›) (by decide)
  split
  · obtain ⟨hemits, hdraws⟩ := emitCancelAck_spec env (s.atTime nowMs) sh
    exact ⟨.ackEmission ‹_› hemits, hdraws⟩
  split
  · exact .stay nowMs (fun _ _ h => nomatch h)
  refine @Ends.unlessTimeout env s sh sh.messageIds _ nowMs nowMs _ (Bool.eq_false_iff.mpr ‹_›) ?_
  split
  · split
    · obtain ⟨hemits, hdraws⟩ := emitCancel_spec env (s.atTime nowMs) sh
      exact ⟨.cancelEmission ‹_› ‹_› hemits, hdraws⟩
    · exact .stay nowMs (fun _ _ h => nomatch h)
  split
  · exact ends_nextManifest ‹_›
  split
  · exact .stay nowMs (fun _ _ h => nomatch h)
  rename_i hstate
  exact ends_nextFile (not_not.mp hstate)

theorem ends_receiveTerminal {encoded : Bytes} (hterm : isTerminal s.state = true) :
    Ends env s sh (parseInbound env.authorized s.context sh.messageIds encoded).2
      (.receiveFrame encoded nowMs) (s.receiveTerminal env sh encoded) := by
  simp only [receiveTerminal]
  cases hparsed : parseInbound env.authorized s.context sh.messageIds encoded with
  | mk parsed ids =>
    have hquiet {update : TransferUpdate} (hstate : update.state = s.state)
        (hterminal : update.terminal = isTerminal s.state) (hframe : update.outboundFrame = []) :
        Ends env s sh ids (.receiveFrame encoded nowMs)
          ⟨update, s, { sh with messageIds := ids }⟩ :=
      .silent (@Step.quiet env s sh _ _ s.lastNowMs ids hstate hterminal hframe
        fun _ _ _ _ => .inl hterm) rfl hframe
    cases parsed with
    | error refusal => exact hquiet rfl rfl rfl
    | ok envelope =>
      simp only [Except.bind]
      cases hbody : parseBody envelope with
      | error refusal => exact hquiet rfl rfl rfl
      | ok frame =>
        have hreads : Reads env s sh encoded frame :=
          ⟨envelope, by rw [hparsed], hbody⟩
        simp only
        split
        · exact hquiet rfl rfl rfl
        split
        · rename_i htype
          obtain ⟨hemits, hdraws⟩ :=
            emitCancelAck_spec env s.reacknowledging { sh with messageIds := ids }
          exact ⟨.reacknowledged hterm hreads htype.1 hemits, hdraws⟩
        split
        · rename_i htype hsent hcode
          rw [applyCancelAck_eq]
          exact .silent (@Step.ackApplied env s sh encoded nowMs s.lastNowMs ids frame _ hsent
            (.inl hterm) hreads htype hcode) rfl rfl
        · exact hquiet rfl rfl rfl

section Body

variable {encoded : Bytes} {frame : ParsedFrame} (hreads : Reads env s sh encoded frame)

include hreads

theorem ends_receiveWhileCancelling (hstate : s.state = .cancelling) :
    Ends env s sh ids (.receiveFrame encoded nowMs)
      ((s.atTime nowMs).receiveWhileCancelling { sh with messageIds := ids } frame) := by
  have hidle {update : TransferUpdate} : s.Idle (.receiveFrame encoded nowMs) update :=
    fun _ _ _ _ => .inr (.inl hstate)
  unfold receiveWhileCancelling
  split
  · rename_i horigin
    split
    · exact .silent (.quiet rfl rfl rfl hidle) rfl rfl
    rename_i hmatch
    push Not at hmatch
    simp only [releaseResources_eq]
    exact .silent (.completedCancelling hstate horigin hreads hmatch.1) rfl rfl
  · exact .stay nowMs hidle

theorem ends_receiveReject (hstate : s.state = .awaitingDecision)
    (htype : frame.header.messageType = .transferReject) :
    Ends env s sh ids (.receiveFrame encoded nowMs)
      ((s.atTime nowMs).receiveReject env { sh with messageIds := ids } frame) := by
  have hterm : isTerminal s.state = false := hstate ▸ rfl
  simp only [receiveReject]
  split
  · exact .fail hterm (by decide)
  rename_i code hcode
  split
  · exact .fail hterm (by decide)
  rename_i hvalid
  push Not at hvalid
  simp only [releaseResources_eq]
  exact .silent (.rejected hstate hreads htype hcode ((Bool.not_eq_false _).mp hvalid.1)) rfl rfl

variable (hid : readTransferId frame = some s.manifest.transferId)

include hid

theorem ends_receiveAccept (hstate : s.state = .awaitingDecision) :
    Ends env s sh ids (.receiveFrame encoded nowMs)
      ((s.atTime nowMs).receiveAccept env { sh with messageIds := ids } frame nowMs) := by
  have hterm : isTerminal s.state = false := hstate ▸ rfl
  simp only [receiveAccept]
  split
  · exact .fail hterm (by decide)
  rename_i htype
  push Not at htype
  split
  · exact .fail hterm (by decide)
  rename_i hwindow
  split
  · rename_i hreserved
    rw [ConnectionCreditBudget.tryReserve_refused hreserved]
    exact .fail hterm (by decide)
  rename_i hreserved
  exact .silent (.accepted hstate hreads htype.1 hid hwindow ((Bool.not_eq_false _).mp hreserved))
    rfl rfl

theorem ends_receiveChunkAck (hstate : s.state = .sendingFile) :
    Ends env s sh ids (.receiveFrame encoded nowMs)
      ((s.atTime nowMs).receiveChunkAck env { sh with messageIds := ids } frame nowMs) := by
  have hterm : isTerminal s.state = false := hstate ▸ rfl
  simp only [receiveChunkAck]
  split
  · exact .fail hterm (by decide)
  rename_i htype
  push Not at htype
  split
  · exact .fail hterm (by decide)
  rename_i hoffset
  push Not at hoffset
  split
  · exact .fail hterm (by decide)
  rename_i hnewly
  push Not at hnewly
  split
  · exact .fail hterm (by decide)
  rename_i hreservation
  push Not at hreservation
  split
  · rename_i hrefused
    exact ⟨.adjustRefused hstate hoffset.2.1 hnewly.1 hrefused,
      (fails_fail _ _ { sh with messageIds := ids, credit := _ }).draws⟩
  rename_i hadjusted
  exact .silent (.acked hstate hreads htype.1 hid hoffset.1 hoffset.2.1 hnewly.1 hnewly.2
    hreservation.1 ((Bool.not_eq_false _).mp hadjusted)) rfl rfl

theorem ends_receiveFileCommit (hstate : s.state = .awaitingFileCommit) :
    Ends env s sh ids (.receiveFrame encoded nowMs)
      ((s.atTime nowMs).receiveFileCommit env { sh with messageIds := ids } frame nowMs) := by
  have hterm : isTerminal s.state = false := hstate ▸ rfl
  unfold receiveFileCommit
  split
  · exact .fail hterm (by decide)
  rename_i hmatch
  push Not at hmatch
  exact .encoded hterm (listed_of [(1, 1), (2, 1)] rfl (by decide)) (fun _ _ => ⟨rfl, rfl⟩)
    fun _ _ => .completeSent hstate hreads hmatch.1 hid hmatch.2.1 hmatch.2.2

theorem ends_receiveCompleteAck (hstate : s.state = .completing) :
    Ends env s sh ids (.receiveFrame encoded nowMs)
      ((s.atTime nowMs).receiveCompleteAck env { sh with messageIds := ids } frame) := by
  unfold receiveCompleteAck
  split
  · exact .fail (hstate ▸ rfl) (by decide)
  rename_i hmatch
  push Not at hmatch
  simp only [releaseResources_eq]
  exact .silent (.completed hstate hreads hmatch.1 hid hmatch.2) rfl rfl

omit hid in
theorem ends_receiveBody (hterm : isTerminal s.state = false)
    (hallowed : senderAllowedInbound s.state frame.header.messageType s.cancelOriginState = true) :
    Ends env s sh ids (.receiveFrame encoded nowMs)
      ((s.atTime nowMs).receiveBody env { sh with messageIds := ids } frame nowMs) := by
  unfold receiveBody
  split
  · rename_i htype
    unfold receiveError
    split
    · exact .fail hterm (by decide)
    simp only [releaseResources_eq]
    exact .silent (.remoteError hterm hreads htype ‹_›) rfl rfl
  split
  · exact .fail hterm (by decide)
  split
  · exact .fail hterm (by decide)
  rename_i hid
  have hid : readTransferId frame = some s.manifest.transferId := not_not.mp hid
  split
  · rename_i htype
    have hcreated : s.state ≠ .created := by
      simpa [senderAllowedInbound, htype] using hallowed
    unfold receiveCancel
    split
    · exact .fail hterm (by decide)
    simp only [beginRemoteCancel, finishCancelled_eq]
    obtain ⟨hemits, hdraws⟩ := emitCancelAck_spec env (s.atTime nowMs).remotelyCancelled
      { sh with messageIds := ids, credit := s.releasedCredit sh.credit }
    exact ⟨.remoteCancel hterm hcreated hreads htype hemits, hdraws⟩
  split
  · rename_i htype
    have hcancelling : s.state = .cancelling := by
      simpa [senderAllowedInbound, htype] using hallowed
    unfold receiveCancelAck
    split
    · rename_i hsent hcode
      rw [applyCancelAck_eq]
      exact .silent (.ackApplied hsent (.inr hcancelling) hreads htype hcode) rfl rfl
    · exact .fail hterm (by decide)
  split
  · exact ends_receiveWhileCancelling hreads ‹_›
  · split
    · exact ends_receiveReject hreads ‹_› ‹_›
    · exact ends_receiveAccept hreads hid ‹_›
  · exact ends_receiveChunkAck hreads hid ‹_›
  · exact ends_receiveFileCommit hreads hid ‹_›
  · exact ends_receiveCompleteAck hreads hid ‹_›
  · exact .fail hterm (by decide)

end Body

/-- The sequence that a call finds: the frame that it is given may have moved it. -/
def found (env : Environment) (s : Sender) (sh : Shared) : SenderCall → ConnectionMessageSequence
  | .receiveFrame encoded nowMs =>
    if s.isShutdown = false ∧ (isTerminal s.state = true ∨ s.lastNowMs ≤ nowMs) then
      (parseInbound env.authorized s.context sh.messageIds encoded).2
    else sh.messageIds
  | _ => sh.messageIds

theorem ends_receiveFrame (encoded : Bytes) (nowMs : Nat) :
    Ends env s sh (s.found env sh (.receiveFrame encoded nowMs)) (.receiveFrame encoded nowMs)
      (s.receiveFrame env sh encoded nowMs) := by
  rw [found]
  unfold receiveFrame
  by_cases hshutdown : s.isShutdown = true
  · rw [if_pos hshutdown, if_neg (by simp [hshutdown])]
    exact .silent (.quiet rfl rfl rfl fun _ _ _ _ => .inr (.inr hshutdown)) rfl rfl
  simp only [hshutdown, true_and, Bool.false_eq_true, if_false]
  by_cases hterm : isTerminal s.state = true
  · rw [if_pos hterm, if_pos (.inl hterm)]
    exact ends_receiveTerminal hterm
  rw [if_neg hterm]
  have hterm : isTerminal s.state = false := Bool.eq_false_iff.mpr hterm
  refine .observed hterm (fun htime => ?_) fun hbefore => if_neg (by simp [hterm, hbefore])
  rw [if_pos (.inr htime)]
  cases hparsed : parseInbound env.authorized s.context sh.messageIds encoded with
  | mk parsed ids =>
    simp only [show (s.atTime nowMs).context = s.context from rfl, hparsed]
    cases parsed with
    | error refusal => exact .fail hterm (parseInbound_wireError (congrArg Prod.fst hparsed))
    | ok envelope =>
      refine Ends.unlessTimeout hterm ?_
      split
      · exact .fail hterm (by decide)
      rename_i hallowed
      split
      · exact .fail hterm (parseBody_wireError ‹_›)
      rename_i frame hbody
      have htype : frame.header.messageType = envelope.header.messageType := by
        rw [parseBody_frame hbody]
      refine ends_receiveBody ⟨envelope, congrArg Prod.fst hparsed, hbody⟩ hterm ?_
      rw [htype]
      exact (Bool.not_eq_false _).mp hallowed

theorem ends_advance (nowMs : Nat) :
    Ends env s sh sh.messageIds (.advance nowMs) (s.advance env sh nowMs) := by
  unfold advance
  split
  · exact .silent (.quiet rfl rfl rfl (fun _ _ h => nomatch h)) rfl rfl
  rename_i hterm
  have hterm : isTerminal s.state = false := Bool.eq_false_iff.mpr hterm
  refine .observed hterm (fun _ => ?_) fun _ => rfl
  split
  · exact .fail hterm (by decide)
  rcases checkTimeout_cases env (s.atTime nowMs) sh nowMs with
    ⟨-, h⟩ | ⟨⟨hstate, hsent⟩, h⟩ | h
  · rw [h]
    exact .fail hterm (by decide)
  · rw [h]
    exact ⟨.cancelTimeout hstate hsent, (fails_cancelTimeout ..).draws⟩
  rw [h]
  exact .stay nowMs (fun _ _ h => nomatch h)

theorem ends_cancel (nowMs : Nat) :
    Ends env s sh sh.messageIds (.cancel nowMs) (s.cancel env sh nowMs) := by
  unfold cancel
  split
  · exact .silent (.quiet rfl rfl rfl (fun _ _ h => nomatch h)) rfl rfl
  rename_i hterm
  have hterm : isTerminal s.state = false := Bool.eq_false_iff.mpr hterm
  split
  · exact .silent (.quiet rfl rfl rfl (fun _ _ h => nomatch h)) rfl rfl
  rename_i hcancelling
  refine .observed hterm (fun _ => ?_) fun _ => rfl
  simp only [finishCancelled_eq]
  split
  · exact .silent (.finished hterm) rfl rfl
  rename_i hcreated
  push Not at hcreated
  obtain ⟨hemits, hdraws⟩ := emitCancel_spec env (s.atTime nowMs).cancelling sh
  exact ⟨.cancelBegun hterm hcancelling hcreated.1 hemits, hdraws⟩

theorem ends_shutdown : Ends env s sh sh.messageIds .shutdown (s.shutdown sh) := by
  simp only [shutdown, finishCancelled_eq]
  split
  · exact .silent (.shutdownTerminal ‹_›) rfl rfl
  rename_i hterm
  exact .silent (.shutdownFinished (Bool.eq_false_iff.mpr hterm)) rfl rfl

/-- The list of steps is complete. -/
theorem ends_of_call (env : Environment) (s : Sender) (sh : Shared) (call : SenderCall) :
    Ends env s sh (s.found env sh call) call (s.call env sh call) := by
  cases call with
  | start nowMs => exact ends_start nowMs
  | nextOutbound nowMs => exact ends_nextOutbound nowMs
  | receiveFrame encoded nowMs => exact ends_receiveFrame encoded nowMs
  | advance nowMs => exact ends_advance nowMs
  | cancel nowMs => exact ends_cancel nowMs
  | shutdown => exact ends_shutdown

theorem step_of_call (env : Environment) (s : Sender) (sh : Shared) (call : SenderCall) :
    Step env s sh call (s.call env sh call) :=
  (ends_of_call env s sh call).step

end Complete

end Sender

end XnnTransfer.Transfer
