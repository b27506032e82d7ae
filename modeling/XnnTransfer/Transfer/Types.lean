import XnnTransfer.Protocol.Parser

/-!
# The vocabulary of the transfer engines

States, error codes and the records of `core/transfer/transfer.hpp`, with the
classification functions of `native/src/transfer/frame_codec.cpp`.
-/

namespace XnnTransfer.Transfer

open Protocol

def transferIdSize : Nat := 16
def minimumChunkSize : Nat := 4096
def maximumChunkSize : Nat := 1048000
def maximumTransferWindow : Nat := 16777216
def maximumConnectionWindow : Nat := 67108864
def manifestProgressTimeoutMs : Nat := 30000
def manifestTimeoutMs : Nat := 300000
def decisionTimeoutMs : Nat := 300000
def dataProgressTimeoutMs : Nat := 60000
def acknowledgementTimeoutMs : Nat := 30000
def cancelAcknowledgementTimeoutMs : Nat := 10000
def maximumChunkBodyOverhead : Nat := 132

inductive TransferState
  | created
  | sendingManifest
  | receivingManifest
  | awaitingDecision
  | sendingFile
  | receivingFile
  | rejecting
  | awaitingFileCommit
  | awaitingCompletion
  | completing
  | cancelling
  | committed
  | completed
  | cancelled
  | rejected
  | failed
  deriving DecidableEq, Repr

inductive TransferError
  | none
  | invalidArgument
  | unauthenticated
  | malformedFrame
  | malformedMessage
  | stateViolation
  | messageIdViolation
  | limitExceeded
  | invalidOffer
  | invalidManifest
  | policyRejected
  | noSpace
  | busy
  | ioFailure
  | integrityFailed
  | timeout
  | cancelled
  | idempotencyConflict
  | sourceFailure
  | internalFailure
  deriving DecidableEq, Repr

inductive WireErrorCode
  | none
  | malformedFrame
  | frameTooLarge
  | malformedMessage
  | unsupportedVersion
  | downgradeDetected
  | unsupportedCapability
  | unsupportedMessage
  | unknownCriticalField
  | stateViolation
  | messageIdViolation
  | limitExceeded
  | timeout
  | invalidOffer
  | invalidManifest
  | policyRejected
  | noSpace
  | busy
  | ioFailure
  | integrityFailed
  | cancelled
  | resumeUnavailable
  | expired
  | idempotencyConflict
  | completed
  deriving DecidableEq, Repr

def WireErrorCode.code : WireErrorCode → Nat
  | .none => 0
  | .malformedFrame => 0x0001
  | .frameTooLarge => 0x0002
  | .malformedMessage => 0x0003
  | .unsupportedVersion => 0x0004
  | .downgradeDetected => 0x0005
  | .unsupportedCapability => 0x0006
  | .unsupportedMessage => 0x0007
  | .unknownCriticalField => 0x0008
  | .stateViolation => 0x0009
  | .messageIdViolation => 0x000a
  | .limitExceeded => 0x000b
  | .timeout => 0x000c
  | .invalidOffer => 0x0100
  | .invalidManifest => 0x0101
  | .policyRejected => 0x0102
  | .noSpace => 0x0103
  | .busy => 0x0104
  | .ioFailure => 0x0105
  | .integrityFailed => 0x0106
  | .cancelled => 0x0107
  | .resumeUnavailable => 0x0108
  | .expired => 0x0109
  | .idempotencyConflict => 0x010a
  | .completed => 0x010b

theorem WireErrorCode.code_lt (code : WireErrorCode) : code.code < 65536 := by
  cases code <;> decide

/-- `DecodeWireError`: the cast to 16 bits, refused for zero and for unknown values. -/
def decodeWireError (encoded : Nat) : Option WireErrorCode :=
  match encoded % 65536 with
  | 0x0001 => some .malformedFrame
  | 0x0002 => some .frameTooLarge
  | 0x0003 => some .malformedMessage
  | 0x0004 => some .unsupportedVersion
  | 0x0005 => some .downgradeDetected
  | 0x0006 => some .unsupportedCapability
  | 0x0007 => some .unsupportedMessage
  | 0x0008 => some .unknownCriticalField
  | 0x0009 => some .stateViolation
  | 0x000a => some .messageIdViolation
  | 0x000b => some .limitExceeded
  | 0x000c => some .timeout
  | 0x0100 => some .invalidOffer
  | 0x0101 => some .invalidManifest
  | 0x0102 => some .policyRejected
  | 0x0103 => some .noSpace
  | 0x0104 => some .busy
  | 0x0105 => some .ioFailure
  | 0x0106 => some .integrityFailed
  | 0x0107 => some .cancelled
  | 0x0108 => some .resumeUnavailable
  | 0x0109 => some .expired
  | 0x010a => some .idempotencyConflict
  | 0x010b => some .completed
  | _ => none

theorem decodeWireError_code {code : WireErrorCode} (h : code ≠ .none) :
    decodeWireError code.code = some code := by
  cases code <;> first | rfl | exact absurd rfl h

theorem eq_of_decodeWireError {code decoded : WireErrorCode}
    (h : decodeWireError code.code = some decoded) : code = decoded := by
  by_cases hnone : code = .none
  · rw [hnone] at h
    cases h
  · exact Option.some.inj ((decodeWireError_code hnone).symm.trans h)

variable (state : TransferState) (error : WireErrorCode) (nowMs : Nat)

def isTerminal : Bool :=
  match state with
  | .committed | .completed | .cancelled | .rejected | .failed => true
  | _ => false

def transferErrorForProtocol : ErrorCode → TransferError
  | .none => .none
  | .malformedFrame | .frameTooLarge | .unsupportedVersion | .unsupportedCapability
  | .unsupportedMessage | .downgradeDetected => .malformedFrame
  | .malformedMessage | .unknownCriticalField => .malformedMessage
  | .stateViolation => .stateViolation
  | .messageIdViolation => .messageIdViolation
  | .limitExceeded => .limitExceeded

/-- The cast from the parser's error code to the wire code of the same value. -/
def wireErrorForProtocol : ErrorCode → WireErrorCode
  | .none => .none
  | .malformedFrame => .malformedFrame
  | .frameTooLarge => .frameTooLarge
  | .malformedMessage => .malformedMessage
  | .unsupportedVersion => .unsupportedVersion
  | .downgradeDetected => .downgradeDetected
  | .unsupportedCapability => .unsupportedCapability
  | .unsupportedMessage => .unsupportedMessage
  | .unknownCriticalField => .unknownCriticalField
  | .stateViolation => .stateViolation
  | .messageIdViolation => .messageIdViolation
  | .limitExceeded => .limitExceeded

def protocolErrorIsConnectionFatal (error : ErrorCode) (streamId : Nat) : Bool :=
  match error with
  | .malformedFrame | .frameTooLarge | .unsupportedVersion | .downgradeDetected
  | .unsupportedCapability | .unsupportedMessage | .messageIdViolation => true
  | .none | .malformedMessage | .unknownCriticalField | .limitExceeded => false
  | .stateViolation => streamId = 0

def transferErrorForWire : WireErrorCode → TransferError
  | .malformedFrame | .frameTooLarge | .unsupportedVersion | .downgradeDetected
  | .unsupportedCapability | .unsupportedMessage => .malformedFrame
  | .malformedMessage | .unknownCriticalField => .malformedMessage
  | .stateViolation => .stateViolation
  | .messageIdViolation => .messageIdViolation
  | .limitExceeded => .limitExceeded
  | .timeout => .timeout
  | .invalidOffer => .invalidOffer
  | .invalidManifest => .invalidManifest
  | .policyRejected | .resumeUnavailable | .expired => .policyRejected
  | .cancelled => .cancelled
  | .completed => .none
  | .noSpace => .noSpace
  | .busy => .busy
  | .ioFailure => .ioFailure
  | .integrityFailed => .integrityFailed
  | .idempotencyConflict => .idempotencyConflict
  | .none => .none

def wireErrorIsConnectionFatal : WireErrorCode → Bool
  | .malformedFrame | .frameTooLarge | .unsupportedVersion | .downgradeDetected
  | .unsupportedCapability | .unsupportedMessage | .messageIdViolation => true
  | _ => false

def wireErrorIsFatal : Bool :=
  wireErrorIsConnectionFatal error ||
    match error with
    | .none | .policyRejected | .noSpace | .busy | .ioFailure | .cancelled
    | .resumeUnavailable | .expired | .completed => false
    | _ => true

def wireErrorMayRetry : Bool :=
  error = .timeout || error = .noSpace || error = .busy || error = .ioFailure

def wireErrorIsRejectReason : Bool :=
  error = .policyRejected || error = .noSpace || error = .busy || error = .ioFailure

inductive Role
  | initiator
  | responder
  deriving DecidableEq, Repr

def Role.opposite : Role → Role
  | .initiator => .responder
  | .responder => .initiator

structure TransferLimits where
  maximumBody : Nat := 1048576
  maximumInFlight : Nat := maximumConnectionWindow
  maximumActiveStreams : Nat := 32
  preferredChunkSize : Nat := 65536
  preferredInitialWindow : Nat := 262144
  deriving DecidableEq, Repr

/-- `TransferContext` without the authority pointer and the session handle: what
they answer is part of `Environment`. -/
structure TransferContext where
  localRole : Role := .initiator
  version : Version := {}
  streamId : Nat := 0
  limits : TransferLimits := {}
  deriving DecidableEq, Repr

structure OneFileManifest where
  transferId : Bytes := List.replicate transferIdSize 0
  relativePath : Bytes := []
  fileSize : Nat := 0
  fileCommitment : Bytes := []
  manifestCommitment : Bytes := []
  displayName : Bytes := []
  deriving DecidableEq, Repr

structure IncomingOffer where
  transferId : Bytes
  relativePath : Bytes
  fileSize : Nat
  displayName : Bytes
  deriving DecidableEq, Repr

/-- The result of every engine call. An empty `outboundFrame` is no frame. -/
structure TransferUpdate where
  state : TransferState := .created
  error : TransferError := .none
  wireError : WireErrorCode := .none
  outboundFrame : Bytes := []
  offer : Option IncomingOffer := none
  terminal : Bool := false
  connectionFatal : Bool := false
  retryable : Bool := false
  deriving DecidableEq, Repr

def failureUpdate (error : TransferError) (wireError : WireErrorCode) (connectionFatal : Bool) :
    TransferUpdate :=
  { state := state, error := error, wireError := wireError, terminal := isTerminal state
    connectionFatal := connectionFatal }

def allZero (transferId : Bytes) : Bool := transferId.all (· = 0)

def validCommitment (commitment : Bytes) : Bool :=
  16 ≤ commitment.length && commitment.length ≤ 64

def validLimits (limits : TransferLimits) : Bool :=
  8192 ≤ limits.maximumBody && limits.maximumBody ≤ maxBodyLength &&
    1048576 ≤ limits.maximumInFlight && limits.maximumInFlight ≤ maximumConnectionWindow &&
    limits.maximumActiveStreams ≠ 0 && limits.maximumActiveStreams ≤ 32 &&
    minimumChunkSize ≤ limits.preferredChunkSize &&
    limits.preferredChunkSize ≤ maximumChunkSize &&
    limits.preferredChunkSize ≤ limits.preferredInitialWindow &&
    limits.preferredInitialWindow ≤ maximumTransferWindow &&
    limits.preferredInitialWindow ≤ limits.maximumInFlight

def validateContext (context : TransferContext) (localIsStreamCreator : Bool) : Bool :=
  if context.streamId = 0 ∨ context.version ≠ {} ∨ validLimits context.limits = false then
    false
  else
    let creator :=
      if localIsStreamCreator then context.localRole else context.localRole.opposite
    match creator with
    | .initiator => context.streamId % 2 = 1
    | .responder => context.streamId % 2 = 0

/-- `CheckedDeadline`, which saturates at the largest 64-bit value. -/
def checkedDeadline (durationMs : Nat) : Nat := min (nowMs + durationMs) (2 ^ 64 - 1)

def deadlineReached (deadlineMs : Nat) : Bool := deadlineMs ≠ 0 && deadlineMs ≤ nowMs

/-- Machine addition and subtraction at the places the source leaves unguarded. -/
def add64 (a b : Nat) : Nat := (a + b) % 2 ^ 64
def sub64 (a b : Nat) : Nat := (a + 2 ^ 64 - b) % 2 ^ 64
def add32 (a b : Nat) : Nat := (a + b) % 2 ^ 32
def sub32 (a b : Nat) : Nat := (a + 2 ^ 32 - b) % 2 ^ 32

variable {a b : Nat}

theorem add64_eq (h : a + b < 2 ^ 64) : add64 a b = a + b := Nat.mod_eq_of_lt h

theorem sub64_eq (hle : b ≤ a) (h : a < 2 ^ 64) : sub64 a b = a - b := by
  have hsum : a + 2 ^ 64 - b = a - b + 2 ^ 64 := by omega
  rw [sub64, hsum, Nat.add_mod_right, Nat.mod_eq_of_lt (by omega)]

theorem add32_eq (h : a + b < 2 ^ 32) : add32 a b = a + b := Nat.mod_eq_of_lt h

theorem sub32_eq (hle : b ≤ a) (h : a < 2 ^ 32) : sub32 a b = a - b := by
  have hsum : a + 2 ^ 32 - b = a - b + 2 ^ 32 := by omega
  rw [sub32, hsum, Nat.add_mod_right, Nat.mod_eq_of_lt (by omega)]

end XnnTransfer.Transfer
