import XnnTransfer.Storage.Transaction
import XnnTransfer.Transfer.FrameCodec

/-!
# What the two engines have in common

The sender and the receiver are records; a call takes the record, what the
endpoint shares between its streams and what the outside answers during the
call, and returns the update together with the new record and the new shared
part.

## Implementation notes

An `Environment` is chosen anew for every call, so it stands for any behaviour
of the session authority, the file source, the integrity provider, the platform
and the allocator. Within a call the authority is asked at most twice, once
before the call acts and once by a failure that wants to report itself, and at
most one frame besides an `ERROR` frame is built. The fields `cancel_*` and
`terminal_*` of the two implementations are grouped into records.
-/

namespace XnnTransfer.Transfer

open Protocol Storage

inductive FileSourceError
  | none
  | outOfRange
  | ioFailure
  deriving DecidableEq, Repr

structure FileReadResult where
  error : FileSourceError := .none
  data : Bytes := []
  deriving DecidableEq, Repr

def FileReadResult.ok (result : FileReadResult) : Bool := result.error = .none

structure ManifestVerificationInput where
  manifest : OneFileManifest
  offerFrame : Bytes
  entryFrame : Bytes
  endFrame : Bytes
  deriving DecidableEq, Repr

/-- What the surroundings answer during one call. `copies` is the number of
copies of received data for which memory can be had. -/
structure Environment extends Backend where
  authorized : Bool
  authorizedToReport : Bool
  memory : Bool
  memoryToReport : Bool
  copies : Nat
  unicode : Unicode
  read : Nat → Nat → FileReadResult
  buildChunkCommitment : Bytes → Nat → Nat → Bytes → Option Bytes
  verifyManifest : ManifestVerificationInput → Bool
  verifyChunkCommitment : Bytes → Nat → Nat → Bytes → Bytes → Bool
  createFileVerifier : Bytes → Nat → Bytes → Bool

/-- The objects shared by all streams of one endpoint. -/
structure Shared where
  messageIds : ConnectionMessageSequence
  credit : ConnectionCreditBudget
  temporaryBudget : TemporaryBudget

structure Outcome (Engine : Type) where
  update : TransferUpdate
  engine : Engine
  shared : Shared

/-- The outcome an engine remembers for `Update`. -/
structure TerminalRecord where
  error : TransferError := .none
  wireError : WireErrorCode := .none
  connectionFatal : Bool := false
  retryable : Bool := false
  deriving DecidableEq, Repr

structure Cancellation where
  framePending : Bool := false
  sent : Bool := false
  ackPending : Bool := false
  ackFailureIsTerminal : Bool := false
  pendingAckCode : WireErrorCode := .none
  deadlineMs : Nat := 0
  deriving DecidableEq, Repr

/-- The five assignments that end a cancellation. -/
def Cancellation.clear (cancel : Cancellation) : Cancellation :=
  { cancel with
    framePending := false
    sent := false
    ackPending := false
    ackFailureIsTerminal := false
    deadlineMs := 0 }

/-- Return a timeout that was reported; go on otherwise. -/
def unlessTimeout {Engine : Type} (timeout : Outcome Engine)
    (next : Engine → Shared → Outcome Engine) : Outcome Engine :=
  if timeout.update.error ≠ .none then timeout else next timeout.engine timeout.shared

/-- The body of an `ERROR` frame that both engines take. -/
structure ErrorReport where
  wireError : WireErrorCode
  retryable : Bool
  deriving DecidableEq, Repr

def readErrorReport (frame : ParsedFrame) : Option ErrorReport :=
  let fatal : Bool := unsigned frame 2 ≠ 0
  let retryable : Bool := unsigned frame 3 ≠ 0
  match decodeWireError (unsigned frame 1) with
  | none => none
  | some wireError =>
    if fatal ≠ wireErrorIsFatal wireError ∨
        (retryable = true ∧ wireErrorMayRetry wireError = false) ∨
        ((fieldOf frame 5).isSome = true ∧ 60000 < unsigned frame 5) then
      none
    else some ⟨wireError, retryable⟩

variable (state : TransferState) (terminal : TerminalRecord) (update : TransferUpdate)

/-- `CachedTerminalCode` of both engines. -/
def cachedTerminalCode : WireErrorCode :=
  if state = .committed ∨ state = .completed then .completed
  else if state = .cancelled then .cancelled
  else if terminal.wireError = .none then .cancelled
  else terminal.wireError

/-- `Update` of both engines. -/
def engineUpdate : TransferUpdate :=
  { state := state
    error := terminal.error
    wireError := terminal.wireError
    terminal := isTerminal state
    connectionFatal := terminal.connectionFatal
    retryable := terminal.retryable }

/-- The update of a call that a state does not allow and that changes nothing. -/
def TransferUpdate.asStateViolation : TransferUpdate :=
  { update with error := .stateViolation, wireError := .stateViolation }

/-- The update of a call whose frame could not be encoded but may be tried again. -/
def TransferUpdate.asEncodingBusy : TransferUpdate :=
  { update with error := .internalFailure, wireError := .busy, retryable := true }

end XnnTransfer.Transfer
