import XnnTransfer.Storage.Path
import XnnTransfer.Transfer.Types

/-!
# The receive transaction

`TemporaryBudget` and `ReceiveTransaction` of
`native/src/storage/receive_transaction.cpp`.

## Implementation notes

The platform backend and the file verifier are outside the transaction: what
they answer during one call is a `Backend`. Every method returns, besides its
result, the calls it made to them in order. A transaction is only built by the
receiver, with a budget and a verifier, so the null checks of `Begin` are left
out.
-/

namespace XnnTransfer.Storage

open Transfer (add64 sub64)

structure TemporaryBudget where
  limitBytes : Nat
  reservedBytes : Nat := 0
  unresolvedBytes : Nat := 0
  unresolvedFiles : Nat := 0
  deriving DecidableEq, Repr

namespace TemporaryBudget

variable (budget : TemporaryBudget) (bytes : Nat)

def tryReserve : Bool × TemporaryBudget :=
  if budget.limitBytes < budget.reservedBytes ∨
      budget.limitBytes - budget.reservedBytes < bytes then
    (false, budget)
  else (true, { budget with reservedBytes := budget.reservedBytes + bytes })

def release : TemporaryBudget :=
  { budget with reservedBytes := sub64 budget.reservedBytes bytes }

def markUnresolved : TemporaryBudget :=
  { budget with
    unresolvedBytes := add64 budget.unresolvedBytes bytes
    unresolvedFiles := add64 budget.unresolvedFiles 1 }

end TemporaryBudget

inductive PlatformError
  | none
  | noSpace
  | permissionDenied
  | destinationExists
  | invalidRoot
  | busy
  | unsupported
  | ioFailure
  deriving DecidableEq, Repr

inductive PlatformCommitDisposition
  | committed
  | notCommitted
  | outcomeUncertain
  deriving DecidableEq, Repr

structure PlatformWriteResult where
  error : PlatformError := .none
  bytesWritten : Nat := 0
  deriving DecidableEq, Repr

structure PlatformCommitResult where
  disposition : PlatformCommitDisposition := .notCommitted
  error : PlatformError := .none
  deriving DecidableEq, Repr

/-- What the platform backend and the streaming verifier answer during one
call. A handle is valid if it is not zero. -/
structure Backend where
  createTemporary : ValidatedReceivePath → Nat → PlatformError × Nat
  writeTemporary : Nat → Bytes → PlatformWriteResult
  flushTemporary : Nat → PlatformError
  commitTemporary : Nat → ValidatedReceivePath → PlatformCommitResult
  cleanupTemporary : Nat → PlatformError
  updateVerifier : Bytes → Bool
  sealVerifier : Bool

/-- A call of the transaction to the platform or to the verifier, with what came back. -/
inductive StorageCall
  | createTemporary (path : ValidatedReceivePath) (size : Nat) (error : PlatformError)
      (handle : Nat)
  | writeTemporary (handle : Nat) (data : Bytes) (result : PlatformWriteResult)
  | flushTemporary (handle : Nat) (error : PlatformError)
  | commitTemporary (handle : Nat) (result : PlatformCommitResult)
  | cleanupTemporary (handle : Nat) (error : PlatformError)
  | updateVerifier (data : Bytes) (ok : Bool)
  | sealVerifier (ok : Bool)
  deriving DecidableEq, Repr

inductive TransactionState
  | created
  | receiving
  | committed
  | aborted
  | cleanupUnresolved
  | outcomeUncertain
  deriving DecidableEq, Repr

inductive TransactionError
  | none
  | invalidState
  | temporaryBudgetExceeded
  | noSpace
  | openFailed
  | dataTooLarge
  | dataTooShort
  | writeFailed
  | integrityFailed
  | flushFailed
  | commitFailed
  | cleanupUnresolved
  | outcomeUncertain
  deriving DecidableEq, Repr

structure TransactionResult where
  error : TransactionError := .none
  platformError : PlatformError := .none
  cleanupError : PlatformError := .none
  cleanupUnresolved : Bool := false
  deriving DecidableEq, Repr

def TransactionResult.ok (result : TransactionResult) : Bool := result.error = .none

structure ReceiveTransaction where
  request : ValidatedReceiveRequest
  temporary : Nat := 0
  state : TransactionState := .created
  receivedBytes : Nat := 0
  reservationHeld : Bool := false
  temporaryOpen : Bool := false
  terminalResult : TransactionResult := {}
  deriving DecidableEq, Repr

/-- What one method call leaves behind. -/
structure TransactionStep where
  result : TransactionResult := {}
  transaction : ReceiveTransaction
  budget : TemporaryBudget
  calls : List StorageCall := []

def errorForPlatform (error : PlatformError) (fallback : TransactionError) : TransactionError :=
  if error = .noSpace then .noSpace else fallback

namespace ReceiveTransaction

variable (backend : Backend) (tx : ReceiveTransaction) (budget : TemporaryBudget)

def releaseReservation : ReceiveTransaction × TemporaryBudget :=
  if tx.reservationHeld then
    ({ tx with reservationHeld := false }, budget.release tx.request.declaredSize)
  else (tx, budget)

def failAndCleanup (error : TransactionError) (platformError : PlatformError) :
    TransactionStep :=
  let result : TransactionResult := { error := error, platformError := platformError }
  if tx.temporaryOpen then
    let cleanup := backend.cleanupTemporary tx.temporary
    let calls := [.cleanupTemporary tx.temporary cleanup]
    let closed := { tx with temporaryOpen := false, temporary := 0 }
    if cleanup ≠ .none then
      let result : TransactionResult :=
        { result with
          cleanupError := cleanup
          cleanupUnresolved := true
          error := if error = .none then .cleanupUnresolved else error }
      { result := result
        transaction :=
          { closed with
            reservationHeld := false, state := .cleanupUnresolved, terminalResult := result }
        budget := budget.markUnresolved tx.request.declaredSize
        calls := calls }
    else
      let (released, budget) := closed.releaseReservation budget
      { result := result
        transaction := { released with state := .aborted, terminalResult := result }
        budget := budget
        calls := calls }
  else
    let (released, budget) := tx.releaseReservation budget
    { result := result
      transaction := { released with state := .aborted, terminalResult := result }
      budget := budget }

/-- Run a method's last step after the calls made before it. -/
def after (calls : List StorageCall) (step : TransactionStep) : TransactionStep :=
  { step with calls := calls ++ step.calls }

/-- `ReceiveTransaction::Begin`. -/
def start : TransactionStep :=
  if tx.state ≠ .created then
    { result := { error := .invalidState }, transaction := tx, budget := budget }
  else
    let (reserved, budget) := budget.tryReserve tx.request.declaredSize
    if reserved = false then
      let result : TransactionResult := { error := .temporaryBudgetExceeded }
      { result := result
        transaction := { tx with state := .aborted, terminalResult := result }
        budget := budget }
    else
      let tx := { tx with reservationHeld := true }
      let (error, handle) :=
        backend.createTemporary tx.request.path tx.request.declaredSize
      let calls := [.createTemporary tx.request.path tx.request.declaredSize error handle]
      if error ≠ .none ∨ handle = 0 then
        let platformError := if error = .none then .ioFailure else error
        if handle ≠ 0 then
          after calls
            (failAndCleanup backend { tx with temporary := handle, temporaryOpen := true } budget
              (errorForPlatform platformError .openFailed) platformError)
        else
          let (released, budget) := tx.releaseReservation budget
          let result : TransactionResult :=
            { error := errorForPlatform platformError .openFailed
              platformError := platformError }
          { result := result
            transaction := { released with state := .aborted, terminalResult := result }
            budget := budget
            calls := calls }
      else
        { transaction :=
            { tx with temporary := handle, temporaryOpen := true, state := .receiving }
          budget := budget
          calls := calls }

def write (data : Bytes) : TransactionStep :=
  if tx.state ≠ .receiving then
    { result := { error := .invalidState }, transaction := tx, budget := budget }
  else if sub64 tx.request.declaredSize tx.receivedBytes < data.length then
    failAndCleanup backend tx budget .dataTooLarge .none
  else if data = [] then { transaction := tx, budget := budget }
  else
    let written := backend.writeTemporary tx.temporary data
    let calls := [.writeTemporary tx.temporary data written]
    if written.error ≠ .none ∨ written.bytesWritten ≠ data.length then
      after calls
        (failAndCleanup backend tx budget (errorForPlatform written.error .writeFailed)
          written.error)
    else
      let accepted := backend.updateVerifier data
      let calls := calls ++ [.updateVerifier data accepted]
      if accepted = false then
        after calls (failAndCleanup backend tx budget .integrityFailed .none)
      else
        { transaction := { tx with receivedBytes := add64 tx.receivedBytes data.length }
          budget := budget
          calls := calls }

/-- The last part of `SealAndCommit`, once the temporary file is flushed. -/
def commit (calls : List StorageCall) : TransactionStep :=
  let committed := backend.commitTemporary tx.temporary tx.request.path
  let calls := calls ++ [.commitTemporary tx.temporary committed]
  let closed := { tx with temporaryOpen := false, temporary := 0 }
  match committed.disposition with
  | .committed =>
    let (released, budget) := closed.releaseReservation budget
    { transaction := { released with state := .committed, terminalResult := {} }
      budget := budget
      calls := calls }
  | .outcomeUncertain =>
    let result : TransactionResult :=
      { error := .outcomeUncertain, platformError := committed.error }
    { result := result
      transaction :=
        { closed with
          reservationHeld := false, state := .outcomeUncertain, terminalResult := result }
      budget := budget.markUnresolved tx.request.declaredSize
      calls := calls }
  | .notCommitted =>
    after calls
      (failAndCleanup backend tx budget (errorForPlatform committed.error .commitFailed)
        committed.error)

def sealAndCommit : TransactionStep :=
  if tx.state ≠ .receiving then
    { result := { error := .invalidState }, transaction := tx, budget := budget }
  else if tx.receivedBytes ≠ tx.request.declaredSize then
    failAndCleanup backend tx budget .dataTooShort .none
  else
    let calls := [.sealVerifier backend.sealVerifier]
    if backend.sealVerifier = false then
      after calls (failAndCleanup backend tx budget .integrityFailed .none)
    else
      let flushed := backend.flushTemporary tx.temporary
      let calls := calls ++ [.flushTemporary tx.temporary flushed]
      if flushed ≠ .none then
        after calls
          (failAndCleanup backend tx budget (errorForPlatform flushed .flushFailed) flushed)
      else commit backend tx budget calls

def abort : TransactionStep :=
  match tx.state with
  | .created =>
    { transaction := { tx with state := .aborted, terminalResult := {} }, budget := budget }
  | .receiving => failAndCleanup backend tx budget .none .none
  | .aborted | .cleanupUnresolved | .outcomeUncertain =>
    { result := tx.terminalResult, transaction := tx, budget := budget }
  | .committed =>
    { result := { error := .invalidState }, transaction := tx, budget := budget }

/-! ### What the methods do -/

/-- The transaction is over and did not commit. -/
def Ended (tx : ReceiveTransaction) : Prop :=
  tx.state = .aborted ∨ tx.state = .cleanupUnresolved ∨ tx.state = .outcomeUncertain

theorem Ended.not_live {tx : ReceiveTransaction} (h : tx.Ended) :
    tx.state ≠ .receiving ∧ tx.state ≠ .committed := by
  rcases h with h | h | h <;> simp [h]

/-- The call removes a temporary file. -/
def IsCleanup : StorageCall → Prop
  | .cleanupTemporary _ _ => True
  | _ => False

/-- Two transactions for the same request that have received equally much. -/
def SameContent (tx next : ReceiveTransaction) : Prop :=
  next.request = tx.request ∧ next.receivedBytes = tx.receivedBytes

variable {backend tx budget}

theorem releaseReservation_eq :
    tx.releaseReservation budget =
      ({ tx with reservationHeld := false },
        if tx.reservationHeld then budget.release tx.request.declaredSize else budget) := by
  unfold releaseReservation
  cases hheld : tx.reservationHeld with
  | false =>
    cases tx
    cases hheld
    rfl
  | true => rfl

/-- Giving up ends the transaction with at most one call, a cleanup. -/
theorem failAndCleanup_spec (error : TransactionError) (platformError : PlatformError) :
    let step := failAndCleanup backend tx budget error platformError
    Ended step.transaction ∧ SameContent tx step.transaction ∧
      (∀ call ∈ step.calls, IsCleanup call) ∧ (error ≠ .none → step.result.ok = false) := by
  simp only [failAndCleanup, releaseReservation_eq]
  split
  · split
    · refine ⟨.inr (.inl rfl), ⟨rfl, rfl⟩, by simp [IsCleanup], fun h => ?_⟩
      simp [TransactionResult.ok, h]
    refine ⟨.inl rfl, ⟨rfl, rfl⟩, by simp [IsCleanup], fun h => ?_⟩
    simp [TransactionResult.ok, h]
  refine ⟨.inl rfl, ⟨rfl, rfl⟩, by simp, fun h => ?_⟩
  simp [TransactionResult.ok, h]

theorem errorForPlatform_ne_none {error : PlatformError} {fallback : TransactionError}
    (h : fallback ≠ .none) : errorForPlatform error fallback ≠ .none := by
  unfold errorForPlatform
  split
  · decide
  · exact h

/-- `Abort` leaves a committed transaction alone and ends every other one. -/
theorem abort_spec :
    let step := abort backend tx budget
    (tx.state = .committed → step.transaction = tx ∧ step.calls = []) ∧
      (tx.state ≠ .committed → Ended step.transaction) ∧ SameContent tx step.transaction ∧
      ∀ call ∈ step.calls, IsCleanup call := by
  unfold abort
  split
  · rename_i hstate
    exact ⟨by simp [hstate], fun _ => .inl rfl, ⟨rfl, rfl⟩, by simp⟩
  · rename_i hstate
    obtain ⟨hended, hsame, hcalls, -⟩ :=
      @failAndCleanup_spec backend tx budget .none .none
    exact ⟨by simp [hstate], fun _ => hended, hsame, hcalls⟩
  · exact ⟨by simp, fun _ => by simp [Ended, *], ⟨rfl, rfl⟩, by simp⟩
  · exact ⟨by simp, fun _ => by simp [Ended, *], ⟨rfl, rfl⟩, by simp⟩
  · exact ⟨by simp, fun _ => by simp [Ended, *], ⟨rfl, rfl⟩, by simp⟩
  rename_i hstate
  exact ⟨fun _ => ⟨rfl, rfl⟩, fun h => absurd hstate h, ⟨rfl, rfl⟩, by simp⟩

/-- The call opens a temporary file. -/
def IsCreate : StorageCall → Prop
  | .createTemporary _ _ _ _ => True
  | _ => False

/-- The transaction once its temporary file is open. -/
def opened (tx : ReceiveTransaction) (handle : Nat) : ReceiveTransaction :=
  { tx with
    reservationHeld := true
    temporary := handle
    temporaryOpen := true
    state := .receiving }

theorem start_spec (hstate : tx.state = .created) :
    let step := start backend tx budget
    (step.result.ok = true → ∃ handle, handle ≠ 0 ∧ step.transaction = tx.opened handle ∧
        step.calls = [.createTemporary tx.request.path tx.request.declaredSize .none handle]) ∧
      (step.result.ok = false → Ended step.transaction ∧ SameContent tx step.transaction ∧
        ∀ call ∈ step.calls, IsCreate call ∨ IsCleanup call) := by
  simp only [start, hstate, ne_eq, not_true_eq_false, if_false]
  split
  · exact ⟨(fun h => nomatch h), fun _ => ⟨.inl rfl, ⟨rfl, rfl⟩, by simp⟩⟩
  split
  · rename_i hcreated
    have hplatform (error : PlatformError) :
        errorForPlatform error .openFailed ≠ .none := errorForPlatform_ne_none (by decide)
    split
    · obtain ⟨hended, hsame, hcalls, hresult⟩ :=
        @failAndCleanup_spec backend
          { tx with
            reservationHeld := true
            temporary := (backend.createTemporary tx.request.path tx.request.declaredSize).2
            temporaryOpen := true }
          (budget.tryReserve tx.request.declaredSize).2
          (errorForPlatform
            (if (backend.createTemporary tx.request.path tx.request.declaredSize).1 = .none then
              .ioFailure
            else (backend.createTemporary tx.request.path tx.request.declaredSize).1)
            .openFailed)
          (if (backend.createTemporary tx.request.path tx.request.declaredSize).1 = .none then
            .ioFailure
          else (backend.createTemporary tx.request.path tx.request.declaredSize).1)
      refine ⟨fun h => ?_, fun _ => ⟨hended, hsame, fun call hcall => ?_⟩⟩
      · exact absurd h (Bool.eq_false_iff.mp (hresult (hplatform _)))
      rcases List.mem_append.mp hcall with hcall | hcall
      · rw [List.mem_singleton.mp hcall]
        exact .inl trivial
      · exact .inr (hcalls call hcall)
    refine ⟨fun h => ?_, fun _ => ⟨.inl rfl, ⟨rfl, rfl⟩, fun call hcall => ?_⟩⟩
    · exact absurd (of_decide_eq_true h) (hplatform _)
    rw [List.mem_singleton.mp hcall]
    exact .inl trivial
  rename_i hcreated
  push Not at hcreated
  refine ⟨fun _ => ⟨_, hcreated.2, rfl, ?_⟩, (fun h => nomatch h)⟩
  rw [hcreated.1]

/-- The platform reported that the file is in its place. -/
def IsCommit : StorageCall → Prop
  | .commitTemporary _ result => result.disposition = .committed
  | _ => False

/-- A method that failed changed nothing or ended the transaction, and nothing was
committed. -/
structure Breaks (tx new : ReceiveTransaction) (calls : List StorageCall) : Prop where
  same : tx.SameContent new
  uncommitted : ∀ call ∈ calls, ¬ IsCommit call
  ending : (tx.state ≠ .receiving ∧ new = tx ∧ calls = []) ∨ (tx.state = .receiving ∧ new.Ended)

/-- A transaction that a failed method left behind is not committed. -/
theorem Breaks.not_committed {tx new : ReceiveTransaction} {calls : List StorageCall}
    (h : tx.Breaks new calls) (hold : tx.state ≠ .committed) : new.state ≠ .committed := by
  rcases h.ending with ⟨-, rfl, -⟩ | ⟨-, hended⟩
  · exact hold
  · exact hended.not_live.2

theorem breaks_of_state (h : tx.state ≠ .receiving) : Breaks tx tx [] :=
  ⟨⟨rfl, rfl⟩, by simp, .inl ⟨h, rfl, rfl⟩⟩

/-- The failure of a method after some calls. -/
theorem breaks_after {calls : List StorageCall} {error : TransactionError}
    {platformError : PlatformError} (hstate : tx.state = .receiving) (herror : error ≠ .none)
    (hcalls : ∀ call ∈ calls, ¬ IsCommit call) :
    let step := after calls (failAndCleanup backend tx budget error platformError)
    step.result.ok = false ∧ Breaks tx step.transaction step.calls := by
  obtain ⟨hended, hsame, hcleanup, hresult⟩ :=
    @failAndCleanup_spec backend tx budget error platformError
  refine ⟨hresult herror, hsame, fun call hcall => ?_, .inr ⟨hstate, hended⟩⟩
  rcases List.mem_append.mp hcall with hcall | hcall
  · exact hcalls call hcall
  have := hcleanup call hcall
  cases call <;> simp_all [IsCleanup, IsCommit]

theorem write_spec (data : Bytes) :
    let step := write backend tx budget data
    (step.result.ok = true → data ≠ [] → tx.state = .receiving ∧
        data.length ≤ sub64 tx.request.declaredSize tx.receivedBytes ∧
        step.transaction = { tx with receivedBytes := add64 tx.receivedBytes data.length } ∧
        ∃ result : PlatformWriteResult, result.error = .none ∧
          result.bytesWritten = data.length ∧
          step.calls = [.writeTemporary tx.temporary data result, .updateVerifier data true]) ∧
      (step.result.ok = false → Breaks tx step.transaction step.calls) := by
  simp only [write]
  split
  · exact ⟨(fun h => nomatch h), fun _ => breaks_of_state ‹_›⟩
  rename_i hstate
  have hstate : tx.state = .receiving := not_not.mp hstate
  have hfails {calls : List StorageCall} {error : TransactionError}
      {platformError : PlatformError} (herror : error ≠ .none)
      (hcalls : ∀ call ∈ calls, ¬ IsCommit call) :=
    @breaks_after backend tx budget calls error platformError hstate herror hcalls
  split
  · obtain ⟨hresult, hbreaks⟩ := @hfails [] .dataTooLarge .none (by decide) (by simp)
    exact ⟨fun h => absurd h (Bool.eq_false_iff.mp hresult), fun _ => hbreaks⟩
  rename_i hroom
  split
  · exact ⟨fun _ hdata => absurd ‹_› hdata, (fun h => nomatch h)⟩
  split
  · obtain ⟨hresult, hbreaks⟩ :=
      @hfails [.writeTemporary tx.temporary data (backend.writeTemporary tx.temporary data)]
        (errorForPlatform (backend.writeTemporary tx.temporary data).error .writeFailed)
        (backend.writeTemporary tx.temporary data).error
        (errorForPlatform_ne_none (by decide)) (by simp [IsCommit])
    exact ⟨fun h => absurd h (Bool.eq_false_iff.mp hresult), fun _ => hbreaks⟩
  rename_i hwritten
  push Not at hwritten
  split
  · obtain ⟨hresult, hbreaks⟩ :=
      @hfails ([.writeTemporary tx.temporary data
          (backend.writeTemporary tx.temporary data)] ++
        [.updateVerifier data (backend.updateVerifier data)]) .integrityFailed .none
        (by decide) (by simp [IsCommit])
    exact ⟨fun h => absurd h (Bool.eq_false_iff.mp hresult), fun _ => hbreaks⟩
  rename_i haccepted
  have haccepted : backend.updateVerifier data = true := by simpa using haccepted
  refine ⟨fun _ _ => ⟨hstate, Nat.not_lt.mp hroom, rfl, _, hwritten.1, hwritten.2, ?_⟩,
    (fun h => nomatch h)⟩
  rw [haccepted]
  rfl

theorem sealAndCommit_spec :
    let step := sealAndCommit backend tx budget
    (step.result.ok = true → tx.state = .receiving ∧
        tx.receivedBytes = tx.request.declaredSize ∧ step.transaction.state = .committed ∧
        SameContent tx step.transaction ∧
        ∃ result : PlatformCommitResult, result.disposition = .committed ∧
          step.calls = [.sealVerifier true, .flushTemporary tx.temporary .none,
            .commitTemporary tx.temporary result]) ∧
      (step.result.ok = false → Breaks tx step.transaction step.calls) := by
  simp only [sealAndCommit]
  split
  · exact ⟨(fun h => nomatch h), fun _ => breaks_of_state ‹_›⟩
  rename_i hstate
  have hstate : tx.state = .receiving := not_not.mp hstate
  have hfails {calls : List StorageCall} {error : TransactionError}
      {platformError : PlatformError} (herror : error ≠ .none)
      (hcalls : ∀ call ∈ calls, ¬ IsCommit call) :=
    @breaks_after backend tx budget calls error platformError hstate herror hcalls
  split
  · obtain ⟨hresult, hbreaks⟩ := @hfails [] .dataTooShort .none (by decide) (by simp)
    exact ⟨fun h => absurd h (Bool.eq_false_iff.mp hresult), fun _ => hbreaks⟩
  rename_i hreceived
  split
  · obtain ⟨hresult, hbreaks⟩ :=
      @hfails [.sealVerifier backend.sealVerifier] .integrityFailed .none (by decide)
        (by simp [IsCommit])
    exact ⟨fun h => absurd h (Bool.eq_false_iff.mp hresult), fun _ => hbreaks⟩
  rename_i hsealed
  split
  · obtain ⟨hresult, hbreaks⟩ :=
      @hfails ([.sealVerifier backend.sealVerifier] ++
          [.flushTemporary tx.temporary (backend.flushTemporary tx.temporary)])
        (errorForPlatform (backend.flushTemporary tx.temporary) .flushFailed)
        (backend.flushTemporary tx.temporary) (errorForPlatform_ne_none (by decide))
        (by simp [IsCommit])
    exact ⟨fun h => absurd h (Bool.eq_false_iff.mp hresult), fun _ => hbreaks⟩
  rename_i hflushed
  have hflushed : backend.flushTemporary tx.temporary = .none := not_not.mp hflushed
  simp only [commit, releaseReservation_eq, hsealed, hflushed]
  split
  · rename_i hdisposition
    refine ⟨fun _ => ⟨hstate, not_not.mp hreceived, rfl, ⟨rfl, rfl⟩, _, hdisposition, rfl⟩,
      (fun h => nomatch h)⟩
  · rename_i hdisposition
    refine ⟨(fun h => nomatch h), fun _ => ⟨⟨rfl, rfl⟩, ?_, .inr ⟨hstate, ?_⟩⟩⟩
    · simp [IsCommit, hdisposition]
    · exact .inr (.inr rfl)
  rename_i hdisposition
  obtain ⟨hresult, hbreaks⟩ :=
    @hfails ([.sealVerifier true] ++ [.flushTemporary tx.temporary .none] ++
        [.commitTemporary tx.temporary (backend.commitTemporary tx.temporary tx.request.path)])
      (errorForPlatform (backend.commitTemporary tx.temporary tx.request.path).error .commitFailed)
      (backend.commitTemporary tx.temporary tx.request.path).error
      (errorForPlatform_ne_none (by decide)) (by simp [IsCommit, hdisposition])
  exact ⟨fun h => absurd h (Bool.eq_false_iff.mp hresult), fun _ => hbreaks⟩

end ReceiveTransaction

end XnnTransfer.Storage
