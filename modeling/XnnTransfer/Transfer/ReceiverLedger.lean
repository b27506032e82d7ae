import XnnTransfer.Transfer.Ledger
import XnnTransfer.Transfer.ReceiverRun

/-!
# Every call of the receiver is a sequence of entries

`Receiver.Step.records` shows that a call of a sound receiver changes its ledger
only by the entries of `Ledger.Change` and `Ledger.Write`, and that it stores a
chunk exactly when it takes one.
-/

namespace XnnTransfer.Transfer

open Protocol Storage Segments

namespace Receiver

open Ledger

/-- The place and the bytes of a chunk that the call took. -/
def taken (version : Version) (o : Observation Receiver) : Option (Segment UInt8) :=
  ((o.received version).filter fun message =>
    message.type = .fileChunk ∧ o.update.error = .none ∧ o.update.state = .receivingFile).map
      fun message => (message.number 3, message.bytes 4)

section Simulation

variable {r r' : Receiver} {sh sh' : Shared} {call : ReceiverCall} {o : Outcome Receiver}
  {tx : Option ReceiveTransaction} {log : List LogEntry} {version : Version}
  {inbound : Option Bytes}

theorem Aborts.changes (h : r.Aborts tx log) :
    Changes version inbound r.ledger { r.ledger with transaction := tx, log := log } := by
  cases htx : r.transaction with
  | none =>
    obtain ⟨rfl, rfl⟩ := h.absent htx
    rw [← htx]
    exact .refl
  | some old =>
    obtain ⟨new, calls, rfl, rfl, hkept, hended, -, hcalls⟩ := h.present old htx
    by_cases hcommitted : old.state = .committed
    · obtain ⟨rfl, rfl⟩ := hkept hcommitted
      rw [← htx, List.map_nil, List.append_nil]
      exact .refl
    · exact .single (.aborted htx hcommitted (hended hcommitted) hcalls)

/-- An abort that is followed by a change of the state. -/
theorem Aborts.ends (h : r.Aborts tx log) (state : TransferState)
    (hstate : (state ≠ .created ∧ state ≠ .receivingManifest ∧ state ≠ .awaitingDecision) ∧
      state ≠ .receivingFile) :
    Changes version inbound r.ledger
      { r.ledger with transaction := tx, log := log, state := state } :=
  h.changes.tail (.phase state hstate.1 fun hfile => absurd hfile hstate.2)

theorem not_early_of_terminal {state : TransferState} (h : isTerminal state = true) :
    (state ≠ .created ∧ state ≠ .receivingManifest ∧ state ≠ .awaitingDecision) ∧
      state ≠ .receivingFile := by
  refine ⟨⟨?_, ?_, ?_⟩, ?_⟩ <;> rintro rfl <;> cases h

/-- Every move of a sound receiver is a sequence of entries. -/
theorem Silent.changes (hsound : r.Sound) (hmove : Silent call r sh r' sh') :
    Changes r.context.version call.inbound r.ledger r'.ledger := by
  have huncommitted (hstate : ¬ Durable r.state) {tx : ReceiveTransaction}
      (htx : r.transaction = some tx) : tx.state ≠ .committed :=
    mt (durableCommit_some htx).mpr (Bool.eq_false_iff.mp (hsound.not_durable hstate))
  cases hmove with
  | tick => exact .refl
  | streamOpened => exact .refl
  | streamRefused => exact .refl
  | acceptEntered => exact .single .accepting
  | offerRecorded hstate => exact .single (.offerRecorded hstate)
  | offerTaken hcall hstate hframe htype hid hsize =>
    subst hcall
    obtain rfl := hframe.raw
    exact .single (.offerTaken hstate rfl hframe.message htype rfl hsize)
  | entryRecorded hstate hentry hrequest =>
    exact .single (.entryRecorded hstate hentry rfl hrequest)
  | entryTaken hcall hstate hentry hframe htype hrequest =>
    subst hcall
    obtain rfl := hframe.raw
    exact .single (.entryTaken hstate hentry rfl hframe.message htype rfl hrequest)
  | manifestRefused => exact .single .manifestRefused
  | manifestVerified hcall hstate hentry hframe htype =>
    subst hcall
    exact .single (.manifestVerified hstate hentry rfl hframe.message htype)
  | fileBegun => exact .refl
  | @chunkChecked data commitment accepted hstate haccepted =>
    cases accepted with
    | false => exact .single .chunkRefused
    | true => exact absurd (haccepted rfl) (hsound.receiving hstate)
  | chunkBroken hstate htx hbreaks =>
    exact .single (.broken htx (huncommitted (by simp [hstate, Durable]) htx)
      (.inr ⟨_, _, rfl⟩) hbreaks)
  | commitBroken hstate htx hbreaks =>
    have hentry := @Change.broken r.context.version call.inbound r.ledger _ _ [] _ htx
      (huncommitted (by simp [hstate, Durable]) htx) (.inl rfl) hbreaks
    rw [List.append_nil] at hentry
    exact .single hentry
  | fileCommitted hcall hframe htype hstate hbegun hall htx hreceiving hreceived hcommitted hsame
      hresult =>
      exact .single (.committed hstate hall htx hreceiving hcommitted hresult)
  | completionPending =>
    unfold ledger
    exact .refl
  | confirmed => exact .refl
  | creditReserved => exact .refl
  | transactionRefused hstate hnone hlog hended hcalls =>
    exact .single (.refused hstate hnone hlog hended hcalls)
  | transactionBegun hstate hnone hlog hreserved hrequest =>
    exact .single (.begun hstate hnone hlog hrequest)
  | rejectBegun hstate haborts => exact haborts.ends .rejecting (by decide)
  | cancelBegun hcall hterm hcreated hcancelling hdurable haborts =>
    exact haborts.ends .cancelling (by decide)
  | remotelyCancelled hcall hterm hcreated hframe htype haborts =>
    unfold Receiver.remotelyCancelled
    split
    · exact .single (.phase .committed (by decide) (by simp))
    · exact haborts.ends .cancelled (by decide)
  | reacknowledging => exact .refl

theorem Moves.changes (hsound : r.Sound) (hmoves : Moves call r sh r' sh') :
    Changes r.context.version call.inbound r.ledger r'.ledger := by
  induction hmoves with
  | refl => exact .refl
  | head hmove _ ih =>
    refine (hmove.changes hsound).trans ?_
    rw [← hmove.context_eq]
    exact ih (hsound.silent hmove)

theorem taken_none_of_state {o : Observation Receiver} (h : o.update.state ≠ .receivingFile) :
    taken version o = none := by
  simp [taken, h]

theorem taken_none_of_inbound {o : Observation Receiver} (h : o.inbound = none) :
    taken version o = none := by
  simp [taken, Observation.received, h]

/-- A call that changes nothing takes no chunk. -/
theorem Rests.taken_none {update : TransferUpdate} (hsound : r.Sound)
    (hstate : update.state = r.state) (h : r.Rests call update) (before : Receiver) :
    taken r.context.version ⟨before, call.inbound, update, r⟩ = none := by
  cases call with
  | receiveFrame encoded nowMs =>
    rw [taken, Option.map_eq_none_iff, Option.filter_eq_none_iff]
    rintro message hmessage hchunk
    obtain ⟨htype, herror, hreceiving⟩ := of_decide_eq_true hchunk
    have hreceiving : r.state = .receivingFile := hstate.symm.trans hreceiving
    rcases h.chunk encoded nowMs message rfl herror hreceiving hmessage htype with hdown | hnone
    · have := hsound.isShutdown hdown
      simp [hreceiving, isTerminal] at this
    · exact hsound.receiving hreceiving hnone
  | _ => exact taken_none_of_inbound rfl

/-- Storing a chunk is the entry for the frame that was given. -/
theorem Writes.write {frame : ParsedFrame} {tx : ReceiveTransaction}
    {result : PlatformWriteResult} (h : r.Writes call frame tx result) :
    Write r.ledger ((messageOf frame).number 3, (messageOf frame).bytes 4)
      (r.chunkWritten (fieldBytes frame 4) (fieldBytes frame 5) tx result).ledger := by
  have hplaced := h.placed
  simp only [chunkMisplaced] at hplaced
  push Not at hplaced
  have hoffset : (messageOf frame).number 3 = r.nextOffset := hplaced.2.1
  rw [hoffset]
  exact .mk hplaced.2.2.2.2.1 h.transaction h.receiving h.result

/-- Every ending of a call of a sound receiver is a sequence of entries. -/
theorem Final.records (hsound : r.Sound) (hfinal : Final call r sh o) (before : Receiver) :
    Records r.context.version call.inbound r.ledger
      (taken r.context.version ⟨before, call.inbound, o.update, o.engine⟩) o.engine.ledger := by
  have hquiet (hstate : o.update.state ≠ .receivingFile)
      (h : Changes r.context.version call.inbound r.ledger o.engine.ledger) :
      Records r.context.version call.inbound r.ledger
        (taken r.context.version ⟨before, call.inbound, o.update, o.engine⟩)
        o.engine.ledger := by
    rw [taken_none_of_state hstate]
    exact .quiet h
  have hended {state : TransferState} (hterm : isTerminal state = true) :
      state ≠ .receivingFile := by
    rintro rfl
    cases hterm
  cases hfinal with
  | quiet hstate hterminal hframe hrests =>
    rw [hrests.taken_none hsound hstate]
    exact .quiet .refl
  | ackDropped hterm hstate =>
    exact hquiet (by rw [hstate]; exact hended hterm) .refl
  | failed error wireError connectionFatal hterm haborts =>
    exact hquiet (hended r.failureState_durable.1)
      (haborts.ends _ (not_early_of_terminal r.failureState_durable.1))
  | cancelTimeout hstate hsent haborts =>
    exact hquiet nofun (haborts.ends .failed (by decide))
  | rejectEmitted => exact hquiet nofun (.single (.phase .rejected (by decide) nofun))
  | fileCommitEmitted hstate =>
    exact hquiet (by simp [update, engineUpdate, hstate]) .refl
  | completionAckEmitted => exact hquiet nofun (.single (.phase .completed (by decide) nofun))
  | @chunkTaken frame tx result new ack ids deadlineMs budget hwrites hnew hack =>
    subst hnew
    obtain ⟨encoded, nowMs, rfl, hframe⟩ := hwrites.called
    have hrecord := hsound.record (hwrites.state ▸ rfl)
    have htaken : taken r.context.version
        ⟨before, (ReceiverCall.receiveFrame encoded nowMs).inbound,
          { r.update with outboundFrame := ack },
          { r.chunkWritten (fieldBytes frame 4) (fieldBytes frame 5) tx result with
            lastAckEncodedOffset :=
              (r.chunkWritten (fieldBytes frame 4) (fieldBytes frame 5) tx result).nextOffset
            dataDeadlineMs := deadlineMs }⟩ =
        some ((messageOf frame).number 3, (messageOf frame).bytes 4) := by
      have hreceived : Observation.received r.context.version
          (⟨before, (ReceiverCall.receiveFrame encoded nowMs).inbound,
            { r.update with outboundFrame := ack }, r⟩ : Observation Receiver) =
          some (messageOf frame) := hframe.message
      have htype : (messageOf frame).type = .fileChunk := hwrites.type
      simp only [Observation.received] at hreceived
      simp [taken, Observation.received, hreceived, Option.filter, htype, update, engineUpdate,
        hrecord, hwrites.state]
    rw [htaken]
    exact .wrote .refl hwrites.write
  | @chunkUnanswered frame tx result new tx' log budget report ids hwrites hnew haborts =>
    subst hnew
    have hfailed := failureState_durable
      (r.chunkWritten (fieldBytes frame 4) (fieldBytes frame 5) tx result)
    rw [taken_none_of_state (hended hfailed.1)]
    refine .unanswered .refl hwrites.write (haborts.ends _ (not_early_of_terminal hfailed.1)) ?_
    obtain ⟨new, calls, rfl, -, -, hended, -⟩ := haborts.present _ rfl
    have hnot := (hended (by simp [hwrites.receiving])).not_live
    exact fun hintact => (hintact new rfl).elim hnot.1 hnot.2
  | acceptEmitted hcall hstate =>
    subst hcall
    rw [taken_none_of_inbound rfl]
    exact .quiet (.single (.phase .receivingFile (by decide) fun _ => hstate))
  | cancelEmission hcall hstate hpending ho =>
    cases ho with
    | emitted => exact hquiet (by simp [update, engineUpdate, hstate]) .refl
    | busy =>
      exact hquiet (by simp [update, engineUpdate, TransferUpdate.asEncodingBusy, hstate]) .refl
    | exhausted => exact hquiet nofun (.single (.phase .cancelled (by decide) nofun))
  | ackEmission hpending ho =>
    have hterm := hended (hsound.ackPending hpending).1
    cases ho <;> exact hquiet hterm .refl
  | finishedCommitted => exact hquiet nofun (.single (.phase .committed (by decide) nofun))
  | finished hterm hdurable haborts =>
    exact hquiet nofun (haborts.ends .cancelled (by decide))
  | shutdownTerminal hcall hterm => exact hquiet (hended hterm) .refl
  | shutdownCommitted => exact hquiet nofun (.single (.phase .committed (by decide) nofun))
  | shutdownFinished hcall hterm hdurable haborts =>
    exact hquiet nofun (haborts.ends .cancelled (by decide))
  | @ackApplied encoded nowMs frame code tx log budget hcall hsent hstate hframe htype hcode
      haborts =>
      have hnot := hsound.not_durable (durable_not_cancelled (hsound.sent hsent))
      have hend := (r.acknowledgedEnd_terminal hnot code).1
      exact hquiet (hended hend) (haborts.ends _ (not_early_of_terminal hend))
  | remoteError hcall hterm hframe htype hreport haborts =>
    exact hquiet (hended r.failureState_durable.1)
      (haborts.ends _ (not_early_of_terminal r.failureState_durable.1))

/-- Every call of a sound receiver enters what `Records` allows. -/
theorem Step.records (hsound : r.Sound) (hstep : Step r sh call o) :
    Records r.context.version call.inbound r.ledger
      (taken r.context.version ⟨r, call.inbound, o.update, o.engine⟩) o.engine.ledger := by
  obtain ⟨r', sh', hmoves, hfinal⟩ := hstep
  have hrecords := hfinal.records (hsound.moves hmoves) r
  rw [hmoves.context_eq] at hrecords
  exact hrecords.after (hmoves.changes hsound)

end Simulation

end Receiver

end XnnTransfer.Transfer
