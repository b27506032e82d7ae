import XnnTransfer.Transfer.SenderRun

/-!
# What holds in every run of the receiver

`Receiver.Sound` ties the state of a receiver to the state of its transaction
and says which flags can be set in which state. Every move and every ending of
a call keeps it.
-/

namespace XnnTransfer.Transfer

open Protocol Storage

namespace Receiver

/-- The states a receiver can be in once its file is durable. -/
def Durable (state : TransferState) : Prop :=
  state = .awaitingCompletion ∨ state = .committed ∨ state = .completed

/-- The invariant of the receiver's flags and of the state of its transaction. -/
structure Sound (r : Receiver) : Prop where
  durable : r.durableCommit = true ↔ Durable r.state
  receiving : r.state = .receivingFile → r.transaction ≠ none
  sent : r.cancellation.sent = true →
    r.state = .cancelling ∨ r.state = .cancelled ∨ r.state = .failed
  framePending : r.cancellation.framePending = true → r.state = .cancelling ∨ r.state = .failed
  ackPending : r.cancellation.ackPending = true → isTerminal r.state = true ∧
    (r.durableCommit = true → r.cancellation.pendingAckCode = .completed)
  isShutdown : r.isShutdown = true → isTerminal r.state = true
  record : isTerminal r.state = false → r.terminal = {}
  released : isTerminal r.state = true → r.creditReserved = false ∧ r.streamReserved = false
  rejecting : r.state = .rejecting → r.creditReserved = false

section Preservation

variable {r r' : Receiver} {sh sh' : Shared} {call : ReceiverCall} {o : Outcome Receiver}
  {tx : Option ReceiveTransaction} {log : List LogEntry}

theorem durableCommit_completing (pending : Bool) (deadlineMs : Nat) :
    { r with completionAckPending := pending, dataDeadlineMs := deadlineMs }.durableCommit =
      r.durableCommit := rfl

/-- Aborting does not change whether the file is durable. -/
theorem Aborts.durableCommit_eq (h : r.Aborts tx log) :
    (r.withTransaction tx log).durableCommit = r.durableCommit := by
  cases htx : r.transaction with
  | none =>
    obtain ⟨rfl, -⟩ := h.absent htx
    simp [durableCommit, withTransaction, htx]
  | some old =>
    obtain ⟨new, calls, rfl, -, hkept, hended, -⟩ := h.present old htx
    by_cases hcommitted : old.state = .committed
    · rw [(hkept hcommitted).1]
      simp [durableCommit, withTransaction, htx]
    have hnew : new.state ≠ .committed := (hended hcommitted).not_live.2
    simp [durableCommit, withTransaction, htx, hcommitted, hnew]

theorem durable_not_cancelled {state : TransferState}
    (h : state = .cancelling ∨ state = .cancelled ∨ state = .failed) : ¬ Durable state := by
  rcases h with rfl | rfl | rfl <;> simp [Durable]

/-- A state in which a transfer ends. -/
theorem Sound.ended (state : TransferState) (hstate : r.state = state)
    (hterm : isTerminal state = true) (hdurable : r.durableCommit = true ↔ Durable state)
    (hreleased : r.creditReserved = false ∧ r.streamReserved = false)
    (hsent : r.cancellation.sent = true → state = .cancelled ∨ state = .failed)
    (hframe : r.cancellation.framePending = true → state = .failed)
    (hack : r.cancellation.ackPending = true → r.durableCommit = true →
      r.cancellation.pendingAckCode = .completed) : r.Sound := by
  subst hstate
  refine ⟨hdurable, ?_, fun h => .inr (hsent h), fun h => .inr (hframe h),
    fun h => ⟨hterm, hack h⟩, fun _ => hterm, ?_, fun _ => hreleased, fun _ => hreleased.1⟩
  · intro hreceiving
    rw [hreceiving] at hterm
    cases hterm
  rw [hterm]
  exact nofun

/-- The same with an empty cancellation record. -/
theorem Sound.ended_clear (state : TransferState) (hstate : r.state = state)
    (hterm : isTerminal state = true) (hdurable : r.durableCommit = true ↔ Durable state)
    (hreleased : r.creditReserved = false ∧ r.streamReserved = false)
    (hcancel : r.cancellation.sent = false ∧ r.cancellation.framePending = false ∧
      r.cancellation.ackPending = false) : r.Sound :=
  .ended state hstate hterm hdurable hreleased
    (fun h => absurd (hcancel.1.symm.trans h) (by decide))
    (fun h => absurd (hcancel.2.1.symm.trans h) (by decide))
    (fun h => absurd (hcancel.2.2.symm.trans h) (by decide))

/-- The transfer is under way and not being cancelled. -/
def Active (r : Receiver) : Prop := isTerminal r.state = false ∧ r.state ≠ .cancelling

/-- No flag is set in an active receiver. -/
theorem Sound.flags (h : r.Sound) (hactive : r.Active) :
    r.cancellation.sent = false ∧ r.cancellation.framePending = false ∧
      r.cancellation.ackPending = false ∧ r.isShutdown = false := by
  refine ⟨?_, ?_, ?_, ?_⟩ <;> rw [Bool.eq_false_iff] <;> intro hset
  · rcases h.sent hset with hstate | hstate | hstate
    · exact hactive.2 hstate
    · have := hactive.1
      simp [hstate, isTerminal] at this
    have := hactive.1
    simp [hstate, isTerminal] at this
  · rcases h.framePending hset with hstate | hstate
    · exact hactive.2 hstate
    have := hactive.1
    simp [hstate, isTerminal] at this
  · exact absurd ((h.ackPending hset).1.symm.trans hactive.1) (by decide)
  · exact absurd ((h.isShutdown hset).symm.trans hactive.1) (by decide)

/-- A step of an active receiver to a state that is not terminal. -/
theorem Sound.advance (state : TransferState) (h : r.Sound) (hactive : r.Active)
    (hstate : r'.state = state) (hterm : isTerminal state = false)
    (hcancel : r'.cancellation = r.cancellation) (hdown : r'.isShutdown = r.isShutdown)
    (hrecord : r'.terminal = r.terminal) (hdurable : r'.durableCommit = true ↔ Durable state)
    (hreceiving : state = .receivingFile → r'.transaction ≠ none)
    (hrejecting : state = .rejecting → r'.creditReserved = false) : r'.Sound := by
  obtain ⟨hsent, hframe, hack, hnot⟩ := h.flags hactive
  subst hstate
  refine ⟨hdurable, hreceiving, ?_, ?_, ?_, ?_, ?_, ?_, hrejecting⟩
  · rw [hcancel, hsent]
    exact nofun
  · rw [hcancel, hframe]
    exact nofun
  · rw [hcancel, hack]
    exact nofun
  · rw [hdown, hnot]
    exact nofun
  · rw [hrecord]
    exact fun _ => h.record hactive.1
  rw [hterm]
  exact nofun

theorem active_of_eq {state : TransferState} (hstate : r.state = state)
    (hactive : isTerminal state = false ∧ state ≠ .cancelling) : r.Active := by
  subst hstate
  exact hactive

theorem durableCommit_some {t : ReceiveTransaction} (h : r.transaction = some t) :
    r.durableCommit = true ↔ t.state = .committed := by
  simp [durableCommit, h]

theorem Sound.not_durable (h : r.Sound) (hstate : ¬ Durable r.state) :
    r.durableCommit = false :=
  Bool.eq_false_iff.mpr fun hdurable => hstate (h.durable.mp hdurable)

theorem Sound.remotelyCancelled (h : r.Sound) (haborts : r.Aborts tx log) :
    (r.remotelyCancelled tx log).Sound := by
  unfold Receiver.remotelyCancelled
  cases hdurable : r.durableCommit with
  | true =>
    have hsent : r.cancellation.sent = false := Bool.eq_false_iff.mpr fun hsent =>
      durable_not_cancelled (h.sent hsent) (h.durable.mp hdurable)
    refine .ended .committed rfl rfl (iff_of_true hdurable (.inr (.inl rfl))) ⟨rfl, rfl⟩ ?_
      nofun (fun _ _ => rfl)
    exact fun hset => absurd (hsent.symm.trans hset) (by decide)
  | false =>
    have hnot := haborts.durableCommit_eq.trans hdurable
    exact .ended .cancelled rfl rfl (iff_of_false (Bool.eq_false_iff.mp hnot) (by simp [Durable]))
      ⟨rfl, rfl⟩ (fun _ => .inl rfl) nofun
      (fun _ hset => absurd (hnot.symm.trans hset) (by decide))

/-- Every move keeps the invariant. -/
theorem Sound.silent (h : r.Sound) (hmove : Silent call r sh r' sh') : r'.Sound := by
  cases hmove with
  | tick | acceptEntered | offerRecorded | entryRecorded | entryTaken | manifestRefused
  | fileBegun | chunkChecked | confirmed => exact { h with }
  | completionPending =>
    refine { h with durable := ?_, ackPending := ?_ } <;> rw [durableCommit_completing]
    · exact h.durable
    · exact h.ackPending
  | streamOpened hstate =>
    exact { h with released := fun hterm => by simp [hstate, isTerminal] at hterm }
  | streamRefused => exact h
  | offerTaken hcall hstate =>
    have hnot := h.not_durable (by simp [hstate, Durable])
    exact h.advance .receivingManifest (active_of_eq hstate (by decide)) rfl rfl rfl rfl rfl
      (iff_of_false (Bool.eq_false_iff.mp hnot) (by simp [Durable])) (by simp) (by simp)
  | manifestVerified hcall hstate =>
    have hnot := h.not_durable (by simp [hstate, Durable])
    exact h.advance .awaitingDecision (active_of_eq hstate (by decide)) rfl rfl rfl rfl rfl
      (iff_of_false (Bool.eq_false_iff.mp hnot) (by simp [Durable])) (by simp) (by simp)
  | chunkBroken hstate htx hbreaks | commitBroken hstate htx hbreaks =>
    have hold := mt (durableCommit_some htx).mpr
      (Bool.eq_false_iff.mp (h.not_durable (by simp [hstate, Durable])))
    exact h.advance .receivingFile (active_of_eq hstate (by decide)) hstate rfl rfl rfl rfl
      (iff_of_false (mt (durableCommit_some rfl).mp (hbreaks.not_committed hold))
        (by simp [Durable])) (by simp) (by simp)
  | fileCommitted hcall hframe htype hstate hbegun hall htx hreceiving hreceived hcommitted =>
    exact h.advance .awaitingCompletion (active_of_eq hstate (by decide)) rfl rfl rfl rfl rfl
      (iff_of_true ((durableCommit_some rfl).mpr hcommitted) (.inl rfl)) (by simp) (by simp)
  | creditReserved hstate =>
    exact { h with
      released := fun hterm => by simp [hstate, isTerminal] at hterm
      rejecting := fun hother => absurd (hstate.symm.trans hother) (by decide) }
  | transactionRefused hstate hnone hlog hended =>
    exact h.advance .awaitingDecision (active_of_eq hstate (by decide)) hstate rfl rfl rfl rfl
      (iff_of_false (mt (durableCommit_some rfl).mp hended.not_live.2) (by simp [Durable]))
      (by simp) (by simp)
  | transactionBegun hstate =>
    exact h.advance .awaitingDecision (active_of_eq hstate (by decide)) hstate rfl rfl rfl rfl
      (iff_of_false (mt (durableCommit_some rfl).mp (by simp [ReceiveTransaction.opened]))
        (by simp [Durable])) (by simp) (by simp)
  | rejectBegun hstate haborts =>
    have hnot := haborts.durableCommit_eq.trans (h.not_durable (by simp [hstate, Durable]))
    exact h.advance .rejecting (active_of_eq hstate (by decide)) rfl rfl rfl rfl rfl
      (iff_of_false (Bool.eq_false_iff.mp hnot) (by simp [Durable])) (by simp) (fun _ => rfl)
  | cancelBegun hcall hterm hcreated hcancelling hdurable haborts =>
    obtain ⟨hsent, -, -, hdown⟩ := h.flags ⟨hterm, hcancelling⟩
    have hnot := haborts.durableCommit_eq.trans hdurable
    refine ⟨iff_of_false (Bool.eq_false_iff.mp hnot) (by simp [Receiver.cancelling, Durable]),
      by simp [Receiver.cancelling], ?_, fun _ => .inl rfl, by simp [Receiver.cancelling], ?_,
      fun _ => rfl, by simp [Receiver.cancelling, isTerminal], by simp [Receiver.cancelling]⟩
    · exact fun _ => .inl rfl
    · exact fun hset => absurd (hdown.symm.trans hset) (by decide)
  | remotelyCancelled hcall hterm hcreated hframe htype haborts =>
    exact h.remotelyCancelled haborts
  | reacknowledging hcall hterm =>
    refine { h with ackPending := fun _ => ⟨hterm, fun hdurable => ?_⟩ }
    rcases h.durable.mp hdurable with hstate | hstate | hstate
    · rw [hstate] at hterm
      cases hterm
    · simp [Receiver.reacknowledging, cachedTerminalCode, hstate]
    · simp [Receiver.reacknowledging, cachedTerminalCode, hstate]

theorem Sound.moves (h : r.Sound) (hmoves : Moves call r sh r' sh') : r'.Sound := by
  induction hmoves with
  | refl => exact h
  | head hmove _ ih => exact ih (h.silent hmove)

theorem failureState_durable (r : Receiver) :
    isTerminal r.failureState = true ∧ (r.durableCommit = true ↔ Durable r.failureState) := by
  unfold failureState
  cases r.durableCommit <;> simp [isTerminal, Durable]

/-- After an abort the file is durable exactly when it was before. -/
theorem Aborts.durable_iff {p : Prop} (h : r.Aborts tx log)
    (hdurable : r.durableCommit = true ↔ p) : (r.withTransaction tx log).durableCommit = true ↔ p := by
  rw [h.durableCommit_eq]
  exact hdurable

theorem Sound.failedWith (haborts : r.Aborts tx log) (error : TransferError)
    (wireError : WireErrorCode) (connectionFatal : Bool) :
    Sound (r.failedWith tx log error wireError connectionFatal) :=
  .ended_clear r.failureState rfl r.failureState_durable.1
    (haborts.durable_iff r.failureState_durable.2) ⟨rfl, rfl⟩ ⟨rfl, rfl, rfl⟩

theorem Sound.emitsCancel (h : r.Sound) (ho : EmitsCancel r sh o)
    (hstate : r.state = .cancelling) : o.engine.Sound := by
  cases ho with
  | emitted => exact { h with sent := fun _ => .inl hstate, framePending := nofun }
  | busy => exact h
  | exhausted =>
    have hnot := h.not_durable (by simp [hstate, Durable])
    exact .ended_clear .cancelled rfl rfl
      (iff_of_false (Bool.eq_false_iff.mp hnot) (by simp [Durable])) ⟨rfl, rfl⟩ ⟨rfl, rfl, rfl⟩

theorem Sound.emitsCancelAck (h : r.Sound) (ho : EmitsCancelAck r sh o)
    (hterm : isTerminal r.state = true) : o.engine.Sound := by
  cases ho with
  | emitted | exhausted => exact { h with ackPending := nofun }
  | busy => exact h
  | exhaustedTerminal =>
    exact { h with
      ackPending := nofun
      record := fun hactive => absurd (hactive.symm.trans hterm) (by decide) }

/-- An acknowledgement ends a receiver whose file is not durable, and not as durable. -/
theorem acknowledgedEnd_terminal (r : Receiver) (hnot : r.durableCommit = false)
    (code : WireErrorCode) :
    isTerminal (r.acknowledgedEnd code).1 = true ∧ ¬ Durable (r.acknowledgedEnd code).1 := by
  unfold acknowledgedEnd Sender.cancelAckEnd
  split
  · simp [hnot, isTerminal, Durable]
  split
  · simp [isTerminal, Durable]
  · split <;> simp [isTerminal, Durable]

/-- Every ending keeps the invariant. -/
theorem Sound.final (h : r.Sound) (hfinal : Final call r sh o) : o.engine.Sound := by
  cases hfinal with
  | quiet => exact h
  | ackDropped => exact { h with ackPending := nofun }
  | failed error wireError connectionFatal hterm haborts => exact .failedWith haborts _ _ _
  | cancelTimeout hstate hsent haborts =>
    have hnot := h.not_durable (by simp [hstate, Durable])
    exact .ended_clear .failed rfl rfl
      (haborts.durable_iff (iff_of_false (Bool.eq_false_iff.mp hnot) (by simp [Durable])))
      ⟨rfl, rfl⟩ ⟨rfl, rfl, rfl⟩
  | rejectEmitted hstate =>
    obtain ⟨hsent, hframe, hack, -⟩ := h.flags (active_of_eq hstate (by decide))
    have hnot := h.not_durable (by simp [hstate, Durable])
    exact .ended_clear .rejected rfl rfl
      (iff_of_false (Bool.eq_false_iff.mp hnot) (by simp [Durable]))
      ⟨h.rejecting hstate, rfl⟩ ⟨hsent, hframe, hack⟩
  | fileCommitEmitted => exact { h with }
  | completionAckEmitted hstate =>
    obtain ⟨hsent, hframe, hack, -⟩ := h.flags (active_of_eq hstate (by decide))
    have hdurable := h.durable.mpr (.inl hstate)
    exact .ended_clear .completed rfl rfl (iff_of_true hdurable (.inr (.inr rfl))) ⟨rfl, rfl⟩
      ⟨hsent, hframe, hack⟩
  | chunkTaken hwrites hnew =>
    subst hnew
    exact h.advance .receivingFile (active_of_eq hwrites.state (by decide)) hwrites.state rfl rfl
      rfl rfl (iff_of_false (mt (durableCommit_some rfl).mp (by simp [hwrites.receiving]))
        (by simp [Durable])) (fun _ => nofun) nofun
  | chunkUnanswered hwrites hnew haborts => exact .failedWith haborts _ _ _
  | acceptEmitted hcall hstate htx hreceiving =>
    exact h.advance .receivingFile (active_of_eq hstate (by decide)) rfl rfl rfl rfl rfl
      (iff_of_false (mt (durableCommit_some htx).mp (by simp [hreceiving])) (by simp [Durable]))
      (fun _ => by simp [htx]) nofun
  | cancelEmission hcall hstate hpending ho => exact h.emitsCancel ho hstate
  | ackEmission hpending ho => exact h.emitsCancelAck ho (h.ackPending hpending).1
  | finishedCommitted hterm hdurable =>
    exact .ended_clear .committed rfl rfl (iff_of_true hdurable (.inr (.inl rfl)))
      ⟨rfl, rfl⟩ ⟨rfl, rfl, rfl⟩
  | finished hterm hdurable haborts =>
    exact .ended_clear .cancelled rfl rfl
      (haborts.durable_iff (iff_of_false (Bool.eq_false_iff.mp hdurable) (by simp [Durable])))
      ⟨rfl, rfl⟩ ⟨rfl, rfl, rfl⟩
  | shutdownTerminal hcall hterm =>
    exact .ended_clear r.state rfl hterm h.durable (h.released hterm) ⟨rfl, rfl, rfl⟩
  | shutdownCommitted hcall hterm hdurable =>
    exact .ended_clear .committed rfl rfl (iff_of_true hdurable (.inr (.inl rfl)))
      ⟨rfl, rfl⟩ ⟨rfl, rfl, rfl⟩
  | shutdownFinished hcall hterm hdurable haborts =>
    exact .ended_clear .cancelled rfl rfl
      (haborts.durable_iff (iff_of_false (Bool.eq_false_iff.mp hdurable) (by simp [Durable])))
      ⟨rfl, rfl⟩ ⟨rfl, rfl, rfl⟩
  | @ackApplied encoded nowMs frame code tx log budget hcall hsent hstate hframe htype hcode
      haborts =>
      have hnot := h.not_durable (durable_not_cancelled (h.sent hsent))
      have hend := r.acknowledgedEnd_terminal hnot code
      exact .ended_clear _ rfl hend.1
        (haborts.durable_iff (iff_of_false (Bool.eq_false_iff.mp hnot) hend.2)) ⟨rfl, rfl⟩
        ⟨rfl, rfl, rfl⟩
  | remoteError hcall hterm hframe htype hreport haborts =>
    have hfailed (hstate : r.state = .cancelling) : r.failureState = .failed := by
      simp [failureState, h.not_durable (by simp [hstate, Durable])]
    refine .ended r.failureState rfl r.failureState_durable.1
      (haborts.durable_iff r.failureState_durable.2) ⟨rfl, rfl⟩ (fun hset => ?_) (fun hset => ?_)
      (fun hset => absurd ((h.ackPending hset).1.symm.trans hterm) (by decide))
    · rcases h.sent hset with hstate | hstate | hstate
      · exact .inr (hfailed hstate)
      · simp [hstate, isTerminal] at hterm
      · simp [hstate, isTerminal] at hterm
    rcases h.framePending hset with hstate | hstate
    · exact hfailed hstate
    · simp [hstate, isTerminal] at hterm

theorem Sound.step (h : r.Sound) (hstep : Step r sh call o) : o.engine.Sound := by
  obtain ⟨r', sh', hmoves, hfinal⟩ := hstep
  exact (h.moves hmoves).final hfinal

theorem settled_of_terminal (h : isTerminal r.state = true) : r.Settled := by
  rintro (hstate | hstate | hstate) <;> rw [hstate] at h <;> cases h

/-- No call ends with a decision half made. -/
theorem Sound.settled (h : r.Sound) (hstep : Step r sh call o) : o.engine.Settled := by
  obtain ⟨r', sh', hmoves, hfinal⟩ := hstep
  have hsound := h.moves hmoves
  cases hfinal with
  | quiet hstate hterminal hframe hrests => exact hrests.settled
  | ackDropped hterm | shutdownTerminal hcall hterm => exact settled_of_terminal hterm
  | failed | remoteError => exact settled_of_terminal r'.failureState_durable.1
  | cancelTimeout | rejectEmitted | completionAckEmitted | finishedCommitted | finished
  | shutdownCommitted | shutdownFinished => exact settled_of_terminal rfl
  | fileCommitEmitted hstate => exact settled_of_state (by simp [Undecided, hstate])
  | chunkTaken hwrites hnew =>
    subst hnew
    exact settled_of_state (by simp [Undecided, chunkWritten, hwrites.state])
  | chunkUnanswered => exact settled_of_terminal (failureState_durable _).1
  | acceptEmitted => exact settled_of_state (by simp [Undecided])
  | cancelEmission hcall hstate hpending ho =>
    cases ho with
    | emitted => exact settled_of_state (by simp [Undecided, cancelSent, hstate])
    | busy => exact settled_of_state (by simp [Undecided, hstate])
    | exhausted => exact settled_of_terminal rfl
  | ackEmission hpending ho =>
    have hterm := (hsound.ackPending hpending).1
    cases ho <;> exact settled_of_terminal hterm
  | ackApplied hcall hsent =>
    have hnot := hsound.not_durable (durable_not_cancelled (hsound.sent hsent))
    exact settled_of_terminal (r'.acknowledgedEnd_terminal hnot _).1

theorem Silent.context_eq (hmove : Silent call r sh r' sh') : r'.context = r.context := by
  cases hmove with
  | remotelyCancelled =>
    unfold Receiver.remotelyCancelled
    split <;> rfl
  | _ => rfl

theorem Moves.context_eq (hmoves : Moves call r sh r' sh') : r'.context = r.context := by
  induction hmoves with
  | refl => rfl
  | head hmove _ ih => exact ih.trans hmove.context_eq

/-- The context never changes. -/
theorem Step.context_eq (hstep : Step r sh call o) : o.engine.context = r.context := by
  obtain ⟨r', sh', hmoves, hfinal⟩ := hstep
  rw [← hmoves.context_eq]
  cases hfinal with
  | chunkTaken hwrites hnew | chunkUnanswered hwrites hnew =>
    subst hnew
    rfl
  | cancelEmission hcall hstate hpending ho | ackEmission hpending ho => cases ho <;> rfl
  | _ => rfl

end Preservation

/-- A new receiver has nothing but its context. -/
theorem create_eq {env : Environment} {context : TransferContext} {sh : Shared}
    {update : TransferUpdate} {r : Receiver} (h : create env context sh = (update, some r)) :
    r = { context := context } := by
  simp only [create] at h
  split at h
  · cases h
  split at h <;> cases h
  rfl

theorem sound_new (context : TransferContext) : Sound { context := context } := by
  constructor <;> simp [durableCommit, Durable, isTerminal]

theorem settled_new (context : TransferContext) : Settled { context := context } :=
  fun _ => ⟨rfl, rfl⟩

end Receiver

end XnnTransfer.Transfer
