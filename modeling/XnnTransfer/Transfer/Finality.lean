import XnnTransfer.Transfer.Lifecycle
import XnnTransfer.Transfer.ReceiverContract

/-!
# Terminal outcomes are final

Both engines evolve as `Evolves` says, so a terminal outcome is final and a
cancelled transfer changes at most once, by the answer to a cancel that crossed
the one of the peer. The exception is an `ERROR` frame that reaches an engine
whose own cancel is unanswered: the engine fails but keeps waiting for the
answer, and a late `CANCEL_ACK` changes its outcome.
-/

namespace XnnTransfer.Transfer

open Protocol Storage

namespace Sender

def status (s : Sender) : Status := ⟨s.state, s.cancellation.sent⟩

section Step

variable {env : Environment} {s : Sender} {sh : Shared} {call : SenderCall} {o : Outcome Sender}
  {message : Option Message}

theorem EmitsCancel.evolves (ho : EmitsCancel s sh o) (hstate : s.state = .cancelling)
    (hmessage : message = none) : Evolves message s.status o.engine.status := by
  cases ho with
  | emitted =>
    show Evolves message ⟨s.state, _⟩ ⟨s.state, true⟩
    rw [hstate]
    exact .cancelEmitted hmessage
  | busy => exact .quiet
  | exhausted =>
    show Evolves message ⟨s.state, _⟩ ⟨.cancelled, false⟩
    rw [hstate]
    exact .ended rfl

theorem EmitsCancelAck.status_eq (ho : EmitsCancelAck s sh o) : o.engine.status = s.status := by
  cases ho <;> rfl

/-- The status of the sender evolves in every call. -/
theorem Step.evolves (hclear : s.status.Active → s.cancellation.sent = false)
    (hstep : Step env s sh call o) :
    Evolves (call.inbound.bind (decodeFrame s.context.version)) s.status o.engine.status := by
  have hends (hlive : isTerminal s.state = false) {state : TransferState}
      (hterm : isTerminal state = true) :
      Evolves (call.inbound.bind (decodeFrame s.context.version)) s.status ⟨state, false⟩ :=
    .ends hlive hclear hterm
  have hmoves {before : TransferState} (after : TransferState) (hstate : s.state = before)
      (hactive : isTerminal before = false ∧ before ≠ .cancelling) :
      Evolves (call.inbound.bind (decodeFrame s.context.version)) s.status
        ⟨after, s.cancellation.sent⟩ := by
    subst hstate
    have hsent := hclear hactive
    rw [hsent]
    exact @Evolves.active _ s.status hactive hsent after
  cases hstep with
  | quiet | ackDropped | entrySent | beginSent | chunkSent | acked => exact .quiet
  | failed error wireError connectionFatal hterm =>
    rw [(fails_fail ..).engine]
    exact hends hterm rfl
  | adjustRefused hstate =>
    rw [(fails_fail ..).engine]
    exact hends (hstate ▸ rfl) rfl
  | cancelTimeout hstate =>
    rw [(fails_cancelTimeout ..).engine]
    exact hends (hstate ▸ rfl) rfl
  | offered hstate => exact hmoves .sendingManifest hstate (by decide)
  | endSent hstate => exact hmoves .awaitingDecision hstate (by decide)
  | fileEndSent hstate => exact hmoves .awaitingFileCommit hstate (by decide)
  | cancelEmission hstate hpending ho => exact ho.evolves hstate rfl
  | ackEmission hpending ho | reacknowledged hterm hreads htype ho =>
    rw [ho.status_eq]
    exact .quiet
  | cancelBegun hterm hcancelling hcreated ho =>
    have hactive : s.status.Active := ⟨hterm, hcancelling⟩
    exact Evolves.trans (.cancelBegun hactive (hclear hactive) rfl s.cancellation.sent)
      (ho.evolves rfl rfl)
  | finished hterm | shutdownFinished hterm => exact hends hterm rfl
  | shutdownTerminal hterm => exact .cleared hterm
  | ackApplied hsent hstate hreads htype hcode =>
    rcases hstate with hterm | hcancelling
    · exact .acknowledged hterm hsent (Inbound.decodeFrame_eq hreads) htype
        (isTerminal_cancelAckEnd _)
    · exact hends (hcancelling ▸ rfl) (isTerminal_cancelAckEnd _)
  | remoteCancel hterm hcreated hreads htype ho =>
    rw [ho.status_eq]
    by_cases hcancelling : s.state = .cancelling
    · show Evolves _ ⟨s.state, _⟩ ⟨.cancelled, s.cancellation.sent⟩
      rw [hcancelling]
      exact .remotelyCancelled (Inbound.decodeFrame_eq hreads) htype
    · exact hmoves .cancelled rfl ⟨hterm, hcancelling⟩
  | remoteError hterm hreads htype hreport =>
    by_cases hcancelling : s.state = .cancelling
    · show Evolves _ ⟨s.state, _⟩ ⟨.failed, s.cancellation.sent⟩
      rw [hcancelling]
      refine .remotelyFailed (Inbound.decodeFrame_eq hreads) ⟨htype, ?_⟩
      rw [errorReport_messageOf, hreport]
      rfl
    · exact hmoves .failed rfl ⟨hterm, hcancelling⟩
  | completedCancelling hstate => exact hends (hstate ▸ rfl) rfl
  | rejected hstate => exact hmoves .rejected hstate (by decide)
  | accepted hstate => exact hmoves .sendingFile hstate (by decide)
  | completeSent hstate => exact hmoves .completing hstate (by decide)
  | completed hstate => exact hmoves .completed hstate (by decide)

/-- Every call reports the state it leaves. -/
theorem Step.reported (hstep : Step env s sh call o) : o.update.state = o.engine.state := by
  cases hstep with
  | quiet hstate | ackDropped hterm hstate => exact hstate
  | failed | adjustRefused =>
    rw [(fails_fail ..).state, (fails_fail ..).engine]
    rfl
  | cancelTimeout =>
    rw [(fails_cancelTimeout ..).state, (fails_cancelTimeout ..).engine]
    rfl
  | cancelEmission hstate hpending ho | ackEmission hpending ho
  | reacknowledged hterm hreads htype ho | cancelBegun hterm hcancelling hcreated ho
  | remoteCancel hterm hcreated hreads htype ho => cases ho <;> rfl
  | _ => rfl

end Step

theorem acts {context : TransferContext} (s : Session Sender) (action : Action SenderCall)
    (hcontext : s.engine.context = context) :
    Acts status context.version s (act s action) := by
  cases action with
  | call env call =>
    have hstep := step_of_call env s.engine s.shared call
    refine .call hstep.reported fun hsent => ?_
    rw [← hcontext]
    refine hstep.evolves fun hactive => Bool.eq_false_iff.mpr fun hset => ?_
    rcases hsent hset with hstate | hstate
    · exact hactive.2 hstate
    have hlive := hactive.1
    rw [hstate] at hlive
    cases hlive
  | interfere shared => exact .interfere

end Sender

namespace Receiver

def status (r : Receiver) : Status := ⟨r.state, r.cancellation.sent⟩

section Step

variable {r r' : Receiver} {sh sh' : Shared} {call : ReceiverCall} {o : Outcome Receiver}
  {message : Option Message}

/-- A sound receiver that is active has no unanswered cancel. -/
theorem Sound.clear (h : r.Sound) (hactive : r.status.Active) : r.cancellation.sent = false :=
  (h.flags hactive).1

theorem Sound.evolves_active (h : r.Sound) {before : TransferState} (after : TransferState)
    (hstate : r.state = before) (hactive : isTerminal before = false ∧ before ≠ .cancelling) :
    Evolves message r.status ⟨after, r.cancellation.sent⟩ := by
  subst hstate
  have hsent := h.clear hactive
  rw [hsent]
  exact @Evolves.active _ r.status hactive hsent after

/-- The status of a sound receiver evolves in every move. -/
theorem Silent.evolves (h : r.Sound) (hmove : Silent call r sh r' sh') :
    Evolves (call.inbound.bind (decodeFrame r.context.version)) r.status r'.status := by
  cases hmove with
  | offerTaken hcall hstate => exact h.evolves_active .receivingManifest hstate (by decide)
  | manifestVerified hcall hstate => exact h.evolves_active .awaitingDecision hstate (by decide)
  | fileCommitted hcall hframe htype hstate =>
    exact h.evolves_active .awaitingCompletion hstate (by decide)
  | rejectBegun hstate => exact h.evolves_active .rejecting hstate (by decide)
  | cancelBegun hcall hterm hcreated hcancelling =>
    subst hcall
    have hactive : r.status.Active := ⟨hterm, hcancelling⟩
    exact .cancelBegun hactive (h.clear hactive) rfl r.cancellation.sent
  | @remotelyCancelled encoded nowMs frame tx log budget hcall hterm hcreated hframe htype =>
    subst hcall
    have hstatus : (r.remotelyCancelled tx log).status =
        ⟨if r.durableCommit then .committed else .cancelled, r.cancellation.sent⟩ := by
      unfold Receiver.remotelyCancelled
      split <;> rfl
    rw [hstatus]
    by_cases hcancelling : r.state = .cancelling
    · rw [h.not_durable (by simp [hcancelling, Durable])]
      show Evolves _ ⟨r.state, _⟩ ⟨.cancelled, r.cancellation.sent⟩
      rw [hcancelling]
      exact .remotelyCancelled hframe.message htype
    · exact h.evolves_active _ rfl ⟨hterm, hcancelling⟩
  | completionPending =>
    unfold status
    exact .quiet
  | _ => exact .quiet

theorem Moves.evolves (h : r.Sound) (hmoves : Moves call r sh r' sh') :
    Evolves (call.inbound.bind (decodeFrame r.context.version)) r.status r'.status := by
  induction hmoves with
  | refl => exact .quiet
  | head hmove _ ih =>
    refine (hmove.evolves h).trans ?_
    rw [← hmove.context_eq]
    exact ih (h.silent hmove)

theorem Final.evolves (h : r.Sound) (hfinal : Final call r sh o) :
    Evolves (call.inbound.bind (decodeFrame r.context.version)) r.status o.engine.status := by
  have hends (hlive : isTerminal r.state = false) {state : TransferState}
      (hterm : isTerminal state = true) :
      Evolves (call.inbound.bind (decodeFrame r.context.version)) r.status ⟨state, false⟩ :=
    .ends hlive h.clear hterm
  cases hfinal with
  | quiet | ackDropped | fileCommitEmitted => exact .quiet
  | failed error wireError connectionFatal hterm => exact hends hterm r.failureState_durable.1
  | cancelTimeout hstate => exact hends (hstate ▸ rfl) rfl
  | rejectEmitted hstate => exact h.evolves_active .rejected hstate (by decide)
  | completionAckEmitted hstate => exact h.evolves_active .completed hstate (by decide)
  | chunkTaken hwrites hnew =>
    subst hnew
    exact .quiet
  | chunkUnanswered hwrites hnew =>
    exact hends (hwrites.state ▸ rfl) (failureState_durable _).1
  | acceptEmitted hcall hstate => exact h.evolves_active .receivingFile hstate (by decide)
  | cancelEmission hcall hstate hpending ho =>
    cases ho with
    | emitted =>
      show Evolves _ ⟨r.state, _⟩ ⟨r.state, true⟩
      rw [hstate, hcall]
      exact .cancelEmitted rfl
    | busy => exact .quiet
    | exhausted => exact hends (hstate ▸ rfl) rfl
  | ackEmission hpending ho => cases ho <;> exact .quiet
  | finishedCommitted hterm | finished hterm | shutdownCommitted hcall hterm
  | shutdownFinished hcall hterm => exact hends hterm rfl
  | shutdownTerminal hcall hterm => exact .cleared hterm
  | @ackApplied encoded nowMs frame code tx log budget hcall hsent hstate hframe htype hcode =>
    subst hcall
    have hnot := h.not_durable (durable_not_cancelled (h.sent hsent))
    have hend := (r.acknowledgedEnd_terminal hnot code).1
    rcases hstate with hterm | hcancelling
    · exact .acknowledged hterm hsent hframe.message htype hend
    · exact hends (hcancelling ▸ rfl) hend
  | @remoteError encoded nowMs frame report tx log budget hcall hterm hframe htype hreport =>
    subst hcall
    by_cases hcancelling : r.state = .cancelling
    · have hfailed : r.failureState = .failed := by
        simp [failureState, h.not_durable (by simp [hcancelling, Durable])]
      show Evolves _ ⟨r.state, _⟩ ⟨r.failureState, r.cancellation.sent⟩
      rw [hcancelling, hfailed]
      refine .remotelyFailed hframe.message ⟨htype, ?_⟩
      rw [errorReport_messageOf, hreport]
      rfl
    · exact h.evolves_active _ rfl ⟨hterm, hcancelling⟩

theorem Final.reported (hfinal : Final call r sh o) : o.update.state = o.engine.state := by
  cases hfinal with
  | quiet hstate | ackDropped hterm hstate => exact hstate
  | chunkTaken hwrites hnew =>
    subst hnew
    rfl
  | cancelEmission hcall hstate hpending ho | ackEmission hpending ho => cases ho <;> rfl
  | _ => rfl

/-- The status of a sound receiver evolves in every call. -/
theorem Step.evolves (h : r.Sound) (hstep : Step r sh call o) :
    Evolves (call.inbound.bind (decodeFrame r.context.version)) r.status o.engine.status := by
  obtain ⟨r', sh', hmoves, hfinal⟩ := hstep
  refine (hmoves.evolves h).trans ?_
  rw [← hmoves.context_eq]
  exact hfinal.evolves (h.moves hmoves)

/-- Every call reports the state it leaves. -/
theorem Step.reported (hstep : Step r sh call o) : o.update.state = o.engine.state := by
  obtain ⟨r', sh', hmoves, hfinal⟩ := hstep
  exact hfinal.reported

end Step

theorem acts {context : TransferContext} (s : Session Receiver) (action : Action ReceiverCall)
    (h : Tracked context s) : Acts status context.version s (act s action) := by
  cases action with
  | call env call =>
    have hstep := step_of_call env s.engine s.shared h.settled call
    refine .call hstep.reported fun _ => ?_
    rw [← h.context_eq]
    exact hstep.evolves h.sound
  | interfere shared => exact .interfere

end Receiver

/-- Without an error while the own cancel is unanswered, the outcomes of both engines are
settled. -/
theorem outcomes_settle (env : Environment) (context : TransferContext) (sh : Shared)
    (update : TransferUpdate) :
    (∀ (manifest : OneFileManifest) (sourceSize : Option Nat) (sh' : Shared) (s : Sender),
      Sender.create env context manifest sourceSize sh = (update, some s, sh') →
      ∀ actions later : List (Action SenderCall),
        (∀ o ∈ (Runs.run Sender.act ⟨s, sh', []⟩ (actions ++ later)).history,
          ¬ Interrupted Sender.status context.version o) →
        Settles Sender.status context.version (Runs.run Sender.act ⟨s, sh', []⟩ actions)
          (Runs.run Sender.act ⟨s, sh', []⟩ (actions ++ later))) ∧
    ∀ r : Receiver, Receiver.create env context sh = (update, some r) →
      ∀ actions later : List (Action ReceiverCall),
        (∀ o ∈ (Runs.run Receiver.act ⟨r, sh, []⟩ (actions ++ later)).history,
          ¬ Interrupted Receiver.status context.version o) →
        Settles Receiver.status context.version (Runs.run Receiver.act ⟨r, sh, []⟩ actions)
          (Runs.run Receiver.act ⟨r, sh, []⟩ (actions ++ later)) := by
  constructor
  · intro manifest sourceSize sh' s hcreate actions later hnot
    obtain ⟨rfl, -⟩ := Sender.sound_create hcreate
    refine settles_run (P := fun s => s.engine.context = context) (fun s action hcontext => ?_)
      Sender.acts rfl (uninterrupted_new sh' rfl) actions later hnot
    cases action with
    | call env call =>
      exact (Sender.step_of_call env s.engine s.shared call).constant.1.trans hcontext
    | interfere shared => exact hcontext
  intro r hcreate actions later hnot
  rw [Receiver.create_eq hcreate] at hnot ⊢
  exact settles_run (fun s action h => h.run [action]) Receiver.acts
    (Receiver.tracked_new context sh) (uninterrupted_new sh rfl) actions later hnot

theorem outcomes_settle_plain :
    Settles Sender.status {} (plainSender [5])
        (Runs.run Sender.act (plainSender [5]) [.call (plainEnvironment [5]) (.start 0)]) ∧
      Settles Receiver.status {} plainReceiver
        (Runs.run Receiver.act plainReceiver [.call (plainEnvironment [5]) (.cancel 0)]) := by
  refine ⟨(outcomes_settle _ _ _ _).1 _ _ _ _ create_plainSender [] _ fun o ho => ?_,
    (outcomes_settle _ _ _ _).2 _ create_plainReceiver [] _ fun o ho => ?_⟩
  · rw [List.mem_singleton.mp ho]
    rintro ⟨-, message, hmessage, -⟩
    cases hmessage
  rw [List.mem_singleton.mp ho]
  rintro ⟨-, message, hmessage, -⟩
  cases hmessage

/-- A sender that is cancelled and then told of an error. -/
def interruptedSender : List (Action SenderCall) :=
  [.call (plainEnvironment [5]) (.start 0), .call (plainEnvironment [5]) (.cancel 0),
    .call (plainEnvironment [5])
      (.receiveFrame (plainBytes .responder 1 .error (errorFields .timeout false)) 0)]

/-- A receiver that is cancelled after an offer and then told of an error. -/
def interruptedReceiver : List (Action ReceiverCall) :=
  [.call (plainEnvironment [5])
      (.receiveFrame
        (plainBytes .initiator 1 .transferOffer (Sender.offerFields (plainManifest [5]))) 0),
    .call (plainEnvironment [5]) (.cancel 0),
    .call (plainEnvironment [5])
      (.receiveFrame (plainBytes .initiator 2 .error (errorFields .timeout false)) 0)]

/-- The answer to the cancel of the plain transfer. -/
def lateAnswer (role : Role) (number : UInt64) (code : WireErrorCode) : Bytes :=
  plainBytes role number .cancelAck (cancelAckFields (plainManifest [5]).transferId code)

/-- After an error that met an unanswered cancel, a late answer changes a failed outcome. -/
theorem failed_outcome_changes :
    ((Runs.run Sender.act (plainSender [5]) interruptedSender).engine.state = .failed ∧
      (Runs.run Sender.act (plainSender [5]) (interruptedSender ++
        [.call (plainEnvironment [5])
          (.receiveFrame (lateAnswer .responder 2 .completed) 0)])).engine.state = .completed) ∧
    (Runs.run Receiver.act plainReceiver interruptedReceiver).engine.state = .failed ∧
      (Runs.run Receiver.act plainReceiver (interruptedReceiver ++
        [.call (plainEnvironment [5])
          (.receiveFrame (lateAnswer .initiator 3 .cancelled) 0)])).engine.state =
        .cancelled := by
  decide +kernel

end XnnTransfer.Transfer
