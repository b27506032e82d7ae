import XnnTransfer.Transfer.ReceiverLedger

/-!
# The contract of the receiver towards any peer

Whatever frames a receiver is given and whatever is called on it: the platform
is not touched before the offer was verified and accepted, a committed file is
made of the chunks that were taken, and once a file is committed the receiver
never takes that back.
-/

namespace XnnTransfer.Transfer

open Protocol Storage Segments Histories Ledger

namespace Receiver

section History

variable (version : Version)

/-- The byte strings the receiver was given. -/
def inbounds (history : List (Observation Receiver)) : List Bytes :=
  history.filterMap (·.inbound)

/-- The chunks the receiver took, each at its own offset. -/
def chunksTaken (history : List (Observation Receiver)) : List (Segment UInt8) :=
  history.filterMap (taken version)

end History

section Append

variable {version : Version} {history : List (Observation Receiver)} {o : Observation Receiver}

theorem inbounds_concat : inbounds (history ++ [o]) = inbounds history ++ o.inbound.toList := by
  simp only [inbounds, List.filterMap_append]
  cases h : o.inbound <;> simp [h]

theorem chunksTaken_concat :
    chunksTaken version (history ++ [o]) =
      chunksTaken version history ++ (taken version o).toList := by
  simp only [chunksTaken, List.filterMap_append]
  cases h : taken version o <;> simp [h]

end Append

/-- What holds of a session after any number of calls. -/
structure Tracked (context : TransferContext) (s : Session Receiver) : Prop where
  sound : s.engine.Sound
  settled : s.engine.Settled
  context_eq : s.engine.context = context
  kept : ∀ inbound, Kept context.version (inbounds s.history) inbound s.engine.ledger
  taken : s.engine.ledger.Intact → chunksTaken context.version s.history = verified s.engine.log

section Run

variable {context : TransferContext} {s : Session Receiver} {call : ReceiverCall}
  {o : Outcome Receiver}

theorem Tracked.step (h : Tracked context s) (hstep : Step s.engine s.shared call o) :
    Tracked context (s.record call.inbound o) := by
  obtain ⟨hsound, hsettled, rfl, hkept, htaken⟩ := h
  have hrecords := hstep.records hsound
  refine ⟨hsound.step hstep, hsound.settled hstep, hstep.context_eq, fun inbound => ?_,
    fun hintact => ?_⟩
  · have hnew := (hkept call.inbound).records hrecords
    refine ⟨hnew.ordered, ?_, hnew.stored⟩
    rw [Session.record, inbounds_concat]
    exact hnew.heard.advance inbound
  obtain ⟨hbefore, hverified⟩ := hrecords.verified_eq hintact
  simp only [Session.record, chunksTaken_concat, htaken hbefore]
  exact hverified.symm

theorem tracked_new (context : TransferContext) (sh : Shared) :
    Tracked context ⟨{ context := context }, sh, []⟩ :=
  ⟨sound_new context, settled_new context, rfl, kept_new context context.version, fun _ => rfl⟩

theorem Tracked.run (h : Tracked context s) (actions : List (Action ReceiverCall)) :
    Tracked context (Runs.run act s actions) :=
  act_invariant (fun _ h => h.settled) (fun _ _ _ h hstep => h.step hstep)
    (fun _ _ h => { h with }) h actions

end Run

/-! ### Safety -/

/-- The committed file and where its bytes come from. -/
def CommittedFile (version : Version) (s : Session Receiver) : Prop :=
  ∃ handle result before after offer,
    s.engine.log = before ++ .storage (.commitTemporary handle result) :: after ∧
      result.disposition = .committed ∧ .storage (.sealVerifier true) ∈ before ∧
      writtenTo handle s.engine.log = content (chunksTaken version s.history) ∧
      Consecutive 0 (chunksTaken version s.history) ∧
      verified s.engine.log = chunksTaken version s.history ∧ offer ∈ inbounds s.history ∧
      Offers version offer (total (chunksTaken version s.history))

/-- The contract of the receiver over a session. -/
structure Safe (version : Version) (s : Session Receiver) : Prop where
  durable : Durable s.engine.state ↔ ∃ tx, s.engine.transaction = some tx ∧ tx.state = .committed
  platform : Along (fun before entry => entry.IsPlatform → .accept .awaitingDecision ∈ before)
    s.engine.log
  consulted : Along (fun before entry => entry = .accept .awaitingDecision → Approved before)
    s.engine.log
  awaiting : s.engine.state = .awaitingDecision → Approved s.engine.log
  presented : ∀ input, .verifyManifest input true ∈ s.engine.log →
    HasType version .transferOffer input.offerFrame ∧
      HasType version .manifestEntry input.entryFrame ∧
      HasType version .manifestEnd input.endFrame ∧
      [input.offerFrame, input.entryFrame, input.endFrame].Sublist (inbounds s.history)
  committed : ∀ tx, s.engine.transaction = some tx → tx.state = .committed → CommittedFile version s

variable {r : Receiver} {context : TransferContext}

theorem durableCommit_iff :
    r.durableCommit = true ↔ ∃ tx, r.transaction = some tx ∧ tx.state = .committed := by
  unfold durableCommit
  cases r.transaction <;> simp

theorem Tracked.safe {s : Session Receiver} (h : Tracked context s) : Safe context.version s := by
  obtain ⟨hordered, hheard, hstored⟩ := h.kept none
  refine ⟨h.sound.durable.symm.trans durableCommit_iff, hordered.platform, hordered.consulted,
    hordered.approved, fun input hinput => ?_, fun tx htx hcommitted => ?_⟩
  · obtain ⟨hoffer, hentry, hend, hfollows⟩ := hheard.manifests input hinput
    exact ⟨hoffer, hentry, hend, by simpa using hfollows.sublist⟩
  obtain ⟨handle, result, before, after, hlog, hresult, hsealed, hfilled, hall⟩ :=
    hstored.filled tx htx hcommitted
  have hintact : s.engine.ledger.Intact := fun other hother => by
    cases htx.symm.trans hother
    exact .inr hcommitted
  have htaken := h.taken hintact
  obtain ⟨hoffers, -, hfollows⟩ := hheard.offer (open_of_transaction htx)
  refine ⟨handle, result, before, after, s.engine.rawOfferFrame, hlog, hresult, hsealed, ?_, ?_,
    htaken.symm, ?_, ?_⟩
  · rw [htaken]
    exact hfilled.written
  · rw [htaken]
    exact hfilled.consecutive
  · have hmem := List.singleton_sublist.mp hfollows.sublist
    rw [Option.toList_none, List.append_nil] at hmem
    exact hmem
  have hsize : total (verified s.engine.log) = s.engine.manifest.fileSize :=
    hfilled.total_eq.trans hall
  rw [htaken, hsize]
  exact hoffers

/-- Every session of a receiver is safe. -/
theorem run_safe {env : Environment} {context : TransferContext} {sh : Shared}
    {update : TransferUpdate} {r : Receiver} (hcreate : create env context sh = (update, some r))
    (actions : List (Action ReceiverCall)) :
    Safe context.version (Runs.run act ⟨r, sh, []⟩ actions) := by
  rw [create_eq hcreate]
  exact ((tracked_new context sh).run actions).safe

theorem run_safe_plain :
    Safe {} (Runs.run act plainReceiver
      [.call (plainEnvironment [5]) (.accept 4096 4096 0), .call (plainEnvironment [5]) (.cancel 0)]) :=
  run_safe create_plainReceiver _

/-! ### A commit is final -/

section Emissions

variable {r r' : Receiver} {sh sh' : Shared} {call : ReceiverCall} {o : Outcome Receiver}
  {message : Message}

theorem number_cancelAckFields (transferId : Bytes) (code : WireErrorCode) :
    (⟨.cancelAck, cancelAckFields transferId code⟩ : Message).number 2 = code.code := by
  simp [Message.number, findFirst, cancelAckFields, bytesField, u16Field, field]
  exact decodeUnsigned_u16Field code.code_lt

theorem message_of_reports {context : TransferContext} {code : WireErrorCode} {retryable : Bool}
    {frame : Bytes} (h : Sender.Reports context code retryable frame)
    (hmessage : decodeFrame context.version frame = some message) : message.type = .error := by
  rcases h with rfl | ⟨-, hcarries⟩
  · cases hmessage
  · rw [hcarries.message_eq hmessage]

/-- The frames that answer to a cancel or to the end of a transfer. -/
inductive Answers (r : Receiver) (o : Outcome Receiver) (message : Message) : Prop
  | cancelAck (hpending : r.cancellation.ackPending = true)
      (hdurable : o.engine.durableCommit = r.durableCommit)
      (hmessage : message =
        ⟨.cancelAck, cancelAckFields r.manifest.transferId r.cancellation.pendingAckCode⟩)
  | completeAck (hdurable : o.engine.durableCommit = true)
      (htype : message.type = .transferCompleteAck)
  | other (htype : message.type ≠ .cancelAck ∧ message.type ≠ .transferCompleteAck)

theorem Final.answers (hsound : r.Sound) (hfinal : Final call r sh o)
    (hmessage : decodeFrame r.context.version o.update.outboundFrame = some message) :
    Answers r o message := by
  have hnone (hframe : o.update.outboundFrame = []) : Answers r o message := by
    rw [hframe] at hmessage
    cases hmessage
  have hreports {code : WireErrorCode} {retryable : Bool}
      (h : Sender.Reports r.context code retryable o.update.outboundFrame) : Answers r o message :=
    .other (by simp [message_of_reports h hmessage])
  have hother {type : MessageType} {fields : List FieldView}
      (h : Carries r.context type fields o.update.outboundFrame)
      (htype : type ≠ .cancelAck ∧ type ≠ .transferCompleteAck) : Answers r o message :=
    .other (by rw [h.message_eq hmessage]; exact htype)
  cases hfinal with
  | quiet hstate hterminal hframe | ackDropped hterm hstate hterminal hframe => exact hnone hframe
  | failed error wireError connectionFatal hterm haborts hframe
  | cancelTimeout hstate hsent haborts hframe | chunkUnanswered hwrites hnew haborts hframe =>
    exact hreports hframe
  | rejectEmitted hstate hframe | fileCommitEmitted hstate hframe
  | acceptEmitted hcall hstate htx hreceiving hframe => exact hother hframe (by decide)
  | completionAckEmitted hstate hpending hframe =>
    refine .completeAck (hsound.durable.mpr (.inl hstate)) ?_
    rw [hframe.message_eq hmessage]
  | chunkTaken hwrites hnew hack =>
    exact hother hack (by decide)
  | cancelEmission hcall hstate hpending ho =>
    cases ho with
    | emitted hframe => exact hother hframe (by decide)
    | busy | exhausted => exact hnone rfl
  | ackEmission hpending ho =>
    cases ho with
    | emitted hframe => exact .cancelAck hpending rfl (hframe.message_eq hmessage)
    | busy | exhausted | exhaustedTerminal => exact hnone rfl
  | finishedCommitted | finished | shutdownTerminal | shutdownCommitted | shutdownFinished
  | ackApplied | remoteError => exact hnone rfl

/-- A cancel acknowledgement of a receiver whose file is durable says so. -/
theorem Step.cancelAck_completed (hsound : r.Sound) (hstep : Step r sh call o)
    (hmessage : decodeFrame r.context.version o.update.outboundFrame = some message)
    (htype : message.type = .cancelAck) (hdurable : o.engine.durableCommit = true) :
    message.number 2 = WireErrorCode.completed.code := by
  obtain ⟨r', sh', hmoves, hfinal⟩ := hstep
  have hsound' := hsound.moves hmoves
  rw [← hmoves.context_eq] at hmessage
  cases hfinal.answers hsound' hmessage with
  | cancelAck hpending hsame heq =>
    have hcode := (hsound'.ackPending hpending).2 (hsame ▸ hdurable)
    rw [heq, hcode]
    exact number_cancelAckFields _ _
  | completeAck _ hother => cases htype.symm.trans hother
  | other hother => exact absurd htype hother.1

end Emissions

/-- The log says that the file was committed. -/
def CommitLogged (log : List LogEntry) : Prop := ∃ entry ∈ log, entry.Commits

/-- What a commit settles for the rest of a session. -/
structure Permanent (version : Version) (s : Session Receiver) : Prop where
  committed_iff : CommitLogged s.engine.log ↔
    ∃ tx, s.engine.transaction = some tx ∧ tx.state = .committed
  state : CommitLogged s.engine.log → Durable s.engine.state ∧ s.engine.cancellation.sent = false
  kept : Along (fun before entry => entry.CleansUp → ¬ CommitLogged before) s.engine.log
  reported : ∀ o ∈ s.history, CommitLogged o.after.log →
    Durable o.after.state ∧ o.after.cancellation.sent = false
  acks : ∀ o ∈ s.history, CommitLogged o.after.log → ∀ message,
    o.emitted version = some message → message.type = .cancelAck →
      message.number 2 = WireErrorCode.completed.code

theorem Tracked.committed_iff {context : TransferContext} {s : Session Receiver}
    (h : Tracked context s) : CommitLogged s.engine.log ↔ s.engine.durableCommit = true := by
  obtain ⟨hordered, -, hstored⟩ := h.kept none
  rw [durableCommit_iff]
  constructor
  · rintro ⟨entry, hentry, hcommits⟩
    exact hordered.committed entry hentry hcommits
  rintro ⟨tx, htx, hcommitted⟩
  obtain ⟨handle, result, before, after, hlog, hresult, -⟩ := hstored.filled tx htx hcommitted
  have hlog : s.engine.log = before ++ .storage (.commitTemporary handle result) :: after := hlog
  exact ⟨.storage (.commitTemporary handle result), by simp [hlog], hresult⟩

/-- A durable file excludes a cancel of one's own. -/
theorem Sound.durable_state {r : Receiver} (h : r.Sound) (hdurable : r.durableCommit = true) :
    Durable r.state ∧ r.cancellation.sent = false := by
  refine ⟨h.durable.mp hdurable, Bool.eq_false_iff.mpr fun hsent => ?_⟩
  exact durable_not_cancelled (h.sent hsent) (h.durable.mp hdurable)

section Permanence

variable {context : TransferContext} {s : Session Receiver} {call : ReceiverCall}
  {o : Outcome Receiver}

theorem Tracked.permanent (h : Tracked context s)
    (hreported : ∀ o ∈ s.history, CommitLogged o.after.log →
      Durable o.after.state ∧ o.after.cancellation.sent = false)
    (hacks : ∀ o ∈ s.history, CommitLogged o.after.log → ∀ message,
      o.emitted context.version = some message → message.type = .cancelAck →
        message.number 2 = WireErrorCode.completed.code) : Permanent context.version s := by
  refine ⟨h.committed_iff.trans durableCommit_iff, fun hlogged => ?_, ?_, hreported, hacks⟩
  · exact h.sound.durable_state (h.committed_iff.mp hlogged)
  intro before entry hpre hcleans ⟨earlier, hearlier, hcommits⟩
  exact (h.kept none).ordered.kept before entry hpre hcleans earlier hearlier hcommits

theorem Permanent.step (hold : Permanent context.version s) (h : Tracked context s)
    (hstep : Step s.engine s.shared call o) :
    Permanent context.version (s.record call.inbound o) := by
  have hnew := h.step hstep
  refine hnew.permanent (fun entry hentry hlogged => ?_)
    (fun entry hentry hlogged message hmessage htype => ?_)
  · rcases List.mem_append.mp hentry with hentry | hentry
    · exact hold.reported entry hentry hlogged
    rw [List.mem_singleton.mp hentry] at hlogged ⊢
    exact hnew.sound.durable_state (hnew.committed_iff.mp hlogged)
  rcases List.mem_append.mp hentry with hentry | hentry
  · exact hold.acks entry hentry hlogged message hmessage htype
  rw [List.mem_singleton.mp hentry] at hlogged hmessage
  rw [← h.context_eq] at hmessage
  exact hstep.cancelAck_completed h.sound hmessage htype (hnew.committed_iff.mp hlogged)

theorem permanent_new (context : TransferContext) (sh : Shared) :
    Permanent context.version ⟨{ context := context }, sh, []⟩ :=
  (tracked_new context sh).permanent (by simp) (by simp)

theorem Permanent.run (hold : Permanent context.version s) (h : Tracked context s)
    (actions : List (Action ReceiverCall)) :
    Permanent context.version (Runs.run act s actions) := by
  let P : Session Receiver → Prop := fun s => Tracked context s ∧ Permanent context.version s
  have hstep (s : Session Receiver) (call : ReceiverCall) (o : Outcome Receiver) (h : P s)
      (hstep : Step s.engine s.shared call o) : P (s.record call.inbound o) :=
    ⟨h.1.step hstep, h.2.step h.1 hstep⟩
  have hinterfere (s : Session Receiver) (shared : Shared) (h : P s) :
      P { s with shared := shared } := ⟨{ h.1 with }, { h.2 with }⟩
  exact (act_invariant (fun _ h => h.1.settled) hstep hinterfere ⟨h, hold⟩ actions).2

/-- A cancel of one's own excludes a commit from then on. -/
theorem Sound.dead {r : Receiver} (h : r.Sound) (hsent : r.cancellation.sent = true) :
    r.ledger.Dead := by
  have hstate := h.sent hsent
  have hnot := h.not_durable (durable_not_cancelled hstate)
  refine ⟨?_, fun tx htx hcommitted => ?_⟩
  · show r.state ≠ _ ∧ r.state ≠ _ ∧ r.state ≠ _ ∧ r.state ≠ _
    rcases hstate with hstate | hstate | hstate <;> simp [hstate]
  · exact Bool.eq_false_iff.mp hnot ((durableCommit_some htx).mpr hcommitted)

end Permanence

/-- What a later session keeps of an earlier one. -/
structure Extends (s t : Session Receiver) : Prop where
  log : s.engine.log <+: t.engine.log
  history : s.history <+: t.history
  dead : s.engine.ledger.Dead → t.engine.ledger.Dead

variable {context : TransferContext} {s : Session Receiver}

theorem Extends.step {call : ReceiverCall} {o : Outcome Receiver} (h : Tracked context s)
    (hstep : Step s.engine s.shared call o) : Extends s (s.record call.inbound o) where
  log := (hstep.records h.sound).log_isPrefix
  history := List.prefix_append _ _
  dead := (hstep.records h.sound).invariant Dead.change Dead.write

/-- Whatever happens after a session only extends it. -/
theorem Tracked.extends (h : Tracked context s) (later : List (Action ReceiverCall)) :
    Extends s (Runs.run act s later) := by
  refine Runs.run_related (fun s => ⟨List.prefix_rfl, List.prefix_rfl, id⟩)
    (fun s t u hst htu => ⟨hst.log.trans htu.log, hst.history.trans htu.history,
      fun hdead => htu.dead (hst.dead hdead)⟩)
    (fun s action h => ?_) (fun s action h => ?_) h later
  · exact h.run [action]
  cases action with
  | call env call =>
    exact Extends.step h (step_of_call env s.engine s.shared h.settled call)
  | interfere shared => exact ⟨List.prefix_rfl, List.prefix_rfl, id⟩

/-- A commit is never taken back, and a cancel of one's own excludes it for ever. -/
theorem run_permanent {env : Environment} {context : TransferContext} {sh : Shared}
    {update : TransferUpdate} {r : Receiver} (hcreate : create env context sh = (update, some r))
    (actions later : List (Action ReceiverCall)) :
    let s := Runs.run act ⟨r, sh, []⟩ actions
    let t := Runs.run act ⟨r, sh, []⟩ (actions ++ later)
    Permanent context.version t ∧ s.engine.log <+: t.engine.log ∧ s.history <+: t.history ∧
      (s.engine.cancellation.sent = true → ¬ CommitLogged t.engine.log) := by
  rw [create_eq hcreate]
  have hnew := tracked_new context sh
  have htracked := hnew.run actions
  have hpermanent := (permanent_new context sh).run hnew (actions ++ later)
  have hext := htracked.extends later
  rw [← Runs.run_append] at hext
  refine ⟨hpermanent, hext.log, hext.history, fun hsent hlogged => ?_⟩
  obtain ⟨tx, htx, hcommitted⟩ := hpermanent.committed_iff.mp hlogged
  exact (hext.dead (htracked.sound.dead hsent)).2 tx htx hcommitted

theorem run_permanent_plain :
    let s := Runs.run act plainReceiver [.call (plainEnvironment [5]) (.cancel 0)]
    let t := Runs.run act plainReceiver ([.call (plainEnvironment [5]) (.cancel 0)] ++
      [.call (plainEnvironment [5]) .shutdown])
    Permanent {} t ∧ s.engine.log <+: t.engine.log ∧ s.history <+: t.history ∧
      (s.engine.cancellation.sent = true → ¬ CommitLogged t.engine.log) :=
  run_permanent create_plainReceiver _ _

end Receiver

end XnnTransfer.Transfer
