import XnnTransfer.Transfer.Finality
import XnnTransfer.Transfer.Link
import XnnTransfer.Transfer.SenderContract

/-!
# End-to-end integrity

Over a link that neither changes nor invents frames, a sender that reports a
completed transfer has a receiver that has committed the file, and the committed
bytes are those of the source. The sender only says what is true of the source
(`Truthful`), the receiver only claims completion for a committed file
(`Receiver.Honest`), and the link carries both across.
-/

namespace XnnTransfer.Transfer

open Protocol Storage Segments Ledger Receiver

/-- The file source returns the bytes of one byte string. -/
def ReadsFrom (source : Bytes) (env : Environment) : Prop :=
  ∀ offset size, (env.read offset size).ok = true →
    (env.read offset size).data = (source.drop offset).take size

/-- What a message says about the source is true, and it reports no completed transfer as an
error. -/
structure Truthful (manifest : OneFileManifest) (source : Bytes) (message : Message) : Prop where
  offer : message.type = .transferOffer → message.number 3 = manifest.fileSize
  chunk : message.type = .fileChunk →
    message.bytes 4 = (source.drop (message.number 3)).take (message.bytes 4).length
  error : message.type = .error → decodeWireError (message.number 1) ≠ some .completed

/-- The message claims that the transfer is complete. -/
def ClaimsCompletion (message : Message) : Prop :=
  message.type = .transferCompleteAck ∨
    message.type = .cancelAck ∧ decodeWireError (message.number 2) = some .completed

/-! ### What the sender says -/

namespace Sender

variable {env : Environment} {s : Sender} {sh : Shared} {call : SenderCall} {o : Outcome Sender}
  {source : Bytes} {message : Message}

variable {manifest : OneFileManifest} {context : TransferContext} {frame : Bytes}
  {code : WireErrorCode}

/-- Messages of the other types say nothing about the source. -/
theorem truthful_of_carries {type : MessageType} {fields : List FieldView}
    (h : Carries context type fields frame)
    (hmessage : decodeFrame context.version frame = some message)
    (htype : type ≠ .transferOffer ∧ type ≠ .fileChunk ∧ type ≠ .error) :
    Truthful manifest source message := by
  rw [h.message_eq hmessage]
  exact ⟨fun h => absurd h htype.1, fun h => absurd h htype.2.1, fun h => absurd h htype.2.2⟩

theorem number_errorFields (code : WireErrorCode) (retryable : Bool) :
    (⟨.error, errorFields code retryable⟩ : Message).number 1 = code.code := by
  simp [Message.number, findFirst, errorFields, u16Field, field]
  exact decodeUnsigned_u16Field code.code_lt

theorem number_offerFields (h : manifest.fileSize < 2 ^ 64) :
    (⟨.transferOffer, offerFields manifest⟩ : Message).number 3 = manifest.fileSize := by
  simp [Message.number, findFirst, offerFields, bytesField, u32Field, u64Field, field]
  exact decodeUnsigned_u64Field h

theorem truthful_reports {retryable : Bool} (hcode : code ≠ .completed)
    (h : Reports context code retryable frame)
    (hmessage : decodeFrame context.version frame = some message) :
    Truthful manifest source message := by
  rcases h with rfl | ⟨-, hcarries⟩
  · cases hmessage
  rw [hcarries.message_eq hmessage]
  refine ⟨nofun, nofun, fun _ hcompleted => ?_⟩
  rw [number_errorFields] at hcompleted
  exact hcode (eq_of_decodeWireError hcompleted)

theorem EmitsCancel.truthful (ho : EmitsCancel s sh o)
    (hmessage : decodeFrame s.context.version o.update.outboundFrame = some message) :
    Truthful s.manifest source message := by
  cases ho with
  | emitted hframe => exact truthful_of_carries hframe hmessage (by decide)
  | busy | exhausted => cases hmessage

theorem EmitsCancelAck.truthful (ho : EmitsCancelAck s sh o)
    (hmessage : decodeFrame s.context.version o.update.outboundFrame = some message) :
    Truthful s.manifest source message := by
  cases ho with
  | emitted hframe => exact truthful_of_carries hframe hmessage (by decide)
  | busy | exhausted | exhaustedTerminal => cases hmessage

/-- Everything a sender emits is true of the source it reads. -/
theorem Step.truthful (hsound : s.Sound) (hreads : ReadsFrom source env)
    (hstep : Step env s sh call o)
    (hmessage : decodeFrame s.context.version o.update.outboundFrame = some message) :
    Truthful s.manifest source message := by
  have hmax : maxFileBytes < 2 ^ 64 := by decide
  have hsize := hsound.size_le
  cases hstep with
  | quiet hstate hterminal hframe | ackDropped hterm hstate hterminal hframe =>
    rw [hframe] at hmessage
    cases hmessage
  | @failed _ t _ _ _ _ hterm hwire =>
    exact truthful_reports hwire (fails_fail env (s.atTime t) _).reports hmessage
  | @adjustRefused _ nowMs =>
    exact truthful_reports (by decide) (fails_fail env (s.atTime nowMs) _).reports hmessage
  | @cancelTimeout _ t =>
    exact truthful_reports (by decide) (fails_cancelTimeout env (s.atTime t) _).reports hmessage
  | offered hstate hframe =>
    rw [hframe.message_eq hmessage]
    exact ⟨fun _ => number_offerFields (by omega), nofun, nofun⟩
  | entrySent hstate hstage hframe | endSent hstate hstage hframe
  | beginSent hstate hbegun hframe
  | fileEndSent hstate hbegun hall hunacknowledged hend hframe
  | completeSent hstate hreads htype hid hindex hsize hframe =>
    exact truthful_of_carries hframe hmessage (by decide)
  | chunkSent hstate hbegun hleft hcredit hread hlength hframe =>
    rw [hframe.message_eq hmessage]
    refine ⟨nofun, fun _ => ?_, nofun⟩
    rw [number_chunkFields (by omega), bytes_chunkFields, hlength]
    exact hreads _ _ hread
  | cancelEmission hstate hpending ho | ackEmission hpending ho
  | reacknowledged hterm hreads htype ho | cancelBegun hterm hcancelling hcreated ho
  | remoteCancel hterm hcreated hreads htype ho => exact ho.truthful hmessage
  | _ => cases hmessage

theorem cancelAckEnd_completed (h : (cancelAckEnd code).1 = .completed) : code = .completed := by
  by_contra hcode
  unfold cancelAckEnd at h
  rw [if_neg hcode] at h
  split at h
  · cases h
  · split at h <;> cases h

/-- A sender only completes when it is told so. -/
theorem Step.completed_claims (hstep : Step env s sh call o) (hold : s.state ≠ .completed)
    (hnew : o.engine.state = .completed) :
    ∃ encoded message, call.inbound = some encoded ∧
      decodeFrame s.context.version encoded = some message ∧ ClaimsCompletion message := by
  have hemits {s : Sender} {sh : Shared} {o : Outcome Sender} (ho : EmitsCancel s sh o)
      (hstate : s.state ≠ .completed) : o.engine.state ≠ .completed := by
    cases ho with
    | emitted | busy => exact hstate
    | exhausted => exact nofun
  have hemitsAck {s : Sender} {sh : Shared} {o : Outcome Sender} (ho : EmitsCancelAck s sh o)
      (hstate : s.state ≠ .completed) : o.engine.state ≠ .completed := by
    cases ho <;> exact hstate
  cases hstep with
  | quiet | ackDropped | entrySent | beginSent | chunkSent | shutdownTerminal | acked =>
    exact absurd hnew hold
  | failed | adjustRefused =>
    rw [(fails_fail ..).engine] at hnew
    cases hnew
  | cancelTimeout =>
    rw [(fails_cancelTimeout ..).engine] at hnew
    cases hnew
  | offered | endSent | fileEndSent | finished | shutdownFinished | remoteError | rejected
  | accepted | completeSent => cases hnew
  | cancelEmission hstate hpending ho => exact absurd hnew (hemits ho hold)
  | ackEmission hpending ho | reacknowledged hterm hreads htype ho =>
    exact absurd hnew (hemitsAck ho hold)
  | cancelBegun hterm hcancelling hcreated ho => exact absurd hnew (hemits ho nofun)
  | @ackApplied encoded nowMs t ids frame code hsent hstate hreads htype hcode =>
    refine ⟨encoded, messageOf frame, rfl, hreads.decodeFrame_eq, .inr ⟨htype, ?_⟩⟩
    exact hcode.trans (congrArg some (cancelAckEnd_completed hnew))
  | remoteCancel hterm hcreated hreads htype ho => exact absurd hnew (hemitsAck ho nofun)
  | completedCancelling hstate horigin hreads htype | completed hstate hreads htype =>
    exact ⟨_, _, rfl, hreads.decodeFrame_eq, .inl htype⟩

end Sender

/-! ### What the receiver claims -/

namespace Receiver

variable {r r' : Receiver} {sh sh' : Shared} {call : ReceiverCall} {o : Outcome Receiver}
  {message : Message}

/-- Nothing in the receiver makes it claim completion of a file that is not committed. -/
structure Honest (r : Receiver) : Prop where
  record : r.terminal.wireError ≠ .completed
  answer : r.cancellation.ackPending = true → r.cancellation.pendingAckCode = .completed →
    r.durableCommit = true
  rejecting : r.state = .rejecting → r.pendingRejectCode ≠ .completed

/-- The call is not told that a completed transfer is an error. -/
def Heeds (r : Receiver) (call : ReceiverCall) : Prop :=
  ∀ encoded message, call.inbound = some encoded →
    decodeFrame r.context.version encoded = some message → message.type = .error →
    decodeWireError (message.number 1) ≠ some .completed

/-- An engine that owes no answer. -/
theorem Honest.of_silent (hrecord : r.terminal.wireError ≠ .completed)
    (hack : r.cancellation.ackPending = false) (hstate : r.state ≠ .rejecting) : r.Honest :=
  ⟨hrecord, fun hpending => absurd (hack.symm.trans hpending) (by decide),
    fun hrejecting => absurd hrejecting hstate⟩

/-- An active engine owes no answer; it may start to reject. -/
theorem Honest.advance (h : r.Honest) (hsound : r.Sound) (hactive : r.Active)
    (hterminal : r'.terminal = r.terminal) (hcancel : r'.cancellation = r.cancellation)
    (hreject : r'.state = .rejecting → r'.pendingRejectCode ≠ .completed) : r'.Honest := by
  obtain ⟨-, -, hack, -⟩ := hsound.flags hactive
  refine ⟨?_, ?_, hreject⟩
  · rw [hterminal]
    exact h.record
  rw [hcancel, hack]
  exact nofun

theorem cachedTerminalCode_completed {state : TransferState} {terminal : TerminalRecord}
    (hrecord : terminal.wireError ≠ .completed)
    (h : cachedTerminalCode state terminal = .completed) :
    state = .committed ∨ state = .completed := by
  by_contra hstate
  unfold cachedTerminalCode at h
  rw [if_neg hstate] at h
  split at h
  · cases h
  split at h
  · cases h
  · exact hrecord h

/-- Every move keeps the receiver honest. -/
theorem Honest.silent (h : r.Honest) (hsound : r.Sound) (hmove : Silent call r sh r' sh') :
    r'.Honest := by
  cases hmove with
  | tick | streamOpened | acceptEntered | offerRecorded | entryRecorded | entryTaken
  | manifestRefused | fileBegun | chunkChecked | confirmed | creditReserved => exact { h with }
  | completionPending =>
    refine ⟨h.record, ?_, h.rejecting⟩
    rw [durableCommit_completing]
    exact h.answer
  | streamRefused => exact h
  | offerTaken | manifestVerified => exact { h with rejecting := nofun }
  | chunkBroken hstate | commitBroken hstate | transactionRefused hstate
  | transactionBegun hstate =>
    exact h.advance hsound (active_of_eq hstate (by decide)) rfl rfl
      fun hother => absurd (hstate.symm.trans hother) (by decide)
  | fileCommitted hcall hframe htype hstate =>
    exact h.advance hsound (active_of_eq hstate (by decide)) rfl rfl nofun
  | rejectBegun hstate haborts hreason =>
    exact h.advance hsound (active_of_eq hstate (by decide)) rfl rfl
      (by rintro - rfl; cases hreason)
  | cancelBegun => exact .of_silent nofun rfl nofun
  | remotelyCancelled =>
    unfold Receiver.remotelyCancelled
    cases hdurable : r.durableCommit with
    | true => exact ⟨nofun, fun _ _ => hdurable, nofun⟩
    | false => exact ⟨nofun, nofun, nofun⟩
  | reacknowledging hcall hterm =>
    refine ⟨h.record, fun _ hcode => hsound.durable.mpr (.inr ?_), h.rejecting⟩
    exact cachedTerminalCode_completed h.record hcode

theorem Honest.moves (h : r.Honest) (hsound : r.Sound) (hmoves : Moves call r sh r' sh') :
    r'.Honest := by
  induction hmoves with
  | refl => exact h
  | head hmove _ ih => exact ih (h.silent hsound hmove) (hsound.silent hmove)

theorem acknowledgedEnd_record (r : Receiver) (code : WireErrorCode) :
    (r.acknowledgedEnd code).2.wireError ≠ .completed ∧ (r.acknowledgedEnd code).1 ≠ .rejecting := by
  unfold acknowledgedEnd
  split
  · split <;> exact ⟨nofun, nofun⟩
  rename_i hcode
  unfold Sender.cancelAckEnd
  rw [if_neg hcode]
  split
  · exact ⟨nofun, nofun⟩
  · split <;> exact ⟨hcode, nofun⟩

theorem failureState_ne_rejecting (r : Receiver) : r.failureState ≠ .rejecting := by
  unfold failureState
  split <;> decide

/-- Every ending keeps the receiver honest. -/
theorem Honest.final (h : r.Honest) (hsound : r.Sound) (hheeds : r.Heeds call)
    (hfinal : Final call r sh o) : o.engine.Honest := by
  cases hfinal with
  | quiet => exact h
  | ackDropped | shutdownTerminal => exact ⟨h.record, nofun, h.rejecting⟩
  | failed error wireError connectionFatal hterm haborts hframe hwire =>
    exact .of_silent hwire rfl r.failureState_ne_rejecting
  | cancelTimeout | finishedCommitted | finished | shutdownCommitted | shutdownFinished =>
    exact .of_silent nofun rfl nofun
  | rejectEmitted hstate =>
    exact .of_silent (h.rejecting hstate)
      (hsound.flags (active_of_eq hstate (by decide))).2.2.1 nofun
  | fileCommitEmitted => exact { h with }
  | completionAckEmitted hstate =>
    exact .of_silent nofun (hsound.flags (active_of_eq hstate (by decide))).2.2.1 nofun
  | chunkTaken hwrites hnew =>
    subst hnew
    exact h.advance hsound (active_of_eq hwrites.state (by decide)) rfl rfl
      fun hother => absurd (hwrites.state.symm.trans hother) (by decide)
  | chunkUnanswered => exact .of_silent nofun rfl (failureState_ne_rejecting _)
  | acceptEmitted => exact { h with rejecting := nofun }
  | cancelEmission hcall hstate hpending ho =>
    cases ho with
    | emitted => exact ⟨h.record, h.answer, h.rejecting⟩
    | busy => exact h
    | exhausted => exact .of_silent nofun rfl nofun
  | ackEmission hpending ho =>
    cases ho with
    | emitted | exhausted => exact ⟨h.record, nofun, h.rejecting⟩
    | busy => exact h
    | exhaustedTerminal => exact ⟨nofun, nofun, h.rejecting⟩
  | ackApplied =>
    exact .of_silent (acknowledgedEnd_record _ _).1 rfl (acknowledgedEnd_record _ _).2
  | @remoteError encoded nowMs frame report tx log budget hcall hterm hframe htype hreport =>
    refine ⟨fun hcompleted => ?_, fun hset => ?_, fun hstate => ?_⟩
    · simp only [readErrorReport] at hreport
      split at hreport
      · cases hreport
      rename_i wireError hcode
      split at hreport <;> cases hreport
      rw [show wireError = .completed from hcompleted] at hcode
      exact hheeds encoded (messageOf frame) (hcall ▸ rfl) hframe.message htype hcode
    · exact absurd ((hsound.ackPending hset).1.symm.trans hterm) (by decide)
    · exact absurd hstate r.failureState_ne_rejecting

theorem Honest.step (h : r.Honest) (hsound : r.Sound) (hheeds : r.Heeds call)
    (hstep : Step r sh call o) : o.engine.Honest := by
  obtain ⟨r', sh', hmoves, hfinal⟩ := hstep
  refine (h.moves hsound hmoves).final (hsound.moves hmoves) ?_ hfinal
  intro encoded message hinbound hmessage
  rw [hmoves.context_eq] at hmessage
  exact hheeds encoded message hinbound hmessage

/-- A receiver that claims completion has committed the file. -/
theorem Step.claims_durable (h : r.Honest) (hsound : r.Sound) (hstep : Step r sh call o)
    (hmessage : decodeFrame r.context.version o.update.outboundFrame = some message)
    (hclaims : ClaimsCompletion message) : o.engine.durableCommit = true := by
  obtain ⟨r', sh', hmoves, hfinal⟩ := hstep
  rw [← hmoves.context_eq] at hmessage
  cases hfinal.answers (hsound.moves hmoves) hmessage with
  | cancelAck hpending hsame heq =>
    subst heq
    rcases hclaims with htype | ⟨-, hcode⟩
    · cases htype
    rw [number_cancelAckFields] at hcode
    rw [hsame]
    exact (h.moves hsound hmoves).answer hpending (eq_of_decodeWireError hcode)
  | completeAck hdurable => exact hdurable
  | other htype =>
    rcases hclaims with hother | ⟨hother, -⟩
    · exact absurd hother htype.2
    · exact absurd hother htype.1

end Receiver

/-! ### Both ends -/

section Ends

variable (version : Version) (manifest : OneFileManifest) (source : Bytes)

/-- If the bytes are a frame, it is true of the source. -/
def TruthfulFrame (bytes : Bytes) : Prop :=
  ∀ message, decodeFrame version bytes = some message → Truthful manifest source message

/-- What holds of the two ends and of the frames between them. -/
structure Link.Faithful (l : Link) : Prop where
  sound : l.sender.engine.Sound
  manifest_eq : l.sender.engine.manifest = manifest
  version_eq : l.sender.engine.context.version = version ∧ l.receiver.engine.context.version = version
  tracked : Tracked l.receiver.engine.context l.receiver
  honest : l.receiver.engine.Honest
  told : ∀ packet ∈ l.toReceiver, TruthfulFrame version manifest source packet.bytes
  heard : ∀ bytes ∈ inbounds l.receiver.history, TruthfulFrame version manifest source bytes
  claims : ∀ bytes ∈ l.toSender, ∀ message, decodeFrame version bytes = some message →
    ClaimsCompletion message → l.receiver.engine.durableCommit = true
  completed : l.sender.engine.state = .completed → l.receiver.engine.durableCommit = true

end Ends

/-- The file the receiver has committed consists of these bytes. -/
def Committed (r : Receiver) (data : Bytes) : Prop :=
  ∃ tx handle result, r.transaction = some tx ∧ tx.state = .committed ∧
    .storage (.commitTemporary handle result) ∈ r.log ∧ result.disposition = .committed ∧
    writtenTo handle r.log = data

namespace Link

variable {version : Version} {manifest : OneFileManifest} {source : Bytes} {l : Link}

theorem mem_frames {update : TransferUpdate} {bytes : Bytes} (h : bytes ∈ update.frames) :
    bytes = update.outboundFrame := by
  unfold TransferUpdate.frames at h
  split at h
  · cases h
  · exact List.mem_singleton.mp h

theorem Faithful.senderDone {env : Environment} {call : SenderCall} {rest : List Bytes}
    {o : Outcome Sender} (h : l.Faithful version manifest source) (hreads : ReadsFrom source env)
    (hfeeds : l.FeedsSender call rest) (hstep : Sender.Step env l.sender.engine l.sender.shared call o) :
    (l.senderDone call rest o).Faithful version manifest source := by
  have hqueue : ∀ bytes ∈ call.inbound.toList ++ rest, bytes ∈ l.toSender := by
    rw [← hfeeds]
    exact fun _ => id
  refine ⟨h.sound.step hstep, hstep.constant.2.trans h.manifest_eq, ⟨?_, h.version_eq.2⟩, h.tracked,
    h.honest, fun packet hpacket => ?_, h.heard, fun bytes hbytes => ?_, fun hcompleted => ?_⟩
  · exact (congrArg TransferContext.version hstep.constant.1).trans h.version_eq.1
  · rcases List.mem_append.mp hpacket with hold | hnew
    · exact h.told packet hold
    obtain ⟨bytes, hbytes, rfl⟩ := List.mem_map.mp hnew
    intro message hmessage
    rw [mem_frames hbytes, ← h.version_eq.1] at hmessage
    exact h.manifest_eq ▸ hstep.truthful h.sound hreads hmessage
  · exact h.claims bytes (hqueue bytes (List.mem_append_right _ hbytes))
  by_cases hold : l.sender.engine.state = .completed
  · exact h.completed hold
  obtain ⟨encoded, message, hinbound, hmessage, hclaims⟩ := hstep.completed_claims hold hcompleted
  refine h.claims encoded (hqueue encoded ?_) message (h.version_eq.1 ▸ hmessage) hclaims
  simp [hinbound]

variable {call : ReceiverCall} {o : Outcome Receiver}

theorem Faithful.receiverDone {rest : List Packet} (h : l.Faithful version manifest source)
    (hfeeds : l.FeedsReceiver call rest)
    (hstep : Receiver.Step l.receiver.engine l.receiver.shared call o) :
    (l.receiverDone call rest o).Faithful version manifest source := by
  have hgiven : ∀ bytes, call.inbound = some bytes → TruthfulFrame version manifest source bytes := by
    intro bytes hinbound
    have hmem : bytes ∈ l.toReceiver.map Packet.bytes := by
      rw [hfeeds.1, hinbound]
      simp
    obtain ⟨packet, hpacket, rfl⟩ := List.mem_map.mp hmem
    exact h.told packet hpacket
  have hheeds : l.receiver.engine.Heeds call := fun encoded message hinbound hmessage =>
    (hgiven encoded hinbound message (h.version_eq.2 ▸ hmessage)).error
  have hkept : l.receiver.engine.durableCommit = true → o.engine.durableCommit = true := by
    intro hdurable
    obtain ⟨entry, hentry, hcommits⟩ := h.tracked.committed_iff.mpr hdurable
    have hlog := (hstep.records h.tracked.sound).log_isPrefix
    exact (h.tracked.step hstep).committed_iff.mp ⟨entry, hlog.subset hentry, hcommits⟩
  refine ⟨h.sound, h.manifest_eq, ⟨h.version_eq.1, ?_⟩, ?_,
    h.honest.step h.tracked.sound hheeds hstep, fun packet hpacket => ?_, fun bytes hbytes => ?_,
    fun bytes hbytes message hmessage hclaims => ?_, fun hcompleted => hkept (h.completed hcompleted)⟩
  · exact (congrArg TransferContext.version hstep.context_eq).trans h.version_eq.2
  · have hnew := h.tracked.step hstep
    rw [← hnew.context_eq] at hnew
    exact hnew
  · exact h.told packet (hfeeds.2.subset hpacket)
  · rw [show (l.receiverDone call rest o).receiver.history =
      l.receiver.history ++ [⟨l.receiver.engine, call.inbound, o.update, o.engine⟩] from rfl,
      inbounds_concat] at hbytes
    rcases List.mem_append.mp hbytes with hold | hnew
    · exact h.heard bytes hold
    · exact hgiven bytes (by simpa using hnew)
  rcases List.mem_append.mp hbytes with hold | hnew
  · exact hkept (h.claims bytes hold message hmessage hclaims)
  rw [mem_frames hnew, ← h.version_eq.2] at hmessage
  exact hstep.claims_durable h.honest h.tracked.sound hmessage hclaims

/-- A file committed over a faithful link is the source. -/
theorem Faithful.committed (h : l.Faithful version manifest source)
    (hsize : source.length = manifest.fileSize) (hdurable : l.receiver.engine.durableCommit = true) :
    Committed l.receiver.engine source := by
  obtain ⟨tx, htx, hstate⟩ := durableCommit_iff.mp hdurable
  obtain ⟨handle, result, before, after, offer, hlog, hresult, -, hwritten, hconsecutive, -, hoffer,
    message, hmessage, htype, htotal⟩ := h.tracked.safe.committed tx htx hstate
  rw [h.version_eq.2] at hmessage htotal hwritten hconsecutive
  refine ⟨tx, handle, result, htx, hstate, by simp [hlog], hresult, ?_⟩
  have hall : total (chunksTaken version l.receiver.history) = source.length := by
    rw [hsize, ← htotal, (h.heard offer hoffer message hmessage).offer htype]
  rw [hwritten, @content_eq_take _ source _ _ hconsecutive ?_, hall]
  · simp
  intro segment hsegment
  obtain ⟨o, ho, htaken⟩ := List.mem_filterMap.mp hsegment
  obtain ⟨message, hreceived, rfl⟩ := Option.map_eq_some_iff.mp htaken
  obtain ⟨hreceived, hchunk⟩ := Option.filter_eq_some_iff.mp hreceived
  obtain ⟨bytes, hbytes, hdecode⟩ := Option.bind_eq_some_iff.mp hreceived
  have hheard := h.heard bytes (List.mem_filterMap.mpr ⟨o, ho, hbytes⟩) message hdecode
  exact hheard.chunk (by simpa using (of_decide_eq_true hchunk).1)

/-- Whenever the sender has completed, the receiver has committed the bytes of the source. -/
theorem run_faithful {senderEnv receiverEnv : Environment}
    {senderContext receiverContext : TransferContext} {manifest : OneFileManifest}
    {sourceSize : Option Nat} {senderShared senderShared' receiverShared : Shared}
    {senderUpdate receiverUpdate : TransferUpdate} {s : Sender} {r : Receiver} {source : Bytes}
    (hsender : Sender.create senderEnv senderContext manifest sourceSize senderShared =
      (senderUpdate, some s, senderShared'))
    (hreceiver : Receiver.create receiverEnv receiverContext receiverShared =
      (receiverUpdate, some r))
    (hversion : receiverContext.version = senderContext.version)
    (hsize : source.length = manifest.fileSize) (actions : List LinkAction)
    (hreads : ∀ action ∈ actions, ∀ env, action.environment = some env → ReadsFrom source env)
    (hcompleted : (Runs.run act ⟨⟨s, senderShared', []⟩, ⟨r, receiverShared, []⟩, [], []⟩
      actions).sender.engine.state = .completed) :
    Committed (Runs.run act ⟨⟨s, senderShared', []⟩, ⟨r, receiverShared, []⟩, [], []⟩
      actions).receiver.engine source := by
  obtain ⟨rfl, hsound⟩ := Sender.sound_create hsender
  obtain rfl := Receiver.create_eq hreceiver
  have hfaithful := run_invariant (P := Faithful senderContext.version manifest source)
    (fun l h => h.tracked.settled)
    (fun l env call rest o h hgood hfeeds hstep => h.senderDone hgood hfeeds hstep)
    (fun l call rest o h hfeeds hstep => h.receiverDone hfeeds hstep)
    (fun l _ _ h => ⟨h.sound, h.manifest_eq, h.version_eq, { h.tracked with }, h.honest, h.told,
      h.heard, h.claims, h.completed⟩)
    (l := ⟨⟨_, senderShared', []⟩, ⟨{ context := receiverContext }, receiverShared, []⟩, [], []⟩)
    ⟨hsound, rfl, ⟨rfl, hversion⟩, tracked_new receiverContext receiverShared,
      ⟨nofun, nofun, nofun⟩, nofun, nofun, nofun, nofun⟩ hreads
  exact hfaithful.committed hsize (hfaithful.completed hcompleted)

/-- The plain transfer of one byte from the offer to its end. -/
def plainTransfer : List LinkAction :=
  let env := plainEnvironment [5]
  [.callSender env (.start 0), .callSender env (.nextOutbound 0), .callSender env (.nextOutbound 0),
    .deliverToReceiver env 0, .deliverToReceiver env 0, .deliverToReceiver env 0,
    .callReceiver env (.accept 4096 4096 0), .deliverToSender env 0,
    .callSender env (.nextOutbound 0), .callSender env (.nextOutbound 0),
    .deliverToReceiver env 0, .deliverToReceiver env 0, .deliverToSender env 0,
    .callSender env (.nextOutbound 0), .deliverToReceiver env 0,
    .callReceiver env (.nextOutbound 0), .deliverToSender env 0, .deliverToReceiver env 0,
    .callReceiver env (.nextOutbound 0), .deliverToSender env 0]

theorem plainTransfer_environment :
    ∀ action ∈ plainTransfer, ∀ env, action.environment = some env → ReadsFrom [5] env := by
  intro action haction env henv
  simp only [plainTransfer, List.mem_cons, List.not_mem_nil, or_false] at haction
  rcases haction with rfl | rfl | rfl | rfl | rfl | rfl | rfl | rfl | rfl | rfl | rfl | rfl | rfl |
    rfl | rfl | rfl | rfl | rfl | rfl | rfl <;> cases henv <;> exact fun _ _ _ => rfl

/-- The two ends of the plain transfer before it starts. -/
def plainLink : Link :=
  ⟨⟨(plainSender [5]).engine, (plainSender [5]).shared, []⟩, ⟨plainReceiver.engine, plainShared, []⟩,
    [], []⟩

theorem run_faithful_plain :
    (Runs.run act plainLink plainTransfer).sender.engine.state = .completed ∧
      Committed (Runs.run act plainLink plainTransfer).receiver.engine [5] := by
  have hcompleted : (Runs.run act plainLink plainTransfer).sender.engine.state = .completed := by
    decide +kernel
  refine ⟨hcompleted, ?_⟩
  unfold plainLink at hcompleted ⊢
  exact run_faithful create_plainSender create_plainReceiver rfl rfl plainTransfer
    plainTransfer_environment hcompleted

end Link

end XnnTransfer.Transfer
