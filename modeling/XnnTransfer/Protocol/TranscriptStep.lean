import XnnTransfer.Protocol.TranscriptRun

/-!
# The steps of a transcript parser

`Handled` lists what the parser does with a message it accepts and `Processed`
lists the ways in which a call of `Process` ends. Every property of a transcript
is read off these two lists.
-/

namespace XnnTransfer.Protocol.TranscriptParser

open Guards

/-- What an accepted message does to the parser. -/
inductive Handled (parser : TranscriptParser) (direction : Direction) (frame : ParsedFrame) :
    TranscriptParser → Prop
  | hello (hello : HelloData) (type : frame.header.messageType = .hello)
      (absent : parser.hellos.get direction = none) (early : parser.negotiation = none)
      (unacknowledged : parser.negotiationAcknowledged = false)
      (unbound : parser.bindingFramesComplete = false)
      (read : readHello direction frame = .ok hello) :
      Handled parser direction frame
        { parser with hellos := parser.hellos.set direction (some hello) }
  | negotiate (initiator responder : HelloData) (type : frame.header.messageType = .negotiate)
      (sender : direction = .initiatorToResponder)
      (first : parser.hellos.initiator = some initiator)
      (second : parser.hellos.responder = some responder) (absent : parser.negotiation = none)
      (checked : (checkNegotiation initiator responder frame).ok = true) :
      Handled parser direction frame { parser with negotiation := some (readNegotiation frame) }
  | negotiateAck (type : frame.header.messageType = .negotiateAck)
      (sender : direction = .responderToInitiator)
      (negotiated : parser.negotiation = some (readNegotiation frame))
      (absent : parser.negotiationAcknowledged = false) (major : bodyUnsigned frame 1 ≤ 255)
      (minor : bodyUnsigned frame 2 ≤ 255) :
      Handled parser direction frame { parser with negotiationAcknowledged := true }
  | transportFinished (type : frame.header.messageType = .transportFinished)
      (acknowledged : parser.negotiationAcknowledged = true)
      (absent : parser.transportFinished.get direction = false)
      (role : UInt8.ofNat (bodyUnsigned frame 1) = UInt8.ofNat direction.expectedRole) :
      Handled parser direction frame
        { parser with
          transportFinished := parser.transportFinished.set direction true
          bindingFramesComplete :=
            (parser.transportFinished.set direction true).initiator &&
              (parser.transportFinished.set direction true).responder }
  | error (type : frame.header.messageType = .error) : Handled parser direction frame parser
  | ping (type : frame.header.messageType = .ping)
      (bound : parser.bindingFramesComplete = true)
      (absent : parser.pongExpected.get direction.reverse = false) :
      Handled parser direction frame
        { parser with
          pongExpected := parser.pongExpected.set direction.reverse true
          expectedPongToken :=
            parser.expectedPongToken.set direction.reverse (bodyUnsigned frame 1) }
  | pong (type : frame.header.messageType = .pong)
      (bound : parser.bindingFramesComplete = true)
      (expected : parser.pongExpected.get direction = true)
      (token : parser.expectedPongToken.get direction = bodyUnsigned frame 1) :
      Handled parser direction frame
        { parser with pongExpected := parser.pongExpected.set direction false }
  | other (notHello : frame.header.messageType ≠ .hello)
      (notNegotiate : frame.header.messageType ≠ .negotiate)
      (notAck : frame.header.messageType ≠ .negotiateAck)
      (notFinished : frame.header.messageType ≠ .transportFinished)
      (notPing : frame.header.messageType ≠ .ping) (notPong : frame.header.messageType ≠ .pong)
      (bound : parser.bindingFramesComplete = true) : Handled parser direction frame parser

variable {next parser : TranscriptParser} {direction : Direction} {frame : ParsedFrame}

theorem processHello_handled (htype : frame.header.messageType = .hello)
    (h : parser.processHello direction frame = .ok next) : parser.Handled direction frame next := by
  obtain ⟨hguard, h⟩ := ite_error_eq_ok.mp h
  split at h
  · cases h
  rename_i hello hread
  cases h
  push Not at hguard
  obtain ⟨habsent, hearly, hack, hbound⟩ := hguard
  exact Handled.hello hello htype (by simpa using habsent) (by simpa using hearly)
    (by simpa using hack) (by simpa using hbound) hread

theorem processNegotiate_handled (htype : frame.header.messageType = .negotiate)
    (h : parser.processNegotiate direction frame = .ok next) :
    parser.Handled direction frame next := by
  obtain ⟨hdirection, h⟩ := ite_error_eq_ok.mp h
  split at h
  next initiator responder hinitiator hresponder =>
    simp only [ite_error_eq_ok] at h
    obtain ⟨habsent, hcheck, ⟨⟩⟩ := h
    exact Handled.negotiate initiator responder htype (not_not.mp hdirection) hinitiator
      hresponder (by simpa using habsent) ((Bool.not_eq_false _).mp hcheck)
  · cases h

theorem processNegotiateAck_handled (htype : frame.header.messageType = .negotiateAck)
    (h : parser.processNegotiateAck direction frame = .ok next) :
    parser.Handled direction frame next := by
  obtain ⟨hdirection, h⟩ := ite_error_eq_ok.mp h
  split at h
  · cases h
  rename_i negotiation hnegotiation
  simp only [ite_error_eq_ok] at h
  obtain ⟨habsent, hrange, hequal, ⟨⟩⟩ := h
  rw [not_not] at hdirection hequal
  exact Handled.negotiateAck htype hdirection (hequal ▸ hnegotiation)
    (by simpa using habsent) (by omega) (by omega)

theorem processTransportFinished_handled (htype : frame.header.messageType = .transportFinished)
    (h : parser.processTransportFinished direction frame = .ok next) :
    parser.Handled direction frame next := by
  simp only [processTransportFinished, ite_error_eq_ok] at h
  obtain ⟨hack, habsent, hrole, ⟨⟩⟩ := h
  exact Handled.transportFinished htype ((Bool.not_eq_false _).mp hack)
    (by simpa using habsent) (not_not.mp hrole)

theorem processPing_handled (htype : frame.header.messageType = .ping)
    (h : parser.processPing direction frame = .ok next) : parser.Handled direction frame next := by
  simp only [processPing, ite_error_eq_ok] at h
  obtain ⟨hbound, habsent, ⟨⟩⟩ := h
  exact Handled.ping htype ((Bool.not_eq_false _).mp hbound) (by simpa using habsent)

theorem processPong_handled (htype : frame.header.messageType = .pong)
    (h : parser.processPong direction frame = .ok next) : parser.Handled direction frame next := by
  simp only [processPong, ite_error_eq_ok] at h
  obtain ⟨hbound, hguard, ⟨⟩⟩ := h
  push Not at hguard
  exact Handled.pong htype ((Bool.not_eq_false _).mp hbound) (by simpa using hguard.1) hguard.2

theorem processMessage_handled (h : parser.processMessage direction frame = .ok next) :
    parser.Handled direction frame next := by
  unfold processMessage at h
  split at h
  next htype => exact processHello_handled htype h
  next htype => exact processNegotiate_handled htype h
  next htype => exact processNegotiateAck_handled htype h
  next htype => exact processTransportFinished_handled htype h
  next htype =>
    split at h <;> cases h
    exact Handled.error htype
  next htype => exact processPing_handled htype h
  next htype => exact processPong_handled htype h
  rename_i hhello hnegotiate hack hfinished herror hping hpong
  split at h
  · cases h
  rename_i hbound
  cases h
  exact Handled.other hhello hnegotiate hack hfinished hping hpong ((Bool.not_eq_false _).mp hbound)

/-! ### The ways a call ends -/

/-- The header that the bytes carry, as far as it could be read. -/
def header (parser : TranscriptParser) (encoded : Bytes) : FrameHeader :=
  (parseFrameEnvelope encoded parser.expectedVersion).frame.header

/-- The envelope of the bytes is accepted. -/
def envelopeOk (parser : TranscriptParser) (encoded : Bytes) : Bool :=
  (parseFrameEnvelope encoded parser.expectedVersion).ok

/-- The check of the message identifier. -/
def passesIdCheck (parser : TranscriptParser) (direction : Direction) (encoded : Bytes) : Bool :=
  !parser.terminal && parser.envelopeOk encoded &&
    !parser.messageIdExhausted.get direction &&
    (parser.header encoded).messageId == parser.nextMessageId.get direction

/-- The ways a call of `Process` ends. -/
inductive Processed (parser : TranscriptParser) (direction : Direction) (encoded : Bytes) :
    Error × TranscriptParser → Prop
  | stopped (terminal : parser.terminal = true) :
      Processed parser direction encoded
        (⟨.stateViolation, "transcript is terminal after a fatal error"⟩, parser)
  | unreadable (live : parser.terminal = false) (unread : parser.envelopeOk encoded = false)
      (error : Error) (failed : error.ok = false) :
      Processed parser direction encoded (parser.complete error 0)
  | misnumbered (live : parser.terminal = false)
      (unnumbered : parser.passesIdCheck direction encoded = false) :
      Processed parser direction encoded
        (parser.complete ⟨.messageIdViolation, "message ID is not the next directional value"⟩
          (parser.header encoded).streamId)
  | refused (numbered : parser.passesIdCheck direction encoded = true) (error : Error)
      (failed : error.ok = false) :
      Processed parser direction encoded
        ((parser.countMessage direction).complete error (parser.header encoded).streamId)
  | accepted (numbered : parser.passesIdCheck direction encoded = true) (next : TranscriptParser)
      (handled : (parser.countMessage direction).Handled direction
        (parseFrame encoded parser.expectedVersion).frame next)
      (parsed : (parseFrame encoded parser.expectedVersion).ok = true) :
      Processed parser direction encoded ({}, next)

theorem process_processed (parser : TranscriptParser) (direction : Direction)
    (encoded : Bytes) :
    parser.Processed direction encoded (parser.process direction encoded) := by
  unfold process
  split
  next hterminal => exact Processed.stopped hterminal
  rename_i hlive
  rw [Bool.not_eq_true] at hlive
  simp only
  split
  next hunread => exact Processed.unreadable hlive hunread _ hunread
  rename_i hread
  rw [Bool.not_eq_false] at hread
  have henvelope : parser.envelopeOk encoded = true := hread
  split
  next hnumber =>
    refine Processed.misnumbered hlive ?_
    rw [← Bool.not_eq_true]
    intro hpasses
    simp only [passesIdCheck, Bool.and_eq_true, Bool.not_eq_true', beq_iff_eq] at hpasses
    rcases hnumber with hexhausted | hnumber
    · rw [hpasses.1.2] at hexhausted
      cases hexhausted
    · exact hnumber hpasses.2
  rename_i hnumber
  push Not at hnumber
  have hpasses : parser.passesIdCheck direction encoded = true := by
    simp only [passesIdCheck, Bool.and_eq_true, Bool.not_eq_true', beq_iff_eq]
    exact ⟨⟨⟨hlive, henvelope⟩, by simpa using hnumber.1⟩, hnumber.2⟩
  split
  · exact Processed.refused hpasses _ rfl
  split
  next hstate => exact Processed.refused hpasses _ hstate
  split
  next error hbody => exact Processed.refused hpasses _ (parseFrameBody_refuses _ hbody)
  rename_i frame hbody
  split
  next error hmessage =>
    exact Processed.refused hpasses _ (processMessage_refuses _ hmessage)
  rename_i next hmessage
  have hparse := parseFrame_of_body hread hbody
  refine Processed.accepted hpasses next ?_ (by rw [hparse]; exact hread)
  rw [hparse]
  exact processMessage_handled hmessage

end XnnTransfer.Protocol.TranscriptParser
