import XnnTransfer.Library.MachineWords
import XnnTransfer.Library.SortedRanges
import XnnTransfer.Protocol.Versions

/-!
# The transcript parser

`TranscriptParser` of `native/src/protocol/v1_parser.cpp`: the frames of both
directions of one connection, from the two `HELLO` messages to the transport
binding and beyond.

## Implementation notes

A `present` flag and the data it guards are an `Option`. The arrays with a count
are lists; a frame has at most 256 fields, so no array is ever full. `Process`
returns its error together with the parser. `HelloData::role` is compared with
the direction when it is read and not looked at again, so it is not kept.
-/

namespace XnnTransfer.Protocol

open SortedRanges

inductive Direction
  | initiatorToResponder
  | responderToInitiator
  deriving DecidableEq, Repr

def Direction.reverse : Direction → Direction
  | .initiatorToResponder => .responderToInitiator
  | .responderToInitiator => .initiatorToResponder

/-- One value for each direction, the model of an array of two. -/
structure PerDirection (α : Type) where
  initiator : α
  responder : α
  deriving DecidableEq, Repr

namespace PerDirection

variable {α : Type}

def get (pair : PerDirection α) : Direction → α
  | .initiatorToResponder => pair.initiator
  | .responderToInitiator => pair.responder

def set (pair : PerDirection α) (direction : Direction) (value : α) : PerDirection α :=
  match direction with
  | .initiatorToResponder => { pair with initiator := value }
  | .responderToInitiator => { pair with responder := value }

@[simp] theorem get_set_same (pair : PerDirection α) (direction : Direction) (value : α) :
    (pair.set direction value).get direction = value := by
  cases direction <;> rfl

theorem get_set_other (pair : PerDirection α) {direction other : Direction}
    (h : other ≠ direction) (value : α) :
    (pair.set direction value).get other = pair.get other := by
  cases direction <;> cases other <;> first | rfl | exact absurd rfl h

end PerDirection

structure HelloData where
  minimum : Version
  maximum : Version
  capabilities : List UInt32
  requiredCapabilities : List UInt32
  receiveMaxBody : UInt32
  receiveMaxInFlight : UInt32
  receiveMaxStreams : UInt16
  deriving DecidableEq, Repr

structure NegotiationData where
  selectedVersion : Version
  capabilities : List UInt32
  effectiveMaxBody : UInt32
  effectiveMaxInFlight : UInt32
  effectiveMaxStreams : UInt16
  deriving DecidableEq, Repr

structure TranscriptParser where
  nextMessageId : PerDirection Nat := ⟨1, 1⟩
  messageIdExhausted : PerDirection Bool := ⟨false, false⟩
  hellos : PerDirection (Option HelloData) := ⟨none, none⟩
  negotiation : Option NegotiationData := none
  negotiationAcknowledged : Bool := false
  transportFinished : PerDirection Bool := ⟨false, false⟩
  bindingFramesComplete : Bool := false
  pongExpected : PerDirection Bool := ⟨false, false⟩
  expectedPongToken : PerDirection Nat := ⟨0, 0⟩
  terminal : Bool := false
  deriving DecidableEq, Repr

/-- `DecodeUnsigned` of the first field with the identifier. -/
def bodyUnsigned (frame : ParsedFrame) (id : Nat) : Nat :=
  ((findFirst frame.bodyFields id).map decodeUnsigned).getD 0

/-- The repeated field with the identifier, as 32-bit words. -/
def bodyWords (frame : ParsedFrame) (id : Nat) : List UInt32 :=
  (frame.bodyFields.filter fun field => field.id = id).map fun field =>
    UInt32.ofNat (decodeUnsigned field)

def maxInFlight : UInt32 := 67108864
def maxStreams : UInt16 := 32

/-- The role that `HELLO` and `TRANSPORT_FINISHED` must carry in a direction. -/
def Direction.expectedRole : Direction → Nat
  | .initiatorToResponder => 1
  | .responderToInitiator => 2

/-- The loop of `ProcessHello` over neighbouring capabilities. -/
def checkHelloOrder : List UInt32 → Error
  | previous :: current :: rest =>
    if current ≤ previous then
      ⟨.malformedMessage, "HELLO capabilities are not sorted and unique"⟩
    else if current >>> 16 = previous >>> 16 then
      ⟨.malformedMessage, "HELLO advertises multiple capability versions"⟩
    else checkHelloOrder (current :: rest)
  | _ => {}

/-- The checks of `ProcessHello` on the capability lists. -/
def checkHelloCapabilities (capabilities required : List UInt32) : Error :=
  if (checkHelloOrder capabilities).ok = false then checkHelloOrder capabilities
  else if ¬ required.IsChain (· < ·) then
    ⟨.malformedMessage, "HELLO required capabilities are not sorted and unique"⟩
  else if required.any fun c => !binarySearch capabilities c then
    ⟨.unsupportedCapability, "required capability was not advertised"⟩
  else if binarySearch capabilities baseTransferV1 = false ∨
      binarySearch required baseTransferV1 = false then
    ⟨.unsupportedCapability, "BASE_TRANSFER_V1 is not advertised and required"⟩
  else {}

/-- The checks of `ProcessHello` on the receive limits. -/
def checkHelloLimits (body inFlight : UInt32) (streams : UInt16) : Error :=
  if body < 8192 ∨ UInt32.ofNat maxBodyLength < body then
    ⟨.limitExceeded, "HELLO receive_max_body is outside v1 limits"⟩
  else if inFlight < 1048576 ∨ maxInFlight < inFlight then
    ⟨.limitExceeded, "HELLO receive_max_in_flight is outside v1 limits"⟩
  else if streams = 0 ∨ maxStreams < streams then
    ⟨.limitExceeded, "HELLO receive_max_streams is outside v1 limits"⟩
  else {}

/-- The part of `ProcessHello` that reads the message. -/
def readHello (direction : Direction) (frame : ParsedFrame) : Except Error HelloData :=
  let minimumMajor := bodyUnsigned frame 1
  let minimumMinor := bodyUnsigned frame 2
  let maximumMajor := bodyUnsigned frame 3
  let maximumMinor := bodyUnsigned frame 4
  if minimumMajor = 0 ∨ 255 < minimumMajor ∨ 255 < minimumMinor ∨ 255 < maximumMajor ∨
      255 < maximumMinor then
    .error ⟨.malformedMessage, "HELLO version component is outside the header range"⟩
  else
    let minimum : Version := ⟨UInt8.ofNat minimumMajor, UInt8.ofNat minimumMinor⟩
    let maximum : Version := ⟨UInt8.ofNat maximumMajor, UInt8.ofNat maximumMinor⟩
    if versionLess maximum minimum then
      .error ⟨.malformedMessage, "HELLO version range is reversed"⟩
    else if UInt8.ofNat (bodyUnsigned frame 5) ≠ UInt8.ofNat direction.expectedRole then
      .error ⟨.stateViolation, "HELLO role conflicts with transport direction"⟩
    else
      let capabilities := bodyWords frame 6
      let required := bodyWords frame 7
      let capabilityError := checkHelloCapabilities capabilities required
      if capabilityError.ok = false then .error capabilityError
      else
        let body := UInt32.ofNat (bodyUnsigned frame 8)
        let inFlight := UInt32.ofNat (bodyUnsigned frame 9)
        let streams := UInt16.ofNat (bodyUnsigned frame 10)
        let limitError := checkHelloLimits body inFlight streams
        if limitError.ok = false then .error limitError
        else .ok ⟨minimum, maximum, capabilities, required, body, inFlight, streams⟩

/-- The merge loop of `ProcessNegotiate`. -/
def intersectCapabilities : List UInt32 → List UInt32 → List UInt32
  | [] => fun _ => []
  | x :: xs => against x (intersectCapabilities xs)
where
  /-- The walk through the responder's list while `x` leads the initiator's. -/
  against (x : UInt32) (next : List UInt32 → List UInt32) : List UInt32 → List UInt32
    | [] => []
    | y :: ys =>
      if x = y then x :: next ys else if x < y then next (y :: ys) else against x next ys

/-- What `NEGOTIATE` and `NEGOTIATE_ACK` carry, as both readers cast it. -/
def readNegotiation (frame : ParsedFrame) : NegotiationData where
  selectedVersion := ⟨UInt8.ofNat (bodyUnsigned frame 1), UInt8.ofNat (bodyUnsigned frame 2)⟩
  capabilities := bodyWords frame 3
  effectiveMaxBody := UInt32.ofNat (bodyUnsigned frame 4)
  effectiveMaxInFlight := UInt32.ofNat (bodyUnsigned frame 5)
  effectiveMaxStreams := UInt16.ofNat (bodyUnsigned frame 6)

/-- The part of `ProcessNegotiate` that compares the message with the two hellos. -/
def checkNegotiation (initiator responder : HelloData) (frame : ParsedFrame) : Error :=
  let selected := readNegotiation frame
  let minimum := commonMinimum initiator.minimum responder.minimum
  let maximum := commonMaximum initiator.maximum responder.maximum
  let intersection := intersectCapabilities initiator.capabilities responder.capabilities
  if bodyUnsigned frame 1 = 0 ∨ 255 < bodyUnsigned frame 1 ∨ 255 < bodyUnsigned frame 2 then
    ⟨.malformedMessage, "selected version is outside the header range"⟩
  else if ¬ selected.capabilities.IsChain (· < ·) then
    ⟨.malformedMessage, "selected capabilities are not sorted and unique"⟩
  else if versionLess maximum minimum then
    ⟨.unsupportedVersion, "HELLO version ranges do not intersect"⟩
  else if selected.selectedVersion ≠ maximum then
    ⟨.downgradeDetected, "highest common version was not selected"⟩
  else if (initiator.requiredCapabilities ++ responder.requiredCapabilities).any fun c =>
      !binarySearch intersection c then
    ⟨.unsupportedCapability, "required capability is unavailable"⟩
  else if selected.capabilities ≠ intersection then
    ⟨.unsupportedCapability, "selected capability set is not the intersection"⟩
  else if selected.effectiveMaxBody ≠ min initiator.receiveMaxBody responder.receiveMaxBody ∨
      selected.effectiveMaxInFlight ≠
        min initiator.receiveMaxInFlight responder.receiveMaxInFlight ∨
      selected.effectiveMaxStreams ≠ min initiator.receiveMaxStreams responder.receiveMaxStreams
  then
    ⟨.malformedMessage, "selected limits are not the advertised minima"⟩
  else {}

namespace TranscriptParser

variable (parser : TranscriptParser) (direction : Direction) (frame : ParsedFrame)

/-- `Complete`: report an error and remember whether it was fatal. -/
def complete (error : Error) (streamId : Nat) : Error × TranscriptParser :=
  match error.code with
  | .none => (error, parser)
  | .malformedFrame | .frameTooLarge | .unsupportedVersion | .downgradeDetected
  | .unsupportedCapability | .unsupportedMessage | .messageIdViolation =>
    (error, { parser with terminal := true })
  | .malformedMessage | .unknownCriticalField | .stateViolation | .limitExceeded =>
    (error, { parser with
      terminal := parser.bindingFramesComplete = false ∨ streamId = 0 })

def validateEnvelopeState : Error :=
  match frame.header.messageType with
  | .hello =>
    if (parser.hellos.get direction).isSome = true ∨ parser.negotiation.isSome = true ∨
        parser.negotiationAcknowledged = true ∨ parser.bindingFramesComplete = true then
      ⟨.stateViolation, "HELLO is repeated or late"⟩
    else {}
  | .negotiate =>
    if direction ≠ .initiatorToResponder then
      ⟨.stateViolation, "responder cannot send NEGOTIATE"⟩
    else if parser.hellos.initiator.isNone = true ∨ parser.hellos.responder.isNone = true then
      ⟨.stateViolation, "NEGOTIATE arrived before both HELLO messages"⟩
    else if parser.negotiation.isSome then ⟨.stateViolation, "NEGOTIATE is repeated"⟩
    else {}
  | .negotiateAck =>
    if direction ≠ .responderToInitiator then
      ⟨.stateViolation, "initiator cannot send NEGOTIATE_ACK"⟩
    else if parser.negotiation.isNone then
      ⟨.stateViolation, "NEGOTIATE_ACK arrived before NEGOTIATE"⟩
    else if parser.negotiationAcknowledged then
      ⟨.stateViolation, "NEGOTIATE_ACK is repeated"⟩
    else {}
  | .transportFinished =>
    if parser.negotiationAcknowledged = false then
      ⟨.stateViolation, "TRANSPORT_FINISHED arrived before negotiation ACK"⟩
    else if parser.transportFinished.get direction then
      ⟨.stateViolation, "TRANSPORT_FINISHED is repeated"⟩
    else {}
  | .error =>
    if parser.bindingFramesComplete = false ∧ frame.header.streamId ≠ 0 then
      ⟨.stateViolation, "pre-binding ERROR is not connection scoped"⟩
    else {}
  | .ping | .pong | .goAway =>
    if parser.bindingFramesComplete = false then
      ⟨.stateViolation, "control message arrived before both binding frames"⟩
    else {}
  | _ =>
    if parser.bindingFramesComplete = false then
      ⟨.stateViolation, "transfer message arrived before both binding frames"⟩
    else {}

def processHello : Except Error TranscriptParser :=
  if (parser.hellos.get direction).isSome = true ∨ parser.negotiation.isSome = true ∨
      parser.negotiationAcknowledged = true ∨ parser.bindingFramesComplete = true then
    .error ⟨.stateViolation, "HELLO is repeated or late"⟩
  else
    match readHello direction frame with
    | .error error => .error error
    | .ok hello => .ok { parser with hellos := parser.hellos.set direction (some hello) }

def processNegotiate : Except Error TranscriptParser :=
  if direction ≠ .initiatorToResponder then
    .error ⟨.stateViolation, "responder cannot send NEGOTIATE"⟩
  else
    match parser.hellos.initiator, parser.hellos.responder with
    | some initiator, some responder =>
      if parser.negotiation.isSome then .error ⟨.stateViolation, "NEGOTIATE is repeated"⟩
      else
        let error := checkNegotiation initiator responder frame
        if error.ok = false then .error error
        else .ok { parser with negotiation := some (readNegotiation frame) }
    | _, _ => .error ⟨.stateViolation, "NEGOTIATE arrived before both HELLO messages"⟩

def processNegotiateAck : Except Error TranscriptParser :=
  if direction ≠ .responderToInitiator then
    .error ⟨.stateViolation, "initiator cannot send NEGOTIATE_ACK"⟩
  else
    match parser.negotiation with
    | none => .error ⟨.stateViolation, "NEGOTIATE_ACK arrived before NEGOTIATE"⟩
    | some negotiation =>
      if parser.negotiationAcknowledged then
        .error ⟨.stateViolation, "NEGOTIATE_ACK is repeated"⟩
      else if 255 < bodyUnsigned frame 1 ∨ 255 < bodyUnsigned frame 2 then
        .error ⟨.malformedMessage, "ACK version is outside the header range"⟩
      else if readNegotiation frame ≠ negotiation then
        .error ⟨.malformedMessage, "NEGOTIATE_ACK does not match NEGOTIATE"⟩
      else .ok { parser with negotiationAcknowledged := true }

def processTransportFinished : Except Error TranscriptParser :=
  if parser.negotiationAcknowledged = false then
    .error ⟨.stateViolation, "TRANSPORT_FINISHED arrived before negotiation ACK"⟩
  else if parser.transportFinished.get direction then
    .error ⟨.stateViolation, "TRANSPORT_FINISHED is repeated"⟩
  else if UInt8.ofNat (bodyUnsigned frame 1) ≠ UInt8.ofNat direction.expectedRole then
    .error ⟨.stateViolation, "TRANSPORT_FINISHED role conflicts with transport direction"⟩
  else
    let finished := parser.transportFinished.set direction true
    .ok { parser with
      transportFinished := finished
      bindingFramesComplete := finished.initiator && finished.responder }

def processPing : Except Error TranscriptParser :=
  if parser.bindingFramesComplete = false then
    .error ⟨.stateViolation, "PING arrived before both binding frames"⟩
  else if parser.pongExpected.get direction.reverse then
    .error ⟨.stateViolation, "a PING is already outstanding"⟩
  else
    .ok { parser with
      pongExpected := parser.pongExpected.set direction.reverse true
      expectedPongToken :=
        parser.expectedPongToken.set direction.reverse (bodyUnsigned frame 1) }

def processPong : Except Error TranscriptParser :=
  if parser.bindingFramesComplete = false then
    .error ⟨.stateViolation, "PONG arrived before both binding frames"⟩
  else if parser.pongExpected.get direction = false ∨
      parser.expectedPongToken.get direction ≠ bodyUnsigned frame 1 then
    .error ⟨.stateViolation, "PONG does not match an outstanding PING"⟩
  else .ok { parser with pongExpected := parser.pongExpected.set direction false }

/-- The `switch` of `Process`. -/
def processMessage : Except Error TranscriptParser :=
  match frame.header.messageType with
  | .hello => parser.processHello direction frame
  | .negotiate => parser.processNegotiate direction frame
  | .negotiateAck => parser.processNegotiateAck direction frame
  | .transportFinished => parser.processTransportFinished direction frame
  | .error =>
    if parser.bindingFramesComplete = false ∧ frame.header.streamId ≠ 0 then
      .error ⟨.stateViolation, "pre-establishment ERROR is not connection scoped"⟩
    else .ok parser
  | .ping => parser.processPing direction frame
  | .pong => parser.processPong direction frame
  | _ =>
    if parser.bindingFramesComplete = false then
      .error ⟨.stateViolation, "message is not allowed before transport binding completes"⟩
    else .ok parser

def expectedVersion : Version :=
  if parser.negotiationAcknowledged then
    (parser.negotiation.map NegotiationData.selectedVersion).getD {}
  else {}

/-- The counter after a frame with the expected number. -/
def countMessage : TranscriptParser :=
  if parser.nextMessageId.get direction = 2 ^ 64 - 1 then
    { parser with messageIdExhausted := parser.messageIdExhausted.set direction true }
  else
    { parser with
      nextMessageId :=
        parser.nextMessageId.set direction (parser.nextMessageId.get direction + 1) }

def process (encoded : Bytes) : Error × TranscriptParser :=
  if parser.terminal then
    (⟨.stateViolation, "transcript is terminal after a fatal error"⟩, parser)
  else
    let parsed := parseFrameEnvelope encoded parser.expectedVersion
    let streamId := parsed.frame.header.streamId
    if parsed.ok = false then parser.complete parsed.error 0
    else if parser.messageIdExhausted.get direction = true ∨
        parsed.frame.header.messageId ≠ parser.nextMessageId.get direction then
      parser.complete ⟨.messageIdViolation, "message ID is not the next directional value"⟩ streamId
    else
      let counted := parser.countMessage direction
      let stateError := counted.validateEnvelopeState direction parsed.frame
      if counted.negotiationAcknowledged = true ∧
          ((counted.negotiation.map NegotiationData.effectiveMaxBody).getD 0).toNat <
            parsed.frame.header.bodyLength then
        counted.complete ⟨.limitExceeded, "body length exceeds the negotiated limit"⟩ streamId
      else if stateError.ok = false then counted.complete stateError streamId
      else
        match parseFrameBody parsed.frame with
        | .error error => counted.complete error streamId
        | .ok frame =>
          match counted.processMessage direction frame with
          | .error error => counted.complete error streamId
          | .ok next => ({}, next)

end TranscriptParser

end XnnTransfer.Protocol
