import XnnTransfer.Pairing.Negotiation

/-!
# Pairing frames

The frame codec of `native/src/session/wire.cpp`: `ParseFrame`, the encoders and
decoders of the five message types, and `BuildNormalizedNegotiation`.

## Implementation notes

`ParseFrame` refuses a seventeenth field, so the number of fields still allowed
is what the recursion of `parseBody` counts down. The parser catches its own
allocation failures; `storable` is the number of fields for which there is
memory. A decoder first compares the shape of the frame with its list of types and then names the
values by position. `Hello::key` is set by everything that builds a `Hello`, so
it is not optional here.
-/

namespace XnnTransfer.Pairing

open Protocol Security SortedRanges

def pairingFrameHeaderSize : Nat := 20
def maxPairingBodySize : Nat := 4096
def maxPairingFields : Nat := 16

inductive PairingMessageType
  | hello
  | select
  | selectAck
  | decision
  | abort
  deriving DecidableEq, Repr

def PairingMessageType.code : PairingMessageType → Nat
  | .hello => 1
  | .select => 2
  | .selectAck => 3
  | .decision => 4
  | .abort => 5

/-- `IsKnownPairingType` together with the cast that follows it. -/
def PairingMessageType.ofCode? : Nat → Option PairingMessageType
  | 1 => some .hello
  | 2 => some .select
  | 3 => some .selectAck
  | 4 => some .decision
  | 5 => some .abort
  | _ => none

variable (type : PairingMessageType) (encoded : Bytes) (sequence : UInt32) (selection : Selection)

@[simp] theorem PairingMessageType.ofCode?_code :
    PairingMessageType.ofCode? type.code = some type := by
  cases type <;> rfl

inductive FieldType
  | u8
  | u16
  | u32
  | u64
  | bytes
  deriving DecidableEq, Repr

def FieldType.code : FieldType → UInt8
  | .u8 => 1
  | .u16 => 2
  | .u32 => 3
  | .u64 => 4
  | .bytes => 5

/-- `IsKnownWireType` together with the cast that follows it. -/
def FieldType.ofCode? : UInt8 → Option FieldType
  | 1 => some .u8
  | 2 => some .u16
  | 3 => some .u32
  | 4 => some .u64
  | 5 => some .bytes
  | _ => none

@[simp] theorem FieldType.ofCode?_code (type : FieldType) :
    FieldType.ofCode? type.code = some type := by
  cases type <;> rfl

/-- `FixedLength`, with zero for a type of variable length. -/
def fixedLength : FieldType → Nat
  | .u8 => 1
  | .u16 => 2
  | .u32 => 4
  | .u64 => 8
  | .bytes => 0

structure Field where
  id : Nat
  type : FieldType
  value : Bytes
  deriving DecidableEq, Repr

structure Frame where
  type : PairingMessageType
  sequence : UInt32
  fields : List Field
  deriving DecidableEq, Repr

variable (frame : Frame)

structure Hello where
  role : Role
  nonce : Nonce256
  key : PublicKey
  offer : NegotiationOffer
  deriving DecidableEq, Repr

structure Decision where
  message : Octets 34
  authenticator : Digest256
  deriving DecidableEq, Repr

/-! ### Parsing -/

def pairingMagic : Bytes := asBytes "XNNP"

def validateFrameHeader : PairingError :=
  if encoded.length < pairingFrameHeaderSize ∨ encoded.take 4 ≠ pairingMagic ∨
      readU16 encoded 4 ≠ pairingFrameHeaderSize then .malformed
  else if (encoded.drop 6).headD 0 ≠ 1 ∨ (encoded.drop 7).headD 0 ≠ 0 then .unsupportedVersion
  else if PairingMessageType.ofCode? (readU16 encoded 8) = none ∨ readU16 encoded 10 ≠ 0 then
    .malformed
  else if maxPairingBodySize < readU32 encoded 16 then .limitExceeded
  else .none

/-- The field loop of `ParseFrame`. -/
def parseBody (storable : Nat) :
    Nat → Bytes → Nat → List Field → Except PairingError (List Field)
  | 0, data, _, fields => if data.isEmpty then .ok fields else .error .malformed
  | allowed + 1, data, previousId, fields =>
    if data.isEmpty then .ok fields
    else if data.length < 8 then .error .malformed
    else
      let id := readU16 data 0
      let rawType := (data.drop 2).headD 0
      let flags := (data.drop 3).headD 0
      let valueLength := readU32 data 4
      let rest := data.drop 8
      match FieldType.ofCode? rawType with
      | none => .error .malformed
      | some type =>
        if id = 0 ∨ id ≤ previousId ∨ flags ≠ 1 ∨ rest.length < valueLength then
          .error .malformed
        else if fixedLength type ≠ 0 ∧ valueLength ≠ fixedLength type then .error .malformed
        else if storable ≤ fields.length then .error .limitExceeded
        else
          parseBody storable allowed (rest.drop valueLength) id
            (fields ++ [⟨id, type, rest.take valueLength⟩])

def parseFrame (storable : Nat) (encoded : Bytes) : Except PairingError Frame :=
  if validateFrameHeader encoded ≠ .none then .error (validateFrameHeader encoded)
  else if encoded.length ≠ pairingFrameHeaderSize + readU32 encoded 16 then .error .malformed
  else
    match PairingMessageType.ofCode? (readU16 encoded 8) with
    | none => .error .malformed
    | some type =>
      match parseBody storable maxPairingFields (encoded.drop pairingFrameHeaderSize) 0 [] with
      | .error error => .error error
      | .ok fields => .ok ⟨type, MachineWords.get32 (subspan encoded 12 4), fields⟩

/-- `HasFields`: the fields are numbered from one and have these types. -/
def hasFields (types : List FieldType) : Bool :=
  (frame.fields.map fun field => (field.id, field.type)) =
    types.zipIdx.map fun entry => (entry.2 + 1, entry.1)

/-- The values of a frame of known shape. -/
def Frame.values : List Bytes := frame.fields.map Field.value

/-- `DecodeCapabilities` of the pairing codec. -/
def decodeCapabilities : Except PairingError (List UInt32) :=
  if encoded.length < 2 then .error .malformed
  else
    let count := readU16 encoded 0
    if count = 0 ∨ maximumCapabilities < count ∨ encoded.length ≠ 2 + count * 4 then
      .error .malformed
    else
      let output := MachineWords.getAll32 count (encoded.drop 2)
      if hasCanonicalCapabilities output then .ok output else .error .malformed

def decodeReceiveLimits : ReceiveLimits where
  maxBody := MachineWords.get32 (subspan encoded 0 4)
  maxInFlight := MachineWords.get32 (subspan encoded 4 4)
  maxStreams := MachineWords.get16 (subspan encoded 8 2)

def helloTypes : List FieldType := [.u8, .bytes, .bytes, .u16, .bytes, .bytes, .bytes, .bytes]

/-- `DecodeHello` after the shape of the frame has been checked. -/
def decodeHelloOffer (versions offered required limits : Bytes) :
    Except PairingError NegotiationOffer :=
  match decodeCapabilities offered with
  | .error error => .error error
  | .ok offeredCapabilities =>
    match decodeCapabilities required with
    | .error error => .error error
    | .ok requiredCapabilities =>
      let offer : NegotiationOffer :=
        { versions := ⟨versionAt versions 0, versionAt versions 2⟩
          offeredCapabilities := offeredCapabilities
          requiredCapabilities := requiredCapabilities
          receiveLimits := decodeReceiveLimits limits }
      if validateOffer offer = .none then .ok offer else .error (validateOffer offer)

variable (prims : Primitives) (fields : List Field) (role : Role) (key : PublicKey)
  (nonce : Nonce256) (offer : NegotiationOffer) (decision : Decision) (publicCode : Nat)
  (initiator responder : NegotiationOffer)

def decodeHello (frame : Frame) (expectedRole : Role) (expectedKey : PublicKey) :
    Except PairingError Hello :=
  if frame.type ≠ .hello ∨ hasFields frame helloTypes = false then .error .malformed
  else
    match frame.values with
    | [role, nonce, key, profile, versions, offered, required, limits] =>
      if h : nonce.length = 32 ∧ key.length = 32 ∧ versions.length = 4 ∧ limits.length = 10 then
        if role.headD 0 ≠ expectedRole.code then .error .roleMismatch
        else if readU16 profile 0 ≠ securityProfileV1 then .error .unsupportedProfile
        else if validateEd25519PublicKey prims key ≠ .ok expectedKey then
          .error .certificateRejected
        else
          match decodeHelloOffer versions offered required limits with
          | .error error => .error error
          | .ok offer => .ok ⟨expectedRole, ⟨nonce, h.1⟩, ⟨key, h.2.1⟩, offer⟩
      else .error .malformed
    | _ => .error .malformed

def selectionTypes : List FieldType := [.bytes, .bytes, .bytes]

def decodeSelection : Except PairingError Selection :=
  if (frame.type ≠ .select ∧ frame.type ≠ .selectAck) ∨
      hasFields frame selectionTypes = false then .error .malformed
  else
    match frame.values with
    | [version, capabilities, limits] =>
      if version.length ≠ 2 ∨ limits.length ≠ 10 then .error .malformed
      else
        match decodeCapabilities capabilities with
        | .error error => .error error
        | .ok selected => .ok ⟨versionAt version 0, selected, decodeReceiveLimits limits⟩
    | _ => .error .malformed

def decisionTypes : List FieldType := [.bytes, .bytes]

def decodeDecision : Except PairingError Decision :=
  if frame.type ≠ .decision ∨ hasFields frame decisionTypes = false then .error .malformed
  else
    match frame.values with
    | [message, authenticator] =>
      if h : message.length = 34 ∧ authenticator.length = 32 then
        .ok ⟨⟨message, h.1⟩, ⟨authenticator, h.2⟩⟩
      else .error .malformed
    | _ => .error .malformed

def abortTypes : List FieldType := [.u16]

/-- `DecodeAbort` together with the code that its caller reads from the frame. -/
def decodeAbort : Except PairingError Nat :=
  if frame.type ≠ .abort ∨ hasFields frame abortTypes = false then .error .malformed
  else
    match frame.values with
    | [value] =>
      let code := readU16 value 0
      if 1 ≤ code ∧ code ≤ 4 then .ok code else .error .malformed
    | _ => .error .malformed

/-! ### Encoding -/

def encodeVersionRange (range : VersionRange) : Bytes :=
  [range.minimum.major, range.minimum.minor, range.maximum.major, range.maximum.minor]

def encodeVersion (version : Version) : Bytes := [version.major, version.minor]

def encodeCapabilities (capabilities : List UInt32) : Bytes :=
  BigEndian.ofNat 2 capabilities.length ++ MachineWords.putAll32 capabilities

def encodeLimits (limits : ReceiveLimits) : Bytes :=
  MachineWords.put32 limits.maxBody ++
    (MachineWords.put32 limits.maxInFlight ++ MachineWords.put16 limits.maxStreams)

def encodeFrameField (field : Field) : Bytes :=
  BigEndian.ofNat 2 field.id ++ (field.type.code :: 1 ::
    (BigEndian.ofNat 4 field.value.length ++ field.value))

def encodeBody : Bytes := fields.flatMap encodeFrameField

/-- The header and the body of a frame. -/
def frameLayout (body : Bytes) : Bytes :=
  pairingMagic ++ (BigEndian.ofNat 2 pairingFrameHeaderSize ++ (1 :: 0 ::
    (BigEndian.ofNat 2 type.code ++ (BigEndian.ofNat 2 0 ++ (MachineWords.put32 sequence ++
      (BigEndian.ofNat 4 body.length ++ body))))))

/-- `EncodeFrame`; the empty byte string stands for a body that is too large. -/
def encodeFrame : Bytes :=
  if maxPairingBodySize < (encodeBody fields).length then []
  else frameLayout type sequence (encodeBody fields)

def helloFields : List Field :=
  [⟨1, .u8, [role.code]⟩, ⟨2, .bytes, nonce.val⟩, ⟨3, .bytes, key.val⟩, ⟨4, .u16, [0, 1]⟩,
    ⟨5, .bytes, encodeVersionRange offer.versions⟩,
    ⟨6, .bytes, encodeCapabilities offer.offeredCapabilities⟩,
    ⟨7, .bytes, encodeCapabilities offer.requiredCapabilities⟩,
    ⟨8, .bytes, encodeLimits offer.receiveLimits⟩]

def encodeHello : Bytes :=
  encodeFrame .hello sequence (helloFields role key nonce offer)

def selectionFields : List Field :=
  [⟨1, .bytes, encodeVersion selection.selectedVersion⟩,
    ⟨2, .bytes, encodeCapabilities selection.selectedCapabilities⟩,
    ⟨3, .bytes, encodeLimits selection.effectiveLimits⟩]

def encodeSelection : Bytes :=
  encodeFrame type sequence (selectionFields selection)

def decisionFields : List Field :=
  [⟨1, .bytes, decision.message.val⟩, ⟨2, .bytes, decision.authenticator.val⟩]

def encodeDecision : Bytes :=
  encodeFrame .decision sequence (decisionFields decision)

def abortFields : List Field := [⟨1, .u16, BigEndian.ofNat 2 publicCode⟩]

def encodeAbort : Bytes :=
  encodeFrame .abort sequence (abortFields publicCode)

/-! ### The negotiation object -/

/-- The thirteen fields of `BuildNormalizedNegotiation`. -/
def negotiationFields (selection : Selection) : List CanonicalField :=
  [⟨1, [Role.initiator.code]⟩,
    ⟨2, encodeVersionRange initiator.versions⟩,
    ⟨3, encodeCapabilities initiator.offeredCapabilities⟩,
    ⟨4, encodeCapabilities initiator.requiredCapabilities⟩,
    ⟨5, encodeLimits initiator.receiveLimits⟩,
    ⟨6, [Role.responder.code]⟩,
    ⟨7, encodeVersionRange responder.versions⟩,
    ⟨8, encodeCapabilities responder.offeredCapabilities⟩,
    ⟨9, encodeCapabilities responder.requiredCapabilities⟩,
    ⟨10, encodeLimits responder.receiveLimits⟩,
    ⟨11, encodeVersion selection.selectedVersion⟩,
    ⟨12, encodeCapabilities selection.selectedCapabilities⟩,
    ⟨13, encodeLimits selection.effectiveLimits⟩]

/-- `BuildNormalizedNegotiation`, which reads the offers of the two hellos only. -/
def buildNormalizedNegotiation (selection : Selection) :
    Except SecurityError NormalizedNegotiation :=
  decodeNormalizedNegotiation prims
    (encodeLayout .normalizedNegotiation (negotiationFields initiator responder selection))

end XnnTransfer.Pairing
