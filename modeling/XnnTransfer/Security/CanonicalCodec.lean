import XnnTransfer.Library.SortedRanges
import XnnTransfer.Security.Types

/-!
# Canonical objects

`ParseObject`, `EncodeObject` and the validators of the seven object kinds, from
`native/src/security/tls/canonical_codec.cpp`, `contexts.cpp`, `confirmation.cpp`,
`rotation.cpp` and `identity.cpp`.

## Implementation notes

`ParseObject` validates an object by its kind, and the validators of the two
context kinds parse the negotiation object nested in them. The part of
`ParseObject` before the validation is `parseStructure`, which takes the
validator as an argument, so that the nesting is an ordinary call. A field
identifier, a length and a count are natural numbers; the encoder writes the low
bytes of each, as the casts of the source do.
-/

namespace XnnTransfer.Security

open Protocol SortedRanges

inductive CanonicalObjectKind
  | normalizedNegotiation
  | pairingContext
  | sasInformation
  | transportContext
  | rotationContext
  | rotationProof
  | deviceIdentifier
  deriving DecidableEq, Repr

def CanonicalObjectKind.code : CanonicalObjectKind → UInt8
  | .normalizedNegotiation => 1
  | .pairingContext => 2
  | .sasInformation => 3
  | .transportContext => 4
  | .rotationContext => 5
  | .rotationProof => 6
  | .deviceIdentifier => 7

/-- The range check on the raw kind together with the cast that follows it. -/
def CanonicalObjectKind.ofCode? : UInt8 → Option CanonicalObjectKind
  | 1 => some .normalizedNegotiation
  | 2 => some .pairingContext
  | 3 => some .sasInformation
  | 4 => some .transportContext
  | 5 => some .rotationContext
  | 6 => some .rotationProof
  | 7 => some .deviceIdentifier
  | _ => none

variable (kind : CanonicalObjectKind)

@[simp] theorem CanonicalObjectKind.ofCode?_code :
    CanonicalObjectKind.ofCode? kind.code = some kind := by
  cases kind <;> rfl

/-! ### Labels and schemas -/

/-- `AsBytes` of an ASCII label. -/
def asBytes (label : String) : Bytes := label.toList.map fun c => UInt8.ofNat c.toNat

def pairContextLabel : Bytes := asBytes "XnnTransfer pairing v1"
def sasInformationLabel : Bytes := asBytes "XnnTransfer SAS words v1"
def transportContextLabel : Bytes := asBytes "XnnTransfer transport v1"
def rotationContextLabel : Bytes := asBytes "XnnTransfer rotation v1"
def rotationProofLabel : Bytes := asBytes "XnnTransfer rotation proof v1"
def deviceIdentifierLabel : Bytes := asBytes "XnnTransfer device identifier v1"

/-- A field of a kind; `fixedSize` is `none` where `has_fixed_size` is false. -/
structure FieldSchema where
  id : Nat
  fixedSize : Option Nat
  deriving DecidableEq, Repr

/-- `SchemaForKind`. -/
def schemaForKind : CanonicalObjectKind → List FieldSchema
  | .normalizedNegotiation =>
    [⟨1, some 1⟩, ⟨2, some 4⟩, ⟨3, none⟩, ⟨4, none⟩, ⟨5, some 10⟩, ⟨6, some 1⟩, ⟨7, some 4⟩,
      ⟨8, none⟩, ⟨9, none⟩, ⟨10, some 10⟩, ⟨11, some 2⟩, ⟨12, none⟩, ⟨13, some 10⟩]
  | .pairingContext =>
    [⟨1, some pairContextLabel.length⟩, ⟨2, some 1⟩, ⟨3, some 1⟩, ⟨4, some 32⟩, ⟨5, some 32⟩,
      ⟨6, some 32⟩, ⟨7, some 32⟩, ⟨8, some 2⟩, ⟨9, none⟩]
  | .sasInformation => [⟨1, some sasInformationLabel.length⟩, ⟨2, some 32⟩]
  | .transportContext =>
    [⟨1, some transportContextLabel.length⟩, ⟨2, some 1⟩, ⟨3, some 1⟩, ⟨4, some 32⟩,
      ⟨5, some 32⟩, ⟨6, some 32⟩, ⟨7, some 32⟩, ⟨8, some 2⟩, ⟨9, none⟩, ⟨10, none⟩,
      ⟨11, some 16⟩]
  | .rotationContext =>
    [⟨1, some rotationContextLabel.length⟩, ⟨2, some 32⟩, ⟨3, some 32⟩, ⟨4, some 8⟩,
      ⟨5, some 32⟩, ⟨6, some 32⟩]
  | .rotationProof => [⟨1, some rotationProofLabel.length⟩, ⟨2, some 32⟩, ⟨3, some 1⟩]
  | .deviceIdentifier => [⟨1, some deviceIdentifierLabel.length⟩, ⟨2, some 32⟩]

/-! ### Objects and their structure -/

/-- `FieldInput`, `ParsedField` and the pairing codec's `CanonicalField`. -/
structure CanonicalField where
  id : Nat
  value : Bytes
  deriving DecidableEq, Repr

structure ParsedObject where
  kind : CanonicalObjectKind
  encoded : Bytes
  fields : List CanonicalField
  deriving DecidableEq, Repr

variable (object : ParsedObject) (id : Nat) (encoded : Bytes) (offset : Nat) (prims : Primitives)
  (fields : List CanonicalField)

/-- `FindField`: the first field that is not below the identifier, when it has it. -/
def findField : Option CanonicalField :=
  (object.fields.find? fun field => ¬ field.id < id).filter fun field => field.id = id

/-- The value of a field that is known to be there. -/
def ParsedObject.field : Bytes :=
  ((findField object id).map CanonicalField.value).getD []

def readU16 : Nat := BigEndian.toNat (subspan encoded offset 2)

def readU32 : Nat := BigEndian.toNat (subspan encoded offset 4)

def canonicalMagic : Bytes := asBytes "XNNS"

def canonicalVersion : UInt8 := 1

/-- The field loop of `ParseObject`: the fields read and the data left over. -/
def parseFields (schema : List FieldSchema) :
    Nat → Bytes → Nat → List CanonicalField → Except SecurityError (List CanonicalField × Bytes)
  | 0, data, _, fields => .ok (fields, data)
  | count + 1, data, previousId, fields =>
    if data.length < 6 then .error .malformedEncoding
    else
      let id := readU16 data 0
      let valueLength := readU32 data 2
      let rest := data.drop 6
      if id = previousId then .error .duplicateField
      else if id < previousId then .error .nonCanonicalEncoding
      else
        match schema.find? fun entry => entry.id = id with
        | none => .error .unknownField
        | some entry =>
          if rest.length < valueLength then .error .malformedEncoding
          else if entry.fixedSize.any (· ≠ valueLength) then .error .invalidLength
          else
            parseFields schema count (rest.drop valueLength) id
              (fields ++ [⟨id, rest.take valueLength⟩])

/-- `ParseObject` with the validation that `ValidateSemanticObject` stands for. -/
def parseStructure (validate : ParsedObject → SecurityError) (encoded : Bytes)
    (expectedKind : Option CanonicalObjectKind) : Except SecurityError ParsedObject :=
  if encoded.length < 12 then .error .malformedEncoding
  else if encoded.take 4 ≠ canonicalMagic then .error .malformedEncoding
  else if (encoded.drop 4).headD 0 ≠ canonicalVersion then .error .unsupportedVersion
  else
    match CanonicalObjectKind.ofCode? ((encoded.drop 5).headD 0) with
    | none => .error .unknownKind
    | some kind =>
      if expectedKind.any (kind ≠ ·) then .error .domainMismatch
      else
        let fieldCount := readU16 encoded 6
        let bodyLength := readU32 encoded 8
        if maximumCanonicalFields < fieldCount ∨ maximumCanonicalBodySize < bodyLength then
          .error .limitExceeded
        else if encoded.length ≠ 12 + bodyLength then .error .malformedEncoding
        else
          match parseFields (schemaForKind kind) fieldCount (encoded.drop 12) 0 [] with
          | .error error => .error error
          | .ok (fields, rest) =>
            let object : ParsedObject := ⟨kind, encoded, fields⟩
            if rest ≠ [] then .error .trailingData
            else if (schemaForKind kind).any fun required =>
                (findField object required.id).isNone then
              .error .missingField
            else (validate object).result object

/-! ### Validators -/

/-- `DecodeCapabilities` of the canonical codec, which bounds the count by its
encoding only. -/
def decodeCapabilities : Except SecurityError (List UInt32) :=
  if encoded.length < 2 then .error .invalidLength
  else
    let count := readU16 encoded 0
    if encoded.length ≠ 2 + count * 4 then .error .invalidLength
    else
      let output := MachineWords.getAll32 count (encoded.drop 2)
      if isSorted output = false ∨ noneAdjacent output = false then .error .nonCanonicalEncoding
      else if ¬ DistinctFeatures output then .error .nonCanonicalEncoding
      else .ok output

/-- The version that two bytes at an offset stand for. -/
def versionAt : Version :=
  ⟨(encoded.drop offset).headD 0, (encoded.drop (offset + 1)).headD 0⟩

/-- `DecodeVersionRange`: the minimum and the maximum. -/
def decodeVersionRange : Except SecurityError (Version × Version) :=
  let minimum := versionAt encoded 0
  let maximum := versionAt encoded 2
  if minimum.major = 0 ∨ maximum.major = 0 ∨ versionLess maximum minimum = true then
    .error .invalidNegotiation
  else .ok (minimum, maximum)

/-- `DecodeLimits`. -/
def decodeLimits : List Nat :=
  [readU32 encoded 0, readU32 encoded 4, readU16 encoded 8]

/-- The five capability lists of a negotiation object, in the order they are decoded. -/
structure CapabilityLists where
  initiator : List UInt32
  initiatorRequired : List UInt32
  responder : List UInt32
  responderRequired : List UInt32
  selected : List UInt32

def decodeCapabilityLists : Except SecurityError CapabilityLists := do
  let initiator ← decodeCapabilities (object.field 3)
  let initiatorRequired ← decodeCapabilities (object.field 4)
  let responder ← decodeCapabilities (object.field 8)
  let responderRequired ← decodeCapabilities (object.field 9)
  let selected ← decodeCapabilities (object.field 12)
  return { initiator, initiatorRequired, responder, responderRequired, selected }

/-- The part of `ValidateNegotiationObject` that compares the capability lists. -/
def checkCapabilityLists (lists : CapabilityLists) : SecurityError :=
  let expected := setIntersection lists.initiator lists.responder
  let baseIsSupported := binarySearch lists.initiator baseTransferV1 &&
    binarySearch lists.responder baseTransferV1
  let baseIsRequired := binarySearch lists.initiatorRequired baseTransferV1 ||
    binarySearch lists.responderRequired baseTransferV1
  if baseIsSupported = false ∨ baseIsRequired = false then .unsupportedCapability
  else if lists.initiatorRequired.any fun required => !binarySearch expected required then
    .unsupportedCapability
  else if lists.responderRequired.any fun required => !binarySearch expected required then
    .unsupportedCapability
  else if lists.selected ≠ expected then .downgradeDetected
  else .none

def validateNegotiationObject : SecurityError :=
  if (object.field 1).headD 0 ≠ Role.initiator.code ∨
      (object.field 6).headD 0 ≠ Role.responder.code then .roleMismatch
  else
    match decodeVersionRange (object.field 2), decodeVersionRange (object.field 7) with
    | .error error, _ => error
    | .ok _, .error error => error
    | .ok initiator, .ok responder =>
      let minimum := commonMinimum initiator.1 responder.1
      let maximum := commonMaximum initiator.2 responder.2
      if versionLess maximum minimum then .unsupportedVersion
      else if versionAt (object.field 11) 0 ≠ maximum then .downgradeDetected
      else
        match decodeCapabilityLists object with
        | .error error => error
        | .ok lists =>
          let expected := List.zipWith min (decodeLimits (object.field 5))
            (decodeLimits (object.field 10))
          (checkCapabilityLists lists).andThen
            (if decodeLimits (object.field 13) ≠ expected then .downgradeDetected else .none)

/-- `ParseObject` of a nested negotiation object. -/
def parseNegotiation : Except SecurityError ParsedObject :=
  parseStructure validateNegotiationObject encoded (some .normalizedNegotiation)

/-- `ValidateKeyField`. -/
def validateKeyField (object : ParsedObject) (id : Nat) : SecurityError :=
  .of (validateEd25519PublicKey prims (object.field id))

/-- The tests that the pairing and the transport context share: the label, the
two roles, the profile and the nested negotiation. -/
def validateContextFrame (label : Bytes) (object : ParsedObject) : SecurityError :=
  if object.field 1 ≠ label then .domainMismatch
  else if (object.field 2).headD 0 ≠ Role.initiator.code ∨
      (object.field 3).headD 0 ≠ Role.responder.code then .roleMismatch
  else if readU16 (object.field 8) 0 ≠ securityProfileV1 then .unsupportedProfile
  else .of (parseNegotiation (object.field 9))

/-- The keys in two fields, the first one first. -/
def validateKeyFields (object : ParsedObject) (first second : Nat) : SecurityError :=
  (validateKeyField prims object first).andThen (validateKeyField prims object second)

def validatePairingObject (object : ParsedObject) : SecurityError :=
  (validateContextFrame pairContextLabel object).andThen (validateKeyFields prims object 6 7)

/-- The loop of `ValidateRawTranscript`: one tagged frame for each expected tag. -/
def validateRawTranscript : List UInt8 → Bytes → SecurityError
  | tags, [] => if tags = [] then .none else .malformedTranscript
  | [], _ :: _ => .malformedTranscript
  | tag :: tags, data =>
    if data.length < 5 ∨ data.headD 0 ≠ tag then .malformedTranscript
    else
      let frameLength := readU32 data 1
      let rest := data.drop 5
      if frameLength = 0 ∨ rest.length < frameLength then .malformedTranscript
      else validateRawTranscript tags (rest.drop frameLength)

def validateTransportObject (object : ParsedObject) : SecurityError :=
  (validateContextFrame transportContextLabel object).andThen
    ((validateRawTranscript [1, 2, 3, 4] (object.field 10)).andThen
      (validateKeyFields prims object 4 5))

def validateSasInformationObject : SecurityError :=
  if object.field 1 = sasInformationLabel then .none else .domainMismatch

def validateRotationContextObject (object : ParsedObject) : SecurityError :=
  if object.field 1 ≠ rotationContextLabel then .domainMismatch
  else if object.field 2 = object.field 3 ∨ BigEndian.toNat (object.field 4) = 0 then
    .invalidRotation
  else validateKeyFields prims object 2 3

def validateRotationProofObject : SecurityError :=
  if object.field 1 ≠ rotationProofLabel then .domainMismatch
  else if (object.field 3).headD 0 = 1 ∨ (object.field 3).headD 0 = 2 then .none
  else .roleMismatch

def validateDeviceIdentifierObject (object : ParsedObject) : SecurityError :=
  if object.field 1 ≠ deviceIdentifierLabel then .domainMismatch
  else validateKeyField prims object 2

def validateSemanticObject (object : ParsedObject) : SecurityError :=
  match object.kind with
  | .normalizedNegotiation => validateNegotiationObject object
  | .pairingContext => validatePairingObject prims object
  | .sasInformation => validateSasInformationObject object
  | .transportContext => validateTransportObject prims object
  | .rotationContext => validateRotationContextObject prims object
  | .rotationProof => validateRotationProofObject object
  | .deviceIdentifier => validateDeviceIdentifierObject prims object

def parseObject (encoded : Bytes) (expectedKind : Option CanonicalObjectKind) :
    Except SecurityError ParsedObject :=
  parseStructure (validateSemanticObject prims) encoded expectedKind

/-! ### Encoding -/

def encodeField (field : CanonicalField) : Bytes :=
  BigEndian.ofNat 2 field.id ++ (BigEndian.ofNat 4 field.value.length ++ field.value)

def encodeFields : Bytes := fields.flatMap encodeField

/-- The header and the fields, as `EncodeObject` and `EncodeNormalizedObject` lay
them out. -/
def encodeLayout : Bytes :=
  canonicalMagic ++ (canonicalVersion :: kind.code :: (BigEndian.ofNat 2 fields.length ++
    (BigEndian.ofNat 4 (encodeFields fields).length ++ encodeFields fields)))

/-- The checks of `EncodeObject` on its fields, with the body length so far. -/
def checkFields : List CanonicalField → Nat → Nat → SecurityError
  | [], _, _ => .none
  | field :: rest, bodyLength, previousId =>
    if field.id ≤ previousId then .nonCanonicalEncoding
    else if maxU32 < field.value.length ∨ maximumCanonicalBodySize - 6 < bodyLength ∨
        maximumCanonicalBodySize - bodyLength - 6 < field.value.length then .limitExceeded
    else checkFields rest (bodyLength + (6 + field.value.length)) field.id

def encodeObject (kind : CanonicalObjectKind) (fields : List CanonicalField) :
    Except SecurityError Bytes :=
  if maximumCanonicalFields < fields.length then .error .limitExceeded
  else if checkFields fields 0 0 ≠ .none then .error (checkFields fields 0 0)
  else
    match parseObject prims (encodeLayout kind fields) (some kind) with
    | .error error => .error error
    | .ok _ => .ok (encodeLayout kind fields)

/-! ### Contexts -/

/-- An encoded negotiation that was accepted by `DecodeNormalizedNegotiation`. -/
structure NormalizedNegotiation where
  encoded : Bytes
  deriving DecidableEq, Repr

def decodeNormalizedNegotiation (encoded : Bytes) : Except SecurityError NormalizedNegotiation :=
  match parseObject prims encoded (some .normalizedNegotiation) with
  | .error error => .error error
  | .ok object => .ok ⟨object.encoded⟩

structure PairingContext where
  encoded : Bytes
  digest : Digest256
  deriving DecidableEq, Repr

structure PairingContextInput where
  initiatorNonce : Nonce256
  responderNonce : Nonce256
  initiatorKey : PublicKey
  responderKey : PublicKey
  negotiation : NormalizedNegotiation
  deriving DecidableEq, Repr

def pairingContextFields (input : PairingContextInput) : List CanonicalField :=
  [⟨1, pairContextLabel⟩, ⟨2, [Role.initiator.code]⟩, ⟨3, [Role.responder.code]⟩,
    ⟨4, input.initiatorNonce.val⟩, ⟨5, input.responderNonce.val⟩, ⟨6, input.initiatorKey.val⟩,
    ⟨7, input.responderKey.val⟩, ⟨8, [0, 1]⟩, ⟨9, input.negotiation.encoded⟩]

def buildPairingContext (input : PairingContextInput) : Except SecurityError PairingContext :=
  match encodeObject prims .pairingContext (pairingContextFields input) with
  | .error error => .error error
  | .ok encoded =>
    match sha256 prims encoded with
    | .error error => .error error
    | .ok digest => .ok ⟨encoded, digest⟩

end XnnTransfer.Security
