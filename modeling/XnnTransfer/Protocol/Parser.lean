import XnnTransfer.Protocol.Utf8

/-!
# The v1 frame parser

`ParseTlvs`, `ParseFrameHeader`, `ParseFrameEnvelope`, `ParseFrameBody` and
`ParseFrame` of `native/src/protocol/v1_parser.cpp`.

## Implementation notes

The field loop of `ParseTlvs` stops with `LIMIT_EXCEEDED` before its 257th
field, so the number of fields still allowed is what the recursion of
`parseTlvLoop` counts down. A failed parse keeps the part of the frame that was
read before the failure, because callers look at the stream identifier of a
refused frame.
-/

namespace XnnTransfer.Protocol

structure Version where
  major : UInt8 := 1
  minor : UInt8 := 0
  deriving DecidableEq, Repr

structure FrameHeader where
  headerLength : Nat := 0
  version : Version := {}
  messageType : MessageType := .hello
  flags : Nat := 0
  streamId : Nat := 0
  messageId : Nat := 0
  bodyLength : Nat := 0
  deriving DecidableEq, Repr

structure FieldView where
  id : Nat
  wireType : WireType
  flags : UInt8
  value : Bytes
  deriving DecidableEq, Repr

variable (field : FieldView) (fields : List FieldView) (data : Bytes) (schema : List FieldRule)
  (encoded : Bytes) (expectedVersion : Version)

def FieldView.critical : Bool := field.flags &&& 1 ≠ 0

/-- The fields of a collection that carry the given identifier. -/
def findFirst (id : Nat) : Option FieldView :=
  fields.find? fun field => field.id = id

def countFields (id : Nat) : Nat :=
  fields.countP fun field => field.id = id

structure ParsedFrame where
  header : FrameHeader := {}
  headerFields : List FieldView := []
  bodyFields : List FieldView := []
  declaredTotalLength : Nat := 0
  raw : Bytes := []
  headerExtensions : Bytes := []
  body : Bytes := []
  deriving DecidableEq, Repr

structure ParseResult where
  frame : ParsedFrame := {}
  error : Error := {}
  deriving DecidableEq, Repr

def ParseResult.ok (result : ParseResult) : Bool := result.error.ok

/-- `subspan(offset, length)`. -/
def subspan (offset length : Nat) : Bytes := (data.drop offset).take length

def fixedWireLength : WireType → Nat
  | .u8 | .bool => 1
  | .u16 => 2
  | .u32 => 4
  | .u64 => 8
  | .bytes | .utf8 => 0

def validateWireValue (wireType : WireType) (value : Bytes) : Error :=
  if fixedWireLength wireType ≠ 0 ∧ value.length ≠ fixedWireLength wireType then
    ⟨.malformedMessage, "integer or Boolean TLV has the wrong length"⟩
  else if wireType = .bool ∧ value ≠ [0] ∧ value ≠ [1] then
    ⟨.malformedMessage, "Boolean TLV is not canonical"⟩
  else if wireType = .utf8 ∧ isValidUtf8 value = false then
    ⟨.malformedMessage, "UTF-8 TLV is not well formed"⟩
  else {}

/-- The checks a field with a rule must pass before its value is validated. -/
def checkKnownField (rule : FieldRule) (field : FieldView) (output : List FieldView) : Error :=
  if rule.presence = .optional ∧ field.critical = true then
    ⟨.malformedMessage, "optional TLV is marked critical"⟩
  else if rule.presence ≠ .optional ∧ field.critical = false then
    ⟨.malformedMessage, "required TLV is not marked critical"⟩
  else if field.wireType ≠ rule.wireType then
    ⟨.malformedMessage, "TLV has the wrong wire type"⟩
  else if field.value.length < rule.minimumLength ∨ rule.maximumLength < field.value.length then
    ⟨.malformedMessage, "TLV length violates its schema"⟩
  else if rule.repeated = false ∧ countFields output field.id ≠ 0 then
    ⟨.malformedMessage, "scalar TLV is duplicated"⟩
  else {}

/-- What the loop body does with a field once its bytes are split off: the
fields collected so far, extended by the field when the schema knows it. -/
def acceptField (field : FieldView) (output : List FieldView) : Except Error (List FieldView) :=
  match findRule schema field.id with
  | none =>
    if field.critical = true then
      .error ⟨.unknownCriticalField, "unknown critical TLV"⟩
    else
      let valueError := validateWireValue field.wireType field.value
      if valueError.ok then .ok output else .error valueError
  | some rule =>
    let ruleError := checkKnownField rule field output
    if ruleError.ok then
      let valueError := validateWireValue field.wireType field.value
      if valueError.ok then .ok (output ++ [field]) else .error valueError
    else .error ruleError

/-- Split one field off the data. The result is the field and what follows it. -/
def readTlv (previousId : Option Nat) : Except Error (FieldView × Bytes) :=
  if data.length < 8 then
    .error ⟨.malformedMessage, "trailing partial TLV header"⟩
  else
    let id := BigEndian.toNat (subspan data 0 2)
    let wireValue := BigEndian.toNat (subspan data 2 1)
    let flags := (data.drop 3).headD 0
    let declaredLength := BigEndian.toNat (subspan data 4 4)
    let rest := data.drop 8
    if previousId.any (fun previous => id < previous) then
      .error ⟨.malformedMessage, "TLV fields are not in canonical order"⟩
    else
      match WireType.ofCode? wireValue with
      | none => .error ⟨.malformedMessage, "TLV uses a reserved wire type"⟩
      | some wireType =>
        if flags &&& 0xfe ≠ 0 then
          .error ⟨.malformedMessage, "TLV uses a reserved field flag"⟩
        else if rest.length < declaredLength then
          .error ⟨.malformedMessage, "TLV value is truncated"⟩
        else
          .ok (⟨id, wireType, flags, rest.take declaredLength⟩, rest.drop declaredLength)

def parseTlvLoop (schema : List FieldRule) :
    Nat → Bytes → Option Nat → List FieldView → Except Error (List FieldView)
  | 0, data, _, output =>
    if data.isEmpty then .ok output
    else .error ⟨.limitExceeded, "TLV field count exceeds the hard limit"⟩
  | allowed + 1, data, previousId, output =>
    if data.isEmpty then .ok output
    else
      match readTlv data previousId with
      | .error error => .error error
      | .ok (field, rest) =>
        match acceptField schema field output with
        | .error error => .error error
        | .ok output => parseTlvLoop schema allowed rest (some field.id) output

def hasRequiredFields (fields : List FieldView) : Bool :=
  schema.all fun rule => rule.presence ≠ .required || countFields fields rule.id ≠ 0

def parseTlvs : Except Error (List FieldView) :=
  match parseTlvLoop schema maxFields data none [] with
  | .error error => .error error
  | .ok fields =>
    if hasRequiredFields schema fields then .ok fields
    else .error ⟨.malformedMessage, "required TLV is absent"⟩

def magic : Bytes := [0x58, 0x4e, 0x4e, 0x54]

def parseFrameHeader : ParseResult :=
  if encoded.length < fixedHeaderLength then
    { error := ⟨.malformedFrame, "fixed header is truncated"⟩ }
  else if subspan encoded 0 4 ≠ magic then
    { error := ⟨.malformedFrame, "invalid frame magic"⟩ }
  else
    let headerLength := BigEndian.toNat (subspan encoded 4 2)
    let version : Version := ⟨(encoded.drop 6).headD 0, (encoded.drop 7).headD 0⟩
    let rawMessageType := BigEndian.toNat (subspan encoded 8 2)
    let flags := BigEndian.toNat (subspan encoded 10 2)
    let streamId := BigEndian.toNat (subspan encoded 12 4)
    let messageId := BigEndian.toNat (subspan encoded 16 8)
    let bodyLength := BigEndian.toNat (subspan encoded 24 4)
    if headerLength < fixedHeaderLength then
      { error := ⟨.malformedFrame, "header length is below the fixed header"⟩ }
    else if maxHeaderLength < headerLength then
      { error := ⟨.frameTooLarge, "header length exceeds the hard limit"⟩ }
    else if maxBodyLength < bodyLength then
      { error := ⟨.frameTooLarge, "body length exceeds the hard limit"⟩ }
    else if flags ≠ 0 then
      { error := ⟨.malformedFrame, "reserved frame flags are set"⟩ }
    else if messageId = 0 then
      { error := ⟨.messageIdViolation, "message ID zero is invalid"⟩ }
    else if version ≠ expectedVersion then
      { error := ⟨.unsupportedVersion, "frame uses an unexpected version"⟩ }
    else
      match MessageType.ofCode? rawMessageType with
      | none => { error := ⟨.unsupportedMessage, "frame uses an unknown message type"⟩ }
      | some messageType =>
        if encoded.length < headerLength then
          { error := ⟨.malformedFrame, "header extensions are truncated"⟩ }
        else
          let frame : ParsedFrame :=
            { header :=
                ⟨headerLength, version, messageType, flags, streamId, messageId, bodyLength⟩
              declaredTotalLength := headerLength + bodyLength
              raw := encoded.take headerLength
              headerExtensions :=
                subspan encoded fixedHeaderLength (headerLength - fixedHeaderLength) }
          match parseTlvs frame.headerExtensions [] with
          | .error error => { frame := frame, error := error }
          | .ok fields =>
            let frame := { frame with headerFields := fields }
            if isConnectionMessage messageType = true ∧ streamId ≠ 0 then
              { frame := frame
                error := ⟨.stateViolation, "connection message uses a transfer stream"⟩ }
            else if isTransferMessage messageType = true ∧ streamId = 0 then
              { frame := frame
                error := ⟨.stateViolation, "transfer message uses stream zero"⟩ }
            else { frame := frame }

def parseFrameEnvelope : ParseResult :=
  let result := parseFrameHeader encoded expectedVersion
  if result.ok = false then result
  else if encoded.length ≠ result.frame.declaredTotalLength then
    { result with
      error := ⟨.malformedFrame, "encoded length differs from declared length"⟩ }
  else
    { result with
      frame :=
        { result.frame with
          raw := encoded
          body :=
            subspan encoded result.frame.header.headerLength result.frame.header.bodyLength } }

def parseFrameBody (frame : ParsedFrame) : Except Error ParsedFrame :=
  if frame.body.length ≠ frame.header.bodyLength then
    .error ⟨.malformedFrame, "body view differs from the declared length"⟩
  else
    match parseTlvs frame.body (schemaFor frame.header.messageType) with
    | .error error => .error error
    | .ok fields => .ok { frame with bodyFields := fields }

def parseFrame : ParseResult :=
  let result := parseFrameEnvelope encoded expectedVersion
  if result.ok = false then result
  else
    match parseFrameBody result.frame with
    | .error error => { result with error := error }
    | .ok frame => { result with frame := frame }

/-- The fold over `uint64_t`, which keeps the low 64 bits of a longer value. -/
def decodeUnsigned : Nat := BigEndian.toNat field.value % 2 ^ 64

end XnnTransfer.Protocol
