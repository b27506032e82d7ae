import XnnTransfer.Library.BigEndian

/-!
# Message types and field schemas of the v1 wire protocol

The enumerations and the tables of `native/src/protocol/v1_parser.cpp`. A schema
lists the fields a message may carry; the parser reads nothing else about a
message type.
-/

namespace XnnTransfer

/-- A byte string, the model of `std::vector<std::uint8_t>` and of a span. -/
abbrev Bytes := List UInt8

namespace Protocol

def fixedHeaderLength : Nat := 28
def maxHeaderLength : Nat := 256
def maxBodyLength : Nat := 1048576
def maxFields : Nat := 256

inductive WireType
  | u8
  | u16
  | u32
  | u64
  | bytes
  | utf8
  | bool
  deriving DecidableEq, Repr

def WireType.code : WireType → Nat
  | .u8 => 1
  | .u16 => 2
  | .u32 => 3
  | .u64 => 4
  | .bytes => 5
  | .utf8 => 6
  | .bool => 7

/-- The cast from a raw wire type, defined on the known values only. -/
def WireType.ofCode? : Nat → Option WireType
  | 1 => some .u8
  | 2 => some .u16
  | 3 => some .u32
  | 4 => some .u64
  | 5 => some .bytes
  | 6 => some .utf8
  | 7 => some .bool
  | _ => none

@[simp] theorem WireType.ofCode?_code (t : WireType) : WireType.ofCode? t.code = some t := by
  cases t <;> rfl

theorem WireType.code_of_ofCode? {code : Nat} {t : WireType} (h : ofCode? code = some t) :
    t.code = code := by
  unfold ofCode? at h
  split at h <;> cases h <;> rfl

theorem WireType.code_lt (t : WireType) : t.code < 256 := by
  cases t <;> decide

inductive MessageType
  | hello
  | negotiate
  | negotiateAck
  | error
  | ping
  | pong
  | goAway
  | transportFinished
  | transferOffer
  | manifestEntry
  | manifestEnd
  | transferAccept
  | transferReject
  | fileBegin
  | fileChunk
  | chunkAck
  | fileEnd
  | fileCommit
  | transferComplete
  | transferCompleteAck
  | cancel
  | cancelAck
  | resumeRequest
  | resumeState
  | resumeEnd
  deriving DecidableEq, Repr

def MessageType.code : MessageType → Nat
  | .hello => 0x0001
  | .negotiate => 0x0002
  | .negotiateAck => 0x0003
  | .error => 0x0004
  | .ping => 0x0005
  | .pong => 0x0006
  | .goAway => 0x0007
  | .transportFinished => 0x0008
  | .transferOffer => 0x0100
  | .manifestEntry => 0x0101
  | .manifestEnd => 0x0102
  | .transferAccept => 0x0103
  | .transferReject => 0x0104
  | .fileBegin => 0x0110
  | .fileChunk => 0x0111
  | .chunkAck => 0x0112
  | .fileEnd => 0x0113
  | .fileCommit => 0x0114
  | .transferComplete => 0x0120
  | .transferCompleteAck => 0x0121
  | .cancel => 0x0130
  | .cancelAck => 0x0131
  | .resumeRequest => 0x0140
  | .resumeState => 0x0141
  | .resumeEnd => 0x0142

/-- `IsKnownMessageType` together with the cast that follows it. -/
def MessageType.ofCode? : Nat → Option MessageType
  | 0x0001 => some .hello
  | 0x0002 => some .negotiate
  | 0x0003 => some .negotiateAck
  | 0x0004 => some .error
  | 0x0005 => some .ping
  | 0x0006 => some .pong
  | 0x0007 => some .goAway
  | 0x0008 => some .transportFinished
  | 0x0100 => some .transferOffer
  | 0x0101 => some .manifestEntry
  | 0x0102 => some .manifestEnd
  | 0x0103 => some .transferAccept
  | 0x0104 => some .transferReject
  | 0x0110 => some .fileBegin
  | 0x0111 => some .fileChunk
  | 0x0112 => some .chunkAck
  | 0x0113 => some .fileEnd
  | 0x0114 => some .fileCommit
  | 0x0120 => some .transferComplete
  | 0x0121 => some .transferCompleteAck
  | 0x0130 => some .cancel
  | 0x0131 => some .cancelAck
  | 0x0140 => some .resumeRequest
  | 0x0141 => some .resumeState
  | 0x0142 => some .resumeEnd
  | _ => none

@[simp] theorem MessageType.ofCode?_code (t : MessageType) :
    MessageType.ofCode? t.code = some t := by
  cases t <;> rfl

theorem MessageType.code_of_ofCode? {code : Nat} {t : MessageType} (h : ofCode? code = some t) :
    t.code = code := by
  unfold ofCode? at h
  split at h <;> cases h <;> rfl

theorem MessageType.code_lt (t : MessageType) : t.code < 65536 := by
  cases t <;> decide

def isConnectionMessage : MessageType → Bool
  | .hello | .negotiate | .negotiateAck | .ping | .pong | .goAway | .transportFinished => true
  | _ => false

def isTransferMessage (type : MessageType) : Bool :=
  MessageType.transferOffer.code ≤ type.code

inductive ErrorCode
  | none
  | malformedFrame
  | frameTooLarge
  | malformedMessage
  | unsupportedVersion
  | downgradeDetected
  | unsupportedCapability
  | unsupportedMessage
  | unknownCriticalField
  | stateViolation
  | messageIdViolation
  | limitExceeded
  deriving DecidableEq, Repr

structure Error where
  code : ErrorCode := .none
  detail : String := ""
  deriving DecidableEq, Repr

def Error.ok (error : Error) : Bool := error.code = .none

inductive Presence
  | required
  | optional
  | conditional
  deriving DecidableEq, Repr

structure FieldRule where
  id : Nat
  wireType : WireType
  presence : Presence
  repeated : Bool
  minimumLength : Nat
  maximumLength : Nat
  deriving DecidableEq, Repr

def maxU32 : Nat := 4294967295

def required (id : Nat) (wireType : WireType) (repeated : Bool := false)
    (minimumLength : Nat := 0) (maximumLength : Nat := maxU32) : FieldRule :=
  ⟨id, wireType, .required, repeated, minimumLength, maximumLength⟩

def optional (id : Nat) (wireType : WireType) (minimumLength : Nat := 0)
    (maximumLength : Nat := maxU32) : FieldRule :=
  ⟨id, wireType, .optional, false, minimumLength, maximumLength⟩

def conditional (id : Nat) (wireType : WireType) (minimumLength : Nat := 0)
    (maximumLength : Nat := maxU32) : FieldRule :=
  ⟨id, wireType, .conditional, false, minimumLength, maximumLength⟩

def maxChunkData : Nat := 1048000

/-- `SchemaFor`, with the schema arrays of the source written in place. -/
def schemaFor : MessageType → List FieldRule
  | .hello =>
    [required 1 .u16, required 2 .u16, required 3 .u16, required 4 .u16, required 5 .u8,
      required 6 .u32 true, required 7 .u32 true, required 8 .u32, required 9 .u32,
      required 10 .u16]
  | .negotiate | .negotiateAck =>
    [required 1 .u16, required 2 .u16, required 3 .u32 true, required 4 .u32,
      required 5 .u32, required 6 .u16]
  | .error =>
    [required 1 .u16, required 2 .bool, optional 3 .bool, optional 4 .u64, optional 5 .u32,
      optional 6 .utf8 0 256]
  | .ping | .pong => [required 1 .u64]
  | .goAway => [required 1 .u16, optional 2 .u32]
  | .transportFinished => [required 1 .u8, required 2 .bytes false 1 64]
  | .transferOffer =>
    [required 1 .bytes false 16 16, required 2 .u32, required 3 .u64,
      required 4 .bytes false 16 64, optional 5 .utf8 1 255]
  | .manifestEntry =>
    [required 1 .bytes false 16 16, required 2 .u32, required 3 .u8,
      required 4 .utf8 false 1 1024, required 5 .u64, conditional 6 .bytes 16 64,
      optional 7 .u64]
  | .manifestEnd =>
    [required 1 .bytes false 16 16, required 2 .u32, required 3 .u64, required 4 .bytes false 16 64]
  | .transferAccept =>
    [required 1 .bytes false 16 16, required 2 .u32, required 3 .u32,
      conditional 4 .bytes 16 256, conditional 5 .u32]
  | .transferReject =>
    [required 1 .bytes false 16 16, required 2 .u16, required 3 .bool, optional 4 .u32,
      optional 5 .utf8 0 256]
  | .fileBegin =>
    [required 1 .bytes false 16 16, required 2 .u32, required 3 .u64, required 4 .u32]
  | .fileChunk =>
    [required 1 .bytes false 16 16, required 2 .u32, required 3 .u64,
      required 4 .bytes false 1 maxChunkData, required 5 .bytes false 16 64]
  | .chunkAck =>
    [required 1 .bytes false 16 16, required 2 .u32, required 3 .u64, required 4 .u32]
  | .fileEnd =>
    [required 1 .bytes false 16 16, required 2 .u32, required 3 .u64, required 4 .bytes false 16 64]
  | .fileCommit => [required 1 .bytes false 16 16, required 2 .u32, required 3 .u64]
  | .transferComplete | .transferCompleteAck =>
    [required 1 .bytes false 16 16, required 2 .bytes false 16 64]
  | .cancel => [required 1 .bytes false 16 16, required 2 .u16, optional 3 .utf8 0 256]
  | .cancelAck => [required 1 .bytes false 16 16, required 2 .u16]
  | .resumeRequest =>
    [required 1 .bytes false 16 16, required 2 .bytes false 16 64, required 3 .bytes false 16 256]
  | .resumeState =>
    [required 1 .bytes false 16 16, required 2 .u32, required 3 .u64, required 4 .bool,
      conditional 5 .bytes 16 64]
  | .resumeEnd => [required 1 .bytes false 16 16, required 2 .u32, required 3 .u16]

def findRule (schema : List FieldRule) (id : Nat) : Option FieldRule :=
  schema.find? fun rule => rule.id = id

end Protocol

end XnnTransfer
