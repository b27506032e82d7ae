import XnnTransfer.Protocol.Encoding
import XnnTransfer.Transfer.Connection

/-!
# Encoding and reading transfer frames

`BodyBuilder`, the `Encode…Frame` functions, `ParseInbound`, `ParseBody` and the
field readers of `native/src/transfer/frame_codec.cpp`.

## Implementation notes

An allocation failure anywhere while a frame is built makes the encoder return
false before it takes a message identifier, so one flag `memory` stands for all
of them. A refused frame carries the three values its caller reports.
-/

namespace XnnTransfer.Transfer

open Protocol

def field (id : Nat) (wireType : WireType) (value : Bytes) (critical : Bool) : FieldView :=
  ⟨id, wireType, if critical then 1 else 0, value⟩

def u8Field (id value : Nat) : FieldView := field id .u8 (BigEndian.ofNat 1 value) true
def u16Field (id value : Nat) : FieldView := field id .u16 (BigEndian.ofNat 2 value) true
def u32Field (id value : Nat) : FieldView := field id .u32 (BigEndian.ofNat 4 value) true
def u64Field (id value : Nat) : FieldView := field id .u64 (BigEndian.ofNat 8 value) true

def boolField (id : Nat) (value critical : Bool) : FieldView :=
  field id .bool [if value then 1 else 0] critical

def bytesField (id : Nat) (value : Bytes) : FieldView := field id .bytes value true

def utf8Field (id : Nat) (value : Bytes) (critical : Bool) : FieldView :=
  field id .utf8 value critical

structure BodyBuilder where
  bytes : Bytes := []
  previousId : Option Nat := none
  ok : Bool := true

namespace BodyBuilder

def add (builder : BodyBuilder) (field : FieldView) : BodyBuilder :=
  if builder.ok = false ∨ field.id = 0 ∨
      builder.previousId.any (fun previous => field.id ≤ previous) = true ∨
      maxU32 < field.value.length then
    { builder with ok := false }
  else
    let required := 8 + field.value.length
    if maxBodyLength < required ∨ maxBodyLength - required < builder.bytes.length then
      { builder with ok := false }
    else { bytes := builder.bytes ++ encodeTlv field, previousId := some field.id, ok := true }

/-- The builder after the calls that add the fields in order. -/
def ofFields (fields : List FieldView) : BodyBuilder := fields.foldl add {}

end BodyBuilder

variable (memory : Bool) (context : TransferContext) (ids : ConnectionMessageSequence)
  (transferId : Bytes) (frame : ParsedFrame) (id : Nat)

variable (type : MessageType) (code : WireErrorCode) (retryable : Bool)
  (terminalCode : WireErrorCode)

/-- The end of both frame encoders: parse the frame back, then number it. -/
def numberFrame (ids : ConnectionMessageSequence) (body : Bytes) :
    Option Bytes × ConnectionMessageSequence :=
  let selfCheck := parseFrame (frameBytes context.version type context.streamId 1 body)
    context.version
  if selfCheck.ok = false ∨ selfCheck.frame.header.messageType ≠ type ∨
      selfCheck.frame.header.streamId ≠ context.streamId then
    (none, ids)
  else
    match ids.nextOutbound with
    | (none, ids) => (none, ids)
    | (some messageId, ids) =>
      if messageId = 0 then (none, ids)
      else
        (some (frameBytes context.version type context.streamId messageId.toNat body), ids)

def encodeFrame (ids : ConnectionMessageSequence) (body : BodyBuilder) :
    Option Bytes × ConnectionMessageSequence :=
  if body.ok = false ∨ context.limits.maximumBody < body.bytes.length ∨
      maxBodyLength < body.bytes.length ∨ memory = false then
    (none, ids)
  else numberFrame context type ids body.bytes

/-- The encoder for chunk frames. Its body does not go through the builder past
the third field. -/
def encodeFileChunkFrame (offset : Nat) (data commitment : Bytes) :
    Option Bytes × ConnectionMessageSequence :=
  let leading :=
    BodyBuilder.ofFields [bytesField 1 transferId, u32Field 2 0, u64Field 3 offset]
  let trailingFieldHeaders := 16
  let variableSize := data.length + commitment.length
  let bodySize := leading.bytes.length + trailingFieldHeaders + variableSize
  if leading.ok = false ∨ data = [] ∨ maximumChunkSize < data.length ∨
      validCommitment commitment = false then
    (none, ids)
  else if maxBodyLength - trailingFieldHeaders < variableSize ∨
      maxBodyLength - trailingFieldHeaders - variableSize < leading.bytes.length then
    (none, ids)
  else if context.limits.maximumBody < bodySize ∨ maxU32 < bodySize ∨ memory = false then
    (none, ids)
  else
    numberFrame context .fileChunk ids
      (leading.bytes ++ encodeTlvs [bytesField 4 data, bytesField 5 commitment])

def errorFields : List FieldView :=
  [u16Field 1 code.code, boolField 2 (wireErrorIsFatal code) true] ++
    if retryable then [boolField 3 true false] else []

def encodeErrorFrame : Option Bytes × ConnectionMessageSequence :=
  encodeFrame memory context .error ids (.ofFields (errorFields code retryable))

def cancelFields : List FieldView :=
  [bytesField 1 transferId, u16Field 2 WireErrorCode.cancelled.code]

def encodeCancelFrame : Option Bytes × ConnectionMessageSequence :=
  encodeFrame memory context .cancel ids (.ofFields (cancelFields transferId))

def cancelAckFields : List FieldView :=
  [bytesField 1 transferId, u16Field 2 terminalCode.code]

def encodeCancelAckFrame : Option Bytes × ConnectionMessageSequence :=
  if terminalCode = .none then (none, ids)
  else
    encodeFrame memory context .cancelAck ids (.ofFields (cancelAckFields transferId terminalCode))

/-- What is reported of a frame that was not taken. -/
structure Refusal where
  error : TransferError
  wireError : WireErrorCode
  connectionFatal : Bool
  deriving DecidableEq, Repr

def refusalForProtocol (code : ErrorCode) (streamId : Nat) : Refusal :=
  ⟨transferErrorForProtocol code, wireErrorForProtocol code,
    protocolErrorIsConnectionFatal code streamId⟩

def parseInbound (authorized : Bool) (context : TransferContext)
    (ids : ConnectionMessageSequence) (encoded : Bytes) :
    Except Refusal ParsedFrame × ConnectionMessageSequence :=
  if authorized = false then (.error ⟨.unauthenticated, .none, true⟩, ids)
  else
    let parsed := parseFrameEnvelope encoded context.version
    if parsed.ok = false then
      (.error (refusalForProtocol parsed.error.code parsed.frame.header.streamId), ids)
    else
      let (observed, ids) := ids.observeInbound parsed.frame.header.messageId
      if observed = false then (.error ⟨.messageIdViolation, .messageIdViolation, true⟩, ids)
      else if context.limits.maximumBody < parsed.frame.header.bodyLength then
        (.error ⟨.limitExceeded, .limitExceeded, false⟩, ids)
      else if parsed.frame.header.streamId ≠ context.streamId then
        (.error ⟨.stateViolation, .stateViolation, false⟩, ids)
      else (.ok parsed.frame, ids)

def parseBody : Except Refusal ParsedFrame :=
  match parseFrameBody frame with
  | .ok frame => .ok frame
  | .error error => .error (refusalForProtocol error.code frame.header.streamId)

def fieldOf : Option FieldView := findFirst frame.bodyFields id

def unsigned : Nat :=
  match fieldOf frame id with
  | none => 0
  | some field => decodeUnsigned field

def fieldBytes : Bytes :=
  match fieldOf frame id with
  | none => []
  | some field => field.value

def readTransferId : Option Bytes :=
  if (fieldBytes frame 1).length ≠ transferIdSize then none else some (fieldBytes frame 1)

/-! ### What an emitted frame carries -/

namespace BodyBuilder

/-- What a builder that has not failed holds. -/
structure Holds (builder : BodyBuilder) (fields : List FieldView) : Prop where
  bytes_eq : builder.bytes = encodeTlvs fields
  length_le : builder.bytes.length ≤ maxBodyLength
  values : ∀ field ∈ fields, field.value.length ≤ maxU32
  sorted : fields.Pairwise fun a b => a.id < b.id
  previous : ∀ field ∈ fields, ∃ previous ∈ builder.previousId, field.id ≤ previous

variable {builder : BodyBuilder} {fields : List FieldView}

theorem holds_add {field : FieldView} (hinv : builder.ok = true → builder.Holds fields)
    (h : (builder.add field).ok = true) : (builder.add field).Holds (fields ++ [field]) := by
  simp only [add] at h ⊢
  split at h
  · simp at h
  rename_i hguard
  rw [if_neg hguard]
  split at h
  · simp at h
  rename_i hroom
  rw [if_neg hroom]
  push Not at hguard hroom
  obtain ⟨hbuilder, -, horder, hvalue⟩ := hguard
  have hold := hinv (by simpa using hbuilder)
  refine ⟨?_, ?_, ?_, ?_, ?_⟩
  · simp [hold.bytes_eq, encodeTlvs_append]
  · simp only [List.length_append, length_encodeTlv]
    omega
  · intro f hf
    rcases List.mem_append.mp hf with hf | hf
    · exact hold.values f hf
    rw [List.mem_singleton.mp hf]
    exact hvalue
  · rw [List.pairwise_append]
    refine ⟨hold.sorted, by simp, fun a ha b hb => ?_⟩
    rw [List.mem_singleton.mp hb]
    obtain ⟨previous, hprevious, hle⟩ := hold.previous a ha
    have hlt : previous < field.id := by
      rw [Option.mem_def.mp hprevious] at horder
      simpa using horder
    omega
  intro f hf
  refine ⟨field.id, rfl, ?_⟩
  rcases List.mem_append.mp hf with hf | hf
  · obtain ⟨previous, hprevious, hle⟩ := hold.previous f hf
    have hlt : previous < field.id := by
      rw [Option.mem_def.mp hprevious] at horder
      simpa using horder
    omega
  · rw [List.mem_singleton.mp hf]

theorem holds_foldl (rest : List FieldView) (hinv : builder.ok = true → builder.Holds fields)
    (h : (rest.foldl add builder).ok = true) : (rest.foldl add builder).Holds (fields ++ rest) := by
  induction rest generalizing builder fields with
  | nil => simpa using hinv h
  | cons field rest ih =>
    have hstep := ih (fun hok => holds_add hinv hok) h
    simpa using hstep

theorem holds_ofFields (h : (ofFields fields).ok = true) : (ofFields fields).Holds fields := by
  have hinit : ({} : BodyBuilder).Holds [] :=
    ⟨rfl, by simp, by simp, by simp, by simp⟩
  simpa [ofFields] using holds_foldl fields (fun _ => hinit) h

/-- The builder takes fields in increasing order as long as they fit. -/
theorem ok_foldl (hok : builder.ok = true) (hpos : ∀ field ∈ fields, field.id ≠ 0)
    (hsorted : fields.Pairwise fun a b => a.id < b.id)
    (hprevious : ∀ previous ∈ builder.previousId, ∀ field ∈ fields, previous < field.id)
    (hlength : builder.bytes.length + (encodeTlvs fields).length ≤ maxBodyLength) :
    (fields.foldl add builder).ok = true := by
  induction fields generalizing builder with
  | nil => exact hok
  | cons field rest ih =>
    rw [List.pairwise_cons] at hsorted
    rw [encodeTlvs_cons, List.length_append, length_encodeTlv] at hlength
    have hmax : maxBodyLength ≤ maxU32 := by decide
    have hadd : builder.add field =
        { bytes := builder.bytes ++ encodeTlv field, previousId := some field.id, ok := true } := by
      rw [add, if_neg, if_neg (by omega)]
      rintro (hfailed | hzero | horder | hlong)
      · rw [hok] at hfailed
        cases hfailed
      · exact hpos field List.mem_cons_self hzero
      · obtain ⟨previous, hmem, hle⟩ := (Option.any_eq_true _ _).mp horder
        have := hprevious previous hmem field List.mem_cons_self
        have := of_decide_eq_true hle
        omega
      · omega
    rw [List.foldl_cons, hadd]
    refine ih rfl (fun f hf => hpos f (List.mem_cons_of_mem _ hf)) hsorted.2 ?_ ?_
    · intro previous hmem f hf
      cases hmem
      exact hsorted.1 f hf
    · rw [List.length_append, length_encodeTlv]
      omega

theorem ok_ofFields (hpos : ∀ field ∈ fields, field.id ≠ 0)
    (hsorted : fields.Pairwise fun a b => a.id < b.id)
    (hlength : (encodeTlvs fields).length ≤ maxBodyLength) : (ofFields fields).ok = true :=
  ok_foldl rfl hpos hsorted (by simp) (by simpa using hlength)

end BodyBuilder

/-- The fields are ones the schema of the type has rules for. -/
def Listed (type : MessageType) (fields : List FieldView) : Prop :=
  fields.length ≤ maxFields ∧
    ∀ field ∈ fields, (findRule (schemaFor type) field.id).isSome = true ∧
      field.id < 65536 ∧ (field.flags = 0 ∨ field.flags = 1)

/-- Only the identifiers and the flags of the fields matter. -/
theorem listed_of {type : MessageType} {fields : List FieldView} (marks : List (Nat × UInt8))
    (h : fields.map (fun field => (field.id, field.flags)) = marks)
    (hmarks : marks.length ≤ maxFields ∧ ∀ mark ∈ marks,
      (findRule (schemaFor type) mark.1).isSome = true ∧ mark.1 < 65536 ∧
        (mark.2 = 0 ∨ mark.2 = 1)) : Listed type fields := by
  subst h
  exact ⟨by simpa using hmarks.1, fun field hfield => hmarks.2 _ (List.mem_map_of_mem hfield)⟩

/-- The frame is a well-formed frame of the stream with this type and these fields. -/
structure Carries (context : TransferContext) (type : MessageType) (fields : List FieldView)
    (frame : Bytes) : Prop where
  numbered : ∃ messageId : UInt64, messageId ≠ 0 ∧
    frame = frameBytes context.version type context.streamId messageId.toNat (encodeTlvs fields)
  stream_lt : context.streamId < 256 ^ 4
  scope : ScopeOk type context.streamId
  length_le : (encodeTlvs fields).length ≤ maxBodyLength
  length_le_limit : (encodeTlvs fields).length ≤ context.limits.maximumBody
  parsed : parseTlvs (encodeTlvs fields) (schemaFor type) = .ok fields

theorem toNat_ne_zero {messageId : UInt64} (h : messageId ≠ 0) : messageId.toNat ≠ 0 := by
  intro hzero
  exact h (UInt64.toNat_inj.mp hzero)

theorem toNat_lt (messageId : UInt64) : messageId.toNat < 256 ^ 8 := messageId.toNat_lt

variable {context : TransferContext} {ids next : ConnectionMessageSequence} {frame : Bytes}

variable {type : MessageType} {fields : List FieldView} {memory : Bool}

theorem numberFrame_carries (hlisted : Listed type fields)
    (hvalues : ∀ field ∈ fields, field.value.length ≤ maxU32)
    (hsorted : fields.Pairwise fun a b => a.id < b.id)
    (hlength : (encodeTlvs fields).length ≤ maxBodyLength)
    (hlimit : (encodeTlvs fields).length ≤ context.limits.maximumBody)
    (h : numberFrame context type ids (encodeTlvs fields) = (some frame, next)) :
    Carries context type fields frame := by
  simp only [numberFrame] at h
  split at h
  · cases h
  rename_i hcheck
  push Not at hcheck
  obtain ⟨hok, -, hstream⟩ := hcheck
  obtain ⟨hstreamLt, hscope, collected, hcollected⟩ :=
    scope_of_parseFrame_ok hlength (by simpa using hok) hstream
  have hencodable : ∀ field ∈ fields, field.Encodable := fun field hf =>
    ⟨(hlisted.2 field hf).2.1,
      lt_of_le_of_lt (hvalues field hf) (by decide), (hlisted.2 field hf).2.2⟩
  have hsame : collected = fields := by
    have hparse := hcollected
    rw [parseTlvs, parseTlvLoop_encodeTlvs _ fields hlisted.1 hencodable
      (hsorted.imp Nat.le_of_lt) (by simp)] at hparse
    split at hparse
    · cases hparse
    rename_i hfold
    split at hparse <;> cases hparse
    rw [(foldlM_acceptField_ok_iff.mp hfold).2.2.2, List.nil_append]
    exact List.filter_eq_self.mpr fun f hf => (hlisted.2 f hf).1
  rw [hsame] at hcollected
  split at h
  · cases h
  split at h
  · cases h
  cases h
  exact ⟨⟨_, ‹_›, rfl⟩, hstreamLt, hscope, hlength, hlimit, hcollected⟩

theorem encodeFrame_carries (hlisted : Listed type fields)
    (h : encodeFrame memory context type ids (.ofFields fields) = (some frame, next)) :
    Carries context type fields frame := by
  unfold encodeFrame at h
  split at h
  · cases h
  rename_i hguard
  push Not at hguard
  have hold := BodyBuilder.holds_ofFields (by simpa using hguard.1)
  rw [hold.bytes_eq] at h hguard
  exact numberFrame_carries hlisted hold.values hold.sorted hguard.2.2.1 hguard.2.1 h

variable (transferId : Bytes) (offset : Nat) (data commitment : Bytes)

def chunkFields : List FieldView :=
  [bytesField 1 transferId, u32Field 2 0, u64Field 3 offset, bytesField 4 data,
    bytesField 5 commitment]

theorem listed_chunkFields : Listed .fileChunk (chunkFields transferId offset data commitment) :=
  listed_of [(1, 1), (2, 1), (3, 1), (4, 1), (5, 1)] rfl (by decide)

/-- Past its own checks the encoder of chunk frames does what the general one does. -/
theorem encodeFileChunkFrame_eq (memory : Bool) (context : TransferContext)
    (ids : ConnectionMessageSequence) (transferId : Bytes) (offset : Nat)
    (data commitment : Bytes) :
    encodeFileChunkFrame memory context ids transferId offset data commitment =
      if (BodyBuilder.ofFields
          [bytesField 1 transferId, u32Field 2 0, u64Field 3 offset]).ok = false ∨ data = [] ∨
          maximumChunkSize < data.length ∨ validCommitment commitment = false then (none, ids)
      else encodeFrame memory context .fileChunk ids
        (.ofFields (chunkFields transferId offset data commitment)) := by
  simp only [encodeFileChunkFrame]
  split
  · rfl
  rename_i hguard
  push Not at hguard
  have hbytes := (BodyBuilder.holds_ofFields ((Bool.not_eq_false _).mp hguard.1)).bytes_eq
  have hlength : (encodeTlvs (chunkFields transferId offset data commitment)).length =
      (encodeTlvs [bytesField 1 transferId, u32Field 2 0, u64Field 3 offset]).length + 16 +
        (data.length + commitment.length) := by
    simp only [chunkFields, encodeTlvs_cons, encodeTlvs_nil, List.length_append, length_encodeTlv,
      List.length_nil]
    simp only [bytesField, field]
    omega
  have hmax : maxBodyLength = 1048576 := rfl
  rw [hbytes, ← hlength, ← encodeTlvs_append]
  by_cases hroom : (encodeTlvs (chunkFields transferId offset data commitment)).length ≤
      maxBodyLength
  · have hok := BodyBuilder.ok_ofFields
      (by simp [chunkFields, bytesField, u32Field, u64Field, field])
      (by simp [chunkFields, bytesField, u32Field, u64Field, field]) hroom
    rw [if_neg (by omega), encodeFrame, (BodyBuilder.holds_ofFields hok).bytes_eq, hok]
    refine if_congr ?_ rfl rfl
    have hnarrow := hroom.trans (show maxBodyLength ≤ maxU32 by decide)
    simp [Nat.not_lt.mpr hroom, Nat.not_lt.mpr hnarrow]
  · rw [if_pos (by omega), encodeFrame, if_pos]
    refine .inl (Bool.eq_false_iff.mpr fun hok => hroom ?_)
    have hold := BodyBuilder.holds_ofFields hok
    rw [← hold.bytes_eq]
    exact hold.length_le

theorem encodeFileChunkFrame_carries {transferId : Bytes} {offset : Nat} {data commitment : Bytes}
    (h : encodeFileChunkFrame memory context ids transferId offset data commitment =
      (some frame, next)) :
    Carries context .fileChunk (chunkFields transferId offset data commitment) frame := by
  rw [encodeFileChunkFrame_eq] at h
  split at h
  · cases h
  · exact encodeFrame_carries (listed_chunkFields ..) h

/-- What a frame says: its type and the fields of its body. -/
structure Message where
  type : MessageType
  fields : List FieldView
  deriving DecidableEq, Repr

namespace Message

def number (message : Message) (id : Nat) : Nat :=
  match findFirst message.fields id with
  | none => 0
  | some field => decodeUnsigned field

def bytes (message : Message) (id : Nat) : Bytes :=
  match findFirst message.fields id with
  | none => []
  | some field => field.value

end Message

def messageOf (frame : ParsedFrame) : Message := ⟨frame.header.messageType, frame.bodyFields⟩

/-- What an encoded frame says, if it parses. -/
def decodeFrame (version : Version) (frame : Bytes) : Option Message :=
  let result := parseFrame frame version
  if result.ok then some (messageOf result.frame) else none

section Values

variable {id value : Nat}

theorem decodeUnsigned_u16Field (h : value < 2 ^ 16) :
    decodeUnsigned (u16Field id value) = value := by
  rw [decodeUnsigned, u16Field, field, BigEndian.toNat_ofNat (lt_of_lt_of_le h (by decide)),
    Nat.mod_eq_of_lt (by omega)]

theorem decodeUnsigned_u64Field (h : value < 2 ^ 64) :
    decodeUnsigned (u64Field id value) = value := by
  rw [decodeUnsigned, u64Field, field, BigEndian.toNat_ofNat (lt_of_lt_of_le h (by decide)),
    Nat.mod_eq_of_lt h]

end Values

variable {context : TransferContext} {type : MessageType} {fields : List FieldView}
  {frame : ParsedFrame} {encoded : Bytes} {authorized : Bool} {ids : ConnectionMessageSequence}

theorem Carries.envelope {frame : Bytes} (h : Carries context type fields frame) :
    ∃ messageId : UInt64, messageId ≠ 0 ∧
      frame = frameBytes context.version type context.streamId messageId.toNat
        (encodeTlvs fields) ∧
      parseFrameEnvelope frame context.version =
        { frame := plainFrame context.version type context.streamId messageId.toNat
            (encodeTlvs fields) } := by
  obtain ⟨messageId, hne, rfl⟩ := h.numbered
  exact ⟨messageId, hne, rfl, parseFrameEnvelope_frameBytes (toNat_lt messageId)
    (toNat_ne_zero hne) h.length_le h.stream_lt h.scope⟩

variable {version : Version} {refusal : Refusal}

/-- The body of a plain frame parses to the fields it was built from. -/
theorem parseFrameBody_plainFrame {streamId messageId : Nat}
    (h : parseTlvs (encodeTlvs fields) (schemaFor type) = .ok fields) :
    parseFrameBody (plainFrame version type streamId messageId (encodeTlvs fields)) =
      .ok { plainFrame version type streamId messageId (encodeTlvs fields) with
            bodyFields := fields } := by
  simp [parseFrameBody, plainFrame, h]

theorem Carries.decodeFrame_eq {frame : Bytes} (h : Carries context type fields frame) :
    decodeFrame context.version frame = some ⟨type, fields⟩ := by
  obtain ⟨messageId, -, -, hparse⟩ := h.envelope
  simp only [decodeFrame, parseFrame, hparse, ParseResult.ok, Error.ok, decide_true,
    Bool.true_eq_false, if_false, if_true, parseFrameBody_plainFrame h.parsed]
  rfl

theorem Carries.message_eq {frame : Bytes} {message : Message}
    (h : Carries context type fields frame)
    (hmessage : decodeFrame context.version frame = some message) : message = ⟨type, fields⟩ :=
  (Option.some.inj (h.decodeFrame_eq.symm.trans hmessage)).symm

/-- The frame passes the inbound checks and its body parses. -/
def Inbound (authorized : Bool) (context : TransferContext) (ids : ConnectionMessageSequence)
    (encoded : Bytes) (frame : ParsedFrame) : Prop :=
  ∃ envelope, (parseInbound authorized context ids encoded).1 = .ok envelope ∧
    parseBody envelope = .ok frame

/-- A frame that passes the envelope checks keeps its bytes. -/
theorem parseFrameEnvelope_raw (h : (parseFrameEnvelope encoded version).ok = true) :
    (parseFrameEnvelope encoded version).frame.raw = encoded := by
  simp only [parseFrameEnvelope] at h ⊢
  split at h
  · rename_i hfailed
    rw [hfailed] at h
    cases h
  rename_i hok
  split at h
  · cases h
  rename_i hlength
  rw [if_neg hok, if_neg hlength]

theorem parseInbound_ok {envelope : ParsedFrame}
    (h : (parseInbound authorized context ids encoded).1 = .ok envelope) :
    authorized = true ∧ (parseFrameEnvelope encoded context.version).ok = true ∧
      (parseFrameEnvelope encoded context.version).frame = envelope := by
  simp only [parseInbound] at h
  split at h
  · cases h
  rename_i hauthorized
  split at h
  · cases h
  rename_i hok
  split at h
  · cases h
  split at h
  · cases h
  split at h <;> cases h
  exact ⟨by simpa using hauthorized, by simpa using hok, rfl⟩

theorem wireErrorForProtocol_ne_completed (code : ErrorCode) :
    wireErrorForProtocol code ≠ .completed := by
  cases code <;> decide

/-- No refusal is reported as a completed transfer. -/
theorem parseInbound_wireError
    (h : (parseInbound authorized context ids encoded).1 = .error refusal) :
    refusal.wireError ≠ .completed := by
  simp only [parseInbound] at h
  split at h
  · cases h
    decide
  split at h
  · cases h
    exact wireErrorForProtocol_ne_completed _
  split at h
  · cases h
    decide
  split at h
  · cases h
    decide
  split at h <;> cases h
  decide

theorem parseBody_wireError {envelope : ParsedFrame} (h : parseBody envelope = .error refusal) :
    refusal.wireError ≠ .completed := by
  unfold parseBody at h
  split at h <;> cases h
  exact wireErrorForProtocol_ne_completed _

theorem parseBody_ok {envelope : ParsedFrame} (h : parseBody envelope = .ok frame) :
    parseFrameBody envelope = .ok frame := by
  unfold parseBody at h
  split at h <;> cases h
  assumption

/-- Parsing the body adds the fields and changes nothing else. -/
theorem parseBody_frame {envelope : ParsedFrame} (h : parseBody envelope = .ok frame) :
    frame = { envelope with bodyFields := frame.bodyFields } := by
  have hbody := parseBody_ok h
  unfold parseFrameBody at hbody
  split at hbody
  · cases hbody
  split at hbody <;> cases hbody
  rfl

theorem Inbound.raw_eq (h : Inbound authorized context ids encoded frame) :
    frame.raw = encoded := by
  obtain ⟨envelope, hparse, hbody⟩ := h
  obtain ⟨-, hok, hframe⟩ := parseInbound_ok hparse
  rw [parseBody_frame hbody, ← hframe]
  exact parseFrameEnvelope_raw hok

theorem Inbound.decodeFrame_eq (h : Inbound authorized context ids encoded frame) :
    decodeFrame context.version encoded = some (messageOf frame) := by
  obtain ⟨envelope, hparse, hbody⟩ := h
  obtain ⟨-, hok, hframe⟩ := parseInbound_ok hparse
  have hfields := parseBody_ok hbody
  have hparsed : (parseFrame encoded context.version).ok = true ∧
      (parseFrame encoded context.version).frame = frame := by
    simp only [parseFrame, hok, Bool.true_eq_false, if_false, hframe, hfields]
    exact ⟨hok, trivial⟩
  simp only [decodeFrame, hparsed.1, hparsed.2, if_true]

end XnnTransfer.Transfer
