import XnnTransfer.Protocol.Encoding

/-!
# What the frame parser accepts

A frame is accepted exactly if its header, its length and the fields of its
extensions and of its body are as `Frame` says. The header can be judged before the
rest has arrived. Every field of an accepted body conforms to the schema of its
message type, so an integer field has the width of its type.
-/

namespace XnnTransfer.Protocol

open Guards

variable {field : FieldView} {schema : List FieldRule}

/-- Every field of an accepted body conforms to the schema. -/
theorem parseTlvs_conforms {data : Bytes} {fields : List FieldView}
    (h : parseTlvs data schema = .ok fields) : ∀ field ∈ fields, Conforms schema field := by
  obtain ⟨read, -, hbody, rfl⟩ := parseTlvs_ok_iff.mp h
  intro field hfield
  obtain ⟨hmem, hknown⟩ := List.mem_filter.mp hfield
  exact conforms_iff.mpr ⟨hbody.acceptable field hmem, hknown⟩

/-- An integer field of a conforming body fits the width of its type. -/
theorem Conforms.decodeUnsigned_lt (h : Conforms schema field)
    (hfixed : fixedWireLength field.wireType ≠ 0) :
    decodeUnsigned field < 256 ^ fixedWireLength field.wireType := by
  have hlength : field.value.length = fixedWireLength field.wireType := by
    by_contra hother
    have hvalue := h.value
    rw [validateWireValue, if_pos ⟨hfixed, hother⟩] at hvalue
    cases hvalue
  rw [← hlength]
  exact lt_of_le_of_lt (Nat.mod_le _ _) (BigEndian.toNat_lt _)

variable {envelope : ParsedFrame} {encoded : Bytes} {version : Version}

/-- A body that is accepted holds the fields its schema accepts. -/
theorem parseFrameBody_ok {frame : ParsedFrame} (h : parseFrameBody envelope = .ok frame) :
    parseTlvs envelope.body (schemaFor envelope.header.messageType) = .ok frame.bodyFields ∧
      frame = { envelope with bodyFields := frame.bodyFields } := by
  unfold parseFrameBody at h
  split at h
  · cases h
  split at h
  · cases h
  rename_i fields hfields
  cases h
  exact ⟨hfields, rfl⟩

theorem parseFrameBody_refuses : Refuses (·.ok = false) (parseFrameBody envelope) := by
  refine .ite (fun _ => rfl) ?_
  split
  next hfields => exact .error (parseTlvs_refuses _ hfields)
  · exact .ok _

/-- A frame is accepted when its envelope is and its body is. -/
theorem parseFrame_ok_iff :
    (parseFrame encoded version).ok = true ↔
      (parseFrameEnvelope encoded version).ok = true ∧
        parseFrameBody (parseFrameEnvelope encoded version).frame =
          .ok (parseFrame encoded version).frame := by
  unfold parseFrame
  constructor
  · intro h
    simp only at h ⊢
    split at h
    next hbad =>
      rw [hbad] at h
      cases h
    rename_i hgood
    split at h
    next error hbody =>
      have hok : error.ok = true := h
      rw [parseFrameBody_refuses _ hbody] at hok
      cases hok
    rename_i frame hbody
    rw [if_neg hgood, hbody]
    exact ⟨by simpa using hgood, rfl⟩
  rintro ⟨henvelope, hbody⟩
  rw [if_neg (by simp [henvelope])] at hbody ⊢
  split
  next error herror =>
    rw [herror] at hbody
    cases hbody
  · exact henvelope

theorem parseFrame_of_body {frame : ParsedFrame}
    (henvelope : (parseFrameEnvelope encoded version).ok = true)
    (hbody : parseFrameBody (parseFrameEnvelope encoded version).frame = .ok frame) :
    parseFrame encoded version = { parseFrameEnvelope encoded version with frame := frame } := by
  simp only [parseFrame, henvelope, hbody, Bool.true_eq_false, if_false]

/-- An integer field of an accepted frame fits the type that the schema gives it. -/
theorem parseFrame_field_lt (hok : (parseFrame encoded version).ok = true) {id : Nat}
    {wireType : WireType}
    (hrule : (findRule (schemaFor (parseFrame encoded version).frame.header.messageType) id).map
      FieldRule.wireType = some wireType) (hfixed : fixedWireLength wireType ≠ 0)
    (hfield : field ∈ (parseFrame encoded version).frame.bodyFields) (hid : field.id = id) :
    decodeUnsigned field < 256 ^ fixedWireLength wireType := by
  obtain ⟨-, hbody⟩ := parseFrame_ok_iff.mp hok
  obtain ⟨hfields, hframe⟩ := parseFrameBody_ok hbody
  have htype : (parseFrame encoded version).frame.header.messageType =
      (parseFrameEnvelope encoded version).frame.header.messageType := by
    rw [hframe]
  rw [← htype] at hfields
  have hconforms := parseTlvs_conforms hfields field hfield
  obtain ⟨rule, hfound, -, hwire, -⟩ := hconforms.rule
  rw [hid] at hfound
  rw [hfound] at hrule
  have hsame : field.wireType = wireType := hwire.trans (Option.some.inj hrule)
  rw [← hsame] at hfixed ⊢
  exact hconforms.decodeUnsigned_lt hfixed

/-! ### Exactness -/

/-- A number of the fixed header. -/
def numberAt (encoded : Bytes) (offset width : Nat) : Nat :=
  BigEndian.toNat (subspan encoded offset width)

theorem toNat_subspan (encoded : Bytes) (offset width : Nat) :
    BigEndian.toNat (subspan encoded offset width) = numberAt encoded offset width := rfl

/-- The bytes begin with a whole header that the parser takes. -/
structure Header (encoded : Bytes) (version : Version) (type : MessageType)
    (extensions : List FieldView) : Prop where
  magic_eq : subspan encoded 0 4 = magic
  length_ge : fixedHeaderLength ≤ numberAt encoded 4 2
  length_le : numberAt encoded 4 2 ≤ maxHeaderLength
  covered : numberAt encoded 4 2 ≤ encoded.length
  version_eq : (⟨(encoded.drop 6).headD 0, (encoded.drop 7).headD 0⟩ : Version) = version
  type_eq : numberAt encoded 8 2 = type.code
  flags : numberAt encoded 10 2 = 0
  scope : ScopeOk type (numberAt encoded 12 4)
  messageId : numberAt encoded 16 8 ≠ 0
  body_le : numberAt encoded 24 4 ≤ maxBodyLength
  extensions_eq : subspan encoded fixedHeaderLength (numberAt encoded 4 2 - fixedHeaderLength) =
    encodeTlvs extensions
  fields : Body [] extensions

/-- The bytes are a frame of the version: nothing is missing and nothing follows it. -/
structure Frame (encoded : Bytes) (version : Version) (type : MessageType)
    (extensions body : List FieldView) : Prop extends
    Header encoded version type extensions where
  total : encoded.length = numberAt encoded 4 2 + numberAt encoded 24 4
  body_eq : subspan encoded (numberAt encoded 4 2) (numberAt encoded 24 4) = encodeTlvs body
  bodyFields : Body (schemaFor type) body

section Exact

variable {encoded : Bytes} {version : Version} {type : MessageType}
  {extensions body : List FieldView}

theorem Header.parse (h : Header encoded version type extensions) :
    parseFrameHeader encoded version =
      { frame :=
          { header := ⟨numberAt encoded 4 2, version, type, 0, numberAt encoded 12 4,
              numberAt encoded 16 8, numberAt encoded 24 4⟩
            declaredTotalLength := numberAt encoded 4 2 + numberAt encoded 24 4
            raw := encoded.take (numberAt encoded 4 2)
            headerExtensions := subspan encoded fixedHeaderLength
              (numberAt encoded 4 2 - fixedHeaderLength) } } := by
  have hfields : parseTlvs (subspan encoded fixedHeaderLength
      (numberAt encoded 4 2 - fixedHeaderLength)) [] = .ok [] :=
    parseTlvs_ok_iff.mpr ⟨extensions, h.extensions_eq, h.fields, by simp [known, findRule]⟩
  have hlong := h.length_ge.trans h.covered
  have hconnection : ¬ (isConnectionMessage type = true ∧ numberAt encoded 12 4 ≠ 0) :=
    fun hbad => hbad.2 (h.scope.1 hbad.1)
  have htransfer : ¬ (isTransferMessage type = true ∧ numberAt encoded 12 4 = 0) :=
    fun hbad => h.scope.2 hbad.1 hbad.2
  simp only [parseFrameHeader, toNat_subspan, Nat.not_lt.mpr hlong, h.magic_eq, h.version_eq, h.type_eq,
    h.flags, h.messageId, Nat.not_lt.mpr h.length_ge, Nat.not_lt.mpr h.length_le,
    Nat.not_lt.mpr h.body_le, Nat.not_lt.mpr h.covered, MessageType.ofCode?_code, hfields,
    hconnection, htransfer, ne_eq, not_true_eq_false, if_false]

theorem of_ite {condition : Prop} [Decidable condition] {bad good : ParseResult}
    (h : (if condition then bad else good).ok = true) (hbad : bad.ok = false) :
    ¬ condition ∧ good.ok = true := by
  split at h
  · rw [hbad] at h
    cases h
  · exact ⟨‹_›, h⟩

theorem header_of_ok (h : (parseFrameHeader encoded version).ok = true) :
    ∃ type extensions, Header encoded version type extensions := by
  simp only [parseFrameHeader, toNat_subspan] at h
  obtain ⟨-, h⟩ := of_ite h rfl
  obtain ⟨hmagic, h⟩ := of_ite h rfl
  obtain ⟨hge, h⟩ := of_ite h rfl
  obtain ⟨hle, h⟩ := of_ite h rfl
  obtain ⟨hbody, h⟩ := of_ite h rfl
  obtain ⟨hflags, h⟩ := of_ite h rfl
  obtain ⟨hmessageId, h⟩ := of_ite h rfl
  obtain ⟨hversion, h⟩ := of_ite h rfl
  cases htype : MessageType.ofCode? (numberAt encoded 8 2) with
  | none =>
    rw [htype] at h
    cases h
  | some type =>
  rw [htype] at h
  obtain ⟨hcovered, h⟩ := of_ite h rfl
  cases hfields : parseTlvs (subspan encoded fixedHeaderLength
      (numberAt encoded 4 2 - fixedHeaderLength)) [] with
  | error error =>
    rw [hfields] at h
    exact absurd h (Bool.eq_false_iff.mp (parseTlvs_refuses _ hfields))
  | ok fields =>
  rw [hfields] at h
  obtain ⟨hconnection, h⟩ := of_ite h rfl
  obtain ⟨htransfer, -⟩ := of_ite h rfl
  obtain ⟨extensions, hextensions, hwell, -⟩ := parseTlvs_ok_iff.mp hfields
  exact ⟨type, extensions,
    { magic_eq := not_not.mp hmagic
      length_ge := Nat.not_lt.mp hge
      length_le := Nat.not_lt.mp hle
      covered := Nat.not_lt.mp hcovered
      version_eq := not_not.mp hversion
      type_eq := (MessageType.code_of_ofCode? htype).symm
      flags := not_not.mp hflags
      scope := ⟨fun hc => not_not.mp fun hne => hconnection ⟨hc, hne⟩,
        fun ht hzero => htransfer ⟨ht, hzero⟩⟩
      messageId := hmessageId
      body_le := Nat.not_lt.mp hbody
      extensions_eq := hextensions
      fields := hwell }⟩

/-- A header that is refused refuses the frame. -/
theorem parseFrame_of_header (h : (parseFrameHeader encoded version).ok = false) :
    parseFrame encoded version = parseFrameHeader encoded version := by
  simp [parseFrame, parseFrameEnvelope, h]

/-- Behind a header that is taken the length and the fields of the body decide. -/
theorem Header.parseFrame_ok_iff (h : Header encoded version type extensions)
    {fields : List FieldView} :
    ((parseFrame encoded version).ok = true ∧
        (parseFrame encoded version).frame.bodyFields = fields) ↔
      encoded.length = numberAt encoded 4 2 + numberAt encoded 24 4 ∧
        parseTlvs (subspan encoded (numberAt encoded 4 2) (numberAt encoded 24 4))
          (schemaFor type) = .ok fields := by
  by_cases htotal : encoded.length = numberAt encoded 4 2 + numberAt encoded 24 4
  · have hlength : (subspan encoded (numberAt encoded 4 2) (numberAt encoded 24 4)).length =
        numberAt encoded 24 4 := by
      rw [subspan, List.length_take, List.length_drop]
      omega
    cases hfields : parseTlvs (subspan encoded (numberAt encoded 4 2) (numberAt encoded 24 4))
        (schemaFor type) with
    | error error =>
      have hbad : error.code ≠ .none := by simpa [Error.ok] using parseTlvs_refuses _ hfields
      simp [parseFrame, parseFrameEnvelope, h.parse, ← htotal, parseFrameBody, hlength, hfields,
        ParseResult.ok, hbad, Error.ok]
    | ok fields =>
      simp [parseFrame, parseFrameEnvelope, h.parse, ← htotal, parseFrameBody, hlength, hfields,
        ParseResult.ok, Error.ok]
  · simp [parseFrame, parseFrameEnvelope, h.parse, htotal, ParseResult.ok, Error.ok]

/-- The parser takes only frames. -/
theorem frame_of_ok (h : (parseFrame encoded version).ok = true) :
    ∃ type extensions body, Frame encoded version type extensions body := by
  have hheader : (parseFrameHeader encoded version).ok = true := by
    by_contra hbad
    rw [parseFrame_of_header (Bool.eq_false_iff.mpr hbad)] at h
    exact hbad h
  obtain ⟨type, extensions, hheader⟩ := header_of_ok hheader
  obtain ⟨htotal, hfields⟩ := hheader.parseFrame_ok_iff.mp ⟨h, rfl⟩
  obtain ⟨body, hbody, hwell, -⟩ := parseTlvs_ok_iff.mp hfields
  exact ⟨type, extensions, body, hheader, htotal, hbody, hwell⟩

/-- An accepted frame has the header that its first bytes say. -/
theorem parseFrame_header (h : (parseFrame encoded version).ok = true) :
    (parseFrameHeader encoded version).ok = true ∧
      encoded.length = (parseFrameHeader encoded version).frame.declaredTotalLength ∧
      (parseFrame encoded version).frame.header =
        (parseFrameHeader encoded version).frame.header ∧
      (parseFrame encoded version).frame.header.version = version := by
  obtain ⟨type, extensions, body, hframe⟩ := frame_of_ok h
  obtain ⟨henvelope, hbody⟩ := parseFrame_ok_iff.mp h
  rw [(parseFrameBody_ok hbody).2, parseFrameEnvelope, hframe.toHeader.parse]
  simp [ParseResult.ok, Error.ok, hframe.total]

theorem subspan_append {part rest : Bytes} {offset length : Nat}
    (h : offset + length ≤ part.length) :
    subspan (part ++ rest) offset length = subspan part offset length := by
  rw [subspan, List.drop_append_of_le_length (by omega),
    List.take_append_of_le_length (by rw [List.length_drop]; omega)]
  rfl

/-- The bytes cover the header: all that it declares, or its fixed part if it declares a length
that no header has. -/
def Covers (part : Bytes) : Prop :=
  fixedHeaderLength ≤ part.length ∧
    (fixedHeaderLength ≤ numberAt part 4 2 → numberAt part 4 2 ≤ maxHeaderLength →
      numberAt part 4 2 ≤ part.length)

/-- What follows the header does not change how it is judged. -/
theorem parseFrameHeader_append {part : Bytes} (hcovers : Covers part) (rest : Bytes) :
    parseFrameHeader (part ++ rest) version = parseFrameHeader part version := by
  obtain ⟨hfixed, hcovers⟩ := hcovers
  have hspan : ∀ offset length, offset + length ≤ 28 →
      subspan (part ++ rest) offset length = subspan part offset length :=
    fun offset length h => subspan_append (h.trans hfixed)
  have hbyte : ∀ offset, offset < 28 →
      ((part ++ rest).drop offset).headD 0 = (part.drop offset).headD 0 := by
    intro offset h
    have hlt : offset < part.length := lt_of_lt_of_le h hfixed
    rw [List.drop_append_of_le_length hlt.le, List.drop_eq_getElem_cons hlt]
    rfl
  have hlong : (part ++ rest).length = part.length + rest.length := List.length_append
  have hfirst : ¬ part.length + rest.length < fixedHeaderLength := by omega
  simp only [parseFrameHeader, hspan 0 4 (by decide), hspan 4 2 (by decide), hspan 8 2 (by decide),
    hspan 10 2 (by decide), hspan 12 4 (by decide), hspan 16 8 (by decide),
    hspan 24 4 (by decide), hbyte 6 (by decide), hbyte 7 (by decide), toNat_subspan, hlong, hfirst,
    Nat.not_lt.mpr hfixed, if_false]
  by_cases hge : numberAt part 4 2 < fixedHeaderLength
  · simp only [hge, if_true]
  by_cases hle : maxHeaderLength < numberAt part 4 2
  · simp only [hge, hle, if_true, if_false]
  have hpart := hcovers (Nat.not_lt.mp hge) (Nat.not_lt.mp hle)
  have hwhole : ¬ part.length + rest.length < numberAt part 4 2 := by omega
  have hextensions : subspan (part ++ rest) fixedHeaderLength
      (numberAt part 4 2 - fixedHeaderLength) =
      subspan part fixedHeaderLength (numberAt part 4 2 - fixedHeaderLength) :=
    subspan_append (by omega)
  simp only [hwhole, Nat.not_lt.mpr hpart, hextensions, List.take_append_of_le_length hpart,
    if_false]
  rfl

/-- The header can be judged before the rest of the frame has arrived. -/
theorem preflight_exact (version : Version) :
    (∀ part, Covers part → (parseFrameHeader part version).ok = false → ∀ rest,
      (parseFrame (part ++ rest) version).ok = false ∧
        (parseFrame (part ++ rest) version).error.code =
          (parseFrameHeader part version).error.code) ∧
    (∀ part, Covers part → (parseFrameHeader part version).ok = true → ∀ rest,
      (parseFrame (part ++ rest) version).ok = true →
        (part ++ rest).length = (parseFrameHeader part version).frame.declaredTotalLength) ∧
    ∀ encoded, (parseFrame encoded version).ok = true → ∀ part, part <+: encoded → Covers part →
      (parseFrameHeader part version).ok = true ∧
      encoded.length = (parseFrameHeader part version).frame.declaredTotalLength ∧
      (parseFrame encoded version).frame.header = (parseFrameHeader part version).frame.header := by
  refine ⟨fun part hcovers h rest => ?_, fun part hcovers _ rest h => ?_, ?_⟩
  · rw [← parseFrameHeader_append hcovers rest] at h ⊢
    rw [parseFrame_of_header h]
    exact ⟨h, rfl⟩
  · rw [← parseFrameHeader_append hcovers rest]
    exact (parseFrame_header h).2.1
  rintro _ h part ⟨rest, rfl⟩ hcovers
  rw [← parseFrameHeader_append hcovers rest]
  obtain ⟨hok, hlength, hheader, -⟩ := parseFrame_header h
  exact ⟨hok, hlength, hheader⟩

end Exact

end XnnTransfer.Protocol
