import Mathlib.Algebra.Order.BigOperators.Group.List
import Mathlib.Data.List.Nodup
import Mathlib.Data.List.Perm.Subperm
import XnnTransfer.Transfer.MessageIds

/-!
# What the frame encoders produce

Fields that conform to the schema of a message type are few and short: they always fit
into a body. So `EncodeFrame` takes every such list, and the parser gives it back. The
encoder of chunk frames writes its last two fields past the builder; it does what
`EncodeFrame` does with the same five fields.
-/

namespace XnnTransfer.Transfer

open Protocol

namespace ConnectionMessageSequence

/-- The states that a sequence comes to. -/
inductive Reached : ConnectionMessageSequence → Prop
  | create (outbound inbound : UInt64) : Reached (create outbound inbound)
  | nextOutbound {ids : ConnectionMessageSequence} (before : Reached ids) :
      Reached ids.nextOutbound.2
  | observeInbound {ids : ConnectionMessageSequence} (before : Reached ids) (messageId : Nat) :
      Reached (ids.observeInbound messageId).2

theorem Reached.poised {ids : ConnectionMessageSequence} (h : Reached ids) :
    Poised ids.upcoming ids := by
  refine ⟨?_, rfl⟩
  induction h with
  | create outbound inbound =>
    by_cases hzero : outbound = 0
    · simp [ConnectionMessageSequence.create, upcoming, hzero]
    · rw [upcoming_create _ _ hzero]
      exact Nat.pos_of_ne_zero (toNat_ne_zero hzero)
  | @nextOutbound ids before ih =>
    cases hnext : ids.nextOutbound with
    | mk id next =>
      cases id with
      | none => rwa [nextOutbound_none hnext]
      | some id =>
        rw [(nextOutbound_some hnext).2.1]
        exact Nat.succ_pos _
  | observeInbound before messageId ih => rwa [upcoming_observeInbound]

end ConnectionMessageSequence

/-! ### Chunk frames -/

section Chunks

variable {ids : ConnectionMessageSequence} {transferId data commitment : Bytes}

/-- The encoder of chunk frames and the general one return the same frame and leave the same
sequence behind. It has moved by one number exactly if there is a frame. -/
theorem encodeFileChunkFrame_refines (memory : Bool) (context : TransferContext)
    (hids : ids.Reached) (hid : transferId.length = transferIdSize) (offset : Nat)
    (hdata : 1 ≤ data.length ∧ data.length ≤ 1048000)
    (hcommitment : 16 ≤ commitment.length ∧ commitment.length ≤ 64) :
    let chunk := encodeFileChunkFrame memory context ids transferId offset data commitment
    let general := encodeFrame memory context .fileChunk ids
      (.ofFields (chunkFields transferId offset data commitment))
    (chunk.1.isSome = true ↔ general.1.isSome = true) ∧ chunk.1 = general.1 ∧
      chunk.2 = general.2 ∧ (chunk.1 = none → chunk.2 = ids) ∧
      ∀ frame, chunk.1 = some frame → chunk.2.upcoming = ids.upcoming + 1 := by
  intro chunk general
  have hleading : (BodyBuilder.ofFields
      [bytesField 1 transferId, u32Field 2 0, u64Field 3 offset]).ok = true :=
    BodyBuilder.ok_ofFields (by simp [bytesField, u32Field, u64Field, field])
      (by simp [bytesField, u32Field, u64Field, field])
      (by simp [length_encodeTlv, bytesField, u32Field, u64Field, field, hid, transferIdSize,
        maxBodyLength])
  have hsame : chunk = general := by
    refine (encodeFileChunkFrame_eq ..).trans (if_neg ?_)
    have hnonempty : data ≠ [] := List.ne_nil_of_length_pos hdata.1
    simp [hleading, hnonempty, validCommitment, hcommitment, maximumChunkSize, hdata.2]
  have hencodes : Encodes ids chunk.1 chunk.2 := encodes_encodeFileChunkFrame rfl
  refine ⟨by rw [hsame], by rw [hsame], by rw [hsame], hencodes.kept _ hids.poised, ?_⟩
  intro frame hframe
  exact (hencodes.taken _ frame hids.poised hframe).upcoming

theorem encodeFileChunkFrame_refines_small :
    let context : TransferContext := { streamId := 1 }
    let ids := ConnectionMessageSequence.create 1 1
    let transferId : Bytes := List.replicate 16 1
    let commitment : Bytes := List.replicate 16 2
    (encodeFileChunkFrame true context ids transferId 0 [7] commitment).1.isSome = true ∧
      (encodeFrame true context .fileChunk ids
        (.ofFields (chunkFields transferId 0 [7] commitment))).1.isSome = true := by
  intro context ids transferId commitment
  have hsome : (encodeFileChunkFrame true context ids transferId 0 [7] commitment).1.isSome =
      true := by decide +kernel
  exact ⟨hsome, (encodeFileChunkFrame_refines true context (.create 1 1) rfl 0 (by decide)
    (by decide)).1.mp hsome⟩

end Chunks

/-! ### Round trip -/

/-- The most bytes that a field with this rule takes. -/
def room (rule : FieldRule) : Nat :=
  8 + if fixedWireLength rule.wireType ≠ 0 then fixedWireLength rule.wireType
    else rule.maximumLength

theorem sum_room_schemaFor (type : MessageType) :
    ((schemaFor type).map room).sum ≤ maxBodyLength ∧ (schemaFor type).length ≤ maxFields := by
  cases type <;> decide

section RoundTrip

variable {schema : List FieldRule} {fields : List FieldView}

theorem length_le_room {field : FieldView} (h : Conforms schema field) :
    ∃ rule ∈ schema, rule.id = field.id ∧ (encodeTlv field).length ≤ room rule := by
  obtain ⟨rule, hrule, -, hwire, -, hlength⟩ := h.rule
  refine ⟨rule, List.mem_of_find?_eq_some hrule, by simpa using List.find?_some hrule, ?_⟩
  rw [length_encodeTlv, room, ← hwire]
  split
  · rename_i hfixed
    by_contra hlong
    have hvalue := h.value
    rw [validateWireValue, if_pos ⟨hfixed, by omega⟩] at hvalue
    cases hvalue
  · omega

/-- Conforming fields in increasing order use each rule once. -/
theorem length_encodeTlvs_le (hconf : ∀ field ∈ fields, Conforms schema field)
    (hsorted : fields.Pairwise fun a b => a.id < b.id) :
    (encodeTlvs fields).length ≤ (schema.map room).sum ∧ fields.length ≤ schema.length := by
  obtain ⟨rules, hrules, hids, hlength⟩ : ∃ rules : List FieldRule, rules ⊆ schema ∧
      rules.map FieldRule.id = fields.map FieldView.id ∧
      (encodeTlvs fields).length ≤ (rules.map room).sum := by
    clear hsorted
    induction fields with
    | nil => exact ⟨[], by simp, rfl, by simp⟩
    | cons field rest ih =>
      obtain ⟨rules, hsubset, hids, hlength⟩ := ih fun f hf => hconf f (List.mem_cons_of_mem _ hf)
      obtain ⟨rule, hrule, hid, hroom⟩ := length_le_room (hconf field List.mem_cons_self)
      refine ⟨rule :: rules, List.cons_subset.mpr ⟨hrule, hsubset⟩, by simp [hid, hids], ?_⟩
      simp only [encodeTlvs_cons, List.length_append, List.map_cons, List.sum_cons]
      omega
  have hnodup : rules.Nodup := by
    refine List.Nodup.of_map FieldRule.id ?_
    rw [hids, List.Nodup, List.pairwise_map]
    exact hsorted.imp Nat.ne_of_lt
  obtain ⟨part, hperm, hsublist⟩ := List.subperm_of_subset hnodup hrules
  have hsame := congrArg List.length hids
  rw [List.length_map, List.length_map] at hsame
  refine ⟨hlength.trans ?_, ?_⟩
  · rw [← (hperm.map room).sum_eq]
    exact (hsublist.map room).sum_le_sum fun _ _ => Nat.zero_le _
  · rw [← hsame, ← hperm.length_eq]
    exact hsublist.length_le

/-- A frame in scope with a well-formed body parses to what was put in. -/
theorem parseFrame_frameBytes {version : Version} {type : MessageType} {streamId : Nat}
    {messageId : UInt64} (hnonzero : messageId ≠ 0) (hstream : streamId < 256 ^ 4)
    (hscope : ScopeOk type streamId) (hlength : (encodeTlvs fields).length ≤ maxBodyLength)
    (hparsed : parseTlvs (encodeTlvs fields) (schemaFor type) = .ok fields) :
    parseFrame (frameBytes version type streamId messageId.toNat (encodeTlvs fields)) version =
      { frame := { plainFrame version type streamId messageId.toNat (encodeTlvs fields) with
          bodyFields := fields } } := by
  simp [parseFrame, parseFrameEnvelope_frameBytes (toNat_lt messageId) (toNat_ne_zero hnonzero)
    hlength hstream hscope, parseFrameBody_plainFrame hparsed, ParseResult.ok, Error.ok]

/-- Fields that conform to the schema of a message type are encoded, and the parser reads the
same fields from the frame, with the type, the stream and the number it was given. -/
theorem parseFrame_encodeFrame {context : TransferContext} {type : MessageType}
    {ids : ConnectionMessageSequence} (hids : ids.Reached) (hleft : ids.outboundExhausted = false)
    (hstream : context.streamId < 2 ^ 32) (hscope : ScopeOk type context.streamId)
    (htyped : ∀ field ∈ fields, field.id < 2 ^ 16 ∧ (field.flags = 0 ∨ field.flags = 1))
    (hpos : ∀ field ∈ fields, field.id ≠ 0) (hsorted : fields.Pairwise fun a b => a.id < b.id)
    (hconf : ∀ field ∈ fields, Conforms (schemaFor type) field)
    (hrequired : ∀ rule ∈ schemaFor type, rule.presence = .required →
      ∃ field ∈ fields, field.id = rule.id)
    (hlimit : (encodeTlvs fields).length ≤ context.limits.maximumBody) :
    ∃ frame messageId next,
      encodeFrame true context type ids (.ofFields fields) = (some frame, next) ∧
      ids.nextOutbound = (some messageId, next) ∧
      (parseFrame frame context.version).ok = true ∧
      (parseFrame frame context.version).frame.header.messageType = type ∧
      (parseFrame frame context.version).frame.header.streamId = context.streamId ∧
      (parseFrame frame context.version).frame.header.messageId = messageId.toNat ∧
      (parseFrame frame context.version).frame.bodyFields = fields := by
  obtain ⟨hroom, hfew⟩ := length_encodeTlvs_le hconf hsorted
  obtain ⟨hsum, hcount⟩ := sum_room_schemaFor type
  have hlength := hroom.trans hsum
  have hencodable : ∀ field ∈ fields, field.Encodable := by
    intro field hfield
    refine ⟨(htyped field hfield).1, ?_, (htyped field hfield).2⟩
    have hpart := (List.sublist_flatten_of_mem (List.mem_map_of_mem (f := encodeTlv)
      hfield)).length_le
    rw [length_encodeTlv, ← List.flatMap_def] at hpart
    have hmax : maxBodyLength < 4294967296 := by decide
    change _ ≤ (encodeTlvs fields).length at hpart
    omega
  have hparsed : parseTlvs (encodeTlvs fields) (schemaFor type) = .ok fields := by
    refine parseTlvs_ok_iff.mpr ⟨fields, rfl, ⟨hfew.trans hcount, hencodable,
      hsorted.imp Nat.le_of_lt, ?_, ?_, hrequired⟩, ?_⟩
    · exact fun field hfield => (conforms_iff.mp (hconf field hfield)).1
    · exact hsorted.imp fun hlt hsame => absurd hsame (Nat.ne_of_lt hlt)
    · exact (List.filter_eq_self.mpr fun f hf => (conforms_iff.mp (hconf f hf)).2).symm
  have hok := BodyBuilder.ok_ofFields hpos hsorted hlength
  have hparse : ∀ messageId : UInt64, messageId ≠ 0 → _ := fun messageId hnonzero =>
    @parseFrame_frameBytes fields context.version type context.streamId messageId hnonzero
      hstream hscope hlength hparsed
  have hproper : ids.nextOutboundId ≠ 0 := by
    have := hids.poised.pos
    rw [ConnectionMessageSequence.upcoming, hleft] at this
    rintro hzero
    simp [hzero] at this
  obtain ⟨next, hnext⟩ : ∃ next, ids.nextOutbound = (some ids.nextOutboundId, next) := by
    rw [ConnectionMessageSequence.nextOutbound, hleft]
    simp only [Bool.false_eq_true, if_false]
    split <;> exact ⟨_, rfl⟩
  refine ⟨frameBytes context.version type context.streamId ids.nextOutboundId.toNat
    (encodeTlvs fields), ids.nextOutboundId, next, ?_, hnext, ?_⟩
  · rw [encodeFrame, (BodyBuilder.holds_ofFields hok).bytes_eq, if_neg (by simp [hok]; omega),
      numberFrame, show (1 : Nat) = (1 : UInt64).toNat from rfl, hparse 1 (by decide)]
    simp [hnext, hproper, plainFrame, ParseResult.ok, Error.ok]
  · rw [hparse _ hproper]
    exact ⟨rfl, rfl, rfl, rfl, rfl⟩

theorem parseFrame_encodeFrame_cancel :
    let fields := cancelFields (List.replicate 16 1)
    ∃ frame, (encodeFrame true { streamId := 1 } .cancel (.create 1 1) (.ofFields fields)).1 =
        some frame ∧
      (parseFrame frame {}).ok = true ∧ (parseFrame frame {}).frame.bodyFields = fields := by
  intro fields
  have hconf : ∀ field ∈ fields, Conforms (schemaFor .cancel) field := by
    refine List.forall_mem_cons.mpr ⟨?_, List.forall_mem_singleton.mpr ?_⟩
    · exact ⟨⟨required 1 .bytes false 16 16, rfl, by decide, rfl, by decide, by decide⟩, by decide⟩
    · exact ⟨⟨required 2 .u16, rfl, by decide, rfl, by decide, by decide⟩, by decide⟩
  obtain ⟨frame, messageId, next, hframe, -, hok, -, -, -, hfields⟩ :=
    @parseFrame_encodeFrame fields { streamId := 1 } .cancel _ (.create 1 1) rfl (by decide)
      ⟨nofun, fun _ => by decide⟩ (by decide) (by decide) (by decide) hconf (by decide) (by decide)
  exact ⟨frame, congrArg Prod.fst hframe, hok, hfields⟩

end RoundTrip

end XnnTransfer.Transfer
