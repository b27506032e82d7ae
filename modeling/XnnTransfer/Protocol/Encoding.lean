import XnnTransfer.Library.Guards
import XnnTransfer.Protocol.Parser

/-!
# Parsing what was encoded

The byte layout of a field and of a frame, and what the parser makes of it. The
field loop takes exactly the encodings of fields in order; run on them it is the
fold of `acceptField`, which drops the fields the schema does not know.
-/

namespace XnnTransfer.Protocol

open Guards

/-- One field as `BodyBuilder::Add` appends it. -/
def encodeTlv (field : FieldView) : Bytes :=
  BigEndian.ofNat 2 field.id ++ (BigEndian.ofNat 1 field.wireType.code ++
    (field.flags :: (BigEndian.ofNat 4 field.value.length ++ field.value)))

def encodeTlvs (fields : List FieldView) : Bytes := fields.flatMap encodeTlv

@[simp] theorem encodeTlvs_nil : encodeTlvs [] = [] := rfl

@[simp] theorem encodeTlvs_cons (field : FieldView) (rest : List FieldView) :
    encodeTlvs (field :: rest) = encodeTlv field ++ encodeTlvs rest := rfl

theorem encodeTlvs_append (first second : List FieldView) :
    encodeTlvs (first ++ second) = encodeTlvs first ++ encodeTlvs second := by
  simp [encodeTlvs]

theorem length_encodeTlv (field : FieldView) :
    (encodeTlv field).length = 8 + field.value.length := by
  simp [encodeTlv]
  omega

/-- The field fits the fixed-width parts of its encoding. -/
structure FieldView.Encodable (field : FieldView) : Prop where
  id_lt : field.id < 65536
  length_lt : field.value.length < 4294967296
  flags_eq : field.flags = 0 ∨ field.flags = 1

variable {field : FieldView} {previousId : Option Nat} {output : List FieldView}
  {schema : List FieldRule} {data : Bytes} {error : Error}

/-- Splitting an encoded field off the data gives the field back. -/
theorem readTlv_encodeTlv (h : field.Encodable)
    (hprevious : ∀ previous ∈ previousId, previous ≤ field.id) (rest : Bytes) :
    readTlv (encodeTlv field ++ rest) previousId = .ok (field, rest) := by
  have hid : BigEndian.toNat (subspan (encodeTlv field ++ rest) 0 2) = field.id :=
    @BigEndian.toNat_ofNat 2 _ (by simpa using h.id_lt)
  have hwire : BigEndian.toNat (subspan (encodeTlv field ++ rest) 2 1) = field.wireType.code :=
    @BigEndian.toNat_ofNat 1 _ (by simpa using field.wireType.code_lt)
  have hlength :
      BigEndian.toNat (subspan (encodeTlv field ++ rest) 4 4) = field.value.length :=
    @BigEndian.toNat_ofNat 4 _ (by simpa using h.length_lt)
  have hflags : ((encodeTlv field ++ rest).drop 3).headD 0 = field.flags := rfl
  have hdrop : (encodeTlv field ++ rest).drop 8 = field.value ++ rest := rfl
  have hlong : ¬ (encodeTlv field ++ rest).length < 8 := by
    simp [length_encodeTlv]
    omega
  have horder : previousId.any (fun previous => decide (field.id < previous)) = false := by
    cases previousId with
    | none => rfl
    | some previous => simpa using hprevious previous rfl
  have hreserved : ¬ (field.flags &&& 0xfe ≠ 0) := by
    rcases h.flags_eq with hf | hf <;> rw [hf] <;> decide
  simp only [readTlv, hid, hwire, hlength, hflags, hdrop, hlong, horder, hreserved,
    WireType.ofCode?_code, if_false, Bool.false_eq_true]
  simp

variable {allowed : Nat} {collected fields : List FieldView}

/-- The field loop on encoded fields folds `acceptField` over them. -/
theorem parseTlvLoop_encodeTlvs (schema : List FieldRule) (fields : List FieldView)
    (hcount : fields.length ≤ allowed) (henc : ∀ field ∈ fields, field.Encodable)
    (hsorted : fields.Pairwise fun a b => a.id ≤ b.id)
    (hprevious : ∀ previous ∈ previousId, ∀ field ∈ fields, previous ≤ field.id) :
    parseTlvLoop schema allowed (encodeTlvs fields) previousId output =
      fields.foldlM (fun output field => acceptField schema field output) output := by
  induction fields generalizing allowed previousId output with
  | nil => cases allowed <;> rfl
  | cons field rest ih =>
    cases allowed with
    | zero => simp at hcount
    | succ allowed =>
      have hfield := henc field (by simp)
      have hread : readTlv (encodeTlv field ++ encodeTlvs rest) previousId =
          .ok (field, encodeTlvs rest) :=
        readTlv_encodeTlv hfield (fun previous hp => hprevious previous hp field (by simp)) _
      have hne : (encodeTlv field ++ encodeTlvs rest).isEmpty = false := rfl
      rw [List.pairwise_cons] at hsorted
      simp only [encodeTlvs_cons, parseTlvLoop, hne, hread, List.foldlM_cons,
        Bool.false_eq_true, if_false]
      cases haccept : acceptField schema field output with
      | error error => rfl
      | ok next =>
        apply ih (by simpa using hcount) (fun f hf => henc f (by simp [hf])) hsorted.2
        intro previous hp f hf
        cases hp
        exact hsorted.1 f hf

theorem flags_of_reserved {flags : UInt8} (h : flags &&& 0xfe = 0) : flags = 0 ∨ flags = 1 := by
  have hall : ∀ v : Fin 256,
      UInt8.ofFin v &&& 0xfe = 0 → UInt8.ofFin v = 0 ∨ UInt8.ofFin v = 1 := by
    decide +kernel
  exact hall flags.toFin h

/-- What is split off the data is the encoding of a field. -/
theorem readTlv_ok {rest : Bytes} (h : readTlv data previousId = .ok (field, rest)) :
    data = encodeTlv field ++ rest ∧ field.Encodable ∧
      ∀ previous ∈ previousId, previous ≤ field.id := by
  simp only [readTlv] at h
  split at h
  · cases h
  rename_i hlong
  obtain ⟨b0, b1, b2, b3, b4, b5, b6, b7, tail, rfl⟩ : ∃ b0 b1 b2 b3 b4 b5 b6 b7 tail,
      data = b0 :: b1 :: b2 :: b3 :: b4 :: b5 :: b6 :: b7 :: tail := by
    rcases data with _ | ⟨b0, _ | ⟨b1, _ | ⟨b2, _ | ⟨b3, _ | ⟨b4, _ | ⟨b5, _ | ⟨b6, _ |
      ⟨b7, tail⟩⟩⟩⟩⟩⟩⟩⟩
    case cons.cons.cons.cons.cons.cons.cons.cons => exact ⟨_, _, _, _, _, _, _, _, tail, rfl⟩
    all_goals simp at hlong
  simp only [subspan, List.drop_succ_cons, List.drop_zero, List.take_succ_cons, List.take_zero,
    List.headD_cons] at h
  split at h
  · cases h
  rename_i horder
  split at h
  · cases h
  rename_i wireType hwire
  split at h
  · cases h
  rename_i hflags
  split at h <;> cases h
  rename_i hvalue
  have hlength := List.length_take_of_le (Nat.not_lt.mp hvalue)
  refine ⟨?_, ⟨by simpa using BigEndian.toNat_lt [b0, b1], ?_,
    flags_of_reserved (not_not.mp hflags)⟩, ?_⟩
  · simp only [encodeTlv, hlength, WireType.code_of_ofCode? hwire]
    rw [show BigEndian.ofNat 2 _ = _ from BigEndian.ofNat_toNat [b0, b1],
      show BigEndian.ofNat 1 _ = _ from BigEndian.ofNat_toNat [b2],
      show BigEndian.ofNat 4 _ = _ from BigEndian.ofNat_toNat [b4, b5, b6, b7]]
    simp
  · rw [hlength]
    simpa using BigEndian.toNat_lt [b4, b5, b6, b7]
  intro previous hprevious
  rw [Option.mem_def.mp hprevious] at horder
  simpa using horder

/-- The field loop takes the encodings of fields in order, and nothing else. -/
theorem parseTlvLoop_ok (h : parseTlvLoop schema allowed data previousId output = .ok collected) :
    ∃ fields, data = encodeTlvs fields ∧ fields.length ≤ allowed ∧
      (∀ field ∈ fields, field.Encodable) ∧ (fields.Pairwise fun a b => a.id ≤ b.id) ∧
      (∀ previous ∈ previousId, ∀ field ∈ fields, previous ≤ field.id) ∧
      fields.foldlM (fun output field => acceptField schema field output) output =
        .ok collected := by
  induction allowed generalizing data previousId output with
  | zero =>
    simp only [parseTlvLoop] at h
    split at h <;> cases h
    exact ⟨[], List.isEmpty_iff.mp ‹_›, by simp, by simp, by simp, by simp, rfl⟩
  | succ allowed ih =>
    simp only [parseTlvLoop] at h
    split at h
    · cases h
      exact ⟨[], List.isEmpty_iff.mp ‹_›, by simp, by simp, by simp, by simp, rfl⟩
    split at h
    · cases h
    rename_i first rest hread
    split at h
    · cases h
    rename_i next haccept
    obtain ⟨rfl, hencodable, hprevious⟩ := readTlv_ok hread
    obtain ⟨fields, rfl, hcount, hall, hsorted, hfirst, hfold⟩ := ih h
    refine ⟨first :: fields, rfl, by simpa using hcount,
      List.forall_mem_cons.mpr ⟨hencodable, hall⟩,
      List.pairwise_cons.mpr ⟨hfirst first.id rfl, hsorted⟩, fun previous hmem => ?_, ?_⟩
    · refine List.forall_mem_cons.mpr ⟨hprevious previous hmem, fun f hf => ?_⟩
      exact (hprevious previous hmem).trans (hfirst first.id rfl f hf)
    · rw [List.foldlM_cons, haccept]
      exact hfold

/-- The checks that look at one field. -/
def Acceptable (schema : List FieldRule) (field : FieldView) : Prop :=
  (validateWireValue field.wireType field.value).ok = true ∧
    match findRule schema field.id with
    | none => field.critical = false
    | some rule => (rule.presence = .optional ↔ field.critical = false) ∧
      field.wireType = rule.wireType ∧
      rule.minimumLength ≤ field.value.length ∧ field.value.length ≤ rule.maximumLength

/-- The second field may follow the first. -/
def Repeats (schema : List FieldRule) (first second : FieldView) : Prop :=
  first.id = second.id → ∀ rule ∈ findRule schema second.id, rule.repeated = true

def known (schema : List FieldRule) (field : FieldView) : Bool :=
  (findRule schema field.id).isSome

/-- The loop body takes an acceptable field and keeps it if the schema knows it. -/
theorem acceptField_ok_iff {next : List FieldView} :
    acceptField schema field output = .ok next ↔
      Acceptable schema field ∧ (∀ previous ∈ output, Repeats schema previous field) ∧
        next = output ++ [field].filter (known schema) := by
  have hcount : countFields output field.id = 0 ↔
      ∀ previous ∈ output, previous.id ≠ field.id := by
    simp [countFields, List.countP_eq_zero]
  unfold acceptField Acceptable Repeats
  cases hrule : findRule schema field.id with
  | none =>
    have hunknown : known schema field = false := by simp [known, hrule]
    grind
  | some rule =>
    have hknown : known schema field = true := by simp [known, hrule]
    unfold checkKnownField
    grind [Error.ok]

/-- The fold of the loop body keeps the fields the schema knows. -/
theorem foldlM_acceptField_ok_iff :
    fields.foldlM (fun output field => acceptField schema field output) output = .ok collected ↔
      (∀ field ∈ fields, Acceptable schema field) ∧ fields.Pairwise (Repeats schema) ∧
        (∀ previous ∈ output, ∀ field ∈ fields, Repeats schema previous field) ∧
        collected = output ++ fields.filter (known schema) := by
  induction fields generalizing output with
  | nil => simp [pure, Except.pure, eq_comm]
  | cons field rest ih =>
    rw [List.foldlM_cons]
    constructor
    · intro h
      cases haccept : acceptField schema field output with
      | error error =>
        rw [haccept] at h
        cases h
      | ok next =>
        rw [haccept] at h
        obtain ⟨hfield, hnew, rfl⟩ := acceptField_ok_iff.mp haccept
        obtain ⟨hall, hpairs, hold, rfl⟩ := ih.mp h
        refine ⟨List.forall_mem_cons.mpr ⟨hfield, hall⟩, ?_, fun previous hmem => ?_, ?_⟩
        · refine List.pairwise_cons.mpr ⟨fun second hsecond hsame rule hrule => ?_, hpairs⟩
          refine hold field ?_ second hsecond hsame rule hrule
          refine List.mem_append_right _ (List.mem_filter.mpr ⟨List.mem_singleton_self _, ?_⟩)
          rw [known, hsame, Option.mem_def.mp hrule]
          rfl
        · exact List.forall_mem_cons.mpr ⟨hnew previous hmem,
            hold previous (List.mem_append_left _ hmem)⟩
        · rw [List.append_assoc, ← List.filter_append, List.singleton_append]
    · rintro ⟨hall, hpairs, hold, rfl⟩
      rw [List.forall_mem_cons] at hall
      rw [List.pairwise_cons] at hpairs
      rw [acceptField_ok_iff.mpr ⟨hall.1, fun previous hmem =>
        hold previous hmem field List.mem_cons_self, rfl⟩]
      refine ih.mpr ⟨hall.2, hpairs.2, fun previous hmem second hsecond => ?_, ?_⟩
      · rcases List.mem_append.mp hmem with hmem | hmem
        · exact hold previous hmem second (List.mem_cons_of_mem _ hsecond)
        · rw [List.mem_singleton.mp (List.mem_filter.mp hmem).1]
          exact hpairs.1 second hsecond
      · rw [List.append_assoc, ← List.filter_append, List.singleton_append]

/-- The fields are a body in the sense of the schema. -/
structure Body (schema : List FieldRule) (fields : List FieldView) : Prop where
  count : fields.length ≤ maxFields
  encodable : ∀ field ∈ fields, field.Encodable
  sorted : fields.Pairwise fun a b => a.id ≤ b.id
  acceptable : ∀ field ∈ fields, Acceptable schema field
  single : fields.Pairwise (Repeats schema)
  required : ∀ rule ∈ schema, rule.presence = .required → ∃ field ∈ fields, field.id = rule.id

theorem hasRequiredFields_iff :
    hasRequiredFields schema (fields.filter (known schema)) = true ↔
      ∀ rule ∈ schema, rule.presence = .required → ∃ field ∈ fields, field.id = rule.id := by
  have hknown : ∀ rule ∈ schema, ∀ field : FieldView, field.id = rule.id →
      known schema field = true := by
    intro rule hrule field hid
    rw [known, findRule, List.find?_isSome]
    exact ⟨rule, hrule, by simp [hid]⟩
  simp only [hasRequiredFields, List.all_eq_true, Bool.or_eq_true, decide_eq_true_eq, ne_eq]
  refine forall₂_congr fun rule hrule => ?_
  have hcount : ¬ countFields (fields.filter (known schema)) rule.id = 0 ↔
      ∃ field ∈ fields, field.id = rule.id := by
    rw [countFields, List.countP_eq_zero]
    grind
  rw [hcount, imp_iff_not_or]

/-- The parser takes exactly the bodies of the schema and keeps the fields it knows. -/
theorem parseTlvs_ok_iff :
    parseTlvs data schema = .ok collected ↔
      ∃ fields, data = encodeTlvs fields ∧ Body schema fields ∧
        collected = fields.filter (known schema) := by
  unfold parseTlvs
  constructor
  · intro h
    split at h
    · cases h
    rename_i hloop
    split at h <;> cases h
    rename_i hrequired
    obtain ⟨fields, hdata, hcount, hall, hsorted, -, hfold⟩ := parseTlvLoop_ok hloop
    obtain ⟨hacceptable, hsingle, -, rfl⟩ := foldlM_acceptField_ok_iff.mp hfold
    exact ⟨fields, hdata, ⟨hcount, hall, hsorted, hacceptable, hsingle,
      hasRequiredFields_iff.mp hrequired⟩, rfl⟩
  · rintro ⟨fields, rfl, hbody, rfl⟩
    rw [parseTlvLoop_encodeTlvs schema fields hbody.count hbody.encodable hbody.sorted (by simp),
      foldlM_acceptField_ok_iff.mpr ⟨hbody.acceptable, hbody.single, by simp, rfl⟩]
    exact if_pos (hasRequiredFields_iff.mpr hbody.required)

/-- The field has a rule and passes every check of it but the duplicate one. -/
structure Conforms (schema : List FieldRule) (field : FieldView) : Prop where
  rule : ∃ rule, findRule schema field.id = some rule ∧
    (rule.presence = .optional ↔ field.critical = false) ∧
    field.wireType = rule.wireType ∧
    rule.minimumLength ≤ field.value.length ∧ field.value.length ≤ rule.maximumLength
  value : (validateWireValue field.wireType field.value).ok = true

theorem conforms_iff : Conforms schema field ↔
    Acceptable schema field ∧ known schema field = true := by
  constructor
  · rintro ⟨⟨rule, hrule, hchecks⟩, hvalue⟩
    rw [Acceptable, known, hrule]
    exact ⟨⟨hvalue, hchecks⟩, rfl⟩
  rintro ⟨hacceptable, hknown⟩
  obtain ⟨rule, hrule⟩ := Option.isSome_iff_exists.mp hknown
  rw [Acceptable, hrule] at hacceptable
  exact ⟨⟨rule, hrule, hacceptable.2⟩, hacceptable.1⟩

theorem Error.ok_ite_iff {p : Prop} [Decidable p] {refusal rest : Error}
    (h : refusal.ok = false) : (if p then refusal else rest).ok = true ↔ ¬p ∧ rest.ok = true := by
  by_cases hp : p <;> simp [hp, h]

/-- Splitting a field off fails with an error. -/
theorem readTlv_refuses : Refuses (·.ok = false) (readTlv data previousId) := by
  refine .ite (fun _ => rfl) (.ite (fun _ => rfl) ?_)
  split
  · exact .error rfl
  · exact .ite (fun _ => rfl) (.ite (fun _ => rfl) (.ok _))

theorem acceptField_refuses : Refuses (·.ok = false) (acceptField schema field output) := by
  unfold acceptField
  split
  · exact .ite (fun _ => rfl) (.unless Bool.eq_false_iff.mpr (.ok _))
  · exact .unless Bool.eq_false_iff.mpr (.unless Bool.eq_false_iff.mpr (.ok _))

theorem parseTlvLoop_refuses :
    Refuses (·.ok = false) (parseTlvLoop schema allowed data previousId output) := by
  induction allowed generalizing data previousId output with
  | zero => exact .unless (fun _ => rfl) (.ok _)
  | succ allowed ih =>
    unfold parseTlvLoop
    split
    · exact .ok _
    split
    next hread => exact .error (readTlv_refuses _ hread)
    split
    next haccept => exact .error (acceptField_refuses _ haccept)
    · exact ih

/-- A failed body parse carries an error code. -/
theorem parseTlvs_refuses : Refuses (·.ok = false) (parseTlvs data schema) := by
  unfold parseTlvs
  split
  next hloop => exact .error (parseTlvLoop_refuses _ hloop)
  · exact .unless (fun _ => rfl) (.ok _)

variable (version : Version) (type : MessageType) (streamId messageId : Nat) (body : Bytes)

/-- A frame with a plain fixed header, as `EncodeFrame` writes it. -/
def frameBytes : Bytes :=
  magic ++ (BigEndian.ofNat 2 fixedHeaderLength ++ (version.major :: version.minor ::
    (BigEndian.ofNat 2 type.code ++ (BigEndian.ofNat 2 0 ++ (BigEndian.ofNat 4 streamId ++
      (BigEndian.ofNat 8 messageId ++ (BigEndian.ofNat 4 body.length ++ body)))))))

theorem length_frameBytes :
    (frameBytes version type streamId messageId body).length = 28 + body.length := by
  simp [frameBytes, magic]
  omega

section FrameSlices

variable (version : Version) (type : MessageType) (streamId messageId : Nat) (body : Bytes)

theorem frame_magic : subspan (frameBytes version type streamId messageId body) 0 4 = magic := rfl

theorem frame_headerLength :
    BigEndian.toNat (subspan (frameBytes version type streamId messageId body) 4 2) = 28 :=
  @BigEndian.toNat_ofNat 2 28 (by decide)

theorem frame_version :
    (⟨((frameBytes version type streamId messageId body).drop 6).headD 0,
      ((frameBytes version type streamId messageId body).drop 7).headD 0⟩ : Version) =
      version := rfl

theorem frame_type :
    BigEndian.toNat (subspan (frameBytes version type streamId messageId body) 8 2) =
      type.code :=
  @BigEndian.toNat_ofNat 2 _ (by simpa using type.code_lt)

theorem frame_flags :
    BigEndian.toNat (subspan (frameBytes version type streamId messageId body) 10 2) = 0 :=
  @BigEndian.toNat_ofNat 2 0 (by decide)

theorem frame_streamId :
    BigEndian.toNat (subspan (frameBytes version type streamId messageId body) 12 4) =
      streamId % 256 ^ 4 :=
  BigEndian.toNat_ofNat_mod 4 streamId

theorem frame_messageId :
    BigEndian.toNat (subspan (frameBytes version type streamId messageId body) 16 8) =
      messageId % 256 ^ 8 :=
  BigEndian.toNat_ofNat_mod 8 messageId

theorem frame_bodyLength :
    BigEndian.toNat (subspan (frameBytes version type streamId messageId body) 24 4) =
      body.length % 256 ^ 4 :=
  BigEndian.toNat_ofNat_mod 4 body.length

theorem frame_body :
    subspan (frameBytes version type streamId messageId body) 28 body.length = body := by
  exact List.take_length

end FrameSlices

/-- The stream identifier is the kind the message type asks for. -/
def ScopeOk (type : MessageType) (streamId : Nat) : Prop :=
  (isConnectionMessage type = true → streamId = 0) ∧ (isTransferMessage type = true → streamId ≠ 0)

/-- The parsed header of a plain frame. -/
def plainFrame (version : Version) (type : MessageType) (streamId messageId : Nat)
    (body : Bytes) : ParsedFrame :=
  { header := ⟨28, version, type, 0, streamId, messageId, body.length⟩
    declaredTotalLength := 28 + body.length
    raw := frameBytes version type streamId messageId body
    body := body }

/-- The header checks on a plain frame come down to the scope of its stream. -/
theorem parseFrameHeader_frameBytes {version : Version} {type : MessageType}
    {streamId messageId : Nat} {body : Bytes} (hmessage : messageId < 256 ^ 8)
    (hnonzero : messageId ≠ 0) (hbody : body.length ≤ maxBodyLength) :
    ∃ error, parseFrameHeader (frameBytes version type streamId messageId body) version =
        { frame :=
            { plainFrame version type (streamId % 256 ^ 4) messageId body with
              raw := (frameBytes version type streamId messageId body).take 28
              body := [] }
          error := error } ∧
      (ScopeOk type (streamId % 256 ^ 4) → error = {}) ∧
      (error.ok = true → ScopeOk type (streamId % 256 ^ 4)) := by
  have hlength : body.length % 256 ^ 4 = body.length :=
    Nat.mod_eq_of_lt (lt_of_le_of_lt hbody (by decide))
  have hid : messageId % 256 ^ 8 = messageId := Nat.mod_eq_of_lt hmessage
  have hsize := length_frameBytes version type streamId messageId body
  have hext : parseTlvs
      (subspan (frameBytes version type streamId messageId body) 28 0) [] = .ok [] := rfl
  have hlong : ¬ 28 + body.length < 28 := by omega
  have hmax : ¬ maxBodyLength < body.length := Nat.not_lt.mpr hbody
  simp only [parseFrameHeader, frame_headerLength, frame_type, frame_flags, frame_streamId,
    frame_messageId, frame_bodyLength, frame_magic, frame_version, hsize, hlength, hid, hlong,
    hmax, hext, hnonzero, fixedHeaderLength, maxHeaderLength, MessageType.ofCode?_code,
    Nat.sub_self, Nat.lt_irrefl, Nat.reduceLT, ne_eq, not_true_eq_false, if_false]
  generalize streamId % 256 ^ 4 = stream
  by_cases hconnection : isConnectionMessage type = true ∧ ¬ stream = 0
  · refine ⟨_, if_pos hconnection, fun h => absurd (h.1 hconnection.1) hconnection.2, fun h => ?_⟩
    simp [Error.ok] at h
  rw [if_neg hconnection]
  by_cases htransfer : isTransferMessage type = true ∧ stream = 0
  · refine ⟨_, if_pos htransfer, fun h => absurd htransfer.2 (h.2 htransfer.1), fun h => ?_⟩
    simp [Error.ok] at h
  refine ⟨{}, if_neg htransfer, fun _ => rfl, fun _ => ⟨fun h => ?_, fun h hzero => ?_⟩⟩
  · by_contra hne
    exact hconnection ⟨h, hne⟩
  · exact htransfer ⟨h, hzero⟩

variable {version : Version} {type : MessageType} {streamId : Nat} {body : Bytes}

/-- A plain frame in scope parses to what was put in. -/
theorem parseFrameEnvelope_frameBytes {messageId : Nat} (hmessage : messageId < 256 ^ 8)
    (hnonzero : messageId ≠ 0) (hbody : body.length ≤ maxBodyLength) (hstream : streamId < 256 ^ 4)
    (hscope : ScopeOk type streamId) :
    parseFrameEnvelope (frameBytes version type streamId messageId body) version =
      { frame := plainFrame version type streamId messageId body } := by
  obtain ⟨error, hparse, hok, -⟩ :=
    @parseFrameHeader_frameBytes version type streamId messageId body hmessage hnonzero hbody
  rw [Nat.mod_eq_of_lt hstream] at hparse hok
  rw [hok hscope] at hparse
  have hsize := length_frameBytes version type streamId messageId body
  simp [parseFrameEnvelope, hparse, ParseResult.ok, Error.ok, hsize, plainFrame, frame_body]

/-- The self check of the encoders: what a successful parse of a plain frame
says about its stream and its body. -/
theorem scope_of_parseFrame_ok (hbody : body.length ≤ maxBodyLength)
    (hok : (parseFrame (frameBytes version type streamId 1 body) version).ok = true)
    (hsame : (parseFrame (frameBytes version type streamId 1 body) version).frame.header.streamId =
      streamId) :
    streamId < 256 ^ 4 ∧ ScopeOk type streamId ∧
      ∃ fields, parseTlvs body (schemaFor type) = .ok fields := by
  obtain ⟨error, hparse, -, hscope⟩ :=
    @parseFrameHeader_frameBytes version type streamId 1 body (by decide) (by decide) hbody
  have hsize := length_frameBytes version type streamId 1 body
  by_cases herror : error.ok = true
  · have henvelope : parseFrameEnvelope (frameBytes version type streamId 1 body) version =
        { frame :=
            { plainFrame version type (streamId % 256 ^ 4) 1 body with
              raw := frameBytes version type streamId 1 body }
          error := error } := by
      simp [parseFrameEnvelope, hparse, ParseResult.ok, herror, hsize, plainFrame, frame_body]
    simp only [parseFrame, henvelope, ParseResult.ok, herror, Bool.true_eq_false, if_false,
      parseFrameBody, plainFrame, ne_eq, not_true_eq_false] at hok hsame
    cases hfields : parseTlvs body (schemaFor type) with
    | error bodyError =>
      rw [hfields] at hok
      have hbad : bodyError.ok = true := hok
      rw [parseTlvs_refuses _ hfields] at hbad
      exact absurd hbad (by decide)
    | ok fields =>
      rw [hfields] at hsame
      have hmod : streamId % 256 ^ 4 = streamId := hsame
      refine ⟨?_, ?_, fields, rfl⟩
      · rw [← hmod]
        exact Nat.mod_lt _ (by decide)
      rw [← hmod]
      exact hscope herror
  have hfalse : error.ok = false := by simpa using herror
  simp [parseFrame, parseFrameEnvelope, hparse, ParseResult.ok, hfalse] at hok

end XnnTransfer.Protocol
