import XnnTransfer.Library.Guards
import XnnTransfer.Security.CanonicalCodec

/-!
# Parsing an encoded canonical object

What `ParseObject` makes of a laid out object. When the fields are those of the
schema, in its order and with its sizes, the structure is accepted and the fields
are given back; the object is then accepted exactly when its validator accepts
it. It follows that the layout determines its fields.
-/

namespace XnnTransfer.Security

open Protocol

@[simp] theorem encodeFields_nil : encodeFields [] = [] := rfl

@[simp] theorem encodeFields_cons (field : CanonicalField) (rest : List CanonicalField) :
    encodeFields (field :: rest) = encodeField field ++ encodeFields rest := rfl

theorem length_encodeField (field : CanonicalField) :
    (encodeField field).length = 6 + field.value.length := by
  simp only [encodeField, List.length_append, BigEndian.length_ofNat]
  omega

variable {field : CanonicalField} {fields : List CanonicalField} {schema : List FieldSchema}

/-- A field is no longer than the body that holds it. -/
theorem length_value_le (h : field ∈ fields) :
    field.value.length ≤ (encodeFields fields).length := by
  induction fields with
  | nil => cases h
  | cons first rest ih =>
    rw [encodeFields_cons, List.length_append]
    rcases List.mem_cons.mp h with rfl | h
    · have hlength := length_encodeField field
      omega
    have hrest := ih h
    omega

theorem length_encodeLayout (kind : CanonicalObjectKind) (fields : List CanonicalField) :
    (encodeLayout kind fields).length = 12 + (encodeFields fields).length := by
  have hmagic : canonicalMagic.length = 4 := rfl
  simp only [encodeLayout, List.length_append, List.length_cons, BigEndian.length_ofNat, hmagic]
  omega

/-- The field is known to the schema and has the size the schema asks for. -/
def Conforms (schema : List FieldSchema) (field : CanonicalField) : Prop :=
  ∃ entry, schema.find? (fun entry => entry.id = field.id) = some entry ∧
    ∀ size ∈ entry.fixedSize, size = field.value.length

/-- The field loop splits one encoded field off its data. -/
theorem parseFields_encodeField (hid : field.id < 65536) (hlength : field.value.length < 4294967296)
    (hconforms : Conforms schema field) {previousId : Nat} (hprevious : previousId < field.id)
    (count : Nat) (rest : Bytes) (fields : List CanonicalField) :
    parseFields schema (count + 1) (encodeField field ++ rest) previousId fields =
      parseFields schema count rest field.id (fields ++ [field]) := by
  obtain ⟨entry, hentry, hsize⟩ := hconforms
  have hreadId : readU16 (encodeField field ++ rest) 0 = field.id :=
    @BigEndian.toNat_ofNat 2 _ (by simpa using hid)
  have hreadLength : readU32 (encodeField field ++ rest) 2 = field.value.length :=
    @BigEndian.toNat_ofNat 4 _ (by simpa using hlength)
  have hdrop : (encodeField field ++ rest).drop 6 = field.value ++ rest := rfl
  have hlong : ¬ (encodeField field ++ rest).length < 6 := by
    rw [List.length_append, length_encodeField]
    omega
  have hfits : ¬ (field.value ++ rest).length < field.value.length := by
    rw [List.length_append]
    omega
  have hfixed : entry.fixedSize.any (fun size => decide (size ≠ field.value.length)) = false := by
    cases hsome : entry.fixedSize with
    | none => rfl
    | some size => simpa using hsize size hsome
  rw [parseFields]
  simp only [hreadId, hreadLength, hdrop, hentry, hfixed, if_neg hlong, if_neg hfits,
    if_neg hprevious.ne', if_neg hprevious.asymm, Bool.false_eq_true, if_false,
    List.take_left', List.drop_left']

/-- Encoded fields in increasing order are read back. -/
theorem parseFields_encodeFields (fields : List CanonicalField)
    (hid : ∀ field ∈ fields, field.id < 65536)
    (hlength : ∀ field ∈ fields, field.value.length < 4294967296)
    (hconforms : ∀ field ∈ fields, Conforms schema field)
    (hsorted : fields.Pairwise fun a b => a.id < b.id) {previousId : Nat}
    (hprevious : ∀ field ∈ fields, previousId < field.id) (before : List CanonicalField) :
    parseFields schema fields.length (encodeFields fields) previousId before =
      .ok (before ++ fields, []) := by
  induction fields generalizing previousId before with
  | nil => simp [parseFields]
  | cons field rest ih =>
    rw [List.pairwise_cons] at hsorted
    rw [List.length_cons, encodeFields_cons,
      parseFields_encodeField (hid _ List.mem_cons_self) (hlength _ List.mem_cons_self)
        (hconforms _ List.mem_cons_self) (hprevious _ List.mem_cons_self),
      ih (fun f hf => hid f (List.mem_cons_of_mem _ hf))
        (fun f hf => hlength f (List.mem_cons_of_mem _ hf))
        (fun f hf => hconforms f (List.mem_cons_of_mem _ hf)) hsorted.2 hsorted.1,
      List.append_assoc, List.singleton_append]

/-! ### Objects that follow their schema -/

/-- The fields are those of the schema, in its order and of its sizes. -/
def Follows (schema : List FieldSchema) (fields : List CanonicalField) : Prop :=
  List.Forall₂ (fun entry field => entry.id = field.id ∧
    ∀ size ∈ entry.fixedSize, size = field.value.length) schema fields

theorem Follows.map_id (h : Follows schema fields) :
    fields.map CanonicalField.id = schema.map FieldSchema.id := by
  induction h with
  | nil => rfl
  | cons hfield _ ih => rw [List.map_cons, List.map_cons, ih, hfield.1]

theorem Follows.exists_entry (h : Follows schema fields) (hfield : field ∈ fields) :
    ∃ entry ∈ schema, entry.id = field.id ∧
      ∀ size ∈ entry.fixedSize, size = field.value.length := by
  induction h with
  | nil => cases hfield
  | cons hfirst _ ih =>
    rcases List.mem_cons.mp hfield with rfl | hfield
    · exact ⟨_, List.mem_cons_self, hfirst⟩
    obtain ⟨entry, hentry, hmatch⟩ := ih hfield
    exact ⟨entry, List.mem_cons_of_mem _ hentry, hmatch⟩

/-- The identifiers of every schema increase, start above zero and fit their width. -/
theorem schemaForKind_ids (kind : CanonicalObjectKind) :
    ((schemaForKind kind).map FieldSchema.id).Pairwise (· < ·) ∧
      (∀ entry ∈ schemaForKind kind, 0 < entry.id ∧ entry.id < 65536) ∧
      (schemaForKind kind).length ≤ maximumCanonicalFields := by
  cases kind <;> decide

/-- Looking a schema entry up by its identifier finds the entry. -/
theorem find?_entry (hids : (schema.map FieldSchema.id).Pairwise (· < ·)) {entry : FieldSchema}
    (hentry : entry ∈ schema) : schema.find? (fun other => other.id = entry.id) = some entry := by
  induction schema with
  | nil => cases hentry
  | cons first rest ih =>
    rw [List.map_cons, List.pairwise_cons] at hids
    rcases List.mem_cons.mp hentry with rfl | hentry
    · simp
    have hlt : first.id < entry.id := hids.1 _ (List.mem_map_of_mem hentry)
    rw [List.find?_cons_of_neg (by simpa using hlt.ne)]
    exact ih hids.2 hentry

section FollowsKind

variable {kind : CanonicalObjectKind} {fields : List CanonicalField}
  (hfollows : Follows (schemaForKind kind) fields)

include hfollows

theorem Follows.sorted : fields.Pairwise fun a b => a.id < b.id := by
  have hids := (schemaForKind_ids kind).1
  rw [← hfollows.map_id] at hids
  exact List.pairwise_map.mp hids

theorem Follows.id_bounds {field : CanonicalField} (hfield : field ∈ fields) :
    0 < field.id ∧ field.id < 65536 := by
  obtain ⟨entry, hentry, hid, _⟩ := hfollows.exists_entry hfield
  rw [← hid]
  exact (schemaForKind_ids kind).2.1 entry hentry

theorem Follows.conforms {field : CanonicalField} (hfield : field ∈ fields) :
    Conforms (schemaForKind kind) field := by
  obtain ⟨entry, hentry, hid, hsize⟩ := hfollows.exists_entry hfield
  refine ⟨entry, ?_, hsize⟩
  rw [← hid]
  exact find?_entry (schemaForKind_ids kind).1 hentry

theorem Follows.length_le : fields.length ≤ maximumCanonicalFields := by
  rw [← List.Forall₂.length_eq hfollows]
  exact (schemaForKind_ids kind).2.2

end FollowsKind

variable {object : ParsedObject} {fields : List CanonicalField}
  {validate : ParsedObject → SecurityError} {encoded : Bytes} {input : PairingContextInput}
  {context : PairingContext}

/-- In fields of increasing identifiers, a field is found by its identifier. -/
theorem findField_of_mem (hsorted : object.fields.Pairwise fun a b => a.id < b.id)
    {field : CanonicalField} (hfield : field ∈ object.fields) :
    findField object field.id = some field := by
  obtain ⟨kind, encoded, fields⟩ := object
  simp only [findField] at hsorted hfield ⊢
  induction fields with
  | nil => cases hfield
  | cons first rest ih =>
    rw [List.pairwise_cons] at hsorted
    rcases List.mem_cons.mp hfield with rfl | hfield
    · simp
    have hlt : first.id < field.id := hsorted.1 _ hfield
    rw [List.find?_cons_of_neg (by simpa using hlt)]
    exact ih hsorted.2 hfield

variable {kind : CanonicalObjectKind} {prims : Primitives}

/-- An object of known structure is accepted or refused by its validator. -/
theorem parseStructure_encodeLayout (validate : ParsedObject → SecurityError)
    (hfollows : Follows (schemaForKind kind) fields)
    (hbody : (encodeFields fields).length ≤ maximumCanonicalBodySize) :
    parseStructure validate (encodeLayout kind fields) (some kind) =
      (validate ⟨kind, encodeLayout kind fields, fields⟩).result
        ⟨kind, encodeLayout kind fields, fields⟩ := by
  have hcountLe := hfollows.length_le
  have hlong : ¬ (encodeLayout kind fields).length < 12 := by
    rw [length_encodeLayout]
    omega
  have hmagic : ¬ (encodeLayout kind fields).take 4 ≠ canonicalMagic := fun h => h rfl
  have hversion : ¬ ((encodeLayout kind fields).drop 4).headD 0 ≠ canonicalVersion :=
    fun h => h rfl
  have hkind : ((encodeLayout kind fields).drop 5).headD 0 = kind.code := rfl
  have hexpected : ¬ (some kind).any (fun other => decide (kind ≠ other)) = true := by simp
  have hcount : readU16 (encodeLayout kind fields) 6 = fields.length := by
    apply @BigEndian.toNat_ofNat 2
    simp only [maximumCanonicalFields] at hcountLe
    omega
  have hlength : readU32 (encodeLayout kind fields) 8 = (encodeFields fields).length := by
    apply @BigEndian.toNat_ofNat 4
    simp only [maximumCanonicalBodySize] at hbody
    omega
  have hlimits : ¬ (maximumCanonicalFields < fields.length ∨
      maximumCanonicalBodySize < (encodeFields fields).length) := by omega
  have htotal : ¬ (encodeLayout kind fields).length ≠ 12 + (encodeFields fields).length :=
    fun h => h (length_encodeLayout kind fields)
  have hdrop : (encodeLayout kind fields).drop 12 = encodeFields fields := rfl
  have hparse : parseFields (schemaForKind kind) fields.length (encodeFields fields) 0 [] =
      .ok (fields, []) := by
    apply parseFields_encodeFields fields (fun field hfield => (hfollows.id_bounds hfield).2) _
      (fun field hfield => hfollows.conforms hfield) hfollows.sorted
      (fun field hfield => (hfollows.id_bounds hfield).1)
    intro field hfield
    have hle := length_value_le hfield
    simp only [maximumCanonicalBodySize] at hbody
    omega
  have hmissing : ¬ (schemaForKind kind).any (fun required =>
      (findField ⟨kind, encodeLayout kind fields, fields⟩ required.id).isNone) = true := by
    rw [List.any_eq_true]
    rintro ⟨entry, hentry, hnone⟩
    have hmem : entry.id ∈ fields.map CanonicalField.id := by
      rw [hfollows.map_id]
      exact List.mem_map_of_mem hentry
    obtain ⟨field, hfield, hid⟩ := List.mem_map.mp hmem
    rw [← hid, findField_of_mem hfollows.sorted hfield] at hnone
    cases hnone
  rw [parseStructure, if_neg hlong, if_neg hmagic, if_neg hversion, hkind,
    CanonicalObjectKind.ofCode?_code]
  simp only [hcount, hlength, hdrop, hparse]
  rw [if_neg hexpected, if_neg hlimits, if_neg htotal, if_neg (by simp), if_neg hmissing]

/-- An accepted object respects the size limit. -/
theorem length_le_of_parseStructure {expectedKind : Option CanonicalObjectKind}
    (h : parseStructure validate encoded expectedKind = .ok object) :
    encoded.length ≤ 12 + maximumCanonicalBodySize := by
  unfold parseStructure at h
  split at h
  · cases h
  split at h
  · cases h
  split at h
  · cases h
  split at h
  · cases h
  split at h
  · cases h
  simp only at h
  split at h
  · cases h
  rename_i hlimits
  split at h
  · cases h
  next htotal => omega

/-- The layout determines the fields. -/
theorem encodeLayout_injective {first second : List CanonicalField}
    (hfirst : Follows (schemaForKind kind) first) (hsecond : Follows (schemaForKind kind) second)
    (hfirstBody : (encodeFields first).length ≤ maximumCanonicalBodySize)
    (hsecondBody : (encodeFields second).length ≤ maximumCanonicalBodySize)
    (h : encodeLayout kind first = encodeLayout kind second) : first = second := by
  have hparse := parseStructure_encodeLayout (fun _ => .none) hfirst hfirstBody
  rw [h, parseStructure_encodeLayout (fun _ => .none) hsecond hsecondBody] at hparse
  cases hparse
  rfl

/-- Only the validator of the expected kind is consulted. -/
theorem parseStructure_congr {validate' : ParsedObject → SecurityError}
    (h : ∀ object, object.kind = kind → validate object = validate' object) (encoded : Bytes) :
    parseStructure validate encoded (some kind) = parseStructure validate' encoded (some kind) := by
  unfold parseStructure
  split
  · rfl
  split
  · rfl
  split
  · rfl
  split
  · rfl
  rename_i found _
  split
  · rfl
  rename_i hkind
  have hsame : found = kind := by simpa using hkind
  simp only
  split
  · rfl
  split
  · rfl
  split
  · rfl
  split
  · rfl
  split
  · rfl
  rw [h _ hsame]

theorem parseObject_normalizedNegotiation (prims : Primitives) (encoded : Bytes) :
    parseObject prims encoded (some .normalizedNegotiation) = parseNegotiation encoded := by
  apply parseStructure_congr
  intro object hkind
  rw [validateSemanticObject, hkind]

/-! ### Pairing contexts -/

theorem pairingContextFields_follows (input : PairingContextInput) :
    Follows (schemaForKind .pairingContext) (pairingContextFields input) := by
  unfold Follows schemaForKind pairingContextFields
  simp only [List.forall₂_cons, List.forall₂_nil_right_iff, Option.mem_def, Option.some.injEq,
    forall_eq', input.initiatorNonce.property, input.responderNonce.property,
    input.initiatorKey.property, input.responderKey.property]
  simp

/-- What an object that was encoded consists of. -/
theorem encodeObject_ok (h : encodeObject prims kind fields = .ok encoded) :
    encoded = encodeLayout kind fields ∧
      (encodeFields fields).length ≤ maximumCanonicalBodySize := by
  unfold encodeObject at h
  split at h
  · cases h
  split at h
  · cases h
  split at h
  · cases h
  rename_i object hobject
  cases h
  have hle := length_le_of_parseStructure hobject
  rw [length_encodeLayout] at hle
  exact ⟨rfl, by omega⟩

/-- What a context that was built consists of. -/
theorem buildPairingContext_ok (h : buildPairingContext prims input = .ok context) :
    context.encoded = encodeLayout .pairingContext (pairingContextFields input) ∧
      prims.sha256 context.encoded = some context.digest ∧
      (encodeFields (pairingContextFields input)).length ≤ maximumCanonicalBodySize := by
  unfold buildPairingContext at h
  split at h
  · cases h
  rename_i encoded hencoded
  obtain ⟨rfl, hbody⟩ := encodeObject_ok hencoded
  split at h
  · cases h
  rename_i digest hdigest
  cases h
  exact ⟨rfl, sha256_eq_ok_iff.mp hdigest, hbody⟩

/-- The encoding of a context determines what it was built from. -/
theorem buildPairingContext_injective {prims' : Primitives} {input' : PairingContextInput}
    {context' : PairingContext} (h : buildPairingContext prims input = .ok context)
    (h' : buildPairingContext prims' input' = .ok context')
    (hencoded : context.encoded = context'.encoded) : input = input' := by
  obtain ⟨hlayout, -, hbody⟩ := buildPairingContext_ok h
  obtain ⟨hlayout', -, hbody'⟩ := buildPairingContext_ok h'
  rw [hlayout, hlayout'] at hencoded
  have hfields := encodeLayout_injective (pairingContextFields_follows input)
    (pairingContextFields_follows input') hbody hbody' hencoded
  obtain ⟨⟨nonce₁, _⟩, ⟨nonce₂, _⟩, ⟨key₁, _⟩, ⟨key₂, _⟩, ⟨negotiation⟩⟩ := input
  simp only [pairingContextFields, List.cons.injEq, CanonicalField.mk.injEq, true_and,
    and_true] at hfields
  obtain ⟨rfl, rfl, rfl, rfl, rfl⟩ := hfields
  rfl

/-! ### What is accepted is canonical -/

open Guards

variable {data : Bytes} {offset width : Nat}

theorem ofNat_subspan (h : offset + width ≤ data.length) :
    BigEndian.ofNat width (BigEndian.toNat (subspan data offset width)) =
      subspan data offset width := by
  convert BigEndian.ofNat_toNat (subspan data offset width)
  rw [subspan, List.length_take, List.length_drop]
  omega

theorem subspan_append_drop : subspan data offset width ++ data.drop (offset + width) =
    data.drop offset := by
  rw [subspan, ← List.drop_drop, List.take_append_drop]

theorem headD_cons_drop (h : offset < data.length) :
    (data.drop offset).headD 0 :: data.drop (offset + 1) = data.drop offset := by
  rw [List.drop_eq_getElem_cons h, List.headD_cons]

theorem CanonicalObjectKind.code_of_ofCode? {code : UInt8} (h : ofCode? code = some kind) :
    kind.code = code := by
  unfold ofCode? at h
  split at h <;> cases h <;> rfl

/-- The bytes of the fields that were read are the bytes that were consumed. -/
theorem encodeFields_of_parseFields {count previousId : Nat} {rest : Bytes}
    {before : List CanonicalField}
    (h : parseFields schema count data previousId before = .ok (fields, rest)) :
    ∃ read, fields = before ++ read ∧ read.length = count ∧ encodeFields read ++ rest = data := by
  induction count generalizing data previousId before with
  | zero =>
    cases h
    exact ⟨[], by simp⟩
  | succ count ih =>
    simp only [parseFields, ite_error_eq_ok] at h
    obtain ⟨hlong, -, -, h⟩ := h
    split at h
    · cases h
    obtain ⟨hfits, h⟩ := ite_error_eq_ok.mp h
    obtain ⟨read, rfl, hcount, hrest⟩ := ih (ite_error_eq_ok.mp h).2
    refine ⟨_ :: read, List.append_assoc _ _ _, by rw [List.length_cons, hcount], ?_⟩
    simp only [encodeFields_cons, encodeField, List.append_assoc, hrest,
      List.length_take_of_le (Nat.not_lt.mp hfits), List.take_append_drop]
    rw [readU16, readU32, ofNat_subspan (by omega), ofNat_subspan (by omega),
      subspan_append_drop, subspan_append_drop, List.drop_zero]

/-- An accepted object is the layout of the fields it is given back with. -/
theorem parseObject_canonical {expectedKind : Option CanonicalObjectKind}
    (h : parseObject prims encoded expectedKind = .ok object) :
    object.encoded = encoded ∧ encodeLayout object.kind object.fields = encoded := by
  simp only [parseObject, parseStructure, ite_error_eq_ok] at h
  obtain ⟨hlong, hmagic, hversion, h⟩ := h
  split at h
  · cases h
  rename_i kind hkind
  simp only [ite_error_eq_ok] at h
  obtain ⟨-, -, htotal, h⟩ := h
  split at h
  · cases h
  rename_i fields rest hfields
  simp only [ite_error_eq_ok, SecurityError.result] at h
  obtain ⟨hrest, -, h⟩ := h
  split at h <;> cases h
  obtain ⟨read, rfl, hcount, hbody⟩ := encodeFields_of_parseFields hfields
  rw [not_not.mp hrest, List.append_nil] at hbody
  have hlength : (encoded.drop 12).length = readU32 encoded 8 := by
    rw [List.length_drop]
    omega
  simp only [encodeLayout, hcount, hbody, hlength, true_and]
  rw [readU16, readU32, ofNat_subspan (by omega), ofNat_subspan (by omega), subspan_append_drop,
    subspan_append_drop, CanonicalObjectKind.code_of_ofCode? hkind, ← not_not.mp hversion,
    headD_cons_drop (by omega), headD_cons_drop (by omega), ← not_not.mp hmagic,
    List.take_append_drop]

def sasObject : Bytes :=
  encodeLayout .sasInformation [⟨1, sasInformationLabel⟩, ⟨2, List.replicate 32 3⟩]

theorem parseObject_canonical_sas :
    ∃ object, parseObject plainPrimitives sasObject none = .ok object ∧
      encodeLayout object.kind object.fields = sasObject :=
  have h : parseObject plainPrimitives sasObject none = .ok _ := rfl
  ⟨_, h, (parseObject_canonical h).2⟩

end XnnTransfer.Security
