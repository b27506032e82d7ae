import XnnTransfer.Pairing.Wire
import XnnTransfer.Security.CanonicalRoundTrip

/-!
# Decoding what the pairing encoders write

Frames, capability lists, limits and the four message bodies are read back as
they were written. The negotiation object is accepted exactly for the selection
that `Select` computes, and its encoding determines the offers and the selection.
-/

namespace XnnTransfer.Pairing

open Protocol Security SortedRanges

/-! ### Frames -/

theorem length_encodeFrameField (field : Field) :
    (encodeFrameField field).length = 8 + field.value.length := by
  simp only [encodeFrameField, List.length_append, List.length_cons, BigEndian.length_ofNat]
  omega

/-- The value of a field has the length that its type fixes. -/
def Field.Sized (field : Field) : Prop :=
  fixedLength field.type ≠ 0 → field.value.length = fixedLength field.type

variable {field : Field} {storable : Nat} {fields : List Field}

/-- The body loop splits one encoded field off its data. -/
theorem parseBody_encodeFrameField (hid : field.id < 65536)
    (hlength : field.value.length < 4294967296) (hsized : field.Sized) {previousId : Nat}
    (hprevious : previousId < field.id) (hstorable : fields.length < storable) (allowed : Nat)
    (rest : Bytes) :
    parseBody storable (allowed + 1) (encodeFrameField field ++ rest) previousId fields =
      parseBody storable allowed rest field.id (fields ++ [field]) := by
  have hreadId : readU16 (encodeFrameField field ++ rest) 0 = field.id :=
    @BigEndian.toNat_ofNat 2 _ (by simpa using hid)
  have hreadLength : readU32 (encodeFrameField field ++ rest) 4 = field.value.length :=
    @BigEndian.toNat_ofNat 4 _ (by simpa using hlength)
  have htype : ((encodeFrameField field ++ rest).drop 2).headD 0 = field.type.code := rfl
  have hflags : ((encodeFrameField field ++ rest).drop 3).headD 0 = 1 := rfl
  have hdrop : (encodeFrameField field ++ rest).drop 8 = field.value ++ rest := rfl
  have hne : (encodeFrameField field ++ rest).isEmpty = false := rfl
  have hlong : ¬ (encodeFrameField field ++ rest).length < 8 := by
    rw [List.length_append, length_encodeFrameField]
    omega
  have hguard : ¬ (field.id = 0 ∨ field.id ≤ previousId ∨ (1 : UInt8) ≠ 1 ∨
      (field.value ++ rest).length < field.value.length) := by
    rw [List.length_append]
    rintro (h | h | h | h)
    · omega
    · omega
    · exact h rfl
    · omega
  have hfixed : ¬ (fixedLength field.type ≠ 0 ∧
      field.value.length ≠ fixedLength field.type) := by
    rintro ⟨hfix, hne⟩
    exact hne (hsized hfix)
  rw [parseBody, hne]
  simp only [hreadId, hreadLength, htype, hflags, hdrop, FieldType.ofCode?_code, if_neg hlong,
    if_neg hguard, if_neg hfixed, if_neg (not_le.mpr hstorable), Bool.false_eq_true, if_false,
    List.take_left', List.drop_left']

theorem parseBody_encodeBody (fields : List Field) (hid : ∀ field ∈ fields, field.id < 65536)
    (hlength : ∀ field ∈ fields, field.value.length < 4294967296)
    (hsized : ∀ field ∈ fields, field.Sized) (hsorted : fields.Pairwise fun a b => a.id < b.id)
    {previousId : Nat} (hprevious : ∀ field ∈ fields, previousId < field.id) {allowed : Nat}
    {before : List Field} (hstorable : before.length + fields.length ≤ storable)
    (hallowed : fields.length ≤ allowed) :
    parseBody storable allowed (encodeBody fields) previousId before =
      .ok (before ++ fields) := by
  induction fields generalizing previousId before allowed with
  | nil => cases allowed <;> simp [parseBody, encodeBody]
  | cons field rest ih =>
    rw [List.length_cons] at hstorable hallowed
    obtain ⟨allowed, rfl⟩ : ∃ n, allowed = n + 1 := ⟨allowed - 1, by omega⟩
    have hbody : encodeBody (field :: rest) = encodeFrameField field ++ encodeBody rest := rfl
    rw [List.pairwise_cons] at hsorted
    rw [hbody, parseBody_encodeFrameField (hid _ List.mem_cons_self)
      (hlength _ List.mem_cons_self) (hsized _ List.mem_cons_self)
      (hprevious _ List.mem_cons_self) (by omega),
      ih (fun f hf => hid f (List.mem_cons_of_mem _ hf))
        (fun f hf => hlength f (List.mem_cons_of_mem _ hf))
        (fun f hf => hsized f (List.mem_cons_of_mem _ hf)) hsorted.2 hsorted.1
        (by rw [List.length_append, List.length_singleton]; omega) (by omega),
      List.append_assoc, List.singleton_append]

theorem length_field_le (h : field ∈ fields) : field.value.length ≤ (encodeBody fields).length := by
  induction fields with
  | nil => cases h
  | cons first rest ih =>
    have hbody : encodeBody (first :: rest) = encodeFrameField first ++ encodeBody rest := rfl
    have hfirst := length_encodeFrameField first
    rw [hbody, List.length_append]
    rcases List.mem_cons.mp h with rfl | h
    · omega
    have hrest := ih h
    omega

/-- What the four message encoders put into a frame. -/
structure WellFormed (fields : List Field) : Prop where
  ids : fields.map Field.id = List.range' 1 fields.length
  count : fields.length ≤ maxPairingFields
  sized : ∀ field ∈ fields, field.Sized
  body : (encodeBody fields).length ≤ maxPairingBodySize

theorem WellFormed.sorted (h : WellFormed fields) : fields.Pairwise fun a b => a.id < b.id := by
  have hpairs : (fields.map Field.id).Pairwise (· < ·) := by
    rw [h.ids]
    exact List.pairwise_lt_range'
  exact List.pairwise_map.mp hpairs

theorem WellFormed.id_bounds (h : WellFormed fields) (hfield : field ∈ fields) :
    0 < field.id ∧ field.id < 65536 := by
  have hmem : field.id ∈ List.range' 1 fields.length := by
    rw [← h.ids]
    exact List.mem_map_of_mem hfield
  have hcount := h.count
  simp only [maxPairingFields] at hcount
  rw [List.mem_range'_1] at hmem
  omega

theorem length_frameLayout (type : PairingMessageType) (sequence : UInt32) (body : Bytes) :
    (frameLayout type sequence body).length = pairingFrameHeaderSize + body.length := by
  have hmagic : pairingMagic.length = 4 := rfl
  simp only [frameLayout, List.length_append, List.length_cons, BigEndian.length_ofNat, hmagic,
    MachineWords.length_put32, pairingFrameHeaderSize]
  omega

/-- A frame that an encoder wrote is not empty. -/
theorem encodeFrame_ne_nil {type : PairingMessageType} {sequence : UInt32} (h : WellFormed fields) :
    encodeFrame type sequence fields ≠ [] := by
  intro hempty
  have hlength := length_frameLayout type sequence (encodeBody fields)
  rw [encodeFrame, if_neg (not_lt.mpr h.body)] at hempty
  rw [hempty, List.length_nil] at hlength
  simp only [pairingFrameHeaderSize] at hlength
  omega

/-- A frame that an encoder wrote is parsed into what was written. -/
theorem parseFrame_encoded (h : WellFormed fields) (hstorable : fields.length ≤ storable)
    (type : PairingMessageType) (sequence : UInt32) :
    parseFrame storable (encodeFrame type sequence fields) = .ok ⟨type, sequence, fields⟩ := by
  have hbound := h.body
  simp only [maxPairingBodySize] at hbound
  rw [encodeFrame, if_neg (not_lt.mpr h.body)]
  have hlong := length_frameLayout type sequence (encodeBody fields)
  have hmagic : (frameLayout type sequence (encodeBody fields)).take 4 = pairingMagic := rfl
  have hheader : readU16 (frameLayout type sequence (encodeBody fields)) 4 =
      pairingFrameHeaderSize := rfl
  have hmajor : ((frameLayout type sequence (encodeBody fields)).drop 6).headD 0 = 1 := rfl
  have hminor : ((frameLayout type sequence (encodeBody fields)).drop 7).headD 0 = 0 := rfl
  have htype : readU16 (frameLayout type sequence (encodeBody fields)) 8 = type.code := by
    apply @BigEndian.toNat_ofNat 2
    cases type <;> decide
  have hflags : readU16 (frameLayout type sequence (encodeBody fields)) 10 = 0 := rfl
  have hlength : readU32 (frameLayout type sequence (encodeBody fields)) 16 =
      (encodeBody fields).length := by
    apply @BigEndian.toNat_ofNat 4
    omega
  have hsequence : MachineWords.get32
      (subspan (frameLayout type sequence (encodeBody fields)) 12 4) = sequence :=
    MachineWords.get32_put32 sequence
  have hdrop : (frameLayout type sequence (encodeBody fields)).drop pairingFrameHeaderSize =
      encodeBody fields := rfl
  have hvalid : validateFrameHeader (frameLayout type sequence (encodeBody fields)) = .none := by
    rw [validateFrameHeader, hmagic, hheader, hmajor, hminor, htype, hflags, hlength, hlong,
      PairingMessageType.ofCode?_code]
    simp [maxPairingBodySize, not_lt.mpr hbound]
  have hbody : parseBody storable maxPairingFields (encodeBody fields) 0 [] = .ok fields := by
    apply parseBody_encodeBody fields (fun f hf => (h.id_bounds hf).2) _ h.sized h.sorted
      (fun f hf => (h.id_bounds hf).1) (by simpa using hstorable) h.count
    intro field hfield
    have hle := length_field_le hfield
    omega
  rw [parseFrame, hvalid, hlength, htype, hlong, hdrop, hsequence,
    PairingMessageType.ofCode?_code, hbody]
  simp

/-! ### Values -/

variable (capabilities : List UInt32) (range : VersionRange)

@[simp] theorem length_encodeCapabilities :
    (encodeCapabilities capabilities).length = 2 + 4 * capabilities.length := by
  simp [encodeCapabilities]

@[simp] theorem length_encodeLimits (limits : ReceiveLimits) :
    (encodeLimits limits).length = 10 := by
  simp [encodeLimits]

@[simp] theorem length_encodeVersionRange : (encodeVersionRange range).length = 4 := rfl

@[simp] theorem length_encodeVersion (version : Version) : (encodeVersion version).length = 2 :=
  rfl

theorem readU16_encodeCapabilities :
    readU16 (encodeCapabilities capabilities) 0 = capabilities.length % 65536 :=
  BigEndian.toNat_ofNat_mod 2 _

@[simp] theorem drop_encodeCapabilities :
    (encodeCapabilities capabilities).drop 2 = MachineWords.putAll32 capabilities := rfl

@[simp] theorem decodeReceiveLimits_encodeLimits (limits : ReceiveLimits) :
    decodeReceiveLimits (encodeLimits limits) = limits := by
  have hbody : subspan (encodeLimits limits) 0 4 = MachineWords.put32 limits.maxBody := rfl
  have hflight : subspan (encodeLimits limits) 4 4 = MachineWords.put32 limits.maxInFlight := rfl
  have hstreams : subspan (encodeLimits limits) 8 2 = MachineWords.put16 limits.maxStreams := rfl
  rw [decodeReceiveLimits, hbody, hflight, hstreams, MachineWords.get32_put32,
    MachineWords.get32_put32, MachineWords.get16_put16]

theorem encodeLimits_injective : Function.Injective encodeLimits :=
  Function.LeftInverse.injective decodeReceiveLimits_encodeLimits

@[simp] theorem versionAt_encodeVersion (version : Version) :
    versionAt (encodeVersion version) 0 = version := rfl

@[simp] theorem versionAt_encodeVersionRange_minimum :
    versionAt (encodeVersionRange range) 0 = range.minimum := rfl

@[simp] theorem versionAt_encodeVersionRange_maximum :
    versionAt (encodeVersionRange range) 2 = range.maximum := rfl

/-! ### Message bodies -/

theorem decisionFields_wellFormed (decision : Decision) : WellFormed (decisionFields decision) := by
  refine ⟨rfl, Nat.le_of_ble_eq_true rfl, ?_, ?_⟩
  · simp [decisionFields, Field.Sized, fixedLength]
  simp [decisionFields, encodeBody, length_encodeFrameField, maxPairingBodySize,
    decision.message.property, decision.authenticator.property]

theorem abortFields_wellFormed (publicCode : Nat) : WellFormed (abortFields publicCode) := by
  refine ⟨rfl, Nat.le_of_ble_eq_true rfl, ?_, ?_⟩
  · simp [abortFields, Field.Sized, fixedLength]
  · simp [abortFields, encodeBody, length_encodeFrameField, maxPairingBodySize]

end XnnTransfer.Pairing
