import Mathlib.Data.Prod.Lex
import XnnTransfer.Pairing.NegotiationAgreement
import XnnTransfer.Protocol.TranscriptDiscipline

/-!
# The handshake of a transcript

A transcript that reaches its transport binding has accepted six frames beside
`ERROR`: two hellos, a `NEGOTIATE` that selects the best both sides offer, its
acknowledgement, and a `TRANSPORT_FINISHED` from either side.

## Implementation notes

What a frame carries is stated about the numbers in its fields, not about the
words the parser casts them to. The schema of an accepted frame bounds each
field by its wire type, so the casts lose nothing.
-/

namespace XnnTransfer.Protocol

open Guards Pairing SortedRanges TranscriptParser

/-! ### What the frames of a handshake carry -/

/-- The hello of a direction. -/
structure ProperHello (direction : Direction) (frame : ParsedFrame) : Prop where
  type : frame.header.messageType = .hello
  role : bodyUnsigned frame 5 = direction.expectedRole
  increasing : (bodyNumbers frame 6).Pairwise (· < ·)
  families : (bodyNumbers frame 6).Pairwise fun a b => a / 2 ^ 16 ≠ b / 2 ^ 16
  advertised : ∀ c ∈ bodyNumbers frame 7, c ∈ bodyNumbers frame 6
  base : baseTransferV1.toNat ∈ bodyNumbers frame 6 ∧ baseTransferV1.toNat ∈ bodyNumbers frame 7
  body : 8192 ≤ bodyUnsigned frame 8 ∧ bodyUnsigned frame 8 ≤ maxBodyLength
  inFlight : 1048576 ≤ bodyUnsigned frame 9 ∧ bodyUnsigned frame 9 ≤ 67108864
  streams : 1 ≤ bodyUnsigned frame 10 ∧ bodyUnsigned frame 10 ≤ 32

/-- The version in two fields of a frame; versions are ordered by major, then minor. -/
def versionAt (frame : ParsedFrame) (major minor : Nat) : Lex (Nat × Nat) :=
  toLex (bodyUnsigned frame major, bodyUnsigned frame minor)

/-- The versions that a hello offers. -/
def offeredVersions (hello : ParsedFrame) : Set (Lex (Nat × Nat)) :=
  Set.Icc (versionAt hello 1 2) (versionAt hello 3 4)

/-- A `NEGOTIATE` frame selects the best that two hellos offer. -/
structure ProperNegotiation (hello hello' frame : ParsedFrame) : Prop where
  type : frame.header.messageType = .negotiate
  version : IsGreatest (offeredVersions hello ∩ offeredVersions hello') (versionAt frame 1 2)
  increasing : (bodyNumbers frame 3).Pairwise (· < ·)
  common : ∀ c, c ∈ bodyNumbers frame 3 ↔ c ∈ bodyNumbers hello 6 ∧ c ∈ bodyNumbers hello' 6
  required : ∀ c, c ∈ bodyNumbers hello 7 ∨ c ∈ bodyNumbers hello' 7 → c ∈ bodyNumbers frame 3
  body : bodyUnsigned frame 4 = min (bodyUnsigned hello 8) (bodyUnsigned hello' 8)
  inFlight : bodyUnsigned frame 5 = min (bodyUnsigned hello 9) (bodyUnsigned hello' 9)
  streams : bodyUnsigned frame 6 = min (bodyUnsigned hello 10) (bodyUnsigned hello' 10)

variable {frame : ParsedFrame} {id : Nat} {direction : Direction} {hello : HelloData}

variable {hello' : ParsedFrame} {capabilities words : List UInt32}

theorem ProperNegotiation.symm {hello : ParsedFrame} (h : ProperNegotiation hello hello' frame) :
    ProperNegotiation hello' hello frame where
  type := h.type
  version := Set.inter_comm _ _ ▸ h.version
  increasing := h.increasing
  common c := (h.common c).trans and_comm
  required c hc := h.required c hc.symm
  body := h.body.trans (min_comm _ _)
  inFlight := h.inFlight.trans (min_comm _ _)
  streams := h.streams.trans (min_comm _ _)

/-- A `NEGOTIATE_ACK` frame repeats a `NEGOTIATE` frame. -/
structure ProperAck (negotiate frame : ParsedFrame) : Prop where
  type : frame.header.messageType = .negotiateAck
  scalars : ∀ id ∈ [1, 2, 4, 5, 6], bodyUnsigned frame id = bodyUnsigned negotiate id
  capabilities : bodyNumbers frame 3 = bodyNumbers negotiate 3

structure ProperFinished (direction : Direction) (frame : ParsedFrame) : Prop where
  type : frame.header.messageType = .transportFinished
  role : bodyUnsigned frame 1 = direction.expectedRole

/-- The frames are a complete handshake, in order. -/
def CompleteHandshake (frames : List (Direction × ParsedFrame)) : Prop :=
  ∃ (opener closer : Direction) (hello hello' negotiate ack finished finished' : ParsedFrame),
    frames = [(opener, hello), (opener.reverse, hello'), (.initiatorToResponder, negotiate),
      (.responderToInitiator, ack), (closer, finished), (closer.reverse, finished')] ∧
    ProperHello opener hello ∧ ProperHello opener.reverse hello' ∧
    ProperNegotiation hello hello' negotiate ∧ ProperAck negotiate ack ∧
    ProperFinished closer finished ∧ ProperFinished closer.reverse finished'

/-- The bytes of some accepted frame. -/
def WellFormed (frame : ParsedFrame) : Prop :=
  ∃ encoded version, (parseFrame encoded version).ok = true ∧
    (parseFrame encoded version).frame = frame

/-! ### From the parser's words to the numbers of the frame -/

theorem WellFormed.unsigned_lt (h : WellFormed frame) {wireType : WireType}
    (hrule : (findRule (schemaFor frame.header.messageType) id).map FieldRule.wireType =
      some wireType) (hfixed : fixedWireLength wireType ≠ 0) :
    bodyUnsigned frame id < 256 ^ fixedWireLength wireType := by
  obtain ⟨encoded, version, hok, rfl⟩ := h
  exact bodyUnsigned_lt (by positivity) fun field hfield hid =>
    parseFrame_field_lt hok hrule hfixed hfield hid

/-- The numbers of a word field are the words the parser reads. -/
theorem WellFormed.numbers_eq (h : WellFormed frame) (id : Nat)
    (hrule : (findRule (schemaFor frame.header.messageType) id).map FieldRule.wireType =
      some .u32) : bodyNumbers frame id = (bodyWords frame id).map UInt32.toNat := by
  rw [bodyWords_eq_map, List.map_map]
  conv_lhs => rw [← List.map_id (bodyNumbers frame id)]
  apply List.map_congr_left
  intro number hnumber
  obtain ⟨encoded, version, hok, rfl⟩ := h
  obtain ⟨field, hfield, rfl⟩ := List.mem_map.mp hnumber
  obtain ⟨hmem, hid⟩ := List.mem_filter.mp hfield
  have hlt := parseFrame_field_lt hok hrule (by decide) hmem (by simpa using hid)
  rw [id_eq, Function.comp_apply, UInt32.toNat_ofNat']
  exact (Nat.mod_eq_of_lt hlt).symm

theorem WellFormed.word_eq (h : WellFormed frame)
    (hrule : (findRule (schemaFor frame.header.messageType) id).map FieldRule.wireType =
      some .u32) : (UInt32.ofNat (bodyUnsigned frame id)).toNat = bodyUnsigned frame id :=
  ((ofNat32_eq_iff (h.unsigned_lt hrule (by decide))).mp rfl).symm

theorem WellFormed.byte_lt (h : WellFormed frame)
    (hrule : (findRule (schemaFor frame.header.messageType) id).map FieldRule.wireType =
      some .u8) : bodyUnsigned frame id < 256 ^ fixedWireLength .u8 :=
  h.unsigned_lt hrule (by decide)

theorem WellFormed.half_eq (h : WellFormed frame)
    (hrule : (findRule (schemaFor frame.header.messageType) id).map FieldRule.wireType =
      some .u16) : (UInt16.ofNat (bodyUnsigned frame id)).toNat = bodyUnsigned frame id :=
  ((ofNat16_eq_iff (h.unsigned_lt hrule (by decide))).mp rfl).symm

theorem mem_map_toNat {word : UInt32} : word.toNat ∈ words.map UInt32.toNat ↔ word ∈ words := by
  simp [List.mem_map, UInt32.toNat_inj]

theorem pairwise_map_toNat (h : words.SortedLT) : (words.map UInt32.toNat).Pairwise (· < ·) := by
  rw [List.pairwise_map]
  exact h.pairwise.imp fun hlt => UInt32.lt_iff_toNat_lt.mp hlt

/-! ### Hellos -/

theorem checkHelloOrder_ok (h : (checkHelloOrder capabilities).ok = true) :
    capabilities.SortedLT ∧ DistinctFeatures capabilities := by
  rw [List.sortedLT_iff_isChain]
  induction capabilities with
  | nil => exact ⟨.nil, .nil⟩
  | cons first rest ih =>
    cases rest with
    | nil => exact ⟨.singleton first, .singleton first⟩
    | cons second rest =>
      unfold checkHelloOrder at h
      rw [Error.ok_ite_iff rfl, Error.ok_ite_iff rfl] at h
      obtain ⟨hless, hfamily, h⟩ := h
      obtain ⟨hsorted, hdistinct⟩ := ih h
      exact ⟨List.isChain_cons_cons.mpr ⟨not_le.mp hless, hsorted⟩,
        List.isChain_cons_cons.mpr ⟨Ne.symm hfamily, hdistinct⟩⟩

/-- What the checks on the capabilities of a hello ask for. -/
theorem checkHelloCapabilities_ok {required : List UInt32}
    (h : (checkHelloCapabilities capabilities required).ok = true) :
    capabilities.SortedLT ∧ DistinctFeatures capabilities ∧ required.SortedLT ∧
      (∀ c ∈ required, c ∈ capabilities) ∧ baseTransferV1 ∈ capabilities ∧
      baseTransferV1 ∈ required := by
  unfold checkHelloCapabilities at h
  split at h
  next hbad =>
    rw [hbad] at h
    cases h
  rename_i horder
  obtain ⟨hsorted, hdistinct⟩ := checkHelloOrder_ok ((Bool.not_eq_false _).mp horder)
  rw [Error.ok_ite_iff rfl, Error.ok_ite_iff rfl, Error.ok_ite_iff rfl, not_not,
    ← List.sortedLT_iff_isChain] at h
  obtain ⟨hrequired, hsubset, hbase, -⟩ := h
  push Not at hbase
  rw [← binarySearch_iff hsorted, ← binarySearch_iff hrequired]
  refine ⟨hsorted, hdistinct, hrequired, ?_, by simpa using hbase.1, by simpa using hbase.2⟩
  intro c hc
  rw [← binarySearch_iff hsorted]
  simp only [List.any_eq_true, Bool.not_eq_true', not_exists, not_and] at hsubset
  simpa using hsubset c hc

/-- What is known of a hello that the parser has read. -/
structure HelloRead (direction : Direction) (frame : ParsedFrame) (hello : HelloData) :
    Prop where
  minimum : bodyUnsigned frame 1 = hello.minimum.major.toNat ∧
    bodyUnsigned frame 2 = hello.minimum.minor.toNat
  maximum : bodyUnsigned frame 3 = hello.maximum.major.toNat ∧
    bodyUnsigned frame 4 = hello.maximum.minor.toNat
  role : UInt8.ofNat (bodyUnsigned frame 5) = UInt8.ofNat direction.expectedRole
  capabilities : hello.capabilities = bodyWords frame 6
  required : hello.requiredCapabilities = bodyWords frame 7
  checked : (checkHelloCapabilities hello.capabilities hello.requiredCapabilities).ok = true
  body : hello.receiveMaxBody = UInt32.ofNat (bodyUnsigned frame 8)
  inFlight : hello.receiveMaxInFlight = UInt32.ofNat (bodyUnsigned frame 9)
  streams : hello.receiveMaxStreams = UInt16.ofNat (bodyUnsigned frame 10)
  limited : (checkHelloLimits hello.receiveMaxBody hello.receiveMaxInFlight
    hello.receiveMaxStreams).ok = true

theorem readHello_ok (h : readHello direction frame = .ok hello) :
    HelloRead direction frame hello := by
  simp only [readHello, ite_error_eq_ok] at h
  obtain ⟨hrange, -, hrole, hcapabilities, hlimits, ⟨⟩⟩ := h
  have hbyte : ∀ number ≤ 255, number = (UInt8.ofNat number).toNat := fun number hle =>
    (ofNat8_eq_iff hle).mp rfl
  push Not at hrange
  obtain ⟨-, hminMajor, hminMinor, hmaxMajor, hmaxMinor⟩ := hrange
  exact ⟨⟨hbyte _ hminMajor, hbyte _ hminMinor⟩, ⟨hbyte _ hmaxMajor, hbyte _ hmaxMinor⟩,
    not_not.mp hrole, rfl, rfl, (Bool.not_eq_false _).mp hcapabilities, rfl, rfl, rfl,
    (Bool.not_eq_false _).mp hlimits⟩

/-- The role byte of a message names the direction. -/
theorem role_eq {number : Nat} (hlt : number < 256)
    (h : UInt8.ofNat number = UInt8.ofNat direction.expectedRole) :
    number = direction.expectedRole := by
  have hrole : direction.expectedRole < 256 := by cases direction <;> decide
  have hbytes := congrArg UInt8.toNat h
  rwa [UInt8.toNat_ofNat', UInt8.toNat_ofNat', Nat.mod_eq_of_lt hlt,
    Nat.mod_eq_of_lt hrole] at hbytes

theorem WellFormed.properHello (h : WellFormed frame) (htype : frame.header.messageType = .hello)
    (hread : HelloRead direction frame hello) : ProperHello direction frame := by
  obtain ⟨hsorted, hdistinct, -, hsubset, hbase, hbase'⟩ :=
    checkHelloCapabilities_ok hread.checked
  have hlimited := hread.limited
  rw [checkHelloLimits, Error.ok_ite_iff rfl, Error.ok_ite_iff rfl, Error.ok_ite_iff rfl] at hlimited
  obtain ⟨hbody, hflight, hstreams, -⟩ := hlimited
  push Not at hbody hflight hstreams
  simp only [UInt32.le_iff_toNat_le, UInt16.le_iff_toNat_le, ne_eq,
    ← UInt16.toNat_inj] at hbody hflight hstreams
  rw [hread.capabilities] at hsorted hdistinct hsubset hbase
  rw [hread.required] at hsubset hbase'
  have hoffered := h.numbers_eq 6 (htype ▸ rfl)
  have hrequired := h.numbers_eq 7 (htype ▸ rfl)
  rw [hread.body, h.word_eq (htype ▸ rfl)] at hbody
  rw [hread.inFlight, h.word_eq (htype ▸ rfl)] at hflight
  rw [hread.streams, h.half_eq (htype ▸ rfl)] at hstreams
  refine ⟨htype, ?_, ?_, ?_, ?_, ?_, hbody, hflight, Nat.one_le_iff_ne_zero.mpr hstreams.1,
    hstreams.2⟩
  · exact role_eq (h.byte_lt (htype ▸ rfl)) hread.role
  · rw [hoffered]
    exact pairwise_map_toNat hsorted
  · rw [hoffered, List.pairwise_map]
    have hfeatures := pairwise_feature_lt hsorted hdistinct
    rw [List.pairwise_map] at hfeatures
    refine hfeatures.imp fun {a b} hlt => ?_
    rw [UInt32.toNat_shiftRight, UInt32.toNat_shiftRight, Nat.shiftRight_eq_div_pow,
      Nat.shiftRight_eq_div_pow] at hlt
    exact hlt.ne
  · intro c hc
    rw [hrequired] at hc
    obtain ⟨word, hword, rfl⟩ := List.mem_map.mp hc
    rw [hoffered, mem_map_toNat]
    exact hsubset word hword
  rw [hoffered, hrequired, mem_map_toNat, mem_map_toNat]
  exact ⟨hbase, hbase'⟩

/-! ### The negotiation -/

/-- The place of a version in the order. -/
def Version.order (version : Version) : Lex (Nat × Nat) :=
  toLex (version.major.toNat, version.minor.toNat)

theorem versionLess_iff_order {left right : Version} :
    versionLess left right = true ↔ left.order < right.order := by
  rw [versionLess_iff, Version.order, Version.order, Prod.Lex.toLex_lt_toLex]
  have hleft := left.minor.toNat_lt
  have hright := right.minor.toNat_lt
  simp only
  omega

theorem order_commonMaximum (first second : Version) :
    (commonMaximum first second).order = min first.order second.order := by
  unfold commonMaximum
  split
  next hlt => exact (min_eq_left (versionLess_iff_order.mp hlt).le).symm
  rename_i hge
  rw [versionLess_iff_order, not_lt] at hge
  exact (min_eq_right hge).symm

theorem order_commonMinimum (first second : Version) :
    (commonMinimum first second).order = max first.order second.order := by
  unfold commonMinimum
  split
  next hlt => exact (max_eq_right (versionLess_iff_order.mp hlt).le).symm
  rename_i hge
  rw [versionLess_iff_order, not_lt] at hge
  exact (max_eq_left hge).symm

theorem HelloRead.offered (h : HelloRead direction frame hello) :
    offeredVersions frame = Set.Icc hello.minimum.order hello.maximum.order := by
  unfold offeredVersions versionAt Version.order
  rw [h.minimum.1, h.minimum.2, h.maximum.1, h.maximum.2]

theorem WellFormed.properNegotiation {hello : ParsedFrame} {first second : Direction}
    {initiator responder : HelloData} (h : WellFormed frame)
    (htype : frame.header.messageType = .negotiate) (hfirst : WellFormed hello)
    (hfirstType : hello.header.messageType = .hello) (hsecond : WellFormed hello')
    (hsecondType : hello'.header.messageType = .hello) (hread : HelloRead first hello initiator)
    (hread' : HelloRead second hello' responder)
    (hchecked : (checkNegotiation initiator responder frame).ok = true) :
    ProperNegotiation hello hello' frame := by
  obtain ⟨⟨-, hmajor, hminor⟩, -, hcommon, hselected, hrequired, hcapabilities, hbody, hflight,
    hstreams⟩ := checkNegotiation_eq_ok_iff.mp hchecked
  obtain ⟨hsorted, -, -, hsub, -, -⟩ := checkHelloCapabilities_ok hread.checked
  obtain ⟨hsorted', -, -, hsub', -, -⟩ := checkHelloCapabilities_ok hread'.checked
  have hboth := setIntersection_sortedLT hsorted responder.capabilities
  have hnumbers := h.numbers_eq 3 (htype ▸ rfl)
  have hoffered := hfirst.numbers_eq 6 (hfirstType ▸ rfl)
  have hoffered' := hsecond.numbers_eq 6 (hsecondType ▸ rfl)
  have hneeds := hfirst.numbers_eq 7 (hfirstType ▸ rfl)
  have hneeds' := hsecond.numbers_eq 7 (hsecondType ▸ rfl)
  rw [← hread.capabilities] at hoffered
  rw [← hread'.capabilities] at hoffered'
  rw [← hread.required] at hneeds
  rw [← hread'.required] at hneeds'
  rw [hcapabilities] at hnumbers
  refine ⟨htype, ?_, ?_, ?_, ?_, ?_, ?_, ?_⟩
  · have hversion : versionAt frame 1 2 =
        (commonMaximum initiator.maximum responder.maximum).order := by
      rw [← hselected]
      unfold versionAt Version.order readNegotiation
      simp only
      rw [← (ofNat8_eq_iff hmajor).mp rfl, ← (ofNat8_eq_iff hminor).mp rfl]
    rw [← Bool.not_eq_true, versionLess_iff_order, not_lt, order_commonMinimum, max_le_iff,
      order_commonMaximum] at hcommon
    rw [hversion, hread.offered, hread'.offered, order_commonMaximum]
    refine ⟨⟨⟨hcommon.1, min_le_left _ _⟩, ⟨hcommon.2, min_le_right _ _⟩⟩, ?_⟩
    rintro version ⟨hlower, hlower'⟩
    exact le_min hlower.2 hlower'.2
  · rw [hnumbers]
    exact pairwise_map_toNat hboth
  · intro c
    rw [hnumbers, hoffered, hoffered']
    constructor
    · intro hc
      obtain ⟨word, hword, rfl⟩ := List.mem_map.mp hc
      rw [mem_map_toNat, mem_map_toNat]
      exact (mem_setIntersection hsorted hsorted' word).mp hword
    rintro ⟨hc, hc'⟩
    obtain ⟨word, hword, rfl⟩ := List.mem_map.mp hc
    rw [mem_map_toNat] at hc' ⊢
    exact (mem_setIntersection hsorted hsorted' word).mpr ⟨hword, hc'⟩
  · intro c hc
    rw [hneeds, hneeds', ← List.mem_append, ← List.map_append] at hc
    obtain ⟨word, hword, rfl⟩ := List.mem_map.mp hc
    rw [hnumbers, mem_map_toNat, ← binarySearch_iff hboth]
    exact hrequired word hword
  · rw [← h.word_eq (htype ▸ rfl), hbody, hread.body, hread'.body, MachineWords.toNat_min32,
      hfirst.word_eq (hfirstType ▸ rfl), hsecond.word_eq (hsecondType ▸ rfl)]
  · rw [← h.word_eq (htype ▸ rfl), hflight, hread.inFlight, hread'.inFlight, MachineWords.toNat_min32,
      hfirst.word_eq (hfirstType ▸ rfl), hsecond.word_eq (hsecondType ▸ rfl)]
  rw [← h.half_eq (htype ▸ rfl), hstreams, hread.streams, hread'.streams, MachineWords.toNat_min16,
    hfirst.half_eq (hfirstType ▸ rfl), hsecond.half_eq (hsecondType ▸ rfl)]

/-- An acknowledgement that is read as the negotiation carries the same numbers. -/
theorem WellFormed.properAck {negotiate : ParsedFrame} (h : WellFormed frame)
    (htype : frame.header.messageType = .negotiateAck) (hother : WellFormed negotiate)
    (hotherType : negotiate.header.messageType = .negotiate)
    (hequal : readNegotiation frame = readNegotiation negotiate)
    (hmajor : bodyUnsigned frame 1 ≤ 255) (hminor : bodyUnsigned frame 2 ≤ 255)
    (hmajor' : bodyUnsigned negotiate 1 ≤ 255) (hminor' : bodyUnsigned negotiate 2 ≤ 255) :
    ProperAck negotiate frame := by
  have hversion := congrArg NegotiationData.selectedVersion hequal
  have hbody := congrArg (fun data => data.effectiveMaxBody.toNat) hequal
  have hflight := congrArg (fun data => data.effectiveMaxInFlight.toNat) hequal
  have hstreams := congrArg (fun data => data.effectiveMaxStreams.toNat) hequal
  have hwords := congrArg NegotiationData.capabilities hequal
  have hfirst : bodyUnsigned frame 1 = bodyUnsigned negotiate 1 := by
    rw [(ofNat8_eq_iff hmajor).mp (congrArg Version.major hversion)]
    exact ((ofNat8_eq_iff hmajor').mp rfl).symm
  have hsecond : bodyUnsigned frame 2 = bodyUnsigned negotiate 2 := by
    rw [(ofNat8_eq_iff hminor).mp (congrArg Version.minor hversion)]
    exact ((ofNat8_eq_iff hminor').mp rfl).symm
  simp only [readNegotiation] at hbody hflight hstreams hwords
  rw [h.word_eq (htype ▸ rfl), hother.word_eq (hotherType ▸ rfl)] at hbody hflight
  rw [h.half_eq (htype ▸ rfl), hother.half_eq (hotherType ▸ rfl)] at hstreams
  refine ⟨htype, ?_, ?_⟩
  · intro id hid
    simp only [List.mem_cons, List.not_mem_nil, or_false] at hid
    rcases hid with rfl | rfl | rfl | rfl | rfl
    · exact hfirst
    · exact hsecond
    · exact hbody
    · exact hflight
    · exact hstreams
  rw [h.numbers_eq 3 (htype ▸ rfl), hother.numbers_eq 3 (hotherType ▸ rfl), hwords]

end XnnTransfer.Protocol
