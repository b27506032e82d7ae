import XnnTransfer.Pairing.NegotiationObject
import XnnTransfer.Protocol.TranscriptRun

/-!
# The three negotiations agree

The selection of a pairing is computed by `Select`, checked by the validator of
the negotiation object and, on an established connection, checked once more by
the transcript parser. All three ask for the same selection.
-/

namespace XnnTransfer.Pairing

open Guards Protocol Security SortedRanges TranscriptParser

/-- The repeated field with the identifier, as numbers. -/
def bodyNumbers (frame : ParsedFrame) (id : Nat) : List Nat :=
  (frame.bodyFields.filter fun field => field.id = id).map decodeUnsigned

/-- A `HELLO` frame of the transcript carries an offer. -/
structure CarriesOffer (frame : ParsedFrame) (offer : NegotiationOffer) : Prop where
  type : frame.header.messageType = .hello
  minimum_major : bodyUnsigned frame 1 = offer.versions.minimum.major.toNat
  minimum_minor : bodyUnsigned frame 2 = offer.versions.minimum.minor.toNat
  maximum_major : bodyUnsigned frame 3 = offer.versions.maximum.major.toNat
  maximum_minor : bodyUnsigned frame 4 = offer.versions.maximum.minor.toNat
  offered : bodyNumbers frame 6 = offer.offeredCapabilities.map UInt32.toNat
  required : bodyNumbers frame 7 = offer.requiredCapabilities.map UInt32.toNat
  body : bodyUnsigned frame 8 = offer.receiveLimits.maxBody.toNat
  inFlight : bodyUnsigned frame 9 = offer.receiveLimits.maxInFlight.toNat
  streams : bodyUnsigned frame 10 = offer.receiveLimits.maxStreams.toNat

/-- A `NEGOTIATE` frame of the transcript carries a selection. -/
structure CarriesSelection (frame : ParsedFrame) (selection : Selection) : Prop where
  major : bodyUnsigned frame 1 = selection.selectedVersion.major.toNat
  minor : bodyUnsigned frame 2 = selection.selectedVersion.minor.toNat
  capabilities : bodyNumbers frame 3 = selection.selectedCapabilities.map UInt32.toNat
  body : bodyUnsigned frame 4 = selection.effectiveLimits.maxBody.toNat
  inFlight : bodyUnsigned frame 5 = selection.effectiveLimits.maxInFlight.toNat
  streams : bodyUnsigned frame 6 = selection.effectiveLimits.maxStreams.toNat

/-- The offer as the transcript parser keeps it. -/
def helloData (offer : NegotiationOffer) : HelloData where
  minimum := offer.versions.minimum
  maximum := offer.versions.maximum
  capabilities := offer.offeredCapabilities
  requiredCapabilities := offer.requiredCapabilities
  receiveMaxBody := offer.receiveLimits.maxBody
  receiveMaxInFlight := offer.receiveLimits.maxInFlight
  receiveMaxStreams := offer.receiveLimits.maxStreams

theorem bodyWords_eq_map (frame : ParsedFrame) (id : Nat) :
    bodyWords frame id = (bodyNumbers frame id).map UInt32.ofNat := by
  simp [bodyWords, bodyNumbers]

theorem map_ofNat_toNat (words : List UInt32) :
    (words.map UInt32.toNat).map UInt32.ofNat = words := by
  induction words with
  | nil => rfl
  | cons word rest ih => simp [ih]

variable {frame : ParsedFrame} {number : Nat} {initiator responder : NegotiationOffer}

variable {direction : Direction} {encoded : Bytes}

/-- What the parser reads from a hello is the offer the hello carries. -/
theorem CarriesOffer.readHello {offer : NegotiationOffer} (h : CarriesOffer frame offer)
    {hello : HelloData} (hread : readHello direction frame = .ok hello) :
    hello = helloData offer := by
  unfold Protocol.readHello at hread
  simp only [bodyWords_eq_map, h.minimum_major, h.minimum_minor, h.maximum_major,
    h.maximum_minor, h.offered, h.required, h.body, h.inFlight, h.streams, map_ofNat_toNat,
    UInt8.ofNat_toNat, UInt16.ofNat_toNat, UInt32.ofNat_toNat, ite_error_eq_ok] at hread
  obtain ⟨-, -, -, -, -, hok⟩ := hread
  exact (Except.ok.inj hok).symm

/-- The parser's merge is the intersection of the library. -/
theorem intersectCapabilities_eq (first second : List UInt32) :
    intersectCapabilities first second = setIntersection first second := by
  induction first generalizing second with
  | nil => rfl
  | cons x xs ih =>
    induction second with
    | nil => rfl
    | cons y ys ihy =>
      have hstep : intersectCapabilities (x :: xs) (y :: ys) =
          if x = y then x :: intersectCapabilities xs ys
          else if x < y then intersectCapabilities xs (y :: ys)
          else intersectCapabilities (x :: xs) ys := rfl
      rw [hstep, setIntersection_cons_cons, ih, ih, ihy]
      rcases lt_trichotomy x y with hlt | rfl | hgt
      · rw [if_neg hlt.ne, if_pos hlt, if_pos hlt]
      · rw [if_pos rfl, if_neg (lt_irrefl _), if_neg (lt_irrefl _)]
      · rw [if_neg hgt.ne', if_neg hgt.asymm, if_neg hgt.asymm, if_pos hgt]

/-! ### What a schema-conforming `NEGOTIATE` frame holds -/

/-- The integers of the frame fit their types. -/
structure Fits (frame : ParsedFrame) : Prop where
  words : ∀ number ∈ bodyNumbers frame 3, number < 2 ^ 32
  body : bodyUnsigned frame 4 < 2 ^ 32
  inFlight : bodyUnsigned frame 5 < 2 ^ 32
  streams : bodyUnsigned frame 6 < 2 ^ 16

theorem bodyUnsigned_lt {id bound : Nat} (hpos : 0 < bound)
    (h : ∀ field ∈ frame.bodyFields, field.id = id → decodeUnsigned field < bound) :
    bodyUnsigned frame id < bound := by
  unfold bodyUnsigned findFirst
  cases hfind : frame.bodyFields.find? (fun field => decide (field.id = id)) with
  | none => simpa using hpos
  | some field =>
    have hid : field.id = id := by simpa using List.find?_some hfind
    simpa using h field (List.mem_of_find?_eq_some hfind) hid

theorem fits_of_parseFrame {version : Version}
    (hok : (Protocol.parseFrame encoded version).ok = true)
    (htype : (Protocol.parseFrame encoded version).frame.header.messageType = .negotiate) :
    Fits (Protocol.parseFrame encoded version).frame := by
  have hwidth : ∀ id wireType, (findRule (schemaFor .negotiate) id).map FieldRule.wireType =
      some wireType → fixedWireLength wireType ≠ 0 →
      ∀ field ∈ (Protocol.parseFrame encoded version).frame.bodyFields, field.id = id →
        decodeUnsigned field < 256 ^ fixedWireLength wireType := by
    intro id wireType hrule hfixed field hfield hid
    exact parseFrame_field_lt hok (htype ▸ hrule) hfixed hfield hid
  refine ⟨?_, ?_, ?_, ?_⟩
  · intro number hnumber
    obtain ⟨field, hfield, rfl⟩ := List.mem_map.mp hnumber
    obtain ⟨hmem, hid⟩ := List.mem_filter.mp hfield
    exact hwidth 3 .u32 rfl (by decide) field hmem (by simpa using hid)
  · exact bodyUnsigned_lt (by decide) (hwidth 4 .u32 rfl (by decide))
  · exact bodyUnsigned_lt (by decide) (hwidth 5 .u32 rfl (by decide))
  · exact bodyUnsigned_lt (by decide) (hwidth 6 .u16 rfl (by decide))

/-! ### The parser's negotiation -/

theorem Fits.words_eq_iff (h : Fits frame) {capabilities : List UInt32} :
    bodyWords frame 3 = capabilities ↔ bodyNumbers frame 3 = capabilities.map UInt32.toNat := by
  rw [bodyWords_eq_map]
  constructor
  · rintro rfl
    rw [List.map_map]
    conv_lhs => rw [← List.map_id (bodyNumbers frame 3)]
    apply List.map_congr_left
    intro number hnumber
    rw [id_eq, Function.comp_apply, UInt32.toNat_ofNat', Nat.mod_eq_of_lt (h.words number hnumber)]
  intro hnumbers
  rw [hnumbers, map_ofNat_toNat]

theorem ofNat32_eq_iff (h : number < 2 ^ 32) {word : UInt32} :
    UInt32.ofNat number = word ↔ number = word.toNat := by
  rw [← UInt32.toNat_inj, UInt32.toNat_ofNat', Nat.mod_eq_of_lt h]

theorem ofNat16_eq_iff (h : number < 2 ^ 16) {word : UInt16} :
    UInt16.ofNat number = word ↔ number = word.toNat := by
  rw [← UInt16.toNat_inj, UInt16.toNat_ofNat', Nat.mod_eq_of_lt h]

theorem ofNat8_eq_iff (h : number ≤ 255) {byte : UInt8} :
    UInt8.ofNat number = byte ↔ number = byte.toNat := by
  rw [← UInt8.toNat_inj, UInt8.toNat_ofNat', Nat.mod_eq_of_lt (by omega)]

theorem commonMaximum_major (hinitiator : ValidOffer initiator) (hresponder : ValidOffer responder) :
    (commonMaximum initiator.versions.maximum responder.versions.maximum).major ≠ 0 := by
  unfold commonMaximum
  split
  · exact hinitiator.maximum_major
  · exact hresponder.maximum_major

/-- The tests of the parser's comparison, one after the other. -/
theorem checkNegotiation_eq_ok_iff {initiator responder : HelloData} :
    (checkNegotiation initiator responder frame).ok = true ↔
      (bodyUnsigned frame 1 ≠ 0 ∧ bodyUnsigned frame 1 ≤ 255 ∧ bodyUnsigned frame 2 ≤ 255) ∧
        (bodyWords frame 3).IsChain (· < ·) ∧
        versionLess (commonMaximum initiator.maximum responder.maximum)
          (commonMinimum initiator.minimum responder.minimum) = false ∧
        (readNegotiation frame).selectedVersion =
          commonMaximum initiator.maximum responder.maximum ∧
        (∀ c ∈ initiator.requiredCapabilities ++ responder.requiredCapabilities,
          binarySearch (setIntersection initiator.capabilities responder.capabilities) c = true) ∧
        bodyWords frame 3 = setIntersection initiator.capabilities responder.capabilities ∧
        UInt32.ofNat (bodyUnsigned frame 4) =
          min initiator.receiveMaxBody responder.receiveMaxBody ∧
        UInt32.ofNat (bodyUnsigned frame 5) =
          min initiator.receiveMaxInFlight responder.receiveMaxInFlight ∧
        UInt16.ofNat (bodyUnsigned frame 6) =
          min initiator.receiveMaxStreams responder.receiveMaxStreams := by
  unfold checkNegotiation
  simp only [intersectCapabilities_eq]
  rw [Error.ok_ite_iff rfl, Error.ok_ite_iff rfl, Error.ok_ite_iff rfl, Error.ok_ite_iff rfl,
    Error.ok_ite_iff rfl, Error.ok_ite_iff rfl, Error.ok_ite_iff rfl]
  simp only [not_or, not_lt, ne_eq, not_not, Bool.not_eq_true, List.any_eq_false,
    Bool.not_eq_true', Bool.not_eq_false, show ({} : Error).ok = true from rfl, and_true]
  rfl

/-- The parser's comparison accepts the selection of two valid offers and no other. -/
theorem checkNegotiation_ok_iff (hinitiator : ValidOffer initiator)
    (hresponder : ValidOffer responder) (hfits : Fits frame) :
    (checkNegotiation (helloData initiator) (helloData responder) frame).ok = true ↔
      Compatible initiator responder ∧
        CarriesSelection frame (candidate initiator responder) := by
  have hsorted := setIntersection_sortedLT hinitiator.offered.sorted responder.offeredCapabilities
  have hfound : ∀ c, binarySearch (setIntersection initiator.offeredCapabilities
      responder.offeredCapabilities) c = true ↔
        c ∈ initiator.offeredCapabilities ∧ c ∈ responder.offeredCapabilities := fun c =>
    (binarySearch_iff hsorted c).trans (mem_candidate_iff hinitiator hresponder c)
  rw [checkNegotiation_eq_ok_iff]
  constructor
  · rintro ⟨⟨hpos, hmajor, hminor⟩, -, hcommon, hselected, hrequired, hcapabilities, hbody,
      hflight, hstreams⟩
    have hmajor' := (ofNat8_eq_iff hmajor).mp (congrArg Version.major hselected)
    have hminor' := (ofNat8_eq_iff hminor).mp (congrArg Version.minor hselected)
    refine ⟨⟨hcommon, fun c hc => ?_, fun c hc => ?_⟩, ⟨hmajor', hminor', ?_, ?_, ?_, ?_⟩⟩
    · exact ((hfound c).mp (hrequired c (List.mem_append_left _ hc))).2
    · exact ((hfound c).mp (hrequired c (List.mem_append_right _ hc))).1
    · exact hfits.words_eq_iff.mp hcapabilities
    · exact (ofNat32_eq_iff hfits.body).mp hbody
    · exact (ofNat32_eq_iff hfits.inFlight).mp hflight
    · exact (ofNat16_eq_iff hfits.streams).mp hstreams
  rintro ⟨hcompatible, hcarries⟩
  have hwords := hfits.words_eq_iff.mpr hcarries.capabilities
  have hmajor := (candidate initiator responder).selectedVersion.major.toNat_lt
  have hminor := (candidate initiator responder).selectedVersion.minor.toNat_lt
  have hmajorLe : bodyUnsigned frame 1 ≤ 255 := by
    rw [hcarries.major]
    omega
  have hminorLe : bodyUnsigned frame 2 ≤ 255 := by
    rw [hcarries.minor]
    omega
  have hselected : (readNegotiation frame).selectedVersion =
      (candidate initiator responder).selectedVersion := by
    have hfirst := (ofNat8_eq_iff hmajorLe).mpr hcarries.major
    have hsecond := (ofNat8_eq_iff hminorLe).mpr hcarries.minor
    simp only [readNegotiation, hfirst, hsecond]
  refine ⟨⟨?_, hmajorLe, hminorLe⟩, ?_, hcompatible.versions, hselected, ?_, hwords,
    (ofNat32_eq_iff hfits.body).mpr hcarries.body,
    (ofNat32_eq_iff hfits.inFlight).mpr hcarries.inFlight,
    (ofNat16_eq_iff hfits.streams).mpr hcarries.streams⟩
  · intro hzero
    rw [hcarries.major] at hzero
    exact commonMaximum_major hinitiator hresponder (UInt8.toNat_inj.mp hzero)
  · rw [hwords]
    exact List.sortedLT_iff_isChain.mp hsorted
  intro c hc
  refine (hfound c).mpr ?_
  rcases List.mem_append.mp hc with hc | hc
  · exact ⟨hinitiator.required_subset c hc, hcompatible.initiator_required c hc⟩
  · exact ⟨hcompatible.responder_required c hc, hresponder.required_subset c hc⟩

/-! ### The agreement -/

/-- A transcript has accepted the two hellos that carry the offers and no
`NEGOTIATE` yet. -/
structure HellosAccepted (frames : List (Direction × Bytes))
    (initiator responder : NegotiationOffer) : Prop where
  accepted : Runs.Admits step Accepts {} frames
  unsettled : ∀ frame ∈ frames, (initialFrame frame.2).header.messageType ≠ .negotiate
  initiator : ∃ encoded, (.initiatorToResponder, encoded) ∈ frames ∧
    CarriesOffer (initialFrame encoded) initiator
  responder : ∃ encoded, (.responderToInitiator, encoded) ∈ frames ∧
    CarriesOffer (initialFrame encoded) responder

/-- The parser after the hellos holds the two offers. -/
theorem HellosAccepted.held {frames : List (Direction × Bytes)}
    (h : HellosAccepted frames initiator responder) :
    (Runs.run step {} frames).Early ∧
      (Runs.run step {} frames).hellos.initiator = some (helloData initiator) ∧
      (Runs.run step {} frames).hellos.responder = some (helloData responder) := by
  obtain ⟨hearly, hremembers⟩ := remembers_run h.accepted h.unsettled
  obtain ⟨first, hfirst, hcarriesFirst⟩ := h.initiator
  obtain ⟨second, hsecond, hcarriesSecond⟩ := h.responder
  obtain ⟨hello, hread, hheld⟩ := hremembers _ hfirst hcarriesFirst.type
  obtain ⟨hello', hread', hheld'⟩ := hremembers _ hsecond hcarriesSecond.type
  rw [hcarriesFirst.readHello hread] at hheld
  rw [hcarriesSecond.readHello hread'] at hheld'
  exact ⟨hearly, hheld, hheld'⟩

/-- The bytes are a schema-conforming `NEGOTIATE` frame with the number the parser
expects next in the direction. -/
structure NextNegotiate (parser : TranscriptParser) (direction : Direction) (encoded : Bytes) :
    Prop where
  parsed : (Protocol.parseFrame encoded {}).ok = true
  type : (initialFrame encoded).header.messageType = .negotiate
  available : parser.messageIdExhausted.get direction = false
  numbered : (initialFrame encoded).header.messageId = parser.nextMessageId.get direction

/-- With both hellos at hand, the parser accepts a `NEGOTIATE` frame of the initiator
that passes the comparison. -/
theorem accepts_negotiate_iff {parser : TranscriptParser} {first second : HelloData}
    (hearly : parser.Early) (hinitiator : parser.hellos.initiator = some first)
    (hresponder : parser.hellos.responder = some second)
    (hnext : NextNegotiate parser direction encoded) :
    parser.Accepts (direction, encoded) ↔ direction = .initiatorToResponder ∧
      (checkNegotiation first second (initialFrame encoded)).ok = true := by
  obtain ⟨hhellos, hnegotiation, -, -, -⟩ := countMessage_fields parser direction
  have hmessage : (parser.countMessage direction).processMessage direction
      (initialFrame encoded) =
        (parser.countMessage direction).processNegotiate direction (initialFrame encoded) := by
    unfold processMessage
    rw [hnext.type]
  constructor
  · intro haccepts
    have hadmitted := process_ok_iff.mp ⟨haccepts, rfl⟩
    rw [hearly.expectedVersion] at hadmitted
    have hprocessed := hmessage.symm.trans hadmitted.processed
    unfold processNegotiate at hprocessed
    rw [hhellos, hinitiator, hresponder, hnegotiation, hearly.negotiation] at hprocessed
    split at hprocessed
    · cases hprocessed
    rename_i hdirection
    simp only [Option.isSome_none, Bool.false_eq_true, if_false] at hprocessed
    split at hprocessed
    · cases hprocessed
    next hcheck => exact ⟨not_not.mp hdirection, (Bool.not_eq_false _).mp hcheck⟩
  rintro ⟨rfl, hcheck⟩
  refine (process_ok_iff.mpr (?_ : Admitted _ _ _ _ { parser.countMessage
    .initiatorToResponder with negotiation := some (readNegotiation (initialFrame encoded)) })).1
  rw [hearly.expectedVersion]
  refine ⟨hearly.live, by rw [hearly.expectedVersion]; exact hnext.parsed, by
    rw [hearly.expectedVersion], ⟨hnext.available, hnext.numbered⟩, fun hack => ?_, ?_, ?_⟩
  · rw [hearly.acknowledged] at hack
    cases hack
  · unfold validateEnvelopeState
    have htype : (Protocol.parseFrame encoded {}).frame.header.messageType = .negotiate :=
      hnext.type
    rw [htype]
    simp only
    rw [hhellos, hinitiator, hresponder, hnegotiation, hearly.negotiation]
    rfl
  refine hmessage.trans ?_
  unfold processNegotiate
  rw [hhellos, hinitiator, hresponder, hnegotiation, hearly.negotiation]
  simp only [ne_eq, not_true_eq_false, if_false, Option.isSome_none, Bool.false_eq_true]
  rw [if_neg (by rw [hcheck]; decide), hhellos]

/-- `Select`, the validator of the negotiation object and the transcript parser agree
on the selection of two valid offers, whichever of the two opens. -/
theorem negotiations_agree {initiator responder : NegotiationOffer}
    (hinitiator : validateOffer initiator = .none)
    (hresponder : validateOffer responder = .none) (prims : Primitives) :
    (∀ selection, select initiator responder = .ok selection ↔
      ∃ negotiation, buildNormalizedNegotiation prims initiator responder selection =
        .ok negotiation) ∧
    (∀ selection selection' negotiation negotiation',
      buildNormalizedNegotiation prims initiator responder selection = .ok negotiation →
      buildNormalizedNegotiation prims initiator responder selection' = .ok negotiation' →
      selection' = selection) ∧
    (∀ selection, select initiator responder = .ok selection ↔
      select responder initiator = .ok selection) ∧
    ∀ frames, HellosAccepted frames initiator responder → ∀ direction encoded,
      NextNegotiate (Runs.run step {} frames) direction encoded →
        ((Runs.run step {} frames).Accepts (direction, encoded) ↔
          direction = .initiatorToResponder ∧ ∃ selection,
            select initiator responder = .ok selection ∧
              CarriesSelection (initialFrame encoded) selection) := by
  have hvalid := (validateOffer_eq_none_iff initiator).mp hinitiator
  have hvalid' := (validateOffer_eq_none_iff responder).mp hresponder
  have hbuilds := buildNormalizedNegotiation_ok_iff_select hvalid hvalid' prims
  refine ⟨fun selection => (hbuilds selection).symm, ?_, select_comm hvalid hvalid', ?_⟩
  · intro selection selection' negotiation negotiation' hbuild hbuild'
    have hselect := (hbuilds selection).mp ⟨negotiation, hbuild⟩
    have hselect' := (hbuilds selection').mp ⟨negotiation', hbuild'⟩
    exact Except.ok.inj (hselect'.symm.trans hselect)
  intro frames hframes direction encoded hnext
  obtain ⟨hearly, hfirst, hsecond⟩ := hframes.held
  have hfits : Fits (initialFrame encoded) := fits_of_parseFrame hnext.parsed hnext.type
  rw [accepts_negotiate_iff hearly hfirst hsecond hnext,
    checkNegotiation_ok_iff hvalid hvalid' hfits]
  refine and_congr_right fun _ => ?_
  simp only [select_eq_ok_iff hvalid hvalid']
  constructor
  · rintro ⟨hcompatible, hcarries⟩
    exact ⟨_, ⟨hcompatible, rfl⟩, hcarries⟩
  rintro ⟨_, ⟨hcompatible, rfl⟩, hcarries⟩
  exact ⟨hcompatible, hcarries⟩

/-- The hello that carries the least offer. -/
def plainHello (role : UInt8) : Bytes :=
  frameBytes {} .hello 0 1 (encodeTlvs [⟨1, .u16, 1, [0, 1]⟩, ⟨2, .u16, 1, [0, 0]⟩,
    ⟨3, .u16, 1, [0, 1]⟩, ⟨4, .u16, 1, [0, 0]⟩, ⟨5, .u8, 1, [role]⟩, ⟨6, .u32, 1, [0, 1, 0, 1]⟩,
    ⟨7, .u32, 1, [0, 1, 0, 1]⟩, ⟨8, .u32, 1, [0, 0, 32, 0]⟩, ⟨9, .u32, 1, [0, 16, 0, 0]⟩,
    ⟨10, .u16, 1, [0, 1]⟩])

def plainHellos : List (Direction × Bytes) :=
  [(.initiatorToResponder, plainHello 1), (.responderToInitiator, plainHello 2)]

/-- The `NEGOTIATE` frame that settles two least offers. -/
def plainNegotiate : Bytes :=
  frameBytes {} .negotiate 0 2 (encodeTlvs [⟨1, .u16, 1, [0, 1]⟩, ⟨2, .u16, 1, [0, 0]⟩,
    ⟨3, .u32, 1, [0, 1, 0, 1]⟩, ⟨4, .u32, 1, [0, 0, 32, 0]⟩, ⟨5, .u32, 1, [0, 16, 0, 0]⟩,
    ⟨6, .u16, 1, [0, 1]⟩])

theorem plainHellos_accepted : HellosAccepted plainHellos plainOffer plainOffer where
  accepted := by
    refine ⟨?_, ?_, trivial⟩ <;> unfold Accepts <;> decide +kernel
  unsettled := by decide +kernel
  initiator := ⟨plainHello 1, by decide +kernel, by constructor <;> decide +kernel⟩
  responder := ⟨plainHello 2, by decide +kernel, by constructor <;> decide +kernel⟩

theorem plainNegotiate_next :
    NextNegotiate (Runs.run step {} plainHellos) .initiatorToResponder plainNegotiate := by
  constructor <;> decide +kernel

theorem negotiations_agree_plain :
    HellosAccepted plainHellos plainOffer plainOffer ∧
      (Runs.run step {} plainHellos).Accepts (.initiatorToResponder, plainNegotiate) := by
  have hvalid : validateOffer plainOffer = .none := by decide +kernel
  have hagree := negotiations_agree hvalid hvalid plainPrimitives
  refine ⟨plainHellos_accepted, (hagree.2.2.2 plainHellos plainHellos_accepted
    .initiatorToResponder plainNegotiate plainNegotiate_next).mpr ⟨rfl, ?_⟩⟩
  exact ⟨candidate plainOffer plainOffer, by decide +kernel, by constructor <;> decide +kernel⟩

end XnnTransfer.Pairing
