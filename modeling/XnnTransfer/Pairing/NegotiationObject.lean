import XnnTransfer.Pairing.WireRoundTrip

/-!
# The negotiation object of a pairing

`BuildNormalizedNegotiation` writes two offers and a selection into a canonical
object and has it validated. The object is accepted exactly for the selection
that `Select` computes from the offers, and the object determines what it was
built from.
-/

namespace XnnTransfer.Pairing

open Guards Protocol Security SortedRanges

/-- The length of a capability list determines its encoding's, so the list can be read back. -/
theorem encodeCapabilities_injective : Function.Injective encodeCapabilities := by
  intro first second h
  have hlength : first.length = second.length := by
    have hbytes := congrArg List.length h
    rw [length_encodeCapabilities, length_encodeCapabilities] at hbytes
    omega
  have hwords := congrArg (List.drop 2) h
  rw [drop_encodeCapabilities, drop_encodeCapabilities] at hwords
  rw [← MachineWords.getAll32_putAll32 first, hlength, hwords, MachineWords.getAll32_putAll32]

theorem encodeVersionRange_injective : Function.Injective encodeVersionRange := by
  rintro ⟨⟨a, b⟩, ⟨c, d⟩⟩ ⟨⟨a', b'⟩, ⟨c', d'⟩⟩ h
  cases h
  rfl

theorem encodeVersion_injective : Function.Injective encodeVersion := by
  rintro ⟨a, b⟩ ⟨a', b'⟩ h
  cases h
  rfl

variable {initiator responder : NegotiationOffer} {selection : Selection}
  {capabilities : List UInt32}

theorem negotiationFields_injective {initiator' responder' : NegotiationOffer}
    {selection' : Selection} (h : negotiationFields initiator responder selection =
      negotiationFields initiator' responder' selection') :
    initiator = initiator' ∧ responder = responder' ∧ selection = selection' := by
  obtain ⟨iv, io, ir, il⟩ := initiator
  obtain ⟨rv, ro, rr, rl⟩ := responder
  obtain ⟨sv, sc, sl⟩ := selection
  simp only [negotiationFields, List.cons.injEq, CanonicalField.mk.injEq, true_and, and_true,
    encodeVersionRange_injective.eq_iff, encodeCapabilities_injective.eq_iff,
    encodeLimits_injective.eq_iff, encodeVersion_injective.eq_iff] at h
  obtain ⟨rfl, rfl, rfl, rfl, rfl, rfl, rfl, rfl, rfl, rfl, rfl⟩ := h
  exact ⟨rfl, rfl, rfl⟩

theorem negotiationFields_follows (initiator responder : NegotiationOffer)
    (selection : Selection) :
    Follows (schemaForKind .normalizedNegotiation)
      (negotiationFields initiator responder selection) := by
  unfold Follows schemaForKind negotiationFields
  simp

/-- The object that is validated when a negotiation is built. -/
def negotiationObject (initiator responder : NegotiationOffer) (selection : Selection) :
    ParsedObject where
  kind := .normalizedNegotiation
  encoded := encodeLayout .normalizedNegotiation (negotiationFields initiator responder selection)
  fields := negotiationFields initiator responder selection

/-- A negotiation is built when its object is small enough and valid. -/
theorem buildNormalizedNegotiation_eq_ok_iff {prims : Primitives}
    {negotiation : NormalizedNegotiation} :
    buildNormalizedNegotiation prims initiator responder selection = .ok negotiation ↔
      (encodeFields (negotiationFields initiator responder selection)).length ≤
          maximumCanonicalBodySize ∧
        validateNegotiationObject (negotiationObject initiator responder selection) = .none ∧
        negotiation = ⟨encodeLayout .normalizedNegotiation
          (negotiationFields initiator responder selection)⟩ := by
  rw [buildNormalizedNegotiation, decodeNormalizedNegotiation, parseObject_normalizedNegotiation,
    parseNegotiation]
  have hparse := parseStructure_encodeLayout validateNegotiationObject
    (negotiationFields_follows initiator responder selection)
  constructor
  · intro h
    split at h
    · cases h
    rename_i object hobject
    have hle := length_le_of_parseStructure hobject
    rw [length_encodeLayout] at hle
    have hbody : (encodeFields (negotiationFields initiator responder selection)).length ≤
        maximumCanonicalBodySize := by omega
    rw [hparse hbody, SecurityError.result_eq_ok_iff] at hobject
    obtain ⟨hvalid, rfl⟩ := hobject
    exact ⟨hbody, hvalid, (Except.ok.inj h).symm⟩
  rintro ⟨hbody, hvalid, rfl⟩
  have hvalid' : validateNegotiationObject ⟨.normalizedNegotiation,
      encodeLayout .normalizedNegotiation (negotiationFields initiator responder selection),
      negotiationFields initiator responder selection⟩ = .none := hvalid
  rw [hparse hbody, hvalid', SecurityError.result_none]

/-! ### Which objects are valid -/

/-- The canonical codec reads a capability list back when it is increasing and
has distinct features and a count of 16 bits. -/
theorem decodeCapabilities_encodeCapabilities_iff {output : List UInt32} :
    Security.decodeCapabilities (encodeCapabilities capabilities) = .ok output ↔
      output = capabilities ∧ capabilities.length < 65536 ∧ capabilities.SortedLT ∧
        DistinctFeatures capabilities := by
  unfold Security.decodeCapabilities
  rw [if_neg (by rw [length_encodeCapabilities]; omega)]
  simp only [readU16_encodeCapabilities, drop_encodeCapabilities, length_encodeCapabilities]
  by_cases hcount : capabilities.length < 65536
  · have hmod : capabilities.length % 65536 = capabilities.length := Nat.mod_eq_of_lt hcount
    simp only [hmod, MachineWords.getAll32_putAll32]
    rw [if_neg (by omega)]
    by_cases hsorted : capabilities.SortedLT
    · obtain ⟨hle, hne⟩ := (isSorted_noneAdjacent_iff _).mpr hsorted
      rw [if_neg (by simp [hle, hne])]
      by_cases hdistinct : DistinctFeatures capabilities
      · simp [hcount, hsorted, hdistinct, eq_comm]
      · simp [hdistinct]
    have hguard : isSorted capabilities = false ∨ noneAdjacent capabilities = false := by
      by_contra hboth
      push Not at hboth
      exact hsorted ((isSorted_noneAdjacent_iff _).mp
        ⟨by simpa using hboth.1, by simpa using hboth.2⟩)
    rw [if_pos hguard]
    simp [hsorted]
  rw [if_pos (by omega)]
  simp [hcount]

theorem decodeCapabilities_ne_none (encoded : Bytes) :
    Security.decodeCapabilities encoded ≠ .error .none := by
  intro h
  unfold Security.decodeCapabilities at h
  split at h
  · cases h
  simp only at h
  split at h
  · cases h
  split at h
  · cases h
  split at h <;> cases h

/-- The lists of two offers and a selection, as a negotiation object carries them. -/
def capabilityLists (initiator responder : NegotiationOffer) (selection : Selection) :
    CapabilityLists where
  initiator := initiator.offeredCapabilities
  initiatorRequired := initiator.requiredCapabilities
  responder := responder.offeredCapabilities
  responderRequired := responder.requiredCapabilities
  selected := selection.selectedCapabilities

/-- The canonical codec reads a list of a valid offer back. -/
theorem CanonicalCapabilities.decode (h : CanonicalCapabilities capabilities) :
    Security.decodeCapabilities (encodeCapabilities capabilities) = .ok capabilities := by
  have hlength := h.length_le
  simp only [maximumCapabilities] at hlength
  exact decodeCapabilities_encodeCapabilities_iff.mpr ⟨rfl, by omega, h.sorted, h.distinct⟩

theorem ValidOffer.decodeVersionRange {offer : NegotiationOffer} (h : ValidOffer offer) :
    Security.decodeVersionRange (encodeVersionRange offer.versions) =
      .ok (offer.versions.minimum, offer.versions.maximum) := by
  have hguard : ¬ (offer.versions.minimum.major = 0 ∨ offer.versions.maximum.major = 0 ∨
      versionLess offer.versions.maximum offer.versions.minimum = true) := by
    rintro (hmin | hmax | hordered)
    · exact h.minimum_major hmin
    · exact h.maximum_major hmax
    rw [h.ordered] at hordered
    cases hordered
  exact if_neg hguard

theorem decodeLimits_encodeLimits (limits : ReceiveLimits) :
    decodeLimits (encodeLimits limits) =
      [limits.maxBody.toNat, limits.maxInFlight.toNat, limits.maxStreams.toNat] := by
  have hbody : readU32 (encodeLimits limits) 0 = limits.maxBody.toNat :=
    @BigEndian.toNat_ofNat 4 _ limits.maxBody.toNat_lt
  have hflight : readU32 (encodeLimits limits) 4 = limits.maxInFlight.toNat :=
    @BigEndian.toNat_ofNat 4 _ limits.maxInFlight.toNat_lt
  have hstreams : readU16 (encodeLimits limits) 8 = limits.maxStreams.toNat :=
    @BigEndian.toNat_ofNat 2 _ limits.maxStreams.toNat_lt
  rw [decodeLimits, hbody, hflight, hstreams]

/-- The limits test of the validator asks for the component-wise minimum. -/
theorem decodeLimits_eq_zipWith_min_iff {limits first second : ReceiveLimits} :
    decodeLimits (encodeLimits limits) = List.zipWith min (decodeLimits (encodeLimits first))
        (decodeLimits (encodeLimits second)) ↔ limits = first.minimum second := by
  obtain ⟨body, flight, streams⟩ := limits
  simp only [decodeLimits_encodeLimits, List.zipWith_cons_cons, List.zipWith_nil_right,
    List.cons.injEq, and_true, ReceiveLimits.minimum, ReceiveLimits.mk.injEq,
    ← MachineWords.toNat_min32, ← MachineWords.toNat_min16, UInt32.toNat_inj, UInt16.toNat_inj]

/-- What the validator asks of increasing capability lists. -/
theorem checkCapabilityLists_eq_none_iff {lists : CapabilityLists}
    (hinitiator : lists.initiator.SortedLT) (hresponder : lists.responder.SortedLT)
    (hinitiatorRequired : lists.initiatorRequired.SortedLT)
    (hbase : baseTransferV1 ∈ lists.initiator ∧ baseTransferV1 ∈ lists.responder)
    (hrequired : baseTransferV1 ∈ lists.initiatorRequired) :
    checkCapabilityLists lists = .none ↔
      (∀ c ∈ lists.initiatorRequired, c ∈ lists.initiator ∧ c ∈ lists.responder) ∧
        (∀ c ∈ lists.responderRequired, c ∈ lists.initiator ∧ c ∈ lists.responder) ∧
        lists.selected = setIntersection lists.initiator lists.responder := by
  have hsorted := setIntersection_sortedLT hinitiator lists.responder
  have hmissing : ∀ required : List UInt32, (required.any fun c =>
      !binarySearch (setIntersection lists.initiator lists.responder) c) = true ↔
        ¬ ∀ c ∈ required, c ∈ lists.initiator ∧ c ∈ lists.responder := by
    intro required
    simp only [List.any_eq_true, Bool.not_eq_true', ← Bool.not_eq_true, binarySearch_iff hsorted,
      mem_setIntersection hinitiator hresponder]
    push Not
    rfl
  have hfirst := (binarySearch_iff hinitiator _).mpr hbase.1
  have hsecond := (binarySearch_iff hresponder _).mpr hbase.2
  have hthird := (binarySearch_iff hinitiatorRequired _).mpr hrequired
  unfold checkCapabilityLists
  simp only [hfirst, hsecond, hthird, Bool.and_self, Bool.true_or, Bool.true_eq_false, or_self,
    if_false, hmissing]
  rw [ite_eq_iff_of_ne (by decide), ite_eq_iff_of_ne (by decide), ite_eq_iff_of_ne (by decide)]
  simp only [not_not, ne_eq, and_true]

section ValidOffers

variable {initiator responder : NegotiationOffer} (hinitiator : ValidOffer initiator)
  (hresponder : ValidOffer responder)

include hinitiator hresponder

/-- The lists of the object are those it was built from, if the selected one can be read. -/
theorem decodeCapabilityLists_negotiationObject (selection : Selection) :
    decodeCapabilityLists (negotiationObject initiator responder selection) =
      (Security.decodeCapabilities (encodeCapabilities selection.selectedCapabilities)).map
        fun selected => { capabilityLists initiator responder selection with
          selected := selected } := by
  have hfirst : (negotiationObject initiator responder selection).field 3 =
      encodeCapabilities initiator.offeredCapabilities := rfl
  have hfirstRequired : (negotiationObject initiator responder selection).field 4 =
      encodeCapabilities initiator.requiredCapabilities := rfl
  have hsecond : (negotiationObject initiator responder selection).field 8 =
      encodeCapabilities responder.offeredCapabilities := rfl
  have hsecondRequired : (negotiationObject initiator responder selection).field 9 =
      encodeCapabilities responder.requiredCapabilities := rfl
  have hselected : (negotiationObject initiator responder selection).field 12 =
      encodeCapabilities selection.selectedCapabilities := rfl
  rw [decodeCapabilityLists, hfirst, hfirstRequired, hsecond, hsecondRequired, hselected,
    hinitiator.offered.decode, hinitiator.required.decode, hresponder.offered.decode,
    hresponder.required.decode]
  cases Security.decodeCapabilities (encodeCapabilities selection.selectedCapabilities) <;> rfl

/-- The validator accepts the selection of two valid offers and no other. -/
theorem validateNegotiationObject_eq_none_iff (selection : Selection) :
    validateNegotiationObject (negotiationObject initiator responder selection) = .none ↔
      Compatible initiator responder ∧ selection = candidate initiator responder := by
  have hroles : ¬ (((negotiationObject initiator responder selection).field 1).headD 0 ≠
      Role.initiator.code ∨ ((negotiationObject initiator responder selection).field 6).headD 0 ≠
        Role.responder.code) := by
    rintro (h | h) <;> exact h rfl
  have hfirst : (negotiationObject initiator responder selection).field 2 =
      encodeVersionRange initiator.versions := rfl
  have hsecond : (negotiationObject initiator responder selection).field 7 =
      encodeVersionRange responder.versions := rfl
  have hversion : (negotiationObject initiator responder selection).field 11 =
      encodeVersion selection.selectedVersion := rfl
  have hlimits : (negotiationObject initiator responder selection).field 5 =
      encodeLimits initiator.receiveLimits := rfl
  have hlimits' : (negotiationObject initiator responder selection).field 10 =
      encodeLimits responder.receiveLimits := rfl
  have heffective : (negotiationObject initiator responder selection).field 13 =
      encodeLimits selection.effectiveLimits := rfl
  rw [validateNegotiationObject, if_neg hroles]
  simp only [hfirst, hsecond, hversion, hlimits, hlimits', heffective,
    hinitiator.decodeVersionRange, hresponder.decodeVersionRange, versionAt_encodeVersion,
    decodeCapabilityLists_negotiationObject hinitiator hresponder]
  have hlistsIff := @checkCapabilityLists_eq_none_iff
    (capabilityLists initiator responder selection) hinitiator.offered.sorted
    hresponder.offered.sorted hinitiator.required.sorted
    ⟨hinitiator.base_offered, hresponder.base_offered⟩ hinitiator.base_required
  rw [ite_eq_iff_of_ne (by decide), ite_eq_iff_of_ne (by decide), Bool.not_eq_true, not_not]
  have hcandidate := (candidate_canonical hinitiator hresponder).decode
  cases hdecode : Security.decodeCapabilities
      (encodeCapabilities selection.selectedCapabilities) with
  | error error =>
    refine iff_of_false (fun ⟨_, _, hnone⟩ => ?_) ?_
    · have hnone : error = .none := hnone
      exact decodeCapabilities_ne_none _ (hnone ▸ hdecode)
    rintro ⟨-, rfl⟩
    cases hdecode.symm.trans hcandidate
  | ok selected =>
    obtain ⟨rfl, -⟩ := decodeCapabilities_encodeCapabilities_iff.mp hdecode
    constructor
    · rintro ⟨hcommon, hselected, hchecks⟩
      obtain ⟨hlists, heffective⟩ := SecurityError.andThen_eq_none_iff.mp hchecks
      obtain ⟨hrequired, hrequired', hcapabilities⟩ := hlistsIff.mp hlists
      have hminimum := not_not.mp ((ite_eq_iff_of_ne (by decide)).mp heffective).1
      have hlimits := decodeLimits_eq_zipWith_min_iff.mp hminimum
      exact ⟨⟨hcommon, fun c hc => (hrequired c hc).2, fun c hc => (hrequired' c hc).1⟩,
        Selection.mk.injEq .. ▸ ⟨hselected, hcapabilities, hlimits⟩⟩
    · rintro ⟨h, rfl⟩
      have hlists := hlistsIff.mpr
        ⟨fun c hc => ⟨hinitiator.required_subset c hc, h.initiator_required c hc⟩,
          fun c hc => ⟨h.responder_required c hc, hresponder.required_subset c hc⟩, rfl⟩
      refine ⟨h.versions, rfl, SecurityError.andThen_eq_none_iff.mpr ⟨hlists, ?_⟩⟩
      exact if_neg (not_not.mpr (decodeLimits_eq_zipWith_min_iff.mpr rfl))

theorem length_negotiationFields_le :
    (encodeFields (negotiationFields initiator responder (candidate initiator responder))).length ≤
      maximumCanonicalBodySize := by
  have hoffered := hinitiator.offered.length_le
  have hrequired := hinitiator.required.length_le
  have hoffered' := hresponder.offered.length_le
  have hrequired' := hresponder.required.length_le
  have hselected := (candidate_canonical hinitiator hresponder).length_le
  simp only [maximumCapabilities] at hoffered hrequired hoffered' hrequired' hselected
  simp only [negotiationFields, encodeFields_cons, encodeFields_nil, List.length_append,
    List.length_nil, List.length_cons, length_encodeField, length_encodeVersionRange,
    length_encodeCapabilities, length_encodeLimits, length_encodeVersion,
    maximumCanonicalBodySize]
  omega

/-- A negotiation can be built for the selection of two valid offers and no other. -/
theorem buildNormalizedNegotiation_ok_iff_select (prims : Primitives) (selection : Selection) :
    (∃ negotiation, buildNormalizedNegotiation prims initiator responder selection =
        .ok negotiation) ↔ select initiator responder = .ok selection := by
  simp only [buildNormalizedNegotiation_eq_ok_iff,
    validateNegotiationObject_eq_none_iff hinitiator hresponder,
    select_eq_ok_iff hinitiator hresponder]
  constructor
  · rintro ⟨negotiation, -, hselection, -⟩
    exact hselection
  rintro ⟨hcompatible, rfl⟩
  exact ⟨_, length_negotiationFields_le hinitiator hresponder, ⟨hcompatible, rfl⟩, rfl⟩

end ValidOffers

end XnnTransfer.Pairing
