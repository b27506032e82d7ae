import Mathlib.Data.List.Chain
import XnnTransfer.Library.Guards
import XnnTransfer.Security.CanonicalCodec

/-!
# Negotiation of a pairing

Offers, their validation and the selection, from `core/session/session.hpp` and
`native/src/session/wire.cpp`. `Select` computes one selection from two valid
offers: the highest common version, the common capabilities and the smaller of
each pair of limits.
-/

namespace XnnTransfer.Pairing

open Guards Protocol Security SortedRanges

inductive PairingError
  | none
  | malformed
  | limitExceeded
  | sequenceViolation
  | unsupportedVersion
  | unsupportedProfile
  | downgradeDetected
  | roleMismatch
  | stateViolation
  | replayDetected
  | confirmationFailed
  | authenticatedReject
  | localReject
  | alreadyDecided
  | cancelled
  | timeout
  | busy
  | certificateRejected
  | internalFailure
  deriving DecidableEq, Repr

structure VersionRange where
  minimum : Version := {}
  maximum : Version := {}
  deriving DecidableEq, Repr

structure ReceiveLimits where
  maxBody : UInt32 := 0
  maxInFlight : UInt32 := 0
  maxStreams : UInt16 := 0
  deriving DecidableEq, Repr

structure NegotiationOffer where
  versions : VersionRange := {}
  offeredCapabilities : List UInt32 := []
  requiredCapabilities : List UInt32 := []
  receiveLimits : ReceiveLimits := {}
  deriving DecidableEq, Repr

structure Selection where
  selectedVersion : Version := {}
  selectedCapabilities : List UInt32 := []
  effectiveLimits : ReceiveLimits := {}
  deriving DecidableEq, Repr

def resumeV1 : UInt32 := 0x00020001
def parallelFilesV1 : UInt32 := 0x00030001
def minimumReceiveBody : UInt32 := 8192
def maximumReceiveBody : UInt32 := 1048576
def minimumReceiveInFlight : UInt32 := 1048576
def maximumReceiveInFlight : UInt32 := 67108864
def maximumReceiveStreams : UInt16 := 32
def maximumCapabilities : Nat := 256

variable (capabilities : List UInt32) (offer initiator responder : NegotiationOffer)

def hasCanonicalCapabilities : Bool :=
  if capabilities = [] ∨ maximumCapabilities < capabilities.length ∨
      isSorted capabilities = false ∨ noneAdjacent capabilities = false then false
  else DistinctFeatures capabilities

def validateOffer : PairingError :=
  if offer.versions.minimum.major = 0 ∨ offer.versions.maximum.major = 0 ∨
      versionLess offer.versions.maximum offer.versions.minimum = true ∨
      hasCanonicalCapabilities offer.offeredCapabilities = false ∨
      hasCanonicalCapabilities offer.requiredCapabilities = false ∨
      includes offer.offeredCapabilities offer.requiredCapabilities = false ∨
      binarySearch offer.offeredCapabilities baseTransferV1 = false ∨
      binarySearch offer.requiredCapabilities baseTransferV1 = false ∨
      offer.receiveLimits.maxBody < minimumReceiveBody ∨
      maximumReceiveBody < offer.receiveLimits.maxBody ∨
      offer.receiveLimits.maxInFlight < minimumReceiveInFlight ∨
      maximumReceiveInFlight < offer.receiveLimits.maxInFlight ∨
      offer.receiveLimits.maxStreams = 0 ∨
      maximumReceiveStreams < offer.receiveLimits.maxStreams then .malformed
  else if offer.requiredCapabilities.any fun required =>
      required ≠ baseTransferV1 ∧ required ≠ resumeV1 ∧ required ≠ parallelFilesV1 then .malformed
  else .none

/-- The component-wise minimum of two advertisements. -/
def ReceiveLimits.minimum (first second : ReceiveLimits) : ReceiveLimits where
  maxBody := min first.maxBody second.maxBody
  maxInFlight := min first.maxInFlight second.maxInFlight
  maxStreams := min first.maxStreams second.maxStreams

/-- The selection that `Select` computes before it checks the requirements. -/
def candidate : Selection where
  selectedVersion := commonMaximum initiator.versions.maximum responder.versions.maximum
  selectedCapabilities :=
    setIntersection initiator.offeredCapabilities responder.offeredCapabilities
  effectiveLimits := initiator.receiveLimits.minimum responder.receiveLimits

def select : Except PairingError Selection :=
  if validateOffer initiator ≠ .none ∨ validateOffer responder ≠ .none then .error .malformed
  else if versionLess (commonMaximum initiator.versions.maximum responder.versions.maximum)
      (commonMinimum initiator.versions.minimum responder.versions.minimum) then
    .error .unsupportedVersion
  else
    let selected := (candidate initiator responder).selectedCapabilities
    if includes selected initiator.requiredCapabilities = false ∨
        includes selected responder.requiredCapabilities = false ∨
        binarySearch selected baseTransferV1 = false then .error .malformed
    else .ok (candidate initiator responder)

/-! ### What a valid offer is -/

/-- What `HasCanonicalCapabilities` asks for. -/
structure CanonicalCapabilities (capabilities : List UInt32) : Prop where
  nonempty : capabilities ≠ []
  length_le : capabilities.length ≤ maximumCapabilities
  sorted : capabilities.SortedLT
  distinct : DistinctFeatures capabilities

theorem hasCanonicalCapabilities_iff :
    hasCanonicalCapabilities capabilities = true ↔ CanonicalCapabilities capabilities := by
  unfold hasCanonicalCapabilities
  constructor
  · intro h
    split at h
    · cases h
    rename_i hguard
    push Not at hguard
    obtain ⟨hnonempty, hlength, hsorted, hdistinct⟩ := hguard
    refine ⟨hnonempty, hlength, ?_, by simpa using h⟩
    exact (isSorted_noneAdjacent_iff _).mp ⟨by simpa using hsorted, by simpa using hdistinct⟩
  rintro ⟨hnonempty, hlength, hsorted, hdistinct⟩
  obtain ⟨hle, hne⟩ := (isSorted_noneAdjacent_iff _).mpr hsorted
  rw [if_neg]
  · simpa using hdistinct
  rintro (h | h | h | h)
  · exact hnonempty h
  · omega
  · rw [hle] at h
    cases h
  rw [hne] at h
  cases h

theorem feature_lt {a b : UInt32} (hlt : a < b) (hne : a >>> 16 ≠ b >>> 16) :
    (a >>> 16).toNat < (b >>> 16).toNat := by
  have hle : (a >>> 16).toNat ≤ (b >>> 16).toNat := by
    rw [UInt32.toNat_shiftRight, UInt32.toNat_shiftRight, Nat.shiftRight_eq_div_pow,
      Nat.shiftRight_eq_div_pow]
    exact Nat.div_le_div_right (UInt32.lt_iff_toNat_lt.mp hlt).le
  exact lt_of_le_of_ne hle fun h => hne (UInt32.toNat_inj.mp h)

/-- In an increasing list whose neighbours advertise distinct features, all do. -/
theorem pairwise_feature_lt {capabilities : List UInt32} (hsorted : capabilities.SortedLT)
    (hdistinct : DistinctFeatures capabilities) :
    (capabilities.map fun (c : UInt32) => (c >>> 16).toNat).Pairwise (· < ·) := by
  rw [← List.isChain_iff_pairwise, List.isChain_map]
  rw [List.sortedLT_iff_isChain] at hsorted
  induction capabilities with
  | nil => exact .nil
  | cons first rest ih =>
    cases rest with
    | nil => exact .singleton first
    | cons second rest =>
      simp only [DistinctFeatures, List.isChain_cons_cons] at hsorted hdistinct ih ⊢
      exact ⟨feature_lt hsorted.1 hdistinct.1, ih hsorted.2 hdistinct.2⟩

/-- What `ValidateOffer` asks for. -/
structure ValidOffer (offer : NegotiationOffer) : Prop where
  minimum_major : offer.versions.minimum.major ≠ 0
  maximum_major : offer.versions.maximum.major ≠ 0
  ordered : versionLess offer.versions.maximum offer.versions.minimum = false
  offered : CanonicalCapabilities offer.offeredCapabilities
  required : CanonicalCapabilities offer.requiredCapabilities
  required_subset : ∀ c ∈ offer.requiredCapabilities, c ∈ offer.offeredCapabilities
  base_required : baseTransferV1 ∈ offer.requiredCapabilities
  body_bounds : minimumReceiveBody ≤ offer.receiveLimits.maxBody ∧
    offer.receiveLimits.maxBody ≤ maximumReceiveBody
  inFlight_bounds : minimumReceiveInFlight ≤ offer.receiveLimits.maxInFlight ∧
    offer.receiveLimits.maxInFlight ≤ maximumReceiveInFlight
  streams_bounds : offer.receiveLimits.maxStreams ≠ 0 ∧
    offer.receiveLimits.maxStreams ≤ maximumReceiveStreams
  known : ∀ c ∈ offer.requiredCapabilities, c = baseTransferV1 ∨ c = resumeV1 ∨ c = parallelFilesV1

theorem ValidOffer.base_offered {offer : NegotiationOffer} (h : ValidOffer offer) :
    baseTransferV1 ∈ offer.offeredCapabilities :=
  h.required_subset _ h.base_required

theorem validateOffer_eq_none_iff : validateOffer offer = .none ↔ ValidOffer offer := by
  unfold validateOffer
  rw [ite_eq_iff_of_ne (by decide), ite_eq_iff_of_ne (by decide)]
  simp only [not_or, not_lt, Bool.not_eq_false, Bool.not_eq_true, hasCanonicalCapabilities_iff,
    List.any_eq_false, decide_eq_true_eq, not_and_or, not_not, ne_eq, and_true]
  constructor
  · rintro ⟨⟨hmin, hmax, hordered, hoffered, hrequired, hincludes, -, hbase, hbody, hbody',
      hflight, hflight', hstreams, hstreams'⟩, hknown⟩
    exact ⟨hmin, hmax, hordered, hoffered, hrequired,
      (includes_iff hoffered.sorted hrequired.sorted).mp hincludes,
      (binarySearch_iff hrequired.sorted _).mp hbase, ⟨hbody, hbody'⟩, ⟨hflight, hflight'⟩,
      ⟨hstreams, hstreams'⟩, hknown⟩
  · intro h
    exact ⟨⟨h.minimum_major, h.maximum_major, h.ordered, h.offered, h.required,
      (includes_iff h.offered.sorted h.required.sorted).mpr h.required_subset,
      (binarySearch_iff h.offered.sorted _).mpr h.base_offered,
      (binarySearch_iff h.required.sorted _).mpr h.base_required,
      h.body_bounds.1, h.body_bounds.2, h.inFlight_bounds.1, h.inFlight_bounds.2,
      h.streams_bounds.1, h.streams_bounds.2⟩, h.known⟩

/-! ### What a selection is -/

/-- Two offers can be reconciled: the version ranges meet and each side's
requirements are offered by the other. -/
structure Compatible (initiator responder : NegotiationOffer) : Prop where
  versions : versionLess (commonMaximum initiator.versions.maximum responder.versions.maximum)
    (commonMinimum initiator.versions.minimum responder.versions.minimum) = false
  initiator_required : ∀ c ∈ initiator.requiredCapabilities, c ∈ responder.offeredCapabilities
  responder_required : ∀ c ∈ responder.requiredCapabilities, c ∈ initiator.offeredCapabilities

section ValidOffers

variable {initiator responder : NegotiationOffer} (hinitiator : ValidOffer initiator)
  (hresponder : ValidOffer responder)

include hinitiator hresponder

theorem mem_candidate_iff (c : UInt32) :
    c ∈ (candidate initiator responder).selectedCapabilities ↔
      c ∈ initiator.offeredCapabilities ∧ c ∈ responder.offeredCapabilities :=
  mem_setIntersection hinitiator.offered.sorted hresponder.offered.sorted c

theorem select_eq_ok_iff (selection : Selection) :
    select initiator responder = .ok selection ↔
      Compatible initiator responder ∧ selection = candidate initiator responder := by
  have hsorted : (candidate initiator responder).selectedCapabilities.SortedLT :=
    setIntersection_sortedLT hinitiator.offered.sorted _
  have hfirst := includes_iff hsorted hinitiator.required.sorted
  have hsecond := includes_iff hsorted hresponder.required.sorted
  have hbase : binarySearch (candidate initiator responder).selectedCapabilities
      baseTransferV1 = true :=
    (binarySearch_iff hsorted _).mpr ((mem_candidate_iff hinitiator hresponder _).mpr
      ⟨hinitiator.base_offered, hresponder.base_offered⟩)
  simp only [mem_candidate_iff hinitiator hresponder] at hfirst hsecond
  unfold select
  simp only [(validateOffer_eq_none_iff _).mpr hinitiator,
    (validateOffer_eq_none_iff _).mpr hresponder, ne_eq, not_true_eq_false, or_self, if_false,
    ite_error_eq_ok, Except.ok.injEq, not_or, Bool.not_eq_false, Bool.not_eq_true, hfirst,
    hsecond, hbase]
  constructor
  · rintro ⟨hversions, ⟨hrequired, hrequired', -⟩, rfl⟩
    exact ⟨⟨hversions, fun c hc => (hrequired c hc).2, fun c hc => (hrequired' c hc).1⟩, rfl⟩
  · rintro ⟨h, rfl⟩
    exact ⟨h.versions,
      ⟨fun c hc => ⟨hinitiator.required_subset c hc, h.initiator_required c hc⟩,
        fun c hc => ⟨h.responder_required c hc, hresponder.required_subset c hc⟩, trivial⟩, rfl⟩

/-- A selected capability list is again canonical. -/
theorem candidate_canonical :
    CanonicalCapabilities (candidate initiator responder).selectedCapabilities := by
  have hsublist : (candidate initiator responder).selectedCapabilities.Sublist
      initiator.offeredCapabilities := setIntersection_sublist _ _
  have hsorted := setIntersection_sortedLT hinitiator.offered.sorted responder.offeredCapabilities
  refine ⟨?_, hsublist.length_le.trans hinitiator.offered.length_le, hsorted, ?_⟩
  · intro hempty
    have hbase := (mem_candidate_iff hinitiator hresponder baseTransferV1).mpr
      ⟨hinitiator.base_offered, hresponder.base_offered⟩
    rw [hempty] at hbase
    cases hbase
  have hpairs := (pairwise_feature_lt hinitiator.offered.sorted
    hinitiator.offered.distinct).sublist (hsublist.map fun (c : UInt32) => (c >>> 16).toNat)
  rw [List.pairwise_map] at hpairs
  refine List.IsChain.imp (fun a b hlt heq => ?_) hpairs.isChain
  rw [heq] at hlt
  exact lt_irrefl _ hlt

end ValidOffers

/-! ### Symmetry -/

variable {initiator responder : NegotiationOffer}

theorem Compatible.symm (h : Compatible initiator responder) : Compatible responder initiator := by
  refine ⟨?_, h.responder_required, h.initiator_required⟩
  rw [commonMaximum_comm, commonMinimum_comm]
  exact h.versions

/-- The roles of two valid offers do not matter to the selection. -/
theorem select_comm (hinitiator : ValidOffer initiator) (hresponder : ValidOffer responder)
    (selection : Selection) :
    select initiator responder = .ok selection ↔ select responder initiator = .ok selection := by
  have hsame : candidate initiator responder = candidate responder initiator := by
    unfold candidate ReceiveLimits.minimum
    rw [commonMaximum_comm, min_comm initiator.receiveLimits.maxBody, min_comm initiator.receiveLimits.maxInFlight,
      min_comm initiator.receiveLimits.maxStreams,
      setIntersection_comm hinitiator.offered.sorted hresponder.offered.sorted]
  rw [select_eq_ok_iff hinitiator hresponder, select_eq_ok_iff hresponder hinitiator, hsame]
  exact and_congr_left fun _ => ⟨Compatible.symm, Compatible.symm⟩

/-- The least an end can offer. -/
def plainOffer : NegotiationOffer where
  versions := ⟨⟨1, 0⟩, ⟨1, 0⟩⟩
  offeredCapabilities := [baseTransferV1]
  requiredCapabilities := [baseTransferV1]
  receiveLimits := ⟨8192, 1048576, 1⟩

example : select plainOffer plainOffer = .ok (candidate plainOffer plainOffer) := by
  decide +kernel

end XnnTransfer.Pairing
